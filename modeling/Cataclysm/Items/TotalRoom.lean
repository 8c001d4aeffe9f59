import Cataclysm.Items.Placement

/-!
# Room that a search misses

A search that was asked for a slot leaves that slot out of its later passes, since it was tried
first. The passes over the other bags leave out the slot with the same number in each of them, which
was not tried. Their room is missed.

## Implementation notes

The total room is that of the backpack and of the equipped bags that may take the item, whatever the
request. The slot that was asked for may lie elsewhere; its room is then found on top.
-/

namespace Cataclysm.Items
open Greedy

section Definitions

variable (catalog : Catalog) (inv : Inventory) (item : Item) (asked : ItemPos)

/-- The room for the item in the backpack and in every equipped bag that it may go into. -/
def totalRoom : Nat :=
  ∑ pos ∈ (mainSlots catalog inv item).toFinset, roomAt catalog inv item pos

/-- In the bags that were not asked for, the slots with the number that was asked for. -/
def skippedSlots : List ItemPos :=
  (mainSlots catalog inv item).filter fun pos =>
    pos.bag ≠ inventorySlotBag0 ∧ pos.bag ≠ asked.bag ∧ pos.slot = asked.slot

def skippedRoom : Nat :=
  ∑ pos ∈ (skippedSlots catalog inv item asked).toFinset, roomAt catalog inv item pos

/-- The search gets to its passes over the other bags, and the count fits with the room that it
misses there only. -/
structure NeedsSkipped (swap : Bool) (count : Nat) : Prop where
  bag : asked.bag ≠ nullBag → asked.bag ≠ inventorySlotBag0 →
    bagTakes catalog inv item asked.bag = true
  short : reachedRoom catalog inv item asked swap < count
  enough : count ≤ totalRoom catalog inv item

end Definitions

variable {catalog : Catalog} {facts : PlayerFacts} {inv : Inventory} {item : Item} {cargo : Cargo}
  {asked pos : ItemPos} {swap : Bool} {count : Nat}

/-! ### Slots of the backpack and of the bags -/

theorem mem_slotsOfBag {bag : Nat} : pos ∈ slotsOfBag catalog inv item bag ↔
    pos.bag = bag ∧ bagTakes catalog inv item bag = true ∧
      ∃ other, inv.getBagByPos catalog bag = some other ∧ pos.slot < other.bagSize catalog := by
  rw [slotsOfBag]
  cases hbag : inv.getBagByPos catalog bag with
  | none =>
    refine iff_of_false List.not_mem_nil ?_
    rintro ⟨-, -, other, hother, -⟩
    cases hother
  | some other =>
    dsimp only
    rw [List.mem_ite_nil_right, List.mem_map]
    constructor
    · rintro ⟨htakes, slot, hslot, rfl⟩
      exact ⟨rfl, htakes, other, rfl, List.mem_range.mp hslot⟩
    · rintro ⟨rfl, htakes, other', hother', hslot⟩
      cases hother'
      exact ⟨htakes, pos.slot, List.mem_range.mpr hslot, rfl⟩

/-- No bag has a slot with the number that means none. -/
theorem slot_ne_null {bag : Nat} (h : pos ∈ slotsOfBag catalog inv item bag) :
    pos.slot ≠ nullSlot := by
  obtain ⟨-, -, other, -, hslot⟩ := mem_slotsOfBag.mp h
  have hsize : other.bagSize catalog ≤ maxBagSize := catalog.containerSlots_le other.entry
  unfold nullSlot
  unfold maxBagSize at hsize
  omega

theorem mem_mainSlots : pos ∈ mainSlots catalog inv item ↔ pos ∈ backpackSlots ∨
    ∃ bag ∈ List.range' inventorySlotBagStart (inventorySlotBagEnd - inventorySlotBagStart),
      pos ∈ slotsOfBag catalog inv item bag := by
  rw [mainSlots, List.mem_append, List.mem_flatMap]

/-- Each slot of the backpack and of the bags is reached, unless it is skipped. -/
theorem reached_or_skipped (h : pos ∈ mainSlots catalog inv item) :
    pos ∈ reachedSlots catalog inv item asked ∨ pos ∈ skippedSlots catalog inv item asked := by
  unfold reachedSlots
  simp only [List.mem_append, List.mem_ite_nil_right, List.mem_singleton]
  rcases mem_mainSlots.mp h with hbackpack | ⟨bag, hrange, hbag⟩
  · by_cases hasked : pos = asked
    · refine Or.inl (Or.inl (Or.inl (Or.inl ⟨?_, hasked⟩)))
      obtain ⟨slot, hslot, rfl⟩ := List.mem_map.mp hbackpack
      have hlt := (List.mem_range'_1.mp hslot).2
      rw [← hasked]
      refine ⟨show inventorySlotBag0 ≠ nullBag by decide, ?_⟩
      show slot ≠ nullSlot
      unfold nullSlot
      unfold inventorySlotItemStart inventorySlotItemEnd at hlt
      omega
    · exact Or.inl (Or.inl (Or.inr (mem_backpackBut.mpr ⟨hbackpack, hasked⟩)))
  · obtain ⟨hposBag, -, -⟩ := mem_slotsOfBag.mp hbag
    have hbounds := List.mem_range'_1.mp hrange
    have hown : pos.bag ≠ inventorySlotBag0 := by
      unfold inventorySlotBagStart inventorySlotBagEnd at hbounds
      unfold inventorySlotBag0
      omega
    have hnull : pos.bag ≠ nullBag := by
      unfold inventorySlotBagStart at hbounds
      unfold nullBag
      omega
    by_cases hother : bag = asked.bag
    · have hsame : pos.bag = asked.bag := hposBag.trans hother
      refine Or.inl (Or.inl (Or.inl ?_))
      by_cases hslot : pos.slot = asked.slot
      · have hasked : pos = asked := congrArg₂ ItemPos.mk hsame hslot
        exact Or.inl ⟨⟨hsame ▸ hnull, hslot ▸ slot_ne_null hbag⟩, hasked⟩
      · refine Or.inr ⟨hsame ▸ hnull, ?_⟩
        rw [askedSlots, if_neg (hsame ▸ hown), ← hother]
        exact List.mem_filter.mpr ⟨hbag, decide_eq_true hslot⟩
    · by_cases hslot : pos.slot = asked.slot
      · refine Or.inr (List.mem_filter.mpr ⟨h, decide_eq_true ?_⟩)
        exact ⟨hown, hposBag ▸ hother, hslot⟩
      · exact Or.inl (Or.inr (mem_otherBagSlots.mpr ⟨bag, hrange, hother, hbag, hslot⟩))

/-! ### How much is missed -/

theorem roomAt_le : roomAt catalog inv item pos ≤ item.maxStack catalog := by
  unfold roomAt needSpace
  cases occupant catalog inv pos item with
  | none => exact le_rfl
  | some other =>
    dsimp only
    split_ifs
    · exact Nat.sub_le _ _
    · exact Nat.zero_le _
    · exact Nat.zero_le _

/-- The slot that was asked for has at least the room that the later passes would find there. -/
theorem roomAt_le_capacity (hslot : SlotAccepted catalog inv item asked swap) :
    roomAt catalog inv item pos ≤ capacity catalog inv item asked swap pos := by
  rw [capacity]
  split_ifs with hasked
  · obtain ⟨hspecific, rfl⟩ := hasked
    obtain ⟨room, hroom⟩ := Option.isSome_iff_exists.mp (hslot hspecific)
    rw [hroom, Option.getD_some]
    unfold askedRoom at hroom
    split at hroom
    · cases hroom
    · split at hroom
      · split at hroom
        · cases hroom
          exact roomAt_le
        · cases hroom
      · next other hocc =>
          split at hroom
          · next hmerge =>
              cases hroom
              have hoccupant : occupant catalog inv pos item = some other := by
                cases swap with
                | true => cases hocc
                | false => exact hocc
              unfold roomAt needSpace
              rw [hoccupant]
              dsimp only
              rw [if_pos hmerge]
              split_ifs
              · exact le_rfl
              · exact Nat.zero_le _
          · cases hroom
  · exact le_rfl

/-- A search misses at most the room in the slots that it skips. -/
theorem totalRoom_le (hslot : SlotAccepted catalog inv item asked swap) :
    totalRoom catalog inv item ≤
      reachedRoom catalog inv item asked swap + skippedRoom catalog inv item asked := by
  have hcover : (mainSlots catalog inv item).toFinset ⊆
      (reachedSlots catalog inv item asked).toFinset ∪
        (skippedSlots catalog inv item asked).toFinset := by
    intro pos hpos
    rw [Finset.mem_union, List.mem_toFinset, List.mem_toFinset]
    exact reached_or_skipped (List.mem_toFinset.mp hpos)
  calc totalRoom catalog inv item
      ≤ ∑ pos ∈ (reachedSlots catalog inv item asked).toFinset ∪
          (skippedSlots catalog inv item asked).toFinset, roomAt catalog inv item pos :=
        Finset.sum_le_sum_of_subset hcover
    _ ≤ ∑ pos ∈ (reachedSlots catalog inv item asked).toFinset, roomAt catalog inv item pos +
          skippedRoom catalog inv item asked := Nat.le.intro Finset.sum_union_inter
    _ ≤ _ := Nat.add_le_add_right (Finset.sum_le_sum fun pos _ => roomAt_le_capacity hslot) _

/-- Without room in the slots that are skipped, the search is not misled. -/
theorem not_needsSkipped_of_noRoom (hslot : SlotAccepted catalog inv item asked swap)
    (hnone : skippedRoom catalog inv item asked = 0) :
    ¬ NeedsSkipped catalog inv item asked swap count := by
  intro hneeds
  have hle := totalRoom_le hslot
  have hshort := hneeds.short
  have henough := hneeds.enough
  omega

/-- A request for no slot skips none. -/
theorem skippedRoom_null (h : asked.slot = nullSlot) : skippedRoom catalog inv item asked = 0 := by
  have hnone : skippedSlots catalog inv item asked = [] := by
    refine List.filter_eq_nil_iff.mpr fun pos hpos hskipped => ?_
    obtain ⟨hown, -, hslot⟩ := of_decide_eq_true hskipped
    rcases mem_mainSlots.mp hpos with hbackpack | ⟨bag, -, hbag⟩
    · obtain ⟨slot, -, rfl⟩ := List.mem_map.mp hbackpack
      exact hown rfl
    · exact slot_ne_null hbag (hslot.trans h)
  rw [skippedRoom, hnone]
  rfl

/-! ### The answer of the check -/

theorem slotAccepted_of_specific {s : Search}
    (h : asked.IsSpecific → (canStoreItemInSpecificSlot catalog inv asked swap item s).1 = .ok) :
    SlotAccepted catalog inv item asked swap := by
  intro hspecific
  cases hroom : askedRoom catalog inv item asked swap with
  | some room => rfl
  | none => exact absurd (h hspecific) (isRefusal_ne_ok (specific_refuses hroom s).1)

/-- A check under the limits ends for want of room by what the search reaches. -/
theorem invFull_iff (hplain : (cargo.source inv).isBag catalog = false)
    (hlimit : (canTakeMoreOf catalog inv cargo count).1 = .ok)
    (hslot : SlotAccepted catalog inv (cargo.source inv) asked swap)
    (hpos : 0 < count) (hlt : count < 2 ^ 32) :
    (canStoreCargo catalog facts inv asked cargo count swap).result = .invFull ↔
      cargo.isBindedNotWith facts = false ∧
        (asked.bag ≠ nullBag → asked.bag ≠ inventorySlotBag0 →
          bagTakes catalog inv (cargo.source inv) asked.bag = true) ∧
        reachedRoom catalog inv (cargo.source inv) asked swap < count := by
  have hloot : cargo.lootGenerated = false := by
    by_contra hloot
    rw [Bool.not_eq_false] at hloot
    rw [canTakeMoreOf, hloot, if_pos rfl] at hlimit
    cases hlimit
  cases hbound : cargo.isBindedNotWith facts with
  | true =>
    refine iff_of_false (fun hfull => ?_) fun hall => Bool.noConfusion hall.1
    rw [canStoreCargo, hloot, hbound, if_neg Bool.false_ne_true, if_pos rfl] at hfull
    cases hfull
  | false =>
    rw [canStoreCargo_search hloot hbound fun hgo => hgo.1 hlimit]
    have hzero : (canTakeMoreOf catalog inv cargo count).2 = 0 := by
      obtain ⟨hok, -⟩ | ⟨hne, -⟩ | ⟨hne, -⟩ :=
        @canTakeMoreOf_cases catalog inv cargo count hpos hlt hloot
      · rw [hok]
      · exact absurd hlimit hne
      · exact absurd hlimit hne
    have hempty : inv.isNotEmptyBag catalog (cargo.source inv) = false := by
      rw [Inventory.isNotEmptyBag, hplain, Bool.false_and]
    rw [hzero, if_pos rfl, Nat.cast_zero, sub_zero, uint32_of_lt hlt, and_iff_right rfl]
    show (runSearch .ok .invFull (storePlan catalog inv asked (cargo.source inv) swap)
      ⟨[], count⟩).1 = .invFull ↔ _
    obtain ⟨hres, -, -, hroom⟩ | ⟨hres, -, -, hsearch, hshort⟩ | ⟨hres, hno⟩ :=
      search_result .ok .invFull catalog inv (cargo.source inv) asked swap hpos
    · rw [hres]
      refine iff_of_false InventoryResult.noConfusion fun hall => ?_
      have hspecific := specificRoom_le_reachedRoom hslot
      have hshort := hall.2
      omega
    · exact iff_of_true hres ⟨hsearch.2, hshort⟩
    · refine iff_of_false (fun hfull => ?_) fun hall => hno ⟨hslot, Or.inr ⟨hempty, hall.1⟩⟩
      rw [hfull] at hres
      exact isShortage_of_refusal hres (Or.inl rfl)

/-- For an item that is no bag and under its limits, the check ends for want of room only without
room, unless it needs the room in the slots that it skips. -/
theorem invFull_withoutRoom_iff (facts : PlayerFacts)
    (hplain : (cargo.source inv).isBag catalog = false)
    (hlimit : (canTakeMoreOf catalog inv cargo count).1 = .ok)
    (hslot : asked.IsSpecific →
      (canStoreItemInSpecificSlot catalog inv asked swap (cargo.source inv) ⟨[], count⟩).1 = .ok)
    (hpos : 0 < count) (hlt : count < 2 ^ 32) :
    ((canStoreCargo catalog facts inv asked cargo count swap).result = .invFull →
        totalRoom catalog inv (cargo.source inv) < count) ↔
      cargo.isBindedNotWith facts = true ∨
        ¬ NeedsSkipped catalog inv (cargo.source inv) asked swap count := by
  rw [invFull_iff hplain hlimit (slotAccepted_of_specific hslot) hpos hlt]
  constructor
  · intro honly
    by_cases hbound : cargo.isBindedNotWith facts = true
    · exact Or.inl hbound
    · refine Or.inr fun hneeds => ?_
      have hroom := honly ⟨Bool.eq_false_of_not_eq_true hbound, hneeds.bag, hneeds.short⟩
      exact absurd hroom (not_lt.mpr hneeds.enough)
  · rintro (hbound | hneeds) ⟨hfree, hbag, hshort⟩
    · rw [hfree] at hbound
      cases hbound
    · by_contra henough
      exact hneeds ⟨hbag, hshort, not_lt.mp henough⟩

/-- Entry 1 is a pouch of one slot. -/
def purseCatalog : Catalog where
  template entry :=
    if entry = 1 then ⟨.container, 0, .bag, 0, 1, 0, 0, 1, 0, 0, false, false⟩
    else ⟨.tradeGoods, 0, .nonEquip, 0, 20, 0, 0, 0, 0, 0, false, false⟩
  limitCategory _ := none
  containerSlots_le entry := by split <;> decide
  stackable_le entry := by split <;> decide

/-- Two pouches, of which the first is empty and the second has a stack of 15; the backpack is full
of full stacks, and a stack of 10 lies in the bank. -/
def purseInventory : Inventory where
  items := (List.range' 23 16).foldl
    (fun items slot => items.insert (.own slot) ⟨slot, 2, 20, [], false, false⟩)
    ((((OrderedMap.empty.insert (.own 19) ⟨1, 1, 1, [], false, false⟩).insert (.own 20)
      ⟨2, 1, 1, [], false, false⟩).insert (.content 2 0) ⟨3, 2, 15, [], false, false⟩).insert
        (.own 39) ⟨4, 2, 10, [], false, false⟩)
  nextGuid := 40
  mailed := []
  destroyed := []

/-- Thirty pieces for the slot with the stack of 15: the check ends for want of room, and there are
only 25 free places. -/
theorem thirtyPieces_withoutRoom :
    (canStoreCargo purseCatalog plainFacts purseInventory ⟨20, 0⟩ (.new 2) 30 false).result =
        .invFull ∧
      ((canStoreCargo purseCatalog plainFacts purseInventory ⟨20, 0⟩ (.new 2) 30 false).result =
          .invFull →
        totalRoom purseCatalog purseInventory (Cargo.source purseInventory (.new 2)) < 30) := by
  refine ⟨by decide +kernel, (invFull_withoutRoom_iff plainFacts (by decide) (by decide)
    (fun _ => by decide +kernel) (by decide) (by decide)).mpr (Or.inr fun hneeds => ?_)⟩
  have hroom : totalRoom purseCatalog purseInventory (Cargo.source purseInventory (.new 2)) =
      25 := by
    decide +kernel
  have henough := hneeds.enough
  omega

/-- The stack of 10 is moved onto the stack of 15, and the empty pouch is not looked into. -/
theorem emptyPouch_missed :
    ∃ (catalog : Catalog) (facts : PlayerFacts) (inv : Inventory) (cargo : Cargo) (asked : ItemPos)
      (count : Nat) (swap : Bool), (cargo.source inv).isBag catalog = false ∧
        (canTakeMoreOf catalog inv cargo count).1 = .ok ∧
        (asked.IsSpecific → (canStoreItemInSpecificSlot catalog inv asked swap (cargo.source inv)
          ⟨[], count⟩).1 = .ok) ∧ 0 < count ∧ count < 2 ^ 32 ∧
        (canStoreCargo catalog facts inv asked cargo count swap).result = .invFull ∧
          count ≤ totalRoom catalog inv (cargo.source inv) := by
  refine ⟨purseCatalog, plainFacts, purseInventory, .item ⟨4, 2, 10, [], false, false⟩, ⟨20, 0⟩, 10,
    false, by decide, by decide, fun _ => by decide +kernel, by decide, by decide,
    by decide +kernel, ?_⟩
  have hmain : ⟨19, 0⟩ ∈ (mainSlots purseCatalog purseInventory
      ⟨4, 2, 10, [], false, false⟩).toFinset := by decide +kernel
  calc 10 ≤ roomAt purseCatalog purseInventory ⟨4, 2, 10, [], false, false⟩ ⟨19, 0⟩ := by
        decide +kernel
    _ ≤ _ := Finset.single_le_sum (fun _ _ => Nat.zero_le _) hmain

end Cataclysm.Items
