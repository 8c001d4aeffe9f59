import Cataclysm.Items.Destruction
import Cataclysm.Items.SearchRun

/-!
# What a check for room reports

A check that succeeds has found room for exactly the count. One that fails for want of room, or for
a limit on what a player may have, has found room for the count without what it reports.

A player may have more of an item than the limit allows, for instance after the limit was lowered.
The amount that is too much is then larger than the count, and the difference wraps around: the
search looks for some four thousand million pieces, and whatever room it finds it reports as found.

## Implementation notes

Room is meant for the time of the move: the slot in which the item lies is empty then, and with a
swap so is the slot that was asked for.
-/

namespace Cataclysm.Items
open Greedy

section Definitions

variable (catalog : Catalog) (facts : PlayerFacts) (inv : Inventory)

/-- Who is in a slot when the item is moved there. -/
def occupantAtMove (item : Item) (asked : ItemPos) (swap : Bool) (pos : ItemPos) : Option Item :=
  if swap = true ∧ pos = asked then none else occupant catalog inv pos item

/-- A slot takes the count: it is empty at the move, or holds a stack of the entry with room. -/
structure Takes (item : Item) (asked : ItemPos) (swap : Bool) (pos : ItemPos) (count : Nat) :
    Prop where
  positive : 0 < count
  place : (inv.place? catalog pos).isSome
  free : occupantAtMove catalog inv item asked swap pos = none → count ≤ item.maxStack catalog
  stack : ∀ other, occupantAtMove catalog inv item asked swap pos = some other →
    other.entry = item.entry ∧ other.count + count ≤ item.maxStack catalog

/-- The want of room, and the limits on what a player may have. -/
def IsShortage (res : InventoryResult) : Prop :=
  res = .invFull ∨ res = .itemMaxCount ∨ res = .itemMaxLimitCategoryCountExceeded

/-- An answer that callers can store by. -/
structure Exact (cargo : Cargo) (asked : ItemPos) (count : Nat) (swap : Bool)
    (answer : StoreAnswer) : Prop where
  success : answer.result = .ok → (answer.dest.map Prod.fst).Nodup ∧
    (∀ found ∈ answer.dest, Takes catalog inv (cargo.source inv) asked swap found.1 found.2) ∧
      (answer.dest.map Prod.snd).sum = count
  shortage : IsShortage answer.result → ∃ noSpaceCount, answer.noSpaceCount = some noSpaceCount ∧
    noSpaceCount ≤ count ∧ (answer.dest.map Prod.snd).sum + noSpaceCount = count

/-- By how much the pieces that a player has exceed a limit; nothing when the sum with the count
does not fit into a `uint32`. -/
def excessOver (limit : Int) (curcount count : Nat) : Nat :=
  if uint32 curcount + count < 2 ^ 32 then (uint32 curcount - limit).toNat else 0

/-- By how much a player exceeds the limit for the item, or else for its category. -/
def excess (cargo : Cargo) (count : Nat) : Nat :=
  let proto := catalog.template cargo.entry
  let curcount := itemCountOf catalog inv cargo
  if proto.maxCount ≤ 0 ∧ proto.itemLimitCategory = 0 ∨ proto.maxCount = 2147483647 then 0
  else if 0 < proto.maxCount ∧ proto.maxCount < uint32 (curcount + count) then
    excessOver proto.maxCount curcount count
  else if proto.itemLimitCategory ≠ 0 then
    match catalog.limitCategory proto.itemLimitCategory with
    | none => 0
    | some limit =>
      if limit.countsHave then
        excessOver limit.maxCount (categoryCountOf catalog inv proto.itemLimitCategory cargo) count
      else 0
  else 0

/-- The search for the wrapped count goes beyond the count that was asked for. -/
def FindsTooMuch (cargo : Cargo) (asked : ItemPos) (count : Nat) (swap : Bool) : Prop :=
  SlotAccepted catalog inv (cargo.source inv) asked swap ∧
    (2 ^ 32 - excess catalog inv cargo count ≤
        specificRoom catalog inv (cargo.source inv) asked swap ∨
      Searchable catalog inv (cargo.source inv) asked ∧
        count < reachedRoom catalog inv (cargo.source inv) asked swap)

end Definitions

variable {catalog : Catalog} {facts : PlayerFacts} {inv : Inventory} {item : Item} {cargo : Cargo}
  {asked pos : ItemPos} {swap : Bool} {count : Nat}

/-! ### What is too much -/

theorem uint32_excess {limit : Int} (hlimit : 0 ≤ limit) {curcount : Nat} (hcount : count < 2 ^ 32)
    (h : limit < uint32 ((curcount : Int) + count)) :
    0 < uint32 ((count : Int) + curcount - limit) ∧
      (excessOver limit curcount count = 0 → uint32 ((count : Int) + curcount - limit) ≤ count) ∧
      (0 < excessOver limit curcount count → uint32 ((count : Int) + curcount - limit) =
        count + excessOver limit curcount count ∧
          count + excessOver limit curcount count < 2 ^ 32) := by
  unfold excessOver
  unfold uint32 at h ⊢
  split_ifs with hfits
  · refine ⟨?_, ?_, ?_⟩
    · omega
    · omega
    · omega
  · refine ⟨?_, ?_, ?_⟩
    · omega
    · omega
    · omega

/-- What the check of the limits reports as too much. -/
theorem canTakeMoreOf_cases (hpos : 0 < count) (hlt : count < 2 ^ 32)
    (hloot : cargo.lootGenerated = false) :
    canTakeMoreOf catalog inv cargo count = (.ok, 0) ∧ excess catalog inv cargo count = 0 ∨
      (canTakeMoreOf catalog inv cargo count).1 ≠ .ok ∧ excess catalog inv cargo count = 0 ∧
          0 < (canTakeMoreOf catalog inv cargo count).2 ∧
            (canTakeMoreOf catalog inv cargo count).2 ≤ count ∨
      (canTakeMoreOf catalog inv cargo count).1 ≠ .ok ∧ 0 < excess catalog inv cargo count ∧
        (canTakeMoreOf catalog inv cargo count).2 = count + excess catalog inv cargo count ∧
          count + excess catalog inv cargo count < 2 ^ 32 := by
  have hover : ∀ {limit : Int} {curcount : Nat} (res : InventoryResult), 0 ≤ limit → res ≠ .ok →
      limit < uint32 ((curcount : Int) + count) →
      (res, uint32 ((count : Int) + curcount - limit)).1 ≠ .ok ∧
          excessOver limit curcount count = 0 ∧
          0 < (res, uint32 ((count : Int) + curcount - limit)).2 ∧
            (res, uint32 ((count : Int) + curcount - limit)).2 ≤ count ∨
        (res, uint32 ((count : Int) + curcount - limit)).1 ≠ .ok ∧
          0 < excessOver limit curcount count ∧
          (res, uint32 ((count : Int) + curcount - limit)).2 =
            count + excessOver limit curcount count ∧
            count + excessOver limit curcount count < 2 ^ 32 := by
    intro limit curcount res hlimit hres hgt
    obtain ⟨hpositive, hfew, hmany⟩ := uint32_excess hlimit hlt hgt
    rcases Nat.eq_zero_or_pos (excessOver limit curcount count) with hzero | hmore
    · exact Or.inl ⟨hres, hzero, hpositive, hfew hzero⟩
    · exact Or.inr ⟨hres, hmore, hmany hmore⟩
  unfold canTakeMoreOf excess
  dsimp only
  rw [hloot, if_neg Bool.false_ne_true]
  split_ifs with hnone hcount hcategory
  · exact Or.inl ⟨rfl, rfl⟩
  · exact Or.inr (hover .itemMaxCount hcount.1.le (by decide) hcount.2)
  · cases catalog.limitCategory (catalog.template cargo.entry).itemLimitCategory with
    | none => exact Or.inr (Or.inl ⟨InventoryResult.noConfusion, rfl, hpos, le_rfl⟩)
    | some limit =>
      dsimp only
      by_cases hhave : limit.countsHave = true
      · rw [if_pos hhave]
        by_cases hgt : limit.maxCount < uint32 ((categoryCountOf catalog inv
            (catalog.template cargo.entry).itemLimitCategory cargo : Int) + count)
        · rw [if_pos ⟨hhave, hgt⟩]
          exact Or.inr (hover .itemMaxLimitCategoryCountExceeded (Int.natCast_nonneg _) (by decide)
            (Int.ofNat_lt.mpr hgt))
        · rw [if_neg fun hall => hgt hall.2]
          refine Or.inl ⟨rfl, ?_⟩
          unfold excessOver
          unfold uint32 at hgt ⊢
          split_ifs
          · omega
          · rfl
      · rw [if_neg hhave, if_neg fun hall => hhave hall.1]
        exact Or.inl ⟨rfl, rfl⟩
  · exact Or.inl ⟨rfl, rfl⟩

/-! ### Slots that take what was found -/

theorem place?_of_slotsOfBag {bag : Nat} (h : pos ∈ slotsOfBag catalog inv item bag) :
    (inv.place? catalog pos).isSome := by
  rw [slotsOfBag] at h
  split at h
  · next other hbag =>
      split at h
      · obtain ⟨slot, hslot, rfl⟩ := List.mem_map.mp h
        rw [Option.isSome_iff_exists]
        exact ⟨_, place?_eq_some.mpr (Or.inr ⟨other, hbag, List.mem_range.mp hslot, rfl⟩)⟩
      · cases h
  · cases h

theorem place?_of_backpack (h : pos ∈ backpackSlots) : (inv.place? catalog pos).isSome := by
  obtain ⟨slot, hslot, rfl⟩ := List.mem_map.mp h
  have hrange := (List.mem_range'_1.mp hslot).2
  rw [place?_own (hrange.trans (by decide))]
  rfl

/-- A slot that is reached besides the one that was asked for. -/
theorem place?_of_reached (h : pos ∈ reachedSlots catalog inv item asked)
    (hne : ¬ (asked.IsSpecific ∧ pos = asked)) :
    pos ≠ asked ∧ (inv.place? catalog pos).isSome := by
  have hbackpack : pos ∈ backpackBut asked → pos ≠ asked ∧ (inv.place? catalog pos).isSome := by
    intro hin
    obtain ⟨hslots, hother⟩ := mem_backpackBut.mp hin
    exact ⟨hother, place?_of_backpack hslots⟩
  unfold reachedSlots at h
  simp only [List.mem_append, List.mem_ite_nil_right, List.mem_singleton] at h
  rcases h with ((h | ⟨-, h⟩) | h) | h
  · exact absurd h hne
  · rw [askedSlots] at h
    split at h
    · exact hbackpack h
    · obtain ⟨hin, hslot⟩ := List.mem_filter.mp h
      refine ⟨?_, place?_of_slotsOfBag hin⟩
      rintro rfl
      exact absurd rfl (of_decide_eq_true hslot)
  · exact hbackpack h
  · obtain ⟨bag, -, -, hin, hslot⟩ := mem_otherBagSlots.mp h
    refine ⟨?_, place?_of_slotsOfBag hin⟩
    rintro rfl
    exact hslot rfl

theorem place?_of_fits (h : fitsToSlot catalog inv pos item = true) :
    (inv.place? catalog pos).isSome := by
  unfold fitsToSlot at h
  split at h
  · next hown =>
      have hpos : pos = .own pos.slot := by rw [ItemPos.own, ← hown]
      rw [hpos, place?_own]
      · rfl
      · simp only [Bool.not_eq_true', Bool.or_eq_false_iff, Bool.and_eq_false_imp,
          decide_eq_false_iff_not, decide_eq_true_eq] at h
        unfold buybackSlotStart playerSlotEnd at h
        unfold bankSlotBagEnd
        omega
  · split at h
    · cases h
    · next bag hbag =>
        rw [Bool.and_eq_true, decide_eq_true_eq] at h
        rw [Option.isSome_iff_exists]
        exact ⟨_, place?_eq_some.mpr (Or.inr ⟨bag, hbag, h.1, rfl⟩)⟩

theorem place?_of_occupant {other : Item} (h : occupant catalog inv pos item = some other) :
    (inv.place? catalog pos).isSome := by
  obtain ⟨place, hplace, -⟩ := Option.bind_eq_some_iff.mp (Option.filter_eq_some_iff.mp h).1
  rw [hplace]
  rfl

/-- A stack that may be merged with takes what it misses. -/
theorem takes_of_merge {other : Item}
    (hocc : occupantAtMove catalog inv item asked swap pos = some other)
    (hmerge : other.canBeMergedPartlyWith catalog item.entry = .ok) (hpos : 0 < count)
    (hle : count ≤ item.maxStack catalog - other.count) :
    Takes catalog inv item asked swap pos count := by
  obtain ⟨hentry, hlt⟩ := canBeMergedPartlyWith_eq_ok hmerge
  refine ⟨hpos, ?_, fun hnone => ?_, fun other' hother' => ?_⟩
  · rw [occupantAtMove] at hocc
    split at hocc
    · cases hocc
    · exact place?_of_occupant hocc
  · rw [hocc] at hnone
    cases hnone
  · rw [hocc] at hother'
    cases hother'
    have hmax : other.count < item.maxStack catalog := hlt
    exact ⟨hentry, by omega⟩

theorem takes_of_free (hocc : occupantAtMove catalog inv item asked swap pos = none)
    (hplace : (inv.place? catalog pos).isSome) (hpos : 0 < count)
    (hle : count ≤ item.maxStack catalog) : Takes catalog inv item asked swap pos count := by
  refine ⟨hpos, hplace, fun _ => hle, fun other hother => ?_⟩
  rw [hocc] at hother
  cases hother

/-- Whatever fits into the capacity of a slot that is reached can be put there. -/
theorem takes_of_capacity (hslot : SlotAccepted catalog inv item asked swap)
    (hreached : pos ∈ reachedSlots catalog inv item asked) (hpos : 0 < count)
    (hle : count ≤ capacity catalog inv item asked swap pos) :
    Takes catalog inv item asked swap pos count := by
  rw [capacity] at hle
  by_cases hasked : asked.IsSpecific ∧ pos = asked
  · obtain ⟨hspecific, rfl⟩ := hasked
    obtain ⟨room, hroom⟩ := Option.isSome_iff_exists.mp (hslot hspecific)
    rw [if_pos ⟨hspecific, rfl⟩, hroom, Option.getD_some] at hle
    have hatMove : occupantAtMove catalog inv item pos swap pos =
        if swap then none else occupant catalog inv pos item := by
      rw [occupantAtMove]
      simp only [and_true]
    unfold askedRoom at hroom
    split at hroom
    · cases hroom
    · rw [← hatMove] at hroom
      split at hroom
      · next hocc =>
          split at hroom
          · next hfits =>
              cases hroom
              exact takes_of_free hocc (place?_of_fits hfits) hpos hle
          · cases hroom
      · next other hocc =>
          split at hroom
          · next hmerge =>
              cases hroom
              exact takes_of_merge hocc hmerge hpos hle
          · cases hroom
  · rw [if_neg hasked] at hle
    obtain ⟨hne, hplace⟩ := place?_of_reached hreached hasked
    have hatMove : occupantAtMove catalog inv item asked swap pos =
        occupant catalog inv pos item := if_neg fun hswap => hne hswap.2
    unfold roomAt needSpace at hle
    cases hocc : occupant catalog inv pos item with
    | none =>
      rw [hocc] at hle
      exact takes_of_free (hatMove.trans hocc) hplace hpos hle
    | some other =>
      rw [hocc] at hle
      dsimp only at hle
      split at hle
      · split at hle
        · next hmerge => exact takes_of_merge (hatMove.trans hocc) hmerge hpos hle
        · exact absurd hle (Nat.not_le.mpr hpos)
      · exact absurd hle (Nat.not_le.mpr hpos)

/-! ### The answers -/

theorem canStoreCargo_of_bound (h : cargo.lootGenerated = true ∨
    cargo.isBindedNotWith facts = true) :
    Exact catalog inv cargo asked count swap
      (canStoreCargo catalog facts inv asked cargo count swap) := by
  rw [canStoreCargo]
  split_ifs with hloot hbound
  · exact ⟨InventoryResult.noConfusion, fun hshort => by simp [IsShortage] at hshort⟩
  · exact ⟨InventoryResult.noConfusion, fun hshort => by simp [IsShortage] at hshort⟩
  · exact absurd h (not_or.mpr ⟨hloot, hbound⟩)

/-- An answer before the search reports the whole count. -/
theorem exact_refused {res : InventoryResult} (hres : res ≠ .ok) :
    Exact catalog inv cargo asked count swap ⟨res, [], some count⟩ :=
  ⟨fun hok => absurd hok hres, fun _ => ⟨count, rfl, le_rfl, Nat.zero_add count⟩⟩

/-- What a search reports. -/
def searchAnswer (found : InventoryResult × Search) (noSimilarCount : Nat) : StoreAnswer :=
  ⟨found.1, found.2.dest, if found.1 = .ok ∨ found.1 = .bagInBag then none
    else some (uint32 (found.2.count + noSimilarCount))⟩

theorem canStoreCargo_search (hloot : cargo.lootGenerated = false)
    (hbound : cargo.isBindedNotWith facts = false)
    (hgo : ¬ ((canTakeMoreOf catalog inv cargo count).1 ≠ .ok ∧
      count = (canTakeMoreOf catalog inv cargo count).2)) :
    canStoreCargo catalog facts inv asked cargo count swap =
      searchAnswer (runSearch (if (canTakeMoreOf catalog inv cargo count).2 = 0 then .ok
          else .itemMaxCount) .invFull (storePlan catalog inv asked (cargo.source inv) swap)
          ⟨[], uint32 ((count : Int) - (canTakeMoreOf catalog inv cargo count).2)⟩)
        (canTakeMoreOf catalog inv cargo count).2 := by
  rw [canStoreCargo, hloot, hbound, if_neg Bool.false_ne_true, if_neg Bool.false_ne_true]
  dsimp only
  rw [if_neg hgo]
  rfl

theorem isShortage_of_refusal {res : InventoryResult} (h : IsRefusal res) : ¬ IsShortage res := by
  rintro (rfl | rfl | rfl)
  · exact absurd h (by unfold IsRefusal; decide)
  · exact absurd h (by unfold IsRefusal; decide)
  · exact absurd h (by unfold IsRefusal; decide)

variable {done : InventoryResult} {noSimilarCount start : Nat}

/-- A search for no more than the count leaves a sum that adds up. -/
theorem exact_of_le (hdone : done = if noSimilarCount = 0 then .ok else .itemMaxCount)
    (hstart : 0 < start) (hsum : start + noSimilarCount = count) (hlt : count < 2 ^ 32) :
    Exact catalog inv cargo asked count swap
      (searchAnswer (runSearch done .invFull
        (storePlan catalog inv asked (cargo.source inv) swap) ⟨[], start⟩) noSimilarCount) := by
  obtain ⟨slots, hslots, hsound⟩ := @search_sound catalog inv (cargo.source inv) asked swap done
    .invFull start hstart
  have hbalance := hsound.sum
  have hresult := search_result done .invFull catalog inv (cargo.source inv) asked swap hstart
  constructor
  · intro hok
    have hdoneOk := runSearch_done storePlan_noOkRefusal (by decide) hok
    rcases hresult with ⟨-, hzero, -⟩ | ⟨hfull, -⟩ | ⟨hrefusal, -⟩
    · refine ⟨hsound.distinct, fun found hfound => ?_, ?_⟩
      · obtain ⟨hin, hpos, hle⟩ := hsound.share found hfound
        obtain ⟨hslot, hreached⟩ := hslots found.1 hin
        exact takes_of_capacity hslot hreached hpos hle
      · have hnone : noSimilarCount = 0 := by
          by_contra hne
          rw [hdone, if_neg hne] at hdoneOk
          cases hdoneOk
        have hleft : (runSearch done .invFull
            (storePlan catalog inv asked (cargo.source inv) swap) ⟨[], start⟩).2.filling.left = 0 :=
          hzero
        rw [hleft, Nat.add_zero] at hbalance
        exact hbalance.trans (by omega)
    · rw [searchAnswer, hfull] at hok
      cases hok
    · exact absurd hok (isRefusal_ne_ok hrefusal)
  · intro hshort
    have hcount : (runSearch done .invFull
        (storePlan catalog inv asked (cargo.source inv) swap) ⟨[], start⟩).2.count ≤ start :=
      (Nat.le_add_left _ _).trans hbalance.le
    refine ⟨_, if_neg ?_, ?_, ?_⟩
    · rintro (hok | hbag)
      · rw [searchAnswer, IsShortage, hok] at hshort
        simp at hshort
      · rw [searchAnswer, IsShortage, hbag] at hshort
        simp at hshort
    · rw [← Nat.cast_add, uint32_of_lt (by omega)]
      omega
    · rw [← Nat.cast_add, uint32_of_lt (by omega)]
      show ((runSearch done .invFull (storePlan catalog inv asked (cargo.source inv) swap)
        ⟨[], start⟩).2.filling.shares.map Prod.snd).sum + _ = count
      have hleft : (runSearch done .invFull (storePlan catalog inv asked (cargo.source inv) swap)
        ⟨[], start⟩).2.filling.left = (runSearch done .invFull
          (storePlan catalog inv asked (cargo.source inv) swap) ⟨[], start⟩).2.count := rfl
      omega

/-- A search for more than the count, by a difference that wrapped around. -/
theorem exact_of_gt_iff (hgt : count < noSimilarCount) (hlt : noSimilarCount < 2 ^ 32)
    (hsum : start + noSimilarCount = 2 ^ 32 + count) :
    Exact catalog inv cargo asked count swap
        (searchAnswer (runSearch .itemMaxCount .invFull
          (storePlan catalog inv asked (cargo.source inv) swap) ⟨[], start⟩) noSimilarCount) ↔
      ¬ (SlotAccepted catalog inv (cargo.source inv) asked swap ∧
        (start ≤ specificRoom catalog inv (cargo.source inv) asked swap ∨
          Searchable catalog inv (cargo.source inv) asked ∧
            count < reachedRoom catalog inv (cargo.source inv) asked swap)) := by
  have hstart : 0 < start := by omega
  obtain ⟨slots, -, hsound⟩ := @search_sound catalog inv (cargo.source inv) asked swap
    .itemMaxCount .invFull start hstart
  have hbalance := hsound.sum
  obtain ⟨hres, hzero, hslot, hroom⟩ | ⟨hres, hleft, hslot, hsearch, hshort⟩ | ⟨hres, hno⟩ :=
    search_result .itemMaxCount .invFull catalog inv (cargo.source inv) asked swap hstart
  · refine iff_of_false (fun hexact => ?_) fun hno => hno ⟨hslot, hroom.imp_right ?_⟩
    · obtain ⟨noSpaceCount, hnoSpace, hle, -⟩ := hexact.shortage (Or.inr (Or.inl hres))
      rw [searchAnswer, hres, hzero, if_neg (by decide), ← Nat.cast_add, Nat.zero_add,
        uint32_of_lt hlt, Option.some.injEq] at hnoSpace
      omega
    · exact fun hall => ⟨hall.1, by omega⟩
  · have hspecific := specificRoom_le_reachedRoom hslot
    have hfound : ((searchAnswer (runSearch .itemMaxCount .invFull
        (storePlan catalog inv asked (cargo.source inv) swap) ⟨[], start⟩)
          noSimilarCount).dest.map Prod.snd).sum =
        reachedRoom catalog inv (cargo.source inv) asked swap := by
      have hcount : (runSearch .itemMaxCount .invFull (storePlan catalog inv asked
          (cargo.source inv) swap) ⟨[], start⟩).2.filling.left =
          start - reachedRoom catalog inv (cargo.source inv) asked swap := hleft
      have hdest : (searchAnswer (runSearch .itemMaxCount .invFull
          (storePlan catalog inv asked (cargo.source inv) swap) ⟨[], start⟩) noSimilarCount).dest =
          (runSearch .itemMaxCount .invFull (storePlan catalog inv asked
            (cargo.source inv) swap) ⟨[], start⟩).2.filling.shares := rfl
      rw [hdest]
      omega
    have hreported : (searchAnswer (runSearch .itemMaxCount .invFull
        (storePlan catalog inv asked (cargo.source inv) swap) ⟨[], start⟩)
          noSimilarCount).noSpaceCount =
        some (uint32 ((start - reachedRoom catalog inv (cargo.source inv) asked swap : Nat) +
          (noSimilarCount : Int))) := by
      rw [searchAnswer, hres, if_neg (by decide), hleft]
    constructor
    · rintro hexact ⟨-, hfits | ⟨-, hmuch⟩⟩
      · omega
      · obtain ⟨noSpaceCount, hnoSpace, hle, -⟩ := hexact.shortage (Or.inl hres)
        rw [hreported, Option.some.injEq] at hnoSpace
        unfold uint32 at hnoSpace
        omega
    · intro hno
      have hfew : reachedRoom catalog inv (cargo.source inv) asked swap ≤ count :=
        not_lt.mp fun hmuch => hno ⟨hslot, Or.inr ⟨hsearch, hmuch⟩⟩
      have hcount : uint32 ((start - reachedRoom catalog inv (cargo.source inv) asked swap : Nat) +
          (noSimilarCount : Int)) =
          count - reachedRoom catalog inv (cargo.source inv) asked swap := by
        unfold uint32
        omega
      refine ⟨fun hok => ?_, fun _ => ⟨_, hreported, ?_, ?_⟩⟩
      · exact absurd (hok.symm.trans hres) (by decide)
      · omega
      · omega
  · refine iff_of_true ⟨fun hok => absurd hok (isRefusal_ne_ok hres), fun hshort =>
      absurd hshort (isShortage_of_refusal hres)⟩ fun hmuch => hno ⟨hmuch.1, ?_⟩
    exact hmuch.2.imp_right And.left

/-- A check is exact, unless the player already exceeds a limit for the item, the slot that is asked
for is accepted, and the search that then starts with a count that wrapped around finds more room
than was asked for. -/
theorem exact_canStoreCargo_iff (facts : PlayerFacts) (hpos : 0 < count) (hlt : count < 2 ^ 32) :
    Exact catalog inv cargo asked count swap
        (canStoreCargo catalog facts inv asked cargo count swap) ↔
      cargo.lootGenerated = true ∨ cargo.isBindedNotWith facts = true ∨
        excess catalog inv cargo count = 0 ∨ ¬ FindsTooMuch catalog inv cargo asked count swap := by
  by_cases hloot : cargo.lootGenerated = true
  · exact iff_of_true (canStoreCargo_of_bound (Or.inl hloot)) (Or.inl hloot)
  · by_cases hbound : cargo.isBindedNotWith facts = true
    · exact iff_of_true (canStoreCargo_of_bound (Or.inr hbound)) (Or.inr (Or.inl hbound))
    · rw [or_iff_right hloot, or_iff_right hbound]
      rw [Bool.not_eq_true] at hloot hbound
      by_cases hgo : (canTakeMoreOf catalog inv cargo count).1 ≠ .ok ∧
          count = (canTakeMoreOf catalog inv cargo count).2
      · obtain ⟨hok, -⟩ | ⟨-, hexcess, -⟩ | ⟨-, hexcess, hmany, -⟩ :=
          @canTakeMoreOf_cases catalog inv cargo count hpos hlt hloot
        · exact absurd (congrArg Prod.fst hok) hgo.1
        · refine iff_of_true ?_ (Or.inl hexcess)
          rw [canStoreCargo, hloot, hbound, if_neg Bool.false_ne_true, if_neg Bool.false_ne_true]
          dsimp only
          rw [if_pos hgo, ← hgo.2]
          exact exact_refused hgo.1
        · omega
      · rw [canStoreCargo_search hloot hbound hgo]
        obtain ⟨hok, hexcess⟩ | ⟨hne, hexcess, hsome, hle⟩ | ⟨-, hexcess, hmany, hsmall⟩ :=
          @canTakeMoreOf_cases catalog inv cargo count hpos hlt hloot
        · refine iff_of_true ?_ (Or.inl hexcess)
          rw [hok, if_pos rfl, Nat.cast_zero, sub_zero, uint32_of_lt hlt]
          exact exact_of_le rfl hpos (Nat.add_zero count) hlt
        · refine iff_of_true ?_ (Or.inl hexcess)
          have hless : (canTakeMoreOf catalog inv cargo count).2 < count :=
            lt_of_le_of_ne hle fun heq => hgo ⟨hne, heq.symm⟩
          rw [← Nat.cast_sub hle, uint32_of_lt (by omega)]
          exact exact_of_le rfl (by omega) (Nat.sub_add_cancel hle) hlt
        · rw [or_iff_right hexcess.ne', hmany, if_neg (by omega)]
          have hstart : uint32 ((count : Int) - (count + excess catalog inv cargo count : Nat)) =
              2 ^ 32 - excess catalog inv cargo count := by
            unfold uint32
            omega
          rw [hstart]
          exact exact_of_gt_iff (by omega) hsmall (by omega)

/-- Entry 3 is a gem of which a player may have one, the other entries are hats with a socket. -/
def gemCatalog : Catalog where
  template entry :=
    if entry = 3 then ⟨.gem, 0, .nonEquip, 1, 1, 0, 0, 0, 7, 0, false, false⟩
    else ⟨.armor, 0, .head, 0, 1, 0, 0, 0, 0, 2, false, false⟩
  limitCategory _ := none
  containerSlots_le entry := by split <;> decide
  stackable_le entry := by split <;> decide

/-- A hat that is worn, without a gem. -/
def hatInventory : Inventory where
  items := OrderedMap.empty.insert (.own 0) ⟨1, 4, 1, [], false, false⟩
  nextGuid := 2
  mailed := []
  destroyed := []

/-- Of three gems two are too many. -/
theorem threeGems_exact :
    Exact gemCatalog hatInventory (.new 3) ⟨nullBag, nullSlot⟩ 3 false
      (canStoreCargo gemCatalog plainFacts hatInventory ⟨nullBag, nullSlot⟩ (.new 3) 3 false) :=
  (exact_canStoreCargo_iff plainFacts (by decide) (by decide)).mpr
    (Or.inr (Or.inr (Or.inl (by decide +kernel))))

/-- A hat that is worn and one in the backpack, with the gem in each. -/
def gemInventory : Inventory where
  items := (OrderedMap.empty.insert (.own 0) ⟨1, 4, 1, [3], false, false⟩).insert (.own 23)
    ⟨2, 5, 1, [3], false, false⟩
  nextGuid := 4
  mailed := []
  destroyed := []

/-- A check of one more gem reports that there is no room for four thousand million. -/
theorem moreThanAsked_reported :
    ∃ (catalog : Catalog) (facts : PlayerFacts) (inv : Inventory) (cargo : Cargo) (asked : ItemPos)
      (count : Nat) (swap : Bool), 0 < count ∧ count < 2 ^ 32 ∧
        ¬ Exact catalog inv cargo asked count swap
          (canStoreCargo catalog facts inv asked cargo count swap) := by
  refine ⟨gemCatalog, plainFacts, gemInventory, .item ⟨3, 3, 1, [], false, false⟩,
    ⟨nullBag, nullSlot⟩, 1, false, by decide, by decide, fun hexact => ?_⟩
  have hfull : (canStoreCargo gemCatalog plainFacts gemInventory ⟨nullBag, nullSlot⟩
      (.item ⟨3, 3, 1, [], false, false⟩) 1 false).result = .invFull := by
    decide +kernel
  have hreported : (canStoreCargo gemCatalog plainFacts gemInventory ⟨nullBag, nullSlot⟩
      (.item ⟨3, 3, 1, [], false, false⟩) 1 false).noSpaceCount = some 4294967282 := by
    decide +kernel
  obtain ⟨noSpaceCount, hsome, hle, -⟩ := hexact.shortage (Or.inl hfull)
  rw [hreported, Option.some.injEq] at hsome
  omega

end Cataclysm.Items
