import Cataclysm.Items.Storage

/-!
# What a search promises

A search that succeeds has found distinct positions with room for the whole item. Every stage
keeps this of what was found so far, and with it the sum of what was found and what is left.

## Implementation notes

Room is meant for the item to be moved: the slot in which it lies counts as free, and a bag is no
place for itself. A search with `swap` finds exactly the slot that was asked for.
-/

namespace Cataclysm.Items

variable {catalog : Catalog} {facts : PlayerFacts} {inv : Inventory} {item : Item}

/-! ### Slots and places -/

variable {slot : Nat} {pos : ItemPos}

theorem place?_own (h : slot < bankSlotBagEnd) :
    inv.place? catalog (.own slot) = some (.own slot) := by
  rw [Inventory.place?, if_pos ⟨rfl, h⟩]
  rfl

theorem isBagSlot_lt (h : isBagSlot slot = true) : slot < bankSlotBagEnd := by
  unfold isBagSlot at h
  simp only [Bool.or_eq_true, Bool.and_eq_true, decide_eq_true_eq] at h
  unfold inventorySlotBagStart inventorySlotBagEnd bankSlotBagStart bankSlotBagEnd at h
  unfold bankSlotBagEnd
  omega

theorem getBagByPos_eq_some {bag : Item} :
    inv.getBagByPos catalog slot = some bag ↔
      isBagSlot slot = true ∧ inv.items.find? (.own slot) = some bag ∧ bag.isBag catalog = true := by
  rw [Inventory.getBagByPos]
  split
  · next h => simp [h, Option.filter_eq_some_iff]
  · next h => simp [h]

/-- An address denotes one of the own slots, or a slot of a bag in a bag slot. -/
theorem place?_eq_some {place : Place} :
    inv.place? catalog pos = some place ↔
      pos.bag = inventorySlotBag0 ∧ pos.slot < bankSlotBagEnd ∧ place = .own pos.slot ∨
        ∃ bag, inv.getBagByPos catalog pos.bag = some bag ∧ pos.slot < bag.bagSize catalog ∧
          place = .content bag.guid pos.slot := by
  rw [Inventory.place?]
  split
  · next hown =>
      constructor
      · intro h
        cases h
        exact Or.inl ⟨hown.1, hown.2, rfl⟩
      · rintro (⟨-, -, rfl⟩ | ⟨bag, hbag, -, -⟩)
        · rfl
        · have hlt := isBagSlot_lt (getBagByPos_eq_some.mp hbag).1
          rw [hown.1] at hlt
          exact absurd hlt (by decide)
  · next hown =>
      constructor
      · intro h
        split at h
        · next bag hbag =>
            split at h
            · next hslot =>
                cases h
                exact Or.inr ⟨bag, hbag, hslot, rfl⟩
            · cases h
        · cases h
      · rintro (⟨hbag, hslot, -⟩ | ⟨bag, hbag, hslot, rfl⟩)
        · exact absurd ⟨hbag, hslot⟩ hown
        · rw [hbag]
          exact if_pos hslot

/-- The address denotes a place that is not inside the item. -/
def PlaceFor (catalog : Catalog) (inv : Inventory) (item : Item) (pos : ItemPos) : Prop :=
  ∃ place, inv.place? catalog pos = some place ∧ ∀ slot, place ≠ .content item.guid slot

theorem placeFor_own (h : slot < bankSlotBagEnd) : PlaceFor catalog inv item (.own slot) := by
  refine ⟨.own slot, place?_own h, ?_⟩
  intro slot' heq
  cases heq

theorem placeFor_content {bag : Item} (hbag : inv.getBagByPos catalog pos.bag = some bag)
    (hslot : pos.slot < bag.bagSize catalog) (hne : bag.guid ≠ item.guid) :
    PlaceFor catalog inv item pos := by
  refine ⟨.content bag.guid pos.slot, ?_, ?_⟩
  · exact place?_eq_some.mpr (Or.inr ⟨bag, hbag, hslot, rfl⟩)
  · intro slot heq
    injection heq with hguid _
    exact hne hguid

/-! ### Room -/

/-- A slot takes the count: it is free, or a stack of the same item with room. -/
structure Room (catalog : Catalog) (inv : Inventory) (item : Item) (pos : ItemPos) (count : Nat) :
    Prop where
  positive : 0 < count
  place : PlaceFor catalog inv item pos
  free : occupant catalog inv pos item = none → count ≤ item.maxStack catalog
  stack : ∀ other, occupant catalog inv pos item = some other →
    other.entry = item.entry ∧ other.count + count ≤ item.maxStack catalog

/-- The positions that a search found for the item. -/
structure Chosen (catalog : Catalog) (inv : Inventory) (item : Item)
    (dest : List (ItemPos × Nat)) : Prop where
  distinct : (dest.map Prod.fst).Nodup
  room : ∀ found ∈ dest, Room catalog inv item found.1 found.2

/-- A state of the search for a place for `total` pieces. -/
structure Search.Within (s : Search) (catalog : Catalog) (inv : Inventory) (item : Item)
    (total : Nat) : Prop where
  chosen : Chosen catalog inv item s.dest
  sum : (s.dest.map Prod.snd).sum + s.count = total

variable {total : Nat}

variable {s : Search} {merge : Bool}

theorem Search.Within.push (h : s.Within catalog inv item total) {space : Nat}
    (hcount : 0 < s.count) (hspace : 0 < space)
    (hroom : ∀ count, 0 < count → count ≤ space → Room catalog inv item pos count) :
    (s.push pos space).Within catalog inv item total := by
  rw [Search.push]
  split
  · exact h
  · next hnew =>
      have hmin : 0 < min space s.count := lt_min hspace hcount
      refine ⟨⟨?_, ?_⟩, ?_⟩
      · rw [List.map_append, List.map_singleton, List.nodup_append]
        refine ⟨h.chosen.distinct, List.nodup_singleton pos, ?_⟩
        intro pos' hpos' other hother heq
        rw [List.mem_singleton.mp hother] at heq
        subst heq
        obtain ⟨found, hfound, heq⟩ := List.mem_map.mp hpos'
        refine hnew (List.any_eq_true.mpr ⟨found, hfound, ?_⟩)
        exact decide_eq_true heq
      · intro found hfound
        obtain hold | hnew := List.mem_append.mp hfound
        · exact h.chosen.room found hold
        · rw [List.mem_singleton.mp hnew]
          exact hroom _ hmin (min_le_left _ _)
      · have hsum := h.sum
        have hle : min space s.count ≤ s.count := min_le_right _ _
        simp only [List.map_append, List.map_singleton, List.sum_append, List.sum_singleton]
        omega

theorem canBeMergedPartlyWith_eq_ok {other : Item} {entry : Nat}
    (h : other.canBeMergedPartlyWith catalog entry = .ok) :
    other.entry = entry ∧ other.count < (catalog.template entry).getMaxStackSize := by
  unfold Item.canBeMergedPartlyWith at h
  split at h
  · cases h
  · split at h
    · cases h
    · next hentry =>
        split at h
        · cases h
        · next hcount => exact ⟨not_not.mp hentry, Nat.lt_of_not_le hcount⟩

/-- A stack that can be merged with has room for what is missing. -/
theorem room_stack {other : Item} (hplace : PlaceFor catalog inv item pos)
    (hocc : occupant catalog inv pos item = some other)
    (hmerge : other.canBeMergedPartlyWith catalog item.entry = .ok) :
    0 < item.maxStack catalog - other.count ∧
      ∀ count, 0 < count → count ≤ item.maxStack catalog - other.count →
        Room catalog inv item pos count := by
  obtain ⟨hentry, hlt⟩ := canBeMergedPartlyWith_eq_ok hmerge
  have hmax : other.count < item.maxStack catalog := hlt
  refine ⟨by omega, ?_⟩
  intro count hpos hle
  refine ⟨hpos, hplace, ?_, ?_⟩
  · intro hnone
    rw [hocc] at hnone
    cases hnone
  · intro other' hother'
    rw [hocc] at hother'
    cases hother'
    exact ⟨hentry, by omega⟩

theorem room_free (hplace : PlaceFor catalog inv item pos)
    (hocc : occupant catalog inv pos item = none) :
    ∀ count, 0 < count → count ≤ item.maxStack catalog → Room catalog inv item pos count := by
  intro count hpos hle
  refine ⟨hpos, hplace, fun _ => hle, ?_⟩
  intro other hother
  rw [hocc] at hother
  cases hother

theorem needSpace_room {space : Nat} (hplace : PlaceFor catalog inv item pos)
    (h : needSpace catalog inv item merge pos = some space) :
    0 < space ∧ ∀ count, 0 < count → count ≤ space → Room catalog inv item pos count := by
  unfold needSpace at h
  split at h
  · next hocc =>
      cases h
      exact ⟨ItemTemplate.getMaxStackSize_pos _, room_free hplace hocc⟩
  · next other hocc =>
      split at h
      · next hmerge =>
          cases h
          exact room_stack hplace hocc hmerge
      · cases h
  · cases h

theorem Search.Within.fill {positions : List ItemPos} (h : s.Within catalog inv item total)
    (hcount : 0 < s.count) (hplaces : ∀ pos ∈ positions, PlaceFor catalog inv item pos) :
    (Items.fill catalog inv item merge positions s).Within catalog inv item total := by
  induction positions generalizing s with
  | nil => exact h
  | cons pos rest ih =>
    have hrest : ∀ pos ∈ rest, PlaceFor catalog inv item pos :=
      fun pos' hpos' => hplaces pos' (List.mem_cons_of_mem pos hpos')
    rw [Items.fill]
    split
    · exact ih h hcount hrest
    · next space hspace =>
        split
        · exact ih h hcount hrest
        · obtain ⟨hpos, hroom⟩ := needSpace_room (hplaces pos List.mem_cons_self) hspace
          have hpush := h.push hcount hpos hroom
          split
          · exact hpush
          · next hleft => exact ih hpush (Nat.pos_of_ne_zero hleft) hrest

/-! ### Stages -/

/-- The stage keeps what was found sound. -/
def StageWithin (catalog : Catalog) (inv : Inventory) (item : Item) (stage : Stage) : Prop :=
  ∀ total s, 0 < s.count → s.Within catalog inv item total →
    (stage s).2.Within catalog inv item total

theorem stageWithin_inInventorySlots {slotBegin slotEnd : Nat} (hend : slotEnd ≤ bankSlotBagEnd)
    (merge : Bool) (skip : ItemPos) :
    StageWithin catalog inv item
      (canStoreItemInInventorySlots catalog inv slotBegin slotEnd merge item skip) := by
  intro total s hcount h
  unfold canStoreItemInInventorySlots
  split
  · exact h
  · refine h.fill hcount ?_
    intro pos hpos
    obtain ⟨slot, hslot, rfl⟩ := List.mem_map.mp hpos
    have hrange := List.mem_range'_1.mp (List.mem_of_mem_filter hslot)
    exact placeFor_own (by omega)

theorem stageWithin_inBag (bag : Nat) (merge nonSpecialized : Bool) (skip : ItemPos) :
    StageWithin catalog inv item
      (canStoreItemInBag catalog inv bag merge nonSpecialized item skip) := by
  intro total s hcount h
  unfold canStoreItemInBag
  split
  · exact h
  · split
    · exact h
    · next bagItem hbag =>
        dsimp only
        split
        · exact h
        · next hne =>
            split
            · exact h
            · split
              · exact h
              · split
                · exact h
                · refine h.fill hcount ?_
                  intro pos hpos
                  obtain ⟨slot, hslot, rfl⟩ := List.mem_map.mp hpos
                  have hrange := List.mem_range.mp (List.mem_of_mem_filter hslot)
                  exact placeFor_content hbag hrange hne

/-- A refusal of the search in a bag comes before anything is found. -/
theorem inBag_of_ne_ok {bag : Nat} {nonSpecialized : Bool} {skip : ItemPos}
    (h : (canStoreItemInBag catalog inv bag merge nonSpecialized item skip s).1 ≠ .ok) :
    (canStoreItemInBag catalog inv bag merge nonSpecialized item skip s).2 = s := by
  unfold canStoreItemInBag at h ⊢
  split
  · rfl
  · next hskip =>
      rw [if_neg hskip] at h
      split
      · rfl
      · next bagItem hbag =>
          rw [hbag] at h
          dsimp only at h ⊢
          split
          · rfl
          · next hne =>
              rw [if_neg hne] at h
              split
              · rfl
              · next hempty =>
                  rw [if_neg hempty] at h
                  split
                  · rfl
                  · next hspecial =>
                      rw [if_neg hspecial] at h
                      split
                      · rfl
                      · next hfits =>
                          rw [if_neg hfits] at h
                          exact absurd rfl h

theorem stageWithin_askedFor {slotBegin slotEnd : Nat} (hend : slotEnd ≤ bankSlotBagEnd)
    (merge : Bool) (pos : ItemPos) :
    StageWithin catalog inv item
      (inBagAskedFor catalog inv slotBegin slotEnd merge item pos) := by
  intro total s hcount h
  unfold inBagAskedFor
  split
  · exact stageWithin_inInventorySlots hend merge pos total s hcount h
  · unfold canStoreItemInThisBag
    have hfirst := stageWithin_inBag pos.bag merge false ⟨nullBag, pos.slot⟩ total s hcount h
    split
    · next s' hok =>
        rw [hok] at hfirst
        exact hfirst
    · next res s' hres hne =>
        have hsame := inBag_of_ne_ok (fun hok => hres ((congrArg Prod.fst hne).symm.trans hok))
        have heq : s' = s := (congrArg Prod.snd hne).symm.trans hsame
        rw [heq]
        exact stageWithin_inBag pos.bag merge true ⟨nullBag, pos.slot⟩ total s hcount h

/-- The address is not a slot of the item itself. -/
def NotInside (catalog : Catalog) (inv : Inventory) (item : Item) (pos : ItemPos) : Prop :=
  ∀ bag, inv.getBagByPos catalog pos.bag = some bag → bag.guid ≠ item.guid

theorem placeFor_of_fits (hinside : NotInside catalog inv item pos)
    (h : fitsToSlot catalog inv pos item = true) : PlaceFor catalog inv item pos := by
  unfold fitsToSlot at h
  split at h
  · next hzero =>
      have hpos : pos = .own pos.slot := by
        rw [ItemPos.own, ← hzero]
      rw [hpos]
      refine placeFor_own ?_
      simp only [Bool.not_eq_true', Bool.or_eq_false_iff, Bool.and_eq_false_imp,
        decide_eq_false_iff_not, decide_eq_true_eq] at h
      unfold buybackSlotStart playerSlotEnd at h
      unfold bankSlotBagEnd
      omega
  · split at h
    · cases h
    · next bag hbag =>
        rw [Bool.and_eq_true, decide_eq_true_eq] at h
        exact placeFor_content hbag h.1 (hinside bag hbag)

/-- What the stage for a specific slot does when it accepts the slot. -/
theorem specific_ok {swap : Bool}
    (h : (canStoreItemInSpecificSlot catalog inv pos swap item s).1 = .ok) :
    (inv.isNotEmptyBag catalog item = true → pos.isBagPos = true) ∧
      ((swap = true ∨ occupant catalog inv pos item = none) ∧
          fitsToSlot catalog inv pos item = true ∧
          (canStoreItemInSpecificSlot catalog inv pos swap item s).2 =
            s.push pos (item.maxStack catalog) ∨
        ∃ other, swap = false ∧ occupant catalog inv pos item = some other ∧
          other.canBeMergedPartlyWith catalog item.entry = .ok ∧
          (canStoreItemInSpecificSlot catalog inv pos swap item s).2 =
            s.push pos (item.maxStack catalog - other.count)) := by
  unfold canStoreItemInSpecificSlot at h ⊢
  by_cases hempty : (inv.isNotEmptyBag catalog item && !pos.isBagPos) = true
  · rw [if_pos hempty] at h
    cases h
  · rw [if_neg hempty] at h ⊢
    constructor
    · intro hnot
      rw [hnot, Bool.true_and, Bool.not_eq_true', Bool.not_eq_false] at hempty
      exact hempty
    · cases hocc : if swap then none else occupant catalog inv pos item with
      | none =>
        left
        rw [hocc] at h
        dsimp only at h ⊢
        by_cases hfits : fitsToSlot catalog inv pos item = true
        · rw [if_pos hfits]
          refine ⟨?_, hfits, rfl⟩
          cases swap with
          | true => exact Or.inl rfl
          | false => exact Or.inr hocc
        · rw [if_neg hfits] at h
          cases h
      | some other =>
        right
        rw [hocc] at h
        dsimp only at h ⊢
        cases swap with
        | true => cases hocc
        | false =>
          refine ⟨other, rfl, hocc, ?_⟩
          cases hmerge : other.canBeMergedPartlyWith catalog item.entry <;>
            rw [hmerge] at h <;> first | exact ⟨rfl, rfl⟩ | cases h

theorem placeFor_of_occupant {other : Item} (hinside : NotInside catalog inv item pos)
    (hocc : occupant catalog inv pos item = some other) : PlaceFor catalog inv item pos := by
  have hget : inv.getItemByPos catalog pos = some other := (Option.filter_eq_some_iff.mp hocc).1
  obtain ⟨place, hplace, -⟩ := Option.bind_eq_some_iff.mp hget
  refine ⟨place, hplace, ?_⟩
  intro slot heq
  obtain ⟨-, -, hown⟩ | ⟨bag, hbag, -, hcontent⟩ := place?_eq_some.mp hplace
  · rw [hown] at heq
    cases heq
  · rw [hcontent] at heq
    injection heq with hguid _
    exact hinside bag hbag hguid

theorem Search.Within.specific (h : s.Within catalog inv item total) (hcount : 0 < s.count)
    (hinside : NotInside catalog inv item pos)
    (hok : (canStoreItemInSpecificSlot catalog inv pos false item s).1 = .ok) :
    (canStoreItemInSpecificSlot catalog inv pos false item s).2.Within catalog inv item total := by
  obtain ⟨-, ⟨hocc, hfits, heq⟩ | ⟨other, -, hocc, hmerge, heq⟩⟩ := specific_ok hok
  · have hnone := hocc.resolve_left Bool.false_ne_true
    rw [heq]
    exact h.push hcount (ItemTemplate.getMaxStackSize_pos _)
      (room_free (placeFor_of_fits hinside hfits) hnone)
  · obtain ⟨hpos, hroom⟩ := room_stack (placeFor_of_occupant hinside hocc) hocc hmerge
    rw [heq]
    exact h.push hcount hpos hroom

/-! ### Searches -/

variable {plan : List SearchStep}

/-- A stage that accepts keeps what was found sound; one that is passed over leaves it alone. -/
def StepWithin (catalog : Catalog) (inv : Inventory) (item : Item) : SearchStep → Prop
  | .must stage => ∀ total s, 0 < s.count → s.Within catalog inv item total →
      (stage s).1 = .ok → (stage s).2.Within catalog inv item total
  | .may stage => StageWithin catalog inv item stage
  | .refuse res => res ≠ .ok

theorem StageWithin.must {stage : Stage} (h : StageWithin catalog inv item stage) :
    StepWithin catalog inv item (.must stage) :=
  fun total s hcount hwithin _ => h total s hcount hwithin

/-- A stage that is passed over has found nothing, so something is still left. -/
def KeepsLeft : SearchStep → Prop
  | .must _ => True
  | .may stage => ∀ s, (stage s).1 ≠ .ok → (stage s).2 = s
  | .refuse _ => True

def PlanWithin (catalog : Catalog) (inv : Inventory) (item : Item) (plan : List SearchStep) :
    Prop :=
  ∀ step ∈ plan, StepWithin catalog inv item step ∧ KeepsLeft step

/-- A search that succeeds has found room for everything. -/
theorem runSearch_within {done full : InventoryResult} (hplan : PlanWithin catalog inv item plan)
    (hfull : full ≠ .ok) (hcount : 0 < s.count) (h : s.Within catalog inv item total)
    (hok : (runSearch done full plan s).1 = .ok) :
    done = .ok ∧ (runSearch done full plan s).2.count = 0 ∧
      (runSearch done full plan s).2.Within catalog inv item total := by
  induction plan generalizing s with
  | nil => exact absurd hok hfull
  | cons step rest ih =>
    obtain ⟨hstep, hkeeps⟩ := hplan step List.mem_cons_self
    have hrest : PlanWithin catalog inv item rest :=
      fun step' hstep' => hplan step' (List.mem_cons_of_mem step hstep')
    cases step with
    | must stage =>
      rw [runSearch] at hok ⊢
      dsimp only at hok ⊢
      split at hok
      · next hne => exact absurd hok hne
      · next hstage =>
          rw [if_neg hstage]
          have hnext := hstep total s hcount h (not_not.mp hstage)
          split at hok
          · next hzero =>
              rw [if_pos hzero]
              exact ⟨hok, hzero, hnext⟩
          · next hleft =>
              rw [if_neg hleft]
              exact ih hrest (Nat.pos_of_ne_zero hleft) hnext hok
    | may stage =>
      rw [runSearch] at hok ⊢
      dsimp only at hok ⊢
      have hnext := hstep total s hcount h
      split at hok
      · next hne =>
          rw [if_pos hne]
          rw [hkeeps s hne] at hok ⊢
          exact ih hrest hcount h hok
      · next hstage =>
          rw [if_neg hstage]
          split at hok
          · next hzero =>
              rw [if_pos hzero]
              exact ⟨hok, hzero, hnext⟩
          · next hleft =>
              rw [if_neg hleft]
              exact ih hrest (Nat.pos_of_ne_zero hleft) hnext hok
    | refuse res => exact absurd hok hstep

/-! ### The steps of the two searches -/

section Plans

variable {P : SearchStep → Prop}

theorem forall_mem_ite {p : Prop} [Decidable p] (h : ∀ step ∈ plan, P step) :
    ∀ step ∈ (if p then plan else []), P step := by
  split
  · exact h
  · exact fun _ hstep => absurd hstep List.not_mem_nil

theorem forall_mem_inBags {bagBegin bagEnd : Nat} {nonSpecialized : Bool}
    (h : ∀ bag, P (.may (canStoreItemInBag catalog inv bag merge nonSpecialized item pos))) :
    ∀ step ∈ inBags catalog inv bagBegin bagEnd merge nonSpecialized item pos, P step := by
  intro step hstep
  obtain ⟨bag, -, rfl⟩ := List.mem_map.mp hstep
  exact h bag

variable {pos : ItemPos} {swap : Bool}

theorem forall_mem_storePlan
    (hspecific : P (.must (canStoreItemInSpecificSlot catalog inv pos swap item)))
    (hasked : ∀ merge, P (.must (inBagAskedFor catalog inv inventorySlotItemStart
      inventorySlotItemEnd merge item pos)))
    (hslots : ∀ merge, P (.must (canStoreItemInInventorySlots catalog inv inventorySlotItemStart
      inventorySlotItemEnd merge item pos)))
    (hbags : ∀ bag merge nonSpecialized,
      P (.may (canStoreItemInBag catalog inv bag merge nonSpecialized item pos)))
    (hrefuse : P (.refuse .bagInBag)) :
    ∀ step ∈ storePlan catalog inv pos item swap, P step := by
  simp only [storePlan, List.forall_mem_append, and_assoc]
  refine ⟨forall_mem_ite (List.forall_mem_singleton.mpr hspecific), forall_mem_ite ?_,
    forall_mem_ite ?_, forall_mem_ite ?_, forall_mem_ite ?_, ?_, ?_⟩
  · exact List.forall_mem_append.mpr ⟨forall_mem_ite (List.forall_mem_singleton.mpr (hasked true)),
      List.forall_mem_singleton.mpr (hasked false)⟩
  · simp only [List.forall_mem_append, List.forall_mem_singleton, and_assoc]
    exact ⟨hslots true, forall_mem_ite (forall_mem_inBags fun bag => hbags bag true false),
      forall_mem_inBags fun bag => hbags bag true true⟩
  · exact forall_mem_inBags fun bag => hbags bag false false
  · exact List.forall_mem_singleton.mpr hrefuse
  · exact List.forall_mem_singleton.mpr (hslots false)
  · exact forall_mem_inBags fun bag => hbags bag false true

theorem storePlan_within (hinside : NotInside catalog inv item pos) :
    PlanWithin catalog inv item (storePlan catalog inv pos item false) := by
  apply forall_mem_storePlan
  · exact ⟨fun total s hcount h hok => h.specific hcount hinside hok, trivial⟩
  · exact fun merge => ⟨(stageWithin_askedFor (by decide) merge pos).must, trivial⟩
  · exact fun merge => ⟨(stageWithin_inInventorySlots (by decide) merge pos).must, trivial⟩
  · exact fun bag merge nonSpecialized =>
      ⟨stageWithin_inBag bag merge nonSpecialized pos, fun s hne => inBag_of_ne_ok hne⟩
  · exact ⟨InventoryResult.noConfusion, trivial⟩

/-- The step does not refuse with success. -/
def NoOkRefusal : SearchStep → Prop
  | .must _ => True
  | .may _ => True
  | .refuse res => res ≠ .ok

theorem storePlan_noOkRefusal :
    ∀ step ∈ storePlan catalog inv pos item swap, NoOkRefusal step := by
  apply forall_mem_storePlan
  · trivial
  · exact fun _ => trivial
  · exact fun _ => trivial
  · exact fun _ _ _ => trivial
  · exact InventoryResult.noConfusion

end Plans

/-! ### Results of the two searches -/

/-- What is known of an item when room is searched for it. -/
structure Stackable (catalog : Catalog) (item : Item) : Prop where
  positive : 0 < item.count
  bounded : item.count ≤ item.maxStack catalog

theorem Stackable.uint32_count (h : Stackable catalog item) :
    uint32 ((item.count : Int) - (0 : Nat)) = item.count := by
  have hle := h.bounded
  have hstackable := catalog.stackable_le item.entry
  unfold Item.maxStack ItemTemplate.getMaxStackSize at hle
  rw [Nat.cast_zero, sub_zero]
  refine uint32_of_lt ?_
  split at hle
  · omega
  · omega

theorem within_nil {count : Nat} : Search.Within ⟨[], count⟩ catalog inv item count where
  chosen := ⟨List.nodup_nil, fun _ hfound => absurd hfound List.not_mem_nil⟩
  sum := Nat.zero_add _

/-- A search succeeds only with the result that it was given for its success. -/
theorem runSearch_done {done full : InventoryResult} (hplan : ∀ step ∈ plan, NoOkRefusal step)
    (hfull : full ≠ .ok) (hok : (runSearch done full plan s).1 = .ok) : done = .ok := by
  induction plan generalizing s with
  | nil => exact absurd hok hfull
  | cons step rest ih =>
    have hrest : ∀ step ∈ rest, NoOkRefusal step :=
      fun step' hstep' => hplan step' (List.mem_cons_of_mem step hstep')
    cases step with
    | must stage =>
      rw [runSearch] at hok
      dsimp only at hok
      split at hok
      · next hne => exact absurd hok hne
      · split at hok
        · exact hok
        · exact ih hrest hok
    | may stage =>
      rw [runSearch] at hok
      dsimp only at hok
      split at hok
      · exact ih hrest hok
      · split at hok
        · exact hok
        · exact ih hrest hok
    | refuse res => exact absurd hok (hplan _ List.mem_cons_self)

end Cataclysm.Items
