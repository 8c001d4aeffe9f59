import Cataclysm.Items.NewItem
import Cataclysm.Lib.Greedy

/-!
# A search as a filling of slots

Every stage of the search for room visits slots, and takes of each what fits until nothing is left.
A search in which no stage refuses is therefore one filling of all the slots that its stages visit.

## Implementation notes

The slot that was asked for is visited by the stage for a specific slot alone; with a swap it counts
as empty. A stage for a bag that is passed over visits nothing.
-/

namespace Cataclysm.Items
open Greedy

/-- A request for a specific slot. -/
def ItemPos.IsSpecific (pos : ItemPos) : Prop := pos.bag ≠ nullBag ∧ pos.slot ≠ nullSlot

instance (pos : ItemPos) : Decidable pos.IsSpecific := inferInstanceAs (Decidable (_ ∧ _))

section Definitions

variable (catalog : Catalog) (inv : Inventory) (item : Item)

/-- The room in the slot that is asked for, when the slot is accepted. -/
def askedRoom (pos : ItemPos) (swap : Bool) : Option Nat :=
  if inv.isNotEmptyBag catalog item && !pos.isBagPos then none
  else
    match if swap then none else occupant catalog inv pos item with
    | none => if fitsToSlot catalog inv pos item then some (item.maxStack catalog) else none
    | some other =>
      if other.canBeMergedPartlyWith catalog item.entry = .ok then
        some (item.maxStack catalog - other.count)
      else none

/-- The room in any other slot: it is empty, or holds a stack that may be merged with. -/
def roomAt (pos : ItemPos) : Nat :=
  match needSpace catalog inv item false pos with
  | some space => space
  | none =>
    if (catalog.template item.entry).stackable ≠ 1 then
      (needSpace catalog inv item true pos).getD 0
    else 0

def capacity (asked : ItemPos) (swap : Bool) (pos : ItemPos) : Nat :=
  if asked.IsSpecific ∧ pos = asked then (askedRoom catalog inv item asked swap).getD 0
  else roomAt catalog inv item pos

/-- The bag in this bag slot may take the item. -/
def bagTakes (bag : Nat) : Bool :=
  (inv.getBagByPos catalog bag).any fun other =>
    other.guid ≠ item.guid &&
      itemCanGoIntoBag (catalog.template item.entry) (catalog.template other.entry)

/-- The slots of the bag in this bag slot, if the item may go into it. -/
def slotsOfBag (bag : Nat) : List ItemPos :=
  match inv.getBagByPos catalog bag with
  | some other =>
    if bagTakes catalog inv item bag then
      (List.range (other.bagSize catalog)).map (ItemPos.mk bag)
    else []
  | none => []

def backpackSlots : List ItemPos :=
  (List.range' inventorySlotItemStart (inventorySlotItemEnd - inventorySlotItemStart)).map .own

/-- The slots of the backpack and of the equipped bags that may take the item. -/
def mainSlots : List ItemPos :=
  backpackSlots ++
    (List.range' inventorySlotBagStart (inventorySlotBagEnd - inventorySlotBagStart)).flatMap
      (slotsOfBag catalog inv item)

/-- The bag in this bag slot is no special bag. -/
def isPlainBag (bag : Nat) : Bool :=
  (inv.getBagByPos catalog bag).any fun other =>
    (catalog.template other.entry).itemClass = .container &&
      (catalog.template other.entry).subClass = itemSubclassContainer

/-- What a pass visits among some slots. -/
def visitedAmong (merge : Bool) (slots : List ItemPos) : List ItemPos :=
  slots.filter fun pos => (needSpace catalog inv item merge pos).isSome

/-- What a pass visits in a bag. -/
def visitedInBag (skip : ItemPos) (merge nonSpecialized : Bool) (bag : Nat) : List ItemPos :=
  if bag ≠ skip.bag ∧ isPlainBag catalog inv bag = nonSpecialized then
    visitedAmong catalog inv item merge
      ((slotsOfBag catalog inv item bag).filter fun pos => pos.slot ≠ skip.slot)
  else []

end Definitions

variable {catalog : Catalog} {facts : PlayerFacts} {inv : Inventory} {item : Item}
  {asked skip pos : ItemPos} {swap merge nonSpecialized : Bool} {bag : Nat}

/-! ### Stages -/

def Search.filling (s : Search) : Filling ItemPos := ⟨s.dest, s.count⟩

theorem Search.contains_iff {s : Search} : s.contains pos = true ↔ pos ∈ s.dest.map Prod.fst := by
  rw [Search.contains, List.any_eq_true, List.mem_map]
  simp only [decide_eq_true_eq]

theorem Search.filling_push {s : Search} (hcount : 0 < s.count) {cap : ItemPos → Nat} {space : Nat}
    (hspace : cap pos = space) : (s.push pos space).filling = s.filling.visit cap pos := by
  rw [Search.push, Filling.visit]
  by_cases hin : s.contains pos = true
  · have hused : pos ∈ s.filling.shares.map Prod.fst := Search.contains_iff.mp hin
    rw [if_pos hin, if_pos (Or.inr hused)]
  · rw [if_neg hin, if_neg, hspace]
    · rfl
    · rintro (hzero | hmem)
      · exact hcount.ne' hzero
      · exact hin (Search.contains_iff.mpr hmem)

/-- A pass over slots visits those with room of the kind that it looks for. -/
theorem filling_fill {cap : ItemPos → Nat} {slots : List ItemPos}
    (hcap : ∀ pos ∈ slots, ∀ space, needSpace catalog inv item merge pos = some space →
      cap pos = space) {s : Search} (hcount : 0 < s.count) :
    (fill catalog inv item merge slots s).filling =
      s.filling.run cap (visitedAmong catalog inv item merge slots) := by
  induction slots generalizing s with
  | nil => rfl
  | cons pos rest ih =>
    have hrest : ∀ pos ∈ rest, ∀ space, needSpace catalog inv item merge pos = some space →
        cap pos = space := fun pos' hpos' => hcap pos' (List.mem_cons_of_mem pos hpos')
    rw [fill, visitedAmong, List.filter_cons]
    cases hspace : needSpace catalog inv item merge pos with
    | none =>
      rw [if_neg (by simp)]
      exact ih hrest hcount
    | some space =>
      have hvisit := Search.filling_push (s := s) hcount (hcap pos List.mem_cons_self space hspace)
      rw [if_pos Option.isSome_some, Filling.run, List.foldl_cons, ← hvisit]
      dsimp only
      by_cases hin : s.contains pos = true
      · rw [if_pos hin, Search.push, if_pos hin]
        exact ih hrest hcount
      · rw [if_neg hin]
        split
        · next hzero => exact (Filling.run_of_left_eq_zero hzero _).symm
        · next hleft => exact ih hrest (Nat.pos_of_ne_zero hleft)

/-- The stage accepts, and fills these slots. -/
def StageVisits (cap : ItemPos → Nat) (stage : Stage) (slots : List ItemPos) : Prop :=
  ∀ s : Search, 0 < s.count →
    (stage s).1 = .ok ∧ (stage s).2.filling = s.filling.run cap slots

/-- The stage is passed over, whatever was found so far. -/
def PassedOver (stage : Stage) : Prop := ∀ s, (stage s).1 ≠ .ok ∧ (stage s).2 = s

def StepVisits (cap : ItemPos → Nat) : SearchStep → List ItemPos → Prop
  | .must stage, slots => StageVisits cap stage slots
  | .may stage, slots => StageVisits cap stage slots ∨ slots = [] ∧ PassedOver stage
  | .refuse _, _ => False

/-- No step of the plan refuses, and together they visit these slots. -/
def PlanVisits (cap : ItemPos → Nat) : List SearchStep → List ItemPos → Prop
  | [], slots => slots = []
  | step :: rest, slots => ∃ first others, slots = first ++ others ∧ StepVisits cap step first ∧
      PlanVisits cap rest others

variable {cap : ItemPos → Nat} {plan plan' : List SearchStep} {slots slots' : List ItemPos}

theorem PlanVisits.append (h : PlanVisits cap plan slots) (h' : PlanVisits cap plan' slots') :
    PlanVisits cap (plan ++ plan') (slots ++ slots') := by
  induction plan generalizing slots with
  | nil =>
    obtain rfl : slots = [] := h
    exact h'
  | cons step rest ih =>
    obtain ⟨first, others, rfl, hstep, hrest⟩ := h
    exact ⟨first, others ++ slots', List.append_assoc first others slots', hstep, ih hrest⟩

theorem planVisits_singleton {step : SearchStep} (h : StepVisits cap step slots) :
    PlanVisits cap [step] slots :=
  ⟨slots, [], (List.append_nil slots).symm, h, rfl⟩

theorem PlanVisits.ite {p : Prop} [Decidable p] (h : p → PlanVisits cap plan slots) :
    PlanVisits cap (if p then plan else []) (if p then slots else []) := by
  split
  · next hp => exact h hp
  · rfl

theorem planVisits_map {steps : Nat → SearchStep} {visited : Nat → List ItemPos} {bags : List Nat}
    (h : ∀ bag ∈ bags, StepVisits cap (steps bag) (visited bag)) :
    PlanVisits cap (bags.map steps) (bags.flatMap visited) := by
  induction bags with
  | nil => rfl
  | cons bag rest ih =>
    exact ⟨visited bag, rest.flatMap visited, List.flatMap_cons, h bag List.mem_cons_self,
      ih fun other hother => h other (List.mem_cons_of_mem bag hother)⟩

variable (done full : InventoryResult) {s : Search}

theorem runSearch_cons {step : SearchStep} (h : StepVisits cap step slots) (hcount : 0 < s.count) :
    ∃ s' : Search, s'.filling = s.filling.run cap slots ∧ ∀ rest,
      runSearch done full (step :: rest) s =
        if s'.count = 0 then (done, s') else runSearch done full rest s' := by
  cases step with
  | must stage =>
    obtain ⟨hok, hfilling⟩ := h s hcount
    refine ⟨(stage s).2, hfilling, fun rest => ?_⟩
    rw [runSearch]
    dsimp only
    rw [hok, if_neg (not_not.mpr rfl)]
  | may stage =>
    rcases h with h | ⟨rfl, hpassed⟩
    · obtain ⟨hok, hfilling⟩ := h s hcount
      refine ⟨(stage s).2, hfilling, fun rest => ?_⟩
      rw [runSearch]
      dsimp only
      rw [hok, if_neg (not_not.mpr rfl)]
    · obtain ⟨hne, hsame⟩ := hpassed s
      refine ⟨s, rfl, fun rest => ?_⟩
      rw [runSearch, if_neg hcount.ne']
      dsimp only
      rw [if_pos hne, hsame]
  | refuse res => exact h.elim

/-- A search goes on behind a plan in which nothing refuses, with what that plan has filled. -/
theorem runSearch_append (h : PlanVisits cap plan slots) (hcount : 0 < s.count) :
    ∃ s' : Search, s'.filling = s.filling.run cap slots ∧ ∀ rest,
      runSearch done full (plan ++ rest) s =
        if s'.count = 0 then (done, s') else runSearch done full rest s' := by
  induction plan generalizing s slots with
  | nil =>
    obtain rfl : slots = [] := h
    exact ⟨s, rfl, fun rest => (if_neg hcount.ne').symm⟩
  | cons step others ih =>
    obtain ⟨first, visited, rfl, hstep, hothers⟩ := h
    obtain ⟨middle, hmiddle, hrun⟩ := runSearch_cons done full hstep hcount
    rw [Filling.run_append, ← hmiddle]
    by_cases hzero : middle.count = 0
    · refine ⟨middle, (Filling.run_of_left_eq_zero hzero visited).symm, fun rest => ?_⟩
      rw [List.cons_append, hrun, if_pos hzero, if_pos hzero]
    · obtain ⟨last, hlast, hrest⟩ := ih hothers (Nat.pos_of_ne_zero hzero)
      refine ⟨last, hlast, fun rest => ?_⟩
      rw [List.cons_append, hrun, if_neg hzero, hrest]

/-- A search in which nothing refuses is one filling. -/
theorem runSearch_of_visits (h : PlanVisits cap plan slots) (hcount : 0 < s.count) :
    (runSearch done full plan s).2.filling = s.filling.run cap slots ∧
      (runSearch done full plan s).1 =
        if (runSearch done full plan s).2.count = 0 then done else full := by
  obtain ⟨last, hlast, hrun⟩ := runSearch_append done full h hcount
  have heq := hrun []
  rw [List.append_nil, runSearch] at heq
  rw [heq]
  split
  · exact ⟨hlast, rfl⟩
  · exact ⟨hlast, rfl⟩

/-! ### Steps that refuse -/

/-- The results of a stage that refuses. -/
def IsRefusal (res : InventoryResult) : Prop :=
  res ∈ ([.wrongBagType, .destroyNonemptyBag, .lootGone, .cantStack, .bagInBag] :
    List InventoryResult)

/-- The step ends the search, whatever was found so far. -/
def StepRefuses : SearchStep → Prop
  | .must stage => ∀ s, IsRefusal (stage s).1 ∧ (stage s).2 = s
  | .may _ => False
  | .refuse res => IsRefusal res

/-- A step refuses, and these slots are visited before. -/
def PlanRefuses (cap : ItemPos → Nat) (plan : List SearchStep) (slots : List ItemPos) : Prop :=
  ∃ before step, before ++ [step] <+: plan ∧ PlanVisits cap before slots ∧ StepRefuses step

theorem isRefusal_ne_ok {res : InventoryResult} (h : IsRefusal res) : res ≠ .ok := by
  rintro rfl
  exact absurd h (by unfold IsRefusal; decide)

theorem runSearch_of_refuses (h : PlanRefuses cap plan slots) (hcount : 0 < s.count) :
    (runSearch done full plan s).2.filling = s.filling.run cap slots ∧
      ((runSearch done full plan s).2.count = 0 ∧ (runSearch done full plan s).1 = done ∨
        (runSearch done full plan s).2.count ≠ 0 ∧ IsRefusal (runSearch done full plan s).1) := by
  obtain ⟨before, step, ⟨rest, rfl⟩, hbefore, hstep⟩ := h
  obtain ⟨last, hlast, hrun⟩ := runSearch_append done full hbefore hcount
  rw [List.append_assoc, hrun, List.singleton_append]
  split
  · next hzero => exact ⟨hlast, Or.inl ⟨hzero, rfl⟩⟩
  · next hleft =>
      cases step with
      | must stage =>
        obtain ⟨hrefusal, hsame⟩ := hstep last
        rw [runSearch]
        dsimp only
        rw [if_pos (isRefusal_ne_ok hrefusal), hsame]
        exact ⟨hlast, Or.inr ⟨hleft, hrefusal⟩⟩
      | may stage => exact hstep.elim
      | refuse res => exact ⟨hlast, Or.inr ⟨hleft, hstep⟩⟩

/-! ### The stages of the search -/

theorem needSpace_merge {space : Nat} (h : needSpace catalog inv item true pos = some space) :
    needSpace catalog inv item false pos = none := by
  unfold needSpace at h ⊢
  cases hocc : occupant catalog inv pos item with
  | none =>
    rw [hocc] at h
    cases h
  | some other => rfl

theorem capacity_of_needSpace (hne : ¬ (asked.IsSpecific ∧ pos = asked))
    (hmerge : merge = true → (catalog.template item.entry).stackable ≠ 1) {space : Nat}
    (h : needSpace catalog inv item merge pos = some space) :
    capacity catalog inv item asked swap pos = space := by
  rw [capacity, if_neg hne, roomAt]
  cases merge with
  | false => rw [h]
  | true =>
    rw [needSpace_merge h]
    dsimp only
    rw [if_pos (hmerge rfl), h, Option.getD_some]

/-- What the stage for a specific slot does. -/
theorem specific_of_askedRoom {room : Nat} (h : askedRoom catalog inv item pos swap = some room)
    (s : Search) :
    canStoreItemInSpecificSlot catalog inv pos swap item s = (.ok, s.push pos room) := by
  unfold askedRoom at h
  unfold canStoreItemInSpecificSlot
  split at h
  · cases h
  · next hempty =>
      rw [if_neg hempty]
      cases hocc : if swap then none else occupant catalog inv pos item with
      | none =>
        rw [hocc] at h
        dsimp only at h ⊢
        split at h
        · next hfits =>
            rw [if_pos hfits, Option.some.inj h]
        · cases h
      | some other =>
        rw [hocc] at h
        dsimp only at h ⊢
        split at h
        · next hmerge => rw [hmerge, ← Option.some.inj h]
        · cases h

theorem canBeMergedPartlyWith_refusal {other : Item} {entry : Nat}
    (h : other.canBeMergedPartlyWith catalog entry ≠ .ok) :
    IsRefusal (other.canBeMergedPartlyWith catalog entry) := by
  unfold Item.canBeMergedPartlyWith at h ⊢
  split_ifs at h ⊢
  · exact List.mem_of_elem_eq_true rfl
  · exact List.mem_of_elem_eq_true rfl
  · exact List.mem_of_elem_eq_true rfl
  · exact absurd rfl h

theorem specific_refuses (h : askedRoom catalog inv item pos swap = none) :
    StepRefuses (.must (canStoreItemInSpecificSlot catalog inv pos swap item)) := by
  intro s
  unfold askedRoom at h
  unfold canStoreItemInSpecificSlot
  split at h
  · next hempty =>
      rw [if_pos hempty]
      exact ⟨List.mem_of_elem_eq_true rfl, rfl⟩
  · next hempty =>
      rw [if_neg hempty]
      cases hocc : if swap then none else occupant catalog inv pos item with
      | none =>
        rw [hocc] at h
        dsimp only at h ⊢
        split at h
        · cases h
        · next hfits =>
            rw [if_neg hfits]
            exact ⟨List.mem_of_elem_eq_true rfl, rfl⟩
      | some other =>
        rw [hocc] at h
        dsimp only at h ⊢
        split at h
        · cases h
        · next hmerge =>
            have hrefusal := canBeMergedPartlyWith_refusal hmerge
            split
            · next hok => exact absurd hok hmerge
            · exact ⟨hrefusal, rfl⟩

/-- What a stage for a bag does with an item that is not a bag with contents. -/
theorem inBag_eq (hempty : inv.isNotEmptyBag catalog item = false) (s : Search) :
    canStoreItemInBag catalog inv bag merge nonSpecialized item skip s =
      if bag ≠ skip.bag ∧ bagTakes catalog inv item bag = true ∧
          isPlainBag catalog inv bag = nonSpecialized then
        (.ok, fill catalog inv item merge
          ((slotsOfBag catalog inv item bag).filter fun pos => pos.slot ≠ skip.slot) s)
      else (.wrongBagType, s) := by
  unfold canStoreItemInBag
  by_cases hskip : bag = skip.bag
  · rw [if_pos hskip, if_neg fun hall => hall.1 hskip]
  · rw [if_neg hskip, slotsOfBag, bagTakes, isPlainBag]
    cases hbag : inv.getBagByPos catalog bag with
    | none => rw [if_neg fun hall => Bool.false_ne_true hall.2.1]
    | some other =>
      dsimp only
      rw [Option.any_some, Option.any_some, hempty, if_neg Bool.false_ne_true]
      by_cases hself : other.guid = item.guid
      · rw [if_pos hself, if_neg]
        rintro ⟨-, htakes, -⟩
        simp [hself] at htakes
      · rw [if_neg hself]
        by_cases hplain : nonSpecialized = ((catalog.template other.entry).itemClass = .container &&
            (catalog.template other.entry).subClass = itemSubclassContainer)
        · rw [if_neg (not_not.mpr hplain)]
          cases hgo : itemCanGoIntoBag (catalog.template item.entry)
              (catalog.template other.entry) with
          | false =>
            rw [if_pos rfl, if_neg]
            rintro ⟨-, htakes, -⟩
            simp at htakes
          | true =>
            rw [if_neg Bool.noConfusion, if_pos ⟨hskip, by simp [hself], hplain.symm⟩]
            simp only [hself, ne_eq, not_false_eq_true, decide_true, Bool.and_self, if_true,
              List.filter_map]
            rfl
        · rw [if_pos hplain, if_neg fun hall => hplain hall.2.2.symm]

/-- The slots of the backpack without the one that was asked for. -/
def backpackBut (skip : ItemPos) : List ItemPos :=
  ((List.range' inventorySlotItemStart (inventorySlotItemEnd - inventorySlotItemStart)).filter
    fun slot => !(inventorySlotBag0 = skip.bag && slot = skip.slot)).map .own

theorem mem_backpackBut : pos ∈ backpackBut skip ↔ pos ∈ backpackSlots ∧ pos ≠ skip := by
  rw [backpackBut, backpackSlots, List.mem_map, List.mem_map]
  constructor
  · rintro ⟨slot, hslot, rfl⟩
    obtain ⟨hrange, hskip⟩ := List.mem_filter.mp hslot
    refine ⟨⟨slot, hrange, rfl⟩, ?_⟩
    rintro rfl
    simp [ItemPos.own] at hskip
  · rintro ⟨⟨slot, hrange, rfl⟩, hne⟩
    refine ⟨slot, List.mem_filter.mpr ⟨hrange, ?_⟩, rfl⟩
    rw [Bool.not_eq_true', Bool.eq_false_iff]
    intro hsame
    rw [Bool.and_eq_true, decide_eq_true_eq, decide_eq_true_eq] at hsame
    obtain ⟨hbag, hslot⟩ := hsame
    exact hne (by rw [ItemPos.own, hbag, hslot])

section Accepted

variable (hempty : inv.isNotEmptyBag catalog item = false)

include hempty

theorem stageVisits_inInventorySlots
    (hmerge : merge = true → (catalog.template item.entry).stackable ≠ 1) :
    StageVisits (capacity catalog inv item asked swap)
      (canStoreItemInInventorySlots catalog inv inventorySlotItemStart inventorySlotItemEnd merge
        item asked) (visitedAmong catalog inv item merge (backpackBut asked)) := by
  intro s hcount
  unfold canStoreItemInInventorySlots
  rw [hempty, if_neg Bool.false_ne_true]
  refine ⟨rfl, filling_fill ?_ hcount⟩
  intro pos hpos space hspace
  exact capacity_of_needSpace (fun hasked => (mem_backpackBut.mp hpos).2 hasked.2) hmerge hspace

theorem stepVisits_inBag
    (hmerge : merge = true → (catalog.template item.entry).stackable ≠ 1) (bag : Nat) :
    StepVisits (capacity catalog inv item asked swap)
      (.may (canStoreItemInBag catalog inv bag merge nonSpecialized item asked))
      (visitedInBag catalog inv item asked merge nonSpecialized bag) := by
  rw [visitedInBag]
  by_cases htakes : bag ≠ asked.bag ∧ bagTakes catalog inv item bag = true ∧
      isPlainBag catalog inv bag = nonSpecialized
  · left
    intro s hcount
    rw [inBag_eq hempty, if_pos htakes, if_pos ⟨htakes.1, htakes.2.2⟩]
    refine ⟨rfl, filling_fill ?_ hcount⟩
    intro pos hpos space hspace
    refine capacity_of_needSpace ?_ hmerge hspace
    rintro ⟨-, rfl⟩
    exact absurd rfl (of_decide_eq_true (List.mem_filter.mp hpos).2)
  · right
    refine ⟨?_, fun s => ?_⟩
    · split
      · next hvisited =>
          have hno : bagTakes catalog inv item bag ≠ true :=
            fun hyes => htakes ⟨hvisited.1, hyes, hvisited.2⟩
          rw [slotsOfBag]
          split
          · rw [if_neg hno]
            rfl
          · rfl
      · rfl
    · rw [inBag_eq hempty, if_neg htakes]
      exact ⟨InventoryResult.noConfusion, rfl⟩

theorem planVisits_inBags
    (hmerge : merge = true → (catalog.template item.entry).stackable ≠ 1) :
    PlanVisits (capacity catalog inv item asked swap)
      (inBags catalog inv inventorySlotBagStart inventorySlotBagEnd merge nonSpecialized item asked)
      ((List.range' inventorySlotBagStart (inventorySlotBagEnd - inventorySlotBagStart)).flatMap
        (visitedInBag catalog inv item asked merge nonSpecialized)) :=
  planVisits_map fun bag _ => stepVisits_inBag hempty hmerge bag

/-- What the stage for the bag that was asked for visits. -/
theorem stageVisits_askedFor
    (hmerge : merge = true → (catalog.template item.entry).stackable ≠ 1)
    (hnull : asked.bag ≠ nullBag)
    (hbag : asked.bag ≠ inventorySlotBag0 → bagTakes catalog inv item asked.bag = true) :
    StageVisits (capacity catalog inv item asked swap)
      (inBagAskedFor catalog inv inventorySlotItemStart inventorySlotItemEnd merge item asked)
      (visitedAmong catalog inv item merge
        (if asked.bag = inventorySlotBag0 then backpackBut asked
        else (slotsOfBag catalog inv item asked.bag).filter fun pos => pos.slot ≠ asked.slot)) := by
  unfold inBagAskedFor
  split
  · exact stageVisits_inInventorySlots hempty hmerge
  · next hother =>
      intro s hcount
      have hfill : ∀ plain, isPlainBag catalog inv asked.bag = plain →
          canStoreItemInBag catalog inv asked.bag merge plain item ⟨nullBag, asked.slot⟩ s =
            (.ok, fill catalog inv item merge ((slotsOfBag catalog inv item asked.bag).filter
              fun pos => pos.slot ≠ asked.slot) s) := by
        intro plain hplain
        rw [inBag_eq hempty, if_pos ⟨hnull, hbag hother, hplain⟩]
      have hboth : canStoreItemInThisBag catalog inv merge item asked s =
          (.ok, fill catalog inv item merge ((slotsOfBag catalog inv item asked.bag).filter
            fun pos => pos.slot ≠ asked.slot) s) := by
        unfold canStoreItemInThisBag
        cases hplain : isPlainBag catalog inv asked.bag with
        | false => rw [hfill false hplain]
        | true =>
          rw [inBag_eq hempty, if_neg fun hall => by simp [hplain] at hall]
          exact hfill true hplain
      rw [hboth]
      refine ⟨rfl, filling_fill ?_ hcount⟩
      intro pos hpos space hspace
      refine capacity_of_needSpace ?_ hmerge hspace
      rintro ⟨-, rfl⟩
      exact absurd rfl (of_decide_eq_true (List.mem_filter.mp hpos).2)

end Accepted

/-! ### The whole search -/

/-- The slot that is asked for is accepted. -/
def SlotAccepted (catalog : Catalog) (inv : Inventory) (item : Item) (asked : ItemPos)
    (swap : Bool) : Prop :=
  asked.IsSpecific → (askedRoom catalog inv item asked swap).isSome

/-- The bag that is asked for may take the item, and the item is not a bag with contents. -/
def Searchable (catalog : Catalog) (inv : Inventory) (item : Item) (asked : ItemPos) : Prop :=
  inv.isNotEmptyBag catalog item = false ∧
    (asked.bag ≠ nullBag → asked.bag ≠ inventorySlotBag0 →
      bagTakes catalog inv item asked.bag = true)

/-- The slots of the stage for the bag that is asked for. -/
def askedSlots (catalog : Catalog) (inv : Inventory) (item : Item) (asked : ItemPos) :
    List ItemPos :=
  if asked.bag = inventorySlotBag0 then backpackBut asked
  else (slotsOfBag catalog inv item asked.bag).filter fun pos => pos.slot ≠ asked.slot

/-- Of the equipped bags that were not asked for, all slots but the one with the number that was
asked for. -/
def otherBagSlots (catalog : Catalog) (inv : Inventory) (item : Item) (asked : ItemPos) :
    List ItemPos :=
  (List.range' inventorySlotBagStart (inventorySlotBagEnd - inventorySlotBagStart)).flatMap
    fun bag => if bag ≠ asked.bag then
      (slotsOfBag catalog inv item bag).filter fun pos => pos.slot ≠ asked.slot else []

/-- The slots that a search reaches: the slot and the bag that were asked for, the backpack, and of
the other bags all slots but the one with the number that was asked for. -/
def reachedSlots (catalog : Catalog) (inv : Inventory) (item : Item) (asked : ItemPos) :
    List ItemPos :=
  (if asked.IsSpecific then [asked] else []) ++
    (if asked.bag ≠ nullBag then askedSlots catalog inv item asked else []) ++
    backpackBut asked ++ otherBagSlots catalog inv item asked

/-- The room in the slots that a search reaches. -/
def reachedRoom (catalog : Catalog) (inv : Inventory) (item : Item) (asked : ItemPos)
    (swap : Bool) : Nat :=
  ∑ pos ∈ (reachedSlots catalog inv item asked).toFinset,
    capacity catalog inv item asked swap pos

/-- What the passes over the equipped bags visit. -/
def visitedInBags (catalog : Catalog) (inv : Inventory) (item : Item) (skip : ItemPos)
    (merge nonSpecialized : Bool) : List ItemPos :=
  (List.range' inventorySlotBagStart (inventorySlotBagEnd - inventorySlotBagStart)).flatMap
    (visitedInBag catalog inv item skip merge nonSpecialized)

/-- The slots in the order in which the search visits them. -/
def plannedSlots (catalog : Catalog) (inv : Inventory) (item : Item) (asked : ItemPos) :
    List ItemPos :=
  let proto := catalog.template item.entry
  let among := visitedAmong catalog inv item
  let inBags := visitedInBags catalog inv item asked
  (if asked.IsSpecific then [asked] else []) ++
  (if asked.bag ≠ nullBag then
    (if proto.stackable ≠ 1 then among true (askedSlots catalog inv item asked) else []) ++
      among false (askedSlots catalog inv item asked) else []) ++
  (if proto.stackable ≠ 1 then
    among true (backpackBut asked) ++ (if proto.bagFamily ≠ 0 then inBags true false else []) ++
      inBags true true else []) ++
  (if proto.bagFamily ≠ 0 then inBags false false else []) ++ [] ++
  among false (backpackBut asked) ++ inBags false true

theorem planVisits_specific (hslot : SlotAccepted catalog inv item asked swap)
    (hspecific : asked.IsSpecific) :
    PlanVisits (capacity catalog inv item asked swap)
      [.must (canStoreItemInSpecificSlot catalog inv asked swap item)] [asked] := by
  obtain ⟨room, hroom⟩ := Option.isSome_iff_exists.mp (hslot hspecific)
  refine planVisits_singleton fun s hcount => ?_
  rw [specific_of_askedRoom hroom]
  refine ⟨rfl, Search.filling_push hcount ?_⟩
  rw [capacity, if_pos ⟨hspecific, rfl⟩, hroom, Option.getD_some]

theorem storePlan_visits (hslot : SlotAccepted catalog inv item asked swap)
    (hsearch : Searchable catalog inv item asked) :
    PlanVisits (capacity catalog inv item asked swap) (storePlan catalog inv asked item swap)
      (plannedSlots catalog inv item asked) := by
  obtain ⟨hempty, hbag⟩ := hsearch
  have hfree : false = true → (catalog.template item.entry).stackable ≠ 1 := Bool.noConfusion
  unfold storePlan plannedSlots
  dsimp only
  rw [hempty, if_neg Bool.false_ne_true]
  refine PlanVisits.append (PlanVisits.append (PlanVisits.append (PlanVisits.append
    (PlanVisits.append (PlanVisits.append ?_ ?_) ?_) ?_) rfl) ?_) ?_
  · exact PlanVisits.ite fun hspecific => planVisits_specific hslot hspecific
  · refine PlanVisits.ite fun hnull => PlanVisits.append (PlanVisits.ite fun hstack => ?_) ?_
    · exact planVisits_singleton (stageVisits_askedFor hempty (fun _ => hstack) hnull (hbag hnull))
    · exact planVisits_singleton (stageVisits_askedFor hempty hfree hnull (hbag hnull))
  · refine PlanVisits.ite fun hstack => PlanVisits.append (PlanVisits.append ?_ ?_) ?_
    · exact planVisits_singleton (stageVisits_inInventorySlots hempty fun _ => hstack)
    · exact PlanVisits.ite fun _ => planVisits_inBags hempty fun _ => hstack
    · exact planVisits_inBags hempty fun _ => hstack
  · exact PlanVisits.ite fun _ => planVisits_inBags hempty hfree
  · exact planVisits_singleton (stageVisits_inInventorySlots hempty hfree)
  · exact planVisits_inBags hempty hfree

/-! ### The slots that are visited -/

theorem mem_visitedAmong : pos ∈ visitedAmong catalog inv item merge slots ↔
    pos ∈ slots ∧ (needSpace catalog inv item merge pos).isSome = true :=
  List.mem_filter

theorem needSpace_pos {space : Nat} (h : needSpace catalog inv item merge pos = some space) :
    0 < space := by
  unfold needSpace at h
  split at h
  · cases h
    exact ItemTemplate.getMaxStackSize_pos _
  · split at h
    · next hmerge =>
        cases h
        exact Nat.sub_pos_of_lt (canBeMergedPartlyWith_eq_ok hmerge).2
    · cases h
  · cases h

theorem roomAt_pos_iff : 0 < roomAt catalog inv item pos ↔
    (needSpace catalog inv item false pos).isSome = true ∨
      (catalog.template item.entry).stackable ≠ 1 ∧
        (needSpace catalog inv item true pos).isSome = true := by
  rw [roomAt]
  cases hfree : needSpace catalog inv item false pos with
  | some space => exact iff_of_true (needSpace_pos hfree) (Or.inl rfl)
  | none =>
    dsimp only
    rw [Option.isSome_none, or_iff_right Bool.false_ne_true]
    by_cases hstack : (catalog.template item.entry).stackable ≠ 1
    · rw [if_pos hstack, and_iff_right hstack]
      cases hmerge : needSpace catalog inv item true pos with
      | none => exact iff_of_false (lt_irrefl 0) Bool.false_ne_true
      | some space => exact iff_of_true (needSpace_pos hmerge) rfl
    · rw [if_neg hstack]
      exact iff_of_false (lt_irrefl 0) fun hall => hstack hall.1

theorem askedRoom_pos {room : Nat} (h : askedRoom catalog inv item pos swap = some room) :
    0 < room := by
  unfold askedRoom at h
  split at h
  · cases h
  · split at h
    · split at h
      · cases h
        exact ItemTemplate.getMaxStackSize_pos _
      · cases h
    · split at h
      · next hmerge =>
          cases h
          exact Nat.sub_pos_of_lt (canBeMergedPartlyWith_eq_ok hmerge).2
      · cases h

/-- Special bags take only what has a bag family. -/
theorem bagFamily_ne_zero (h : pos ∈ slotsOfBag catalog inv item bag)
    (hplain : isPlainBag catalog inv bag = false) :
    (catalog.template item.entry).bagFamily ≠ 0 := by
  intro hzero
  rw [slotsOfBag] at h
  rw [isPlainBag] at hplain
  split at h
  · next other hbag =>
      split at h
      · next htakes =>
          rw [bagTakes, hbag, Option.any_some, Bool.and_eq_true] at htakes
          have hgo := htakes.2
          rw [hbag, Option.any_some, Bool.and_eq_false_imp] at hplain
          unfold itemCanGoIntoBag at hgo
          rw [hzero] at hgo
          split at hgo
          · next hclass =>
              have hsub := hplain (decide_eq_true hclass)
              rw [hsub] at hgo
              simp at hgo
          · simp at hgo
          · cases hgo
      · cases h
  · cases h

theorem mem_visitedInBags : pos ∈ visitedInBags catalog inv item asked merge nonSpecialized ↔
    ∃ bag ∈ List.range' inventorySlotBagStart (inventorySlotBagEnd - inventorySlotBagStart),
      isPlainBag catalog inv bag = nonSpecialized ∧ bag ≠ asked.bag ∧
        pos ∈ slotsOfBag catalog inv item bag ∧ pos.slot ≠ asked.slot ∧
          (needSpace catalog inv item merge pos).isSome = true := by
  rw [visitedInBags, List.mem_flatMap]
  refine exists_congr fun bag => and_congr_right fun _ => ?_
  rw [visitedInBag, List.mem_ite_nil_right, mem_visitedAmong, List.mem_filter, decide_eq_true_eq]
  tauto

theorem mem_otherBagSlots : pos ∈ otherBagSlots catalog inv item asked ↔
    ∃ bag ∈ List.range' inventorySlotBagStart (inventorySlotBagEnd - inventorySlotBagStart),
      bag ≠ asked.bag ∧ pos ∈ slotsOfBag catalog inv item bag ∧ pos.slot ≠ asked.slot := by
  rw [otherBagSlots, List.mem_flatMap]
  refine exists_congr fun bag => and_congr_right fun _ => ?_
  rw [List.mem_ite_nil_right, List.mem_filter, decide_eq_true_eq]

/-- The two passes over the bags together. -/
theorem mem_visitedInBags_either :
    ((catalog.template item.entry).bagFamily ≠ 0 ∧
        pos ∈ visitedInBags catalog inv item asked merge false ∨
      pos ∈ visitedInBags catalog inv item asked merge true) ↔
      pos ∈ otherBagSlots catalog inv item asked ∧
        (needSpace catalog inv item merge pos).isSome = true := by
  rw [mem_visitedInBags, mem_visitedInBags, mem_otherBagSlots]
  constructor
  · rintro (⟨-, bag, hbag, -, hne, hin, hslot, hspace⟩ | ⟨bag, hbag, -, hne, hin, hslot, hspace⟩)
    · exact ⟨⟨bag, hbag, hne, hin, hslot⟩, hspace⟩
    · exact ⟨⟨bag, hbag, hne, hin, hslot⟩, hspace⟩
  · rintro ⟨⟨bag, hbag, hne, hin, hslot⟩, hspace⟩
    cases hplain : isPlainBag catalog inv bag with
    | true => exact Or.inr ⟨bag, hbag, hplain, hne, hin, hslot, hspace⟩
    | false =>
      exact Or.inl ⟨bagFamily_ne_zero hin hplain, bag, hbag, hplain, hne, hin, hslot, hspace⟩

/-- A search visits exactly the slots with room among those that it reaches. -/
theorem mem_plannedSlots (hslot : SlotAccepted catalog inv item asked swap) :
    pos ∈ plannedSlots catalog inv item asked ↔
      pos ∈ reachedSlots catalog inv item asked ∧
        0 < capacity catalog inv item asked swap pos := by
  unfold plannedSlots reachedSlots
  dsimp only
  simp only [List.mem_append, List.mem_ite_nil_right, List.mem_singleton, mem_visitedAmong,
    List.not_mem_nil, or_false]
  by_cases hasked : asked.IsSpecific ∧ pos = asked
  · obtain ⟨room, hroom⟩ := Option.isSome_iff_exists.mp (hslot hasked.1)
    have hpos : 0 < capacity catalog inv item asked swap pos := by
      rw [capacity, if_pos hasked, hroom]
      exact askedRoom_pos hroom
    refine iff_of_true ?_ ⟨Or.inl (Or.inl (Or.inl hasked)), hpos⟩
    exact Or.inl (Or.inl (Or.inl (Or.inl (Or.inl hasked))))
  · have hfree := @mem_visitedInBags_either catalog inv item asked pos false
    have hmerge := @mem_visitedInBags_either catalog inv item asked pos true
    rw [capacity, if_neg hasked, roomAt_pos_iff]
    constructor
    · rintro (((((h | ⟨hnull, ⟨hstack, hin, hroom⟩ | ⟨hin, hroom⟩⟩) |
        ⟨hstack, (⟨hin, hroom⟩ | hbags) | hbags⟩) | hbags) | ⟨hin, hroom⟩) | hbags)
      · exact absurd h hasked
      · exact ⟨Or.inl (Or.inl (Or.inr ⟨hnull, hin⟩)), Or.inr ⟨hstack, hroom⟩⟩
      · exact ⟨Or.inl (Or.inl (Or.inr ⟨hnull, hin⟩)), Or.inl hroom⟩
      · exact ⟨Or.inl (Or.inr hin), Or.inr ⟨hstack, hroom⟩⟩
      · obtain ⟨hin, hroom⟩ := hmerge.mp (Or.inl hbags)
        exact ⟨Or.inr hin, Or.inr ⟨hstack, hroom⟩⟩
      · obtain ⟨hin, hroom⟩ := hmerge.mp (Or.inr hbags)
        exact ⟨Or.inr hin, Or.inr ⟨hstack, hroom⟩⟩
      · obtain ⟨hin, hroom⟩ := hfree.mp (Or.inl hbags)
        exact ⟨Or.inr hin, Or.inl hroom⟩
      · exact ⟨Or.inl (Or.inr hin), Or.inl hroom⟩
      · obtain ⟨hin, hroom⟩ := hfree.mp (Or.inr hbags)
        exact ⟨Or.inr hin, Or.inl hroom⟩
    · rintro ⟨((h | ⟨hnull, hin⟩) | hin) | hin, hroom | ⟨hstack, hroom⟩⟩
      · exact absurd h hasked
      · exact absurd h hasked
      · exact Or.inl (Or.inl (Or.inl (Or.inl (Or.inr ⟨hnull, Or.inr ⟨hin, hroom⟩⟩))))
      · exact Or.inl (Or.inl (Or.inl (Or.inl (Or.inr ⟨hnull, Or.inl ⟨hstack, hin, hroom⟩⟩))))
      · exact Or.inl (Or.inr ⟨hin, hroom⟩)
      · exact Or.inl (Or.inl (Or.inl (Or.inr ⟨hstack, Or.inl (Or.inl ⟨hin, hroom⟩)⟩)))
      · rcases hfree.mpr ⟨hin, hroom⟩ with hbags | hbags
        · exact Or.inl (Or.inl (Or.inr hbags))
        · exact Or.inr hbags
      · rcases hmerge.mpr ⟨hin, hroom⟩ with hbags | hbags
        · exact Or.inl (Or.inl (Or.inl (Or.inr ⟨hstack, Or.inl (Or.inr hbags)⟩)))
        · exact Or.inl (Or.inl (Or.inl (Or.inr ⟨hstack, Or.inr hbags⟩)))

theorem sum_plannedSlots (hslot : SlotAccepted catalog inv item asked swap) :
    ∑ pos ∈ (plannedSlots catalog inv item asked).toFinset,
        capacity catalog inv item asked swap pos = reachedRoom catalog inv item asked swap := by
  refine Finset.sum_subset ?_ ?_
  · intro pos hpos
    exact List.mem_toFinset.mpr ((mem_plannedSlots hslot).mp (List.mem_toFinset.mp hpos)).1
  · intro pos hreached hplanned
    by_contra hne
    refine hplanned (List.mem_toFinset.mpr ((mem_plannedSlots hslot).mpr
      ⟨List.mem_toFinset.mp hreached, Nat.pos_of_ne_zero hne⟩))

/-- The search for room succeeds or ends with slots that are all full, by what it reaches. -/
theorem sound_search (hslot : SlotAccepted catalog inv item asked swap)
    (hsearch : Searchable catalog inv item asked) {count : Nat} (hcount : 0 < count) :
    (runSearch done full (storePlan catalog inv asked item swap) ⟨[], count⟩).2.filling.Sound
        (capacity catalog inv item asked swap) count (plannedSlots catalog inv item asked) ∧
      (runSearch done full (storePlan catalog inv asked item swap) ⟨[], count⟩).2.count =
        count - reachedRoom catalog inv item asked swap ∧
      (runSearch done full (storePlan catalog inv asked item swap) ⟨[], count⟩).1 =
        if count ≤ reachedRoom catalog inv item asked swap then done else full := by
  obtain ⟨hfilling, hres⟩ := @runSearch_of_visits _ _ _ done full
    ⟨[], count⟩ (storePlan_visits hslot hsearch) hcount
  have hsound := (Filling.sound_start (capacity catalog inv item asked swap) count).run
    fun pos hpos => ((mem_plannedSlots hslot).mp hpos).2
  have hleft := hsound.left_eq
  rw [List.nil_append, sum_plannedSlots hslot] at hleft
  have hcountLeft := (congrArg Filling.left hfilling).trans hleft
  rw [hres, hfilling]
  refine ⟨hsound, hcountLeft, ?_⟩
  refine ite_congr (propext ?_) (fun _ => rfl) fun _ => rfl
  rw [show Search.count _ = _ from hcountLeft, Nat.sub_eq_zero_iff_le]

/-! ### Searches that are refused -/

theorem inBag_refuses (hfull : inv.isNotEmptyBag catalog item = true) (s : Search) :
    IsRefusal (canStoreItemInBag catalog inv bag merge nonSpecialized item skip s).1 ∧
      (canStoreItemInBag catalog inv bag merge nonSpecialized item skip s).2 = s := by
  unfold canStoreItemInBag
  split
  · exact ⟨List.mem_of_elem_eq_true rfl, rfl⟩
  · split
    · exact ⟨List.mem_of_elem_eq_true rfl, rfl⟩
    · dsimp only
      split
      · exact ⟨List.mem_of_elem_eq_true rfl, rfl⟩
      · exact ⟨List.mem_of_elem_eq_true rfl, rfl⟩

theorem inInventorySlots_refuses (hfull : inv.isNotEmptyBag catalog item = true)
    {slotBegin slotEnd : Nat} : StepRefuses (.must (canStoreItemInInventorySlots catalog inv
      slotBegin slotEnd merge item skip)) := by
  intro s
  rw [canStoreItemInInventorySlots, if_pos hfull]
  exact ⟨List.mem_of_elem_eq_true rfl, rfl⟩

theorem askedFor_refuses (h : inv.isNotEmptyBag catalog item = true ∨
    asked.bag ≠ inventorySlotBag0 ∧ bagTakes catalog inv item asked.bag ≠ true) :
    StepRefuses (.must (inBagAskedFor catalog inv inventorySlotItemStart inventorySlotItemEnd merge
      item asked)) := by
  intro s
  have hthis : ∀ plain, IsRefusal (canStoreItemInBag catalog inv asked.bag merge plain item
      ⟨nullBag, asked.slot⟩ s).1 ∧ (canStoreItemInBag catalog inv asked.bag merge plain item
        ⟨nullBag, asked.slot⟩ s).2 = s ∨ asked.bag = inventorySlotBag0 := by
    intro plain
    cases hfull : inv.isNotEmptyBag catalog item with
    | true => exact Or.inl (inBag_refuses hfull s)
    | false =>
      obtain ⟨-, hno⟩ := h.resolve_left (Bool.eq_false_iff.mp hfull)
      left
      rw [inBag_eq hfull, if_neg fun hall => hno hall.2.1]
      exact ⟨List.mem_of_elem_eq_true rfl, rfl⟩
  unfold inBagAskedFor
  split
  · next hown =>
      have hfull := h.resolve_right fun hother => hother.1 hown
      exact inInventorySlots_refuses hfull s
  · next hother =>
      obtain ⟨hspecial, hsame⟩ := (hthis false).resolve_right hother
      unfold canStoreItemInThisBag
      split
      · next s' hok =>
          rw [hok] at hspecial
          exact absurd rfl (isRefusal_ne_ok hspecial)
      · next res s' _ hres =>
          rw [hres] at hsame
          obtain rfl : s' = s := hsame
          exact (hthis true).resolve_right hother

/-- The slots in the way of which stands only the slot that was asked for. -/
def specificSlots (asked : ItemPos) : List ItemPos := if asked.IsSpecific then [asked] else []

theorem storePlan_refuses_slot (h : ¬ SlotAccepted catalog inv item asked swap) :
    PlanRefuses cap (storePlan catalog inv asked item swap) [] := by
  rw [SlotAccepted, Classical.not_imp, Option.not_isSome_iff_eq_none] at h
  refine ⟨[], .must (canStoreItemInSpecificSlot catalog inv asked swap item), ?_, rfl,
    specific_refuses h.2⟩
  rw [storePlan, if_pos (show asked.bag ≠ nullBag ∧ asked.slot ≠ nullSlot from h.1)]
  simp only [List.append_assoc]
  exact List.prefix_append _ _

theorem storePlan_refuses (hslot : SlotAccepted catalog inv item asked swap)
    (h : ¬ Searchable catalog inv item asked) :
    PlanRefuses (capacity catalog inv item asked swap) (storePlan catalog inv asked item swap)
      (specificSlots asked) := by
  have hspecific : PlanVisits (capacity catalog inv item asked swap)
      (if asked.bag ≠ nullBag ∧ asked.slot ≠ nullSlot then
        [.must (canStoreItemInSpecificSlot catalog inv asked swap item)] else [])
      (specificSlots asked) := PlanVisits.ite fun hspecific => planVisits_specific hslot hspecific
  have hwhy : inv.isNotEmptyBag catalog item = true ∨ asked.bag ≠ nullBag ∧
      asked.bag ≠ inventorySlotBag0 ∧ bagTakes catalog inv item asked.bag ≠ true := by
    cases hfull : inv.isNotEmptyBag catalog item with
    | true => exact Or.inl rfl
    | false =>
      right
      by_contra hbag
      refine h ⟨hfull, fun hnull hother => ?_⟩
      by_contra hno
      exact hbag ⟨hnull, hother, hno⟩
  by_cases hnull : asked.bag ≠ nullBag
  · have hrefuses : ∀ merge, StepRefuses (.must (inBagAskedFor catalog inv inventorySlotItemStart
        inventorySlotItemEnd merge item asked)) :=
      fun merge => askedFor_refuses (hwhy.imp_right And.right)
    by_cases hstack : (catalog.template item.entry).stackable ≠ 1
    · refine ⟨_, _, ?_, hspecific, hrefuses true⟩
      rw [storePlan, if_pos hnull, if_pos hstack]
      simp only [List.append_assoc]
      exact ⟨_, List.append_assoc ..⟩
    · refine ⟨_, _, ?_, hspecific, hrefuses false⟩
      rw [storePlan, if_pos hnull, if_neg hstack]
      simp only [List.append_assoc]
      exact ⟨_, List.append_assoc ..⟩
  · have hfull := hwhy.resolve_right fun hbag => hnull hbag.1
    by_cases hstack : (catalog.template item.entry).stackable ≠ 1
    · refine ⟨_, .must (canStoreItemInInventorySlots catalog inv inventorySlotItemStart
        inventorySlotItemEnd true item asked), ?_, hspecific, inInventorySlots_refuses hfull⟩
      rw [storePlan, if_neg hnull, if_pos hstack]
      simp only [List.append_assoc]
      exact ⟨_, List.append_assoc ..⟩
    · have hpassed : PlanVisits (capacity catalog inv item asked swap)
          (if (catalog.template item.entry).bagFamily ≠ 0 then
            inBags catalog inv inventorySlotBagStart inventorySlotBagEnd false false item asked
            else []) [] := by
        split
        · refine @planVisits_map _ _ (fun _ => []) _ fun bag _ => Or.inr ⟨rfl, fun s => ?_⟩
          obtain ⟨hrefusal, hsame⟩ := inBag_refuses hfull s
          exact ⟨isRefusal_ne_ok hrefusal, hsame⟩
        · rfl
      have hbefore := hspecific.append hpassed
      rw [List.append_nil] at hbefore
      refine ⟨_, .refuse .bagInBag, ?_, hbefore, List.mem_of_elem_eq_true rfl⟩
      rw [storePlan, if_neg hnull, if_neg hstack, if_pos hfull]
      simp only [List.append_assoc, List.nil_append]
      exact ⟨_, by simp only [List.append_assoc]; rfl⟩

/-- The room in the slot that was asked for. -/
def specificRoom (catalog : Catalog) (inv : Inventory) (item : Item) (asked : ItemPos)
    (swap : Bool) : Nat :=
  if asked.IsSpecific then (askedRoom catalog inv item asked swap).getD 0 else 0

theorem sum_specificSlots (catalog : Catalog) (inv : Inventory) (item : Item) (asked : ItemPos)
    (swap : Bool) :
    ∑ pos ∈ (specificSlots asked).toFinset, capacity catalog inv item asked swap pos =
      specificRoom catalog inv item asked swap := by
  rw [specificSlots, specificRoom]
  split
  · next hspecific =>
      rw [List.toFinset_cons, List.toFinset_nil, insert_empty_eq, Finset.sum_singleton, capacity,
        if_pos ⟨hspecific, rfl⟩]
  · rfl

theorem specificSlots_pos (hslot : SlotAccepted catalog inv item asked swap)
    (h : pos ∈ specificSlots asked) : pos ∈ reachedSlots catalog inv item asked ∧
      0 < capacity catalog inv item asked swap pos := by
  refine (mem_plannedSlots hslot).mp ?_
  unfold plannedSlots
  dsimp only
  rw [specificSlots] at h
  simp only [List.mem_append, h, true_or]

/-- The search is refused where it asks for a slot that is not accepted. -/
theorem refused_slot (hslot : ¬ SlotAccepted catalog inv item asked swap) {count : Nat}
    (hcount : 0 < count) :
    IsRefusal (runSearch done full (storePlan catalog inv asked item swap) ⟨[], count⟩).1 ∧
      (runSearch done full (storePlan catalog inv asked item swap) ⟨[], count⟩).2 =
        ⟨[], count⟩ := by
  obtain ⟨hfilling, hres⟩ := @runSearch_of_refuses (capacity catalog inv item asked swap) _ _
    done full ⟨[], count⟩ (storePlan_refuses_slot hslot) hcount
  have hsame : (runSearch done full (storePlan catalog inv asked item swap) ⟨[], count⟩).2 =
      ⟨[], count⟩ := by
    injection hfilling with hdest hleft
    exact (Search.mk.injEq ..).mpr ⟨hdest, hleft⟩
  rw [hsame] at hres ⊢
  exact ⟨(hres.resolve_left fun hzero => hcount.ne' hzero.1).2, rfl⟩

/-- A search that is refused behind the slot that it asks for. -/
theorem refused_search (hslot : SlotAccepted catalog inv item asked swap)
    (hsearch : ¬ Searchable catalog inv item asked) {count : Nat} (hcount : 0 < count) :
    (runSearch done full (storePlan catalog inv asked item swap) ⟨[], count⟩).2.filling.Sound
        (capacity catalog inv item asked swap) count (specificSlots asked) ∧
      (count ≤ specificRoom catalog inv item asked swap ∧
          (runSearch done full (storePlan catalog inv asked item swap) ⟨[], count⟩).2.count = 0 ∧
          (runSearch done full (storePlan catalog inv asked item swap) ⟨[], count⟩).1 = done ∨
        specificRoom catalog inv item asked swap < count ∧
          IsRefusal (runSearch done full (storePlan catalog inv asked item swap) ⟨[], count⟩).1) := by
  obtain ⟨hfilling, hres⟩ := @runSearch_of_refuses _ _ _ done full
    ⟨[], count⟩ (storePlan_refuses hslot hsearch) hcount
  have hsound := (Filling.sound_start (capacity catalog inv item asked swap) count).run
    fun pos hpos => (specificSlots_pos hslot hpos).2
  rw [List.nil_append] at hsound
  have hleft := hsound.left_eq
  rw [sum_specificSlots] at hleft
  have hcountLeft : (runSearch done full (storePlan catalog inv asked item swap)
      ⟨[], count⟩).2.count =
      count - specificRoom catalog inv item asked swap :=
    (congrArg Filling.left hfilling).trans hleft
  rw [hfilling]
  refine ⟨hsound, hres.imp ?_ ?_⟩
  · rintro ⟨hzero, hdone⟩
    exact ⟨by omega, hzero, hdone⟩
  · rintro ⟨hleft, hrefusal⟩
    exact ⟨by omega, hrefusal⟩

theorem specificRoom_le_reachedRoom (hslot : SlotAccepted catalog inv item asked swap) :
    specificRoom catalog inv item asked swap ≤ reachedRoom catalog inv item asked swap := by
  rw [← sum_specificSlots]
  refine Finset.sum_le_sum_of_subset fun pos hpos => ?_
  exact List.mem_toFinset.mpr (specificSlots_pos hslot (List.mem_toFinset.mp hpos)).1

/-! ### The outcomes of a search -/

/-- What is found lies in slots that are reached, and together with what is left it makes up the
count. -/
theorem search_sound {count : Nat} (hcount : 0 < count) :
    ∃ slots, (∀ pos ∈ slots, SlotAccepted catalog inv item asked swap ∧
        pos ∈ reachedSlots catalog inv item asked) ∧
      (runSearch done full (storePlan catalog inv asked item swap) ⟨[], count⟩).2.filling.Sound
        (capacity catalog inv item asked swap) count slots := by
  by_cases hslot : SlotAccepted catalog inv item asked swap
  · by_cases hsearch : Searchable catalog inv item asked
    · exact ⟨_, fun pos hpos => ⟨hslot, ((mem_plannedSlots hslot).mp hpos).1⟩,
        (sound_search done full hslot hsearch hcount).1⟩
    · exact ⟨_, fun pos hpos => ⟨hslot, (specificSlots_pos hslot hpos).1⟩,
        (refused_search done full hslot hsearch hcount).1⟩
  · refine ⟨[], fun pos hpos => absurd hpos List.not_mem_nil, ?_⟩
    rw [(refused_slot done full hslot hcount).2]
    exact Filling.sound_start _ count

theorem search_result (catalog : Catalog) (inv : Inventory) (item : Item) (asked : ItemPos)
    (swap : Bool) {count : Nat} (hcount : 0 < count) :
    ((runSearch done full (storePlan catalog inv asked item swap) ⟨[], count⟩).1 = done ∧
        (runSearch done full (storePlan catalog inv asked item swap) ⟨[], count⟩).2.count = 0 ∧
        SlotAccepted catalog inv item asked swap ∧
          (count ≤ specificRoom catalog inv item asked swap ∨
            Searchable catalog inv item asked ∧
              count ≤ reachedRoom catalog inv item asked swap)) ∨
      ((runSearch done full (storePlan catalog inv asked item swap) ⟨[], count⟩).1 = full ∧
        (runSearch done full (storePlan catalog inv asked item swap) ⟨[], count⟩).2.count =
          count - reachedRoom catalog inv item asked swap ∧
        SlotAccepted catalog inv item asked swap ∧ Searchable catalog inv item asked ∧
          reachedRoom catalog inv item asked swap < count) ∨
      (IsRefusal (runSearch done full (storePlan catalog inv asked item swap) ⟨[], count⟩).1 ∧
        ¬ (SlotAccepted catalog inv item asked swap ∧
          (count ≤ specificRoom catalog inv item asked swap ∨
            Searchable catalog inv item asked))) := by
  by_cases hslot : SlotAccepted catalog inv item asked swap
  · by_cases hsearch : Searchable catalog inv item asked
    · obtain ⟨-, hleft, hres⟩ := sound_search done full hslot hsearch hcount
      by_cases hfits : count ≤ reachedRoom catalog inv item asked swap
      · rw [if_pos hfits] at hres
        exact Or.inl ⟨hres, by omega, hslot, Or.inr ⟨hsearch, hfits⟩⟩
      · rw [if_neg hfits] at hres
        exact Or.inr (Or.inl ⟨hres, hleft, hslot, hsearch, not_le.mp hfits⟩)
    · obtain ⟨-, ⟨hfits, hzero, hres⟩ | ⟨hshort, hres⟩⟩ :=
        refused_search done full hslot hsearch hcount
      · exact Or.inl ⟨hres, hzero, hslot, Or.inl hfits⟩
      · refine Or.inr (Or.inr ⟨hres, fun hall => ?_⟩)
        rcases hall.2 with hfits | hsearch'
        · omega
        · exact hsearch hsearch'
  · exact Or.inr (Or.inr ⟨(refused_slot done full hslot hcount).1, fun hall => hslot hall.1⟩)

end Cataclysm.Items
