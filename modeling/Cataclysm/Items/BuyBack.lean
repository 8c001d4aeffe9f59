import Cataclysm.Items.Slots
import Cataclysm.Lib.Runs

/-!
# The buyback slots

What a player sells stays in twelve slots, from which he can buy it back. A cursor remembers the
slot that the next sold item takes; when that slot is occupied, a search picks another one.

## Implementation notes

A slot is the item pointer together with the three update fields that belong to it. `destroyed`
lists the items that were given the state `ITEM_REMOVED`, in that order. The sell prices by entry
stand for the templates, which an item may lack; the time is the number of seconds since the
player logged in.
-/

namespace Cataclysm.Items

def buybackSlotEnd : Nat := 86

/-- `m_items[slot]` and the fields `PLAYER_FIELD_VENDORBUYBACK_SLOT_1`,
`PLAYER_FIELD_BUYBACK_PRICE_1` and `PLAYER_FIELD_BUYBACK_TIMESTAMP_1` of the slot. -/
structure BuyBackSlot where
  item : Option Item
  vendorGuid : Nat
  price : Nat
  timestamp : Nat
  deriving DecidableEq

namespace BuyBackSlot

def empty : BuyBackSlot := ⟨none, 0, 0, 0⟩

variable (sellPrice : Nat → Option Nat)

def priceOf (item : Item) : Nat :=
  match sellPrice item.entry with
  | some price => price * item.count % 2 ^ 32
  | none => 0

def timeOf (elapsed : Int) : Nat := uint32 (elapsed + 30 * 3600)

/-- A slot that holds an item sold at a time. -/
def sold (item : Item) (elapsed : Int) : BuyBackSlot :=
  ⟨some item, item.guid, priceOf sellPrice item, timeOf elapsed⟩

end BuyBackSlot

/-- The items sold, by slot, and the slot to be used next. -/
structure BuyBack where
  slots : Nat → BuyBackSlot
  currentBuybackSlot : Nat
  destroyed : List Item

/-- A sale or a buyback. -/
inductive BuyBackAction
  | add (item : Option Item) (elapsed : Int)
  | remove (slot : Nat) (del : Bool)
  deriving DecidableEq

def IsBuybackSlot (slot : Nat) : Prop := buybackSlotStart ≤ slot ∧ slot < buybackSlotEnd

instance (slot : Nat) : Decidable (IsBuybackSlot slot) :=
  inferInstanceAs (Decidable (_ ∧ _))

namespace BuyBack

def initial : BuyBack := ⟨fun _ => .empty, buybackSlotStart, []⟩

def item? (b : BuyBack) (slot : Nat) : Option Item := (b.slots slot).item

def timestamp (b : BuyBack) (slot : Nat) : Nat := (b.slots slot).timestamp

def clear (b : BuyBack) (slot : Nat) : BuyBack :=
  { b with slots := Function.update b.slots slot .empty }

/-- What a call with `del` does to the item in the slot. -/
def drop (b : BuyBack) (slot : Nat) (del : Bool) : BuyBack :=
  if del then { b with destroyed := b.destroyed ++ (b.item? slot).toList } else b

/-- The cursor goes to the freed slot when its own slot is occupied. -/
def moveCursor (b : BuyBack) (slot : Nat) : BuyBack :=
  if (b.item? b.currentBuybackSlot).isSome then { b with currentBuybackSlot := slot } else b

def removeItemFromBuyBackSlot (b : BuyBack) (slot : Nat) (del : Bool) : BuyBack :=
  if IsBuybackSlot slot then ((b.drop slot del).clear slot).moveCursor slot else b

/-- The loop of the search: the variables `slot` and `oldest_slot` behind it. -/
def searchLoop (b : BuyBack) : Nat → Nat → Nat → List Nat → Nat × Nat
  | slot, _, oldestSlot, [] => (slot, oldestSlot)
  | slot, oldestTime, oldestSlot, i :: rest =>
    if (b.item? i).isNone then (i, oldestSlot)
    else if b.timestamp i < oldestTime then searchLoop b slot (b.timestamp i) i rest
    else searchLoop b slot oldestTime oldestSlot rest

def searchSlots : List Nat :=
  List.range' (buybackSlotStart + 1) (buybackSlotEnd - (buybackSlotStart + 1))

/-- The slot of the next item. Behind the loop `slot` is set to `oldest_slot` in every case. -/
def targetSlot (b : BuyBack) : Nat :=
  if (b.item? b.currentBuybackSlot).isSome then
    (b.searchLoop b.currentBuybackSlot (b.timestamp buybackSlotStart) buybackSlotStart
      searchSlots).2
  else b.currentBuybackSlot

def store (sellPrice : Nat → Option Nat) (b : BuyBack) (slot : Nat) (item : Item)
    (elapsed : Int) : BuyBack :=
  { b with slots := Function.update b.slots slot (.sold sellPrice item elapsed) }

def nextSlot (b : BuyBack) : BuyBack :=
  if b.currentBuybackSlot < buybackSlotEnd - 1 then
    { b with currentBuybackSlot := b.currentBuybackSlot + 1 }
  else b

def addItemToBuyBackSlot (sellPrice : Nat → Option Nat) (b : BuyBack) (pItem : Option Item)
    (elapsed : Int) : BuyBack :=
  match pItem with
  | some item =>
    ((b.removeItemFromBuyBackSlot b.targetSlot true).store sellPrice b.targetSlot item
      elapsed).nextSlot
  | none => b

def step (sellPrice : Nat → Option Nat) (b : BuyBack) : BuyBackAction → BuyBack
  | .add item elapsed => b.addItemToBuyBackSlot sellPrice item elapsed
  | .remove slot del => b.removeItemFromBuyBackSlot slot del

/-- All twelve slots are occupied. -/
def Full (b : BuyBack) : Prop := ∀ slot, IsBuybackSlot slot → (b.item? slot).isSome

/-- The item is in no slot. -/
def NotStored (b : BuyBack) (item : Item) : Prop :=
  ∀ slot, IsBuybackSlot slot → ∀ other, b.item? slot = some other → other.guid ≠ item.guid

/-- Adding an item leads from one state to another in the way of a buyback list: the item is in
this slot and in no other one, and if an item had to go then all slots were occupied and none held
an older one. -/
structure Added (sellPrice : Nat → Option Nat) (b : BuyBack) (item : Item) (elapsed : Int)
    (b' : BuyBack) (slot : Nat) : Prop where
  inRange : IsBuybackSlot slot
  stored : b'.slots slot = .sold sellPrice item elapsed
  nowhereElse : ∀ other, IsBuybackSlot other → ∀ stored, b'.item? other = some stored →
    stored.guid = item.guid → other = slot
  unchanged : ∀ other, other ≠ slot → b'.slots other = b.slots other
  evicted : b.item? slot = none ∧ b'.destroyed = b.destroyed ∨
    ∃ old, b.item? slot = some old ∧ b'.destroyed = b.destroyed ++ [old] ∧ b.Full ∧
      ∀ other, IsBuybackSlot other → b.timestamp slot ≤ b.timestamp other

/-- What every call keeps: the cursor is on a slot, and an empty slot has the time `0`. -/
structure Kept (b : BuyBack) : Prop where
  cursor : IsBuybackSlot b.currentBuybackSlot
  emptyTime : ∀ slot, b.item? slot = none → b.timestamp slot = 0

variable {sellPrice : Nat → Option Nat} {b : BuyBack}

theorem isBuybackSlot_start : IsBuybackSlot buybackSlotStart := by decide

theorem mem_searchSlots {slot : Nat} :
    slot ∈ searchSlots ↔ IsBuybackSlot slot ∧ slot ≠ buybackSlotStart := by
  rw [searchSlots, List.mem_range'_1, IsBuybackSlot, buybackSlotStart, buybackSlotEnd]
  omega

@[simp] theorem slots_drop (b : BuyBack) (slot : Nat) (del : Bool) :
    (b.drop slot del).slots = b.slots := by
  cases del <;> rfl

@[simp] theorem currentBuybackSlot_drop (b : BuyBack) (slot : Nat) (del : Bool) :
    (b.drop slot del).currentBuybackSlot = b.currentBuybackSlot := by
  cases del <;> rfl

@[simp] theorem slots_moveCursor (b : BuyBack) (slot : Nat) :
    (b.moveCursor slot).slots = b.slots := by
  rw [moveCursor]
  split <;> rfl

@[simp] theorem destroyed_moveCursor (b : BuyBack) (slot : Nat) :
    (b.moveCursor slot).destroyed = b.destroyed := by
  rw [moveCursor]
  split <;> rfl

theorem cursor_moveCursor {slot : Nat} (hslot : IsBuybackSlot slot)
    (h : IsBuybackSlot b.currentBuybackSlot) :
    IsBuybackSlot (b.moveCursor slot).currentBuybackSlot := by
  rw [moveCursor]
  split
  · exact hslot
  · exact h

@[simp] theorem slots_nextSlot (b : BuyBack) : b.nextSlot.slots = b.slots := by
  rw [nextSlot]
  split <;> rfl

@[simp] theorem destroyed_nextSlot (b : BuyBack) : b.nextSlot.destroyed = b.destroyed := by
  rw [nextSlot]
  split <;> rfl

theorem cursor_nextSlot (h : IsBuybackSlot b.currentBuybackSlot) :
    IsBuybackSlot b.nextSlot.currentBuybackSlot := by
  rw [nextSlot]
  split
  · next hlt =>
      refine ⟨h.1.trans (Nat.le_succ _), ?_⟩
      exact Nat.add_lt_of_lt_sub hlt
  · exact h

theorem slots_removeItemFromBuyBackSlot {slot : Nat} (hslot : IsBuybackSlot slot) (del : Bool) :
    (b.removeItemFromBuyBackSlot slot del).slots = Function.update b.slots slot .empty := by
  rw [removeItemFromBuyBackSlot, if_pos hslot, slots_moveCursor, clear, slots_drop]

theorem destroyed_removeItemFromBuyBackSlot {slot : Nat} (hslot : IsBuybackSlot slot) :
    (b.removeItemFromBuyBackSlot slot true).destroyed =
      b.destroyed ++ (b.item? slot).toList := by
  rw [removeItemFromBuyBackSlot, if_pos hslot, destroyed_moveCursor]
  rfl

/-- An update of the slots that writes an empty slot or an item keeps the times of empty slots. -/
theorem emptyTime_update {slots slots' : Nat → BuyBackSlot} {slot : Nat} {value : BuyBackSlot}
    (h : ∀ other, (slots other).item = none → (slots other).timestamp = 0)
    (hvalue : value.item = none → value.timestamp = 0)
    (hslots : slots' = Function.update slots slot value) :
    ∀ other, (slots' other).item = none → (slots' other).timestamp = 0 := by
  intro other
  rw [hslots]
  by_cases hother : other = slot
  · rw [hother, Function.update_self]
    exact hvalue
  · rw [Function.update_of_ne hother]
    exact h other

theorem Kept.remove (h : b.Kept) (slot : Nat) (del : Bool) :
    (b.removeItemFromBuyBackSlot slot del).Kept := by
  by_cases hslot : IsBuybackSlot slot
  · constructor
    · rw [removeItemFromBuyBackSlot, if_pos hslot]
      apply cursor_moveCursor hslot
      rw [clear, currentBuybackSlot_drop]
      exact h.cursor
    · exact emptyTime_update h.emptyTime (fun _ => rfl)
        (slots_removeItemFromBuyBackSlot hslot del)
  · rw [removeItemFromBuyBackSlot, if_neg hslot]
    exact h

/-- The loop stays among the slots that it looks at. -/
theorem searchLoop_mem (b : BuyBack) (slot oldestTime oldestSlot : Nat) (slots : List Nat) :
    (b.searchLoop slot oldestTime oldestSlot slots).2 ∈ oldestSlot :: slots := by
  induction slots generalizing oldestTime oldestSlot with
  | nil => exact List.mem_cons_self
  | cons i rest ih =>
    rw [searchLoop]
    split
    · exact List.mem_cons_self
    · split
      · exact List.mem_cons_of_mem _ (ih _ i)
      · rcases List.mem_cons.mp (ih oldestTime oldestSlot) with hsame | hrest
        · rw [hsame]
          exact List.mem_cons_self
        · exact List.mem_cons_of_mem _ (List.mem_cons_of_mem _ hrest)

/-- From an occupied slot the loop only moves on to occupied slots. -/
theorem searchLoop_occupied (slot oldestTime : Nat) {oldestSlot : Nat} (slots : List Nat)
    (h : (b.item? oldestSlot).isSome) :
    (b.item? (b.searchLoop slot oldestTime oldestSlot slots).2).isSome := by
  induction slots generalizing oldestTime oldestSlot with
  | nil => exact h
  | cons i rest ih =>
    rw [searchLoop]
    split
    · exact h
    · next hitem =>
        split
        · exact ih _ (Option.isSome_iff_ne_none.mpr fun hnone =>
            hitem (Option.isNone_iff_eq_none.mpr hnone))
        · exact ih _ h

/-- No time is less than `0`. -/
theorem searchLoop_zero (b : BuyBack) (slot oldestSlot : Nat) (slots : List Nat) :
    (b.searchLoop slot 0 oldestSlot slots).2 = oldestSlot := by
  induction slots with
  | nil => rfl
  | cons i rest ih =>
    rw [searchLoop]
    split
    · rfl
    · rw [if_neg (Nat.not_lt_zero _)]
      exact ih

/-- Over occupied slots the loop finds one with the least time. -/
theorem searchLoop_oldest (slot : Nat) {oldestSlot : Nat} {slots : List Nat}
    (hfull : ∀ i ∈ slots, (b.item? i).isSome) :
    ∀ i ∈ oldestSlot :: slots,
      b.timestamp (b.searchLoop slot (b.timestamp oldestSlot) oldestSlot slots).2 ≤
        b.timestamp i := by
  induction slots generalizing oldestSlot with
  | nil =>
    intro i hi
    rw [List.mem_singleton.mp hi]
    exact le_refl _
  | cons first rest ih =>
    have hfirst : ¬(b.item? first).isNone := by
      rw [Option.isNone_iff_eq_none]
      exact Option.isSome_iff_ne_none.mp (hfull first List.mem_cons_self)
    have hrest : ∀ i ∈ rest, (b.item? i).isSome := fun i hi =>
      hfull i (List.mem_cons_of_mem _ hi)
    intro i hi
    rw [searchLoop, if_neg hfirst]
    split
    · next hlt =>
        have hfound : ∀ i ∈ first :: rest, b.timestamp (b.searchLoop slot (b.timestamp first)
            first rest).2 ≤ b.timestamp i := ih hrest
        rcases List.mem_cons.mp hi with rfl | hi
        · exact (hfound first List.mem_cons_self).trans hlt.le
        · exact hfound i hi
    · next hle =>
        have hfound : ∀ i ∈ oldestSlot :: rest, b.timestamp (b.searchLoop slot
            (b.timestamp oldestSlot) oldestSlot rest).2 ≤ b.timestamp i := ih hrest
        rcases List.mem_cons.mp hi with rfl | hi
        · exact hfound i List.mem_cons_self
        · rcases List.mem_cons.mp hi with rfl | hi
          · exact (hfound oldestSlot List.mem_cons_self).trans (not_lt.mp hle)
          · exact hfound i (List.mem_cons_of_mem _ hi)

theorem isBuybackSlot_targetSlot (h : b.Kept) : IsBuybackSlot b.targetSlot := by
  rw [targetSlot]
  split
  · rcases List.mem_cons.mp (b.searchLoop_mem b.currentBuybackSlot (b.timestamp buybackSlotStart)
      buybackSlotStart searchSlots) with hstart | hsearch
    · rw [hstart]
      exact isBuybackSlot_start
    · exact (mem_searchSlots.mp hsearch).1
  · exact h.cursor

theorem targetSlot_of_free_cursor (h : b.item? b.currentBuybackSlot = none) :
    b.targetSlot = b.currentBuybackSlot := by
  rw [targetSlot, h]
  rfl

theorem targetSlot_of_free_start (h : b.Kept) (hcursor : (b.item? b.currentBuybackSlot).isSome)
    (hstart : b.item? buybackSlotStart = none) : b.targetSlot = buybackSlotStart := by
  rw [targetSlot, if_pos hcursor, h.emptyTime _ hstart]
  exact b.searchLoop_zero _ _ _

/-- With the cursor's slot and the first slot occupied the search ends on an occupied slot, whether
or not it met a free one. -/
theorem targetSlot_occupied (hcursor : (b.item? b.currentBuybackSlot).isSome)
    (hstart : (b.item? buybackSlotStart).isSome) : (b.item? b.targetSlot).isSome := by
  rw [targetSlot, if_pos hcursor]
  exact searchLoop_occupied _ _ _ hstart

theorem targetSlot_oldest (h : b.Kept) (hfull : b.Full) {slot : Nat} (hslot : IsBuybackSlot slot) :
    b.timestamp b.targetSlot ≤ b.timestamp slot := by
  rw [targetSlot, if_pos (hfull _ h.cursor)]
  refine searchLoop_oldest b.currentBuybackSlot
    (fun i hi => hfull i (mem_searchSlots.mp hi).1) slot ?_
  by_cases hstart : slot = buybackSlotStart
  · rw [hstart]
    exact List.mem_cons_self
  · exact List.mem_cons_of_mem _ (mem_searchSlots.mpr ⟨hslot, hstart⟩)

theorem slots_addItemToBuyBackSlot (h : b.Kept) (item : Item) (elapsed : Int) :
    (b.addItemToBuyBackSlot sellPrice (some item) elapsed).slots =
      Function.update b.slots b.targetSlot (.sold sellPrice item elapsed) := by
  rw [addItemToBuyBackSlot, slots_nextSlot, store,
    slots_removeItemFromBuyBackSlot (isBuybackSlot_targetSlot h), Function.update_idem]

theorem destroyed_addItemToBuyBackSlot (h : b.Kept) (item : Item) (elapsed : Int) :
    (b.addItemToBuyBackSlot sellPrice (some item) elapsed).destroyed =
      b.destroyed ++ (b.item? b.targetSlot).toList := by
  rw [addItemToBuyBackSlot, destroyed_nextSlot, store,
    destroyed_removeItemFromBuyBackSlot (isBuybackSlot_targetSlot h)]

theorem Kept.add (h : b.Kept) (pItem : Option Item) (elapsed : Int) :
    (b.addItemToBuyBackSlot sellPrice pItem elapsed).Kept := by
  cases pItem with
  | none => exact h
  | some item =>
    constructor
    · exact cursor_nextSlot (b := (b.removeItemFromBuyBackSlot b.targetSlot true).store
        sellPrice b.targetSlot item elapsed) (h.remove _ _).cursor
    · exact emptyTime_update h.emptyTime (fun hnone => absurd hnone (Option.some_ne_none item))
        (slots_addItemToBuyBackSlot h item elapsed)

theorem Kept.step (h : b.Kept) (action : BuyBackAction) : (b.step sellPrice action).Kept := by
  cases action with
  | add item elapsed => exact h.add item elapsed
  | remove slot del => exact h.remove slot del

theorem kept_initial : initial.Kept :=
  ⟨isBuybackSlot_start, fun _ _ => rfl⟩

theorem Kept.run (h : b.Kept) (actions : List BuyBackAction) :
    (Runs.run (BuyBack.step sellPrice) b actions).Kept := by
  induction actions generalizing b with
  | nil => exact h
  | cons action rest ih => exact ih (h.step action)

/-- An item is added in the right way as soon as its slot was free or was the oldest of twelve. -/
theorem added_targetSlot (h : b.Kept) {item : Item} (elapsed : Int) (hnew : b.NotStored item)
    (hslot : b.item? b.targetSlot = none ∨ b.Full) :
    Added sellPrice b item elapsed (b.addItemToBuyBackSlot sellPrice (some item) elapsed)
      b.targetSlot where
  inRange := isBuybackSlot_targetSlot h
  stored := by rw [slots_addItemToBuyBackSlot h, Function.update_self]
  nowhereElse := by
    intro other hrange stored hstored hguid
    by_contra hother
    rw [item?, slots_addItemToBuyBackSlot h, Function.update_of_ne hother] at hstored
    exact hnew other hrange stored hstored hguid
  unchanged := by
    intro other hother
    rw [slots_addItemToBuyBackSlot h, Function.update_of_ne hother]
  evicted := by
    rw [destroyed_addItemToBuyBackSlot h]
    cases hitem : b.item? b.targetSlot with
    | none => exact Or.inl ⟨rfl, List.append_nil _⟩
    | some old =>
      have hfull : b.Full := hslot.resolve_left (by rw [hitem]; exact Option.some_ne_none old)
      exact Or.inr ⟨old, rfl, rfl, hfull, fun other hother => targetSlot_oldest h hfull hother⟩

/-- An item that takes an occupied slot while another one is free was not added in the right
way. -/
theorem not_added_of_occupied (h : b.Kept) {item : Item} {elapsed : Int}
    (hitem : (b.item? b.targetSlot).isSome) (hfull : ¬b.Full) (slot : Nat) :
    ¬Added sellPrice b item elapsed (b.addItemToBuyBackSlot sellPrice (some item) elapsed)
      slot := by
  intro hadded
  obtain ⟨old, hold⟩ := Option.isSome_iff_exists.mp hitem
  rcases hadded.evicted with ⟨_, hsame⟩ | ⟨_, _, _, hall, _⟩
  · rw [destroyed_addItemToBuyBackSlot h, hold] at hsame
    have hlength := congrArg List.length hsame
    rw [List.length_append, Option.toList_some, List.length_singleton] at hlength
    omega
  · exact hfull hall

/-- In every state that additions and removals reach, an item that is not stored yet is added in
the right way exactly when the cursor's slot or the first slot is free or all slots are
occupied. -/
theorem added_addItemToBuyBackSlot_iff (actions : List BuyBackAction) (item : Item)
    (elapsed : Int) (hnew : (Runs.run (step sellPrice) initial actions).NotStored item) :
    (∃ slot, Added sellPrice (Runs.run (step sellPrice) initial actions) item elapsed
        ((Runs.run (step sellPrice) initial actions).addItemToBuyBackSlot sellPrice (some item)
          elapsed) slot) ↔
      (Runs.run (step sellPrice) initial actions).item?
          (Runs.run (step sellPrice) initial actions).currentBuybackSlot = none ∨
        (Runs.run (step sellPrice) initial actions).item? buybackSlotStart = none ∨
        (Runs.run (step sellPrice) initial actions).Full := by
  have hkept : (Runs.run (step sellPrice) initial actions).Kept := kept_initial.run actions
  generalize Runs.run (step sellPrice) initial actions = b at hkept hnew ⊢
  constructor
  · rintro ⟨slot, hadded⟩
    by_contra hcondition
    push Not at hcondition
    obtain ⟨hcursor, hstart, hfull⟩ := hcondition
    have hoccupied := targetSlot_occupied (Option.isSome_iff_ne_none.mpr hcursor)
      (Option.isSome_iff_ne_none.mpr hstart)
    exact not_added_of_occupied hkept hoccupied hfull slot hadded
  · intro hcondition
    refine ⟨b.targetSlot, added_targetSlot hkept elapsed hnew ?_⟩
    by_cases hcursor : b.item? b.currentBuybackSlot = none
    · rw [targetSlot_of_free_cursor hcursor]
      exact Or.inl hcursor
    · rcases hcondition.resolve_left hcursor with hstart | hfull
      · rw [targetSlot_of_free_start hkept (Option.isSome_iff_ne_none.mpr hcursor) hstart]
        exact Or.inl hstart
      · exact Or.inr hfull

/-- A list of the slots decides whether an item is stored. -/
theorem notStored_of_all {item : Item}
    (h : ((buybackSlotStart :: searchSlots).all fun slot =>
      (b.item? slot).all fun other => other.guid ≠ item.guid) = true) : b.NotStored item := by
  intro slot hslot other hother
  have hmem : slot ∈ buybackSlotStart :: searchSlots := by
    by_cases hstart : slot = buybackSlotStart
    · rw [hstart]
      exact List.mem_cons_self
    · exact List.mem_cons_of_mem _ (mem_searchSlots.mpr ⟨hslot, hstart⟩)
  have hall := List.all_eq_true.mp h slot hmem
  rw [hother] at hall
  exact of_decide_eq_true hall

def soldItem (guid : Nat) : Item := ⟨guid, 25, 1, [], false, false⟩

/-- Twelve sales, and a buyback of two of the items. -/
def boughtBack : List BuyBackAction :=
  (List.range 12).map (fun n => .add (some (soldItem (n + 1))) n) ++
    [.remove 75 false, .remove 77 false]

/-- After the buybacks one more item is sold. -/
theorem boughtBack_added :
    ∃ slot, Added (fun _ => some 7) (Runs.run (step fun _ => some 7) initial boughtBack)
      (soldItem 20) 20
      ((Runs.run (step fun _ => some 7) initial boughtBack).addItemToBuyBackSlot
        (fun _ => some 7) (some (soldItem 20)) 20) slot :=
  (added_addItemToBuyBackSlot_iff boughtBack (soldItem 20) 20
    (notStored_of_all (by decide +kernel))).mpr (Or.inl (by decide +kernel))

/-- The second item sold after that destroys the first one although slot 77 is still free. -/
theorem second_sale_destroys :
    ∃ (actions : List BuyBackAction) (item : Item) (elapsed : Int),
      (Runs.run (step fun _ => some 7) initial actions).NotStored item ∧
        ¬∃ slot, Added (fun _ => some 7) (Runs.run (step fun _ => some 7) initial actions) item
          elapsed ((Runs.run (step fun _ => some 7) initial actions).addItemToBuyBackSlot
            (fun _ => some 7) (some item) elapsed) slot := by
  refine ⟨boughtBack ++ [.add (some (soldItem 20)) 20], soldItem 21, 21,
    notStored_of_all (by decide +kernel), ?_⟩
  rintro ⟨slot, hadded⟩
  have hkept : (Runs.run (step fun _ => some 7) initial
      (boughtBack ++ [.add (some (soldItem 20)) 20])).Kept := kept_initial.run _
  have hfree : (Runs.run (step fun _ => some 7) initial
      (boughtBack ++ [.add (some (soldItem 20)) 20])).item? 77 = none := by decide +kernel
  refine not_added_of_occupied hkept (by decide +kernel) ?_ slot hadded
  intro hfull
  have hoccupied := hfull 77 (by decide +kernel)
  rw [hfree] at hoccupied
  exact Bool.noConfusion hoccupied

end BuyBack

end Cataclysm.Items
