import Cataclysm.Items.Destruction

/-!
# Paying in items

`DestroyItemCount` takes a number of pieces of an entry from the stacks that are not in trade: from
the backpack, the equipped bags, the equipment with the bag slots, the bank and the bank bags.
`HasItemCount` is the check that callers make before.

## Implementation notes

Each of the five scans is a fold over addresses, and the flag `finished` stands for the return from
the middle of one. A scan of bags asks for every slot number a bag can have, since `GetItemByPos`
gives nothing behind the end of the bag. Whether an item is in trade is told by its guid.
-/

namespace Cataclysm.Items

def ownPositions (slotBegin slotEnd : Nat) : List ItemPos :=
  (List.range' slotBegin (slotEnd - slotBegin)).map .own

def bagPositions (bagBegin bagEnd : Nat) : List ItemPos :=
  (List.range' bagBegin (bagEnd - bagBegin)).flatMap fun bag =>
    (List.range maxBagSize).map fun slot => ⟨bag, slot⟩

/-- The addresses of the five scans, in their order. -/
def searchedPositions : List ItemPos :=
  ownPositions inventorySlotItemStart inventorySlotItemEnd ++
    bagPositions inventorySlotBagStart inventorySlotBagEnd ++ ownPositions 0 inventorySlotBagEnd ++
    ownPositions bankSlotItemStart bankSlotItemEnd ++ bagPositions bankSlotBagStart bankSlotBagEnd

/-- The variables of `DestroyItemCount`. -/
structure Removal where
  inv : Inventory
  remcount : Nat
  finished : Bool

section Definitions

variable (catalog : Catalog) (facts : PlayerFacts) (inTrade : Nat → Bool) (entry count : Nat)

def Item.countsAs (item : Item) : Bool := item.entry = entry && !inTrade item.guid

/-- One position of a scan; the third one may check that the item can be unequipped. -/
def Removal.visit (unequipCheck : Bool) (r : Removal) (pos : ItemPos) : Removal :=
  if r.finished then r
  else
    match r.inv.getItemByPos catalog pos with
    | none => r
    | some item =>
      if item.countsAs inTrade entry then
        if uint32 (item.count + r.remcount) ≤ count then
          if unequipCheck && r.inv.canUnequipItem catalog facts pos false ≠ .ok then r
          else
            ⟨r.inv.destroyItemAt catalog pos, uint32 (item.count + r.remcount),
              count ≤ uint32 (item.count + r.remcount)⟩
        else
          { r with
            inv := r.inv.putItem catalog pos
              { item with count := uint32 (item.count - count + r.remcount) }
            finished := true }
      else r

def Inventory.destroyItemCount (inv : Inventory) (unequipCheck : Bool) : Inventory :=
  let visit := Removal.visit catalog facts inTrade entry count
  let inventory := (ownPositions inventorySlotItemStart inventorySlotItemEnd).foldl (visit false)
    ⟨inv, 0, false⟩
  let bags := (bagPositions inventorySlotBagStart inventorySlotBagEnd).foldl (visit false) inventory
  let equipment := (ownPositions 0 inventorySlotBagEnd).foldl (visit unequipCheck) bags
  let bank := (ownPositions bankSlotItemStart bankSlotItemEnd).foldl (visit false) equipment
  ((bagPositions bankSlotBagStart bankSlotBagEnd).foldl (visit false) bank).inv

/-- The loops of `HasItemCount` with the count so far. -/
def Inventory.hasItemCountIn (inv : Inventory) : Nat → List ItemPos → Nat × Bool
  | tempcount, [] => (tempcount, false)
  | tempcount, pos :: rest =>
    match (inv.getItemByPos catalog pos).filter (Item.countsAs inTrade entry) with
    | some item =>
      if count ≤ uint32 (tempcount + item.count) then (uint32 (tempcount + item.count), true)
      else inv.hasItemCountIn (uint32 (tempcount + item.count)) rest
    | none => inv.hasItemCountIn tempcount rest

def Inventory.hasItemCount (inv : Inventory) (inBankAlso : Bool) : Bool :=
  (inv.hasItemCountIn catalog inTrade entry count 0
    (ownPositions 0 inventorySlotItemEnd ++ bagPositions inventorySlotBagStart inventorySlotBagEnd ++
      if inBankAlso then
        ownPositions bankSlotItemStart bankSlotItemEnd ++
          bagPositions bankSlotBagStart bankSlotBagEnd
      else [])).2

/-- The pieces at an address that count. -/
def Inventory.pieces (inv : Inventory) (pos : ItemPos) : Nat :=
  (((inv.getItemByPos catalog pos).filter (Item.countsAs inTrade entry)).map Item.count).getD 0

def Inventory.total (inv : Inventory) (positions : List ItemPos) : Nat :=
  (positions.map (inv.pieces catalog inTrade entry)).sum

/-- One of the stacks that count lies in the place. -/
def Inventory.Counted (inv : Inventory) (positions : List ItemPos) (place : Place) : Prop :=
  ∃ pos ∈ positions, inv.place? catalog pos = some place ∧
    ∃ item, inv.items.find? place = some item ∧ item.countsAs inTrade entry = true

/-- A payment is exact: so many pieces less, or all of them, and nothing else has changed. -/
structure Paid (inv inv' : Inventory) : Prop where
  removed : inv'.total catalog inTrade entry searchedPositions +
      min count (inv.total catalog inTrade entry searchedPositions) =
    inv.total catalog inTrade entry searchedPositions
  covered : ∀ inBankAlso, inv.hasItemCount catalog inTrade entry count inBankAlso = true →
    inv'.total catalog inTrade entry searchedPositions + count =
      inv.total catalog inTrade entry searchedPositions
  others : ∀ place, ¬inv.Counted catalog inTrade entry searchedPositions place →
    inv'.items.find? place = inv.items.find? place

/-- A stack that is reached before the count is complete does not take the sum over the bounds of a
`uint32`, and it is not a bag with anything else in it that is to be destroyed whole. -/
def Inventory.MayTake (inv : Inventory) (before : List ItemPos) (pos : ItemPos) : Prop :=
  inv.total catalog inTrade entry before < count →
    inv.total catalog inTrade entry before + inv.pieces catalog inTrade entry pos < 2 ^ 32 ∧
      (∀ bag, inv.getItemByPos catalog pos = some bag → bag.countsAs inTrade entry = true →
        inv.total catalog inTrade entry before + bag.count ≤ count →
        pos.bag = inventorySlotBag0 →
        ∀ other ∈ inv.bagItems catalog pos.slot, other.countsAs inTrade entry = true)

def Inventory.Payable (inv : Inventory) : Prop :=
  ∀ before pos after, searchedPositions = before ++ pos :: after →
    inv.MayTake catalog inTrade entry count before pos

end Definitions

variable {catalog : Catalog} {facts : PlayerFacts} {inTrade : Nat → Bool} {entry count : Nat}
  {inv inv' : Inventory} {r : Removal} {positions before after : List ItemPos} {pos : ItemPos}
  {item : Item} {ledger : Nat → Nat}

/-! ### The addresses -/

theorem mem_ownPositions {slotBegin slotEnd : Nat} :
    pos ∈ ownPositions slotBegin slotEnd ↔
      pos.bag = inventorySlotBag0 ∧ slotBegin ≤ pos.slot ∧ pos.slot < slotEnd := by
  rw [ownPositions, List.mem_map]
  constructor
  · rintro ⟨slot, hslot, rfl⟩
    rw [List.mem_range'_1] at hslot
    exact ⟨rfl, hslot.1, by dsimp only [ItemPos.own]; omega⟩
  · rintro ⟨hbag, hbegin, hend⟩
    refine ⟨pos.slot, List.mem_range'_1.mpr ⟨hbegin, by omega⟩, ?_⟩
    rw [ItemPos.own, ← hbag]

theorem mem_bagPositions {bagBegin bagEnd : Nat} :
    pos ∈ bagPositions bagBegin bagEnd ↔
      bagBegin ≤ pos.bag ∧ pos.bag < bagEnd ∧ pos.slot < maxBagSize := by
  rw [bagPositions, List.mem_flatMap]
  constructor
  · rintro ⟨bag, hbag, hpos⟩
    obtain ⟨slot, hslot, rfl⟩ := List.mem_map.mp hpos
    rw [List.mem_range'_1] at hbag
    exact ⟨hbag.1, by dsimp only; omega, List.mem_range.mp hslot⟩
  · rintro ⟨hbegin, hend, hslot⟩
    exact ⟨pos.bag, List.mem_range'_1.mpr ⟨hbegin, by omega⟩,
      List.mem_map.mpr ⟨pos.slot, List.mem_range.mpr hslot, rfl⟩⟩

/-- An address may come after another one: it is a different one, and not in a bag that lies at the
first. -/
def ItemPos.MayFollow (pos pos' : ItemPos) : Prop := pos ≠ pos' ∧ pos ≠ .own pos'.bag

theorem mayFollow_ownPositions (slotBegin slotEnd : Nat) (hend : slotEnd ≤ inventorySlotBag0) :
    (ownPositions slotBegin slotEnd).Pairwise ItemPos.MayFollow := by
  rw [ownPositions, List.pairwise_map]
  refine (List.pairwise_lt_range' 1).imp_of_mem fun {slot slot'} hslot _ hlt => ?_
  rw [List.mem_range'_1] at hslot
  refine ⟨fun heq => hlt.ne (congrArg ItemPos.slot heq), fun heq => ?_⟩
  have hslot0 : slot = inventorySlotBag0 := congrArg ItemPos.slot heq
  omega

theorem mayFollow_bagPositions {bagBegin bagEnd : Nat} (hend : bagEnd ≤ inventorySlotBag0) :
    (bagPositions bagBegin bagEnd).Pairwise ItemPos.MayFollow := by
  have hne : (bagPositions bagBegin bagEnd).Pairwise (· ≠ ·) := by
    rw [bagPositions]
    refine List.pairwise_flatMap.mpr ⟨fun bag _ => ?_, ?_⟩
    · rw [List.pairwise_map]
      exact List.pairwise_lt_range.imp fun hlt heq => hlt.ne (congrArg ItemPos.slot heq)
    · refine (List.pairwise_lt_range' 1).imp ?_
      intro bag bag' hlt pos hpos pos' hpos' heq
      obtain ⟨_, _, rfl⟩ := List.mem_map.mp hpos
      obtain ⟨_, _, rfl⟩ := List.mem_map.mp hpos'
      exact hlt.ne (congrArg ItemPos.bag heq)
  refine hne.imp_of_mem fun {pos pos'} hpos _ hne => ⟨hne, fun heq => ?_⟩
  have hbag : pos.bag = inventorySlotBag0 := congrArg ItemPos.bag heq
  have hlt := (mem_bagPositions.mp hpos).2.1
  omega

theorem mayFollow_searchedPositions : searchedPositions.Pairwise ItemPos.MayFollow := by
  have hnot (pos : ItemPos) (slot : Nat) (hne : pos.slot ≠ slot) : pos ≠ .own slot :=
    fun heq => hne (congrArg ItemPos.slot heq)
  simp only [searchedPositions, List.pairwise_append, List.mem_append, mem_ownPositions,
    mem_bagPositions]
  refine ⟨⟨⟨⟨mayFollow_ownPositions _ _ (by decide), mayFollow_bagPositions (by decide), ?_⟩,
    mayFollow_ownPositions _ _ (by decide), ?_⟩, mayFollow_ownPositions _ _ (by decide), ?_⟩,
    mayFollow_bagPositions (by decide), ?_⟩
  all_goals
    intro pos hpos pos' hpos'
    simp only [inventorySlotItemStart, inventorySlotItemEnd, inventorySlotBagStart,
      inventorySlotBagEnd, bankSlotItemStart, bankSlotItemEnd, bankSlotBagStart, bankSlotBagEnd,
      inventorySlotBag0] at hpos hpos'
    constructor
    · rintro rfl
      omega
    · intro heq
      have hbag : pos.bag = 255 := congrArg ItemPos.bag heq
      have hslot : pos.slot = pos'.bag := congrArg ItemPos.slot heq
      omega

/-! ### Counting pieces -/

theorem pieces_eq_of_item (h : inv'.getItemByPos catalog pos = inv.getItemByPos catalog pos) :
    inv'.pieces catalog inTrade entry pos = inv.pieces catalog inTrade entry pos := by
  rw [Inventory.pieces, Inventory.pieces, h]

theorem pieces_of_counted (hitem : inv.getItemByPos catalog pos = some item)
    (hcounts : item.countsAs inTrade entry = true) :
    inv.pieces catalog inTrade entry pos = item.count := by
  rw [Inventory.pieces, hitem, Option.filter_some_pos hcounts, Option.map_some, Option.getD_some]

theorem pieces_of_not_counted
    (h : ∀ item, inv.getItemByPos catalog pos = some item → item.countsAs inTrade entry = false) :
    inv.pieces catalog inTrade entry pos = 0 := by
  rw [Inventory.pieces]
  cases hitem : inv.getItemByPos catalog pos with
  | none => rfl
  | some item =>
    rw [Option.filter_some_neg (h item hitem), Option.map_none, Option.getD_none]

theorem total_append (inv : Inventory) (positions positions' : List ItemPos) :
    inv.total catalog inTrade entry (positions ++ positions') =
      inv.total catalog inTrade entry positions + inv.total catalog inTrade entry positions' := by
  rw [Inventory.total, List.map_append, List.sum_append, Inventory.total, Inventory.total]

theorem total_cons (inv : Inventory) (pos : ItemPos) (positions : List ItemPos) :
    inv.total catalog inTrade entry (pos :: positions) =
      inv.pieces catalog inTrade entry pos + inv.total catalog inTrade entry positions := by
  rw [Inventory.total, List.map_cons, List.sum_cons, Inventory.total]

theorem total_nil (inv : Inventory) : inv.total catalog inTrade entry [] = 0 := rfl

theorem total_eq_zero
    (h : ∀ pos ∈ positions, inv.pieces catalog inTrade entry pos = 0) :
    inv.total catalog inTrade entry positions = 0 := by
  induction positions with
  | nil => rfl
  | cons pos rest ih =>
    rw [total_cons, h pos List.mem_cons_self, ih fun pos' hpos' =>
      h pos' (List.mem_cons_of_mem pos hpos')]

theorem total_congr
    (h : ∀ pos ∈ positions, inv'.getItemByPos catalog pos = inv.getItemByPos catalog pos) :
    inv'.total catalog inTrade entry positions = inv.total catalog inTrade entry positions := by
  rw [Inventory.total, Inventory.total]
  exact congrArg List.sum (List.map_congr_left fun pos hpos => pieces_eq_of_item (h pos hpos))

theorem SameItem.countsAs {item item' : Item} (h : SameItem item item') :
    item'.countsAs inTrade entry = item.countsAs inTrade entry := by
  rw [Item.countsAs, Item.countsAs, h.1, h.2]

theorem pieces_mono (h : Shrinks inv inv') (pos : ItemPos) :
    inv'.pieces catalog inTrade entry pos ≤ inv.pieces catalog inTrade entry pos := by
  by_cases hcounted : ∃ new, inv'.getItemByPos catalog pos = some new ∧
      new.countsAs inTrade entry = true
  · obtain ⟨new, hnew, hcounts⟩ := hcounted
    obtain ⟨place, hplace, hfind⟩ := getItemByPos_eq_some.mp hnew
    obtain ⟨old, hold, hsame, hcount⟩ := h place new hfind
    rw [pieces_of_counted hnew hcounts, pieces_of_counted
      (getItemByPos_eq_some.mpr ⟨place, h.place? hplace, hold⟩) (hsame.countsAs ▸ hcounts)]
    exact hcount
  · rw [pieces_of_not_counted fun new hnew => Bool.eq_false_iff.mpr fun hcounts =>
      hcounted ⟨new, hnew, hcounts⟩]
    exact Nat.zero_le _

theorem total_mono (h : Shrinks inv inv') (positions : List ItemPos) :
    inv'.total catalog inTrade entry positions ≤ inv.total catalog inTrade entry positions := by
  induction positions with
  | nil => exact le_refl _
  | cons pos rest ih =>
    rw [total_cons, total_cons]
    exact Nat.add_le_add (pieces_mono h pos) ih

/-! ### The check before -/

theorem count_le_of_hasItemCountIn {tempcount : Nat}
    (h : (inv.hasItemCountIn catalog inTrade entry count tempcount positions).2 = true) :
    count ≤ tempcount + inv.total catalog inTrade entry positions := by
  induction positions generalizing tempcount with
  | nil => cases h
  | cons pos rest ih =>
    rw [Inventory.hasItemCountIn] at h
    rw [total_cons]
    split at h
    · next item hitem =>
        obtain ⟨hfound, hcounts⟩ := Option.filter_eq_some_iff.mp hitem
        rw [pieces_of_counted hfound hcounts]
        have hle : uint32 (tempcount + item.count) ≤ tempcount + item.count := by
          rw [uint32]
          omega
        split at h
        · omega
        · have hrest := ih h
          omega
    · have hrest := ih h
      omega

theorem count_le_of_hasItemCount {inBankAlso : Bool}
    (h : inv.hasItemCount catalog inTrade entry count inBankAlso = true) :
    count ≤ inv.total catalog inTrade entry searchedPositions := by
  have hcount := count_le_of_hasItemCountIn h
  have hown : ownPositions 0 inventorySlotItemEnd =
      ownPositions 0 inventorySlotBagEnd ++
        ownPositions inventorySlotItemStart inventorySlotItemEnd := rfl
  rw [hown] at hcount
  simp only [searchedPositions, total_append] at hcount ⊢
  cases inBankAlso with
  | false =>
    rw [if_neg Bool.false_ne_true, total_nil] at hcount
    omega
  | true =>
    rw [if_pos rfl, total_append] at hcount
    omega

theorem paid_of_removed
    (hremoved : inv'.total catalog inTrade entry searchedPositions +
        min count (inv.total catalog inTrade entry searchedPositions) =
      inv.total catalog inTrade entry searchedPositions)
    (hothers : ∀ place, ¬inv.Counted catalog inTrade entry searchedPositions place →
      inv'.items.find? place = inv.items.find? place) :
    Paid catalog inTrade entry count inv inv' where
  removed := hremoved
  covered := by
    intro inBankAlso hcheck
    rwa [min_eq_left (count_le_of_hasItemCount hcheck)] at hremoved
  others := hothers

/-! ### One address -/

section Visit

variable (unequipCheck : Bool)

theorem visit_finished (h : r.finished = true) (pos : ItemPos) :
    r.visit catalog facts inTrade entry count unequipCheck pos = r := by
  rw [Removal.visit, if_pos h]

theorem foldl_visit_finished (h : r.finished = true) (positions : List ItemPos) :
    positions.foldl (Removal.visit catalog facts inTrade entry count unequipCheck) r = r := by
  induction positions with
  | nil => rfl
  | cons pos rest ih => rw [List.foldl_cons, visit_finished unequipCheck h, ih]

theorem visit_other (h : ∀ item, r.inv.getItemByPos catalog pos = some item →
      item.countsAs inTrade entry = false) :
    r.visit catalog facts inTrade entry count unequipCheck pos = r := by
  rw [Removal.visit]
  split
  · rfl
  · split
    · rfl
    · next item hitem =>
        rw [h item hitem]
        rfl

end Visit

theorem visit_take (hopen : r.finished = false) (hitem : r.inv.getItemByPos catalog pos = some item)
    (hcounts : item.countsAs inTrade entry = true)
    (hle : uint32 (item.count + r.remcount) ≤ count) :
    r.visit catalog facts inTrade entry count false pos =
      ⟨r.inv.destroyItemAt catalog pos, uint32 (item.count + r.remcount),
        count ≤ uint32 (item.count + r.remcount)⟩ := by
  simp only [Removal.visit, hopen, hitem, hcounts, hle, Bool.false_and, Bool.false_eq_true, if_true,
    if_false]

theorem visit_part (hopen : r.finished = false) (hitem : r.inv.getItemByPos catalog pos = some item)
    (hcounts : item.countsAs inTrade entry = true)
    (hlt : count < uint32 (item.count + r.remcount)) :
    r.visit catalog facts inTrade entry count false pos =
      { r with
        inv := r.inv.putItem catalog pos
          { item with count := uint32 (item.count - count + r.remcount) }
        finished := true } := by
  simp only [Removal.visit, hopen, hitem, hcounts, not_le.mpr hlt, Bool.false_eq_true, if_true,
    if_false]

/-- The rest of a stack is no more than the stack. -/
theorem rest_le {stack rem count : Nat} (hle : rem ≤ count)
    (hlt : count < uint32 ((stack : Int) + rem)) : uint32 ((stack : Int) - count + rem) ≤ stack := by
  rw [uint32] at hlt ⊢
  omega

theorem shrinks_putItem {place : Place} (hplace : inv.place? catalog pos = some place)
    (hfind : inv.items.find? place = some item) {left : Nat} (hleft : left ≤ item.count) :
    Shrinks inv (inv.putItem catalog pos { item with count := left }) := by
  intro place' new hnew
  rw [putItem_of_place hplace, OrderedMap.find?_insert] at hnew
  split at hnew
  · next heq =>
      cases hnew
      exact ⟨item, heq ▸ hfind, ⟨rfl, rfl⟩, hleft⟩
  · exact ⟨new, hnew, ⟨rfl, rfl⟩, le_refl _⟩

theorem shrinks_visit (catalog : Catalog) (facts : PlayerFacts) (inTrade : Nat → Bool) (entry : Nat)
    (hle : r.remcount ≤ count) (pos : ItemPos) :
    Shrinks r.inv (r.visit catalog facts inTrade entry count false pos).inv ∧
      (r.visit catalog facts inTrade entry count false pos).remcount ≤ count := by
  cases hopen : r.finished with
  | true =>
    rw [visit_finished false hopen]
    exact ⟨Shrinks.refl _, hle⟩
  | false =>
    by_cases hcounted : ∃ item, r.inv.getItemByPos catalog pos = some item ∧
        item.countsAs inTrade entry = true
    · obtain ⟨item, hitem, hcounts⟩ := hcounted
      by_cases htake : uint32 (item.count + r.remcount) ≤ count
      · rw [visit_take hopen hitem hcounts htake]
        exact ⟨shrinks_destroyItemAt _ _, htake⟩
      · obtain ⟨place, hplace, hfind⟩ := getItemByPos_eq_some.mp hitem
        rw [visit_part hopen hitem hcounts (not_le.mp htake)]
        exact ⟨shrinks_putItem hplace hfind (rest_le hle (not_le.mp htake)), hle⟩
    · rw [visit_other false fun item hitem => Bool.eq_false_iff.mpr fun hcounts =>
        hcounted ⟨item, hitem, hcounts⟩]
      exact ⟨Shrinks.refl _, hle⟩

theorem shrinks_foldl_visit (catalog : Catalog) (facts : PlayerFacts) (inTrade : Nat → Bool)
    (entry : Nat) (hle : r.remcount ≤ count) (positions : List ItemPos) :
    Shrinks r.inv
      (positions.foldl (Removal.visit catalog facts inTrade entry count false) r).inv := by
  induction positions generalizing r with
  | nil => exact Shrinks.refl _
  | cons pos rest ih =>
    obtain ⟨hstep, hnext⟩ := shrinks_visit catalog facts inTrade entry hle pos
    exact hstep.trans (ih hnext)

/-! ### The part of the addresses that has been visited -/

/-- All the stacks at the addresses before have been taken, and nothing else. -/
structure TookFrom (catalog : Catalog) (inTrade : Nat → Bool) (entry : Nat) (inv : Inventory)
    (before : List ItemPos) (inv' : Inventory) : Prop where
  gone : ∀ place, inv.Counted catalog inTrade entry before place → inv'.items.find? place = none
  kept : ∀ place, ¬inv.Counted catalog inTrade entry before place →
    inv'.items.find? place = inv.items.find? place

theorem TookFrom.shrinks (h : TookFrom catalog inTrade entry inv before inv') :
    Shrinks inv inv' := by
  intro place new hnew
  by_cases hcounted : inv.Counted catalog inTrade entry before place
  · rw [h.gone place hcounted] at hnew
    cases hnew
  · rw [h.kept place hcounted] at hnew
    exact ⟨new, hnew, ⟨rfl, rfl⟩, le_refl _⟩

/-- The addresses before hold nothing that counts any more. -/
theorem pieces_eq_zero (hshrinks : Shrinks inv inv')
    (hgone : ∀ place, inv.Counted catalog inTrade entry before place →
      inv'.items.find? place = none) (hpos : pos ∈ before) :
    inv'.pieces catalog inTrade entry pos = 0 := by
  refine pieces_of_not_counted fun new hnew => Bool.eq_false_iff.mpr fun hcounts => ?_
  obtain ⟨place, hplace, hfind⟩ := getItemByPos_eq_some.mp hnew
  obtain ⟨old, hold, hsame, -⟩ := hshrinks place new hfind
  have hcounted : inv.Counted catalog inTrade entry before place :=
    ⟨pos, hpos, hshrinks.place? hplace, old, hold, hsame.countsAs ▸ hcounts⟩
  rw [hgone place hcounted] at hfind
  cases hfind

/-- An address that comes later shows what it showed. -/
theorem getItemByPos_of_kept (h : Holds catalog ledger inv [])
    (hkept : ∀ place, ¬inv.Counted catalog inTrade entry before place →
      inv'.items.find? place = inv.items.find? place)
    (hlater : ∀ pos' ∈ before, pos'.MayFollow pos) :
    inv'.place? catalog pos = inv.place? catalog pos ∧
      inv'.getItemByPos catalog pos = inv.getItemByPos catalog pos := by
  have hbag : inv'.getBagByPos catalog pos.bag = inv.getBagByPos catalog pos.bag := by
    rw [Inventory.getBagByPos, Inventory.getBagByPos, hkept]
    rintro ⟨pos', hpos', hplace, -⟩
    obtain ⟨hown, -, heq⟩ | ⟨_, _, _, heq⟩ := place?_eq_some.mp hplace
    · injection heq with hslot
      refine (hlater pos' hpos').2 ?_
      rw [ItemPos.own, hslot, ← hown]
    · cases heq
  have hplace : inv'.place? catalog pos = inv.place? catalog pos := by
    rw [Inventory.place?, Inventory.place?, hbag]
  refine ⟨hplace, ?_⟩
  rw [Inventory.getItemByPos, Inventory.getItemByPos, hplace]
  cases hfind : inv.place? catalog pos with
  | none => rfl
  | some place =>
    rw [Option.bind_some, Option.bind_some, hkept]
    rintro ⟨pos', hpos', hplace', -⟩
    exact (hlater pos' hpos').1 (h.place?_injective hfind hplace')

theorem mayFollow_of_split (hsplit : searchedPositions = before ++ pos :: after) :
    (∀ pos' ∈ before, pos'.MayFollow pos) ∧ ∀ pos' ∈ after, pos.MayFollow pos' := by
  have hpairs := mayFollow_searchedPositions
  rw [hsplit, List.pairwise_append, List.pairwise_cons] at hpairs
  exact ⟨fun pos' hpos' => hpairs.2.2 pos' hpos' pos List.mem_cons_self, hpairs.2.1.1⟩

theorem counted_mono {place : Place} (hsub : ∀ pos ∈ before, pos ∈ positions)
    (h : inv.Counted catalog inTrade entry before place) :
    inv.Counted catalog inTrade entry positions place := by
  obtain ⟨pos, hpos, hrest⟩ := h
  exact ⟨pos, hsub pos hpos, hrest⟩

/-- A payment that ends at an address, with so many pieces left there. -/
theorem paid_at (h : Holds catalog ledger inv [])
    (hsplit : searchedPositions = before ++ pos :: after) (hshrinks : Shrinks inv inv')
    (hgone : ∀ place, inv.Counted catalog inTrade entry before place →
      inv'.items.find? place = none)
    (hkept : ∀ place, ¬inv.Counted catalog inTrade entry (before ++ [pos]) place →
      inv'.items.find? place = inv.items.find? place)
    (hcount : count + inv'.pieces catalog inTrade entry pos =
      inv.total catalog inTrade entry before + inv.pieces catalog inTrade entry pos) :
    Paid catalog inTrade entry count inv inv' := by
  have hbefore : inv'.total catalog inTrade entry before = 0 :=
    total_eq_zero fun pos' hpos' => pieces_eq_zero hshrinks hgone hpos'
  have hafter : inv'.total catalog inTrade entry after =
      inv.total catalog inTrade entry after := by
    refine total_congr fun pos' hpos' => (getItemByPos_of_kept h hkept fun first hfirst => ?_).2
    obtain ⟨as, bs, hafter⟩ := List.append_of_mem hpos'
    have hlater : searchedPositions = (before ++ pos :: as) ++ pos' :: bs := by
      rw [hsplit, hafter, List.append_assoc, List.cons_append]
    refine (mayFollow_of_split hlater).1 first ?_
    · rw [List.mem_append, List.mem_singleton] at hfirst
      rw [List.mem_append, List.mem_cons]
      exact hfirst.imp_right Or.inl
  refine paid_of_removed ?_ ?_
  · rw [hsplit, total_append, total_append, total_cons, total_cons, hbefore, hafter]
    omega
  · intro place hplace
    refine hkept place fun hcounted => hplace (counted_mono (fun pos' hpos' => ?_) hcounted)
    rw [hsplit]
    rw [List.mem_append, List.mem_singleton] at hpos'
    rw [List.mem_append, List.mem_cons]
    exact hpos'.imp_right Or.inl

/-- A payment that takes all there is. -/
theorem paid_at_end (htook : TookFrom catalog inTrade entry inv searchedPositions inv')
    (hcount : inv.total catalog inTrade entry searchedPositions ≤ count) :
    Paid catalog inTrade entry count inv inv' := by
  refine paid_of_removed ?_ htook.kept
  have hzero : inv'.total catalog inTrade entry searchedPositions = 0 :=
    total_eq_zero fun pos hpos => pieces_eq_zero htook.shrinks htook.gone hpos
  omega

/-! ### The whole payment -/

/-- The scans have come so far and go on. -/
structure Removal.Open (catalog : Catalog) (inTrade : Nat → Bool) (entry count : Nat)
    (inv : Inventory) (before : List ItemPos) (r : Removal) : Prop where
  took : TookFrom catalog inTrade entry inv before r.inv
  remcount : r.remcount = inv.total catalog inTrade entry before
  unfinished : r.finished = false
  below : r.remcount < count ∨ r.remcount = 0

/-- What the rest of the scans asks of the stacks. -/
def Inventory.PayableFrom (catalog : Catalog) (inTrade : Nat → Bool) (entry count : Nat)
    (inv : Inventory) (before rest : List ItemPos) : Prop :=
  ∀ middle pos after, rest = middle ++ pos :: after →
    inv.MayTake catalog inTrade entry count (before ++ middle) pos

theorem payableFrom_cons :
    inv.PayableFrom catalog inTrade entry count before (pos :: after) ↔
      inv.MayTake catalog inTrade entry count before pos ∧
        inv.PayableFrom catalog inTrade entry count (before ++ [pos]) after := by
  constructor
  · intro h
    refine ⟨?_, fun middle pos' after' hsplit => ?_⟩
    · have hhead := h [] pos after rfl
      rwa [List.append_nil] at hhead
    · have htail := h (pos :: middle) pos' after' (by rw [hsplit, List.cons_append])
      rwa [List.append_cons] at htail
  · rintro ⟨hhead, htail⟩ middle pos' after' hsplit
    cases middle with
    | nil =>
      rw [List.nil_append] at hsplit
      injection hsplit with hpos _
      rwa [List.append_nil, ← hpos]
    | cons first middle =>
      rw [List.cons_append] at hsplit
      injection hsplit with hpos hrest
      rw [← hpos, List.append_cons]
      exact htail middle pos' after' hrest

theorem payableFrom_of_complete (rest : List ItemPos)
    (h : count ≤ inv.total catalog inTrade entry before) :
    inv.PayableFrom catalog inTrade entry count before rest := by
  intro middle pos after _ hlt
  rw [total_append] at hlt
  omega

theorem mayTake_of_not_counted (hcount : count < 2 ^ 32)
    (h : ∀ item, inv.getItemByPos catalog pos = some item → item.countsAs inTrade entry = false) :
    inv.MayTake catalog inTrade entry count before pos := by
  intro hlt
  refine ⟨?_, fun bag hbag hcounts => ?_⟩
  · rw [pieces_of_not_counted h]
    omega
  · rw [h bag hbag] at hcounts
    cases hcounts

theorem counted_append_singleton {place : Place} :
    inv.Counted catalog inTrade entry (before ++ [pos]) place ↔
      inv.Counted catalog inTrade entry before place ∨
        inv.Counted catalog inTrade entry [pos] place := by
  constructor
  · rintro ⟨pos', hpos', hrest⟩
    rw [List.mem_append] at hpos'
    exact hpos'.imp (fun hin => ⟨pos', hin, hrest⟩) fun hin => ⟨pos', hin, hrest⟩
  · rintro (h | h)
    · exact counted_mono (fun pos' hpos' => List.mem_append_left _ hpos') h
    · exact counted_mono (fun pos' hpos' => List.mem_append_right _ hpos') h

theorem counted_singleton {place : Place} (hplace : inv.place? catalog pos = some place)
    (hfind : inv.items.find? place = some item) (hcounts : item.countsAs inTrade entry = true)
    {place' : Place} : inv.Counted catalog inTrade entry [pos] place' ↔ place' = place := by
  constructor
  · rintro ⟨pos', hpos', hplace', -⟩
    rw [List.mem_singleton.mp hpos', hplace] at hplace'
    exact (Option.some.inj hplace').symm
  · rintro rfl
    exact ⟨pos, List.mem_singleton_self pos, hplace, item, hfind, hcounts⟩

/-- An address without pieces. -/
theorem Removal.Open.skip (h : Holds catalog ledger inv [])
    (hopen : r.Open catalog inTrade entry count inv before)
    (hsplit : searchedPositions = before ++ pos :: after)
    (hother : ∀ item, inv.getItemByPos catalog pos = some item →
      item.countsAs inTrade entry = false) :
    (r.visit catalog facts inTrade entry count false pos).Open catalog inTrade entry count inv
      (before ++ [pos]) := by
  have hsame := (getItemByPos_of_kept h hopen.took.kept (mayFollow_of_split hsplit).1).2
  have hnone : ∀ place, ¬inv.Counted catalog inTrade entry [pos] place := by
    rintro place ⟨pos', hpos', hplace, item, hfind, hcounts⟩
    rw [List.mem_singleton.mp hpos'] at hplace
    rw [hother item (getItemByPos_eq_some.mpr ⟨place, hplace, hfind⟩)] at hcounts
    cases hcounts
  rw [visit_other false (by rwa [hsame])]
  refine ⟨⟨fun place hcounted => ?_, fun place hcounted => ?_⟩, ?_, hopen.unfinished, hopen.below⟩
  · exact hopen.took.gone place
      ((counted_append_singleton.mp hcounted).resolve_right (hnone place))
  · exact hopen.took.kept place fun hbefore =>
      hcounted (counted_append_singleton.mpr (Or.inl hbefore))
  · rw [hopen.remcount, total_append, total_cons, pieces_of_not_counted hother, total_nil]
    omega

theorem mem_searchedPositions_of_bagSlot {slot i : Nat} (hslot : isBagSlot slot = true)
    (hi : i < maxBagSize) : (⟨slot, i⟩ : ItemPos) ∈ searchedPositions := by
  unfold isBagSlot at hslot
  simp only [Bool.or_eq_true, Bool.and_eq_true, decide_eq_true_eq] at hslot
  simp only [searchedPositions, List.mem_append, mem_bagPositions]
  rcases hslot with hbag | hbank
  · exact Or.inl (Or.inl (Or.inl (Or.inr ⟨hbag.1, hbag.2, hi⟩)))
  · exact Or.inr ⟨hbank.1, hbank.2, hi⟩

/-- A bag that holds nothing but stacks that count is empty when its turn comes. -/
theorem contents_gone (h : Holds catalog ledger inv [])
    (hsplit : searchedPositions = before ++ pos :: after)
    (htook : TookFrom catalog inTrade entry inv before inv') {place : Place}
    (hplace : inv.place? catalog pos = some place) (hfind : inv.items.find? place = some item)
    (hclean : pos.bag = inventorySlotBag0 →
      ∀ other ∈ inv.bagItems catalog pos.slot, other.countsAs inTrade entry = true)
    (hbag : item.isBag catalog = true) {i : Nat} (hi : i < item.bagSize catalog) :
    inv'.items.find? (.content item.guid i) = none := by
  by_cases hopen : ∃ slot, isBagSlot slot = true ∧ place = .own slot
  · obtain ⟨slot, hslot, rfl⟩ := hopen
    obtain ⟨hown, -, heq⟩ | ⟨_, _, _, heq⟩ := place?_eq_some.mp hplace
    · injection heq with heq
      subst heq
      cases hinner : inv.items.find? (.content item.guid i) with
      | none => exact htook.shrinks.absent hinner
      | some other =>
        have hopened : inv.getBagByPos catalog pos.slot = some item :=
          getBagByPos_eq_some.mpr ⟨hslot, hfind, hbag⟩
        have hmem : other ∈ inv.bagItems catalog pos.slot := by
          simp only [Inventory.bagItems, hopened, List.mem_filterMap, List.mem_range]
          exact ⟨i, hi, hinner⟩
        have hinside : inv.place? catalog ⟨pos.slot, i⟩ = some (.content item.guid i) :=
          place?_eq_some.mpr (Or.inr ⟨item, hopened, hi, rfl⟩)
        have hbefore : (⟨pos.slot, i⟩ : ItemPos) ∈ before := by
          have hsearched := mem_searchedPositions_of_bagSlot hslot
            (hi.trans_le (catalog.containerSlots_le item.entry))
          rw [hsplit, List.mem_append, List.mem_cons] at hsearched
          obtain hbefore | hsame | hafter := hsearched
          · exact hbefore
          · have hlt := isBagSlot_lt hslot
            rw [show pos.slot = inventorySlotBag0 from (congrArg ItemPos.bag hsame).trans hown]
              at hlt
            exact absurd hlt (by decide)
          · refine absurd ?_ ((mayFollow_of_split hsplit).2 _ hafter).2
            rw [ItemPos.own, ← hown]
        exact htook.gone _ ⟨_, hbefore, hinside, other, hinner, hclean hown other hmem⟩
    · cases heq
  · refine htook.shrinks.absent (h.contents_empty hfind ?_ i)
    intro slot hslot heq
    exact hopen ⟨slot, hslot, heq⟩

theorem Removal.Open.remcount_le (hopen : r.Open catalog inTrade entry count inv before) :
    r.remcount ≤ count := by
  rcases hopen.below with hbelow | hzero
  · exact hbelow.le
  · rw [hzero]
    exact Nat.zero_le _

section Step

variable (h : Holds catalog ledger inv []) (hopen : r.Open catalog inTrade entry count inv before)
  (hsplit : searchedPositions = before ++ pos :: after) {place : Place}
  (hplace : inv.place? catalog pos = some place) (hfind : inv.items.find? place = some item)
  (hcounts : item.countsAs inTrade entry = true)

include h hopen hsplit hplace hfind

/-- The stack at the address is still as it was. -/
theorem Removal.Open.shows : r.inv.place? catalog pos = some place ∧
    r.inv.items.find? place = some item := by
  obtain ⟨hsame, hitem⟩ := getItemByPos_of_kept h hopen.took.kept (mayFollow_of_split hsplit).1
  refine ⟨hsame.trans hplace, ?_⟩
  rw [← getItemByPos_of_place (hsame.trans hplace), hitem, getItemByPos_of_place hplace, hfind]

theorem Removal.Open.shows_item : r.inv.getItemByPos catalog pos = some item :=
  getItemByPos_eq_some.mpr ⟨place, hopen.shows h hsplit hplace hfind⟩

include hcounts

/-- Behind a stack that is destroyed whole everything up to it has been taken. -/
theorem Removal.Open.took_next
    (hclean : pos.bag = inventorySlotBag0 →
      ∀ other ∈ inv.bagItems catalog pos.slot, other.countsAs inTrade entry = true) :
    TookFrom catalog inTrade entry inv (before ++ [pos]) (r.inv.destroyItemAt catalog pos) := by
  obtain ⟨hplace', hfind'⟩ := hopen.shows h hsplit hplace hfind
  have hcontents : ∀ {i : Nat}, item.isBag catalog = true → i < item.bagSize catalog →
      r.inv.items.find? (.content item.guid i) = none := fun hbag hi =>
    contents_gone h hsplit hopen.took hplace hfind hclean hbag hi
  rw [destroyItemAt_of_place hplace' hfind']
  constructor
  · intro other hcounted
    rw [find?_destroyItem]
    split
    · rfl
    · next hne =>
        refine hopen.took.gone other ((counted_append_singleton.mp hcounted).resolve_right ?_)
        rw [counted_singleton hplace hfind hcounts]
        exact fun heq => hne (Or.inl heq)
  · intro other hcounted
    rw [counted_append_singleton, counted_singleton hplace hfind hcounts, not_or] at hcounted
    rw [find?_destroyItem]
    split
    · next hgone =>
        obtain ⟨hbag, i, hi, rfl⟩ := hgone.resolve_left hcounted.2
        rw [← hopen.took.kept _ hcounted.1, hcontents hbag hi]
    · exact hopen.took.kept other hcounted.1

/-- A stack that holds more than is missing ends the payment. -/
theorem Removal.Open.paid_part (facts : PlayerFacts)
    (hbound : inv.total catalog inTrade entry before + item.count < 2 ^ 32)
    (hlt : count < inv.total catalog inTrade entry before + item.count) :
    (r.visit catalog facts inTrade entry count false pos).finished = true ∧
      Paid catalog inTrade entry count inv
        (r.visit catalog facts inTrade entry count false pos).inv := by
  obtain ⟨hplace', hfind'⟩ := hopen.shows h hsplit hplace hfind
  have hitem := hopen.shows_item h hsplit hplace hfind
  have hrem := hopen.remcount
  have hle := hopen.remcount_le
  have hsum : uint32 (item.count + r.remcount) = item.count + r.remcount := by
    rw [uint32]
    omega
  have hleft : uint32 ((item.count : Int) - count + r.remcount) =
      item.count + r.remcount - count := by
    rw [uint32]
    omega
  have hshrinks : Shrinks r.inv (r.inv.putItem catalog pos
      { item with count := item.count + r.remcount - count }) :=
    shrinks_putItem hplace' hfind' (by omega)
  rw [visit_part hopen.unfinished hitem hcounts (by omega), hleft]
  refine ⟨rfl, paid_at h hsplit (hopen.took.shrinks.trans hshrinks) ?_ ?_ ?_⟩
  · exact fun other hcounted => hshrinks.absent (hopen.took.gone other hcounted)
  · intro other hcounted
    rw [counted_append_singleton, counted_singleton hplace hfind hcounts, not_or] at hcounted
    dsimp only
    rw [putItem_of_place hplace', OrderedMap.find?_insert, if_neg hcounted.2]
    exact hopen.took.kept other hcounted.1
  · have hput : (r.inv.putItem catalog pos
        { item with count := item.count + r.remcount - count }).getItemByPos catalog pos =
          some { item with count := item.count + r.remcount - count } := by
      rw [getItemByPos_eq_some]
      refine ⟨place, ?_, ?_⟩
      · exact (keeps_insert (fun old hold => by
          rw [hfind'] at hold
          cases hold
          exact ⟨rfl, rfl⟩) (congrArg Inventory.items (putItem_of_place hplace' _))).place? hplace'
      · rw [putItem_of_place hplace', OrderedMap.find?_insert_self]
    rw [pieces_of_counted hput (by exact hcounts), pieces_of_counted
      (getItemByPos_eq_some.mpr ⟨place, hplace, hfind⟩) hcounts]
    dsimp only
    omega

/-- A sum beyond a `uint32` makes the payment take too much. -/
theorem Removal.Open.not_paid_of_wrap (hcount : count < 2 ^ 32) (rest : List ItemPos)
    (hbelow : inv.total catalog inTrade entry before < count)
    (hbound : 2 ^ 32 ≤ inv.total catalog inTrade entry before + item.count) :
    ¬Paid catalog inTrade entry count inv
      (rest.foldl (Removal.visit catalog facts inTrade entry count false)
        (r.visit catalog facts inTrade entry count false pos)).inv := by
  obtain ⟨hplace', hfind'⟩ := hopen.shows h hsplit hplace hfind
  have hitem := hopen.shows_item h hsplit hplace hfind
  have hrem := hopen.remcount
  have hsmall := (allItems_stackable h (mem_allItems hfind)).uint32_count
  have htake : uint32 (item.count + r.remcount) ≤ count := by
    rw [uint32] at hsmall ⊢
    omega
  have hvisit : (r.visit catalog facts inTrade entry count false pos).inv =
      r.inv.destroyItemAt catalog pos := by
    rw [visit_take hopen.unfinished hitem hcounts htake]
  obtain ⟨hstep, hle⟩ := shrinks_visit catalog facts inTrade entry hopen.remcount_le pos
  have hlater := shrinks_foldl_visit catalog facts inTrade entry hle rest
  have hall := hopen.took.shrinks.trans (hstep.trans hlater)
  intro hpaid
  have hgone : ∀ other, inv.Counted catalog inTrade entry (before ++ [pos]) other →
      (rest.foldl (Removal.visit catalog facts inTrade entry count false)
        (r.visit catalog facts inTrade entry count false pos)).inv.items.find? other = none := by
    intro other hcounted
    refine hlater.absent ?_
    rw [counted_append_singleton, counted_singleton hplace hfind hcounts] at hcounted
    rcases hcounted with hcounted | rfl
    · exact hstep.absent (hopen.took.gone other hcounted)
    · rw [hvisit, destroyItemAt_of_place hplace' hfind', find?_destroyItem, if_pos (Or.inl rfl)]
  have hzero := total_eq_zero fun pos' (hpos' : pos' ∈ before ++ [pos]) =>
    pieces_eq_zero hall hgone hpos'
  have hrest : (rest.foldl (Removal.visit catalog facts inTrade entry count false)
      (r.visit catalog facts inTrade entry count false pos)).inv.total catalog inTrade entry after ≤
        inv.total catalog inTrade entry after := total_mono hall after
  have hpieces : inv.pieces catalog inTrade entry pos = item.count :=
    pieces_of_counted (getItemByPos_eq_some.mpr ⟨place, hplace, hfind⟩) hcounts
  have hremoved := hpaid.removed
  rw [hsplit, List.append_cons] at hremoved
  simp only [total_append, total_cons, total_nil] at hremoved hzero
  omega

/-- A bag with something else in it takes that along. -/
theorem Removal.Open.not_paid_of_bag (rest : List ItemPos)
    (hbound : inv.total catalog inTrade entry before + item.count < 2 ^ 32)
    (hle : inv.total catalog inTrade entry before + item.count ≤ count)
    (hown : pos.bag = inventorySlotBag0) {other : Item}
    (hother : other ∈ inv.bagItems catalog pos.slot)
    (hforeign : other.countsAs inTrade entry = false) :
    ¬Paid catalog inTrade entry count inv
      (rest.foldl (Removal.visit catalog facts inTrade entry count false)
        (r.visit catalog facts inTrade entry count false pos)).inv := by
  obtain ⟨hplace', hfind'⟩ := hopen.shows h hsplit hplace hfind
  have hitem := hopen.shows_item h hsplit hplace hfind
  have hrem := hopen.remcount
  have htake : uint32 (item.count + r.remcount) ≤ count := by
    rw [uint32]
    omega
  have hvisit : (r.visit catalog facts inTrade entry count false pos).inv =
      r.inv.destroyItemAt catalog pos := by
    rw [visit_take hopen.unfinished hitem hcounts htake]
  obtain ⟨-, hbelow⟩ := shrinks_visit catalog facts inTrade entry hopen.remcount_le pos
  intro hpaid
  rw [Inventory.bagItems] at hother
  split at hother
  · next bag hbag =>
      obtain ⟨hslot, hbagFind, hisBag⟩ := getBagByPos_eq_some.mp hbag
      obtain ⟨i, hi, hinner⟩ := List.mem_filterMap.mp hother
      have hsame : bag = item := by
        obtain ⟨-, -, rfl⟩ | ⟨inside, hinside, -, -⟩ := place?_eq_some.mp hplace
        · rw [hfind] at hbagFind
          exact (Option.some.inj hbagFind).symm
        · have hlt := isBagSlot_lt (getBagByPos_eq_some.mp hinside).1
          rw [hown] at hlt
          exact absurd hlt (by decide)
      subst hsame
      have hkept := hpaid.others (.content bag.guid i) (by
        rintro ⟨_, _, _, inner, hfound, hinnerCounts⟩
        rw [hinner] at hfound
        cases hfound
        rw [hforeign] at hinnerCounts
        cases hinnerCounts)
      have hgone : (r.visit catalog facts inTrade entry count false pos).inv.items.find?
          (.content bag.guid i) = none := by
        rw [hvisit, destroyItemAt_of_place hplace' hfind', find?_destroyItem,
          if_pos (Or.inr ⟨hisBag, i, List.mem_range.mp hi, rfl⟩)]
      rw [(shrinks_foldl_visit catalog facts inTrade entry hbelow rest).absent hgone, hinner] at hkept
      cases hkept
  · cases hother

end Step

/-- From any state of the scans on, the payment is exact when the rest of the stacks allows it. -/
theorem Removal.Open.paid_iff (h : Holds catalog ledger inv []) (hcount : count < 2 ^ 32)
    {rest : List ItemPos} (hopen : r.Open catalog inTrade entry count inv before)
    (hsplit : searchedPositions = before ++ rest) :
    Paid catalog inTrade entry count inv
        (rest.foldl (Removal.visit catalog facts inTrade entry count false) r).inv ↔
      inv.PayableFrom catalog inTrade entry count before rest := by
  induction rest generalizing before r with
  | nil =>
    rw [List.append_nil] at hsplit
    have hrem := hopen.remcount
    have hle := hopen.remcount_le
    refine iff_of_true (paid_at_end (hsplit ▸ hopen.took) ?_) fun middle pos after hnil => ?_
    · rw [hsplit, ← hrem]
      exact hle
    · exact absurd hnil (List.append_ne_nil_of_right_ne_nil middle (List.cons_ne_nil pos after)).symm
  | cons pos rest ih =>
    have hsplit' : searchedPositions = (before ++ [pos]) ++ rest := by
      rw [hsplit, List.append_cons]
    rw [List.foldl_cons, payableFrom_cons]
    by_cases hcounted : ∃ item, inv.getItemByPos catalog pos = some item ∧
        item.countsAs inTrade entry = true
    · obtain ⟨item, hitem, hcounts⟩ := hcounted
      obtain ⟨place, hplace, hfind⟩ := getItemByPos_eq_some.mp hitem
      have hpieces := pieces_of_counted hitem hcounts
      have hrem := hopen.remcount
      have hstack := allItems_stackable h (mem_allItems hfind)
      have hpositive := hstack.positive
      have hsmall := hstack.uint32_count
      by_cases hbound : inv.total catalog inTrade entry before + item.count < 2 ^ 32
      · by_cases hlt : count < inv.total catalog inTrade entry before + item.count
        · -- the stack holds more than is missing
          obtain ⟨hfinished, hpaid⟩ := hopen.paid_part h hsplit hplace hfind hcounts facts hbound
            hlt
          rw [foldl_visit_finished false hfinished]
          refine iff_of_true hpaid ⟨fun _ => ⟨by rwa [hpieces], ?_⟩, ?_⟩
          · intro bag hbag _ hle
            rw [hitem] at hbag
            cases hbag
            omega
          · apply payableFrom_of_complete
            rw [total_append, total_cons, hpieces, total_nil]
            omega
        · have hbelow : inv.total catalog inTrade entry before < count := by omega
          by_cases hclean : pos.bag = inventorySlotBag0 →
              ∀ other ∈ inv.bagItems catalog pos.slot, other.countsAs inTrade entry = true
          · -- the stack is destroyed whole
            have hmay : inv.MayTake catalog inTrade entry count before pos :=
              fun _ => ⟨by rwa [hpieces], fun _ _ _ _ => hclean⟩
            rw [iff_true_intro hmay, true_and]
            have htook := hopen.took_next h hsplit hplace hfind hcounts hclean
            have hsum : uint32 (item.count + r.remcount) =
                inv.total catalog inTrade entry before + item.count := by
              rw [uint32]
              omega
            rw [visit_take hopen.unfinished (hopen.shows_item h hsplit hplace hfind) hcounts
              (by omega), hsum]
            by_cases hdone : count ≤ inv.total catalog inTrade entry before + item.count
            · rw [foldl_visit_finished false (decide_eq_true hdone)]
              refine iff_of_true ?_ ?_
              · refine paid_at h hsplit htook.shrinks ?_ htook.kept ?_
                · exact fun other hother =>
                    htook.gone other (counted_append_singleton.mpr (Or.inl hother))
                · rw [pieces_eq_zero htook.shrinks htook.gone
                    (List.mem_append_right _ (List.mem_singleton_self pos)), hpieces]
                  omega
              · apply payableFrom_of_complete
                rw [total_append, total_cons, hpieces, total_nil]
                omega
            · refine ih ⟨htook, ?_, decide_eq_false hdone, Or.inl (not_le.mp hdone)⟩ hsplit'
              rw [total_append, total_cons, hpieces, total_nil]
              rfl
          · -- the stack is a bag with something else in it
            push Not at hclean
            obtain ⟨hown, other, hother, hforeign⟩ := hclean
            refine iff_of_false (hopen.not_paid_of_bag h hsplit hplace hfind hcounts rest hbound
              (not_lt.mp hlt) hown hother (Bool.eq_false_iff.mpr hforeign)) ?_
            rintro ⟨hmay, -⟩
            exact hforeign ((hmay hbelow).2 item hitem hcounts (not_lt.mp hlt) hown other hother)
      · -- the sum does not fit
        have hbelow : inv.total catalog inTrade entry before < count := by
          rcases hopen.below with hbelow | hzero
          · omega
          · rw [uint32] at hsmall
            omega
        refine iff_of_false (hopen.not_paid_of_wrap h hsplit hplace hfind hcounts hcount rest
          hbelow (not_lt.mp hbound)) ?_
        rintro ⟨hmay, -⟩
        have hsum := (hmay hbelow).1
        rw [hpieces] at hsum
        exact hbound hsum
    · have hother : ∀ item, inv.getItemByPos catalog pos = some item →
          item.countsAs inTrade entry = false := fun item hitem =>
        Bool.eq_false_iff.mpr fun hcounts => hcounted ⟨item, hitem, hcounts⟩
      rw [iff_true_intro (mayTake_of_not_counted hcount hother), true_and]
      exact ih (hopen.skip h hsplit hother) hsplit'

theorem destroyItemCount_eq (inv : Inventory) :
    inv.destroyItemCount catalog facts inTrade entry count false =
      (searchedPositions.foldl (Removal.visit catalog facts inTrade entry count false)
        ⟨inv, 0, false⟩).inv := by
  simp only [Inventory.destroyItemCount, searchedPositions, List.foldl_append]

theorem open_start (inv : Inventory) :
    (⟨inv, 0, false⟩ : Removal).Open catalog inTrade entry count inv [] where
  took := ⟨fun _ ⟨_, hpos, _⟩ => absurd hpos List.not_mem_nil, fun _ _ => rfl⟩
  remcount := rfl
  unfinished := rfl
  below := Or.inr rfl

/-- Entries that are no bags can be paid as long as all their pieces fit into a `uint32`. -/
theorem payable_of_not_bag (hentry : (catalog.template entry).inventoryType ≠ .bag)
    (htotal : inv.total catalog inTrade entry searchedPositions < 2 ^ 32) :
    inv.Payable catalog inTrade entry count := by
  intro before pos after hsplit _
  refine ⟨?_, fun bag hbag hcounts _ hown other hother => ?_⟩
  · rw [hsplit, total_append, total_cons] at htotal
    omega
  · rw [Inventory.bagItems] at hother
    split at hother
    · next opened hopened =>
        obtain ⟨-, hfind, hisBag⟩ := getBagByPos_eq_some.mp hopened
        obtain ⟨place, hplace, hbagFind⟩ := getItemByPos_eq_some.mp hbag
        obtain ⟨-, -, rfl⟩ | ⟨inside, hinside, -, -⟩ := place?_eq_some.mp hplace
        · rw [hbagFind] at hfind
          cases hfind
          rw [Item.countsAs, Bool.and_eq_true, decide_eq_true_eq] at hcounts
          rw [Item.isBag, hcounts.1, decide_eq_true_eq] at hisBag
          exact absurd hisBag hentry
        · have hlt := isBagSlot_lt (getBagByPos_eq_some.mp hinside).1
          rw [hown] at hlt
          exact absurd hlt (by decide)
    · cases hother

/-- In a well formed inventory a payment without the check of what can be unequipped is exact exactly
when no sum of stacks that it makes exceeds a `uint32` and no bag that it destroys has anything else
in it. -/
theorem paid_destroyItemCount_iff (h : Holds catalog ledger inv []) (hcount : count < 2 ^ 32) :
    Paid catalog inTrade entry count inv
        (inv.destroyItemCount catalog facts inTrade entry count false) ↔
      inv.Payable catalog inTrade entry count := by
  rw [destroyItemCount_eq, (open_start inv).paid_iff h hcount (List.nil_append _).symm]
  rfl

/-- Six pieces of an item that is no bag. -/
theorem pouchInventory_pays :
    Paid pouchCatalog (fun _ => false) 2 6 pouchInventory
      (pouchInventory.destroyItemCount pouchCatalog plainFacts (fun _ => false) 2 6 false) :=
  (paid_destroyItemCount_iff holds_pouchInventory (by decide)).mpr
    (payable_of_not_bag (by decide) (by decide +kernel))

/-- Paying with the pouch destroys what is in it. -/
theorem pouch_takes_contents :
    ∃ (inv : Inventory) (ledger : Nat → Nat) (entry count : Nat),
      Holds pouchCatalog ledger inv [] ∧ count < 2 ^ 32 ∧
        ¬Paid pouchCatalog (fun _ => false) entry count inv
          (inv.destroyItemCount pouchCatalog plainFacts (fun _ => false) entry count false) := by
  refine ⟨pouchInventory, _, 1, 1, holds_pouchInventory, by decide, fun hpaid => ?_⟩
  have hothers := hpaid.others (.content 1 0) (by
    rintro ⟨_, _, _, item, hfind, hcounts⟩
    have hitem : pouchInventory.items.find? (.content 1 0) = some ⟨3, 2, 5, [], false, false⟩ := by
      decide
    rw [hitem] at hfind
    cases hfind
    exact absurd hcounts (by decide))
  exact absurd hothers (by decide +kernel)

end Cataclysm.Items
