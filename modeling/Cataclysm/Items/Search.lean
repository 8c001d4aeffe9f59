import Cataclysm.Items.Slots

/-!
# The search for room

`CanStoreItem` collects positions for an item without touching the inventory: at first the slot or
the bag that was asked for, then stacks to merge with, then free slots. Each stage takes what it
can from the count that is left; the search ends when nothing is left.

## Implementation notes

The stages that a call goes through are a list. A `must` stage that refuses ends the search with
its result, a `may` stage that refuses is passed over. The two loops over slots are `fill`.
-/

namespace Cataclysm.Items

/-- What the storage functions read of the player besides his slots. `equipStateLocked` is the
refusal to change gear in combat or in an arena, `equipRefusal` that of the other checks that
`CanEquipItem` makes before it looks for a slot. -/
structure PlayerFacts where
  isAlive : Bool
  canDualWield : Bool
  canTitanGrip : Bool
  wearsRelics : Bool
  bankBagSlotCount : Nat
  isBindedNotWith : Item → Bool
  equipStateLocked : Option InventoryResult
  equipRefusal : Item → Option InventoryResult
  canUseItem : Item → InventoryResult
  canEquipUniqueItem : Item → Nat → InventoryResult
  isInTradeWindow : Nat → Bool
  lootGuid : Nat

variable (catalog : Catalog) (facts : PlayerFacts)

/-! ### Counting what the player has -/

/-- The count of an entry among some items, without the one that is skipped. -/
def countOf (entry : Nat) (skipItem : Item) (items : List Item) : Nat :=
  ((items.filter fun item => item.guid ≠ skipItem.guid && item.entry = entry).map Item.count).sum

/-- The gems of an entry in socketed items, when the skipped item is a gem. -/
def gemCountOf (entry : Nat) (skipItem : Item) (items : List Item) : Nat :=
  if (catalog.template skipItem.entry).gemProperties ≠ 0 then
    ((items.filter fun item => item.guid ≠ skipItem.guid &&
      (catalog.template item.entry).socketColor ≠ 0).map fun item => item.gems.count entry).sum
  else 0

def getItemCount (inv : Inventory) (entry : Nat) (skipItem : Item) : Nat :=
  let worn := inv.ownItems catalog 0 inventorySlotItemEnd
  let carried := inv.itemsInBags catalog inventorySlotBagStart inventorySlotBagEnd
  let bank := inv.ownItems catalog bankSlotItemStart bankSlotBagEnd
  let banked := inv.itemsInBags catalog bankSlotBagStart bankSlotBagEnd
  countOf entry skipItem (worn ++ carried ++ bank ++ banked) +
    gemCountOf catalog entry skipItem
      (worn ++ carried ++ inv.ownItems catalog bankSlotItemStart bankSlotItemEnd ++ banked)

def getItemCountWithLimitCategory (inv : Inventory) (limitCategory : Nat) (skipItem : Item) : Nat :=
  let items := inv.ownItems catalog 0 inventorySlotItemEnd ++
    inv.itemsInBags catalog inventorySlotBagStart inventorySlotBagEnd ++
    inv.ownItems catalog bankSlotItemStart bankSlotBagEnd ++
    inv.itemsInBags catalog bankSlotBagStart bankSlotBagEnd
  ((items.filter fun item => item.guid ≠ skipItem.guid &&
    (catalog.template item.entry).itemLimitCategory = limitCategory).map Item.count).sum

/-! ### Stages -/

/-- The positions found so far and the count that is left. -/
structure Search where
  dest : List (ItemPos × Nat)
  count : Nat
  deriving DecidableEq

/-- `isContainedIn`. -/
def Search.contains (s : Search) (pos : ItemPos) : Bool :=
  s.dest.any fun found => found.1 = pos

def Search.push (s : Search) (pos : ItemPos) (needSpace : Nat) : Search :=
  if s.contains pos then s
  else ⟨s.dest ++ [(pos, min needSpace s.count)], s.count - min needSpace s.count⟩

/-- A part of the search goes on with what the parts before it have left. -/
abbrev Stage := Search → InventoryResult × Search

/-- The item in a slot, unless it is the one that is to be moved. -/
def occupant (inv : Inventory) (pos : ItemPos) (srcItem : Item) : Option Item :=
  (inv.getItemByPos catalog pos).filter fun item => item.guid ≠ srcItem.guid

/-- The room in a slot for a merge, or in a free slot. -/
def needSpace (inv : Inventory) (srcItem : Item) (merge : Bool) (pos : ItemPos) : Option Nat :=
  match occupant catalog inv pos srcItem, merge with
  | none, false => some (srcItem.maxStack catalog)
  | some item, true =>
    if item.canBeMergedPartlyWith catalog srcItem.entry = .ok then
      some (srcItem.maxStack catalog - item.count)
    else none
  | _, _ => none

def fill (inv : Inventory) (srcItem : Item) (merge : Bool) : List ItemPos → Search → Search
  | [], s => s
  | pos :: rest, s =>
    match needSpace catalog inv srcItem merge pos with
    | none => fill inv srcItem merge rest s
    | some space =>
      if s.contains pos then fill inv srcItem merge rest s
      else if (s.push pos space).count = 0 then s.push pos space
      else fill inv srcItem merge rest (s.push pos space)

/-- The item fits to a slot that is empty at the move. -/
def fitsToSlot (inv : Inventory) (pos : ItemPos) (srcItem : Item) : Bool :=
  if pos.bag = inventorySlotBag0 then
    !(buybackSlotStart ≤ pos.slot && pos.slot < playerSlotEnd || playerSlotEnd ≤ pos.slot)
  else
    match inv.getBagByPos catalog pos.bag with
    | none => false
    | some bag => pos.slot < bag.bagSize catalog &&
        itemCanGoIntoBag (catalog.template srcItem.entry) (catalog.template bag.entry)

def canStoreItemInSpecificSlot (inv : Inventory) (pos : ItemPos) (swap : Bool) (srcItem : Item) :
    Stage := fun s =>
  if inv.isNotEmptyBag catalog srcItem && !pos.isBagPos then (.destroyNonemptyBag, s)
  else
    match if swap then none else occupant catalog inv pos srcItem with
    | none =>
      if fitsToSlot catalog inv pos srcItem then (.ok, s.push pos (srcItem.maxStack catalog))
      else (.wrongBagType, s)
    | some item =>
      match item.canBeMergedPartlyWith catalog srcItem.entry with
      | .ok => (.ok, s.push pos (srcItem.maxStack catalog - item.count))
      | res => (res, s)

def canStoreItemInBag (inv : Inventory) (bag : Nat) (merge nonSpecialized : Bool) (srcItem : Item)
    (skip : ItemPos) : Stage := fun s =>
  if bag = skip.bag then (.wrongBagType, s)
  else
    match inv.getBagByPos catalog bag with
    | none => (.wrongBagType, s)
    | some item =>
      let bagProto := catalog.template item.entry
      if item.guid = srcItem.guid then (.wrongBagType, s)
      else if inv.isNotEmptyBag catalog srcItem then (.destroyNonemptyBag, s)
      else if nonSpecialized ≠ (bagProto.itemClass = .container &&
          bagProto.subClass = itemSubclassContainer) then (.wrongBagType, s)
      else if itemCanGoIntoBag (catalog.template srcItem.entry) bagProto = false then
        (.wrongBagType, s)
      else
        (.ok, fill catalog inv srcItem merge (((List.range (item.bagSize catalog)).filter
          fun slot => slot ≠ skip.slot).map (ItemPos.mk bag)) s)

def canStoreItemInInventorySlots (inv : Inventory) (slotBegin slotEnd : Nat) (merge : Bool)
    (srcItem : Item) (skip : ItemPos) : Stage := fun s =>
  if inv.isNotEmptyBag catalog srcItem then (.destroyNonemptyBag, s)
  else
    (.ok, fill catalog inv srcItem merge (((List.range' slotBegin (slotEnd - slotBegin)).filter
      fun slot => !(inventorySlotBag0 = skip.bag && slot = skip.slot)).map ItemPos.own) s)

/-! ### Searches -/

/-- Only the answer of a part that must succeed ends the search. -/
inductive SearchStep
  | must (stage : Stage)
  | may (stage : Stage)
  | refuse (res : InventoryResult)

/-- `done` is the result when nothing is left, `full` the result at the end. -/
def runSearch (done full : InventoryResult) : List SearchStep → Search → InventoryResult × Search
  | [], s => (full, s)
  | .must stage :: rest, s =>
    let (res, s) := stage s
    if res ≠ .ok then (res, s)
    else if s.count = 0 then (done, s)
    else runSearch done full rest s
  | .may stage :: rest, s =>
    let (res, s) := stage s
    if res ≠ .ok then runSearch done full rest s
    else if s.count = 0 then (done, s)
    else runSearch done full rest s
  | .refuse res :: _, s => (res, s)

/-- Specialized and then plain, as the search in a bag that was asked for does. -/
def canStoreItemInThisBag (inv : Inventory) (merge : Bool) (srcItem : Item) (pos : ItemPos) :
    Stage := fun s =>
  match canStoreItemInBag catalog inv pos.bag merge false srcItem ⟨nullBag, pos.slot⟩ s with
  | (.ok, s) => (.ok, s)
  | (_, s) => canStoreItemInBag catalog inv pos.bag merge true srcItem ⟨nullBag, pos.slot⟩ s

/-- The stage for the bag that was asked for, or for the player's own slots in its place. -/
def inBagAskedFor (inv : Inventory) (slotBegin slotEnd : Nat) (merge : Bool) (srcItem : Item)
    (pos : ItemPos) : Stage :=
  if pos.bag = inventorySlotBag0 then
    canStoreItemInInventorySlots catalog inv slotBegin slotEnd merge srcItem pos
  else canStoreItemInThisBag catalog inv merge srcItem pos

/-- The stages for the bags in a range of bag slots. -/
def inBags (inv : Inventory) (bagBegin bagEnd : Nat) (merge nonSpecialized : Bool) (srcItem : Item)
    (pos : ItemPos) : List SearchStep :=
  (List.range' bagBegin (bagEnd - bagBegin)).map fun bag =>
    .may (canStoreItemInBag catalog inv bag merge nonSpecialized srcItem pos)

def storePlan (inv : Inventory) (pos : ItemPos) (item : Item) (swap : Bool) : List SearchStep :=
  let proto := catalog.template item.entry
  let inSlots (merge : Bool) := SearchStep.must (canStoreItemInInventorySlots catalog inv
    inventorySlotItemStart inventorySlotItemEnd merge item pos)
  let inBags := inBags catalog inv inventorySlotBagStart inventorySlotBagEnd
  let askedFor (merge : Bool) := SearchStep.must (inBagAskedFor catalog inv
    inventorySlotItemStart inventorySlotItemEnd merge item pos)
  (if pos.bag ≠ nullBag ∧ pos.slot ≠ nullSlot then
    [.must (canStoreItemInSpecificSlot catalog inv pos swap item)] else []) ++
  (if pos.bag ≠ nullBag then
    (if proto.stackable ≠ 1 then [askedFor true] else []) ++ [askedFor false] else []) ++
  (if proto.stackable ≠ 1 then
    [inSlots true] ++ (if proto.bagFamily ≠ 0 then inBags true false item pos else []) ++
      inBags true true item pos else []) ++
  (if proto.bagFamily ≠ 0 then inBags false false item pos else []) ++
  (if inv.isNotEmptyBag catalog item then [.refuse .bagInBag] else []) ++
  [inSlots false] ++ inBags false true item pos

end Cataclysm.Items
