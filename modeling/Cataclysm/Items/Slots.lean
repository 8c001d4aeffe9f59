import Cataclysm.Items.Item

/-!
# Slot addresses and the inventory

## Implementation notes

`mailed` collects what the functions here put into a mail to the player himself, `destroyed` what
the release of loot destroys. Guids come from one counter.
-/

namespace Cataclysm.Items

def nullBag : Nat := 0

def nullSlot : Nat := 255

/-- Slots of this bag are slots of the player himself. -/
def inventorySlotBag0 : Nat := 255

def equipmentSlotEnd : Nat := 19

def inventorySlotBagStart : Nat := 19

def inventorySlotBagEnd : Nat := 23

def inventorySlotItemStart : Nat := 23

def inventorySlotItemEnd : Nat := 39

def bankSlotItemStart : Nat := 39

def bankSlotItemEnd : Nat := 67

def bankSlotBagStart : Nat := 67

def bankSlotBagEnd : Nat := 74

def buybackSlotStart : Nat := 74

def playerSlotEnd : Nat := 86

/-- The bag byte and the slot byte of a `uint16 pos`. -/
structure ItemPos where
  bag : Nat
  slot : Nat
  deriving DecidableEq

/-- The address of one of the player's own slots. -/
def ItemPos.own (slot : Nat) : ItemPos := ⟨inventorySlotBag0, slot⟩

def ItemPos.isEquipmentPos (pos : ItemPos) : Bool :=
  pos.bag = inventorySlotBag0 && pos.slot < equipmentSlotEnd ||
    pos.bag = inventorySlotBag0 && inventorySlotBagStart ≤ pos.slot &&
      pos.slot < inventorySlotBagEnd

/-- The own slots in which a bag is open. -/
def isBagSlot (slot : Nat) : Bool :=
  inventorySlotBagStart ≤ slot && slot < inventorySlotBagEnd ||
    bankSlotBagStart ≤ slot && slot < bankSlotBagEnd

def ItemPos.isBagPos (pos : ItemPos) : Bool :=
  pos.bag = inventorySlotBag0 && isBagSlot pos.slot

/-- Where an item lies: in a slot of the player's own, or in a slot of the bag with this guid. -/
inductive Place
  | own (slot : Nat)
  | content (bagGuid slot : Nat)

/-- Places are ordered by bag and slot. -/
def Place.key : Place → ℕ ×ₗ ℕ
  | own slot => toLex (0, slot)
  | content bagGuid slot => toLex (bagGuid + 1, slot)

theorem Place.key_injective : Function.Injective Place.key := by
  intro place place' heq
  cases place with
  | own slot =>
    cases place' with
    | own slot' =>
      have hslot : slot = slot' := congrArg (fun p => (ofLex p).2) heq
      rw [hslot]
    | content bagGuid slot' =>
      have hzero : 0 = bagGuid + 1 := congrArg (fun p => (ofLex p).1) heq
      omega
  | content bagGuid slot =>
    cases place' with
    | own slot' =>
      have hzero : bagGuid + 1 = 0 := congrArg (fun p => (ofLex p).1) heq
      omega
    | content bagGuid' slot' =>
      have hbag : bagGuid + 1 = bagGuid' + 1 := congrArg (fun p => (ofLex p).1) heq
      have hslot : slot = slot' := congrArg (fun p => (ofLex p).2) heq
      rw [Nat.succ.inj hbag, hslot]

instance : LinearOrder Place := LinearOrder.lift' Place.key Place.key_injective

/-- What stands in the places of a player. -/
structure Inventory where
  items : OrderedMap Place Item
  nextGuid : Nat
  mailed : List Item
  destroyed : List Item
  deriving DecidableEq

variable (catalog : Catalog)

def Item.isBag (item : Item) : Bool :=
  (catalog.template item.entry).inventoryType = .bag

/-- The slots that the item has as a bag. -/
def Item.bagSize (item : Item) : Nat := (catalog.template item.entry).containerSlots

/-- The largest stack of the item. -/
def Item.maxStack (item : Item) : Nat := (catalog.template item.entry).getMaxStackSize

/-- Full stacks, other items and looted containers stay apart. -/
def Item.canBeMergedPartlyWith (item : Item) (entry : Nat) : InventoryResult :=
  if item.lootGenerated then .lootGone
  else if item.entry ≠ entry then .cantStack
  else if (catalog.template entry).getMaxStackSize ≤ item.count then .cantStack
  else .ok

namespace Inventory

/-- The bag in a bag slot. -/
def getBagByPos (inv : Inventory) (bag : Nat) : Option Item :=
  if isBagSlot bag then (inv.items.find? (.own bag)).filter (Item.isBag catalog) else none

/-- The place that an address denotes. -/
def place? (inv : Inventory) (pos : ItemPos) : Option Place :=
  if pos.bag = inventorySlotBag0 ∧ pos.slot < bankSlotBagEnd then some (.own pos.slot)
  else
    match inv.getBagByPos catalog pos.bag with
    | some bag => if pos.slot < bag.bagSize catalog then some (.content bag.guid pos.slot) else none
    | none => none

/-- The item at a position, in a bag or not. -/
def getItemByPos (inv : Inventory) (pos : ItemPos) : Option Item :=
  (inv.place? catalog pos).bind inv.items.find?

/-- `Bag::IsEmpty`. -/
def isEmptyBag (inv : Inventory) (bag : Item) : Bool :=
  (List.range (bag.bagSize catalog)).all fun slot =>
    (inv.items.find? (.content bag.guid slot)).isNone

/-- Something stands in the bag. -/
def isNotEmptyBag (inv : Inventory) (item : Item) : Bool :=
  item.isBag catalog && !inv.isEmptyBag catalog item

/-- The items in a range of the player's own slots. -/
def ownItems (inv : Inventory) (slotBegin slotEnd : Nat) : List Item :=
  (List.range' slotBegin (slotEnd - slotBegin)).filterMap fun slot =>
    inv.getItemByPos catalog (.own slot)

/-- The items in the bag that stands in a bag slot. -/
def bagItems (inv : Inventory) (bag : Nat) : List Item :=
  match inv.getBagByPos catalog bag with
  | some item => (List.range (item.bagSize catalog)).filterMap fun slot =>
    inv.items.find? (.content item.guid slot)
  | none => []

/-- The items in the equipped bags, or in the bank bags. -/
def itemsInBags (inv : Inventory) (bagBegin bagEnd : Nat) : List Item :=
  (List.range' bagBegin (bagEnd - bagBegin)).flatMap (inv.bagItems catalog)

/-- The items in all slots and in the mails. -/
def allItems (inv : Inventory) : List Item := inv.items.entries.map Prod.snd ++ inv.mailed

end Inventory

end Cataclysm.Items
