import Cataclysm.Items.Search

/-!
# Storing, taking off and destroying items

`StoreItem` writes what a check has chosen and clones the item for all positions but the last. An
equipped item or a bag comes off only if its state allows it, and a destroyed bag takes its contents
with it.
-/

namespace Cataclysm.Items

variable (catalog : Catalog) (facts : PlayerFacts)

namespace Inventory

/-- The place in which `_StoreItem` writes. -/
def storePlace (inv : Inventory) (pos : ItemPos) : Place :=
  match if pos.bag = inventorySlotBag0 then none else inv.getBagByPos catalog pos.bag with
  | some bag => .content bag.guid pos.slot
  | none => .own pos.slot

def putItem (inv : Inventory) (pos : ItemPos) (item : Item) : Inventory :=
  { inv with items := inv.items.insert (inv.storePlace catalog pos) item }

/-- `CloneItem`, with the inventory that has handed out a guid. -/
def cloneItem (inv : Inventory) (item : Item) (count : Nat) : Option (Item × Inventory) :=
  if count < 1 then none
  else
    some (⟨inv.nextGuid, item.entry, min count (item.maxStack catalog), [], false, true⟩,
      { inv with nextGuid := inv.nextGuid + 1 })

/-- `_StoreItem`. -/
def storeItemAt (inv : Inventory) (pos : ItemPos) (item : Item) (count : Nat) (clone : Bool) :
    Inventory :=
  match inv.getItemByPos catalog pos with
  | none =>
    if clone then
      match inv.cloneItem catalog item count with
      | some (newItem, inv) => inv.putItem catalog pos newItem
      | none => inv
    else inv.putItem catalog pos { item with count := count }
  | some item2 => inv.putItem catalog pos { item2 with count := item2.count + count }

/-- `StoreItem`: clones for all positions but the last. -/
def storeItem (inv : Inventory) (item : Item) : List (ItemPos × Nat) → Inventory
  | [] => inv
  | (pos, count) :: rest =>
    (inv.storeItemAt catalog pos item count !rest.isEmpty).storeItem item rest

/-! ### Taking off and destroying -/

def canUnequipItem (inv : Inventory) (pos : ItemPos) (swap : Bool) : InventoryResult :=
  if !pos.isEquipmentPos && !pos.isBagPos then .ok
  else
    match inv.getItemByPos catalog pos with
    | none => .ok
    | some item =>
      if item.lootGenerated then .lootGone
      else
        match if (catalog.template item.entry).canChangeEquipStateInCombat then none
            else facts.equipStateLocked with
        | some res => res
        | none =>
          if !swap && inv.isNotEmptyBag catalog item then .destroyNonemptyBag else .ok

/-- The items in a bag with their slots. -/
def contents (inv : Inventory) (bag : Item) : List (Nat × Item) :=
  (List.range (bag.bagSize catalog)).filterMap fun slot =>
    (inv.items.find? (.content bag.guid slot)).map fun item => (slot, item)

/-- `DestroyItem`, with the contents of a bag. -/
def destroyItem (inv : Inventory) (place : Place) (item : Item) : Inventory :=
  let held := if item.isBag catalog then inv.contents catalog item else []
  { inv with
    items := held.foldl (fun items entry => items.erase (.content item.guid entry.1))
      (inv.items.erase place)
    destroyed := inv.destroyed ++ item :: held.map Prod.snd }

/-- `GetItemByGuid`, with the place; items in buyback slots are not found. -/
def itemByGuid (inv : Inventory) (guid : Nat) : Option (Place × Item) :=
  inv.items.entries.find? fun entry =>
    entry.2.guid = guid && decide (∀ slot ∈ List.range' buybackSlotStart 12, entry.1 ≠ .own slot)

end Inventory

end Cataclysm.Items
