import Cataclysm.Lib.OrderedMap
import Cataclysm.Players.Money

/-!
# Items and the slots they lie in

A player's items lie in numbered slots of his own (equipment, equipped bags, backpack, bank, bank
bags) and in the slots of the bags that stand in a bag slot. A request addresses a slot by a bag
byte and a slot byte.

## Implementation notes

A pointer to an item is its guid. The slots are one map from places to items; the contents of a
bag are kept under the guid of the bag, as the `Bag` object keeps them wherever it stands. Of the
template only what the storage functions read is kept. Bindings, enchantments other than gems,
durations and what the client is told are left out.
-/

namespace Cataclysm.Items

/-- `InventoryResult`, as far as the storage functions give one; `other` is any result of a check
that does not read the slots. -/
inductive InventoryResult
  | ok
  | wrongSlot
  | bagInBag
  | noSlotAvailable
  | twoHandedEquipped
  | twoHandSkillNotFound
  | wrongBagType
  | itemMaxCount
  | cantStack
  | notEquippable
  | cantSwap
  | itemNotFound
  | tooFewToSplit
  | splitFailed
  | destroyNonemptyBag
  | notOwner
  | onlyOneQuiver
  | onlyOneAmmo
  | noBankSlot
  | playerDead
  | clientLockedOut
  | lootGone
  | invFull
  | bankFull
  | itemMaxLimitCategoryCountExceeded
  | other (code : Nat)
  deriving DecidableEq

/-- `InventoryType`. -/
inductive InventoryType
  | nonEquip
  | head
  | neck
  | shoulders
  | body
  | chest
  | waist
  | legs
  | feet
  | wrists
  | hands
  | finger
  | trinket
  | weapon
  | shield
  | ranged
  | cloak
  | twoHandWeapon
  | bag
  | tabard
  | robe
  | weaponMainHand
  | weaponOffHand
  | holdable
  | ammo
  | thrown
  | rangedRight
  | quiver
  | relic
  deriving DecidableEq

/-- `ItemClass`. -/
inductive ItemClass
  | consumable
  | container
  | weapon
  | gem
  | armor
  | reagent
  | projectile
  | tradeGoods
  | generic
  | recipe
  | money
  | quiver
  | quest
  | key
  | permanent
  | miscellaneous
  | glyph
  deriving DecidableEq

/-- What storing reads of `ItemTemplate`. -/
structure ItemTemplate where
  itemClass : ItemClass
  subClass : Nat
  inventoryType : InventoryType
  maxCount : Int
  stackable : Int
  itemLimitCategory : Nat
  bagFamily : Nat
  containerSlots : Nat
  gemProperties : Nat
  socketColor : Nat
  openable : Bool
  prospectableOrMillable : Bool
  deriving DecidableEq

/-- An item limit category counts what a player has, or only what he wears. -/
structure ItemLimitCategory where
  countsHave : Bool
  maxCount : Nat
  deriving DecidableEq

/-- `MAX_BAG_SIZE`. -/
def maxBagSize : Nat := 36

/-- The item templates by entry and the limit categories. Every item has a template, no bag is
created from a template with more slots than a bag can have, and a stack size is an `int32`. -/
structure Catalog where
  template : Nat → ItemTemplate
  limitCategory : Nat → Option ItemLimitCategory
  containerSlots_le : ∀ entry, (template entry).containerSlots ≤ maxBagSize
  stackable_le : ∀ entry, (template entry).stackable ≤ 2147483647

/-- `loot.isLooted()` is kept beside the flag that loot was generated. -/
structure Item where
  guid : Nat
  entry : Nat
  count : Nat
  gems : List Nat
  lootGenerated : Bool
  isLooted : Bool
  deriving DecidableEq

def ItemTemplate.getMaxStackSize (proto : ItemTemplate) : Nat :=
  if proto.stackable = 2147483647 ∨ proto.stackable ≤ 0 then 0x7FFFFFFF - 1
  else proto.stackable.toNat

theorem ItemTemplate.getMaxStackSize_pos (proto : ItemTemplate) : 0 < proto.getMaxStackSize := by
  unfold getMaxStackSize
  split
  · omega
  · next h =>
      push Not at h
      omega

def ItemTemplate.canChangeEquipStateInCombat (proto : ItemTemplate) : Bool :=
  proto.inventoryType = .relic || proto.inventoryType = .shield ||
    proto.inventoryType = .holdable || proto.itemClass = .weapon || proto.itemClass = .projectile

def itemSubclassContainer : Nat := 0

/-- The bit of the bag family that a special container of the subclass asks for. -/
def containerFamilyBit : Nat → Option Nat
  | 1 => some 2
  | 2 => some 5
  | 3 => some 6
  | 4 => some 7
  | 5 => some 9
  | 6 => some 10
  | 7 => some 3
  | 8 => some 4
  | 9 => some 15
  | _ => none

/-- The same for quivers and ammo pouches. -/
def quiverFamilyBit : Nat → Option Nat
  | 2 => some 0
  | 3 => some 1
  | _ => none

def itemCanGoIntoBag (proto bagProto : ItemTemplate) : Bool :=
  match bagProto.itemClass with
  | .container =>
    bagProto.subClass = itemSubclassContainer ||
      (containerFamilyBit bagProto.subClass).any fun bit => proto.bagFamily.testBit bit
  | .quiver => (quiverFamilyBit bagProto.subClass).any fun bit => proto.bagFamily.testBit bit
  | _ => false

end Cataclysm.Items
