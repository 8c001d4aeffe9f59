import Cataclysm.Lib.OrderedMap

/-!
# The loot of a corpse or a chest

A loot has items and quest items. That an item is gone is marked on the item, and for the players
with lists of their own on the entry of their list: of quest items, of items that are free for all,
and of items with conditions. A player takes an item by the slot that he sees, and the master looter
gives an item to anyone in the group by its place.

## Implementation notes

A pointer to an item is its place and a pointer to an entry is its position in the list. The world
of a call says what the code asks of templates, players and groups; every call has its own. What the
players got is kept beside the loot. Random properties, packets, achievements, guild news and the
database are left out.
-/

namespace Cataclysm.Looting

/-- `LootMethod`. -/
inductive LootMethod
  | freeForAll
  | roundRobin
  | masterLoot
  | groupLoot
  | needBeforeGreed
  deriving DecidableEq

/-- The two factions of players. -/
inductive Team
  | horde
  | alliance
  deriving DecidableEq

/-- What the filling asks of an item. -/
structure ItemTemplate where
  maxStackSize : Nat
  quality : Nat
  isPartyLoot : Bool
  isSmartLoot : Bool
  isHordeOnly : Bool
  isAllianceOnly : Bool
  ignoreQuestStatus : Bool
  followLootRules : Bool
  isCurrencyToken : Bool
  requiredSkill : Nat
  spellId : Nat
  startQuest : Nat

/-- A group with its members, who are near enough to the looter or not. -/
structure Group where
  lootMethod : LootMethod
  looterGuid : Nat
  lootThreshold : Nat
  members : List (Nat × Bool)
  nodup : (members.map Prod.fst).Nodup

/-- What the code asks during one call. -/
structure World where
  itemTemplate : Nat → Option ItemTemplate
  isObjectMeetToConditions : Nat → List Nat → Bool
  hasSkill : Nat → Nat → Bool
  hasSpell : Nat → Nat → Bool
  team : Nat → Team
  hasQuestStatus : Nat → Nat → Bool
  hasQuestForItem : Nat → Nat → Bool
  group : Nat → Option Group
  canStoreNewItem : Nat → Nat → Nat → Bool
  isFound : Nat → Bool
  isLooting : Nat → Bool
  isInRaidWith : Nat → Nat → Bool
  isInMap : Nat → Nat → Bool

/-- An entry of the loot tables. -/
structure LootStoreItem where
  itemid : Nat
  needsQuest : Bool
  conditions : List Nat

/-- An item of a loot with its flags. -/
structure LootItem where
  itemid : Nat
  conditions : List Nat
  allowedGuids : Finset Nat
  count : Nat
  isLooted : Bool
  isBlocked : Bool
  freeforall : Bool
  isUnderthreshold : Bool
  isCounted : Bool
  needsQuest : Bool
  followLootRules : Bool
  deriving DecidableEq

/-- An entry of a player's list. -/
structure QuestItem where
  index : Nat
  isLooted : Bool
  deriving DecidableEq

/-- The loot of one object. -/
structure Loot where
  items : List LootItem
  questItems : List LootItem
  unlootedCount : UInt8
  roundRobinPlayer : Nat
  playerQuestItems : OrderedMap Nat (List QuestItem)
  playerFFAItems : OrderedMap Nat (List QuestItem)
  playerNonQuestNonFFAConditionalItems : OrderedMap Nat (List QuestItem)

/-- An item that a player got. -/
structure Gift where
  player : Nat
  isQuestItem : Bool
  index : Nat
  deriving DecidableEq

/-- A loot and what the players got of it. -/
structure LootState where
  loot : Loot
  given : List Gift

def maxNrLootItems : Nat := 16

def maxNrQuestItems : Nat := 32

/-! ### Items -/

namespace LootItem

/-- `LootItem::LootItem`, with the count that `AddItem` sets. -/
def ofStoreItem (w : World) (li : LootStoreItem) (count : Nat) : LootItem where
  itemid := li.itemid
  conditions := li.conditions
  allowedGuids := ∅
  count := count
  isLooted := false
  isBlocked := false
  freeforall := (w.itemTemplate li.itemid).any fun proto => proto.isPartyLoot
  isUnderthreshold := false
  isCounted := false
  needsQuest := li.needsQuest
  followLootRules := (w.itemTemplate li.itemid).any fun proto => proto.followLootRules

/-- Conditions, quests and team let the player have the item. -/
def allowedForPlayer (w : World) (item : LootItem) (player : Nat) : Bool :=
  w.isObjectMeetToConditions player item.conditions &&
    match w.itemTemplate item.itemid with
    | none => false
    | some proto =>
      !(proto.isSmartLoot &&
        (!w.hasSkill player proto.requiredSkill || w.hasSpell player proto.spellId)) &&
      !(proto.isHordeOnly && w.team player != .horde) &&
      !(proto.isAllianceOnly && w.team player != .alliance) &&
      !(!proto.ignoreQuestStatus &&
        ((item.needsQuest || (proto.startQuest != 0 && w.hasQuestStatus player proto.startQuest))
          && !w.hasQuestForItem player item.itemid))

/-- The item is for the player, or it follows the loot rules and the player may loot by these. -/
def isFor (w : World) (item : LootItem) (player : Nat) : Bool :=
  item.allowedForPlayer w player ||
    (item.followLootRules && (w.group player).any fun group =>
      (group.lootMethod == .masterLoot && group.looterGuid == player) ||
        group.lootMethod != .masterLoot)

end LootItem

namespace Loot

def empty : Loot := ⟨[], [], 0, 0, OrderedMap.empty, OrderedMap.empty, OrderedMap.empty⟩

/-- The item of a place. -/
def lootItem (loot : Loot) (isQuestItem : Bool) (index : Nat) : Option LootItem :=
  if isQuestItem then loot.questItems[index]? else loot.items[index]?

/-- One item of the loot changes. -/
def modifyItem (loot : Loot) (isQuestItem : Bool) (index : Nat) (f : LootItem → LootItem) : Loot :=
  if isQuestItem then { loot with questItems := loot.questItems.modify index f }
  else { loot with items := loot.items.modify index f }

/-! ### Filling -/

/-- A new item goes to the list of its kind. -/
def pushItem (loot : Loot) (item : LootItem) : Loot :=
  if item.needsQuest then { loot with questItems := loot.questItems ++ [item] }
  else
    { loot with
      items := loot.items ++ [item]
      unlootedCount :=
        if item.conditions.isEmpty && !item.freeforall then loot.unlootedCount + 1
        else loot.unlootedCount }

/-- The list of its kind is not full. -/
def hasRoom (loot : Loot) (needsQuest : Bool) : Bool :=
  if needsQuest then loot.questItems.length < maxNrQuestItems
  else loot.items.length < maxNrLootItems

/-- The loop of `AddItem` over the stacks. -/
def addStacks (w : World) (li : LootStoreItem) (maxStackSize : Nat) : Nat → Nat → Loot → Loot
  | 0, _, loot => loot
  | stackCount + 1, count, loot =>
    if loot.hasRoom li.needsQuest then
      addStacks w li maxStackSize stackCount (count - maxStackSize)
        (loot.pushItem (LootItem.ofStoreItem w li (min count maxStackSize)))
    else loot

/-- `AddItem`, with the drawn count. -/
def addItem (w : World) (loot : Loot) (drop : LootStoreItem × Nat) : Loot :=
  match w.itemTemplate drop.1.itemid with
  | none => loot
  | some proto =>
    let stackCount := drop.2 / proto.maxStackSize + if drop.2 % proto.maxStackSize ≠ 0 then 1 else 0
    loot.addStacks w drop.1 proto.maxStackSize stackCount drop.2

/-- The places of the free items that the player may take. -/
def freePlaces (w : World) (player : Nat) (loot : Loot) : List Nat :=
  (List.range loot.items.length).filter fun i => (loot.items[i]?).any fun item =>
    !item.isLooted && item.freeforall && item.allowedForPlayer w player

/-- The items that everybody can take once. -/
def fillFFALoot (w : World) (player : Nat) (loot : Loot) : Loot :=
  let ql : List QuestItem := (loot.freePlaces w player).map fun i => ⟨i, false⟩
  let loot := { loot with unlootedCount := loot.unlootedCount + UInt8.ofNat ql.length }
  if ql = [] then loot
  else { loot with playerFFAItems := loot.playerFFAItems.insert player ql }

/-- One more item is waited for. -/
def countUnlooted (loot : Loot) : Loot := { loot with unlootedCount := loot.unlootedCount + 1 }

/-- Quest items get blocked when they first appear in a player's list, unless his group rolls. -/
def blocksQuestItems (w : World) (player : Nat) : Bool :=
  (w.group player).all fun group =>
    group.lootMethod != .groupLoot && group.lootMethod != .roundRobin

/-- A quest item appears in a player's list. It is counted once if one looter only, and for each
looter if free for all. -/
def listQuestItem (w : World) (player i : Nat) (item : LootItem) (loot : Loot) : Loot :=
  let loot := if item.freeforall || !item.isBlocked then loot.countUnlooted else loot
  if blocksQuestItems w player then
    loot.modifyItem true i fun item => { item with isBlocked := true }
  else loot

/-- The loop of `FillQuestLoot` over the places. -/
def fillQuestLootFrom (w : World) (player : Nat) :
    List Nat → List QuestItem → Loot → List QuestItem × Loot
  | [], ql, loot => (ql, loot)
  | i :: rest, ql, loot =>
    match loot.questItems[i]? with
    | none => fillQuestLootFrom w player rest ql loot
    | some item =>
      if !item.isLooted && item.isFor w player then
        let ql := ql ++ [⟨i, false⟩]
        let loot := loot.listQuestItem w player i item
        if loot.items.length + ql.length = maxNrLootItems then (ql, loot)
        else fillQuestLootFrom w player rest ql loot
      else fillQuestLootFrom w player rest ql loot

/-- The quest items that the player may have. -/
def fillQuestLoot (w : World) (player : Nat) (loot : Loot) : Loot :=
  if loot.items.length = maxNrLootItems then loot
  else
    let (ql, loot) := fillQuestLootFrom w player (List.range loot.questItems.length) [] loot
    if ql = [] then loot
    else { loot with playerQuestItems := loot.playerQuestItems.insert player ql }

/-- An item with conditions is counted when it first appears in a player's list. -/
def listConditionalItem (i : Nat) (item : LootItem) (loot : Loot) : Loot :=
  if item.isCounted then loot
  else loot.countUnlooted.modifyItem false i fun item => { item with isCounted := true }

/-- The player may take the item. -/
def addAllowedLooter (player : Nat) (item : LootItem) : LootItem :=
  { item with allowedGuids := insert player item.allowedGuids }

/-- The loop of `FillNonQuestNonFFAConditionalLoot` over the places. -/
def fillConditionalLootFrom (w : World) (player : Nat) (presentAtLooting : Bool) :
    List Nat → List QuestItem → Loot → List QuestItem × Loot
  | [], ql, loot => (ql, loot)
  | i :: rest, ql, loot =>
    match loot.items[i]? with
    | none => fillConditionalLootFrom w player presentAtLooting rest ql loot
    | some item =>
      if !item.isLooted && !item.freeforall && item.isFor w player then
        let loot := if presentAtLooting then loot.modifyItem false i (addAllowedLooter player)
          else loot
        if item.conditions.isEmpty then
          fillConditionalLootFrom w player presentAtLooting rest ql loot
        else
          fillConditionalLootFrom w player presentAtLooting rest (ql ++ [⟨i, false⟩])
            (loot.listConditionalItem i item)
      else fillConditionalLootFrom w player presentAtLooting rest ql loot

/-- The other items with conditions. -/
def fillNonQuestNonFFAConditionalLoot (w : World) (player : Nat) (presentAtLooting : Bool)
    (loot : Loot) : Loot :=
  let (ql, loot) :=
    fillConditionalLootFrom w player presentAtLooting (List.range loot.items.length) [] loot
  if ql = [] then loot
  else
    { loot with
      playerNonQuestNonFFAConditionalItems :=
        loot.playerNonQuestNonFFAConditionalItems.insert player ql }

/-- The lists that `FillNotNormalLootFor` gives a player who has none. -/
def fillLists (w : World) (player : Nat) (presentAtLooting : Bool) (loot : Loot) : Loot :=
  let loot := if loot.playerQuestItems.contains player then loot else loot.fillQuestLoot w player
  let loot := if loot.playerFFAItems.contains player then loot else loot.fillFFALoot w player
  if loot.playerNonQuestNonFFAConditionalItems.contains player then loot
  else loot.fillNonQuestNonFFAConditionalLoot w player presentAtLooting

/-! ### Taking -/

/-- What `LootItemInSlot` finds: the place of an item, and the position of the player's entry. -/
structure SlotItem where
  isQuestItem : Bool
  index : Nat
  qitem : Option Nat
  ffaitem : Option Nat
  conditem : Option Nat
  deriving DecidableEq

/-- A list of the player: it may be absent. -/
def listOf (lists : OrderedMap Nat (List QuestItem)) (player : Nat) : List QuestItem :=
  (lists.find? player).getD []

/-- The position of the entry for an item, and its mark. -/
def entryFor (list : List QuestItem) (index : Nat) : Option (Nat × Bool) :=
  (list.findIdx? fun entry => entry.index == index).bind fun position =>
    (list[position]?).map fun entry => (position, entry.isLooted)

/-- What the player sees in a slot. -/
def lootItemInSlot (loot : Loot) (lootSlot player : Nat) : Option SlotItem :=
  match loot.items[lootSlot]? with
  | none =>
    let questSlot := lootSlot - loot.items.length
    match (listOf loot.playerQuestItems player)[questSlot]? with
    | none => none
    | some qitem =>
      if qitem.isLooted then none else some ⟨true, qitem.index, some questSlot, none, none⟩
  | some item =>
    if item.freeforall then
      match entryFor (listOf loot.playerFFAItems player) lootSlot with
      | none => if item.isLooted then none else some ⟨false, lootSlot, none, none, none⟩
      | some (position, isLooted) =>
        if isLooted then none else some ⟨false, lootSlot, none, some position, none⟩
    else if item.conditions.isEmpty then
      if item.isLooted then none else some ⟨false, lootSlot, none, none, none⟩
    else
      match entryFor (listOf loot.playerNonQuestNonFFAConditionalItems player) lootSlot with
      | none => if item.isLooted then none else some ⟨false, lootSlot, none, none, none⟩
      | some (position, isLooted) =>
        if isLooted then none else some ⟨false, lootSlot, none, none, some position⟩

/-- The number of slots that the player can name. -/
def getMaxSlotInLootFor (loot : Loot) (player : Nat) : Nat :=
  loot.items.length + (listOf loot.playerQuestItems player).length

/-- An entry is marked as looted. -/
def markEntry (lists : OrderedMap Nat (List QuestItem)) (player position : Nat) :
    OrderedMap Nat (List QuestItem) :=
  match lists.find? player with
  | none => lists
  | some list =>
    lists.insert player (list.modify position fun entry => { entry with isLooted := true })

/-- The marks of `StoreLootItem` on the entry of the player. -/
def markEntries (loot : Loot) (player : Nat) (slot : SlotItem) : Loot :=
  match slot.qitem, slot.ffaitem, slot.conditem with
  | some position, _, _ =>
    { loot with playerQuestItems := markEntry loot.playerQuestItems player position }
  | none, some position, _ =>
    { loot with playerFFAItems := markEntry loot.playerFFAItems player position }
  | none, none, some position =>
    { loot with
      playerNonQuestNonFFAConditionalItems :=
        markEntry loot.playerNonQuestNonFFAConditionalItems player position }
  | none, none, none => loot

/-- The checks of `StoreLootItem`. -/
def storableItem (w : World) (loot : Loot) (lootSlot player : Nat) :
    Option (SlotItem × LootItem) :=
  match loot.lootItemInSlot lootSlot player with
  | none => none
  | some slot =>
    match loot.lootItem slot.isQuestItem slot.index with
    | none => none
    | some item =>
      if item.allowedForPlayer w player = false then none
      -- quest items use the blocked field for other purposes
      else if slot.qitem = none ∧ item.isBlocked = true then none
      else if w.canStoreNewItem player item.itemid item.count then some (slot, item)
      else none

/-- The place that `HandleLootMasterGiveOpcode` and `FillNotNormalLootFor` take a slot for. -/
def placeAt (loot : Loot) (slotid : Nat) : Bool × Nat :=
  if slotid < loot.items.length then (false, slotid) else (true, slotid - loot.items.length)

/-- The checks of `HandleLootMasterGiveOpcode`. -/
def giveableItem (w : World) (loot : Loot) (player slotid target : Nat) :
    Option (SlotItem × LootItem) :=
  if (w.group player).any (fun group => group.looterGuid == player) = false then none
  else if w.isFound target = false then none
  else if w.isLooting player = false then none
  else if w.isInRaidWith player target = false ∨ w.isInMap player target = false then none
  else
    let place := loot.placeAt slotid
    match loot.lootItem place.1 place.2 with
    | none => none
    | some item =>
      if w.canStoreNewItem target item.itemid item.count = false then none
      else if item.followLootRules && !item.allowedForPlayer w target then none
      else some (⟨place.1, place.2, none, none, none⟩, item)

end Loot

namespace LootState

open Looting.Loot

/-- `StoreNewItem`: nothing is created at zero count. -/
def storeNewItem (s : LootState) (player : Nat) (slot : SlotItem) (item : LootItem) : LootState :=
  if item.count = 0 then s
  else { s with given := s.given ++ [⟨player, slot.isQuestItem, slot.index⟩] }

/-- The player takes an item into his bags. -/
def storeLootItem (w : World) (lootSlot : UInt8) (player : Nat) (s : LootState) : LootState :=
  match s.loot.storableItem w lootSlot.toNat player with
  | none => s
  | some (slot, item) =>
    let s := s.storeNewItem player slot item
    let loot := s.loot.markEntries player slot
    let loot := if item.freeforall then loot
      else loot.modifyItem slot.isQuestItem slot.index fun item => { item with isLooted := true }
    { s with loot := { loot with unlootedCount := loot.unlootedCount - 1 } }

/-- The loot master gives an item to a member. -/
def lootMasterGive (w : World) (player : Nat) (slotid : UInt8) (target : Nat) (s : LootState) :
    LootState :=
  match s.loot.giveableItem w player slotid.toNat target with
  | none => s
  | some (slot, item) =>
    let s := s.storeNewItem target slot item
    let loot := s.loot.modifyItem slot.isQuestItem slot.index fun item =>
      { item with count := 0, isLooted := true }
    { s with loot := { loot with unlootedCount := loot.unlootedCount - 1 } }

/-- One round of the loop that hands out currencies, for the item of a place. -/
def processCurrency (w : World) (player : Nat) (s : LootState) (i : Nat) : LootState :=
  let place := s.loot.placeAt i
  match s.loot.lootItem place.1 place.2 with
  | none => s
  | some item =>
    if !item.isLooted && item.freeforall && item.allowedForPlayer w player &&
        (w.itemTemplate item.itemid).any fun proto => proto.isCurrencyToken then
      s.storeLootItem w (UInt8.ofNat i) player
    else s

/-- The lists of one player are made. -/
def fillNotNormalLootFor (w : World) (player : Nat) (presentAtLooting : Bool) (s : LootState) :
    LootState :=
  let s := { s with loot := s.loot.fillLists w player presentAtLooting }
  if presentAtLooting then
    (List.range (s.loot.getMaxSlotInLootFor player)).foldl (processCurrency w player) s
  else s

/-- Cheap items are free for the looter of the round. -/
def markUnderthreshold (w : World) (group : Group) (item : LootItem) : LootItem :=
  match w.itemTemplate item.itemid with
  | none => item
  | some proto =>
    if proto.quality < group.lootThreshold then { item with isUnderthreshold := true } else item

/-- `FillLoot`, with what the template adds. -/
def fillLoot (w : World) (drops : List (LootStoreItem × Nat)) (lootOwner : Nat)
    (personal : Bool) : LootState :=
  let loot := drops.foldl (addItem w) Loot.empty
  match w.group lootOwner with
  | none => fillNotNormalLootFor w lootOwner true ⟨loot, []⟩
  | some group =>
    if personal then fillNotNormalLootFor w lootOwner true ⟨loot, []⟩
    else
      let s : LootState := ⟨{ loot with roundRobinPlayer := lootOwner }, []⟩
      let s := group.members.foldl (fun s member => s.fillNotNormalLootFor w member.1 member.2) s
      { s with loot := { s.loot with items := s.loot.items.map (markUnderthreshold w group) } }

end LootState

/-! ### Calls -/

/-- The calls that reach a loot. -/
inductive LootCall
  | storeLootItem (lootSlot : UInt8) (player : Nat)
  | lootMasterGive (player : Nat) (slotid : UInt8) (target : Nat)
  deriving DecidableEq

/-- One call in the world that it meets. -/
def step (s : LootState) : World × LootCall → LootState
  | (w, .storeLootItem lootSlot player) => s.storeLootItem w lootSlot player
  | (w, .lootMasterGive player slotid target) => s.lootMasterGive w player slotid target

end Cataclysm.Looting
