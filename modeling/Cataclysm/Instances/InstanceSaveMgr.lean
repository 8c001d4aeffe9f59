import Cataclysm.Lib.OrderedMap

/-!
# Instance saves

An instance save lists the groups and the online players that are bound to it, and a group keeps
its binds by difficulty and by a key of map and dungeon-finder flag. A save that lost the last of
them is removed and deleted. At its reset it makes its groups unbind, and then it is deleted.

## Implementation notes

A save is known by its address, and addresses are not reused. The use of a deleted save and a
failed assertion have no outcome. The registered saves are those that are not deleted, since a save
that is only unregistered has no player and no group left. A list of groups is iterated as it was
when the loop began. The rows of the database do not take part.
-/

namespace Cataclysm.InstanceBinds

/-- `InstanceSaveKey::Create`. -/
def instanceSaveKey (mapId : Nat) (isLfg : Bool) : Nat :=
  mapId &&& 0x00FFFFFF ||| isLfg.toNat <<< 24

/-- A save knows the players and the groups that are bound to it. -/
structure InstanceSave where
  instanceId : Nat
  mapId : Nat
  difficulty : Nat
  canReset : Bool
  isLfg : Bool
  playerList : List Nat
  groupList : List Nat
  deriving DecidableEq

/-- The slot of a bind to the save. -/
def InstanceSave.key (save : InstanceSave) : Nat := instanceSaveKey save.mapId save.isLfg

/-- A bind of a group; its save is `none` in an entry that was only looked up. -/
structure InstanceGroupBind where
  save : Option Nat
  perm : Bool
  deriving DecidableEq

/-- The part of a `Group` that decides about its binds; `isBattleGroup` is `isBGGroup() ||
isBFGroup()`. -/
structure Group where
  isBattleGroup : Bool
  isLFGGroup : Bool
  isPermanentLFGDungeon : Bool
  dungeonDifficulty : Nat
  raidDifficulty : Nat
  boundInstances : Nat → OrderedMap Nat InstanceGroupBind

namespace Group

/-- `IsNonPermanentLFGGroup`. -/
def isNonPermanentLFGGroup (group : Group) : Bool :=
  group.isLFGGroup && !group.isPermanentLFGDungeon

/-- `GetDifficulty`. -/
def getDifficulty (group : Group) (isRaid : Bool) : Nat :=
  if isRaid then group.raidDifficulty else group.dungeonDifficulty

def bind (group : Group) (difficulty key : Nat) : Option InstanceGroupBind :=
  (group.boundInstances difficulty).find? key

def setBind (group : Group) (difficulty key : Nat) (bind : InstanceGroupBind) : Group :=
  { group with
    boundInstances := Function.update group.boundInstances difficulty
      ((group.boundInstances difficulty).insert key bind) }

def eraseBind (group : Group) (difficulty key : Nat) : Group :=
  { group with
    boundInstances := Function.update group.boundInstances difficulty
      ((group.boundInstances difficulty).erase key) }

end Group

/-- The saves by their addresses, the next address, and the groups. -/
structure State where
  saves : OrderedMap Nat InstanceSave
  nextSave : Nat
  groups : OrderedMap Nat Group

/-- What is known of the loaded maps, by instance id. -/
structure Maps where
  loaded : Nat → Bool
  havePlayers : Nat → Bool

namespace State

def empty : State := ⟨.empty, 0, .empty⟩

def setSave (s : State) (address : Nat) (save : InstanceSave) : State :=
  { s with saves := s.saves.insert address save }

def setGroup (s : State) (guid : Nat) (group : Group) : State :=
  { s with groups := s.groups.insert guid group }

/-- `GetInstanceSave`, with the address. -/
def getInstanceSave (s : State) (instanceId : Nat) : Option (Nat × InstanceSave) :=
  s.saves.entries.find? fun e => e.2.instanceId = instanceId

/-- `AddInstanceSave`; `valid` says that the map has an entry and the difficulty. -/
def addInstanceSave (s : State) (mapId instanceId difficulty : Nat) (canReset isLfg valid : Bool) :
    State :=
  if (s.getInstanceSave instanceId).isSome || instanceId = 0 || !valid then s
  else
    { s with
      saves := s.saves.insert s.nextSave
        ⟨instanceId, mapId % 2 ^ 16, difficulty, canReset, isLfg, [], []⟩
      nextSave := s.nextSave + 1 }

/-- `InstanceSaveManager::UpdateDifficulty`. -/
def updateDifficulty (s : State) (instanceId difficulty : Nat) : State :=
  match s.getInstanceSave instanceId with
  | none => s
  | some (address, save) => s.setSave address { save with difficulty }

/-- `UnloadIfEmpty`, and the deletion that follows. -/
def unloadIfEmpty (s : State) (address : Nat) (save : InstanceSave) (locked : Bool) (maps : Maps) :
    State :=
  if save.playerList.isEmpty && save.groupList.isEmpty && !maps.havePlayers save.instanceId
      && !locked then
    { s with saves := s.saves.erase address }
  else s.setSave address save

/-- `InstanceSave::RemoveGroup`. -/
def removeGroup (s : State) (address guid : Nat) (locked : Bool) (maps : Maps) : Option State :=
  match s.saves.find? address with
  | none => none
  | some save =>
    some (s.unloadIfEmpty address { save with groupList := save.groupList.filter (· ≠ guid) }
      locked maps)

/-- `InstanceSave::AddGroup`. -/
def addGroup (s : State) (address guid : Nat) : Option State :=
  match s.saves.find? address with
  | none => none
  | some save => some (s.setSave address { save with groupList := save.groupList ++ [guid] })

/-- `InstanceSave::AddPlayer`. -/
def addPlayer (s : State) (address player : Nat) : State :=
  match s.saves.find? address with
  | none => s
  | some save => s.setSave address { save with playerList := save.playerList ++ [player] }

/-- `InstanceSave::RemovePlayer`. -/
def removePlayer (s : State) (address player : Nat) (maps : Maps) : State :=
  match s.saves.find? address with
  | none => s
  | some save =>
    s.unloadIfEmpty address { save with playerList := save.playerList.filter (· ≠ player) }
      false maps

/-- `Group::UnbindInstance`. -/
def unbindInstance (s : State) (guid mapId difficulty : Nat) (isLfgId locked : Bool)
    (maps : Maps) : Option State :=
  match s.groups.find? guid with
  | none => some s
  | some group =>
    let key := instanceSaveKey mapId isLfgId
    match group.bind difficulty key with
    | none => some s
    | some bind =>
      match bind.save with
      | none => none
      | some address =>
        (s.removeGroup address guid locked maps).map fun s =>
          s.setGroup guid (group.eraseBind difficulty key)

/-- The loop of `_ResetSave` over the groups. -/
def unbindGroups (save : InstanceSave) (maps : Maps) : List Nat → State → Option State
  | [], s => some s
  | guid :: rest, s =>
    (s.unbindInstance guid save.mapId save.difficulty save.isLfg true maps).bind
      (unbindGroups save maps rest)

/-- `_ResetSave`; the players unbind first, and the destructor asserts that no group is left. -/
def resetSave (s : State) (address : Nat) (maps : Maps) : Option State :=
  match s.saves.find? address with
  | none => some s
  | some save =>
    (unbindGroups save maps save.groupList
        (s.setSave address { save with playerList := [] })).bind fun s =>
      match s.saves.find? address with
      | none => none
      | some save =>
        if save.groupList.isEmpty then some { s with saves := s.saves.erase address } else none

/-- `_ResetInstance`. -/
def resetInstance (s : State) (instanceId : Nat) (maps : Maps) : Option State :=
  match s.getInstanceSave instanceId with
  | none => some s
  | some (address, _) => s.resetSave address maps

/-- The loop of `_ResetOrWarnAll` over the saves. -/
def resetSaves (mapId difficulty : Nat) (maps : Maps) : List Nat → State → Option State
  | [], s => some s
  | address :: rest, s =>
    let found := (s.saves.find? address).any fun save =>
      save.mapId = mapId && save.difficulty = difficulty
    (if found then s.resetSave address maps else some s).bind (resetSaves mapId difficulty maps rest)

/-- The global reset of a map in `_ResetOrWarnAll`. -/
def resetAll (s : State) (mapId difficulty : Nat) (maps : Maps) : Option State :=
  resetSaves mapId difficulty maps s.saves.keys s

end State

end Cataclysm.InstanceBinds
