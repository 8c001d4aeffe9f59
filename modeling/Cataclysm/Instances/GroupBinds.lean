import Cataclysm.Instances.InstanceSaveMgr

/-!
# Instance binds of groups

A group is bound to an instance under the difficulty of its save. A change of the leader drops
permanent binds and takes over those of the new leader, a reset drops binds of one difficulty, and
a change of the raid difficulty moves binds to another difficulty, together with their saves.

## Implementation notes

A hash map is iterated in the order of its keys, as it was when the loop began. What the client
stores, the loaded maps and the players decide is read from parameters. `SetRaidDifficulty` for one
instance sets the difficulty of a save that `UpdateDifficulty` then sets to the same value.
-/

namespace Cataclysm.InstanceBinds

namespace State

/-- `Group::BindToInstance`. -/
def bindToInstance (s : State) (guid address : Nat) (permanent : Bool) (maps : Maps) :
    Option State :=
  match s.groups.find? guid with
  | none => some s
  | some group =>
    if group.isBattleGroup then some s
    else
      match s.saves.find? address with
      | none => none
      | some save =>
        let key := instanceSaveKey save.mapId group.isNonPermanentLFGGroup
        let bound := (group.bind save.difficulty key).bind InstanceGroupBind.save
        let s :=
          if bound = some address then some s
          else
            (match bound with
            | none => some s
            | some old => s.removeGroup old guid false maps).bind fun s =>
              s.addGroup address guid
        s.map fun s =>
          s.setGroup guid (group.setBind save.difficulty key ⟨some address, permanent⟩)

/-- A loop over binds of a group that erases those that pass a test, and takes the group from their
saves. -/
def dropBinds (guid difficulty : Nat) (test : InstanceGroupBind → InstanceSave → Bool)
    (maps : Maps) : List (Nat × InstanceGroupBind) → State → Option State
  | [], s => some s
  | (key, bind) :: rest, s =>
    match bind.save with
    | none => dropBinds guid difficulty test maps rest s
    | some address =>
      match s.groups.find? guid, s.saves.find? address with
      | some group, some save =>
        if test bind save then
          (s.removeGroup address guid false maps).bind fun s =>
            dropBinds guid difficulty test maps rest
              (s.setGroup guid (group.eraseBind difficulty key))
        else dropBinds guid difficulty test maps rest s
      | _, _ => none

end State

/-- `InstanceResetMethod`. -/
inductive InstanceResetMethod
  | all
  | changeDifficulty
  | groupDisband
  deriving DecidableEq

/-- The bind is dropped by `ResetInstances`; `mapIsRaid` knows the maps that have an entry, and
`emptied` the instances whose map was reset or has no players. -/
def resets (method : InstanceResetMethod) (isRaid : Bool) (difficulty : Nat)
    (mapIsRaid : Nat → Option Bool) (emptied : Nat → Bool) (save : InstanceSave) : Bool :=
  match mapIsRaid save.mapId with
  | none => false
  | some raid =>
    raid = isRaid && (save.canReset || method = .groupDisband) &&
      !(method = .all && (raid || difficulty = 1)) &&
      (emptied save.instanceId || method = .groupDisband || method = .changeDifficulty)

namespace State

/-- `Group::ResetInstances`. -/
def resetInstances (s : State) (guid : Nat) (method : InstanceResetMethod) (isRaid : Bool)
    (mapIsRaid : Nat → Option Bool) (emptied : Nat → Bool) (maps : Maps) : Option State :=
  match s.groups.find? guid with
  | none => some s
  | some group =>
    if group.isBattleGroup then some s
    else
      let difficulty := group.getDifficulty isRaid
      dropBinds guid difficulty
        (fun _ save => resets method isRaid difficulty mapIsRaid emptied save) maps
        (group.boundInstances difficulty).entries s

/-! ### Leader -/

/-- The permanent binds without a loaded map, of the difficulties of a list. -/
def dropPermanent (guid : Nat) (maps : Maps) : List Nat → State → Option State
  | [], s => some s
  | difficulty :: rest, s =>
    match s.groups.find? guid with
    | none => none
    | some group =>
      (dropBinds guid difficulty (fun bind save => bind.perm && !maps.loaded save.instanceId)
        maps (group.boundInstances difficulty).entries s).bind (dropPermanent guid maps rest)

/-- `Player::ConvertInstancesToGroup` for a new leader, whose binds are instance ids with the mark
of permanent ones. -/
def convertInstancesToGroup (player guid : Nat) (maps : Maps) :
    List (Nat × Bool) → State → Option State
  | [], s => some s
  | (instanceId, perm) :: rest, s =>
    match s.getInstanceSave instanceId with
    | none => convertInstancesToGroup player guid maps rest s
    | some (address, _) =>
      (s.bindToInstance guid address perm maps).bind fun s =>
        convertInstancesToGroup player guid maps rest
          (if perm then s else s.removePlayer address player maps)

/-- `Group::ChangeLeader` to an online member. -/
def changeLeader (s : State) (guid newLeader : Nat) (binds : List (Nat × Bool)) (maps : Maps) :
    Option State :=
  match s.groups.find? guid with
  | none => some s
  | some group =>
    if group.isBattleGroup then some s
    else
      (dropPermanent guid maps (List.range 4) s).bind fun s =>
        if group.isLFGGroup then some s
        else convertInstancesToGroup newLeader guid maps binds s

end State

/-! ### Difficulty -/

/-- `IsMapDifficultySwitchable`. -/
def isMapDifficultySwitchable (mapId : Nat) : Bool :=
  mapId ∈ [967, 720, 754, 671, 669, 649, 631, 724]

/-- `GetMapDifficultySwitchAchievement`; only heroic difficulties ask for one. -/
def getMapDifficultySwitchAchievement (mapId difficulty : Nat) : Nat :=
  if difficulty = 2 ∨ difficulty = 3 then
    match mapId with
    | 967 => 6106
    | 720 => 5802
    | 754 => 4851
    | 671 => 4850
    | 669 => 4842
    | 649 => if difficulty = 2 then 3917 else 3916
    | 631 => if difficulty = 2 then 4532 else 4608
    | 724 => if difficulty = 2 then 4817 else 4815
    | _ => 0
  else 0

/-- What decides about a switch: the difficulties of the maps, the hard modes of the instances,
and the achievements of the leader. -/
structure SwitchContext where
  mapDifficulty : Nat → Nat → Bool
  hardMode : Nat → Nat
  hasAchieved : Nat → Bool

/-- `GetDownscaledMapDifficultyData`: the difficulty with data, a `uint32`. -/
def getDownscaledMapDifficulty (ctx : SwitchContext) (mapId difficulty : Nat) : Option Nat :=
  if ctx.mapDifficulty mapId difficulty then some difficulty
  else
    let lower := if difficulty > 1 then difficulty - 2 else (difficulty + (2 ^ 32 - 1)) % 2 ^ 32
    if ctx.mapDifficulty mapId lower then some lower
    else
      let lowest := (lower + (2 ^ 32 - 1)) % 2 ^ 32
      if ctx.mapDifficulty mapId lowest then some lowest else none

/-- The difficulty to which `ProcessBoundSwitch` moves a bind, if it does. -/
def switchTarget (ctx : SwitchContext) (save : InstanceSave) (newDifficulty : Nat) : Option Nat :=
  match getDownscaledMapDifficulty ctx save.mapId newDifficulty with
  | none => none
  | some difficulty =>
    let hardMode := ctx.hardMode save.instanceId
    let achievementId := getMapDifficultySwitchAchievement save.mapId difficulty
    if !isMapDifficultySwitchable save.mapId then none
    else if hardMode = 3 ∧ (difficulty = 0 ∨ difficulty = 2) then none
    else if hardMode = 2 ∧ (difficulty = 1 ∨ difficulty = 3) then none
    else if achievementId ≠ 0 ∧ ctx.hasAchieved achievementId = false then none
    else some difficulty

namespace State

/-- `Group::ProcessBoundSwitch` after its guards. -/
def moveBind (s : State) (guid : Nat) (group : Group) (save : InstanceSave)
    (previousDifficulty newDifficulty : Nat) : State :=
  let s :=
    if save.difficulty ≠ newDifficulty then s.updateDifficulty save.instanceId newDifficulty else s
  let bind := (group.bind previousDifficulty save.key).getD ⟨none, false⟩
  s.setGroup guid
    ((group.setBind previousDifficulty save.key bind).setBind newDifficulty save.key bind)

/-- The loop of `SwitchBoundInstance`; it gathers `mapToErase`. -/
def switchBinds (ctx : SwitchContext) (guid previousDifficulty newDifficulty : Nat) :
    List (Nat × InstanceGroupBind) → State → Option (State × List Nat)
  | [], s => some (s, [])
  | (_, bind) :: rest, s =>
    match bind.save with
    | none => switchBinds ctx guid previousDifficulty newDifficulty rest s
    | some address =>
      match s.groups.find? guid, s.saves.find? address with
      | some group, some save =>
        match if save.isLfg then none else switchTarget ctx save newDifficulty with
        | none => switchBinds ctx guid previousDifficulty newDifficulty rest s
        | some difficulty =>
          (switchBinds ctx guid previousDifficulty newDifficulty rest
            (s.moveBind guid group save previousDifficulty difficulty)).map
            fun (s, mapToErase) => (s, save.mapId :: mapToErase)
      | _, _ => none

/-- The group after `SwitchBoundInstance`: the moved binds are erased at the old difficulty. -/
def finishSwitch (s : State) (guid previousDifficulty newDifficulty : Nat)
    (mapToErase : List Nat) : State :=
  match s.groups.find? guid with
  | none => s
  | some group =>
    s.setGroup guid
      { mapToErase.foldl (fun group mapId => group.eraseBind previousDifficulty mapId) group with
        raidDifficulty := newDifficulty }

/-- `Group::SwitchBoundInstance`. -/
def switchBoundInstance (s : State) (guid previousDifficulty newDifficulty : Nat)
    (leaderOnline : Bool) (ctx : SwitchContext) : Option State :=
  match s.groups.find? guid with
  | none => some s
  | some group =>
    (if leaderOnline then
      switchBinds ctx guid previousDifficulty newDifficulty
        (group.boundInstances previousDifficulty).entries s
    else some (s, [])).map fun (s, mapToErase) =>
      s.finishSwitch guid previousDifficulty newDifficulty mapToErase

/-! ### Groups -/

/-- A new group. -/
def createGroup (s : State) (guid : Nat) (isBattleGroup : Bool) : State :=
  if s.groups.contains guid then s
  else s.setGroup guid ⟨isBattleGroup, false, false, 0, 0, fun _ => .empty⟩

/-- `ConvertToLFG`, `ConvertToGroup`, and what the dungeon finder knows of the group's dungeon. -/
def convert (s : State) (guid : Nat) (isLFGGroup isPermanentLFGDungeon : Bool) : State :=
  match s.groups.find? guid with
  | none => s
  | some group => s.setGroup guid { group with isLFGGroup, isPermanentLFGDungeon }

/-- `SetDungeonDifficulty`. -/
def setDungeonDifficulty (s : State) (guid difficulty : Nat) : State :=
  match s.groups.find? guid with
  | none => s
  | some group => s.setGroup guid { group with dungeonDifficulty := difficulty }

end State

/-! ### Operations -/

/-- What changes groups, saves or binds. -/
inductive Operation
  | createGroup (guid : Nat) (isBattleGroup : Bool)
  | addInstanceSave (mapId instanceId difficulty : Nat) (canReset isLfg valid : Bool)
  | addPlayer (instanceId player : Nat)
  | removePlayer (instanceId player : Nat) (maps : Maps)
  | bindToInstance (guid instanceId : Nat) (permanent : Bool) (maps : Maps)
  | unbindInstance (guid mapId difficulty : Nat) (isLfgId : Bool) (maps : Maps)
  | switchBoundInstance (guid previousDifficulty newDifficulty : Nat)
      (different : previousDifficulty ≠ newDifficulty) (leaderOnline : Bool) (ctx : SwitchContext)
  | changeLeader (guid newLeader : Nat) (binds : List (Nat × Bool)) (maps : Maps)
  | resetInstances (guid : Nat) (method : InstanceResetMethod) (isRaid : Bool)
      (mapIsRaid : Nat → Option Bool) (emptied : Nat → Bool) (maps : Maps)
  | convert (guid : Nat) (isLFGGroup isPermanentLFGDungeon : Bool)
  | setDungeonDifficulty (guid difficulty : Nat)
  | resetInstance (instanceId : Nat) (maps : Maps)
  | resetAll (mapId difficulty : Nat) (maps : Maps)

/-- The state after an operation, if it has an outcome. -/
def State.step (s : State) : Operation → Option State
  | .createGroup guid isBattleGroup => some (s.createGroup guid isBattleGroup)
  | .addInstanceSave mapId instanceId difficulty canReset isLfg valid =>
    some (s.addInstanceSave mapId instanceId difficulty canReset isLfg valid)
  | .addPlayer instanceId player =>
    some ((s.getInstanceSave instanceId).elim s fun e => s.addPlayer e.1 player)
  | .removePlayer instanceId player maps =>
    some ((s.getInstanceSave instanceId).elim s fun e => s.removePlayer e.1 player maps)
  | .bindToInstance guid instanceId permanent maps =>
    (s.getInstanceSave instanceId).elim (some s) fun e =>
      s.bindToInstance guid e.1 permanent maps
  | .unbindInstance guid mapId difficulty isLfgId maps =>
    s.unbindInstance guid mapId difficulty isLfgId false maps
  | .switchBoundInstance guid previousDifficulty newDifficulty _ leaderOnline ctx =>
    s.switchBoundInstance guid previousDifficulty newDifficulty leaderOnline ctx
  | .changeLeader guid newLeader binds maps => s.changeLeader guid newLeader binds maps
  | .resetInstances guid method isRaid mapIsRaid emptied maps =>
    s.resetInstances guid method isRaid mapIsRaid emptied maps
  | .convert guid isLFGGroup isPermanentLFGDungeon =>
    some (s.convert guid isLFGGroup isPermanentLFGDungeon)
  | .setDungeonDifficulty guid difficulty => some (s.setDungeonDifficulty guid difficulty)
  | .resetInstance instanceId maps => s.resetInstance instanceId maps
  | .resetAll mapId difficulty maps => s.resetAll mapId difficulty maps

/-- What is left after an operation; nothing follows on a step without an outcome. -/
def stepFrom (s : Option State) (op : Operation) : Option State := s.bind fun s => s.step op

end Cataclysm.InstanceBinds
