import Cataclysm.Lib.OrderedMap
import Cataclysm.Players.Money

/-!
# Pools of spawns

A pool has a limit and groups of creatures, gameobjects, quests and sub-pools. The active objects of
each type are sets, and how many objects of a pool are active is counted apart. A pool spawns by
rolling objects until its limit is reached; an object that is ready to respawn is still counted and
gives way when another one is rolled. A sub-pool that is rolled spawns its own groups, and one that
gives way despawns them.

## Implementation notes

What comes from outside is a stream of draws: a random number, and the rows that the database has of
a quest pool. Chances are floating point, so a draw says for each place whether the number falls
below zero there, and every answer is admitted. Grids, maps and quest relations are left out.
-/

namespace Cataclysm.Pools

/-- The types that `PoolGroup` is instantiated with. -/
inductive PoolKind
  | creature
  | gameobject
  | pool
  | quest
  deriving DecidableEq

/-- The members of a pool of one kind. -/
structure PoolGroup where
  explicitlyChanced : List Nat
  equalChanced : List Nat
  deriving DecidableEq

namespace PoolGroup

def isEmpty (group : PoolGroup) : Bool :=
  group.explicitlyChanced.isEmpty && group.equalChanced.isEmpty

/-- The objects in the order in which they despawn. -/
def guids (group : PoolGroup) : List Nat := group.equalChanced ++ group.explicitlyChanced

end PoolGroup

/-- What `LoadFromDB` reads, with its search maps. It removes circular relations, so a sub-pool has a
smaller rank than its mother. -/
structure PoolTables where
  maxLimit : Nat → Nat
  group : PoolKind → Nat → PoolGroup
  searchMap : PoolKind → Nat → Option Nat
  rank : Nat → Nat
  maxLimit_lt : ∀ poolId, maxLimit poolId < 2 ^ 32
  searchMap_mem : ∀ {kind guid poolId}, searchMap kind guid = some poolId →
    guid ∈ (group kind poolId).guids
  searchMap_isSome : ∀ {kind guid poolId}, guid ∈ (group kind poolId).guids →
    (searchMap kind guid).isSome = true
  rank_lt : ∀ {poolId child}, child ∈ (group .pool poolId).guids → rank child < rank poolId

/-- A random number, with its comparisons, and the saved quests of a pool. -/
structure Draw where
  below : Nat → Bool
  index : Nat
  saved : List Nat

/-- The active data, and how many draws were made. -/
structure ActivePoolData where
  spawnedCreatures : Finset Nat
  spawnedGameobjects : Finset Nat
  activeQuests : Finset Nat
  spawnedPools : OrderedMap Nat Nat
  drawn : Nat

namespace ActivePoolData

def empty : ActivePoolData := ⟨∅, ∅, ∅, OrderedMap.empty, 0⟩

/-- How many members of the pool are active. -/
def getActiveObjectCount (s : ActivePoolData) (poolId : Nat) : Nat :=
  (s.spawnedPools.find? poolId).getD 0

/-- The object is active. -/
def isActiveObject (s : ActivePoolData) : PoolKind → Nat → Bool
  | .creature, guid => guid ∈ s.spawnedCreatures
  | .gameobject, guid => guid ∈ s.spawnedGameobjects
  | .pool, guid => (s.spawnedPools.find? guid).isSome
  | .quest, guid => guid ∈ s.activeQuests

def markActive (s : ActivePoolData) : PoolKind → Nat → ActivePoolData
  | .creature, guid => { s with spawnedCreatures := insert guid s.spawnedCreatures }
  | .gameobject, guid => { s with spawnedGameobjects := insert guid s.spawnedGameobjects }
  | .pool, guid => { s with spawnedPools := s.spawnedPools.insert guid 0 }
  | .quest, guid => { s with activeQuests := insert guid s.activeQuests }

def unmarkActive (s : ActivePoolData) : PoolKind → Nat → ActivePoolData
  | .creature, guid => { s with spawnedCreatures := s.spawnedCreatures.erase guid }
  | .gameobject, guid => { s with spawnedGameobjects := s.spawnedGameobjects.erase guid }
  | .pool, guid => { s with spawnedPools := s.spawnedPools.erase guid }
  | .quest, guid => { s with activeQuests := s.activeQuests.erase guid }

def setCount (s : ActivePoolData) (poolId count : Nat) : ActivePoolData :=
  { s with spawnedPools := s.spawnedPools.insert poolId count }

/-- An object becomes active and is counted. -/
def activateObject (s : ActivePoolData) (kind : PoolKind) (guid poolId : Nat) : ActivePoolData :=
  let s := s.markActive kind guid
  s.setCount poolId (uint32 (s.getActiveObjectCount poolId + 1 : Nat))

/-- An object is active no longer. -/
def removeObject (s : ActivePoolData) (kind : PoolKind) (guid poolId : Nat) : ActivePoolData :=
  let s := s.unmarkActive kind guid
  let val := s.getActiveObjectCount poolId
  s.setCount poolId (if 0 < val then val - 1 else val)

/-- The state after a draw was made. -/
def advance (s : ActivePoolData) : ActivePoolData := { s with drawn := s.drawn + 1 }

end ActivePoolData

open ActivePoolData

/-- The triggering object is marked as spawned and can be rolled. -/
def PoolGroup.rollOne (group : PoolGroup) (kind : PoolKind) (s : ActivePoolData) (draw : Draw)
    (triggerFrom : Nat) : Option Nat :=
  let rollable := fun guid => guid == triggerFrom || !s.isActiveObject kind guid
  match group.explicitlyChanced.zipIdx.find? fun entry => draw.below entry.2 && rollable entry.1 with
  | some entry => some entry.1
  | none => group.equalChanced[draw.index % group.equalChanced.length]?.filter rollable

/-- `DespawnObject`. The zero guid stands for all objects. -/
def PoolGroup.despawnObject (group : PoolGroup) (kind : PoolKind) (poolId : Nat)
    (despawn1Object : Nat → ActivePoolData → ActivePoolData) (guid : Nat) (s : ActivePoolData) :
    ActivePoolData :=
  group.guids.foldl (fun s object =>
    if s.isActiveObject kind object && (guid == 0 || object == guid) then
      (despawn1Object object s).removeObject kind object poolId
    else s) s

variable (tables : PoolTables) (draws : Nat → Draw)

/-- What `Despawn1Object` and `Spawn1Object` do to the active data: only a sub-pool does more than to
be marked. -/
def onSubPool (action : Nat → ActivePoolData → ActivePoolData) :
    PoolKind → Nat → ActivePoolData → ActivePoolData
  | .pool, guid, s => action guid s
  | _, _, s => s

/-- The members of one kind despawn. -/
def despawnGroup (despawnSub : Nat → ActivePoolData → ActivePoolData) (kind : PoolKind)
    (poolId : Nat) (s : ActivePoolData) : ActivePoolData :=
  if (tables.group kind poolId).isEmpty then s
  else (tables.group kind poolId).despawnObject kind poolId (onSubPool despawnSub kind) 0 s

/-- All members of a pool despawn. -/
def despawnPool (poolId : Nat) (s : ActivePoolData) : ActivePoolData :=
  let despawnSub := fun child s =>
    if _h : child ∈ (tables.group .pool poolId).guids then despawnPool child s else s
  let s := despawnGroup tables despawnSub .creature poolId s
  let s := despawnGroup tables despawnSub .gameobject poolId s
  let s := despawnGroup tables despawnSub .pool poolId s
  despawnGroup tables despawnSub .quest poolId s
termination_by tables.rank poolId
decreasing_by exact tables.rank_lt _h

/-! ### Spawning -/

/-- The number of rolls. -/
def rolls (limit active triggerFrom : Nat) : Nat :=
  let count := int32 ((limit : Int) - active)
  (if triggerFrom ≠ 0 then int32 (count + 1) else count).toNat

/-- The loop of `SpawnObject`. -/
def spawnLoop (spawnSub : Nat → ActivePoolData → ActivePoolData) (kind : PoolKind) (poolId : Nat) :
    Nat → Nat → Nat → ActivePoolData → ActivePoolData
  | 0, _, _, s => s
  | count + 1, triggerFrom, lastDespawned, s =>
    let rolled := (tables.group kind poolId).rollOne kind s (draws s.drawn) triggerFrom
    let s := s.advance
    match rolled with
    | none => spawnLoop spawnSub kind poolId count triggerFrom lastDespawned s
    | some object =>
      if object = lastDespawned then
        spawnLoop spawnSub kind poolId count triggerFrom lastDespawned s
      else if object = triggerFrom then spawnLoop spawnSub kind poolId count 0 lastDespawned s
      else
        let s := onSubPool spawnSub kind object (s.activateObject kind object poolId)
        if triggerFrom ≠ 0 then
          spawnLoop spawnSub kind poolId count 0 triggerFrom
            ((tables.group kind poolId).despawnObject kind poolId
              (onSubPool (despawnPool tables) kind) triggerFrom s)
        else spawnLoop spawnSub kind poolId count triggerFrom lastDespawned s

/-- The quests that the database has of the pool. -/
def loadSaved (poolId : Nat) : Nat → List Nat → ActivePoolData → ActivePoolData
  | _, [], s => s
  | limit, questId :: rest, s =>
    let s := s.activateObject .quest questId poolId
    let limit := uint32 ((limit : Int) - 1)
    if limit = 0 then s else loadSaved poolId limit rest s

/-- `SelectRandomContainerElement`. -/
def selectRandom (draw : Draw) (objects : Finset Nat) : Option Nat :=
  (objects.sort (· ≤ ·))[draw.index % objects.card]?

/-- Quests that were active are chosen again while there are too few. -/
def recycleQuests (limit : Nat) :
    Nat → Finset Nat → Finset Nat → ActivePoolData → Finset Nat × ActivePoolData
  | 0, _, newQuests, s => (newQuests, s)
  | size + 1, currentQuests, newQuests, s =>
    match selectRandom (draws s.drawn) currentQuests with
    | none => (newQuests, s)
    | some questId =>
      let newQuests := insert questId newQuests
      if newQuests.card < limit then
        recycleQuests limit size (currentQuests.erase questId) newQuests s.advance
      else (newQuests, s.advance)

/-- Random quests are activated up to the limit. -/
def activateQuests (poolId : Nat) : Nat → Nat → Finset Nat → ActivePoolData → ActivePoolData
  | 0, _, _, s => s
  | size + 1, limit, newQuests, s =>
    match selectRandom (draws s.drawn) newQuests with
    | none => s
    | some questId =>
      let s := s.advance.activateObject .quest questId poolId
      let limit := uint32 ((limit : Int) - 1)
      if limit = 0 then s
      else activateQuests poolId size limit (newQuests.erase questId) s

/-- The pool is cleared, and these quests can be activated. -/
def renewQuests (poolId : Nat) (s : ActivePoolData) : Finset Nat × ActivePoolData :=
  let group := tables.group .quest poolId
  let limit := tables.maxLimit poolId
  let currentQuests := s.activeQuests
  let newQuests :=
    (group.equalChanced.filter fun questId => !s.isActiveObject .quest questId).toFinset
  let s := group.despawnObject .quest poolId (fun _ s => s) 0 s
  if newQuests.card < limit ∧ currentQuests ≠ ∅ then
    recycleQuests draws limit currentQuests.card currentQuests newQuests s
  else (newQuests, s)

/-- `SpawnObject` of quests. The saved quests are asked for when there is no trigger. -/
def spawnQuests (poolId triggerFrom : Nat) (s : ActivePoolData) : ActivePoolData :=
  let limit := tables.maxLimit poolId
  let saved := (draws s.drawn).saved
  let s := s.advance
  if triggerFrom = 0 ∧ saved ≠ [] then loadSaved poolId limit saved s
  else
    let (newQuests, s) := renewQuests tables draws poolId s
    activateQuests draws poolId newQuests.card limit newQuests s

/-- `SpawnPool<T>`. -/
def spawnGroup (spawnSub : Nat → ActivePoolData → ActivePoolData) (kind : PoolKind)
    (poolId triggerFrom : Nat) (s : ActivePoolData) : ActivePoolData :=
  if (tables.group kind poolId).isEmpty then s
  else match kind with
    | .quest => spawnQuests tables draws poolId triggerFrom s
    | kind => spawnLoop tables draws spawnSub kind poolId
        (rolls (tables.maxLimit poolId) (s.getActiveObjectCount poolId) triggerFrom) triggerFrom 0 s

/-- Members of all kinds spawn up to the limit. -/
def spawnPool (poolId : Nat) (s : ActivePoolData) : ActivePoolData :=
  let spawnSub := fun child s =>
    if _h : child ∈ (tables.group .pool poolId).guids then spawnPool child s else s
  let s := spawnGroup tables draws spawnSub .pool poolId 0 s
  let s := spawnGroup tables draws spawnSub .gameobject poolId 0 s
  let s := spawnGroup tables draws spawnSub .creature poolId 0 s
  spawnGroup tables draws spawnSub .quest poolId 0 s
termination_by tables.rank poolId
decreasing_by exact tables.rank_lt _h

/-- The zero pool stands for no pool. -/
def PoolTables.isPartOfAPool (kind : PoolKind) (guid : Nat) : Nat :=
  (tables.searchMap kind guid).getD 0

/-- An object is gone, and another one may spawn. -/
def updatePool (kind : PoolKind) (poolId guid : Nat) (s : ActivePoolData) : ActivePoolData :=
  if tables.isPartOfAPool .pool poolId ≠ 0 then
    spawnGroup tables draws (spawnPool tables draws) .pool (tables.isPartOfAPool .pool poolId)
      poolId s
  else spawnGroup tables draws (spawnPool tables draws) kind poolId guid s

/-! ### Calls -/

/-- The calls of the manager. -/
inductive PoolCall
  | spawnPool (poolId : Nat)
  | despawnPool (poolId : Nat)
  | updatePool (kind : PoolKind) (guid : Nat)
  deriving DecidableEq

/-- An object that is ready to respawn updates the pool that it is part of. -/
def step (s : ActivePoolData) : PoolCall → ActivePoolData
  | .spawnPool poolId => spawnPool tables draws poolId s
  | .despawnPool poolId => despawnPool tables poolId s
  | .updatePool kind guid =>
    if tables.isPartOfAPool kind guid ≠ 0 then
      updatePool tables draws kind (tables.isPartOfAPool kind guid) guid s
    else s

/-- The pool is no sub-pool. -/
def PoolTables.TopLevel (poolId : Nat) : Prop := tables.searchMap .pool poolId = none

/-- Pools at the top are spawned and despawned, and active creatures and gameobjects update. -/
def Allowed (s : ActivePoolData) : PoolCall → Prop
  | .spawnPool poolId => tables.TopLevel poolId
  | .despawnPool poolId => tables.TopLevel poolId
  | .updatePool kind guid =>
    (kind = .creature ∨ kind = .gameobject) ∧ s.isActiveObject kind guid = true

end Cataclysm.Pools
