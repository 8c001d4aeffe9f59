import Cataclysm.Lib.OrderedMap

/-!
# Conditions

A condition asks something of one of up to three targets. A list of conditions is split into else
groups, and a condition of a list may refer to a template, which is a list of its own. A list is
evaluated in one pass with the result of each group so far, and a second function over all kinds of
conditions computes the types of objects that a search for a list has to visit.

## Implementation notes

What the code asks an object, its map or its group is a field of the object. Life and distance are
rational numbers. A condition script is asked by its number and for the targets. The last condition
that failed, which is kept for a message, and log lines are left out. References recurse to a given
depth; a failed assertion and a read behind the targets are errors too.
-/

namespace Cataclysm.Conditions

/-! ### Objects -/

/-- `TypeID` of a world object. -/
inductive TypeId
  | unit
  | player
  | gameObject
  | dynamicObject
  | corpse
  | areaTrigger
  deriving DecidableEq

/-- The number of a `TypeID`. -/
def TypeId.value : TypeId → Nat
  | .unit => 3
  | .player => 4
  | .gameObject => 5
  | .dynamicObject => 6
  | .corpse => 7
  | .areaTrigger => 8

/-- `m_objectType`: `TYPEMASK_OBJECT` and what the constructors add. -/
def TypeId.objectType : TypeId → Nat
  | .unit => 0x0009
  | .player => 0x0019
  | .gameObject => 0x0021
  | .dynamicObject => 0x0041
  | .corpse => 0x0081
  | .areaTrigger => 0x0101

/-- The bit of `GridMapTypeMask`. -/
def TypeId.gridMapType : TypeId → Nat
  | .corpse => 0
  | .unit => 1
  | .dynamicObject => 2
  | .gameObject => 3
  | .player => 4
  | .areaTrigger => 5

def gridMapTypeMaskCorpse : Nat := 0x01
def gridMapTypeMaskCreature : Nat := 0x02
def gridMapTypeMaskGameObject : Nat := 0x08
def gridMapTypeMaskPlayer : Nat := 0x10
def gridMapTypeMaskAreaTrigger : Nat := 0x20
def gridMapTypeMaskAll : Nat := 0x3F

def typeMaskUnit : Nat := 0x0008
def typeMaskPlayer : Nat := 0x0010
def typeMaskGameObject : Nat := 0x0020
def typeMaskCorpse : Nat := 0x0080
def typeMaskAreaTrigger : Nat := 0x0100

/-- `QuestStatus`. -/
inductive QuestStatus
  | none
  | complete
  | incomplete
  | failed
  | rewarded
  deriving DecidableEq

/-- The data that an instance keeps. -/
structure InstanceScript where
  getData : Nat → Nat
  getData64 : Nat → Nat
  getBossState : Nat → Nat

/-- What conditions ask of a world object; the last two blocks are asked of units and of players. -/
structure WorldObject where
  typeId : TypeId
  guid : Nat
  entry : Nat
  zoneId : Nat
  areaId : Nat
  mapId : Nat
  phaseMask : Nat
  spawnMode : Nat
  instanceScript : Option InstanceScript
  hasCreatureNear : Nat → Nat → Bool
  hasGameObjectNear : Nat → Nat → Bool
  getDistance : Nat → ℚ
  hasAuraEffect : Nat → Nat → Bool
  classMask : Nat
  raceMask : Nat
  level : Nat
  isAlive : Bool
  health : Nat
  healthPct : ℚ
  unitState : Nat
  ownerGuid : Nat
  creatorGuid : Nat
  isInPartyWith : Nat → Bool
  isInRaidWith : Nat → Bool
  isOnVehicle : Nat → Bool
  getReactionTo : Nat → Nat
  hasItemCount : Nat → Nat → Bool → Bool
  hasItemOrGemWithIdEquipped : Nat → Bool
  getRank : Nat → Option Nat
  hasAchieved : Nat → Bool
  guildHasAchieved : Option (Nat → Bool)
  team : Nat
  gender : Nat
  hasSkill : Nat → Bool
  baseSkillValue : Nat → Nat
  questRewardStatus : Nat → Bool
  questStatus : Nat → QuestStatus
  hasSpell : Nat → Bool
  drunkenState : Nat
  hasTitle : Nat → Bool

namespace WorldObject

/-- `isType`, whose mask has 16 bits. -/
def isType (object : WorldObject) (mask : Nat) : Bool :=
  (mask % 2 ^ 16) &&& object.typeId.objectType != 0

def toUnit (object : WorldObject) : Option WorldObject :=
  if object.isType typeMaskUnit then some object else none

def toPlayer (object : WorldObject) : Option WorldObject :=
  if object.typeId = .player then some object else none

end WorldObject

/-- What conditions ask of the rest of the world. -/
structure World where
  isActiveEvent : Nat → Bool
  worldState : Nat → Nat
  onConditionCheck : Nat → Option WorldObject → Option WorldObject → Option WorldObject → Bool

/-- The targets of a check and the condition that failed. -/
structure ConditionSourceInfo where
  target0 : Option WorldObject
  target1 : Option WorldObject := none
  target2 : Option WorldObject := none

/-! ### Conditions -/

/-- What a condition asks for. -/
inductive ConditionTypes
  | none
  | aura
  | item
  | itemEquipped
  | zoneId
  | reputationRank
  | team
  | skill
  | questRewarded
  | questTaken
  | drunkenState
  | worldState
  | activeEvent
  | instanceInfo
  | questNone
  | charClass
  | charRace
  | achievement
  | title
  | spawnMask
  | gender
  | unitState
  | mapId
  | areaId
  | unused24
  | spell
  | phaseMask
  | level
  | questComplete
  | nearCreature
  | nearGameObject
  | objectEntry
  | typeMask
  | relationTo
  | reactionTo
  | distanceTo
  | alive
  | hpVal
  | hpPct
  deriving DecidableEq

/-- One row of the table, as it is loaded. -/
structure Condition where
  sourceType : Nat
  sourceGroup : Nat
  sourceEntry : Int
  sourceId : Nat
  elseGroup : Nat
  conditionType : ConditionTypes
  conditionValue1 : Nat
  conditionValue2 : Nat
  conditionValue3 : Nat
  errorType : Nat
  errorTextId : Nat
  referenceId : Nat
  scriptId : Nat
  conditionTarget : Nat
  negativeCondition : Bool
  deriving DecidableEq

/-- Ways in which the check of a list fails. -/
inductive ConditionError
  | assertion
  | outOfRange
  | outOfFuel
  deriving DecidableEq

def ConditionSourceInfo.conditionTarget (sourceInfo : ConditionSourceInfo) :
    Nat → Except ConditionError (Option WorldObject)
  | 0 => .ok sourceInfo.target0
  | 1 => .ok sourceInfo.target1
  | 2 => .ok sourceInfo.target2
  | _ => .error .outOfRange

/-- The comparison that a number of the row stands for. -/
def compareValues {T : Type} [LinearOrder T] (comparisionType : Nat) (val1 val2 : T) :
    Except ConditionError Bool :=
  match comparisionType with
  | 0 => .ok (val1 = val2)
  | 1 => .ok (val2 < val1)
  | 2 => .ok (val1 < val2)
  | 3 => .ok (val2 ≤ val1)
  | 4 => .ok (val1 ≤ val2)
  | _ => .error .assertion

namespace Condition

/-- A condition has a type or is a reference. -/
def isLoaded (cond : Condition) : Bool := cond.conditionType ≠ .none || cond.referenceId ≠ 0

/-- Asks a unit; what is no unit does not meet it. -/
def askUnit (object : WorldObject) (question : WorldObject → Bool) :
    Except ConditionError Bool :=
  .ok (object.toUnit.any question)

/-- Asks a player; what is no player does not meet it. -/
def askPlayer (object : WorldObject) (question : WorldObject → Bool) :
    Except ConditionError Bool :=
  .ok (object.toPlayer.any question)

/-- How two units are related. -/
def relationMeets (relationType : Nat) (unit toUnit : WorldObject) : Bool :=
  match relationType with
  | 0 => unit.guid == toUnit.guid
  | 1 => unit.isInPartyWith toUnit.guid
  | 2 => unit.isInRaidWith toUnit.guid
  | 3 => unit.ownerGuid == toUnit.guid
  | 4 => unit.isOnVehicle toUnit.guid
  | 5 => unit.creatorGuid == toUnit.guid
  | _ => false

def instanceMeets (instanceInfo : Nat) (script : InstanceScript) (entry data : Nat) : Bool :=
  match instanceInfo with
  | 0 => script.getData entry == data
  | 1 => script.getData64 entry == data
  | 2 => script.getBossState entry == data
  | _ => false

/-- The switch of `Meets`. -/
def typeMeets (world : World) (cond : Condition) (sourceInfo : ConditionSourceInfo)
    (object : WorldObject) : Except ConditionError Bool :=
  let value1 := cond.conditionValue1
  let value2 := cond.conditionValue2
  let value3 := cond.conditionValue3
  match cond.conditionType with
  | .none => .ok true
  | .aura => askUnit object fun unit => unit.hasAuraEffect value1 value2
  | .item =>
    match object.toPlayer with
    | some player =>
      if value2 = 0 then .error .assertion
      else .ok (player.hasItemCount value1 value2 (value3 != 0))
    | none => .ok false
  | .itemEquipped => askPlayer object fun player => player.hasItemOrGemWithIdEquipped value1
  | .zoneId => .ok (object.zoneId == value1)
  | .reputationRank =>
    askPlayer object fun player =>
      (player.getRank value1).any fun rank => value2 &&& (1 <<< rank) != 0
  | .achievement =>
    askPlayer object fun player =>
      if value2 ≠ 1 then player.hasAchieved value1
      else player.guildHasAchieved.any fun hasAchieved => hasAchieved value1
  | .team => askPlayer object fun player => player.team == value1
  | .charClass => askUnit object fun unit => unit.classMask &&& value1 != 0
  | .charRace => askUnit object fun unit => unit.raceMask &&& value1 != 0
  | .gender => askPlayer object fun player => player.gender == value1
  | .skill =>
    askPlayer object fun player =>
      player.hasSkill value1 && decide (value2 ≤ player.baseSkillValue value1)
  | .questRewarded => askPlayer object fun player => player.questRewardStatus value1
  | .questTaken => askPlayer object fun player => player.questStatus value1 == .incomplete
  | .questComplete =>
    askPlayer object fun player =>
      player.questStatus value1 == .complete && !player.questRewardStatus value1
  | .questNone => askPlayer object fun player => player.questStatus value1 == .none
  | .activeEvent => .ok (world.isActiveEvent value1)
  | .instanceInfo =>
    .ok (object.instanceScript.any fun script => instanceMeets value3 script value1 value2)
  | .mapId => .ok (object.mapId == value1)
  | .areaId => .ok (object.areaId == value1)
  | .spell => askPlayer object fun player => player.hasSpell value1
  | .level =>
    match object.toUnit with
    | some unit => compareValues value2 unit.level value1
    | none => .ok false
  | .drunkenState => askPlayer object fun player => decide (value1 ≤ player.drunkenState)
  | .nearCreature => .ok (object.hasCreatureNear value1 value2)
  | .nearGameObject => .ok (object.hasGameObjectNear value1 value2)
  | .objectEntry =>
    .ok (object.typeId.value == value1 && (value2 == 0 || object.entry == value2))
  | .typeMask => .ok (object.isType value1)
  | .relationTo => do
    let toObject ← sourceInfo.conditionTarget value1
    .ok (toObject.any fun toObject =>
      toObject.toUnit.any fun toUnit =>
        object.toUnit.any fun unit => relationMeets value2 unit toUnit)
  | .reactionTo => do
    let toObject ← sourceInfo.conditionTarget value1
    .ok (toObject.any fun toObject =>
      toObject.toUnit.any fun toUnit =>
        object.toUnit.any fun unit => (1 <<< unit.getReactionTo toUnit.guid) &&& value2 != 0)
  | .distanceTo => do
    let toObject ← sourceInfo.conditionTarget value1
    match toObject with
    | some toObject => compareValues value3 (object.getDistance toObject.guid) (value2 : ℚ)
    | none => .ok false
  | .alive => askUnit object fun unit => unit.isAlive
  | .hpVal =>
    match object.toUnit with
    | some unit => compareValues value2 unit.health value1
    | none => .ok false
  | .hpPct =>
    match object.toUnit with
    | some unit => compareValues value2 unit.healthPct (value1 : ℚ)
    | none => .ok false
  | .worldState => .ok (value2 == world.worldState value1)
  | .phaseMask => .ok (object.phaseMask &&& value1 != 0)
  | .title => askPlayer object fun player => player.hasTitle value1
  | .spawnMask => .ok ((1 <<< object.spawnMode) &&& value1 != 0)
  | .unitState => askUnit object fun unit => unit.unitState &&& value1 != 0
  | .unused24 => .ok false

/-- `Condition::Meets` for one condition. -/
def meets (world : World) (cond : Condition) (sourceInfo : ConditionSourceInfo) :
    Except ConditionError Bool :=
  if 3 ≤ cond.conditionTarget then .error .assertion
  else do
    let target ← sourceInfo.conditionTarget cond.conditionTarget
    match target with
    | none => .ok false
    | some object => do
      let condMeets ← cond.typeMeets world sourceInfo object
      .ok ((if cond.negativeCondition then !condMeets else condMeets) &&
        world.onConditionCheck cond.scriptId sourceInfo.target0 sourceInfo.target1
          sourceInfo.target2)

/-- The types of objects that a `CONDITION_TYPE_MASK` lets through. -/
def typeMaskSearched (mask : Nat) : Nat :=
  (if mask &&& typeMaskUnit ≠ 0 then gridMapTypeMaskCreature ||| gridMapTypeMaskPlayer else 0) |||
    (if mask &&& typeMaskPlayer ≠ 0 then gridMapTypeMaskPlayer else 0) |||
    (if mask &&& typeMaskGameObject ≠ 0 then gridMapTypeMaskGameObject else 0) |||
    (if mask &&& typeMaskCorpse ≠ 0 then gridMapTypeMaskCorpse else 0) |||
    (if mask &&& typeMaskAreaTrigger ≠ 0 then gridMapTypeMaskAreaTrigger else 0)

def getSearcherTypeMaskForCondition (cond : Condition) : Except ConditionError Nat :=
  if cond.negativeCondition then .ok gridMapTypeMaskAll
  else match cond.conditionType with
    | .none | .zoneId | .activeEvent | .instanceInfo | .mapId | .areaId | .nearCreature
    | .nearGameObject | .distanceTo | .worldState | .phaseMask | .spawnMask =>
      .ok gridMapTypeMaskAll
    | .aura | .charClass | .charRace | .level | .relationTo | .reactionTo | .alive | .hpVal
    | .hpPct | .unitState => .ok (gridMapTypeMaskCreature ||| gridMapTypeMaskPlayer)
    | .item | .itemEquipped | .reputationRank | .achievement | .team | .skill | .questRewarded
    | .questTaken | .questComplete | .questNone | .spell | .drunkenState | .title | .gender =>
      .ok gridMapTypeMaskPlayer
    | .objectEntry =>
      let searched := match cond.conditionValue1 with
        | 3 => gridMapTypeMaskCreature
        | 4 => gridMapTypeMaskPlayer
        | 5 => gridMapTypeMaskGameObject
        | 7 => gridMapTypeMaskCorpse
        | 8 => gridMapTypeMaskAreaTrigger
        | _ => 0
      -- there is no break, so the type id is read as a mask too
      .ok (searched ||| typeMaskSearched cond.conditionValue1)
    | .typeMask => .ok (typeMaskSearched cond.conditionValue1)
    | .unused24 => .error .assertion

def getMaxAvailableConditionTargets (cond : Condition) : Nat :=
  if cond.sourceType ∈ [17, 13, 16, 21, 18, 14, 15, 22, 23, 24] then 2 else 1

end Condition

/-! ### Lists of conditions -/

/-- `ConditionReferenceStore`. -/
abbrev ReferenceStore := OrderedMap Nat (List Condition)

/-- The body of the loop of `GetSearcherTypeMaskForConditionList`, with what gives the mask of a
list. -/
def searchElseGroup (store : ReferenceStore)
    (searchList : List Condition → Except ConditionError Nat) (groups : OrderedMap Nat Nat)
    (cond : Condition) : Except ConditionError (OrderedMap Nat Nat) :=
  if cond.isLoaded = false then .error .assertion
  else
    -- a group that is met first is filled with the widest mask
    let filled := (groups.find? cond.elseGroup).getD gridMapTypeMaskAll
    if filled = 0 then .ok groups
    else if cond.referenceId ≠ 0 then
      match store.find? cond.referenceId with
      | some list => do
        let mask ← searchList list
        .ok (groups.insert cond.elseGroup (filled &&& mask))
      | none => .error .assertion
    else do
      let mask ← cond.getSearcherTypeMaskForCondition
      .ok (groups.insert cond.elseGroup (filled &&& mask))

def getSearcherTypeMaskForConditionList (store : ReferenceStore) :
    Nat → List Condition → Except ConditionError Nat
  | 0, _ => .error .outOfFuel
  | depth + 1, conditions =>
    if conditions = [] then .ok gridMapTypeMaskAll
    else do
      let elseGroupStore ← conditions.foldlM
        (searchElseGroup store (getSearcherTypeMaskForConditionList store depth)) OrderedMap.empty
      .ok (elseGroupStore.entries.foldl (fun mask e => mask ||| e.2) 0)

/-- The body of the loop of `IsObjectMeetToConditionList`, with what evaluates a list. -/
def meetElseGroup (world : World) (store : ReferenceStore) (sourceInfo : ConditionSourceInfo)
    (meetList : List Condition → Except ConditionError Bool) (groups : OrderedMap Nat Bool)
    (cond : Condition) : Except ConditionError (OrderedMap Nat Bool) :=
  if cond.isLoaded = false then .ok groups
  else if groups.find? cond.elseGroup = some false then .ok groups
  else
    -- a group that is met first is true
    let groups := groups.insert cond.elseGroup true
    if cond.referenceId ≠ 0 then
      match store.find? cond.referenceId with
      | some list => do
        let met ← meetList list
        .ok (if met then groups else groups.insert cond.elseGroup false)
      | none => .ok groups
    else do
      let met ← cond.meets world sourceInfo
      .ok (if met then groups else groups.insert cond.elseGroup false)

/-- Some else group of the list is met. -/
def isObjectMeetToConditionList (world : World) (store : ReferenceStore)
    (sourceInfo : ConditionSourceInfo) : Nat → List Condition → Except ConditionError Bool
  | 0, _ => .error .outOfFuel
  | depth + 1, conditions => do
    let elseGroupStore ← conditions.foldlM
      (meetElseGroup world store sourceInfo
        (isObjectMeetToConditionList world store sourceInfo depth)) OrderedMap.empty
    .ok (elseGroupStore.entries.any fun e => e.2)

/-- `IsObjectMeetToConditions` with source information. -/
def isObjectMeetToConditions (world : World) (store : ReferenceStore)
    (sourceInfo : ConditionSourceInfo) (depth : Nat) (conditions : List Condition) :
    Except ConditionError Bool :=
  if conditions = [] then .ok true
  else isObjectMeetToConditionList world store sourceInfo depth conditions

end Cataclysm.Conditions
