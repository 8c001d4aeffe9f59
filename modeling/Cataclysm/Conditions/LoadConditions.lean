import Cataclysm.Conditions.ConditionMgr

/-!
# Loading the conditions

Each row of the table is checked on its own. A row with a negative source is a condition of a
reference template, and one with a negative type refers to a template; the only such row that is
refused is one that refers to its own source. A row without a reference is checked by its type.

## Implementation notes

What the checks ask other stores is a field of the game data. The lists of the conditions that are
no templates are taken together as one list, and whether a list of loot, gossip or spell targets
takes a condition may depend on those stored before.
-/

namespace Cataclysm.Conditions

/-- What the checks ask of the other stores. -/
structure GameData where
  hasSpellInfo : Nat → Bool
  hasItemTemplate : Nat → Bool
  areaZone : Nat → Option Nat
  hasFaction : Nat → Bool
  hasSkillLine : Nat → Bool
  maxSkillValue : Nat
  hasQuestTemplate : Nat → Bool
  isValidEvent : Nat → Bool
  hasAchievement : Nat → Bool
  hasMap : Nat → Bool
  hasCreatureTemplate : Nat → Bool
  hasGameObjectTemplate : Nat → Bool
  worldState : Nat → Nat
  hasTitle : Nat → Bool
  isSourceTypeValid : Condition → Bool
  takesGrouped : List Condition → Condition → Bool

/-- `ConditionTypes(i)`, when it is one. -/
def conditionTypeOf (value : Nat) : Option ConditionTypes :=
  [.none, .aura, .item, .itemEquipped, .zoneId, .reputationRank, .team, .skill, .questRewarded,
    .questTaken, .drunkenState, .worldState, .activeEvent, .instanceInfo, .questNone, .charClass,
    .charRace, .achievement, .title, .spawnMask, .gender, .unitState, .mapId, .areaId, .unused24,
    .spell, .phaseMask, .level, .questComplete, .nearCreature, .nearGameObject, .objectEntry,
    .typeMask, .relationTo, .reactionTo, .distanceTo, .alive, .hpVal, .hpPct][value]?

def alliance : Nat := 469
def horde : Nat := 67
def classMaskAllPlayable : Nat := 0x5FF
def raceMaskAllPlayable : Nat := 0x2007FF
def drunkenSmashed : Nat := 3
def spawnMaskRaidAll : Nat := 0xF
def unitStateAllState : Nat := 0xFFFFFFFF
def compTypeMax : Nat := 5
def relationMax : Nat := 6

/-- The types that a `CONDITION_TYPE_MASK` may ask for. -/
def askedTypeMask : Nat := typeMaskUnit ||| typeMaskPlayer ||| typeMaskGameObject ||| typeMaskCorpse

/-- The second target of a condition is another one of those of its source type. -/
def isOtherTarget (cond : Condition) : Bool :=
  decide (cond.conditionValue1 < cond.getMaxAvailableConditionTargets) &&
    cond.conditionValue1 != cond.conditionTarget

/-- The switch of `isConditionTypeValid`. -/
def isTypeValid (data : GameData) (cond : Condition) : Bool :=
  let value1 := cond.conditionValue1
  let value2 := cond.conditionValue2
  let value3 := cond.conditionValue3
  match cond.conditionType with
  | .none | .unused24 => false
  | .aura => data.hasSpellInfo value1 && decide (value2 ≤ 2)
  | .item => data.hasItemTemplate value1 && value2 != 0
  | .itemEquipped => data.hasItemTemplate value1
  | .zoneId => data.areaZone value1 == some 0
  | .reputationRank => data.hasFaction value1
  | .team => value1 == alliance || value1 == horde
  | .skill =>
    data.hasSkillLine value1 && decide (1 ≤ value2) && decide (value2 ≤ data.maxSkillValue)
  | .questRewarded | .questTaken | .questNone | .questComplete => data.hasQuestTemplate value1
  | .activeEvent => data.isValidEvent value1
  | .achievement => data.hasAchievement value1
  | .charClass => value1 &&& classMaskAllPlayable != 0
  | .charRace => value1 &&& raceMaskAllPlayable != 0
  | .gender => decide (value1 % 256 ≤ 1)
  | .mapId => data.hasMap value1
  | .spell => data.hasSpellInfo value1
  | .level | .hpVal => decide (value2 < compTypeMax)
  | .drunkenState => decide (value1 ≤ drunkenSmashed) && value2 == 0
  | .nearCreature => data.hasCreatureTemplate value1
  | .nearGameObject => data.hasGameObjectTemplate value1
  | .objectEntry =>
    match value1 with
    | 3 => value2 == 0 || data.hasCreatureTemplate value2
    | 5 => value2 == 0 || data.hasGameObjectTemplate value2
    | 4 | 7 => true
    | _ => false
  | .typeMask => value1 != 0 && value1 &&& askedTypeMask == value1
  | .relationTo => isOtherTarget cond && decide (value2 < relationMax)
  | .reactionTo => isOtherTarget cond && value2 != 0
  | .distanceTo => isOtherTarget cond && decide (value3 < compTypeMax)
  | .hpPct => decide (value1 ≤ 100) && decide (value2 < compTypeMax)
  | .worldState => data.worldState value1 != 0
  | .title => data.hasTitle value1
  | .spawnMask => decide (value1 ≤ spawnMaskRaidAll)
  | .unitState => decide (value1 ≤ unitStateAllState)
  | .instanceInfo | .areaId | .phaseMask | .alive => true

/-- The checks of the values of a row. -/
def isConditionTypeValid (data : GameData) (cond : Condition) : Bool :=
  decide (cond.conditionTarget < cond.getMaxAvailableConditionTargets) && isTypeValid data cond

def canHaveSourceGroupSet (sourceType : Nat) : Bool :=
  sourceType ∈ [1, 2, 3, 4, 5, 6, 7, 8, 9, 10, 11, 12, 14, 15, 21, 13, 18, 22, 25, 23]

def canHaveSourceIdSet (sourceType : Nat) : Bool := sourceType == 22

/-- A row of the table. -/
structure ConditionRow where
  sourceTypeOrReferenceId : Int
  sourceGroup : Nat
  sourceEntry : Int
  sourceId : Int
  elseGroup : Nat
  conditionTypeOrReference : Int
  conditionTarget : Nat
  conditionValue1 : Nat
  conditionValue2 : Nat
  conditionValue3 : Nat
  negativeCondition : Nat
  errorType : Nat
  errorTextId : Nat
  scriptId : Nat

/-- The condition that a row describes. -/
def ConditionRow.toCondition (row : ConditionRow) (conditionType : ConditionTypes) : Condition where
  sourceType := row.sourceTypeOrReferenceId.toNat
  sourceGroup := row.sourceGroup
  sourceEntry := row.sourceEntry
  sourceId := (row.sourceId % 2 ^ 32).toNat
  elseGroup := row.elseGroup
  conditionType := conditionType
  conditionValue1 := row.conditionValue1
  conditionValue2 := row.conditionValue2
  conditionValue3 := row.conditionValue3
  errorType := row.errorType
  errorTextId := row.errorTextId
  referenceId := if row.conditionTypeOrReference < 0 then row.conditionTypeOrReference.natAbs else 0
  scriptId := row.scriptId
  conditionTarget := row.conditionTarget
  negativeCondition := row.negativeCondition != 0

/-- An error type is for spells only, and a text needs an error type. -/
def Condition.clearErrors (cond : Condition) : Condition :=
  let errorType := if cond.sourceType ≠ 17 then 0 else cond.errorType
  { cond with
    errorType := errorType
    errorTextId := if errorType = 0 then 0 else cond.errorTextId }

/-- What was loaded: templates and the other conditions. -/
structure ConditionMgr where
  referenceStore : ReferenceStore
  stored : List Condition

namespace ConditionMgr

def empty : ConditionMgr := ⟨OrderedMap.empty, []⟩

/-- A condition becomes part of a template. -/
def addReference (mgr : ConditionMgr) (refId : Nat) (cond : Condition) : ConditionMgr :=
  { mgr with
    referenceStore := mgr.referenceStore.insert refId
      ((mgr.referenceStore.find? refId).getD [] ++ [cond]) }

/-- The stores of grouped conditions. -/
def takesGrouped (data : GameData) (mgr : ConditionMgr) (cond : Condition) : Bool :=
  if cond.sourceType ∈ [18, 21, 22, 25, 23] then true
  else if cond.sourceType ∈ [1, 2, 3, 4, 5, 6, 7, 8, 9, 10, 11, 12, 14, 15, 13] then
    data.takesGrouped mgr.stored cond
  else false

/-- A condition that is no template goes to the stores of its source type. -/
def addStored (data : GameData) (mgr : ConditionMgr) (hasReference : Bool) (cond : Condition) :
    ConditionMgr :=
  if !hasReference && !data.isSourceTypeValid cond then mgr
  else if cond.sourceGroup ≠ 0 ∧ canHaveSourceGroupSet cond.sourceType = false then mgr
  else if cond.sourceId ≠ 0 ∧ canHaveSourceIdSet cond.sourceType = false then mgr
  else
    let cond := cond.clearErrors
    if cond.sourceGroup ≠ 0 ∧ mgr.takesGrouped data cond = false then mgr
    else { mgr with stored := mgr.stored ++ [cond] }

/-- What follows the check of the type. -/
def addCondition (data : GameData) (mgr : ConditionMgr) (row : ConditionRow) (cond : Condition) :
    ConditionMgr :=
  if row.sourceTypeOrReferenceId < 0 then
    mgr.addReference row.sourceTypeOrReferenceId.natAbs cond
  else mgr.addStored data (row.conditionTypeOrReference < 0) cond

/-- The body of the loop over the rows. -/
def loadRow (data : GameData) (mgr : ConditionMgr) (row : ConditionRow) : ConditionMgr :=
  if row.conditionTypeOrReference < 0 then
    if row.conditionTypeOrReference = row.sourceTypeOrReferenceId then mgr
    else mgr.addCondition data row (row.toCondition .none)
  else match conditionTypeOf row.conditionTypeOrReference.toNat with
    | none => mgr
    | some conditionType =>
      if isConditionTypeValid data (row.toCondition conditionType) then
        mgr.addCondition data row (row.toCondition conditionType)
      else mgr

end ConditionMgr

/-- All rows, one after the other. -/
def loadConditions (data : GameData) (rows : List ConditionRow) : ConditionMgr :=
  rows.foldl (ConditionMgr.loadRow data) ConditionMgr.empty

/-! ### What the load accepts -/

/-- The condition has passed the checks of the load. -/
def IsAccepted (data : GameData) (cond : Condition) : Prop :=
  cond.referenceId ≠ 0 ∨ isConditionTypeValid data cond = true

/-- Every condition of a template has passed the checks. -/
def TemplatesAccepted (data : GameData) (store : ReferenceStore) : Prop :=
  ∀ refId list, store.find? refId = some list → ∀ cond ∈ list, IsAccepted data cond

namespace ConditionMgr

variable {data : GameData} {mgr : ConditionMgr} {cond : Condition}

/-- All that is stored has passed the checks. -/
structure Accepted (data : GameData) (mgr : ConditionMgr) : Prop where
  stored : ∀ cond ∈ mgr.stored, IsAccepted data cond
  templates : TemplatesAccepted data mgr.referenceStore

theorem accepted_empty : Accepted data empty := by
  refine ⟨fun cond hmem => absurd hmem List.not_mem_nil, ?_⟩
  intro refId list hfind
  cases hfind

theorem Accepted.addReference (h : Accepted data mgr) (hcond : IsAccepted data cond) (refId : Nat) :
    Accepted data (mgr.addReference refId cond) := by
  refine ⟨h.stored, ?_⟩
  intro other list hfind
  rw [ConditionMgr.addReference, OrderedMap.find?_insert] at hfind
  split at hfind
  · obtain rfl := Option.some.inj hfind
    intro c hmem
    obtain hmem | hmem := List.mem_append.mp hmem
    · cases hold : mgr.referenceStore.find? refId with
      | none =>
        rw [hold] at hmem
        exact absurd hmem List.not_mem_nil
      | some old =>
        rw [hold] at hmem
        exact h.templates refId old hold c hmem
    · rwa [List.mem_singleton.mp hmem]
  · exact h.templates other list hfind

theorem Accepted.addStored (h : Accepted data mgr) (hcond : IsAccepted data cond)
    (hasReference : Bool) : Accepted data (mgr.addStored data hasReference cond) := by
  rw [ConditionMgr.addStored]
  dsimp only
  split_ifs
  · exact h
  · exact h
  · exact h
  · exact h
  · refine ⟨fun c hmem => ?_, h.templates⟩
    obtain hmem | hmem := List.mem_append.mp hmem
    · exact h.stored c hmem
    · rw [List.mem_singleton.mp hmem]
      exact hcond

theorem Accepted.addCondition (h : Accepted data mgr) (hcond : IsAccepted data cond)
    (row : ConditionRow) : Accepted data (mgr.addCondition data row cond) := by
  rw [ConditionMgr.addCondition]
  split
  · exact h.addReference hcond _
  · exact h.addStored hcond _

theorem Accepted.loadRow (h : Accepted data mgr) (row : ConditionRow) :
    Accepted data (mgr.loadRow data row) := by
  rw [ConditionMgr.loadRow]
  split
  · next hnegative =>
      split
      · exact h
      · apply h.addCondition
        apply Or.inl
        rw [ConditionRow.toCondition, if_pos hnegative]
        exact Int.natAbs_ne_zero.mpr hnegative.ne
  · split
    · exact h
    · split
      · next hvalid => exact h.addCondition (Or.inr hvalid) row
      · exact h

end ConditionMgr

theorem accepted_loadConditions (data : GameData) (rows : List ConditionRow) :
    (loadConditions data rows).Accepted data :=
  List.foldlRecOn rows (ConditionMgr.loadRow data) ConditionMgr.accepted_empty
    fun _ h row _ => h.loadRow row

end Cataclysm.Conditions
