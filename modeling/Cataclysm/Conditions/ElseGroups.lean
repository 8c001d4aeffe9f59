import Cataclysm.Conditions.LoadConditions
import Cataclysm.Lib.Acyclic
import Cataclysm.Lib.GroupedAll

/-!
# A list of conditions is a disjunction of its else groups

A list is met when some else group has all its conditions met, and a reference is met when its
template is. The evaluation, which goes through the list once and keeps a result for each group,
gives just that as soon as its depth is above that of the references. So the order of the list does
not matter, and a template with a single else group may stand in place of a reference to it.
-/

namespace Cataclysm.Conditions

open GroupedAll

/-- A template refers to another one. -/
def Refers (store : ReferenceStore) (refId other : Nat) : Prop :=
  ∃ list, store.find? refId = some list ∧
    ∃ cond ∈ list, cond.referenceId ≠ 0 ∧ cond.referenceId = other

/-- The references of a list are to templates. -/
def ReferencesExist (store : ReferenceStore) (conditions : List Condition) : Prop :=
  ∀ cond ∈ conditions, cond.referenceId ≠ 0 → store.contains cond.referenceId = true

/-- From some depth on the function gives this. -/
def Returns {T : Type} (f : Nat → Except ConditionError T) (result : T) : Prop :=
  ∃ enough, ∀ depth, enough ≤ depth → f depth = .ok result

theorem Returns.unique {T : Type} {f : Nat → Except ConditionError T} {result other : T}
    (h : Returns f result) (h' : Returns f other) : result = other := by
  obtain ⟨enough, hresult⟩ := h
  obtain ⟨enough', hother⟩ := h'
  have heq := (hresult (max enough enough') (le_max_left ..)).symm.trans
    (hother (max enough enough') (le_max_right ..))
  exact Except.ok.inj heq

/-! ### The meaning -/

section

variable (world : World) (store : ReferenceStore) (sourceInfo : ConditionSourceInfo)

/-- Some else group has all its conditions met, a reference when its template is. -/
inductive ListMet : List Condition → Prop
  | intro {conditions : List Condition} (cond : Condition) (hmem : cond ∈ conditions)
      (hplain : ∀ other ∈ conditions, other.elseGroup = cond.elseGroup → other.referenceId = 0 →
        other.meets world sourceInfo = .ok true)
      (hreference : ∀ other ∈ conditions, other.elseGroup = cond.elseGroup →
        other.referenceId ≠ 0 → ∀ list, store.find? other.referenceId = some list →
          ListMet list) : ListMet conditions

/-- A condition is met, a reference when its template is. -/
def ConditionMet (cond : Condition) : Prop :=
  (cond.referenceId = 0 → cond.meets world sourceInfo = .ok true) ∧
    (cond.referenceId ≠ 0 → ∀ list, store.find? cond.referenceId = some list →
      ListMet world store sourceInfo list)

end

variable {world : World} {store : ReferenceStore} {sourceInfo : ConditionSourceInfo}
  {data : GameData} {conditions : List Condition} {cond : Condition}

theorem listMet_iff : ListMet world store sourceInfo conditions ↔
    SomeGroup Condition.elseGroup (ConditionMet world store sourceInfo) conditions := by
  constructor
  · rintro ⟨cond, hmem, hplain, hreference⟩
    exact ⟨cond, hmem, fun other hother hsame =>
      ⟨hplain other hother hsame, hreference other hother hsame⟩⟩
  · rintro ⟨cond, hmem, hall⟩
    exact ⟨cond, hmem, fun other hother hsame => (hall other hother hsame).1,
      fun other hother hsame => (hall other hother hsame).2⟩

/-! ### Accepted conditions cannot fail -/

theorem exists_compareValues {T : Type} [LinearOrder T] {comparisionType : Nat} (val1 val2 : T)
    (h : comparisionType < compTypeMax) :
    ∃ met, compareValues comparisionType val1 val2 = .ok met := by
  rw [compTypeMax] at h
  interval_cases comparisionType <;> exact ⟨_, rfl⟩

theorem exists_conditionTarget (sourceInfo : ConditionSourceInfo) {i : Nat} (h : i < 3) :
    ∃ object, sourceInfo.conditionTarget i = .ok object := by
  interval_cases i <;> exact ⟨_, rfl⟩

theorem maxTargets_le (cond : Condition) : cond.getMaxAvailableConditionTargets ≤ 2 := by
  rw [Condition.getMaxAvailableConditionTargets]
  split
  · exact le_refl 2
  · exact one_le_two

theorem exists_otherTarget (sourceInfo : ConditionSourceInfo) (h : isOtherTarget cond = true) :
    ∃ object, sourceInfo.conditionTarget cond.conditionValue1 = .ok object := by
  rw [isOtherTarget, Bool.and_eq_true, decide_eq_true_eq] at h
  have hmax := maxTargets_le cond
  exact exists_conditionTarget sourceInfo (by omega)

theorem exists_typeMeets (h : isTypeValid data cond = true) (object : WorldObject) :
    ∃ met, cond.typeMeets world sourceInfo object = .ok met := by
  rw [Condition.typeMeets]
  rw [isTypeValid] at h
  cases hkind : cond.conditionType with
  | item =>
    rw [hkind] at h
    dsimp only at h ⊢
    rw [Bool.and_eq_true, bne_iff_ne] at h
    split
    · rw [if_neg h.2]
      exact ⟨_, rfl⟩
    · exact ⟨_, rfl⟩
  | level =>
    rw [hkind] at h
    dsimp only at h ⊢
    split
    · exact exists_compareValues _ _ (of_decide_eq_true h)
    · exact ⟨_, rfl⟩
  | hpVal =>
    rw [hkind] at h
    dsimp only at h ⊢
    split
    · exact exists_compareValues _ _ (of_decide_eq_true h)
    · exact ⟨_, rfl⟩
  | hpPct =>
    rw [hkind] at h
    dsimp only at h ⊢
    rw [Bool.and_eq_true] at h
    split
    · exact exists_compareValues _ _ (of_decide_eq_true h.2)
    · exact ⟨_, rfl⟩
  | relationTo =>
    rw [hkind] at h
    dsimp only at h ⊢
    rw [Bool.and_eq_true] at h
    obtain ⟨object', hread⟩ := exists_otherTarget sourceInfo h.1
    rw [hread]
    exact ⟨_, rfl⟩
  | reactionTo =>
    rw [hkind] at h
    dsimp only at h ⊢
    rw [Bool.and_eq_true] at h
    obtain ⟨object', hread⟩ := exists_otherTarget sourceInfo h.1
    rw [hread]
    exact ⟨_, rfl⟩
  | distanceTo =>
    rw [hkind] at h
    dsimp only at h ⊢
    rw [Bool.and_eq_true] at h
    obtain ⟨object', hread⟩ := exists_otherTarget sourceInfo h.1
    rw [hread]
    cases object' with
    | none => exact ⟨_, rfl⟩
    | some toObject => exact exists_compareValues _ _ (of_decide_eq_true h.2)
  | _ => exact ⟨_, rfl⟩

theorem exists_meets (world : World) (sourceInfo : ConditionSourceInfo)
    (h : isConditionTypeValid data cond = true) :
    ∃ met, cond.meets world sourceInfo = .ok met := by
  rw [isConditionTypeValid, Bool.and_eq_true, decide_eq_true_eq] at h
  have hmax := maxTargets_le cond
  have hrange : ¬ 3 ≤ cond.conditionTarget := by omega
  obtain ⟨target, hread⟩ := exists_conditionTarget sourceInfo (i := cond.conditionTarget) (by omega)
  rw [Condition.meets, if_neg hrange, hread]
  cases target with
  | none => exact ⟨false, rfl⟩
  | some object =>
    obtain ⟨met, hmet⟩ := exists_typeMeets h.2 object
    change ∃ result, (cond.typeMeets world sourceInfo object >>= _) = Except.ok result
    rw [hmet]
    exact ⟨_, rfl⟩

theorem isLoaded_of_accepted (h : IsAccepted data cond) : cond.isLoaded = true := by
  rw [Condition.isLoaded, Bool.or_eq_true, decide_eq_true_eq, decide_eq_true_eq]
  refine h.symm.imp_left fun hvalid hnone => ?_
  rw [isConditionTypeValid, Bool.and_eq_true, isTypeValid, hnone] at hvalid
  exact Bool.false_ne_true hvalid.2

/-! ### One pass -/

section

variable {meetList : List Condition → Except ConditionError Bool} {groups : OrderedMap Nat Bool}

theorem joins_insert (hnot : groups.find? cond.elseGroup ≠ some false) {met : Bool}
    (hmet : met = true ↔ ConditionMet world store sourceInfo cond) :
    Joins Condition.elseGroup (ConditionMet world store sourceInfo) (fun v => v = true) groups
      (groups.insert cond.elseGroup met) cond := by
  refine ⟨fun g hne => ?_, met, OrderedMap.find?_insert_self .., ?_⟩
  · rw [OrderedMap.find?_insert, if_neg hne]
  · rw [hmet]
    refine (and_iff_right fun v hfind => ?_).symm
    cases v with
    | false => exact absurd hfind hnot
    | true => rfl

/-- One round of the loop joins the condition to its group. -/
theorem meetElseGroup_spec (haccepted : IsAccepted data cond)
    (hlist : ∀ list, cond.referenceId ≠ 0 → store.find? cond.referenceId = some list →
      ∃ met, meetList list = .ok met ∧ (met = true ↔ ListMet world store sourceInfo list)) :
    ∃ groups', meetElseGroup world store sourceInfo meetList groups cond = .ok groups' ∧
      Joins Condition.elseGroup (ConditionMet world store sourceInfo) (fun v => v = true) groups
        groups' cond := by
  have hloaded : ¬ cond.isLoaded = false := ne_false_of_eq_true (isLoaded_of_accepted haccepted)
  rw [meetElseGroup, if_neg hloaded]
  by_cases hskip : groups.find? cond.elseGroup = some false
  · rw [if_pos hskip]
    refine ⟨groups, rfl, fun _ _ => rfl, false, hskip, ?_⟩
    exact iff_of_false Bool.false_ne_true fun h => Bool.false_ne_true (h.1 false hskip)
  rw [if_neg hskip]
  have hresult : ∀ met : Bool, (if met = true then groups.insert cond.elseGroup true
      else (groups.insert cond.elseGroup true).insert cond.elseGroup false) =
        groups.insert cond.elseGroup met := by
    intro met
    cases met with
    | false => exact OrderedMap.insert_insert ..
    | true => rfl
  by_cases hreference : cond.referenceId = 0
  · obtain hne | hvalid := haccepted
    · exact absurd hreference hne
    obtain ⟨met, hmeets⟩ := exists_meets world sourceInfo hvalid
    refine ⟨groups.insert cond.elseGroup met, ?_, joins_insert hskip ?_⟩
    · dsimp only
      rw [if_neg (not_not.mpr hreference), hmeets]
      exact congrArg Except.ok (hresult met)
    · rw [ConditionMet, hmeets]
      simp [hreference]
  · dsimp only
    rw [if_pos hreference]
    cases hfind : store.find? cond.referenceId with
    | none =>
      refine ⟨_, rfl, joins_insert hskip ?_⟩
      simp [ConditionMet, hreference, hfind]
    | some list =>
      obtain ⟨met, hmet, hiff⟩ := hlist list hreference hfind
      refine ⟨groups.insert cond.elseGroup met, ?_, joins_insert hskip ?_⟩
      · dsimp only
        rw [hmet]
        exact congrArg Except.ok (hresult met)
      · rw [hiff]
        simp [ConditionMet, hreference, hfind]

end

/-! ### The evaluation -/

theorem exists_rank (hacyclic : Acyclic (Refers store)) :
    ∃ rank : Nat → Nat, ∀ refId other, Refers store refId other → rank other < rank refId := by
  classical
  let targets := (store.entries.flatMap fun e => e.2.map Condition.referenceId).toFinset
  refine hacyclic.exists_rank targets ?_
  rintro refId other ⟨list, hfind, cond, hmem, -, rfl⟩
  rw [List.mem_toFinset, List.mem_flatMap]
  exact ⟨(refId, list), OrderedMap.find?_eq_some_iff.mp hfind,
    List.mem_map_of_mem hmem⟩

/-- With enough depth for the references the evaluation gives the meaning. -/
theorem isObjectMeetToConditionList_spec {rank : Nat → Nat}
    (hrank : ∀ refId other, Refers store refId other → rank other < rank refId)
    (htemplates : TemplatesAccepted data store) {depth height : Nat} (hdepth : height < depth)
    (haccepted : ∀ cond ∈ conditions, IsAccepted data cond)
    (hheight : ∀ cond ∈ conditions, cond.referenceId ≠ 0 → rank cond.referenceId < height) :
    ∃ met, isObjectMeetToConditionList world store sourceInfo depth conditions = .ok met ∧
      (met = true ↔ ListMet world store sourceInfo conditions) := by
  induction depth generalizing height conditions with
  | zero => exact absurd hdepth (Nat.not_lt_zero height)
  | succ depth ih =>
    have hround : ∀ groups, ∀ cond ∈ conditions, ∃ groups',
        meetElseGroup world store sourceInfo
          (isObjectMeetToConditionList world store sourceInfo depth) groups cond = .ok groups' ∧
        Joins Condition.elseGroup (ConditionMet world store sourceInfo) (fun v => v = true)
          groups groups' cond := by
      intro groups cond hmem
      apply meetElseGroup_spec (haccepted cond hmem)
      intro list hreference hfind
      have hlower := hheight cond hmem hreference
      apply ih (show rank cond.referenceId < depth by omega) (htemplates _ list hfind)
      intro other hother hne
      exact hrank _ _ ⟨list, hfind, other, hother, hne, rfl⟩
    obtain ⟨groups, hrun, htracks⟩ := tracks_foldlM tracks_nil hround
    refine ⟨groups.entries.any fun e => e.2, ?_, ?_⟩
    · rw [isObjectMeetToConditionList, hrun]
      rfl
    · rw [List.nil_append] at htracks
      rw [List.any_eq_true, listMet_iff]
      exact htracks.exists_iff

/-- A bound of the ranks in a list. -/
theorem exists_height (rank : Nat → Nat) (conditions : List Condition) :
    ∃ height, ∀ cond ∈ conditions, rank cond.referenceId < height := by
  induction conditions with
  | nil => exact ⟨0, fun _ hmem => absurd hmem List.not_mem_nil⟩
  | cons cond rest ih =>
    obtain ⟨height, hrest⟩ := ih
    refine ⟨max height (rank cond.referenceId + 1), fun other hmem => ?_⟩
    obtain rfl | hmem := List.mem_cons.mp hmem
    · omega
    · have hlt := hrest other hmem
      omega

theorem returns_meetList (world : World) (sourceInfo : ConditionSourceInfo)
    (hacyclic : Acyclic (Refers store)) (htemplates : TemplatesAccepted data store)
    (haccepted : ∀ cond ∈ conditions, IsAccepted data cond) :
    ∃ met, Returns (fun depth =>
        isObjectMeetToConditionList world store sourceInfo depth conditions) met ∧
      (met = true ↔ ListMet world store sourceInfo conditions) := by
  obtain ⟨rank, hrank⟩ := exists_rank hacyclic
  obtain ⟨height, hheight⟩ := exists_height rank conditions
  have hresult : ∀ depth, height < depth →
      ∃ met, isObjectMeetToConditionList world store sourceInfo depth conditions = .ok met ∧
        (met = true ↔ ListMet world store sourceInfo conditions) :=
    fun depth hdepth => isObjectMeetToConditionList_spec hrank htemplates hdepth haccepted
      fun cond hmem _ => hheight cond hmem
  obtain ⟨met, -, hmet⟩ := hresult (height + 1) (Nat.lt_succ_self height)
  refine ⟨met, ⟨height + 1, fun depth hdepth => ?_⟩, hmet⟩
  obtain ⟨other, hother, hiff⟩ := hresult depth hdepth
  have hsame : other = met := Bool.eq_iff_iff.mpr (hiff.trans hmet.symm)
  dsimp only
  rw [hother, hsame]

theorem returns_meets (world : World) (sourceInfo : ConditionSourceInfo)
    (hacyclic : Acyclic (Refers store)) (htemplates : TemplatesAccepted data store)
    (haccepted : ∀ cond ∈ conditions, IsAccepted data cond) (hne : conditions ≠ []) :
    ∃ met, Returns (fun depth =>
        isObjectMeetToConditions world store sourceInfo depth conditions) met ∧
      (met = true ↔ ListMet world store sourceInfo conditions) := by
  simp only [isObjectMeetToConditions, if_neg hne]
  exact returns_meetList world sourceInfo hacyclic htemplates haccepted

/-- Lists with the same meaning have the same result. -/
theorem Returns.transfer (hacyclic : Acyclic (Refers store))
    (htemplates : TemplatesAccepted data store) {other : List Condition}
    (haccepted : ∀ cond ∈ conditions, IsAccepted data cond) (hne : conditions ≠ [])
    (haccepted' : ∀ cond ∈ other, IsAccepted data cond) (hne' : other ≠ [])
    (hsame : ListMet world store sourceInfo other ↔ ListMet world store sourceInfo conditions)
    {met : Bool} (h : Returns (fun depth =>
      isObjectMeetToConditions world store sourceInfo depth conditions) met) :
    Returns (fun depth => isObjectMeetToConditions world store sourceInfo depth other) met := by
  obtain ⟨result, hresult, hmet⟩ :=
    returns_meets world sourceInfo hacyclic htemplates haccepted hne
  obtain ⟨result', hresult', hmet'⟩ :=
    returns_meets world sourceInfo hacyclic htemplates haccepted' hne'
  have heq : result' = result := Bool.eq_iff_iff.mpr (hmet'.trans (hsame.trans hmet.symm))
  rw [h.unique hresult, ← heq]
  exact hresult'

/-! ### References and their templates -/

/-- The condition in another else group. -/
def Condition.inGroup (elseGroup : Nat) (cond : Condition) : Condition :=
  { cond with elseGroup := elseGroup }

theorem conditionMet_inGroup (elseGroup : Nat) :
    ConditionMet world store sourceInfo (cond.inGroup elseGroup) ↔
      ConditionMet world store sourceInfo cond := Iff.rfl

/-- A template with a single else group in place of a reference to it. -/
theorem listMet_inlined {before after template : List Condition}
    (hreference : cond.referenceId ≠ 0) (hfind : store.find? cond.referenceId = some template)
    (hne : template ≠ [])
    (hsingle : ∀ c ∈ template, ∀ other ∈ template, other.elseGroup = c.elseGroup) :
    ListMet world store sourceInfo
        (before ++ template.map (Condition.inGroup cond.elseGroup) ++ after) ↔
      ListMet world store sourceInfo (before ++ cond :: after) := by
  rw [listMet_iff, listMet_iff]
  apply someGroup_replace
  · simp [hne]
  · intro other hother
    obtain ⟨c, -, rfl⟩ := List.mem_map.mp hother
    rfl
  · have hmet : ConditionMet world store sourceInfo cond ↔
        ListMet world store sourceInfo template := by
      simp [ConditionMet, hreference, hfind]
    rw [hmet, listMet_iff, someGroup_single hne hsingle]
    simp [conditionMet_inGroup]

/-- A list is met exactly when some else group has all its conditions met, whatever the order of
the list and whether a reference to a template with a single group or that template stands in it. -/
theorem meets_iff_elseGroup (world : World) (store : ReferenceStore)
    (sourceInfo : ConditionSourceInfo) (data : GameData) (conditions : List Condition)
    (hne : conditions ≠ []) (haccepted : ∀ cond ∈ conditions, IsAccepted data cond)
    (htemplates : TemplatesAccepted data store) (hacyclic : Acyclic (Refers store)) :
    (∃ met, Returns (fun depth =>
        isObjectMeetToConditions world store sourceInfo depth conditions) met ∧
      (met = true ↔ ListMet world store sourceInfo conditions)) ∧
    (∀ other met, conditions.Perm other →
      Returns (fun depth =>
        isObjectMeetToConditions world store sourceInfo depth conditions) met →
      Returns (fun depth => isObjectMeetToConditions world store sourceInfo depth other) met) ∧
    ∀ before cond after template met, conditions = before ++ cond :: after →
      cond.referenceId ≠ 0 → store.find? cond.referenceId = some template → template ≠ [] →
      (∀ c ∈ template, ∀ other ∈ template, other.elseGroup = c.elseGroup) →
      Returns (fun depth =>
        isObjectMeetToConditions world store sourceInfo depth conditions) met →
      Returns (fun depth => isObjectMeetToConditions world store sourceInfo depth
        (before ++ template.map (Condition.inGroup cond.elseGroup) ++ after)) met := by
  refine ⟨returns_meets world sourceInfo hacyclic htemplates haccepted hne, ?_, ?_⟩
  · intro other met hperm
    apply Returns.transfer hacyclic htemplates haccepted hne
    · exact fun cond hmem => haccepted cond (hperm.mem_iff.mpr hmem)
    · exact fun hnil => hne (List.perm_nil.mp (hnil ▸ hperm))
    · rw [listMet_iff, listMet_iff]
      exact ⟨SomeGroup.perm hperm.symm, SomeGroup.perm hperm⟩
  · rintro before cond after template met rfl hreference hfind hne' hsingle
    apply Returns.transfer hacyclic htemplates haccepted hne
    · intro other hother
      simp only [List.mem_append, List.mem_map] at hother
      obtain (hother | ⟨c, hmem, rfl⟩) | hother := hother
      · exact haccepted other (by simp [hother])
      · exact htemplates _ template hfind c hmem
      · exact haccepted other (by simp [hother])
    · simp [hne']
    · exact listMet_inlined hreference hfind hne' hsingle

/-! ### A reference to living units -/

/-- Everything exists. -/
def fullData : GameData where
  hasSpellInfo := fun _ => true
  hasItemTemplate := fun _ => true
  areaZone := fun _ => some 0
  hasFaction := fun _ => true
  hasSkillLine := fun _ => true
  maxSkillValue := 525
  hasQuestTemplate := fun _ => true
  isValidEvent := fun _ => true
  hasAchievement := fun _ => true
  hasMap := fun _ => true
  hasCreatureTemplate := fun _ => true
  hasGameObjectTemplate := fun _ => true
  worldState := fun _ => 1
  hasTitle := fun _ => true
  isSourceTypeValid := fun _ => true
  takesGrouped := fun _ _ => true

/-- A row of a source and a type, with nothing else set. -/
def plainRow (sourceTypeOrReferenceId conditionTypeOrReference : Int) : ConditionRow where
  sourceTypeOrReferenceId := sourceTypeOrReferenceId
  sourceGroup := 0
  sourceEntry := 1
  sourceId := 0
  elseGroup := 0
  conditionTypeOrReference := conditionTypeOrReference
  conditionTarget := 0
  conditionValue1 := 0
  conditionValue2 := 0
  conditionValue3 := 0
  negativeCondition := 0
  errorType := 0
  errorTextId := 0
  scriptId := 0

/-- A template asks for living units, and a spell refers to it. -/
def livingRows : List ConditionRow := [plainRow (-1) 36, plainRow 17 (-1)]

def livingTemplate : List Condition := [(plainRow (-1) 36).toCondition .alive]

def livingReference : Condition := (plainRow 17 (-1)).toCondition .none

theorem load_livingRows : loadConditions fullData livingRows =
    ⟨OrderedMap.empty.insert 1 livingTemplate, [livingReference]⟩ := rfl

theorem find?_living {refId : Nat} {list : List Condition}
    (h : (loadConditions fullData livingRows).referenceStore.find? refId = some list) :
    refId = 1 ∧ list = livingTemplate := by
  rw [load_livingRows, OrderedMap.find?_insert] at h
  split at h
  · next heq => exact ⟨heq, (Option.some.inj h).symm⟩
  · cases h

theorem templatesAccepted_living :
    TemplatesAccepted fullData (loadConditions fullData livingRows).referenceStore := by
  intro refId list hfind cond hmem
  obtain ⟨-, rfl⟩ := find?_living hfind
  rw [List.mem_singleton.mp hmem]
  exact Or.inr rfl

theorem acyclic_living :
    Acyclic (Refers (loadConditions fullData livingRows).referenceStore) := by
  have hrank : ∀ refId other,
      Refers (loadConditions fullData livingRows).referenceStore refId other → other < refId := by
    rintro refId other ⟨list, hfind, cond, hmem, hne, -⟩
    obtain ⟨-, rfl⟩ := find?_living hfind
    rw [List.mem_singleton.mp hmem] at hne
    exact absurd rfl hne
  exact Acyclic.of_rank hrank

/-- No event, no world state and no script. -/
def quietWorld : World where
  isActiveEvent := fun _ => false
  worldState := fun _ => 0
  onConditionCheck := fun _ _ _ _ => true

/-- A condition on the unit itself. -/
def living : Condition := (plainRow 17 36).toCondition .alive

/-- In one else-group the reference and the condition, in another the opposite. -/
def livingOrDead : List Condition :=
  [{ living with elseGroup := 1, negativeCondition := true }, livingReference, living,
    { livingReference with elseGroup := 1 }]

/-- The answer is the same in another order, and with the template in place of the first
reference. -/
theorem meets_livingOrDead :
    ∃ met, (met = true ↔ ListMet quietWorld (loadConditions fullData livingRows).referenceStore
        { target0 := none } livingOrDead) ∧
      ∀ list ∈ [livingOrDead, livingOrDead.reverse,
          livingOrDead.take 1 ++ livingTemplate ++ livingOrDead.drop 2],
        Returns (fun depth => isObjectMeetToConditions quietWorld
          (loadConditions fullData livingRows).referenceStore { target0 := none } depth list)
          met := by
  have haccepted : ∀ cond ∈ livingOrDead, IsAccepted fullData cond := by
    simp only [livingOrDead, List.forall_mem_cons, List.not_mem_nil, false_imp_iff,
      implies_true, and_true]
    exact ⟨Or.inr rfl, Or.inl Nat.one_ne_zero, Or.inr rfl, Or.inl Nat.one_ne_zero⟩
  obtain ⟨⟨met, hreturns, hmet⟩, hperm, hinlined⟩ := meets_iff_elseGroup quietWorld
    (loadConditions fullData livingRows).referenceStore { target0 := none } fullData livingOrDead
    (List.cons_ne_nil _ _) haccepted templatesAccepted_living acyclic_living
  have hfind : (loadConditions fullData livingRows).referenceStore.find?
      livingReference.referenceId = some livingTemplate := rfl
  have hsingle : ∀ c ∈ livingTemplate, ∀ other ∈ livingTemplate, other.elseGroup = c.elseGroup := by
    decide
  refine ⟨met, hmet, ?_⟩
  simp only [List.forall_mem_cons, List.not_mem_nil, false_imp_iff, implies_true, and_true]
  exact ⟨hreturns, hperm _ met (List.reverse_perm _).symm hreturns,
    hinlined (livingOrDead.take 1) livingReference (livingOrDead.drop 2) livingTemplate met rfl
      Nat.one_ne_zero hfind (List.cons_ne_nil _ _) hsingle hreturns⟩

end Cataclysm.Conditions
