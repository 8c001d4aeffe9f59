import Cataclysm.Conditions.TypeMask

/-!
# Which tables give well-founded references

The evaluation follows references without a guard, so it rests on the load. The load refuses a row
whose source and type are the same reference, and nothing else: a reference may name a template that
never comes, and two templates may refer to each other. So the references are well founded just for
the tables in which every reference names a template row and the templates can be ranked.
-/

namespace Cataclysm.Conditions

/-- The condition of a row that passes the checks of its type. -/
def acceptedCondition (data : GameData) (row : ConditionRow) : Option Condition :=
  if row.conditionTypeOrReference < 0 then
    if row.conditionTypeOrReference = row.sourceTypeOrReferenceId then none
    else some (row.toCondition .none)
  else (conditionTypeOf row.conditionTypeOrReference.toNat).bind fun conditionType =>
    if isConditionTypeValid data (row.toCondition conditionType) then
      some (row.toCondition conditionType)
    else none

/-- An accepted row of a template. -/
def IsTemplateRow (data : GameData) (row : ConditionRow) (refId : Nat) : Prop :=
  row.sourceTypeOrReferenceId < 0 ∧ row.sourceTypeOrReferenceId.natAbs = refId ∧
    ∃ cond, acceptedCondition data row = some cond

/-- The stores of its source type take the condition. -/
def Takes (data : GameData) (mgr : ConditionMgr) (hasReference : Bool) (cond : Condition) : Prop :=
  (hasReference = true ∨ data.isSourceTypeValid cond = true) ∧
    (cond.sourceGroup = 0 ∨ canHaveSourceGroupSet cond.sourceType = true) ∧
    (cond.sourceId = 0 ∨ canHaveSourceIdSet cond.sourceType = true) ∧
    (cond.sourceGroup = 0 ∨ mgr.takesGrouped data cond.clearErrors = true)

/-- A row that refers to another template than its own. -/
def ConditionRow.RefersTo (row : ConditionRow) (refId : Nat) : Prop :=
  row.conditionTypeOrReference < 0 ∧
    row.conditionTypeOrReference ≠ row.sourceTypeOrReferenceId ∧
    row.conditionTypeOrReference.natAbs = refId

/-- The tables whose references are well founded. -/
structure WellReferenced (data : GameData) (rows : List ConditionRow) : Prop where
  /-- A reference of a stored condition names a template. -/
  stored : ∀ before row after refId, rows = before ++ row :: after → row.RefersTo refId →
    0 ≤ row.sourceTypeOrReferenceId →
    Takes data (loadConditions data before) true (row.toCondition .none) →
    ∃ other ∈ rows, IsTemplateRow data other refId
  /-- A reference of a template to another one names a template. -/
  templates : ∀ row ∈ rows, row.sourceTypeOrReferenceId < 0 → ∀ refId, row.RefersTo refId →
    ∃ other ∈ rows, IsTemplateRow data other refId
  /-- It is to one of a lower rank. -/
  ranked : ∃ rank : Nat → Nat, ∀ row ∈ rows, row.sourceTypeOrReferenceId < 0 → ∀ refId,
    row.RefersTo refId → rank refId < rank row.sourceTypeOrReferenceId.natAbs

/-- Every reference names a template, the templates have no cycle, and so a list of stored
conditions is evaluated and searched without an error. -/
structure WellFounded (mgr : ConditionMgr) : Prop where
  stored : ReferencesExist mgr.referenceStore mgr.stored
  templates : TemplatesExist mgr.referenceStore
  acyclic : Acyclic (Refers mgr.referenceStore)
  evaluated : ∀ world sourceInfo conditions, (∀ cond ∈ conditions, cond ∈ mgr.stored) →
    ∃ met, Returns (fun depth =>
      isObjectMeetToConditionList world mgr.referenceStore sourceInfo depth conditions) met
  searched : ∀ conditions, (∀ cond ∈ conditions, cond ∈ mgr.stored) →
    ∃ mask, Returns (fun depth =>
      getSearcherTypeMaskForConditionList mgr.referenceStore depth conditions) mask

/-! ### What the rows leave in the stores -/

variable {data : GameData} {rows : List ConditionRow} {mgr : ConditionMgr} {row : ConditionRow}
  {cond : Condition} {refId : Nat}

theorem loadRow_eq : mgr.loadRow data row =
    ((acceptedCondition data row).map (mgr.addCondition data row)).getD mgr := by
  rw [ConditionMgr.loadRow, acceptedCondition]
  split
  · split
    · rfl
    · rfl
  · cases conditionTypeOf row.conditionTypeOrReference.toNat with
    | none => rfl
    | some conditionType =>
      dsimp only [Option.bind_some]
      split
      · rfl
      · rfl

theorem addStored_of_takes {hasReference : Bool} (h : Takes data mgr hasReference cond) :
    mgr.addStored data hasReference cond =
      { mgr with stored := mgr.stored ++ [cond.clearErrors] } := by
  obtain ⟨hvalid, hgroup, hid, hgrouped⟩ := h
  rw [ConditionMgr.addStored]
  dsimp only
  split_ifs with hrefused hrefusedGroup hrefusedId hrefusedGrouped
  · rw [Bool.and_eq_true, Bool.not_eq_true', Bool.not_eq_true'] at hrefused
    rw [hrefused.1, hrefused.2] at hvalid
    exact absurd hvalid (by simp)
  · rw [hrefusedGroup.2] at hgroup
    exact absurd hgroup (by simp [hrefusedGroup.1])
  · rw [hrefusedId.2] at hid
    exact absurd hid (by simp [hrefusedId.1])
  · rw [hrefusedGrouped.2] at hgrouped
    have hne : cond.sourceGroup ≠ 0 := hrefusedGrouped.1
    exact absurd hgrouped (by simp [hne])
  · rfl

theorem addStored_of_not {hasReference : Bool} (h : ¬ Takes data mgr hasReference cond) :
    mgr.addStored data hasReference cond = mgr := by
  rw [ConditionMgr.addStored]
  dsimp only
  split_ifs with hrefused hrefusedGroup hrefusedId hrefusedGrouped
  · rfl
  · rfl
  · rfl
  · rfl
  · refine absurd ⟨?_, ?_, ?_, ?_⟩ h
    · cases hasReference <;> simp_all
    · by_cases hzero : cond.sourceGroup = 0 <;> simp_all
    · by_cases hzero : cond.sourceId = 0 <;> simp_all
    · have hsame : cond.clearErrors.sourceGroup = cond.sourceGroup := rfl
      by_cases hzero : cond.sourceGroup = 0 <;> simp_all

theorem loadConditions_concat :
    loadConditions data (rows ++ [row]) = (loadConditions data rows).loadRow data row :=
  List.foldl_concat ..

/-- What one row does to the templates. -/
theorem find?_loadRow {list : List Condition} :
    (mgr.loadRow data row).referenceStore.find? refId = some list ↔
      (IsTemplateRow data row refId ∧ ∃ cond, acceptedCondition data row = some cond ∧
        list = (mgr.referenceStore.find? refId).getD [] ++ [cond]) ∨
      (¬ IsTemplateRow data row refId ∧ mgr.referenceStore.find? refId = some list) := by
  rw [loadRow_eq, IsTemplateRow]
  cases haccepted : acceptedCondition data row with
  | none => simp
  | some cond =>
    rw [Option.map_some, Option.getD_some, ConditionMgr.addCondition]
    split
    · next hnegative =>
        rw [ConditionMgr.addReference, OrderedMap.find?_insert]
        split
        · next heq => simp [hnegative, heq, eq_comm]
        · next hne => simp [Ne.symm hne]
    · next hnegative =>
        have hsame : ((mgr.addStored data (decide (row.conditionTypeOrReference < 0)) cond
            ).referenceStore) = mgr.referenceStore := by
          by_cases htakes : Takes data mgr (decide (row.conditionTypeOrReference < 0)) cond
          · rw [addStored_of_takes htakes]
          · rw [addStored_of_not htakes]
        rw [hsame]
        simp [hnegative]

/-- The conditions of a template are those of its rows. -/
theorem mem_template :
    (∃ list, (loadConditions data rows).referenceStore.find? refId = some list ∧ cond ∈ list) ↔
      ∃ row ∈ rows, row.sourceTypeOrReferenceId < 0 ∧
        row.sourceTypeOrReferenceId.natAbs = refId ∧ acceptedCondition data row = some cond := by
  induction rows using List.reverseRecOn with
  | nil =>
    refine iff_of_false ?_ fun ⟨_, hmem, _⟩ => List.not_mem_nil hmem
    rintro ⟨list, hfind, -⟩
    cases hfind
  | append_singleton before row ih =>
    simp only [loadConditions_concat, find?_loadRow, List.mem_append, List.mem_singleton,
      or_and_right, exists_or, exists_eq_left]
    rw [← ih]
    constructor
    · rintro (⟨list, ⟨⟨hnegative, hid, -⟩, added, haccepted, rfl⟩, hmem⟩ | ⟨list, ⟨-, hfind⟩, hmem⟩)
      · obtain hmem | hmem := List.mem_append.mp hmem
        · cases hold : (loadConditions data before).referenceStore.find? refId with
          | none =>
            rw [hold] at hmem
            exact absurd hmem List.not_mem_nil
          | some old =>
            rw [hold] at hmem
            exact Or.inl ⟨old, rfl, hmem⟩
        · rw [List.mem_singleton.mp hmem]
          exact Or.inr ⟨hnegative, hid, haccepted⟩
      · exact Or.inl ⟨list, hfind, hmem⟩
    · rintro (⟨list, hfind, hmem⟩ | ⟨hnegative, hid, haccepted⟩)
      · by_cases htemplate : IsTemplateRow data row refId
        · obtain ⟨added, hadded⟩ := htemplate.2.2
          refine Or.inl ⟨_, ⟨htemplate, added, hadded, rfl⟩, ?_⟩
          rw [hfind]
          exact List.mem_append_left _ hmem
        · exact Or.inr ⟨list, ⟨htemplate, hfind⟩, hmem⟩
      · exact Or.inl ⟨_, ⟨⟨hnegative, hid, cond, haccepted⟩, cond, haccepted, rfl⟩, by simp⟩

/-- A template is there when it has a row. -/
theorem contains_template : (loadConditions data rows).referenceStore.contains refId = true ↔
    ∃ row ∈ rows, IsTemplateRow data row refId := by
  induction rows using List.reverseRecOn with
  | nil => exact iff_of_false Bool.false_ne_true fun ⟨_, hmem, _⟩ => List.not_mem_nil hmem
  | append_singleton before row ih =>
    simp only [List.mem_append, List.mem_singleton, or_and_right, exists_or, exists_eq_left]
    rw [← ih, OrderedMap.contains, OrderedMap.contains, Option.isSome_iff_exists,
      Option.isSome_iff_exists, loadConditions_concat]
    simp only [find?_loadRow, exists_or]
    constructor
    · rintro (⟨_, htemplate, -⟩ | ⟨list, -, hfind⟩)
      · exact Or.inr htemplate
      · exact Or.inl ⟨list, hfind⟩
    · intro h
      by_cases htemplate : IsTemplateRow data row refId
      · obtain ⟨added, hadded⟩ := htemplate.2.2
        exact Or.inl ⟨_, htemplate, added, hadded, rfl⟩
      · obtain ⟨list, hfind⟩ := h.resolve_right htemplate
        exact Or.inr ⟨list, htemplate, hfind⟩

theorem stored_loadRow : cond ∈ (mgr.loadRow data row).stored ↔
    cond ∈ mgr.stored ∨ (0 ≤ row.sourceTypeOrReferenceId ∧ ∃ added,
      acceptedCondition data row = some added ∧
      Takes data mgr (row.conditionTypeOrReference < 0) added ∧ cond = added.clearErrors) := by
  rw [loadRow_eq]
  cases haccepted : acceptedCondition data row with
  | none => simp
  | some added =>
    rw [Option.map_some, Option.getD_some, ConditionMgr.addCondition]
    split
    · next hnegative => simp [ConditionMgr.addReference, not_le.mpr hnegative]
    · next hpositive =>
        by_cases htakes : Takes data mgr (row.conditionTypeOrReference < 0) added
        · rw [addStored_of_takes htakes]
          simp [not_lt.mp hpositive, htakes]
        · rw [addStored_of_not htakes]
          simp [htakes]

/-- Where a stored condition comes from. -/
theorem mem_stored : cond ∈ (loadConditions data rows).stored ↔
    ∃ before row after, rows = before ++ row :: after ∧ 0 ≤ row.sourceTypeOrReferenceId ∧
      ∃ added, acceptedCondition data row = some added ∧
        Takes data (loadConditions data before) (row.conditionTypeOrReference < 0) added ∧
        cond = added.clearErrors := by
  induction rows using List.reverseRecOn with
  | nil =>
    refine iff_of_false List.not_mem_nil ?_
    rintro ⟨before, row, after, hnil, -⟩
    simp at hnil
  | append_singleton earlier last ih =>
    rw [loadConditions_concat, stored_loadRow, ih]
    constructor
    · rintro (⟨before, row, after, rfl, h⟩ | h)
      · exact ⟨before, row, after ++ [last], by simp, h⟩
      · exact ⟨earlier, last, [], rfl, h⟩
    · rintro ⟨before, row, after, heq, h⟩
      obtain rfl | ⟨rest, final, rfl⟩ := List.eq_nil_or_concat' after
      · obtain ⟨rfl, hlast⟩ := List.append_inj' heq rfl
        rw [List.cons.inj hlast |>.1]
        exact Or.inr h
      · rw [← List.cons_append, ← List.append_assoc] at heq
        obtain ⟨rfl, -⟩ := List.append_inj' heq rfl
        exact Or.inl ⟨before, row, rest, rfl, h⟩

/-! ### References of rows -/

theorem ConditionRow.RefersTo.accepted (h : row.RefersTo refId) (data : GameData) :
    acceptedCondition data row = some (row.toCondition .none) ∧
      (row.toCondition .none).referenceId = refId ∧ refId ≠ 0 := by
  obtain ⟨hnegative, hne, rfl⟩ := h
  refine ⟨?_, ?_, Int.natAbs_ne_zero.mpr hnegative.ne⟩
  · rw [acceptedCondition, if_pos hnegative, if_neg hne]
  · exact if_pos hnegative

theorem refersTo_of_accepted (haccepted : acceptedCondition data row = some cond)
    (hreference : cond.referenceId ≠ 0) :
    row.RefersTo cond.referenceId ∧ cond = row.toCondition .none := by
  rw [acceptedCondition] at haccepted
  split at haccepted
  · next hnegative =>
      split at haccepted
      · cases haccepted
      · next hne =>
          obtain rfl := Option.some.inj haccepted
          exact ⟨⟨hnegative, hne, (if_pos hnegative).symm⟩, rfl⟩
  · next hpositive =>
      obtain ⟨conditionType, -, hvalid⟩ := Option.bind_eq_some_iff.mp haccepted
      split at hvalid
      · obtain rfl := Option.some.inj hvalid
        exact absurd (if_neg hpositive) hreference
      · cases hvalid

theorem refers_iff {other : Nat} : Refers (loadConditions data rows).referenceStore refId other ↔
    ∃ row ∈ rows, row.sourceTypeOrReferenceId < 0 ∧
      row.sourceTypeOrReferenceId.natAbs = refId ∧ row.RefersTo other := by
  constructor
  · rintro ⟨list, hfind, cond, hmem, hne, rfl⟩
    obtain ⟨row, hrow, hnegative, hid, haccepted⟩ := mem_template.mp ⟨list, hfind, hmem⟩
    exact ⟨row, hrow, hnegative, hid, (refersTo_of_accepted haccepted hne).1⟩
  · rintro ⟨row, hrow, hnegative, hid, hrefers⟩
    obtain ⟨haccepted, hother, hne⟩ := hrefers.accepted data
    obtain ⟨list, hfind, hmem⟩ := mem_template.mpr ⟨row, hrow, hnegative, hid, haccepted⟩
    exact ⟨list, hfind, _, hmem, hother ▸ hne, hother⟩

/-! ### The exact tables -/

theorem acyclic_iff_ranked : Acyclic (Refers (loadConditions data rows).referenceStore) ↔
    ∃ rank : Nat → Nat, ∀ row ∈ rows, row.sourceTypeOrReferenceId < 0 → ∀ other,
      row.RefersTo other → rank other < rank row.sourceTypeOrReferenceId.natAbs := by
  classical
  let targets := (rows.map fun row => row.conditionTypeOrReference.natAbs).toFinset
  have hfin : ∀ refId other, Refers (loadConditions data rows).referenceStore refId other →
      other ∈ targets := by
    intro refId other hlink
    obtain ⟨row, hrow, -, -, -, -, rfl⟩ := refers_iff.mp hlink
    exact List.mem_toFinset.mpr (List.mem_map_of_mem hrow)
  rw [Acyclic.iff_exists_rank targets hfin]
  apply exists_congr
  intro rank
  constructor
  · intro hrank row hrow hnegative other hrefers
    exact hrank _ _ (refers_iff.mpr ⟨row, hrow, hnegative, rfl, hrefers⟩)
  · intro hrank refId other hlink
    obtain ⟨row, hrow, hnegative, rfl, hrefers⟩ := refers_iff.mp hlink
    exact hrank row hrow hnegative other hrefers

/-- The references are well founded after the load of exactly these tables. -/
theorem wellFounded_iff (data : GameData) (rows : List ConditionRow) :
    WellFounded (loadConditions data rows) ↔ WellReferenced data rows := by
  constructor
  · intro h
    refine ⟨?_, ?_, acyclic_iff_ranked.mp h.acyclic⟩
    · intro before row after refId hrows hrefers hsource htakes
      obtain ⟨haccepted, hreference, hne⟩ := hrefers.accepted data
      have hstored : (row.toCondition .none).clearErrors ∈ (loadConditions data rows).stored := by
        apply mem_stored.mpr
        refine ⟨before, row, after, hrows, hsource, _, haccepted, ?_, rfl⟩
        rwa [decide_eq_true hrefers.1]
      have hsame : (row.toCondition .none).clearErrors.referenceId = refId := hreference
      have hnamed := h.stored _ hstored (hsame ▸ hne)
      rw [hsame] at hnamed
      exact contains_template.mp hnamed
    · intro row hrow hnegative refId hrefers
      obtain ⟨haccepted, hreference, hne⟩ := hrefers.accepted data
      obtain ⟨list, hfind, hmem⟩ := mem_template.mpr ⟨row, hrow, hnegative, rfl, haccepted⟩
      have hnamed := h.templates _ list hfind _ hmem (hreference ▸ hne)
      rw [hreference] at hnamed
      exact contains_template.mp hnamed
  · intro h
    have hloaded := accepted_loadConditions data rows
    have hacyclic : Acyclic (Refers (loadConditions data rows).referenceStore) :=
      acyclic_iff_ranked.mpr h.ranked
    have hstored : ReferencesExist (loadConditions data rows).referenceStore
        (loadConditions data rows).stored := by
      intro cond hmem hreference
      obtain ⟨before, row, after, hrows, hsource, added, haccepted, htakes, rfl⟩ :=
        mem_stored.mp hmem
      obtain ⟨hrefers, hadded⟩ := refersTo_of_accepted haccepted hreference
      rw [decide_eq_true hrefers.1, hadded] at htakes
      exact contains_template.mpr (h.stored before row after _ hrows hrefers hsource htakes)
    have htemplates : TemplatesExist (loadConditions data rows).referenceStore := by
      intro refId list hfind cond hmem hreference
      obtain ⟨row, hrow, hnegative, -, haccepted⟩ := mem_template.mp ⟨list, hfind, hmem⟩
      obtain ⟨hrefers, -⟩ := refersTo_of_accepted haccepted hreference
      exact contains_template.mpr (h.templates row hrow hnegative _ hrefers)
    refine ⟨hstored, htemplates, hacyclic, ?_, ?_⟩
    · intro world sourceInfo conditions hmem
      obtain ⟨met, hmet, -⟩ := returns_meetList world sourceInfo hacyclic hloaded.templates
        fun cond hin => hloaded.stored cond (hmem cond hin)
      exact ⟨met, hmet⟩
    · intro conditions hmem
      obtain ⟨mask, hmask, -⟩ := returns_mask hacyclic hloaded.templates htemplates
        (fun cond hin => hloaded.stored cond (hmem cond hin))
        fun cond hin => hstored cond (hmem cond hin)
      exact ⟨mask, hmask⟩

/-! ### Two templates that refer to each other -/

/-- Both rows are accepted, and a spell refers to one of the templates. -/
def circularRows : List ConditionRow := [plainRow (-1) (-2), plainRow (-2) (-1), plainRow 17 (-1)]

def circularStore : ReferenceStore :=
  (OrderedMap.empty.insert 1 [(plainRow (-1) (-2)).toCondition .none]).insert 2
    [(plainRow (-2) (-1)).toCondition .none]

/-- A list of one reference fails when its template does. -/
theorem outOfFuel_of_template {world : World} {store : ReferenceStore}
    {sourceInfo : ConditionSourceInfo} {depth : Nat} {list : List Condition}
    (hreference : cond.referenceId ≠ 0) (hfind : store.find? cond.referenceId = some list)
    (h : isObjectMeetToConditionList world store sourceInfo depth list = .error .outOfFuel) :
    isObjectMeetToConditionList world store sourceInfo (depth + 1) [cond] =
      .error .outOfFuel := by
  have hloaded : ¬ cond.isLoaded = false := by
    simp [Condition.isLoaded, hreference]
  rw [isObjectMeetToConditionList, List.foldlM_cons, meetElseGroup, if_neg hloaded]
  dsimp only
  rw [if_neg (fun heq => by cases heq), if_pos hreference, hfind]
  dsimp only
  rw [h]
  rfl

/-- The evaluation of a reference into the cycle never ends. -/
theorem circular_outOfFuel (world : World) (sourceInfo : ConditionSourceInfo) (depth : Nat) :
    isObjectMeetToConditionList world circularStore sourceInfo depth
        [(plainRow (-1) (-2)).toCondition .none] = .error .outOfFuel ∧
      isObjectMeetToConditionList world circularStore sourceInfo depth
        [(plainRow (-2) (-1)).toCondition .none] = .error .outOfFuel := by
  induction depth with
  | zero => exact ⟨rfl, rfl⟩
  | succ depth ih =>
    exact ⟨outOfFuel_of_template two_ne_zero rfl ih.2, outOfFuel_of_template one_ne_zero rfl ih.1⟩

/-- Two templates that refer to each other are loaded: the references have a cycle, and the
evaluation of a stored condition never ends. -/
theorem circularRows_notWellFounded :
    ¬ WellFounded (loadConditions fullData circularRows) ∧
      livingReference ∈ (loadConditions fullData circularRows).stored ∧
      ∀ depth, isObjectMeetToConditionList quietWorld
        (loadConditions fullData circularRows).referenceStore { target0 := none } (depth + 1)
        [livingReference] = .error .outOfFuel := by
  refine ⟨fun h => ?_, List.mem_singleton_self _, fun depth => ?_⟩
  · have hfirst : Refers (loadConditions fullData circularRows).referenceStore 1 2 :=
      ⟨_, rfl, _, List.mem_singleton_self _, two_ne_zero, rfl⟩
    have hsecond : Refers (loadConditions fullData circularRows).referenceStore 2 1 :=
      ⟨_, rfl, _, List.mem_singleton_self _, one_ne_zero, rfl⟩
    exact h.acyclic 1 (.tail (.single hfirst) hsecond)
  · exact outOfFuel_of_template one_ne_zero rfl
      (circular_outOfFuel quietWorld { target0 := none } depth).1

end Cataclysm.Conditions
