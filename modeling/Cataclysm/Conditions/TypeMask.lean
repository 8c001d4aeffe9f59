import Cataclysm.Conditions.ElseGroups

/-!
# The types that a search for a list of conditions visits

The mask of a list is computed by a switch of its own, with all types for a negated condition, the
intersection within an else group and the union over the groups. A type that is not in the mask is
not visited. So an object that meets the list must have its type in the mask: each kind of
condition lets through no type that its case of the switch leaves out, given what the load accepts.
-/

namespace Cataclysm.Conditions

open GroupedAll

variable {world : World} {store : ReferenceStore} {sourceInfo : ConditionSourceInfo}
  {data : GameData} {conditions : List Condition} {cond : Condition} {object : WorldObject}

/-! ### One condition -/

theorem testBit_all (typeId : TypeId) : gridMapTypeMaskAll.testBit typeId.gridMapType = true := by
  cases typeId <;> rfl

theorem testBit_units {unit : WorldObject} (h : object.toUnit = some unit) :
    (gridMapTypeMaskCreature ||| gridMapTypeMaskPlayer).testBit object.typeId.gridMapType = true := by
  rw [WorldObject.toUnit, WorldObject.isType] at h
  cases htype : object.typeId with
  | unit => rfl
  | player => rfl
  | _ => simp [htype, TypeId.objectType, typeMaskUnit] at h

theorem testBit_player {player : WorldObject} (h : object.toPlayer = some player) :
    gridMapTypeMaskPlayer.testBit object.typeId.gridMapType = true := by
  rw [WorldObject.toPlayer] at h
  split at h
  · next hplayer =>
      rw [hplayer]
      rfl
  · cases h

/-- An accepted type mask lets through no type that is not searched. -/
theorem testBit_typeMaskSearched {mask : Nat} (haccepted : mask &&& askedTypeMask = mask)
    (h : object.isType mask = true) :
    (Condition.typeMaskSearched mask).testBit object.typeId.gridMapType = true := by
  have hlt : mask < 256 := by
    have hle : mask &&& askedTypeMask ≤ askedTypeMask := Nat.and_le_right
    rw [haccepted] at hle
    exact lt_of_le_of_lt hle (by decide)
  rw [WorldObject.isType] at h
  revert haccepted h
  generalize object.typeId = typeId
  revert mask
  cases typeId <;> decide +kernel

theorem typeMeets_askUnit {question : WorldObject → Bool}
    (h : Condition.askUnit object question = .ok true) : ∃ unit, object.toUnit = some unit := by
  rw [Condition.askUnit] at h
  obtain ⟨unit, hunit, -⟩ := (Option.any_eq_true _ _).mp (Except.ok.inj h)
  exact ⟨unit, hunit⟩

theorem typeMeets_askPlayer {question : WorldObject → Bool}
    (h : Condition.askPlayer object question = .ok true) :
    ∃ player, object.toPlayer = some player := by
  rw [Condition.askPlayer] at h
  obtain ⟨player, hplayer, -⟩ := (Option.any_eq_true _ _).mp (Except.ok.inj h)
  exact ⟨player, hplayer⟩

/-- Two units are in a relation. -/
theorem isUnit_of_related {toObject : Option WorldObject} {related : WorldObject → WorldObject → Bool}
    (h : (toObject.any fun toObject => toObject.toUnit.any fun toUnit =>
      object.toUnit.any fun unit => related unit toUnit) = true) :
    ∃ unit, object.toUnit = some unit := by
  obtain ⟨_, -, h⟩ := (Option.any_eq_true _ _).mp h
  obtain ⟨_, -, h⟩ := (Option.any_eq_true _ _).mp h
  obtain ⟨unit, hunit, -⟩ := (Option.any_eq_true _ _).mp h
  exact ⟨unit, hunit⟩

/-- What comes after a successful read. -/
theorem exists_of_bind {T U : Type} {x : Except ConditionError T}
    {f : T → Except ConditionError U} {result : U} (h : x >>= f = .ok result) :
    ∃ value, x = .ok value ∧ f value = .ok result := by
  cases x with
  | error e => cases h
  | ok value => exact ⟨value, rfl, h⟩

/-- The type of an object that meets an accepted condition, before it is negated, is searched. -/
theorem testBit_of_typeMeets (hvalid : isTypeValid data cond = true)
    (hpositive : cond.negativeCondition = false)
    (hmet : cond.typeMeets world sourceInfo object = .ok true) :
    ∃ mask, cond.getSearcherTypeMaskForCondition = .ok mask ∧
      mask.testBit object.typeId.gridMapType = true := by
  rw [Condition.getSearcherTypeMaskForCondition, if_neg (ne_true_of_eq_false hpositive)]
  rw [Condition.typeMeets] at hmet
  rw [isTypeValid] at hvalid
  cases hkind : cond.conditionType with
  | unused24 =>
    rw [hkind] at hvalid
    exact absurd hvalid Bool.false_ne_true
  | none | zoneId | activeEvent | instanceInfo | mapId | areaId | nearCreature | nearGameObject
  | distanceTo | worldState | phaseMask | spawnMask =>
    exact ⟨_, rfl, testBit_all object.typeId⟩
  | aura | charClass | charRace | alive | unitState =>
    rw [hkind] at hmet
    obtain ⟨unit, hunit⟩ := typeMeets_askUnit hmet
    exact ⟨_, rfl, testBit_units hunit⟩
  | level | hpVal | hpPct =>
    rw [hkind] at hmet
    cases hunit : object.toUnit with
    | none =>
      rw [hunit] at hmet
      exact absurd (Except.ok.inj hmet) Bool.false_ne_true
    | some unit => exact ⟨_, rfl, testBit_units hunit⟩
  | relationTo | reactionTo =>
    rw [hkind] at hmet
    obtain ⟨toObject, -, hrelated⟩ := exists_of_bind hmet
    obtain ⟨unit, hunit⟩ := isUnit_of_related (Except.ok.inj hrelated)
    exact ⟨_, rfl, testBit_units hunit⟩
  | itemEquipped | reputationRank | achievement | team | skill | questRewarded | questTaken
  | questComplete | questNone | spell | drunkenState | title | gender =>
    rw [hkind] at hmet
    obtain ⟨player, hplayer⟩ := typeMeets_askPlayer hmet
    exact ⟨_, rfl, testBit_player hplayer⟩
  | item =>
    rw [hkind] at hmet
    cases hplayer : object.toPlayer with
    | none =>
      rw [hplayer] at hmet
      exact absurd (Except.ok.inj hmet) Bool.false_ne_true
    | some player => exact ⟨_, rfl, testBit_player hplayer⟩
  | objectEntry =>
    rw [hkind] at hmet
    have hboth := Except.ok.inj hmet
    rw [Bool.and_eq_true, beq_iff_eq] at hboth
    refine ⟨_, rfl, ?_⟩
    rw [Nat.testBit_or, ← hboth.1]
    rw [hkind, ← hboth.1] at hvalid
    apply Bool.or_eq_true_iff.mpr
    apply Or.inl
    cases htype : object.typeId with
    | dynamicObject =>
      rw [htype] at hvalid
      exact absurd hvalid Bool.false_ne_true
    | _ => rfl
  | typeMask =>
    rw [hkind] at hmet hvalid
    rw [Bool.and_eq_true, beq_iff_eq] at hvalid
    exact ⟨_, rfl, testBit_typeMaskSearched hvalid.2 (Except.ok.inj hmet)⟩

/-- An accepted condition has a mask. -/
theorem exists_mask (hvalid : isTypeValid data cond = true) :
    ∃ mask, cond.getSearcherTypeMaskForCondition = .ok mask := by
  rw [Condition.getSearcherTypeMaskForCondition]
  split
  · exact ⟨_, rfl⟩
  · rw [isTypeValid] at hvalid
    cases hkind : cond.conditionType with
    | unused24 =>
      rw [hkind] at hvalid
      exact absurd hvalid Bool.false_ne_true
    | _ => exact ⟨_, rfl⟩

/-- The object is the only target. -/
def ConditionSourceInfo.ofObject (object : WorldObject) : ConditionSourceInfo where
  target0 := some object

theorem testBit_of_meets (hvalid : isConditionTypeValid data cond = true)
    (hmet : cond.meets world (.ofObject object) = .ok true) :
    ∃ mask, cond.getSearcherTypeMaskForCondition = .ok mask ∧
      mask.testBit object.typeId.gridMapType = true := by
  rw [isConditionTypeValid, Bool.and_eq_true] at hvalid
  cases hnegative : cond.negativeCondition with
  | true =>
    refine ⟨gridMapTypeMaskAll, ?_, testBit_all object.typeId⟩
    rw [Condition.getSearcherTypeMaskForCondition, if_pos hnegative]
  | false =>
    rw [Condition.meets] at hmet
    split at hmet
    · cases hmet
    · obtain ⟨target, hread, hasked⟩ := exists_of_bind hmet
      have htarget : target = none ∨ target = some object := by
        revert hread
        generalize cond.conditionTarget = i
        intro hread
        rcases i with _ | _ | _ | i
        · exact Or.inr (Except.ok.inj hread).symm
        · exact Or.inl (Except.ok.inj hread).symm
        · exact Or.inl (Except.ok.inj hread).symm
        · cases hread
      obtain rfl | rfl := htarget
      · exact absurd (Except.ok.inj hasked) Bool.false_ne_true
      · obtain ⟨typeMet, htypeMeets, hresult⟩ := exists_of_bind hasked
        have hboth := Except.ok.inj hresult
        rw [hnegative, if_neg Bool.false_ne_true, Bool.and_eq_true] at hboth
        rw [hboth.1] at htypeMeets
        exact testBit_of_typeMeets hvalid.2 hnegative htypeMeets

/-! ### A list -/

section

variable {searchList : List Condition → Except ConditionError Nat} {groups : OrderedMap Nat Nat}
  {bit : Nat}

/-- A type is in the mask of a condition, of a reference in that of its template. -/
def HasBit (store : ReferenceStore) (searchList : List Condition → Except ConditionError Nat)
    (bit : Nat) (cond : Condition) : Prop :=
  (cond.referenceId = 0 → ∃ mask, cond.getSearcherTypeMaskForCondition = .ok mask ∧
      mask.testBit bit = true) ∧
    (cond.referenceId ≠ 0 → ∃ list mask, store.find? cond.referenceId = some list ∧
      searchList list = .ok mask ∧ mask.testBit bit = true)

theorem joins_insert_mask (hbit : gridMapTypeMaskAll.testBit bit = true) {mask : Nat}
    (hmask : mask.testBit bit = true ↔ HasBit store searchList bit cond) :
    Joins Condition.elseGroup (HasBit store searchList bit) (fun v => v.testBit bit = true) groups
      (groups.insert cond.elseGroup
        ((groups.find? cond.elseGroup).getD gridMapTypeMaskAll &&& mask)) cond := by
  refine ⟨fun g hne => ?_, _, OrderedMap.find?_insert_self .., ?_⟩
  · rw [OrderedMap.find?_insert, if_neg hne]
  · rw [Nat.testBit_and, Bool.and_eq_true, hmask]
    refine and_congr_left fun _ => ?_
    cases hfind : groups.find? cond.elseGroup with
    | none => exact iff_of_true hbit nofun
    | some old => simp

/-- One round of the loop joins the mask of the condition to that of its group. -/
theorem searchElseGroup_spec (hbit : gridMapTypeMaskAll.testBit bit = true)
    (haccepted : IsAccepted data cond)
    (hlist : cond.referenceId ≠ 0 → ∃ list mask, store.find? cond.referenceId = some list ∧
      searchList list = .ok mask) :
    ∃ groups', searchElseGroup store searchList groups cond = .ok groups' ∧
      Joins Condition.elseGroup (HasBit store searchList bit) (fun v => v.testBit bit = true) groups
        groups' cond := by
  have hloaded : ¬ cond.isLoaded = false := ne_false_of_eq_true (isLoaded_of_accepted haccepted)
  rw [searchElseGroup, if_neg hloaded]
  dsimp only
  by_cases hempty : (groups.find? cond.elseGroup).getD gridMapTypeMaskAll = 0
  · rw [if_pos hempty]
    have hfind : groups.find? cond.elseGroup = some 0 := by
      cases hfind : groups.find? cond.elseGroup with
      | none =>
        rw [hfind] at hempty
        cases hempty
      | some old =>
        rw [hfind] at hempty
        exact congrArg some hempty
    refine ⟨groups, rfl, fun _ _ => rfl, 0, hfind, ?_⟩
    have hzero : ¬ (0 : Nat).testBit bit = true := by simp
    exact iff_of_false hzero fun h => hzero (h.1 0 hfind)
  rw [if_neg hempty]
  by_cases hreference : cond.referenceId = 0
  · obtain hne | hvalid := haccepted
    · exact absurd hreference hne
    rw [isConditionTypeValid, Bool.and_eq_true] at hvalid
    obtain ⟨mask, hmask⟩ := exists_mask hvalid.2
    refine ⟨groups.insert cond.elseGroup
      ((groups.find? cond.elseGroup).getD gridMapTypeMaskAll &&& mask), ?_,
      joins_insert_mask hbit ?_⟩
    · rw [if_neg (not_not.mpr hreference), hmask]
      rfl
    · simp [HasBit, hreference, hmask]
  · rw [if_pos hreference]
    obtain ⟨list, mask, hfind, hmask⟩ := hlist hreference
    refine ⟨groups.insert cond.elseGroup
      ((groups.find? cond.elseGroup).getD gridMapTypeMaskAll &&& mask), ?_,
      joins_insert_mask hbit ?_⟩
    · rw [hfind]
      dsimp only
      rw [hmask]
      rfl
    · simp [HasBit, hreference, hfind, hmask]

theorem testBit_foldl_or (entries : List (Nat × Nat)) (start : Nat) :
    (entries.foldl (fun mask e => mask ||| e.2) start).testBit bit = true ↔
      start.testBit bit = true ∨ ∃ e ∈ entries, e.2.testBit bit = true := by
  induction entries generalizing start with
  | nil => simp
  | cons e rest ih =>
    rw [List.foldl_cons, ih, Nat.testBit_or, Bool.or_eq_true, or_assoc]
    simp only [List.mem_cons, exists_eq_or_imp]

end

/-- The templates refer to templates. -/
def TemplatesExist (store : ReferenceStore) : Prop :=
  ∀ refId list, store.find? refId = some list → ReferencesExist store list

/-- With enough depth for the references there is a mask, and it has the type of every object that
meets the list. -/
theorem getSearcherTypeMaskForConditionList_spec {rank : Nat → Nat}
    (hrank : ∀ refId other, Refers store refId other → rank other < rank refId)
    (htemplates : TemplatesAccepted data store) (htemplatesExist : TemplatesExist store)
    {depth height : Nat} (hdepth : height < depth)
    (haccepted : ∀ cond ∈ conditions, IsAccepted data cond)
    (hexist : ReferencesExist store conditions)
    (hheight : ∀ cond ∈ conditions, cond.referenceId ≠ 0 → rank cond.referenceId < height) :
    ∃ mask, getSearcherTypeMaskForConditionList store depth conditions = .ok mask ∧
      ∀ world object, ListMet world store (.ofObject object) conditions →
        mask.testBit object.typeId.gridMapType = true := by
  induction depth generalizing height conditions with
  | zero => exact absurd hdepth (Nat.not_lt_zero height)
  | succ depth ih =>
    rw [getSearcherTypeMaskForConditionList]
    split
    · exact ⟨gridMapTypeMaskAll, rfl, fun _ object _ => testBit_all object.typeId⟩
    have hlist : ∀ cond ∈ conditions, cond.referenceId ≠ 0 → ∃ list mask,
        store.find? cond.referenceId = some list ∧
        getSearcherTypeMaskForConditionList store depth list = .ok mask ∧
        ∀ world object, ListMet world store (.ofObject object) list →
          mask.testBit object.typeId.gridMapType = true := by
      intro cond hmem hreference
      obtain ⟨list, hfind⟩ := Option.isSome_iff_exists.mp (hexist cond hmem hreference)
      have hlower := hheight cond hmem hreference
      obtain ⟨mask, hmask, hsound⟩ := ih (show rank cond.referenceId < depth by omega)
        (htemplates _ list hfind) (htemplatesExist _ list hfind)
        fun other hother hne => hrank _ _ ⟨list, hfind, other, hother, hne, rfl⟩
      exact ⟨list, mask, hfind, hmask, hsound⟩
    have hround : ∀ typeId : TypeId, ∀ groups, ∀ cond ∈ conditions, ∃ groups',
        searchElseGroup store (getSearcherTypeMaskForConditionList store depth) groups cond =
          .ok groups' ∧
        Joins Condition.elseGroup
          (HasBit store (getSearcherTypeMaskForConditionList store depth) typeId.gridMapType)
          (fun v => v.testBit typeId.gridMapType = true) groups groups' cond := by
      intro typeId groups cond hmem
      apply searchElseGroup_spec (testBit_all typeId) (haccepted cond hmem)
      intro hreference
      obtain ⟨list, mask, hfind, hmask, -⟩ := hlist cond hmem hreference
      exact ⟨list, mask, hfind, hmask⟩
    obtain ⟨groups, hrun, -⟩ := tracks_foldlM tracks_nil (hround .unit)
    refine ⟨_, congrArg (fun run => run >>= _) hrun, fun world object hmet => ?_⟩
    obtain ⟨groups', hrun', htracks⟩ := tracks_foldlM tracks_nil (hround object.typeId)
    obtain rfl := Except.ok.inj (hrun.symm.trans hrun')
    rw [List.nil_append] at htracks
    apply (testBit_foldl_or _ _).mpr
    apply Or.inr
    apply htracks.exists_iff.mpr
    apply (listMet_iff.mp hmet).mono
    intro cond hmem hcondition
    constructor
    · intro hplain
      have hvalid := (haccepted cond hmem).resolve_left (not_not.mpr hplain)
      exact testBit_of_meets hvalid (hcondition.1 hplain)
    · intro hreference
      obtain ⟨list, mask, hfind, hmask, hsound⟩ := hlist cond hmem hreference
      exact ⟨list, mask, hfind, hmask,
        hsound world object (hcondition.2 hreference list hfind)⟩

/-! ### More depth changes nothing -/

theorem foldlM_mono {S A E : Type} {f g : S → A → Except E S}
    (hfg : ∀ s a s', f s a = .ok s' → g s a = .ok s') {actions : List A} {s s' : S}
    (h : actions.foldlM f s = .ok s') : actions.foldlM g s = .ok s' := by
  induction actions generalizing s with
  | nil => exact h
  | cons a rest ih =>
    rw [List.foldlM_cons] at h ⊢
    cases hnext : f s a with
    | error e =>
      rw [hnext] at h
      cases h
    | ok next =>
      rw [hnext] at h
      rw [hfg s a next hnext]
      exact ih h

theorem searchElseGroup_mono {searchList searchList' : List Condition → Except ConditionError Nat}
    (hsearch : ∀ list mask, searchList list = .ok mask → searchList' list = .ok mask)
    {groups groups' : OrderedMap Nat Nat}
    (h : searchElseGroup store searchList groups cond = .ok groups') :
    searchElseGroup store searchList' groups cond = .ok groups' := by
  rw [searchElseGroup] at h ⊢
  dsimp only at h ⊢
  split_ifs at h ⊢ with hloaded hempty hreference
  · exact h
  · cases hfind : store.find? cond.referenceId with
    | none =>
      rw [hfind] at h
      cases h
    | some list =>
      rw [hfind] at h
      obtain ⟨mask, hmask, hresult⟩ := exists_of_bind h
      dsimp only
      rw [hsearch list mask hmask]
      exact hresult
  · exact h

theorem getSearcherTypeMaskForConditionList_succ {depth mask : Nat}
    (h : getSearcherTypeMaskForConditionList store depth conditions = .ok mask) :
    getSearcherTypeMaskForConditionList store (depth + 1) conditions = .ok mask := by
  induction depth generalizing conditions mask with
  | zero => cases h
  | succ depth ih =>
    rw [getSearcherTypeMaskForConditionList] at h ⊢
    split_ifs at h ⊢ with hnil
    · exact h
    · obtain ⟨groups, hrun, hmask⟩ := exists_of_bind h
      have hmore := foldlM_mono (fun _ _ _ => searchElseGroup_mono fun _ _ => ih) hrun
      rw [hmore]
      exact hmask

theorem getSearcherTypeMaskForConditionList_mono {depth more mask : Nat} (hle : depth ≤ more)
    (h : getSearcherTypeMaskForConditionList store depth conditions = .ok mask) :
    getSearcherTypeMaskForConditionList store more conditions = .ok mask := by
  induction hle with
  | refl => exact h
  | step _ ih => exact getSearcherTypeMaskForConditionList_succ ih

theorem returns_mask (hacyclic : Acyclic (Refers store))
    (htemplates : TemplatesAccepted data store) (htemplatesExist : TemplatesExist store)
    (haccepted : ∀ cond ∈ conditions, IsAccepted data cond)
    (hexist : ReferencesExist store conditions) :
    ∃ mask, Returns (fun depth => getSearcherTypeMaskForConditionList store depth conditions)
        mask ∧
      ∀ world object, ListMet world store (.ofObject object) conditions →
        mask.testBit object.typeId.gridMapType = true := by
  obtain ⟨rank, hrank⟩ := exists_rank hacyclic
  obtain ⟨height, hheight⟩ := exists_height rank conditions
  obtain ⟨mask, hmask, hsound⟩ := getSearcherTypeMaskForConditionList_spec hrank htemplates
    htemplatesExist (Nat.lt_succ_self height) haccepted hexist fun cond hmem _ => hheight cond hmem
  exact ⟨mask, ⟨height + 1, fun _ hle => getSearcherTypeMaskForConditionList_mono hle hmask⟩,
    hsound⟩

/-- A list of loaded conditions has a mask, and it has the type of every object for which the list
is met. -/
theorem searcherTypeMask_sound (data : GameData) (rows : List ConditionRow)
    (conditions : List Condition)
    (hstored : ∀ cond ∈ conditions, cond ∈ (loadConditions data rows).stored)
    (hexist : ReferencesExist (loadConditions data rows).referenceStore conditions)
    (htemplatesExist : TemplatesExist (loadConditions data rows).referenceStore)
    (hacyclic : Acyclic (Refers (loadConditions data rows).referenceStore)) :
    ∃ mask, Returns (fun depth => getSearcherTypeMaskForConditionList
        (loadConditions data rows).referenceStore depth conditions) mask ∧
      ∀ world object, Returns (fun depth => isObjectMeetToConditions world
          (loadConditions data rows).referenceStore (.ofObject object) depth conditions) true →
        mask.testBit object.typeId.gridMapType = true := by
  have hloaded := accepted_loadConditions data rows
  have haccepted : ∀ cond ∈ conditions, IsAccepted data cond :=
    fun cond hmem => hloaded.stored cond (hstored cond hmem)
  obtain ⟨mask, hmask, hsound⟩ := returns_mask hacyclic hloaded.templates htemplatesExist
    haccepted hexist
  refine ⟨mask, hmask, fun world object hmet => ?_⟩
  obtain hnil | hne := eq_or_ne conditions []
  · -- nothing is asked, and everything is searched
    have hall : Returns (fun depth => getSearcherTypeMaskForConditionList
        (loadConditions data rows).referenceStore depth conditions) gridMapTypeMaskAll := by
      refine ⟨1, fun depth hdepth => ?_⟩
      obtain ⟨depth, rfl⟩ := Nat.exists_eq_add_of_le' hdepth
      dsimp only
      rw [getSearcherTypeMaskForConditionList, if_pos hnil]
    rw [hmask.unique hall]
    exact testBit_all object.typeId
  · obtain ⟨met, hreturns, hiff⟩ := returns_meets world (.ofObject object) hacyclic
      hloaded.templates haccepted hne
    exact hsound world object (hiff.mp (hreturns.unique hmet))

/-- A list of one reference, which the loader accepts. -/
theorem searcherTypeMask_livingRows :
    ∃ mask, Returns (fun depth => getSearcherTypeMaskForConditionList
        (loadConditions fullData livingRows).referenceStore depth [livingReference]) mask ∧
      ∀ world object, Returns (fun depth => isObjectMeetToConditions world
          (loadConditions fullData livingRows).referenceStore (.ofObject object) depth
          [livingReference]) true →
        mask.testBit object.typeId.gridMapType = true :=
  searcherTypeMask_sound fullData livingRows [livingReference] (fun _ hmem => hmem)
    (fun _ hmem _ => List.mem_singleton.mp hmem ▸ rfl)
    (fun _ _ hfind cond hmem hne => by
      obtain ⟨-, rfl⟩ := find?_living hfind
      rw [List.mem_singleton.mp hmem] at hne
      exact absurd rfl hne)
    acyclic_living

end Cataclysm.Conditions
