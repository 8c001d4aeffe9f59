import Cataclysm.Reputation.Counters

/-!
# Saved reputations

The rows of a player are replayed over the initial states when they are loaded. The replay can make
a faction visible, inactive or at war, and it can end a war with a visible faction; it declares war
on a faction whose rank is hostile. So a state is restored unless an inactive flag or a war was
taken away that the replay gives back.

## Implementation notes

What a request can make of the flags of one faction is described relative to its default flags. A
row is found again by the id of its faction, which fits the column.
-/

namespace Cataclysm.Reputation

variable {F : Type*} {realm : Realm F}

namespace ReputationMgr

/-! ### Flags that requests can make -/

variable {default : BitVec 8} {state : FactionState}

/-- The default flags let the faction be made visible. -/
def canBeShown (flags : BitVec 8) : Bool := !isHidden flags || hasFlag flags .special

/-- What requests make of the default flags. -/
structure Descends (default flags : BitVec 8) : Prop where
  hidden : hasFlag flags .hidden = hasFlag default .hidden
  invisibleForced : hasFlag flags .invisibleForced = hasFlag default .invisibleForced
  peaceForced : hasFlag flags .peaceForced = hasFlag default .peaceForced
  rival : hasFlag flags .rival = hasFlag default .rival
  special : hasFlag flags .special = hasFlag default .special
  staysVisible : hasFlag default .visible = true → hasFlag flags .visible = true
  visible : hasFlag flags .visible = true →
    hasFlag default .visible = true ∨ canBeShown default = true
  inactive : hasFlag flags .inactive = true → hasFlag default .inactive = true ∨
    (isHidden default = false ∧ hasFlag flags .visible = true)
  atWar : hasFlag flags .atWar = true →
    hasFlag default .atWar = true ∨ hasFlag default .peaceForced = false

theorem Descends.refl (default : BitVec 8) : Descends default default :=
  ⟨rfl, rfl, rfl, rfl, rfl, id, .inl, .inl, .inl⟩

theorem Descends.isHidden {flags : BitVec 8} (h : Descends default flags) :
    isHidden flags = isHidden default := by
  unfold Reputation.isHidden
  rw [h.hidden, h.invisibleForced]

theorem Descends.madeVisible {shown : FactionState} (h : Descends default state.flags)
    (hshown : madeVisible state = some shown) : Descends default shown.flags := by
  unfold ReputationMgr.madeVisible at hshown
  split at hshown
  · cases hshown
  · next hallowed =>
      split at hshown
      · cases hshown
      · obtain rfl := Option.some.inj hshown
        have hcan : canBeShown default = true := by
          rw [h.isHidden, h.special] at hallowed
          unfold canBeShown
          cases hhid : Reputation.isHidden default with
          | false => rfl
          | true =>
            have hspecial : hasFlag default .special ≠ false := fun hno => hallowed ⟨hhid, hno⟩
            rw [Bool.eq_true_of_not_eq_false hspecial]
            rfl
        constructor
        · simpa [hasFlag_setFlag] using h.hidden
        · simpa [hasFlag_setFlag] using h.invisibleForced
        · simpa [hasFlag_setFlag] using h.peaceForced
        · simpa [hasFlag_setFlag] using h.rival
        · simpa [hasFlag_setFlag] using h.special
        · simp [hasFlag_setFlag]
        · exact fun _ => .inr hcan
        · intro hinactive
          rw [hasFlag_setFlag] at hinactive
          rcases h.inactive (by simpa using hinactive) with hdefault | ⟨hhid, -⟩
          · exact .inl hdefault
          · exact .inr ⟨hhid, by simp [hasFlag_setFlag]⟩
        · simpa [hasFlag_setFlag] using h.atWar

theorem Descends.stateAtWar (h : Descends default state.flags) (atWar : Bool) :
    Descends default (stateAtWar state atWar).flags := by
  unfold ReputationMgr.stateAtWar
  split
  · exact h
  · next hallowed =>
      split
      · exact h
      · cases atWar with
        | true =>
          have hpeace : hasFlag default .peaceForced = false := by
            rw [← h.peaceForced]
            exact Bool.eq_false_iff.mpr fun hforced => hallowed ⟨rfl, hforced⟩
          constructor
          · simpa [hasFlag_setFlag] using h.hidden
          · simpa [hasFlag_setFlag] using h.invisibleForced
          · simpa [hasFlag_setFlag] using h.peaceForced
          · simpa [hasFlag_setFlag] using h.rival
          · simpa [hasFlag_setFlag] using h.special
          · simpa [hasFlag_setFlag] using h.staysVisible
          · simpa [hasFlag_setFlag] using h.visible
          · simpa [hasFlag_setFlag] using h.inactive
          · exact fun _ => .inr hpeace
        | false =>
          constructor
          · simpa [hasFlag_clearFlag] using h.hidden
          · simpa [hasFlag_clearFlag] using h.invisibleForced
          · simpa [hasFlag_clearFlag] using h.peaceForced
          · simpa [hasFlag_clearFlag] using h.rival
          · simpa [hasFlag_clearFlag] using h.special
          · simpa [hasFlag_clearFlag] using h.staysVisible
          · simpa [hasFlag_clearFlag] using h.visible
          · simpa [hasFlag_clearFlag] using h.inactive
          · simp [hasFlag_clearFlag]

theorem Descends.stateInactive (h : Descends default state.flags) (inactive : Bool) :
    Descends default (stateInactive state inactive).flags := by
  unfold ReputationMgr.stateInactive
  split
  · exact h
  · next hallowed =>
      split
      · exact h
      · cases inactive with
        | true =>
          have hshown : Reputation.isHidden default = false ∧
              hasFlag state.flags .visible = true := by
            rw [← h.isHidden]
            constructor
            · exact Bool.eq_false_iff.mpr fun hhid => hallowed ⟨rfl, .inl hhid⟩
            · exact Bool.eq_true_of_not_eq_false fun hnot => hallowed ⟨rfl, .inr hnot⟩
          constructor
          · simpa [hasFlag_setFlag] using h.hidden
          · simpa [hasFlag_setFlag] using h.invisibleForced
          · simpa [hasFlag_setFlag] using h.peaceForced
          · simpa [hasFlag_setFlag] using h.rival
          · simpa [hasFlag_setFlag] using h.special
          · simpa [hasFlag_setFlag] using h.staysVisible
          · simpa [hasFlag_setFlag] using h.visible
          · exact fun _ => .inr ⟨hshown.1, by simpa [hasFlag_setFlag] using hshown.2⟩
          · simpa [hasFlag_setFlag] using h.atWar
        | false =>
          constructor
          · simpa [hasFlag_clearFlag] using h.hidden
          · simpa [hasFlag_clearFlag] using h.invisibleForced
          · simpa [hasFlag_clearFlag] using h.peaceForced
          · simpa [hasFlag_clearFlag] using h.rival
          · simpa [hasFlag_clearFlag] using h.special
          · simpa [hasFlag_clearFlag] using h.staysVisible
          · simpa [hasFlag_clearFlag] using h.visible
          · simp [hasFlag_clearFlag]
          · simpa [hasFlag_clearFlag] using h.atWar

/-! ### The replay of one row -/

variable {flag : FactionFlag} {e : FactionEntry F}

theorem flags_ext {flags flags' : BitVec 8} (h : ∀ flag, hasFlag flags flag = hasFlag flags' flag) :
    flags = flags' := by
  refine BitVec.eq_of_getLsbD_eq fun i hi => ?_
  interval_cases i
  · exact h .visible
  · exact h .atWar
  · exact h .hidden
  · exact h .invisibleForced
  · exact h .peaceForced
  · exact h .inactive
  · exact h .rival
  · exact h .special

theorem hasFlag_madeVisible (state : FactionState) (flag : FactionFlag) :
    hasFlag ((madeVisible state).getD state).flags flag =
      (hasFlag state.flags flag || (decide (flag = .visible) && canBeShown state.flags)) := by
  unfold madeVisible canBeShown
  cases hhid : isHidden state.flags <;> cases hspecial : hasFlag state.flags .special <;>
    cases hvisible : hasFlag state.flags .visible <;>
    by_cases hflag : flag = .visible <;> simp [hflag, hvisible, hasFlag_setFlag]

theorem hasFlag_declareWar (state : FactionState) (flag : FactionFlag) :
    hasFlag (stateAtWar state true).flags flag =
      (hasFlag state.flags flag ||
        (decide (flag = .atWar) && !hasFlag state.flags .peaceForced)) := by
  unfold stateAtWar
  cases hpeace : hasFlag state.flags .peaceForced <;>
    cases hwar : hasFlag state.flags .atWar <;>
    by_cases hflag : flag = .atWar <;> simp [hflag, hwar, hasFlag_setFlag]

theorem hasFlag_endWar (state : FactionState) (flag : FactionFlag) :
    hasFlag (stateAtWar state false).flags flag =
      (hasFlag state.flags flag && decide (flag ≠ .atWar)) := by
  unfold stateAtWar
  cases hwar : hasFlag state.flags .atWar <;>
    by_cases hflag : flag = .atWar <;> simp [hflag, hwar, hasFlag_clearFlag]

theorem hasFlag_deactivate (state : FactionState) (flag : FactionFlag) :
    hasFlag (stateInactive state true).flags flag =
      (hasFlag state.flags flag || (decide (flag = .inactive) &&
        (!isHidden state.flags && hasFlag state.flags .visible))) := by
  unfold stateInactive
  cases hhid : isHidden state.flags <;> cases hvisible : hasFlag state.flags .visible <;>
    cases hinactive : hasFlag state.flags .inactive <;>
    by_cases hflag : flag = .inactive <;> simp [hflag, hinactive, hasFlag_setFlag]

theorem hasFlag_setWidth (flags : BitVec 8) (flag : FactionFlag) :
    hasFlag (flags.setWidth 16) flag = hasFlag flags flag := by
  unfold hasFlag
  cases flag <;> simp [FactionFlag.bit]

/-- The state of a faction before its row is replayed. -/
def initialState (realm : Realm F) (e : FactionEntry F) : FactionState :=
  ⟨e.id, e.key, 0, realm.getDefaultStateFlags e, true, true⟩

/-- The state that is left after the row of a state is replayed. -/
def replayed (realm : Realm F) (e : FactionEntry F) (state : FactionState) : FactionState :=
  loadedState realm e (rowOf state) (initialState realm e)

/-- The rank of the faction is hostile or less. -/
def isHostile (realm : Realm F) (e : FactionEntry F) (state : FactionState) : Bool :=
  decide ((reputationToRank (realm.getBaseReputation e + state.standing)).index ≤
    ReputationRank.hostile.index)

theorem hasFlag_loadInactive (db : BitVec 16) (state : FactionState) (flag : FactionFlag) :
    hasFlag (loadInactive db state).flags flag =
      (hasFlag state.flags flag || (decide (flag = .inactive) &&
        (hasFlag db .inactive && (!isHidden state.flags && hasFlag state.flags .visible)))) := by
  unfold loadInactive
  cases hasFlag db .inactive with
  | true => exact hasFlag_deactivate state flag
  | false => simp

theorem hasFlag_loadWar_of_ne (db : BitVec 16) (state : FactionState) (hne : flag ≠ .atWar) :
    hasFlag (loadWar db state).flags flag = hasFlag state.flags flag := by
  unfold loadWar
  split
  · simp [hasFlag_declareWar, hne]
  · split
    · simp [hasFlag_endWar, hne]
    · rfl

theorem hasFlag_warIfHostile_of_ne (rank : ReputationRank) (state : FactionState)
    (hne : flag ≠ .atWar) :
    hasFlag (warIfHostile rank state).flags flag = hasFlag state.flags flag := by
  unfold warIfHostile
  split
  · simp [hasFlag_declareWar, hne]
  · rfl

/-- The state of a faction after the visible flag of its row. -/
def shownState (realm : Realm F) (e : FactionEntry F) (state : FactionState) : FactionState :=
  let initial := { initialState realm e with standing := state.standing }
  (if hasFlag state.flags .visible then madeVisible initial else none).getD initial

theorem replayed_flags (realm : Realm F) (e : FactionEntry F) (state : FactionState) :
    (replayed realm e state).flags =
      (warIfHostile (reputationToRank (realm.getBaseReputation e + state.standing))
        (loadWar (state.flags.setWidth 16)
          (loadInactive (state.flags.setWidth 16) (shownState realm e state)))).flags := by
  unfold replayed loadedState rowOf shownState
  simp only
  rw [resetChanged_flags, hasFlag_setWidth]

/-- What the visible flag of the row makes of the default flags. -/
theorem hasFlag_shownState (h : Descends (realm.getDefaultStateFlags e) state.flags)
    (flag : FactionFlag) :
    hasFlag (shownState realm e state).flags flag =
      if flag = .visible then hasFlag state.flags .visible
      else hasFlag (realm.getDefaultStateFlags e) flag := by
  unfold shownState
  simp only
  cases hvisible : hasFlag state.flags .visible with
  | true =>
    rw [if_pos rfl, hasFlag_madeVisible]
    by_cases hflag : flag = .visible
    · subst hflag
      rcases h.visible hvisible with hdefault | hcan
      · simp [initialState, hdefault]
      · simp [initialState, hcan]
    · simp [initialState, hflag]
  | false =>
    by_cases hflag : flag = .visible
    · subst hflag
      have hdefault : hasFlag (realm.getDefaultStateFlags e) .visible = false := by
        refine Bool.eq_false_iff.mpr fun hdefault => ?_
        rw [h.staysVisible hdefault] at hvisible
        exact absurd hvisible (by decide)
      simpa [initialState] using hdefault
    · simp [initialState, hflag]

theorem isHidden_shownState (h : Descends (realm.getDefaultStateFlags e) state.flags) :
    isHidden (shownState realm e state).flags = isHidden (realm.getDefaultStateFlags e) := by
  unfold isHidden
  rw [hasFlag_shownState h, hasFlag_shownState h]
  rfl

/-- The inactive flag after the replay. -/
theorem replayed_inactive (h : Descends (realm.getDefaultStateFlags e) state.flags) :
    hasFlag (replayed realm e state).flags .inactive =
      (hasFlag (realm.getDefaultStateFlags e) .inactive || hasFlag state.flags .inactive) := by
  rw [replayed_flags, hasFlag_warIfHostile_of_ne _ _ (by decide),
    hasFlag_loadWar_of_ne _ _ (by decide), hasFlag_loadInactive, isHidden_shownState h,
    hasFlag_shownState h, hasFlag_shownState h, hasFlag_setWidth]
  cases hinactive : hasFlag state.flags .inactive with
  | false => simp
  | true =>
    rcases h.inactive hinactive with hdefault | ⟨hhid, hvisible⟩
    · simp [hdefault]
    · simp [hhid, hvisible]

/-- The war flag after the replay. -/
theorem replayed_atWar (h : Descends (realm.getDefaultStateFlags e) state.flags) :
    hasFlag (replayed realm e state).flags .atWar =
      (hasFlag state.flags .atWar ||
        (!hasFlag state.flags .visible && hasFlag (realm.getDefaultStateFlags e) .atWar) ||
        (isHostile realm e state && !hasFlag (realm.getDefaultStateFlags e) .peaceForced)) := by
  set inactiveState := loadInactive (state.flags.setWidth 16) (shownState realm e state) with hstate
  have hwar : hasFlag inactiveState.flags .atWar =
      hasFlag (realm.getDefaultStateFlags e) .atWar := by
    rw [hstate, hasFlag_loadInactive, hasFlag_shownState h]
    simp
  have hpeace : hasFlag inactiveState.flags .peaceForced =
      hasFlag (realm.getDefaultStateFlags e) .peaceForced := by
    rw [hstate, hasFlag_loadInactive, hasFlag_shownState h]
    simp
  have hvisible : hasFlag inactiveState.flags .visible = hasFlag state.flags .visible := by
    rw [hstate, hasFlag_loadInactive, hasFlag_shownState h]
    simp
  have hloaded : hasFlag (loadWar (state.flags.setWidth 16) inactiveState).flags .atWar =
      (hasFlag state.flags .atWar ||
        (!hasFlag state.flags .visible && hasFlag (realm.getDefaultStateFlags e) .atWar)) := by
    unfold loadWar
    rw [hasFlag_setWidth]
    cases hatWar : hasFlag state.flags .atWar with
    | true =>
      rw [if_pos rfl, hasFlag_declareWar, hwar, hpeace]
      rcases h.atWar hatWar with hdefault | hnopeace
      · simp [hdefault]
      · simp [hnopeace]
    | false =>
      rw [if_neg Bool.false_ne_true, hvisible]
      cases hshown : hasFlag state.flags .visible with
      | true => simp [hasFlag_endWar]
      | false => simp [hwar]
  have hloadedPeace :
      hasFlag (loadWar (state.flags.setWidth 16) inactiveState).flags .peaceForced =
        hasFlag (realm.getDefaultStateFlags e) .peaceForced := by
    rw [hasFlag_loadWar_of_ne _ _ (by decide), hpeace]
  rw [replayed_flags, ← hstate, warIfHostile, isHostile]
  split
  · next hhostile =>
      rw [hasFlag_declareWar, hloaded, hloadedPeace, decide_eq_true hhostile]
      simp
  · next hfriendly =>
      rw [hloaded, decide_eq_false hfriendly]
      simp

theorem replayed_of_ne (h : Descends (realm.getDefaultStateFlags e) state.flags)
    (hwar : flag ≠ .atWar) (hinactive : flag ≠ .inactive) :
    hasFlag (replayed realm e state).flags flag = hasFlag state.flags flag := by
  rw [replayed_flags, hasFlag_warIfHostile_of_ne _ _ hwar, hasFlag_loadWar_of_ne _ _ hwar,
    hasFlag_loadInactive, hasFlag_shownState h]
  cases flag with
  | visible => simp
  | atWar => exact absurd rfl hwar
  | hidden => simpa using h.hidden.symm
  | invisibleForced => simpa using h.invisibleForced.symm
  | peaceForced => simpa using h.peaceForced.symm
  | inactive => exact absurd rfl hinactive
  | rival => simpa using h.rival.symm
  | special => simpa using h.special.symm

/-- The replay gives the state back: an inactive flag of the defaults was not taken away, and a war
was not ended that the defaults give a faction that is not visible, or that a hostile rank gives. -/
def Replayable (realm : Realm F) (e : FactionEntry F) (state : FactionState) : Prop :=
  (hasFlag (realm.getDefaultStateFlags e) .inactive = true →
    hasFlag state.flags .inactive = true) ∧
  (hasFlag state.flags .atWar = false →
    (hasFlag state.flags .visible = true ∨
      hasFlag (realm.getDefaultStateFlags e) .atWar = false) ∧
    (isHostile realm e state = false ∨
      hasFlag (realm.getDefaultStateFlags e) .peaceForced = true))

theorem replayed_flags_eq_iff (h : Descends (realm.getDefaultStateFlags e) state.flags) :
    (replayed realm e state).flags = state.flags ↔ Replayable realm e state := by
  have hinactive := replayed_inactive h
  have hwar := replayed_atWar h
  constructor
  · intro hsame
    rw [hsame] at hinactive hwar
    constructor
    · intro hdefault
      rw [hinactive, hdefault]
      rfl
    · intro hpeace
      rw [hpeace] at hwar
      have hboth := Bool.or_eq_false_iff.mp hwar.symm
      have hleft := (Bool.or_eq_false_iff.mp hboth.1).2
      constructor
      · rcases Bool.and_eq_false_iff.mp hleft with hvisible | hdefault
        · exact .inl (by simpa using hvisible)
        · exact .inr hdefault
      · rcases Bool.and_eq_false_iff.mp hboth.2 with hfriendly | hforced
        · exact .inl hfriendly
        · exact .inr (by simpa using hforced)
  · rintro ⟨hkeepsInactive, hkeepsPeace⟩
    refine flags_ext fun flag => ?_
    by_cases hflagWar : flag = .atWar
    · subst hflagWar
      rw [hwar]
      cases hatWar : hasFlag state.flags .atWar with
      | true => simp
      | false =>
        obtain ⟨hshown, hfriendly⟩ := hkeepsPeace hatWar
        have hleft : (!hasFlag state.flags .visible &&
            hasFlag (realm.getDefaultStateFlags e) .atWar) = false := by
          rcases hshown with hvisible | hdefault
          · simp [hvisible]
          · simp [hdefault]
        have hright : (isHostile realm e state &&
            !hasFlag (realm.getDefaultStateFlags e) .peaceForced) = false := by
          rcases hfriendly with hfriendly | hforced
          · simp [hfriendly]
          · simp [hforced]
        rw [hleft, hright]
        rfl
    · by_cases hflagInactive : flag = .inactive
      · subst hflagInactive
        rw [hinactive]
        cases hdefault : hasFlag (realm.getDefaultStateFlags e) .inactive with
        | true => rw [hkeepsInactive hdefault, Bool.true_or]
        | false => rfl
      · exact replayed_of_ne h hflagWar hflagInactive

/-! ### Runs of requests -/

variable {m : ReputationMgr}

/-- A state that is saved under its faction and whose flags descend from the defaults. -/
structure Savable (realm : Realm F) (e : FactionEntry F) (state : FactionState) : Prop where
  id : state.id = e.id
  needSave : state.needSave = true
  flags : Descends (realm.getDefaultStateFlags e) state.flags

/-- Every faction that can be listed has such a state, and no other list id has a state. -/
structure Unsaved (realm : Realm F) (m : ReputationMgr) : Prop where
  states : ∀ e ∈ realm.factions, 0 ≤ e.reputationListID →
    ∃ state, m.getState e = some state ∧ Savable realm e state
  keys : ∀ {k}, m.factions.contains k = true →
    ∃ e ∈ realm.factions, 0 ≤ e.reputationListID ∧ e.key = k

theorem unsaved_init (realm : Realm F) : Unsaved realm (init realm) := by
  obtain ⟨hcounted, hinitial⟩ := init_spec realm
  refine ⟨?_, hcounted.keys⟩
  intro e he hlisted
  exact ⟨_, hinitial.has e he hlisted, rfl, rfl, .refl _⟩

theorem Unsaved.find?_key (h : Unsaved realm m) {k : Nat}
    (hfind : m.factions.find? k = some state) :
    ∃ e ∈ realm.factions, 0 ≤ e.reputationListID ∧ e.key = k ∧ Savable realm e state := by
  obtain ⟨e, he, hlisted, rfl⟩ := h.keys (OrderedMap.contains_of_find? hfind)
  obtain ⟨state', hstate, hsavable⟩ := h.states e he hlisted
  rw [getState, if_pos hlisted, hfind] at hstate
  obtain rfl := Option.some.inj hstate
  exact ⟨e, he, hlisted, rfl, hsavable⟩

/-- A savable state that is put keeps this. -/
theorem Unsaved.insert {m' : ReputationMgr} (h : Unsaved realm m) (state : FactionState)
    (he : e ∈ realm.factions) (hlisted : 0 ≤ e.reputationListID)
    (hput : m'.factions = m.factions.insert e.key state) (hsavable : Savable realm e state) :
    Unsaved realm m' := by
  constructor
  · intro e' he' hlisted'
    by_cases hsame : e' = e
    · subst hsame
      exact ⟨state, getState_self hlisted hput, hsavable⟩
    · rw [getState_of_insert he hput e' he' hsame]
      exact h.states e' he' hlisted'
  · intro k hk
    rw [hput, OrderedMap.contains_insert] at hk
    rcases Bool.or_eq_true_iff.mp hk with hsame | hbefore
    · exact ⟨e, he, hlisted, (of_decide_eq_true hsame).symm⟩
    · exact h.keys hbefore

theorem stateAtWar_kept (state : FactionState) (atWar : Bool) :
    (stateAtWar state atWar).id = state.id ∧
      (state.needSave = true → (stateAtWar state atWar).needSave = true) := by
  unfold stateAtWar
  split
  · exact ⟨rfl, fun h => h⟩
  · split
    · exact ⟨rfl, fun h => h⟩
    · exact ⟨rfl, fun _ => rfl⟩

theorem stateInactive_kept (state : FactionState) (inactive : Bool) :
    (stateInactive state inactive).id = state.id ∧
      (state.needSave = true → (stateInactive state inactive).needSave = true) := by
  unfold stateInactive
  split
  · exact ⟨rfl, fun h => h⟩
  · split
    · exact ⟨rfl, fun h => h⟩
    · exact ⟨rfl, fun _ => rfl⟩

theorem Savable.stateAtWar (h : Savable realm e state) (atWar : Bool) :
    Savable realm e (stateAtWar state atWar) :=
  ⟨(stateAtWar_kept state atWar).1.trans h.id, (stateAtWar_kept state atWar).2 h.needSave,
    h.flags.stateAtWar atWar⟩

theorem Savable.stateInactive (h : Savable realm e state) (inactive : Bool) :
    Savable realm e (stateInactive state inactive) :=
  ⟨(stateInactive_kept state inactive).1.trans h.id,
    (stateInactive_kept state inactive).2 h.needSave, h.flags.stateInactive inactive⟩

theorem Savable.madeVisible {shown : FactionState} (h : Savable realm e state)
    (hshown : madeVisible state = some shown) : Savable realm e shown := by
  refine ⟨?_, ?_, h.flags.madeVisible hshown⟩
  · unfold ReputationMgr.madeVisible at hshown
    split at hshown
    · cases hshown
    · split at hshown
      · cases hshown
      · obtain rfl := Option.some.inj hshown
        exact h.id
  · unfold ReputationMgr.madeVisible at hshown
    split at hshown
    · cases hshown
    · split at hshown
      · cases hshown
      · obtain rfl := Option.some.inj hshown
        rfl

theorem Savable.warIfHostile (h : Savable realm e state) (rank : ReputationRank) :
    Savable realm e (warIfHostile rank state) := by
  unfold ReputationMgr.warIfHostile
  split
  · exact h.stateAtWar true
  · exact h

theorem Unsaved.setOneFactionReputation (h : Unsaved realm m) (standing : Int32)
    (incremental : Bool) (he : e ∈ realm.factions) :
    Unsaved realm (m.setOneFactionReputation realm e standing incremental) := by
  cases hfind : m.factions.find? e.key with
  | none =>
    have hsame : m.setOneFactionReputation realm e standing incremental = m := by
      unfold ReputationMgr.setOneFactionReputation
      rw [hfind]
    rw [hsame]
    exact h
  | some state =>
    obtain ⟨e', he', hlisted', hkey, hsavable⟩ := h.find?_key hfind
    obtain rfl := realm.listIDs_distinct e' he' e he hlisted' (key_inj hkey)
    set total := clampStanding (requestedStanding realm e' state standing incremental)
      with htotal
    have hchanged : Savable realm e' { state with
        standing := total - realm.getBaseReputation e', needSend := true, needSave := true } :=
      ⟨hsavable.id, rfl, hsavable.flags⟩
    refine h.insert (ReputationMgr.warIfHostile (reputationToRank total)
      ((ReputationMgr.madeVisible { state with
        standing := total - realm.getBaseReputation e', needSend := true,
        needSave := true }).getD { state with
          standing := total - realm.getBaseReputation e', needSend := true,
          needSave := true })) he hlisted' ?_ ?_
    · simp only [ReputationMgr.setOneFactionReputation, hfind]
      rfl
    · refine Savable.warIfHostile ?_ _
      cases hshown : ReputationMgr.madeVisible { state with
          standing := total - realm.getBaseReputation e', needSend := true,
          needSave := true } with
      | none => exact hchanged
      | some shown => exact hchanged.madeVisible hshown

theorem Unsaved.sendState (h : Unsaved realm m) : Unsaved realm m.sendState := by
  constructor
  · intro e he hlisted
    obtain ⟨state, hstate, hsavable⟩ := h.states e he hlisted
    refine ⟨{ state with needSend := false }, ?_, hsavable.id, hsavable.needSave, hsavable.flags⟩
    rw [getState_sendState, hstate]
    rfl
  · intro k hk
    have hmap := OrderedMap.find?_mapValues m.factions
      (fun _ state => { state with needSend := false }) k
    have hbefore : m.factions.contains k = true := by
      unfold OrderedMap.contains at hk ⊢
      rw [ReputationMgr.sendState, hmap, Option.isSome_map] at hk
      exact hk
    exact h.keys hbefore

theorem Unsaved.setVisible (h : Unsaved realm m) (he : e ∈ realm.factions) :
    Unsaved realm (m.setVisible e) := by
  unfold ReputationMgr.setVisible
  split
  · next hlisted =>
      split
      · next state hfind =>
          obtain ⟨e', he', hlisted', hkey, hsavable⟩ := h.find?_key hfind
          obtain rfl := realm.listIDs_distinct e' he' e he hlisted' (key_inj hkey)
          unfold setVisibleState
          split
          · next shown hshown => exact h.insert _ he hlisted rfl (hsavable.madeVisible hshown)
          · exact h
      · exact h
  · exact h

theorem Unsaved.handle (h : Unsaved realm m) (request : Request) :
    Unsaved realm (m.handle realm request) := by
  cases request with
  | setReputation faction standing incremental =>
    unfold ReputationMgr.handle
    simp only
    split
    · next e he =>
        have hspill : Unsaved realm (m.spill realm e standing incremental) :=
          spill_induction (fun standing incremental he' hm =>
            hm.setOneFactionReputation standing incremental he') e standing incremental h
        unfold ReputationMgr.setReputation
        simp only
        split
        · exact (hspill.setOneFactionReputation standing incremental
            (mem_of_lookupEntry he)).sendState
        · exact hspill
    · exact h
  | setVisible faction =>
    unfold ReputationMgr.handle
    simp only
    split
    · next e he => exact h.setVisible (mem_of_lookupEntry he)
    · exact h
  | setVisibleTemplate faction =>
    unfold ReputationMgr.handle ReputationMgr.setVisibleTemplate
    simp only
    split
    · exact h
    · split
      · next e he =>
          split
          · exact h
          · exact h.setVisible (mem_of_lookupEntry he)
      · exact h
  | setAtWar repListID on =>
    unfold ReputationMgr.handle ReputationMgr.setAtWar
    simp only
    split
    · next state hfind =>
        split
        · exact h
        · obtain ⟨e, he, hlisted, rfl, hsavable⟩ := h.find?_key hfind
          exact h.insert _ he hlisted rfl (hsavable.stateAtWar on)
    · exact h
  | setInactive repListID on =>
    unfold ReputationMgr.handle ReputationMgr.setInactive
    simp only
    split
    · next state hfind =>
        obtain ⟨e, he, hlisted, rfl, hsavable⟩ := h.find?_key hfind
        exact h.insert _ he hlisted rfl (hsavable.stateInactive on)
    · exact h

/-! ### The table -/

def Table.find? (table : Table) (faction : Nat) : Option Row :=
  table.rows.find? (·.faction = faction)

theorem Table.find?_replaceRow (table : Table) (row : Row) (faction : Nat) :
    (table.replaceRow row).find? faction =
      if faction = row.faction then some row else table.find? faction := by
  unfold find? replaceRow
  rw [List.find?_append]
  split
  · next hsame =>
      have hnone : (table.rows.filter (·.faction ≠ row.faction)).find? (·.faction = faction) =
          none := by
        refine List.find?_eq_none.mpr fun other hother => ?_
        have hne := of_decide_eq_true (List.mem_filter.mp hother).2
        rw [decide_eq_true_eq, hsame]
        exact hne
      rw [hnone]
      simp [hsame]
  · next hdiff =>
      have hlast : [row].find? (·.faction = faction) = none := by
        simp [Ne.symm hdiff]
      rw [hlast, Option.or_none, List.find?_filter]
      congr 1
      funext other
      by_cases hother : other.faction = faction
      · simp [hother, hdiff]
      · simp [hother]

theorem find?_foldl_replaceRow {entries : List (Nat × FactionState)} {entry : Nat × FactionState}
    (hmem : entry ∈ entries)
    (hdistinct : entries.Pairwise fun a b => (rowOf a.2).faction ≠ (rowOf b.2).faction)
    (table : Table) :
    (entries.foldl (fun table entry => table.replaceRow (rowOf entry.2)) table).find?
      (rowOf entry.2).faction = some (rowOf entry.2) := by
  have hkeeps : ∀ (rest : List (Nat × FactionState)) (table : Table) (faction : Nat),
      (∀ other ∈ rest, faction ≠ (rowOf other.2).faction) →
      (rest.foldl (fun table entry => table.replaceRow (rowOf entry.2)) table).find? faction =
        table.find? faction := by
    intro rest
    induction rest with
    | nil => exact fun _ _ _ => rfl
    | cons other rest ih =>
      intro table faction hne
      rw [List.foldl_cons, ih _ _ fun entry hentry => hne entry (List.mem_cons_of_mem _ hentry),
        Table.find?_replaceRow, if_neg (hne other List.mem_cons_self)]
  induction entries generalizing table with
  | nil => cases hmem
  | cons first rest ih =>
    obtain ⟨hfirst, hrest⟩ := List.pairwise_cons.mp hdistinct
    rcases List.mem_cons.mp hmem with rfl | hin
    · rw [List.foldl_cons, hkeeps rest _ _ hfirst, Table.find?_replaceRow, if_pos rfl]
    · exact ih hin hrest _

/-- The row of a state that is saved. -/
theorem find?_saveToDB (h : Unsaved realm m) (he : e ∈ realm.factions)
    (hstate : m.getState e = some state) (hsavable : Savable realm e state) (table : Table) :
    (m.saveToDB table).find? e.id = some (rowOf state) := by
  have hentry : (e.key, state) ∈ m.factions.entries.filter fun entry => entry.2.needSave := by
    refine List.mem_filter.mpr ⟨OrderedMap.find?_eq_some_iff.mp ?_, hsavable.needSave⟩
    unfold getState at hstate
    split at hstate
    · exact hstate
    · cases hstate
  have hid : ∀ entry ∈ m.factions.entries, ∃ e ∈ realm.factions,
      0 ≤ e.reputationListID ∧ e.key = entry.1 ∧ (rowOf entry.2).faction = e.id := by
    intro entry hmem
    obtain ⟨e', he', hlisted', hkey', hsavable'⟩ :=
      h.find?_key (OrderedMap.find?_eq_some_iff.mpr hmem)
    refine ⟨e', he', hlisted', hkey', ?_⟩
    rw [rowOf, hsavable'.id]
    exact Nat.mod_eq_of_lt (realm.id_lt e' he')
  have hrow : (rowOf state).faction = e.id := by
    rw [rowOf, hsavable.id]
    exact Nat.mod_eq_of_lt (realm.id_lt e he)
  have hdistinct : (m.factions.entries.filter fun entry => entry.2.needSave).Pairwise
      fun a b => (rowOf a.2).faction ≠ (rowOf b.2).faction := by
    have hsorted := m.factions.sorted.filter fun entry => entry.2.needSave
    refine hsorted.imp_of_mem ?_
    intro a b ha hb hlt hsame
    obtain ⟨ea, hea, -, hkeya, hida⟩ := hid a (List.mem_filter.mp ha).1
    obtain ⟨eb, heb, -, hkeyb, hidb⟩ := hid b (List.mem_filter.mp hb).1
    have heq : ea = eb := List.inj_on_of_nodup_map realm.ids_nodup hea heb (by omega)
    rw [← hkeya, ← hkeyb, heq] at hlt
    exact lt_irrefl _ hlt
  have hfound := find?_foldl_replaceRow hentry hdistinct table
  rw [hrow] at hfound
  exact hfound

/-! ### Loading what was saved -/

theorem getState_loadRow_of_ne {row : Row} (he : e ∈ realm.factions) (hne : row.faction ≠ e.id) :
    (loadRow realm m row).getState e = m.getState e := by
  unfold loadRow
  split
  · next e' he' =>
      split
      · have hdiff : e ≠ e' := by
          rintro rfl
          exact hne (id_of_lookupEntry he').symm
        exact getState_of_insert (mem_of_lookupEntry he') rfl e he hdiff
      · rfl
  · rfl

theorem lookupEntry_id (he : e ∈ realm.factions) : realm.lookupEntry e.id = some e := by
  cases hfound : realm.lookupEntry e.id with
  | none => exact absurd (List.find?_eq_none.mp hfound e he) (by simp)
  | some e' =>
    have hsame := id_of_lookupEntry hfound
    rw [List.inj_on_of_nodup_map realm.ids_nodup (mem_of_lookupEntry hfound) he hsame]

/-- The state of a faction after the rows are loaded comes from its own row. -/
theorem getState_foldl_loadRow (he : e ∈ realm.factions) (hlisted : 0 ≤ e.reputationListID)
    {rows : List Row} (hnodup : (rows.map Row.faction).Nodup) {row : Row}
    (hrow : rows.find? (·.faction = e.id) = some row) (hstate : m.getState e = some state) :
    (rows.foldl (loadRow realm) m).getState e = some (loadedState realm e row state) := by
  have hkeeps : ∀ (rest : List Row) (m : ReputationMgr), (∀ other ∈ rest, other.faction ≠ e.id) →
      (rest.foldl (loadRow realm) m).getState e = m.getState e := by
    intro rest
    induction rest with
    | nil => exact fun _ _ => rfl
    | cons other rest ih =>
      intro m hne
      rw [List.foldl_cons, ih _ fun next hnext => hne next (List.mem_cons_of_mem _ hnext),
        getState_loadRow_of_ne he (hne other List.mem_cons_self)]
  induction rows generalizing m with
  | nil => cases hrow
  | cons first rest ih =>
    obtain ⟨hnotin, hrest⟩ := List.nodup_cons.mp hnodup
    by_cases hfirst : first.faction = e.id
    · rw [List.find?_cons_of_pos (by simpa using hfirst)] at hrow
      obtain rfl := Option.some.inj hrow
      have hfind : m.factions.find? e.key = some state := by
        rw [getState, if_pos hlisted] at hstate
        exact hstate
      have hentry : realm.lookupEntry first.faction = some e := hfirst ▸ lookupEntry_id he
      rw [List.foldl_cons, hkeeps rest _ fun other hother hsame => hnotin
        (List.mem_map.mpr ⟨other, hother, hsame.trans hfirst.symm⟩)]
      exact getState_self hlisted (loadRow_eq hentry hlisted hfind)
    · rw [List.find?_cons_of_neg (by simpa using hfirst)] at hrow
      exact ih hrest hrow ((getState_loadRow_of_ne he hfirst).trans hstate)

theorem getState_loadFromDB_saveToDB (h : Unsaved realm m) (he : e ∈ realm.factions)
    (hlisted : 0 ≤ e.reputationListID) (hstate : m.getState e = some state)
    (hsavable : Savable realm e state) (table : Table) :
    (loadFromDB realm (m.saveToDB table)).getState e = some (replayed realm e state) :=
  getState_foldl_loadRow he hlisted (m.saveToDB table).nodup
    (find?_saveToDB h he hstate hsavable table) ((init_spec realm).2.has e he hlisted)

/-- What the player sees of a faction. -/
def content (m : ReputationMgr) (e : FactionEntry F) : Option (Int32 × BitVec 8) :=
  (m.getState e).map fun state => (state.standing, state.flags)

/-- The second manager has the standings and the flags of the first. -/
def Restores (realm : Realm F) (m m' : ReputationMgr) : Prop :=
  ∀ e ∈ realm.factions, m'.content e = m.content e

theorem restores_iff (h : Unsaved realm m) (table : Table) :
    Restores realm m (loadFromDB realm (m.saveToDB table)) ↔
      ∀ e ∈ realm.factions, ∀ state, m.getState e = some state → Replayable realm e state := by
  have hcontent : ∀ e ∈ realm.factions, ∀ state, m.getState e = some state →
      ((loadFromDB realm (m.saveToDB table)).content e = m.content e ↔
        Replayable realm e state) := by
    intro e he state hstate
    have hlisted : 0 ≤ e.reputationListID := by
      by_contra hnot
      rw [getState, if_neg hnot] at hstate
      cases hstate
    obtain ⟨state', hstate', hsavable⟩ := h.states e he hlisted
    obtain rfl := Option.some.inj (hstate'.symm.trans hstate)
    rw [content, content, getState_loadFromDB_saveToDB h he hlisted hstate hsavable table, hstate,
      ← replayed_flags_eq_iff hsavable.flags]
    have hstanding : (replayed realm e state').standing = state'.standing :=
      loadedState_standing realm e (rowOf state') (initialState realm e)
    simp [hstanding]
  constructor
  · intro hrestores e he state hstate
    exact (hcontent e he state hstate).mp (hrestores e he)
  · intro hreplayable e he
    cases hstate : m.getState e with
    | some state => exact (hcontent e he state hstate).mpr (hreplayable e he state hstate)
    | none =>
      have hunlisted : ¬ 0 ≤ e.reputationListID := by
        intro hlisted
        obtain ⟨state, hsome, -⟩ := h.states e he hlisted
        rw [hstate] at hsome
        cases hsome
      rw [content, content, getState, getState, if_neg hunlisted, if_neg hunlisted]

end ReputationMgr

/-- What is loaded after any requests are saved is what was there, exactly when every state can be
replayed. -/
theorem restores_iff_replayable (realm : Realm F) (requests : List Request)
    (table : ReputationMgr.Table) :
    (let m := Runs.run (ReputationMgr.handle realm) (ReputationMgr.init realm) requests
     ReputationMgr.Restores realm m (ReputationMgr.loadFromDB realm (m.saveToDB table)) ↔
       ∀ e ∈ realm.factions, ∀ state, m.getState e = some state →
         ReputationMgr.Replayable realm e state) := by
  have hadmissible : Runs.Admissible (ReputationMgr.handle realm) (fun _ _ => True)
      (ReputationMgr.init realm) requests :=
    Runs.admissible_of_invariant (P := fun _ => True) (fun _ => trivial) (fun _ => trivial)
      trivial requests
  have hunsaved := hadmissible.invariant (P := ReputationMgr.Unsaved realm)
    (fun hm _ => hm.handle _) (ReputationMgr.unsaved_init realm) (List.prefix_refl requests)
  exact ReputationMgr.restores_iff hunsaved table

theorem lone_ids : ([shownFaction 0].map FactionEntry.id).Nodup := List.nodup_singleton _

theorem lone_id_pos : ∀ e ∈ [shownFaction 0], 0 < e.id := by
  intro e he
  rw [List.mem_singleton.mp he]
  exact Nat.one_pos

theorem lone_id_lt : ∀ e ∈ [shownFaction 0], e.id < 2 ^ 16 := by
  intro e he
  rw [List.mem_singleton.mp he]
  decide

theorem lone_listIDs : ∀ e ∈ [shownFaction 0], ∀ e' ∈ [shownFaction 0], 0 ≤ e.reputationListID →
    e.reputationListID = e'.reputationListID → e = e' := by
  intro e he e' he' _ _
  rw [List.mem_singleton.mp he, List.mem_singleton.mp he']

/-- A store with one visible faction. -/
def loneRealm : Realm Unit where
  factions := [shownFaction 0]
  ids_nodup := lone_ids
  id_pos := lone_id_pos
  id_lt := lone_id_lt
  listIDs_distinct := lone_listIDs
  spilloverTemplate _ := none
  raceMask := 1
  classMask := 1
  ops := unitOps

/-- A player who ends the war with a faction that hates him is at war with it again after the next
login. -/
theorem endedWar_not_restored :
    ¬ ReputationMgr.Restores loneRealm
      (Runs.run (ReputationMgr.handle loneRealm) (ReputationMgr.init loneRealm)
        [.setReputation 1 (-10000) false, .setAtWar 0 false])
      (ReputationMgr.loadFromDB loneRealm
        ((Runs.run (ReputationMgr.handle loneRealm) (ReputationMgr.init loneRealm)
          [.setReputation 1 (-10000) false, .setAtWar 0 false]).saveToDB
            ⟨[], List.nodup_nil⟩)) := by
  intro hrestores
  have hcontent := hrestores (shownFaction 0) List.mem_cons_self
  exact absurd hcontent (by decide +kernel)

end Cataclysm.Reputation
