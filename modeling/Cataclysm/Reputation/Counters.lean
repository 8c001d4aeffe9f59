import Cataclysm.Lib.Counting
import Cataclysm.Lib.Runs
import Cataclysm.Reputation.ReputationMgr

/-!
# The counters of the reputations

The four counters follow the states: each place that changes a flag or a standing changes them by
the difference. They are 8 bits wide, so they are the numbers of factions modulo 256. Every standing
that is set stays between the bottom and the cap.

## Implementation notes

The counters are compared with the numbers of factions of the store. A faction without a state is
not visible and has the rank of no reputation, which is below honored.
-/

namespace Cataclysm.Reputation

variable {F : Type*} {realm : Realm F}

/-! ### Flags -/

theorem hasFlag_setFlag (flags : BitVec 8) (flag other : FactionFlag) :
    hasFlag (setFlag flags flag) other = (hasFlag flags other || decide (other = flag)) := by
  unfold hasFlag setFlag
  cases flag <;> cases other <;> simp [FactionFlag.bit]

theorem hasFlag_clearFlag (flags : BitVec 8) (flag other : FactionFlag) :
    hasFlag (clearFlag flags flag) other = (hasFlag flags other && decide (other ≠ flag)) := by
  unfold hasFlag clearFlag
  cases flag <;> cases other <;> simp [FactionFlag.bit]

namespace ReputationMgr

variable {state : FactionState}

theorem stateAtWar_standing (state : FactionState) (atWar : Bool) :
    (stateAtWar state atWar).standing = state.standing := by
  unfold stateAtWar
  split
  · rfl
  · split
    · rfl
    · rfl

theorem stateAtWar_visible (state : FactionState) (atWar : Bool) :
    hasFlag (stateAtWar state atWar).flags .visible = hasFlag state.flags .visible := by
  unfold stateAtWar
  split
  · rfl
  · split
    · rfl
    · cases atWar with
      | true => simp [hasFlag_setFlag]
      | false => simp [hasFlag_clearFlag]

theorem stateInactive_standing (state : FactionState) (inactive : Bool) :
    (stateInactive state inactive).standing = state.standing := by
  unfold stateInactive
  split
  · rfl
  · split
    · rfl
    · rfl

theorem stateInactive_visible (state : FactionState) (inactive : Bool) :
    hasFlag (stateInactive state inactive).flags .visible = hasFlag state.flags .visible := by
  unfold stateInactive
  split
  · rfl
  · split
    · rfl
    · cases inactive with
      | true => simp [hasFlag_setFlag]
      | false => simp [hasFlag_clearFlag]

theorem warIfHostile_standing (rank : ReputationRank) (state : FactionState) :
    (warIfHostile rank state).standing = state.standing := by
  unfold warIfHostile
  split
  · exact stateAtWar_standing state true
  · rfl

theorem warIfHostile_visible (rank : ReputationRank) (state : FactionState) :
    hasFlag (warIfHostile rank state).flags .visible = hasFlag state.flags .visible := by
  unfold warIfHostile
  split
  · exact stateAtWar_visible state true
  · rfl

theorem loadWar_standing (db : BitVec 16) (state : FactionState) :
    (loadWar db state).standing = state.standing := by
  unfold loadWar
  split
  · exact stateAtWar_standing state true
  · split
    · exact stateAtWar_standing state false
    · rfl

theorem loadWar_visible (db : BitVec 16) (state : FactionState) :
    hasFlag (loadWar db state).flags .visible = hasFlag state.flags .visible := by
  unfold loadWar
  split
  · exact stateAtWar_visible state true
  · split
    · exact stateAtWar_visible state false
    · rfl

theorem loadInactive_standing (db : BitVec 16) (state : FactionState) :
    (loadInactive db state).standing = state.standing := by
  unfold loadInactive
  split
  · exact stateInactive_standing state true
  · rfl

theorem loadInactive_visible (db : BitVec 16) (state : FactionState) :
    hasFlag (loadInactive db state).flags .visible = hasFlag state.flags .visible := by
  unfold loadInactive
  split
  · exact stateInactive_visible state true
  · rfl

theorem resetChanged_standing (db : BitVec 16) (state : FactionState) :
    (resetChanged db state).standing = state.standing := by
  unfold resetChanged
  split
  · rfl
  · rfl

theorem resetChanged_flags (db : BitVec 16) (state : FactionState) :
    (resetChanged db state).flags = state.flags := by
  unfold resetChanged
  split
  · rfl
  · rfl

/-- A state that is made visible was not, is then, and keeps its standing. -/
theorem of_madeVisible {shown : FactionState} (h : madeVisible state = some shown) :
    hasFlag state.flags .visible = false ∧ hasFlag shown.flags .visible = true ∧
      shown.standing = state.standing := by
  unfold madeVisible at h
  split at h
  · cases h
  · split at h
    · cases h
    · next hvisible =>
        obtain rfl := Option.some.inj h
        exact ⟨Bool.eq_false_iff.mpr hvisible, by simp [hasFlag_setFlag], rfl⟩

theorem madeVisible_getD (state : FactionState) :
    ((madeVisible state).getD state).standing = state.standing ∧
      hasFlag ((madeVisible state).getD state).flags .visible =
        ((madeVisible state).isSome || hasFlag state.flags .visible) := by
  cases hshown : madeVisible state with
  | none => exact ⟨rfl, rfl⟩
  | some shown =>
    obtain ⟨-, hvisible, hstanding⟩ := of_madeVisible hshown
    exact ⟨hstanding, hvisible⟩

/-! ### Counters -/

/-- A counter after something that was counted before or not is counted or not. -/
def moveCounter (before after : Bool) (count : UInt8) : UInt8 :=
  let count := if before then count - 1 else count
  if after then count + 1 else count

theorem updateCounter_eq (least old new : ReputationRank) (count : UInt8) :
    updateCounter least old new count =
      moveCounter (decide (least.index ≤ old.index)) (decide (least.index ≤ new.index)) count := by
  simp [updateCounter, moveCounter]

theorem moveCounter_self (counted : Bool) (count : UInt8) :
    moveCounter counted counted count = count := by
  cases counted with
  | true => exact sub_add_cancel count 1
  | false => rfl

theorem moveCounter_ofNat {before after : Bool} {n n' : Nat}
    (h : n' + (if before then 1 else 0) = n + if after then 1 else 0) :
    moveCounter before after (UInt8.ofNat n) = UInt8.ofNat n' := by
  cases before with
  | false =>
    cases after with
    | false =>
      obtain rfl : n' = n := h
      rfl
    | true =>
      obtain rfl : n' = n + 1 := h
      exact (UInt8.ofNat_add n 1).symm
  | true =>
    cases after with
    | false =>
      obtain rfl : n' + 1 = n := h
      change UInt8.ofNat (n' + 1) - 1 = UInt8.ofNat n'
      rw [UInt8.ofNat_add]
      exact add_sub_cancel_right (UInt8.ofNat n') 1
    | true =>
      obtain rfl : n' = n := Nat.add_right_cancel h
      exact sub_add_cancel (UInt8.ofNat n') 1

/-- The faction carries the visible flag. -/
def isVisible (m : ReputationMgr) (e : FactionEntry F) : Bool :=
  (m.getState e).any fun state => hasFlag state.flags .visible

/-- The rank of the faction is at least the given one. -/
def reaches (m : ReputationMgr) (realm : Realm F) (least : ReputationRank)
    (e : FactionEntry F) : Bool :=
  decide (least.index ≤ (m.getRank realm e).index)

/-- Each counter is the number of factions that it counts, and only factions that can be listed
have a state. -/
structure Counted (realm : Realm F) (m : ReputationMgr) : Prop where
  visible : m.visibleFactionCount = UInt8.ofNat (realm.factions.countP m.isVisible)
  honored : m.honoredFactionCount = UInt8.ofNat (realm.factions.countP (m.reaches realm .honored))
  revered : m.reveredFactionCount = UInt8.ofNat (realm.factions.countP (m.reaches realm .revered))
  exalted : m.exaltedFactionCount = UInt8.ofNat (realm.factions.countP (m.reaches realm .exalted))
  keys : ∀ {k}, m.factions.contains k = true →
    ∃ e ∈ realm.factions, 0 ≤ e.reputationListID ∧ e.key = k

/-! ### One state -/

variable {e : FactionEntry F} {m m' : ReputationMgr}

theorem key_inj {e' : FactionEntry F} (h : e.key = e'.key) :
    e.reputationListID = e'.reputationListID := by
  have hbits : e.reputationListID.toUInt32 = e'.reputationListID.toUInt32 := UInt32.toNat_inj.mp h
  exact congrArg UInt32.toInt32 hbits

theorem factions_nodup (realm : Realm F) : realm.factions.Nodup := realm.ids_nodup.of_map

theorem mem_of_lookupEntry {id : Nat} (h : realm.lookupEntry id = some e) :
    e ∈ realm.factions := List.mem_of_find?_eq_some h

theorem id_of_lookupEntry {id : Nat} (h : realm.lookupEntry id = some e) : e.id = id := by
  have hid := List.find?_some (p := fun e : FactionEntry F => decide (e.id = id)) h
  exact of_decide_eq_true hid

/-- A state that is put changes the state of its own faction only. -/
theorem getState_of_insert (he : e ∈ realm.factions)
    (hput : m'.factions = m.factions.insert e.key state) :
    ∀ e' ∈ realm.factions, e' ≠ e → m'.getState e' = m.getState e' := by
  intro e' he' hne
  unfold getState
  split
  · next hlisted =>
      have hkey : e'.key ≠ e.key := by
        intro hkey
        exact hne (realm.listIDs_distinct e' he' e he hlisted (key_inj hkey))
      rw [hput, OrderedMap.find?_insert, if_neg hkey]
  · rfl

theorem getState_self (hlisted : 0 ≤ e.reputationListID)
    (hput : m'.factions = m.factions.insert e.key state) : m'.getState e = some state := by
  rw [getState, if_pos hlisted, hput, OrderedMap.find?_insert_self]

theorem getReputation_congr (h : m'.getState e = m.getState e) :
    m'.getReputation realm e = m.getReputation realm e := by
  unfold getReputation
  rw [h]

theorem getReputation_of_getState (h : m.getState e = some state) :
    m.getReputation realm e = realm.getBaseReputation e + state.standing := by
  unfold getReputation
  rw [h]

/-- The counters keep up when one state changes and they move by the difference. -/
theorem Counted.change (h : Counted realm m) (state : FactionState) (new : ReputationRank)
    (he : e ∈ realm.factions) (hlisted : 0 ≤ e.reputationListID)
    (hput : m'.factions = m.factions.insert e.key state)
    (hnew : reputationToRank (realm.getBaseReputation e + state.standing) = new)
    (hvisible : m'.visibleFactionCount =
      moveCounter (m.isVisible e) (hasFlag state.flags .visible) m.visibleFactionCount)
    (hhonored : m'.honoredFactionCount =
      updateCounter .honored (m.getRank realm e) new m.honoredFactionCount)
    (hrevered : m'.reveredFactionCount =
      updateCounter .revered (m.getRank realm e) new m.reveredFactionCount)
    (hexalted : m'.exaltedFactionCount =
      updateCounter .exalted (m.getRank realm e) new m.exaltedFactionCount) : Counted realm m' := by
  have hself := getState_self hlisted hput
  have hother := getState_of_insert he hput
  have hrank : m'.getRank realm e = new := by
    rw [getRank, getReputation_of_getState hself, hnew]
  have hreaches : ∀ least, realm.factions.countP (m'.reaches realm least) +
      (if decide (least.index ≤ (m.getRank realm e).index) then 1 else 0) =
        realm.factions.countP (m.reaches realm least) +
          if decide (least.index ≤ new.index) then 1 else 0 := by
    intro least
    have hcount := Counting.countP_of_ne (factions_nodup realm) he (p := m.reaches realm least)
      (q := m'.reaches realm least) (fun e' he' hne => by
        unfold reaches getRank
        rw [getReputation_congr (hother e' he' hne)])
    rw [reaches, reaches, hrank] at hcount
    exact hcount
  constructor
  · rw [hvisible, h.visible]
    refine moveCounter_ofNat ?_
    have hcount := Counting.countP_of_ne (factions_nodup realm) he (p := m.isVisible)
      (q := m'.isVisible) (fun e' he' hne => by
        unfold isVisible
        rw [hother e' he' hne])
    have hafter : m'.isVisible e = hasFlag state.flags .visible := by
      rw [isVisible, hself, Option.any_some]
    rw [hafter] at hcount
    exact hcount
  · rw [hhonored, h.honored, updateCounter_eq]
    exact moveCounter_ofNat (hreaches .honored)
  · rw [hrevered, h.revered, updateCounter_eq]
    exact moveCounter_ofNat (hreaches .revered)
  · rw [hexalted, h.exalted, updateCounter_eq]
    exact moveCounter_ofNat (hreaches .exalted)
  · intro k hk
    rw [hput, OrderedMap.contains_insert] at hk
    rcases Bool.or_eq_true_iff.mp hk with hsame | hbefore
    · exact ⟨e, he, hlisted, (of_decide_eq_true hsame).symm⟩
    · exact h.keys hbefore

theorem find?_listed (h : Counted realm m) (he : e ∈ realm.factions)
    (hfind : m.factions.find? e.key = some state) :
    0 ≤ e.reputationListID ∧ m.getState e = some state := by
  obtain ⟨e', he', hlisted, hkey⟩ := h.keys (OrderedMap.contains_of_find? hfind)
  have hsame : e' = e := realm.listIDs_distinct e' he' e he hlisted (key_inj hkey)
  subst hsame
  exact ⟨hlisted, by rw [getState, if_pos hlisted, hfind]⟩

theorem isVisible_of_getState (h : m.getState e = some state) :
    m.isVisible e = hasFlag state.flags .visible := by
  rw [isVisible, h, Option.any_some]

/-- A state with the same standing keeps every rank. -/
theorem rank_of_standing {state' : FactionState} (h : m.getState e = some state)
    (hstanding : state'.standing = state.standing) :
    reputationToRank (realm.getBaseReputation e + state'.standing) = m.getRank realm e := by
  rw [getRank, getReputation_of_getState h, hstanding]

theorem updateCounter_self (least rank : ReputationRank) (count : UInt8) :
    updateCounter least rank rank count = count := by
  rw [updateCounter_eq, moveCounter_self]

/-- A state that keeps its standing and its visible flag leaves the counters alone. -/
theorem Counted.putState (h : Counted realm m) {state' : FactionState} (he : e ∈ realm.factions)
    (hfind : m.factions.find? e.key = some state) (hstanding : state'.standing = state.standing)
    (hvisible : hasFlag state'.flags .visible = hasFlag state.flags .visible) :
    Counted realm (m.putState e.key state') := by
  obtain ⟨hlisted, hstate⟩ := find?_listed h he hfind
  refine h.change _ _ he hlisted rfl (rank_of_standing hstate hstanding) ?_ ?_ ?_ ?_
  · rw [isVisible_of_getState hstate, hvisible, moveCounter_self]
    rfl
  · exact (updateCounter_self _ _ _).symm
  · exact (updateCounter_self _ _ _).symm
  · exact (updateCounter_self _ _ _).symm

/-- The state of a list id, if there is one, is that of a faction that can be listed. -/
theorem exists_of_find? (h : Counted realm m) {k : Nat} (hfind : m.factions.find? k = some state) :
    ∃ e ∈ realm.factions, e.key = k := by
  obtain ⟨e, he, -, hkey⟩ := h.keys (OrderedMap.contains_of_find? hfind)
  exact ⟨e, he, hkey⟩

/-! ### The setters -/

theorem Counted.setAtWar (h : Counted realm m) (repListID : Nat) (on : Bool) :
    Counted realm (m.setAtWar repListID on) := by
  unfold ReputationMgr.setAtWar
  split
  · next state hfind =>
      split
      · exact h
      · obtain ⟨e, he, rfl⟩ := exists_of_find? h hfind
        exact h.putState he hfind (stateAtWar_standing state on) (stateAtWar_visible state on)
  · exact h

theorem Counted.setInactive (h : Counted realm m) (repListID : Nat) (on : Bool) :
    Counted realm (m.setInactive repListID on) := by
  unfold ReputationMgr.setInactive
  split
  · next state hfind =>
      obtain ⟨e, he, rfl⟩ := exists_of_find? h hfind
      exact h.putState he hfind (stateInactive_standing state on) (stateInactive_visible state on)
  · exact h

theorem Counted.setVisible (h : Counted realm m) (he : e ∈ realm.factions) :
    Counted realm (m.setVisible e) := by
  unfold ReputationMgr.setVisible
  split
  · next hlisted =>
      split
      · next state hfind =>
          obtain ⟨-, hstate⟩ := find?_listed h he hfind
          unfold setVisibleState
          split
          · next shown hshown =>
              obtain ⟨hbefore, hafter, hstanding⟩ := of_madeVisible hshown
              refine h.change _ _ he hlisted rfl (rank_of_standing hstate hstanding) ?_ ?_ ?_ ?_
              · rw [isVisible_of_getState hstate, hbefore, hafter]
                rfl
              · exact (updateCounter_self _ _ _).symm
              · exact (updateCounter_self _ _ _).symm
              · exact (updateCounter_self _ _ _).symm
          · exact h
      · exact h
  · exact h

theorem Counted.setVisibleTemplate (h : Counted realm m) (faction : Nat) :
    Counted realm (m.setVisibleTemplate realm faction) := by
  unfold ReputationMgr.setVisibleTemplate
  split
  · exact h
  · split
    · next e he =>
        split
        · exact h
        · exact h.setVisible (mem_of_lookupEntry he)
    · exact h

/-! ### Standings -/

theorem clampStanding_bounds (standing : Int32) :
    reputationBottom ≤ (clampStanding standing).toInt ∧
      (clampStanding standing).toInt ≤ reputationCap := by
  unfold clampStanding
  split
  · decide
  · next hcap =>
      split
      · decide
      · next hbottom => exact ⟨not_lt.mp hbottom, not_lt.mp hcap⟩

theorem base_add_sub (base standing : Int32) : base + (standing - base) = standing := by
  grind

/-- The visible counter follows a state that is made visible. -/
theorem moveCounter_shown (state : FactionState) (count : UInt8) :
    (if (madeVisible state).isSome then count + 1 else count) =
      moveCounter (hasFlag state.flags .visible)
        ((madeVisible state).isSome || hasFlag state.flags .visible) count := by
  cases hshown : madeVisible state with
  | none => exact (moveCounter_self _ count).symm
  | some shown =>
    obtain ⟨hbefore, -, -⟩ := of_madeVisible hshown
    rw [hbefore]
    rfl

/-- What setting one faction's reputation does: the faction's state is put, and the counters move
from its old rank to its new one. -/
theorem setOneFactionReputation_eq (realm : Realm F) (hfind : m.factions.find? e.key = some state)
    (standing : Int32) (incremental : Bool) :
    ∃ state' total, reputationBottom ≤ total.toInt ∧ total.toInt ≤ reputationCap ∧
      state'.standing = total - realm.getBaseReputation e ∧
      hasFlag state'.flags .visible =
        ((madeVisible state).isSome || hasFlag state.flags .visible) ∧
      (m.setOneFactionReputation realm e standing incremental).factions =
        m.factions.insert e.key state' ∧
      (m.setOneFactionReputation realm e standing incremental).visibleFactionCount =
        (if (madeVisible state).isSome then m.visibleFactionCount + 1
          else m.visibleFactionCount) ∧
      (m.setOneFactionReputation realm e standing incremental).honoredFactionCount =
        updateCounter .honored (reputationToRank (state.standing + realm.getBaseReputation e))
          (reputationToRank total) m.honoredFactionCount ∧
      (m.setOneFactionReputation realm e standing incremental).reveredFactionCount =
        updateCounter .revered (reputationToRank (state.standing + realm.getBaseReputation e))
          (reputationToRank total) m.reveredFactionCount ∧
      (m.setOneFactionReputation realm e standing incremental).exaltedFactionCount =
        updateCounter .exalted (reputationToRank (state.standing + realm.getBaseReputation e))
          (reputationToRank total) m.exaltedFactionCount := by
  set total := clampStanding (requestedStanding realm e state standing incremental) with htotal
  set changed : FactionState :=
    { state with standing := total - realm.getBaseReputation e, needSend := true,
                 needSave := true } with hchanged
  have hflags : changed.flags = state.flags := rfl
  have hsome : (madeVisible changed).isSome = (madeVisible state).isSome := by
    unfold madeVisible
    rw [hflags]
    split
    · rfl
    · split
      · rfl
      · rfl
  obtain ⟨hlow, hhigh⟩ := clampStanding_bounds (requestedStanding realm e state standing incremental)
  obtain ⟨hstanding, hvisible⟩ := madeVisible_getD changed
  refine ⟨warIfHostile (reputationToRank total) ((madeVisible changed).getD changed), total,
    hlow, hhigh, ?_, ?_, ?_, ?_, ?_, ?_, ?_⟩
  · rw [warIfHostile_standing, hstanding]
  · rw [warIfHostile_visible, hvisible, hsome, hflags]
  · simp only [setOneFactionReputation, hfind]
    rfl
  · simp only [setOneFactionReputation, hfind]
    rw [← hsome]
    rfl
  · simp only [setOneFactionReputation, hfind]
    rfl
  · simp only [setOneFactionReputation, hfind]
    rfl
  · simp only [setOneFactionReputation, hfind]
    rfl

theorem Counted.setOneFactionReputation (h : Counted realm m) (he : e ∈ realm.factions)
    (standing : Int32) (incremental : Bool) :
    Counted realm (m.setOneFactionReputation realm e standing incremental) := by
  cases hfind : m.factions.find? e.key with
  | none =>
    have hsame : m.setOneFactionReputation realm e standing incremental = m := by
      unfold ReputationMgr.setOneFactionReputation
      rw [hfind]
    rw [hsame]
    exact h
  | some state =>
    obtain ⟨hlisted, hstate⟩ := find?_listed h he hfind
    obtain ⟨state', total, -, -, hstanding, hvisible, hput, hcount, hhonored, hrevered,
      hexalted⟩ := setOneFactionReputation_eq realm hfind standing incremental
    have hold : reputationToRank (state.standing + realm.getBaseReputation e) =
        m.getRank realm e := by
      rw [getRank, getReputation_of_getState hstate, Int32.add_comm]
    rw [hold] at hhonored hrevered hexalted
    refine h.change _ _ he hlisted hput ?_ ?_ hhonored hrevered hexalted
    · rw [hstanding, base_add_sub]
    · rw [hcount, isVisible_of_getState hstate, hvisible]
      exact moveCounter_shown state m.visibleFactionCount

theorem getState_sendState (m : ReputationMgr) (e : FactionEntry F) :
    m.sendState.getState e =
      (m.getState e).map fun state => { state with needSend := false } := by
  unfold getState
  split
  · exact OrderedMap.find?_mapValues _ _ _
  · rfl

theorem getReputation_sendState (m : ReputationMgr) (e : FactionEntry F) :
    m.sendState.getReputation realm e = m.getReputation realm e := by
  unfold getReputation
  rw [getState_sendState]
  cases m.getState e with
  | none => rfl
  | some state => rfl

theorem Counted.sendState (h : Counted realm m) : Counted realm m.sendState := by
  have hvisible : m.sendState.isVisible = m.isVisible (F := F) := by
    funext e
    unfold isVisible
    rw [getState_sendState]
    cases m.getState e with
    | none => rfl
    | some state => rfl
  have hreaches : ∀ least, m.sendState.reaches realm least = m.reaches realm least := by
    intro least
    funext e
    unfold reaches getRank
    rw [getReputation_sendState]
  constructor
  · rw [hvisible]
    exact h.visible
  · rw [hreaches]
    exact h.honored
  · rw [hreaches]
    exact h.revered
  · rw [hreaches]
    exact h.exalted
  · intro k hk
    have hmap := OrderedMap.find?_mapValues m.factions
      (fun _ state => { state with needSend := false }) k
    have hbefore : m.factions.contains k = true := by
      unfold OrderedMap.contains at hk ⊢
      rw [ReputationMgr.sendState, hmap, Option.isSome_map] at hk
      exact hk
    exact h.keys hbefore

/-! ### Spillover -/

/-- What holds of the manager and is kept by setting one faction's reputation is kept by the
spillover. -/
theorem spill_induction {P : ReputationMgr → Prop}
    (hone : ∀ {m : ReputationMgr} {e : FactionEntry F} (standing : Int32) (incremental : Bool),
      e ∈ realm.factions → P m → P (m.setOneFactionReputation realm e standing incremental))
    (e : FactionEntry F) (standing : Int32) (incremental : Bool) (h : P m) :
    P (m.spill realm e standing incremental) := by
  have htargets : ∀ (targets : List (SpilloverTarget F)) (m : ReputationMgr), P m →
      P (targets.foldl (spillToTarget realm standing incremental) m) := by
    intro targets
    induction targets with
    | nil => exact fun _ hm => hm
    | cons target rest ih =>
      intro m hm
      refine ih _ ?_
      unfold spillToTarget
      split
      · exact hm
      · split
        · next affiliate haffiliate =>
            split
            · exact hone _ _ (mem_of_lookupEntry haffiliate) hm
            · exact hm
        · exact hm
  have haffiliated : ∀ (rep : F) (flist : List Nat) (m : ReputationMgr), P m →
      P (flist.foldl (spillToAffiliated realm e rep incremental) m) := by
    intro rep flist
    induction flist with
    | nil => exact fun _ hm => hm
    | cons id rest ih =>
      intro m hm
      refine ih _ ?_
      unfold spillToAffiliated
      split
      · next affiliate haffiliate =>
          split
          · exact hm
          · simp only
            split
            · exact hone _ _ (mem_of_lookupEntry haffiliate) hm
            · exact hm
      · exact hm
  unfold spill
  split
  · exact htargets _ m h
  · unfold spillByTeam
    simp only
    split
    · exact haffiliated _ _ m h
    · split
      · split
        · next parent hparent =>
            split
            · exact hone _ _ (mem_of_lookupEntry hparent) h
            · split
              · exact haffiliated _ _ m h
              · exact h
        · exact h
      · exact h

theorem Counted.setReputation (h : Counted realm m) (he : e ∈ realm.factions) (standing : Int32)
    (incremental : Bool) : Counted realm (m.setReputation realm e standing incremental) := by
  have hspill : Counted realm (m.spill realm e standing incremental) :=
    spill_induction (fun standing incremental he' hm =>
      hm.setOneFactionReputation he' standing incremental) e standing incremental h
  unfold ReputationMgr.setReputation
  simp only
  split
  · exact (hspill.setOneFactionReputation he standing incremental).sendState
  · exact hspill

theorem Counted.handle (h : Counted realm m) (request : Request) :
    Counted realm (m.handle realm request) := by
  cases request with
  | setReputation faction standing incremental =>
    unfold ReputationMgr.handle
    simp only
    split
    · next e he => exact h.setReputation (mem_of_lookupEntry he) standing incremental
    · exact h
  | setVisible faction =>
    unfold ReputationMgr.handle
    simp only
    split
    · next e he => exact h.setVisible (mem_of_lookupEntry he)
    · exact h
  | setVisibleTemplate faction => exact h.setVisibleTemplate faction
  | setAtWar repListID on => exact h.setAtWar repListID on
  | setInactive repListID on => exact h.setInactive repListID on

/-! ### Initial states -/

/-- The initial states of some factions: each of them that can be listed has its default state,
and no other faction has one. -/
structure Initial (realm : Realm F) (done : List (FactionEntry F)) (m : ReputationMgr) : Prop where
  has : ∀ e ∈ done, 0 ≤ e.reputationListID → m.getState e =
    some ⟨e.id, e.key, 0, realm.getDefaultStateFlags e, true, true⟩
  only : ∀ {k}, m.factions.contains k = true → ∃ e ∈ done, 0 ≤ e.reputationListID ∧ e.key = k

theorem Initial.step {done : List (FactionEntry F)} (h : Initial realm done m)
    (hdone : ∀ e' ∈ done, e' ∈ realm.factions) (he : e ∈ realm.factions) (hnotin : e ∉ done) :
    Initial realm (done ++ [e]) (initFaction realm m e) := by
  by_cases hlisted : 0 ≤ e.reputationListID
  · have hput : (initFaction realm m e).factions =
        m.factions.insert e.key ⟨e.id, e.key, 0, realm.getDefaultStateFlags e, true, true⟩ := by
      unfold initFaction
      rw [if_pos hlisted]
      rfl
    constructor
    · intro e' he' hlisted'
      rcases List.mem_append.mp he' with hbefore | hlast
      · have hne : e' ≠ e := ne_of_mem_of_not_mem hbefore hnotin
        rw [getState_of_insert he hput e' (hdone e' hbefore) hne]
        exact h.has e' hbefore hlisted'
      · obtain rfl := List.mem_singleton.mp hlast
        exact getState_self hlisted hput
    · intro k hk
      rw [hput, OrderedMap.contains_insert] at hk
      rcases Bool.or_eq_true_iff.mp hk with hsame | hbefore
      · exact ⟨e, by simp, hlisted, (of_decide_eq_true hsame).symm⟩
      · obtain ⟨e', he', hrest⟩ := h.only hbefore
        exact ⟨e', List.mem_append_left _ he', hrest⟩
  · have hsame : initFaction realm m e = m := if_neg hlisted
    rw [hsame]
    constructor
    · intro e' he' hlisted'
      rcases List.mem_append.mp he' with hbefore | hlast
      · exact h.has e' hbefore hlisted'
      · obtain rfl := List.mem_singleton.mp hlast
        exact absurd hlisted' hlisted
    · intro k hk
      obtain ⟨e', he', hrest⟩ := h.only hk
      exact ⟨e', List.mem_append_left _ he', hrest⟩

/-- A faction without a state is below honored, like one that is hostile. -/
theorem updateCounter_hostile (h : m.getState e = none) {least : ReputationRank}
    (hleast : 5 ≤ least.index) (new : ReputationRank) (count : UInt8) :
    updateCounter least .hostile new count = updateCounter least (m.getRank realm e) new count := by
  have hrank : m.getRank realm e = .neutral := by
    unfold getRank getReputation
    rw [h]
    rfl
  have hhostile : ¬ least.index ≤ ReputationRank.hostile.index :=
    not_le.mpr (lt_of_lt_of_le (by decide) hleast)
  have hneutral : ¬ least.index ≤ ReputationRank.neutral.index :=
    not_le.mpr (lt_of_lt_of_le (by decide) hleast)
  rw [hrank]
  simp only [updateCounter, if_neg hhostile, if_neg hneutral]

theorem Counted.initFaction (h : Counted realm m) (he : e ∈ realm.factions)
    (hnone : m.getState e = none) : Counted realm (initFaction realm m e) := by
  by_cases hlisted : 0 ≤ e.reputationListID
  · unfold ReputationMgr.initFaction
    rw [if_pos hlisted]
    refine h.change ⟨e.id, e.key, 0, realm.getDefaultStateFlags e, true, true⟩
      (realm.getBaseRank e) he hlisted rfl ?_ ?_ ?_ ?_ ?_
    · rw [Int32.add_zero]
      rfl
    · have hbefore : m.isVisible e = false := by rw [isVisible, hnone, Option.any_none]
      rw [hbefore]
      rfl
    · exact updateCounter_hostile hnone (by decide) _ _
    · exact updateCounter_hostile hnone (by decide) _ _
    · exact updateCounter_hostile hnone (by decide) _ _
  · have hsame : ReputationMgr.initFaction realm m e = m := if_neg hlisted
    rw [hsame]
    exact h

theorem counted_create (realm : Realm F) : Counted realm create := by
  have hnone : ∀ e : FactionEntry F, create.getState e = none := by
    intro e
    unfold getState
    split
    · rfl
    · rfl
  have hvisible : realm.factions.countP create.isVisible = 0 := by
    refine List.countP_eq_zero.mpr fun e _ => ?_
    rw [isVisible, hnone, Option.any_none]
    exact Bool.false_ne_true
  have hreaches : ∀ least : ReputationRank, 5 ≤ least.index →
      realm.factions.countP (create.reaches realm least) = 0 := by
    intro least hleast
    refine List.countP_eq_zero.mpr fun e _ => ?_
    have hrank : create.getRank realm e = .neutral := by
      unfold getRank getReputation
      rw [hnone]
      rfl
    rw [reaches, hrank, decide_eq_true_eq]
    exact not_le.mpr (lt_of_lt_of_le (by decide) hleast)
  constructor
  · rw [hvisible]
    rfl
  · rw [hreaches _ (by decide)]
    rfl
  · rw [hreaches _ (by decide)]
    rfl
  · rw [hreaches _ (by decide)]
    rfl
  · intro k hk
    exact absurd hk Bool.false_ne_true

theorem init_spec (realm : Realm F) :
    Counted realm (init realm) ∧ Initial realm realm.factions (init realm) := by
  have hfold : ∀ (rest done : List (FactionEntry F)) (m : ReputationMgr),
      done ++ rest = realm.factions → Counted realm m → Initial realm done m →
      Counted realm (rest.foldl (ReputationMgr.initFaction realm) m) ∧
        Initial realm realm.factions (rest.foldl (ReputationMgr.initFaction realm) m) := by
    intro rest
    induction rest with
    | nil =>
      intro done m hdone hcounted hinitial
      rw [List.append_nil] at hdone
      exact ⟨hcounted, hdone ▸ hinitial⟩
    | cons e rest ih =>
      intro done m hdone hcounted hinitial
      have he : e ∈ realm.factions := hdone ▸ by simp
      have hsub : ∀ e' ∈ done, e' ∈ realm.factions := fun e' he' =>
        hdone ▸ List.mem_append_left _ he'
      have hnotin : e ∉ done := by
        have hnodup := factions_nodup realm
        rw [← hdone] at hnodup
        exact fun hmem => (List.nodup_append.mp hnodup).2.2 e hmem e List.mem_cons_self rfl
      have hnone : m.getState e = none := by
        unfold getState
        split
        · next hlisted =>
            by_contra hsome
            have hcontains : m.factions.contains e.key = true :=
              Option.isSome_iff_ne_none.mpr hsome
            obtain ⟨e', he', hlisted', hkey⟩ := hinitial.only hcontains
            have hsame := realm.listIDs_distinct e' (hsub e' he') e he hlisted' (key_inj hkey)
            exact hnotin (hsame ▸ he')
        · rfl
      refine ih (done ++ [e]) _ ?_ (hcounted.initFaction he hnone)
        (hinitial.step hsub he hnotin)
      rw [List.append_assoc]
      exact hdone
  refine hfold realm.factions [] create rfl (counted_create realm) ⟨?_, ?_⟩
  · intro e he
    cases he
  · intro k hk
    exact absurd hk Bool.false_ne_true

/-! ### Loading -/

/-- The state that a row makes of the state before. -/
def loadedState (realm : Realm F) (e : FactionEntry F) (row : Row) (state : FactionState) :
    FactionState :=
  let state := { state with standing := row.standing }
  let shown := if hasFlag row.flags .visible then madeVisible state else none
  resetChanged row.flags
    (warIfHostile (reputationToRank (realm.getBaseReputation e + row.standing))
      (loadWar row.flags (loadInactive row.flags (shown.getD state))))

theorem loadedState_standing (realm : Realm F) (e : FactionEntry F) (row : Row)
    (state : FactionState) : (loadedState realm e row state).standing = row.standing := by
  unfold loadedState
  simp only
  rw [resetChanged_standing, warIfHostile_standing, loadWar_standing, loadInactive_standing]
  split
  · exact (madeVisible_getD _).1
  · rfl

theorem loadRow_eq {row : Row} (he : realm.lookupEntry row.faction = some e)
    (hlisted : 0 ≤ e.reputationListID) (hfind : m.factions.find? e.key = some state) :
    (loadRow realm m row).factions =
      m.factions.insert e.key (loadedState realm e row state) := by
  simp only [loadRow, he, if_pos hlisted, hfind]
  rfl

theorem loadRow_of_unlisted {row : Row}
    (h : ∀ e, realm.lookupEntry row.faction = some e → ¬ 0 ≤ e.reputationListID) :
    loadRow realm m row = m := by
  unfold loadRow
  split
  · next e he => exact if_neg (h e he)
  · rfl

/-- A row that meets a state with no standing keeps the counters right. -/
theorem Counted.loadRow (h : Counted realm m) {row : Row}
    (he : realm.lookupEntry row.faction = some e) (hlisted : 0 ≤ e.reputationListID)
    (hstate : m.getState e = some state) (hzero : state.standing = 0) :
    Counted realm (loadRow realm m row) := by
  have hfind : m.factions.find? e.key = some state := by
    rw [getState, if_pos hlisted] at hstate
    exact hstate
  have hold : reputationToRank (realm.getBaseReputation e) = m.getRank realm e := by
    rw [getRank, getReputation_of_getState hstate, hzero, Int32.add_zero]
  refine h.change (loadedState realm e row state)
    (reputationToRank (realm.getBaseReputation e + row.standing))
    (mem_of_lookupEntry he) hlisted (loadRow_eq he hlisted hfind) ?_ ?_ ?_ ?_ ?_
  · rw [loadedState_standing]
  · have hbefore := isVisible_of_getState hstate
    have hafter : hasFlag (loadedState realm e row state).flags .visible =
        ((if hasFlag row.flags .visible then
            madeVisible { state with standing := row.standing } else none).isSome ||
          hasFlag state.flags .visible) := by
      unfold loadedState
      simp only
      rw [resetChanged_flags, warIfHostile_visible, loadWar_visible, loadInactive_visible]
      split
      · exact (madeVisible_getD _).2
      · rfl
    rw [hafter, hbefore]
    simp only [ReputationMgr.loadRow, he, if_pos hlisted, hfind]
    split
    · exact moveCounter_shown { state with standing := row.standing } _
    · exact (moveCounter_self _ _).symm
  · rw [← hold]
    simp only [ReputationMgr.loadRow, he, if_pos hlisted]
    rfl
  · rw [← hold]
    simp only [ReputationMgr.loadRow, he, if_pos hlisted]
    rfl
  · rw [← hold]
    simp only [ReputationMgr.loadRow, he, if_pos hlisted]
    rfl

/-- The rows that are still to come meet states with no standing. -/
theorem counted_loadFromDB (realm : Realm F) (table : Table) :
    Counted realm (loadFromDB realm table) := by
  have hfold : ∀ (rows : List Row) (m : ReputationMgr), (rows.map Row.faction).Nodup →
      Counted realm m →
      (∀ row ∈ rows, ∀ e, realm.lookupEntry row.faction = some e → 0 ≤ e.reputationListID →
        ∃ state, m.getState e = some state ∧ state.standing = 0) →
      Counted realm (rows.foldl (ReputationMgr.loadRow realm) m) := by
    intro rows
    induction rows with
    | nil => exact fun m _ hm _ => hm
    | cons row rest ih =>
      intro m hnodup hm hzero
      obtain ⟨hnotin, hrest⟩ := List.nodup_cons.mp hnodup
      by_cases hlisted : ∃ e, realm.lookupEntry row.faction = some e ∧ 0 ≤ e.reputationListID
      · obtain ⟨e, he, hlisted⟩ := hlisted
        obtain ⟨state, hstate, hstanding⟩ := hzero row List.mem_cons_self e he hlisted
        have hfind : m.factions.find? e.key = some state := by
          rw [getState, if_pos hlisted] at hstate
          exact hstate
        refine ih _ hrest (hm.loadRow he hlisted hstate hstanding) ?_
        intro row' hrow' e' he' hlisted'
        have hne : e' ≠ e := by
          rintro rfl
          have hid := id_of_lookupEntry he
          have hid' := id_of_lookupEntry he'
          exact hnotin (List.mem_map.mpr ⟨row', hrow', hid'.symm.trans hid⟩)
        rw [getState_of_insert (mem_of_lookupEntry he) (loadRow_eq he hlisted hfind) e'
          (mem_of_lookupEntry he') hne]
        exact hzero row' (List.mem_cons_of_mem _ hrow') e' he' hlisted'
      · have hsame : ReputationMgr.loadRow realm m row = m :=
          loadRow_of_unlisted fun e he hlisted' => hlisted ⟨e, he, hlisted'⟩
        rw [List.foldl_cons, hsame]
        exact ih m hrest hm fun row' hrow' => hzero row' (List.mem_cons_of_mem _ hrow')
  obtain ⟨hcounted, hinitial⟩ := init_spec realm
  refine hfold table.rows (init realm) table.nodup hcounted ?_
  intro row _ e he hlisted
  exact ⟨_, hinitial.has e (mem_of_lookupEntry he) hlisted, rfl⟩

/-! ### Bounds -/

/-- What a change does to the standings: each is as it was, or gives a total between the bottom
and the cap. -/
def Clamps (realm : Realm F) (m m' : ReputationMgr) : Prop :=
  ∀ e ∈ realm.factions, ∀ state', m'.getState e = some state' →
    (∃ state, m.getState e = some state ∧ state.standing = state'.standing) ∨
      (reputationBottom ≤ (m'.getReputation realm e).toInt ∧
        (m'.getReputation realm e).toInt ≤ reputationCap)

theorem Clamps.refl (realm : Realm F) (m : ReputationMgr) : Clamps realm m m :=
  fun _ _ state' hstate => .inl ⟨state', hstate, rfl⟩

theorem Clamps.setOneFactionReputation (h : Clamps realm m m') (he : e ∈ realm.factions)
    (standing : Int32) (incremental : Bool) :
    Clamps realm m (m'.setOneFactionReputation realm e standing incremental) := by
  cases hfind : m'.factions.find? e.key with
  | none =>
    have hsame : m'.setOneFactionReputation realm e standing incremental = m' := by
      unfold ReputationMgr.setOneFactionReputation
      rw [hfind]
    rw [hsame]
    exact h
  | some state =>
    obtain ⟨state', total, hlow, hhigh, hstanding, -, hput, -⟩ :=
      setOneFactionReputation_eq realm hfind standing incremental
    intro e' he' state'' hstate
    by_cases hsame : e' = e
    · subst hsame
      by_cases hlisted : 0 ≤ e'.reputationListID
      · right
        rw [getReputation_of_getState (getState_self hlisted hput), hstanding, base_add_sub]
        exact ⟨hlow, hhigh⟩
      · rw [getState, if_neg hlisted] at hstate
        cases hstate
    · have hother := getState_of_insert he hput e' he' hsame
      rw [hother] at hstate
      rw [getReputation_congr hother]
      exact h e' he' state'' hstate

/-- `SetReputation` leaves no total that it changed outside the bounds. -/
theorem clamps_setReputation (realm : Realm F) (m : ReputationMgr) (he : e ∈ realm.factions)
    (standing : Int32) (incremental : Bool) :
    Clamps realm m (m.setReputation realm e standing incremental) := by
  have hspill : Clamps realm m (m.spill realm e standing incremental) :=
    spill_induction (P := Clamps realm m) (fun standing incremental he' hm =>
      hm.setOneFactionReputation he' standing incremental) e standing incremental (.refl realm m)
  unfold ReputationMgr.setReputation
  simp only
  split
  · have hone := hspill.setOneFactionReputation he standing incremental
    intro e' he' state' hstate
    rw [getState_sendState] at hstate
    obtain ⟨before, hbefore, rfl⟩ := Option.map_eq_some_iff.mp hstate
    rw [getReputation_sendState]
    exact hone e' he' before hbefore
  · exact hspill

end ReputationMgr

/-! ### Runs -/

/-- What changes the standings or the state of a faction. -/
inductive Operation
  | load (table : ReputationMgr.Table)
  | request (request : Request)

def ReputationMgr.step (realm : Realm F) (m : ReputationMgr) : Operation → ReputationMgr
  | .load table => loadFromDB realm table
  | .request request => m.handle realm request

/-- After any loads and requests each counter is its number of factions modulo 256, and a standing
that the next `SetReputation` changes gives a total between the bottom and the cap. -/
theorem countersMatch_of_run (realm : Realm F) (operations : List Operation) :
    (let m := Runs.run (ReputationMgr.step realm) ReputationMgr.create operations
     m.visibleFactionCount.toNat = realm.factions.countP m.isVisible % 2 ^ 8 ∧
     m.honoredFactionCount.toNat = realm.factions.countP (m.reaches realm .honored) % 2 ^ 8 ∧
     m.reveredFactionCount.toNat = realm.factions.countP (m.reaches realm .revered) % 2 ^ 8 ∧
     m.exaltedFactionCount.toNat = realm.factions.countP (m.reaches realm .exalted) % 2 ^ 8 ∧
     ∀ faction standing incremental, ReputationMgr.Clamps realm m
       (m.handle realm (.setReputation faction standing incremental))) := by
  have hcounted : ReputationMgr.Counted realm
      (Runs.run (ReputationMgr.step realm) ReputationMgr.create operations) := by
    have hadmissible : Runs.Admissible (ReputationMgr.step realm) (fun _ _ => True)
        ReputationMgr.create operations :=
      Runs.admissible_of_invariant (P := fun _ => True) (fun _ => trivial) (fun _ => trivial)
        trivial operations
    refine hadmissible.invariant (P := ReputationMgr.Counted realm) ?_
      (ReputationMgr.counted_create realm) (List.prefix_refl operations)
    intro m operation hm _
    cases operation with
    | load table => exact ReputationMgr.counted_loadFromDB realm table
    | request request => exact hm.handle request
  intro m
  refine ⟨?_, ?_, ?_, ?_, ?_⟩
  · rw [hcounted.visible]
    rfl
  · rw [hcounted.honored]
    rfl
  · rw [hcounted.revered]
    rfl
  · rw [hcounted.exalted]
    rfl
  · intro faction standing incremental
    unfold ReputationMgr.handle
    simp only
    split
    · next e he =>
        exact ReputationMgr.clamps_setReputation realm m (ReputationMgr.mem_of_lookupEntry he)
          standing incremental
    · exact .refl realm m

/-- A faction that every player sees from the start. -/
def shownFaction (n : Nat) : FactionEntry Unit :=
  ⟨n + 1, Int32.ofNat n, [⟨1, 0, 0, 1⟩], 0, (), (), 0⟩

def unitOps : FloatOps Unit := ⟨fun _ => (), fun _ _ => (), fun _ => 0, fun _ => true, id⟩

theorem shownFaction_inj {n n' : Nat} (hn : n < 256) (hn' : n' < 256)
    (h : Int32.ofNat n = Int32.ofNat n') : n = n' := by
  have hint := congrArg Int32.toInt h
  rw [Int32.toInt_ofNat_of_lt (by omega), Int32.toInt_ofNat_of_lt (by omega)] at hint
  exact Int.ofNat_inj.mp hint

theorem crowded_listIDs : ∀ e ∈ (List.range 256).map shownFaction,
    ∀ e' ∈ (List.range 256).map shownFaction, 0 ≤ e.reputationListID →
      e.reputationListID = e'.reputationListID → e = e' := by
  intro e he e' he' _ hid
  obtain ⟨n, hn, rfl⟩ := List.mem_map.mp he
  obtain ⟨n', hn', rfl⟩ := List.mem_map.mp he'
  rw [shownFaction_inj (List.mem_range.mp hn) (List.mem_range.mp hn') hid]

theorem crowded_ids : (((List.range 256).map shownFaction).map FactionEntry.id).Nodup := by
  rw [List.map_map]
  exact List.nodup_range.map fun n n' h => Nat.succ.inj h

theorem crowded_id_pos : ∀ e ∈ (List.range 256).map shownFaction, 0 < e.id := by
  intro e he
  obtain ⟨n, -, rfl⟩ := List.mem_map.mp he
  exact Nat.succ_pos n

theorem crowded_id_lt : ∀ e ∈ (List.range 256).map shownFaction, e.id < 2 ^ 16 := by
  intro e he
  obtain ⟨n, hn, rfl⟩ := List.mem_map.mp he
  have hlt := List.mem_range.mp hn
  change n + 1 < 2 ^ 16
  omega

/-- A store with 256 factions that are visible from the start. -/
def crowdedRealm : Realm Unit where
  factions := (List.range 256).map shownFaction
  ids_nodup := crowded_ids
  id_pos := crowded_id_pos
  id_lt := crowded_id_lt
  listIDs_distinct := crowded_listIDs
  spilloverTemplate _ := none
  raceMask := 1
  classMask := 1
  ops := unitOps

theorem isVisible_crowdedRealm :
    ∀ e ∈ crowdedRealm.factions, (ReputationMgr.init crowdedRealm).isVisible e = true := by
  intro e he
  have hstate := (ReputationMgr.init_spec crowdedRealm).2.has e he
  obtain ⟨n, hn, rfl⟩ := List.mem_map.mp he
  have hlisted : 0 ≤ (shownFaction n).reputationListID := by
    rw [shownFaction, Int32.le_iff_toInt_le,
      Int32.toInt_ofNat_of_lt (lt_trans (List.mem_range.mp hn) (by decide))]
    exact Int.natCast_nonneg n
  have hflags : crowdedRealm.getDefaultStateFlags (shownFaction n) = 1 := rfl
  rw [ReputationMgr.isVisible_of_getState (hstate hlisted)]
  exact (congrArg (hasFlag · .visible) hflags).trans (by decide)

/-- With 256 visible factions the counter is back at zero. -/
theorem visibleFactionCount_wraps :
    (ReputationMgr.loadFromDB crowdedRealm ⟨[], List.nodup_nil⟩).visibleFactionCount.toNat = 0 ∧
      crowdedRealm.factions.countP
        (ReputationMgr.loadFromDB crowdedRealm ⟨[], List.nodup_nil⟩).isVisible = 256 := by
  have hall : crowdedRealm.factions.countP (ReputationMgr.init crowdedRealm).isVisible = 256 := by
    rw [List.countP_eq_length.mpr isVisible_crowdedRealm]
    exact (List.length_map _).trans List.length_range
  have hcount := (ReputationMgr.init_spec crowdedRealm).1.visible
  have hload : ReputationMgr.loadFromDB crowdedRealm ⟨[], List.nodup_nil⟩ =
      ReputationMgr.init crowdedRealm := by
    rw [ReputationMgr.loadFromDB, List.foldl_nil]
  rw [hload, hcount, hall]
  exact ⟨by decide, rfl⟩

end Cataclysm.Reputation
