import Cataclysm.Combat.NextVictim

/-!
# Sorting the threat list only when it was marked

The online list is sorted before a victim is chosen, but only when it was marked. A change of threat
marks it when it lowers the victim or raises another, and a reference that comes online marks it
when it has more than 110 % of the victim's threat. So a change can disturb the order unseen: a
reference that is not the victim is lowered, the victim is raised from below, or a reference comes
online at the end of the list with too much threat.

As long as every change that does not mark the list leaves the threat where it fits, the list is
marked or in order after every call, and sorting it each time would make no difference.

## Implementation notes

The condition of a call follows the call: it speaks of the state before each change, also within
the calls that add threat to an owner.
-/

namespace Cataclysm.Combat

open ThreatValue

/-- Threat is compared by a strict weak order, as sorting asks for. -/
class ThreatOrder (F : Type) [ThreatValue F] : Prop where
  asymm : ∀ {x y : F}, lt x y = true → lt y x = false
  trans : ∀ {x y z : F}, lt x y = false → lt y z = false → lt x z = false

instance exactThreatOrder {F : Type} [Field F] [LinearOrder F] : ThreatOrder F where
  asymm h := decide_eq_false (lt_asymm (of_decide_eq_true h))
  trans h h' := decide_eq_false fun hlt =>
    (lt_or_ge _ _).elim (of_decide_eq_false h') fun hle =>
      of_decide_eq_false h (lt_of_lt_of_le hlt hle)

namespace ThreatManager

variable {F : Type} [ThreatValue F] (s : ThreatManager F)

/-- The higher threat first. -/
def Descending (ids : List Nat) : Prop :=
  ids.Pairwise fun id other => lt (s.getThreat id) (s.getThreat other) = false

/-- What holds between the calls. -/
def Ordered : Prop := s.isDirty = true ∨ s.Descending s.threatContainer

/-! ### When the order is kept -/

/-- Adding this threat marks the list. -/
def Marks (id : Nat) (modThreat : F) : Prop :=
  ne modThreat zero = true ∧
    ((s.currentVictim = some id ∧ lt modThreat zero = true) ∨
      (s.currentVictim ≠ some id ∧ lt zero modThreat = true))

/-- The threat is between those of the neighbours of a reference. -/
def Fits (id : Nat) (threat : F) : Prop :=
  ∀ before after, s.threatContainer = before ++ id :: after →
    (∀ other ∈ before, lt (s.getThreat other) threat = false) ∧
      ∀ other ∈ after, lt threat (s.getThreat other) = false

/-- A reference with this threat may come to the end of the list. -/
def Joins (threat : F) : Prop :=
  (∃ victim, s.currentVictim = some victim ∧
      lt (meleeShare (s.getThreat victim)) threat = true) ∨
    ∀ other ∈ s.threatContainer, lt (s.getThreat other) threat = false

/-- An offline reference whose target can be reached again. -/
def ComesOnline (answer : Answer F) (id : Nat) : Prop :=
  ∃ ref, s.refs.find? id = some ref ∧ ref.isOnline = false ∧
    ((ref.isValid || answer.isFound) && !answer.isGameMaster && !answer.isInFlight &&
      answer.isInMap && answer.inSamePhase &&
      (answer.isInAccessiblePlace || answer.isWithinCombatRange)) = true

variable (answers : Nat → Answer F)

/-- Adding threat to a reference marks the list, or the new threat fits. -/
def ThreatFits (id : Nat) (modThreat : F) : Prop :=
  s.isDirty = true ∨ s.Marks id modThreat ∨
    if s.isOnline id then s.Fits id (add (s.getThreat id) modThreat)
    else s.ComesOnline (answers s.asked) id → s.Joins (add (s.getThreat id) modThreat)

/-- The state before threat is added to the owner. -/
def threatAdded (id : Nat) (modThreat : F) : ThreatManager F :=
  let s := s.modifyRef id fun ref => { ref with threat := add ref.threat modThreat }
  let s := if s.isOnline id then s else s.updateOnlineStatus answers id
  if ne modThreat zero then s.processThreatEvent id (.threatChange modThreat) else s

section

variable (call : Nat → F → ThreatManager F → ThreatManager F)
  (callFits : Nat → F → ThreatManager F → Prop)

/-- The condition of `HostileReference::addThreat`. -/
def AddThreatToFits (id : Nat) (modThreat : F) (s : ThreatManager F) : Prop :=
  s.ThreatFits answers id modThreat ∧
    ∀ owner, (s.threatAdded answers id modThreat).isValid id = true → le zero modThreat = true →
      (answers (s.threatAdded answers id modThreat).asked).charmerOrOwner = some owner →
        (answers (s.threatAdded answers id modThreat).asked).isOwnerAlive = true →
          callFits owner zero (s.threatAdded answers id modThreat).ask

/-- The condition of `_addThreat`. -/
def AddThreatOfFits (victim : Nat) (threat : F) (s : ThreatManager F) : Prop :=
  match s.getReferenceByTarget s.threatContainer victim with
  | some id => AddThreatToFits answers callFits id threat s
  | none =>
    match s.getReferenceByTarget s.threatOfflineContainer victim with
    | some id => AddThreatToFits answers callFits id threat s
    | none => AddThreatToFits answers callFits s.nextRef threat (s.newReference victim)

/-- The condition of `doAddThreat`. -/
def DoAddThreatFits (victim : Nat) (threat : F) (s : ThreatManager F) : Prop :=
  let answer := answers s.asked
  let s := s.ask
  match answer.redirectThreatTarget with
  | some redirectTarget =>
    if lt zero threat = true ∧ answer.redirectThreatPercent ≠ 0 then
      let redirectThreat := calculatePct threat answer.redirectThreatPercent
      AddThreatOfFits answers callFits redirectTarget redirectThreat s ∧
        AddThreatOfFits answers callFits victim (sub threat redirectThreat)
          (addThreatOf answers call redirectTarget redirectThreat s)
    else AddThreatOfFits answers callFits victim threat s
  | none => AddThreatOfFits answers callFits victim threat s

end

/-- The condition of `ThreatManager::addThreat`. -/
def AddThreatFits : Nat → Nat → F → ThreatManager F → Prop
  | 0, _, _, _ => True
  | depth + 1, victim, threat, s =>
    (answers s.asked).isValidProcess = true →
      DoAddThreatFits answers (addThreat answers depth) (AddThreatFits depth) victim
        ((answers s.asked).calcThreat threat) s.ask

variable (depth : Nat)

/-- The condition of a call. A call that marks the list at its end or only takes references out of
it needs none. -/
def CallFits (s : ThreatManager F) : ThreatCall F → Prop
  | .addThreat victim threat => AddThreatFits answers depth victim threat s
  | .modifyThreatPercent victim percent =>
    ∀ id, s.getReferenceByTarget s.threatContainer victim = some id →
      AddThreatToFits answers (AddThreatFits answers depth) id
        (sub (add (s.getThreat id) (calculatePct (s.getThreat id) percent)) (s.getThreat id)) s
  | .tauntApply taunter =>
    ∀ victim id ref, s.currentVictim = some victim →
      s.getReferenceByTarget s.threatContainer taunter = some id →
      s.refs.find? id = some ref → lt ref.threat (s.getThreat victim) = true →
      ne ref.tempThreatModifier zero = false →
      ne (sub (s.getThreat victim) ref.threat) zero = true →
        AddThreatToFits answers (AddThreatFits answers depth) id
          (sub (s.getThreat victim) ref.threat)
          (s.modifyRef id fun found =>
            { found with tempThreatModifier := sub (s.getThreat victim) ref.threat })
  | .tauntFadeOut taunter =>
    ∀ id ref, s.getReferenceByTarget s.threatContainer taunter = some id →
      s.refs.find? id = some ref → ne ref.tempThreatModifier zero = true →
        AddThreatToFits answers (AddThreatFits answers depth) id (neg ref.tempThreatModifier) s
  | .updateOnlineStatus id =>
    s.ComesOnline (answers s.asked) id → s.isDirty = true ∨ s.Joins (s.getThreat id)
  | _ => True

/-! ### What leaves the order alone -/

variable {s answers depth} {s' : ThreatManager F} {id : Nat}

variable {threat : F}

theorem getThreat_of_find? {ref : HostileReference F} (hfind : s.refs.find? id = some ref) :
    s.getThreat id = ref.threat := by
  rw [getThreat, hfind]

theorem getThreat_modifyRef {f : HostileReference F → HostileReference F} {other : Nat}
    (h : other = id → ∀ ref, (f ref).threat = ref.threat) :
    (s.modifyRef id f).getThreat other = s.getThreat other := by
  obtain rfl | hne := eq_or_ne other id
  · cases hfind : s.refs.find? other with
    | none => rw [modifyRef_none hfind]
    | some ref =>
      rw [getThreat_of_find? hfind, ← h rfl ref]
      apply getThreat_of_find?
      rw [find?_modifyRef, if_pos rfl, hfind, Option.map_some]
  · rw [getThreat, getThreat, find?_modifyRef, if_neg hne]

/-- References only leave the list, their threat stays, and so does the mark. -/
structure Eases (s s' : ThreatManager F) : Prop where
  sublist : s'.threatContainer.Sublist s.threatContainer
  threat : ∀ other ∈ s'.threatContainer, s'.getThreat other = s.getThreat other
  marked : s.isDirty = true → s'.isDirty = true

theorem Eases.refl (s : ThreatManager F) : Eases s s :=
  ⟨List.Sublist.refl _, fun _ _ => rfl, fun h => h⟩

theorem Eases.trans {s'' : ThreatManager F} (h : Eases s s') (h' : Eases s' s'') : Eases s s'' :=
  ⟨h'.sublist.trans h.sublist,
    fun other hin => (h'.threat other hin).trans (h.threat other (h'.sublist.subset hin)),
    fun hmark => h'.marked (h.marked hmark)⟩

/-- Threat that stays the same keeps the order of a part of the list. -/
theorem Descending.of_sublist {ids ids' : List Nat} (h : s.Descending ids)
    (hsublist : ids'.Sublist ids) (hthreat : ∀ id ∈ ids', s'.getThreat id = s.getThreat id) :
    s'.Descending ids' := by
  refine (h.sublist hsublist).imp_of_mem fun {id other} hin hin' hle => ?_
  rw [hthreat id hin, hthreat other hin']
  exact hle

theorem Ordered.eases (h : s.Ordered) (heases : Eases s s') : s'.Ordered := by
  obtain hmarked | horder := h
  · exact Or.inl (heases.marked hmarked)
  · exact Or.inr (horder.of_sublist heases.sublist heases.threat)

/-- The order, the mark and the victim are the same. -/
structure Alike (s s' : ThreatManager F) : Prop where
  container : s'.threatContainer = s.threatContainer
  threat : ∀ other, s'.getThreat other = s.getThreat other
  isDirty : s'.isDirty = s.isDirty
  currentVictim : s'.currentVictim = s.currentVictim

theorem Alike.trans {s'' : ThreatManager F} (h : Alike s s') (h' : Alike s' s'') : Alike s s'' :=
  ⟨h'.container.trans h.container, fun other => (h'.threat other).trans (h.threat other),
    h'.isDirty.trans h.isDirty, h'.currentVictim.trans h.currentVictim⟩

theorem Alike.eases (h : Alike s s') : Eases s s' :=
  ⟨h.container ▸ List.Sublist.refl _, fun other _ => h.threat other,
    fun hmark => h.isDirty.trans hmark⟩

theorem Alike.joins_iff (h : Alike s s') : s'.Joins threat ↔ s.Joins threat := by
  simp only [Joins, h.container, h.threat, h.currentVictim]

theorem Alike.ask : Alike s s.ask := ⟨rfl, fun _ => rfl, rfl, rfl⟩

theorem Alike.modifyRef {f : HostileReference F → HostileReference F}
    (hthreat : ∀ ref, (f ref).threat = ref.threat) : Alike s (s.modifyRef id f) := by
  obtain ⟨hcontainer, -, hvictim, -⟩ := modifyRef_lists s id f
  refine ⟨hcontainer, fun other => getThreat_modifyRef fun _ => hthreat, ?_, hvictim⟩
  rw [ThreatManager.modifyRef]
  split
  · rfl
  · rfl

theorem Alike.setAccessibleState (id : Nat) (isAccessible : Bool) :
    Alike s (s.setAccessibleState id isAccessible) := by
  rw [setAccessibleState_eq]
  exact .modifyRef fun _ => rfl

theorem Eases.dropVictim (id : Nat) : Eases s (s.dropVictim id) := by
  rw [ThreatManager.dropVictim]
  split
  · exact ⟨List.Sublist.refl _, fun _ _ => rfl, fun _ => rfl⟩
  · exact .refl s

theorem Eases.moveOffline (id : Nat) : Eases s (s.moveOffline id) :=
  ⟨List.filter_sublist, fun _ _ => rfl, fun h => h⟩

theorem Eases.threatChange (id : Nat) (value : F) :
    Eases s (s.processThreatEvent id (.threatChange value)) := by
  rw [processThreatEvent]
  split
  · exact ⟨List.Sublist.refl _, fun _ _ => rfl, fun _ => rfl⟩
  · exact .refl s

/-- A reference goes offline. -/
theorem Eases.setOffline (id : Nat) : Eases s (s.setOnlineOfflineState id false) := by
  rw [setOnlineOfflineState]
  split
  · exact .refl s
  · next ref hfind =>
      split
      · dsimp only
        rw [if_neg Bool.false_ne_true, setAccessibleState_eq, modifyRef_modifyRef]
        have hoff : (s.modifyRef id fun ref =>
            { ref with isOnline := false, isAccessible := false }).isOnline id = false := by
          rw [isOnline, find?_modifyRef, if_pos rfl, hfind]
          rfl
        rw [processThreatEvent, if_pos hoff]
        have hmodified : Alike s (s.modifyRef id fun ref =>
            { ref with isOnline := false, isAccessible := false }) :=
          .modifyRef fun _ => rfl
        exact (hmodified.eases.trans (.dropVictim id)).trans (.moveOffline id)
      · exact .refl s

theorem Eases.invalidate (id : Nat) : Eases s (s.invalidate id) := by
  have halike : Alike (s.setOnlineOfflineState id false) (s.invalidate id) :=
    .modifyRef fun _ => rfl
  exact (Eases.setOffline id).trans halike.eases

theorem Eases.removeFromList (id : Nat) : Eases s (s.processThreatEvent id .removeFromList) := by
  rw [processThreatEvent]
  have hleft : Eases (s.dropVictim id) { s.dropVictim id with
      threatContainer := (s.dropVictim id).threatContainer.filter (· ≠ id) } :=
    ⟨List.filter_sublist, fun _ _ => rfl, fun h => h⟩
  have hoffline : Eases (s.dropVictim id) { s.dropVictim id with
      threatOfflineContainer := (s.dropVictim id).threatOfflineContainer.filter (· ≠ id) } :=
    ⟨List.Sublist.refl _, fun _ _ => rfl, fun h => h⟩
  split
  · exact (Eases.dropVictim id).trans hleft
  · exact (Eases.dropVictim id).trans hoffline

theorem Eases.delete (hnot : id ∉ s.threatContainer) : Eases s (s.delete id) := by
  refine ⟨List.Sublist.refl _, fun other hin => ?_, fun h => h⟩
  have hne : other ≠ id := fun heq => hnot (heq ▸ hin)
  rw [getThreat, getThreat, ThreatManager.delete, OrderedMap.find?_erase, if_neg hne]

/-! ### A reference comes online -/

theorem Ordered.setOnline (h : s.Ordered)
    (hjoins : ∀ ref, s.refs.find? id = some ref → ref.isOnline = false →
      s.isDirty = true ∨ s.Joins (s.getThreat id)) :
    (s.setOnlineOfflineState id true).Ordered := by
  rw [setOnlineOfflineState]
  split
  · exact h
  · next ref hfind =>
      split
      · next hne =>
          have hoff : ref.isOnline = false := Bool.eq_false_of_not_eq_true hne
          have halike : Alike s (s.modifyRef id fun ref => { ref with isOnline := true }) :=
            .modifyRef fun _ => rfl
          have hjoins' := hjoins ref hfind hoff
          rw [← halike.joins_iff, ← halike.threat, ← halike.isDirty] at hjoins'
          have hordered := h.eases halike.eases
          have honline : (s.modifyRef id fun ref =>
              { ref with isOnline := true }).isOnline id = true := by
            rw [isOnline, find?_modifyRef, if_pos rfl, hfind]
            rfl
          dsimp only
          rw [if_pos rfl]
          generalize (s.modifyRef id fun ref =>
            { ref with isOnline := true }) = t at hjoins' hordered honline
          rw [processThreatEvent, honline, if_neg Bool.noConfusion]
          split
          · exact Or.inl rfl
          · next hnotExceeds =>
              obtain hmarked | ⟨victim, hvictim, hexceeds⟩ | hlast := hjoins'
              · exact Or.inl hmarked
              · rw [hvictim] at hnotExceeds
                exact absurd hexceeds hnotExceeds
              · refine hordered.imp (fun hmarked => hmarked) fun horder => ?_
                apply List.pairwise_append.mpr
                refine ⟨horder, List.pairwise_singleton _ _, fun other hin id' hin' => ?_⟩
                rw [List.mem_singleton.mp hin']
                exact hlast other hin
      · exact h

omit [ThreatValue F] in
/-- A target that was cut off is linked again when it is found. -/
theorem find?_linked (s : ThreatManager F) (id : Nat) (isFound : Bool) :
    (if s.isValid id = false ∧ isFound = true then
        s.modifyRef id fun ref => { ref with isValid := true }
      else s).refs.find? id =
      (s.refs.find? id).map fun ref => { ref with isValid := ref.isValid || isFound } := by
  cases hfind : s.refs.find? id with
  | none =>
    split
    · rw [modifyRef_none hfind, hfind, Option.map_none]
    · rw [hfind, Option.map_none]
  | some ref =>
    rw [isValid, hfind, Option.any_some, Option.map_some]
    split
    · next hcut =>
        rw [find?_modifyRef, if_pos rfl, hfind, Option.map_some, hcut.2, Bool.or_true]
    · next hkept =>
        have hsame : (ref.isValid || isFound) = ref.isValid := by
          cases hvalid : ref.isValid with
          | true => rfl
          | false => exact Bool.eq_false_of_not_eq_true fun hfound => hkept ⟨hvalid, hfound⟩
        rw [hfind, hsame]

theorem Ordered.updateOnlineStatus (h : s.Ordered) (answers : Nat → Answer F)
    (hjoins : s.ComesOnline (answers s.asked) id →
      s.isDirty = true ∨ s.Joins (s.getThreat id)) :
    (s.updateOnlineStatus answers id).Ordered := by
  rw [ThreatManager.updateOnlineStatus]
  have hlinked := find?_linked s.ask id (answers s.asked).isFound
  have halike : Alike s (if s.ask.isValid id = false ∧ (answers s.asked).isFound = true then
      s.ask.modifyRef id fun ref => { ref with isValid := true } else s.ask) := by
    split
    · exact Alike.ask.trans (.modifyRef fun _ => rfl)
    · exact Alike.ask
  generalize (if s.ask.isValid id = false ∧ (answers s.asked).isFound = true then
    s.ask.modifyRef id fun ref => { ref with isValid := true } else s.ask) = t at hlinked halike
  generalize hreach : (t.isValid id && !(answers s.asked).isGameMaster &&
    !(answers s.asked).isInFlight && (answers s.asked).isInMap &&
    (answers s.asked).inSamePhase) = reachable
  have hset := halike.trans (.setAccessibleState id
    (reachable && (answers s.asked).isInAccessiblePlace))
  cases honline : reachable &&
      ((answers s.asked).isInAccessiblePlace || (answers s.asked).isWithinCombatRange) with
  | false => exact h.eases (hset.eases.trans (.setOffline id))
  | true =>
    apply (h.eases hset.eases).setOnline
    intro ref hfind hoff
    rw [hset.joins_iff, hset.threat, hset.isDirty]
    apply hjoins
    rw [setAccessibleState_eq, find?_modifyRef, if_pos rfl, hlinked, Option.map_map] at hfind
    obtain ⟨old, hold, rfl⟩ := Option.map_eq_some_iff.mp hfind
    refine ⟨old, hold, hoff, ?_⟩
    have hvalid : t.isValid id = (old.isValid || (answers s.asked).isFound) := by
      rw [isValid, hlinked]
      exact congrArg (fun found => (Option.map _ found).any _) hold
    rw [← hvalid, hreach]
    exact honline

/-! ### Adding threat -/

variable {victim : Nat} {modThreat : F}

/-- An event never makes a victim. -/
theorem currentVictim_processThreatEvent {event : ThreatEvent F}
    (h : (s.processThreatEvent id event).currentVictim = some victim) :
    s.currentVictim = some victim := by
  have hdrop : ∀ {found}, (s.dropVictim id).currentVictim = some found →
      s.currentVictim = some found := by
    intro found hfound
    rw [dropVictim] at hfound
    split at hfound
    · cases hfound
    · exact hfound
  cases event with
  | threatChange value =>
    rw [processThreatEvent] at h
    split at h
    · exact h
    · exact h
  | onlineStatus =>
    rw [processThreatEvent] at h
    split at h
    · exact hdrop h
    · split at h
      · exact h
      · exact h
  | removeFromList =>
    rw [processThreatEvent] at h
    split at h
    · exact hdrop h
    · exact hdrop h
  | accessibleStatus => exact h

theorem currentVictim_setOnlineOfflineState {isOnline : Bool}
    (h : (s.setOnlineOfflineState id isOnline).currentVictim = some victim) :
    s.currentVictim = some victim := by
  rw [setOnlineOfflineState] at h
  split at h
  · exact h
  · split at h
    · have hold := currentVictim_processThreatEvent h
      split at hold
      · rwa [(modifyRef_lists _ _ _).2.2.1] at hold
      · rwa [setAccessibleState_eq, modifyRef_modifyRef, (modifyRef_lists _ _ _).2.2.1] at hold
    · exact h

theorem currentVictim_updateOnlineStatus
    (h : (s.updateOnlineStatus answers id).currentVictim = some victim) :
    s.currentVictim = some victim := by
  rw [updateOnlineStatus] at h
  have hold := currentVictim_setOnlineOfflineState h
  rw [setAccessibleState_eq, (modifyRef_lists _ _ _).2.2.1] at hold
  split at hold
  · rwa [(modifyRef_lists _ _ _).2.2.1] at hold
  · exact hold

theorem isDirty_of_marks (h : s.Marks id modThreat) :
    (if ne modThreat zero then s.processThreatEvent id (.threatChange modThreat)
      else s).isDirty = true := by
  rw [if_pos h.1, processThreatEvent, if_pos h.2]
  rfl

/-- A threat that fits keeps the order of the list. -/
theorem descending_of_fits (hnodup : s.threatContainer.Nodup)
    (hcontainer : s'.threatContainer = s.threatContainer) (hthreat : s'.getThreat id = threat)
    (hother : ∀ other, other ≠ id → s'.getThreat other = s.getThreat other)
    (hrest : s.Descending (s.threatContainer.filter (· ≠ id))) (hin : id ∈ s.threatContainer)
    (hfits : s.Fits id threat) : s'.Descending s'.threatContainer := by
  obtain ⟨before, after, hids⟩ := List.append_of_mem hin
  obtain ⟨hbefore, hafter⟩ := hfits before after hids
  rw [hids] at hnodup
  have hnotIn := (List.nodup_middle.mp hnodup).notMem
  rw [List.mem_append, not_or] at hnotIn
  have hne : ∀ {ids : List Nat}, id ∉ ids → ∀ other ∈ ids, other ≠ id :=
    fun hnot other hin heq => hnot (heq ▸ hin)
  have hwithout : s.threatContainer.filter (· ≠ id) = before ++ after := by
    have hkeep : ∀ {ids : List Nat}, id ∉ ids → ids.filter (· ≠ id) = ids :=
      fun hnot => List.filter_eq_self.mpr fun other hin => decide_eq_true (hne hnot other hin)
    have hself : List.filter (· ≠ id) (id :: after) = List.filter (· ≠ id) after :=
      List.filter_cons_of_neg (by simp)
    rw [hids, List.filter_append, hself, hkeep hnotIn.1, hkeep hnotIn.2]
  rw [hwithout] at hrest
  have hpairs := List.pairwise_append.mp hrest
  rw [hcontainer, hids]
  apply List.pairwise_append.mpr
  refine ⟨?_, List.pairwise_cons.mpr ⟨?_, ?_⟩, ?_⟩
  · exact Descending.of_sublist hpairs.1 (List.Sublist.refl _)
      fun other hin => hother other (hne hnotIn.1 other hin)
  · intro other hin
    rw [hthreat, hother other (hne hnotIn.2 other hin)]
    exact hafter other hin
  · exact Descending.of_sublist hpairs.2.1 (List.Sublist.refl _)
      fun other hin => hother other (hne hnotIn.2 other hin)
  · intro other hfront id' hback
    rw [hother other (hne hnotIn.1 other hfront)]
    obtain rfl | hback := List.mem_cons.mp hback
    · rw [hthreat]
      exact hbefore other hfront
    · rw [hother id' (hne hnotIn.2 id' hback)]
      exact hpairs.2.2 other hfront id' hback

/-- The event of a changed threat at most marks the list. -/
theorem Eases.changed (modThreat : F) :
    Eases s (if ne modThreat zero then s.processThreatEvent id (.threatChange modThreat)
      else s) := by
  split
  · exact .threatChange id modThreat
  · exact .refl s

/-- Without one reference the list is in order, and the new threat of that one fits. -/
theorem ordered_threatAdded (hsound : Sound s)
    (h : s.isDirty = true ∨ s.Descending (s.threatContainer.filter (· ≠ id)))
    (hfits : s.ThreatFits answers id modThreat) : (s.threatAdded answers id modThreat).Ordered := by
  obtain ⟨hcontainer, -, hvictim, -⟩ := modifyRef_lists s id fun ref =>
    { ref with threat := add ref.threat modThreat }
  have hrefs : ∀ other, (s.modifyRef id fun ref =>
      { ref with threat := add ref.threat modThreat }).refs.find? other =
        if other = id then (s.refs.find? id).map fun ref =>
          { ref with threat := add ref.threat modThreat }
        else s.refs.find? other := find?_modifyRef _
  have hmarked : (s.modifyRef id fun ref =>
      { ref with threat := add ref.threat modThreat }).isDirty = s.isDirty := by
    rw [modifyRef]
    split
    · rfl
    · rfl
  have hasked : (s.modifyRef id fun ref =>
      { ref with threat := add ref.threat modThreat }).asked = s.asked := by
    rw [modifyRef]
    split
    · rfl
    · rfl
  rw [threatAdded]
  generalize (s.modifyRef id fun ref => { ref with threat := add ref.threat modThreat }) = t
    at hcontainer hvictim hrefs hmarked hasked
  have hother : ∀ other, other ≠ id → t.getThreat other = s.getThreat other := by
    intro other hne
    rw [getThreat, getThreat, hrefs, if_neg hne]
  have hself : ∀ ref, s.refs.find? id = some ref →
      t.getThreat id = add (s.getThreat id) modThreat := by
    intro ref hfind
    have hnew := hrefs id
    rw [if_pos rfl, hfind, Option.map_some] at hnew
    rw [getThreat_of_find? hfind, getThreat_of_find? hnew]
  have honline : t.isOnline id = s.isOnline id := by
    rw [isOnline, hrefs, if_pos rfl, Option.any_map]
    rfl
  rw [honline]
  cases hstatus : s.isOnline id with
  | true =>
    rw [if_pos rfl]
    obtain hdirty | hmarks | hplace := hfits
    · exact Ordered.eases (Or.inl (hmarked.trans hdirty)) (.changed modThreat)
    · apply Or.inl
      apply isDirty_of_marks
      rwa [Marks, hvictim]
    · obtain hdirty | hrest := h
      · exact Ordered.eases (Or.inl (hmarked.trans hdirty)) (.changed modThreat)
      · rw [if_pos hstatus] at hplace
        obtain ⟨ref, hfind, hon⟩ := (Option.any_eq_true _ _).mp hstatus
        have hin : id ∈ s.threatContainer := hsound.online.mpr ⟨ref, hfind, hon⟩
        have horder := descending_of_fits hsound.nodupOnline hcontainer (hself ref hfind) hother
          hrest hin hplace
        exact Ordered.eases (Or.inr horder) (.changed modThreat)
  | false =>
    rw [if_neg Bool.false_ne_true]
    have hnotIn : id ∉ s.threatContainer := by
      intro hin
      obtain ⟨ref, hfind, hon⟩ := hsound.online.mp hin
      rw [isOnline, hfind, Option.any_some, hon] at hstatus
      cases hstatus
    have hne : ∀ other ∈ s.threatContainer, other ≠ id :=
      fun other hin heq => hnotIn (heq ▸ hin)
    have hordered : t.Ordered := by
      obtain hdirty | hrest := h
      · exact Or.inl (hmarked.trans hdirty)
      · have hall : s.threatContainer.filter (· ≠ id) = s.threatContainer :=
          List.filter_eq_self.mpr fun other hin => decide_eq_true (hne other hin)
        rw [hall] at hrest
        refine Or.inr ?_
        rw [hcontainer]
        exact hrest.of_sublist (List.Sublist.refl _) fun other hin => hother other (hne other hin)
    obtain hdirty | hmarks | hjoins := hfits
    · exact (hordered.updateOnlineStatus answers fun _ =>
        Or.inl (hmarked.trans hdirty)).eases (.changed modThreat)
    · apply Or.inl
      apply isDirty_of_marks
      refine ⟨hmarks.1, Or.inr ⟨fun hcurrent => ?_, ?_⟩⟩
      · have hold := currentVictim_updateOnlineStatus hcurrent
        rw [hvictim] at hold
        exact hnotIn (hsound.victim hold)
      · obtain ⟨hcurrent, -⟩ | ⟨-, hpositive⟩ := hmarks.2
        · exact absurd (hsound.victim hcurrent) hnotIn
        · exact hpositive
    · rw [if_neg (Bool.eq_false_iff.mp hstatus)] at hjoins
      refine (hordered.updateOnlineStatus answers fun hcomes => Or.inr ?_).eases
        (.changed modThreat)
      obtain ⟨ref, hfind, hoff, hreach⟩ := hcomes
      rw [hrefs, if_pos rfl] at hfind
      obtain ⟨old, hold, rfl⟩ := Option.map_eq_some_iff.mp hfind
      rw [hasked] at hreach
      rw [hself old hold]
      obtain ⟨victim, hcurrent, hexceeds⟩ | hlast := hjoins ⟨old, hold, hoff, hreach⟩
      · refine Or.inl ⟨victim, hvictim.trans hcurrent, ?_⟩
        rwa [hother victim (hne victim (hsound.victim hcurrent))]
      · refine Or.inr fun other hin => ?_
        rw [hcontainer] at hin
        rw [hother other (hne other hin)]
        exact hlast other hin

theorem Ordered.but (h : s.Ordered) (id : Nat) :
    s.isDirty = true ∨ s.Descending (s.threatContainer.filter (· ≠ id)) :=
  h.imp_right fun horder => horder.of_sublist List.filter_sublist fun _ _ => rfl

section

variable {call : Nat → F → ThreatManager F → ThreatManager F}
  {callFits : Nat → F → ThreatManager F → Prop}

/-- What adds threat within a call keeps the order when its condition holds. -/
def OrderedCall (call : Nat → F → ThreatManager F → ThreatManager F)
    (callFits : Nat → F → ThreatManager F → Prop) : Prop :=
  ∀ (victim : Nat) (threat : F) {s : ThreatManager F}, Sound s → s.Ordered →
    callFits victim threat s → (call victim threat s).Ordered

theorem Sound.threatAdded (h : Sound s) (answers : Nat → Answer F) (id : Nat) (modThreat : F) :
    Keeps s (s.threatAdded answers id modThreat) := by
  rw [ThreatManager.threatAdded]
  have hadded : Keeps s (s.modifyRef id fun ref =>
      { ref with threat := ThreatValue.add ref.threat modThreat }) :=
    h.modifyRef (fun _ => rfl) (fun _ => rfl) fun _ _ _ hvalid => hvalid
  generalize (s.modifyRef id fun ref =>
    { ref with threat := ThreatValue.add ref.threat modThreat }) = added at hadded
  have hchecked : Keeps s (if added.isOnline id then added
      else added.updateOnlineStatus answers id) := by
    split
    · exact hadded
    · exact hadded.trans (hadded.sound.updateOnlineStatus answers id)
  split
  · exact hchecked.trans (hchecked.sound.threatChange id modThreat)
  · exact hchecked

/-- After the threat is added the owner of the unit may be asked for, and may get some. -/
theorem addThreatTo_cases (s : ThreatManager F) (answers : Nat → Answer F)
    (call : Nat → F → ThreatManager F → ThreatManager F) (id : Nat) (modThreat : F) :
    addThreatTo answers call id modThreat s = s.threatAdded answers id modThreat ∨
      addThreatTo answers call id modThreat s = (s.threatAdded answers id modThreat).ask ∨
        ∃ owner, (s.threatAdded answers id modThreat).isValid id = true ∧
          le zero modThreat = true ∧
          (answers (s.threatAdded answers id modThreat).asked).charmerOrOwner = some owner ∧
          (answers (s.threatAdded answers id modThreat).asked).isOwnerAlive = true ∧
          addThreatTo answers call id modThreat s =
            call owner zero (s.threatAdded answers id modThreat).ask := by
  generalize heq : s.threatAdded answers id modThreat = t
  rw [threatAdded] at heq
  rw [addThreatTo, heq]
  split
  · next hboth =>
      rw [Bool.and_eq_true] at hboth
      dsimp only
      split
      · next owner hsome =>
          split
          · next halive => exact Or.inr (Or.inr ⟨owner, hboth.1, hboth.2, hsome, halive, rfl⟩)
          · exact Or.inr (Or.inl rfl)
      · exact Or.inr (Or.inl rfl)
  · exact Or.inl rfl

theorem ordered_addThreatTo (hsound : Sound s) (hcall : OrderedCall call callFits)
    (h : s.isDirty = true ∨ s.Descending (s.threatContainer.filter (· ≠ id)))
    (hfits : AddThreatToFits answers callFits id modThreat s) :
    (addThreatTo answers call id modThreat s).Ordered := by
  have hordered := ordered_threatAdded hsound h hfits.1
  have hasked := hordered.eases Alike.ask.eases
  obtain heq | heq | ⟨owner, hvalid, hle, hsome, halive, heq⟩ :=
    addThreatTo_cases s answers call id modThreat
  · rw [heq]
    exact hordered
  · rw [heq]
    exact hasked
  · rw [heq]
    have hkept := (hsound.threatAdded answers id modThreat).sound.ask.sound
    exact hcall owner zero hkept hasked (hfits.2 owner hvalid hle hsome halive)

theorem Ordered.addThreatTo (h : s.Ordered) (hsound : Sound s) (hcall : OrderedCall call callFits)
    (hfits : AddThreatToFits answers callFits id modThreat s) :
    (addThreatTo answers call id modThreat s).Ordered :=
  ordered_addThreatTo hsound hcall (h.but id) hfits

/-- A new reference is the last of the list. -/
theorem Ordered.newReference (h : s.Ordered) (hsound : Sound s) (victim : Nat) :
    (s.newReference victim).isDirty = true ∨ (s.newReference victim).Descending
      ((s.newReference victim).threatContainer.filter (· ≠ s.nextRef)) := by
  have hne : ∀ other ∈ s.threatContainer, other ≠ s.nextRef := by
    intro other hin heq
    obtain ⟨ref, hfind, -⟩ := hsound.online.mp hin
    exact absurd (hsound.fresh hfind) (heq ▸ lt_irrefl _)
  have hwithout : (s.newReference victim).threatContainer.filter (· ≠ s.nextRef) =
      s.threatContainer := by
    have hlast : List.filter (· ≠ s.nextRef) [s.nextRef] = [] :=
      List.filter_cons_of_neg (by simp)
    have hold : s.threatContainer.filter (· ≠ s.nextRef) = s.threatContainer :=
      List.filter_eq_self.mpr fun other hin => decide_eq_true (hne other hin)
    rw [ThreatManager.newReference, List.filter_append, hlast, hold, List.append_nil]
  rw [hwithout]
  refine h.imp_right fun horder => horder.of_sublist (List.Sublist.refl _) fun other hin => ?_
  rw [getThreat, getThreat, ThreatManager.newReference, OrderedMap.find?_insert,
    if_neg (hne other hin)]

theorem Ordered.addThreatOf (h : s.Ordered) (hsound : Sound s) (hcall : OrderedCall call callFits)
    (hfits : AddThreatOfFits answers callFits victim threat s) :
    (addThreatOf answers call victim threat s).Ordered := by
  rw [AddThreatOfFits] at hfits
  rw [ThreatManager.addThreatOf]
  cases hon : s.getReferenceByTarget s.threatContainer victim with
  | some id =>
    rw [hon] at hfits
    exact h.addThreatTo hsound hcall hfits
  | none =>
    rw [hon] at hfits
    cases hoff : s.getReferenceByTarget s.threatOfflineContainer victim with
    | some id =>
      rw [hoff] at hfits
      exact h.addThreatTo hsound hcall hfits
    | none =>
      rw [hoff] at hfits
      have hcreated : Keeps s (s.newReference victim) :=
        hsound.newReference fun hfind => getReferenceByTarget_none hsound hon hoff hfind
      have hadded := ordered_addThreatTo hcreated.sound hcall (h.newReference hsound victim)
        hfits
      have hasked := hadded.eases Alike.ask.eases
      dsimp only
      split
      · exact hasked.eases (.setOffline s.nextRef)
      · exact hasked

theorem Ordered.doAddThreat (h : s.Ordered) (hsound : Sound s) (hcall : OrderedCall call callFits)
    (hsoundCall : SoundCall call) (hfits : DoAddThreatFits answers call callFits victim threat s) :
    (doAddThreat answers call victim threat s).Ordered := by
  have hasked := h.eases Alike.ask.eases
  have hkept := hsound.ask.sound
  rw [DoAddThreatFits] at hfits
  rw [ThreatManager.doAddThreat]
  dsimp only at hfits ⊢
  cases htarget : (answers s.asked).redirectThreatTarget with
  | none =>
    rw [htarget] at hfits
    exact hasked.addThreatOf hkept hcall hfits
  | some redirectTarget =>
    rw [htarget] at hfits
    dsimp only at hfits ⊢
    split at hfits
    · next hredirects =>
        rw [if_pos hredirects]
        have hredirected := hasked.addThreatOf hkept hcall hfits.1
        exact hredirected.addThreatOf (hkept.addThreatOf answers hsoundCall _ _).sound hcall
          hfits.2
    · next hplain =>
        rw [if_neg hplain]
        exact hasked.addThreatOf hkept hcall hfits

end

theorem orderedCall_addThreat (answers : Nat → Answer F) (depth : Nat) :
    OrderedCall (addThreat answers depth) (AddThreatFits answers depth) := by
  induction depth with
  | zero => exact fun _ _ _ _ h _ => h
  | succ depth ih =>
    intro victim threat s hsound h hfits
    have hasked := h.eases Alike.ask.eases
    rw [addThreat]
    split
    · next hvalid =>
        exact hasked.doAddThreat hsound.ask.sound ih (soundCall_addThreat answers depth)
          (hfits hvalid)
    · exact hasked

/-! ### Every call -/

theorem ordered_of_empty (hnil : s.threatContainer = []) : s.Ordered := by
  refine Or.inr ?_
  rw [hnil]
  exact List.Pairwise.nil

theorem descending_iff {ids : List Nat} : s.Descending ids ↔
    ids.Pairwise fun id other => (!lt (s.getThreat id) (s.getThreat other)) = true := by
  simp only [Descending, Bool.not_eq_true']

theorem descending_mergeSort [ThreatOrder F] (ids : List Nat) :
    s.Descending (ids.mergeSort fun id other => !lt (s.getThreat id) (s.getThreat other)) := by
  rw [descending_iff]
  apply List.pairwise_mergeSort
  · intro id other another h h'
    rw [Bool.not_eq_true'] at h h' ⊢
    exact ThreatOrder.trans h h'
  · intro id other
    rw [Bool.or_eq_true, Bool.not_eq_true', Bool.not_eq_true']
    cases hlt : lt (s.getThreat id) (s.getThreat other) with
    | false => exact Or.inl rfl
    | true => exact Or.inr (ThreatOrder.asymm hlt)

/-- The list is in order when a victim is chosen. -/
theorem Ordered.update [ThreatOrder F] (h : s.Ordered) :
    s.update.Descending s.update.threatContainer := by
  rw [ThreatManager.update]
  split
  · exact descending_mergeSort s.threatContainer
  · next hnot =>
      obtain hdirty | horder := h
      · have hshort : s.threatContainer.length ≤ 1 := not_lt.mp fun hlt => hnot ⟨hdirty, hlt⟩
        change s.Descending s.threatContainer
        cases hids : s.threatContainer with
        | nil => exact List.Pairwise.nil
        | cons id rest =>
          rw [hids, List.length_cons] at hshort
          have hrest : rest = [] := List.eq_nil_of_length_eq_zero (by omega)
          rw [hrest]
          exact List.pairwise_singleton _ _
      · exact horder

/-- A list in order stays as it is. -/
theorem update_of_descending (h : s.Descending s.threatContainer) :
    s.update = { s with isDirty := false } := by
  have hsorted : (s.threatContainer.mergeSort fun id other =>
      !lt (s.getThreat id) (s.getThreat other)) = s.threatContainer :=
    List.mergeSort_of_pairwise (descending_iff.mp h)
  rw [ThreatManager.update, hsorted]
  split
  · rfl
  · rfl

theorem update_of_clean (h : s.isDirty = false) : s.update = s := by
  rw [ThreatManager.update, h, if_neg fun hand => Bool.false_ne_true hand.1, ← h]

theorem update_setDirty (h : 1 < s.threatContainer.length) :
    s.setDirty.update =
      { s with
        threatContainer := s.threatContainer.mergeSort fun id other =>
          !lt (s.getThreat id) (s.getThreat other)
        isDirty := false } := by
  have hboth : s.setDirty.isDirty = true ∧ 1 < s.setDirty.threatContainer.length := ⟨rfl, h⟩
  rw [ThreatManager.update, if_pos hboth]
  rfl

omit [ThreatValue F] in
theorem setDirty_of_dirty (h : s.isDirty = true) : s.setDirty = s := by
  rw [ThreatManager.setDirty, ← h]

/-- Sorting a list that is marked or in order is as good as sorting it in any case. -/
theorem Ordered.update_eq (h : s.Ordered) : s.update = s.setDirty.update := by
  obtain hdirty | horder := h
  · rw [setDirty_of_dirty hdirty]
  · have horder' : s.setDirty.Descending s.setDirty.threatContainer := horder
    rw [update_of_descending horder, update_of_descending horder']
    rfl

theorem Ordered.getHostilTarget_eq (h : s.Ordered) (answers : Nat → Answer F) :
    s.getHostilTarget answers = s.setDirty.getHostilTarget answers := by
  rw [getHostilTarget, getHostilTarget, h.update_eq]

theorem Ordered.getHostilTarget [ThreatOrder F] (h : s.Ordered) (answers : Nat → Answer F) :
    (s.getHostilTarget answers).Ordered :=
  Or.inr h.update

theorem Ordered.removeReference (h : s.Ordered) (hsound : Sound s) (id : Nat) :
    (s.removeReference id).Ordered := by
  have hsublist : (s.invalidate id).processThreatEvent id .removeFromList |>.threatContainer.Sublist
      (s.invalidate id).threatContainer := (Eases.removeFromList id).sublist
  have hinvalid := (hsound.invalidate id).sound
  have hnot : id ∉ (s.invalidate id).threatContainer := by
    intro hin
    obtain ⟨ref, hfind, hon⟩ := hinvalid.online.mp hin
    rw [offline_invalidate hfind] at hon
    cases hon
  have hleft := (h.eases (.invalidate id)).eases (.removeFromList id)
  exact hleft.eases (.delete fun hin => hnot (hsublist.subset hin))

theorem Ordered.resetAllAggro (h : s.Ordered) (answers : Nat → Answer F) (depth : Nat) :
    (s.resetAllAggro answers depth).Ordered := by
  rw [ThreatManager.resetAllAggro]
  split
  · exact h
  · exact Or.inl rfl

theorem Ordered.addTempThreat (h : s.Ordered) (hsound : Sound s) (id : Nat) (threat : F)
    (hfits : ne threat zero = true → AddThreatToFits answers (AddThreatFits answers depth) id threat
      (s.modifyRef id fun ref => { ref with tempThreatModifier := threat })) :
    (s.addTempThreat answers depth id threat).Ordered := by
  rw [ThreatManager.addTempThreat]
  have halike : Alike s (s.modifyRef id fun ref => { ref with tempThreatModifier := threat }) :=
    .modifyRef fun _ => rfl
  have hkept : Keeps s (s.modifyRef id fun ref => { ref with tempThreatModifier := threat }) :=
    hsound.modifyRef (fun _ => rfl) (fun _ => rfl) fun _ _ _ hvalid => hvalid
  have hmarked := h.eases halike.eases
  split
  · next hne =>
      exact hmarked.addThreatTo hkept.sound (orderedCall_addThreat answers depth) (hfits hne)
  · exact hmarked

/-- A call whose condition holds keeps the list marked or in order. -/
theorem Ordered.step [ThreatOrder F] (h : s.Ordered) (hsound : Sound s) {call : ThreatCall F}
    (hfits : s.CallFits answers depth call) : (s.step answers depth call).Ordered := by
  have hcall := orderedCall_addThreat answers depth
  cases call with
  | addThreat victim threat => exact hcall victim threat hsound h hfits
  | modifyThreatPercent victim percent =>
    rw [ThreatManager.step, modifyThreatPercent]
    split
    · next id hfound => exact h.addThreatTo hsound hcall (hfits id hfound)
    · exact h
  | resetAllAggro => exact h.resetAllAggro answers depth
  | tauntApply taunter =>
    rw [ThreatManager.step, tauntApply]
    split
    · next victim id hvictim hfound =>
        split
        · next ref hfind =>
            split
            · next hunused =>
                exact h.addTempThreat hsound id _ fun hne =>
                  hfits victim id ref hvictim hfound hfind hunused.1 hunused.2 hne
            · exact h
        · exact h
    · exact h
  | tauntFadeOut taunter =>
    rw [ThreatManager.step, tauntFadeOut]
    split
    · next id hfound =>
        split
        · next ref hfind =>
            split
            · next hused =>
                have hfaded := h.addThreatTo hsound hcall (hfits id ref hfound hfind hused)
                apply hfaded.eases
                apply Alike.eases
                apply Alike.modifyRef
                intro found
                rfl
            · exact h
        · exact h
    · exact h
  | updateOnlineStatus id => exact h.updateOnlineStatus answers hfits
  | invalidate id => exact h.eases (.invalidate id)
  | removeReference id => exact h.removeReference hsound id
  | getHostilTarget => exact h.getHostilTarget answers
  | clearReferences => exact ordered_of_empty rfl

/-! ### Sorting every time -/

variable (answers depth)

/-- A step that sorts the list whenever a victim is chosen. -/
def eagerStep (s : ThreatManager F) : ThreatCall F → ThreatManager F
  | .getHostilTarget => s.setDirty.getHostilTarget answers
  | call => s.step answers depth call

variable {answers depth}

/-- Sound and marked or in order, as long as the conditions hold. -/
theorem ordered_run [ThreatOrder F] {calls before : List (ThreatCall F)}
    (h : Runs.Admissible (ThreatManager.step answers depth)
      (ThreatManager.CallFits answers depth) empty calls) (hbefore : before <+: calls) :
    (Runs.run (ThreatManager.step answers depth) empty before).Ordered := by
  have hboth := h.invariant (P := fun s => Sound s ∧ s.Ordered)
    (fun {s call} hs hfits => ⟨hs.1.step answers depth call, hs.2.step hs.1 hfits⟩)
    ⟨sound_empty, ordered_of_empty rfl⟩ hbefore
  exact hboth.2

theorem Ordered.eagerStep (h : s.Ordered) (call : ThreatCall F) :
    s.step answers depth call = s.eagerStep answers depth call := by
  cases call with
  | getHostilTarget => exact h.getHostilTarget_eq answers
  | _ => rfl

variable (answers depth)

/-- In runs whose changes mark the list or fit, the list is in order whenever a victim is chosen,
and every state is the one that sorting each time gives. -/
theorem lazySort_unobservable [ThreatOrder F] (calls : List (ThreatCall F))
    (h : Runs.Admissible (ThreatManager.step answers depth)
      (ThreatManager.CallFits answers depth) empty calls) :
    (∀ before, before ++ [.getHostilTarget] <+: calls →
      (Runs.run (ThreatManager.step answers depth) empty before).update.Descending
        (Runs.run (ThreatManager.step answers depth) empty before).update.threatContainer) ∧
      ∀ before, before <+: calls →
        Runs.run (ThreatManager.step answers depth) empty before =
          Runs.run (ThreatManager.eagerStep answers depth) empty before := by
  constructor
  · intro before hbefore
    exact (ordered_run h ((List.prefix_append before _).trans hbefore)).update
  · intro before
    induction before using List.reverseRecOn with
    | nil => exact fun _ => rfl
    | append_singleton before call ih =>
      intro hbefore
      have hprefix := (List.prefix_append before [call]).trans hbefore
      calc Runs.run (ThreatManager.step answers depth) empty (before ++ [call])
          = (Runs.run (ThreatManager.step answers depth) empty before).step answers depth call :=
            List.foldl_concat ..
        _ = (Runs.run (ThreatManager.step answers depth) empty before).eagerStep answers depth
              call := (ordered_run h hprefix).eagerStep call
        _ = (Runs.run (ThreatManager.eagerStep answers depth) empty before).eagerStep answers
              depth call := by rw [ih hprefix]
        _ = Runs.run (ThreatManager.eagerStep answers depth) empty (before ++ [call]) :=
            (List.foldl_concat ..).symm

/-- The first unit can be attacked until the second has lost threat. -/
def firstProtected : Nat → Answer ℚ :=
  fun asked => rangedAnswer fun unit => decide (asked < 15) || unit != 10

/-- Three units come with 100, 90 and 80 threat. -/
def threeUnits : ThreatManager ℚ :=
  Runs.run (ThreatManager.step firstProtected 2) empty
    [.addThreat 10 100, .addThreat 11 90, .addThreat 12 80]

theorem getHostilTarget_threeUnits :
    threeUnits.getHostilTarget firstProtected =
      { threeUnits with
        isDirty := false
        asked := 13
        currentVictim := some 0 } := by
  have hasked : threeUnits.asked = 12 := by decide +kernel
  have horder : threeUnits.Descending threeUnits.threatContainer := by
    unfold Descending
    decide +kernel
  have hchosen : ({ threeUnits with isDirty := false } : ThreatManager ℚ).ask.selectFrom
      (firstProtected 12) threeUnits.threatContainer threeUnits.currentVictim = some 0 := by
    decide +kernel
  calc threeUnits.getHostilTarget firstProtected
      = { threeUnits with
          isDirty := false
          asked := threeUnits.asked + 1
          currentVictim := ({ threeUnits with isDirty := false } : ThreatManager ℚ).ask.selectFrom
            (firstProtected threeUnits.asked) threeUnits.threatContainer
            threeUnits.currentVictim } := by
        rw [getHostilTarget, update_of_descending horder]
        rfl
    _ = _ := by rw [hasked, hchosen]

/-- The first is the victim, and the second loses 5 and stays before the third. -/
def easedSecond : List (ThreatCall ℚ) :=
  [.addThreat 10 100, .addThreat 11 90, .addThreat 12 80, .getHostilTarget, .addThreat 11 (-5),
    .getHostilTarget]

/-- None of the three has an owner that would get threat as well. -/
theorem addThreatToFits_of_threatFits {callFits : Nat → ℚ → ThreatManager ℚ → Prop}
    {s : ThreatManager ℚ} {id : Nat} {threat : ℚ} (h : s.ThreatFits firstProtected id threat) :
    AddThreatToFits firstProtected callFits id threat s :=
  ⟨h, fun owner _ _ howner => absurd howner.symm (Option.some_ne_none owner)⟩

/-- 85 is between the 100 of the first and the 80 of the third. -/
theorem fits_easedSecond :
    ({ threeUnits with isDirty := false, asked := 13, currentVictim := some 0 } :
      ThreatManager ℚ).AddThreatFits firstProtected 2 11 (-5) := by
  refine fun _ => addThreatToFits_of_threatFits (Or.inr (Or.inr ?_))
  rw [if_pos (by decide +kernel)]
  intro before after hlist
  have hids : [0] ++ 1 :: [2] = before ++ 1 :: after := Eq.trans (by decide +kernel) hlist
  obtain ⟨rfl, -, rfl⟩ :=
    (List.append_cons_inj_of_notMem (by decide : 1 ∉ [0]) (by decide : 1 ∉ [2])).mp hids
  constructor
  · intro other hother
    rw [List.mem_singleton.mp hother]
    decide +kernel
  · intro other hother
    rw [List.mem_singleton.mp hother]
    decide +kernel

/-- The first unit marks the list, and it stays marked until the victim is chosen. The fifth call
does not mark it. -/
theorem admissible_easedSecond :
    Runs.Admissible (ThreatManager.step firstProtected 2)
      (ThreatManager.CallFits firstProtected 2) empty easedSecond := by
  refine ⟨?_, ?_, ?_, trivial, ?_, trivial, trivial⟩
  · exact fun _ => addThreatToFits_of_threatFits
      (Or.inr (Or.inl ⟨by decide +kernel, Or.inr ⟨by decide +kernel, by decide +kernel⟩⟩))
  · exact fun _ => addThreatToFits_of_threatFits (Or.inl (by decide +kernel))
  · exact fun _ => addThreatToFits_of_threatFits (Or.inl (by decide +kernel))
  · have hfits := fits_easedSecond
    rw [← getHostilTarget_threeUnits] at hfits
    exact hfits

/-- Three units, and a fifth call that leaves the order as it is. -/
theorem lazySort_easedSecond :
    (∀ before, before ++ [.getHostilTarget] <+: easedSecond →
      (Runs.run (ThreatManager.step firstProtected 2) empty before).update.Descending
        (Runs.run (ThreatManager.step firstProtected 2) empty before).update.threatContainer) ∧
      ∀ before, before <+: easedSecond →
        Runs.run (ThreatManager.step firstProtected 2) empty before =
          Runs.run (ThreatManager.eagerStep firstProtected 2) empty before :=
  lazySort_unobservable _ 2 _ admissible_easedSecond

/-- The first is the victim, and the second loses 40. -/
def lowered : List (ThreatCall ℚ) :=
  [.addThreat 10 100, .addThreat 11 90, .addThreat 12 80, .getHostilTarget, .addThreat 11 (-40)]

/-- The state after these calls, without the sorting, which changes nothing here. -/
def loweredSecond : ThreatManager ℚ :=
  addThreat firstProtected 2 11 (-40)
    { threeUnits with
      isDirty := false
      asked := 13
      currentVictim := some 0 }

theorem run_lowered :
    Runs.run (ThreatManager.step firstProtected 2) empty lowered = loweredSecond :=
  congrArg (addThreat firstProtected 2 11 (-40)) getHostilTarget_threeUnits

theorem eagerRun_lowered :
    Runs.run (ThreatManager.eagerStep firstProtected 2) empty lowered = loweredSecond := by
  have hdirty : threeUnits.isDirty = true := by decide +kernel
  calc Runs.run (ThreatManager.eagerStep firstProtected 2) empty lowered
      = addThreat firstProtected 2 11 (-40) (threeUnits.setDirty.getHostilTarget firstProtected) :=
        rfl
    _ = loweredSecond := by
        rw [setDirty_of_dirty hdirty, getHostilTarget_threeUnits, loweredSecond]

/-- Sorted, the third unit is before the second. -/
theorem update_loweredSecond :
    loweredSecond.setDirty.update =
      { loweredSecond with
        threatContainer := [0, 2, 1]
        isDirty := false } := by
  have hlist : loweredSecond.threatContainer = [0, 1, 2] := by decide +kernel
  have hfirst : lt (loweredSecond.getThreat 0) (loweredSecond.getThreat 1) = false := by
    decide +kernel
  have hthird : lt (loweredSecond.getThreat 0) (loweredSecond.getThreat 2) = false := by
    decide +kernel
  have hsecond : lt (loweredSecond.getThreat 1) (loweredSecond.getThreat 2) = true := by
    decide +kernel
  have hsorted : ([0, 1, 2].mergeSort fun id other =>
      !lt (loweredSecond.getThreat id) (loweredSecond.getThreat other)) = [0, 2, 1] := by
    simp [List.mergeSort, List.MergeSort.Internal.splitInTwo, hfirst, hsecond, hthird]
  have hlong : 1 < loweredSecond.threatContainer.length := by
    rw [hlist]
    decide
  rw [update_setDirty hlong, hlist, hsorted]

/-- The second is chosen, with 50 threat, although sorting each time gives the third, with 80: no
call marked the list. -/
theorem lowered_notSorted :
    ¬ (Runs.run (ThreatManager.step firstProtected 2) empty lowered).update.Descending
        (Runs.run (ThreatManager.step firstProtected 2) empty lowered).update.threatContainer ∧
      (Runs.run (ThreatManager.step firstProtected 2) empty
        (lowered ++ [.getHostilTarget])).currentVictim = some 1 ∧
      (Runs.run (ThreatManager.eagerStep firstProtected 2) empty
        (lowered ++ [.getHostilTarget])).currentVictim = some 2 ∧
      (Runs.run (ThreatManager.step firstProtected 2) empty lowered).getThreat 1 = 50 ∧
      (Runs.run (ThreatManager.step firstProtected 2) empty lowered).getThreat 2 = 80 := by
  have hupdate : loweredSecond.update = loweredSecond := update_of_clean (by decide +kernel)
  have hlist : loweredSecond.threatContainer = [0, 1, 2] := by decide +kernel
  have hlazy : Runs.run (ThreatManager.step firstProtected 2) empty
      (lowered ++ [.getHostilTarget]) = loweredSecond.getHostilTarget firstProtected :=
    congrArg (getHostilTarget firstProtected) run_lowered
  have heager : Runs.run (ThreatManager.eagerStep firstProtected 2) empty
      (lowered ++ [.getHostilTarget]) = loweredSecond.setDirty.getHostilTarget firstProtected :=
    congrArg (fun s => s.setDirty.getHostilTarget firstProtected) eagerRun_lowered
  rw [hlazy, heager, run_lowered, hupdate, hlist]
  refine ⟨?_, ?_, ?_, ?_, ?_⟩
  · unfold Descending
    decide +kernel
  · rw [getHostilTarget, hupdate]
    decide +kernel
  · rw [getHostilTarget, update_loweredSecond]
    decide +kernel
  · decide +kernel
  · decide +kernel

end ThreatManager

end Cataclysm.Combat
