import Cataclysm.Combat.ThreatManager
import Cataclysm.Lib.Runs

/-!
# Every reference is in the list of its status

A live reference is in the online list or in the offline list, once, as its status says, there is
one for each hated unit, and the current victim is online. Every operation is made of a few changes:
a reference is modified, moved, created or deleted, or the victim changes. Each keeps the invariant
at a point where it holds, so a call inside a call meets it, whatever the world answers.
-/

namespace Cataclysm.Combat

open ThreatValue

namespace ThreatManager

variable {F : Type} {s s' : ThreatManager F} {id : Nat}

/-- A reference is there. -/
def Live (s : ThreatManager F) (id : Nat) : Prop := ∃ ref, s.refs.find? id = some ref

/-- The lists hold just the live references with their status, one for a unit, and the victim is
online. An online reference has its target. -/
structure Sound (s : ThreatManager F) : Prop where
  nodupOnline : s.threatContainer.Nodup
  nodupOffline : s.threatOfflineContainer.Nodup
  online : ∀ {id}, id ∈ s.threatContainer ↔
    ∃ ref, s.refs.find? id = some ref ∧ ref.isOnline = true
  offline : ∀ {id}, id ∈ s.threatOfflineContainer ↔
    ∃ ref, s.refs.find? id = some ref ∧ ref.isOnline = false
  unique : ∀ {id other ref ref'}, s.refs.find? id = some ref → s.refs.find? other = some ref' →
    ref.unitGuid = ref'.unitGuid → id = other
  victim : ∀ {id}, s.currentVictim = some id → id ∈ s.threatContainer
  target : ∀ {id ref}, s.refs.find? id = some ref → ref.isOnline = true → ref.isValid = true
  fresh : ∀ {id ref}, s.refs.find? id = some ref → id < s.nextRef

/-- A step that keeps the invariant and deletes no reference. -/
structure Keeps (s s' : ThreatManager F) : Prop where
  sound : Sound s'
  live : ∀ {id}, Live s id → Live s' id

theorem Keeps.refl (h : Sound s) : Keeps s s := ⟨h, fun hlive => hlive⟩

theorem Keeps.trans {s'' : ThreatManager F} (h : Keeps s s') (h' : Keeps s' s'') : Keeps s s'' :=
  ⟨h'.sound, fun hlive => h'.live (h.live hlive)⟩

/-! ### Changes that leave the lists -/

variable {f : HostileReference F → HostileReference F} {other : Nat}

/-- Another mark of the order or another question. -/
theorem Sound.keep (h : Sound s) (isDirty : Bool) (asked : Nat) :
    Keeps s { s with isDirty := isDirty, asked := asked } :=
  ⟨⟨h.nodupOnline, h.nodupOffline, h.online, h.offline, h.unique, h.victim, h.target, h.fresh⟩,
    fun hlive => hlive⟩

theorem Sound.ask (h : Sound s) : Keeps s s.ask := h.keep s.isDirty (s.asked + 1)

theorem Sound.setDirty (h : Sound s) : Keeps s s.setDirty := h.keep true s.asked

theorem modifyRef_none (hfind : s.refs.find? id = none) : s.modifyRef id f = s := by
  rw [modifyRef, hfind]

theorem find?_modifyRef (f : HostileReference F → HostileReference F) (other : Nat) :
    (s.modifyRef id f).refs.find? other =
      if other = id then (s.refs.find? id).map f else s.refs.find? other := by
  rw [modifyRef]
  cases hfind : s.refs.find? id with
  | none =>
    dsimp only
    split
    · next heq => rw [heq, hfind, Option.map_none]
    · rfl
  | some ref =>
    dsimp only
    rw [OrderedMap.find?_insert, Option.map_some]

theorem live_modifyRef (h : Live s other) : Live (s.modifyRef id f) other := by
  obtain ⟨ref, href⟩ := h
  rw [Live, find?_modifyRef]
  split
  · next heq =>
      rw [heq] at href
      rw [href]
      exact ⟨_, rfl⟩
  · exact ⟨ref, href⟩

theorem modifyRef_lists (s : ThreatManager F) (id : Nat)
    (f : HostileReference F → HostileReference F) :
    (s.modifyRef id f).threatContainer = s.threatContainer ∧
      (s.modifyRef id f).threatOfflineContainer = s.threatOfflineContainer ∧
        (s.modifyRef id f).currentVictim = s.currentVictim ∧
          (s.modifyRef id f).nextRef = s.nextRef := by
  rw [modifyRef]
  split
  · exact ⟨rfl, rfl, rfl, rfl⟩
  · exact ⟨rfl, rfl, rfl, rfl⟩

theorem modifyRef_modifyRef (s : ThreatManager F) (id : Nat)
    (f g : HostileReference F → HostileReference F) :
    (s.modifyRef id f).modifyRef id g = s.modifyRef id fun ref => g (f ref) := by
  cases hfind : s.refs.find? id with
  | none => rw [modifyRef_none hfind, modifyRef_none hfind, modifyRef_none hfind]
  | some ref =>
    rw [modifyRef, find?_modifyRef, if_pos rfl, hfind, Option.map_some, modifyRef, modifyRef,
      hfind]
    dsimp only
    rw [OrderedMap.insert_insert]

/-- A reference keeps its unit and its status, and its target while it is online. -/
theorem Sound.modifyRef (h : Sound s) (hguid : ∀ ref, (f ref).unitGuid = ref.unitGuid)
    (honline : ∀ ref, (f ref).isOnline = ref.isOnline)
    (htarget : ∀ ref, s.refs.find? id = some ref → ref.isOnline = true → ref.isValid = true →
      (f ref).isValid = true) : Keeps s (s.modifyRef id f) := by
  have hold : ∀ {other ref}, (s.modifyRef id f).refs.find? other = some ref →
      ∃ old, s.refs.find? other = some old ∧ ref.unitGuid = old.unitGuid ∧
        ref.isOnline = old.isOnline ∧ (old.isOnline = true → ref.isValid = true) := by
    intro other ref hfind
    rw [find?_modifyRef] at hfind
    split at hfind
    · next heq =>
        obtain ⟨old, hfound, rfl⟩ := Option.map_eq_some_iff.mp hfind
        subst heq
        exact ⟨old, hfound, hguid old, honline old,
          fun hon => htarget old hfound hon (h.target hfound hon)⟩
    · exact ⟨ref, hfind, rfl, rfl, h.target hfind⟩
  have hnew : ∀ {other old}, s.refs.find? other = some old →
      ∃ ref, (s.modifyRef id f).refs.find? other = some ref ∧ ref.isOnline = old.isOnline := by
    intro other old hfound
    rw [find?_modifyRef]
    split
    · next heq =>
        rw [heq] at hfound
        rw [hfound]
        exact ⟨f old, rfl, honline old⟩
    · exact ⟨old, hfound, rfl⟩
  have hiff : ∀ (isOnline : Bool) (other : Nat),
      (∃ ref, s.refs.find? other = some ref ∧ ref.isOnline = isOnline) ↔
        ∃ ref, (s.modifyRef id f).refs.find? other = some ref ∧ ref.isOnline = isOnline := by
    intro isOnline other
    constructor
    · rintro ⟨old, hfound, hstatus⟩
      obtain ⟨ref, hfind, hsame⟩ := hnew hfound
      exact ⟨ref, hfind, hsame.trans hstatus⟩
    · rintro ⟨ref, hfind, hstatus⟩
      obtain ⟨old, hfound, -, hsame, -⟩ := hold hfind
      exact ⟨old, hfound, hsame.symm.trans hstatus⟩
  obtain ⟨hcontainer, hofflineContainer, hvictim, hnext⟩ := modifyRef_lists s id f
  refine ⟨⟨?_, ?_, ?_, ?_, ?_, ?_, ?_, ?_⟩, live_modifyRef⟩
  · rw [hcontainer]
    exact h.nodupOnline
  · rw [hofflineContainer]
    exact h.nodupOffline
  · intro other
    rw [hcontainer, h.online]
    exact hiff true other
  · intro other
    rw [hofflineContainer, h.offline]
    exact hiff false other
  · intro other another ref ref' hfind hfind' hsame
    obtain ⟨old, hfound, heq, -⟩ := hold hfind
    obtain ⟨old', hfound', heq', -⟩ := hold hfind'
    exact h.unique hfound hfound' (heq.symm.trans (hsame.trans heq'))
  · intro other hcurrent
    rw [hvictim] at hcurrent
    rw [hcontainer]
    exact h.victim hcurrent
  · intro other ref hfind hon
    obtain ⟨old, -, -, hstatus, hvalid⟩ := hold hfind
    exact hvalid (hstatus.symm.trans hon)
  · intro other ref hfind
    obtain ⟨old, hfound, -⟩ := hold hfind
    rw [hnext]
    exact h.fresh hfound

/-! ### A reference changes its list -/

variable {isOnline : Bool}

/-- A reference gets the other status and is in the other list. -/
structure Relisted (s s' : ThreatManager F) (id : Nat) (isOnline : Bool) : Prop where
  refs : ∃ ref ref', s.refs.find? id = some ref ∧ ref.isOnline = !isOnline ∧
    (∀ other, s'.refs.find? other = if other = id then some ref' else s.refs.find? other) ∧
      ref'.unitGuid = ref.unitGuid ∧ ref'.isOnline = isOnline ∧
        (isOnline = true → ref'.isValid = true)
  containers : (s'.threatContainer, s'.threatOfflineContainer) = if isOnline then
      (s.threatContainer ++ [id], s.threatOfflineContainer.filter (· ≠ id))
    else (s.threatContainer.filter (· ≠ id), s.threatOfflineContainer ++ [id])
  victim : ∀ {victim}, s'.currentVictim = some victim →
    s.currentVictim = some victim ∧ (isOnline = false → victim ≠ id)
  nextRef : s'.nextRef = s.nextRef

theorem mem_list_filter {ids : List Nat} :
    other ∈ ids.filter (· ≠ id) ↔ other ∈ ids ∧ other ≠ id := by
  rw [List.mem_filter, decide_eq_true_eq]

theorem nodup_append_singleton {ids : List Nat} (h : ids.Nodup) (hnot : id ∉ ids) :
    (ids ++ [id]).Nodup :=
  List.Nodup.append h (List.nodup_singleton _) (List.disjoint_singleton.mpr hnot)

theorem Sound.relist (h : Sound s) (hmoved : Relisted s s' id isOnline) : Keeps s s' := by
  obtain ⟨ref, ref', hfind, hstatus, hrefs, hguid, hnew, hvalid⟩ := hmoved.refs
  have hcontainers := hmoved.containers
  have hother : ∀ {other found}, s'.refs.find? other = some found →
      (other = id ∧ found = ref') ∨ (other ≠ id ∧ s.refs.find? other = some found) := by
    intro other found hfound
    rw [hrefs] at hfound
    split at hfound
    · next heq => exact Or.inl ⟨heq, (Option.some.inj hfound).symm⟩
    · next hne => exact Or.inr ⟨hne, hfound⟩
  -- the members of a list by status, for the one that the reference joins and the one it leaves
  have hjoin : ∀ {ids : List Nat}, (∀ {other}, other ∈ ids ↔
      ∃ found, s.refs.find? other = some found ∧ found.isOnline = isOnline) →
        ∀ {other}, other ∈ ids ++ [id] ↔
          ∃ found, s'.refs.find? other = some found ∧ found.isOnline = isOnline := by
    intro ids hids other
    rw [List.mem_append, List.mem_singleton, hids, hrefs]
    by_cases heq : other = id
    · rw [if_pos heq]
      exact iff_of_true (Or.inr heq) ⟨ref', rfl, hnew⟩
    · rw [if_neg heq]
      exact or_iff_left heq
  have hleave : ∀ {ids : List Nat}, (∀ {other}, other ∈ ids ↔
      ∃ found, s.refs.find? other = some found ∧ found.isOnline = !isOnline) →
        ∀ {other}, other ∈ ids.filter (· ≠ id) ↔
          ∃ found, s'.refs.find? other = some found ∧ found.isOnline = !isOnline := by
    intro ids hids other
    rw [mem_list_filter, hids, hrefs]
    by_cases heq : other = id
    · rw [if_pos heq]
      refine iff_of_false (fun hand => hand.2 heq) ?_
      rintro ⟨found, hfound, hnot⟩
      cases hfound
      rw [hnew] at hnot
      cases isOnline <;> cases hnot
    · rw [if_neg heq]
      exact and_iff_left heq
  have hnotIn : ∀ {ids : List Nat}, (∀ {other}, other ∈ ids ↔
      ∃ found, s.refs.find? other = some found ∧ found.isOnline = isOnline) → id ∉ ids := by
    intro ids hids hin
    obtain ⟨found, hfound, hsame⟩ := hids.mp hin
    rw [hfind] at hfound
    cases hfound
    rw [hstatus] at hsame
    cases isOnline <;> cases hsame
  have hunique : ∀ {other another found found'}, s'.refs.find? other = some found →
      s'.refs.find? another = some found' → found.unitGuid = found'.unitGuid →
        other = another := by
    intro other another found found' hfound hfound' hsame
    obtain ⟨rfl, rfl⟩ | ⟨hne, hold⟩ := hother hfound
    · obtain ⟨rfl, rfl⟩ | ⟨hne', hold'⟩ := hother hfound'
      · rfl
      · exact h.unique hfind hold' (hguid.symm.trans hsame)
    · obtain ⟨rfl, rfl⟩ | ⟨hne', hold'⟩ := hother hfound'
      · exact h.unique hold hfind (hsame.trans hguid)
      · exact h.unique hold hold' hsame
  have htarget : ∀ {other found}, s'.refs.find? other = some found → found.isOnline = true →
      found.isValid = true := by
    intro other found hfound hon
    obtain ⟨rfl, rfl⟩ | ⟨hne, hold⟩ := hother hfound
    · exact hvalid (hnew.symm.trans hon)
    · exact h.target hold hon
  have hfresh : ∀ {other found}, s'.refs.find? other = some found → other < s'.nextRef := by
    intro other found hfound
    rw [hmoved.nextRef]
    obtain ⟨rfl, rfl⟩ | ⟨hne, hold⟩ := hother hfound
    · exact h.fresh hfind
    · exact h.fresh hold
  have hlive : ∀ {other}, Live s other → Live s' other := by
    rintro other ⟨found, hfound⟩
    rw [Live, hrefs]
    split
    · exact ⟨ref', rfl⟩
    · exact ⟨found, hfound⟩
  refine ⟨?_, hlive⟩
  cases isOnline with
  | true =>
    obtain ⟨hon, hoff⟩ := Prod.mk.inj (hcontainers.trans (if_pos rfl))
    refine ⟨?_, ?_, ?_, ?_, hunique, ?_, htarget, hfresh⟩
    · rw [hon]
      exact nodup_append_singleton h.nodupOnline (hnotIn h.online)
    · rw [hoff]
      exact h.nodupOffline.filter _
    · rw [hon]
      exact hjoin h.online
    · rw [hoff]
      exact hleave h.offline
    · intro victim hvictim
      rw [hon]
      exact List.mem_append_left _ (h.victim (hmoved.victim hvictim).1)
  | false =>
    obtain ⟨hon, hoff⟩ := Prod.mk.inj (hcontainers.trans (if_neg Bool.false_ne_true))
    refine ⟨?_, ?_, ?_, ?_, hunique, ?_, htarget, hfresh⟩
    · rw [hon]
      exact h.nodupOnline.filter _
    · rw [hoff]
      exact nodup_append_singleton h.nodupOffline (hnotIn h.offline)
    · rw [hon]
      exact hleave h.online
    · rw [hoff]
      exact hjoin h.offline
    · intro victim hvictim
      obtain ⟨hold, hne⟩ := hmoved.victim hvictim
      rw [hon]
      exact mem_list_filter.mpr ⟨h.victim hold, hne rfl⟩

/-! ### No references -/

variable {ref : HostileReference F}

/-- Without references the lists are empty. -/
theorem sound_of_cleared (hnone : ∀ id, s.refs.find? id = none) (hon : s.threatContainer = [])
    (hoff : s.threatOfflineContainer = []) (hvictim : s.currentVictim = none) : Sound s := by
  have hno : ∀ {id ref}, s.refs.find? id ≠ some ref := by
    intro id ref hfind
    rw [hnone] at hfind
    cases hfind
  refine ⟨?_, ?_, ?_, ?_, ?_, ?_, ?_, ?_⟩
  · rw [hon]
    exact List.nodup_nil
  · rw [hoff]
    exact List.nodup_nil
  · intro id
    rw [hon]
    exact iff_of_false List.not_mem_nil fun ⟨_, hfind, _⟩ => hno hfind
  · intro id
    rw [hoff]
    exact iff_of_false List.not_mem_nil fun ⟨_, hfind, _⟩ => hno hfind
  · intro _ _ _ _ hfind
    exact absurd hfind hno
  · intro _ hcurrent
    rw [hvictim] at hcurrent
    cases hcurrent
  · intro _ _ hfind
    exact absurd hfind hno
  · intro _ _ hfind
    exact absurd hfind hno

theorem sound_empty : Sound (empty : ThreatManager F) :=
  sound_of_cleared (fun _ => rfl) rfl rfl rfl

theorem Sound.clearReferences (h : Sound s) : Sound s.clearReferences := by
  have hnone : ∀ id, s.clearReferences.refs.find? id = none := by
    intro id
    rw [ThreatManager.clearReferences, OrderedMap.find?_foldl_erase]
    split
    · rfl
    · next hnot =>
        rw [List.mem_append, not_or] at hnot
        refine Option.eq_none_iff_forall_ne_some.mpr fun ref hfind => ?_
        cases hstatus : ref.isOnline with
        | true => exact hnot.1 (h.online.mpr ⟨ref, hfind, hstatus⟩)
        | false => exact hnot.2 (h.offline.mpr ⟨ref, hfind, hstatus⟩)
  exact sound_of_cleared hnone rfl rfl rfl

/-- A live reference is once in one of the lists. -/
theorem Sound.count (h : Sound s) (hfind : s.refs.find? id = some ref) :
    s.threatContainer.count id = (if ref.isOnline then 1 else 0) ∧
      s.threatOfflineContainer.count id = if ref.isOnline then 0 else 1 := by
  have hsame : ∀ {found}, s.refs.find? id = some found → found.isOnline = ref.isOnline :=
    fun hfound => congrArg HostileReference.isOnline (Option.some.inj (hfound.symm.trans hfind))
  cases hstatus : ref.isOnline with
  | true =>
    refine ⟨List.count_eq_one_of_mem h.nodupOnline (h.online.mpr ⟨ref, hfind, hstatus⟩),
      List.count_eq_zero.mpr fun hin => ?_⟩
    obtain ⟨found, hfound, hoff⟩ := h.offline.mp hin
    rw [hsame hfound, hstatus] at hoff
    cases hoff
  | false =>
    refine ⟨List.count_eq_zero.mpr fun hin => ?_,
      List.count_eq_one_of_mem h.nodupOffline (h.offline.mpr ⟨ref, hfind, hstatus⟩)⟩
    obtain ⟨found, hfound, hon⟩ := h.online.mp hin
    rw [hsame hfound, hstatus] at hon
    cases hon

/-! ### References by target -/

theorem getReferenceByTarget_none (h : Sound s) {victim : Nat}
    (hon : s.getReferenceByTarget s.threatContainer victim = none)
    (hoff : s.getReferenceByTarget s.threatOfflineContainer victim = none) {id : Nat}
    (hfind : s.refs.find? id = some ref) : ref.unitGuid ≠ victim := by
  intro heq
  have hsame : (s.refs.find? id).any (fun ref => ref.unitGuid == victim) = true := by
    rw [hfind, Option.any_some, heq, beq_self_eq_true]
  cases hstatus : ref.isOnline with
  | true =>
    have hin : id ∈ s.threatContainer := h.online.mpr ⟨ref, hfind, hstatus⟩
    exact List.find?_eq_none.mp hon id hin hsame
  | false =>
    have hin : id ∈ s.threatOfflineContainer := h.offline.mpr ⟨ref, hfind, hstatus⟩
    exact List.find?_eq_none.mp hoff id hin hsame

/-! ### The status of a reference -/

variable [ThreatValue F]

theorem processThreatEvent_refs (s : ThreatManager F) (id : Nat) (event : ThreatEvent F) :
    (s.processThreatEvent id event).refs = s.refs := by
  have hdrop : (s.dropVictim id).refs = s.refs := by
    rw [ThreatManager.dropVictim]
    split
    · rfl
    · rfl
  cases event with
  | threatChange value =>
    rw [processThreatEvent]
    split
    · rfl
    · rfl
  | onlineStatus =>
    rw [processThreatEvent]
    split
    · exact hdrop
    · split
      · rfl
      · rfl
  | removeFromList =>
    rw [processThreatEvent]
    split
    · exact hdrop
    · exact hdrop
  | accessibleStatus => rfl

theorem setAccessibleState_eq (s : ThreatManager F) (id : Nat) (isAccessible : Bool) :
    s.setAccessibleState id isAccessible =
      s.modifyRef id fun ref => { ref with isAccessible := isAccessible } := by
  rw [setAccessibleState]
  split
  · next hfind => rw [modifyRef_none hfind]
  · next ref hfind =>
      split
      · rfl
      · next hsame =>
          rw [not_not] at hsame
          have heq : { ref with isAccessible := isAccessible } = ref := by rw [← hsame]
          rw [modifyRef, hfind]
          dsimp only
          rw [heq, OrderedMap.insert_of_find? hfind]

theorem Sound.setAccessibleState (h : Sound s) (id : Nat) (isAccessible : Bool) :
    Keeps s (s.setAccessibleState id isAccessible) := by
  rw [setAccessibleState_eq]
  exact h.modifyRef (fun _ => rfl) (fun _ => rfl) fun _ _ _ hvalid => hvalid

/-- The event of a new status moves the reference to the list of that status. -/
theorem relisted_onlineStatus (hfind : s.refs.find? id = some ref)
    (hstatus : ref.isOnline = !isOnline) (hguid : (f ref).unitGuid = ref.unitGuid)
    (hnew : (f ref).isOnline = isOnline) (hvalid : isOnline = true → (f ref).isValid = true) :
    Relisted s ((s.modifyRef id f).processThreatEvent id .onlineStatus) id isOnline := by
  obtain ⟨hcontainer, hoffline, hvictim, hnext⟩ := modifyRef_lists s id f
  have hrefs : ∀ other, (s.modifyRef id f).refs.find? other =
      if other = id then some (f ref) else s.refs.find? other := by
    intro other
    rw [find?_modifyRef, hfind, Option.map_some]
  have hisOnline : (s.modifyRef id f).isOnline id = isOnline := by
    rw [ThreatManager.isOnline, hrefs, if_pos rfl, Option.any_some, hnew]
  have hpost : ∃ s' : ThreatManager F,
      (s.modifyRef id f).processThreatEvent id .onlineStatus = s' ∧
        s'.refs = (s.modifyRef id f).refs ∧ s'.nextRef = s.nextRef ∧
          ((s'.threatContainer, s'.threatOfflineContainer) = if isOnline then
              (s.threatContainer ++ [id], s.threatOfflineContainer.filter (· ≠ id))
            else (s.threatContainer.filter (· ≠ id), s.threatOfflineContainer ++ [id])) ∧
              ∀ victim, s'.currentVictim = some victim →
                s.currentVictim = some victim ∧ (isOnline = false → victim ≠ id) := by
    refine ⟨_, rfl, ?_⟩
    rw [processThreatEvent, hisOnline]
    cases isOnline with
    | true =>
      rw [if_neg Bool.noConfusion]
      split
      · exact ⟨rfl, hnext, by rw [if_pos rfl, ← hcontainer, ← hoffline]; rfl,
          fun victim h => ⟨hvictim.symm.trans h, Bool.noConfusion⟩⟩
      · exact ⟨rfl, hnext, by rw [if_pos rfl, ← hcontainer, ← hoffline]; rfl,
          fun victim h => ⟨hvictim.symm.trans h, Bool.noConfusion⟩⟩
    | false =>
      rw [if_pos rfl, ThreatManager.dropVictim, hvictim]
      split
      · refine ⟨rfl, hnext, by rw [if_neg Bool.false_ne_true, ← hcontainer, ← hoffline]; rfl, ?_⟩
        intro victim hnone
        cases hnone
      · next hne =>
          refine ⟨rfl, hnext, by rw [if_neg Bool.false_ne_true, ← hcontainer, ← hoffline]; rfl,
            ?_⟩
          intro victim hsome
          have hold : s.currentVictim = some victim := hvictim.symm.trans hsome
          exact ⟨hold, fun _ heq => hne (hold.trans (congrArg some heq))⟩
  obtain ⟨s', hs', hsame, hnext', hlists, hcurrent⟩ := hpost
  rw [hs']
  refine ⟨⟨ref, f ref, hfind, hstatus, ?_, hguid, hnew, hvalid⟩, hlists, hcurrent _, hnext'⟩
  intro other
  rw [hsame, hrefs]

theorem Sound.setOnlineOfflineState (h : Sound s) (hvalid : isOnline = true → s.isValid id = true) :
    Keeps s (s.setOnlineOfflineState id isOnline) := by
  rw [ThreatManager.setOnlineOfflineState]
  split
  · exact .refl h
  · next ref hfind =>
      split
      · next hne =>
          have hstatus : ref.isOnline = !isOnline := by
            cases hon : ref.isOnline <;> cases isOnline <;> simp_all
          have hhas : isOnline = true → ref.isValid = true := by
            intro hon
            have hany := hvalid hon
            rwa [ThreatManager.isValid, hfind, Option.any_some] at hany
          cases isOnline with
          | true => exact h.relist (relisted_onlineStatus hfind hstatus rfl rfl hhas)
          | false =>
            dsimp only
            rw [if_neg Bool.false_ne_true, setAccessibleState_eq, modifyRef_modifyRef]
            exact h.relist (relisted_onlineStatus hfind hstatus rfl rfl hhas)
      · exact .refl h

theorem isOnline_setOnlineOfflineState
    (hfind : (s.setOnlineOfflineState id isOnline).refs.find? id = some ref) :
    ref.isOnline = isOnline := by
  rw [ThreatManager.setOnlineOfflineState] at hfind
  split at hfind
  · next hnone => exact absurd (hnone.symm.trans hfind) nofun
  · next old hfound =>
      split at hfind
      · next hne =>
          rw [processThreatEvent_refs] at hfind
          split at hfind
          · next hon =>
              rw [find?_modifyRef, if_pos rfl, hfound] at hfind
              exact (congrArg HostileReference.isOnline (Option.some.inj hfind)).symm
          · rw [setAccessibleState_eq, modifyRef_modifyRef, find?_modifyRef, if_pos rfl, hfound]
              at hfind
            exact (congrArg HostileReference.isOnline (Option.some.inj hfind)).symm
      · next heq =>
          rw [hfound] at hfind
          rw [← Option.some.inj hfind]
          exact not_not.mp heq

section

variable (answers : Nat → Answer F)

theorem isValid_setAccessibleState (s : ThreatManager F) (id : Nat) (isAccessible : Bool) :
    (s.setAccessibleState id isAccessible).isValid id = s.isValid id := by
  rw [setAccessibleState_eq, isValid, find?_modifyRef, if_pos rfl, isValid, Option.any_map]

theorem Sound.setStates (h : Sound s) (isAccessible : Bool)
    (hvalid : isOnline = true → s.isValid id = true) :
    Keeps s ((s.setAccessibleState id isAccessible).setOnlineOfflineState id isOnline) := by
  have haccessible := h.setAccessibleState id isAccessible
  refine haccessible.trans (haccessible.sound.setOnlineOfflineState fun hon => ?_)
  rw [isValid_setAccessibleState]
  exact hvalid hon

theorem Sound.updateOnlineStatus (h : Sound s) (id : Nat) :
    Keeps s (s.updateOnlineStatus answers id) := by
  rw [ThreatManager.updateOnlineStatus]
  have hasked := h.ask
  have hlinked : Keeps s (if s.ask.isValid id = false ∧ (answers s.asked).isFound = true then
      s.ask.modifyRef id fun ref => { ref with isValid := true } else s.ask) := by
    split
    · exact hasked.trans (hasked.sound.modifyRef (fun _ => rfl) (fun _ => rfl) fun _ _ _ _ => rfl)
    · exact hasked
  refine hlinked.trans (hlinked.sound.setStates _ fun hreachable => ?_)
  simp only [Bool.and_eq_true] at hreachable
  exact hreachable.1.1.1.1.1

end

theorem Sound.threatChange (h : Sound s) (id : Nat) (value : F) :
    Keeps s (s.processThreatEvent id (.threatChange value)) := by
  rw [processThreatEvent]
  split
  · exact h.setDirty
  · exact .refl h

/-! ### A reference goes -/

theorem Sound.invalidate (h : Sound s) (id : Nat) : Keeps s (s.invalidate id) := by
  rw [ThreatManager.invalidate]
  have hoffline : Keeps s (s.setOnlineOfflineState id false) :=
    h.setOnlineOfflineState Bool.noConfusion
  refine hoffline.trans (hoffline.sound.modifyRef (fun _ => rfl) (fun _ => rfl) ?_)
  intro ref hfind hon
  rw [isOnline_setOnlineOfflineState hfind] at hon
  cases hon

theorem offline_invalidate (hfind : (s.invalidate id).refs.find? id = some ref) :
    ref.isOnline = false := by
  rw [ThreatManager.invalidate, find?_modifyRef, if_pos rfl] at hfind
  obtain ⟨old, hfound, rfl⟩ := Option.map_eq_some_iff.mp hfind
  have hold : old.isOnline = false := isOnline_setOnlineOfflineState hfound
  exact hold

/-- An offline reference leaves its list and is deleted. -/
theorem Sound.remove (h : Sound s)
    (hoffline : ∀ ref, s.refs.find? id = some ref → ref.isOnline = false) :
    Sound ((s.processThreatEvent id .removeFromList).delete id) := by
  have hnotIn : id ∉ s.threatContainer := by
    intro hin
    obtain ⟨ref, hfind, hon⟩ := h.online.mp hin
    rw [hoffline ref hfind] at hon
    cases hon
  have hvictim : s.currentVictim ≠ some id := fun heq => hnotIn (h.victim heq)
  have hstatus : s.isOnline id ≠ true := by
    intro hon
    obtain ⟨ref, hfind, hon⟩ := (Option.any_eq_true _ _).mp hon
    rw [hoffline ref hfind] at hon
    cases hon
  rw [processThreatEvent, ThreatManager.dropVictim, if_neg hvictim,
    if_neg hstatus]
  have hother : ∀ {other ref}, (s.refs.erase id).find? other = some ref ↔
      other ≠ id ∧ s.refs.find? other = some ref := by
    intro other ref
    rw [OrderedMap.find?_erase]
    split
    · next heq => exact iff_of_false nofun fun hand => hand.1 heq
    · next hne => exact (and_iff_right hne).symm
  refine ⟨h.nodupOnline, h.nodupOffline.filter _, ?_, ?_, ?_, h.victim, ?_, ?_⟩
  · intro other
    rw [delete]
    constructor
    · intro hin
      obtain ⟨ref, hfind, hon⟩ := h.online.mp hin
      have hne : other ≠ id := fun heq => hnotIn (heq ▸ hin)
      exact ⟨ref, hother.mpr ⟨hne, hfind⟩, hon⟩
    · rintro ⟨ref, hfind, hon⟩
      exact h.online.mpr ⟨ref, (hother.mp hfind).2, hon⟩
  · intro other
    rw [delete, mem_list_filter]
    constructor
    · rintro ⟨hin, hne⟩
      obtain ⟨ref, hfind, hoff⟩ := h.offline.mp hin
      exact ⟨ref, hother.mpr ⟨hne, hfind⟩, hoff⟩
    · rintro ⟨ref, hfind, hoff⟩
      obtain ⟨hne, hold⟩ := hother.mp hfind
      exact ⟨h.offline.mpr ⟨ref, hold, hoff⟩, hne⟩
  · intro other another ref ref' hfind hfind' hsame
    exact h.unique (hother.mp hfind).2 (hother.mp hfind').2 hsame
  · intro other ref hfind
    exact h.target (hother.mp hfind).2
  · intro other ref hfind
    exact h.fresh (hother.mp hfind).2

theorem Sound.removeReference (h : Sound s) (id : Nat) : Sound (s.removeReference id) :=
  (h.invalidate id).sound.remove fun _ hfind => offline_invalidate hfind

/-! ### A reference comes -/

theorem Sound.newReference (h : Sound s) {victim : Nat}
    (hnew : ∀ {id ref}, s.refs.find? id = some ref → ref.unitGuid ≠ victim) :
    Keeps s (s.newReference victim) := by
  have hunused : ∀ ref, s.refs.find? s.nextRef ≠ some ref :=
    fun ref hfind => lt_irrefl _ (h.fresh hfind)
  have hrefs : ∀ {id ref}, (s.newReference victim).refs.find? id = some ref ↔
      (id = s.nextRef ∧ ref = ⟨victim, zero, zero, true, true, true⟩) ∨
        s.refs.find? id = some ref := by
    intro id ref
    rw [ThreatManager.newReference, OrderedMap.find?_insert]
    split
    · next heq =>
        subst heq
        constructor
        · intro hsome
          exact Or.inl ⟨rfl, (Option.some.inj hsome).symm⟩
        · rintro (⟨-, rfl⟩ | hfind)
          · rfl
          · exact absurd hfind (hunused ref)
    · next hne => exact (or_iff_right fun hand => hne hand.1).symm
  refine ⟨⟨?_, h.nodupOffline, ?_, ?_, ?_, ?_, ?_, ?_⟩, ?_⟩
  · refine nodup_append_singleton h.nodupOnline fun hin => ?_
    obtain ⟨ref, hfind, -⟩ := h.online.mp hin
    exact hunused ref hfind
  · intro id
    rw [ThreatManager.newReference, List.mem_append, List.mem_singleton, h.online]
    constructor
    · rintro (⟨ref, hfind, hon⟩ | rfl)
      · exact ⟨ref, hrefs.mpr (Or.inr hfind), hon⟩
      · exact ⟨_, hrefs.mpr (Or.inl ⟨rfl, rfl⟩), rfl⟩
    · rintro ⟨ref, hfind, hon⟩
      obtain ⟨rfl, -⟩ | hold := hrefs.mp hfind
      · exact Or.inr rfl
      · exact Or.inl ⟨ref, hold, hon⟩
  · intro id
    rw [ThreatManager.newReference, h.offline]
    constructor
    · rintro ⟨ref, hfind, hoff⟩
      exact ⟨ref, hrefs.mpr (Or.inr hfind), hoff⟩
    · rintro ⟨ref, hfind, hoff⟩
      obtain ⟨-, rfl⟩ | hold := hrefs.mp hfind
      · cases hoff
      · exact ⟨ref, hold, hoff⟩
  · intro id other ref ref' hfind hfind' hsame
    obtain ⟨rfl, rfl⟩ | hold := hrefs.mp hfind
    · obtain ⟨rfl, -⟩ | hold' := hrefs.mp hfind'
      · rfl
      · exact absurd hsame.symm (hnew hold')
    · obtain ⟨-, rfl⟩ | hold' := hrefs.mp hfind'
      · exact absurd hsame (hnew hold)
      · exact h.unique hold hold' hsame
  · intro id hvictim
    exact List.mem_append_left _ (h.victim hvictim)
  · intro id ref hfind hon
    obtain ⟨-, rfl⟩ | hold := hrefs.mp hfind
    · rfl
    · exact h.target hold hon
  · intro id ref hfind
    obtain ⟨rfl, -⟩ | hold := hrefs.mp hfind
    · exact Nat.lt_succ_self _
    · exact Nat.lt_succ_of_lt (h.fresh hold)
  · rintro id ⟨ref, hfind⟩
    exact ⟨ref, hrefs.mpr (Or.inr hfind)⟩

/-! ### Threat -/

section Threat

variable (answers : Nat → Answer F) {call : Nat → F → ThreatManager F → ThreatManager F}

/-- What adds threat within a call keeps the invariant. -/
def SoundCall (call : Nat → F → ThreatManager F → ThreatManager F) : Prop :=
  ∀ (victim : Nat) (threat : F) {s : ThreatManager F}, Sound s → Keeps s (call victim threat s)

theorem Sound.addThreatTo (h : Sound s) (hcall : SoundCall call) (id : Nat) (modThreat : F) :
    Keeps s (addThreatTo answers call id modThreat s) := by
  rw [ThreatManager.addThreatTo]
  have hadded : Keeps s (s.modifyRef id fun ref =>
      { ref with threat := ThreatValue.add ref.threat modThreat }) :=
    h.modifyRef (fun _ => rfl) (fun _ => rfl) fun _ _ _ hvalid => hvalid
  generalize (s.modifyRef id fun ref =>
    { ref with threat := ThreatValue.add ref.threat modThreat }) = added at hadded
  have hchecked : Keeps s (if added.isOnline id then added
      else added.updateOnlineStatus answers id) := by
    split
    · exact hadded
    · exact hadded.trans (hadded.sound.updateOnlineStatus answers id)
  dsimp only
  generalize (if added.isOnline id then added
    else added.updateOnlineStatus answers id) = checked at hchecked
  have hchanged : Keeps s (if ne modThreat zero then
      checked.processThreatEvent id (.threatChange modThreat) else checked) := by
    split
    · exact hchecked.trans (hchecked.sound.threatChange id modThreat)
    · exact hchecked
  generalize (if ne modThreat zero then
    checked.processThreatEvent id (.threatChange modThreat) else checked) = changed at hchanged
  have hasked : Keeps s changed.ask := hchanged.trans hchanged.sound.ask
  split
  · split
    · split
      · exact hasked.trans (hcall _ _ hasked.sound)
      · exact hasked
    · exact hasked
  · exact hchanged

theorem Sound.addThreatOf (h : Sound s) (hcall : SoundCall call) (victim : Nat) (threat : F) :
    Keeps s (addThreatOf answers call victim threat s) := by
  rw [ThreatManager.addThreatOf]
  split
  · exact h.addThreatTo answers hcall _ threat
  · next hon =>
      split
      · exact h.addThreatTo answers hcall _ threat
      · next hoff =>
          have hcreated : Keeps s (s.newReference victim) :=
            h.newReference fun hfind => getReferenceByTarget_none h hon hoff hfind
          have hadded := hcreated.trans
            (hcreated.sound.addThreatTo answers hcall s.nextRef threat)
          have hasked := hadded.trans hadded.sound.ask
          dsimp only
          split
          · exact hasked.trans (hasked.sound.setOnlineOfflineState Bool.noConfusion)
          · exact hasked

theorem Sound.doAddThreat (h : Sound s) (hcall : SoundCall call) (victim : Nat) (threat : F) :
    Keeps s (doAddThreat answers call victim threat s) := by
  rw [ThreatManager.doAddThreat]
  have hasked := h.ask
  have hplain := hasked.trans (hasked.sound.addThreatOf answers hcall victim threat)
  dsimp only
  split
  · next redirectTarget _ =>
      split
      · have hredirected := hasked.trans (hasked.sound.addThreatOf answers hcall redirectTarget
          (calculatePct threat (answers s.asked).redirectThreatPercent))
        exact hredirected.trans (hredirected.sound.addThreatOf answers hcall victim _)
      · exact hplain
  · exact hplain

theorem soundCall_addThreat (depth : Nat) : SoundCall (addThreat answers depth) := by
  induction depth with
  | zero => exact fun _ _ _ h => .refl h
  | succ depth ih =>
    intro victim threat s h
    rw [addThreat]
    have hasked := h.ask
    split
    · exact hasked.trans (hasked.sound.doAddThreat answers ih victim _)
    · exact hasked

theorem Sound.modifyThreatPercent (h : Sound s) (depth victim : Nat) (percent : Int) :
    Keeps s (s.modifyThreatPercent answers depth victim percent) := by
  rw [ThreatManager.modifyThreatPercent]
  split
  · exact h.addThreatTo answers (soundCall_addThreat answers depth) _ _
  · exact .refl h

theorem Sound.resetFrom (h : Sound s) (depth rounds place : Nat) :
    Keeps s (s.resetFrom answers depth rounds place) := by
  induction rounds generalizing s place with
  | zero => exact .refl h
  | succ rounds ih =>
    rw [ThreatManager.resetFrom]
    split
    · next id _ =>
        have hreset := h.addThreatTo answers (soundCall_addThreat answers depth) id
          (ThreatValue.sub zero (s.getThreat id))
        exact hreset.trans (ih hreset.sound (place + 1))
    · exact .refl h

theorem Sound.resetAllAggro (h : Sound s) (depth : Nat) :
    Keeps s (s.resetAllAggro answers depth) := by
  rw [ThreatManager.resetAllAggro]
  split
  · exact .refl h
  · have hreset := h.resetFrom answers depth depth 0
    exact hreset.trans hreset.sound.setDirty

theorem Sound.addTempThreat (h : Sound s) (depth id : Nat) (threat : F) :
    Keeps s (s.addTempThreat answers depth id threat) := by
  rw [ThreatManager.addTempThreat]
  have hmarked : Keeps s (s.modifyRef id fun ref => { ref with tempThreatModifier := threat }) :=
    h.modifyRef (fun _ => rfl) (fun _ => rfl) fun _ _ _ hvalid => hvalid
  split
  · exact hmarked.trans
      (hmarked.sound.addThreatTo answers (soundCall_addThreat answers depth) id threat)
  · exact hmarked

theorem Sound.tauntApply (h : Sound s) (depth taunter : Nat) :
    Keeps s (s.tauntApply answers depth taunter) := by
  rw [ThreatManager.tauntApply]
  split
  · split
    · split
      · exact h.addTempThreat answers depth _ _
      · exact .refl h
    · exact .refl h
  · exact .refl h

theorem Sound.tauntFadeOut (h : Sound s) (depth taunter : Nat) :
    Keeps s (s.tauntFadeOut answers depth taunter) := by
  rw [ThreatManager.tauntFadeOut]
  split
  · next id _ =>
      split
      · next ref _ =>
          split
          · have hfaded := h.addThreatTo answers (soundCall_addThreat answers depth) id
              (neg ref.tempThreatModifier)
            exact hfaded.trans
              (hfaded.sound.modifyRef (fun _ => rfl) (fun _ => rfl) fun _ _ _ hvalid => hvalid)
          · exact .refl h
      · exact .refl h
  · exact .refl h

end Threat

/-! ### The next victim -/

theorem Sound.update (h : Sound s) : Keeps s s.update := by
  rw [ThreatManager.update]
  have hperm : ∀ ids : List Nat, ids.Perm s.threatContainer →
      Sound { s with threatContainer := ids } := by
    intro ids hids
    refine ⟨hids.nodup_iff.mpr h.nodupOnline, h.nodupOffline, ?_, h.offline, h.unique, ?_,
      h.target, h.fresh⟩
    · intro id
      exact hids.mem_iff.trans h.online
    · intro id hvictim
      exact hids.mem_iff.mpr (h.victim hvictim)
  split
  · have hsorted := hperm _ (List.mergeSort_perm s.threatContainer fun id other =>
      !lt (s.getThreat id) (s.getThreat other))
    exact ⟨(hsorted.keep false s.asked).sound, fun hlive => hlive⟩
  · exact h.keep false s.asked

theorem considerVictim_cases {answer : Answer F} {currentVictim : Option Nat}
    (hsome : s.considerVictim answer currentVictim id = some other) :
    other = id ∨ currentVictim = some other := by
  unfold considerVictim at hsome
  split at hsome
  · cases hsome
  · split at hsome
    · exact Or.inl (Option.some.inj hsome).symm
    · next victim =>
        split at hsome
        · have heq := Option.some.inj hsome
          split at heq
          · exact Or.inr (congrArg some heq)
          · exact Or.inl heq.symm
        · split at hsome
          · exact Or.inl (Option.some.inj hsome).symm
          · cases hsome

/-- The next victim is one of the list or the current one. -/
theorem selectFrom_mem {answer : Answer F} {ids : List Nat} {currentVictim : Option Nat}
    (hids : ∀ id ∈ ids, id ∈ s.threatContainer)
    (hcurrent : ∀ {victim}, currentVictim = some victim → victim ∈ s.threatContainer)
    (hsome : s.selectFrom answer ids currentVictim = some other) : other ∈ s.threatContainer := by
  induction ids generalizing currentVictim with
  | nil => cases hsome
  | cons id rest ih =>
    have hrest : ∀ id ∈ rest, id ∈ s.threatContainer :=
      fun id hin => hids id (List.mem_cons_of_mem _ hin)
    rw [selectFrom] at hsome
    split at hsome
    · split at hsome
      · obtain ⟨chosen, hin, hchosen⟩ := List.exists_of_findSome?_eq_some hsome
        obtain rfl | hold := considerVictim_cases hchosen
        · exact hin
        · exact hcurrent hold
      · refine ih hrest ?_ hsome
        intro victim hvictim
        split at hvictim
        · cases hvictim
        · exact hcurrent hvictim
    · obtain hchosen | ⟨-, hlater⟩ := Option.or_eq_some_iff.mp hsome
      · obtain rfl | hold := considerVictim_cases hchosen
        · exact hids other List.mem_cons_self
        · exact hcurrent hold
      · exact ih hrest hcurrent hlater

theorem Sound.getHostilTarget (h : Sound s) (answers : Nat → Answer F) :
    Keeps s (s.getHostilTarget answers) := by
  have hupdated := h.update
  have hsound := hupdated.sound
  refine ⟨⟨hsound.nodupOnline, hsound.nodupOffline, hsound.online, hsound.offline, hsound.unique,
    ?_, hsound.target, hsound.fresh⟩, hupdated.live⟩
  intro id hvictim
  have hin : id ∈ s.update.ask.threatContainer :=
    selectFrom_mem (fun _ hin => hin) hsound.ask.sound.victim hvictim
  exact hin

/-! ### Every sequence of calls -/

theorem Sound.step (h : Sound s) (answers : Nat → Answer F) (depth : Nat) (call : ThreatCall F) :
    Sound (s.step answers depth call) := by
  cases call with
  | addThreat victim threat => exact (soundCall_addThreat answers depth victim threat h).sound
  | modifyThreatPercent victim percent =>
    exact (h.modifyThreatPercent answers depth victim percent).sound
  | resetAllAggro => exact (h.resetAllAggro answers depth).sound
  | tauntApply taunter => exact (h.tauntApply answers depth taunter).sound
  | tauntFadeOut taunter => exact (h.tauntFadeOut answers depth taunter).sound
  | updateOnlineStatus id => exact (h.updateOnlineStatus answers id).sound
  | invalidate id => exact (h.invalidate id).sound
  | removeReference id => exact h.removeReference id
  | getHostilTarget => exact (h.getHostilTarget answers).sound
  | clearReferences => exact h.clearReferences

theorem sound_run (answers : Nat → Answer F) (depth : Nat) (calls : List (ThreatCall F))
    (h : Sound s) : Sound (Runs.run (ThreatManager.step answers depth) s calls) := by
  induction calls generalizing s with
  | nil => exact h
  | cons call rest ih => exact ih (h.step answers depth call)

/-- Every live reference is in the list of its status once and in no other, the lists hold no other
pointers, a unit has one reference, and the victim is none or an online one. -/
structure Listed (s : ThreatManager F) : Prop where
  count : ∀ id ref, s.refs.find? id = some ref →
    s.threatContainer.count id = (if ref.isOnline then 1 else 0) ∧
      s.threatOfflineContainer.count id = if ref.isOnline then 0 else 1
  live : ∀ id, id ∈ s.threatContainer ∨ id ∈ s.threatOfflineContainer → Live s id
  unique : ∀ id other ref ref', s.refs.find? id = some ref → s.refs.find? other = some ref' →
    ref.unitGuid = ref'.unitGuid → id = other
  victim : ∀ id, s.currentVictim = some id → id ∈ s.threatContainer

/-- Whatever is called and whatever the world answers, the lists agree with the references. -/
theorem listed_after_calls (answers : Nat → Answer F) (depth : Nat)
    (calls : List (ThreatCall F)) :
    Listed (Runs.run (ThreatManager.step answers depth) empty calls) := by
  have hsound := sound_run answers depth calls sound_empty
  constructor
  · intro id ref hfind
    exact hsound.count hfind
  · rintro id (hin | hin)
    · obtain ⟨ref, hfind, -⟩ := hsound.online.mp hin
      exact ⟨ref, hfind⟩
    · obtain ⟨ref, hfind, -⟩ := hsound.offline.mp hin
      exact ⟨ref, hfind⟩
  · intro id other ref ref' hfind hfind' hsame
    exact hsound.unique hfind hfind' hsame
  · intro id hvictim
    exact hsound.victim hvictim

end ThreatManager

end Cataclysm.Combat
