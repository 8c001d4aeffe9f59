import Cataclysm.DungeonFinding.LFGQueue

/-!
# What a search does to the lists

A search for groups leaves the lists and the proposals alone until it finds a complete
combination; that combination leaves the lists and becomes one proposal. This needs that
no combination of the current entries is itself complete: `CheckCompatibility` judges all
entries but the new one first and would already propose them.

## Implementation notes

The search also writes the data store and the cache. It keeps the dungeons and the roles of
every entry, so that the assumption, made at the start of a search, holds to its end.
-/

namespace Cataclysm.Lfg

namespace LFGQueue

/-- The entries that wait, the new ones first. -/
def listed (q : LFGQueue) : List Guid := q.newToQueueStore ++ q.currentQueueStore

/-- The lists are the same, and so is what the entries ask for. -/
structure SameEntries (q q' : LFGQueue) : Prop where
  newToQueueStore : q'.newToQueueStore = q.newToQueueStore
  currentQueueStore : q'.currentQueueStore = q.currentQueueStore
  dungeonsOf : q'.dungeonsOf = q.dungeonsOf
  rolesOf : q'.rolesOf = q.rolesOf

theorem SameEntries.refl (q : LFGQueue) : SameEntries q q := ⟨rfl, rfl, rfl, rfl⟩

theorem SameEntries.trans {q q' q'' : LFGQueue} (h : SameEntries q q') (h' : SameEntries q' q'') :
    SameEntries q q'' :=
  ⟨h'.1.trans h.1, h'.2.trans h.2, h'.3.trans h.3, h'.4.trans h.4⟩

theorem SameEntries.foldl {f : LFGQueue → Guid → LFGQueue} (hf : ∀ q guid, SameEntries q (f q guid))
    (guids : List Guid) (q : LFGQueue) : SameEntries q (guids.foldl f q) := by
  induction guids generalizing q with
  | nil => exact .refl q
  | cons guid rest ih => exact (hf q guid).trans (ih (f q guid))

/-- A write to the data store that keeps what the entry asks for. -/
theorem sameEntries_insert (q : LFGQueue) (guid : Guid) (data : LfgQueueData)
    (hdungeons : data.dungeons = q.dungeonsOf guid) (hroles : data.roles = q.rolesOf guid) :
    SameEntries q { q with queueDataStore := q.queueDataStore.insert guid data } := by
  refine ⟨rfl, rfl, funext fun other => ?_, funext fun other => ?_⟩
  · simp only [dungeonsOf, OrderedMap.find?_insert]
    split
    · next h => simpa [h, dungeonsOf] using hdungeons
    · rfl
  · simp only [rolesOf, OrderedMap.find?_insert]
    split
    · next h => simpa [h, rolesOf] using hroles
    · rfl

end LFGQueue

namespace LfgQueueData

@[simp] theorem dungeons_initializeGroupSetup (view : LfgView) (data : LfgQueueData) :
    (data.initializeGroupSetup view).dungeons = data.dungeons := by
  unfold initializeGroupSetup
  split <;> rfl

@[simp] theorem roles_initializeGroupSetup (view : LfgView) (data : LfgQueueData) :
    (data.initializeGroupSetup view).roles = data.roles := by
  unfold initializeGroupSetup
  split <;> rfl

theorem takeRole_keeps (data : LfgQueueData) (role : UInt8) :
    (data.takeRole role).dungeons = data.dungeons ∧ (data.takeRole role).roles = data.roles := by
  unfold takeRole
  split
  · exact ⟨rfl, rfl⟩
  · split
    · exact ⟨rfl, rfl⟩
    · split <;> exact ⟨rfl, rfl⟩

theorem takeRoles_keeps (roles : List (Guid × UInt8)) (data : LfgQueueData) :
    (roles.foldl (fun data entry => data.takeRole entry.2) data).dungeons = data.dungeons ∧
      (roles.foldl (fun data entry => data.takeRole entry.2) data).roles = data.roles := by
  induction roles generalizing data with
  | nil => exact ⟨rfl, rfl⟩
  | cons entry rest ih =>
    have hhead := data.takeRole_keeps entry.2
    have htail := ih (data.takeRole entry.2)
    exact ⟨htail.1.trans hhead.1, htail.2.trans hhead.2⟩

theorem updateBestCompatible_keeps (view : LfgView) (key : CacheKey) (roles : LfgRolesMap)
    (data : LfgQueueData) :
    (data.updateBestCompatible view key roles).dungeons = data.dungeons ∧
      (data.updateBestCompatible view key roles).roles = data.roles := by
  simp only [updateBestCompatible]
  generalize (if data.bestCompatible = [] then 0 else _) = storedSize
  split
  · exact ⟨rfl, rfl⟩
  · have hfold := takeRoles_keeps roles.entries
      (LfgQueueData.initializeGroupSetup view { data with bestCompatible := key })
    simpa using hfold

end LfgQueueData

namespace LFGQueue

theorem sameEntries_touch (q : LFGQueue) (view : LfgView) (guid : Guid) :
    SameEntries q (q.touch view guid) := by
  apply sameEntries_insert
  · cases h : q.queueDataStore.find? guid with
    | none => simp [data, dungeonsOf, h, LfgQueueData.new]
    | some data => simp [LFGQueue.data, dungeonsOf, h]
  · cases h : q.queueDataStore.find? guid with
    | none => simp [data, rolesOf, h, LfgQueueData.new]
    | some data => simp [LFGQueue.data, rolesOf, h]

theorem sameEntries_updateBestCompatible (view : LfgView) (key : CacheKey) (roles : LfgRolesMap)
    (q : LFGQueue) (guid : Guid) :
    SameEntries q (q.modifyData guid (LfgQueueData.updateBestCompatible view key roles)) := by
  unfold modifyData
  split
  · exact .refl q
  · next data h =>
      have hkeeps := data.updateBestCompatible_keeps view key roles
      apply sameEntries_insert
      · simp [dungeonsOf, h, hkeeps.1]
      · simp [rolesOf, h, hkeeps.2]

end LFGQueue

/-! ## Complete combinations -/

variable {check : List Guid}

/-- Only a combination itself can be proposed. -/
theorem queues_of_evaluate {view : LfgView} {rand : Nat → Nat} {dungeonsOf : Guid → LfgDungeonSet}
    {rolesOf : Guid → LfgRolesMap} {drawn : Nat} {proposal : LfgProposal}
    (h : (evaluate view rand dungeonsOf rolesOf check drawn).1 = .propose proposal) :
    proposal.queues = check := by
  simp only [evaluate] at h
  split at h
  · simp at h
  · repeat (split at h; · simp at h)
    rw [← Verdict.propose.inj h]

/-- No combination of two or more of the entries is complete by itself. -/
def Barren (view : LfgView) (rand : Nat → Nat) (dungeonsOf : Guid → LfgDungeonSet)
    (rolesOf : Guid → LfgRolesMap) (entries : List Guid) : Prop :=
  ∀ check, check.Sublist entries → 2 ≤ check.length → ∀ drawn proposal,
    (evaluate view rand dungeonsOf rolesOf check drawn).1 ≠ .propose proposal

/-- No combination of the current entries is complete by itself. -/
def LFGQueue.NoneComplete (view : LfgView) (rand : Nat → Nat) (q : LFGQueue) : Prop :=
  Barren view rand q.dungeonsOf q.rolesOf q.currentQueueStore

namespace Matching

variable {s s' : Matching} {entries : List Guid}

/-- The lists and the proposals are as they were. -/
structure Quiet (s s' : Matching) : Prop where
  queue : LFGQueue.SameEntries s.queue s'.queue
  proposals : s'.proposals = s.proposals

/-- A combination left the lists and became a proposal. -/
def Proposes (check : List Guid) (s s' : Matching) : Prop :=
  s'.queue.newToQueueStore = s.queue.newToQueueStore.filter (· ∉ check) ∧
    s'.queue.currentQueueStore = s.queue.currentQueueStore.filter (· ∉ check) ∧
    ∃ id proposal, proposal.queues = check ∧ s'.proposals = s.proposals.insert id proposal

theorem Quiet.refl (s : Matching) : Quiet s s := ⟨.refl _, rfl⟩

theorem Quiet.trans {s'' : Matching} (h : Quiet s s') (h' : Quiet s' s'') : Quiet s s'' :=
  ⟨h.queue.trans h'.queue, h'.proposals.trans h.proposals⟩

theorem Proposes.of_quiet {s'' : Matching} (hquiet : Quiet s s') (h : Proposes check s' s'') :
    Proposes check s s'' := by
  obtain ⟨hnew, hcurrent, id, proposal, hqueues, hproposals⟩ := h
  rw [hquiet.queue.newToQueueStore] at hnew
  rw [hquiet.queue.currentQueueStore] at hcurrent
  rw [hquiet.proposals] at hproposals
  exact ⟨hnew, hcurrent, id, proposal, hqueues, hproposals⟩

theorem quiet_setCompatibles (s : Matching) (check : List Guid) (compatibles : LfgCompatibility) :
    Quiet s (s.setCompatibles check compatibles) := ⟨⟨rfl, rfl, rfl, rfl⟩, rfl⟩

theorem Quiet.barren {view : LfgView} {rand : Nat → Nat} (hquiet : Quiet s s')
    (h : Barren view rand s.queue.dungeonsOf s.queue.rolesOf entries) :
    Barren view rand s'.queue.dungeonsOf s'.queue.rolesOf entries := by
  rw [hquiet.queue.dungeonsOf, hquiet.queue.rolesOf]
  exact h

/-- The entries of a proposal leave the lists one by one. -/
theorem lists_unlisted (check : List Guid) (q : LFGQueue) :
    (check.foldl (fun q guid => (q.removeFromNewQueue guid).removeFromCurrentQueue guid)
        q).newToQueueStore = q.newToQueueStore.filter (· ∉ check) ∧
      (check.foldl (fun q guid => (q.removeFromNewQueue guid).removeFromCurrentQueue guid)
        q).currentQueueStore = q.currentQueueStore.filter (· ∉ check) := by
  induction check generalizing q with
  | nil => simp
  | cons guid rest ih =>
    obtain ⟨hnew, hcurrent⟩ := ih ((q.removeFromNewQueue guid).removeFromCurrentQueue guid)
    rw [List.foldl_cons, hnew, hcurrent]
    simp only [LFGQueue.removeFromNewQueue, LFGQueue.removeFromCurrentQueue, List.filter_filter]
    constructor <;>
      exact List.filter_congr fun other _ => by simp [Bool.and_comm]

/-- A verdict other than a proposal is only written to the store and the cache. -/
theorem quiet_record (view : LfgView) (s : Matching) (check : List Guid) {verdict : Verdict}
    (h : ∀ proposal, verdict ≠ .propose proposal) :
    Quiet s (record view s check verdict).2 ∧ (record view s check verdict).1 ≠ .isMatch := by
  cases verdict with
  | propose proposal => exact absurd rfl (h proposal)
  | withLessPlayers roles =>
    have hfold := LFGQueue.SameEntries.foldl
      (LFGQueue.sameEntries_updateBestCompatible view (concatenateGuids check) roles) check s.queue
    exact ⟨⟨hfold.trans ⟨rfl, rfl, rfl, rfl⟩, rfl⟩, by simp [record]⟩
  | wrongGroupSize => exact ⟨.refl s, by simp [record]⟩
  | _ => exact ⟨quiet_setCompatibles s check _, by simp [record]⟩

theorem proposes_record (view : LfgView) (s : Matching) (proposal : LfgProposal) :
    Proposes proposal.queues s (record view s proposal.queues (.propose proposal)).2 := by
  obtain ⟨hnew, hcurrent⟩ := lists_unlisted proposal.queues s.queue
  exact ⟨hnew, hcurrent, (s.lfgProposalId + 1) % 2 ^ 32, proposal, rfl, rfl⟩

/-- The outcome of a judgement: nothing, or this combination as a proposal. -/
def Outcome (check : List Guid) (s : Matching) (result : LfgCompatibility × Matching) : Prop :=
  Quiet s result.2 ∨ result.1 = .isMatch ∧ Proposes check s result.2

variable {view : LfgView} {rand : Nat → Nat}

variable {front : Guid} {compatibles : LfgCompatibility}

/-- `checkOwn` reads the entries after the look-ups have stored them. -/
theorem checkOwn_eq (view : LfgView) (rand : Nat → Nat) (check : List Guid) (s : Matching) :
    ∃ t verdict drawn, Quiet s t ∧ checkOwn view rand check s = record view t check verdict ∧
      (evaluate view rand s.queue.dungeonsOf s.queue.rolesOf check drawn).1 = verdict := by
  have htouch := LFGQueue.SameEntries.foldl (fun q guid => q.sameEntries_touch view guid) check
    s.queue
  have hquiet : Quiet s { s with
      queue := check.foldl (fun q guid => q.touch view guid) s.queue
      drawn := (evaluate view rand s.queue.dungeonsOf s.queue.rolesOf check s.drawn).2 } :=
    ⟨htouch, rfl⟩
  refine ⟨_, _, s.drawn, hquiet, ?_, rfl⟩
  simp only [checkOwn, htouch.dungeonsOf, htouch.rolesOf]

theorem outcome_checkOwn (view : LfgView) (rand : Nat → Nat) (check : List Guid) (s : Matching) :
    Outcome check s (checkOwn view rand check s) := by
  obtain ⟨t, verdict, drawn, hquiet, heq, hverdict⟩ := checkOwn_eq view rand check s
  rw [heq]
  by_cases hpropose : ∃ proposal, verdict = .propose proposal
  · obtain ⟨proposal, rfl⟩ := hpropose
    obtain rfl := queues_of_evaluate hverdict
    exact Or.inr ⟨rfl, (proposes_record view t proposal).of_quiet hquiet⟩
  · have hrecord := quiet_record view t check fun proposal h => hpropose ⟨proposal, h⟩
    exact Or.inl (hquiet.trans hrecord.1)

theorem quiet_checkOwn (hbarren : Barren view rand s.queue.dungeonsOf s.queue.rolesOf entries)
    (hsub : check.Sublist entries) (hlength : 2 ≤ check.length) :
    Quiet s (checkOwn view rand check s).2 := by
  obtain ⟨t, verdict, drawn, hquiet, heq, rfl⟩ := checkOwn_eq view rand check s
  rw [heq]
  exact hquiet.trans (quiet_record view t check (hbarren check hsub hlength drawn)).1

/-- The check of current entries alone proposes nothing. -/
theorem quiet_checkCompatibility
    (hbarren : Barren view rand s.queue.dungeonsOf s.queue.rolesOf entries)
    (hsub : check.Sublist entries) (hlength : 2 ≤ check.length) :
    Quiet s (checkCompatibility view rand check s).2 := by
  induction check with
  | nil => exact .refl s
  | cons front rest ih =>
    rw [checkCompatibility]
    split
    · next hrest =>
        have hchild := ih ((List.sublist_cons_self front rest).trans hsub) hrest
        generalize checkCompatibility view rand rest s = result at hchild ⊢
        obtain ⟨child, t⟩ := result
        simp only
        split
        · exact hchild.trans (quiet_setCompatibles _ _ _)
        · exact hchild.trans (quiet_checkOwn (hchild.barren hbarren) hsub hlength)
    · exact quiet_checkOwn hbarren hsub hlength

/-- The check of a new entry with current ones proposes at most all of them. -/
theorem outcome_checkCompatibility {rest : List Guid} (front : Guid)
    (hbarren : Barren view rand s.queue.dungeonsOf s.queue.rolesOf entries)
    (hsub : rest.Sublist entries) :
    Outcome (front :: rest) s (checkCompatibility view rand (front :: rest) s) := by
  rw [checkCompatibility]
  split
  · next hrest =>
      have hchild := quiet_checkCompatibility hbarren hsub hrest
      generalize checkCompatibility view rand rest s = result at hchild ⊢
      obtain ⟨child, t⟩ := result
      simp only
      split
      · exact Or.inl (hchild.trans (quiet_setCompatibles _ _ _))
      · rcases outcome_checkOwn view rand (front :: rest) t with hquiet | h
        · exact Or.inl (hchild.trans hquiet)
        · exact Or.inr ⟨h.1, h.2.of_quiet hchild⟩
  · exact outcome_checkOwn view rand (front :: rest) s

theorem outcome_compatibility {rest : List Guid} (front : Guid)
    (hbarren : Barren view rand s.queue.dungeonsOf s.queue.rolesOf entries)
    (hsub : rest.Sublist entries) :
    Outcome (front :: rest) s (compatibility view rand (front :: rest) s) := by
  have hjudged : Outcome (front :: rest) s
      (if s.queue.getCompatibles (concatenateGuids (front :: rest)) = .pending then
        checkCompatibility view rand (front :: rest) s
      else (s.queue.getCompatibles (concatenateGuids (front :: rest)), s)) := by
    split
    · exact outcome_checkCompatibility front hbarren hsub
    · exact Or.inl (.refl s)
  unfold compatibility
  simp only
  generalize (if s.queue.getCompatibles (concatenateGuids (front :: rest)) = .pending then
      checkCompatibility view rand (front :: rest) s
    else (s.queue.getCompatibles (concatenateGuids (front :: rest)), s)) = result at hjudged ⊢
  obtain ⟨compatibles, t⟩ := result
  simp only
  split
  · next hbad =>
      rcases hjudged with hquiet | ⟨hmatch, -⟩
      · exact Or.inl (hquiet.trans (quiet_setCompatibles _ _ _))
      · simp [hbad.1] at hmatch
  · exact hjudged

/-- What a search with a new entry may do: propose it with some of the current entries. -/
def Found (front : Guid) (entries : List Guid) (s : Matching) (compatibles : LfgCompatibility)
    (s' : Matching) : Prop :=
  Quiet s s' ∨ compatibles = .isMatch ∧
    ∃ rest, rest.Sublist entries ∧ Proposes (front :: rest) s s'

theorem Found.of_quiet {t : Matching} (hquiet : Quiet s t)
    (h : Found front entries t compatibles s') : Found front entries s compatibles s' := by
  rcases h with h | ⟨hmatch, rest, hsub, h⟩
  · exact Or.inl (hquiet.trans h)
  · exact Or.inr ⟨hmatch, rest, hsub, h.of_quiet hquiet⟩

theorem Found.quiet (h : Found front entries s compatibles s') (hne : compatibles ≠ .isMatch) :
    Quiet s s' := by
  rcases h with hquiet | ⟨hmatch, -⟩
  · exact hquiet
  · exact absurd hmatch hne

/-- A search uses up the entries in order. -/
theorem left_sublist (view : LfgView) (rand : Nat → Nat) (fuel : Nat) :
    (∀ check all s, (findNewGroups view rand fuel check all s).2.1.Sublist all) ∧
      ∀ check all s, (matchQueued view rand fuel check all s).2.1.Sublist all := by
  induction fuel with
  | zero =>
    refine ⟨fun check all s => ?_, fun check all s => ?_⟩
    · rw [findNewGroups]
    · rw [matchQueued]
  | succ fuel ih =>
    obtain ⟨hfind, hmatch⟩ := ih
    refine ⟨fun check all s => ?_, fun check all s => ?_⟩
    · rw [findNewGroups]
      simp only
      split
      · exact .refl all
      · exact hmatch check all _
    · cases all with
      | nil => rw [matchQueued]
      | cons next all =>
        have hall := hfind (check ++ [next]) all s
        rw [matchQueued]
        generalize findNewGroups view rand fuel (check ++ [next]) all s = result at hall ⊢
        split
        · exact hall.cons next
        · exact ((hmatch check _ _).trans hall).cons next

/-- The search with a new entry proposes it at most once, with current entries. -/
theorem found_search (front : Guid) (entries : List Guid) (fuel : Nat) :
    (∀ rest all s, Barren view rand s.queue.dungeonsOf s.queue.rolesOf entries →
      (rest ++ all).Sublist entries →
      let result := findNewGroups view rand fuel (front :: rest) all s
      Found front entries s result.1 result.2.2) ∧
    (∀ rest all s, Barren view rand s.queue.dungeonsOf s.queue.rolesOf entries →
      (rest ++ all).Sublist entries →
      let result := matchQueued view rand fuel (front :: rest) all s
      Found front entries s result.1 result.2.2) := by
  induction fuel with
  | zero =>
    refine ⟨fun rest all s _ _ => ?_, fun rest all s _ _ => ?_⟩
    · rw [findNewGroups]
      exact Or.inl (.refl s)
    · rw [matchQueued]
      exact Or.inl (.refl s)
  | succ fuel ih =>
    obtain ⟨hfind, hmatch⟩ := ih
    constructor
    · intro rest all s hbarren hsub
      have hrest := (List.sublist_append_left rest all).trans hsub
      have hjudged := outcome_compatibility front hbarren hrest
      simp only [findNewGroups]
      generalize compatibility view rand (front :: rest) s = result at hjudged ⊢
      obtain ⟨compatibles, t⟩ := result
      have hfound : Found front entries s compatibles t :=
        hjudged.imp_right fun h => ⟨h.1, rest, hrest, h.2⟩
      simp only
      split
      · exact hfound
      · next hless =>
          have hquiet := hfound.quiet (by simp_all)
          exact (hmatch rest all t (hquiet.barren hbarren) hsub).of_quiet hquiet
    · intro rest all s hbarren hsub
      cases all with
      | nil =>
        rw [matchQueued]
        exact Or.inl (.refl s)
      | cons next all =>
        have hfound := hfind (rest ++ [next]) all s hbarren (by simpa using hsub)
        have hall := (left_sublist view rand fuel).1
          (front :: (rest ++ [next])) all s
        simp only [matchQueued, List.cons_append]
        generalize findNewGroups view rand fuel (front :: (rest ++ [next])) all s = result
          at hall hfound ⊢
        split
        · exact hfound
        · next compatibles all' t hne =>
            have hquiet := hfound.quiet hne
            have hleft : (rest ++ all').Sublist entries :=
              ((hall.cons next).append_left rest).trans hsub
            exact (hmatch rest all' t (hquiet.barren hbarren) hleft).of_quiet hquiet

/-! ## Rounds -/

/-- How often an entry stands in the lists and in the proposals. -/
def occurrences (s : Matching) (guid : Guid) : Nat :=
  s.queue.listed.count guid + s.proposals.sumValues fun proposal => proposal.queues.count guid

/-- A proposal counts at most what it took from the lists. -/
theorem Proposes.occurrences_le (h : Proposes check s s') {guid : Guid} {n : Nat}
    (hn : check.count guid ≤ s.queue.listed.count guid + n) :
    s'.occurrences guid ≤ s.occurrences guid + n := by
  obtain ⟨hnew, hcurrent, id, proposal, rfl, hproposals⟩ := h
  have hsum := s.proposals.sumValues_insert id proposal fun proposal => proposal.queues.count guid
  simp only [occurrences, LFGQueue.listed, List.count_append] at hn ⊢
  rw [hnew, hcurrent, hproposals]
  by_cases hmem : guid ∈ proposal.queues
  · have hgone : ∀ l : List Guid, (l.filter (· ∉ proposal.queues)).count guid = 0 := fun l =>
      List.count_eq_zero.mpr fun hin => by simp [hmem] at hin
    rw [hgone, hgone]
    omega
  · have hkept : ∀ l : List Guid, (l.filter (· ∉ proposal.queues)).count guid ≤ l.count guid :=
      fun l => List.filter_sublist.count_le guid
    have hzero : proposal.queues.count guid = 0 := List.count_eq_zero.mpr hmem
    have hnew' := hkept s.queue.newToQueueStore
    have hcurrent' := hkept s.queue.currentQueueStore
    omega

theorem Quiet.occurrences_eq (h : Quiet s s') (guid : Guid) :
    s'.occurrences guid = s.occurrences guid := by
  simp only [occurrences, LFGQueue.listed, h.queue.newToQueueStore, h.queue.currentQueueStore,
    h.proposals]

theorem occurrences_addToCurrentQueue (s : Matching) (front guid : Guid) :
    occurrences { s with queue := s.queue.addToCurrentQueue front } guid =
      s.occurrences guid + [front].count guid := by
  simp only [occurrences, LFGQueue.listed, LFGQueue.addToCurrentQueue, List.count_append]
  omega

/-- The new entry is taken out before the search. -/
theorem occurrences_removeFromNewQueue {waiting : List Guid}
    (h : s.queue.newToQueueStore = front :: waiting) (guid : Guid) :
    occurrences { s with queue := s.queue.removeFromNewQueue front } guid + [front].count guid ≤
      s.occurrences guid := by
  have hle : ((front :: waiting).filter (· ≠ front)).count guid + [front].count guid ≤
      (front :: waiting).count guid := by
    have hkept : (waiting.filter (· ≠ front)).count guid ≤ waiting.count guid :=
      List.filter_sublist.count_le guid
    simp only [ne_eq, not_true, decide_false, Bool.false_eq_true, not_false_eq_true,
      List.filter_cons_of_neg, List.count_cons, List.count_nil] at hkept ⊢
    omega
  simp only [occurrences, LFGQueue.listed, LFGQueue.removeFromNewQueue, List.count_append, h]
  omega

theorem Found.occurrences_le (h : Found front s.queue.currentQueueStore s compatibles s')
    (guid : Guid) : s'.occurrences guid ≤ s.occurrences guid + [front].count guid := by
  rcases h with hquiet | ⟨-, rest, hsub, hproposes⟩
  · rw [hquiet.occurrences_eq guid]
    exact Nat.le_add_right ..
  · apply hproposes.occurrences_le
    have hrest := hsub.count_le guid
    simp only [LFGQueue.listed, List.count_append, List.count_cons, List.count_nil]
    omega

/-- The search of a round, and whether the new entry becomes a current one. -/
theorem findGroup_cases {found : Bool} (h : s.findGroup view rand = some (found, s')) :
    ∃ front waiting all compatibles t, s.queue.newToQueueStore = front :: waiting ∧
      findNewGroups view rand (2 * s.queue.currentQueueStore.length + 1) [front]
        s.queue.currentQueueStore { s with queue := s.queue.removeFromNewQueue front } =
          (compatibles, all, t) ∧
      (compatibles = .isMatch ∧ s' = t ∨
        compatibles ≠ .isMatch ∧ s' = { t with queue := t.queue.addToCurrentQueue front }) := by
  unfold findGroup at h
  cases hnew : s.queue.newToQueueStore with
  | nil => simp [hnew] at h
  | cons front waiting =>
    simp only [hnew] at h
    split at h
    · next all t heq =>
        cases h
        exact ⟨front, waiting, all, .isMatch, s', rfl, heq, Or.inl ⟨rfl, rfl⟩⟩
    · next compatibles all t hne heq =>
        cases h
        exact ⟨front, waiting, all, compatibles, t, rfl, heq, Or.inr ⟨hne, rfl⟩⟩

/-- A round takes no entry twice when no combination of the current entries is complete. -/
theorem occurrences_findGroup_le {found : Bool} (hbarren : s.queue.NoneComplete view rand)
    (h : s.findGroup view rand = some (found, s')) (guid : Guid) :
    s'.occurrences guid ≤ s.occurrences guid := by
  obtain ⟨front, waiting, all, compatibles, t, hnew, hsearch, hend⟩ := findGroup_cases h
  have htaken := occurrences_removeFromNewQueue hnew guid
  have hfound := (found_search front s.queue.currentQueueStore
    (2 * s.queue.currentQueueStore.length + 1)).1 [] s.queue.currentQueueStore
    { s with queue := s.queue.removeFromNewQueue front } hbarren (.refl _)
  rw [hsearch] at hfound
  rcases hend with ⟨-, rfl⟩ | ⟨hne, rfl⟩
  · exact le_trans (Found.occurrences_le hfound guid) htaken
  · rw [occurrences_addToCurrentQueue, (hfound.quiet hne).occurrences_eq guid]
    exact htaken

/-- Every round of the loop starts with no complete combination among the current entries. -/
def SoundRounds (view : LfgView) (rand : Nat → Nat) : Nat → Matching → Prop
  | 0, _ => True
  | fuel + 1, s =>
    match s.findGroup view rand with
    | none => True
    | some (_, s') => s.queue.NoneComplete view rand ∧ SoundRounds view rand fuel s'

/-- Every round of a search starts so. -/
def SoundSearch (view : LfgView) (rand : Nat → Nat) (s : Matching) : Prop :=
  SoundRounds view rand s.queue.newToQueueStore.length s

/-- A search for one new entry with at most one current one. -/
theorem soundSearch_of_few (hnew : s.queue.newToQueueStore.length ≤ 1)
    (hcurrent : s.queue.currentQueueStore.length ≤ 1) : s.SoundSearch view rand := by
  have hnone : s.queue.NoneComplete view rand := fun check hsub hlength => by
    have hle := hsub.length_le
    omega
  rw [SoundSearch]
  obtain hzero | hone : s.queue.newToQueueStore.length = 0 ∨ s.queue.newToQueueStore.length = 1 := by
    omega
  · rw [hzero]
    trivial
  · rw [hone, SoundRounds]
    split
    · trivial
    · exact ⟨hnone, trivial⟩

theorem occurrences_findGroupsLoop_le {fuel : Nat} (found : Nat)
    (h : SoundRounds view rand fuel s) (guid : Guid) :
    (findGroupsLoop view rand fuel found s).2.occurrences guid ≤ s.occurrences guid := by
  induction fuel generalizing s found with
  | zero => exact Nat.le_refl _
  | succ fuel ih =>
    rw [findGroupsLoop]
    rw [SoundRounds] at h
    cases hround : s.findGroup view rand with
    | none => exact Nat.le_refl _
    | some result =>
      obtain ⟨isFound, s'⟩ := result
      rw [hround] at h
      calc (findGroupsLoop view rand fuel _ s').2.occurrences guid
          ≤ s'.occurrences guid := ih _ h.2
        _ ≤ s.occurrences guid := occurrences_findGroup_le h.1 hround guid

/-- `FindGroups` takes no entry twice. -/
theorem occurrences_findGroups_le (h : s.SoundSearch view rand) (guid : Guid) :
    (s.findGroups view rand).2.occurrences guid ≤ s.occurrences guid :=
  occurrences_findGroupsLoop_le 0 h guid

end Matching

end Cataclysm.Lfg
