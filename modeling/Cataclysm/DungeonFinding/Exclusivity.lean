import Cataclysm.DungeonFinding.LFGMgr
import Cataclysm.DungeonFinding.Search

/-!
# An entry waits in one place

An entry of the dungeon finder should wait once in the lists of the queues or belong to
one proposal. The measure is how often a guid stands in all lists and all proposals
together: removals and failed proposals never raise it, and a search does not either when
no combination of the current entries is complete before it. Only a call that queues an
entry raises it, by one for that entry. `JoinLfg` takes an entry out first only when its
state says that it is queued, and a finished role check never does, so a group or a player
that joins again while a proposal is pending is then in the queue as well.

## Implementation notes

`Sound` is the condition on a call: an entry that it queues is nowhere else at that moment,
and its searches start without a complete combination among the current entries.
-/

namespace Cataclysm.Lfg

namespace LFGMgr

variable {m : LFGMgr}

/-- Every entry is in at most one proposal, at most once in the lists, and not in both. -/
structure Exclusive (m : LFGMgr) : Prop where
  proposals : ∀ guid, ∀ e ∈ m.proposalsStore.entries, ∀ e' ∈ m.proposalsStore.entries,
    guid ∈ e.2.queues → guid ∈ e'.2.queues → e.1 = e'.1
  lists : ∀ guid, ∀ e ∈ m.queuesStore.entries, e.2.listed.count guid ≤ 1
  apart : ∀ guid, ∀ e ∈ m.queuesStore.entries, ∀ e' ∈ m.proposalsStore.entries,
    guid ∈ e'.2.queues → guid ∉ e.2.listed

/-- A guid stands in no list and in no proposal. -/
def Absent (m : LFGMgr) (guid : Guid) : Prop :=
  (∀ e ∈ m.queuesStore.entries, guid ∉ e.2.listed) ∧
    ∀ e ∈ m.proposalsStore.entries, guid ∉ e.2.queues

instance (m : LFGMgr) (guid : Guid) : Decidable (m.Absent guid) :=
  inferInstanceAs (Decidable (_ ∧ _))

/-- How often a guid stands in the lists and in the proposals. -/
def occurrences (m : LFGMgr) (guid : Guid) : Nat :=
  (m.queuesStore.sumValues fun q => q.listed.count guid) +
    m.proposalsStore.sumValues fun proposal => proposal.queues.count guid

theorem occurrences_eq_zero_iff {guid : Guid} : m.occurrences guid = 0 ↔ m.Absent guid := by
  rw [occurrences, Nat.add_eq_zero_iff, OrderedMap.sumValues_eq_zero_iff,
    OrderedMap.sumValues_eq_zero_iff]
  simp only [List.count_eq_zero, Absent]

theorem exclusive_of_occurrences (h : ∀ guid, m.occurrences guid ≤ 1) :
    m.Exclusive where
  proposals := by
    intro guid e he e' he' hmem hmem'
    by_contra hne
    have hsum := OrderedMap.add_le_sumValues he he' (Ne.symm hne) fun proposal =>
      proposal.queues.count guid
    have hpos := List.count_pos_iff.mpr hmem
    have hpos' := List.count_pos_iff.mpr hmem'
    have hone := h guid
    simp only [occurrences] at hone hsum
    omega
  lists := by
    intro guid e he
    have hsum := OrderedMap.le_sumValues he fun q => q.listed.count guid
    have hone := h guid
    simp only [occurrences] at hone hsum
    omega
  apart := by
    intro guid e he e' he' hmem hlisted
    have hlists := OrderedMap.le_sumValues he fun q => q.listed.count guid
    have hsum := OrderedMap.le_sumValues he' fun proposal => proposal.queues.count guid
    have hpos := List.count_pos_iff.mpr hmem
    have hpos' := List.count_pos_iff.mpr hlisted
    have hone := h guid
    simp only [occurrences] at hone hlists hsum
    omega

/-! ## What a call can change -/

variable {m' : LFGMgr}

/-- The lists and the proposals are the same. -/
structure SameLists (m m' : LFGMgr) : Prop where
  queuesStore : m'.queuesStore = m.queuesStore
  proposalsStore : m'.proposalsStore = m.proposalsStore

/-- No guid stands anywhere more often. -/
def Shrinks (m m' : LFGMgr) : Prop := ∀ guid, m'.occurrences guid ≤ m.occurrences guid

theorem SameLists.refl (m : LFGMgr) : SameLists m m := ⟨rfl, rfl⟩

theorem SameLists.trans {m'' : LFGMgr} (h : SameLists m m') (h' : SameLists m' m'') :
    SameLists m m'' :=
  ⟨h'.1.trans h.1, h'.2.trans h.2⟩

theorem SameLists.foldl {α : Type*} {f : LFGMgr → α → LFGMgr} (hf : ∀ m a, SameLists m (f m a))
    (l : List α) (m : LFGMgr) : SameLists m (l.foldl f m) := by
  induction l generalizing m with
  | nil => exact .refl m
  | cons a rest ih => exact (hf m a).trans (ih (f m a))

theorem Shrinks.refl (m : LFGMgr) : Shrinks m m := fun _ => Nat.le_refl _

theorem Shrinks.trans {m'' : LFGMgr} (h : Shrinks m m') (h' : Shrinks m' m'') : Shrinks m m'' :=
  fun guid => (h' guid).trans (h guid)

theorem Shrinks.ite {a b : LFGMgr} {c : Prop} [Decidable c] (ha : Shrinks m a) (hb : Shrinks m b) :
    Shrinks m (if c then a else b) := by
  split
  · exact ha
  · exact hb

theorem Shrinks.foldl {α : Type*} {f : LFGMgr → α → LFGMgr} (hf : ∀ m a, Shrinks m (f m a))
    (l : List α) (m : LFGMgr) : Shrinks m (l.foldl f m) := by
  induction l generalizing m with
  | nil => exact .refl m
  | cons a rest ih => exact (hf m a).trans (ih (f m a))

theorem SameLists.occurrences_eq (h : SameLists m m') (guid : Guid) :
    m'.occurrences guid = m.occurrences guid := by
  rw [occurrences, occurrences, h.queuesStore, h.proposalsStore]

theorem SameLists.shrinks (h : SameLists m m') : Shrinks m m' := fun guid =>
  (h.occurrences_eq guid).le

theorem sameLists_setState (m : LFGMgr) (guid : Guid) (state : LfgState) :
    SameLists m (m.setState guid state) := by
  unfold setState
  split <;> exact ⟨rfl, rfl⟩

theorem sameLists_restoreState (m : LFGMgr) (guid : Guid) : SameLists m (m.restoreState guid) := by
  unfold restoreState
  split <;> exact ⟨rfl, rfl⟩

/-- A change of one queue counts by the difference of its lists. -/
theorem occurrences_modifyQueue (m : LFGMgr) (queueId : Nat) (f : LFGQueue → LFGQueue)
    (guid : Guid) :
    (m.modifyQueue queueId f).occurrences guid + (m.queue queueId).listed.count guid =
      m.occurrences guid + (f (m.queue queueId)).listed.count guid := by
  have hsum := m.queuesStore.sumValues_insert queueId (f (m.queue queueId)) fun q =>
    q.listed.count guid
  have hold : ((m.queuesStore.find? queueId).map fun q => q.listed.count guid).getD 0 =
      (m.queue queueId).listed.count guid := by
    unfold queue
    cases m.queuesStore.find? queueId <;> rfl
  rw [hold] at hsum
  simp only [occurrences, modifyQueue]
  omega

theorem shrinks_modifyQueue {queueId : Nat} {f : LFGQueue → LFGQueue}
    (h : ∀ q guid, (f q).listed.count guid ≤ q.listed.count guid) :
    Shrinks m (m.modifyQueue queueId f) := fun guid => by
  have hcount := m.occurrences_modifyQueue queueId f guid
  have hle := h (m.queue queueId) guid
  omega

end LFGMgr

/-! ## Queues -/

namespace LFGQueue

theorem count_removeFromQueue_le (q : LFGQueue) (view : LfgView) (entry guid : Guid) :
    (q.removeFromQueue view entry).listed.count guid ≤ q.listed.count guid := by
  simp only [removeFromQueue, listed, removeFromCompatibles, removeFromCurrentQueue,
    removeFromNewQueue, List.count_append]
  exact Nat.add_le_add (List.filter_sublist.count_le guid) (List.filter_sublist.count_le guid)

theorem count_removeAll_le (view : LfgView) (entries : List Guid) (q : LFGQueue) (guid : Guid) :
    (entries.foldl (fun q entry => q.removeFromQueue view entry) q).listed.count guid ≤
      q.listed.count guid := by
  induction entries generalizing q with
  | nil => exact Nat.le_refl _
  | cons entry rest ih =>
    calc _ ≤ (q.removeFromQueue view entry).listed.count guid := ih _
      _ ≤ q.listed.count guid := q.count_removeFromQueue_le view entry guid

theorem count_addToQueue_le (q : LFGQueue) (entry guid : Guid) :
    (q.addToQueue entry).listed.count guid ≤ q.listed.count guid + [entry].count guid := by
  unfold addToQueue
  split
  · simp only [listed, addToNewQueue, List.count_append]
    omega
  · exact Nat.le_add_right ..

theorem count_addAll_le (entries : List Guid) (q : LFGQueue) (guid : Guid) :
    (entries.foldl addToQueue q).listed.count guid ≤
      q.listed.count guid + entries.count guid := by
  induction entries generalizing q with
  | nil => exact Nat.le_refl _
  | cons entry rest ih =>
    have hhead := q.count_addToQueue_le entry guid
    have htail := ih (q.addToQueue entry)
    simp only [List.foldl_cons, List.count_cons, List.count_nil] at hhead htail ⊢
    omega

end LFGQueue

namespace LFGMgr

/-! ## Leaving and failed proposals -/

variable {m : LFGMgr} {proposalId : Nat} {proposal stored : LfgProposal}

theorem shrinks_removeFromQueue (m : LFGMgr) (world : LfgWorld) (guid entry : Guid) :
    Shrinks m (m.removeFromQueue world guid entry) :=
  shrinks_modifyQueue fun q => q.count_removeFromQueue_le (m.view world) entry

theorem sameLists_notifyRemoval (proposalId : Nat) (toRemove : List Guid) (m : LFGMgr)
    (entry : Guid × LfgProposalPlayer) :
    SameLists m (notifyRemoval proposalId toRemove m entry) := by
  have hsent : SameLists m (m.sendLfgUpdateProposal entry.1 proposalId .failed) := ⟨rfl, rfl⟩
  simp only [notifyRemoval]
  split
  · have hplayer := hsent.trans (sameLists_restoreState _ entry.1)
    split
    · exact hplayer.trans (sameLists_restoreState _ _)
    · exact hplayer
  · have hplayer := hsent.trans (sameLists_setState _ entry.1 .queued)
    split
    · exact hplayer.trans (sameLists_setState _ _ _)
    · exact hplayer

theorem occurrences_eraseProposal (h : m.proposalsStore.find? proposalId = some proposal)
    (guid : Guid) :
    occurrences { m with proposalsStore := m.proposalsStore.erase proposalId } guid +
      proposal.queues.count guid = m.occurrences guid := by
  have hsum := OrderedMap.sumValues_eq_erase h fun proposal => proposal.queues.count guid
  simp only [occurrences]
  omega

/-- The entries of a failed proposal leave it before they wait again. -/
theorem shrinks_removeProposal (world : LfgWorld) (type : ProposalRemoval)
    (hstored : m.proposalsStore.find? proposalId = some stored)
    (hqueues : stored.queues = proposal.queues) :
    Shrinks m (m.removeProposal world proposalId proposal type) := by
  intro guid
  simp only [removeProposal]
  generalize closeAnswers type proposal.players = players
  have hsame := SameLists.foldl (sameLists_notifyRemoval proposalId (entriesToRemove players))
    players.entries m
  generalize players.entries.foldl (notifyRemoval proposalId (entriesToRemove players)) m = t
    at hsame ⊢
  generalize t.getQueueId (players.keys.headD 0) = queueId
  have hmodified := t.occurrences_modifyQueue queueId (fun q =>
    (proposal.queues.filter (· ∉ entriesToRemove players)).foldl LFGQueue.addToQueue
      ((entriesToRemove players).foldl (fun q entry => q.removeFromQueue (t.view world) entry) q))
    guid
  have hreadded := LFGQueue.count_addAll_le
    (proposal.queues.filter (· ∉ entriesToRemove players))
    ((entriesToRemove players).foldl (fun q entry => q.removeFromQueue (t.view world) entry)
      (t.queue queueId)) guid
  have hremoved := LFGQueue.count_removeAll_le (t.view world) (entriesToRemove players)
    (t.queue queueId) guid
  have hfilter : (proposal.queues.filter (· ∉ entriesToRemove players)).count guid ≤
      proposal.queues.count guid := List.filter_sublist.count_le guid
  generalize htoQueue : t.modifyQueue queueId _ = u at hmodified ⊢
  have hstored' : u.proposalsStore.find? proposalId = some stored := by
    rw [← htoQueue]
    exact (congrArg (·.find? proposalId) hsame.proposalsStore).trans hstored
  have herased := occurrences_eraseProposal hstored' guid
  have hstart := hsame.occurrences_eq guid
  rw [hqueues] at herased
  omega

/-- The answer completes the role check of a group. -/
def finishes (m : LFGMgr) (world : LfgWorld) (gguid guid : Guid) (roles : UInt8) : Bool :=
  (m.roleChecksStore.find? gguid).any fun roleCheck =>
    (answerRoleCheck world roleCheck guid roles).state = .finished

/-- Only an answer that completes a role check changes the lists: it queues the group. -/
theorem updateRoleCheck_cases (m : LFGMgr) (world : LfgWorld) (gguid guid : Guid) (roles : UInt8) :
    SameLists m (m.updateRoleCheck world gguid guid roles) ∨
      m.finishes world gguid guid roles ∧ ∃ t dungeons groles, SameLists m t ∧
        SameLists (addQueueData t world gguid dungeons groles)
          (m.updateRoleCheck world gguid guid roles) := by
  unfold updateRoleCheck
  split
  · exact Or.inl (.refl m)
  · next roleCheck hfind =>
      have hstored : m.roleChecksStore.find? gguid = some roleCheck := by
        split at hfind
        · cases hfind
        · exact hfind
      simp only
      split
      · exact Or.inl ⟨rfl, rfl⟩
      · next hfinished =>
          have hplayers := SameLists.foldl
            (f := fun m (entry : Guid × UInt8) =>
              (m.setState entry.1 .queued).setRoles entry.1 entry.2)
            (fun m entry => (sameLists_setState m entry.1 .queued).trans ⟨rfl, rfl⟩)
            (answerRoleCheck world roleCheck guid roles).roles.entries m
          exact Or.inr ⟨by simp [finishes, hstored, hfinished], _, _, _,
            hplayers.trans (sameLists_setState _ gguid .queued), ⟨rfl, rfl⟩⟩
      · have hplayers := SameLists.foldl (fun m pguid => sameLists_restoreState m pguid)
          (answerRoleCheck world roleCheck guid roles).roles.keys m
        have hgroup := hplayers.trans (sameLists_restoreState _ gguid)
        exact Or.inl (hgroup.trans ⟨rfl, rfl⟩)

theorem sameLists_abortRoleCheck (m : LFGMgr) (world : LfgWorld) (gguid : Guid) :
    SameLists m (m.updateRoleCheck world gguid 0 0) := by
  rcases m.updateRoleCheck_cases world gguid 0 0 with hsame | ⟨hfinishes, -⟩
  · exact hsame
  · cases hfind : m.roleChecksStore.find? gguid <;>
      simp [finishes, hfind, answerRoleCheck] at hfinishes

theorem shrinks_leaveLfg (m : LFGMgr) (world : LfgWorld) (guid : Guid) (disconnected : Bool) :
    Shrinks m (m.leaveLfg world guid disconnected) := by
  simp only [leaveLfg]
  generalize (if isGroupGuid guid = true then guid else m.getGroup guid) = gguid
  split
  · split
    · have hqueue := (m.shrinks_removeFromQueue world gguid gguid).trans
        (sameLists_setState _ gguid .none).shrinks
      have hplayers := SameLists.foldl (fun m guid => sameLists_setState m guid .none)
      exact hqueue.trans (hplayers _ _).shrinks
    · exact (m.shrinks_removeFromQueue world guid guid).trans
        (sameLists_setState _ guid .none).shrinks
  · split
    · exact (m.sameLists_abortRoleCheck world gguid).shrinks
    · exact .refl m
  · split
    · exact .refl m
    · next proposalId proposal hof =>
        have hmem := List.mem_of_find?_eq_some hof
        exact shrinks_removeProposal world .declined (OrderedMap.find?_eq_some_iff.mpr hmem) rfl
  · split
    · exact (sameLists_setState m guid .none).shrinks
    · exact .refl m
  · split
    · exact (sameLists_setState m guid .none).shrinks
    · exact .refl m
  · exact .refl m

/-! ## Group scripts and accepted proposals -/

theorem shrinks_onAddMember (m : LFGMgr) (world : LfgWorld) (gguid guid leader : Guid) :
    Shrinks m (m.onAddMember world gguid guid leader) := by
  simp only [onAddMember]
  split
  · exact SameLists.shrinks ⟨rfl, rfl⟩
  · have hplayer : Shrinks m
        (if m.getState guid = .queued then m.leaveLfg world guid false else m) :=
      .ite (m.shrinks_leaveLfg world guid false) (.refl m)
    refine (hplayer.trans (Shrinks.ite ?_ (.refl _))).trans (SameLists.shrinks ⟨rfl, rfl⟩)
    exact shrinks_leaveLfg _ world gguid false

theorem shrinks_onRemoveMember (m : LFGMgr) (world : LfgWorld) (gguid guid : Guid) (isLFG : Bool)
    (method : RemoveMethod) : Shrinks m (m.onRemoveMember world gguid guid isLFG method) := by
  unfold onRemoveMember
  split
  · exact .refl m
  · split
    · exact SameLists.shrinks ⟨rfl, rfl⟩
    · exact (m.shrinks_leaveLfg world guid false).trans (SameLists.shrinks ⟨rfl, rfl⟩)

theorem sameLists_removeGroupData (m : LFGMgr) (gguid : Guid) :
    SameLists m (m.removeGroupData gguid) := by
  simp only [removeGroupData]
  refine SameLists.trans (SameLists.foldl (fun t guid => ?_) (m.getPlayers gguid) m) ⟨rfl, rfl⟩
  have hgroup : SameLists t (t.setGroup guid 0) := ⟨rfl, rfl⟩
  split
  · exact hgroup.trans (sameLists_setState _ guid .none)
  · exact hgroup

theorem sameLists_setupGroupMember (m : LFGMgr) (guid gguid : Guid) :
    SameLists m (m.setupGroupMember guid gguid) := by
  have hdungeon : SameLists m
      (m.setSelectedDungeons guid (OrderedMap.ofKeys [m.getDungeon gguid])) := ⟨rfl, rfl⟩
  exact (hdungeon.trans (sameLists_setState _ guid _)).trans ⟨rfl, rfl⟩

theorem shrinks_onGroupEvent (world : LfgWorld) (m : LFGMgr) (event : GroupEvent) :
    Shrinks m (m.onGroupEvent world event) := by
  cases event with
  | addMember gguid guid leader => exact m.shrinks_onAddMember world gguid guid leader
  | removeMember gguid guid isLFG method =>
    exact m.shrinks_onRemoveMember world gguid guid isLFG method
  | disband gguid => exact (m.sameLists_removeGroupData gguid).shrinks
  | changeLeader gguid newLeader => exact SameLists.shrinks ⟨rfl, rfl⟩
  | inviteMember gguid leader =>
    simp only [onGroupEvent]
    split
    · exact m.shrinks_leaveLfg world leader false
    · exact .refl m
  | created gguid => exact (sameLists_setState m gguid .proposal).shrinks

theorem shrinks_makeNewGroup (m : LFGMgr) (world : LfgWorld) (proposal : LfgProposal)
    (formation : Formation) : Shrinks m (m.makeNewGroup world proposal formation) := by
  have hevents := Shrinks.foldl (shrinks_onGroupEvent world) formation.events m
  have hdungeon : ∀ t : LFGMgr, SameLists t (t.setDungeon formation.gguid proposal.dungeonId) :=
    fun _ => ⟨rfl, rfl⟩
  exact hevents.trans ((hdungeon _).trans (sameLists_setState _ formation.gguid .dungeon)).shrinks

theorem shrinks_eraseProposal (m : LFGMgr) (proposalId : Nat) :
    Shrinks m { m with proposalsStore := m.proposalsStore.erase proposalId } := fun _ =>
  Nat.add_le_add_left (m.proposalsStore.sumValues_erase_le proposalId _) _

/-- A proposal is stored again with other answers. -/
theorem shrinks_storeProposal (proposal : LfgProposal)
    (hstored : m.proposalsStore.find? proposalId = some stored)
    (hqueues : stored.queues = proposal.queues) :
    Shrinks m { m with proposalsStore := m.proposalsStore.insert proposalId proposal } := by
  intro guid
  have hsum := m.proposalsStore.sumValues_insert proposalId proposal fun proposal =>
    proposal.queues.count guid
  rw [hstored, Option.map_some, Option.getD_some, hqueues] at hsum
  simp only [occurrences]
  omega

theorem shrinks_acceptProposal (world : LfgWorld) (guid : Guid) (formation : Formation)
    (hstored : m.proposalsStore.find? proposalId = some stored)
    (hqueues : stored.queues = proposal.queues) :
    Shrinks m (m.acceptProposal world proposalId proposal guid formation) := by
  simp only [acceptProposal]
  have hsame : ∀ t pguid, SameLists t ((if proposal.state ≠ .success then
      t.sendLfgUpdateProposal pguid proposalId .success else t).setState pguid .dungeon) := by
    intro t pguid
    refine SameLists.trans ?_ (sameLists_setState _ pguid .dungeon)
    split
    · exact ⟨rfl, rfl⟩
    · exact .refl t
  have hplayers := SameLists.foldl hsame proposal.players.keys m
  have hstored' := (congrArg (·.find? proposalId) hplayers.proposalsStore).trans hstored
  have hanswers := shrinks_storeProposal { proposal with state := .success } hstored' hqueues
  refine (hplayers.shrinks.trans hanswers).trans (Shrinks.trans ?_ (shrinks_eraseProposal _ _))
  refine Shrinks.trans (shrinks_modifyQueue fun q => ?_) (shrinks_makeNewGroup _ world _ formation)
  exact LFGQueue.count_removeAll_le _ proposal.queues q

theorem shrinks_updateProposal (m : LFGMgr) (world : LfgWorld) (proposalId : Nat) (guid : Guid)
    (accept : Bool) (formation : Formation) :
    Shrinks m (m.updateProposal world proposalId guid accept formation) := by
  unfold updateProposal
  split
  · exact .refl m
  · next proposal hstored =>
      split
      · exact .refl m
      · generalize hanswer : answer proposal guid (if accept then .agree else .deny) = answered
        have hqueues : proposal.queues = answered.queues := by
          rw [← hanswer]
          rfl
        have hsent : ∀ t pguid,
            SameLists t (t.sendLfgUpdateProposal pguid proposalId answered.state) :=
          fun _ _ => ⟨rfl, rfl⟩
        simp only
        refine .ite (shrinks_removeProposal world .declined hstored hqueues) (.ite ?_ ?_)
        · exact shrinks_acceptProposal world guid formation hstored hqueues
        · exact (shrinks_storeProposal answered hstored hqueues).trans
            (SameLists.foldl hsent answered.players.keys _).shrinks

/-! ## Joining -/

variable {world : LfgWorld}

/-- Every guid stands at most once in the lists and the proposals together. -/
def Once (m : LFGMgr) : Prop := ∀ guid, m.occurrences guid ≤ 1

theorem Once.of_shrinks {m' : LFGMgr} (h : m.Once) (hshrinks : Shrinks m m') : m'.Once :=
  fun guid => (hshrinks guid).trans (h guid)

/-- An entry may be added where it is absent. -/
theorem Once.of_added {m' : LFGMgr} {entry : Guid} (h : m.Once) (habsent : m.Absent entry)
    (hadded : ∀ guid, m'.occurrences guid ≤ m.occurrences guid + [entry].count guid) : m'.Once := by
  intro guid
  have hle := hadded guid
  by_cases heq : guid = entry
  · subst heq
    rw [occurrences_eq_zero_iff.mpr habsent] at hle
    simpa using hle
  · have hcount : [entry].count guid = 0 := List.count_eq_zero.mpr (by simpa using heq)
    have hone := h guid
    omega

theorem occurrences_addQueueData_le (m : LFGMgr) (world : LfgWorld) (entry : Guid)
    (dungeons : LfgDungeonSet) (roles : LfgRolesMap) (guid : Guid) :
    (m.addQueueData world entry dungeons roles).occurrences guid ≤
      m.occurrences guid + [entry].count guid := by
  have hcount := m.occurrences_modifyQueue (m.getQueueId entry) (fun q =>
    q.addQueueData (m.view world) entry world.now dungeons roles) guid
  have hadded : ∀ q : LFGQueue,
      (q.addQueueData (m.view world) entry world.now dungeons roles).listed.count guid ≤
        q.listed.count guid + [entry].count guid := fun q =>
    LFGQueue.count_addToQueue_le _ entry guid
  have hle := hadded (m.queue (m.getQueueId entry))
  simp only [addQueueData]
  omega

theorem Once.updateRoleCheck {gguid guid : Guid} {roles : UInt8} (h : m.Once)
    (hsound : m.finishes world gguid guid roles → m.Absent gguid) :
    (m.updateRoleCheck world gguid guid roles).Once := by
  rcases m.updateRoleCheck_cases world gguid guid roles with
    hsame | ⟨hfinishes, t, dungeons, groles, hstart, hend⟩
  · exact h.of_shrinks hsame.shrinks
  · refine h.of_added (hsound hfinishes) fun other => ?_
    have hadded := t.occurrences_addQueueData_le world gguid dungeons groles other
    rwa [hstart.occurrences_eq other, ← hend.occurrences_eq other] at hadded

/-- The entry that a join queues at once. -/
def joins (m : LFGMgr) (world : LfgWorld) (request : JoinRequest) : Option Guid :=
  match m.checkJoin world request with
  | .error _ => none
  | .ok choice =>
    if choice.isRaid then none
    else
      match request.party with
      | none => some request.player.guid
      | some party =>
        let t := (m.dropQueued world request.gguid).beginRoleCheck world request party choice
          (m.isContinue request)
        if t.finishes world party.guid request.player.guid request.roles then some party.guid
        else none

theorem shrinks_dropQueued (m : LFGMgr) (world : LfgWorld) (gguid : Guid) :
    Shrinks m (m.dropQueued world gguid) :=
  .ite (m.shrinks_removeFromQueue world gguid gguid) (.refl m)

theorem sameLists_beginRoleCheck (m : LFGMgr) (world : LfgWorld) (request : JoinRequest)
    (party : JoinParty) (choice : JoinChoice) (isContinue : Bool) :
    SameLists m (m.beginRoleCheck world request party choice isContinue) := by
  simp only [beginRoleCheck]
  have hmembers := SameLists.foldl (f := fun m (member : Joiner) =>
      if isContinue then m.setState member.guid .rolecheck
      else (m.setState member.guid .rolecheck).setSelectedDungeons member.guid
        (if choice.rDungeonId ≠ 0 then OrderedMap.ofKeys [choice.rDungeonId] else choice.dungeons))
    (fun m member => by
      split
      · exact sameLists_setState m member.guid .rolecheck
      · exact (sameLists_setState m member.guid .rolecheck).trans ⟨rfl, rfl⟩)
    party.members (m.setState party.guid .rolecheck)
  exact ((sameLists_setState m party.guid .rolecheck).trans hmembers).trans ⟨rfl, rfl⟩

theorem SameLists.absent {m' : LFGMgr} {guid : Guid} (h : SameLists m m') (ha : m.Absent guid) :
    m'.Absent guid := by
  rw [Absent, h.queuesStore, h.proposalsStore]
  exact ha

theorem Once.queuePlayer {request : JoinRequest} (world : LfgWorld) (choice : JoinChoice)
    (isContinue : Bool) (h : m.Once) (habsent : m.Absent request.player.guid) :
    (m.queuePlayer world request choice isContinue).Once := by
  refine h.of_added habsent fun other => ?_
  have hadded := m.occurrences_addQueueData_le world request.player.guid choice.dungeons
    (OrderedMap.empty.insert request.player.guid request.roles) other
  have hsame : SameLists (m.addQueueData world request.player.guid choice.dungeons
      (OrderedMap.empty.insert request.player.guid request.roles))
      (m.queuePlayer world request choice isContinue) := by
    simp only [LFGMgr.queuePlayer]
    refine SameLists.trans ?_ (SameLists.trans (sameLists_setState _ _ .queued) ⟨rfl, rfl⟩)
    split
    · exact .refl _
    · exact ⟨rfl, rfl⟩
  rwa [← hsame.occurrences_eq other] at hadded

theorem Once.joinLfg {request : JoinRequest} (h : m.Once)
    (hsound : ∀ guid ∈ m.joins world request, (m.dropQueued world request.gguid).Absent guid) :
    (m.joinLfg world request).Once := by
  have hdropped := h.of_shrinks (m.shrinks_dropQueued world request.gguid)
  unfold LFGMgr.joinLfg
  split
  · exact h
  · simp only [joins] at hsound ⊢
    cases hcheck : m.checkJoin world request with
    | error result => exact hdropped
    | ok choice =>
      simp only [hcheck] at hsound ⊢
      by_cases hraid : choice.isRaid
      · simpa only [hraid, if_true] using hdropped
      · simp only [hraid, Bool.false_eq_true, if_false] at hsound ⊢
        cases hparty : request.party with
        | none =>
          simp only [hparty, Option.mem_some_iff, forall_eq'] at hsound
          exact hdropped.queuePlayer world choice (m.isContinue request) hsound
        | some party =>
          simp only [hparty] at hsound ⊢
          have hsame := (m.dropQueued world request.gguid).sameLists_beginRoleCheck world
            request party choice (m.isContinue request)
          refine (hdropped.of_shrinks hsame.shrinks).updateRoleCheck fun hfinishes => ?_
          simp only [hfinishes, if_true, Option.mem_some_iff, forall_eq'] at hsound
          exact hsame.absent hsound

/-! ## Searching -/

theorem shrinks_findGroups {queueId : Nat}
    (h : (m.matching queueId).SoundSearch (m.view world) world.rand) :
    Shrinks m (m.findGroups world queueId) := by
  intro guid
  have hsearch := Matching.occurrences_findGroups_le h guid
  unfold LFGMgr.findGroups
  generalize (m.matching queueId).findGroups (m.view world) world.rand = result at hsearch ⊢
  obtain ⟨found, s⟩ := result
  have hqueue := m.occurrences_modifyQueue queueId (fun _ => s.queue) guid
  simp only [Matching.occurrences, matching, occurrences, modifyQueue] at hsearch hqueue ⊢
  omega

/-- Every search of the queues starts without a complete combination of current entries. -/
def SoundSearches (world : LfgWorld) : List Nat → LFGMgr → Prop
  | [], _ => True
  | queueId :: rest, m =>
    (m.matching queueId).SoundSearch (m.view world) world.rand ∧
      SoundSearches world rest (m.findGroups world queueId)

theorem shrinks_searches {queueIds : List Nat} (h : SoundSearches world queueIds m) :
    Shrinks m (queueIds.foldl (fun m queueId => m.findGroups world queueId) m) := by
  induction queueIds generalizing m with
  | nil => exact .refl m
  | cons queueId rest ih => exact (shrinks_findGroups h.1).trans (ih h.2)

theorem sameLists_removeRoleCheck (world : LfgWorld) (m : LFGMgr) (entry : Guid × LfgRoleCheck) :
    SameLists m (m.removeRoleCheck world entry) := by
  unfold removeRoleCheck
  split
  · exact .refl m
  · have hplayers := SameLists.foldl (fun m guid => sameLists_restoreState m guid)
      entry.2.roles.keys m
    exact (hplayers.trans (sameLists_restoreState _ entry.1)).trans ⟨rfl, rfl⟩

theorem shrinks_removeObsolete (world : LfgWorld) (m : LFGMgr) (proposalId : Nat) :
    Shrinks m (m.removeObsolete world proposalId) := by
  unfold removeObsolete
  split
  · exact .refl m
  · next proposal hstored =>
      exact .ite (shrinks_removeProposal world .failed hstored rfl) (.refl m)

theorem shrinks_removeOverdue (m : LFGMgr) (world : LfgWorld) :
    Shrinks m (m.removeOverdue world) :=
  (SameLists.foldl (sameLists_removeRoleCheck world) _ m).shrinks.trans
    (Shrinks.foldl (shrinks_removeObsolete world) _ _)

theorem sameLists_notifyPlayer (proposalId : Nat) (proposal : LfgProposal) (m : LFGMgr)
    (guid : Guid) : SameLists m (m.notifyPlayer proposalId proposal guid) := by
  have hplayer := sameLists_setState m guid .proposal
  simp only [notifyPlayer]
  split
  · exact (hplayer.trans (sameLists_setState _ _ .proposal)).trans ⟨rfl, rfl⟩
  · exact hplayer.trans ⟨rfl, rfl⟩

theorem shrinks_notifyProposal (world : LfgWorld) (formation : Formation) (m : LFGMgr)
    (proposalId : Nat) : Shrinks m (m.notifyProposal world formation proposalId) := by
  unfold notifyProposal
  split
  · exact .refl m
  · next proposal _ =>
      have hplayers := SameLists.foldl (sameLists_notifyPlayer proposalId proposal)
        proposal.players.keys m
      exact hplayers.shrinks.trans (.ite (shrinks_updateProposal _ world _ _ _ formation) (.refl _))

theorem shrinks_update (formation : Formation)
    (h : SoundSearches world (m.removeOverdue world).queuesStore.keys (m.removeOverdue world)) :
    Shrinks m (m.update world formation) := by
  have hsearched := (m.shrinks_removeOverdue world).trans (shrinks_searches h)
  refine hsearched.trans (.ite (.ite ?_ (.refl _)) (.refl _))
  exact Shrinks.foldl (shrinks_notifyProposal world formation) _ _

/-! ## Runs -/

theorem Once.addProposal (h : m.Once) (hnodup : proposal.queues.Nodup)
    (habsent : ∀ guid ∈ proposal.queues, m.Absent guid) : (m.addProposal proposal).Once := by
  intro guid
  have hsum := m.proposalsStore.sumValues_insert ((m.lfgProposalId + 1) % 2 ^ 32) proposal
    fun proposal => proposal.queues.count guid
  have hcount := List.nodup_iff_count_le_one.mp hnodup guid
  have hone := h guid
  by_cases hmem : guid ∈ proposal.queues
  · have hzero := occurrences_eq_zero_iff.mpr (habsent guid hmem)
    simp only [occurrences, LFGMgr.addProposal] at hone hzero ⊢
    omega
  · have hzero : proposal.queues.count guid = 0 := List.count_eq_zero.mpr hmem
    simp only [occurrences, LFGMgr.addProposal] at hone ⊢
    omega

/-- The condition on a call: an entry that it queues or proposes is nowhere else, and its
searches start without a complete combination of current entries. -/
def Sound (m : LFGMgr) : LfgWorld × Action → Prop
  | (world, .join request) =>
    ∀ guid ∈ m.joins world request, (m.dropQueued world request.gguid).Absent guid
  | (world, .updateRoleCheck gguid guid roles) =>
    m.finishes world gguid guid roles → m.Absent gguid
  | (_, .addToQueue queueId guid) =>
    (m.queue queueId).queueDataStore.contains guid → m.Absent guid
  | (_, .addProposal proposal) =>
    proposal.queues.Nodup ∧ ∀ guid ∈ proposal.queues, m.Absent guid
  | (world, .findGroups queueId) => SoundSearches world [queueId] m
  | (world, .update _) =>
    SoundSearches world (m.removeOverdue world).queuesStore.keys (m.removeOverdue world)
  | _ => True

theorem Once.addToQueue {queueId : Nat} {entry : Guid} (h : m.Once)
    (hsound : (m.queue queueId).queueDataStore.contains entry → m.Absent entry) :
    (m.modifyQueue queueId fun q => q.addToQueue entry).Once := by
  by_cases hstored : (m.queue queueId).queueDataStore.contains entry
  · refine h.of_added (hsound hstored) fun guid => ?_
    have hcount := m.occurrences_modifyQueue queueId (fun q => q.addToQueue entry) guid
    have hadded := (m.queue queueId).count_addToQueue_le entry guid
    omega
  · refine h.of_shrinks fun guid => ?_
    have hcount := m.occurrences_modifyQueue queueId (fun q => q.addToQueue entry) guid
    simp only [LFGQueue.addToQueue, hstored, Bool.false_eq_true, if_false] at hcount ⊢
    omega

theorem Once.step {call : LfgWorld × Action} (h : m.Once) (hsound : m.Sound call) :
    (m.step call).Once := by
  obtain ⟨world, action⟩ := call
  cases action with
  | join request => exact h.joinLfg hsound
  | leave guid disconnected => exact h.of_shrinks (m.shrinks_leaveLfg world guid disconnected)
  | updateRoleCheck gguid guid roles => exact h.updateRoleCheck hsound
  | addToQueue queueId guid => exact h.addToQueue hsound
  | removeFromQueue queueId guid =>
    have hremoved : ∀ q : LFGQueue, ∀ other,
        (q.removeFromQueue (m.view world) guid).listed.count other ≤ q.listed.count other :=
      fun q => q.count_removeFromQueue_le (m.view world) guid
    exact h.of_shrinks (shrinks_modifyQueue hremoved)
  | findGroups queueId => exact h.of_shrinks (shrinks_findGroups hsound.1)
  | addProposal proposal => exact h.addProposal hsound.1 hsound.2
  | updateProposal proposalId guid accept formation =>
    exact h.of_shrinks (m.shrinks_updateProposal world proposalId guid accept formation)
  | removeProposal proposalId type =>
    cases hstored : m.proposalsStore.find? proposalId with
    | none => simpa only [LFGMgr.step, hstored] using h
    | some proposal =>
      simp only [LFGMgr.step, hstored]
      exact h.of_shrinks (shrinks_removeProposal world type hstored rfl)
  | update formation => exact h.of_shrinks (shrinks_update formation hsound)
  | group event => exact h.of_shrinks (shrinks_onGroupEvent world m event)
  | setupGroupMember guid gguid =>
    exact h.of_shrinks (m.sameLists_setupGroupMember guid gguid).shrinks
  | setState guid state => exact h.of_shrinks (sameLists_setState m guid state).shrinks
  | setTeam guid team => exact h.of_shrinks (SameLists.shrinks ⟨rfl, rfl⟩)

theorem once_empty : LFGMgr.empty.Once := fun _ => Nat.zero_le _

/-- In a run of sound calls every entry waits in one place in every state that is reached. -/
theorem exclusive_of_sound {calls before : List (LfgWorld × Action)}
    (h : Runs.Admissible LFGMgr.step LFGMgr.Sound LFGMgr.empty calls) (hbefore : before <+: calls) :
    (Runs.run LFGMgr.step LFGMgr.empty before).Exclusive :=
  exclusive_of_occurrences (h.invariant Once.step once_empty hbefore)

/-! ## Two runs -/

/-- A dungeon for one tank, one healer and three damage dealers. -/
def fivePlayers : LFGDungeonData := ⟨.dungeon, 0, 1, 1, 3⟩

def oneDungeon : LfgWorld :=
  ⟨100, fun _ => 0, fun id => if id = 6 then some fivePlayers else none, fun _ => .empty,
    fun _ _ => false, fun _ => []⟩

def freeJoiner (guid : Guid) : Joiner := ⟨guid, false, false, false⟩

def joinAlone (guid : Guid) (roles : UInt8) : LfgWorld × Action :=
  (oneDungeon, .join ⟨freeJoiner guid, none, roles, OrderedMap.ofKeys [6]⟩)

def partyGuid : Guid := 0x1F50000000000001

def joinParty : LfgWorld × Action :=
  (oneDungeon, .join ⟨freeJoiner 1, some ⟨partyGuid, false, 4, [1, 2, 3, 4].map freeJoiner⟩,
    playerRoleTank, OrderedMap.ofKeys [6]⟩)

def chooseRole (guid : Guid) (roles : UInt8) : LfgWorld × Action :=
  (oneDungeon, .updateRoleCheck partyGuid guid roles)

def updateAll : LfgWorld × Action := (oneDungeon, .update ⟨0, []⟩)

/-- A group of four and a player are proposed together, and the player declines. -/
def declinedCalls : List (LfgWorld × Action) :=
  [joinParty, chooseRole 2 playerRoleHealer, chooseRole 3 playerRoleDamage,
    chooseRole 4 playerRoleDamage, updateAll, joinAlone 5 playerRoleDamage, updateAll,
    (oneDungeon, .updateProposal 2 5 false ⟨0, []⟩)]

theorem sound_update_of_few (queueId : Nat) (formation : Formation)
    (hkeys : (m.removeOverdue world).queuesStore.keys = [queueId])
    (hnew : ((m.removeOverdue world).queue queueId).newToQueueStore.length ≤ 1)
    (hcurrent : ((m.removeOverdue world).queue queueId).currentQueueStore.length ≤ 1) :
    m.Sound (world, .update formation) := by
  rw [Sound, hkeys]
  exact ⟨Matching.soundSearch_of_few hnew hcurrent, trivial⟩

/-- No player is in two places after the refusal. -/
theorem exclusive_declined :
    (Runs.run LFGMgr.step LFGMgr.empty declinedCalls).Exclusive := by
  have hsound : Runs.Admissible LFGMgr.step LFGMgr.Sound LFGMgr.empty declinedCalls := ?_
  · exact exclusive_of_sound hsound (List.prefix_refl _)
  refine ⟨?_, ?_, ?_, ?_, ?_, ?_, ?_, trivial, trivial⟩
  · change ∀ guid ∈ joins _ _ _, Absent _ guid
    decide +kernel
  · change finishes _ _ _ _ _ → Absent _ _
    decide +kernel
  · change finishes _ _ _ _ _ → Absent _ _
    decide +kernel
  · change finishes _ _ _ _ _ → Absent _ _
    decide +kernel
  · exact sound_update_of_few 0 _ (by decide +kernel) (by decide +kernel)
      (by decide +kernel)
  · change ∀ guid ∈ joins _ _ _, Absent _ guid
    decide +kernel
  · exact sound_update_of_few 0 _ (by decide +kernel) (by decide +kernel)
      (by decide +kernel)

/-- Five players are proposed together, and one of them joins again before he answers. -/
def rejoinCalls : List (LfgWorld × Action) :=
  [joinAlone 1 playerRoleTank, joinAlone 2 playerRoleHealer, joinAlone 3 playerRoleDamage,
    joinAlone 4 playerRoleDamage, joinAlone 5 playerRoleDamage, updateAll,
    joinAlone 3 playerRoleDamage]

/-- The third player is queued again while his proposal is open. -/
theorem rejoin_not_exclusive :
    ¬ (Runs.run LFGMgr.step LFGMgr.empty rejoinCalls).Exclusive := by
  intro h
  have hboth : ∃ e ∈ (Runs.run LFGMgr.step LFGMgr.empty rejoinCalls).queuesStore.entries,
      ∃ e' ∈ (Runs.run LFGMgr.step LFGMgr.empty rejoinCalls).proposalsStore.entries,
        3 ∈ e'.2.queues ∧ 3 ∈ e.2.listed := by
    decide +kernel
  obtain ⟨e, he, e', he', hqueues, hlisted⟩ := hboth
  exact h.apart 3 e he e' he' hqueues hlisted

end LFGMgr

end Cataclysm.Lfg
