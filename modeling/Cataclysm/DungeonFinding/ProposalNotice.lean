import Cataclysm.DungeonFinding.Exclusivity
import Cataclysm.DungeonFinding.Proposals

/-!
# Who is told of a new proposal

`Update` searches all queues and then tells the players of new proposals about them. Its
loop starts at the newest proposal of the store and goes up from there. A search can make
several proposals; the earlier ones have smaller ids, and their players are not told.

## Implementation notes

The ids run modulo `2 ^ 32`, so "earlier" is a comparison of ids and not an order in time.
A proposal counts as created when the search stored it. `UpdateProposal` marks a proposal as
successful only to erase it in the same call; this keeps the last branch of the loop out of
every state that calls of the manager reach.
-/

namespace Cataclysm.Lfg
open Matching

/-! ## What a search adds -/

variable {proposal : LfgProposal}

theorem state_of_evaluate {view : LfgView} {rand : Nat → Nat} {dungeonsOf : Guid → LfgDungeonSet}
    {rolesOf : Guid → LfgRolesMap} {check : List Guid} {drawn : Nat}
    (h : (evaluate view rand dungeonsOf rolesOf check drawn).1 = .propose proposal) :
    proposal.state = .initiating := by
  simp only [evaluate] at h
  split at h
  · simp at h
  · repeat (split at h; · simp at h)
    rw [← Verdict.propose.inj h]

/-- A proposal that a search makes of some entries. -/
def Searched (view : LfgView) (dungeonsOf : Guid → LfgDungeonSet) (rolesOf : Guid → LfgRolesMap)
    (proposal : LfgProposal) : Prop :=
  proposal.state = .initiating ∧ ∃ check dungeon count, check ≠ [] ∧
    IsProposal view dungeonsOf rolesOf check dungeon count proposal

namespace Matching

/-- New proposals are made of the entries of the queue, and the newest one is stored. -/
structure Extends (view : LfgView) (s t : Matching) : Prop where
  data : KeepsData s t
  added : ∀ id proposal, t.proposals.find? id = some proposal →
    s.proposals.find? id = some proposal ∨
      Searched view s.queue.dungeonsOf s.queue.rolesOf proposal
  newest : t.lfgProposalId = s.lfgProposalId ∧ t.proposals = s.proposals ∨
    t.proposals.contains t.lfgProposalId = true

variable {view : LfgView} {rand : Nat → Nat}

theorem Extends.of_same {s t : Matching} (hdata : KeepsData s t)
    (hid : t.lfgProposalId = s.lfgProposalId) (hproposals : t.proposals = s.proposals) :
    Extends view s t :=
  ⟨hdata, fun _ _ h => Or.inl (hproposals ▸ h), Or.inl ⟨hid, hproposals⟩⟩

theorem Extends.refl (s : Matching) : Extends view s s := .of_same ⟨rfl, rfl⟩ rfl rfl

theorem Extends.trans {s t u : Matching} (h : Extends view s t) (h' : Extends view t u) :
    Extends view s u := by
  refine ⟨h.data.trans h'.data, ?_, ?_⟩
  · intro id proposal hfind
    rcases h'.added id proposal hfind with hstored | hmade
    · exact h.added id proposal hstored
    · rw [h.data.1, h.data.2] at hmade
      exact Or.inr hmade
  · rcases h'.newest with ⟨hid, hproposals⟩ | hstored
    · rw [hid, hproposals]
      exact h.newest
    · exact Or.inr hstored

section Search

theorem extends_addProposal (s : Matching)
    (hmade : Searched view s.queue.dungeonsOf s.queue.rolesOf proposal) :
    Extends view s (s.addProposal proposal) := by
  refine ⟨⟨rfl, rfl⟩, ?_, ?_⟩
  · intro id found hfind
    rw [addProposal, OrderedMap.find?_insert] at hfind
    split at hfind
    · exact Or.inr (Option.some.inj hfind ▸ hmade)
    · exact Or.inl hfind
  · refine Or.inr ?_
    rw [addProposal, OrderedMap.contains, OrderedMap.find?_insert_self]
    rfl

theorem extends_record (s : Matching) (check : List Guid) {verdict : Verdict}
    (h : ∀ proposal, verdict = .propose proposal →
      Searched view s.queue.dungeonsOf s.queue.rolesOf proposal) :
    Extends view s (record view s check verdict).2 := by
  by_cases hpropose : ∃ proposal, verdict = .propose proposal
  · obtain ⟨proposal, rfl⟩ := hpropose
    let unlisted : Matching := { s with
      queue := proposal.queues.foldl
        (fun q guid => (q.removeFromNewQueue guid).removeFromCurrentQueue guid) s.queue }
    have hdata : KeepsData s unlisted := keepsData_record view s check (.propose proposal)
    have hunlisted : Extends view s unlisted := .of_same hdata rfl rfl
    have hmade : Searched view unlisted.queue.dungeonsOf unlisted.queue.rolesOf proposal := by
      rw [hdata.1, hdata.2]
      exact h proposal rfl
    exact hunlisted.trans ((extends_addProposal unlisted hmade).trans (.of_same ⟨rfl, rfl⟩ rfl rfl))
  · obtain ⟨hquiet, -⟩ := quiet_record view s check fun proposal h => hpropose ⟨proposal, h⟩
    cases verdict with
    | propose proposal => exact absurd ⟨proposal, rfl⟩ hpropose
    | _ => exact .of_same hquiet.keepsData rfl rfl

theorem extends_checkOwn (front : Guid) (rest : List Guid) (s : Matching) :
    Extends view s (checkOwn view rand (front :: rest) s).2 := by
  rw [checkOwn]
  dsimp only
  have htouch := LFGQueue.SameEntries.foldl (fun q guid => q.sameEntries_touch view guid)
    (front :: rest) s.queue
  generalize (front :: rest).foldl (fun q guid => q.touch view guid) s.queue = queue at htouch ⊢
  have hread : Extends view s { s with
      queue
      drawn := (evaluate view rand queue.dungeonsOf queue.rolesOf (front :: rest) s.drawn).2 } :=
    .of_same ⟨htouch.dungeonsOf, htouch.rolesOf⟩ rfl rfl
  refine hread.trans (extends_record _ _ fun proposal hverdict => ?_)
  obtain ⟨dungeon, count, hproposal⟩ := isProposal_of_evaluate hverdict
  exact ⟨state_of_evaluate hverdict, _, dungeon, count, List.cons_ne_nil _ _, hproposal⟩

theorem extends_checkCompatibility (check : List Guid) (s : Matching) :
    Extends view s (checkCompatibility view rand check s).2 := by
  induction check generalizing s with
  | nil => exact .refl s
  | cons front rest ih =>
    rw [checkCompatibility]
    split
    · have hchild := ih s
      generalize checkCompatibility view rand rest s = result at hchild ⊢
      obtain ⟨child, t⟩ := result
      dsimp only
      split
      · exact hchild.trans (.of_same ⟨rfl, rfl⟩ rfl rfl)
      · exact hchild.trans (extends_checkOwn _ _ t)
    · exact extends_checkOwn _ _ s

theorem extends_compatibility (check : List Guid) (s : Matching) :
    Extends view s (compatibility view rand check s).2 := by
  have hjudged : Extends view s
      (if s.queue.getCompatibles (concatenateGuids check) = .pending then
        checkCompatibility view rand check s
      else (s.queue.getCompatibles (concatenateGuids check), s)).2 := by
    split
    · exact extends_checkCompatibility check s
    · exact .refl s
  rw [compatibility]
  dsimp only
  generalize (if s.queue.getCompatibles (concatenateGuids check) = .pending then
      checkCompatibility view rand check s
    else (s.queue.getCompatibles (concatenateGuids check), s)) = result at hjudged ⊢
  split
  · exact hjudged.trans (.of_same ⟨rfl, rfl⟩ rfl rfl)
  · exact hjudged

theorem extends_search (fuel : Nat) :
    (∀ check all s, Extends view s (findNewGroups view rand fuel check all s).2.2) ∧
      ∀ check all s, Extends view s (matchQueued view rand fuel check all s).2.2 := by
  induction fuel with
  | zero =>
    refine ⟨fun check all s => ?_, fun check all s => ?_⟩
    · rw [findNewGroups]
      exact .refl s
    · rw [matchQueued]
      exact .refl s
  | succ fuel ih =>
    obtain ⟨hfind, hmatch⟩ := ih
    refine ⟨fun check all s => ?_, fun check all s => ?_⟩
    · have hjudged : Extends view s (compatibility view rand check s).2 :=
        extends_compatibility check s
      rw [findNewGroups]
      dsimp only
      split
      · exact hjudged
      · exact hjudged.trans (hmatch check all _)
    · cases all with
      | nil =>
        rw [matchQueued]
        exact .refl s
      | cons next all =>
        have hnext := hfind (check ++ [next]) all s
        rw [matchQueued]
        generalize findNewGroups view rand fuel (check ++ [next]) all s = result at hnext ⊢
        split
        · exact hnext
        · exact hnext.trans (hmatch check _ _)

theorem extends_findGroup {s s' : Matching} {found : Bool}
    (h : s.findGroup view rand = some (found, s')) : Extends view s s' := by
  obtain ⟨front, waiting, all, compatibles, t, -, hsearch, hend⟩ := findGroup_cases h
  have hstart : Extends view s { s with queue := s.queue.removeFromNewQueue front } :=
    .of_same ⟨rfl, rfl⟩ rfl rfl
  have hfound := (@extends_search view rand (2 * s.queue.currentQueueStore.length + 1)).1 [front]
    s.queue.currentQueueStore { s with queue := s.queue.removeFromNewQueue front }
  rw [hsearch] at hfound
  rcases hend with ⟨-, rfl⟩ | ⟨-, rfl⟩
  · exact hstart.trans hfound
  · exact (hstart.trans hfound).trans (.of_same ⟨rfl, rfl⟩ rfl rfl)

theorem extends_findGroupsLoop (fuel proposals : Nat) (s : Matching) :
    Extends view s (findGroupsLoop view rand fuel proposals s).2 := by
  induction fuel generalizing s proposals with
  | zero => exact .refl s
  | succ fuel ih =>
    rw [findGroupsLoop]
    cases hround : s.findGroup view rand with
    | none => exact .refl s
    | some result => exact (extends_findGroup hround).trans (ih _ result.2)

end Search

end Matching

namespace LFGMgr

theorem queue_findGroups (m : LFGMgr) (world : LfgWorld) (queueId other : Nat) :
    ((m.findGroups world queueId).queue other).dungeonsOf = (m.queue other).dungeonsOf ∧
      ((m.findGroups world queueId).queue other).rolesOf = (m.queue other).rolesOf := by
  have hdata := (@extends_findGroupsLoop (m.view world) world.rand
    (m.matching queueId).queue.newToQueueStore.length 0 (m.matching queueId)).data
  have hstored : (m.findGroups world queueId).queue other =
      if other = queueId then ((m.matching queueId).findGroups (m.view world) world.rand).2.queue
      else m.queue other := by
    rw [queue, findGroups, OrderedMap.find?_insert]
    split
    · rfl
    · rfl
  rw [hstored]
  split
  · next heq =>
    rw [heq]
    exact hdata
  · exact ⟨rfl, rfl⟩

/-- The proposals of the manager as its searches see them. -/
theorem extends_findAllGroups (world : LfgWorld) (queueIds : List Nat) (m : LFGMgr) :
    let found := queueIds.foldl (fun m queueId => m.findGroups world queueId) m
    (∀ id proposal, found.proposalsStore.find? id = some proposal →
      m.proposalsStore.find? id = some proposal ∨
        ∃ queueId, Searched (m.view world) (m.queue queueId).dungeonsOf
          (m.queue queueId).rolesOf proposal) ∧
      (found.lfgProposalId = m.lfgProposalId ∧ found.proposalsStore = m.proposalsStore ∨
        found.proposalsStore.contains found.lfgProposalId = true) ∧
      found.sent = m.sent := by
  induction queueIds generalizing m with
  | nil => exact ⟨fun _ _ h => Or.inl h, Or.inl ⟨rfl, rfl⟩, rfl⟩
  | cons queueId rest ih =>
    obtain ⟨-, hadded, hnewest⟩ := @extends_findGroupsLoop (m.view world) world.rand
      (m.matching queueId).queue.newToQueueStore.length 0 (m.matching queueId)
    obtain ⟨hadded', hnewest', hsent'⟩ := ih (m.findGroups world queueId)
    refine ⟨?_, ?_, hsent'⟩
    · intro id proposal hfind
      rcases hadded' id proposal hfind with hstored | ⟨other, hmade⟩
      · exact (hadded id proposal hstored).imp_right fun hmade => ⟨queueId, hmade⟩
      · obtain ⟨hdungeons, hroles⟩ := m.queue_findGroups world queueId other
        rw [hdungeons, hroles] at hmade
        exact Or.inr ⟨other, hmade⟩
    · rcases hnewest' with ⟨hid, hproposals⟩ | hstored
      · rw [List.foldl_cons, hid, hproposals]
        exact hnewest
      · exact Or.inr hstored

/-! ## Proposals that succeeded -/

variable {m m' : LFGMgr}

/-- No proposal is stored as successful. -/
def NoneSuccessful (m : LFGMgr) : Prop :=
  ∀ id proposal, m.proposalsStore.find? id = some proposal → proposal.state ≠ .success

/-- A proposal after some answers. -/
def Answered : LfgProposal → LfgProposal → Prop :=
  Relation.ReflTransGen fun before proposal => ∃ guid accept, proposal = answer before guid accept

theorem Answered.state {before proposal : LfgProposal} (h : Answered before proposal) :
    proposal.state = before.state := by
  induction h with
  | refl => rfl
  | tail _ hstep ih =>
    obtain ⟨guid, accept, rfl⟩ := hstep
    exact ih

/-- The proposals that are left are as they were, but for answers. -/
def KeepsProposals (m m' : LFGMgr) : Prop :=
  ∀ id proposal, m'.proposalsStore.find? id = some proposal →
    ∃ before, m.proposalsStore.find? id = some before ∧ Answered before proposal

theorem KeepsProposals.of_eq (h : m'.proposalsStore = m.proposalsStore) :
    KeepsProposals m m' := fun _ proposal hfind => ⟨proposal, h ▸ hfind, .refl⟩

theorem SameLists.keepsProposals (h : SameLists m m') : KeepsProposals m m' :=
  .of_eq h.proposalsStore

theorem KeepsProposals.refl (m : LFGMgr) : KeepsProposals m m := .of_eq rfl

theorem KeepsProposals.trans {m'' : LFGMgr} (h : KeepsProposals m m') (h' : KeepsProposals m' m'') :
    KeepsProposals m m'' := by
  intro id proposal hfind
  obtain ⟨between, hbetween, hanswered'⟩ := h' id proposal hfind
  obtain ⟨before, hbefore, hanswered⟩ := h id between hbetween
  exact ⟨before, hbefore, hanswered.trans hanswered'⟩

theorem KeepsProposals.ite {a b : LFGMgr} {c : Prop} [Decidable c] (ha : KeepsProposals m a)
    (hb : KeepsProposals m b) : KeepsProposals m (if c then a else b) := by
  split
  · exact ha
  · exact hb

theorem KeepsProposals.foldl {α : Type*} {f : LFGMgr → α → LFGMgr}
    (hf : ∀ m a, KeepsProposals m (f m a)) (l : List α) (m : LFGMgr) :
    KeepsProposals m (l.foldl f m) := by
  induction l generalizing m with
  | nil => exact .refl m
  | cons a rest ih => exact (hf m a).trans (ih (f m a))

theorem NoneSuccessful.of_keeps (h : m.NoneSuccessful) (hkeeps : KeepsProposals m m') :
    m'.NoneSuccessful := by
  intro id proposal hfind
  obtain ⟨before, hbefore, hanswered⟩ := hkeeps id proposal hfind
  exact hanswered.state ▸ h id before hbefore

theorem keepsProposals_erase (m : LFGMgr) (proposalId : Nat) :
    KeepsProposals m { m with proposalsStore := m.proposalsStore.erase proposalId } := by
  intro id proposal hfind
  have hstored := (OrderedMap.find?_erase m.proposalsStore proposalId id).symm.trans hfind
  split at hstored
  · cases hstored
  · exact ⟨proposal, hstored, .refl⟩

theorem keepsProposals_removeProposal (m : LFGMgr) (world : LfgWorld) (proposalId : Nat)
    (proposal : LfgProposal) (type : ProposalRemoval) :
    KeepsProposals m (m.removeProposal world proposalId proposal type) := by
  have hnotified := SameLists.foldl (sameLists_notifyRemoval proposalId
    (entriesToRemove (closeAnswers type proposal.players)))
    (closeAnswers type proposal.players).entries m
  exact (hnotified.keepsProposals.trans (.of_eq rfl)).trans (keepsProposals_erase _ proposalId)

theorem keepsProposals_updateRoleCheck (m : LFGMgr) (world : LfgWorld) (gguid guid : Guid)
    (roles : UInt8) : KeepsProposals m (m.updateRoleCheck world gguid guid roles) := by
  rcases m.updateRoleCheck_cases world gguid guid roles with
    hsame | ⟨-, t, dungeons, groles, hstart, hend⟩
  · exact hsame.keepsProposals
  · exact (hstart.keepsProposals.trans (.of_eq rfl)).trans hend.keepsProposals

theorem keepsProposals_leaveLfg (m : LFGMgr) (world : LfgWorld) (guid : Guid)
    (disconnected : Bool) : KeepsProposals m (m.leaveLfg world guid disconnected) := by
  have hremoved : ∀ entry, KeepsProposals m ((m.removeFromQueue world entry entry).setState entry
      .none) := fun entry =>
    (KeepsProposals.of_eq rfl).trans (sameLists_setState _ entry .none).keepsProposals
  rw [leaveLfg]
  generalize (if isGroupGuid guid = true then guid else m.getGroup guid) = gguid
  dsimp only
  split
  · split
    · exact (hremoved gguid).trans
        (SameLists.foldl (fun m guid => sameLists_setState m guid .none) _ _).keepsProposals
    · exact hremoved guid
  · exact .ite (m.keepsProposals_updateRoleCheck world gguid 0 0) (.refl m)
  · split
    · exact .refl m
    · exact m.keepsProposals_removeProposal world _ _ .declined
  · exact .ite (sameLists_setState m guid .none).keepsProposals (.refl m)
  · exact .ite (sameLists_setState m guid .none).keepsProposals (.refl m)
  · exact .refl m

theorem keepsProposals_onGroupEvent (world : LfgWorld) (m : LFGMgr) (event : GroupEvent) :
    KeepsProposals m (m.onGroupEvent world event) := by
  cases event with
  | addMember gguid guid leader =>
    rw [onGroupEvent, onAddMember]
    dsimp only
    refine KeepsProposals.trans ?_ (.of_eq rfl)
    refine .ite (.of_eq rfl) ?_
    have hplayer : KeepsProposals m
        (if m.getState guid = .queued then m.leaveLfg world guid false else m) :=
      .ite (m.keepsProposals_leaveLfg world guid false) (.refl m)
    exact .ite (hplayer.trans (keepsProposals_leaveLfg _ world gguid false)) hplayer
  | removeMember gguid guid isLFG method =>
    rw [onGroupEvent, onRemoveMember]
    refine .ite (.refl m) (.ite (.of_eq rfl) ?_)
    exact (m.keepsProposals_leaveLfg world guid false).trans (.of_eq rfl)
  | disband gguid => exact (m.sameLists_removeGroupData gguid).keepsProposals
  | changeLeader gguid newLeader => exact .of_eq rfl
  | inviteMember gguid leader =>
    exact .ite (m.keepsProposals_leaveLfg world leader false) (.refl m)
  | created gguid => exact (sameLists_setState m gguid .proposal).keepsProposals

theorem keepsProposals_makeNewGroup (m : LFGMgr) (world : LfgWorld) (proposal : LfgProposal)
    (formation : Formation) : KeepsProposals m (m.makeNewGroup world proposal formation) := by
  have hevents := KeepsProposals.foldl (keepsProposals_onGroupEvent world) formation.events m
  have hdungeon : ∀ t : LFGMgr,
      KeepsProposals t (t.setDungeon formation.gguid proposal.dungeonId) := fun _ => .of_eq rfl
  exact hevents.trans
    ((hdungeon _).trans (sameLists_setState _ formation.gguid .dungeon).keepsProposals)

/-- The proposal that succeeds is erased at the end of the call. -/
theorem keepsProposals_acceptProposal (m : LFGMgr) (world : LfgWorld) (proposalId : Nat)
    (proposal : LfgProposal) (guid : Guid) (formation : Formation) :
    KeepsProposals m (m.acceptProposal world proposalId proposal guid formation) := by
  have hplayer : ∀ t pguid, SameLists t ((if proposal.state ≠ .success then
      t.sendLfgUpdateProposal pguid proposalId .success else t).setState pguid .dungeon) := by
    intro t pguid
    refine SameLists.trans ?_ (sameLists_setState _ pguid .dungeon)
    split
    · exact ⟨rfl, rfl⟩
    · exact .refl t
  have hplayers := SameLists.foldl hplayer proposal.players.keys m
  rw [acceptProposal]
  dsimp only
  generalize proposal.players.keys.foldl _ m = t at hplayers ⊢
  intro id found hfind
  rw [OrderedMap.find?_erase] at hfind
  split at hfind
  · cases hfind
  next hne =>
  obtain ⟨before, hbefore, hanswered⟩ :=
    keepsProposals_makeNewGroup _ world _ formation id found hfind
  have hstored := (OrderedMap.find?_insert t.proposalsStore proposalId id _).symm.trans hbefore
  rw [if_neg hne, hplayers.proposalsStore] at hstored
  exact ⟨before, hstored, hanswered⟩

theorem keepsProposals_updateProposal (m : LFGMgr) (world : LfgWorld) (proposalId : Nat)
    (guid : Guid) (accept : Bool) (formation : Formation) :
    KeepsProposals m (m.updateProposal world proposalId guid accept formation) := by
  rw [updateProposal]
  split
  · exact .refl m
  next proposal hstored =>
  dsimp only
  refine .ite (.refl m) (.ite (m.keepsProposals_removeProposal world _ _ .declined) (.ite ?_ ?_))
  · exact m.keepsProposals_acceptProposal world _ _ guid formation
  · generalize hanswer : answer proposal guid (if accept then .agree else .deny) = answered
    have hanswered : Answered proposal answered := .single ⟨guid, _, hanswer.symm⟩
    have hsent : ∀ t pguid,
        SameLists t (t.sendLfgUpdateProposal pguid proposalId answered.state) :=
      fun _ _ => ⟨rfl, rfl⟩
    refine KeepsProposals.trans ?_ (SameLists.foldl hsent answered.players.keys _).keepsProposals
    intro id found hfind
    have hstore :=
      (OrderedMap.find?_insert m.proposalsStore proposalId id answered).symm.trans hfind
    split at hstore
    · next heq =>
      subst heq
      exact ⟨proposal, hstored, Option.some.inj hstore ▸ hanswered⟩
    · exact ⟨found, hstore, .refl⟩

theorem keepsProposals_queuePlayer (m : LFGMgr) (world : LfgWorld) (request : JoinRequest)
    (choice : JoinChoice) (isContinue : Bool) :
    KeepsProposals m (m.queuePlayer world request choice isContinue) := by
  have hadded : ∀ t : LFGMgr, KeepsProposals t (t.addQueueData world request.player.guid
      choice.dungeons (OrderedMap.empty.insert request.player.guid request.roles)) :=
    fun _ => .of_eq rfl
  have hselected : ∀ t : LFGMgr, KeepsProposals t (if isContinue = true then t
      else t.setSelectedDungeons request.player.guid
        (if choice.rDungeonId ≠ 0 then OrderedMap.ofKeys [choice.rDungeonId]
          else choice.dungeons)) := fun t => .ite (.refl t) (.of_eq rfl)
  have hqueued : ∀ t : LFGMgr, KeepsProposals t ((t.setState request.player.guid .queued).setRoles
      request.player.guid request.roles) := fun t =>
    (sameLists_setState t request.player.guid .queued).keepsProposals.trans (.of_eq rfl)
  exact ((hadded m).trans (hselected _)).trans (hqueued _)

theorem keepsProposals_joinLfg (m : LFGMgr) (world : LfgWorld) (request : JoinRequest) :
    KeepsProposals m (m.joinLfg world request) := by
  have hdropped : KeepsProposals m (m.dropQueued world request.gguid) :=
    .ite (.of_eq rfl) (.refl m)
  rw [joinLfg]
  dsimp only
  refine .ite (.refl m) ?_
  split
  · exact hdropped
  next choice _ =>
  refine .ite hdropped ?_
  split
  · exact hdropped.trans (keepsProposals_queuePlayer _ world request choice _)
  · next party _ =>
    have hbegun := sameLists_beginRoleCheck (m.dropQueued world request.gguid) world request party
      choice (m.isContinue request)
    exact (hdropped.trans hbegun.keepsProposals).trans
      (keepsProposals_updateRoleCheck _ world _ _ _)

theorem keepsProposals_removeOverdue (m : LFGMgr) (world : LfgWorld) :
    KeepsProposals m (m.removeOverdue world) := by
  have hchecks := SameLists.foldl (sameLists_removeRoleCheck world) m.roleChecksStore.entries m
  refine hchecks.keepsProposals.trans (KeepsProposals.foldl (fun t proposalId => ?_) _ _)
  rw [removeObsolete]
  split
  · exact .refl t
  · exact .ite (t.keepsProposals_removeProposal world _ _ .failed) (.refl t)

theorem keepsProposals_notifyProposal (world : LfgWorld) (formation : Formation) (m : LFGMgr)
    (proposalId : Nat) : KeepsProposals m (m.notifyProposal world formation proposalId) := by
  rw [notifyProposal]
  split
  · exact .refl m
  next proposal _ =>
  have hplayers := SameLists.foldl (sameLists_notifyPlayer proposalId proposal)
    proposal.players.keys m
  exact hplayers.keepsProposals.trans
    (.ite (keepsProposals_updateProposal _ world _ _ true formation) (.refl _))

theorem NoneSuccessful.searched (world : LfgWorld) (queueIds : List Nat) (h : m.NoneSuccessful) :
    (queueIds.foldl (fun m queueId => m.findGroups world queueId) m).NoneSuccessful := by
  intro id proposal hfind
  rcases (extends_findAllGroups world queueIds m).1 id proposal hfind with hstored | ⟨-, hstate, -⟩
  · exact h id proposal hstored
  · rw [hstate]
    nofun

/-- The proposals that a call makes. -/
def Made (m : LFGMgr) : LfgWorld × Action → LfgProposal → Prop
  | (world, .findGroups queueId), proposal =>
    Searched (m.view world) (m.queue queueId).dungeonsOf (m.queue queueId).rolesOf proposal
  | (world, .update _), proposal =>
    ∃ queueId, Searched ((m.removeOverdue world).view world)
      ((m.removeOverdue world).queue queueId).dungeonsOf
      ((m.removeOverdue world).queue queueId).rolesOf proposal
  | (_, .addProposal added), proposal => proposal = added
  | _, _ => False

/-- What is stored after a call was stored before it or was made by it, but for answers. -/
theorem stored_step (m : LFGMgr) (call : LfgWorld × Action) {id : Nat}
    (hfind : (m.step call).proposalsStore.find? id = some proposal) :
    ∃ before, (m.proposalsStore.find? id = some before ∨ m.Made call before) ∧
      Answered before proposal := by
  obtain ⟨world, action⟩ := call
  have hkept : KeepsProposals m (m.step (world, action)) →
      ∃ before, (m.proposalsStore.find? id = some before ∨ m.Made (world, action) before) ∧
        Answered before proposal := by
    intro hkeeps
    obtain ⟨before, hbefore, hanswered⟩ := hkeeps id proposal hfind
    exact ⟨before, Or.inl hbefore, hanswered⟩
  cases action with
  | join request => exact hkept (m.keepsProposals_joinLfg world request)
  | leave guid disconnected => exact hkept (m.keepsProposals_leaveLfg world guid disconnected)
  | updateRoleCheck gguid guid roles =>
    exact hkept (m.keepsProposals_updateRoleCheck world gguid guid roles)
  | addToQueue queueId guid => exact hkept (.of_eq rfl)
  | removeFromQueue queueId guid => exact hkept (.of_eq rfl)
  | findGroups queueId =>
    obtain ⟨-, hadded, -⟩ := @extends_findGroupsLoop (m.view world) world.rand
      (m.matching queueId).queue.newToQueueStore.length 0 (m.matching queueId)
    exact ⟨proposal, hadded id proposal hfind, .refl⟩
  | addProposal added =>
    have hstored := (OrderedMap.find?_insert m.proposalsStore _ id added).symm.trans hfind
    split at hstored
    · exact ⟨proposal, Or.inr (Option.some.inj hstored).symm, .refl⟩
    · exact ⟨proposal, Or.inl hstored, .refl⟩
  | updateProposal proposalId guid accept formation =>
    exact hkept (m.keepsProposals_updateProposal world proposalId guid accept formation)
  | removeProposal proposalId type =>
    refine hkept ?_
    rw [LFGMgr.step]
    split
    · exact .refl m
    · exact m.keepsProposals_removeProposal world _ _ type
  | update formation =>
    have htold : KeepsProposals ((m.removeOverdue world).findAllGroups world)
        (m.update world formation) :=
      .ite (.ite (KeepsProposals.foldl (keepsProposals_notifyProposal world formation) _ _)
        (.refl _)) (.refl _)
    obtain ⟨before, hbefore, hanswered⟩ := htold id proposal hfind
    rcases (extends_findAllGroups world (m.removeOverdue world).queuesStore.keys
      (m.removeOverdue world)).1 id before hbefore with hstored | hmade
    · obtain ⟨earlier, hearlier, hanswered'⟩ :=
        m.keepsProposals_removeOverdue world id before hstored
      exact ⟨earlier, Or.inl hearlier, hanswered'.trans hanswered⟩
    · exact ⟨before, Or.inr hmade, hanswered⟩
  | group event => exact hkept (m.keepsProposals_onGroupEvent world event)
  | setupGroupMember guid gguid =>
    exact hkept (m.sameLists_setupGroupMember guid gguid).keepsProposals
  | setState guid state => exact hkept (sameLists_setState m guid state).keepsProposals
  | setTeam guid team => exact hkept (.of_eq rfl)

/-- A proposal from outside a search waits for answers. -/
def Fresh : LfgWorld × Action → Prop
  | (_, .addProposal proposal) => proposal.state = .initiating
  | _ => True

/-- Every proposal that a call makes waits for answers. -/
theorem Made.state {call : LfgWorld × Action} (h : m.Made call proposal) (hfresh : Fresh call) :
    proposal.state = .initiating := by
  obtain ⟨world, action⟩ := call
  cases action with
  | findGroups queueId => exact h.1
  | update formation => exact h.choose_spec.1
  | addProposal added =>
    rw [show proposal = added from h]
    exact hfresh
  | _ => exact h.elim

theorem NoneSuccessful.step {call : LfgWorld × Action} (h : m.NoneSuccessful)
    (hfresh : Fresh call) : (m.step call).NoneSuccessful := by
  intro id proposal hfind
  obtain ⟨before, hbefore, hanswered⟩ := m.stored_step call hfind
  rw [hanswered.state]
  rcases hbefore with hstored | hmade
  · exact h id before hstored
  · rw [hmade.state hfresh]
    nofun

theorem noneSuccessful_of_run {calls : List (LfgWorld × Action)}
    (h : Runs.Admissible LFGMgr.step (fun _ call => Fresh call) LFGMgr.empty calls) :
    (Runs.run LFGMgr.step LFGMgr.empty calls).NoneSuccessful :=
  h.invariant NoneSuccessful.step (fun _ _ hfind => nomatch hfind) (List.prefix_refl calls)

/-! ## Notices -/

theorem state_setPlayerState (data : LfgPlayerData) (state : LfgState) :
    (data.setState state).state = state := by
  cases state <;> rfl

theorem state_setGroupState (data : LfgGroupData) (state : LfgState) :
    (data.setState state).state = state := by
  cases state <;> rfl

theorem getState_setState (m : LFGMgr) (guid other : Guid) (state : LfgState) :
    (m.setState guid state).getState other = if other = guid then state else m.getState other := by
  rw [setState, getState, getState]
  by_cases hguid : isGroupGuid guid = true
  · rw [if_pos hguid, modifyGroup]
    by_cases heq : other = guid
    · subst heq
      rw [if_pos rfl, if_pos hguid]
      dsimp only
      rw [Function.update_self, state_setGroupState]
    · rw [if_neg heq]
      dsimp only
      rw [Function.update_of_ne heq]
  · rw [if_neg hguid, modifyPlayer]
    by_cases heq : other = guid
    · subst heq
      rw [if_pos rfl, if_neg hguid]
      dsimp only
      rw [Function.update_self, state_setPlayerState]
    · rw [if_neg heq]
      dsimp only
      rw [Function.update_of_ne heq]

theorem sent_setState (m : LFGMgr) (guid : Guid) (state : LfgState) :
    (m.setState guid state).sent = m.sent := by
  rw [setState]
  split <;> rfl

theorem sent_restoreState (m : LFGMgr) (guid : Guid) : (m.restoreState guid).sent = m.sent := by
  rw [restoreState]
  split <;> rfl

/-- A player who is told is in the state of a proposal, as is everybody told before. -/
theorem notifyPlayer_spec (proposalId : Nat) (proposal : LfgProposal) (m : LFGMgr) (guid : Guid) :
    (m.notifyPlayer proposalId proposal guid).sent =
        m.sent ++ [⟨guid, proposalId, proposal.state⟩] ∧
      ∀ other, m.getState other = .proposal ∨ other = guid →
        (m.notifyPlayer proposalId proposal guid).getState other = .proposal := by
  rw [notifyPlayer]
  constructor
  · rw [sendLfgUpdateProposal]
    dsimp only
    split
    · rw [sent_setState, sent_setState]
    · rw [sent_setState]
  · intro other hother
    have hplayer : (m.setState guid .proposal).getState other = .proposal := by
      rw [getState_setState]
      split
      · rfl
      · next hne => exact hother.resolve_right hne
    rw [sendLfgUpdateProposal]
    generalize m.setState guid .proposal = t at hplayer ⊢
    split
    · calc (t.setState (t.getGroup guid) .proposal).getState other
          = if other = t.getGroup guid then .proposal else t.getState other :=
            getState_setState t _ other .proposal
        _ = .proposal := by rw [hplayer, ite_self]
    · exact hplayer

theorem notifyPlayers_spec (proposalId : Nat) (proposal : LfgProposal) (guids : List Guid)
    (m : LFGMgr) :
    (guids.foldl (notifyPlayer proposalId proposal) m).sent =
        m.sent ++ guids.map (fun guid => ⟨guid, proposalId, proposal.state⟩) ∧
      ∀ other, m.getState other = .proposal ∨ other ∈ guids →
        (guids.foldl (notifyPlayer proposalId proposal) m).getState other = .proposal := by
  induction guids generalizing m with
  | nil => exact ⟨(List.append_nil _).symm, fun _ h => h.resolve_right List.not_mem_nil⟩
  | cons guid rest ih =>
    obtain ⟨hsent, hstate⟩ := notifyPlayer_spec proposalId proposal m guid
    obtain ⟨hrest, hstates⟩ := ih (m.notifyPlayer proposalId proposal guid)
    refine ⟨?_, fun other hother => hstates other ?_⟩
    · rw [List.foldl_cons, hrest, hsent, List.append_assoc]
      rfl
    · rcases hother with hbefore | hmem
      · exact Or.inl (hstate other (Or.inl hbefore))
      · rcases List.mem_cons.mp hmem with rfl | hrest
        · exact Or.inl (hstate other (Or.inr rfl))
        · exact Or.inr hrest

/-- What the players of a proposal are told. -/
def notices (m : LFGMgr) (proposalId : Nat) : List ProposalUpdate :=
  match m.proposalsStore.find? proposalId with
  | none => []
  | some proposal =>
    proposal.players.keys.map fun guid => ⟨guid, proposalId, proposal.state⟩

theorem notifyProposal_spec (world : LfgWorld) (formation : Formation) (proposalId : Nat)
    (h : m.NoneSuccessful) :
    SameLists m (m.notifyProposal world formation proposalId) ∧
      (m.notifyProposal world formation proposalId).sent = m.sent ++ m.notices proposalId ∧
      ∀ other, m.getState other = .proposal ∨ (∃ proposal,
          m.proposalsStore.find? proposalId = some proposal ∧ other ∈ proposal.players.keys) →
        (m.notifyProposal world formation proposalId).getState other = .proposal := by
  cases hfind : m.proposalsStore.find? proposalId with
  | none =>
    rw [notifyProposal, notices, hfind]
    refine ⟨.refl m, (List.append_nil _).symm, ?_⟩
    rintro other (hbefore | ⟨proposal, hnone, -⟩)
    · exact hbefore
    · cases hnone
  | some proposal =>
    rw [notifyProposal, notices, hfind]
    dsimp only
    rw [if_neg (h proposalId proposal hfind)]
    obtain ⟨hsent, hstates⟩ := notifyPlayers_spec proposalId proposal proposal.players.keys m
    refine ⟨SameLists.foldl (sameLists_notifyPlayer proposalId proposal) _ m, hsent, ?_⟩
    rintro other (hbefore | ⟨found, hfound, hmem⟩)
    · exact hstates other (Or.inl hbefore)
    · obtain rfl := Option.some.inj hfound
      exact hstates other (Or.inr hmem)

theorem notifyAll_spec (world : LfgWorld) (formation : Formation) (ids : List Nat)
    (h : m.NoneSuccessful) :
    (ids.foldl (notifyProposal world formation) m).sent = m.sent ++ ids.flatMap m.notices ∧
      ∀ other, m.getState other = .proposal ∨ (∃ id ∈ ids, ∃ proposal,
          m.proposalsStore.find? id = some proposal ∧ other ∈ proposal.players.keys) →
        (ids.foldl (notifyProposal world formation) m).getState other = .proposal := by
  induction ids generalizing m with
  | nil =>
    refine ⟨(List.append_nil _).symm, ?_⟩
    rintro other (hbefore | ⟨id, hmem, -⟩)
    · exact hbefore
    · cases hmem
  | cons id rest ih =>
    obtain ⟨hsame, hsent, hstates⟩ := notifyProposal_spec world formation id h
    obtain ⟨hrest, hlater⟩ := ih (h.of_keeps hsame.keepsProposals)
    have hnotices : (m.notifyProposal world formation id).notices = m.notices := by
      funext other
      rw [notices, notices, hsame.proposalsStore]
    refine ⟨?_, fun other hother => hlater other ?_⟩
    · rw [List.foldl_cons, hrest, hsent, hnotices, List.append_assoc, List.flatMap_cons]
    · rcases hother with hbefore | ⟨id', hmem, proposal, hfind, hplayer⟩
      · exact Or.inl (hstates other (Or.inl hbefore))
      · rcases List.mem_cons.mp hmem with rfl | hrest
        · exact Or.inl (hstates other (Or.inr ⟨proposal, hfind, hplayer⟩))
        · exact Or.inr ⟨id', hrest, proposal, hsame.proposalsStore ▸ hfind, hplayer⟩

/-- Only players of failed proposals are told something. -/
def SendsFailures (m m' : LFGMgr) : Prop :=
  ∃ updates, m'.sent = m.sent ++ updates ∧ ∀ update ∈ updates, update.state = .failed

theorem SendsFailures.of_eq (h : m'.sent = m.sent) : SendsFailures m m' :=
  ⟨[], h.trans (List.append_nil _).symm, fun _ hmem => nomatch hmem⟩

theorem SendsFailures.refl (m : LFGMgr) : SendsFailures m m := .of_eq rfl

theorem SendsFailures.trans {m'' : LFGMgr} (h : SendsFailures m m') (h' : SendsFailures m' m'') :
    SendsFailures m m'' := by
  obtain ⟨updates, hsent, hfailed⟩ := h
  obtain ⟨updates', hsent', hfailed'⟩ := h'
  refine ⟨updates ++ updates', ?_, fun update hmem => ?_⟩
  · rw [hsent', hsent, List.append_assoc]
  · rcases List.mem_append.mp hmem with hfirst | hsecond
    · exact hfailed update hfirst
    · exact hfailed' update hsecond

theorem SendsFailures.foldl {α : Type*} {f : LFGMgr → α → LFGMgr}
    (hf : ∀ m a, SendsFailures m (f m a)) (l : List α) (m : LFGMgr) :
    SendsFailures m (l.foldl f m) := by
  induction l generalizing m with
  | nil => exact .refl m
  | cons a rest ih => exact (hf m a).trans (ih (f m a))

theorem sendsFailures_notifyRemoval (proposalId : Nat) (toRemove : List Guid) (m : LFGMgr)
    (entry : Guid × LfgProposalPlayer) :
    SendsFailures m (notifyRemoval proposalId toRemove m entry) := by
  have htold : SendsFailures m (m.sendLfgUpdateProposal entry.1 proposalId .failed) :=
    ⟨[⟨entry.1, proposalId, .failed⟩], rfl, by
      intro update hmem
      rw [List.mem_singleton.mp hmem]⟩
  refine htold.trans (.of_eq ?_)
  rw [notifyRemoval]
  dsimp only
  split
  · split
    · rw [sent_restoreState, sent_restoreState]
    · rw [sent_restoreState]
  · split
    · rw [sent_setState, sent_setState]
    · rw [sent_setState]

theorem sendsFailures_removeOverdue (m : LFGMgr) (world : LfgWorld) :
    SendsFailures m (m.removeOverdue world) := by
  have hrestored : ∀ (guids : List Guid) (t : LFGMgr),
      SendsFailures t (guids.foldl (fun m guid => m.restoreState guid) t) :=
    SendsFailures.foldl fun m guid => .of_eq (sent_restoreState m guid)
  have hcheck : ∀ (t : LFGMgr) (entry : Guid × LfgRoleCheck),
      SendsFailures t (t.removeRoleCheck world entry) := by
    intro t entry
    rw [removeRoleCheck]
    split
    · exact .refl t
    · exact ((hrestored entry.2.roles.keys t).trans (.of_eq (sent_restoreState _ entry.1))).trans
        (.of_eq rfl)
  have hobsolete : ∀ (t : LFGMgr) (proposalId : Nat),
      SendsFailures t (t.removeObsolete world proposalId) := by
    intro t proposalId
    rw [removeObsolete]
    split
    · exact .refl t
    split
    · exact (SendsFailures.foldl (sendsFailures_notifyRemoval proposalId _) _ t).trans (.of_eq rfl)
    · exact .refl t
  exact (SendsFailures.foldl hcheck _ m).trans (SendsFailures.foldl hobsolete _ _)

/-! ## New proposals -/

/-- The manager after the search of an `Update`. -/
def searched (m : LFGMgr) (world : LfgWorld) : LFGMgr := (m.removeOverdue world).findAllGroups world

/-- The search of an `Update` stores the proposal. -/
def Created (m : LFGMgr) (world : LfgWorld) (proposalId : Nat) (proposal : LfgProposal) : Prop :=
  (m.searched world).proposalsStore.find? proposalId = some proposal ∧
    (m.removeOverdue world).proposalsStore.find? proposalId ≠ some proposal

/-- The players of all new proposals are in the state of a proposal and were told. -/
def Notified (m : LFGMgr) (world : LfgWorld) (formation : Formation) : Prop :=
  ∀ proposalId proposal, m.Created world proposalId proposal → ∀ guid ∈ proposal.players.keys,
    (m.update world formation).getState guid = .proposal ∧
      ⟨guid, proposalId, proposal.state⟩ ∈ (m.update world formation).sent.drop m.sent.length

/-- The search moves the counter of the ids, and no new proposal that has players has an id
below the newest one. -/
def NoneBelowNewest (m : LFGMgr) (world : LfgWorld) : Prop :=
  ∀ proposalId proposal, m.Created world proposalId proposal → proposal.players.keys ≠ [] →
    (m.removeOverdue world).lfgProposalId ≠ (m.searched world).lfgProposalId ∧
      (m.searched world).lfgProposalId ≤ proposalId

theorem Created.state {world : LfgWorld} {proposalId : Nat}
    (h : m.Created world proposalId proposal) : proposal.state = .initiating := by
  obtain ⟨-, hstate, -⟩ := ((extends_findAllGroups world (m.removeOverdue world).queuesStore.keys
    (m.removeOverdue world)).1 proposalId proposal h.1).resolve_left h.2
  exact hstate

theorem mem_notices {proposalId : Nat} {update : ProposalUpdate} :
    update ∈ m.notices proposalId ↔ ∃ proposal,
      m.proposalsStore.find? proposalId = some proposal ∧
        ∃ guid ∈ proposal.players.keys, update = ⟨guid, proposalId, proposal.state⟩ := by
  rw [notices]
  cases m.proposalsStore.find? proposalId with
  | none => simp
  | some proposal => simp [eq_comm]

/-- The proposals that `Update` goes through. -/
def newest (m : LFGMgr) (world : LfgWorld) : List Nat :=
  if (m.removeOverdue world).lfgProposalId ≠ (m.searched world).lfgProposalId then
    (m.searched world).proposalsStore.keys.filter fun id => (m.searched world).lfgProposalId ≤ id
  else []

theorem update_eq (m : LFGMgr) (world : LfgWorld) (formation : Formation) :
    m.update world formation =
      (m.newest world).foldl (notifyProposal world formation) (m.searched world) := by
  obtain ⟨-, hnewest, -⟩ := extends_findAllGroups world (m.removeOverdue world).queuesStore.keys
    (m.removeOverdue world)
  rw [update, newest]
  by_cases hmoved : (m.removeOverdue world).lfgProposalId ≠ (m.searched world).lfgProposalId
  · rw [if_pos hmoved]
    have hstored : (m.searched world).proposalsStore.contains (m.searched world).lfgProposalId =
        true := hnewest.resolve_left fun hsame => hmoved hsame.1.symm
    calc _ = (m.searched world).notifyProposals world formation := if_pos hmoved
      _ = _ := if_pos hstored
  · rw [if_neg hmoved]
    exact if_neg hmoved

/-- `Update` tells the players of all new proposals just when none of these is below the
newest one. -/
theorem NoneSuccessful.notified_iff (h : m.NoneSuccessful) (world : LfgWorld)
    (formation : Formation) : m.Notified world formation ↔ m.NoneBelowNewest world := by
  obtain ⟨-, -, hquiet⟩ := extends_findAllGroups world (m.removeOverdue world).queuesStore.keys
    (m.removeOverdue world)
  obtain ⟨failures, hfailures, hfailed⟩ := m.sendsFailures_removeOverdue world
  have hsearched : (m.searched world).NoneSuccessful :=
    (h.of_keeps (m.keepsProposals_removeOverdue world)).searched world _
  obtain ⟨hsent, hstates⟩ := notifyAll_spec world formation (m.newest world) hsearched
  rw [← update_eq] at hsent hstates
  have hnew : (m.update world formation).sent.drop m.sent.length =
      failures ++ (m.newest world).flatMap (m.searched world).notices := by
    calc (m.update world formation).sent.drop m.sent.length
        = (m.sent ++ (failures ++ (m.newest world).flatMap (m.searched world).notices)).drop
            m.sent.length := by
          rw [hsent, ← List.append_assoc, ← hfailures]
          rw [← hquiet]
          rfl
      _ = _ := List.drop_left
  constructor
  · intro hnotified proposalId proposal hcreated hplayers
    obtain ⟨guid, rest, hkeys⟩ := List.exists_cons_of_ne_nil hplayers
    have hguid : guid ∈ proposal.players.keys := hkeys ▸ List.mem_cons_self
    obtain ⟨-, htold⟩ := hnotified proposalId proposal hcreated guid hguid
    rw [hnew, List.mem_append] at htold
    have hnotice := htold.resolve_left fun hmem => by
      have hwrong := hfailed _ hmem
      rw [hcreated.state] at hwrong
      cases hwrong
    obtain ⟨id, hid, hmem⟩ := List.mem_flatMap.mp hnotice
    obtain ⟨found, -, other, -, heq⟩ := mem_notices.mp hmem
    obtain ⟨-, rfl, -⟩ := ProposalUpdate.mk.inj heq
    rw [newest] at hid
    split at hid
    · next hmoved => exact ⟨hmoved, of_decide_eq_true (List.mem_filter.mp hid).2⟩
    · cases hid
  · intro hbelow proposalId proposal hcreated guid hguid
    obtain ⟨hmoved, hle⟩ := hbelow proposalId proposal hcreated (List.ne_nil_of_mem hguid)
    have hid : proposalId ∈ m.newest world := by
      rw [newest, if_pos hmoved]
      exact List.mem_filter.mpr ⟨OrderedMap.mem_keys.mpr (OrderedMap.contains_of_find? hcreated.1),
        decide_eq_true hle⟩
    refine ⟨hstates guid (Or.inr ⟨proposalId, hid, proposal, hcreated.1, hguid⟩), ?_⟩
    rw [hnew]
    refine List.mem_append_right _ (List.mem_flatMap.mpr ⟨proposalId, hid, ?_⟩)
    exact mem_notices.mpr ⟨proposal, hcreated.1, guid, hguid, rfl⟩

/-- Whatever was called before, an `Update` tells the players of all its new proposals just
when none of these is below the newest one. -/
theorem notified_iff_of_run {calls : List (LfgWorld × Action)}
    (h : Runs.Admissible LFGMgr.step (fun _ call => Fresh call) LFGMgr.empty calls)
    (world : LfgWorld) (formation : Formation) :
    (Runs.run LFGMgr.step LFGMgr.empty calls).Notified world formation ↔
      (Runs.run LFGMgr.step LFGMgr.empty calls).NoneBelowNewest world :=
  (noneSuccessful_of_run h).notified_iff world formation

/-- A group of five queues: its members choose their roles. -/
def groupJoins (gguid first : Guid) : List (LfgWorld × Action) :=
  [(oneDungeon, .join ⟨freeJoiner first, some ⟨gguid, false, 5,
      [first, first + 1, first + 2, first + 3, first + 4].map freeJoiner⟩, playerRoleTank,
      OrderedMap.ofKeys [6]⟩),
    (oneDungeon, .updateRoleCheck gguid (first + 1) playerRoleHealer),
    (oneDungeon, .updateRoleCheck gguid (first + 2) playerRoleDamage),
    (oneDungeon, .updateRoleCheck gguid (first + 3) playerRoleDamage),
    (oneDungeon, .updateRoleCheck gguid (first + 4) playerRoleDamage)]

theorem fresh_joins (gguid first : Guid) : ∀ call ∈ groupJoins gguid first, Fresh call := by
  simp [groupJoins, Fresh]

theorem admissible_of_fresh {calls : List (LfgWorld × Action)} (m : LFGMgr)
    (h : ∀ call ∈ calls, Fresh call) :
    Runs.Admissible LFGMgr.step (fun _ call => Fresh call) m calls := by
  induction calls generalizing m with
  | nil => trivial
  | cons call rest ih =>
    exact ⟨h call List.mem_cons_self, ih _ fun other hmem => h other (List.mem_cons_of_mem _ hmem)⟩

/-- The only new proposal is the newest one. -/
theorem notified_one_group :
    (Runs.run LFGMgr.step LFGMgr.empty (groupJoins partyGuid 1)).Notified oneDungeon ⟨0, []⟩ := by
  refine (notified_iff_of_run (admissible_of_fresh _ (fresh_joins partyGuid 1)) oneDungeon
    ⟨0, []⟩).mpr ?_
  generalize hm : Runs.run LFGMgr.step LFGMgr.empty (groupJoins partyGuid 1) = m
  have hmoved : (m.removeOverdue oneDungeon).lfgProposalId ≠
      (m.searched oneDungeon).lfgProposalId := by
    subst hm
    decide +kernel
  have hids : (m.searched oneDungeon).proposalsStore.keys = [2] := by
    subst hm
    decide +kernel
  have hnewest : (m.searched oneDungeon).lfgProposalId ≤ 2 := by
    subst hm
    decide +kernel
  intro proposalId proposal hcreated _
  have hmem := OrderedMap.mem_keys.mpr (OrderedMap.contains_of_find? hcreated.1)
  rw [hids, List.mem_singleton] at hmem
  exact ⟨hmoved, hmem ▸ hnewest⟩

/-- Two groups queue between two ticks, and the members of the first one hear nothing. -/
theorem first_group_not_told :
    ¬ ∀ (calls : List (LfgWorld × Action)) (world : LfgWorld) (formation : Formation),
      Runs.Admissible LFGMgr.step (fun _ call => Fresh call) LFGMgr.empty calls →
        (Runs.run LFGMgr.step LFGMgr.empty calls).Notified world formation := by
  intro h
  have hfresh : ∀ call ∈ groupJoins partyGuid 1 ++ groupJoins (partyGuid + 1) 6, Fresh call :=
    List.forall_mem_append.mpr ⟨fresh_joins partyGuid 1, fresh_joins (partyGuid + 1) 6⟩
  have hnotified := h _ oneDungeon ⟨0, []⟩ (admissible_of_fresh _ hfresh)
  generalize hm : Runs.run LFGMgr.step LFGMgr.empty
    (groupJoins partyGuid 1 ++ groupJoins (partyGuid + 1) 6) = m at hnotified
  have hplayer : ((m.searched oneDungeon).proposalsStore.find? 2).any
      (fun proposal => proposal.players.contains 1) = true := by
    subst hm
    decide +kernel
  have hnone : (m.removeOverdue oneDungeon).proposalsStore.contains 2 = false := by
    subst hm
    decide +kernel
  have hsilent : ∀ update ∈ (m.update oneDungeon ⟨0, []⟩).sent, update.proposalId ≠ 2 := by
    subst hm
    decide +kernel
  obtain ⟨proposal, hfind, hguid⟩ := (Option.any_eq_true _ _).mp hplayer
  have hcreated : m.Created oneDungeon 2 proposal := by
    refine ⟨hfind, fun hbefore => ?_⟩
    have hstored := OrderedMap.contains_of_find? hbefore
    rw [hnone] at hstored
    cases hstored
  obtain ⟨-, htold⟩ := hnotified 2 proposal hcreated 1 (OrderedMap.mem_keys.mpr hguid)
  exact hsilent _ (List.mem_of_mem_drop htold) rfl

end LFGMgr

end Cataclysm.Lfg
