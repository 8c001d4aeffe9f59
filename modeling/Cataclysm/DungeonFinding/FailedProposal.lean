import Cataclysm.DungeonFinding.ProposalNotice
import Cataclysm.DungeonFinding.ProposalPlayers

/-!
# What becomes of a failed proposal

`RemoveProposal` sorts the entries of a proposal by the answers of their players. An entry
of which somebody declined, or did not answer in time, leaves the queue; the others are
put back. This is right as long as an entry waits in the proposal only: an entry that
joined again in the meantime is put back a second time.

## Implementation notes

The states are kept under guids of players and of groups, which never coincide; `Live` says
so for the players of a proposal and their entries. It holds of what `CheckCompatibility`
makes of entries of players (`IsProposal.live`), and answers keep it, so every proposal that
a run stores is live (`live_of_run`). The queue is that of the first player.
-/

namespace Cataclysm.Lfg
open Matching

/-! ## Live proposals -/

/-- Players and groups of a proposal have guids of their kind, every player belongs to one
of the entries, and every entry has a player. -/
structure Live (proposal : LfgProposal) : Prop where
  kinds : ∀ e ∈ proposal.players.entries,
    isGroupGuid e.1 = false ∧ (e.2.group = 0 ∨ isGroupGuid e.2.group = true)
  entries : ∀ e ∈ proposal.players.entries, entryOf e.1 e.2 ∈ proposal.queues
  filled : ∀ entry ∈ proposal.queues,
    ∃ e ∈ proposal.players.entries, entryOf e.1 e.2 = entry

section Created

variable {view : LfgView} {dungeonsOf : Guid → LfgDungeonSet} {rolesOf : Guid → LfgRolesMap}
  {check : List Guid} {dungeon : LFGDungeonData} {count : PlayerCount} {proposal : LfgProposal}

/-- A count that goes through all entries notes an entry for every player. -/
theorem groups_countPlayers {maxGroupSize : Nat} (check : List Guid) {count : PlayerCount}
    (hgroups : (countPlayers view rolesOf maxGroupSize check count).numLfgGroups ≤ 1)
    (hplayers : (countPlayers view rolesOf maxGroupSize check count).numPlayers ≤ maxGroupSize)
    (guid : Guid) :
    (∃ entry ∈ check, (rolesOf entry).contains guid = true ∧
      (countPlayers view rolesOf maxGroupSize check count).groups.find? guid =
        some (if view.isGroupGuid entry then entry else 0)) ∨
      (∀ entry ∈ check, (rolesOf entry).contains guid = false) ∧
        (countPlayers view rolesOf maxGroupSize check count).groups.find? guid =
          count.groups.find? guid := by
  induction check generalizing count with
  | nil => exact Or.inr ⟨fun _ h => (List.not_mem_nil h).elim, rfl⟩
  | cons entry rest ih =>
    rw [countPlayers] at hgroups hplayers ⊢
    by_cases hgo : count.numLfgGroups ≤ 1 ∧ count.numPlayers ≤ maxGroupSize
    · rw [if_pos hgo] at hgroups hplayers ⊢
      rcases ih hgroups hplayers with ⟨other, hother, hfound⟩ | ⟨hnone, hsame⟩
      · exact Or.inl ⟨other, List.mem_cons_of_mem _ hother, hfound⟩
      · dsimp only at hsame ⊢
        rw [hsame, OrderedMap.find?_foldl_insert]
        by_cases hmem : guid ∈ (rolesOf entry).keys
        · exact Or.inl ⟨entry, List.mem_cons_self, OrderedMap.mem_keys.mp hmem, if_pos hmem⟩
        · refine Or.inr ⟨List.forall_mem_cons.mpr ⟨?_, hnone⟩, if_neg hmem⟩
          exact Bool.eq_false_iff.mpr (mt OrderedMap.mem_keys.mpr hmem)
    · rw [if_neg hgo] at hgroups hplayers
      exact absurd ⟨hgroups, hplayers⟩ hgo

/-- The players of the entries are as many as the count says. -/
theorem total_countPlayers {maxGroupSize : Nat} (check : List Guid) {count : PlayerCount}
    (hmax : maxGroupSize ≤ 250) (hfew : ∀ entry ∈ check, (rolesOf entry).entries.length ≤ 5)
    (hgroups : (countPlayers view rolesOf maxGroupSize check count).numLfgGroups ≤ 1)
    (hplayers : (countPlayers view rolesOf maxGroupSize check count).numPlayers ≤ maxGroupSize) :
    (countPlayers view rolesOf maxGroupSize check count).numPlayers =
      count.numPlayers + (check.map fun guid => (rolesOf guid).entries.length).sum := by
  induction check generalizing count with
  | nil => rfl
  | cons entry rest ih =>
    rw [countPlayers] at hgroups hplayers ⊢
    by_cases hgo : count.numLfgGroups ≤ 1 ∧ count.numPlayers ≤ maxGroupSize
    · rw [if_pos hgo] at hgroups hplayers ⊢
      obtain ⟨hentry, hrest⟩ := List.forall_mem_cons.mp hfew
      have hlater := ih hrest hgroups hplayers
      have hsmall : (count.numPlayers + (rolesOf entry).entries.length) % 256 =
          count.numPlayers + (rolesOf entry).entries.length := Nat.mod_eq_of_lt (by omega)
      dsimp only at hlater ⊢
      rw [hlater, hsmall, List.map_cons, List.sum_cons, Nat.add_assoc]
    · rw [if_neg hgo] at hgroups hplayers
      exact absurd ⟨hgroups, hplayers⟩ hgo

/-- The role solver keeps the players. -/
theorem contains_checkGroupRoles {groles : LfgRolesMap} (hsize : groles.keys.length ≤ 255)
    (dungeon : LFGDungeonData) (guid : Guid) :
    (checkGroupRoles groles dungeon).2.contains guid = groles.contains guid := by
  by_cases haccepted : (checkGroupRoles groles dungeon).1 = true
  · obtain ⟨role, -, hassigned⟩ := assignment_of_accepted hsize haccepted
    rw [hassigned, assign, OrderedMap.contains, OrderedMap.find?_mapValues, Option.isSome_map]
    rfl
  · have hrefused : (checkGroupRoles groles dungeon).2 = groles :=
      (checkRoles_accepts _ hsize).1 (Bool.eq_false_iff.mpr haccepted)
    rw [hrefused]

/-- The players of a proposal are those of its entries, each of one entry only. -/
theorem IsProposal.players_of_entries
    (h : IsProposal view dungeonsOf rolesOf check dungeon count proposal) (hsome : check ≠ [])
    (htotal : (check.map fun guid => (rolesOf guid).entries.length).sum ≤ 255) :
    (∀ guid, proposal.players.contains guid = true ↔
      ∃ entry ∈ check, (rolesOf entry).contains guid = true) ∧
      ∀ guid, ∀ entry ∈ check, ∀ other ∈ check, (rolesOf entry).contains guid = true →
        (rolesOf other).contains guid = true → entry = other := by
  by_cases hmore : 1 < check.length
  · refine ⟨(h.sound hmore htotal).players, ?_⟩
    obtain ⟨-, hperm, -⟩ := h.collected hmore htotal
    have hkeys : (playersOf rolesOf check).map Prod.fst =
        check.flatMap fun entry => (rolesOf entry).keys := List.map_flatMap
    have hnodup := (hperm.map Prod.fst).nodup_iff.mp (collectRoles view rolesOf check).nodup_keys
    rw [hkeys] at hnodup
    intro guid entry hentry other hother hguid hguid'
    by_contra hne
    have : Std.Symm (Function.onFun List.Disjoint fun entry => (rolesOf entry).keys) :=
      ⟨fun _ _ hdisjoint => hdisjoint.symm⟩
    have hdisjoint := (List.nodup_flatMap.mp hnodup).2.forall hentry hother hne
    exact hdisjoint (OrderedMap.mem_keys.mpr hguid) (OrderedMap.mem_keys.mpr hguid')
  · obtain ⟨front, rfl⟩ : ∃ front, check = [front] := by
      cases check with
      | nil => exact absurd rfl hsome
      | cons front rest =>
        cases rest with
        | nil => exact ⟨front, rfl⟩
        | cons next rest => exact absurd (Nat.one_lt_succ_succ _) hmore
    refine ⟨fun guid => ?_, ?_⟩
    · have hsize : (rolesOf front).keys.length ≤ 255 := by
        rw [OrderedMap.keys, List.length_map]
        simpa using htotal
      rw [h.players, OrderedMap.contains, find?_proposalPlayers, Option.isSome_map, proposalRoles,
        if_neg hmore]
      exact (Bool.eq_iff_iff.mp (contains_checkGroupRoles hsize dungeon guid)).trans
        (by simp)
    · intro guid entry hentry other hother _ _
      rw [List.mem_singleton.mp hentry, List.mem_singleton.mp hother]

/-- What a proposal says about a player and his entry. -/
theorem IsProposal.entry_of_player
    (h : IsProposal view dungeonsOf rolesOf check dungeon count proposal)
    (hplayers : ∀ guid, proposal.players.contains guid = true ↔
      ∃ entry ∈ check, (rolesOf entry).contains guid = true)
    {guid : Guid} {player : LfgProposalPlayer}
    (hplayer : proposal.players.find? guid = some player) :
    ∃ entry ∈ check, (rolesOf entry).contains guid = true ∧
      player.group = if view.isGroupGuid entry then entry else 0 := by
  obtain ⟨other, hother, hmember⟩ :=
    (hplayers guid).mp (OrderedMap.contains_of_find? hplayer)
  have hgroups := h.groups
  have hsize := h.size
  rw [h.counted] at hgroups hsize
  rcases groups_countPlayers check hgroups hsize.le guid with
    ⟨entry, hentry, hcontains, hfound⟩ | ⟨hnone, -⟩
  · refine ⟨entry, hentry, hcontains, ?_⟩
    rw [h.players, find?_proposalPlayers] at hplayer
    obtain ⟨role, -, rfl⟩ := Option.map_eq_some_iff.mp hplayer
    dsimp only
    rw [h.counted, hfound, Option.getD_some]
  · rw [hnone other hother] at hmember
    cases hmember

/-- A proposal of entries of players is live: a single player stands for himself. -/
theorem IsProposal.live
    (h : IsProposal view dungeonsOf rolesOf check dungeon count proposal) (hsome : check ≠ [])
    (htotal : (check.map fun guid => (rolesOf guid).entries.length).sum ≤ 255)
    (hkinds : view.isGroupGuid = isGroupGuid)
    (hfilled : ∀ entry ∈ check, ∃ guid, (rolesOf entry).contains guid = true)
    (hpeople : ∀ entry ∈ check, ∀ guid, (rolesOf entry).contains guid = true →
      isGroupGuid guid = false ∧ (isGroupGuid entry = false → guid = entry)) : Live proposal := by
  obtain ⟨hplayers, hunique⟩ := h.players_of_entries hsome htotal
  have hentryOf : ∀ {guid player}, proposal.players.find? guid = some player →
      isGroupGuid guid = false ∧ (player.group = 0 ∨ isGroupGuid player.group = true) ∧
        ∃ entry ∈ check, (rolesOf entry).contains guid = true ∧ entryOf guid player = entry := by
    intro guid player hplayer
    obtain ⟨entry, hentry, hmember, hgroup⟩ := h.entry_of_player hplayers hplayer
    obtain ⟨hkind, hsingle⟩ := hpeople entry hentry guid hmember
    rw [hkinds] at hgroup
    refine ⟨hkind, ?_, entry, hentry, hmember, ?_⟩
    · rw [hgroup]
      split
      · next hentryKind => exact Or.inr hentryKind
      · exact Or.inl rfl
    · rw [entryOf, hgroup]
      by_cases hentryKind : isGroupGuid entry = true
      · rw [if_pos hentryKind]
        refine if_pos ?_
        rintro rfl
        revert hentryKind
        decide
      · rw [if_neg hentryKind, if_neg (not_not.mpr rfl)]
        exact hsingle (Bool.eq_false_iff.mpr hentryKind)
  refine ⟨?_, ?_, ?_⟩
  · intro e he
    obtain ⟨hkind, hgroup, -⟩ := hentryOf (OrderedMap.find?_eq_some_iff.mpr he)
    exact ⟨hkind, hgroup⟩
  · intro e he
    obtain ⟨-, -, entry, hentry, -, heq⟩ := hentryOf (OrderedMap.find?_eq_some_iff.mpr he)
    rw [heq, h.queues]
    exact hentry
  · intro entry hentry
    rw [h.queues] at hentry
    obtain ⟨guid, hguid⟩ := hfilled entry hentry
    obtain ⟨player, hplayer⟩ :=
      Option.isSome_iff_exists.mp ((hplayers guid).mpr ⟨entry, hentry, hguid⟩)
    obtain ⟨-, -, other, hother, hmember, heq⟩ := hentryOf hplayer
    exact ⟨(guid, player), OrderedMap.find?_eq_some_iff.mp hplayer,
      heq.trans (hunique guid other hother entry hentry hmember hguid)⟩

end Created

/-- The entries that wait for a dungeon are groups of up to five players, or single players,
who stand for themselves. -/
structure LFGQueue.Peopled (q : LFGQueue) : Prop where
  filled : ∀ entry dungeonId, (q.dungeonsOf entry).contains dungeonId = true →
    ∃ guid, (q.rolesOf entry).contains guid = true
  few : ∀ entry dungeonId, (q.dungeonsOf entry).contains dungeonId = true →
    (q.rolesOf entry).entries.length ≤ 5
  people : ∀ entry dungeonId, (q.dungeonsOf entry).contains dungeonId = true →
    ∀ guid, (q.rolesOf entry).contains guid = true →
      isGroupGuid guid = false ∧ (isGroupGuid entry = false → guid = entry)

theorem LFGQueue.peopled_of_entries {q : LFGQueue}
    (h : ∀ e ∈ q.queueDataStore.entries, e.2.roles.keys ≠ [] ∧ e.2.roles.entries.length ≤ 5 ∧
      ∀ guid ∈ e.2.roles.keys, isGroupGuid guid = false ∧ (isGroupGuid e.1 = false → guid = e.1)) :
    q.Peopled := by
  have hstored : ∀ entry dungeonId, (q.dungeonsOf entry).contains dungeonId = true →
      ∃ data, (entry, data) ∈ q.queueDataStore.entries ∧ q.rolesOf entry = data.roles := by
    intro entry dungeonId hcontains
    rw [dungeonsOf] at hcontains
    rw [rolesOf]
    cases hfind : q.queueDataStore.find? entry with
    | none =>
      rw [hfind] at hcontains
      cases hcontains
    | some data => exact ⟨data, OrderedMap.find?_eq_some_iff.mp hfind, rfl⟩
  refine ⟨?_, ?_, ?_⟩
  · intro entry dungeonId hcontains
    obtain ⟨data, hmem, hroles⟩ := hstored entry dungeonId hcontains
    obtain ⟨guid, rest, hkeys⟩ := List.exists_cons_of_ne_nil (h _ hmem).1
    refine ⟨guid, OrderedMap.mem_keys.mp ?_⟩
    rw [hroles, hkeys]
    exact List.mem_cons_self
  · intro entry dungeonId hcontains
    obtain ⟨data, hmem, hroles⟩ := hstored entry dungeonId hcontains
    exact hroles ▸ (h _ hmem).2.1
  · intro entry dungeonId hcontains guid hguid
    obtain ⟨data, hmem, hroles⟩ := hstored entry dungeonId hcontains
    exact (h _ hmem).2.2 guid (OrderedMap.mem_keys.mpr (hroles ▸ hguid))

/-- No dungeon asks for more players than a count holds. -/
def LfgWorld.SmallGroups (world : LfgWorld) : Prop :=
  ∀ dungeonId dungeon, world.getLFGDungeon dungeonId = some dungeon →
    dungeon.getMaxGroupSize ≤ 250

/-- A search makes live proposals of such entries. -/
theorem LFGQueue.Peopled.live {q : LFGQueue} (h : q.Peopled) {m : LFGMgr} {world : LfgWorld}
    (hworld : world.SmallGroups) {proposal : LfgProposal}
    (hsearched : Searched (m.view world) q.dungeonsOf q.rolesOf proposal) : Live proposal := by
  obtain ⟨-, check, dungeon, count, hsome, hproposal⟩ := hsearched
  have hcommon := contains_commonDungeons hproposal.chosen
  have hmax := hworld proposal.dungeonId dungeon hproposal.known
  have hfew : ∀ entry ∈ check, (q.rolesOf entry).entries.length ≤ 5 := fun entry hentry =>
    h.few entry _ (hcommon entry hentry)
  have hgroups := hproposal.groups
  have hsize := hproposal.size
  rw [hproposal.counted] at hgroups hsize
  have htotal := total_countPlayers check hmax hfew hgroups hsize.le
  refine hproposal.live hsome (by omega) rfl ?_ ?_
  · exact fun entry hentry => h.filled entry _ (hcommon entry hentry)
  · exact fun entry hentry => h.people entry _ (hcommon entry hentry)

/-- Answers change no entry. -/
theorem Live.answered {proposal : LfgProposal} (h : Live proposal) (guid : Guid)
    (accept : LfgAnswer) : Live (LFGMgr.answer proposal guid accept) := by
  have hanswered : ∀ e, e ∈ (LFGMgr.answer proposal guid accept).players.entries ↔
      ∃ player, (e.1, player) ∈ proposal.players.entries ∧
        e.2 = if e.1 = guid then { player with accept } else player := by
    intro e
    rw [LFGMgr.answer]
    constructor
    · intro hmem
      obtain ⟨before, hbefore, rfl⟩ := List.mem_map.mp hmem
      exact ⟨before.2, hbefore, rfl⟩
    · rintro ⟨player, hplayer, heq⟩
      exact List.mem_map.mpr ⟨(e.1, player), hplayer, Prod.ext rfl heq.symm⟩
  have hsame : ∀ (other : Guid) (player : LfgProposalPlayer),
      (if other = guid then { player with accept } else player).group = player.group ∧
        entryOf other (if other = guid then { player with accept } else player) =
          entryOf other player := by
    intro other player
    split <;> exact ⟨rfl, rfl⟩
  refine ⟨?_, ?_, ?_⟩
  · intro e he
    obtain ⟨player, hplayer, heq⟩ := (hanswered e).mp he
    rw [heq, (hsame e.1 player).1]
    exact h.kinds _ hplayer
  · intro e he
    obtain ⟨player, hplayer, heq⟩ := (hanswered e).mp he
    rw [heq, (hsame e.1 player).2]
    exact h.entries _ hplayer
  · intro entry hentry
    obtain ⟨e, he, heq⟩ := h.filled entry hentry
    have hmem := (hanswered (e.1, if e.1 = guid then { e.2 with accept } else e.2)).mpr
      ⟨e.2, he, rfl⟩
    exact ⟨_, hmem, (hsame e.1 e.2).2.trans heq⟩

theorem Live.of_answered {before proposal : LfgProposal} (h : Live before)
    (hanswered : LFGMgr.Answered before proposal) : Live proposal := by
  induction hanswered with
  | refl => exact h
  | tail _ hstep ih =>
    obtain ⟨guid, accept, rfl⟩ := hstep
    exact ih.answered guid accept

namespace LFGMgr

/-- Every proposal of the store is live. -/
def AllLive (m : LFGMgr) : Prop :=
  ∀ proposalId proposal, m.proposalsStore.find? proposalId = some proposal → Live proposal

/-- Searches meet entries of players only, and no other proposals are added than live ones. -/
def SearchesPeople (m : LFGMgr) : LfgWorld × Action → Prop
  | (world, .findGroups queueId) => world.SmallGroups ∧ (m.queue queueId).Peopled
  | (world, .update _) =>
    world.SmallGroups ∧ ∀ queueId, ((m.removeOverdue world).queue queueId).Peopled
  | (_, .addProposal proposal) => Live proposal
  | _ => True

theorem Made.live {m : LFGMgr} {call : LfgWorld × Action} {proposal : LfgProposal}
    (h : m.Made call proposal) (hpeople : m.SearchesPeople call) : Live proposal := by
  obtain ⟨world, action⟩ := call
  cases action with
  | findGroups queueId => exact hpeople.2.live hpeople.1 h
  | update formation =>
    obtain ⟨queueId, hsearched⟩ := h
    exact (hpeople.2 queueId).live hpeople.1 hsearched
  | addProposal added =>
    rw [show proposal = added from h]
    exact hpeople
  | _ => exact h.elim

theorem AllLive.step {m : LFGMgr} {call : LfgWorld × Action} (h : m.AllLive)
    (hpeople : m.SearchesPeople call) : (m.step call).AllLive := by
  intro proposalId proposal hfind
  obtain ⟨before, hbefore, hanswered⟩ := m.stored_step call hfind
  refine Live.of_answered ?_ hanswered
  rcases hbefore with hstored | hmade
  · exact h proposalId before hstored
  · exact hmade.live hpeople

/-- Every proposal that a run stores is live, whoever answered it. -/
theorem live_of_run {calls : List (LfgWorld × Action)}
    (h : Runs.Admissible LFGMgr.step SearchesPeople LFGMgr.empty calls) :
    (Runs.run LFGMgr.step LFGMgr.empty calls).AllLive :=
  h.invariant AllLive.step (fun _ _ hfind => nomatch hfind) (List.prefix_refl calls)

end LFGMgr

/-- Somebody of the entry declined, or did not answer in time. -/
def Fails (type : ProposalRemoval) (proposal : LfgProposal) (entry : Guid) : Prop :=
  ∃ e ∈ proposal.players.entries, entryOf e.1 e.2 = entry ∧
    (e.2.accept = .deny ∨ type = .failed ∧ e.2.accept = .pending)

theorem mem_closeAnswers {type : ProposalRemoval} {players : OrderedMap Guid LfgProposalPlayer}
    {e : Guid × LfgProposalPlayer} :
    e ∈ (closeAnswers type players).entries ↔ ∃ player, (e.1, player) ∈ players.entries ∧
      e.2 = (if type = .failed ∧ player.accept = .pending then { player with accept := .deny }
        else player) := by
  rw [closeAnswers]
  constructor
  · intro hmem
    obtain ⟨before, hbefore, rfl⟩ := List.mem_map.mp hmem
    exact ⟨before.2, hbefore, rfl⟩
  · rintro ⟨player, hplayer, heq⟩
    exact List.mem_map.mpr ⟨(e.1, player), hplayer, Prod.ext rfl heq.symm⟩

/-- A closed answer belongs to the same entry. -/
theorem entryOf_closed (type : ProposalRemoval) (guid : Guid) (player : LfgProposalPlayer) :
    entryOf guid (if type = .failed ∧ player.accept = .pending then { player with accept := .deny }
      else player) = entryOf guid player := by
  split <;> rfl

theorem mem_entriesToRemove {type : ProposalRemoval} {proposal : LfgProposal} {entry : Guid} :
    entry ∈ entriesToRemove (closeAnswers type proposal.players) ↔ Fails type proposal entry := by
  rw [entriesToRemove, OrderedMap.mem_keys, OrderedMap.contains_ofKeys, List.mem_map, Fails]
  constructor
  · rintro ⟨e, he, rfl⟩
    obtain ⟨hmem, hdeny⟩ := List.mem_filter.mp he
    obtain ⟨player, hplayer, heq⟩ := mem_closeAnswers.mp hmem
    refine ⟨(e.1, player), hplayer, ?_, ?_⟩
    · rw [heq, entryOf_closed]
    · have haccept := of_decide_eq_true hdeny
      rw [heq] at haccept
      split at haccept
      · next hclosed => exact Or.inr hclosed
      · exact Or.inl haccept
  · rintro ⟨e, he, rfl, hfails⟩
    refine ⟨(e.1, if type = .failed ∧ e.2.accept = .pending then { e.2 with accept := .deny }
      else e.2), List.mem_filter.mpr ⟨mem_closeAnswers.mpr ⟨e.2, he, rfl⟩, ?_⟩,
      entryOf_closed type e.1 e.2⟩
    rcases hfails with hdeny | hpending
    · split
      · rfl
      · exact decide_eq_true hdeny
    · rw [if_pos hpending]
      rfl

/-! ## The queue -/

namespace LFGQueue

theorem removeFromQueue_spec (q : LFGQueue) (view : LfgView) (guid : Guid) :
    (q.removeFromQueue view guid).newToQueueStore = q.newToQueueStore.filter (· ≠ guid) ∧
      (q.removeFromQueue view guid).currentQueueStore = q.currentQueueStore.filter (· ≠ guid) ∧
      ∀ entry, (q.removeFromQueue view guid).queueDataStore.contains entry =
        (entry ≠ guid && q.queueDataStore.contains entry) := by
  refine ⟨rfl, rfl, fun entry => ?_⟩
  rw [removeFromQueue]
  dsimp only
  rw [OrderedMap.contains_erase, OrderedMap.contains, OrderedMap.find?_mapValues,
    Option.isSome_map]
  rfl

theorem count_filter_ne (l : List Guid) (guid entry : Guid) :
    (l.filter (· ≠ guid)).count entry = if entry = guid then 0 else l.count entry := by
  split
  · next heq =>
    subst heq
    exact List.count_eq_zero.mpr fun hmem => of_decide_eq_true (List.mem_filter.mp hmem).2 rfl
  · next hne => exact List.count_filter (decide_eq_true hne)

/-- The entries that leave the queue are gone, and the others wait as before. -/
theorem removeAll_spec (view : LfgView) (guids : List Guid) (q : LFGQueue) (entry : Guid) :
    (guids.foldl (fun q guid => q.removeFromQueue view guid) q).listed.count entry =
        (if entry ∈ guids then 0 else q.listed.count entry) ∧
      (guids.foldl (fun q guid => q.removeFromQueue view guid) q).queueDataStore.contains entry =
        (entry ∉ guids && q.queueDataStore.contains entry) := by
  induction guids generalizing q with
  | nil => simp
  | cons guid rest ih =>
    obtain ⟨hnew, hcurrent, hdata⟩ := q.removeFromQueue_spec view guid
    obtain ⟨hlisted, hstored⟩ := ih (q.removeFromQueue view guid)
    rw [List.foldl_cons, hlisted, hstored, hdata, listed, hnew, hcurrent, List.count_append,
      count_filter_ne, count_filter_ne, listed, List.count_append]
    by_cases heq : entry = guid
    · simp [heq]
    · simp [heq]

/-- Entries whose data is stored are put back as often as they stand in the list. -/
theorem addAll_spec (entries : List Guid) (q : LFGQueue) (entry : Guid) :
    (entries.foldl addToQueue q).listed.count entry = q.listed.count entry +
        (if q.queueDataStore.contains entry then entries.count entry else 0) ∧
      (entries.foldl addToQueue q).queueDataStore = q.queueDataStore := by
  induction entries generalizing q with
  | nil => simp
  | cons guid rest ih =>
    have hstore : (q.addToQueue guid).queueDataStore = q.queueDataStore := by
      rw [addToQueue]
      split <;> rfl
    have hcount : (q.addToQueue guid).listed.count entry = q.listed.count entry +
        (if q.queueDataStore.contains entry then [guid].count entry else 0) := by
      rw [addToQueue]
      by_cases heq : guid = entry
      · subst heq
        split
        · rw [listed, addToNewQueue, listed]
          dsimp only
          rw [List.count_append, List.count_append, List.count_append]
          omega
        · rfl
      · have hother : [guid].count entry = 0 :=
          List.count_eq_zero.mpr fun hmem => heq (List.mem_singleton.mp hmem).symm
        rw [hother, ite_self]
        split
        · rw [listed, addToNewQueue, listed]
          dsimp only
          rw [List.count_append, List.count_append, List.count_append, hother]
          omega
        · rfl
    obtain ⟨hlisted, hdata⟩ := ih (q.addToQueue guid)
    refine ⟨?_, hdata.trans hstore⟩
    rw [List.foldl_cons, hlisted, hcount, hstore]
    have hcons : (guid :: rest).count entry = [guid].count entry + rest.count entry := by
      rw [← List.count_append]
      rfl
    split
    · omega
    · rfl

end LFGQueue

namespace LFGMgr

/-! ## The states -/

theorem getOldState_setQueued (m : LFGMgr) (guid other : Guid) :
    (m.setState guid .queued).getOldState other = m.getOldState other := by
  rw [setState, getOldState, getOldState]
  by_cases hguid : isGroupGuid guid = true
  · rw [if_pos hguid, modifyGroup]
    dsimp only
    by_cases heq : other = guid
    · subst heq
      rw [Function.update_self, if_pos hguid, if_pos hguid]
      rfl
    · rw [Function.update_of_ne heq]
  · rw [if_neg hguid, modifyPlayer]
    dsimp only
    by_cases heq : other = guid
    · subst heq
      rw [Function.update_self, if_neg hguid, if_neg hguid]
      rfl
    · rw [Function.update_of_ne heq]

theorem restored_player (data : LfgPlayerData) :
    data.restoreState.state = data.oldState ∧ data.restoreState.oldState = data.oldState := by
  rw [LfgPlayerData.restoreState]
  split <;> exact ⟨rfl, rfl⟩

theorem state_restoreState (m : LFGMgr) (guid other : Guid) :
    (m.restoreState guid).getState other =
        (if other = guid then m.getOldState other else m.getState other) ∧
      (m.restoreState guid).getOldState other = m.getOldState other := by
  rw [restoreState, getState, getState, getOldState, getOldState]
  by_cases hguid : isGroupGuid guid = true
  · rw [if_pos hguid, modifyGroup]
    dsimp only
    by_cases heq : other = guid
    · subst heq
      rw [Function.update_self, if_pos rfl, if_pos hguid, if_pos hguid, if_pos hguid]
      exact ⟨rfl, rfl⟩
    · rw [Function.update_of_ne heq, if_neg heq]
      exact ⟨rfl, rfl⟩
  · rw [if_neg hguid, modifyPlayer]
    dsimp only
    by_cases heq : other = guid
    · subst heq
      rw [Function.update_self, if_pos rfl, if_neg hguid, if_neg hguid, if_neg hguid]
      exact restored_player _
    · rw [Function.update_of_ne heq, if_neg heq]
      exact ⟨rfl, rfl⟩

/-- A player's turn sets his state and that of his entry. -/
theorem state_notifyRemoval (proposalId : Nat) (toRemove : List Guid) (m : LFGMgr)
    (e : Guid × LfgProposalPlayer) (other : Guid) :
    (notifyRemoval proposalId toRemove m e).getState other =
        (if other = e.1 ∨ other = entryOf e.1 e.2 then
          if entryOf e.1 e.2 ∈ toRemove then m.getOldState other else .queued
        else m.getState other) ∧
      (notifyRemoval proposalId toRemove m e).getOldState other = m.getOldState other := by
  obtain ⟨guid, player⟩ := e
  rw [notifyRemoval]
  dsimp only
  by_cases hfails : entryOf guid player ∈ toRemove
  · rw [if_pos hfails, if_pos hfails]
    by_cases hgroup : entryOf guid player ≠ guid
    · have hentry : entryOf guid player = player.group := by
        rw [entryOf] at hgroup ⊢
        split
        · rfl
        · next hzero =>
          rw [if_neg hzero] at hgroup
          exact absurd rfl hgroup
      rw [if_pos hgroup, hentry, (state_restoreState _ player.group other).1,
        (state_restoreState _ player.group other).2, (state_restoreState _ guid other).1,
        (state_restoreState _ guid other).2]
      refine ⟨?_, rfl⟩
      by_cases hother : other = player.group
      · rw [if_pos hother, if_pos (Or.inr hother)]
        rfl
      · rw [if_neg hother]
        simp only [hother, or_false]
        rfl
    · rw [if_neg hgroup, (state_restoreState _ guid other).1, (state_restoreState _ guid other).2]
      simp only [not_not.mp hgroup, or_self]
      exact ⟨rfl, rfl⟩
  · rw [if_neg hfails, if_neg hfails]
    by_cases hgroup : entryOf guid player ≠ guid
    · rw [if_pos hgroup, getState_setState, getState_setState, getOldState_setQueued,
        getOldState_setQueued]
      refine ⟨?_, rfl⟩
      by_cases hother : other = entryOf guid player
      · rw [if_pos hother, if_pos (Or.inr hother)]
      · rw [if_neg hother]
        simp only [hother, or_false]
        rfl
    · rw [if_neg hgroup, getState_setState, getOldState_setQueued]
      simp only [not_not.mp hgroup, or_self]
      exact ⟨rfl, rfl⟩

/-- A guid whose players all belong to entries of one kind has the state of that kind. -/
theorem state_notifyRemovals {proposalId : Nat} {toRemove : List Guid} {other : Guid}
    {fails : Prop} [Decidable fails] (entries : List (Guid × LfgProposalPlayer)) (m : LFGMgr)
    (hkind : ∀ e ∈ entries, other = e.1 ∨ other = entryOf e.1 e.2 →
      (entryOf e.1 e.2 ∈ toRemove ↔ fails))
    (hset : m.getState other = (if fails then m.getOldState other else .queued) ∨
      ∃ e ∈ entries, other = e.1 ∨ other = entryOf e.1 e.2) :
    (entries.foldl (notifyRemoval proposalId toRemove) m).getState other =
      if fails then m.getOldState other else .queued := by
  induction entries generalizing m with
  | nil => exact hset.resolve_right fun ⟨e, hmem, _⟩ => List.not_mem_nil hmem
  | cons e rest ih =>
    obtain ⟨hstate, hold⟩ := state_notifyRemoval proposalId toRemove m e other
    rw [List.foldl_cons, ← hold]
    refine ih _ (fun e' hmem => hkind e' (List.mem_cons_of_mem _ hmem)) ?_
    rw [hstate, hold]
    by_cases htouched : other = e.1 ∨ other = entryOf e.1 e.2
    · refine Or.inl ?_
      rw [if_pos htouched]
      exact if_congr (hkind e List.mem_cons_self htouched) rfl rfl
    · rw [if_neg htouched]
      refine hset.imp_right ?_
      rintro ⟨e', hmem, htouches⟩
      rcases List.mem_cons.mp hmem with rfl | hrest
      · exact absurd htouches htouched
      · exact ⟨e', hrest, htouches⟩

/-- Nobody changes his team or his group. -/
structure SameTeams (m m' : LFGMgr) : Prop where
  team : ∀ guid, (m'.playersStore guid).team = (m.playersStore guid).team
  players : ∀ gguid, m'.getPlayers gguid = m.getPlayers gguid

theorem SameTeams.refl (m : LFGMgr) : SameTeams m m := ⟨fun _ => rfl, fun _ => rfl⟩

theorem SameTeams.trans {m m' m'' : LFGMgr} (h : SameTeams m m') (h' : SameTeams m' m'') :
    SameTeams m m'' :=
  ⟨fun guid => (h'.team guid).trans (h.team guid),
    fun gguid => (h'.players gguid).trans (h.players gguid)⟩

theorem SameTeams.getQueueId {m m' : LFGMgr} (h : SameTeams m m') (guid : Guid) :
    m'.getQueueId guid = m.getQueueId guid := by
  simp only [LFGMgr.getQueueId, h.team, h.players]

theorem sameTeams_modifyPlayer (m : LFGMgr) (guid : Guid) {f : LfgPlayerData → LfgPlayerData}
    (hf : ∀ data, (f data).team = data.team) : SameTeams m (m.modifyPlayer guid f) := by
  refine ⟨fun other => ?_, fun _ => rfl⟩
  rw [modifyPlayer]
  dsimp only
  by_cases heq : other = guid
  · subst heq
    rw [Function.update_self, hf]
  · rw [Function.update_of_ne heq]

theorem sameTeams_modifyGroup (m : LFGMgr) (gguid : Guid) {f : LfgGroupData → LfgGroupData}
    (hf : ∀ data, (f data).players = data.players) : SameTeams m (m.modifyGroup gguid f) := by
  refine ⟨fun _ => rfl, fun other => ?_⟩
  rw [modifyGroup, getPlayers, getPlayers]
  dsimp only
  by_cases heq : other = gguid
  · subst heq
    rw [Function.update_self, hf]
  · rw [Function.update_of_ne heq]

theorem sameTeams_setState (m : LFGMgr) (guid : Guid) (state : LfgState) :
    SameTeams m (m.setState guid state) := by
  rw [setState]
  split
  · exact m.sameTeams_modifyGroup guid fun data => by cases state <;> rfl
  · exact m.sameTeams_modifyPlayer guid fun data => by cases state <;> rfl

theorem sameTeams_restoreState (m : LFGMgr) (guid : Guid) : SameTeams m (m.restoreState guid) := by
  rw [restoreState]
  split
  · exact m.sameTeams_modifyGroup guid fun data => rfl
  · refine m.sameTeams_modifyPlayer guid fun data => ?_
    rw [LfgPlayerData.restoreState]
    split <;> rfl

theorem sameTeams_notifyRemovals (proposalId : Nat) (toRemove : List Guid)
    (entries : List (Guid × LfgProposalPlayer)) (m : LFGMgr) :
    SameTeams m (entries.foldl (notifyRemoval proposalId toRemove) m) := by
  induction entries generalizing m with
  | nil => exact .refl m
  | cons e rest ih =>
    refine SameTeams.trans ?_ (ih (m.notifyRemoval proposalId toRemove e))
    have hsent : SameTeams m (m.sendLfgUpdateProposal e.1 proposalId .failed) :=
      ⟨fun _ => rfl, fun _ => rfl⟩
    rw [notifyRemoval]
    dsimp only
    split
    · have hplayer := hsent.trans (sameTeams_restoreState _ e.1)
      split
      · exact hplayer.trans (sameTeams_restoreState _ _)
      · exact hplayer
    · have hplayer := hsent.trans (sameTeams_setState _ e.1 .queued)
      split
      · exact hplayer.trans (sameTeams_setState _ _ .queued)
      · exact hplayer

/-! ## The two kinds of entries -/

/-- The queue that `RemoveProposal` changes. -/
def proposalQueueId (m : LFGMgr) (proposal : LfgProposal) : Nat :=
  m.getQueueId (proposal.players.keys.headD 0)

/-- The states of an entry and of its players. -/
def EntryStates (m' : LFGMgr) (proposal : LfgProposal) (entry : Guid) (state : Guid → LfgState) :
    Prop :=
  m'.getState entry = state entry ∧
    ∀ e ∈ proposal.players.entries, entryOf e.1 e.2 = entry → m'.getState e.1 = state e.1

/-- The outcome of a failed proposal: it is erased, the entries that fail are in no queue any
more and have their old states, and each other entry waits once, in the queue of the
proposal. -/
structure Conserved (m m' : LFGMgr) (proposalId : Nat) (proposal : LfgProposal)
    (type : ProposalRemoval) : Prop where
  erased : m'.proposalsStore.contains proposalId = false
  removed : ∀ entry ∈ proposal.queues, Fails type proposal entry →
    (∀ queueId, (m'.queue queueId).queueDataStore.contains entry = false ∧
      (m'.queue queueId).listed.count entry = 0) ∧ EntryStates m' proposal entry m.getOldState
  kept : ∀ entry ∈ proposal.queues, ¬ Fails type proposal entry →
    ((m'.queue (m.proposalQueueId proposal)).queueDataStore.contains entry = true ∧
      ∀ queueId, (m'.queue queueId).listed.count entry =
        if queueId = m.proposalQueueId proposal then 1 else 0) ∧
      EntryStates m' proposal entry fun _ => .queued

/-- Before the removal the entries wait in the proposal only: an entry that fails is in no
other queue than that of the proposal, and any other entry stands in the proposal once, in
no list, and has its data in that queue. -/
structure WaitsInProposal (m : LFGMgr) (proposal : LfgProposal) (type : ProposalRemoval) :
    Prop where
  removed : ∀ entry ∈ proposal.queues, Fails type proposal entry →
    ∀ queueId, queueId ≠ m.proposalQueueId proposal →
      (m.queue queueId).queueDataStore.contains entry = false ∧
        (m.queue queueId).listed.count entry = 0
  kept : ∀ entry ∈ proposal.queues, ¬ Fails type proposal entry →
    (m.queue (m.proposalQueueId proposal)).queueDataStore.contains entry = true ∧
      proposal.queues.count entry = 1 ∧ ∀ queueId, (m.queue queueId).listed.count entry = 0

theorem queue_modifyQueue (m : LFGMgr) (queueId other : Nat) (f : LFGQueue → LFGQueue) :
    (m.modifyQueue queueId f).queue other =
      if other = queueId then f (m.queue queueId) else m.queue other := by
  rw [queue, modifyQueue]
  dsimp only
  rw [OrderedMap.find?_insert]
  split
  · rfl
  · rw [queue]

/-- The queue of the proposal loses the entries that fail and gets the others back. -/
def settled (view : LfgView) (type : ProposalRemoval) (proposal : LfgProposal) (q : LFGQueue) :
    LFGQueue :=
  let toRemove := entriesToRemove (closeAnswers type proposal.players)
  (proposal.queues.filter (· ∉ toRemove)).foldl LFGQueue.addToQueue
    (toRemove.foldl (fun q guid => q.removeFromQueue view guid) q)

theorem queue_removeProposal (m : LFGMgr) (world : LfgWorld) (proposalId : Nat)
    (proposal : LfgProposal) (type : ProposalRemoval) :
    ∃ view, ∀ queueId, (m.removeProposal world proposalId proposal type).queue queueId =
      if queueId = m.proposalQueueId proposal then
        settled view type proposal (m.queue (m.proposalQueueId proposal))
      else m.queue queueId := by
  have hsame := SameLists.foldl (sameLists_notifyRemoval proposalId
    (entriesToRemove (closeAnswers type proposal.players)))
    (closeAnswers type proposal.players).entries m
  have hteams := sameTeams_notifyRemovals proposalId
    (entriesToRemove (closeAnswers type proposal.players))
    (closeAnswers type proposal.players).entries m
  have hkeys : (closeAnswers type proposal.players).keys = proposal.players.keys := by
    rw [closeAnswers, OrderedMap.keys, OrderedMap.keys, OrderedMap.mapValues, List.map_map]
    rfl
  rw [removeProposal]
  generalize (closeAnswers type proposal.players).entries.foldl _ m = t at hsame hteams ⊢
  have hid : t.getQueueId ((closeAnswers type proposal.players).keys.headD 0) =
      m.proposalQueueId proposal := by
    rw [hteams.getQueueId, hkeys, proposalQueueId]
  have hqueue : ∀ id, t.queue id = m.queue id := by
    intro id
    rw [queue, queue, hsame.queuesStore]
  refine ⟨t.view world, fun queueId => ?_⟩
  rw [hid, ← hqueue, ← hqueue]
  exact queue_modifyQueue t _ queueId (settled (t.view world) type proposal)

theorem settled_spec (view : LfgView) (type : ProposalRemoval) (proposal : LfgProposal)
    (q : LFGQueue) (entry : Guid) :
    (Fails type proposal entry →
      (settled view type proposal q).queueDataStore.contains entry = false ∧
        (settled view type proposal q).listed.count entry = 0) ∧
      (¬ Fails type proposal entry →
        (settled view type proposal q).queueDataStore.contains entry =
            q.queueDataStore.contains entry ∧
          (settled view type proposal q).listed.count entry = q.listed.count entry +
            if q.queueDataStore.contains entry then proposal.queues.count entry else 0) := by
  obtain ⟨hlisted, hstored⟩ := LFGQueue.removeAll_spec view
    (entriesToRemove (closeAnswers type proposal.players)) q entry
  rw [settled]
  generalize (entriesToRemove (closeAnswers type proposal.players)).foldl
    (fun q guid => q.removeFromQueue view guid) q = removed at hlisted hstored ⊢
  obtain ⟨hadded, hstore⟩ := LFGQueue.addAll_spec
    (proposal.queues.filter (· ∉ entriesToRemove (closeAnswers type proposal.players)))
    removed entry
  rw [hadded, hstore]
  refine ⟨fun hfails => ?_, fun hkept => ?_⟩
  · have hmem := mem_entriesToRemove.mpr hfails
    have hgone : removed.queueDataStore.contains entry = false := by
      rw [hstored, decide_eq_false (not_not.mpr hmem), Bool.false_and]
    rw [hgone, hlisted, if_pos hmem]
    exact ⟨rfl, rfl⟩
  · have hmem := mt mem_entriesToRemove.mp hkept
    have hsame : removed.queueDataStore.contains entry = q.queueDataStore.contains entry := by
      rw [hstored, decide_eq_true hmem, Bool.true_and]
    have hfilter : (proposal.queues.filter
        (· ∉ entriesToRemove (closeAnswers type proposal.players))).count entry =
          proposal.queues.count entry := List.count_filter (decide_eq_true hmem)
    rw [hsame, hlisted, if_neg hmem, hfilter]
    exact ⟨rfl, rfl⟩

/-- The states after a failed proposal. -/
theorem states_removeProposal (m : LFGMgr) {proposal : LfgProposal} (h : Live proposal)
    (world : LfgWorld) (proposalId : Nat) (type : ProposalRemoval) {entry : Guid}
    (hentry : entry ∈ proposal.queues)
    {fails : Prop} [Decidable fails] (hfails : Fails type proposal entry ↔ fails) :
    EntryStates (m.removeProposal world proposalId proposal type) proposal entry fun guid =>
      if fails then m.getOldState guid else .queued := by
  have hstate : ∀ other, (m.removeProposal world proposalId proposal type).getState other =
      ((closeAnswers type proposal.players).entries.foldl (notifyRemoval proposalId
        (entriesToRemove (closeAnswers type proposal.players))) m).getState other := fun _ => rfl
  have hentryOf : ∀ e ∈ (closeAnswers type proposal.players).entries, ∃ player,
      (e.1, player) ∈ proposal.players.entries ∧ entryOf e.1 e.2 = entryOf e.1 player := by
    intro e he
    obtain ⟨player, hplayer, heq⟩ := mem_closeAnswers.mp he
    exact ⟨player, hplayer, heq ▸ entryOf_closed type e.1 player⟩
  have hset : ∀ other, (∃ e ∈ proposal.players.entries, other = e.1 ∨ other = entryOf e.1 e.2) →
      (∀ e ∈ proposal.players.entries, other = e.1 ∨ other = entryOf e.1 e.2 →
        entryOf e.1 e.2 = entry) →
      (m.removeProposal world proposalId proposal type).getState other =
        if fails then m.getOldState other else .queued := by
    rintro other ⟨e, he, htouches⟩ hsame
    rw [hstate]
    refine state_notifyRemovals _ m ?_ (Or.inr ?_)
    · intro e' he' htouches'
      obtain ⟨player, hplayer, heq⟩ := hentryOf e' he'
      rw [heq] at htouches' ⊢
      rw [hsame _ hplayer htouches', mem_entriesToRemove, hfails]
    · refine ⟨(e.1, if type = .failed ∧ e.2.accept = .pending then { e.2 with accept := .deny }
        else e.2), mem_closeAnswers.mpr ⟨e.2, he, rfl⟩, ?_⟩
      rw [entryOf_closed]
      exact htouches
  have hgroup : ∀ e ∈ proposal.players.entries, isGroupGuid (entryOf e.1 e.2) = false →
      entryOf e.1 e.2 = e.1 := by
    intro e he hkind
    rw [entryOf] at hkind ⊢
    split
    · next hne =>
      rw [if_pos hne] at hkind
      rcases (h.kinds e he).2 with hzero | hgroup
      · exact absurd hzero hne
      · rw [hkind] at hgroup
        cases hgroup
    · rfl
  have hplayer : ∀ e ∈ proposal.players.entries, ∀ e' ∈ proposal.players.entries,
      e.1 = e'.1 ∨ e.1 = entryOf e'.1 e'.2 → e' = e := by
    intro e he e' he' htouches
    have hkey : e'.1 = e.1 := by
      rcases htouches with heq | heq
      · exact heq.symm
      · have hkind := (h.kinds e he).1
        rw [heq] at hkind
        rw [heq, hgroup e' he' hkind]
    have hfind := OrderedMap.find?_eq_some_iff.mpr he
    have hfind' := OrderedMap.find?_eq_some_iff.mpr he'
    rw [hkey] at hfind'
    exact Prod.ext hkey (Option.some.inj (hfind'.symm.trans hfind))
  constructor
  · obtain ⟨e, he, heq⟩ := h.filled entry hentry
    refine hset entry ⟨e, he, Or.inr heq.symm⟩ ?_
    intro e' he' htouches
    rcases htouches with hkey | hof
    · have hkind : isGroupGuid (entryOf e.1 e.2) = false := by
        rw [heq, hkey]
        exact (h.kinds e' he').1
      have hown := hgroup e he hkind
      rw [hplayer e he e' he' (Or.inl (hown.symm.trans (heq.trans hkey))), heq]
    · exact hof.symm
  · intro e he heq
    refine hset e.1 ⟨e, he, Or.inl rfl⟩ ?_
    intro e' he' htouches
    rw [hplayer e he e' he' htouches, heq]

theorem erased_removeProposal (m : LFGMgr) (world : LfgWorld) (proposalId : Nat)
    (proposal : LfgProposal) (type : ProposalRemoval) :
    (m.removeProposal world proposalId proposal type).proposalsStore.contains proposalId =
      false := by
  rw [removeProposal]
  dsimp only
  rw [OrderedMap.contains_erase, decide_eq_false (not_not.mpr rfl), Bool.false_and]

/-- A failed proposal is taken apart rightly just when its entries wait in it only. -/
theorem conserved_iff {m : LFGMgr} {proposal : LfgProposal} (h : Live proposal) (world : LfgWorld)
    (proposalId : Nat) (type : ProposalRemoval) :
    m.Conserved (m.removeProposal world proposalId proposal type) proposalId proposal type ↔
      m.WaitsInProposal proposal type := by
  obtain ⟨view, hqueue⟩ := m.queue_removeProposal world proposalId proposal type
  constructor
  · rintro ⟨-, hremoved, hkept⟩
    refine ⟨?_, ?_⟩
    · intro entry hentry hfails queueId hother
      have hgone := (hremoved entry hentry hfails).1 queueId
      rwa [hqueue, if_neg hother] at hgone
    · intro entry hentry hstays
      obtain ⟨⟨hstored, hlisted⟩, -⟩ := hkept entry hentry hstays
      have hsettled := (settled_spec view type proposal
        (m.queue (m.proposalQueueId proposal)) entry).2 hstays
      have hone := hlisted (m.proposalQueueId proposal)
      rw [hqueue, if_pos rfl] at hstored hone
      rw [if_pos rfl, hsettled.2, ← hsettled.1, hstored, if_pos rfl] at hone
      have hpos : 0 < proposal.queues.count entry := List.count_pos_iff.mpr hentry
      refine ⟨hsettled.1 ▸ hstored, by omega, fun queueId => ?_⟩
      by_cases hown : queueId = m.proposalQueueId proposal
      · subst hown
        omega
      · have hnone := hlisted queueId
        rwa [hqueue, if_neg hown, if_neg hown] at hnone
  · rintro ⟨hremoved, hkept⟩
    refine ⟨m.erased_removeProposal world proposalId proposal type, ?_, ?_⟩
    · intro entry hentry hfails
      refine ⟨fun queueId => ?_, ?_⟩
      · rw [hqueue]
        split
        · exact (settled_spec view type proposal _ entry).1 hfails
        · next hother => exact hremoved entry hentry hfails queueId hother
      · exact m.states_removeProposal h world proposalId type hentry (iff_true_intro hfails)
    · intro entry hentry hstays
      obtain ⟨hstored, hone, hnone⟩ := hkept entry hentry hstays
      obtain ⟨hdata, hcount⟩ := (settled_spec view type proposal
        (m.queue (m.proposalQueueId proposal)) entry).2 hstays
      refine ⟨⟨?_, fun queueId => ?_⟩, ?_⟩
      · rw [hqueue, if_pos rfl, hdata, hstored]
      · rw [hqueue]
        split
        · rw [hcount, hstored, if_pos rfl, hone, hnone]
        · exact hnone queueId
      · exact m.states_removeProposal h world proposalId type hentry (iff_false_intro hstays)

/-- A group of four and a player are proposed together. -/
def proposedCalls : List (LfgWorld × Action) :=
  [joinParty, chooseRole 2 playerRoleHealer, chooseRole 3 playerRoleDamage,
    chooseRole 4 playerRoleDamage, joinAlone 5 playerRoleDamage, updateAll]

/-- The proposal after a player has declined it. -/
def declinedBy (m : LFGMgr) (guid : Guid) : LfgProposal :=
  answer ((m.proposalsStore.find? 2).getD ⟨0, .initiating, 0, 0, 0, true, [], .empty⟩) guid .deny

instance (type : ProposalRemoval) (proposal : LfgProposal) (entry : Guid) :
    Decidable (Fails type proposal entry) :=
  inferInstanceAs (Decidable (∃ e ∈ proposal.players.entries, _ ∧ _))

theorem queue_of_keys {m : LFGMgr} (hkeys : m.queuesStore.keys = [0]) {queueId : Nat}
    (hother : queueId ≠ 0) : m.queue queueId = LFGQueue.empty := by
  rw [queue]
  cases hfind : m.queuesStore.find? queueId with
  | none => rfl
  | some q =>
    have hmem := OrderedMap.mem_keys.mpr (OrderedMap.contains_of_find? hfind)
    rw [hkeys, List.mem_singleton] at hmem
    exact absurd hmem hother

/-- What is found in the queue are the party and the player. -/
theorem allLive_proposed :
    (Runs.run LFGMgr.step LFGMgr.empty proposedCalls).AllLive ∧
      (Runs.run LFGMgr.step LFGMgr.empty
        (proposedCalls ++ [joinAlone 5 playerRoleDamage])).AllLive := by
  have hsmall : oneDungeon.SmallGroups := by
    intro dungeonId dungeon hknown
    rw [oneDungeon] at hknown
    dsimp only at hknown
    split at hknown
    · obtain rfl := Option.some.inj hknown
      decide
    · cases hknown
  have hpeopled : ∀ queueId,
      (((Runs.run LFGMgr.step LFGMgr.empty (proposedCalls.take 5)).removeOverdue oneDungeon).queue
        queueId).Peopled := by
    generalize hm : (Runs.run LFGMgr.step LFGMgr.empty (proposedCalls.take 5)).removeOverdue
      oneDungeon = m
    have hkeys : m.queuesStore.keys = [0] := by
      subst hm
      decide +kernel
    intro queueId
    refine LFGQueue.peopled_of_entries ?_
    by_cases hother : queueId = 0
    · subst hother hm
      decide +kernel
    · rw [queue_of_keys hkeys hother]
      exact fun _ h => nomatch h
  have hrun : Runs.Admissible LFGMgr.step SearchesPeople LFGMgr.empty
      (proposedCalls ++ [joinAlone 5 playerRoleDamage]) :=
    ⟨trivial, trivial, trivial, trivial, trivial, ⟨hsmall, hpeopled⟩, trivial, trivial⟩
  exact ⟨live_of_run hrun.append_left, live_of_run hrun⟩

theorem AllLive.declinedBy {m : LFGMgr} (h : m.AllLive)
    (hstored : (m.proposalsStore.find? 2).isSome = true) (guid : Guid) :
    Live (m.declinedBy guid) := by
  obtain ⟨proposal, hfind⟩ := Option.isSome_iff_exists.mp hstored
  rw [LFGMgr.declinedBy, hfind]
  exact (h 2 proposal hfind).answered guid .deny

/-- One of the group declines, and the player is put back. -/
theorem conserved_proposed :
    (Runs.run LFGMgr.step LFGMgr.empty proposedCalls).Conserved
      ((Runs.run LFGMgr.step LFGMgr.empty proposedCalls).removeProposal oneDungeon 2
        ((Runs.run LFGMgr.step LFGMgr.empty proposedCalls).declinedBy 1) .declined) 2
      ((Runs.run LFGMgr.step LFGMgr.empty proposedCalls).declinedBy 1) .declined := by
  have hlive : Live ((Runs.run LFGMgr.step LFGMgr.empty proposedCalls).declinedBy 1) :=
    allLive_proposed.1.declinedBy (by decide +kernel) 1
  refine (conserved_iff hlive oneDungeon 2 .declined).mpr ?_
  generalize hm : Runs.run LFGMgr.step LFGMgr.empty proposedCalls = m
  have hkeys : m.queuesStore.keys = [0] := by
    subst hm
    decide +kernel
  have hown : m.proposalQueueId (m.declinedBy 1) = 0 := by
    subst hm
    decide +kernel
  have hkept : ∀ entry ∈ (m.declinedBy 1).queues, ¬ Fails .declined (m.declinedBy 1) entry →
      (m.queue 0).queueDataStore.contains entry = true ∧
        (m.declinedBy 1).queues.count entry = 1 ∧ (m.queue 0).listed.count entry = 0 := by
    subst hm
    decide +kernel
  refine ⟨?_, ?_⟩
  · intro entry hentry hfails queueId hother
    rw [hown] at hother
    rw [queue_of_keys hkeys hother]
    exact ⟨rfl, rfl⟩
  · intro entry hentry hstays
    obtain ⟨hstored, hone, hnone⟩ := hkept entry hentry hstays
    rw [hown]
    refine ⟨hstored, hone, fun queueId => ?_⟩
    by_cases hother : queueId = 0
    · rw [hother]
      exact hnone
    · rw [queue_of_keys hkeys hother]
      rfl

/-- The player joins again before one of the group declines, and waits twice afterwards. -/
theorem rejoined_waits_twice :
    ¬ ∀ (m : LFGMgr) (world : LfgWorld) (proposalId : Nat) (proposal : LfgProposal)
      (type : ProposalRemoval), Live proposal →
        m.Conserved (m.removeProposal world proposalId proposal type) proposalId proposal type := by
  intro h
  have hlive : Live ((Runs.run LFGMgr.step LFGMgr.empty
      (proposedCalls ++ [joinAlone 5 playerRoleDamage])).declinedBy 1) :=
    allLive_proposed.2.declinedBy (by decide +kernel) 1
  have hconserved := h (Runs.run LFGMgr.step LFGMgr.empty
    (proposedCalls ++ [joinAlone 5 playerRoleDamage])) oneDungeon 2 _ .declined hlive
  generalize hm : Runs.run LFGMgr.step LFGMgr.empty
    (proposedCalls ++ [joinAlone 5 playerRoleDamage]) = m at hconserved
  have hentry : 5 ∈ (m.declinedBy 1).queues := by
    subst hm
    decide +kernel
  have hstays : ¬ Fails .declined (m.declinedBy 1) 5 := by
    subst hm
    decide +kernel
  have htwice : ((m.removeProposal oneDungeon 2 (m.declinedBy 1) .declined).queue
      (m.proposalQueueId (m.declinedBy 1))).listed.count 5 = 2 := by
    subst hm
    decide +kernel
  have hone := (hconserved.kept 5 hentry hstays).1.2 (m.proposalQueueId (m.declinedBy 1))
  rw [htwice, if_pos rfl] at hone
  cases hone

end LFGMgr

end Cataclysm.Lfg
