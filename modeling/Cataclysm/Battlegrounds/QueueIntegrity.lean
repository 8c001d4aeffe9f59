import Cataclysm.Battlegrounds.BattlegroundQueue
import Cataclysm.Lib.Runs

/-!
# Integrity of a battleground queue

The two maps of a queue agree, and the lists hold every group that has players exactly once
and no group that is gone. A player who leaves a rated group that is not invited takes the
whole group out of the queue.

## Implementation notes

`RemovePlayer` looks for a group where its flags say it must be, and the matching of rated
teams relies on the faction of a team being the faction of its list. `Arranged` states both.
Between the moves and the invitations of a match the faction of the two teams is not yet that
of their list; `Arranged` takes the set of groups that are excused.
-/

namespace Cataclysm.Battlegrounds

namespace BattlegroundQueue

/-- The queue is consistent. -/
structure Integrity (q : BattlegroundQueue) : Prop where
  queued_iff : ∀ p g, q.queuedPlayers.find? p = some g ↔
    ∃ group, q.groups.find? g = some group ∧ group.players.contains p = true
  listed : ∀ g group, q.groups.find? g = some group → group.size ≠ 0 →
    ∃! place, g ∈ q.queuedGroups place
  once : ∀ place, (q.queuedGroups place).Nodup
  live : ∀ place g, g ∈ q.queuedGroups place → q.groups.contains g = true

/-- The invariant of a queue, with some groups excused from being on the side of their list. -/
structure Arranged (excused : Set Nat) (q : BattlegroundQueue) : Prop where
  queued_iff : ∀ p g, q.queuedPlayers.find? p = some g ↔
    ∃ group, q.groups.find? g = some group ∧ group.players.contains p = true
  listed : ∀ g group, q.groups.find? g = some group → ∃ place, g ∈ q.queuedGroups place
  unique : ∀ g place place', g ∈ q.queuedGroups place → g ∈ q.queuedGroups place' → place = place'
  once : ∀ place, (q.queuedGroups place).Nodup
  searched : ∀ place g, g ∈ q.queuedGroups place →
    ∃ group, q.groups.find? g = some group ∧ place.2 ∈ group.searchedTypes
  sided : ∀ bracket team g group, g ∈ q.queuedGroups (bracket, .premade team) → g ∉ excused →
    q.groups.find? g = some group → group.team = team
  fresh : ∀ g group, q.groups.find? g = some group → g < q.nextGroup

/-- Between two calls no group is excused. -/
abbrev Invariant (q : BattlegroundQueue) : Prop := q.Arranged ∅

variable {excused : Set Nat} {q : BattlegroundQueue}

variable {excused' : Set Nat}

theorem Arranged.integrity (h : q.Arranged excused) : q.Integrity where
  queued_iff := h.queued_iff
  listed := by
    intro g group hfind _
    obtain ⟨place, hplace⟩ := h.listed g group hfind
    exact ⟨place, hplace, fun place' hplace' => h.unique g place' place hplace' hplace⟩
  once := h.once
  live := by
    intro place g hg
    obtain ⟨group, hfind, -⟩ := h.searched place g hg
    exact OrderedMap.contains_of_find? hfind

theorem Arranged.mono (h : q.Arranged excused) (hsub : excused ⊆ excused') : q.Arranged excused' :=
  { h with sided := fun bracket team g group hg hex =>
      h.sided bracket team g group hg fun hin => hex (hsub hin) }

theorem invariant_empty : empty.Invariant where
  queued_iff := by
    intro p g
    simp [empty]
  listed := by
    intro g group hfind
    cases hfind
  unique := by
    intro g place place' hg
    cases hg
  once := fun _ => List.nodup_nil
  searched := by
    intro place g hg
    cases hg
  sided := by
    intro bracket team g group hg
    cases hg
  fresh := by
    intro g group hfind
    cases hfind

/-! ### Changes of a group -/

variable {f : GroupQueueInfo → GroupQueueInfo} {g g' : Nat} {group : GroupQueueInfo}

/-- What a change of a group must leave as it is. -/
structure Keeps (f : GroupQueueInfo → GroupQueueInfo) : Prop where
  players : ∀ group, (f group).players = group.players
  isRated : ∀ group, (f group).isRated = group.isRated
  arenaType : ∀ group, (f group).arenaType = group.arenaType

theorem Keeps.searchedTypes (hf : Keeps f) (group : GroupQueueInfo) :
    (f group).searchedTypes = group.searchedTypes := by
  rw [GroupQueueInfo.searchedTypes, hf.isRated, hf.arenaType, GroupQueueInfo.searchedTypes]

theorem find?_modifyGroup (q : BattlegroundQueue) (g g' : Nat)
    (f : GroupQueueInfo → GroupQueueInfo) :
    (q.modifyGroup g f).groups.find? g' =
      (q.groups.find? g').map (if g' = g then f else id) := by
  unfold modifyGroup
  split
  · next group hfind =>
      rw [OrderedMap.find?_insert]
      by_cases heq : g' = g
      · rw [if_pos heq, if_pos heq, heq, hfind]
        rfl
      · rw [if_neg heq, if_neg heq, Option.map_id]
        rfl
  · next hnone =>
      by_cases heq : g' = g
      · rw [heq, hnone]
        rfl
      · rw [if_neg heq, Option.map_id]
        rfl

theorem queuedGroups_modifyGroup (q : BattlegroundQueue) (g : Nat)
    (f : GroupQueueInfo → GroupQueueInfo) :
    (q.modifyGroup g f).queuedGroups = q.queuedGroups := by
  unfold modifyGroup
  split <;> rfl

theorem queuedPlayers_modifyGroup (q : BattlegroundQueue) (g : Nat)
    (f : GroupQueueInfo → GroupQueueInfo) :
    (q.modifyGroup g f).queuedPlayers = q.queuedPlayers := by
  unfold modifyGroup
  split <;> rfl

theorem nextGroup_modifyGroup (q : BattlegroundQueue) (g : Nat)
    (f : GroupQueueInfo → GroupQueueInfo) :
    (q.modifyGroup g f).nextGroup = q.nextGroup := by
  unfold modifyGroup
  split <;> rfl

/-- The group after a change is the group before it up to what `Keeps` allows. -/
theorem exists_find?_of_modifyGroup (hf : Keeps f)
    (hfind : (q.modifyGroup g f).groups.find? g' = some group) :
    ∃ before, q.groups.find? g' = some before ∧ group.players = before.players ∧
      group.searchedTypes = before.searchedTypes ∧
      group.team = if g' = g then (f before).team else before.team := by
  rw [find?_modifyGroup, Option.map_eq_some_iff] at hfind
  obtain ⟨before, hbefore, rfl⟩ := hfind
  refine ⟨before, hbefore, ?_⟩
  by_cases heq : g' = g
  · simp [heq, hf.players, hf.searchedTypes]
  · simp [heq]

theorem exists_find?_modifyGroup (hf : Keeps f) {before : GroupQueueInfo}
    (hfind : q.groups.find? g' = some before) :
    ∃ group, (q.modifyGroup g f).groups.find? g' = some group ∧ group.players = before.players ∧
      group.searchedTypes = before.searchedTypes := by
  refine ⟨(if g' = g then f else id) before, ?_, ?_⟩
  · rw [find?_modifyGroup, hfind]
    rfl
  · by_cases heq : g' = g
    · simp [heq, hf.players, hf.searchedTypes]
    · simp [heq]

/-- A group may change if it ends on the side of its list or is excused afterwards. -/
theorem Arranged.modifyGroup (h : q.Arranged excused) (hf : Keeps f)
    (hothers : ∀ g', g' ≠ g → g' ∈ excused → g' ∈ excused')
    (hside : g ∉ excused' → ∀ bracket team group, g ∈ q.queuedGroups (bracket, .premade team) →
      q.groups.find? g = some group → (f group).team = team) :
    (q.modifyGroup g f).Arranged excused' where
  queued_iff := by
    intro p g'
    rw [queuedPlayers_modifyGroup, h.queued_iff]
    constructor
    · rintro ⟨before, hbefore, hp⟩
      obtain ⟨group, hgroup, hplayers, -⟩ := exists_find?_modifyGroup (g := g) hf hbefore
      exact ⟨group, hgroup, hplayers ▸ hp⟩
    · rintro ⟨group, hgroup, hp⟩
      obtain ⟨before, hbefore, hplayers, -⟩ := exists_find?_of_modifyGroup hf hgroup
      exact ⟨before, hbefore, hplayers ▸ hp⟩
  listed := by
    intro g' group hgroup
    obtain ⟨before, hbefore, -⟩ := exists_find?_of_modifyGroup hf hgroup
    rw [queuedGroups_modifyGroup]
    exact h.listed g' before hbefore
  unique := by
    rw [queuedGroups_modifyGroup]
    exact h.unique
  once := by
    rw [queuedGroups_modifyGroup]
    exact h.once
  searched := by
    intro place g' hg'
    rw [queuedGroups_modifyGroup] at hg'
    obtain ⟨before, hbefore, htype⟩ := h.searched place g' hg'
    obtain ⟨group, hgroup, -, htypes⟩ := exists_find?_modifyGroup (g := g) hf hbefore
    exact ⟨group, hgroup, htypes ▸ htype⟩
  sided := by
    intro bracket team g' group hg' hex hgroup
    rw [queuedGroups_modifyGroup] at hg'
    obtain ⟨before, hbefore, -, -, hteam⟩ := exists_find?_of_modifyGroup hf hgroup
    rw [hteam]
    split
    · next heq =>
        subst heq
        exact hside hex bracket team before hg' hbefore
    · next hne =>
        exact h.sided bracket team g' before hg' (fun hin => hex (hothers g' hne hin)) hbefore
  fresh := by
    intro g' group hgroup
    obtain ⟨before, hbefore, -⟩ := exists_find?_of_modifyGroup hf hgroup
    rw [nextGroup_modifyGroup]
    exact h.fresh g' before hbefore

/-! ### Moves between lists -/

variable {place : Place}

theorem mem_moveFront {source target : Place} (hne : source ≠ target)
    (hnodup : (q.queuedGroups source).Nodup) :
    g' ∈ (q.moveFront g source target).queuedGroups place ↔
      (if g' = g then place = target ∨ place ≠ source ∧ g ∈ q.queuedGroups place
        else g' ∈ q.queuedGroups place) := by
  simp only [moveFront]
  rw [Function.update_of_ne hne]
  by_cases hsource : place = source
  · subst hsource
    rw [Function.update_self, hnodup.mem_erase_iff]
    by_cases heq : g' = g
    · simp [heq, hne]
    · simp [heq]
  · rw [Function.update_of_ne hsource]
    by_cases htarget : place = target
    · subst htarget
      rw [Function.update_self, List.mem_cons]
      by_cases heq : g' = g
      · simp [heq]
      · simp [heq]
    · rw [Function.update_of_ne htarget]
      by_cases heq : g' = g
      · simp [heq, htarget, hsource]
      · simp [heq]

/-- A group moves to the front of another list that `RemovePlayer` searches. -/
theorem Arranged.moveFront (h : q.Arranged excused) {source target : Place}
    (hne : source ≠ target) (hg : g ∈ q.queuedGroups source) (hsub : excused ⊆ excused')
    (hsearched : ∀ group, q.groups.find? g = some group → target.2 ∈ group.searchedTypes)
    (hside : g ∈ excused' ∨ ∀ team, target.2 ≠ .premade team) :
    (q.moveFront g source target).Arranged excused' := by
  have hmem : ∀ {g' place}, g' ∈ (q.moveFront g source target).queuedGroups place ↔
      (if g' = g then place = target else g' ∈ q.queuedGroups place) := by
    intro g' place
    rw [mem_moveFront hne (h.once source)]
    by_cases heq : g' = g
    · rw [if_pos heq, if_pos heq]
      constructor
      · rintro (htarget | ⟨hother, hplace⟩)
        · exact htarget
        · exact absurd (h.unique g place source hplace hg) hother
      · exact Or.inl
    · rw [if_neg heq, if_neg heq]
  constructor
  · exact h.queued_iff
  · intro g' group hfind
    by_cases heq : g' = g
    · exact ⟨target, hmem.mpr (by rw [if_pos heq])⟩
    · obtain ⟨place, hplace⟩ := h.listed g' group hfind
      exact ⟨place, hmem.mpr (by rwa [if_neg heq])⟩
  · intro g' place place' hplace hplace'
    rw [hmem] at hplace hplace'
    split at hplace
    · next heq =>
        rw [if_pos heq] at hplace'
        rw [hplace, hplace']
    · next heq =>
        rw [if_neg heq] at hplace'
        exact h.unique g' place place' hplace hplace'
  · intro place
    simp only [BattlegroundQueue.moveFront]
    rw [Function.update_of_ne hne]
    by_cases hsource : place = source
    · subst hsource
      rw [Function.update_self]
      exact (h.once place).erase g
    · rw [Function.update_of_ne hsource]
      by_cases htarget : place = target
      · subst htarget
        rw [Function.update_self]
        exact List.nodup_cons.mpr
          ⟨fun hplace => hne (h.unique g source place hg hplace), h.once place⟩
      · rw [Function.update_of_ne htarget]
        exact h.once place
  · intro place g' hg'
    rw [hmem] at hg'
    split at hg'
    · next heq =>
        subst heq
        obtain ⟨group, hfind, -⟩ := h.searched source g' hg
        rw [hg']
        exact ⟨group, hfind, hsearched group hfind⟩
    · exact h.searched place g' hg'
  · intro bracket team g' group hg' hex hfind
    rw [hmem] at hg'
    split at hg'
    · next heq =>
        subst heq
        obtain hin | hpremade := hside
        · exact absurd hin hex
        · exact absurd (congrArg Prod.snd hg').symm (hpremade team)
    · exact h.sided bracket team g' group hg' (fun hin => hex (hsub hin)) hfind
  · exact h.fresh

/-! ### Invitations -/

theorem keeps_invite (instanceId : Nat) (side : Team) :
    Keeps fun group => { group with
      team := side
      isInvitedToBGInstanceGUID :=
        if group.isInvited then group.isInvitedToBGInstanceGUID else instanceId } :=
  ⟨fun _ => rfl, fun _ => rfl, fun _ => rfl⟩

theorem Arranged.inviteSelected (h : q.Invariant) (selected : List Nat) (instanceId : Nat) :
    (q.inviteSelected selected instanceId).Invariant := by
  induction selected generalizing q with
  | nil => exact h
  | cons g rest ih =>
    rw [BattlegroundQueue.inviteSelected, List.foldl_cons]
    apply ih
    split
    · next group hfind =>
        refine h.modifyGroup (keeps_invite instanceId group.team) (fun _ _ hin => hin) ?_
        intro hex bracket team group' hg hfind'
        cases hfind.symm.trans hfind'
        exact h.sided bracket team g group hg hex hfind
    · exact h

theorem Arranged.inviteSelectedPools (h : q.Invariant) (pools : Pools) (instanceId : Nat) :
    (q.inviteSelectedPools pools instanceId).Invariant :=
  (h.inviteSelected _ instanceId).inviteSelected _ instanceId

theorem mixed_ne_premade (team : Team) : GroupType.mixed ≠ GroupType.premade team := by
  cases team with
  | alliance => exact fun heq => GroupType.noConfusion heq
  | horde => exact fun heq => GroupType.noConfusion heq

theorem normal_ne_premade (team team' : Team) :
    GroupType.normal team ≠ GroupType.premade team' := by
  cases team with
  | alliance => cases team' <;> exact fun heq => GroupType.noConfusion heq
  | horde => cases team' <;> exact fun heq => GroupType.noConfusion heq

theorem Arranged.setTeams (h : q.Invariant) (bracket : Bracket) (teams : List (Nat × Team)) :
    (q.setTeams bracket teams).Invariant := by
  induction teams generalizing q with
  | nil => exact h
  | cons choice rest ih =>
    rw [BattlegroundQueue.setTeams, List.foldl_cons]
    apply ih
    split
    · next hmixed =>
        refine h.modifyGroup ⟨fun _ => rfl, fun _ => rfl, fun _ => rfl⟩ (fun _ _ hin => hin) ?_
        intro _ bracket' team group hpremade _
        have hplace := h.unique _ _ _ hmixed hpremade
        exact absurd (congrArg Prod.snd hplace) (mixed_ne_premade team)
    · exact h

theorem Arranged.fillPlayersToBG (h : q.Invariant) (bracket : Bracket) (instanceId : Nat)
    (selection : Selection) : (q.fillPlayersToBG bracket instanceId selection).Invariant :=
  (h.setTeams bracket selection.teams).inviteSelected _ instanceId

/-! ### Premade groups and skirmishes -/

/-- A group outside of the list for rated battlegrounds is searched in all other lists. -/
theorem searchedTypes_of_mem {type : GroupType} (h : type ∈ group.searchedTypes)
    (hne : type ≠ .rbg) : group.searchedTypes = GroupType.normalTypes := by
  rw [GroupQueueInfo.searchedTypes] at h ⊢
  split
  · rfl
  · next hno =>
      rw [if_neg hno, List.mem_singleton] at h
      exact absurd h hne

theorem premade_mem_normalTypes (team : Team) : GroupType.premade team ∈ GroupType.normalTypes := by
  cases team <;> simp [GroupType.premade, GroupType.normalTypes]

theorem normal_mem_normalTypes (team : Team) : GroupType.normal team ∈ GroupType.normalTypes := by
  cases team <;> simp [GroupType.normal, GroupType.normalTypes]

theorem ne_rbg_of_mem {type : GroupType} (h : type ∈ GroupType.normalTypes) : type ≠ .rbg := by
  rintro rfl
  simp [GroupType.normalTypes] at h

/-- A group that stands in one of the lists that are not for rated battlegrounds may stand in
any other of these. -/
theorem Arranged.searched_move (h : q.Arranged excused) (hg : g ∈ q.queuedGroups place)
    (hplace : place.2 ∈ GroupType.normalTypes) {type : GroupType}
    (htype : type ∈ GroupType.normalTypes) :
    ∀ group, q.groups.find? g = some group → type ∈ group.searchedTypes := by
  intro group hfind
  obtain ⟨group', hfind', hsearched⟩ := h.searched place g hg
  cases hfind.symm.trans hfind'
  rw [searchedTypes_of_mem hsearched (ne_rbg_of_mem hplace)]
  exact htype

theorem Arranged.movePremade (h : q.Invariant) (bracket : Bracket)
    (minPlayersPerTeam timeBefore : Nat) (team : Team) :
    (q.movePremade bracket minPlayersPerTeam timeBefore team).Invariant := by
  unfold BattlegroundQueue.movePremade
  split
  · exact h
  · next g rest hlist =>
      have hg : g ∈ q.queuedGroups (bracket, .premade team) := by
        rw [hlist]
        exact List.mem_cons_self
      split
      · exact h
      · split
        · refine h.moveFront ?_ hg (fun _ hin => hin) ?_ (Or.inr (normal_ne_premade team))
          · exact fun heq => normal_ne_premade team team (congrArg Prod.snd heq).symm
          · exact h.searched_move hg (premade_mem_normalTypes team) (normal_mem_normalTypes team)
        · exact h

theorem Arranged.checkPremadeMatch (h : q.Invariant) (args : UpdateArgs) (minPlayers : Nat)
    (maxPlayers : Nat) : (q.checkPremadeMatch args minPlayers maxPlayers).1.Invariant := by
  unfold BattlegroundQueue.checkPremadeMatch
  dsimp only
  split
  · exact h
  · exact (h.movePremade _ _ _ _).movePremade _ _ _ _

namespace SelectionPool

/-- A pool grows by groups of the list, in their order. -/
theorem fill_selectedGroups (q : BattlegroundQueue) (desiredCount : Nat) (list : List Nat)
    (pool : SelectionPool) :
    ∃ added, added.Sublist list ∧
      (fill q desiredCount list pool).selectedGroups = pool.selectedGroups ++ added := by
  induction list generalizing pool with
  | nil => exact ⟨[], List.Sublist.refl _, (List.append_nil _).symm⟩
  | cons g rest ih =>
    rw [fill]
    split
    · obtain ⟨added, hsub, hadded⟩ := ih pool
      exact ⟨added, hsub.cons g, hadded⟩
    · have hpool : (pool.addGroup q g desiredCount).1.selectedGroups = pool.selectedGroups ∨
          (pool.addGroup q g desiredCount).1.selectedGroups = pool.selectedGroups ++ [g] := by
        unfold addGroup
        split
        · exact Or.inl rfl
        · split
          · exact Or.inr rfl
          · exact Or.inl rfl
      split
      · next pool' hadd =>
          rw [hadd] at hpool
          obtain ⟨added, hsub, hadded⟩ := ih pool'
          obtain hsame | hnew := hpool
          · exact ⟨added, hsub.cons g, hadded.trans (congrArg (· ++ added) hsame)⟩
          · refine ⟨g :: added, hsub.cons_cons g, hadded.trans ?_⟩
            rw [hnew, List.append_assoc]
            rfl
      · next pool' hadd =>
          rw [hadd] at hpool
          obtain hsame | hnew := hpool
          · exact ⟨[], List.nil_sublist _, hsame.trans (List.append_nil _).symm⟩
          · exact ⟨[g], List.Sublist.cons_cons g (List.nil_sublist rest), hnew⟩

end SelectionPool

variable {team : Team} {bracket : Bracket}

theorem other_ne (team : Team) : team.other ≠ team := by
  cases team <;> exact fun heq => Team.noConfusion heq

theorem normal_injective {team' : Team} (h : GroupType.normal team = GroupType.normal team') :
    team = team' := by
  cases team <;> cases team' <;> first | rfl | exact GroupType.noConfusion h

/-- The two normal lists of a bracket are different lists. -/
theorem normal_place_ne (bracket : Bracket) (team : Team) :
    ((bracket, .normal team) : Place) ≠ (bracket, .normal team.other) :=
  fun heq => other_ne team (normal_injective (congrArg Prod.snd heq)).symm

theorem Arranged.changeTeam (h : q.Invariant) (hg : g ∈ q.queuedGroups (bracket, .normal team)) :
    (q.changeTeam bracket team g).Invariant := by
  have hmodified : (q.modifyGroup g fun group => { group with team := team.other }).Invariant := by
    refine h.modifyGroup ⟨fun _ => rfl, fun _ => rfl, fun _ => rfl⟩ (fun _ _ hin => hin) ?_
    intro _ bracket' team' group hpremade _
    have hplace := h.unique _ _ _ hg hpremade
    exact absurd (congrArg Prod.snd hplace) (normal_ne_premade team team')
  have hg' := hg
  rw [← queuedGroups_modifyGroup q g fun group => { group with team := team.other }] at hg'
  exact hmodified.moveFront (normal_place_ne bracket team) hg' (fun _ hin => hin)
    (hmodified.searched_move hg' (normal_mem_normalTypes team) (normal_mem_normalTypes team.other))
    (Or.inr (normal_ne_premade team.other))

theorem mem_changeTeam (h : q.Invariant) (hne : g' ≠ g) (hg' : g' ∈ q.queuedGroups place) :
    g' ∈ (q.changeTeam bracket team g).queuedGroups place := by
  have hlists := queuedGroups_modifyGroup q g fun group => { group with team := team.other }
  rw [BattlegroundQueue.changeTeam, mem_moveFront (normal_place_ne bracket team), if_neg hne, hlists]
  · exact hg'
  · rw [hlists]
    exact h.once _

/-- All selected groups of a normal list change the team. -/
theorem Arranged.foldl_changeTeam (h : q.Invariant) {selected : List Nat}
    (hnodup : selected.Nodup) (hmem : ∀ g ∈ selected, g ∈ q.queuedGroups (bracket, .normal team)) :
    (selected.foldl (fun q g => q.changeTeam bracket team g) q).Invariant := by
  induction selected generalizing q with
  | nil => exact h
  | cons g rest ih =>
    obtain ⟨hg, hrest⟩ := List.nodup_cons.mp hnodup
    apply ih (h.changeTeam (hmem g List.mem_cons_self)) hrest
    intro g' hg'
    apply mem_changeTeam h
    · rintro rfl
      exact hg hg'
    · exact hmem g' (List.mem_cons_of_mem g hg')

theorem Arranged.checkSkirmishForSameFaction (h : q.Invariant) (bracket : Bracket)
    (minPlayersPerTeam : Nat) (pools : Pools) :
    (q.checkSkirmishForSameFaction bracket minPlayersPerTeam pools).1.Invariant := by
  unfold BattlegroundQueue.checkSkirmishForSameFaction
  split
  · exact h
  · dsimp only
    generalize (if (pools .horde).playerCount = minPlayersPerTeam then Team.horde
      else Team.alliance) = team
    split
    · exact h
    · next ginfo _ =>
        split
        · exact h
        · obtain ⟨added, hsub, hadded⟩ := SelectionPool.fill_selectedGroups q minPlayersPerTeam
            ((q.queuedGroups (bracket, .normal team)).dropWhile (· ≠ ginfo)).tail .init
          have hlist : added.Sublist (q.queuedGroups (bracket, .normal team)) :=
            hsub.trans ((List.tail_sublist _).trans (List.dropWhile_sublist _))
          rw [hadded]
          exact h.foldl_changeTeam ((h.once _).sublist hlist) fun g hg => hlist.subset hg

/-! ### Rated matches -/

variable {args : UpdateArgs} {s : Matching}

/-- The group stands in one of the two premade lists of the bracket. -/
def OnSides (q : BattlegroundQueue) (bracket : Bracket) (g : Nat) : Prop :=
  ∃ team, g ∈ q.queuedGroups (bracket, .premade team)

theorem eq_other_of_ne {side : Team} (h : team ≠ side) : team = side.other := by
  cases team <;> cases side <;> first | rfl | exact absurd rfl h

theorem premade_place_ne (bracket : Bracket) (side : Team) :
    ((bracket, .premade side.other) : Place) ≠ (bracket, .premade side) := by
  intro heq
  have htype : GroupType.premade side.other = GroupType.premade side := congrArg Prod.snd heq
  cases side <;> exact GroupType.noConfusion htype

theorem keeps_widened (c : GroupQueueInfo → Prop) [DecidablePred c] :
    Keeps fun group => if c group then group.increaseTeamMMrRange else group := by
  refine ⟨fun group => ?_, fun group => ?_, fun group => ?_⟩ <;> (split <;> rfl)

theorem team_widened (c : Prop) [Decidable c] (group : GroupQueueInfo) :
    (if c then group.increaseTeamMMrRange else group).team = group.team := by
  split <;> rfl

theorem Arranged.widenRange (h : q.Invariant) (args : UpdateArgs) (g : Nat) :
    (q.widenRange args g).Invariant := by
  rw [BattlegroundQueue.widenRange]
  refine h.modifyGroup (keeps_widened _) (fun _ _ hin => hin) ?_
  intro hex bracket team group hg hfind
  rw [team_widened]
  exact h.sided bracket team g group hg hex hfind

/-- A team that has to change its side moves to the list of that side. -/
theorem Arranged.joinSide (h : q.Arranged excused) (side : Team)
    (hg : g ∈ q.queuedGroups (bracket, .premade team)) :
    let q' := if team ≠ side then
      q.moveFront g (bracket, .premade side.other) (bracket, .premade side) else q
    q'.Arranged (insert g excused) ∧ g ∈ q'.queuedGroups (bracket, .premade side) ∧
      ∀ g' place, g' ≠ g → (g' ∈ q'.queuedGroups place ↔ g' ∈ q.queuedGroups place) := by
  dsimp only
  split
  · next hne =>
      rw [eq_other_of_ne hne] at hg
      have hplace := premade_place_ne bracket side
      refine ⟨?_, ?_, ?_⟩
      · exact h.moveFront hplace hg (Set.subset_insert g excused)
          (h.searched_move hg (premade_mem_normalTypes side.other) (premade_mem_normalTypes side))
          (Or.inl (Set.mem_insert g excused))
      · rw [mem_moveFront hplace (h.once _), if_pos rfl]
        exact Or.inl rfl
      · intro g' place hne'
        rw [mem_moveFront hplace (h.once _), if_neg hne']
  · next heq =>
      rw [not_not] at heq
      refine ⟨h.mono (Set.subset_insert g excused), heq ▸ hg, ?_⟩
      intro g' place _
      exact Iff.rfl

/-- After an invitation to the side of its list a group needs no excuse. -/
theorem Arranged.invite (h : q.Arranged excused) {side : Team} (instanceId : Nat)
    (hg : g ∈ q.queuedGroups (bracket, .premade side))
    (hothers : ∀ g', g' ≠ g → g' ∈ excused → g' ∈ excused') :
    (q.inviteGroupToBG g instanceId side).Arranged excused' := by
  refine h.modifyGroup (keeps_invite instanceId side) hothers ?_
  intro _ bracket' team group hpremade _
  have hplace := h.unique _ _ _ hg hpremade
  have htype : GroupType.premade side = GroupType.premade team := congrArg Prod.snd hplace
  cases side <;> cases team <;> first | rfl | exact GroupType.noConfusion htype

/-- Two teams take their sides and are invited. -/
theorem Arranged.takeSides (h : q.Invariant) {aTeam hTeam : Nat} {aGroup hGroup : GroupQueueInfo}
    (hne : hTeam ≠ aTeam) (ha : aTeam ∈ q.queuedGroups (bracket, .premade aGroup.team))
    (hh : hTeam ∈ q.queuedGroups (bracket, .premade hGroup.team)) (instanceId : Nat) :
    let q' := ((q.takeSides bracket aTeam hTeam aGroup hGroup).inviteGroupToBG aTeam
      instanceId .alliance).inviteGroupToBG hTeam instanceId .horde
    q'.Invariant ∧ ∀ g, q.OnSides bracket g → q'.OnSides bracket g := by
  obtain ⟨harranged, hside, hkept⟩ := h.joinSide .alliance ha
  generalize hq₁ : (if aGroup.team ≠ .alliance then
    q.moveFront aTeam (bracket, .premade (Team.alliance).other) (bracket, .premade .alliance)
    else q) = q₁ at harranged hside hkept
  have hh₁ := (hkept hTeam _ hne).mpr hh
  obtain ⟨harranged₂, hside₂, hkept₂⟩ := harranged.joinSide .horde hh₁
  generalize hq₂ : (if hGroup.team ≠ .horde then
    q₁.moveFront hTeam (bracket, .premade (Team.horde).other) (bracket, .premade .horde)
    else q₁) = q₂ at harranged₂ hside₂ hkept₂
  have htake : q.takeSides bracket aTeam hTeam aGroup hGroup = q₂ := by
    rw [← hq₂, ← hq₁]
    rfl
  dsimp only
  rw [htake]
  have ha₂ := (hkept₂ aTeam _ hne.symm).mpr hside
  have hinvited : (q₂.inviteGroupToBG aTeam instanceId .alliance).Arranged {hTeam} := by
    refine harranged₂.invite instanceId ha₂ ?_
    intro g' hg' hin
    obtain rfl | rfl | hempty := hin
    · exact rfl
    · exact absurd rfl hg'
    · exact hempty.elim
  have hlists : (q₂.inviteGroupToBG aTeam instanceId .alliance).queuedGroups = q₂.queuedGroups :=
    queuedGroups_modifyGroup _ _ _
  constructor
  · refine hinvited.invite instanceId (hlists ▸ hside₂) ?_
    intro g' hg' hin
    exact absurd hin hg'
  · rintro g ⟨team, hg⟩
    have hfinal : ((q₂.inviteGroupToBG aTeam instanceId .alliance).inviteGroupToBG hTeam
        instanceId .horde).queuedGroups = q₂.queuedGroups :=
      (queuedGroups_modifyGroup _ _ _).trans hlists
    rw [OnSides, hfinal]
    by_cases hgh : g = hTeam
    · exact ⟨.horde, hgh ▸ hside₂⟩
    · by_cases hga : g = aTeam
      · exact ⟨.alliance, hga ▸ ha₂⟩
      · exact ⟨team, (hkept₂ g _ hgh).mpr ((hkept g _ hga).mpr hg)⟩

theorem OnSides.widenRange (h : q.OnSides bracket g) (args : UpdateArgs) (g' : Nat) :
    (q.widenRange args g').OnSides bracket g := by
  rw [OnSides, BattlegroundQueue.widenRange, queuedGroups_modifyGroup]
  exact h

/-- A group stands in the list of its faction. -/
theorem Arranged.mem_side (h : q.Invariant) (hg : q.OnSides bracket g)
    (hfind : q.groups.find? g = some group) :
    g ∈ q.queuedGroups (bracket, .premade group.team) := by
  obtain ⟨team, hteam⟩ := hg
  rw [h.sided bracket team g group hteam (Set.notMem_empty g) hfind]
  exact hteam

theorem isOpponent_ne {front : GroupQueueInfo} (hfront : q.groups.find? g = some front)
    (h : q.isOpponent args front g' = true) : g' ≠ g := by
  rintro rfl
  rw [isOpponent, hfront] at h
  simp at h

/-- One round of the rated arena loop. -/
theorem Arranged.matchArena (h : s.queue.Invariant) (hg : s.queue.OnSides args.bracket g) :
    (matchArena args s g).queue.Invariant ∧
      ∀ g', s.queue.OnSides args.bracket g' →
        (BattlegroundQueue.matchArena args s g).queue.OnSides args.bracket g' := by
  have hwide := h.widenRange args g
  have hkept : ∀ g', s.queue.OnSides args.bracket g' →
      (s.queue.widenRange args g).OnSides args.bracket g' :=
    fun g' hg' => hg'.widenRange args g
  unfold BattlegroundQueue.matchArena
  split
  · exact ⟨h, fun g' hg' => hg'⟩
  · dsimp only
    generalize s.queue.widenRange args g = q at hwide hkept
    split
    · exact ⟨h, fun g' hg' => hg'⟩
    · next aGroup haGroup =>
        split
        · exact ⟨hwide, hkept⟩
        · next hTeam hfound =>
            have hopponent := List.find?_some hfound
            have hside : q.OnSides args.bracket hTeam := by
              obtain hali | hhorde := List.mem_append.mp (List.mem_of_find?_eq_some hfound)
              · exact ⟨.alliance, hali⟩
              · exact ⟨.horde, hhorde⟩
            split
            · next hGroup instanceId instances hhGroup _ =>
                obtain ⟨hinv, hsides⟩ := hwide.takeSides (isOpponent_ne haGroup hopponent)
                  (hwide.mem_side (hkept g hg) haGroup) (hwide.mem_side hside hhGroup) instanceId
                exact ⟨hinv, fun g' hg' => hsides g' (hkept g' hg')⟩
            · exact ⟨hwide, hkept⟩

/-- The whole loop over groups that stand in the premade lists. -/
theorem Arranged.foldl_matchArena {snapshot : List Nat} (h : s.queue.Invariant)
    (hsides : ∀ g ∈ snapshot, s.queue.OnSides args.bracket g) :
    (snapshot.foldl (BattlegroundQueue.matchArena args) s).queue.Invariant := by
  induction snapshot generalizing s with
  | nil => exact h
  | cons g rest ih =>
    obtain ⟨hinv, hkept⟩ := h.matchArena (hsides g List.mem_cons_self)
    exact ih hinv fun g' hg' => hkept g' (hsides g' (List.mem_cons_of_mem g hg'))

theorem Arranged.updateRatedArena (h : q.Invariant) (args : UpdateArgs) :
    (q.updateRatedArena args).Invariant := by
  rw [BattlegroundQueue.updateRatedArena]
  split
  · exact h
  · have hsides : ∀ g ∈ q.queuedGroups (args.bracket, .premadeAlliance),
        q.OnSides args.bracket g := fun g hg => ⟨.alliance, hg⟩
    have hali := h.foldl_matchArena (s := ⟨q, args.instances, false⟩) hsides
    exact hali.foldl_matchArena fun g hg => ⟨.horde, hg⟩

theorem rbg_ne_premade (team : Team) : GroupType.rbg ≠ GroupType.premade team := by
  cases team with
  | alliance => exact fun heq => GroupType.noConfusion heq
  | horde => exact fun heq => GroupType.noConfusion heq

/-- A group of the list for rated battlegrounds may be invited to any side. -/
theorem Arranged.inviteRated (h : q.Invariant) (hg : g ∈ q.queuedGroups (bracket, .rbg))
    (instanceId : Nat) (side : Team) : (q.inviteGroupToBG g instanceId side).Invariant := by
  refine h.modifyGroup (keeps_invite instanceId side) (fun _ _ hin => hin) ?_
  intro _ bracket' team group hpremade _
  have hplace := h.unique _ _ _ hg hpremade
  exact absurd (congrArg Prod.snd hplace) (rbg_ne_premade team)

theorem Arranged.matchRatedBattleground (h : s.queue.Invariant)
    (hg : g ∈ s.queue.queuedGroups (args.bracket, .rbg)) :
    (matchRatedBattleground args s g).queue.Invariant ∧
      (BattlegroundQueue.matchRatedBattleground args s g).queue.queuedGroups =
        s.queue.queuedGroups := by
  have hwide := h.widenRange args g
  have hlists : (s.queue.widenRange args g).queuedGroups = s.queue.queuedGroups :=
    queuedGroups_modifyGroup _ _ _
  unfold BattlegroundQueue.matchRatedBattleground
  split
  · exact ⟨h, rfl⟩
  · dsimp only
    generalize s.queue.widenRange args g = q at hwide hlists
    split
    · exact ⟨h, rfl⟩
    · next aGroup _ =>
      split
      · exact ⟨hwide, hlists⟩
      · next hTeam hfound =>
          have hrbg := List.mem_of_find?_eq_some hfound
          split
          · next hGroup instanceId instances _ _ =>
              generalize ratedSide aGroup hGroup = teamA
              have hfirst := hwide.inviteRated (hlists ▸ hg) instanceId teamA
              have hkept : (q.inviteGroupToBG g instanceId teamA).queuedGroups = q.queuedGroups :=
                queuedGroups_modifyGroup _ _ _
              constructor
              · exact hfirst.inviteRated (hkept ▸ hrbg) instanceId teamA.other
              · exact (queuedGroups_modifyGroup _ _ _).trans (hkept.trans hlists)
          · exact ⟨hwide, hlists⟩

theorem Arranged.foldl_matchRatedBattleground {snapshot : List Nat} (h : s.queue.Invariant)
    (hrbg : ∀ g ∈ snapshot, g ∈ s.queue.queuedGroups (args.bracket, .rbg)) :
    (snapshot.foldl (BattlegroundQueue.matchRatedBattleground args) s).queue.Invariant := by
  induction snapshot generalizing s with
  | nil => exact h
  | cons g rest ih =>
    obtain ⟨hinv, hlists⟩ := h.matchRatedBattleground (hrbg g List.mem_cons_self)
    apply ih hinv
    intro g' hg'
    rw [hlists]
    exact hrbg g' (List.mem_cons_of_mem g hg')

/-! ### The update -/

theorem Arranged.updateNormal (h : q.Invariant) (args : UpdateArgs) (template : Template)
    (minPlayers maxPlayers : Nat) (instances : List Nat) :
    (q.updateNormal args template minPlayers maxPlayers instances).Invariant := by
  unfold BattlegroundQueue.updateNormal
  dsimp only
  split
  · split
    · exact h
    · exact h.inviteSelectedPools _ _
  · next pools _ =>
      split
      · have hskirmish := h.checkSkirmishForSameFaction args.bracket minPlayers pools
        split
        · next q' pools' heq =>
            rw [heq] at hskirmish
            split
            · exact hskirmish
            · exact hskirmish.inviteSelectedPools _ _
        · next q' pools' heq =>
            rw [heq] at hskirmish
            exact hskirmish
      · have hteams := h.setTeams args.bracket args.crossFaction.teams
        split
        · split
          · exact hteams
          · exact hteams.inviteSelected _ _
        · exact hteams

/-- `BattlegroundQueueUpdate` keeps a queue consistent. -/
theorem Arranged.battlegroundQueueUpdate (h : q.Invariant) (args : UpdateArgs) :
    (q.battlegroundQueueUpdate args).Invariant := by
  have hfilled : (args.runningBattlegrounds.foldl (fun (q : BattlegroundQueue) running =>
      q.fillPlayersToBG args.bracket running.1 running.2) q).Invariant := by
    generalize args.runningBattlegrounds = running
    induction running generalizing q with
    | nil => exact h
    | cons first rest ih => exact ih (h.fillPlayersToBG args.bracket first.1 first.2)
  rw [BattlegroundQueue.battlegroundQueueUpdate]
  split
  · exact h
  · dsimp only
    generalize args.runningBattlegrounds.foldl _ q = q at hfilled
    split
    · exact hfilled
    · next template _ =>
        generalize (if template.isArena = true then
          if args.isArenaTesting = true then 1 else args.arenaType
          else template.minPlayersPerTeam) = minPlayers
        generalize (if template.isArena = true then args.arenaType
          else template.maxPlayersPerTeam) = maxPlayers
        split
        · split
          · exact hfilled.updateRatedArena args
          · split
            · exact hfilled.foldl_matchRatedBattleground fun g hg => hg
            · exact hfilled
        · split
          · exact hfilled.updateNormal args template minPlayers maxPlayers args.instances
          · have hpremade := hfilled.checkPremadeMatch args minPlayers maxPlayers
            split
            · next q' heq =>
                rw [heq] at hpremade
                exact hpremade.updateNormal args template minPlayers maxPlayers args.instances
            · next q' pools heq =>
                rw [heq] at hpremade
                split
                · exact hpremade
                · next instanceId instances _ =>
                    exact (hpremade.inviteSelectedPools pools instanceId).updateNormal args
                      template minPlayers maxPlayers instances

/-! ### Joining -/

/-- A new group of players who are not queued. -/
theorem Arranged.enqueue (h : q.Invariant) {players : List Nat}
    (hnew : ∀ p ∈ players, q.queuedPlayers.find? p = none)
    (hsearched : place.2 ∈ group.searchedTypes)
    (hside : ∀ team, place.2 = .premade team → group.team = team) :
    (q.enqueue players group place).Invariant := by
  have hunlisted : ∀ place', q.nextGroup ∉ q.queuedGroups place' := by
    intro place' hin
    obtain ⟨group', hfind, -⟩ := h.searched place' _ hin
    exact lt_irrefl _ (h.fresh _ group' hfind)
  have hgroups : ∀ g, (q.enqueue players group place).groups.find? g =
      if g = q.nextGroup then some { group with players := OrderedMap.ofKeys players }
      else q.groups.find? g := fun g => OrderedMap.find?_insert _ _ _ _
  have hmem : ∀ g place', g ∈ (q.enqueue players group place).queuedGroups place' ↔
      g ∈ q.queuedGroups place' ∨ g = q.nextGroup ∧ place' = place := by
    intro g place'
    simp only [BattlegroundQueue.enqueue]
    by_cases heq : place' = place
    · subst heq
      simp
    · simp [heq]
  constructor
  · intro p g
    have hplayers : (q.enqueue players group place).queuedPlayers.find? p =
        if p ∈ players then some q.nextGroup else q.queuedPlayers.find? p :=
      OrderedMap.find?_foldl_insert _ _ _ _
    rw [hplayers, hgroups]
    by_cases hg : g = q.nextGroup
    · subst hg
      rw [if_pos rfl]
      have hold : q.queuedPlayers.find? p ≠ some q.nextGroup := by
        intro hfind
        obtain ⟨group', hfind', -⟩ := (h.queued_iff p _).mp hfind
        exact lt_irrefl _ (h.fresh _ group' hfind')
      have hcontains := OrderedMap.contains_ofKeys players p
      split
      · next hp => simp [hcontains, hp]
      · next hp => simp [hcontains, hp, hold]
    · rw [if_neg hg, ← h.queued_iff]
      split
      · next hp => simp [hnew p hp, Ne.symm hg]
      · exact Iff.rfl
  · intro g group' hfind
    by_cases hg : g = q.nextGroup
    · exact ⟨place, (hmem g place).mpr (Or.inr ⟨hg, rfl⟩)⟩
    · rw [hgroups, if_neg hg] at hfind
      obtain ⟨place', hplace'⟩ := h.listed g group' hfind
      exact ⟨place', (hmem g place').mpr (Or.inl hplace')⟩
  · intro g place₁ place₂ h₁ h₂
    rw [hmem] at h₁ h₂
    obtain h₁ | ⟨rfl, rfl⟩ := h₁
    · obtain h₂ | ⟨rfl, rfl⟩ := h₂
      · exact h.unique g place₁ place₂ h₁ h₂
      · exact absurd h₁ (hunlisted place₁)
    · obtain h₂ | ⟨-, rfl⟩ := h₂
      · exact absurd h₂ (hunlisted place₂)
      · rfl
  · intro place'
    simp only [BattlegroundQueue.enqueue]
    by_cases heq : place' = place
    · subst heq
      rw [Function.update_self]
      exact (h.once place').append (List.nodup_singleton _)
        (List.disjoint_singleton.mpr (hunlisted place'))
    · rw [Function.update_of_ne heq]
      exact h.once place'
  · intro place' g hg
    obtain hold | ⟨rfl, rfl⟩ := (hmem g place').mp hg
    · have hne : g ≠ q.nextGroup := by
        rintro rfl
        exact hunlisted place' hold
      rw [hgroups, if_neg hne]
      exact h.searched place' g hold
    · rw [hgroups, if_pos rfl]
      exact ⟨_, rfl, hsearched⟩
  · intro bracket team g group' hg hex hfind
    rw [hgroups] at hfind
    obtain hold | ⟨rfl, heq⟩ := (hmem g _).mp hg
    · have hne : g ≠ q.nextGroup := by
        rintro rfl
        exact hunlisted _ hold
      rw [if_neg hne] at hfind
      exact h.sided bracket team g group' hold hex hfind
    · rw [if_pos rfl] at hfind
      cases hfind
      exact hside team (congrArg Prod.snd heq).symm
  · intro g group' hfind
    rw [hgroups] at hfind
    split at hfind
    · next hg =>
        rw [hg]
        exact Nat.lt_succ_self _
    · exact Nat.lt_succ_of_lt (h.fresh g group' hfind)

/-- Rated battlegrounds are the rated matches without an arena type. -/
def ConsistentJoin (r : JoinRequest) : Prop :=
  r.isRated = true → (r.arenaType = 0 ↔ r.bgTypeId = battlegroundRated10vs10)

instance (r : JoinRequest) : Decidable (ConsistentJoin r) :=
  inferInstanceAs (Decidable (_ → _))

theorem Arranged.addGroup (h : q.Invariant) {r : JoinRequest} (hr : ConsistentJoin r)
    (hnew : ∀ p ∈ r.members, q.queuedPlayers.find? p = none) : (q.addGroup r).Invariant := by
  apply h.enqueue hnew
  · rw [ConsistentJoin] at hr
    simp only [GroupQueueInfo.searchedTypes, joinIndex]
    cases hrated : r.isRated with
    | true =>
      have hiff := hr hrated
      by_cases harena : r.arenaType = 0
      · simp [harena, hiff.mp harena]
      · have hbg : r.bgTypeId ≠ battlegroundRated10vs10 := fun heq => harena (hiff.mpr heq)
        simp [harena, hbg, premade_mem_normalTypes]
    | false =>
      have hmixed : GroupType.mixed ∈ GroupType.normalTypes := by simp [GroupType.normalTypes]
      simp only [true_or, if_true, Bool.false_eq_true, and_false, if_false, and_true]
      split
      · exact hmixed
      · split
        · exact normal_mem_normalTypes r.team
        · exact premade_mem_normalTypes r.team
  · intro team hteam
    simp only [joinIndex] at hteam
    split at hteam
    · exact absurd hteam (mixed_ne_premade team)
    · split at hteam
      · exact absurd hteam (rbg_ne_premade team)
      · split at hteam
        · exact absurd hteam (normal_ne_premade _ team)
        · cases hr : r.team <;> rw [hr] at hteam <;> cases team <;>
            first | rfl | exact GroupType.noConfusion hteam

theorem Arranged.addSoloQueueGroup (h : q.Invariant) {playerList : List SoloQueueInfo}
    (bracket : Bracket) (team : Team) (urand now : Nat)
    (hnew : ∀ info ∈ playerList, q.queuedPlayers.find? info.playerGuid = none) :
    (q.addSoloQueueGroup playerList bracket team urand now).Invariant := by
  apply h.enqueue
  · intro p hp
    obtain ⟨info, hinfo, rfl⟩ := List.mem_map.mp hp
    exact hnew info hinfo
  · exact premade_mem_normalTypes team
  · intro team' hteam
    cases team <;> cases team' <;> first | rfl | exact GroupType.noConfusion hteam

/-! ### Leaving -/

variable {guid : Nat}

theorem mem_of_findPlace (h : q.findPlace g group = some place) : g ∈ q.queuedGroups place := by
  obtain ⟨bracket, -, hfound⟩ := List.exists_of_findSome?_eq_some h
  obtain ⟨type, htype, rfl⟩ := Option.map_eq_some_iff.mp hfound
  simpa using List.find?_some htype

/-- `RemovePlayer` finds every group. -/
theorem Arranged.exists_findPlace (h : q.Invariant) (hfind : q.groups.find? g = some group) :
    ∃ place, q.findPlace g group = some place := by
  obtain ⟨place, hplace⟩ := h.listed g group hfind
  obtain ⟨group', hfind', htype⟩ := h.searched place g hplace
  cases hfind.symm.trans hfind'
  apply Option.isSome_iff_exists.mp
  rw [findPlace, List.findSome?_isSome_iff]
  refine ⟨place.1, List.mem_reverse.mpr (List.mem_finRange place.1), ?_⟩
  rw [Option.isSome_map, List.find?_isSome]
  exact ⟨place.2, List.mem_reverse.mpr htype, decide_eq_true hplace⟩

/-- Erasing the last player takes the group out of its list. -/
theorem Arranged.dropGroup (h : q.Invariant) (hplayer : q.queuedPlayers.find? guid = some g)
    (hfind : q.groups.find? g = some group) (hplace : g ∈ q.queuedGroups place)
    (hlast : (group.players.erase guid).keys = []) :
    Invariant { q with
      queuedPlayers := q.queuedPlayers.erase guid
      groups := q.groups.erase g
      queuedGroups := Function.update q.queuedGroups place ((q.queuedGroups place).erase g) } := by
  have honly : ∀ p, group.players.contains p = true → p = guid := by
    intro p hp
    by_contra hne
    have hin : p ∈ (group.players.erase guid).keys := by
      rw [OrderedMap.mem_keys, OrderedMap.contains_erase]
      simp [hne, hp]
    rw [hlast] at hin
    cases hin
  have hmem : ∀ g' place', g' ∈ Function.update q.queuedGroups place
      ((q.queuedGroups place).erase g) place' ↔ g' ≠ g ∧ g' ∈ q.queuedGroups place' := by
    intro g' place'
    by_cases heq : place' = place
    · subst heq
      rw [Function.update_self, (h.once place').mem_erase_iff]
    · rw [Function.update_of_ne heq]
      constructor
      · intro hg'
        refine ⟨?_, hg'⟩
        rintro rfl
        exact heq (h.unique g' place' place hg' hplace)
      · exact fun hand => hand.2
  constructor
  · intro p g'
    dsimp only
    rw [OrderedMap.find?_erase, OrderedMap.find?_erase]
    by_cases hp : p = guid
    · subst hp
      rw [if_pos rfl]
      constructor
      · intro hnone
        cases hnone
      · rintro ⟨group', hfind', hcontains⟩
        split at hfind'
        · cases hfind'
        · next hne =>
            have hother := (h.queued_iff p g').mpr ⟨group', hfind', hcontains⟩
            exact absurd (Option.some.inj (hother.symm.trans hplayer)) hne
    · rw [if_neg hp, h.queued_iff]
      by_cases hg : g' = g
      · subst hg
        rw [if_pos rfl]
        constructor
        · rintro ⟨group', hfind', hcontains⟩
          cases hfind.symm.trans hfind'
          exact absurd (honly p hcontains) hp
        · rintro ⟨group', hnone, -⟩
          cases hnone
      · rw [if_neg hg]
  · intro g' group' hfind'
    rw [OrderedMap.find?_erase] at hfind'
    split at hfind'
    · cases hfind'
    · next hne =>
        obtain ⟨place', hplace'⟩ := h.listed g' group' hfind'
        exact ⟨place', (hmem g' place').mpr ⟨hne, hplace'⟩⟩
  · intro g' place₁ place₂ h₁ h₂
    exact h.unique g' place₁ place₂ ((hmem g' place₁).mp h₁).2 ((hmem g' place₂).mp h₂).2
  · intro place'
    by_cases heq : place' = place
    · subst heq
      dsimp only
      rw [Function.update_self]
      exact (h.once place').erase g
    · dsimp only
      rw [Function.update_of_ne heq]
      exact h.once place'
  · intro place' g' hg'
    obtain ⟨hne, hg'⟩ := (hmem g' place').mp hg'
    dsimp only
    rw [OrderedMap.find?_erase, if_neg hne]
    exact h.searched place' g' hg'
  · intro bracket team g' group' hg' hex hfind'
    obtain ⟨hne, hg'⟩ := (hmem g' _).mp hg'
    rw [OrderedMap.find?_erase, if_neg hne] at hfind'
    exact h.sided bracket team g' group' hg' hex hfind'
  · intro g' group' hfind'
    rw [OrderedMap.find?_erase] at hfind'
    split at hfind'
    · cases hfind'
    · exact h.fresh g' group' hfind'

/-- Erasing one of several players. -/
theorem Arranged.dropPlayer (h : q.Invariant) (hplayer : q.queuedPlayers.find? guid = some g)
    (hfind : q.groups.find? g = some group) :
    Invariant { q with
      queuedPlayers := q.queuedPlayers.erase guid
      groups := q.groups.insert g { group with players := group.players.erase guid } } := by
  constructor
  · intro p g'
    dsimp only
    rw [OrderedMap.find?_erase, OrderedMap.find?_insert]
    by_cases hg : g' = g
    · subst hg
      rw [if_pos rfl]
      by_cases hp : p = guid
      · subst hp
        simp [OrderedMap.contains_erase]
      · rw [if_neg hp, h.queued_iff, hfind]
        simp [OrderedMap.contains_erase, hp]
    · rw [if_neg hg]
      by_cases hp : p = guid
      · subst hp
        rw [if_pos rfl, ← h.queued_iff, hplayer]
        simp [Ne.symm hg]
      · rw [if_neg hp, h.queued_iff]
  · intro g' group' hfind'
    rw [OrderedMap.find?_insert] at hfind'
    split at hfind'
    · next heq =>
        rw [heq]
        exact h.listed g group hfind
    · exact h.listed g' group' hfind'
  · exact h.unique
  · exact h.once
  · intro place g' hg'
    dsimp only
    rw [OrderedMap.find?_insert]
    obtain ⟨group', hfind', htype⟩ := h.searched place g' hg'
    split
    · next heq =>
        subst heq
        cases hfind.symm.trans hfind'
        exact ⟨_, rfl, htype⟩
    · exact ⟨group', hfind', htype⟩
  · intro bracket team g' group' hg' hex hfind'
    rw [OrderedMap.find?_insert] at hfind'
    split at hfind'
    · next heq =>
        subst heq
        cases hfind'
        exact h.sided bracket team g' group hg' hex hfind
    · exact h.sided bracket team g' group' hg' hex hfind'
  · intro g' group' hfind'
    rw [OrderedMap.find?_insert] at hfind'
    split at hfind'
    · next heq =>
        rw [heq]
        exact h.fresh g group hfind
    · exact h.fresh g' group' hfind'

/-- `RemovePlayer` up to its recursive call, for a queued player. -/
theorem Arranged.removeOne (h : q.Invariant) (hplayer : q.queuedPlayers.find? guid = some g)
    (hfind : q.groups.find? g = some group) :
    (q.removeOne guid).1.Invariant ∧
      (q.removeOne guid).1.queuedPlayers = q.queuedPlayers.erase guid ∧
      ∀ next rest, (group.players.erase guid).keys = next :: rest →
        (q.removeOne guid).1.groups.find? g =
          some { group with players := group.players.erase guid } ∧
        (group.isInvited = false → group.isRated = true → (q.removeOne guid).2 = some next) := by
  obtain ⟨place, hplace⟩ := h.exists_findPlace hfind
  cases hkeys : (group.players.erase guid).keys with
  | nil =>
    have hone : q.removeOne guid = ({ q with
        queuedPlayers := q.queuedPlayers.erase guid
        groups := q.groups.erase g
        queuedGroups :=
          Function.update q.queuedGroups place ((q.queuedGroups place).erase g) }, none) := by
      simp only [BattlegroundQueue.removeOne, hplayer, hfind, hplace, hkeys]
    rw [hone]
    refine ⟨h.dropGroup hplayer hfind (mem_of_findPlace hplace) hkeys, rfl, ?_⟩
    intro next rest hcons
    cases hcons
  | cons first others =>
    have hone : q.removeOne guid = ({ q with
        queuedPlayers := q.queuedPlayers.erase guid
        groups := q.groups.insert g { group with players := group.players.erase guid } },
        if group.isInvited = false ∧ group.isRated = true then some first else none) := by
      simp only [BattlegroundQueue.removeOne, hplayer, hfind, hplace, hkeys]
      rfl
    rw [hone]
    refine ⟨h.dropPlayer hplayer hfind, rfl, ?_⟩
    intro next rest hcons
    cases hcons
    refine ⟨OrderedMap.find?_insert_self _ _ _, ?_⟩
    intro hinvited hrated
    exact if_pos ⟨hinvited, hrated⟩

/-- The group of a queued player. -/
theorem Arranged.exists_group (h : q.Invariant) (hplayer : q.queuedPlayers.find? guid = some g) :
    ∃ group, q.groups.find? g = some group ∧ group.players.contains guid = true :=
  (h.queued_iff guid g).mp hplayer

theorem removeOne_of_find?_eq_none (h : q.queuedPlayers.find? guid = none) :
    q.removeOne guid = (q, none) := by
  rw [BattlegroundQueue.removeOne, h]

theorem Arranged.removeOne_invariant (h : q.Invariant) (guid : Nat) :
    (q.removeOne guid).1.Invariant ∧
      ∀ p, q.queuedPlayers.find? p = none → (q.removeOne guid).1.queuedPlayers.find? p = none := by
  cases hplayer : q.queuedPlayers.find? guid with
  | none =>
    rw [removeOne_of_find?_eq_none hplayer]
    exact ⟨h, fun p hp => hp⟩
  | some g =>
    obtain ⟨group, hfind, -⟩ := h.exists_group hplayer
    obtain ⟨hinv, hplayers, -⟩ := h.removeOne hplayer hfind
    refine ⟨hinv, ?_⟩
    intro p hp
    rw [hplayers, OrderedMap.find?_erase, hp, ite_self]

/-- The recursion keeps the queue consistent and queues nobody. -/
theorem Arranged.removePlayers (h : q.Invariant) (fuel guid : Nat) :
    (q.removePlayers fuel guid).1.Invariant ∧
      ∀ p, q.queuedPlayers.find? p = none →
        (q.removePlayers fuel guid).1.queuedPlayers.find? p = none := by
  induction fuel generalizing q guid with
  | zero => exact ⟨h, fun p hp => hp⟩
  | succ fuel ih =>
    obtain ⟨hinv, hnone⟩ := h.removeOne_invariant guid
    rw [BattlegroundQueue.removePlayers]
    generalize q.removeOne guid = result at hinv hnone
    obtain ⟨q', next⟩ := result
    cases next with
    | none => exact ⟨hinv, hnone⟩
    | some next =>
      obtain ⟨hinv', hnone'⟩ := ih hinv next
      exact ⟨hinv', fun p hp => hnone' p (hnone p hp)⟩

theorem size_erase (h : group.players.contains guid = true) :
    (group.players.erase guid).entries.length + 1 = group.size := by
  obtain ⟨value, hvalue⟩ := Option.isSome_iff_exists.mp h
  rw [GroupQueueInfo.size, (OrderedMap.perm_erase hvalue).length_eq, List.length_cons]

/-- With enough calls a rated group that is not invited leaves with its player. -/
theorem Arranged.removePlayers_group (h : q.Invariant) {fuel : Nat}
    (hplayer : q.queuedPlayers.find? guid = some g) (hfind : q.groups.find? g = some group)
    (hinvited : group.isInvited = false) (hrated : group.isRated = true)
    (hfuel : group.size ≤ fuel) :
    ∀ p, group.players.contains p = true →
      (q.removePlayers fuel guid).1.queuedPlayers.find? p = none := by
  induction fuel generalizing q guid group with
  | zero =>
    intro p hp
    have hsize := size_erase hp
    omega
  | succ fuel ih =>
    intro p hp
    have hguid : group.players.contains guid = true := by
      obtain ⟨group', hfind', hcontains⟩ := h.exists_group hplayer
      cases hfind.symm.trans hfind'
      exact hcontains
    obtain ⟨hinv, hplayers, hnext⟩ := h.removeOne hplayer hfind
    have hgone : (q.removeOne guid).1.queuedPlayers.find? guid = none := by
      rw [hplayers, OrderedMap.find?_erase, if_pos rfl]
    rw [BattlegroundQueue.removePlayers]
    cases hkeys : (group.players.erase guid).keys with
    | nil =>
      have hp_eq : p = guid := by
        by_contra hne
        have hin : p ∈ (group.players.erase guid).keys := by
          rw [OrderedMap.mem_keys, OrderedMap.contains_erase]
          simp [hne, hp]
        rw [hkeys] at hin
        cases hin
      subst hp_eq
      generalize q.removeOne p = result at hinv hgone
      obtain ⟨q', next⟩ := result
      cases next with
      | none => exact hgone
      | some next => exact (hinv.removePlayers fuel next).2 p hgone
    | cons next rest =>
      obtain ⟨hfind', hcall⟩ := hnext next rest hkeys
      have hcontinue := hcall hinvited hrated
      generalize q.removeOne guid = result at hinv hgone hfind' hcontinue
      obtain ⟨q', next'⟩ := result
      dsimp only at hinv hgone hfind' hcontinue
      subst hcontinue
      by_cases hp_eq : p = guid
      · subst hp_eq
        exact (hinv.removePlayers fuel next).2 p hgone
      · have hmember : (group.players.erase guid).contains next = true := by
          rw [← OrderedMap.mem_keys, hkeys]
          exact List.mem_cons_self
        have hplayer' : q'.queuedPlayers.find? next = some g :=
          (hinv.queued_iff next g).mpr ⟨_, hfind', hmember⟩
        refine ih hinv hplayer' hfind' hinvited hrated ?_ p ?_
        · have hsize := size_erase hguid
          change (group.players.erase guid).entries.length ≤ fuel
          omega
        · rw [OrderedMap.contains_erase]
          simp [hp_eq, hp]

/-- After `RemovePlayer` on a rated group that is not invited, none of its players is queued. -/
theorem Arranged.removePlayer_group (h : q.Invariant)
    (hplayer : q.queuedPlayers.find? guid = some g) (hfind : q.groups.find? g = some group)
    (hinvited : group.isInvited = false) (hrated : group.isRated = true) :
    ∀ p, group.players.contains p = true →
      (q.removePlayer guid).1.queuedPlayers.find? p = none := by
  apply h.removePlayers_group hplayer hfind hinvited hrated
  apply Nat.le_succ_of_le
  apply OrderedMap.length_le_of_contains
  intro p hp
  exact OrderedMap.contains_of_find? ((h.queued_iff p g).mpr ⟨group, hfind, hp⟩)

/-! ### Whole runs -/

/-- The calls that change the queue. -/
inductive Request
  | addGroup (r : JoinRequest)
  | addSoloQueueGroup (playerList : List SoloQueueInfo) (bracket : Bracket) (team : Team)
      (urand now : Nat)
  | removePlayer (guid : Nat)
  | update (args : UpdateArgs)

def step (q : BattlegroundQueue) : Request → BattlegroundQueue
  | .addGroup r => q.addGroup r
  | .addSoloQueueGroup playerList bracket team urand now =>
    q.addSoloQueueGroup playerList bracket team urand now
  | .removePlayer guid => (q.removePlayer guid).1
  | .update args => q.battlegroundQueueUpdate args

/-- Players who join are not queued yet, and the flags of a group fit together. -/
def Allowed (q : BattlegroundQueue) : Request → Prop
  | .addGroup r =>
    ConsistentJoin r ∧ ∀ p ∈ r.members, q.queuedPlayers.find? p = none
  | .addSoloQueueGroup playerList _ _ _ _ =>
    ∀ info ∈ playerList, q.queuedPlayers.find? info.playerGuid = none
  | .removePlayer _ => True
  | .update _ => True

instance (request : Request) : Decidable (q.Allowed request) :=
  match request with
  | .addGroup r => inferInstanceAs (Decidable (_ ∧ ∀ p ∈ r.members, _))
  | .addSoloQueueGroup playerList _ _ _ _ => inferInstanceAs (Decidable (∀ info ∈ playerList, _))
  | .removePlayer _ => isTrue trivial
  | .update _ => isTrue trivial

theorem invariant_step {request : Request} (h : q.Invariant) (hok : q.Allowed request) :
    (step q request).Invariant := by
  cases request with
  | addGroup r => exact h.addGroup hok.1 hok.2
  | addSoloQueueGroup playerList bracket team urand now =>
    exact h.addSoloQueueGroup bracket team urand now hok
  | removePlayer guid => exact (h.removePlayers _ guid).1
  | update args => exact h.battlegroundQueueUpdate args

/-- In every state of a run the queue is consistent, and a player who leaves a rated group that
is not invited takes the whole group out of the queue. -/
theorem integrity_of_allowed (requests : List Request)
    (hallowed : Runs.Admissible step Allowed empty requests) (before : List Request)
    (hbefore : before <+: requests) :
    (Runs.run step empty before).Integrity ∧
      ∀ guid g group, (Runs.run step empty before).queuedPlayers.find? guid = some g →
        (Runs.run step empty before).groups.find? g = some group →
        group.isRated = true → group.isInvited = false →
        ∀ p, group.players.contains p = true →
          ((Runs.run step empty before).removePlayer guid).1.queuedPlayers.find? p = none := by
  have hinv := hallowed.invariant (P := Invariant) invariant_step invariant_empty hbefore
  refine ⟨hinv.integrity, ?_⟩
  intro guid g group hplayer hfind hrated hinvited
  exact hinv.removePlayer_group hplayer hfind hinvited hrated

/-- A rated two-player team of the alliance. -/
def ratedTeam (members : List Nat) (arenaTeamId : Nat) : JoinRequest where
  members := members
  team := .alliance
  bgTypeId := battlegroundAA
  bracket := ⟨15, Nat.lt_succ_self 15⟩
  arenaType := 2
  isRated := true
  isPremade := false
  matchmakerRating := 1500
  arenaTeamId := arenaTeamId
  crossFactionEnabled := false
  now := 1000

/-- The regular update of the rated arenas, with room for one match. -/
def ratedUpdate : UpdateArgs where
  bracket := ⟨15, Nat.lt_succ_self 15⟩
  arenaType := 2
  isRated := true
  arenaRating := 0
  now := 2000
  runningBattlegrounds := []
  template := some ⟨true, false, 2, 2⟩
  instances := [7]
  crossFaction := ⟨[], []⟩
  crossFactionMatch := false
  invitationType := 0
  isTesting := false
  isArenaTesting := false
  premadeGroupWaitForMatch := 1800000
  maxRatingDifference := 150
  ratingDiscardTimer := 600000
  canJoinBattleground := fun _ => true

/-- Two rated teams are invited, and a player of the second leaves. -/
theorem integrity_after_match :
    (Runs.run step empty [.addGroup (ratedTeam [1, 2] 1), .addGroup (ratedTeam [3, 4] 2),
      .update ratedUpdate, .removePlayer 3]).Integrity ∧
      (Runs.run step empty [.addGroup (ratedTeam [1, 2] 1), .addGroup (ratedTeam [3, 4] 2),
        .update ratedUpdate, .removePlayer 3]).queuedGroups
          (⟨15, Nat.lt_succ_self 15⟩, .premadeHorde) = [1] := by
  refine ⟨(integrity_of_allowed [.addGroup (ratedTeam [1, 2] 1), .addGroup (ratedTeam [3, 4] 2),
    .update ratedUpdate, .removePlayer 3] ?_ _ (List.prefix_refl _)).1, ?_⟩
  · decide +kernel
  · decide +kernel

def soloPlayer : SoloQueueInfo := ⟨1, 1500, 1, 0, 0, 0⟩

/-- A player who joins through the solo queue while he is queued stays in the first group, and a
rated group without arena type that is not for rated battlegrounds is never found again. -/
theorem player_in_two_groups :
    ¬ (Runs.run step empty
      [.addSoloQueueGroup [soloPlayer] ⟨15, Nat.lt_succ_self 15⟩ .alliance 50000 0,
        .addSoloQueueGroup [soloPlayer] ⟨15, Nat.lt_succ_self 15⟩ .alliance 50001 0]).Integrity ∧
      (Runs.run step empty [.addGroup { ratedTeam [1, 2] 1 with arenaType := 0 },
        .removePlayer 1]).queuedPlayers.find? 1 = some 0 := by
  constructor
  · intro h
    have hgroup : ((Runs.run step empty
        [.addSoloQueueGroup [soloPlayer] ⟨15, Nat.lt_succ_self 15⟩ .alliance 50000 0,
          .addSoloQueueGroup [soloPlayer] ⟨15, Nat.lt_succ_self 15⟩ .alliance 50001 0]).groups.find?
            0).any (fun group => group.players.contains 1) = true := by
      decide +kernel
    obtain ⟨group, hfind, hplayer⟩ := (Option.any_eq_true _ _).mp hgroup
    have hqueued := (h.queued_iff 1 0).mpr ⟨group, hfind, hplayer⟩
    revert hqueued
    decide +kernel
  · decide +kernel

end BattlegroundQueue

end Cataclysm.Battlegrounds
