import Cataclysm.DungeonFinding.RoleSolver
import Cataclysm.DungeonFinding.Search

/-!
# What a proposal says

`CheckCompatibility` makes a proposal of a combination that fills a dungeon. The players
are collected entry by entry; a player who is known already or ignores one of them makes
the collection smaller than the number of players, and the combination is refused. The
roles are those that the role solver gives.

Whether a proposal refills a group is decided by the first entry of the combination,
although the group may stand anywhere in it.

## Implementation notes

The numbers of players are compared as `uint8`, so a proposal is sound when its entries
have at most 255 players together. `HasIgnore` asks both players.
-/

namespace Cataclysm.Lfg
open Matching

/-! ## Judgements -/

variable {view : LfgView} {rand : Nat → Nat} {check : List Guid}

/-- A proposal as `CheckCompatibility` writes it for one of the common dungeons. -/
structure IsProposal (view : LfgView) (dungeonsOf : Guid → LfgDungeonSet)
    (rolesOf : Guid → LfgRolesMap) (check : List Guid) (dungeon : LFGDungeonData)
    (count : PlayerCount) (proposal : LfgProposal) : Prop where
  counted : count = countPlayers view rolesOf dungeon.getMaxGroupSize check ⟨0, 0, 0, .empty⟩
  chosen : (commonDungeons dungeonsOf check).contains proposal.dungeonId = true
  known : view.getLFGDungeon proposal.dungeonId = some dungeon
  groups : count.numLfgGroups ≤ 1
  size : count.numPlayers = dungeon.getMaxGroupSize
  ignores : 1 < check.length → ignoredPlayers view rolesOf check count.numPlayers = 0
  roles : 1 < check.length → (proposalRoles view rolesOf check dungeon).1 = true
  group : proposal.group = count.group
  isNew : proposal.isNew =
    (count.numLfgGroups ≠ 1 || view.getOldState (check.headD 0) ≠ .dungeon)
  queues : proposal.queues = check
  players : proposal.players =
    proposalPlayers count proposal.isNew (proposalRoles view rolesOf check dungeon).2

theorem selectDungeon_spec {fuel : Nat} {dungeons : LfgDungeonSet} {drawn drawn' : Nat}
    {dungeonId : Nat} {dungeon : LFGDungeonData}
    (h : selectDungeon view rand fuel dungeons drawn = (some (dungeonId, dungeon), drawn')) :
    dungeons.contains dungeonId = true ∧ view.getLFGDungeon dungeonId = some dungeon := by
  induction fuel generalizing dungeons drawn with
  | zero => cases h
  | succ fuel ih =>
    rw [selectDungeon] at h
    split at h
    · cases h
    · next id hid =>
      split at h
      · next found hfound =>
        obtain ⟨rfl, rfl⟩ := Prod.mk.inj (Option.some.inj (Prod.mk.inj h).1)
        exact ⟨OrderedMap.mem_keys.mp (List.mem_of_getElem? hid), hfound⟩
      · obtain ⟨hcontains, hknown⟩ := ih h
        refine ⟨?_, hknown⟩
        rw [OrderedMap.contains_erase, Bool.and_eq_true] at hcontains
        exact hcontains.2

theorem isProposal_of_evaluate {dungeonsOf : Guid → LfgDungeonSet} {rolesOf : Guid → LfgRolesMap}
    {drawn : Nat} {proposal : LfgProposal}
    (h : (evaluate view rand dungeonsOf rolesOf check drawn).1 = .propose proposal) :
    ∃ dungeon count, IsProposal view dungeonsOf rolesOf check dungeon count proposal := by
  rw [evaluate] at h
  dsimp only at h
  split at h
  · cases h
  next dungeonId dungeon drawn' hselect =>
  obtain ⟨hchosen, hknown⟩ := selectDungeon_spec hselect
  by_cases hlength : check.length > dungeon.getMaxGroupSize
  · rw [if_pos hlength] at h
    cases h
  rw [if_neg hlength] at h
  generalize hcount : countPlayers view rolesOf dungeon.getMaxGroupSize check ⟨0, 0, 0, .empty⟩ =
    count at h
  by_cases hgroups : count.numLfgGroups > 1
  · rw [if_pos hgroups] at h
    cases h
  rw [if_neg hgroups] at h
  by_cases hplayers : count.numPlayers > dungeon.getMaxGroupSize
  · rw [if_pos hplayers] at h
    cases h
  rw [if_neg hplayers] at h
  by_cases hignores : check.length > 1 ∧ ignoredPlayers view rolesOf check count.numPlayers ≠ 0
  · rw [if_pos hignores] at h
    cases h
  rw [if_neg hignores] at h
  by_cases hroles : check.length > 1 ∧ !(proposalRoles view rolesOf check dungeon).1
  · rw [if_pos hroles] at h
    cases h
  rw [if_neg hroles] at h
  by_cases hsize : count.numPlayers ≠ dungeon.getMaxGroupSize
  · rw [if_pos hsize] at h
    cases h
  rw [if_neg hsize] at h
  split at h
  · cases h
  obtain rfl := Verdict.propose.inj h
  refine ⟨dungeon, count, ?_⟩
  exact {
    counted := hcount.symm
    chosen := hchosen
    known := hknown
    groups := Nat.le_of_not_lt hgroups
    size := not_not.mp hsize
    ignores := fun hmore => not_not.mp fun hne => hignores ⟨hmore, hne⟩
    roles := fun hmore => Bool.of_not_eq_false fun hrefused =>
      hroles ⟨hmore, congrArg Bool.not hrefused⟩
    group := rfl
    isNew := rfl
    queues := rfl
    players := rfl }

/-! ## The combination that is proposed -/

variable {s : Matching}

/-- The dungeons and the players of the entries are as they were. -/
def KeepsData (s s' : Matching) : Prop :=
  s'.queue.dungeonsOf = s.queue.dungeonsOf ∧ s'.queue.rolesOf = s.queue.rolesOf

theorem KeepsData.trans {s' s'' : Matching} (h : KeepsData s s') (h' : KeepsData s' s'') :
    KeepsData s s'' :=
  ⟨h'.1.trans h.1, h'.2.trans h.2⟩

theorem Matching.Quiet.keepsData {s' : Matching} (h : Quiet s s') : KeepsData s s' :=
  ⟨h.queue.dungeonsOf, h.queue.rolesOf⟩

theorem keepsData_unlisted (entries : List Guid) (q : LFGQueue) :
    (entries.foldl (fun q guid => (q.removeFromNewQueue guid).removeFromCurrentQueue guid)
      q).queueDataStore = q.queueDataStore := by
  induction entries generalizing q with
  | nil => rfl
  | cons guid rest ih => exact ih _

theorem keepsData_record (view : LfgView) (s : Matching) (check : List Guid) (verdict : Verdict) :
    KeepsData s (record view s check verdict).2 := by
  by_cases hpropose : ∃ proposal, verdict = .propose proposal
  · obtain ⟨proposal, rfl⟩ := hpropose
    have hstore : (record view s check (.propose proposal)).2.queue.queueDataStore =
        s.queue.queueDataStore := keepsData_unlisted proposal.queues s.queue
    constructor
    · funext guid
      rw [LFGQueue.dungeonsOf, LFGQueue.dungeonsOf, hstore]
    · funext guid
      rw [LFGQueue.rolesOf, LFGQueue.rolesOf, hstore]
  · exact (quiet_record view s check fun proposal h => hpropose ⟨proposal, h⟩).1.keepsData

theorem keepsData_checkOwn (view : LfgView) (rand : Nat → Nat) (check : List Guid)
    (s : Matching) : KeepsData s (checkOwn view rand check s).2 := by
  obtain ⟨t, verdict, drawn, hquiet, heq, -⟩ := checkOwn_eq view rand check s
  rw [heq]
  exact hquiet.keepsData.trans (keepsData_record view t check verdict)

theorem keepsData_checkCompatibility (view : LfgView) (rand : Nat → Nat) (check : List Guid)
    (s : Matching) : KeepsData s (checkCompatibility view rand check s).2 := by
  induction check generalizing s with
  | nil => exact ⟨rfl, rfl⟩
  | cons front rest ih =>
    rw [checkCompatibility]
    split
    · have hchild := ih s
      generalize checkCompatibility view rand rest s = result at hchild ⊢
      obtain ⟨child, t⟩ := result
      dsimp only
      split
      · exact hchild.trans ⟨rfl, rfl⟩
      · exact hchild.trans (keepsData_checkOwn view rand _ t)
    · exact keepsData_checkOwn view rand _ s

/-- The proposal that `CheckCompatibility` makes of a combination. -/
def created (view : LfgView) (rand : Nat → Nat) (s : Matching) (check : List Guid) :
    Option LfgProposal :=
  let (compatibles, s) := checkCompatibility view rand check s
  if compatibles = .isMatch then s.proposals.find? s.lfgProposalId else none

theorem proposal_checkOwn (h : (checkOwn view rand check s).1 = .isMatch) :
    ∃ dungeon count proposal,
      IsProposal view s.queue.dungeonsOf s.queue.rolesOf check dungeon count proposal ∧
        (checkOwn view rand check s).2.proposals.find?
          (checkOwn view rand check s).2.lfgProposalId = some proposal := by
  obtain ⟨t, verdict, drawn, -, heq, hverdict⟩ := checkOwn_eq view rand check s
  rw [heq] at h ⊢
  by_cases hpropose : ∃ proposal, verdict = .propose proposal
  · obtain ⟨proposal, rfl⟩ := hpropose
    obtain ⟨dungeon, count, hproposal⟩ := isProposal_of_evaluate hverdict
    exact ⟨dungeon, count, proposal, hproposal, OrderedMap.find?_insert_self _ _ _⟩
  · exact absurd h (quiet_record view t check fun proposal h => hpropose ⟨proposal, h⟩).2

/-- A match is a proposal of the combination itself. -/
theorem proposal_of_match (h : (checkCompatibility view rand check s).1 = .isMatch) :
    ∃ dungeon count proposal,
      IsProposal view s.queue.dungeonsOf s.queue.rolesOf check dungeon count proposal ∧
        created view rand s check = some proposal := by
  have hfind : ∃ dungeon count proposal,
      IsProposal view s.queue.dungeonsOf s.queue.rolesOf check dungeon count proposal ∧
        (checkCompatibility view rand check s).2.proposals.find?
          (checkCompatibility view rand check s).2.lfgProposalId = some proposal := by
    cases check with
    | nil => cases h
    | cons front rest =>
      rw [checkCompatibility] at h ⊢
      split at h
      · next hmore =>
        rw [if_pos hmore]
        have hkeeps := keepsData_checkCompatibility view rand rest s
        generalize checkCompatibility view rand rest s = result at h hkeeps ⊢
        obtain ⟨child, t⟩ := result
        dsimp only at h ⊢
        split at h
        · next hincompatible =>
          dsimp only at h
          rw [h] at hincompatible
          cases hincompatible
        · next hcompatible =>
          rw [if_neg hcompatible]
          obtain ⟨dungeon, count, proposal, hproposal, hfound⟩ := proposal_checkOwn h
          rw [hkeeps.1, hkeeps.2] at hproposal
          exact ⟨dungeon, count, proposal, hproposal, hfound⟩
      · next hfew =>
        rw [if_neg hfew]
        exact proposal_checkOwn h
  obtain ⟨dungeon, count, proposal, hproposal, hfound⟩ := hfind
  refine ⟨dungeon, count, proposal, hproposal, ?_⟩
  rw [created]
  dsimp only
  rw [if_pos h]
  exact hfound

theorem isProposal_of_created {proposal : LfgProposal}
    (h : created view rand s check = some proposal) :
    ∃ dungeon count,
      IsProposal view s.queue.dungeonsOf s.queue.rolesOf check dungeon count proposal := by
  have hmatch : (checkCompatibility view rand check s).1 = .isMatch := by
    by_contra hother
    rw [created] at h
    dsimp only at h
    rw [if_neg hother] at h
    cases h
  obtain ⟨dungeon, count, found, hproposal, hcreated⟩ := proposal_of_match hmatch
  obtain rfl := Option.some.inj (hcreated.symm.trans h)
  exact ⟨dungeon, count, hproposal⟩

/-! ## Counting entries -/

/-- A count that stays within its limits goes through all entries. -/
theorem countPlayers_all {rolesOf : Guid → LfgRolesMap} {maxGroupSize : Nat} (check : List Guid)
    {count : PlayerCount} (hless : count.numPlayers < 256)
    (hgroups : (countPlayers view rolesOf maxGroupSize check count).numLfgGroups ≤ 1)
    (hplayers : (countPlayers view rolesOf maxGroupSize check count).numPlayers ≤ maxGroupSize) :
    (countPlayers view rolesOf maxGroupSize check count).numLfgGroups =
        count.numLfgGroups + check.countP view.isLfgGroup ∧
      (countPlayers view rolesOf maxGroupSize check count).group =
        (if count.numLfgGroups = 0 then (check.find? view.isLfgGroup).getD count.group
          else count.group) ∧
      (countPlayers view rolesOf maxGroupSize check count).numPlayers =
        (count.numPlayers + (check.map fun guid => (rolesOf guid).entries.length).sum) % 256 := by
  induction check generalizing count with
  | nil =>
    rw [countPlayers]
    exact ⟨rfl, (ite_self _).symm, (Nat.mod_eq_of_lt hless).symm⟩
  | cons guid rest ih =>
    rw [countPlayers] at hgroups hplayers ⊢
    by_cases hgo : count.numLfgGroups ≤ 1 ∧ count.numPlayers ≤ maxGroupSize
    · rw [if_pos hgo] at hgroups hplayers ⊢
      dsimp only at hgroups hplayers ⊢
      obtain ⟨hcount, hgroup, hnum⟩ := ih (Nat.mod_lt _ (by decide)) hgroups hplayers
      rw [hcount, hgroup, hnum]
      dsimp only
      refine ⟨?_, ?_, ?_⟩
      · rw [List.countP_cons]
        split <;> omega
      · by_cases hlfg : view.isLfgGroup guid = true
        · rw [List.find?_cons_of_pos hlfg]
          by_cases hfirst : count.numLfgGroups = 0
          · simp [hlfg, hfirst]
          · simp [hlfg, hfirst]
        · rw [List.find?_cons_of_neg hlfg]
          simp [hlfg]
      · rw [List.map_cons, List.sum_cons]
        omega
    · rw [if_neg hgo] at hgroups hplayers
      exact absurd ⟨hgroups, hplayers⟩ hgo

section Count

variable {view : LfgView} {dungeonsOf : Guid → LfgDungeonSet} {rolesOf : Guid → LfgRolesMap}
  {check : List Guid} {dungeon : LFGDungeonData} {count : PlayerCount} {proposal : LfgProposal}

theorem IsProposal.counts
    (h : IsProposal view dungeonsOf rolesOf check dungeon count proposal) :
    count.numLfgGroups = check.countP view.isLfgGroup ∧
      proposal.group = (check.find? view.isLfgGroup).getD 0 ∧
      dungeon.getMaxGroupSize =
        (check.map fun guid => (rolesOf guid).entries.length).sum % 256 := by
  have hgroups := h.groups
  have hsize := h.size
  rw [h.counted] at hgroups hsize
  obtain ⟨hcount, hgroup, hplayers⟩ :=
    countPlayers_all check (Nat.zero_lt_succ 255) hgroups hsize.le
  rw [← h.counted] at hcount hgroup hplayers
  refine ⟨hcount.trans (Nat.zero_add _), h.group.trans hgroup, ?_⟩
  rw [← h.size, hplayers, Nat.zero_add]

end Count

/-! ## The order of a combination -/

variable {check₁ check₂ : List Guid}

/-- One of the entries is a group that is inside a dungeon in progress. -/
def Refills (view : LfgView) (check : List Guid) : Prop :=
  ∃ guid ∈ check, view.isLfgGroup guid = true ∧ view.getOldState guid = .dungeon

/-- The first entry is inside a dungeon just when the group among the entries is. -/
def FrontTells (view : LfgView) (check : List Guid) : Prop :=
  (∃ guid ∈ check, view.isLfgGroup guid = true) →
    (view.getOldState (check.headD 0) = .dungeon ↔ Refills view check)

theorem filter_eq_of_perm (hperm : check₁.Perm check₂) {f : Guid → Bool} (h : check₁.countP f ≤ 1) :
    check₁.filter f = check₂.filter f := by
  have hfilter := hperm.filter f
  rw [List.countP_eq_length_filter] at h
  generalize check₁.filter f = found at h hfilter ⊢
  cases found with
  | nil => exact (List.nil_perm.mp hfilter).symm
  | cons guid rest =>
    have hrest : rest = [] :=
      List.eq_nil_of_length_eq_zero (Nat.le_zero.mp (Nat.le_of_succ_le_succ h))
    subst hrest
    exact List.singleton_perm.mp hfilter

theorem find?_eq_of_perm (hperm : check₁.Perm check₂) {f : Guid → Bool} (h : check₁.countP f ≤ 1) :
    check₁.find? f = check₂.find? f := by
  rw [← List.head?_filter, ← List.head?_filter, filter_eq_of_perm hperm h]

section Order

variable {view : LfgView} {dungeonsOf : Guid → LfgDungeonSet} {rolesOf : Guid → LfgRolesMap}
  {check : List Guid} {dungeon : LFGDungeonData} {count : PlayerCount} {proposal : LfgProposal}

/-- The flag is right just when the first entry tells whether a group is refilled. -/
theorem IsProposal.isNew_iff
    (h : IsProposal view dungeonsOf rolesOf check dungeon count proposal) :
    (proposal.isNew = false ↔ Refills view check) ↔ FrontTells view check := by
  have hone := h.groups
  rw [h.counts.1] at hone
  have hnew : proposal.isNew = false ↔
      check.countP view.isLfgGroup = 1 ∧ view.getOldState (check.headD 0) = .dungeon := by
    rw [h.isNew, h.counts.1, Bool.or_eq_false_iff, decide_eq_false_iff_not,
      decide_eq_false_iff_not, not_not, not_not]
  rw [hnew, FrontTells]
  by_cases hgroup : ∃ guid ∈ check, view.isLfgGroup guid = true
  · have hpos : 0 < check.countP view.isLfgGroup := List.countP_pos_iff.mpr hgroup
    have heq : check.countP view.isLfgGroup = 1 := by omega
    simp only [heq, true_and, hgroup, true_imp_iff]
  · have hzero : ¬ check.countP view.isLfgGroup = 1 := by
      intro heq
      exact hgroup (List.countP_pos_iff.mp (by omega))
    have hnone : ¬ Refills view check := by
      rintro ⟨guid, hmem, hlfg, -⟩
      exact hgroup ⟨guid, hmem, hlfg⟩
    simp only [hzero, false_and, hnone, hgroup, iff_self, false_imp_iff]

end Order

theorem refills_perm (view : LfgView) (h : check₁.Perm check₂) :
    Refills view check₁ ↔ Refills view check₂ := by
  rw [Refills, Refills]
  simp only [h.mem_iff]

/-- Two orders of a combination agree on the group that is refilled, and rightly so, just
when the first entry of either tells whether there is one. -/
theorem orders_agree_iff {view : LfgView} {s : Matching} {rand₁ rand₂ : Nat → Nat}
    {check₁ check₂ : List Guid} (hperm : check₁.Perm check₂) {proposal₁ proposal₂ : LfgProposal}
    (h₁ : created view rand₁ s check₁ = some proposal₁)
    (h₂ : created view rand₂ s check₂ = some proposal₂) :
    (proposal₁.isNew = proposal₂.isNew ∧ proposal₁.group = proposal₂.group ∧
        (proposal₁.isNew = false ↔ Refills view check₁)) ↔
      FrontTells view check₁ ∧ FrontTells view check₂ := by
  obtain ⟨dungeon₁, count₁, hproposal₁⟩ := isProposal_of_created h₁
  obtain ⟨dungeon₂, count₂, hproposal₂⟩ := isProposal_of_created h₂
  have hone := hproposal₁.groups
  rw [hproposal₁.counts.1] at hone
  have hgroup : proposal₁.group = proposal₂.group := by
    rw [hproposal₁.counts.2.1, hproposal₂.counts.2.1, find?_eq_of_perm hperm hone]
  have hrefills := refills_perm view hperm
  rw [← hproposal₁.isNew_iff, ← hproposal₂.isNew_iff]
  constructor
  · rintro ⟨hnew, -, hright⟩
    exact ⟨hright, hnew ▸ hright.trans hrefills⟩
  · rintro ⟨hright₁, hright₂⟩
    have hsame : proposal₁.isNew = false ↔ proposal₂.isNew = false :=
      (hright₁.trans hrefills).trans hright₂.symm
    exact ⟨Bool.eq_iff_iff.mpr (not_iff_not.mp (by simpa using hsame)), hgroup, hright₁⟩

/-- A group of the dungeon finder, which was left in some state, and players of their own. -/
def groupView (state : LfgState) : LfgView where
  now := 0
  getLFGDungeon _ := some ⟨.dungeon, 0, 1, 1, 3⟩
  isGroupGuid guid := guid = 0x1F50000000000001
  isLfgGroup guid := guid = 0x1F50000000000001
  hasIgnore _ _ := false
  getState _ := .queued
  getOldState guid := if guid = 0x1F50000000000001 then state else .none

def groupOfFour : LfgRolesMap :=
  (((OrderedMap.empty.insert 1 playerRoleTank).insert 2 playerRoleHealer).insert 3
    playerRoleDamage).insert 4 playerRoleDamage

/-- The group waits for the last damage dealer of its dungeon. -/
def groupAndPlayer (state : LfgState) : Matching :=
  let q := LFGQueue.empty.addQueueData (groupView state) 0x1F50000000000001 0
    (OrderedMap.ofKeys [6]) groupOfFour
  ⟨q.addQueueData (groupView state) 5 0 (OrderedMap.ofKeys [6])
    (OrderedMap.empty.insert 5 playerRoleDamage), .empty, 0, 0⟩

/-- A group that has finished its dungeon starts a new one in either order. -/
theorem orders_agree_finished :
    ∃ proposal₁ proposal₂,
      created (groupView .finishedDungeon) (fun _ => 0) (groupAndPlayer .finishedDungeon)
          [5, 0x1F50000000000001] = some proposal₁ ∧
        created (groupView .finishedDungeon) (fun _ => 0) (groupAndPlayer .finishedDungeon)
          [0x1F50000000000001, 5] = some proposal₂ ∧
        proposal₁.isNew = proposal₂.isNew ∧ proposal₁.group = proposal₂.group := by
  have hsome₁ : (created (groupView .finishedDungeon) (fun _ => 0)
      (groupAndPlayer .finishedDungeon) [5, 0x1F50000000000001]).isSome = true := by
    decide +kernel
  have hsome₂ : (created (groupView .finishedDungeon) (fun _ => 0)
      (groupAndPlayer .finishedDungeon) [0x1F50000000000001, 5]).isSome = true := by
    decide +kernel
  obtain ⟨proposal₁, h₁⟩ := Option.isSome_iff_exists.mp hsome₁
  obtain ⟨proposal₂, h₂⟩ := Option.isSome_iff_exists.mp hsome₂
  have hnot : ∀ check : List Guid, ¬ Refills (groupView .finishedDungeon) check := by
    rintro check ⟨guid, -, -, hstate⟩
    rw [groupView] at hstate
    dsimp only at hstate
    split at hstate <;> cases hstate
  have hagree := (orders_agree_iff (List.Perm.swap 0x1F50000000000001 5 []) h₁ h₂).mpr
    ⟨fun _ => iff_of_false (by decide) (hnot _), fun _ => iff_of_false (by decide) (hnot _)⟩
  exact ⟨proposal₁, proposal₂, h₁, h₂, hagree.1, hagree.2.1⟩

/-- A group inside a dungeon is refilled only when it stands before the player. -/
theorem order_matters :
    ¬ ∀ (view : LfgView) (s : Matching) (rand : Nat → Nat) (check₁ check₂ : List Guid)
      (proposal₁ proposal₂ : LfgProposal), check₁.Perm check₂ →
        created view rand s check₁ = some proposal₁ →
        created view rand s check₂ = some proposal₂ →
        proposal₁.isNew = proposal₂.isNew ∧ proposal₁.group = proposal₂.group ∧
          (proposal₁.isNew = false ↔ Refills view check₁) := by
  intro h
  have hnew : (created (groupView .dungeon) (fun _ => 0) (groupAndPlayer .dungeon)
      [5, 0x1F50000000000001]).map LfgProposal.isNew = some true := by
    decide +kernel
  have hold : (created (groupView .dungeon) (fun _ => 0) (groupAndPlayer .dungeon)
      [0x1F50000000000001, 5]).map LfgProposal.isNew = some false := by
    decide +kernel
  obtain ⟨proposal₁, h₁, hnew⟩ := Option.map_eq_some_iff.mp hnew
  obtain ⟨proposal₂, h₂, hold⟩ := Option.map_eq_some_iff.mp hold
  have hsame := (h _ _ _ _ _ _ _ (List.Perm.swap 0x1F50000000000001 5 []) h₁ h₂).1
  rw [hnew, hold] at hsame
  cases hsame

end Cataclysm.Lfg
