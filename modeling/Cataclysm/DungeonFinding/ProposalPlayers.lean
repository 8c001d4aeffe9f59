import Cataclysm.DungeonFinding.Proposals

/-!
# The players of a proposal

A proposal of two or more entries has all their players, fills its dungeon exactly, and
gives every player one of the roles that the dungeon still takes. Its dungeon was selected
by every entry, and no two of its players ignore each other.

## Implementation notes

The collection of the players is a fold over the players of the entries in order. When it
is as long as that list, nobody was left out on the way.
-/

namespace Cataclysm.Lfg
open Matching

/-! ## Collecting the players -/

/-- The players of the entries, one entry after the other. -/
def playersOf (rolesOf : Guid → LfgRolesMap) (check : List Guid) : List (Guid × UInt8) :=
  check.flatMap fun guid => (rolesOf guid).entries

theorem collectRoles_eq (view : LfgView) (rolesOf : Guid → LfgRolesMap) (check : List Guid) :
    collectRoles view rolesOf check =
      (playersOf rolesOf check).foldl (addProposalRole view) .empty := by
  rw [collectRoles, playersOf, List.foldl_flatMap]

theorem length_playersOf (rolesOf : Guid → LfgRolesMap) (check : List Guid) :
    (playersOf rolesOf check).length =
      (check.map fun guid => (rolesOf guid).entries.length).sum := by
  rw [playersOf, List.length_flatMap]

section Collect

variable {view : LfgView}

theorem length_addProposalRole (collected : LfgRolesMap) (entry : Guid × UInt8) :
    (addProposalRole view collected entry).entries.length ≤ collected.entries.length + 1 := by
  rw [addProposalRole]
  split
  · exact Nat.le_succ _
  · rw [(collected.perm_insert entry.1 entry.2).length_eq, List.length_cons]
    exact Nat.succ_le_succ (List.length_filter_le _ _)

/-- A player who makes the collection longer is new and ignores nobody in it. -/
theorem added_of_length {collected : LfgRolesMap} {entry : Guid × UInt8}
    (h : collected.entries.length + 1 ≤ (addProposalRole view collected entry).entries.length) :
    (addProposalRole view collected entry).entries.Perm (entry :: collected.entries) ∧
      ∀ other ∈ collected.keys, view.hasIgnore entry.1 other = false := by
  rw [addProposalRole] at h ⊢
  split at h
  · omega
  next hfree =>
  rw [if_neg hfree]
  have hinsert := collected.perm_insert entry.1 entry.2
  have hnew : collected.find? entry.1 = none := by
    rcases hfind : collected.find? entry.1 with _ | role
    · rfl
    · have hinsertLength := hinsert.length_eq
      have heraseLength := (OrderedMap.perm_erase hfind).length_eq
      rw [List.length_cons] at hinsertLength heraseLength
      omega
  rw [OrderedMap.erase_of_find?_eq_none hnew] at hinsert
  refine ⟨hinsert, ?_⟩
  intro other hother
  have hne : other ≠ entry.1 := by
    rintro rfl
    have hcontains := OrderedMap.mem_keys.mp hother
    rw [OrderedMap.contains, hnew] at hcontains
    cases hcontains
  by_contra hignores
  apply hfree
  rw [List.any_eq_true]
  refine ⟨other, hother, ?_⟩
  rw [Bool.and_eq_true]
  exact ⟨decide_eq_true hne, Bool.of_not_eq_false hignores⟩

theorem length_collect (players : List (Guid × UInt8)) (collected : LfgRolesMap) :
    (players.foldl (addProposalRole view) collected).entries.length ≤
      collected.entries.length + players.length := by
  induction players generalizing collected with
  | nil => exact le_refl _
  | cons entry rest ih =>
    have hhead : (addProposalRole view collected entry).entries.length ≤ _ :=
      length_addProposalRole collected entry
    have hrest := ih (addProposalRole view collected entry)
    rw [List.foldl_cons, List.length_cons]
    omega

/-- A collection of full length holds all the players, and nobody in it ignores another. -/
theorem collect_of_length {players : List (Guid × UInt8)} {collected : LfgRolesMap}
    (h : collected.entries.length + players.length ≤
      (players.foldl (addProposalRole view) collected).entries.length) :
    (players.foldl (addProposalRole view) collected).entries.Perm
        (players ++ collected.entries) ∧
      players.Pairwise (fun entry other => view.hasIgnore other.1 entry.1 = false) ∧
      ∀ entry ∈ players, ∀ other ∈ collected.keys, view.hasIgnore entry.1 other = false := by
  induction players generalizing collected with
  | nil => exact ⟨.refl _, .nil, fun _ h => nomatch h⟩
  | cons entry rest ih =>
    have hrest : (rest.foldl (addProposalRole view)
        (addProposalRole view collected entry)).entries.length ≤ _ :=
      length_collect rest (addProposalRole view collected entry)
    rw [List.foldl_cons, List.length_cons] at h
    have hlonger : collected.entries.length + 1 ≤
        (addProposalRole view collected entry).entries.length := by
      omega
    obtain ⟨hperm, hfree⟩ := added_of_length hlonger
    have hlength := hperm.length_eq
    rw [List.length_cons] at hlength
    obtain ⟨hall, hpairs, hold⟩ := ih (by omega : (addProposalRole view collected
      entry).entries.length + rest.length ≤ _)
    have hkeys : ∀ other, other ∈ (addProposalRole view collected entry).keys ↔
        other = entry.1 ∨ other ∈ collected.keys := by
      intro other
      rw [OrderedMap.keys, (hperm.map Prod.fst).mem_iff, List.map_cons, List.mem_cons]
      rfl
    refine ⟨?_, ?_, ?_⟩
    · have hnext := hall.trans (hperm.append_left rest)
      exact hnext.trans List.perm_middle
    · refine List.pairwise_cons.mpr ⟨?_, hpairs⟩
      intro other hother
      exact hold other hother entry.1 ((hkeys entry.1).mpr (Or.inl rfl))
    · intro other hother earlier hearlier
      rcases List.mem_cons.mp hother with rfl | hmem
      · exact hfree earlier hearlier
      · exact hold other hmem earlier ((hkeys earlier).mpr (Or.inr hearlier))

end Collect

/-! ## A sound proposal -/

variable {dungeonsOf : Guid → LfgDungeonSet} {check : List Guid}

/-- What a proposal promises its entries. -/
structure SoundProposal (view : LfgView) (dungeonsOf : Guid → LfgDungeonSet)
    (rolesOf : Guid → LfgRolesMap) (check : List Guid) (dungeon : LFGDungeonData)
    (proposal : LfgProposal) : Prop where
  queues : proposal.queues = check
  players : ∀ guid, proposal.players.contains guid = true ↔
    ∃ entry ∈ check, (rolesOf entry).contains guid = true
  known : view.getLFGDungeon proposal.dungeonId = some dungeon
  size : proposal.players.entries.length = dungeon.getMaxGroupSize
  single : ∀ guid player, proposal.players.find? guid = some player →
    combatRole player.role ∈ combatRoles
  tanks : (proposal.players.countValues fun player => combatRole player.role = playerRoleTank) =
    dungeon.requiredTanks
  healers : (proposal.players.countValues fun player =>
    combatRole player.role = playerRoleHealer) = dungeon.requiredHeals
  damage : (proposal.players.countValues fun player =>
    combatRole player.role = playerRoleDamage) = dungeon.requiredDamagedealers
  common : ∀ entry ∈ check, (dungeonsOf entry).contains proposal.dungeonId = true
  groups : check.countP view.isLfgGroup ≤ 1
  ignores : check.Pairwise fun entry other => ∀ guid guid',
    (rolesOf entry).contains guid = true → (rolesOf other).contains guid' = true →
      ¬ (view.hasIgnore guid guid' = true ∧ view.hasIgnore guid' guid = true)

theorem contains_commonDungeons {dungeonId : Nat}
    (h : (commonDungeons dungeonsOf check).contains dungeonId = true) :
    ∀ entry ∈ check, (dungeonsOf entry).contains dungeonId = true := by
  have hfold : ∀ (rest : List Guid) (dungeons : LfgDungeonSet),
      (rest.foldl (fun dungeons guid =>
        dungeons.filter fun id _ => (dungeonsOf guid).contains id) dungeons).contains dungeonId =
          true →
        dungeons.contains dungeonId = true ∧
          ∀ entry ∈ rest, (dungeonsOf entry).contains dungeonId = true := by
    intro rest
    induction rest with
    | nil => exact fun dungeons h => ⟨h, fun _ h => nomatch h⟩
    | cons guid rest ih =>
      intro dungeons h
      obtain ⟨hfiltered, hrest⟩ := ih _ h
      rw [OrderedMap.contains, OrderedMap.find?_filter_keys] at hfiltered
      by_cases hguid : (dungeonsOf guid).contains dungeonId = true
      · rw [if_pos hguid] at hfiltered
        exact ⟨hfiltered, List.forall_mem_cons.mpr ⟨hguid, hrest⟩⟩
      · rw [if_neg hguid] at hfiltered
        cases hfiltered
  cases check with
  | nil => exact fun _ h => nomatch h
  | cons guid rest =>
    obtain ⟨hfirst, hrest⟩ := hfold rest _ h
    exact List.forall_mem_cons.mpr ⟨hfirst, hrest⟩

theorem find?_proposalPlayers (count : PlayerCount) (isNew : Bool) (roles : LfgRolesMap)
    (guid : Guid) :
    (proposalPlayers count isNew roles).find? guid = (roles.find? guid).map fun role =>
      ⟨role, if !isNew ∧ (count.groups.find? guid).getD 0 ≠ 0 ∧
        (count.groups.find? guid).getD 0 = count.group then .agree else .pending,
        (count.groups.find? guid).getD 0⟩ := by
  rw [proposalPlayers]
  dsimp only
  rw [OrderedMap.find?_foldl_entries roles
    (f := fun entry _ => some ⟨entry.2,
      if !isNew ∧ (count.groups.find? entry.1).getD 0 ≠ 0 ∧
        (count.groups.find? entry.1).getD 0 = count.group then .agree else .pending,
      (count.groups.find? entry.1).getD 0⟩)
    (fun t entry other => OrderedMap.find?_insert t entry.1 other _)]
  cases roles.find? guid <;> rfl

theorem role_proposalPlayers (count : PlayerCount) (isNew : Bool) (roles : LfgRolesMap)
    (guid : Guid) :
    ((proposalPlayers count isNew roles).find? guid).map LfgProposalPlayer.role =
      roles.find? guid := by
  rw [find?_proposalPlayers, Option.map_map]
  exact Option.map_id'

theorem combatRole_assigned {selected role : UInt8} (hrole : role ∈ combatRoles) :
    combatRole ((selected &&& playerRoleLeader) ||| role) = role := by
  exact forall_lt_bit (P := fun role selected =>
    combatRole ((selected &&& playerRoleLeader) ||| role) = role) 256 (by decide +kernel)
    selected.toNat_lt hrole

section Assigned

variable {players : OrderedMap Guid LfgProposalPlayer} {collected : LfgRolesMap}
  {role : Guid → UInt8}

/-- The players of the map that an assignment leaves. -/
theorem keys_of_assigned
    (h : ∀ guid, (players.find? guid).map LfgProposalPlayer.role =
      (assign collected role).find? guid) : players.keys = collected.keys := by
  refine OrderedMap.keys_eq_of_contains fun guid => ?_
  have hguid := congrArg Option.isSome (h guid)
  rw [Option.isSome_map, assign, OrderedMap.find?_mapValues, Option.isSome_map] at hguid
  exact hguid

theorem role_of_assigned
    (h : ∀ guid, (players.find? guid).map LfgProposalPlayer.role =
      (assign collected role).find? guid)
    (hcombat : ∀ guid ∈ collected.keys, role guid ∈ combatRoles) {guid : Guid}
    {player : LfgProposalPlayer} (hplayer : players.find? guid = some player) :
    combatRole player.role = role guid := by
  have hguid := h guid
  rw [hplayer, assign, OrderedMap.find?_mapValues, Option.map_some] at hguid
  obtain ⟨selected, hselected, heq⟩ := Option.map_eq_some_iff.mp hguid.symm
  have hkey : guid ∈ collected.keys :=
    OrderedMap.mem_keys.mpr (OrderedMap.contains_of_find? hselected)
  rw [← heq]
  exact combatRole_assigned (hcombat guid hkey)

theorem count_of_assigned
    (h : ∀ guid, (players.find? guid).map LfgProposalPlayer.role =
      (assign collected role).find? guid)
    (hcombat : ∀ guid ∈ collected.keys, role guid ∈ combatRoles) (bit : UInt8) :
    (players.countValues fun player => combatRole player.role = bit) =
      collected.keys.countP fun guid => role guid = bit := by
  rw [OrderedMap.countValues_eq_keys, keys_of_assigned h]
  refine List.countP_congr fun guid hguid => ?_
  have hcontains : players.contains guid = true := by
    rw [← keys_of_assigned h] at hguid
    exact OrderedMap.mem_keys.mp hguid
  obtain ⟨player, hplayer⟩ := Option.isSome_iff_exists.mp hcontains
  rw [hplayer, Option.any_some, role_of_assigned h hcombat hplayer]

/-- Roles that are given at most as often as required, to as many players as required in
all, are given exactly so often. -/
theorem IsAssignment.counts_eq {dungeon : LFGDungeonData}
    (h : IsAssignment dungeon collected role)
    (hsize : collected.keys.length = dungeon.getMaxGroupSize) :
    (collected.keys.countP fun guid => role guid = playerRoleTank) = dungeon.requiredTanks ∧
      (collected.keys.countP fun guid => role guid = playerRoleHealer) =
        dungeon.requiredHeals ∧
      (collected.keys.countP fun guid => role guid = playerRoleDamage) =
        dungeon.requiredDamagedealers := by
  have hsum : ∀ guids : List Guid, (∀ guid ∈ guids, role guid ∈ combatRoles) →
      guids.length = (guids.countP fun guid => role guid = playerRoleTank) +
        (guids.countP fun guid => role guid = playerRoleHealer) +
        guids.countP fun guid => role guid = playerRoleDamage := by
    intro guids
    induction guids with
    | nil => exact fun _ => rfl
    | cons guid rest ih =>
      intro hcombat
      have hrest := ih fun other hother => hcombat other (List.mem_cons_of_mem _ hother)
      have hone : ∀ bit ∈ combatRoles, 1 = (if bit = playerRoleTank then 1 else 0) +
          (if bit = playerRoleHealer then 1 else 0) +
          if bit = playerRoleDamage then 1 else 0 := by
        decide +kernel
      have hguid := hone (role guid) (hcombat guid List.mem_cons_self)
      simp only [List.length_cons, List.countP_cons, decide_eq_true_eq]
      omega
  have hall := hsum collected.keys h.combat
  have htanks := h.tanks
  have hhealers := h.healers
  have hdamage := h.damage
  rw [LFGDungeonData.getMaxGroupSize] at hsize
  omega

end Assigned

variable {rolesOf : Guid → LfgRolesMap}

/-- The collection of a proposal has everybody. -/
theorem IsProposal.collected {view : LfgView} {dungeon : LFGDungeonData} {count : PlayerCount}
    {proposal : LfgProposal} (h : IsProposal view dungeonsOf rolesOf check dungeon count proposal)
    (hmore : 1 < check.length)
    (htotal : (check.map fun guid => (rolesOf guid).entries.length).sum ≤ 255) :
    (playersOf rolesOf check).length = dungeon.getMaxGroupSize ∧
      (collectRoles view rolesOf check).entries.Perm (playersOf rolesOf check) ∧
      (playersOf rolesOf check).Pairwise fun entry other =>
        view.hasIgnore other.1 entry.1 = false := by
  have hsize := h.counts.2.2
  have hignores := h.ignores hmore
  rw [ignoredPlayers, h.size, hsize] at hignores
  have hcollect := collectRoles_eq view rolesOf check
  have hle : ((playersOf rolesOf check).foldl (addProposalRole view) .empty).entries.length ≤ _ :=
    length_collect (playersOf rolesOf check) .empty
  have hnone : (OrderedMap.empty : LfgRolesMap).entries.length = 0 := rfl
  rw [← hcollect, hnone, length_playersOf] at hle
  have hfull : (OrderedMap.empty : LfgRolesMap).entries.length +
      (playersOf rolesOf check).length ≤
        ((playersOf rolesOf check).foldl (addProposalRole view) .empty).entries.length := by
    rw [← hcollect, hnone, length_playersOf]
    omega
  obtain ⟨hperm, hpairs, -⟩ := collect_of_length hfull
  have hempty : (OrderedMap.empty : LfgRolesMap).entries = [] := rfl
  rw [← hcollect, hempty, List.append_nil] at hperm
  refine ⟨?_, hperm, hpairs⟩
  rw [length_playersOf]
  omega

theorem contains_playersOf {guid : Guid} :
    guid ∈ (playersOf rolesOf check).map Prod.fst ↔
      ∃ entry ∈ check, (rolesOf entry).contains guid = true := by
  rw [playersOf, List.map_flatMap, List.mem_flatMap]
  constructor
  · rintro ⟨entry, hentry, hguid⟩
    exact ⟨entry, hentry, OrderedMap.mem_keys.mp hguid⟩
  · rintro ⟨entry, hentry, hcontains⟩
    exact ⟨entry, hentry, OrderedMap.mem_keys.mpr hcontains⟩

theorem IsProposal.sound {view : LfgView} {dungeon : LFGDungeonData} {count : PlayerCount}
    {proposal : LfgProposal} (h : IsProposal view dungeonsOf rolesOf check dungeon count proposal)
    (hmore : 1 < check.length)
    (htotal : (check.map fun guid => (rolesOf guid).entries.length).sum ≤ 255) :
    SoundProposal view dungeonsOf rolesOf check dungeon proposal := by
  obtain ⟨hsize, hperm, hpairs⟩ := h.collected hmore htotal
  have hlength : (collectRoles view rolesOf check).keys.length = dungeon.getMaxGroupSize := by
    rw [OrderedMap.keys, List.length_map, hperm.length_eq, hsize]
  have haccepted := h.roles hmore
  have hplayers := h.players
  rw [proposalRoles, if_pos hmore] at haccepted hplayers
  have hfew : (collectRoles view rolesOf check).keys.length ≤ 255 := by
    rw [OrderedMap.keys, List.length_map, hperm.length_eq, length_playersOf]
    exact htotal
  obtain ⟨role, hassignment, hassigned⟩ := assignment_of_accepted hfew haccepted
  have hroles : ∀ guid, (proposal.players.find? guid).map LfgProposalPlayer.role =
      (assign (collectRoles view rolesOf check) role).find? guid := by
    intro guid
    rw [hplayers, role_proposalPlayers, hassigned]
  have hkeys := keys_of_assigned hroles
  obtain ⟨htanks, hhealers, hdamage⟩ := hassignment.counts_eq hlength
  exact {
    queues := h.queues
    players := by
      intro guid
      rw [← OrderedMap.mem_keys, hkeys, ← contains_playersOf, OrderedMap.keys]
      exact (hperm.map Prod.fst).mem_iff
    known := h.known
    size := by
      have hcount := congrArg List.length hkeys
      rw [hlength, OrderedMap.keys, List.length_map] at hcount
      exact hcount
    single := by
      intro guid player hplayer
      have hkey : guid ∈ (collectRoles view rolesOf check).keys :=
        hkeys ▸ OrderedMap.mem_keys.mpr (OrderedMap.contains_of_find? hplayer)
      rw [role_of_assigned hroles hassignment.combat hplayer]
      exact hassignment.combat guid hkey
    tanks := (count_of_assigned hroles hassignment.combat playerRoleTank).trans htanks
    healers := (count_of_assigned hroles hassignment.combat playerRoleHealer).trans hhealers
    damage := (count_of_assigned hroles hassignment.combat playerRoleDamage).trans hdamage
    common := contains_commonDungeons h.chosen
    groups := h.counts.1 ▸ h.groups
    ignores := by
      refine (List.pairwise_flatMap.mp hpairs).2.imp ?_
      rintro entry other hfree guid guid' hguid hguid' ⟨-, hignores⟩
      obtain ⟨role, hrole⟩ := Option.isSome_iff_exists.mp hguid
      obtain ⟨role', hrole'⟩ := Option.isSome_iff_exists.mp hguid'
      have hnot := hfree _ (OrderedMap.find?_eq_some_iff.mp hrole) _
        (OrderedMap.find?_eq_some_iff.mp hrole')
      exact Bool.noConfusion (hnot.symm.trans hignores) }

/-- A match of two or more entries with at most 255 players makes a sound proposal. -/
theorem sound_of_match {view : LfgView} {rand : Nat → Nat} {check : List Guid} {s : Matching}
    (hmore : 2 ≤ check.length)
    (htotal : (check.map fun guid => (s.queue.rolesOf guid).entries.length).sum ≤ 255)
    (hmatch : (checkCompatibility view rand check s).1 = .isMatch) :
    ∃ dungeon proposal, created view rand s check = some proposal ∧
      SoundProposal view s.queue.dungeonsOf s.queue.rolesOf check dungeon proposal := by
  obtain ⟨dungeon, count, proposal, hproposal, hcreated⟩ := proposal_of_match hmatch
  exact ⟨dungeon, proposal, hcreated, hproposal.sound hmore htotal⟩

/-- The group in its dungeon and the last damage dealer. -/
theorem sound_group_and_player :
    ∃ dungeon proposal,
      created (groupView .dungeon) (fun _ => 0) (groupAndPlayer .dungeon)
          [0x1F50000000000001, 5] = some proposal ∧
        SoundProposal (groupView .dungeon) (groupAndPlayer .dungeon).queue.dungeonsOf
          (groupAndPlayer .dungeon).queue.rolesOf [0x1F50000000000001, 5] dungeon proposal :=
  sound_of_match (by decide) (by decide +kernel) (by decide +kernel)

/-- Players from guid 10 on ignore everybody. -/
def ignoringView : LfgView :=
  { groupView .none with hasIgnore := fun guid guid' => 10 ≤ guid || 10 ≤ guid' }

theorem sorted_crowd (number : Nat) :
    ((List.range number).map fun guid => (guid + 10, playerRoleDamage)).Pairwise
      fun entry other => entry.1 < other.1 :=
  List.pairwise_map.mpr (List.pairwise_lt_range.imp fun h => Nat.add_lt_add_right h 10)

def crowd (number : Nat) : LfgRolesMap :=
  ⟨(List.range number).map fun guid => (guid + 10, playerRoleDamage), sorted_crowd number⟩

/-- Five players who fill a dungeon, and 256 players who ignore them. -/
def groupAndCrowd : Matching :=
  let q := LFGQueue.empty.addQueueData ignoringView 0x1F50000000000002 0
    (OrderedMap.ofKeys [6]) (groupOfFour.insert 5 playerRoleDamage)
  ⟨q.addQueueData ignoringView 0x1F50000000000003 0 (OrderedMap.ofKeys [6]) (crowd 256),
    .empty, 0, 0⟩

/-- A crowd of 256 players is left out of the proposal unnoticed. -/
theorem crowd_left_out :
    ¬ ∀ (view : LfgView) (rand : Nat → Nat) (check : List Guid) (s : Matching),
      2 ≤ check.length → (checkCompatibility view rand check s).1 = .isMatch →
        ∃ dungeon proposal, created view rand s check = some proposal ∧
          SoundProposal view s.queue.dungeonsOf s.queue.rolesOf check dungeon proposal := by
  intro h
  have hmatch : (checkCompatibility ignoringView (fun _ => 0)
      [0x1F50000000000002, 0x1F50000000000003] groupAndCrowd).1 = .isMatch := by
    decide +kernel
  have hmissing : (created ignoringView (fun _ => 0) groupAndCrowd
      [0x1F50000000000002, 0x1F50000000000003]).map
        (fun proposal => proposal.players.contains 10) = some false := by
    decide +kernel
  obtain ⟨dungeon, proposal, hcreated, hsound⟩ :=
    h ignoringView (fun _ => 0) [0x1F50000000000002, 0x1F50000000000003] groupAndCrowd
      (Nat.le_refl 2) hmatch
  rw [hcreated, Option.map_some] at hmissing
  have hplayer := (hsound.players 10).mpr
    ⟨0x1F50000000000003, List.mem_cons_of_mem _ List.mem_cons_self, by decide +kernel⟩
  exact Bool.noConfusion (hplayer.symm.trans (Option.some.inj hmissing))

end Cataclysm.Lfg
