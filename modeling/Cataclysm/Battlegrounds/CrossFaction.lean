import Cataclysm.Battlegrounds.BattlegroundQueue

/-!
# Filling cross-faction battlegrounds

The groups of the mixed queue are put into two selection pools. Before a battleground starts, as
many players of each faction as the smaller side has go to their own team; then the groups that are
left, largest first, go to the team with more unfilled slots.

## Implementation notes

A group is the information of the queue with its address and its original team. Nothing writes the
`OTeam` of a group, so `oTeam` may be either team, whatever the faction of the players: only
whether it is `ALLIANCE` is asked. The team of a group is changed while the pools are filled;
`assigned` holds these changes. The counts of players are unbounded, except for `queuedPeople`,
which is a `uint8`. `PreAddPlayers` also counts `Added`, which nothing reads.
-/

namespace Cataclysm.Battlegrounds

/-- A group of the mixed queue with its number. -/
structure MixedGroup where
  number : Nat
  info : GroupQueueInfo
  oTeam : Team
  deriving DecidableEq

def MixedGroup.size (g : MixedGroup) : Nat := g.info.size

/-- The group is not invited yet. -/
def MixedGroup.waits (g : MixedGroup) : Bool := !g.info.isInvited

/-- The players of some groups. -/
def playersOf (groups : List MixedGroup) : Nat := (groups.map MixedGroup.size).sum

/-- The groups selected for a side, and how many players they are. -/
structure SelectionPool where
  selectedGroups : List MixedGroup
  playerCount : Nat
  deriving DecidableEq

namespace SelectionPool

def init : SelectionPool := ⟨[], 0⟩

/-- The pool after `AddGroup`, and what it returns. -/
def addGroup (pool : SelectionPool) (ginfo : MixedGroup) (desiredCount : Nat) :
    SelectionPool × Bool :=
  if ginfo.waits && pool.playerCount + ginfo.size ≤ desiredCount then
    (⟨pool.selectedGroups ++ [ginfo], pool.playerCount + ginfo.size⟩, true)
  else (pool, pool.playerCount < desiredCount)

end SelectionPool

/-- The groups in the order in which a `QueuedGroupMap` is gone through backwards. -/
def byPlayers (groups : List MixedGroup) : List MixedGroup :=
  (groups.insertionSort fun g g' => g.size ≤ g'.size).reverse

/-- What a call of `FillXPlayersToBG` reads besides the queue. -/
structure FillCall where
  crossFactionEnabled : Bool
  isTesting : Bool
  start : Bool
  minPlayers : Nat
  maxPlayers : Nat
  freeSlotsForTeam : Team → Nat

def FillCall.free (call : FillCall) (team : Team) : Nat :=
  if call.start then call.maxPlayers else call.freeSlotsForTeam team

/-- The pools, the teams that were assigned, and the counters `valiFree` and `vhordeFree`. -/
structure Filling where
  pools : Team → SelectionPool
  assigned : OrderedMap Nat Team
  left : Team → Int

/-- One group of `PreAddPlayers`, with `LeftToAdd`. -/
def preAddGroup (maxInTeam : Nat) (s : (Team → SelectionPool) × Nat) (g : MixedGroup) :
    (Team → SelectionPool) × Nat :=
  if g.size ≤ s.2 then
    match (s.1 g.oTeam).addGroup g maxInTeam with
    | (pool, true) => (Function.update s.1 g.oTeam pool, s.2 - g.size)
    | (pool, false) => (Function.update s.1 g.oTeam pool, s.2)
  else s

/-- Groups go to their own team, the largest first. -/
def preAddPlayers (pools : Team → SelectionPool) (preGroupMap : List MixedGroup)
    (maxAdd maxInTeam : Nat) : (Team → SelectionPool) × Nat :=
  (byPlayers preGroupMap).foldl (preAddGroup maxInTeam) (pools, maxAdd)

/-- The waiting groups of a faction. -/
def ownGroups (groups : List MixedGroup) (team : Team) : List MixedGroup :=
  groups.filter fun g => g.waits && g.oTeam = team

/-- As many players as both teams can get of their own. -/
def smallestOfTeams (free : Team → Nat) (groups : List MixedGroup) : Nat :=
  min (min (free .alliance) (playersOf (ownGroups groups .alliance)))
    (min (free .horde) (playersOf (ownGroups groups .horde)))

/-- The state before the groups that are left are placed. -/
def preFill (start : Bool) (free : Team → Nat) (groups : List MixedGroup) : Filling :=
  if start then
    let smallest := smallestOfTeams free groups
    let alliance := preAddPlayers (fun _ => .init) (ownGroups groups .alliance) smallest
      (free .alliance)
    let horde := preAddPlayers alliance.1 (ownGroups groups .horde) smallest (free .horde)
    ⟨horde.1, .empty, fun team =>
      (free team : Int) - if team = .alliance then alliance.2 else horde.2⟩
  else ⟨fun _ => .init, .empty, fun team => free team⟩

namespace Filling

/-- The team that the group was put into. -/
def teamOf (s : Filling) (g : MixedGroup) : Team := (s.assigned.find? g.number).getD g.info.team

/-- The team that the counters ask for. -/
def wantedTeam (s : Filling) (g : MixedGroup) : Team :=
  if s.left .alliance = s.left .horde then s.teamOf g
  else if s.left .alliance < s.left .horde then .horde
  else .alliance

def skips (s : Filling) (g : MixedGroup) : Bool :=
  g.info.isInvited || g ∈ (s.pools .alliance).selectedGroups ||
    g ∈ (s.pools .horde).selectedGroups || s.left .alliance = 0 && s.left .horde = 0

/-- One group of the last loop of `FillXPlayersToBG`. -/
def place (free : Team → Nat) (s : Filling) (g : MixedGroup) : Filling :=
  if s.skips g then s
  else
    let team := s.wantedTeam g
    let assigned := if s.left .alliance = s.left .horde then s.assigned
      else s.assigned.insert g.number team
    match (s.pools team).addGroup g (free team) with
    | (pool, true) =>
      ⟨Function.update s.pools team pool, assigned,
        Function.update s.left team (s.left team - g.size)⟩
    | (pool, false) => ⟨Function.update s.pools team pool, assigned, s.left⟩

/-- The slots of a team that no selected player takes. -/
def unfilled (s : Filling) (free : Team → Nat) (team : Team) : Int :=
  free team - playersOf (s.pools team).selectedGroups

/-- If the group is placed then it is placed in the team with more unfilled slots. -/
def FairlyPlaced (free : Team → Nat) (s : Filling) (g : MixedGroup) : Prop :=
  ∀ team, g ∈ ((s.place free g).pools team).selectedGroups →
    g ∉ (s.pools team).selectedGroups →
    (s.place free g).teamOf g = team ∧ s.unfilled free team.other ≤ s.unfilled free team

/-- The group does not fit and is not added, but `AddGroup` returns true, as its team has free
slots, and the counter of the team is lowered for it. -/
def Overcounts (free : Team → Nat) (s : Filling) (g : MixedGroup) : Prop :=
  s.skips g = false ∧ (s.pools (s.wantedTeam g)).playerCount < free (s.wantedTeam g) ∧
    free (s.wantedTeam g) < (s.pools (s.wantedTeam g)).playerCount + g.size

end Filling

/-- `queuedPeople`. -/
def queuedPeople (groups : List MixedGroup) : Nat :=
  groups.foldl (fun n g => if g.info.isInvited then n else (n + g.size) % 2 ^ 8) 0

/-- The state that `FillXPlayersToBG` leaves when it returns true. -/
def fillXPlayersToBG (call : FillCall) (groups : List MixedGroup) : Option Filling :=
  if call.crossFactionEnabled &&
      (call.isTesting || call.minPlayers * 2 ≤ queuedPeople groups || !call.start) then
    some ((byPlayers groups).foldl (Filling.place call.free)
      (preFill call.start call.free groups))
  else none

/-- What the filling is meant to do. -/
structure WellFilled (call : FillCall) (groups : List MixedGroup) : Prop where
  counted : queuedPeople groups = playersOf (groups.filter MixedGroup.waits)
  onePool : ∀ s, fillXPlayersToBG call groups = some s →
    ∀ g ∈ (s.pools .alliance).selectedGroups, g ∉ (s.pools .horde).selectedGroups
  withinFree : ∀ s, fillXPlayersToBG call groups = some s →
    ∀ team, playersOf (s.pools team).selectedGroups ≤ call.free team
  fair : (fillXPlayersToBG call groups).isSome → ∀ before g after,
    byPlayers groups = before ++ g :: after →
      (before.foldl (Filling.place call.free) (preFill call.start call.free groups)).FairlyPlaced
        call.free g

/-! ### The filling as it is meant -/

/-- The groups that fit, in the order given, into a number of slots. -/
def ownTeamGroups : Nat → List MixedGroup → List MixedGroup
  | _, [] => []
  | slots, g :: rest =>
    if g.size ≤ slots then g :: ownTeamGroups (slots - g.size) rest
    else ownTeamGroups slots rest

/-- The groups of a faction that go to their own team before a start. -/
def preselected (call : FillCall) (groups : List MixedGroup) (team : Team) : List MixedGroup :=
  if call.start then
    ownTeamGroups (smallestOfTeams call.free groups) (byPlayers (ownGroups groups team))
  else []

/-- The team with more room; the group's own one when both have the same. -/
def roomierTeam (room : Team → Nat) (g : MixedGroup) : Team :=
  if room .alliance = room .horde then g.info.team
  else if room .horde < room .alliance then .alliance
  else .horde

/-- Placed one after the other in the roomier team, all groups fit until both teams are full. -/
def AllFit : (Team → Nat) → List MixedGroup → Prop
  | _, [] => True
  | room, g :: rest =>
    (∀ team, room team = 0) ∨
      g.size ≤ room (roomierTeam room g) ∧
        AllFit (Function.update room (roomierTeam room g) (room (roomierTeam room g) - g.size))
          rest

/-- The part of a list that waits and does not go to its own team. -/
def pending (call : FillCall) (groups list : List MixedGroup) : List MixedGroup :=
  list.filter fun g =>
    g.waits && g ∉ preselected call groups .alliance && g ∉ preselected call groups .horde

/-- The groups of the last loop that can be placed. -/
def remaining (call : FillCall) (groups : List MixedGroup) : List MixedGroup :=
  pending call groups (byPlayers groups)

variable {call : FillCall} {groups : List MixedGroup} {free : Team → Nat} {s : Filling}

/-! ### Counting -/

theorem playersOf_append (groups groups' : List MixedGroup) :
    playersOf (groups ++ groups') = playersOf groups + playersOf groups' := by
  rw [playersOf, List.map_append, List.sum_append, playersOf, playersOf]

theorem playersOf_cons (g : MixedGroup) (groups : List MixedGroup) :
    playersOf (g :: groups) = g.size + playersOf groups := by
  rw [playersOf, List.map_cons, List.sum_cons, playersOf]

/-- `queuedPeople` is the number of waiting players modulo `2 ^ 8`. -/
theorem queuedPeople_eq (groups : List MixedGroup) :
    queuedPeople groups = playersOf (groups.filter MixedGroup.waits) % 2 ^ 8 := by
  suffices h : ∀ n, groups.foldl (fun n g => if g.info.isInvited then n else (n + g.size) % 2 ^ 8)
      (n % 2 ^ 8) = (n + playersOf (groups.filter MixedGroup.waits)) % 2 ^ 8 by
    simpa [queuedPeople] using h 0
  induction groups with
  | nil => exact fun n => rfl
  | cons g rest ih =>
    intro n
    rw [List.foldl_cons, List.filter_cons, MixedGroup.waits]
    cases g.info.isInvited with
    | true => exact ih n
    | false =>
      rw [if_neg Bool.false_ne_true, if_pos Bool.not_false, playersOf_cons, Nat.mod_add_mod,
        ih, Nat.add_assoc]

theorem perm_byPlayers (groups : List MixedGroup) : (byPlayers groups).Perm groups :=
  (List.reverse_perm _).trans (List.perm_insertionSort _ groups)

theorem playersOf_perm {groups groups' : List MixedGroup} (h : groups.Perm groups') :
    playersOf groups = playersOf groups' :=
  (h.map _).sum_nat

/-! ### One group for one pool -/

namespace SelectionPool

variable {pool : SelectionPool} {g : MixedGroup} {desired : Nat}

theorem addGroup_fits (hwaits : g.waits = true) (hfits : pool.playerCount + g.size ≤ desired) :
    pool.addGroup g desired =
      (⟨pool.selectedGroups ++ [g], pool.playerCount + g.size⟩, true) := by
  rw [addGroup, hwaits, decide_eq_true hfits]
  rfl

theorem addGroup_refused (hfits : ¬pool.playerCount + g.size ≤ desired) :
    pool.addGroup g desired = (pool, decide (pool.playerCount < desired)) := by
  rw [addGroup, decide_eq_false hfits, Bool.and_false]
  rfl

/-- A pool that counts its players and keeps within a number of slots. -/
structure Within (pool : SelectionPool) (slots : Nat) : Prop where
  counted : pool.playerCount = playersOf pool.selectedGroups
  bounded : pool.playerCount ≤ slots

theorem within_init (slots : Nat) : init.Within slots := ⟨rfl, Nat.zero_le _⟩

/-- The pool is as before, or has one more group for which there was room. -/
theorem addGroup_cases (pool : SelectionPool) (g : MixedGroup) (desired : Nat) :
    (pool.addGroup g desired).1 = pool ∨
      (g.waits = true ∧ pool.playerCount + g.size ≤ desired) ∧
        (pool.addGroup g desired).1 = ⟨pool.selectedGroups ++ [g], pool.playerCount + g.size⟩ := by
  rw [addGroup]
  split
  · next h =>
      rw [Bool.and_eq_true, decide_eq_true_eq] at h
      exact Or.inr ⟨h, rfl⟩
  · exact Or.inl rfl

theorem Within.addGroup (h : pool.Within desired) (g : MixedGroup) :
    (pool.addGroup g desired).1.Within desired := by
  obtain heq | ⟨hroom, heq⟩ := addGroup_cases pool g desired
  · rw [heq]
    exact h
  · rw [heq]
    refine ⟨?_, hroom.2⟩
    rw [playersOf_append, playersOf_cons, ← h.counted]
    rfl

theorem mem_addGroup {other : MixedGroup}
    (h : other ∈ (pool.addGroup g desired).1.selectedGroups) :
    other ∈ pool.selectedGroups ∨ other = g := by
  obtain heq | ⟨-, heq⟩ := addGroup_cases pool g desired
  · rw [heq] at h
    exact Or.inl h
  · rw [heq, List.mem_append, List.mem_singleton] at h
    exact h

end SelectionPool

/-! ### Own teams first -/

variable {team : Team} {list : List MixedGroup} {g : MixedGroup}

/-- Before a start the pool of a faction takes the groups that fit, and the count returned is that
of the slots that stay empty. -/
theorem foldl_preAddGroup {maxInTeam : Nat} (list : List MixedGroup)
    (hown : ∀ g ∈ list, g.waits = true ∧ g.oTeam = team) (pools : Team → SelectionPool)
    {slots : Nat} (hslots : (pools team).playerCount + slots ≤ maxInTeam) :
    list.foldl (preAddGroup maxInTeam) (pools, slots) =
      (Function.update pools team ⟨(pools team).selectedGroups ++ ownTeamGroups slots list,
        (pools team).playerCount + playersOf (ownTeamGroups slots list)⟩,
        slots - playersOf (ownTeamGroups slots list)) := by
  induction list generalizing pools slots with
  | nil =>
    rw [ownTeamGroups, List.append_nil]
    exact Prod.ext (Function.update_eq_self team pools).symm rfl
  | cons g rest ih =>
    obtain ⟨hwaits, hteam⟩ := hown g List.mem_cons_self
    have hrest : ∀ g ∈ rest, g.waits = true ∧ g.oTeam = team := fun g' hg' =>
      hown g' (List.mem_cons_of_mem g hg')
    rw [List.foldl_cons, ownTeamGroups, preAddGroup]
    by_cases hfits : g.size ≤ slots
    · have hroom : (pools team).playerCount + g.size ≤ maxInTeam := by omega
      rw [if_pos hfits, if_pos hfits, hteam, SelectionPool.addGroup_fits hwaits hroom]
      dsimp only
      rw [ih hrest]
      · rw [Function.update_self, Function.update_idem, playersOf_cons, List.append_assoc,
          Nat.add_assoc, Nat.sub_sub]
        rfl
      · rw [Function.update_self]
        dsimp only
        omega
    · rw [if_neg hfits, if_neg hfits]
      exact ih hrest pools hslots

theorem playersOf_ownTeamGroups_le (slots : Nat) (list : List MixedGroup) :
    playersOf (ownTeamGroups slots list) ≤ slots := by
  induction list generalizing slots with
  | nil => exact Nat.zero_le _
  | cons g rest ih =>
    rw [ownTeamGroups]
    split
    · have hrest := ih (slots - g.size)
      rw [playersOf_cons]
      omega
    · exact ih slots

theorem mem_ownTeamGroups {slots : Nat} (h : g ∈ ownTeamGroups slots list) : g ∈ list := by
  induction list generalizing slots with
  | nil => cases h
  | cons first rest ih =>
    rw [ownTeamGroups] at h
    split at h
    · rcases List.mem_cons.mp h with hfirst | hrest
      · rw [hfirst]
        exact List.mem_cons_self
      · exact List.mem_cons_of_mem first (ih hrest)
    · exact List.mem_cons_of_mem first (ih h)

theorem mem_ownGroups :
    g ∈ ownGroups groups team ↔ g ∈ groups ∧ g.waits = true ∧ g.oTeam = team := by
  rw [ownGroups, List.mem_filter, Bool.and_eq_true, decide_eq_true_eq]

theorem own_of_mem_byPlayers :
    ∀ g ∈ byPlayers (ownGroups groups team), g.waits = true ∧ g.oTeam = team := by
  intro g hg
  rw [(perm_byPlayers _).mem_iff, mem_ownGroups] at hg
  exact hg.2

theorem preAddPlayers_eq {pools : Team → SelectionPool} {maxAdd maxInTeam : Nat}
    (hpool : pools team = .init) (hmax : maxAdd ≤ maxInTeam) :
    preAddPlayers pools (ownGroups groups team) maxAdd maxInTeam =
      (Function.update pools team
        ⟨ownTeamGroups maxAdd (byPlayers (ownGroups groups team)),
          playersOf (ownTeamGroups maxAdd (byPlayers (ownGroups groups team)))⟩,
        maxAdd - playersOf (ownTeamGroups maxAdd (byPlayers (ownGroups groups team)))) := by
  have hslots : (pools team).playerCount + maxAdd ≤ maxInTeam := by
    rw [hpool]
    exact (Nat.zero_add maxAdd).trans_le hmax
  rw [preAddPlayers, foldl_preAddGroup _ own_of_mem_byPlayers pools hslots, hpool]
  simp only [SelectionPool.init, List.nil_append, Nat.zero_add]

theorem smallestOfTeams_le (free : Team → Nat) (groups : List MixedGroup) (team : Team) :
    smallestOfTeams free groups ≤ free team := by
  cases team with
  | alliance => exact (min_le_left _ _).trans (min_le_left _ _)
  | horde => exact (min_le_right _ _).trans (min_le_left _ _)

/-- Before the last loop the pools hold the groups that go to their own team. -/
theorem pools_preFill (call : FillCall) (groups : List MixedGroup) (team : Team) :
    (preFill call.start call.free groups).pools team =
      ⟨preselected call groups team, playersOf (preselected call groups team)⟩ := by
  have hne : Team.horde ≠ Team.alliance := by decide
  rw [preFill, preselected]
  cases call.start with
  | false => rfl
  | true =>
    dsimp only
    rw [if_pos rfl, if_pos rfl]
    dsimp only
    rw [preAddPlayers_eq rfl (smallestOfTeams_le call.free groups .alliance)]
    rw [preAddPlayers_eq ?_ (smallestOfTeams_le call.free groups .horde)]
    · cases team with
      | alliance =>
        dsimp only
        rw [Function.update_of_ne hne.symm, Function.update_self]
      | horde =>
        dsimp only
        rw [Function.update_self]
    · rfl

/-- The counters are what `PreAddPlayers` leaves of the smaller side. -/
theorem left_preFill (call : FillCall) (groups : List MixedGroup) (team : Team) :
    (preFill call.start call.free groups).left team =
      (call.free team : Int) -
        if call.start then
          (smallestOfTeams call.free groups - playersOf (preselected call groups team) : Nat)
        else 0 := by
  have hne : Team.horde ≠ Team.alliance := by decide
  rw [preFill, preselected]
  cases call.start with
  | false => exact (sub_zero _).symm
  | true =>
    dsimp only
    rw [if_pos rfl, if_pos rfl, if_pos rfl]
    dsimp only
    rw [preAddPlayers_eq rfl (smallestOfTeams_le call.free groups .alliance)]
    rw [preAddPlayers_eq ?_ (smallestOfTeams_le call.free groups .horde)]
    · cases team with
      | alliance => rfl
      | horde => rfl
    · rfl

theorem assigned_preFill (call : FillCall) (groups : List MixedGroup) :
    (preFill call.start call.free groups).assigned = .empty := by
  rw [preFill]
  cases call.start <;> rfl

theorem own_of_mem_preselected (h : g ∈ preselected call groups team) :
    g.waits = true ∧ g.oTeam = team := by
  rw [preselected] at h
  split at h
  · exact own_of_mem_byPlayers g (mem_ownTeamGroups h)
  · cases h

theorem playersOf_preselected_le (call : FillCall) (groups : List MixedGroup) (team : Team) :
    playersOf (preselected call groups team) ≤ call.free team := by
  rw [preselected]
  split
  · exact (playersOf_ownTeamGroups_le _ _).trans (smallestOfTeams_le _ _ _)
  · exact Nat.zero_le _

/-! ### What every placement keeps -/

namespace Filling

/-- No group is in both pools, and no pool has more players than there are slots. -/
structure Sound (free : Team → Nat) (s : Filling) : Prop where
  apart : ∀ g ∈ (s.pools .alliance).selectedGroups, g ∉ (s.pools .horde).selectedGroups
  within : ∀ team, (s.pools team).Within (free team)

theorem place_of_skips (h : s.skips g = true) : s.place free g = s := by
  rw [place, if_pos h]

theorem pools_place (h : s.skips g = false) :
    (s.place free g).pools = Function.update s.pools (s.wantedTeam g)
      ((s.pools (s.wantedTeam g)).addGroup g (free (s.wantedTeam g))).1 := by
  rw [place, h, if_neg Bool.false_ne_true]
  dsimp only
  split
  · next hadd => rw [hadd]
  · next hadd => rw [hadd]

/-- A group that is looked at is in no pool yet. -/
theorem not_mem_of_not_skips (h : s.skips g = false) (team : Team) :
    g ∉ (s.pools team).selectedGroups := by
  simp only [skips, Bool.or_eq_false_iff, decide_eq_false_iff_not] at h
  cases team with
  | alliance => exact h.1.1.2
  | horde => exact h.1.2

theorem mem_place {other : MixedGroup} (h : s.skips g = false)
    (hmem : other ∈ ((s.place free g).pools team).selectedGroups) :
    other ∈ (s.pools team).selectedGroups ∨ other = g ∧ team = s.wantedTeam g := by
  rw [pools_place h] at hmem
  by_cases hteam : team = s.wantedTeam g
  · rw [hteam, Function.update_self] at hmem
    rw [hteam]
    exact (SelectionPool.mem_addGroup hmem).imp_right fun heq => ⟨heq, rfl⟩
  · rw [Function.update_of_ne hteam] at hmem
    exact Or.inl hmem

theorem Sound.place (h : s.Sound free) (g : MixedGroup) : (s.place free g).Sound free := by
  cases hskips : s.skips g with
  | true =>
    rw [place_of_skips hskips]
    exact h
  | false =>
    have hnew := not_mem_of_not_skips hskips
    refine ⟨fun other halliance hhorde => ?_, fun team => ?_⟩
    · obtain hold | ⟨rfl, hwanted⟩ := mem_place hskips halliance
      · obtain hold' | ⟨rfl, -⟩ := mem_place hskips hhorde
        · exact h.apart other hold hold'
        · exact hnew _ hold
      · obtain hold' | ⟨-, hwanted'⟩ := mem_place hskips hhorde
        · exact hnew _ hold'
        · exact absurd (hwanted.trans hwanted'.symm) (by decide)
    · rw [pools_place hskips]
      by_cases hteam : team = s.wantedTeam g
      · rw [hteam, Function.update_self]
        exact (h.within _).addGroup g
      · rw [Function.update_of_ne hteam]
        exact h.within team

theorem sound_preFill (call : FillCall) (groups : List MixedGroup) :
    (preFill call.start call.free groups).Sound call.free where
  apart := by
    intro g halliance hhorde
    rw [pools_preFill] at halliance hhorde
    exact absurd ((own_of_mem_preselected halliance).2.symm.trans
      (own_of_mem_preselected hhorde).2) (by decide)
  within := by
    intro team
    rw [pools_preFill]
    exact ⟨rfl, playersOf_preselected_le call groups team⟩

theorem Sound.foldl (h : s.Sound free) (list : List MixedGroup) :
    (list.foldl (Filling.place free) s).Sound free := by
  induction list generalizing s with
  | nil => exact h
  | cons g rest ih => exact ih (h.place g)

end Filling

theorem sound_of_fillXPlayersToBG (h : fillXPlayersToBG call groups = some s) :
    s.Sound call.free := by
  rw [fillXPlayersToBG] at h
  split at h
  · cases h
    exact (Filling.sound_preFill call groups).foldl _
  · cases h

/-! ### Counters that agree with the pools -/

theorem allFit_of_full {room : Team → Nat} (h : ∀ team, room team = 0) (list : List MixedGroup) :
    AllFit room list := by
  cases list with
  | nil => trivial
  | cons g rest => exact Or.inl h

namespace Filling

variable {g : MixedGroup} {shift : Int}

/-- The free slots that a team has left. -/
def room (free : Team → Nat) (s : Filling) (team : Team) : Nat :=
  free team - (s.pools team).playerCount

/-- The counters are off by the same number for both teams. -/
def ShiftedBy (free : Team → Nat) (shift : Int) (s : Filling) : Prop :=
  ∀ team, s.left team = s.unfilled free team + shift

theorem Sound.unfilled_eq (h : s.Sound free) (team : Team) :
    s.unfilled free team = s.room free team := by
  have hcounted := (h.within team).counted
  have hbounded := (h.within team).bounded
  rw [unfilled, room, ← hcounted]
  omega

theorem ShiftedBy.wantedTeam (hleft : s.ShiftedBy free shift) (hsound : s.Sound free)
    (hteam : s.teamOf g = g.info.team) : s.wantedTeam g = roomierTeam (s.room free) g := by
  rw [Filling.wantedTeam, roomierTeam, hleft, hleft, hsound.unfilled_eq, hsound.unfilled_eq, hteam]
  by_cases heq : s.room free .alliance = s.room free .horde
  · rw [if_pos heq, if_pos (by rw [heq])]
  · rw [if_neg heq, if_neg (by omega)]
    by_cases hlt : s.room free .horde < s.room free .alliance
    · rw [if_pos hlt, if_neg (by omega)]
    · rw [if_neg hlt, if_pos (by omega)]

/-- The wanted team is one with most unfilled slots. -/
theorem ShiftedBy.unfilled_other_le (hleft : s.ShiftedBy free shift) (g : MixedGroup) :
    s.unfilled free (s.wantedTeam g).other ≤ s.unfilled free (s.wantedTeam g) := by
  have halliance := hleft .alliance
  have hhorde := hleft .horde
  rw [Filling.wantedTeam]
  split
  · cases s.teamOf g with
    | alliance =>
      rw [Team.other]
      omega
    | horde =>
      rw [Team.other]
      omega
  · split
    · rw [Team.other]
      omega
    · rw [Team.other]
      omega

theorem assigned_place (h : s.skips g = false) :
    (s.place free g).assigned = if s.left .alliance = s.left .horde then s.assigned
      else s.assigned.insert g.number (s.wantedTeam g) := by
  rw [place, h, if_neg Bool.false_ne_true]
  dsimp only
  split <;> rfl

theorem teamOf_place (h : s.skips g = false) :
    (s.place free g).teamOf g = s.wantedTeam g := by
  rw [teamOf, assigned_place h]
  split
  · next heq =>
      rw [wantedTeam, if_pos heq]
      rfl
  · rw [OrderedMap.find?_insert_self]
    rfl

theorem ShiftedBy.fairlyPlaced (hleft : s.ShiftedBy free shift) (g : MixedGroup) :
    FairlyPlaced free s g := by
  intro team hin hnew
  cases hskips : s.skips g with
  | true =>
    rw [place_of_skips hskips] at hin
    exact absurd hin hnew
  | false =>
    obtain hold | ⟨-, rfl⟩ := mem_place hskips hin
    · exact absurd hold hnew
    · exact ⟨teamOf_place hskips, hleft.unfilled_other_le g⟩

/-- A group that fits, or that finds its team full, leaves the counters as they were. -/
theorem ShiftedBy.place (hleft : s.ShiftedBy free shift) (hskips : s.skips g = false)
    (hwaits : g.waits = true) (hfits : ¬ s.Overcounts free g) :
    (s.place free g).ShiftedBy free shift := by
  intro team
  by_cases hroom : (s.pools (s.wantedTeam g)).playerCount + g.size ≤ free (s.wantedTeam g)
  · have hplace : (s.place free g).left = Function.update s.left (s.wantedTeam g)
        (s.left (s.wantedTeam g) - g.size) := by
      rw [Filling.place, hskips, if_neg Bool.false_ne_true]
      simp only [SelectionPool.addGroup_fits hwaits hroom]
    rw [hplace, unfilled, pools_place hskips, SelectionPool.addGroup_fits hwaits hroom]
    by_cases hteam : team = s.wantedTeam g
    · have hwanted := hleft (s.wantedTeam g)
      rw [unfilled] at hwanted
      rw [hteam, Function.update_self, Function.update_self, playersOf_append, playersOf_cons,
        hwanted]
      push_cast [playersOf, List.map_nil, List.sum_nil]
      ring
    · rw [Function.update_of_ne hteam, Function.update_of_ne hteam, hleft, unfilled]
  · have hfull : decide ((s.pools (s.wantedTeam g)).playerCount < free (s.wantedTeam g)) = false :=
      decide_eq_false fun hlt => hfits ⟨hskips, hlt, not_le.mp hroom⟩
    have hplace : (s.place free g).left = s.left := by
      rw [Filling.place, hskips, if_neg Bool.false_ne_true]
      simp only [SelectionPool.addGroup_refused hroom, hfull]
    rw [hplace, unfilled, pools_place hskips, SelectionPool.addGroup_refused hroom,
      Function.update_eq_self, hleft, unfilled]

/-- Free slots after a group was placed. -/
theorem room_place (hskips : s.skips g = false) (hwaits : g.waits = true)
    (hfits : (s.pools (s.wantedTeam g)).playerCount + g.size ≤ free (s.wantedTeam g)) :
    (s.place free g).room free = Function.update (s.room free) (s.wantedTeam g)
      (s.room free (s.wantedTeam g) - g.size) := by
  funext team
  rw [room, pools_place hskips, SelectionPool.addGroup_fits hwaits hfits]
  by_cases hteam : team = s.wantedTeam g
  · rw [hteam, Function.update_self, Function.update_self, room]
    dsimp only
    omega
  · rw [Function.update_of_ne hteam, Function.update_of_ne hteam, room]

theorem room_place_le (free : Team → Nat) (s : Filling) (g : MixedGroup) (team : Team) :
    (s.place free g).room free team ≤ s.room free team := by
  cases hskips : s.skips g with
  | true => rw [place_of_skips hskips]
  | false =>
    rw [room, room, pools_place hskips]
    by_cases hteam : team = s.wantedTeam g
    · rw [hteam, Function.update_self]
      obtain heq | ⟨-, heq⟩ := SelectionPool.addGroup_cases (s.pools (s.wantedTeam g)) g
        (free (s.wantedTeam g))
      · rw [heq]
      · rw [heq]
        dsimp only
        omega
    · rw [Function.update_of_ne hteam]

/-! ### The last loop -/

theorem mem_pending :
    g ∈ pending call groups list ↔
      g ∈ list ∧ g.waits = true ∧ ∀ team, g ∉ preselected call groups team := by
  rw [pending, List.mem_filter, Bool.and_eq_true, Bool.and_eq_true, decide_eq_true_eq,
    decide_eq_true_eq, and_assoc]
  refine and_congr_right fun _ => and_congr_right fun _ => ⟨fun h team => ?_, fun h => ⟨h _, h _⟩⟩
  cases team with
  | alliance => exact h.1
  | horde => exact h.2

theorem other_of_ne {team team' : Team} (h : team ≠ team') : team = team'.other := by
  cases team <;> cases team' <;> first | rfl | exact absurd rfl h

theorem new_of_nodup {before : List MixedGroup}
    (hnumbers : ((before ++ g :: list).map MixedGroup.number).Nodup) :
    ∀ other ∈ before, other.number ≠ g.number := by
  intro other hother
  rw [List.map_append, List.nodup_append] at hnumbers
  exact hnumbers.2.2 other.number (List.mem_map_of_mem hother) g.number
    (List.mem_map_of_mem List.mem_cons_self)

/-- The loop has come so far, and the counters are off as they were at its start. -/
structure Follows (call : FillCall) (groups : List MixedGroup) (shift : Int)
    (before : List MixedGroup) (s : Filling) : Prop where
  sound : s.Sound call.free
  shifted : s.ShiftedBy call.free shift
  kept : ∀ team, ∀ g ∈ preselected call groups team, g ∈ (s.pools team).selectedGroups
  placed : ∀ team, ∀ g ∈ (s.pools team).selectedGroups,
    g ∈ preselected call groups team ∨ g ∈ before
  unassigned : ∀ g : MixedGroup, (∀ other ∈ before, other.number ≠ g.number) →
    s.assigned.find? g.number = none

variable {before rest : List MixedGroup}

theorem skips_of_left (h : ∀ team, s.left team = 0) (g : MixedGroup) : s.skips g = true := by
  rw [skips, decide_eq_true (h .alliance), decide_eq_true (h .horde)]
  exact Bool.or_true _

/-- A group that is passed over while there are slots was placed, or does not wait. -/
theorem Follows.pending_of_skips (h : Follows call groups shift before s)
    (hnew : ∀ other ∈ before, other.number ≠ g.number) (hskips : s.skips g = true)
    (hopen : ¬ ∀ team, s.left team = 0) (rest : List MixedGroup) :
    pending call groups (g :: rest) = pending call groups rest := by
  have hpending : g ∉ pending call groups (g :: rest) := by
    intro hmem
    obtain ⟨-, hwaits, hnot⟩ := mem_pending.mp hmem
    have habsent : ∀ team, g ∉ (s.pools team).selectedGroups := by
      intro team hin
      rcases h.placed team g hin with hpre | hbefore
      · exact hnot team hpre
      · exact hnew g hbefore rfl
    simp only [skips, Bool.or_eq_true, Bool.and_eq_true, decide_eq_true_eq] at hskips
    rcases hskips with ((hinvited | halliance) | hhorde) | hleft
    · rw [MixedGroup.waits, hinvited] at hwaits
      cases hwaits
    · exact habsent _ halliance
    · exact habsent _ hhorde
    · refine hopen fun team => ?_
      cases team with
      | alliance => exact hleft.1
      | horde => exact hleft.2
  rw [pending, List.filter_cons]
  split
  · next hkeep =>
      have hmem : g ∈ pending call groups (g :: rest) := by
        rw [pending, List.mem_filter]
        exact ⟨List.mem_cons_self, hkeep⟩
      exact absurd hmem hpending
  · rfl

theorem waits_of_not_skips (hskips : s.skips g = false) : g.waits = true := by
  simp only [skips, Bool.or_eq_false_iff] at hskips
  rw [MixedGroup.waits, hskips.1.1.1]
  rfl

theorem Follows.pending_of_not_skips (h : Follows call groups shift before s)
    (hskips : s.skips g = false) (rest : List MixedGroup) :
    pending call groups (g :: rest) = g :: pending call groups rest := by
  have habsent := not_mem_of_not_skips hskips
  have hmem : g ∈ pending call groups (g :: rest) :=
    mem_pending.mpr ⟨List.mem_cons_self, waits_of_not_skips hskips, fun team hpre =>
      habsent team (h.kept team g hpre)⟩
  rw [pending, List.mem_filter] at hmem
  rw [pending, List.filter_cons, if_pos hmem.2, pending]

theorem Follows.wantedTeam (h : Follows call groups shift before s)
    (hnew : ∀ other ∈ before, other.number ≠ g.number) :
    s.wantedTeam g = roomierTeam (s.room call.free) g := by
  have hteam : s.teamOf g = g.info.team := by
    rw [teamOf, h.unassigned g hnew]
    rfl
  exact h.shifted.wantedTeam h.sound hteam

/-- A group for which the counters are not lowered in vain. -/
theorem Follows.next (h : Follows call groups shift before s) (hfits : ¬ s.Overcounts call.free g) :
    Follows call groups shift (before ++ [g]) (s.place call.free g) := by
  have hkeep : ∀ team, ∀ other ∈ (s.pools team).selectedGroups,
      other ∈ preselected call groups team ∨ other ∈ before ++ [g] := fun team other hother =>
    (h.placed team other hother).imp_right (List.mem_append_left _)
  cases hskips : s.skips g with
  | true =>
    rw [place_of_skips hskips]
    exact ⟨h.sound, h.shifted, h.kept, hkeep, fun other hother => h.unassigned other
      fun earlier hearlier => hother earlier (List.mem_append_left _ hearlier)⟩
  | false =>
    refine ⟨h.sound.place g, h.shifted.place hskips (waits_of_not_skips hskips) hfits, ?_, ?_, ?_⟩
    · intro team other hother
      rw [pools_place hskips]
      by_cases hsame : team = s.wantedTeam g
      · rw [hsame, Function.update_self]
        rw [hsame] at hother
        obtain heq | ⟨-, heq⟩ := SelectionPool.addGroup_cases (s.pools (s.wantedTeam g)) g
          (call.free (s.wantedTeam g))
        · rw [heq]
          exact h.kept _ other hother
        · rw [heq]
          exact List.mem_append_left _ (h.kept _ other hother)
      · rw [Function.update_of_ne hsame]
        exact h.kept team other hother
    · intro team other hother
      rcases mem_place hskips hother with hold | ⟨rfl, -⟩
      · exact hkeep team other hold
      · exact Or.inr (List.mem_append_right _ (List.mem_singleton_self _))
    · intro other hother
      have hne : other.number ≠ g.number := fun heq =>
        hother g (List.mem_append_right _ (List.mem_singleton_self g)) heq.symm
      have hold := h.unassigned other fun earlier hearlier =>
        hother earlier (List.mem_append_left _ hearlier)
      rw [assigned_place hskips]
      split
      · exact hold
      · rw [OrderedMap.find?_insert, if_neg hne]
        exact hold

/-- What is ahead fits, or there is nothing left to fill. -/
def FitsAhead (call : FillCall) (groups rest : List MixedGroup) (s : Filling) : Prop :=
  (∀ team, s.left team = 0) ∨ AllFit (s.room call.free) (pending call groups rest)

theorem Follows.fitsAhead_next (h : Follows call groups shift before s)
    (hnew : ∀ other ∈ before, other.number ≠ g.number)
    (hahead : s.FitsAhead call groups (g :: rest)) :
    ¬ s.Overcounts call.free g ∧ (s.place call.free g).FitsAhead call groups rest := by
  cases hskips : s.skips g with
  | true =>
    refine ⟨fun hover => ?_, ?_⟩
    · rw [hover.1] at hskips
      cases hskips
    · rw [place_of_skips hskips]
      rcases hahead with hleft | hfits
      · exact Or.inl hleft
      · by_cases hstop : ∀ team, s.left team = 0
        · exact Or.inl hstop
        · rw [h.pending_of_skips hnew hskips hstop] at hfits
          exact Or.inr hfits
  | false =>
    have hroom : s.room call.free (s.wantedTeam g) =
        call.free (s.wantedTeam g) - (s.pools (s.wantedTeam g)).playerCount := rfl
    have hbounded := (h.sound.within (s.wantedTeam g)).bounded
    rcases hahead with hleft | hfits
    · rw [skips_of_left hleft] at hskips
      cases hskips
    · rw [h.pending_of_not_skips hskips, AllFit, ← h.wantedTeam hnew] at hfits
      rcases hfits with hfull | ⟨hsize, hrest⟩
      · have hzero := hfull (s.wantedTeam g)
        refine ⟨fun hover => ?_, Or.inr (allFit_of_full (fun team => ?_) _)⟩
        · have hlt := hover.2.1
          omega
        · have hle := room_place_le call.free s g team
          rw [hfull team] at hle
          exact Nat.le_zero.mp hle
      · refine ⟨fun hover => ?_, ?_⟩
        · have hlt := hover.2.2
          omega
        · rw [FitsAhead, room_place hskips (waits_of_not_skips hskips) (by omega)]
          exact Or.inr hrest

/-- As long as what is ahead fits, the counters stay as they were. -/
theorem Follows.foldl (h : Follows call groups shift before s)
    (hahead : s.FitsAhead call groups (list ++ rest))
    (hnumbers : ((before ++ list).map MixedGroup.number).Nodup) :
    Follows call groups shift (before ++ list) (list.foldl (Filling.place call.free) s) := by
  induction list generalizing before s with
  | nil =>
    rw [List.append_nil]
    exact h
  | cons g list ih =>
    obtain ⟨hfits, hnext⟩ := h.fitsAhead_next (new_of_nodup hnumbers) hahead
    rw [List.foldl_cons, List.append_cons]
    rw [List.append_cons] at hnumbers
    exact ih (h.next hfits) hnext hnumbers

/-- Counters that are right and never lowered in vain place every group or fill both teams. -/
theorem Follows.allFit (h : Follows call groups 0 before s)
    (hnumbers : ((before ++ list).map MixedGroup.number).Nodup)
    (hright : ∀ passed g after, list = passed ++ g :: after →
      ¬ (passed.foldl (Filling.place call.free) s).Overcounts call.free g) :
    AllFit (s.room call.free) (pending call groups list) := by
  induction list generalizing before s with
  | nil => trivial
  | cons g list ih =>
    have hnew := new_of_nodup hnumbers
    have hfits : ¬ s.Overcounts call.free g := hright [] g list rfl
    have hrest : AllFit ((s.place call.free g).room call.free) (pending call groups list) := by
      rw [List.append_cons] at hnumbers
      exact ih (h.next hfits) hnumbers fun passed other after hsplit =>
        hright (g :: passed) other after (congrArg (g :: ·) hsplit)
    cases hskips : s.skips g with
    | true =>
      by_cases hstop : ∀ team, s.left team = 0
      · refine allFit_of_full (fun team => ?_) _
        have hleft := h.shifted team
        rw [hstop team, h.sound.unfilled_eq] at hleft
        omega
      · rw [h.pending_of_skips hnew hskips hstop]
        rwa [place_of_skips hskips] at hrest
    | false =>
      rw [h.pending_of_not_skips hskips, AllFit, ← h.wantedTeam hnew]
      have hbounded := (h.sound.within (s.wantedTeam g)).bounded
      by_cases hsize : (s.pools (s.wantedTeam g)).playerCount + g.size ≤ call.free (s.wantedTeam g)
      · rw [room_place hskips (waits_of_not_skips hskips) hsize] at hrest
        refine Or.inr ⟨?_, hrest⟩
        rw [room]
        omega
      · -- its team is full, and the other team has no more room
        have hfull : s.room call.free (s.wantedTeam g) = 0 := by
          rw [room]
          by_contra hpos
          exact hfits ⟨hskips, by omega, by omega⟩
        have hother := h.shifted.unfilled_other_le g
        rw [h.sound.unfilled_eq, h.sound.unfilled_eq, hfull] at hother
        have hzero : s.room call.free (s.wantedTeam g).other = 0 := by omega
        refine Or.inl fun team => ?_
        by_cases hsame : team = s.wantedTeam g
        · rw [hsame, hfull]
        · rw [other_of_ne hsame, hzero]

theorem follows_preFill (call : FillCall) (groups : List MixedGroup) {shift : Int}
    (hown : ∀ team, (playersOf (preselected call groups team) : Int) -
      (if call.start then (smallestOfTeams call.free groups -
        playersOf (preselected call groups team) : Nat) else 0) = shift) :
    Follows call groups shift [] (preFill call.start call.free groups) where
  sound := sound_preFill call groups
  shifted := by
    intro team
    rw [left_preFill, unfilled, pools_preFill, ← hown team]
    push_cast
    ring
  kept := by
    intro team g hg
    rw [pools_preFill]
    exact hg
  placed := by
    intro team g hg
    rw [pools_preFill] at hg
    exact Or.inl hg
  unassigned := by
    intro g _
    rw [assigned_preFill]
    rfl

theorem room_preFill (call : FillCall) (groups : List MixedGroup) :
    (preFill call.start call.free groups).room call.free =
      fun team => call.free team - playersOf (preselected call groups team) := by
  funext team
  rw [room, pools_preFill]

end Filling

/-- Before a start as many players of one faction as of the other go to their own team, and every
other group fits into the roomier team until both are full. -/
def FillsEvenly (call : FillCall) (groups : List MixedGroup) : Prop :=
  (call.start = true →
      playersOf (preselected call groups .alliance) = playersOf (preselected call groups .horde)) ∧
    AllFit (fun team => call.free team - playersOf (preselected call groups team))
      (remaining call groups)

/-- A counter goes wrong: `PreAddPlayers` does not return the number of players it has added, or
`AddGroup` returns true for a group that it has not added. -/
def Miscounts (call : FillCall) (groups : List MixedGroup) : Prop :=
  (call.start = true ∧ ∃ team, smallestOfTeams call.free groups -
      playersOf (preselected call groups team) ≠ playersOf (preselected call groups team)) ∨
    ∃ before g after, byPlayers groups = before ++ g :: after ∧
      (before.foldl (Filling.place call.free)
        (preFill call.start call.free groups)).Overcounts call.free g

theorem FillsEvenly.fair (h : FillsEvenly call groups)
    (hnumbers : (groups.map MixedGroup.number).Nodup) {before after : List MixedGroup}
    {g : MixedGroup} (hsplit : byPlayers groups = before ++ g :: after) :
    (before.foldl (Filling.place call.free)
      (preFill call.start call.free groups)).FairlyPlaced call.free g := by
  have hperm := (perm_byPlayers groups).map MixedGroup.number
  rw [hsplit] at hperm
  have hnodup := hperm.nodup_iff.mpr hnumbers
  rw [List.map_append] at hnodup
  have hfollows := Filling.follows_preFill call groups (fun team => by
    have hsame : playersOf (preselected call groups team) =
        playersOf (preselected call groups .alliance) := by
      cases team with
      | alliance => rfl
      | horde =>
        cases hstart : call.start with
        | true => exact (h.1 hstart).symm
        | false => simp only [preselected, hstart, Bool.false_eq_true, if_false]
    rw [hsame])
  have hahead : (preFill call.start call.free groups).FitsAhead call groups
      (before ++ g :: after) := by
    rw [Filling.FitsAhead, Filling.room_preFill, ← hsplit]
    exact Or.inr h.2
  exact (hfollows.foldl hahead (List.nodup_append.mp hnodup).1).shifted.fairlyPlaced g

theorem miscounts_of_not_fillsEvenly (hnumbers : (groups.map MixedGroup.number).Nodup)
    (h : ¬ FillsEvenly call groups) : Miscounts call groups := by
  by_contra hright
  obtain ⟨hpre, hloop⟩ := not_or.mp hright
  have hadded : call.start = true → ∀ team, smallestOfTeams call.free groups -
      playersOf (preselected call groups team) = playersOf (preselected call groups team) := by
    intro hstart team
    by_contra hne
    exact hpre ⟨hstart, team, hne⟩
  have hfollows : Filling.Follows call groups 0 [] (preFill call.start call.free groups) := by
    refine Filling.follows_preFill call groups fun team => ?_
    cases hstart : call.start with
    | true => rw [if_pos rfl, hadded hstart team, sub_self]
    | false => simp [preselected, hstart, playersOf]
  have hnodup := ((perm_byPlayers groups).map MixedGroup.number).nodup_iff.mpr hnumbers
  have hfits := hfollows.allFit hnodup fun passed g after hsplit hover =>
    hloop ⟨passed, g, after, hsplit, hover⟩
  rw [Filling.room_preFill] at hfits
  refine h ⟨fun hstart => ?_, hfits⟩
  have halliance := hadded hstart .alliance
  have hhorde := hadded hstart .horde
  omega

/-- The pools are filled as they are meant to be when the waiting players fit into a `uint8` and,
if they are filled at all, they fill it evenly. Otherwise the players are counted wrong, or a
counter of free slots goes wrong. -/
theorem wellFilled_fillXPlayersToBG (call : FillCall) (groups : List MixedGroup)
    (hnumbers : (groups.map MixedGroup.number).Nodup) :
    (playersOf (groups.filter MixedGroup.waits) < 2 ^ 8 ∧
        ((fillXPlayersToBG call groups).isSome → FillsEvenly call groups) →
      WellFilled call groups) ∧
    (¬ (playersOf (groups.filter MixedGroup.waits) < 2 ^ 8 ∧
        ((fillXPlayersToBG call groups).isSome → FillsEvenly call groups)) →
      queuedPeople groups ≠ playersOf (groups.filter MixedGroup.waits) ∨
        (fillXPlayersToBG call groups).isSome ∧ Miscounts call groups) := by
  constructor
  · rintro ⟨hwaiting, heven⟩
    refine ⟨?_, fun s hs => (sound_of_fillXPlayersToBG hs).apart, ?_, ?_⟩
    · rw [queuedPeople_eq, Nat.mod_eq_of_lt hwaiting]
    · intro s hs team
      have hwithin := (sound_of_fillXPlayersToBG hs).within team
      rw [← hwithin.counted]
      exact hwithin.bounded
    · exact fun hfilled before g after hsplit => (heven hfilled).fair hnumbers hsplit
  · intro hnot
    by_cases hwaiting : playersOf (groups.filter MixedGroup.waits) < 2 ^ 8
    · obtain ⟨hfilled, huneven⟩ := Classical.not_imp.mp fun h => hnot ⟨hwaiting, h⟩
      exact Or.inr ⟨hfilled, miscounts_of_not_fillsEvenly hnumbers huneven⟩
    · refine Or.inl fun heq => hwaiting ?_
      rw [← heq, queuedPeople_eq]
      exact Nat.mod_lt _ (by decide)

/-- A waiting group with so many players, whose original team nobody wrote. -/
def mixedGroup (number size : Nat) (team : Team) : MixedGroup where
  number := number
  info := {
    players := .ofKeys ((List.range size).map fun n => 100 * number + n)
    team := team
    bgTypeId := 32
    isRated := false
    arenaType := 0
    arenaTeamId := 0
    joinTime := 0
    isInvitedToBGInstanceGUID := 0
    arenaMatchmakerRating := 0
    ratingRange := 0
    ratingRangeIncreaseCounter := 0
    isSoloQueueGroup := false }
  oTeam := .horde

/-- Both teams of a battleground that starts have four slots. -/
def evenQueue : List MixedGroup :=
  [mixedGroup 1 2 .alliance, mixedGroup 2 1 .alliance, mixedGroup 3 1 .alliance,
    mixedGroup 4 2 .horde, mixedGroup 5 1 .horde]

/-- No group is left out for want of a slot. -/
theorem wellFilled_evenQueue :
    WellFilled ⟨true, false, true, 3, 4, fun _ => 0⟩ evenQueue := by
  refine (wellFilled_fillXPlayersToBG _ _ (by decide)).1 ⟨by decide, fun _ => ⟨fun _ => ?_, ?_⟩⟩
  · decide
  · have hremaining : remaining ⟨true, false, true, 3, 4, fun _ => 0⟩ evenQueue =
        [mixedGroup 4 2 .horde, mixedGroup 1 2 .alliance, mixedGroup 5 1 .horde,
          mixedGroup 3 1 .alliance, mixedGroup 2 1 .alliance] := by decide
    rw [hremaining]
    refine Or.inr ⟨by decide, Or.inr ⟨by decide, Or.inr ⟨by decide, Or.inr ⟨by decide,
      Or.inr ⟨by decide, trivial⟩⟩⟩⟩⟩

/-- A running battleground has four free slots for the alliance and three for the horde. -/
def runningCall : FillCall :=
  ⟨true, false, false, 5, 10, fun team => if team = .alliance then 4 else 3⟩

def largeFirst : List MixedGroup := [mixedGroup 1 5 .alliance, mixedGroup 2 2 .alliance]

/-- The group of five does not fit, but the slots of the alliance are counted down, and the group
of two goes to the horde. -/
theorem largeFirst_not_wellFilled :
    ∃ (call : FillCall) (groups : List MixedGroup), (groups.map MixedGroup.number).Nodup ∧
      ¬WellFilled call groups := by
  refine ⟨runningCall, largeFirst, by decide, fun h => ?_⟩
  have hfair := h.fair (by decide) [mixedGroup 1 5 .alliance] (mixedGroup 2 2 .alliance) []
    (by decide) .horde (by decide) (by decide)
  exact absurd hfair.2 (by decide)

end Cataclysm.Battlegrounds
