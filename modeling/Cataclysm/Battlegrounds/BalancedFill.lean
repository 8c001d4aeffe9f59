import Cataclysm.Battlegrounds.CrossFaction

/-!
# Filling a running battleground

Each faction has a selection pool that is filled from its own queue as far as there are free slots.
With balanced invitation, groups are then kicked from the pool of the team that would have fewer
free slots left, and smaller groups from later in its queue may take their places, until the teams
are even or nothing is selected.

## Implementation notes

The numbers of slots and players are unbounded; differences are integers as in the source. The queue
of a side is what the iterator has not passed yet. `GetFreeSlotsForTeam` and the configuration are
arguments, and the cross-faction code, which takes over when it is enabled, is a module of its own.
-/

namespace Cataclysm.Battlegrounds

namespace SelectionPool

/-- The group to kick: the last one of about the wanted size, or else the last of the largest. -/
structure KickChoice where
  index : Nat
  found : Bool
  deriving DecidableEq

def KickChoice.look (groups : List MixedGroup) (size : Nat) (choice : KickChoice)
    (itr : MixedGroup × Nat) : KickChoice :=
  if ((itr.1.size : Int) - size).natAbs ≤ 1 then ⟨itr.2, true⟩
  else if choice.found = false ∧
      (groups[choice.index]?.map MixedGroup.size).getD 0 ≤ itr.1.size then
    ⟨itr.2, false⟩
  else choice

def groupToKick (groups : List MixedGroup) (size : Nat) : Nat :=
  (groups.zipIdx.foldl (KickChoice.look groups size) ⟨0, false⟩).index

/-- The pool after `KickGroup`, and what it returns. -/
def kickGroup (pool : SelectionPool) (size : Nat) : SelectionPool × Bool :=
  if pool.playerCount = 0 then (pool, true)
  else match pool.selectedGroups[groupToKick pool.selectedGroups size]? with
    | some ginfo =>
      (⟨pool.selectedGroups.eraseIdx (groupToKick pool.selectedGroups size),
        pool.playerCount - ginfo.size⟩, decide (size + 1 < ginfo.size))
    | none => (pool, true)

/-- The loops that call `AddGroup` with the groups of a queue; the iterator stops at a group that is
not added to a full pool. -/
def addGroups (desiredCount : Nat) :
    List MixedGroup → SelectionPool → SelectionPool × List MixedGroup
  | [], pool => (pool, [])
  | g :: rest, pool =>
    if (pool.addGroup g desiredCount).2 then
      addGroups desiredCount rest (pool.addGroup g desiredCount).1
    else ((pool.addGroup g desiredCount).1, g :: rest)

end SelectionPool

/-- What the function keeps for one team. -/
structure Side where
  free : Nat
  pool : SelectionPool
  rest : List MixedGroup
  deriving DecidableEq

namespace Side

/-- `aliFree - GetPlayerCount()`, and the same for the horde. -/
def diff (side : Side) : Int := side.free - side.pool.playerCount

def addGroups (side : Side) (desiredCount : Nat) : Side :=
  let (pool, rest) := side.pool.addGroups desiredCount side.rest
  { side with pool := pool, rest := rest }

def kickGroup (side : Side) (size : Nat) : Side :=
  { side with pool := (side.pool.kickGroup size).1 }

def start (free : Nat) (queue : List MixedGroup) : Side :=
  (Side.mk free SelectionPool.init queue).addGroups free

/-- A group is kicked, and new groups are added if it was too large. -/
def relieve (side : Side) (size : Nat) (otherDiff : Int) : Side :=
  let kicked := side.kickGroup size
  if (side.pool.kickGroup size).2 then
    kicked.addGroups (if otherDiff ≤ kicked.free then (kicked.free - otherDiff).toNat else 0)
  else kicked

end Side

/-- One round of the loop for the team that has fewer slots left; whether the loop breaks. -/
def balanceSides (low high : Side) : (Side × Side) × Bool :=
  let size := (high.diff - low.diff).toNat
  let relieved := low.relieve size high.diff
  if relieved.pool.playerCount = 0 then
    if relieved.free ≤ high.diff + 1 then ((relieved, high), true)
    else ((relieved, high.kickGroup size), false)
  else ((relieved, high), false)

def setSides (team : Team) (sides : Side × Side) : Team → Side :=
  fun other => if other = team then sides.1 else sides.2

/-- The loop of `FillPlayersToBG`. -/
def balance : Nat → (Team → Side) → Option (Team → Side)
  | 0, _ => none
  | fuel + 1, s =>
    if 1 < ((s .alliance).diff - (s .horde).diff).natAbs ∧
        (0 < (s .horde).pool.playerCount ∨ 0 < (s .alliance).pool.playerCount) then
      let team : Team := if (s .alliance).diff < (s .horde).diff then .alliance else .horde
      let (sides, stop) := balanceSides (s team) (s team.other)
      if stop then some (setSides team sides) else balance fuel (setSides team sides)
    else some s

/-- `FillPlayersToBG` without the cross-faction code. -/
def fillSides (fuel invitationType : Nat) (free : Team → Nat) (queue : Team → List MixedGroup) :
    Option (Team → Side) :=
  let s := fun team => Side.start (free team) (queue team)
  if invitationType = 0 then some s else balance fuel s

/-! ### Kicking -/

namespace SelectionPool

variable {pool : SelectionPool} {groups : List MixedGroup} {size : Nat}

theorem look_index (groups : List MixedGroup) (size : Nat) (choice : KickChoice)
    (itr : MixedGroup × Nat) :
    (choice.look groups size itr).index = choice.index ∨
      (choice.look groups size itr).index = itr.2 := by
  rw [KickChoice.look]
  split
  · exact Or.inr rfl
  · split
    · exact Or.inr rfl
    · exact Or.inl rfl

theorem groupToKick_lt (h : groups ≠ []) (size : Nat) :
    groupToKick groups size < groups.length := by
  have hfold : ∀ (itrs : List (MixedGroup × Nat)) (choice : KickChoice),
      choice.index < groups.length → (∀ itr ∈ itrs, itr.2 < groups.length) →
      (itrs.foldl (KickChoice.look groups size) choice).index < groups.length := by
    intro itrs
    induction itrs with
    | nil => exact fun choice hchoice _ => hchoice
    | cons itr rest ih =>
      intro choice hchoice hitrs
      refine ih _ ?_ fun other hother => hitrs other (List.mem_cons_of_mem itr hother)
      obtain hsame | hnew := look_index groups size choice itr
      · rwa [hsame]
      · rw [hnew]
        exact hitrs itr List.mem_cons_self
  refine hfold groups.zipIdx ⟨0, false⟩ (List.length_pos_of_ne_nil h) ?_
  intro itr hitr
  have hlt := (List.mem_zipIdx hitr).2.1
  rwa [Nat.zero_add] at hlt

/-- A pool with players loses one of its groups. -/
theorem kickGroup_spec (hpos : 0 < pool.playerCount) (hne : pool.selectedGroups ≠ []) (size : Nat) :
    ∃ i ginfo, pool.selectedGroups[i]? = some ginfo ∧
      (pool.kickGroup size).1 =
        ⟨pool.selectedGroups.eraseIdx i, pool.playerCount - ginfo.size⟩ := by
  have hlt := groupToKick_lt hne size
  refine ⟨_, _, List.getElem?_eq_getElem hlt, ?_⟩
  rw [kickGroup, if_neg (Nat.ne_of_gt hpos), List.getElem?_eq_getElem hlt]

/-! ### Adding -/

theorem addGroup_full {g : MixedGroup} {desiredCount : Nat}
    (h : ¬ (pool.addGroup g desiredCount).2 = true) : (pool.addGroup g desiredCount).1 = pool := by
  rw [addGroup] at h ⊢
  split
  · next hadded => exact absurd (by rw [if_pos hadded]) h
  · rfl

/-- Groups go from the queue to the pool, in their order. -/
theorem addGroups_spec {slots desiredCount : Nat} (hle : desiredCount ≤ slots)
    (rest : List MixedGroup) (pool : SelectionPool) (h : pool.Within slots) :
    (pool.addGroups desiredCount rest).1.Within slots ∧
      ((pool.addGroups desiredCount rest).1.selectedGroups ++
        (pool.addGroups desiredCount rest).2).Sublist (pool.selectedGroups ++ rest) ∧
      (∀ g ∈ (pool.addGroups desiredCount rest).1.selectedGroups,
        g ∈ pool.selectedGroups ∨ g.waits = true) ∧
      (pool.addGroups desiredCount rest).2.length ≤ rest.length ∧
      ((pool.addGroups desiredCount rest).2.length < rest.length ∨
        (pool.addGroups desiredCount rest).1 = pool) := by
  induction rest generalizing pool with
  | nil => exact ⟨h, List.Sublist.refl _, fun _ hg => Or.inl hg, le_rfl, Or.inr rfl⟩
  | cons g rest ih =>
    have hadded : (pool.addGroup g desiredCount).1.Within slots ∧
        ((pool.addGroup g desiredCount).1.selectedGroups ++ rest).Sublist
          (pool.selectedGroups ++ g :: rest) ∧
        ∀ g' ∈ (pool.addGroup g desiredCount).1.selectedGroups,
          g' ∈ pool.selectedGroups ∨ g'.waits = true := by
      obtain heq | ⟨⟨hwaits, hroom⟩, heq⟩ := addGroup_cases pool g desiredCount
      · rw [heq]
        refine ⟨h, ?_, fun _ hg => Or.inl hg⟩
        exact (List.sublist_cons_self g rest).append_left pool.selectedGroups
      · rw [heq]
        refine ⟨⟨?_, hroom.trans hle⟩, ?_, fun g' hg' => ?_⟩
        · rw [playersOf_append, playersOf_cons, ← h.counted]
          rfl
        · rw [List.append_assoc, List.singleton_append]
        · obtain hold | hnew := List.mem_append.mp hg'
          · exact Or.inl hold
          · rw [List.mem_singleton.mp hnew]
            exact Or.inr hwaits
    obtain ⟨hwithin, hsub, hwaits⟩ := hadded
    rw [addGroups]
    split
    · obtain ⟨hlast, hlastSub, hlastWaits, hle, -⟩ := ih _ hwithin
      have hlt : ((pool.addGroup g desiredCount).1.addGroups desiredCount rest).2.length <
          (g :: rest).length := Nat.lt_succ_of_le hle
      refine ⟨hlast, hlastSub.trans hsub, fun g' hg' => ?_, hlt.le, Or.inl hlt⟩
      exact (hlastWaits g' hg').elim (hwaits g') Or.inr
    · next hfull =>
        rw [addGroup_full hfull]
        exact ⟨h, List.Sublist.refl _, fun _ hg => Or.inl hg, le_rfl, Or.inr rfl⟩

end SelectionPool

/-! ### One side -/

namespace Side

variable {side : Side} {slots : Nat} {queue : List MixedGroup}

/-- The pool has waiting groups of the queue, each at most once, that the iterator has passed, and
counts their players, which are no more than there are free slots. -/
structure Sound (side : Side) (slots : Nat) (queue : List MixedGroup) : Prop where
  free : side.free = slots
  within : side.pool.Within slots
  inQueue : (side.pool.selectedGroups ++ side.rest).Sublist queue
  waiting : ∀ g ∈ side.pool.selectedGroups, g.waits = true

/-- A group weighs two while it is in the queue and one in the pool. -/
def weight (side : Side) : Nat := 2 * side.rest.length + side.pool.selectedGroups.length

theorem Sound.diff_eq (h : side.Sound slots queue) :
    side.diff = (slots : Int) - side.pool.playerCount ∧ 0 ≤ side.diff := by
  have hle := h.within.bounded
  rw [diff, h.free]
  exact ⟨rfl, by omega⟩

theorem Sound.addGroups (h : side.Sound slots queue) {desiredCount : Nat}
    (hle : desiredCount ≤ slots) :
    (side.addGroups desiredCount).Sound slots queue ∧
      (side.addGroups desiredCount).weight ≤ side.weight ∧
      ((side.addGroups desiredCount).weight < side.weight ∨
        (side.addGroups desiredCount).pool = side.pool) := by
  obtain ⟨hwithin, hsub, hwaits, hshort, hshorter⟩ :=
    SelectionPool.addGroups_spec hle side.rest side.pool h.within
  have hlength := hsub.length_le
  rw [List.length_append, List.length_append] at hlength
  have hpool : (side.addGroups desiredCount).pool =
      (side.pool.addGroups desiredCount side.rest).1 := rfl
  have hrest : (side.addGroups desiredCount).rest =
      (side.pool.addGroups desiredCount side.rest).2 := rfl
  refine ⟨⟨h.free, hwithin, hsub.trans h.inQueue, ?_⟩, ?_, ?_⟩
  · exact fun g hg => (hwaits g hg).elim (h.waiting g) id
  · rw [weight, weight, hpool, hrest]
    omega
  · refine hshorter.imp_left fun hlt => ?_
    rw [weight, weight, hpool, hrest]
    omega

theorem Sound.selectedGroups_ne_nil (h : side.Sound slots queue)
    (hpos : 0 < side.pool.playerCount) : side.pool.selectedGroups ≠ [] := by
  intro hnil
  have hcounted := h.within.counted
  rw [hnil] at hcounted
  exact absurd hcounted (Nat.ne_of_gt hpos)

theorem playersOf_eraseIdx {groups : List MixedGroup} {i : Nat} {ginfo : MixedGroup}
    (h : groups[i]? = some ginfo) :
    playersOf groups = ginfo.size + playersOf (groups.eraseIdx i) := by
  obtain ⟨hlt, heq⟩ := List.getElem?_eq_some_iff.mp h
  have hperm := List.getElem_cons_eraseIdx_perm hlt
  rw [heq] at hperm
  rw [← playersOf_perm hperm, playersOf_cons]

/-- A kick takes one group, if there are players. -/
theorem Sound.kickGroup (h : side.Sound slots queue) (size : Nat) :
    (side.kickGroup size).Sound slots queue ∧ (side.kickGroup size).weight ≤ side.weight ∧
      (0 < side.pool.playerCount → (side.kickGroup size).weight < side.weight) ∧
      (side.pool.playerCount = 0 →
        side.kickGroup size = side ∧ (side.pool.kickGroup size).2 = true) := by
  obtain hzero | hpos := Nat.eq_zero_or_pos side.pool.playerCount
  · have hsame : side.pool.kickGroup size = (side.pool, true) := if_pos hzero
    have hside : side.kickGroup size = side := by
      rw [Side.kickGroup, hsame]
    rw [hside, hsame]
    exact ⟨h, le_rfl, fun hpos => absurd hzero (Nat.ne_of_gt hpos), fun _ => ⟨rfl, rfl⟩⟩
  · obtain ⟨i, ginfo, hget, hkick⟩ := SelectionPool.kickGroup_spec hpos
      (h.selectedGroups_ne_nil hpos) size
    have hcount := playersOf_eraseIdx hget
    have hlength := List.length_eraseIdx_of_lt (List.getElem?_eq_some_iff.mp hget).1
    have hlonger := List.length_pos_of_ne_nil (h.selectedGroups_ne_nil hpos)
    have hcounted := h.within.counted
    have hbounded := h.within.bounded
    have hweight : (side.kickGroup size).weight < side.weight := by
      rw [weight, weight, Side.kickGroup, hkick]
      dsimp only
      omega
    refine ⟨⟨h.free, ?_, ?_, ?_⟩, hweight.le, fun _ => hweight,
      fun hzero => absurd hzero (Nat.ne_of_gt hpos)⟩
    · change (side.pool.kickGroup size).1.Within slots
      rw [hkick]
      constructor
      · dsimp only
        omega
      · dsimp only
        omega
    · change ((side.pool.kickGroup size).1.selectedGroups ++ side.rest).Sublist queue
      rw [hkick]
      exact ((List.eraseIdx_sublist _ _).append_right _).trans h.inQueue
    · intro g hg
      change g ∈ (side.pool.kickGroup size).1.selectedGroups at hg
      rw [hkick] at hg
      exact h.waiting g (List.eraseIdx_subset hg)

/-- A relieved side weighs less, or has no players before and after. -/
theorem Sound.relieve (h : side.Sound slots queue) (size : Nat) {otherDiff : Int}
    (hdiff : 0 ≤ otherDiff) :
    (side.relieve size otherDiff).Sound slots queue ∧
      ((side.relieve size otherDiff).weight < side.weight ∨
        side.pool.playerCount = 0 ∧ (side.relieve size otherDiff).pool.playerCount = 0 ∧
          (side.relieve size otherDiff).weight ≤ side.weight) := by
  obtain ⟨hkicked, hle, hlt, hnone⟩ := h.kickGroup size
  have hdesired : (if otherDiff ≤ (side.kickGroup size).free then
      ((side.kickGroup size).free - otherDiff).toNat else 0) ≤ slots := by
    rw [hkicked.free]
    split
    · omega
    · exact Nat.zero_le slots
  obtain ⟨hadded, haddedLe, haddedLt⟩ := hkicked.addGroups hdesired
  obtain hzero | hpos := Nat.eq_zero_or_pos side.pool.playerCount
  · obtain ⟨hsame, hmore⟩ := hnone hzero
    rw [Side.relieve, if_pos hmore]
    rw [hsame] at hadded haddedLe haddedLt ⊢
    refine ⟨hadded, haddedLt.imp_right fun hpool => ⟨hzero, ?_, haddedLe⟩⟩
    rw [hpool]
    exact hzero
  · rw [Side.relieve]
    split
    · exact ⟨hadded, Or.inl (haddedLe.trans_lt (hlt hpos))⟩
    · exact ⟨hkicked, Or.inl (hlt hpos)⟩

end Side

/-- A round keeps both sides sound. It breaks when the relieved team has nobody selected and hardly
more free slots than the other one, and otherwise makes the sides lighter. -/
theorem balanceSides_spec {low high : Side} {lowSlots highSlots : Nat}
    {lowQueue highQueue : List MixedGroup} (hlow : low.Sound lowSlots lowQueue)
    (hhigh : high.Sound highSlots highQueue)
    (hsome : 0 < low.pool.playerCount ∨ 0 < high.pool.playerCount) :
    (balanceSides low high).1.1.Sound lowSlots lowQueue ∧
      (balanceSides low high).1.2.Sound highSlots highQueue ∧
      ((balanceSides low high).2 = true → (balanceSides low high).1.1.pool.playerCount = 0 ∧
        (lowSlots : Int) ≤ (balanceSides low high).1.2.diff + 1) ∧
      ((balanceSides low high).2 = false →
        (balanceSides low high).1.1.weight + (balanceSides low high).1.2.weight <
          low.weight + high.weight) := by
  obtain ⟨hrelieved, hweight⟩ := hlow.relieve (high.diff - low.diff).toNat hhigh.diff_eq.2
  obtain ⟨hkicked, hkickedLe, hkickedLt, -⟩ := hhigh.kickGroup (high.diff - low.diff).toNat
  rw [balanceSides]
  split
  · next hzero =>
      split
      · next hbreak =>
          rw [hrelieved.free] at hbreak
          exact ⟨hrelieved, hhigh, fun _ => ⟨hzero, hbreak⟩, fun hgo => Bool.noConfusion hgo⟩
      · refine ⟨hrelieved, hkicked, fun hstop => Bool.noConfusion hstop, fun _ => ?_⟩
        obtain hless | ⟨hnobody, -, hle⟩ := hweight
        · exact Nat.add_lt_add_of_lt_of_le hless hkickedLe
        · have hpos : 0 < high.pool.playerCount := hsome.resolve_left (hnobody ▸ Nat.lt_irrefl 0)
          exact Nat.add_lt_add_of_le_of_lt hle (hkickedLt hpos)
  · next hsomebody =>
      refine ⟨hrelieved, hhigh, fun hstop => Bool.noConfusion hstop, fun _ => ?_⟩
      obtain hless | ⟨-, hnobody, -⟩ := hweight
      · exact Nat.add_lt_add_right hless _
      · exact absurd hnobody hsomebody

/-! ### The loop -/

/-- The teams are even, or nobody is selected, or the team without selected players has at most one
free slot more than the other team has left. -/
def Balanced (s : Team → Side) : Prop :=
  ((s .alliance).diff - (s .horde).diff).natAbs ≤ 1 ∨
    (∀ team, (s team).pool.playerCount = 0) ∨
    ∃ team, (s team).pool.playerCount = 0 ∧ ((s team).free : Int) ≤ (s team.other).diff + 1

variable {s : Team → Side} {free : Team → Nat} {queue : Team → List MixedGroup}

theorem forall_setSides {P : Team → Side → Prop} {team : Team} {sides : Side × Side}
    (hfirst : P team sides.1) (hsecond : P team.other sides.2) :
    ∀ other, P other (setSides team sides other) := by
  intro other
  cases team with
  | alliance =>
    cases other with
    | alliance => exact hfirst
    | horde => exact hsecond
  | horde =>
    cases other with
    | alliance => exact hsecond
    | horde => exact hfirst

def weight (s : Team → Side) : Nat := (s .alliance).weight + (s .horde).weight

theorem weight_setSides (team : Team) (sides : Side × Side) :
    weight (setSides team sides) = sides.1.weight + sides.2.weight := by
  cases team with
  | alliance => rfl
  | horde => exact Nat.add_comm _ _

theorem weight_eq (s : Team → Side) (team : Team) :
    weight s = (s team).weight + (s team.other).weight := by
  cases team with
  | alliance => rfl
  | horde => exact Nat.add_comm _ _

/-- Every round but the last makes the sides lighter, so the loop ends. -/
theorem balance_spec (h : ∀ team, (s team).Sound (free team) (queue team)) {fuel : Nat}
    (hfuel : weight s < fuel) :
    ∃ s', balance fuel s = some s' ∧ (∀ team, (s' team).Sound (free team) (queue team)) ∧
      Balanced s' := by
  induction fuel generalizing s with
  | zero => exact absurd hfuel (Nat.not_lt_zero _)
  | succ fuel ih =>
    rw [balance]
    split
    · next hcond =>
        generalize (if (s .alliance).diff < (s .horde).diff then Team.alliance
          else .horde) = team
        have hsome : 0 < (s team).pool.playerCount ∨ 0 < (s team.other).pool.playerCount := by
          cases team with
          | alliance => exact hcond.2.symm
          | horde => exact hcond.2
        obtain ⟨hfirst, hsecond, hstop, hgo⟩ := balanceSides_spec (h team) (h team.other) hsome
        have hsound : ∀ other, (setSides team (balanceSides (s team) (s team.other)).1
            other).Sound (free other) (queue other) :=
          forall_setSides (P := fun other side => side.Sound (free other) (queue other))
            hfirst hsecond
        dsimp only
        cases hbreak : (balanceSides (s team) (s team.other)).2 with
        | true =>
          obtain ⟨hzero, hfew⟩ := hstop hbreak
          refine ⟨_, if_pos rfl, hsound, Or.inr (Or.inr ⟨team, ?_⟩)⟩
          have hself : setSides team (balanceSides (s team) (s team.other)).1 team =
              (balanceSides (s team) (s team.other)).1.1 := if_pos rfl
          have hother : setSides team (balanceSides (s team) (s team.other)).1 team.other =
              (balanceSides (s team) (s team.other)).1.2 := if_neg (by cases team <;> decide)
          rw [hself, hother, hfirst.free]
          exact ⟨hzero, hfew⟩
        | false =>
          have hless :
              weight (setSides team (balanceSides (s team) (s team.other)).1) < fuel := by
            rw [weight_setSides]
            have hlt := hgo hbreak
            rw [← weight_eq] at hlt
            omega
          obtain ⟨s', hs', hend⟩ := ih hsound hless
          exact ⟨s', (if_neg Bool.false_ne_true).trans hs', hend⟩
    · next hcond =>
        refine ⟨s, rfl, h, ?_⟩
        rw [not_and_or, not_lt] at hcond
        refine hcond.imp_right fun hnobody => Or.inl fun team => ?_
        rw [not_or, Nat.not_lt, Nat.not_lt] at hnobody
        cases team with
        | alliance => exact Nat.le_zero.mp hnobody.2
        | horde => exact Nat.le_zero.mp hnobody.1

theorem Side.sound_start (slots : Nat) (queue : List MixedGroup) :
    (Side.start slots queue).Sound slots queue ∧
      (Side.start slots queue).weight ≤ 2 * queue.length := by
  have hinit : (Side.mk slots SelectionPool.init queue).Sound slots queue :=
    ⟨rfl, SelectionPool.within_init slots, List.Sublist.refl _,
      fun _ hg => absurd hg List.not_mem_nil⟩
  obtain ⟨hsound, hle, -⟩ := hinit.addGroups le_rfl
  exact ⟨hsound, hle⟩

/-- With balanced invitation the loop ends. Each pool has waiting groups of its faction's queue,
each at most once, it counts their players, and there are slots for them; and the teams are balanced
as far as groups can be kicked. -/
theorem fillSides_balanced (free : Team → Nat) (queue : Team → List MixedGroup)
    {invitationType : Nat} (hbalanced : invitationType ≠ 0) :
    ∃ s, fillSides (2 * (queue .alliance).length + 2 * (queue .horde).length + 1) invitationType
        free queue = some s ∧
      (∀ team, (s team).Sound (free team) (queue team) ∧
        ((queue team).Nodup → (s team).pool.selectedGroups.Nodup)) ∧ Balanced s := by
  rw [fillSides, if_neg hbalanced]
  have hweight : weight (fun team => Side.start (free team) (queue team)) <
      2 * (queue .alliance).length + 2 * (queue .horde).length + 1 := by
    refine Nat.lt_succ_of_le (Nat.add_le_add ?_ ?_)
    · exact (Side.sound_start (free .alliance) (queue .alliance)).2
    · exact (Side.sound_start (free .horde) (queue .horde)).2
  obtain ⟨s, hs, hsound, hend⟩ :=
    balance_spec (fun team => (Side.sound_start (free team) (queue team)).1) hweight
  refine ⟨s, hs, fun team => ⟨hsound team, fun hnodup => ?_⟩, hend⟩
  exact ((List.sublist_append_left _ _).trans (hsound team).inQueue).nodup hnodup

def aSideQueue : Team → List MixedGroup
  | .alliance => [mixedGroup 1 3 .alliance, mixedGroup 2 1 .alliance]
  | .horde => [mixedGroup 3 1 .horde]

/-- The three players of the first group are kicked for the one of the horde. -/
theorem fillSides_balanced_kicked :
    ∃ s, fillSides 7 1 (fun _ => 3) aSideQueue = some s ∧
      (∀ team, (s team).Sound 3 (aSideQueue team) ∧
        ((aSideQueue team).Nodup → (s team).pool.selectedGroups.Nodup)) ∧ Balanced s :=
  fillSides_balanced (fun _ => 3) aSideQueue Nat.one_ne_zero

example : (fillSides 7 1 (fun _ => 3) aSideQueue).map (fun s => (s .alliance).pool.selectedGroups) =
    some [] := by decide

end Cataclysm.Battlegrounds
