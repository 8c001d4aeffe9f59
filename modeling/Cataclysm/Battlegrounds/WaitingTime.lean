import Cataclysm.Battlegrounds.QueueIntegrity

/-!
# Waiting times on the millisecond clock

The clock is an unsigned 32-bit counter. `CheckPremadeMatch` and the rated arena subtract a delay
from it and compare the time at which a group joined with the result. That agrees with the time the
group has waited as long as the subtraction does not pass zero. While the clock shows less than the
delay, right after the start or after a wrap, it does, and then every group that joined since counts
as one that waited long enough.
-/

namespace Cataclysm.Battlegrounds

/-- The time since a group joined, if the clock went round at most once since. -/
def waited (joinTime now : Nat) : Nat := uint32 (now - joinTime)

/-- A group that passes the test of the source waited longer than the delay exactly when the
subtraction did not pass zero or the clock wrapped after the group joined. -/
theorem lt_waited_iff {joinTime now delay : Nat} (hjoin : joinTime < 2 ^ 32) (hnow : now < 2 ^ 32)
    (hdelay : delay < 2 ^ 32) (htest : joinTime < uint32 (now - delay)) :
    delay < waited joinTime now ↔ delay ≤ now ∨ now < joinTime := by
  simp only [waited, uint32] at htest ⊢
  omega

namespace BattlegroundQueue

variable {q : BattlegroundQueue}

/-! ### Premade groups -/

/-- `CheckPremadeMatch` puts the group in front of the normal list of the team. -/
def MovesPremade (q : BattlegroundQueue) (args : UpdateArgs) (minPlayers maxPlayers : Nat)
    (team : Team) (g : Nat) : Prop :=
  (q.checkPremadeMatch args minPlayers maxPlayers).1.queuedGroups (args.bracket, .normal team) =
    g :: q.queuedGroups (args.bracket, .normal team)

theorem movePremade_groups (bracket : Bracket) (minPlayers timeBefore : Nat) (team : Team) :
    (q.movePremade bracket minPlayers timeBefore team).groups = q.groups := by
  unfold movePremade
  split
  · rfl
  · split
    · rfl
    · split <;> rfl

/-- The lists of the other team stay as they are. -/
theorem movePremade_normal_of_ne {bracket : Bracket} {minPlayers timeBefore : Nat}
    {team other : Team} (h : other ≠ team) :
    (q.movePremade bracket minPlayers timeBefore team).queuedGroups (bracket, .normal other) =
      q.queuedGroups (bracket, .normal other) := by
  have hpremade : ((bracket, .normal other) : Place) ≠ (bracket, .premade team) :=
    fun heq => normal_ne_premade other team (Prod.mk.inj heq).2
  have hnormal : ((bracket, .normal other) : Place) ≠ (bracket, .normal team) :=
    fun heq => h (normal_injective (Prod.mk.inj heq).2)
  unfold movePremade
  split
  · rfl
  · split
    · rfl
    · split
      · simp only [moveFront, Function.update_of_ne hpremade, Function.update_of_ne hnormal]
      · rfl

/-- A group that was moved passed the test of the source. -/
theorem of_movePremade_eq_cons {bracket : Bracket} {minPlayers timeBefore g : Nat} {team : Team}
    (h : (q.movePremade bracket minPlayers timeBefore team).queuedGroups (bracket, .normal team) =
      g :: q.queuedGroups (bracket, .normal team)) :
    ∃ group, q.groups.find? g = some group ∧ group.isInvited = false ∧
      (group.joinTime < timeBefore ∨ group.size < minPlayers) := by
  have hpremade : ((bracket, .normal team) : Place) ≠ (bracket, .premade team) :=
    fun heq => normal_ne_premade team team (Prod.mk.inj heq).2
  unfold movePremade at h
  split at h
  · exact absurd h (List.ne_cons_self)
  · next first rest _ =>
      split at h
      · exact absurd h (List.ne_cons_self)
      · next group hfind =>
          split at h
          · next htest =>
              simp only [moveFront, Function.update_of_ne hpremade, Function.update_self] at h
              obtain rfl := List.head_eq_of_cons_eq h
              exact ⟨group, hfind, htest.1, htest.2⟩
          · exact absurd h (List.ne_cons_self)

/-- A full group that `CheckPremadeMatch` moves passed the test of its waiting time. -/
theorem MovesPremade.test {args : UpdateArgs} {minPlayers maxPlayers g : Nat} {team : Team}
    {group : GroupQueueInfo} (h : q.MovesPremade args minPlayers maxPlayers team g)
    (hfind : q.groups.find? g = some group) (hfull : minPlayers ≤ group.size) :
    group.joinTime < uint32 (args.now - args.premadeGroupWaitForMatch) := by
  unfold MovesPremade checkPremadeMatch at h
  dsimp only at h
  split at h
  · exact absurd h (List.ne_cons_self)
  · obtain ⟨moved, hmoved, -, htest⟩ : ∃ moved, q.groups.find? g = some moved ∧
        moved.isInvited = false ∧
        (moved.joinTime < uint32 (args.now - args.premadeGroupWaitForMatch) ∨
          moved.size < minPlayers) := by
      cases team with
      | alliance =>
        rw [movePremade_normal_of_ne (by decide)] at h
        exact of_movePremade_eq_cons h
      | horde =>
        have hfirst : (q.movePremade args.bracket minPlayers
            (uint32 (args.now - args.premadeGroupWaitForMatch)) .alliance).queuedGroups
              (args.bracket, .normal .horde) = q.queuedGroups (args.bracket, .normal .horde) :=
          movePremade_normal_of_ne (by decide)
        have hpassed := of_movePremade_eq_cons (h.trans (by rw [hfirst]))
        rwa [movePremade_groups] at hpassed
    obtain rfl : moved = group := Option.some.inj (hmoved.symm.trans hfind)
    omega

/-! ### Rated arenas -/

/-- The rating lies in the current window of the first team. -/
def InWindow (args : UpdateArgs) (front opponent : GroupQueueInfo) : Prop :=
  arenaMinRating args front ≤ opponent.arenaMatchmakerRating ∧
    opponent.arenaMatchmakerRating ≤ arenaMaxRating args front

instance (args : UpdateArgs) (front opponent : GroupQueueInfo) :
    Decidable (InWindow args front opponent) := inferInstanceAs (Decidable (_ ∧ _))

/-- One round of the rated arena invites a group together with a second one. -/
def Pairs (args : UpdateArgs) (s : Matching) (g h : Nat) : Prop :=
  h ≠ g ∧ s.queue.isInvited h = false ∧ (matchArena args s g).queue.isInvited g = true ∧
    (matchArena args s g).queue.isInvited h = true

theorem isInvited_modifyGroup_of_ne {g h : Nat} (hne : h ≠ g)
    (f : GroupQueueInfo → GroupQueueInfo) : (q.modifyGroup g f).isInvited h = q.isInvited h := by
  rw [isInvited, find?_modifyGroup, if_neg hne, Option.map_id, id_eq, ← isInvited]

theorem isInvited_inviteGroupToBG_of_ne {g h : Nat} (hne : h ≠ g) (instanceId : Nat)
    (side : Team) : (q.inviteGroupToBG g instanceId side).isInvited h = q.isInvited h :=
  isInvited_modifyGroup_of_ne hne _

theorem takeSides_groups (bracket : Bracket) (aTeam hTeam : Nat)
    (aGroup hGroup : GroupQueueInfo) :
    (q.takeSides bracket aTeam hTeam aGroup hGroup).groups = q.groups := by
  unfold takeSides
  dsimp only
  split <;> split <;> rfl

/-- The second team passed the opponent test against the first with its current window. -/
theorem Pairs.isOpponent {args : UpdateArgs} {s : Matching} {g h : Nat} {front : GroupQueueInfo}
    (hpairs : Pairs args s g h) (hfront : (s.queue.widenRange args g).groups.find? g = some front) :
    (s.queue.widenRange args g).isOpponent args front h = true := by
  obtain ⟨hne, hwaiting, -, hinvited⟩ := hpairs
  have hwide : (s.queue.widenRange args g).isInvited h = false := by
    rw [widenRange, isInvited_modifyGroup_of_ne hne, hwaiting]
  rw [matchArena] at hinvited
  split at hinvited
  · rw [hwaiting] at hinvited
    cases hinvited
  · simp only [hfront] at hinvited
    generalize s.queue.widenRange args g = wide at *
    split at hinvited
    · rw [hwide] at hinvited
      cases hinvited
    · next hTeam hfound =>
        split at hinvited
        · obtain rfl | hother := eq_or_ne h hTeam
          · exact List.find?_some hfound
          · dsimp only at hinvited
            rw [isInvited_inviteGroupToBG_of_ne hother, isInvited_inviteGroupToBG_of_ne hne,
              isInvited, takeSides_groups, ← isInvited, hwide] at hinvited
            cases hinvited
        · rw [hwide] at hinvited
          cases hinvited

/-- The second team lies in the window or passed the test of its waiting time. -/
theorem Pairs.test {args : UpdateArgs} {s : Matching} {g h : Nat}
    {front opponent : GroupQueueInfo} (hpairs : Pairs args s g h)
    (hfront : (s.queue.widenRange args g).groups.find? g = some front)
    (hopponent : s.queue.groups.find? h = some opponent) :
    InWindow args front opponent ∨
      opponent.joinTime < uint32 (args.now - args.ratingDiscardTimer) := by
  have hfind : (s.queue.widenRange args g).groups.find? h = some opponent := by
    rw [widenRange, find?_modifyGroup, if_neg hpairs.1, Option.map_id, id_eq, hopponent]
  have htest := hpairs.isOpponent hfront
  simp only [BattlegroundQueue.isOpponent, hfind, Bool.and_eq_true, Bool.or_eq_true,
    decide_eq_true_eq] at htest
  exact htest.1.2

/-- Of every full premade group that is moved, and of every second team that is paired outside the
window, the time it waited exceeds the delay exactly when the clock shows at least the delay or
wrapped after the group joined. -/
theorem waitingTime_respected_iff (args : UpdateArgs) :
    (∀ (q : BattlegroundQueue) (minPlayers maxPlayers : Nat) (team : Team) (g : Nat)
        (group : GroupQueueInfo),
      args.now < 2 ^ 32 → args.premadeGroupWaitForMatch < 2 ^ 32 → group.joinTime < 2 ^ 32 →
      q.groups.find? g = some group → minPlayers ≤ group.size →
      q.MovesPremade args minPlayers maxPlayers team g →
      (args.premadeGroupWaitForMatch < waited group.joinTime args.now ↔
        args.premadeGroupWaitForMatch ≤ args.now ∨ args.now < group.joinTime)) ∧
    (∀ (s : Matching) (g h : Nat) (front opponent : GroupQueueInfo),
      args.now < 2 ^ 32 → args.ratingDiscardTimer < 2 ^ 32 → opponent.joinTime < 2 ^ 32 →
      (s.queue.widenRange args g).groups.find? g = some front →
      s.queue.groups.find? h = some opponent → Pairs args s g h →
      (InWindow args front opponent ∨
          args.ratingDiscardTimer < waited opponent.joinTime args.now ↔
        InWindow args front opponent ∨
          (args.ratingDiscardTimer ≤ args.now ∨ args.now < opponent.joinTime))) := by
  constructor
  · intro q minPlayers maxPlayers team g group hnow hdelay hjoin hfind hfull hmoves
    exact lt_waited_iff hjoin hnow hdelay (hmoves.test hfind hfull)
  · intro s g h front opponent hnow hdelay hjoin hfront hopponent hpairs
    obtain hwindow | htest := hpairs.test hfront hopponent
    · exact iff_of_true (Or.inl hwindow) (Or.inl hwindow)
    · exact or_congr_right (lt_waited_iff hjoin hnow hdelay htest)

/-- A group of two that queues for a battleground together. -/
def premadeGroup : JoinRequest :=
  { ratedTeam [1, 2] 0 with bgTypeId := 2, arenaType := 0, isRated := false, isPremade := true }

/-- Two rated teams that queue with ratings 1500 and 2500. -/
def unequalTeams : Matching where
  queue := (empty.addGroup (ratedTeam [1, 2] 1)).addGroup
    { ratedTeam [3, 4] 2 with matchmakerRating := 2500 }
  instances := [7]
  stopped := false

/-- The same rules an hour after the start of the clock. -/
def lateUpdate : UpdateArgs := { ratedUpdate with now := 3600000 }

/-- Nearly an hour after they joined, the group that is moved and the team that is paired have
waited long enough. -/
theorem lateClock_respected :
    lateUpdate.premadeGroupWaitForMatch < waited premadeGroup.now lateUpdate.now ∧
      ∃ front opponent, (unequalTeams.queue.widenRange lateUpdate 0).groups.find? 0 = some front ∧
        unequalTeams.queue.groups.find? 1 = some opponent ∧
        (InWindow lateUpdate front opponent ∨
          lateUpdate.ratingDiscardTimer < waited opponent.joinTime lateUpdate.now) := by
  have hmoved : ((empty.addGroup premadeGroup).checkPremadeMatch lateUpdate 2 2).1.queuedGroups
      (lateUpdate.bracket, .normalAlliance) = [0] := by decide
  have hpairs : Pairs lateUpdate unequalTeams 0 1 := by
    refine ⟨?_, ?_, ?_, ?_⟩
    · decide
    · decide
    · decide
    · decide
  refine ⟨?_, _, _, rfl, rfl, ?_⟩
  · exact ((waitingTime_respected_iff lateUpdate).1 (empty.addGroup premadeGroup) 2 2 .alliance 0 _
      (by decide) (by decide) (by decide) rfl (by decide) hmoved).mpr (Or.inl (by decide))
  · exact ((waitingTime_respected_iff lateUpdate).2 unequalTeams 0 1 _ _ (by decide) (by decide)
      (by decide) rfl rfl hpairs).mpr (Or.inr (Or.inl (by decide)))

/-- One second after they joined and two after the start of the clock, a full premade group is
moved that should wait for half an hour, and two teams outside each other's window meet although
the ratings count for ten minutes. -/
theorem earlyClock_countsAsWaited :
    (empty.addGroup premadeGroup).MovesPremade ratedUpdate 2 2 .alliance 0 ∧
      waited premadeGroup.now ratedUpdate.now = 1000 ∧
      ratedUpdate.premadeGroupWaitForMatch = 1800000 ∧
      Pairs ratedUpdate unequalTeams 0 1 ∧
      (∃ front opponent, (unequalTeams.queue.widenRange ratedUpdate 0).groups.find? 0 = some front ∧
        unequalTeams.queue.groups.find? 1 = some opponent ∧
        ¬ InWindow ratedUpdate front opponent ∧
        waited opponent.joinTime ratedUpdate.now = 1000) ∧
      ratedUpdate.ratingDiscardTimer = 600000 := by
  have hmoved : ((empty.addGroup premadeGroup).checkPremadeMatch ratedUpdate 2 2).1.queuedGroups
      (ratedUpdate.bracket, .normalAlliance) = [0] := by decide
  refine ⟨hmoved, rfl, rfl, ⟨?_, ?_, ?_, ?_⟩, ⟨_, _, rfl, rfl, ?_, rfl⟩, rfl⟩
  · decide
  · decide
  · decide
  · decide
  · decide

end BattlegroundQueue

end Cataclysm.Battlegrounds
