import Cataclysm.Groups.LootRoll

/-!
# Completion of group loot rolls

`CountRollVote` compares the counters with the number of players after a vote.
`RemoveMember` takes the vote of a leaving member out of a roll and calls
`CountRollVote` for him, which returns at once because he is no longer in the map.
A roll that only waited for him is therefore left open.

## Implementation notes

A changed vote is counted beside the old one, so the counters bound the numbers of
recorded votes from above. That is enough to notice the last vote.
-/

namespace Cataclysm
open Runs

namespace Roll
open RollVote

variable {roll : Roll} {guid : Guid}

/-- Every player who is still in the map has voted. -/
def AllVoted (roll : Roll) : Prop :=
  ∀ guid, roll.playerVote.find? guid ≠ some .notEmitedYet

/-- The votes that the counters hold. -/
def votes (roll : Roll) : Nat :=
  roll.totalPass.toNat + roll.totalNeed.toNat + roll.totalGreed.toNat

/-- The counters are at least the numbers of recorded votes. -/
structure Counted (roll : Roll) : Prop where
  need : roll.playerVote.countValues isNeed ≤ roll.totalNeed.toNat
  greed : roll.playerVote.countValues isGreed ≤ roll.totalGreed.toNat
  pass : roll.playerVote.countValues isPass ≤ roll.totalPass.toNat
  rolling : roll.totalPlayersRolling.toNat = roll.playerVote.entries.length
  valid : ∀ entry ∈ roll.playerVote.entries, entry.2 ≠ .notValid
  size : roll.playerVote.entries.length ≤ maxRaidSize

theorem length_eq_countValues (m : OrderedMap Guid RollVote)
    (h : ∀ entry ∈ m.entries, entry.2 ≠ .notEmitedYet ∧ entry.2 ≠ .notValid) :
    m.entries.length = m.countValues isPass + m.countValues isNeed + m.countValues isGreed := by
  rw [OrderedMap.countValues, OrderedMap.countValues, OrderedMap.countValues]
  generalize m.entries = entries at h
  induction entries with
  | nil => rfl
  | cons entry rest ih =>
    have hrest := ih fun other hother => h other (List.mem_cons_of_mem _ hother)
    obtain ⟨hemitted, hvalid⟩ := h entry List.mem_cons_self
    have hone : 1 = (if isPass entry.2 then 1 else 0) + (if isNeed entry.2 then 1 else 0) +
        (if isGreed entry.2 then 1 else 0) := by
      cases hvote : entry.2 with
      | notEmitedYet => exact absurd hvote hemitted
      | notValid => exact absurd hvote hvalid
      | pass => rfl
      | need => rfl
      | greed => rfl
      | disenchant => rfl
    simp only [List.length_cons, List.countP_cons]
    omega

/-- The counters of a roll in which everybody has voted reach the number of players. -/
theorem Counted.isComplete (h : roll.Counted) (hall : roll.AllVoted) : roll.isComplete = true := by
  have hlength := length_eq_countValues roll.playerVote (by
    intro entry hentry
    refine ⟨?_, h.valid entry hentry⟩
    intro hvote
    have hfind := OrderedMap.find?_eq_some_iff.mpr hentry
    exact hall entry.1 (hvote ▸ hfind))
  have hneed := h.need
  have hgreed := h.greed
  have hpass := h.pass
  have hrolling := h.rolling
  exact decide_eq_true (by omega)

/-- The tally of a new roll. -/
theorem Consistent.counted (h : roll.Consistent)
    (hvalid : ∀ entry ∈ roll.playerVote.entries, entry.2 ≠ .notValid) : roll.Counted := by
  have hrolling : roll.playerVote.countValues isRolling = roll.playerVote.entries.length := by
    refine List.countP_eq_length.mpr ?_
    intro entry hentry
    exact decide_eq_true (hvalid entry hentry)
  exact ⟨h.need.ge, h.greed.ge, h.pass.ge, h.rolling.trans hrolling, hvalid, h.size⟩

theorem Consistent.votes_le (h : roll.Consistent) : roll.votes ≤ maxRaidSize := by
  have hle := h.tallied.2.2.2
  rw [h.rolling] at hle
  exact hle.trans ((roll.playerVote.countValues_le isRolling).trans h.size)

/-- A counter that is raised when the new vote is of its kind stays above the count. -/
theorem bounded_insert {m : OrderedMap Guid RollVote} {old : RollVote}
    (hold : m.find? guid = some old) {kind : RollVote → Bool} {n : UInt8}
    (h : m.countValues kind ≤ n.toNat) (hroom : n.toNat ≤ maxRaidSize) (vote : RollVote) :
    (m.insert guid vote).countValues kind ≤ (if kind vote then n + 1 else n).toNat := by
  rw [OrderedMap.countValues_insert]
  rw [OrderedMap.countValues_eq_erase hold] at h
  simp only [maxRaidSize] at hroom
  split
  · rw [toNat_add_one (by omega)]
    omega
  · omega

/-- A vote of a player of the roll, whether or not he has voted before. -/
theorem Counted.vote (h : roll.Counted) (hvotes : roll.votes ≤ maxRaidSize) {playerGUID : Guid}
    {old : RollVote} (hold : roll.playerVote.find? playerGUID = some old) (choice : UInt8) :
    (roll.vote playerGUID choice).Counted := by
  rw [votes] at hvotes
  have hneed := bounded_insert hold h.need (by omega)
  have hgreed := bounded_insert hold h.greed (by omega)
  have hpass := bounded_insert hold h.pass (by omega)
  have hlength : ∀ vote, (roll.playerVote.insert playerGUID vote).entries.length =
      roll.playerVote.entries.length := by
    intro vote
    rw [(roll.playerVote.perm_insert playerGUID vote).length_eq,
      (OrderedMap.perm_erase hold).length_eq, List.length_cons, List.length_cons]
  have hrolling : ∀ vote, roll.totalPlayersRolling.toNat =
      (roll.playerVote.insert playerGUID vote).entries.length := by
    intro vote
    rw [h.rolling, hlength]
  have hsize : ∀ vote,
      (roll.playerVote.insert playerGUID vote).entries.length ≤ maxRaidSize := by
    intro vote
    rw [hlength]
    exact h.size
  have hvalid : ∀ vote : RollVote, vote ≠ .notValid →
      ∀ entry ∈ (roll.playerVote.insert playerGUID vote).entries, entry.2 ≠ .notValid := by
    intro vote hvote entry hentry
    rcases OrderedMap.mem_insert.mp hentry with rfl | hother
    · exact hvote
    · exact h.valid entry (OrderedMap.mem_erase.mp hother).1
  rw [Roll.vote]
  split_ifs
  · exact ⟨hneed .pass, hgreed .pass, hpass .pass, hrolling .pass, hvalid .pass (by decide),
      hsize .pass⟩
  · exact ⟨hneed .need, hgreed .need, hpass .need, hrolling .need, hvalid .need (by decide),
      hsize .need⟩
  · exact ⟨hneed .greed, hgreed .greed, hpass .greed, hrolling .greed, hvalid .greed (by decide),
      hsize .greed⟩
  · exact ⟨hneed .disenchant, hgreed .disenchant, hpass .disenchant, hrolling .disenchant,
      hvalid .disenchant (by decide), hsize .disenchant⟩
  · exact h

/-- A counter that is lowered when the vote taken out is of its kind stays above the count. -/
theorem bounded_erase {m : OrderedMap Guid RollVote} {vote : RollVote}
    (hvote : m.find? guid = some vote) {kind : RollVote → Bool} {n : UInt8}
    (h : m.countValues kind ≤ n.toNat) :
    (m.erase guid).countValues kind ≤ (if kind vote then n - 1 else n).toNat ∧
      (if kind vote then n - 1 else n).toNat ≤ n.toNat := by
  rw [OrderedMap.countValues_eq_erase hvote] at h
  split
  · next hkind =>
    rw [if_pos hkind] at h
    rw [Group.toNat_sub_one (by omega)]
    omega
  · omega

theorem Counted.removePlayer (h : roll.Counted) {vote : RollVote}
    (hvote : roll.playerVote.find? guid = some vote) :
    (roll.removePlayer guid vote).Counted ∧ (roll.removePlayer guid vote).votes ≤ roll.votes := by
  have hvalid : ∀ entry ∈ (roll.playerVote.erase guid).entries, entry.2 ≠ .notValid := by
    intro entry hentry
    exact h.valid entry (OrderedMap.mem_erase.mp hentry).1
  have hsize : (roll.playerVote.erase guid).entries.length ≤ maxRaidSize :=
    (List.length_filter_le _ _).trans h.size
  have hrolling : (roll.totalPlayersRolling - 1).toNat =
      (roll.playerVote.erase guid).entries.length := by
    have hlength := (OrderedMap.perm_erase hvote).length_eq
    rw [List.length_cons, ← h.rolling] at hlength
    rw [Group.toNat_sub_one (by omega)]
    omega
  obtain ⟨hneed, hneedLe⟩ := bounded_erase hvote h.need
  obtain ⟨hgreed, hgreedLe⟩ := bounded_erase hvote h.greed
  obtain ⟨hpass, hpassLe⟩ := bounded_erase hvote h.pass
  have hvotes : ∀ n m k : UInt8, n.toNat ≤ roll.totalPass.toNat →
      m.toNat ≤ roll.totalNeed.toNat → k.toNat ≤ roll.totalGreed.toNat →
      n.toNat + m.toNat + k.toNat ≤ roll.votes := by
    intro n m k hn hm hk
    rw [votes]
    omega
  have hle := hvotes _ _ _ hpassLe hneedLe hgreedLe
  cases vote with
  | notValid => exact absurd rfl (h.valid _ (OrderedMap.find?_eq_some_iff.mp hvote))
  | pass => exact ⟨⟨hneed, hgreed, hpass, hrolling, hvalid, hsize⟩, hle⟩
  | need => exact ⟨⟨hneed, hgreed, hpass, hrolling, hvalid, hsize⟩, hle⟩
  | greed => exact ⟨⟨hneed, hgreed, hpass, hrolling, hvalid, hsize⟩, hle⟩
  | disenchant => exact ⟨⟨hneed, hgreed, hpass, hrolling, hvalid, hsize⟩, hle⟩
  | notEmitedYet => exact ⟨⟨hneed, hgreed, hpass, hrolling, hvalid, hsize⟩, hle⟩

theorem find?_removePlayer (roll : Roll) {other : Guid} (vote : RollVote) (h : other ≠ guid) :
    (roll.removePlayer guid vote).playerVote.find? other = roll.playerVote.find? other := by
  have herase := (OrderedMap.find?_erase roll.playerVote guid other).trans (if_neg h)
  cases vote <;> exact herase

/-- A member with a map entry keeps it while the others join. -/
theorem find?_addPlayers (members : List (Guid × Bool)) (roll : Roll)
    (h : guid ∉ members.map Prod.fst) :
    (members.foldl addPlayer roll).playerVote.find? guid = roll.playerVote.find? guid := by
  induction members generalizing roll with
  | nil => rfl
  | cons member rest ih =>
    rw [List.map_cons, List.mem_cons, not_or] at h
    rw [List.foldl_cons, ih _ h.2, find?_addPlayer _ _ h.1]

/-- A member who does not pass on group loot is undecided. -/
theorem find?_addPlayers_undecided {members : List (Guid × Bool)} (roll : Roll)
    (hdistinct : (members.map Prod.fst).Nodup) (h : (guid, false) ∈ members) :
    (members.foldl addPlayer roll).playerVote.find? guid = some .notEmitedYet := by
  induction members generalizing roll with
  | nil => cases h
  | cons member rest ih =>
    rw [List.map_cons, List.nodup_cons] at hdistinct
    rw [List.foldl_cons]
    rcases List.mem_cons.mp h with rfl | hrest
    · rw [find?_addPlayers _ _ hdistinct.1]
      exact OrderedMap.find?_insert_self _ _ _
    · exact ih _ hdistinct.2 hrest

theorem valid_addPlayers (members : List (Guid × Bool))
    (h : ∀ entry ∈ roll.playerVote.entries, entry.2 ≠ .notValid) :
    ∀ entry ∈ (members.foldl addPlayer roll).playerVote.entries, entry.2 ≠ .notValid := by
  induction members generalizing roll with
  | nil => exact h
  | cons member rest ih =>
    refine ih ?_
    have hinsert : ∀ vote : RollVote, vote ≠ .notValid →
        ∀ entry ∈ (roll.playerVote.insert member.1 vote).entries, entry.2 ≠ .notValid := by
      intro vote hvote entry hentry
      rcases OrderedMap.mem_insert.mp hentry with rfl | hother
      · exact hvote
      · exact h entry (OrderedMap.mem_erase.mp hother).1
    rw [addPlayer]
    dsimp only
    split
    · exact hinsert .pass (by decide)
    · exact hinsert .notEmitedYet (by decide)

/-- A roll that goes on: somebody has not voted, and the counters cover the votes. -/
structure Waiting (roll : Roll) : Prop where
  counted : roll.Counted
  votes : roll.votes ≤ maxRaidSize
  undecided : ¬ roll.AllVoted

theorem waiting_start {itemGUID : Guid} {loot : LootId} {itemSlot : Nat} {rollers : Rollers}
    (h : (guid, false) ∈ rollers.members) : (start itemGUID loot itemSlot rollers).Waiting := by
  have hconsistent := consistent_start itemGUID loot itemSlot rollers
  have hvalid : ∀ entry ∈ (start itemGUID loot itemSlot rollers).playerVote.entries,
      entry.2 ≠ .notValid := by
    have hnew : ∀ entry ∈ (new itemGUID).playerVote.entries, entry.2 ≠ .notValid :=
      fun _ h => nomatch h
    exact valid_addPlayers rollers.members hnew
  refine ⟨hconsistent.counted hvalid, hconsistent.votes_le, ?_⟩
  intro hall
  exact hall guid (find?_addPlayers_undecided (new itemGUID) rollers.distinct h)

/-- A vote that does not complete a roll leaves it waiting. -/
theorem Waiting.vote (h : roll.Waiting) {playerGUID : Guid} {old : RollVote}
    (hold : roll.playerVote.find? playerGUID = some old) {choice : UInt8}
    (hopen : ¬ (roll.vote playerGUID choice).isComplete = true) :
    (roll.vote playerGUID choice).Waiting := by
  have hcounted := h.counted.vote h.votes hold choice
  refine ⟨hcounted, ?_, ?_⟩
  · have hless : ¬ (roll.vote playerGUID choice).votes ≥
        (roll.vote playerGUID choice).totalPlayersRolling.toNat := by
      intro hge
      exact hopen (decide_eq_true hge)
    have hrolling := hcounted.rolling
    have hsize := hcounted.size
    omega
  · intro hall
    exact hopen (hcounted.isComplete hall)

end Roll

namespace GroupRolls

variable {s : GroupRolls}

/-- Somebody other than a player is undecided. -/
def AwaitsOther (guid : Guid) (roll : Roll) : Prop :=
  ∃ other, other ≠ guid ∧ roll.playerVote.find? other = some .notEmitedYet

/-- No roll is opened with players who all pass on group loot, and no member leaves
who is the last undecided player of a roll. -/
def LeavesUndecided (s : GroupRolls) : Action → Prop
  | .startRoll _ _ _ rollers =>
    rollers.members ≠ [] → ∃ guid, (guid, false) ∈ rollers.members
  | .removeMember _ guid =>
    ∀ roll ∈ s.rollId, roll.playerVote.find? guid = some .notEmitedYet → AwaitsOther guid roll
  | _ => True

def Waiting (s : GroupRolls) : Prop := ∀ roll ∈ s.rollId, roll.Waiting

theorem Waiting.countTheRoll (h : s.Waiting) (context : RollContext) (rollI : Nat) :
    (s.countTheRoll context rollI).Waiting := by
  intro roll hroll
  rw [rollId_countTheRoll] at hroll
  exact h roll (List.mem_of_mem_eraseIdx hroll)

theorem rollId_countRollVote (context : RollContext) (s : GroupRolls) (playerGUID guid : Guid)
    (choice : UInt8) {roll : Roll}
    (h : roll ∈ (s.countRollVote context playerGUID guid choice).rollId) :
    roll ∈ s.rollId ∨ ∃ rollI, s.votedRoll playerGUID guid choice = some (rollI, roll) ∧
      ¬ roll.isComplete = true := by
  rw [countRollVote_eq] at h
  rcases hvoted : s.votedRoll playerGUID guid choice with _ | ⟨rollI, voted⟩
  · rw [hvoted] at h
    exact Or.inl h
  rw [hvoted] at h
  dsimp only at h
  split at h
  · next hcomplete =>
    rw [rollId_countTheRoll, List.eraseIdx_set_eq] at h
    exact Or.inl (List.mem_of_mem_eraseIdx h)
  · next hopen =>
    rcases List.mem_or_eq_of_mem_set h with hmem | rfl
    · exact Or.inl hmem
    · exact Or.inr ⟨rollI, rfl, hopen⟩

theorem Waiting.countRollVote (h : s.Waiting) (context : RollContext) (playerGUID guid : Guid)
    (choice : UInt8) : (s.countRollVote context playerGUID guid choice).Waiting := by
  intro roll hroll
  rcases rollId_countRollVote context s playerGUID guid choice hroll with
    hmem | ⟨rollI, hvoted, hopen⟩
  · exact h roll hmem
  · obtain ⟨old, vote, hold, hfind, rfl, -⟩ := votedRoll_eq_some hvoted
    exact (h old (List.mem_of_getElem? hold)).vote hfind hopen

/-- What a removal keeps of a roll as long as the rolls await another player. -/
def WaitingFor (guid : Guid) (roll : Roll) : Prop :=
  roll.Counted ∧ roll.votes ≤ maxRaidSize ∧ AwaitsOther guid roll

theorem waitingFor_removeFromRoll (context : RollContext) {guid : Guid}
    (h : ∀ roll ∈ s.rollId, WaitingFor guid roll) (rollI : Nat) :
    ∀ roll ∈ (s.removeFromRoll context guid rollI).rollId, WaitingFor guid roll := by
  intro roll hroll
  rw [removeFromRoll] at hroll
  rcases hold : s.rollId[rollI]? with _ | old
  · rw [hold] at hroll
    exact h roll hroll
  rw [hold] at hroll
  dsimp only at hroll
  rcases hvote : old.playerVote.find? guid with _ | vote
  · rw [hvote] at hroll
    exact h roll hroll
  rw [hvote] at hroll
  obtain ⟨hcounted, hvotes, other, hother, hundecided⟩ := h old (List.mem_of_getElem? hold)
  obtain ⟨hremoved, hle⟩ := hcounted.removePlayer hvote
  have hset : ∀ roll ∈ s.rollId.set rollI (old.removePlayer guid vote),
      WaitingFor guid roll := by
    intro roll hmem
    rcases List.mem_or_eq_of_mem_set hmem with hmem | rfl
    · exact h roll hmem
    · refine ⟨hremoved, hle.trans hvotes, other, hother, ?_⟩
      exact (Roll.find?_removePlayer old vote hother).trans hundecided
  rcases rollId_countRollVote context _ guid old.itemGUID maxRollType hroll with
    hmem | ⟨position, hvoted, -⟩
  · exact hset roll hmem
  · obtain ⟨before, _, hbefore, -, heq, -⟩ := votedRoll_eq_some hvoted
    rw [heq, Roll.vote_of_not_recorded before guid UInt8.le_rfl]
    exact hset before (List.mem_of_getElem? hbefore)

theorem Waiting.removeMember (h : s.Waiting) (context : RollContext) {guid : Guid}
    (hok : s.LeavesUndecided (.removeMember context guid)) :
    (s.removeMember context guid).Waiting := by
  have hfor : ∀ roll ∈ s.rollId, WaitingFor guid roll := by
    intro roll hroll
    have hwaiting := h roll hroll
    refine ⟨hwaiting.counted, hwaiting.votes, ?_⟩
    obtain ⟨other, hother⟩ := not_forall.mp hwaiting.undecided
    have hundecided := not_not.mp hother
    by_cases hsame : other = guid
    · subst hsame
      exact hok roll hroll hundecided
    · exact ⟨other, hsame, hundecided⟩
  rw [GroupRolls.removeMember]
  generalize List.range s.rollId.length = positions
  clear h hok
  induction positions generalizing s with
  | nil =>
    intro roll hroll
    obtain ⟨hcounted, hvotes, other, -, hundecided⟩ := hfor roll hroll
    exact ⟨hcounted, hvotes, fun hall => hall other hundecided⟩
  | cons rollI rest ih => exact ih (waitingFor_removeFromRoll context hfor rollI)

theorem Waiting.endRolls (h : s.Waiting) (context : RollContext) (loot : LootId) (fuel : Nat) :
    (GroupRolls.endRolls context loot fuel s).Waiting := by
  induction fuel generalizing s with
  | zero => exact h
  | succ fuel ih =>
    rw [GroupRolls.endRolls]
    split
    · exact h
    · exact ih (h.countTheRoll context _)

theorem Waiting.startRoll (h : s.Waiting) (itemGUID : Guid) (loot : LootId) (itemSlot : Nat)
    (rollers : Rollers) (hok : s.LeavesUndecided (.startRoll itemGUID loot itemSlot rollers)) :
    (s.startRoll itemGUID loot itemSlot rollers).Waiting := by
  rw [GroupRolls.startRoll]
  dsimp only
  split
  · next hrolling =>
    have hmembers : rollers.members ≠ [] := by
      intro hnone
      rw [Roll.start, hnone] at hrolling
      exact (lt_irrefl (0 : Nat)) hrolling
    obtain ⟨guid, hguid⟩ := hok hmembers
    intro roll hroll
    rcases List.mem_append.mp hroll with hold | hnew
    · exact h roll hold
    · obtain rfl := List.mem_singleton.mp hnew
      exact Roll.waiting_start hguid
  · exact h

theorem Waiting.clearLoot (h : s.Waiting) (loot : LootId) : (s.clearLoot loot).Waiting := by
  intro roll hroll
  obtain ⟨old, hold, rfl⟩ := List.mem_map.mp hroll
  obtain ⟨hcounted, hvotes, hundecided⟩ := h old hold
  split
  · exact ⟨⟨hcounted.need, hcounted.greed, hcounted.pass, hcounted.rolling, hcounted.valid,
      hcounted.size⟩, hvotes, hundecided⟩
  · exact ⟨hcounted, hvotes, hundecided⟩

theorem Waiting.step (h : s.Waiting) {action : Action} (hok : s.LeavesUndecided action) :
    (s.step action).Waiting := by
  cases action with
  | startRoll itemGUID loot itemSlot rollers =>
    exact h.startRoll itemGUID loot itemSlot rollers hok
  | lootRoll context playerGUID itemGUID rollType =>
    exact h.countRollVote context playerGUID itemGUID rollType
  | removeMember context guid => exact h.removeMember context hok
  | endRoll context loot => exact h.endRolls context loot _
  | clearLoot loot => exact h.clearLoot loot

/-- As long as the last undecided player of a roll does not leave the group, somebody is
undecided in every roll of the group. -/
theorem undecided_of_run (loots : LootId → Loot) {actions before : List Action}
    (h : Admissible step LeavesUndecided ⟨[], loots, []⟩ actions) (hbefore : before <+: actions)
    {roll : Roll} (hroll : roll ∈ (run step ⟨[], loots, []⟩ before).rollId) : ¬ roll.AllVoted := by
  have hwaiting : (run step ⟨[], loots, []⟩ before).Waiting :=
    h.invariant (fun hs hok => hs.step hok) (fun _ hnone => nomatch hnone) hbefore
  exact (hwaiting roll hroll).undecided

/-- One player votes, and one of two undecided players leaves. -/
theorem undecided_vote_leave :
    ∃ roll ∈ (run step ⟨[], oneItem, []⟩
        [fourRollers, .lootRoll everyoneOnline 1 10 1, .removeMember everyoneOnline 2]).rollId,
      ¬ roll.AllVoted := by
  have hleave : Admissible step LeavesUndecided ⟨[], oneItem, []⟩
      [fourRollers, .lootRoll everyoneOnline 1 10 1, .removeMember everyoneOnline 2] := by
    refine ⟨fun _ => ⟨1, List.mem_cons_self⟩, trivial, ?_, trivial⟩
    intro roll hroll _
    obtain rfl := List.mem_singleton.mp hroll
    exact ⟨4, by decide, by decide⟩
  exact ⟨_, List.mem_cons_self,
    undecided_of_run oneItem hleave (List.prefix_refl _) List.mem_cons_self⟩

/-- The last undecided player leaves, and the roll is left open. -/
theorem left_open :
    ¬ ∀ actions context guid,
      ∀ roll ∈ (run step ⟨[], oneItem, []⟩ (actions ++ [.removeMember context guid])).rollId,
        ¬ roll.AllVoted := by
  intro h
  refine h [fourRollers, .lootRoll everyoneOnline 1 10 1, .lootRoll everyoneOnline 2 10 2]
    everyoneOnline 4 _ List.mem_cons_self ?_
  intro guid hfind
  have hentry := OrderedMap.find?_eq_some_iff.mp hfind
  have hvotes : ∀ entry ∈ [((1 : Guid), RollVote.need), (2, .greed), (3, .pass)],
      entry.2 ≠ .notEmitedYet := by decide
  exact hvotes _ hentry rfl

end GroupRolls

end Cataclysm
