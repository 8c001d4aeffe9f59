import Cataclysm.Guilds.Ranks

/-!
# What a change of the rank list does to everyone's rights

When a rank is removed the lower ranks move up by one, and when two ranks are exchanged their
members follow. Both write the ranks that move through a constructor that leaves the bank rights
empty, and the removal does not touch the members. So rights are kept exactly when the ranks that
move have no bank rights and nobody notices the shift.

## Implementation notes

`RankListRequest.newRankId` says under which index a rank is found afterwards; the removed rank has
none.
-/

namespace Cataclysm.Guilds

/-- The requests that change the list of ranks. -/
inductive RankListRequest
  | removeRank (player rankId : Nat)
  | switchRank (player rankId : Nat) (up : Bool)
  deriving DecidableEq

namespace RankedGuild

def handleRankList (g : RankedGuild) : RankListRequest → Option RankedGuild
  | .removeRank player rankId => some (g.handleRemoveRank player rankId)
  | .switchRank player rankId up => g.handleSwitchRank player rankId up

/-- What somebody with this rank id may do. -/
def dataOf (g : RankedGuild) (rankId : Nat) : Option (String × Nat × Nat × List (Nat × Nat)) :=
  (g.getRank rankId).map Rank.data

theorem dataOf_eq (g : RankedGuild) (rankId : Nat) :
    g.dataOf rankId = (g.ranks[rankId]?).map Rank.data := by
  rw [dataOf, getRank_eq]

end RankedGuild

namespace RankListRequest

/-- The request gets past the checks of its handler. -/
def accepted (g : RankedGuild) : RankListRequest → Bool
  | .removeRank player rankId => g.toGuild.removesRank player (uint8 rankId)
  | .switchRank player rankId up =>
    player == g.leaderGuid && (g.toGuild.switchedRanks (uint8 rankId) up).isSome

/-- The index of a rank after the request. -/
def newRankId (g : RankedGuild) : RankListRequest → Nat → Option Nat
  | .removeRank _ rankId, i =>
    if i = uint8 rankId then none else some (if uint8 rankId < i then i - 1 else i)
  | .switchRank _ rankId up, i =>
    match g.toGuild.switchedRanks (uint8 rankId) up with
    | some (old, new) => some (if i = old then new else if i = new then old else i)
    | none => some i

/-- The ranks that move have no bank rights; in a removal nobody below the removed rank stands in
a rank that differs from the next one. -/
def Harmless (g : RankedGuild) : RankListRequest → Prop
  | .removeRank _ rankId =>
    (∀ i, uint8 rankId < i → ∀ r ∈ g.ranks[i]?, r.isBlank = true) ∧
      ∀ m ∈ g.roster.members, uint8 rankId < m.rankId → m.rankId < g.ranks.length →
        g.dataOf (m.rankId + 1) = g.dataOf m.rankId
  | .switchRank _ rankId up => ∀ pair ∈ g.toGuild.switchedRanks (uint8 rankId) up,
      (g.ranks[pair.1]?).any Rank.isBlank = true ∧ (g.ranks[pair.2]?).any Rank.isBlank = true

end RankListRequest

namespace RankedGuild

/-- The ranks that stay keep their data under their new ids, and so does every member who was not
in a removed rank. -/
structure KeepsRights (g : RankedGuild) (newRankId : Nat → Option Nat) (g' : RankedGuild) : Prop where
  ranks : ∀ i < g.ranks.length, ∀ j, newRankId i = some j → g'.dataOf j = g.dataOf i
  members : ∀ m ∈ g.roster.members, newRankId m.rankId ≠ none →
    ∃ m' ∈ g'.roster.members, m'.lowGuid = m.lowGuid ∧ g'.dataOf m'.rankId = g.dataOf m.rankId

variable {g : RankedGuild}

/-! ### The removal of a rank -/

/-- After some rounds the ranks in the range are the next ones, and the others are untouched. -/
theorem getElem?_foldl_moveRankDown (ranks : List Rank) (start count i : Nat) :
    ((List.range' start count).foldl moveRankDown ranks)[i]? =
      if start ≤ i ∧ i < start + count ∧ i + 1 < ranks.length then
        (ranks[i + 1]?).map fun next => next.renumber i
      else ranks[i]? := by
  induction count generalizing i with
  | zero =>
    have hempty : ¬ (start ≤ i ∧ i < start + 0 ∧ i + 1 < ranks.length) := by omega
    rw [if_neg hempty]
    rfl
  | succ count ih =>
    rw [List.range'_concat, List.foldl_append, List.foldl_cons, List.foldl_nil, one_mul,
      moveRankDown]
    have hread : ((List.range' start count).foldl moveRankDown ranks)[start + count + 1]? =
        ranks[start + count + 1]? := by
      rw [ih, if_neg (by omega)]
    rw [hread]
    by_cases hin : start + count + 1 < ranks.length
    · rw [List.getElem?_eq_getElem hin]
      dsimp only
      rw [List.getElem?_set, length_foldl_moveRankDown]
      by_cases heq : start + count = i
      · subst heq
        rw [if_pos rfl, if_pos (by omega), if_pos (by omega), List.getElem?_eq_getElem hin]
        rfl
      · rw [if_neg heq, ih]
        have hiff : (start ≤ i ∧ i < start + count ∧ i + 1 < ranks.length) ↔
            (start ≤ i ∧ i < start + (count + 1) ∧ i + 1 < ranks.length) := by omega
        simp only [hiff]
    · rw [List.getElem?_eq_none (Nat.le_of_not_lt hin)]
      dsimp only
      rw [ih]
      have hiff : (start ≤ i ∧ i < start + count ∧ i + 1 < ranks.length) ↔
          (start ≤ i ∧ i < start + (count + 1) ∧ i + 1 < ranks.length) := by omega
      simp only [hiff]

/-- The vector of the ranks is small enough for the loop to get to its end. -/
theorem movedRanks_eq (g : RankedGuild) (rankId : Nat) :
    g.movedRanks rankId = List.range' rankId (g.ranks.length - 1 - rankId) := by
  have hmax : g.ranks.length ≤ 10 := g.ranks_le
  rw [movedRanks, getRanksSize_eq]
  refine List.takeWhile_eq_self_iff.mpr ?_
  intro i hi
  have hrange := List.mem_range'_1.mp hi
  rw [decide_eq_true_eq]
  unfold guildRanksMaxCount
  omega

theorem getElem?_handleRemoveRank {player rankId : Nat}
    (h : g.toGuild.removesRank player (uint8 rankId) = true) (i : Nat) :
    (g.handleRemoveRank player rankId).ranks[i]? =
      if i < uint8 rankId then g.ranks[i]?
      else (g.ranks[i + 1]?).map fun next => next.renumber i := by
  have hlt : uint8 rankId < g.ranks.length := by
    rw [Guild.removesRank, getRanksSize_eq] at h
    simp only [Bool.and_eq_true, decide_eq_true_eq] at h
    exact h.1.2
  rw [handleRemoveRank]
  rw [if_pos h]
  dsimp only
  rw [getRanksSize_eq, movedRanks_eq, List.getElem?_take, getElem?_foldl_moveRankDown]
  by_cases hbelow : i < uint8 rankId
  · rw [if_pos hbelow, if_pos (by omega), if_neg (by omega)]
  · rw [if_neg hbelow]
    by_cases hin : i < g.ranks.length - 1
    · rw [if_pos hin, if_pos (by omega)]
    · rw [if_neg hin, List.getElem?_eq_none (show g.ranks.length ≤ i + 1 by omega)]
      rfl

theorem dataOf_handleRemoveRank {player rankId : Nat}
    (h : g.toGuild.removesRank player (uint8 rankId) = true) (i : Nat) :
    (g.handleRemoveRank player rankId).dataOf i =
      if i < uint8 rankId then g.dataOf i
      else (g.ranks[i + 1]?).map fun next => (next.renumber i).data := by
  rw [dataOf_eq, getElem?_handleRemoveRank h, dataOf_eq]
  split
  · rfl
  · rw [Option.map_map]
    rfl

theorem roster_handleRemoveRank (player rankId : Nat) :
    (g.handleRemoveRank player rankId).roster = g.roster := by
  rw [handleRemoveRank]
  split
  · rfl
  · rfl

/-- A rank with another index has the same data when it has no bank rights. -/
theorem map_renumber_iff {i j : Nat} :
    (g.ranks[i]?).map (fun r => (r.renumber j).data) = g.dataOf i ↔
      ∀ r ∈ g.ranks[i]?, r.isBlank = true := by
  rw [dataOf_eq]
  cases g.ranks[i]? with
  | none => simp
  | some r =>
    simp only [Option.map_some, Option.some.injEq, Option.mem_def, forall_eq']
    exact r.data_renumber_iff j

theorem keepsRights_removeRank {player rankId : Nat}
    (h : g.toGuild.removesRank player (uint8 rankId) = true) :
    g.KeepsRights (RankListRequest.newRankId g (.removeRank player rankId))
        (g.handleRemoveRank player rankId) ↔
      (RankListRequest.removeRank player rankId).Harmless g := by
  constructor
  · intro hkeep
    have hblank : ∀ i, uint8 rankId < i → ∀ r ∈ g.ranks[i]?, r.isBlank = true := by
      intro i hi
      by_cases hin : i < g.ranks.length
      · have hdata := hkeep.ranks i hin (i - 1) (by
          rw [RankListRequest.newRankId, if_neg (by omega), if_pos hi])
        rw [dataOf_handleRemoveRank h, if_neg (by omega), Nat.sub_add_cancel (by omega)] at hdata
        exact map_renumber_iff.mp hdata
      · intro r hr
        rw [List.getElem?_eq_none (Nat.le_of_not_lt hin)] at hr
        cases hr
    refine ⟨hblank, ?_⟩
    intro m hm hbelow hlt
    obtain ⟨m', hm', hkey, hdata⟩ := hkeep.members m hm (by
      rw [RankListRequest.newRankId, if_neg (by omega)]
      exact Option.some_ne_none _)
    rw [roster_handleRemoveRank] at hm'
    rw [Roster.eq_of_lowGuid_eq hm' hm hkey, dataOf_handleRemoveRank h, if_neg (by omega)] at hdata
    rw [← hdata]
    exact (map_renumber_iff.mpr (hblank (m.rankId + 1) (by omega))).symm
  · rintro ⟨hblank, hmembers⟩
    have hmoved : ∀ i, uint8 rankId ≤ i →
        (g.handleRemoveRank player rankId).dataOf i = g.dataOf (i + 1) := by
      intro i hi
      rw [dataOf_handleRemoveRank h, if_neg (by omega)]
      exact map_renumber_iff.mpr (hblank (i + 1) (by omega))
    constructor
    · intro i _ j hj
      rw [RankListRequest.newRankId] at hj
      by_cases hremoved : i = uint8 rankId
      · rw [if_pos hremoved] at hj
        cases hj
      · rw [if_neg hremoved] at hj
        cases hj
        by_cases hbelow : uint8 rankId < i
        · rw [if_pos hbelow, hmoved (i - 1) (by omega), Nat.sub_add_cancel (by omega)]
        · rw [if_neg hbelow, dataOf_handleRemoveRank h, if_pos (by omega)]
    · intro m hm hstays
      refine ⟨m, ?_, rfl, ?_⟩
      · rw [roster_handleRemoveRank]
        exact hm
      · by_cases hbelow : m.rankId < uint8 rankId
        · rw [dataOf_handleRemoveRank h, if_pos hbelow]
        · have hne : m.rankId ≠ uint8 rankId := by
            intro heq
            rw [RankListRequest.newRankId, if_pos heq] at hstays
            exact hstays rfl
          rw [hmoved m.rankId (by omega)]
          by_cases hin : m.rankId < g.ranks.length
          · exact hmembers m hm (by omega) hin
          · rw [dataOf_eq, dataOf_eq, List.getElem?_eq_none (by omega),
              List.getElem?_eq_none (by omega)]

/-! ### The exchange of two ranks -/

/-- The index that takes the place of another in an exchange. -/
def exchanged (old new i : Nat) : Nat := if i = old then new else if i = new then old else i

theorem getElem?_exchange {old new : Nat} {oldRank newRank : Rank}
    (hold : g.ranks[old]? = some oldRank)
    (hnew : g.ranks[new]? = some newRank) (hne : old ≠ new) (i : Nat) :
    ((g.ranks.set old (newRank.renumber old)).set new (oldRank.renumber new))[exchanged old new i]? =
      if i = old then some (oldRank.renumber new) else if i = new then some (newRank.renumber old)
      else g.ranks[i]? := by
  obtain ⟨hold', -⟩ := List.getElem?_eq_some_iff.mp hold
  obtain ⟨hnew', -⟩ := List.getElem?_eq_some_iff.mp hnew
  rw [exchanged, List.getElem?_set, List.getElem?_set, List.length_set]
  by_cases hiold : i = old
  · rw [if_pos hiold, if_pos hiold, if_pos rfl, if_pos hnew']
  · rw [if_neg hiold, if_neg hiold]
    by_cases hinew : i = new
    · rw [if_pos hinew, if_pos hinew, if_neg hne.symm, if_pos rfl, if_pos hold']
    · rw [if_neg hinew, if_neg hinew, if_neg (fun heq => hinew heq.symm),
        if_neg (fun heq => hiold heq.symm)]

/-- The pair that is exchanged consists of neighbours. -/
theorem switchedRanks_ne {guild : Guild} {rankId old new : Nat} {up : Bool}
    (h : guild.switchedRanks rankId up = some (old, new)) : old ≠ new := by
  rw [Guild.switchedRanks] at h
  split at h
  · cases h
  · split at h
    · cases h
    · next hedge =>
        cases h
        rw [not_or] at hedge
        cases up with
        | true =>
          have hzero : rankId ≠ grGuildmaster := fun heq => hedge.1 ⟨heq, rfl⟩
          rw [grGuildmaster] at hzero
          rw [if_pos rfl]
          omega
        | false =>
          rw [if_neg Bool.false_ne_true]
          omega

theorem keepsRights_switchRank {rankId old new : Nat} {up : Bool} (player : Nat)
    (hswitch : g.toGuild.switchedRanks (uint8 rankId) up = some (old, new)) :
    (∃ g', g.switchRank (uint8 rankId) up = some g' ∧
        g.KeepsRights (RankListRequest.newRankId g (.switchRank player rankId up)) g') ↔
      (g.ranks[old]?).any Rank.isBlank = true ∧ (g.ranks[new]?).any Rank.isBlank = true := by
  have hne := switchedRanks_ne hswitch
  have hid : ∀ i, RankListRequest.newRankId g (.switchRank player rankId up) i =
      some (exchanged old new i) := by
    intro i
    rw [RankListRequest.newRankId, hswitch]
    rfl
  rw [switchRank, hswitch]
  dsimp only
  cases hold : g.ranks[old]? with
  | none => simp
  | some oldRank =>
    cases hnew : g.ranks[new]? with
    | none => simp
    | some newRank =>
      dsimp only
      have hdata : ∀ i, (Option.map Rank.data
          ((g.ranks.set old (newRank.renumber old)).set new
            (oldRank.renumber new))[exchanged old new i]?) =
          if i = old then some (oldRank.renumber new).data
          else if i = new then some (newRank.renumber old).data else g.dataOf i := by
        intro i
        rw [getElem?_exchange hold hnew hne, dataOf_eq]
        split
        · rfl
        · split
          · rfl
          · rfl
      obtain ⟨hold', -⟩ := List.getElem?_eq_some_iff.mp hold
      obtain ⟨hnew', -⟩ := List.getElem?_eq_some_iff.mp hnew
      simp only [Option.any_some, Option.some.injEq, exists_eq_left']
      constructor
      · intro hkeep
        have holdData := hkeep.ranks old hold' _ (hid old)
        have hnewData := hkeep.ranks new hnew' _ (hid new)
        rw [dataOf_eq, dataOf_eq] at holdData hnewData
        dsimp only at holdData hnewData
        rw [hdata, if_pos rfl, hold] at holdData
        rw [hdata, if_neg hne.symm, if_pos rfl, hnew] at hnewData
        exact ⟨(oldRank.data_renumber_iff new).mp (Option.some.inj holdData),
          (newRank.data_renumber_iff old).mp (Option.some.inj hnewData)⟩
      · rintro ⟨holdBlank, hnewBlank⟩
        have hsame : ∀ i, (Option.map Rank.data
            ((g.ranks.set old (newRank.renumber old)).set new
              (oldRank.renumber new))[exchanged old new i]?) = g.dataOf i := by
          intro i
          rw [hdata]
          split
          · next heq =>
              rw [heq, dataOf_eq, hold, (oldRank.data_renumber_iff new).mpr holdBlank]
              rfl
          · split
            · next heq =>
                rw [heq, dataOf_eq, hnew, (newRank.data_renumber_iff old).mpr hnewBlank]
                rfl
            · rfl
        constructor
        · intro i _ j hj
          rw [hid] at hj
          cases hj
          rw [dataOf_eq]
          exact hsame i
        · intro m hm _
          refine ⟨_, Roster.mem_rerank.mpr ⟨m, hm, rfl⟩, rfl, ?_⟩
          rw [dataOf_eq]
          exact hsame m.rankId

/-- An accepted change of the rank list keeps everyone's rights exactly when it is harmless. -/
theorem keepsRights_iff (g : RankedGuild) (request : RankListRequest)
    (haccepted : request.accepted g = true) :
    (∃ g', g.handleRankList request = some g' ∧ g.KeepsRights (request.newRankId g) g') ↔
      request.Harmless g := by
  cases request with
  | removeRank player rankId =>
    rw [handleRankList, ← keepsRights_removeRank haccepted]
    simp
  | switchRank player rankId up =>
    rw [RankListRequest.accepted, Bool.and_eq_true, beq_iff_eq] at haccepted
    obtain ⟨⟨old, new⟩, hswitch⟩ := Option.isSome_iff_exists.mp haccepted.2
    rw [handleRankList, handleSwitchRank, if_pos haccepted.1, keepsRights_switchRank player hswitch,
      RankListRequest.Harmless, hswitch]
    simp

theorem aRankedGuild_le : (aGuild.ranks.map Rank.new).length ≤ guildRanksMaxCount := by decide

/-- The three members and five ranks, with one bank tab in which nobody has rights. -/
def aRankedGuild : RankedGuild :=
  ⟨1, aGuild.ranks.map Rank.new, aRankedGuild_le, aGuild.roster, 1⟩

theorem twoMembers_nodup : ([⟨1, "Ada", 0⟩, ⟨2, "Bob", 1⟩].map Member.lowGuid).Nodup := by decide

/-- The leader and an officer, whom the leader lets see the tab and take five stacks a day. -/
def guildOfTwo : RankedGuild :=
  { aRankedGuild with roster := ⟨[⟨1, "Ada", 0⟩, ⟨2, "Bob", 1⟩], twoMembers_nodup⟩
    }.handleSetRankInfo 1 1 "Officer" grRightAll 100 [⟨0, 3, 5⟩]

/-- A rank in the middle goes, and the two below it move up. -/
theorem keepsRights_middle :
    ∃ g', guildOfTwo.handleRankList (.removeRank 1 2) = some g' ∧
      guildOfTwo.KeepsRights ((RankListRequest.removeRank 1 2).newRankId guildOfTwo) g' := by
  refine (keepsRights_iff guildOfTwo (.removeRank 1 2) (by decide +kernel)).mpr ⟨?_, ?_⟩
  · intro i hi r hr
    have hblank : ∀ r ∈ guildOfTwo.ranks.drop 3, r.isBlank = true := by decide +kernel
    have hge : 3 ≤ i := hi
    refine hblank r (List.mem_of_getElem? (i := i - 3) ?_)
    rw [List.getElem?_drop, Nat.add_sub_cancel' hge]
    exact hr
  · have hranks : ∀ m ∈ guildOfTwo.roster.members, ¬ uint8 2 < m.rankId := by decide +kernel
    exact fun m hm hbelow => absurd hbelow (hranks m hm)

/-- The guild in which the leader lets rank `3` see the tab and take five stacks a day. -/
def guildWithBankRights : RankedGuild :=
  aRankedGuild.handleSetRankInfo 1 3 "Member" 0x43 100 [⟨0, 3, 5⟩]

/-- The rank loses its bank rights and the initiate his rank when rank `2` goes; an exchange also
takes the bank rights away. -/
theorem rights_lost :
    (RankListRequest.removeRank 1 2).accepted guildWithBankRights = true ∧
      (¬ ∃ g', guildWithBankRights.handleRankList (.removeRank 1 2) = some g' ∧
        guildWithBankRights.KeepsRights
          ((RankListRequest.removeRank 1 2).newRankId guildWithBankRights) g') ∧
      (RankListRequest.switchRank 1 3 true).accepted guildWithBankRights = true ∧
      ¬ ∃ g', guildWithBankRights.handleRankList (.switchRank 1 3 true) = some g' ∧
        guildWithBankRights.KeepsRights
          ((RankListRequest.switchRank 1 3 true).newRankId guildWithBankRights) g' := by
  have hlost : ∀ request ∈ [RankListRequest.removeRank 1 2, .switchRank 1 3 true],
      request.accepted guildWithBankRights = true ∧
        request.newRankId guildWithBankRights 3 = some 2 ∧
        (guildWithBankRights.handleRankList request).any
          (fun g' => g'.dataOf 2 == guildWithBankRights.dataOf 3) = false := by decide +kernel
  have hnot : ∀ request ∈ [RankListRequest.removeRank 1 2, .switchRank 1 3 true],
      ¬ ∃ g', guildWithBankRights.handleRankList request = some g' ∧
        guildWithBankRights.KeepsRights (request.newRankId guildWithBankRights) g' := by
    rintro request hrequest ⟨g', hg', hkeep⟩
    obtain ⟨-, hid, hdata⟩ := hlost request hrequest
    rw [hg', Option.any_some, beq_eq_false_iff_ne] at hdata
    exact hdata (hkeep.ranks 3 (by decide) 2 hid)
  exact ⟨by decide, hnot _ (by decide), by decide, hnot _ (by decide)⟩

end RankedGuild

end Cataclysm.Guilds
