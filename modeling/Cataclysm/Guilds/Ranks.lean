import Cataclysm.Guilds.Structure

/-!
# Ranks with their bank rights

A rank holds, besides name and rights, a daily limit of gold and for each bank tab the rights in it
and the slots that may be withdrawn a day. A member refers to his rank by its index.

## Implementation notes

`RankedGuild` is the guild of `Guild.lean` with the bank rights that are left out there; `toGuild`
forgets them again. A vector that is read outside of its bounds gives `none`.
-/

namespace Cataclysm.Guilds

def guildBankMaxTabs : Nat := 8
def tabUndefined : Nat := 0xFF
def guildWithdrawMoneyUnlimited : Nat := 0xFFFFFFFF
def guildWithdrawSlotUnlimited : Nat := 0xFFFFFFFF

def guildBankRightViewTab : Nat := 0x01
def guildBankRightDepositItem : Nat := 0x03
def guildBankRightFull : Nat := 0xFF

/-- `GuildBankRightsAndSlots`. -/
structure TabRights where
  tabId : Nat
  rights : Nat
  slots : Nat
  deriving DecidableEq

namespace TabRights

/-- The rights before any were set. -/
def blank : TabRights := ⟨tabUndefined, 0, 0⟩

/-- The leader may do everything without a limit. -/
def setGuildMasterValues (r : TabRights) : TabRights :=
  { r with rights := guildBankRightFull, slots := guildWithdrawSlotUnlimited }

end TabRights

/-- `RankInfo` with `m_bankTabRightsAndSlots`. -/
structure Rank where
  info : RankInfo
  tabs : List TabRights
  tabs_length : tabs.length = guildBankMaxTabs
  deriving DecidableEq

namespace Rank

/-- The constructor of `RankInfo` leaves the bank rights empty. -/
def new (info : RankInfo) : Rank :=
  ⟨info, List.replicate guildBankMaxTabs TabRights.blank, List.length_replicate⟩

/-- What the rank may do with a tab. -/
def getBankTabRights (r : Rank) (tabId : Nat) : Nat := (r.tabs[tabId]?.getD TabRights.blank).rights

/-- How often the rank may withdraw from a tab. -/
def getBankTabSlotsPerDay (r : Rank) (tabId : Nat) : Nat :=
  (r.tabs[tabId]?.getD TabRights.blank).slots

def setName (r : Rank) (name : String) : Rank := { r with info := { r.info with name := name } }

/-- The leader keeps all rights. -/
def setRights (r : Rank) (rights : Nat) : Rank :=
  { r with info :=
      { r.info with rights := if r.info.id = grGuildmaster then grRightAll else rights } }

/-- The leader has no limit. -/
def setBankMoneyPerDay (r : Rank) (money : Nat) : Rank :=
  { r with
    info := { r.info with
      bankMoneyPerDay :=
        if r.info.id = grGuildmaster then guildWithdrawMoneyUnlimited else money } }

/-- The rights to one tab. -/
def setBankTabSlotsAndRights (r : Rank) (rightsAndSlots : TabRights) : Rank :=
  ⟨r.info, r.tabs.set rightsAndSlots.tabId
    (if r.info.id = grGuildmaster then rightsAndSlots.setGuildMasterValues else rightsAndSlots),
    (List.length_set).trans r.tabs_length⟩

/-- What members of the rank may do: everything but the index of the rank. -/
def data (r : Rank) : String × Nat × Nat × List (Nat × Nat) :=
  (r.info.name, r.info.rights, r.info.bankMoneyPerDay,
    r.tabs.map fun tab => (tab.rights, tab.slots))

/-- No rights and no slots in any tab. -/
def isBlank (r : Rank) : Bool := r.tabs.all fun tab => tab.rights == 0 && tab.slots == 0

/-- The rank under another index, as `_SwitchRank` and `HandleRemoveRank` write it. -/
def renumber (r : Rank) (id : Nat) : Rank := new { r.info with id := id }

theorem data_renumber_iff (r : Rank) (id : Nat) :
    (r.renumber id).data = r.data ↔ r.isBlank = true := by
  have hblank : (r.renumber id).data = (r.info.name, r.info.rights, r.info.bankMoneyPerDay,
      List.replicate guildBankMaxTabs ((0 : Nat), (0 : Nat))) := by
    rw [renumber, new, data, List.map_replicate]
    rfl
  rw [hblank, data, isBlank, List.all_eq_true]
  simp only [Prod.mk.injEq, true_and]
  constructor
  · intro h tab htab
    have hin : (tab.rights, tab.slots) ∈ List.replicate guildBankMaxTabs ((0 : Nat), (0 : Nat)) := by
      rw [h]
      exact List.mem_map_of_mem htab
    have heq := List.eq_of_mem_replicate hin
    simp only [Prod.mk.injEq] at heq
    simp [heq.1, heq.2]
  · intro h
    refine (List.eq_replicate_iff.mpr ⟨?_, ?_⟩).symm
    · rw [List.length_map, r.tabs_length]
    · intro pair hpair
      obtain ⟨tab, htab, rfl⟩ := List.mem_map.mp hpair
      have hzero := h tab htab
      simp only [Bool.and_eq_true, beq_iff_eq] at hzero
      rw [hzero.1, hzero.2]

end Rank

/-- A guild with the bank rights of its ranks; `bankTabs` is the number of tabs that are bought. -/
structure RankedGuild where
  leaderGuid : Nat
  ranks : List Rank
  ranks_le : ranks.length ≤ guildRanksMaxCount
  roster : Roster
  bankTabs : Nat
  deriving DecidableEq

namespace RankedGuild

/-- The guild without its bank rights. -/
def toGuild (g : RankedGuild) : Guild := ⟨g.leaderGuid, g.ranks.map Rank.info, g.roster⟩

def getRank (g : RankedGuild) (rankId : Nat) : Option Rank :=
  if rankId < g.toGuild.getRanksSize then g.ranks[rankId]? else none

theorem getRanksSize_eq (g : RankedGuild) : g.toGuild.getRanksSize = g.ranks.length := by
  have hmax : g.ranks.length ≤ 10 := g.ranks_le
  rw [Guild.getRanksSize, toGuild, List.length_map]
  exact Guild.uint8_of_lt (by omega)

theorem getRank_eq (g : RankedGuild) (rankId : Nat) : g.getRank rankId = g.ranks[rankId]? := by
  rw [getRank, getRanksSize_eq]
  split
  · rfl
  · next hge => exact (List.getElem?_eq_none (Nat.le_of_not_lt hge)).symm

/-! ### Requests of the leader -/

/-- A change of one rank. -/
def modifyRank (g : RankedGuild) (rankId : Nat) (f : Rank → Rank) : RankedGuild :=
  { g with
    ranks := g.ranks.modify rankId f
    ranks_le := (List.length_modify f g.ranks rankId).trans_le g.ranks_le }

def setRankBankTabRightsAndSlots (g : RankedGuild) (rankId : Nat) (rightsAndSlots : TabRights) :
    RankedGuild :=
  if g.bankTabs ≤ rightsAndSlots.tabId then g
  else if (g.getRank rankId).isSome then
    g.modifyRank rankId fun r => r.setBankTabSlotsAndRights rightsAndSlots
  else g

/-- A player sets name, rights and limits of a rank. -/
def handleSetRankInfo (g : RankedGuild) (player rankId : Nat) (name : String) (rights : Nat)
    (moneyPerDay : Nat) (rightsAndSlots : List TabRights) : RankedGuild :=
  if g.toGuild.isLeader player && (g.getRank rankId).isSome then
    rightsAndSlots.foldl (fun g tab => g.setRankBankTabRightsAndSlots rankId tab)
      (g.modifyRank rankId fun r =>
        ((r.setName name).setRights rights).setBankMoneyPerDay moneyPerDay)
  else g

/-- The next rank takes the place of this one. -/
def moveRankDown (ranks : List Rank) (rankId : Nat) : List Rank :=
  match ranks[rankId + 1]? with
  | some next => ranks.set rankId (next.renumber rankId)
  | none => ranks

theorem length_moveRankDown (ranks : List Rank) (rankId : Nat) :
    (moveRankDown ranks rankId).length = ranks.length := by
  rw [moveRankDown]
  split
  · exact List.length_set
  · rfl

theorem length_foldl_moveRankDown (moved : List Nat) (ranks : List Rank) :
    (moved.foldl moveRankDown ranks).length = ranks.length := by
  induction moved generalizing ranks with
  | nil => rfl
  | cons i rest ih =>
    rw [List.foldl_cons, ih, length_moveRankDown]

/-- The ranks that the loop of `HandleRemoveRank` overwrites. -/
def movedRanks (g : RankedGuild) (rankId : Nat) : List Nat :=
  (List.range' rankId (g.toGuild.getRanksSize - 1 - rankId)).takeWhile
    fun i => i + 1 < guildRanksMaxCount

theorem removed_le (g : RankedGuild) (rankId : Nat) :
    (((g.movedRanks rankId).foldl moveRankDown g.ranks).take
      (g.toGuild.getRanksSize - 1)).length ≤ guildRanksMaxCount := by
  rw [List.length_take, length_foldl_moveRankDown]
  exact (min_le_right _ _).trans g.ranks_le

/-- The leader removes a rank. -/
def handleRemoveRank (g : RankedGuild) (player rankId : Nat) : RankedGuild :=
  let rankId := uint8 rankId
  if g.toGuild.removesRank player rankId then
    { g with
      ranks := ((g.movedRanks rankId).foldl moveRankDown g.ranks).take
        (g.toGuild.getRanksSize - 1)
      ranks_le := removed_le g rankId }
  else g

theorem exchanged_le (g : RankedGuild) (rankId newRankId : Nat) (old new : Rank) :
    ((g.ranks.set rankId (new.renumber rankId)).set newRankId
      (old.renumber newRankId)).length ≤ guildRanksMaxCount := by
  rw [List.length_set, List.length_set]
  exact g.ranks_le

/-- `_SwitchRank`; there is no result when a rank outside of the vector is read. -/
def switchRank (g : RankedGuild) (rankId : Nat) (up : Bool) : Option RankedGuild :=
  match g.toGuild.switchedRanks rankId up with
  | none => some g
  | some (rankId, newRankId) =>
    match g.ranks[rankId]?, g.ranks[newRankId]? with
    | some old, some new =>
      some { g with
        ranks := (g.ranks.set rankId (new.renumber rankId)).set newRankId
          (old.renumber newRankId)
        ranks_le := exchanged_le g rankId newRankId old new
        roster := g.roster.rerank fun m =>
          if m.rankId = rankId then newRankId
          else if m.rankId = newRankId then rankId
          else m.rankId }
    | _, _ => none

/-- `HandleGuildSwitchRankOpcode`. -/
def handleSwitchRank (g : RankedGuild) (player rankId : Nat) (up : Bool) : Option RankedGuild :=
  if player = g.leaderGuid then g.switchRank (uint8 rankId) up else some g

/-! ### The guild without bank rights -/

theorem info_moveRankDown (ranks : List Rank) (rankId : Nat) :
    (moveRankDown ranks rankId).map Rank.info =
      Guild.moveRankDown (ranks.map Rank.info) rankId := by
  rw [moveRankDown, Guild.moveRankDown, List.getElem?_map]
  cases ranks[rankId + 1]? with
  | none => rfl
  | some next => exact List.map_set

theorem info_foldl_moveRankDown (moved : List Nat) (ranks : List Rank) :
    (moved.foldl moveRankDown ranks).map Rank.info =
      moved.foldl Guild.moveRankDown (ranks.map Rank.info) := by
  induction moved generalizing ranks with
  | nil => rfl
  | cons i rest ih => rw [List.foldl_cons, List.foldl_cons, ih, info_moveRankDown]

/-- The removal of a rank is that of the guild without bank rights. -/
theorem toGuild_handleRemoveRank (g : RankedGuild) (player rankId : Nat) :
    (g.handleRemoveRank player rankId).toGuild = g.toGuild.handleRemoveRank player rankId := by
  rw [handleRemoveRank, Guild.handleRemoveRank]
  dsimp only
  split
  · rw [toGuild, List.map_take, info_foldl_moveRankDown]
    rfl
  · rfl

/-- An exchange of ranks that has a result is that of the guild without bank rights. -/
theorem toGuild_handleSwitchRank {g g' : RankedGuild} {player rankId : Nat} {up : Bool}
    (h : g.handleSwitchRank player rankId up = some g') :
    g'.toGuild = g.toGuild.handleSwitchRank player rankId up := by
  have hleader : g.toGuild.leaderGuid = g.leaderGuid := rfl
  rw [handleSwitchRank] at h
  rw [Guild.handleSwitchRank, hleader]
  split at h
  · next hplayer =>
      rw [if_pos hplayer, Guild.switchRank]
      rw [switchRank] at h
      cases hswitch : g.toGuild.switchedRanks (uint8 rankId) up with
      | none =>
        rw [hswitch] at h
        exact congrArg toGuild (Option.some.inj h).symm
      | some pair =>
        obtain ⟨old, new⟩ := pair
        rw [hswitch] at h
        dsimp only at h ⊢
        have hranks : g.toGuild.ranks = g.ranks.map Rank.info := rfl
        rw [Guild.exchangeRanks, hranks, List.getElem?_map, List.getElem?_map]
        cases hold : g.ranks[old]? with
        | none =>
          rw [hold] at h
          cases h
        | some oldRank =>
          cases hnew : g.ranks[new]? with
          | none =>
            rw [hold, hnew] at h
            cases h
          | some newRank =>
            rw [hold, hnew] at h
            rw [← Option.some.inj h, toGuild, List.map_set, List.map_set]
            rfl
  · next hplayer =>
      rw [if_neg hplayer]
      exact congrArg toGuild (Option.some.inj h).symm

end RankedGuild

end Cataclysm.Guilds
