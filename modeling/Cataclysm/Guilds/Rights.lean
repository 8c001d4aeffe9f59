import Cataclysm.Guilds.Ranks
import Cataclysm.Players.Money

/-!
# What the checks of rights test

A right is a bit of the rights word of a rank. Most of the constants carry besides their own bit the
bit `0x40`, and all checks compare the masked word with `0x40`. They mean what they say only for a
word that has this bit and a constant that carries it, or where the bit of the right is set.

## Implementation notes

A bit is given by its index. The withdrawn values of a member are a function of the tab; index `8`
is the money.
-/

namespace Cataclysm.Guilds

/-- `GuildRankRights` without the empty and the full word. -/
inductive GuildRight
  | gchatlisten
  | gchatspeak
  | offchatlisten
  | offchatspeak
  | invite
  | remove
  | promote
  | demote
  | setmotd
  | epnote
  | viewoffnote
  | eoffnote
  | modifyGuildInfo
  | withdrawGoldLock
  | withdrawRepair
  | withdrawGold
  | createGuildEvent
  deriving DecidableEq

namespace GuildRight

/-- The constant of the source. -/
def value : GuildRight → Nat
  | gchatlisten => 0x41
  | gchatspeak => 0x42
  | offchatlisten => 0x44
  | offchatspeak => 0x48
  | invite => 0x50
  | remove => 0x60
  | promote => 0xC0
  | demote => 0x140
  | setmotd => 0x1040
  | epnote => 0x2040
  | viewoffnote => 0x4040
  | eoffnote => 0x8040
  | modifyGuildInfo => 0x10040
  | withdrawGoldLock => 0x20000
  | withdrawRepair => 0x40000
  | withdrawGold => 0x80000
  | createGuildEvent => 0x100000

/-- The index of the functional bit. -/
def bit : GuildRight → Nat
  | gchatlisten => 0
  | gchatspeak => 1
  | offchatlisten => 2
  | offchatspeak => 3
  | invite => 4
  | remove => 5
  | promote => 7
  | demote => 8
  | setmotd => 12
  | epnote => 13
  | viewoffnote => 14
  | eoffnote => 15
  | modifyGuildInfo => 16
  | withdrawGoldLock => 17
  | withdrawRepair => 18
  | withdrawGold => 19
  | createGuildEvent => 20

/-- The constant carries the bit of the empty word. -/
def carriesEmpty : GuildRight → Bool
  | withdrawGoldLock => false
  | withdrawRepair => false
  | withdrawGold => false
  | createGuildEvent => false
  | _ => true

theorem value_eq (right : GuildRight) :
    right.value = (if right.carriesEmpty then 2 ^ 6 else 0) ||| 2 ^ right.bit := by
  cases right <;> decide

theorem bit_ne (right : GuildRight) : right.bit ≠ 6 := by
  cases right <;> decide

end GuildRight

namespace RankedGuild

def getRankRights (g : RankedGuild) (rankId : Nat) : Nat := g.toGuild.getRankRights rankId

def hasRankRight (g : RankedGuild) (player right : Nat) : Bool := g.toGuild.hasRankRight player right

def getRankBankTabRights (g : RankedGuild) (rankId tabId : Nat) : Nat :=
  match g.getRank rankId with
  | some rankInfo => rankInfo.getBankTabRights tabId
  | none => 0

/-- Gold times `10000`, in 32 bits. -/
def getRankBankMoneyPerDay (g : RankedGuild) (rankId : Nat) : Int :=
  match g.getRank rankId with
  | some rankInfo => int32 (rankInfo.info.bankMoneyPerDay * 10000 : Nat)
  | none => 0

def getRankBankTabSlotsPerDay (g : RankedGuild) (rankId tabId : Nat) : Int :=
  if tabId < g.bankTabs then
    match g.getRank rankId with
    | some rankInfo => int32 (rankInfo.getBankTabSlotsPerDay tabId)
    | none => 0
  else 0

end RankedGuild

/-- `Member::GetBankWithdrawValue` of the values that are kept for the member. -/
def getBankWithdrawValue (member : Member) (bankWithdraw : Nat → Int) (tabId : Nat) : Int :=
  if member.isRank grGuildmaster then
    int32 (if tabId = guildBankMaxTabs then guildWithdrawMoneyUnlimited
      else guildWithdrawSlotUnlimited)
  else bankWithdraw tabId

namespace RankedGuild

def getMemberRemainingSlots (g : RankedGuild) (member : Member) (bankWithdraw : Nat → Int)
    (tabId : Nat) : Int :=
  if member.rankId = grGuildmaster then int32 guildWithdrawSlotUnlimited
  else if g.getRankBankTabRights member.rankId tabId &&& guildBankRightViewTab ≠ grRightEmpty then
    let remaining := int32 (g.getRankBankTabSlotsPerDay member.rankId tabId -
      getBankWithdrawValue member bankWithdraw tabId)
    if 0 < remaining then remaining else 0
  else 0

def getMemberRemainingMoney (g : RankedGuild) (member : Member) (bankWithdraw : Nat → Int) : Int :=
  if member.rankId = grGuildmaster then int32 guildWithdrawMoneyUnlimited
  else if g.getRankRights member.rankId &&&
      (GuildRight.withdrawRepair.value ||| GuildRight.withdrawGold.value) ≠ grRightEmpty then
    let remaining := int32 (g.getRankBankMoneyPerDay member.rankId -
      getBankWithdrawValue member bankWithdraw guildBankMaxTabs)
    if 0 < remaining then remaining else 0
  else 0

def memberHasTabRights (g : RankedGuild) (guid tabId rights : Nat) : Bool :=
  match g.toGuild.getMember guid with
  | some member =>
    member.isRank grGuildmaster || g.leaderGuid == guid ||
      g.getRankBankTabRights member.rankId tabId &&& rights == rights
  | none => false

end RankedGuild

/-! ### The masked word -/

theorem and_two_pow_ne_empty (n : Nat) {i : Nat} (hi : i ≠ 6) : n &&& 2 ^ i ≠ grRightEmpty := by
  intro heq
  have hsix : (n &&& 2 ^ i).testBit 6 = true := by
    rw [heq]
    decide
  rw [Nat.testBit_and, Nat.testBit_two_pow, Bool.and_eq_true, decide_eq_true_eq] at hsix
  exact hi hsix.2

/-- A masked word is the empty word when it has the bit of the empty word and not that of the
right. -/
theorem and_eq_empty_iff (n : Nat) {i : Nat} (hi : i ≠ 6) :
    n &&& (2 ^ 6 ||| 2 ^ i) = grRightEmpty ↔ n.testBit 6 = true ∧ n.testBit i = false := by
  constructor
  · intro heq
    have hbits : ∀ j, (n.testBit j && (decide (6 = j) || decide (i = j))) = decide (6 = j) := by
      intro j
      have hj := congrArg (fun m => m.testBit j) heq
      have hempty : grRightEmpty = 2 ^ 6 := by decide
      rwa [hempty, Nat.testBit_and, Nat.testBit_or, Nat.testBit_two_pow,
        Nat.testBit_two_pow] at hj
    constructor
    · simpa using hbits 6
    · simpa [hi.symm] using hbits i
  · rintro ⟨hsix, hbit⟩
    have hempty : grRightEmpty = 2 ^ 6 := by decide
    rw [hempty]
    refine Nat.eq_of_testBit_eq ?_
    intro j
    rw [Nat.testBit_and, Nat.testBit_or, Nat.testBit_two_pow, Nat.testBit_two_pow]
    by_cases hj : 6 = j
    · subst hj
      simp [hsix]
    · by_cases hij : i = j
      · subst hij
        simp [hbit, hj]
      · simp [hj, hij]

/-- The test of a right, for any word. -/
theorem and_value_ne_empty_iff (n : Nat) (right : GuildRight) :
    (n &&& right.value) ≠ grRightEmpty ↔
      n.testBit right.bit = true ∨ right.carriesEmpty = false ∨ n.testBit 6 = false := by
  rw [right.value_eq]
  cases hcarries : right.carriesEmpty with
  | false =>
    simp only [Bool.false_eq_true, ↓reduceIte, Nat.zero_or]
    exact iff_of_true (and_two_pow_ne_empty n right.bit_ne) (Or.inr (Or.inl trivial))
  | true =>
    simp only [↓reduceIte, ne_eq, and_eq_empty_iff n right.bit_ne]
    cases n.testBit 6 <;> cases n.testBit right.bit <;> simp

theorem and_withdraw_ne_empty (n : Nat) :
    (n &&& (GuildRight.withdrawRepair.value ||| GuildRight.withdrawGold.value)) ≠ grRightEmpty := by
  intro heq
  have hsix := congrArg (fun m => m.testBit 6) heq
  rw [Nat.testBit_and] at hsix
  have hmask : (GuildRight.withdrawRepair.value ||| GuildRight.withdrawGold.value).testBit 6 =
      false := by decide
  have hempty : grRightEmpty.testBit 6 = true := by decide
  rw [hmask, hempty, Bool.and_false] at hsix
  cases hsix

theorem and_viewTab_ne_empty (n : Nat) : n &&& guildBankRightViewTab ≠ grRightEmpty := by
  have hview : guildBankRightViewTab = 2 ^ 0 := by decide
  rw [hview]
  exact and_two_pow_ne_empty n (by decide)

namespace RankedGuild

variable (g : RankedGuild) (player : Nat) (member : Member) (bankWithdraw : Nat → Int)

/-- The rights word of the member's rank has the functional bit of the right. -/
def containsRight (right : GuildRight) : Bool := (g.getRankRights member.rankId).testBit right.bit

/-- The rights of the member's rank in a tab have the bit to view it. -/
def mayViewTab (tabId : Nat) : Bool := (g.getRankBankTabRights member.rankId tabId).testBit 0

/-- All checks of the member's rights mean what they say. -/
structure ChecksMeanWhatTheySay : Prop where
  ranks : ∀ right : GuildRight, g.hasRankRight player right.value = g.containsRight member right
  money : member.rankId ≠ grGuildmaster → g.containsRight member .withdrawRepair = false →
    g.containsRight member .withdrawGold = false →
    g.getMemberRemainingMoney member bankWithdraw = 0
  slots : member.rankId ≠ grGuildmaster → ∀ tabId, g.mayViewTab member tabId = false →
    g.getMemberRemainingSlots member bankWithdraw tabId = 0

/-- A right that is not contained has the bit of the empty word, in its constant and in the word,
and nothing is left where a right to it is missing. -/
structure RightsMarked : Prop where
  ranks : ∀ right : GuildRight, g.containsRight member right = false →
    right.carriesEmpty = true ∧ (g.getRankRights member.rankId).testBit 6 = true
  money : member.rankId ≠ grGuildmaster → g.containsRight member .withdrawRepair = false →
    g.containsRight member .withdrawGold = false →
    int32 (g.getRankBankMoneyPerDay member.rankId - bankWithdraw guildBankMaxTabs) ≤ 0
  slots : member.rankId ≠ grGuildmaster → ∀ tabId, g.mayViewTab member tabId = false →
    int32 (g.getRankBankTabSlotsPerDay member.rankId tabId - bankWithdraw tabId) ≤ 0

variable {g player member bankWithdraw}

theorem hasRankRight_eq (h : g.toGuild.getMember player = some member) (right : GuildRight) :
    g.hasRankRight player right.value = true ↔
      g.containsRight member right = true ∨ right.carriesEmpty = false ∨
        (g.getRankRights member.rankId).testBit 6 = false := by
  rw [hasRankRight, Guild.hasRankRight, h]
  dsimp only
  rw [bne_iff_ne, and_value_ne_empty_iff]
  rfl

theorem getBankWithdrawValue_of_ne (h : member.rankId ≠ grGuildmaster) (tabId : Nat) :
    getBankWithdrawValue member bankWithdraw tabId = bankWithdraw tabId := by
  have hnot : member.isRank grGuildmaster = false := beq_eq_false_iff_ne.mpr h
  rw [getBankWithdrawValue, hnot]
  rfl

theorem getMemberRemainingMoney_eq_zero (h : member.rankId ≠ grGuildmaster) :
    g.getMemberRemainingMoney member bankWithdraw = 0 ↔
      int32 (g.getRankBankMoneyPerDay member.rankId - bankWithdraw guildBankMaxTabs) ≤ 0 := by
  rw [getMemberRemainingMoney, if_neg h, if_pos (and_withdraw_ne_empty _)]
  dsimp only
  rw [getBankWithdrawValue_of_ne h]
  split
  · next hpos =>
      constructor
      · intro hzero
        omega
      · intro hle
        omega
  · next hle => exact iff_of_true rfl (Int.not_lt.mp hle)

theorem getMemberRemainingSlots_eq_zero (h : member.rankId ≠ grGuildmaster) (tabId : Nat) :
    g.getMemberRemainingSlots member bankWithdraw tabId = 0 ↔
      int32 (g.getRankBankTabSlotsPerDay member.rankId tabId - bankWithdraw tabId) ≤ 0 := by
  rw [getMemberRemainingSlots, if_neg h, if_pos (and_viewTab_ne_empty _)]
  dsimp only
  rw [getBankWithdrawValue_of_ne h]
  split
  · next hpos =>
      constructor
      · intro hzero
        omega
      · intro hle
        omega
  · next hle => exact iff_of_true rfl (Int.not_lt.mp hle)

/-- The checks of a member's rights mean what they say exactly when the rights are marked. -/
theorem checksMeanWhatTheySay_iff (g : RankedGuild) (player : Nat) (member : Member)
    (bankWithdraw : Nat → Int) (h : g.toGuild.getMember player = some member) :
    g.ChecksMeanWhatTheySay player member bankWithdraw ↔ g.RightsMarked member bankWithdraw := by
  constructor
  · intro hchecks
    constructor
    · intro right hnot
      have hfalse : g.hasRankRight player right.value ≠ true := by
        rw [hchecks.ranks right, hnot]
        exact Bool.false_ne_true
      rw [Ne, hasRankRight_eq h right, not_or, not_or] at hfalse
      exact ⟨Bool.eq_true_of_not_eq_false hfalse.2.1, Bool.eq_true_of_not_eq_false hfalse.2.2⟩
    · intro hmaster hrepair hgold
      exact (getMemberRemainingMoney_eq_zero hmaster).mp (hchecks.money hmaster hrepair hgold)
    · intro hmaster tabId hview
      exact (getMemberRemainingSlots_eq_zero hmaster tabId).mp (hchecks.slots hmaster tabId hview)
  · intro hmarked
    constructor
    · intro right
      rw [Bool.eq_iff_iff, hasRankRight_eq h right]
      constructor
      · intro hor
        by_contra hnot
        obtain ⟨hcarries, hsix⟩ := hmarked.ranks right (Bool.eq_false_iff.mpr hnot)
        rw [hcarries, hsix] at hor
        simp [hnot] at hor
      · exact Or.inl
    · intro hmaster hrepair hgold
      exact (getMemberRemainingMoney_eq_zero hmaster).mpr (hmarked.money hmaster hrepair hgold)
    · intro hmaster tabId hview
      exact (getMemberRemainingSlots_eq_zero hmaster tabId).mpr (hmarked.slots hmaster tabId hview)

theorem aRankedGuild_length :
    (aGuild.ranks.map Rank.new).length ≤ guildRanksMaxCount := by decide

/-- The three members and five ranks, with one bank tab, after the leader has set the rights, the
daily gold and the tab rights of the initiates. -/
def guildWithInitiates (rights moneyPerDay : Nat) (tab : TabRights) : RankedGuild :=
  (⟨1, aGuild.ranks.map Rank.new, aRankedGuild_length, aGuild.roster, 1⟩ :
    RankedGuild).handleSetRankInfo 1 4 "Initiate" rights moneyPerDay [tab]

/-- The rights of the initiates have the bit of the empty word and all bits whose constants do not
carry it. -/
theorem checksMeanWhatTheySay_initiate :
    (guildWithInitiates 0x1E0043 100 ⟨0, 0, 0⟩).ChecksMeanWhatTheySay 3 ⟨3, "Cyd", 4⟩
      (fun _ => 0) := by
  refine (checksMeanWhatTheySay_iff _ 3 ⟨3, "Cyd", 4⟩ (fun _ => 0) (by decide +kernel)).mpr ?_
  constructor
  · intro right _
    refine ⟨?_, by decide +kernel⟩
    cases right <;> first | rfl | (rename_i hnot; exact absurd hnot (by decide +kernel))
  · intro _ hrepair _
    exact absurd hrepair (by decide +kernel)
  · intro _ tabId _
    by_cases htab : tabId = 0
    · subst htab
      decide +kernel
    · have hbought : ¬ tabId < (guildWithInitiates 0x1E0043 100 ⟨0, 0, 0⟩).bankTabs := by
        have hone : (guildWithInitiates 0x1E0043 100 ⟨0, 0, 0⟩).bankTabs = 1 := by decide +kernel
        omega
      rw [getRankBankTabSlotsPerDay, if_neg hbought]
      decide

/-- Initiates with two rights of chat only may invite, withdraw gold and take items. -/
theorem initiate_may_everything :
    let g := guildWithInitiates 0x3 100 ⟨0, 0, 5⟩
    g.toGuild.getMember 3 = some ⟨3, "Cyd", 4⟩ ∧
      g.containsRight ⟨3, "Cyd", 4⟩ .invite = false ∧
      g.hasRankRight 3 GuildRight.invite.value = true ∧
      g.containsRight ⟨3, "Cyd", 4⟩ .withdrawRepair = false ∧
      g.containsRight ⟨3, "Cyd", 4⟩ .withdrawGold = false ∧
      g.getMemberRemainingMoney ⟨3, "Cyd", 4⟩ (fun _ => 0) = 1000000 ∧
      g.mayViewTab ⟨3, "Cyd", 4⟩ 0 = false ∧
      g.getMemberRemainingSlots ⟨3, "Cyd", 4⟩ (fun _ => 0) 0 = 5 ∧
      ¬ g.ChecksMeanWhatTheySay 3 ⟨3, "Cyd", 4⟩ (fun _ => 0) := by
  refine ⟨by decide +kernel, by decide +kernel, by decide +kernel, by decide +kernel,
    by decide +kernel, by decide +kernel, by decide +kernel, by decide +kernel, ?_⟩
  intro h
  exact absurd (h.ranks .invite) (by decide +kernel)

end RankedGuild

end Cataclysm.Guilds
