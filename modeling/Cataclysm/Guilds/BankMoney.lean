import Cataclysm.Guilds.Rights
import Cataclysm.Lib.OrderedMap

/-!
# The money of a guild bank

Members put money from their purses into the bank, take it out, pay repairs with it, and once a day
the withdrawn amounts of all members start again at zero. Amounts are a `uint64` in the requests and
in the bank, an `int64` for the purse, and the withdrawn counter is an `int32`.

## Implementation notes

The ranks and the members of the guild stay as they are. A request comes here when the player can
reach the bank and has this guild; a repair comes with its costs, a `uint32`. Logs, broadcasts and
transactions are left out.
-/

namespace Cataclysm.Guilds

/-- The bank, the purses by guid, and the withdrawn values by the key of a member and the tab. -/
structure GuildBank where
  bankMoney : Nat
  purses : OrderedMap Nat Nat
  bankWithdraw : Nat → Nat → Int

/-- What changes the money of the bank or what is left of a member's day. -/
inductive BankRequest
  | deposit (player money : Nat)
  | withdraw (player money : Nat)
  | repair (player costs : Nat)
  | resetTimes
  deriving DecidableEq

/-- `_ModifyBankMoney`: the money of the bank after it, and its answer. -/
def modifyBankMoney (bankMoney amount : Nat) (add : Bool) : Nat × Bool :=
  if add then (uint64 (bankMoney + amount : Nat), true)
  else if bankMoney < amount then (bankMoney, false)
  else (bankMoney - amount, true)

/-- `UpdateBankWithdrawValue` of one member and tab. -/
def updateBankWithdrawValue (bankWithdraw : Nat → Nat → Int) (key tabId amount : Nat) :
    Nat → Nat → Int :=
  fun key' tabId' =>
    if key' = key ∧ tabId' = tabId then int32 (bankWithdraw key tabId + uint32 amount)
    else bankWithdraw key' tabId'

namespace GuildBank

/-- `ModifyMoney` on the purse of a player. -/
def modifyPurse (s : GuildBank) (player : Nat) (amount : Int) : GuildBank × Bool :=
  match s.purses.find? player with
  | none => (s, false)
  | some purse =>
    ({ s with purses := s.purses.insert player (modifyMoney purse amount).1 },
      (modifyMoney purse amount).2)

def handleMemberDepositMoney (s : GuildBank) (player amount : Nat) (cashFlow : Bool) : GuildBank :=
  let s := { s with bankMoney := (modifyBankMoney s.bankMoney amount true).1 }
  if cashFlow then s else (s.modifyPurse player (int64 (-int64 amount))).1

/-- The counter of the member goes up and the money leaves the bank. -/
def bookWithdrawal (s : GuildBank) (key amount : Nat) : GuildBank :=
  { s with
    bankMoney := (modifyBankMoney s.bankMoney amount false).1
    bankWithdraw := updateBankWithdrawValue s.bankWithdraw key guildBankMaxTabs amount }

/-- The purse is only changed when the money is not for a repair. -/
def handleMemberWithdrawMoney (g : RankedGuild) (s : GuildBank) (player amount : Nat)
    (repair : Bool) : GuildBank × Bool :=
  if s.bankMoney < amount then (s, false)
  else match g.toGuild.getMember player with
    | none => (s, false)
    | some member =>
      if uint64 (g.getMemberRemainingMoney member (s.bankWithdraw member.lowGuid)) < amount then
        (s, false)
      else
        let (s, booked) := if repair then (s, true) else s.modifyPurse player (int64 amount)
        if booked = false then (s, false)
        else (s.bookWithdrawal member.lowGuid amount, true)

/-- `ResetValues` for every member. -/
def resetTimes (g : RankedGuild) (s : GuildBank) : GuildBank :=
  { s with
    bankWithdraw := fun key tabId =>
      if (g.roster.find? key).isSome then 0 else s.bankWithdraw key tabId }

/-- What the handlers of the opcodes, the repair and the daily reset do with a request. -/
def answer (g : RankedGuild) (s : GuildBank) : BankRequest → GuildBank × Bool
  | .deposit player money =>
    match s.purses.find? player with
    | none => (s, false)
    | some purse =>
      if money ≠ 0 ∧ hasEnoughMoney purse money = true then
        (s.handleMemberDepositMoney player money false, true)
      else (s, false)
  | .withdraw player money =>
    if money ≠ 0 then s.handleMemberWithdrawMoney g player money false else (s, false)
  | .repair player costs => s.handleMemberWithdrawMoney g player (uint32 costs) true
  | .resetTimes => (s.resetTimes g, true)

def step (g : RankedGuild) (s : GuildBank) (request : BankRequest) : GuildBank :=
  (s.answer g request).1

/-- All money of the players and the bank. -/
def money (s : GuildBank) : Nat := s.bankMoney + s.purses.sumValues id

/-- What a request puts into the bank. -/
def given (g : RankedGuild) (s : GuildBank) : BankRequest → Nat
  | .deposit player money => if (s.answer g (.deposit player money)).2 then money else 0
  | .withdraw _ _ => 0
  | .repair _ _ => 0
  | .resetTimes => 0

/-- What a request takes out of the bank. -/
def taken (g : RankedGuild) (s : GuildBank) : BankRequest → Nat
  | .deposit _ _ => 0
  | .withdraw player money => if (s.answer g (.withdraw player money)).2 then money else 0
  | .repair player costs => if (s.answer g (.repair player costs)).2 then uint32 costs else 0
  | .resetTimes => 0

/-- What a request spends on repairs. -/
def spent (g : RankedGuild) (s : GuildBank) : BankRequest → Nat
  | .deposit _ _ => 0
  | .withdraw _ _ => 0
  | .repair player costs => if (s.answer g (.repair player costs)).2 then uint32 costs else 0
  | .resetTimes => 0

/-- What the requests of one member take out of the bank. -/
def takenBy (g : RankedGuild) (key : Nat) (s : GuildBank) : BankRequest → Nat
  | .deposit _ _ => 0
  | .withdraw player money => if lowPart player = key then s.taken g (.withdraw player money) else 0
  | .repair player costs => if lowPart player = key then s.taken g (.repair player costs) else 0
  | .resetTimes => 0

variable {g : RankedGuild} {s : GuildBank}

/-! ### What a request does -/

variable {player amount : Nat}

/-- A withdrawal that was booked. -/
structure Withdrawal (g : RankedGuild) (s : GuildBank) (player amount : Nat) (member : Member) :
    Prop where
  isMember : g.toGuild.getMember player = some member
  inBank : amount ≤ s.bankMoney
  remaining : amount ≤ uint64 (g.getMemberRemainingMoney member (s.bankWithdraw member.lowGuid))

theorem modifyPurse_refused {amount : Int} (h : (s.modifyPurse player amount).2 = false) :
    (s.modifyPurse player amount).1 = s := by
  rw [modifyPurse] at h ⊢
  cases hpurse : s.purses.find? player with
  | none => rfl
  | some purse =>
    rw [hpurse] at h
    dsimp only at h ⊢
    rw [modifyMoney_refused h, OrderedMap.insert_of_find? hpurse]

theorem modifyPurse_booked {amount : Int} (h : (s.modifyPurse player amount).2 = true) :
    ∃ purse, s.purses.find? player = some purse ∧ (modifyMoney purse amount).2 = true := by
  rw [modifyPurse] at h
  cases hpurse : s.purses.find? player with
  | none =>
    rw [hpurse] at h
    cases h
  | some purse =>
    rw [hpurse] at h
    dsimp only at h
    exact ⟨purse, rfl, h⟩

theorem bookWithdrawal_eq (h : amount ≤ s.bankMoney) (key : Nat) :
    s.bookWithdrawal key amount =
      ⟨s.bankMoney - amount, s.purses,
        updateBankWithdrawValue s.bankWithdraw key guildBankMaxTabs amount⟩ := by
  rw [bookWithdrawal, modifyBankMoney, if_neg Bool.false_ne_true, if_neg (Nat.not_lt.mpr h)]

/-- A withdrawal is refused and changes nothing, or it is booked. -/
theorem handleMemberWithdrawMoney_cases (g : RankedGuild) (s : GuildBank) (player amount : Nat)
    (repair : Bool) :
    s.handleMemberWithdrawMoney g player amount repair = (s, false) ∨
      ∃ member, Withdrawal g s player amount member ∧
        (repair = true ∧ s.handleMemberWithdrawMoney g player amount repair =
            (s.bookWithdrawal member.lowGuid amount, true) ∨
          repair = false ∧ ∃ purse, s.purses.find? player = some purse ∧
            (modifyMoney purse (int64 amount)).2 = true ∧
            s.handleMemberWithdrawMoney g player amount repair =
              ((s.modifyPurse player (int64 amount)).1.bookWithdrawal member.lowGuid amount,
                true)) := by
  rw [handleMemberWithdrawMoney]
  by_cases hbank : s.bankMoney < amount
  · rw [if_pos hbank]
    exact Or.inl rfl
  · rw [if_neg hbank]
    cases hmember : g.toGuild.getMember player with
    | none => exact Or.inl rfl
    | some member =>
      dsimp only
      by_cases hfew :
          uint64 (g.getMemberRemainingMoney member (s.bankWithdraw member.lowGuid)) < amount
      · rw [if_pos hfew]
        exact Or.inl rfl
      · rw [if_neg hfew]
        have hwithdrawal : Withdrawal g s player amount member :=
          ⟨hmember, Nat.le_of_not_lt hbank, Nat.le_of_not_lt hfew⟩
        cases repair with
        | true => exact Or.inr ⟨member, hwithdrawal, Or.inl ⟨rfl, rfl⟩⟩
        | false =>
          rw [if_neg Bool.false_ne_true]
          have hrefused : (s.modifyPurse player (int64 amount)).2 = false →
              (s.modifyPurse player (int64 amount)).1 = s := modifyPurse_refused
          have hbooked : (s.modifyPurse player (int64 amount)).2 = true →
              ∃ purse, s.purses.find? player = some purse ∧
                (modifyMoney purse (int64 amount)).2 = true := modifyPurse_booked
          generalize s.modifyPurse player (int64 amount) = pair at hrefused hbooked ⊢
          obtain ⟨s', booked⟩ := pair
          cases booked with
          | false =>
            rw [← hrefused rfl]
            exact Or.inl rfl
          | true =>
            obtain ⟨purse, hpurse, hgain⟩ := hbooked rfl
            exact Or.inr ⟨member, hwithdrawal, Or.inr ⟨rfl, purse, hpurse, hgain, rfl⟩⟩

/-! ### Conservation -/

variable {member : Member} {request : BankRequest}

/-- The bank and the purses are `uint64`. -/
structure Bounded (s : GuildBank) : Prop where
  bank : s.bankMoney < 2 ^ 64
  purses : ∀ {player purse}, s.purses.find? player = some purse → purse < 2 ^ 64

/-- The bank and the member have this much left. -/
def mayWithdraw (g : RankedGuild) (s : GuildBank) (player amount : Nat) : Bool :=
  amount ≤ s.bankMoney &&
    match g.toGuild.getMember player with
    | none => false
    | some member =>
      amount ≤ uint64 (g.getMemberRemainingMoney member (s.bankWithdraw member.lowGuid))

/-- A deposit that the player can pay fits into the bank and negates in 64 bits. A withdrawal that
the bank and the member allow is not negative in 64 bits and fits into the purse, or is so large
that `ModifyMoney` refuses it. -/
def NoWrap (g : RankedGuild) (s : GuildBank) : BankRequest → Prop
  | .deposit player money =>
    ∀ purse ∈ s.purses.find? player, money ≤ purse →
      money ≤ 2 ^ 63 ∧ s.bankMoney + money < 2 ^ 64
  | .withdraw player money =>
    s.mayWithdraw g player money = true → ∀ purse ∈ s.purses.find? player,
      money < 2 ^ 63 ∧ (purse + money < 2 ^ 64 ∨ 2 ^ 64 + maxMoneyAmount ≤ purse + money)
  | _ => True

theorem Withdrawal.mayWithdraw (h : Withdrawal g s player amount member) :
    s.mayWithdraw g player amount = true := by
  rw [GuildBank.mayWithdraw, h.isMember, Bool.and_eq_true, decide_eq_true_eq]
  exact ⟨h.inBank, decide_eq_true h.remaining⟩

/-- What a request does to the bank, to all money and to the bounds. -/
structure Balanced (g : RankedGuild) (s : GuildBank) (request : BankRequest) : Prop where
  bounded : (s.step g request).Bounded
  bank : (s.step g request).bankMoney + s.taken g request = s.bankMoney + s.given g request
  money : (s.step g request).money + s.spent g request = s.money

theorem Bounded.insert (h : s.Bounded) {bankMoney purse : Nat} (hbank : bankMoney < 2 ^ 64)
    (hpurse : purse < 2 ^ 64) (bankWithdraw : Nat → Nat → Int) :
    Bounded ⟨bankMoney, s.purses.insert player purse, bankWithdraw⟩ where
  bank := hbank
  purses := by
    intro other money hother
    rw [OrderedMap.find?_insert] at hother
    split at hother
    · cases hother
      exact hpurse
    · exact h.purses hother

/-- One purse changes. -/
theorem sumValues_insert_purse {purse : Nat} (hpurse : s.purses.find? player = some purse)
    (money : Nat) :
    (s.purses.insert player money).sumValues id + purse = s.purses.sumValues id + money := by
  have hsum := s.purses.sumValues_insert player money id
  rw [hpurse] at hsum
  exact hsum

theorem int64_neg_int64 (h : amount ≤ 2 ^ 63) : int64 (-int64 amount) = -(amount : Int) := by
  by_cases htop : amount = 2 ^ 63
  · rw [htop]
    decide
  · rw [int64_of_lt (by omega), int64, Int.bmod_eq_of_le (by omega) (by omega)]

/-- A refused request changes nothing. -/
theorem balanced_refused (h : s.Bounded) (hrefused : s.answer g request = (s, false)) :
    s.Balanced g request := by
  have hstep : s.step g request = s := by rw [step, hrefused]
  cases request with
  | deposit player money =>
    constructor
    · rw [hstep]
      exact h
    · rw [hstep, taken, given, hrefused]
      rfl
    · rw [hstep, spent, Nat.add_zero]
  | withdraw player money =>
    constructor
    · rw [hstep]
      exact h
    · rw [hstep, taken, given, hrefused]
      rfl
    · rw [hstep, spent, Nat.add_zero]
  | repair player costs =>
    constructor
    · rw [hstep]
      exact h
    · rw [hstep, taken, given, hrefused]
      rfl
    · rw [hstep, spent, hrefused]
      rfl
  | resetTimes =>
    constructor
    · rw [hstep]
      exact h
    · rw [hstep, taken, given]
    · rw [hstep, spent, Nat.add_zero]

theorem balanced_deposit (h : s.Bounded) {money : Nat}
    (hwrap : s.NoWrap g (.deposit player money)) : s.Balanced g (.deposit player money) := by
  cases hpurse : s.purses.find? player with
  | none => exact balanced_refused h (by rw [answer, hpurse])
  | some purse =>
    by_cases hpays : money ≠ 0 ∧ hasEnoughMoney purse money = true
    · have hle : money ≤ purse := of_decide_eq_true hpays.2
      obtain ⟨hhalf, hfits⟩ := hwrap purse hpurse hle
      have hlt := h.purses hpurse
      have hbooked : s.answer g (.deposit player money) =
          (⟨s.bankMoney + money, s.purses.insert player (purse - money), s.bankWithdraw⟩,
            true) := by
        rw [answer, hpurse]
        dsimp only
        rw [if_pos hpays, handleMemberDepositMoney, if_neg Bool.false_ne_true, modifyPurse, hpurse]
        dsimp only
        rw [int64_neg_int64 hhalf, modifyMoney_neg hlt hle, modifyBankMoney, if_pos rfl,
          uint64_of_lt hfits]
      have hsum := sumValues_insert_purse hpurse (purse - money)
      constructor
      · rw [step, hbooked]
        exact h.insert hfits (by omega) _
      · rw [step, given, taken, hbooked]
        rfl
      · rw [step, spent, hbooked, GuildBank.money, GuildBank.money]
        dsimp only
        omega
    · refine balanced_refused h ?_
      rw [answer, hpurse]
      dsimp only
      rw [if_neg hpays]

theorem balanced_withdraw (h : s.Bounded) {money : Nat}
    (hwrap : s.NoWrap g (.withdraw player money)) : s.Balanced g (.withdraw player money) := by
  by_cases hzero : money ≠ 0
  · have hanswer : s.answer g (.withdraw player money) =
        s.handleMemberWithdrawMoney g player money false := by rw [answer, if_pos hzero]
    obtain hrefused | ⟨member, hwithdrawal, ⟨hfalse, -⟩ | ⟨-, purse, hpurse, hgain, hbooked⟩⟩ :=
      handleMemberWithdrawMoney_cases g s player money false
    · exact balanced_refused h (hanswer.trans hrefused)
    · cases hfalse
    · obtain ⟨hhalf, hroom⟩ := hwrap hwithdrawal.mayWithdraw purse hpurse
      rw [int64_of_lt hhalf] at hgain hbooked
      have hfits : purse + money < 2 ^ 64 := by
        refine hroom.resolve_right fun hhuge => ?_
        rw [modifyMoney_huge (h.purses hpurse) hhuge hhalf] at hgain
        cases hgain
      have hbank := hwithdrawal.inBank
      have hlt := h.bank
      have hsum := sumValues_insert_purse hpurse (purse + money)
      rw [modifyPurse, hpurse] at hbooked
      dsimp only at hbooked
      rw [modifyMoney_pos hgain hfits, bookWithdrawal_eq
        (s := ⟨s.bankMoney, s.purses.insert player (purse + money), s.bankWithdraw⟩) hbank,
        ← hanswer] at hbooked
      constructor
      · rw [step, hbooked]
        exact h.insert (Nat.lt_of_le_of_lt (Nat.sub_le _ _) hlt) hfits _
      · rw [step, given, taken, hbooked, if_pos rfl]
        dsimp only
        omega
      · rw [step, spent, hbooked, GuildBank.money, GuildBank.money]
        dsimp only
        omega
  · refine balanced_refused h ?_
    rw [answer, if_neg hzero]

theorem balanced_repair (h : s.Bounded) (player costs : Nat) :
    s.Balanced g (.repair player costs) := by
  have hanswer : s.answer g (.repair player costs) =
      s.handleMemberWithdrawMoney g player (uint32 costs) true := rfl
  obtain hrefused | ⟨member, hwithdrawal, ⟨-, hbooked⟩ | ⟨hfalse, -⟩⟩ :=
    handleMemberWithdrawMoney_cases g s player (uint32 costs) true
  · exact balanced_refused h (hanswer.trans hrefused)
  · have hbank := hwithdrawal.inBank
    have hlt := h.bank
    rw [bookWithdrawal_eq hbank, ← hanswer] at hbooked
    constructor
    · rw [step, hbooked]
      exact ⟨Nat.lt_of_le_of_lt (Nat.sub_le _ _) hlt, h.purses⟩
    · rw [step, given, taken, hbooked, if_pos rfl]
      dsimp only
      omega
    · rw [step, spent, hbooked, if_pos rfl, GuildBank.money, GuildBank.money]
      dsimp only
      omega
  · cases hfalse

/-- One request that does not wrap books what it says. -/
theorem balanced_step (h : s.Bounded) (hwrap : s.NoWrap g request) : s.Balanced g request := by
  cases request with
  | deposit player money => exact balanced_deposit h hwrap
  | withdraw player money => exact balanced_withdraw h hwrap
  | repair player costs => exact balanced_repair h player costs
  | resetTimes => exact ⟨⟨h.bank, h.purses⟩, rfl, rfl⟩

/-- Whatever the request, a refusal leaves everything as it was. -/
theorem step_refused (h : (s.answer g request).2 = false) : s.step g request = s := by
  cases request with
  | deposit player money =>
    rw [step]
    rw [answer] at h ⊢
    split at h
    · rfl
    · split at h
      · cases h
      · next hpays => rw [if_neg hpays]
  | withdraw player money =>
    rw [step]
    rw [answer] at h ⊢
    split at h
    · next hzero =>
        rw [if_pos hzero]
        obtain hrefused | ⟨member, -, ⟨-, hbooked⟩ | ⟨-, purse, -, -, hbooked⟩⟩ :=
          handleMemberWithdrawMoney_cases g s player money false
        · rw [hrefused]
        · rw [hbooked] at h
          cases h
        · rw [hbooked] at h
          cases h
    · next hzero => rw [if_neg hzero]
  | repair player costs =>
    rw [step]
    rw [answer] at h ⊢
    obtain hrefused | ⟨member, -, ⟨-, hbooked⟩ | ⟨-, purse, -, -, hbooked⟩⟩ :=
      handleMemberWithdrawMoney_cases g s player (uint32 costs) true
    · rw [hrefused]
    · rw [hbooked] at h
      cases h
    · rw [hbooked] at h
      cases h
  | resetTimes => cases h

/-! ### The daily limit -/

/-- The daily limit of a rank in copper. -/
def copperPerDay (g : RankedGuild) (rankId : Nat) : Nat :=
  match g.getRank rankId with
  | some rankInfo => rankInfo.info.bankMoneyPerDay * 10000
  | none => 0

/-- In 32 bits the limit of a rank may be smaller, never larger. -/
theorem getRankBankMoneyPerDay_le (g : RankedGuild) (rankId : Nat) :
    g.getRankBankMoneyPerDay rankId ≤ copperPerDay g rankId ∧
      -2 ^ 31 ≤ g.getRankBankMoneyPerDay rankId ∧ g.getRankBankMoneyPerDay rankId < 2 ^ 31 := by
  rw [RankedGuild.getRankBankMoneyPerDay, copperPerDay]
  cases g.getRank rankId with
  | none => exact ⟨le_refl _, by decide, by decide⟩
  | some rankInfo =>
    dsimp only
    rw [int32, Int.bmod_def]
    omega

/-- The counter of a member is between zero and the limit of his rank. -/
def Counted (g : RankedGuild) (member : Member) (s : GuildBank) : Prop :=
  0 ≤ s.bankWithdraw member.lowGuid guildBankMaxTabs ∧
    s.bankWithdraw member.lowGuid guildBankMaxTabs ≤
      max 0 (g.getRankBankMoneyPerDay member.rankId)

/-- What is left for a member is not more than the limit without what the counter says. -/
theorem Counted.remaining (h : s.Counted g member) (hrank : member.rankId ≠ grGuildmaster)
    (hamount : amount ≤ uint64 (g.getMemberRemainingMoney member (s.bankWithdraw member.lowGuid))) :
    s.bankWithdraw member.lowGuid guildBankMaxTabs + amount ≤
      max 0 (g.getRankBankMoneyPerDay member.rankId) := by
  obtain ⟨hzero, hle⟩ := h
  obtain ⟨-, hlow, hhigh⟩ := getRankBankMoneyPerDay_le g member.rankId
  have hvalue : getBankWithdrawValue member (s.bankWithdraw member.lowGuid) guildBankMaxTabs =
      s.bankWithdraw member.lowGuid guildBankMaxTabs := by
    rw [getBankWithdrawValue, Member.isRank, beq_false_of_ne hrank, if_neg Bool.false_ne_true]
  rw [RankedGuild.getMemberRemainingMoney, if_neg hrank, hvalue] at hamount
  generalize s.bankWithdraw member.lowGuid guildBankMaxTabs = counter at *
  generalize g.getRankBankMoneyPerDay member.rankId = limit at *
  have hdiff : int32 (limit - counter) = limit - counter := by
    rw [int32, Int.bmod_eq_of_le (by omega) (by omega)]
  dsimp only at hamount
  rw [hdiff, uint64] at hamount
  split_ifs at hamount
  · omega
  · omega
  · omega

theorem bankWithdraw_handleMemberWithdrawMoney (g : RankedGuild) (s : GuildBank)
    (player amount : Nat) (repair : Bool) :
    s.handleMemberWithdrawMoney g player amount repair = (s, false) ∨
      ∃ member, Withdrawal g s player amount member ∧
        (s.handleMemberWithdrawMoney g player amount repair).2 = true ∧
        (s.handleMemberWithdrawMoney g player amount repair).1.bankWithdraw =
          updateBankWithdrawValue s.bankWithdraw member.lowGuid guildBankMaxTabs amount := by
  obtain hrefused | ⟨member, hwithdrawal, ⟨-, hbooked⟩ | ⟨-, purse, hpurse, -, hbooked⟩⟩ :=
    handleMemberWithdrawMoney_cases g s player amount repair
  · exact Or.inl hrefused
  · rw [hbooked]
    exact Or.inr ⟨member, hwithdrawal, rfl, rfl⟩
  · rw [hbooked, modifyPurse, hpurse]
    exact Or.inr ⟨member, hwithdrawal, rfl, rfl⟩

/-- A withdrawal of one member counts for him and for nobody else. -/
theorem Counted.withdraw (h : s.Counted g member) (hmember : member ∈ g.roster.members)
    (hrank : member.rankId ≠ grGuildmaster) (player amount : Nat) (repair : Bool) :
    let result := s.handleMemberWithdrawMoney g player amount repair
    result.1.Counted g member ∧
      result.1.bankWithdraw member.lowGuid guildBankMaxTabs =
        s.bankWithdraw member.lowGuid guildBankMaxTabs +
          (if lowPart player = member.lowGuid then if result.2 then amount else 0 else 0 : Nat) := by
  intro result
  obtain hrefused | ⟨other, hwithdrawal, htrue, hvalues⟩ :=
    bankWithdraw_handleMemberWithdrawMoney g s player amount repair
  · have hresult : result = (s, false) := hrefused
    rw [hresult]
    refine ⟨h, ?_⟩
    split
    · exact (Int.add_zero _).symm
    · exact (Int.add_zero _).symm
  · have hother : g.roster.find? (lowPart player) = some other := hwithdrawal.isMember
    obtain ⟨hin, hkey⟩ := Roster.find?_eq_some_iff.mp hother
    have hnew : result.1.bankWithdraw member.lowGuid guildBankMaxTabs =
        updateBankWithdrawValue s.bankWithdraw other.lowGuid guildBankMaxTabs amount member.lowGuid
          guildBankMaxTabs := congrFun (congrFun hvalues _) _
    rw [updateBankWithdrawValue] at hnew
    by_cases hown : lowPart player = member.lowGuid
    · have hsame : other = member := Roster.eq_of_lowGuid_eq hin hmember (hkey.trans hown)
      subst hsame
      have hroom := h.remaining hrank hwithdrawal.remaining
      obtain ⟨-, hlow, hhigh⟩ := getRankBankMoneyPerDay_le g other.rankId
      have hcounter := h.1
      have hexact : int32 (s.bankWithdraw other.lowGuid guildBankMaxTabs + uint32 amount) =
          s.bankWithdraw other.lowGuid guildBankMaxTabs + amount := by
        rw [uint32_of_lt (by omega), int32, Int.bmod_eq_of_le (by omega) (by omega)]
      rw [if_pos ⟨rfl, rfl⟩, hexact] at hnew
      rw [if_pos hown, if_pos htrue, Counted, hnew]
      exact ⟨⟨by omega, hroom⟩, rfl⟩
    · have hne : ¬ (member.lowGuid = other.lowGuid ∧ guildBankMaxTabs = guildBankMaxTabs) :=
        fun hand => hown (hkey.symm.trans hand.1.symm)
      rw [if_neg hne] at hnew
      rw [if_neg hown, Counted, hnew]
      exact ⟨h, (Int.add_zero _).symm⟩

theorem bankWithdraw_deposit (g : RankedGuild) (s : GuildBank) (player money : Nat) :
    (s.step g (.deposit player money)).bankWithdraw = s.bankWithdraw := by
  rw [step, answer]
  split
  · rfl
  · next purse hpurse =>
      split
      · rw [handleMemberDepositMoney, if_neg Bool.false_ne_true, modifyPurse, hpurse]
      · rfl

/-- Between two resets the counter of a member goes up by what he takes. -/
theorem Counted.step (h : s.Counted g member) (hmember : member ∈ g.roster.members)
    (hrank : member.rankId ≠ grGuildmaster) (hday : request ≠ .resetTimes) :
    (s.step g request).Counted g member ∧
      (s.step g request).bankWithdraw member.lowGuid guildBankMaxTabs =
        s.bankWithdraw member.lowGuid guildBankMaxTabs +
          (s.takenBy g member.lowGuid request : Nat) := by
  cases request with
  | deposit player money =>
    rw [Counted, bankWithdraw_deposit, takenBy]
    exact ⟨h, (Int.add_zero _).symm⟩
  | withdraw player money =>
    have hcounted := h.withdraw hmember hrank player money false
    rw [GuildBank.step, takenBy, taken, answer]
    split
    · exact hcounted
    · refine ⟨h, ?_⟩
      rw [if_neg Bool.false_ne_true, ite_self]
      exact (Int.add_zero _).symm
  | repair player costs => exact h.withdraw hmember hrank player (uint32 costs) true
  | resetTimes => exact absurd rfl hday

/-- A day of requests counts exactly what a member takes. -/
theorem Counted.day (hmember : member ∈ g.roster.members) (hrank : member.rankId ≠ grGuildmaster)
    (day : List BankRequest) (hday : BankRequest.resetTimes ∉ day) (s : GuildBank)
    (h : s.Counted g member) :
    s.bankWithdraw member.lowGuid guildBankMaxTabs +
        (Runs.tally (GuildBank.step g) (takenBy g member.lowGuid) s day : Nat) ≤
      max 0 (g.getRankBankMoneyPerDay member.rankId) := by
  induction day generalizing s with
  | nil =>
    rw [Runs.tally, Nat.cast_zero, Int.add_zero]
    exact h.2
  | cons request rest ih =>
    rw [List.mem_cons, not_or] at hday
    obtain ⟨hne, hrest⟩ := hday
    obtain ⟨hnext, hcounter⟩ := h.step hmember hrank (Ne.symm hne)
    have hsum := ih hrest (s.step g request) hnext
    rw [hcounter] at hsum
    rw [Runs.tally]
    omega

/-! ### Runs -/

/-- What the money of a guild bank promises for a run: all money changes only by what repairs cost,
the bank changes by exactly what goes in and out, a refused request changes nothing, and between two
resets nobody but a master takes more than the daily limit of his rank. -/
structure Sound (g : RankedGuild) (s : GuildBank) (requests : List BankRequest) : Prop where
  conserved : ∀ before, before <+: requests →
    (Runs.run (step g) s before).money + Runs.tally (step g) (spent g) s before = s.money
  bank : ∀ before, before <+: requests →
    (Runs.run (step g) s before).bankMoney + Runs.tally (step g) (taken g) s before =
      s.bankMoney + Runs.tally (step g) (given g) s before
  fits : ∀ before, before <+: requests → (Runs.run (step g) s before).bankMoney < 2 ^ 64
  refused : ∀ before request, before ++ [request] <+: requests →
    ((Runs.run (step g) s before).answer g request).2 = false →
      Runs.run (step g) s (before ++ [request]) = Runs.run (step g) s before
  daily : ∀ before day, before ++ .resetTimes :: day <+: requests →
    BankRequest.resetTimes ∉ day →
      ∀ member ∈ g.roster.members, member.rankId ≠ grGuildmaster →
        Runs.tally (step g) (takenBy g member.lowGuid)
          (Runs.run (step g) s (before ++ [.resetTimes])) day ≤ copperPerDay g member.rankId

theorem run_append_singleton (g : RankedGuild) (s : GuildBank) (before : List BankRequest)
    (request : BankRequest) :
    Runs.run (step g) s (before ++ [request]) = (Runs.run (step g) s before).step g request := by
  rw [Runs.run, List.foldl_append]
  rfl

/-- After a reset a member has his whole limit before him. -/
theorem daily_limit (g : RankedGuild) (s : GuildBank) {day : List BankRequest}
    (hday : BankRequest.resetTimes ∉ day) (hmember : member ∈ g.roster.members)
    (hrank : member.rankId ≠ grGuildmaster) :
    Runs.tally (step g) (takenBy g member.lowGuid) (s.step g .resetTimes) day ≤
      copperPerDay g member.rankId := by
  have hfound : g.roster.find? member.lowGuid = some member :=
    Roster.find?_eq_some_iff.mpr ⟨hmember, rfl⟩
  have hzero : (s.step g .resetTimes).bankWithdraw member.lowGuid guildBankMaxTabs = 0 := by
    rw [step, answer, resetTimes]
    dsimp only
    rw [hfound, Option.isSome_some, if_pos rfl]
  have hcounted : (s.step g .resetTimes).Counted g member := by
    rw [Counted, hzero]
    exact ⟨le_refl _, le_max_left _ _⟩
  have hsum := Counted.day hmember hrank day hday _ hcounted
  obtain ⟨hle, -, -⟩ := getRankBankMoneyPerDay_le g member.rankId
  rw [hzero] at hsum
  omega

/-- In every run without a request that wraps, the money of the guild bank is sound. -/
theorem sound_of_run (g : RankedGuild) {s : GuildBank} (h : s.Bounded)
    {requests : List BankRequest} (hrun : Runs.Admissible (step g) (NoWrap g) s requests) :
    Sound g s requests where
  conserved := by
    rintro before ⟨after, rfl⟩
    have hbalance := hrun.append_left.balance (P := Bounded) money (fun _ _ => 0) (spent g)
      (fun hs hwrap => ⟨(balanced_step hs hwrap).bounded, (balanced_step hs hwrap).money⟩) h
    rw [hbalance, Runs.tally_zero, Nat.add_zero]
  bank := by
    rintro before ⟨after, rfl⟩
    exact hrun.append_left.balance (P := Bounded) bankMoney (given g) (taken g)
      (fun hs hwrap => ⟨(balanced_step hs hwrap).bounded, (balanced_step hs hwrap).bank⟩) h
  fits := by
    intro before hbefore
    have hbounded := hrun.invariant (P := Bounded)
      (fun hs hwrap => (balanced_step hs hwrap).bounded) h hbefore
    exact hbounded.bank
  refused := by
    intro before request hbefore hrefused
    rw [run_append_singleton]
    exact step_refused hrefused
  daily := by
    intro before day hbefore hday member hmember hrank
    rw [run_append_singleton]
    exact daily_limit g _ hday hmember hrank

/-! ### Ordinary amounts of money -/

theorem bounded_of_money_lt (h : s.money < 2 ^ 63) : s.Bounded where
  bank := by
    rw [money] at h
    omega
  purses := by
    intro player purse hpurse
    have hle := OrderedMap.le_sumValues (OrderedMap.find?_eq_some_iff.mp hpurse) id
    rw [money] at h
    simp only [id_eq] at hle
    omega

/-- While all money is less than `2 ^ 63`, nothing wraps. -/
theorem noWrap_of_money_lt (h : s.money < 2 ^ 63) (request : BankRequest) :
    s.NoWrap g request := by
  have hpurses : ∀ {player purse}, s.purses.find? player = some purse →
      s.bankMoney + purse ≤ s.money := by
    intro player purse hpurse
    exact Nat.add_le_add_left
      (OrderedMap.le_sumValues (OrderedMap.find?_eq_some_iff.mp hpurse) id) _
  cases request with
  | deposit player money =>
    intro purse hpurse hle
    have htotal := hpurses hpurse
    exact ⟨by omega, by omega⟩
  | withdraw player money =>
    intro hmay purse hpurse
    have htotal := hpurses hpurse
    rw [mayWithdraw, Bool.and_eq_true, decide_eq_true_eq] at hmay
    exact ⟨by omega, Or.inl (by omega)⟩
  | repair player costs => trivial
  | resetTimes => trivial

/-- Requests do not make money, so an ordinary amount stays ordinary. -/
theorem admissible_of_money_lt (g : RankedGuild) (h : s.money < 2 ^ 63)
    (requests : List BankRequest) : Runs.Admissible (step g) (NoWrap g) s requests := by
  apply Runs.admissible_of_invariant (P := fun s => s.money < 2 ^ 63)
  · intro s request hs
    exact noWrap_of_money_lt hs request
  · intro s request hs
    have hbalanced : s.Balanced g request :=
      balanced_step (bounded_of_money_lt hs) (noWrap_of_money_lt hs request)
    have hmoney := hbalanced.money
    omega
  · exact h

theorem aTreasury_le :
    [Rank.new ⟨0, "Guild Master", grRightAll, guildWithdrawMoneyUnlimited⟩,
      Rank.new ⟨1, "Officer", grRightAll, 5⟩].length ≤ guildRanksMaxCount := by decide

/-- An officer may take five gold a day. -/
def aTreasury : RankedGuild :=
  ⟨1, [Rank.new ⟨0, "Guild Master", grRightAll, guildWithdrawMoneyUnlimited⟩,
    Rank.new ⟨1, "Officer", grRightAll, 5⟩], aTreasury_le, aGuild.roster, 1⟩

/-- The officer takes his five gold, is refused the next copper, and pays a repair after the reset. -/
theorem sound_two_days :
    Sound aTreasury
      ⟨100000, (OrderedMap.empty.insert 1 70000).insert 2 0, fun _ _ => 0⟩
      [.deposit 1 20000, .resetTimes, .withdraw 2 50000, .withdraw 2 1, .resetTimes,
        .repair 2 300] := by
  have hmoney : (⟨100000, (OrderedMap.empty.insert 1 70000).insert 2 0,
      fun _ _ => 0⟩ : GuildBank).money < 2 ^ 63 := by decide
  exact sound_of_run aTreasury (bounded_of_money_lt hmoney)
    (admissible_of_money_lt aTreasury hmoney _)

/-- One copper wraps a full bank, and the master who takes `2 ^ 63` copper gets none of it. -/
theorem bank_wraps :
    ¬ Sound aTreasury ⟨2 ^ 64 - 1, OrderedMap.empty.insert 2 1, fun _ _ => 0⟩ [.deposit 2 1] ∧
      ¬ Sound aTreasury ⟨2 ^ 63, OrderedMap.empty.insert 1 0, fun _ _ => 0⟩
        [.withdraw 1 (2 ^ 63)] := by
  constructor
  · intro h
    have hbank := h.bank _ (List.prefix_refl _)
    revert hbank
    decide +kernel
  · intro h
    have hconserved := h.conserved _ (List.prefix_refl _)
    revert hconserved
    decide +kernel

end GuildBank

end Cataclysm.Guilds
