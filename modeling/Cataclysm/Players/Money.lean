import Mathlib

/-!
# Money

The purse of a player is a `uint64`. Handlers pass amounts of other widths to
`ModifyMoney`; a conversion keeps a value that the narrower type can hold.
-/

namespace Cataclysm

/-- `MAX_MONEY_AMOUNT`. -/
def maxMoneyAmount : Nat := 9999999999

/-- Conversion of a number to `uint32`. -/
def uint32 (z : Int) : Nat := (z % 2 ^ 32).toNat

/-- Conversion of a number to `uint64`. -/
def uint64 (z : Int) : Nat := (z % 2 ^ 64).toNat

/-- Conversion of a number to `int32`. -/
def int32 (z : Int) : Int := z.bmod (2 ^ 32)

/-- Conversion of a number to `int64`. -/
def int64 (z : Int) : Int := z.bmod (2 ^ 64)

/-- `Player::HasEnoughMoney` of a `uint64`. -/
def hasEnoughMoney (money amount : Nat) : Bool := amount ≤ money

/-- `Player::ModifyMoney`: the purse after it, and whether the amount was booked. -/
def modifyMoney (money : Nat) (amount : Int) : Nat × Bool :=
  if amount = 0 then (money, true)
  else if amount < 0 then
    (if uint64 (-amount) < money then uint64 (money + amount) else 0, true)
  else if money < uint64 (maxMoneyAmount - amount) then (uint64 (money + amount), true)
  else (money, false)

theorem uint32_of_lt {n : Nat} (h : n < 2 ^ 32) : uint32 n = n := by
  rw [uint32]
  omega

theorem uint64_of_lt {n : Nat} (h : n < 2 ^ 64) : uint64 n = n := by
  rw [uint64]
  omega

theorem uint64_lt (z : Int) : uint64 z < 2 ^ 64 := by
  rw [uint64]
  omega

theorem int32_of_lt {n : Nat} (h : n < 2 ^ 31) : int32 n = n := by
  rw [int32, Int.bmod_eq_of_le] <;> omega

theorem int64_of_lt {n : Nat} (h : n < 2 ^ 63) : int64 n = n := by
  rw [int64, Int.bmod_eq_of_le] <;> omega

/-- A purse that holds an amount loses exactly that amount. -/
theorem modifyMoney_neg {money amount : Nat} (hmoney : money < 2 ^ 64) (h : amount ≤ money) :
    modifyMoney money (-(amount : Int)) = (money - amount, true) := by
  rw [modifyMoney]
  by_cases hzero : amount = 0
  · simp [hzero]
  · have hlt : amount < 2 ^ 64 := by omega
    have hneg : -(-(amount : Int)) = amount := by omega
    rw [if_neg (by omega), if_pos (by omega), hneg, uint64_of_lt hlt]
    by_cases hall : amount < money
    · have hrest : (money : Int) + -(amount : Int) = ((money - amount : Nat) : Int) := by omega
      rw [if_pos hall, hrest, uint64_of_lt (by omega)]
    · rw [if_neg hall]
      simp
      omega

theorem modifyMoney_lt {money : Nat} (h : money < 2 ^ 64) (amount : Int) :
    (modifyMoney money amount).1 < 2 ^ 64 := by
  rw [modifyMoney]
  split_ifs
  · exact h
  · exact uint64_lt _
  · exact Nat.two_pow_pos 64
  · exact uint64_lt _
  · exact h

/-- An amount that is not booked leaves the purse as it was. -/
theorem modifyMoney_refused {money : Nat} {amount : Int} (h : (modifyMoney money amount).2 = false) :
    (modifyMoney money amount).1 = money := by
  rw [modifyMoney] at h ⊢
  split_ifs at h ⊢
  rfl

/-- A gain that is booked without leaving 64 bits is booked exactly. -/
theorem modifyMoney_pos {money amount : Nat} (h : (modifyMoney money amount).2 = true)
    (hfits : money + amount < 2 ^ 64) : (modifyMoney money amount).1 = money + amount := by
  rw [modifyMoney] at h ⊢
  by_cases hzero : (amount : Int) = 0
  · rw [if_pos hzero]
    omega
  · have hneg : ¬ (amount : Int) < 0 := by omega
    rw [if_neg hzero, if_neg hneg] at h ⊢
    by_cases hroom : money < uint64 (maxMoneyAmount - amount)
    · rw [if_pos hroom]
      exact uint64_of_lt hfits
    · rw [if_neg hroom] at h
      cases h

/-- A gain far beyond the maximum is refused although the difference to the maximum wraps. -/
theorem modifyMoney_huge {money amount : Nat} (hmoney : money < 2 ^ 64)
    (h : 2 ^ 64 + maxMoneyAmount ≤ money + amount) (hamount : amount < 2 ^ 63) :
    (modifyMoney money amount).2 = false := by
  have hneg : ¬ (amount : Int) < 0 := by omega
  have hpos : ¬ (amount : Int) = 0 := by
    rw [maxMoneyAmount] at h
    omega
  have hroom : ¬ money < uint64 (maxMoneyAmount - amount) := by
    rw [uint64, maxMoneyAmount]
    rw [maxMoneyAmount] at h
    omega
  rw [modifyMoney, if_neg hpos, if_neg hneg, if_neg hroom]

end Cataclysm
