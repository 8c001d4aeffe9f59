import Cataclysm.Lib.Runs
import Cataclysm.Players.Currency

/-!
# Currency caps

A gain of a currency is counted exactly, in its total and in its week count, unless it would pass
the total cap: the week count then becomes the week cap. Such a gain is exact only when both caps
leave the same room. A gain of a meta conquest currency is passed on before it is limited to what
the caps leave, so the conquest points can be credited more.

## Implementation notes

The caps and the counts that one call meets are a record of their own, on which the arithmetic is
done; the storage is read and written around it.
-/

namespace Cataclysm.Currency

/-- The caps and the counts of a currency that a call meets. -/
structure Reading where
  weekCap : Nat
  totalCap : Nat
  total : Nat
  week : Nat
  deriving DecidableEq

namespace Reading

/-- Caps and counts that fit the signed arithmetic, with a week count within its cap. -/
structure Valid (r : Reading) (count : Int) : Prop where
  weekCap_lt : r.weekCap < 2 ^ 31
  totalCap_lt : r.totalCap < 2 ^ 31
  week_le : r.weekCap ≠ 0 → r.week ≤ r.weekCap
  total_lt : r.total + count.natAbs < 2 ^ 31

/-- The count that each cap by itself allows. -/
def clamped (r : Reading) (count : Nat) : Nat :=
  let count := if r.weekCap = 0 then count else min count r.weekCap
  if r.totalCap = 0 then count else min count r.totalCap

/-- What the week cap leaves of a clamped count. -/
def weekRoom (r : Reading) (count : Nat) : Nat :=
  if r.weekCap = 0 then count else min count (r.weekCap - r.week)

/-- What both caps leave of a clamped count. -/
def room (r : Reading) (count : Nat) : Nat :=
  if r.totalCap = 0 then r.weekRoom count else min (r.weekRoom count) (r.totalCap - r.total)

/-- The week cap is reached. -/
def Full (r : Reading) : Prop := r.weekCap ≠ 0 ∧ r.weekCap = r.week

/-- The total is at its cap. -/
def AtCap (r : Reading) : Prop := r.totalCap ≠ 0 ∧ r.total = r.totalCap

/-- When a gain is counted exactly. -/
def GainFits (r : Reading) (count : Nat) : Prop :=
  r.Full ∨ r.AtCap ∨
    (r.totalCap ≠ 0 ∧ (r.weekCap : Int) - r.week = (r.totalCap : Int) - r.total) ∨
    (r.week + r.clamped count < 2 ^ 31 ∧
      (r.totalCap = 0 ∨ r.total + r.weekRoom (r.clamped count) ≤ r.totalCap))

/-- When spending is counted exactly. -/
def SpendingFits (r : Reading) (count : Nat) : Prop :=
  (r.totalCap = 0 ∨ r.total - count ≤ r.totalCap) ∧ (r.total = 0 ∨ r.week < 2 ^ 31)

/-- The total and the week count that a call writes, when it changes the total. -/
def written (r : Reading) (count : Int) : Option (Nat × Nat) :=
  if r.weekCap ≠ 0 ∧ r.weekCap = r.week ∧ 0 < count then none
  else
    let counts := newCounts r.weekCap r.totalCap r.total r.week false
      (clampCount r.weekCap r.totalCap false count)
    if uint32 counts.1 ≠ r.total then some (uint32 counts.1, uint32 counts.2) else none

/-- A change from the counts read is exact. -/
structure Exact (r : Reading) (count : Int) (total week : Nat) : Prop where
  total_le : r.totalCap ≠ 0 → total ≤ max r.total r.totalCap
  total_lt : total < 2 ^ 31
  week_le : r.weekCap ≠ 0 → week ≤ r.weekCap
  week_gained : (week : Int) - r.week = if 0 < count then (total : Int) - r.total else 0
  spent : count < 0 → (total : Int) = r.total - min (-count) r.total

instance (r : Reading) (count : Int) (total week : Nat) : Decidable (r.Exact count total week) :=
  decidable_of_iff ((r.totalCap ≠ 0 → total ≤ max r.total r.totalCap) ∧ total < 2 ^ 31 ∧
      (r.weekCap ≠ 0 → week ≤ r.weekCap) ∧
      ((week : Int) - r.week = if 0 < count then (total : Int) - r.total else 0) ∧
      (count < 0 → (total : Int) = r.total - min (-count) r.total))
    ⟨fun h => ⟨h.1, h.2.1, h.2.2.1, h.2.2.2.1, h.2.2.2.2⟩,
      fun h => ⟨h.total_le, h.total_lt, h.week_le, h.week_gained, h.spent⟩⟩

instance (r : Reading) (count : Int) : Decidable (r.Valid count) :=
  decidable_of_iff (r.weekCap < 2 ^ 31 ∧ r.totalCap < 2 ^ 31 ∧
      (r.weekCap ≠ 0 → r.week ≤ r.weekCap) ∧ r.total + count.natAbs < 2 ^ 31)
    ⟨fun h => ⟨h.1, h.2.1, h.2.2.1, h.2.2.2⟩,
      fun h => ⟨h.weekCap_lt, h.totalCap_lt, h.week_le, h.total_lt⟩⟩

instance (r : Reading) : Decidable r.Full := inferInstanceAs (Decidable (_ ∧ _))

instance (r : Reading) : Decidable r.AtCap := inferInstanceAs (Decidable (_ ∧ _))

instance (r : Reading) (count : Nat) : Decidable (r.GainFits count) :=
  inferInstanceAs (Decidable (_ ∨ _ ∨ (_ ∧ _) ∨ (_ ∧ _)))

variable {r : Reading}

/-! ### Arithmetic of one call -/

variable {count : Nat}

theorem clampCount_gain (h : r.Valid count) :
    clampCount r.weekCap r.totalCap false count = r.clamped count := by
  have hweek : int32 r.weekCap = r.weekCap := int32_of_lt h.weekCap_lt
  have htotal : int32 r.totalCap = r.totalCap := int32_of_lt h.totalCap_lt
  unfold clampCount clamped
  simp only [hweek, htotal, true_and]
  split_ifs <;> omega

theorem clampCount_spending {count : Int} (h : r.Valid count) (hneg : count ≤ 0) :
    clampCount r.weekCap r.totalCap false count = count := by
  have hweek : int32 r.weekCap = r.weekCap := int32_of_lt h.weekCap_lt
  have htotal : int32 r.totalCap = r.totalCap := int32_of_lt h.totalCap_lt
  unfold clampCount
  simp only [hweek, htotal, true_and]
  split_ifs <;> omega

theorem clamped_le (r : Reading) (count : Nat) : r.clamped count ≤ count := by
  unfold clamped
  simp only
  split_ifs <;> omega

theorem clamped_pos (h : 0 < count) : 0 < r.clamped count := by
  unfold clamped
  simp only
  split_ifs <;> omega

theorem int32_int32_add (a b : Int) : int32 (int32 a + b) = int32 (a + b) := Int.bmod_add_bmod

theorem int32_lt (z : Int) : int32 z < 2 ^ 31 := by
  have h := Int.bmod_lt (x := z) (m := 2 ^ 32) (by decide)
  exact h

theorem int32_of_overflow {z : Int} (h : 2 ^ 31 ≤ z) (h' : z < 2 ^ 32) : int32 z = z - 2 ^ 32 := by
  rw [int32, Int.bmod_def]
  split <;> omega

theorem int32_of_range {z : Int} (h : -(2 ^ 31) ≤ z) (h' : z < 2 ^ 31) : int32 z = z := by
  rw [int32, Int.bmod_eq_of_le] <;> omega

/-- What the week cap leaves of a gain that passes it. -/
theorem int32_left (h : r.Valid count) (hover : r.weekCap < r.week + count) (hcap : r.weekCap ≠ 0) :
    int32 ((r.total : Int) + ((r.weekCap : Int) - r.week)) =
      (r.total : Int) + ((r.weekCap : Int) - r.week) := by
  have hle := h.week_le hcap
  have hlt := h.total_lt
  rw [Int.natAbs_natCast] at hlt
  apply int32_of_range
  · omega
  · omega

theorem newCounts_gain (h : r.Valid count) (hfits : r.week + count < 2 ^ 31) :
    newCounts r.weekCap r.totalCap r.total r.week false count =
      if r.totalCap ≠ 0 ∧ r.totalCap < r.total + r.weekRoom count then
        ((r.totalCap : Int), (r.weekCap : Int))
      else (((r.total + r.weekRoom count : Nat) : Int),
        ((r.week + r.weekRoom count : Nat) : Int)) := by
  have hweek : int32 r.weekCap = r.weekCap := int32_of_lt h.weekCap_lt
  have htotal : int32 r.totalCap = r.totalCap := int32_of_lt h.totalCap_lt
  have hlt := h.total_lt
  rw [Int.natAbs_natCast] at hlt
  have hsum : int32 (int32 r.total + count) = (r.total : Int) + count := by
    rw [int32_int32_add]
    exact int32_of_range (by omega) (by omega)
  have hadd : int32 (int32 r.week + max 0 (count : Int)) = (r.week : Int) + count := by
    rw [int32_int32_add, max_eq_right (by omega)]
    exact int32_of_range (by omega) (by omega)
  unfold newCounts weekRoom
  simp only [hweek, htotal, hsum, hadd, true_and]
  by_cases hcap : r.weekCap = 0
  · simp only [hcap, ne_eq, not_true_eq_false, false_and, if_false, if_true]
    split_ifs <;> simp <;> omega
  · by_cases hover : r.weekCap < r.week + count
    · have hleft := int32_left h hover hcap
      have hle := h.week_le hcap
      have hroom : min count (r.weekCap - r.week) = r.weekCap - r.week := by omega
      have hlimited : r.weekCap ≠ 0 ∧ (r.weekCap : Int) < max 0 ((r.week : Int) + count) :=
        ⟨hcap, by omega⟩
      rw [if_pos hlimited, hleft, if_neg hcap, hroom]
      split_ifs <;> simp <;> omega
    · have hroom : min count (r.weekCap - r.week) = count := by omega
      have hfree : ¬ (r.weekCap ≠ 0 ∧ (r.weekCap : Int) < max 0 ((r.week : Int) + count)) := by
        omega
      rw [if_neg hfree, if_neg hcap, hroom]
      split_ifs <;> simp <;> omega

/-- A week count that leaves the signed range is not limited. -/
theorem newCounts_overflow (h : r.Valid count) (hover : 2 ^ 31 ≤ r.week + count) :
    ∃ week : Int, 0 ≤ week ∧ week < 2 ^ 31 ∧ (r.weekCap ≠ 0 → week = 0) ∧
      newCounts r.weekCap r.totalCap r.total r.week false count =
        if r.totalCap ≠ 0 ∧ r.totalCap < r.total + count then
          ((r.totalCap : Int), (r.weekCap : Int))
        else (((r.total + count : Nat) : Int), week) := by
  have hweek : int32 r.weekCap = r.weekCap := int32_of_lt h.weekCap_lt
  have htotal : int32 r.totalCap = r.totalCap := int32_of_lt h.totalCap_lt
  have hlt := h.total_lt
  rw [Int.natAbs_natCast] at hlt
  have hsum : int32 (int32 r.total + count) = (r.total : Int) + count := by
    rw [int32_int32_add]
    exact int32_of_range (by omega) (by omega)
  have hadd : int32 (int32 r.week + max 0 (count : Int)) = int32 ((r.week : Int) + count) := by
    rw [int32_int32_add, max_eq_right (by omega)]
  have hzero : r.weekCap ≠ 0 → max 0 (int32 ((r.week : Int) + count)) = 0 := by
    intro hcap
    have hle := h.week_le hcap
    have hcaplt := h.weekCap_lt
    rw [int32_of_overflow (by omega) (by omega)]
    omega
  have hmax := int32_lt ((r.week : Int) + count)
  refine ⟨max 0 (int32 ((r.week : Int) + count)), le_max_left _ _, max_lt (by decide) hmax,
    hzero, ?_⟩
  have hfree : ¬ (r.weekCap ≠ 0 ∧
      (r.weekCap : Int) < max 0 (int32 ((r.week : Int) + count))) := by
    rintro ⟨hcap, hlimit⟩
    rw [hzero hcap] at hlimit
    omega
  unfold newCounts
  simp only [hweek, htotal, hsum, hadd, true_and]
  rw [if_neg hfree]
  clear hfree hmax hzero hadd hsum
  generalize max 0 (int32 ((r.week : Int) + count)) = week
  split_ifs <;> simp <;> omega

theorem newCounts_spending (h : r.Valid (-count)) :
    newCounts r.weekCap r.totalCap r.total r.week false (-count) =
      if r.totalCap ≠ 0 ∧ r.totalCap < r.total - count then
        ((r.totalCap : Int), (r.weekCap : Int))
      else (((r.total - count : Nat) : Int), max 0 (int32 r.week)) := by
  have hweek : int32 r.weekCap = r.weekCap := int32_of_lt h.weekCap_lt
  have htotal : int32 r.totalCap = r.totalCap := int32_of_lt h.totalCap_lt
  have hlt := h.total_lt
  rw [Int.natAbs_neg, Int.natAbs_natCast] at hlt
  have hsum : int32 (int32 r.total + -(count : Int)) = (r.total : Int) - count := by
    rw [int32_int32_add]
    exact int32_of_range (by omega) (by omega)
  have hadd : int32 (int32 r.week + max 0 (-(count : Int))) = int32 r.week := by
    rw [int32_int32_add, max_eq_left (by omega), add_zero]
  have hbelow : r.weekCap ≠ 0 → max 0 (int32 r.week) ≤ (r.weekCap : Int) := by
    intro hcap
    have hle := h.week_le hcap
    have hcaplt := h.weekCap_lt
    rw [int32_of_lt (by omega)]
    omega
  have hfree : ¬ (r.weekCap ≠ 0 ∧ (r.weekCap : Int) < max 0 (int32 r.week)) := by
    rintro ⟨hcap, hlimit⟩
    exact absurd (hbelow hcap) (not_le.mpr hlimit)
  unfold newCounts
  simp only [hweek, htotal, hsum, hadd, true_and]
  rw [if_neg hfree]
  clear hfree hbelow hadd hsum
  generalize max 0 (int32 (r.week : Int)) = week
  split_ifs <;> simp <;> omega

/-! ### What a call writes -/

variable {total week : Nat}

/-- The total after a call. -/
def totalAfter (r : Reading) (count : Int) : Nat := ((r.written count).map Prod.fst).getD r.total

/-- The week count after a call. -/
def weekAfter (r : Reading) (count : Int) : Nat := ((r.written count).map Prod.snd).getD r.week

theorem Valid.mono {count' : Nat} (h : r.Valid count) (hle : count' ≤ count) : r.Valid count' := by
  have hlt := h.total_lt
  refine ⟨h.weekCap_lt, h.totalCap_lt, h.week_le, ?_⟩
  rw [Int.natAbs_natCast] at hlt ⊢
  omega

theorem Valid.clamped (h : r.Valid count) : r.Valid (r.clamped count) :=
  h.mono (r.clamped_le count)

theorem written_of_full {count : Int} (h : r.Full) (hpos : 0 < count) : r.written count = none := by
  unfold written
  exact if_pos ⟨h.1, h.2, hpos⟩

theorem written_of_counts {count : Int} (h : ¬ (r.Full ∧ 0 < count))
    (hcounts : newCounts r.weekCap r.totalCap r.total r.week false
      (clampCount r.weekCap r.totalCap false count) = ((total : Int), (week : Int)))
    (htotal : total < 2 ^ 31) (hweek : week < 2 ^ 31) :
    r.written count = if total = r.total then none else some (total, week) := by
  unfold written
  rw [if_neg fun hfull => h ⟨⟨hfull.1, hfull.2.1⟩, hfull.2.2⟩]
  simp only [hcounts, uint32_of_lt (Nat.lt_trans htotal (by decide)),
    uint32_of_lt (Nat.lt_trans hweek (by decide))]
  by_cases hsame : total = r.total
  · rw [if_neg (not_not.mpr hsame), if_pos hsame]
  · rw [if_pos hsame, if_neg hsame]

theorem after_of_written {count : Int}
    (h : r.written count = if total = r.total then none else some (total, week)) :
    r.totalAfter count = total ∧ r.weekAfter count = if total = r.total then r.week else week := by
  unfold totalAfter weekAfter
  rw [h]
  by_cases hsame : total = r.total
  · rw [if_pos hsame, if_pos hsame]
    exact ⟨hsame.symm, rfl⟩
  · rw [if_neg hsame, if_neg hsame]
    exact ⟨rfl, rfl⟩

/-- A gain that is not limited by the total cap is counted up to the week cap. -/
theorem written_gain (h : r.Valid count) (hfull : ¬ r.Full)
    (hfits : r.week + r.clamped count < 2 ^ 31) :
    ∃ total week, r.written count = (if total = r.total then none else some (total, week)) ∧
      (if r.totalCap ≠ 0 ∧ r.totalCap < r.total + r.weekRoom (r.clamped count) then
        total = r.totalCap ∧ week = r.weekCap
      else total = r.total + r.weekRoom (r.clamped count) ∧
        week = r.week + r.weekRoom (r.clamped count)) := by
  have hcounts := newCounts_gain h.clamped hfits
  rw [← clampCount_gain h] at hcounts
  have hlt := h.clamped.total_lt
  rw [Int.natAbs_natCast] at hlt
  have hroom : r.weekRoom (r.clamped count) ≤ r.clamped count := by
    unfold weekRoom
    split_ifs <;> omega
  by_cases hcapped : r.totalCap ≠ 0 ∧ r.totalCap < r.total + r.weekRoom (r.clamped count)
  · rw [if_pos hcapped] at hcounts
    refine ⟨r.totalCap, r.weekCap, ?_, by rw [if_pos hcapped]; exact ⟨rfl, rfl⟩⟩
    exact written_of_counts (fun hno => hfull hno.1) hcounts h.totalCap_lt h.weekCap_lt
  · rw [if_neg hcapped] at hcounts
    refine ⟨_, _, ?_, by rw [if_neg hcapped]; exact ⟨rfl, rfl⟩⟩
    exact written_of_counts (fun hno => hfull hno.1) hcounts (by omega) (by omega)

/-- A gain whose week count overflows. -/
theorem written_overflow (h : r.Valid count) (hfull : ¬ r.Full)
    (hover : 2 ^ 31 ≤ r.week + r.clamped count) :
    ∃ total week, r.written count = (if total = r.total then none else some (total, week)) ∧
      (if r.totalCap ≠ 0 ∧ r.totalCap < r.total + r.clamped count then
        total = r.totalCap ∧ week = r.weekCap
      else total = r.total + r.clamped count ∧ week < 2 ^ 31) := by
  obtain ⟨z, hz, hzlt, -, hcounts⟩ := newCounts_overflow h.clamped hover
  rw [← clampCount_gain h] at hcounts
  have hlt := h.clamped.total_lt
  rw [Int.natAbs_natCast] at hlt
  obtain ⟨week, rfl⟩ := Int.eq_ofNat_of_zero_le hz
  by_cases hcapped : r.totalCap ≠ 0 ∧ r.totalCap < r.total + r.clamped count
  · rw [if_pos hcapped] at hcounts
    refine ⟨r.totalCap, r.weekCap, ?_, by rw [if_pos hcapped]; exact ⟨rfl, rfl⟩⟩
    exact written_of_counts (fun hno => hfull hno.1) hcounts h.totalCap_lt h.weekCap_lt
  · rw [if_neg hcapped] at hcounts
    refine ⟨_, week, ?_, by rw [if_neg hcapped]; exact ⟨rfl, by omega⟩⟩
    exact written_of_counts (fun hno => hfull hno.1) hcounts (by omega) (by omega)

/-- Spending. -/
theorem written_spending (h : r.Valid (-count)) :
    ∃ total week, r.written (-count) = (if total = r.total then none else some (total, week)) ∧
      (if r.totalCap ≠ 0 ∧ r.totalCap < r.total - count then
        total = r.totalCap ∧ week = r.weekCap
      else total = r.total - count ∧ (week : Int) = max 0 (int32 r.week)) := by
  have hcounts := newCounts_spending h
  rw [← clampCount_spending h (by omega)] at hcounts
  have hlt := h.total_lt
  rw [Int.natAbs_neg, Int.natAbs_natCast] at hlt
  have hmax : max 0 (int32 (r.week : Int)) < 2 ^ 31 := max_lt (by decide) (int32_lt _)
  obtain ⟨week, hweek⟩ := Int.eq_ofNat_of_zero_le (le_max_left 0 (int32 (r.week : Int)))
  rw [hweek] at hcounts hmax
  have hnot : ¬ (r.Full ∧ (0 : Int) < -count) := by omega
  by_cases hcapped : r.totalCap ≠ 0 ∧ r.totalCap < r.total - count
  · rw [if_pos hcapped] at hcounts
    refine ⟨r.totalCap, r.weekCap, ?_, by rw [if_pos hcapped]; exact ⟨rfl, rfl⟩⟩
    exact written_of_counts hnot hcounts h.totalCap_lt h.weekCap_lt
  · rw [if_neg hcapped] at hcounts
    refine ⟨_, week, ?_, by rw [if_neg hcapped]; exact ⟨rfl, hweek.symm⟩⟩
    exact written_of_counts hnot hcounts (by omega) (by omega)

theorem exact_gain (hpos : 0 < count) :
    r.Exact count total week ↔
      (r.totalCap ≠ 0 → total ≤ max r.total r.totalCap) ∧ total < 2 ^ 31 ∧
        (r.weekCap ≠ 0 → week ≤ r.weekCap) ∧ (week : Int) - r.week = (total : Int) - r.total := by
  constructor
  · rintro ⟨hle, hlt, hweek, hgained, -⟩
    rw [if_pos (Int.natCast_pos.mpr hpos)] at hgained
    exact ⟨hle, hlt, hweek, hgained⟩
  · rintro ⟨hle, hlt, hweek, hgained⟩
    refine ⟨hle, hlt, hweek, ?_, fun hneg => by omega⟩
    rw [if_pos (Int.natCast_pos.mpr hpos)]
    exact hgained

theorem exact_spending (hpos : 0 < count) :
    r.Exact (-count) total week ↔
      (r.totalCap ≠ 0 → total ≤ max r.total r.totalCap) ∧ total < 2 ^ 31 ∧
        (r.weekCap ≠ 0 → week ≤ r.weekCap) ∧ week = r.week ∧ total = r.total - count := by
  constructor
  · rintro ⟨hle, hlt, hweek, hgained, hspent⟩
    rw [if_neg (by omega)] at hgained
    have hspent := hspent (by omega)
    exact ⟨hle, hlt, hweek, by omega, by omega⟩
  · rintro ⟨hle, hlt, hweek, hgained, hspent⟩
    refine ⟨hle, hlt, hweek, ?_, fun _ => by omega⟩
    rw [if_neg (by omega)]
    omega

/-- A gain is exact exactly when it fits. -/
theorem exact_gain_iff (h : r.Valid count) (hpos : 0 < count) :
    r.Exact count (r.totalAfter count) (r.weekAfter count) ↔ r.GainFits count := by
  have hlt := h.total_lt
  rw [Int.natAbs_natCast] at hlt
  have hcle := r.clamped_le count
  have hcpos : 0 < r.clamped count := clamped_pos hpos
  have hcaplt := h.weekCap_lt
  have htcap := h.totalCap_lt
  by_cases hfull : r.Full
  · have hnone := written_of_full hfull (Int.natCast_pos.mpr hpos)
    unfold totalAfter weekAfter
    rw [hnone]
    refine ⟨fun _ => .inl hfull, fun _ => ?_⟩
    constructor
    · exact fun _ => le_max_left _ _
    · exact (by omega : r.total < 2 ^ 31)
    · exact h.week_le
    · simp
    · omega
  · have hroom : 0 < r.weekRoom (r.clamped count) ∧
        r.weekRoom (r.clamped count) ≤ r.clamped count ∧
        (r.weekCap ≠ 0 → r.week + r.weekRoom (r.clamped count) ≤ r.weekCap) := by
      have hle := h.week_le
      unfold Full at hfull
      unfold weekRoom
      split_ifs <;> omega
    have hle := h.week_le
    by_cases hfits : r.week + r.clamped count < 2 ^ 31
    · obtain ⟨total, week, hwritten, hvalues⟩ := written_gain h hfull hfits
      obtain ⟨htotal, hweek⟩ := after_of_written hwritten
      rw [htotal, hweek, exact_gain hpos]
      unfold GainFits Full AtCap at *
      generalize r.weekRoom (r.clamped count) = inc at *
      split_ifs at hvalues ⊢ <;> omega
    · obtain ⟨total, week, hwritten, hvalues⟩ := written_overflow h hfull (Nat.not_lt.mp hfits)
      obtain ⟨htotal, hweek⟩ := after_of_written hwritten
      rw [htotal, hweek, exact_gain hpos]
      unfold GainFits Full AtCap at *
      generalize r.weekRoom (r.clamped count) = inc at *
      split_ifs at hvalues ⊢ <;> omega

/-- Spending is exact exactly when it fits. -/
theorem exact_spending_iff (h : r.Valid (-count)) (hpos : 0 < count) :
    r.Exact (-count) (r.totalAfter (-count)) (r.weekAfter (-count)) ↔ r.SpendingFits count := by
  obtain ⟨total, week, hwritten, hvalues⟩ := written_spending h
  obtain ⟨htotal, hweek⟩ := after_of_written hwritten
  have hlt := h.total_lt
  rw [Int.natAbs_neg, Int.natAbs_natCast] at hlt
  have hle := h.week_le
  have hcaplt := h.weekCap_lt
  have hkept : r.week < 2 ^ 31 → max 0 (int32 (r.week : Int)) = r.week := by
    intro hfits
    rw [int32_of_lt hfits]
    exact max_eq_right (Int.natCast_nonneg _)
  have hlost : max 0 (int32 (r.week : Int)) < 2 ^ 31 := max_lt (by decide) (int32_lt _)
  rw [htotal, hweek, exact_spending hpos]
  unfold SpendingFits
  generalize max 0 (int32 (r.week : Int)) = kept at *
  split_ifs at hvalues ⊢ <;> omega

/-- The week cap does not limit the count that a cap of its own has limited any further. -/
theorem room_clamped (r : Reading) (count : Nat) : r.room (r.clamped count) = r.room count := by
  unfold room weekRoom clamped
  simp only
  split_ifs <;> omega

/-- A gain changes nothing exactly when a cap is reached. -/
theorem written_eq_none_iff (h : r.Valid count) (hpos : 0 < count) :
    r.written count = none ↔ r.Full ∨ r.AtCap := by
  have hcpos : 0 < r.clamped count := clamped_pos hpos
  have hle := h.week_le
  by_cases hfull : r.Full
  · exact ⟨fun _ => .inl hfull, fun _ => written_of_full hfull (Int.natCast_pos.mpr hpos)⟩
  · have hroom : 0 < r.weekRoom (r.clamped count) := by
      unfold Full at hfull
      unfold weekRoom
      split_ifs <;> omega
    by_cases hfits : r.week + r.clamped count < 2 ^ 31
    · obtain ⟨total, week, hwritten, hvalues⟩ := written_gain h hfull hfits
      rw [hwritten, ite_eq_left_iff, or_iff_right hfull]
      unfold AtCap
      simp only [reduceCtorEq, imp_false, not_not]
      split_ifs at hvalues <;> omega
    · obtain ⟨total, week, hwritten, hvalues⟩ := written_overflow h hfull (Nat.not_lt.mp hfits)
      rw [hwritten, ite_eq_left_iff, or_iff_right hfull]
      unfold AtCap
      simp only [reduceCtorEq, imp_false, not_not]
      split_ifs at hvalues <;> omega

/-- A gain within the signed range is credited what the caps leave of it. -/
theorem credit_of_range (h : r.Valid count) (hpos : 0 < count)
    (hfits : r.week + r.clamped count < 2 ^ 31) : r.totalAfter count - r.total = r.room count := by
  rw [← room_clamped]
  by_cases hfull : r.Full
  · unfold totalAfter
    rw [written_of_full hfull (Int.natCast_pos.mpr hpos)]
    unfold room weekRoom
    unfold Full at hfull
    simp only [Option.map_none, Option.getD_none]
    split_ifs <;> omega
  · obtain ⟨total, week, hwritten, hvalues⟩ := written_gain h hfull hfits
    rw [(after_of_written hwritten).1]
    unfold room
    split_ifs at hvalues ⊢ <;> omega

/-- A gain that fits is credited what the caps leave of it. -/
theorem credit_of_gainFits (h : r.Valid count) (hpos : 0 < count) (hgain : r.GainFits count) :
    r.totalAfter count - r.total = r.room count := by
  by_cases hfits : r.week + r.clamped count < 2 ^ 31
  · exact credit_of_range h hpos hfits
  · by_cases hfull : r.Full
    · unfold totalAfter
      rw [written_of_full hfull (Int.natCast_pos.mpr hpos)]
      unfold room weekRoom
      unfold Full at hfull
      simp only [Option.map_none, Option.getD_none]
      split_ifs <;> omega
    · obtain ⟨total, week, hwritten, hvalues⟩ := written_overflow h hfull (Nat.not_lt.mp hfits)
      rw [(after_of_written hwritten).1, ← room_clamped]
      have hcaplt := h.weekCap_lt
      have hle := h.week_le
      unfold room weekRoom
      unfold GainFits Full AtCap at *
      split_ifs at hvalues ⊢ <;> omega

/-- A gain that fits lowers no total of a currency with a week cap. -/
theorem le_totalAfter (h : r.Valid count) (hpos : 0 < count) (hcap : r.weekCap ≠ 0)
    (hgain : r.GainFits count) : r.total ≤ r.totalAfter count := by
  have hle := h.week_le hcap
  have hcpos : 0 < r.clamped count := clamped_pos hpos
  by_cases hfull : r.Full
  · unfold totalAfter
    rw [written_of_full hfull (Int.natCast_pos.mpr hpos)]
    exact Nat.le_refl _
  · by_cases hfits : r.week + r.clamped count < 2 ^ 31
    · obtain ⟨total, week, hwritten, hvalues⟩ := written_gain h hfull hfits
      rw [(after_of_written hwritten).1]
      unfold GainFits Full AtCap at *
      split_ifs at hvalues <;> omega
    · obtain ⟨total, week, hwritten, hvalues⟩ := written_overflow h hfull (Nat.not_lt.mp hfits)
      rw [(after_of_written hwritten).1]
      unfold GainFits Full AtCap at *
      split_ifs at hvalues <;> omega

/-- Spending credits nothing. -/
theorem totalAfter_spending_le (h : r.Valid (-count)) : r.totalAfter (-count) ≤ r.total := by
  obtain ⟨total, week, hwritten, hvalues⟩ := written_spending h
  rw [(after_of_written hwritten).1]
  split_ifs at hvalues <;> omega

end Reading
end Cataclysm.Currency
