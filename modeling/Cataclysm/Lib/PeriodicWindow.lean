import Mathlib

/-!
# Windows that return every period

A window of a given length opens at the start of every period. The distance to the next boundary
is the rest of the window inside it and the rest of the period outside it, and up to that boundary
nothing changes.
-/

namespace PeriodicWindow

/-- The window is open `x` after it first opened. -/
def Open (length period x : Int) : Prop := x % period < length

instance (length period x : Int) : Decidable (Open length period x) :=
  inferInstanceAs (Decidable (x % period < length))

/-- What is left until the window closes, or until it opens again. -/
def toBoundary (length period x : Int) : Int :=
  if Open length period x then length - x % period else period - x % period

variable {length period x y : Int}

theorem toBoundary_pos (hperiod : 0 < period) : 0 < toBoundary length period x := by
  have hbelow := Int.emod_lt_of_pos x hperiod
  unfold toBoundary
  split
  case isTrue hopen =>
    have : x % period < length := hopen
    omega
  case isFalse => omega

theorem toBoundary_le (hperiod : 0 < period) : toBoundary length period x ≤ max length period := by
  have hnonneg := Int.emod_nonneg x hperiod.ne'
  unfold toBoundary
  split <;> omega

/-- The rest of a later moment, when no period ends before it. -/
theorem emod_add_of_lt (hperiod : 0 < period) (hy : 0 ≤ y) (hlt : x % period + y < period) :
    (x + y) % period = x % period + y := by
  have hnonneg := Int.emod_nonneg x hperiod.ne'
  calc (x + y) % period = (x % period + y) % period := (Int.emod_add_emod x period y).symm
    _ = x % period + y := Int.emod_eq_of_lt (by omega) hlt

/-- Before the boundary the window stays as it is. -/
theorem open_add_iff (hperiod : 0 < period) (hy : 0 ≤ y)
    (hlt : y < toBoundary length period x) :
    Open length period (x + y) ↔ Open length period x := by
  by_cases hopen : Open length period x
  · have hstays : Open length period (x + y) := by
      have hrest : y < length - x % period := by simpa [toBoundary, hopen] using hlt
      by_cases hend : x % period + y < period
      · have := emod_add_of_lt hperiod hy hend
        unfold Open
        omega
      · -- the window is longer than the period
        have := Int.emod_lt_of_pos (x + y) hperiod
        unfold Open
        omega
    exact iff_of_true hstays hopen
  · have hrest : y < period - x % period := by simpa [toBoundary, hopen] using hlt
    have hsame : (x + y) % period = x % period + y := emod_add_of_lt hperiod hy (by omega)
    have hclosed : ¬Open length period (x + y) := by
      unfold Open at hopen ⊢
      omega
    exact iff_of_false hclosed hopen

end PeriodicWindow
