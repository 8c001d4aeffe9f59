import Mathlib

/-!
# Durations as text

A duration in seconds is written as days, hours, minutes and seconds with a unit behind each
number, and read back by adding up the numbers times their units.

## Implementation notes

Texts are lists of characters. The reader's variables are `uint32`; its digits and its units are
two kinds of step, and a number with its unit is read by both. The longer German units of the
writer end in text that the reader refuses.
-/

namespace Cataclysm.Utilities

/-- A string. -/
abbrev Text := List Char

/-- The value a 32-bit variable keeps. -/
def uint32 (n : Nat) : Nat := n % 2 ^ 32

def minute : Nat := 60
def hour : Nat := minute * 60
def day : Nat := hour * 24

/-- A number as an output stream prints it. -/
def decimal (n : Nat) : Text := Nat.toDigits 10 n

/-- A number and its unit, in the short or the long form. -/
def unitText (n : Nat) (shortText : Bool) (short long : String) : Text :=
  decimal n ++ (if shortText then short else long).toList

def secsToTimeString (timeInSecs : Nat) (shortText hoursOnly : Bool) : Text :=
  let secs := timeInSecs % minute
  let minutes := timeInSecs % hour / minute
  let hours := timeInSecs % day / hour
  let days := timeInSecs / day
  (if days ≠ 0 then unitText days shortText "d" " Tag(en) " else []) ++
    (if hours ≠ 0 ∨ hoursOnly then unitText hours shortText "h" " Stunde(n) " else []) ++
    if hoursOnly then []
    else
      (if minutes ≠ 0 then unitText minutes shortText "m" " Minute(n) " else []) ++
        if secs ≠ 0 ∨ (days = 0 ∧ hours = 0 ∧ minutes = 0) then
          unitText secs shortText "s" " Sekunde(n)."
        else []

/-- The seconds of a unit letter. -/
def multiplier : Char → Option Nat
  | 'd' => some day
  | 'h' => some hour
  | 'm' => some minute
  | 's' => some 1
  | _ => none

/-- The loop of the reader: the seconds so far, the number being read and the text left. -/
def readTime (secs buffer : Nat) : Text → Nat
  | [] => secs
  | c :: rest =>
    if c.isDigit then
      readTime secs (uint32 (uint32 (buffer * 10) + (c.toNat - '0'.toNat))) rest
    else
      match multiplier c with
      | some unit => readTime (uint32 (secs + uint32 (buffer * unit))) 0 rest
      | none => 0

def timeStringToSecs (timestring : Text) : Nat := readTime 0 0 timestring

/-! ## Reading a number and its unit -/

theorem readTime_digits {digits : Text} (hdigits : ∀ c ∈ digits, c.isDigit) (secs buffer : Nat)
    (rest : Text) :
    readTime secs (uint32 buffer) (digits ++ rest) =
      readTime secs (uint32 (Nat.ofDigitChars 10 digits buffer)) rest := by
  induction digits generalizing buffer with
  | nil => simp
  | cons c more ih =>
    have hc : c.isDigit = true := hdigits c List.mem_cons_self
    have hmore := ih (fun d hd => hdigits d (List.mem_cons_of_mem c hd))
      (10 * buffer + (c.toNat - '0'.toNat))
    have hstep : uint32 (uint32 (uint32 buffer * 10) + (c.toNat - '0'.toNat)) =
        uint32 (10 * buffer + (c.toNat - '0'.toNat)) := by
      simp only [uint32]
      omega
    calc readTime secs (uint32 buffer) (c :: (more ++ rest))
        = readTime secs (uint32 (uint32 (uint32 buffer * 10) + (c.toNat - '0'.toNat)))
            (more ++ rest) := by simp [readTime, hc]
      _ = readTime secs (uint32 (10 * buffer + (c.toNat - '0'.toNat))) (more ++ rest) := by
            rw [hstep]
      _ = readTime secs (uint32 (Nat.ofDigitChars 10 (c :: more) buffer)) rest := by
            rw [hmore, Nat.ofDigitChars_cons]

theorem readTime_decimal (secs n : Nat) (rest : Text) :
    readTime secs 0 (decimal n ++ rest) = readTime secs (uint32 n) rest := by
  have hdigits : ∀ c ∈ decimal n, c.isDigit := fun c hc =>
    Nat.isDigit_of_mem_toDigits (by decide) (by decide) hc
  have hread := readTime_digits hdigits secs 0 rest
  rwa [decimal, Nat.ofDigitChars_ten_toDigits] at hread

theorem not_isDigit_of_multiplier {c : Char} {unit : Nat} (h : multiplier c = some unit) :
    c.isDigit = false := by
  unfold multiplier at h
  split at h <;> first | rfl | cases h

/-- A number and its unit add the number's seconds, however the variables wrap. -/
theorem readTime_unit {c : Char} {unit : Nat} (h : multiplier c = some unit) (secs n : Nat)
    (rest : Text) :
    readTime (uint32 secs) 0 (decimal n ++ c :: rest) =
      readTime (uint32 (secs + n * unit)) 0 rest := by
  have hstep : uint32 (uint32 secs + uint32 (uint32 n * unit)) = uint32 (secs + n * unit) := by
    simp [uint32, Nat.add_mod, Nat.mul_mod]
  calc readTime (uint32 secs) 0 (decimal n ++ c :: rest)
      = readTime (uint32 secs) (uint32 n) (c :: rest) := readTime_decimal _ _ _
    _ = readTime (uint32 (uint32 secs + uint32 (uint32 n * unit))) 0 rest := by
        simp [readTime, not_isDigit_of_multiplier h, h]
    _ = readTime (uint32 (secs + n * unit)) 0 rest := by rw [hstep]

/-- A unit that is left out when its number is zero adds the same seconds. -/
theorem readTime_optional {c : Char} {unit : Nat} (h : multiplier c = some unit) (secs n : Nat)
    {written : Prop} [Decidable written] (hwritten : ¬written → n = 0) (rest : Text) :
    readTime (uint32 secs) 0 ((if written then decimal n ++ [c] else []) ++ rest) =
      readTime (uint32 (secs + n * unit)) 0 rest := by
  by_cases hw : written
  · simpa [hw] using readTime_unit h secs n rest
  · simp [hw, hwritten hw]

/-! ## The round trip -/

theorem secsToTimeString_short (t : Nat) :
    secsToTimeString t true false =
      (if t / day ≠ 0 then decimal (t / day) ++ ['d'] else []) ++
        ((if t % day / hour ≠ 0 then decimal (t % day / hour) ++ ['h'] else []) ++
          ((if t % hour / minute ≠ 0 then decimal (t % hour / minute) ++ ['m'] else []) ++
            ((if t % minute ≠ 0 ∨ (t / day = 0 ∧ t % day / hour = 0 ∧ t % hour / minute = 0) then
              decimal (t % minute) ++ ['s'] else []) ++ []))) := by
  simp [secsToTimeString, unitText]

/-- The reader adds up the units the writer has split the duration into. -/
theorem timeStringToSecs_short (t : Nat) :
    timeStringToSecs (secsToTimeString t true false) = uint32 t := by
  have hsplit : 0 + t / day * day + t % day / hour * hour + t % hour / minute * minute +
      t % minute * 1 = t := by
    simp only [day, hour, minute]
    omega
  have hsecs : ¬(t % minute ≠ 0 ∨ (t / day = 0 ∧ t % day / hour = 0 ∧ t % hour / minute = 0)) →
      t % minute = 0 := fun hnot => by_contra fun hsome => hnot (.inl hsome)
  calc timeStringToSecs (secsToTimeString t true false)
      = readTime (uint32 0) 0 (secsToTimeString t true false) := rfl
    _ = readTime (uint32 (0 + t / day * day + t % day / hour * hour +
          t % hour / minute * minute + t % minute * 1)) 0 [] := by
        rw [secsToTimeString_short, readTime_optional (by rfl : multiplier 'd' = some day) _ _
            not_not.1, readTime_optional (by rfl : multiplier 'h' = some hour) _ _ not_not.1,
          readTime_optional (by rfl : multiplier 'm' = some minute) _ _ not_not.1,
          readTime_optional (by rfl : multiplier 's' = some 1) _ _ hsecs]
    _ = uint32 t := by rw [hsplit]; rfl

/-- A duration of 32 bits survives being written in the short form and read back. -/
theorem timeStringToSecs_secsToTimeString (t : Nat) (h : t < 2 ^ 32) :
    timeStringToSecs (secsToTimeString t true false) = t := by
  rw [timeStringToSecs_short, uint32, Nat.mod_eq_of_lt h]

/-- A day and seven seconds. -/
theorem day_seconds_round_trip :
    86407 < 2 ^ 32 ∧ timeStringToSecs (secsToTimeString 86407 true false) = 86407 :=
  ⟨by decide, timeStringToSecs_secsToTimeString 86407 (by decide)⟩

end Cataclysm.Utilities
