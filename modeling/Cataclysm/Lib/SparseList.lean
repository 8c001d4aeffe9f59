import Mathlib.Data.List.Basic

/-!
# Sparse lists

A list with many zeros is stored as the flags of its nonzero entries together
with these entries alone. Scattering the stored entries over the flags gives the
list back, and an encoding whose entries are all nonzero is the only one of its
list.
-/

namespace SparseList

variable {α : Type*} [Zero α] [DecidableEq α]

/-- One flag for each entry, set where the entry is stored. -/
def flags (entries : List α) : List Bool := entries.map (· ≠ 0)

/-- The entries that are stored. -/
def stored (entries : List α) : List α := entries.filter (· ≠ 0)

/-- Take one entry of the input for each set flag and a zero for the others. -/
def scatter : List Bool → List α → Option (List α × List α)
  | [], input => some ([], input)
  | false :: bits, input => (scatter bits input).map fun (out, rest) => (0 :: out, rest)
  | true :: _, [] => none
  | true :: bits, a :: input => (scatter bits input).map fun (out, rest) => (a :: out, rest)

@[simp] theorem flags_nil : flags ([] : List α) = [] := rfl

@[simp] theorem stored_nil : stored ([] : List α) = [] := rfl

@[simp] theorem flags_cons (a : α) (entries : List α) :
    flags (a :: entries) = decide (a ≠ 0) :: flags entries := rfl

@[simp] theorem stored_zero_cons (entries : List α) : stored (0 :: entries) = stored entries := by
  simp [stored]

theorem stored_cons {a : α} (h : a ≠ 0) (entries : List α) :
    stored (a :: entries) = a :: stored entries := by
  simp [stored, h]

@[simp] theorem flags_length (entries : List α) : (flags entries).length = entries.length := by
  simp [flags]

/-- Scattering what was stored gives the list back and leaves what follows. -/
theorem scatter_stored (entries rest : List α) :
    scatter (flags entries) (stored entries ++ rest) = some (entries, rest) := by
  induction entries with
  | nil => simp [scatter]
  | cons a entries ih =>
    by_cases h : a = 0
    · subst h
      simp [scatter, ih]
    · simp [scatter, stored_cons h, h, ih]

/-- Whatever scattering takes from the input, without zeros it is the encoding
of the list that comes out. -/
theorem scatter_eq_some {bits : List Bool} {input out rest : List α}
    (h : scatter bits input = some (out, rest)) :
    ∃ taken, input = taken ++ rest ∧ out.length = bits.length ∧
      (0 ∉ taken → flags out = bits ∧ stored out = taken) := by
  induction bits generalizing input out with
  | nil =>
    cases h
    exact ⟨[], by simp⟩
  | cons bit bits ih =>
    cases bit with
    | false =>
      simp only [scatter, Option.map_eq_some_iff, Prod.mk.injEq] at h
      obtain ⟨⟨tail, _⟩, htail, rfl, rfl⟩ := h
      obtain ⟨taken, hinput, hlen, hcode⟩ := ih htail
      refine ⟨taken, hinput, by simp [hlen], fun hzero => ?_⟩
      obtain ⟨hflags, hstored⟩ := hcode hzero
      simp [hflags, hstored]
    | true =>
      cases input with
      | nil => simp [scatter] at h
      | cons a input =>
        simp only [scatter, Option.map_eq_some_iff, Prod.mk.injEq] at h
        obtain ⟨⟨tail, _⟩, htail, rfl, rfl⟩ := h
        obtain ⟨taken, hinput, hlen, hcode⟩ := ih htail
        refine ⟨a :: taken, by simp [hinput], by simp [hlen], fun hzero => ?_⟩
        obtain ⟨ha, hrest⟩ := List.mem_cons.not.mp hzero |> not_or.mp
        obtain ⟨hflags, hstored⟩ := hcode hrest
        have hne : a ≠ 0 := fun heq => ha heq.symm
        exact ⟨by simp [hflags, hne], by simp [stored_cons hne, hstored]⟩

end SparseList
