import Mathlib

/-!
# Runs of a step function

A run feeds a list of actions to a step function. A run is admissible when every
action is allowed in the state it meets. What admissible steps preserve holds in
every state of an admissible run; the preserved property may also speak of the
actions taken so far.
-/

namespace Runs

variable {S A : Type*} (step : S → A → S) (ok : S → A → Prop)

/-- The state after a list of actions. -/
def run (s : S) (actions : List A) : S := actions.foldl step s

/-- Every action is allowed in the state it meets. -/
def Admissible : S → List A → Prop
  | _, [] => True
  | s, a :: rest => ok s a ∧ Admissible (step s a) rest

instance decidableAdmissible [∀ s a, Decidable (ok s a)] :
    ∀ s actions, Decidable (Admissible step ok s actions)
  | _, [] => isTrue trivial
  | s, a :: rest =>
    have := decidableAdmissible (step s a) rest
    inferInstanceAs (Decidable (ok s a ∧ Admissible step ok (step s a) rest))

variable {step ok}

variable {s : S} {actions before : List A} {P : List A → S → Prop}

@[simp] theorem run_nil (s : S) : run step s [] = s := rfl

@[simp] theorem run_cons (s : S) (a : A) (rest : List A) :
    run step s (a :: rest) = run step (step s a) rest := rfl

theorem Admissible.append_left {xs ys : List A} (h : Admissible step ok s (xs ++ ys)) :
    Admissible step ok s xs := by
  induction xs generalizing s with
  | nil => trivial
  | cons a rest ih => exact ⟨h.1, ih h.2⟩

/-- An action of an admissible run was allowed in the state that the actions before it reach. -/
theorem Admissible.allowed {a : A} (h : Admissible step ok s actions)
    (hbefore : before ++ [a] <+: actions) : ok (run step s before) a := by
  obtain ⟨after, rfl⟩ := hbefore
  have hupto := h.append_left
  clear h
  induction before generalizing s with
  | nil => exact hupto.1
  | cons b rest ih => exact ih hupto.2

/-- A property of history and state that admissible steps preserve holds at the end. -/
theorem Admissible.holds_at_end {history : List A}
    (hstep : ∀ {history s a}, P history s → ok s a → P (history ++ [a]) (step s a))
    (hinit : P history s) (h : Admissible step ok s actions) :
    P (history ++ actions) (run step s actions) := by
  induction actions generalizing s history with
  | nil => simpa using hinit
  | cons a rest ih =>
    have hnext := ih (hstep hinit h.1) h.2
    simpa using hnext

/-- Such a property holds in every state that the run reaches. -/
theorem Admissible.holds_throughout
    (hstep : ∀ {history s a}, P history s → ok s a → P (history ++ [a]) (step s a))
    (hinit : P [] s) (h : Admissible step ok s actions) (hbefore : before <+: actions) :
    P before (run step s before) := by
  obtain ⟨after, rfl⟩ := hbefore
  exact h.append_left.holds_at_end hstep hinit

/-- A run is admissible when an invariant allows every action. -/
theorem admissible_of_invariant {P : S → Prop} (hok : ∀ {s a}, P s → ok s a)
    (hstep : ∀ {s a}, P s → P (step s a)) (hinit : P s) (actions : List A) :
    Admissible step ok s actions := by
  induction actions generalizing s with
  | nil => trivial
  | cons a rest ih => exact ⟨hok hinit, ih (hstep hinit)⟩

/-- An invariant of the states alone. -/
theorem Admissible.invariant {P : S → Prop} (hstep : ∀ {s a}, P s → ok s a → P (step s a))
    (hinit : P s) (h : Admissible step ok s actions) (hbefore : before <+: actions) :
    P (run step s before) :=
  h.holds_throughout (P := fun _ s => P s) hstep hinit hbefore

/-- When an admissible step is just one that preserves a property, a run is admissible exactly when
the property holds in every state it reaches. -/
theorem admissible_iff_throughout {I P : List A → S → Prop}
    (hI : ∀ {history s} (a : A), I history s → I (history ++ [a]) (step s a))
    (hP : ∀ {history s} (a : A), I history s → P history s →
      (P (history ++ [a]) (step s a) ↔ ok s a))
    {s : S} {history : List A} (hinit : I history s) (hstart : P history s) (actions : List A) :
    (∀ before, before <+: actions → P (history ++ before) (run step s before)) ↔
      Admissible step ok s actions := by
  induction actions generalizing s history with
  | nil => simpa [Admissible] using hstart
  | cons a rest ih =>
    have hstep := hP a hinit hstart
    constructor
    · intro h
      have hnext := h [a] (List.cons_prefix_cons.mpr ⟨rfl, List.nil_prefix⟩)
      refine ⟨hstep.mp hnext, (ih (hI a hinit) hnext).mp fun before hbefore => ?_⟩
      simpa using h (a :: before) (List.cons_prefix_cons.mpr ⟨rfl, hbefore⟩)
    · intro h before hbefore
      cases before with
      | nil => simpa using hstart
      | cons b before =>
        obtain ⟨rfl, hrest⟩ := List.cons_prefix_cons.mp hbefore
        simpa using (ih (hI b hinit) (hstep.mpr h.1)).mpr h.2 before hrest

/-- When allowed steps preserve an invariant and any other step breaks what it implies, a run is
admissible exactly when that holds in every state it reaches. -/
theorem throughout_iff_admissible {I P : S → Prop} (hP : ∀ {s}, I s → P s)
    (hstep : ∀ {s a}, I s → ok s a → I (step s a))
    (hbreak : ∀ {s a}, I s → ¬ ok s a → ¬ P (step s a)) (hinit : I s) (actions : List A) :
    (∀ before, before <+: actions → P (run step s before)) ↔ Admissible step ok s actions := by
  constructor
  · intro h
    induction actions generalizing s with
    | nil => trivial
    | cons a rest ih =>
      have hok : ok s a := by
        by_contra hnot
        exact hbreak hinit hnot (h [a] (List.cons_prefix_cons.mpr ⟨rfl, List.nil_prefix⟩))
      refine ⟨hok, ih (hstep hinit hok) ?_⟩
      intro before hbefore
      exact h (a :: before) (List.cons_prefix_cons.mpr ⟨rfl, hbefore⟩)
  · intro h before hbefore
    exact hP (h.invariant (fun hs hok => hstep hs hok) hinit hbefore)

/-- The sum of what the single steps of a run count. -/
def tally (step : S → A → S) (f : S → A → Nat) : S → List A → Nat
  | _, [] => 0
  | s, a :: rest => f s a + tally step f (step s a) rest

theorem tally_zero (step : S → A → S) (s : S) (actions : List A) :
    tally step (fun _ _ => 0) s actions = 0 := by
  induction actions generalizing s with
  | nil => rfl
  | cons a rest ih => rw [tally, ih]

/-- A measure that every admissible step balances is balanced over an admissible run. -/
theorem Admissible.balance {P : S → Prop} (measure : S → Nat) (gain loss : S → A → Nat)
    (hstep : ∀ {s a}, P s → ok s a →
      P (step s a) ∧ measure (step s a) + loss s a = measure s + gain s a) (hinit : P s)
    (h : Admissible step ok s actions) :
    measure (run step s actions) + tally step loss s actions =
      measure s + tally step gain s actions := by
  induction actions generalizing s with
  | nil => rfl
  | cons a rest ih =>
    obtain ⟨hnext, hbalance⟩ := hstep hinit h.1
    have hrest := ih hnext h.2
    rw [run_cons, tally, tally]
    omega

end Runs
