import Mathlib

/-!
# Counts after one change

When one place of a list or one number of a range changes, the count of what has a property changes
by what that place counted before and counts now.
-/

namespace Counting

variable {α : Type*}

theorem countP_modify {l : List α} {i : Nat} {a : α} (h : l[i]? = some a) (f : α → α)
    (p : α → Bool) :
    (l.modify i f).countP p + (if p a then 1 else 0) = l.countP p + if p (f a) then 1 else 0 := by
  induction l generalizing i with
  | nil => cases h
  | cons b rest ih =>
    cases i with
    | zero =>
      cases h
      rw [List.modify_zero_cons, List.countP_cons, List.countP_cons]
      omega
    | succ i =>
      have hrest := ih h
      rw [List.modify_succ_cons, List.countP_cons, List.countP_cons]
      omega

theorem countP_of_ne {l : List α} (hnodup : l.Nodup) {a : α} (ha : a ∈ l) {p q : α → Bool}
    (h : ∀ b ∈ l, b ≠ a → q b = p b) :
    l.countP q + (if p a then 1 else 0) = l.countP p + if q a then 1 else 0 := by
  induction l with
  | nil => cases ha
  | cons b rest ih =>
    obtain ⟨hnotin, hrest⟩ := List.nodup_cons.mp hnodup
    rw [List.countP_cons, List.countP_cons]
    rcases List.mem_cons.mp ha with rfl | hmem
    · have hsame : rest.countP q = rest.countP p := by
        refine List.countP_congr fun c hc => ?_
        rw [h c (List.mem_cons_of_mem _ hc) (ne_of_mem_of_not_mem hc hnotin)]
      omega
    · have htail := ih hrest hmem fun c hc => h c (List.mem_cons_of_mem _ hc)
      have hhead := h b List.mem_cons_self (ne_of_mem_of_not_mem hmem hnotin).symm
      rw [hhead]
      omega

theorem countP_range_of_ne {n j : Nat} (hj : j < n) {p q : Nat → Bool}
    (h : ∀ i, i ≠ j → q i = p i) :
    (List.range n).countP q + (if p j then 1 else 0) =
      (List.range n).countP p + if q j then 1 else 0 := by
  induction n with
  | zero => cases hj
  | succ n ih =>
    rw [List.range_succ, List.countP_append, List.countP_append, List.countP_singleton,
      List.countP_singleton]
    obtain rfl | hlt := Nat.eq_or_lt_of_le (Nat.le_of_lt_succ hj)
    · have hsame : (List.range j).countP q = (List.range j).countP p := by
        refine List.countP_congr fun i hin => ?_
        rw [h i (List.mem_range.mp hin).ne]
      omega
    · have hprevious := ih hlt
      rw [h n hlt.ne']
      omega

/-- Among the numbers of a list without repetitions, those with a property are counted in any range
that holds them. -/
theorem countP_range_mem {n : Nat} {chosen : List Nat} (hsub : chosen.Sublist (List.range n))
    (p : Nat → Bool) :
    (List.range n).countP (fun i => p i && decide (i ∈ chosen)) = chosen.countP p := by
  have hnodup : chosen.Nodup := hsub.nodup List.nodup_range
  have hfilter : (List.range n).filter (fun i => decide (i ∈ chosen)) = chosen := by
    have hsorted : chosen.Pairwise (· < ·) := List.pairwise_lt_range.sublist hsub
    refine List.Perm.eq_of_pairwise ?_ (List.pairwise_lt_range.filter _) hsorted ?_
    · intro a b _ _ hab hba
      exact absurd hab (Nat.lt_asymm hba)
    · refine (List.perm_ext_iff_of_nodup (List.nodup_range.filter _) hnodup).mpr fun i => ?_
      rw [List.mem_filter, decide_eq_true_eq, and_iff_right_iff_imp]
      exact fun hin => hsub.subset hin
  rw [← List.countP_filter, hfilter]

/-- Where each place counts as much as it does for two properties together, the list does. -/
theorem countP_add {l : List α} {p q r : α → Bool}
    (h : ∀ a ∈ l, (if r a then 1 else 0) = (if p a then 1 else 0) + if q a then 1 else 0) :
    l.countP r = l.countP p + l.countP q := by
  induction l with
  | nil => rfl
  | cons a rest ih =>
    have hhead := h a List.mem_cons_self
    have hrest := ih fun b hin => h b (List.mem_cons_of_mem a hin)
    rw [List.countP_cons, List.countP_cons, List.countP_cons]
    omega

theorem countP_eq_range (l : List α) (p : α → Bool) :
    l.countP p = (List.range l.length).countP fun i => (l[i]?).any p := by
  induction l with
  | nil => rfl
  | cons a rest ih =>
    rw [List.length_cons, List.range_succ_eq_map, List.countP_cons, List.countP_cons,
      List.countP_map, ih]
    rfl

end Counting
