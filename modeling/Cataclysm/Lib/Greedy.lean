import Mathlib

/-!
# Filling places in order

A quantity is spread over places of some capacity in the order in which they are visited, until
nothing is left. No place is used twice. What is left depends on the set of places alone.
-/

namespace Greedy

variable {α : Type*}

/-- The places that are used with their shares, and what is left. -/
structure Filling (α : Type*) where
  shares : List (α × Nat)
  left : Nat

namespace Filling

def start (total : Nat) : Filling α := ⟨[], total⟩

/-- A quantity of `total` was spread over visited places, and all of them are full as long as
something is left. -/
structure Sound (capacity : α → Nat) (total : Nat) (visited : List α) (f : Filling α) : Prop where
  distinct : (f.shares.map Prod.fst).Nodup
  share : ∀ share ∈ f.shares, share.1 ∈ visited ∧ 0 < share.2 ∧ share.2 ≤ capacity share.1
  sum : (f.shares.map Prod.snd).sum + f.left = total
  full : 0 < f.left → ∀ a ∈ visited, (a, capacity a) ∈ f.shares

variable {capacity : α → Nat} {f : Filling α} {a : α} {places places' : List α} {total : Nat}

theorem sound_start (capacity : α → Nat) (total : Nat) : (start total).Sound capacity total [] where
  distinct := List.nodup_nil
  share := fun _ hshare => absurd hshare List.not_mem_nil
  sum := Nat.zero_add total
  full := fun _ _ ha => absurd ha List.not_mem_nil

variable [DecidableEq α]

def visit (capacity : α → Nat) (f : Filling α) (a : α) : Filling α :=
  if f.left = 0 ∨ a ∈ f.shares.map Prod.fst then f
  else ⟨f.shares ++ [(a, min (capacity a) f.left)], f.left - min (capacity a) f.left⟩

def run (capacity : α → Nat) (f : Filling α) (places : List α) : Filling α :=
  places.foldl (visit capacity) f

theorem run_append (capacity : α → Nat) (f : Filling α) (places places' : List α) :
    f.run capacity (places ++ places') = (f.run capacity places).run capacity places' :=
  List.foldl_append

theorem run_of_left_eq_zero (h : f.left = 0) (places : List α) : f.run capacity places = f := by
  induction places with
  | nil => rfl
  | cons a rest ih =>
    rw [run, List.foldl_cons, visit, if_pos (Or.inl h)]
    exact ih

theorem Sound.visit (h : f.Sound capacity total places) (ha : 0 < capacity a) :
    (f.visit capacity a).Sound capacity total (places ++ [a]) := by
  rw [Filling.visit]
  split
  · next hskip =>
      refine ⟨h.distinct, ?_, h.sum, ?_⟩
      · intro share hshare
        obtain ⟨hin, hbounds⟩ := h.share share hshare
        exact ⟨List.mem_append_left [a] hin, hbounds⟩
      · intro hleft b hb
        rcases List.mem_append.mp hb with hb | hb
        · exact h.full hleft b hb
        · obtain ⟨share, hshare, hfst⟩ := List.mem_map.mp (hskip.resolve_left hleft.ne')
          rw [List.mem_singleton.mp hb, ← hfst]
          exact h.full hleft share.1 (h.share share hshare).1
  · next hskip =>
      push Not at hskip
      obtain ⟨hleft, hnew⟩ := hskip
      have hmin : 0 < min (capacity a) f.left := lt_min ha (Nat.pos_of_ne_zero hleft)
      have hle : min (capacity a) f.left ≤ f.left := min_le_right _ _
      refine ⟨?_, ?_, ?_, ?_⟩
      · rw [List.map_append, List.map_singleton]
        exact h.distinct.append (List.nodup_singleton a) (List.disjoint_singleton.mpr hnew)
      · intro share hshare
        rcases List.mem_append.mp hshare with hold | hlast
        · obtain ⟨hin, hbounds⟩ := h.share share hold
          exact ⟨List.mem_append_left [a] hin, hbounds⟩
        · rw [List.mem_singleton.mp hlast]
          exact ⟨List.mem_append_right places (List.mem_singleton_self a), hmin, min_le_left _ _⟩
      · have hsum := h.sum
        simp only [List.map_append, List.map_singleton, List.sum_append, List.sum_singleton]
        omega
      · intro hpos b hb
        dsimp only at hpos ⊢
        rcases List.mem_append.mp hb with hb | hb
        · exact List.mem_append_left _ (h.full (by omega) b hb)
        · have hfits : min (capacity a) f.left = capacity a := by omega
          rw [List.mem_singleton.mp hb, hfits]
          exact List.mem_append_right _ (List.mem_singleton_self _)

theorem Sound.run (h : f.Sound capacity total places) (hpos : ∀ a ∈ places', 0 < capacity a) :
    (f.run capacity places').Sound capacity total (places ++ places') := by
  induction places' generalizing f places with
  | nil =>
    rw [List.append_nil]
    exact h
  | cons a rest ih =>
    have hrest := ih (h.visit (hpos a List.mem_cons_self))
      fun b hb => hpos b (List.mem_cons_of_mem a hb)
    rw [List.append_assoc] at hrest
    exact hrest

theorem sum_capacity (h : (f.shares.map Prod.fst).Nodup) :
    (f.shares.map fun share => capacity share.1).sum =
      ∑ a ∈ (f.shares.map Prod.fst).toFinset, capacity a := by
  rw [List.sum_toFinset capacity h, List.map_map]
  rfl

theorem Sound.sum_le (h : f.Sound capacity total places) :
    (f.shares.map Prod.snd).sum ≤ ∑ a ∈ places.toFinset, capacity a := by
  have hsub : (f.shares.map Prod.fst).toFinset ⊆ places.toFinset := by
    intro a ha
    obtain ⟨share, hshare, rfl⟩ := List.mem_map.mp (List.mem_toFinset.mp ha)
    exact List.mem_toFinset.mpr (h.share share hshare).1
  calc (f.shares.map Prod.snd).sum
      ≤ (f.shares.map fun share => capacity share.1).sum :=
        List.sum_le_sum fun share hshare => (h.share share hshare).2.2
    _ = ∑ a ∈ (f.shares.map Prod.fst).toFinset, capacity a := sum_capacity h.distinct
    _ ≤ ∑ a ∈ places.toFinset, capacity a :=
        Finset.sum_le_sum_of_subset hsub

/-- As long as something is left, every visited place is full. -/
theorem Sound.sum_eq (h : f.Sound capacity total places) (hleft : 0 < f.left) :
    (f.shares.map Prod.snd).sum = ∑ a ∈ places.toFinset, capacity a := by
  have hfull : ∀ share ∈ f.shares, share.2 = capacity share.1 := by
    intro share hshare
    have hin := h.full hleft share.1 (h.share share hshare).1
    exact congrArg Prod.snd (List.inj_on_of_nodup_map h.distinct hshare hin rfl)
  have hsame : (f.shares.map Prod.fst).toFinset = places.toFinset := by
    ext a
    rw [List.mem_toFinset, List.mem_toFinset]
    constructor
    · intro ha
      obtain ⟨share, hshare, rfl⟩ := List.mem_map.mp ha
      exact (h.share share hshare).1
    · intro ha
      exact List.mem_map.mpr ⟨_, h.full hleft a ha, rfl⟩
  calc (f.shares.map Prod.snd).sum
      = (f.shares.map fun share => capacity share.1).sum := by
        rw [List.map_congr_left hfull]
    _ = ∑ a ∈ (f.shares.map Prod.fst).toFinset, capacity a := sum_capacity h.distinct
    _ = ∑ a ∈ places.toFinset, capacity a := by rw [hsame]

/-- What is left when all places were visited. -/
theorem Sound.left_eq (h : f.Sound capacity total places) :
    f.left = total - ∑ a ∈ places.toFinset, capacity a := by
  have hsum := h.sum
  rcases Nat.eq_zero_or_pos f.left with hzero | hpos
  · have hle := h.sum_le
    omega
  · have heq := h.sum_eq hpos
    omega

end Filling
end Greedy
