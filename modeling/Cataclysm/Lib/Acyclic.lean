import Mathlib

/-!
# Relations without cycles

A relation has no cycle when nothing leads back to itself. Of finitely many links this is so exactly
when ranks fall along every link, and then a recursion along the links ends. A map to at most one
next element is a relation of its own: what lies on a cycle of a part of it never leaves that part.
-/

open Relation

variable {α : Type*} {r s : α → α → Prop}

/-- Nothing leads back to itself. -/
def Acyclic (r : α → α → Prop) : Prop := ∀ a, ¬ TransGen r a a

namespace Acyclic

theorem mono (h : Acyclic s) (hle : ∀ a b, r a b → s a b) : Acyclic r :=
  fun a hcycle => h a (TransGen.mono hle a a hcycle)

/-- Ranks that fall along every link fall along every chain. -/
theorem rank_lt_of_transGen {rank : α → Nat} (hrank : ∀ a b, r a b → rank b < rank a) {a b : α}
    (h : TransGen r a b) : rank b < rank a := by
  induction h with
  | single hlink => exact hrank _ _ hlink
  | tail _ hlink ih => exact (hrank _ _ hlink).trans ih

theorem of_rank {rank : α → Nat} (hrank : ∀ a b, r a b → rank b < rank a) : Acyclic r :=
  fun _ hcycle => Nat.lt_irrefl _ (rank_lt_of_transGen hrank hcycle)

/-- Finitely many links without a cycle have ranks: the number of elements that one leads to. -/
theorem exists_rank (h : Acyclic r) (targets : Finset α) (hfin : ∀ a b, r a b → b ∈ targets) :
    ∃ rank : α → Nat, ∀ a b, r a b → rank b < rank a := by
  classical
  refine ⟨fun a => (targets.filter fun c => TransGen r a c).card, fun a b hlink => ?_⟩
  apply Finset.card_lt_card
  apply Finset.ssubset_iff_subset_ne.mpr
  constructor
  · intro c hc
    rw [Finset.mem_filter] at hc ⊢
    exact ⟨hc.1, TransGen.head hlink hc.2⟩
  · intro heq
    have hb : b ∈ targets.filter fun c => TransGen r a c :=
      Finset.mem_filter.mpr ⟨hfin a b hlink, TransGen.single hlink⟩
    rw [← heq, Finset.mem_filter] at hb
    exact h b hb.2

/-- Of finitely many links. -/
theorem iff_exists_rank (targets : Finset α) (hfin : ∀ a b, r a b → b ∈ targets) :
    Acyclic r ↔ ∃ rank : α → Nat, ∀ a b, r a b → rank b < rank a :=
  ⟨fun h => h.exists_rank targets hfin, fun ⟨_, hrank⟩ => of_rank hrank⟩

/-- A cycle of a relation is one of its converse. -/
theorem swap (h : Acyclic r) : Acyclic fun a b => r b a := by
  intro a hcycle
  exact h a (TransGen.swap a a hcycle)

end Acyclic

/-! ### Maps to at most one next element -/

/-- The link from an element to the next. -/
def Next (f : α → Option α) (a b : α) : Prop := f a = some b

namespace Next

variable {f g : α → Option α} {a b : α}

/-- From a cycle of a part of the map, the whole map leads nowhere else. -/
theorem reaches_in_part (hpart : ∀ a b, Next g a b → Next f a b) (hcycle : TransGen (Next g) a a)
    (h : ReflTransGen (Next f) a b) :
    ReflTransGen (Next g) a b ∧ TransGen (Next g) b b := by
  induction h with
  | refl => exact ⟨ReflTransGen.refl, hcycle⟩
  | @tail c d hreach hlink ih =>
    obtain ⟨hreach', hcycle'⟩ := ih
    obtain ⟨e, hfirst, hback⟩ := TransGen.head'_iff.mp hcycle'
    have heq : d = e := Option.some.inj (hlink.symm.trans (hpart c e hfirst))
    subst heq
    exact ⟨hreach'.tail hfirst, TransGen.tail' hback hfirst⟩

/-- An element without a next one is not reached from a cycle. -/
theorem ne_none_of_reaches (hpart : ∀ a b, Next g a b → Next f a b)
    (hcycle : TransGen (Next g) a a) (h : ReflTransGen (Next f) a b) : g b ≠ none := by
  intro hnone
  obtain ⟨c, hfirst, -⟩ := TransGen.head'_iff.mp (reaches_in_part hpart hcycle h).2
  rw [Next, hnone] at hfirst
  exact Option.some_ne_none c hfirst.symm

end Next
