import Mathlib

/-!
# Ordered multimaps

A multimap is a list of entries sorted by their keys. A new entry stands after those with the same
key. A cursor splits a multimap where an iterator stands: what is inserted before it is not met by
the iterator any more.
-/

variable {K V : Type*} [LinearOrder K]

/-- Entries in the order of their keys, equal keys in the order of insertion. -/
structure Multimap (K V : Type*) [LinearOrder K] where
  entries : List (K × V)
  sorted : entries.Pairwise fun e e' => e.1 ≤ e'.1

namespace Multimap

variable {e : K × V}

def empty : Multimap K V := ⟨[], List.Pairwise.nil⟩

/-- After all entries whose key does not exceed that of the new one. -/
def insertEntry (e : K × V) : List (K × V) → List (K × V)
  | [] => [e]
  | a :: rest => if a.1 ≤ e.1 then a :: insertEntry e rest else e :: a :: rest

theorem perm_insertEntry (e : K × V) (l : List (K × V)) : (insertEntry e l).Perm (e :: l) := by
  induction l with
  | nil => exact List.Perm.refl _
  | cons a rest ih =>
    rw [insertEntry]
    split
    · exact (ih.cons a).trans (List.Perm.swap e a rest)
    · exact List.Perm.refl _

theorem sorted_insertEntry (e : K × V) {l : List (K × V)}
    (h : l.Pairwise fun e e' => e.1 ≤ e'.1) :
    (insertEntry e l).Pairwise fun e e' => e.1 ≤ e'.1 := by
  induction l with
  | nil => exact List.pairwise_singleton _ _
  | cons a rest ih =>
    obtain ⟨hfirst, hrest⟩ := List.pairwise_cons.mp h
    rw [insertEntry]
    split
    · next hle =>
        refine List.pairwise_cons.mpr ⟨fun b hb => ?_, ih hrest⟩
        obtain rfl | hb := List.mem_cons.mp ((perm_insertEntry e rest).mem_iff.mp hb)
        · exact hle
        · exact hfirst b hb
    · next hnot =>
        have hlt : e.1 < a.1 := not_le.mp hnot
        refine List.pairwise_cons.mpr ⟨fun b hb => ?_, h⟩
        obtain rfl | hb := List.mem_cons.mp hb
        · exact hlt.le
        · exact hlt.le.trans (hfirst b hb)

theorem insertEntry_append_of_le {l : List (K × V)} (l' : List (K × V)) (h : ∀ a ∈ l, a.1 ≤ e.1) :
    insertEntry e (l ++ l') = l ++ insertEntry e l' := by
  induction l with
  | nil => rfl
  | cons a rest ih =>
    rw [List.cons_append, insertEntry, if_pos (h a List.mem_cons_self),
      ih fun b hb => h b (List.mem_cons_of_mem a hb), List.cons_append]

theorem insertEntry_append_of_lt (l : List (K × V)) {l' : List (K × V)} (h : ∀ a ∈ l', e.1 < a.1) :
    insertEntry e (l ++ l') = insertEntry e l ++ l' := by
  induction l with
  | nil =>
    cases l' with
    | nil => rfl
    | cons a rest =>
      have hlt : e.1 < a.1 := h a List.mem_cons_self
      exact if_neg (not_le.mpr hlt)
  | cons a rest ih =>
    rw [List.cons_append, insertEntry, insertEntry]
    split
    · rw [ih, List.cons_append]
    · rfl

def insert (m : Multimap K V) (e : K × V) : Multimap K V :=
  ⟨insertEntry e m.entries, sorted_insertEntry e m.sorted⟩

/-- Without the first entry. -/
def tail (m : Multimap K V) : Multimap K V := ⟨m.entries.tail, m.sorted.tail⟩

def insertAll (m : Multimap K V) (es : List (K × V)) : Multimap K V := es.foldl insert m

theorem perm_insertAll (m : Multimap K V) (es : List (K × V)) :
    (m.insertAll es).entries.Perm (m.entries ++ es) := by
  induction es generalizing m with
  | nil => exact List.Perm.of_eq (List.append_nil _).symm
  | cons e rest ih =>
    calc
      List.Perm ((m.insert e).insertAll rest).entries ((m.insert e).entries ++ rest) :=
        ih (m.insert e)
      List.Perm _ (e :: m.entries ++ rest) := (perm_insertEntry e m.entries).append_right rest
      List.Perm _ (m.entries ++ e :: rest) := List.perm_middle.symm

/-! ### Iterators -/

variable {passed rest : List (K × V)}

/-- The entries before an iterator and those from it on, with a new entry. Where the iterator is at
the end or at a larger key, the new entry stands before it. -/
def insertAround (e : K × V) (passed : List (K × V)) : List (K × V) → List (K × V) × List (K × V)
  | [] => (insertEntry e passed, [])
  | a :: rest =>
    if a.1 ≤ e.1 then (passed, insertEntry e (a :: rest)) else (insertEntry e passed, a :: rest)

theorem insertAround_append (h : (passed ++ rest).Pairwise fun e e' => e.1 ≤ e'.1) :
    (insertAround e passed rest).1 ++ (insertAround e passed rest).2 =
      insertEntry e (passed ++ rest) := by
  obtain ⟨-, hafter, hbetween⟩ := List.pairwise_append.mp h
  cases rest with
  | nil => exact (List.append_nil _).trans (congrArg _ (List.append_nil _).symm)
  | cons a rest =>
    rw [insertAround]
    split
    · next hle =>
        refine (insertEntry_append_of_le (a :: rest) fun b hb => ?_).symm
        exact (hbetween b hb a List.mem_cons_self).trans hle
    · next hnot =>
        have hlt : e.1 < a.1 := not_le.mp hnot
        refine (insertEntry_append_of_lt passed fun b hb => ?_).symm
        obtain rfl | hb := List.mem_cons.mp hb
        · exact hlt
        · exact hlt.trans_le ((List.pairwise_cons.mp hafter).1 b hb)

theorem sorted_insertAround (h : (passed ++ rest).Pairwise fun e e' => e.1 ≤ e'.1) :
    ((insertAround e passed rest).1 ++ (insertAround e passed rest).2).Pairwise
      fun e e' => e.1 ≤ e'.1 := by
  rw [insertAround_append h]
  exact sorted_insertEntry e h

/-- A multimap with an iterator. -/
structure Cursor (K V : Type*) [LinearOrder K] where
  passed : List (K × V)
  rest : List (K × V)
  sorted : (passed ++ rest).Pairwise fun e e' => e.1 ≤ e'.1

namespace Cursor

variable {e : K × V} {c : Cursor K V}

def start (m : Multimap K V) : Cursor K V := ⟨[], m.entries, m.sorted⟩

def finish (c : Cursor K V) : Multimap K V := ⟨c.passed ++ c.rest, c.sorted⟩

theorem sorted_erase (h : (passed ++ rest).Pairwise fun e e' => e.1 ≤ e'.1) :
    (passed ++ rest.tail).Pairwise fun e e' => e.1 ≤ e'.1 :=
  h.sublist ((List.tail_sublist _).append_left _)

theorem sorted_next (h : (passed ++ rest).Pairwise fun e e' => e.1 ≤ e'.1) :
    (passed ++ rest.take 1 ++ rest.tail).Pairwise fun e e' => e.1 ≤ e'.1 := by
  rwa [List.append_assoc, ← List.drop_one, List.take_append_drop]

/-- The iterator moves on and its entry is erased. -/
def erase (c : Cursor K V) : Cursor K V := ⟨c.passed, c.rest.tail, sorted_erase c.sorted⟩

def next (c : Cursor K V) : Cursor K V :=
  ⟨c.passed ++ c.rest.take 1, c.rest.tail, sorted_next c.sorted⟩

def insert (c : Cursor K V) (e : K × V) : Cursor K V :=
  ⟨(insertAround e c.passed c.rest).1, (insertAround e c.passed c.rest).2,
    sorted_insertAround c.sorted⟩

def insertAll (c : Cursor K V) (es : List (K × V)) : Cursor K V := es.foldl insert c

end Cursor

end Multimap
