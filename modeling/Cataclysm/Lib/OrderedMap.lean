import Mathlib

/-!
# Ordered maps

A map is the list of its entries in increasing order of the keys, as an iteration
visits them. An update splits the list at the key. Up to order, an entry that is
found stands before the map without it; counts over the entries follow from that.
-/

/-- Entries with strictly increasing keys. -/
structure OrderedMap (K V : Type*) [LinearOrder K] where
  entries : List (K × V)
  sorted : entries.Pairwise fun e e' => e.1 < e'.1

namespace OrderedMap

variable {K V : Type*} [LinearOrder K]

variable {m : OrderedMap K V} {k : K} {v : V}

instance [DecidableEq V] : DecidableEq (OrderedMap K V) := fun m m' =>
  decidable_of_iff (m.entries = m'.entries) (by cases m; cases m'; simp)

def empty : OrderedMap K V := ⟨[], List.Pairwise.nil⟩

def find? (m : OrderedMap K V) (k : K) : Option V := m.entries.lookup k

def contains (m : OrderedMap K V) (k : K) : Bool := (m.find? k).isSome

def keys (m : OrderedMap K V) : List K := m.entries.map Prod.fst

def erase (m : OrderedMap K V) (k : K) : OrderedMap K V :=
  ⟨m.entries.filter fun e => e.1 ≠ k, m.sorted.filter _⟩

theorem sorted_split {l : List (K × V)} (h : l.Pairwise fun e e' => e.1 < e'.1) (k : K) (v : V) :
    (l.filter (fun e => e.1 < k) ++ (k, v) :: l.filter fun e => k < e.1).Pairwise
      fun e e' => e.1 < e'.1 := by
  refine List.pairwise_append.mpr ⟨h.filter _, List.pairwise_cons.mpr ⟨?_, h.filter _⟩, ?_⟩
  · intro e he
    simpa using (List.mem_filter.mp he).2
  · intro e he e' he'
    have hlt : e.1 < k := by simpa using (List.mem_filter.mp he).2
    rcases List.mem_cons.mp he' with rfl | htail
    · exact hlt
    · have hgt : k < e'.1 := by simpa using (List.mem_filter.mp htail).2
      exact hlt.trans hgt

/-- The map with `v` stored under `k`, in place of what stood there. -/
def insert (m : OrderedMap K V) (k : K) (v : V) : OrderedMap K V :=
  ⟨m.entries.filter (fun e => e.1 < k) ++ (k, v) :: m.entries.filter fun e => k < e.1,
    sorted_split m.sorted k v⟩

/-- The map with the entries that pass a test. -/
def filter (m : OrderedMap K V) (p : K → V → Bool) : OrderedMap K V :=
  ⟨m.entries.filter fun e => p e.1 e.2, m.sorted.filter _⟩

/-- The map with every value changed in place. -/
def mapValues (m : OrderedMap K V) (f : K → V → V) : OrderedMap K V :=
  ⟨m.entries.map fun e => (e.1, f e.1 e.2), List.pairwise_map.mpr m.sorted⟩

/-- The map with other values under the same keys. -/
def map {W : Type*} (m : OrderedMap K V) (f : V → W) : OrderedMap K W :=
  ⟨m.entries.map fun e => (e.1, f e.2), List.pairwise_map.mpr m.sorted⟩

/-- The map without its first entries, as long as they pass a test. -/
def dropWhile (m : OrderedMap K V) (p : K → V → Bool) : OrderedMap K V :=
  ⟨m.entries.dropWhile fun e => p e.1 e.2, m.sorted.sublist (List.dropWhile_sublist _)⟩

/-- A set of keys, as a map without values. -/
def ofKeys (ks : List K) : OrderedMap K Unit :=
  ks.foldl (fun m k => m.insert k ()) empty

@[ext] theorem ext {m' : OrderedMap K V} (h : m.entries = m'.entries) : m = m' := by
  cases m
  cases m'
  simpa using h

@[simp] theorem find?_empty (k : K) : (empty : OrderedMap K V).find? k = none := rfl

theorem nodup_keys (m : OrderedMap K V) : m.keys.Nodup := by
  rw [keys, List.Nodup, List.pairwise_map]
  exact m.sorted.imp fun h => h.ne

/-- An entry is what a look-up of its key finds. -/
theorem find?_eq_some_iff :
    m.find? k = some v ↔ (k, v) ∈ m.entries := by
  have hnodup : m.entries.Pairwise fun e e' => e.1 ≠ e'.1 := m.sorted.imp fun h => h.ne
  rw [find?]
  generalize m.entries = l at hnodup
  induction l with
  | nil => simp
  | cons e rest ih =>
    obtain ⟨hhead, htail⟩ := List.pairwise_cons.mp hnodup
    rw [List.lookup_cons, List.mem_cons]
    by_cases hk : k = e.1
    · have hrest : (k, v) ∉ rest := fun h => hhead (k, v) h hk.symm
      subst hk
      simp [Prod.ext_iff, hrest, eq_comm]
    · have hbeq : (k == e.1) = false := beq_false_of_ne hk
      simp [hbeq, hk, Prod.ext_iff, ih htail]

theorem mem_erase {e : K × V} : e ∈ (m.erase k).entries ↔ e ∈ m.entries ∧ e.1 ≠ k := by
  simp [erase]

theorem mem_insert {e : K × V} :
    e ∈ (m.insert k v).entries ↔ e = (k, v) ∨ e ∈ (m.erase k).entries := by
  rw [mem_erase]
  simp only [insert, List.mem_append, List.mem_cons, List.mem_filter, decide_eq_true_eq]
  constructor
  · rintro (⟨h, hlt⟩ | h | ⟨h, hgt⟩)
    · exact Or.inr ⟨h, hlt.ne⟩
    · exact Or.inl h
    · exact Or.inr ⟨h, hgt.ne'⟩
  · rintro (h | ⟨h, hne⟩)
    · exact Or.inr (Or.inl h)
    · rcases lt_or_gt_of_ne hne with hlt | hgt
      · exact Or.inl ⟨h, hlt⟩
      · exact Or.inr (Or.inr ⟨h, hgt⟩)

theorem find?_insert (m : OrderedMap K V) (k k' : K) (v : V) :
    (m.insert k v).find? k' = if k' = k then some v else m.find? k' := by
  ext w
  rw [find?_eq_some_iff, mem_insert, mem_erase]
  split
  · next h => simp [h, eq_comm]
  · next h => simp [h, find?_eq_some_iff]

@[simp] theorem find?_insert_self (m : OrderedMap K V) (k : K) (v : V) :
    (m.insert k v).find? k = some v := by
  simp [find?_insert]

theorem find?_eq_none_iff :
    m.find? k = none ↔ ∀ v, (k, v) ∉ m.entries := by
  simp [Option.eq_none_iff_forall_ne_some, find?_eq_some_iff]

theorem find?_erase (m : OrderedMap K V) (k k' : K) :
    (m.erase k).find? k' = if k' = k then none else m.find? k' := by
  ext w
  rw [find?_eq_some_iff, mem_erase]
  split
  · next h => simp [h]
  · next h => simp [h, find?_eq_some_iff]

theorem find?_mapValues (m : OrderedMap K V) (f : K → V → V) (k : K) :
    (m.mapValues f).find? k = (m.find? k).map (f k) := by
  ext w
  rw [find?_eq_some_iff, Option.map_eq_some_iff, mapValues, List.mem_map]
  constructor
  · rintro ⟨e, he, heq⟩
    obtain ⟨rfl, rfl⟩ := Prod.ext_iff.mp heq
    exact ⟨e.2, find?_eq_some_iff.mpr he, rfl⟩
  · rintro ⟨v, hv, rfl⟩
    exact ⟨(k, v), find?_eq_some_iff.mp hv, rfl⟩

theorem find?_map {W : Type*} (m : OrderedMap K V) (f : V → W) (k : K) :
    (m.map f).find? k = (m.find? k).map f := by
  ext w
  rw [find?_eq_some_iff, Option.map_eq_some_iff, map, List.mem_map]
  constructor
  · rintro ⟨e, he, heq⟩
    obtain ⟨rfl, rfl⟩ := Prod.ext_iff.mp heq
    exact ⟨e.2, find?_eq_some_iff.mpr he, rfl⟩
  · rintro ⟨v, hv, rfl⟩
    exact ⟨(k, v), find?_eq_some_iff.mp hv, rfl⟩

theorem contains_map {W : Type*} (m : OrderedMap K V) (f : V → W) (k : K) :
    (m.map f).contains k = m.contains k := by
  rw [contains, find?_map, Option.isSome_map, contains]

theorem map_erase {W : Type*} (m : OrderedMap K V) (f : V → W) (k : K) :
    (m.erase k).map f = (m.map f).erase k := by
  ext1
  exact (@List.filter_map _ _ (fun e => (e.1, f e.2)) (fun e => decide (e.1 ≠ k)) m.entries).symm

theorem map_dropWhile {W : Type*} (m : OrderedMap K V) (f : V → W) (p : K → W → Bool) :
    (m.map f).dropWhile p = (m.dropWhile fun k v => p k (f v)).map f := by
  ext1
  exact List.dropWhile_map ..

theorem map_filter {W : Type*} (m : OrderedMap K V) (f : V → W) (p : K → W → Bool) :
    (m.map f).filter p = (m.filter fun k v => p k (f v)).map f := by
  ext1
  exact List.filter_map

theorem filter_congr {p p' : K → V → Bool} (h : ∀ e ∈ m.entries, p e.1 e.2 = p' e.1 e.2) :
    m.filter p = m.filter p' := by
  ext1
  exact List.filter_congr h

theorem dropWhile_congr {p p' : K → V → Bool} (h : ∀ e ∈ m.entries, p e.1 e.2 = p' e.1 e.2) :
    m.dropWhile p = m.dropWhile p' := by
  have hlist : ∀ l : List (K × V), (∀ e ∈ l, p e.1 e.2 = p' e.1 e.2) →
      (l.dropWhile fun e => p e.1 e.2) = l.dropWhile fun e => p' e.1 e.2 := by
    intro l hl
    induction l with
    | nil => rfl
    | cons e rest ih =>
      rw [List.dropWhile_cons, List.dropWhile_cons, hl e List.mem_cons_self,
        ih fun e' hin => hl e' (List.mem_cons_of_mem _ hin)]
  ext1
  exact hlist m.entries h

theorem erase_of_find?_eq_none (h : m.find? k = none) : m.erase k = m := by
  ext1
  refine List.filter_eq_self.mpr fun e he => ?_
  have hne : e.1 ≠ k := by
    rintro rfl
    exact find?_eq_none_iff.mp h e.2 he
  simpa using hne

theorem contains_of_find? (h : m.find? k = some v) : m.contains k = true := by
  rw [contains, h]
  rfl

theorem contains_insert (m : OrderedMap K V) (k k' : K) (v : V) :
    (m.insert k v).contains k' = (k' = k || m.contains k') := by
  rw [contains, find?_insert, contains]
  by_cases h : k' = k
  · simp [h]
  · simp [h]

theorem contains_erase (m : OrderedMap K V) (k k' : K) :
    (m.erase k).contains k' = (k' ≠ k && m.contains k') := by
  rw [contains, find?_erase, contains]
  by_cases h : k' = k
  · simp [h]
  · simp [h]

theorem mem_keys : k ∈ m.keys ↔ m.contains k = true := by
  rw [keys, List.mem_map, contains, Option.isSome_iff_exists]
  constructor
  · rintro ⟨e, he, rfl⟩
    exact ⟨e.2, find?_eq_some_iff.mpr he⟩
  · rintro ⟨v, hv⟩
    exact ⟨(k, v), find?_eq_some_iff.mp hv, rfl⟩

/-- One value stored under several keys. -/
theorem find?_foldl_insert (ks : List K) (v : V) (m : OrderedMap K V) (k : K) :
    (ks.foldl (fun m k => m.insert k v) m).find? k = if k ∈ ks then some v else m.find? k := by
  induction ks generalizing m with
  | nil => simp
  | cons k' rest ih =>
    rw [List.foldl_cons, ih, find?_insert]
    by_cases hrest : k ∈ rest
    · simp [hrest]
    · by_cases hk : k = k'
      · simp [hk]
      · simp [hrest, hk]

theorem find?_foldl_erase (ks : List K) (m : OrderedMap K V) (k : K) :
    (ks.foldl (fun m k => m.erase k) m).find? k = if k ∈ ks then none else m.find? k := by
  induction ks generalizing m with
  | nil => simp
  | cons k' rest ih =>
    rw [List.foldl_cons, ih, find?_erase]
    by_cases hrest : k ∈ rest
    · simp [hrest]
    · simp [hrest, List.mem_cons]

theorem find?_filter_keys (m : OrderedMap K V) (p : K → Bool) (k : K) :
    (m.filter fun k _ => p k).find? k = if p k then m.find? k else none := by
  ext v
  rw [find?_eq_some_iff]
  by_cases hp : p k = true
  · rw [if_pos hp, find?_eq_some_iff]
    simp [filter, hp]
  · rw [if_neg hp]
    simp [filter, hp]

/-- A fold over the entries that each time changes what is stored under the key of the entry. -/
theorem find?_foldl_entries {W : Type*} (m : OrderedMap K V)
    {g : OrderedMap K W → K × V → OrderedMap K W} {f : K × V → Option W → Option W}
    (hg : ∀ t e k, (g t e).find? k = if k = e.1 then f e (t.find? k) else t.find? k)
    (t : OrderedMap K W) (k : K) :
    (m.entries.foldl g t).find? k = (m.find? k).elim (t.find? k) fun v => f (k, v) (t.find? k) := by
  have hkeys := m.nodup_keys
  rw [keys] at hkeys
  change _ = (m.entries.lookup k).elim _ _
  generalize m.entries = entries at hkeys ⊢
  induction entries generalizing t with
  | nil => rfl
  | cons e rest ih =>
    rw [List.map_cons, List.nodup_cons] at hkeys
    rw [List.foldl_cons, ih (g t e) hkeys.2, hg t e k, List.lookup_cons]
    by_cases hk : k = e.1
    · have hnone : rest.lookup k = none := by
        rw [List.lookup_eq_none_iff]
        intro e' he'
        have hne : k ≠ e'.1 := by
          rintro rfl
          exact hkeys.1 (hk ▸ List.mem_map_of_mem he')
        simpa using hne
      rw [hnone, if_pos hk, hk, BEq.rfl]
      rfl
    · rw [if_neg hk, beq_eq_false_iff_ne.mpr hk]

theorem contains_ofKeys (ks : List K) (k : K) : (ofKeys ks).contains k = true ↔ k ∈ ks := by
  rw [contains, ofKeys, find?_foldl_insert]
  split
  · next h => simp [h]
  · next h => simp [h]

/-- A map with fewer keys has fewer entries. -/
theorem length_le_of_contains {W : Type*} {m' : OrderedMap K W}
    (h : ∀ k, m.contains k = true → m'.contains k = true) :
    m.entries.length ≤ m'.entries.length := by
  have hsub : m.keys ⊆ m'.keys := fun k hk => mem_keys.mpr (h k (mem_keys.mp hk))
  have hlen := (m.nodup_keys.subperm hsub).length_le
  rw [keys, keys, List.length_map, List.length_map] at hlen
  exact hlen

theorem nodup_entries (m : OrderedMap K V) : m.entries.Nodup :=
  List.Nodup.of_map Prod.fst m.nodup_keys

theorem nodup_cons_erase (m : OrderedMap K V) (k : K) (v : V) :
    ((k, v) :: (m.erase k).entries).Nodup :=
  List.nodup_cons.mpr ⟨by simp [mem_erase], (m.erase k).nodup_entries⟩

/-- Up to order, the stored entry stands before the map without its key. -/
theorem perm_insert (m : OrderedMap K V) (k : K) (v : V) :
    (m.insert k v).entries.Perm ((k, v) :: (m.erase k).entries) := by
  refine (List.perm_ext_iff_of_nodup (nodup_entries _) (m.nodup_cons_erase k v)).mpr fun e => ?_
  rw [mem_insert, List.mem_cons]

/-- Two maps in which every look-up finds the same are one. -/
theorem ext_find? {m' : OrderedMap K V} (h : ∀ k, m.find? k = m'.find? k) : m = m' := by
  ext1
  have hmem : ∀ e, e ∈ m.entries ↔ e ∈ m'.entries := by
    rintro ⟨k, v⟩
    rw [← find?_eq_some_iff, ← find?_eq_some_iff, h]
  have hperm : m.entries.Perm m'.entries :=
    (List.perm_ext_iff_of_nodup (nodup_entries _) (nodup_entries _)).mpr hmem
  refine hperm.eq_of_pairwise ?_ m.sorted m'.sorted
  intro a b _ _ hab hba
  exact absurd (hab.trans hba) (lt_irrefl _)

theorem map_insert {W : Type*} (m : OrderedMap K V) (f : V → W) (k : K) (v : V) :
    (m.insert k v).map f = (m.map f).insert k (f v) := by
  refine ext_find? fun k' => ?_
  rw [find?_map, find?_insert, find?_insert, find?_map]
  split
  · rfl
  · rfl

/-- A value stored in its own place changes nothing. -/
theorem insert_of_find? (h : m.find? k = some v) : m.insert k v = m := by
  refine ext_find? fun k' => ?_
  rw [find?_insert]
  split
  · next heq => rw [heq, h]
  · rfl

/-- Only the last value stored in a place counts. -/
theorem keys_map {W : Type*} (m : OrderedMap K V) (f : V → W) : (m.map f).keys = m.keys := by
  rw [keys, keys, map, List.map_map]
  rfl

/-- A changed value does not change the keys. -/
theorem keys_insert (h : m.find? k = some v) (w : V) : (m.insert k w).keys = m.keys := by
  have hunit : (m.map fun _ => ()).find? k = some () := by
    rw [find?_map, h]
    rfl
  calc (m.insert k w).keys
      = ((m.insert k w).map fun _ => ()).keys := (keys_map _ _).symm
    _ = (m.map fun _ => ()).keys := by rw [map_insert, insert_of_find? hunit]
    _ = m.keys := keys_map _ _

/-- The keys are determined by the entries that are found. -/
theorem keys_eq_of_contains {W : Type*} {m' : OrderedMap K W}
    (h : ∀ k, m.contains k = m'.contains k) : m.keys = m'.keys := by
  have hunit : (m.map fun _ => ()) = m'.map fun _ => () := by
    refine ext_find? fun k => ?_
    have hk := h k
    rw [contains, contains] at hk
    rw [find?_map, find?_map]
    cases hfind : m.find? k <;> cases hfind' : m'.find? k <;> simp_all
  calc m.keys = (m.map fun _ => ()).keys := (keys_map _ _).symm
    _ = (m'.map fun _ => ()).keys := congrArg keys hunit
    _ = m'.keys := keys_map _ _

theorem insert_insert (m : OrderedMap K V) (k : K) (v w : V) :
    (m.insert k v).insert k w = m.insert k w := by
  refine ext_find? fun k' => ?_
  rw [find?_insert, find?_insert, find?_insert]
  split
  · rfl
  · rfl

/-- Up to order, an entry that is found stands before the map without its key. -/
theorem perm_erase (h : m.find? k = some v) : m.entries.Perm ((k, v) :: (m.erase k).entries) := by
  refine (List.perm_ext_iff_of_nodup m.nodup_entries (m.nodup_cons_erase k v)).mpr fun e => ?_
  rw [List.mem_cons, mem_erase]
  constructor
  · intro he
    by_cases hk : e.1 = k
    · have hv : m.find? k = some e.2 := find?_eq_some_iff.mpr (by rw [← hk]; exact he)
      exact Or.inl (Prod.ext hk (Option.some.inj (hv.symm.trans h)))
    · exact Or.inr ⟨he, hk⟩
  · rintro (rfl | ⟨he, -⟩)
    · exact find?_eq_some_iff.mp h
    · exact he

/-- The number of stored values with a property. -/
def countValues (m : OrderedMap K V) (p : V → Bool) : Nat := m.entries.countP fun e => p e.2

theorem countValues_eq_keys (m : OrderedMap K V) (p : V → Bool) :
    m.countValues p = m.keys.countP fun k => (m.find? k).any p := by
  rw [countValues, keys, List.countP_map]
  refine List.countP_congr fun e he => ?_
  rw [Function.comp_apply, find?_eq_some_iff.mpr he, Option.any_some]

theorem countValues_insert (m : OrderedMap K V) (k : K) (v : V) (p : V → Bool) :
    (m.insert k v).countValues p = (m.erase k).countValues p + if p v then 1 else 0 := by
  rw [countValues, (m.perm_insert k v).countP_eq, List.countP_cons, countValues]

theorem countValues_eq_erase (h : m.find? k = some v) (p : V → Bool) :
    m.countValues p = (m.erase k).countValues p + if p v then 1 else 0 := by
  rw [countValues, (perm_erase h).countP_eq, List.countP_cons, countValues]

theorem countValues_le (m : OrderedMap K V) (p : V → Bool) :
    m.countValues p ≤ m.entries.length := List.countP_le_length

/-- The sum of a measure of the stored values. -/
def sumValues (m : OrderedMap K V) (f : V → Nat) : Nat := (m.entries.map fun e => f e.2).sum

theorem sumValues_eq_erase (h : m.find? k = some v) (f : V → Nat) :
    m.sumValues f = f v + (m.erase k).sumValues f := by
  rw [sumValues, ((perm_erase h).map _).sum_nat, List.map_cons, List.sum_cons, sumValues]

/-- A stored value counts in place of what stood under its key. -/
theorem sumValues_insert (m : OrderedMap K V) (k : K) (v : V) (f : V → Nat) :
    (m.insert k v).sumValues f + ((m.find? k).map f).getD 0 = m.sumValues f + f v := by
  have hinsert : (m.insert k v).sumValues f = f v + (m.erase k).sumValues f := by
    rw [sumValues, ((m.perm_insert k v).map _).sum_nat, List.map_cons, List.sum_cons, sumValues]
  cases hold : m.find? k with
  | none =>
    rw [erase_of_find?_eq_none hold] at hinsert
    simp only [Option.map_none, Option.getD_none]
    omega
  | some old =>
    have herase := sumValues_eq_erase hold f
    simp only [Option.map_some, Option.getD_some]
    omega

theorem sumValues_erase_le (m : OrderedMap K V) (k : K) (f : V → Nat) :
    (m.erase k).sumValues f ≤ m.sumValues f := by
  cases hold : m.find? k with
  | none => exact Nat.le_of_eq (congrArg (sumValues · f) (erase_of_find?_eq_none hold))
  | some v =>
    rw [sumValues_eq_erase hold]
    exact Nat.le_add_left ..

theorem le_sumValues (h : (k, v) ∈ m.entries) (f : V → Nat) : f v ≤ m.sumValues f := by
  rw [sumValues_eq_erase (find?_eq_some_iff.mpr h)]
  exact Nat.le_add_right ..

/-- The values under two keys are both part of the sum. -/
theorem add_le_sumValues {k' : K} {v' : V} (h : (k, v) ∈ m.entries) (h' : (k', v') ∈ m.entries)
    (hne : k' ≠ k) (f : V → Nat) : f v + f v' ≤ m.sumValues f := by
  have hrest : (k', v') ∈ (m.erase k).entries := mem_erase.mpr ⟨h', hne⟩
  rw [sumValues_eq_erase (find?_eq_some_iff.mpr h)]
  exact Nat.add_le_add_left (le_sumValues hrest f) _

theorem sumValues_eq_zero_iff {f : V → Nat} : m.sumValues f = 0 ↔ ∀ e ∈ m.entries, f e.2 = 0 := by
  rw [sumValues, List.sum_eq_zero_iff_forall_eq_nat, List.forall_mem_map]

end OrderedMap
