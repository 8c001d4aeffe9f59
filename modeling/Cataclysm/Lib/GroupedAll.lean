import Cataclysm.Lib.OrderedMap

/-!
# A pass that finds whether all members of a group hold

A list is split into groups, and a pass keeps a value for each group that it has met. What is seen
of the value says whether all members of the group so far hold. After the pass some value is seen to
hold exactly when some group of the list holds as a whole, in whatever order its members came.
-/

namespace GroupedAll

variable {G C V : Type*} [LinearOrder G] (group : C → G) (holds : C → Prop) (seen : V → Prop)

/-- Some group that occurs in the list holds as a whole. -/
def SomeGroup (list : List C) : Prop :=
  ∃ c ∈ list, ∀ other ∈ list, group other = group c → holds other

/-- The values are those of the groups of the list. -/
structure Tracks (m : OrderedMap G V) (list : List C) : Prop where
  contains : ∀ g, m.contains g = true ↔ ∃ c ∈ list, group c = g
  value : ∀ {g v}, m.find? g = some v → (seen v ↔ ∀ c ∈ list, group c = g → holds c)

/-- One member joins the value of its group. -/
structure Joins (m m' : OrderedMap G V) (c : C) : Prop where
  other : ∀ g, g ≠ group c → m'.find? g = m.find? g
  value : ∃ v, m'.find? (group c) = some v ∧
    (seen v ↔ (∀ w, m.find? (group c) = some w → seen w) ∧ holds c)

variable {group holds seen} {m m' : OrderedMap G V} {list : List C} {c : C}

omit [LinearOrder G] in
theorem SomeGroup.perm {list' : List C} (hperm : list.Perm list')
    (h : SomeGroup group holds list) : SomeGroup group holds list' := by
  obtain ⟨c, hmem, hall⟩ := h
  exact ⟨c, hperm.mem_iff.mp hmem, fun other hother => hall other (hperm.mem_iff.mpr hother)⟩

omit [LinearOrder G] in
theorem SomeGroup.mono {weaker : C → Prop} (h : SomeGroup group holds list)
    (hle : ∀ c ∈ list, holds c → weaker c) : SomeGroup group weaker list := by
  obtain ⟨c, hmem, hall⟩ := h
  exact ⟨c, hmem, fun other hother hsame => hle other hother (hall other hother hsame)⟩

omit [LinearOrder G] in
/-- A member may be replaced by members of its group that hold together when it does. -/
theorem someGroup_replace {before after members : List C} (hne : members ≠ [])
    (hgroup : ∀ other ∈ members, group other = group c)
    (hholds : holds c ↔ ∀ other ∈ members, holds other) :
    SomeGroup group holds (before ++ members ++ after) ↔
      SomeGroup group holds (before ++ c :: after) := by
  obtain ⟨first, hfirst⟩ := List.exists_mem_of_ne_nil members hne
  constructor
  · rintro ⟨leader, hmem, hall⟩
    have hreplaced : ∀ other ∈ before ++ c :: after, group other = group leader → holds other := by
      intro other hother hsame
      obtain hother | hother := List.mem_append.mp hother
      · exact hall other (by simp [hother]) hsame
      · obtain rfl | hother := List.mem_cons.mp hother
        · apply hholds.mpr
          intro member hmember
          exact hall member (by simp [hmember]) ((hgroup member hmember).trans hsame)
        · exact hall other (by simp [hother]) hsame
    by_cases hin : leader ∈ members
    · refine ⟨c, by simp, fun other hother hsame => hreplaced other hother ?_⟩
      exact hsame.trans (hgroup leader hin).symm
    · refine ⟨leader, ?_, hreplaced⟩
      simp only [List.mem_append, List.mem_cons] at hmem ⊢
      tauto
  · rintro ⟨leader, hmem, hall⟩
    have hreplaced : ∀ other ∈ before ++ members ++ after, group other = group leader →
        holds other := by
      intro other hother hsame
      by_cases hin : other ∈ members
      · exact hholds.mp (hall c (by simp) ((hgroup other hin).symm.trans hsame)) other hin
      · apply hall other _ hsame
        simp only [List.mem_append, List.mem_cons] at hother ⊢
        tauto
    obtain rfl | hnot := eq_or_ne leader c
    · refine ⟨first, by simp [hfirst], fun other hother hsame => hreplaced other hother ?_⟩
      exact hsame.trans (hgroup first hfirst)
    · refine ⟨leader, ?_, hreplaced⟩
      simp only [List.mem_append, List.mem_cons] at hmem ⊢
      tauto

omit [LinearOrder G] in
/-- A list with a single group is that group. -/
theorem someGroup_single (hne : list ≠ [])
    (hsingle : ∀ c ∈ list, ∀ other ∈ list, group other = group c) :
    SomeGroup group holds list ↔ ∀ c ∈ list, holds c := by
  constructor
  · rintro ⟨c, hmem, hall⟩ other hother
    exact hall other hother (hsingle c hmem other hother)
  · intro hall
    obtain ⟨first, hfirst⟩ := List.exists_mem_of_ne_nil list hne
    exact ⟨first, hfirst, fun other hother _ => hall other hother⟩

theorem tracks_nil : Tracks group holds seen OrderedMap.empty ([] : List C) := by
  refine ⟨fun g => ?_, fun hfind => ?_⟩
  · exact iff_of_false Bool.false_ne_true fun ⟨_, hmem, _⟩ => List.not_mem_nil hmem
  · cases hfind

theorem Tracks.join (h : Tracks group holds seen m list) (hjoins : Joins group holds seen m m' c) :
    Tracks group holds seen m' (list ++ [c]) := by
  obtain ⟨v, hnew, hvalue⟩ := hjoins.value
  constructor
  · intro g
    obtain rfl | hne := eq_or_ne g (group c)
    · exact iff_of_true (OrderedMap.contains_of_find? hnew) ⟨c, by simp, rfl⟩
    · have hsame : m'.contains g = m.contains g := by
        rw [OrderedMap.contains, OrderedMap.contains, hjoins.other g hne]
      rw [hsame, h.contains]
      simp [hne.symm]
  · intro g w hfind
    obtain rfl | hne := eq_or_ne g (group c)
    · obtain rfl := Option.some.inj (hnew.symm.trans hfind)
      rw [hvalue]
      constructor
      · rintro ⟨hold, hc⟩ other hmem hsame
        obtain hmem | hmem := List.mem_append.mp hmem
        · have hin : m.contains (group c) = true := (h.contains _).mpr ⟨other, hmem, hsame⟩
          obtain ⟨w, hfound⟩ := Option.isSome_iff_exists.mp hin
          exact (h.value hfound).mp (hold w hfound) other hmem hsame
        · rwa [List.mem_singleton.mp hmem]
      · intro hall
        refine ⟨fun w hfound => ?_, hall c (by simp) rfl⟩
        exact (h.value hfound).mpr fun other hmem => hall other (List.mem_append_left _ hmem)
    · rw [hjoins.other g hne] at hfind
      rw [h.value hfind]
      simp only [List.mem_append, List.mem_singleton]
      constructor
      · rintro hall other (hmem | rfl) hsame
        · exact hall other hmem hsame
        · exact absurd hsame.symm hne
      · exact fun hall other hmem => hall other (Or.inl hmem)

/-- A pass whose steps join the members goes through. -/
theorem tracks_foldlM {E : Type*} {step : OrderedMap G V → C → Except E (OrderedMap G V)}
    {before : List C} (h : Tracks group holds seen m before)
    (hstep : ∀ m, ∀ c ∈ list, ∃ m', step m c = .ok m' ∧ Joins group holds seen m m' c) :
    ∃ m', list.foldlM step m = .ok m' ∧ Tracks group holds seen m' (before ++ list) := by
  induction list generalizing m before with
  | nil =>
    refine ⟨m, rfl, ?_⟩
    rwa [List.append_nil]
  | cons c rest ih =>
    obtain ⟨m', hnext, hjoins⟩ := hstep m c List.mem_cons_self
    obtain ⟨last, hlast, htracks⟩ := ih (h.join hjoins)
      fun m other hmem => hstep m other (List.mem_cons_of_mem c hmem)
    refine ⟨last, ?_, ?_⟩
    · rw [List.foldlM_cons, hnext]
      exact hlast
    · rwa [List.append_assoc, List.singleton_append] at htracks

/-- Some value is seen to hold exactly when some group holds. -/
theorem Tracks.exists_iff (h : Tracks group holds seen m list) :
    (∃ e ∈ m.entries, seen e.2) ↔ SomeGroup group holds list := by
  constructor
  · rintro ⟨⟨g, v⟩, hmem, hseen⟩
    have hfind := OrderedMap.find?_eq_some_iff.mpr hmem
    obtain ⟨c, hin, rfl⟩ := (h.contains g).mp (OrderedMap.contains_of_find? hfind)
    exact ⟨c, hin, (h.value hfind).mp hseen⟩
  · rintro ⟨c, hmem, hall⟩
    have hin : m.contains (group c) = true := (h.contains _).mpr ⟨c, hmem, rfl⟩
    obtain ⟨v, hfind⟩ := Option.isSome_iff_exists.mp hin
    exact ⟨(group c, v), OrderedMap.find?_eq_some_iff.mp hfind, (h.value hfind).mpr hall⟩

end GroupedAll
