import Cataclysm.Lib.Runs
import Cataclysm.Skills.ArcheologyMgr

/-!
# Researching fields

Ten half-words show the projects of nine branches, so a new project always finds a free one, and
the project that is replaced is found again. What fails is the choice: the random index goes up to
the length of the list, and then no project is taken.

## Implementation notes

A half-word and an entry of the array change together; the other half-words and the other entries
are lists that stay as they are, up to their order.
-/

namespace Cataclysm.Archeology

/-- The half-words of the five fields. -/
def halfWords (researching : Nat → Nat) : List Nat :=
  (List.range 5).flatMap fun i => [projectNow1 (researching i), projectNow2 (researching i)]

/-- The entries of `m_researchProject`. -/
def entries (researchProject : Nat → Nat) : List Nat := (List.range 28).map researchProject

/-- The list without its zeros. -/
def nonzero (l : List Nat) : List Nat := l.filter fun x => x ≠ 0

/-- The non-zero half-words are the non-zero entries, each once, and each project is of its
branch. -/
structure Agrees (store : ProjectStore) (m : ArcheologyMgr) : Prop where
  same : (nonzero (halfWords m.researching)).Perm (nonzero (entries m.researchProject))
  once : (nonzero (halfWords m.researching)).Nodup
  belongs : ∀ branch < 28, m.researchProject branch ≠ 0 →
    ∃ rs, store.lookupRow (m.researchProject branch) = some rs ∧ rs.branchId = branch

/-! ### Half-words -/

theorem projectNow1_eq (field : Nat) : projectNow1 field = field % 2 ^ 16 :=
  Nat.and_two_pow_sub_one_eq_mod field 16

theorem projectNow2_eq (field : Nat) : projectNow2 field = field / 2 ^ 16 :=
  Nat.shiftRight_eq_div_pow field 16

theorem pack_eq {project2 project1 : Nat} (h2 : project2 < 2 ^ 16) (h1 : project1 < 2 ^ 16) :
    pack project2 project1 = project2 * 2 ^ 16 + project1 := by
  unfold pack
  rw [Nat.shiftLeft_eq, Nat.mod_eq_of_lt (by omega), ← Nat.shiftLeft_eq,
    Nat.shiftLeft_add_eq_or_of_lt h1]

theorem projectNow1_pack {project2 project1 : Nat} (h2 : project2 < 2 ^ 16)
    (h1 : project1 < 2 ^ 16) : projectNow1 (pack project2 project1) = project1 := by
  rw [pack_eq h2 h1, projectNow1_eq]
  omega

theorem projectNow2_pack {project2 project1 : Nat} (h2 : project2 < 2 ^ 16)
    (h1 : project1 < 2 ^ 16) : projectNow2 (pack project2 project1) = project2 := by
  rw [pack_eq h2 h1, projectNow2_eq]
  omega

theorem projectNow1_lt (field : Nat) : projectNow1 field < 2 ^ 16 := by
  rw [projectNow1_eq]
  omega

theorem projectNow2_lt {field : Nat} (h : field < 2 ^ 32) : projectNow2 field < 2 ^ 16 := by
  rw [projectNow2_eq]
  omega

/-- Of the half-words, two are of one field. -/
theorem halfWords_perm (researching : Nat → Nat) {slot : Nat} (h : slot < 5) (value : Nat) :
    ∃ rest, (halfWords researching).Perm
        (projectNow1 (researching slot) :: projectNow2 (researching slot) :: rest) ∧
      (halfWords (Function.update researching slot value)).Perm
        (projectNow1 value :: projectNow2 value :: rest) := by
  have hslot : (List.range 5).Perm (slot :: (List.range 5).erase slot) :=
    List.perm_cons_erase (List.mem_range.mpr h)
  refine ⟨((List.range 5).erase slot).flatMap fun i =>
    [projectNow1 (researching i), projectNow2 (researching i)], ?_, ?_⟩
  · exact hslot.flatMap_right _
  · refine (hslot.flatMap_right _).trans ?_
    rw [List.flatMap_cons, Function.update_self]
    have hrest : ((List.range 5).erase slot).flatMap (fun i =>
          [projectNow1 (Function.update researching slot value i),
            projectNow2 (Function.update researching slot value i)]) =
        ((List.range 5).erase slot).flatMap fun i =>
          [projectNow1 (researching i), projectNow2 (researching i)] := by
      apply List.flatMap_congr
      intro i hi
      have hne : i ≠ slot := ((List.nodup_range).mem_erase_iff.mp hi).1
      rw [Function.update_of_ne hne]
    rw [hrest]
    exact List.Perm.refl _

/-- A half-word is replaced, and no other changes. -/
theorem replaceHalf_spec {researching : Nat → Nat} {old new : Nat}
    (hfields : ∀ i < 5, researching i < 2 ^ 32) (hnew : new < 2 ^ 15)
    (hsmall : ∀ x ∈ halfWords researching, x < 2 ^ 15) (hold : old ∈ halfWords researching) :
    ∃ slot value rest, ArcheologyMgr.replaceHalf researching old new = some (slot, value) ∧
      value < 2 ^ 31 ∧ (halfWords researching).Perm (old :: rest) ∧
      (halfWords (Function.update researching slot value)).Perm (new :: rest) := by
  have hsome : (ArcheologyMgr.replaceHalf researching old new).isSome = true := by
    unfold ArcheologyMgr.replaceHalf
    rw [List.isSome_findSome?]
    obtain ⟨i, hi, hhalf⟩ := List.mem_flatMap.mp hold
    refine List.any_eq_true.mpr ⟨i, hi, ?_⟩
    rcases List.mem_cons.mp hhalf with hlow | hhigh
    · rw [if_pos hlow.symm]
      rfl
    · rw [List.mem_singleton] at hhigh
      split
      · rfl
      · rw [if_pos hhigh.symm]
        rfl
  obtain ⟨⟨slot, value⟩, hfound⟩ := Option.isSome_iff_exists.mp hsome
  have hfound' := hfound
  unfold ArcheologyMgr.replaceHalf at hfound'
  obtain ⟨i, hi, hvalue⟩ := List.exists_of_findSome?_eq_some hfound'
  have hi5 : i < 5 := List.mem_range.mp hi
  have hlow := projectNow1_lt (researching i)
  have hhigh := projectNow2_lt (hfields i hi5)
  have hlow' : projectNow1 (researching i) < 2 ^ 15 :=
    hsmall _ (List.mem_flatMap.mpr ⟨i, hi, by simp⟩)
  have hhigh' : projectNow2 (researching i) < 2 ^ 15 :=
    hsmall _ (List.mem_flatMap.mpr ⟨i, hi, by simp⟩)
  obtain ⟨rest, hbefore, hafter⟩ := halfWords_perm researching hi5 value
  split at hvalue
  · next heq =>
      obtain ⟨rfl, rfl⟩ := Prod.mk.inj (Option.some.inj hvalue)
      rw [projectNow1_pack hhigh (by omega), projectNow2_pack hhigh (by omega)] at hafter
      rw [heq] at hbefore
      refine ⟨i, _, _, hfound, ?_, hbefore, hafter⟩
      rw [pack_eq hhigh (by omega)]
      omega
  · split at hvalue
    · next heq =>
        obtain ⟨rfl, rfl⟩ := Prod.mk.inj (Option.some.inj hvalue)
        rw [projectNow1_pack (by omega) hlow, projectNow2_pack (by omega) hlow] at hafter
        rw [heq] at hbefore
        refine ⟨i, _, _, hfound, ?_, hbefore.trans (.swap ..), hafter.trans (.swap ..)⟩
        rw [pack_eq (by omega) hlow]
        omega
    · cases hvalue

/-! ### Entries -/

/-- An entry is replaced, and no other changes. -/
theorem entries_perm (researchProject : Nat → Nat) {branchId : Nat} (h : branchId < 28)
    (project : Nat) :
    ∃ rest, (entries researchProject).Perm (researchProject branchId :: rest) ∧
      (entries (Function.update researchProject branchId project)).Perm (project :: rest) := by
  have hbranch : (List.range 28).Perm (branchId :: (List.range 28).erase branchId) :=
    List.perm_cons_erase (List.mem_range.mpr h)
  refine ⟨((List.range 28).erase branchId).map researchProject, hbranch.map _, ?_⟩
  refine (hbranch.map _).trans ?_
  rw [List.map_cons, Function.update_self]
  have hrest : ((List.range 28).erase branchId).map
        (Function.update researchProject branchId project) =
      ((List.range 28).erase branchId).map researchProject := by
    apply List.map_congr_left
    intro i hi
    have hne : i ≠ branchId := ((List.nodup_range).mem_erase_iff.mp hi).1
    exact Function.update_of_ne hne _ _
  rw [hrest]

theorem nonzero_cons (x : Nat) (l : List Nat) :
    nonzero (x :: l) = if x = 0 then nonzero l else x :: nonzero l := by
  unfold nonzero
  by_cases hx : x = 0
  · rw [if_pos hx, List.filter_cons_of_neg (by simpa using hx)]
  · rw [if_neg hx, List.filter_cons_of_pos (by simpa using hx)]

theorem nonzero_perm {l l' : List Nat} (h : l.Perm l') : (nonzero l).Perm (nonzero l') :=
  h.filter _

/-- One value is replaced on both sides. -/
theorem same_of_replaced {halves halves' projects projects' rest rest' : List Nat} {old new : Nat}
    (h : (nonzero halves).Perm (nonzero projects)) (hhalves : halves.Perm (old :: rest))
    (hhalves' : halves'.Perm (new :: rest)) (hprojects : projects.Perm (old :: rest'))
    (hprojects' : projects'.Perm (new :: rest')) :
    (nonzero halves').Perm (nonzero projects') := by
  have hold : (nonzero (old :: rest)).Perm (nonzero (old :: rest')) :=
    ((nonzero_perm hhalves).symm.trans h).trans (nonzero_perm hprojects)
  have hrest : (nonzero rest).Perm (nonzero rest') := by
    rw [nonzero_cons, nonzero_cons] at hold
    split at hold
    · exact hold
    · exact (List.perm_cons old).mp hold
  have hnew : (nonzero (new :: rest)).Perm (nonzero (new :: rest')) := by
    rw [nonzero_cons, nonzero_cons]
    split
    · exact hrest
    · exact hrest.cons new
  exact ((nonzero_perm hhalves').trans hnew).trans (nonzero_perm hprojects').symm

/-! ### What every run keeps -/

/-- An entry that stands for a project of its branch. -/
structure Proper (store : ProjectStore) (branchId project : Nat) : Prop where
  listed : branchId ∈ branches
  project_lt : project < 2 ^ 15
  known : ∃ rs, store.lookupRow project = some rs ∧ rs.branchId = branchId

/-- The array and the rows hold proper projects, and the fields agree with the array. -/
structure Sound (store : ProjectStore) (m : ArcheologyMgr) : Prop where
  fields : ∀ i < 5, m.researching i < 2 ^ 32
  same : (nonzero (halfWords m.researching)).Perm (nonzero (entries m.researchProject))
  proper : ∀ branch, m.researchProject branch ≠ 0 → Proper store branch (m.researchProject branch)
  saved : ∀ row ∈ m.rows, Proper store row.1 row.2

variable {store : ProjectStore} {m : ArcheologyMgr}

theorem branches_lt {branch : Nat} (h : branch ∈ branches) : branch < 28 := by
  revert branch
  decide

theorem nonzero_entries (researchProject : Nat → Nat) :
    nonzero (entries researchProject) =
      ((List.range 28).filter fun branch => researchProject branch ≠ 0).map researchProject := by
  unfold nonzero entries
  rw [List.filter_map]
  rfl

/-- Only nine branches have projects. -/
theorem length_nonzero_entries (h : ∀ branch, m.researchProject branch ≠ 0 → branch ∈ branches) :
    (nonzero (entries m.researchProject)).length ≤ 9 := by
  rw [nonzero_entries, List.length_map, ← List.countP_eq_length_filter]
  calc (List.range 28).countP (fun branch => m.researchProject branch ≠ 0)
      ≤ (List.range 28).countP fun branch => branch ∈ branches := by
        apply List.countP_mono_left
        intro branch _ hne
        exact decide_eq_true (h branch (by simpa using hne))
    _ = 9 := by decide

theorem Sound.agrees (h : Sound store m) : Agrees store m := by
  refine ⟨h.same, h.same.symm.nodup ?_, fun branch _ hne => (h.proper branch hne).known⟩
  rw [nonzero_entries]
  refine List.Nodup.map_on ?_ (List.nodup_range.filter _)
  intro branch hbranch branch' hbranch' hsame
  have hne : m.researchProject branch ≠ 0 := by simpa using (List.mem_filter.mp hbranch).2
  have hne' : m.researchProject branch' ≠ 0 := by simpa using (List.mem_filter.mp hbranch').2
  obtain ⟨rs, hrs, rfl⟩ := (h.proper branch hne).known
  obtain ⟨rs', hrs', rfl⟩ := (h.proper branch' hne').known
  rw [← hsame, hrs] at hrs'
  rw [Option.some.inj hrs']

theorem Sound.small (h : Sound store m) : ∀ x ∈ halfWords m.researching, x < 2 ^ 15 := by
  intro x hx
  by_cases hzero : x = 0
  · omega
  · have hmem : x ∈ nonzero (halfWords m.researching) :=
      List.mem_filter.mpr ⟨hx, by simpa using hzero⟩
    have hentry := h.same.mem_iff.mp hmem
    rw [nonzero_entries] at hentry
    obtain ⟨branch, hbranch, rfl⟩ := List.mem_map.mp hentry
    exact (h.proper branch hzero).project_lt

/-- There is always a free half-word. -/
theorem Sound.zero_mem (h : Sound store m) : 0 ∈ halfWords m.researching := by
  by_contra hno
  have hall : nonzero (halfWords m.researching) = halfWords m.researching := by
    refine List.filter_eq_self.mpr fun x hx => ?_
    have hne : x ≠ 0 := by
      rintro rfl
      exact hno hx
    simpa using hne
  have hlength := h.same.length_eq
  have hten : (halfWords m.researching).length = 10 := rfl
  have hnine := length_nonzero_entries fun branch hne => (h.proper branch hne).listed
  rw [hall, hten] at hlength
  omega

/-- The project of a branch is shown, and so is a zero. -/
theorem Sound.project_mem (h : Sound store m) {branchId : Nat} (hbranch : branchId < 28) :
    m.researchProject branchId ∈ halfWords m.researching := by
  by_cases hzero : m.researchProject branchId = 0
  · rw [hzero]
    exact h.zero_mem
  · have hentry : m.researchProject branchId ∈ nonzero (entries m.researchProject) :=
      List.mem_filter.mpr ⟨List.mem_map_of_mem (List.mem_range.mpr hbranch), by simpa using hzero⟩
    exact (List.mem_filter.mp (h.same.mem_iff.mpr hentry)).1

theorem update_lt {researching : Nat → Nat} (h : ∀ i < 5, researching i < 2 ^ 32) {slot value : Nat}
    (hvalue : value < 2 ^ 31) : ∀ i < 5, Function.update researching slot value i < 2 ^ 32 := by
  intro i hi
  by_cases hslot : i = slot
  · subst hslot
    rw [Function.update_self]
    omega
  · rw [Function.update_of_ne hslot]
    exact h i hi

/-! ### Old and new projects -/

theorem Sound.removeOld (h : Sound store m) {branchId : Nat} (hbranch : branchId < 28) :
    Sound store (m.removeOld branchId) := by
  obtain ⟨slot, value, rest, hfound, hvalue, hbefore, hafter⟩ :=
    replaceHalf_spec h.fields (by decide : 0 < 2 ^ 15) h.small (h.project_mem hbranch)
  obtain ⟨rest', hentries, hentries'⟩ := entries_perm m.researchProject hbranch 0
  have heq : m.removeOld branchId =
      { m with
        researching := Function.update m.researching slot value
        researchProject := Function.update m.researchProject branchId 0 } := by
    unfold ArcheologyMgr.removeOld
    rw [hfound]
    rfl
  rw [heq]
  constructor
  · exact update_lt h.fields hvalue
  · exact same_of_replaced h.same hbefore hafter hentries hentries'
  · intro branch hne
    by_cases hsame : branch = branchId
    · subst hsame
      exact absurd (Function.update_self ..) hne
    · change Function.update m.researchProject branchId 0 branch ≠ 0 at hne
      change Proper store branch (Function.update m.researchProject branchId 0 branch)
      rw [Function.update_of_ne hsame] at hne ⊢
      exact h.proper branch hne
  · exact h.saved

theorem Sound.putProject (h : Sound store m) {branchId project : Nat}
    (hfree : m.researchProject branchId = 0) (hproper : Proper store branchId project) :
    Sound store (m.putProject branchId project) := by
  have hbranch := branches_lt hproper.listed
  obtain ⟨slot, value, rest, hfound, hvalue, hbefore, hafter⟩ :=
    replaceHalf_spec h.fields hproper.project_lt h.small h.zero_mem
  obtain ⟨rest', hentries, hentries'⟩ := entries_perm m.researchProject hbranch project
  have heq : m.putProject branchId project =
      { m with
        researching := Function.update m.researching slot value
        researchProject := Function.update m.researchProject branchId project } := by
    unfold ArcheologyMgr.putProject
    rw [hfound]
    simp only [if_pos hvalue]
  rw [hfree] at hentries
  rw [heq]
  constructor
  · exact update_lt h.fields hvalue
  · exact same_of_replaced h.same hbefore hafter hentries hentries'
  · intro branch hne
    by_cases hsame : branch = branchId
    · subst hsame
      change Proper store branch (Function.update m.researchProject branch project branch)
      rw [Function.update_self]
      exact hproper
    · change Function.update m.researchProject branchId project branch ≠ 0 at hne
      change Proper store branch (Function.update m.researchProject branchId project branch)
      rw [Function.update_of_ne hsame] at hne ⊢
      exact h.proper branch hne
  · exact h.saved

end Cataclysm.Archeology
