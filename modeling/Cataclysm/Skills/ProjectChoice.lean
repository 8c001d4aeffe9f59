import Cataclysm.Skills.ResearchFields

/-!
# Choice of research projects

The random index of a new project goes from zero to the number of the eligible projects, so that
one of its values stands behind the last of them. A draw with this value leaves the branch without
a project. In the runs without such draws the fields and the array agree, and no branch is left
out.

## Implementation notes

A load fills the array and leaves the fields at zero; they agree again after the archaeology
tracking has been applied.
-/

namespace Cataclysm.Archeology

variable {store : ProjectStore} {m : ArcheologyMgr}

/-- The draw takes one of the projects, if there are any, and its id fits into the upper half-word
of a signed field. -/
structure TakesProject (projects : List Nat) (random : Nat) : Prop where
  inside : projects ≠ [] → urand 0 projects.length random < min projects.length (2 ^ 8)
  small : ∀ project, projects[urand 0 projects.length random]? = some project → project < 2 ^ 15

/-- The operation makes no draw behind the eligible projects, and a load without tracking finds no
project. -/
def Keeps (store : ProjectStore) (m : ArcheologyMgr) : Operation → Prop
  | .survey branchId _ draw =>
    m.researchProject branchId = 0 →
      TakesProject (m.projectList store branchId 0 draw) draw.random
  | .complete spellId draw =>
    ∀ rp, m.completedBranch store spellId = some rp →
      TakesProject ((m.recordHistory rp.id).projectList store rp.branchId rp.spellId draw)
        draw.random
  | .load tracks => tracks = false → m.rows = []
  | .generateSavedArtifacts | .save _ => True

/-- A branch for which a project is eligible has one afterwards. -/
def Served (store : ProjectStore) (m : ArcheologyMgr) : Operation → Prop
  | .survey branchId listed draw =>
    m.projectList store branchId 0 draw ≠ [] →
      (m.step store (.survey branchId listed draw)).researchProject branchId ≠ 0
  | .complete spellId draw =>
    ∀ rp, m.completedBranch store spellId = some rp →
      (m.recordHistory rp.id).projectList store rp.branchId rp.spellId draw ≠ [] →
        (m.step store (.complete spellId draw)).researchProject rp.branchId ≠ 0
  | .generateSavedArtifacts | .save _ | .load _ => True

/-! ### Eligible projects -/

variable {branchId excludeId : Nat} {draw : Draw}

theorem mem_projectList {project : Nat}
    (h : project ∈ m.projectList store branchId excludeId draw) :
    project ≠ 0 ∧ ∃ rs, store.lookupRow project = some rs ∧ rs.branchId = branchId := by
  obtain ⟨hrow, heligible⟩ := List.mem_filter.mp h
  have hstart : 39 ≤ project := List.left_le_of_mem_range' hrow
  refine ⟨by omega, ?_⟩
  unfold ArcheologyMgr.eligible at heligible
  cases hrs : store.lookupRow project with
  | none =>
    rw [hrs] at heligible
    cases heligible
  | some rs =>
    rw [hrs] at heligible
    simp only [Bool.and_eq_true, decide_eq_true_eq] at heligible
    exact ⟨rs, rfl, heligible.1.1.1⟩

theorem chooseProject_eq_some {project : Nat}
    (h : m.chooseProject store branchId excludeId draw = some project) :
    (m.projectList store branchId excludeId draw)[urand 0
      (m.projectList store branchId excludeId draw).length draw.random]? = some project := by
  unfold ArcheologyMgr.chooseProject at h
  exact (Option.ite_none_right_eq_some.mp h).2

theorem proper_of_chooseProject {project : Nat} (hlisted : branchId ∈ branches)
    (htakes : TakesProject (m.projectList store branchId excludeId draw) draw.random)
    (h : m.chooseProject store branchId excludeId draw = some project) :
    Proper store branchId project := by
  have hget := chooseProject_eq_some h
  obtain ⟨_, hknown⟩ := mem_projectList (List.mem_of_getElem? hget)
  exact ⟨hlisted, htakes.small project hget, hknown⟩

theorem TakesProject.chooseProject
    (htakes : TakesProject (m.projectList store branchId excludeId draw) draw.random)
    (hne : m.projectList store branchId excludeId draw ≠ []) :
    ∃ project, m.chooseProject store branchId excludeId draw = some project ∧ project ≠ 0 := by
  have hinside := htakes.inside hne
  obtain ⟨hlength, hbyte⟩ := Nat.lt_min.mp hinside
  have hget := List.getElem?_eq_getElem hlength
  refine ⟨_, ?_, (mem_projectList (List.mem_of_getElem? hget)).1⟩
  unfold ArcheologyMgr.chooseProject
  simp only [if_pos hbyte]
  exact hget

/-! ### Steps -/

/-- A project is drawn for a branch that has none. -/
theorem Sound.drawProject (h : Sound store m) (hlisted : branchId ∈ branches)
    (hfree : m.researchProject branchId = 0)
    (htakes : TakesProject (m.projectList store branchId excludeId draw) draw.random) :
    Sound store ((m.chooseProject store branchId excludeId draw).elim m (m.putProject branchId)) := by
  cases hproject : m.chooseProject store branchId excludeId draw with
  | none => exact h
  | some project =>
    exact h.putProject hfree (proper_of_chooseProject hlisted htakes hproject)

theorem drawProject_ne_zero
    (htakes : TakesProject (m.projectList store branchId excludeId draw) draw.random)
    (hne : m.projectList store branchId excludeId draw ≠ []) :
    ((m.chooseProject store branchId excludeId draw).elim m
      (m.putProject branchId)).researchProject branchId ≠ 0 := by
  obtain ⟨project, hproject, hzero⟩ := htakes.chooseProject hne
  rw [hproject]
  change Function.update m.researchProject branchId project branchId ≠ 0
  rw [Function.update_self]
  exact hzero

theorem generateResearchProject_free (hfree : m.researchProject branchId = 0) :
    m.generateResearchProject store branchId false excludeId draw =
      (m.chooseProject store branchId excludeId draw).elim m (m.putProject branchId) := by
  unfold ArcheologyMgr.generateResearchProject
  rw [if_neg (fun hboth => hboth.1 hfree)]
  simp only [Bool.false_eq_true, if_false]
  cases m.chooseProject store branchId excludeId draw <;> rfl

theorem generateResearchProject_taken (htaken : m.researchProject branchId ≠ 0) :
    m.generateResearchProject store branchId false excludeId draw = m :=
  if_pos ⟨htaken, rfl⟩

theorem generateResearchProject_force :
    m.generateResearchProject store branchId true excludeId draw =
      ((m.removeOld branchId).chooseProject store branchId excludeId draw).elim
        (m.removeOld branchId) ((m.removeOld branchId).putProject branchId) := by
  unfold ArcheologyMgr.generateResearchProject
  rw [if_neg (fun hboth => Bool.noConfusion hboth.2)]
  simp only [if_true]
  cases (m.removeOld branchId).chooseProject store branchId excludeId draw <;> rfl

/-- The project that was completed is that of its branch. -/
theorem Sound.completed (h : Sound store m) {spellId : Nat} {rp : ResearchProjectEntry}
    (hrp : m.completedBranch store spellId = some rp) : rp.branchId ∈ branches := by
  obtain ⟨branch, hbranch, hfound⟩ := List.exists_of_findSome?_eq_some hrp
  have hlookup := (Option.filter_eq_some_iff.mp hfound).1
  have hne : m.researchProject branch ≠ 0 := by
    intro hzero
    rw [hzero, store.lookupRow_zero] at hlookup
    cases hlookup
  obtain ⟨rs, hrs, hsame⟩ := (h.proper branch hne).known
  rw [hlookup] at hrs
  rw [Option.some.inj hrs, hsame]
  exact hbranch

theorem Sound.recordHistory (h : Sound store m) (id : Nat) : Sound store (m.recordHistory id) :=
  ⟨h.fields, h.same, h.proper, h.saved⟩

theorem Sound.generateResearchProject (h : Sound store m) (hlisted : branchId ∈ branches)
    (hkeeps : m.researchProject branchId = 0 →
      TakesProject (m.projectList store branchId 0 draw) draw.random) :
    Sound store (m.generateResearchProject store branchId false 0 draw) := by
  by_cases hfree : m.researchProject branchId = 0
  · rw [generateResearchProject_free hfree]
    exact h.drawProject hlisted hfree (hkeeps hfree)
  · rw [generateResearchProject_taken hfree]
    exact h

theorem removeOld_self (branchId : Nat) : (m.removeOld branchId).researchProject branchId = 0 :=
  Function.update_self ..

theorem Sound.createTreasureItem (h : Sound store m) {spellId : Nat}
    (hkeeps : Keeps store m (.complete spellId draw)) :
    Sound store (m.createTreasureItem store spellId draw) := by
  unfold ArcheologyMgr.createTreasureItem
  cases hrp : m.completedBranch store spellId with
  | none => exact h
  | some rp =>
    have hlisted := h.completed hrp
    have hremoved := (h.recordHistory rp.id).removeOld (branches_lt hlisted)
    change Sound store (ArcheologyMgr.generateResearchProject ..)
    rw [generateResearchProject_force]
    exact hremoved.drawProject hlisted (removeOld_self _) (hkeeps rp hrp)

/-! ### Saved projects -/

theorem halfWords_generateSavedArtifacts
    (hsmall : ∀ branch, m.researchProject branch < 2 ^ 15) :
    halfWords m.generateSavedArtifacts.researching = branches.map m.researchProject ++ [0] := by
  have hword : ∀ branch, m.researchProject branch < 2 ^ 16 :=
    fun branch => (hsmall branch).trans (by decide)
  have hpair : ∀ upper lower, upper < 2 ^ 16 → lower < 2 ^ 16 →
      [projectNow1 (pack upper lower), projectNow2 (pack upper lower)] = [lower, upper] := by
    intro upper lower hupper hlower
    rw [projectNow1_pack hupper hlower, projectNow2_pack hupper hlower]
  change [projectNow1 (pack _ _), projectNow2 (pack _ _)] ++
    ([projectNow1 (pack _ _), projectNow2 (pack _ _)] ++
    ([projectNow1 (pack _ _), projectNow2 (pack _ _)] ++
    ([projectNow1 (pack _ _), projectNow2 (pack _ _)] ++
    ([projectNow1 (pack _ _), projectNow2 (pack _ _)] ++ [])))) = _
  rw [hpair _ _ (hword _) (hword _), hpair _ _ (hword _) (hword _), hpair _ _ (hword _) (hword _),
    hpair _ _ (hword _) (hword _), hpair _ _ (by decide) (hword _)]
  rfl

/-- The fields that are filled from an array of proper projects. -/
theorem sound_generateSavedArtifacts
    (hproper : ∀ branch, m.researchProject branch ≠ 0 →
      Proper store branch (m.researchProject branch))
    (hsaved : ∀ row ∈ m.rows, Proper store row.1 row.2) :
    Sound store m.generateSavedArtifacts := by
  have hsmall : ∀ branch, m.researchProject branch < 2 ^ 15 := by
    intro branch
    by_cases hzero : m.researchProject branch = 0
    · omega
    · exact (hproper branch hzero).project_lt
  refine ⟨?_, ?_, hproper, hsaved⟩
  · intro i hi
    have hpack : ∀ upper lower, upper < 2 ^ 15 → lower < 2 ^ 15 → pack upper lower < 2 ^ 32 := by
      intro upper lower hupper hlower
      rw [pack_eq (by omega) (by omega)]
      omega
    change (if i < 4 then pack _ _ else if i = 4 then pack _ _ else _) < 2 ^ 32
    split_ifs
    · exact hpack _ _ (hsmall _) (hsmall _)
    · exact hpack _ _ (by decide) (hsmall _)
    · omega
  · rw [halfWords_generateSavedArtifacts hsmall]
    have hbranches : (List.range 28).filter (· ∈ branches) = branches := by decide
    have hlisted : (List.range 28).filter (fun branch => m.researchProject branch ≠ 0) =
        branches.filter fun branch => m.researchProject branch ≠ 0 := by
      rw [← hbranches, List.filter_filter]
      refine List.filter_congr fun branch _ => ?_
      by_cases hzero : m.researchProject branch = 0
      · simp [hzero]
      · simp [hzero, (hproper branch hzero).listed]
    have hentries : nonzero (entries m.researchProject) =
        nonzero (branches.map m.researchProject ++ [0]) := by
      rw [nonzero_entries, hlisted]
      unfold nonzero
      rw [List.filter_append, List.filter_map]
      exact (List.append_nil _).symm
    change (nonzero _).Perm (nonzero (entries m.researchProject))
    rw [hentries]

theorem foldl_update_or (rows : List (Nat × Nat)) (start : Nat → Nat) (branch : Nat) :
    let loaded := rows.foldl (fun array row => Function.update array row.1 row.2) start
    loaded branch = start branch ∨ (branch, loaded branch) ∈ rows := by
  induction rows generalizing start with
  | nil => exact Or.inl rfl
  | cons row rest ih =>
    rcases ih (Function.update start row.1 row.2) with hstart | hmem
    · by_cases hsame : branch = row.1
      · subst hsame
        rw [Function.update_self] at hstart
        refine Or.inr (List.mem_cons.mpr (Or.inl ?_))
        exact Prod.ext rfl hstart
      · rw [Function.update_of_ne hsame] at hstart
        exact Or.inl hstart
    · exact Or.inr (List.mem_cons_of_mem _ hmem)

theorem Sound.loaded (h : Sound store m) (branch : Nat)
    (hne : ArcheologyMgr.loadArtifacts m.rows branch ≠ 0) :
    Proper store branch (ArcheologyMgr.loadArtifacts m.rows branch) := by
  rcases foldl_update_or m.rows 0 branch with hzero | hmem
  · exact absurd hzero hne
  · exact h.saved _ hmem

theorem sound_zero {history : List Nat} : Sound store ⟨0, history, 0, []⟩ := by
  refine ⟨fun _ _ => ?_, ?_, fun branch hne => absurd rfl hne, ?_⟩
  · exact Nat.two_pow_pos 32
  · change (nonzero (halfWords 0)).Perm (nonzero (entries 0))
    have hhalves : nonzero (halfWords 0) = [] := by decide
    have hentries : nonzero (entries 0) = [] := by decide
    rw [hhalves, hentries]
  · intro row hrow
    cases hrow

theorem Sound.load (h : Sound store m) {tracks : Bool} (hkeeps : Keeps store m (.load tracks)) :
    Sound store (m.step store (.load tracks)) := by
  cases tracks with
  | true => exact sound_generateSavedArtifacts h.loaded h.saved
  | false =>
    have hrows : m.rows = [] := hkeeps rfl
    have heq : m.step store (.load false) = ⟨0, m.researchHistory, 0, []⟩ := by
      change m.load = _
      unfold ArcheologyMgr.load
      rw [hrows]
      rfl
    rw [heq]
    exact sound_zero

theorem Sound.saveArcheology (h : Sound store m) (hasSkill : Bool) :
    Sound store (m.saveArcheology hasSkill) := by
  refine ⟨h.fields, h.same, h.proper, fun row hrow => ?_⟩
  cases hasSkill with
  | false => exact h.saved row hrow
  | true =>
    obtain ⟨branch, hbranch, rfl⟩ := List.mem_map.mp hrow
    have hne : m.researchProject branch ≠ 0 := by simpa using (List.mem_filter.mp hbranch).2
    exact h.proper branch hne

/-! ### Runs -/

theorem Sound.step (h : Sound store m) {op : Operation} (hkeeps : Keeps store m op) :
    Sound store (m.step store op) := by
  cases op with
  | survey branchId listed draw => exact h.generateResearchProject listed hkeeps
  | complete spellId draw => exact h.createTreasureItem hkeeps
  | generateSavedArtifacts => exact sound_generateSavedArtifacts h.proper h.saved
  | save hasSkill => exact h.saveArcheology hasSkill
  | load tracks => exact h.load hkeeps

theorem served_of_keeps {op : Operation} (hkeeps : Keeps store m op) : Served store m op := by
  cases op with
  | survey branchId listed draw =>
    intro hne
    change (m.generateResearchProject store branchId false 0 draw).researchProject branchId ≠ 0
    by_cases hfree : m.researchProject branchId = 0
    · rw [generateResearchProject_free hfree]
      exact drawProject_ne_zero (hkeeps hfree) hne
    · rw [generateResearchProject_taken hfree]
      exact hfree
  | complete spellId draw =>
    intro rp hrp hne
    change (m.createTreasureItem store spellId draw).researchProject rp.branchId ≠ 0
    unfold ArcheologyMgr.createTreasureItem
    rw [hrp]
    change (ArcheologyMgr.generateResearchProject ..).researchProject rp.branchId ≠ 0
    rw [generateResearchProject_force]
    exact drawProject_ne_zero (m := (m.recordHistory rp.id).removeOld rp.branchId)
      (hkeeps rp hrp) hne
  | generateSavedArtifacts | save hasSkill | load tracks => trivial

/-- In every state that such a run reaches, the fields agree with the array, and the next operation
leaves no branch out. -/
theorem agrees_of_run {actions : List Operation}
    (h : Runs.Admissible (ArcheologyMgr.step store) (Keeps store) ArcheologyMgr.create actions) :
    (∀ before, before <+: actions →
      Agrees store (Runs.run (ArcheologyMgr.step store) ArcheologyMgr.create before)) ∧
    (∀ before op, before ++ [op] <+: actions →
      Served store (Runs.run (ArcheologyMgr.step store) ArcheologyMgr.create before) op) := by
  constructor
  · intro before hbefore
    have hsound := h.invariant (P := Sound store) (fun hs hk => hs.step hk) sound_zero hbefore
    exact hsound.agrees
  · intro before op hbefore
    exact served_of_keeps (h.allowed hbefore)

/-! ### A store with one project -/

/-- A project of the branch 1. -/
def onlyProject : ResearchProjectEntry := ⟨39, 0, 1, 1000, 30⟩

def onlyRow (row : Nat) : Option ResearchProjectEntry :=
  if row = 39 then some onlyProject else none

theorem onlyRow_id (row : Nat) (rs : ResearchProjectEntry) (h : onlyRow row = some rs) :
    rs.id = row ∧ row < 40 := by
  obtain ⟨rfl, hrs⟩ := Option.ite_none_right_eq_some.mp h
  rw [← Option.some.inj hrs]
  exact ⟨rfl, by decide⟩

def onlyStore : ProjectStore := ⟨onlyRow, 40, onlyRow_id, rfl⟩

theorem one_listed : 1 ∈ branches := by decide

/-- A survey of the branch 1 with a random number. -/
def surveyDraw (random : Nat) : Operation := .survey 1 one_listed ⟨525, fun _ => 0, random⟩

theorem takes_onlyProject : TakesProject
    (ArcheologyMgr.create.projectList onlyStore 1 0 ⟨525, fun _ => 0, 0⟩) 0 := by
  have hlist : ArcheologyMgr.create.projectList onlyStore 1 0 ⟨525, fun _ => 0, 0⟩ = [39] := by
    decide
  rw [hlist]
  refine ⟨fun _ => by decide, fun project hproject => ?_⟩
  rw [← Option.some.inj hproject]
  decide

/-- A surveyed project, saved and loaded. -/
theorem agrees_surveySaveLoad :
    (∀ before, before <+: [surveyDraw 0, .save true, .load true] →
      Agrees onlyStore
        (Runs.run (ArcheologyMgr.step onlyStore) ArcheologyMgr.create before)) ∧
    (∀ before op, before ++ [op] <+: [surveyDraw 0, .save true, .load true] →
      Served onlyStore
        (Runs.run (ArcheologyMgr.step onlyStore) ArcheologyMgr.create before) op) :=
  agrees_of_run ⟨fun _ => takes_onlyProject, trivial, fun h => Bool.noConfusion h, trivial⟩

/-- The number behind the only eligible project leaves its branch without a project. -/
theorem survey_branchLeftOut :
    ¬ ∀ (store : ProjectStore) (before : List Operation) (op : Operation),
      Served store (Runs.run (ArcheologyMgr.step store) ArcheologyMgr.create before) op := by
  intro h
  have hserved := h onlyStore [] (surveyDraw 1)
  have hlist : ArcheologyMgr.create.projectList onlyStore 1 0 ⟨525, fun _ => 0, 1⟩ ≠ [] := by
    decide
  have hnone : (ArcheologyMgr.create.step onlyStore (surveyDraw 1)).researchProject 1 = 0 := by
    decide
  exact hserved hlist hnone

end Cataclysm.Archeology
