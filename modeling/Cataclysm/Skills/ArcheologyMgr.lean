import Mathlib

/-!
# Research projects

An archaeologist researches at most one project of each branch. The project of a branch is kept in
an array, and all of them are shown to the client in five fields that hold two half-words each. A
survey starts a project of a branch that has none, and a completed artifact replaces the project of
its branch.

## Implementation notes

The array and the fields are functions of their index. What random numbers decide is read from
parameters: a roll for every row of the project table, and the number that `urand` reduces. The
fragments and stones that a completed artifact costs do not take part.
-/

namespace Cataclysm.Archeology

/-- `ResearchProjectEntry`. -/
structure ResearchProjectEntry where
  id : Nat
  quality : Nat
  branchId : Nat
  spellId : Nat
  reqFragments : Nat
  deriving DecidableEq

/-- `sResearchProjectStore`; an entry stands in the row of its id, and no project has the id 0. -/
structure ProjectStore where
  lookupRow : Nat → Option ResearchProjectEntry
  numRows : Nat
  lookupRow_id : ∀ row rs, lookupRow row = some rs → rs.id = row ∧ row < numRows
  lookupRow_zero : lookupRow 0 = none

/-- The branches of the loops over `i` from 1 to 8 and 27. -/
def branches : List Nat := [1, 2, 3, 4, 5, 6, 7, 8, 27]

/-- The lower half-word of a field. -/
def projectNow1 (field : Nat) : Nat := field &&& 0xFFFF

/-- The upper half-word of a field. -/
def projectNow2 (field : Nat) : Nat := field >>> 16

/-- `(project_2 << 16) | (project_1)`, a `uint32`. -/
def pack (project2 project1 : Nat) : Nat := (project2 <<< 16) % 2 ^ 32 ||| project1

/-- The research of a player: `m_researchProject`, the keys of `m_researchHistory`, the fields from
`PLAYER_FIELD_RESEARCHING_1`, and the rows of `character_current_artifacts`, as branch and entry. -/
structure ArcheologyMgr where
  researchProject : Nat → Nat
  researchHistory : List Nat
  researching : Nat → Nat
  rows : List (Nat × Nat)

/-- `urand(min, max)` of a random number. -/
def urand (min max random : Nat) : Nat := min + random % (max - min + 1)

/-- What decides about a new project: the skill of the player, a roll below 100 for each row, and
the number for the choice. -/
structure Draw where
  skill : Nat
  roll : Nat → Nat
  random : Nat

namespace ArcheologyMgr

/-- The first half-word with the value `old` is replaced: the slot of its field and the new value of
the field. -/
def replaceHalf (researching : Nat → Nat) (old new : Nat) : Option (Nat × Nat) :=
  (List.range 5).findSome? fun i =>
    if projectNow1 (researching i) = old then
      some (i, pack (projectNow2 (researching i)) new)
    else if projectNow2 (researching i) = old then
      some (i, pack new (projectNow1 (researching i)))
    else none

/-- "Remove old". -/
def removeOld (m : ArcheologyMgr) (branchId : Nat) : ArcheologyMgr :=
  let (resetSlot, resetValue) :=
    (replaceHalf m.researching (m.researchProject branchId) 0).getD (0, 0)
  { m with
    researching := Function.update m.researching resetSlot resetValue
    researchProject := Function.update m.researchProject branchId 0 }

/-- The most fragments that a project may require. -/
def fragReq (skill : Nat) : Nat := if skill / 3 > 75 then skill / 3 else 75

/-- A row is not skipped. -/
def eligible (store : ProjectStore) (m : ArcheologyMgr) (branchId excludeId : Nat) (draw : Draw)
    (row : Nat) : Bool :=
  match store.lookupRow row with
  | none => false
  | some rs =>
    rs.branchId = branchId && !(excludeId ≠ 0 && rs.spellId = excludeId) &&
      (rs.quality = 0 ||
        (rs.id ∉ m.researchHistory && draw.roll row < draw.skill * 100 / 525)) &&
      rs.reqFragments ≤ fragReq draw.skill

/-- `projectList`. -/
def projectList (store : ProjectStore) (m : ArcheologyMgr) (branchId excludeId : Nat)
    (draw : Draw) : List Nat :=
  (List.range' 39 (store.numRows - 39)).filter (eligible store m branchId excludeId draw)

/-- The project is put into the first free half-word and becomes that of the branch. -/
def putProject (m : ArcheologyMgr) (branchId project : Nat) : ArcheologyMgr :=
  let researching :=
    match replaceHalf m.researching 0 project with
    | none => m.researching
    | some (slot, newValue) =>
      if newValue < 2 ^ 31 then Function.update m.researching slot newValue else m.researching
  { m with
    researching
    researchProject := Function.update m.researchProject branchId project }

/-- The choice among the eligible projects; their positions are counted in a `uint8`. -/
def chooseProject (store : ProjectStore) (m : ArcheologyMgr) (branchId excludeId : Nat)
    (draw : Draw) : Option Nat :=
  let projects := projectList store m branchId excludeId draw
  let selectedProject := urand 0 projects.length draw.random
  if selectedProject < 2 ^ 8 then projects[selectedProject]? else none

/-- `ArcheologyMgr::GenerateResearchProject`. -/
def generateResearchProject (store : ProjectStore) (m : ArcheologyMgr) (branchId : Nat)
    (force : Bool) (excludeId : Nat) (draw : Draw) : ArcheologyMgr :=
  if m.researchProject branchId ≠ 0 ∧ force = false then m
  else
    let m := if force then m.removeOld branchId else m
    match chooseProject store m branchId excludeId draw with
    | none => m
    | some project => m.putProject branchId project

/-- `ArcheologyMgr::GenerateSavedArtifacts`. -/
def generateSavedArtifacts (m : ArcheologyMgr) : ArcheologyMgr :=
  { m with researching := fun slot =>
      if slot < 4 then
        pack (m.researchProject (2 * slot + 2)) (m.researchProject (2 * slot + 1))
      else if slot = 4 then pack 0 (m.researchProject 27)
      else m.researching slot }

/-- The branch whose project `CreateTreasureItem` finds. -/
def completedBranch (store : ProjectStore) (m : ArcheologyMgr) (spellId : Nat) :
    Option ResearchProjectEntry :=
  branches.findSome? fun i =>
    (store.lookupRow (m.researchProject i)).filter fun rp => rp.spellId = spellId

/-- A completed project is in the history. -/
def recordHistory (m : ArcheologyMgr) (id : Nat) : ArcheologyMgr :=
  { m with
    researchHistory :=
      if id ∈ m.researchHistory then m.researchHistory else id :: m.researchHistory }

/-- `ArcheologyMgr::CreateTreasureItem`. -/
def createTreasureItem (store : ProjectStore) (m : ArcheologyMgr) (spellId : Nat) (draw : Draw) :
    ArcheologyMgr :=
  match completedBranch store m spellId with
  | none => m
  | some rp =>
    generateResearchProject store (m.recordHistory rp.id) rp.branchId true rp.spellId draw

/-- The rows that `SaveArcheologyArtifacts` inserts. -/
def savedRows (m : ArcheologyMgr) : List (Nat × Nat) :=
  (branches.filter fun i => m.researchProject i ≠ 0).map fun i => (i, m.researchProject i)

/-- `LoadArcheologyDigSites`: the array, from the rows. -/
def loadArtifacts (rows : List (Nat × Nat)) : Nat → Nat :=
  rows.foldl (fun researchProject row => Function.update researchProject row.1 row.2) 0

/-- `ArcheologyMgr::SaveArcheology`. -/
def saveArcheology (m : ArcheologyMgr) (hasSkill : Bool) : ArcheologyMgr :=
  { m with rows := if hasSkill then m.savedRows else m.rows }

/-- A load into a new player object, whose fields are zero. -/
def load (m : ArcheologyMgr) : ArcheologyMgr :=
  { m with researchProject := loadArtifacts m.rows, researching := 0 }

/-- A player who has never researched. -/
def create : ArcheologyMgr := ⟨0, [], 0, []⟩

end ArcheologyMgr

/-! ### Operations -/

/-- What changes the projects and artifacts of a player. -/
inductive Operation
  /-- A survey that finds a treasure of a branch. -/
  | survey (branchId : Nat) (listed : branchId ∈ branches) (draw : Draw)
  /-- An artifact that was completed by its spell. -/
  | complete (spellId : Nat) (draw : Draw)
  | generateSavedArtifacts
  | save (hasSkill : Bool)
  /-- A load; the archaeology tracking of a player then calls `GenerateSavedArtifacts`. -/
  | load (tracks : Bool)

def ArcheologyMgr.step (store : ProjectStore) (m : ArcheologyMgr) : Operation → ArcheologyMgr
  | .survey branchId _ draw => m.generateResearchProject store branchId false 0 draw
  | .complete spellId draw => m.createTreasureItem store spellId draw
  | .generateSavedArtifacts => m.generateSavedArtifacts
  | .save hasSkill => m.saveArcheology hasSkill
  | .load tracks => if tracks then m.load.generateSavedArtifacts else m.load

end Cataclysm.Archeology
