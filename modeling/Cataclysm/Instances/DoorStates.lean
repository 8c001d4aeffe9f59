import Cataclysm.Lib.Runs

/-!
# Doors of boss encounters

An instance links its doors to its bosses by a table of door entries. A door is refreshed when it
is created and when the state of one of its bosses changes, except for the first state that a boss
is given, which is taken for the loading of the instance.

## Implementation notes

The pointer of a link to its boss is an index below the number of bosses. Of the minions of a boss
the model keeps what the change of state asks: whether one of them is a living world boss. The
arena boundaries that a new door records are not read by any door, and the calls to minions,
teleporters and clients come after the doors. Doors are no controllable transports; the guard of
`SetGoState` for these is left out.
-/

namespace Cataclysm.InstanceDoors

/-- How a boss fight stands. -/
inductive EncounterState
  | notStarted
  | inProgress
  | fail
  | done
  | doneHm
  | special
  | toBeDecided
  deriving DecidableEq

/-- When a door is open. -/
inductive DoorType
  | room
  | passage
  | spawnHole
  deriving DecidableEq

/-- `GOState`. -/
inductive GoState
  | active
  | ready
  | activeAlternative
  deriving DecidableEq

/-- A row of the door data of a script. -/
structure DoorData where
  entry : Nat
  bossId : Nat
  type : DoorType

/-- A link of a door entry to one of the bosses. -/
structure DoorInfo (n : Nat) where
  bossInfo : Fin n
  type : DoorType
  deriving DecidableEq

/-- The links by door entry. -/
abbrev DoorInfoMap (n : Nat) := List (Nat × DoorInfo n)

/-- The door data up to its end mark; rows of bosses that do not exist are skipped. -/
def loadDoorData (n : Nat) : List DoorData → DoorInfoMap n
  | [] => []
  | data :: rest =>
    if data.entry = 0 then []
    else if h : data.bossId < n then
      (data.entry, ⟨⟨data.bossId, h⟩, data.type⟩) :: loadDoorData n rest
    else loadDoorData n rest

/-- `equal_range`. -/
def DoorInfoMap.range {n : Nat} (doors : DoorInfoMap n) (entry : Nat) : List (DoorInfo n) :=
  (doors.filter fun e => e.1 = entry).map Prod.snd

/-- A door. -/
structure GameObject where
  guid : Nat
  entry : Nat
  deriving DecidableEq

/-- A boss with its doors. -/
structure BossInfo where
  state : EncounterState := .toBeDecided
  door : DoorType → List GameObject := fun _ => []

/-- The part of an instance script that its doors depend on, and the doors' states. -/
structure InstanceScript (n : Nat) where
  bosses : Fin n → BossInfo
  goState : GameObject → GoState

/-- What a link asks of the state of its boss. -/
def DoorType.allows : DoorType → EncounterState → Bool
  | .room, state => state ≠ .inProgress
  | .passage, state => state = .done || state = .doneHm
  | .spawnHole, state => state = .inProgress

variable {n : Nat}

/-- The loop over the links of a door, which ends at the first that does not allow it. -/
def openLoop (bosses : Fin n → BossInfo) : List (DoorInfo n) → Bool → Bool
  | [], isOpen => isOpen
  | info :: rest, isOpen =>
    if isOpen then openLoop bosses rest (info.type.allows (bosses info.bossInfo).state)
    else isOpen

namespace InstanceScript

def setBoss (script : InstanceScript n) (b : Fin n) (f : BossInfo → BossInfo) :
    InstanceScript n :=
  { script with bosses := Function.update script.bosses b (f (script.bosses b)) }

def setGoState (script : InstanceScript n) (door : GameObject) (state : GoState) :
    InstanceScript n :=
  { script with goState := Function.update script.goState door state }

end InstanceScript

/-- Every door keeps its states in the set of its link's boss and type. -/
def BossInfo.setDoors (boss : BossInfo) (type : DoorType)
    (f : List GameObject → List GameObject) : BossInfo :=
  { boss with door := Function.update boss.door type (f (boss.door type)) }

section Script

variable (doors : DoorInfoMap n)

/-- The door follows the bosses that it is linked to. -/
def updateDoorState (script : InstanceScript n) (door : GameObject) : InstanceScript n :=
  let range := doors.range door.entry
  if range.isEmpty then script
  else
    script.setGoState door (if openLoop script.bosses range true then .active else .ready)

/-- One link of the loop of `AddDoor`. -/
def addLink (door : GameObject) (add : Bool) (script : InstanceScript n) (data : DoorInfo n) :
    InstanceScript n :=
  script.setBoss data.bossInfo fun boss => boss.setDoors data.type fun set =>
    if add then set.insert door else set.filter (· ≠ door)

/-- A door is linked to its bosses, or unlinked. -/
def addDoor (script : InstanceScript n) (door : GameObject) (add : Bool) : InstanceScript n :=
  let range := doors.range door.entry
  if range.isEmpty then script
  else
    let script := range.foldl (addLink door add) script
    if add then updateDoorState doors script door else script

def doorTypes : List DoorType := [.room, .passage, .spawnHole]

/-- The change of a boss's state, with its answer; `livingWorldBoss` says that a minion of the boss
is a world boss and alive. -/
def setBossState (script : InstanceScript n) (id : Nat) (state : EncounterState)
    (livingWorldBoss : Bool) : InstanceScript n × Bool :=
  if h : id < n then
    let b : Fin n := ⟨id, h⟩
    let changed := script.setBoss b fun boss => { boss with state }
    -- loading
    if (script.bosses b).state = .toBeDecided then (changed, false)
    else if (script.bosses b).state = state then (script, false)
    else if (state = .done ∨ state = .doneHm) ∧ livingWorldBoss then (script, false)
    else
      ((doorTypes.flatMap (script.bosses b).door).foldl (updateDoorState doors) changed, true)
  else (script, false)

/-- What happens in an instance. -/
inductive Action
  | addDoor (door : GameObject) (add : Bool)
  | setBossState (id : Nat) (state : EncounterState) (livingWorldBoss : Bool)

/-- A door appears or goes, or a boss changes. -/
def step (script : InstanceScript n) : Action → InstanceScript n
  | .addDoor door add => addDoor doors script door add
  | .setBossState id state living => (setBossState doors script id state living).1

end Script

/-- An instance before anything happens: no boss is decided and no door is added. -/
def start (goState : GameObject → GoState) : InstanceScript n := ⟨fun _ => {}, goState⟩

/-! ## What doors should do -/

/-- The doors that are currently added: the last thing said of a door is that it was. -/
def added (history : List Action) (door : GameObject) : Bool :=
  history.foldl (fun isAdded action =>
    match action with
    | .addDoor door' add => if door' = door then add else isAdded
    | .setBossState .. => isAdded) false

theorem added_append (history : List Action) (action : Action) (door : GameObject) :
    added (history ++ [action]) door =
      match action with
      | .addDoor door' add => if door' = door then add else added history door
      | .setBossState .. => added history door := by
  rw [added, List.foldl_append]
  rfl

/-- Every link of the entry allows the door. -/
def Allowed (bosses : Fin n → BossInfo) (range : List (DoorInfo n)) : Prop :=
  ∀ info ∈ range, info.type.allows (bosses info.bossInfo).state = true

/-- Every added door of the table is open exactly when all its bosses allow it. -/
def Follows (doors : DoorInfoMap n) (history : List Action) (script : InstanceScript n) : Prop :=
  ∀ door, added history door = true → doors.range door.entry ≠ [] →
    (script.goState door = .active ↔ Allowed script.bosses (doors.range door.entry))

/-- The sets of doors at the bosses are those of the added doors. -/
def Registered (doors : DoorInfoMap n) (history : List Action) (script : InstanceScript n) :
    Prop :=
  ∀ door b type, door ∈ (script.bosses b).door type ↔
    added history door = true ∧ (⟨b, type⟩ : DoorInfo n) ∈ doors.range door.entry

/-- The first state that a boss is given changes nothing for the doors that are there. -/
def NothingToRefresh (doors : DoorInfoMap n) (script : InstanceScript n) : Action → Prop
  | .addDoor .. => True
  | .setBossState id state _ => ∀ h : id < n,
      (script.bosses ⟨id, h⟩).state = .toBeDecided →
      ∀ type, ∀ door ∈ (script.bosses ⟨id, h⟩).door type,
        openLoop (script.setBoss ⟨id, h⟩ fun boss => { boss with state }).bosses
            (doors.range door.entry) true =
          openLoop script.bosses (doors.range door.entry) true

/-! ## The loops -/

theorem openLoop_false (bosses : Fin n → BossInfo) (range : List (DoorInfo n)) :
    openLoop bosses range false = false := by
  cases range <;> rfl

/-- The loop finds the door open when every link allows it. -/
theorem openLoop_iff (bosses : Fin n → BossInfo) (range : List (DoorInfo n)) :
    openLoop bosses range true = true ↔ Allowed bosses range := by
  induction range with
  | nil => simp [openLoop, Allowed]
  | cons info rest ih =>
    have hcons : Allowed bosses (info :: rest) ↔
        info.type.allows (bosses info.bossInfo).state = true ∧ Allowed bosses rest :=
      List.forall_mem_cons
    cases hallows : info.type.allows (bosses info.bossInfo).state with
    | false => simp [openLoop, hallows, openLoop_false, hcons]
    | true => simpa [openLoop, hallows, hcons] using ih

section Script

variable (doors : DoorInfoMap n)

@[simp] theorem updateDoorState_bosses (script : InstanceScript n) (door : GameObject) :
    (updateDoorState doors script door).bosses = script.bosses := by
  unfold updateDoorState
  dsimp only
  split <;> rfl

theorem updateDoorState_goState (script : InstanceScript n) (door door' : GameObject) :
    (updateDoorState doors script door).goState door' =
      if door' = door ∧ doors.range door.entry ≠ [] then
        if openLoop script.bosses (doors.range door.entry) true then .active else .ready
      else script.goState door' := by
  by_cases hempty : doors.range door.entry = []
  · simp [updateDoorState, hempty]
  · simp [updateDoorState, hempty, InstanceScript.setGoState, Function.update_apply]

/-- A refreshed door is open exactly when it is allowed. -/
theorem active_iff (bosses : Fin n → BossInfo) (range : List (DoorInfo n)) :
    (if openLoop bosses range true then GoState.active else .ready) = .active ↔
      Allowed bosses range := by
  rw [← openLoop_iff]
  cases openLoop bosses range true <;> simp

/-- Refreshing several doors leaves the bosses alone and refreshes just these. -/
theorem foldl_updateDoorState (set : List GameObject) (script : InstanceScript n) :
    (set.foldl (updateDoorState doors) script).bosses = script.bosses ∧
      ∀ door, (set.foldl (updateDoorState doors) script).goState door =
        if door ∈ set ∧ doors.range door.entry ≠ [] then
          if openLoop script.bosses (doors.range door.entry) true then .active else .ready
        else script.goState door := by
  induction set generalizing script with
  | nil => simp
  | cons first rest ih =>
    obtain ⟨hbosses, hgo⟩ := ih (updateDoorState doors script first)
    refine ⟨hbosses.trans (updateDoorState_bosses doors script first), fun door => ?_⟩
    rw [List.foldl_cons, hgo, updateDoorState_bosses, updateDoorState_goState]
    by_cases hfirst : door = first
    · subst hfirst
      by_cases hempty : doors.range door.entry = [] <;> simp [hempty]
    · simp [hfirst]

theorem addLink_door (door door' : GameObject) (add : Bool) (script : InstanceScript n)
    (data : DoorInfo n) (b : Fin n) (type : DoorType) :
    door' ∈ ((addLink door add script data).bosses b).door type ↔
      if data = ⟨b, type⟩ ∧ door' = door then add = true
      else door' ∈ (script.bosses b).door type := by
  obtain ⟨b', type'⟩ := data
  by_cases hb : b' = b
  · subst hb
    by_cases htype : type' = type
    · subst htype
      cases add
      · by_cases hdoor : door' = door <;>
          simp [addLink, InstanceScript.setBoss, BossInfo.setDoors, hdoor]
      · by_cases hdoor : door' = door <;>
          simp [addLink, InstanceScript.setBoss, BossInfo.setDoors, hdoor]
    · have hother : type ≠ type' := fun h => htype h.symm
      simp [addLink, InstanceScript.setBoss, BossInfo.setDoors, htype, hother]
  · have hother : b ≠ b' := fun h => hb h.symm
    simp [addLink, InstanceScript.setBoss, hb, hother]

theorem addLink_state (door : GameObject) (add : Bool) (script : InstanceScript n)
    (data : DoorInfo n) (b : Fin n) :
    ((addLink door add script data).bosses b).state = (script.bosses b).state := by
  by_cases hb : b = data.bossInfo
  · subst hb
    simp [addLink, InstanceScript.setBoss, BossInfo.setDoors]
  · simp [addLink, InstanceScript.setBoss, hb]

/-- The loop over the links of a door enters it at the linked bosses, or removes it there. -/
theorem foldl_addLink (door : GameObject) (add : Bool) (range : List (DoorInfo n))
    (script : InstanceScript n) :
    (∀ b, ((range.foldl (addLink door add) script).bosses b).state = (script.bosses b).state) ∧
      (range.foldl (addLink door add) script).goState = script.goState ∧
      ∀ door' b type, door' ∈ ((range.foldl (addLink door add) script).bosses b).door type ↔
        if ⟨b, type⟩ ∈ range ∧ door' = door then add = true
        else door' ∈ (script.bosses b).door type := by
  induction range generalizing script with
  | nil => simp
  | cons data rest ih =>
    obtain ⟨hstate, hgo, hdoor⟩ := ih (addLink door add script data)
    refine ⟨fun b => (hstate b).trans (addLink_state door add script data b), hgo, ?_⟩
    intro door' b type
    rw [List.foldl_cons, hdoor, addLink_door]
    by_cases hrest : (⟨b, type⟩ : DoorInfo n) ∈ rest <;> by_cases hsame : door' = door <;>
      simp [hrest, hsame, eq_comm]

/-! ## The steps -/

/-- What `AddDoor` does. -/
theorem addDoor_spec (script : InstanceScript n) (door : GameObject) (add : Bool) :
    (∀ b, ((addDoor doors script door add).bosses b).state = (script.bosses b).state) ∧
      (∀ door' b type, door' ∈ ((addDoor doors script door add).bosses b).door type ↔
        if ⟨b, type⟩ ∈ doors.range door.entry ∧ door' = door then add = true
        else door' ∈ (script.bosses b).door type) ∧
      ∀ door', (addDoor doors script door add).goState door' =
        if add = true ∧ door' = door ∧ doors.range door.entry ≠ [] then
          if openLoop script.bosses (doors.range door.entry) true then .active else .ready
        else script.goState door' := by
  by_cases hempty : doors.range door.entry = []
  · simp [addDoor, hempty]
  · obtain ⟨hstate, hgo, hdoor⟩ := foldl_addLink door add (doors.range door.entry) script
    have hsame : openLoop (((doors.range door.entry).foldl (addLink door add) script).bosses)
        (doors.range door.entry) true = openLoop script.bosses (doors.range door.entry) true := by
      rw [Bool.eq_iff_iff, openLoop_iff, openLoop_iff]
      simp only [Allowed, hstate]
    cases add with
    | false =>
      simp only [addDoor, List.isEmpty_iff, hempty, if_false, Bool.false_eq_true, false_and]
      exact ⟨hstate, fun door' b type => by simpa using hdoor door' b type,
        fun door' => congrFun hgo door'⟩
    | true =>
      simp only [addDoor, List.isEmpty_iff, hempty, if_false, if_true]
      refine ⟨fun b => ?_, fun door' b type => ?_, fun door' => ?_⟩
      · rw [updateDoorState_bosses]
        exact hstate b
      · rw [updateDoorState_bosses]
        simpa using hdoor door' b type
      · rw [updateDoorState_goState, hsame, hgo]
        simp

/-- What a change of a boss's state can do: nothing, only set the state of a boss that was not
decided, or set the state and refresh the boss's doors. -/
theorem setBossState_cases (script : InstanceScript n) (id : Nat) (state : EncounterState)
    (living : Bool) :
    (setBossState doors script id state living).1 = script ∧
        (∀ h : id < n, (script.bosses ⟨id, h⟩).state ≠ .toBeDecided) ∨
      ∃ h : id < n,
        (script.bosses ⟨id, h⟩).state = .toBeDecided ∧
            (setBossState doors script id state living).1 =
              script.setBoss ⟨id, h⟩ (fun boss => { boss with state }) ∨
          (script.bosses ⟨id, h⟩).state ≠ .toBeDecided ∧
            (setBossState doors script id state living).1 =
              (doorTypes.flatMap (script.bosses ⟨id, h⟩).door).foldl (updateDoorState doors)
                (script.setBoss ⟨id, h⟩ fun boss => { boss with state }) := by
  by_cases h : id < n
  · by_cases hloading : (script.bosses ⟨id, h⟩).state = .toBeDecided
    · exact .inr ⟨h, .inl ⟨hloading, by simp [setBossState, h, hloading]⟩⟩
    · by_cases hsame : (script.bosses ⟨id, h⟩).state = state
      · refine .inl ⟨?_, fun _ => hloading⟩
        simp only [setBossState, h, dif_pos, if_neg hloading, if_pos hsame]
      · by_cases hliving : (state = .done ∨ state = .doneHm) ∧ living
        · refine .inl ⟨?_, fun _ => hloading⟩
          simp only [setBossState, h, dif_pos, if_neg hloading, if_neg hsame, if_pos hliving]
        · refine .inr ⟨h, .inr ⟨hloading, ?_⟩⟩
          simp only [setBossState, h, dif_pos, if_neg hloading, if_neg hsame, if_neg hliving]
  · exact .inl ⟨by simp [setBossState, h], fun h' => absurd h' h⟩

theorem setBoss_state_door (script : InstanceScript n) (b b' : Fin n) (state : EncounterState)
    (type : DoorType) :
    ((script.setBoss b fun boss => { boss with state }).bosses b').door type =
      (script.bosses b').door type := by
  by_cases hb : b' = b
  · subst hb
    simp [InstanceScript.setBoss]
  · simp [InstanceScript.setBoss, hb]

/-- A door that is not linked to the boss is as allowed as before. -/
theorem openLoop_setBoss_of_not_linked (script : InstanceScript n) (b : Fin n)
    (state : EncounterState) {range : List (DoorInfo n)}
    (h : ∀ type, (⟨b, type⟩ : DoorInfo n) ∉ range) :
    openLoop (script.setBoss b fun boss => { boss with state }).bosses range true =
      openLoop script.bosses range true := by
  rw [Bool.eq_iff_iff, openLoop_iff, openLoop_iff]
  refine forall₂_congr fun info hinfo => ?_
  have hother : info.bossInfo ≠ b := fun heq => h info.type (heq ▸ hinfo)
  simp [InstanceScript.setBoss, hother]

variable {doors}

/-- The sets of doors stay those of the added doors. -/
theorem Registered.step {history : List Action} {script : InstanceScript n}
    (h : Registered doors history script) (action : Action) :
    Registered doors (history ++ [action]) (step doors script action) := by
  intro door b type
  rw [added_append]
  cases action with
  | addDoor door' add =>
    obtain ⟨-, hdoor, -⟩ := addDoor_spec doors script door' add
    rw [InstanceDoors.step, hdoor, h]
    by_cases hsame : door = door'
    · subst hsame
      by_cases hlinked : (⟨b, type⟩ : DoorInfo n) ∈ doors.range door.entry <;> simp [hlinked]
    · have hother : door' ≠ door := fun heq => hsame heq.symm
      simp [hsame, hother]
  | setBossState id state living =>
    rw [InstanceDoors.step, ← h]
    rcases setBossState_cases doors script id state living with
      ⟨hsame, -⟩ | ⟨hid, ⟨-, hset⟩ | ⟨-, hset⟩⟩
    · rw [hsame]
    · rw [hset, setBoss_state_door]
    · rw [hset, (foldl_updateDoorState doors _ _).1, setBoss_state_door]

/-- A step keeps the doors following exactly when it leaves nothing to refresh. -/
theorem Follows.step_iff {history : List Action} {script : InstanceScript n}
    (hregistered : Registered doors history script) (h : Follows doors history script)
    (action : Action) :
    Follows doors (history ++ [action]) (step doors script action) ↔
      NothingToRefresh doors script action := by
  cases action with
  | addDoor door add =>
    refine iff_of_true ?_ trivial
    obtain ⟨hstate, -, hgo⟩ := addDoor_spec doors script door add
    intro door' hadded hlinked
    rw [added_append] at hadded
    have hallowed : Allowed (addDoor doors script door add).bosses (doors.range door'.entry) ↔
        Allowed script.bosses (doors.range door'.entry) := by
      simp only [Allowed, hstate]
    rw [InstanceDoors.step, hallowed, hgo]
    by_cases hsame : door' = door
    · subst hsame
      have hadd : add = true := by simpa using hadded
      rw [if_pos ⟨hadd, rfl, hlinked⟩]
      exact active_iff script.bosses _
    · have hother : door ≠ door' := fun heq => hsame heq.symm
      rw [if_neg fun hboth => hsame hboth.2.1]
      exact h door' (by simpa [hother] using hadded) hlinked
  | setBossState id state living =>
    have hhistory : ∀ door, added (history ++ [.setBossState id state living]) door =
        added history door := added_append history _
    rcases setBossState_cases doors script id state living with
      ⟨hsame, hdecided⟩ | ⟨hid, ⟨hloading, hset⟩ | ⟨hdecided, hset⟩⟩
    · refine iff_of_true (fun door hadded hlinked => ?_)
        fun hid hloading => absurd hloading (hdecided hid)
      rw [InstanceDoors.step, hsame]
      exact h door (hhistory door ▸ hadded) hlinked
    · -- the doors stay as they are, so they follow when their bosses ask the same of them
      rw [InstanceDoors.step.eq_def]
      simp only [hset]
      constructor
      · intro hfollows hid' _ type door hdoor
        obtain ⟨hadded, hlink⟩ := (hregistered door _ type).mp hdoor
        have hlinked : doors.range door.entry ≠ [] := List.ne_nil_of_mem hlink
        have hnow := hfollows door (hhistory door ▸ hadded) hlinked
        have hbefore := h door hadded hlinked
        rw [Bool.eq_iff_iff, openLoop_iff, openLoop_iff]
        exact hnow.symm.trans hbefore
      · intro hkept door hadded hlinked
        rw [hhistory] at hadded
        have hsame : openLoop (script.setBoss ⟨id, hid⟩ fun boss => { boss with state }).bosses
            (doors.range door.entry) true =
            openLoop script.bosses (doors.range door.entry) true := by
          by_cases hlink : ∃ type, (⟨⟨id, hid⟩, type⟩ : DoorInfo n) ∈ doors.range door.entry
          · obtain ⟨type, hlink⟩ := hlink
            exact hkept hid hloading type door ((hregistered door _ type).mpr ⟨hadded, hlink⟩)
          · exact openLoop_setBoss_of_not_linked script ⟨id, hid⟩ state
              fun type hmem => hlink ⟨type, hmem⟩
        rw [← openLoop_iff, hsame, openLoop_iff]
        exact h door hadded hlinked
    · refine iff_of_true (fun door hadded hlinked => ?_)
        fun _ hloading => absurd hloading hdecided
      obtain ⟨hbosses, hgo⟩ := foldl_updateDoorState doors
        (doorTypes.flatMap (script.bosses ⟨id, hid⟩).door)
        (script.setBoss ⟨id, hid⟩ fun boss => { boss with state })
      rw [hhistory] at hadded
      rw [InstanceDoors.step.eq_def]
      simp only [hset, hbosses]
      by_cases hin : door ∈ doorTypes.flatMap (script.bosses ⟨id, hid⟩).door
      · rw [hgo, if_pos ⟨hin, hlinked⟩]
        exact active_iff _ _
      · rw [hgo, if_neg fun hboth => hin hboth.1]
        have hunlinked : ∀ type, (⟨⟨id, hid⟩, type⟩ : DoorInfo n) ∉
            doors.range door.entry := by
          intro type hmem
          refine hin (List.mem_flatMap.mpr ⟨type, ?_, ?_⟩)
          · cases type <;> simp [doorTypes]
          · exact (hregistered door _ type).mpr ⟨hadded, hmem⟩
        rw [← openLoop_iff, openLoop_setBoss_of_not_linked script ⟨id, hid⟩ state hunlinked,
          openLoop_iff]
        exact h door hadded hlinked

end Script

/-! ## Runs -/

theorem registered_start (doors : DoorInfoMap n) (goState : GameObject → GoState) :
    Registered doors [] (start (n := n) goState) := by
  intro door b type
  simp [start, added]

theorem follows_start (doors : DoorInfoMap n) (goState : GameObject → GoState) :
    Follows doors [] (start (n := n) goState) := by
  intro door hadded
  exact absurd hadded Bool.false_ne_true

/-- The doors follow their bosses throughout a run exactly when the first state of every boss
leaves nothing to refresh. -/
theorem doors_follow_iff (doors : DoorInfoMap n) (goState : GameObject → GoState)
    (actions : List Action) :
    (∀ before, before <+: actions →
        Follows doors before (Runs.run (step doors) (start goState) before)) ↔
      Runs.Admissible (step doors) (NothingToRefresh doors) (start goState) actions := by
  have hruns := @Runs.admissible_iff_throughout _ _ (step doors) (NothingToRefresh doors)
    (Registered doors) (Follows doors) (fun action h => h.step action)
    (fun action hregistered h => h.step_iff hregistered action) (start goState) []
    (registered_start doors goState) (follows_start doors goState) actions
  simpa using hruns

/-- A passage behind the only boss. -/
def passageDoors : DoorInfoMap 1 := loadDoorData 1 [⟨5, 0, .passage⟩, ⟨0, 0, .room⟩]

def passageDoor : GameObject := ⟨1, 5⟩

def defeated : List Action := [.addDoor passageDoor true, .setBossState 0 .done false]

/-- The passage stays shut when the boss's first state is that it is done. -/
theorem first_state_ignored :
    added defeated passageDoor = true ∧
      (Runs.run (step passageDoors) (start fun _ => .ready) defeated).goState passageDoor =
        .ready ∧
      Allowed (Runs.run (step passageDoors) (start fun _ => .ready) defeated).bosses
        (passageDoors.range passageDoor.entry) ∧
      ¬Follows passageDoors defeated
        (Runs.run (step passageDoors) (start fun _ => .ready) defeated) := by
  have hshut : (Runs.run (step passageDoors) (start fun _ => .ready) defeated).goState
      passageDoor = .ready := by decide
  have hallowed : Allowed (Runs.run (step passageDoors) (start fun _ => .ready) defeated).bosses
      (passageDoors.range passageDoor.entry) := (openLoop_iff _ _).mp (by decide)
  refine ⟨by decide, hshut, hallowed, fun hfollows => ?_⟩
  have hopen := (hfollows passageDoor (by decide) (by decide)).mpr hallowed
  rw [hshut] at hopen
  cases hopen

end Cataclysm.InstanceDoors
