import Cataclysm.Lib.PeriodicWindow

/-!
# Game events and their timer

A game event takes place in a window that returns every period between its first and its last
second. The update starts and stops the events according to `CheckOneGameEvent` and sleeps until
the earliest second at which `NextCheck` says that one of them may change.

## Implementation notes

`time_t` is `Int` and the clock is an argument, the same in all functions of one update. The
columns `start_time` and `end_time` come through `UNIX_TIMESTAMP`, so that the conversion to
`time_t` keeps them; `occurence` and `length` are cut to 32 bits. A remainder by zero is `none`.
Spawns, announcements and the saved states of world events change nothing that the timer reads.
The sets of events to start and to stop are lists: the loop inserts the numbers in the order in
which the set is walked.
-/

namespace Cataclysm.Events

def uint32 (z : Int) : Nat := (z % 2 ^ 32).toNat

/-- Seconds in a minute. -/
def minute : Int := 60

/-- The longest time between two updates, a day. -/
def maxGeCheckDelay : Nat := 86400

/-- The states of an event. -/
inductive GameEventState
  | normal
  | worldInactive
  | worldConditions
  | worldNextphase
  | worldFinished
  | internal
  | other (state : Nat)
  deriving DecidableEq

def GameEventState.ofNat : Nat → GameEventState
  | 0 => normal
  | 1 => worldInactive
  | 2 => worldConditions
  | 3 => worldNextphase
  | 4 => worldFinished
  | 5 => internal
  | state => other state

/-- `GameEventFinishCondition`. -/
structure GameEventFinishCondition where
  reqNum : ℚ
  done : ℚ
  deriving DecidableEq

/-- An event with its times. -/
structure GameEventData where
  startTime : Int := 1
  endTime : Int := 0
  nextstart : Int := 0
  occurence : Nat := 0
  length : Nat := 0
  state : GameEventState := .normal
  conditions : List GameEventFinishCondition := []
  prerequisiteEvents : List Nat := []
  deriving DecidableEq

/-- A row of the table `game_event`. -/
structure GameEventRow where
  eventEntry : Nat
  startTime : Nat
  endTime : Nat
  occurence : Nat
  length : Nat
  worldEvent : Nat

/-- The event as the loader fills it in, over what its slot holds already. -/
def GameEventRow.toData (row : GameEventRow) (base : GameEventData) : GameEventData :=
  { base with
    startTime := row.startTime
    endTime := row.endTime
    occurence := uint32 row.occurence
    length := uint32 row.length
    state := .ofNat row.worldEvent
    nextstart := 0 }

/-- The loader uses the row: it has a number, and a length or a world state. -/
def GameEventRow.Accepted (row : GameEventRow) : Prop :=
  row.eventEntry ≠ 0 ∧ ¬(uint32 row.length = 0 ∧ GameEventState.ofNat row.worldEvent = .normal)

instance (row : GameEventRow) : Decidable row.Accepted :=
  inferInstanceAs (Decidable (_ ∧ ¬(_ ∧ _)))

/-- One row of the loader; a row that is refused for its length has been filled in before. -/
def loadRow (mGameEvent : List GameEventData) (row : GameEventRow) : List GameEventData :=
  if row.eventEntry = 0 then mGameEvent
  else mGameEvent.modify row.eventEntry row.toData

/-- The rows of the table are read. -/
def loadFromDB (mGameEvent : List GameEventData) (rows : List GameEventRow) :
    List GameEventData :=
  rows.foldl loadRow mGameEvent

/-- The remainder of a signed division, undefined for the divisor zero. -/
def remainder (a : Int) (b : Nat) : Option Int := if b = 0 then none else some (a.tmod b)

namespace GameEventData

/-- The period of an event in seconds. -/
def period (data : GameEventData) : Nat := uint32 (data.occurence * minute)

/-- The length of a normal event's window in seconds. -/
def window (data : GameEventData) : Nat := uint32 (data.length * minute)

/-- The check of a normal event; the remainder is only computed inside the event's bounds. -/
def checkNormal (data : GameEventData) (currenttime : Int) : Option Bool :=
  if data.startTime < currenttime ∧ currenttime < data.endTime then
    (remainder (currenttime - data.startTime) data.period).map fun (r : Int) =>
      decide (r < data.window)
  else some false

/-- The seconds until the event has to be looked at. -/
def nextCheck (data : GameEventData) (currenttime : Int) : Option Nat :=
  if (data.state = .worldNextphase ∨ data.state = .worldFinished) ∧
      data.nextstart ≥ currenttime then
    some (uint32 (data.nextstart - currenttime))
  else if data.state = .worldConditions then
    some (if data.length ≠ 0 then data.window else maxGeCheckDelay)
  else if currenttime > data.endTime then some maxGeCheckDelay
  else if data.startTime > currenttime then some (uint32 (data.startTime - currenttime))
  else do
    let r ← remainder (currenttime - data.startTime) data.period
    let delay := uint32 (if r < data.window then data.window - r else data.period - r)
    if data.endTime < currenttime + delay then some (uint32 (data.endTime - currenttime))
    else some delay

end GameEventData

/-- The events and which are active. -/
structure GameEventMgr where
  mGameEvent : List GameEventData
  activeEvents : Finset Nat
  deriving DecidableEq

namespace GameEventMgr

def event (mgr : GameEventMgr) (entry : Nat) : GameEventData := mgr.mGameEvent.getD entry {}

def setEvent (mgr : GameEventMgr) (entry : Nat) (f : GameEventData → GameEventData) :
    GameEventMgr :=
  { mgr with mGameEvent := mgr.mGameEvent.modify entry f }

/-- Whether the event should run now. -/
def checkOneGameEvent (mgr : GameEventMgr) (entry : Nat) (currenttime : Int) : Option Bool :=
  match (mgr.event entry).state with
  | .worldConditions | .worldNextphase => some true
  | .worldFinished | .internal => some false
  | .worldInactive =>
    let prerequisites := (mgr.event entry).prerequisiteEvents
    if prerequisites.any (fun p =>
        ((mgr.event p).state ≠ .worldNextphase ∧ (mgr.event p).state ≠ .worldFinished) ∨
          (mgr.event p).nextstart > currenttime) then some false
    else some (!prerequisites.isEmpty)
  | .normal | .other _ => (mgr.event entry).checkNormal currenttime

def nextCheck (mgr : GameEventMgr) (entry : Nat) (currenttime : Int) : Option Nat :=
  (mgr.event entry).nextCheck currenttime

/-- Move the event to its next phase when all its conditions are met, and say whether they are. -/
def checkOneGameEventConditions (mgr : GameEventMgr) (entry : Nat) (currenttime : Int) :
    GameEventMgr × Bool :=
  if (mgr.event entry).conditions.any (fun c => c.done < c.reqNum) then (mgr, false)
  else
    (mgr.setEvent entry fun data =>
      { data with
        state := .worldNextphase
        nextstart :=
          if data.nextstart = 0 then currenttime + data.window else data.nextstart }, true)

/-- Start an event as the update does, and say whether it is already completed. -/
def startEvent (currenttime : Int) (mgr : GameEventMgr) (entry : Nat) : GameEventMgr × Bool :=
  let started := { mgr with activeEvents := insert entry mgr.activeEvents }
  if (mgr.event entry).state = .normal ∨ (mgr.event entry).state = .internal then (started, false)
  else
    let started :=
      if (mgr.event entry).state = .worldInactive then
        started.setEvent entry fun data => { data with state := .worldConditions }
      else started
    started.checkOneGameEventConditions entry currenttime

/-- Stop an event as the update does; a world event that is not finished starts over. -/
def stopEvent (mgr : GameEventMgr) (entry : Nat) : GameEventMgr :=
  let state := (mgr.event entry).state
  let stopped := { mgr with activeEvents := mgr.activeEvents.erase entry }
  if state ≠ .normal ∧ state ≠ .internal ∧ state ≠ .worldFinished then
    stopped.setEvent entry fun data =>
      { data with
        nextstart := 0
        state := .worldInactive
        conditions := data.conditions.map fun c => { c with done := 0 } }
  else stopped

end GameEventMgr

/-- The variables of the update's loop over the events. -/
structure UpdatePass where
  mgr : GameEventMgr
  nextEventDelay : Nat
  activate : List Nat
  deactivate : List Nat
  deriving DecidableEq

namespace GameEventMgr

/-- What the update does for one event. -/
def updateEvent (currenttime : Int) (pass : UpdatePass) (itr : Nat) : Option UpdatePass := do
  let active ← pass.mgr.checkOneGameEvent itr currenttime
  let data := pass.mgr.event itr
  if active = true ∧ data.state = .worldNextphase ∧ data.nextstart ≤ currenttime then
    return { pass with
      mgr := pass.mgr.setEvent itr fun data =>
        { data with state := .worldFinished, nextstart := 0 }
      deactivate :=
        if itr ∈ pass.mgr.activeEvents then pass.deactivate ++ [itr] else pass.deactivate }
  let mgr :=
    if active = true ∧ data.state = .worldConditions then
      (pass.mgr.checkOneGameEventConditions itr currenttime).1
    else pass.mgr
  let calcDelay ← mgr.nextCheck itr currenttime
  return {
    mgr := mgr
    nextEventDelay := min calcDelay pass.nextEventDelay
    activate :=
      if active = true ∧ itr ∉ mgr.activeEvents then pass.activate ++ [itr] else pass.activate
    deactivate :=
      if active = false ∧ itr ∈ mgr.activeEvents then pass.deactivate ++ [itr]
      else pass.deactivate }

/-- Start an event of the queue; one that is completed at once calls for another update. -/
def activateEvent (currenttime : Int) (s : GameEventMgr × Nat) (entry : Nat) :
    GameEventMgr × Nat :=
  let started := startEvent currenttime s.1 entry
  (started.1, if started.2 then 0 else s.2)

/-- The update, with the milliseconds until the next one. -/
def update (mgr : GameEventMgr) (currenttime : Int) : Option (GameEventMgr × Nat) := do
  let pass ← (List.range' 1 (mgr.mGameEvent.length - 1)).foldlM (updateEvent currenttime)
    ⟨mgr, maxGeCheckDelay, [], []⟩
  let started := pass.activate.foldl (activateEvent currenttime) (pass.mgr, pass.nextEventDelay)
  return (pass.deactivate.foldl stopEvent started.1, (started.2 + 1) * 1000)

end GameEventMgr

/-- An update and the sleep behind it. -/
def UpdateAndSleep (now next : GameEventMgr × Int) : Prop :=
  ∃ delay, now.1.update now.2 = some (next.1, delay) ∧ next.2 = now.2 + (delay / 1000 : Nat)

/-! ## One event -/

/-- Both checks are defined at a second, and up to the next check the event does not change. -/
def GameEventMgr.NoTransitionMissed (mgr : GameEventMgr) (entry : Nat) (now : Int) : Prop :=
  ∃ active delay, mgr.checkOneGameEvent entry now = some active ∧
    mgr.nextCheck entry now = some delay ∧
    ∀ t : Int, now ≤ t → t < now + delay → mgr.checkOneGameEvent entry t = some active

/-- The second of a check is harmless: between the event's bounds there is a period, and the very
first second is not checked, unless the window is empty or the event has no second after it. -/
def GameEventData.CheckedInTime (data : GameEventData) (now : Int) : Prop :=
  data.startTime ≤ now → now ≤ data.endTime → data.period ≠ 0 ∧
    (now = data.startTime → data.window = 0 ∨ data.endTime ≤ data.startTime + 1)

theorem uint32_of_lt {z : Int} (hnonneg : 0 ≤ z) (hlt : z < 2 ^ 32) : (uint32 z : Int) = z := by
  rw [uint32, Int.emod_eq_of_lt hnonneg hlt, Int.toNat_of_nonneg hnonneg]

theorem uint32_lt (z : Int) : (uint32 z : Int) < 2 ^ 32 := by
  have hnonneg := Int.emod_nonneg z (by decide : (2 ^ 32 : Int) ≠ 0)
  have hlt := Int.emod_lt_of_pos z (by decide : (0 : Int) < 2 ^ 32)
  rw [uint32, Int.toNat_of_nonneg hnonneg]
  exact hlt

/-- Cutting a delay to 32 bits does not make it longer. -/
theorem uint32_le {z : Int} (hnonneg : 0 ≤ z) : (uint32 z : Int) ≤ z := by
  rw [uint32, Int.toNat_of_nonneg (Int.emod_nonneg z (by decide))]
  omega

theorem remainder_of_pos {a : Int} {b : Nat} (ha : 0 ≤ a) (hb : b ≠ 0) :
    remainder a b = some (a % b) := by
  rw [remainder, if_neg hb, Int.tmod_eq_emod_of_nonneg ha]

namespace GameEventData

open PeriodicWindow

variable {data : GameEventData} {now t : Int}

theorem checkNormal_of_outside (h : ¬(data.startTime < now ∧ now < data.endTime)) :
    data.checkNormal now = some false := if_neg h

theorem checkNormal_of_inside (hstart : data.startTime < now) (hend : now < data.endTime)
    (hperiod : data.period ≠ 0) :
    data.checkNormal now =
      some (decide (Open data.window data.period (now - data.startTime))) := by
  rw [checkNormal, if_pos ⟨hstart, hend⟩, remainder_of_pos (by omega) hperiod]
  rfl

/-- What a check at a second promises of the seconds up to the next check. -/
def Constant (data : GameEventData) (now : Int) : Prop :=
  ∃ active delay, data.checkNormal now = some active ∧ data.nextCheck now = some delay ∧
    ∀ t : Int, now ≤ t → t < now + delay → data.checkNormal t = some active

section Normal

variable (hstate : data.state = .normal)
include hstate

theorem nextCheck_of_over (h : data.endTime < now) :
    data.nextCheck now = some maxGeCheckDelay := by
  simp [nextCheck, hstate, h]

theorem nextCheck_of_before (hstart : now < data.startTime) (hend : now ≤ data.endTime) :
    data.nextCheck now = some (uint32 (data.startTime - now)) := by
  simp [nextCheck, hstate, hstart, Int.not_lt.2 hend]

theorem nextCheck_of_no_period (hstart : data.startTime ≤ now) (hend : now ≤ data.endTime)
    (hperiod : data.period = 0) : data.nextCheck now = none := by
  simp [nextCheck, hstate, Int.not_lt.2 hstart, Int.not_lt.2 hend, remainder, hperiod]

/-- Inside the bounds the next check is at the boundary of the window, or at the end before it. -/
theorem nextCheck_of_inside (hstart : data.startTime ≤ now) (hend : now ≤ data.endTime)
    (hperiod : data.period ≠ 0) :
    ∃ delay : Nat, data.nextCheck now = some delay ∧
      (delay : Int) =
        min (toBoundary data.window data.period (now - data.startTime)) (data.endTime - now) := by
  have hpos : (0 : Int) < data.period := by omega
  have hbound : 0 < toBoundary data.window data.period (now - data.startTime) :=
    toBoundary_pos hpos
  have hle : toBoundary data.window data.period (now - data.startTime) ≤
      max (data.window : Int) data.period := toBoundary_le hpos
  have hwindow : (data.window : Int) < 2 ^ 32 := uint32_lt _
  have hperiod32 : (data.period : Int) < 2 ^ 32 := uint32_lt _
  have hfits : (uint32 (toBoundary data.window data.period (now - data.startTime)) : Int) =
      toBoundary data.window data.period (now - data.startTime) :=
    uint32_of_lt hbound.le (by omega)
  have hdelay : (uint32 (if (now - data.startTime) % data.period < data.window then
      data.window - (now - data.startTime) % data.period
      else data.period - (now - data.startTime) % data.period) : Int) =
      toBoundary data.window data.period (now - data.startTime) := hfits
  by_cases hover : data.endTime < now + toBoundary data.window data.period (now - data.startTime)
  · refine ⟨uint32 (data.endTime - now), ?_, ?_⟩
    · simp [nextCheck, hstate, Int.not_lt.2 hstart, Int.not_lt.2 hend,
        remainder_of_pos (Int.sub_nonneg.2 hstart) hperiod, hdelay, hover]
    · rw [uint32_of_lt (by omega) (by omega)]
      omega
  · refine ⟨_, ?_, hdelay.trans (by omega)⟩
    simp [nextCheck, hstate, Int.not_lt.2 hstart, Int.not_lt.2 hend,
      remainder_of_pos (Int.sub_nonneg.2 hstart) hperiod, hdelay, hover]

/-- Before the first second and after the last one the event is off for the whole sleep. -/
theorem constant_of_outside (h : now < data.startTime ∨ data.endTime < now) :
    data.Constant now := by
  by_cases hend : data.endTime < now
  · refine ⟨false, _, checkNormal_of_outside (by omega), nextCheck_of_over hstate hend, ?_⟩
    intro t hnow _
    exact checkNormal_of_outside (by omega)
  · have hstart : now < data.startTime := h.resolve_right hend
    refine ⟨false, _, checkNormal_of_outside (by omega),
      nextCheck_of_before hstate hstart (by omega), ?_⟩
    intro t _ hlt
    have hcut := uint32_le (z := data.startTime - now) (by omega)
    exact checkNormal_of_outside (by omega)

/-- Inside the bounds the window does not change before the next check. -/
theorem constant_of_inside (hstart : data.startTime < now) (hend : now ≤ data.endTime)
    (hperiod : data.period ≠ 0) : data.Constant now := by
  obtain ⟨delay, hnext, hdelay⟩ := nextCheck_of_inside hstate hstart.le hend hperiod
  rcases hend.lt_or_eq with hbefore | hlast
  · refine ⟨_, delay, checkNormal_of_inside hstart hbefore hperiod, hnext, ?_⟩
    intro t hnow hlt
    have hsame : Open data.window data.period (now - data.startTime + (t - now)) ↔
        Open data.window data.period (now - data.startTime) :=
      open_add_iff (by omega) (by omega) (by omega)
    rw [show now - data.startTime + (t - now) = t - data.startTime by omega] at hsame
    rw [checkNormal_of_inside (by omega) (by omega) hperiod]
    exact congrArg some (decide_eq_decide.2 hsame)
  · refine ⟨false, delay, checkNormal_of_outside (by omega), hnext, ?_⟩
    intro t _ hlt
    exact checkNormal_of_outside (by omega)

omit hstate in
/-- A length in minutes is never one second long. -/
theorem window_ne_one : data.window ≠ 1 := by
  simp only [window, uint32, minute]
  omega

/-- In the first second the window is still closed, but the next check takes it for open. -/
theorem constant_at_start_iff (hend : data.startTime ≤ data.endTime) (hperiod : data.period ≠ 0) :
    data.Constant data.startTime ↔ data.window = 0 ∨ data.endTime ≤ data.startTime + 1 := by
  obtain ⟨delay, hnext, hdelay⟩ := nextCheck_of_inside hstate le_rfl hend hperiod
  have hoff : data.checkNormal data.startTime = some false := checkNormal_of_outside (by omega)
  have hzero : (data.startTime - data.startTime) % (data.period : Int) = 0 := by simp
  constructor
  · rintro ⟨active, delay', hactive, hnext', hconstant⟩
    obtain rfl : false = active := Option.some.inj (hoff.symm.trans hactive)
    obtain rfl : delay = delay' := Option.some.inj (hnext.symm.trans hnext')
    by_contra hlong
    have hopen : toBoundary data.window data.period (data.startTime - data.startTime) =
        data.window := by
      rw [toBoundary, if_pos (show Open _ _ _ by rw [Open, hzero]; omega), hzero, Int.sub_zero]
    have hwindow : data.window ≠ 1 := window_ne_one
    have hnextSecond := hconstant (data.startTime + 1) (by omega) (by omega)
    rw [checkNormal_of_inside (by omega) (by omega) hperiod] at hnextSecond
    have hclosed : ¬Open data.window data.period (data.startTime + 1 - data.startTime) :=
      of_decide_eq_false (Option.some.inj hnextSecond)
    have hrest : (1 : Int) % data.period ≤ 1 := by
      rcases (by omega : data.period = 1 ∨ (1 : Int) < data.period) with hone | hmore
      · simp [hone]
      · exact (Int.emod_eq_of_lt (by decide) hmore).le
    rw [show data.startTime + 1 - data.startTime = 1 by omega, Open] at hclosed
    omega
  · intro hshort
    refine ⟨false, delay, hoff, hnext, ?_⟩
    intro t hnow hlt
    by_cases hinside : data.startTime < t ∧ t < data.endTime
    · have hempty : data.window = 0 := hshort.resolve_right (by omega)
      rw [checkNormal_of_inside hinside.1 hinside.2 hperiod]
      have hclosed : ¬Open data.window data.period (t - data.startTime) := by
        have := Int.emod_nonneg (t - data.startTime) (by omega : (data.period : Int) ≠ 0)
        rw [Open, hempty]
        omega
      exact congrArg some (decide_eq_false hclosed)
    · exact checkNormal_of_outside hinside

/-- A check misses nothing exactly when its second is harmless. -/
theorem constant_iff : data.Constant now ↔ data.CheckedInTime now := by
  by_cases hbounds : data.startTime ≤ now ∧ now ≤ data.endTime
  · obtain ⟨hstart, hend⟩ := hbounds
    by_cases hperiod : data.period = 0
    · refine iff_of_false ?_ fun h => (h hstart hend).1 hperiod
      rintro ⟨active, delay, -, hnext, -⟩
      rw [nextCheck_of_no_period hstate hstart hend hperiod] at hnext
      cases hnext
    · rcases hstart.lt_or_eq with hlater | hfirst
      · refine iff_of_true (constant_of_inside hstate hlater hend hperiod) fun _ _ => ?_
        exact ⟨hperiod, fun hnow => absurd hnow hlater.ne'⟩
      · subst hfirst
        rw [constant_at_start_iff hstate hend hperiod]
        exact ⟨fun h _ _ => ⟨hperiod, fun _ => h⟩, fun h => (h le_rfl hend).2 rfl⟩
  · refine iff_of_true (constant_of_outside hstate (by omega)) fun hstart hend => ?_
    exact absurd ⟨hstart, hend⟩ hbounds

end Normal

end GameEventData

/-! ## The update -/

namespace GameEventMgr

variable {mgr : GameEventMgr} {entry itr : Nat} {data : GameEventData} {now : Int}

/-- The table holds a normal event. -/
structure HoldsNormal (mgr : GameEventMgr) (entry : Nat) (data : GameEventData) : Prop where
  found : mgr.mGameEvent[entry]? = some data
  normal : data.state = .normal

theorem HoldsNormal.event (h : mgr.HoldsNormal entry data) : mgr.event entry = data := by
  simp [GameEventMgr.event, List.getD_eq_getElem?_getD, h.found]

theorem HoldsNormal.checkOneGameEvent (h : mgr.HoldsNormal entry data) (t : Int) :
    mgr.checkOneGameEvent entry t = data.checkNormal t := by
  simp [GameEventMgr.checkOneGameEvent, h.event, h.normal]

theorem HoldsNormal.nextCheck (h : mgr.HoldsNormal entry data) (t : Int) :
    mgr.nextCheck entry t = data.nextCheck t := by
  rw [GameEventMgr.nextCheck, h.event]

theorem HoldsNormal.missesNothing_iff (h : mgr.HoldsNormal entry data) :
    mgr.NoTransitionMissed entry now ↔ data.CheckedInTime now := by
  rw [← GameEventData.constant_iff h.normal]
  simp only [NoTransitionMissed, GameEventData.Constant, h.checkOneGameEvent, h.nextCheck]

theorem HoldsNormal.setEvent (h : mgr.HoldsNormal entry data) (hne : itr ≠ entry)
    (f : GameEventData → GameEventData) : (mgr.setEvent itr f).HoldsNormal entry data :=
  ⟨by simp [GameEventMgr.setEvent, hne, h.found], h.normal⟩

theorem HoldsNormal.congr {mgr' : GameEventMgr} (h : mgr.HoldsNormal entry data)
    (hsame : mgr'.mGameEvent = mgr.mGameEvent) : mgr'.HoldsNormal entry data :=
  ⟨hsame ▸ h.found, h.normal⟩

/-- The conditions of another event leave a normal event as it is, and the active events too. -/
theorem checkOneGameEventConditions_active (mgr : GameEventMgr) (itr : Nat) (now : Int) :
    (mgr.checkOneGameEventConditions itr now).1.activeEvents = mgr.activeEvents := by
  unfold checkOneGameEventConditions
  split <;> rfl

theorem HoldsNormal.checkOneGameEventConditions (h : mgr.HoldsNormal entry data)
    (hne : itr ≠ entry) (now : Int) :
    (mgr.checkOneGameEventConditions itr now).1.HoldsNormal entry data := by
  unfold GameEventMgr.checkOneGameEventConditions
  split
  · exact h
  · exact h.setEvent hne _

/-- What the loop over the events has done for one event that it has not reached yet. -/
structure Untouched (pass pass' : UpdatePass) (entry : Nat) (data : GameEventData) : Prop where
  holds : pass'.mgr.HoldsNormal entry data
  active : pass'.mgr.activeEvents = pass.mgr.activeEvents
  delay_le : pass'.nextEventDelay ≤ pass.nextEventDelay
  activate : entry ∈ pass'.activate ↔ entry ∈ pass.activate
  deactivate : entry ∈ pass'.deactivate ↔ entry ∈ pass.deactivate

theorem Untouched.refl {pass : UpdatePass} (h : pass.mgr.HoldsNormal entry data) :
    Untouched pass pass entry data := ⟨h, rfl, le_rfl, .rfl, .rfl⟩

theorem Untouched.trans {first second third : UpdatePass}
    (h : Untouched first second entry data) (h' : Untouched second third entry data) :
    Untouched first third entry data where
  holds := h'.holds
  active := h'.active.trans h.active
  delay_le := h'.delay_le.trans h.delay_le
  activate := h'.activate.trans h.activate
  deactivate := h'.deactivate.trans h.deactivate

/-- Queuing another event. -/
theorem mem_queue_of_ne (hne : itr ≠ entry) {queued : Prop} [Decidable queued]
    {queue : List Nat} :
    entry ∈ (if queued then queue ++ [itr] else queue) ↔ entry ∈ queue := by
  split <;> simp [hne.symm]

/-- The loop's step for another event. -/
theorem updateEvent_other {pass pass' : UpdatePass} (h : pass.mgr.HoldsNormal entry data)
    (hne : itr ≠ entry) (hstep : updateEvent now pass itr = some pass') :
    Untouched pass pass' entry data := by
  simp only [updateEvent, Option.bind_eq_bind, Option.bind_eq_some_iff] at hstep
  obtain ⟨active, -, hstep⟩ := hstep
  split at hstep
  · obtain rfl := Option.some.inj hstep
    exact ⟨h.setEvent hne _, rfl, le_rfl, .rfl, mem_queue_of_ne hne⟩
  · obtain ⟨calcDelay, -, hstep⟩ := Option.bind_eq_some_iff.1 hstep
    obtain rfl := Option.some.inj hstep
    refine ⟨?_, ?_, min_le_right _ _, ?_, ?_⟩
    · dsimp only
      split
      · exact h.checkOneGameEventConditions hne now
      · exact h
    · dsimp only
      split
      · exact checkOneGameEventConditions_active _ _ _
      · rfl
    · exact mem_queue_of_ne hne
    · exact mem_queue_of_ne hne

/-- The loop over other events. -/
theorem foldlM_updateEvent_other {pass pass' : UpdatePass} {events : List Nat}
    (h : pass.mgr.HoldsNormal entry data) (hother : entry ∉ events)
    (hloop : events.foldlM (updateEvent now) pass = some pass') :
    Untouched pass pass' entry data := by
  induction events generalizing pass with
  | nil =>
    obtain rfl := Option.some.inj hloop
    exact .refl h
  | cons itr rest ih =>
    obtain ⟨next, hstep, hrest⟩ := Option.bind_eq_some_iff.1 hloop
    have hne : itr ≠ entry := fun heq => hother (heq ▸ List.mem_cons_self)
    have hfirst := updateEvent_other h hne hstep
    exact hfirst.trans (ih hfirst.holds (fun hin => hother (List.mem_cons_of_mem _ hin)) hrest)

/-- The loop's step for the event itself queues the change the check calls for. -/
theorem updateEvent_self {pass pass' : UpdatePass} (h : pass.mgr.HoldsNormal entry data)
    (hstep : updateEvent now pass entry = some pass') :
    ∃ active delay, data.checkNormal now = some active ∧ data.nextCheck now = some delay ∧
      pass' =
        { mgr := pass.mgr
          nextEventDelay := min delay pass.nextEventDelay
          activate :=
            if active = true ∧ entry ∉ pass.mgr.activeEvents then pass.activate ++ [entry]
            else pass.activate
          deactivate :=
            if active = false ∧ entry ∈ pass.mgr.activeEvents then pass.deactivate ++ [entry]
            else pass.deactivate } := by
  simp only [updateEvent, Option.bind_eq_bind, Option.bind_eq_some_iff, h.checkOneGameEvent,
    h.event, h.normal] at hstep
  obtain ⟨active, hactive, hstep⟩ := hstep
  obtain ⟨delay, hdelay, hstep⟩ := by simpa [h.nextCheck, Option.bind_eq_some_iff] using hstep
  exact ⟨active, delay, hactive, hdelay, hstep.symm⟩

/-- The loop over all events queues the change the event's check calls for, and nothing else. -/
theorem foldlM_updateEvent {pass pass' : UpdatePass} {events : List Nat}
    (h : pass.mgr.HoldsNormal entry data) (hin : entry ∈ events) (hnodup : events.Nodup)
    (hfresh : entry ∉ pass.activate ∧ entry ∉ pass.deactivate)
    (hloop : events.foldlM (updateEvent now) pass = some pass') :
    ∃ active delay, data.checkNormal now = some active ∧ data.nextCheck now = some delay ∧
      pass'.mgr.HoldsNormal entry data ∧ pass'.nextEventDelay ≤ delay ∧
      pass'.mgr.activeEvents = pass.mgr.activeEvents ∧
      (entry ∈ pass'.activate ↔ active = true ∧ entry ∉ pass.mgr.activeEvents) ∧
      (entry ∈ pass'.deactivate ↔ active = false ∧ entry ∈ pass.mgr.activeEvents) := by
  obtain ⟨before, after, rfl⟩ := List.append_of_mem hin
  have hbefore : entry ∉ before := fun hb =>
    (List.nodup_append.1 hnodup).2.2 entry hb entry List.mem_cons_self rfl
  have hafter : entry ∉ after :=
    (List.nodup_cons.1 (List.nodup_append.1 hnodup).2.1).1
  rw [List.foldlM_append] at hloop
  obtain ⟨reached, hreached, hrest⟩ := Option.bind_eq_some_iff.1 hloop
  obtain ⟨checked, hchecked, hlater⟩ := Option.bind_eq_some_iff.1 hrest
  have hfirst := foldlM_updateEvent_other h hbefore hreached
  obtain ⟨active, delay, hactive, hdelay, hchanged⟩ := updateEvent_self hfirst.holds hchecked
  have hkept : checked.mgr.HoldsNormal entry data := by
    rw [hchanged]
    exact hfirst.holds
  have hlast := foldlM_updateEvent_other hkept hafter hlater
  subst hchanged
  have hqueued : ∀ {queued : Prop} [Decidable queued] {queue : List Nat}, entry ∉ queue →
      (entry ∈ (if queued then queue ++ [entry] else queue) ↔ queued) := by
    intro queued _ queue hnot
    split <;> simp_all
  refine ⟨active, delay, hactive, hdelay, hlast.holds,
    hlast.delay_le.trans (min_le_left _ _), hlast.active.trans hfirst.active, ?_, ?_⟩
  · rw [← hfirst.active]
    exact hlast.activate.trans (hqueued (hfirst.activate.not.2 hfresh.1))
  · rw [← hfirst.active]
    exact hlast.deactivate.trans (hqueued (hfirst.deactivate.not.2 hfresh.2))

/-! ### The queues -/

theorem startEvent_active (now : Int) (mgr : GameEventMgr) (itr : Nat) :
    (startEvent now mgr itr).1.activeEvents = insert itr mgr.activeEvents := by
  unfold startEvent
  dsimp only
  split
  · rfl
  · rw [checkOneGameEventConditions_active]
    split <;> rfl

theorem HoldsNormal.startEvent (h : mgr.HoldsNormal entry data) (now : Int) (itr : Nat) :
    (startEvent now mgr itr).1.HoldsNormal entry data := by
  unfold GameEventMgr.startEvent
  dsimp only
  split
  case isTrue => exact h.congr rfl
  case isFalse hworld =>
    have hne : itr ≠ entry := by
      rintro rfl
      exact hworld (.inl (by rw [h.event, h.normal]))
    refine HoldsNormal.checkOneGameEventConditions ?_ hne now
    split
    · exact HoldsNormal.congr (h.setEvent hne _) rfl
    · exact h.congr rfl

theorem stopEvent_active (mgr : GameEventMgr) (itr : Nat) :
    (stopEvent mgr itr).activeEvents = mgr.activeEvents.erase itr := by
  unfold stopEvent
  dsimp only
  split <;> rfl

theorem HoldsNormal.stopEvent (h : mgr.HoldsNormal entry data) (itr : Nat) :
    (stopEvent mgr itr).HoldsNormal entry data := by
  unfold GameEventMgr.stopEvent
  dsimp only
  split
  case isTrue hworld =>
    have hne : itr ≠ entry := by
      rintro rfl
      exact hworld.1 (by rw [h.event, h.normal])
    exact HoldsNormal.congr (h.setEvent hne _) rfl
  case isFalse => exact h.congr rfl

/-- Starting the queued events. -/
theorem foldl_activateEvent {s : GameEventMgr × Nat} (h : s.1.HoldsNormal entry data)
    (queue : List Nat) :
    (queue.foldl (activateEvent now) s).1.HoldsNormal entry data ∧
      (queue.foldl (activateEvent now) s).2 ≤ s.2 ∧
      (entry ∈ (queue.foldl (activateEvent now) s).1.activeEvents ↔
        entry ∈ queue ∨ entry ∈ s.1.activeEvents) := by
  induction queue generalizing s with
  | nil => exact ⟨h, le_rfl, by simp⟩
  | cons itr rest ih =>
    have hstarted : (activateEvent now s itr).1.HoldsNormal entry data := h.startEvent now itr
    obtain ⟨hholds, hdelay, hactive⟩ := ih hstarted
    have hsmaller : (activateEvent now s itr).2 ≤ s.2 := by
      unfold activateEvent
      dsimp only
      split <;> omega
    refine ⟨hholds, hdelay.trans hsmaller, hactive.trans ?_⟩
    simp only [activateEvent, startEvent_active, Finset.mem_insert, List.mem_cons]
    tauto

/-- Stopping the queued events. -/
theorem foldl_stopEvent (h : mgr.HoldsNormal entry data) (queue : List Nat) :
    (queue.foldl stopEvent mgr).HoldsNormal entry data ∧
      (entry ∈ (queue.foldl stopEvent mgr).activeEvents ↔
        entry ∉ queue ∧ entry ∈ mgr.activeEvents) := by
  induction queue generalizing mgr with
  | nil => exact ⟨h, by simp⟩
  | cons itr rest ih =>
    obtain ⟨hholds, hactive⟩ := ih (h.stopEvent itr)
    refine ⟨hholds, hactive.trans ?_⟩
    simp only [stopEvent_active, Finset.mem_erase, List.mem_cons]
    tauto

/-- After an update the event is active exactly when its check says so, and the next update is not
later than a second after its next check. -/
theorem HoldsNormal.update (h : mgr.HoldsNormal entry data) (hentry : entry ≠ 0)
    {next : GameEventMgr} {wait : Nat} (hupdate : mgr.update now = some (next, wait)) :
    ∃ active delay, data.checkNormal now = some active ∧ data.nextCheck now = some delay ∧
      next.HoldsNormal entry data ∧ (entry ∈ next.activeEvents ↔ active = true) ∧
      wait / 1000 ≤ delay + 1 := by
  obtain ⟨pass, hloop, hnext⟩ := Option.bind_eq_some_iff.1 hupdate
  have hin : entry ∈ List.range' 1 (mgr.mGameEvent.length - 1) := by
    obtain ⟨hlt, -⟩ := List.getElem?_eq_some_iff.1 h.found
    rw [List.mem_range'_1]
    omega
  obtain ⟨active, delay, hactive, hdelay, hholds, hle, hsame, hstart, hstop⟩ :=
    @foldlM_updateEvent _ _ _ ⟨mgr, maxGeCheckDelay, [], []⟩ _ _ h hin List.nodup_range'
      ⟨List.not_mem_nil, List.not_mem_nil⟩ hloop
  obtain ⟨hstarted, hsmaller, hactivated⟩ :=
    @foldl_activateEvent _ _ now (pass.mgr, pass.nextEventDelay) hholds pass.activate
  obtain ⟨hstopped, hdeactivated⟩ := foldl_stopEvent hstarted pass.deactivate
  obtain ⟨rfl, rfl⟩ := Prod.mk.inj (Option.some.inj hnext)
  refine ⟨active, delay, hactive, hdelay, hstopped, ?_, ?_⟩
  · rw [hdeactivated, hactivated, hstart, hstop, hsame]
    cases active <;> simp
    tauto
  · rw [Nat.mul_div_cancel _ (by decide)]
    omega

/-- The update loop keeps the row of a normal event. -/
theorem HoldsNormal.run {first last : GameEventMgr × Int} (h : first.1.HoldsNormal entry data)
    (hentry : entry ≠ 0) (hrun : Relation.ReflTransGen UpdateAndSleep first last) :
    last.1.HoldsNormal entry data := by
  induction hrun with
  | refl => exact h
  | tail _ hlast ih =>
    obtain ⟨wait, hupdate, -⟩ := hlast
    obtain ⟨-, -, -, -, hholds, -⟩ := ih.update hentry hupdate
    exact hholds

/-- Between two updates the event is started and stopped as its check asks, up to the very last
second before the next update, when the update's second is harmless. -/
theorem HoldsNormal.between_updates {now next : GameEventMgr × Int}
    (h : now.1.HoldsNormal entry data) (hentry : entry ≠ 0) (hintime : data.CheckedInTime now.2)
    (hstep : UpdateAndSleep now next) {t : Int} (hnow : now.2 ≤ t) (hnext : t + 1 < next.2) :
    entry ∈ next.1.activeEvents ↔ next.1.checkOneGameEvent entry t = some true := by
  obtain ⟨wait, hupdate, hsleep⟩ := hstep
  obtain ⟨active, delay, hactive, hdelay, hholds, hmember, hwait⟩ := h.update hentry hupdate
  obtain ⟨active', delay', hactive', hdelay', hconstant⟩ :=
    (GameEventData.constant_iff h.normal).2 hintime
  obtain rfl : active = active' := Option.some.inj (hactive.symm.trans hactive')
  obtain rfl : delay = delay' := Option.some.inj (hdelay.symm.trans hdelay')
  rw [hmember, hholds.checkOneGameEvent, hconstant t hnow (by omega), Option.some_inj]

end GameEventMgr

/-! ## The loader -/

/-- A check of an accepted normal row misses no transition exactly when its second is harmless,
and while the checks of the update loop are, every occurrence starts and stops at most one second
late. -/
theorem noTransitionMissed_iff (row : GameEventRow) (h : row.Accepted)
    (hnormal : GameEventState.ofNat row.worldEvent = .normal) (mgr : GameEventMgr)
    (base : GameEventData)
    (hloaded : mgr.mGameEvent[row.eventEntry]? = some (row.toData base)) :
    (∀ now, mgr.NoTransitionMissed row.eventEntry now ↔ (row.toData base).CheckedInTime now) ∧
      ∀ (start : Int) (now next : GameEventMgr × Int),
        Relation.ReflTransGen UpdateAndSleep (mgr, start) now → UpdateAndSleep now next →
        (row.toData base).CheckedInTime now.2 →
        ∀ t, now.2 ≤ t → t + 1 < next.2 →
          (row.eventEntry ∈ next.1.activeEvents ↔
            next.1.checkOneGameEvent row.eventEntry t = some true) := by
  have hholds : mgr.HoldsNormal row.eventEntry (row.toData base) := ⟨hloaded, hnormal⟩
  refine ⟨fun now => hholds.missesNothing_iff, ?_⟩
  intro start now next hrun hstep hintime t hnow hnext
  have hreached : now.1.HoldsNormal row.eventEntry (row.toData base) :=
    GameEventMgr.HoldsNormal.run hholds h.1 hrun
  exact hreached.between_updates h.1 hintime hstep hnow hnext

/-- An hour each day, from second 1000 on. -/
def dailyRow : GameEventRow :=
  { eventEntry := 1, startTime := 1000, endTime := 1000000, occurence := 1440, length := 60,
    worldEvent := 0 }

def dailyMgr : GameEventMgr := ⟨loadFromDB [{}, {}] [dailyRow], ∅⟩

/-- A check in the second after the start of the hour. -/
theorem noTransitionMissed_daily :
    dailyRow.Accepted ∧ GameEventState.ofNat dailyRow.worldEvent = .normal ∧
      dailyMgr.mGameEvent[dailyRow.eventEntry]? = some (dailyRow.toData {}) ∧
      (dailyMgr.NoTransitionMissed 1 1001 ↔ (dailyRow.toData {}).CheckedInTime 1001) :=
  ⟨by decide, by decide, by decide,
    (noTransitionMissed_iff dailyRow (by decide) (by decide) dailyMgr {} (by decide)).1 1001⟩

/-- A check in the very first second sleeps through the whole hour. -/
theorem first_second_missed :
    dailyRow.Accepted ∧ GameEventState.ofNat dailyRow.worldEvent = .normal ∧
      dailyMgr.mGameEvent[dailyRow.eventEntry]? = some (dailyRow.toData {}) ∧
      dailyMgr.checkOneGameEvent 1 1000 = some false ∧
      dailyMgr.nextCheck 1 1000 = some 3600 ∧
      dailyMgr.checkOneGameEvent 1 1001 = some true ∧
      dailyMgr.checkOneGameEvent 1 4599 = some true ∧
      dailyMgr.checkOneGameEvent 1 4601 = some false ∧
      ¬dailyMgr.NoTransitionMissed 1 1000 := by
  refine ⟨by decide, by decide, by decide, by decide, by decide, by decide, by decide,
    by decide, ?_⟩
  rintro ⟨active, delay, hactive, hdelay, hconstant⟩
  obtain rfl : false = active := Option.some.inj hactive
  obtain rfl : 3600 = delay := Option.some.inj hdelay
  have hmissed := hconstant 1001 (by decide) (by decide)
  exact absurd hmissed (by decide)

end Cataclysm.Events
