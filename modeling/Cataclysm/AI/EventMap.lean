import Cataclysm.Lib.OrderedMap
import Cataclysm.Lib.Runs

/-!
# The event map of a script

A script schedules events at times from now. An event stands in the first free slot from its time
on, and the id, the group and the phase are packed into one word. The first event is returned once
its slot is due; an event that is due while its phase is not active is dropped.

## Implementation notes

The timer and the slots are unsigned numbers of 32 bits. Behind as many steps as there are events
the search for a free slot has found one. A cancellation erases the matching entries one by one,
each time from the start of the map.
-/

namespace Cataclysm.AI

/-- The events of a creature script, by time. -/
structure EventMap where
  time : Nat
  phase : BitVec 32
  events : OrderedMap Nat (BitVec 32)

namespace EventMap

def start : EventMap := ⟨0, 0#32, OrderedMap.empty⟩

/-- `1 << k`. -/
def bit (k : Nat) : BitVec 32 := 1#32 <<< k

/-- The clock goes on. -/
def update (m : EventMap) (time : Nat) : EventMap := { m with time := (m.time + time) % 2 ^ 32 }

/-! ### Phases -/

/-- The only phase, or none. -/
def setPhase (m : EventMap) (phase : Nat) : EventMap :=
  if phase ≠ 0 ∧ phase ≤ 8 then { m with phase := bit (phase + 23) }
  else if phase = 0 then { m with phase := 0#32 }
  else m

/-- One more phase. -/
def addPhase (m : EventMap) (phase : Nat) : EventMap :=
  if phase ≠ 0 ∧ phase ≤ 8 then { m with phase := m.phase ||| bit (phase + 23) } else m

/-- A phase ends. -/
def removePhase (m : EventMap) (phase : Nat) : EventMap :=
  if phase ≠ 0 ∧ phase ≤ 8 then { m with phase := m.phase &&& ~~~ bit (phase + 23) } else m

/-! ### Scheduling -/

/-- The id with the bits of the group and of the phase. -/
def pack (eventId groupId phase : Nat) : BitVec 32 :=
  let word := BitVec.ofNat 32 eventId
  let word := if groupId ≠ 0 ∧ groupId < 9 then word ||| bit (groupId + 15) else word
  if phase ≠ 0 ∧ phase < 8 then word ||| bit (phase + 23) else word

/-- The low part of a word is the id. -/
def eventIdOf (word : BitVec 32) : Nat := (word &&& 0xFFFF#32).toNat

/-- The search for a slot that is not taken. -/
def freeSlot (events : OrderedMap Nat (BitVec 32)) : Nat → Nat → Nat
  | 0, time => time
  | fuel + 1, time =>
    if events.contains time then freeSlot events fuel ((time + 1) % 2 ^ 32) else time

/-- The word is stored in the first free slot from a time on. -/
def insertWord (m : EventMap) (word : BitVec 32) (time : Nat) : EventMap :=
  let slot := freeSlot m.events m.events.entries.length ((time + m.time) % 2 ^ 32)
  { m with events := m.events.insert slot word }

/-- An event is stored with its group and phase. -/
def scheduleEvent (m : EventMap) (eventId time groupId phase : Nat) : EventMap :=
  m.insertWord (pack eventId groupId phase) time

/-! ### Cancelling -/

/-- All events with the id go. -/
def cancelEvent (m : EventMap) (eventId : Nat) : EventMap :=
  { m with events := m.events.filter fun _ word => !(eventId == eventIdOf word) }

/-- All events of the group go. -/
def cancelEventGroup (m : EventMap) (groupId : Nat) : EventMap :=
  if groupId = 0 ∨ 8 < groupId then m
  else { m with events := m.events.filter fun _ word => word &&& bit (groupId + 15) == 0#32 }

def rescheduleEvent (m : EventMap) (eventId time groupId phase : Nat) : EventMap :=
  (m.cancelEvent eventId).scheduleEvent eventId time groupId phase

/-- The first event goes. -/
def popEvent (m : EventMap) : EventMap :=
  match m.events.entries with
  | [] => m
  | first :: _ => { m with events := m.events.erase first.1 }

/-- The first event is put off. -/
def repeatEvent (m : EventMap) (time : Nat) : EventMap :=
  match m.events.entries with
  | [] => m
  | first :: _ => EventMap.insertWord { m with events := m.events.erase first.1 } first.2 time

/-! ### Executing -/

/-- No phase of the event is active. -/
def outOfPhase (phase word : BitVec 32) : Bool :=
  phase != 0#32 && word &&& 0xFF000000#32 != 0#32 && word &&& phase == 0#32

/-- The events that are due and out of phase, up to the first that is not, are dropped. -/
def dropEvents (m : EventMap) : EventMap :=
  { m with events := m.events.dropWhile fun slot word =>
      decide (slot ≤ m.time) && outOfPhase m.phase word }

/-- The next event that is due goes, and its id is the answer. -/
def executeEvent (m : EventMap) : EventMap × Nat :=
  let m := m.dropEvents
  match m.events.entries with
  | [] => (m, 0)
  | first :: _ =>
    if m.time < first.1 then (m, 0)
    else ({ m with events := m.events.erase first.1 }, eventIdOf first.2)

/-- The next event that is due stays. -/
def getEvent (m : EventMap) : EventMap × Nat :=
  let m := m.dropEvents
  match m.events.entries with
  | [] => (m, 0)
  | first :: _ => if m.time < first.1 then (m, 0) else (m, eventIdOf first.2)

end EventMap

/-! ### Runs -/

/-- The calls of a script. -/
inductive Request
  | scheduleEvent (eventId time groupId phase : Nat)
  | rescheduleEvent (eventId time groupId phase : Nat)
  | cancelEvent (eventId : Nat)
  | cancelEventGroup (groupId : Nat)
  | repeatEvent (time : Nat)
  | popEvent
  | setPhase (phase : Nat)
  | addPhase (phase : Nat)
  | removePhase (phase : Nat)
  | update (time : Nat)
  | executeEvent
  | getEvent
  deriving DecidableEq

/-- The map of a script, and what it was told to execute. -/
structure Script where
  map : EventMap
  executed : List Nat

namespace Script

def start : Script := ⟨EventMap.start, []⟩

/-- One call, with its answer kept. -/
def step (s : Script) : Request → Script
  | .scheduleEvent eventId time groupId phase =>
    { s with map := s.map.scheduleEvent eventId time groupId phase }
  | .rescheduleEvent eventId time groupId phase =>
    { s with map := s.map.rescheduleEvent eventId time groupId phase }
  | .cancelEvent eventId => { s with map := s.map.cancelEvent eventId }
  | .cancelEventGroup groupId => { s with map := s.map.cancelEventGroup groupId }
  | .repeatEvent time => { s with map := s.map.repeatEvent time }
  | .popEvent => { s with map := s.map.popEvent }
  | .setPhase phase => { s with map := s.map.setPhase phase }
  | .addPhase phase => { s with map := s.map.addPhase phase }
  | .removePhase phase => { s with map := s.map.removePhase phase }
  | .update time => { s with map := s.map.update time }
  | .executeEvent =>
    { map := s.map.executeEvent.1, executed := s.executed ++ [s.map.executeEvent.2] }
  | .getEvent => { s with map := s.map.getEvent.1 }

end Script

end Cataclysm.AI
