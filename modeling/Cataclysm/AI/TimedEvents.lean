import Cataclysm.AI.EventMap
import Cataclysm.AI.TimedQueue

/-!
# The event map as a timed queue

The words, the mask and the wrapping search of the event map represent a timed queue, as long as
the times fit and no event is scheduled for the eighth phase: a phase can be set up to 8, but
`ScheduleEvent` leaves out the bit of phase 8, so such an event runs in all phases.

## Implementation notes

A word is compared with its event bit by bit. The bits 0 to 15 hold the id, 16 to 23 the group and
24 to 31 the phase.
-/

namespace Cataclysm.AI

namespace EventMap

/-! ### Bits -/

variable {eventId : Nat}

theorem getLsbD_bit {k : Nat} (hk : k < 32) (i : Nat) :
    (bit k).getLsbD i = decide (i = k) := by
  rw [bit, Bool.eq_iff_iff, BitVec.getLsbD_shiftLeft]
  simp only [Bool.and_eq_true, decide_eq_true_eq, Bool.not_eq_true', decide_eq_false_iff_not,
    BitVec.getLsbD_one]
  omega

theorem ne_zero_iff (word : BitVec 32) : word ≠ 0#32 ↔ ∃ i < 32, word.getLsbD i = true := by
  constructor
  · intro hne
    by_contra hnone
    refine hne (BitVec.eq_of_getLsbD_eq fun i hi => ?_)
    rw [BitVec.getLsbD_zero]
    exact Bool.eq_false_iff.mpr fun hbit => hnone ⟨i, hi, hbit⟩
  · rintro ⟨i, hi, hbit⟩ rfl
    rw [BitVec.getLsbD_zero] at hbit
    exact Bool.false_ne_true hbit

theorem getLsbD_pack {groupId phase : Nat} (hgroup : groupId ≤ 8) (hphase : phase < 8) {i : Nat}
    (hi : i < 32) :
    (pack eventId groupId phase).getLsbD i =
      (eventId.testBit i || (decide (groupId ≠ 0 ∧ i = groupId + 15) ||
        decide (phase ≠ 0 ∧ i = phase + 23))) := by
  have hid : (BitVec.ofNat 32 eventId).getLsbD i = eventId.testBit i := by
    rw [BitVec.getLsbD_ofNat, decide_eq_true hi, Bool.true_and]
  have hword : (if groupId ≠ 0 ∧ groupId < 9 then BitVec.ofNat 32 eventId ||| bit (groupId + 15)
      else BitVec.ofNat 32 eventId).getLsbD i =
        (eventId.testBit i || decide (groupId ≠ 0 ∧ i = groupId + 15)) := by
    split
    · next h =>
        rw [BitVec.getLsbD_or, getLsbD_bit (by omega), hid]
        simp [h.1]
    · next h =>
        have hzero : groupId = 0 := by omega
        rw [hid]
        simp [hzero]
  rw [pack]
  split
  · next h =>
      rw [BitVec.getLsbD_or, getLsbD_bit (by omega), hword]
      simp [h.1, Bool.or_assoc]
  · next h =>
      have hzero : phase = 0 := by omega
      rw [hword]
      simp [hzero]

theorem getLsbD_low (i : Nat) : (0xFFFF#32).getLsbD i = decide (i < 16) := by
  have hmask : 0xFFFF#32 = BitVec.ofNat 32 (2 ^ 16 - 1) := rfl
  rw [hmask, BitVec.getLsbD_ofNat, Nat.testBit_two_pow_sub_one, Bool.and_eq_right_iff_imp,
    decide_eq_true_eq, decide_eq_true_eq]
  omega

theorem getLsbD_high {i : Nat} (hi : i < 32) :
    (0xFF000000#32).getLsbD i = decide (24 ≤ i) := by
  revert i
  decide

/-- The id of a packed word. -/
theorem eventIdOf_pack {groupId phase : Nat} (hid : eventId < 2 ^ 16) (hgroup : groupId ≤ 8)
    (hphase : phase < 8) : eventIdOf (pack eventId groupId phase) = eventId := by
  refine Nat.eq_of_testBit_eq fun i => ?_
  rw [eventIdOf, BitVec.testBit_toNat, BitVec.getLsbD_and, getLsbD_low]
  rcases Nat.lt_or_ge i 16 with hlow | hhigh
  · rw [getLsbD_pack hgroup hphase (by omega), decide_eq_true hlow, Bool.and_true,
      decide_eq_false (by omega), decide_eq_false (by omega), Bool.or_false, Bool.or_false]
  · have hbound : eventId < 2 ^ i := hid.trans_le (Nat.pow_le_pow_right (by omega) hhigh)
    rw [decide_eq_false (by omega), Bool.and_false, Nat.testBit_lt_two_pow hbound]

theorem testBit_eventId (hid : eventId < 2 ^ 16) {i : Nat} (hi : 16 ≤ i) :
    eventId.testBit i = false :=
  Nat.testBit_lt_two_pow (hid.trans_le (Nat.pow_le_pow_right (by omega) hi))

/-- The group of a packed word. -/
theorem group_pack {groupId phase : Nat} (hid : eventId < 2 ^ 16) (hgroup : groupId ≤ 8)
    (hphase : phase < 8) {group : Nat} (hne : group ≠ 0) (hle : group ≤ 8) :
    (pack eventId groupId phase &&& bit (group + 15) == 0#32) = !(group == groupId) := by
  have hbit : pack eventId groupId phase &&& bit (group + 15) ≠ 0#32 ↔ group = groupId := by
    rw [ne_zero_iff]
    constructor
    · rintro ⟨i, hi, hand⟩
      rw [BitVec.getLsbD_and, getLsbD_bit (by omega), Bool.and_eq_true, decide_eq_true_eq] at hand
      obtain ⟨hword, rfl⟩ := hand
      rw [getLsbD_pack hgroup hphase hi, testBit_eventId hid (by omega), Bool.false_or,
        Bool.or_eq_true, decide_eq_true_eq, decide_eq_true_eq] at hword
      omega
    · rintro rfl
      refine ⟨group + 15, by omega, ?_⟩
      rw [BitVec.getLsbD_and, getLsbD_bit (by omega), getLsbD_pack hgroup hphase (by omega),
        decide_eq_true ⟨hne, rfl⟩, decide_eq_true rfl, Bool.true_or, Bool.or_true, Bool.and_true]
  rw [Bool.eq_iff_iff, beq_iff_eq, Bool.not_eq_true', beq_eq_false_iff_ne, ne_eq, ← hbit, not_not]

end EventMap

open EventMap

/-! ### Representation -/

variable {m : EventMap} {q : TimedQueue}

/-- The word of an event. -/
def wordOf (e : Event) : BitVec 32 := pack e.id e.group e.phase

/-- The id, the group and the phase have room in a word. -/
def Event.Fits (e : Event) : Prop := e.id < 2 ^ 16 ∧ e.group ≤ 8 ∧ e.phase < 8

/-- The event map holds what the queue holds. -/
structure Represents (m : EventMap) (q : TimedQueue) : Prop where
  time : m.time = q.time
  valid : ∀ p ∈ q.phases, 1 ≤ p ∧ p ≤ 8
  phase : ∀ i < 32, m.phase.getLsbD i = decide (24 ≤ i ∧ i - 23 ∈ q.phases)
  events : m.events = q.events.map wordOf
  fits : ∀ f ∈ q.events.entries, f.2.Fits

theorem represents_start : Represents EventMap.start TimedQueue.start where
  time := rfl
  valid := fun _ hin => absurd hin (Finset.notMem_empty _)
  phase := by
    intro i _
    rw [EventMap.start, BitVec.getLsbD_zero, decide_eq_false]
    rintro ⟨-, hin⟩
    exact Finset.notMem_empty _ hin
  events := rfl
  fits := fun _ hin => absurd hin List.not_mem_nil

/-- The word of an event is out of phase when the event is. -/
theorem Represents.outOfPhase (h : Represents m q) {e : Event} (he : e.Fits) :
    outOfPhase m.phase (wordOf e) = !decide (InPhase q.phases e) := by
  obtain ⟨hid, hgroup, hphase⟩ := he
  have hset : m.phase ≠ 0#32 ↔ q.phases ≠ ∅ := by
    rw [ne_zero_iff, ← Finset.nonempty_iff_ne_empty]
    constructor
    · rintro ⟨i, hi, hbit⟩
      rw [h.phase i hi, decide_eq_true_eq] at hbit
      exact ⟨i - 23, hbit.2⟩
    · rintro ⟨p, hp⟩
      have hvalid := h.valid p hp
      refine ⟨p + 23, by omega, ?_⟩
      rw [h.phase _ (by omega), decide_eq_true_eq, Nat.add_sub_cancel]
      exact ⟨by omega, hp⟩
  have hhas : wordOf e &&& 0xFF000000#32 ≠ 0#32 ↔ e.phase ≠ 0 := by
    rw [ne_zero_iff]
    constructor
    · rintro ⟨i, hi, hand⟩
      rw [BitVec.getLsbD_and, getLsbD_high hi, Bool.and_eq_true, decide_eq_true_eq] at hand
      obtain ⟨hword, hhigh⟩ := hand
      rw [wordOf, getLsbD_pack hgroup hphase hi, testBit_eventId hid (by omega), Bool.false_or,
        Bool.or_eq_true, decide_eq_true_eq, decide_eq_true_eq] at hword
      omega
    · intro hne
      have hhigh : 24 ≤ e.phase + 23 := by omega
      refine ⟨e.phase + 23, by omega, ?_⟩
      rw [BitVec.getLsbD_and, getLsbD_high (by omega), wordOf,
        getLsbD_pack hgroup hphase (by omega), decide_eq_true (p := _ ∧ _) ⟨hne, rfl⟩,
        decide_eq_true hhigh, Bool.or_true, Bool.or_true, Bool.and_true]
  have hactive : wordOf e &&& m.phase ≠ 0#32 ↔ e.phase ≠ 0 ∧ e.phase ∈ q.phases := by
    rw [ne_zero_iff]
    constructor
    · rintro ⟨i, hi, hand⟩
      rw [BitVec.getLsbD_and, h.phase i hi, Bool.and_eq_true, decide_eq_true_eq] at hand
      obtain ⟨hword, hhigh, hin⟩ := hand
      rw [wordOf, getLsbD_pack hgroup hphase hi, testBit_eventId hid (by omega), Bool.false_or,
        Bool.or_eq_true, decide_eq_true_eq, decide_eq_true_eq] at hword
      have hphase' : e.phase ≠ 0 ∧ i = e.phase + 23 := by omega
      rw [hphase'.2, Nat.add_sub_cancel] at hin
      exact ⟨hphase'.1, hin⟩
    · rintro ⟨hne, hin⟩
      refine ⟨e.phase + 23, by omega, ?_⟩
      rw [BitVec.getLsbD_and, h.phase _ (by omega), wordOf,
        getLsbD_pack hgroup hphase (by omega), Nat.add_sub_cancel,
        decide_eq_true (p := e.phase ≠ 0 ∧ _) ⟨hne, rfl⟩,
        decide_eq_true (p := _ ∧ e.phase ∈ q.phases) ⟨by omega, hin⟩,
        Bool.or_true, Bool.or_true, Bool.and_true]
  rw [EventMap.outOfPhase, Bool.eq_iff_iff, Bool.and_eq_true, Bool.and_eq_true, bne_iff_ne,
    bne_iff_ne, beq_iff_eq, Bool.not_eq_true', decide_eq_false_iff_not, hset, hhas, InPhase,
    not_or, not_or]
  constructor
  · rintro ⟨⟨hne, hphase0⟩, hzero⟩
    exact ⟨hne, hphase0, fun hin => hactive.mpr ⟨hphase0, hin⟩ hzero⟩
  · rintro ⟨hne, hphase0, hnot⟩
    refine ⟨⟨hne, hphase0⟩, ?_⟩
    by_contra hword
    exact hnot (hactive.mp hword).2

/-! ### Slots -/

variable {time : Nat}

/-- A slot is free from a time on, below the bound of the numbers. -/
def HasSlot {V : Type*} (events : OrderedMap Nat V) (time : Nat) : Prop :=
  ∃ slot, time ≤ slot ∧ slot < 2 ^ 32 ∧ events.contains slot = false

/-- The search of the code finds the first free slot. -/
theorem freeSlot_eq {events : OrderedMap Nat Event} (hslot : HasSlot events time) (fuel : Nat) :
    freeSlot (events.map wordOf) fuel time = firstFree events fuel time := by
  obtain ⟨slot, hle, hlt, hfree⟩ := hslot
  induction fuel generalizing time with
  | zero => rfl
  | succ fuel ih =>
    rw [freeSlot, firstFree, OrderedMap.contains_map]
    cases htaken : events.contains time with
    | false => rfl
    | true =>
      have hne : time ≠ slot := by
        rintro rfl
        rw [hfree] at htaken
        cases htaken
      have hnext : time + 1 ≤ slot := by omega
      rw [if_pos rfl, if_pos rfl, Nat.mod_eq_of_lt (by omega), ih hnext]

/-- An event that is placed is stored with its word. -/
theorem Represents.place (h : Represents m q) {e : Event} (he : e.Fits)
    (hrequested : e.requested = q.time + time) (hslot : HasSlot q.events (q.time + time)) :
    Represents (m.insertWord (wordOf e) time) (q.place e) := by
  have hlength : m.events.entries.length = q.events.entries.length := by
    rw [h.events]
    exact List.length_map _
  have hbound : (time + m.time) % 2 ^ 32 = e.requested := by
    obtain ⟨slot, hle, hlt, -⟩ := hslot
    rw [hrequested, h.time, Nat.add_comm, Nat.mod_eq_of_lt (by omega)]
  have hfree : freeSlot m.events m.events.entries.length ((time + m.time) % 2 ^ 32) =
      firstFree q.events q.events.entries.length e.requested := by
    rw [hlength, hbound, h.events]
    exact freeSlot_eq (hrequested ▸ hslot) _
  constructor
  · exact h.time
  · exact h.valid
  · exact h.phase
  · rw [insertWord, hfree, h.events]
    exact (OrderedMap.map_insert _ _ _ _).symm
  · intro f hin
    rcases OrderedMap.mem_insert.mp hin with rfl | hold
    · exact he
    · exact h.fits f (OrderedMap.mem_erase.mp hold).1

/-- The queue loses events, and the map their words. -/
theorem Represents.lose {q' : TimedQueue} (h : Represents m q)
    {events : OrderedMap Nat (BitVec 32)} (htime : q'.time = q.time)
    (hphases : q'.phases = q.phases) (hevents : events = q'.events.map wordOf)
    (hsub : ∀ f ∈ q'.events.entries, f ∈ q.events.entries) :
    Represents { m with events := events } q' where
  time := h.time.trans htime.symm
  valid := by
    rw [hphases]
    exact h.valid
  phase := by
    rw [hphases]
    exact h.phase
  events := hevents
  fits := fun f hin => h.fits f (hsub f hin)

theorem Represents.cancel (h : Represents m q) (eventId : Nat) :
    Represents (m.cancelEvent eventId) (q.cancel eventId) := by
  refine h.lose rfl rfl ?_ fun f hin => (List.mem_filter.mp hin).1
  have hfilter : (q.events.filter fun _ e => !(eventId == eventIdOf (wordOf e))) =
      q.events.filter fun _ e => !(eventId == e.id) := by
    refine OrderedMap.filter_congr fun f hin => ?_
    obtain ⟨hid, hgroup, hphase⟩ := h.fits f hin
    rw [wordOf, eventIdOf_pack hid hgroup hphase]
  rw [h.events, OrderedMap.map_filter, hfilter]
  rfl

theorem Represents.cancelGroup (h : Represents m q) (groupId : Nat) :
    Represents (m.cancelEventGroup groupId) (q.cancelGroup groupId) := by
  rw [cancelEventGroup, TimedQueue.cancelGroup]
  split
  · exact h
  · refine h.lose rfl rfl ?_ fun f hin => (List.mem_filter.mp hin).1
    have hfilter :
        (q.events.filter fun _ e => wordOf e &&& bit (groupId + 15) == 0#32) =
          q.events.filter fun _ e => !(groupId == e.group) := by
      refine OrderedMap.filter_congr fun f hin => ?_
      obtain ⟨hid, hgroup, hphase⟩ := h.fits f hin
      rw [wordOf, group_pack hid hgroup hphase (by omega) (by omega)]
    rw [h.events, OrderedMap.map_filter, hfilter]
    rfl

/-- The first entries of the map and of the queue correspond. -/
theorem Represents.entries (h : Represents m q) :
    m.events.entries = q.events.entries.map fun f => (f.1, wordOf f.2) := by
  rw [h.events]
  rfl

theorem Represents.erase {q' : TimedQueue} (h : Represents m q) (slot : Nat)
    (htime : q'.time = q.time) (hphases : q'.phases = q.phases)
    (hevents : q'.events = q.events.erase slot) :
    Represents { m with events := m.events.erase slot } q' := by
  refine h.lose htime hphases ?_ ?_
  · rw [h.events, hevents, OrderedMap.map_erase]
  · intro f hin
    rw [hevents] at hin
    exact (OrderedMap.mem_erase.mp hin).1

theorem Represents.pop (h : Represents m q) (fate : Fate) : Represents m.popEvent (q.pop fate) := by
  have hentries := h.entries
  rw [popEvent, TimedQueue.pop]
  cases hq : q.events.entries with
  | nil =>
    rw [hq, List.map_nil] at hentries
    rw [hentries]
    exact h
  | cons first rest =>
    rw [hq, List.map_cons] at hentries
    rw [hentries]
    exact h.erase first.1 rfl rfl rfl

theorem Represents.again (h : Represents m q) (hslot : HasSlot m.popEvent.events (time + m.time)) :
    Represents (m.repeatEvent time) (q.again time) := by
  have hentries := h.entries
  rw [repeatEvent, TimedQueue.again]
  cases hq : q.events.entries with
  | nil =>
    rw [hq, List.map_nil] at hentries
    rw [hentries]
    exact h
  | cons first rest =>
    have hin : first ∈ q.events.entries := by
      rw [hq]
      exact List.mem_cons_self
    rw [hq, List.map_cons] at hentries
    rw [popEvent, hentries] at hslot
    dsimp only at hslot
    rw [hentries]
    have herase : Represents { m with events := m.events.erase first.1 }
        { q with events := q.events.erase first.1 } := h.erase first.1 rfl rfl rfl
    have hfits : Event.Fits { first.2 with requested := q.time + time } := h.fits first hin
    refine herase.place hfits rfl ?_
    obtain ⟨slot, hle, hlt, hfree⟩ := hslot
    have hle' : q.time + time ≤ slot := by
      rw [h.time] at hle
      omega
    rw [h.events, ← OrderedMap.map_erase, OrderedMap.contains_map] at hfree
    exact ⟨slot, hle', hlt, hfree⟩

theorem Represents.dropLate (h : Represents m q) : Represents m.dropEvents q.dropLate := by
  refine h.lose rfl rfl ?_ fun f hin => (List.dropWhile_sublist _).subset hin
  have hdrop : (q.events.dropWhile fun slot e =>
      decide (slot ≤ m.time) && EventMap.outOfPhase m.phase (wordOf e)) =
        q.events.dropWhile q.late := by
    refine OrderedMap.dropWhile_congr fun f hin => ?_
    rw [h.outOfPhase (h.fits f hin), h.time]
    rfl
  rw [h.events, OrderedMap.map_dropWhile, hdrop]
  rfl

/-- The due event of the queue is the first entry of the map. -/
theorem Represents.execute (h : Represents m q) :
    ∃ answer, q.execute.answers = q.answers ++ [answer] ∧
      m.executeEvent.2 = (answer.map Event.id).getD 0 ∧
      Represents m.executeEvent.1 q.execute := by
  have hdrop := h.dropLate
  have hentries := hdrop.entries
  have htime : m.dropEvents.time = q.time := h.time
  rw [executeEvent, TimedQueue.execute, TimedQueue.due]
  dsimp only
  cases hq : q.dropLate.events.entries with
  | nil =>
    rw [hq, List.map_nil] at hentries
    rw [hentries]
    exact ⟨none, rfl, rfl, hdrop.time, hdrop.valid, hdrop.phase, hdrop.events, hdrop.fits⟩
  | cons first rest =>
    rw [hq, List.map_cons] at hentries
    rw [hentries, List.head?_cons, Option.filter_some]
    dsimp only
    have htime' : q.dropLate.time = q.time := rfl
    rw [htime']
    by_cases hdue : first.1 ≤ q.time
    · have hin : first ∈ q.dropLate.events.entries := by
        rw [hq]
        exact List.mem_cons_self
      obtain ⟨hid, hgroup, hphase⟩ := hdrop.fits first hin
      have hpop : q.dropLate.pop (.executed q.time q.dropLate.phases) =
          { q.dropLate with
            events := q.dropLate.events.erase first.1
            records := q.dropLate.records ++
              [⟨first.1, first.2, .executed q.time q.dropLate.phases⟩] } := by
        rw [TimedQueue.pop, hq]
      have hnow : ¬ m.dropEvents.time < first.1 := by
        rw [htime]
        exact Nat.not_lt.mpr hdue
      rw [decide_eq_true hdue, if_pos rfl, if_neg hnow]
      refine ⟨some first.2, rfl, ?_, ?_⟩
      · exact eventIdOf_pack hid hgroup hphase
      · dsimp only
        rw [hpop]
        refine Represents.erase hdrop first.1 ?_ ?_ ?_
        · rfl
        · rfl
        · rfl
    · have hlater : m.dropEvents.time < first.1 := by
        rw [htime]
        exact Nat.lt_of_not_le hdue
      rw [decide_eq_false hdue, if_neg Bool.false_ne_true, if_pos hlater]
      exact ⟨none, rfl, rfl, hdrop.time, hdrop.valid, hdrop.phase, hdrop.events, hdrop.fits⟩

theorem Represents.get (h : Represents m q) : Represents m.getEvent.1 q.dropLate := by
  have hget : m.getEvent.1 = m.dropEvents := by
    rw [getEvent]
    split
    · rfl
    · split
      · rfl
      · rfl
  rw [hget]
  exact h.dropLate

/-! ### Phases -/

/-- The set of phases changes as the mask does. -/
theorem Represents.setPhases (h : Represents m q) {phase : BitVec 32} {phases : Finset Nat}
    (hvalid : ∀ p ∈ phases, 1 ≤ p ∧ p ≤ 8)
    (hphase : ∀ i < 32, phase.getLsbD i = decide (24 ≤ i ∧ i - 23 ∈ phases)) :
    Represents { m with phase := phase } { q with phases := phases } where
  time := h.time
  valid := hvalid
  phase := hphase
  events := h.events
  fits := h.fits

theorem Represents.setPhase (h : Represents m q) (phase : Nat) :
    Represents (m.setPhase phase) (q.setPhase phase) := by
  rw [EventMap.setPhase, TimedQueue.setPhase]
  split
  · next hphase =>
      refine h.setPhases ?_ fun i hi => ?_
      · intro p hp
        rw [Finset.mem_singleton.mp hp]
        omega
      · rw [getLsbD_bit (by omega), Bool.eq_iff_iff, decide_eq_true_eq, decide_eq_true_eq,
          Finset.mem_singleton]
        omega
  · split
    · refine h.setPhases (fun p hp => absurd hp (Finset.notMem_empty p)) fun i hi => ?_
      rw [BitVec.getLsbD_zero, decide_eq_false]
      exact fun hin => Finset.notMem_empty _ hin.2
    · exact h

theorem Represents.addPhase (h : Represents m q) (phase : Nat) :
    Represents (m.addPhase phase) (q.addPhase phase) := by
  rw [EventMap.addPhase, TimedQueue.addPhase]
  split
  · next hphase =>
      refine h.setPhases ?_ fun i hi => ?_
      · intro p hp
        rcases Finset.mem_insert.mp hp with rfl | hold
        · omega
        · exact h.valid p hold
      · rw [BitVec.getLsbD_or, h.phase i hi, getLsbD_bit (by omega), Bool.eq_iff_iff,
          Bool.or_eq_true, decide_eq_true_eq, decide_eq_true_eq, decide_eq_true_eq,
          Finset.mem_insert]
        constructor
        · rintro (⟨hhigh, hin⟩ | rfl)
          · exact ⟨hhigh, Or.inr hin⟩
          · exact ⟨by omega, Or.inl (by omega)⟩
        · rintro ⟨hhigh, heq | hin⟩
          · exact Or.inr (by omega)
          · exact Or.inl ⟨hhigh, hin⟩
  · exact h

theorem Represents.removePhase (h : Represents m q) (phase : Nat) :
    Represents (m.removePhase phase) (q.removePhase phase) := by
  rw [EventMap.removePhase, TimedQueue.removePhase]
  split
  · next hphase =>
      refine h.setPhases (fun p hp => h.valid p (Finset.mem_of_mem_erase hp)) fun i hi => ?_
      rw [BitVec.getLsbD_and, BitVec.getLsbD_not, h.phase i hi, getLsbD_bit (by omega),
        decide_eq_true hi, Bool.true_and, Bool.eq_iff_iff, Bool.and_eq_true, decide_eq_true_eq,
        Bool.not_eq_true', decide_eq_false_iff_not, decide_eq_true_eq, Finset.mem_erase]
      constructor
      · rintro ⟨⟨hhigh, hin⟩, hne⟩
        exact ⟨hhigh, by omega, hin⟩
      · rintro ⟨hhigh, hne, hin⟩
        exact ⟨⟨hhigh, hin⟩, by omega⟩
  · exact h

theorem Represents.update (h : Represents m q) (hbound : m.time + time < 2 ^ 32) :
    Represents (m.update time) { q with time := q.time + time } where
  time := by
    rw [EventMap.update, Nat.mod_eq_of_lt hbound, h.time]
  valid := h.valid
  phase := h.phase
  events := h.events
  fits := h.fits

/-! ### Runs -/

variable {request : Request}

def TimedQueue.step (q : TimedQueue) : Request → TimedQueue
  | .scheduleEvent eventId time groupId phase => q.schedule eventId time groupId phase
  | .rescheduleEvent eventId time groupId phase =>
    (q.cancel eventId).schedule eventId time groupId phase
  | .cancelEvent eventId => q.cancel eventId
  | .cancelEventGroup groupId => q.cancelGroup groupId
  | .repeatEvent time => q.again time
  | .popEvent => q.pop .popped
  | .setPhase phase => q.setPhase phase
  | .addPhase phase => q.addPhase phase
  | .removePhase phase => q.removePhase phase
  | .update time => { q with time := q.time + time }
  | .executeEvent => q.execute
  | .getEvent => q.dropLate

theorem TimedQueue.Sound.step (h : q.Sound) (request : Request) : (q.step request).Sound := by
  cases request with
  | scheduleEvent eventId time groupId phase => exact h.schedule eventId time groupId phase
  | rescheduleEvent eventId time groupId phase =>
    exact (h.cancel eventId).schedule eventId time groupId phase
  | cancelEvent eventId => exact h.cancel eventId
  | cancelEventGroup groupId => exact h.cancelGroup groupId
  | repeatEvent time => exact h.again time
  | popEvent => exact h.pop
  | setPhase phase => exact h.setPhase phase
  | addPhase phase => exact h.addPhase phase
  | removePhase phase => exact h.removePhase phase
  | update time => exact h.update time
  | executeEvent => exact h.execute
  | getEvent => exact h.dropLate

/-- The ids, the groups and the phases are in their ranges, and the times stay below the bound. -/
def InRange (s : Script) : Request → Prop
  | .scheduleEvent eventId time groupId phase =>
    eventId < 2 ^ 16 ∧ groupId ≤ 8 ∧ phase ≤ 8 ∧ HasSlot s.map.events (time + s.map.time)
  | .rescheduleEvent eventId time groupId phase =>
    eventId < 2 ^ 16 ∧ groupId ≤ 8 ∧ phase ≤ 8 ∧
      HasSlot (s.map.cancelEvent eventId).events (time + s.map.time)
  | .repeatEvent time => HasSlot s.map.popEvent.events (time + s.map.time)
  | .update time => s.map.time + time < 2 ^ 32
  | _ => True

/-- No event is scheduled for the eighth phase. -/
def SparesLastPhase : Request → Prop
  | .scheduleEvent _ _ _ phase => phase ≠ 8
  | .rescheduleEvent _ _ _ phase => phase ≠ 8
  | _ => True

def Allowed (s : Script) (request : Request) : Prop := InRange s request ∧ SparesLastPhase request

/-- A script is faithful to a timed queue when it holds the events of the queue, the queue is sound,
and each execution returned the id of the event that the queue executed. -/
structure Faithful (s : Script) (q : TimedQueue) : Prop where
  represents : Represents s.map q
  sound : q.Sound
  executed : s.executed = q.answers.map fun answer => (answer.map Event.id).getD 0

/-- Only an execution answers. -/
theorem TimedQueue.answers_step (hne : request ≠ .executeEvent) :
    (q.step request).answers = q.answers := by
  cases request with
  | scheduleEvent eventId time groupId phase => rfl
  | rescheduleEvent eventId time groupId phase => rfl
  | cancelEvent eventId => rfl
  | cancelEventGroup groupId =>
    rw [TimedQueue.step, TimedQueue.cancelGroup]
    split
    · rfl
    · rfl
  | repeatEvent time =>
    rw [TimedQueue.step, TimedQueue.again]
    split
    · rfl
    · rfl
  | popEvent =>
    rw [TimedQueue.step, TimedQueue.pop]
    split
    · rfl
    · rfl
  | setPhase phase =>
    rw [TimedQueue.step, TimedQueue.setPhase]
    split
    · rfl
    · split
      · rfl
      · rfl
  | addPhase phase =>
    rw [TimedQueue.step, TimedQueue.addPhase]
    split
    · rfl
    · rfl
  | removePhase phase =>
    rw [TimedQueue.step, TimedQueue.removePhase]
    split
    · rfl
    · rfl
  | update time => rfl
  | executeEvent => exact absurd rfl hne
  | getEvent => rfl

theorem hasSlot_map {events : OrderedMap Nat Event} (h : HasSlot (events.map wordOf) time) :
    HasSlot events time := by
  obtain ⟨slot, hle, hlt, hfree⟩ := h
  rw [OrderedMap.contains_map] at hfree
  exact ⟨slot, hle, hlt, hfree⟩

/-- A new event is stored. -/
theorem Represents.schedule (h : Represents m q) {eventId groupId phase : Nat}
    (hid : eventId < 2 ^ 16) (hgroup : groupId ≤ 8) (hphase : phase < 8)
    (hslot : HasSlot m.events (time + m.time)) :
    Represents (m.scheduleEvent eventId time groupId phase)
      (q.schedule eventId time groupId phase) := by
  have hnext : Represents m { q with scheduled := q.scheduled + 1 } :=
    ⟨h.time, h.valid, h.phase, h.events, h.fits⟩
  have hfits : Event.Fits ⟨q.scheduled, eventId, groupId, phase, q.time + time⟩ :=
    ⟨hid, hgroup, hphase⟩
  rw [h.events, h.time, Nat.add_comm] at hslot
  exact hnext.place hfits rfl (hasSlot_map hslot)

theorem Represents.step {s : Script} (h : Represents s.map q) (hallowed : Allowed s request) :
    Represents (s.step request).map (q.step request) := by
  obtain ⟨hrange, hspares⟩ := hallowed
  cases request with
  | scheduleEvent eventId time groupId phase =>
    obtain ⟨hid, hgroup, hphase, hslot⟩ := hrange
    exact h.schedule hid hgroup (lt_of_le_of_ne hphase hspares) hslot
  | rescheduleEvent eventId time groupId phase =>
    obtain ⟨hid, hgroup, hphase, hslot⟩ := hrange
    exact (h.cancel eventId).schedule hid hgroup (lt_of_le_of_ne hphase hspares) hslot
  | cancelEvent eventId => exact h.cancel eventId
  | cancelEventGroup groupId => exact h.cancelGroup groupId
  | repeatEvent time => exact h.again hrange
  | popEvent => exact h.pop _
  | setPhase phase => exact h.setPhase phase
  | addPhase phase => exact h.addPhase phase
  | removePhase phase => exact h.removePhase phase
  | update time => exact h.update hrange
  | executeEvent =>
    obtain ⟨answer, -, -, hrepresents⟩ := h.execute
    exact hrepresents
  | getEvent => exact h.get

theorem Script.executed_step {s : Script} (hne : request ≠ .executeEvent) :
    (s.step request).executed = s.executed := by
  cases request with
  | executeEvent => exact absurd rfl hne
  | _ => rfl

/-- One request. -/
theorem Faithful.step {s : Script} (h : Faithful s q) (hallowed : Allowed s request) :
    Faithful (s.step request) (q.step request) where
  represents := h.represents.step hallowed
  sound := h.sound.step request
  executed := by
    by_cases hexecute : request = .executeEvent
    · obtain ⟨answer, hanswers, hid, -⟩ := h.represents.execute
      rw [hexecute, TimedQueue.step, hanswers, List.map_append, List.map_singleton, ← hid,
        ← h.executed]
      rfl
    · rw [Script.executed_step hexecute, TimedQueue.answers_step hexecute]
      exact h.executed

theorem faithful_start : Faithful Script.start TimedQueue.start :=
  ⟨represents_start, TimedQueue.sound_start, rfl⟩

/-- In every run in range that schedules no event for the eighth phase, the event map is faithful to
a timed queue. -/
theorem faithful_of_run {requests before : List Request}
    (h : Runs.Admissible Script.step Allowed Script.start requests)
    (hbefore : before <+: requests) :
    Faithful (Runs.run Script.step Script.start before)
      (Runs.run TimedQueue.step TimedQueue.start before) := by
  refine h.holds_throughout
    (P := fun history s => Faithful s (Runs.run TimedQueue.step TimedQueue.start history))
    ?_ faithful_start hbefore
  intro history s request hfaithful hallowed
  have hrun : Runs.run TimedQueue.step TimedQueue.start (history ++ [request]) =
      (Runs.run TimedQueue.step TimedQueue.start history).step request :=
    List.foldl_append ..
  rw [hrun]
  exact hfaithful.step hallowed

/-! ### Two scripts -/

/-- A script schedules an event for the second phase and one for all, and executes both. -/
def twoEvents : List Request :=
  [.scheduleEvent 1 5 0 2, .scheduleEvent 3 5 1 0, .setPhase 2, .update 10, .executeEvent,
    .executeEvent]

theorem hasSlot_of_lt {V : Type*} {events : OrderedMap Nat V} (hlt : time < 2 ^ 32)
    (hfree : events.contains time = false) : HasSlot events time :=
  ⟨time, le_rfl, hlt, hfree⟩

/-- The event of the second phase is executed first, and then the other. -/
theorem faithful_twoEvents :
    Faithful (Runs.run Script.step Script.start twoEvents)
      (Runs.run TimedQueue.step TimedQueue.start twoEvents) ∧
      (Runs.run Script.step Script.start twoEvents).executed = [1, 3] := by
  refine ⟨faithful_of_run ?_ List.prefix_rfl, by decide +kernel⟩
  have htwo : 2 ≠ 8 := by decide
  have hzero : 0 ≠ 8 := by decide
  refine ⟨⟨⟨by decide, by decide, by decide, ?_⟩, htwo⟩,
    ⟨⟨by decide, by decide, by decide, ?_⟩, hzero⟩, ⟨trivial, trivial⟩, ⟨?_, trivial⟩,
    ⟨trivial, trivial⟩, ⟨trivial, trivial⟩, trivial⟩
  · exact hasSlot_of_lt (by decide) rfl
  · exact ⟨6, by decide +kernel, by decide, by decide +kernel⟩
  · change _ + _ < _
    decide +kernel

/-- An event of the eighth phase is executed in the first. -/
def eighthPhase : List Request := [.scheduleEvent 1 0 0 8, .setPhase 1, .executeEvent]

/-- The abstract queue does not execute the event in the first phase. -/
theorem eighthPhase_executed :
    Runs.Admissible Script.step InRange Script.start eighthPhase ∧
      (Runs.run Script.step Script.start eighthPhase).executed = [1] ∧
      ¬ Faithful (Runs.run Script.step Script.start eighthPhase)
        (Runs.run TimedQueue.step TimedQueue.start eighthPhase) := by
  refine ⟨⟨⟨by decide, by decide, by decide, hasSlot_of_lt (by decide) rfl⟩, trivial, trivial,
    trivial⟩, by decide +kernel, ?_⟩
  intro h
  have hexecuted := h.executed
  revert hexecuted
  decide +kernel

end Cataclysm.AI
