import Cataclysm.AI.EventMap

/-!
# Delayed events

A script delays its events in two ways. It sets its timer back, which delays all events at once,
or it schedules the events of one group again, each from its slot and the delay on.

The timer does not go back behind zero. The second way takes the first event of the group again
and again, until there is none in front of the timer and the delay. An event that comes to stand
in front of that time is delayed once more, and an event behind it not at all.

## Implementation notes

The loop is the same for events of any kind, and what it does to events is seen if each carries the
slot it came from. As it need not end, it takes a number of turns. The search for a free slot does
not end if there is none; here it finds nothing.
-/

namespace Cataclysm.AI

/-! ### Definitions from the source -/

section Loop
variable {V : Type*} (group : V → Bool)

/-- The search of `ScheduleEvent` for a slot that is not taken. -/
def slotFrom (events : OrderedMap Nat V) : Nat → Nat → Option Nat
  | 0, _ => none
  | fuel + 1, time =>
    if events.contains time then slotFrom events fuel ((time + 1) % 2 ^ 32) else some time

/-- `ScheduleEvent`, for an event that is packed already. -/
def scheduleAgain (events : OrderedMap Nat V) (timer : Nat) (v : V) (time : Nat) :
    Option (OrderedMap Nat V) :=
  (slotFrom events (events.entries.length + 1) ((time + timer) % 2 ^ 32)).map fun slot =>
    events.insert slot v

/-- The first event of the group in front of a time. -/
def firstOf (nextTime : Nat) (events : OrderedMap Nat V) : Option (Nat × V) :=
  (events.entries.takeWhile fun e => decide (e.1 < nextTime)).find? fun e => group e.2

/-- The loop of `DelayEvents`. It starts from the first event after each erasure. -/
def delayLoop (timer delay nextTime : Nat) : Nat → OrderedMap Nat V → Option (OrderedMap Nat V)
  | 0, _ => none
  | fuel + 1, events =>
    match firstOf group nextTime events with
    | none => some events
    | some (slot, v) =>
      (scheduleAgain events timer v ((slot + 2 ^ 32 - timer + delay) % 2 ^ 32)).bind
        fun events => delayLoop timer delay nextTime fuel (events.erase slot)

end Loop

namespace EventMap

/-- `DelayEvents` for all events. -/
def delayEvents (m : EventMap) (delay : Nat) : EventMap :=
  if delay < m.time then { m with time := m.time - delay } else { m with time := 0 }

/-- The time up to which the events of a group are delayed. -/
def nextTime (m : EventMap) (delay : Nat) : Nat := (m.time + delay) % 2 ^ 32

/-- `DelayEvents` for the events of a group, with a number of turns of its loop. -/
def delayGroup (fuel : Nat) (m : EventMap) (delay groupId : Nat) : Option EventMap :=
  if groupId = 0 ∨ 8 < groupId then some m
  else
    (delayLoop (fun word => word &&& bit (groupId + 15) != 0#32) m.time delay (m.nextTime delay)
      fuel m.events).map fun events => { m with events := events }

end EventMap

/-! ### What a delay is meant to do -/

/-- The groups are numbered from 1 to 8. -/
def inGroup (groupId : Nat) (word : BitVec 32) : Bool :=
  !decide (groupId = 0 ∨ 8 < groupId) && word &&& EventMap.bit (groupId + 15) != 0#32

/-- The events, each with the slot it stands in. -/
def labelled {V : Type*} (events : OrderedMap Nat V) : OrderedMap Nat (Nat × V) :=
  ⟨events.entries.map fun e => (e.1, e), List.pairwise_map.mpr events.sorted⟩

/-- Every event of the group is as much later as the delay, and further on only behind slots that
other events have or had. The other events stand where they stood, and there is no event more or
less. -/
structure Delayed {V : Type*} (group : V → Bool) (delay : Nat) (events : OrderedMap Nat V)
    (moved : OrderedMap Nat (Nat × V)) : Prop where
  perm : (moved.entries.map Prod.snd).Perm events.entries
  others : ∀ e ∈ events.entries, group e.2 = false → (e.1, e) ∈ moved.entries
  later : ∀ e ∈ events.entries, group e.2 = true →
    ∃ slot, (slot, e) ∈ moved.entries ∧ e.1 + delay ≤ slot ∧
      ∀ z, e.1 + delay ≤ z → z < slot →
        (z ≠ e.1 ∧ events.contains z = true) ∨ moved.contains z = true

/-- The loop ends, and it delays the events of the group. -/
def DelaysGroup (m : EventMap) (delay groupId : Nat) : Prop :=
  ∃ fuel moved,
    delayLoop (fun e => inGroup groupId e.2) m.time delay (m.nextTime delay) fuel
        (labelled m.events) = some moved ∧
      m.delayGroup fuel delay groupId = some { m with events := moved.map Prod.snd } ∧
      Delayed (inGroup groupId) delay m.events moved

/-- All events stand where they stood, and the time that each has left is as much longer as the
delay. -/
def DelaysAll (m : EventMap) (delay : Nat) : Prop :=
  (m.delayEvents delay).events = m.events ∧
    ∀ e ∈ m.events.entries,
      (e.1 : ℤ) - (m.delayEvents delay).time = (e.1 : ℤ) - m.time + delay

/-- The first slot that an event may come to stand in. -/
def earliest {V : Type*} (group : V → Bool) (delay nextTime : Nat) (e : Nat × V) : Nat :=
  if group e.2 then max (e.1 + delay) nextTime else e.1

/-- Every event of the group stands in front of the time up to which events are delayed, and the
delay leads it to that time or over slots that are taken. From each later time on there are as many
slots as events that may come to stand there. Without a delay no event of the group is overdue. -/
structure Delayable {V : Type*} (group : V → Bool) (delay nextTime : Nat)
    (events : OrderedMap Nat V) : Prop where
  due : ∀ e ∈ events.entries, group e.2 = true →
    (delay = 0 ∧ nextTime ≤ e.1) ∨
      (0 < delay ∧ e.1 < nextTime ∧
        ∀ z, e.1 + delay ≤ z → z < nextTime → events.contains z = true)
  room : ∀ t, nextTime ≤ t → t ≤ 2 ^ 32 →
    (events.entries.countP fun e => decide (t ≤ earliest group delay nextTime e)) ≤ 2 ^ 32 - t

/-! ### The search and the first event -/

section Search
variable {V : Type*} {group : V → Bool} {events : OrderedMap Nat V} {delay nextTime : Nat}

variable {slot start : Nat}

theorem contains_of_mem {v : V} (h : (slot, v) ∈ events.entries) : events.contains slot = true :=
  OrderedMap.contains_of_find? (OrderedMap.find?_eq_some_iff.mpr h)

theorem exists_mem_of_contains (h : events.contains slot = true) :
    ∃ v, (slot, v) ∈ events.entries := by
  obtain ⟨v, hv⟩ := Option.isSome_iff_exists.mp h
  exact ⟨v, OrderedMap.find?_eq_some_iff.mp hv⟩

/-- Two events do not stand in one slot. -/
theorem eq_of_mem {v v' : V} (h : (slot, v) ∈ events.entries) (h' : (slot, v') ∈ events.entries) :
    v = v' :=
  Option.some.inj ((OrderedMap.find?_eq_some_iff.mpr h).symm.trans
    (OrderedMap.find?_eq_some_iff.mpr h'))

/-- Slots in a row that are all taken are as many as the events in them. -/
theorem le_countP_of_contains {first last : Nat}
    (h : ∀ z, first ≤ z → z < last → events.contains z = true) :
    last - first ≤ events.entries.countP fun e => decide (first ≤ e.1) := by
  have hsub : List.range' first (last - first) ⊆
      (events.entries.filter fun e => decide (first ≤ e.1)).map Prod.fst := by
    intro z hin
    obtain ⟨hle, hlt⟩ := List.mem_range'_1.mp hin
    obtain ⟨v, hv⟩ := exists_mem_of_contains (h z hle (by omega))
    exact List.mem_map.mpr ⟨(z, v), List.mem_filter.mpr ⟨hv, decide_eq_true hle⟩, rfl⟩
  have hnodup : (List.range' first (last - first)).Nodup := List.nodup_range'
  have hlength := (hnodup.subperm hsub).length_le
  rw [List.length_range', List.length_map, ← List.countP_eq_length_filter] at hlength
  exact hlength

/-- The search passes over slots that are taken, and stops at the first one that is not. -/
theorem slotFrom_eq (hle : start ≤ slot) (hlt : slot < 2 ^ 32)
    (htaken : ∀ z, start ≤ z → z < slot → events.contains z = true)
    (hfree : events.contains slot = false) {fuel : Nat} (hfuel : slot - start < fuel) :
    slotFrom events fuel start = some slot := by
  induction fuel generalizing start with
  | zero => exact absurd hfuel (Nat.not_lt_zero _)
  | succ fuel ih =>
    rw [slotFrom]
    rcases Nat.eq_or_lt_of_le hle with rfl | hstart
    · rw [if_neg (Bool.not_eq_true _ ▸ hfree)]
    · have hnext : (start + 1) % 2 ^ 32 = start + 1 := Nat.mod_eq_of_lt (by omega)
      rw [if_pos (htaken start (Nat.le_refl _) hstart), hnext]
      exact ih hstart (fun z hz => htaken z (Nat.le_of_succ_le hz)) (by omega)

/-- The search ends if there is a free slot behind its start. -/
theorem exists_slotFrom {start free : Nat} (hle : start ≤ free) (hlt : free < 2 ^ 32)
    (hfree : events.contains free = false) :
    ∃ slot, slotFrom events (events.entries.length + 1) start = some slot ∧ start ≤ slot ∧
      slot < 2 ^ 32 ∧ events.contains slot = false ∧
      ∀ z, start ≤ z → z < slot → events.contains z = true := by
  classical
  have hexists : ∃ slot, start ≤ slot ∧ events.contains slot = false := ⟨free, hle, hfree⟩
  obtain ⟨hstart, hslot⟩ := Nat.find_spec hexists
  have hmin : Nat.find hexists ≤ free := Nat.find_min' hexists ⟨hle, hfree⟩
  have htaken : ∀ z, start ≤ z → z < Nat.find hexists → events.contains z = true := by
    intro z hz hlt'
    have hnot := Nat.find_min hexists hlt'
    rw [← Bool.not_eq_false]
    exact fun hno => hnot ⟨hz, hno⟩
  have hcount := le_countP_of_contains htaken
  have hlength : (events.entries.countP fun e => decide (start ≤ e.1)) ≤ events.entries.length :=
    List.countP_le_length
  exact ⟨Nat.find hexists, slotFrom_eq hstart (by omega) htaken hslot (by omega), hstart, by omega,
    hslot, htaken⟩

/-- What the search finds is free. -/
theorem slotFrom_free {fuel : Nat} (h : slotFrom events fuel start = some slot) :
    events.contains slot = false := by
  induction fuel generalizing start with
  | zero => cases h
  | succ fuel ih =>
    rw [slotFrom] at h
    split_ifs at h with htaken
    · exact ih h
    · cases h
      exact Bool.eq_false_iff.mpr htaken

theorem slotFrom_lt {fuel : Nat} (hstart : start < 2 ^ 32)
    (h : slotFrom events fuel start = some slot) : slot < 2 ^ 32 := by
  induction fuel generalizing start with
  | zero => cases h
  | succ fuel ih =>
    rw [slotFrom] at h
    split_ifs at h
    · exact ih (Nat.mod_lt _ (by decide)) h
    · cases h
      exact hstart

theorem takeWhile_lt {entries : List (Nat × V)}
    (hsorted : entries.Pairwise fun e e' => e.1 < e'.1) (nextTime : Nat) :
    (entries.takeWhile fun e => decide (e.1 < nextTime)) =
      entries.filter fun e => decide (e.1 < nextTime) := by
  induction entries with
  | nil => rfl
  | cons e rest ih =>
    obtain ⟨hhead, htail⟩ := List.pairwise_cons.mp hsorted
    by_cases hlt : e.1 < nextTime
    · rw [List.takeWhile_cons_of_pos (by simpa using hlt),
        List.filter_cons_of_pos (by simpa using hlt), ih htail]
    · rw [List.takeWhile_cons_of_neg (by simpa using hlt),
        List.filter_cons_of_neg (by simpa using hlt)]
      refine (List.filter_eq_nil_iff.mpr fun e' hin => ?_).symm
      have hgt := hhead e' hin
      simp only [decide_eq_true_eq]
      omega

theorem firstOf_eq (group : V → Bool) (nextTime : Nat) (events : OrderedMap Nat V) :
    firstOf group nextTime events =
      events.entries.find? fun e => decide (e.1 < nextTime) && group e.2 := by
  rw [firstOf, takeWhile_lt events.sorted, List.find?_filter]
  refine congrArg (fun p => List.find? p events.entries) (funext fun e => ?_)
  rw [Bool.decide_and, Bool.decide_eq_true, Bool.decide_eq_true]

theorem of_firstOf_eq_none (h : firstOf group nextTime events = none) {e : Nat × V}
    (hin : e ∈ events.entries) (hgroup : group e.2 = true) : nextTime ≤ e.1 := by
  rw [firstOf_eq, List.find?_eq_none] at h
  have hnot := h e hin
  rw [hgroup, Bool.and_true, decide_eq_true_eq] at hnot
  exact Nat.le_of_not_lt hnot

theorem of_firstOf_eq_some {e : Nat × V} (h : firstOf group nextTime events = some e) :
    e ∈ events.entries ∧ e.1 < nextTime ∧ group e.2 = true ∧
      ∀ e' ∈ events.entries, group e'.2 = true → e.1 ≤ e'.1 := by
  rw [firstOf_eq] at h
  have hfound := List.find?_some h
  rw [Bool.and_eq_true, decide_eq_true_eq] at hfound
  refine ⟨List.mem_of_find?_eq_some h, hfound.1, hfound.2, fun e' hin hgroup => ?_⟩
  obtain ⟨-, before, after, hsplit, hbefore⟩ := List.find?_eq_some_iff_append.mp h
  have hsorted := events.sorted
  rw [hsplit, List.pairwise_append] at hsorted
  rw [hsplit] at hin
  rcases List.mem_append.mp hin with hin' | hin'
  · have hnot := hbefore e' hin'
    rw [hgroup, Bool.and_true, Bool.not_eq_true', decide_eq_false_iff_not] at hnot
    omega
  · rcases List.mem_cons.mp hin' with rfl | htail
    · exact Nat.le_refl _
    · exact Nat.le_of_lt ((List.pairwise_cons.mp hsorted.2.1).1 e' htail)

end Search

/-! ### One turn of the loop -/

section Turns
variable {V W : Type*} {group : V → Bool} {events result : OrderedMap Nat V}
variable {timer delay nextTime fuel : Nat}

variable {slot : Nat}

/-- An event is stored in a free slot, and erased from the slot it came from. -/
def move (events : OrderedMap Nat V) (slot : Nat) (v : V) (target : Nat) : OrderedMap Nat V :=
  (events.insert target v).erase slot

theorem mem_move {target : Nat} {v : V} (hfree : events.contains target = false) {e : Nat × V} :
    e ∈ (move events slot v target).entries ↔
      (e = (target, v) ∨ e ∈ events.entries) ∧ e.1 ≠ slot := by
  have hne : e ∈ events.entries → e.1 ≠ target := by
    rintro hin rfl
    rw [contains_of_mem hin] at hfree
    cases hfree
  rw [move, OrderedMap.mem_erase, OrderedMap.mem_insert, OrderedMap.mem_erase]
  exact and_congr_left fun _ => or_congr_right (and_iff_left_of_imp hne)

/-- Up to order, the event leaves its slot and comes to the other one. -/
theorem perm_cons_move {target : Nat} {v : V} (hin : (slot, v) ∈ events.entries)
    (hfree : events.contains target = false) :
    ((slot, v) :: (move events slot v target).entries).Perm ((target, v) :: events.entries) := by
  have hne : slot ≠ target := by
    rintro rfl
    rw [contains_of_mem hin] at hfree
    cases hfree
  have hfind : (events.insert target v).find? slot = some v := by
    rw [OrderedMap.find?_insert, if_neg hne]
    exact OrderedMap.find?_eq_some_iff.mpr hin
  have hnone : events.find? target = none := Option.not_isSome_iff_eq_none.mp
    (Bool.not_eq_true _ ▸ hfree)
  have hcons := OrderedMap.perm_insert events target v
  rw [OrderedMap.erase_of_find?_eq_none hnone] at hcons
  exact (OrderedMap.perm_erase hfind).symm.trans hcons

/-- The event stays the same one. -/
theorem perm_move {target : Nat} {v : V} (hin : (slot, v) ∈ events.entries)
    (hfree : events.contains target = false) :
    ((move events slot v target).entries.map Prod.snd).Perm (events.entries.map Prod.snd) :=
  List.Perm.cons_inv ((perm_cons_move hin hfree).map Prod.snd)

/-- What the event is told to be delayed by, from the timer on. -/
theorem mod_timer (hslot : slot < 2 ^ 32) (htimer : timer < 2 ^ 32) :
    ((slot + 2 ^ 32 - timer + delay) % 2 ^ 32 + timer) % 2 ^ 32 = (slot + delay) % 2 ^ 32 := by
  omega

theorem scheduleAgain_eq_some {v : V} {time : Nat}
    (h : scheduleAgain events timer v time = some result) :
    ∃ target < 2 ^ 32, events.contains target = false ∧ result = events.insert target v := by
  obtain ⟨target, htarget, rfl⟩ := Option.map_eq_some_iff.mp h
  exact ⟨target, slotFrom_lt (Nat.mod_lt _ (by decide)) htarget, slotFrom_free htarget, rfl⟩

/-- What a turn preserves holds where the loop ends, and there no event of the group is left in
front of the time. -/
theorem delayLoop_induct {I : OrderedMap Nat V → Prop}
    (hturn : ∀ {events slot v target}, I events → (slot, v) ∈ events.entries → slot < nextTime →
      group v = true → target < 2 ^ 32 → events.contains target = false →
        I (move events slot v target))
    (h : I events) (hrun : delayLoop group timer delay nextTime fuel events = some result) :
    I result ∧ firstOf group nextTime result = none := by
  induction fuel generalizing events with
  | zero => cases hrun
  | succ fuel ih =>
    rw [delayLoop] at hrun
    cases hfirst : firstOf group nextTime events with
    | none =>
      rw [hfirst] at hrun
      cases hrun
      exact ⟨h, hfirst⟩
    | some e =>
      obtain ⟨slot, v⟩ := e
      obtain ⟨hin, hlt, hgroup, -⟩ := of_firstOf_eq_some hfirst
      rw [hfirst] at hrun
      obtain ⟨next, hnext, hrest⟩ := Option.bind_eq_some_iff.mp hrun
      obtain ⟨target, htarget, hfree, rfl⟩ := scheduleAgain_eq_some hnext
      exact ih (hturn h hin hlt hgroup htarget hfree) hrest

/-- The loop does not look at what an event carries besides. -/
theorem slotFrom_map (f : W → V) (labels : OrderedMap Nat W) (fuel time : Nat) :
    slotFrom (labels.map f) fuel time = slotFrom labels fuel time := by
  induction fuel generalizing time with
  | zero => rfl
  | succ fuel ih => rw [slotFrom, slotFrom, OrderedMap.contains_map, ih]

theorem firstOf_map (f : W → V) (labels : OrderedMap Nat W) :
    firstOf group nextTime (labels.map f) =
      (firstOf (fun w => group (f w)) nextTime labels).map fun e => (e.1, f e.2) := by
  rw [firstOf_eq, firstOf_eq, OrderedMap.map, List.find?_map]
  rfl

theorem delayLoop_map (f : W → V) (labels : OrderedMap Nat W) :
    delayLoop group timer delay nextTime fuel (labels.map f) =
      (delayLoop (fun w => group (f w)) timer delay nextTime fuel labels).map fun moved =>
        moved.map f := by
  induction fuel generalizing labels with
  | zero => rfl
  | succ fuel ih =>
    rw [delayLoop, delayLoop, firstOf_map]
    cases firstOf (fun w => group (f w)) nextTime labels with
    | none => rfl
    | some e =>
      obtain ⟨slot, w⟩ := e
      have hlength : (labels.map f).entries.length = labels.entries.length :=
        List.length_map _
      simp only [Option.map_some, scheduleAgain, slotFrom_map, hlength]
      cases slotFrom labels (labels.entries.length + 1)
          (((slot + 2 ^ 32 - timer + delay) % 2 ^ 32 + timer) % 2 ^ 32) with
      | none => rfl
      | some target =>
        simp only [Option.map_some, Option.bind_some]
        rw [← OrderedMap.map_insert, ← OrderedMap.map_erase, ih]

end Turns

/-! ### A delay as it is meant needs room -/

section Necessity
variable {V : Type*} {group : V → Bool} {events : OrderedMap Nat V}
variable {moved : OrderedMap Nat (Nat × V)} {timer delay nextTime fuel : Nat}

variable {e : Nat × V}

theorem mem_labelled {e : Nat × (Nat × V)} :
    e ∈ (labelled events).entries ↔ e.1 = e.2.1 ∧ e.2 ∈ events.entries := by
  rw [labelled, List.mem_map]
  constructor
  · rintro ⟨e', hin, rfl⟩
    exact ⟨rfl, hin⟩
  · rintro ⟨heq, hin⟩
    exact ⟨e.2, hin, Prod.ext heq.symm rfl⟩

theorem labels_labelled : (labelled events).entries.map Prod.snd = events.entries := by
  rw [labelled, List.map_map]
  exact List.map_id _

theorem map_labelled : (labelled events).map Prod.snd = events := by
  ext1
  exact List.map_map.trans (List.map_id _)

/-- As no event is lost, each stands in one slot. -/
theorem slot_unique (hperm : (moved.entries.map Prod.snd).Perm events.entries) {slot slot' : Nat}
    (h : (slot, e) ∈ moved.entries) (h' : (slot', e) ∈ moved.entries) : slot = slot' := by
  have hnodup : (moved.entries.map Prod.snd).Nodup := hperm.nodup_iff.mpr events.nodup_entries
  exact congrArg Prod.fst (List.inj_on_of_nodup_map hnodup h h' rfl)

theorem mem_of_mem_moved (hperm : (moved.entries.map Prod.snd).Perm events.entries) {slot : Nat}
    (h : (slot, e) ∈ moved.entries) : e ∈ events.entries :=
  hperm.mem_iff.mp (List.mem_map_of_mem h)

/-- From a slot on there are no more events than slots. -/
theorem countP_le_slots {W : Type*} {m : OrderedMap Nat W} (h : ∀ e ∈ m.entries, e.1 < 2 ^ 32)
    (t : Nat) : (m.entries.countP fun e => decide (t ≤ e.1)) ≤ 2 ^ 32 - t := by
  have hsub : (m.entries.filter fun e => decide (t ≤ e.1)).map Prod.fst ⊆
      List.range' t (2 ^ 32 - t) := by
    intro z hin
    obtain ⟨e, he, rfl⟩ := List.mem_map.mp hin
    obtain ⟨hmem, hle⟩ := List.mem_filter.mp he
    have hlt := h e hmem
    have hle' := of_decide_eq_true hle
    exact List.mem_range'_1.mpr ⟨hle', by omega⟩
  have hnodup : ((m.entries.filter fun e => decide (t ≤ e.1)).map Prod.fst).Nodup :=
    m.nodup_keys.sublist (List.filter_sublist.map Prod.fst)
  have hlength := (hnodup.subperm hsub).length_le
  rw [List.length_range', List.length_map, ← List.countP_eq_length_filter] at hlength
  exact hlength

section Run
variable
  (hrun : delayLoop (fun e : Nat × V => group e.2) timer delay nextTime fuel (labelled events) =
    some moved)
include hrun

theorem nextTime_le_of_moved {e : Nat × (Nat × V)} (hin : e ∈ moved.entries)
    (hgroup : group e.2.2 = true) : nextTime ≤ e.1 := by
  have hdone := (@delayLoop_induct _ _ _ _ _ _ _ _ (fun _ => True)
    (fun _ _ _ _ _ _ => trivial) trivial hrun).2
  exact of_firstOf_eq_none hdone hin hgroup

theorem moved_lt (hslots : ∀ e ∈ events.entries, e.1 < 2 ^ 32) :
    ∀ e ∈ moved.entries, e.1 < 2 ^ 32 := by
  refine (delayLoop_induct (I := fun m => ∀ e ∈ m.entries, e.1 < 2 ^ 32) ?_ ?_ hrun).1
  · intro m slot v target h _ _ _ htarget hfree e hin
    rcases ((mem_move hfree).mp hin).1 with rfl | hold
    · exact htarget
    · exact h e hold
  · intro e hin
    obtain ⟨heq, hmem⟩ := mem_labelled.mp hin
    exact heq ▸ hslots e.2 hmem

/-- An event that does not stand in front of the time is left where it is. -/
theorem moved_of_le (hin : e ∈ events.entries) (hle : nextTime ≤ e.1) :
    (e.1, e) ∈ moved.entries := by
  refine (delayLoop_induct (I := fun m => (e.1, e) ∈ m.entries) ?_ ?_ hrun).1
  · intro m slot v target h _ hlt _ _ hfree
    refine (mem_move hfree).mpr ⟨Or.inr h, fun heq => ?_⟩
    dsimp only at heq
    omega
  · exact mem_labelled.mpr ⟨rfl, hin⟩

/-- A slot in front of the time is taken by an event of no group that did not move. -/
theorem exists_of_early (hdelayed : Delayed group delay events moved) {z : Nat}
    (hlt : z < nextTime) (htaken : moved.contains z = true) :
    ∃ v, (z, v) ∈ events.entries ∧ group v = false := by
  obtain ⟨⟨origin, v⟩, hv⟩ := exists_mem_of_contains htaken
  have hmem := mem_of_mem_moved hdelayed.perm hv
  have hgroup : group v = false := by
    rw [← Bool.not_eq_true]
    intro htrue
    have hle := nextTime_le_of_moved hrun hv htrue
    dsimp only at hle
    omega
  have hslot := slot_unique hdelayed.perm (hdelayed.others _ hmem hgroup) hv
  dsimp only at hslot
  exact ⟨v, hslot ▸ hmem, hgroup⟩

theorem due_of_delayed (hdelayed : Delayed group delay events moved) (hin : e ∈ events.entries)
    (hgroup : group e.2 = true) :
    (delay = 0 ∧ nextTime ≤ e.1) ∨
      (0 < delay ∧ e.1 < nextTime ∧
        ∀ z, e.1 + delay ≤ z → z < nextTime → events.contains z = true) := by
  obtain ⟨slot, hslot, hle, htaken⟩ := hdelayed.later e hin hgroup
  have hnext := nextTime_le_of_moved hrun hslot hgroup
  dsimp only at hnext
  rcases Nat.eq_zero_or_pos delay with rfl | hpos
  · refine Or.inl ⟨rfl, ?_⟩
    by_contra hlt
    rcases htaken e.1 (Nat.le_refl _) (by omega) with ⟨hne, -⟩ | hmoved
    · exact hne rfl
    · obtain ⟨v, hv, hother⟩ := exists_of_early hrun hdelayed (Nat.lt_of_not_le hlt) hmoved
      rw [eq_of_mem hv hin, hgroup] at hother
      cases hother
  · refine Or.inr ⟨hpos, ?_, fun z hz hlt => ?_⟩
    · by_contra hge
      have hstays := moved_of_le hrun hin (Nat.le_of_not_lt hge)
      have heq := slot_unique hdelayed.perm hslot hstays
      omega
    · rcases htaken z hz (by omega) with ⟨-, hold⟩ | hmoved
      · exact hold
      · obtain ⟨v, hv, -⟩ := exists_of_early hrun hdelayed hlt hmoved
        exact contains_of_mem hv

/-- A delay that goes as it is meant to go had the room. -/
theorem delayable_of_delayed (hslots : ∀ e ∈ events.entries, e.1 < 2 ^ 32)
    (hdelayed : Delayed group delay events moved) : Delayable group delay nextTime events := by
  refine ⟨fun e hin hgroup => due_of_delayed hrun hdelayed hin hgroup, fun t _ _ => ?_⟩
  have hplaced : ∀ e ∈ moved.entries,
      decide (t ≤ earliest group delay nextTime e.2) = true → decide (t ≤ e.1) = true := by
    rintro ⟨slot, e⟩ hin hle
    have hle' : t ≤ earliest group delay nextTime e := of_decide_eq_true hle
    have hmem := mem_of_mem_moved hdelayed.perm hin
    refine decide_eq_true ?_
    rw [earliest] at hle'
    cases hgroup : group e.2 with
    | false =>
      rw [hgroup, if_neg Bool.false_ne_true] at hle'
      have heq := slot_unique hdelayed.perm hin (hdelayed.others e hmem hgroup)
      dsimp only
      omega
    | true =>
      rw [hgroup, if_pos rfl] at hle'
      obtain ⟨slot', hslot', hlater, -⟩ := hdelayed.later e hmem hgroup
      have heq := slot_unique hdelayed.perm hin hslot'
      have hnext := nextTime_le_of_moved hrun hin hgroup
      dsimp only at hnext ⊢
      omega
  calc (events.entries.countP fun e => decide (t ≤ earliest group delay nextTime e))
      = (moved.entries.map Prod.snd).countP fun e =>
          decide (t ≤ earliest group delay nextTime e) := (hdelayed.perm.countP_eq _).symm
    _ = moved.entries.countP fun e => decide (t ≤ earliest group delay nextTime e.2) :=
        List.countP_map
    _ ≤ moved.entries.countP fun e => decide (t ≤ e.1) := List.countP_mono_left hplaced
    _ ≤ 2 ^ 32 - t := countP_le_slots (moved_lt hrun hslots) t

end Run

end Necessity

/-! ### With room, each event of the group moves once -/

section Sufficiency
variable {V : Type*} {group : V → Bool} {events : OrderedMap Nat V}
variable {m : OrderedMap Nat (Nat × V)} {timer delay nextTime : Nat}

variable {e : Nat × V}

/-- The events of the group have moved up to one of them, each to the first slot that was free, and
none has moved twice. -/
structure Underway (group : V → Bool) (delay nextTime : Nat) (events : OrderedMap Nat V)
    (m : OrderedMap Nat (Nat × V)) : Prop where
  perm : (m.entries.map Prod.snd).Perm events.entries
  others : ∀ e ∈ events.entries, group e.2 = false → (e.1, e) ∈ m.entries
  placed : ∀ {slot e}, (slot, e) ∈ m.entries → group e.2 = true → slot = e.1 ∨
    (earliest group delay nextTime e ≤ slot ∧
      ∀ z, earliest group delay nextTime e ≤ z → z < slot → m.contains z = true)
  ordered : ∀ {slot e e'}, (slot, e) ∈ m.entries → group e.2 = true → slot ≠ e.1 →
    (e'.1, e') ∈ m.entries → group e'.2 = true → e.1 < e'.1

theorem underway_labelled : Underway group delay nextTime events (labelled events) where
  perm := List.Perm.of_eq labels_labelled
  others _ hin _ := mem_labelled.mpr ⟨rfl, hin⟩
  placed hin _ := Or.inl (mem_labelled.mp hin).1
  ordered hin _ hne _ _ := absurd (mem_labelled.mp hin).1 hne

theorem earliest_of_group (hgroup : group e.2 = true) :
    earliest group delay nextTime e = max (e.1 + delay) nextTime := by
  rw [earliest, if_pos hgroup]

theorem earliest_of_other (hgroup : group e.2 = false) : earliest group delay nextTime e = e.1 := by
  rw [earliest, hgroup, if_neg Bool.false_ne_true]

section Turn
variable (hroom : Delayable group delay nextTime events) (hpos : 0 < delay)
  (hnext : nextTime < 2 ^ 32) (h : Underway group delay nextTime events m)
include hroom hpos

theorem lt_nextTime (hin : e ∈ events.entries) (hgroup : group e.2 = true) : e.1 < nextTime := by
  rcases hroom.due e hin hgroup with ⟨hzero, -⟩ | ⟨-, hlt, -⟩
  · omega
  · exact hlt

theorem contains_of_between (hin : e ∈ events.entries) (hgroup : group e.2 = true) {z : Nat}
    (hz : e.1 + delay ≤ z) (hlt : z < nextTime) : events.contains z = true := by
  rcases hroom.due e hin hgroup with ⟨hzero, -⟩ | ⟨-, -, htaken⟩
  · omega
  · exact htaken z hz hlt

include hnext h

/-- A slot is left for the next event: if all slots from some time on were taken, the events that
may come to stand there would be too many. -/
theorem exists_free (hin : (e.1, e) ∈ m.entries) (hgroup : group e.2 = true) :
    ∃ z, earliest group delay nextTime e ≤ z ∧ z < 2 ^ 32 ∧ m.contains z = false := by
  classical
  by_contra hnone
  have hfull : ∀ z, earliest group delay nextTime e ≤ z → z < 2 ^ 32 → m.contains z = true := by
    intro z hz hlt
    rw [← Bool.not_eq_false]
    exact fun hfree => hnone ⟨z, hz, hlt, hfree⟩
  have hlt := lt_nextTime hroom hpos (mem_of_mem_moved h.perm hin) hgroup
  have hstart : nextTime ≤ earliest group delay nextTime e := by
    rw [earliest_of_group hgroup]
    exact Nat.le_max_right _ _
  have hexists : ∃ t, nextTime ≤ t ∧ ∀ z, t ≤ z → z < 2 ^ 32 → m.contains z = true :=
    ⟨_, hstart, hfull⟩
  obtain ⟨t, ⟨ht, htaken⟩, hmin⟩ : ∃ t, (nextTime ≤ t ∧
      ∀ z, t ≤ z → z < 2 ^ 32 → m.contains z = true) ∧
        ∀ t', (nextTime ≤ t' ∧ ∀ z, t' ≤ z → z < 2 ^ 32 → m.contains z = true) → t ≤ t' :=
    ⟨Nat.find hexists, Nat.find_spec hexists, fun t' h' => Nat.find_min' hexists h'⟩
  have hle : t ≤ earliest group delay nextTime e := hmin _ ⟨hstart, hfull⟩
  have hbound : t ≤ 2 ^ 32 := by
    refine hmin _ ⟨Nat.le_of_lt hnext, fun z hz hz' => ?_⟩
    omega
  -- an event behind `t` passed over no free slot, so its earliest slot is behind `t` too
  have hearliest : ∀ e' ∈ (m.erase e.1).entries,
      decide (t ≤ e'.1) = true → decide (t ≤ earliest group delay nextTime e'.2) = true := by
    rintro ⟨slot, e'⟩ hin' hle'
    obtain ⟨hmem, -⟩ := OrderedMap.mem_erase.mp hin'
    have hslot : t ≤ slot := of_decide_eq_true hle'
    have hevent := mem_of_mem_moved h.perm hmem
    suffices hgoal : t ≤ earliest group delay nextTime e' from decide_eq_true hgoal
    cases hgroup' : group e'.2 with
    | false =>
      have heq := slot_unique h.perm hmem (h.others e' hevent hgroup')
      rw [earliest_of_other hgroup']
      omega
    | true =>
      rcases h.placed hmem hgroup' with heq | ⟨-, hpassed⟩
      · have hearly := lt_nextTime hroom hpos hevent hgroup'
        omega
      · by_contra hlate
        have hnext' : nextTime ≤ earliest group delay nextTime e' := by
          rw [earliest_of_group hgroup']
          exact Nat.le_max_right _ _
        have hsmaller : t ≤ t - 1 := by
          refine hmin _ ⟨by omega, fun z hz hz' => ?_⟩
          rcases Nat.eq_or_lt_of_le hz with rfl | hgt
          · exact hpassed _ (by omega) (by omega)
          · exact htaken z (by omega) hz'
        omega
  have hslots : 2 ^ 32 - t ≤ (m.erase e.1).entries.countP fun e' => decide (t ≤ e'.1) := by
    refine le_countP_of_contains fun z hz hz' => ?_
    rw [OrderedMap.contains_erase, htaken z hz hz', Bool.and_true, decide_eq_true_eq]
    omega
  have hfind : m.find? e.1 = some e := OrderedMap.find?_eq_some_iff.mpr hin
  have hself : decide (t ≤ earliest group delay nextTime (e.1, e).2) = true := decide_eq_true hle
  have hcount := hroom.room t ht hbound
  rw [← h.perm.countP_eq, List.countP_map] at hcount
  have hcons : m.entries.countP
        ((fun e => decide (t ≤ earliest group delay nextTime e)) ∘ Prod.snd) =
      ((m.erase e.1).entries.countP
        fun e' => decide (t ≤ earliest group delay nextTime e'.2)) + 1 := by
    rw [(OrderedMap.perm_erase hfind).countP_eq]
    exact List.countP_cons_of_pos hself
  have hmono := List.countP_mono_left hearliest
  omega

/-- One turn of the loop moves the next event of the group. -/
theorem Underway.turn {e : Nat × (Nat × V)}
    (hfirst : firstOf (fun e : Nat × V => group e.2) nextTime m = some e) :
    ∃ target, slotFrom m (m.entries.length + 1) (e.1 + delay) = some target ∧
      target < 2 ^ 32 ∧ nextTime ≤ target ∧ e.1 + delay < 2 ^ 32 ∧
      m.contains target = false ∧
      Underway group delay nextTime events (move m e.1 e.2 target) := by
  obtain ⟨slot, e⟩ := e
  obtain ⟨hin, hlt, hgroup, hmin⟩ := of_firstOf_eq_some hfirst
  dsimp only at hin hlt hgroup hmin ⊢
  have hevent := mem_of_mem_moved h.perm hin
  obtain rfl : slot = e.1 := by
    rcases h.placed hin hgroup with heq | ⟨hle, -⟩
    · exact heq
    · rw [earliest_of_group hgroup] at hle
      omega
  obtain ⟨free, hfree, hfree', hnot⟩ := exists_free hroom hpos hnext h hin hgroup
  rw [earliest_of_group hgroup] at hfree
  obtain ⟨target, hsearch, hstart, htarget, hempty, htaken⟩ :=
    @exists_slotFrom _ m (e.1 + delay) free (by omega) hfree' hnot
  have hstays : ∀ z, e.1 < z → events.contains z = true → m.contains z = true := by
    intro z hz hcontains
    obtain ⟨v, hv⟩ := exists_mem_of_contains hcontains
    cases hgroup' : group v with
    | false => exact contains_of_mem (h.others _ hv hgroup')
    | true =>
      obtain ⟨⟨slot', e'⟩, hmem, heq⟩ := List.mem_map.mp (h.perm.mem_iff.mpr hv)
      obtain rfl : e' = (z, v) := heq
      by_cases hslot : slot' = z
      · exact contains_of_mem (hslot ▸ hmem)
      · have hbefore := h.ordered hmem hgroup' hslot hin hgroup
        dsimp only at hbefore
        omega
  have hle : nextTime ≤ target := by
    by_contra hearly
    have hcontains := contains_of_between hroom hpos hevent hgroup hstart (by omega)
    rw [hstays target (by omega) hcontains] at hempty
    cases hempty
  refine ⟨target, hsearch, htarget, hle, by omega, hempty, ?_⟩
  have hkeeps : ∀ z, nextTime ≤ z → m.contains z = true →
      (move m e.1 e target).contains z = true := by
    intro z hz hcontains
    obtain ⟨e', he'⟩ := exists_mem_of_contains hcontains
    refine contains_of_mem ((mem_move hempty).mpr ⟨Or.inr he', ?_⟩)
    dsimp only
    omega
  refine ⟨(perm_move hin hempty).trans h.perm, ?_, ?_, ?_⟩
  · intro e' hin' hother
    refine (mem_move hempty).mpr ⟨Or.inr (h.others e' hin' hother), fun heq => ?_⟩
    have hsame := eq_of_mem (h.others e' hin' hother) (heq ▸ hin)
    rw [hsame, hgroup] at hother
    cases hother
  · intro slot' e' hin' hgroup'
    rcases (mem_move hempty).mp hin' with ⟨heq | hold, -⟩
    · obtain ⟨rfl, rfl⟩ := Prod.mk.inj heq
      rw [earliest_of_group hgroup]
      refine Or.inr ⟨by omega, fun z hz hlt' => hkeeps z (by omega) (htaken z (by omega) hlt')⟩
    · refine (h.placed hold hgroup').imp_right fun hplaced => ⟨hplaced.1, fun z hz hlt' => ?_⟩
      have hz' := hz
      rw [earliest_of_group hgroup'] at hz'
      exact hkeeps z (by omega) (hplaced.2 z hz hlt')
  · intro slot' e' e'' hin' hgroup' hne hin'' hgroup''
    have hold'' : (e''.1, e'') ∈ m.entries := by
      rcases (mem_move hempty).mp hin'' with ⟨heq | hold, -⟩
      · obtain ⟨hslot, rfl⟩ := Prod.mk.inj heq
        omega
      · exact hold
    have hother : e''.1 ≠ e.1 := ((mem_move hempty).mp hin'').2
    rcases (mem_move hempty).mp hin' with ⟨heq | hold, -⟩
    · obtain ⟨rfl, rfl⟩ := Prod.mk.inj heq
      have hle' := hmin _ hold'' hgroup''
      dsimp only at hle'
      omega
    · exact h.ordered hold hgroup' hne hold'' hgroup''

/-- With a turn for each event that has still to move, the loop comes to its end. -/
theorem exists_delayLoop (htimer : timer < 2 ^ 32) {fuel : Nat}
    (hfuel : (m.entries.countP fun e => decide (e.1 < nextTime) && group e.2.2) < fuel) :
    ∃ moved,
      delayLoop (fun e : Nat × V => group e.2) timer delay nextTime fuel m = some moved ∧
        Underway group delay nextTime events moved := by
  induction fuel generalizing m with
  | zero => exact absurd hfuel (Nat.not_lt_zero _)
  | succ fuel ih =>
    rw [delayLoop]
    cases hfirst : firstOf (fun e : Nat × V => group e.2) nextTime m with
    | none => exact ⟨m, rfl, h⟩
    | some e =>
      obtain ⟨target, hsearch, htarget, hle, hstart, hfree, hturn⟩ :=
        Underway.turn hroom hpos hnext h hfirst
      obtain ⟨hin, hlt, hgroup, -⟩ := of_firstOf_eq_some hfirst
      have hcount := (perm_cons_move (v := e.2) hin hfree).countP_eq
        fun e => decide (e.1 < nextTime) && group e.2.2
      rw [List.countP_cons_of_pos (by simp [hlt, hgroup]),
        List.countP_cons_of_neg (by simp [Nat.not_lt_of_le hle])] at hcount
      obtain ⟨moved, hrun, hmoved⟩ := ih hturn (by omega)
      refine ⟨moved, ?_, hmoved⟩
      obtain ⟨slot, v⟩ := e
      dsimp only at hsearch hstart ⊢
      have hagain : scheduleAgain m timer v ((slot + 2 ^ 32 - timer + delay) % 2 ^ 32) =
          some (m.insert target v) := by
        have hslot : slot < 2 ^ 32 := by omega
        rw [scheduleAgain, mod_timer hslot htimer, Nat.mod_eq_of_lt hstart, hsearch]
        rfl
      rw [hagain, Option.bind_some]
      exact hrun

end Turn

/-- Where the loop ends, the events are delayed as they are meant to be. -/
theorem Underway.delayed (hroom : Delayable group delay nextTime events) (hpos : 0 < delay)
    (h : Underway group delay nextTime events m)
    (hdone : firstOf (fun e : Nat × V => group e.2) nextTime m = none) :
    Delayed group delay events m := by
  refine ⟨h.perm, h.others, fun e hin hgroup => ?_⟩
  obtain ⟨⟨slot, e'⟩, hmem, heq⟩ := List.mem_map.mp (h.perm.mem_iff.mpr hin)
  obtain rfl : e' = e := heq
  have hlt := lt_nextTime hroom hpos hin hgroup
  have hnext : nextTime ≤ slot := of_firstOf_eq_none hdone hmem hgroup
  rcases h.placed hmem hgroup with heq' | ⟨hle, htaken⟩
  · omega
  · rw [earliest_of_group hgroup] at hle htaken
    refine ⟨slot, hmem, by omega, fun z hz hlt' => ?_⟩
    rcases Nat.lt_or_ge z nextTime with hearly | hlate
    · exact Or.inl ⟨by omega, contains_of_between hroom hpos hin hgroup hz hearly⟩
    · exact Or.inr (htaken z (by omega) hlt')

/-- With room, the loop ends and delays the events as they are meant to be delayed. -/
theorem exists_delayed (hroom : Delayable group delay nextTime events) (htimer : timer < 2 ^ 32)
    (hnext : nextTime < 2 ^ 32) :
    ∃ fuel moved,
      delayLoop (fun e : Nat × V => group e.2) timer delay nextTime fuel (labelled events) =
          some moved ∧ Delayed group delay events moved := by
  rcases Nat.eq_zero_or_pos delay with rfl | hpos
  · have hlate : ∀ e ∈ events.entries, group e.2 = true → nextTime ≤ e.1 := by
      intro e hin hgroup
      rcases hroom.due e hin hgroup with ⟨-, hle⟩ | ⟨hpos, -⟩
      · exact hle
      · exact absurd hpos (Nat.lt_irrefl 0)
    have hfirst : firstOf (fun e : Nat × V => group e.2) nextTime (labelled events) = none := by
      refine Option.eq_none_iff_forall_ne_some.mpr fun e hsome => ?_
      obtain ⟨hin, hlt, hgroup, -⟩ := of_firstOf_eq_some hsome
      obtain ⟨heq, hmem⟩ := mem_labelled.mp hin
      have hle := hlate e.2 hmem hgroup
      omega
    refine ⟨1, labelled events, by rw [delayLoop, hfirst], ?_⟩
    refine ⟨List.Perm.of_eq labels_labelled, fun e hin _ => mem_labelled.mpr ⟨rfl, hin⟩, ?_⟩
    intro e hin _
    exact ⟨e.1, mem_labelled.mpr ⟨rfl, hin⟩, Nat.le_refl _, fun z hz hlt => by omega⟩
  · obtain ⟨moved, hrun, hmoved⟩ :=
      exists_delayLoop hroom hpos hnext underway_labelled htimer (Nat.lt_succ_self _)
    have hdone := (delayLoop_induct (I := fun _ => True) (fun _ _ _ _ _ _ => trivial) trivial hrun).2
    exact ⟨_, moved, hrun, hmoved.delayed hroom hpos hdone⟩

end Sufficiency

/-! ### The two forms -/

namespace EventMap

variable {m : EventMap} {delay groupId : Nat}

/-- The loop on the events of the map is the loop on the events with their slots. -/
theorem delayGroup_eq {fuel : Nat} {moved : OrderedMap Nat (Nat × BitVec 32)}
    (hrun : delayLoop (fun e => inGroup groupId e.2) m.time delay (m.nextTime delay) fuel
      (labelled m.events) = some moved) :
    m.delayGroup fuel delay groupId = some { m with events := moved.map Prod.snd } := by
  by_cases hgroup : groupId = 0 ∨ 8 < groupId
  · have hnone : (fun e : Nat × BitVec 32 => inGroup groupId e.2) = fun _ => false := by
      funext e
      rw [inGroup, decide_eq_true hgroup]
      rfl
    have hfirst : firstOf (fun _ : Nat × BitVec 32 => false) (m.nextTime delay)
        (labelled m.events) = none := by
      rw [firstOf_eq, List.find?_eq_none]
      intro e _
      rw [Bool.and_false]
      exact Bool.false_ne_true
    rw [hnone] at hrun
    cases fuel with
    | zero => cases hrun
    | succ fuel =>
      rw [delayLoop, hfirst] at hrun
      cases hrun
      rw [delayGroup, if_pos hgroup, map_labelled]
  · have hsame : (fun word => inGroup groupId word) =
        fun word => word &&& bit (groupId + 15) != 0#32 := by
      funext word
      rw [inGroup, decide_eq_false hgroup]
      rfl
    have hmap := @delayLoop_map _ _ (inGroup groupId) m.time delay (m.nextTime delay) fuel Prod.snd
      (labelled m.events)
    rw [map_labelled, hrun] at hmap
    rw [delayGroup, if_neg hgroup, ← hsame, hmap]
    rfl

theorem delaysGroup_iff (htimer : m.time < 2 ^ 32)
    (hslots : ∀ e ∈ m.events.entries, e.1 < 2 ^ 32) :
    DelaysGroup m delay groupId ↔
      Delayable (inGroup groupId) delay (m.nextTime delay) m.events := by
  have hnext : m.nextTime delay < 2 ^ 32 := Nat.mod_lt _ (by decide)
  constructor
  · rintro ⟨fuel, moved, hrun, -, hdelayed⟩
    exact delayable_of_delayed hrun hslots hdelayed
  · intro hroom
    obtain ⟨fuel, moved, hrun, hdelayed⟩ := exists_delayed hroom htimer hnext
    exact ⟨fuel, moved, hrun, delayGroup_eq hrun, hdelayed⟩

theorem delaysAll_iff : DelaysAll m delay ↔ m.events.entries = [] ∨ delay ≤ m.time := by
  have hevents : (m.delayEvents delay).events = m.events := by
    rw [delayEvents]
    split_ifs
    · rfl
    · rfl
  have htime : (m.delayEvents delay).time = m.time - delay := by
    rw [delayEvents]
    split_ifs
    · rfl
    · dsimp only
      omega
  rw [DelaysAll, htime, and_iff_right hevents]
  constructor
  · intro h
    cases hentries : m.events.entries with
    | nil => exact Or.inl rfl
    | cons e rest =>
      have he := h e (hentries ▸ List.mem_cons_self)
      exact Or.inr (by omega)
  · rintro (hnil | hle) e hin
    · rw [hnil] at hin
      cases hin
    · omega

/-- The timer delays the events exactly if it has run as long as the delay, or there are none. The
events of a group are delayed exactly if none of them is overdue or behind the time up to which
events are delayed, and there is room for them. -/
theorem delayEvents_iff (m : EventMap) (delay groupId : Nat) (htimer : m.time < 2 ^ 32)
    (hslots : ∀ e ∈ m.events.entries, e.1 < 2 ^ 32) :
    (DelaysAll m delay ↔ m.events.entries = [] ∨ delay ≤ m.time) ∧
      (DelaysGroup m delay groupId ↔
        Delayable (inGroup groupId) delay (m.nextTime delay) m.events) :=
  ⟨delaysAll_iff, delaysGroup_iff htimer hslots⟩

/-- Two events of group 1 and between them one of group 2, none of them overdue. -/
def twoGroups : EventMap :=
  (((EventMap.start.update 10).scheduleEvent 7 2 1 0).scheduleEvent 8 3 2 0).scheduleEvent 9 4 1 0

/-- The events of group 1 are delayed by 8, and so are all by the timer. -/
theorem delayEvents_twoGroups : DelaysAll twoGroups 8 ∧ DelaysGroup twoGroups 8 1 := by
  obtain ⟨hall, hgroup⟩ := delayEvents_iff twoGroups 8 1 (by decide) (by decide)
  refine ⟨hall.mpr (Or.inr (by decide)), hgroup.mpr ⟨?_, ?_⟩⟩
  · have hdue : ∀ e ∈ twoGroups.events.entries,
        e.1 < twoGroups.nextTime 8 ∧ twoGroups.nextTime 8 ≤ e.1 + 8 := by decide
    intro e hin _
    refine Or.inr ⟨by decide, (hdue e hin).1, fun z hfrom hto => ?_⟩
    exact absurd (hfrom.trans_lt hto) (Nat.not_lt.mpr (hdue e hin).2)
  · have hearliest : ∀ e ∈ twoGroups.events.entries,
        earliest (inGroup 1) 8 (twoGroups.nextTime 8) e ≤ 22 := by decide
    intro t _ _
    by_cases hlate : t ≤ 22
    · have hlength : twoGroups.events.entries.length = 3 := by decide
      have hcount := List.countP_le_length (l := twoGroups.events.entries)
        (p := fun e => decide (t ≤ earliest (inGroup 1) 8 (twoGroups.nextTime 8) e))
      omega
    · rw [List.countP_eq_zero.mpr]
      · exact Nat.zero_le _
      · intro e hin
        have hle := hearliest e hin
        simp only [decide_eq_true_eq]
        omega

/-- An overdue event is delayed again and again. -/
theorem overdue_not_delayed :
    ¬ (DelaysAll ((EventMap.start.scheduleEvent 7 1 1 0).update 10) 5 ∧
        DelaysGroup ((EventMap.start.scheduleEvent 7 1 1 0).update 10) 5 1) := by
  rintro ⟨-, hdelays⟩
  have hroom := (delaysGroup_iff (by decide) (by decide)).mp hdelays
  have hin : (1, pack 7 1 0) ∈
      ((EventMap.start.scheduleEvent 7 1 1 0).update 10).events.entries := by decide
  rcases hroom.due (1, pack 7 1 0) hin (by decide) with ⟨hzero, -⟩ | ⟨-, -, htaken⟩
  · exact absurd hzero (by decide)
  · exact absurd (htaken 6 (by decide) (by decide)) (by decide)

end EventMap

end Cataclysm.AI
