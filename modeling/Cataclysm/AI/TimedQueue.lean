import Cataclysm.Lib.OrderedMap
import Cataclysm.Lib.Runs

/-!
# A timed queue with phases

The queue holds events with a number, an id, a group, a phase and a requested time, each in a slot
of its own, which is the first free one from the requested time on. What leaves the queue is
recorded with its fate. Every event that was ever scheduled is in the queue or in the records,
once; it is executed no earlier than requested and no earlier than the events executed before it,
and only in its phase.

## Implementation notes

The queue has no words and no bounds. An event that is repeated keeps its number and gets a new
requested time.
-/

namespace Cataclysm.AI

/-- An event that waits. -/
structure Event where
  number : Nat
  id : Nat
  group : Nat
  phase : Nat
  requested : Nat
  deriving DecidableEq

/-- How an event left the queue. -/
inductive Fate
  | executed (time : Nat) (phases : Finset Nat)
  | dropped (time : Nat) (phases : Finset Nat)
  | cancelled (id : Nat)
  | groupCancelled (group : Nat)
  | popped
  deriving DecidableEq

def Fate.isExecuted : Fate → Bool
  | .executed _ _ => true
  | _ => false

/-- What became of an event. -/
structure Record where
  slot : Nat
  event : Event
  fate : Fate
  deriving DecidableEq

/-- The queue that the event map stands for. -/
structure TimedQueue where
  time : Nat
  phases : Finset Nat
  events : OrderedMap Nat Event
  scheduled : Nat
  records : List Record
  answers : List (Option Event)

/-- No phase is set, or the event runs in all phases or in one that is set. -/
def InPhase (phases : Finset Nat) (e : Event) : Prop :=
  phases = ∅ ∨ e.phase = 0 ∨ e.phase ∈ phases

instance (phases : Finset Nat) (e : Event) : Decidable (InPhase phases e) :=
  inferInstanceAs (Decidable (_ ∨ _ ∨ _))

/-- The first free slot from a time on. -/
def firstFree {V : Type*} (events : OrderedMap Nat V) : Nat → Nat → Nat
  | 0, time => time
  | fuel + 1, time => if events.contains time then firstFree events fuel (time + 1) else time

namespace TimedQueue

def start : TimedQueue := ⟨0, ∅, OrderedMap.empty, 0, [], []⟩

/-- An event goes to the next free time. -/
def place (q : TimedQueue) (e : Event) : TimedQueue :=
  let slot := firstFree q.events q.events.entries.length e.requested
  { q with events := q.events.insert slot e }

/-- A new event. -/
def schedule (q : TimedQueue) (id time group phase : Nat) : TimedQueue :=
  { q with scheduled := q.scheduled + 1 }.place ⟨q.scheduled, id, group, phase, q.time + time⟩

/-- The events with a property leave the queue. -/
def discard (q : TimedQueue) (p : Event → Bool) (fate : Fate) : TimedQueue :=
  { q with
    events := q.events.filter fun _ e => !p e
    records := q.records ++
      (q.events.entries.filter fun f => p f.2).map fun f => ⟨f.1, f.2, fate⟩ }

/-- The events with the id are cancelled. -/
def cancel (q : TimedQueue) (id : Nat) : TimedQueue :=
  q.discard (fun e => id == e.id) (.cancelled id)

/-- The events of the group are cancelled. -/
def cancelGroup (q : TimedQueue) (group : Nat) : TimedQueue :=
  if group = 0 ∨ 8 < group then q
  else q.discard (fun e => group == e.group) (.groupCancelled group)

/-- The first event leaves the queue. -/
def pop (q : TimedQueue) (fate : Fate) : TimedQueue :=
  match q.events.entries with
  | [] => q
  | first :: _ =>
    { q with
      events := q.events.erase first.1
      records := q.records ++ [⟨first.1, first.2, fate⟩] }

/-- The first event gets a new requested time. -/
def again (q : TimedQueue) (time : Nat) : TimedQueue :=
  match q.events.entries with
  | [] => q
  | first :: _ =>
    { q with events := q.events.erase first.1 }.place
      { first.2 with requested := q.time + time }

/-- The event in a slot is due, and its phase is not active. -/
def late (q : TimedQueue) (slot : Nat) (e : Event) : Bool :=
  decide (slot ≤ q.time) && !decide (InPhase q.phases e)

/-- The first events leave the queue as long as they are due and out of phase. -/
def dropLate (q : TimedQueue) : TimedQueue :=
  { q with
    events := q.events.dropWhile q.late
    records := q.records ++ (q.events.entries.takeWhile fun f => q.late f.1 f.2).map fun f =>
      ⟨f.1, f.2, .dropped q.time q.phases⟩ }

/-- The first event, if it is due. -/
def due (q : TimedQueue) : Option (Nat × Event) :=
  q.events.entries.head?.filter fun f => decide (f.1 ≤ q.time)

/-- Events out of phase are dropped until one is due. -/
def execute (q : TimedQueue) : TimedQueue :=
  let q := q.dropLate
  match q.due with
  | none => { q with answers := q.answers ++ [none] }
  | some first =>
    { q.pop (.executed q.time q.phases) with answers := q.answers ++ [some first.2] }

def setPhase (q : TimedQueue) (phase : Nat) : TimedQueue :=
  if phase ≠ 0 ∧ phase ≤ 8 then { q with phases := {phase} }
  else if phase = 0 then { q with phases := ∅ }
  else q

def addPhase (q : TimedQueue) (phase : Nat) : TimedQueue :=
  if phase ≠ 0 ∧ phase ≤ 8 then { q with phases := insert phase q.phases } else q

def removePhase (q : TimedQueue) (phase : Nat) : TimedQueue :=
  if phase ≠ 0 ∧ phase ≤ 8 then { q with phases := q.phases.erase phase } else q

/-! ### Sound queues -/

/-- The numbers of the events in the queue and in the records. -/
def numbers (q : TimedQueue) : List Nat :=
  q.events.entries.map (fun f => f.2.number) ++ q.records.map fun r => r.event.number

/-- An executed event was due, in its phase, and not before its requested time; an event was
dropped or cancelled for its reason. -/
def Accounts (now : Nat) (r : Record) : Prop :=
  match r.fate with
  | .executed time phases =>
    r.event.requested ≤ r.slot ∧ r.slot ≤ time ∧ time ≤ now ∧ InPhase phases r.event
  | .dropped time phases => r.slot ≤ time ∧ ¬ InPhase phases r.event
  | .cancelled id => r.event.id = id
  | .groupCancelled group => r.event.group = group
  | .popped => True

/-- The records of executed events. -/
def executions (q : TimedQueue) : List Record := q.records.filter fun r => r.fate.isExecuted

/-- What holds of a timed queue. -/
structure Sound (q : TimedQueue) : Prop where
  once : q.numbers.Perm (List.range q.scheduled)
  requested : ∀ f ∈ q.events.entries, f.2.requested ≤ f.1
  records : ∀ r ∈ q.records, Accounts q.time r
  order : q.executions.Pairwise fun r r' => r.slot ≤ r'.slot
  behind : ∀ r ∈ q.executions, r.slot ≤ q.time ∧ ∀ f ∈ q.events.entries, r.slot ≤ f.1
  answers : q.answers.reduceOption = q.executions.map Record.event

/-! ### Free slots -/

/-- The search finds a free slot, or only taken ones. -/
theorem firstFree_spec {V : Type*} (events : OrderedMap Nat V) (fuel time : Nat) :
    time ≤ firstFree events fuel time ∧
      (events.contains (firstFree events fuel time) = false ∨
        (firstFree events fuel time = time + fuel ∧
          ∀ slot, time ≤ slot → slot < time + fuel → events.contains slot = true)) := by
  induction fuel generalizing time with
  | zero =>
    refine ⟨le_rfl, Or.inr ⟨rfl, ?_⟩⟩
    intro slot hle hlt
    omega
  | succ fuel ih =>
    rw [firstFree]
    cases htaken : events.contains time with
    | false =>
      rw [if_neg Bool.false_ne_true]
      exact ⟨le_rfl, Or.inl htaken⟩
    | true =>
      rw [if_pos rfl]
      obtain ⟨hle, hfree⟩ := ih (time + 1)
      refine ⟨by omega, hfree.imp_right ?_⟩
      rintro ⟨hlast, hall⟩
      refine ⟨by omega, ?_⟩
      intro slot hslot hlt
      rcases Nat.eq_or_lt_of_le hslot with rfl | hnext
      · exact htaken
      · exact hall slot hnext (by omega)

/-- There are not enough entries to take every slot. -/
theorem contains_firstFree {V : Type*} (events : OrderedMap Nat V) (time : Nat) :
    events.contains (firstFree events events.entries.length time) = false := by
  rcases (firstFree_spec events events.entries.length time).2 with hfree | ⟨hlast, hall⟩
  · exact hfree
  · refine Bool.eq_false_iff.mpr fun htaken => ?_
    have hsub : List.range' time (events.entries.length + 1) ⊆ events.keys := by
      intro slot hin
      obtain ⟨hle, hlt⟩ := List.mem_range'_1.mp hin
      rw [OrderedMap.mem_keys]
      rcases Nat.lt_or_ge slot (time + events.entries.length) with hbefore | hge
      · exact hall slot hle hbefore
      · have heq : slot = time + events.entries.length := by omega
        rw [heq, ← hlast]
        exact htaken
    have hlength := ((List.nodup_range' (n := events.entries.length + 1) (s := time)).subperm
      hsub).length_le
    rw [List.length_range', OrderedMap.keys, List.length_map] at hlength
    omega

/-- The slot of an event that is placed. -/
theorem perm_place (q : TimedQueue) (e : Event) :
    ∃ slot, e.requested ≤ slot ∧
      (q.place e).events.entries.Perm ((slot, e) :: q.events.entries) := by
  refine ⟨firstFree q.events q.events.entries.length e.requested,
    (firstFree_spec q.events _ _).1, ?_⟩
  have hfree := contains_firstFree q.events e.requested
  have hnone := Option.isSome_eq_false_iff.mp hfree
  have hperm := q.events.perm_insert
    (firstFree q.events q.events.entries.length e.requested) e
  rw [OrderedMap.erase_of_find?_eq_none (Option.isNone_iff_eq_none.mp hnone)] at hperm
  exact hperm

/-! ### Steps of a sound queue -/

variable {q : TimedQueue} {first : Nat × Event}

theorem sound_start : Sound start where
  once := List.Perm.refl _
  requested := fun _ hin => absurd hin List.not_mem_nil
  records := fun _ hin => absurd hin List.not_mem_nil
  order := List.Pairwise.nil
  behind := fun _ hin => absurd hin List.not_mem_nil
  answers := rfl

/-- What happened stays true as time goes on. -/
theorem Accounts.mono {now now' : Nat} {r : Record} (h : Accounts now r) (hle : now ≤ now') :
    Accounts now' r := by
  unfold Accounts at h ⊢
  split at h
  · obtain ⟨hrequested, hdue, htime, hphase⟩ := h
    exact ⟨hrequested, hdue, htime.trans hle, hphase⟩
  · exact h
  · exact h
  · exact h
  · exact h

/-- A step that records nothing. -/
theorem Sound.replace {q' : TimedQueue} (h : Sound q) (hrecords : q'.records = q.records)
    (hanswers : q'.answers = q.answers) (htime : q.time ≤ q'.time)
    (honce : q'.numbers.Perm (List.range q'.scheduled))
    (hevents : ∀ f ∈ q'.events.entries,
      f ∈ q.events.entries ∨ (q.time ≤ f.1 ∧ f.2.requested ≤ f.1)) : Sound q' where
  once := honce
  requested := fun f hin => (hevents f hin).elim (h.requested f) And.right
  records := by
    intro r hin
    rw [hrecords] at hin
    exact (h.records r hin).mono htime
  order := by
    rw [executions, hrecords]
    exact h.order
  behind := by
    intro r hin
    rw [executions, hrecords] at hin
    obtain ⟨hnow, hall⟩ := h.behind r hin
    refine ⟨hnow.trans htime, fun f hf => ?_⟩
    rcases hevents f hf with hold | ⟨hnew, -⟩
    · exact hall f hold
    · exact hnow.trans hnew
  answers := by
    rw [hanswers, executions, hrecords]
    exact h.answers

/-- A step in which events leave without being executed. -/
theorem Sound.discharge {q' : TimedQueue} (h : Sound q) {new : List Record}
    (hrecords : q'.records = q.records ++ new) (hanswers : q'.answers = q.answers)
    (htime : q'.time = q.time) (hscheduled : q'.scheduled = q.scheduled)
    (hnew : ∀ r ∈ new, r.fate.isExecuted = false ∧ Accounts q.time r)
    (hperm : (q'.events.entries.map (fun f => f.2.number) ++
      new.map fun r => r.event.number).Perm (q.events.entries.map fun f => f.2.number))
    (hsub : ∀ f ∈ q'.events.entries, f ∈ q.events.entries) : Sound q' := by
  have hexecutions : q'.executions = q.executions := by
    have hnone : new.filter (fun r => r.fate.isExecuted) = [] :=
      List.filter_eq_nil_iff.mpr fun r hin => Bool.eq_false_iff.mp (hnew r hin).1
    rw [executions, hrecords, List.filter_append, hnone, List.append_nil, executions]
  constructor
  · have honce := h.once
    rw [numbers] at honce
    have hmiddle : q'.numbers.Perm ((q'.events.entries.map (fun f => f.2.number) ++
        new.map fun r => r.event.number) ++ q.records.map fun r => r.event.number) := by
      rw [numbers, hrecords, List.map_append, List.append_assoc]
      exact List.perm_append_comm.append_left _
    rw [hscheduled]
    exact (hmiddle.trans (hperm.append_right _)).trans honce
  · exact fun f hin => h.requested f (hsub f hin)
  · intro r hin
    rw [htime]
    rw [hrecords, List.mem_append] at hin
    exact hin.elim (h.records r) fun hin => (hnew r hin).2
  · rw [hexecutions]
    exact h.order
  · intro r hin
    rw [hexecutions] at hin
    obtain ⟨hnow, hall⟩ := h.behind r hin
    exact ⟨htime ▸ hnow, fun f hf => hall f (hsub f hf)⟩
  · rw [hanswers, hexecutions]
    exact h.answers

theorem numbers_place (q : TimedQueue) (e : Event) :
    (q.place e).numbers.Perm (e.number :: q.numbers) := by
  obtain ⟨slot, -, hperm⟩ := perm_place q e
  exact (hperm.map fun f => f.2.number).append_right _

theorem mem_place {e : Event} (hrequested : q.time ≤ e.requested) {f : Nat × Event}
    (hin : f ∈ (q.place e).events.entries) :
    f ∈ q.events.entries ∨ (q.time ≤ f.1 ∧ f.2.requested ≤ f.1) := by
  obtain ⟨slot, hslot, hperm⟩ := perm_place q e
  rcases List.mem_cons.mp (hperm.mem_iff.mp hin) with rfl | hold
  · exact Or.inr ⟨hrequested.trans hslot, hslot⟩
  · exact Or.inl hold

theorem Sound.schedule (h : Sound q) (id time group phase : Nat) :
    Sound (q.schedule id time group phase) := by
  refine h.replace rfl rfl le_rfl ?_ fun f hin => mem_place (Nat.le_add_right _ _) hin
  calc (q.schedule id time group phase).numbers
      |>.Perm (q.scheduled :: q.numbers) := numbers_place _ _
    _ |>.Perm (q.scheduled :: List.range q.scheduled) := h.once.cons _
    _ |>.Perm (List.range q.scheduled ++ [q.scheduled]) := (List.perm_append_singleton _ _).symm
    _ = List.range (q.scheduled + 1) := List.range_succ.symm

theorem Sound.discard (h : Sound q) (p : Event → Bool) {fate : Fate}
    (hfate : fate.isExecuted = false)
    (haccounts : ∀ f : Nat × Event, p f.2 = true → Accounts q.time ⟨f.1, f.2, fate⟩) :
    Sound (q.discard p fate) := by
  refine h.discharge rfl rfl rfl rfl ?_ ?_ fun f hin => (List.mem_filter.mp hin).1
  · intro r hin
    obtain ⟨f, hf, rfl⟩ := List.mem_map.mp hin
    exact ⟨hfate, haccounts f (List.mem_filter.mp hf).2⟩
  · rw [List.map_map, TimedQueue.discard]
    have hsplit := (List.filter_append_perm (fun f : Nat × Event => p f.2)
      q.events.entries).map fun f => f.2.number
    rw [List.map_append] at hsplit
    exact List.perm_append_comm.trans hsplit

theorem Sound.cancel (h : Sound q) (id : Nat) : Sound (q.cancel id) :=
  h.discard _ rfl fun _ heq => (beq_iff_eq.mp heq).symm

theorem Sound.cancelGroup (h : Sound q) (group : Nat) : Sound (q.cancelGroup group) := by
  rw [TimedQueue.cancelGroup]
  split
  · exact h
  · exact h.discard _ rfl fun _ heq => (beq_iff_eq.mp heq).symm

/-- The first entry stands before the map without its key. -/
theorem perm_first {rest : List (Nat × Event)} (hentries : q.events.entries = first :: rest) :
    q.events.entries.Perm (first :: (q.events.erase first.1).entries) := by
  have hin : first ∈ q.events.entries := by
    rw [hentries]
    exact List.mem_cons_self
  exact OrderedMap.perm_erase (OrderedMap.find?_eq_some_iff.mpr hin)

theorem Sound.pop (h : Sound q) : Sound (q.pop .popped) := by
  rw [TimedQueue.pop]
  split
  · exact h
  · next first rest hentries =>
      have hperm := perm_first hentries
      refine h.discharge rfl rfl rfl rfl ?_ ?_ fun f hin => (OrderedMap.mem_erase.mp hin).1
      · intro r hin
        rw [List.mem_singleton.mp hin]
        exact ⟨rfl, trivial⟩
      · have hnumbers := (hperm.map fun f => f.2.number).symm
        rw [List.map_singleton]
        exact (List.perm_append_singleton _ _).trans hnumbers

theorem Sound.again (h : Sound q) (time : Nat) : Sound (q.again time) := by
  rw [TimedQueue.again]
  split
  · exact h
  · next first rest hentries =>
      have hperm := perm_first hentries
      refine h.replace rfl rfl le_rfl ?_ ?_
      · calc (TimedQueue.place { q with events := q.events.erase first.1 }
            { first.2 with requested := q.time + time }).numbers
            |>.Perm (first.2.number ::
              numbers { q with events := q.events.erase first.1 }) := numbers_place _ _
          _ |>.Perm q.numbers := ((hperm.map fun f => f.2.number).append_right _).symm
          _ |>.Perm (List.range q.scheduled) := h.once
      · intro f hin
        exact (mem_place (q := { q with events := q.events.erase first.1 })
          (Nat.le_add_right _ _) hin).imp_left fun hold => (OrderedMap.mem_erase.mp hold).1

theorem Sound.dropLate (h : Sound q) : Sound q.dropLate := by
  have hsplit : (q.events.entries.takeWhile fun f => q.late f.1 f.2) ++
      (q.events.dropWhile q.late).entries = q.events.entries := List.takeWhile_append_dropWhile
  refine h.discharge rfl rfl rfl rfl ?_ ?_ fun f hin => (List.dropWhile_sublist _).subset hin
  · intro r hin
    obtain ⟨f, hf, rfl⟩ := List.mem_map.mp hin
    have hlate := List.mem_takeWhile_imp hf
    rw [late, Bool.and_eq_true, decide_eq_true_eq, Bool.not_eq_true', decide_eq_false_iff_not]
      at hlate
    exact ⟨rfl, hlate⟩
  · rw [List.map_map]
    have hnumbers := congrArg (List.map fun f : Nat × Event => f.2.number) hsplit
    rw [List.map_append] at hnumbers
    exact List.perm_append_comm.trans (List.Perm.of_eq hnumbers)

/-- The first event that is not dropped is in its phase when it is due. -/
theorem inPhase_of_due (hdue : q.dropLate.due = some first) :
    first.1 ≤ q.time ∧ InPhase q.phases first.2 ∧
      ∃ rest, q.dropLate.events.entries = first :: rest := by
  obtain ⟨hhead, hle⟩ := Option.filter_eq_some_iff.mp hdue
  have htime : first.1 ≤ q.time := of_decide_eq_true hle
  obtain ⟨rest, hentries⟩ := List.head?_eq_some_iff.mp hhead
  have hnot := List.head?_dropWhile_not (fun f : Nat × Event => q.late f.1 f.2) q.events.entries
  have hfirst : (q.events.entries.dropWhile fun f => q.late f.1 f.2).head? = some first := hhead
  rw [hfirst] at hnot
  have hlate : (decide (first.1 ≤ q.time) && !decide (InPhase q.phases first.2)) = false := hnot
  refine ⟨htime, ?_, rest, hentries⟩
  rw [decide_eq_true htime, Bool.true_and, Bool.not_eq_false', decide_eq_true_eq] at hlate
  exact hlate

theorem Sound.answerNone (h : Sound q) :
    Sound { q with answers := q.answers ++ [none] } where
  once := h.once
  requested := h.requested
  records := h.records
  order := h.order
  behind := h.behind
  answers := by
    rw [List.reduceOption_append, List.reduceOption_singleton, Option.toList_none, List.append_nil]
    exact h.answers

/-- An execution is no earlier than the requested time and the executions before it. -/
theorem Sound.answerSome (h : Sound q) {rest : List (Nat × Event)}
    (hentries : q.events.entries = first :: rest) (htime : first.1 ≤ q.time)
    (hphase : InPhase q.phases first.2) :
    Sound { q with
      events := q.events.erase first.1
      records := q.records ++ [⟨first.1, first.2, .executed q.time q.phases⟩]
      answers := q.answers ++ [some first.2] } := by
  have hin : first ∈ q.events.entries := by
    rw [hentries]
    exact List.mem_cons_self
  have hfirst : ∀ f ∈ q.events.entries, first.1 ≤ f.1 := by
    intro f hf
    have hsorted := q.events.sorted
    rw [hentries] at hf hsorted
    rcases List.mem_cons.mp hf with rfl | hrest
    · exact le_rfl
    · exact ((List.pairwise_cons.mp hsorted).1 f hrest).le
  have hexecutions :
      (q.records ++ [Record.mk first.1 first.2 (.executed q.time q.phases)]).filter
        (fun r => r.fate.isExecuted) =
        q.executions ++ [Record.mk first.1 first.2 (.executed q.time q.phases)] := by
    rw [List.filter_append]
    rfl
  constructor
  · have hperm := (perm_first hentries).map fun f => f.2.number
    have hnumbers : ((q.events.erase first.1).entries.map (fun f => f.2.number) ++
        (q.records ++ [Record.mk first.1 first.2 (.executed q.time q.phases)]).map
          fun r => r.event.number).Perm q.numbers := by
      rw [List.map_append, List.map_singleton, ← List.append_assoc]
      exact (List.perm_append_singleton _ _).trans (hperm.symm.append_right _)
    exact hnumbers.trans h.once
  · exact fun f hf => h.requested f (OrderedMap.mem_erase.mp hf).1
  · intro r hr
    rcases List.mem_append.mp hr with hold | hnew
    · exact h.records r hold
    · rw [List.mem_singleton.mp hnew]
      exact ⟨h.requested first hin, htime, le_rfl, hphase⟩
  · rw [executions, hexecutions]
    refine List.pairwise_append.mpr ⟨h.order, List.pairwise_singleton _ _, ?_⟩
    intro r hr r' hr'
    rw [List.mem_singleton.mp hr']
    exact (h.behind r hr).2 first hin
  · intro r hr
    rw [executions, hexecutions] at hr
    rcases List.mem_append.mp hr with hold | hnew
    · obtain ⟨hnow, hall⟩ := h.behind r hold
      exact ⟨hnow, fun f hf => hall f (OrderedMap.mem_erase.mp hf).1⟩
    · rw [List.mem_singleton.mp hnew]
      exact ⟨htime, fun f hf => hfirst f (OrderedMap.mem_erase.mp hf).1⟩
  · rw [executions, hexecutions, List.reduceOption_append, List.reduceOption_singleton,
      List.map_append, h.answers]
    rfl

theorem Sound.execute (h : Sound q) : Sound q.execute := by
  rw [TimedQueue.execute]
  cases hdue : q.dropLate.due with
  | none => exact h.dropLate.answerNone
  | some first =>
    obtain ⟨htime, hphase, rest, hentries⟩ := inPhase_of_due hdue
    have hpop : q.dropLate.pop (.executed q.dropLate.time q.dropLate.phases) =
        { q.dropLate with
          events := q.dropLate.events.erase first.1
          records := q.dropLate.records ++
            [⟨first.1, first.2, .executed q.dropLate.time q.dropLate.phases⟩] } := by
      rw [TimedQueue.pop, hentries]
    dsimp only
    rw [hpop]
    exact h.dropLate.answerSome hentries htime hphase

theorem Sound.setPhases (h : Sound q) (phases : Finset Nat) : Sound { q with phases := phases } :=
  h.replace rfl rfl le_rfl h.once fun _ hin => Or.inl hin

theorem Sound.setPhase (h : Sound q) (phase : Nat) : Sound (q.setPhase phase) := by
  rw [TimedQueue.setPhase]
  split
  · exact h.setPhases _
  · split
    · exact h.setPhases _
    · exact h

theorem Sound.addPhase (h : Sound q) (phase : Nat) : Sound (q.addPhase phase) := by
  rw [TimedQueue.addPhase]
  split
  · exact h.setPhases _
  · exact h

theorem Sound.removePhase (h : Sound q) (phase : Nat) : Sound (q.removePhase phase) := by
  rw [TimedQueue.removePhase]
  split
  · exact h.setPhases _
  · exact h

theorem Sound.update (h : Sound q) (time : Nat) : Sound { q with time := q.time + time } :=
  h.replace rfl rfl (Nat.le_add_right _ _) h.once fun _ hin => Or.inl hin

end TimedQueue

end Cataclysm.AI
