import Cataclysm.Lib.Multimap

/-!
# The event processor

Events wait in a queue that is ordered by their times. An update handles the first event as long as
it is due: it is executed or, when it was marked, aborted. Either callback may add events and mark
others. Killing all events walks over the queue with an iterator and aborts each; an event that is
not deletable stays queued.

## Implementation notes

A pointer to an event is a number that is not used again for another one. What a callback does is
the answer of a stream, by the number of callbacks before it; it may depend on anything. The times
that the processor writes to the fields of an event are left out. Whether an event is erased before
or after its `Abort` makes no difference to where others are inserted. What was added and handled is
recorded.
-/

namespace Cataclysm.Events

/-- What a callback does, and what it answers: `Execute` whether the event is to be deleted, `Abort`
whether it is deletable. -/
structure Callback where
  added : List (Nat × Nat)
  marked : List Nat
  answer : Bool
  deriving DecidableEq

/-- An event with its time, at the time at which it was executed or aborted. -/
structure Handled where
  entry : Nat × Nat
  executed : Bool
  deleted : Bool
  now : Nat
  callback : Callback
  deriving DecidableEq

/-- The clock, the events by time, and whether they are being killed. -/
structure EventProcessor where
  time : Nat
  events : Multimap Nat Nat
  aborting : Bool

/-- The processor, the events that are marked, and what happened. -/
structure World where
  processor : EventProcessor
  toAbort : Finset Nat
  added : List (Nat × Nat)
  handled : List Handled

namespace World

def new : World := ⟨⟨0, Multimap.empty, false⟩, ∅, [], []⟩

def queue (w : World) : List (Nat × Nat) := w.processor.events.entries

def addEvent (w : World) (event time : Nat) : World :=
  { w with
    processor := { w.processor with events := w.processor.events.insert (time, event) }
    added := w.added ++ [(time, event)] }

/-- An external sets `to_Abort`. -/
def mark (w : World) (event : Nat) : World := { w with toAbort := insert event w.toAbort }

/-- The record of a callback, and its marks. -/
def record (w : World) (h : Handled) : World :=
  { w with
    toAbort := w.toAbort ∪ h.callback.marked.toFinset
    added := w.added ++ h.callback.added
    handled := w.handled ++ [h] }

def setEvents (w : World) (events : Multimap Nat Nat) : World :=
  { w with processor := { w.processor with events := events } }

variable (callbacks : Nat → Callback)

/-- An event that is marked is aborted and deleted. -/
def handle (w : World) (entry : Nat × Nat) : Handled where
  entry := entry
  executed := decide (entry.2 ∉ w.toAbort)
  deleted := decide (entry.2 ∈ w.toAbort) || (callbacks w.handled.length).answer
  now := w.processor.time
  callback := callbacks w.handled.length

/-- One round of the loop of `Update`. -/
def handleFirst (w : World) : Option World :=
  match w.queue with
  | [] => none
  | entry :: _ =>
    if entry.1 ≤ w.processor.time then
      some ((w.record (w.handle callbacks entry)).setEvents
        (w.processor.events.tail.insertAll (w.handle callbacks entry).callback.added))
    else none

def updateLoop : Nat → World → Option World
  | 0, _ => none
  | fuel + 1, w =>
    match w.handleFirst callbacks with
    | none => some w
    | some w => updateLoop fuel w

def advance (w : World) (pTime : Nat) : World :=
  { w with processor := { w.processor with time := (w.processor.time + pTime) % 2 ^ 64 } }

def update (fuel pTime : Nat) (w : World) : Option World :=
  updateLoop callbacks fuel (w.advance pTime)

end World

/-- The calls from outside of the callbacks. -/
inductive Call
  | addEvent (event time : Nat)
  | mark (event : Nat)
  | update (pTime : Nat)
  deriving DecidableEq

namespace World

variable (callbacks : Nat → Callback)

def step (fuel : Nat) (w : World) : Call → Option World
  | .addEvent event time => some (w.addEvent event time)
  | .mark event => some (w.mark event)
  | .update pTime => w.update callbacks fuel pTime

/-! ### Updates -/

/-- What was added is queued or was handled, once. -/
def Accounted (w : World) : Prop :=
  w.added.Perm (w.queue ++ w.handled.map Handled.entry)

/-- Nothing was handled before its time. -/
def Timely (w : World) : Prop := ∀ h ∈ w.handled, h.entry.1 ≤ h.now

variable {callbacks} {w w' : World}

/-- The first event is due; it leaves the queue and what its callback adds is queued. -/
structure Handles (w : World) (h : Handled) (w' : World) : Prop where
  due : h.entry.1 ≤ w.processor.time
  now : h.now = w.processor.time
  executed : h.executed = decide (h.entry.2 ∉ w.toAbort)
  queued : h.entry ∈ w.queue
  first : ∀ e ∈ w.queue, h.entry.1 ≤ e.1
  queue : (h.entry :: w'.queue).Perm (w.queue ++ h.callback.added)
  added : w'.added = w.added ++ h.callback.added
  handled : w'.handled = w.handled ++ [h]
  time : w'.processor.time = w.processor.time

theorem handleFirst_eq_some (h : w.handleFirst callbacks = some w') :
    ∃ entry, Handles w (w.handle callbacks entry) w' := by
  rw [handleFirst] at h
  split at h
  · cases h
  · next entry rest hqueue =>
      split at h
      · next hdue =>
          cases h
          refine ⟨entry, ?_⟩
          have hsorted := w.processor.events.sorted
          have htail : w.processor.events.tail.entries = rest := congrArg List.tail hqueue
          constructor
          · exact hdue
          · rfl
          · rfl
          · rw [hqueue]
            exact List.mem_cons_self
          · intro e he
            rw [queue] at hqueue he
            rw [hqueue] at hsorted he
            obtain rfl | he := List.mem_cons.mp he
            · exact le_rfl
            · exact (List.pairwise_cons.mp hsorted).1 e he
          · rw [hqueue]
            refine ((w.processor.events.tail.perm_insertAll _).cons entry).trans ?_
            rw [htail]
            exact List.Perm.refl _
          · rfl
          · rfl
          · rfl
      · cases h

theorem handleFirst_eq_none (h : w.handleFirst callbacks = none) :
    ∀ e ∈ w.queue, w.processor.time < e.1 := by
  rw [handleFirst] at h
  split at h
  · next hqueue =>
      intro e he
      rw [hqueue] at he
      cases he
  · next entry rest hqueue =>
      split at h
      · cases h
      · next hearly =>
          have hsorted := w.processor.events.sorted
          intro e he
          rw [queue] at hqueue he
          rw [hqueue] at hsorted he
          have hlt : w.processor.time < entry.1 := Nat.lt_of_not_le hearly
          obtain rfl | he := List.mem_cons.mp he
          · exact hlt
          · exact hlt.trans_le ((List.pairwise_cons.mp hsorted).1 e he)

/-- Events are handled until none is due. -/
inductive Drains : World → List Handled → World → Prop
  | done {w : World} (hdone : ∀ e ∈ w.queue, w.processor.time < e.1) : Drains w [] w
  | next {w v w' : World} {h : Handled} {news : List Handled} (hhandles : Handles w h v)
      (hrest : Drains v news w') : Drains w (h :: news) w'

theorem drains_of_updateLoop {fuel : Nat} (h : updateLoop callbacks fuel w = some w') :
    ∃ news, Drains w news w' := by
  induction fuel generalizing w with
  | zero => cases h
  | succ fuel ih =>
    rw [updateLoop] at h
    cases hfirst : w.handleFirst callbacks with
    | none =>
      rw [hfirst] at h
      cases h
      exact ⟨[], .done (handleFirst_eq_none hfirst)⟩
    | some v =>
      rw [hfirst] at h
      obtain ⟨entry, hhandles⟩ := handleFirst_eq_some hfirst
      obtain ⟨news, hrest⟩ := ih h
      exact ⟨_, .next hhandles hrest⟩

variable {news : List Handled}

theorem Drains.handled (h : Drains w news w') : w'.handled = w.handled ++ news := by
  induction h with
  | done _ => exact (List.append_nil _).symm
  | next hhandles _ ih => rw [ih, hhandles.handled, List.append_assoc, List.singleton_append]

theorem Drains.time (h : Drains w news w') : w'.processor.time = w.processor.time := by
  induction h with
  | done _ => rfl
  | next hhandles _ ih => exact ih.trans hhandles.time

theorem Drains.finished (h : Drains w news w') : ∀ e ∈ w'.queue, w'.processor.time < e.1 := by
  induction h with
  | done hdone => exact hdone
  | next _ _ ih => exact ih

theorem Drains.timely (h : Drains w news w') : ∀ e ∈ news, e.entry.1 ≤ e.now := by
  induction h with
  | done _ => exact fun e he => absurd he List.not_mem_nil
  | next hhandles _ ih =>
    intro e he
    obtain rfl | he := List.mem_cons.mp he
    · rw [hhandles.now]
      exact hhandles.due
    · exact ih e he

theorem Drains.accounted (h : Drains w news w') (hw : w.Accounted) : w'.Accounted := by
  induction h with
  | done _ => exact hw
  | next hhandles _ ih =>
    refine ih ?_
    rw [Accounted, hhandles.added, hhandles.handled, List.perm_iff_count]
    intro e
    have hbefore := hw.count_eq e
    have hqueue := hhandles.queue.count_eq e
    simp only [List.count_append, List.map_append, List.map_singleton, List.count_cons,
      List.count_nil] at hbefore hqueue ⊢
    omega

/-- What is handled was queued, or a callback before it added it. -/
theorem Drains.source (h : Drains w news w') {before : List Handled} {b : Handled}
    {after : List Handled} (hnews : news = before ++ b :: after) :
    b.entry ∈ w.queue ∨ ∃ h ∈ before, b.entry ∈ h.callback.added := by
  induction h generalizing before with
  | done _ => exact absurd hnews.symm (List.append_ne_nil_of_right_ne_nil _ (List.cons_ne_nil _ _))
  | next hhandles _ ih =>
    cases before with
    | nil =>
      obtain ⟨rfl, -⟩ := List.cons.inj hnews
      exact Or.inl hhandles.queued
    | cons a before =>
      obtain ⟨rfl, hrest⟩ := List.cons.inj hnews
      obtain hqueued | ⟨g, hg, hadded⟩ := ih hrest
      · obtain hold | hadded := List.mem_append.mp
          (hhandles.queue.subset (List.mem_cons_of_mem _ hqueued))
        · exact Or.inl hold
        · exact Or.inr ⟨_, List.mem_cons_self, hadded⟩
      · exact Or.inr ⟨g, List.mem_cons_of_mem _ hg, hadded⟩

/-- No callback added an event with a time before that of its own event. -/
def AddsLater (news : List Handled) : Prop :=
  ∀ h ∈ news, ∀ e ∈ h.callback.added, h.entry.1 ≤ e.1

theorem Handles.le_of_mem_queue {h : Handled} (hhandles : Handles w h w')
    (hlater : ∀ e ∈ h.callback.added, h.entry.1 ≤ e.1) : ∀ e ∈ w'.queue, h.entry.1 ≤ e.1 := by
  intro e he
  obtain hold | hadded := List.mem_append.mp (hhandles.queue.subset (List.mem_cons_of_mem _ he))
  · exact hhandles.first e hold
  · exact hlater e hadded

theorem Drains.bounded (h : Drains w news w') (hlater : AddsLater news) {bound : Nat}
    (hbound : ∀ e ∈ w.queue, bound ≤ e.1) : ∀ h ∈ news, bound ≤ h.entry.1 := by
  induction h with
  | done _ => exact fun h hh => absurd hh List.not_mem_nil
  | next hhandles _ ih =>
    obtain ⟨hfirst, hrest⟩ := List.forall_mem_cons.mp hlater
    have hle := hbound _ hhandles.queued
    refine List.forall_mem_cons.mpr ⟨hle, ih hrest fun e he => ?_⟩
    exact hle.trans (hhandles.le_of_mem_queue hfirst e he)

theorem Drains.sorted (h : Drains w news w') (hlater : AddsLater news) :
    news.Pairwise fun a b => a.entry.1 ≤ b.entry.1 := by
  induction h with
  | done _ => exact List.Pairwise.nil
  | next hhandles hrest ih =>
    obtain ⟨hfirst, hlast⟩ := List.forall_mem_cons.mp hlater
    refine List.pairwise_cons.mpr ⟨?_, ih hlast⟩
    exact hrest.bounded hlast (hhandles.le_of_mem_queue hfirst)

variable (callbacks) in
def run (fuel : Nat) (w : World) (calls : List Call) : Option World :=
  calls.foldlM (step callbacks fuel) w

theorem accounted_step {fuel : Nat} {call : Call} (h : step callbacks fuel w call = some w')
    (hw : w.Accounted) : w'.Accounted := by
  cases call with
  | addEvent event time =>
    cases h
    have hinsert := Multimap.perm_insertEntry (time, event) w.queue
    rw [Accounted, List.perm_iff_count]
    intro e
    have hbefore := hw.count_eq e
    have hqueue := hinsert.count_eq e
    change (w.added ++ [(time, event)]).count e =
      (Multimap.insertEntry (time, event) w.queue ++ w.handled.map Handled.entry).count e
    simp only [List.count_append, List.count_cons, List.count_nil] at hbefore hqueue ⊢
    omega
  | mark event =>
    cases h
    exact hw
  | update pTime =>
    obtain ⟨news, hdrains⟩ := drains_of_updateLoop h
    exact hdrains.accounted hw

theorem timely_step {fuel : Nat} {call : Call} (h : step callbacks fuel w call = some w')
    (hw : w.Timely) : w'.Timely := by
  cases call with
  | addEvent event time =>
    cases h
    exact hw
  | mark event =>
    cases h
    exact hw
  | update pTime =>
    obtain ⟨news, hdrains⟩ := drains_of_updateLoop h
    intro handled hmem
    rw [hdrains.handled] at hmem
    obtain hold | hnew := List.mem_append.mp hmem
    · exact hw handled hold
    · exact hdrains.timely handled hnew

theorem sound_run {fuel : Nat} {calls : List Call} (h : run callbacks fuel w calls = some w')
    (hw : w.Accounted ∧ w.Timely) : w'.Accounted ∧ w'.Timely := by
  induction calls generalizing w with
  | nil =>
    cases h
    exact hw
  | cons call rest ih =>
    rw [run, List.foldlM_cons, Option.bind_eq_bind, Option.bind_eq_some_iff] at h
    obtain ⟨v, hstep, hrest⟩ := h
    exact ih hrest ⟨accounted_step hstep hw.1, timely_step hstep hw.2⟩

end World
end Cataclysm.Events
