import Cataclysm.Lib.OrderedMap
import Cataclysm.Lib.Runs

/-!
# The logs of a guild

A log holder keeps the last events of a kind in memory and in rows of the database. Log guids count
up modulo the maximal number of records, so that a new row overwrites the oldest one. After a
restart the rows come back from a query that orders them by timestamp and log guid, and the counter
starts at the first row.

## Implementation notes

The event, event bank and news logs differ in what an entry holds; `E` stands for it. The rows of
one holder are a map by log guid. Numbers of records are a `uint32`.
-/

namespace Cataclysm.Guilds

def guildEventLogGuidUndefined : Nat := 0xFFFFFFFF

variable {E : Type*}

/-- An entry of a log with its number. -/
structure LogEntry (E : Type*) where
  guid : Nat
  timestamp : Nat
  event : E
  deriving DecidableEq

/-- The first entry of the list is the oldest. -/
structure LogHolder (E : Type*) where
  log : List (LogEntry E)
  maxRecords : Nat
  nextGUID : Nat
  deriving DecidableEq

namespace LogHolder

def new (maxRecords : Nat) : LogHolder E := ⟨[], maxRecords, guildEventLogGuidUndefined⟩

def canInsert (h : LogHolder E) : Bool := h.log.length < h.maxRecords

def loadEvent (h : LogHolder E) (entry : LogEntry E) : LogHolder E :=
  { h with
    nextGUID := if h.nextGUID = guildEventLogGuidUndefined then entry.guid else h.nextGUID
    log := entry :: h.log }

def addEvent (h : LogHolder E) (entry : LogEntry E) : LogHolder E :=
  { h with log := (if h.maxRecords ≤ h.log.length then h.log.tail else h.log) ++ [entry] }

def getNextGUID (h : LogHolder E) : Nat × LogHolder E :=
  let guid := if h.nextGUID = guildEventLogGuidUndefined then 0
    else (h.nextGUID + 1) % h.maxRecords
  (guid, { h with nextGUID := guid })

end LogHolder

/-- A holder and its rows. -/
structure LogState (E : Type*) where
  holder : LogHolder E
  rows : OrderedMap Nat (LogEntry E)

/-- What happens to a log: an event at a time, or a restart of the server. -/
inductive LogAction (E : Type*)
  | log (timestamp : Nat) (event : E)
  | restart

/-- `ORDER BY TimeStamp DESC, LogGuid DESC`. -/
def LogEntry.Before (a b : LogEntry E) : Prop :=
  b.timestamp < a.timestamp ∨ a.timestamp = b.timestamp ∧ b.guid ≤ a.guid

instance : DecidableRel (LogEntry.Before (E := E)) := fun a b =>
  inferInstanceAs (Decidable (b.timestamp < a.timestamp ∨
    a.timestamp = b.timestamp ∧ b.guid ≤ a.guid))

namespace LogState

def new (maxRecords : Nat) : LogState E := ⟨LogHolder.new maxRecords, OrderedMap.empty⟩

/-- The rows that the server loads, in the order of the query. -/
def loadedRows (s : LogState E) : List (LogEntry E) :=
  ((s.rows.filter fun guid _ => guid ≤ s.holder.maxRecords).entries.map Prod.snd).insertionSort
    LogEntry.Before

def loadRow (h : LogHolder E) (entry : LogEntry E) : LogHolder E :=
  if h.canInsert then h.loadEvent entry else h

def addEvent (s : LogState E) (timestamp : Nat) (event : E) : LogState E :=
  let (guid, holder) := s.holder.getNextGUID
  let entry : LogEntry E := ⟨guid, timestamp, event⟩
  ⟨holder.addEvent entry, s.rows.insert guid entry⟩

def restart (s : LogState E) : LogState E :=
  ⟨s.loadedRows.foldl loadRow (LogHolder.new s.holder.maxRecords),
    s.rows.filter fun guid _ => guid ≤ s.holder.maxRecords⟩

def step (s : LogState E) : LogAction E → LogState E
  | .log timestamp event => s.addEvent timestamp event
  | .restart => s.restart

end LogState

/-! ### The last events -/

variable {n : Nat}

/-- The events that a list of actions logs. -/
def logged : List (LogAction E) → List (Nat × E)
  | [] => []
  | .log timestamp event :: rest => (timestamp, event) :: logged rest
  | .restart :: rest => logged rest

theorem logged_append (actions actions' : List (LogAction E)) :
    logged (actions ++ actions') = logged actions ++ logged actions' := by
  induction actions with
  | nil => rfl
  | cons action rest ih =>
    cases action with
    | log timestamp event =>
      rw [List.cons_append, logged, logged, ih]
      rfl
    | restart => exact ih

/-- The last elements of a list. -/
def lastOf {α : Type*} (n : Nat) (l : List α) : List α := l.drop (l.length - n)

theorem length_lastOf {α : Type*} (n : Nat) (l : List α) : (lastOf n l).length = min n l.length := by
  rw [lastOf, List.length_drop]
  omega

theorem map_lastOf {α β : Type*} (f : α → β) (n : Nat) (l : List α) :
    (lastOf n l).map f = lastOf n (l.map f) := by
  rw [lastOf, lastOf, List.map_drop, List.length_map]

/-- One more element pushes the oldest out when the list is full. -/
theorem lastOf_append {α : Type*} (hpos : 0 < n) (l : List α) (a : α) :
    lastOf n (l ++ [a]) = (if n ≤ (lastOf n l).length then (lastOf n l).tail else lastOf n l) ++
      [a] := by
  rw [length_lastOf, lastOf, lastOf, List.length_append, List.length_singleton]
  by_cases hfull : n ≤ l.length
  · have hmin : n ≤ min n l.length := by omega
    have hle : l.length + 1 - n ≤ l.length := by omega
    have hsucc : l.length + 1 - n = l.length - n + 1 := by omega
    rw [if_pos hmin, List.drop_append_of_le_length hle, List.tail_drop, hsucc]
  · have hmin : ¬ n ≤ min n l.length := by omega
    have hzero : l.length + 1 - n = 0 := by omega
    have hzero' : l.length - n = 0 := by omega
    rw [if_neg hmin, hzero, hzero', List.drop_zero, List.drop_zero]

/-- The entries for all events that were logged, with the guids they got. -/
def entriesOf (n : Nat) (events : List (Nat × E)) : List (LogEntry E) :=
  events.zipIdx.map fun e => ⟨e.2 % n, e.1.1, e.1.2⟩

theorem length_entriesOf (n : Nat) (events : List (Nat × E)) :
    (entriesOf n events).length = events.length := by
  rw [entriesOf, List.length_map, List.length_zipIdx]

theorem entriesOf_append (n : Nat) (events : List (Nat × E)) (timestamp : Nat) (event : E) :
    entriesOf n (events ++ [(timestamp, event)]) =
      entriesOf n events ++ [⟨events.length % n, timestamp, event⟩] := by
  rw [entriesOf, entriesOf, List.zipIdx_append, List.map_append]
  simp

theorem map_event_entriesOf (n : Nat) (events : List (Nat × E)) :
    (entriesOf n events).map (fun entry => (entry.timestamp, entry.event)) = events := by
  rw [entriesOf, List.map_map]
  exact List.zipIdx_map_fst 0 events

theorem map_guid_entriesOf (n : Nat) (events : List (Nat × E)) :
    (entriesOf n events).map LogEntry.guid = (List.range events.length).map (· % n) := by
  rw [entriesOf, List.map_map, List.range_eq_range', ← List.zipIdx_map_snd 0 events, List.map_map]
  rfl

/-- The guids of the last events differ. -/
theorem nodup_guid_lastOf (n : Nat) (events : List (Nat × E)) :
    ((lastOf n (entriesOf n events)).map LogEntry.guid).Nodup := by
  rw [map_lastOf, map_guid_entriesOf, ← map_lastOf]
  refine List.Nodup.map_on ?_ ((List.nodup_range).sublist (List.drop_sublist _ _))
  intro i hi j hj heq
  have hbound : ∀ k ∈ lastOf n (List.range events.length),
      events.length - n ≤ k ∧ k < events.length := by
    intro k hk
    rw [lastOf, List.length_range, List.mem_drop_iff_getElem] at hk
    obtain ⟨m, hm, rfl⟩ := hk
    rw [List.length_range] at hm
    rw [List.getElem_range]
    omega
  have hfirst := hbound i hi
  have hsecond := hbound j hj
  refine Nat.mod_injOn_Ico (events.length - n) n ?_ ?_ heq
  · rw [Finset.mem_coe, Finset.mem_Ico]
    omega
  · rw [Finset.mem_coe, Finset.mem_Ico]
    omega

/-! ### Runs -/

/-- Timestamps do not decrease, and at a restart the counter has not wrapped between two stored
events of one second. -/
def LogState.Orderly (s : LogState E) : LogAction E → Prop
  | .log timestamp _ => ∀ entry ∈ s.holder.log, entry.timestamp ≤ timestamp
  | .restart => s.holder.log.Pairwise fun a b => a.timestamp = b.timestamp → a.guid < b.guid

instance (s : LogState E) : DecidablePred s.Orderly
  | .log timestamp _ =>
    inferInstanceAs (Decidable (∀ entry ∈ s.holder.log, entry.timestamp ≤ timestamp))
  | .restart => inferInstanceAs (Decidable (s.holder.log.Pairwise fun a b =>
    a.timestamp = b.timestamp → a.guid < b.guid))

/-- The holder has the last events in their order, under guids that differ, and the rows are the
same entries. -/
structure LogState.KeepsLast (n : Nat) (history : List (LogAction E)) (s : LogState E) : Prop where
  events : s.holder.log.map (fun entry => (entry.timestamp, entry.event)) =
    lastOf n (logged history)
  guids : (s.holder.log.map LogEntry.guid).Nodup
  rows : (s.rows.entries.map Prod.snd).Perm s.holder.log
  keys : ∀ row ∈ s.rows.entries, row.2.guid = row.1

/-- The guid of the last of so many events. -/
def guidAfter (n total : Nat) : Nat :=
  if total = 0 then guildEventLogGuidUndefined else (total - 1) % n

/-- What a run keeps: guids follow the number of events modulo the maximum. -/
structure LogState.Ring (n : Nat) (history : List (LogAction E)) (s : LogState E) : Prop where
  maxRecords : s.holder.maxRecords = n
  log : s.holder.log = lastOf n (entriesOf n (logged history))
  nextGUID : s.holder.nextGUID = guidAfter n (logged history).length
  rows : (s.rows.entries.map Prod.snd).Perm s.holder.log
  keys : ∀ row ∈ s.rows.entries, row.2.guid = row.1
  ordered : s.holder.log.Pairwise fun a b => a.timestamp ≤ b.timestamp

namespace LogState

variable {history : List (LogAction E)} {s : LogState E}

theorem Ring.new (n : Nat) : Ring n [] (LogState.new n : LogState E) where
  maxRecords := rfl
  log := List.drop_nil.symm
  nextGUID := rfl
  rows := List.Perm.nil
  keys := fun _ h => absurd h List.not_mem_nil
  ordered := List.Pairwise.nil

theorem Ring.keepsLast (hring : Ring n history s) : KeepsLast n history s where
  events := by rw [hring.log, map_lastOf, map_event_entriesOf]
  guids := by
    rw [hring.log]
    exact nodup_guid_lastOf n (logged history)
  rows := hring.rows
  keys := hring.keys

/-- The counter gives the number of events modulo the maximum. -/
theorem Ring.getNextGUID (hbound : n < 2 ^ 32) (hpos : 0 < n) (hring : Ring n history s) :
    s.holder.getNextGUID.1 = (logged history).length % n := by
  have hlt : ((logged history).length - 1) % n < n := Nat.mod_lt _ hpos
  rw [LogHolder.getNextGUID, hring.nextGUID, hring.maxRecords, guidAfter]
  split
  · next h => simp [h]
  · next h =>
      have hne : ((logged history).length - 1) % n ≠ guildEventLogGuidUndefined := by
        rw [guildEventLogGuidUndefined]
        omega
      have hpred : (logged history).length - 1 + 1 = (logged history).length := by omega
      rw [if_neg hne, Nat.mod_add_mod, hpred]

/-- The guids in memory are those of the last events. -/
theorem Ring.map_guid (hring : Ring n history s) :
    s.holder.log.map LogEntry.guid =
      lastOf n ((List.range (logged history).length).map (· % n)) := by
  rw [hring.log, map_lastOf, map_guid_entriesOf]

/-- A stored guid is smaller than the maximum. -/
theorem Ring.guid_lt (hpos : 0 < n) (hring : Ring n history s) :
    ∀ entry ∈ s.holder.log, entry.guid < n := by
  intro entry hentry
  have hmem := List.mem_map_of_mem (f := LogEntry.guid) hentry
  rw [hring.map_guid] at hmem
  obtain ⟨k, -, heq⟩ := List.mem_map.mp (List.mem_of_mem_drop hmem)
  rw [← heq]
  exact Nat.mod_lt k hpos

/-! ### Logging -/

/-- What stays of the log when an event comes in. -/
def kept (s : LogState E) : List (LogEntry E) :=
  if s.holder.maxRecords ≤ s.holder.log.length then s.holder.log.tail else s.holder.log

theorem Ring.log_addEvent (hbound : n < 2 ^ 32) (hpos : 0 < n) (hring : Ring n history s)
    (timestamp : Nat) (event : E) :
    (s.addEvent timestamp event).holder.log =
      s.kept ++ [⟨(logged history).length % n, timestamp, event⟩] := by
  rw [← hring.getNextGUID hbound hpos]
  rfl

theorem Ring.kept_append (hpos : 0 < n) (hring : Ring n history s) (timestamp : Nat) (event : E) :
    s.kept ++ [⟨(logged history).length % n, timestamp, event⟩] =
      lastOf n (entriesOf n (logged (history ++ [LogAction.log timestamp event]))) := by
  rw [logged_append, logged, logged, entriesOf_append, lastOf_append hpos, kept, hring.maxRecords,
    hring.log]

/-- The entry that goes has the guid that comes. -/
theorem Ring.filter_log (hpos : 0 < n) (hring : Ring n history s) (timestamp : Nat) (event : E) :
    s.holder.log.filter (fun entry => entry.guid ≠ (logged history).length % n) = s.kept := by
  have hnodup := nodup_guid_lastOf n (logged (history ++ [LogAction.log timestamp event]))
  rw [← hring.kept_append hpos, List.map_append, List.map_singleton,
    List.nodup_append] at hnodup
  have hother : ∀ entry ∈ s.kept, entry.guid ≠ (logged history).length % n := by
    intro entry hentry
    exact hnodup.2.2 _ (List.mem_map_of_mem hentry) _ (List.mem_singleton_self _)
  have hself : s.kept.filter (fun entry => entry.guid ≠ (logged history).length % n) = s.kept := by
    refine List.filter_eq_self.mpr fun entry hentry => ?_
    exact decide_eq_true (hother entry hentry)
  by_cases hfull : s.holder.maxRecords ≤ s.holder.log.length
  · have htail : s.kept = s.holder.log.tail := if_pos hfull
    have hlen : s.holder.log.length = min n (logged history).length := by
      rw [hring.log, length_lastOf, length_entriesOf]
    rw [hring.maxRecords] at hfull
    have hguid := hring.map_guid
    cases hlog : s.holder.log with
    | nil =>
      rw [hlog, List.length_nil] at hfull
      omega
    | cons a rest =>
      rw [hlog, List.tail_cons] at htail
      have hhead := congrArg List.head? hguid
      rw [hlog, List.map_cons, List.head?_cons, lastOf, List.head?_drop, List.length_map,
        List.length_range, List.getElem?_map, List.getElem?_range (by omega), Option.map_some,
        Option.some_inj] at hhead
      have hmod : ((logged history).length - n) % n = (logged history).length % n :=
        (Nat.mod_eq_sub_mod (by omega)).symm
      rw [hmod] at hhead
      rw [List.filter_cons_of_neg (by simp [hhead]), ← htail]
      exact hself
  · have hall : s.kept = s.holder.log := if_neg hfull
    rw [← hall]
    exact hself

/-- The rows without a guid are the entries without it. -/
theorem Ring.rows_erase (hring : Ring n history s) (guid : Nat) :
    ((s.rows.erase guid).entries.map Prod.snd).Perm
      (s.holder.log.filter fun entry => entry.guid ≠ guid) := by
  have hvalues : (s.rows.erase guid).entries.map Prod.snd =
      (s.rows.entries.map Prod.snd).filter fun entry => entry.guid ≠ guid := by
    rw [List.filter_map, OrderedMap.erase]
    refine congrArg (List.map Prod.snd) (List.filter_congr fun row hrow => ?_)
    rw [Function.comp_apply, hring.keys row hrow]
  rw [hvalues]
  exact hring.rows.filter _

theorem Ring.addEvent (hbound : n < 2 ^ 32) (hpos : 0 < n) (hring : Ring n history s)
    {timestamp : Nat} {event : E} (horderly : s.Orderly (LogAction.log timestamp event)) :
    Ring n (history ++ [LogAction.log timestamp event]) (s.addEvent timestamp event) := by
  have hlog := hring.log_addEvent hbound hpos timestamp event
  have hguid := hring.getNextGUID hbound hpos
  have hrows : (s.addEvent timestamp event).rows =
      s.rows.insert ((logged history).length % n)
        ⟨(logged history).length % n, timestamp, event⟩ := by
    rw [← hguid]
    rfl
  constructor
  · exact hring.maxRecords
  · rw [hlog, hring.kept_append hpos]
  · rw [logged_append, List.length_append, logged, logged, List.length_singleton, guidAfter,
      if_neg (Nat.succ_ne_zero _), Nat.add_sub_cancel, ← hguid]
    rfl
  · rw [hlog, hrows]
    refine ((s.rows.perm_insert _ _).map Prod.snd).trans ?_
    rw [List.map_cons, ← hring.filter_log hpos timestamp event]
    refine ((hring.rows_erase _).cons _).trans ?_
    exact (List.perm_append_singleton _ _).symm
  · intro row hrow
    rw [hrows, OrderedMap.mem_insert] at hrow
    rcases hrow with rfl | hrow
    · rfl
    · exact hring.keys row (OrderedMap.mem_erase.mp hrow).1
  · rw [hlog]
    have hsub : s.kept.Sublist s.holder.log := by
      rw [kept]
      split
      · exact List.tail_sublist _
      · exact List.Sublist.refl _
    refine List.pairwise_append.mpr ⟨hring.ordered.sublist hsub, List.pairwise_singleton _ _, ?_⟩
    intro a ha b hb
    rw [List.mem_singleton.mp hb]
    exact horderly a (hsub.subset ha)

/-! ### Restarts -/

instance : Std.Total (LogEntry.Before (E := E)) where
  total a b := by
    unfold LogEntry.Before
    omega

instance : IsTrans (LogEntry E) LogEntry.Before where
  trans a b c hab hbc := by
    unfold LogEntry.Before at *
    omega

/-- Ordered by timestamp and log guid, the rows come newest first. -/
theorem Ring.loadedRows (hpos : 0 < n) (hring : Ring n history s)
    (horderly : s.Orderly LogAction.restart) :
    (s.rows.filter fun guid _ => guid ≤ s.holder.maxRecords) = s.rows ∧
      s.loadedRows = s.holder.log.reverse := by
  have hmem : ∀ row ∈ s.rows.entries, row.2 ∈ s.holder.log := by
    intro row hrow
    exact hring.rows.subset (List.mem_map_of_mem hrow)
  have hfilter : (s.rows.filter fun guid _ => guid ≤ s.holder.maxRecords) = s.rows := by
    ext1
    refine List.filter_eq_self.mpr fun row hrow => ?_
    have hlt := hring.guid_lt hpos row.2 (hmem row hrow)
    rw [hring.keys row hrow] at hlt
    rw [hring.maxRecords]
    exact decide_eq_true hlt.le
  refine ⟨hfilter, ?_⟩
  have hperm : s.loadedRows.Perm s.holder.log := by
    rw [LogState.loadedRows, hfilter]
    exact (List.perm_insertionSort _ _).trans hring.rows
  refine List.Perm.eq_of_pairwise ?_ (List.pairwise_insertionSort LogEntry.Before _) ?_
    (hperm.trans (List.reverse_perm _).symm)
  · intro a b ha hb hab hba
    have hguid : a.guid = b.guid := by
      unfold LogEntry.Before at hab hba
      omega
    exact List.inj_on_of_nodup_map hring.keepsLast.guids (hperm.subset ha)
      (List.mem_reverse.mp hb) hguid
  · rw [List.pairwise_reverse]
    refine (hring.ordered.and horderly).imp ?_
    rintro a b ⟨hle, himp⟩
    rcases hle.lt_or_eq with hlt | heq
    · exact Or.inl hlt
    · exact Or.inr ⟨heq.symm, (himp heq).le⟩

/-- Loaded rows stand before the log in reverse, and the first one starts the counter. -/
theorem foldl_loadRow (rows : List (LogEntry E)) (h : LogHolder E)
    (hroom : h.log.length + rows.length ≤ h.maxRecords)
    (hdefined : ∀ row ∈ rows, row.guid ≠ guildEventLogGuidUndefined) :
    rows.foldl loadRow h =
      ⟨rows.reverse ++ h.log, h.maxRecords,
        if h.nextGUID = guildEventLogGuidUndefined
        then (rows.head?.map LogEntry.guid).getD guildEventLogGuidUndefined else h.nextGUID⟩ := by
  induction rows generalizing h with
  | nil =>
    rw [List.foldl_nil, List.head?_nil, Option.map_none, Option.getD_none]
    split
    · next heq => rw [← heq]; rfl
    · rfl
  | cons row rest ih =>
    rw [List.length_cons] at hroom
    have hcan : h.canInsert = true := decide_eq_true (by omega)
    have hload : loadRow h row = h.loadEvent row := if_pos hcan
    have hrow := hdefined row List.mem_cons_self
    have hfirst : (h.loadEvent row).nextGUID ≠ guildEventLogGuidUndefined := by
      rw [LogHolder.loadEvent]
      split
      · exact hrow
      · next hne => exact hne
    rw [List.foldl_cons, hload, ih (h.loadEvent row) ?_ ?_, if_neg hfirst]
    · rw [LogHolder.loadEvent, List.reverse_cons, List.append_assoc]
      rfl
    · have hmax : (h.loadEvent row).maxRecords = h.maxRecords := rfl
      rw [hmax, LogHolder.loadEvent, List.length_cons]
      omega
    · exact fun r hr => hdefined r (List.mem_cons_of_mem _ hr)

theorem logged_restart (history : List (LogAction E)) :
    logged (history ++ [LogAction.restart]) = logged history := by
  rw [logged_append, logged, logged, List.append_nil]

theorem Ring.restart (hbound : n < 2 ^ 32) (hpos : 0 < n) (hring : Ring n history s)
    (horderly : s.Orderly LogAction.restart) :
    Ring n (history ++ [LogAction.restart]) s.restart := by
  obtain ⟨hfilter, hloaded⟩ := hring.loadedRows hpos horderly
  have hlen : s.holder.log.length = min n (logged history).length := by
    rw [hring.log, length_lastOf, length_entriesOf]
  have hholder : s.restart.holder = s.holder := by
    rw [LogState.restart, hloaded, foldl_loadRow]
    · have hnext : s.holder.nextGUID =
          (s.holder.log.reverse.head?.map LogEntry.guid).getD guildEventLogGuidUndefined := by
        rw [List.head?_reverse, ← List.getLast?_map, hring.map_guid, hring.nextGUID, lastOf,
          List.getLast?_drop, List.length_map, List.length_range, List.getLast?_map,
          List.getLast?_range, guidAfter]
        split
        · next h => simp [h]
        · next h =>
            rw [if_neg (by omega), Option.map_some, Option.getD_some]
      rw [List.reverse_reverse, LogHolder.new, List.append_nil, if_pos rfl, ← hnext]
    · rw [LogHolder.new, List.length_nil, List.length_reverse, hlen, hring.maxRecords]
      omega
    · intro row hrow
      have hlt := hring.guid_lt hpos row (List.mem_reverse.mp hrow)
      rw [guildEventLogGuidUndefined]
      omega
  have hrows : s.restart.rows = s.rows := hfilter
  constructor
  · rw [hholder, hring.maxRecords]
  · rw [hholder, logged_restart, hring.log]
  · rw [hholder, logged_restart, hring.nextGUID]
  · rw [hholder, hrows]
    exact hring.rows
  · rw [hrows]
    exact hring.keys
  · rw [hholder]
    exact hring.ordered

theorem Ring.step (hbound : n < 2 ^ 32) (hpos : 0 < n) {action : LogAction E}
    (hring : Ring n history s) (horderly : s.Orderly action) :
    Ring n (history ++ [action]) (s.step action) := by
  cases action with
  | log timestamp event => exact hring.addEvent hbound hpos horderly
  | restart => exact hring.restart hbound hpos horderly

/-- In every run whose restarts find no two events of one second out of order, memory and rows have
exactly the last events. -/
theorem keepsLast_of_run {n : Nat} (hbound : n < 2 ^ 32) (hpos : 0 < n)
    {actions : List (LogAction E)}
    (hrun : Runs.Admissible LogState.step LogState.Orderly (LogState.new n) actions)
    {before : List (LogAction E)} (hbefore : before <+: actions) :
    KeepsLast n before (Runs.run LogState.step (LogState.new n) before) := by
  have hring := hrun.holds_throughout (P := Ring n) (fun h ho => h.step hbound hpos ho)
    (Ring.new n) hbefore
  exact hring.keepsLast

/-- A counter that wraps between two seconds does no harm. -/
theorem keepsLast_wrapped :
    KeepsLast 2 [LogAction.log 5 'a', LogAction.log 6 'b', LogAction.log 7 'c', LogAction.restart]
      (Runs.run LogState.step (LogState.new 2)
        [LogAction.log 5 'a', LogAction.log 6 'b', LogAction.log 7 'c', LogAction.restart]) :=
  keepsLast_of_run (by decide) (by decide) (by decide) (List.prefix_refl _)

/-- Three events of one second wrap the counter of two records. The restart takes the second event
for the newest, and the fourth event overwrites the third. -/
theorem newest_overwritten :
    ((logged [LogAction.log 5 'a', LogAction.log 5 'b', LogAction.log 5 'c',
        LogAction.restart, LogAction.log 6 'd']).map Prod.fst).Pairwise (· ≤ ·) ∧
      ¬ KeepsLast 2 [LogAction.log 5 'a', LogAction.log 5 'b', LogAction.log 5 'c',
          LogAction.restart, LogAction.log 6 'd']
        (Runs.run LogState.step (LogState.new 2) [LogAction.log 5 'a', LogAction.log 5 'b',
          LogAction.log 5 'c', LogAction.restart, LogAction.log 6 'd']) := by
  refine ⟨by decide, fun hkeeps => ?_⟩
  have hevents := hkeeps.events
  revert hevents
  decide

end LogState

end Cataclysm.Guilds
