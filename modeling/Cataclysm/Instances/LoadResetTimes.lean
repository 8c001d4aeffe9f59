import Cataclysm.Lib.Multimap
import Cataclysm.Lib.OrderedMap

/-!
# Reset times of normal instances after a restart

The loader reads the instances with their reset times, moves each reset time to two hours after the
last creature respawn of the instance, in the database and in memory, and schedules the resets that
lie ahead.

## Implementation notes

A query result stands on a row and knows the rows behind it; the call of `NextRow` that finds no
row frees it, and from then on it finds none. Both loops run the same `do ... while` over the
cursor of the instances. The tables carry that the ids of instances are a primary key read in
ascending order, and that the respawn times are grouped by instance. The columns have the widths
that their getters read. The mapping from map and difficulty to instances serves the resets of raids
only and is left out.
-/

namespace Cataclysm.InstanceResets

def hour : UInt32 := 3600

/-- `MAKE_PAIR32`. -/
def makePair32 (l h : UInt16) : UInt32 := l.toUInt32 ||| (h.toUInt32 <<< 16)

/-- `PAIR32_HIPART`. -/
def pair32HiPart (x : UInt32) : UInt16 := ((x >>> 16) &&& 0x0000FFFF).toUInt16

/-- `PAIR32_LOPART`. -/
def pair32LoPart (x : UInt32) : UInt16 := (x &&& 0x0000FFFF).toUInt16

/-- A row of the table `instance`. -/
structure InstanceRow where
  id : UInt32
  map : UInt16
  difficulty : UInt8
  resettime : UInt32
  deriving DecidableEq

/-- The table `instance`, by its primary key. -/
structure InstanceTable where
  rows : List InstanceRow
  sorted : rows.Pairwise fun row row' => row.id < row'.id

/-- A row of the greatest respawn times, with its instance. -/
structure RespawnRow where
  respawnTime : UInt32
  instanceId : UInt32
  deriving DecidableEq

/-- The greatest respawn times, one for each instance. -/
structure MaxRespawns where
  rows : List RespawnRow
  grouped : (rows.map RespawnRow.instanceId).Nodup

/-- `InstResetEvent`, with the widths of its fields. -/
structure InstResetEvent where
  type : UInt8
  difficulty : UInt8
  mapid : UInt16
  instanceId : UInt16
  deriving DecidableEq

/-- The constructor of the event, which takes the instance id as 16 bits. -/
def instResetEvent (t : UInt8) (mapid : UInt16) (d : UInt8) (instanceid : UInt32) :
    InstResetEvent := ⟨t, d, mapid, instanceid.toUInt16⟩

/-! ## Query results -/

/-- A query result: the row it stands on, and the rows behind it until it has been freed. -/
structure ResultSet (R : Type*) where
  currentRow : R
  pending : Option (List R)

namespace ResultSet

variable {R S : Type*}

/-- A query answers no result when there is no row, and stands on the first row otherwise. -/
def query : List R → Option (ResultSet R)
  | [] => none
  | row :: rest => some ⟨row, some rest⟩

/-- The loop over the rows that are left. -/
def doRows (body : R → S → S) : R → List R → S → S × ResultSet R
  | row, [], s => (body row s, ⟨row, none⟩)
  | row, next :: rest, s => doRows body next rest (body row s)

/-- `do body while (result->NextRow())`. -/
def doWhile (body : R → S → S) (result : ResultSet R) (s : S) : S × ResultSet R :=
  match result.pending with
  | none => (body result.currentRow s, result)
  | some rest => doRows body result.currentRow rest s

theorem doRows_eq (body : R → S → S) (row : R) (rest : List R) (s : S) :
    (doRows body row rest s).1 = (row :: rest).foldl (fun s row => body row s) s ∧
      (doRows body row rest s).2.pending = none := by
  induction rest generalizing row s with
  | nil => exact ⟨rfl, rfl⟩
  | cons next rest ih => exact ih next (body row s)

end ResultSet

/-! ## The loader -/

variable {rows : List InstanceRow}

/-- The reset times in memory, by instance: the pair of map and difficulty, and the time. -/
abbrev InstResetTimes := OrderedMap Nat (UInt32 × Int)

/-- The loop over the instances, for one row. -/
def readInstance (row : InstanceRow) (instResetTime : InstResetTimes) : InstResetTimes :=
  if row.resettime ≠ 0 then
    instResetTime.insert row.id.toNat
      (makePair32 row.map row.difficulty.toUInt16, (row.resettime.toNat : Int))
  else instResetTime

def InstanceRow.withResettime (row : InstanceRow) (resettime : UInt32) : InstanceRow :=
  { row with resettime }

theorem sorted_map_withResettime {f : InstanceRow → UInt32}
    (h : rows.Pairwise fun row row' => row.id < row'.id) :
    (rows.map fun row => row.withResettime (f row)).Pairwise fun row row' => row.id < row'.id :=
  List.pairwise_map.mpr h

/-- The table with other reset times. -/
def InstanceTable.withResettimes (table : InstanceTable) (f : InstanceRow → UInt32) :
    InstanceTable :=
  ⟨table.rows.map fun row => row.withResettime (f row), sorted_map_withResettime table.sorted⟩

/-- `UPDATE instance SET resettime = .. WHERE id = ..` -/
def InstanceTable.setResettime (table : InstanceTable) (id resettime : UInt32) : InstanceTable :=
  table.withResettimes fun row => if row.id = id then resettime else row.resettime

/-- The database and the memory that the second loop updates. -/
structure Loading where
  instances : InstanceTable
  instResetTime : InstResetTimes

/-- The loop over the respawn times, for the row the second result stands on. -/
def applyRespawn (row : RespawnRow) (s : Loading) : Loading :=
  let resettime := row.respawnTime + 2 * hour
  match s.instResetTime.find? row.instanceId.toNat with
  | none => s
  | some (pair, old) =>
    if old ≠ (resettime.toNat : Int) then
      { instances := s.instances.setResettime row.instanceId resettime
        instResetTime :=
          s.instResetTime.insert row.instanceId.toNat (pair, (resettime.toNat : Int)) }
    else s

/-- The resets to schedule, by their times. -/
def scheduledResets (now : Int) (instResetTime : InstResetTimes) : List (Int × InstResetEvent) :=
  (instResetTime.entries.filter fun e => now < e.2.2).map fun e =>
    (e.2.2, instResetEvent 0 (pair32LoPart e.2.1) (pair32HiPart e.2.1).toUInt8
      (UInt32.ofNat e.1))

/-- What the loader leaves behind: database, memory and the queue of resets. -/
structure Loaded where
  instances : InstanceTable
  instResetTime : InstResetTimes
  resetTimeQueue : Multimap Int InstResetEvent

/-- The part of `LoadResetTimes` for normal instances. -/
def loadResetTimes (now : Int) (instances : InstanceTable) (respawns : MaxRespawns)
    (resetTimeQueue : Multimap Int InstResetEvent) : Loaded :=
  match ResultSet.query instances.rows with
  | none => ⟨instances, .empty, resetTimeQueue⟩
  | some result =>
    let read := result.doWhile readInstance .empty
    let s : Loading := ⟨instances, read.1⟩
    let s :=
      match ResultSet.query respawns.rows with
      | none => s
      -- the second result stays on its row: the condition advances the first one
      | some result2 => (read.2.doWhile (fun _ => applyRespawn result2.currentRow) s).1
    ⟨s.instances, s.instResetTime,
      resetTimeQueue.insertAll (scheduledResets now s.instResetTime)⟩

/-! ## What is expected -/

/-- The reset time that an instance should have afterwards. -/
def MaxRespawns.resettimeOf (respawns : MaxRespawns) (row : InstanceRow) : Nat :=
  if row.resettime = 0 then row.resettime.toNat
  else
    match respawns.rows.find? (fun r => r.instanceId = row.id) with
    | some r => r.respawnTime.toNat + 7200
    | none => row.resettime.toNat

/-- An event with the instance it names. -/
def InstResetEvent.named (e : Int × InstResetEvent) : Int × UInt8 × UInt16 × UInt8 × Nat :=
  (e.1, e.2.type, e.2.mapid, e.2.difficulty, e.2.instanceId.toNat)

/-- The rows whose reset time is kept in memory. -/
def InstanceTable.timed (table : InstanceTable) : List InstanceRow :=
  table.rows.filter fun row => row.resettime ≠ 0

/-- The events that should be scheduled: one for each instance whose time lies ahead. -/
def expectedResets (now : Int) (instances : InstanceTable) (respawns : MaxRespawns) :
    List (Int × UInt8 × UInt16 × UInt8 × Nat) :=
  (instances.timed.filter fun row => now < (respawns.resettimeOf row : Int)).map fun row =>
    ((respawns.resettimeOf row : Int), 0, row.map, row.difficulty, row.id.toNat)

/-- Database, memory and queue are as expected. -/
structure Loaded.Right (loaded : Loaded) (now : Int) (instances : InstanceTable)
    (respawns : MaxRespawns) (resetTimeQueue : Multimap Int InstResetEvent) : Prop where
  database : loaded.instances.rows.map (fun row =>
      (row.id, row.map, row.difficulty, row.resettime.toNat)) =
    instances.rows.map fun row => (row.id, row.map, row.difficulty, respawns.resettimeOf row)
  memory : loaded.instResetTime.entries.map (fun e => (e.1, e.2.2)) =
    instances.timed.map fun row => (row.id.toNat, (respawns.resettimeOf row : Int))
  queue : (loaded.resetTimeQueue.entries.map InstResetEvent.named).Perm
    (expectedResets now instances respawns ++ resetTimeQueue.entries.map InstResetEvent.named)

/-- Only the first respawn time matters, it does not wrap, and the instances to be scheduled have
ids of 16 bits. -/
def OnlyFirstRespawn (now : Int) (instances : InstanceTable) (respawns : MaxRespawns) : Prop :=
  ∀ row ∈ instances.timed,
    (∀ r ∈ respawns.rows.tail, r.instanceId = row.id →
      row.resettime.toNat = r.respawnTime.toNat + 7200) ∧
    (∀ r ∈ respawns.rows.head?, r.instanceId = row.id → r.respawnTime.toNat + 7200 < 2 ^ 32) ∧
    (now < (respawns.resettimeOf row : Int) → row.id.toNat < 2 ^ 16)

/-! ## The two loops -/

variable {m : InstResetTimes} {row : InstanceRow}

/-- Appending a key beyond all keys of a map. -/
theorem entries_insert_of_lt {k : Nat} {v : UInt32 × Int} (h : ∀ e ∈ m.entries, e.1 < k) :
    (m.insert k v).entries = m.entries ++ [(k, v)] := by
  have hbefore : m.entries.filter (fun e => e.1 < k) = m.entries :=
    List.filter_eq_self.mpr fun e he => by simpa using h e he
  have hafter : m.entries.filter (fun e => k < e.1) = [] :=
    List.filter_eq_nil_iff.mpr fun e he => by simpa using (h e he).le
  calc (m.insert k v).entries
      = m.entries.filter (fun e => e.1 < k) ++ (k, v) :: m.entries.filter fun e => k < e.1 := rfl
    _ = m.entries ++ [(k, v)] := by rw [hbefore, hafter]

/-- Storing under a key that is there changes that entry in place. -/
theorem entries_insert_of_find? {k : Nat} {v w : UInt32 × Int} (h : m.find? k = some w) :
    (m.insert k v).entries = m.entries.map fun e => (e.1, if e.1 = k then v else e.2) := by
  have hsame : m.insert k v = m.mapValues fun k' v' => if k' = k then v else v' := by
    refine OrderedMap.ext_find? fun k' => ?_
    rw [OrderedMap.find?_insert, OrderedMap.find?_mapValues]
    by_cases heq : k' = k
    · subst heq
      simp [h]
    · simp [heq]
  rw [hsame]
  rfl

/-- The entry of an instance in memory. -/
def InstanceRow.entry (row : InstanceRow) : Nat × UInt32 × Int :=
  (row.id.toNat, makePair32 row.map row.difficulty.toUInt16, (row.resettime.toNat : Int))

/-- The first loop reads all instances that have a reset time. -/
theorem foldl_readInstance (hsorted : rows.Pairwise fun row row' => row.id < row'.id)
    (hbelow : ∀ e ∈ m.entries, ∀ row ∈ rows, e.1 < row.id.toNat) :
    (rows.foldl (fun m row => readInstance row m) m).entries =
      m.entries ++ (rows.filter fun row => row.resettime ≠ 0).map InstanceRow.entry := by
  induction rows generalizing m with
  | nil => simp
  | cons row rest ih =>
    obtain ⟨hfirst, hrest⟩ := List.pairwise_cons.mp hsorted
    have hlater : ∀ e ∈ m.entries, ∀ row' ∈ rest, e.1 < row'.id.toNat :=
      fun e he row' hrow => hbelow e he row' (List.mem_cons_of_mem _ hrow)
    by_cases hzero : row.resettime = 0
    · simpa [readInstance, hzero] using ih hrest hlater
    · have hinsert : (readInstance row m).entries = m.entries ++ [row.entry] := by
        rw [readInstance, if_pos hzero]
        exact entries_insert_of_lt fun e he => hbelow e he row List.mem_cons_self
      have hbelow' : ∀ e ∈ (readInstance row m).entries, ∀ row' ∈ rest,
          e.1 < row'.id.toNat := by
        intro e he row' hrow
        rcases List.mem_append.mp (hinsert ▸ he) with hold | hnew
        · exact hlater e hold row' hrow
        · obtain rfl := List.mem_singleton.mp hnew
          exact hfirst row' hrow
      rw [List.foldl_cons, ih hrest hbelow', hinsert]
      simp [hzero]

/-- The reset time that a respawn row gives an instance. -/
def RespawnRow.appliedTo (r : RespawnRow) (row : InstanceRow) : UInt32 :=
  if row.resettime ≠ 0 ∧ r.instanceId = row.id then r.respawnTime + 2 * hour else row.resettime

/-- The reset time that the loader gives an instance: it looks at the first respawn row alone. -/
def MaxRespawns.appliedTo (respawns : MaxRespawns) (row : InstanceRow) : UInt32 :=
  match respawns.rows.head? with
  | some r => r.appliedTo row
  | none => row.resettime

theorem InstanceTable.eq_of_id {table : InstanceTable} {row' : InstanceRow} (h : row ∈ table.rows)
    (h' : row' ∈ table.rows) (hid : row.id = row'.id) : row = row' := by
  have hdistinct : (table.rows.map InstanceRow.id).Nodup :=
    List.pairwise_map.mpr (table.sorted.imp fun hlt => UInt32.ne_of_lt hlt)
  exact List.inj_on_of_nodup_map hdistinct h h' hid

/-- Memory and database agree while the loader runs. -/
def Loading.Agrees (s : Loading) : Prop :=
  s.instResetTime.entries = s.instances.timed.map InstanceRow.entry

/-- What is found in memory belongs to an instance of the database. -/
theorem Loading.Agrees.find? {s : Loading} (h : s.Agrees) {id : UInt32} {pair : UInt32}
    {old : Int} (hfound : s.instResetTime.find? id.toNat = some (pair, old)) :
    ∃ row ∈ s.instances.rows, row.resettime ≠ 0 ∧ row.id = id ∧
      pair = makePair32 row.map row.difficulty.toUInt16 ∧ old = row.resettime.toNat := by
  have hentry := OrderedMap.find?_eq_some_iff.mp hfound
  rw [h] at hentry
  obtain ⟨row, hrow, hsame⟩ := List.mem_map.mp hentry
  obtain ⟨hin, hnonzero⟩ := List.mem_filter.mp hrow
  obtain ⟨hid, rfl, rfl⟩ := by simpa [InstanceRow.entry] using hsame
  exact ⟨row, hin, by simpa using hnonzero, UInt32.toNat_inj.mp hid, rfl, rfl⟩

/-- What is not found in memory belongs to no instance with a reset time. -/
theorem Loading.Agrees.not_timed {s : Loading} (h : s.Agrees) {id : UInt32}
    (hmissing : s.instResetTime.find? id.toNat = none) (hrow : row ∈ s.instances.rows) :
    ¬(row.resettime ≠ 0 ∧ id = row.id) := by
  rintro ⟨hnonzero, rfl⟩
  have hentry : row.entry ∈ s.instResetTime.entries := by
    rw [h]
    exact List.mem_map_of_mem (List.mem_filter.mpr ⟨hrow, by simpa using hnonzero⟩)
  exact OrderedMap.find?_eq_none_iff.mp hmissing _ hentry

/-- One respawn row moves the reset time of its instance, and of no other. -/
theorem Loading.Agrees.applyRespawn {s : Loading} (h : s.Agrees) (r : RespawnRow) :
    (applyRespawn r s).instances.rows =
        s.instances.rows.map (fun row => row.withResettime (r.appliedTo row)) ∧
      (applyRespawn r s).instResetTime.entries =
        s.instances.timed.map fun row => (row.withResettime (r.appliedTo row)).entry := by
  have hkept : (∀ row ∈ s.instances.rows, r.appliedTo row = row.resettime) →
      s.instances.rows =
          s.instances.rows.map (fun row => row.withResettime (r.appliedTo row)) ∧
        s.instResetTime.entries =
          s.instances.timed.map fun row => (row.withResettime (r.appliedTo row)).entry := by
    intro hsame
    refine ⟨?_, h.trans ?_⟩
    · refine (List.map_id' _).symm.trans (List.map_congr_left fun row hrow => ?_)
      rw [hsame row hrow]
      rfl
    · refine List.map_congr_left fun row hrow => ?_
      rw [hsame row (List.mem_filter.mp hrow).1]
      rfl
  cases hfound : s.instResetTime.find? r.instanceId.toNat with
  | none =>
    rw [InstanceResets.applyRespawn, hfound]
    exact hkept fun row hrow => if_neg (h.not_timed hfound hrow)
  | some e =>
    obtain ⟨pair, old⟩ := e
    obtain ⟨row₀, hrow₀, hnonzero, hid, hpair, hold⟩ := h.find? hfound
    have honly : ∀ row ∈ s.instances.rows, (row.resettime ≠ 0 ∧ r.instanceId = row.id) ↔
        row.id = r.instanceId := by
      intro row hrow
      refine ⟨fun hboth => hboth.2.symm, fun hsame => ⟨?_, hsame.symm⟩⟩
      rwa [s.instances.eq_of_id hrow hrow₀ (hsame.trans hid.symm)]
    by_cases hnew : old = ((r.respawnTime + 2 * hour).toNat : Int)
    · simp only [InstanceResets.applyRespawn, hfound, hnew, ne_eq, not_true, if_false]
      refine hkept fun row hrow => ?_
      rw [RespawnRow.appliedTo]
      split
      case isTrue hboth =>
        obtain rfl := s.instances.eq_of_id hrow hrow₀ (hboth.2.symm.trans hid.symm)
        exact UInt32.toNat_inj.mp (by omega)
      case isFalse => rfl
    · simp only [InstanceResets.applyRespawn, hfound, hnew, ne_eq, not_false_eq_true, if_true]
      constructor
      · refine List.map_congr_left fun row hrow => ?_
        simp only [RespawnRow.appliedTo, honly row hrow]
      · rw [entries_insert_of_find? hfound, h, List.map_map]
        refine List.map_congr_left fun row hrow => ?_
        have hin := (List.mem_filter.mp hrow).1
        simp only [Function.comp_apply, RespawnRow.appliedTo, honly row hin]
        by_cases hsame : row.id = r.instanceId
        · obtain rfl := s.instances.eq_of_id hin hrow₀ (hsame.trans hid.symm)
          simp only [InstanceRow.entry, InstanceRow.withResettime, hsame, hpair, if_true]
        · have hother : row.id.toNat ≠ r.instanceId.toNat := fun heq =>
            hsame (UInt32.toNat_inj.mp heq)
          simp [InstanceRow.entry, InstanceRow.withResettime, hsame, hother]

theorem rows_map_resettime (rows : List InstanceRow) :
    rows.map (fun row => row.withResettime row.resettime) = rows := List.map_id' rows

/-- What the loader does: the first respawn row is applied, then the queue is filled. -/
theorem loadResetTimes_eq (now : Int) (instances : InstanceTable) (respawns : MaxRespawns)
    (queue : Multimap Int InstResetEvent) :
    (loadResetTimes now instances respawns queue).instances.rows =
        instances.rows.map (fun row => row.withResettime (respawns.appliedTo row)) ∧
      (loadResetTimes now instances respawns queue).instResetTime.entries =
        instances.timed.map (fun row => (row.withResettime (respawns.appliedTo row)).entry) ∧
      (loadResetTimes now instances respawns queue).resetTimeQueue = queue.insertAll
        (scheduledResets now (loadResetTimes now instances respawns queue).instResetTime) := by
  cases hrows : instances.rows with
  | nil =>
    have hnone : instances.timed = [] := by rw [InstanceTable.timed, hrows]; rfl
    simp only [loadResetTimes, hrows, hnone, ResultSet.query]
    exact ⟨rfl, rfl, rfl⟩
  | cons first rest =>
    let read := (⟨first, some rest⟩ : ResultSet InstanceRow).doWhile readInstance .empty
    have hread : read.1.entries = instances.timed.map InstanceRow.entry ∧
        read.2.pending = none := by
      obtain ⟨hfold, hfreed⟩ := ResultSet.doRows_eq readInstance first rest .empty
      refine ⟨?_, hfreed⟩
      have hloop := foldl_readInstance instances.sorted
        (fun e he => absurd he List.not_mem_nil : ∀ e ∈ (OrderedMap.empty :
          InstResetTimes).entries, ∀ row ∈ instances.rows, e.1 < row.id.toNat)
      calc read.1.entries
          = (instances.rows.foldl (fun m row => readInstance row m) .empty).entries := by
            rw [hrows]
            exact congrArg OrderedMap.entries hfold
        _ = instances.timed.map InstanceRow.entry := hloop
    have hagrees : Loading.Agrees ⟨instances, read.1⟩ := hread.1
    cases hrespawns : respawns.rows with
    | nil =>
      have hsame : respawns.appliedTo = InstanceRow.resettime := by
        funext row
        rw [MaxRespawns.appliedTo, hrespawns]
        rfl
      simp only [loadResetTimes, hrows, hrespawns, ResultSet.query, hsame]
      refine ⟨?_, hread.1, trivial⟩
      rw [← hrows, rows_map_resettime]
    | cons r later =>
      have hsame : respawns.appliedTo = r.appliedTo := by
        funext row
        rw [MaxRespawns.appliedTo, hrespawns]
        rfl
      -- the exhausted cursor of the first loop ends the second one after one row
      have honce : (read.2.doWhile (fun _ => applyRespawn r) ⟨instances, read.1⟩).1 =
          applyRespawn r ⟨instances, read.1⟩ := by
        rw [ResultSet.doWhile, hread.2]
      obtain ⟨hdatabase, hmemory⟩ := hagrees.applyRespawn r
      simp only [loadResetTimes, hrows, hrespawns, ResultSet.query, hsame]
      rw [← hrows]
      change (read.2.doWhile (fun _ => applyRespawn r) ⟨instances, read.1⟩).1.instances.rows = _ ∧
        (read.2.doWhile (fun _ => applyRespawn r) ⟨instances, read.1⟩).1.instResetTime.entries
          = _ ∧ _
      rw [honce]
      exact ⟨hdatabase, hmemory, trivial⟩

/-! ## When that is right -/

theorem mask_sixteen {i : Nat} (hi : i < 16) : (65535#16)[i] = true :=
  BitVec.getElem_allOnes i hi

theorem pair32LoPart_makePair32 (l h : UInt16) : pair32LoPart (makePair32 l h) = l := by
  apply UInt16.toBitVec_inj.1
  ext i hi
  simp [pair32LoPart, makePair32, mask_sixteen hi]

theorem pair32HiPart_makePair32 (l h : UInt16) : pair32HiPart (makePair32 l h) = h := by
  apply UInt16.toBitVec_inj.1
  ext i hi
  have hlow : i < 32 := by omega
  have hhigh : 16 + i < 32 := by omega
  simp [pair32HiPart, makePair32, mask_sixteen hi, hlow, hhigh, BitVec.getLsbD_eq_getElem hi]

theorem toNat_add_two_hours (t : UInt32) :
    (t + 2 * hour).toNat = (t.toNat + 7200) % 2 ^ 32 := UInt32.toNat_add t (2 * hour)

/-- The time a timed instance gets is the expected one when the first respawn row is the only one
that matters and does not wrap. -/
theorem MaxRespawns.appliedTo_eq_iff (respawns : MaxRespawns) (htimed : row.resettime ≠ 0) :
    (respawns.appliedTo row).toNat = respawns.resettimeOf row ↔
      (∀ r ∈ respawns.rows.tail, r.instanceId = row.id →
        row.resettime.toNat = r.respawnTime.toNat + 7200) ∧
      ∀ r ∈ respawns.rows.head?, r.instanceId = row.id → r.respawnTime.toNat + 7200 < 2 ^ 32 := by
  have hgrouped := respawns.grouped
  rw [MaxRespawns.appliedTo, MaxRespawns.resettimeOf, if_neg htimed]
  cases hrows : respawns.rows with
  | nil => simp
  | cons first later =>
    rw [hrows, List.map_cons, List.nodup_cons] at hgrouped
    by_cases hfirst : first.instanceId = row.id
    · have hlater : ∀ r ∈ later, r.instanceId ≠ row.id := fun r hr hsame =>
        hgrouped.1 (List.mem_map.mpr ⟨r, hr, hsame.trans hfirst.symm⟩)
      have htail : ∀ r ∈ later, r.instanceId = row.id →
          row.resettime.toNat = r.respawnTime.toNat + 7200 :=
        fun r hr hsame => absurd hsame (hlater r hr)
      have happlied : (first.appliedTo row).toNat =
          (first.respawnTime.toNat + 7200) % 2 ^ 32 := by
        rw [RespawnRow.appliedTo, if_pos ⟨htimed, hfirst⟩, toNat_add_two_hours]
      have hfind : (first :: later).find? (fun r => r.instanceId = row.id) = some first := by
        simp [hfirst]
      simp only [List.head?_cons, List.tail_cons, happlied, hfind, Option.mem_some_iff]
      refine ⟨fun hsame => ⟨htail, fun r hr _ => hr ▸ by omega⟩, fun h => ?_⟩
      exact Nat.mod_eq_of_lt (h.2 first rfl hfirst)
    · have hfound : (row.resettime.toNat =
          match later.find? (fun r => r.instanceId = row.id) with
          | some r => r.respawnTime.toNat + 7200
          | none => row.resettime.toNat) ↔
          ∀ r ∈ later, r.instanceId = row.id →
            row.resettime.toNat = r.respawnTime.toNat + 7200 := by
        cases hfind : later.find? (fun r => r.instanceId = row.id) with
        | none =>
          refine iff_of_true rfl fun r hr hsame => ?_
          exact absurd hsame (by simpa using List.find?_eq_none.mp hfind r hr)
        | some r₀ =>
          have hr₀ := List.mem_of_find?_eq_some hfind
          have hid₀ : r₀.instanceId = row.id := by simpa using List.find?_some hfind
          refine ⟨fun hsame r hr hid => ?_, fun h => h r₀ hr₀ hid₀⟩
          obtain rfl := List.inj_on_of_nodup_map hgrouped.2 hr hr₀ (hid.trans hid₀.symm)
          exact hsame
      simpa [RespawnRow.appliedTo, hfirst] using hfound

theorem appliedTo_of_untimed (respawns : MaxRespawns) (h : row.resettime = 0) :
    (respawns.appliedTo row).toNat = respawns.resettimeOf row := by
  rw [MaxRespawns.appliedTo, MaxRespawns.resettimeOf, if_pos h]
  split
  · rw [RespawnRow.appliedTo, if_neg fun hboth => hboth.1 h]
  · rfl

/-- The events that the loader schedules, by the instances they name. -/
theorem scheduledResets_named {now : Int} {m : InstResetTimes} {rows : List InstanceRow}
    {time : InstanceRow → UInt32}
    (h : m.entries = rows.map fun row => (row.withResettime (time row)).entry) :
    (scheduledResets now m).map InstResetEvent.named =
      (rows.filter fun row => now < ((time row).toNat : Int)).map fun row =>
        (((time row).toNat : Int), 0, row.map, row.difficulty, row.id.toUInt16.toNat) := by
  rw [scheduledResets, h, List.filter_map, List.map_map, List.map_map]
  refine List.map_congr_left fun row _ => ?_
  simp [InstResetEvent.named, instResetEvent, InstanceRow.entry, InstanceRow.withResettime,
    pair32LoPart_makePair32, pair32HiPart_makePair32]

/-- The loader leaves database, memory and queue as expected exactly when only the first respawn
time matters, does not wrap, and the instances to be scheduled have ids of 16 bits. -/
theorem loadResetTimes_iff (now : Int) (instances : InstanceTable) (respawns : MaxRespawns)
    (queue : Multimap Int InstResetEvent) :
    (loadResetTimes now instances respawns queue).Right now instances respawns queue ↔
      OnlyFirstRespawn now instances respawns := by
  obtain ⟨hdatabase, hmemory, hqueue⟩ := loadResetTimes_eq now instances respawns queue
  have hnamed := @scheduledResets_named now _ _ _ hmemory
  have hperm : ((loadResetTimes now instances respawns queue).resetTimeQueue.entries.map
      InstResetEvent.named).Perm
      ((scheduledResets now (loadResetTimes now instances respawns queue).instResetTime).map
        InstResetEvent.named ++ queue.entries.map InstResetEvent.named) := by
    rw [hqueue, ← List.map_append]
    exact ((queue.perm_insertAll _).trans List.perm_append_comm).map _
  have htimes : (∀ row ∈ instances.timed,
      (respawns.appliedTo row).toNat = respawns.resettimeOf row) →
      ((scheduledResets now (loadResetTimes now instances respawns queue).instResetTime).map
        InstResetEvent.named =
        (instances.timed.filter fun row => now < (respawns.resettimeOf row : Int)).map fun row =>
          ((respawns.resettimeOf row : Int), 0, row.map, row.difficulty,
            row.id.toUInt16.toNat)) := by
    intro hsame
    rw [hnamed, List.filter_congr fun row hrow => by rw [hsame row hrow]]
    refine List.map_congr_left fun row hrow => ?_
    rw [hsame row (List.mem_filter.mp hrow).1]
  constructor
  · intro h
    have hsame : ∀ row ∈ instances.timed,
        (respawns.appliedTo row).toNat = respawns.resettimeOf row := by
      intro row hrow
      have heq := h.memory
      rw [hmemory, List.map_map, List.map_inj_left] at heq
      exact Int.ofNat_inj.mp (congrArg Prod.snd (heq row hrow))
    intro row hrow
    have htimed : row.resettime ≠ 0 := by simpa using (List.mem_filter.mp hrow).2
    obtain ⟨hlater, hfirst⟩ := (respawns.appliedTo_eq_iff htimed).mp (hsame row hrow)
    refine ⟨hlater, hfirst, fun hahead => ?_⟩
    have hqueued := (List.perm_append_right_iff _).mp (hperm.symm.trans h.queue)
    rw [htimes hsame] at hqueued
    have hexpected := hqueued.mem_iff.mpr (List.mem_map_of_mem
      (List.mem_filter.mpr ⟨hrow, by simpa using hahead⟩))
    obtain ⟨row', -, hrow'⟩ := List.mem_map.mp hexpected
    have hid : row'.id.toUInt16.toNat = row.id.toNat := by
      simpa using congrArg (fun e => e.2.2.2.2) hrow'
    exact hid ▸ row'.id.toUInt16.toNat_lt
  · intro h
    have hsame : ∀ row ∈ instances.timed,
        (respawns.appliedTo row).toNat = respawns.resettimeOf row := by
      intro row hrow
      have htimed : row.resettime ≠ 0 := by simpa using (List.mem_filter.mp hrow).2
      exact (respawns.appliedTo_eq_iff htimed).mpr ⟨(h row hrow).1, (h row hrow).2.1⟩
    refine ⟨?_, ?_, ?_⟩
    · rw [hdatabase, List.map_map]
      refine List.map_congr_left fun row hrow => ?_
      have htime : (respawns.appliedTo row).toNat = respawns.resettimeOf row := by
        by_cases htimed : row.resettime = 0
        · exact appliedTo_of_untimed respawns htimed
        · exact hsame row (List.mem_filter.mpr ⟨hrow, by simpa using htimed⟩)
      simp [InstanceRow.withResettime, htime]
    · rw [hmemory, List.map_map]
      refine List.map_congr_left fun row hrow => ?_
      simp [InstanceRow.entry, InstanceRow.withResettime, hsame row hrow]
    · refine hperm.trans (List.Perm.of_eq (congrArg (· ++ _) ?_))
      rw [htimes hsame, expectedResets]
      refine List.map_congr_left fun row hrow => ?_
      obtain ⟨hin, hahead⟩ := List.mem_filter.mp hrow
      have hsmall := (h row hin).2.2 (by simpa using hahead)
      have hid : row.id.toUInt16.toNat = row.id.toNat := Nat.mod_eq_of_lt hsmall
      rw [hid]

def twoRows : List InstanceRow := [⟨1, 36, 0, 1000⟩, ⟨2, 43, 0, 1000⟩]

theorem sorted_twoRows : twoRows.Pairwise fun row row' => row.id < row'.id := by decide

def twoRespawnRows : List RespawnRow := [⟨5000, 1⟩, ⟨6000, 2⟩]

theorem grouped_twoRespawnRows : (twoRespawnRows.map RespawnRow.instanceId).Nodup := by decide

/-- Two timed instances, and a later respawn in each. -/
def twoInstances : InstanceTable := ⟨twoRows, sorted_twoRows⟩

def twoRespawns : MaxRespawns := ⟨twoRespawnRows, grouped_twoRespawnRows⟩

/-- The second instance keeps its old reset time, and its reset is scheduled for it. -/
theorem second_respawn_missed :
    (loadResetTimes 500 twoInstances twoRespawns .empty).instances.rows =
        [⟨1, 36, 0, 12200⟩, ⟨2, 43, 0, 1000⟩] ∧
      twoRespawns.resettimeOf ⟨2, 43, 0, 1000⟩ = 13200 ∧
      ¬(loadResetTimes 500 twoInstances twoRespawns .empty).Right 500 twoInstances twoRespawns
        .empty := by
  refine ⟨by decide, by decide, fun h => ?_⟩
  exact absurd h.database (by decide)

end Cataclysm.InstanceResets
