import Cataclysm.Tools.PlayerDump

/-!
# What the dump of a character contains

A dump is closed when it has the rows of everything its own rows refer to: the items of the
inventory and of the mails, their wrappings, and the auras, spells and cooldowns of the pets. The
tables are dumped in the order of their names, so the wrappings come before any item is known, and
the items before those of the mails. Within one table the rows of a guid are found when its query
and all queries before it have a result.

## Implementation notes

Behind the first table nothing is refused, so each table appends what it selects in the state that
the tables before it left. `writes` is this run without the refusals.
-/

namespace Cataclysm.Tools

namespace PlayerDumpWriter

variable {db : Database} {guid : Nat}

/-! ### The queries for a set -/

variable {table : String} {row : Row}

/-- The conditions under which a table is queried for a set of guids. -/
def conditionsFor (field : String) : Nat → List Nat → List Where
  | 0, _ => []
  | fuel + 1, guids =>
    let (condition, behind) := generateWhereSet field guids
    condition :: if behind.isEmpty then [] else conditionsFor field fuel behind

/-- The conditions before the first without a result. -/
def answered (db : Database) (table : String) (conditions : List Where) : List Where :=
  conditions.takeWhile fun condition => !(query db table condition).isEmpty

/-- The guids that the queries for a set reach. -/
def reached (db : Database) (table field : String) (guids : GUIDs) : List Nat :=
  (answered db table (conditionsFor field guids.keys.length guids.keys)).flatMap Where.guids

/-- The rows that the queries for a set find. -/
def selectSet (db : Database) (table field : String) (fuel : Nat) (guids : List Nat) : List Row :=
  (answered db table (conditionsFor field fuel guids)).flatMap (query db table)

theorem field_of_mem_conditionsFor {field : String} {fuel : Nat} {guids : List Nat}
    {condition : Where} (hin : condition ∈ conditionsFor field fuel guids) :
    condition.field = field := by
  induction fuel generalizing guids with
  | zero => cases hin
  | succ fuel ih =>
    rw [conditionsFor] at hin
    dsimp only at hin
    rcases List.mem_cons.mp hin with rfl | hrest
    · rfl
    · split at hrest
      · cases hrest
      · exact ih hrest

/-- A result has the rows with a guid of the condition. -/
theorem mem_query {condition : Where} (hresult : (query db table condition).isEmpty = false) :
    row ∈ query db table condition ↔
      row ∈ db.rows table ∧ valueAt row (columnOf table condition.field) ∈ condition.guids := by
  rw [query] at hresult ⊢
  split at hresult
  · next hfits =>
      rw [if_pos hfits, List.mem_filter, decide_eq_true_eq]
  · cases hresult

/-- The rows that are found have a guid that is reached. -/
theorem mem_selectSet {field : String} {guids : GUIDs} :
    row ∈ selectSet db table field guids.keys.length guids.keys ↔
      row ∈ db.rows table ∧ valueAt row (columnOf table field) ∈ reached db table field guids := by
  have hquery : ∀ condition ∈
      answered db table (conditionsFor field guids.keys.length guids.keys),
      (row ∈ query db table condition ↔
        row ∈ db.rows table ∧ valueAt row (columnOf table field) ∈ condition.guids) := by
    intro condition hin
    have hanswer := List.mem_takeWhile_imp hin
    have hfield := field_of_mem_conditionsFor ((List.takeWhile_sublist _).subset hin)
    rw [Bool.not_eq_true'] at hanswer
    rw [mem_query hanswer, hfield]
  rw [selectSet, reached, List.mem_flatMap, List.mem_flatMap]
  constructor
  · rintro ⟨condition, hin, hrow⟩
    obtain ⟨hrows, hguid⟩ := (hquery condition hin).mp hrow
    exact ⟨hrows, condition, hin, hguid⟩
  · rintro ⟨hrows, condition, hin, hguid⟩
    exact ⟨condition, hin, (hquery condition hin).mpr ⟨hrows, hguid⟩⟩

/-! ### The rows of one table -/

variable {rows : List Row} {w : PlayerDumpWriter}

/-- The rows of a table that belong to the character, or to what was collected. -/
def selects (db : Database) (guid : Nat) (w : PlayerDumpWriter)
    (table : String × DumpTableType) : List Row :=
  match w.guidsFor table.2 with
  | none => query db table.1 (generateWhereStr (fieldname table.2) guid)
  | some guids => selectSet db table.1 (fieldname table.2) guids.keys.length guids.keys

/-- What is collected from a list of rows. -/
def collectAll (w : PlayerDumpWriter) (type : DumpTableType) (rows : List Row) :
    PlayerDumpWriter :=
  rows.foldl (fun w row => w.collect type row) w

/-- The rows are collected from and dumped. -/
def append (w : PlayerDumpWriter) (table : String × DumpTableType) (rows : List Row) :
    PlayerDumpWriter :=
  { w.collectAll table.2 rows with dump := w.dump ++ rows.map fun row => ⟨table.1, row⟩ }

theorem collect_dump (w : PlayerDumpWriter) (type : DumpTableType) (row : Row)
    (dump : List DumpRow) :
    collect { w with dump := dump } type row = { w.collect type row with dump := dump } := by
  cases type <;> rfl

theorem collectAll_dump (type : DumpTableType) (rows : List Row) (w : PlayerDumpWriter)
    (dump : List DumpRow) :
    collectAll { w with dump := dump } type rows =
      { w.collectAll type rows with dump := dump } := by
  rw [collectAll, collectAll]
  induction rows generalizing w with
  | nil => rfl
  | cons row rest ih => rw [List.foldl_cons, List.foldl_cons, collect_dump, ih]

theorem collectAll_cons (w : PlayerDumpWriter) (type : DumpTableType) (row : Row)
    (rest : List Row) :
    w.collectAll type (row :: rest) = (w.collect type row).collectAll type rest := rfl

theorem collectAll_append (w : PlayerDumpWriter) (type : DumpTableType) (rows rows' : List Row) :
    w.collectAll type (rows ++ rows') = (w.collectAll type rows).collectAll type rows' := by
  rw [collectAll, List.foldl_append, collectAll, collectAll]

theorem dump_collect (w : PlayerDumpWriter) (type : DumpTableType) (row : Row) :
    (w.collect type row).dump = w.dump := by
  cases type <;> rfl

theorem append_nil (w : PlayerDumpWriter) (table : String × DumpTableType) :
    w.append table [] = w := by
  rw [append, collectAll, List.foldl_nil, List.map_nil, List.append_nil]

theorem append_cons (w : PlayerDumpWriter) (table : String × DumpTableType) (row : Row)
    (rest : List Row) :
    append { w.collect table.2 row with dump := w.dump ++ [⟨table.1, row⟩] } table rest =
      w.append table (row :: rest) := by
  have hcollect :=
    collectAll_dump table.2 rest (w.collect table.2 row) (w.dump ++ [⟨table.1, row⟩])
  dsimp only [append]
  rw [collectAll_cons, List.map_cons, hcollect, List.append_assoc, List.singleton_append]

theorem append_append (w : PlayerDumpWriter) (table : String × DumpTableType)
    (rows rows' : List Row) :
    (w.append table rows).append table rows' = w.append table (rows ++ rows') := by
  rw [append, append, append, collectAll_dump table.2 rows' (w.collectAll table.2 rows),
    collectAll_append, List.map_append, ← List.append_assoc]

theorem dumpRows_eq (table : String × DumpTableType)
    (hrefuses : ∀ row ∈ rows, refuses table.2 row = false) (w : PlayerDumpWriter) :
    dumpRows table.1 table.2 rows w = .ok (w.append table rows) := by
  induction rows generalizing w with
  | nil => rw [dumpRows, append_nil]
  | cons row rest ih =>
    have hhead : ¬ refuses table.2 row = true :=
      Bool.eq_false_iff.mp (hrefuses row List.mem_cons_self)
    rw [dumpRows, if_neg hhead, ← append_cons, ← dump_collect w table.2 row]
    exact ih (fun row hin => hrefuses row (List.mem_cons_of_mem _ hin)) _

/-- The rows before the first that is refused are dumped. -/
theorem mem_rowsOf_dumpRows {type : DumpTableType} {r : DumpRow}
    (hin : r ∈ rowsOf (dumpRows table type rows w)) : r ∈ w.dump ∨ r.table = table := by
  induction rows generalizing w with
  | nil => exact Or.inl hin
  | cons row rest ih =>
    rw [dumpRows] at hin
    split at hin
    · exact Or.inl hin
    · rcases ih hin with hdump | htable
      · rw [List.mem_append, dump_collect, List.mem_singleton] at hdump
        rcases hdump with hbefore | rfl
        · exact Or.inl hbefore
        · exact Or.inr rfl
      · exact Or.inr htable

theorem dumpRows_error (table : String) {type : DumpTableType}
    (hrefuses : ∃ row ∈ rows, refuses type row = true) (w : PlayerDumpWriter) :
    ∃ w', dumpRows table type rows w = .error w' := by
  induction rows generalizing w with
  | nil =>
    obtain ⟨row, hin, -⟩ := hrefuses
    cases hin
  | cons row rest ih =>
    rw [dumpRows]
    split
    · exact ⟨w, rfl⟩
    · next hhead =>
        obtain ⟨row', hin, hrow'⟩ := hrefuses
        rcases List.mem_cons.mp hin with rfl | hrest
        · exact absurd hrow' hhead
        · exact ih ⟨row', hrest, hrow'⟩ _

theorem dumpSet_eq (table : String × DumpTableType) (field : String)
    (hrefuses : ∀ row, refuses table.2 row = false) (fuel : Nat) (guids : List Nat)
    (w : PlayerDumpWriter) :
    dumpSet db table.1 field table.2 fuel guids w =
      .ok (w.append table (selectSet db table.1 field fuel guids)) := by
  induction fuel generalizing guids w with
  | zero => exact congrArg Except.ok (append_nil w table).symm
  | succ fuel ih =>
    rw [dumpSet, selectSet, answered, conditionsFor]
    dsimp only
    generalize generateWhereSet field guids = next
    obtain ⟨condition, behind⟩ := next
    dsimp only
    rw [dumpRows_eq table fun row _ => hrefuses row, List.takeWhile_cons]
    cases (query db table.1 condition).isEmpty with
    | true => exact congrArg Except.ok (append_nil w table).symm
    | false =>
      rw [if_neg Bool.false_ne_true, Bool.not_false, if_pos rfl, List.flatMap_cons]
      dsimp only
      cases behind.isEmpty with
      | true =>
        rw [if_pos rfl, if_pos rfl, List.takeWhile_nil, List.flatMap_nil, List.append_nil]
      | false =>
        rw [if_neg Bool.false_ne_true, if_neg Bool.false_ne_true, ih, append_append]
        rfl

theorem refuses_eq_false {type : DumpTableType} (hne : type ≠ .character) (row : Row) :
    refuses type row = false := by
  rw [refuses, beq_eq_false_iff_ne.mpr hne, Bool.false_and]

theorem dumpTable_eq {table : String × DumpTableType} (hne : table.2 ≠ .character)
    (w : PlayerDumpWriter) :
    w.dumpTable db guid table = .ok (w.append table (selects db guid w table)) := by
  rw [dumpTable, selects]
  cases hset : w.guidsFor table.2 with
  | none => exact dumpRows_eq table (fun row _ => refuses_eq_false hne row) w
  | some guids =>
    dsimp only
    cases hempty : guids.keys.isEmpty with
    | true =>
      rw [if_pos rfl, List.isEmpty_iff.mp hempty]
      exact congrArg Except.ok (append_nil w table).symm
    | false =>
      rw [if_neg Bool.false_ne_true]
      exact dumpSet_eq table _ (refuses_eq_false hne) _ _ w

/-! ### The run over the tables -/

/-- The tables one after the other, when nothing is refused. -/
def writes (db : Database) (guid : Nat) (tables : List (String × DumpTableType))
    (w : PlayerDumpWriter) : PlayerDumpWriter :=
  tables.foldl (fun w table => w.append table (selects db guid w table)) w

theorem writes_append (tables tables' : List (String × DumpTableType)) (w : PlayerDumpWriter) :
    writes db guid (tables ++ tables') w = writes db guid tables' (writes db guid tables w) :=
  List.foldl_append

theorem writes_cons (table : String × DumpTableType) (rest : List (String × DumpTableType))
    (w : PlayerDumpWriter) :
    writes db guid (table :: rest) w =
      writes db guid rest (w.append table (selects db guid w table)) := rfl

/-- The writer refuses the character. -/
def Refused (db : Database) (guid : Nat) : Prop :=
  ∃ row ∈ query db "characters" (generateWhereStr "guid" guid), refuses .character row = true

theorem dumpAll_eq {tables : List (String × DumpTableType)}
    (hne : ∀ table ∈ tables, table.2 ≠ .character) (w : PlayerDumpWriter) :
    dumpAll db guid tables w = .ok (writes db guid tables w) := by
  induction tables generalizing w with
  | nil => rfl
  | cons table rest ih =>
    rw [dumpAll, dumpTable_eq (hne table List.mem_cons_self), writes_cons]
    exact ih (fun table hin => hne table (List.mem_cons_of_mem _ hin)) _

theorem dumpAll_of_ok {table : String × DumpTableType} {w' : PlayerDumpWriter}
    (h : w.dumpTable db guid table = .ok w') (rest : List (String × DumpTableType)) :
    dumpAll db guid (table :: rest) w = dumpAll db guid rest w' := by
  rw [dumpAll, h]

theorem dumpAll_of_error {table : String × DumpTableType} {w' : PlayerDumpWriter}
    (h : w.dumpTable db guid table = .error w') (rest : List (String × DumpTableType)) :
    dumpAll db guid (table :: rest) w = .error w' := by
  rw [dumpAll, h]

theorem dumpTables_eq : dumpTables = ("characters", .character) :: dumpTables.tail := rfl

theorem getDump_eq (hrefused : ¬ Refused db guid) :
    getDump db guid = .ok (writes db guid dumpTables start) := by
  have hrows : ∀ row ∈ query db "characters" (generateWhereStr "guid" guid),
      refuses .character row = false := by
    intro row hin
    exact Bool.eq_false_iff.mpr fun hrefuses => hrefused ⟨row, hin, hrefuses⟩
  have hfirst : start.dumpTable db guid ("characters", .character) =
      .ok (start.append ("characters", .character)
        (selects db guid start ("characters", .character))) :=
    dumpRows_eq ("characters", .character) hrows start
  have hne : ∀ table ∈ dumpTables.tail, table.2 ≠ .character := by decide
  rw [getDump, dumpTables_eq, dumpAll_of_ok hfirst, dumpAll_eq hne, writes_cons]

/-- The dump of a refused character has rows of the first table only. -/
theorem table_of_refused (hrefused : Refused db guid) {r : DumpRow}
    (hin : r ∈ rowsOf (getDump db guid)) : r.table = "characters" := by
  obtain ⟨w, hw⟩ := dumpRows_error "characters" hrefused start
  have hfirst : start.dumpTable db guid ("characters", .character) = .error w := hw
  rw [getDump, dumpTables_eq, dumpAll_of_error hfirst, ← hfirst] at hin
  exact (mem_rowsOf_dumpRows hin).resolve_left List.not_mem_nil

theorem mem_dump_append {table : String × DumpTableType} :
    ⟨table.1, row⟩ ∈ (w.append table rows).dump ↔ ⟨table.1, row⟩ ∈ w.dump ∨ row ∈ rows := by
  rw [append, List.mem_append, List.mem_map]
  refine or_congr_right ⟨?_, fun hin => ⟨row, hin, rfl⟩⟩
  rintro ⟨row', hin, heq⟩
  cases heq
  exact hin

theorem mem_dump_writes_of_ne {tables : List (String × DumpTableType)} {r : DumpRow}
    (hne : ∀ table ∈ tables, table.1 ≠ r.table) (w : PlayerDumpWriter) :
    r ∈ (writes db guid tables w).dump ↔ r ∈ w.dump := by
  induction tables generalizing w with
  | nil => rfl
  | cons table rest ih =>
    rw [writes_cons, ih (fun table hin => hne table (List.mem_cons_of_mem _ hin)), append,
      List.mem_append, List.mem_map]
    refine or_iff_left ?_
    rintro ⟨row, -, rfl⟩
    exact hne table List.mem_cons_self rfl

theorem nodup_dumpTables : (dumpTables.map Prod.fst).Nodup := by decide +kernel

/-- The rows of a table in the dump are those it selects after the tables before it. -/
theorem mem_rowsOf_getDump (hrefused : ¬ Refused db guid) {k : Nat}
    {table : String × DumpTableType} (hk : dumpTables[k]? = some table) {row : Row} :
    ⟨table.1, row⟩ ∈ rowsOf (getDump db guid) ↔
      row ∈ selects db guid (writes db guid (dumpTables.take k) start) table := by
  obtain ⟨hlt, hget⟩ := List.getElem?_eq_some_iff.mp hk
  have hsplit : dumpTables = dumpTables.take k ++ table :: dumpTables.drop (k + 1) := by
    rw [← hget, ← List.drop_eq_getElem_cons hlt, List.take_append_drop]
  have hnodup := nodup_dumpTables
  rw [hsplit, List.map_append, List.map_cons] at hnodup
  have hmiddle := List.nodup_middle.mp hnodup
  rw [← List.map_append, List.nodup_cons] at hmiddle
  have hne : ∀ table' ∈ dumpTables.take k ++ dumpTables.drop (k + 1), table'.1 ≠ table.1 :=
    fun table' hin heq => hmiddle.1 (heq ▸ List.mem_map_of_mem hin)
  have hbefore : ⟨table.1, row⟩ ∉ (writes db guid (dumpTables.take k) start).dump := by
    rw [mem_dump_writes_of_ne fun table' hin => hne table' (List.mem_append_left _ hin)]
    exact List.not_mem_nil
  calc ⟨table.1, row⟩ ∈ rowsOf (getDump db guid)
      ↔ ⟨table.1, row⟩ ∈ (writes db guid
          (dumpTables.take k ++ table :: dumpTables.drop (k + 1)) start).dump := by
        rw [getDump_eq hrefused, ← hsplit, rowsOf]
    _ ↔ _ := by
        rw [writes_append, writes_cons,
          mem_dump_writes_of_ne fun table' hin => hne table' (List.mem_append_right _ hin),
          mem_dump_append, or_iff_right hbefore]

/-! ### What is collected -/

def storeGUIDs (guids : GUIDs) (column : Nat) (rows : List Row) : GUIDs :=
  rows.foldl (fun guids row => storeGUID guids (valueAt row column)) guids

/-- The guids of the items that the character carries. -/
def carried (db : Database) (guid : Nat) : GUIDs :=
  storeGUIDs OrderedMap.empty 3
    (query db "character_inventory" (generateWhereStr "guid" guid))

/-- The ids of the mails to the character. -/
def received (db : Database) (guid : Nat) : GUIDs :=
  storeGUIDs OrderedMap.empty 0 (query db "mail" (generateWhereStr "receiver" guid))

/-- The ids of the pets of the character, with those that have a declined name only. -/
def owned (db : Database) (guid : Nat) : GUIDs :=
  storeGUIDs
    (storeGUIDs OrderedMap.empty 0 (query db "character_pet" (generateWhereStr "owner" guid)))
    0 (query db "character_pet_declinedname" (generateWhereStr "owner" guid))

theorem items_collectAll_inventory (w : PlayerDumpWriter) (rows : List Row) :
    (w.collectAll .inventory rows).items = storeGUIDs w.items 3 rows := by
  rw [collectAll, storeGUIDs]
  induction rows generalizing w with
  | nil => rfl
  | cons row rest ih => exact ih (w.collect .inventory row)

theorem pets_collectAll_pet (w : PlayerDumpWriter) (rows : List Row) :
    (w.collectAll .pet rows).pets = storeGUIDs w.pets 0 rows := by
  rw [collectAll, storeGUIDs]
  induction rows generalizing w with
  | nil => rfl
  | cons row rest ih => exact ih (w.collect .pet row)

theorem mails_collectAll_mail (w : PlayerDumpWriter) (rows : List Row) :
    (w.collectAll .mail rows).mails = storeGUIDs w.mails 0 rows := by
  rw [collectAll, storeGUIDs]
  induction rows generalizing w with
  | nil => rfl
  | cons row rest ih => exact ih (w.collect .mail row)

theorem items_append (w : PlayerDumpWriter) (table : String × DumpTableType) (rows : List Row) :
    (w.append table rows).items = (w.collectAll table.2 rows).items := rfl

theorem pets_append (w : PlayerDumpWriter) (table : String × DumpTableType) (rows : List Row) :
    (w.append table rows).pets = (w.collectAll table.2 rows).pets := rfl

theorem mails_append (w : PlayerDumpWriter) (table : String × DumpTableType) (rows : List Row) :
    (w.append table rows).mails = (w.collectAll table.2 rows).mails := rfl

/-- A list of tables of which none collects into a set leaves it. -/
theorem writes_of_collect {α : Type*} (f : PlayerDumpWriter → α)
    {tables : List (String × DumpTableType)}
    (hdump : ∀ w dump, f { w with dump := dump } = f w)
    (hcollect : ∀ table ∈ tables, ∀ w row, f (collect w table.2 row) = f w)
    (w : PlayerDumpWriter) : f (writes db guid tables w) = f w := by
  have hrows : ∀ table ∈ tables, ∀ (rows : List Row) (w : PlayerDumpWriter),
      f (w.collectAll table.2 rows) = f w := by
    intro table hin rows
    induction rows with
    | nil => intro w; rfl
    | cons row rest ih => intro w; rw [collectAll_cons, ih, hcollect table hin]
  induction tables generalizing w with
  | nil => rfl
  | cons table rest ih =>
    rw [writes_cons, ih (fun table hin => hcollect table (List.mem_cons_of_mem _ hin)) _
      fun table hin => hrows table (List.mem_cons_of_mem _ hin)]
    exact (hdump _ _).trans (hrows table List.mem_cons_self _ w)

theorem items_collect {type : DumpTableType} (h : type ≠ .inventory ∧ type ≠ .mailItem)
    (w : PlayerDumpWriter) (row : Row) : (w.collect type row).items = w.items := by
  cases type with
  | inventory => exact absurd rfl h.1
  | mailItem => exact absurd rfl h.2
  | _ => rfl

theorem pets_collect {type : DumpTableType} (h : type ≠ .pet) (w : PlayerDumpWriter)
    (row : Row) : (w.collect type row).pets = w.pets := by
  cases type with
  | pet => exact absurd rfl h
  | _ => rfl

theorem mails_collect {type : DumpTableType} (h : type ≠ .mail) (w : PlayerDumpWriter)
    (row : Row) : (w.collect type row).mails = w.mails := by
  cases type with
  | mail => exact absurd rfl h
  | _ => rfl

theorem items_writes {tables : List (String × DumpTableType)}
    (h : ∀ table ∈ tables, table.2 ≠ .inventory ∧ table.2 ≠ .mailItem) (w : PlayerDumpWriter) :
    (writes db guid tables w).items = w.items :=
  writes_of_collect PlayerDumpWriter.items (fun _ _ => rfl)
    (fun table hin => items_collect (h table hin)) w

theorem pets_writes {tables : List (String × DumpTableType)}
    (h : ∀ table ∈ tables, table.2 ≠ .pet) (w : PlayerDumpWriter) :
    (writes db guid tables w).pets = w.pets :=
  writes_of_collect PlayerDumpWriter.pets (fun _ _ => rfl)
    (fun table hin => pets_collect (h table hin)) w

theorem mails_writes {tables : List (String × DumpTableType)}
    (h : ∀ table ∈ tables, table.2 ≠ .mail) (w : PlayerDumpWriter) :
    (writes db guid tables w).mails = w.mails :=
  writes_of_collect PlayerDumpWriter.mails (fun _ _ => rfl)
    (fun table hin => mails_collect (h table hin)) w

/-- No item is known before the inventory. -/
theorem items_before_gifts : (writes db guid (dumpTables.take 10) start).items =
    OrderedMap.empty :=
  items_writes (by decide) start

/-- The items of the inventory are known before the table of the items, those of the mails not. -/
theorem items_before_items : (writes db guid (dumpTables.take 23) start).items =
    carried db guid := by
  have hbefore : (writes db guid (dumpTables.take 13) start).items = OrderedMap.empty :=
    items_writes (by decide) start
  have hsplit : dumpTables.take 23 =
      dumpTables.take 13 ++ ("character_inventory", .inventory) :: (dumpTables.take 23).drop 14 :=
    rfl
  have hselects : ∀ w, selects db guid w ("character_inventory", .inventory) =
      query db "character_inventory" (generateWhereStr "guid" guid) := fun _ => rfl
  rw [hsplit, writes_append, writes_cons, items_writes (by decide), hselects, items_append]
  dsimp only
  rw [items_collectAll_inventory, hbefore, carried]

theorem mails_before_mailItems : (writes db guid (dumpTables.take 25) start).mails =
    received db guid := by
  have hbefore : (writes db guid (dumpTables.take 24) start).mails = OrderedMap.empty :=
    mails_writes (by decide) start
  have hsplit : dumpTables.take 25 = dumpTables.take 24 ++ [("mail", .mail)] := rfl
  have hselects : ∀ w, selects db guid w ("mail", .mail) =
      query db "mail" (generateWhereStr "receiver" guid) := fun _ => rfl
  have hnone : ∀ w, writes db guid [] w = w := fun _ => rfl
  rw [hsplit, writes_append, writes_cons, hnone, hselects, mails_append]
  dsimp only
  rw [mails_collectAll_mail, hbefore, received]

/-- The pets are known before their tables. -/
theorem pets_before_petTables {k : Nat} (hk : 16 ≤ k) :
    (writes db guid (dumpTables.take k) start).pets = owned db guid := by
  have hbefore : (writes db guid (dumpTables.take 14) start).pets = OrderedMap.empty :=
    pets_writes (by decide) start
  have hrest : ∀ table ∈ dumpTables.drop 16, table.2 ≠ .pet := by decide
  have hsplit : dumpTables.take k = dumpTables.take 14 ++ ("character_pet", .pet) ::
      ("character_pet_declinedname", .pet) :: (dumpTables.take k).drop 16 := by
    calc dumpTables.take k
        = (dumpTables.take k).take 16 ++ (dumpTables.take k).drop 16 :=
          (List.take_append_drop 16 _).symm
      _ = dumpTables.take 16 ++ (dumpTables.take k).drop 16 := by
          rw [List.take_take, Nat.min_eq_left hk]
      _ = _ := rfl
  have hdrop : ∀ table ∈ (dumpTables.take k).drop 16, table.2 ≠ .pet := by
    intro table hin
    rw [List.drop_take] at hin
    exact hrest table ((List.take_sublist _ _).subset hin)
  have hselects : ∀ (w : PlayerDumpWriter) (table : String),
      selects db guid w (table, .pet) = query db table (generateWhereStr "owner" guid) :=
    fun _ _ => rfl
  rw [hsplit, writes_append, writes_cons, writes_cons, pets_writes hdrop, hselects, hselects,
    pets_append]
  dsimp only
  rw [pets_collectAll_pet, pets_append]
  dsimp only
  rw [pets_collectAll_pet, hbefore, owned]

/-! ### Closed dumps -/

/-- A row of the inventory or of a mail names the item. -/
def Mentions (rows : List DumpRow) (item : Nat) : Prop :=
  (∃ row, ⟨"character_inventory", row⟩ ∈ rows ∧ valueAt row 3 = item) ∨
    ∃ row, ⟨"mail_items", row⟩ ∈ rows ∧ valueAt row 1 = item

def petTables : List String := ["pet_aura", "pet_spell", "pet_spell_cooldown"]

/-- The rows that the rows of a dump refer to are in the dump. -/
structure Closed (db : Database) (rows : List DumpRow) : Prop where
  items : ∀ item, Mentions rows item → ∀ row ∈ db.rows "item_instance",
    valueAt row 0 = item → ⟨"item_instance", row⟩ ∈ rows
  gifts : ∀ item, Mentions rows item → ∀ row ∈ db.rows "character_gifts",
    valueAt row 1 = item → ⟨"character_gifts", row⟩ ∈ rows
  pets : ∀ pet, ⟨"character_pet", pet⟩ ∈ rows → ∀ table ∈ petTables, ∀ row ∈ db.rows table,
    valueAt row 0 = valueAt pet 0 → ⟨table, row⟩ ∈ rows

/-- The character carries the item, or has it in a mail that a query reaches. -/
def HasItem (db : Database) (guid item : Nat) : Prop :=
  (∃ row ∈ query db "character_inventory" (generateWhereStr "guid" guid),
      valueAt row 3 = item) ∨
    ∃ row ∈ db.rows "mail_items",
      valueAt row 0 ∈ reached db "mail_items" "mail_id" (received db guid) ∧
        valueAt row 1 = item

/-- The items of the character are not wrapped, those with a row are carried and a query reaches
them, and a query reaches the pets in each table that has them. -/
structure Reaches (db : Database) (guid : Nat) : Prop where
  items : ∀ item, HasItem db guid item → ∀ row ∈ db.rows "item_instance",
    valueAt row 0 = item → item ∈ reached db "item_instance" "guid" (carried db guid)
  gifts : ∀ item, HasItem db guid item → ∀ row ∈ db.rows "character_gifts", valueAt row 1 ≠ item
  pets : ∀ pet ∈ query db "character_pet" (generateWhereStr "owner" guid),
    ∀ table ∈ petTables, ∀ row ∈ db.rows table, valueAt row 0 = valueAt pet 0 →
      valueAt pet 0 ∈ reached db table "guid" (owned db guid)

/-- The dump of a refused character refers to nothing. -/
theorem closed_of_refused (hrefused : Refused db guid) :
    Closed db (rowsOf (getDump db guid)) := by
  have hnone : ∀ table row, table ≠ "characters" → ⟨table, row⟩ ∉ rowsOf (getDump db guid) :=
    fun table row hne hin => hne (table_of_refused hrefused hin)
  have hmentions : ∀ item, ¬ Mentions (rowsOf (getDump db guid)) item := by
    rintro item (⟨row, hin, -⟩ | ⟨row, hin, -⟩)
    · exact hnone _ row (by decide) hin
    · exact hnone _ row (by decide) hin
  constructor
  · intro item hitem
    exact absurd hitem (hmentions item)
  · intro item hitem
    exact absurd hitem (hmentions item)
  · intro pet hin
    exact absurd hin (hnone _ pet (by decide))

section

variable (hrefused : ¬ Refused db guid)

include hrefused

theorem mem_inventory :
    ⟨"character_inventory", row⟩ ∈ rowsOf (getDump db guid) ↔
      row ∈ query db "character_inventory" (generateWhereStr "guid" guid) :=
  @mem_rowsOf_getDump db guid hrefused 13 ("character_inventory", .inventory) rfl row

theorem mem_pet :
    ⟨"character_pet", row⟩ ∈ rowsOf (getDump db guid) ↔
      row ∈ query db "character_pet" (generateWhereStr "owner" guid) :=
  @mem_rowsOf_getDump db guid hrefused 14 ("character_pet", .pet) rfl row

theorem mem_gifts : ⟨"character_gifts", row⟩ ∉ rowsOf (getDump db guid) := by
  rw [@mem_rowsOf_getDump db guid hrefused 10 ("character_gifts", .itemGift) rfl row, selects,
    guidsFor, items_before_gifts]
  exact List.not_mem_nil

theorem mem_items :
    ⟨"item_instance", row⟩ ∈ rowsOf (getDump db guid) ↔
      row ∈ db.rows "item_instance" ∧
        valueAt row 0 ∈ reached db "item_instance" "guid" (carried db guid) := by
  rw [@mem_rowsOf_getDump db guid hrefused 23 ("item_instance", .item) rfl row, selects,
    guidsFor, items_before_items]
  exact mem_selectSet

theorem mem_mailItems :
    ⟨"mail_items", row⟩ ∈ rowsOf (getDump db guid) ↔
      row ∈ db.rows "mail_items" ∧
        valueAt row 0 ∈ reached db "mail_items" "mail_id" (received db guid) := by
  rw [@mem_rowsOf_getDump db guid hrefused 25 ("mail_items", .mailItem) rfl row, selects,
    guidsFor, mails_before_mailItems]
  exact mem_selectSet

theorem mem_petTable (htable : table ∈ petTables) :
    ⟨table, row⟩ ∈ rowsOf (getDump db guid) ↔
      row ∈ db.rows table ∧ valueAt row 0 ∈ reached db table "guid" (owned db guid) := by
  have hat : ∃ k, 16 ≤ k ∧ dumpTables[k]? = some (table, .petTable) := by
    rw [petTables, List.mem_cons, List.mem_cons, List.mem_singleton] at htable
    rcases htable with rfl | rfl | rfl
    · exact ⟨26, by omega, rfl⟩
    · exact ⟨27, by omega, rfl⟩
    · exact ⟨28, by omega, rfl⟩
  have hcolumn : columnOf table "guid" = 0 := by
    rw [petTables, List.mem_cons, List.mem_cons, List.mem_singleton] at htable
    rcases htable with rfl | rfl | rfl
    · decide
    · decide
    · decide
  obtain ⟨k, hle, hk⟩ := hat
  rw [@mem_rowsOf_getDump db guid hrefused k (table, .petTable) hk row, selects, guidsFor,
    pets_before_petTables hle]
  dsimp only [fieldname]
  rw [mem_selectSet, hcolumn]

/-- The items that the dump mentions are those that the character has. -/
theorem mentions_iff {item : Nat} :
    Mentions (rowsOf (getDump db guid)) item ↔ HasItem db guid item := by
  apply or_congr
  · refine exists_congr fun row => ?_
    rw [mem_inventory hrefused]
  · refine exists_congr fun row => ?_
    rw [mem_mailItems hrefused, and_assoc]

/-- The dump of a character that is not refused. -/
theorem closed_iff_reaches : Closed db (rowsOf (getDump db guid)) ↔ Reaches db guid := by
  constructor
  · intro h
    constructor
    · intro item hitem row hin hrow
      have hdumped := h.items item ((mentions_iff hrefused).mpr hitem) row hin hrow
      exact hrow ▸ ((mem_items hrefused).mp hdumped).2
    · intro item hitem row hin hrow
      exact mem_gifts hrefused
        (h.gifts item ((mentions_iff hrefused).mpr hitem) row hin hrow)
    · intro pet hpet table htable row hin hrow
      have hdumped := h.pets pet ((mem_pet hrefused).mpr hpet) table htable row hin hrow
      exact hrow ▸ ((mem_petTable hrefused htable).mp hdumped).2
  · intro h
    constructor
    · intro item hitem row hin hrow
      have hreached := h.items item ((mentions_iff hrefused).mp hitem) row hin hrow
      exact (mem_items hrefused).mpr ⟨hin, hrow.symm ▸ hreached⟩
    · intro item hitem row hin hrow
      exact absurd hrow (h.gifts item ((mentions_iff hrefused).mp hitem) row hin)
    · intro pet hpet table htable row hin hrow
      have hreached := h.pets pet ((mem_pet hrefused).mp hpet) table htable row hin hrow
      exact (mem_petTable hrefused htable).mpr ⟨hin, hrow.symm ▸ hreached⟩

end

/-- A dump is closed when the character is refused, or when its items are not wrapped, come from
the inventory, and no query before those for its items and pets is without a result. -/
theorem closed_getDump_iff (db : Database) (guid : Nat) :
    Closed db (rowsOf (getDump db guid)) ↔ Refused db guid ∨ Reaches db guid := by
  by_cases hrefused : Refused db guid
  · exact iff_of_true (closed_of_refused hrefused) (Or.inl hrefused)
  · rw [closed_iff_reaches hrefused, or_iff_right hrefused]

/-! ### A mail with an item -/

/-- Player 1 has mail 7 with item 9. -/
def mailed : Database where
  rows table :=
    if table = "characters" then ["1" :: List.replicate 67 "0"]
    else if table = "mail" then
      [["7", "0", "41", "0", "2", "1", "hello", "", "1", "99", "9", "0", "0", "0"]]
    else if table = "mail_items" then [["7", "9", "1"]]
    else if table = "item_instance" then
      [["9", "25", "1", "0", "0", "1", "0", "", "0", "", "0", "20", "0", ""]]
    else []

theorem not_refused_mailed : ¬ Refused mailed 1 := by
  unfold Refused
  decide +kernel

/-- The item in the mail has a row that the dump leaves out. -/
theorem mailedItem_not_dumped : ¬ Closed mailed (rowsOf (getDump mailed 1)) := by
  rw [closed_iff_reaches not_refused_mailed]
  intro h
  have hitem : HasItem mailed 1 9 :=
    Or.inr ⟨["7", "9", "1"], by decide +kernel, by decide +kernel, by decide +kernel⟩
  have hreached := h.items 9 hitem
    ["9", "25", "1", "0", "0", "1", "0", "", "0", "", "0", "20", "0", ""]
    (by decide +kernel) (by decide +kernel)
  -- he carries nothing, so no query is for the item
  revert hreached
  decide +kernel

end PlayerDumpWriter

end Cataclysm.Tools
