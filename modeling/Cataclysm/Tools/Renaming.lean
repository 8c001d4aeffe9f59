import Cataclysm.Tools.LoadDump

/-!
# What loading a dump changes

A load renames consistently when one injective renaming of the item guids, one of the mail ids and
one of the pet ids account for all references, the new ids are fresh, and besides them only the
columns of the owner, the account, the name, the flags at login and the deletion change. The
columns are those of the database scripts, where the deletion has the columns 60 to 62, and the
source overwrites 64 to 66.

## Implementation notes

The values of a dumped row are texts without quotes, as the line has them. One that ends in a
backslash hides the quote behind it from the reader, so that the columns behind it are missed by one
more. The values of the statements are compared as texts, so a value and a null differ.
-/

namespace Cataclysm.Tools

/-! ### Consistent renaming -/

/-- What loading does to the value of a column. -/
inductive ColumnKind
  | kept
  | documented
  | item
  | itemOrZero
  | mail
  | pet
  deriving DecidableEq

/-- What a column of the database scripts holds. -/
def columnKind (table : String) (column : Nat) : ColumnKind :=
  if table = "characters" then
    -- guid, account, name, at_login, deleteInfos_Account, deleteInfos_Name, deleteDate
    if column ∈ [0, 1, 2, 36, 59, 60, 61] then .documented else .kept
  else if table = "character_equipmentsets" then
    -- guid, setguid and the items of the set
    if column ∈ [0, 1] then .documented
    else if 6 ≤ column ∧ column ≤ 24 then .itemOrZero
    else .kept
  else if table = "character_inventory" then
    if column = 0 then .documented
    else if column = 1 then .itemOrZero
    else if column = 3 then .item
    else .kept
  else if table = "mail" then
    if column = 0 then .mail else if column = 5 then .documented else .kept
  else if table = "mail_items" then
    if column = 0 then .mail
    else if column = 1 then .item
    else if column = 2 then .documented
    else .kept
  else if table = "item_instance" then
    if column = 0 then .item else if column = 2 then .documented else .kept
  else if table = "character_gifts" then
    if column = 0 then .documented else if column = 1 then .item else .kept
  else if table = "character_pet" then
    if column = 0 then .pet else if column = 2 then .documented else .kept
  else if table = "character_pet_declinedname" then
    if column = 0 then .pet else if column = 1 then .documented else .kept
  else if table ∈ ["pet_aura", "pet_spell", "pet_spell_cooldown"] then
    if column = 0 then .pet else .kept
  else if column = 0 then .documented
  else .kept

/-- The table of a line. -/
def tableOf (line : Line) : String := String.ofList (gettablename line)

/-- The number in a quoted value. -/
def numberOf (value : Line) : Nat := atoi (value.drop 1)

/-- The renamings of the ids. -/
structure Renaming where
  item : Nat → Nat
  mail : Nat → Nat
  pet : Nat → Nat

/-- What a value of a column becomes. -/
def Becomes (ρ : Renaming) (kind : ColumnKind) (old new : Line) : Prop :=
  match kind with
  | .kept => new = old
  | .documented => True
  | .item => new = fieldText (some (unsigned (ρ.item (numberOf old))))
  | .itemOrZero =>
    if numberOf old = 0 then new = old
    else new = fieldText (some (unsigned (ρ.item (numberOf old))))
  | .mail => new = fieldText (some (unsigned (ρ.mail (numberOf old))))
  | .pet => new = fieldText (some (unsigned (ρ.pet (numberOf old))))

/-- The ids in the columns of a kind. -/
def Occurs (dump : List Line) (kind : ColumnKind) (id : Nat) : Prop :=
  ∃ line ∈ dump, ∃ column value, (valuesOf line)[column]? = some value ∧
    columnKind (tableOf line) column = kind ∧ numberOf value = id

def ItemOccurs (dump : List Line) (id : Nat) : Prop :=
  Occurs dump .item id ∨ (Occurs dump .itemOrZero id ∧ id ≠ 0)

/-- One renaming accounts for every row of the dump. -/
structure Renames (ρ : Renaming) (dump : List Line) (before : ObjectMgr) (loaded : Loaded) :
    Prop where
  rows : loaded.trans.length = dump.length
  widths : ∀ (i : Nat) (line new : Line), dump[i]? = some line → loaded.trans[i]? = some new →
    (valuesOf new).length = (valuesOf line).length
  values : ∀ (i column : Nat) (line new value value' : Line), dump[i]? = some line →
    loaded.trans[i]? = some new → (valuesOf line)[column]? = some value →
    (valuesOf new)[column]? = some value' →
    Becomes ρ (columnKind (tableOf line) column) value value'
  items : Set.InjOn ρ.item {id | ItemOccurs dump id}
  mails : Set.InjOn ρ.mail {id | Occurs dump .mail id}
  pets : Set.InjOn ρ.pet {id | Occurs dump .pet id}
  freshItems : ∀ id, ItemOccurs dump id →
    before.hiItemGuid ≤ ρ.item id ∧ ρ.item id < loaded.objectMgr.hiItemGuid
  freshMails : ∀ id, Occurs dump .mail id →
    before.mailId ≤ ρ.mail id ∧ ρ.mail id < loaded.objectMgr.mailId
  freshPets : ∀ id, Occurs dump .pet id →
    before.hiPetNumber < ρ.pet id ∧ ρ.pet id ≤ loaded.objectMgr.hiPetNumber

/-- Loading a dump renames consistently. -/
def RenamesConsistently (dump : List Line) (before : ObjectMgr) (loaded : Loaded) : Prop :=
  ∃ ρ, Renames ρ dump before loaded

/-! ### Well-formed dumps -/

def columnsOf (row : Row) : List Line := row.map String.toList

/-- A dumped row: a row of one of the tables, without quotes. -/
structure WellFormedRow (r : DumpRow) : Prop where
  table : r.table ∈ dumpTables.map Prod.fst
  clean : ∀ value ∈ columnsOf r.row, Clean value
  columns : r.row ≠ []

/-- The lines are those of a dump: rows of which the first is the character, and notices. -/
structure WellFormed (lines : List Line) (character : Row) (rest : List DumpRow) : Prop where
  rows : lines.filter (fun line => !PlayerDumpReader.skips line) =
    renderRow "characters" (columnsOf character) ::
      rest.map fun r => renderRow r.table (columnsOf r.row)
  characterColumns : character.length = 68
  characterClean : ∀ value ∈ columnsOf character, Clean value
  restRows : ∀ r ∈ rest, WellFormedRow r

/-- The lines with the rows. -/
def rowLines (lines : List Line) : List Line :=
  lines.filter fun line => !PlayerDumpReader.skips line

/-! ### The statement of the character -/

variable {row : List Line}

theorem gettablename_renderRow {table : String} (htable : '`' ∉ table.toList) (hne : row ≠ []) :
    gettablename (renderRow table row) = table.toList := by
  cases row with
  | nil => exact absurd rfl hne
  | cons value rest =>
    have htext : renderRow table (value :: rest) = "INSERT INTO `".toList ++ table.toList ++
        '`' :: (" VALUES ('".toList ++ value ++ behind rest) := by
      have hquote : "` ".toList ++ "VALUES ('".toList = '`' :: " VALUES ('".toList := rfl
      rw [renderRow, lineOf_eq, opening, head_eq, ahead, List.flatMap_nil, List.append_nil,
        List.append_assoc _ "` ".toList, hquote]
      simp only [List.append_assoc, List.cons_append]
    have hlength : "INSERT INTO `".toList.length = 13 := rfl
    have hfind := @findChar_append "INSERT INTO `".toList table.toList
      (" VALUES ('".toList ++ value ++ behind rest) '`' htable
    rw [hlength] at hfind
    rw [gettablename, htext, hfind]
    dsimp only
    rw [List.append_assoc, ← hlength, List.drop_left, Nat.add_sub_cancel_left, List.take_left]

theorem clean_unsigned (n : Nat) : Clean (unsigned n) := by
  have hdigit : ∀ c ∈ unsigned n, c.isDigit = true := by
    intro c hin
    rw [unsigned, Nat.toString_eq_repr, Nat.toList_repr] at hin
    exact Nat.isDigit_of_mem_toDigits (by decide) (by decide) hin
  exact fun hin => absurd (hdigit _ hin) (by decide)

/-- A name that can be used has no quotes. -/
def ChecksNames (server : Server) : Prop :=
  ∀ name, server.checkPlayerName name = true → Clean name

theorem clean_set (hrow : ∀ v ∈ row, Clean v) {value : Line} (hvalue : Clean value) (n : Nat) :
    ∀ v ∈ row.set n value, Clean v := by
  intro v hin
  rcases List.mem_or_eq_of_mem_set hin with hmem | rfl
  · exact hrow v hmem
  · exact hvalue

instance (value : Line) : Decidable (Clean value) := inferInstanceAs (Decidable (_ ∉ _))

theorem clean_null : Clean "NULL".toList := by decide

namespace PlayerDumpReader

variable {r : PlayerDumpReader} {trans : List Line}

/-- The line of a row of clean values. -/
def IsRow (table : String) (width : Nat) (line : Line) : Prop :=
  ∃ row : List Line, line = renderRow table row ∧ row.length = width ∧ ∀ v ∈ row, Clean v

section Rewriting

variable {r' : PlayerDumpReader} {table : String} {width n : Nat} {line line' value : Line}

/-- The line stays one of the table, and a value of the column or of a later one is replaced. -/
theorem IsRow.changenth_spec (h : IsRow table (width + 1) line) (htable : 'V' ∉ table.toList)
    (hvalue : Clean value) (hchange : changenth line (n + 1) value false false = some line') :
    ∃ row column, line' = renderRow table row ∧ row.length = width + 1 ∧ (∀ v ∈ row, Clean v) ∧
      n ≤ column ∧ row[column]? = some value := by
  obtain ⟨row, rfl, hlength, hrow⟩ := h
  have hne : row ≠ [] := by
    rintro rfl
    cases hlength
  obtain ⟨column, hle, hlt, rfl⟩ := changenth_renderRow htable hrow hne hchange
  refine ⟨row.set column value, column, rfl, List.length_set.trans hlength,
    clean_set hrow hvalue column, hle, List.getElem?_set_self hlt⟩

theorem IsRow.of_changenth (h : IsRow table (width + 1) line) (htable : 'V' ∉ table.toList)
    (hvalue : Clean value) (hchange : changenth line (n + 1) value false false = some line') :
    IsRow table (width + 1) line' := by
  obtain ⟨row, -, hline, hlength, hrow, -⟩ := h.changenth_spec htable hvalue hchange
  exact ⟨row, hline, hlength, hrow⟩

theorem IsRow.of_changeName (h : IsRow table (width + 1) line) (htable : 'V' ∉ table.toList)
    {server : Server} (hchange : changeName server r line = some (r', line'))
    (hname : Clean r.name) : IsRow table (width + 1) line' := by
  rw [changeName] at hchange
  dsimp only at hchange
  split at hchange
  · split at hchange
    · obtain ⟨changed, hchanged, heq⟩ := Option.map_eq_some_iff.mp hchange
      cases heq
      exact h.of_changenth htable (clean_unsigned _) hchanged
    · cases hchange
      exact h
  · obtain ⟨changed, hchanged, heq⟩ := Option.map_eq_some_iff.mp hchange
    cases heq
    exact h.of_changenth htable hname hchanged

/-- The row of the character is rewritten, and its 66th column or a later one becomes a null. -/
theorem IsRow.loadCharacter_spec (h : IsRow table (width + 1) line) (htable : 'V' ∉ table.toList)
    {server : Server} (hguid : Clean r.newguid) (haccount : Clean r.chraccount)
    (hname : Clean r.name) (hload : loadCharacter server r line = some (r', line')) :
    ∃ row column, line' = renderRow table row ∧ row.length = width + 1 ∧ (∀ v ∈ row, Clean v) ∧
      65 ≤ column ∧ row[column]? = some "NULL".toList := by
  obtain ⟨line₁, hline₁, hload⟩ := Option.bind_eq_some_iff.mp hload
  obtain ⟨line₂, hline₂, hload⟩ := Option.bind_eq_some_iff.mp hload
  obtain ⟨⟨r₃, line₃⟩, hline₃, hload⟩ := Option.bind_eq_some_iff.mp hload
  obtain ⟨line₄, hline₄, hload⟩ := Option.bind_eq_some_iff.mp hload
  obtain ⟨line₅, hline₅, hload⟩ := Option.bind_eq_some_iff.mp hload
  obtain ⟨line₆, hline₆, hload⟩ := Option.bind_eq_some_iff.mp hload
  cases hload
  have hrow₁ := h.of_changenth htable hguid hline₁
  have hrow₂ := hrow₁.of_changenth htable haccount hline₂
  have hrow₃ := hrow₂.of_changeName htable hline₃ hname
  have hrow₄ := hrow₃.of_changenth htable clean_null hline₄
  have hrow₅ := hrow₄.of_changenth htable clean_null hline₅
  exact hrow₅.changenth_spec htable clean_null hline₆

end Rewriting

/-- A row is changed without a statement. -/
def Keeps (trans : List Line) (result : Option (PlayerDumpReader × Line)) : Prop :=
  ∀ p, result = some p → p.1.trans = trans

theorem keeps_some {p : PlayerDumpReader × Line} (h : p.1.trans = trans) :
    Keeps trans (some p) := by
  intro p' hp
  cases hp
  exact h

theorem keeps_bind {α : Type} {x : Option α} {f : α → Option (PlayerDumpReader × Line)}
    (h : ∀ a, Keeps trans (f a)) : Keeps trans (x >>= f) := by
  intro p hp
  obtain ⟨a, -, ha⟩ := Option.bind_eq_some_iff.mp hp
  exact h a p ha

theorem keeps_map {x : Option Line} (h : r.trans = trans) :
    Keeps trans (x.map fun line => (r, line)) := by
  intro p hp
  obtain ⟨line, -, rfl⟩ := Option.map_eq_some_iff.mp hp
  exact h

theorem keeps_changeName (server : Server) (r : PlayerDumpReader) (line : Line) :
    Keeps r.trans (changeName server r line) := by
  rw [changeName]
  dsimp only
  split
  · split
    · exact keeps_map rfl
    · exact keeps_some rfl
  · exact keeps_map rfl

theorem keeps_loadCharacter (server : Server) (r : PlayerDumpReader) (line : Line) :
    Keeps r.trans (loadCharacter server r line) := by
  refine keeps_bind fun line => keeps_bind fun line => ?_
  intro p hp
  obtain ⟨p', hp', hrest⟩ := Option.bind_eq_some_iff.mp hp
  have htrans := keeps_changeName server _ _ p' hp'
  refine keeps_bind (fun _ => keeps_bind fun _ => keeps_bind fun _ => ?_) p hrest
  exact keeps_some htrans

theorem keeps_loadPet (r : PlayerDumpReader) (line : Line) :
    Keeps r.trans (loadPet r line) := by
  refine keeps_bind fun line => keeps_bind fun line => keeps_some ?_
  dsimp only
  split <;> split <;> split <;> rfl

/-- No row adds a statement before its line is finished. -/
theorem keeps_loadRow (server : Server) (type : DumpTableType) (r : PlayerDumpReader)
    (line : Line) : Keeps r.trans (loadRow server type r line) := by
  cases type with
  | character => exact keeps_loadCharacter server r line
  | charTable => exact keeps_map rfl
  | eqsetTable => exact keeps_bind fun _ => keeps_bind fun _ => keeps_some rfl
  | inventory =>
    exact keeps_bind fun _ => keeps_bind fun _ => keeps_bind fun _ => keeps_some rfl
  | mail => exact keeps_bind fun _ => keeps_bind fun _ => keeps_some rfl
  | mailItem => exact keeps_bind fun _ => keeps_bind fun _ => keeps_bind fun _ => keeps_some rfl
  | item => exact keeps_bind fun _ => keeps_bind fun _ => keeps_some rfl
  | itemGift => exact keeps_bind fun _ => keeps_bind fun _ => keeps_some rfl
  | pet => exact keeps_loadPet r line
  | petTable => exact keeps_bind fun _ => keeps_bind fun _ => keeps_some rfl

theorem trans_loadLines {server : Server} {lines : List Line} {r' : PlayerDumpReader}
    (h : loadLines server lines r = some r') : r.trans <+: r'.trans := by
  induction lines generalizing r with
  | nil =>
    cases h
    exact List.prefix_rfl
  | cons line rest ih =>
    rw [loadLines] at h
    split at h
    · exact ih h
    · obtain ⟨type, -, htype⟩ := Option.bind_eq_some_iff.mp h
      obtain ⟨p, hp, hrest⟩ := Option.bind_eq_some_iff.mp htype
      have hprefix := ih hrest
      rw [keeps_loadRow server type r line p hp] at hprefix
      exact (List.prefix_append _ _).trans hprefix

/-- The loop over the lines is the loop over those that are not skipped. -/
theorem loadLines_filter (server : Server) (lines : List Line) (r : PlayerDumpReader) :
    loadLines server lines r =
      loadLines server (lines.filter fun line => !skips line) r := by
  induction lines generalizing r with
  | nil => rfl
  | cons line rest ih =>
    rw [loadLines, List.filter_cons]
    cases hskips : skips line with
    | true => rw [Bool.not_true, if_pos rfl, if_neg Bool.false_ne_true, ih]
    | false =>
      rw [Bool.not_false, if_neg Bool.false_ne_true, if_pos rfl, loadLines, hskips,
        if_neg Bool.false_ne_true]
      simp only [ih]

/-- The first statement is that of the character. -/
theorem trans_loadLines_character {server : Server} {rest : List Line} (hrow : ∀ v ∈ row, Clean v)
    (hlength : row.length = 68) {r' : PlayerDumpReader} (hguid : Clean r.newguid)
    (haccount : Clean r.chraccount) (hname : Clean r.name) (htrans : r.trans = [])
    (hskips : skips (renderRow "characters" row) = false)
    (h : loadLines server (renderRow "characters" row :: rest) r = some r') :
    ∃ (row' : List Line) (column : Nat), r'.trans[0]? =
        some (statement "characters" (row'.map fun value => unquote (some value))) ∧
      row'.length = 68 ∧ (∀ v ∈ row', Clean v) ∧ 65 ≤ column ∧
      row'[column]? = some "NULL".toList := by
  have hnonempty : ∀ {row : List Line}, row.length = 68 → row ≠ [] := by
    rintro row hlength rfl
    cases hlength
  have htype : typeOf (gettablename (renderRow "characters" row)) = some .character := by
    rw [gettablename_renderRow (by decide) (hnonempty hlength)]
    decide
  rw [loadLines, hskips, if_neg Bool.false_ne_true, htype, Option.bind_eq_bind,
    Option.bind_some] at h
  obtain ⟨⟨r₁, line₁⟩, hload, hrest⟩ := Option.bind_eq_some_iff.mp h
  have hrow' : IsRow "characters" (67 + 1) (renderRow "characters" row) := ⟨row, rfl, hlength, hrow⟩
  obtain ⟨row', column, rfl, hlength', hclean, hle, hnull⟩ :=
    hrow'.loadCharacter_spec (by decide) hguid haccount hname hload
  have hprefix := trans_loadLines hrest
  dsimp only at hprefix
  rw [keeps_loadCharacter server r _ _ hload, htrans, List.nil_append] at hprefix
  obtain ⟨later, hlater⟩ := hprefix
  refine ⟨row', column, ?_, hlength', hclean, hle, hnull⟩
  rw [← fixNULLfields_renderRow (by decide) (hnonempty hlength') hclean, ← hlater]
  rfl

end PlayerDumpReader

theorem clean_chooseName {server : Server} (hchecks : ChecksNames server) (name : Line) :
    Clean (chooseName server name) := by
  rw [chooseName]
  split
  · next hcheck => exact hchecks _ (Bool.and_eq_true_iff.mp hcheck).1
  · exact List.not_mem_nil

/-- The first statement of a load, that of the character, has a null behind the columns of the
deletion. -/
theorem null_of_loadDump {server : Server} (hchecks : ChecksNames server) {lines : List Line}
    {character : Row} {rest : List DumpRow} (hwell : WellFormed lines character rest)
    {account : Nat} {name : Line} {guid : Nat} {loaded : Loaded}
    (h : loadDump server (some lines) account name guid = .ok loaded) :
    ∃ new column, loaded.trans[0]? = some new ∧ 62 ≤ column ∧
      (valuesOf new)[column]? = some "NULL".toList := by
  rw [loadDump] at h
  split at h
  · cases h
  · dsimp only at h
    cases hload : PlayerDumpReader.loadLines server lines (startLoad server account name guid) with
    | none =>
      rw [hload] at h
      cases h
    | some r =>
      rw [hload] at h
      cases h
      rw [PlayerDumpReader.loadLines_filter, hwell.rows] at hload
      have hskips : PlayerDumpReader.skips
          (renderRow "characters" (columnsOf character)) = false := by
        have hin := List.mem_cons_self (a := renderRow "characters" (columnsOf character))
          (l := rest.map fun r => renderRow r.table (columnsOf r.row))
        rw [← hwell.rows] at hin
        simpa using (List.mem_filter.mp hin).2
      have hlength : (columnsOf character).length = 68 := by
        rw [columnsOf, List.length_map, hwell.characterColumns]
      obtain ⟨row', column, hfirst, hlength', hrow', hle, hnull⟩ :=
        PlayerDumpReader.trans_loadLines_character hwell.characterClean hlength
          (clean_unsigned _) (clean_unsigned _) (clean_chooseName hchecks name) rfl hskips hload
      have hne : row'.map (fun value => unquote (some value)) ≠ [] := by
        intro hnil
        rw [List.map_eq_nil_iff.mp hnil] at hlength'
        cases hlength'
      have hclean : ∀ field ∈ row'.map (fun value => unquote (some value)),
          ∀ value ∈ field, Clean value := by
        intro field hfield value hvalue
        obtain ⟨v, hv, rfl⟩ := List.mem_map.mp hfield
        rw [unquote] at hvalue
        split at hvalue
        · cases hvalue
        · cases hvalue
          exact hrow' value hv
      refine ⟨_, column, hfirst, by omega, ?_⟩
      rw [valuesOf_statement (by decide) hne hclean, List.getElem?_map, List.getElem?_map,
        hnull]
      rfl

theorem columnKind_characters {column : Nat} (h : 62 ≤ column) :
    columnKind "characters" column = .kept := by
  have hnot : column ∉ [0, 1, 2, 36, 59, 60, 61] := by
    intro hin
    have hsmall : ∀ c ∈ [0, 1, 2, 36, 59, 60, 61], c < 62 := by decide
    exact absurd (hsmall column hin) (Nat.not_lt.mpr h)
  rw [columnKind, if_pos rfl, if_neg hnot]

/-- A load that puts a null behind the columns of the deletion does not rename consistently. -/
theorem not_renames_of_null {lines : List Line} {character : Row} {rest : List DumpRow}
    (hwell : WellFormed lines character rest) {before : ObjectMgr} {loaded : Loaded} {new : Line}
    {column : Nat} (hnew : loaded.trans[0]? = some new) (hcolumn : 62 ≤ column)
    (hnull : (valuesOf new)[column]? = some "NULL".toList) :
    ¬ RenamesConsistently (rowLines lines) before loaded := by
  rintro ⟨ρ, hrenames⟩
  have hline : (rowLines lines)[0]? = some (renderRow "characters" (columnsOf character)) := by
    rw [rowLines, hwell.rows]
    rfl
  have hne : columnsOf character ≠ [] := by
    intro hnil
    have hlength := hwell.characterColumns
    rw [List.map_eq_nil_iff.mp hnil] at hlength
    cases hlength
  have hvalues : valuesOf (renderRow "characters" (columnsOf character)) =
      (columnsOf character).map fun value => fieldText (some value) := by
    rw [renderRow_eq, valuesOf_statement (by decide) (by simpa using hne), List.map_map]
    · rfl
    · intro field hfield value hin
      obtain ⟨v, hv, rfl⟩ := List.mem_map.mp hfield
      cases hin
      exact hwell.characterClean value hv
  have hlt : column < (columnsOf character).length := by
    rw [← List.length_map (f := fun value => fieldText (some value)), ← hvalues,
      ← hrenames.widths 0 _ _ hline hnew]
    exact (List.getElem?_eq_some_iff.mp hnull).1
  have hvalue : (valuesOf (renderRow "characters" (columnsOf character)))[column]? =
      some (fieldText (some (columnsOf character)[column])) := by
    rw [hvalues, List.getElem?_map, List.getElem?_eq_getElem hlt, Option.map_some]
  have htable : tableOf (renderRow "characters" (columnsOf character)) = "characters" := by
    rw [tableOf, gettablename_renderRow (by decide) hne, String.ofList_toList]
  have hbecomes := hrenames.values 0 column _ _ _ _ hline hnew hvalue hnull
  rw [htable, columnKind_characters hcolumn] at hbecomes
  have hhead : 'N' = '\'' := (List.cons.inj hbecomes).1
  exact absurd hhead (by decide)

/-- No load of a well-formed dump renames consistently: columns of the character behind those of the
deletion become null. -/
theorem not_renamesConsistently {server : Server} (hchecks : ChecksNames server)
    {lines : List Line} {character : Row} {rest : List DumpRow}
    (hwell : WellFormed lines character rest) {account : Nat} {name : Line} {guid : Nat}
    {loaded : Loaded} (h : loadDump server (some lines) account name guid = .ok loaded) :
    ¬ RenamesConsistently (rowLines lines) server.objectMgr loaded := by
  obtain ⟨new, column, hnew, hcolumn, hnull⟩ := null_of_loadDump hchecks hwell h
  exact not_renames_of_null hwell hnew hcolumn hnull

/-! ### One character -/

/-- A server without characters, on which names are letters. -/
def freshServer : Server where
  objectMgr := ⟨100, 200, 300, 400, 500⟩
  charactersCount _ := 0
  guidTaken _ := false
  nameTaken _ := false
  normalizePlayerName := some
  checkPlayerName name := name.all Char.isAlpha

theorem checksNames_freshServer : ChecksNames freshServer := by
  intro name hcheck
  have halpha : ∀ c ∈ name, c.isAlpha = true := List.all_eq_true.mp hcheck
  exact fun hin => absurd (halpha _ hin) (by decide)

/-- Character 1 of account 5, in slot 3. -/
def ann : Row := ["1", "5", "Ann"] ++ List.replicate 60 "0" ++ ["3", "0", "0", "0", "0"]

deriving instance DecidableEq for PlayerDumpReader

/-- The reader behind the row of the character. -/
def annReader : PlayerDumpReader :=
  { startLoad freshServer 7 [] 0 with
    name := "Ann".toList
    gender := 0
    race := 0
    playerClass := 0
    level := 0 }

/-- The line of the character under his new guid, with its last columns. -/
def annLine (last : Row) : Line :=
  renderRow "characters" (columnsOf (["100", "7", "Ann"] ++ List.replicate 60 "0" ++ last))

namespace PlayerDumpReader

theorem loadCharacter_ann :
    loadCharacter freshServer (startLoad freshServer 7 [] 0)
        (renderRow "characters" (columnsOf ann)) =
      some (annReader, annLine ["NULL", "NULL", "NULL", "0", "0"]) := by
  -- a column at a time, so that no step computes all of the line
  rw [loadCharacter]
  simp only [Option.bind_eq_bind, Option.bind_eq_some_iff, Prod.exists]
  refine ⟨renderRow "characters" (columnsOf (ann.set 0 "100")), by decide +kernel,
    annLine ["3", "0", "0", "0", "0"], by decide +kernel,
    annReader, annLine ["3", "0", "0", "0", "0"], by decide +kernel,
    annLine ["NULL", "0", "0", "0", "0"], by decide +kernel,
    annLine ["NULL", "NULL", "0", "0", "0"], by decide +kernel,
    annLine ["NULL", "NULL", "NULL", "0", "0"], by decide +kernel, rfl⟩

/-- The other rows do not meet the text of that row again. -/
theorem loadLines_ann (rest : List Line) :
    loadLines freshServer (renderRow "characters" (columnsOf ann) :: rest)
        (startLoad freshServer 7 [] 0) =
      loadLines freshServer rest { annReader with
        trans := [fixNULLfields (annLine ["NULL", "NULL", "NULL", "0", "0"])] } := by
  have hskips : skips (renderRow "characters" (columnsOf ann)) = false := by decide +kernel
  have htype : typeOf (gettablename (renderRow "characters" (columnsOf ann))) =
      some .character := by decide +kernel
  rw [loadLines, hskips, if_neg Bool.false_ne_true, htype, Option.bind_eq_bind, Option.bind_some,
    loadRow, loadCharacter_ann]
  rfl

end PlayerDumpReader

/-- A bag with an item in it, a mail with another item, and a pet whose name ends in a backslash. -/
def annRows : List DumpRow :=
  [⟨"character_inventory", ["1", "0", "23", "9"]⟩, ⟨"character_inventory", ["1", "9", "0", "10"]⟩,
    ⟨"character_pet", ["5", "416", "1", "0", "0", "0", "1", "0", "0", "Gob\\\\", "0"]⟩,
    ⟨"item_instance", ["9", "4500", "1", "0", "0", "1", "0", "", "0", "", "0", "0", "0", ""]⟩,
    ⟨"item_instance", ["10", "25", "1", "0", "0", "1", "0", "", "0", "", "0", "20", "0", ""]⟩,
    ⟨"mail", ["4", "0", "41", "0", "2", "1", "A \\\"sword\\\"", "C:\\\\Games\\nBob", "1"]⟩,
    ⟨"mail_items", ["4", "11", "1"]⟩]

/-- The dump of the character, with a notice. -/
def annDump : List Line :=
  "IMPORTANT NOTE: DO NOT apply it directly\n".toList :: renderRow "characters" (columnsOf ann) ::
    annRows.map fun r => renderRow r.table (columnsOf r.row)

theorem wellFormed_annDump : WellFormed annDump ann annRows where
  rows := by decide +kernel
  characterColumns := by decide +kernel
  characterClean := by decide +kernel
  restRows := by
    have hrows : ∀ r ∈ annRows, r.table ∈ dumpTables.map Prod.fst ∧
        (∀ value ∈ columnsOf r.row, Clean value) ∧ r.row ≠ [] := by decide +kernel
    intro r hin
    obtain ⟨htable, hclean, hcolumns⟩ := hrows r hin
    exact ⟨htable, hclean, hcolumns⟩

/-- The dump of a character with rows in other tables. -/
theorem not_renamesConsistently_ann :
    ∃ loaded, loadDump freshServer (some annDump) 7 [] 0 = .ok loaded ∧
      ¬ RenamesConsistently (rowLines annDump) freshServer.objectMgr loaded := by
  have hok : (loadDump freshServer (some annDump) 7 [] 0).isOk = true := by
    rw [loadDump, PlayerDumpReader.loadLines_filter, wellFormed_annDump.rows,
      PlayerDumpReader.loadLines_ann]
    decide +kernel
  cases h : loadDump freshServer (some annDump) 7 [] 0 with
  | error e =>
    rw [h] at hok
    cases hok
  | ok loaded =>
    exact ⟨loaded, rfl, not_renamesConsistently checksNames_freshServer wellFormed_annDump h⟩

/-- The dump of the character with an item in the first slot of the backpack. -/
def itemDump : List Line :=
  [renderRow "characters" (columnsOf ann),
    renderRow "character_inventory" (columnsOf ["1", "0", "23", "9"]),
    renderRow "item_instance" (columnsOf
      ["9", "25", "1", "0", "0", "1", "0", "", "0", "", "0", "20", "0", ""])]

theorem wellFormed_itemDump : WellFormed itemDump ann
    [⟨"character_inventory", ["1", "0", "23", "9"]⟩,
      ⟨"item_instance", ["9", "25", "1", "0", "0", "1", "0", "", "0", "", "0", "20", "0", ""]⟩]
    where
  rows := by decide +kernel
  characterColumns := by decide +kernel
  characterClean := by decide +kernel
  restRows := by
    intro r hin
    rcases List.mem_cons.mp hin with rfl | hin
    · exact ⟨by decide +kernel, by decide +kernel, by decide⟩
    · rw [List.mem_singleton.mp hin]
      exact ⟨by decide +kernel, by decide +kernel, by decide⟩

/-- The character of the dump loses his slot. -/
theorem slot_lost :
    ∃ loaded, loadDump freshServer (some itemDump) 7 [] 0 = .ok loaded ∧
      ¬ RenamesConsistently (rowLines itemDump) freshServer.objectMgr loaded := by
  have hok : (loadDump freshServer (some itemDump) 7 [] 0).isOk = true := by
    rw [loadDump, PlayerDumpReader.loadLines_filter, wellFormed_itemDump.rows,
      PlayerDumpReader.loadLines_ann]
    decide +kernel
  cases h : loadDump freshServer (some itemDump) 7 [] 0 with
  | error e =>
    rw [h] at hok
    cases hok
  | ok loaded =>
    obtain ⟨new, column, hnew, hcolumn, hnull⟩ :=
      null_of_loadDump checksNames_freshServer wellFormed_itemDump h
    exact ⟨loaded, rfl, not_renames_of_null wellFormed_itemDump hnew hcolumn hnull⟩

end Cataclysm.Tools
