import Cataclysm.Lib.OrderedMap

/-!
# Writing the dump of a character

The writer goes through the tables in a fixed order. While it dumps the inventory, the pets, the
mails and the items of the mails, it collects guids, and for the tables that belong to an item, a
pet or a mail it selects the rows with a collected guid, as many guids at a time as fit in one
query. It stops with a table as soon as a query has no result.

## Implementation notes

The rows of a table have the columns of the database scripts, as text; a null is the empty text. The
columns that are compared or collected are unsigned numbers of 32 bits. A query that does not fit in
its buffer is cut off inside its last bracket and has no result. The dump is the list of its rows,
and `text` writes them out.
-/

namespace Cataclysm.Tools

/-- `DumpTableType`. -/
inductive DumpTableType
  | character
  | charTable
  | eqsetTable
  | inventory
  | mail
  | mailItem
  | item
  | itemGift
  | pet
  | petTable
  deriving DecidableEq

/-- The tables of a dump, in order. -/
def dumpTables : List (String × DumpTableType) :=
  [("characters", .character),
    ("character_account_data", .charTable),
    ("character_achievement", .charTable),
    ("character_achievement_progress", .charTable),
    ("character_action", .charTable),
    ("character_aura", .charTable),
    ("character_currency", .charTable),
    ("character_cuf_profiles", .charTable),
    ("character_declinedname", .charTable),
    ("character_equipmentsets", .eqsetTable),
    ("character_gifts", .itemGift),
    ("character_glyphs", .charTable),
    ("character_homebind", .charTable),
    ("character_inventory", .inventory),
    ("character_pet", .pet),
    ("character_pet_declinedname", .pet),
    ("character_queststatus", .charTable),
    ("character_queststatus_rewarded", .charTable),
    ("character_reputation", .charTable),
    ("character_skills", .charTable),
    ("character_spell", .charTable),
    ("character_spell_cooldown", .charTable),
    ("character_talent", .charTable),
    ("item_instance", .item),
    ("mail", .mail),
    ("mail_items", .mailItem),
    ("pet_aura", .petTable),
    ("pet_spell", .petTable),
    ("pet_spell_cooldown", .petTable)]

/-- The values of a row in the order of its columns. -/
abbrev Row := List String

/-- `atol` of a number without a sign, as an unsigned number of 32 bits. -/
def getUInt32 (text : String) : Nat :=
  (text.toList.takeWhile Char.isDigit).foldl (fun n c => 10 * n + (c.toNat - '0'.toNat)) 0 % 2 ^ 32

/-- The number in a column of a row. -/
def valueAt (row : Row) (column : Nat) : Nat := getUInt32 (row.getD column "")

/-- The rows of every table. -/
structure Database where
  rows : String → List Row

/-- The column of the fields that the writer selects by. -/
def columnOf (table field : String) : Nat :=
  if table = "character_gifts" ∧ field = "item_guid" then 1
  else if table = "character_pet" ∧ field = "owner" then 2
  else if table = "character_pet_declinedname" ∧ field = "owner" then 1
  else if table = "mail" ∧ field = "receiver" then 5
  else 0

/-! ### Queries -/

def maxQueryLen : Nat := 32 * 1024

/-- A condition with the guids that it lists. -/
structure Where where
  field : String
  guids : List Nat
  text : String

/-- `GenerateWhereStr` for one guid. -/
def generateWhereStr (field : String) (guid : Nat) : Where :=
  ⟨field, [guid], field ++ " = '" ++ toString guid ++ "'"⟩

/-- The loop of `GenerateWhereStr` over a set: the text, the guids in it and the guids behind. -/
def takeGuids (text : String) : List Nat → String × List Nat × List Nat
  | [] => (text, [], [])
  | guid :: rest =>
    let text := text ++ toString guid
    if maxQueryLen - 50 < text.length then (text, [guid], rest)
    else if rest.isEmpty then (text, [guid], [])
    else
      let (text, taken, behind) := takeGuids (text ++ "', '") rest
      (text, guid :: taken, behind)

/-- `GenerateWhereStr` for a set. -/
def generateWhereSet (field : String) (guids : List Nat) : Where × List Nat :=
  let (text, taken, behind) := takeGuids (field ++ " IN ('") guids
  (⟨field, taken, text ++ "')"⟩, behind)

/-- `PQuery`, which prints the query into a buffer. -/
def query (db : Database) (table : String) (condition : Where) : List Row :=
  if ("SELECT * FROM " ++ table ++ " WHERE " ++ condition.text).length < maxQueryLen then
    (db.rows table).filter fun row => valueAt row (columnOf table condition.field) ∈ condition.guids
  else []

/-! ### The writer -/

/-- A set of guids. -/
abbrev GUIDs := OrderedMap Nat Unit

/-- A row of a dump with its table. -/
structure DumpRow where
  table : String
  row : Row
  deriving DecidableEq

/-- What the writer has collected. -/
structure PlayerDumpWriter where
  pets : GUIDs
  mails : GUIDs
  items : GUIDs
  dump : List DumpRow

namespace PlayerDumpWriter

def start : PlayerDumpWriter := ⟨OrderedMap.empty, OrderedMap.empty, OrderedMap.empty, []⟩

def storeGUID (guids : GUIDs) (guid : Nat) : GUIDs :=
  if guid ≠ 0 then guids.insert guid () else guids

/-- What is collected from a row. -/
def collect (w : PlayerDumpWriter) (type : DumpTableType) (row : Row) : PlayerDumpWriter :=
  match type with
  | .inventory => { w with items := storeGUID w.items (valueAt row 3) }
  | .pet => { w with pets := storeGUID w.pets (valueAt row 0) }
  | .mail => { w with mails := storeGUID w.mails (valueAt row 0) }
  | .mailItem => { w with items := storeGUID w.items (valueAt row 1) }
  | _ => w

/-- A character is refused when it has too few columns or one of them is set. -/
def refuses (type : DumpTableType) (row : Row) : Bool :=
  type == .character && (decide (row.length ≤ 64) || valueAt row 64 != 0)

/-- The loop over the rows of a result. -/
def dumpRows (table : String) (type : DumpTableType) :
    List Row → PlayerDumpWriter → Except PlayerDumpWriter PlayerDumpWriter
  | [], w => .ok w
  | row :: rest, w =>
    if refuses type row then .error w
    else
      let w := w.collect type row
      dumpRows table type rest { w with dump := w.dump ++ [⟨table, row⟩] }

/-- The loop over the queries for a set of guids. -/
def dumpSet (db : Database) (table field : String) (type : DumpTableType) :
    Nat → List Nat → PlayerDumpWriter → Except PlayerDumpWriter PlayerDumpWriter
  | 0, _, w => .ok w
  | fuel + 1, guids, w =>
    let (condition, behind) := generateWhereSet field guids
    let result := query db table condition
    if result.isEmpty then .ok w
    else
      match dumpRows table type result w with
      | .error w => .error w
      | .ok w => if behind.isEmpty then .ok w else dumpSet db table field type fuel behind w

def fieldname : DumpTableType → String
  | .item => "guid"
  | .itemGift => "item_guid"
  | .pet => "owner"
  | .petTable => "guid"
  | .mail => "receiver"
  | .mailItem => "mail_id"
  | _ => "guid"

/-- The set of guids by which the rows of a table are selected, if not by the character. -/
def guidsFor (w : PlayerDumpWriter) : DumpTableType → Option GUIDs
  | .item => some w.items
  | .itemGift => some w.items
  | .petTable => some w.pets
  | .mailItem => some w.mails
  | _ => none

/-- The rows of one table are written. -/
def dumpTable (db : Database) (guid : Nat) (table : String × DumpTableType)
    (w : PlayerDumpWriter) : Except PlayerDumpWriter PlayerDumpWriter :=
  let field := fieldname table.2
  match w.guidsFor table.2 with
  | none => dumpRows table.1 table.2 (query db table.1 (generateWhereStr field guid)) w
  | some guids =>
    if guids.keys.isEmpty then .ok w
    else dumpSet db table.1 field table.2 guids.keys.length guids.keys w

/-- The loop of `GetDump` over the tables. -/
def dumpAll (db : Database) (guid : Nat) :
    List (String × DumpTableType) → PlayerDumpWriter → Except PlayerDumpWriter PlayerDumpWriter
  | [], w => .ok w
  | table :: rest, w =>
    match w.dumpTable db guid table with
    | .error w => .error w
    | .ok w => dumpAll db guid rest w

/-- The dump of a character. -/
def getDump (db : Database) (guid : Nat) : Except PlayerDumpWriter PlayerDumpWriter :=
  dumpAll db guid dumpTables start

/-- The rows of the dump, complete or broken off. -/
def rowsOf : Except PlayerDumpWriter PlayerDumpWriter → List DumpRow
  | .ok w => w.dump
  | .error w => w.dump

end PlayerDumpWriter

/-! ### The text -/

/-- `CreateDumpString`, given how the database escapes a text. -/
def createDumpString (escapeString : String → String) (r : DumpRow) : String :=
  "INSERT INTO `" ++ r.table ++ "` VALUES (" ++
    String.intercalate ", " (r.row.map fun field => "'" ++ escapeString field ++ "'") ++ ");"

def text (escapeString : String → String) (dump : List DumpRow) : String :=
  "IMPORTANT NOTE: THIS DUMPFILE IS MADE FOR USE WITH THE 'PDUMP' COMMAND ONLY - " ++
    "EITHER THROUGH INGAME CHAT OR ON CONSOLE!\n" ++
    "IMPORTANT NOTE: DO NOT apply it directly - it will irreversibly DAMAGE and CORRUPT your " ++
    "database! You have been warned!\n\n" ++
      String.join (dump.map fun r => createDumpString escapeString r ++ "\n")

end Cataclysm.Tools
