import Cataclysm.Tools.DumpText

/-!
# Loading the dump of a character

The reader goes through the lines of a dump and gives the character, his items, mails and pets new
ids. Items and mails are renamed by a map that grows with each id that is met first; a pet gets the
number of the last pet row. The columns are counted in the source: those of the deletion are
counted behind the place where the database scripts have them.

## Implementation notes

A line is what `fgets` returns. The counters, the names and the accounts of the server are a
parameter, and so are the functions on names. The new rows are the statements of the transaction.
The numbers that a broken load has used up are not followed.
-/

namespace Cataclysm.Tools

/-! ### Numbers -/

def digits (text : Line) : Nat :=
  (text.takeWhile Char.isDigit).foldl (fun n c => 10 * n + (c.toNat - '0'.toNat)) 0

/-- `atoi`, as an unsigned number of 32 bits. -/
def atoi (text : Line) : Nat :=
  match text.dropWhile Char.isWhitespace with
  | '-' :: rest => (2 ^ 32 - digits rest % 2 ^ 32) % 2 ^ 32
  | '+' :: rest => digits rest % 2 ^ 32
  | rest => digits rest % 2 ^ 32

/-- What `%u` prints. -/
def unsigned (n : Nat) : Line := (toString n).toList

/-- What `%d` prints for a number of 32 bits. -/
def signed (n : Nat) : Line := if n < 2 ^ 31 then unsigned n else '-' :: unsigned (2 ^ 32 - n)

/-! ### The server -/

/-- The next free guids of the server. -/
structure ObjectMgr where
  hiCharGuid : Nat
  hiItemGuid : Nat
  mailId : Nat
  hiPetNumber : Nat
  equipmentSetGuid : Nat
  deriving DecidableEq

/-- What the reader asks the server. -/
structure Server where
  objectMgr : ObjectMgr
  charactersCount : Nat → Nat
  guidTaken : Nat → Bool
  nameTaken : Line → Bool
  normalizePlayerName : Line → Option Line
  checkPlayerName : Line → Bool

/-- How the loading of a dump ends. -/
inductive DumpReturn
  | fileOpenError
  | tooManyChars
  | fileBroken
  deriving DecidableEq

/-- What the reader keeps from line to line. -/
structure PlayerDumpReader where
  newguid : Line
  chraccount : Line
  newpetid : Line
  lastpetid : Line
  name : Line
  items : OrderedMap Nat Nat
  mails : OrderedMap Nat Nat
  petids : OrderedMap Nat Nat
  gender : Nat
  race : Nat
  playerClass : Nat
  level : Nat
  objectMgr : ObjectMgr
  trans : List Line

/-! ### Changing guids -/

/-- The new guid of an old one. -/
def registerNewGuid (oldGuid : Nat) (guidMap : OrderedMap Nat Nat) (hiGuid : Nat) :
    Nat × OrderedMap Nat Nat :=
  match guidMap.find? oldGuid with
  | some newguid => (newguid, guidMap)
  | none =>
    let newguid := (hiGuid + guidMap.entries.length) % 2 ^ 32
    (newguid, guidMap.insert oldGuid newguid)

/-- A guid of the line is replaced by its new one. -/
def changeGuid (str : Line) (n : Nat) (guidMap : OrderedMap Nat Nat) (hiGuid : Nat)
    (nonzero : Bool) : Option (Line × OrderedMap Nat Nat) :=
  let oldGuid := atoi (getnth str n)
  if nonzero && oldGuid == 0 then some (str, guidMap)
  else
    let (newGuid, guidMap) := registerNewGuid oldGuid guidMap hiGuid
    (changenth str n (unsigned newGuid) false nonzero).map fun str => (str, guidMap)

namespace PlayerDumpReader

/-! ### The rows of each table -/

/-- The name of the character, and whether he has to change it. -/
def changeName (server : Server) (r : PlayerDumpReader) (line : Line) :
    Option (PlayerDumpReader × Line) :=
  if r.name.isEmpty then
    let r := { r with name := getnth line 3 }
    if server.nameTaken r.name then
      let loginFlags := atoi (getnth line 39)
      let loginFlags := if loginFlags &&& 1 = 0 then loginFlags ||| 1 else loginFlags
      (changenth line 39 (unsigned loginFlags) false false).map fun line => (r, line)
    else some (r, line)
  else (changenth line 3 r.name false false).map fun line => (r, line)

def loadCharacter (server : Server) (r : PlayerDumpReader) (line : Line) :
    Option (PlayerDumpReader × Line) := do
  let line ← changenth line 1 r.newguid false false
  let line ← changenth line 2 r.chraccount false false
  let r := { r with
    race := atoi (getnth line 4) % 256
    playerClass := atoi (getnth line 5) % 256
    gender := atoi (getnth line 6) % 256
    level := atoi (getnth line 7) % 256 }
  let (r, line) ← changeName server r line
  let line ← changenth line 64 "NULL".toList false false
  let line ← changenth line 65 "NULL".toList false false
  let line ← changenth line 66 "NULL".toList false false
  return (r, line)

def loadEqset (r : PlayerDumpReader) (line : Line) : Option (PlayerDumpReader × Line) := do
  let line ← changenth line 1 r.newguid false false
  let newSetGuid := r.objectMgr.equipmentSetGuid
  let line ← changenth line 2 (unsigned newSetGuid) false false
  return ({ r with objectMgr := { r.objectMgr with equipmentSetGuid := newSetGuid + 1 } }, line)

def loadInventory (r : PlayerDumpReader) (line : Line) : Option (PlayerDumpReader × Line) := do
  let line ← changenth line 1 r.newguid false false
  let (line, items) ← changeGuid line 2 r.items r.objectMgr.hiItemGuid true
  let (line, items) ← changeGuid line 4 items r.objectMgr.hiItemGuid false
  return ({ r with items := items }, line)

def loadMail (r : PlayerDumpReader) (line : Line) : Option (PlayerDumpReader × Line) := do
  let (line, mails) ← changeGuid line 1 r.mails r.objectMgr.mailId false
  let line ← changenth line 6 r.newguid false false
  return ({ r with mails := mails }, line)

def loadMailItem (r : PlayerDumpReader) (line : Line) : Option (PlayerDumpReader × Line) := do
  let (line, mails) ← changeGuid line 1 r.mails r.objectMgr.mailId false
  let (line, items) ← changeGuid line 2 r.items r.objectMgr.hiItemGuid false
  let line ← changenth line 3 r.newguid false false
  return ({ r with mails := mails, items := items }, line)

def loadItem (r : PlayerDumpReader) (line : Line) : Option (PlayerDumpReader × Line) := do
  let (line, items) ← changeGuid line 1 r.items r.objectMgr.hiItemGuid false
  let line ← changenth line 3 r.newguid false false
  return ({ r with items := items }, line)

def loadItemGift (r : PlayerDumpReader) (line : Line) : Option (PlayerDumpReader × Line) := do
  let line ← changenth line 1 r.newguid false false
  let (line, items) ← changeGuid line 2 r.items r.objectMgr.hiItemGuid false
  return ({ r with items := items }, line)

/-- `GeneratePetNumber`. -/
def generatePetNumber (o : ObjectMgr) : ObjectMgr :=
  { o with hiPetNumber := (o.hiPetNumber + 1) % 2 ^ 32 }

/-- A pet gets a new number when its id is not that of the last row. -/
def loadPet (r : PlayerDumpReader) (line : Line) : Option (PlayerDumpReader × Line) := do
  let currpetid := (getnth line 1).take 19
  let r := if r.lastpetid.isEmpty then { r with lastpetid := currpetid } else r
  let r := if r.lastpetid ≠ currpetid then
      let objectMgr := generatePetNumber r.objectMgr
      { r with
        objectMgr := objectMgr
        newpetid := signed objectMgr.hiPetNumber
        lastpetid := currpetid }
    else r
  let r := match r.petids.find? (atoi currpetid) with
    | some _ => r
    | none => { r with petids := r.petids.insert (atoi currpetid) (atoi r.newpetid) }
  let line ← changenth line 1 r.newpetid false false
  let line ← changenth line 3 r.newguid false false
  return (r, line)

def loadPetTable (r : PlayerDumpReader) (line : Line) : Option (PlayerDumpReader × Line) := do
  let currpetid := (getnth line 1).take 19
  let newid ← r.petids.find? (atoi currpetid)
  let r := { r with newpetid := signed newid }
  let line ← changenth line 1 r.newpetid false false
  return (r, line)

/-- The change of a line, by the type of its table. -/
def loadRow (server : Server) (type : DumpTableType) (r : PlayerDumpReader) (line : Line) :
    Option (PlayerDumpReader × Line) :=
  match type with
  | .character => loadCharacter server r line
  | .charTable => (changenth line 1 r.newguid false false).map fun line => (r, line)
  | .eqsetTable => loadEqset r line
  | .inventory => loadInventory r line
  | .mail => loadMail r line
  | .mailItem => loadMailItem r line
  | .item => loadItem r line
  | .itemGift => loadItemGift r line
  | .pet => loadPet r line
  | .petTable => loadPetTable r line

/-! ### The lines -/

/-- A character that `find_first_not_of` passes over. -/
def isBlank (c : Char) : Bool :=
  c == ' ' || c == '\t' || c == '\n' || c == '\r' || c == Char.ofNat 7

/-- Blank lines and notices are skipped. -/
def skips (line : Line) : Bool :=
  let text := line.dropWhile isBlank
  text.isEmpty || "== START DUMP ==".toList.isPrefixOf text ||
    "IMPORTANT NOTE:".toList.isPrefixOf text || "== END DUMP ==".toList.isPrefixOf text

/-- The kind of a table, by its name. -/
def typeOf (tn : Line) : Option DumpTableType :=
  (dumpTables.find? fun table => table.1.toList == tn).map Prod.snd

/-- The loop over the lines. -/
def loadLines (server : Server) : List Line → PlayerDumpReader → Option PlayerDumpReader
  | [], r => some r
  | line :: rest, r =>
    if skips line then loadLines server rest r
    else do
      let type ← typeOf (gettablename line)
      let (r, line) ← loadRow server type r line
      loadLines server rest { r with trans := r.trans ++ [fixNULLfields line] }

end PlayerDumpReader

/-- What a load leaves: the statements, the entry of the character and the counters. -/
structure Loaded where
  trans : List Line
  guid : Nat
  account : Nat
  name : Line
  gender : Nat
  race : Nat
  playerClass : Nat
  level : Nat
  objectMgr : ObjectMgr

/-- The guid of the new character, and whether the counter has to move on. -/
def chooseGuid (server : Server) (guid : Nat) : Nat × Bool :=
  if guid ≠ 0 ∧ guid < server.objectMgr.hiCharGuid then
    if server.guidTaken guid then (server.objectMgr.hiCharGuid, true) else (guid, false)
  else (server.objectMgr.hiCharGuid, true)

/-- The name that the character was given, if it can be used. -/
def chooseName (server : Server) (name : Line) : Line :=
  let name := (server.normalizePlayerName name).getD []
  if server.checkPlayerName name && !server.nameTaken name then name else []

/-- The reader before the first line. -/
def startLoad (server : Server) (account : Nat) (name : Line) (guid : Nat) : PlayerDumpReader :=
  let objectMgr := PlayerDumpReader.generatePetNumber server.objectMgr
  { newguid := unsigned (chooseGuid server guid).1
    chraccount := unsigned account
    newpetid := unsigned objectMgr.hiPetNumber
    lastpetid := []
    name := chooseName server name
    items := OrderedMap.empty
    mails := OrderedMap.empty
    petids := OrderedMap.empty
    gender := 2
    race := 0
    playerClass := 0
    level := 1
    objectMgr := objectMgr
    trans := [] }

/-- A dump is read, and its rows are stored. -/
def loadDump (server : Server) (file : Option (List Line)) (account : Nat) (name : Line)
    (guid : Nat) : Except DumpReturn Loaded :=
  if 10 ≤ server.charactersCount account then .error .tooManyChars
  else
    match file with
    | none => .error .fileOpenError
    | some lines =>
      match PlayerDumpReader.loadLines server lines (startLoad server account name guid) with
      | none => .error .fileBroken
      | some r =>
        .ok {
          trans := r.trans
          guid := (chooseGuid server guid).1
          account := account
          name := r.name
          gender := r.gender
          race := r.race
          playerClass := r.playerClass
          level := r.level
          objectMgr := { r.objectMgr with
            hiItemGuid := (r.objectMgr.hiItemGuid + r.items.entries.length) % 2 ^ 32
            mailId := (r.objectMgr.mailId + r.mails.entries.length) % 2 ^ 32
            hiCharGuid :=
              if (chooseGuid server guid).2 then (r.objectMgr.hiCharGuid + 1) % 2 ^ 32
              else r.objectMgr.hiCharGuid } }

end Cataclysm.Tools
