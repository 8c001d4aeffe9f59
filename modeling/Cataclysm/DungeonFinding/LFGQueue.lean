import Cataclysm.Groups.SubGroups
import Cataclysm.Lib.OrderedMap

/-!
# The queue of the dungeon finder

A queue has a list of new entries and a list of current ones. `FindGroups` takes the new
entries in turn and searches the current ones for a combination that fills a dungeon;
`CheckCompatibility` judges a combination and turns a complete one into a proposal, whose
entries leave both lists. The verdicts are kept in a cache under the guids of the
combination.

## Implementation notes

`CheckCompatibility` first judges the combination without its first entry. What it finds
out about a combination itself is `evaluate`, which changes nothing; `record` stores the
verdict. The look-ups by `[]` store an entry for every guid of the combination, so the later
test for a missing one never succeeds. The cache keys are texts, kept as lists of
characters; the code looks for a guid in them as a substring. `FindNewGroups` gets the
remaining entries by reference, so the inner call uses them up; it recurses on fuel, and
`2 * all.length + 1` is enough.

Random numbers come from a stream `rand`; the state counts how many were drawn. Maps and
sets are the ordered maps of the library, the waiting times are left out. What the queue
asks its manager and the world is in `LfgView`.
-/

namespace Cataclysm.Lfg

/-- Where a player or a group stands. -/
inductive LfgState
  | none
  | rolecheck
  | queued
  | proposal
  | dungeon
  | finishedDungeon
  | raidBrowser
  deriving DecidableEq

/-- The answer of a player to a proposal. -/
inductive LfgAnswer
  | pending
  | deny
  | agree
  deriving DecidableEq

/-- `LfgProposalState`. -/
inductive LfgProposalState
  | initiating
  | failed
  | success
  deriving DecidableEq

/-- `LfgCompatibility`, in the order of the source. -/
inductive LfgCompatibility
  | pending
  | wrongGroupSize
  | tooMuchPlayers
  | multipleLfgGroups
  | hasIgnores
  | noRoles
  | noDungeons
  | withLessPlayers
  | badStates
  | isMatch
  deriving DecidableEq

/-- "Values under this = not compatible". -/
def LfgCompatibility.isIncompatible : LfgCompatibility → Bool
  | withLessPlayers | badStates | isMatch => false
  | _ => true

/-- A set of dungeon ids. -/
abbrev LfgDungeonSet := OrderedMap Nat Unit

/-- Players with the roles that they chose. -/
abbrev LfgRolesMap := OrderedMap Guid UInt8

/-- The characters of a cache key. -/
abbrev CacheKey := List Char

def playerRoleLeader : UInt8 := 0x01

def playerRoleTank : UInt8 := 0x02

def playerRoleHealer : UInt8 := 0x04

def playerRoleDamage : UInt8 := 0x08

/-- `LFG_TIME_PROPOSAL`. -/
def lfgTimeProposal : Nat := 45

/-- `LfgType`. -/
inductive LfgType
  | none
  | dungeon
  | raid
  | random
  | other (value : UInt8)
  deriving DecidableEq

/-- A dungeon with the roles that it needs. -/
structure LFGDungeonData where
  type : LfgType
  group : Nat
  requiredTanks : Nat
  requiredHeals : Nat
  requiredDamagedealers : Nat
  deriving DecidableEq

/-- The group has as many members as there are roles. -/
def LFGDungeonData.getMaxGroupSize (dungeon : LFGDungeonData) : Nat :=
  dungeon.requiredTanks + dungeon.requiredHeals + dungeon.requiredDamagedealers

/-- The data of an entry that waits. -/
structure LfgQueueData where
  joinTime : Nat
  tanks : UInt8
  healers : UInt8
  dps : UInt8
  dungeons : LfgDungeonSet
  roles : LfgRolesMap
  bestCompatible : CacheKey
  deriving DecidableEq

/-- What the cache keeps of a combination. -/
structure LfgCompatibilityData where
  compatibility : LfgCompatibility
  roles : LfgRolesMap
  deriving DecidableEq

/-- A player of a proposal with his answer. -/
structure LfgProposalPlayer where
  role : UInt8
  accept : LfgAnswer
  group : Guid
  deriving DecidableEq

/-- A group that could be formed. -/
structure LfgProposal where
  dungeonId : Nat
  state : LfgProposalState
  group : Guid
  leader : Guid
  cancelTime : Nat
  isNew : Bool
  queues : List Guid
  players : OrderedMap Guid LfgProposalPlayer
  deriving DecidableEq

/-- What a queue asks its manager and the world. -/
structure LfgView where
  now : Nat
  getLFGDungeon : Nat → Option LFGDungeonData
  isGroupGuid : Guid → Bool
  isLfgGroup : Guid → Bool
  hasIgnore : Guid → Guid → Bool
  getState : Guid → LfgState
  getOldState : Guid → LfgState

/-- Nobody of the entries has left the queue. -/
def LfgView.allQueued (view : LfgView) (check : List Guid) : Bool :=
  !check.isEmpty && check.all fun guid => view.getState guid = .queued

/-- The queue of one team. -/
structure LFGQueue where
  queueDataStore : OrderedMap Guid LfgQueueData
  compatibleMapStore : OrderedMap CacheKey LfgCompatibilityData
  currentQueueStore : List Guid
  newToQueueStore : List Guid
  deriving DecidableEq

/-! ## Roles -/

/-- One of the three role blocks of `CheckGroupRoles`: `.error` leaves the function. -/
def countRole (retry : LfgRolesMap → Bool × LfgRolesMap) (role bit : UInt8) (required : Nat)
    (guid : Guid) (groles : LfgRolesMap) (count : Nat) :
    Except (Bool × LfgRolesMap) (LfgRolesMap × Nat) :=
  if role &&& bit = 0 then .ok (groles, count)
  else if role ≠ bit then
    match retry (groles.insert guid ((groles.find? guid).getD 0 - bit)) with
    | (true, groles) => .error (true, groles)
    | (false, groles) => .ok (groles.insert guid ((groles.find? guid).getD 0 + bit), count)
  else if count = required then .error (false, groles)
  else .ok (groles, (count + 1) % 256)

/-- The loop of `CheckGroupRoles` over the players. -/
def countRoles (dungeon : LFGDungeonData) (retry : LfgRolesMap → Bool × LfgRolesMap) :
    List Guid → LfgRolesMap → Nat → Nat → Nat → Except (Bool × LfgRolesMap) (Bool × LfgRolesMap)
  | [], groles, damage, healer, tank =>
    .ok (tank + healer + damage = groles.entries.length % 256, groles)
  | guid :: rest, groles, damage, healer, tank => do
    let role := (groles.find? guid).getD 0 &&& ~~~playerRoleLeader
    if role = 0 then .error (false, groles)
    else
      let (groles, damage) ←
        countRole retry role playerRoleDamage dungeon.requiredDamagedealers guid groles damage
      let (groles, healer) ←
        countRole retry role playerRoleHealer dungeon.requiredHeals guid groles healer
      let (groles, tank) ←
        countRole retry role playerRoleTank dungeon.requiredTanks guid groles tank
      countRoles dungeon retry rest groles damage healer tank

/-- `CheckGroupRoles` on fuel: every inner call has one role bit less. -/
def checkRoles (dungeon : LFGDungeonData) : Nat → LfgRolesMap → Bool × LfgRolesMap
  | 0, groles => (false, groles)
  | fuel + 1, groles =>
    if groles.entries.isEmpty then (false, groles)
    else
      match countRoles dungeon (checkRoles dungeon fuel) groles.keys groles 0 0 0 with
      | .error result => result
      | .ok result => result

/-- The roles can be given so that the group is complete. -/
def checkGroupRoles (groles : LfgRolesMap) (dungeon : LFGDungeonData) : Bool × LfgRolesMap :=
  checkRoles dungeon (3 * groles.entries.length + 1) groles

/-! ## Cache keys and queue data -/

/-- The text of a guid in a key of the cache. -/
def guidText (guid : Guid) : CacheKey := Nat.toDigits 10 guid

/-- The guids in order, without repetitions, separated by `|`. -/
def concatenateGuids (check : List Guid) : CacheKey :=
  List.intercalate ['|'] ((OrderedMap.ofKeys check).keys.map guidText)

/-- `key.find(guid)`: the digits of the guid stand somewhere in the key. -/
def mentions (key : CacheKey) (guid : Guid) : Bool := guidText guid <:+: key

/-- `InitializeGroupSetup`. -/
def LfgQueueData.initializeGroupSetup (view : LfgView) (data : LfgQueueData) : LfgQueueData :=
  match data.dungeons.keys.head?.bind view.getLFGDungeon with
  | none => { data with tanks := 255, healers := 255, dps := 255 }
  | some dungeon =>
    { data with
      tanks := UInt8.ofNat dungeon.requiredTanks
      healers := UInt8.ofNat dungeon.requiredHeals
      dps := UInt8.ofNat dungeon.requiredDamagedealers }

def LfgQueueData.new (view : LfgView) (joinTime : Nat) (dungeons : LfgDungeonSet)
    (roles : LfgRolesMap) : LfgQueueData :=
  LfgQueueData.initializeGroupSetup view ⟨joinTime, 0, 0, 0, dungeons, roles, []⟩

/-- One player's role is taken off the roles that are still needed. -/
def LfgQueueData.takeRole (data : LfgQueueData) (role : UInt8) : LfgQueueData :=
  if role &&& playerRoleTank ≠ 0 ∧ data.tanks ≠ 0 then { data with tanks := data.tanks - 1 }
  else if role &&& playerRoleHealer ≠ 0 ∧ data.healers ≠ 0 then
    { data with healers := data.healers - 1 }
  else if data.dps ≠ 0 then { data with dps := data.dps - 1 }
  else data

/-- The number of entries that a key lists, as a `uint8`. -/
def keySize (key : CacheKey) : Nat := (key.count '|' + 1) % 256

/-- `UpdateBestCompatibleInQueue`. -/
def LfgQueueData.updateBestCompatible (view : LfgView) (key : CacheKey) (roles : LfgRolesMap)
    (data : LfgQueueData) : LfgQueueData :=
  let storedSize := if data.bestCompatible = [] then 0 else keySize data.bestCompatible
  if keySize key ≤ storedSize then data
  else
    let data := LfgQueueData.initializeGroupSetup view { data with bestCompatible := key }
    roles.entries.foldl (fun data entry => data.takeRole entry.2) data

namespace LFGQueue

def empty : LFGQueue := ⟨.empty, .empty, [], []⟩

/-- `QueueDataStore[guid]`, as far as it is read. -/
def data (q : LFGQueue) (view : LfgView) (guid : Guid) : LfgQueueData :=
  (q.queueDataStore.find? guid).getD (LfgQueueData.new view view.now .empty .empty)

/-- The dungeons that an entry selected. -/
def dungeonsOf (q : LFGQueue) (guid : Guid) : LfgDungeonSet :=
  ((q.queueDataStore.find? guid).map LfgQueueData.dungeons).getD .empty

/-- The players of an entry with their roles. -/
def rolesOf (q : LFGQueue) (guid : Guid) : LfgRolesMap :=
  ((q.queueDataStore.find? guid).map LfgQueueData.roles).getD .empty

/-- `QueueDataStore[guid]` stores an entry when there is none. -/
def touch (q : LFGQueue) (view : LfgView) (guid : Guid) : LFGQueue :=
  { q with queueDataStore := q.queueDataStore.insert guid (q.data view guid) }

/-- Changes the data of an entry that is stored. -/
def modifyData (q : LFGQueue) (guid : Guid) (f : LfgQueueData → LfgQueueData) : LFGQueue :=
  match q.queueDataStore.find? guid with
  | none => q
  | some data => { q with queueDataStore := q.queueDataStore.insert guid (f data) }

/-- The entry waits for its first search. -/
def addToNewQueue (q : LFGQueue) (guid : Guid) : LFGQueue :=
  { q with newToQueueStore := q.newToQueueStore ++ [guid] }

def removeFromNewQueue (q : LFGQueue) (guid : Guid) : LFGQueue :=
  { q with newToQueueStore := q.newToQueueStore.filter (· ≠ guid) }

/-- The entry waits for others. -/
def addToCurrentQueue (q : LFGQueue) (guid : Guid) : LFGQueue :=
  { q with currentQueueStore := q.currentQueueStore ++ [guid] }

def removeFromCurrentQueue (q : LFGQueue) (guid : Guid) : LFGQueue :=
  { q with currentQueueStore := q.currentQueueStore.filter (· ≠ guid) }

/-- The cache forgets the combinations of an entry. -/
def removeFromCompatibles (q : LFGQueue) (guid : Guid) : LFGQueue :=
  { q with compatibleMapStore := q.compatibleMapStore.filter fun key _ => !mentions key guid }

def setCompatibles (q : LFGQueue) (key : CacheKey) (compatibles : LfgCompatibility) : LFGQueue :=
  let roles := ((q.compatibleMapStore.find? key).map LfgCompatibilityData.roles).getD .empty
  { q with compatibleMapStore := q.compatibleMapStore.insert key ⟨compatibles, roles⟩ }

def setCompatibilityData (q : LFGQueue) (key : CacheKey) (data : LfgCompatibilityData) : LFGQueue :=
  { q with compatibleMapStore := q.compatibleMapStore.insert key data }

/-- What the cache knows of a combination. -/
def getCompatibles (q : LFGQueue) (key : CacheKey) : LfgCompatibility :=
  ((q.compatibleMapStore.find? key).map LfgCompatibilityData.compatibility).getD .pending

/-- `FindBestCompatibleInQueue`. -/
def findBestCompatible (q : LFGQueue) (view : LfgView) (guid : Guid) (data : LfgQueueData) :
    LfgQueueData :=
  q.compatibleMapStore.entries.foldl
    (fun data entry =>
      if entry.2.compatibility = .withLessPlayers ∧ mentions entry.1 guid then
        data.updateBestCompatible view entry.1 entry.2.roles
      else data)
    data

/-- An entry whose data is stored waits again. -/
def addToQueue (q : LFGQueue) (guid : Guid) : LFGQueue :=
  if q.queueDataStore.contains guid then q.addToNewQueue guid else q

/-- The entry leaves lists, cache and store. -/
def removeFromQueue (q : LFGQueue) (view : LfgView) (guid : Guid) : LFGQueue :=
  let q := ((q.removeFromNewQueue guid).removeFromCurrentQueue guid).removeFromCompatibles guid
  let store := q.queueDataStore.mapValues fun other data =>
    if other ≠ guid ∧ mentions data.bestCompatible guid then
      q.findBestCompatible view other { data with bestCompatible := [] }
    else data
  { q with queueDataStore := store.erase guid }

/-- An entry is stored with its data and waits. -/
def addQueueData (q : LFGQueue) (view : LfgView) (guid : Guid) (joinTime : Nat)
    (dungeons : LfgDungeonSet) (roles : LfgRolesMap) : LFGQueue :=
  let data := LfgQueueData.new view joinTime dungeons roles
  { q with queueDataStore := q.queueDataStore.insert guid data }.addToQueue guid

end LFGQueue

/-! ## Judging a combination -/

/-- What `CheckCompatibility` finds out about a combination itself. -/
inductive Verdict
  | noDungeons
  | wrongGroupSize
  | multipleLfgGroups
  | tooMuchPlayers
  | hasIgnores
  | noRoles
  | withLessPlayers (roles : LfgRolesMap)
  | badStates
  | propose (proposal : LfgProposal)
  deriving DecidableEq

/-- A random element of a set of dungeons until one is known. -/
def selectDungeon (view : LfgView) (rand : Nat → Nat) :
    Nat → LfgDungeonSet → Nat → Option (Nat × LFGDungeonData) × Nat
  | 0, _, drawn => (none, drawn)
  | fuel + 1, dungeons, drawn =>
    match dungeons.keys[rand drawn % dungeons.entries.length]? with
    | none => (none, drawn)
    | some dungeonId =>
      match view.getLFGDungeon dungeonId with
      | some dungeon => (some (dungeonId, dungeon), drawn + 1)
      | none => selectDungeon view rand fuel (dungeons.erase dungeonId) (drawn + 1)

/-- The dungeons that all entries selected. -/
def commonDungeons (dungeonsOf : Guid → LfgDungeonSet) : List Guid → LfgDungeonSet
  | [] => .empty
  | guid :: rest =>
    rest.foldl (fun dungeons guid => dungeons.filter fun id _ => (dungeonsOf guid).contains id)
      (dungeonsOf guid)

/-- The numbers of players and of dungeon groups, the first such group, and the group of
every player. -/
structure PlayerCount where
  numPlayers : Nat
  numLfgGroups : Nat
  group : Guid
  groups : OrderedMap Guid Guid

/-- "Check if more than one LFG group and number of players joining". -/
def countPlayers (view : LfgView) (rolesOf : Guid → LfgRolesMap) (maxGroupSize : Nat) :
    List Guid → PlayerCount → PlayerCount
  | [], count => count
  | guid :: rest, count =>
    if count.numLfgGroups ≤ 1 ∧ count.numPlayers ≤ maxGroupSize then
      let roles := rolesOf guid
      let groups := roles.keys.foldl
        (fun groups player => groups.insert player (if view.isGroupGuid guid then guid else 0))
        count.groups
      let isLfgGroup := view.isLfgGroup guid
      countPlayers view rolesOf maxGroupSize rest
        { numPlayers := (count.numPlayers + roles.entries.length) % 256
          numLfgGroups := if isLfgGroup then count.numLfgGroups + 1 else count.numLfgGroups
          group := if isLfgGroup ∧ count.numLfgGroups = 0 then guid else count.group
          groups }
    else count

/-- A player joins the roles of the proposal unless he and one of them ignore each other. -/
def addProposalRole (view : LfgView) (proposalRoles : LfgRolesMap) (entry : Guid × UInt8) :
    LfgRolesMap :=
  if proposalRoles.keys.any fun other => other ≠ entry.1 && view.hasIgnore entry.1 other then
    proposalRoles
  else proposalRoles.insert entry.1 entry.2

/-- The roles of all entries, without players who ignore each other. -/
def collectRoles (view : LfgView) (rolesOf : Guid → LfgRolesMap) (check : List Guid) :
    LfgRolesMap :=
  check.foldl
    (fun proposalRoles guid => (rolesOf guid).entries.foldl (addProposalRole view) proposalRoles)
    .empty

/-- The choice of the leader: those who asked for it come first, `urand(0, 1)` decides. -/
def assignLeader (rand : Nat → Nat) : List (Guid × UInt8) → Bool → Guid → Nat → Guid × Nat
  | [], _, leader, drawn => (leader, drawn)
  | (guid, role) :: rest, found, leader, drawn =>
    if role &&& playerRoleLeader ≠ 0 then
      if !found ∨ leader = 0 then assignLeader rand rest true guid drawn
      else if rand drawn % 2 ≠ 0 then assignLeader rand rest true guid (drawn + 1)
      else assignLeader rand rest true leader (drawn + 1)
    else if found then assignLeader rand rest found leader drawn
    else if leader = 0 then assignLeader rand rest found guid drawn
    else if rand drawn % 2 ≠ 0 then assignLeader rand rest found guid (drawn + 1)
    else assignLeader rand rest found leader (drawn + 1)

/-- The players of a proposal; those of the group that is refilled have agreed. -/
def proposalPlayers (count : PlayerCount) (isNew : Bool) (roles : LfgRolesMap) :
    OrderedMap Guid LfgProposalPlayer :=
  roles.entries.foldl
    (fun players entry =>
      let group := (count.groups.find? entry.1).getD 0
      let accept := if !isNew ∧ group ≠ 0 ∧ group = count.group then .agree else .pending
      players.insert entry.1 ⟨entry.2, accept, group⟩)
    .empty

/-- The roles of a combination after `CheckGroupRoles`, and whether it accepts them. A
single entry was checked before it joined. -/
def proposalRoles (view : LfgView) (rolesOf : Guid → LfgRolesMap) (check : List Guid)
    (dungeon : LFGDungeonData) : Bool × LfgRolesMap :=
  checkGroupRoles
    (if check.length > 1 then collectRoles view rolesOf check else rolesOf (check.headD 0)) dungeon

/-- The number of players who are left out because of ignores, as a `uint8`. -/
def ignoredPlayers (view : LfgView) (rolesOf : Guid → LfgRolesMap) (check : List Guid)
    (numPlayers : Nat) : Nat :=
  (numPlayers + 256 - (collectRoles view rolesOf check).entries.length % 256) % 256

/-- The judgement of a combination after its sub-combinations. -/
def evaluate (view : LfgView) (rand : Nat → Nat) (dungeonsOf : Guid → LfgDungeonSet)
    (rolesOf : Guid → LfgRolesMap) (check : List Guid) (drawn : Nat) : Verdict × Nat :=
  let dungeons := commonDungeons dungeonsOf check
  match selectDungeon view rand dungeons.entries.length dungeons drawn with
  | (none, drawn) => (.noDungeons, drawn)
  | (some (dungeonId, dungeon), drawn) =>
    let size := dungeon.getMaxGroupSize
    let count := countPlayers view rolesOf size check ⟨0, 0, 0, .empty⟩
    let (rolesOk, roles) := proposalRoles view rolesOf check dungeon
    if check.length > size then (.wrongGroupSize, drawn)
    else if count.numLfgGroups > 1 then (.multipleLfgGroups, drawn)
    else if count.numPlayers > size then (.tooMuchPlayers, drawn)
    else if check.length > 1 ∧ ignoredPlayers view rolesOf check count.numPlayers ≠ 0 then
      (.hasIgnores, drawn)
    else if check.length > 1 ∧ !rolesOk then (.noRoles, drawn)
    else if count.numPlayers ≠ size then (.withLessPlayers roles, drawn)
    else if !view.allQueued check then (.badStates, drawn)
    else
      let isNew := count.numLfgGroups ≠ 1 || view.getOldState (check.headD 0) ≠ .dungeon
      let (leader, drawn) := assignLeader rand roles.entries false 0 drawn
      (.propose
        { dungeonId
          state := .initiating
          group := count.group
          leader
          cancelTime := view.now + lfgTimeProposal
          isNew
          queues := check
          players := proposalPlayers count isNew roles }, drawn)

/-- A queue while it is searched: proposals are added to the manager's store. -/
structure Matching where
  queue : LFGQueue
  proposals : OrderedMap Nat LfgProposal
  lfgProposalId : Nat
  drawn : Nat

namespace Matching

def addProposal (s : Matching) (proposal : LfgProposal) : Matching :=
  let id := (s.lfgProposalId + 1) % 2 ^ 32
  { s with proposals := s.proposals.insert id proposal, lfgProposalId := id }

def setCompatibles (s : Matching) (check : List Guid) (compatibles : LfgCompatibility) : Matching :=
  { s with queue := s.queue.setCompatibles (concatenateGuids check) compatibles }

/-- The effects of a verdict and what `CheckCompatibility` returns. -/
def record (view : LfgView) (s : Matching) (check : List Guid) :
    Verdict → LfgCompatibility × Matching
  | .noDungeons => (.noDungeons, s.setCompatibles check .noDungeons)
  | .wrongGroupSize => (.wrongGroupSize, s)
  | .multipleLfgGroups => (.multipleLfgGroups, s.setCompatibles check .multipleLfgGroups)
  | .tooMuchPlayers => (.tooMuchPlayers, s.setCompatibles check .tooMuchPlayers)
  | .hasIgnores => (.hasIgnores, s.setCompatibles check .hasIgnores)
  | .noRoles => (.noRoles, s.setCompatibles check .noRoles)
  | .withLessPlayers roles =>
    let key := concatenateGuids check
    let queue := check.foldl
      (fun q guid => q.modifyData guid (LfgQueueData.updateBestCompatible view key roles)) s.queue
    (.withLessPlayers,
      { s with queue := queue.setCompatibilityData key ⟨.withLessPlayers, roles⟩ })
  | .badStates => (.badStates, s.setCompatibles check .badStates)
  | .propose proposal =>
    let queue := proposal.queues.foldl
      (fun q guid => (q.removeFromNewQueue guid).removeFromCurrentQueue guid) s.queue
    let s := { s with queue }.addProposal proposal
    (.isMatch, s.setCompatibles check .isMatch)

/-- `CheckCompatibility` after the check of all but the first entry. -/
def checkOwn (view : LfgView) (rand : Nat → Nat) (check : List Guid) (s : Matching) :
    LfgCompatibility × Matching :=
  let s := { s with queue := check.foldl (fun q guid => q.touch view guid) s.queue }
  let (verdict, drawn) := evaluate view rand s.queue.dungeonsOf s.queue.rolesOf check s.drawn
  record view { s with drawn } check verdict

/-- All but the new entry first, then the whole combination. -/
def checkCompatibility (view : LfgView) (rand : Nat → Nat) :
    List Guid → Matching → LfgCompatibility × Matching
  | [], s => (.wrongGroupSize, s)
  | front :: rest, s =>
    if rest.length ≥ 2 then
      let (child, s) := checkCompatibility view rand rest s
      if child.isIncompatible then (child, s.setCompatibles (front :: rest) child)
      else checkOwn view rand (front :: rest) s
    else checkOwn view rand (front :: rest) s

/-- The first part of `FindNewGroups`: the verdict on a combination, cached or not. -/
def compatibility (view : LfgView) (rand : Nat → Nat) (check : List Guid) (s : Matching) :
    LfgCompatibility × Matching :=
  let key := concatenateGuids check
  let cached := s.queue.getCompatibles key
  let (compatibles, s) :=
    if cached = .pending then checkCompatibility view rand check s else (cached, s)
  if compatibles = .badStates ∧ view.allQueued check then
    (.isMatch, s.setCompatibles check .isMatch)
  else (compatibles, s)

mutual

/-- `FindNewGroups`, with the entries of `all` that are left. -/
def findNewGroups (view : LfgView) (rand : Nat → Nat) :
    Nat → List Guid → List Guid → Matching → LfgCompatibility × List Guid × Matching
  | 0, _, all, s => (.pending, all, s)
  | fuel + 1, check, all, s =>
    let (compatibles, s) := compatibility view rand check s
    if compatibles ≠ .withLessPlayers then (compatibles, all, s)
    else matchQueued view rand fuel check all s

/-- "Try to match with queued groups". -/
def matchQueued (view : LfgView) (rand : Nat → Nat) :
    Nat → List Guid → List Guid → Matching → LfgCompatibility × List Guid × Matching
  | 0, _, all, s => (.withLessPlayers, all, s)
  | _ + 1, _, [], s => (.withLessPlayers, [], s)
  | fuel + 1, check, next :: all, s =>
    match findNewGroups view rand fuel (check ++ [next]) all s with
    | (.isMatch, all, s) => (.isMatch, all, s)
    | (_, all, s) => matchQueued view rand fuel check all s

end

/-- One round of the loop of `FindGroups`; `none` when there is no new entry. -/
def findGroup (view : LfgView) (rand : Nat → Nat) (s : Matching) : Option (Bool × Matching) :=
  match s.queue.newToQueueStore with
  | [] => none
  | frontguid :: _ =>
    let s := { s with queue := s.queue.removeFromNewQueue frontguid }
    let temporalList := s.queue.currentQueueStore
    match findNewGroups view rand (2 * temporalList.length + 1) [frontguid] temporalList s with
    | (.isMatch, _, s) => some (true, s)
    | (_, _, s) => some (false, { s with queue := s.queue.addToCurrentQueue frontguid })

/-- The loop of `FindGroups`; every round takes at least one new entry. -/
def findGroupsLoop (view : LfgView) (rand : Nat → Nat) : Nat → Nat → Matching → Nat × Matching
  | 0, proposals, s => (proposals, s)
  | fuel + 1, proposals, s =>
    match s.findGroup view rand with
    | none => (proposals, s)
    | some (found, s) =>
      findGroupsLoop view rand fuel (if found then (proposals + 1) % 256 else proposals) s

/-- `FindGroups`: every new entry is matched with those that wait. -/
def findGroups (view : LfgView) (rand : Nat → Nat) (s : Matching) : Nat × Matching :=
  findGroupsLoop view rand s.queue.newToQueueStore.length 0 s

end Matching

end Cataclysm.Lfg
