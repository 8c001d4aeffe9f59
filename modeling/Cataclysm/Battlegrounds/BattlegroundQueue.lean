import Cataclysm.Lib.OrderedMap
import Cataclysm.Players.Money

/-!
# Battleground queues

A queue holds groups of players, in six lists for each level bracket. Matching moves groups
between the lists (premade groups that waited too long, teams that change their faction) and
invites them to a battleground; a player who leaves a rated group takes the group with him.

## Implementation notes

A group is known by a number, its address; `groups` holds the groups that are allocated.
`PlayerQueueInfo` is only a pointer to the group, so `queuedPlayers` maps a player to a group
and `players` is a set of guids. Wait times, invite events, packets and announcements are left
out, and so are the ratings that a match hands to the battleground.

`FillPlayersToBG` and `FillXPlayersToBG` choose groups for a battleground and set the team of
mixed groups; what they choose comes with the update, and anything may come. The same holds
for the instances that `CreateNewBattleground` returns: it fails when none is left.
-/

namespace Cataclysm.Battlegrounds

def maxBattlegroundBrackets : Nat := 16
def battlegroundAA : Nat := 6
def battlegroundRated10vs10 : Nat := 100
def arenaType3v3Solo : Nat := 4

/-- A bracket is an index of the queues. -/
abbrev Bracket := Fin maxBattlegroundBrackets

/-- The two sides. -/
inductive Team
  | alliance
  | horde
  deriving DecidableEq

def Team.other : Team → Team
  | .alliance => .horde
  | .horde => .alliance

/-- `BattlegroundQueueGroupTypes`. -/
inductive GroupType
  | premadeAlliance
  | premadeHorde
  | normalAlliance
  | normalHorde
  | mixed
  | rbg
  deriving DecidableEq

namespace GroupType

def premade : Team → GroupType
  | .alliance => premadeAlliance
  | .horde => premadeHorde

def normal : Team → GroupType
  | .alliance => normalAlliance
  | .horde => normalHorde

/-- The first `BG_NORMAL_QUEUE_GROUP_TYPES_COUNT` types. -/
def normalTypes : List GroupType :=
  [premadeAlliance, premadeHorde, normalAlliance, normalHorde, mixed]

end GroupType

/-- One of the lists of groups. -/
abbrev Place := Bracket × GroupType

/-- A group in the queue. -/
structure GroupQueueInfo where
  players : OrderedMap Nat Unit
  team : Team
  bgTypeId : Nat
  isRated : Bool
  arenaType : Nat
  arenaTeamId : Nat
  joinTime : Nat
  isInvitedToBGInstanceGUID : Nat
  arenaMatchmakerRating : Nat
  ratingRange : Nat
  ratingRangeIncreaseCounter : Nat
  isSoloQueueGroup : Bool
  deriving DecidableEq

namespace GroupQueueInfo

/-- The players that the group still has. -/
def size (group : GroupQueueInfo) : Nat := group.players.entries.length

def isInvited (group : GroupQueueInfo) : Bool := group.isInvitedToBGInstanceGUID != 0

/-- The lists that `RemovePlayer` searches for the group, in the order of its loop. -/
def searchedTypes (group : GroupQueueInfo) : List GroupType :=
  if group.isRated = false ∨ group.arenaType ≠ 0 then GroupType.normalTypes else [.rbg]

/-- `IncreaseTeamMMrRange`. -/
def increaseTeamMMrRange (group : GroupQueueInfo) : GroupQueueInfo :=
  { group with
    ratingRange :=
      if 0 < group.ratingRangeIncreaseCounter then group.ratingRange + 100 else group.ratingRange
    ratingRangeIncreaseCounter := group.ratingRangeIncreaseCounter + 1 }

end GroupQueueInfo

/-- The queue of one kind of battleground. -/
structure BattlegroundQueue where
  queuedPlayers : OrderedMap Nat Nat
  groups : OrderedMap Nat GroupQueueInfo
  queuedGroups : Place → List Nat
  nextGroup : Nat

/-- A player of the solo queue, as `AddSoloQueueGroup` reads him. -/
structure SoloQueueInfo where
  playerGuid : Nat
  arenaMatchmakerRating : Nat
  teamId : Nat
  ratingRange : Nat
  ratingRangeIncreaseCounter : Nat
  lastMmrUpdate : Nat
  deriving DecidableEq

/-- What `AddGroup` reads of the leader, the group and its other arguments; `members` are the
online members of the group, or the leader alone. -/
structure JoinRequest where
  members : List Nat
  team : Team
  bgTypeId : Nat
  bracket : Bracket
  arenaType : Nat
  isRated : Bool
  isPremade : Bool
  matchmakerRating : Nat
  arenaTeamId : Nat
  crossFactionEnabled : Bool
  now : Nat
  deriving DecidableEq

/-- `getMSTimeDiff`. -/
def getMSTimeDiff (oldMSTime newMSTime : Nat) : Nat :=
  if oldMSTime > newMSTime then uint32 (0xFFFFFFFF - oldMSTime + newMSTime)
  else newMSTime - oldMSTime

namespace BattlegroundQueue

def empty : BattlegroundQueue := ⟨OrderedMap.empty, OrderedMap.empty, fun _ => [], 0⟩

/-! ### Joining -/

/-- The list that a new group goes to. -/
def joinIndex (r : JoinRequest) : GroupType :=
  if r.crossFactionEnabled = true ∧ r.arenaType = 0 ∧ r.isRated = false then .mixed
  else if r.bgTypeId = battlegroundRated10vs10 ∧ r.isRated = true then .rbg
  else if r.isRated = false ∧ r.isPremade = false then .normal r.team
  else .premade r.team

/-- The players of a new group point to it, and the group goes to the end of a list. -/
def enqueue (q : BattlegroundQueue) (players : List Nat) (group : GroupQueueInfo) (place : Place) :
    BattlegroundQueue where
  queuedPlayers := players.foldl (fun m guid => m.insert guid q.nextGroup) q.queuedPlayers
  groups := q.groups.insert q.nextGroup { group with players := OrderedMap.ofKeys players }
  queuedGroups := Function.update q.queuedGroups place (q.queuedGroups place ++ [q.nextGroup])
  nextGroup := q.nextGroup + 1

/-- A group joins the queue. -/
def addGroup (q : BattlegroundQueue) (r : JoinRequest) : BattlegroundQueue :=
  q.enqueue r.members
    { players := OrderedMap.empty
      team := r.team
      bgTypeId := r.bgTypeId
      isRated := r.isRated
      arenaType := r.arenaType
      arenaTeamId := r.arenaTeamId
      joinTime := r.now
      isInvitedToBGInstanceGUID := 0
      arenaMatchmakerRating := r.matchmakerRating
      ratingRange := 0
      ratingRangeIncreaseCounter := 0
      isSoloQueueGroup := false }
    (r.bracket, joinIndex r)

/-- The team id of a solo group is drawn between 50000 and 100000. -/
def addSoloQueueGroup (q : BattlegroundQueue) (playerList : List SoloQueueInfo)
    (bracket : Bracket) (team : Team) (urand now : Nat) : BattlegroundQueue :=
  q.enqueue (playerList.map SoloQueueInfo.playerGuid)
    { players := OrderedMap.empty
      team := team
      bgTypeId := battlegroundAA
      isRated := true
      arenaType := arenaType3v3Solo
      arenaTeamId := urand
      joinTime := now
      isInvitedToBGInstanceGUID := 0
      arenaMatchmakerRating := (playerList.map fun info => info.arenaMatchmakerRating / 3).sum
      ratingRange := 0
      ratingRangeIncreaseCounter := 0
      isSoloQueueGroup := true }
    (bracket, .premade team)

/-! ### Leaving -/

/-- The search of `RemovePlayer`: brackets from the highest down, in a bracket the last of the
searched lists that has the group. -/
def findPlace (q : BattlegroundQueue) (g : Nat) (group : GroupQueueInfo) : Option Place :=
  (List.finRange maxBattlegroundBrackets).reverse.findSome? fun bracket =>
    (group.searchedTypes.reverse.find? fun type => g ∈ q.queuedGroups (bracket, type)).map
      fun type => (bracket, type)

/-- `RemovePlayer` up to its recursive call, with the player that it goes on with. -/
def removeOne (q : BattlegroundQueue) (guid : Nat) : BattlegroundQueue × Option Nat :=
  match q.queuedPlayers.find? guid with
  | none => (q, none)
  | some g =>
    match q.groups.find? g with
    | none => (q, none)
    | some group =>
      match q.findPlace g group with
      | none => (q, none)
      | some place =>
        let group := { group with players := group.players.erase guid }
        match group.players.keys with
        | [] =>
          ({ q with
            queuedPlayers := q.queuedPlayers.erase guid
            groups := q.groups.erase g
            queuedGroups :=
              Function.update q.queuedGroups place ((q.queuedGroups place).erase g) }, none)
        | next :: _ =>
          ({ q with
            queuedPlayers := q.queuedPlayers.erase guid
            groups := q.groups.insert g group },
            if group.isInvited = false ∧ group.isRated = true then some next else none)

/-- The recursion of `RemovePlayer`, and the players it removes besides the first. -/
def removePlayers : Nat → BattlegroundQueue → Nat → BattlegroundQueue × List Nat
  | 0, q, _ => (q, [])
  | fuel + 1, q, guid =>
    match q.removeOne guid with
    | (q, none) => (q, [])
    | (q, some next) =>
      let (q, others) := removePlayers fuel q next
      (q, next :: others)

/-- Each call removes a queued player, so as many calls are enough. -/
def removePlayer (q : BattlegroundQueue) (guid : Nat) : BattlegroundQueue × List Nat :=
  q.removePlayers (q.queuedPlayers.entries.length + 1) guid

/-! ### Invitations and moves -/

/-- One group changes. -/
def modifyGroup (q : BattlegroundQueue) (g : Nat) (f : GroupQueueInfo → GroupQueueInfo) :
    BattlegroundQueue :=
  match q.groups.find? g with
  | some group => { q with groups := q.groups.insert g (f group) }
  | none => q

/-- `InviteGroupToBG`. -/
def inviteGroupToBG (q : BattlegroundQueue) (g instanceId : Nat) (side : Team) :
    BattlegroundQueue :=
  q.modifyGroup g fun group =>
    { group with
      team := side
      isInvitedToBGInstanceGUID :=
        if group.isInvited then group.isInvitedToBGInstanceGUID else instanceId }

/-- Invitations of selected groups under the team that they have. -/
def inviteSelected (q : BattlegroundQueue) (selected : List Nat) (instanceId : Nat) :
    BattlegroundQueue :=
  selected.foldl (fun q g =>
    match q.groups.find? g with
    | some group => q.inviteGroupToBG g instanceId group.team
    | none => q) q

/-- `push_front` on one list and `erase` from another. -/
def moveFront (q : BattlegroundQueue) (g : Nat) (source target : Place) : BattlegroundQueue :=
  let lists := Function.update q.queuedGroups target (g :: q.queuedGroups target)
  { q with queuedGroups := Function.update lists source ((lists source).erase g) }

def isInvited (q : BattlegroundQueue) (g : Nat) : Bool :=
  match q.groups.find? g with
  | some group => group.isInvited
  | none => true

/-! ### Selection pools -/

/-- The groups that were chosen for a team. -/
structure SelectionPool where
  selectedGroups : List Nat
  playerCount : Nat

namespace SelectionPool

def init : SelectionPool := ⟨[], 0⟩

/-- A group is chosen while there is room. -/
def addGroup (pool : SelectionPool) (q : BattlegroundQueue) (g desiredCount : Nat) :
    SelectionPool × Bool :=
  match q.groups.find? g with
  | none => (pool, pool.playerCount < desiredCount)
  | some group =>
    if group.isInvited = false ∧ pool.playerCount + group.size ≤ desiredCount then
      (⟨pool.selectedGroups ++ [g], pool.playerCount + group.size⟩, true)
    else (pool, pool.playerCount < desiredCount)

/-- The groups of a list that are not invited go into the pool until it is full. -/
def fill (q : BattlegroundQueue) (desiredCount : Nat) :
    List Nat → SelectionPool → SelectionPool
  | [], pool => pool
  | g :: rest, pool =>
    if q.isInvited g then fill q desiredCount rest pool
    else match pool.addGroup q g desiredCount with
      | (pool, true) => fill q desiredCount rest pool
      | (pool, false) => pool

/-- The first loop of `CheckNormalMatch`, with the list from the group where it stopped. -/
def fillUntil (q : BattlegroundQueue) (minPlayers maxPlayers : Nat) :
    List Nat → SelectionPool → SelectionPool × List Nat
  | [], pool => (pool, [])
  | g :: rest, pool =>
    if q.isInvited g then fillUntil q minPlayers maxPlayers rest pool
    else
      let (pool, _) := pool.addGroup q g maxPlayers
      if minPlayers ≤ pool.playerCount then (pool, g :: rest)
      else fillUntil q minPlayers maxPlayers rest pool

end SelectionPool

/-- One pool for each team. -/
abbrev Pools := Team → SelectionPool

/-! ### Matching -/

/-- Groups that the crossfaction code and `FillPlayersToBG` select, and the teams it sets. -/
structure Selection where
  teams : List (Nat × Team)
  selected : List Nat

/-- The battleground template with the team sizes in force. -/
structure Template where
  isArena : Bool
  isRatedBattleground : Bool
  minPlayersPerTeam : Nat
  maxPlayersPerTeam : Nat

/-- The arguments of `BattlegroundQueueUpdate` and what it reads from the server. -/
structure UpdateArgs where
  bracket : Bracket
  arenaType : Nat
  isRated : Bool
  arenaRating : Nat
  now : Nat
  runningBattlegrounds : List (Nat × Selection)
  template : Option Template
  instances : List Nat
  crossFaction : Selection
  crossFactionMatch : Bool
  invitationType : Nat
  isTesting : Bool
  isArenaTesting : Bool
  premadeGroupWaitForMatch : Nat
  maxRatingDifference : Nat
  ratingDiscardTimer : Nat
  canJoinBattleground : Nat → Bool

/-- Mixed groups get the team that was chosen for them. -/
def setTeams (q : BattlegroundQueue) (bracket : Bracket) (teams : List (Nat × Team)) :
    BattlegroundQueue :=
  teams.foldl (fun q choice =>
    if choice.1 ∈ q.queuedGroups (bracket, .mixed) then
      q.modifyGroup choice.1 fun group => { group with team := choice.2 }
    else q) q

/-- The groups of a selection that stand in the normal lists or the mixed list. -/
def selectable (q : BattlegroundQueue) (bracket : Bracket) (selected : List Nat) : List Nat :=
  selected.filter fun g => g ∈ q.queuedGroups (bracket, .normalAlliance) ∨
    g ∈ q.queuedGroups (bracket, .normalHorde) ∨ g ∈ q.queuedGroups (bracket, .mixed)

/-- Invitations to a battleground that is already running. -/
def fillPlayersToBG (q : BattlegroundQueue) (bracket : Bracket) (instanceId : Nat)
    (selection : Selection) : BattlegroundQueue :=
  let q := q.setTeams bracket selection.teams
  q.inviteSelected (q.selectable bracket selection.selected) instanceId

/-- The first premade group of a team that waited too long or became too small turns normal. -/
def movePremade (q : BattlegroundQueue) (bracket : Bracket) (minPlayersPerTeam timeBefore : Nat)
    (team : Team) : BattlegroundQueue :=
  match q.queuedGroups (bracket, .premade team) with
  | [] => q
  | g :: _ =>
    match q.groups.find? g with
    | none => q
    | some group =>
      if group.isInvited = false ∧
          (group.joinTime < timeBefore ∨ group.size < minPlayersPerTeam) then
        q.moveFront g (bracket, .premade team) (bracket, .normal team)
      else q

/-- Two premade groups can play each other. -/
def checkPremadeMatch (q : BattlegroundQueue) (args : UpdateArgs)
    (minPlayersPerTeam maxPlayersPerTeam : Nat) : BattlegroundQueue × Option Pools :=
  let waiting := fun team =>
    (q.queuedGroups (args.bracket, .premade team)).find? fun g => !q.isInvited g
  match waiting .alliance, waiting .horde with
  | some aliGroup, some hordeGroup =>
    let aliPool := (SelectionPool.init.addGroup q aliGroup maxPlayersPerTeam).1
    let hordePool := (SelectionPool.init.addGroup q hordeGroup maxPlayersPerTeam).1
    let maxPlayers := min aliPool.playerCount hordePool.playerCount
    (q, some fun
      | .alliance =>
        .fill q maxPlayers (q.queuedGroups (args.bracket, .normalAlliance)) aliPool
      | .horde => .fill q maxPlayers (q.queuedGroups (args.bracket, .normalHorde)) hordePool)
  | _, _ =>
    let timeBefore := uint32 (args.now - args.premadeGroupWaitForMatch)
    ((q.movePremade args.bracket minPlayersPerTeam timeBefore .alliance).movePremade
      args.bracket minPlayersPerTeam timeBefore .horde, none)

/-- Both teams have enough players of normal groups. -/
def checkNormalMatch (q : BattlegroundQueue) (args : UpdateArgs) (minPlayers maxPlayers : Nat) :
    Pools × Bool :=
  let found := fun team => SelectionPool.fillUntil q minPlayers maxPlayers
    (q.queuedGroups (args.bracket, .normal team)) .init
  let pools : Pools := fun team => (found team).1
  let enough := minPlayers ≤ (pools .alliance).playerCount ∧
    minPlayers ≤ (pools .horde).playerCount
  let smaller : Team :=
    if (pools .horde).playerCount < (pools .alliance).playerCount then .horde else .alliance
  let balance := args.invitationType ≠ 0 ∧ enough
  let pools := if balance then
      Function.update pools smaller (SelectionPool.fill q (pools smaller.other).playerCount
        (found smaller).2.tail (pools smaller))
    else pools
  let difference : Int := int32 ((pools .horde).playerCount - (pools .alliance).playerCount)
  if balance ∧ 2 < difference.natAbs then (pools, false)
  else if args.isTesting = true ∧
      (0 < (pools .alliance).playerCount ∨ 0 < (pools .horde).playerCount) then (pools, true)
  else (pools, minPlayers ≤ (pools .alliance).playerCount ∧
    minPlayers ≤ (pools .horde).playerCount)

/-- A selected group changes its team and goes to the other team's normal list. -/
def changeTeam (q : BattlegroundQueue) (bracket : Bracket) (team : Team) (g : Nat) :
    BattlegroundQueue :=
  (q.modifyGroup g fun group => { group with team := team.other }).moveFront g
    (bracket, .normal team) (bracket, .normal team.other)

/-- The source takes the last group of an empty pool when both sizes are off; nothing is found
then. -/
def checkSkirmishForSameFaction (q : BattlegroundQueue) (bracket : Bracket)
    (minPlayersPerTeam : Nat) (pools : Pools) : BattlegroundQueue × Pools × Bool :=
  if (pools .alliance).playerCount < minPlayersPerTeam ∧
      (pools .horde).playerCount < minPlayersPerTeam then (q, pools, false)
  else
    let team : Team :=
      if (pools .horde).playerCount = minPlayersPerTeam then .horde else .alliance
    match (pools team).selectedGroups.getLast? with
    | none => (q, Function.update pools team.other .init, false)
    | some ginfo =>
      let later := ((q.queuedGroups (bracket, .normal team)).dropWhile (· ≠ ginfo)).tail
      let pool := SelectionPool.fill q minPlayersPerTeam later .init
      let pools := Function.update pools team.other pool
      if pool.playerCount ≠ minPlayersPerTeam then (q, pools, false)
      else (pool.selectedGroups.foldl (fun q g => q.changeTeam bracket team g) q, pools, true)

/-- All chosen groups are invited to the instance. -/
def inviteSelectedPools (q : BattlegroundQueue) (pools : Pools) (instanceId : Nat) :
    BattlegroundQueue :=
  (q.inviteSelected (pools .alliance).selectedGroups instanceId).inviteSelected
    (pools .horde).selectedGroups instanceId

/-- A loop over the rated groups, with the instances left; it stops when there is none. -/
structure Matching where
  queue : BattlegroundQueue
  instances : List Nat
  stopped : Bool

/-- The rating range of a group, widened when it waited long enough. -/
def widenRange (q : BattlegroundQueue) (args : UpdateArgs) (g : Nat) : BattlegroundQueue :=
  q.modifyGroup g fun group =>
    if 30 * 1000 * (group.ratingRangeIncreaseCounter + 1) < getMSTimeDiff group.joinTime args.now
    then group.increaseTeamMMrRange
    else group

def arenaMinRating (args : UpdateArgs) (group : GroupQueueInfo) : Nat :=
  let minRating := if group.arenaMatchmakerRating ≤ args.maxRatingDifference then 0
    else group.arenaMatchmakerRating - args.maxRatingDifference
  (max 0 (int32 (minRating - group.ratingRange))).toNat

def arenaMaxRating (args : UpdateArgs) (group : GroupQueueInfo) : Nat :=
  uint32 (min (int32 (group.arenaMatchmakerRating + args.maxRatingDifference + group.ratingRange))
    4000)

/-- The opponent test of the rated arena. -/
def isOpponent (q : BattlegroundQueue) (args : UpdateArgs) (front : GroupQueueInfo) (g : Nat) :
    Bool :=
  match q.groups.find? g with
  | none => false
  | some group =>
    !group.isInvited &&
      (arenaMinRating args front ≤ group.arenaMatchmakerRating &&
        group.arenaMatchmakerRating ≤ arenaMaxRating args front ||
        group.joinTime < uint32 (args.now - args.ratingDiscardTimer)) &&
      front.arenaTeamId != group.arenaTeamId

/-- The lists of the two teams after a match: each stands in the list of its side. -/
def takeSides (q : BattlegroundQueue) (bracket : Bracket) (aTeam hTeam : Nat)
    (aGroup hGroup : GroupQueueInfo) : BattlegroundQueue :=
  let q := if aGroup.team ≠ .alliance then
      q.moveFront aTeam (bracket, .premadeHorde) (bracket, .premadeAlliance) else q
  if hGroup.team ≠ .horde then
    q.moveFront hTeam (bracket, .premadeAlliance) (bracket, .premadeHorde) else q

/-- One round of the rated arena loop. A group that left the list meanwhile is invited, so the
loop may run over the list as it was at the start. -/
def matchArena (args : UpdateArgs) (s : Matching) (g : Nat) : Matching :=
  if s.stopped = true ∨ s.queue.isInvited g = true then s
  else
    let q := s.queue.widenRange args g
    match q.groups.find? g with
    | none => s
    | some aGroup =>
      match (q.queuedGroups (args.bracket, .premadeAlliance) ++
          q.queuedGroups (args.bracket, .premadeHorde)).find? (q.isOpponent args aGroup) with
      | none => { s with queue := q }
      | some hTeam =>
        match q.groups.find? hTeam, s.instances with
        | some hGroup, instanceId :: instances =>
          { queue := ((q.takeSides args.bracket g hTeam aGroup hGroup).inviteGroupToBG g
              instanceId .alliance).inviteGroupToBG hTeam instanceId .horde
            instances := instances
            stopped := false }
        | _, _ => { s with queue := q, stopped := true }

/-- The opponent test of the rated battleground. -/
def isRatedBattlegroundOpponent (q : BattlegroundQueue) (args : UpdateArgs)
    (front : GroupQueueInfo) (g : Nat) : Bool :=
  match q.groups.find? g with
  | none => false
  | some group =>
    !group.isInvited && arenaMinRating args front ≤ group.arenaMatchmakerRating &&
      group.arenaMatchmakerRating ≤ arenaMaxRating args front && args.canJoinBattleground g &&
      front.arenaTeamId != group.arenaTeamId

/-- Teams of different factions keep their side. -/
def ratedSide (aGroup hGroup : GroupQueueInfo) : Team :=
  if aGroup.team ≠ hGroup.team ∧ aGroup.team ≠ .alliance then .horde else .alliance

/-- One round of the rated battleground loop. -/
def matchRatedBattleground (args : UpdateArgs) (s : Matching) (g : Nat) : Matching :=
  if s.stopped = true ∨ s.queue.isInvited g = true then s
  else
    let q := s.queue.widenRange args g
    match q.groups.find? g with
    | none => s
    | some aGroup =>
      match (q.queuedGroups (args.bracket, .rbg)).find?
          (q.isRatedBattlegroundOpponent args aGroup) with
      | none => { s with queue := q }
      | some hTeam =>
        match q.groups.find? hTeam, s.instances with
        | some hGroup, instanceId :: instances =>
          let teamA := ratedSide aGroup hGroup
          { queue := (q.inviteGroupToBG g instanceId teamA).inviteGroupToBG hTeam
              instanceId teamA.other
            instances := instances
            stopped := false }
        | _, _ => { s with queue := q, stopped := true }

/-! ### The update -/

/-- The rated arena: first the alliance list, then the horde list as it is by then. -/
def updateRatedArena (q : BattlegroundQueue) (args : UpdateArgs) : BattlegroundQueue :=
  if args.arenaRating ≠ 0 then q
  else
    let s := (q.queuedGroups (args.bracket, .premadeAlliance)).foldl (matchArena args)
      ⟨q, args.instances, false⟩
    ((s.queue.queuedGroups (args.bracket, .premadeHorde)).foldl (matchArena args) s).queue

/-- The part of the update for rated battlegrounds. -/
def updateRatedBattleground (q : BattlegroundQueue) (args : UpdateArgs) : BattlegroundQueue :=
  ((q.queuedGroups (args.bracket, .rbg)).foldl (matchRatedBattleground args)
    ⟨q, args.instances, false⟩).queue

/-- A new battleground or non-rated arena from the normal lists. -/
def updateNormal (q : BattlegroundQueue) (args : UpdateArgs) (template : Template)
    (minPlayers maxPlayers : Nat) (instances : List Nat) : BattlegroundQueue :=
  let invite := fun (q : BattlegroundQueue) (pools : Pools) =>
    match instances with
    | [] => q
    | instanceId :: _ => q.inviteSelectedPools pools instanceId
  match q.checkNormalMatch args minPlayers maxPlayers with
  | (pools, true) => invite q pools
  | (pools, false) =>
    if template.isArena then
      match q.checkSkirmishForSameFaction args.bracket minPlayers pools with
      | (q, pools, true) => invite q pools
      | (q, _, false) => q
    else
      let q := q.setTeams args.bracket args.crossFaction.teams
      if args.crossFactionMatch then
        match instances with
        | [] => q
        | instanceId :: _ =>
          q.inviteSelected (q.selectable args.bracket args.crossFaction.selected) instanceId
      else q

/-- One update of one bracket. -/
def battlegroundQueueUpdate (q : BattlegroundQueue) (args : UpdateArgs) : BattlegroundQueue :=
  if (GroupType.normalTypes ++ [GroupType.rbg]).all
      fun type => (q.queuedGroups (args.bracket, type)).isEmpty then q
  else
    let q := args.runningBattlegrounds.foldl
      (fun (q : BattlegroundQueue) running =>
        q.fillPlayersToBG args.bracket running.1 running.2) q
    match args.template with
    | none => q
    | some template =>
      let minPlayers := if template.isArena then
          if args.isArenaTesting then 1 else args.arenaType
        else template.minPlayersPerTeam
      let maxPlayers := if template.isArena then args.arenaType else template.maxPlayersPerTeam
      if args.isRated then
        if template.isArena then q.updateRatedArena args
        else if template.isRatedBattleground then q.updateRatedBattleground args
        else q
      else if template.isArena then
        q.updateNormal args template minPlayers maxPlayers args.instances
      else
        match q.checkPremadeMatch args minPlayers maxPlayers with
        | (q, none) => q.updateNormal args template minPlayers maxPlayers args.instances
        | (q, some pools) =>
          match args.instances with
          | [] => q
          | instanceId :: instances =>
            (q.inviteSelectedPools pools instanceId).updateNormal args template minPlayers
              maxPlayers instances

end BattlegroundQueue

end Cataclysm.Battlegrounds
