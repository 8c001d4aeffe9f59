import Cataclysm.DungeonFinding.LFGQueue

/-!
# The manager of the dungeon finder

The manager keeps one queue for each team, the proposals that wait for answers and the
role checks of the groups that want to join. Joining, leaving and the answers change them;
`Update` drops what is overdue and lets every queue search for groups. The hooks of the
group scripts are part of the model because they make players leave.

## Implementation notes

`PlayersStore` and `GroupsStore` create an entry on every access, so both are functions
with a default. Texts, votes to kick, waiting times and the packets other than
`SendLfgUpdateProposal` are left out; both finders are enabled. A request carries what
`JoinLfg` reads from the player and from the group. `MakeNewGroup` calls functions of the
groups, which call the hooks; its hook calls are an input of the step. What can change
between two steps without the manager is in `LfgWorld`.
-/

namespace Cataclysm.Lfg

/-- `LFG_TIME_ROLECHECK`. -/
def lfgTimeRolecheck : Nat := 45

/-- `LfgRoleCheckState`. -/
inductive LfgRoleCheckState
  | default
  | finished
  | initialiting
  | missingRole
  | wrongRoles
  | aborted
  | noRole
  deriving DecidableEq

/-- `LfgJoinResult`. -/
inductive LfgJoinResult
  | internalError
  | notMeetReqs
  | mixedRaidDungeon
  | disconnected
  | dungeonInvalid
  | deserter
  | partyDeserter
  | randomCooldown
  | partyRandomCooldown
  | tooMuchMembers
  | usingBgSystem
  deriving DecidableEq

/-- The two ways in which a proposal fails. -/
inductive ProposalRemoval
  | failed
  | declined
  deriving DecidableEq

/-- What the finder keeps of a player. -/
structure LfgPlayerData where
  state : LfgState
  oldState : LfgState
  team : Nat
  group : Guid
  roles : UInt8
  selectedDungeons : LfgDungeonSet

/-- What the finder keeps of a group. -/
structure LfgGroupData where
  state : LfgState
  oldState : LfgState
  leader : Guid
  dungeon : Nat
  players : OrderedMap Guid Unit

/-- A role check of a group that wants to join. -/
structure LfgRoleCheck where
  cancelTime : Nat
  roles : LfgRolesMap
  state : LfgRoleCheckState
  dungeons : LfgDungeonSet
  rDungeonId : Nat
  leader : Guid

/-- What `SendLfgUpdateProposal` tells a player. -/
structure ProposalUpdate where
  guid : Guid
  proposalId : Nat
  state : LfgProposalState
  deriving DecidableEq

/-- What lies outside the manager when it takes a step. -/
structure LfgWorld where
  now : Nat
  rand : Nat → Nat
  getLFGDungeon : Nat → Option LFGDungeonData
  cachedDungeonMapStore : Nat → LfgDungeonSet
  hasIgnore : Guid → Guid → Bool
  /-- The entries of a player's lock map, and whether the lock is of a raid. -/
  lockedDungeons : Guid → List (Nat × Bool)

/-- The state of the dungeon finder. -/
structure LFGMgr where
  playersStore : Guid → LfgPlayerData
  groupsStore : Guid → LfgGroupData
  queuesStore : OrderedMap Nat LFGQueue
  proposalsStore : OrderedMap Nat LfgProposal
  roleChecksStore : OrderedMap Guid LfgRoleCheck
  lfgProposalId : Nat
  drawn : Nat
  sent : List ProposalUpdate

/-! ## Players and groups -/

/-- The upper part of a guid tells what it is of. -/
def guidHipart (guid : Guid) : Nat :=
  let t := guid / 2 ^ 48 % 2 ^ 16
  if t = 0xF101 ∨ t = 0xF102 then t else t / 2 ^ 4 % 2 ^ 12

/-- `IS_GROUP_GUID`. -/
def isGroupGuid (guid : Guid) : Bool := guidHipart guid = 0x1F5

namespace LfgPlayerData

def new : LfgPlayerData := ⟨.none, .none, 0, 0, 0, .empty⟩

/-- A new state, which may become the old state too. -/
def setState (data : LfgPlayerData) : LfgState → LfgPlayerData
  | .none => { data with roles := 0, selectedDungeons := .empty, oldState := .none, state := .none }
  | .finishedDungeon =>
    { data with
      roles := 0
      selectedDungeons := .empty
      oldState := .finishedDungeon
      state := .finishedDungeon }
  | .dungeon => { data with oldState := .dungeon, state := .dungeon }
  | state => { data with state }

/-- Back to the old state. -/
def restoreState (data : LfgPlayerData) : LfgPlayerData :=
  if data.oldState = .none then
    { data with selectedDungeons := .empty, roles := 0, state := data.oldState }
  else { data with state := data.oldState }

end LfgPlayerData

namespace LfgGroupData

def new : LfgGroupData := ⟨.none, .none, 0, 0, .empty⟩

/-- The group of the finder has an old state. -/
def isLfgGroup (data : LfgGroupData) : Bool := data.oldState ≠ .none

def setState (data : LfgGroupData) : LfgState → LfgGroupData
  | .none => { data with dungeon := 0, oldState := .none, state := .none }
  | .finishedDungeon => { data with oldState := .finishedDungeon, state := .finishedDungeon }
  | .dungeon => { data with oldState := .dungeon, state := .dungeon }
  | state => { data with state }

def restoreState (data : LfgGroupData) : LfgGroupData := { data with state := data.oldState }

end LfgGroupData

namespace LFGMgr

/-- The manager at the start of the server. -/
def empty : LFGMgr :=
  ⟨fun _ => LfgPlayerData.new, fun _ => LfgGroupData.new, .empty, .empty, .empty, 1, 0, []⟩

/-- The data of one player changes. -/
def modifyPlayer (m : LFGMgr) (guid : Guid) (f : LfgPlayerData → LfgPlayerData) : LFGMgr :=
  { m with playersStore := Function.update m.playersStore guid (f (m.playersStore guid)) }

/-- The data of one group changes. -/
def modifyGroup (m : LFGMgr) (gguid : Guid) (f : LfgGroupData → LfgGroupData) : LFGMgr :=
  { m with groupsStore := Function.update m.groupsStore gguid (f (m.groupsStore gguid)) }

/-- States are kept apart for players and groups. -/
def getState (m : LFGMgr) (guid : Guid) : LfgState :=
  if isGroupGuid guid then (m.groupsStore guid).state else (m.playersStore guid).state

def getOldState (m : LFGMgr) (guid : Guid) : LfgState :=
  if isGroupGuid guid then (m.groupsStore guid).oldState else (m.playersStore guid).oldState

/-- The state of a player or of a group. -/
def setState (m : LFGMgr) (guid : Guid) (state : LfgState) : LFGMgr :=
  if isGroupGuid guid then m.modifyGroup guid fun data => data.setState state
  else m.modifyPlayer guid fun data => data.setState state

def restoreState (m : LFGMgr) (guid : Guid) : LFGMgr :=
  if isGroupGuid guid then m.modifyGroup guid LfgGroupData.restoreState
  else m.modifyPlayer guid LfgPlayerData.restoreState

/-- All these guids get the state. -/
def setStates (m : LFGMgr) (guids : List Guid) (state : LfgState) : LFGMgr :=
  guids.foldl (fun m guid => m.setState guid state) m

def getGroup (m : LFGMgr) (guid : Guid) : Guid := (m.playersStore guid).group

def setGroup (m : LFGMgr) (guid group : Guid) : LFGMgr :=
  m.modifyPlayer guid fun data => { data with group }

def setRoles (m : LFGMgr) (guid : Guid) (roles : UInt8) : LFGMgr :=
  m.modifyPlayer guid fun data => { data with roles }

def setSelectedDungeons (m : LFGMgr) (guid : Guid) (dungeons : LfgDungeonSet) : LFGMgr :=
  m.modifyPlayer guid fun data => { data with selectedDungeons := dungeons }

def setTeam (m : LFGMgr) (guid : Guid) (team : Nat) : LFGMgr :=
  m.modifyPlayer guid fun data => { data with team := team % 256 }

def getDungeon (m : LFGMgr) (gguid : Guid) : Nat := (m.groupsStore gguid).dungeon % 2 ^ 24

def setDungeon (m : LFGMgr) (gguid : Guid) (dungeon : Nat) : LFGMgr :=
  m.modifyGroup gguid fun data => { data with dungeon }

def getLeader (m : LFGMgr) (gguid : Guid) : Guid := (m.groupsStore gguid).leader

def setLeader (m : LFGMgr) (gguid leader : Guid) : LFGMgr :=
  m.modifyGroup gguid fun data => { data with leader }

def getPlayers (m : LFGMgr) (gguid : Guid) : List Guid := (m.groupsStore gguid).players.keys

def addPlayerToGroup (m : LFGMgr) (gguid guid : Guid) : LFGMgr :=
  m.modifyGroup gguid fun data => { data with players := data.players.insert guid () }

def removePlayerFromGroup (m : LFGMgr) (gguid guid : Guid) : LFGMgr :=
  m.modifyGroup gguid fun data => { data with players := data.players.erase guid }

def setupGroupMember (m : LFGMgr) (guid gguid : Guid) : LFGMgr :=
  let m := m.setSelectedDungeons guid (OrderedMap.ofKeys [m.getDungeon gguid])
  let m := m.setState guid (m.getState gguid)
  (m.setGroup guid gguid).addPlayerToGroup gguid guid

/-- `RemoveGroupData`: the members of a group that is not being formed leave the finder. -/
def removeGroupData (m : LFGMgr) (gguid : Guid) : LFGMgr :=
  let state := m.getState gguid
  let m := (m.getPlayers gguid).foldl
    (fun m guid =>
      let m := m.setGroup guid 0
      if state ≠ .proposal then m.setState guid .none else m)
    m
  m.modifyGroup gguid fun _ => LfgGroupData.new

/-! ## Queues -/

/-- The queue is the team of the player, or of the first member. -/
def getQueueId (m : LFGMgr) (guid : Guid) : Nat :=
  let pguid := if isGroupGuid guid then (m.getPlayers guid).headD 0 else 0
  if pguid ≠ 0 then (m.playersStore pguid).team else (m.playersStore guid).team

/-- `QueuesStore[queueId]`, as far as it is read. -/
def queue (m : LFGMgr) (queueId : Nat) : LFGQueue :=
  (m.queuesStore.find? queueId).getD LFGQueue.empty

/-- One queue changes. -/
def modifyQueue (m : LFGMgr) (queueId : Nat) (f : LFGQueue → LFGQueue) : LFGMgr :=
  { m with queuesStore := m.queuesStore.insert queueId (f (m.queue queueId)) }

/-- What the queues see of the manager. -/
def view (m : LFGMgr) (world : LfgWorld) : LfgView where
  now := world.now
  getLFGDungeon := world.getLFGDungeon
  isGroupGuid := isGroupGuid
  isLfgGroup guid := guid ≠ 0 && isGroupGuid guid && (m.groupsStore guid).isLfgGroup
  hasIgnore := world.hasIgnore
  getState := m.getState
  getOldState := m.getOldState

/-- `GetQueue(guid).RemoveFromQueue(entry)`. -/
def removeFromQueue (m : LFGMgr) (world : LfgWorld) (guid entry : Guid) : LFGMgr :=
  m.modifyQueue (m.getQueueId guid) fun q => q.removeFromQueue (m.view world) entry

/-- `GetQueue(guid).AddQueueData(guid, ..)`. -/
def addQueueData (m : LFGMgr) (world : LfgWorld) (guid : Guid) (dungeons : LfgDungeonSet)
    (roles : LfgRolesMap) : LFGMgr :=
  m.modifyQueue (m.getQueueId guid) fun q =>
    q.addQueueData (m.view world) guid world.now dungeons roles

/-- A queue as its search finds it. -/
def matching (m : LFGMgr) (queueId : Nat) : Matching :=
  ⟨m.queue queueId, m.proposalsStore, m.lfgProposalId, m.drawn⟩

/-- `FindGroups` on one queue. -/
def findGroups (m : LFGMgr) (world : LfgWorld) (queueId : Nat) : LFGMgr :=
  let (_, s) := (m.matching queueId).findGroups (m.view world) world.rand
  { m with
    queuesStore := m.queuesStore.insert queueId s.queue
    proposalsStore := s.proposals
    lfgProposalId := s.lfgProposalId
    drawn := s.drawn }

end LFGMgr

/-! ## Joining -/

/-- What `JoinLfg` asks about a player. -/
structure Joiner where
  guid : Guid
  usingBgSystem : Bool
  deserter : Bool
  cooldown : Bool
  deriving DecidableEq

/-- What `JoinLfg` asks about a group: `members` are those in the game. -/
structure JoinParty where
  guid : Guid
  isLFGGroup : Bool
  membersCount : Nat
  members : List Joiner
  deriving DecidableEq

/-- What `JoinLfg` reads from the player and his group. -/
structure JoinRequest where
  player : Joiner
  party : Option JoinParty
  roles : UInt8
  dungeons : LfgDungeonSet
  deriving DecidableEq

/-- The entry that the request is about. -/
def JoinRequest.gguid (request : JoinRequest) : Guid :=
  (request.party.map JoinParty.guid).getD request.player.guid

/-- What a join that is allowed goes on with. -/
structure JoinChoice where
  dungeons : LfgDungeonSet
  rDungeonId : Nat
  isRaid : Bool

def LfgWorld.getDungeonType (world : LfgWorld) (dungeonId : Nat) : LfgType :=
  ((world.getLFGDungeon dungeonId).map LFGDungeonData.type).getD .none

/-- The dungeons that a random one stands for. -/
def LfgWorld.getDungeonsByRandom (world : LfgWorld) (randomdungeon : Nat) : LfgDungeonSet :=
  world.cachedDungeonMapStore (((world.getLFGDungeon randomdungeon).map LFGDungeonData.group).getD 0)

/-- `GetCompatibleDungeons`: when every dungeon is locked for someone, none is taken away. -/
def LfgWorld.getCompatibleDungeons (world : LfgWorld) (dungeons : LfgDungeonSet)
    (players : OrderedMap Guid Unit) (isContinue : Bool) : LfgDungeonSet :=
  let left := players.keys.foldl
    (fun dungeons guid => (world.lockedDungeons guid).foldl
      (fun dungeons lock =>
        if lock.2 && isContinue then dungeons else dungeons.erase (lock.1 % 2 ^ 24))
      dungeons)
    dungeons
  if left.entries.isEmpty then dungeons else left

/-- The first member of a group who may not join. -/
def memberRestriction (members : List Joiner) : Option LfgJoinResult :=
  members.findSome? fun member =>
    if member.deserter then some .partyDeserter
    else if member.cooldown then some .partyRandomCooldown
    else if member.usingBgSystem then some .usingBgSystem
    else none

/-- "Check player or group member restrictions"; the players that are found on the way. -/
def joinRestrictions (world : LfgWorld) (request : JoinRequest) (dungeons : LfgDungeonSet) :
    Except LfgJoinResult (OrderedMap Guid Unit) :=
  if request.player.usingBgSystem then .error .usingBgSystem
  else if request.player.deserter then .error .deserter
  else if request.player.cooldown then .error .randomCooldown
  else if dungeons.entries.isEmpty then .error .notMeetReqs
  else
    match request.party with
    | none => .ok (OrderedMap.ofKeys [request.player.guid])
    | some party =>
      if dungeons.keys.any fun id =>
          (world.getLFGDungeon id).any fun dungeon => party.membersCount > dungeon.getMaxGroupSize
      then .error .tooMuchMembers
      else
        match memberRestriction party.members with
        | some result => .error result
        | none =>
          if party.members.length % 256 ≠ party.membersCount then .error .disconnected
          else .ok (OrderedMap.ofKeys (party.members.map Joiner.guid))

/-- "Check if all dungeons are valid": whether they are raids, and the random dungeon. -/
def dungeonTypes (world : LfgWorld) (size : Nat) :
    List Nat → Bool → Bool → Nat → Except LfgJoinResult (Bool × Nat)
  | [], isRaid, _, rDungeonId => .ok (isRaid, rDungeonId)
  | id :: rest, isRaid, isDungeon, rDungeonId =>
    match world.getDungeonType id with
    | .random =>
      if isRaid then .error .mixedRaidDungeon
      else if size > 1 then .error .dungeonInvalid
      else dungeonTypes world size rest isRaid true id
    | .dungeon =>
      if isRaid then .error .mixedRaidDungeon
      else dungeonTypes world size rest isRaid true rDungeonId
    | .raid =>
      if isDungeon then .error .mixedRaidDungeon
      else dungeonTypes world size rest true isDungeon rDungeonId
    | _ => .error .dungeonInvalid

/-- The dungeons of a join, once the players are known. -/
def chooseDungeons (world : LfgWorld) (request : JoinRequest) (dungeons : LfgDungeonSet)
    (players : OrderedMap Guid Unit) (isContinue : Bool) : Except LfgJoinResult JoinChoice := do
  let (isRaid, rDungeonId) ←
    dungeonTypes world dungeons.entries.length dungeons.keys false false 0
  let dungeons := if rDungeonId ≠ 0 then world.getDungeonsByRandom rDungeonId else dungeons
  let dungeons := world.getCompatibleDungeons dungeons players isContinue
  if dungeons.entries.isEmpty then
    .error (if request.party.isSome then .internalError else .notMeetReqs)
  else .ok ⟨dungeons, rDungeonId, isRaid⟩

namespace LFGMgr

/-- The join continues a dungeon that is not finished. -/
def isContinue (m : LFGMgr) (request : JoinRequest) : Bool :=
  (request.party.any JoinParty.isLFGGroup) && m.getState request.gguid ≠ .finishedDungeon

/-- The checks of `JoinLfg`: an entry that is queued is not checked for restrictions. -/
def checkJoin (m : LFGMgr) (world : LfgWorld) (request : JoinRequest) :
    Except LfgJoinResult JoinChoice := do
  let dungeons :=
    if m.isContinue request then OrderedMap.ofKeys [m.getDungeon request.gguid]
    else request.dungeons
  let players ←
    if m.getState request.gguid = .queued then .ok .empty
    else joinRestrictions world request dungeons
  chooseDungeons world request dungeons players (m.isContinue request)

/-- "Already in queue?" -/
def dropQueued (m : LFGMgr) (world : LfgWorld) (gguid : Guid) : LFGMgr :=
  if m.getState gguid = .queued then m.removeFromQueue world gguid gguid else m

/-- The roles of a role check and what it says now. -/
def answerRoleCheck (world : LfgWorld) (roleCheck : LfgRoleCheck) (guid : Guid) (roles : UInt8) :
    LfgRoleCheck :=
  let dungeonId :=
    if roleCheck.rDungeonId ≠ 0 then some roleCheck.rDungeonId else roleCheck.dungeons.keys.head?
  if guid = 0 then { roleCheck with state := .aborted }
  else if roles < playerRoleTank then { roleCheck with state := .noRole }
  else
    let groles := roleCheck.roles.insert guid roles
    let accepted := (dungeonId.bind world.getLFGDungeon).any fun dungeon =>
      (checkGroupRoles groles dungeon).1
    if groles.entries.all fun entry => entry.2 ≠ 0 then
      { roleCheck with roles := groles, state := if accepted then .finished else .wrongRoles }
    else { roleCheck with roles := groles }

/-- `UpdateRoleCheck`; guid `0` aborts the check. -/
def updateRoleCheck (m : LFGMgr) (world : LfgWorld) (gguid guid : Guid) (roles : UInt8) : LFGMgr :=
  match (if gguid = 0 then none else m.roleChecksStore.find? gguid) with
  | none => m
  | some roleCheck =>
    let roleCheck := answerRoleCheck world roleCheck guid roles
    match roleCheck.state with
    | .initialiting => { m with roleChecksStore := m.roleChecksStore.insert gguid roleCheck }
    | .finished =>
      let m := roleCheck.roles.entries.foldl
        (fun m entry => (m.setState entry.1 .queued).setRoles entry.1 entry.2) m
      let m := m.setState gguid .queued
      let m := m.addQueueData world gguid roleCheck.dungeons roleCheck.roles
      { m with roleChecksStore := m.roleChecksStore.erase gguid }
    | _ =>
      let m := roleCheck.roles.keys.foldl (fun m pguid => m.restoreState pguid) m
      let m := m.restoreState gguid
      { m with roleChecksStore := m.roleChecksStore.erase gguid }

/-- The role check that `JoinLfg` starts; the roles of an older one stay in the map. -/
def beginRoleCheck (m : LFGMgr) (world : LfgWorld) (request : JoinRequest) (party : JoinParty)
    (choice : JoinChoice) (isContinue : Bool) : LFGMgr :=
  let oldRoles := ((m.roleChecksStore.find? party.guid).map LfgRoleCheck.roles).getD .empty
  let selected :=
    if choice.rDungeonId ≠ 0 then OrderedMap.ofKeys [choice.rDungeonId] else choice.dungeons
  let roleCheck : LfgRoleCheck :=
    { cancelTime := world.now + lfgTimeRolecheck
      roles := party.members.foldl (fun roles member => roles.insert member.guid 0) oldRoles
      state := .initialiting
      dungeons := choice.dungeons
      rDungeonId := choice.rDungeonId
      leader := request.player.guid }
  let m := m.setState party.guid .rolecheck
  let m := party.members.foldl
    (fun m member =>
      let m := m.setState member.guid .rolecheck
      if isContinue then m else m.setSelectedDungeons member.guid selected)
    m
  { m with roleChecksStore := m.roleChecksStore.insert party.guid roleCheck }

/-- "Add player to queue". -/
def queuePlayer (m : LFGMgr) (world : LfgWorld) (request : JoinRequest) (choice : JoinChoice)
    (isContinue : Bool) : LFGMgr :=
  let guid := request.player.guid
  let selected :=
    if choice.rDungeonId ≠ 0 then OrderedMap.ofKeys [choice.rDungeonId] else choice.dungeons
  let m := m.addQueueData world guid choice.dungeons (OrderedMap.empty.insert guid request.roles)
  let m := if isContinue then m else m.setSelectedDungeons guid selected
  (m.setState guid .queued).setRoles guid request.roles

/-- `JoinLfg`: the player queues, or his group begins a role check. -/
def joinLfg (m : LFGMgr) (world : LfgWorld) (request : JoinRequest) : LFGMgr :=
  if request.dungeons.entries.isEmpty then m
  else
    let isContinue := m.isContinue request
    let checked := m.checkJoin world request
    let m := m.dropQueued world request.gguid
    match checked with
    | .error _ => m
    | .ok choice =>
      if choice.isRaid then m
      else
        match request.party with
        | none => m.queuePlayer world request choice isContinue
        | some party =>
          let m := m.beginRoleCheck world request party choice isContinue
          m.updateRoleCheck world party.guid request.player.guid request.roles

end LFGMgr

/-! ## Proposals -/

/-- The answers after a removal: those who did not answer in time did not accept. -/
def closeAnswers (type : ProposalRemoval) (players : OrderedMap Guid LfgProposalPlayer) :
    OrderedMap Guid LfgProposalPlayer :=
  players.mapValues fun _ player =>
    if type = .failed ∧ player.accept = .pending then { player with accept := .deny } else player

/-- The entry of the queue that a player of a proposal belongs to. -/
def entryOf (guid : Guid) (player : LfgProposalPlayer) : Guid :=
  if player.group ≠ 0 then player.group else guid

/-- "Mark players/groups to be removed". -/
def entriesToRemove (players : OrderedMap Guid LfgProposalPlayer) : List Guid :=
  (OrderedMap.ofKeys
    ((players.entries.filter fun e => e.2.accept = .deny).map fun e => entryOf e.1 e.2)).keys

namespace LFGMgr

/-- The player is told the state of a proposal. -/
def sendLfgUpdateProposal (m : LFGMgr) (guid : Guid) (proposalId : Nat) (state : LfgProposalState) :
    LFGMgr :=
  { m with sent := m.sent ++ [⟨guid, proposalId, state⟩] }

/-- The proposal gets the next id. -/
def addProposal (m : LFGMgr) (proposal : LfgProposal) : LFGMgr :=
  let id := (m.lfgProposalId + 1) % 2 ^ 32
  { m with proposalsStore := m.proposalsStore.insert id proposal, lfgProposalId := id }

/-- "Notify players": one player of a failed proposal goes back to the queue or leaves it. -/
def notifyRemoval (proposalId : Nat) (toRemove : List Guid) (m : LFGMgr)
    (entry : Guid × LfgProposalPlayer) : LFGMgr :=
  let (guid, player) := entry
  let gguid := entryOf guid player
  let m := m.sendLfgUpdateProposal guid proposalId .failed
  if gguid ∈ toRemove then
    let m := m.restoreState guid
    if gguid ≠ guid then m.restoreState player.group else m
  else
    let m := m.setState guid .queued
    if gguid ≠ guid then m.setState gguid .queued else m

/-- `RemoveProposal` on a proposal with the answers that its caller left in it. -/
def removeProposal (m : LFGMgr) (world : LfgWorld) (proposalId : Nat) (proposal : LfgProposal)
    (type : ProposalRemoval) : LFGMgr :=
  let players := closeAnswers type proposal.players
  let toRemove := entriesToRemove players
  let m := players.entries.foldl (notifyRemoval proposalId toRemove) m
  let readded := proposal.queues.filter (· ∉ toRemove)
  let m := m.modifyQueue (m.getQueueId (players.keys.headD 0)) fun q =>
    readded.foldl LFGQueue.addToQueue
      (toRemove.foldl (fun q guid => q.removeFromQueue (m.view world) guid) q)
  { m with proposalsStore := m.proposalsStore.erase proposalId }

/-- The first proposal that a player belongs to. -/
def proposalOf (m : LFGMgr) (pguid : Guid) : Option (Nat × LfgProposal) :=
  m.proposalsStore.entries.find? fun e => e.2.players.contains pguid

/-- A player's answer. -/
def answer (proposal : LfgProposal) (guid : Guid) (accept : LfgAnswer) : LfgProposal :=
  { proposal with
    players := proposal.players.mapValues fun other player =>
      if other = guid then { player with accept } else player }

/-- `LeaveLfg`, by the state that the player or group is in. -/
def leaveLfg (m : LFGMgr) (world : LfgWorld) (guid : Guid) (disconnected : Bool) : LFGMgr :=
  let gguid := if isGroupGuid guid then guid else m.getGroup guid
  match m.getState guid with
  | .queued =>
    if gguid ≠ 0 then
      let m := (m.removeFromQueue world gguid gguid).setState gguid .none
      m.setStates (m.getPlayers gguid) .none
    else (m.removeFromQueue world guid guid).setState guid .none
  | .rolecheck => if gguid ≠ 0 then m.updateRoleCheck world gguid 0 0 else m
  | .proposal =>
    let pguid := if gguid = guid then m.getLeader gguid else guid
    match m.proposalOf pguid with
    | none => m
    | some (proposalId, proposal) =>
      m.removeProposal world proposalId (answer proposal pguid .deny) .declined
  | .dungeon | .finishedDungeon => if guid ≠ gguid ∧ !disconnected then m.setState guid .none else m
  | _ => m

end LFGMgr

/-! ## Group scripts -/

/-- What the groups tell the finder. -/
inductive GroupEvent
  | addMember (gguid guid leader : Guid)
  | removeMember (gguid guid : Guid) (isLFG : Bool) (method : RemoveMethod)
  | disband (gguid : Guid)
  | changeLeader (gguid newLeader : Guid)
  | inviteMember (gguid leader : Guid)
  /-- `MakeNewGroup` created the group. -/
  | created (gguid : Guid)
  deriving DecidableEq

namespace LFGMgr

/-- A new member makes the group leave the queue. -/
def onAddMember (m : LFGMgr) (world : LfgWorld) (gguid guid leader : Guid) : LFGMgr :=
  let gstate := m.getState gguid
  let state := m.getState guid
  let m :=
    if leader = guid then m.setLeader gguid guid
    else
      let m := if state = .queued then m.leaveLfg world guid false else m
      if gstate = .queued then m.leaveLfg world gguid false else m
  (m.setGroup guid gguid).addPlayerToGroup gguid guid

/-- A kick from a dungeon group starts a vote and changes nothing here. -/
def onRemoveMember (m : LFGMgr) (world : LfgWorld) (gguid guid : Guid) (isLFG : Bool)
    (method : RemoveMethod) : LFGMgr :=
  if isLFG ∧ method = .kick then m
  else if m.getState gguid = .proposal ∧ method = .default then
    (m.setGroup guid 0).removePlayerFromGroup gguid guid
  else ((m.leaveLfg world guid false).setGroup guid 0).removePlayerFromGroup gguid guid

/-- One call of a group script. -/
def onGroupEvent (world : LfgWorld) (m : LFGMgr) : GroupEvent → LFGMgr
  | .addMember gguid guid leader => m.onAddMember world gguid guid leader
  | .removeMember gguid guid isLFG method => m.onRemoveMember world gguid guid isLFG method
  | .disband gguid => m.removeGroupData gguid
  | .changeLeader gguid newLeader => m.setLeader gguid newLeader
  | .inviteMember gguid leader =>
    if leader ≠ 0 ∧ gguid = 0 then m.leaveLfg world leader false else m
  | .created gguid => m.setState gguid .proposal

end LFGMgr

/-- The group that `MakeNewGroup` fills and the hook calls on the way. -/
structure Formation where
  gguid : Guid
  events : List GroupEvent

namespace LFGMgr

/-- The group of a successful proposal, with its script calls. -/
def makeNewGroup (m : LFGMgr) (world : LfgWorld) (proposal : LfgProposal) (formation : Formation) :
    LFGMgr :=
  let m := formation.events.foldl (onGroupEvent world) m
  (m.setDungeon formation.gguid proposal.dungeonId).setState formation.gguid .dungeon

/-- The end of `UpdateProposal`, when every player has agreed. -/
def acceptProposal (m : LFGMgr) (world : LfgWorld) (proposalId : Nat) (proposal : LfgProposal)
    (guid : Guid) (formation : Formation) : LFGMgr :=
  let queueId := m.getQueueId guid
  let m := proposal.players.keys.foldl
    (fun m pguid =>
      let m :=
        if proposal.state ≠ .success then m.sendLfgUpdateProposal pguid proposalId .success else m
      m.setState pguid .dungeon)
    m
  let proposal := { proposal with state := .success }
  let m := { m with proposalsStore := m.proposalsStore.insert proposalId proposal }
  let m := m.modifyQueue queueId fun q =>
    proposal.queues.foldl (fun q entry => q.removeFromQueue (m.view world) entry) q
  let m := m.makeNewGroup world proposal formation
  { m with proposalsStore := m.proposalsStore.erase proposalId }

/-- An answer, which may decide the proposal. -/
def updateProposal (m : LFGMgr) (world : LfgWorld) (proposalId : Nat) (guid : Guid) (accept : Bool)
    (formation : Formation) : LFGMgr :=
  match m.proposalsStore.find? proposalId with
  | none => m
  | some proposal =>
    if !proposal.players.contains guid then m
    else
      let proposal := answer proposal guid (if accept then .agree else .deny)
      if !accept then m.removeProposal world proposalId proposal .declined
      else if proposal.players.entries.all fun e => e.2.accept = .agree then
        m.acceptProposal world proposalId proposal guid formation
      else
        let m := { m with proposalsStore := m.proposalsStore.insert proposalId proposal }
        proposal.players.keys.foldl
          (fun m pguid => m.sendLfgUpdateProposal pguid proposalId proposal.state) m

/-! ## `Update` -/

/-- "Remove obsolete role checks". -/
def removeRoleCheck (world : LfgWorld) (m : LFGMgr) (entry : Guid × LfgRoleCheck) : LFGMgr :=
  if world.now < entry.2.cancelTime then m
  else
    let m := entry.2.roles.keys.foldl (fun m guid => m.restoreState guid) m
    let m := m.restoreState entry.1
    { m with roleChecksStore := m.roleChecksStore.erase entry.1 }

/-- "Remove obsolete proposals". -/
def removeObsolete (world : LfgWorld) (m : LFGMgr) (proposalId : Nat) : LFGMgr :=
  match m.proposalsStore.find? proposalId with
  | none => m
  | some proposal =>
    if proposal.cancelTime < world.now then m.removeProposal world proposalId proposal .failed
    else m

/-- The part of `Update` before the queues are searched. -/
def removeOverdue (m : LFGMgr) (world : LfgWorld) : LFGMgr :=
  let m := m.roleChecksStore.entries.foldl (removeRoleCheck world) m
  m.proposalsStore.keys.foldl (removeObsolete world) m

/-- All queues search for groups. -/
def findAllGroups (m : LFGMgr) (world : LfgWorld) : LFGMgr :=
  m.queuesStore.keys.foldl (fun m queueId => m.findGroups world queueId) m

/-- A player is told of a new proposal. -/
def notifyPlayer (proposalId : Nat) (proposal : LfgProposal) (m : LFGMgr) (guid : Guid) : LFGMgr :=
  let m := m.setState guid .proposal
  let gguid := m.getGroup guid
  let m := if gguid ≠ 0 then m.setState gguid .proposal else m
  m.sendLfgUpdateProposal guid proposalId proposal.state

/-- One proposal of the last loop of `Update`. -/
def notifyProposal (world : LfgWorld) (formation : Formation) (m : LFGMgr) (proposalId : Nat) :
    LFGMgr :=
  match m.proposalsStore.find? proposalId with
  | none => m
  | some proposal =>
    let m := proposal.players.keys.foldl (notifyPlayer proposalId proposal) m
    if proposal.state = .success then
      m.updateProposal world proposalId (proposal.players.keys.getLastD 0) true formation
    else m

/-- The proposals from the newest one on. -/
def notifyProposals (m : LFGMgr) (world : LfgWorld) (formation : Formation) : LFGMgr :=
  if m.proposalsStore.contains m.lfgProposalId then
    (m.proposalsStore.keys.filter fun id => m.lfgProposalId ≤ id).foldl
      (notifyProposal world formation) m
  else m

/-- `Update`: drop what is overdue, search, and tell the players. -/
def update (m : LFGMgr) (world : LfgWorld) (formation : Formation) : LFGMgr :=
  let m := m.removeOverdue world
  let lastProposalId := m.lfgProposalId
  let m := m.findAllGroups world
  if lastProposalId ≠ m.lfgProposalId then m.notifyProposals world formation else m

end LFGMgr

/-! ## Steps -/

/-- The calls that the manager gets. -/
inductive Action
  | join (request : JoinRequest)
  | leave (guid : Guid) (disconnected : Bool)
  | updateRoleCheck (gguid guid : Guid) (roles : UInt8)
  | addToQueue (queueId : Nat) (guid : Guid)
  | removeFromQueue (queueId : Nat) (guid : Guid)
  | findGroups (queueId : Nat)
  | addProposal (proposal : LfgProposal)
  | updateProposal (proposalId : Nat) (guid : Guid) (accept : Bool) (formation : Formation)
  | removeProposal (proposalId : Nat) (type : ProposalRemoval)
  | update (formation : Formation)
  | group (event : GroupEvent)
  | setupGroupMember (guid gguid : Guid)
  | setState (guid : Guid) (state : LfgState)
  | setTeam (guid : Guid) (team : Nat)

namespace LFGMgr

/-- One call, in the world that it meets. -/
def step (m : LFGMgr) (call : LfgWorld × Action) : LFGMgr :=
  match call with
  | (world, .join request) => m.joinLfg world request
  | (world, .leave guid disconnected) => m.leaveLfg world guid disconnected
  | (world, .updateRoleCheck gguid guid roles) => m.updateRoleCheck world gguid guid roles
  | (_, .addToQueue queueId guid) => m.modifyQueue queueId fun q => q.addToQueue guid
  | (world, .removeFromQueue queueId guid) =>
    m.modifyQueue queueId fun q => q.removeFromQueue (m.view world) guid
  | (world, .findGroups queueId) => m.findGroups world queueId
  | (_, .addProposal proposal) => m.addProposal proposal
  | (world, .updateProposal proposalId guid accept formation) =>
    m.updateProposal world proposalId guid accept formation
  | (world, .removeProposal proposalId type) =>
    match m.proposalsStore.find? proposalId with
    | none => m
    | some proposal => m.removeProposal world proposalId proposal type
  | (world, .update formation) => m.update world formation
  | (world, .group event) => m.onGroupEvent world event
  | (_, .setupGroupMember guid gguid) => m.setupGroupMember guid gguid
  | (_, .setState guid state) => m.setState guid state
  | (_, .setTeam guid team) => m.setTeam guid team

end LFGMgr

end Cataclysm.Lfg
