import Mathlib

/-!
# Guilds

A guild keeps three tables: the guid of its leader, the vector of its ranks and the map of
its members, each with a rank id. Rank `0` is the guild master, a higher id is a lower rank.
`validate` repairs what the database delivered; the other functions are the requests of
clients and the calls of the server that change one of the tables.

## Implementation notes

`m_members` is a hash map keyed by the low part of a guid. Its model is the list of the
members in iteration order, and `reorder` stands for what a rehash does to that order.
Bank tabs, notes, logs, packets and the database copy are left out; the bank rights of a
rank are part of the bank. Whether a player is online, when he logged out and whether the
level of the guild forbids to disband it come with the request. After `disband` there is no
guild: the functions that can disband return `none`.
-/

namespace Cataclysm.Guilds

/-- The fewest ranks of a guild. -/
def guildRanksMinCount : Nat := 2

/-- The most ranks of a guild. -/
def guildRanksMaxCount : Nat := 10

/-- No rank was asked for. -/
def guildRankNone : Nat := 0xFF

/-- The rank of the leader. -/
def grGuildmaster : Nat := 0

/-- The rank of a leader who was replaced. -/
def grOfficer : Nat := 1
def grMember : Nat := 3
def grInitiate : Nat := 4

/-- A word of rights with no right in it. -/
def grRightEmpty : Nat := 0x40
def grRightGchatlisten : Nat := 0x41
def grRightGchatspeak : Nat := 0x42
def grRightRemove : Nat := 0x60
def grRightPromote : Nat := 0xC0
def grRightDemote : Nat := 0x140
def grRightAll : Nat := 0x00DDFFBF

def langGuildMaster : Nat := 811
def langGuildOfficer : Nat := 812
def langGuildVeteran : Nat := 813
def langGuildMember : Nat := 814
def langGuildInitiate : Nat := 815

/-- Narrowing to an unsigned byte. -/
def uint8 (n : Nat) : Nat := n % 2 ^ 8

/-- `GUID_LOPART`, the key of a character. -/
def lowPart (guid : Nat) : Nat := guid % 2 ^ 32

/-- `MAKE_NEW_GUID(lowguid, 0, HIGHGUID_PLAYER)`: the high part of a player's guid is zero. -/
def playerGuid (lowguid : Nat) : Nat := lowguid % 2 ^ 32

@[simp] theorem lowPart_playerGuid (lowguid : Nat) :
    lowPart (playerGuid lowguid) = playerGuid lowguid := by
  simp [lowPart, playerGuid]

theorem playerGuid_lt (lowguid : Nat) : playerGuid lowguid < 2 ^ 32 :=
  Nat.mod_lt _ (Nat.two_pow_pos 32)

theorem lowPart_of_lt {guid : Nat} (h : guid < 2 ^ 32) : lowPart guid = guid :=
  Nat.mod_eq_of_lt h

/-- One rank of a guild, as its row has it. -/
structure RankInfo where
  id : Nat
  name : String
  rights : Nat
  bankMoneyPerDay : Nat
  deriving DecidableEq

/-- A member with the rank that he has. -/
structure Member where
  guid : Nat
  name : String
  rankId : Nat
  deriving DecidableEq

namespace Member

/-- The key of the member in the map. -/
def lowGuid (m : Member) : Nat := lowPart m.guid

def changeRank (m : Member) (newRank : Nat) : Member := { m with rankId := newRank }

def isRank (m : Member) (rankId : Nat) : Bool := m.rankId == rankId

/-- A smaller rank id is a higher rank. -/
def isRankNotLower (m : Member) (rankId : Nat) : Bool := m.rankId ≤ rankId

def isSamePlayer (m : Member) (guid : Nat) : Bool := m.guid == guid

end Member

/-! ### The member map -/

/-- The members in iteration order; no two have the same key. -/
structure Roster where
  members : List Member
  nodup : (members.map Member.lowGuid).Nodup
  deriving DecidableEq

namespace Roster

def find? (r : Roster) (key : Nat) : Option Member :=
  r.members.find? fun m => m.lowGuid == key

theorem nodup_rerank (r : Roster) (rank : Member → Nat) :
    ((r.members.map fun m => m.changeRank (rank m)).map Member.lowGuid).Nodup := by
  have hkeys : Member.lowGuid ∘ (fun m : Member => m.changeRank (rank m)) = Member.lowGuid := rfl
  rw [List.map_map, hkeys]
  exact r.nodup

/-- `ChangeRank` on every member, with a rank that depends on the member. -/
def rerank (r : Roster) (rank : Member → Nat) : Roster :=
  ⟨r.members.map fun m => m.changeRank (rank m), nodup_rerank r rank⟩

/-- `ChangeRank` on the member with one key. -/
def setRank (r : Roster) (key newRank : Nat) : Roster :=
  r.rerank fun m => if m.lowGuid = key then newRank else m.rankId

theorem nodup_erase (r : Roster) (key : Nat) :
    ((r.members.filter fun m => m.lowGuid != key).map Member.lowGuid).Nodup :=
  r.nodup.sublist (List.filter_sublist.map _)

def erase (r : Roster) (key : Nat) : Roster :=
  ⟨r.members.filter fun m => m.lowGuid != key, nodup_erase r key⟩

theorem nodup_insert (r : Roster) (m : Member) :
    ((m :: (r.erase m.lowGuid).members).map Member.lowGuid).Nodup := by
  refine List.nodup_cons.mpr ⟨?_, (r.erase m.lowGuid).nodup⟩
  simp [erase]

/-- `m_members[lowguid] = member`. -/
def insert (r : Roster) (m : Member) : Roster :=
  ⟨m :: (r.erase m.lowGuid).members, nodup_insert r m⟩

/-- A rehash: the same members in another iteration order. -/
def reorder (r : Roster) (order : List Member) : Roster :=
  if h : order.Perm r.members then
    ⟨order, (h.map Member.lowGuid).nodup_iff.mpr r.nodup⟩
  else r

theorem eq_of_lowGuid_eq {r : Roster} {m m' : Member} (hm : m ∈ r.members)
    (hm' : m' ∈ r.members) (h : m.lowGuid = m'.lowGuid) : m = m' :=
  List.inj_on_of_nodup_map r.nodup hm hm' h

theorem find?_eq_some_iff {r : Roster} {key : Nat} {m : Member} :
    r.find? key = some m ↔ m ∈ r.members ∧ m.lowGuid = key := by
  constructor
  · intro h
    exact ⟨List.mem_of_find?_eq_some h, by simpa using List.find?_some h⟩
  · rintro ⟨hmem, rfl⟩
    have hfound : (r.members.find? fun m' => m'.lowGuid == m.lowGuid).isSome :=
      List.find?_isSome.mpr ⟨m, hmem, by simp⟩
    obtain ⟨m', hm'⟩ := Option.isSome_iff_exists.mp hfound
    have hkey : m'.lowGuid = m.lowGuid := by simpa using List.find?_some hm'
    rw [find?, hm', eq_of_lowGuid_eq (List.mem_of_find?_eq_some hm') hmem hkey]

theorem mem_rerank {r : Roster} {rank : Member → Nat} {m : Member} :
    m ∈ (r.rerank rank).members ↔ ∃ m' ∈ r.members, m'.changeRank (rank m') = m :=
  List.mem_map

theorem mem_erase {r : Roster} {key : Nat} {m : Member} :
    m ∈ (r.erase key).members ↔ m ∈ r.members ∧ m.lowGuid ≠ key := by
  simp [erase]

theorem mem_insert {r : Roster} {m m' : Member} :
    m' ∈ (r.insert m).members ↔ m' = m ∨ m' ∈ r.members ∧ m'.lowGuid ≠ m.lowGuid := by
  simp [insert, mem_erase]

theorem mem_reorder {r : Roster} {order : List Member} {m : Member} :
    m ∈ (r.reorder order).members ↔ m ∈ r.members := by
  rw [reorder]
  split
  · next h => exact h.mem_iff
  · exact Iff.rfl

end Roster

/-! ### The guild -/

/-- A guild, as far as ranks and members go. -/
structure Guild where
  leaderGuid : Nat
  ranks : List RankInfo
  roster : Roster
  deriving DecidableEq

/-- A character as the database and the session know him. -/
structure Character where
  lowguid : Nat
  name : String
  online : Bool
  guildId : Nat
  passesCheckStats : Bool
  deriving DecidableEq

namespace Guild

def getRanksSize (g : Guild) : Nat := uint8 g.ranks.length

/-- The last rank, as an unsigned byte. -/
def getLowestRankId (g : Guild) : Nat := uint8 (g.ranks.length + 2 ^ 8 - 1)

/-- The rank at an index of the vector. -/
def getRankInfo (g : Guild) (rankId : Nat) : Option RankInfo :=
  if rankId < g.getRanksSize then g.ranks[rankId]? else none

/-- The rights of a rank, none if it does not exist. -/
def getRankRights (g : Guild) (rankId : Nat) : Nat :=
  match g.getRankInfo rankId with
  | some rankInfo => rankInfo.rights
  | none => 0

/-- Members are found by the low part of their guid. -/
def getMember (g : Guild) (guid : Nat) : Option Member := g.roster.find? (lowPart guid)

def getMemberByName (g : Guild) (name : String) : Option Member :=
  g.roster.members.find? fun m => m.name == name

/-- The rank of the player has all bits of the right. -/
def hasRankRight (g : Guild) (player right : Nat) : Bool :=
  match g.getMember player with
  | some member => (g.getRankRights member.rankId &&& right) != grRightEmpty
  | none => false

/-- The player leads the guild, or his member is of rank `0`. -/
def isLeader (g : Guild) (player : Nat) : Bool :=
  player == g.leaderGuid ||
    match g.getMember player with
    | some member => member.isRank grGuildmaster
    | none => false

def changeRank (g : Guild) (key newRank : Nat) : Guild :=
  { g with roster := g.roster.setRank key (uint8 newRank) }

/-- The member becomes the leader and gets rank `0`. -/
def setLeaderGUID (g : Guild) (leader : Member) : Guild :=
  { g with leaderGuid := leader.guid }.changeRank leader.lowGuid grGuildmaster

/-- A new rank goes to the end of the vector. -/
def createRank (g : Guild) (name : String) (rights : Nat) : Guild :=
  if guildRanksMaxCount ≤ g.getRanksSize then g
  else { g with ranks := g.ranks ++ [⟨g.getRanksSize, name, rights, 0⟩] }

/-- The names of the default ranks are texts of the locale. -/
def createDefaultGuildRanks (g : Guild) (trinityString : Nat → String) : Guild :=
  ((((g.createRank (trinityString langGuildMaster) grRightAll).createRank
    (trinityString langGuildOfficer) grRightAll).createRank
    (trinityString langGuildVeteran) (grRightGchatlisten ||| grRightGchatspeak)).createRank
    (trinityString langGuildMember) (grRightGchatlisten ||| grRightGchatspeak)).createRank
    (trinityString langGuildInitiate) (grRightGchatlisten ||| grRightGchatspeak)

/-- One round of the loop of `DeleteMember`: a member of a better rank who is not leaving. -/
def betterLeader (lowguid : Nat) (newLeader : Option Member) (m : Member) : Option Member :=
  if m.lowGuid = lowguid then newLeader
  else match newLeader with
    | none => some m
    | some best => if best.rankId > m.rankId then some m else some best

/-- The member with the best rank takes over. -/
def findNewLeader (lowguid : Nat) (members : List Member) : Option Member :=
  members.foldl (betterLeader lowguid) none

/-- `DeleteMember` outside of `Disband`, which is what every other caller asks for. -/
def deleteMember (g : Guild) (guid : Nat) : Option Guild :=
  if g.leaderGuid = guid then
    match findNewLeader (lowPart guid) g.roster.members with
    | none => none
    | some newLeader =>
      let g := g.setLeaderGUID newLeader
      some { g with roster := g.roster.erase (lowPart guid) }
  else some { g with roster := g.roster.erase (lowPart guid) }

/-- `Player::GetGuildId` or its database copy refuses a character who has a guild; an offline
character must pass `CheckStats`. -/
def addMember (g : Guild) (c : Character) (rankId : Nat) : Guild × Bool :=
  if c.guildId ≠ 0 then (g, false)
  else if c.online = false ∧ c.passesCheckStats = false then (g, false)
  else
    let rankId := if rankId = guildRankNone then g.getLowestRankId else rankId
    ({ g with roster := g.roster.insert ⟨playerGuid c.lowguid, c.name, rankId⟩ }, true)

/-! ### Validation of a loaded guild -/

/-- The rank vector has an admissible size and every rank has its index as id. -/
def ranksIntact (g : Guild) : Bool :=
  guildRanksMinCount ≤ g.getRanksSize && g.getRanksSize ≤ guildRanksMaxCount &&
    (List.range g.getRanksSize).all fun rankId =>
      match g.getRankInfo rankId with
      | some rankInfo => rankInfo.id == rankId
      | none => false

/-- Ranks that are not intact give way to the default ones. -/
def repairRanks (g : Guild) (trinityString : Nat → String) : Guild :=
  if g.ranksIntact then g
  else { g with ranks := [] }.createDefaultGuildRanks trinityString

/-- Members with a rank beyond the vector get the lowest rank; the comparison is the source's. -/
def repairMembers (g : Guild) : Guild :=
  { g with
    roster := g.roster.rerank fun m =>
      if m.rankId > g.getRanksSize then g.getLowestRankId else m.rankId }

/-- A guild without its leader gets another one, or none. -/
def repairLeader (g : Guild) : Option Guild :=
  match g.getMember g.leaderGuid with
  | none => g.deleteMember g.leaderGuid
  | some leader =>
    if leader.isRank grGuildmaster then some g else some (g.setLeaderGUID leader)

/-- Only the leader keeps rank `0`. -/
def demoteOtherMasters (g : Guild) : Guild :=
  { g with
    roster := g.roster.rerank fun m =>
      if m.rankId = grGuildmaster ∧ m.isSamePlayer g.leaderGuid = false then grOfficer
      else m.rankId }

/-- `Validate`; the result is `none` when the guild is disbanded. -/
def validate (g : Guild) (trinityString : Nat → String) (allowMultipleGuildMaster : Bool) :
    Option Guild :=
  let g := (g.repairRanks trinityString).repairMembers
  match g.repairLeader with
  | none => none
  | some g => some (if allowMultipleGuildMaster then g else g.demoteOtherMasters)

/-! ### Requests -/

def handleSetNewGuildMaster (g : Guild) (player : Nat) (name : String) : Guild :=
  if g.isLeader player then
    match g.getMember player, g.getMemberByName name with
    | some oldGuildMaster, some newGuildMaster =>
      (g.setLeaderGUID newGuildMaster).changeRank oldGuildMaster.lowGuid grInitiate
    | _, _ => g
  else g

/-- The rank that `HandleUpdateMemberRank` gives, if its checks pass. -/
def updatedRank (g : Guild) (member memberMe : Member) (demote : Bool) : Option Nat :=
  if demote then
    if member.isRankNotLower memberMe.rankId then none
    else if g.getLowestRankId ≤ member.rankId then none
    else some (member.rankId + 1)
  else
    if member.isRankNotLower (uint8 (memberMe.rankId + 1)) then none
    else some (member.rankId - 1)

/-- A promotion or demotion by one rank. -/
def handleUpdateMemberRank (g : Guild) (player guid : Nat) (demote : Bool) : Guild :=
  if g.hasRankRight player (if demote then grRightDemote else grRightPromote) then
    match g.getMember guid, g.getMember player with
    | some member, some memberMe =>
      if member.isSamePlayer player then g
      else match g.updatedRank member memberMe demote with
        | some newRankId => g.changeRank member.lowGuid newRankId
        | none => g
    | _, _ => g
  else g

/-- The change of rank is part of `SendGuildRanksUpdate`. -/
def handleSetMemberRank (g : Guild) (player targetGuid rank : Nat) : Guild :=
  match g.getMember targetGuid with
  | none => g
  | some member =>
    let rights := if rank > member.rankId then grRightDemote else grRightPromote
    if g.hasRankRight player rights = false then g
    else if member.isSamePlayer player then g
    else g.changeRank member.lowGuid rank

def handleAddNewRank (g : Guild) (player : Nat) (name : String) : Guild :=
  if guildRanksMaxCount ≤ g.getRanksSize then g
  else if g.isLeader player then
    g.createRank name (grRightGchatlisten ||| grRightGchatspeak)
  else g

/-- One round of the loop of `HandleRemoveRank`: the next rank moves down under this id. -/
def moveRankDown (ranks : List RankInfo) (rankId : Nat) : List RankInfo :=
  match ranks[rankId + 1]? with
  | some next => ranks.set rankId { next with id := rankId }
  | none => ranks

/-- The checks before a rank is removed. -/
def removesRank (g : Guild) (player rankId : Nat) : Bool :=
  guildRanksMinCount < g.getRanksSize && rankId < g.getRanksSize && g.isLeader player

def handleRemoveRank (g : Guild) (player rankId : Nat) : Guild :=
  let rankId := uint8 rankId
  if g.removesRank player rankId then
    let rankSize := g.getRanksSize
    let moved := (List.range' rankId (rankSize - 1 - rankId)).takeWhile
      fun i => i + 1 < guildRanksMaxCount
    { g with ranks := (moved.foldl moveRankDown g.ranks).take (rankSize - 1) }
  else g

/-- The two ranks that `_SwitchRank` exchanges, if it gets past its checks. -/
def switchedRanks (g : Guild) (rankId : Nat) (up : Bool) : Option (Nat × Nat) :=
  if guildRanksMaxCount ≤ rankId then none
  else if rankId = grGuildmaster ∧ up = true ∨ rankId = g.getLowestRankId then none
  else some (rankId, if up then rankId - 1 else rankId + 1)

/-- Ranks outside of the vector are read and written in the source as well; here nothing
happens to the vector then. -/
def exchangeRanks (ranks : List RankInfo) (rankId newRankId : Nat) : List RankInfo :=
  match ranks[rankId]?, ranks[newRankId]? with
  | some old, some new =>
    (ranks.set rankId { new with id := rankId }).set newRankId { old with id := newRankId }
  | _, _ => ranks

/-- Two neighbouring ranks change their places. -/
def switchRank (g : Guild) (rankId : Nat) (up : Bool) : Guild :=
  match g.switchedRanks rankId up with
  | none => g
  | some (rankId, newRankId) =>
    { g with
      ranks := exchangeRanks g.ranks rankId newRankId
      roster := g.roster.rerank fun m =>
        if m.rankId = rankId then newRankId
        else if m.rankId = newRankId then rankId
        else m.rankId }

/-- `HandleGuildSwitchRankOpcode`. -/
def handleSwitchRank (g : Guild) (player rankId : Nat) (up : Bool) : Guild :=
  if player = g.leaderGuid then g.switchRank (uint8 rankId) up else g

def handleRemoveMember (g : Guild) (player guid : Nat) : Option Guild :=
  if g.hasRankRight player grRightRemove then
    match g.getMember guid, g.getMember player with
    | some member, some memberMe =>
      if member.isRank grGuildmaster then some g
      else if member.isRankNotLower memberMe.rankId then some g
      else g.deleteMember guid
    | _, _ => some g
  else some g

def handleLeaveMember (g : Guild) (player : Nat) (undeletable : Bool) : Option Guild :=
  if g.isLeader player then
    if 1 < g.roster.members.length then some g
    else if undeletable then some g
    else none
  else g.deleteMember player

/-- `(time(NULL) - logoutTime) / DAY < 30`, in unsigned arithmetic. -/
def recentlyOnline (logoutTime now : Nat) : Bool :=
  (now + 2 ^ 64 - logoutTime) % 2 ^ 64 / 86400 < 30

/-- The source reads the rank of the new leader before it asks whether he is a member. -/
def replaceGuildLeader (g : Guild) (newleader : Nat) (oldLeadOnline : Bool)
    (logoutTime now : Nat) : Guild :=
  match g.getMember g.leaderGuid, g.getMember newleader with
  | some oldLead, some newLead =>
    if oldLeadOnline || recentlyOnline logoutTime now then g
    else if newLead.rankId < grMember then g
    else (g.setLeaderGUID newLead).changeRank oldLead.lowGuid grMember
  | _, _ => g

end Guild

/-- What clients and the server ask of a guild, and the rehash of its member map. -/
inductive Request
  | setNewGuildMaster (player : Nat) (name : String)
  | updateMemberRank (player guid : Nat) (demote : Bool)
  | setMemberRank (player targetGuid rank : Nat)
  | addNewRank (player : Nat) (name : String)
  | removeRank (player rankId : Nat)
  | switchRank (player rankId : Nat) (up : Bool)
  | addMember (c : Character) (rankId : Nat)
  | deleteMember (lowguid : Nat)
  | removeMember (player guid : Nat)
  | leaveMember (player : Nat) (undeletable : Bool)
  | replaceGuildLeader (newleader : Nat) (oldLeadOnline : Bool) (logoutTime now : Nat)
  | rehash (order : List Member)
  deriving DecidableEq

/-- One request to the guild, which may disband it. -/
def Guild.handle (g : Guild) : Request → Option Guild
  | .setNewGuildMaster player name => some (g.handleSetNewGuildMaster player name)
  | .updateMemberRank player guid demote => some (g.handleUpdateMemberRank player guid demote)
  | .setMemberRank player targetGuid rank => some (g.handleSetMemberRank player targetGuid rank)
  | .addNewRank player name => some (g.handleAddNewRank player name)
  | .removeRank player rankId => some (g.handleRemoveRank player rankId)
  | .switchRank player rankId up => some (g.handleSwitchRank player rankId up)
  | .addMember c rankId => some (g.addMember c rankId).1
  | .deleteMember lowguid => g.deleteMember (playerGuid lowguid)
  | .removeMember player guid => g.handleRemoveMember player guid
  | .leaveMember player undeletable => g.handleLeaveMember player undeletable
  | .replaceGuildLeader newleader online logoutTime now =>
    some (g.replaceGuildLeader newleader online logoutTime now)
  | .rehash order => some { g with roster := g.roster.reorder order }

/-- One request; a disbanded guild answers none. -/
def step (g : Option Guild) (request : Request) : Option Guild :=
  g.bind fun g => g.handle request

end Cataclysm.Guilds
