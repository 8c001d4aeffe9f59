import Cataclysm.Lib.OrderedMap

/-!
# Custom chat channels

A custom channel exists from the first join to the moment when a player leaves it empty. It keeps
its members with their flags, the banned players and the guid of its owner; the owner also has a
flag among the members. If custom channels are preserved, a row in the database gives the password
and the banned players to the next channel of that name.

## Implementation notes

The handlers normalise the name that a request gives, and players are looked up without regard to
case; names are normalised here. Packets, announcements and the time of the last use are left out,
and so are the flags and zones of built-in channels.
-/

namespace Cataclysm.Chat

/-- The two factions of players. -/
inductive Team
  | horde
  | alliance
  deriving DecidableEq

/-- What a channel asks of a player. -/
structure Player where
  guid : Nat
  name : String
  oTeam : Team
  isGMAccount : Bool
  deriving DecidableEq

/-- The players in the world, and the settings. -/
structure World where
  findPlayer : Nat → Option Player
  findPlayerByName : String → Option Player
  allowTwoSideInteractionChannel : Bool
  preserveCustomChannels : Bool
  found : ∀ {guid player}, findPlayer guid = some player → player.guid = guid ∧ guid ≠ 0
  foundByName : ∀ {name player}, findPlayerByName name = some player →
    findPlayer player.guid = some player ∧ player.name = name

/-! ### Members -/

def memberFlagOwner : BitVec 8 := 0x01

def memberFlagModerator : BitVec 8 := 0x02

def memberFlagMuted : BitVec 8 := 0x08

/-- A member of the channel with his flags. -/
structure PlayerInfo where
  player : Nat
  flags : BitVec 8
  deriving DecidableEq

namespace PlayerInfo

def hasFlag (info : PlayerInfo) (flag : BitVec 8) : Bool := info.flags &&& flag != 0

/-- A flag is set or cleared. -/
def withFlag (info : PlayerInfo) (flag : BitVec 8) (state : Bool) : PlayerInfo :=
  { info with flags := if state then info.flags ||| flag else info.flags &&& ~~~flag }

def isOwner (info : PlayerInfo) : Bool := info.hasFlag memberFlagOwner

def setOwner (info : PlayerInfo) (state : Bool) : PlayerInfo := info.withFlag memberFlagOwner state

def isModerator (info : PlayerInfo) : Bool := info.hasFlag memberFlagModerator

def setModerator (info : PlayerInfo) (state : Bool) : PlayerInfo :=
  info.withFlag memberFlagModerator state

def isMuted (info : PlayerInfo) : Bool := info.hasFlag memberFlagMuted

def setMuted (info : PlayerInfo) (state : Bool) : PlayerInfo := info.withFlag memberFlagMuted state

end PlayerInfo

/-! ### Channels -/

/-- The row of a channel in the database. -/
structure ChannelRow where
  ownership : Bool
  password : String
  bannedList : Finset Nat

/-- A custom channel, its row, and the players who have it among their channels. -/
structure Channel where
  ownership : Bool
  isSaved : Bool
  ownerGUID : Nat
  password : String
  playersStore : OrderedMap Nat PlayerInfo
  bannedStore : Finset Nat
  row : Option ChannelRow
  joined : Finset Nat

namespace Channel

def isOn (c : Channel) (who : Nat) : Bool := c.playersStore.contains who

/-- `playersStore[guid]`, which makes an entry if there is none. -/
def member (c : Channel) (guid : Nat) : PlayerInfo := (c.playersStore.find? guid).getD ⟨0, 0⟩

/-- The flags of one member change. -/
def modifyMember (c : Channel) (guid : Nat) (f : PlayerInfo → PlayerInfo) : Channel :=
  { c with playersStore := c.playersStore.insert guid (f (c.member guid)) }

/-- `Channel::Channel` for a custom channel. -/
def newChannel (w : World) (row : Option ChannelRow) : Channel :=
  let c : Channel := ⟨true, false, 0, "", OrderedMap.empty, ∅, row, ∅⟩
  if w.preserveCustomChannels then
    match row with
    | some row =>
      { c with
        isSaved := true
        ownership := row.ownership
        password := row.password
        bannedStore := row.bannedList.erase 0 }
    | none => { c with isSaved := true, row := some ⟨true, "", ∅⟩ }
  else c

def updateChannelInDB (c : Channel) : Channel :=
  if c.isSaved then { c with row := some ⟨c.ownership, c.password, c.bannedStore⟩ } else c

/-- `SetOwner` with a guid. -/
def setOwner (c : Channel) (guid : Nat) : Channel :=
  let c :=
    if c.ownerGUID ≠ 0 then
      match c.playersStore.find? c.ownerGUID with
      | none => c
      | some info =>
        { c with playersStore := c.playersStore.insert c.ownerGUID (info.setOwner false) }
    else c
  let c := { c with ownerGUID := guid }
  if guid ≠ 0 then
    let c := c.modifyMember guid fun info => info.setModerator true
    let c := c.modifyMember guid fun info => info.setOwner true
    c.updateChannelInDB
  else c

/-- `JoinChannel` with its checks. -/
def joinChannel (player : Player) (pass : String) (c : Channel) : Channel :=
  if c.isOn player.guid then c
  else if player.guid ∈ c.bannedStore then c
  else if c.password ≠ "" ∧ pass ≠ c.password then c
  else
    let c := { c with joined := insert player.guid c.joined }
    let c := { c with playersStore := c.playersStore.insert player.guid ⟨player.guid, 0⟩ }
    if c.ownerGUID = 0 ∧ c.ownership = true then
      (c.setOwner player.guid).modifyMember player.guid fun info => info.setModerator true
    else c

def eraseMember (c : Channel) (guid : Nat) : Channel :=
  { c with playersStore := c.playersStore.erase guid }

/-- `LeftChannel` of a player. -/
def leftBy (c : Channel) (guid : Nat) : Channel := { c with joined := c.joined.erase guid }

/-- A member leaves, and the channel may need an owner. -/
def leaveChannel (player : Player) (send : Bool) (c : Channel) : Channel :=
  if c.isOn player.guid = false then c
  else
    let c := if send then c.leftBy player.guid else c
    let changeowner := (c.member player.guid).isOwner
    let c := c.eraseMember player.guid
    match c.playersStore.entries with
    | [] => c
    | (_, first) :: _ =>
      if changeowner && c.ownership then
        (c.modifyMember first.player fun info => info.setModerator true).setOwner first.player
      else c

/-- The requester is on the channel and a moderator, or on it and a game master. -/
def mayModerate (c : Channel) (player : Player) : Bool :=
  c.isOn player.guid && ((c.member player.guid).isModerator || player.isGMAccount)

def insertBanned (c : Channel) (guid : Nat) : Channel :=
  updateChannelInDB { c with bannedStore := insert guid c.bannedStore }

/-- A moderator removes a member, perhaps for good. -/
def kickOrBan (w : World) (player : Player) (badname : String) (ban : Bool) (c : Channel) :
    Channel :=
  if c.mayModerate player = false then c
  else
    match w.findPlayerByName badname with
    | none => c
    | some bad =>
      if c.isOn bad.guid = false then c
      else
        let changeowner := c.ownerGUID == bad.guid
        if player.isGMAccount = false ∧ changeowner = true ∧ player.guid ≠ c.ownerGUID then c
        else
          let c := if ban = true ∧ bad.guid ∉ c.bannedStore then c.insertBanned bad.guid else c
          let c := (c.eraseMember bad.guid).leftBy bad.guid
          if changeowner = true ∧ c.ownership = true ∧ c.playersStore.entries ≠ [] then
            (c.modifyMember player.guid fun info => info.setModerator true).setOwner player.guid
          else c

/-- A banned player may come back. -/
def unBan (w : World) (player : Player) (badname : String) (c : Channel) : Channel :=
  if c.mayModerate player = false then c
  else
    match w.findPlayerByName badname with
    | none => c
    | some bad =>
      if bad.guid ∉ c.bannedStore then c
      else updateChannelInDB { c with bannedStore := c.bannedStore.erase bad.guid }

/-- `Password`. -/
def setPassword (player : Player) (pass : String) (c : Channel) : Channel :=
  if c.mayModerate player = false then c else updateChannelInDB { c with password := pass }

/-- `SetModerator` and `SetMute` with a guid. -/
def setMemberMode (guid : Nat) (mod set : Bool) (c : Channel) : Channel :=
  if mod then
    if (c.member guid).isModerator ≠ set then c.modifyMember guid fun info => info.setModerator set
    else c
  else if (c.member guid).isMuted ≠ set then c.modifyMember guid fun info => info.setMuted set
  else c

/-- A member becomes moderator or is muted. -/
def setMode (w : World) (player : Player) (p2n : String) (mod set : Bool) (c : Channel) :
    Channel :=
  if c.mayModerate player = false then c
  else if player.guid = c.ownerGUID ∧ p2n = player.name ∧ mod = true then c
  else
    match w.findPlayerByName p2n with
    | none => c
    | some newp =>
      if c.isOn newp.guid = false then c
      else if (player.isGMAccount && newp.isGMAccount) = false ∧ player.oTeam ≠ newp.oTeam ∧
          w.allowTwoSideInteractionChannel = false then c
      else if c.ownerGUID = newp.guid ∧ c.ownerGUID ≠ player.guid then c
      else c.setMemberMode newp.guid mod set

/-- `SetOwner` with a name. -/
def setOwnerByName (w : World) (player : Player) (newname : String) (c : Channel) : Channel :=
  if c.isOn player.guid = false then c
  else if player.isGMAccount = false ∧ player.guid ≠ c.ownerGUID then c
  else
    match w.findPlayerByName newname with
    | none => c
    | some newp =>
      if c.isOn newp.guid = false then c
      else if newp.oTeam ≠ player.oTeam ∧ w.allowTwoSideInteractionChannel = false then c
      else (c.modifyMember newp.guid fun info => info.setModerator true).setOwner newp.guid

end Channel

/-! ### Requests -/

/-- The channel of a name, or the row of the last one. -/
inductive ChannelState
  | absent (row : Option ChannelRow)
  | present (c : Channel)

/-- The requests of players. -/
inductive Request
  | joinChannel (pass : String)
  | leaveChannel
  | cleanupChannels
  | kickOrBan (badname : String) (ban : Bool)
  | unBan (badname : String)
  | setPassword (pass : String)
  | setMode (p2n : String) (mod set : Bool)
  | setOwner (newname : String)

/-- `GetJoinChannel`. -/
def getJoinChannel (w : World) : ChannelState → Channel
  | .absent row => Channel.newChannel w row
  | .present c => c

/-- `ChannelMgr::LeftChannel`. -/
def leftChannel (c : Channel) : ChannelState :=
  if c.playersStore.entries.isEmpty then .absent c.row else .present c

/-- `CleanupChannels` of a player who logs out, for this channel. -/
def cleanupChannels (player : Player) (c : Channel) : ChannelState :=
  if player.guid ∈ c.joined then leftChannel ((c.leftBy player.guid).leaveChannel player false)
  else .present c

/-- What a request does when `GetChannel` finds the channel. -/
def ChannelState.onPresent (s : ChannelState) (f : Channel → ChannelState) : ChannelState :=
  match s with
  | .absent row => .absent row
  | .present c => f c

/-- One request to a channel. -/
def handle (w : World) (player : Player) (s : ChannelState) : Request → ChannelState
  | .joinChannel pass => .present ((getJoinChannel w s).joinChannel player pass)
  | .leaveChannel => s.onPresent fun c => leftChannel (c.leaveChannel player true)
  | .cleanupChannels => s.onPresent (cleanupChannels player)
  | .kickOrBan badname ban => s.onPresent fun c => .present (c.kickOrBan w player badname ban)
  | .unBan badname => s.onPresent fun c => .present (c.unBan w player badname)
  | .setPassword pass => s.onPresent fun c => .present (c.setPassword player pass)
  | .setMode p2n mod set => s.onPresent fun c => .present (c.setMode w player p2n mod set)
  | .setOwner newname => s.onPresent fun c => .present (c.setOwnerByName w player newname)

/-- One request of a player in the world that it meets. -/
def step (s : ChannelState) : World × Nat × Request → ChannelState
  | (w, guid, request) =>
    match w.findPlayer guid with
    | none => s
    | some player => handle w player s request

end Cataclysm.Chat
