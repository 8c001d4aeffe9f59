import Cataclysm.Lib.OrderedMap

/-!
# Ticket manager

Players open tickets, and game masters assign, escalate, comment, close and delete them. The
manager keeps the tickets in a map by their ids, counts the open ones, and writes a row of
`gm_tickets` for each.

## Implementation notes

A ticket is stored under its id, which is also the primary key of its row. The statements take
effect in the order in which they are issued. The step of an iterator from a removed position has
no outcome. Positions, names and times of tickets do not take part.
-/

namespace Cataclysm.Tickets

/-- The low part of a player's guid, which is the guid. -/
structure PlayerGuid where
  val : Nat
  pos : 0 < val
  lt : val < 2 ^ 32
  deriving DecidableEq

/-- `GMTicketEscalationStatus`. -/
inductive GMTicketEscalationStatus
  | unassigned
  | assigned
  | inEscalationQueue
  | escalatedAssigned
  deriving DecidableEq

/-- `GmTicket`; `closedBy` is 0 for an open ticket, -1 for the console, else the guid of who closed
it. -/
structure GmTicket where
  playerGuid : Nat
  message : String
  closedBy : Int
  assignedTo : Nat
  comment : String
  completed : Bool
  escalatedStatus : GMTicketEscalationStatus
  deriving DecidableEq

/-- A row of `gm_tickets`. -/
structure TicketRow where
  guid : Nat
  message : String
  closedBy : Int
  assignedTo : Nat
  comment : String
  completed : Bool
  escalated : GMTicketEscalationStatus
  deriving DecidableEq

namespace GmTicket

def isClosed (ticket : GmTicket) : Bool := ticket.closedBy ≠ 0

def isFromPlayer (ticket : GmTicket) (guid : Nat) : Bool := guid = ticket.playerGuid

def isAssigned (ticket : GmTicket) : Bool := ticket.assignedTo ≠ 0

def isAssignedTo (ticket : GmTicket) (guid : Nat) : Bool := guid = ticket.assignedTo

def isAssignedNotTo (ticket : GmTicket) (guid : Nat) : Bool :=
  ticket.isAssigned && !ticket.isAssignedTo guid

/-- The constructor for a player's packet. -/
def create (player : PlayerGuid) (message : String) : GmTicket :=
  ⟨player.val, message, 0, 0, "", false, .unassigned⟩

/-- `SetAssignedTo`. -/
def setAssignedTo (ticket : GmTicket) (guid : Nat) (isAdmin : Bool) : GmTicket :=
  { ticket with
    assignedTo := guid
    escalatedStatus :=
      if isAdmin ∧ ticket.escalatedStatus = .inEscalationQueue then .escalatedAssigned
      else if ticket.escalatedStatus = .unassigned then .assigned
      else ticket.escalatedStatus }

/-- `SetUnassigned`. -/
def setUnassigned (ticket : GmTicket) : GmTicket :=
  { ticket with
    assignedTo := 0
    escalatedStatus :=
      match ticket.escalatedStatus with
      | .assigned => .unassigned
      | .escalatedAssigned => .inEscalationQueue
      | status => status }

/-- `SaveToDB`; guids lose their high parts, and `closedBy` is an `int32`. -/
def saveToDB (ticket : GmTicket) : TicketRow :=
  { guid := ticket.playerGuid % 2 ^ 32
    message := ticket.message
    closedBy := ticket.closedBy.bmod (2 ^ 32)
    assignedTo := ticket.assignedTo % 2 ^ 32
    comment := ticket.comment
    completed := ticket.completed
    escalated := ticket.escalatedStatus }

/-- `LoadFromDB`. -/
def loadFromDB (row : TicketRow) : GmTicket :=
  ⟨row.guid, row.message, row.closedBy, row.assignedTo, row.comment, row.completed, row.escalated⟩

end GmTicket

/-- `TicketMgr`, with the table. -/
structure TicketMgr where
  status : Bool
  ticketList : OrderedMap Nat GmTicket
  lastTicketId : Nat
  openTicketCount : Nat
  table : OrderedMap Nat TicketRow

namespace TicketMgr

/-- The manager of a new realm, whose table is empty. -/
def create : TicketMgr := ⟨true, .empty, 0, 0, .empty⟩

def getTicket (m : TicketMgr) (ticketId : Nat) : Option GmTicket := m.ticketList.find? ticketId

/-- The first open ticket of a player, with its id. -/
def getTicketByPlayer (m : TicketMgr) (playerGuid : Nat) : Option (Nat × GmTicket) :=
  m.ticketList.entries.find? fun e => e.2.isFromPlayer playerGuid && !e.2.isClosed

/-- `++_lastTicketId`. -/
def generateTicketId (m : TicketMgr) : Nat := (m.lastTicketId + 1) % 2 ^ 32

/-- A ticket stands in the list as it is now, and its row is replaced. -/
def save (m : TicketMgr) (ticketId : Nat) (ticket : GmTicket) : TicketMgr :=
  { m with
    ticketList := m.ticketList.insert ticketId ticket
    table := m.table.insert ticketId ticket.saveToDB }

/-- `AddTicket`. -/
def addTicket (m : TicketMgr) (ticketId : Nat) (ticket : GmTicket) : TicketMgr :=
  { m.save ticketId ticket with
    openTicketCount :=
      if ticket.isClosed then m.openTicketCount else (m.openTicketCount + 1) % 2 ^ 32 }

/-- `CloseTicket`. -/
def closeTicket (m : TicketMgr) (ticketId : Nat) (source : Int) : TicketMgr :=
  match m.getTicket ticketId with
  | none => m
  | some ticket =>
    { m.save ticketId { ticket with closedBy := source } with
      openTicketCount :=
        if source = 0 then m.openTicketCount else (m.openTicketCount + (2 ^ 32 - 1)) % 2 ^ 32 }

/-- `RemoveTicket`. -/
def removeTicket (m : TicketMgr) (ticketId : Nat) : TicketMgr :=
  match m.getTicket ticketId with
  | none => m
  | some _ =>
    { m with ticketList := m.ticketList.erase ticketId, table := m.table.erase ticketId }

/-- The loop of `ResetTickets` from a position of the list; it goes on from a position that still
stands in it. -/
def resetLoop : List Nat → TicketMgr → Option TicketMgr
  | [], m => some m
  | ticketId :: rest, m =>
    let m := if (m.getTicket ticketId).any GmTicket.isClosed then m.removeTicket ticketId else m
    if m.ticketList.contains ticketId then resetLoop rest m else none

/-- `ResetTickets`. -/
def resetTickets (m : TicketMgr) : Option TicketMgr :=
  (resetLoop m.ticketList.keys m).map fun m => { m with lastTicketId := 0, table := .empty }

/-- One row of `LoadTickets`. -/
def loadRow (m : TicketMgr) (row : Nat × TicketRow) : TicketMgr :=
  let ticket := GmTicket.loadFromDB row.2
  { m with
    ticketList := m.ticketList.insert row.1 ticket
    lastTicketId := if m.lastTicketId < row.1 then row.1 else m.lastTicketId
    openTicketCount :=
      if ticket.isClosed then m.openTicketCount else (m.openTicketCount + 1) % 2 ^ 32 }

/-- `LoadTickets`. -/
def loadTickets (m : TicketMgr) : TicketMgr :=
  m.table.entries.foldl loadRow
    { m with ticketList := .empty, lastTicketId := 0, openTicketCount := 0 }

/-! ### Opcodes -/

/-- The ticket system is on, and the player has the level and no open ticket. -/
def acceptsTicket (m : TicketMgr) (player : PlayerGuid) (level ticketLevelReq : Nat) : Bool :=
  m.status && ticketLevelReq ≤ level && (m.getTicketByPlayer player.val).isNone

/-- `HandleGMTicketCreateOpcode`; a chat log that does not uncompress leaves only the id behind. -/
def handleGMTicketCreate (m : TicketMgr) (player : PlayerGuid) (level ticketLevelReq : Nat)
    (message : String) (uncompressed : Bool) : TicketMgr :=
  if m.acceptsTicket player level ticketLevelReq then
    let ticketId := m.generateTicketId
    let m := { m with lastTicketId := ticketId }
    if uncompressed then m.addTicket ticketId (.create player message) else m
  else m

/-- `HandleGMTicketUpdateOpcode`. -/
def handleGMTicketUpdate (m : TicketMgr) (player : PlayerGuid) (message : String) : TicketMgr :=
  match m.getTicketByPlayer player.val with
  | none => m
  | some (ticketId, ticket) => m.save ticketId { ticket with message }

/-- `HandleGMTicketDeleteOpcode`. -/
def handleGMTicketDelete (m : TicketMgr) (player : PlayerGuid) : TicketMgr :=
  match m.getTicketByPlayer player.val with
  | none => m
  | some (ticketId, _) => m.closeTicket ticketId player.val

/-- `HandleGMResponseResolve`. -/
def handleGMResponseResolve (m : TicketMgr) (player : PlayerGuid) : TicketMgr :=
  match m.getTicketByPlayer player.val with
  | none => m
  | some (ticketId, _) => m.closeTicket ticketId player.val

/-! ### Commands

The player of the session is `none` on the console. -/

/-- A command on an open ticket that changes it, or refuses to, and saves it. -/
def editTicket (m : TicketMgr) (ticketId : Nat) (edit : GmTicket → Option GmTicket) : TicketMgr :=
  match m.getTicket ticketId with
  | none => m
  | some ticket =>
    if ticket.isClosed then m
    else
      match edit ticket with
      | none => m
      | some edited => m.save ticketId edited

/-- The ticket is assigned to another player than that of the session. -/
def isForeign (ticket : GmTicket) (session : Option PlayerGuid) : Bool :=
  session.any fun player => ticket.isAssignedNotTo player.val

/-- `HandleGMTicketAssignToCommand`; the target is `none` when no character has its name. -/
def handleGMTicketAssignTo (m : TicketMgr) (ticketId : Nat) (target : Option PlayerGuid)
    (targetGmLevel : Nat) (session : Option PlayerGuid) : TicketMgr :=
  m.editTicket ticketId fun ticket =>
    match target with
    | none => none
    | some guid =>
      if targetGmLevel = 0 || ticket.isAssignedTo guid.val || isForeign ticket session then none
      else some (ticket.setAssignedTo guid.val (3 ≤ targetGmLevel && targetGmLevel ≤ 4))

/-- `HandleGMTicketCommentCommand`. -/
def handleGMTicketComment (m : TicketMgr) (ticketId : Nat) (comment : String)
    (session : Option PlayerGuid) : TicketMgr :=
  m.editTicket ticketId fun ticket =>
    if isForeign ticket session then none else some { ticket with comment }

/-- `HandleGMTicketUnAssignCommand`; `security` is the level of whom the ticket is assigned to. -/
def handleGMTicketUnAssign (m : TicketMgr) (ticketId security mySecurity : Nat) : TicketMgr :=
  m.editTicket ticketId fun ticket =>
    if !ticket.isAssigned || mySecurity < security then none else some ticket.setUnassigned

/-- The ticket can be escalated. -/
def isEscalatable (ticket : GmTicket) : Bool :=
  !ticket.isClosed && !ticket.completed && ticket.escalatedStatus = .unassigned

/-- `HandleGMTicketEscalateCommand`, which does not save the ticket. -/
def handleGMTicketEscalate (m : TicketMgr) (ticketId : Nat) : TicketMgr :=
  match m.getTicket ticketId with
  | none => m
  | some ticket =>
    if isEscalatable ticket then
      { m with
        ticketList :=
          m.ticketList.insert ticketId { ticket with escalatedStatus := .inEscalationQueue } }
    else m

/-- `HandleGMTicketCloseByIdCommand`. -/
def handleGMTicketCloseById (m : TicketMgr) (ticketId : Nat) (session : Option PlayerGuid) :
    TicketMgr :=
  match m.getTicket ticketId with
  | none => m
  | some ticket =>
    if ticket.isClosed || ticket.completed || isForeign ticket session then m
    else m.closeTicket ticketId (session.elim (-1) fun player => player.val)

/-- `HandleGMTicketDeleteByIdCommand`. -/
def handleGMTicketDeleteById (m : TicketMgr) (ticketId : Nat) : TicketMgr :=
  match m.getTicket ticketId with
  | none => m
  | some ticket => if ticket.isClosed then m.removeTicket ticketId else m

/-- `HandleGMTicketResetCommand`. -/
def handleGMTicketReset (m : TicketMgr) : Option TicketMgr :=
  if m.openTicketCount ≠ 0 then some m else m.resetTickets

end TicketMgr

/-! ### Operations -/

/-- What changes tickets. -/
inductive Operation
  | create (player : PlayerGuid) (level ticketLevelReq : Nat) (message : String)
      (uncompressed : Bool)
  | update (player : PlayerGuid) (message : String)
  | abandon (player : PlayerGuid)
  | resolve (player : PlayerGuid)
  | assign (ticketId : Nat) (target : Option PlayerGuid) (targetGmLevel : Nat)
      (session : Option PlayerGuid)
  | unassign (ticketId security mySecurity : Nat)
  | comment (ticketId : Nat) (comment : String) (session : Option PlayerGuid)
  | escalate (ticketId : Nat)
  | close (ticketId : Nat) (session : Option PlayerGuid)
  | delete (ticketId : Nat)
  | reset
  | toggleSystem
  | loadTickets

/-- The state after an operation, if it has an outcome. -/
def TicketMgr.step (m : TicketMgr) : Operation → Option TicketMgr
  | .create player level ticketLevelReq message uncompressed =>
    some (m.handleGMTicketCreate player level ticketLevelReq message uncompressed)
  | .update player message => some (m.handleGMTicketUpdate player message)
  | .abandon player => some (m.handleGMTicketDelete player)
  | .resolve player => some (m.handleGMResponseResolve player)
  | .assign ticketId target targetGmLevel session =>
    some (m.handleGMTicketAssignTo ticketId target targetGmLevel session)
  | .unassign ticketId security mySecurity =>
    some (m.handleGMTicketUnAssign ticketId security mySecurity)
  | .comment ticketId comment session => some (m.handleGMTicketComment ticketId comment session)
  | .escalate ticketId => some (m.handleGMTicketEscalate ticketId)
  | .close ticketId session => some (m.handleGMTicketCloseById ticketId session)
  | .delete ticketId => some (m.handleGMTicketDeleteById ticketId)
  | .reset => m.handleGMTicketReset
  | .toggleSystem => some { m with status := !m.status }
  | .loadTickets => some m.loadTickets

/-- What is left after an operation; nothing follows on a step without an outcome. -/
def stepFrom (s : Option TicketMgr) (op : Operation) : Option TicketMgr :=
  s.bind fun m => m.step op

end Cataclysm.Tickets
