import Cataclysm.Lib.Runs
import Cataclysm.Tickets.TicketMgr

/-!
# Bookkeeping of the ticket queue

The counter of the open tickets, the ids, the list and the table are written in different places.
They stay in step as long as no ticket is escalated, since that is not saved, and no closed ticket
is reset, since that steps on from a removed position.

## Implementation notes

Every change of a stored ticket that is saved is one operation on the list and the table; the
invariant says that the table is the saved list. The ids are below the next one, so there are fewer
tickets than the counter can count.
-/

namespace Cataclysm.Tickets

open GmTicket

/-- Whether a ticket is closed, whom it is assigned to, and its escalation. -/
def ticketState (ticket : GmTicket) : Bool × Nat × GMTicketEscalationStatus :=
  (ticket.isClosed, ticket.assignedTo, ticket.escalatedStatus)

/-- The counter counts the open tickets, no player has two of them, and the rows would be loaded
as the tickets are stored. -/
structure Booked (m : TicketMgr) : Prop where
  counted : m.openTicketCount = m.ticketList.countValues fun ticket => !ticket.isClosed
  single : ∀ e ∈ m.ticketList.entries, ∀ e' ∈ m.ticketList.entries,
    e.2.isClosed = false → e'.2.isClosed = false → e.2.playerGuid = e'.2.playerGuid → e.1 = e'.1
  loadable : ∀ ticketId, (m.loadTickets.getTicket ticketId).map ticketState =
    (m.getTicket ticketId).map ticketState

/-- A new ticket takes no stored one's id, and a reset removes exactly the closed tickets. -/
def Careful (m : TicketMgr) : Operation → Prop
  | .create player level ticketLevelReq _ _ =>
    m.acceptsTicket player level ticketLevelReq = true →
      m.ticketList.contains m.generateTicketId = false
  | .reset =>
    ∃ m', m.step .reset = some m' ∧ (m.openTicketCount = 0 →
      m'.ticketList = m.ticketList.filter fun _ ticket => !ticket.isClosed)
  | .update .. | .abandon _ | .resolve _ | .assign .. | .unassign .. | .comment .. | .escalate _
  | .close .. | .delete _ | .toggleSystem | .loadTickets => True

/-- The ids do not run out, no ticket is escalated, and no closed ticket is reset. -/
def Keeps (m : TicketMgr) : Operation → Prop
  | .create player level ticketLevelReq _ _ =>
    m.acceptsTicket player level ticketLevelReq = true → m.lastTicketId + 1 < 2 ^ 32
  | .escalate ticketId =>
    ∀ ticket, m.getTicket ticketId = some ticket → TicketMgr.isEscalatable ticket = false
  | .reset => m.openTicketCount = 0 → ∀ e ∈ m.ticketList.entries, e.2.isClosed = false
  | .update .. | .abandon _ | .resolve _ | .assign .. | .unassign .. | .comment .. | .close ..
  | .delete _ | .toggleSystem | .loadTickets => True

/-! ### Rows -/

/-- A row has room for the ticket. -/
structure Storable (ticket : GmTicket) : Prop where
  playerGuid : ticket.playerGuid < 2 ^ 32
  assignedTo : ticket.assignedTo < 2 ^ 32
  closedBy : ticket.closedBy.bmod (2 ^ 32) = 0 → ticket.closedBy = 0

theorem saveToDB_loadFromDB (ticket : GmTicket) :
    (loadFromDB ticket.saveToDB).saveToDB = ticket.saveToDB := by
  simp [saveToDB, loadFromDB]

theorem isClosed_loadFromDB {ticket : GmTicket} (h : Storable ticket) :
    (loadFromDB ticket.saveToDB).isClosed = ticket.isClosed := by
  refine decide_eq_decide.mpr (not_congr ⟨h.closedBy, fun hopen => ?_⟩)
  change ticket.closedBy.bmod (2 ^ 32) = 0
  rw [hopen]
  rfl

theorem ticketState_loadFromDB {ticket : GmTicket} (h : Storable ticket) :
    ticketState (loadFromDB ticket.saveToDB) = ticketState ticket := by
  refine Prod.ext (isClosed_loadFromDB h) (Prod.ext ?_ rfl)
  exact Nat.mod_eq_of_lt h.assignedTo

theorem playerGuid_loadFromDB {ticket : GmTicket} (h : Storable ticket) :
    (loadFromDB ticket.saveToDB).playerGuid = ticket.playerGuid :=
  Nat.mod_eq_of_lt h.playerGuid

theorem storable_loadFromDB (ticket : GmTicket) : Storable (loadFromDB ticket.saveToDB) := by
  refine ⟨Nat.mod_lt _ (by decide), Nat.mod_lt _ (by decide), fun hzero => ?_⟩
  exact Int.bmod_bmod.symm.trans hzero

/-! ### Loading -/

theorem ticketList_foldl_loadRow (rows : List (Nat × TicketRow)) (m : TicketMgr) :
    (rows.foldl TicketMgr.loadRow m).ticketList =
      rows.foldl (fun list row => list.insert row.1 (loadFromDB row.2)) m.ticketList := by
  induction rows generalizing m with
  | nil => rfl
  | cons row rest ih => exact ih (m.loadRow row)

theorem table_foldl_loadRow (rows : List (Nat × TicketRow)) (m : TicketMgr) :
    (rows.foldl TicketMgr.loadRow m).table = m.table := by
  induction rows generalizing m with
  | nil => rfl
  | cons row rest ih => exact ih (m.loadRow row)

theorem openTicketCount_foldl_loadRow (rows : List (Nat × TicketRow)) (m : TicketMgr)
    (h : m.openTicketCount + rows.length < 2 ^ 32) :
    (rows.foldl TicketMgr.loadRow m).openTicketCount =
      m.openTicketCount + rows.countP fun row => !(loadFromDB row.2).isClosed := by
  induction rows generalizing m with
  | nil => rfl
  | cons row rest ih =>
    rw [List.length_cons] at h
    rw [List.foldl_cons, List.countP_cons]
    cases hclosed : (loadFromDB row.2).isClosed with
    | true =>
      have hcount : (m.loadRow row).openTicketCount = m.openTicketCount := if_pos hclosed
      rw [ih (m.loadRow row) (by omega), hcount]
      rfl
    | false =>
      have hcount : (m.loadRow row).openTicketCount = m.openTicketCount + 1 := by
        refine (if_neg (Bool.eq_false_iff.mp hclosed)).trans (Nat.mod_eq_of_lt ?_)
        omega
      rw [ih (m.loadRow row) (by omega), hcount]
      simp only [Bool.not_false, if_true]
      omega

theorem lastTicketId_foldl_loadRow (rows : List (Nat × TicketRow)) (m : TicketMgr) :
    (rows.foldl TicketMgr.loadRow m).lastTicketId =
      rows.foldl (fun last row => max last row.1) m.lastTicketId := by
  induction rows generalizing m with
  | nil => rfl
  | cons row rest ih =>
    have hmax : (m.loadRow row).lastTicketId = max m.lastTicketId row.1 := by
      change (if m.lastTicketId < row.1 then row.1 else m.lastTicketId) = _
      split
      · next h => exact (Nat.max_eq_right h.le).symm
      · next h => exact (Nat.max_eq_left (Nat.le_of_not_lt h)).symm
    rw [List.foldl_cons, ih, hmax]
    rfl

theorem le_foldl_max (rows : List (Nat × TicketRow)) (last : Nat) :
    last ≤ rows.foldl (fun last row => max last row.1) last ∧
      ∀ row ∈ rows, row.1 ≤ rows.foldl (fun last row => max last row.1) last := by
  induction rows generalizing last with
  | nil => exact ⟨Nat.le_refl _, fun row hrow => absurd hrow List.not_mem_nil⟩
  | cons row rest ih =>
    obtain ⟨hlast, hrest⟩ := ih (max last row.1)
    refine ⟨(Nat.le_max_left ..).trans hlast, fun row' hrow' => ?_⟩
    rcases List.mem_cons.mp hrow' with rfl | htail
    · exact (Nat.le_max_right ..).trans hlast
    · exact hrest row' htail

theorem foldl_max_lt (rows : List (Nat × TicketRow)) {last bound : Nat} (hlast : last < bound)
    (hrows : ∀ row ∈ rows, row.1 < bound) :
    rows.foldl (fun last row => max last row.1) last < bound := by
  induction rows generalizing last with
  | nil => exact hlast
  | cons row rest ih =>
    refine ih (Nat.max_lt.mpr ⟨hlast, hrows row List.mem_cons_self⟩) fun row' hrow' => ?_
    exact hrows row' (List.mem_cons_of_mem _ hrow')

/-- The loaded list has the tickets of the rows. -/
theorem ticketList_loadTickets (m : TicketMgr) :
    m.loadTickets.ticketList = m.table.map loadFromDB := by
  refine OrderedMap.ext_find? fun ticketId => ?_
  unfold TicketMgr.loadTickets
  rw [ticketList_foldl_loadRow, OrderedMap.find?_foldl_entries m.table
    (f := fun e _ => some (loadFromDB e.2)) (fun list e k => OrderedMap.find?_insert ..),
    OrderedMap.find?_map]
  cases m.table.find? ticketId with
  | none => rfl
  | some row => rfl

theorem table_loadTickets (m : TicketMgr) : m.loadTickets.table = m.table :=
  table_foldl_loadRow ..

/-! ### What every run keeps -/

/-- The table is the saved list, and the ids are below the next one. -/
structure Good (m : TicketMgr) : Prop where
  table : m.table = m.ticketList.map saveToDB
  counted : m.openTicketCount = m.ticketList.countValues fun ticket => !ticket.isClosed
  single : ∀ e ∈ m.ticketList.entries, ∀ e' ∈ m.ticketList.entries,
    e.2.isClosed = false → e'.2.isClosed = false → e.2.playerGuid = e'.2.playerGuid → e.1 = e'.1
  ids : ∀ e ∈ m.ticketList.entries, 0 < e.1 ∧ e.1 ≤ m.lastTicketId
  last : m.lastTicketId < 2 ^ 32
  storable : ∀ e ∈ m.ticketList.entries, Storable e.2

variable {m : TicketMgr} {ticketId : Nat} {ticket : GmTicket}

theorem good_create : Good TicketMgr.create := by
  refine ⟨rfl, rfl, ?_, ?_, by decide, ?_⟩
  · intro e he
    cases he
  · intro e he
    cases he
  · intro e he
    cases he

theorem mem_of_getTicket (h : m.getTicket ticketId = some ticket) :
    (ticketId, ticket) ∈ m.ticketList.entries := OrderedMap.find?_eq_some_iff.mp h

/-- There are no more tickets than ids were given out. -/
theorem Good.length_le (h : Good m) : m.ticketList.entries.length ≤ m.lastTicketId := by
  have hsub : m.ticketList.keys ⊆ List.range' 1 m.lastTicketId := by
    intro ticketId hmem
    obtain ⟨e, he, rfl⟩ := List.mem_map.mp hmem
    obtain ⟨hpos, hle⟩ := h.ids e he
    exact List.mem_range'_1.mpr ⟨hpos, by omega⟩
  have hlength := (m.ticketList.nodup_keys.subperm hsub).length_le
  rw [OrderedMap.keys, List.length_map, List.length_range'] at hlength
  exact hlength

theorem Good.booked (h : Good m) : Booked m := by
  refine ⟨h.counted, h.single, fun ticketId => ?_⟩
  change (m.loadTickets.ticketList.find? ticketId).map ticketState =
    (m.ticketList.find? ticketId).map ticketState
  rw [ticketList_loadTickets, h.table, OrderedMap.find?_map, OrderedMap.find?_map]
  cases hfind : m.ticketList.find? ticketId with
  | none => rfl
  | some ticket =>
    have hstorable := h.storable _ (OrderedMap.find?_eq_some_iff.mp hfind)
    exact congrArg some (ticketState_loadFromDB hstorable)

/-- Tickets that come from stored ones keep players single. -/
theorem single_of_origin {list : OrderedMap Nat GmTicket} (h : Good m)
    (horigin : ∀ e ∈ list.entries, ∃ old ∈ m.ticketList.entries, old.1 = e.1 ∧
      old.2.playerGuid = e.2.playerGuid ∧ (e.2.isClosed = false → old.2.isClosed = false)) :
    ∀ e ∈ list.entries, ∀ e' ∈ list.entries, e.2.isClosed = false → e'.2.isClosed = false →
      e.2.playerGuid = e'.2.playerGuid → e.1 = e'.1 := by
  intro e he e' he' hopen hopen' hplayer
  obtain ⟨old, hold, hid, hguid, hwas⟩ := horigin e he
  obtain ⟨old', hold', hid', hguid', hwas'⟩ := horigin e' he'
  have hsame := h.single old hold old' hold' (hwas hopen) (hwas' hopen')
    (hguid.trans (hplayer.trans hguid'.symm))
  rw [← hid, ← hid', hsame]

/-- A stored ticket changes and is saved. -/
theorem Good.saved (h : Good m) {edited : GmTicket} {count : Nat}
    (hfind : m.getTicket ticketId = some ticket) (hplayer : edited.playerGuid = ticket.playerGuid)
    (hopen : edited.isClosed = false → ticket.isClosed = false) (hstorable : Storable edited)
    (hcount : count + (if !ticket.isClosed then 1 else 0) =
      m.openTicketCount + if !edited.isClosed then 1 else 0) :
    Good { m.save ticketId edited with openTicketCount := count } := by
  have hold := mem_of_getTicket hfind
  constructor
  · change m.table.insert _ _ = (m.ticketList.insert _ _).map _
    rw [h.table, OrderedMap.map_insert]
  · change count = (m.ticketList.insert ticketId edited).countValues _
    have hcounted := h.counted
    rw [OrderedMap.countValues_eq_erase hfind] at hcounted
    rw [OrderedMap.countValues_insert]
    omega
  · refine single_of_origin h fun e he => ?_
    rcases OrderedMap.mem_insert.mp he with rfl | herase
    · exact ⟨_, hold, rfl, hplayer.symm, hopen⟩
    · exact ⟨e, (OrderedMap.mem_erase.mp herase).1, rfl, rfl, id⟩
  · intro e he
    rcases OrderedMap.mem_insert.mp he with rfl | herase
    · exact h.ids (ticketId, ticket) hold
    · exact h.ids e (OrderedMap.mem_erase.mp herase).1
  · exact h.last
  · intro e he
    rcases OrderedMap.mem_insert.mp he with rfl | herase
    · exact hstorable
    · exact h.storable e (OrderedMap.mem_erase.mp herase).1

theorem getTicketByPlayer_eq_some {guid : Nat}
    (h : m.getTicketByPlayer guid = some (ticketId, ticket)) :
    m.getTicket ticketId = some ticket ∧ ticket.isClosed = false := by
  have htest := List.find?_some h
  simp only [Bool.and_eq_true, Bool.not_eq_true'] at htest
  exact ⟨OrderedMap.find?_eq_some_iff.mpr (List.mem_of_find?_eq_some h), htest.2⟩

theorem getTicketByPlayer_isNone {guid : Nat} (h : (m.getTicketByPlayer guid).isNone = true) :
    ∀ e ∈ m.ticketList.entries, e.2.isClosed = false → e.2.playerGuid ≠ guid := by
  intro e he hopen hplayer
  have hno := List.find?_eq_none.mp (Option.isNone_iff_eq_none.mp h) e he
  rw [hopen, ← hplayer] at hno
  exact hno (by simp [isFromPlayer])

/-! ### Opcodes and commands -/

theorem Good.generateTicketId (h : Good m) (hnext : m.lastTicketId + 1 < 2 ^ 32) :
    m.generateTicketId = m.lastTicketId + 1 ∧ m.ticketList.find? m.generateTicketId = none := by
  have hid : m.generateTicketId = m.lastTicketId + 1 := Nat.mod_eq_of_lt hnext
  refine ⟨hid, OrderedMap.find?_eq_none_iff.mpr fun ticket hmem => ?_⟩
  have hle := (h.ids _ hmem).2
  omega

theorem storable_create (player : PlayerGuid) (message : String) :
    Storable (GmTicket.create player message) :=
  ⟨player.lt, Nat.two_pow_pos 32, fun _ => rfl⟩

/-- A player without an open ticket opens one. -/
theorem Good.addTicket (h : Good m) {player : PlayerGuid} {message : String}
    (hnext : m.lastTicketId + 1 < 2 ^ 32)
    (hfree : ∀ e ∈ m.ticketList.entries, e.2.isClosed = false → e.2.playerGuid ≠ player.val) :
    Good (TicketMgr.addTicket { m with lastTicketId := m.generateTicketId } m.generateTicketId
      (.create player message)) := by
  obtain ⟨hid, hnew⟩ := h.generateTicketId hnext
  have herase := OrderedMap.erase_of_find?_eq_none hnew
  have hentries : ∀ e ∈ (m.ticketList.insert m.generateTicketId
      (GmTicket.create player message)).entries,
      e = (m.generateTicketId, GmTicket.create player message) ∨ e ∈ m.ticketList.entries := by
    intro e he
    rcases OrderedMap.mem_insert.mp he with hself | hother
    · exact Or.inl hself
    · exact Or.inr (OrderedMap.mem_erase.mp hother).1
  constructor
  · change m.table.insert _ _ = (m.ticketList.insert _ _).map _
    rw [h.table, OrderedMap.map_insert]
  · change (m.openTicketCount + 1) % 2 ^ 32 = (m.ticketList.insert _ _).countValues _
    have hlength := h.length_le
    have hle := m.ticketList.countValues_le fun ticket => !ticket.isClosed
    rw [OrderedMap.countValues_insert, herase, h.counted, Nat.mod_eq_of_lt (by omega)]
    rfl
  · intro e he e' he' hopen hopen' hplayer
    rcases hentries e he with rfl | hold
    · rcases hentries e' he' with rfl | hold'
      · rfl
      · exact absurd hplayer.symm (hfree e' hold' hopen')
    · rcases hentries e' he' with rfl | hold'
      · exact absurd hplayer (hfree e hold hopen)
      · exact h.single e hold e' hold' hopen hopen' hplayer
  · intro e he
    change 0 < e.1 ∧ e.1 ≤ m.generateTicketId
    rcases hentries e he with rfl | hold
    · exact ⟨by omega, Nat.le_refl _⟩
    · obtain ⟨hpos, hle⟩ := h.ids e hold
      exact ⟨hpos, by omega⟩
  · change m.generateTicketId < 2 ^ 32
    omega
  · intro e he
    rcases hentries e he with rfl | hold
    · exact storable_create player message
    · exact h.storable e hold

theorem Good.removeTicket (h : Good m) (hfind : m.getTicket ticketId = some ticket)
    (hclosed : ticket.isClosed = true) : Good (m.removeTicket ticketId) := by
  have heq : m.removeTicket ticketId =
      { m with ticketList := m.ticketList.erase ticketId, table := m.table.erase ticketId } := by
    unfold TicketMgr.removeTicket
    rw [hfind]
  have hkept : ∀ e ∈ (m.ticketList.erase ticketId).entries, e ∈ m.ticketList.entries :=
    fun e he => (OrderedMap.mem_erase.mp he).1
  rw [heq]
  constructor
  · change m.table.erase _ = (m.ticketList.erase _).map _
    rw [h.table, OrderedMap.map_erase]
  · change m.openTicketCount = (m.ticketList.erase ticketId).countValues _
    rw [h.counted, OrderedMap.countValues_eq_erase hfind, hclosed]
    rfl
  · exact fun e he e' he' => h.single e (hkept e he) e' (hkept e' he')
  · exact fun e he => h.ids e (hkept e he)
  · exact h.last
  · exact fun e he => h.storable e (hkept e he)

/-- Every loaded ticket stands for a stored one. -/
theorem Good.origin (h : Good m) :
    ∀ e ∈ m.loadTickets.ticketList.entries,
      ∃ old ∈ m.ticketList.entries, e = (old.1, loadFromDB old.2.saveToDB) := by
  intro e he
  rw [ticketList_loadTickets, h.table] at he
  obtain ⟨row, hrow, rfl⟩ := List.mem_map.mp he
  obtain ⟨old, hold, rfl⟩ := List.mem_map.mp hrow
  exact ⟨old, hold, rfl⟩

theorem Good.table_origin (h : Good m) :
    ∀ row ∈ m.table.entries, ∃ old ∈ m.ticketList.entries, row = (old.1, old.2.saveToDB) := by
  intro row hrow
  rw [h.table] at hrow
  obtain ⟨old, hold, rfl⟩ := List.mem_map.mp hrow
  exact ⟨old, hold, rfl⟩

theorem Good.loadTickets (h : Good m) : Good m.loadTickets := by
  have hlength : m.table.entries.length = m.ticketList.entries.length := by
    rw [h.table]
    exact List.length_map ..
  have hlast : m.loadTickets.lastTicketId =
      m.table.entries.foldl (fun last row => max last row.1) 0 := lastTicketId_foldl_loadRow ..
  constructor
  · rw [table_loadTickets, ticketList_loadTickets]
    refine OrderedMap.ext_find? fun ticketId => ?_
    rw [OrderedMap.find?_map, OrderedMap.find?_map, h.table, OrderedMap.find?_map]
    cases m.ticketList.find? ticketId with
    | none => rfl
    | some ticket => exact congrArg some (saveToDB_loadFromDB ticket).symm
  · have hle := h.length_le
    have hbound := h.last
    have hcount := openTicketCount_foldl_loadRow m.table.entries
      { m with ticketList := .empty, lastTicketId := 0, openTicketCount := 0 }
      (by change 0 + _ < _; omega)
    rw [ticketList_loadTickets]
    refine hcount.trans ((Nat.zero_add _).trans ?_)
    unfold OrderedMap.countValues OrderedMap.map
    rw [List.countP_map]
    rfl
  · refine single_of_origin h fun e he => ?_
    obtain ⟨old, hold, rfl⟩ := h.origin e he
    refine ⟨old, hold, rfl, (playerGuid_loadFromDB (h.storable old hold)).symm, fun hopen => ?_⟩
    exact (isClosed_loadFromDB (h.storable old hold)).symm.trans hopen
  · intro e he
    rw [hlast]
    obtain ⟨old, hold, rfl⟩ := h.origin e he
    refine ⟨(h.ids old hold).1, (le_foldl_max m.table.entries 0).2 (old.1, old.2.saveToDB) ?_⟩
    rw [h.table]
    exact List.mem_map_of_mem hold
  · rw [hlast]
    refine foldl_max_lt _ (by decide) fun row hrow => ?_
    obtain ⟨old, hold, rfl⟩ := h.table_origin row hrow
    exact (h.ids old hold).2.trans_lt h.last
  · intro e he
    obtain ⟨old, hold, rfl⟩ := h.origin e he
    exact storable_loadFromDB old.2

/-- A ticket is closed by its player, a game master or the console. -/
theorem Good.closeTicket (h : Good m) (hfind : m.getTicket ticketId = some ticket)
    (hopen : ticket.isClosed = false) {source : Int} (hsource : source.bmod (2 ^ 32) ≠ 0) :
    Good (m.closeTicket ticketId source) := by
  have hne : source ≠ 0 := by
    rintro rfl
    exact hsource rfl
  have heq : m.closeTicket ticketId source =
      { m.save ticketId { ticket with closedBy := source } with
        openTicketCount := (m.openTicketCount + (2 ^ 32 - 1)) % 2 ^ 32 } := by
    unfold TicketMgr.closeTicket
    rw [hfind]
    simp only [if_neg hne]
  have hclosed : isClosed { ticket with closedBy := source } = true := decide_eq_true hne
  have hstorable := h.storable _ (mem_of_getTicket hfind)
  rw [heq]
  refine h.saved hfind rfl (fun _ => hopen) ⟨hstorable.playerGuid, hstorable.assignedTo, ?_⟩ ?_
  · exact fun hzero => absurd hzero hsource
  · have hcounted := h.counted
    have hle := m.ticketList.countValues_le fun ticket => !ticket.isClosed
    have hlength := h.length_le
    have hlast := h.last
    rw [OrderedMap.countValues_eq_erase hfind, hopen] at hcounted
    rw [hopen, hclosed]
    simp only [Bool.not_false, Bool.not_true, if_true, Bool.false_eq_true, if_false] at hcounted ⊢
    have hbound : m.openTicketCount < 2 ^ 32 := by
      have hsame := h.counted
      omega
    omega

theorem bmod_playerGuid (player : PlayerGuid) : (player.val : Int).bmod (2 ^ 32) ≠ 0 := by
  intro hzero
  have hdvd := Int.dvd_of_bmod_eq_zero hzero
  have hpos := player.pos
  have hlt := player.lt
  omega

theorem Good.editTicket (h : Good m) {edit : GmTicket → Option GmTicket}
    (hedit : ∀ ticket edited, edit ticket = some edited →
      edited.playerGuid = ticket.playerGuid ∧ edited.closedBy = ticket.closedBy ∧
        (ticket.assignedTo < 2 ^ 32 → edited.assignedTo < 2 ^ 32)) :
    Good (m.editTicket ticketId edit) := by
  unfold TicketMgr.editTicket
  cases hfind : m.getTicket ticketId with
  | none => exact h
  | some ticket =>
    dsimp only
    split
    · exact h
    · cases hedited : edit ticket with
      | none => exact h
      | some edited =>
        obtain ⟨hplayer, hclosed, hassigned⟩ := hedit ticket edited hedited
        have hstorable := h.storable _ (mem_of_getTicket hfind)
        have hsame : edited.isClosed = ticket.isClosed := by
          unfold isClosed
          rw [hclosed]
        refine h.saved hfind hplayer (fun hopen => hsame.symm.trans hopen) ⟨?_, ?_, ?_⟩ ?_
        · exact hplayer ▸ hstorable.playerGuid
        · exact hassigned hstorable.assignedTo
        · exact hclosed ▸ hstorable.closedBy
        · rw [hsame]

/-! ### Reset -/

theorem resetLoop_of_open {ids : List Nat}
    (hopen : ∀ e ∈ m.ticketList.entries, e.2.isClosed = false)
    (hstored : ∀ ticketId ∈ ids, m.ticketList.contains ticketId = true) :
    TicketMgr.resetLoop ids m = some m := by
  induction ids with
  | nil => rfl
  | cons ticketId rest ih =>
    have hfound := hstored ticketId List.mem_cons_self
    obtain ⟨ticket, hfind⟩ := Option.isSome_iff_exists.mp hfound
    have hkeeps : (m.getTicket ticketId).any GmTicket.isClosed = false := by
      unfold TicketMgr.getTicket
      rw [hfind]
      exact hopen _ (OrderedMap.find?_eq_some_iff.mp hfind)
    rw [TicketMgr.resetLoop, hkeeps]
    simp only [Bool.false_eq_true, if_false, hfound, if_true]
    exact ih fun ticketId' hmem => hstored ticketId' (List.mem_cons_of_mem _ hmem)

theorem resetTickets_of_open (hopen : ∀ e ∈ m.ticketList.entries, e.2.isClosed = false) :
    m.resetTickets = some { m with lastTicketId := 0, table := .empty } := by
  unfold TicketMgr.resetTickets
  rw [resetLoop_of_open hopen fun ticketId hmem => OrderedMap.mem_keys.mp hmem]
  rfl

/-- Without open and closed tickets there are none. -/
theorem Good.ticketList_eq_empty (h : Good m) (hzero : m.openTicketCount = 0)
    (hopen : ∀ e ∈ m.ticketList.entries, e.2.isClosed = false) : m.ticketList = .empty := by
  have hcount := h.counted
  rw [hzero] at hcount
  have hnone := List.countP_eq_zero.mp hcount.symm
  ext1
  refine List.eq_nil_iff_forall_not_mem.mpr fun e he => ?_
  refine hnone e he ?_
  change (!e.2.isClosed) = true
  rw [hopen e he]
  rfl

theorem Good.reset (h : Good m) (hkeeps : Keeps m .reset) :
    ∃ m', m.step .reset = some m' ∧ Good m' ∧ (m.openTicketCount = 0 →
      m'.ticketList = m.ticketList.filter fun _ ticket => !ticket.isClosed) := by
  by_cases hzero : m.openTicketCount = 0
  · have hopen := hkeeps hzero
    have hempty := h.ticketList_eq_empty hzero hopen
    refine ⟨{ m with lastTicketId := 0, table := .empty }, ?_, ?_, fun _ => ?_⟩
    · exact (if_neg (not_not_intro hzero)).trans (resetTickets_of_open hopen)
    · refine ⟨?_, h.counted, h.single, fun e he => ?_, Nat.two_pow_pos 32, h.storable⟩
      · change OrderedMap.empty = m.ticketList.map _
        rw [hempty]
        rfl
      · change e ∈ m.ticketList.entries at he
        rw [hempty] at he
        cases he
    · change m.ticketList = _
      rw [hempty]
      rfl
  · refine ⟨m, if_pos hzero, h, fun hno => absurd hno hzero⟩

/-! ### Steps -/

theorem Good.closeOwn (h : Good m) (player : PlayerGuid) :
    Good (m.handleGMTicketDelete player) := by
  unfold TicketMgr.handleGMTicketDelete
  cases hfind : m.getTicketByPlayer player.val with
  | none => exact h
  | some found =>
    obtain ⟨hticket, hopen⟩ := getTicketByPlayer_eq_some hfind
    exact h.closeTicket hticket hopen (bmod_playerGuid player)

theorem Good.handleGMTicketCreate (h : Good m) {player : PlayerGuid} {level ticketLevelReq : Nat}
    {message : String} {uncompressed : Bool}
    (hkeeps : Keeps m (.create player level ticketLevelReq message uncompressed)) :
    Good (m.handleGMTicketCreate player level ticketLevelReq message uncompressed) := by
  unfold TicketMgr.handleGMTicketCreate
  split
  · next haccepts =>
      have hnext := hkeeps haccepts
      have hnone := (Bool.and_eq_true_iff.mp haccepts).2
      obtain ⟨hid, -⟩ := h.generateTicketId hnext
      cases uncompressed with
      | true => exact h.addTicket hnext (getTicketByPlayer_isNone hnone)
      | false =>
        refine ⟨h.table, h.counted, h.single, fun e he => ?_, ?_, h.storable⟩
        · change 0 < e.1 ∧ e.1 ≤ m.generateTicketId
          obtain ⟨hpos, hle⟩ := h.ids e he
          exact ⟨hpos, by omega⟩
        · change m.generateTicketId < 2 ^ 32
          omega
  · exact h

theorem Good.handleGMTicketUpdate (h : Good m) (player : PlayerGuid) (message : String) :
    Good (m.handleGMTicketUpdate player message) := by
  unfold TicketMgr.handleGMTicketUpdate
  cases hfind : m.getTicketByPlayer player.val with
  | none => exact h
  | some found =>
    obtain ⟨hticket, hopen⟩ := getTicketByPlayer_eq_some hfind
    have hstorable := h.storable _ (mem_of_getTicket hticket)
    refine h.saved hticket rfl (fun _ => hopen) ⟨hstorable.playerGuid, hstorable.assignedTo, ?_⟩ rfl
    exact hstorable.closedBy

theorem Good.handleGMTicketCloseById (h : Good m) (session : Option PlayerGuid) :
    Good (m.handleGMTicketCloseById ticketId session) := by
  unfold TicketMgr.handleGMTicketCloseById
  cases hfind : m.getTicket ticketId with
  | none => exact h
  | some ticket =>
    dsimp only
    split
    · exact h
    · next hguards =>
        simp only [Bool.or_eq_true, not_or, Bool.not_eq_true] at hguards
        refine h.closeTicket hfind hguards.1.1 ?_
        cases session with
        | none => decide
        | some player => exact bmod_playerGuid player

theorem Good.handleGMTicketDeleteById (h : Good m) :
    Good (m.handleGMTicketDeleteById ticketId) := by
  unfold TicketMgr.handleGMTicketDeleteById
  cases hfind : m.getTicket ticketId with
  | none => exact h
  | some ticket =>
    dsimp only
    split
    · next hclosed => exact h.removeTicket hfind hclosed
    · exact h

theorem Good.handleGMTicketAssignTo (h : Good m) (target : Option PlayerGuid) (targetGmLevel : Nat)
    (session : Option PlayerGuid) :
    Good (m.handleGMTicketAssignTo ticketId target targetGmLevel session) := by
  refine h.editTicket fun ticket edited hedited => ?_
  cases target with
  | none => cases hedited
  | some guid =>
    obtain ⟨-, hassigned⟩ := Option.ite_none_left_eq_some.mp hedited
    obtain rfl := Option.some.inj hassigned
    exact ⟨rfl, rfl, fun _ => guid.lt⟩

theorem Good.handleGMTicketComment (h : Good m) (comment : String) (session : Option PlayerGuid) :
    Good (m.handleGMTicketComment ticketId comment session) := by
  refine h.editTicket fun ticket edited hedited => ?_
  obtain ⟨-, hcomment⟩ := Option.ite_none_left_eq_some.mp hedited
  obtain rfl := Option.some.inj hcomment
  exact ⟨rfl, rfl, id⟩

theorem Good.handleGMTicketUnAssign (h : Good m) (security mySecurity : Nat) :
    Good (m.handleGMTicketUnAssign ticketId security mySecurity) := by
  refine h.editTicket fun ticket edited hedited => ?_
  obtain ⟨-, hunassigned⟩ := Option.ite_none_left_eq_some.mp hedited
  obtain rfl := Option.some.inj hunassigned
  exact ⟨rfl, rfl, fun _ => Nat.two_pow_pos 32⟩

theorem handleGMTicketEscalate_eq (hkeeps : Keeps m (.escalate ticketId)) :
    m.handleGMTicketEscalate ticketId = m := by
  unfold TicketMgr.handleGMTicketEscalate
  cases hfind : m.getTicket ticketId with
  | none => rfl
  | some ticket => exact if_neg (Bool.eq_false_iff.mp (hkeeps ticket hfind))

theorem Good.step (h : Good m) {op : Operation} (hkeeps : Keeps m op) :
    ∃ m', m.step op = some m' ∧ Good m' := by
  cases op with
  | create player level ticketLevelReq message uncompressed =>
    exact ⟨_, rfl, h.handleGMTicketCreate hkeeps⟩
  | update player message => exact ⟨_, rfl, h.handleGMTicketUpdate player message⟩
  | abandon player => exact ⟨_, rfl, h.closeOwn player⟩
  | resolve player => exact ⟨_, rfl, h.closeOwn player⟩
  | assign ticketId target targetGmLevel session =>
    exact ⟨_, rfl, h.handleGMTicketAssignTo target targetGmLevel session⟩
  | unassign ticketId security mySecurity =>
    exact ⟨_, rfl, h.handleGMTicketUnAssign security mySecurity⟩
  | comment ticketId comment session => exact ⟨_, rfl, h.handleGMTicketComment comment session⟩
  | escalate ticketId => exact ⟨_, rfl, (handleGMTicketEscalate_eq hkeeps).symm ▸ h⟩
  | close ticketId session => exact ⟨_, rfl, h.handleGMTicketCloseById session⟩
  | delete ticketId => exact ⟨_, rfl, h.handleGMTicketDeleteById⟩
  | reset =>
    obtain ⟨m', hstep, hgood, -⟩ := h.reset hkeeps
    exact ⟨m', hstep, hgood⟩
  | toggleSystem => exact ⟨_, rfl, h.table, h.counted, h.single, h.ids, h.last, h.storable⟩
  | loadTickets => exact ⟨_, rfl, h.loadTickets⟩

theorem Good.careful (h : Good m) {op : Operation} (hkeeps : Keeps m op) : Careful m op := by
  cases op with
  | create player level ticketLevelReq message uncompressed =>
    intro haccepts
    obtain ⟨-, hnew⟩ := h.generateTicketId (hkeeps haccepts)
    unfold OrderedMap.contains
    rw [hnew]
    rfl
  | reset =>
    obtain ⟨m', hstep, -, hkept⟩ := h.reset hkeeps
    exact ⟨m', hstep, hkept⟩
  | update player message | abandon player | resolve player | assign ticketId target level session
  | unassign ticketId security mySecurity | comment ticketId comment session | escalate ticketId
  | close ticketId session | delete ticketId | toggleSystem | loadTickets => trivial

/-! ### Runs -/

/-- The condition on a step, in a state that there is. -/
def KeepsFrom (s : Option TicketMgr) (op : Operation) : Prop := ∀ m, s = some m → Keeps m op

/-- In every state that such a run reaches, the tickets are booked, and the next operation is
careful. -/
theorem booked_of_run {ops : List Operation}
    (h : Runs.Admissible stepFrom KeepsFrom (some TicketMgr.create) ops) :
    (∀ before, before <+: ops →
      ∃ m, Runs.run stepFrom (some TicketMgr.create) before = some m ∧ Booked m) ∧
    (∀ before op, before ++ [op] <+: ops →
      ∃ m, Runs.run stepFrom (some TicketMgr.create) before = some m ∧ Careful m op) := by
  have hgood : ∀ before, before <+: ops →
      ∃ m, Runs.run stepFrom (some TicketMgr.create) before = some m ∧ Good m := by
    intro before hbefore
    refine h.invariant (P := fun s => ∃ m, s = some m ∧ Good m) ?_ ⟨_, rfl, good_create⟩ hbefore
    rintro s op ⟨m, rfl, hm⟩ hkeeps
    exact hm.step (hkeeps m rfl)
  constructor
  · intro before hbefore
    obtain ⟨m, hrun, hm⟩ := hgood before hbefore
    exact ⟨m, hrun, hm.booked⟩
  · intro before op hbefore
    obtain ⟨m, hrun, hm⟩ := hgood before ((List.prefix_append ..).trans hbefore)
    exact ⟨m, hrun, hm.careful (h.allowed hbefore m hrun)⟩

/-! ### A player with a ticket -/

def somePlayer : PlayerGuid := ⟨7, by decide, by decide⟩

/-- A ticket is opened, assigned, closed, deleted, and the list is reset and loaded. -/
def answeredTicket : List Operation :=
  [.create somePlayer 80 1 "stuck" true, .assign 1 (some somePlayer) 2 none, .close 1 none,
    .delete 1, .reset, .loadTickets]

/-- The counters and the list agree after each step of the course. -/
theorem booked_answeredTicket :
    (∀ before, before <+: answeredTicket →
      ∃ m, Runs.run stepFrom (some TicketMgr.create) before = some m ∧ Booked m) ∧
    (∀ before op, before ++ [op] <+: answeredTicket →
      ∃ m, Runs.run stepFrom (some TicketMgr.create) before = some m ∧ Careful m op) := by
  refine booked_of_run ⟨?_, ?_, ?_, ?_, ?_, ?_, trivial⟩
  · rintro m hm -
    obtain rfl := Option.some.inj hm
    decide
  · exact fun _ _ => trivial
  · exact fun _ _ => trivial
  · exact fun _ _ => trivial
  · rintro m hm -
    have hempty : (stepFrom (stepFrom (stepFrom (stepFrom (some TicketMgr.create)
        (.create somePlayer 80 1 "stuck" true)) (.assign 1 (some somePlayer) 2 none))
        (.close 1 none)) (.delete 1)).map (fun m => m.ticketList.entries) = some [] := by
      decide +kernel
    rw [hm] at hempty
    have hentries : m.ticketList.entries = [] := Option.some.inj hempty
    rw [hentries]
    exact fun e he => absurd he List.not_mem_nil
  · exact fun _ _ => trivial

/-- An escalated ticket is not loaded as it is stored, and a closed ticket is not reset. -/
theorem escalated_notBooked :
    (∃ m, Runs.run stepFrom (some TicketMgr.create)
        [.create somePlayer 80 1 "stuck" true, .escalate 1] = some m ∧ ¬ Booked m) ∧
      Runs.run stepFrom (some TicketMgr.create)
        [.create somePlayer 80 1 "stuck" true, .close 1 none, .reset] = none := by
  constructor
  · refine ⟨_, rfl, fun h => ?_⟩
    have hloadable := h.loadable 1
    revert hloadable
    decide +kernel
  · decide +kernel

end Cataclysm.Tickets
