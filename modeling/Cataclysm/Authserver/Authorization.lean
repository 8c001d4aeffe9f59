import Cataclysm.Authserver.AuthSocket
import Cataclysm.Lib.Runs

/-!
# The list of realms is for clients that have logged on

The status of a session only goes forward: a challenge names the account, a proof has to match what
the server computes from the data of this account, and only then the list of realms is given. No
handler goes back to an earlier status, and none is called when the session is closed.

## Implementation notes

The calls of a connection are recorded with the session before and after them. A call in which a
challenge handler takes no packet names no account.
-/

namespace Cataclysm.Authserver
open BitString

variable {W Z : Type*} (env : Env W Z)

/-! ### Sessions of an account -/

variable {kind : AuthCmd} {name : List Byte} {session : Session Z}

/-- The session was opened by a logon challenge with the data of the account of that name. -/
def LogonOpened (name : List Byte) (session : Session Z) : Prop :=
  ∃ world before packet row, env.selLogonChallenge world name = some row ∧ before.login = name ∧
    session = (env.openLogon world before packet row).session

/-- The session was opened by a reconnect challenge with the session key of the account of that
name. -/
def ReconnectOpened (name : List Byte) (session : Session Z) : Prop :=
  ∃ world old row, env.selSessionKey world name = some row ∧ session.login = name ∧
    session.K = env.setHexStr old row.sessionkey

/-- What a challenge of either kind makes of the session. -/
def Opened (kind : AuthCmd) (name : List Byte) (session : Session Z) : Prop :=
  (kind = .logonChallenge ∧ LogonOpened env name session) ∨
    (kind = .reconnectChallenge ∧ ReconnectOpened env name session)

theorem accountFields_login (world : W) (session : Session Z) (row : AccountRow) :
    (env.accountFields world session row).1.login = session.login := by
  unfold Env.accountFields
  split
  · rfl
  · rfl

theorem openLogon_login (world : W) (session : Session Z) (packet : List Byte)
    (row : AccountRow) :
    (env.openLogon world session packet row).session.login = session.login :=
  accountFields_login env world session row

theorem Opened.login (h : Opened env kind name session) : session.login = name := by
  rcases h with ⟨-, world, before, packet, row, -, hlogin, rfl⟩ | ⟨-, world, old, row, -, hlogin, -⟩
  · exact (openLogon_login env world before packet row).trans hlogin
  · exact hlogin

/-! ### What a handler makes of the session -/

theorem logonChallenge_session (world : W) (session : Session Z) (packet : List Byte) :
    (env.logonChallenge world session packet).session.status = .closed ∨
      ((env.logonChallenge world session packet).session.status = .logonProof ∧
        LogonOpened env (nameField packet)
          (env.logonChallenge world session packet).session) := by
  unfold Env.logonChallenge
  simp only
  split
  · exact .inl rfl
  · unfold Env.answerChallenge
    split
    · exact .inl rfl
    · split
      · exact .inl rfl
      · next row hrow =>
          split
          · exact .inl rfl
          · split
            · exact .inl rfl
            · exact .inr ⟨rfl, world, _, packet, row, hrow, rfl, rfl⟩

theorem reconnectChallenge_session (world : W) (session : Session Z) (packet : List Byte) :
    (env.reconnectChallenge world session packet).session.status = .closed ∨
      ((env.reconnectChallenge world session packet).session.status = .reconProof ∧
        ReconnectOpened env (nameField packet)
          (env.reconnectChallenge world session packet).session) := by
  unfold Env.reconnectChallenge
  simp only
  split
  · exact .inl rfl
  · next row hrow =>
      split
      · exact .inl rfl
      · exact .inr ⟨rfl, world, session.K, row, hrow, rfl, rfl⟩

theorem logonProof_session (world : W) (session : Session Z) (packet : List Byte) :
    (env.logonProof world session packet).session.login = session.login ∧
      ((env.logonProof world session packet).session.status = .closed ∨
        ((env.logonProof world session packet).session.status = .authed ∧
          env.logonMatches session packet)) := by
  unfold Env.logonProof
  simp only
  split
  · exact ⟨rfl, .inl rfl⟩
  · split
    · exact ⟨rfl, .inl rfl⟩
    · split
      · next hmatches => exact ⟨rfl, .inr ⟨rfl, hmatches⟩⟩
      · exact ⟨rfl, .inl rfl⟩

theorem reconnectProof_session (world : W) (session : Session Z) (packet : List Byte) :
    (env.reconnectProof world session packet).session.login = session.login ∧
      ((env.reconnectProof world session packet).session.status = .closed ∨
        ((env.reconnectProof world session packet).session.status = .authed ∧
          env.reconnectValue session packet = field packet 17 20)) := by
  unfold Env.reconnectProof
  simp only
  split
  · exact ⟨rfl, .inl rfl⟩
  · split
    · next hmatches => exact ⟨rfl, .inr ⟨rfl, hmatches⟩⟩
    · exact ⟨rfl, .inl rfl⟩

theorem realmList_session (world : W) (session : Session Z) :
    (env.realmList world session).session = session := by
  unfold Env.realmList
  split
  · rfl
  · rfl

/-! ### Histories -/

variable {history after : List (Call Z)} {cmd : AuthCmd}

/-- A challenge handler took its packet and with it the name of an account. -/
def NamesAccount (call : Call Z) : Prop :=
  call.packet ≠ none ∧ (call.cmd = .logonChallenge ∨ call.cmd = .reconnectChallenge)

/-- One challenge named an account and opened the session with the data of this account; after it
the name stayed the same. -/
structure Opening (history after : List (Call Z)) (kind : AuthCmd) (name : List Byte)
    (opened : Session Z) : Prop where
  challenge : ∃ before challenge, history = before ++ challenge :: after ∧
    challenge.cmd = kind ∧ challenge.packet.map nameField = some name ∧
    challenge.after = opened ∧ ∀ call ∈ before ++ after, ¬ NamesAccount call
  opened : Opened env kind name opened
  login : ∀ call ∈ after, call.before.login = name ∧ call.after.login = name

/-- A proof that matched what the server computes from the session that the challenge opened. -/
def Proves (kind : AuthCmd) (opened : Session Z) (proof : Call Z) : Prop :=
  proof.before = opened ∧ ∃ packet, proof.packet = some packet ∧
    ((kind = .logonChallenge ∧ proof.cmd = .logonProof ∧ env.logonMatches opened packet) ∨
      (kind = .reconnectChallenge ∧ proof.cmd = .reconnectProof ∧
        env.reconnectValue opened packet = field packet 17 20))

/-- The call came after a challenge and a proof that matched, with the name of the challenge. -/
def Authorised (history : List (Call Z)) (call : Call Z) : Prop :=
  ∃ after kind name opened, Opening env history after kind name opened ∧
    (∃ proof ∈ after, Proves env kind opened proof) ∧ call.before.login = name ∧
    call.after.login = name

/-- What the history says about a session with its status. -/
def Phase (history : List (Call Z)) (session : Session Z) : Prop :=
  match session.status with
  | .challenge => ∀ call ∈ history, ¬ NamesAccount call
  | .logonProof => ∃ after name, Opening env history after .logonChallenge name session
  | .reconProof => ∃ after name, Opening env history after .reconnectChallenge name session
  | .authed => ∃ after kind name opened, Opening env history after kind name opened ∧
      (∃ proof ∈ after, Proves env kind opened proof) ∧ session.login = name
  | .patch => False
  | .closed => True

theorem Opening.concat {opened : Session Z} (h : Opening env history after kind name opened)
    (call : Call Z) (hnames : ¬ NamesAccount call) (hbefore : call.before.login = name)
    (hafter : call.after.login = name) :
    Opening env (history ++ [call]) (after ++ [call]) kind name opened := by
  obtain ⟨before, challenge, rfl, hkind, hname, hopened, hothers⟩ := h.challenge
  refine ⟨⟨before, challenge, by simp, hkind, hname, hopened, ?_⟩, h.opened, ?_⟩
  · intro other hother
    rw [← List.append_assoc] at hother
    rcases List.mem_append.mp hother with hold | hlast
    · exact hothers other hold
    · exact List.mem_singleton.mp hlast ▸ hnames
  · intro other hother
    rcases List.mem_append.mp hother with hold | hlast
    · exact h.login other hold
    · exact List.mem_singleton.mp hlast ▸ ⟨hbefore, hafter⟩

/-- A challenge with its packet opens a history in which no account was named. -/
theorem Opening.of_challenge (call : Call Z) (hhistory : ∀ other ∈ history, ¬ NamesAccount other)
    (hkind : call.cmd = kind) (hname : call.packet.map nameField = some name)
    (hopened : Opened env kind name call.after) :
    Opening env (history ++ [call]) [] kind name call.after := by
  refine ⟨⟨history, call, rfl, hkind, hname, rfl, ?_⟩, hopened, fun _ h => absurd h (by simp)⟩
  intro other hother
  exact hhistory other (by simpa using hother)

/-- A call that takes no packet and leaves the session as it is keeps the phase. -/
theorem Phase.wait (h : Phase env history session) (cmd : AuthCmd) :
    Phase env (history ++ [⟨cmd, session, none, session⟩]) session := by
  have hnames : ¬ NamesAccount (⟨cmd, session, none, session⟩ : Call Z) := fun hnames =>
    hnames.1 rfl
  unfold Phase at h ⊢
  split at h
  · intro call hcall
    rcases List.mem_append.mp hcall with hold | hlast
    · exact h call hold
    · exact List.mem_singleton.mp hlast ▸ hnames
  · obtain ⟨after, name, hopening⟩ := h
    exact ⟨_, name, hopening.concat env _ hnames hopening.opened.login hopening.opened.login⟩
  · obtain ⟨after, name, hopening⟩ := h
    exact ⟨_, name, hopening.concat env _ hnames hopening.opened.login hopening.opened.login⟩
  · obtain ⟨after, kind, name, opened, hopening, ⟨proof, hproof, hproves⟩, hlogin⟩ := h
    exact ⟨_, kind, name, opened, hopening.concat env _ hnames hlogin hlogin,
      ⟨proof, List.mem_append_left _ hproof, hproves⟩, hlogin⟩
  · exact h
  · trivial

theorem phase_of_closed (h : session.status = .closed) : Phase env history session := by
  unfold Phase
  rw [h]
  trivial

theorem phase_of_logonOpening (hstatus : session.status = .logonProof)
    (h : Opening env history after .logonChallenge name session) : Phase env history session := by
  unfold Phase
  rw [hstatus]
  exact ⟨after, name, h⟩

theorem phase_of_reconnectOpening (hstatus : session.status = .reconProof)
    (h : Opening env history after .reconnectChallenge name session) :
    Phase env history session := by
  unfold Phase
  rw [hstatus]
  exact ⟨after, name, h⟩

/-- A proof that matches brings a session that a challenge opened to the list of realms. -/
theorem phase_of_proof {opened : Session Z} (h : Opening env history after kind name opened)
    (call : Call Z) (hnames : ¬ NamesAccount call) (hproves : Proves env kind opened call)
    (hlogin : call.after.login = call.before.login) (hstatus : call.after.status = .authed) :
    Phase env (history ++ [call]) call.after := by
  have hbefore : call.before.login = name := by
    rw [hproves.1]
    exact h.opened.login
  have hopening := h.concat env call hnames hbefore (hlogin.trans hbefore)
  unfold Phase
  rw [hstatus]
  exact ⟨_, kind, name, opened, hopening, ⟨call, by simp, hproves⟩, hlogin.trans hbefore⟩

/-- A handler that takes its packet keeps the phase. -/
theorem Phase.perform (h : Phase env history session) (hstatus : cmd.status = session.status)
    (world : W) (packet : List Byte) :
    Phase env
      (history ++
        [⟨cmd, session, some packet, (env.perform cmd world session packet).session⟩])
      (env.perform cmd world session packet).session := by
  unfold Phase at h
  cases cmd with
  | logonChallenge =>
    rw [← hstatus] at h
    rcases logonChallenge_session env world session packet with hclosed | ⟨hproof, hopened⟩
    · exact phase_of_closed env hclosed
    · have hopening := Opening.of_challenge env ⟨.logonChallenge, session, some packet,
        (env.logonChallenge world session packet).session⟩ h rfl rfl (.inl ⟨rfl, hopened⟩)
      exact phase_of_logonOpening env hproof hopening
  | reconnectChallenge =>
    rw [← hstatus] at h
    rcases reconnectChallenge_session env world session packet with hclosed | ⟨hproof, hopened⟩
    · exact phase_of_closed env hclosed
    · have hopening := Opening.of_challenge env ⟨.reconnectChallenge, session, some packet,
        (env.reconnectChallenge world session packet).session⟩ h rfl rfl (.inr ⟨rfl, hopened⟩)
      exact phase_of_reconnectOpening env hproof hopening
  | logonProof =>
    rw [← hstatus] at h
    obtain ⟨after, name, hopening⟩ := h
    obtain ⟨hlogin, hclosed | ⟨hauthed, hmatches⟩⟩ := logonProof_session env world session packet
    · exact phase_of_closed env hclosed
    · exact phase_of_proof env hopening ⟨.logonProof, session, some packet,
          (env.logonProof world session packet).session⟩
        (fun hnames => by rcases hnames.2 with hcmd | hcmd <;> cases hcmd)
        ⟨rfl, packet, rfl, .inl ⟨rfl, rfl, hmatches⟩⟩ hlogin hauthed
  | reconnectProof =>
    rw [← hstatus] at h
    obtain ⟨after, name, hopening⟩ := h
    obtain ⟨hlogin, hclosed | ⟨hauthed, hmatches⟩⟩ :=
      reconnectProof_session env world session packet
    · exact phase_of_closed env hclosed
    · exact phase_of_proof env hopening ⟨.reconnectProof, session, some packet,
          (env.reconnectProof world session packet).session⟩
        (fun hnames => by rcases hnames.2 with hcmd | hcmd <;> cases hcmd)
        ⟨rfl, packet, rfl, .inr ⟨rfl, rfl, hmatches⟩⟩ hlogin hauthed
  | realmList =>
    rw [← hstatus] at h
    obtain ⟨after, kind, name, opened, hopening, ⟨proof, hproof, hproves⟩, hlogin⟩ := h
    have hsame := realmList_session env world session
    change Phase env (history ++
      [⟨.realmList, session, some packet, (env.realmList world session).session⟩])
      (env.realmList world session).session
    rw [hsame]
    have hnext := hopening.concat env ⟨.realmList, session, some packet, session⟩
      (fun hnames => by rcases hnames.2 with hcmd | hcmd <;> cases hcmd) hlogin hlogin
    unfold Phase
    rw [← hstatus]
    exact ⟨_, kind, name, opened, hnext, ⟨proof, List.mem_append_left _ hproof, hproves⟩, hlogin⟩
  | xferAccept =>
    rw [← hstatus] at h
    exact h.elim
  | xferResume =>
    rw [← hstatus] at h
    exact h.elim
  | xferCancel =>
    rw [← hstatus] at h
    exact h.elim

/-! ### Connections -/

variable {x : AuthSocket W Z}

/-- Each call for the list of realms is authorised, and no call follows one that closed the
session. -/
def Guarded (calls : List (Call Z)) : Prop :=
  ∀ before call after, calls = before ++ call :: after →
    (call.cmd = .realmList → Authorised env before call) ∧
      ∀ earlier ∈ before, earlier.after.status ≠ .closed

/-- What holds of a connection between calls. -/
structure Lawful (x : AuthSocket W Z) : Prop where
  phase : Phase env x.calls x.session
  guarded : Guarded env x.calls
  open_ : x.session.status ≠ .closed → ∀ call ∈ x.calls, call.after.status ≠ .closed

theorem Guarded.concat {calls : List (Call Z)} (h : Guarded env calls) {call : Call Z}
    (hcall : call.cmd = .realmList → Authorised env calls call)
    (hopen : ∀ earlier ∈ calls, earlier.after.status ≠ .closed) :
    Guarded env (calls ++ [call]) := by
  intro before other after hsplit
  rcases List.eq_nil_or_concat after with rfl | ⟨rest, last, rfl⟩
  · obtain ⟨rfl, hlast⟩ := List.append_inj' hsplit rfl
    obtain rfl := List.singleton_inj.mp hlast
    exact ⟨hcall, hopen⟩
  · rw [List.concat_eq_append, ← List.cons_append, ← List.append_assoc] at hsplit
    obtain ⟨hcalls, -⟩ := List.append_inj' hsplit rfl
    exact h before other rest hcalls

/-- A call for the list of realms in its status is authorised. -/
theorem authorised_of_phase (call : Call Z) (h : Phase env history call.before)
    (hstatus : call.before.status = .authed) (hafter : call.after.login = call.before.login) :
    Authorised env history call := by
  unfold Phase at h
  rw [hstatus] at h
  obtain ⟨after, kind, name, opened, hopening, hproof, hlogin⟩ := h
  exact ⟨after, kind, name, opened, hopening, hproof, hlogin, hafter.trans hlogin⟩

theorem status_ne_closed (h : cmd.status = session.status) : session.status ≠ .closed := by
  rw [← h]
  cases cmd <;> decide

/-- A call that leaves the session as it is keeps the laws. -/
theorem Lawful.wait (h : Lawful env x) (hstatus : cmd.status = x.session.status)
    (buffer : List Byte) :
    Lawful env { x with
      buffer := buffer
      calls := x.calls ++ [⟨cmd, x.session, none, x.session⟩] } := by
  have hopen := status_ne_closed hstatus
  refine ⟨h.phase.wait env cmd, h.guarded.concat env ?_ (h.open_ hopen), ?_⟩
  · rintro rfl
    exact authorised_of_phase env ⟨.realmList, x.session, none, x.session⟩ h.phase
      hstatus.symm rfl
  · intro _ call hcall
    rcases List.mem_append.mp hcall with hold | hlast
    · exact h.open_ hopen call hold
    · exact List.mem_singleton.mp hlast ▸ hopen

theorem Lawful.handle (h : Lawful env x) (hstatus : cmd.status = x.session.status) :
    Lawful env (x.handle env cmd).1 := by
  have hopen := status_ne_closed hstatus
  unfold AuthSocket.handle
  split
  · exact h.wait env hstatus x.buffer
  · next n _ => exact h.wait env hstatus (x.buffer.drop n)
  · next n _ =>
      refine ⟨h.phase.perform env hstatus x.world (x.buffer.take n),
        h.guarded.concat env ?_ (h.open_ hopen), ?_⟩
      · rintro rfl
        exact authorised_of_phase env ⟨.realmList, x.session, some (x.buffer.take n),
          (env.realmList x.world x.session).session⟩ h.phase hstatus.symm
          (by rw [realmList_session])
      · intro hafter call hcall
        rcases List.mem_append.mp hcall with hold | hlast
        · exact h.open_ hopen call hold
        · exact List.mem_singleton.mp hlast ▸ hafter

theorem Lawful.readLoop {limited : Bool} {fuel : Nat} {counters : AuthSocket.FloodCounters}
    (h : Lawful env x) : Lawful env (AuthSocket.readLoop env limited fuel counters x) := by
  induction fuel generalizing counters x with
  | zero => exact h
  | succ fuel ih =>
    unfold AuthSocket.readLoop
    split
    · exact h
    · split
      · exact ⟨h.phase, h.guarded, h.open_⟩
      · simp only
        split
        · exact ⟨h.phase, h.guarded, h.open_⟩
        · split
          · exact h
          · next hstatus =>
              have hnext := h.handle env (not_not.mp hstatus)
              split
              · exact ih hnext
              · exact hnext

theorem lawful_accepted (world : W) : Lawful env (AuthSocket.accepted env world) := by
  refine ⟨?_, ?_, ?_⟩
  · intro call hcall
    cases hcall
  · intro before call after hsplit
    cases before <;> cases hsplit
  · intro _ call hcall
    cases hcall

theorem Lawful.handleInput {limited : Bool} (h : Lawful env x) (chunk : List Byte) :
    Lawful env (AuthSocket.handleInput env limited x chunk) := by
  unfold AuthSocket.handleInput
  split
  · exact h
  · exact Lawful.readLoop env ⟨h.phase, h.guarded, h.open_⟩

/-- On every connection the list of realms is only asked for after a proof that matched what the
server computed from the session of the account that the one challenge named, under this name, and
nothing is handled after the session was closed. -/
theorem guarded_of_run (world : W) (limited : Bool) (chunks : List (List Byte)) :
    Guarded env (Runs.run (AuthSocket.handleInput env limited) (AuthSocket.accepted env world)
      chunks).calls := by
  have hadmissible : Runs.Admissible (AuthSocket.handleInput env limited) (fun _ _ => True)
      (AuthSocket.accepted env world) chunks :=
    Runs.admissible_of_invariant (P := fun _ => True) (fun _ => trivial) (fun _ => trivial)
      trivial chunks
  have hlawful := hadmissible.invariant (P := Lawful env) (fun hx _ => hx.handleInput env _)
    (lawful_accepted env world) (List.prefix_refl chunks)
  exact hlawful.guarded

end Cataclysm.Authserver
