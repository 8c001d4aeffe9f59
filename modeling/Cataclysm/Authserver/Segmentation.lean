import Cataclysm.Authserver.AuthSocket
import Cataclysm.Lib.Runs

/-!
# The split of the input of the authentication server

A challenge handler takes the four bytes of the header before it knows that the rest of the packet
has arrived, and it does not put them back. When no header is lost in this way, the packets that the
handlers take and the status at the end do not depend on how the stream was split.

## Implementation notes

The packets of a connection are compared with those that one pass over the whole stream takes. The
pass waits where a challenge handler would lose the header. The counters of a call are not limited
here.
-/

namespace Cataclysm.Authserver
open BitString

variable {W Z : Type*} (env : Env W Z)

/-! ### What a handler takes -/

variable {buffer : List Byte} {cmd : AuthCmd}

theorem sizeField_append {more : List Byte} (h : logonChallengeSize ≤ buffer.length) :
    sizeField (buffer ++ more) = sizeField buffer := by
  unfold sizeField field
  unfold logonChallengeSize at h
  rw [List.drop_append_of_le_length (by omega),
    List.take_append_of_le_length (by rw [List.length_drop]; omega)]

/-- A packet is not empty, is in the buffer, and is taken as well when more has arrived. -/
theorem take_packet {n : Nat} (hne : buffer ≠ []) (h : take buffer cmd = .packet n) :
    0 < n ∧ n ≤ buffer.length ∧ ∀ more, take (buffer ++ more) cmd = .packet n := by
  have hpos : 0 < buffer.length := List.length_pos_iff.mpr hne
  have hchallenge : ∀ {n : Nat}, takeChallenge buffer = .packet n →
      0 < n ∧ n ≤ buffer.length ∧ ∀ more, takeChallenge (buffer ++ more) = .packet n := by
    intro n h
    unfold takeChallenge at h
    split at h
    · cases h
    · next hlong =>
        split at h
        · cases h
        · next hwhole =>
            obtain rfl := Taken.packet.inj h
            obtain ⟨hsize, hfits⟩ := not_or.mp hwhole
            have h35 : 35 ≤ buffer.length := not_lt.mp hlong
            refine ⟨Nat.succ_pos _, by omega, ?_⟩
            intro more
            unfold takeChallenge
            have hshort : ¬ buffer.length + more.length < logonChallengeSize := by omega
            have hwhole : ¬ (sizeField buffer < logonChallengeSize - 4 ∨
                buffer.length + more.length - 4 < sizeField buffer) := by omega
            rw [sizeField_append (not_lt.mp hlong), List.length_append, if_neg hshort,
              if_neg hwhole]
  have hfixed : ∀ {size n : Nat}, 0 < size → takeFixed size buffer = .packet n →
      0 < n ∧ n ≤ buffer.length ∧ ∀ more, takeFixed size (buffer ++ more) = .packet n := by
    intro size n hsize h
    unfold takeFixed at h
    split at h
    · cases h
    · next hlong =>
        obtain rfl := Taken.packet.inj h
        refine ⟨hsize, not_lt.mp hlong, ?_⟩
        intro more
        unfold takeFixed
        rw [List.length_append, if_neg (by omega)]
  cases cmd with
  | logonChallenge => exact hchallenge h
  | logonProof => exact hfixed (by decide) h
  | reconnectChallenge => exact hchallenge h
  | reconnectProof => exact hfixed (by decide) h
  | realmList => exact hfixed (by decide) h
  | xferAccept => cases h
  | xferResume => cases h
  | xferCancel =>
    obtain rfl := Taken.packet.inj h
    exact ⟨Nat.one_pos, hpos, fun _ => rfl⟩

/-! ### What a handler does -/

variable {session : Session Z}

theorem answerChallenge_ok (world : W) (session : Session Z) (packet : List Byte) :
    (env.answerChallenge world session packet).ok = true ∧
      (env.answerChallenge world session packet).shutdown = false := by
  unfold Env.answerChallenge
  split
  · exact ⟨rfl, rfl⟩
  · split
    · exact ⟨rfl, rfl⟩
    · split
      · exact ⟨rfl, rfl⟩
      · split
        · exact ⟨rfl, rfl⟩
        · exact ⟨rfl, rfl⟩

theorem openLogon_status (world : W) (session : Session Z) (packet : List Byte)
    (row : AccountRow) : (env.openLogon world session packet row).session.status = .logonProof :=
  rfl

theorem answerChallenge_status (world : W) (session : Session Z) (packet : List Byte)
    (h : session.status = .closed) :
    (env.answerChallenge world session packet).session.status = .closed ∨
      (env.answerChallenge world session packet).session.status = .logonProof := by
  unfold Env.answerChallenge
  split
  · exact .inl h
  · split
    · exact .inl h
    · split
      · exact .inl h
      · split
        · exact .inl h
        · exact .inr (openLogon_status env _ _ _ _)

/-- After a packet the status is not that of the patch transfer, a handler that returns false has
closed the session or shut the socket down, and one that shuts the socket down and returns true has
closed the session. -/
structure Proper (effect : Effect W Z) : Prop where
  noPatch : effect.session.status ≠ .patch
  fails : effect.ok = false → effect.shutdown = true ∨ effect.session.status = .closed
  shuts : effect.ok = true → effect.shutdown = true → effect.session.status = .closed

theorem Proper.of_closed {effect : Effect W Z} (h : effect.session.status = .closed) :
    Proper effect :=
  ⟨by rw [h]; decide, fun _ => .inr h, fun _ _ => h⟩

theorem Proper.of_open {effect : Effect W Z} (h : effect.session.status ≠ .patch)
    (hok : effect.ok = true) (hopen : effect.shutdown = false) : Proper effect := by
  refine ⟨h, ?_, ?_⟩
  · intro hfails
    rw [hok] at hfails
    cases hfails
  · intro _ hshut
    rw [hopen] at hshut
    cases hshut

theorem logonChallenge_proper (world : W) (session : Session Z) (packet : List Byte) :
    Proper (env.logonChallenge world session packet) := by
  unfold Env.logonChallenge
  simp only
  split
  · exact .of_closed rfl
  · refine .of_open ?_ (answerChallenge_ok env _ _ _).1 (answerChallenge_ok env _ _ _).2
    rcases answerChallenge_status env world { session with
      status := .closed, login := nameField packet, build := buildField packet,
      expversion := env.expversionOf (buildField packet),
      os := (osField packet).reverse } packet rfl with hclosed | hproof
    · rw [hclosed]
      decide
    · rw [hproof]
      decide

theorem logonProof_proper (world : W) (session : Session Z) (packet : List Byte) :
    Proper (env.logonProof world session packet) := by
  unfold Env.logonProof
  simp only
  split
  · exact .of_closed rfl
  · split
    · exact .of_closed rfl
    · split
      · exact .of_open (by simp) rfl rfl
      · exact .of_closed rfl

theorem reconnectChallenge_proper (world : W) (session : Session Z) (packet : List Byte) :
    Proper (env.reconnectChallenge world session packet) := by
  unfold Env.reconnectChallenge
  simp only
  split
  · exact .of_closed rfl
  · split
    · exact .of_closed rfl
    · exact .of_open (by simp) rfl rfl

theorem reconnectProof_proper (world : W) (session : Session Z) (packet : List Byte) :
    Proper (env.reconnectProof world session packet) := by
  unfold Env.reconnectProof
  simp only
  split
  · exact .of_closed rfl
  · split
    · exact .of_open (by simp) rfl rfl
    · exact .of_closed rfl

theorem realmList_proper (world : W) (h : session.status = .authed) :
    Proper (env.realmList world session) := by
  unfold Env.realmList
  split
  · exact ⟨by rw [h]; decide, fun _ => .inl rfl, fun hok => absurd hok Bool.false_ne_true⟩
  · exact .of_open (by rw [h]; decide) rfl rfl

theorem perform_proper (world : W) (packet : List Byte) (hstatus : cmd.status = session.status)
    (hpatch : session.status ≠ .patch) : Proper (env.perform cmd world session packet) := by
  cases cmd with
  | logonChallenge => exact logonChallenge_proper env world session packet
  | logonProof => exact logonProof_proper env world session packet
  | reconnectChallenge => exact reconnectChallenge_proper env world session packet
  | reconnectProof => exact reconnectProof_proper env world session packet
  | realmList => exact realmList_proper env world hstatus.symm
  | xferAccept => exact absurd hstatus.symm hpatch
  | xferResume => exact absurd hstatus.symm hpatch
  | xferCancel => exact absurd hstatus.symm hpatch

/-! ### One pass over the stream -/

variable {fuel : Nat} {world : W} {stream : List Byte}

/-- The command that the next byte gives, when the status allows it. -/
def nextCmd (session : Session Z) (buffer : List Byte) : Option AuthCmd :=
  match buffer with
  | [] => none
  | byte :: _ => (AuthCmd.ofByte byte).filter fun cmd => cmd.status = session.status

/-- The packets that are taken from a stream, and the status at the end. -/
def script : Nat → W → Session Z → List Byte → List (AuthCmd × List Byte) × Status
  | 0, _, session, _ => ([], session.status)
  | fuel + 1, world, session, stream =>
    match nextCmd session stream with
    | none => ([], session.status)
    | some cmd =>
      match take stream cmd with
      | .packet n =>
        let effect := env.perform cmd world session (stream.take n)
        let rest :=
          if effect.ok then script fuel effect.world effect.session (stream.drop n)
          else ([], effect.session.status)
        ((cmd, stream.take n) :: rest.1, rest.2)
      | _ => ([], session.status)

theorem nextCmd_ne_nil (h : nextCmd session buffer = some cmd) : buffer ≠ [] := by
  rintro rfl
  cases h

theorem nextCmd_status (h : nextCmd session buffer = some cmd) : cmd.status = session.status := by
  unfold nextCmd at h
  split at h
  · cases h
  · exact of_decide_eq_true (Option.filter_eq_some_iff.mp h).2

theorem nextCmd_append (h : buffer ≠ []) (more : List Byte) :
    nextCmd session (buffer ++ more) = nextCmd session buffer := by
  cases buffer with
  | nil => exact absurd rfl h
  | cons byte rest => rfl

theorem nextCmd_closed (h : session.status = .closed) (buffer : List Byte) :
    nextCmd session buffer = none := by
  cases hcmd : nextCmd session buffer with
  | none => rfl
  | some cmd =>
    have hstatus := nextCmd_status hcmd
    rw [h] at hstatus
    cases cmd <;> cases hstatus

theorem script_of_none (h : nextCmd session stream = none) :
    script env fuel world session stream = ([], session.status) := by
  cases fuel with
  | zero => rfl
  | succ fuel => simp only [script, h]

theorem script_of_wait (h : nextCmd session stream = some cmd)
    (hwait : ∀ n, take stream cmd ≠ .packet n) :
    script env fuel world session stream = ([], session.status) := by
  cases fuel with
  | zero => rfl
  | succ fuel =>
    cases htaken : take stream cmd with
    | wait => simp only [script, h, htaken]
    | lose n => simp only [script, h, htaken]
    | packet n => exact absurd htaken (hwait n)

theorem script_of_packet {n : Nat} (h : nextCmd session stream = some cmd)
    (hn : take stream cmd = .packet n) :
    script env (fuel + 1) world session stream =
      ((cmd, stream.take n) ::
        (if (env.perform cmd world session (stream.take n)).ok then
          script env fuel (env.perform cmd world session (stream.take n)).world
            (env.perform cmd world session (stream.take n)).session (stream.drop n)
        else ([], (env.perform cmd world session (stream.take n)).session.status)).1,
      (if (env.perform cmd world session (stream.take n)).ok then
          script env fuel (env.perform cmd world session (stream.take n)).world
            (env.perform cmd world session (stream.take n)).session (stream.drop n)
        else ([], (env.perform cmd world session (stream.take n)).session.status)).2) := by
  simp only [script, h, hn]

/-- The pass has enough turns when there are more of them than bytes. -/
theorem script_fuel {fuel' : Nat} (h : stream.length < fuel) (h' : stream.length < fuel') :
    script env fuel world session stream = script env fuel' world session stream := by
  induction fuel generalizing fuel' world session stream with
  | zero => omega
  | succ fuel ih =>
    cases fuel' with
    | zero => omega
    | succ fuel' =>
      cases hcmd : nextCmd session stream with
      | none => rw [script_of_none env hcmd, script_of_none env hcmd]
      | some cmd =>
        by_cases hpacket : ∃ n, take stream cmd = .packet n
        · obtain ⟨n, hn⟩ := hpacket
          obtain ⟨hpos, hle, -⟩ := take_packet (nextCmd_ne_nil hcmd) hn
          have hrest : (stream.drop n).length < fuel := by
            rw [List.length_drop]
            omega
          have hrest' : (stream.drop n).length < fuel' := by
            rw [List.length_drop]
            omega
          rw [script_of_packet env hcmd hn, script_of_packet env hcmd hn, ih hrest hrest']
        · have hwait : ∀ n, take stream cmd ≠ .packet n := fun n hn => hpacket ⟨n, hn⟩
          rw [script_of_wait env hcmd hwait, script_of_wait env hcmd hwait]

/-- The pass over a stream. -/
def pass (world : W) (session : Session Z) (stream : List Byte) :
    List (AuthCmd × List Byte) × Status :=
  script env (stream.length + 1) world session stream

/-- A packet that is in the buffer is taken first, whatever follows. -/
theorem pass_of_packet {n : Nat} (h : nextCmd session buffer = some cmd)
    (hn : take buffer cmd = .packet n) (more : List Byte) :
    pass env world session (buffer ++ more) =
      ((cmd, buffer.take n) ::
        (if (env.perform cmd world session (buffer.take n)).ok then
          pass env (env.perform cmd world session (buffer.take n)).world
            (env.perform cmd world session (buffer.take n)).session (buffer.drop n ++ more)
        else ([], (env.perform cmd world session (buffer.take n)).session.status)).1,
      (if (env.perform cmd world session (buffer.take n)).ok then
          pass env (env.perform cmd world session (buffer.take n)).world
            (env.perform cmd world session (buffer.take n)).session (buffer.drop n ++ more)
        else ([], (env.perform cmd world session (buffer.take n)).session.status)).2) := by
  have hne := nextCmd_ne_nil h
  obtain ⟨hpos, hle, hstable⟩ := take_packet hne hn
  have htake : (buffer ++ more).take n = buffer.take n := List.take_append_of_le_length hle
  have hdrop : (buffer ++ more).drop n = buffer.drop n ++ more :=
    List.drop_append_of_le_length hle
  have hcmd : nextCmd session (buffer ++ more) = some cmd := (nextCmd_append hne more).trans h
  unfold pass
  rw [script_of_packet env hcmd (hstable more), htake, hdrop]
  have hfuel : ∀ world' session', script env (buffer ++ more).length world' session'
      (buffer.drop n ++ more) =
        script env ((buffer.drop n ++ more).length + 1) world' session' (buffer.drop n ++ more) := by
    intro world' session'
    refine script_fuel env ?_ (Nat.lt_succ_self _)
    rw [List.length_append, List.length_append, List.length_drop]
    omega
  rw [hfuel]

theorem pass_of_none (h : nextCmd session buffer = none) :
    pass env world session buffer = ([], session.status) :=
  script_of_none env h

/-! ### The connection follows the pass -/

namespace AuthSocket

variable {x : AuthSocket W Z} {counters : FloodCounters} {received : List Byte}

/-- The commands that were handled, with their packets. -/
def packets (x : AuthSocket W Z) : List (AuthCmd × List Byte) :=
  x.calls.filterMap fun call => call.packet.map fun packet => (call.cmd, packet)

/-- What the pass takes after what the connection has taken. -/
def ahead (x : AuthSocket W Z) (more : List Byte) : List (AuthCmd × List Byte) × Status :=
  if x.shut then ([], x.session.status) else pass env x.world x.session (x.buffer ++ more)

/-- The connection has taken from the stream received so far what the pass takes first. -/
structure Follows (world : W) (received : List Byte) (x : AuthSocket W Z) : Prop where
  packets : ∀ more, pass env world (accepted env world).session (received ++ more) =
    (x.packets ++ (x.ahead env more).1, (x.ahead env more).2)
  noPatch : x.session.status ≠ .patch

/-- Nothing more can be taken from the buffer. -/
def Quiet (x : AuthSocket W Z) : Prop :=
  x.ahead env [] = ([], x.session.status)

/-- The next command loses the header of its packet. -/
def losesHeader (x : AuthSocket W Z) : Bool :=
  match nextCmd x.session x.buffer with
  | none => false
  | some cmd =>
    match take x.buffer cmd with
    | .lose _ => true
    | _ => false

/-- No turn of the loop loses a header. -/
def keepsHeaders : Nat → AuthSocket W Z → Bool
  | 0, _ => true
  | fuel + 1, x =>
    !x.losesHeader &&
      match nextCmd x.session x.buffer with
      | none => true
      | some cmd =>
        if (x.handle env cmd).2 then keepsHeaders fuel (x.handle env cmd).1 else true

theorem keepsHeaders_succ (h : keepsHeaders env (fuel + 1) x = true)
    (hcmd : nextCmd x.session x.buffer = some cmd) :
    (∀ n, take x.buffer cmd ≠ .lose n) ∧
      ((x.handle env cmd).2 = true → keepsHeaders env fuel (x.handle env cmd).1 = true) := by
  simp only [keepsHeaders, losesHeader, hcmd, Bool.and_eq_true] at h
  obtain ⟨hkeeps, hnext⟩ := h
  constructor
  · intro n hn
    rw [hn] at hkeeps
    exact absurd hkeeps Bool.false_ne_true
  · intro hok
    rw [hok] at hnext
    exact hnext

theorem readLoop_eq (h : nextCmd x.session x.buffer = some cmd) :
    readLoop env false (fuel + 1) counters x =
      if (x.handle env cmd).2 then readLoop env false fuel (counters.count cmd) (x.handle env cmd).1
      else (x.handle env cmd).1 := by
  have hstatus := nextCmd_status h
  cases hbuffer : x.buffer with
  | nil => exact absurd hbuffer (nextCmd_ne_nil h)
  | cons byte rest =>
    rw [hbuffer] at h
    have hcmd : AuthCmd.ofByte byte = some cmd := (Option.filter_eq_some_iff.mp h).1
    simp only [readLoop, hbuffer, hcmd, hstatus, Bool.false_and, ne_eq, not_true, if_false]
    rfl

theorem readLoop_of_nil (h : x.buffer = []) : readLoop env false (fuel + 1) counters x = x := by
  simp only [readLoop, h]

theorem readLoop_of_none (fuel : Nat) (counters : FloodCounters)
    (h : nextCmd x.session x.buffer = none) :
    readLoop env false (fuel + 1) counters x = x ∨
      readLoop env false (fuel + 1) counters x = { x with shut := true } := by
  cases hbuffer : x.buffer with
  | nil => exact .inl (readLoop_of_nil env hbuffer)
  | cons byte rest =>
    rw [hbuffer] at h
    cases hcmd : AuthCmd.ofByte byte with
    | none =>
      right
      simp only [readLoop, hbuffer, hcmd]
    | some cmd =>
      left
      have hstatus : cmd.status ≠ x.session.status := by
        intro hsame
        simp only [nextCmd, hcmd, Option.filter_some, hsame, decide_true] at h
        cases h
      simp only [readLoop, hbuffer, hcmd, Bool.false_and, if_pos hstatus]
      rfl

theorem packets_append_none (x : AuthSocket W Z) (cmd : AuthCmd) (session : Session Z) :
    packets { x with calls := x.calls ++ [⟨cmd, x.session, none, session⟩] } = x.packets := by
  rw [packets, List.filterMap_append]
  exact List.append_nil _

/-- A turn of the loop that takes a packet keeps the connection with the pass. -/
theorem Follows.handle (h : Follows env world received x) (hshut : x.shut = false)
    (hcmd : nextCmd x.session x.buffer = some cmd) {n : Nat} (hn : take x.buffer cmd = .packet n) :
    Follows env world received (x.handle env cmd).1 ∧
      ((x.handle env cmd).1.shut = true →
        (x.handle env cmd).1.session.status = .closed ∨ (x.handle env cmd).2 = false) ∧
      ((x.handle env cmd).2 = false → Quiet env (x.handle env cmd).1) := by
  set effect := env.perform cmd x.world x.session (x.buffer.take n) with heffect
  have hproper : Proper effect :=
    perform_proper env x.world (x.buffer.take n) (nextCmd_status hcmd) h.noPatch
  have hhandle : x.handle env cmd =
      ({ buffer := x.buffer.drop n
         session := effect.session
         world := effect.world
         sent := x.sent ++ [effect.answer]
         shut := x.shut || effect.shutdown
         calls := x.calls ++ [⟨cmd, x.session, some (x.buffer.take n), effect.session⟩] },
        effect.ok) := by
    simp only [AuthSocket.handle, hn]
    rfl
  have hpackets : (x.handle env cmd).1.packets = x.packets ++ [(cmd, x.buffer.take n)] := by
    rw [hhandle, AuthSocket.packets, AuthSocket.packets, List.filterMap_append]
    rfl
  have hahead : ∀ more, (x.handle env cmd).1.ahead env more =
      if effect.ok then pass env effect.world effect.session (x.buffer.drop n ++ more)
      else ([], effect.session.status) := by
    intro more
    have hclosed : effect.session.status = .closed →
        pass env effect.world effect.session (x.buffer.drop n ++ more) =
          ([], effect.session.status) :=
      fun hclosed => pass_of_none env (nextCmd_closed hclosed _)
    rw [hhandle, ahead]
    simp only [hshut, Bool.false_or]
    cases hok : effect.ok with
    | true =>
      cases hdown : effect.shutdown with
      | true => exact (hclosed (hproper.shuts hok hdown)).symm
      | false => rfl
    | false =>
      cases hdown : effect.shutdown with
      | true => rfl
      | false =>
        rcases hproper.fails hok with hbad | hstatus
        · rw [hdown] at hbad
          cases hbad
        · exact hclosed hstatus
  refine ⟨⟨?_, ?_⟩, ?_, ?_⟩
  · intro more
    have hbefore : x.ahead env more = pass env x.world x.session (x.buffer ++ more) := by
      rw [ahead, hshut]
      rfl
    rw [h.packets more, hbefore, pass_of_packet env hcmd hn more, hpackets, hahead more]
    simp only [List.append_assoc, List.cons_append, List.nil_append]
    rfl
  · rw [hhandle]
    exact hproper.noPatch
  · intro hdown
    rw [hhandle] at hdown ⊢
    simp only [hshut, Bool.false_or] at hdown
    cases hok : effect.ok with
    | true => exact .inl (hproper.shuts hok hdown)
    | false => exact .inr rfl
  · intro hfails
    have hok : effect.ok = false := by
      rw [hhandle] at hfails
      exact hfails
    rw [Quiet, hahead, hok, hhandle]
    rfl

/-- A call that takes nothing keeps the connection with the pass, and leaves it quiet. -/
theorem Follows.wait (h : Follows env world received x)
    (hcmd : nextCmd x.session x.buffer = some cmd) (hwait : take x.buffer cmd = .wait) :
    Follows env world received (x.handle env cmd).1 ∧ Quiet env (x.handle env cmd).1 ∧
      (x.handle env cmd).2 = false := by
  have hhandle : x.handle env cmd =
      ({ x with calls := x.calls ++ [⟨cmd, x.session, none, x.session⟩] }, false) := by
    simp only [AuthSocket.handle, hwait]
  rw [hhandle]
  refine ⟨⟨?_, h.noPatch⟩, ?_, rfl⟩
  · intro more
    rw [h.packets more, packets_append_none]
    rfl
  · rw [Quiet, ahead]
    split
    · rfl
    · rw [List.append_nil]
      refine script_of_wait env hcmd fun n hn => ?_
      rw [hwait] at hn
      cases hn

theorem quiet_of_none (h : nextCmd x.session x.buffer = none) : Quiet env x := by
  rw [Quiet, ahead]
  split
  · rfl
  · rw [List.append_nil]
    exact pass_of_none env h

/-- A socket that is shut down because of its first byte takes no more than it did. -/
theorem ahead_shut (hbuffer : x.buffer ≠ []) (h : nextCmd x.session x.buffer = none)
    (more : List Byte) : AuthSocket.ahead env { x with shut := true } more = x.ahead env more := by
  have hpass : pass env x.world x.session (x.buffer ++ more) = ([], x.session.status) :=
    pass_of_none env ((nextCmd_append hbuffer more).trans h)
  calc
    AuthSocket.ahead env { x with shut := true } more = ([], x.session.status) := rfl
    _ = x.ahead env more := by rw [ahead, hpass, ite_self]

/-- The loop keeps the connection with the pass and leaves it quiet. -/
theorem Follows.readLoop (h : Follows env world received x)
    (hshut : x.shut = true → x.session.status = .closed) (hfuel : x.buffer.length < fuel)
    (hsafe : keepsHeaders env fuel x = true) :
    Follows env world received (AuthSocket.readLoop env false fuel counters x) ∧
      Quiet env (AuthSocket.readLoop env false fuel counters x) := by
  induction fuel generalizing counters x with
  | zero => omega
  | succ fuel ih =>
    cases hcmd : nextCmd x.session x.buffer with
    | none =>
      have hquiet := quiet_of_none env hcmd
      by_cases hbuffer : x.buffer = []
      · rw [readLoop_of_nil env hbuffer]
        exact ⟨h, hquiet⟩
      · rcases readLoop_of_none env fuel counters hcmd with hsame | hdown
        · rw [hsame]
          exact ⟨h, hquiet⟩
        · rw [hdown]
          refine ⟨⟨?_, h.noPatch⟩, rfl⟩
          intro more
          rw [ahead_shut env hbuffer hcmd]
          exact h.packets more
    | some cmd =>
      have hopen : x.shut = false := by
        refine Bool.eq_false_iff.mpr fun hdown => ?_
        rw [nextCmd_closed (hshut hdown)] at hcmd
        cases hcmd
      obtain ⟨hkeeps, hnext⟩ := keepsHeaders_succ env hsafe hcmd
      rw [readLoop_eq env hcmd]
      cases htaken : take x.buffer cmd with
      | wait =>
        obtain ⟨hfollows, hquiet, hfails⟩ := h.wait env hcmd htaken
        rw [hfails, if_neg Bool.false_ne_true]
        exact ⟨hfollows, hquiet⟩
      | lose n => exact absurd htaken (hkeeps n)
      | packet n =>
        obtain ⟨hfollows, hclosed, hquiet⟩ := h.handle env hopen hcmd htaken
        cases hok : (x.handle env cmd).2 with
        | false =>
          rw [if_neg Bool.false_ne_true]
          exact ⟨hfollows, hquiet hok⟩
        | true =>
          rw [if_pos rfl]
          refine ih hfollows ?_ ?_ (hnext hok)
          · intro hdown
            rcases hclosed hdown with hstatus | hfails
            · exact hstatus
            · rw [hok] at hfails
              cases hfails
          · obtain ⟨hpos, hle, -⟩ := take_packet (nextCmd_ne_nil hcmd) htaken
            simp only [AuthSocket.handle, htaken, List.length_drop]
            omega

/-- What is received fits, and no header is lost in the call that it causes. -/
def Permits (x : AuthSocket W Z) (chunk : List Byte) : Prop :=
  x.shut = true ∨
    (x.Fits chunk ∧ keepsHeaders env (x.buffer.length + chunk.length + 1)
      { x with buffer := x.buffer ++ chunk } = true)

instance (x : AuthSocket W Z) (chunk : List Byte) : Decidable (x.Fits chunk) :=
  inferInstanceAs (Decidable (chunk ≠ [] ∧ x.buffer.length + chunk.length ≤ inputBufferSize))

instance (x : AuthSocket W Z) (chunk : List Byte) : Decidable (Permits env x chunk) :=
  inferInstanceAs (Decidable (x.shut = true ∨
    (x.Fits chunk ∧ keepsHeaders env (x.buffer.length + chunk.length + 1)
      { x with buffer := x.buffer ++ chunk } = true)))

theorem follows_accepted (world : W) :
    Follows env world [] (accepted env world) ∧ Quiet env (accepted env world) := by
  refine ⟨⟨?_, by simp [accepted]⟩, quiet_of_none env rfl⟩
  intro more
  rfl

theorem Follows.handleInput {chunk : List Byte} (h : Follows env world received x)
    (hquiet : Quiet env x) (hpermits : Permits env x chunk) :
    Follows env world (received ++ chunk) (handleInput env false x chunk) ∧
      Quiet env (handleInput env false x chunk) := by
  unfold AuthSocket.handleInput
  split
  · next hshut =>
      refine ⟨⟨?_, h.noPatch⟩, hquiet⟩
      intro more
      have hahead : x.ahead env (chunk ++ more) = x.ahead env more := by
        rw [ahead, ahead, if_pos hshut, if_pos hshut]
      rw [List.append_assoc, h.packets, hahead]
  · next hopen =>
      obtain ⟨-, hsafe⟩ := hpermits.resolve_left hopen
      have hreceived : Follows env world (received ++ chunk)
          { x with buffer := x.buffer ++ chunk } := by
        refine ⟨?_, h.noPatch⟩
        intro more
        have hahead : x.ahead env (chunk ++ more) =
            AuthSocket.ahead env { x with buffer := x.buffer ++ chunk } more := by
          rw [ahead, ahead, if_neg hopen, if_neg hopen, List.append_assoc]
        rw [List.append_assoc, h.packets, hahead]
        rfl
      unfold onRead
      refine hreceived.readLoop env (fun hdown => absurd hdown hopen) (Nat.lt_succ_self _) ?_
      rw [List.length_append]
      exact hsafe

/-- After chunks that lose no header the connection has taken what the pass takes. -/
theorem pass_of_run {chunks : List (List Byte)}
    (h : Runs.Admissible (AuthSocket.handleInput env false) (Permits env) (accepted env world)
      chunks) :
    (Runs.run (AuthSocket.handleInput env false) (accepted env world) chunks).packets =
        (pass env world (accepted env world).session chunks.flatten).1 ∧
      (Runs.run (AuthSocket.handleInput env false) (accepted env world) chunks).session.status =
        (pass env world (accepted env world).session chunks.flatten).2 := by
  have hend := h.holds_throughout
    (P := fun history x => Follows env world history.flatten x ∧ Quiet env x)
    (fun {history x chunk} hx hpermits => by
      rw [List.flatten_append, List.flatten_singleton]
      exact hx.1.handleInput env hx.2 hpermits)
    (follows_accepted env world) (List.prefix_refl chunks)
  obtain ⟨hfollows, hquiet⟩ := hend
  have hpass := hfollows.packets []
  rw [List.append_nil, hquiet, List.append_nil] at hpass
  rw [hpass]
  exact ⟨rfl, rfl⟩

end AuthSocket

/-- Two splits of one stream that lose no header give the same packets and the same status. -/
theorem sameCommands_of_keptHeaders (world : W) (chunks chunks' : List (List Byte))
    (h : Runs.Admissible (AuthSocket.handleInput env false) (AuthSocket.Permits env)
      (AuthSocket.accepted env world) chunks)
    (h' : Runs.Admissible (AuthSocket.handleInput env false) (AuthSocket.Permits env)
      (AuthSocket.accepted env world) chunks')
    (hsame : chunks.flatten = chunks'.flatten) :
    (Runs.run (AuthSocket.handleInput env false) (AuthSocket.accepted env world) chunks).packets =
        (Runs.run (AuthSocket.handleInput env false) (AuthSocket.accepted env world)
          chunks').packets ∧
      (Runs.run (AuthSocket.handleInput env false)
          (AuthSocket.accepted env world) chunks).session.status =
        (Runs.run (AuthSocket.handleInput env false)
          (AuthSocket.accepted env world) chunks').session.status := by
  obtain ⟨hpackets, hstatus⟩ := AuthSocket.pass_of_run env h
  obtain ⟨hpackets', hstatus'⟩ := AuthSocket.pass_of_run env h'
  rw [hpackets, hstatus, hpackets', hstatus', hsame]
  exact ⟨rfl, rfl⟩

/-! ### A header that is lost -/

/-- A server with small numbers, on which no account exists. -/
def emptyEnv : Env Unit Nat where
  sha1 _ := []
  N := 7
  g := 3
  zero := 0
  three := 3
  modExp a b n := a ^ b % n
  mul := (· * ·)
  add := (· + ·)
  mod := (· % ·)
  isZero n := n == 0
  setBinary := leValue
  setHexStr old _ := old
  asHexStr _ := []
  bytes _ := []
  bytesMin _ n := List.replicate n 0
  memory _ := []
  setRand _ _ := (5, ())
  remoteAddress := []
  maxWrongPassCount := 0
  wrongPassBanType := false
  isPostBC build := build == 15595
  isPreBC _ := false
  ipBanned _ := false
  selLogonChallenge _ _ := none
  selAccountBanned _ _ := none
  updVS world _ _ _ := world
  updLogonProof world _ _ := world
  updFailedLogins world _ := world
  selFailedLogins _ _ := none
  insAccountBanned world _ := world
  insIpBanned world := world
  selSessionKey _ _ := none
  selAccountId _ _ := none
  realmListAnswer world _ _ := ([], world)

/-- A logon challenge for the account `AB`. -/
def challengePacket : List Byte :=
  [0x00, 0x08, 0x20, 0x00, 0x57, 0x6F, 0x57, 0x00, 0x04, 0x03, 0x04, 0xEB, 0x3C, 0x36, 0x38, 0x78,
    0x00, 0x6E, 0x69, 0x57, 0x00, 0x53, 0x55, 0x6E, 0x65, 0x3C, 0x00, 0x00, 0x00, 0x7F, 0x00, 0x00,
    0x01, 0x02, 0x41, 0x42]

/-- The challenge in one chunk and cut after its twentieth byte. -/
theorem sameCommands_challengePacket :
    (Runs.run (AuthSocket.handleInput emptyEnv false) (AuthSocket.accepted emptyEnv ())
        [challengePacket]).packets =
        (Runs.run (AuthSocket.handleInput emptyEnv false) (AuthSocket.accepted emptyEnv ())
          [challengePacket.take 20, challengePacket.drop 20]).packets ∧
      (Runs.run (AuthSocket.handleInput emptyEnv false) (AuthSocket.accepted emptyEnv ())
          [challengePacket]).session.status =
        (Runs.run (AuthSocket.handleInput emptyEnv false) (AuthSocket.accepted emptyEnv ())
          [challengePacket.take 20, challengePacket.drop 20]).session.status :=
  sameCommands_of_keptHeaders emptyEnv () [challengePacket]
    [challengePacket.take 20, challengePacket.drop 20] (by decide +kernel) (by decide +kernel)
    (by decide +kernel)

/-- The same challenge is not handled when its last byte arrives alone. -/
theorem splitChallenge_lost :
    (∀ chunk ∈ [challengePacket.take 35, challengePacket.drop 35], chunk ≠ []) ∧
      [challengePacket].flatten = [challengePacket.take 35, challengePacket.drop 35].flatten ∧
      (Runs.run (AuthSocket.handleInput emptyEnv false) (AuthSocket.accepted emptyEnv ())
        [challengePacket]).packets = [(.logonChallenge, challengePacket)] ∧
      (Runs.run (AuthSocket.handleInput emptyEnv false) (AuthSocket.accepted emptyEnv ())
        [challengePacket]).session.status = .closed ∧
      (Runs.run (AuthSocket.handleInput emptyEnv false) (AuthSocket.accepted emptyEnv ())
        [challengePacket.take 35, challengePacket.drop 35]).packets = [] ∧
      (Runs.run (AuthSocket.handleInput emptyEnv false) (AuthSocket.accepted emptyEnv ())
        [challengePacket.take 35, challengePacket.drop 35]).session.status = .challenge := by
  decide +kernel

end Cataclysm.Authserver
