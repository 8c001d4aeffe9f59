import Cataclysm.Lib.BitString

/-!
# The sessions of the authentication server

A client logs on with a challenge and a proof, or reconnects with a challenge and a proof, and then
asks for the list of realms. Received bytes are kept in a buffer; each handler looks at the buffer,
takes its packet from it, or gives up and waits for more.

## Implementation notes

The hash, the operations on big numbers, the database and the random numbers are the fields of
`Env`, over a type `Z` of big numbers and a type `W` of everything outside of the session. A handler
is split into what it takes from the buffer and what it does with the packet, so that the second
part does not see the buffer. Every call of a handler is recorded. The answer to the realm list is a
parameter; the file of a patch is never opened.
-/

namespace Cataclysm.Authserver
open BitString

/-! ### Commands -/

/-- `eStatus`. -/
inductive Status
  | challenge
  | logonProof
  | reconProof
  | patch
  | authed
  | closed
  deriving DecidableEq

/-- `eAuthCmd`. -/
inductive AuthCmd
  | logonChallenge
  | logonProof
  | reconnectChallenge
  | reconnectProof
  | realmList
  | xferAccept
  | xferResume
  | xferCancel
  deriving DecidableEq

/-- The byte of a command. -/
def AuthCmd.ofByte (byte : Byte) : Option AuthCmd :=
  match byte.toNat with
  | 0x00 => some .logonChallenge
  | 0x01 => some .logonProof
  | 0x02 => some .reconnectChallenge
  | 0x03 => some .reconnectProof
  | 0x10 => some .realmList
  | 0x32 => some .xferAccept
  | 0x33 => some .xferResume
  | 0x34 => some .xferCancel
  | _ => none

/-- The status that the table asks for. -/
def AuthCmd.status : AuthCmd → Status
  | logonChallenge => .challenge
  | logonProof => .logonProof
  | reconnectChallenge => .challenge
  | reconnectProof => .reconProof
  | realmList => .authed
  | xferAccept => .patch
  | xferResume => .patch
  | xferCancel => .patch

/-! ### Packets -/

/-- `sizeof(sAuthLogonChallenge_C)`. -/
def logonChallengeSize : Nat := 35

/-- `sizeof(sAuthLogonProof_C)`. -/
def logonProofSize : Nat := 75

/-- `sizeof(sAuthReconnectProof_C)`. -/
def reconnectProofSize : Nat := 58

def realmListSize : Nat := 5

/-- The bytes of a string that ends at the first zero. -/
def cString (bytes : List Byte) : List Byte := bytes.takeWhile (· ≠ 0)

/-- Some bytes of a packet. -/
def field (packet : List Byte) (offset length : Nat) : List Byte :=
  (packet.drop offset).take length

/-- The field `size` of a header. -/
def sizeField (packet : List Byte) : Nat := leValue (field packet 2 2)

/-- The account name of a challenge. -/
def nameField (packet : List Byte) : List Byte := cString (packet.drop 34)

def buildField (packet : List Byte) : Nat := leValue (field packet 11 2)

def osField (packet : List Byte) : List Byte := cString (packet.drop 17)

def countryField (packet : List Byte) : List Byte := field packet 21 4

/-! ### What is outside of the session -/

/-- A row of `LOGIN_SEL_LOGONCHALLENGE`. -/
structure AccountRow where
  shaPassHash : List Byte
  id : Nat
  locked : Nat
  lastIp : List Byte
  gmlevel : Nat
  v : List Byte
  s : List Byte

/-- A row of `LOGIN_SEL_SESSIONKEY`. -/
structure SessionRow where
  sessionkey : List Byte
  gmlevel : Nat

/-- The session of a connection. -/
structure Session (Z : Type*) where
  status : Status
  login : List Byte
  localizationName : List Byte
  os : List Byte
  build : Nat
  expversion : Nat
  accountSecurityLevel : Nat
  s : Z
  v : Z
  b : Z
  B : Z
  K : Z
  reconnectProof : Z

/-- The parameters: hash and big numbers, random numbers, configuration and database. -/
structure Env (W Z : Type*) where
  sha1 : List Byte → List Byte
  N : Z
  g : Z
  zero : Z
  three : Z
  modExp : Z → Z → Z → Z
  mul : Z → Z → Z
  add : Z → Z → Z
  mod : Z → Z → Z
  isZero : Z → Bool
  setBinary : List Byte → Z
  setHexStr : Z → List Byte → Z
  asHexStr : Z → List Byte
  /-- `AsByteArray` with the length `GetNumBytes`. -/
  bytes : Z → List Byte
  /-- `AsByteArray` with a length that is at least the given one. -/
  bytesMin : Z → Nat → List Byte
  /-- The twenty bytes that are found where `AsByteArray` points to. -/
  memory : Z → List Byte
  setRand : W → Nat → Z × W
  remoteAddress : List Byte
  maxWrongPassCount : Nat
  wrongPassBanType : Bool
  isPostBC : Nat → Bool
  isPreBC : Nat → Bool
  ipBanned : W → Bool
  selLogonChallenge : W → List Byte → Option AccountRow
  selAccountBanned : W → Nat → Option (Nat × Nat)
  updVS : W → List Byte → List Byte → List Byte → W
  updLogonProof : W → List Byte → Session Z → W
  updFailedLogins : W → List Byte → W
  selFailedLogins : W → List Byte → Option (Nat × Nat)
  insAccountBanned : W → Nat → W
  insIpBanned : W → W
  selSessionKey : W → List Byte → Option SessionRow
  selAccountId : W → List Byte → Option Nat
  realmListAnswer : W → Session Z → Nat → List Byte × W

/-- What a handler does with its packet. -/
structure Effect (W Z : Type*) where
  session : Session Z
  world : W
  answer : List Byte
  shutdown : Bool
  ok : Bool

namespace Env

variable {W Z : Type*} (env : Env W Z)

def expversionOf (build : Nat) : Nat :=
  if env.isPostBC build then 2 else if env.isPreBC build then 1 else 0

/-- `SEC_ADMINISTRATOR`. -/
def securityLevel (gmlevel : Nat) : Nat := if gmlevel ≤ 3 then gmlevel else 3

/-! ### Logon challenge -/

/-- The digest of the password hash, with its leading zeros. -/
def passwordDigest (rI : List Byte) : List Byte :=
  let digest := env.bytes (env.setHexStr env.zero rI)
  if digest.length ≤ 20 then (digest ++ List.replicate (20 - digest.length) 0).reverse
  else List.replicate 20 0

/-- `_SetVSFields`. -/
def setVSFields (world : W) (session : Session Z) (rI : List Byte) : Session Z × W :=
  let (s, world) := env.setRand world (32 * 8)
  let x := env.setBinary (env.sha1 (env.bytes s ++ env.passwordDigest rI))
  let v := env.modExp env.g x env.N
  ({ session with s := s, v := v }, env.updVS world (env.asHexStr v) (env.asHexStr s) session.login)

/-- The values of the account, from the database or made now. -/
def accountFields (world : W) (session : Session Z) (row : AccountRow) : Session Z × W :=
  if row.v.length ≠ 32 * 2 ∨ row.s.length ≠ 32 * 2 then
    env.setVSFields world session row.shaPassHash
  else
    ({ session with s := env.setHexStr session.s row.s, v := env.setHexStr session.v row.v }, world)

/-- `_SetVSFields`, the public value and the answer of a challenge that goes on. -/
def openLogon (world : W) (session : Session Z) (packet : List Byte) (row : AccountRow) :
    Effect W Z :=
  let (session, world) := env.accountFields world session row
  let (b, world) := env.setRand world (19 * 8)
  let gmod := env.modExp env.g b env.N
  let B := env.mod (env.add (env.mul session.v env.three) gmod) env.N
  let (unk3, world) := env.setRand world (16 * 8)
  { session :=
      { session with
        b := b
        B := B
        accountSecurityLevel := securityLevel row.gmlevel
        localizationName := (countryField packet).reverse
        status := .logonProof }
    world := world
    answer :=
      [0x00, 0x00, if env.isPostBC session.build || env.isPreBC session.build then 0x00 else 0x09] ++
        (env.bytesMin B 32).take 32 ++ [1] ++ (env.bytes env.g).take 1 ++ [32] ++
        (env.bytesMin env.N 32).take 32 ++ env.bytes session.s ++ (env.bytesMin unk3 16).take 16 ++
        [0]
    shutdown := false
    ok := true }

/-- An answer that closes the session. -/
def refuse (world : W) (session : Session Z) (code : Byte) : Effect W Z :=
  ⟨session, world, [0x00, 0x00, code], false, true⟩

/-- The account of a challenge is looked up. -/
def answerChallenge (world : W) (session : Session Z) (packet : List Byte) : Effect W Z :=
  if env.ipBanned world then refuse world session 0x03
  else
    match env.selLogonChallenge world session.login with
    | none => refuse world session 0x04
    | some row =>
      if row.locked = 1 ∧ row.lastIp ≠ env.remoteAddress then refuse world session 0x0C
      else
        match env.selAccountBanned world row.id with
        | some (bandate, unbandate) =>
          refuse world session (if bandate = unbandate then 0x03 else 0x0C)
        | none => env.openLogon world session packet row

/-- `_HandleLogonChallenge` with its packet. -/
def logonChallenge (world : W) (session : Session Z) (packet : List Byte) : Effect W Z :=
  let session := { session with
    status := .closed
    login := nameField packet
    build := buildField packet
    expversion := env.expversionOf (buildField packet)
    os := osField packet }
  if 4 < session.os.length then ⟨session, world, [], false, false⟩
  else env.answerChallenge world { session with os := session.os.reverse } packet

/-! ### Logon proof -/

def evens (bytes : List Byte) : List Byte := (List.range 16).map fun i => bytes.getD (2 * i) 0

def odds (bytes : List Byte) : List Byte := (List.range 16).map fun i => bytes.getD (2 * i + 1) 0

/-- The two digests alternate in the session key. -/
def interleave (xs ys : List Byte) : List Byte := (xs.zip ys).flatMap fun p => [p.1, p.2]

/-- The session key that the public value of the client gives. -/
def logonKey (session : Session Z) (A : Z) : Z :=
  let u := env.setBinary (env.sha1 (env.bytes A ++ env.bytes session.B))
  let S := env.modExp (env.mul A (env.modExp session.v u env.N)) session.b env.N
  let t := env.bytesMin S 32
  env.setBinary (interleave (env.sha1 (evens t)) (env.sha1 (odds t)))

/-- The value that the proof of the client has to match. -/
def logonValue (session : Session Z) (A : Z) : Z :=
  let K := env.logonKey session A
  let hash := ((env.sha1 (env.bytes env.N)).zip (env.sha1 (env.bytes env.g))).map
    fun p => p.1 ^^^ p.2
  env.setBinary (env.sha1 (env.bytes (env.setBinary hash) ++ env.sha1 session.login ++
    env.bytes session.s ++ env.bytes A ++ env.bytes session.B ++ env.bytes K))

/-- The public value in the packet. -/
def publicValue (packet : List Byte) : Z := env.setBinary (field packet 1 32)

/-- The proof in the packet is the one that the server computes. -/
def logonMatches (session : Session Z) (packet : List Byte) : Prop :=
  env.memory (env.logonValue session (env.publicValue packet)) = field packet 33 20

instance (session : Session Z) (packet : List Byte) :
    Decidable (env.logonMatches session packet) :=
  inferInstanceAs (Decidable (env.memory (env.logonValue session (env.publicValue packet)) =
    field packet 33 20))

/-- A wrong password is counted, and too many of them ban the account or the address. -/
def countFailure (world : W) (login : List Byte) : W :=
  if env.maxWrongPassCount = 0 then world
  else
    let world := env.updFailedLogins world login
    match env.selFailedLogins world login with
    | none => world
    | some (id, failedLogins) =>
      if env.maxWrongPassCount ≤ failedLogins then
        if env.wrongPassBanType then env.insAccountBanned world id else env.insIpBanned world
      else world

/-- The answer to a proof that matches. -/
def proofAnswer (session : Session Z) (A : Z) : List Byte :=
  let M2 := env.sha1 (env.bytes A ++ env.bytes (env.logonValue session A) ++
    env.bytes (env.logonKey session A))
  if session.expversion = 2 then [0x01, 0x00] ++ M2 ++ leBytes 4 0x00800000 ++ leBytes 6 0
  else [0x01, 0x00] ++ M2 ++ leBytes 4 0

/-- `_HandleLogonProof` with its packet. -/
def logonProof (world : W) (session : Session Z) (packet : List Byte) : Effect W Z :=
  let closed := { session with status := .closed }
  let A := env.publicValue packet
  if session.expversion = 0 then ⟨closed, world, [], true, true⟩
  else if env.isZero (env.mod A env.N) then ⟨closed, world, [], true, true⟩
  else
    let keyed := { closed with K := env.logonKey session A }
    if env.logonMatches session packet then
      { session := { keyed with status := .authed }
        world := env.updLogonProof world (env.asHexStr keyed.K) keyed
        answer := env.proofAnswer session A
        shutdown := false
        ok := true }
    else
      ⟨keyed, env.countFailure world session.login, [0x01, 0x04, 3, 0], false, true⟩

/-! ### Reconnecting -/

/-- `_HandleReconnectChallenge` with its packet. -/
def reconnectChallenge (world : W) (session : Session Z) (packet : List Byte) : Effect W Z :=
  let session := { session with status := .closed, login := nameField packet }
  match env.selSessionKey world session.login with
  | none => ⟨session, world, [], true, false⟩
  | some row =>
    let session := { session with
      build := buildField packet
      expversion := env.expversionOf (buildField packet)
      os := osField packet }
    if 4 < session.os.length then ⟨session, world, [], false, false⟩
    else
      let (reconnectProof, world) := env.setRand world (16 * 8)
      { session :=
          { session with
            os := session.os.reverse
            accountSecurityLevel := securityLevel row.gmlevel
            K := env.setHexStr session.K row.sessionkey
            reconnectProof := reconnectProof
            status := .reconProof }
        world := world
        answer := [0x02, 0x00] ++ (env.bytesMin reconnectProof 16).take 16 ++
          List.replicate 16 0
        shutdown := false
        ok := true }

/-- The value that the reconnect proof of the client has to match. -/
def reconnectValue (session : Session Z) (packet : List Byte) : List Byte :=
  env.sha1 (session.login ++ env.bytes (env.setBinary (field packet 1 16)) ++
    env.bytes session.reconnectProof ++ env.bytes session.K)

/-- `_HandleReconnectProof` with its packet. -/
def reconnectProof (world : W) (session : Session Z) (packet : List Byte) : Effect W Z :=
  let closed := { session with status := .closed }
  if session.login = [] ∨ (env.bytes session.reconnectProof).length = 0 ∨
      (env.bytes session.K).length = 0 then
    ⟨closed, world, [], false, false⟩
  else if env.reconnectValue session packet = field packet 17 20 then
    ⟨{ session with status := .authed }, world, [0x03, 0x00, 0x00, 0x00], false, true⟩
  else ⟨closed, world, [], true, false⟩

/-- `_HandleRealmList` with its packet. -/
def realmList (world : W) (session : Session Z) : Effect W Z :=
  match env.selAccountId world session.login with
  | none => ⟨session, world, [], true, false⟩
  | some id =>
    let (answer, world) := env.realmListAnswer world session id
    ⟨session, world, answer, false, true⟩

/-- What the handler of a command does with its packet. -/
def perform (cmd : AuthCmd) (world : W) (session : Session Z) (packet : List Byte) :
    Effect W Z :=
  match cmd with
  | .logonChallenge => env.logonChallenge world session packet
  | .logonProof => env.logonProof world session packet
  | .reconnectChallenge => env.reconnectChallenge world session packet
  | .reconnectProof => env.reconnectProof world session packet
  | .realmList => env.realmList world session
  | .xferCancel => ⟨session, world, [], true, true⟩
  | .xferAccept => ⟨session, world, [], false, false⟩
  | .xferResume => ⟨session, world, [], false, false⟩

end Env

/-! ### Sockets -/

/-- A call of a handler, with the packet that it took. -/
structure Call (Z : Type*) where
  cmd : AuthCmd
  before : Session Z
  packet : Option (List Byte)
  after : Session Z

/-- The input that is left, the session, the world, and what has happened. -/
structure AuthSocket (W Z : Type*) where
  buffer : List Byte
  session : Session Z
  world : W
  sent : List (List Byte)
  shut : Bool
  calls : List (Call Z)

/-- What a handler takes from the buffer: nothing, a header that it loses, or its packet. -/
inductive Taken
  | wait
  | lose (n : Nat)
  | packet (n : Nat)
  deriving DecidableEq

/-- How a challenge handler reads: the header is taken before the rest is known to be there. -/
def takeChallenge (buffer : List Byte) : Taken :=
  if buffer.length < logonChallengeSize then .wait
  else if sizeField buffer < logonChallengeSize - 4 ∨ buffer.length - 4 < sizeField buffer then
    .lose 4
  else .packet (sizeField buffer + 4)

/-- How a handler reads a packet of a fixed size. -/
def takeFixed (size : Nat) (buffer : List Byte) : Taken :=
  if buffer.length < size then .wait else .packet size

/-- How each handler reads. The handlers of the patch transfer give up without a patch. -/
def take (buffer : List Byte) : AuthCmd → Taken
  | .logonChallenge => takeChallenge buffer
  | .reconnectChallenge => takeChallenge buffer
  | .logonProof => takeFixed logonProofSize buffer
  | .reconnectProof => takeFixed reconnectProofSize buffer
  | .realmList => takeFixed realmListSize buffer
  | .xferCancel => .packet 1
  | .xferAccept => .wait
  | .xferResume => .wait

namespace AuthSocket

variable {W Z : Type*} (env : Env W Z)

/-- A call of a handler and whether it returns true. -/
def handle (x : AuthSocket W Z) (cmd : AuthCmd) : AuthSocket W Z × Bool :=
  match take x.buffer cmd with
  | .wait => ({ x with calls := x.calls ++ [⟨cmd, x.session, none, x.session⟩] }, false)
  | .lose n =>
    ({ x with
      buffer := x.buffer.drop n
      calls := x.calls ++ [⟨cmd, x.session, none, x.session⟩] }, false)
  | .packet n =>
    let packet := x.buffer.take n
    let effect := env.perform cmd x.world x.session packet
    ({ buffer := x.buffer.drop n
       session := effect.session
       world := effect.world
       sent := x.sent ++ [effect.answer]
       shut := x.shut || effect.shutdown
       calls := x.calls ++ [⟨cmd, x.session, some packet, effect.session⟩] }, effect.ok)

/-- The counters of one call of `OnRead`. -/
structure FloodCounters where
  challengesInARow : Nat
  realmListsInARow : Nat

def FloodCounters.count (counters : FloodCounters) (cmd : AuthCmd) : FloodCounters where
  challengesInARow := counters.challengesInARow + if cmd = .logonChallenge then 1 else 0
  realmListsInARow := counters.realmListsInARow + if cmd = .realmList then 1 else 0

/-- The counters end the connection. -/
def FloodCounters.isFlood (counters : FloodCounters) (cmd : AuthCmd) : Bool :=
  (cmd = .realmList && decide (3 < counters.realmListsInARow)) ||
    (cmd = .logonChallenge && decide (counters.challengesInARow = 3))

/-- The loop of `OnRead`. The counters are kept only when they are limited. -/
def readLoop (limited : Bool) : Nat → FloodCounters → AuthSocket W Z → AuthSocket W Z
  | 0, _, x => x
  | fuel + 1, counters, x =>
    match x.buffer with
    | [] => x
    | byte :: _ =>
      match AuthCmd.ofByte byte with
      | none => { x with shut := true }
      | some cmd =>
        let counters := counters.count cmd
        if limited && counters.isFlood cmd then { x with shut := true }
        else if cmd.status ≠ x.session.status then x
        else
          let (x, ok) := x.handle env cmd
          if ok then readLoop limited fuel counters x else x

/-- `OnRead`; each turn but the last takes at least one byte. -/
def onRead (limited : Bool) (x : AuthSocket W Z) : AuthSocket W Z :=
  readLoop env limited (x.buffer.length + 1) ⟨0, 0⟩ x

/-- The size of the input buffer. -/
def inputBufferSize : Nat := 4096

/-- A chunk fits the space that is left. -/
def Fits (x : AuthSocket W Z) (chunk : List Byte) : Prop :=
  chunk ≠ [] ∧ x.buffer.length + chunk.length ≤ inputBufferSize

/-- `handle_input` with what is received. A socket that was shut down receives nothing. -/
def handleInput (limited : Bool) (x : AuthSocket W Z) (chunk : List Byte) : AuthSocket W Z :=
  if x.shut then x else { x with buffer := x.buffer ++ chunk }.onRead env limited

/-- A connection before anything is received. -/
def accepted (world : W) : AuthSocket W Z where
  buffer := []
  session :=
    { status := .challenge
      login := []
      localizationName := []
      os := []
      build := 0
      expversion := 0
      accountSecurityLevel := 0
      s := env.zero
      v := env.zero
      b := env.zero
      B := env.zero
      K := env.zero
      reconnectProof := env.zero }
  world := world
  sent := []
  shut := false
  calls := []

end AuthSocket

end Cataclysm.Authserver
