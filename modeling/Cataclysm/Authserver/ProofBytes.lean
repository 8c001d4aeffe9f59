import Cataclysm.Authserver.Segmentation

/-!
# The bytes of a logon proof

The numbers of a logon travel as arrays of a fixed width and are hashed as arrays of the width that
the number needs. A wider array is filled from its front and then reversed, so its zeros stand
before the bytes of the number and not after them.

## Implementation notes

The hash is a parameter that gives twenty bytes, and so is what lies behind an array in memory. The
client computes the proof from the bytes of the packets, and the secret that it shares with the
server from the scrambler.
-/

namespace Cataclysm.Authserver

open BitString

/-! ### Big numbers -/

namespace BigNumber

/-- `BN_num_bytes`. -/
def getNumBytes (n : Nat) : Nat := (n.size + 7) / 8

/-- `BN_bn2bin`. -/
def bn2bin (n : Nat) : List Byte := (leBytes (getNumBytes n) n).reverse

/-- The array is filled from its front, and then it is reversed. -/
def asByteArray (minSize n : Nat) : List Byte :=
  let length := if getNumBytes n ≤ minSize then minSize else getNumBytes n
  (bn2bin n ++ List.replicate (length - getNumBytes n) 0).reverse

variable {n w : Nat}

theorem getNumBytes_le : getNumBytes n ≤ w ↔ n < 256 ^ w := by
  have hpow : 256 ^ w = 2 ^ (8 * w) := by
    rw [pow_mul]
    norm_num
  rw [hpow, ← Nat.size_le, getNumBytes]
  omega

theorem getNumBytes_eq (hw : 0 < w) : getNumBytes n = w ↔ 256 ^ (w - 1) ≤ n ∧ n < 256 ^ w := by
  rw [← getNumBytes_le, ← not_lt, ← getNumBytes_le]
  omega

theorem asByteArray_eq (h : getNumBytes n ≤ w) :
    asByteArray w n = List.replicate (w - getNumBytes n) 0 ++ leBytes (getNumBytes n) n := by
  simp [asByteArray, bn2bin, if_pos h]

theorem asByteArray_length (h : getNumBytes n ≤ w) : (asByteArray w n).length = w := by
  rw [asByteArray_eq h, List.length_append, List.length_replicate, leBytes_length]
  omega

theorem asByteArray_zero (n : Nat) : asByteArray 0 n = leBytes (getNumBytes n) n := by
  simp only [asByteArray, bn2bin]
  split
  · next h => simp [Nat.le_zero.mp h, leBytes]
  · simp

/-- The array of the least width is the one of a fixed width when the number needs that width. -/
theorem asByteArray_zero_eq_iff (hw : 0 < w) :
    asByteArray 0 n = leBytes w n ↔ 256 ^ (w - 1) ≤ n ∧ n < 256 ^ w := by
  rw [asByteArray_zero, ← getNumBytes_eq hw]
  constructor
  · intro h
    simpa using congrArg List.length h
  · intro h
    rw [h]

theorem leValue_zeros (k : Nat) (bytes : List Byte) :
    leValue (List.replicate k 0 ++ bytes) = 256 ^ k * leValue bytes := by
  induction k with
  | zero => simp
  | succ k ih =>
    simp only [List.replicate_succ, List.cons_append, leValue, ih, pow_succ]
    simp
    ring

theorem leBytes_zero (w : Nat) : leBytes w 0 = List.replicate w 0 := by
  induction w with
  | zero => rfl
  | succ w ih => simp [leBytes, ih, List.replicate_succ]

/-- A wider array is the number's own only when it has no zeros to add, or nothing else. -/
theorem asByteArray_eq_iff (hw : 0 < w) (h : n < 256 ^ w) :
    asByteArray w n = leBytes w n ↔ n = 0 ∨ 256 ^ (w - 1) ≤ n := by
  have hle := getNumBytes_le.mpr h
  rw [asByteArray_eq hle]
  constructor
  · intro heq
    have hvalue := congrArg leValue heq
    rw [leValue_zeros, leValue_leBytes h, leValue_leBytes (getNumBytes_le.mp le_rfl)] at hvalue
    by_cases hfull : getNumBytes n = w
    · exact .inr ((getNumBytes_eq hw).mp hfull).1
    · obtain ⟨k, hk⟩ : ∃ k, w - getNumBytes n = k + 1 := ⟨w - getNumBytes n - 1, by omega⟩
      rw [hk, pow_succ] at hvalue
      have hpos : 0 < 256 ^ k := by positivity
      left
      by_contra hn
      nlinarith [Nat.pos_of_ne_zero hn, Nat.mul_le_mul hpos (le_refl n)]
  · rintro (rfl | hfull)
    · rw [leBytes_zero, leBytes_zero, ← List.replicate_add]
      congr 1
    · rw [(getNumBytes_eq hw).mpr ⟨hfull, h⟩, Nat.sub_self]
      rfl

end BigNumber

/-! ### The numbers of the server -/

/-- `N`. -/
def modulus : Nat := 0x894B645E89E1535BBDAD5B8B290650530801B18EBFBF5E8FAB3C82872A3E9BB7

/-- What the hash gives. -/
abbrev Digest : Type := { bytes : List Byte // bytes.length = 20 }

namespace Env

variable {W Z : Type*}

/-- The parameters with the hash and the numbers of the source; `beyond` is what lies behind an
array. -/
def withNumbers (env : Env W Nat) (sha1 : List Byte → Digest) (beyond : Nat → List Byte) :
    Env W Nat :=
  { env with
    sha1 := fun data => (sha1 data).1
    N := modulus
    g := 7
    zero := 0
    three := 3
    modExp := fun a e n => a ^ e % n
    mul := fun a b => a * b
    add := fun a b => a + b
    mod := fun a n => a % n
    isZero := fun n => decide (n = 0)
    setBinary := leValue
    bytes := BigNumber.asByteArray 0
    bytesMin := fun n minSize => BigNumber.asByteArray minSize n
    memory := fun n => (BigNumber.asByteArray 0 n ++ beyond n).take 20 }

/-- `S`, the secret from which the session key is made. -/
def logonSecret (env : Env W Z) (session : Session Z) (A : Z) : Z :=
  env.modExp (env.mul A (env.modExp session.v
    (env.setBinary (env.sha1 (env.bytes A ++ env.bytes session.B))) env.N)) session.b env.N

end Env

/-! ### What the client computes -/

/-- The bytes of a logon in the packets, and the secret that belongs to a scrambler. -/
structure Wire where
  login : List Byte
  A : List Byte
  B : List Byte
  salt : List Byte
  secret : Nat → Nat

namespace Wire

variable (sha1 : List Byte → Digest) (wire : Wire)

def sharedSecret : Nat := wire.secret (leValue (sha1 (wire.A ++ wire.B)).1)

/-- The forty bytes of the session key. -/
def key : List Byte :=
  let t := leBytes 32 (wire.sharedSecret sha1)
  Env.interleave (sha1 (Env.evens t)).1 (sha1 (Env.odds t)).1

def groupHash : List Byte :=
  ((sha1 (leBytes 32 modulus)).1.zip (sha1 (leBytes 1 7)).1).map fun p => p.1 ^^^ p.2

/-- `M1`. -/
def proof : Digest :=
  sha1 (groupHash sha1 ++ (sha1 wire.login).1 ++ wire.salt ++ wire.A ++ wire.B ++ wire.key sha1)

end Wire

/-- What a logon puts on the wire. -/
def Session.wire (session : Session Nat) (packet : List Byte) : Wire where
  login := session.login
  A := field packet 1 32
  B := leBytes 32 session.B
  salt := leBytes 32 session.s
  secret u :=
    (leValue (field packet 1 32) * (session.v ^ u % modulus)) ^ session.b % modulus

/-! ### The bytes that are hashed -/

/-- The two digests of the group, one byte after the other. -/
def Env.groupHash {W Z : Type*} (env : Env W Z) : List Byte :=
  ((env.sha1 (env.bytes env.N)).zip (env.sha1 (env.bytes env.g))).map fun p => p.1 ^^^ p.2

theorem Env.logonKey_eq {W Z : Type*} (env : Env W Z) (session : Session Z) (A : Z) :
    env.logonKey session A = env.setBinary (Env.interleave
      (env.sha1 (Env.evens (env.bytesMin (env.logonSecret session A) 32)))
      (env.sha1 (Env.odds (env.bytesMin (env.logonSecret session A) 32)))) := rfl

theorem Env.logonValue_eq {W Z : Type*} (env : Env W Z) (session : Session Z) (A : Z) :
    env.logonValue session A = env.setBinary (env.sha1 (env.bytes (env.setBinary env.groupHash) ++
      env.sha1 session.login ++ env.bytes session.s ++ env.bytes A ++ env.bytes session.B ++
      env.bytes (env.logonKey session A))) := rfl

section Logon

variable {W : Type*} (env : Env W Nat) (sha1 : List Byte → Digest) (beyond : Nat → List Byte)

/-- What is hashed and compared has its full width and is what the packets hold, and the proof of
the client is accepted. -/
structure HashesWire (server : Env W Nat) (challenge : Effect W Nat) (packet : List Byte) :
    Prop where
  publicA : server.bytes (server.publicValue packet) = field packet 1 32
  publicB : server.bytes challenge.session.B = leBytes 32 challenge.session.B
  sentB : field challenge.answer 3 32 = leBytes 32 challenge.session.B
  salt : server.bytes challenge.session.s = leBytes 32 challenge.session.s
  sentSalt : field challenge.answer 70 32 = leBytes 32 challenge.session.s
  secret : server.bytesMin (server.logonSecret challenge.session (server.publicValue packet)) 32 =
    leBytes 32 (server.logonSecret challenge.session (server.publicValue packet))
  key : server.bytes (server.logonKey challenge.session (server.publicValue packet)) =
    leBytes 40 (server.logonKey challenge.session (server.publicValue packet))
  groupHash : server.bytes (server.setBinary server.groupHash) = server.groupHash
  value : server.bytes (server.logonValue challenge.session (server.publicValue packet)) =
    leBytes 20 (server.logonValue challenge.session (server.publicValue packet))
  accepts : ∀ world, challenge.session.expversion ≠ 0 →
    leValue (field packet 1 32) % modulus ≠ 0 →
    field packet 33 20 = ((challenge.session.wire packet).proof sha1).1 →
    (server.logonProof world challenge.session packet).session.status = .authed

/-- No number of the logon has a highest byte of zero. -/
structure FullWidth (session : Session Nat) (packet : List Byte) : Prop where
  publicA : 256 ^ 31 ≤ leValue (field packet 1 32)
  publicB : 256 ^ 31 ≤ session.B
  salt : 256 ^ 31 ≤ session.s ∧ session.s < 256 ^ 32
  secret : (session.wire packet).sharedSecret sha1 = 0 ∨
    256 ^ 31 ≤ (session.wire packet).sharedSecret sha1
  key : 256 ^ 39 ≤ leValue ((session.wire packet).key sha1)
  groupHash : 256 ^ 19 ≤ leValue (Wire.groupHash sha1)
  proof : 256 ^ 19 ≤ leValue ((session.wire packet).proof sha1).1

theorem leValue_lt (bytes : List Byte) : leValue bytes < 256 ^ bytes.length := by
  induction bytes with
  | nil => decide
  | cons c rest ih =>
    have hc : c.toNat < 256 := c.isLt
    rw [List.length_cons, pow_succ, leValue]
    omega

theorem leBytes_of_length {bytes : List Byte} {w : Nat} (h : bytes.length = w) :
    leBytes w (leValue bytes) = bytes := h ▸ leBytes_leValue bytes

/-- Bytes of a known length keep it as a number when their last byte is not zero. -/
theorem bytes_leValue_iff {bytes : List Byte} {w : Nat} (hw : 0 < w) (hlength : bytes.length = w) :
    BigNumber.asByteArray 0 (leValue bytes) = bytes ↔ 256 ^ (w - 1) ≤ leValue bytes := by
  have hlt : leValue bytes < 256 ^ w := hlength ▸ leValue_lt bytes
  have hiff := BigNumber.asByteArray_zero_eq_iff (n := leValue bytes) hw
  rw [leBytes_of_length hlength] at hiff
  exact hiff.trans (and_iff_left hlt)

theorem interleave_length {xs ys : List Byte} (h : xs.length = ys.length) :
    (Env.interleave xs ys).length = 2 * xs.length := by
  unfold Env.interleave
  rw [List.length_flatMap]
  simp [h]
  omega

theorem key_length (wire : Wire) : (wire.key sha1).length = 40 := by
  unfold Wire.key
  rw [interleave_length ((sha1 _).2.trans (sha1 _).2.symm), (sha1 _).2]

theorem proof_length (wire : Wire) : (wire.proof sha1).1.length = 20 := (wire.proof sha1).2

theorem groupHash_length : (Wire.groupHash sha1).length = 20 := by
  simp [Wire.groupHash, (sha1 _).2]

theorem modulus_lt : modulus < 256 ^ 32 := by decide +kernel

section Server

variable {env sha1 beyond} {session : Session Nat} {packet : List Byte} {server : Env W Nat}
  (hserver : server = env.withNumbers sha1 beyond)

include hserver

theorem server_bytes : server.bytes = BigNumber.asByteArray 0 := by
  simp only [hserver, Env.withNumbers]

theorem server_bytesMin (n : Nat) : server.bytesMin n 32 = BigNumber.asByteArray 32 n := by
  simp only [hserver, Env.withNumbers]

theorem server_setBinary (bytes : List Byte) : server.setBinary bytes = leValue bytes := by
  simp only [hserver, Env.withNumbers]

theorem server_groupHash : server.groupHash = Wire.groupHash sha1 := by
  have hN : BigNumber.asByteArray 0 modulus = leBytes 32 modulus :=
    (BigNumber.asByteArray_zero_eq_iff (by decide)).mpr ⟨by decide +kernel, modulus_lt⟩
  have hg : BigNumber.asByteArray 0 7 = leBytes 1 7 :=
    (BigNumber.asByteArray_zero_eq_iff (by decide)).mpr ⟨by decide, by decide⟩
  simp only [Env.groupHash, Wire.groupHash, hserver, Env.withNumbers, hN, hg]

theorem secret_agrees (hA : server.bytes (server.publicValue packet) = field packet 1 32)
    (hB : server.bytes session.B = leBytes 32 session.B) :
    server.logonSecret session (server.publicValue packet) =
      (session.wire packet).sharedSecret sha1 := by
  rw [Env.logonSecret, hA, hB, hserver]
  rfl

theorem key_agrees (hS : server.logonSecret session (server.publicValue packet) =
      (session.wire packet).sharedSecret sha1)
    (ht : server.bytesMin ((session.wire packet).sharedSecret sha1) 32 =
      leBytes 32 ((session.wire packet).sharedSecret sha1)) :
    server.logonKey session (server.publicValue packet) =
      leValue ((session.wire packet).key sha1) := by
  rw [Env.logonKey_eq, hS, ht, hserver]
  rfl

theorem value_agrees (hA : server.bytes (server.publicValue packet) = field packet 1 32)
    (hB : server.bytes session.B = leBytes 32 session.B)
    (hs : server.bytes session.s = leBytes 32 session.s)
    (hK : server.bytes (server.logonKey session (server.publicValue packet)) =
      (session.wire packet).key sha1)
    (hhash : server.bytes (server.setBinary server.groupHash) = Wire.groupHash sha1) :
    server.logonValue session (server.publicValue packet) =
      leValue ((session.wire packet).proof sha1).1 := by
  rw [Env.logonValue_eq, hA, hB, hs, hK, hhash, hserver]
  rfl

/-- A proof that is the compared value opens the session. -/
theorem authed_of_value (hexp : session.expversion ≠ 0)
    (hA : leValue (field packet 1 32) % modulus ≠ 0)
    (hvalue : server.bytes (server.logonValue session (server.publicValue packet)) =
      field packet 33 20) (hlength : (field packet 33 20).length = 20) (world : W) :
    (server.logonProof world session packet).session.status = .authed := by
  have hmatches : server.logonMatches session packet := by
    have hmemory : server.memory (server.logonValue session (server.publicValue packet)) =
        (server.bytes (server.logonValue session (server.publicValue packet)) ++
          beyond (server.logonValue session (server.publicValue packet))).take 20 := by
      rw [hserver]
      rfl
    rw [Env.logonMatches, hmemory, hvalue, List.take_append_of_le_length hlength.ge,
      List.take_of_length_le hlength.le]
  have hzero : server.isZero (server.mod (server.publicValue packet) server.N) = false := by
    rw [hserver]
    exact decide_eq_false hA
  simp only [Env.logonProof, if_neg hexp, hzero, Bool.false_eq_true, if_false, if_pos hmatches]

end Server

theorem field_middle (after : List Byte) {before middle : List Byte} {offset length : Nat}
    (hoffset : before.length = offset) (hlength : middle.length = length) :
    field (before ++ middle ++ after) offset length = middle := by
  subst hoffset hlength
  simp [field]

/-- Where the public value and the salt stand in an answer. -/
theorem field_answer {B g N salt rest : List Byte} {code : Byte} (hB : B.length = 32)
    (hg : g.length = 1) (hN : N.length = 32) :
    field ([0x00, 0x00, code] ++ B.take 32 ++ [1] ++ g.take 1 ++ [32] ++ N.take 32 ++ salt ++ rest ++
        [0]) 3 32 = B ∧
      (salt.length = 32 → field ([0x00, 0x00, code] ++ B.take 32 ++ [1] ++ g.take 1 ++ [32] ++
        N.take 32 ++ salt ++ rest ++ [0]) 70 32 = salt) := by
  rw [List.take_of_length_le hB.le, List.take_of_length_le hg.le, List.take_of_length_le hN.le]
  constructor
  · have hbefore : ([0x00, 0x00, code] : List Byte).length = 3 := rfl
    have hmiddle := field_middle ([1] ++ g ++ [32] ++ N ++ salt ++ rest ++ [0]) hbefore hB
    simpa only [List.append_assoc] using hmiddle
  · intro hsalt
    have hbefore : ([0x00, 0x00, code] ++ B ++ [1] ++ g ++ [32] ++ N).length = 70 := by
      simp [hB, hg, hN]
    have hmiddle := field_middle (rest ++ [0]) hbefore hsalt
    simpa only [List.append_assoc] using hmiddle

/-- The public value of the server, and where it and the salt stand in the answer. -/
theorem Env.openLogon_spec {Z : Type*} (server : Env W Z) (world : W) (session : Session Z)
    (packet : List Byte) (row : AccountRow) :
    ∃ (v b : Z) (code : Byte) (rest : List Byte),
      (server.openLogon world session packet row).session.B =
        server.mod (server.add (server.mul v server.three) (server.modExp server.g b server.N))
          server.N ∧
      (server.openLogon world session packet row).answer = [0x00, 0x00, code] ++
        (server.bytesMin (server.openLogon world session packet row).session.B 32).take 32 ++ [1] ++
        (server.bytes server.g).take 1 ++ [32] ++ (server.bytesMin server.N 32).take 32 ++
        server.bytes (server.openLogon world session packet row).session.s ++ rest ++ [0] :=
  ⟨_, _, _, _, rfl, rfl⟩

section Sent

variable {env sha1 beyond} {server : Env W Nat} (hserver : server = env.withNumbers sha1 beyond)
  (world : W) (session : Session Nat) (challenge : List Byte) (row : AccountRow)

include hserver

/-- The public value of the server fits thirty-two bytes. -/
theorem publicB_lt : (server.openLogon world session challenge row).session.B < modulus := by
  obtain ⟨v, b, code, rest, hB, -⟩ := server.openLogon_spec world session challenge row
  have hpos : 0 < modulus := by decide +kernel
  rw [hB, hserver]
  exact Nat.mod_lt _ hpos

/-- The public value is sent in an array of thirty-two bytes, and a salt of this width as it is. -/
theorem sent_fields :
    field (server.openLogon world session challenge row).answer 3 32 =
        server.bytesMin (server.openLogon world session challenge row).session.B 32 ∧
      ((server.bytes (server.openLogon world session challenge row).session.s).length = 32 →
        field (server.openLogon world session challenge row).answer 70 32 =
          server.bytes (server.openLogon world session challenge row).session.s) := by
  have hlt := (publicB_lt hserver world session challenge row).trans modulus_lt
  obtain ⟨v, b, code, rest, -, hanswer⟩ := server.openLogon_spec world session challenge row
  have hB : (server.bytesMin (server.openLogon world session challenge row).session.B 32).length =
      32 := by
    rw [hserver] at hlt ⊢
    exact BigNumber.asByteArray_length (BigNumber.getNumBytes_le.mpr hlt)
  have hg : (server.bytes server.g).length = 1 := by
    have hseven : BigNumber.asByteArray 0 7 = leBytes 1 7 :=
      (BigNumber.asByteArray_zero_eq_iff (by decide)).mpr ⟨by decide, by decide⟩
    have hbytes : server.bytes server.g = BigNumber.asByteArray 0 7 := by
      simp only [hserver, Env.withNumbers]
    rw [hbytes, hseven, leBytes_length]
  have hN : (server.bytesMin server.N 32).length = 32 := by
    rw [hserver]
    exact BigNumber.asByteArray_length (BigNumber.getNumBytes_le.mpr modulus_lt)
  rw [hanswer]
  exact field_answer hB hg hN

end Sent

section Both

variable {env sha1 beyond} {server : Env W Nat} {opened : Effect W Nat} {packet : List Byte}

theorem sharedSecret_lt : (opened.session.wire packet).sharedSecret sha1 < 256 ^ 32 :=
  (Nat.mod_lt _ (by decide +kernel)).trans modulus_lt

theorem HashesWire.fullWidth (hserver : server = env.withNumbers sha1 beyond)
    (hsize : packet.length = 75) (h : HashesWire sha1 server opened packet) :
    FullWidth sha1 opened.session packet := by
  have hbytes := server_bytes hserver
  have hS := secret_agrees hserver h.publicA h.publicB
  have ht := h.secret
  rw [hS] at ht
  have hK := key_agrees hserver hS ht
  have hkey := h.key
  rw [hK, leBytes_of_length (key_length sha1 _)] at hkey
  have hgroup := h.groupHash
  rw [server_groupHash hserver] at hgroup
  have hM := value_agrees hserver h.publicA h.publicB h.salt (by rw [hK, hkey])
    (by rw [server_groupHash hserver, hgroup])
  have hvalue := h.value
  rw [hM, leBytes_of_length (proof_length sha1 _), hbytes] at hvalue
  have hA := h.publicA
  rw [Env.publicValue, server_setBinary hserver, hbytes] at hA
  have hB := h.publicB
  have hs := h.salt
  rw [hbytes] at hkey hB hs
  rw [server_bytesMin hserver] at ht
  rw [server_setBinary hserver, hbytes] at hgroup
  exact {
    publicA := (bytes_leValue_iff (w := 32) (by decide) (by simp [field, hsize])).mp hA
    publicB := ((BigNumber.asByteArray_zero_eq_iff (by decide)).mp hB).1
    salt := (BigNumber.asByteArray_zero_eq_iff (by decide)).mp hs
    secret := (BigNumber.asByteArray_eq_iff (by decide) sharedSecret_lt).mp ht
    key := (bytes_leValue_iff (by decide) (key_length sha1 _)).mp hkey
    groupHash := (bytes_leValue_iff (by decide) (groupHash_length sha1)).mp hgroup
    proof := (bytes_leValue_iff (by decide) (proof_length sha1 _)).mp hvalue }

theorem FullWidth.hashesWire (hserver : server = env.withNumbers sha1 beyond)
    (hsize : packet.length = 75) (hBlt : opened.session.B < 256 ^ 32)
    (hsentB : field opened.answer 3 32 = server.bytesMin opened.session.B 32)
    (hsentSalt : (server.bytes opened.session.s).length = 32 →
      field opened.answer 70 32 = server.bytes opened.session.s)
    (h : FullWidth sha1 opened.session packet) : HashesWire sha1 server opened packet := by
  have hbytes := server_bytes hserver
  have hbytesMin := server_bytesMin hserver
  have hA : server.bytes (server.publicValue packet) = field packet 1 32 := by
    rw [Env.publicValue, server_setBinary hserver, hbytes]
    exact (bytes_leValue_iff (w := 32) (by decide) (by simp [field, hsize])).mpr h.publicA
  have hB : server.bytes opened.session.B = leBytes 32 opened.session.B := by
    rw [hbytes]
    exact (BigNumber.asByteArray_zero_eq_iff (by decide)).mpr ⟨h.publicB, hBlt⟩
  have hs : server.bytes opened.session.s = leBytes 32 opened.session.s := by
    rw [hbytes]
    exact (BigNumber.asByteArray_zero_eq_iff (by decide)).mpr h.salt
  have hS := secret_agrees hserver hA hB
  have ht := (hbytesMin _).trans
    ((BigNumber.asByteArray_eq_iff (by decide) sharedSecret_lt).mpr h.secret)
  have hK := key_agrees hserver hS ht
  have hkey : server.bytes (leValue ((opened.session.wire packet).key sha1)) =
      (opened.session.wire packet).key sha1 := by
    rw [hbytes]
    exact (bytes_leValue_iff (by decide) (key_length sha1 _)).mpr h.key
  have hgroup : server.bytes (server.setBinary (Wire.groupHash sha1)) = Wire.groupHash sha1 := by
    rw [server_setBinary hserver, hbytes]
    exact (bytes_leValue_iff (by decide) (groupHash_length sha1)).mpr h.groupHash
  have hM := value_agrees hserver hA hB hs (by rw [hK, hkey])
    (by rw [server_groupHash hserver, hgroup])
  have hvalue : server.bytes (leValue ((opened.session.wire packet).proof sha1).1) =
      ((opened.session.wire packet).proof sha1).1 := by
    rw [hbytes]
    exact (bytes_leValue_iff (by decide) (proof_length sha1 _)).mpr h.proof
  refine ⟨hA, hB, ?_, hs, ?_, ?_, ?_, ?_, ?_, ?_⟩
  · rw [hsentB, hbytesMin]
    exact (BigNumber.asByteArray_eq_iff (by decide) hBlt).mpr (.inr h.publicB)
  · rw [hsentSalt (by rw [hs, leBytes_length]), hs]
  · rw [hS, ht]
  · rw [hK, hkey, leBytes_of_length (key_length sha1 _)]
  · rw [server_groupHash hserver, hgroup]
  · rw [hM, hvalue, leBytes_of_length (proof_length sha1 _)]
  · intro world hexp hnonzero hproof
    exact authed_of_value hserver hexp hnonzero (by rw [hM, hvalue, hproof])
      (by simp [field, hsize]) world

end Both

/-- A logon hashes what is on the wire exactly when no number of it has a highest byte of zero. -/
theorem hashesWire_iff (world : W) (session : Session Nat) (challenge : List Byte)
    (row : AccountRow) (packet : { bytes : List Byte // bytes.length = logonProofSize }) :
    HashesWire sha1 (env.withNumbers sha1 beyond)
        ((env.withNumbers sha1 beyond).openLogon world session challenge row) packet.1 ↔
      FullWidth sha1 ((env.withNumbers sha1 beyond).openLogon world session challenge row).session
        packet.1 := by
  have hserver : env.withNumbers sha1 beyond = env.withNumbers sha1 beyond := rfl
  have hBlt := (publicB_lt hserver world session challenge row).trans modulus_lt
  obtain ⟨hsentB, hsentSalt⟩ := sent_fields hserver world session challenge row
  exact ⟨fun h => h.fullWidth hserver packet.2,
    fun h => h.hashesWire hserver packet.2 hBlt hsentB hsentSalt⟩

/-- A public value with a highest byte of zero. -/
def shortPublicValue : List Byte := List.replicate 30 0 ++ [1, 0]

/-- The server hashes 31 bytes of the short value, whatever the rest of the session is. -/
theorem shortPublicValue_hashed_short :
    ¬ ∃ (env : Env Unit Nat) (sha1 : List Byte → Digest) (beyond : Nat → List Byte)
      (challenge : Effect Unit Nat) (rest : List Byte),
      HashesWire sha1 (env.withNumbers sha1 beyond) challenge
        ([0x01] ++ shortPublicValue ++ rest) := by
  rintro ⟨env, sha1, beyond, challenge, rest, h⟩
  have hfield : field ([0x01] ++ shortPublicValue ++ rest) 1 32 = shortPublicValue :=
    field_middle rest rfl rfl
  have hpublic : BigNumber.asByteArray 0 (leValue shortPublicValue) = shortPublicValue :=
    hfield ▸ h.publicA
  have hiff := bytes_leValue_iff (w := 32) (by decide) (show shortPublicValue.length = 32 from rfl)
  exact absurd (hiff.mp hpublic) (by decide +kernel)

/-- For a client whose password gives the verifier, the secret of the server is a power of the
server's public value without that verifier, and so the client's secret. -/
theorem logonSecret_of_password (env : Env W Nat) (sha1 : List Byte → Digest)
    (beyond : Nat → List Byte) (world : W) (session : Session Nat) (challenge : List Byte)
    (row : AccountRow) {opened : Session Nat} {A a x : Nat}
    (hopened : opened =
      ((env.withNumbers sha1 beyond).openLogon world session challenge row).session)
    (hA : A = 7 ^ a % modulus) (hv : opened.v = 7 ^ x % modulus) :
    ((env.withNumbers sha1 beyond).logonSecret opened A : ZMod modulus) =
      (opened.B - 3 * 7 ^ x : ZMod modulus) ^ (a + leValue (sha1 (BigNumber.asByteArray 0 A ++
        BigNumber.asByteArray 0 opened.B)).1 * x) := by
  have hB : opened.B = (opened.v * 3 + 7 ^ opened.b % modulus) % modulus := by
    rw [hopened]
    rfl
  simp only [Env.logonSecret, Env.withNumbers]
  generalize leValue _ = u
  simp only [hA, hB, hv, ZMod.natCast_mod, Nat.cast_pow, Nat.cast_mul, Nat.cast_add,
    Nat.cast_ofNat]
  generalize (7 : ZMod modulus) = g
  have hpublic : g ^ x * 3 + g ^ opened.b - 3 * g ^ x = g ^ opened.b := by ring
  rw [hpublic]
  ring

/-- A hash that adds up the bytes. -/
def byteSum (data : List Byte) : Digest :=
  ⟨leBytes 20 (data.foldr (fun c n => c.toNat + n) 1), leBytes_length _ _⟩

/-- A logon for an account without a verifier, with 5 for every random number. -/
def newVerifier : Session Nat :=
  ((emptyEnv.withNumbers byteSum fun _ => []).openLogon ()
    ⟨.challenge, [], [], [], 15595, 2, 0, 0, 0, 0, 0, 0, 0⟩ [] ⟨[], 1, 0, [], 0, [], []⟩).session

/-- The password hash is 6, and that of the public values 309. -/
theorem logonSecret_of_new_verifier :
    newVerifier.v = 7 ^ 6 % modulus ∧ newVerifier.B = 369754 ∧
      ((emptyEnv.withNumbers byteSum fun _ => []).logonSecret newVerifier 49 : ZMod modulus) =
        (newVerifier.B - 3 * 7 ^ 6 : ZMod modulus) ^ (2 + 309 * 6) := by
  have hv : newVerifier.v = 7 ^ 6 % modulus := by decide +kernel
  have hB : newVerifier.B = 369754 := by decide +kernel
  have hu : leValue (byteSum (BigNumber.asByteArray 0 49 ++
      BigNumber.asByteArray 0 newVerifier.B)).1 = 309 := by
    rw [hB]
    decide +kernel
  have h := logonSecret_of_password emptyEnv byteSum (fun _ => []) _ _ _ _
    (rfl : newVerifier = _) (by decide : 49 = 7 ^ 2 % modulus) hv
  rw [hu] at h
  exact ⟨hv, hB, h⟩

end Logon

end Cataclysm.Authserver
