import Cataclysm.Lib.SparseList
import Cataclysm.Packets.Reader
import Cataclysm.Packets.WriteOrder

/-!
# Packed guids

A packed guid is the sparse form of the eight little-endian bytes of a guid: a
mask byte with one flag for each nonzero byte, then these bytes. The writer stops
as soon as the rest of the guid is zero; the reader asks all eight flags.

## Implementation notes

`readPackGUID` reads each byte by the stream operator, which is `read<uint8>`; its
own size checks raise the exception that the operator would raise. The guid it
passes by reference is returned.
-/

namespace Cataclysm
open BitString SparseList

namespace ByteBuffer

/-- The loop of `readPackGUID` over the flags that are left. -/
def readPackGUIDLoop (guidmark : Byte) :
    Nat → Nat → BitVec 64 → ByteBuffer → Except ByteBufferError (BitVec 64 × ByteBuffer)
  | 0, _, guid, b => return (guid, b)
  | n + 1, i, guid, b =>
    if guidmark &&& (1#8 <<< i) ≠ 0 then
      if b.rpos + 1 > b.size then .error (.positionException false b.rpos 1 b.size)
      else do
        let (bit, b) ← b.read 1
        readPackGUIDLoop guidmark n (i + 1) (guid ||| (BitVec.ofNat 64 bit <<< (i * 8))) b
    else readPackGUIDLoop guidmark n (i + 1) guid b

def readPackGUID (b : ByteBuffer) : Except ByteBufferError (BitVec 64 × ByteBuffer) :=
  if b.rpos + 1 > b.size then .error (.positionException false b.rpos 1 b.size)
  else do
    let (guidmark, b) ← b.read 1
    readPackGUIDLoop (BitVec.ofNat 8 guidmark) 8 0 0 b

/-! ## The flags of a mask -/

variable {i : Nat}

/-- The flags of a mask byte from an index on, least significant first. -/
def maskFlags (mask : Byte) (i n : Nat) : List Bool :=
  (List.range' i n).map mask.getLsbD

/-- The mask that `appendPackGUID` builds for the bytes from an index on. -/
def maskOf : Nat → List Bool → Byte
  | _, [] => 0
  | i, bit :: bits => (if bit then 1#8 <<< i else 0) ||| maskOf (i + 1) bits

theorem and_flag_ne_zero_iff (mask : Byte) (h : i < 8) :
    mask &&& (1#8 <<< i) ≠ 0 ↔ mask.getLsbD i = true := by
  rw [← BitVec.twoPow_eq, BitVec.and_twoPow]
  cases mask.getLsbD i with
  | false => simp
  | true =>
    have hne : BitVec.twoPow 8 i ≠ 0#8 := by
      intro heq
      have hbit := congrArg (BitVec.getLsbD · i) heq
      simp [h] at hbit
    simpa using hne

theorem maskOf_getLsbD (bits : List Bool) {j : Nat} (hj : j < 8) :
    (maskOf i bits).getLsbD j = (decide (i ≤ j) && bits.getD (j - i) false) := by
  induction bits generalizing i with
  | nil => simp [maskOf]
  | cons bit bits ih =>
    simp only [maskOf, BitVec.getLsbD_or, ih]
    obtain hlt | rfl | hgt := lt_trichotomy i j
    · obtain ⟨k, hk⟩ : ∃ k, j - i = k + 1 := ⟨j - i - 1, by omega⟩
      have hk' : j - (i + 1) = k := by omega
      have hne : ¬ j < i := by omega
      have hne' : j - i ≠ 0 := by omega
      cases bit <;> simp [hk, hk', hlt.le, hj, hne, Nat.succ_le_of_lt hlt]
    · cases bit <;> simp [hj]
    · have hle : ¬ i ≤ j := by omega
      have hle' : ¬ i + 1 ≤ j := by omega
      cases bit <;> simp [hle, hle', hj, hgt]

/-- The mask of eight flags has these flags. -/
theorem maskFlags_maskOf {bits : List Bool} (h : bits.length = 8) :
    maskFlags (maskOf 0 bits) 0 8 = bits := by
  apply List.ext_getElem
  · simp [maskFlags, h]
  · intro j hj hj'
    have h8 : j < 8 := by simpa [maskFlags] using hj
    simp [maskFlags, maskOf_getLsbD bits h8, List.getD_eq_getElem?_getD, hj']

theorem maskOf_maskFlags (mask : Byte) : maskOf 0 (maskFlags mask 0 8) = mask := by
  apply BitVec.eq_of_getLsbD_eq
  intro j hj
  rw [maskOf_getLsbD _ hj]
  simp [maskFlags, List.getD_eq_getElem?_getD, hj]

/-! ## The writer -/

variable {n : Nat} {guid : BitVec 64}

theorem stored_zeroByte_cons (bytes : List Byte) : stored (0#8 :: bytes) = stored bytes :=
  stored_zero_cons bytes

theorem maskOf_flags_zero (n i : Nat) : maskOf i (flags (leBytes n 0)) = 0 := by
  induction n generalizing i with
  | zero => rfl
  | succ n ih => simp [leBytes, maskOf, ih]

theorem stored_leBytes_zero (n : Nat) : stored (leBytes n 0) = [] := by
  induction n with
  | zero => rfl
  | succ n ih => simp [leBytes, stored_zeroByte_cons, ih]

/-- The loop of `appendPackGUID` collects the sparse form of the bytes that are
left of the guid. -/
theorem packGUIDLoop_eq (h : guid.toNat < 256 ^ n) (i : Nat) (mask : Byte) (out : List Byte) :
    packGUIDLoop n i guid mask out =
      (mask ||| maskOf i (flags (leBytes n guid.toNat))) ::
        (out ++ stored (leBytes n guid.toNat)) := by
  induction n generalizing i guid mask out with
  | zero => simp [packGUIDLoop, leBytes, maskOf]
  | succ n ih =>
    have hshift : (guid >>> 8).toNat = guid.toNat / 256 := by
      simp [BitVec.toNat_ushiftRight, Nat.shiftRight_eq_div_pow]
    have hrest : (guid >>> 8).toNat < 256 ^ n := by
      rw [hshift]
      exact Nat.div_lt_of_lt_mul (by rwa [pow_succ, Nat.mul_comm] at h)
    have hbytes : leBytes (n + 1) guid.toNat =
        guid.setWidth 8 :: leBytes n (guid.toNat / 256) := by
      simp [leBytes]
    by_cases hzero : guid = 0
    · subst hzero
      simp [packGUIDLoop, maskOf_flags_zero, stored_leBytes_zero]
    · rw [hbytes]
      by_cases hbyte : guid.setWidth 8 = 0#8
      · simp only [packGUIDLoop, hzero, if_false, hbyte, ih hrest, hshift, stored_zeroByte_cons]
        simp [maskOf]
      · have hzero' : ¬ guid = 0#64 := hzero
        simp [packGUIDLoop, hzero', hbyte, ih hrest, hshift, maskOf, stored_cons hbyte,
          BitVec.or_assoc]

/-- The loop of `appendPackGUID` stops by itself: more rounds change nothing. -/
theorem packGUIDLoop_stops {n : Nat} {guid : BitVec 64} (h : guid.toNat < 256 ^ n) (k i : Nat)
    (mask : Byte) (out : List Byte) :
    packGUIDLoop (n + k) i guid mask out = packGUIDLoop n i guid mask out := by
  induction n generalizing i guid mask out with
  | zero =>
    have hzero : guid = 0 := BitVec.eq_of_toNat_eq (by simpa using h)
    subst hzero
    cases k <;> simp [packGUIDLoop]
  | succ n ih =>
    have hrest : (guid >>> 8).toNat < 256 ^ n := by
      simp only [BitVec.toNat_ushiftRight, Nat.shiftRight_eq_div_pow]
      exact Nat.div_lt_of_lt_mul (by rwa [pow_succ, Nat.mul_comm] at h)
    simp only [Nat.succ_add, packGUIDLoop, ih hrest]

/-- The bytes of a guid. -/
def guidBytes (guid : BitVec 64) : List Byte := leBytes 8 guid.toNat

theorem packGUID_eq (guid : BitVec 64) :
    packGUID guid = maskOf 0 (flags (guidBytes guid)) :: stored (guidBytes guid) := by
  have h : guid.toNat < 256 ^ 8 := guid.isLt
  simp [packGUID, packGUIDLoop_eq h, guidBytes]

/-! ## The reader -/

theorem or_byte_eq_add {c : Nat} (hi : i < 8) (hguid : guid.toNat < 256 ^ i) (hc : c < 256) :
    (guid ||| (BitVec.ofNat 64 c <<< (i * 8))).toNat = guid.toNat + 256 ^ i * c := by
  have hpow : 256 ^ i = 2 ^ (i * 8) := by
    rw [show (256 : Nat) = 2 ^ 8 by norm_num, ← pow_mul, Nat.mul_comm]
  have hfit : c * 2 ^ (i * 8) < 2 ^ 64 := by
    calc c * 2 ^ (i * 8) < 2 ^ 8 * 2 ^ (i * 8) := by
          exact Nat.mul_lt_mul_of_pos_right (by simpa using hc) (by positivity)
      _ = 2 ^ (8 + i * 8) := (pow_add 2 8 (i * 8)).symm
      _ ≤ 2 ^ 64 := Nat.pow_le_pow_right (by norm_num) (by omega)
  have hc64 : c % 2 ^ 64 = c := Nat.mod_eq_of_lt (by omega)
  simp only [BitVec.toNat_or, BitVec.toNat_shiftLeft, BitVec.toNat_ofNat, hc64,
    Nat.shiftLeft_eq, Nat.mod_eq_of_lt hfit]
  rw [hpow] at hguid ⊢
  rw [Nat.or_comm, Nat.mul_comm c, ← Nat.two_pow_add_eq_or_of_lt hguid, Nat.add_comm]

variable {storage : List Byte} {loose : List Bool} {guidmark : Byte}

variable {b b' : ByteBuffer} {rest : List Byte}

theorem maskFlags_succ (mask : Byte) (i n : Nat) :
    maskFlags mask i (n + 1) = mask.getLsbD i :: maskFlags mask (i + 1) n := by
  simp [maskFlags, List.range'_succ]

/-- The size check of `readPackGUID` raises the exception of the read behind it. -/
theorem checkedRead_eq {α : Type} (b : ByteBuffer)
    (k : Nat × ByteBuffer → Except ByteBufferError α) :
    (if b.rpos + 1 > b.size then .error (.positionException false b.rpos 1 b.size)
      else b.read 1 >>= k) = b.read 1 >>= k := by
  by_cases h : b.rpos + 1 > b.size
  · simp [h, read, readAt, bind, Except.bind]
  · rw [if_neg h]

theorem read_one_reads {c : Byte} (h : Reading storage b loose (c :: rest)) :
    ∃ b', b.read 1 = .ok (c.toNat, b') ∧ Reading storage b' loose rest := by
  have h' : Reading storage b loose ([c] ++ rest) := h
  obtain ⟨b', hread, hb', -, -⟩ := read_reads h'
  exact ⟨b', by simpa [leValue] using hread, hb'⟩

/-- The loop of `readPackGUID` scatters the bytes at the cursor over the flags that
are left and adds the number they denote. -/
theorem readPackGUIDLoop_reads {input bytes : List Byte} (hin : i + n = 8)
    (hb : Reading storage b loose input) (hguid : guid.toNat < 256 ^ i)
    (hs : scatter (maskFlags guidmark i n) input = some (bytes, rest)) :
    ∃ guid' b', readPackGUIDLoop guidmark n i guid b = .ok (guid', b') ∧
      Reading storage b' loose rest ∧
      guid'.toNat = guid.toNat + 256 ^ i * leValue bytes := by
  induction n generalizing i guid b input bytes with
  | zero =>
    cases hs
    exact ⟨guid, b, rfl, hb, by simp [leValue]⟩
  | succ n ih =>
    have hi : i < 8 := by omega
    rw [maskFlags_succ] at hs
    cases hbit : guidmark.getLsbD i with
    | false =>
      have hskip : ¬ guidmark &&& (1#8 <<< i) ≠ 0 := by
        rw [and_flag_ne_zero_iff guidmark hi, hbit]
        simp
      simp only [hbit, scatter, Option.map_eq_some_iff, Prod.mk.injEq] at hs
      obtain ⟨⟨tail, _⟩, htail, rfl, rfl⟩ := hs
      have hguid' : guid.toNat < 256 ^ (i + 1) :=
        hguid.trans_le (Nat.pow_le_pow_right (by norm_num) (by omega))
      obtain ⟨guid', b', hloop, hb', hvalue⟩ := ih (by omega) hb hguid' htail
      refine ⟨guid', b', ?_, hb', ?_⟩
      · simp only [readPackGUIDLoop, if_neg hskip, hloop]
      · rw [hvalue]
        have hzero : (0 : Byte).toNat = 0 := rfl
        simp only [leValue, hzero, pow_succ]
        ring
    | true =>
      have htake : guidmark &&& (1#8 <<< i) ≠ 0 := by
        rw [and_flag_ne_zero_iff guidmark hi, hbit]
      cases input with
      | nil => simp [hbit, scatter] at hs
      | cons c input =>
        simp only [hbit, scatter, Option.map_eq_some_iff, Prod.mk.injEq] at hs
        obtain ⟨⟨tail, _⟩, htail, rfl, rfl⟩ := hs
        have hc := c.isLt
        obtain ⟨b₁, hread, hb₁⟩ := read_one_reads hb
        have hor := or_byte_eq_add hi hguid (c := c.toNat) (by omega)
        have hguid' : (guid ||| (BitVec.ofNat 64 c.toNat <<< (i * 8))).toNat <
            256 ^ (i + 1) := by
          rw [hor]
          calc guid.toNat + 256 ^ i * c.toNat < 256 ^ i + 256 ^ i * c.toNat := by omega
            _ = 256 ^ i * (c.toNat + 1) := by ring
            _ ≤ 256 ^ i * 256 := Nat.mul_le_mul_left _ (by omega)
            _ = 256 ^ (i + 1) := (pow_succ 256 i).symm
        obtain ⟨guid', b', hloop, hb', hvalue⟩ := ih (by omega) hb₁ hguid' htail
        refine ⟨guid', b', ?_, hb', ?_⟩
        · rw [readPackGUIDLoop, if_pos htake, checkedRead_eq]
          simp only [hread, bind, Except.bind, hloop]
        · rw [hvalue, hor]
          simp only [leValue, pow_succ]
          ring

theorem read_frame {v : Nat} (h : b.read n = .ok (v, b')) : b' = { b with rpos := b'.rpos } := by
  unfold read readAt at h
  split at h
  · cases h
  · cases h
    rfl

/-- A read of one byte finds that byte at the cursor. -/
theorem exists_of_read_one {v : Nat} (h : b.read 1 = .ok (v, b')) :
    b.rpos ≤ b.storage.length ∧ ∃ c rest, b.storage.drop b.rpos = [c] ++ rest := by
  have hfit : b.rpos + 1 ≤ b.storage.length := by
    by_contra hfit
    have hgt : b.rpos + 1 > b.size := by
      simp only [size]
      omega
    simp [read, readAt, hgt, bind, Except.bind] at h
  have hlt : b.rpos < b.storage.length := by omega
  exact ⟨hlt.le, b.storage[b.rpos], b.storage.drop (b.rpos + 1), List.drop_eq_getElem_cons hlt⟩

/-- `readPackGUID` moves nothing but the read cursor. -/
theorem readPackGUIDLoop_frame {guid' : BitVec 64}
    (h : readPackGUIDLoop guidmark n i guid b = .ok (guid', b')) :
    b' = { b with rpos := b'.rpos } := by
  induction n generalizing i guid b with
  | zero =>
    cases h
    rfl
  | succ n ih =>
    rw [readPackGUIDLoop, checkedRead_eq] at h
    split at h
    · cases hread : b.read 1 with
      | error e => simp [hread, bind, Except.bind] at h
      | ok r =>
        obtain ⟨c, b₁⟩ := r
        simp only [hread, bind, Except.bind] at h
        have hb₁ := read_frame hread
        have hb' := ih h
        rw [hb₁] at hb'
        exact hb'
    · exact ih h

/-- Without enough bytes for the flags the loop of `readPackGUID` raises an
exception. -/
theorem readPackGUIDLoop_fails (guid : BitVec 64) {input : List Byte} (hin : i + n = 8)
    (hb : Reading storage b loose input) (hs : scatter (maskFlags guidmark i n) input = none) :
    ∃ e, readPackGUIDLoop guidmark n i guid b = .error e := by
  induction n generalizing i guid b input with
  | zero => simp [maskFlags, scatter] at hs
  | succ n ih =>
    have hi : i < 8 := by omega
    rw [maskFlags_succ] at hs
    cases hbit : guidmark.getLsbD i with
    | false =>
      have hskip : ¬ guidmark &&& (1#8 <<< i) ≠ 0 := by
        rw [and_flag_ne_zero_iff guidmark hi, hbit]
        simp
      simp only [hbit, scatter, Option.map_eq_none_iff] at hs
      simpa only [readPackGUIDLoop, if_neg hskip] using ih _ (by omega) hb hs
    | true =>
      have htake : guidmark &&& (1#8 <<< i) ≠ 0 := by
        rw [and_flag_ne_zero_iff guidmark hi, hbit]
      simp only [readPackGUIDLoop, if_pos htake, checkedRead_eq]
      cases input with
      | nil =>
        have hread := read_fails (n := 1) hb (by simp)
        exact ⟨_, by simp only [hread, bind, Except.bind]; rfl⟩
      | cons c input =>
        simp only [hbit, scatter, Option.map_eq_none_iff] at hs
        obtain ⟨b₁, hread, hb₁⟩ := read_one_reads hb
        simpa only [hread, bind, Except.bind] using ih _ (by omega) hb₁ hs

/-! ## Both directions -/

/-- `readPackGUID` at the sparse form of a guid returns the guid and stops behind
it. -/
theorem readPackGUID_reads (hb : Reading storage b loose (packGUID guid ++ rest)) :
    b.readPackGUID = .ok (guid, { b with rpos := b.rpos + (packGUID guid).length }) := by
  rw [packGUID_eq, List.cons_append] at hb
  obtain ⟨b₁, hread, hb₁⟩ := read_one_reads hb
  have hmask : maskFlags (maskOf 0 (flags (guidBytes guid))) 0 8 = flags (guidBytes guid) :=
    maskFlags_maskOf (by simp [guidBytes])
  have hscatter : scatter (maskFlags (maskOf 0 (flags (guidBytes guid))) 0 8)
      (stored (guidBytes guid) ++ rest) = some (guidBytes guid, rest) := by
    rw [hmask, scatter_stored]
  obtain ⟨guid', b', hloop, hb', hvalue⟩ :=
    readPackGUIDLoop_reads (by omega) hb₁ (by simp : (0 : BitVec 64).toNat < 256 ^ 0) hscatter
  have hguid : guid' = guid := by
    apply BitVec.eq_of_toNat_eq
    have hlt : guid.toNat < 256 ^ 8 := guid.isLt
    simpa [guidBytes, leValue_leBytes hlt] using hvalue
  have hrpos : b'.rpos = b.rpos + (packGUID guid).length := by
    have hlen := congrArg List.length hb.rest_eq
    have hlen' := congrArg List.length hb'.rest_eq
    have hle := hb.rpos_le
    have hle' := hb'.rpos_le
    simp only [List.length_drop, List.length_cons, List.length_append, hb.storage_eq,
      hb'.storage_eq] at hlen hlen' hle hle'
    rw [packGUID_eq, List.length_cons]
    omega
  have hframe : b' = { b with rpos := b'.rpos } := by
    have hb' := readPackGUIDLoop_frame hloop
    rw [read_frame hread] at hb'
    exact hb'
  rw [readPackGUID, checkedRead_eq]
  simp only [hread, bind, Except.bind, BitVec.ofNat_toNat, BitVec.setWidth_eq, hloop, hguid]
  rw [hframe, hrpos]

/-- What `readPackGUID` accepts without a zero among the bytes behind the mask is
the sparse form of the guid it returns. -/
theorem packGUID_of_readPackGUID (h : b.readPackGUID = .ok (guid, b')) :
    ∃ mask taken, b.storage.drop b.rpos = mask :: taken ++ b.storage.drop b'.rpos ∧
      b' = { b with rpos := b.rpos + 1 + taken.length } ∧
      (0 ∉ taken → mask :: taken = packGUID guid) := by
  rw [readPackGUID, checkedRead_eq] at h
  cases hread : b.read 1 with
  | error e => simp [hread, bind, Except.bind] at h
  | ok r =>
    obtain ⟨v, b₁⟩ := r
    obtain ⟨hle, mask, input, hdrop⟩ := exists_of_read_one hread
    have hb : Reading b.storage b b.looseBits (mask :: input) := ⟨rfl, hle, hdrop, rfl⟩
    obtain ⟨b₂, hread₂, hb₁⟩ := read_one_reads hb
    obtain ⟨rfl, rfl⟩ := Prod.mk.inj (Except.ok.inj (hread.symm.trans hread₂))
    simp only [hread, bind, Except.bind, BitVec.ofNat_toNat, BitVec.setWidth_eq] at h
    cases hscatter : scatter (maskFlags mask 0 8) input with
    | none =>
      obtain ⟨e, he⟩ := readPackGUIDLoop_fails 0 (by omega) hb₁ hscatter
      rw [he] at h
      cases h
    | some r =>
      obtain ⟨bytes, rest⟩ := r
      obtain ⟨guid', b₂, hloop, hb₂, hvalue⟩ :=
        readPackGUIDLoop_reads (by omega) hb₁ (by simp : (0 : BitVec 64).toNat < 256 ^ 0)
          hscatter
      obtain ⟨rfl, rfl⟩ := Prod.mk.inj (Except.ok.inj (hloop.symm.trans h))
      obtain ⟨taken, hinput, hlen, hcode⟩ := scatter_eq_some hscatter
      have hrest := hb₂.rest_eq
      rw [hb₂.storage_eq] at hrest
      have hrpos : b₂.rpos = b.rpos + 1 + taken.length := by
        have hlen := congrArg List.length hrest
        have hlen' := congrArg List.length hdrop
        have hle₂ := hb₂.rpos_le
        simp only [hinput, List.length_drop, List.length_append, List.length_cons,
          List.length_nil, hb₂.storage_eq] at hlen hlen' hle₂
        omega
      have hframe : b₂ = { b with rpos := b₂.rpos } := by
        have hb₂ := readPackGUIDLoop_frame hloop
        rw [read_frame hread] at hb₂
        exact hb₂
      refine ⟨mask, taken, by rw [hdrop, hrest, hinput]; rfl, by rw [hframe, hrpos], ?_⟩
      intro hzero
      obtain ⟨hflags, hstored⟩ := hcode hzero
      have h8 : bytes.length = 8 := by simpa [maskFlags] using hlen
      have hbytes : guidBytes guid' = bytes := by
        have hguid : guid'.toNat = leValue bytes := by simpa using hvalue
        rw [guidBytes, hguid, ← h8, leBytes_leValue]
      rw [packGUID_eq, hbytes, hflags, hstored, maskOf_maskFlags]

theorem appendPackGUID_fresh (guid : BitVec 64) :
    ∃ w, fresh.appendPackGUID guid = .ok w ∧ w.storage = packGUID guid := by
  have hne : packGUID guid ≠ [] := packGUIDLoop_ne_nil 8 0 guid 0 []
  have hsize : fresh.size < maxSize := by simp [fresh, size, maxSize]
  refine ⟨_, by rw [appendPackGUID, append, if_neg hne, if_pos hsize], ?_⟩
  simp [memcpyAt, fresh]

/-- Reading a packed guid in front of any bytes gives the guid back and stops at
these bytes; and any bytes that are read as a guid without a zero behind the mask
are the packed form of that guid. -/
theorem packedGuid_codec :
    (∀ guid, ∃ w, fresh.appendPackGUID guid = .ok w ∧
      ∀ (b : ByteBuffer) (before rest : List Byte),
        b.storage = before ++ w.storage ++ rest → b.rpos = before.length →
        b.readPackGUID = .ok (guid, { b with rpos := (before ++ w.storage).length })) ∧
    (∀ (b b' : ByteBuffer) (guid : BitVec 64), b.readPackGUID = .ok (guid, b') →
      ∃ mask taken, b.storage.drop b.rpos = mask :: taken ++ b.storage.drop b'.rpos ∧
        b' = { b with rpos := b.rpos + 1 + taken.length } ∧
        (0 ∉ taken → ∃ w, fresh.appendPackGUID guid = .ok w ∧ w.storage = mask :: taken)) := by
  refine ⟨fun guid => ?_, fun b b' guid h => ?_⟩
  · obtain ⟨w, hw, hstorage⟩ := appendPackGUID_fresh guid
    refine ⟨w, hw, fun b before rest hb hrpos => ?_⟩
    have hdrop : b.storage.drop b.rpos = packGUID guid ++ rest := by
      rw [hb, hrpos, List.append_assoc, List.drop_left, hstorage]
    have hle : b.rpos ≤ b.storage.length := by
      rw [hb, hrpos]
      simp
    have hreading : Reading b.storage b b.looseBits (packGUID guid ++ rest) :=
      ⟨rfl, hle, hdrop, rfl⟩
    rw [readPackGUID_reads hreading, hrpos, hstorage, List.length_append]
  · obtain ⟨mask, taken, hsplit, hb', hcode⟩ := packGUID_of_readPackGUID h
    refine ⟨mask, taken, hsplit, hb', fun hzero => ?_⟩
    obtain ⟨w, hw, hstorage⟩ := appendPackGUID_fresh guid
    exact ⟨w, hw, hstorage.trans (hcode hzero).symm⟩

end ByteBuffer

end Cataclysm
