import Mathlib

/-!
# Bit strings, bytes and little-endian words

A bit string is a list of Booleans, most significant bit first. Packing fills
bytes from the most significant bit and pads the last byte with zeros; a stream
of bits is read back as a list of fewer than eight loose bits followed by whole
bytes. Multi-byte words are little endian.
-/

namespace BitString

abbrev Byte := BitVec 8

/-- The `w` low bits of a number, most significant first. -/
def bitsOfNat : Nat → Nat → List Bool
  | 0, _ => []
  | w + 1, v => v.testBit w :: bitsOfNat w v

/-- The number denoted by a most-significant-first bit string. -/
def natOfBits : List Bool → Nat
  | [] => 0
  | b :: rest => (if b then 2 ^ rest.length else 0) + natOfBits rest

@[simp] theorem bitsOfNat_length (w v : Nat) : (bitsOfNat w v).length = w := by
  induction w with
  | zero => rfl
  | succ w ih => simp [bitsOfNat, ih]

theorem natOfBits_lt (bits : List Bool) : natOfBits bits < 2 ^ bits.length := by
  induction bits with
  | nil => simp [natOfBits]
  | cons b rest ih =>
    simp only [natOfBits, List.length_cons, pow_succ]
    split <;> omega

theorem natOfBits_bitsOfNat_mod (w v : Nat) :
    natOfBits (bitsOfNat w v) = v % 2 ^ w := by
  induction w with
  | zero => simp [bitsOfNat, natOfBits, Nat.mod_one]
  | succ w ih =>
    simp only [bitsOfNat, natOfBits, bitsOfNat_length, ih, Nat.mod_pow_succ]
    rw [Nat.testBit_eq_decide_div_mod_eq]
    have hbit : v / 2 ^ w % 2 = 0 ∨ v / 2 ^ w % 2 = 1 := by omega
    rcases hbit with h | h <;> simp [h, Nat.add_comm]

/-- A number that fits its width survives the passage through bits. -/
theorem natOfBits_bitsOfNat {w v : Nat} (h : v < 2 ^ w) :
    natOfBits (bitsOfNat w v) = v := by
  rw [natOfBits_bitsOfNat_mod, Nat.mod_eq_of_lt h]

/-- The eight bits of a byte, most significant first. -/
def byteBits (c : Byte) : List Bool := (List.range 8).map c.getMsbD

/-- The byte whose leading bits are the given ones, zero below them. -/
def packByte (bits : List Bool) : Byte :=
  BitVec.ofBoolListBE [bits.getD 0 false, bits.getD 1 false, bits.getD 2 false,
    bits.getD 3 false, bits.getD 4 false, bits.getD 5 false, bits.getD 6 false,
    bits.getD 7 false]

@[simp] theorem byteBits_length (c : Byte) : (byteBits c).length = 8 := by
  simp [byteBits]

theorem byteBits_getD (c : Byte) (i : Nat) : (byteBits c).getD i false = c.getMsbD i := by
  by_cases h : i < 8
  · simp [byteBits, List.getD_eq_getElem?_getD, h]
  · have hlen : (byteBits c).length ≤ i := by simp; omega
    simp only [List.getD_eq_getElem?_getD, List.getElem?_eq_none hlen]
    simp [BitVec.getMsbD, h]

theorem packByte_getMsbD (bits : List Bool) {i : Nat} (h : i < 8) :
    (packByte bits).getMsbD i = bits.getD i false := by
  rw [packByte]
  refine (BitVec.getMsbD_ofBoolListBE).trans ?_
  interval_cases i <;> rfl

theorem byteBits_injective : Function.Injective byteBits := by
  intro c d h
  apply BitVec.eq_of_getMsbD_eq
  intro i _
  rw [← byteBits_getD c i, h, byteBits_getD]

/-- Packing at most eight bits and reading them back only adds zero padding. -/
theorem byteBits_packByte {bits : List Bool} (h : bits.length ≤ 8) :
    byteBits (packByte bits) = bits ++ List.replicate (8 - bits.length) false := by
  apply List.ext_getElem
  · simp; omega
  · intro i hi hi'
    have h8 : i < 8 := by simpa using hi
    simp only [byteBits, List.getElem_map, List.getElem_range]
    rw [packByte_getMsbD bits h8]
    by_cases hb : i < bits.length
    · simp [List.getElem_append_left hb, List.getD_eq_getElem?_getD, hb]
    · rw [List.getElem_append_right (by omega)]
      simp [List.getD_eq_getElem?_getD, List.getElem?_eq_none (Nat.le_of_not_lt hb)]

/-- The bits of a list of bytes. -/
def unpack (bytes : List Byte) : List Bool := bytes.flatMap byteBits

@[simp] theorem unpack_nil : unpack [] = [] := rfl

@[simp] theorem unpack_cons (c : Byte) (bytes : List Byte) :
    unpack (c :: bytes) = byteBits c ++ unpack bytes := rfl

@[simp] theorem unpack_append (xs ys : List Byte) :
    unpack (xs ++ ys) = unpack xs ++ unpack ys := by
  simp [unpack]

@[simp] theorem unpack_length (bytes : List Byte) :
    (unpack bytes).length = 8 * bytes.length := by
  induction bytes with
  | nil => rfl
  | cons c rest ih => simp [ih]; omega

theorem unpack_injective : Function.Injective unpack := by
  intro xs
  induction xs with
  | nil =>
    intro ys h
    have := congrArg List.length h
    simp at this
    exact this.symm
  | cons c rest ih =>
    intro ys h
    cases ys with
    | nil => simpa using congrArg List.length h
    | cons d tail =>
      obtain ⟨hc, ht⟩ := List.append_inj h (by simp)
      rw [byteBits_injective hc, ih ht]

/-- Loose bits and whole bytes are determined by the bit stream they spell. -/
theorem stream_unique {p q : List Bool} {xs ys : List Byte}
    (hp : p.length < 8) (hq : q.length < 8)
    (h : p ++ unpack xs = q ++ unpack ys) : p = q ∧ xs = ys := by
  have hlen := congrArg List.length h
  simp only [List.length_append, unpack_length] at hlen
  obtain ⟨h₁, h₂⟩ := List.append_inj h (by omega)
  exact ⟨h₁, unpack_injective h₂⟩

/-- Push one bit behind the loose bits, closing the byte it completes. -/
def pushBit (acc : List Byte × List Bool) (b : Bool) : List Byte × List Bool :=
  if acc.2.length = 7 then (acc.1 ++ [packByte (acc.2 ++ [b])], [])
  else (acc.1, acc.2 ++ [b])

/-- The whole bytes of a bit string and the loose bits behind them. -/
def fill (bits : List Bool) : List Byte × List Bool := bits.foldl pushBit ([], [])

/-- The zero-padded byte of the loose bits, if there are any. -/
def closeByte (loose : List Bool) : List Byte :=
  if loose = [] then [] else [packByte loose]

/-- A bit string packed into bytes, the last one padded with zeros. -/
def packBits (bits : List Bool) : List Byte := (fill bits).1 ++ closeByte (fill bits).2

@[simp] theorem fill_nil : fill [] = ([], []) := rfl

@[simp] theorem packBits_nil : packBits [] = [] := rfl

theorem fill_concat (bits : List Bool) (b : Bool) :
    fill (bits ++ [b]) = pushBit (fill bits) b := by
  simp [fill]

/-- Filling loses no bit and leaves fewer than eight of them loose. -/
theorem unpack_fill (bits : List Bool) :
    unpack (fill bits).1 ++ (fill bits).2 = bits ∧ (fill bits).2.length < 8 := by
  induction bits using List.reverseRecOn with
  | nil => simp
  | append_singleton bits b ih =>
    obtain ⟨heq, hlt⟩ := ih
    rw [fill_concat, pushBit]
    by_cases h7 : (fill bits).2.length = 7
    · have hfull : ((fill bits).2 ++ [b]).length = 8 := by simp [h7]
      rw [if_pos h7]
      refine ⟨?_, by simp⟩
      simp only [unpack_append, unpack_cons, unpack_nil, byteBits_packByte hfull.le, hfull]
      nth_rewrite 3 [← heq]
      simp
    · rw [if_neg h7]
      refine ⟨?_, by simp; omega⟩
      rw [← List.append_assoc, heq]

theorem fill_loose_lt (bits : List Bool) : (fill bits).2.length < 8 := (unpack_fill bits).2

theorem fill_loose_length (bits : List Bool) : (fill bits).2.length = bits.length % 8 := by
  obtain ⟨heq, hlt⟩ := unpack_fill bits
  have hlen := congrArg List.length heq
  simp only [List.length_append, unpack_length] at hlen
  omega

theorem fill_loose_eq_nil_iff (bits : List Bool) :
    (fill bits).2 = [] ↔ bits.length % 8 = 0 := by
  rw [← fill_loose_length, List.length_eq_zero_iff]

/-- Fewer than eight bits fill no byte. -/
theorem fill_of_lt {bits : List Bool} (h : bits.length < 8) : fill bits = ([], bits) := by
  obtain ⟨heq, -⟩ := unpack_fill bits
  have hlen := congrArg List.length heq
  simp only [List.length_append, unpack_length] at hlen
  have hnil : (fill bits).1 = [] := List.length_eq_zero_iff.mp (by omega)
  have hloose : (fill bits).2 = bits := by simpa [hnil] using heq
  exact Prod.ext hnil hloose

theorem unpack_closeByte {loose : List Bool} (h : loose.length < 8) :
    unpack (closeByte loose) =
      loose ++ List.replicate ((8 - loose.length) % 8) false := by
  by_cases hl : loose = []
  · simp [closeByte, hl]
  · have hpos : 0 < loose.length := List.length_pos_iff.mpr hl
    have hmod : (8 - loose.length) % 8 = 8 - loose.length := Nat.mod_eq_of_lt (by omega)
    simp [closeByte, hl, byteBits_packByte h.le, hmod]

/-- The number of zero bits that complete the last byte of a bit string. -/
def padding (bits : List Bool) : Nat := (8 - bits.length % 8) % 8

theorem padding_lt (bits : List Bool) : padding bits < 8 := Nat.mod_lt _ (by omega)

theorem padding_eq_zero_iff (bits : List Bool) : padding bits = 0 ↔ bits.length % 8 = 0 := by
  simp only [padding]
  omega

/-- Unpacking a packed bit string gives the string back behind its padding. -/
theorem unpack_packBits (bits : List Bool) :
    unpack (packBits bits) = bits ++ List.replicate (padding bits) false := by
  obtain ⟨heq, hlt⟩ := unpack_fill bits
  simp only [packBits, unpack_append, unpack_closeByte hlt, padding, ← fill_loose_length]
  rw [← List.append_assoc, heq]

theorem packBits_length (run : List Bool) : (packBits run).length = (run.length + 7) / 8 := by
  have h := congrArg List.length (unpack_packBits run)
  simp only [unpack_length, List.length_append, List.length_replicate, padding] at h
  omega

/-- The `n` little-endian bytes of a number. -/
def leBytes : Nat → Nat → List Byte
  | 0, _ => []
  | n + 1, v => BitVec.ofNat 8 v :: leBytes n (v / 256)

/-- The number denoted by little-endian bytes. -/
def leValue : List Byte → Nat
  | [] => 0
  | c :: rest => c.toNat + 256 * leValue rest

@[simp] theorem leBytes_length (n v : Nat) : (leBytes n v).length = n := by
  induction n generalizing v with
  | zero => rfl
  | succ n ih => simp [leBytes, ih]

/-- A number that fits `n` bytes survives the passage through bytes. -/
theorem leValue_leBytes {n v : Nat} (h : v < 256 ^ n) : leValue (leBytes n v) = v := by
  induction n generalizing v with
  | zero => simp at h; simp [leBytes, leValue, h]
  | succ n ih =>
    have hdiv : v / 256 < 256 ^ n := by
      rw [pow_succ] at h
      exact Nat.div_lt_of_lt_mul (by omega)
    simp only [leBytes, leValue, ih hdiv, BitVec.toNat_ofNat]
    omega

/-- Bytes are the little-endian bytes of the number they denote. -/
theorem leBytes_leValue (bytes : List Byte) : leBytes bytes.length (leValue bytes) = bytes := by
  induction bytes with
  | nil => rfl
  | cons c rest ih =>
    have hc := c.isLt
    have hdiv : leValue (c :: rest) / 256 = leValue rest := by
      simp only [leValue]
      omega
    simp only [List.length_cons, leBytes, hdiv, ih, List.cons.injEq, and_true]
    apply BitVec.eq_of_toNat_eq
    simp only [leValue, BitVec.toNat_ofNat]
    omega

end BitString
