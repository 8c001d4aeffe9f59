import Cataclysm.Packets.ByteBuffer
import Cataclysm.Server.WorldSocketOutput

/-!
# Reading the server's packet header

The size in a `ServerPktHeader` takes two bytes, or three when it does not fit into fifteen bits;
the first byte then carries a mark in its high bit. The three bytes have room for twenty-three bits
of the size, but a buffer may hold more than that: the twenty-fourth bit falls onto the mark and is
gone for the reader.

## Implementation notes

The reader is the client, of which the repository has no code. `decodeHeader` is what the two forms
mean to it.
-/

namespace Cataclysm
open BitString

/-- The size and the opcode that a header tells. -/
def decodeHeader : List Byte → Option (Nat × Nat)
  | [b₀, b₁, c₀, c₁] =>
    if b₀.toNat < 0x80 then
      some (b₀.toNat * 256 + b₁.toNat, c₁.toNat * 256 + c₀.toNat)
    else none
  | [b₀, b₁, b₂, c₀, c₁] =>
    if b₀.toNat < 0x80 then none
    else some ((b₀.toNat - 0x80) * 65536 + b₁.toNat * 256 + b₂.toNat, c₁.toNat * 256 + c₀.toNat)
  | _ => none

/-- The form with two bytes for the size. -/
def twoByteHeader (size cmd : Nat) : List Byte :=
  [BitVec.ofNat 8 (size >>> 8), BitVec.ofNat 8 size, BitVec.ofNat 8 cmd, BitVec.ofNat 8 (cmd >>> 8)]

/-- The header of a packet tells its size and opcode, in the short form whenever that can tell
them. -/
structure HeaderTells (size cmd : Nat) : Prop where
  decodes : decodeHeader (serverPktHeader size cmd) = some (size, cmd)
  large : (serverPktHeader size cmd).length = 5 ↔
    decodeHeader (twoByteHeader size cmd) ≠ some (size, cmd)

variable {size cmd : Nat}

theorem markedByte_toNat (n : Nat) :
    (BitVec.ofNat 8 (0x80 ||| (0xFF &&& n))).toNat = 0x80 + n % 0x80 := by
  have hmark : ∀ y < 256, (0x80 ||| y) % 256 = 0x80 + y % 0x80 := by decide +kernel
  have hmask : 0xFF &&& n = n % 256 := by
    rw [Nat.and_comm]
    exact Nat.and_two_pow_sub_one_eq_mod n 8
  rw [BitVec.toNat_ofNat, hmask, hmark _ (Nat.mod_lt n (by omega)), Nat.mod_mod_of_dvd]
  exact ⟨2, rfl⟩

theorem opcodeBytes (hcmd : cmd < 2 ^ 16) :
    (BitVec.ofNat 8 (cmd >>> 8)).toNat * 256 + (BitVec.ofNat 8 cmd).toNat = cmd := by
  rw [BitVec.toNat_ofNat, BitVec.toNat_ofNat, Nat.shiftRight_eq_div_pow]
  omega

theorem decodeHeader_twoByte (hcmd : cmd < 2 ^ 16) :
    decodeHeader (twoByteHeader size cmd) =
      if size / 256 % 256 < 0x80 then some (size % 65536, cmd) else none := by
  rw [twoByteHeader, decodeHeader, opcodeBytes hcmd, BitVec.toNat_ofNat, BitVec.toNat_ofNat,
    Nat.shiftRight_eq_div_pow]
  have hsize : size / 2 ^ 8 % 2 ^ 8 * 256 + size % 2 ^ 8 = size % 65536 := by omega
  rw [hsize]

theorem serverPktHeader_eq (hsize : size < 2 ^ 32) (hcmd : cmd < 2 ^ 16) :
    serverPktHeader size cmd =
      (if size > 0x7FFF then [BitVec.ofNat 8 (0x80 ||| (0xFF &&& (size >>> 16)))] else []) ++
        twoByteHeader size cmd := by
  rw [serverPktHeader, Nat.mod_eq_of_lt hsize, Nat.mod_eq_of_lt hcmd]
  rfl

/-- The large form tells twenty-three bits of the size. -/
theorem decodeHeader_large (hcmd : cmd < 2 ^ 16) :
    decodeHeader ([BitVec.ofNat 8 (0x80 ||| (0xFF &&& (size >>> 16)))] ++ twoByteHeader size cmd) =
      some (size % 2 ^ 23, cmd) := by
  have hmark := markedByte_toNat (size >>> 16)
  rw [twoByteHeader, List.singleton_append, decodeHeader, if_neg (by omega), opcodeBytes hcmd,
    hmark, BitVec.toNat_ofNat, BitVec.toNat_ofNat, Nat.shiftRight_eq_div_pow,
    Nat.shiftRight_eq_div_pow]
  have hsum : (0x80 + size / 2 ^ 16 % 0x80 - 0x80) * 65536 + size / 2 ^ 8 % 2 ^ 8 * 256 +
      size % 2 ^ 8 = size % 2 ^ 23 := by omega
  rw [hsum]

/-- The short form can tell what fits into fifteen bits. -/
theorem decodeHeader_twoByte_iff (hcmd : cmd < 2 ^ 16) :
    decodeHeader (twoByteHeader size cmd) = some (size, cmd) ↔ size ≤ 0x7FFF := by
  rw [decodeHeader_twoByte hcmd]
  split_ifs with hshort
  · rw [Option.some.injEq, Prod.mk.injEq, and_iff_left rfl]
    omega
  · refine iff_of_false nofun ?_
    omega

/-- The large form is used exactly for the sizes that the short form cannot tell. -/
theorem large_iff (hsize : size < 2 ^ 32) (hcmd : cmd < 2 ^ 16) :
    (serverPktHeader size cmd).length = 5 ↔
      decodeHeader (twoByteHeader size cmd) ≠ some (size, cmd) := by
  rw [Ne, decodeHeader_twoByte_iff hcmd, serverPktHeader_eq hsize hcmd]
  split_ifs with hlarge
  · exact iff_of_true rfl (by omega)
  · exact iff_of_false (by simp [twoByteHeader]) fun hnot => hnot (by omega)

/-- What a client reads from a header. -/
theorem decodeHeader_serverPktHeader (hsize : size < 2 ^ 32) (hcmd : cmd < 2 ^ 16) :
    decodeHeader (serverPktHeader size cmd) = some (size % 2 ^ 23, cmd) := by
  rw [serverPktHeader_eq hsize hcmd]
  split_ifs with hlarge
  · exact decodeHeader_large hcmd
  · rw [List.nil_append, (decodeHeader_twoByte_iff hcmd).mpr (by omega),
      Nat.mod_eq_of_lt (by omega)]

/-- Payloads that a buffer admits are told by the header up to twenty-three bits of the size. -/
theorem headerTells_iff {payload : Nat} (hpayload : payload < ByteBuffer.maxSize)
    (hcmd : cmd < 2 ^ 16) : HeaderTells (payload + 2) cmd ↔ payload + 2 < 2 ^ 23 := by
  have hsize : payload + 2 < 2 ^ 32 := by
    unfold ByteBuffer.maxSize at hpayload
    omega
  have hdecode := decodeHeader_serverPktHeader hsize hcmd
  constructor
  · intro htells
    have heq := hdecode.symm.trans htells.decodes
    rw [Option.some.injEq, Prod.mk.injEq] at heq
    omega
  · intro hlt
    rw [Nat.mod_eq_of_lt hlt] at hdecode
    exact ⟨hdecode, large_iff hsize hcmd⟩

/-- A payload of 40000 bytes has the large header. -/
theorem headerTells_largePacket : HeaderTells (40000 + 2) 0x1234 :=
  (headerTells_iff (by decide) (by decide)).mpr (by decide)

/-- The header of a payload of 8388606 bytes tells the size zero. -/
theorem largestPayloads_misread :
    ∃ payload cmd : Nat, payload < ByteBuffer.maxSize ∧ cmd < 2 ^ 16 ∧
      ¬ HeaderTells (payload + 2) cmd := by
  refine ⟨8388606, 0x1234, by decide, by decide, fun htells => ?_⟩
  have hzero : decodeHeader (serverPktHeader (8388606 + 2) 0x1234) = some (0, 0x1234) := by decide
  have heq := hzero.symm.trans htells.decodes
  cases heq

end Cataclysm
