import Cataclysm.Packets.PackedGuid
import Cataclysm.Packets.RoundTrip

/-!
# Cleared buffers

`clear()` empties the storage and puts the two byte cursors back. It leaves the
bit cursor and its accumulator as they are, and so does `WorldPacket::Initialize`,
which is how a packet is used again. A buffer whose bit cursor is idle behaves like
a new one afterwards; on every other buffer some script of writes tells the two
apart.

## Implementation notes

A script of writes is observed through the stored bytes, the reads behind it through
the values they return; an exception is observed with its arguments. The reserved
capacity of the storage is not observable. Values read are naturals, a string the
list of its characters.
-/

namespace Cataclysm
open BitString

namespace ByteBuffer

/-- `clear()`. -/
def clear (b : ByteBuffer) : ByteBuffer := { b with storage := [], rpos := 0, wpos := 0 }

/-- The loop of `operator>>(std::string&)`, which runs once for each byte that is
left at most. -/
def readStringLoop : Nat → List Byte → ByteBuffer → Except ByteBufferError (List Byte × ByteBuffer)
  | 0, value, b => return (value, b)
  | n + 1, value, b =>
    if b.rpos < b.size then do
      let (c, b) ← b.read 1
      if c = 0 then return (value, b)
      else readStringLoop n (value ++ [BitVec.ofNat 8 c]) b
    else return (value, b)

/-- `operator>>(std::string&)`. -/
def readCString (b : ByteBuffer) : Except ByteBufferError (List Byte × ByteBuffer) :=
  readStringLoop (b.size - b.rpos) [] b

/-- `ReadString(length)`. -/
def readString (b : ByteBuffer) (length : Nat) : Except ByteBufferError (List Byte × ByteBuffer) :=
  if length = 0 then return ([], b)
  else if b.rpos + length > b.size then .error (.positionException false b.rpos length b.size)
  else
    let bytes := (b.storage.drop b.rpos).take length
    return (bytes.takeWhile (· ≠ 0), { b with rpos := b.rpos + length })

end ByteBuffer

/-- A step of a write script. -/
inductive ScriptOp
  | write (op : WriteOp)
  | flushBits

def ScriptOp.run (b : ByteBuffer) : ScriptOp → Except ByteBufferError ByteBuffer
  | .write op => op.write b
  | .flushBits => b.flushBits

/-- A read operation with its arguments. -/
inductive ReadOp
  | scalar (t : ScalarType)
  | readBit
  | readBits (n : Nat)
  | readByteSeq (c : Byte)
  | packGUID
  | cString
  | string (length : Nat)

def ReadOp.read (b : ByteBuffer) : ReadOp → Except ByteBufferError (List Nat × ByteBuffer)
  | .scalar t => do
    let (value, b) ← b.readScalar t
    return ([value.toNat], b)
  | .readBit => do
    let (bit, b) ← b.readBit
    return ([bit.toNat], b)
  | .readBits n => do
    let (value, b) ← b.readBits n
    return ([value], b)
  | .readByteSeq c => do
    let (c, b) ← b.readByteSeq c
    return ([c.toNat], b)
  | .packGUID => do
    let (guid, b) ← b.readPackGUID
    return ([guid.toNat], b)
  | .cString => do
    let (value, b) ← b.readCString
    return (value.map BitVec.toNat, b)
  | .string length => do
    let (value, b) ← b.readString length
    return (value.map BitVec.toNat, b)

namespace ByteBuffer

/-- What a write script stores and what the reads behind it return. -/
def observe (b : ByteBuffer) (writes : List ScriptOp) (reads : List ReadOp) :
    Except ByteBufferError (List Byte × Except ByteBufferError (List (List Nat))) := do
  let b ← writes.foldlM ScriptOp.run b
  return (b.storage, (readAll ReadOp.read b reads).map Prod.fst)

/-- Two buffers that no script of writes followed by reads tells apart. -/
def Alike (b b' : ByteBuffer) : Prop :=
  ∀ writes reads, b.observe writes reads = b'.observe writes reads

/-- No bit is pending and no byte is half read. -/
def Idle (b : ByteBuffer) : Prop := b.bitpos = 8 ∧ b.curbitval = 0

instance (b : ByteBuffer) : Decidable b.Idle := inferInstanceAs (Decidable (_ ∧ _))

theorem clear_eq_fresh {b : ByteBuffer} (h : b.Idle) : b.clear = fresh := by
  obtain ⟨hbitpos, hcurbitval⟩ := h
  simp [clear, fresh, hbitpos, hcurbitval]

/-! ## Telling a busy bit cursor -/

theorem writeBits_zero_succ (b : ByteBuffer) (n : Nat) :
    b.writeBits 0 (n + 1) = b.writeBit 0 >>= fun b => b.writeBits 0 n := by
  simp [writeBits]

theorem writeBit_zero (b : ByteBuffer) (h : 1 < b.bitpos) :
    b.writeBit 0 = .ok { b with bitpos := b.bitpos - 1 } := by
  have hdec : decSize b.bitpos = b.bitpos - 1 := decSize_of_pos (by omega)
  have hne : b.bitpos - 1 ≠ 0 := by omega
  simp [writeBit, hdec, hne, pure, Except.pure]

/-- Clear bits that do not complete a byte only count the bit cursor down. -/
theorem writeBits_zero_of_lt (b : ByteBuffer) {n : Nat} (h : n < b.bitpos) :
    b.writeBits 0 n = .ok { b with bitpos := b.bitpos - n } := by
  induction n generalizing b with
  | zero => rfl
  | succ n ih =>
    have hrest := ih { b with bitpos := b.bitpos - 1 } (by simp only; omega)
    have hsub : b.bitpos - 1 - n = b.bitpos - (n + 1) := by omega
    rw [writeBits_zero_succ, writeBit_zero b (by omega), ← hsub]
    exact hrest

/-- Clear bits up to the end of the byte store the accumulator. -/
theorem writeBits_zero_full {b : ByteBuffer} (hend : b.wpos = b.storage.length)
    (hsize : b.storage.length < maxSize) {n : Nat} (hn : b.bitpos = n + 1) :
    ∃ b', b.writeBits 0 (n + 1) = .ok b' ∧ b'.storage = b.storage ++ [b.curbitval] := by
  induction n generalizing b with
  | zero =>
    have hdec : decSize b.bitpos = 0 := by simp [decSize, hn]
    have hne : [b.curbitval] ≠ [] := List.cons_ne_nil _ _
    have happend := append_at_end { b with bitpos := 8 } hend hne
    rw [if_pos hsize] at happend
    refine ⟨{ b with
      bitpos := 8
      curbitval := 0
      storage := b.storage ++ [b.curbitval]
      wpos := b.storage.length + 1 }, ?_, rfl⟩
    rw [writeBits_zero_succ]
    have hclear : ¬ (0 : BitVec 32) ≠ 0 := fun h => h rfl
    simp only [writeBit, hdec, if_neg hclear, if_true, happend, bind, Except.bind]
    rfl
  | succ n ih =>
    rw [writeBits_zero_succ, writeBit_zero b (by omega)]
    exact ih (b := { b with bitpos := b.bitpos - 1 }) hend hsize (by simp only; omega)

/-- Eight clear bits wrap a bit cursor that stands at zero. -/
theorem writeBits_zero_wraps {b : ByteBuffer} (h : b.bitpos = 0) :
    b.writeBits 0 8 = .ok { b with bitpos := 2 ^ 64 - 8 } := by
  have hdec : decSize b.bitpos = 2 ^ 64 - 1 := by simp [decSize, h]
  have hbit : b.writeBit 0 = .ok { b with bitpos := 2 ^ 64 - 1 } := by
    simp [writeBit, hdec, pure, Except.pure]
  rw [writeBits_zero_succ, hbit]
  exact writeBits_zero_of_lt { b with bitpos := 2 ^ 64 - 1 } (n := 7) (by simp only; omega)

/-- Buffers that are alike store the same bytes for a group of clear bits. -/
theorem Alike.storage_eq {b b' c c' : ByteBuffer} (h : Alike b b') {n : Nat}
    (hc : b.writeBits 0 n = .ok c) (hc' : b'.writeBits 0 n = .ok c') : c.storage = c'.storage := by
  have hobserve := h [.write (.writeBits 0 n)] []
  simp only [observe, List.foldlM_cons, List.foldlM_nil, ScriptOp.run, WriteOp.write, hc, hc',
    bind, Except.bind, pure, Except.pure, Except.ok.injEq, Prod.mk.injEq] at hobserve
  exact hobserve.1

/-- A cleared buffer is like a new one exactly when its bit cursor was idle. -/
theorem clear_alike_iff (b : ByteBuffer) : Alike b.clear fresh ↔ b.Idle := by
  constructor
  · intro h
    have hend : b.clear.wpos = b.clear.storage.length := rfl
    have hsize : b.clear.storage.length < maxSize := by simp [clear, maxSize]
    obtain ⟨c, hc, hstored⟩ := writeBits_zero_full (b := fresh) rfl (by simp [fresh, maxSize])
      (n := 7) rfl
    obtain hzero | ⟨n, hn⟩ : b.bitpos = 0 ∨ ∃ n, b.bitpos = n + 1 := by
      cases hbitpos : b.bitpos with
      | zero => exact Or.inl rfl
      | succ n => exact Or.inr ⟨n, rfl⟩
    · have heq := h.storage_eq (writeBits_zero_wraps (b := b.clear) hzero) hc
      rw [hstored] at heq
      simp [clear] at heq
    · obtain hlt | hle := Nat.lt_or_ge 7 n
      · have heq := h.storage_eq (writeBits_zero_of_lt b.clear (n := 8) (by
          change 8 < b.bitpos
          omega)) hc
        rw [hstored] at heq
        simp [clear] at heq
      · obtain ⟨c', hc', hstored'⟩ := writeBits_zero_full (b := b.clear) hend hsize hn
        obtain rfl | hlt := Nat.eq_or_lt_of_le hle
        · have heq := h.storage_eq hc' hc
          rw [hstored, hstored'] at heq
          simp only [clear, fresh, List.nil_append, List.cons.injEq, and_true] at heq
          exact ⟨hn, heq⟩
        · have heq := h.storage_eq hc' (writeBits_zero_of_lt fresh (n := n + 1) (by
            change n + 1 < 8
            omega))
          rw [hstored'] at heq
          simp [fresh] at heq
  · intro h writes reads
    rw [clear_eq_fresh h]

end ByteBuffer

/-- A packet is a buffer with an opcode. -/
structure WorldPacket extends ByteBuffer where
  opcode : Nat

namespace WorldPacket
open ByteBuffer

/-- `WorldPacket(opcode)`. -/
def ofOpcode (opcode : Nat) : WorldPacket := ⟨fresh, opcode⟩

/-- `Initialize(opcode)`. -/
def initializeTo (packet : WorldPacket) (opcode : Nat) : WorldPacket :=
  ⟨packet.toByteBuffer.clear, opcode⟩

end WorldPacket

/-- A buffer that is cleared, or a packet that is initialized again, is like a new
one exactly when its bit cursor was idle. -/
theorem reused_alike_iff (b : ByteBuffer) (packet : WorldPacket) (opcode : Nat) :
    (b.clear.Alike ByteBuffer.fresh ↔ b.Idle) ∧
      (packet.initializeTo opcode).opcode = (WorldPacket.ofOpcode opcode).opcode ∧
        ((packet.initializeTo opcode).toByteBuffer.Alike
            (WorldPacket.ofOpcode opcode).toByteBuffer ↔ packet.toByteBuffer.Idle) := by
  refine ⟨ByteBuffer.clear_alike_iff b, rfl, ?_⟩
  exact ByteBuffer.clear_alike_iff packet.toByteBuffer

/-- A set bit that was not flushed comes back in front of the first byte stored after
`clear()`. -/
theorem pendingBit_survivesClear :
    ∃ b, ByteBuffer.fresh.writeBit 1 = .ok b ∧
      b.clear.observe [.write (.scalar .uint8 7)] [.scalar .uint8] =
        .ok ([0x80#8, 7#8], .ok [[128]]) ∧
      ByteBuffer.fresh.observe [.write (.scalar .uint8 7)] [.scalar .uint8] =
        .ok ([7#8], .ok [[7]]) :=
  ⟨⟨0, 0, 7, 0x80#8, []⟩, by decide, by decide, by decide⟩

end Cataclysm
