import Cataclysm.Packets.Writer

/-!
# The order of stored bytes

The storage of a finished buffer should spell the write operations in call
order, every maximal run of bits padded to a byte boundary. `append<T>` flushes
the pending bits before it stores; `operator<<` of a non-empty string,
`WriteString`, `appendPackGUID` and `append(ByteBuffer const&)` hand their bytes
to the raw `append`, which does not. Their bytes are stored in front of bits that
were written earlier.

The order is kept exactly when no such operation meets pending bits.
-/

namespace Cataclysm
open BitString BlockStream ByteBuffer

/-- A write operation with its arguments. -/
inductive WriteOp
  | writeBit (bit : BitVec 32)
  | writeBits (value n : Nat)
  | scalar (t : ScalarType) (value : t.Value)
  | string (value : List Byte)
  | cString (str : Option CString)
  | writeString (str : List Byte)
  | packGUID (guid : BitVec 64)
  | buffer (other : ByteBuffer) (h : other.wpos ≤ other.storage.length)

/-- What decides where an operation stores: how many bits, or how many raw bytes. -/
inductive OpShape
  | writeBit
  | writeBits (n : Nat)
  | scalar (t : ScalarType)
  | string (length : Nat)
  | cString (length : Option Nat)
  | writeString (length : Nat)
  | packGUID
  | buffer (length : Nat)
  deriving DecidableEq

namespace WriteOp

def shape : WriteOp → OpShape
  | .writeBit _ => .writeBit
  | .writeBits _ n => .writeBits n
  | .scalar t _ => .scalar t
  | .string value => .string value.length
  | .cString str => .cString (str.map fun s => s.1.length)
  | .writeString str => .writeString str.length
  | .packGUID _ => .packGUID
  | .buffer other _ => .buffer other.wpos

def write (b : ByteBuffer) : WriteOp → Except ByteBufferError ByteBuffer
  | .writeBit bit => b.writeBit bit
  | .writeBits value n => b.writeBits value n
  | .scalar _ value => b.appendScalar value
  | .string value => b.appendString value
  | .cString str => b.appendCString str
  | .writeString str => b.writeString str
  | .packGUID guid => b.appendPackGUID guid
  | .buffer other _ => b.appendBuffer other

/-- The text of a C string, empty for the null pointer. -/
def text (str : Option CString) : List Byte := (str.map Subtype.val).getD []

/-- The encoding of an operation taken by itself. -/
def chunk : WriteOp → Chunk
  | .writeBit bit => .bits [decide (bit ≠ 0)]
  | .writeBits value n => .bits (bitsOfNat n value)
  | .scalar _ value => scalarChunk value
  | .string value => .bytes (value ++ [0])
  | .cString str => .bytes (text str ++ [0])
  | .writeString str => .bytes str
  | .packGUID guid => .bytes (ByteBuffer.packGUID guid)
  | .buffer other _ => .bytes (other.storage.take other.wpos)

end WriteOp

/-- A sequence of operations on a fresh buffer, ended by `FlushBits`. -/
def writeOps (ops : List WriteOp) : Except ByteBufferError ByteBuffer := do
  let b ← ops.foldlM WriteOp.write fresh
  b.flushBits

namespace OpShape

/-- The operation passes bytes to the raw `append` before anything is flushed. -/
def appendsRaw : OpShape → Bool
  | .writeBit | .writeBits _ | .scalar _ => false
  | .string length | .writeString length | .buffer length => length ≠ 0
  | .cString length => length.getD 0 ≠ 0
  | .packGUID => true

/-- The bits in the open run after the operation. -/
def pendingAfter (pending : Nat) : OpShape → Nat
  | .writeBit => pending + 1
  | .writeBits n => pending + n
  | .writeString length | .buffer length => if length = 0 then pending else 0
  | .scalar _ | .string _ | .cString _ | .packGUID => 0

/-- No operation passes bytes to the raw `append` while bits are pending. -/
def keepsOrder : Nat → List OpShape → Bool
  | _, [] => true
  | pending, op :: rest =>
    (!op.appendsRaw || pending % 8 = 0) && keepsOrder (op.pendingAfter pending) rest

/-- The most bytes an operation contributes by itself. -/
def maxBytes : OpShape → Nat
  | .writeBit | .writeBits _ => 0
  | .scalar t => t.size
  | .string length => length + 1
  | .cString length => length.getD 0 + 1
  | .writeString length | .buffer length => length
  | .packGUID => 9

/-- A bound on the bytes stored behind an open run. -/
def storedBound : Nat → List OpShape → Nat
  | pending, [] => (pending + 7) / 8
  | pending, op :: rest =>
    (if op.pendingAfter pending = 0 then (pending + 7) / 8 else 0) + op.maxBytes +
      storedBound (op.pendingAfter pending) rest

end OpShape

open OpShape (appendsRaw pendingAfter maxBytes keepsOrder storedBound)

theorem packGUIDLoop_length (n i : Nat) (guid : BitVec 64) (mask : Byte) (out : List Byte) :
    (packGUIDLoop n i guid mask out).length ≤ n + 1 + out.length := by
  induction n generalizing i guid mask out with
  | zero =>
    simp only [packGUIDLoop, List.length_cons]
    omega
  | succ n ih =>
    simp only [packGUIDLoop]
    split
    · simp only [List.length_cons]
      omega
    · split
      · have h := ih (i + 1) (guid >>> 8) (mask ||| (1#8 <<< i)) (out ++ [guid.setWidth 8])
        simp only [List.length_append, List.length_singleton] at h
        omega
      · have h := ih (i + 1) (guid >>> 8) mask out
        omega

theorem packGUIDLoop_ne_nil (n i : Nat) (guid : BitVec 64) (mask : Byte) (out : List Byte) :
    packGUIDLoop n i guid mask out ≠ [] := by
  induction n generalizing i guid mask out with
  | zero => simp [packGUIDLoop]
  | succ n ih =>
    simp only [packGUIDLoop]
    split
    · exact List.cons_ne_nil _ _
    · split
      · apply ih
      · apply ih

/-- The bytes that an operation passes to the raw `append` before any flush. -/
def WriteOp.raw : WriteOp → List Byte
  | .writeBit _ | .writeBits _ _ | .scalar _ _ => []
  | .string value => value
  | .cString str => text str
  | .writeString str => str
  | .packGUID guid => ByteBuffer.packGUID guid
  | .buffer other _ => other.storage.take other.wpos

theorem WriteOp.text_length (str : Option CString) :
    (text str).length = (str.map fun s => s.1.length).getD 0 := by
  cases str <;> rfl

theorem WriteOp.raw_ne_nil_iff (op : WriteOp) : op.raw ≠ [] ↔ op.shape.appendsRaw = true := by
  cases op with
  | writeBit bit => simp [raw, shape, appendsRaw]
  | writeBits value n => simp [raw, shape, appendsRaw]
  | scalar t value => simp [raw, shape, appendsRaw]
  | string value => simp [raw, shape, appendsRaw]
  | cString str =>
    simp only [raw, shape, appendsRaw, ← text_length]
    simp
  | writeString str => simp [raw, shape, appendsRaw]
  | packGUID guid =>
    simp only [raw, shape, appendsRaw, iff_true]
    exact packGUIDLoop_ne_nil 8 0 guid 0 []
  | buffer other h =>
    simp only [raw, shape, appendsRaw, ← List.length_pos_iff, List.length_take, Nat.min_eq_left h]
    simp [Nat.pos_iff_ne_zero]

theorem appendString_eq (b : ByteBuffer) (value : List Byte) :
    b.appendString value = b.writeString value >>= fun b => b.appendScalar (t := .uint8) 0 := by
  simp only [appendString, writeString]
  split <;> rfl

theorem appendCString_eq (b : ByteBuffer) (str : Option CString) :
    b.appendCString str = b.appendString (WriteOp.text str) := by
  cases str <;> rfl

/-- `WriteString` keeps the order when it stores nothing or no bit is pending. -/
theorem writeString_stores (s : Stream) {str : List Byte}
    (h : str ≠ [] → s.run.length % 8 = 0) :
    Stores ((writing s).writeString str) (absorb s (.bytes str)) := by
  by_cases hstr : str = []
  · subst hstr
    exact Stores.ok s
  · rw [writeString, if_pos hstr]
    exact append_stores s hstr (h hstr)

theorem appendString_stores (s : Stream) {value : List Byte}
    (h : value ≠ [] → s.run.length % 8 = 0) :
    Stores ((writing s).appendString value) (absorb s (.bytes (value ++ [0]))) := by
  rw [appendString_eq, ← absorb_absorb_bytes]
  apply (writeString_stores s h).bind _ (finish_length_le_absorb _ _)
  exact appendScalar_stores (absorb s (.bytes value)) (t := .uint8) 0

theorem appendBuffer_eq (b other : ByteBuffer) (h : other.wpos ≤ other.storage.length) :
    b.appendBuffer other = b.writeString (other.storage.take other.wpos) := by
  have hiff : other.wpos ≠ 0 ↔ other.storage.take other.wpos ≠ [] := by
    rw [← List.length_pos_iff, List.length_take, Nat.min_eq_left h, Nat.pos_iff_ne_zero]
  simp only [appendBuffer, writeString, hiff]

namespace WriteOp

/-- An operation that passes nothing raw, or meets no pending bit, stores its encoding. -/
theorem write_stores (s : Stream) (op : WriteOp) (h : op.raw ≠ [] → s.run.length % 8 = 0) :
    Stores (op.write (writing s)) (absorb s op.chunk) := by
  cases op with
  | writeBit bit => exact writeBit_stores s bit
  | writeBits value n => exact writeBits_stores s value n
  | scalar t value => exact appendScalar_stores s value
  | string value => exact appendString_stores s h
  | cString str =>
    rw [write, appendCString_eq]
    exact appendString_stores s h
  | writeString str => exact writeString_stores s h
  | packGUID guid =>
    have hne := packGUIDLoop_ne_nil 8 0 guid 0 []
    exact append_stores s hne (h hne)
  | buffer other hwpos =>
    rw [write, appendBuffer_eq _ _ hwpos]
    exact writeString_stores s h

/-- The bits pending after an operation. -/
theorem absorb_run_length (s : Stream) (op : WriteOp) :
    (absorb s op.chunk).run.length = op.shape.pendingAfter s.run.length := by
  cases op with
  | writeBit bit => simp [chunk, absorb, shape, pendingAfter]
  | writeBits value n => simp [chunk, absorb, shape, pendingAfter]
  | scalar t value =>
    simp [chunk, scalarChunk, absorb, shape, pendingAfter, leBytes_scalar_ne_nil]
  | string value => simp [chunk, absorb, shape, pendingAfter]
  | cString str => simp [chunk, absorb, shape, pendingAfter]
  | writeString str =>
    simp only [chunk, absorb, shape, pendingAfter, List.length_eq_zero_iff]
    split <;> rfl
  | packGUID guid =>
    have hne : ByteBuffer.packGUID guid ≠ [] := packGUIDLoop_ne_nil 8 0 guid 0 []
    simp [chunk, absorb, shape, pendingAfter, hne]
  | buffer other h =>
    have hiff : other.storage.take other.wpos = [] ↔ other.wpos = 0 := by
      rw [← List.length_eq_zero_iff, List.length_take, Nat.min_eq_left h]
    simp only [chunk, absorb, shape, pendingAfter, hiff]
    split <;> rfl

theorem chunk_maxBytes (op : WriteOp) {cs : List Byte} (h : op.chunk = .bytes cs) :
    cs.length ≤ op.shape.maxBytes := by
  cases op with
  | writeBit bit => cases h
  | writeBits value n => cases h
  | scalar t value =>
    cases h
    simp [shape, maxBytes]
  | string value =>
    cases h
    simp [shape, maxBytes]
  | cString str =>
    cases h
    simp [shape, maxBytes, text_length]
  | writeString str =>
    cases h
    simp [shape, maxBytes]
  | packGUID guid =>
    cases h
    exact packGUIDLoop_length 8 0 guid 0 []
  | buffer other hwpos =>
    cases h
    simp [shape, maxBytes]

/-- What an operation closes stays within its bound. -/
theorem absorb_closed_length (s : Stream) (op : WriteOp) :
    (absorb s op.chunk).closed.length ≤ s.closed.length +
      ((if op.shape.pendingAfter s.run.length = 0 then (s.run.length + 7) / 8 else 0) +
        op.shape.maxBytes) := by
  have hrun := absorb_run_length s op
  cases hchunk : op.chunk with
  | bits bs => exact Nat.le_add_right _ _
  | bytes cs =>
    have hcs := op.chunk_maxBytes hchunk
    rw [hchunk] at hrun
    by_cases hnil : cs = []
    · simp only [absorb, if_pos hnil]
      exact Nat.le_add_right _ _
    · rw [← hrun]
      simp only [absorb, if_neg hnil, List.length_append, List.length_nil, if_true,
        packBits_length]
      omega

end WriteOp

/-- The finished stream stays within the bound of its shape. -/
theorem finish_foldl_le_storedBound (s : Stream) (ops : List WriteOp) :
    (finish ((ops.map WriteOp.chunk).foldl absorb s)).length ≤
      s.closed.length + storedBound s.run.length (ops.map WriteOp.shape) := by
  induction ops generalizing s with
  | nil => simp [finish, storedBound, packBits_length]
  | cons op rest ih =>
    have hrest := ih (absorb s op.chunk)
    have hop := op.absorb_closed_length s
    rw [op.absorb_run_length s] at hrest
    simp only [List.map_cons, List.foldl_cons, storedBound]
    omega

/-- A sequence that keeps the order stores its chunks in order. -/
theorem keepsOrder_stores (s : Stream) (ops : List WriteOp)
    (h : keepsOrder s.run.length (ops.map WriteOp.shape) = true) :
    Stores (ops.foldlM WriteOp.write (writing s)) ((ops.map WriteOp.chunk).foldl absorb s) := by
  induction ops generalizing s with
  | nil => exact Stores.ok s
  | cons op rest ih =>
    simp only [List.map_cons, keepsOrder, Bool.and_eq_true, Bool.or_eq_true,
      Bool.not_eq_true', decide_eq_true_eq] at h
    have hraw : op.raw ≠ [] → s.run.length % 8 = 0 := by
      intro hne
      have happends := op.raw_ne_nil_iff.mp hne
      rcases h.1 with hnot | haligned
      · rw [happends] at hnot
        cases hnot
      · exact haligned
    rw [List.foldlM_cons, List.map_cons, List.foldl_cons]
    apply (op.write_stores s hraw).bind _ (finish_length_le_foldl _ _)
    apply ih
    rw [op.absorb_run_length s]
    exact h.2

/-- The buffer's write cursor is at the end of its storage. -/
def AtEnd (b : ByteBuffer) : Prop := b.wpos = b.storage.length

/-- A write only ever adds to the end of what is stored. -/
def Extends (b : ByteBuffer) (r : Except ByteBufferError ByteBuffer) : Prop :=
  ∀ b', r = .ok b' → AtEnd b' ∧ b.storage <+: b'.storage

namespace Extends

variable {b : ByteBuffer}

theorem refl (h : AtEnd b) : Extends b (.ok b) := by
  rintro b' ⟨⟩
  exact ⟨h, List.prefix_rfl⟩

theorem bind {r : Except ByteBufferError ByteBuffer}
    {f : ByteBuffer → Except ByteBufferError ByteBuffer} (h : Extends b r)
    (hf : ∀ b', AtEnd b' → Extends b' (f b')) : Extends b (r >>= f) := by
  intro b' hb'
  rcases r with e | b₁
  · cases hb'
  · obtain ⟨hend, hpre⟩ := h b₁ rfl
    obtain ⟨hend', hpre'⟩ := hf b₁ hend b' hb'
    exact ⟨hend', hpre.trans hpre'⟩

theorem append (h : AtEnd b) (src : List Byte) : Extends b (b.append src) := by
  by_cases hsrc : src = []
  · subst hsrc
    rintro b' ⟨⟩
  · rw [append_at_end b h hsrc]
    split
    · rintro b' ⟨⟩
      exact ⟨by simp [AtEnd], List.prefix_append _ _⟩
    · rintro b' ⟨⟩

theorem writeBit (h : AtEnd b) (bit : BitVec 32) : Extends b (b.writeBit bit) := by
  rw [ByteBuffer.writeBit]
  split
  · intro b' hb'
    have happend := append (b := { b with
      bitpos := 8
      curbitval := if bit ≠ 0 then b.curbitval ||| (1#8 <<< decSize b.bitpos) else b.curbitval })
      h [if bit ≠ 0 then b.curbitval ||| (1#8 <<< decSize b.bitpos) else b.curbitval]
    apply happend.bind (f := fun b => .ok { b with curbitval := 0 }) _ b' hb'
    rintro b₁ h₁ b₂ ⟨⟩
    exact ⟨h₁, List.prefix_rfl⟩
  · rintro b' ⟨⟩
    exact ⟨h, List.prefix_rfl⟩

theorem writeBits (h : AtEnd b) (value n : Nat) : Extends b (b.writeBits value n) := by
  induction n generalizing b with
  | zero => exact refl h
  | succ n ih => exact (writeBit h _).bind fun b' h' => ih h'

theorem flushBits (h : AtEnd b) : Extends b b.flushBits := by
  rw [ByteBuffer.flushBits]
  split
  · exact refl h
  · apply (append h _).bind
    rintro b₁ h₁ b₂ ⟨⟩
    exact ⟨h₁, List.prefix_rfl⟩

theorem appendScalar (h : AtEnd b) {t : ScalarType} (value : t.Value) :
    Extends b (b.appendScalar value) :=
  (flushBits h).bind fun _ h' => append h' _

theorem writeString (h : AtEnd b) (str : List Byte) : Extends b (b.writeString str) := by
  rw [ByteBuffer.writeString]
  split
  · exact append h str
  · exact refl h

theorem appendString (h : AtEnd b) (value : List Byte) : Extends b (b.appendString value) := by
  rw [appendString_eq]
  exact (writeString h value).bind fun _ h' => appendScalar h' _

theorem write (h : AtEnd b) (op : WriteOp) : Extends b (op.write b) := by
  cases op with
  | writeBit bit => exact writeBit h bit
  | writeBits value n => exact writeBits h value n
  | scalar t value => exact appendScalar h value
  | string value => exact appendString h value
  | cString str =>
    rw [WriteOp.write, appendCString_eq]
    exact appendString h _
  | writeString str => exact writeString h str
  | packGUID guid => exact append h _
  | buffer other hwpos =>
    rw [WriteOp.write, appendBuffer_eq _ _ hwpos]
    exact writeString h _

theorem foldlM (h : AtEnd b) (ops : List WriteOp) : Extends b (ops.foldlM WriteOp.write b) := by
  induction ops generalizing b with
  | nil => exact refl h
  | cons op rest ih =>
    rw [List.foldlM_cons]
    exact (write h op).bind fun b' h' => ih h'

end Extends

theorem writing_atEnd (s : Stream) : AtEnd (writing s) := rfl

/-- An operation with raw bytes appends them first. -/
theorem WriteOp.write_eq_append (op : WriteOp) (h : op.raw ≠ []) (b : ByteBuffer) :
    ∃ f, op.write b = b.append op.raw >>= f ∧ ∀ b', AtEnd b' → Extends b' (f b') := by
  have hstring : ∀ value : List Byte, value ≠ [] →
      b.appendString value = b.append value >>= fun b => b.appendScalar (t := .uint8) 0 := by
    intro value hvalue
    rw [appendString_eq, ByteBuffer.writeString, if_pos hvalue]
  have hpure : ∀ r : Except ByteBufferError ByteBuffer, r = r >>= fun b => .ok b := by
    intro r
    cases r <;> rfl
  have hwrite : ∀ str : List Byte, str ≠ [] →
      b.writeString str = b.append str >>= fun b => .ok b := by
    intro str hstr
    rw [ByteBuffer.writeString, if_pos hstr]
    exact hpure _
  cases op with
  | writeBit bit => exact absurd rfl h
  | writeBits value n => exact absurd rfl h
  | scalar t value => exact absurd rfl h
  | string value => exact ⟨_, hstring value h, fun _ h' => Extends.appendScalar h' _⟩
  | cString str =>
    refine ⟨_, ?_, fun _ h' => Extends.appendScalar (t := .uint8) h' 0⟩
    rw [write, appendCString_eq]
    exact hstring _ h
  | writeString str => exact ⟨_, hwrite str h, fun _ h' => Extends.refl h'⟩
  | packGUID guid => exact ⟨fun b => .ok b, hpure _, fun _ h' => Extends.refl h'⟩
  | buffer other hwpos =>
    refine ⟨fun b => .ok b, ?_, fun _ h' => Extends.refl h'⟩
    rw [write, appendBuffer_eq _ _ hwpos]
    exact hwrite _ h

/-- The raw bytes of an operation stand directly behind what was stored before. -/
theorem WriteOp.write_raw_prefix {op : WriteOp} (h : op.raw ≠ []) {b b' : ByteBuffer}
    (hend : AtEnd b) (hb' : op.write b = .ok b') : b.storage ++ op.raw <+: b'.storage := by
  obtain ⟨f, heq, hf⟩ := op.write_eq_append h b
  rw [heq, append_at_end b hend h] at hb'
  split at hb'
  · refine (hf { b with
      storage := b.storage ++ op.raw
      wpos := b.storage.length + op.raw.length } ?_ b' hb').2
    simp [AtEnd]
  · cases hb'

theorem WriteOp.chunk_of_raw {op : WriteOp} (h : op.raw ≠ []) :
    ∃ cs, cs ≠ [] ∧ op.chunk = .bytes cs := by
  cases op with
  | writeBit bit => exact absurd rfl h
  | writeBits value n => exact absurd rfl h
  | scalar t value => exact absurd rfl h
  | string value => exact ⟨_, by simp, rfl⟩
  | cString str => exact ⟨_, by simp, rfl⟩
  | writeString str => exact ⟨_, h, rfl⟩
  | packGUID guid => exact ⟨_, h, rfl⟩
  | buffer other hwpos => exact ⟨_, h, rfl⟩

/-- An operation of the given shape whose raw bytes are all ones. -/
def OpShape.saturated : OpShape → WriteOp
  | .writeBit => .writeBit 0
  | .writeBits n => .writeBits 0 n
  | .scalar t => .scalar t 0
  | .string length => .string (List.replicate length 0xFF#8)
  | .cString length => .cString (length.map fun n => ⟨List.replicate n 0xFF#8, by
      intro c hc
      rw [List.eq_of_mem_replicate hc]
      decide⟩)
  | .writeString length => .writeString (List.replicate length 0xFF#8)
  | .packGUID => .packGUID (BitVec.allOnes 64)
  | .buffer length => .buffer ⟨0, length, 8, 0, List.replicate length 0xFF#8⟩ (by simp)

theorem OpShape.saturated_shape (op : OpShape) : op.saturated.shape = op := by
  cases op with
  | cString length =>
    cases length with
    | none => rfl
    | some n => exact congrArg (fun k => cString (some k)) List.length_replicate
  | _ => simp [saturated, WriteOp.shape]

@[simp] theorem OpShape.map_saturated_shape (shape : List OpShape) :
    (shape.map saturated).map WriteOp.shape = shape := by
  simp [Function.comp_def, saturated_shape]

theorem OpShape.saturated_raw (op : OpShape) {c : Byte} (h : c ∈ op.saturated.raw) :
    c = 0xFF#8 := by
  cases op with
  | writeBit => cases h
  | writeBits n => cases h
  | scalar t => cases h
  | string length => exact List.eq_of_mem_replicate h
  | cString length =>
    cases length with
    | none => cases h
    | some n => exact List.eq_of_mem_replicate h
  | writeString length => exact List.eq_of_mem_replicate h
  | packGUID =>
    have hraw : (saturated .packGUID).raw = List.replicate 9 0xFF#8 := by decide
    rw [hraw] at h
    exact List.eq_of_mem_replicate h
  | buffer length => exact List.eq_of_mem_replicate (List.mem_of_mem_take h)

/-- The last bit of a padded byte is clear. -/
theorem packByte_ne_ones {loose : List Bool} (h : loose.length < 8) : packByte loose ≠ 0xFF#8 := by
  intro heq
  have hbit := packByte_getMsbD loose (i := 7) (by omega)
  rw [heq, List.getD_eq_getElem?_getD, List.getElem?_eq_none (by omega)] at hbit
  cases hbit

/-- A raw byte of ones in front of pending bits is out of order. -/
theorem overtaken {s : Stream} {cs final : List Byte} {rest : List Chunk}
    (hpending : s.run.length % 8 ≠ 0) (hcs : cs ≠ [])
    (hfinal : (writing s).storage ++ [0xFF#8] <+: final) :
    final ≠ finish ((.bytes cs :: rest).foldl absorb s) := by
  have hloose : (fill s.run).2 ≠ [] := mt (fill_loose_eq_nil_iff s.run).mp hpending
  have hexpected : (writing s).storage ++ [packByte (fill s.run).2] <+:
      finish ((.bytes cs :: rest).foldl absorb s) := by
    refine ⟨cs ++ encode [] rest, ?_⟩
    rw [finish_foldl_absorb, encode_bytes _ hcs]
    simp [packBits, closeByte, hloose]
  rintro rfl
  have heq := (List.prefix_of_prefix_length_le hfinal hexpected (by simp)).eq_of_length (by simp)
  have hbyte := List.append_cancel_left heq
  apply packByte_ne_ones (fill_loose_lt s.run)
  exact (List.head_eq_of_cons_eq hbyte).symm

/-- Once raw bytes met pending bits, no continuation restores the order. -/
theorem saturated_overtakes (s : Stream) (shape : List OpShape)
    (h : keepsOrder s.run.length shape = false) {b : ByteBuffer} {final : List Byte}
    (hb : (shape.map OpShape.saturated).foldlM WriteOp.write (writing s) = .ok b)
    (hfinal : b.storage <+: final) :
    final ≠ finish (((shape.map OpShape.saturated).map WriteOp.chunk).foldl absorb s) := by
  induction shape generalizing s with
  | nil => cases h
  | cons op rest ih =>
    rw [List.map_cons, List.foldlM_cons] at hb
    obtain ⟨b₁, hop, hrest⟩ : ∃ b₁, op.saturated.write (writing s) = .ok b₁ ∧
        (rest.map OpShape.saturated).foldlM WriteOp.write b₁ = .ok b := by
      rcases hop : op.saturated.write (writing s) with e | b₁
      · rw [hop] at hb
        cases hb
      · rw [hop] at hb
        exact ⟨b₁, rfl, hb⟩
    have hend := (Extends.write (writing_atEnd s) op.saturated b₁ hop).1
    have hgrows := (Extends.foldlM hend _ b hrest).2.trans hfinal
    by_cases hgood : op.saturated.raw ≠ [] → s.run.length % 8 = 0
    · have heq := (op.saturated.write_stores s hgood).eq_of_ok hop
      rw [heq] at hrest
      apply ih (absorb s op.saturated.chunk) _ hrest
      rw [WriteOp.absorb_run_length, OpShape.saturated_shape]
      rw [WriteOp.raw_ne_nil_iff, OpShape.saturated_shape] at hgood
      simp only [keepsOrder, Bool.and_eq_false_iff, Bool.or_eq_false_iff, Bool.not_eq_false',
        decide_eq_false_iff_not] at h
      rcases h with ⟨hraw, hpending⟩ | h
      · exact absurd (hgood hraw) hpending
      · exact h
    · obtain ⟨hraw, hpending⟩ := Classical.not_imp.mp hgood
      obtain ⟨cs, hcs, hchunk⟩ := WriteOp.chunk_of_raw hraw
      rw [List.map_cons, List.map_cons, hchunk]
      apply overtaken hpending hcs
      have hpre := (WriteOp.write_raw_prefix hraw (writing_atEnd s) hop).trans hgrows
      obtain ⟨c, tail, hcons⟩ := List.exists_cons_of_ne_nil hraw
      have hc : c = 0xFF#8 := op.saturated_raw (by rw [hcons]; exact List.mem_cons_self ..)
      rw [hcons, hc] at hpre
      exact List.IsPrefix.trans ⟨tail, by simp⟩ hpre

/-- Every sequence of operations of a shape is stored in call order exactly when no
operation of the shape passes raw bytes while bits are pending. -/
theorem storage_eq_encode_iff (shape : List OpShape) (hsize : storedBound 0 shape ≤ maxSize) :
    (∀ ops : List WriteOp, ops.map WriteOp.shape = shape →
        ∃ b, writeOps ops = .ok b ∧ b.storage = encode [] (ops.map WriteOp.chunk)) ↔
      keepsOrder 0 shape = true := by
  constructor
  · intro h
    by_contra hbad
    obtain ⟨b, hb, hstorage⟩ := h _ (OpShape.map_saturated_shape shape)
    rcases hops : (shape.map OpShape.saturated).foldlM WriteOp.write fresh with e | b₁
    · simp only [writeOps, hops, bind, Except.bind] at hb
      cases hb
    · have hflush : b₁.flushBits = .ok b := by
        rw [writeOps, hops] at hb
        exact hb
      have hend := (Extends.foldlM (writing_atEnd ⟨[], []⟩) _ b₁ hops).1
      have hpre := (Extends.flushBits hend b hflush).2
      apply saturated_overtakes ⟨[], []⟩ shape (by simpa using hbad) hops hpre
      rw [finish_foldl_absorb]
      exact hstorage
  · rintro hkeeps ops rfl
    have hops := keepsOrder_stores ⟨[], []⟩ ops hkeeps
    have hflush := flushBits_stores ((ops.map WriteOp.chunk).foldl absorb ⟨[], []⟩)
    have hstores := hops.bind hflush (by simp [finish])
    have hbound := finish_foldl_le_storedBound ⟨[], []⟩ ops
    refine ⟨_, hstores.2 ?_, ?_⟩
    · simp only [finish, packBits_nil, List.append_nil, List.length_nil, Nat.zero_add] at hbound ⊢
      exact hbound.trans hsize
    · rw [writing_storage, finish_foldl_absorb]
      simp

/-- Eight flags, a name and a guid are stored in call order. -/
theorem storage_eq_encode_flags :
    ∃ b, writeOps [.writeBits 0xA5 8, .string [0x41#8, 0x42#8], .packGUID 0x0100#64,
        .writeBit 1, .scalar .uint32 7] = .ok b ∧
      b.storage = encode [] ([.writeBits 0xA5 8, .string [0x41#8, 0x42#8], .packGUID 0x0100#64,
        .writeBit 1, .scalar .uint32 7].map WriteOp.chunk) :=
  (storage_eq_encode_iff [.writeBits 8, .string 2, .packGUID, .writeBit, .scalar .uint32]
    (by decide)).mpr (by decide) _ rfl

/-- A set bit followed by `WriteString("A")` is stored behind the text. -/
theorem writeString_overtakes_bit :
    (∃ b, writeOps [.writeBit 1, .writeString [0x41#8]] = .ok b ∧ b.storage = [0x41#8, 0x80#8]) ∧
      encode [] ([.writeBit 1, .writeString [0x41#8]].map WriteOp.chunk) = [0x80#8, 0x41#8] :=
  ⟨⟨⟨0, 2, 8, 0, [0x41#8, 0x80#8]⟩, by decide, rfl⟩, by decide⟩

end Cataclysm
