import Cataclysm.Packets.Writer
import Cataclysm.Packets.Reader

/-!
# Round trips through the packet buffer

A script lists what is written; its shape is what the reader knows. The writer
half ends in the encoding of the script's chunks, the reader half walks the same
encoding, and the two meet there.

Bits first and bytes after them always come back. An arbitrary alternation does
not: `append<T>` pads the open run to a byte boundary, while `read<T>` leaves the
padding bits in the accumulator, where the next `ReadBit` finds them.

## Implementation notes

Values read back are naturals: the number returned by `ReadBits`, or the bit
pattern of a scalar.
-/

namespace Cataclysm
open BitString BlockStream ByteBuffer

/-- How a group of bits is transferred. -/
inductive BitField
  | bit
  | bits (width : Fin 33)
  deriving DecidableEq

def BitField.width : BitField → Nat
  | .bit => 1
  | .bits width => width

/-- A group of bits with a value that fits it. -/
structure BitItem where
  field : BitField
  value : Nat
  lt : value < 2 ^ field.width

namespace BitItem

def toBits (item : BitItem) : List Bool := bitsOfNat item.field.width item.value

@[simp] theorem toBits_length (item : BitItem) : item.toBits.length = item.field.width := by
  simp [toBits]

theorem toBits_eq_nil (item : BitItem) (h : item.field.width = 0) : item.toBits = [] :=
  List.eq_nil_of_length_eq_zero (by simp [h])

theorem natOfBits_toBits (item : BitItem) : natOfBits item.toBits = item.value :=
  natOfBits_bitsOfNat item.lt

/-- `WriteBit` or `WriteBits`. -/
def write (b : ByteBuffer) (item : BitItem) : Except ByteBufferError ByteBuffer :=
  match item.field with
  | .bit => b.writeBit (BitVec.ofNat 32 item.value)
  | .bits width => b.writeBits item.value width

theorem write_stores (s : Stream) (item : BitItem) :
    Stores (item.write (writing s)) (absorb s (.bits item.toBits)) := by
  obtain ⟨field, value, hlt⟩ := item
  cases field with
  | bit =>
    have h := writeBit_stores s (BitVec.ofNat 32 value)
    have hvalue : value = 0 ∨ value = 1 := by
      simp only [BitField.width] at hlt
      omega
    have hbits : [decide (BitVec.ofNat 32 value ≠ 0)] = bitsOfNat 1 value := by
      rcases hvalue with rfl | rfl <;> decide
    rw [hbits] at h
    exact h
  | bits width => exact writeBits_stores s value width

end BitItem

namespace BitField

/-- `ReadBit` or `ReadBits`. -/
def read (b : ByteBuffer) : BitField → Except ByteBufferError (Nat × ByteBuffer)
  | .bit => do
    let (x, b) ← b.readBit
    return (x.toNat, b)
  | .bits width => b.readBits width

/-- Reading a group of bits takes as many bits as it is wide. -/
theorem read_reads {storage : List Byte} {b : ByteBuffer} {loose : List Bool}
    {rest : List Byte} {field : BitField} {bits tail : List Bool}
    (h : Reading storage b loose rest) (hbits : bits.length = field.width)
    (hs : loose ++ unpack rest = bits ++ tail) :
    ∃ b' loose' rest', field.read b = .ok (natOfBits bits, b') ∧
      Reading storage b' loose' rest' ∧ loose' ++ unpack rest' = tail := by
  cases field with
  | bit =>
    obtain ⟨x, rfl⟩ := List.length_eq_one_iff.mp hbits
    obtain ⟨b', loose', rest', hread, h', hs'⟩ := readBit_reads h hs
    refine ⟨b', loose', rest', ?_, h', hs'⟩
    simp only [read, hread]
    cases x <;> rfl
  | bits width =>
    obtain ⟨b', loose', rest', hread, h', hs'⟩ := readBits_reads h hs
    refine ⟨b', loose', rest', ?_, h', hs'⟩
    rw [hbits] at hread
    exact hread

end BitField

variable {storage : List Byte} {b : ByteBuffer} {loose : List Bool}

/-- Read one field after the other. -/
def readAll {α β : Type} (read : ByteBuffer → α → Except ByteBufferError (β × ByteBuffer)) :
    ByteBuffer → List α → Except ByteBufferError (List β × ByteBuffer)
  | b, [] => return ([], b)
  | b, field :: rest => do
    let (value, b) ← read b field
    let (values, b) ← readAll read b rest
    return (value :: values, b)

theorem readAll_cons_ok {α β : Type}
    {read : ByteBuffer → α → Except ByteBufferError (β × ByteBuffer)} {b' : ByteBuffer}
    {field : α} {value : β} {rest : List α} {values : List β} :
    readAll read b (field :: rest) = .ok (value :: values, b') ↔
      ∃ b₁, read b field = .ok (value, b₁) ∧ readAll read b₁ rest = .ok (values, b') := by
  simp only [readAll, bind, Except.bind]
  rcases read b field with e | ⟨v, b₁⟩
  · simp
  · simp only [Except.ok.injEq, Prod.mk.injEq]
    rcases hrest : readAll read b₁ rest with e | ⟨vs, b₂⟩
    · constructor
      · rintro ⟨⟩
      · rintro ⟨_, ⟨_, rfl⟩, h⟩
        rw [hrest] at h
        cases h
    · constructor
      · rintro ⟨⟩
        exact ⟨b₁, ⟨rfl, rfl⟩, hrest⟩
      · rintro ⟨_, ⟨rfl, rfl⟩, h⟩
        rw [hrest] at h
        cases h
        rfl

/-- The bits of a list of groups. -/
def bitString (items : List BitItem) : List Bool := items.flatMap BitItem.toBits

/-- Writing groups of bits leaves one open run. -/
theorem absorb_bitItems (s : Stream) (items : List BitItem) :
    (items.map fun item => Chunk.bits item.toBits).foldl absorb s =
      ⟨s.closed, s.run ++ bitString items⟩ := by
  induction items generalizing s with
  | nil => simp [bitString]
  | cons item rest ih =>
    rw [List.map_cons, List.foldl_cons, ih]
    simp [absorb, bitString]

/-- Reading groups of bits walks along the run. -/
theorem readAll_bits_reads {rest : List Byte} {items : List BitItem} {tail : List Bool}
    (h : Reading storage b loose rest) (hs : loose ++ unpack rest = bitString items ++ tail) :
    ∃ b' loose' rest',
      readAll BitField.read b (items.map BitItem.field) =
        .ok (items.map BitItem.value, b') ∧
      Reading storage b' loose' rest' ∧ loose' ++ unpack rest' = tail := by
  induction items generalizing b loose rest with
  | nil => exact ⟨b, loose, rest, rfl, h, hs⟩
  | cons item items ih =>
    have hs₁ : loose ++ unpack rest = item.toBits ++ (bitString items ++ tail) := by
      rw [hs]
      simp [bitString]
    obtain ⟨b₁, loose₁, rest₁, hread, h₁, hs₁⟩ := BitField.read_reads h item.toBits_length hs₁
    obtain ⟨b', loose', rest', hrest, h', hs'⟩ := ih h₁ hs₁
    refine ⟨b', loose', rest', ?_, h', hs'⟩
    rw [item.natOfBits_toBits] at hread
    exact readAll_cons_ok.mpr ⟨b₁, hread, hrest⟩

/-- What the byte phase of a two-phase packet transfers. -/
inductive ByteItem
  | scalar (t : ScalarType) (value : t.Value)
  | byteSeq (presence : Nat) (c : Byte)
  deriving DecidableEq

/-- What the reader of the byte phase knows: a byte sequence names the position
of its presence bit. -/
inductive ByteField
  | scalar (t : ScalarType)
  | byteSeq (presence : Nat)
  deriving DecidableEq

namespace ByteItem

def field : ByteItem → ByteField
  | .scalar t _ => .scalar t
  | .byteSeq presence _ => .byteSeq presence

def chunk : ByteItem → Chunk
  | .scalar _ value => scalarChunk value
  | .byteSeq _ c => byteSeqChunk c

def bytes : ByteItem → List Byte
  | .scalar t value => leBytes t.size value.toNat
  | .byteSeq _ c => if c ≠ 0 then [c ^^^ 1#8] else []

theorem chunk_eq (item : ByteItem) : item.chunk = .bytes item.bytes := by
  cases item <;> rfl

/-- `append<T>` or `WriteByteSeq`. -/
def write (b : ByteBuffer) : ByteItem → Except ByteBufferError ByteBuffer
  | .scalar _ value => b.appendScalar value
  | .byteSeq _ c => b.writeByteSeq c

theorem write_stores (s : Stream) (item : ByteItem) :
    Stores (item.write (writing s)) (absorb s item.chunk) := by
  cases item with
  | scalar t value => exact appendScalar_stores s value
  | byteSeq presence c => exact writeByteSeq_stores s c

end ByteItem

/-- `read<T>` or `ReadByteSeq`, which starts from the presence bit read before. -/
def ByteField.read (bits : List Bool) (b : ByteBuffer) :
    ByteField → Except ByteBufferError (ByteItem × ByteBuffer)
  | .scalar t => do
    let (value, b) ← b.readScalar t
    return (.scalar t value, b)
  | .byteSeq presence => do
    let (c, b) ← b.readByteSeq (if bits.getD presence false then 1 else 0)
    return (.byteSeq presence c, b)

/-- The presence bit of a byte sequence tells whether its byte is stored. -/
def ByteItem.Announced (bits : List Bool) : ByteItem → Prop
  | .scalar _ _ => True
  | .byteSeq presence c => bits[presence]? = some (decide (c ≠ 0))

/-- A packet of bits, then bytes. -/
structure TwoPhase where
  bits : List BitItem
  bytes : List ByteItem
  announced : ∀ item ∈ bytes, item.Announced (bitString bits)

namespace TwoPhase

def write (script : TwoPhase) : Except ByteBufferError ByteBuffer := do
  let b ← script.bits.foldlM BitItem.write fresh
  let b ← b.flushBits
  script.bytes.foldlM ByteItem.write b

/-- The bytes that the script stores. -/
def encoded (script : TwoPhase) : List Byte :=
  packBits (bitString script.bits) ++ script.bytes.flatMap ByteItem.bytes

/-- The bits behind the values read for a list of bit fields. -/
def bitsRead (fields : List BitField) (values : List Nat) : List Bool :=
  (fields.zip values).flatMap fun r => bitsOfNat r.1.width r.2

/-- Read the shape of a script. -/
def read (bits : List BitField) (bytes : List ByteField) (b : ByteBuffer) :
    Except ByteBufferError (List Nat × List ByteItem × ByteBuffer) := do
  let (values, b) ← readAll BitField.read b bits
  let (items, b) ← readAll (ByteField.read (bitsRead bits values)) b bytes
  return (values, items, b)

theorem bitsRead_eq (items : List BitItem) :
    bitsRead (items.map BitItem.field) (items.map BitItem.value) = bitString items := by
  induction items with
  | nil => rfl
  | cons item rest ih =>
    simp only [bitsRead, List.map_cons, List.zip_cons_cons, List.flatMap_cons] at ih ⊢
    rw [ih]
    rfl

theorem absorb_byteItems (closed : List Byte) (items : List ByteItem) :
    (items.map ByteItem.chunk).foldl absorb ⟨closed, []⟩ =
      ⟨closed ++ items.flatMap ByteItem.bytes, []⟩ := by
  induction items generalizing closed with
  | nil => simp
  | cons item rest ih =>
    rw [List.map_cons, List.foldl_cons, item.chunk_eq]
    by_cases hnil : item.bytes = []
    · simp [absorb, hnil, ih]
    · simp [absorb, hnil, ih]

/-- The writer stores the encoding of the script. -/
theorem write_stores (script : TwoPhase) : Stores script.write ⟨script.encoded, []⟩ := by
  have hbits := foldlM_stores (fun item (_ : item ∈ script.bits) s => item.write_stores s) ⟨[], []⟩
  rw [absorb_bitItems, writing_nil] at hbits
  have hbytes := foldlM_stores (fun item (_ : item ∈ script.bytes) s => item.write_stores s)
    ⟨packBits (bitString script.bits), []⟩
  rw [absorb_byteItems] at hbytes
  have hflush := flushBits_stores ⟨[], bitString script.bits⟩
  simp only [finish, List.nil_append] at hflush
  simp only [List.nil_append] at hbits
  apply hbits.bind
  · apply hflush.bind hbytes
    simp [finish, encoded]
  · simp [finish, encoded]

/-- One field of the byte phase comes back as it was written. -/
theorem byteField_reads {rest : List Byte} {bits : List Bool} {item : ByteItem}
    (hitem : item.Announced bits) (h : Reading storage b loose (item.bytes ++ rest)) :
    ∃ b', item.field.read bits b = .ok (item, b') ∧ Reading storage b' loose rest := by
  cases item with
  | scalar t value =>
    obtain ⟨b', hread, h'⟩ := readScalar_reads value h
    exact ⟨b', by simp only [ByteItem.field, ByteField.read, hread]; rfl, h'⟩
  | byteSeq presence c =>
    have hbit : bits.getD presence false = decide (c ≠ 0) := by
      rw [List.getD_eq_getElem?_getD, hitem]
      rfl
    obtain ⟨b', hread, h'⟩ := readByteSeq_reads h
    refine ⟨b', ?_, h'⟩
    simp only [ByteItem.field, ByteField.read, hbit, decide_eq_true_eq, hread]
    rfl

theorem readAll_bytes_reads {bits : List Bool} {items : List ByteItem}
    (hitems : ∀ item ∈ items, item.Announced bits)
    (h : Reading storage b loose (items.flatMap ByteItem.bytes)) :
    ∃ b', readAll (ByteField.read bits) b (items.map ByteItem.field) = .ok (items, b') ∧
      Reading storage b' loose [] := by
  induction items generalizing b with
  | nil => exact ⟨b, rfl, h⟩
  | cons item items ih =>
    rw [List.flatMap_cons] at h
    obtain ⟨b₁, hread, h₁⟩ := byteField_reads (hitems item (List.mem_cons_self ..)) h
    obtain ⟨b', hrest, h'⟩ := ih (fun i hi => hitems i (List.mem_cons_of_mem _ hi)) h₁
    exact ⟨b', readAll_cons_ok.mpr ⟨b₁, hread, hrest⟩, h'⟩

/-- A packet of bits then bytes comes back value by value and is read to its end;
the write itself is stopped only by the size assertion. -/
theorem read_write (script : TwoPhase) :
    (script.encoded.length ≤ maxSize → ∃ b, script.write = .ok b) ∧
      ∀ b, script.write = .ok b → ∃ b',
        read (script.bits.map BitItem.field) (script.bytes.map ByteItem.field) b =
            .ok (script.bits.map BitItem.value, script.bytes, b') ∧
          b'.rpos = b.size := by
  have hstores := script.write_stores
  constructor
  · intro hle
    exact ⟨_, hstores.2 (by simpa [finish] using hle)⟩
  · intro b hb
    rw [hstores.eq_of_ok hb]
    have hstart : Reading script.encoded (writing ⟨script.encoded, []⟩) [] script.encoded := by
      simpa using reading_start (b := writing ⟨script.encoded, []⟩) rfl rfl
    have hs : [] ++ unpack script.encoded = bitString script.bits ++
        (List.replicate (padding (bitString script.bits)) false ++
          unpack (script.bytes.flatMap ByteItem.bytes)) := by
      simp [encoded, unpack_packBits]
    obtain ⟨b₁, loose₁, rest₁, hbits, h₁, hs₁⟩ := readAll_bits_reads hstart hs
    obtain ⟨-, rfl⟩ := stream_unique h₁.loose_lt
      (by simpa using padding_lt (bitString script.bits)) hs₁
    obtain ⟨b', hbytes, h'⟩ := readAll_bytes_reads script.announced h₁
    refine ⟨b', ?_, ?_⟩
    · simp only [read, hbits, bind, Except.bind, bitsRead_eq, hbytes]
      rfl
    · rw [h'.rpos_eq_length]
      simp [size]

end TwoPhase

end Cataclysm
