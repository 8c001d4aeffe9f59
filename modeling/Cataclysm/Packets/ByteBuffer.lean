import Cataclysm.Lib.BitString

/-!
# The packet buffer

`ByteBuffer` keeps one byte vector with a read cursor, a write cursor and one
bit cursor with its accumulator byte. The same bit cursor serves both
directions: writing counts it down from eight, reading counts it up and refills
the accumulator past seven.

## Implementation notes

Positions are naturals; only the decrement of the bit cursor, an unsigned
64-bit `size_t`, wraps explicitly. Exceptions and the failing `ASSERT` end a
computation, so the buffer left behind by them is not part of the result.
Scalars are the bit patterns of their C++ types on a little-endian host, where
`EndianConvert` is the identity.
-/

namespace Cataclysm
open BitString

/-- `ByteBufferPositionException` and `ByteBufferSourceException` with their
constructor arguments, and the abort of `ASSERT`. -/
inductive ByteBufferError
  | positionException (add : Bool) (pos size valueSize : Nat)
  | sourceException (pos size valueSize : Nat)
  | assertion
  deriving DecidableEq

/-- The storage, the two cursors and the byte of bits under work. -/
structure ByteBuffer where
  rpos : Nat
  wpos : Nat
  bitpos : Nat
  curbitval : Byte
  storage : List Byte
  deriving DecidableEq

/-- The fixed-width types that `append<T>` and `read<T>` are used with. -/
inductive ScalarType
  | uint8 | uint16 | uint32 | uint64
  | int8 | int16 | int32 | int64
  | float | double
  deriving DecidableEq

/-- `sizeof(T)`. -/
def ScalarType.size : ScalarType → Nat
  | .uint8 | .int8 => 1
  | .uint16 | .int16 => 2
  | .uint32 | .int32 | .float => 4
  | .uint64 | .int64 | .double => 8

theorem ScalarType.size_pos (t : ScalarType) : 0 < t.size := by
  cases t <;> decide

/-- A value of a fixed-width type, as its bit pattern. -/
abbrev ScalarType.Value (t : ScalarType) := BitVec (8 * t.size)

namespace ByteBuffer

/-- The bound of the size assertion in `append`. -/
def maxSize : Nat := 10000000

/-- `ByteBuffer()`. -/
def fresh : ByteBuffer := ⟨0, 0, 8, 0, []⟩

def size (b : ByteBuffer) : Nat := b.storage.length

/-- Grow the vector with zeros to hold `pos + src.length` bytes, then copy. -/
def memcpyAt (storage : List Byte) (pos : Nat) (src : List Byte) : List Byte :=
  (storage ++ List.replicate (pos + src.length - storage.length) 0).take pos ++ src ++
    storage.drop (pos + src.length)

/-- `append(const uint8*, size_t)` on a non-null source. -/
def append (b : ByteBuffer) (src : List Byte) : Except ByteBufferError ByteBuffer :=
  if src = [] then .error (.sourceException b.wpos b.size 0)
  else if b.size < maxSize then
    .ok { b with storage := memcpyAt b.storage b.wpos src, wpos := b.wpos + src.length }
  else .error .assertion

def flushBits (b : ByteBuffer) : Except ByteBufferError ByteBuffer :=
  if b.bitpos = 8 then .ok b
  else do
    let b ← b.append [b.curbitval]
    return { b with curbitval := 0, bitpos := 8 }

/-- Decrement of an unsigned 64-bit counter. -/
def decSize (n : Nat) : Nat := if n = 0 then 2 ^ 64 - 1 else n - 1

def writeBit (b : ByteBuffer) (bit : BitVec 32) : Except ByteBufferError ByteBuffer :=
  let bitpos := decSize b.bitpos
  let curbitval := if bit ≠ 0 then b.curbitval ||| (1#8 <<< bitpos) else b.curbitval
  if bitpos = 0 then do
    let b ← { b with bitpos := 8, curbitval }.append [curbitval]
    return { b with curbitval := 0 }
  else return { b with bitpos, curbitval }

/-- `WriteBits(value, bits)`: the loop counts the bit index down to zero. -/
def writeBits (b : ByteBuffer) (value : Nat) : Nat → Except ByteBufferError ByteBuffer
  | 0 => return b
  | i + 1 => do
    let b ← b.writeBit (BitVec.ofNat 32 ((value >>> i) &&& 1))
    b.writeBits value i

/-- `append<T>(value)`. -/
def appendScalar (b : ByteBuffer) {t : ScalarType} (value : t.Value) :
    Except ByteBufferError ByteBuffer := do
  let b ← b.flushBits
  b.append (leBytes t.size value.toNat)

def writeByteSeq (b : ByteBuffer) (c : Byte) : Except ByteBufferError ByteBuffer :=
  let flipped : Byte := c ^^^ 1#8
  if c ≠ 0 then b.appendScalar (t := .uint8) flipped else return b

/-- `operator<<(std::string const&)`. -/
def appendString (b : ByteBuffer) (value : List Byte) : Except ByteBufferError ByteBuffer := do
  let b ← if value ≠ [] then b.append value else pure b
  b.appendScalar (t := .uint8) 0

/-- A null-terminated C string: the bytes before its terminator. -/
def CString := { str : List Byte // ∀ c ∈ str, c ≠ 0 }

/-- `operator<<(const char*)`; `none` is the null pointer. -/
def appendCString (b : ByteBuffer) (str : Option CString) :
    Except ByteBufferError ByteBuffer :=
  match str with
  | some s => b.appendString s.1
  | none => b.appendString []

/-- `WriteString`, which stores no terminator. -/
def writeString (b : ByteBuffer) (str : List Byte) : Except ByteBufferError ByteBuffer :=
  if str ≠ [] then b.append str else return b

/-- `append(ByteBuffer const&)` copies the first `wpos()` bytes of the other
storage. -/
def appendBuffer (b other : ByteBuffer) : Except ByteBufferError ByteBuffer :=
  if other.wpos ≠ 0 then b.append (other.storage.take other.wpos) else return b

/-- The loop of `appendPackGUID`. A 64-bit guid is zero after eight shifts. -/
def packGUIDLoop : Nat → Nat → BitVec 64 → Byte → List Byte → List Byte
  | 0, _, _, mask, out => mask :: out
  | n + 1, i, guid, mask, out =>
    if guid = 0 then mask :: out
    else
      let low := guid.setWidth 8
      if low ≠ 0 then packGUIDLoop n (i + 1) (guid >>> 8) (mask ||| (1#8 <<< i)) (out ++ [low])
      else packGUIDLoop n (i + 1) (guid >>> 8) mask out

/-- The bytes that `appendPackGUID` stores. -/
def packGUID (guid : BitVec 64) : List Byte := packGUIDLoop 8 0 guid 0 []

def appendPackGUID (b : ByteBuffer) (guid : BitVec 64) : Except ByteBufferError ByteBuffer :=
  b.append (packGUID guid)

/-- `read<T>(pos)` as a number. -/
def readAt (b : ByteBuffer) (pos n : Nat) : Except ByteBufferError Nat :=
  if pos + n > b.size then .error (.positionException false pos n b.size)
  else .ok (leValue ((b.storage.drop pos).take n))

/-- `read<T>()` for a type of `n` bytes. -/
def read (b : ByteBuffer) (n : Nat) : Except ByteBufferError (Nat × ByteBuffer) := do
  let r ← b.readAt b.rpos n
  return (r, { b with rpos := b.rpos + n })

/-- `read<T>()`. -/
def readScalar (b : ByteBuffer) (t : ScalarType) :
    Except ByteBufferError (t.Value × ByteBuffer) := do
  let (v, b) ← b.read t.size
  return (BitVec.ofNat _ v, b)

/-- The bit under the cursor, `((_curbitval >> (7 - _bitpos)) & 1) != 0`. -/
def currentBit (b : ByteBuffer) : Bool :=
  ((b.curbitval >>> (7 - b.bitpos)) &&& 1#8) != 0#8

def readBit (b : ByteBuffer) : Except ByteBufferError (Bool × ByteBuffer) :=
  let bitpos := b.bitpos + 1
  if bitpos > 7 then do
    let (c, b) ← { b with bitpos := 0 }.read 1
    let b := { b with curbitval := BitVec.ofNat 8 c }
    return (b.currentBit, b)
  else
    let b := { b with bitpos }
    return (b.currentBit, b)

/-- The loop of `ReadBits`: bit `i` of the value is read at index `i`. -/
def readBitsLoop (b : ByteBuffer) (value : Nat) :
    Nat → Except ByteBufferError (Nat × ByteBuffer)
  | 0 => return (value, b)
  | i + 1 => do
    let (bit, b) ← b.readBit
    b.readBitsLoop (if bit then value ||| (1 <<< i) else value) i

def readBits (b : ByteBuffer) (bits : Nat) : Except ByteBufferError (Nat × ByteBuffer) :=
  b.readBitsLoop 0 bits

/-- `ReadByteSeq(b)`: the byte passed by reference is returned. -/
def readByteSeq (b : ByteBuffer) (c : Byte) : Except ByteBufferError (Byte × ByteBuffer) :=
  if c ≠ 0 then do
    let (r, b) ← b.read 1
    return (c ^^^ BitVec.ofNat 8 r, b)
  else return (c, b)

end ByteBuffer

end Cataclysm
