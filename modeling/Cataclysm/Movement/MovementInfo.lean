import Cataclysm.Packets.ByteBuffer

/-!
# Movement packets

A movement packet is laid out by a table of elements. `Write_OLD` and `Read_OLD`
walk the same table with two separate switches: presence bits come first, and a
field is written or read under the condition that its presence bit announced.

## Implementation notes

Floats are opaque 32-bit words. The two float functions that the codec applies
are collected in `FloatOps`; a float in a boolean context is tested against both
zeros. Local variables of `Read_OLD` and the `MovementInfo` it fills form the
state of the reader.
-/

namespace Cataclysm
open BitString

/-- The elements of a movement table, without their `MSE` prefix. -/
inductive MovementStatusElement
  | hasGuidByte (i : Fin 8)
  | hasMovementFlags
  | hasMovementFlags2
  | hasTimestamp
  | hasOrientation
  | hasTransportData
  | hasTransportGuidByte (i : Fin 8)
  | hasTransportTime2
  | hasTransportTime3
  | hasPitch
  | hasFallData
  | hasFallDirection
  | hasSplineElevation
  | hasSpline
  | guidByte (i : Fin 8)
  | movementFlags
  | movementFlags2
  | timestamp
  | positionX
  | positionY
  | positionZ
  | orientation
  | transportGuidByte (i : Fin 8)
  | transportPositionX
  | transportPositionY
  | transportPositionZ
  | transportOrientation
  | transportSeat
  | transportTime
  | transportTime2
  | transportTime3
  | pitch
  | fallTime
  | fallVerticalSpeed
  | fallCosAngle
  | fallSinAngle
  | fallHorizontalSpeed
  | splineElevation
  | counter
  | speed (kind : Fin 9)
  | height
  | zeroBit
  | oneBit
  | mseEnd
  deriving DecidableEq

/-- `MSE_COUNT`. -/
def mseCount : Nat := 80

/-- The elements that the loops over a table visit. -/
def visited (sequence : List MovementStatusElement) : List MovementStatusElement :=
  (sequence.take mseCount).takeWhile (· ≠ .mseEnd)

/-- A `float` as its bit pattern. -/
abbrev FloatWord := BitVec 32

/-- `G3D::fuzzyEq(·, 0.0f)` and `Position::NormalizeOrientation`. -/
structure FloatOps where
  fuzzyEqZero : FloatWord → Bool
  normalizeOrientation : FloatWord → FloatWord

/-- A float in a boolean context. -/
def nonzeroFloat (w : FloatWord) : Bool := w <<< 1 ≠ 0

/-- A point and a direction, each as the bits of a float. -/
structure Position where
  positionX : FloatWord
  positionY : FloatWord
  positionZ : FloatWord
  orientation : FloatWord
  deriving DecidableEq

/-- The fields that the sequences of movement packets carry. -/
structure MovementInfo where
  guid : BitVec 64
  flags : BitVec 32
  flags2 : BitVec 16
  pos : Position
  time : BitVec 32
  tGuid : BitVec 64
  tPos : Position
  tSeat : BitVec 8
  tTime : BitVec 32
  tTime2 : BitVec 32
  tTime3 : BitVec 32
  pitch : FloatWord
  fallTime : BitVec 32
  jZspeed : FloatWord
  jCosAngle : FloatWord
  jSinAngle : FloatWord
  jXyspeed : FloatWord
  hasSpline : Bool
  splineElevation : FloatWord
  ackCount : BitVec 32
  ackSpeed : FloatWord
  height : FloatWord
  deriving DecidableEq

/-- `MovementInfo()`. -/
def MovementInfo.default : MovementInfo where
  guid := 0
  flags := 0
  flags2 := 0
  pos := ⟨0, 0, 0, 0⟩
  time := 0
  tGuid := 0
  tPos := ⟨0, 0, 0, 0⟩
  tSeat := -1
  tTime := 0
  tTime2 := 0
  tTime3 := 0
  pitch := 0
  fallTime := 0
  jZspeed := 0
  jCosAngle := 0
  jSinAngle := 0
  jXyspeed := 0
  hasSpline := false
  splineElevation := 0
  ackCount := 0
  ackSpeed := 0
  height := 0

/-- The bytes of an `ObjectGuid`. -/
abbrev ObjectGuid := Fin 8 → Byte

namespace ObjectGuid

/-- The bytes have numerals as their indices. -/
instance byteCount : NeZero 8 := ⟨by decide⟩

def ofUInt64 (guid : BitVec 64) : ObjectGuid := fun i => guid.extractLsb' (8 * i) 8

def toUInt64 (id : ObjectGuid) : BitVec 64 :=
  id 7 ++ id 6 ++ id 5 ++ id 4 ++ id 3 ++ id 2 ++ id 1 ++ id 0

end ObjectGuid

namespace MovementInfo

variable (ops : FloatOps) (info : MovementInfo)

def hasOrientation : Bool := !ops.fuzzyEqZero info.pos.orientation

def hasSplineElevation : Bool := !ops.fuzzyEqZero info.splineElevation

def hasPitch : Bool := !ops.fuzzyEqZero info.pitch

def hasFallData : Bool := info.fallTime ≠ 0 || nonzeroFloat info.jZspeed

def hasFallDirection : Bool :=
  info.hasFallData &&
    (nonzeroFloat info.jCosAngle || nonzeroFloat info.jSinAngle || nonzeroFloat info.jXyspeed)

/-- `WriteBit` of a boolean. -/
def writeFlag (b : ByteBuffer) (bit : Bool) : Except ByteBufferError ByteBuffer :=
  b.writeBit (if bit then 1 else 0)

/-- `operator<<` of a scalar under a condition. -/
def writeWhen (b : ByteBuffer) (condition : Bool) (t : ScalarType) (value : t.Value) :
    Except ByteBufferError ByteBuffer :=
  if condition then b.appendScalar value else return b

/-- One element of the switch in `Write_OLD`. -/
def writeElement (b : ByteBuffer) : MovementStatusElement → Except ByteBufferError ByteBuffer
  | .hasGuidByte i => b.writeBit ((ObjectGuid.ofUInt64 info.guid i).setWidth 32)
  | .hasTransportGuidByte i =>
    if info.tGuid ≠ 0 then b.writeBit ((ObjectGuid.ofUInt64 info.tGuid i).setWidth 32)
    else return b
  | .guidByte i => b.writeByteSeq (ObjectGuid.ofUInt64 info.guid i)
  | .transportGuidByte i =>
    if info.tGuid ≠ 0 then b.writeByteSeq (ObjectGuid.ofUInt64 info.tGuid i) else return b
  | .speed _ => writeWhen b true .float info.ackSpeed
  | .hasMovementFlags => writeFlag b (info.flags = 0)
  | .hasMovementFlags2 => writeFlag b (info.flags2 = 0)
  | .hasTimestamp => writeFlag b (info.time = 0)
  | .hasOrientation => writeFlag b (!info.hasOrientation ops)
  | .hasTransportData => b.writeBit (info.tGuid.setWidth 32)
  | .hasTransportTime2 => if info.tGuid ≠ 0 then b.writeBit info.tTime2 else return b
  | .hasTransportTime3 => if info.tGuid ≠ 0 then b.writeBit info.tTime3 else return b
  | .hasPitch => writeFlag b (!info.hasPitch ops)
  | .hasFallData => writeFlag b info.hasFallData
  | .hasFallDirection =>
    if info.hasFallData then writeFlag b info.hasFallDirection else return b
  | .hasSplineElevation => writeFlag b (!info.hasSplineElevation ops)
  | .hasSpline => writeFlag b info.hasSpline
  | .movementFlags => if info.flags ≠ 0 then b.writeBits info.flags.toNat 30 else return b
  | .movementFlags2 => if info.flags2 ≠ 0 then b.writeBits info.flags2.toNat 12 else return b
  | .timestamp => writeWhen b (info.time ≠ 0) .uint32 info.time
  | .positionX => writeWhen b true .float info.pos.positionX
  | .positionY => writeWhen b true .float info.pos.positionY
  | .positionZ => writeWhen b true .float info.pos.positionZ
  | .orientation => writeWhen b (info.hasOrientation ops) .float info.pos.orientation
  | .transportPositionX => writeWhen b (info.tGuid ≠ 0) .float info.tPos.positionX
  | .transportPositionY => writeWhen b (info.tGuid ≠ 0) .float info.tPos.positionY
  | .transportPositionZ => writeWhen b (info.tGuid ≠ 0) .float info.tPos.positionZ
  | .transportOrientation => writeWhen b (info.tGuid ≠ 0) .float info.tPos.orientation
  | .transportSeat => writeWhen b (info.tGuid ≠ 0) .int8 info.tSeat
  | .transportTime => writeWhen b (info.tGuid ≠ 0) .uint32 info.tTime
  | .transportTime2 => writeWhen b (info.tGuid ≠ 0 ∧ info.tTime2 ≠ 0) .uint32 info.tTime2
  | .transportTime3 => writeWhen b (info.tGuid ≠ 0 ∧ info.tTime3 ≠ 0) .uint32 info.tTime3
  | .pitch => writeWhen b (info.hasPitch ops) .float info.pitch
  | .fallTime => writeWhen b info.hasFallData .uint32 info.fallTime
  | .fallVerticalSpeed => writeWhen b info.hasFallData .float info.jZspeed
  | .fallCosAngle =>
    writeWhen b (info.hasFallData && info.hasFallDirection) .float info.jCosAngle
  | .fallSinAngle =>
    writeWhen b (info.hasFallData && info.hasFallDirection) .float info.jSinAngle
  | .fallHorizontalSpeed =>
    writeWhen b (info.hasFallData && info.hasFallDirection) .float info.jXyspeed
  | .splineElevation => writeWhen b (info.hasSplineElevation ops) .float info.splineElevation
  | .counter => writeWhen b true .uint32 info.ackCount
  | .height => writeWhen b true .float info.height
  | .zeroBit => b.writeBit 0
  | .oneBit => b.writeBit 1
  | .mseEnd => .error .assertion

/-- `Write_OLD` into an empty packet whose opcode has the given table. -/
def writeOLD (sequence : List MovementStatusElement) : Except ByteBufferError ByteBuffer :=
  (visited sequence).foldlM (writeElement ops info) ByteBuffer.fresh

/-- The local variables of `Read_OLD` and the structure it fills. -/
structure Reader where
  hasMovementFlags : Bool
  hasMovementFlags2 : Bool
  hasTimestamp : Bool
  hasOrientation : Bool
  hasTransportData : Bool
  hasTransportTime2 : Bool
  hasTransportTime3 : Bool
  hasPitch : Bool
  hasFallData : Bool
  hasFallDirection : Bool
  hasSplineElevation : Bool
  id : ObjectGuid
  tid : ObjectGuid
  info : MovementInfo

def Reader.start : Reader :=
  ⟨false, false, false, false, false, false, false, false, false, false, false,
    fun _ => 0, fun _ => 0, MovementInfo.default⟩

/-- `ReadBit` into a variable. -/
def readFlag (b : ByteBuffer) (store : Bool → Reader) :
    Except ByteBufferError (Reader × ByteBuffer) := do
  let (bit, b) ← b.readBit
  return (store bit, b)

/-- `operator>>` into a variable. -/
def readValue (b : ByteBuffer) (t : ScalarType) (store : t.Value → Reader) :
    Except ByteBufferError (Reader × ByteBuffer) := do
  let (value, b) ← b.readScalar t
  return (store value, b)

/-- `ReadByteSeq` on a variable. -/
def readSeq (b : ByteBuffer) (c : Byte) (store : Byte → Reader) :
    Except ByteBufferError (Reader × ByteBuffer) := do
  let (c, b) ← b.readByteSeq c
  return (store c, b)

/-- `ReadBits` into a variable. -/
def readNumber (b : ByteBuffer) (bits : Nat) (store : Nat → Reader) :
    Except ByteBufferError (Reader × ByteBuffer) := do
  let (value, b) ← b.readBits bits
  return (store value, b)

/-- A `ReadBit` stored in a byte. -/
def flagByte (bit : Bool) : Byte := if bit then 1 else 0

/-- One element of the switch in `Read_OLD`. -/
def readElement (r : Reader) (b : ByteBuffer) :
    MovementStatusElement → Except ByteBufferError (Reader × ByteBuffer)
  | .hasGuidByte i => readFlag b fun x => { r with id := Function.update r.id i (flagByte x) }
  | .hasTransportGuidByte i =>
    if r.hasTransportData then
      readFlag b fun x => { r with tid := Function.update r.tid i (flagByte x) }
    else return (r, b)
  | .guidByte i => readSeq b (r.id i) fun c => { r with id := Function.update r.id i c }
  | .transportGuidByte i =>
    if r.hasTransportData then
      readSeq b (r.tid i) fun c => { r with tid := Function.update r.tid i c }
    else return (r, b)
  | .speed _ => readValue b .float fun v => { r with info.ackSpeed := v }
  | .hasMovementFlags => readFlag b fun x => { r with hasMovementFlags := !x }
  | .hasMovementFlags2 => readFlag b fun x => { r with hasMovementFlags2 := !x }
  | .hasTimestamp => readFlag b fun x => { r with hasTimestamp := !x }
  | .hasOrientation => readFlag b fun x => { r with hasOrientation := !x }
  | .hasTransportData => readFlag b fun x => { r with hasTransportData := x }
  | .hasTransportTime2 =>
    if r.hasTransportData then readFlag b fun x => { r with hasTransportTime2 := x }
    else return (r, b)
  | .hasTransportTime3 =>
    if r.hasTransportData then readFlag b fun x => { r with hasTransportTime3 := x }
    else return (r, b)
  | .hasPitch => readFlag b fun x => { r with hasPitch := !x }
  | .hasFallData => readFlag b fun x => { r with hasFallData := x }
  | .hasFallDirection =>
    if r.hasFallData then readFlag b fun x => { r with hasFallDirection := x }
    else return (r, b)
  | .hasSplineElevation => readFlag b fun x => { r with hasSplineElevation := !x }
  | .hasSpline => readFlag b fun x => { r with info.hasSpline := x }
  | .movementFlags =>
    if r.hasMovementFlags then
      readNumber b 30 fun v => { r with info.flags := BitVec.ofNat 32 v }
    else return (r, b)
  | .movementFlags2 =>
    if r.hasMovementFlags2 then
      readNumber b 12 fun v => { r with info.flags2 := BitVec.ofNat 16 v }
    else return (r, b)
  | .timestamp =>
    if r.hasTimestamp then readValue b .uint32 fun v => { r with info.time := v }
    else return (r, b)
  | .positionX => readValue b .float fun v => { r with info.pos.positionX := v }
  | .positionY => readValue b .float fun v => { r with info.pos.positionY := v }
  | .positionZ => readValue b .float fun v => { r with info.pos.positionZ := v }
  | .orientation =>
    if r.hasOrientation then
      readValue b .float fun v => { r with info.pos.orientation := ops.normalizeOrientation v }
    else return (r, b)
  | .transportPositionX =>
    if r.hasTransportData then readValue b .float fun v => { r with info.tPos.positionX := v }
    else return (r, b)
  | .transportPositionY =>
    if r.hasTransportData then readValue b .float fun v => { r with info.tPos.positionY := v }
    else return (r, b)
  | .transportPositionZ =>
    if r.hasTransportData then readValue b .float fun v => { r with info.tPos.positionZ := v }
    else return (r, b)
  | .transportOrientation =>
    if r.hasTransportData then
      readValue b .float fun v => { r with info.tPos.orientation := ops.normalizeOrientation v }
    else return (r, b)
  | .transportSeat =>
    if r.hasTransportData then readValue b .int8 fun v => { r with info.tSeat := v }
    else return (r, b)
  | .transportTime =>
    if r.hasTransportData then readValue b .uint32 fun v => { r with info.tTime := v }
    else return (r, b)
  | .transportTime2 =>
    if r.hasTransportData && r.hasTransportTime2 then
      readValue b .uint32 fun v => { r with info.tTime2 := v }
    else return (r, b)
  | .transportTime3 =>
    if r.hasTransportData && r.hasTransportTime3 then
      readValue b .uint32 fun v => { r with info.tTime3 := v }
    else return (r, b)
  | .pitch =>
    if r.hasPitch then readValue b .float fun v => { r with info.pitch := v }
    else return (r, b)
  | .fallTime =>
    if r.hasFallData then readValue b .uint32 fun v => { r with info.fallTime := v }
    else return (r, b)
  | .fallVerticalSpeed =>
    if r.hasFallData then readValue b .float fun v => { r with info.jZspeed := v }
    else return (r, b)
  | .fallCosAngle =>
    if r.hasFallData && r.hasFallDirection then
      readValue b .float fun v => { r with info.jCosAngle := v }
    else return (r, b)
  | .fallSinAngle =>
    if r.hasFallData && r.hasFallDirection then
      readValue b .float fun v => { r with info.jSinAngle := v }
    else return (r, b)
  | .fallHorizontalSpeed =>
    if r.hasFallData && r.hasFallDirection then
      readValue b .float fun v => { r with info.jXyspeed := v }
    else return (r, b)
  | .splineElevation =>
    if r.hasSplineElevation then readValue b .float fun v => { r with info.splineElevation := v }
    else return (r, b)
  | .counter => readValue b .uint32 fun v => { r with info.ackCount := v }
  | .height => readValue b .float fun v => { r with info.height := v }
  | .zeroBit | .oneBit => readFlag b fun _ => r
  | .mseEnd => .error .assertion

/-- The loop of `Read_OLD`. -/
def readElements (r : Reader) (b : ByteBuffer) :
    List MovementStatusElement → Except ByteBufferError (Reader × ByteBuffer)
  | [] => return (r, b)
  | e :: rest => do
    let (r, b) ← readElement ops r b e
    readElements r b rest

/-- The guids are stored after the loop. -/
def Reader.result (r : Reader) : MovementInfo :=
  { r.info with guid := ObjectGuid.toUInt64 r.id, tGuid := ObjectGuid.toUInt64 r.tid }

/-- `Read_OLD` into a freshly constructed `MovementInfo`. -/
def readOLD (sequence : List MovementStatusElement) (b : ByteBuffer) :
    Except ByteBufferError (MovementInfo × ByteBuffer) := do
  let (r, b) ← readElements ops Reader.start b (visited sequence)
  return (r.result, b)

end MovementInfo

end Cataclysm
