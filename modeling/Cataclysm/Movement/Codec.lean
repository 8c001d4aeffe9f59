import Cataclysm.Movement.MovementInfo
import Cataclysm.Packets.Writer
import Cataclysm.Packets.Reader

/-!
# What a movement packet says

Every element contributes a string of bits or a block of bytes, which depends
only on the structure that is written. The writer stores these contributions in
order. The reader, started in front of them, reaches a state that is determined
by the elements it has passed: `decoded` gives it in closed form.
-/

namespace Cataclysm
open BitString BlockStream ByteBuffer

namespace MovementStatusElement

/-- The elements transferred by `WriteBit` and `WriteBits`. -/
def isBit : MovementStatusElement → Bool
  | .hasGuidByte _ | .hasMovementFlags | .hasMovementFlags2 | .hasTimestamp | .hasOrientation
  | .hasTransportData | .hasTransportGuidByte _ | .hasTransportTime2 | .hasTransportTime3
  | .hasPitch | .hasFallData | .hasFallDirection | .hasSplineElevation | .hasSpline
  | .movementFlags | .movementFlags2 | .zeroBit | .oneBit => true
  | _ => false

/-- The presence elements that decide whether an element is transferred. -/
def guards : MovementStatusElement → List MovementStatusElement
  | .guidByte i => [.hasGuidByte i]
  | .hasTransportGuidByte _ | .hasTransportTime2 | .hasTransportTime3
  | .transportPositionX | .transportPositionY | .transportPositionZ | .transportOrientation
  | .transportSeat | .transportTime => [.hasTransportData]
  | .transportGuidByte i => [.hasTransportData, .hasTransportGuidByte i]
  | .transportTime2 => [.hasTransportData, .hasTransportTime2]
  | .transportTime3 => [.hasTransportData, .hasTransportTime3]
  | .movementFlags => [.hasMovementFlags]
  | .movementFlags2 => [.hasMovementFlags2]
  | .timestamp => [.hasTimestamp]
  | .orientation => [.hasOrientation]
  | .pitch => [.hasPitch]
  | .hasFallDirection | .fallTime | .fallVerticalSpeed => [.hasFallData]
  | .fallCosAngle | .fallSinAngle | .fallHorizontalSpeed => [.hasFallData, .hasFallDirection]
  | .splineElevation => [.hasSplineElevation]
  | _ => []

end MovementStatusElement

namespace MovementInfo

variable (ops : FloatOps) (info : MovementInfo)

/-- The bits that an element contributes. -/
def elementBits : MovementStatusElement → List Bool
  | .hasGuidByte i => [decide (ObjectGuid.ofUInt64 info.guid i ≠ 0)]
  | .hasMovementFlags => [decide (info.flags = 0)]
  | .hasMovementFlags2 => [decide (info.flags2 = 0)]
  | .hasTimestamp => [decide (info.time = 0)]
  | .hasOrientation => [!info.hasOrientation ops]
  | .hasTransportData => [decide (info.tGuid.setWidth 32 ≠ 0)]
  | .hasTransportGuidByte i =>
    if info.tGuid ≠ 0 then [decide (ObjectGuid.ofUInt64 info.tGuid i ≠ 0)] else []
  | .hasTransportTime2 => if info.tGuid ≠ 0 then [decide (info.tTime2 ≠ 0)] else []
  | .hasTransportTime3 => if info.tGuid ≠ 0 then [decide (info.tTime3 ≠ 0)] else []
  | .hasPitch => [!info.hasPitch ops]
  | .hasFallData => [info.hasFallData]
  | .hasFallDirection => if info.hasFallData then [info.hasFallDirection] else []
  | .hasSplineElevation => [!info.hasSplineElevation ops]
  | .hasSpline => [info.hasSpline]
  | .movementFlags => if info.flags ≠ 0 then bitsOfNat 30 info.flags.toNat else []
  | .movementFlags2 => if info.flags2 ≠ 0 then bitsOfNat 12 info.flags2.toNat else []
  | .zeroBit => [false]
  | .oneBit => [true]
  | _ => []

/-- The bytes of a scalar that is transferred under a condition. -/
def fieldBytes (condition : Bool) (t : ScalarType) (value : t.Value) : List Byte :=
  if condition then leBytes t.size value.toNat else []

/-- The bytes of a byte sequence. -/
def seqBytes (c : Byte) : List Byte := if c ≠ 0 then [c ^^^ 1#8] else []

/-- The bytes that an element contributes. -/
def elementBytes : MovementStatusElement → List Byte
  | .guidByte i => seqBytes (ObjectGuid.ofUInt64 info.guid i)
  | .transportGuidByte i =>
    if info.tGuid ≠ 0 then seqBytes (ObjectGuid.ofUInt64 info.tGuid i) else []
  | .timestamp => fieldBytes (info.time ≠ 0) .uint32 info.time
  | .positionX => fieldBytes true .float info.pos.positionX
  | .positionY => fieldBytes true .float info.pos.positionY
  | .positionZ => fieldBytes true .float info.pos.positionZ
  | .orientation => fieldBytes (info.hasOrientation ops) .float info.pos.orientation
  | .transportPositionX => fieldBytes (info.tGuid ≠ 0) .float info.tPos.positionX
  | .transportPositionY => fieldBytes (info.tGuid ≠ 0) .float info.tPos.positionY
  | .transportPositionZ => fieldBytes (info.tGuid ≠ 0) .float info.tPos.positionZ
  | .transportOrientation => fieldBytes (info.tGuid ≠ 0) .float info.tPos.orientation
  | .transportSeat => fieldBytes (info.tGuid ≠ 0) .int8 info.tSeat
  | .transportTime => fieldBytes (info.tGuid ≠ 0) .uint32 info.tTime
  | .transportTime2 => fieldBytes (info.tGuid ≠ 0 ∧ info.tTime2 ≠ 0) .uint32 info.tTime2
  | .transportTime3 => fieldBytes (info.tGuid ≠ 0 ∧ info.tTime3 ≠ 0) .uint32 info.tTime3
  | .pitch => fieldBytes (info.hasPitch ops) .float info.pitch
  | .fallTime => fieldBytes info.hasFallData .uint32 info.fallTime
  | .fallVerticalSpeed => fieldBytes info.hasFallData .float info.jZspeed
  | .fallCosAngle => fieldBytes (info.hasFallData && info.hasFallDirection) .float info.jCosAngle
  | .fallSinAngle => fieldBytes (info.hasFallData && info.hasFallDirection) .float info.jSinAngle
  | .fallHorizontalSpeed =>
    fieldBytes (info.hasFallData && info.hasFallDirection) .float info.jXyspeed
  | .splineElevation => fieldBytes (info.hasSplineElevation ops) .float info.splineElevation
  | .counter => fieldBytes true .uint32 info.ackCount
  | .speed _ => fieldBytes true .float info.ackSpeed
  | .height => fieldBytes true .float info.height
  | _ => []

/-- The contribution of an element to the packet. -/
def payload (e : MovementStatusElement) : Chunk :=
  if e.isBit then .bits (elementBits ops info e) else .bytes (elementBytes ops info e)

/-- Widening a byte keeps whether it is zero. -/
theorem setWidth_eq_zero_iff (c : Byte) : c.setWidth 32 = 0#32 ↔ c = 0#8 := by
  rw [BitVec.toNat_eq, BitVec.toNat_eq, BitVec.toNat_setWidth]
  have hlt := c.isLt
  rw [Nat.mod_eq_of_lt (by omega)]
  rfl

section Writer

variable (s : Stream)

theorem writeFlag_stores (bit : Bool) :
    Stores (writeFlag (writing s) bit) (absorb s (.bits [bit])) := by
  have h := writeBit_stores s (if bit then 1 else 0)
  cases bit <;> exact h

theorem writeByte_stores (c : Byte) :
    Stores ((writing s).writeBit (c.setWidth 32)) (absorb s (.bits [decide (c ≠ 0)])) := by
  have h := writeBit_stores s (c.setWidth 32)
  have hiff : c.setWidth 32 = 0 ↔ c = 0 := setWidth_eq_zero_iff c
  simp only [ne_eq, hiff] at h
  exact h

/-- A guarded operation contributes its bits or nothing. -/
theorem guarded_bits_stores {g : Prop} [Decidable g] {r : Except ByteBufferError ByteBuffer}
    {bits : List Bool} (h : Stores r (absorb s (.bits bits))) :
    Stores (if g then r else return writing s) (absorb s (.bits (if g then bits else []))) := by
  split
  · exact h
  · simp only [absorb, List.append_nil]
    exact Stores.ok s

theorem guarded_bytes_stores {g : Prop} [Decidable g] {r : Except ByteBufferError ByteBuffer}
    {bytes : List Byte} (h : Stores r (absorb s (.bytes bytes))) :
    Stores (if g then r else return writing s) (absorb s (.bytes (if g then bytes else []))) := by
  split
  · exact h
  · exact Stores.ok s

theorem writeWhen_stores (condition : Bool) (t : ScalarType) (value : t.Value) :
    Stores (writeWhen (writing s) condition t value)
      (absorb s (.bytes (fieldBytes condition t value))) :=
  guarded_bytes_stores s (appendScalar_stores s value)

/-- Every element of the writer's switch stores its contribution. -/
theorem writeElement_stores {e : MovementStatusElement} (he : e ≠ .mseEnd) :
    Stores (writeElement ops info (writing s) e) (absorb s (payload ops info e)) := by
  cases e with
  | hasGuidByte i => exact writeByte_stores s _
  | hasTransportGuidByte i => exact guarded_bits_stores s (writeByte_stores s _)
  | guidByte i => exact writeByteSeq_stores s _
  | transportGuidByte i => exact guarded_bytes_stores s (writeByteSeq_stores s _)
  | hasTransportData => exact writeBit_stores s _
  | hasTransportTime2 => exact guarded_bits_stores s (writeBit_stores s _)
  | hasTransportTime3 => exact guarded_bits_stores s (writeBit_stores s _)
  | hasFallDirection => exact guarded_bits_stores s (writeFlag_stores s _)
  | movementFlags => exact guarded_bits_stores s (writeBits_stores s _ _)
  | movementFlags2 => exact guarded_bits_stores s (writeBits_stores s _ _)
  | zeroBit => exact writeBit_stores s 0
  | oneBit => exact writeBit_stores s 1
  | mseEnd => exact absurd rfl he
  | hasMovementFlags | hasMovementFlags2 | hasTimestamp | hasOrientation | hasPitch | hasFallData
  | hasSplineElevation | hasSpline => exact writeFlag_stores s _
  | _ => exact writeWhen_stores s _ _ _

end Writer

/-- A byte of a guid after its presence bit and some of its sequence elements were read:
every second element undoes the one before it. -/
def seqByte (passed : Nat) (announced : Bool) (c : Byte) : Byte :=
  if passed % 2 = 1 then c else if announced && decide (c ≠ 0) then 1 else 0

/-- The state of the reader behind the given elements. -/
def decoded (done : List MovementStatusElement) : Reader where
  hasMovementFlags := decide (.hasMovementFlags ∈ done) && decide (info.flags ≠ 0)
  hasMovementFlags2 := decide (.hasMovementFlags2 ∈ done) && decide (info.flags2 ≠ 0)
  hasTimestamp := decide (.hasTimestamp ∈ done) && decide (info.time ≠ 0)
  hasOrientation := decide (.hasOrientation ∈ done) && info.hasOrientation ops
  hasTransportData := decide (.hasTransportData ∈ done) && decide (info.tGuid.setWidth 32 ≠ 0)
  hasTransportTime2 := decide (.hasTransportTime2 ∈ done) && decide (info.tTime2 ≠ 0)
  hasTransportTime3 := decide (.hasTransportTime3 ∈ done) && decide (info.tTime3 ≠ 0)
  hasPitch := decide (.hasPitch ∈ done) && info.hasPitch ops
  hasFallData := decide (.hasFallData ∈ done) && info.hasFallData
  hasFallDirection := decide (.hasFallDirection ∈ done) && info.hasFallDirection
  hasSplineElevation := decide (.hasSplineElevation ∈ done) && info.hasSplineElevation ops
  id i := seqByte (done.count (.guidByte i)) (.hasGuidByte i ∈ done)
    (ObjectGuid.ofUInt64 info.guid i)
  tid i := seqByte (done.count (.transportGuidByte i)) (.hasTransportGuidByte i ∈ done)
    (ObjectGuid.ofUInt64 info.tGuid i)
  info :=
    { guid := 0
      flags := if .movementFlags ∈ done then info.flags else 0
      flags2 := if .movementFlags2 ∈ done then info.flags2 else 0
      pos :=
        { positionX := if .positionX ∈ done then info.pos.positionX else 0
          positionY := if .positionY ∈ done then info.pos.positionY else 0
          positionZ := if .positionZ ∈ done then info.pos.positionZ else 0
          orientation :=
            if .orientation ∈ done ∧ info.hasOrientation ops then
              ops.normalizeOrientation info.pos.orientation
            else 0 }
      time := if .timestamp ∈ done then info.time else 0
      tGuid := 0
      tPos :=
        { positionX := if .transportPositionX ∈ done then info.tPos.positionX else 0
          positionY := if .transportPositionY ∈ done then info.tPos.positionY else 0
          positionZ := if .transportPositionZ ∈ done then info.tPos.positionZ else 0
          orientation :=
            if .transportOrientation ∈ done ∧ info.tGuid ≠ 0 then
              ops.normalizeOrientation info.tPos.orientation
            else 0 }
      tSeat := if .transportSeat ∈ done then info.tSeat else -1
      tTime := if .transportTime ∈ done then info.tTime else 0
      tTime2 := if .transportTime2 ∈ done then info.tTime2 else 0
      tTime3 := if .transportTime3 ∈ done then info.tTime3 else 0
      pitch := if .pitch ∈ done then info.pitch else 0
      fallTime := if .fallTime ∈ done then info.fallTime else 0
      jZspeed := if .fallVerticalSpeed ∈ done then info.jZspeed else 0
      jCosAngle := if .fallCosAngle ∈ done then info.jCosAngle else 0
      jSinAngle := if .fallSinAngle ∈ done then info.jSinAngle else 0
      jXyspeed := if .fallHorizontalSpeed ∈ done then info.jXyspeed else 0
      hasSpline := decide (.hasSpline ∈ done) && info.hasSpline
      splineElevation := if .splineElevation ∈ done then info.splineElevation else 0
      ackCount := if .counter ∈ done then info.ackCount else 0
      ackSpeed := if ∃ kind, .speed kind ∈ done then info.ackSpeed else 0
      height := if .height ∈ done then info.height else 0 }

theorem decoded_nil : decoded ops info [] = Reader.start := by
  simp [decoded, Reader.start, MovementInfo.default, seqByte]

/-- The flags fit their fields, and a field that is not transferred has its default. -/
structure Representable : Prop where
  flags_lt : info.flags.toNat < 2 ^ 30
  flags2_lt : info.flags2.toNat < 2 ^ 12
  orientation_eq : info.hasOrientation ops = false → info.pos.orientation = 0
  pitch_eq : info.hasPitch ops = false → info.pitch = 0
  splineElevation_eq : info.hasSplineElevation ops = false → info.splineElevation = 0
  transport_eq : info.tGuid = 0 → info.tPos = ⟨0, 0, 0, 0⟩ ∧ info.tSeat = -1 ∧
    info.tTime = 0 ∧ info.tTime2 = 0 ∧ info.tTime3 = 0
  fall_eq : info.hasFallData = false → info.jZspeed = 0
  fallDirection_eq : info.hasFallDirection = false →
    info.jCosAngle = 0 ∧ info.jSinAngle = 0 ∧ info.jXyspeed = 0

/-- The word of the transport guid that reaches `WriteBit` tells whether there is a transport. -/
def TransportIntact : Prop := info.tGuid = 0 ∨ info.tGuid.setWidth 32 ≠ 0

instance : Decidable (TransportIntact info) := inferInstanceAs (Decidable (_ ∨ _))

variable {ops info}

section Takes

variable {storage : List Byte} {b : ByteBuffer}

variable {r : Reader}

/-- A read takes the given bits and ends in the given state; it fails on a shorter stream. -/
structure TakesBits (storage : List Byte) (b : ByteBuffer) (bits : List Bool) (r : Reader)
    (action : Except ByteBufferError (Reader × ByteBuffer)) : Prop where
  reads : ∀ {loose rest tail}, Reading storage b loose rest →
    loose ++ unpack rest = bits ++ tail →
      ∃ b' loose' rest', action = .ok (r, b') ∧ Reading storage b' loose' rest' ∧
        loose' ++ unpack rest' = tail
  fails : ∀ {loose rest}, Reading storage b loose rest →
    (loose ++ unpack rest).length < bits.length → ∃ e, action = .error e

/-- A read takes the given bytes at the cursor and ends in the given state. -/
structure TakesBytes (storage : List Byte) (b : ByteBuffer) (bytes : List Byte) (r : Reader)
    (action : Except ByteBufferError (Reader × ByteBuffer)) : Prop where
  reads : ∀ {loose rest}, Reading storage b loose (bytes ++ rest) →
    ∃ b', action = .ok (r, b') ∧ Reading storage b' loose rest

theorem TakesBits.flag {store : Bool → Reader} {x : Bool} (hr : store x = r) :
    TakesBits storage b [x] r (readFlag b store) where
  reads h hs := by
    obtain ⟨b', loose', rest', hread, h', hs'⟩ := readBit_reads h hs
    refine ⟨b', loose', rest', ?_, h', hs'⟩
    simp only [readFlag, hread, ← hr]
    rfl
  fails h hlen := by
    have hnil := List.eq_nil_of_length_eq_zero (Nat.lt_one_iff.mp hlen)
    obtain ⟨rfl, hrest⟩ := List.append_eq_nil_iff.mp hnil
    have hrest' := unpack_injective (hrest.trans unpack_nil.symm)
    subst hrest'
    exact ⟨_, by simp only [readFlag, readBit_fails h]; rfl⟩

theorem TakesBits.number {store : Nat → Reader} {n v : Nat} (hv : v < 2 ^ n) (hr : store v = r) :
    TakesBits storage b (bitsOfNat n v) r (readNumber b n store) where
  reads h hs := by
    obtain ⟨b', loose', rest', hread, h', hs'⟩ := readBits_reads h hs
    rw [bitsOfNat_length, natOfBits_bitsOfNat hv] at hread
    refine ⟨b', loose', rest', ?_, h', hs'⟩
    simp only [readNumber, hread, ← hr]
    rfl
  fails h hlen := by
    rw [bitsOfNat_length] at hlen
    obtain ⟨e, he⟩ := readBits_fails h hlen
    exact ⟨e, by simp only [readNumber, he]; rfl⟩

theorem TakesBits.guarded {g : Prop} [Decidable g] {flag : Bool} {bits : List Bool} {r' : Reader}
    {action : Except ByteBufferError (Reader × ByteBuffer)} (hflag : flag = decide g)
    (ht : g → TakesBits storage b bits r' action) (hf : ¬ g → r = r') :
    TakesBits storage b (if g then bits else []) r'
      (if flag then action else return (r, b)) := by
  by_cases hg : g
  · rw [hflag, if_pos hg, if_pos (decide_eq_true hg)]
    exact ht hg
  · rw [hflag, if_neg hg, if_neg (by simpa using hg), hf hg]
    exact ⟨fun h hs => ⟨b, _, _, rfl, h, hs⟩, fun _ hlen => absurd hlen (Nat.not_lt_zero _)⟩

theorem TakesBytes.value {t : ScalarType} {store : t.Value → Reader} {value : t.Value}
    (hr : store value = r) :
    TakesBytes storage b (fieldBytes true t value) r (readValue b t store) where
  reads h := by
    obtain ⟨b', hread, h'⟩ := readScalar_reads value h
    exact ⟨b', by simp only [readValue, hread, ← hr]; rfl, h'⟩

theorem TakesBytes.guarded {g : Prop} [Decidable g] {flag : Bool} {bytes : List Byte}
    {r' : Reader} {action : Except ByteBufferError (Reader × ByteBuffer)}
    (hflag : flag = decide g) (ht : g → TakesBytes storage b bytes r' action) (hf : ¬ g → r = r') :
    TakesBytes storage b (if g then bytes else []) r'
      (if flag then action else return (r, b)) := by
  by_cases hg : g
  · rw [hflag, if_pos hg, if_pos (decide_eq_true hg)]
    exact ht hg
  · rw [hflag, if_neg hg, if_neg (by simpa using hg), hf hg]
    exact ⟨fun h => ⟨b, rfl, h⟩⟩

theorem TakesBytes.field {g flag : Bool} {t : ScalarType} {store : t.Value → Reader}
    {value : t.Value} {r' : Reader} (hflag : flag = g) (ht : g = true → store value = r')
    (hf : g = false → r = r') :
    TakesBytes storage b (fieldBytes g t value) r'
      (if flag then readValue b t store else return (r, b)) :=
  TakesBytes.guarded (by rw [hflag, Bool.decide_eq_true]) (fun hg => TakesBytes.value (ht hg))
    fun hg => hf (by simpa using hg)

/-- One more sequence element of a guid byte whose presence bit was read. -/
theorem TakesBytes.seq {c d : Byte} {n : Nat} {store : Byte → Reader} (hd : d = seqByte n true c)
    (hr : store (seqByte (n + 1) true c) = r) :
    TakesBytes storage b (seqBytes c) r (readSeq b d store) := by
  constructor
  intro loose rest h
  have hzero : d = 0 ↔ c = 0 := by
    rw [hd, seqByte]
    by_cases hc : c = 0#8 <;> split <;> simp [hc]
  obtain ⟨b', hread, h'⟩ := readByteSeq_xor hzero h
  have hnext : (if c ≠ 0 then d ^^^ (c ^^^ 1#8) else 0) = seqByte (n + 1) true c := by
    rw [hd, seqByte, seqByte]
    rcases Nat.mod_two_eq_zero_or_one n with hn | hn
    · have hn' : (n + 1) % 2 = 1 := by omega
      by_cases hc : c = 0#8
      · simp [hc]
      · simp [hn, hn', hc, BitVec.xor_comm c]
    · have hn' : (n + 1) % 2 = 0 := by omega
      by_cases hc : c = 0#8
      · simp [hc]
      · simp [hn, hn', hc]
  refine ⟨b', ?_, h'⟩
  simp only [readSeq, hread, hnext, ← hr]
  rfl

end Takes

section Steps

variable {storage : List Byte} {b : ByteBuffer} {done : List MovementStatusElement}

variable {e : MovementStatusElement}

theorem decoded_hasTransportData (hmem : .hasTransportData ∈ done)
    (hintact : .hasTransportData ∈ done → TransportIntact info) :
    (decoded ops info done).hasTransportData = decide (info.tGuid ≠ 0) := by
  rcases hintact hmem with h | h
  · simp [decoded, h]
  · have hne : info.tGuid ≠ 0 := by
      rintro h0
      exact h (by simp [h0])
    simp only [decoded, hmem, decide_true, Bool.true_and]
    rw [decide_eq_true h, decide_eq_true hne]

theorem decoded_hasFallData (hmem : .hasFallData ∈ done) :
    (decoded ops info done).hasFallData = info.hasFallData := by
  simp [decoded, hmem]

theorem update_id_flag (i : Fin 8) (hnone : .guidByte i ∉ done) :
    Function.update (decoded ops info done).id i
        (flagByte (decide (ObjectGuid.ofUInt64 info.guid i ≠ 0))) =
      (decoded ops info (done ++ [.hasGuidByte i])).id := by
  funext j
  rcases eq_or_ne j i with rfl | hne
  · simp [decoded, seqByte, flagByte, List.count_eq_zero_of_not_mem hnone]
  · rw [Function.update_of_ne hne]
    simp [decoded, hne]

theorem update_tid_flag (i : Fin 8) (hnone : .transportGuidByte i ∉ done) :
    Function.update (decoded ops info done).tid i
        (flagByte (decide (ObjectGuid.ofUInt64 info.tGuid i ≠ 0))) =
      (decoded ops info (done ++ [.hasTransportGuidByte i])).tid := by
  funext j
  rcases eq_or_ne j i with rfl | hne
  · simp [decoded, seqByte, flagByte, List.count_eq_zero_of_not_mem hnone]
  · rw [Function.update_of_ne hne]
    simp [decoded, hne]

theorem update_id_seq (i : Fin 8) (hmem : .hasGuidByte i ∈ done) :
    Function.update (decoded ops info done).id i
        (seqByte (done.count (.guidByte i) + 1) true (ObjectGuid.ofUInt64 info.guid i)) =
      (decoded ops info (done ++ [.guidByte i])).id := by
  funext j
  rcases eq_or_ne j i with rfl | hne
  · simp [decoded, hmem]
  · rw [Function.update_of_ne hne]
    simp [decoded, List.count_append, List.count_singleton, hne.symm]

theorem update_tid_seq (i : Fin 8) (hmem : .hasTransportGuidByte i ∈ done) :
    Function.update (decoded ops info done).tid i
        (seqByte (done.count (.transportGuidByte i) + 1) true
          (ObjectGuid.ofUInt64 info.tGuid i)) =
      (decoded ops info (done ++ [.transportGuidByte i])).tid := by
  funext j
  rcases eq_or_ne j i with rfl | hne
  · simp [decoded, hmem]
  · rw [Function.update_of_ne hne]
    simp [decoded, List.count_append, List.count_singleton, hne.symm]

@[simp] theorem ofUInt64_zero (i : Fin 8) : ObjectGuid.ofUInt64 0#64 i = 0#8 := by
  simp [ObjectGuid.ofUInt64]

theorem fallDirection_absent (h : (info.hasFallData && info.hasFallDirection) = false) :
    info.hasFallDirection = false := by
  rcases Bool.and_eq_false_iff.mp h with hdata | hdir
  · simp [hasFallDirection, hdata]
  · exact hdir

/-- The bit elements of the reader's switch. -/
theorem readElement_takesBits (hrep : Representable ops info)
    (hintact : .hasTransportData ∈ done → TransportIntact info) (hbit : e.isBit = true)
    (hguards : ∀ g ∈ e.guards, g ∈ done)
    (hfresh : ∀ i, .guidByte i ∉ done ∧ .transportGuidByte i ∉ done) :
    TakesBits storage b (elementBits ops info e) (decoded ops info (done ++ [e]))
      (readElement ops (decoded ops info done) b e) := by
  cases e with
  | hasGuidByte i =>
    rw [elementBits, readElement]
    apply TakesBits.flag
    rw [update_id_flag i (hfresh i).1]
    simp [decoded]
  | hasTransportGuidByte i =>
    have hmem : .hasTransportData ∈ done := hguards _ (by simp [MovementStatusElement.guards])
    apply TakesBits.guarded (decoded_hasTransportData hmem hintact)
    · intro _
      apply TakesBits.flag
      rw [update_tid_flag i (hfresh i).2]
      simp [decoded]
    · intro h
      have h0 : info.tGuid = 0 := not_not.mp h
      simp [decoded, h0, seqByte]
  | hasTransportTime2 =>
    have hmem : .hasTransportData ∈ done := hguards _ (by simp [MovementStatusElement.guards])
    apply TakesBits.guarded (decoded_hasTransportData hmem hintact)
    · intro _
      exact TakesBits.flag (by simp [decoded])
    · intro h
      have htime := (hrep.transport_eq (not_not.mp h)).2.2.2.1
      simp [decoded, htime]
  | hasTransportTime3 =>
    have hmem : .hasTransportData ∈ done := hguards _ (by simp [MovementStatusElement.guards])
    apply TakesBits.guarded (decoded_hasTransportData hmem hintact)
    · intro _
      exact TakesBits.flag (by simp [decoded])
    · intro h
      have htime := (hrep.transport_eq (not_not.mp h)).2.2.2.2
      simp [decoded, htime]
  | hasFallDirection =>
    have hmem : .hasFallData ∈ done := hguards _ (by simp [MovementStatusElement.guards])
    apply TakesBits.guarded (by simp [decoded_hasFallData hmem])
    · intro _
      exact TakesBits.flag (by simp [decoded])
    · intro h
      have hdir : info.hasFallDirection = false := by simp [hasFallDirection, h]
      simp [decoded, hdir]
  | movementFlags =>
    have hmem : .hasMovementFlags ∈ done := hguards _ (by simp [MovementStatusElement.guards])
    apply TakesBits.guarded (by simp [decoded, hmem])
    · intro _
      exact TakesBits.number hrep.flags_lt (by simp [decoded])
    · intro h
      have h0 : info.flags = 0 := not_not.mp h
      simp [decoded, h0]
  | movementFlags2 =>
    have hmem : .hasMovementFlags2 ∈ done := hguards _ (by simp [MovementStatusElement.guards])
    apply TakesBits.guarded (by simp [decoded, hmem])
    · intro _
      exact TakesBits.number hrep.flags2_lt (by simp [decoded])
    · intro h
      have h0 : info.flags2 = 0 := not_not.mp h
      simp [decoded, h0]
  | hasMovementFlags | hasMovementFlags2 | hasTimestamp | hasOrientation | hasTransportData
  | hasPitch | hasFallData | hasSplineElevation | hasSpline | zeroBit | oneBit =>
    rw [elementBits, readElement]
    apply TakesBits.flag
    simp [decoded]
  | _ => cases hbit

/-- A transport time that is not written is zero. -/
theorem transportTime_absent {time : BitVec 32} (hzero : info.tGuid = 0 → time = 0)
    (h : decide (info.tGuid ≠ 0 ∧ time ≠ 0) = false) : time = 0 := by
  by_contra htime
  have hguid : info.tGuid ≠ 0 := fun hguid => htime (hzero hguid)
  exact of_decide_eq_false h ⟨hguid, htime⟩

/-- The byte elements that are written for a transport. -/
theorem readElement_takesTransport (hrep : Representable ops info)
    (hintact : .hasTransportData ∈ done → TransportIntact info) (hbit : e.isBit = false)
    (htransport : .hasTransportData ∈ e.guards) (hguards : ∀ g ∈ e.guards, g ∈ done) :
    TakesBytes storage b (elementBytes ops info e) (decoded ops info (done ++ [e]))
      (readElement ops (decoded ops info done) b e) := by
  have hmem : .hasTransportData ∈ done := hguards _ htransport
  have hdata := @decoded_hasTransportData ops info done hmem hintact
  cases e with
  | transportGuidByte i =>
    have hmem' : .hasTransportGuidByte i ∈ done :=
      hguards _ (by simp [MovementStatusElement.guards])
    rw [elementBytes, readElement]
    apply TakesBytes.guarded hdata
    · intro _
      apply TakesBytes.seq (n := done.count (.transportGuidByte i))
      · simp [decoded, hmem']
      · rw [update_tid_seq i hmem']
        simp [decoded]
    · intro h
      have h0 : info.tGuid = 0 := not_not.mp h
      simp [decoded, h0, seqByte]
  | transportOrientation =>
    rw [elementBytes, readElement]
    apply TakesBytes.field hdata
    · intro h
      have hne : info.tGuid ≠ 0#64 := by simpa using h
      simp [decoded, hne]
    · intro h
      have h0 : info.tGuid = 0#64 := by simpa using h
      simp [decoded, h0]
  | transportPositionX | transportPositionY | transportPositionZ | transportSeat
  | transportTime =>
    rw [elementBytes, readElement]
    apply TakesBytes.field hdata
    · intro _
      simp [decoded]
    · intro h
      simp [decoded, hrep.transport_eq (by simpa using h)]
  | transportTime2 =>
    have hmem' : .hasTransportTime2 ∈ done := hguards _ (by simp [MovementStatusElement.guards])
    rw [elementBytes, readElement]
    apply TakesBytes.field
    · rw [hdata]
      simp [decoded, hmem']
    · intro _
      simp [decoded]
    · intro h
      have h0 := transportTime_absent (fun hguid => (hrep.transport_eq hguid).2.2.2.1) h
      simp [decoded, h0]
  | transportTime3 =>
    have hmem' : .hasTransportTime3 ∈ done := hguards _ (by simp [MovementStatusElement.guards])
    rw [elementBytes, readElement]
    apply TakesBytes.field
    · rw [hdata]
      simp [decoded, hmem']
    · intro _
      simp [decoded]
    · intro h
      have h0 := transportTime_absent (fun hguid => (hrep.transport_eq hguid).2.2.2.2) h
      simp [decoded, h0]
  | hasTransportGuidByte i | hasTransportTime2 | hasTransportTime3 => cases hbit
  | _ => simp [MovementStatusElement.guards] at htransport

/-- The byte elements that are written for a fall. -/
theorem readElement_takesFall (hrep : Representable ops info) (hbit : e.isBit = false)
    (hfall : .hasFallData ∈ e.guards) (hguards : ∀ g ∈ e.guards, g ∈ done) :
    TakesBytes storage b (elementBytes ops info e) (decoded ops info (done ++ [e]))
      (readElement ops (decoded ops info done) b e) := by
  have hmem : .hasFallData ∈ done := hguards _ hfall
  have hdata := @decoded_hasFallData ops info done hmem
  cases e with
  | fallTime =>
    rw [elementBytes, readElement]
    apply TakesBytes.field hdata
    · intro _
      simp [decoded]
    · intro h
      have h0 : info.fallTime = 0 := by
        simp only [hasFallData, Bool.or_eq_false_iff] at h
        simpa using h.1
      simp [decoded, h0]
  | fallVerticalSpeed =>
    rw [elementBytes, readElement]
    apply TakesBytes.field hdata
    · intro _
      simp [decoded]
    · intro h
      simp [decoded, hrep.fall_eq h]
  | fallCosAngle | fallSinAngle | fallHorizontalSpeed =>
    have hmem' : .hasFallDirection ∈ done := hguards _ (by simp [MovementStatusElement.guards])
    rw [elementBytes, readElement]
    apply TakesBytes.field (by simp [decoded, hmem, hmem'])
    · intro _
      simp [decoded]
    · intro h
      simp [decoded, hrep.fallDirection_eq (fallDirection_absent h)]
  | hasFallDirection => cases hbit
  | _ => simp [MovementStatusElement.guards] at hfall

/-- The byte elements of the reader's switch. -/
theorem readElement_takesBytes (hrep : Representable ops info)
    (hintact : .hasTransportData ∈ done → TransportIntact info) (hbit : e.isBit = false)
    (hend : e ≠ .mseEnd) (hguards : ∀ g ∈ e.guards, g ∈ done) :
    TakesBytes storage b (elementBytes ops info e) (decoded ops info (done ++ [e]))
      (readElement ops (decoded ops info done) b e) := by
  by_cases htransport : .hasTransportData ∈ e.guards
  · exact readElement_takesTransport hrep hintact hbit htransport hguards
  by_cases hfall : .hasFallData ∈ e.guards
  · exact readElement_takesFall hrep hbit hfall hguards
  cases e with
  | guidByte i =>
    have hmem : .hasGuidByte i ∈ done := hguards _ (by simp [MovementStatusElement.guards])
    rw [elementBytes, readElement]
    apply TakesBytes.seq (n := done.count (.guidByte i))
    · simp [decoded, hmem]
    · rw [update_id_seq i hmem]
      simp [decoded]
  | timestamp =>
    have hmem : .hasTimestamp ∈ done := hguards _ (by simp [MovementStatusElement.guards])
    rw [elementBytes, readElement]
    apply TakesBytes.field (by simp [decoded, hmem])
    · intro _
      simp [decoded]
    · intro h
      have h0 : info.time = 0 := by simpa using h
      simp [decoded, h0]
  | orientation =>
    have hmem : .hasOrientation ∈ done := hguards _ (by simp [MovementStatusElement.guards])
    rw [elementBytes, readElement]
    apply TakesBytes.field (by simp [decoded, hmem])
    · intro h
      simp [decoded, h]
    · intro h
      simp [decoded, h]
  | pitch =>
    have hmem : .hasPitch ∈ done := hguards _ (by simp [MovementStatusElement.guards])
    rw [elementBytes, readElement]
    apply TakesBytes.field (by simp [decoded, hmem])
    · intro _
      simp [decoded]
    · intro h
      simp [decoded, hrep.pitch_eq h]
  | splineElevation =>
    have hmem : .hasSplineElevation ∈ done := hguards _ (by simp [MovementStatusElement.guards])
    rw [elementBytes, readElement]
    apply TakesBytes.field (by simp [decoded, hmem])
    · intro _
      simp [decoded]
    · intro h
      simp [decoded, hrep.splineElevation_eq h]
  | speed kind =>
    rw [elementBytes, readElement]
    apply TakesBytes.value
    simp [decoded]
  | positionX | positionY | positionZ | counter | height =>
    rw [elementBytes, readElement]
    apply TakesBytes.value
    simp [decoded]
  | mseEnd => exact absurd rfl hend
  | transportGuidByte i | transportOrientation | transportPositionX | transportPositionY
  | transportPositionZ | transportSeat | transportTime | transportTime2 | transportTime3 =>
    simp [MovementStatusElement.guards] at htransport
  | fallTime | fallVerticalSpeed | fallCosAngle | fallSinAngle | fallHorizontalSpeed =>
    simp [MovementStatusElement.guards] at hfall
  | _ => cases hbit

end Steps

end MovementInfo

end Cataclysm
