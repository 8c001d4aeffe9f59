import Cataclysm.Movement.Codec

/-!
# Agreement of the two movement switches

For a well-formed table, writing a representable structure and reading the
produced bytes returns the named fields. The presence bit of the transport block
is the exception: `WriteBit` takes a 32-bit word, so a transport guid whose low
word is zero announces no transport while its fields are still written.

The theorem at the end names the remaining conditions as well. `Write_OLD` does
not flush, so some byte has to follow bits that do not fill their last byte; a
guid byte read twice is undone; and the reader normalizes orientations.
-/

namespace Cataclysm
open BitString BlockStream ByteBuffer

namespace MovementStatusElement

/-- Every element stands behind its presence elements. -/
def guardsPrecede : List MovementStatusElement → List MovementStatusElement → Bool
  | _, [] => true
  | done, e :: rest => e.guards.all (· ∈ done) && guardsPrecede (done ++ [e]) rest

/-- All bit elements before all byte elements, and presence elements before what they guard. -/
def wellFormed (elements : List MovementStatusElement) : Bool :=
  (elements.dropWhile isBit).all (fun e => !e.isBit) && guardsPrecede [] elements

theorem guardsPrecede_append {done xs ys : List MovementStatusElement}
    (h : guardsPrecede done (xs ++ ys) = true) :
    guardsPrecede done xs = true ∧ guardsPrecede (done ++ xs) ys = true := by
  induction xs generalizing done with
  | nil => exact ⟨rfl, by simpa using h⟩
  | cons e rest ih =>
    simp only [List.cons_append, guardsPrecede, Bool.and_eq_true] at h ⊢
    obtain ⟨hrest, hys⟩ := ih h.2
    exact ⟨⟨h.1, hrest⟩, by simpa using hys⟩

end MovementStatusElement

open MovementStatusElement (guardsPrecede wellFormed)

namespace MovementInfo

variable (ops : FloatOps) (info : MovementInfo)

/-- The word that the `WriteBit` call of a presence element receives, when it is made. -/
def presenceWord : MovementStatusElement → Option (BitVec 32)
  | .hasGuidByte i => some ((ObjectGuid.ofUInt64 info.guid i).setWidth 32)
  | .hasMovementFlags => some (if info.flags = 0 then 1 else 0)
  | .hasMovementFlags2 => some (if info.flags2 = 0 then 1 else 0)
  | .hasTimestamp => some (if info.time = 0 then 1 else 0)
  | .hasOrientation => some (if !info.hasOrientation ops then 1 else 0)
  | .hasTransportData => some (info.tGuid.setWidth 32)
  | .hasTransportGuidByte i =>
    if info.tGuid ≠ 0 then some ((ObjectGuid.ofUInt64 info.tGuid i).setWidth 32) else none
  | .hasTransportTime2 => if info.tGuid ≠ 0 then some info.tTime2 else none
  | .hasTransportTime3 => if info.tGuid ≠ 0 then some info.tTime3 else none
  | .hasPitch => some (if !info.hasPitch ops then 1 else 0)
  | .hasFallData => some (if info.hasFallData then 1 else 0)
  | .hasFallDirection =>
    if info.hasFallData then some (if info.hasFallDirection then 1 else 0) else none
  | .hasSplineElevation => some (if !info.hasSplineElevation ops then 1 else 0)
  | _ => none

/-- The presence elements whose bit is clear when their payload follows. -/
def inverted : MovementStatusElement → Bool
  | .hasMovementFlags | .hasMovementFlags2 | .hasTimestamp | .hasOrientation | .hasPitch
  | .hasSplineElevation => true
  | _ => false

/-- What a presence word tells the reader. -/
def announces (e : MovementStatusElement) (w : BitVec 32) : Bool :=
  if inverted e then w = 0 else w ≠ 0

/-- The condition under which the payload guarded by a presence element is written. -/
def payloadWritten : MovementStatusElement → Bool
  | .hasGuidByte i => ObjectGuid.ofUInt64 info.guid i ≠ 0
  | .hasMovementFlags => info.flags ≠ 0
  | .hasMovementFlags2 => info.flags2 ≠ 0
  | .hasTimestamp => info.time ≠ 0
  | .hasOrientation => info.hasOrientation ops
  | .hasTransportData => info.tGuid ≠ 0
  | .hasTransportGuidByte i => info.tGuid ≠ 0 ∧ ObjectGuid.ofUInt64 info.tGuid i ≠ 0
  | .hasTransportTime2 => info.tGuid ≠ 0 ∧ info.tTime2 ≠ 0
  | .hasTransportTime3 => info.tGuid ≠ 0 ∧ info.tTime3 ≠ 0
  | .hasPitch => info.hasPitch ops
  | .hasFallData => info.hasFallData
  | .hasFallDirection => info.hasFallData && info.hasFallDirection
  | .hasSplineElevation => info.hasSplineElevation ops
  | _ => true

/-- The field that an element names has the same value in both structures. -/
def Returned (info info' : MovementInfo) : MovementStatusElement → Prop
  | .guidByte i => ObjectGuid.ofUInt64 info'.guid i = ObjectGuid.ofUInt64 info.guid i
  | .transportGuidByte i => ObjectGuid.ofUInt64 info'.tGuid i = ObjectGuid.ofUInt64 info.tGuid i
  | .hasSpline => info'.hasSpline = info.hasSpline
  | .movementFlags => info'.flags = info.flags
  | .movementFlags2 => info'.flags2 = info.flags2
  | .timestamp => info'.time = info.time
  | .positionX => info'.pos.positionX = info.pos.positionX
  | .positionY => info'.pos.positionY = info.pos.positionY
  | .positionZ => info'.pos.positionZ = info.pos.positionZ
  | .orientation => info'.pos.orientation = info.pos.orientation
  | .transportPositionX => info'.tPos.positionX = info.tPos.positionX
  | .transportPositionY => info'.tPos.positionY = info.tPos.positionY
  | .transportPositionZ => info'.tPos.positionZ = info.tPos.positionZ
  | .transportOrientation => info'.tPos.orientation = info.tPos.orientation
  | .transportSeat => info'.tSeat = info.tSeat
  | .transportTime => info'.tTime = info.tTime
  | .transportTime2 => info'.tTime2 = info.tTime2
  | .transportTime3 => info'.tTime3 = info.tTime3
  | .pitch => info'.pitch = info.pitch
  | .fallTime => info'.fallTime = info.fallTime
  | .fallVerticalSpeed => info'.jZspeed = info.jZspeed
  | .fallCosAngle => info'.jCosAngle = info.jCosAngle
  | .fallSinAngle => info'.jSinAngle = info.jSinAngle
  | .fallHorizontalSpeed => info'.jXyspeed = info.jXyspeed
  | .splineElevation => info'.splineElevation = info.splineElevation
  | .counter => info'.ackCount = info.ackCount
  | .speed _ => info'.ackSpeed = info.ackSpeed
  | .height => info'.height = info.height
  | _ => True

/-- A received packet with the given contents. -/
def received (storage : List Byte) : ByteBuffer := ⟨0, storage.length, 8, 0, storage⟩

/-- Presence bits tell what is written, and the produced bytes are read to their end and
return the named fields. -/
structure Agrees (sequence : List MovementStatusElement) : Prop where
  presence : ∀ e ∈ visited sequence, ∀ w, presenceWord ops info e = some w →
    announces e w = payloadWritten ops info e
  reads : ∃ b, writeOLD ops info sequence = .ok b ∧
    ∃ info' b', readOLD ops sequence (received b.storage) = .ok (info', b') ∧
      b'.rpos = b.storage.length ∧ ∀ e ∈ visited sequence, Returned info info' e

/-- A guid byte that is listed an odd number of times, or whose value every reading keeps. -/
def ByteKept (count : Nat) (c : Byte) : Prop := count % 2 = 1 ∨ c = 0 ∨ c = 1

instance (count : Nat) (c : Byte) : Decidable (ByteKept count c) :=
  inferInstanceAs (Decidable (_ ∨ _ ∨ _))

/-- The number of bits in front of the byte elements. -/
def bitCount (elements : List MovementStatusElement) : Nat :=
  (elements.flatMap (elementBits ops info)).length

/-- The conditions on table and structure under which the switches agree. -/
structure Carried (elements : List MovementStatusElement) : Prop where
  transport : .hasTransportData ∈ elements → TransportIntact info
  flushed : bitCount ops info elements % 8 = 0 ∨ ∃ e ∈ elements, elementBytes ops info e ≠ []
  guid : ∀ i, .guidByte i ∈ elements →
    ByteKept (elements.count (.guidByte i)) (ObjectGuid.ofUInt64 info.guid i)
  tGuid : ∀ i, .transportGuidByte i ∈ elements →
    ByteKept (elements.count (.transportGuidByte i)) (ObjectGuid.ofUInt64 info.tGuid i)
  orientation : .orientation ∈ elements → info.hasOrientation ops = true →
    ops.normalizeOrientation info.pos.orientation = info.pos.orientation
  tOrientation : .transportOrientation ∈ elements → info.tGuid ≠ 0 →
    ops.normalizeOrientation info.tPos.orientation = info.tPos.orientation

variable {ops info}

section Runs

variable {storage : List Byte} {b : ByteBuffer} {done : List MovementStatusElement}

variable {e : MovementStatusElement} {elements : List MovementStatusElement} {loose : List Bool}

theorem readElements_cons_ok {r r' : Reader} {b' : ByteBuffer}
    (h : readElement ops r b e = .ok (r', b')) (rest : List MovementStatusElement) :
    readElements ops r b (e :: rest) = readElements ops r' b' rest := by
  simp only [readElements, h, bind, Except.bind]

theorem readElements_cons_error {r : Reader} {err : ByteBufferError}
    (h : readElement ops r b e = .error err) (rest : List MovementStatusElement) :
    readElements ops r b (e :: rest) = .error err := by
  simp only [readElements, h, bind, Except.bind]

theorem forall_mem_concat {p : MovementStatusElement → Prop} (hdone : ∀ e ∈ done, p e) (he : p e) :
    ∀ e' ∈ done ++ [e], p e' := by
  intro e' hmem
  rcases List.mem_append.mp hmem with hmem | hmem
  · exact hdone e' hmem
  · rw [List.mem_singleton.mp hmem]
    exact he

theorem not_guidByte_of_bits (hdone : ∀ e ∈ done, e.isBit = true) (i : Fin 8) :
    .guidByte i ∉ done ∧ .transportGuidByte i ∉ done := by
  constructor
  · intro h
    cases hdone _ h
  · intro h
    cases hdone _ h

/-- The reader walks the presence bits of the table. -/
theorem readElements_bits (hrep : Representable ops info) (hbits : ∀ e ∈ elements, e.isBit = true)
    (hdone : ∀ e ∈ done, e.isBit = true) (hguards : guardsPrecede done elements = true)
    (hintact : .hasTransportData ∈ done ++ elements → TransportIntact info) {rest : List Byte}
    {tail : List Bool} (h : Reading storage b loose rest)
    (hs : loose ++ unpack rest = elements.flatMap (elementBits ops info) ++ tail)
    (more : List MovementStatusElement) :
    ∃ b' loose' rest', readElements ops (decoded ops info done) b (elements ++ more) =
        readElements ops (decoded ops info (done ++ elements)) b' more ∧
      Reading storage b' loose' rest' ∧ loose' ++ unpack rest' = tail := by
  induction elements generalizing b done loose rest with
  | nil => exact ⟨b, loose, rest, by simp, h, hs⟩
  | cons e elements ih =>
    simp only [guardsPrecede, Bool.and_eq_true, List.all_eq_true, decide_eq_true_eq] at hguards
    rw [List.forall_mem_cons] at hbits
    have htakes : TakesBits storage b _ _ _ := readElement_takesBits hrep
      (fun hmem => hintact (List.mem_append_left _ hmem)) hbits.1 hguards.1
      (not_guidByte_of_bits hdone)
    rw [List.flatMap_cons, List.append_assoc] at hs
    obtain ⟨b₁, loose₁, rest₁, hread, h₁, hs₁⟩ := htakes.reads h hs
    obtain ⟨b', loose', rest', hrun, h', hs'⟩ :=
      ih hbits.2 (forall_mem_concat hdone hbits.1) hguards.2 (by simpa using hintact) h₁ hs₁
    refine ⟨b', loose', rest', ?_, h', hs'⟩
    rw [List.cons_append, readElements_cons_ok hread, hrun]
    simp

/-- A stream that ends within the presence bits makes the reader fail. -/
theorem readElements_bits_fails (hrep : Representable ops info)
    (hbits : ∀ e ∈ elements, e.isBit = true) (hdone : ∀ e ∈ done, e.isBit = true)
    (hguards : guardsPrecede done elements = true)
    (hintact : .hasTransportData ∈ done ++ elements → TransportIntact info) {rest : List Byte}
    {missing : List Bool} (h : Reading storage b loose rest)
    (hs : elements.flatMap (elementBits ops info) = loose ++ unpack rest ++ missing)
    (hmissing : missing ≠ []) (more : List MovementStatusElement) :
    ∃ err, readElements ops (decoded ops info done) b (elements ++ more) = .error err := by
  induction elements generalizing b done loose rest with
  | nil =>
    have hnil := List.append_eq_nil_iff.mp hs.symm
    exact absurd hnil.2 hmissing
  | cons e elements ih =>
    simp only [guardsPrecede, Bool.and_eq_true, List.all_eq_true, decide_eq_true_eq] at hguards
    rw [List.forall_mem_cons] at hbits
    have htakes : TakesBits storage b _ _ _ := readElement_takesBits hrep
      (fun hmem => hintact (List.mem_append_left _ hmem)) hbits.1 hguards.1
      (not_guidByte_of_bits hdone)
    rw [List.flatMap_cons] at hs
    rcases Nat.lt_or_ge (loose ++ unpack rest).length (elementBits ops info e).length
      with hlt | hge
    · obtain ⟨err, herr⟩ := htakes.fails h hlt
      exact ⟨err, readElements_cons_error herr _⟩
    · obtain ⟨tail, htail⟩ : ∃ tail, loose ++ unpack rest = elementBits ops info e ++ tail := by
        have hpre : elementBits ops info e <+: loose ++ unpack rest :=
          List.prefix_of_prefix_length_le ⟨_, hs⟩ ⟨missing, rfl⟩ hge
        exact ⟨_, hpre.choose_spec.symm⟩
      obtain ⟨b₁, loose₁, rest₁, hread, h₁, hs₁⟩ := htakes.reads h htail
      rw [htail, ← hs₁, List.append_assoc] at hs
      obtain ⟨err, herr⟩ := ih hbits.2 (forall_mem_concat hdone hbits.1) hguards.2
        (by simpa using hintact) h₁ (List.append_cancel_left hs)
      exact ⟨err, by rw [List.cons_append, readElements_cons_ok hread, herr]⟩

/-- The reader walks the byte elements of the table. -/
theorem readElements_bytes (hrep : Representable ops info)
    (hbytes : ∀ e ∈ elements, e.isBit = false) (hend : ∀ e ∈ elements, e ≠ .mseEnd)
    (hguards : guardsPrecede done elements = true)
    (hintact : .hasTransportData ∈ done ++ elements → TransportIntact info)
    (h : Reading storage b loose (elements.flatMap (elementBytes ops info))) :
    ∃ b', readElements ops (decoded ops info done) b elements =
        .ok (decoded ops info (done ++ elements), b') ∧
      Reading storage b' loose [] := by
  induction elements generalizing b done with
  | nil => exact ⟨b, by simp [readElements, pure, Except.pure], h⟩
  | cons e elements ih =>
    simp only [guardsPrecede, Bool.and_eq_true, List.all_eq_true, decide_eq_true_eq] at hguards
    rw [List.forall_mem_cons] at hbytes hend
    have htakes : TakesBytes storage b _ _ _ := readElement_takesBytes hrep
      (fun hmem => hintact (List.mem_append_left _ hmem)) hbytes.1 hend.1 hguards.1
    rw [List.flatMap_cons] at h
    obtain ⟨b₁, hread, h₁⟩ := htakes.reads h
    obtain ⟨b', hrun, h'⟩ := ih hbytes.2 hend.2 hguards.2 (by simpa using hintact) h₁
    refine ⟨b', ?_, h'⟩
    rw [readElements_cons_ok hread, hrun]
    simp

end Runs

section Writes

variable {e : MovementStatusElement}

/-- The stream behind a table of bits followed by bytes. -/
theorem absorb_elements (ops : FloatOps) (info : MovementInfo)
    {bits bytes : List MovementStatusElement}
    (hbits : ∀ e ∈ bits, e.isBit = true) (hbytes : ∀ e ∈ bytes, e.isBit = false) :
    ((bits ++ bytes).map (payload ops info)).foldl absorb ⟨[], []⟩ =
      absorb ⟨[], bits.flatMap (elementBits ops info)⟩
        (.bytes (bytes.flatMap (elementBytes ops info))) := by
  have hrun : ∀ run, (bits.map (payload ops info)).foldl absorb ⟨[], run⟩ =
      ⟨[], run ++ bits.flatMap (elementBits ops info)⟩ := by
    clear hbytes
    induction bits with
    | nil => simp
    | cons e bits ih =>
      intro run
      rw [List.forall_mem_cons] at hbits
      rw [List.map_cons, List.foldl_cons, payload, if_pos hbits.1, absorb, ih hbits.2]
      simp
  have hclosed : ∀ s, (bytes.map (payload ops info)).foldl absorb s =
      absorb s (.bytes (bytes.flatMap (elementBytes ops info))) := by
    clear hrun hbits
    induction bytes with
    | nil => simp [absorb]
    | cons e bytes ih =>
      intro s
      rw [List.forall_mem_cons] at hbytes
      rw [List.map_cons, List.foldl_cons, payload, if_neg (by simp [hbytes.1]), ih hbytes.2,
        absorb_absorb_bytes, List.flatMap_cons]
  rw [List.map_append, List.foldl_append, hrun, hclosed, List.nil_append]

theorem elementBits_length_le (ops : FloatOps) (info : MovementInfo) (e : MovementStatusElement) :
    (elementBits ops info e).length ≤ 30 := by
  cases e with
  | hasTransportGuidByte i | hasTransportTime2 | hasTransportTime3 | hasFallDirection
  | movementFlags | movementFlags2 =>
    rw [elementBits]
    split <;> simp
  | _ => simp [elementBits]

theorem fieldBytes_length_le (g : Bool) (t : ScalarType) (value : t.Value) :
    (fieldBytes g t value).length ≤ 8 := by
  rw [fieldBytes]
  split
  · rw [leBytes_length]
    cases t <;> decide
  · simp

theorem seqBytes_length_le (c : Byte) : (seqBytes c).length ≤ 8 := by
  rw [seqBytes]
  split <;> simp

theorem elementBytes_length_le (ops : FloatOps) (info : MovementInfo)
    (e : MovementStatusElement) :
    (elementBytes ops info e).length ≤ 8 := by
  cases e with
  | guidByte i => exact seqBytes_length_le _
  | transportGuidByte i =>
    rw [elementBytes]
    split
    · exact seqBytes_length_le _
    · simp
  | timestamp | positionX | positionY | positionZ | orientation | transportPositionX
  | transportPositionY | transportPositionZ | transportOrientation | transportSeat | transportTime
  | transportTime2 | transportTime3 | pitch | fallTime | fallVerticalSpeed | fallCosAngle
  | fallSinAngle | fallHorizontalSpeed | splineElevation | counter | speed kind | height =>
    exact fieldBytes_length_le _ _ _
  | _ => simp [elementBytes]

theorem flatMap_length_le {α β : Type} {f : α → List β} {k : Nat} (hf : ∀ x, (f x).length ≤ k)
    (xs : List α) : (xs.flatMap f).length ≤ k * xs.length := by
  induction xs with
  | nil => simp
  | cons x xs ih =>
    have hx := hf x
    rw [List.flatMap_cons, List.length_append, List.length_cons, Nat.mul_succ]
    omega

theorem visited_length_le (sequence : List MovementStatusElement) :
    (visited sequence).length ≤ mseCount := by
  calc (visited sequence).length
      ≤ (sequence.take mseCount).length := (List.takeWhile_prefix _).length_le
    _ ≤ mseCount := List.length_take_le _ _

theorem ne_mseEnd_of_visited {sequence : List MovementStatusElement} (h : e ∈ visited sequence) :
    e ≠ .mseEnd := by
  simpa using List.mem_takeWhile_imp h

theorem elementBits_of_byte (h : e.isBit = false) : elementBits ops info e = [] := by
  cases e with
  | hasGuidByte | hasMovementFlags | hasMovementFlags2 | hasTimestamp | hasOrientation
  | hasTransportData | hasTransportGuidByte | hasTransportTime2 | hasTransportTime3 | hasPitch
  | hasFallData | hasFallDirection | hasSplineElevation | hasSpline | movementFlags
  | movementFlags2 | zeroBit | oneBit => cases h
  | _ => rfl

theorem elementBytes_of_bit (h : e.isBit = true) : elementBytes ops info e = [] := by
  cases e with
  | hasGuidByte | hasMovementFlags | hasMovementFlags2 | hasTimestamp | hasOrientation
  | hasTransportData | hasTransportGuidByte | hasTransportTime2 | hasTransportTime3 | hasPitch
  | hasFallData | hasFallDirection | hasSplineElevation | hasSpline | movementFlags
  | movementFlags2 | zeroBit | oneBit => rfl
  | _ => cases h

/-- A table split into its bit elements and its byte elements. -/
structure Split (elements bits bytes : List MovementStatusElement) : Prop where
  eq : elements = bits ++ bytes
  isBit : ∀ e ∈ bits, e.isBit = true
  isByte : ∀ e ∈ bytes, e.isBit = false
  bitGuards : guardsPrecede [] bits = true
  byteGuards : guardsPrecede bits bytes = true

theorem split_of_wellFormed {elements : List MovementStatusElement}
    (h : wellFormed elements = true) : ∃ bits bytes, Split elements bits bytes := by
  simp only [wellFormed, Bool.and_eq_true, List.all_eq_true, Bool.not_eq_true'] at h
  have heq := List.takeWhile_append_dropWhile (p := MovementStatusElement.isBit) (l := elements)
  have hguards := MovementStatusElement.guardsPrecede_append (heq.symm ▸ h.2)
  exact ⟨_, _, heq.symm, fun e he => List.mem_takeWhile_imp he, h.1, hguards.1, hguards.2⟩

section Split

variable {elements bits bytes : List MovementStatusElement}

theorem Split.bitString_eq (h : Split elements bits bytes) :
    elements.flatMap (elementBits ops info) = bits.flatMap (elementBits ops info) := by
  have hnil : bytes.flatMap (elementBits ops info) = [] := by
    rw [List.flatMap_eq_nil_iff]
    exact fun e he => elementBits_of_byte (h.isByte e he)
  rw [h.eq, List.flatMap_append, hnil, List.append_nil]

theorem Split.bytes_ne_nil_iff (h : Split elements bits bytes) :
    bytes.flatMap (elementBytes ops info) ≠ [] ↔
      ∃ e ∈ elements, elementBytes ops info e ≠ [] := by
  have hnil : bits.flatMap (elementBytes ops info) = [] := by
    rw [List.flatMap_eq_nil_iff]
    exact fun e he => elementBytes_of_bit (h.isBit e he)
  have heq : bytes.flatMap (elementBytes ops info) =
      elements.flatMap (elementBytes ops info) := by
    rw [h.eq, List.flatMap_append, hnil, List.nil_append]
  rw [heq, ne_eq, List.flatMap_eq_nil_iff]
  simp

end Split

/-- The writer never hits the size assertion. -/
theorem writeOLD_eq {sequence bits bytes : List MovementStatusElement}
    (h : Split (visited sequence) bits bytes) :
    writeOLD ops info sequence = .ok (writing
      (absorb ⟨[], bits.flatMap (elementBits ops info)⟩
        (.bytes (bytes.flatMap (elementBytes ops info))))) := by
  have hstores : Stores (writeOLD ops info sequence)
      (((visited sequence).map (payload ops info)).foldl absorb ⟨[], []⟩) :=
    foldlM_stores
      (fun e he s => writeElement_stores ops info s (ne_mseEnd_of_visited he)) ⟨[], []⟩
  rw [h.eq, absorb_elements ops info h.isBit h.isByte] at hstores
  apply hstores.2
  have hlen := congrArg List.length h.eq
  have hcount := visited_length_le sequence
  have hbits := flatMap_length_le (elementBits_length_le ops info) bits
  have hbytes := flatMap_length_le (elementBytes_length_le ops info) bytes
  have hfinish : (finish (absorb ⟨[], bits.flatMap (elementBits ops info)⟩
      (.bytes (bytes.flatMap (elementBytes ops info))))).length =
        ((bits.flatMap (elementBits ops info)).length + 7) / 8 +
          (bytes.flatMap (elementBytes ops info)).length := by
    rw [← packBits_length]
    by_cases hnil : bytes.flatMap (elementBytes ops info) = []
    · simp [absorb, hnil, finish]
    · simp [absorb, hnil, finish]
  rw [hfinish]
  rw [List.length_append] at hlen
  simp only [mseCount] at hcount
  simp only [maxSize]
  omega

/-- The stored bytes when the bits fill their last byte or some byte follows them. -/
theorem storage_flushed {run : List Bool} {bytes : List Byte}
    (h : run.length % 8 = 0 ∨ bytes ≠ []) :
    (writing (absorb ⟨[], run⟩ (.bytes bytes))).storage = packBits run ++ bytes := by
  by_cases hnil : bytes = []
  · have hrun := h.resolve_right (not_not.mpr hnil)
    have haligned := congrArg ByteBuffer.storage (writing_eq_of_aligned ⟨[], run⟩ hrun)
    simpa [absorb, hnil, finish] using haligned
  · simp [absorb, hnil]

/-- Otherwise the loose bits are not stored. -/
theorem storage_unflushed {run : List Bool} (h : run.length % 8 ≠ 0) :
    ∃ missing, missing ≠ [] ∧
      run = unpack (writing (absorb ⟨[], run⟩ (.bytes []))).storage ++ missing := by
  refine ⟨(fill run).2, mt (fill_loose_eq_nil_iff run).mp h, ?_⟩
  simpa [absorb] using (unpack_fill run).1.symm

end Writes

section Reads

variable {sequence bits bytes : List MovementStatusElement}

theorem reading_received (storage : List Byte) :
    Reading storage (received storage) [] storage :=
  reading_start (b := received storage) rfl rfl

/-- The reader reaches the end of a packet whose bits were all stored. -/
theorem readOLD_flushed (hrep : Representable ops info) (h : Split (visited sequence) bits bytes)
    (hintact : .hasTransportData ∈ visited sequence → TransportIntact info) :
    ∃ b', readOLD ops sequence (received (packBits (bits.flatMap (elementBits ops info)) ++
        bytes.flatMap (elementBytes ops info))) =
        .ok ((decoded ops info (visited sequence)).result, b') ∧
      b'.rpos = (packBits (bits.flatMap (elementBits ops info)) ++
        bytes.flatMap (elementBytes ops info)).length := by
  set storage := packBits (bits.flatMap (elementBits ops info)) ++
    bytes.flatMap (elementBytes ops info) with hstorage
  have hs : [] ++ unpack storage = bits.flatMap (elementBits ops info) ++
      (List.replicate (padding (bits.flatMap (elementBits ops info))) false ++
        unpack (bytes.flatMap (elementBytes ops info))) := by
    simp [hstorage, unpack_packBits]
  rw [h.eq] at hintact
  obtain ⟨b₁, loose₁, rest₁, hbits, h₁, hs₁⟩ := readElements_bits hrep h.isBit (by simp)
    h.bitGuards (fun hmem => hintact (List.mem_append_left _ (by simpa using hmem)))
    (reading_received storage) hs bytes
  obtain ⟨-, rfl⟩ := stream_unique h₁.loose_lt (by simpa using padding_lt _) hs₁
  have hend : ∀ e ∈ bytes, e ≠ .mseEnd := fun e he =>
    ne_mseEnd_of_visited (by rw [h.eq]; exact List.mem_append_right _ he)
  obtain ⟨b', hbytes, h'⟩ := readElements_bytes hrep h.isByte hend h.byteGuards hintact h₁
  refine ⟨b', ?_, h'.rpos_eq_length⟩
  rw [decoded_nil, List.nil_append] at hbits
  simp only [readOLD, h.eq, hbits, hbytes, bind, Except.bind]
  rfl

/-- The reader fails on a packet whose last bits were not stored. -/
theorem readOLD_unflushed (hrep : Representable ops info)
    (h : Split (visited sequence) bits bytes)
    (hintact : .hasTransportData ∈ visited sequence → TransportIntact info)
    {storage : List Byte} {missing : List Bool} (hmissing : missing ≠ [])
    (hs : bits.flatMap (elementBits ops info) = unpack storage ++ missing) :
    ∃ err, readOLD ops sequence (received storage) = .error err := by
  rw [h.eq] at hintact
  obtain ⟨err, herr⟩ := readElements_bits_fails hrep h.isBit (by simp) h.bitGuards
    (fun hmem => hintact (List.mem_append_left _ (by simpa using hmem)))
    (reading_received storage) hs hmissing bytes
  rw [decoded_nil] at herr
  exact ⟨err, by simp only [readOLD, h.eq, herr, bind, Except.bind]⟩

end Reads

theorem ofUInt64_toUInt64 (id : ObjectGuid) (i : Fin 8) :
    ObjectGuid.ofUInt64 (ObjectGuid.toUInt64 id) i = id i := by
  apply BitVec.eq_of_getLsbD_eq
  intro j hj
  simp only [ObjectGuid.ofUInt64, ObjectGuid.toUInt64, BitVec.getLsbD_extractLsb',
    BitVec.getLsbD_append]
  fin_cases i <;> grind

theorem seqByte_eq_iff (n : Nat) (c : Byte) : seqByte n true c = c ↔ ByteKept n c := by
  rw [seqByte, ByteKept]
  by_cases hn : n % 2 = 1
  · simp [hn]
  · by_cases hc : c = 0#8
    · simp [hc]
    · simp [hn, hc, eq_comm]

section Fields

variable {elements : List MovementStatusElement}

/-- The guard of an element of a well-formed table is listed. -/
theorem guard_mem {done elements : List MovementStatusElement}
    (h : guardsPrecede done elements = true) {e g : MovementStatusElement} (he : e ∈ elements)
    (hg : g ∈ e.guards) : g ∈ done ++ elements := by
  induction elements generalizing done with
  | nil => cases he
  | cons x rest ih =>
    simp only [guardsPrecede, Bool.and_eq_true, List.all_eq_true, decide_eq_true_eq] at h
    rcases List.mem_cons.mp he with rfl | hmem
    · exact List.mem_append_left _ (h.1 g hg)
    · simpa using ih h.2 hmem

theorem returned_guidByte_iff (hguards : guardsPrecede [] elements = true) {i : Fin 8}
    (h : .guidByte i ∈ elements) :
    Returned info (decoded ops info elements).result (.guidByte i) ↔
      ByteKept (elements.count (.guidByte i)) (ObjectGuid.ofUInt64 info.guid i) := by
  have hmem : .hasGuidByte i ∈ elements :=
    guard_mem hguards h (by simp [MovementStatusElement.guards])
  rw [← seqByte_eq_iff]
  simp [Returned, Reader.result, ofUInt64_toUInt64, decoded, hmem]

theorem returned_transportGuidByte_iff (hguards : guardsPrecede [] elements = true) {i : Fin 8}
    (h : .transportGuidByte i ∈ elements) :
    Returned info (decoded ops info elements).result (.transportGuidByte i) ↔
      ByteKept (elements.count (.transportGuidByte i)) (ObjectGuid.ofUInt64 info.tGuid i) := by
  have hmem : .hasTransportGuidByte i ∈ elements :=
    guard_mem hguards h (by simp [MovementStatusElement.guards])
  rw [← seqByte_eq_iff]
  simp [Returned, Reader.result, ofUInt64_toUInt64, decoded, hmem]

theorem returned_orientation_iff (hrep : Representable ops info) (h : .orientation ∈ elements) :
    Returned info (decoded ops info elements).result .orientation ↔
      (info.hasOrientation ops = true →
        ops.normalizeOrientation info.pos.orientation = info.pos.orientation) := by
  by_cases hor : info.hasOrientation ops = true
  · simp [Returned, Reader.result, decoded, h, hor]
  · have h0 := hrep.orientation_eq (by simpa using hor)
    simp [Returned, Reader.result, decoded, hor, h0]

theorem returned_transportOrientation_iff (hrep : Representable ops info)
    (h : .transportOrientation ∈ elements) :
    Returned info (decoded ops info elements).result .transportOrientation ↔
      (info.tGuid ≠ 0 →
        ops.normalizeOrientation info.tPos.orientation = info.tPos.orientation) := by
  by_cases hguid : info.tGuid = 0#64
  · have h0 := (hrep.transport_eq hguid).1
    simp [Returned, Reader.result, decoded, hguid, h0]
  · simp [Returned, Reader.result, decoded, h, hguid]

/-- Every other field comes back from any table that lists it. -/
theorem returned_of_carried (hrep : Representable ops info)
    (hguards : guardsPrecede [] elements = true) (hcarried : Carried ops info elements)
    {e : MovementStatusElement} (he : e ∈ elements) :
    Returned info (decoded ops info elements).result e := by
  cases e with
  | guidByte i => exact (returned_guidByte_iff hguards he).mpr (hcarried.guid i he)
  | transportGuidByte i =>
    exact (returned_transportGuidByte_iff hguards he).mpr (hcarried.tGuid i he)
  | orientation => exact (returned_orientation_iff hrep he).mpr (hcarried.orientation he)
  | transportOrientation =>
    exact (returned_transportOrientation_iff hrep he).mpr (hcarried.tOrientation he)
  | speed kind =>
    have hspeed : ∃ k, .speed k ∈ elements := ⟨kind, he⟩
    simp [Returned, Reader.result, decoded, hspeed]
  | _ => simp [Returned, Reader.result, decoded, he]

end Fields

/-- Presence bits tell what is written, the transport apart. -/
theorem presence_of_intact {e : MovementStatusElement} {w : BitVec 32}
    (hintact : e = .hasTransportData → TransportIntact info)
    (h : presenceWord ops info e = some w) : announces e w = payloadWritten ops info e := by
  cases e with
  | hasTransportData =>
    cases h
    rcases hintact rfl with h0 | hne
    · simp [announces, inverted, payloadWritten, h0]
    · have hguid : info.tGuid ≠ 0#64 := by
        rintro h0
        exact hne (by simp [h0])
      simpa [announces, inverted, payloadWritten, hguid] using hne
  | hasGuidByte i =>
    cases h
    simp [announces, inverted, payloadWritten, setWidth_eq_zero_iff]
  | hasTransportGuidByte i =>
    rw [presenceWord] at h
    split at h
    · rename_i hguid
      have hguid' : info.tGuid ≠ 0#64 := hguid
      cases h
      simp [announces, inverted, payloadWritten, setWidth_eq_zero_iff, hguid']
    · cases h
  | hasTransportTime2 | hasTransportTime3 =>
    rw [presenceWord] at h
    split at h
    · rename_i hguid
      have hguid' : info.tGuid ≠ 0#64 := hguid
      cases h
      simp [announces, inverted, payloadWritten, hguid']
    · cases h
  | hasFallDirection =>
    rw [presenceWord] at h
    split at h
    · rename_i hfall
      cases h
      cases hdir : info.hasFallDirection <;> simp [announces, inverted, payloadWritten, hfall, hdir]
    · cases h
  | hasMovementFlags | hasMovementFlags2 | hasTimestamp =>
    cases h
    simp [announces, inverted, payloadWritten]
  | hasOrientation | hasPitch | hasFallData | hasSplineElevation =>
    cases h
    simp [announces, inverted, payloadWritten]
  | _ => cases h

theorem intact_of_presence
    (h : announces .hasTransportData (info.tGuid.setWidth 32) =
      payloadWritten ops info .hasTransportData) : TransportIntact info := by
  rcases eq_or_ne info.tGuid 0 with h0 | hne
  · exact Or.inl h0
  · right
    have hannounced : announces .hasTransportData (info.tGuid.setWidth 32) = true := by
      rw [h]
      exact decide_eq_true hne
    exact of_decide_eq_true hannounced

/-- The two switches agree on a well-formed table exactly when the conditions of `Carried` hold. -/
theorem agrees_iff_carried (ops : FloatOps) (info : MovementInfo)
    (sequence : List MovementStatusElement) (hwf : wellFormed (visited sequence) = true)
    (hrep : Representable ops info) :
    Agrees ops info sequence ↔ Carried ops info (visited sequence) := by
  obtain ⟨bits, bytes, hsplit⟩ := split_of_wellFormed hwf
  have hguards : guardsPrecede [] (visited sequence) = true := by
    simp only [wellFormed, Bool.and_eq_true] at hwf
    exact hwf.2
  have hwrite : writeOLD ops info sequence = _ := writeOLD_eq hsplit
  have hcount : bitCount ops info (visited sequence) =
      (bits.flatMap (elementBits ops info)).length := by
    rw [bitCount, hsplit.bitString_eq]
  -- Either every bit is stored and the reader decodes the table, or the reader runs dry.
  constructor
  · intro h
    have hintact : .hasTransportData ∈ visited sequence → TransportIntact info :=
      fun hmem => intact_of_presence (h.presence _ hmem _ rfl)
    obtain ⟨b, hb, info', b', hread, -, hreturned⟩ := h.reads
    rw [hwrite] at hb
    obtain rfl := Except.ok.inj hb
    have hflushed : bitCount ops info (visited sequence) % 8 = 0 ∨
        ∃ e ∈ visited sequence, elementBytes ops info e ≠ [] := by
      by_contra hnot
      rw [not_or, ← hsplit.bytes_ne_nil_iff, not_not, hcount] at hnot
      obtain ⟨missing, hmissing, hrun⟩ := storage_unflushed hnot.1
      rw [hnot.2] at hread
      obtain ⟨err, herr⟩ := readOLD_unflushed hrep hsplit hintact hmissing hrun
      rw [herr] at hread
      cases hread
    have hstored := hflushed
    rw [hcount, ← hsplit.bytes_ne_nil_iff] at hstored
    rw [storage_flushed hstored] at hread
    obtain ⟨b'', hdecoded, -⟩ := readOLD_flushed hrep hsplit hintact
    rw [hdecoded] at hread
    obtain ⟨rfl, -⟩ := Prod.mk.inj (Except.ok.inj hread)
    exact
      { transport := hintact
        flushed := hflushed
        guid := fun i hi => (returned_guidByte_iff hguards hi).mp (hreturned _ hi)
        tGuid := fun i hi => (returned_transportGuidByte_iff hguards hi).mp (hreturned _ hi)
        orientation := fun hi => (returned_orientation_iff hrep hi).mp (hreturned _ hi)
        tOrientation := fun hi =>
          (returned_transportOrientation_iff hrep hi).mp (hreturned _ hi) }
  · intro h
    have hstored := h.flushed
    rw [hcount, ← hsplit.bytes_ne_nil_iff] at hstored
    obtain ⟨b', hdecoded, hrpos⟩ := readOLD_flushed hrep hsplit h.transport
    refine ⟨?_, _, hwrite, (decoded ops info (visited sequence)).result, b', ?_, ?_, ?_⟩
    · intro e he w hw
      exact presence_of_intact (fun heq => h.transport (heq ▸ he)) hw
    · rw [storage_flushed hstored, hdecoded]
    · rw [storage_flushed hstored, hrpos]
    · exact fun e he => returned_of_carried hrep hguards h he

/-- Float functions that act as the real ones do on zeros and on one. -/
def plainFloats : FloatOps := ⟨fun w => w <<< 1 = 0, fun w => w⟩

/-- A table with a timestamp, an orientation and a transport. -/
def transportTable : List MovementStatusElement :=
  [.hasGuidByte 0, .hasTimestamp, .hasOrientation, .hasTransportData, .hasTransportGuidByte 0,
    .hasTransportGuidByte 4, .hasTransportTime2, .positionX, .guidByte 0, .transportGuidByte 4,
    .transportGuidByte 0, .transportOrientation, .transportTime2, .orientation, .timestamp, .mseEnd]

/-- A player on a transport, at a given transport guid. -/
def passenger (tGuid : BitVec 64) : MovementInfo :=
  { MovementInfo.default with
    guid := 5
    pos := ⟨7, 0, 0, 0x3F800000⟩
    time := 9
    tGuid
    tPos := ⟨1, 2, 3, 0x3F800000⟩
    tSeat := 0
    tTime2 := 4 }

theorem passenger_representable (tGuid : BitVec 64) (h : tGuid ≠ 0) :
    Representable plainFloats (passenger tGuid) where
  flags_lt := by simp [passenger, MovementInfo.default]
  flags2_lt := by simp [passenger, MovementInfo.default]
  orientation_eq := by simp [hasOrientation, plainFloats, passenger]
  pitch_eq := fun _ => rfl
  splineElevation_eq := fun _ => rfl
  transport_eq := fun h0 => absurd h0 h
  fall_eq := fun _ => rfl
  fallDirection_eq := fun _ => ⟨rfl, rfl, rfl⟩

/-- The switches agree on a passenger of a transport whose guid has a low word. -/
theorem agrees_passenger : Agrees plainFloats (passenger 0x1F00000000000003) transportTable := by
  apply (agrees_iff_carried _ _ _ (by decide) (passenger_representable _ (by decide))).mpr
  exact
    { transport := by decide
      flushed := by decide
      guid := by decide
      tGuid := by decide
      orientation := by decide
      tOrientation := by decide }

/-- A transport guid with a zero low word: the presence bit is clear, the transport fields are
written, and the reader takes them for what follows. -/
theorem passenger_lost :
    wellFormed (visited transportTable) = true ∧
      Representable plainFloats (passenger 0x0000000100000000) ∧
      (do
        let b ← writeOLD plainFloats (passenger 0x0000000100000000) transportTable
        let (info, b') ← readOLD plainFloats transportTable (received b.storage)
        return (info.tGuid, info.time, b'.rpos, b.storage.length)) =
          (.ok (0, 0x43F, 14, 23) : Except ByteBufferError _) ∧
      ¬ Agrees plainFloats (passenger 0x0000000100000000) transportTable := by
  refine ⟨by decide, passenger_representable _ (by decide), by decide, ?_⟩
  intro h
  exact absurd (h.presence .hasTransportData (by decide) _ rfl) (by decide)

end MovementInfo

end Cataclysm
