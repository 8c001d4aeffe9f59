import Cataclysm.Packets.RoundTrip

/-!
# Alternating bits and scalars

A script may switch between groups of bits and scalars any number of times. Its
values come back exactly when every scalar that ends a run off a byte boundary
is followed by no further bit: `read<T>` does not drop the padding that
`append<T>` inserted, so the next `ReadBits` would start with it.
-/

namespace Cataclysm
open BitString BlockStream ByteBuffer

/-- A value to be written: bits, or a scalar. -/
inductive Item
  | bits (item : BitItem)
  | scalar (t : ScalarType) (value : t.Value)

/-- A value to be read: bits, or a scalar. -/
inductive Field
  | bits (field : BitField)
  | scalar (t : ScalarType)
  deriving DecidableEq

namespace Item

def field : Item → Field
  | .bits item => .bits item.field
  | .scalar t _ => .scalar t

def value : Item → Nat
  | .bits item => item.value
  | .scalar _ value => value.toNat

def chunk : Item → Chunk
  | .bits item => .bits item.toBits
  | .scalar _ value => scalarChunk value

def write (b : ByteBuffer) : Item → Except ByteBufferError ByteBuffer
  | .bits item => item.write b
  | .scalar _ value => b.appendScalar value

theorem write_stores (s : Stream) (item : Item) :
    Stores (item.write (writing s)) (absorb s item.chunk) := by
  cases item with
  | bits item => exact item.write_stores s
  | scalar t value => exact appendScalar_stores s value

end Item

def Field.read (b : ByteBuffer) : Field → Except ByteBufferError (Nat × ByteBuffer)
  | .bits field => field.read b
  | .scalar t => do
    let (value, b) ← b.readScalar t
    return (value.toNat, b)

theorem field_read_scalar {b b' : ByteBuffer} {t : ScalarType} {value : t.Value}
    (h : b.readScalar t = .ok (value, b')) : Field.read b (.scalar t) = .ok (value.toNat, b') := by
  simp only [Field.read, h]
  rfl

/-- Write a script and flush the bits left at its end. -/
def writeScript (script : List Item) : Except ByteBufferError ByteBuffer := do
  let b ← script.foldlM Item.write fresh
  b.flushBits

/-- Write a script, then read its shape from position zero. -/
def roundTrip (script : List Item) : Except ByteBufferError (List Nat) := do
  let b ← writeScript script
  let (values, _) ← readAll Field.read b (script.map Item.field)
  return values

/-- The number of bytes that a script of the given shape stores behind an open run. -/
def storedSize : Nat → List Field → Nat
  | run, [] => (run + 7) / 8
  | run, .bits field :: rest => storedSize (run + field.width) rest
  | run, .scalar t :: rest => (run + 7) / 8 + t.size + storedSize 0 rest

/-- No bit is transferred. -/
def bitFree (shape : List Field) : Bool :=
  shape.all fun
    | .bits field => field.width = 0
    | .scalar _ => true

/-- Every scalar stands on a byte boundary of its run, or no bit follows it. -/
def aligned : Nat → List Field → Bool
  | _, [] => true
  | run, .bits field :: rest => aligned (run + field.width) rest
  | run, .scalar _ :: rest => if run % 8 = 0 then aligned 0 rest else bitFree rest

theorem encode_length (run : List Bool) (script : List Item) :
    (encode run (script.map Item.chunk)).length =
      storedSize run.length (script.map Item.field) := by
  induction script generalizing run with
  | nil => exact packBits_length run
  | cons item rest ih =>
    cases item with
    | bits item =>
      have h := ih (run ++ item.toBits)
      rw [List.length_append, item.toBits_length] at h
      exact h
    | scalar t value =>
      simp only [List.map_cons, Item.chunk, scalarChunk, Item.field, storedSize]
      rw [encode_bytes run (leBytes_scalar_ne_nil t value.toNat)]
      simp [ih, packBits_length, Nat.add_assoc]

/-- The writer stores the encoding of the script. -/
theorem writeScript_stores (script : List Item) :
    Stores (writeScript script) ⟨encode [] (script.map Item.chunk), []⟩ := by
  have hitems := foldlM_stores (fun item (_ : item ∈ script) s => item.write_stores s) ⟨[], []⟩
  have hflush := flushBits_stores ((script.map Item.chunk).foldl absorb ⟨[], []⟩)
  rw [finish_foldl_absorb, List.nil_append] at hflush
  apply hitems.bind hflush
  rw [finish_foldl_absorb]
  simp [finish]

/-- The reader has taken the open run and has the rest of the script before it. -/
structure Walks (storage : List Byte) (b : ByteBuffer) (loose : List Bool) (rest : List Byte)
    (run : List Bool) (script : List Item) : Prop where
  reading : Reading storage b loose rest
  spells : unpack (encode run (script.map Item.chunk)) = run ++ (loose ++ unpack rest)

section Steps

variable {storage : List Byte} {b : ByteBuffer} {loose : List Bool} {rest : List Byte}
  {run : List Bool} {script : List Item}

/-- A group of bits comes back and joins the run. -/
theorem Walks.bits {item : BitItem} (h : Walks storage b loose rest run (.bits item :: script)) :
    ∃ b' loose' rest', Field.read b (.bits item.field) = .ok (item.value, b') ∧
      Walks storage b' loose' rest' (run ++ item.toBits) script := by
  obtain ⟨tail, htail⟩ := encode_starts_with_run (run ++ item.toBits) (script.map Item.chunk)
  have hspells := h.spells
  rw [List.map_cons, Item.chunk, encode_bits, htail, List.append_assoc] at hspells
  have hs := List.append_cancel_left hspells
  obtain ⟨b', loose', rest', hread, h', hs'⟩ :=
    BitField.read_reads h.reading item.toBits_length hs.symm
  rw [item.natOfBits_toBits] at hread
  exact ⟨b', loose', rest', hread, h', by rw [htail, hs']⟩

/-- A scalar comes back while the padding of its run stays loose. -/
theorem Walks.scalar {t : ScalarType} {value : t.Value}
    (h : Walks storage b loose rest run (.scalar t value :: script)) :
    ∃ b', Field.read b (.scalar t) = .ok (value.toNat, b') ∧
      Reading storage b' (List.replicate (padding run) false)
        (encode [] (script.map Item.chunk)) := by
  have hspells := h.spells
  rw [List.map_cons, Item.chunk, scalarChunk, encode_bytes _ (leBytes_scalar_ne_nil _ _),
    List.append_assoc, unpack_append, unpack_packBits, List.append_assoc] at hspells
  have hs := List.append_cancel_left hspells
  obtain ⟨rfl, rfl⟩ := stream_unique (by simpa using padding_lt run) h.reading.loose_lt hs
  obtain ⟨b', hread, h'⟩ := readScalar_reads value h.reading
  exact ⟨b', field_read_scalar hread, h'⟩

theorem Walks.start (h : Reading storage b [] (encode [] (script.map Item.chunk))) :
    Walks storage b [] (encode [] (script.map Item.chunk)) [] script :=
  ⟨h, rfl⟩

/-- A scalar on a byte boundary starts over with an empty run. -/
theorem Walks.scalar_aligned {t : ScalarType} {value : t.Value}
    (h : Walks storage b loose rest run (.scalar t value :: script))
    (hrun : run.length % 8 = 0) :
    ∃ b' rest', Field.read b (.scalar t) = .ok (value.toNat, b') ∧
      Walks storage b' [] rest' [] script := by
  obtain ⟨b', hread, h'⟩ := h.scalar
  rw [(padding_eq_zero_iff run).mpr hrun] at h'
  exact ⟨b', _, hread, Walks.start h'⟩

/-- A group of no bits takes nothing. -/
theorem read_no_bits (item : BitItem) (h : Reading storage b loose rest)
    (hwidth : item.field.width = 0) :
    ∃ b', Field.read b (.bits item.field) = .ok (item.value, b') ∧
      Reading storage b' loose rest := by
  obtain ⟨field, value, hlt⟩ := item
  cases field with
  | bit => cases hwidth
  | bits width =>
    have hw : (width : Nat) = 0 := hwidth
    have hv : value = 0 := by
      simp only [BitField.width, hw] at hlt
      omega
    refine ⟨b, ?_, h⟩
    simp only [Field.read, BitField.read, readBits, hw, readBitsLoop, hv]
    rfl

/-- Behind the last bit the loose padding does no harm. -/
theorem bitFree_reads (h : Reading storage b loose (encode [] (script.map Item.chunk)))
    (hfree : bitFree (script.map Item.field) = true) :
    ∃ b', readAll Field.read b (script.map Item.field) = .ok (script.map Item.value, b') := by
  induction script generalizing b with
  | nil => exact ⟨b, rfl⟩
  | cons item script ih =>
    simp only [bitFree, List.map_cons, List.all_cons, Bool.and_eq_true] at hfree
    cases item with
    | bits item =>
      have hwidth : item.field.width = 0 := by simpa [Item.field] using hfree.1
      rw [List.map_cons, Item.chunk, encode_bits, item.toBits_eq_nil hwidth,
        List.append_nil] at h
      obtain ⟨b₁, hread, h₁⟩ := read_no_bits item h hwidth
      obtain ⟨b', hrest⟩ := ih h₁ hfree.2
      exact ⟨b', readAll_cons_ok.mpr ⟨b₁, hread, hrest⟩⟩
    | scalar t value =>
      rw [List.map_cons, Item.chunk, scalarChunk, encode_bytes _ (leBytes_scalar_ne_nil _ _),
        packBits_nil, List.nil_append] at h
      obtain ⟨b₁, hread, h₁⟩ := readScalar_reads value h
      obtain ⟨b', hrest⟩ := ih h₁ hfree.2
      exact ⟨b', readAll_cons_ok.mpr ⟨b₁, field_read_scalar hread, hrest⟩⟩

/-- An aligned script comes back. -/
theorem aligned_reads (h : Walks storage b loose rest run script)
    (haligned : aligned run.length (script.map Item.field) = true) :
    ∃ b', readAll Field.read b (script.map Item.field) = .ok (script.map Item.value, b') := by
  induction script generalizing b loose rest run with
  | nil => exact ⟨b, rfl⟩
  | cons item script ih =>
    cases item with
    | bits item =>
      obtain ⟨b₁, loose₁, rest₁, hread, h₁⟩ := h.bits
      obtain ⟨b', hrest⟩ := ih h₁ (by simpa [aligned, Item.field] using haligned)
      exact ⟨b', readAll_cons_ok.mpr ⟨b₁, hread, hrest⟩⟩
    | scalar t value =>
      simp only [List.map_cons, Item.field, aligned] at haligned
      split at haligned
      · rename_i hrun
        obtain ⟨b₁, rest₁, hread, h₁⟩ := h.scalar_aligned hrun
        obtain ⟨b', hrest⟩ := ih h₁ haligned
        exact ⟨b', readAll_cons_ok.mpr ⟨b₁, hread, hrest⟩⟩
      · obtain ⟨b₁, hread, h₁⟩ := h.scalar
        obtain ⟨b', hrest⟩ := bitFree_reads h₁ haligned
        exact ⟨b', readAll_cons_ok.mpr ⟨b₁, hread, hrest⟩⟩

end Steps

/-- The script of a shape in which every bit is set. -/
def saturated : Field → Item
  | .bits field => .bits ⟨field, 2 ^ field.width - 1, Nat.sub_lt (Nat.two_pow_pos _) Nat.one_pos⟩
  | .scalar t => .scalar t 0

@[simp] theorem saturated_field (shape : List Field) :
    (shape.map saturated).map Item.field = shape := by
  induction shape with
  | nil => rfl
  | cons field rest ih =>
    rw [List.map_cons, List.map_cons, ih]
    cases field <;> rfl

/-- A number whose top bit is clear is not the saturated one. -/
theorem natOfBits_false_cons_ne (bits : List Bool) :
    natOfBits (false :: bits) ≠ 2 ^ (bits.length + 1) - 1 := by
  have hlt := natOfBits_lt bits
  have hpos := Nat.two_pow_pos bits.length
  have hvalue : natOfBits (false :: bits) = natOfBits bits := by simp [natOfBits]
  rw [hvalue, pow_succ]
  omega

theorem buffer_unique {r : Except ByteBufferError (Nat × ByteBuffer)} {v w : Nat}
    {b₁ b₂ : ByteBuffer} (h₁ : r = .ok (v, b₁)) (h₂ : r = .ok (w, b₂)) : b₁ = b₂ :=
  (Prod.mk.inj (Except.ok.inj (h₁.symm.trans h₂))).2

section Drift

variable {storage : List Byte} {b : ByteBuffer} {loose : List Bool} {rest : List Byte}
  {run : List Bool} {shape : List Field}

/-- A group of bits that starts with a clear loose bit is not read as saturated. -/
theorem read_drifted {field : BitField} (h : Reading storage b (false :: loose) rest)
    (hpos : 0 < field.width) (hlen : field.width ≤ 8 * rest.length) (b₁ : ByteBuffer) :
    Field.read b (.bits field) ≠ .ok (2 ^ field.width - 1, b₁) := by
  obtain ⟨w, hw⟩ := Nat.exists_eq_succ_of_ne_zero hpos.ne'
  let following := loose ++ unpack rest
  have hfollowing : (following.take w).length = w := by
    apply List.length_take_of_le
    simp only [following, List.length_append, unpack_length]
    omega
  have hs : false :: loose ++ unpack rest =
      (false :: following.take w) ++ following.drop w := by
    simp [following]
  have hwidth : (false :: following.take w).length = field.width := by
    rw [List.length_cons, hfollowing, hw]
  obtain ⟨b₂, -, -, hread, -, -⟩ := BitField.read_reads h hwidth hs
  intro hsaturated
  have hvalue := (Prod.mk.inj (Except.ok.inj (hread.symm.trans hsaturated))).1
  apply natOfBits_false_cons_ne (following.take w)
  rw [hvalue, hfollowing, hw]

/-- A loose padding bit spoils the next group of bits, however far away it is. -/
theorem drifts
    (h : Reading storage b (false :: loose) (encode [] ((shape.map saturated).map Item.chunk)))
    (hbits : bitFree shape = false) (b' : ByteBuffer) :
    readAll Field.read b shape ≠ .ok ((shape.map saturated).map Item.value, b') := by
  induction shape generalizing b with
  | nil => cases hbits
  | cons field shape ih =>
    intro hread
    obtain ⟨b₁, hfield, hrest⟩ := readAll_cons_ok.mp hread
    cases field with
    | scalar t =>
      rw [List.map_cons, List.map_cons, saturated, Item.chunk, scalarChunk,
        encode_bytes _ (leBytes_scalar_ne_nil _ _), packBits_nil, List.nil_append] at h
      obtain ⟨b₂, hread₂, h₂⟩ := readScalar_reads (0 : t.Value) h
      have heq := buffer_unique (field_read_scalar hread₂) hfield
      subst heq
      exact ih h₂ hbits hrest
    | bits field =>
      rw [List.map_cons, List.map_cons, saturated, Item.chunk, encode_bits,
        List.nil_append] at h
      rcases Nat.eq_zero_or_pos field.width with hwidth | hwidth
      · rw [BitItem.toBits_eq_nil _ hwidth] at h
        obtain ⟨b₂, hread₂, h₂⟩ := read_no_bits ⟨field, 0, Nat.two_pow_pos _⟩ h hwidth
        have heq : b₂ = b₁ := buffer_unique hread₂ hfield
        subst heq
        exact ih h₂ (by simpa [bitFree, hwidth] using hbits) hrest
      · apply read_drifted h hwidth _ b₁ hfield
        obtain ⟨tail, htail⟩ := encode_starts_with_run _ _
        rw [← unpack_length, htail, List.length_append, BitItem.toBits_length]
        exact Nat.le_add_right _ _

/-- A misaligned script of saturated bits does not come back. -/
theorem misaligned_drifts (h : Walks storage b loose rest run (shape.map saturated))
    (hmis : aligned run.length shape = false) (b' : ByteBuffer) :
    readAll Field.read b shape ≠ .ok ((shape.map saturated).map Item.value, b') := by
  induction shape generalizing b loose rest run with
  | nil => cases hmis
  | cons field shape ih =>
    intro hread
    obtain ⟨b₁, hfield, hrest⟩ := readAll_cons_ok.mp hread
    cases field with
    | bits field =>
      obtain ⟨b₂, loose₂, rest₂, hread₂, h₂⟩ := h.bits
      have heq := buffer_unique hread₂ hfield
      subst heq
      exact ih h₂ (by simpa [aligned] using hmis) hrest
    | scalar t =>
      rw [aligned] at hmis
      split at hmis
      · rename_i hrun
        obtain ⟨b₂, rest₂, hread₂, h₂⟩ := h.scalar_aligned hrun
        have heq : b₂ = b₁ := buffer_unique hread₂ hfield
        subst heq
        exact ih h₂ hmis hrest
      · rename_i hrun
        obtain ⟨b₂, hread₂, h₂⟩ := h.scalar
        have heq : b₂ = b₁ := buffer_unique hread₂ hfield
        subst heq
        have hpad := mt (padding_eq_zero_iff run).mp hrun
        obtain ⟨n, hn⟩ := Nat.exists_eq_succ_of_ne_zero hpad
        rw [hn, List.replicate_succ] at h₂
        exact drifts h₂ hmis b' hrest

end Drift

/-- A script within the size bound comes back when its written form is read to its values. -/
theorem roundTrip_eq_ok_iff {script : List Item}
    (hsize : storedSize 0 (script.map Item.field) ≤ maxSize) :
    roundTrip script = .ok (script.map Item.value) ↔
      ∃ b', readAll Field.read (writing ⟨encode [] (script.map Item.chunk), []⟩)
        (script.map Item.field) = .ok (script.map Item.value, b') := by
  have hwrite : writeScript script = .ok (writing ⟨encode [] (script.map Item.chunk), []⟩) := by
    apply (writeScript_stores script).2
    simpa [finish, encode_length] using hsize
  simp only [roundTrip, hwrite, bind, Except.bind]
  rcases readAll Field.read _ (script.map Item.field) with e | ⟨values, b'⟩
  · simp
  · simp [pure, Except.pure]

theorem walks_start (script : List Item) :
    Walks (encode [] (script.map Item.chunk)) (writing ⟨encode [] (script.map Item.chunk), []⟩)
      [] (encode [] (script.map Item.chunk)) [] script := by
  apply Walks.start
  simpa using reading_start (b := writing ⟨encode [] (script.map Item.chunk), []⟩) rfl rfl

/-- Every script of a shape comes back exactly when the shape is aligned. -/
theorem roundTrip_iff_aligned (shape : List Field) (hsize : storedSize 0 shape ≤ maxSize) :
    (∀ script : List Item, script.map Item.field = shape →
        roundTrip script = .ok (script.map Item.value)) ↔
      aligned 0 shape = true := by
  constructor
  · intro h
    by_contra hmis
    have hsaturated := h (shape.map saturated) (saturated_field shape)
    rw [roundTrip_eq_ok_iff (by rwa [saturated_field])] at hsaturated
    obtain ⟨b', hread⟩ := hsaturated
    rw [saturated_field] at hread
    exact misaligned_drifts (walks_start _) (by simpa using hmis) b' hread
  · rintro haligned script rfl
    rw [roundTrip_eq_ok_iff hsize]
    exact aligned_reads (walks_start script) haligned

/-- A byte of flags, a number, one more flag and a float come back. -/
theorem roundTrip_iff_aligned_flags :
    roundTrip [.bits ⟨.bits 8, 0xA5, by decide⟩, .scalar .uint32 7, .bits ⟨.bit, 1, by decide⟩,
        .scalar .float 0x3F800000] = .ok [0xA5, 7, 1, 0x3F800000] :=
  (roundTrip_iff_aligned [.bits (.bits 8), .scalar .uint32, .bits .bit, .scalar .float]
    (by decide)).mpr (by decide) _ rfl

/-- One set bit, a zero byte and one more set bit: the second bit is read as clear. -/
theorem roundTrip_drifts :
    roundTrip [.bits ⟨.bits 1, 1, by decide⟩, .scalar .uint8 0, .bits ⟨.bits 1, 1, by decide⟩] =
        .ok [1, 0, 0] ∧
      roundTrip
          [.bits ⟨.bits 1, 1, by decide⟩, .scalar .uint8 0, .bits ⟨.bits 1, 1, by decide⟩] ≠
        .ok ([.bits ⟨.bits 1, 1, by decide⟩, .scalar .uint8 0,
          .bits ⟨.bits 1, 1, by decide⟩].map Item.value) := by
  decide

end Cataclysm
