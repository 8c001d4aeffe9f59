import Cataclysm.Packets.Reuse

/-!
# Patching bits that were written before

A count that is not known yet is written as a placeholder at `bitwpos()` and set
later by `PutBits`. The position counts the bits of the buffer from the front, most
significant bit of a byte first, and `PutBits` counts the same way, so the patched
buffer is the one that the value itself would have given.

Raw bytes break this: they are stored in front of the pending bits, so a placeholder
whose last byte is still pending then moves away from the position that was taken
down for it.
-/

namespace Cataclysm
open BitString BlockStream ByteBuffer

namespace ByteBuffer

/-- `bitwpos()`. -/
def bitwpos (b : ByteBuffer) : Nat := b.wpos * 8 + 8 - b.bitpos

/-- One round of the loop of `PutBits`. -/
def putBit (storage : List Byte) (pos : Nat) (bit : Bool) : List Byte :=
  let wp := pos / 8
  let shift := 7 - pos % 8
  storage.modify wp fun c => if bit then c ||| (1#8 <<< shift) else c &&& ~~~(1#8 <<< shift)

/-- The loop of `PutBits` over the bits that are left. -/
def putBitsLoop (value : Nat) : Nat → Nat → List Byte → List Byte
  | 0, _, storage => storage
  | n + 1, pos, storage =>
    putBitsLoop value n (pos + 1) (putBit storage pos ((value >>> n) &&& 1 != 0))

/-- `PutBits(pos, value, bitCount)`: the exception it throws, and the buffer left
behind. -/
def putBits (b : ByteBuffer) (pos value bitCount : Nat) :
    Except ByteBufferError Unit × ByteBuffer :=
  if bitCount = 0 then
    (.error (.sourceException ((pos + bitCount) / 8) b.size 0), b)
  else if pos + bitCount > b.size * 8 then
    (.error (.positionException false ((pos + bitCount) / 8) b.size ((bitCount - 1) / 8 + 1)), b)
  else (.ok (), { b with storage := putBitsLoop value bitCount pos b.storage })

/-! ## The patch as a change of bits -/

/-- Setting a bit of a byte sets the bit at that distance from the top. -/
theorem byteBits_putBit (c : Byte) {i : Nat} (h : i < 8) (bit : Bool) :
    byteBits (if bit then c ||| (1#8 <<< (7 - i)) else c &&& ~~~(1#8 <<< (7 - i))) =
      (byteBits c).set i bit := by
  apply List.ext_getElem
  · simp
  · intro j hj _
    have hj8 : j < 8 := by simpa using hj
    have hshift : (1#8 <<< (7 - i)).getMsbD j = decide (i = j) := by
      simp only [BitVec.getMsbD_shiftLeft, BitVec.getMsbD_one]
      grind
    simp only [byteBits, List.getElem_map, List.getElem_range, List.getElem_set]
    obtain rfl | hne := eq_or_ne i j
    · cases bit <;> simp [hj8, hshift]
    · cases bit <;> simp [hj8, hshift, hne]

theorem unpack_putBit (storage : List Byte) (pos : Nat) (bit : Bool) :
    unpack (putBit storage pos bit) = (unpack storage).set pos bit := by
  induction storage generalizing pos with
  | nil => simp [putBit]
  | cons c rest ih =>
    obtain hlt | hge := Nat.lt_or_ge pos 8
    · have hdiv : pos / 8 = 0 := Nat.div_eq_of_lt hlt
      have hmod : pos % 8 = pos := Nat.mod_eq_of_lt hlt
      simp only [putBit, hdiv, hmod, List.modify_zero_cons, unpack_cons, byteBits_putBit c hlt]
      rw [List.set_append_left _ _ (by simpa using hlt)]
    · have hdiv : pos / 8 = (pos - 8) / 8 + 1 := by omega
      have hmod : pos % 8 = (pos - 8) % 8 := by omega
      have hrest := ih (pos - 8)
      simp only [putBit] at hrest
      simp only [putBit, hdiv, hmod, List.modify_succ_cons, unpack_cons, hrest]
      rw [List.set_append_right _ _ (by simpa using hge), byteBits_length]

/-- The loop of `PutBits` replaces the bits from the position on by those of the
value. -/
theorem unpack_putBitsLoop (value : Nat) {n pos : Nat} {storage : List Byte}
    (h : pos + n ≤ 8 * storage.length) :
    unpack (putBitsLoop value n pos storage) =
      (unpack storage).take pos ++ bitsOfNat n value ++ (unpack storage).drop (pos + n) := by
  induction n generalizing pos storage with
  | zero => simp [putBitsLoop, bitsOfNat]
  | succ n ih =>
    have hbit : ((value >>> n) &&& 1 != 0) = value.testBit n := by
      rw [Nat.testBit, Nat.and_comm]
    have hlen : (putBit storage pos (value.testBit n)).length = storage.length := by
      simp [putBit]
    have hpos : pos < (unpack storage).length := by
      rw [unpack_length]
      omega
    rw [putBitsLoop, hbit, ih (by omega), unpack_putBit]
    have htake : ((unpack storage).set pos (value.testBit n)).take (pos + 1) =
        (unpack storage).take pos ++ [value.testBit n] := by
      have hlen : ((unpack storage).take pos).length = pos :=
        List.length_take_of_le hpos.le
      rw [List.take_set, List.take_succ_eq_append_getElem hpos,
        List.set_append_right _ _ hlen.le, hlen, Nat.sub_self]
      rfl
    have hdrop : ((unpack storage).set pos (value.testBit n)).drop (pos + 1 + n) =
        (unpack storage).drop (pos + (n + 1)) := by
      rw [List.drop_set, if_pos (by omega)]
      congr 1
      omega
    rw [htake, hdrop]
    simp [bitsOfNat]

/-! ## Two runs that differ in one field -/

/-- All bits of a stream, the open run included. -/
def streamBits (s : Stream) : List Bool := unpack s.closed ++ s.run

/-- Two streams of the same lengths that differ in the field at a position only. -/
structure Differ (pos : Nat) (field field' : List Bool) (s s' : Stream) : Prop where
  closed_length : s.closed.length = s'.closed.length
  run_length : s.run.length = s'.run.length
  split : ∃ front back, front.length = pos ∧ streamBits s = front ++ field ++ back ∧
    streamBits s' = front ++ field' ++ back

variable {pos : Nat} {field field' : List Bool} {s s' : Stream}

theorem writing_storage_length (s : Stream) :
    (writing s).storage.length = s.closed.length + s.run.length / 8 := by
  have hlen := congrArg List.length (unpack_fill s.run).1
  have hloose := fill_loose_length s.run
  simp only [List.length_append, unpack_length] at hlen
  simp only [writing_storage, List.length_append]
  omega

/-- The bits of a stream are those of the stored bytes and the loose ones. -/
theorem streamBits_eq (s : Stream) :
    streamBits s = unpack (writing s).storage ++ (fill s.run).2 := by
  rw [writing_storage, unpack_append, List.append_assoc, (unpack_fill s.run).1, streamBits]

theorem bitwpos_writing (s : Stream) : (writing s).bitwpos = (streamBits s).length := by
  have hlt := fill_loose_lt s.run
  rw [streamBits_eq, List.length_append, unpack_length]
  simp only [bitwpos, writing]
  omega

namespace Differ

theorem storage_length (h : Differ pos field field' s s') :
    (writing s).storage.length = (writing s').storage.length := by
  rw [writing_storage_length, writing_storage_length, h.closed_length, h.run_length]

theorem field_le (h : Differ pos field field' s s') :
    pos + field.length ≤ (streamBits s).length := by
  obtain ⟨front, back, rfl, hs, -⟩ := h.split
  rw [hs]
  simp

/-- A field whose bits are stored stands in both storages, with the same loose bits
behind them. -/
theorem stored (h : Differ pos field field' s s')
    (hstored : pos + field.length ≤ 8 * (writing s).storage.length) :
    (fill s.run).2 = (fill s'.run).2 ∧ ∃ front back, front.length = pos ∧
      unpack (writing s).storage = front ++ field ++ back ∧
      unpack (writing s').storage = front ++ field' ++ back := by
  obtain ⟨front, back, hfront, hs, hs'⟩ := h.split
  have hloose : (fill s.run).2.length = (fill s'.run).2.length := by
    rw [fill_loose_length, fill_loose_length, h.run_length]
  rw [streamBits_eq] at hs hs'
  have hle : (front ++ field).length ≤ (unpack (writing s).storage).length := by
    rw [List.length_append, unpack_length, hfront]
    exact hstored
  obtain ⟨rest, hrest, hback⟩ : ∃ rest, unpack (writing s).storage = front ++ field ++ rest ∧
      back = rest ++ (fill s.run).2 := by
    obtain ⟨rest, hrest, hback⟩ | ⟨rest, hrest, hback⟩ := List.append_eq_append_iff.mp hs
    · rw [hrest, List.length_append] at hle
      have hnil : rest = [] := List.length_eq_zero_iff.mp (by omega)
      subst hnil
      exact ⟨[], by simpa using hrest.symm, by simpa using hback.symm⟩
    · exact ⟨rest, hrest, hback⟩
  rw [hback, ← List.append_assoc] at hs'
  obtain ⟨hstorage, hloose'⟩ := List.append_inj' hs' hloose.symm
  exact ⟨hloose'.symm, front, rest, hfront, hrest, hstorage⟩

/-- The same bits behind both. -/
theorem bits (h : Differ pos field field' s s') (more : List Bool) :
    Differ pos field field' ⟨s.closed, s.run ++ more⟩ ⟨s'.closed, s'.run ++ more⟩ := by
  obtain ⟨front, back, hfront, hs, hs'⟩ := h.split
  refine ⟨h.closed_length, by simp [h.run_length], front, back ++ more, hfront, ?_, ?_⟩
  · rw [← List.append_assoc, ← hs]
    simp [streamBits]
  · rw [← List.append_assoc, ← hs']
    simp [streamBits]

theorem streamBits_finish (s : Stream) :
    streamBits ⟨finish s, []⟩ = streamBits s ++ List.replicate (padding s.run) false := by
  simp [streamBits, finish, unpack_packBits]

/-- Closing both runs pads them alike. -/
theorem finish (h : Differ pos field field' s s') :
    Differ pos field field' ⟨finish s, []⟩ ⟨finish s', []⟩ := by
  obtain ⟨front, back, hfront, hs, hs'⟩ := h.split
  have hpad : padding s'.run = padding s.run := by simp only [padding, h.run_length]
  refine ⟨?_, rfl, front, back ++ List.replicate (padding s.run) false, hfront, ?_, ?_⟩
  · simp [BlockStream.finish, packBits_length, h.closed_length, h.run_length]
  · rw [streamBits_finish, hs, List.append_assoc]
  · rw [streamBits_finish, hs', hpad, List.append_assoc]

/-- Raw bytes in front of the loose bits keep a field that is stored. -/
theorem raw (h : Differ pos field field' s s')
    (hstored : pos + field.length ≤ 8 * (writing s).storage.length) (src : List Byte) :
    Differ pos field field' ⟨(writing s).storage ++ src, (fill s.run).2⟩
      ⟨(writing s').storage ++ src, (fill s'.run).2⟩ := by
  obtain ⟨hloose, front, back, hfront, hs, hs'⟩ := h.stored hstored
  refine ⟨?_, by rw [hloose], front, back ++ unpack src ++ (fill s.run).2, hfront, ?_, ?_⟩
  · rw [List.length_append, List.length_append, h.storage_length]
  · simp [streamBits, -writing_storage, hs]
  · simp [streamBits, -writing_storage, hs', hloose]

end Differ

/-- If the first of two runs succeeds, both do, in the given streams. -/
def Mirror (r r' : Except ByteBufferError ByteBuffer) (t t' : Stream) : Prop :=
  ∀ b, r = .ok b → b = writing t ∧ r' = .ok (writing t')

namespace Mirror

variable {r r' : Except ByteBufferError ByteBuffer} {t t' u u' : Stream}
  {f f' : ByteBuffer → Except ByteBufferError ByteBuffer}

theorem ok (t t' : Stream) : Mirror (.ok (writing t)) (.ok (writing t')) t t' := by
  rintro b ⟨⟩
  exact ⟨rfl, rfl⟩

theorem bind (h : Mirror r r' t t') (hf : Mirror (f (writing t)) (f' (writing t')) u u') :
    Mirror (r >>= f) (r' >>= f') u u' := by
  intro b hb
  cases r with
  | error e => cases hb
  | ok b₁ =>
    obtain ⟨rfl, hr'⟩ := h b₁ rfl
    obtain ⟨hu, hu'⟩ := hf b hb
    refine ⟨hu, ?_⟩
    rw [hr']
    exact hu'

/-- Guards that agree let both runs through. -/
theorem of_guard {c c' : Prop} [Decidable c] [Decidable c'] (h : c → c') (t t' : Stream) :
    Mirror (if c then .ok (writing t) else .error .assertion)
      (if c' then .ok (writing t') else .error .assertion) t t' := by
  intro b hb
  split at hb
  next hc =>
    cases hb
    exact ⟨rfl, by rw [if_pos (h hc)]⟩
  next => cases hb

theorem writeBit (hclosed : s.closed.length = s'.closed.length)
    (hrun : s.run.length = s'.run.length) (bit bit' : BitVec 32) :
    Mirror ((writing s).writeBit bit) ((writing s').writeBit bit')
      ⟨s.closed, s.run ++ [decide (bit ≠ 0)]⟩ ⟨s'.closed, s'.run ++ [decide (bit' ≠ 0)]⟩ := by
  rw [writeBit_writing, writeBit_writing, writing_storage_length, writing_storage_length, hclosed,
    hrun]
  exact of_guard id _ _

/-- Two values of one width take the same room. -/
theorem writeBits (s s' : Stream) (hclosed : s.closed.length = s'.closed.length)
    (hrun : s.run.length = s'.run.length) (value value' n : Nat) :
    Mirror ((writing s).writeBits value n) ((writing s').writeBits value' n)
      ⟨s.closed, s.run ++ bitsOfNat n value⟩ ⟨s'.closed, s'.run ++ bitsOfNat n value'⟩ := by
  induction n generalizing s s' with
  | zero =>
    simp only [bitsOfNat, List.append_nil]
    exact ok s s'
  | succ n ih =>
    have hbit := writeBit hclosed hrun (BitVec.ofNat 32 ((value >>> n) &&& 1))
      (BitVec.ofNat 32 ((value' >>> n) &&& 1))
    have hrest := ih ⟨s.closed, s.run ++ [value.testBit n]⟩
      ⟨s'.closed, s'.run ++ [value'.testBit n]⟩ hclosed (by simp [hrun])
    rw [ofNat_shift_ne_zero, ofNat_shift_ne_zero] at hbit
    simp only [List.append_assoc, List.singleton_append] at hrest
    exact hbit.bind hrest

theorem flushBits (hclosed : s.closed.length = s'.closed.length)
    (hrun : s.run.length = s'.run.length) :
    Mirror (writing s).flushBits (writing s').flushBits ⟨finish s, []⟩ ⟨finish s', []⟩ := by
  rw [flushBits_writing, flushBits_writing, writing_storage_length, writing_storage_length,
    hclosed, hrun]
  exact of_guard id _ _

theorem append (h : (writing s).storage.length = (writing s').storage.length) {src : List Byte}
    (hsrc : src ≠ []) :
    Mirror ((writing s).append src) ((writing s').append src)
      ⟨(writing s).storage ++ src, (fill s.run).2⟩
      ⟨(writing s').storage ++ src, (fill s'.run).2⟩ := by
  rw [append_writing s hsrc, append_writing s' hsrc, h]
  exact of_guard id _ _

end Mirror

/-- The operation carries a field that differs from one run to the other. -/
def Carries (pos : Nat) (field field' : List Bool)
    (r r' : Except ByteBufferError ByteBuffer) : Prop :=
  ∃ t t', Mirror r r' t t' ∧ Differ pos field field' t t'

namespace Carries

variable {r r' : Except ByteBufferError ByteBuffer}
  {f : ByteBuffer → Except ByteBufferError ByteBuffer}

theorem bind (h : Carries pos field field' r r')
    (hf : ∀ t t', r = .ok (writing t) → Differ pos field field' t t' →
      Carries pos field field' (f (writing t)) (f (writing t'))) :
    Carries pos field field' (r >>= f) (r' >>= f) := by
  obtain ⟨t, t', hmirror, hdiffer⟩ := h
  cases r with
  | error e =>
    refine ⟨t, t', ?_, hdiffer⟩
    rintro b ⟨⟩
  | ok b =>
    obtain ⟨rfl, -⟩ := hmirror b rfl
    obtain ⟨u, u', hmirror', hdiffer'⟩ := hf t t' rfl hdiffer
    exact ⟨u, u', hmirror.bind hmirror', hdiffer'⟩

theorem flushBits (h : Differ pos field field' s s') :
    Carries pos field field' (writing s).flushBits (writing s').flushBits :=
  ⟨_, _, Mirror.flushBits h.closed_length h.run_length, h.finish⟩

theorem append (h : Differ pos field field' s s')
    (hstored : pos + field.length ≤ 8 * (writing s).storage.length) {src : List Byte}
    (hsrc : src ≠ []) :
    Carries pos field field' ((writing s).append src) ((writing s').append src) :=
  ⟨_, _, Mirror.append h.storage_length hsrc, h.raw hstored src⟩

/-- `append<T>` stores the field before its own bytes. -/
theorem appendScalar (h : Differ pos field field' s s') {t : ScalarType} (value : t.Value) :
    Carries pos field field' ((writing s).appendScalar value)
      ((writing s').appendScalar value) := by
  have hstored : pos + field.length ≤ 8 * (writing ⟨finish s, []⟩).storage.length := by
    have hle := h.finish.field_le
    simpa [streamBits] using hle
  obtain ⟨u, u', hmirror, hdiffer⟩ :=
    append h.finish hstored (leBytes_scalar_ne_nil t value.toNat)
  exact ⟨u, u', (Mirror.flushBits h.closed_length h.run_length).bind hmirror, hdiffer⟩

theorem writeString (h : Differ pos field field' s s') {str : List Byte}
    (hstored : str ≠ [] → pos + field.length ≤ 8 * (writing s).storage.length) :
    Carries pos field field' ((writing s).writeString str) ((writing s').writeString str) := by
  by_cases hstr : str = []
  · subst hstr
    exact ⟨s, s', Mirror.ok s s', h⟩
  · simp only [ByteBuffer.writeString, if_pos hstr]
    exact append h (hstored hstr) hstr

theorem appendString (h : Differ pos field field' s s') {value : List Byte}
    (hstored : value ≠ [] → pos + field.length ≤ 8 * (writing s).storage.length) :
    Carries pos field field' ((writing s).appendString value)
      ((writing s').appendString value) := by
  rw [appendString_eq, appendString_eq]
  exact (writeString h hstored).bind fun _ _ _ hdiffer => appendScalar (t := .uint8) hdiffer 0

end Carries

end ByteBuffer

/-- The bytes that a step passes to the raw `append` before any flush. -/
def ScriptOp.raw : ScriptOp → List Byte
  | .write op => op.raw
  | .flushBits => []

/-- Steps before and after the placeholder, as one script. -/
def runScript (b : ByteBuffer) (script : List ScriptOp) : Except ByteBufferError ByteBuffer :=
  script.foldlM ScriptOp.run b

/-- No step passes raw bytes while the byte that ends at the given bit is pending. -/
def KeepsPlace (stop : Nat) : ByteBuffer → List ScriptOp → Prop
  | _, [] => True
  | b, op :: rest =>
    (op.raw ≠ [] → stop ≤ 8 * b.wpos) ∧ ∀ b', op.run b = .ok b' → KeepsPlace stop b' rest

/-- Scripts of bits, scalars and flushes keep every place. -/
theorem keepsPlace_of_raw_eq_nil {script : List ScriptOp} (h : ∀ op ∈ script, op.raw = [])
    (stop : Nat) (b : ByteBuffer) : KeepsPlace stop b script := by
  induction script generalizing b with
  | nil => trivial
  | cons op rest ih =>
    refine ⟨fun hraw => absurd (h op List.mem_cons_self) hraw, fun b' _ => ?_⟩
    exact ih (fun op' hin => h op' (List.mem_cons_of_mem _ hin)) b'

namespace ByteBuffer

variable {pos : Nat} {field field' : List Bool} {s s' : Stream}

/-- A step that passes no raw bytes over a pending field carries it. -/
theorem carries_run (h : Differ pos field field' s s') (op : ScriptOp)
    (hplace : op.raw ≠ [] → pos + field.length ≤ 8 * (writing s).wpos) :
    Carries pos field field' (op.run (writing s)) (op.run (writing s')) := by
  cases op with
  | flushBits => exact Carries.flushBits h
  | write op =>
    cases op with
    | writeBit bit =>
      exact ⟨_, _, Mirror.writeBit h.closed_length h.run_length bit bit, h.bits _⟩
    | writeBits value n =>
      exact ⟨_, _, Mirror.writeBits s s' h.closed_length h.run_length value value n, h.bits _⟩
    | scalar t value => exact Carries.appendScalar h value
    | string value => exact Carries.appendString h hplace
    | cString str =>
      simp only [ScriptOp.run, WriteOp.write, appendCString_eq]
      exact Carries.appendString h hplace
    | writeString str => exact Carries.writeString h hplace
    | packGUID guid =>
      have hne : packGUID guid ≠ [] := packGUIDLoop_ne_nil 8 0 guid 0 []
      exact Carries.append h (hplace hne) hne
    | buffer other hwpos =>
      simp only [ScriptOp.run, WriteOp.write, appendBuffer_eq _ _ hwpos]
      exact Carries.writeString h hplace

/-- A script that keeps the place of the field carries it. -/
theorem carries_runScript (h : Differ pos field field' s s') (script : List ScriptOp)
    (hplace : KeepsPlace (pos + field.length) (writing s) script) :
    Carries pos field field' (runScript (writing s) script) (runScript (writing s') script) := by
  induction script generalizing s s' with
  | nil => exact ⟨s, s', Mirror.ok s s', h⟩
  | cons op rest ih =>
    simp only [runScript, List.foldlM_cons]
    exact (carries_run h op hplace.1).bind fun t t' ht hdiffer =>
      ih hdiffer (hplace.2 (writing t) ht)

theorem extends_run {b : ByteBuffer} (h : AtEnd b) (op : ScriptOp) : Extends b (op.run b) := by
  cases op with
  | write op => exact Extends.write h op
  | flushBits => exact Extends.flushBits h

theorem extends_runScript {b : ByteBuffer} (h : AtEnd b) (script : List ScriptOp) :
    Extends b (runScript b script) := by
  induction script generalizing b with
  | nil => exact Extends.refl h
  | cons op rest ih =>
    simp only [runScript, List.foldlM_cons]
    exact (extends_run h op).bind fun b' h' => ih h'

theorem runScript_cons_ok {b b' : ByteBuffer} {op : ScriptOp} {rest : List ScriptOp}
    (h : runScript b (op :: rest) = .ok b') :
    ∃ b₁, op.run b = .ok b₁ ∧ runScript b₁ rest = .ok b' := by
  simp only [runScript, List.foldlM_cons] at h
  cases hop : op.run b with
  | error e =>
    rw [hop] at h
    cases h
  | ok b₁ =>
    rw [hop] at h
    exact ⟨b₁, rfl, h⟩

/-- The first raw byte of a step stays behind what was stored before the step. -/
theorem raw_byte_stays {s : Stream} {op : ScriptOp} {rest : List ScriptOp} {b : ByteBuffer}
    {c : Byte} {tail : List Byte} (hraw : op.raw = c :: tail)
    (h : runScript (writing s) (op :: rest) = .ok b) :
    b.storage[(writing s).storage.length]? = some c := by
  obtain ⟨b₁, hop, hrest⟩ := runScript_cons_ok h
  have hend := (extends_run (writing_atEnd s) op b₁ hop).1
  cases op with
  | flushBits => cases hraw
  | write op =>
    have hne : op.raw ≠ [] := by
      change op.raw = c :: tail at hraw
      rw [hraw]
      exact List.cons_ne_nil c tail
    have hpre := WriteOp.write_raw_prefix hne (writing_atEnd s) hop
    obtain ⟨more, hmore⟩ := hpre.trans (extends_runScript hend rest b hrest).2
    change op.raw = c :: tail at hraw
    rw [← hmore, hraw]
    simp

/-- Once raw bytes were passed over a pending field, both runs hold the same byte
where the field should end. -/
theorem overtaken_byte (h : Differ pos field field' s s') (script : List ScriptOp)
    (hplace : ¬ KeepsPlace (pos + field.length) (writing s) script) {b b' : ByteBuffer}
    (hb : runScript (writing s) script = .ok b) (hb' : runScript (writing s') script = .ok b') :
    ∃ c, b.storage[(pos + field.length - 1) / 8]? = some c ∧
      b'.storage[(pos + field.length - 1) / 8]? = some c := by
  induction script generalizing s s' with
  | nil => exact absurd trivial hplace
  | cons op rest ih =>
    by_cases hop : op.raw ≠ [] → pos + field.length ≤ 8 * (writing s).wpos
    · obtain ⟨t, t', hmirror, hdiffer⟩ := carries_run h op hop
      obtain ⟨b₁, hb₁, hrest⟩ := runScript_cons_ok hb
      obtain ⟨b₁', hb₁', hrest'⟩ := runScript_cons_ok hb'
      obtain ⟨rfl, ht'⟩ := hmirror b₁ hb₁
      obtain rfl : b₁' = writing t' := Except.ok.inj (hb₁'.symm.trans ht')
      refine ih hdiffer (fun hkeeps => hplace ⟨hop, fun b₂ hb₂ => ?_⟩) hrest hrest'
      obtain rfl : b₂ = writing t := Except.ok.inj (hb₂.symm.trans hb₁)
      exact hkeeps
    · obtain ⟨hraw, hpending⟩ := Classical.not_imp.mp hop
      obtain ⟨c, tail, hcons⟩ := List.exists_cons_of_ne_nil hraw
      have hlast : (pos + field.length - 1) / 8 = (writing s).storage.length := by
        have hle := h.field_le
        have hloose := fill_loose_lt s.run
        have hwpos : (writing s).wpos = (writing s).storage.length := writing_atEnd s
        rw [streamBits_eq, List.length_append, unpack_length] at hle
        omega
      refine ⟨c, ?_, ?_⟩
      · rw [hlast]
        exact raw_byte_stays hcons hb
      · rw [hlast, h.storage_length]
        exact raw_byte_stays hcons hb'

/-- `PutBits` fits a value into a field that is stored, with the bits around it
unchanged. -/
theorem unpack_putBits {b : ByteBuffer} {pos n : Nat} (value : Nat) (hn : n ≠ 0)
    (h : pos + n ≤ 8 * b.storage.length) :
    ∃ storage, b.putBits pos value n = (.ok (), { b with storage := storage }) ∧
      unpack storage =
        (unpack b.storage).take pos ++ bitsOfNat n value ++ (unpack b.storage).drop (pos + n) := by
  have hfit : ¬ pos + n > b.size * 8 := by
    simp only [size]
    omega
  exact ⟨_, by rw [putBits, if_neg hn, if_neg hfit], unpack_putBitsLoop value h⟩

theorem putBits_throws {b : ByteBuffer} {pos value n : Nat} {e : ByteBufferError}
    (h : (b.putBits pos value n).1 = .error e) : (b.putBits pos value n).2 = b := by
  rw [putBits] at h ⊢
  split
  · rfl
  · rename_i hn
    rw [if_neg hn] at h
    split
    · rfl
    · rename_i hfit
      rw [if_neg hfit] at h
      cases h

/-- `PutBits` changes no bit outside its field. -/
theorem putBits_outside (b : ByteBuffer) (pos value n : Nat) {i : Nat}
    (hi : i < pos ∨ pos + n ≤ i) :
    (unpack (b.putBits pos value n).2.storage)[i]? = (unpack b.storage)[i]? := by
  cases hresult : (b.putBits pos value n).1 with
  | error e => rw [putBits_throws hresult]
  | ok =>
    have hn : n ≠ 0 := by
      rintro rfl
      simp [putBits] at hresult
    have hfit : pos + n ≤ 8 * b.storage.length := by
      by_contra hfit
      have hgt : pos + n > b.size * 8 := by
        simp only [size]
        omega
      simp [putBits, hn, hgt] at hresult
    obtain ⟨storage, hput, hunpack⟩ := unpack_putBits value hn hfit
    have hlen : ((unpack b.storage).take pos).length = pos :=
      List.length_take_of_le (by rw [unpack_length]; omega)
    simp only [hput, hunpack]
    obtain hlt | hge := hi
    · rw [List.append_assoc, List.getElem?_append_left (by omega), List.getElem?_take_of_lt hlt]
    · rw [List.getElem?_append_right (by simp [hlen]; omega), List.getElem?_drop]
      congr 1
      simp only [List.length_append, hlen, bitsOfNat_length]
      omega

theorem keepsPlace_zero (b : ByteBuffer) (script : List ScriptOp) : KeepsPlace 0 b script := by
  induction script generalizing b with
  | nil => trivial
  | cons op rest ih => exact ⟨fun _ => Nat.zero_le _, fun b' _ => ih b'⟩

/-- A script on a buffer under construction leaves one. -/
theorem runScript_writing {s : Stream} {script : List ScriptOp} {b : ByteBuffer}
    (h : runScript (writing s) script = .ok b) : ∃ t, b = writing t := by
  have hdiffer : Differ 0 [] [] s s := ⟨rfl, rfl, [], streamBits s, rfl, rfl, rfl⟩
  obtain ⟨t, t', hmirror, -⟩ := carries_runScript hdiffer script (keepsPlace_zero _ _)
  exact ⟨t, (hmirror b h).1⟩

theorem unpack_getElem? {bytes : List Byte} {k : Nat} {c : Byte} (h : bytes[k]? = some c) {i : Nat}
    (hi : i < 8) : (unpack bytes)[8 * k + i]? = (byteBits c)[i]? := by
  induction bytes generalizing k with
  | nil => simp at h
  | cons d rest ih =>
    rw [unpack_cons]
    cases k with
    | zero =>
      obtain rfl : d = c := by simpa using h
      rw [List.getElem?_append_left (by simpa using hi)]
      simp
    | succ k =>
      rw [List.getElem?_append_right (by simp; omega), byteBits_length, ← ih (by simpa using h)]
      congr 1
      omega

theorem bitsOfNat_getElem?_last (n v : Nat) : (bitsOfNat (n + 1) v)[n]? = some (v.testBit 0) := by
  induction n with
  | zero => rfl
  | succ n ih =>
    rw [bitsOfNat, List.getElem?_cons_succ]
    exact ih

section Placeholder

variable {s : Stream} {w n : Nat} {b : ByteBuffer} {after : List ScriptOp}

/-- A placeholder and a value of its width leave streams that differ in the field. -/
theorem differ_placeholder (s : Stream) (w v n : Nat) :
    Differ (writing s).bitwpos (bitsOfNat n w) (bitsOfNat n v)
      ⟨s.closed, s.run ++ bitsOfNat n w⟩ ⟨s.closed, s.run ++ bitsOfNat n v⟩ := by
  refine ⟨rfl, by simp, streamBits s, [], (bitwpos_writing s).symm, ?_, ?_⟩
  · simp [streamBits]
  · simp [streamBits]

theorem value_first {v : Nat}
    (hhold : (writing s).writeBits w n = .ok (writing ⟨s.closed, s.run ++ bitsOfNat n w⟩)) :
    runScript (writing s) (.write (.writeBits v n) :: after) =
      runScript (writing ⟨s.closed, s.run ++ bitsOfNat n v⟩) after := by
  have hvalue := (Mirror.writeBits s s rfl rfl w v n _ hhold).2
  simp only [runScript, List.foldlM_cons, ScriptOp.run, WriteOp.write, hvalue]
  rfl

/-- Patching the placeholder gives the run of the value itself, if the script behind
it keeps its place. -/
theorem putBits_of_keepsPlace (hn : n ≠ 0)
    (hhold : (writing s).writeBits w n = .ok (writing ⟨s.closed, s.run ++ bitsOfNat n w⟩))
    (hafter : runScript (writing ⟨s.closed, s.run ++ bitsOfNat n w⟩) after = .ok b)
    (hflushed : (writing s).bitwpos + n ≤ 8 * b.size)
    (hplace : KeepsPlace ((writing s).bitwpos + n)
      (writing ⟨s.closed, s.run ++ bitsOfNat n w⟩) after) (v : Nat) :
    ∃ b', runScript (writing s) (.write (.writeBits v n) :: after) = .ok b' ∧
      b.putBits (writing s).bitwpos v n = (.ok (), { b with storage := b'.storage }) := by
  have hdiffer := differ_placeholder s w v n
  obtain ⟨t, t', hmirror, hfinal⟩ :=
    carries_runScript hdiffer after (by rwa [bitsOfNat_length])
  obtain ⟨rfl, hvalue⟩ := hmirror b hafter
  obtain ⟨storage, hput, hunpack⟩ := unpack_putBits v hn hflushed
  obtain ⟨-, front, back, hfront, hback, hback'⟩ :=
    hfinal.stored (by rwa [bitsOfNat_length])
  refine ⟨writing t', by rw [value_first hhold, hvalue], ?_⟩
  have hstorage : storage = (writing t').storage := by
    apply unpack_injective
    rw [hunpack, hback', hback, ← hfront]
    have hdrop : (front ++ bitsOfNat n w ++ back).drop (front.length + n) = back := by
      rw [← List.drop_drop]
      simp
    rw [hdrop]
    simp
  rw [hput, hstorage]

/-- A script that loses the place of the field gives some value another storage. -/
theorem keepsPlace_of_putBits (hn : n ≠ 0)
    (hhold : (writing s).writeBits w n = .ok (writing ⟨s.closed, s.run ++ bitsOfNat n w⟩))
    (hafter : runScript (writing ⟨s.closed, s.run ++ bitsOfNat n w⟩) after = .ok b)
    (hflushed : (writing s).bitwpos + n ≤ 8 * b.size)
    (h : ∀ v < 2 ^ n, ∃ b', runScript (writing s) (.write (.writeBits v n) :: after) = .ok b' ∧
      b.putBits (writing s).bitwpos v n = (.ok (), { b with storage := b'.storage })) :
    KeepsPlace ((writing s).bitwpos + n) (writing ⟨s.closed, s.run ++ bitsOfNat n w⟩) after := by
  by_contra hplace
  obtain ⟨m, rfl⟩ := Nat.exists_eq_succ_of_ne_zero hn
  -- the byte that overtook the field shows the last bit of every value
  have hlast : ∀ v < 2 ^ (m + 1), ∃ c, b.storage[((writing s).bitwpos + m) / 8]? = some c ∧
      (byteBits c)[((writing s).bitwpos + m) % 8]? = some (v.testBit 0) := by
    intro v hv
    obtain ⟨b', hvalue, hput⟩ := h v hv
    rw [value_first hhold] at hvalue
    obtain ⟨c, hc, hc'⟩ := overtaken_byte (differ_placeholder s w v (m + 1)) after
      (by rwa [bitsOfNat_length]) hafter hvalue
    rw [bitsOfNat_length] at hc hc'
    obtain ⟨storage, hput', hunpack⟩ := unpack_putBits v hn hflushed
    have hstorage : storage = b'.storage :=
      congrArg (fun r => r.2.storage) (hput'.symm.trans hput)
    have hbit := unpack_getElem? hc' (Nat.mod_lt ((writing s).bitwpos + (m + 1) - 1) (by omega))
    rw [Nat.div_add_mod, ← hstorage, hunpack] at hbit
    have htake : ((unpack b.storage).take (writing s).bitwpos).length = (writing s).bitwpos := by
      apply List.length_take_of_le
      simp only [size] at hflushed
      rw [unpack_length]
      omega
    rw [List.append_assoc, List.getElem?_append_right (by omega), htake,
      List.getElem?_append_left (by simp),
      show (writing s).bitwpos + (m + 1) - 1 - (writing s).bitwpos = m by omega,
      bitsOfNat_getElem?_last] at hbit
    exact ⟨c, hc, hbit.symm⟩
  obtain ⟨c, hc, hbit⟩ := hlast 0 (by positivity)
  obtain ⟨c', hc', hbit'⟩ := hlast 1 (Nat.one_lt_two_pow hn)
  obtain rfl : c = c' := Option.some.inj (hc.symm.trans hc')
  simp [hbit] at hbit'

end Placeholder

/-- A placeholder whose bytes were stored can be patched with every value exactly when
no step behind it passed raw bytes over its pending bits; `PutBits` changes nothing
outside the field, and nothing at all when it throws. -/
theorem putBits_backPatches (b : ByteBuffer) (n : Nat) :
    (∀ (before after : List ScriptOp) (w : Nat) (b₁ b₂ : ByteBuffer),
      runScript fresh before = .ok b₁ → b₁.writeBits w n = .ok b₂ →
      runScript b₂ after = .ok b → n ≠ 0 → b₁.bitwpos + n ≤ 8 * b.size →
      ((∀ v < 2 ^ n, ∃ b', runScript b₁ (.write (.writeBits v n) :: after) = .ok b' ∧
          b.putBits b₁.bitwpos v n = (.ok (), { b with storage := b'.storage })) ↔
        KeepsPlace (b₁.bitwpos + n) b₂ after)) ∧
    (∀ pos v i : Nat, i < pos ∨ pos + n ≤ i →
      (unpack (b.putBits pos v n).2.storage)[i]? = (unpack b.storage)[i]?) ∧
    (∀ (pos v : Nat) (e : ByteBufferError),
      (b.putBits pos v n).1 = .error e → (b.putBits pos v n).2 = b) := by
  refine ⟨?_, fun pos v i hi => putBits_outside b pos v n hi,
    fun pos v e h => putBits_throws h⟩
  intro before after w b₁ b₂ hbefore hhold hafter hn hflushed
  obtain ⟨s, rfl⟩ := runScript_writing (s := ⟨[], []⟩) hbefore
  obtain ⟨rfl, -⟩ := Mirror.writeBits s s rfl rfl w w n b₂ hhold
  constructor
  · intro h
    exact keepsPlace_of_putBits hn hhold hafter hflushed h
  · intro hplace v _
    exact putBits_of_keepsPlace hn hhold hafter hflushed hplace v

/-- Eight bits are held after three, and a bit and a scalar follow. -/
theorem heldByte_backPatched :
    ∃ b₁ b₂ b, runScript fresh [.write (.writeBits 5 3)] = .ok b₁ ∧ b₁.writeBits 0 8 = .ok b₂ ∧
      runScript b₂ [.write (.writeBit 1#32), .flushBits, .write (.scalar .uint16 0xBEEF#16)] =
        .ok b ∧
      ∀ v < 2 ^ 8, ∃ b', runScript b₁ [.write (.writeBits v 8), .write (.writeBit 1#32), .flushBits,
          .write (.scalar .uint16 0xBEEF#16)] = .ok b' ∧
        b.putBits b₁.bitwpos v 8 = (.ok (), { b with storage := b'.storage }) := by
  refine ⟨_, _, _, rfl, rfl, rfl, ?_⟩
  refine ((putBits_backPatches _ 8).1 [.write (.writeBits 5 3)]
    [.write (.writeBit 1#32), .flushBits, .write (.scalar .uint16 0xBEEF#16)] 0 _ _ rfl rfl rfl
    (by decide) (by decide)).mpr (keepsPlace_of_raw_eq_nil ?_ _ _)
  simp only [List.forall_mem_cons, List.not_mem_nil, false_imp_iff, implies_true, and_true]
  exact ⟨rfl, rfl, rfl⟩

/-- A text stored behind a pending placeholder of one bit takes its place: the patch
sets a bit of the text. -/
theorem patchedText :
    ∃ b₂ b b', fresh.writeBits 0 1 = .ok b₂ ∧
      runScript b₂ [.write (.string [0x41#8])] = .ok b ∧ fresh.bitwpos + 1 ≤ 8 * b.size ∧
      runScript fresh [.write (.writeBits 1 1), .write (.string [0x41#8])] = .ok b' ∧
      b'.storage = [0x41#8, 0x80#8, 0#8] ∧
      (b.putBits fresh.bitwpos 1 1).2.storage = [0xC1#8, 0#8, 0#8] :=
  ⟨⟨0, 0, 7, 0, []⟩, ⟨0, 3, 8, 0, [0x41#8, 0#8, 0#8]⟩, ⟨0, 3, 8, 0, [0x41#8, 0x80#8, 0#8]⟩,
    by decide, by decide, by decide, by decide, rfl, by decide⟩

end ByteBuffer

end Cataclysm
