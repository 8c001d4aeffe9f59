import Cataclysm.Packets.ByteBuffer
import Cataclysm.Lib.BlockStream

/-!
# What a buffer that is only written to holds

A buffer under construction is determined by the bytes already closed and the
run of bits still open: `writing` spells it out. Every write operation either
hits the size assertion or moves `writing s` to `writing s'`, where `s'` is the
abstract stream after the chunks the operation contributes. The operations that
call `append` on raw bytes only do so while no bit is pending.
-/

namespace Cataclysm
open BitString BlockStream

namespace ByteBuffer

/-- The buffer that stores a stream: whole bytes in the storage, loose bits in
the accumulator. -/
def writing (s : Stream) : ByteBuffer :=
  let stored := s.closed ++ (fill s.run).1
  ⟨0, stored.length, 8 - (fill s.run).2.length, packByte (fill s.run).2, stored⟩

@[simp] theorem writing_storage (s : Stream) :
    (writing s).storage = s.closed ++ (fill s.run).1 := rfl

@[simp] theorem writing_nil : writing ⟨[], []⟩ = fresh := rfl

theorem writing_bitpos (s : Stream) : (writing s).bitpos = 8 - s.run.length % 8 := by
  simp [writing, fill_loose_length]

/-- Whole bytes of a run may as well count as closed. -/
theorem writing_eq_of_aligned (s : Stream) (h : s.run.length % 8 = 0) :
    writing s = writing ⟨finish s, []⟩ := by
  have hnil := (fill_loose_eq_nil_iff s.run).mpr h
  simp [writing, finish, packBits, closeByte, hnil]

/-- A write ends in the given stream, unless the size assertion stops it; it is
not stopped while the finished stream stays within the size bound. -/
def Stores (r : Except ByteBufferError ByteBuffer) (s : Stream) : Prop :=
  (r = .ok (writing s) ∨ r = .error .assertion) ∧
    ((finish s).length ≤ maxSize → r = .ok (writing s))

theorem Stores.ok (s : Stream) : Stores (.ok (writing s)) s :=
  ⟨Or.inl rfl, fun _ => rfl⟩

theorem Stores.eq_of_ok {r : Except ByteBufferError ByteBuffer} {s : Stream} {b : ByteBuffer}
    (h : Stores r s) (hb : r = .ok b) : b = writing s := by
  rcases h.1 with hr | hr
  · exact Except.ok.inj (hb.symm.trans hr)
  · rw [hr] at hb
    cases hb

/-- Writes compose along growing streams. -/
theorem Stores.bind {r : Except ByteBufferError ByteBuffer} {s s' : Stream}
    {f : ByteBuffer → Except ByteBufferError ByteBuffer} (h : Stores r s)
    (hf : Stores (f (writing s)) s') (hle : (finish s).length ≤ (finish s').length) :
    Stores (r >>= f) s' := by
  constructor
  · rcases h.1 with hr | hr
    · rw [hr]
      exact hf.1
    · exact Or.inr (by rw [hr]; rfl)
  · intro hs
    rw [h.2 (hle.trans hs)]
    exact hf.2 hs

/-- One guarded write: it goes through exactly while the guard holds. -/
theorem Stores.of_guard {c : Prop} [Decidable c] {s : Stream}
    (hc : (finish s).length ≤ maxSize → c) :
    Stores (if c then .ok (writing s) else .error .assertion) s := by
  by_cases h : c
  · rw [if_pos h]
    exact Stores.ok s
  · rw [if_neg h]
    exact ⟨Or.inr rfl, fun hle => absurd (hc hle) h⟩

/-- `append` at the end of the storage. -/
theorem append_at_end (b : ByteBuffer) {src : List Byte} (hw : b.wpos = b.storage.length)
    (hsrc : src ≠ []) :
    b.append src = if b.storage.length < maxSize then
      .ok { b with storage := b.storage ++ src, wpos := b.storage.length + src.length }
    else .error .assertion := by
  have hdrop : b.storage.drop (b.storage.length + src.length) = [] :=
    List.drop_eq_nil_of_le (by omega)
  simp [append, hsrc, size, hw, memcpyAt, hdrop]

/-- Appending raw bytes behind a closed stream. -/
theorem append_closed (bytes : List Byte) {src : List Byte} (h : src ≠ []) :
    Stores ((writing ⟨bytes, []⟩).append src) ⟨bytes ++ src, []⟩ := by
  have hpos : 0 < src.length := List.length_pos_iff.mpr h
  have heq : (writing ⟨bytes, []⟩).append src =
      if bytes.length < maxSize then .ok (writing ⟨bytes ++ src, []⟩)
      else .error .assertion := by
    rw [append_at_end _ rfl h]
    simp [writing]
  rw [heq]
  apply Stores.of_guard
  intro hle
  simp only [finish, packBits_nil, List.append_nil, List.length_append] at hle
  omega

/-- Raw bytes go behind the whole bytes, in front of the loose bits. -/
theorem append_writing (s : Stream) {src : List Byte} (h : src ≠ []) :
    (writing s).append src =
      if (writing s).storage.length < maxSize then
        .ok (writing ⟨(writing s).storage ++ src, (fill s.run).2⟩)
      else .error .assertion := by
  rw [append_at_end _ rfl h]
  simp [writing, fill_of_lt (fill_loose_lt s.run), Nat.add_assoc]

theorem decSize_of_pos {n : Nat} (h : 0 < n) : decSize n = n - 1 := by
  simp [decSize, Nat.pos_iff_ne_zero.mp h]

/-- Setting the bit at index `p` of a byte sets the bit at distance `7 - p` from
the top. -/
theorem packByte_concat {loose : List Bool} (h : loose.length < 8) (bit : Bool) :
    (if bit then packByte loose ||| (1#8 <<< (7 - loose.length)) else packByte loose) =
      packByte (loose ++ [bit]) := by
  apply BitVec.eq_of_getMsbD_eq
  intro i hi
  rw [packByte_getMsbD _ hi]
  have hloose : loose.getD loose.length false = false := by simp
  cases bit with
  | false =>
    simp only [Bool.false_eq_true, if_false, packByte_getMsbD _ hi]
    simp only [List.getD_eq_getElem?_getD, List.getElem?_append]
    split
    · rfl
    · rename_i hlt
      rw [List.getElem?_eq_none (Nat.le_of_not_lt hlt)]
      rcases Nat.eq_zero_or_pos (i - loose.length) with h0 | h0
      · simp [h0]
      · simp [List.getElem?_eq_none (show [false].length ≤ i - loose.length by simp; omega)]
  | true =>
    simp only [if_true, BitVec.getMsbD_or, packByte_getMsbD _ hi]
    have hshift : (1#8 <<< (7 - loose.length)).getMsbD i = decide (i = loose.length) := by
      simp only [BitVec.getMsbD_shiftLeft, BitVec.getMsbD_one]
      grind
    rw [hshift]
    simp only [List.getD_eq_getElem?_getD, List.getElem?_append]
    rcases Nat.lt_trichotomy i loose.length with hlt | heq | hgt
    · simp [hlt, hlt.ne]
    · simp [heq]
    · rw [List.getElem?_eq_none hgt.le, if_neg (by omega),
        List.getElem?_eq_none (by simp; omega)]
      simp; omega

/-- The accumulator byte after one more bit. -/
theorem writing_curbitval_concat (s : Stream) (bit : BitVec 32) :
    (if bit ≠ 0 then (writing s).curbitval ||| (1#8 <<< (7 - (fill s.run).2.length))
      else (writing s).curbitval) = packByte ((fill s.run).2 ++ [decide (bit ≠ 0)]) := by
  rw [← packByte_concat (fill_loose_lt s.run)]
  by_cases hb : bit = 0 <;> simp [hb, writing]

theorem writing_decSize (s : Stream) :
    decSize (writing s).bitpos = 7 - (fill s.run).2.length := by
  have hlt := fill_loose_lt s.run
  have hpos : 0 < 8 - (fill s.run).2.length := by omega
  simp only [writing, decSize_of_pos hpos]
  omega

/-- One bit goes behind the open run; only the bit that completes a byte meets the
size assertion. -/
theorem writeBit_writing (s : Stream) (bit : BitVec 32) :
    (writing s).writeBit bit =
      if s.run.length % 8 = 7 → (writing s).storage.length < maxSize then
        .ok (writing ⟨s.closed, s.run ++ [decide (bit ≠ 0)]⟩)
      else .error .assertion := by
  have hlt := fill_loose_lt s.run
  rw [← fill_loose_length]
  simp only [writeBit, writing_decSize, writing_curbitval_concat]
  generalize decide (bit ≠ 0) = x
  by_cases h7 : (fill s.run).2.length = 7
  · have hfill : fill (s.run ++ [x]) =
        ((fill s.run).1 ++ [packByte ((fill s.run).2 ++ [x])], []) := by
      simp [fill_concat, pushBit, h7]
    have hzb : packByte [] = 0 := by decide
    rw [if_pos (by omega), append_at_end _ rfl (by simp)]
    simp only [h7, true_imp_iff]
    split
    · simp [writing, hfill, hzb, bind, Except.bind, pure, Except.pure, Nat.add_assoc]
    · rfl
  · have hnext : writing ⟨s.closed, s.run ++ [x]⟩ =
        { writing s with
          bitpos := 7 - (fill s.run).2.length
          curbitval := packByte ((fill s.run).2 ++ [x]) } := by
      simp [writing, fill_concat, pushBit, h7]
    rw [if_neg (by omega), if_pos (fun h => absurd h h7), hnext]
    rfl

/-- One bit goes behind the open run. -/
theorem writeBit_stores (s : Stream) (bit : BitVec 32) :
    Stores ((writing s).writeBit bit) ⟨s.closed, s.run ++ [decide (bit ≠ 0)]⟩ := by
  rw [writeBit_writing]
  apply Stores.of_guard
  intro hle h7
  have hlen := packBits_length (s.run ++ [decide (bit ≠ 0)])
  have hstored := congrArg List.length (unpack_fill s.run).1
  have hloose := fill_loose_length s.run
  simp only [finish, List.length_append, List.length_singleton, unpack_length] at hle hlen hstored
  simp only [writing_storage, List.length_append]
  omega

theorem ofNat_shift_ne_zero (value i : Nat) :
    decide (BitVec.ofNat 32 ((value >>> i) &&& 1) ≠ 0) = value.testBit i := by
  rw [Nat.testBit, Nat.and_comm]
  rcases Nat.mod_two_eq_zero_or_one (value >>> i) with h | h <;> simp [h]

/-- `WriteBits` contributes the low bits of its value. -/
theorem writeBits_stores (s : Stream) (value n : Nat) :
    Stores ((writing s).writeBits value n) (absorb s (.bits (bitsOfNat n value))) := by
  induction n generalizing s with
  | zero =>
    have hs : absorb s (.bits (bitsOfNat 0 value)) = s := by simp [absorb, bitsOfNat]
    rw [hs]
    exact Stores.ok s
  | succ i ih =>
    have hbit := writeBit_stores s (BitVec.ofNat 32 ((value >>> i) &&& 1))
    rw [ofNat_shift_ne_zero] at hbit
    have hrest := ih ⟨s.closed, s.run ++ [value.testBit i]⟩
    have heq : absorb s (.bits (bitsOfNat (i + 1) value)) =
        absorb ⟨s.closed, s.run ++ [value.testBit i]⟩ (.bits (bitsOfNat i value)) := by
      simp [absorb, bitsOfNat]
    rw [heq]
    exact hbit.bind hrest (finish_length_le_absorb _ _)

/-- `FlushBits` closes the open run; without loose bits it does nothing. -/
theorem flushBits_writing (s : Stream) :
    (writing s).flushBits =
      if s.run.length % 8 ≠ 0 → (writing s).storage.length < maxSize then
        .ok (writing ⟨finish s, []⟩)
      else .error .assertion := by
  by_cases h : s.run.length % 8 = 0
  · have h8 : (writing s).bitpos = 8 := by simp [writing_bitpos, h]
    rw [flushBits, if_pos h8, writing_eq_of_aligned s h, if_pos (fun hne => absurd h hne)]
  · have hloose : (fill s.run).2 ≠ [] := mt (fill_loose_eq_nil_iff s.run).mp h
    have h8 : (writing s).bitpos ≠ 8 := by
      rw [writing_bitpos]
      omega
    have hzb : packByte [] = 0 := by decide
    rw [flushBits, if_neg h8, append_at_end _ rfl (by simp)]
    simp only [ne_eq, h, not_false_eq_true, true_imp_iff]
    split
    · simp [writing, finish, packBits, closeByte, hloose, hzb, bind, Except.bind, pure,
        Except.pure, Nat.add_assoc]
    · rfl

/-- `FlushBits` closes the open run. -/
theorem flushBits_stores (s : Stream) : Stores ((writing s).flushBits) ⟨finish s, []⟩ := by
  rw [flushBits_writing]
  apply Stores.of_guard
  intro hle h
  have hloose : (fill s.run).2 ≠ [] := mt (fill_loose_eq_nil_iff s.run).mp h
  simp only [finish, packBits, closeByte, if_neg hloose, List.length_append] at hle
  simp at hle ⊢
  omega

theorem leBytes_scalar_ne_nil (t : ScalarType) (v : Nat) : leBytes t.size v ≠ [] := by
  have hlen := leBytes_length t.size v
  have hpos := t.size_pos
  intro h
  rw [h] at hlen
  simp at hlen
  omega

/-- The chunk of a fixed-width scalar. -/
def scalarChunk {t : ScalarType} (value : t.Value) : Chunk :=
  .bytes (leBytes t.size value.toNat)

/-- `append<T>` closes the run and contributes the bytes of its value. -/
theorem appendScalar_stores (s : Stream) {t : ScalarType} (value : t.Value) :
    Stores ((writing s).appendScalar value) (absorb s (scalarChunk value)) := by
  have hne := leBytes_scalar_ne_nil t value.toNat
  have heq : absorb s (scalarChunk value) = ⟨finish s ++ leBytes t.size value.toNat, []⟩ := by
    simp [absorb, scalarChunk, hne, finish]
  rw [heq]
  apply (flushBits_stores s).bind (append_closed (finish s) hne)
  simp [finish]

/-- The chunk of a byte that is stored only when it is not zero. -/
def byteSeqChunk (c : Byte) : Chunk := .bytes (if c ≠ 0 then [c ^^^ 1#8] else [])

theorem writeByteSeq_stores (s : Stream) (c : Byte) :
    Stores ((writing s).writeByteSeq c) (absorb s (byteSeqChunk c)) := by
  by_cases hc : c = 0#8
  · have hs : absorb s (byteSeqChunk c) = s := by simp [absorb, byteSeqChunk, hc]
    rw [hs, writeByteSeq, if_neg (by simp [hc])]
    exact Stores.ok s
  · have h := appendScalar_stores s (t := .uint8) (c ^^^ 1#8)
    have hchunk : scalarChunk (t := .uint8) (c ^^^ 1#8) = byteSeqChunk c := by
      simp [scalarChunk, byteSeqChunk, hc, leBytes, ScalarType.size]
    rw [hchunk] at h
    rw [writeByteSeq, if_pos (by simp [hc])]
    exact h

/-- Writes that each store their own chunk store the chunks in order. -/
theorem foldlM_stores {α : Type} {write : ByteBuffer → α → Except ByteBufferError ByteBuffer}
    {chunk : α → Chunk} {xs : List α}
    (h : ∀ x ∈ xs, ∀ s, Stores (write (writing s) x) (absorb s (chunk x))) (s : Stream) :
    Stores (xs.foldlM write (writing s)) ((xs.map chunk).foldl absorb s) := by
  induction xs generalizing s with
  | nil => exact Stores.ok s
  | cons x rest ih =>
    rw [List.forall_mem_cons] at h
    rw [List.foldlM_cons, List.map_cons, List.foldl_cons]
    exact (h.1 s).bind (ih h.2 _) (finish_length_le_foldl _ _)

/-- Raw bytes appended while no bit is pending go where they belong. -/
theorem append_stores (s : Stream) {src : List Byte} (h : src ≠ [])
    (haligned : s.run.length % 8 = 0) :
    Stores ((writing s).append src) (absorb s (.bytes src)) := by
  have heq : absorb s (.bytes src) = ⟨finish s ++ src, []⟩ := by
    simp [absorb, h, finish]
  rw [heq, writing_eq_of_aligned s haligned]
  exact append_closed (finish s) h

end ByteBuffer

end Cataclysm
