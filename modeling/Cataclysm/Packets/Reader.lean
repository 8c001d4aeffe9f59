import Cataclysm.Packets.ByteBuffer

/-!
# What a buffer that is read still offers

A reader sees the loose bits of the accumulator and the bytes from the read
cursor on. `ReadBit` takes the head of the bit stream they spell and refills the
accumulator only when no loose bit is left; `read<T>` takes bytes at the cursor
and leaves the loose bits where they are.
-/

namespace Cataclysm
open BitString

namespace ByteBuffer

/-- The bits of the accumulator behind the bit cursor. -/
def looseBits (b : ByteBuffer) : List Bool := (byteBits b.curbitval).drop (b.bitpos + 1)

/-- The buffer with the given storage offers these loose bits and these bytes. -/
structure Reading (storage : List Byte) (b : ByteBuffer) (loose : List Bool)
    (rest : List Byte) : Prop where
  storage_eq : b.storage = storage
  rpos_le : b.rpos ≤ b.storage.length
  rest_eq : b.storage.drop b.rpos = rest
  loose_eq : b.looseBits = loose

variable {storage : List Byte}

variable {b : ByteBuffer} {loose tail : List Bool} {rest : List Byte}

theorem Reading.loose_lt (h : Reading storage b loose rest) : loose.length < 8 := by
  rw [← h.loose_eq, looseBits, List.length_drop, byteBits_length]
  omega

/-- A reader with no bytes left stands at the end of the storage. -/
theorem Reading.rpos_eq_length (h : Reading storage b loose []) : b.rpos = storage.length := by
  have hle := List.drop_eq_nil_iff.mp h.rest_eq
  rw [← h.storage_eq]
  exact le_antisymm h.rpos_le hle

/-- A buffer at position zero with an idle bit cursor offers its whole storage. -/
theorem reading_start (hr : b.rpos = 0) (hb : b.bitpos = 8) : Reading b.storage b [] b.storage := by
  refine ⟨rfl, by omega, by simp [hr], ?_⟩
  apply List.drop_eq_nil_of_le
  simp [hb]

theorem currentBit_eq (b : ByteBuffer) (h : b.bitpos ≤ 7) :
    b.currentBit = b.curbitval.getMsbD b.bitpos := by
  have hlsb : b.curbitval.getMsbD b.bitpos = b.curbitval.getLsbD (7 - b.bitpos) := by
    simp only [BitVec.getMsbD, show b.bitpos < 8 by omega, decide_true, Bool.true_and]
  rw [currentBit, hlsb, BitVec.and_one_eq_setWidth_ofBool_getLsbD, BitVec.getLsbD_ushiftRight]
  cases b.curbitval.getLsbD (7 - b.bitpos) <;> simp

theorem drop_byteBits (c : Byte) {p : Nat} (h : p < 8) :
    (byteBits c).drop p = c.getMsbD p :: (byteBits c).drop (p + 1) := by
  rw [List.drop_eq_getElem_cons (by simpa using h)]
  simp [byteBits]

/-- `read<T>()` takes the bytes at the cursor. -/
theorem read_reads {bytes : List Byte} (h : Reading storage b loose (bytes ++ rest)) :
    ∃ b', b.read bytes.length = .ok (leValue bytes, b') ∧ Reading storage b' loose rest ∧
      b'.curbitval = b.curbitval ∧ b'.bitpos = b.bitpos := by
  have hlen := congrArg List.length h.rest_eq
  simp only [List.length_drop, List.length_append] at hlen
  have hle := h.rpos_le
  have hfit : ¬ b.rpos + bytes.length > b.size := by
    simp only [size]
    omega
  refine ⟨{ b with rpos := b.rpos + bytes.length }, ?_,
    ⟨h.storage_eq, ?_, ?_, h.loose_eq⟩, rfl, rfl⟩
  · simp [read, readAt, hfit, h.rest_eq, bind, Except.bind, pure, Except.pure]
  · simp only
    omega
  · simp only
    rw [← List.drop_drop, h.rest_eq, List.drop_left]

/-- A cursor with fewer bytes left than asked for raises the position exception. -/
theorem read_fails {n : Nat} (h : Reading storage b loose rest) (hn : rest.length < n) :
    b.read n = .error (.positionException false b.rpos n b.size) := by
  have hlen := congrArg List.length h.rest_eq
  have hle := h.rpos_le
  have hfit : b.rpos + n > b.size := by
    simp only [List.length_drop] at hlen
    simp only [size]
    omega
  simp [read, readAt, hfit, bind, Except.bind]

/-- `ReadBit` takes the head of the bit stream. -/
theorem readBit_reads {x : Bool} (h : Reading storage b loose rest)
    (hs : loose ++ unpack rest = x :: tail) :
    ∃ b' loose' rest', b.readBit = .ok (x, b') ∧ Reading storage b' loose' rest' ∧
      loose' ++ unpack rest' = tail := by
  by_cases hpos : b.bitpos + 1 > 7
  · have hnil : loose = [] := by
      rw [← h.loose_eq]
      apply List.drop_eq_nil_of_le
      simp
      omega
    subst hnil
    cases rest with
    | nil => simp at hs
    | cons c rest =>
      have hstart : Reading storage { b with bitpos := 0 } ((byteBits b.curbitval).drop 1)
          ([c] ++ rest) := ⟨h.storage_eq, h.rpos_le, h.rest_eq, rfl⟩
      obtain ⟨b', hread, hb', hcur, hbit⟩ := read_reads hstart
      have hvalue : leValue [c] = c.toNat := by simp [leValue]
      simp only [List.nil_append, unpack_cons] at hs
      rw [← List.drop_zero (l := byteBits c), drop_byteBits c (by omega)] at hs
      injection hs with hx htail
      have hbit0 : b'.bitpos = 0 := hbit
      refine ⟨{ b' with curbitval := c }, (byteBits c).drop 1, rest, ?_,
        ⟨hb'.storage_eq, hb'.rpos_le, hb'.rest_eq, by simp [looseBits, hbit0]⟩, htail⟩
      have hcurrent : ({ b' with curbitval := c } : ByteBuffer).currentBit = x := by
        rw [currentBit_eq _ (by simp [hbit0])]
        simpa [hbit0] using hx
      have hread' : ({ b with bitpos := 0 } : ByteBuffer).read 1 = .ok (c.toNat, b') := by
        simpa [hvalue] using hread
      simp only [readBit, if_pos hpos, hread', bind, Except.bind, pure, Except.pure,
        BitVec.ofNat_toNat, BitVec.setWidth_eq, hcurrent]
  · have hlt : b.bitpos + 1 < 8 := by omega
    have hloose : loose = b.curbitval.getMsbD (b.bitpos + 1) ::
        (byteBits b.curbitval).drop (b.bitpos + 2) := by
      rw [← h.loose_eq, looseBits, drop_byteBits _ hlt]
    rw [hloose, List.cons_append] at hs
    injection hs with hx htail
    refine ⟨{ b with bitpos := b.bitpos + 1 }, _, rest, ?_,
      ⟨h.storage_eq, h.rpos_le, h.rest_eq, rfl⟩, htail⟩
    have hcurrent : ({ b with bitpos := b.bitpos + 1 } : ByteBuffer).currentBit = x := by
      rw [currentBit_eq _ (by simp only; omega)]
      exact hx
    simp only [readBit, if_neg hpos, hcurrent]
    rfl

/-- `ReadBit` on an exhausted stream raises the position exception. -/
theorem readBit_fails (h : Reading storage b [] []) :
    b.readBit = .error (.positionException false b.rpos 1 b.size) := by
  have hpos : b.bitpos + 1 > 7 := by
    have hlen := congrArg List.length h.loose_eq
    simp only [looseBits, List.length_drop, byteBits_length, List.length_nil] at hlen
    omega
  have hstart : Reading storage { b with bitpos := 0 } ((byteBits b.curbitval).drop 1) [] :=
    ⟨h.storage_eq, h.rpos_le, h.rest_eq, rfl⟩
  have hread := read_fails (n := 1) hstart (by simp)
  simp only [readBit, if_pos hpos, hread, bind, Except.bind]
  rfl

theorem or_shift_eq_add {value i : Nat} (h : 2 ^ (i + 1) ∣ value) :
    value ||| (1 <<< i) = value + 2 ^ i := by
  obtain ⟨k, rfl⟩ := h
  rw [Nat.one_shiftLeft, Nat.two_pow_add_eq_or_of_lt (Nat.pow_lt_pow_right (by omega) (by omega))]

/-- The loop of `ReadBits` adds the value of the bits it takes. -/
theorem readBitsLoop_reads {bits : List Bool} {value : Nat} (h : Reading storage b loose rest)
    (hs : loose ++ unpack rest = bits ++ tail) (hv : 2 ^ bits.length ∣ value) :
    ∃ b' loose' rest',
      b.readBitsLoop value bits.length = .ok (value + natOfBits bits, b') ∧
      Reading storage b' loose' rest' ∧ loose' ++ unpack rest' = tail := by
  induction bits generalizing b loose rest value with
  | nil => exact ⟨b, loose, rest, by simp [readBitsLoop, natOfBits, pure, Except.pure], h, hs⟩
  | cons x bits ih =>
    obtain ⟨b₁, loose₁, rest₁, hbit, h₁, hs₁⟩ := readBit_reads h hs
    have hdvd : 2 ^ bits.length ∣
        (if x then value ||| (1 <<< bits.length) else value) := by
      have hle : 2 ^ bits.length ∣ value := (pow_dvd_pow 2 (by simp)).trans hv
      split
      · rw [or_shift_eq_add hv]
        exact Nat.dvd_add hle dvd_rfl
      · exact hle
    obtain ⟨b', loose', rest', hloop, h', hs'⟩ := ih h₁ hs₁ hdvd
    refine ⟨b', loose', rest', ?_, h', hs'⟩
    simp only [List.length_cons, readBitsLoop, hbit, bind, Except.bind, hloop, natOfBits]
    cases x with
    | false => simp
    | true => simp [or_shift_eq_add hv, Nat.add_assoc]

/-- `ReadBits` takes its bits from the stream and returns the number they denote. -/
theorem readBits_reads {bits : List Bool} (h : Reading storage b loose rest)
    (hs : loose ++ unpack rest = bits ++ tail) :
    ∃ b' loose' rest', b.readBits bits.length = .ok (natOfBits bits, b') ∧
      Reading storage b' loose' rest' ∧ loose' ++ unpack rest' = tail := by
  simpa [readBits] using readBitsLoop_reads h hs (dvd_zero _)

/-- `ReadBits` on a stream that is too short raises an exception. -/
theorem readBits_fails {n : Nat} (h : Reading storage b loose rest)
    (hlen : (loose ++ unpack rest).length < n) : ∃ e, b.readBits n = .error e := by
  suffices hloop : ∀ value, ∃ e, b.readBitsLoop value n = .error e from hloop 0
  induction n generalizing b loose rest with
  | zero => exact absurd hlen (Nat.not_lt_zero _)
  | succ n ih =>
    intro value
    rcases hs : loose ++ unpack rest with _ | ⟨x, tail⟩
    · obtain ⟨rfl, hrest⟩ := List.append_eq_nil_iff.mp hs
      have hnil := unpack_injective (hrest.trans unpack_nil.symm)
      subst hnil
      exact ⟨_, by simp only [readBitsLoop, readBit_fails h]; rfl⟩
    · obtain ⟨b₁, loose₁, rest₁, hbit, h₁, hs₁⟩ := readBit_reads h hs
      rw [hs, List.length_cons, Nat.succ_lt_succ_iff] at hlen
      obtain ⟨e, he⟩ := ih h₁ (by rwa [hs₁])
        (if x then value ||| (1 <<< n) else value)
      exact ⟨e, by simp only [readBitsLoop, hbit, bind, Except.bind, he]⟩

/-- `read<T>()` returns a scalar stored at the cursor. -/
theorem readScalar_reads {t : ScalarType} (value : t.Value)
    (h : Reading storage b loose (leBytes t.size value.toNat ++ rest)) :
    ∃ b', b.readScalar t = .ok (value, b') ∧ Reading storage b' loose rest := by
  obtain ⟨b', hread, hb', -, -⟩ := read_reads h
  have hlt : value.toNat < 256 ^ t.size := by
    have hv := value.isLt
    rwa [show (256 : Nat) = 2 ^ 8 by norm_num, ← pow_mul]
  rw [leBytes_length, leValue_leBytes hlt] at hread
  refine ⟨b', ?_, hb'⟩
  simp [readScalar, hread, bind, Except.bind, pure, Except.pure]

/-- `ReadByteSeq` on a byte that is zero exactly when nothing was stored. -/
theorem readByteSeq_xor {d c : Byte} (hd : d = 0 ↔ c = 0)
    (h : Reading storage b loose ((if c ≠ 0 then [c ^^^ 1#8] else []) ++ rest)) :
    ∃ b', b.readByteSeq d = .ok (if c ≠ 0 then d ^^^ (c ^^^ 1#8) else 0, b') ∧
      Reading storage b' loose rest := by
  by_cases hc : c = 0#8
  · refine ⟨b, ?_, by simpa [hc] using h⟩
    have hzero : d = 0#8 := hd.mpr hc
    simp [readByteSeq, hc, hzero, pure, Except.pure]
  · have hdne : d ≠ 0 := mt hd.mp hc
    have hcne : c ≠ 0 := hc
    rw [if_pos hcne] at h
    obtain ⟨b', hread, hb', -, -⟩ := read_reads h
    refine ⟨b', ?_, hb'⟩
    have hread' : b.read 1 = .ok ((c ^^^ 1#8).toNat, b') := by
      simpa [leValue] using hread
    simp only [readByteSeq, if_pos hdne, if_pos hcne, hread', bind, Except.bind, pure, Except.pure,
      BitVec.ofNat_toNat, BitVec.setWidth_eq]

/-- `ReadByteSeq` on a presence bit returns the byte that was stored for it. -/
theorem readByteSeq_reads {c : Byte}
    (h : Reading storage b loose ((if c ≠ 0 then [c ^^^ 1#8] else []) ++ rest)) :
    ∃ b', b.readByteSeq (if c ≠ 0 then 1 else 0) = .ok (c, b') ∧ Reading storage b' loose rest := by
  have hd : (if c ≠ 0 then (1 : Byte) else 0) = 0 ↔ c = 0 := by
    by_cases hc : c = 0#8 <;> simp [hc]
  obtain ⟨b', hread, hb'⟩ := readByteSeq_xor hd h
  refine ⟨b', ?_, hb'⟩
  have hxor : (1 : Byte) ^^^ (c ^^^ 1#8) = c := by
    rw [BitVec.xor_comm c, ← BitVec.xor_assoc]
    simp
  rw [hread]
  by_cases hc : c = 0#8
  · simp [hc]
  · have hcne : c ≠ 0 := hc
    rw [if_pos hcne, if_pos hcne, hxor]

end ByteBuffer

end Cataclysm
