import Cataclysm.Lib.BitString

/-!
# Streams of bit runs and byte blocks

A stream is a list of chunks, each a string of bits or a block of whole bytes.
Consecutive bit chunks form one run; the run is packed into bytes when the next
non-empty byte block arrives or the stream ends. An empty block stores nothing
and does not end a run.
-/

namespace BlockStream
open BitString

/-- One contribution to a stream. -/
inductive Chunk
  | bits (bs : List Bool)
  | bytes (cs : List Byte)
  deriving DecidableEq

/-- The bytes of a stream whose open run already holds the given bits. -/
def encode : List Bool → List Chunk → List Byte
  | run, [] => packBits run
  | run, .bits bs :: rest => encode (run ++ bs) rest
  | run, .bytes cs :: rest =>
    if cs = [] then encode run rest else packBits run ++ cs ++ encode [] rest

@[simp] theorem encode_nil (run : List Bool) : encode run [] = packBits run := rfl

@[simp] theorem encode_bits (run bs : List Bool) (rest : List Chunk) :
    encode run (.bits bs :: rest) = encode (run ++ bs) rest := rfl

theorem encode_bytes (run : List Bool) {cs : List Byte} (h : cs ≠ []) (rest : List Chunk) :
    encode run (.bytes cs :: rest) = packBits run ++ cs ++ encode [] rest := by
  simp [encode, h]

@[simp] theorem encode_bytes_nil (run : List Bool) (rest : List Chunk) :
    encode run (.bytes [] :: rest) = encode run rest := by
  simp [encode]

/-- Whatever follows, the encoding starts with the bits of the open run. -/
theorem encode_starts_with_run (run : List Bool) (chunks : List Chunk) :
    ∃ tail, unpack (encode run chunks) = run ++ tail := by
  induction chunks generalizing run with
  | nil => exact ⟨_, unpack_packBits run⟩
  | cons chunk rest ih =>
    cases chunk with
    | bits bs =>
      obtain ⟨tail, htail⟩ := ih (run ++ bs)
      exact ⟨bs ++ tail, by rw [encode_bits, htail, List.append_assoc]⟩
    | bytes cs =>
      by_cases hcs : cs = []
      · subst hcs
        simpa using ih run
      · refine ⟨List.replicate (padding run) false ++ unpack (cs ++ encode [] rest), ?_⟩
        rw [encode_bytes run hcs, List.append_assoc, unpack_append, unpack_packBits,
          List.append_assoc]

/-- The bytes already closed and the run still open behind them. -/
structure Stream where
  closed : List Byte
  run : List Bool

/-- Add one chunk to a stream. -/
def absorb (s : Stream) : Chunk → Stream
  | .bits bs => ⟨s.closed, s.run ++ bs⟩
  | .bytes cs => if cs = [] then s else ⟨s.closed ++ packBits s.run ++ cs, []⟩

/-- Two blocks in a row count as one. -/
theorem absorb_absorb_bytes (s : Stream) (xs ys : List Byte) :
    absorb (absorb s (.bytes xs)) (.bytes ys) = absorb s (.bytes (xs ++ ys)) := by
  rcases xs with _ | ⟨x, xs⟩
  · rfl
  · rcases ys with _ | ⟨y, ys⟩
    · simp [absorb]
    · simp [absorb]

/-- Close the open run. -/
def finish (s : Stream) : List Byte := s.closed ++ packBits s.run

/-- Absorbing chunk after chunk spells the encoding of the whole list. -/
theorem finish_foldl_absorb (s : Stream) (chunks : List Chunk) :
    finish (chunks.foldl absorb s) = s.closed ++ encode s.run chunks := by
  induction chunks generalizing s with
  | nil => rfl
  | cons chunk rest ih =>
    rw [List.foldl_cons, ih]
    cases chunk with
    | bits bs => rfl
    | bytes cs =>
      by_cases hcs : cs = []
      · subst hcs
        simp [absorb]
      · simp [absorb, hcs, encode_bytes s.run hcs]

/-- Absorbing only ever lengthens what is stored. -/
theorem finish_length_le_absorb (s : Stream) (chunk : Chunk) :
    (finish s).length ≤ (finish (absorb s chunk)).length := by
  cases chunk with
  | bits bs =>
    have h := congrArg List.length (unpack_packBits s.run)
    have h' := congrArg List.length (unpack_packBits (s.run ++ bs))
    have hp := padding_lt s.run
    simp only [unpack_length, List.length_append, List.length_replicate] at h h'
    simp only [finish, absorb, List.length_append]
    omega
  | bytes cs =>
    by_cases hcs : cs = []
    · simp [absorb, hcs]
    · simp only [absorb, if_neg hcs, finish, List.length_append, packBits_nil]
      simp

theorem finish_length_le_foldl (s : Stream) (chunks : List Chunk) :
    (finish s).length ≤ (finish (chunks.foldl absorb s)).length := by
  induction chunks generalizing s with
  | nil => exact le_rfl
  | cons chunk rest ih => exact (finish_length_le_absorb s chunk).trans (ih _)

end BlockStream
