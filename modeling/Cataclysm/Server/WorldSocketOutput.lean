import Cataclysm.Lib.BitString
import Cataclysm.Lib.Runs

/-!
# Output order of the world socket

`SendPacket` frames a packet and puts it into the flat output buffer, or into the
message queue when the buffer has no room or the queue is in use. `handle_output`
sends from the buffer first and then one block of the queue; a block that was not
sent completely goes back to the head of the queue.

Nothing is lost or reordered as long as the blocks that go back find room. The
queue counts the sizes of its blocks and refuses an `enqueue_head` at the high
water mark; after `EWOULDBLOCK` that refusal is ignored, and the block is gone
although no call reported a failure.

## Implementation notes

Compression, the header cipher and the presence of a session are the fields of
`Framing` over a state type `κ`. Encryption works in place, so the length of the
encrypted header is `getHeaderLength()`. A block remembers its allocated size,
which the queue counts, and the bytes between its read and write pointers; `crunch`
keeps the data of the output buffer at its base, so the space left is the size less
the data. The bytes that the peer's socket accepted are recorded in the state.
-/

namespace Cataclysm
open BitString Runs

/-- An opcode and a payload. -/
structure ServerPacket where
  opcode : Nat
  contents : List Byte
  deriving DecidableEq

/-- What `SendPacket` does to a packet before it is queued. -/
structure Framing (κ : Type) where
  hasSession : κ → Bool
  compress : κ → ServerPacket → κ × ServerPacket
  encryptSend : κ → List Byte → κ × List Byte

/-- The bytes of a `ServerPktHeader`: `size` counts payload and opcode. -/
def serverPktHeader (size cmd : Nat) : List Byte :=
  let size := size % 2 ^ 32
  let cmd := cmd % 2 ^ 16
  (if size > 0x7FFF then [BitVec.ofNat 8 (0x80 ||| (0xFF &&& (size >>> 16)))] else []) ++
    [BitVec.ofNat 8 (size >>> 8), BitVec.ofNat 8 size,
      BitVec.ofNat 8 cmd, BitVec.ofNat 8 (cmd >>> 8)]

namespace Framing

variable {κ : Type} (f : Framing κ)

/-- The packet that goes out: compressed when it is long and there is a session. -/
def outgoing (k : κ) (pct : ServerPacket) : κ × ServerPacket :=
  if f.hasSession k ∧ pct.contents.length > 0x400 then f.compress k pct else (k, pct)

/-- The encrypted header and the payload of a packet. -/
def frame (k : κ) (pct : ServerPacket) : κ × List Byte × List Byte :=
  let (k, pkt) := f.outgoing k pct
  let (k, header) := f.encryptSend k (serverPktHeader (pkt.contents.length + 2) pkt.opcode)
  (k, header, pkt.contents)

/-- The framed packets of a list, in order. -/
def frameAll : κ → List ServerPacket → κ × List Byte
  | k, [] => (k, [])
  | k, pct :: rest =>
    let (k, header, payload) := f.frame k pct
    let (k, bytes) := frameAll k rest
    (k, header ++ payload ++ bytes)

theorem frameAll_concat (k : κ) (pcts : List ServerPacket) (pct : ServerPacket) :
    f.frameAll k (pcts ++ [pct]) =
      ((f.frame (f.frameAll k pcts).1 pct).1,
        (f.frameAll k pcts).2 ++ ((f.frame (f.frameAll k pcts).1 pct).2.1 ++
          (f.frame (f.frameAll k pcts).1 pct).2.2)) := by
  induction pcts generalizing k with
  | nil => simp [frameAll]
  | cons first rest ih => simp [frameAll, ih]

end Framing

/-- An `ACE_Message_Block` of the message queue. -/
structure QueuedBlock where
  size : Nat
  data : List Byte
  deriving DecidableEq

/-- The part of a `WorldSocket` that its output handlers use. -/
structure OutputSocket (κ : Type) where
  framing : κ
  closing : Bool
  outBuffer : List Byte
  queue : List QueuedBlock
  sent : List Byte

/-- What `peer().send` reports. -/
inductive SendResult
  | accepted (n : Nat)
  | wouldBlock
  | failed
  deriving DecidableEq

namespace OutputSocket

variable {κ : Type} (f : Framing κ)

/-- `m_OutBufferSize`. -/
def outBufferSize : Nat := 65536

def highWaterMark : Nat := 8 * 1024 * 1024

def opened (k : κ) : OutputSocket κ := ⟨k, false, [], [], []⟩

/-- `cur_bytes_` of the message queue. -/
def curBytes (queue : List QueuedBlock) : Nat := (queue.map QueuedBlock.size).sum

/-- `is_full_i` of the message queue: the enqueue operations fail on it. -/
def isFull (queue : List QueuedBlock) : Bool := curBytes queue ≥ highWaterMark

def sendPacket (s : OutputSocket κ) (pct : ServerPacket) : OutputSocket κ × Int :=
  if s.closing then (s, -1)
  else
    let (framing, header, payload) := f.frame s.framing pct
    let s := { s with framing }
    if outBufferSize - s.outBuffer.length ≥ payload.length + header.length ∧ s.queue = [] then
      ({ s with outBuffer := s.outBuffer ++ header ++ payload }, 0)
    else if isFull s.queue then (s, -1)
    else
      ({ s with queue := s.queue ++ [⟨payload.length + header.length, header ++ payload⟩] }, 0)

/-- `ACE_Event_Handler::WRITE_MASK`. -/
def writeMask : Int := 2

def handleOutputQueue (s : OutputSocket κ) (result : SendResult) : OutputSocket κ × Int :=
  match s.queue with
  | [] => (s, 0)
  | mblk :: rest =>
    let s := { s with queue := rest }
    match result with
    | .accepted n =>
      if n = 0 then (s, -1)
      else if n < mblk.data.length then
        let s := { s with sent := s.sent ++ mblk.data.take n }
        if isFull rest then (s, -1)
        else ({ s with queue := { mblk with data := mblk.data.drop n } :: rest }, 0)
      else ({ s with sent := s.sent ++ mblk.data }, if rest = [] then 0 else writeMask)
    | .wouldBlock =>
      -- The result of `enqueue_head` is not looked at here.
      if isFull rest then (s, 0) else ({ s with queue := mblk :: rest }, 0)
    | .failed => (s, -1)

/-- `handle_output`, given the results of the send from the buffer and from the queue. -/
def handleOutput (s : OutputSocket κ) (fromBuffer fromQueue : SendResult) :
    OutputSocket κ × Int :=
  if s.closing then (s, -1)
  else if s.outBuffer.length = 0 then s.handleOutputQueue fromQueue
  else
    match fromBuffer with
    | .accepted n =>
      if n = 0 then (s, -1)
      else if n < s.outBuffer.length then
        ({ s with sent := s.sent ++ s.outBuffer.take n, outBuffer := s.outBuffer.drop n }, 0)
      else
        { s with sent := s.sent ++ s.outBuffer, outBuffer := [] }.handleOutputQueue fromQueue
    | .wouldBlock => (s, 0)
    | .failed => (s, -1)

/-- The calls that the network and the game threads make in any order. -/
inductive Call
  | sendPacket (pct : ServerPacket)
  | handleOutput (fromBuffer fromQueue : SendResult)

def call (s : OutputSocket κ) : Call → OutputSocket κ × Int
  | .sendPacket pct => s.sendPacket f pct
  | .handleOutput fromBuffer fromQueue => s.handleOutput fromBuffer fromQueue

def step (s : OutputSocket κ) (c : Call) : OutputSocket κ := (s.call f c).1

/-- The packets handed to `SendPacket`, in order. -/
def packets (calls : List Call) : List ServerPacket :=
  calls.filterMap fun
    | .sendPacket pct => some pct
    | .handleOutput _ _ => none

/-- The bytes that wait to be sent. -/
def unsent (s : OutputSocket κ) : List Byte := s.outBuffer ++ s.queue.flatMap QueuedBlock.data

/-- The call reaches the queue and the socket of the peer takes nothing from it. -/
def blocksOnQueue (s : OutputSocket κ) : Call → Bool
  | .sendPacket _ => false
  | .handleOutput fromBuffer fromQueue =>
    fromQueue = .wouldBlock &&
      (s.outBuffer = [] ||
        match fromBuffer with
        | .accepted n => n ≥ s.outBuffer.length
        | _ => false)

/-- The call reports no failure, and a block that finds the peer blocked fits back. -/
structure Allowed (s : OutputSocket κ) (c : Call) : Prop where
  succeeds : (s.call f c).2 ≠ -1
  fits : s.blocksOnQueue c = true → isFull s.queue.tail = false

/-- The socket has sent a prefix of the framed packets and holds the rest. -/
structure Conserves (k : κ) (calls : List Call) (s : OutputSocket κ) : Prop where
  framing_eq : s.framing = (f.frameAll k (packets calls)).1
  bytes_eq : s.sent ++ s.unsent = (f.frameAll k (packets calls)).2

section Steps

variable {f} {s : OutputSocket κ}

/-- What a call must keep: the framing state and the bytes sent and unsent. -/
def Keeps (s s' : OutputSocket κ) : Prop :=
  s'.framing = s.framing ∧ s'.sent ++ s'.unsent = s.sent ++ s.unsent

theorem Keeps.refl (s : OutputSocket κ) : Keeps s s := ⟨rfl, rfl⟩

/-- One send from the queue keeps the bytes when a blocked block fits back. -/
theorem handleOutputQueue_keeps {result : SendResult} (hbuffer : s.outBuffer = [])
    (hsucceeds : (s.handleOutputQueue result).2 ≠ -1)
    (hfits : result = .wouldBlock → isFull s.queue.tail = false) :
    Keeps s (s.handleOutputQueue result).1 := by
  rw [handleOutputQueue] at hsucceeds ⊢
  cases hqueue : s.queue with
  | nil => exact Keeps.refl s
  | cons mblk rest =>
    rw [hqueue] at hsucceeds hfits
    cases result with
    | accepted n =>
      simp only at hsucceeds ⊢
      split
      · rename_i hzero
        rw [if_pos hzero] at hsucceeds
        exact absurd rfl hsucceeds
      · rename_i hzero
        rw [if_neg hzero] at hsucceeds
        split
        · rename_i hpart
          rw [if_pos hpart] at hsucceeds
          split
          · rename_i hfull
            rw [if_pos hfull] at hsucceeds
            exact absurd rfl hsucceeds
          · refine ⟨rfl, ?_⟩
            simp only [unsent, hbuffer, hqueue, List.nil_append, List.flatMap_cons]
            rw [List.append_assoc, ← List.append_assoc (mblk.data.take n),
              List.take_append_drop]
        · exact ⟨rfl, by simp [unsent, hbuffer, hqueue]⟩
    | wouldBlock =>
      have hfull : isFull rest = false := hfits rfl
      simp only [hfull, Bool.false_eq_true, if_false]
      exact ⟨rfl, by simp [unsent, hqueue]⟩
    | failed => exact absurd rfl hsucceeds

/-- One send from the buffer, and the send from the queue behind it, keep the bytes. -/
theorem handleOutput_keeps {fromBuffer fromQueue : SendResult}
    (hsucceeds : (s.handleOutput fromBuffer fromQueue).2 ≠ -1)
    (hfits : s.blocksOnQueue (.handleOutput fromBuffer fromQueue) = true →
      isFull s.queue.tail = false) :
    Keeps s (s.handleOutput fromBuffer fromQueue).1 := by
  unfold handleOutput at hsucceeds ⊢
  split
  · exact Keeps.refl s
  · rename_i hclosing
    rw [if_neg hclosing] at hsucceeds
    split
    · rename_i hlength
      rw [if_pos hlength] at hsucceeds
      have hempty := List.eq_nil_of_length_eq_zero hlength
      apply handleOutputQueue_keeps hempty hsucceeds
      rintro rfl
      exact hfits (by simp [blocksOnQueue, hempty])
    · rename_i hlength
      rw [if_neg hlength] at hsucceeds
      cases fromBuffer with
      | accepted n =>
        simp only at hsucceeds ⊢
        split
        · exact Keeps.refl s
        · rename_i hzero
          rw [if_neg hzero] at hsucceeds
          split
          · refine ⟨rfl, ?_⟩
            simp only [unsent]
            rw [List.append_assoc, ← List.append_assoc (s.outBuffer.take n),
              List.take_append_drop]
          · rename_i hall
            rw [if_neg hall] at hsucceeds
            have hqueue := handleOutputQueue_keeps
              (s := { s with sent := s.sent ++ s.outBuffer, outBuffer := [] }) rfl hsucceeds
              (by
                rintro rfl
                exact hfits (by simp [blocksOnQueue, Nat.le_of_not_lt hall]))
            refine ⟨hqueue.1, hqueue.2.trans ?_⟩
            simp [unsent]
      | wouldBlock => exact Keeps.refl s
      | failed => exact Keeps.refl s

/-- An accepted packet goes behind everything that waits. -/
theorem sendPacket_appends {pct : ServerPacket} (hsucceeds : (s.sendPacket f pct).2 ≠ -1) :
    (s.sendPacket f pct).1.framing = (f.frame s.framing pct).1 ∧
      (s.sendPacket f pct).1.sent ++ (s.sendPacket f pct).1.unsent =
        s.sent ++ s.unsent ++ ((f.frame s.framing pct).2.1 ++ (f.frame s.framing pct).2.2) := by
  rw [sendPacket] at hsucceeds ⊢
  split
  · rename_i hclosing
    rw [if_pos hclosing] at hsucceeds
    exact absurd rfl hsucceeds
  · rename_i hclosing
    rw [if_neg hclosing] at hsucceeds
    simp only at hsucceeds ⊢
    split
    · rename_i hroom
      exact ⟨rfl, by simp [unsent, hroom.2]⟩
    · rename_i hroom
      rw [if_neg hroom] at hsucceeds
      split
      · rename_i hfull
        rw [if_pos hfull] at hsucceeds
        exact absurd rfl hsucceeds
      · exact ⟨rfl, by simp [unsent]⟩

/-- Every allowed call conserves the stream. -/
theorem Conserves.step {k : κ} {calls : List Call} {c : Call} (h : Conserves f k calls s)
    (hallowed : Allowed f s c) : Conserves f k (calls ++ [c]) (step f s c) := by
  cases c with
  | sendPacket pct =>
    obtain ⟨hframing, hbytes⟩ := sendPacket_appends hallowed.succeeds
    have hpackets : packets (calls ++ [.sendPacket pct]) = packets calls ++ [pct] := by
      simp [packets]
    constructor
    · rw [hpackets, Framing.frameAll_concat, ← h.framing_eq]
      exact hframing
    · rw [hpackets, Framing.frameAll_concat, ← h.framing_eq, ← h.bytes_eq]
      exact hbytes
  | handleOutput fromBuffer fromQueue =>
    obtain ⟨hframing, hbytes⟩ := handleOutput_keeps hallowed.succeeds hallowed.fits
    have hpackets : packets (calls ++ [.handleOutput fromBuffer fromQueue]) = packets calls := by
      simp [packets]
    constructor
    · rw [hpackets, ← h.framing_eq]
      exact hframing
    · rw [hpackets, ← h.bytes_eq]
      exact hbytes

end Steps

/-- In every state of a run of allowed calls, what was sent is a prefix of the framed packets
in `SendPacket` order, and the rest is the output buffer followed by the queue. -/
theorem sent_append_unsent (k : κ) (calls : List Call)
    (h : Admissible (step f) (Allowed f) (opened k) calls) (before : List Call)
    (hbefore : before <+: calls) :
    (run (step f) (opened k) before).sent ++ (run (step f) (opened k) before).unsent =
        (f.frameAll k (packets before)).2 ∧
      (run (step f) (opened k) before).sent <+: (f.frameAll k (packets before)).2 := by
  have hinit : Conserves f k [] (opened k) := ⟨rfl, rfl⟩
  have hconserves := h.holds_throughout (P := Conserves f k) Conserves.step hinit hbefore
  exact ⟨hconserves.bytes_eq, hconserves.bytes_eq ▸ List.prefix_append _ _⟩

/-- A connection before authentication: no session, idle cipher. -/
def plainFraming : Framing Unit := ⟨fun _ => false, fun k pct => (k, pct), fun k bytes => (k, bytes)⟩

/-- A packet sent in two parts, with a blocked attempt in between. -/
theorem sent_append_unsent_short :
    let calls : List Call :=
      [.sendPacket ⟨0x15, [7, 8]⟩, .handleOutput (.accepted 3) .wouldBlock,
        .handleOutput .wouldBlock .wouldBlock, .handleOutput (.accepted 3) .wouldBlock]
    (run (step plainFraming) (opened ()) calls).sent ++
          (run (step plainFraming) (opened ()) calls).unsent =
        (plainFraming.frameAll () (packets calls)).2 ∧
      (run (step plainFraming) (opened ()) calls).sent <+:
        (plainFraming.frameAll () (packets calls)).2 := by
  intro calls
  apply sent_append_unsent plainFraming () calls _ calls List.prefix_rfl
  exact ⟨⟨by decide, by decide⟩, ⟨by decide, by decide⟩, ⟨by decide, by decide⟩,
    ⟨by decide, by decide⟩, trivial⟩

section Loss

/-- A packet of zeros. -/
def zeros (n : Nat) : ServerPacket := ⟨1, List.replicate n 0⟩

/-- The block that the queue holds for a packet of zeros. -/
def zerosBlock (n : Nat) : QueuedBlock :=
  ⟨n + (serverPktHeader (n + 2) 1).length, serverPktHeader (n + 2) 1 ++ List.replicate n 0⟩

theorem serverPktHeader_length (size cmd : Nat) :
    4 ≤ (serverPktHeader size cmd).length ∧ (serverPktHeader size cmd).length ≤ 5 := by
  rw [serverPktHeader]
  simp only [List.length_append, List.length_cons, List.length_nil]
  split <;> simp

theorem frame_zeros (n : Nat) :
    plainFraming.frame () (zeros n) = ((), serverPktHeader (n + 2) 1, List.replicate n 0) := by
  simp [Framing.frame, Framing.outgoing, plainFraming, zeros]

/-- A packet that meets a used queue, or too little room, is queued. -/
theorem sendPacket_zeros (queue : List QueuedBlock) (n : Nat)
    (hroom : outBufferSize ≤ n ∨ queue ≠ []) (hfull : curBytes queue < highWaterMark) :
    sendPacket plainFraming ⟨(), false, [], queue, []⟩ (zeros n) =
      (⟨(), false, [], queue ++ [zerosBlock n], []⟩, 0) := by
  have hheader := serverPktHeader_length (n + 2) 1
  have hnot : ¬ (outBufferSize - ([] : List Byte).length ≥
      (List.replicate n (0 : Byte)).length + (serverPktHeader (n + 2) 1).length ∧ queue = []) := by
    rintro ⟨hspace, hnil⟩
    rcases hroom with hlarge | hne
    · rw [List.length_replicate, List.length_nil] at hspace
      omega
    · exact hne hnil
  have hnotFull : ¬ isFull queue = true := by
    simpa [isFull] using hfull
  simp only [sendPacket, frame_zeros, Bool.false_eq_true, if_false, if_neg hnot, if_neg hnotFull]
  simp [zerosBlock]

/-- Three packets fill the queue beyond its mark; when the peer blocks on the first of them,
its block is dropped. -/
theorem blocked_head_lost (n₀ n₁ n₂ : Nat) (h₀ : outBufferSize ≤ n₀)
    (h₁ : n₀ + n₁ + 10 < highWaterMark) (h₂ : highWaterMark ≤ n₁ + n₂) :
    let calls : List Call := [.sendPacket (zeros n₀), .sendPacket (zeros n₁),
      .sendPacket (zeros n₂), .handleOutput .wouldBlock .wouldBlock]
    Admissible (step plainFraming) (fun s c => (s.call plainFraming c).2 ≠ -1) (opened ()) calls ∧
      (run (step plainFraming) (opened ()) calls).sent ++
          (run (step plainFraming) (opened ()) calls).unsent ≠
        (plainFraming.frameAll () (packets calls)).2 := by
  intro calls
  have hheader₀ := serverPktHeader_length (n₀ + 2) 1
  have hheader₁ := serverPktHeader_length (n₁ + 2) 1
  have hsend₀ := sendPacket_zeros [] n₀ (Or.inl h₀) (by decide)
  have hsend₁ := sendPacket_zeros [zerosBlock n₀] n₁ (Or.inr (by simp))
    (by simp only [curBytes, List.map_cons, List.map_nil, List.sum_cons, List.sum_nil, zerosBlock]
        omega)
  have hsend₂ := sendPacket_zeros [zerosBlock n₀, zerosBlock n₁] n₂
    (Or.inr (by simp))
    (by simp only [curBytes, List.map_cons, List.map_nil, List.sum_cons, List.sum_nil, zerosBlock]
        omega)
  have hfull : isFull [zerosBlock n₁, zerosBlock n₂] = true := by
    simp only [isFull, curBytes, List.map_cons, List.map_nil, List.sum_cons, List.sum_nil,
      zerosBlock, ge_iff_le, decide_eq_true_eq]
    omega
  have hblocked : handleOutput
      ⟨(), false, [], [zerosBlock n₀, zerosBlock n₁, zerosBlock n₂], []⟩ .wouldBlock .wouldBlock =
        (⟨(), false, [], [zerosBlock n₁, zerosBlock n₂], []⟩, 0) := by
    simp [handleOutput, handleOutputQueue, hfull]
  simp only [List.nil_append, List.cons_append] at hsend₀ hsend₁ hsend₂
  have hrun : run (step plainFraming) (opened ()) calls =
      ⟨(), false, [], [zerosBlock n₁, zerosBlock n₂], []⟩ := by
    simp [calls, step, call, opened, hsend₀, hsend₁, hsend₂, hblocked]
  have hframed : (plainFraming.frameAll () (packets calls)).2 =
      (zerosBlock n₀).data ++ ((zerosBlock n₁).data ++ (zerosBlock n₂).data) := by
    simp [calls, packets, Framing.frameAll, frame_zeros, zerosBlock]
  constructor
  · simp [calls, Admissible, step, call, opened, hsend₀, hsend₁, hsend₂, hblocked]
  · rw [hrun, hframed]
    intro heq
    have hlength := congrArg List.length heq
    simp only [unsent, List.flatMap_cons, List.flatMap_nil, List.nil_append, List.append_nil,
      List.length_append, zerosBlock] at hlength
    omega

end Loss

/-- Every call succeeds, and yet the packet that was sent first is in no buffer any more. -/
theorem sent_append_unsent_lost :
    let calls : List Call := [.sendPacket (zeros 65536), .sendPacket (zeros 4194304),
      .sendPacket (zeros 4194304), .handleOutput .wouldBlock .wouldBlock]
    Admissible (step plainFraming) (fun s c => (s.call plainFraming c).2 ≠ -1) (opened ()) calls ∧
      (run (step plainFraming) (opened ()) calls).sent ++
          (run (step plainFraming) (opened ()) calls).unsent ≠
        (plainFraming.frameAll () (packets calls)).2 :=
  blocked_head_lost 65536 4194304 4194304 (by decide) (by decide) (by decide)

end OutputSocket

end Cataclysm
