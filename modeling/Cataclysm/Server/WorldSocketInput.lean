import Cataclysm.Lib.BitString

/-!
# Input framing of the world socket

`handle_input_missing_data` receives up to 4096 bytes and distributes them over
the header buffer and the payload buffer, both of which may stay partly filled
until the next call. A completed header is decrypted and checked once; a
completed payload goes to `ProcessIncoming`.

The calls are compared with a machine that takes the stream byte by byte. That
machine does not see how the stream was split, so neither do the calls. It reads
the stream packet by packet, as `parse` says.

## Implementation notes

The state of the cipher and of everything behind `ProcessIncoming` is the type
parameter `σ`, its two operations are the fields of `Peer`. The header buffer is
an `ACE_Message_Block` of six bytes whose read pointer never moves, so its
contents and its length determine it; the same holds for the payload buffer,
which lies over the contents of the packet under construction. The packets
passed to `ProcessIncoming` are recorded in the state.
-/

namespace Cataclysm
open BitString

/-- A packet as `ProcessIncoming` receives it. -/
structure ClientPacket where
  opcode : Nat
  payload : List Byte
  deriving DecidableEq

/-- `AuthCrypt::DecryptRecv` and `ProcessIncoming`, which returns whether it accepts. -/
structure Peer (σ : Type) where
  decryptRecv : σ → List Byte → σ × List Byte
  processIncoming : σ → ClientPacket → σ × Bool

/-- `ClientPktHeader`. -/
structure ClientPktHeader where
  size : Nat
  cmd : Nat
  deriving DecidableEq

namespace ClientPktHeader

/-- `sizeof(ClientPktHeader)`, a packed structure. -/
def length : Nat := 6

/-- The two byte-order conversions: the size is big-endian, the command little-endian. -/
def ofBytes (bytes : List Byte) : ClientPktHeader where
  size := leValue (bytes.take 2).reverse
  cmd := leValue ((bytes.drop 2).take 4)

def toBytes (header : ClientPktHeader) : List Byte :=
  leBytes 2 header.size ++ leBytes 4 header.cmd

def malformed (header : ClientPktHeader) : Prop :=
  header.size < 4 ∨ header.size > 10240 ∨
    (header.cmd > 0xFFFF ∧ header.cmd >>> 16 ≠ 0x4C52)

instance (header : ClientPktHeader) : Decidable header.malformed :=
  inferInstanceAs (Decidable (_ ∨ _ ∨ _))

end ClientPktHeader

/-- An `ACE_Message_Block` that is only filled and reset. -/
structure MessageBlock where
  capacity : Nat
  contents : List Byte

namespace MessageBlock

def space (block : MessageBlock) : Nat := block.capacity - block.contents.length

/-- `copy`, which changes nothing when the bytes do not fit. -/
def copy (block : MessageBlock) (bytes : List Byte) : MessageBlock :=
  if block.space < bytes.length then block
  else { block with contents := block.contents ++ bytes }

end MessageBlock

theorem MessageBlock.copy_le {block : MessageBlock} (h : block.contents.length ≤ block.capacity)
    (bytes : List Byte) : (block.copy bytes).capacity = block.capacity ∧
      (block.copy bytes).contents.length ≤ (block.copy bytes).capacity := by
  rw [copy, space]
  split
  · exact ⟨rfl, h⟩
  · refine ⟨rfl, ?_⟩
    simp only [List.length_append]
    omega

/-- The part of a `WorldSocket` that its input handlers use. -/
structure WorldSocket (σ : Type) where
  peer : σ
  header : List Byte
  recvWPct : Option Nat
  recvPct : MessageBlock
  delivered : List ClientPacket

namespace WorldSocket

variable {σ : Type} (p : Peer σ)

variable {s s' : WorldSocket σ} {message message' : List Byte}

/-- A socket whose connection has just been opened. -/
def opened (peer : σ) : WorldSocket σ := ⟨peer, [], none, ⟨0, []⟩, []⟩

def headerSpace (s : WorldSocket σ) : Nat := ClientPktHeader.length - s.header.length

/-- Why the input handlers give up: -1 with `EINVAL`, or a failed `ACE_ASSERT`. -/
inductive Stop
  | invalid
  | assertion
  deriving DecidableEq

def handleInputHeader (s : WorldSocket σ) : WorldSocket σ × Option Stop :=
  if s.recvWPct ≠ none ∨ s.header.length ≠ ClientPktHeader.length then (s, some .assertion)
  else
    let (peer, bytes) := p.decryptRecv s.peer s.header
    let header := ClientPktHeader.ofBytes bytes
    if header.malformed then ({ s with peer, header := header.toBytes }, some .invalid)
    else
      let header := { header with size := header.size - 4 }
      let s := { s with
        peer
        header := header.toBytes
        recvWPct := some (header.cmd &&& 0xFFFF) }
      if header.size > 0 then ({ s with recvPct := ⟨header.size, []⟩ }, none)
      else if s.recvPct.space = 0 then (s, none)
      else (s, some .assertion)

def handleInputPayload (s : WorldSocket σ) : WorldSocket σ × Option Stop :=
  match s.recvWPct with
  | none => (s, some .assertion)
  | some opcode =>
    if s.recvPct.space ≠ 0 ∨ s.headerSpace ≠ 0 then (s, some .assertion)
    else
      let packet := ⟨opcode, s.recvPct.contents⟩
      let (peer, accepted) := p.processIncoming s.peer packet
      let s := ⟨peer, [], none, ⟨0, []⟩, s.delivered ++ [packet]⟩
      (s, if accepted then none else some .invalid)

/-- How one pass of the loop over the received bytes ends. -/
inductive Pass (σ : Type)
  | again (s : WorldSocket σ) (message : List Byte)
  | wouldBlock (s : WorldSocket σ)
  | stop (s : WorldSocket σ) (why : Stop)

/-- How many of the received bytes fit into a buffer, `to_header` and `to_data`. -/
def toCopy (length space : Nat) : Nat := if length > space then space else length

theorem toCopy_eq (length space : Nat) : toCopy length space = min length space := by
  rw [toCopy]
  split <;> omega

/-- The end of a pass: the payload is complete. -/
def finishPass (s : WorldSocket σ) (message : List Byte) : Pass σ :=
  match s.handleInputPayload p with
  | (s, some why) => .stop s why
  | (s, none) => .again s message

/-- The second half of a pass: the header is complete. -/
def payloadPass (s : WorldSocket σ) (message : List Byte) : Pass σ :=
  if s.recvWPct = none then .stop s .invalid
  else if s.recvPct.space > 0 then
    let toData := toCopy message.length s.recvPct.space
    let s := { s with recvPct := s.recvPct.copy (message.take toData) }
    let message := message.drop toData
    if s.recvPct.space > 0 then
      if message.length = 0 then .wouldBlock s else .stop s .assertion
    else finishPass p s message
  else finishPass p s message

/-- One pass of the loop. -/
def inputPass (s : WorldSocket σ) (message : List Byte) : Pass σ :=
  if s.headerSpace > 0 then
    let toHeader := toCopy message.length s.headerSpace
    let s := { s with header := s.header ++ message.take toHeader }
    let message := message.drop toHeader
    if s.headerSpace > 0 then
      if message.length = 0 then .wouldBlock s else .stop s .assertion
    else
      match s.handleInputHeader p with
      | (s, some why) => .stop s why
      | (s, none) => payloadPass p s message
  else payloadPass p s message

theorem handleInputPayload_header (h : s.handleInputPayload p = (s', none)) : s'.header = [] := by
  rw [handleInputPayload] at h
  split at h
  · cases h
  · split at h
    · cases h
    · obtain ⟨rfl, -⟩ := Prod.mk.inj h
      rfl

theorem finishPass_again (h : finishPass p s message = .again s' message') :
    s'.header = [] ∧ message' = message := by
  rw [finishPass] at h
  split at h
  · cases h
  · rename_i hpayload
    cases h
    exact ⟨handleInputPayload_header p hpayload, rfl⟩

theorem payloadPass_again (h : payloadPass p s message = .again s' message') :
    s'.header = [] ∧ message'.length ≤ message.length := by
  rw [payloadPass] at h
  split at h
  · cases h
  · split at h
    · simp only at h
      split at h
      · split at h <;> cases h
      · obtain ⟨hheader, rfl⟩ := finishPass_again p h
        exact ⟨hheader, by simp⟩
    · obtain ⟨hheader, rfl⟩ := finishPass_again p h
      exact ⟨hheader, le_rfl⟩

/-- A pass that goes on has emptied the header buffer, and has taken a byte if it filled it. -/
theorem inputPass_again (hne : message ≠ []) (h : inputPass p s message = .again s' message') :
    s'.header = [] ∧ message'.length ≤ message.length ∧
      (s.headerSpace > 0 → message'.length < message.length) := by
  have hpos : 0 < message.length := List.length_pos_iff.mpr hne
  rw [inputPass] at h
  split at h
  · simp only at h
    split at h
    · split at h <;> cases h
    · split at h
      · cases h
      · obtain ⟨hheader, hle⟩ := payloadPass_again p h
        rw [List.length_drop] at hle
        rw [toCopy_eq] at hle
        exact ⟨hheader, by omega, by omega⟩
  · rename_i hspace
    obtain ⟨hheader, hle⟩ := payloadPass_again p h
    exact ⟨hheader, hle, fun hpos => absurd hpos hspace⟩

/-- How a call of `handle_input_missing_data` ends. -/
inductive InputResult
  | drained
  | wouldBlock
  | stopped (why : Stop)
  deriving DecidableEq

/-- The loop over the received bytes. -/
def inputLoop (s : WorldSocket σ) (message : List Byte) : WorldSocket σ × InputResult :=
  if _hne : message = [] then (s, .drained)
  else
    match _hpass : inputPass p s message with
    | .again s' message' => inputLoop s' message'
    | .wouldBlock s' => (s', .wouldBlock)
    | .stop s' why => (s', .stopped why)
termination_by 2 * message.length + (if s.headerSpace > 0 then 0 else 1)
decreasing_by
  obtain ⟨hheader, hle, hlt⟩ := inputPass_again p _hne _hpass
  have hspace : s'.headerSpace > 0 := by simp [headerSpace, hheader, ClientPktHeader.length]
  rw [if_pos hspace]
  split
  · rename_i hs
    have := hlt hs
    omega
  · omega

/-- `handle_input_missing_data` on the bytes that one `recv` returned. -/
def handleInputMissingData (s : WorldSocket σ) (received : List Byte) :
    WorldSocket σ × InputResult :=
  inputLoop p s received

end WorldSocket

/-- A socket and, once its handlers gave up, the reason. -/
structure Connection (σ : Type) where
  socket : WorldSocket σ
  closed : Option WorldSocket.Stop

namespace Connection
open WorldSocket

variable {σ : Type} (p : Peer σ)

variable {s : WorldSocket σ}

/-- Calls of `handle_input_missing_data` go on until one gives up. -/
def receive (c : Connection σ) (received : List Byte) : Connection σ :=
  match c.closed with
  | some _ => c
  | none =>
    match c.socket.handleInputMissingData p received with
    | (s, .stopped why) => ⟨s, some why⟩
    | (s, .drained) | (s, .wouldBlock) => ⟨s, none⟩

def completePayload (s : WorldSocket σ) : Connection σ :=
  if s.recvPct.space > 0 then ⟨s, none⟩
  else
    let r := s.handleInputPayload p
    ⟨r.1, r.2⟩

def completeHeader (s : WorldSocket σ) : Connection σ :=
  if s.headerSpace > 0 then ⟨s, none⟩
  else
    match s.handleInputHeader p with
    | (s, some why) => ⟨s, some why⟩
    | (s, none) => completePayload p s

/-- The machine that takes the stream byte by byte. -/
def feed (c : Connection σ) (x : Byte) : Connection σ :=
  match c.closed with
  | some _ => c
  | none =>
    if c.socket.headerSpace > 0 then
      completeHeader p { c.socket with header := c.socket.header ++ [x] }
    else
      completePayload p { c.socket with recvPct := c.socket.recvPct.copy [x] }

/-- A socket between packets or within a header. -/
structure AwaitsHeader (s : WorldSocket σ) : Prop where
  header_lt : s.header.length < ClientPktHeader.length
  recvWPct_eq : s.recvWPct = none
  recvPct_eq : s.recvPct = ⟨0, []⟩

/-- A socket with a checked header and a packet under construction. -/
structure HasHeader (s : WorldSocket σ) : Prop where
  header_eq : s.header.length = ClientPktHeader.length
  recvWPct_ne : s.recvWPct ≠ none
  contents_le : s.recvPct.contents.length ≤ s.recvPct.capacity

theorem awaitsHeader_opened (peer : σ) : AwaitsHeader (WorldSocket.opened peer) :=
  ⟨Nat.zero_lt_succ 5, rfl, rfl⟩

theorem headerSpace_pos (h : s.header.length < ClientPktHeader.length) : s.headerSpace > 0 :=
  Nat.sub_pos_of_lt h

theorem headerSpace_zero (h : s.header.length = ClientPktHeader.length) : ¬ s.headerSpace > 0 := by
  simp [headerSpace, h]

theorem copy_of_fits {block : MessageBlock} {bytes : List Byte}
    (h : block.contents.length + bytes.length ≤ block.capacity) :
    block.copy bytes = { block with contents := block.contents ++ bytes } := by
  rw [MessageBlock.copy, if_neg]
  rw [MessageBlock.space]
  omega

theorem foldl_feed_closed (s : WorldSocket σ) (why : Stop) (xs : List Byte) :
    xs.foldl (feed p) ⟨s, some why⟩ = ⟨s, some why⟩ := by
  induction xs with
  | nil => rfl
  | cons x xs ih => exact ih

/-- Bytes up to the end of the header collect in the header buffer. -/
theorem foldl_feed_header (s : WorldSocket σ) (xs : List Byte)
    (h : s.header.length + xs.length ≤ ClientPktHeader.length) :
    xs.foldl (feed p) (completeHeader p s) =
      completeHeader p { s with header := s.header ++ xs } := by
  induction xs generalizing s with
  | nil => simp
  | cons x xs ih =>
    rw [List.length_cons] at h
    have hspace := headerSpace_pos (s := s) (by omega)
    have hopen : completeHeader p s = ⟨s, none⟩ := by rw [completeHeader, if_pos hspace]
    have hfeed : feed p ⟨s, none⟩ x =
        completeHeader p { s with header := s.header ++ [x] } := by
      simp only [feed, if_pos hspace]
    rw [List.foldl_cons, hopen, hfeed, ih]
    · simp
    · simp only [List.length_append, List.length_singleton]
      omega

/-- Bytes up to the end of the payload collect in the payload buffer. -/
theorem foldl_feed_payload (s : WorldSocket σ) (hs : s.header.length = ClientPktHeader.length)
    (xs : List Byte) (h : s.recvPct.contents.length + xs.length ≤ s.recvPct.capacity) :
    xs.foldl (feed p) (completePayload p s) =
      completePayload p { s with recvPct := s.recvPct.copy xs } := by
  induction xs generalizing s with
  | nil => simp [MessageBlock.copy]
  | cons x xs ih =>
    rw [List.length_cons] at h
    have hspace : s.recvPct.space > 0 := by
      rw [MessageBlock.space]
      omega
    have hopen : completePayload p s = ⟨s, none⟩ := by rw [completePayload, if_pos hspace]
    have hfeed : feed p ⟨s, none⟩ x =
        completePayload p { s with recvPct := s.recvPct.copy [x] } := by
      simp only [feed, if_neg (headerSpace_zero hs)]
    have hcopy : s.recvPct.copy [x] =
        { s.recvPct with contents := s.recvPct.contents ++ [x] } := by
      apply copy_of_fits
      simp only [List.length_singleton]
      omega
    have hfits : (s.recvPct.copy [x]).contents.length + xs.length ≤
        (s.recvPct.copy [x]).capacity := by
      rw [hcopy]
      simp only [List.length_append, List.length_singleton]
      omega
    have hfitsAll : s.recvPct.contents.length + (x :: xs).length ≤ s.recvPct.capacity := by
      rw [List.length_cons]
      omega
    have hcopies : (s.recvPct.copy [x]).copy xs = s.recvPct.copy (x :: xs) := by
      rw [copy_of_fits hfits, hcopy, copy_of_fits hfitsAll]
      simp
    rw [List.foldl_cons, hopen, hfeed, ih { s with recvPct := s.recvPct.copy [x] } hs hfits, hcopies]

/-- An accepted header leaves a packet under construction. -/
theorem handleInputHeader_ok {s' : WorldSocket σ} (hpct : s.recvPct = ⟨0, []⟩)
    (h : s.handleInputHeader p = (s', none)) : HasHeader s' := by
  rw [handleInputHeader] at h
  split at h
  · cases h
  · simp only at h
    split at h
    · cases h
    · split at h
      · obtain ⟨rfl, -⟩ := Prod.mk.inj h
        exact ⟨by simp [ClientPktHeader.toBytes, ClientPktHeader.length], by simp, by simp⟩
      · split at h
        · obtain ⟨rfl, -⟩ := Prod.mk.inj h
          exact ⟨by simp [ClientPktHeader.toBytes, ClientPktHeader.length], by simp,
            by simp [hpct]⟩
        · cases h

/-- A processed payload leaves a socket between packets. -/
theorem handleInputPayload_ok {s' : WorldSocket σ} (h : s.handleInputPayload p = (s', none)) :
    AwaitsHeader s' := by
  rw [handleInputPayload] at h
  split at h
  · cases h
  · split at h
    · cases h
    · obtain ⟨rfl, -⟩ := Prod.mk.inj h
      exact ⟨Nat.zero_lt_succ 5, rfl, rfl⟩

theorem inputLoop_eq (s : WorldSocket σ) {message : List Byte} (h : message ≠ []) :
    inputLoop p s message =
      match inputPass p s message with
      | .again s' message' => inputLoop p s' message'
      | .wouldBlock s' => (s', .wouldBlock)
      | .stop s' why => (s', .stopped why) := by
  rw [inputLoop, dif_neg h]
  split <;> rename_i hpass <;> rw [hpass]

/-- The connection after the loop has taken its bytes. -/
def afterLoop (s : WorldSocket σ) (message : List Byte) : Connection σ :=
  receive p ⟨s, none⟩ message

/-- The connection after a pass and the passes behind it. -/
def resume : Pass σ → Connection σ
  | .again s message => afterLoop p s message
  | .wouldBlock s => ⟨s, none⟩
  | .stop s why => ⟨s, some why⟩

theorem afterLoop_nil (s : WorldSocket σ) : afterLoop p s [] = ⟨s, none⟩ := by
  simp [afterLoop, receive, handleInputMissingData, inputLoop]

theorem afterLoop_eq_resume (s : WorldSocket σ) {message : List Byte} (h : message ≠ []) :
    afterLoop p s message = resume p (inputPass p s message) := by
  simp only [afterLoop, receive, handleInputMissingData, inputLoop_eq p s h]
  cases inputPass p s message <;> rfl

section Loop

variable {s : WorldSocket σ} {message : List Byte} {n : Nat}

/-- The induction hypothesis of the loop: shorter messages are taken byte by byte. -/
def TakesBelow (n : Nat) : Prop :=
  ∀ (s : WorldSocket σ) (message : List Byte), message.length < n → AwaitsHeader s →
    afterLoop p s message = message.foldl (feed p) ⟨s, none⟩

theorem resume_finishPass (ih : TakesBelow p n) (hlt : message.length < n)
    (hspace : ¬ s.recvPct.space > 0) :
    resume p (finishPass p s message) = message.foldl (feed p) (completePayload p s) := by
  rw [finishPass, completePayload, if_neg hspace]
  rcases hpayload : s.handleInputPayload p with ⟨s', _ | why⟩
  · exact ih s' message hlt (handleInputPayload_ok p hpayload)
  · exact (foldl_feed_closed p s' why message).symm

/-- The second half of a pass takes the bytes of the payload. -/
theorem resume_payloadPass (ih : TakesBelow p n) (hs : HasHeader s)
    (hlt : message.length < n ∨ (s.recvPct.space > 0 ∧ message ≠ [] ∧ message.length ≤ n)) :
    resume p (payloadPass p s message) = message.foldl (feed p) (completePayload p s) := by
  rw [payloadPass, if_neg hs.recvWPct_ne]
  by_cases hspace : s.recvPct.space > 0
  · rw [if_pos hspace]
    simp only
    have hspace' : s.recvPct.space = s.recvPct.capacity - s.recvPct.contents.length := rfl
    set k := toCopy message.length s.recvPct.space with hk
    rw [toCopy_eq] at hk
    have htake : (message.take k).length = k := List.length_take_of_le (by omega)
    have hfits : s.recvPct.contents.length + (message.take k).length ≤ s.recvPct.capacity := by
      omega
    have hfold := foldl_feed_payload p s hs.header_eq (message.take k) hfits
    have hsplit : message.foldl (feed p) (completePayload p s) =
        (message.drop k).foldl (feed p)
          (completePayload p { s with recvPct := s.recvPct.copy (message.take k) }) := by
      rw [← hfold, ← List.foldl_append, List.take_append_drop]
    rw [hsplit]
    have hdrop : (message.drop k).length = message.length - k := List.length_drop
    by_cases hmore : (s.recvPct.copy (message.take k)).space > 0
    · have hshort := hmore
      rw [copy_of_fits hfits] at hshort
      simp only [MessageBlock.space, List.length_append, htake] at hshort
      have hnil : message.drop k = [] := List.drop_eq_nil_of_le (by omega)
      rw [if_pos hmore, hnil, if_pos List.length_nil, List.foldl_nil, completePayload,
        if_pos hmore]
      rfl
    · rw [if_neg hmore]
      apply resume_finishPass p ih _ hmore
      rw [hdrop]
      rcases hlt with hlt | ⟨-, hne, hle⟩
      · omega
      · have hpos := List.length_pos_iff.mpr hne
        omega
  · rw [if_neg hspace]
    apply resume_finishPass p ih _ hspace
    rcases hlt with hlt | ⟨hpos, -⟩
    · exact hlt
    · exact absurd hpos hspace

/-- A pass on a socket that awaits a header takes the bytes of the header first. -/
theorem resume_inputPass (ih : TakesBelow p n) (hs : AwaitsHeader s) (hne : message ≠ [])
    (hle : message.length ≤ n) :
    resume p (inputPass p s message) = message.foldl (feed p) ⟨s, none⟩ := by
  have hspace := headerSpace_pos hs.header_lt
  have hspace' : s.headerSpace = ClientPktHeader.length - s.header.length := rfl
  have hpos := List.length_pos_iff.mpr hne
  rw [inputPass, if_pos hspace]
  simp only
  set k := toCopy message.length s.headerSpace with hk
  rw [toCopy_eq] at hk
  have htake : (message.take k).length = k := List.length_take_of_le (by omega)
  have hfold := foldl_feed_header p s (message.take k) (by omega)
  have hopen : completeHeader p s = ⟨s, none⟩ := by rw [completeHeader, if_pos hspace]
  have hsplit : message.foldl (feed p) ⟨s, none⟩ = (message.drop k).foldl (feed p)
      (completeHeader p { s with header := s.header ++ message.take k }) := by
    rw [← hfold, ← List.foldl_append, List.take_append_drop, hopen]
  rw [hsplit]
  have hdrop : (message.drop k).length = message.length - k := List.length_drop
  by_cases hmore : ({ s with header := s.header ++ message.take k } : WorldSocket σ).headerSpace > 0
  · have hnil : message.drop k = [] := by
      simp only [headerSpace, List.length_append, htake] at hmore
      exact List.drop_eq_nil_of_le (by omega)
    rw [if_pos hmore, hnil, if_pos List.length_nil, List.foldl_nil, completeHeader, if_pos hmore]
    rfl
  · rw [if_neg hmore, completeHeader, if_neg hmore]
    rcases hheader : handleInputHeader p { s with header := s.header ++ message.take k }
      with ⟨s', _ | why⟩
    · have hs' : HasHeader s' := handleInputHeader_ok p (by exact hs.recvPct_eq) hheader
      exact resume_payloadPass p ih hs' (Or.inl (by omega))
    · exact (foldl_feed_closed p s' why _).symm

end Loop

variable {c : Connection σ}

theorem takesBelow (n : Nat) : TakesBelow p n := by
  induction n with
  | zero => exact fun s message hlt => absurd hlt (Nat.not_lt_zero _)
  | succ n ih =>
    intro s message hlt hs
    rcases eq_or_ne message [] with rfl | hne
    · exact afterLoop_nil p s
    · rw [afterLoop_eq_resume p s hne]
      exact resume_inputPass p ih hs hne (Nat.le_of_lt_succ hlt)

/-- The states between two calls. -/
def Ready (s : WorldSocket σ) : Prop :=
  AwaitsHeader s ∨ (HasHeader s ∧ s.recvPct.space > 0)

/-- Within a packet or between packets, a call takes its bytes one by one. -/
theorem afterLoop_eq_feed (hs : Ready s) (message : List Byte) :
    afterLoop p s message = message.foldl (feed p) ⟨s, none⟩ := by
  rcases hs with hs | ⟨hs, hspace⟩
  · exact takesBelow p (message.length + 1) s message (Nat.lt_succ_self _) hs
  · rcases eq_or_ne message [] with rfl | hne
    · exact afterLoop_nil p s
    · have hopen : completePayload p s = ⟨s, none⟩ := by rw [completePayload, if_pos hspace]
      rw [afterLoop_eq_resume p s hne, inputPass, if_neg (headerSpace_zero hs.header_eq), ← hopen]
      exact resume_payloadPass p (takesBelow p message.length) hs
        (Or.inr ⟨hspace, hne, le_rfl⟩)

/-- An open connection is ready for the next call, and no assertion has failed. -/
structure Sound (c : Connection σ) : Prop where
  ready : c.closed = none → Ready c.socket
  no_assertion : c.closed ≠ some .assertion

theorem sound_completePayload (hs : HasHeader s) : Sound (completePayload p s) := by
  rw [completePayload]
  by_cases hspace : s.recvPct.space > 0
  · rw [if_pos hspace]
    exact ⟨fun _ => Or.inr ⟨hs, hspace⟩, by simp⟩
  · rw [if_neg hspace]
    constructor
    · intro hclosed
      exact Or.inl (handleInputPayload_ok p (Prod.ext rfl hclosed))
    · obtain ⟨opcode, hopcode⟩ := Option.ne_none_iff_exists'.mp hs.recvWPct_ne
      have hzero : ¬ (s.recvPct.space ≠ 0 ∨ s.headerSpace ≠ 0) := by
        simp [headerSpace, hs.header_eq, Nat.eq_zero_of_not_pos hspace]
      simp only [handleInputPayload, hopcode, if_neg hzero]
      split <;> simp

theorem sound_completeHeader (hheader : s.header.length ≤ ClientPktHeader.length)
    (hwpct : s.recvWPct = none) (hpct : s.recvPct = ⟨0, []⟩) : Sound (completeHeader p s) := by
  rw [completeHeader]
  by_cases hspace : s.headerSpace > 0
  · rw [if_pos hspace]
    have hlt : s.header.length < ClientPktHeader.length := Nat.lt_of_sub_pos hspace
    exact ⟨fun _ => Or.inl ⟨hlt, hwpct, hpct⟩, by simp⟩
  · rw [if_neg hspace]
    have hfull : s.header.length = ClientPktHeader.length := by
      simp only [headerSpace] at hspace
      omega
    rcases hresult : s.handleInputHeader p with ⟨s', _ | why⟩
    · exact sound_completePayload p (handleInputHeader_ok p hpct hresult)
    · refine ⟨by simp, ?_⟩
      rintro ⟨⟩
      have hguard : ¬ (s.recvWPct ≠ none ∨ s.header.length ≠ ClientPktHeader.length) := by
        simp [hwpct, hfull]
      have hspace' : s.recvPct.space = 0 := by simp [hpct, MessageBlock.space]
      simp only [handleInputHeader, if_neg hguard, if_pos hspace'] at hresult
      split at hresult
      · cases hresult
      · split at hresult <;> cases hresult

theorem Sound.feed (h : Sound c) (x : Byte) : Sound (feed p c x) := by
  rcases hclosed : c.closed with _ | why
  · rw [Connection.feed, hclosed]
    simp only
    rcases h.ready hclosed with hs | ⟨hs, hspace⟩
    · rw [if_pos (headerSpace_pos hs.header_lt)]
      apply sound_completeHeader
      · have hlt := hs.header_lt
        simp only [List.length_append, List.length_singleton]
        omega
      · exact hs.recvWPct_eq
      · exact hs.recvPct_eq
    · rw [if_neg (headerSpace_zero hs.header_eq)]
      have hfits : c.socket.recvPct.contents.length + [x].length ≤ c.socket.recvPct.capacity := by
        simp only [MessageBlock.space, List.length_singleton] at hspace ⊢
        omega
      apply sound_completePayload
      refine ⟨hs.header_eq, hs.recvWPct_ne, ?_⟩
      rw [copy_of_fits hfits]
      simpa using hfits
  · have hsame : Connection.feed p c x = c := by rw [Connection.feed, hclosed]
    rw [hsame]
    exact h

theorem Sound.foldl_feed (h : Sound c) (xs : List Byte) :
    Sound (xs.foldl (Connection.feed p) c) := by
  induction xs generalizing c with
  | nil => exact h
  | cons x xs ih => exact ih (h.feed p x)

/-- A call does what the byte machine does on the bytes it received. -/
theorem receive_eq_feed (h : Sound c) (received : List Byte) :
    receive p c received = received.foldl (feed p) c := by
  obtain ⟨s, _ | why⟩ := c
  · exact afterLoop_eq_feed p (h.ready rfl) received
  · exact (foldl_feed_closed p s why received).symm

/-- A sequence of calls does what the byte machine does on the stream. -/
theorem foldl_receive_eq_feed (h : Sound c) (chunks : List (List Byte)) :
    chunks.foldl (receive p) c = chunks.flatten.foldl (feed p) c := by
  induction chunks generalizing c with
  | nil => rfl
  | cons received chunks ih =>
    rw [List.foldl_cons, receive_eq_feed p h, ih (h.foldl_feed p received), List.flatten_cons,
      List.foldl_append]

/-- The connection of a socket that was just opened. -/
def start (peer : σ) : Connection σ := ⟨opened peer, none⟩

theorem sound_start (peer : σ) : Sound (start peer) :=
  ⟨fun _ => Or.inl (awaitsHeader_opened peer), by simp [start]⟩

/-! ### The packets of a stream -/

/-- What a stream says, packet by packet. Of a header or a payload that is not complete, all bytes
are kept; a malformed header and a packet that is not accepted end the input. -/
def parse (peer : σ) (delivered : List ClientPacket) (stream : List Byte) : Connection σ :=
  if stream.length < ClientPktHeader.length then
    ⟨⟨peer, stream, none, ⟨0, []⟩, delivered⟩, none⟩
  else
    let decrypted := p.decryptRecv peer (stream.take ClientPktHeader.length)
    let header := ClientPktHeader.ofBytes decrypted.2
    let size := header.size - 4
    let opcode := header.cmd &&& 0xFFFF
    let rest := stream.drop ClientPktHeader.length
    if header.malformed then
      ⟨⟨decrypted.1, header.toBytes, none, ⟨0, []⟩, delivered⟩, some .invalid⟩
    else if rest.length < size then
      ⟨⟨decrypted.1, ClientPktHeader.toBytes ⟨size, header.cmd⟩, some opcode, ⟨size, rest⟩,
        delivered⟩, none⟩
    else
      let packet : ClientPacket := ⟨opcode, rest.take size⟩
      let processed := p.processIncoming decrypted.1 packet
      if processed.2 then parse processed.1 (delivered ++ [packet]) (rest.drop size)
      else ⟨⟨processed.1, [], none, ⟨0, []⟩, delivered ++ [packet]⟩, some .invalid⟩
termination_by stream.length
decreasing_by
  rw [List.length_drop, List.length_drop]
  simp only [ClientPktHeader.length] at *
  omega

theorem length_toBytes (header : ClientPktHeader) :
    header.toBytes.length = ClientPktHeader.length := by
  simp [ClientPktHeader.toBytes, ClientPktHeader.length]

/-- A header that is completed is rejected or makes room for the payload behind it. -/
theorem completeHeader_of_full (peer : σ) {bytes : List Byte}
    (hfull : bytes.length = ClientPktHeader.length) (delivered : List ClientPacket)
    {header : ClientPktHeader}
    (hheader : ClientPktHeader.ofBytes (p.decryptRecv peer bytes).2 = header) :
    completeHeader p ⟨peer, bytes, none, ⟨0, []⟩, delivered⟩ =
      if header.malformed then
        ⟨⟨(p.decryptRecv peer bytes).1, header.toBytes, none, ⟨0, []⟩, delivered⟩, some .invalid⟩
      else completePayload p ⟨(p.decryptRecv peer bytes).1,
        ClientPktHeader.toBytes ⟨header.size - 4, header.cmd⟩, some (header.cmd &&& 0xFFFF),
        ⟨header.size - 4, []⟩, delivered⟩ := by
  rw [completeHeader, if_neg (headerSpace_zero hfull), handleInputHeader, if_neg (by simp [hfull])]
  simp only [hheader]
  by_cases hmalformed : header.malformed
  · rw [if_pos hmalformed, if_pos hmalformed]
  · rw [if_neg hmalformed, if_neg hmalformed]
    by_cases hempty : header.size - 4 > 0
    · rw [if_pos hempty]
    · rw [if_neg hempty, Nat.eq_zero_of_not_pos hempty]
      rfl

/-- The first bytes of a stream are those of a header. -/
theorem foldl_feed_take_header (peer : σ) (delivered : List ClientPacket) (stream : List Byte) :
    stream.foldl (feed p) ⟨⟨peer, [], none, ⟨0, []⟩, delivered⟩, none⟩ =
      (stream.drop ClientPktHeader.length).foldl (feed p) (completeHeader p
        ⟨peer, stream.take ClientPktHeader.length, none, ⟨0, []⟩, delivered⟩) := by
  have hopen : completeHeader p ⟨peer, [], none, ⟨0, []⟩, delivered⟩ =
      ⟨⟨peer, [], none, ⟨0, []⟩, delivered⟩, none⟩ := if_pos (Nat.zero_lt_succ 5)
  have hcollect := foldl_feed_header p ⟨peer, [], none, ⟨0, []⟩, delivered⟩
    (stream.take ClientPktHeader.length) ((Nat.zero_add _).trans_le (List.length_take_le _ _))
  rw [hopen] at hcollect
  conv_lhs => rw [← List.take_append_drop ClientPktHeader.length stream]
  rw [List.foldl_append, hcollect]
  rfl

/-- The first bytes behind a header are those of the payload. -/
theorem foldl_feed_take_payload (peer : σ) {header : List Byte}
    (hfull : header.length = ClientPktHeader.length) (opcode size : Nat)
    (delivered : List ClientPacket) (rest : List Byte) :
    rest.foldl (feed p) (completePayload p
        ⟨peer, header, some opcode, ⟨size, []⟩, delivered⟩) =
      (rest.drop size).foldl (feed p) (completePayload p
        ⟨peer, header, some opcode, ⟨size, rest.take size⟩, delivered⟩) := by
  have hfits : (0 : Nat) + (rest.take size).length ≤ size :=
    (Nat.zero_add _).trans_le (List.length_take_le _ _)
  have hcopy : (⟨size, []⟩ : MessageBlock).copy (rest.take size) = ⟨size, rest.take size⟩ :=
    copy_of_fits hfits
  have hfill := foldl_feed_payload p ⟨peer, header, some opcode, ⟨size, []⟩, delivered⟩ hfull
    (rest.take size) hfits
  rw [hcopy] at hfill
  conv_lhs => rw [← List.take_append_drop size rest]
  rw [List.foldl_append, hfill]

/-- A payload that is completed is processed. -/
theorem completePayload_of_full (peer : σ) {header : List Byte}
    (hfull : header.length = ClientPktHeader.length) (opcode : Nat) {size : Nat}
    {payload : List Byte} (hsize : payload.length = size) (delivered : List ClientPacket) :
    completePayload p ⟨peer, header, some opcode, ⟨size, payload⟩, delivered⟩ =
      ⟨⟨(p.processIncoming peer ⟨opcode, payload⟩).1, [], none, ⟨0, []⟩,
          delivered ++ [⟨opcode, payload⟩]⟩,
        if (p.processIncoming peer ⟨opcode, payload⟩).2 then none else some .invalid⟩ := by
  simp [completePayload, handleInputPayload, MessageBlock.space, headerSpace, hfull, hsize]

/-- Between two packets the byte machine reads the stream packet by packet. -/
theorem foldl_feed_eq_parse (peer : σ) (delivered : List ClientPacket) (stream : List Byte) :
    stream.foldl (feed p) ⟨⟨peer, [], none, ⟨0, []⟩, delivered⟩, none⟩ =
      parse p peer delivered stream := by
  have hheader : ∀ stream : List Byte, ¬ stream.length < ClientPktHeader.length →
      (stream.take ClientPktHeader.length).length = ClientPktHeader.length :=
    fun stream hlong => List.length_take_of_le (not_lt.mp hlong)
  fun_induction parse p peer delivered stream with
  | case1 peer delivered stream hshort =>
    rw [foldl_feed_take_header, List.take_of_length_le (Nat.le_of_lt hshort),
      List.drop_eq_nil_of_le (Nat.le_of_lt hshort), List.foldl_nil, completeHeader, if_pos]
    exact headerSpace_pos hshort
  | case2 peer delivered stream hlong decrypted header hmalformed =>
    rw [foldl_feed_take_header,
      completeHeader_of_full p peer (hheader stream hlong) delivered rfl, if_pos hmalformed,
      foldl_feed_closed]
  | case3 peer delivered stream hlong decrypted header size opcode rest hformed hshort =>
    rw [foldl_feed_take_header,
      completeHeader_of_full p peer (hheader stream hlong) delivered rfl, if_neg hformed,
      foldl_feed_take_payload p _ (length_toBytes _), List.take_of_length_le hshort.le,
      List.drop_eq_nil_of_le hshort.le, List.foldl_nil, completePayload, if_pos]
    exact Nat.sub_pos_of_lt hshort
  | case4 peer delivered stream hlong decrypted header size opcode rest hformed hfull packet
      processed haccepted ih =>
    rw [foldl_feed_take_header,
      completeHeader_of_full p peer (hheader stream hlong) delivered rfl, if_neg hformed,
      foldl_feed_take_payload p _ (length_toBytes _), completePayload_of_full p _
        (length_toBytes _) _ (List.length_take_of_le (not_lt.mp hfull)), if_pos haccepted]
    exact ih
  | case5 peer delivered stream hlong decrypted header size opcode rest hformed hfull packet
      processed hrejected =>
    rw [foldl_feed_take_header,
      completeHeader_of_full p peer (hheader stream hlong) delivered rfl, if_neg hformed,
      foldl_feed_take_payload p _ (length_toBytes _), completePayload_of_full p _
        (length_toBytes _) _ (List.length_take_of_le (not_lt.mp hfull)), if_neg hrejected,
      foldl_feed_closed]

/-- However the stream is split, the packets that it says reach `ProcessIncoming`, the input is
rejected where it says so or not at all, and the socket ends in the same state; no assertion of
the handlers fails. -/
theorem receive_chunking_irrelevant (peer : σ) (chunks chunks' : List (List Byte))
    (h : chunks.flatten = chunks'.flatten) :
    chunks.foldl (receive p) (start peer) = parse p peer [] chunks.flatten ∧
      chunks.foldl (receive p) (start peer) = chunks'.foldl (receive p) (start peer) ∧
      (chunks.foldl (receive p) (start peer)).closed ≠ some .assertion := by
  have hsound := sound_start peer
  have hparse : ∀ chunks : List (List Byte),
      chunks.foldl (receive p) (start peer) = parse p peer [] chunks.flatten := fun chunks =>
    (foldl_receive_eq_feed p hsound chunks).trans (foldl_feed_eq_parse p peer [] chunks.flatten)
  refine ⟨hparse chunks, ?_, ?_⟩
  · rw [hparse chunks, h, hparse chunks']
  · rw [foldl_receive_eq_feed p hsound chunks]
    exact (hsound.foldl_feed p chunks.flatten).no_assertion

/-- Before authentication the cipher is idle. -/
def idle : Peer Unit := ⟨fun s bytes => (s, bytes), fun s _ => (s, true)⟩

/-- Two packets with payload, split within the first header, the first payload and the second
header. -/
def twoPackets : List (List Byte) :=
  [[0x00#8, 0x06#8, 0x15#8], [0x00#8, 0x00#8, 0x00#8, 0xAA#8], [0xBB#8, 0x00#8, 0x05#8],
    [0x16#8, 0x00#8, 0x00#8, 0x00#8, 0xCC#8]]

/-- The four chunks give what the whole stream gives. -/
theorem receive_twoPackets :
    twoPackets.foldl (receive idle) (start ()) = parse idle () [] twoPackets.flatten ∧
      twoPackets.foldl (receive idle) (start ()) =
        [twoPackets.flatten].foldl (receive idle) (start ()) ∧
      (twoPackets.foldl (receive idle) (start ())).closed ≠ some .assertion :=
  receive_chunking_irrelevant idle () twoPackets [twoPackets.flatten] rfl

/-! ### The size of the buffers -/

section

variable {c : Connection σ}

/-- What the handlers and the copies into the buffers keep, the byte machine keeps. -/
theorem foldl_feed_keeps {Q : WorldSocket σ → Prop}
    (hfill : ∀ s x, s.headerSpace > 0 → Q s → Q { s with header := s.header ++ [x] })
    (hcopy : ∀ s x, Q s → Q { s with recvPct := s.recvPct.copy [x] })
    (hheader : ∀ s, Q s → Q (s.handleInputHeader p).1)
    (hpayload : ∀ s, Q s → Q (s.handleInputPayload p).1)
    (h : Q c.socket) (xs : List Byte) : Q (xs.foldl (feed p) c).socket := by
  have hcomplete : ∀ s, Q s → Q (completePayload p s).socket := by
    intro s h
    rw [completePayload]
    split
    · exact h
    · exact hpayload s h
  have hfeed (c : Connection σ) (x : Byte) (h : Q c.socket) : Q (feed p c x).socket := by
    unfold feed
    split
    · exact h
    · split
      case isTrue hspace =>
        have hfilled := hfill c.socket x hspace h
        unfold completeHeader
        split
        · exact hfilled
        · have hhandled := hheader _ hfilled
          split
          case h_1 heq =>
            rw [heq] at hhandled
            exact hhandled
          case h_2 heq =>
            rw [heq] at hhandled
            exact hcomplete _ hhandled
      case isFalse => exact hcomplete _ (hcopy c.socket x h)
  induction xs generalizing c with
  | nil => exact h
  | cons x xs ih => exact ih (hfeed c x h)

/-- The buffers of a socket and the packets it delivered have bounded sizes. -/
structure Bounded (s : WorldSocket σ) : Prop where
  header_le : s.header.length ≤ ClientPktHeader.length
  capacity_le : s.recvPct.capacity ≤ 10236
  contents_le : s.recvPct.contents.length ≤ s.recvPct.capacity
  delivered_le : ∀ packet ∈ s.delivered, packet.payload.length ≤ 10236

theorem Bounded.handleInputPayload (h : Bounded s) : Bounded (s.handleInputPayload p).1 := by
  unfold WorldSocket.handleInputPayload
  split
  · exact h
  · split
    · exact h
    · refine ⟨Nat.zero_le _, Nat.zero_le _, le_refl _, ?_⟩
      intro packet hpacket
      obtain hold | hnew := List.mem_append.mp hpacket
      · exact h.delivered_le packet hold
      · obtain rfl := List.mem_singleton.mp hnew
        exact h.contents_le.trans h.capacity_le

theorem Bounded.handleInputHeader (h : Bounded s) : Bounded (s.handleInputHeader p).1 := by
  have hlength (header : ClientPktHeader) : header.toBytes.length ≤ ClientPktHeader.length := by
    simp [ClientPktHeader.toBytes, ClientPktHeader.length]
  unfold WorldSocket.handleInputHeader
  split
  · exact h
  · dsimp only
    split
    · exact ⟨hlength _, h.capacity_le, h.contents_le, h.delivered_le⟩
    case isFalse hformed =>
      have hsize := not_lt.mp (not_or.mp (not_or.mp hformed).2).1
      split
      · refine ⟨hlength _, ?_, Nat.zero_le _, h.delivered_le⟩
        dsimp only
        omega
      · split
        · exact ⟨hlength _, h.capacity_le, h.contents_le, h.delivered_le⟩
        · exact ⟨hlength _, h.capacity_le, h.contents_le, h.delivered_le⟩

/-- However the stream is split, the socket never holds more than a header and 10236 bytes of a
packet, and delivers none that is larger. -/
theorem bounded_foldl_receive (peer : σ) (chunks : List (List Byte)) :
    Bounded (chunks.foldl (receive p) (start peer)).socket := by
  rw [foldl_receive_eq_feed p (sound_start peer) chunks]
  refine foldl_feed_keeps p ?_ ?_ (fun _ h => h.handleInputHeader p)
    (fun _ h => h.handleInputPayload p) ?_ chunks.flatten
  · intro s x hspace h
    refine ⟨?_, h.capacity_le, h.contents_le, h.delivered_le⟩
    rw [List.length_append]
    exact Nat.lt_of_sub_pos hspace
  · intro s x h
    obtain ⟨hcapacity, hcontents⟩ := MessageBlock.copy_le h.contents_le [x]
    exact ⟨h.header_le, hcapacity ▸ h.capacity_le, hcontents, h.delivered_le⟩
  · exact ⟨Nat.zero_le _, Nat.zero_le _, le_refl _, fun _ hmem => absurd hmem List.not_mem_nil⟩

end

/-! ### What a client sends -/

section

variable {c : Connection σ} {peer peer' : σ} {packet : ClientPacket}
  {packets : List ClientPacket} {header bytes : List Byte}

/-- The header of a packet on the wire, before the client encrypts it. -/
def wireHeader (packet : ClientPacket) : List Byte :=
  (leBytes 2 (packet.payload.length + 4)).reverse ++ leBytes 4 packet.opcode

/-- A client whose cipher is in step with the peer sends a packet that fits, and it is accepted. -/
structure SendsOne (peer : σ) (packet : ClientPacket) (header : List Byte) (peer' : σ) : Prop where
  length_eq : header.length = ClientPktHeader.length
  decrypt_eq : (p.decryptRecv peer header).2 = wireHeader packet
  payload_le : packet.payload.length ≤ 10236
  opcode_lt : packet.opcode < 0x10000
  accepted : p.processIncoming (p.decryptRecv peer header).1 packet = (peer', true)

/-- The bytes that a client sends for its packets. -/
inductive Sends : σ → List ClientPacket → List Byte → Prop
  | nil (peer : σ) : Sends peer [] []
  | cons {peer peer' : σ} {packet : ClientPacket} {packets : List ClientPacket}
      {header bytes : List Byte} (h : SendsOne p peer packet header peer')
      (hrest : Sends peer' packets bytes) :
      Sends peer (packet :: packets) (header ++ packet.payload ++ bytes)

theorem ofBytes_wireHeader (hpayload : packet.payload.length ≤ 10236)
    (hopcode : packet.opcode < 0x10000) :
    ClientPktHeader.ofBytes (wireHeader packet) = ⟨packet.payload.length + 4, packet.opcode⟩ := by
  have hsize : (leBytes 2 (packet.payload.length + 4)).reverse.length = 2 := by
    rw [List.length_reverse, leBytes_length]
  have hcmd : (leBytes 4 packet.opcode).take 4 = leBytes 4 packet.opcode :=
    List.take_of_length_le (by rw [leBytes_length])
  rw [ClientPktHeader.ofBytes, wireHeader, List.take_left' hsize, List.drop_left' hsize, hcmd,
    List.reverse_reverse, leValue_leBytes (by omega), leValue_leBytes (by omega)]

/-- Between two packets the byte machine delivers the packet that is sent next. -/
theorem SendsOne.foldl_feed (h : SendsOne p peer packet header peer') (done : List ClientPacket) :
    (header ++ packet.payload).foldl (feed p) ⟨⟨peer, [], none, ⟨0, []⟩, done⟩, none⟩ =
      ⟨⟨peer', [], none, ⟨0, []⟩, done ++ [packet]⟩, none⟩ := by
  have hpayload := h.payload_le
  have hopcode := h.opcode_lt
  have hheader : ClientPktHeader.ofBytes (p.decryptRecv peer header).2 =
      ⟨packet.payload.length + 4, packet.opcode⟩ := by
    rw [h.decrypt_eq, ofBytes_wireHeader hpayload hopcode]
  have hformed : ¬ ClientPktHeader.malformed ⟨packet.payload.length + 4, packet.opcode⟩ := by
    simp only [ClientPktHeader.malformed]
    omega
  have hmask : packet.opcode &&& 0xFFFF = packet.opcode :=
    Nat.and_two_pow_sub_one_of_lt_two_pow (n := 16) hopcode
  rw [foldl_feed_take_header, List.take_left' h.length_eq, List.drop_left' h.length_eq,
    completeHeader_of_full p peer h.length_eq done hheader,
    if_neg hformed, foldl_feed_take_payload p _ (length_toBytes _),
    completePayload_of_full p _ (length_toBytes _) _ (by simp)]
  simp [hmask, h.accepted]

theorem Sends.foldl_feed (h : Sends p peer packets bytes) (done : List ClientPacket) :
    ∃ peer', bytes.foldl (feed p) ⟨⟨peer, [], none, ⟨0, []⟩, done⟩, none⟩ =
      ⟨⟨peer', [], none, ⟨0, []⟩, done ++ packets⟩, none⟩ := by
  induction h generalizing done with
  | nil peer => exact ⟨peer, by rw [List.append_nil]; rfl⟩
  | @cons _ _ packet _ _ _ hone _ ih =>
    obtain ⟨peer', hrest⟩ := ih (done ++ [packet])
    exact ⟨peer', by rw [List.foldl_append, hone.foldl_feed, hrest, List.append_assoc]; rfl⟩

/-- However the bytes of a client are split, and however many of them have arrived, a prefix of its
packets is delivered in order and the input is not rejected; when all have arrived, all are. -/
theorem delivered_of_sends (h : Sends p peer packets bytes) {chunks : List (List Byte)}
    (hchunks : chunks.flatten <+: bytes) :
    (chunks.foldl (receive p) (start peer)).closed = none ∧
      (chunks.foldl (receive p) (start peer)).socket.delivered <+: packets ∧
        (chunks.flatten = bytes →
          (chunks.foldl (receive p) (start peer)).socket.delivered = packets) := by
  obtain ⟨peer', hall⟩ := h.foldl_feed p []
  obtain ⟨rest, rfl⟩ := hchunks
  have hstart : start peer = ⟨⟨peer, [], none, ⟨0, []⟩, []⟩, none⟩ := rfl
  rw [foldl_receive_eq_feed p (sound_start peer)]
  rw [List.foldl_append, ← hstart] at hall
  generalize chunks.flatten.foldl (feed p) (start peer) = c at *
  refine ⟨?_, ?_, ?_⟩
  · obtain ⟨s, _ | why⟩ := c
    · rfl
    · rw [foldl_feed_closed] at hall
      cases hall
  · -- what was delivered stays delivered
    have hkept : c.socket.delivered <+: (rest.foldl (feed p) c).socket.delivered := by
      refine foldl_feed_keeps p (Q := fun s => c.socket.delivered <+: s.delivered)
        (fun _ _ _ h => h) (fun _ _ h => h) ?_ ?_ (List.prefix_refl _) rest
      · intro s h
        unfold handleInputHeader
        split
        · exact h
        · dsimp only
          split
          · exact h
          · split
            · exact h
            · split <;> exact h
      · intro s h
        unfold handleInputPayload
        split
        · exact h
        · split
          · exact h
          · exact h.trans (List.prefix_append _ _)
    rw [hall] at hkept
    exact hkept
  · intro heq
    rw [List.self_eq_append_right.mp heq, List.foldl_nil] at hall
    rw [hall]
    exact List.nil_append _

/-- The two packets of a client that does not encrypt yet. -/
theorem delivered_twoPackets :
    (twoPackets.foldl (receive idle) (start ())).socket.delivered =
      [⟨0x15, [0xAA#8, 0xBB#8]⟩, ⟨0x16, [0xCC#8]⟩] := by
  have hfirst : SendsOne idle () ⟨0x15, [0xAA#8, 0xBB#8]⟩
      [0x00#8, 0x06#8, 0x15#8, 0x00#8, 0x00#8, 0x00#8] () :=
    ⟨rfl, by decide, by decide, by decide, rfl⟩
  have hsecond : SendsOne idle () ⟨0x16, [0xCC#8]⟩
      [0x00#8, 0x05#8, 0x16#8, 0x00#8, 0x00#8, 0x00#8] () :=
    ⟨rfl, by decide, by decide, by decide, rfl⟩
  exact (delivered_of_sends idle (.cons hfirst (.cons hsecond (.nil ())))
    (List.prefix_refl _)).2.2 rfl

end

end Connection

end Cataclysm
