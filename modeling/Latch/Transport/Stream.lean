/-
The stream transport of `src/transport/stream.c`.

An envelope is framed by a header with its length and a trailer with its CRC. The three parts
are written one after the other, and a part that the port refuses is written by a later call
with the same envelope; how far a frame has come is kept in three offsets. Where there is an
acknowledgement, a frame without one is sent again as a whole.

The port is an oracle that answers each callback, and the callbacks are logged with the state
of the stream in which they are made.

* `lsStreamFrameParse_frame`: a whole frame is parsed, with the envelope it was built from;
* `Underway`: the state of a stream inside a frame; `writePart_sat` and `transmit_sat` say what
  the writes of a call do in it, and `Rests.send` what a call does;
* `stream_framing`: for every sequence of calls, what the port accepts is a sequence of whole
  frames and a beginning of the frame that is pending, and a call that succeeds has written
  its frame before it waits for the acknowledgement.
-/
import Latch.Core.Types
import Latch.Envelope.Validate
import Latch.Lib.Run
import Latch.Transport.Send

namespace Latch.Transport

open Bytes Exec

/-! ### Frames -/

/-- `LS_STREAM_TRANSPORT_VERSION`. -/
def lsStreamTransportVersion : UInt8 := 1

/-- `LS_STREAM_TRANSPORT_HEADER_SIZE`. -/
def lsStreamTransportHeaderSize : ℕ := 8

/-- `LS_STREAM_TRANSPORT_TRAILER_SIZE`. -/
def lsStreamTransportTrailerSize : ℕ := 4

/-- `LS_STREAM_TRANSPORT_STATE_MAGIC`. -/
def lsStreamTransportStateMagic : UInt32 := 0x4c535354

/-- The parts of a frame. -/
inductive Part where
  | header
  | payload
  | trailer
  deriving DecidableEq

/-- The bytes of a part, for an envelope. -/
def Part.bytes (data : List UInt8) : Part → List UInt8
  | .header => [0x4c, 0x53, lsStreamTransportVersion, 0] ++ le32 (UInt32.ofNat data.length)
  | .payload => data
  | .trailer => le32 (lsCrc32 data)

/-- The frame of an envelope. -/
def frame (data : List UInt8) : List UInt8 :=
  Part.bytes data .header ++ (Part.bytes data .payload ++ Part.bytes data .trailer)

/-- `ls_stream_frame_t`, with the bytes of the envelope for its pointer. -/
structure StreamFrame where
  envelope : List UInt8
  envelopeLength : ℕ
  envelopeCrc : UInt32
  deriving DecidableEq

/-- The largest envelope of a stream with the setting `maximum_envelope`. -/
def maximumOf (bd : Build) (maximumEnvelope : ℕ) : ℕ :=
  if maximumEnvelope ≠ 0 then maximumEnvelope else bd.maxEventSize

/-- `ls_stream_frame_parse`. -/
def lsStreamFrameParse (bd : Build) (data : List UInt8) (maximumEnvelope : ℕ) :
    Except Errno StreamFrame :=
  let overhead := lsStreamTransportHeaderSize + lsStreamTransportTrailerSize
  if data.length < overhead then .error .einval
  else if get8 data 0 ≠ 0x4c ∨ get8 data 1 ≠ 0x53 then .error .ecorrupt
  else if get8 data 2 ≠ lsStreamTransportVersion ∨ get8 data 3 ≠ 0 then .error .enotsup
  else
    let encodedLength := (get32 data 4).toNat
    if maximumOf bd maximumEnvelope < encodedLength then .error .enospace
    else if encodedLength ≠ data.length - overhead then .error .ecorrupt
    else
      let envelope := (data.drop lsStreamTransportHeaderSize).take encodedLength
      let crc := get32 (data.drop lsStreamTransportHeaderSize) encodedLength
      if crc ≠ lsCrc32 envelope then .error .ecorrupt
      else
        match lsEnvelopeValidate envelope with
        | .error e => .error e
        | .ok _ => .ok ⟨envelope, encodedLength, crc⟩

/-! ### The stream and its port -/

/-- `ls_stream_transport_t`; of the callbacks it says whether they are there. -/
structure Stream where
  hasWrite : Bool
  hasWaitAck : Bool
  maximumEnvelope : ℕ
  ackTimeoutMs : UInt32
  pendingEventId : UInt32
  pendingCrc : UInt32
  pendingLength : ℕ
  headerOffset : ℕ
  payloadOffset : ℕ
  trailerOffset : ℕ
  pending : Bool
  awaitingAck : Bool
  sending : Bool
  stateMagic : UInt32
  deriving DecidableEq

/-- A callback that was made, with the state of the stream then and with its answer. -/
inductive PortEvent where
  | write (stream : Stream) (bytes : List UInt8) (answer : Option Errno)
  | waitAck (stream : Stream) (eventId timeoutMs : UInt32) (answer : Option Errno)
  deriving DecidableEq

/-- The state of the stream in which a callback was made. -/
def PortEvent.stream : PortEvent → Stream
  | .write stream _ _ => stream
  | .waitAck stream _ _ _ => stream

/-- The bytes that the port accepted: all bytes of a write that succeeds, none of another. -/
def accepted (log : List PortEvent) : List UInt8 :=
  log.flatMap fun
    | .write _ bytes none => bytes
    | _ => []

/-- A stream with the callbacks that were made. -/
structure Line where
  stream : Stream
  log : List PortEvent
  deriving DecidableEq

/-- A part of a call; it stops with the first error. -/
abbrev StreamM := EStateM Errno Line

namespace Part

/-- The offset of a part. -/
def offset : Part → Stream → ℕ
  | .header, stream => stream.headerOffset
  | .payload, stream => stream.payloadOffset
  | .trailer, stream => stream.trailerOffset

/-- The stream after a part is written. -/
def finish (data : List UInt8) : Part → Stream → Stream
  | .header, stream => { stream with headerOffset := lsStreamTransportHeaderSize }
  | .payload, stream => { stream with payloadOffset := data.length }
  | .trailer, stream => { stream with trailerOffset := lsStreamTransportTrailerSize }

end Part

/-- `clear_pending`. -/
def clearPending (stream : Stream) : Stream :=
  { stream with
    pendingEventId := 0, pendingCrc := 0, pendingLength := 0, headerOffset := 0
    payloadOffset := 0, trailerOffset := 0, pending := false, awaitingAck := false }

/-- `acquire_stream`. -/
def acquireStream (stream : Stream) (info : EnvelopeInfo) (length : ℕ) (crc : UInt32) :
    Except Errno Stream :=
  if stream.stateMagic ≠ lsStreamTransportStateMagic then .error .einval
  else if stream.sending then .error .ebusy
  else if stream.pending ∧ (stream.pendingEventId ≠ info.eventId ∨
      stream.pendingLength ≠ length ∨ stream.pendingCrc ≠ crc) then .error .ebusy
  else
    let stream := if stream.pending then stream else
      { stream with
        pendingEventId := info.eventId, pendingCrc := crc, pendingLength := length
        headerOffset := 0, payloadOffset := 0, trailerOffset := 0, pending := true
        awaitingAck := false }
    .ok { stream with sending := true }

/-- `ls_stream_transport_init`. -/
def lsStreamTransportInit (stream : Stream) : Stream :=
  { clearPending stream with sending := false, stateMagic := lsStreamTransportStateMagic }

/-- `release_stream`; the result is `none` for `LS_OK`. -/
def releaseStream (result : Option Errno) (stream : Stream) : Stream :=
  let retryable := result.any lsTransportResultIsRetryable
  let stream :=
    if retryable ∧ stream.awaitingAck then
      { stream with headerOffset := 0, payloadOffset := 0, trailerOffset := 0, awaitingAck := false }
    else if result = none ∨ ¬ retryable then clearPending stream
    else stream
  { stream with sending := false }

/-! ### Sending -/

section

variable (bd : Build) (port : ℕ → Option Errno)

/-- Makes a callback, which is answered by the port. -/
def callback (event : Stream → Option Errno → PortEvent) : StreamM Unit := fun s =>
  let answer := port s.log.length
  let s := { s with log := s.log ++ [event s.stream answer] }
  match answer with
  | none => .ok () s
  | some e => .error e s

/-- One of the three writes of `ls_stream_transport_send`. -/
def writePart (data : List UInt8) (part : Part) : StreamM Unit := do
  let s ← get
  if ¬ s.stream.awaitingAck ∧ part.offset s.stream < (part.bytes data).length then do
    callback port fun stream answer =>
      .write stream ((part.bytes data).drop (part.offset s.stream)) answer
    modify fun s => { s with stream := part.finish data s.stream }
  else pure ()

/-- The wait for the acknowledgement, where there is one. -/
def awaitAck (eventId : UInt32) : StreamM Unit := do
  let s ← get
  if s.stream.hasWaitAck then do
    modify fun s => { s with stream := { s.stream with awaitingAck := true } }
    callback port fun stream answer => .waitAck stream eventId stream.ackTimeoutMs answer
  else pure ()

/-- What `ls_stream_transport_send` does with the stream it has acquired. -/
def transmit (data : List UInt8) (eventId : UInt32) : StreamM Unit := do
  writePart port data .header
  writePart port data .payload
  writePart port data .trailer
  awaitAck port eventId

/-- Releases the stream behind `x`. -/
def releasing (x : StreamM Unit) : StreamM Unit := fun s =>
  match x s with
  | .ok () s => .ok () { s with stream := releaseStream none s.stream }
  | .error e s => .error e { s with stream := releaseStream (some e) s.stream }

/-- `ls_stream_transport_send`, on a stream and with data that are not null pointers. -/
def lsStreamTransportSend (data : List UInt8) : StreamM Unit := do
  let s ← get
  if ¬ s.stream.hasWrite then throw .einval
  else if 0xffffffff < data.length then throw .einval
  else if maximumOf bd s.stream.maximumEnvelope < data.length then throw .enospace
  else
    match lsEnvelopeValidate data with
    | .error e => throw e
    | .ok info =>
      match acquireStream s.stream info data.length (lsCrc32 data) with
      | .error e => throw e
      | .ok stream => do
        set { s with stream := stream }
        releasing (transmit port data info.eventId)

/-- The line after a call. -/
def streamStep (data : List UInt8) (s : Line) : Line :=
  leaves (lsStreamTransportSend bd port data) s

end

/-! ### Whole frames -/

/-- An envelope that a stream may send. -/
structure Sendable (maximum : ℕ) (data : List UInt8) : Prop where
  valid : lsEnvelopeValidate data = .ok (envelopeInfo data)
  length_le : data.length ≤ maximum
  fits : data.length ≤ 0xffffffff

section

variable {data : List UInt8}

lemma Sendable.length_pos {maximum : ℕ} (h : Sendable maximum data) : 0 < data.length := by
  rw [List.length_pos_iff]
  rintro rfl
  exact absurd h.valid (by decide)

lemma header_length : (Part.bytes data .header).length = lsStreamTransportHeaderSize := by
  rw [Part.bytes, List.length_append, le32_length]
  rfl

lemma trailer_length : (Part.bytes data .trailer).length = lsStreamTransportTrailerSize :=
  le32_length _

lemma frame_length : (frame data).length =
    lsStreamTransportHeaderSize + (data.length + lsStreamTransportTrailerSize) := by
  rw [frame, List.length_append, List.length_append, header_length, trailer_length]
  rfl

/-- **A whole frame is parsed**, and yields the envelope it was built from. -/
theorem lsStreamFrameParse_frame {bd : Build} {maximumEnvelope : ℕ}
    (h : Sendable (maximumOf bd maximumEnvelope) data) :
    lsStreamFrameParse bd (frame data) maximumEnvelope =
      .ok ⟨data, data.length, lsCrc32 data⟩ := by
  have hlength := h.length_le
  have hdrop : (frame data).drop lsStreamTransportHeaderSize = data ++ le32 (lsCrc32 data) :=
    List.drop_left' header_length
  have hencoded : (get32 (frame data) 4).toNat = data.length := by
    have hword : get32 (frame data) 4 = UInt32.ofNat data.length := by
      rw [frame, Part.bytes, List.append_assoc, get32_append_right (by decide)]
      exact get32_le32 ..
    have := h.fits
    rw [hword, UInt32.toNat_ofNat', Nat.mod_eq_of_lt (by omega)]
  have hcrc : get32 (data ++ le32 (lsCrc32 data)) data.length = lsCrc32 data := by
    rw [get32_append_right le_rfl, Nat.sub_self, get32_le32_self]
  have hrest : data.length = (frame data).length -
      (lsStreamTransportHeaderSize + lsStreamTransportTrailerSize) := by
    rw [frame_length]
    omega
  simp only [lsStreamFrameParse, hdrop, hencoded, hcrc, List.take_left', h.valid]
  rw [if_neg (by rw [frame_length]; omega), if_neg (by simp [frame, Part.bytes, get8_cons_succ]),
    if_neg (by simp [frame, Part.bytes, get8_cons_succ]), if_neg (by omega),
    if_neg (not_not.mpr hrest), if_neg (by simp)]

end

/-! ### What the port has accepted -/

/-- The envelope is the one that is pending. -/
structure Pending (stream : Stream) (data : List UInt8) : Prop where
  pending : stream.pending = true
  eventId : stream.pendingEventId = (envelopeInfo data).eventId
  length : stream.pendingLength = data.length
  crc : stream.pendingCrc = lsCrc32 data

/-- The bytes are a sequence of whole frames, which are parsed to their envelopes, and a
beginning of the frame that is pending. -/
def Intact (bd : Build) (maximumEnvelope : ℕ) (calls : List (List UInt8)) (stream : Stream)
    (bytes : List UInt8) : Prop :=
  ∃ (sent : List (List UInt8)) (rest : List UInt8), bytes = sent.flatMap frame ++ rest ∧
    (∀ d ∈ sent, d ∈ calls ∧ lsStreamFrameParse bd (frame d) maximumEnvelope =
      .ok ⟨d, d.length, lsCrc32 d⟩) ∧
    if stream.pending then ∃ d ∈ calls, Pending stream d ∧ rest <+: frame d else rest = []

/-- The accepted bytes were intact at every callback. -/
def Logged (bd : Build) (maximumEnvelope : ℕ) (calls : List (List UInt8))
    (log : List PortEvent) : Prop :=
  ∀ before event after, log = before ++ event :: after →
    Intact bd maximumEnvelope calls event.stream (accepted before)

/-- The place of a part in its frame. -/
def Part.index : Part → ℕ
  | .header => 0
  | .payload => 1
  | .trailer => 2

/-- The bytes of the first parts of a frame. -/
def progress (data : List UInt8) (k : ℕ) : List UInt8 :=
  ([Part.header, .payload, .trailer].take k).flatMap (Part.bytes data)

section Progress

variable {bd : Build} {maximumEnvelope : ℕ} {calls : List (List UInt8)} {data : List UInt8}

lemma progress_succ (part : Part) :
    progress data (part.index + 1) = progress data part.index ++ part.bytes data := by
  cases part <;> simp [progress, Part.index]

lemma progress_three : progress data 3 = frame data := by
  simp [progress, frame]

lemma progress_prefix (k : ℕ) : progress data k <+: frame data := by
  rw [← progress_three]
  exact ((List.take_prefix k _).flatMap _)

lemma accepted_append (log log' : List PortEvent) :
    accepted (log ++ log') = accepted log ++ accepted log' :=
  List.flatMap_append

/-- One more callback. -/
lemma Logged.append {log : List PortEvent} {event : PortEvent}
    (h : Logged bd maximumEnvelope calls log)
    (he : Intact bd maximumEnvelope calls event.stream (accepted log)) :
    Logged bd maximumEnvelope calls (log ++ [event]) := by
  intro before event' after heq
  rcases List.eq_nil_or_concat after with rfl | ⟨after, last, rfl⟩
  · obtain ⟨rfl, hlast⟩ := List.append_inj' heq rfl
    obtain rfl := List.head_eq_of_cons_eq hlast
    exact he
  · have hsplit : log ++ [event] = (before ++ event' :: after) ++ [last] := by simpa using heq
    exact h before event' after (List.append_inj_left' hsplit rfl)

end Progress

/-! ### Inside a frame -/

section Inside

variable (bd : Build) (settings : Stream) (calls : List (List UInt8))

/-- What holds at every moment, behind the frames of `sent`. -/
structure Steady (sent : List (List UInt8)) (s : Line) : Prop where
  maximum : s.stream.maximumEnvelope = settings.maximumEnvelope
  waits : s.stream.hasWaitAck = settings.hasWaitAck
  whole : ∀ d ∈ sent, d ∈ calls ∧ Sendable (maximumOf bd settings.maximumEnvelope) d
  logged : Logged bd settings.maximumEnvelope calls s.log

/-- An envelope is pending, and the first `k` parts of its frame are written. -/
structure Underway (sent : List (List UInt8)) (data : List UInt8) (k : ℕ) (s : Line) : Prop
    extends Steady bd settings calls sent s where
  mem : data ∈ calls
  sendable : Sendable (maximumOf bd settings.maximumEnvelope) data
  pending : Pending s.stream data
  offset : ∀ part : Part,
    part.offset s.stream = if part.index < k then (part.bytes data).length else 0
  accepted : accepted s.log = sent.flatMap frame ++ progress data k

/-- No envelope is pending. -/
structure Quiet (sent : List (List UInt8)) (s : Line) : Prop
    extends Steady bd settings calls sent s where
  free : s.stream.pending = false
  accepted : accepted s.log = sent.flatMap frame

/-- The state between two calls. -/
def Rests (s : Line) : Prop :=
  s.stream.awaitingAck = false ∧ ∃ sent, Quiet bd settings calls sent s ∨
    ∃ data, ∃ k ≤ 3, Underway bd settings calls sent data k s

variable {bd settings calls} {port : ℕ → Option Errno} {sent : List (List UInt8)}
  {data : List UInt8} {k : ℕ} {s : Line}

lemma Steady.parsed (h : Steady bd settings calls sent s) :
    ∀ d ∈ sent, d ∈ calls ∧ lsStreamFrameParse bd (frame d) settings.maximumEnvelope =
      .ok ⟨d, d.length, lsCrc32 d⟩ :=
  fun d hd => ⟨(h.whole d hd).1, lsStreamFrameParse_frame (h.whole d hd).2⟩

lemma Underway.intact (h : Underway bd settings calls sent data k s) :
    Intact bd settings.maximumEnvelope calls s.stream (Transport.accepted s.log) := by
  refine ⟨sent, progress data k, h.accepted, h.parsed, ?_⟩
  rw [if_pos h.pending.pending]
  exact ⟨data, h.mem, h.pending, progress_prefix k⟩

lemma Rests.intact (h : Rests bd settings calls s) :
    Intact bd settings.maximumEnvelope calls s.stream (Transport.accepted s.log) := by
  obtain ⟨-, sent, hq | ⟨data, k, -, hu⟩⟩ := h
  · refine ⟨sent, [], by rw [List.append_nil]; exact hq.accepted, hq.parsed, ?_⟩
    rw [hq.free]
    rfl
  · exact hu.intact

lemma Rests.logged (h : Rests bd settings calls s) :
    Logged bd settings.maximumEnvelope calls s.log := by
  obtain ⟨-, sent, hq | ⟨data, k, -, hu⟩⟩ := h
  · exact hq.logged
  · exact hu.logged

/-- A callback appends to the log, and its answer is the result. -/
lemma sat_callback {event : Stream → Option Errno → PortEvent} {Q : Unit → Line → Prop}
    {H : Errno → Line → Prop} :
    Sat (callback port event) s Q H ↔
      (port s.log.length = none → Q () { s with log := s.log ++ [event s.stream none] }) ∧
      ∀ e, port s.log.length = some e → H e { s with log := s.log ++ [event s.stream (some e)] } := by
  unfold Sat
  simp only [callback]
  cases port s.log.length with
  | none => simp
  | some e => simp

lemma Part.offset_finish (part other : Part) (stream : Stream) :
    other.offset (part.finish data stream) =
      if other = part then (part.bytes data).length else other.offset stream := by
  cases part <;> cases other <;> rfl

/-- The flags of the stream do not matter inside a frame. -/
lemma Underway.flags (h : Underway bd settings calls sent data k s) (awaitingAck sending : Bool) :
    Underway bd settings calls sent data k
      { s with stream := { s.stream with awaitingAck := awaitingAck, sending := sending } } := by
  refine ⟨⟨h.maximum, h.waits, h.whole, h.logged⟩, h.mem, h.sendable, ?_, fun part => ?_,
    h.accepted⟩
  · exact ⟨h.pending.pending, h.pending.eventId, h.pending.length, h.pending.crc⟩
  · rw [← h.offset part]
    cases part <;> rfl

/-- The line with one more callback. -/
lemma Underway.log_append {event : PortEvent} (h : Underway bd settings calls sent data k s)
    (hs : event.stream = s.stream) (ha : Transport.accepted [event] = []) :
    Underway bd settings calls sent data k { s with log := s.log ++ [event] } :=
  { h with
    logged := h.logged.append (hs ▸ h.intact)
    accepted := by rw [accepted_append, ha, List.append_nil]; exact h.accepted }

/-- The line with one more part. -/
lemma Underway.finish {part : Part} (h : Underway bd settings calls sent data part.index s) :
    Underway bd settings calls sent data (part.index + 1)
      { stream := part.finish data s.stream
        log := s.log ++ [.write s.stream (part.bytes data) none] } := by
  have hsteady : ∀ stream : Stream, (part.finish data stream).maximumEnvelope =
      stream.maximumEnvelope ∧ (part.finish data stream).hasWaitAck = stream.hasWaitAck := by
    intro stream
    cases part <;> exact ⟨rfl, rfl⟩
  refine ⟨⟨(hsteady _).1.trans h.maximum, (hsteady _).2.trans h.waits, h.whole, ?_⟩, h.mem,
    h.sendable, ?_, fun other => ?_, ?_⟩
  · exact h.logged.append h.intact
  · have ⟨hp, he, hl, hc⟩ := h.pending
    cases part <;> exact ⟨hp, he, hl, hc⟩
  · rw [Part.offset_finish, h.offset other]
    by_cases heq : other = part
    · rw [if_pos heq, heq, if_pos (Nat.lt_succ_self _)]
    · have hne : other.index ≠ part.index := by
        cases part <;> cases other <;> first | exact absurd rfl heq | exact (by decide)
      rw [if_neg heq]
      exact if_congr (by omega) rfl rfl
  · rw [accepted_append, h.accepted, progress_succ, List.append_assoc]
    simp [Transport.accepted]

/-- **What one of the writes does.** It is skipped, or it writes its part, or the port refuses
it and the frame stays where it was. -/
lemma writePart_sat (hport : ∀ n e, port n = some e → lsTransportResultIsRetryable e = true)
    (part : Part) (h : Underway bd settings calls sent data k s)
    (ha : s.stream.awaitingAck = false) (hk : part.index ≤ k) :
    Sat (writePart port data part) s
      (fun _ s' => Underway bd settings calls sent data (max k (part.index + 1)) s' ∧
        s'.stream.awaitingAck = false ∧ s.log <+: s'.log)
      (fun e s' => lsTransportResultIsRetryable e = true ∧
        Underway bd settings calls sent data k s' ∧ s'.stream.awaitingAck = false) := by
  rw [writePart, sat_bind, sat_get]
  refine .ite (fun hc => ?_) fun hc => ?_
  · -- the part is still to come
    have hindex : part.index = k := by
      by_contra hne
      have hoffset := h.offset part
      rw [if_pos (by omega)] at hoffset
      exact absurd hc.2 (by omega)
    subst hindex
    have hoffset : part.offset s.stream = 0 := by rw [h.offset, if_neg (lt_irrefl _)]
    rw [hoffset, List.drop_zero, sat_bind, sat_callback]
    refine ⟨fun _ => ?_, fun e he => ⟨hport _ e he, h.log_append rfl rfl, ha⟩⟩
    rw [sat_modify, max_eq_right (Nat.le_succ _)]
    refine ⟨h.finish, ?_, List.prefix_append ..⟩
    cases part <;> exact ha
  · -- the part is written
    have hdone : part.index < k := by
      by_contra hnot
      have hzero := h.offset part
      rw [if_neg hnot] at hzero
      have hempty : (part.bytes data).length = 0 := by
        rw [hzero, ha] at hc
        simpa using hc
      cases part with
      | header => exact absurd (header_length.symm.trans hempty) (by decide)
      | payload => exact absurd hempty h.sendable.length_pos.ne'
      | trailer => exact absurd (trailer_length.symm.trans hempty) (by decide)
    rw [sat_pure, max_eq_left hdone]
    exact ⟨h, ha, List.prefix_rfl⟩

/-- A frame for the envelope was written before the wait for its acknowledgement, which comes
last; `log` is what was logged before the call. -/
def Written (settings : Stream) (sent : List (List UInt8)) (data : List UInt8)
    (log log' : List PortEvent) : Prop :=
  ∃ before, log <+: before ∧ accepted before = sent.flatMap frame ++ frame data ∧
    if settings.hasWaitAck then
      ∃ stream, log' = before ++
        [.waitAck stream (envelopeInfo data).eventId stream.ackTimeoutMs none]
    else log' = before

/-- The wait for the acknowledgement. -/
lemma awaitAck_sat (hport : ∀ n e, port n = some e → lsTransportResultIsRetryable e = true)
    (h : Underway bd settings calls sent data 3 s) {log : List PortEvent} (hlog : log <+: s.log) :
    Sat (awaitAck port (envelopeInfo data).eventId) s
      (fun _ s' => Underway bd settings calls sent data 3 s' ∧
        Written settings sent data log s'.log)
      (fun e s' => lsTransportResultIsRetryable e = true ∧
        Underway bd settings calls sent data 3 s' ∧ s'.stream.awaitingAck = true) := by
  have haccepted : Transport.accepted s.log = sent.flatMap frame ++ frame data := by
    rw [h.accepted, progress_three]
  rw [awaitAck, sat_bind, sat_get]
  refine .ite (fun hw => ?_) fun hw => ?_
  · have hwaiting := h.flags true s.stream.sending
    rw [sat_bind, sat_modify, sat_callback]
    refine ⟨fun _ => ⟨hwaiting.log_append rfl rfl, s.log, hlog, haccepted, ?_⟩,
      fun e he => ⟨hport _ e he, hwaiting.log_append rfl rfl, rfl⟩⟩
    rw [if_pos (h.waits ▸ hw)]
    exact ⟨_, rfl⟩
  · rw [sat_pure]
    refine ⟨h, s.log, hlog, haccepted, ?_⟩
    rw [if_neg (h.waits ▸ hw)]

/-- **What the callbacks of a call do.** They end with a whole frame, or with one that can be
taken up again. -/
lemma transmit_sat (hport : ∀ n e, port n = some e → lsTransportResultIsRetryable e = true)
    (h : Underway bd settings calls sent data k s) (hk : k ≤ 3)
    (ha : s.stream.awaitingAck = false) :
    Sat (transmit port data (envelopeInfo data).eventId) s
      (fun _ s' => Underway bd settings calls sent data 3 s' ∧
        Written settings sent data s.log s'.log)
      (fun e s' => lsTransportResultIsRetryable e = true ∧ ∃ k ≤ 3,
        Underway bd settings calls sent data k s' ∧ (s'.stream.awaitingAck = true → k = 3)) := by
  have hrefused : ∀ {k : ℕ} {e : Errno} {s' : Line}, k ≤ 3 →
      lsTransportResultIsRetryable e = true ∧ Underway bd settings calls sent data k s' ∧
        s'.stream.awaitingAck = false →
      lsTransportResultIsRetryable e = true ∧ ∃ k ≤ 3,
        Underway bd settings calls sent data k s' ∧ (s'.stream.awaitingAck = true → k = 3) :=
    fun hk ⟨he, hu, ha⟩ => ⟨he, _, hk, hu, fun hw => absurd (hw.symm.trans ha) (by decide)⟩
  rw [transmit, sat_bind]
  refine (writePart_sat hport .header h ha (Nat.zero_le k)).mono
    (fun _ s₁ ⟨h₁, ha₁, hl₁⟩ => ?_) fun _ _ => hrefused hk
  rw [sat_bind]
  refine (writePart_sat hport .payload h₁ ha₁ (le_max_right ..)).mono
    (fun _ s₂ ⟨h₂, ha₂, hl₂⟩ => ?_) fun _ _ => hrefused (max_le hk (by decide))
  rw [sat_bind]
  refine (writePart_sat hport .trailer h₂ ha₂ (le_max_right ..)).mono
    (fun _ s₃ ⟨h₃, ha₃, hl₃⟩ => ?_) fun _ _ => hrefused (max_le (max_le hk (by decide)) (by decide))
  have hthree : max (max (max k (Part.header.index + 1)) (Part.payload.index + 1))
      (Part.trailer.index + 1) = 3 := by
    simp only [Part.index]
    omega
  rw [hthree] at h₃
  exact (awaitAck_sat hport h₃ (hl₁.trans (hl₂.trans hl₃))).mono (fun _ _ h => h)
    fun _ _ ⟨he, hu, _⟩ => ⟨he, 3, le_rfl, hu, fun _ => rfl⟩

/-- Event id, length and CRC identify an envelope. -/
def Identified (maximum : ℕ) (calls : List (List UInt8)) : Prop :=
  ∀ d ∈ calls, ∀ d' ∈ calls, Sendable maximum d → Sendable maximum d' →
    (envelopeInfo d).eventId = (envelopeInfo d').eventId → d.length = d'.length →
    lsCrc32 d = lsCrc32 d' → d = d'

/-- A stream that is acquired is at the beginning of the frame, or where an earlier call has
left it. -/
lemma Rests.acquire (h : Rests bd settings calls s)
    (hid : Identified (maximumOf bd settings.maximumEnvelope) calls) (hmem : data ∈ calls)
    (hs : Sendable (maximumOf bd settings.maximumEnvelope) data) {stream : Stream}
    (hacquired : acquireStream s.stream (envelopeInfo data) data.length (lsCrc32 data) =
      .ok stream) :
    stream.awaitingAck = false ∧ ∃ sent, ∃ k ≤ 3,
      Underway bd settings calls sent data k { s with stream := stream } := by
  simp only [acquireStream, guard_eq_ok, Except.ok.injEq] at hacquired
  obtain ⟨-, -, hsame, rfl⟩ := hacquired
  obtain ⟨ha, sent, hq | ⟨data', k, hk, hu⟩⟩ := h
  · rw [hq.free, if_neg Bool.false_ne_true]
    refine ⟨rfl, sent, 0, by decide, ⟨hq.maximum, hq.waits, hq.whole, hq.logged⟩, hmem, hs,
      ⟨rfl, rfl, rfl, rfl⟩, fun part => ?_, ?_⟩
    · rw [if_neg (Nat.not_lt_zero _)]
      cases part <;> rfl
    · rw [hq.accepted]
      simp [progress]
  · have hp := hu.pending
    simp only [hp.pending, true_and, not_or, not_not] at hsame
    obtain rfl : data' = data := hid data' hu.mem data hmem hu.sendable hs
      (hp.eventId.symm.trans hsame.1) (hp.length.symm.trans hsame.2.1)
      (hp.crc.symm.trans hsame.2.2)
    rw [if_pos hp.pending]
    exact ⟨ha, sent, k, hk, hu.flags s.stream.awaitingAck true⟩

lemma sat_releasing {x : StreamM Unit} {Q : Unit → Line → Prop} {H : Errno → Line → Prop} :
    Sat (releasing x) s Q H ↔
      Sat x s (fun a s' => Q a { s' with stream := releaseStream none s'.stream })
        fun e s' => H e { s' with stream := releaseStream (some e) s'.stream } := by
  unfold Sat
  simp only [releasing]
  cases x s <;> rfl

/-- One more whole frame. -/
lemma Underway.whole_append (h : Underway bd settings calls sent data k s) :
    ∀ d ∈ sent ++ [data], d ∈ calls ∧ Sendable (maximumOf bd settings.maximumEnvelope) d := by
  intro d hd
  rcases List.mem_append.mp hd with hd | hd
  · exact h.whole d hd
  · rw [List.mem_singleton.mp hd]
    exact ⟨h.mem, h.sendable⟩

lemma Underway.accepted_append (h : Underway bd settings calls sent data 3 s) :
    Transport.accepted s.log = (sent ++ [data]).flatMap frame := by
  rw [h.accepted, progress_three, List.flatMap_append, List.flatMap_singleton]

/-- The stream is released after the frame was sent. -/
lemma Underway.release_ok (h : Underway bd settings calls sent data 3 s) :
    Rests bd settings calls { s with stream := releaseStream none s.stream } := by
  have hstream : releaseStream none s.stream = { clearPending s.stream with sending := false } := rfl
  rw [hstream]
  exact ⟨rfl, sent ++ [data], .inl ⟨⟨h.maximum, h.waits, h.whole_append, h.logged⟩, rfl,
    h.accepted_append⟩⟩

/-- The stream is released to take the frame up again: from its beginning, if the
acknowledgement is missing. -/
lemma Underway.release_retry {e : Errno} (he : lsTransportResultIsRetryable e = true)
    (h : Underway bd settings calls sent data k s) (hk : k ≤ 3)
    (hw : s.stream.awaitingAck = true → k = 3) :
    Rests bd settings calls { s with stream := releaseStream (some e) s.stream } := by
  have hp := h.pending
  simp only [releaseStream, Option.any_some, he, true_and, not_true_eq_false, reduceCtorEq,
    false_or, if_false]
  by_cases ha : s.stream.awaitingAck = true
  · obtain rfl := hw ha
    rw [if_pos ha]
    refine ⟨rfl, sent ++ [data], .inr ⟨data, 0, by decide, ⟨h.maximum, h.waits, h.whole_append,
      h.logged⟩, h.mem, h.sendable, ⟨hp.pending, hp.eventId, hp.length, hp.crc⟩, fun part => ?_, ?_⟩⟩
    · rw [if_neg (Nat.not_lt_zero _)]
      cases part <;> rfl
    · rw [h.accepted_append]
      simp [progress]
  · rw [if_neg ha]
    exact ⟨by simpa using ha, sent, .inr ⟨data, k, hk, h.flags s.stream.awaitingAck false⟩⟩

/-- **What a call does.** -/
lemma Rests.send (hport : ∀ n e, port n = some e → lsTransportResultIsRetryable e = true)
    (h : Rests bd settings calls s)
    (hid : Identified (maximumOf bd settings.maximumEnvelope) calls) (hmem : data ∈ calls) :
    Sat (lsStreamTransportSend bd port data) s
      (fun _ s' => Rests bd settings calls s' ∧ ∃ sent,
        (∀ d ∈ sent ++ [data], d ∈ calls ∧ Sendable (maximumOf bd settings.maximumEnvelope) d) ∧
        Written settings sent data s.log s'.log)
      (fun _ s' => Rests bd settings calls s') := by
  have hmaximum : s.stream.maximumEnvelope = settings.maximumEnvelope := by
    obtain ⟨-, sent, hq | ⟨_, _, _, hu⟩⟩ := h
    · exact hq.maximum
    · exact hu.maximum
  simp only [lsStreamTransportSend, sat_bind, sat_get, sat_ite, sat_throw]
  refine ⟨fun _ => h, fun _ => ⟨fun _ => h, fun hfits => ⟨fun _ => h, fun hlength => ?_⟩⟩⟩
  cases hv : lsEnvelopeValidate data with
  | error e => exact (sat_throw e).mpr h
  | ok info =>
      obtain rfl := ((lsEnvelopeValidate_ok_iff data info).mp hv).2
      dsimp only
      cases hacquired : acquireStream s.stream (envelopeInfo data) data.length (lsCrc32 data) with
      | error e => exact (sat_throw e).mpr h
      | ok stream =>
          have hs : Sendable (maximumOf bd settings.maximumEnvelope) data :=
            ⟨hv, hmaximum ▸ not_lt.mp hlength, not_lt.mp hfits⟩
          obtain ⟨ha, sent, k, hk, hu⟩ := h.acquire hid hmem hs hacquired
          rw [sat_bind, sat_set, sat_releasing]
          refine (transmit_sat hport hu hk ha).mono (fun _ s' h' => ?_) fun e s' h' => ?_
          · exact ⟨h'.1.release_ok, sent, h'.1.whole_append, h'.2⟩
          · obtain ⟨he, k', hk', hu', hw⟩ := h'
            exact hu'.release_retry he hk' hw

end Inside

/-- A fresh line rests. -/
lemma rests_init (bd : Build) (settings : Stream) (calls : List (List UInt8)) :
    Rests bd settings calls ⟨lsStreamTransportInit settings, []⟩ :=
  ⟨rfl, [], .inl ⟨⟨rfl, rfl, nofun, fun before _ _ h => by simp at h⟩, rfl, rfl⟩⟩

/-- **Framing stays intact under retries.** The port accepts a write as a whole or refuses it
with a code to try again, and so it answers a wait. Then, at every callback and after every
call, the bytes that it has accepted are a sequence of whole frames, each parsed to the
envelope of a call, and a beginning of the frame of the envelope that is pending. A call that
returns `LS_OK` has a whole frame for its envelope in the stream before it waits for the
acknowledgement. -/
theorem stream_framing (bd : Build) (port : ℕ → Option Errno)
    (hport : ∀ n e, port n = some e → lsTransportResultIsRetryable e = true) (settings : Stream)
    (calls : List (List UInt8))
    (hid : Identified (maximumOf bd settings.maximumEnvelope) calls) :
    let line := fun ops => Run.after (streamStep bd port) ops ⟨lsStreamTransportInit settings, []⟩
    let s := line calls
    Intact bd settings.maximumEnvelope calls s.stream (accepted s.log) ∧
    (∀ before event after, s.log = before ++ event :: after →
      Intact bd settings.maximumEnvelope calls event.stream (accepted before)) ∧
    ∀ pre data post, calls = pre ++ data :: post →
      Completes (lsStreamTransportSend bd port data) (line pre) →
      ∃ sent, Written settings sent data (line pre).log (line (pre ++ [data])).log ∧
        ∀ d ∈ sent ++ [data], d ∈ calls ∧
          lsStreamFrameParse bd (frame d) settings.maximumEnvelope =
            .ok ⟨d, d.length, lsCrc32 d⟩ := by
  intro line s
  have hrests : ∀ ops, (∀ d ∈ ops, d ∈ calls) → Rests bd settings calls (line ops) := by
    intro ops hops
    induction ops using List.reverseRecOn with
    | nil => exact rests_init bd settings calls
    | append_singleton ops data ih =>
        have h := ih fun d hd => hops d (List.mem_append_left _ hd)
        have hsend := h.send hport hid (hops data (by simp))
        change Rests bd settings calls (Run.after _ (ops ++ [data]) _)
        rw [Run.after_append]
        exact (hsend.mono fun _ _ h => h.1).leaves
  refine ⟨(hrests calls fun _ h => h).intact, (hrests calls fun _ h => h).logged, ?_⟩
  intro pre data post hsplit hcompletes
  have h := hrests pre fun d hd => hsplit ▸ List.mem_append_left _ hd
  have hmem : data ∈ calls := by
    rw [hsplit]
    exact List.mem_append_right _ (List.mem_cons_self ..)
  have hsend := h.send hport hid hmem
  have hline : line (pre ++ [data]) = leaves (lsStreamTransportSend bd port data) (line pre) := by
    change Run.after _ (pre ++ [data]) _ = _
    rw [Run.after_append]
    rfl
  rw [hline]
  obtain ⟨-, -, sent, hwhole, hwritten⟩ := hcompletes.leaves hsend
  exact ⟨sent, hwritten, fun d hd => ⟨(hwhole d hd).1, lsStreamFrameParse_frame (hwhole d hd).2⟩⟩

/-- A stream with an acknowledgement, before it is initialised. -/
def ackStream : Stream :=
  { hasWrite := true, hasWaitAck := true, maximumEnvelope := 0, ackTimeoutMs := 100
    pendingEventId := 0, pendingCrc := 0, pendingLength := 0, headerOffset := 0
    payloadOffset := 0, trailerOffset := 0, pending := false, awaitingAck := false
    sending := false, stateMagic := 0 }

/-- One envelope in three calls: the port refuses the payload first, then the acknowledgement
is missing. The theorem applies; the last call returns `LS_OK` behind the second frame. -/
theorem stream_framing_retry :
    let port := fun n => if n = 1 then some .eagain else if n = 4 then some .ebusy else none
    let line := fun ops =>
      Run.after (streamStep Build.default port) ops ⟨lsStreamTransportInit ackStream, []⟩
    accepted (line (List.replicate 3 basicVector)).log =
        frame basicVector ++ frame basicVector ∧
      ∃ sent, Written ackStream sent basicVector (line (List.replicate 2 basicVector)).log
        (line (List.replicate 3 basicVector)).log := by
  intro port line
  have hport : ∀ n e, port n = some e → lsTransportResultIsRetryable e = true := by
    intro n e he
    simp only [port] at he
    split_ifs at he <;> exact Option.some.inj he ▸ rfl
  obtain ⟨-, -, hwritten⟩ := stream_framing Build.default port hport ackStream
    (List.replicate 3 basicVector) fun d hd d' hd' _ _ _ _ _ =>
      (List.eq_of_mem_replicate hd).trans (List.eq_of_mem_replicate hd').symm
  refine ⟨by decide +kernel, ?_⟩
  obtain ⟨sent, hsent, -⟩ := hwritten (List.replicate 2 basicVector) basicVector [] rfl
    (by decide +kernel)
  exact ⟨sent, hsent⟩

end Latch.Transport
