/-
The decoders of the Rust crate (`rust/latch/src/lib.rs`) and of the collector
(`tools/latch_collector.py`), and their agreement with `lep.c`.

The three parsers check flags, length, CRCs and fields in different orders. Each is
shown to accept the `WellFormed` envelopes and to report the same header fields
(`Rust.parse_ok_iff`, `Collector.validateEnvelope_ok_iff`), and each walk over
the payload to yield the fields that it encodes.
-/
import Latch.Envelope.Validate

namespace Latch

open Bytes Exec Tlv

/-! ### The Rust crate -/

namespace Rust

/-- `DecodeError`. -/
inductive DecodeError where
  | tooShort
  | magic
  | version
  | flags
  | length
  | headerCrc
  | payloadCrc
  | payload
  | encrypted
  | tlv
  deriving DecidableEq, Repr

/-- `Envelope`. -/
structure Envelope where
  version : UInt8
  messageType : UInt8
  architecture : UInt8
  flags : UInt8
  sequence : UInt32
  eventId : UInt32
  payload : List UInt8
  encrypted : Bool
  deriving DecidableEq, Repr

/-- `crc32`. -/
def crc32 (data : List UInt8) : UInt32 :=
  ~~~ (data.foldl (fun crc byte =>
    (List.range 8).foldl (fun crc _ => (crc >>> 1) ^^^ (0xedb88320 &&& (0 - (crc &&& 1))))
      (crc ^^^ byte.toUInt32)) 0xffffffff)

/-- `flags_valid`. -/
def flagsValid (flags : UInt8) : Bool :=
  if flags &&& ~~~0x0f ≠ 0 then false
  else
    (hasFlag flags lsEnvelopeEncrypted == hasFlag flags lsEnvelopeAead) &&
      (!hasFlag flags lsEnvelopeAead || hasFlag flags lsEnvelopeAuthenticated)

/-- `usize::checked_add`. -/
def checkedAdd (usizeMax a b : ℕ) : Option ℕ := if a + b ≤ usizeMax then some (a + b) else none

/-- `validate_tlvs`; a turn of its loop takes at least four bytes. -/
def validateTlvs : ℕ → List UInt8 → Except DecodeError Unit
  | 0, _ => .ok ()
  | fuel + 1, payload =>
    if payload = [] then .ok ()
    else if payload.length < 4 then .error .payload
    else
      let length := (get16 payload 2).toNat
      if get16 payload 0 = 0 ∨ payload.length < 4 + length then .error .payload
      else validateTlvs fuel (payload.drop (4 + length))

/-- `Envelope::parse`, on a machine whose `usize` reaches `usizeMax`. -/
def parse (usizeMax : ℕ) (data : List UInt8) : Except DecodeError Envelope :=
  if data.length < 24 + 4 then .error .tooShort
  else if get32 data 0 ≠ 0x5054534c then .error .magic
  else if get8 data 4 ≠ 1 then .error .version
  else
    let flags := get8 data 7
    if ¬ flagsValid flags then .error .flags
    else
      let encrypted := hasFlag flags lsEnvelopeEncrypted
      let metadataSize := if encrypted then 28 else 0
      let authenticationSize :=
        if encrypted then 16 else if hasFlag flags lsEnvelopeAuthenticated then 32 else 0
      let payloadLen := (get32 data 16).toNat
      let total := do
        let value ← checkedAdd usizeMax 24 metadataSize
        let value ← checkedAdd usizeMax value 4
        let overhead ← checkedAdd usizeMax value authenticationSize
        checkedAdd usizeMax overhead payloadLen
      if some data.length ≠ total then .error .length
      else if get32 data 20 ≠ crc32 (data.take 20) then .error .headerCrc
      else
        let payloadOffset := 24 + metadataSize
        let payloadEnd := payloadOffset + payloadLen
        let payload := (data.take payloadEnd).drop payloadOffset
        if get32 data payloadEnd ≠ crc32 ((data.take payloadEnd).drop 24) then .error .payloadCrc
        else
          let envelope : Envelope :=
            { version := get8 data 4, messageType := get8 data 5, architecture := get8 data 6
              flags := flags, sequence := get32 data 8, eventId := get32 data 12
              payload := payload, encrypted := encrypted }
          if encrypted then .ok envelope
          else
            match validateTlvs (payload.length + 1) payload with
            | .error e => .error e
            | .ok () => .ok envelope

/-- `TlvIterator`. -/
structure TlvIterator where
  remaining : List UInt8
  failed : Bool
  encrypted : Bool

/-- `Envelope::tlvs`. -/
def Envelope.tlvs (e : Envelope) : TlvIterator :=
  { remaining := e.payload, failed := false, encrypted := e.encrypted }

/-- `TlvIterator::next`. -/
def TlvIterator.next (it : TlvIterator) :
    Option (Except DecodeError (UInt16 × List UInt8)) × TlvIterator :=
  if it.failed then (none, it)
  else if it.encrypted then (some (.error .encrypted), { it with failed := true })
  else if it.remaining = [] then (none, it)
  else if it.remaining.length < 4 then (some (.error .tlv), { it with failed := true })
  else
    let fieldType := get16 it.remaining 0
    let length := (get16 it.remaining 2).toNat
    if fieldType = 0 ∨ it.remaining.length < 4 + length then
      (some (.error .tlv), { it with failed := true })
    else
      (some (.ok (fieldType, (it.remaining.drop 4).take length)),
        { it with remaining := it.remaining.drop (4 + length) })

/-- The items an iterator yields until it ends, at most `fuel` of them. -/
def TlvIterator.items : ℕ → TlvIterator → List (Except DecodeError (UInt16 × List UInt8))
  | 0, _ => []
  | fuel + 1, it =>
    match it.next with
    | (none, _) => []
    | (some item, it') => item :: items fuel it'

lemma crc32_eq (data : List UInt8) : crc32 data = lsCrc32 data := rfl

lemma flagsValid_eq (flags : UInt8) : flagsValid flags = Latch.flagsValid flags := by
  rw [flagsValid, Latch.flagsValid, lsEnvelopeKnownFlags]
  cases hasFlag flags lsEnvelopeEncrypted <;> cases hasFlag flags lsEnvelopeAead <;> simp

/-- `validate_tlvs` accepts the sequences of fields. -/
lemma validateTlvs_ok_iff (payload : List UInt8) :
    ∀ fuel, payload.length < fuel →
      (validateTlvs fuel payload = .ok () ↔ ∃ ts, payload = encode ts) := by
  induction payload using wire_induction with
  | nil =>
      rintro (_ | fuel) hf
      · omega
      · exact ⟨fun _ => ⟨[], rfl⟩, fun _ => by rw [validateTlvs, if_pos rfl]⟩
  | malformed l hne hm =>
      rintro (_ | fuel) hf
      · omega
      · refine ⟨fun h => ?_, fun ⟨ts, hts⟩ => absurd hts (encode_ne_of_malformed hne hm ts)⟩
        simp only [validateTlvs, if_neg hne, guard_eq_ok] at h
        obtain ⟨h4, hbad, -⟩ := h
        exact absurd hm (not_or.mpr ⟨h4, hbad⟩)
  | field x rest ih =>
      rintro (_ | fuel) hf
      · omega
      · have hlen : (x.bytes ++ rest).length = 4 + x.value.length + rest.length := by simp
        have hne : x.bytes ++ rest ≠ [] := List.ne_nil_of_length_pos (by omega)
        have h := not_or.mp (not_malformed_bytes x rest)
        rw [validateTlvs, if_neg hne, if_neg h.1, if_neg h.2, get16_bytes_length, drop_bytes,
          ih fuel (by omega)]
        simp only [bytes_append_eq_encode]
        exact ⟨fun ⟨us, h⟩ => ⟨_, us, rfl, h⟩, fun ⟨_, us, _, h⟩ => ⟨us, h⟩⟩

/-- The sum of the sizes is checked against `usize`, which the length cannot exceed. -/
lemma length_eq_checked_iff {usizeMax n : ℕ} (h : n ≤ usizeMax) (m a p : ℕ) :
    (some n ≠ do
      let value ← checkedAdd usizeMax 24 m
      let value ← checkedAdd usizeMax value 4
      let overhead ← checkedAdd usizeMax value a
      checkedAdd usizeMax overhead p) ↔ n ≠ 24 + m + 4 + a + p := by
  by_cases hsum : 24 + m + 4 + a + p ≤ usizeMax
  · have h1 : 24 + m ≤ usizeMax := by omega
    have h2 : 24 + m + 4 ≤ usizeMax := by omega
    have h3 : 24 + m + 4 + a ≤ usizeMax := by omega
    simp [checkedAdd, hsum, h1, h2, h3]
  · refine ⟨fun _ => by omega, fun _ heq => hsum ?_⟩
    -- a chain of checked sums that returns has checked its last sum
    have hsome := heq.symm
    simp only [checkedAdd, Option.bind_eq_bind, Option.bind_eq_some_iff,
      Option.ite_none_right_eq_some, Option.some.injEq] at hsome
    obtain ⟨_, ⟨_, rfl⟩, _, ⟨_, rfl⟩, _, ⟨_, rfl⟩, hle, _⟩ := hsome
    exact hle

/-- The envelope that `Envelope::parse` returns. -/
def envelopeOf (data : List UInt8) : Envelope :=
  { version := get8 data 4, messageType := get8 data 5, architecture := get8 data 6
    flags := get8 data 7, sequence := get32 data 8, eventId := get32 data 12
    payload := (data.drop (lsLepHeaderSize + metadataSize (get8 data 7))).take
      (get32 data 16).toNat
    encrypted := hasFlag (get8 data 7) lsEnvelopeEncrypted }

lemma envelopeOf_payload {data : List UInt8}
    (henc : hasFlag (get8 data 7) lsEnvelopeEncrypted = false) :
    (envelopeOf data).payload = plainPayload data := by
  simp [envelopeOf, plainPayload, metadataSize, henc]

/-- The last check of `Envelope::parse`. -/
lemma tlvs_check_iff (data : List UInt8) (e : Envelope) :
    (if hasFlag (get8 data 7) lsEnvelopeEncrypted then .ok (envelopeOf data)
      else
        match validateTlvs ((envelopeOf data).payload.length + 1) (envelopeOf data).payload with
        | .error e => .error e
        | .ok () => Except.ok (envelopeOf data) : Except DecodeError Envelope) = .ok e ↔
      (hasFlag (get8 data 7) lsEnvelopeEncrypted = false → ∃ ts, plainPayload data = encode ts) ∧
        e = envelopeOf data := by
  cases henc : hasFlag (get8 data 7) lsEnvelopeEncrypted with
  | true => simp [eq_comm]
  | false =>
      rw [envelopeOf_payload henc,
        ← validateTlvs_ok_iff (plainPayload data) ((plainPayload data).length + 1) (by omega)]
      cases validateTlvs _ (plainPayload data) with
      | error e => simp
      | ok u => simp [eq_comm]

/-- `Envelope::parse` accepts the well-formed envelopes. -/
lemma parse_ok_iff {usizeMax : ℕ} {data : List UInt8} (h : data.length ≤ usizeMax)
    (e : Envelope) : parse usizeMax data = .ok e ↔ WellFormed data ∧ e = envelopeOf data := by
  have hslice : ∀ off n, (data.take (off + n)).drop off = (data.drop off).take n := fun off n => by
    rw [List.drop_take, Nat.add_sub_cancel_left]
  have hmeta : (if hasFlag (get8 data 7) lsEnvelopeEncrypted then 28 else 0)
      = metadataSize (get8 data 7) := rfl
  have hauth : (if hasFlag (get8 data 7) lsEnvelopeEncrypted then 16
      else if hasFlag (get8 data 7) lsEnvelopeAuthenticated then 32 else 0)
      = authenticationSize (get8 data 7) := rfl
  have hcrc : (data.take (24 + metadataSize (get8 data 7) + (get32 data 16).toNat)).drop 24
      = (data.drop 24).take (metadataSize (get8 data 7) + (get32 data 16).toNat) := by
    rw [Nat.add_assoc, hslice]
  have henv := tlvs_check_iff data e
  simp only [envelopeOf, lsLepHeaderSize] at henv
  simp only [parse, guard_eq_ok, length_eq_checked_iff h, hmeta, hauth, hslice, hcrc, crc32_eq,
    flagsValid_eq, henv]
  constructor
  · rintro ⟨hlen, hmagic, hv, hf, htotal, hheader, hpayload, hp, he⟩
    exact ⟨⟨by rw [lsLepHeaderSize]; omega, not_not.mp hmagic, not_not.mp hv, not_not.mp hf,
      not_not.mp htotal, not_not.mp hheader, not_not.mp hpayload, hp⟩, he⟩
  · rintro ⟨hw, he⟩
    exact ⟨not_lt.mpr hw.length_ge, not_not.mpr hw.magic, not_not.mpr hw.version,
      not_not.mpr hw.flags, not_not.mpr hw.length_eq, not_not.mpr hw.header_crc,
      not_not.mpr hw.payload_crc, hw.payload, he⟩

/-- The iterator yields the fields of a sequence and ends. -/
lemma items_encode (ts : List Field) :
    ∀ fuel, ts.length < fuel →
      TlvIterator.items fuel { remaining := encode ts, failed := false, encrypted := false }
        = ts.map fun x => .ok x.pair := by
  induction ts with
  | nil =>
      rintro (_ | fuel) hf
      · omega
      · rfl
  | cons x ts ih =>
      rintro (_ | fuel) hf
      · omega
      · have hne : x.bytes ++ encode ts ≠ [] := List.ne_nil_of_length_pos (by simp)
        obtain ⟨h4, hbad⟩ := not_or.mp (not_malformed_bytes x (encode ts))
        rw [get16_bytes_type, get16_bytes_length] at hbad
        have hnext : TlvIterator.next
            { remaining := encode (x :: ts), failed := false, encrypted := false }
            = (some (.ok x.pair),
              { remaining := encode ts, failed := false, encrypted := false }) := by
          simp only [TlvIterator.next, encode_cons, if_neg hne, if_neg h4,
            get16_bytes_type, get16_bytes_length, if_neg hbad, take_bytes, drop_bytes, Bool.false_eq_true,
            if_false, Field.pair]
        simp only [TlvIterator.items, hnext, ih fuel (by simpa using hf), List.map_cons]

end Rust

/-! ### The collector -/

namespace Collector

/-- `EnvelopeInfo`. -/
structure EnvelopeInfo where
  version : UInt8
  eventType : UInt8
  architecture : UInt8
  flags : UInt8
  sequence : UInt32
  eventId : UInt32
  payloadLength : UInt32
  deriving DecidableEq, Repr

/-- The loop of `iter_tlvs` from `offset` on: the fields it yields, and the text of the
`ProtocolError` it then raises, if any. -/
def iterTlvsFrom (payload : List UInt8) : ℕ → ℕ → List (UInt16 × List UInt8) × Option String
  | 0, _ => ([], none)
  | fuel + 1, offset =>
    if offset < payload.length then
      if payload.length - offset < 4 then ([], some "truncated LEP TLV")
      else
        let fieldType := get16 payload offset
        let fieldLength := (get16 payload (offset + 2)).toNat
        if fieldType = 0 ∨ payload.length - (offset + 4) < fieldLength then
          ([], some "invalid LEP TLV")
        else
          let rest := iterTlvsFrom payload fuel (offset + 4 + fieldLength)
          ((fieldType, (payload.drop (offset + 4)).take fieldLength) :: rest.1, rest.2)
    else ([], none)

/-- `iter_tlvs`. -/
def iterTlvs (data : List UInt8) (payloadLength : Option UInt32) :
    List (UInt16 × List UInt8) × Option String :=
  let flags := if 8 ≤ data.length then get8 data 7 else 0
  if hasFlag flags lsEnvelopeEncrypted then ([], none)
  else if payloadLength = none ∧ data.length < 24 then ([], some "truncated LEP header")
  else
    let infoPayloadLength := payloadLength.getD (get32 data 16)
    let payload := (data.drop 24).take infoPayloadLength.toNat
    iterTlvsFrom payload (payload.length + 1) 0

/-- `validate_envelope`, with the CRC of the platform; the error is the text of the
`ProtocolError`. -/
def validateEnvelope (crc32 : List UInt8 → UInt32) (data : List UInt8) :
    Except String EnvelopeInfo :=
  if data.length < 24 + 4 ∨ data.take 4 ≠ [0x4c, 0x53, 0x54, 0x50] then
    .error "invalid LEP magic or truncated header"
  else
    let version := get8 data 4
    let flags := get8 data 7
    if version ≠ 1 then .error ("unsupported LEP version " ++ toString version.toNat)
    else if flags &&& ~~~0x0f ≠ 0 then .error "unknown LEP flags"
    else
      let authenticated := hasFlag flags lsEnvelopeAuthenticated
      let encrypted := hasFlag flags lsEnvelopeEncrypted
      let aead := hasFlag flags lsEnvelopeAead
      if encrypted ≠ aead ∨ (aead ∧ ¬ authenticated) then
        .error "inconsistent LEP security flags"
      else
        let payloadLength := get32 data 16
        if get32 data 20 ≠ crc32 (data.take 20) then .error "invalid LEP header CRC"
        else
          let metadataSize := if encrypted then 28 else 0
          let authenticationSize := if encrypted then 16 else if authenticated then 32 else 0
          let expected := 24 + metadataSize + payloadLength.toNat + 4 + authenticationSize
          if expected ≠ data.length then .error "LEP length does not match its header"
          else
            let crcOffset := 24 + metadataSize + payloadLength.toNat
            if get32 data crcOffset ≠ crc32 ((data.take crcOffset).drop 24) then
              .error "invalid LEP payload CRC"
            else
              let info : EnvelopeInfo :=
                { version := version, eventType := get8 data 5, architecture := get8 data 6
                  flags := flags, sequence := get32 data 8, eventId := get32 data 12
                  payloadLength := payloadLength }
              if encrypted then .ok info
              else
                match (iterTlvs data (some payloadLength)).2 with
                | some message => .error message
                | none => .ok info

/-- The collector's loop yields the fields of a sequence and raises nothing. -/
lemma iterTlvsFrom_encode (payload : List UInt8) (ts : List Field) :
    ∀ fuel offset, payload.drop offset = encode ts → payload.length - offset < fuel →
      iterTlvsFrom payload fuel offset = (ts.map Field.pair, none) := by
  induction ts with
  | nil =>
      rintro (_ | fuel) offset hl hf
      · omega
      · have hend : ¬ offset < payload.length := by simpa using hl
        rw [iterTlvsFrom, if_neg hend]
        rfl
  | cons x ts ih =>
      rintro (_ | fuel) offset hl hf
      · omega
      · have hx := at_of_drop (by rw [hl, encode_cons])
        rw [iterTlvsFrom, if_pos hx.lt, if_neg hx.room.not_gt, if_neg hx.not_bad, hx.type_eq,
          hx.length_eq, hx.value_eq, ih fuel _ hx.drop_eq (by have := hx.lt; omega)]
        rfl

/-- The collector's loop raises an error on what is not a sequence of fields. -/
lemma iterTlvsFrom_raises (payload l : List UInt8) :
    ∀ fuel offset, payload.drop offset = l → payload.length - offset < fuel →
      (¬ ∃ ts, l = encode ts) → (iterTlvsFrom payload fuel offset).2 ≠ none := by
  induction l using wire_induction with
  | nil => exact fun _ _ _ _ h => absurd ⟨[], rfl⟩ h
  | malformed l hne hm =>
      rintro (_ | fuel) offset hl hf _
      · omega
      · subst hl
        have hlt : offset < payload.length := by simpa using hne
        rw [iterTlvsFrom, if_pos hlt]
        by_cases h4 : payload.length - offset < 4
        · simp [h4]
        · rw [if_neg h4, if_pos (malformed_at hm (by omega))]
          simp
  | field x rest ih =>
      rintro (_ | fuel) offset hl hf hno
      · omega
      · have hx := at_of_drop hl
        rw [iterTlvsFrom, if_pos hx.lt, if_neg hx.room.not_gt, if_neg hx.not_bad, hx.length_eq]
        refine ih fuel _ hx.drop_eq (by have := hx.lt; omega) fun ⟨us, hus⟩ => hno ⟨x :: us, ?_⟩
        rw [encode_cons, hus]

/-- `iter_tlvs` on an envelope that is long enough and not encrypted walks over its
payload. -/
lemma iterTlvs_eq {data : List UInt8} (hlen : 24 ≤ data.length)
    (henc : hasFlag (get8 data 7) lsEnvelopeEncrypted = false) (payloadLength : Option UInt32)
    (hp : payloadLength.getD (get32 data 16) = get32 data 16) :
    iterTlvs data payloadLength
      = iterTlvsFrom (plainPayload data) ((plainPayload data).length + 1) 0 := by
  have h8 : 8 ≤ data.length := by omega
  have h24 : ¬ (payloadLength = none ∧ data.length < 24) := by omega
  simp only [iterTlvs, if_pos h8, henc, Bool.false_eq_true, if_false, if_neg h24, hp]
  rfl

/-- The record that `validate_envelope` returns. -/
def infoOf (data : List UInt8) : EnvelopeInfo :=
  { version := get8 data 4, eventType := get8 data 5, architecture := get8 data 6
    flags := get8 data 7, sequence := get32 data 8, eventId := get32 data 12
    payloadLength := get32 data 16 }

lemma magic_iff {data : List UInt8} (h : 4 ≤ data.length) :
    data.take 4 = [0x4c, 0x53, 0x54, 0x50] ↔ get32 data 0 = lsMagic := by
  have hbytes : le32 (get32 data 0) = data.take 4 := le32_get32 (by omega)
  have hmagic : le32 lsMagic = [0x4c, 0x53, 0x54, 0x50] := by decide
  rw [← hbytes, ← hmagic]
  refine ⟨fun heq => ?_, fun heq => by rw [heq]⟩
  rw [← get32_le32_self (get32 data 0), heq, get32_le32_self]

lemma flags_ok_iff (flags : UInt8) :
    (¬ (flags &&& ~~~0x0f ≠ 0) ∧
      ¬ (hasFlag flags lsEnvelopeEncrypted ≠ hasFlag flags lsEnvelopeAead ∨
        (hasFlag flags lsEnvelopeAead ∧ ¬ hasFlag flags lsEnvelopeAuthenticated))) ↔
      flagsValid flags = true := by
  rw [flagsValid, lsEnvelopeKnownFlags]
  cases hasFlag flags lsEnvelopeEncrypted <;> cases hasFlag flags lsEnvelopeAead <;> simp

/-- The last check of `validate_envelope`. -/
lemma iter_check_iff {data : List UInt8} (hlen : 24 ≤ data.length) (j : EnvelopeInfo) :
    (if hasFlag (get8 data 7) lsEnvelopeEncrypted then .ok (infoOf data)
      else
        match (iterTlvs data (some (get32 data 16))).2 with
        | some message => .error message
        | none => Except.ok (infoOf data) : Except String EnvelopeInfo) = .ok j ↔
      (hasFlag (get8 data 7) lsEnvelopeEncrypted = false → ∃ ts, plainPayload data = encode ts) ∧
        j = infoOf data := by
  cases henc : hasFlag (get8 data 7) lsEnvelopeEncrypted with
  | true => simp [eq_comm]
  | false =>
      rw [iterTlvs_eq hlen henc _ rfl]
      by_cases hts : ∃ ts, plainPayload data = encode ts
      · obtain ⟨ts, hts⟩ := hts
        rw [iterTlvsFrom_encode (plainPayload data) ts _ 0 hts (by omega)]
        simp [hts, eq_comm]
      · cases hraise : (iterTlvsFrom (plainPayload data) ((plainPayload data).length + 1) 0).2 with
        | none => exact absurd hraise (iterTlvsFrom_raises _ _ _ 0 rfl (by omega) hts)
        | some message => simp [hts]

/-- `validate_envelope` accepts the well-formed envelopes. -/
lemma validateEnvelope_ok_iff {crc32 : List UInt8 → UInt32} (hcrc : ∀ l, crc32 l = lsCrc32 l)
    (data : List UInt8) (j : EnvelopeInfo) :
    validateEnvelope crc32 data = .ok j ↔ WellFormed data ∧ j = infoOf data := by
  have hmeta : (if hasFlag (get8 data 7) lsEnvelopeEncrypted then 28 else 0)
      = metadataSize (get8 data 7) := rfl
  have hauth : (if hasFlag (get8 data 7) lsEnvelopeEncrypted then 16
      else if hasFlag (get8 data 7) lsEnvelopeAuthenticated then 32 else 0)
      = authenticationSize (get8 data 7) := rfl
  have hslice : (data.take (24 + metadataSize (get8 data 7) + (get32 data 16).toNat)).drop 24
      = (data.drop 24).take (metadataSize (get8 data 7) + (get32 data 16).toNat) := by
    rw [List.drop_take]
    congr 1
    omega
  simp only [validateEnvelope, guard_eq_ok, hmeta, hauth, hcrc, hslice]
  constructor
  · rintro ⟨h0, hv, hknown, hsec, hheader, hlen, hpayload, hrest⟩
    obtain ⟨hshort, hmagic⟩ := not_or.mp h0
    obtain ⟨hp, hj⟩ := (iter_check_iff (by omega) j).mp hrest
    exact ⟨⟨by rw [lsLepHeaderSize]; omega, (magic_iff (by omega)).mp (not_not.mp hmagic),
      not_not.mp hv, (flags_ok_iff _).mp ⟨hknown, hsec⟩, by rw [lsLepHeaderSize]; omega,
      not_not.mp hheader, not_not.mp hpayload, hp⟩, hj⟩
  · rintro ⟨hw, hj⟩
    have hge : 24 + 4 ≤ data.length := hw.length_ge
    have heq : data.length = 24 + metadataSize (get8 data 7) + 4 + authenticationSize (get8 data 7)
        + (get32 data 16).toNat := hw.length_eq
    obtain ⟨hknown, hsec⟩ := (flags_ok_iff _).mpr hw.flags
    exact ⟨not_or.mpr ⟨by omega, not_not.mpr ((magic_iff (by omega)).mpr hw.magic)⟩,
      not_not.mpr hw.version, hknown, hsec, not_not.mpr hw.header_crc, by omega,
      not_not.mpr hw.payload_crc, (iter_check_iff (by omega) j).mpr ⟨hw.payload, hj⟩⟩

end Collector

/-! ### Agreement -/

/-- **The three decoders agree.** They accept the same byte strings, report the same header
fields, and walk over the same fields where the payload is not encrypted. -/
theorem decoders_agree (usizeMax : ℕ) (crc32 : List UInt8 → UInt32) (data : List UInt8)
    (hcrc : ∀ l, crc32 l = lsCrc32 l) (hsize : data.length ≤ usizeMax) :
    ((∃ i, lsEnvelopeValidate data = .ok i) ↔ ∃ e, Rust.parse usizeMax data = .ok e) ∧
    ((∃ e, Rust.parse usizeMax data = .ok e) ↔
      ∃ j, Collector.validateEnvelope crc32 data = .ok j) ∧
    ∀ i e j, lsEnvelopeValidate data = .ok i → Rust.parse usizeMax data = .ok e →
      Collector.validateEnvelope crc32 data = .ok j →
      (e.version, e.messageType, e.architecture, e.flags, e.sequence, e.eventId)
        = (i.version, i.type, i.architecture, i.flags, i.sequence, i.eventId) ∧
      (j.version, j.eventType, j.architecture, j.flags, j.sequence, j.eventId)
        = (i.version, i.type, i.architecture, i.flags, i.sequence, i.eventId) ∧
      (hasFlag i.flags lsEnvelopeEncrypted = false → ∃ fields,
        lsEnvelopeVisit collect data [] = .ok () fields ∧
        (∀ fuel, data.length < fuel → e.tlvs.items fuel = fields.map .ok) ∧
        Collector.iterTlvs data none = (fields, none)) := by
  simp only [lsEnvelopeValidate_ok_iff, Rust.parse_ok_iff hsize,
    Collector.validateEnvelope_ok_iff hcrc]
  refine ⟨by simp, by simp, ?_⟩
  rintro i e j ⟨hw, rfl⟩ ⟨-, rfl⟩ ⟨-, rfl⟩
  refine ⟨rfl, rfl, fun henc => ?_⟩
  obtain ⟨ts, hts⟩ := hw.payload henc
  have hlen : lsLepHeaderSize + 4 ≤ data.length := hw.length_ge
  refine ⟨ts.map Field.pair, ?_, fun fuel hf => ?_, ?_⟩
  · rw [lsEnvelopeVisit_eq collect hw henc hts, forM_collect, List.nil_append]
  · -- every field takes at least four bytes of the payload, so the iterator ends in time
    have hfuel : ts.length < fuel := by
      have h1 := length_le_encode ts
      have h2 : (plainPayload data).length ≤ data.length := by simp [plainPayload]
      rw [hts] at h2
      omega
    have htlvs : (Rust.envelopeOf data).tlvs
        = { remaining := encode ts, failed := false, encrypted := false } := by
      have henc' : (Rust.envelopeOf data).encrypted = false := henc
      rw [Rust.Envelope.tlvs, Rust.envelopeOf_payload henc, hts, henc']
    rw [htlvs, Rust.items_encode ts fuel hfuel, List.map_map]
    rfl
  · rw [Collector.iterTlvs_eq (by rw [lsLepHeaderSize] at hlen; omega) henc none rfl,
      Collector.iterTlvsFrom_encode (plainPayload data) ts _ 0 hts (by omega)]

theorem decoders_agree_basicVector :
    (∃ i, lsEnvelopeValidate basicVector = .ok i) ∧
    (∃ e, Rust.parse 0xffffffff basicVector = .ok e) ∧
    ∃ j, Collector.validateEnvelope lsCrc32 basicVector = .ok j := by
  have h := decoders_agree 0xffffffff lsCrc32 basicVector (fun _ => rfl) (by decide)
  have hc : ∃ i, lsEnvelopeValidate basicVector = .ok i :=
    ⟨⟨1, 2, 0, 0, 7, 9, 6⟩, by decide +kernel⟩
  exact ⟨hc, h.1.mp hc, h.2.1.mp (h.1.mp hc)⟩

end Latch
