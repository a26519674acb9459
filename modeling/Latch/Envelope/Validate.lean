
/-
The structural decoder of `src/envelope/lep.c`.

A LEP envelope is a 24-byte header, the nonce and key id of an encrypted one, the
payload, a CRC, and a tag or a MAC. `lsEnvelopeValidate` checks the header, the
length it announces, both CRCs and, where the payload is not encrypted, that it is
a sequence of fields; `lsEnvelopeVisit` hands these fields to a visitor.

`WellFormed` says what is accepted, in terms of the bytes alone, and
`lsEnvelopeValidate_ok_iff` that `lsEnvelopeValidate` decides it.
-/
import Latch.Core.Util
import Latch.Lib.Exec
import Latch.Lib.Tlv

namespace Latch

open Bytes Exec Tlv

/-- `LS_MAGIC`, the letters `LSTP`. -/
def lsMagic : UInt32 := 0x5054534c

/-- `LS_LEP_HEADER_SIZE`. -/
def lsLepHeaderSize : ℕ := 24

/-- `LS_LEP_MIN_SUPPORTED_VERSION`. -/
def lsLepMinSupportedVersion : UInt8 := 1

/-- `LS_LEP_MAX_SUPPORTED_VERSION`. -/
def lsLepMaxSupportedVersion : UInt8 := 1

/-- `LS_ENVELOPE_AUTHENTICATED`. -/
def lsEnvelopeAuthenticated : UInt8 := 1

/-- `LS_ENVELOPE_ENCRYPTED`. -/
def lsEnvelopeEncrypted : UInt8 := 2

/-- `LS_ENVELOPE_AEAD`. -/
def lsEnvelopeAead : UInt8 := 4

/-- `LS_ENVELOPE_TRUNCATED`. -/
def lsEnvelopeTruncated : UInt8 := 8

/-- `LS_ENVELOPE_KNOWN_FLAGS`. -/
def lsEnvelopeKnownFlags : UInt8 := 0x0f

/-- `LS_ENVELOPE_SECURITY_METADATA_SIZE`: a 24-byte nonce and a key id. -/
def lsEnvelopeSecurityMetadataSize : ℕ := 28

/-- `LS_AEAD_TAG_SIZE`. -/
def lsAeadTagSize : ℕ := 16

/-- `LS_HMAC_SHA256_SIZE`. -/
def lsHmacSha256Size : ℕ := 32

/-- A flag is set. -/
def hasFlag (flags flag : UInt8) : Bool := flags &&& flag ≠ 0

/-- `flags_valid`. -/
def flagsValid (flags : UInt8) : Bool :=
  if flags &&& ~~~lsEnvelopeKnownFlags ≠ 0 then false
  else if hasFlag flags lsEnvelopeEncrypted ≠ hasFlag flags lsEnvelopeAead then false
  else !hasFlag flags lsEnvelopeAead || hasFlag flags lsEnvelopeAuthenticated

/-- The size of the nonce and the key id between the header and the payload. -/
def metadataSize (flags : UInt8) : ℕ :=
  if hasFlag flags lsEnvelopeEncrypted then lsEnvelopeSecurityMetadataSize else 0

/-- The size of the tag or the MAC at the end. -/
def authenticationSize (flags : UInt8) : ℕ :=
  if hasFlag flags lsEnvelopeEncrypted then lsAeadTagSize
  else if hasFlag flags lsEnvelopeAuthenticated then lsHmacSha256Size else 0

/-- `ls_envelope_info_t`. -/
structure EnvelopeInfo where
  version : UInt8
  type : UInt8
  architecture : UInt8
  flags : UInt8
  sequence : UInt32
  eventId : UInt32
  payloadLength : UInt32
  deriving DecidableEq, Repr

/-- The loop of `validate_payload` from `offset` on. -/
def validatePayloadFrom (payload : List UInt8) : ℕ → ℕ → Except Errno Unit
  | 0, _ => .ok ()
  | fuel + 1, offset =>
    if offset < payload.length then
      if payload.length - offset < 4 then .error .ecorrupt
      else
        let fieldLength := (get16 payload (offset + 2)).toNat
        if get16 payload offset = 0 ∨ payload.length - (offset + 4) < fieldLength then
          .error .ecorrupt
        else validatePayloadFrom payload fuel (offset + 4 + fieldLength)
    else .ok ()

/-- `validate_payload`. A turn of its loop moves on by at least four bytes. -/
def validatePayload (payload : List UInt8) : Except Errno Unit :=
  validatePayloadFrom payload (payload.length + 1) 0

/-- The `payload_length` bytes behind the header. -/
def plainPayload (data : List UInt8) : List UInt8 :=
  (data.drop lsLepHeaderSize).take (get32 data 16).toNat

/-- The fields of the header that are reported. -/
def envelopeInfo (data : List UInt8) : EnvelopeInfo :=
  { version := get8 data 4, type := get8 data 5, architecture := get8 data 6
    flags := get8 data 7, sequence := get32 data 8, eventId := get32 data 12
    payloadLength := get32 data 16 }

/-- `ls_envelope_validate`. -/
def lsEnvelopeValidate (data : List UInt8) : Except Errno EnvelopeInfo :=
  if data.length < lsLepHeaderSize + 4 ∨ get32 data 0 ≠ lsMagic then .error .ecorrupt
  else if get8 data 4 < lsLepMinSupportedVersion ∨ lsLepMaxSupportedVersion < get8 data 4 then
    .error .ecorrupt
  else
    let flags := get8 data 7
    if ¬ flagsValid flags then .error .ecorrupt
    else
      let payloadLength := (get32 data 16).toNat
      let overhead := lsLepHeaderSize + metadataSize flags + 4 + authenticationSize flags
      if data.length < overhead ∨ data.length - overhead < payloadLength ∨
          data.length ≠ overhead + payloadLength then
        .error .ecorrupt
      else
        let crcOffset := lsLepHeaderSize + metadataSize flags + payloadLength
        if get32 data 20 ≠ lsCrc32 (data.take 20) ∨
            get32 data crcOffset ≠
              lsCrc32 ((data.drop lsLepHeaderSize).take (metadataSize flags + payloadLength)) then
          .error .ecorrupt
        else if hasFlag flags lsEnvelopeEncrypted then .ok (envelopeInfo data)
        else
          match validatePayload (plainPayload data) with
          | .error e => .error e
          | .ok () => .ok (envelopeInfo data)

/-- `ls_envelope_is_truncated`. -/
def lsEnvelopeIsTruncated (info : EnvelopeInfo) : Bool := hasFlag info.flags lsEnvelopeTruncated

/-! ### The visitor -/

section

variable {σ : Type}

/-- `ls_tlv_visitor_t`, with the context as its state. -/
abbrev Visitor (σ : Type) := UInt16 → List UInt8 → EStateM Errno σ Unit

/-- The loop of `visit_payload` from `offset` on. -/
def visitPayloadFrom (visitor : Visitor σ) (payload : List UInt8) : ℕ → ℕ → EStateM Errno σ Unit
  | 0, _ => pure ()
  | fuel + 1, offset =>
    if offset < payload.length then
      if payload.length - offset < 4 then throw .ecorrupt
      else
        let type := get16 payload offset
        let fieldLength := (get16 payload (offset + 2)).toNat
        if type = 0 ∨ payload.length - (offset + 4) < fieldLength then throw .ecorrupt
        else do
          visitor type ((payload.drop (offset + 4)).take fieldLength)
          visitPayloadFrom visitor payload fuel (offset + 4 + fieldLength)
    else pure ()

/-- `visit_payload`. -/
def visitPayload (visitor : Visitor σ) (payload : List UInt8) : EStateM Errno σ Unit :=
  visitPayloadFrom visitor payload (payload.length + 1) 0

/-- `ls_envelope_visit`. -/
def lsEnvelopeVisit (visitor : Visitor σ) (data : List UInt8) : EStateM Errno σ Unit :=
  match lsEnvelopeValidate data with
  | .error e => throw e
  | .ok info =>
    if hasFlag info.flags lsEnvelopeEncrypted then throw .eauth
    else visitPayload visitor (plainPayload data)

/-- The visitor that notes what it is shown. -/
def collect : Visitor (List (UInt16 × List UInt8)) := fun type value =>
  modify fun seen => seen ++ [(type, value)]

end

variable {σ : Type} (payload data : List UInt8) (info : EnvelopeInfo)

/-! ### What the loops accept and deliver -/

/-- From `offset` on `validate_payload` accepts what is a sequence of fields, and
nothing else. -/
lemma validatePayloadFrom_spec (l : List UInt8) :
    ∀ fuel offset, payload.drop offset = l → payload.length - offset < fuel →
      ((∃ ts, l = encode ts) → validatePayloadFrom payload fuel offset = .ok ()) ∧
      ((¬ ∃ ts, l = encode ts) → validatePayloadFrom payload fuel offset = .error .ecorrupt) := by
  induction l using wire_induction with
  | nil =>
      rintro (_ | fuel) offset hl hf
      · omega
      · have hend : ¬ offset < payload.length := by simpa using hl
        rw [validatePayloadFrom, if_neg hend]
        exact ⟨fun _ => rfl, fun h => absurd ⟨[], rfl⟩ h⟩
  | malformed l hne hm =>
      rintro (_ | fuel) offset hl hf
      · omega
      · subst hl
        have hlt : offset < payload.length := by simpa using hne
        refine ⟨fun ⟨ts, hts⟩ => absurd hts (encode_ne_of_malformed hne hm ts), fun _ => ?_⟩
        rw [validatePayloadFrom, if_pos hlt]
        by_cases h4 : payload.length - offset < 4
        · rw [if_pos h4]
        · rw [if_neg h4, if_pos (malformed_at hm (by omega))]
  | field x rest ih =>
      rintro (_ | fuel) offset hl hf
      · omega
      · have hx := at_of_drop hl
        rw [validatePayloadFrom, if_pos hx.lt, if_neg hx.room.not_gt, if_neg hx.not_bad,
          hx.length_eq]
        have h := ih fuel _ hx.drop_eq (by have := hx.lt; omega)
        have hex : (∃ ts, x.bytes ++ rest = encode ts) ↔ ∃ us, rest = encode us := by
          simp only [bytes_append_eq_encode]
          exact ⟨fun ⟨_, us, _, h⟩ => ⟨us, h⟩, fun ⟨us, h⟩ => ⟨_, us, rfl, h⟩⟩
        rwa [hex]

/-- `validate_payload` accepts the sequences of fields. -/
lemma validatePayload_ok_iff :
    validatePayload payload = .ok () ↔ ∃ ts, payload = encode ts := by
  have h := validatePayloadFrom_spec payload payload (payload.length + 1) 0 rfl (by omega)
  refine ⟨fun hok => ?_, h.1⟩
  by_contra hno
  rw [validatePayload, h.2 hno] at hok
  cases hok

/-- `visit_payload` shows the fields in their order, until the visitor stops. -/
lemma visitPayloadFrom_encode (visitor : Visitor σ) (payload : List UInt8)
    (ts : List Field) :
    ∀ fuel offset, payload.drop offset = encode ts → payload.length - offset < fuel →
      visitPayloadFrom visitor payload fuel offset
        = ts.forM fun x => visitor x.type x.value := by
  induction ts with
  | nil =>
      rintro (_ | fuel) offset hl hf
      · omega
      · have hend : ¬ offset < payload.length := by simpa using hl
        rw [visitPayloadFrom, if_neg hend]
        rfl
  | cons x ts ih =>
      rintro (_ | fuel) offset hl hf
      · omega
      · have hx := at_of_drop (by rw [hl, encode_cons])
        rw [visitPayloadFrom, if_pos hx.lt, if_neg hx.room.not_gt, if_neg hx.not_bad,
          hx.type_eq, hx.length_eq, hx.value_eq, ih fuel _ hx.drop_eq (by have := hx.lt; omega)]
        rfl

lemma visitPayload_encode (visitor : Visitor σ) (ts : List Field) :
    visitPayload visitor (encode ts) = ts.forM fun x => visitor x.type x.value :=
  visitPayloadFrom_encode visitor (encode ts) ts _ 0 rfl (by omega)

/-- The collecting visitor ends with all fields. -/
lemma forM_collect (ts : List Field) (seen : List (UInt16 × List UInt8)) :
    (ts.forM fun x => collect x.type x.value) seen
      = EStateM.Result.ok () (seen ++ ts.map Field.pair) := by
  induction ts generalizing seen with
  | nil => simp; rfl
  | cons x ts ih =>
      change (ts.forM fun x => collect x.type x.value) (seen ++ [(x.type, x.value)]) = _
      rw [ih]
      simp [Field.pair]

/-! ### Well-formed envelopes -/

/-- An envelope as the format describes it. -/
structure WellFormed (data : List UInt8) : Prop where
  length_ge : lsLepHeaderSize + 4 ≤ data.length
  magic : get32 data 0 = lsMagic
  version : get8 data 4 = 1
  flags : flagsValid (get8 data 7) = true
  length_eq : data.length = lsLepHeaderSize + metadataSize (get8 data 7) + 4 +
    authenticationSize (get8 data 7) + (get32 data 16).toNat
  header_crc : get32 data 20 = lsCrc32 (data.take 20)
  payload_crc :
    get32 data (lsLepHeaderSize + metadataSize (get8 data 7) + (get32 data 16).toNat) =
      lsCrc32 ((data.drop lsLepHeaderSize).take
        (metadataSize (get8 data 7) + (get32 data 16).toNat))
  payload : hasFlag (get8 data 7) lsEnvelopeEncrypted = false →
    ∃ ts, plainPayload data = encode ts

lemma version_supported_iff (v : UInt8) :
    ¬ (v < lsLepMinSupportedVersion ∨ lsLepMaxSupportedVersion < v) ↔ v = 1 := by
  rw [lsLepMinSupportedVersion, lsLepMaxSupportedVersion, ← UInt8.toNat_inj,
    UInt8.lt_iff_toNat_lt, UInt8.lt_iff_toNat_lt, UInt8.toNat_one]
  omega

/-- The last check of `ls_envelope_validate`. -/
lemma payload_check_iff :
    (if hasFlag (get8 data 7) lsEnvelopeEncrypted then .ok (envelopeInfo data)
      else
        match validatePayload (plainPayload data) with
        | .error e => .error e
        | .ok () => Except.ok (envelopeInfo data) : Except Errno EnvelopeInfo) = .ok info ↔
      (hasFlag (get8 data 7) lsEnvelopeEncrypted = false → ∃ ts, plainPayload data = encode ts) ∧
        info = envelopeInfo data := by
  cases henc : hasFlag (get8 data 7) lsEnvelopeEncrypted with
  | true => simp [eq_comm]
  | false =>
      rw [← validatePayload_ok_iff]
      cases validatePayload (plainPayload data) with
      | error e => simp
      | ok u => simp [eq_comm]

/-- `ls_envelope_validate` accepts the well-formed envelopes and reports their header. -/
theorem lsEnvelopeValidate_ok_iff :
    lsEnvelopeValidate data = .ok info ↔ WellFormed data ∧ info = envelopeInfo data := by
  simp only [lsEnvelopeValidate, guard_eq_ok, payload_check_iff, version_supported_iff]
  constructor
  · rintro ⟨h0, hv, hf, hl, hc, hp, hi⟩
    obtain ⟨hlen, hmagic⟩ := not_or.mp h0
    obtain ⟨hheader, hpayload⟩ := not_or.mp hc
    exact ⟨⟨by omega, not_not.mp hmagic, hv, not_not.mp hf, by omega, not_not.mp hheader,
      not_not.mp hpayload, hp⟩, hi⟩
  · rintro ⟨h, hi⟩
    have hge := h.length_ge
    have heq := h.length_eq
    exact ⟨not_or.mpr ⟨by omega, not_not.mpr h.magic⟩, h.version, not_not.mpr h.flags, by omega,
      not_or.mpr ⟨not_not.mpr h.header_crc, not_not.mpr h.payload_crc⟩, h.payload, hi⟩

/-- `ls_envelope_visit` shows the fields of a well-formed envelope that is not
encrypted. -/
lemma lsEnvelopeVisit_eq (visitor : Visitor σ) {data : List UInt8} {ts : List Field}
    (h : WellFormed data) (henc : hasFlag (get8 data 7) lsEnvelopeEncrypted = false)
    (hts : plainPayload data = encode ts) :
    lsEnvelopeVisit visitor data = ts.forM fun x => visitor x.type x.value := by
  have hv := (lsEnvelopeValidate_ok_iff data (envelopeInfo data)).mpr ⟨h, rfl⟩
  have hflags : hasFlag (envelopeInfo data).flags lsEnvelopeEncrypted = false := henc
  simp only [lsEnvelopeVisit, hv, hflags, hts, visitPayload_encode, Bool.false_eq_true, if_false]

/-- The vector that the tests of all three decoders share. -/
def basicVector : List UInt8 :=
  [0x4c, 0x53, 0x54, 0x50, 0x01, 0x02, 0x00, 0x00, 0x07, 0x00, 0x00, 0x00, 0x09, 0x00, 0x00,
    0x00, 0x06, 0x00, 0x00, 0x00, 0x74, 0xdd, 0xc4, 0x89, 0x01, 0x00, 0x02, 0x00, 0xaa, 0xbb,
    0xea, 0x84, 0xcc, 0xd8]

end Latch
