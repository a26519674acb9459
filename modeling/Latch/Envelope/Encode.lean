
/-
The envelope encoder of `src/envelope/lep.c`.

`lsEnvelopeEncode` lets `putPayload` fill the payload behind the room for the header
and, with an AEAD key, for the nonce and the key id; then it writes the header and
seals what stands in the buffer: with a CRC alone, with a CRC and an HMAC, or encrypted
with a CRC and a tag. Every exit with an error wipes what was written so far.

* `frame`: an envelope as the concatenation of its parts;
* `wellFormed_frame`: a frame whose parts have the sizes that its flags announce is
  well formed, and reports what it was made of;
* `lsEnvelopeEncode_spec`: what the encoder leaves in the buffer is a frame.
-/
import Latch.Envelope.Sections
import Latch.Envelope.Validate

namespace Latch

open Bytes Exec Tlv

/-! ### Cryptography -/

/-- `LS_XCHACHA20_NONCE_SIZE` random bytes. -/
abbrev Nonce := { bytes : List UInt8 // bytes.length = 24 }

/-- The functions behind `src/security/provider.c`, with the sizes of their results. A
provider may refuse to derive a key or to encrypt; what it encrypts, it decrypts. `residue`
is what a failed encryption leaves in the buffers of the ciphertext and of the tag. -/
structure Crypto where
  hmacSha256 : (key data : List UInt8) → List UInt8
  hkdfSha256 : (salt ikm info : List UInt8) → (outputLength : ℕ) → Except Errno (List UInt8)
  encrypt : (key nonce aad plaintext : List UInt8) → Except Errno (List UInt8 × List UInt8)
  residue : (key nonce aad plaintext : List UInt8) → List UInt8 × List UInt8 :=
    fun _ _ _ _ => ([], [])
  decrypt : (key nonce aad ciphertext tag : List UInt8) → Except Errno (List UInt8)
  hmac_length : ∀ key data, (hmacSha256 key data).length = lsHmacSha256Size
  encrypt_length : ∀ {key nonce aad plaintext ciphertext tag},
    encrypt key nonce aad plaintext = .ok (ciphertext, tag) →
      ciphertext.length = plaintext.length ∧ tag.length = lsAeadTagSize
  decrypt_encrypt : ∀ {key nonce aad plaintext ciphertext tag},
    encrypt key nonce aad plaintext = .ok (ciphertext, tag) →
      decrypt key nonce aad ciphertext tag = .ok plaintext

/-- `ls_security_enabled`. -/
def lsSecurityEnabled (rt : Runtime) : Bool := rt.securityKey.length ≠ 0

/-- The encoder encrypts. -/
def aead (rt : Runtime) : Bool :=
  lsSecurityEnabled rt && rt.securityPolicy.algorithm = .xchacha20Poly1305

/-- The text `laststate/latch/envelope/v1`. -/
def envelopeLabel : List UInt8 :=
  [0x6c, 0x61, 0x73, 0x74, 0x73, 0x74, 0x61, 0x74, 0x65, 0x2f, 0x6c, 0x61, 0x74, 0x63, 0x68,
    0x2f, 0x65, 0x6e, 0x76, 0x65, 0x6c, 0x6f, 0x70, 0x65, 0x2f, 0x76, 0x31]

/-- The key of one envelope. -/
def envelopeKey (c : Crypto) (rt : Runtime) (keyId sequence eventId : UInt32) :
    Except Errno (List UInt8) :=
  c.hkdfSha256 (le32 keyId ++ (le32 sequence ++ le32 eventId)) rt.securityKey envelopeLabel 32

/-! ### The header -/

/-- `LS_LEP_CURRENT_VERSION`. -/
def lsLepCurrentVersion : UInt8 := 1

/-- The header before its CRC. -/
def headerFields (type architecture flags : UInt8) (sequence eventId payloadLength : UInt32) :
    List UInt8 :=
  le32 lsMagic ++ ([lsLepCurrentVersion, type, architecture, flags] ++
    (le32 sequence ++ (le32 eventId ++ le32 payloadLength)))

/-- `write_header`. -/
def writeHeader (type architecture flags : UInt8) (sequence eventId payloadLength : UInt32) :
    List UInt8 :=
  let fields := headerFields type architecture flags sequence eventId payloadLength
  fields ++ le32 (lsCrc32 fields)

/-- The flags of an envelope, by the three facts that they report. -/
def flagsOf (secured aead truncated : Bool) : UInt8 :=
  (if secured then lsEnvelopeAuthenticated else 0) |||
    (if aead then lsEnvelopeEncrypted ||| lsEnvelopeAead else 0) |||
    (if truncated then lsEnvelopeTruncated else 0)

/-- The flags of an envelope. -/
def encodeFlags (rt : Runtime) (truncated : Bool) : UInt8 :=
  flagsOf (lsSecurityEnabled rt) (aead rt) truncated

/-- The architecture in the header: of the processor context, or else the configured one. -/
def encodeArchitecture (rt : Runtime) (event : Event) : UInt8 :=
  match event.cpu with
  | some cpu => cpu.architecture.toUInt8
  | none => rt.config.architecture.toUInt8

/-! ### The encoder -/

/-- What `ls_envelope_encode` reads and changes. -/
structure EncodeState where
  runtime : Runtime
  out : ℕ → UInt8
  length : ℕ

/-- The functions that fill the output buffer. -/
abbrev EnvelopeM := EStateM Errno EncodeState

/-- Copies bytes into the output buffer. -/
def store (off : ℕ) (bytes : List UInt8) : EnvelopeM Unit :=
  modify fun s => { s with out := Medium.write s.out off bytes }

/-- Bytes of the output buffer. -/
def load (off len : ℕ) : EnvelopeM (List UInt8) := (fun s => Medium.read s.out off len) <$> get

/-- `ls_secure_zero` on the start of the output buffer, and the exit with an error. -/
def wipe {α : Type} (len : ℕ) (e : Errno) : EnvelopeM α := do
  modify fun s => { s with out := Medium.fill s.out 0 len 0 }
  throw e

/-- `metadata_size` of the encoder. -/
def encodeMetadataSize (rt : Runtime) : ℕ := if aead rt then lsEnvelopeSecurityMetadataSize else 0

/-- `authentication_size` of the encoder. -/
def encodeAuthenticationSize (rt : Runtime) : ℕ :=
  if lsSecurityEnabled rt then if aead rt then lsAeadTagSize else lsHmacSha256Size else 0

/-- The writer of the payload, between the header and the trailer. -/
def payloadWriter (rt : Runtime) (capacity : ℕ) : Encoder :=
  { capacity := capacity - lsLepHeaderSize - encodeMetadataSize rt - 4 - encodeAuthenticationSize rt
    data := [], truncated := false, written := [] }

/-- Encrypts the payload in place and completes the envelope around it. -/
def sealAead (c : Crypto) (random : Except Errno Nonce) (sequence eventId : UInt32)
    (payloadLength : ℕ) : EnvelopeM Unit := do
  let rt := (← get).runtime
  let payloadOffset := lsLepHeaderSize + lsEnvelopeSecurityMetadataSize
  let crcOffset := payloadOffset + payloadLength
  match random with
  | .error e => wipe crcOffset e
  | .ok nonce => do
    store lsLepHeaderSize nonce.val
    if rt.lastEnvelopeNonce = some nonce.val then wipe crcOffset .eauth
    else do
      let keyId := rt.securityPolicy.keyId
      store (lsLepHeaderSize + 24) (le32 keyId)
      match envelopeKey c rt keyId sequence eventId with
      | .error e => wipe crcOffset e
      | .ok derived => do
        let aad ← load 0 payloadOffset
        let plaintext ← load payloadOffset payloadLength
        match c.encrypt derived nonce.val aad plaintext with
        | .error e => do
          let residue := c.residue derived nonce.val aad plaintext
          store payloadOffset (residue.1.take payloadLength)
          store (crcOffset + 4) (residue.2.take lsAeadTagSize)
          wipe (crcOffset + 4 + lsAeadTagSize) e
        | .ok (ciphertext, tag) => do
          store payloadOffset ciphertext
          store (crcOffset + 4) tag
          let covered ← load lsLepHeaderSize (lsEnvelopeSecurityMetadataSize + payloadLength)
          store crcOffset (le32 (lsCrc32 covered))
          modify fun s => { s with
            runtime := { s.runtime with lastEnvelopeNonce := some nonce.val }
            length := crcOffset + 4 + lsAeadTagSize }

/-- Completes an envelope that is not encrypted. -/
def sealPlain (c : Crypto) (payloadLength : ℕ) : EnvelopeM Unit := do
  let rt := (← get).runtime
  let crcOffset := lsLepHeaderSize + payloadLength
  let payload ← load lsLepHeaderSize payloadLength
  store crcOffset (le32 (lsCrc32 payload))
  if lsSecurityEnabled rt then do
    let covered ← load 0 (crcOffset + 4)
    store (crcOffset + 4) (c.hmacSha256 rt.securityKey covered)
    modify fun s => { s with length := crcOffset + 4 + lsHmacSha256Size }
  else modify fun s => { s with length := crcOffset + 4 }

/-- Completes the envelope around a payload of the given length. -/
def sealPayload (c : Crypto) (rt : Runtime) (random : Except Errno Nonce)
    (sequence eventId : UInt32) (payloadLength : ℕ) : EnvelopeM Unit :=
  if aead rt then sealAead c random sequence eventId payloadLength else sealPlain c payloadLength

/-- `ls_envelope_encode` into a buffer of `capacity` bytes. `random` is the answer of the
random provider, `mem` the memory of the application, `uptimeMs` the clock. -/
def lsEnvelopeEncode (b : Build) (c : Crypto) (bb : Blackbox) (mem : ℕ → UInt8)
    (uptimeMs : UInt32) (random : Except Errno Nonce) (event : Event) (capacity : ℕ)
    (sequence : UInt32) : EnvelopeM Unit := do
  let rt := (← get).runtime
  let payloadOffset := lsLepHeaderSize + encodeMetadataSize rt
  if capacity < payloadOffset + 4 + encodeAuthenticationSize rt then throw .einval
  else
    match putPayload b rt bb mem uptimeMs event (payloadWriter rt capacity) with
    | .error e payload => do
      store payloadOffset payload.data
      wipe (payloadOffset + payload.data.length) e
    | .ok _ payload => do
      store payloadOffset payload.data
      if 0xffffffff < payload.data.length then
        wipe (payloadOffset + payload.data.length) .eoverflow
      else do
        let eventId := lsCrc32 payload.data ^^^ sequence ^^^ lsHashString (some b.buildId)
        store 0 (writeHeader event.type.code (encodeArchitecture rt event)
          (encodeFlags rt payload.truncated) sequence eventId (UInt32.ofNat payload.data.length))
        sealPayload c rt random sequence eventId payload.data.length
        modify fun s => { s with
          runtime := { s.runtime with
            persistent := { s.runtime.persistent with lastSequence := sequence } } }

/-! ### Frames -/

/-- An envelope as the concatenation of its parts. -/
def frame (type architecture flags : UInt8) (sequence eventId : UInt32)
    (metadata body authentication : List UInt8) : List UInt8 :=
  writeHeader type architecture flags sequence eventId (UInt32.ofNat body.length) ++
    (metadata ++ (body ++ (le32 (lsCrc32 (metadata ++ body)) ++ authentication)))

section Frame

variable (type architecture flags : UInt8) (sequence eventId : UInt32)

@[simp] lemma headerFields_length (payloadLength : UInt32) :
    (headerFields type architecture flags sequence eventId payloadLength).length = 20 := by
  simp [headerFields]

@[simp] lemma writeHeader_length (payloadLength : UInt32) :
    (writeHeader type architecture flags sequence eventId payloadLength).length
      = lsLepHeaderSize := by
  simp [writeHeader, lsLepHeaderSize]

variable (metadata body authentication : List UInt8)

/-- The fields of the header, read back from a frame. -/
lemma envelopeInfo_frame :
    envelopeInfo (frame type architecture flags sequence eventId metadata body authentication)
      = { version := lsLepCurrentVersion, type := type, architecture := architecture
          flags := flags, sequence := sequence, eventId := eventId
          payloadLength := UInt32.ofNat body.length } := by
  simp [envelopeInfo, frame, writeHeader, headerFields, get32_append_right, get8_append_right,
    get8_cons_succ, get32_cons_succ]

lemma frame_length :
    (frame type architecture flags sequence eventId metadata body authentication).length
      = lsLepHeaderSize + metadata.length + 4 + authentication.length + body.length := by
  simp [frame]
  omega

/-- What lies behind the header of a frame. -/
lemma frame_drop :
    (frame type architecture flags sequence eventId metadata body authentication).drop
        lsLepHeaderSize
      = metadata ++ (body ++ (le32 (lsCrc32 (metadata ++ body)) ++ authentication)) :=
  List.drop_left' (writeHeader_length ..)

/-- The CRC of the header of a frame covers the fields before it. -/
lemma header_crc_frame :
    get32 (frame type architecture flags sequence eventId metadata body authentication) 20
      = lsCrc32
        ((frame type architecture flags sequence eventId metadata body authentication).take 20) := by
  have hsplit : frame type architecture flags sequence eventId metadata body authentication
      = headerFields type architecture flags sequence eventId (UInt32.ofNat body.length) ++
        (le32 (lsCrc32 (headerFields type architecture flags sequence eventId
          (UInt32.ofNat body.length))) ++ (metadata ++ (body ++
            (le32 (lsCrc32 (metadata ++ body)) ++ authentication)))) := by
    rw [frame, writeHeader, List.append_assoc]
  rw [hsplit, List.take_left' (headerFields_length ..), get32_append_right (by simp)]
  simp

variable {type architecture flags sequence eventId metadata body authentication}

/-- The payload of a frame without metadata. -/
lemma plainPayload_frame (hb : body.length < 2 ^ 32) :
    plainPayload (frame type architecture flags sequence eventId [] body authentication)
      = body := by
  have hlen := congrArg EnvelopeInfo.payloadLength
    (envelopeInfo_frame type architecture flags sequence eventId [] body authentication)
  simp only [envelopeInfo] at hlen
  rw [plainPayload, hlen, frame_drop, UInt32.toNat_ofNat', Nat.mod_eq_of_lt hb]
  simp

/-- A frame is well formed if its flags are valid, its parts have the sizes that they
announce and a payload that is not encrypted is a sequence of fields. -/
lemma wellFormed_frame (hf : flagsValid flags = true) (hm : metadata.length = metadataSize flags)
    (ha : authentication.length = authenticationSize flags) (hb : body.length < 2 ^ 32)
    (hp : hasFlag flags lsEnvelopeEncrypted = false → ∃ ts, body = encode ts) :
    WellFormed (frame type architecture flags sequence eventId metadata body authentication) := by
  have hinfo := envelopeInfo_frame type architecture flags sequence eventId metadata body
    authentication
  simp only [envelopeInfo, EnvelopeInfo.mk.injEq] at hinfo
  obtain ⟨hversion, -, -, hflags, -, -, hlength⟩ := hinfo
  have hlen := frame_length type architecture flags sequence eventId metadata body authentication
  have hbody : (UInt32.ofNat body.length).toNat = body.length := by
    rw [UInt32.toNat_ofNat', Nat.mod_eq_of_lt hb]
  refine ⟨by omega, ?_, hversion, by rwa [hflags], ?_, header_crc_frame .., ?_, fun henc => ?_⟩
  · simp [frame, writeHeader, headerFields]
  · rw [hlen, hflags, hlength, hbody, hm, ha]
  · rw [hflags, hlength, hbody, frame_drop, ← hm, ← List.append_assoc metadata body,
      List.take_left' (by simp), frame, ← List.append_assoc metadata body, ← List.append_assoc,
      get32_append_right (by simp; omega)]
    simp [Nat.add_assoc]
  · rw [hflags] at henc
    have hnil : metadata = [] := by
      rw [← List.length_eq_zero_iff, hm, metadataSize, henc]
      rfl
    rw [hnil, plainPayload_frame hb]
    exact hp henc

end Frame

/-! ### What the encoder leaves in the buffer -/

section

variable {s : EncodeState} {H : Errno → EncodeState → Prop}

lemma sat_store {off : ℕ} {bytes : List UInt8} {Q : Unit → EncodeState → Prop} :
    Sat (store off bytes) s Q H ↔ Q () { s with out := Medium.write s.out off bytes } :=
  sat_modify _

lemma sat_load {off len : ℕ} {Q : List UInt8 → EncodeState → Prop} :
    Sat (load off len) s Q H ↔ Q (Medium.read s.out off len) s := by
  rw [load, sat_map, sat_get]

lemma returns_wipe {α : Type} {len : ℕ} {e : Errno} {Q : α → EncodeState → Prop} :
    Returns (wipe len e) s Q := by
  rw [Returns, wipe, sat_bind, sat_modify, sat_throw]
  trivial

end

variable {payload : List UInt8} {s : EncodeState} (c : Crypto)

/-- What stands behind the header of an envelope around `payload`, by the mode of the
encoder: the nonce and the key id, the payload or its encryption, the MAC or the tag. -/
def Sealed (c : Crypto) (rt : Runtime) (header : List UInt8) (sequence eventId : UInt32)
    (payload metadata body authentication : List UInt8) : Prop :=
  if aead rt then
    ∃ (nonce : Nonce) (derived : List UInt8),
      metadata = nonce.val ++ le32 rt.securityPolicy.keyId ∧
      envelopeKey c rt rt.securityPolicy.keyId sequence eventId = .ok derived ∧
      c.encrypt derived nonce.val (header ++ metadata) payload = .ok (body, authentication)
  else
    metadata = [] ∧ body = payload ∧
      authentication = if lsSecurityEnabled rt then
        c.hmacSha256 rt.securityKey (header ++ (payload ++ le32 (lsCrc32 payload))) else []

/-- Without encryption nothing can fail behind the payload. -/
lemma sealPlain_completes (s : EncodeState) (payloadLength : ℕ) :
    Completes (sealPlain c payloadLength) s := by
  rw [Completes, sealPlain, sat_bind, sat_get, sat_bind, sat_load, sat_bind, sat_store, sat_ite]
  constructor
  · intro _
    rw [sat_bind, sat_load, sat_bind, sat_store, sat_modify]
    trivial
  · intro _
    rw [sat_modify]
    trivial

lemma sealPlain_spec {header : List UInt8}
    (haead : aead s.runtime = false) (hh : Medium.read s.out 0 lsLepHeaderSize = header)
    (hp : Medium.read s.out lsLepHeaderSize payload.length = payload) (sequence eventId : UInt32) :
    Returns (sealPlain c payload.length) s fun _ s' =>
      s'.runtime = s.runtime ∧ ∃ authentication,
        Sealed c s.runtime header sequence eventId payload [] payload authentication ∧
        Medium.read s'.out 0 s'.length
          = header ++ (payload ++ (le32 (lsCrc32 payload) ++ authentication)) := by
  have hboth : Medium.read s.out 0 (lsLepHeaderSize + payload.length) = header ++ payload := by
    rw [Medium.read_add, hh, Nat.zero_add, hp]
  have hcrc : Medium.read (Medium.write s.out (lsLepHeaderSize + payload.length)
      (le32 (lsCrc32 payload))) 0 (lsLepHeaderSize + payload.length + 4)
      = header ++ (payload ++ le32 (lsCrc32 payload)) := by
    have h := Medium.read_write_append s.out 0 (lsLepHeaderSize + payload.length)
      (le32 (lsCrc32 payload))
    rwa [Nat.zero_add, le32_length, hboth, List.append_assoc] at h
  have hplain : ∀ authentication, (authentication = if lsSecurityEnabled s.runtime then
      c.hmacSha256 s.runtime.securityKey (header ++ (payload ++ le32 (lsCrc32 payload))) else []) →
      Sealed c s.runtime header sequence eventId payload [] payload authentication := by
    intro authentication h
    rw [Sealed, haead]
    exact ⟨rfl, rfl, h⟩
  rw [Returns, sealPlain, sat_bind, sat_get, sat_bind, sat_load, hp, sat_bind, sat_store, sat_ite]
  constructor
  · intro hsec
    rw [sat_bind, sat_load, hcrc, sat_bind, sat_store, sat_modify]
    refine ⟨rfl, _, hplain _ (if_pos hsec).symm, ?_⟩
    have h := Medium.read_write_append (Medium.write s.out (lsLepHeaderSize + payload.length)
      (le32 (lsCrc32 payload))) 0 (lsLepHeaderSize + payload.length + 4)
      (c.hmacSha256 s.runtime.securityKey (header ++ (payload ++ le32 (lsCrc32 payload))))
    rw [Nat.zero_add, c.hmac_length, hcrc] at h
    simpa using h
  · intro hsec
    rw [sat_modify]
    refine ⟨rfl, _, hplain _ (if_neg hsec).symm, ?_⟩
    simpa using hcrc

/-- The nonce and the key id stand between the header and the payload. -/
lemma read_metadata {m : ℕ → UInt8} {header : List UInt8} (nonce : Nonce) (keyId : UInt32)
    (hh : Medium.read m 0 lsLepHeaderSize = header)
    (hp : Medium.read m (lsLepHeaderSize + lsEnvelopeSecurityMetadataSize) payload.length
      = payload) :
    let m' := Medium.write (Medium.write m lsLepHeaderSize nonce.val) (lsLepHeaderSize + 24)
      (le32 keyId)
    Medium.read m' 0 (lsLepHeaderSize + lsEnvelopeSecurityMetadataSize)
        = header ++ (nonce.val ++ le32 keyId) ∧
      Medium.read m' (lsLepHeaderSize + lsEnvelopeSecurityMetadataSize) payload.length
        = payload := by
  intro m'
  have h₁ := Medium.read_write_append m 0 lsLepHeaderSize nonce.val
  have h₂ := Medium.read_write_append (Medium.write m lsLepHeaderSize nonce.val) 0
    (lsLepHeaderSize + 24) (le32 keyId)
  rw [Nat.zero_add, nonce.property, hh] at h₁
  rw [Nat.zero_add, le32_length, h₁, List.append_assoc] at h₂
  refine ⟨h₂, ?_⟩
  rw [(Medium.agreeOff_write _ _ _).read_eq (.inr (by rw [le32_length]; exact le_rfl)),
    (Medium.agreeOff_write _ _ _).read_eq (.inr (by
      rw [nonce.property, lsEnvelopeSecurityMetadataSize]; omega)), hp]

/-- The tag is written behind the place of the CRC, which is written last. -/
lemma read_sealed {m : ℕ → UInt8} {front metadata : List UInt8} {header : List UInt8}
    (body authentication : List UInt8) (hfront : front = header ++ metadata)
    (hm : Medium.read m 0 front.length = front) :
    let m' := Medium.write (Medium.write m front.length body) (front.length + body.length + 4)
      authentication
    Medium.read m' header.length (metadata.length + body.length) = metadata ++ body ∧
      ∀ crc : UInt32,
        Medium.read (Medium.write m' (front.length + body.length) (le32 crc)) 0
            (front.length + body.length + 4 + authentication.length)
          = header ++ (metadata ++ (body ++ (le32 crc ++ authentication))) := by
  intro m'
  have h₁ := Medium.read_write_append m 0 front.length body
  rw [Nat.zero_add, hm] at h₁
  have h₂ : Medium.read m' 0 (front.length + body.length) = front ++ body := by
    rw [← h₁]
    exact (Medium.agreeOff_write _ _ _).read_eq (.inl (by omega))
  have hlen : front.length = header.length + metadata.length := by
    rw [hfront, List.length_append]
  constructor
  · have h : ((Medium.read m' 0 (front.length + body.length)).drop header.length).take
        (metadata.length + body.length)
        = Medium.read m' (0 + header.length) (metadata.length + body.length) :=
      Medium.read_slice m' 0 (by omega)
    rw [h₂, Nat.zero_add, hfront, List.append_assoc, List.drop_left' rfl,
      List.take_of_length_le (by simp)] at h
    exact h.symm
  · intro crc
    have h₃ := Medium.read_write_append m' 0 (front.length + body.length) (le32 crc)
    rw [Nat.zero_add, le32_length, h₂] at h₃
    rw [Medium.read_add, h₃, Nat.zero_add,
      (Medium.agreeOff_write m' (front.length + body.length) (le32 crc)).read_eq
        (.inr (by rw [le32_length])), Medium.read_write_same, hfront]
    simp

/-- The nonce, the encryption, the tag and the CRC are written one after the other around
what is already there. -/
lemma sealAead_spec (random : Except Errno Nonce)
    {header : List UInt8} (haead : aead s.runtime = true)
    (hh : Medium.read s.out 0 lsLepHeaderSize = header)
    (hp : Medium.read s.out (lsLepHeaderSize + lsEnvelopeSecurityMetadataSize) payload.length
      = payload) (sequence eventId : UInt32) :
    Returns (sealAead c random sequence eventId payload.length) s fun _ s' =>
      (∃ nonce, s'.runtime = { s.runtime with lastEnvelopeNonce := some nonce }) ∧
      ∃ metadata body authentication,
        Sealed c s.runtime header sequence eventId payload metadata body authentication ∧
        Medium.read s'.out 0 s'.length = header ++ (metadata ++ (body ++
          (le32 (lsCrc32 (metadata ++ body)) ++ authentication))) := by
  rw [Returns, sealAead, sat_bind, sat_get]
  cases random with
  | error e => exact returns_wipe
  | ok nonce =>
  dsimp only
  rw [sat_bind, sat_store]
  refine .ite (fun _ => returns_wipe) fun _ => ?_
  rw [sat_bind, sat_store]
  cases hkey : envelopeKey c s.runtime s.runtime.securityPolicy.keyId sequence eventId with
  | error e => exact returns_wipe
  | ok derived =>
  dsimp only
  obtain ⟨hfront, hplain⟩ := read_metadata nonce s.runtime.securityPolicy.keyId hh hp
  rw [sat_bind, sat_load, sat_bind, sat_load, hfront, hplain]
  cases henc : c.encrypt derived nonce.val
      (header ++ (nonce.val ++ le32 s.runtime.securityPolicy.keyId)) payload with
  | error e =>
      dsimp only
      rw [sat_bind, sat_store, sat_bind, sat_store]
      exact returns_wipe
  | ok sealed =>
  obtain ⟨body, authentication⟩ := sealed
  dsimp only
  obtain ⟨hbody, htag⟩ := c.encrypt_length henc
  have hheader : header.length = lsLepHeaderSize := by rw [← hh, Medium.read_length]
  have hmeta : (nonce.val ++ le32 s.runtime.securityPolicy.keyId).length
      = lsEnvelopeSecurityMetadataSize := by
    rw [List.length_append, nonce.property, le32_length, lsEnvelopeSecurityMetadataSize]
  have hlen : (header ++ (nonce.val ++ le32 s.runtime.securityPolicy.keyId)).length
      = lsLepHeaderSize + lsEnvelopeSecurityMetadataSize := by
    rw [List.length_append, hheader, hmeta]
  obtain ⟨hcovered, hall⟩ := read_sealed body authentication rfl (by rw [hlen]; exact hfront)
  rw [hlen, hheader, hmeta, hbody] at hcovered
  simp only [hlen, hbody, htag] at hall
  rw [sat_bind, sat_store, sat_bind, sat_store, sat_bind, sat_load, sat_bind, sat_store, sat_modify]
  refine ⟨⟨_, rfl⟩, _, _, _, ?_, (hall _).trans (by rw [hcovered])⟩
  rw [Sealed, if_pos haead]
  exact ⟨nonce, derived, rfl, hkey, henc⟩

/-- The parts of an envelope have the sizes that the mode of the encoder asks for. -/
lemma Sealed.sizes {c : Crypto} {rt : Runtime} {header : List UInt8} {sequence eventId : UInt32}
    {metadata body authentication : List UInt8}
    (h : Sealed c rt header sequence eventId payload metadata body authentication) :
    metadata.length = encodeMetadataSize rt ∧ body.length = payload.length ∧
      authentication.length = encodeAuthenticationSize rt := by
  rw [Sealed] at h
  rw [encodeMetadataSize, encodeAuthenticationSize]
  split_ifs at h with haead hsec
  · obtain ⟨nonce, derived, rfl, -, henc⟩ := h
    obtain ⟨hbody, htag⟩ := c.encrypt_length henc
    have hsec : lsSecurityEnabled rt = true := by
      rw [aead, Bool.and_eq_true] at haead
      exact haead.1
    rw [List.length_append, nonce.property, le32_length, if_pos haead, if_pos hsec, if_pos haead]
    exact ⟨rfl, hbody, htag⟩
  · obtain ⟨rfl, rfl, rfl⟩ := h
    rw [if_neg haead, if_pos hsec, if_neg haead]
    exact ⟨rfl, rfl, c.hmac_length _ _⟩
  · obtain ⟨rfl, rfl, rfl⟩ := h
    rw [if_neg haead, if_neg hsec]
    exact ⟨rfl, rfl, rfl⟩

lemma sealPayload_spec (random : Except Errno Nonce)
    {header : List UInt8} (hh : Medium.read s.out 0 lsLepHeaderSize = header)
    (hp : Medium.read s.out (lsLepHeaderSize + encodeMetadataSize s.runtime) payload.length
      = payload) (sequence eventId : UInt32) :
    Returns (sealPayload c s.runtime random sequence eventId payload.length) s fun _ s' =>
      (∃ nonce, s'.runtime = { s.runtime with lastEnvelopeNonce := nonce }) ∧
      ∃ metadata body authentication,
        Sealed c s.runtime header sequence eventId payload metadata body authentication ∧
        Medium.read s'.out 0 s'.length = header ++ (metadata ++ (body ++
          (le32 (lsCrc32 (metadata ++ body)) ++ authentication))) := by
  rw [Returns, sealPayload, sat_ite]
  constructor
  · intro haead
    rw [encodeMetadataSize, if_pos haead] at hp
    refine (sealAead_spec c random haead hh hp sequence eventId).mono fun _ s' h => ?_
    obtain ⟨⟨nonce, hrt⟩, h⟩ := h
    exact ⟨⟨some nonce, hrt⟩, h⟩
  · intro haead
    rw [encodeMetadataSize, if_neg haead] at hp
    refine (sealPlain_spec c (by simpa using haead) hh hp sequence eventId).mono
      fun _ s' h => ?_
    obtain ⟨hrt, authentication, h⟩ := h
    exact ⟨⟨s.runtime.lastEnvelopeNonce, hrt⟩, [], payload, authentication, h⟩

/-- What `ls_envelope_encode` leaves where it returns: the buffer holds a frame around the
payload, no longer than the buffer, and the runtime has a new nonce and sequence number. -/
lemma lsEnvelopeEncode_spec (b : Build) (c : Crypto) (bb : Blackbox) (mem : ℕ → UInt8)
    (uptimeMs : UInt32) (random : Except Errno Nonce) (event : Event) (capacity : ℕ)
    (sequence : UInt32) (s : EncodeState) :
    Returns (lsEnvelopeEncode b c bb mem uptimeMs random event capacity sequence) s fun _ s' =>
      ∃ payload, putPayload b s.runtime bb mem uptimeMs event (payloadWriter s.runtime capacity)
          = .ok () payload ∧ payload.data.length < 2 ^ 32 ∧ s'.length ≤ capacity ∧
        (∃ nonce, s'.runtime = { s.runtime with
          lastEnvelopeNonce := nonce
          persistent := { s.runtime.persistent with lastSequence := sequence } }) ∧
        ∃ eventId metadata body authentication,
          Sealed c s.runtime (writeHeader event.type.code (encodeArchitecture s.runtime event)
            (encodeFlags s.runtime payload.truncated) sequence eventId
            (UInt32.ofNat payload.data.length)) sequence eventId payload.data metadata body
            authentication ∧
          Medium.read s'.out 0 s'.length
            = frame event.type.code (encodeArchitecture s.runtime event)
              (encodeFlags s.runtime payload.truncated) sequence eventId metadata body
              authentication := by
  rw [Returns, lsEnvelopeEncode, sat_bind, sat_get]
  refine .ite (fun _ => .throw trivial) fun hroom => ?_
  cases hpay : putPayload b s.runtime bb mem uptimeMs event (payloadWriter s.runtime capacity) with
  | error e payload =>
      dsimp only
      rw [sat_bind, sat_store]
      exact returns_wipe
  | ok u payload =>
  obtain ⟨_, _, _, _, -, -, -, -, -, hext⟩ := sat_of_ok (putPayload_spec b s.runtime bb mem uptimeMs
    event (payloadWriter s.runtime capacity)) hpay
  have hfits : payload.data.length ≤ (payloadWriter s.runtime capacity).capacity :=
    hext.fits (Nat.zero_le _)
  dsimp only
  rw [sat_bind, sat_store]
  refine .ite (fun _ => returns_wipe) fun hsmall => ?_
  set eventId := lsCrc32 payload.data ^^^ sequence ^^^ lsHashString (some b.buildId)
  set header := writeHeader event.type.code (encodeArchitecture s.runtime event)
    (encodeFlags s.runtime payload.truncated) sequence eventId (UInt32.ofNat payload.data.length)
    with hheader
  rw [sat_bind, sat_store, sat_bind]
  have hlen : header.length = lsLepHeaderSize := writeHeader_length ..
  have hh : Medium.read (Medium.write (Medium.write s.out
      (lsLepHeaderSize + encodeMetadataSize s.runtime) payload.data) 0 header) 0 lsLepHeaderSize
      = header := by
    rw [← hlen, Medium.read_write_same]
  have hp : Medium.read (Medium.write (Medium.write s.out
      (lsLepHeaderSize + encodeMetadataSize s.runtime) payload.data) 0 header)
      (lsLepHeaderSize + encodeMetadataSize s.runtime) payload.data.length = payload.data := by
    rw [(Medium.agreeOff_write _ 0 header).read_eq (.inr (by omega)), Medium.read_write_same]
  refine (sealPayload_spec c random (s := { s with out := _ }) hh hp sequence eventId).mono
    fun _ s₁ h₁ => ?_
  obtain ⟨⟨nonce, hrt⟩, metadata, body, authentication, hsealed, hread⟩ := h₁
  obtain ⟨hm, hb, ha⟩ := hsealed.sizes
  have hframe : Medium.read s₁.out 0 s₁.length = frame event.type.code
      (encodeArchitecture s.runtime event) (encodeFlags s.runtime payload.truncated) sequence
      eventId metadata body authentication := by
    rw [hread, frame, hb]
  have hlength : s₁.length = lsLepHeaderSize + encodeMetadataSize s.runtime + 4 +
      encodeAuthenticationSize s.runtime + payload.data.length := by
    rw [← Medium.read_length s₁.out 0 s₁.length, hframe, frame_length, hm, hb, ha]
  simp only [payloadWriter] at hfits
  rw [sat_modify]
  refine ⟨payload, rfl, by omega, by dsimp only; omega, ⟨nonce, ?_⟩, eventId, metadata, body,
    authentication, hsealed, hframe⟩
  simp only [hrt]

end Latch
