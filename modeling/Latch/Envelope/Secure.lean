/-
The readers of authenticated and encrypted envelopes: `ls_envelope_decrypt_payload`
and `ls_envelope_visit_secure` of `src/envelope/lep.c`, `ls_envelope_verify_auth` of
`src/security/sha256.c`.

`encode_round_trip` puts them behind the encoder: what `lsEnvelopeEncode` leaves in
the buffer passes `lsEnvelopeValidate`, and a reader with the same key and policy is
shown the fields that `putPayload` wrote, in their order.
-/
import Latch.Envelope.Encode

namespace Latch

open Bytes Exec Tlv

/-! ### Readers -/

/-- A function that fills a buffer of its caller. -/
abbrev BufferM := EStateM Errno (ℕ → UInt8)

/-- Changes the buffer, where there is one. -/
def onBuffer (present : Bool) (f : (ℕ → UInt8) → ℕ → UInt8) : BufferM Unit :=
  modify fun m => if present then f m else m

/-- Derives the key of an envelope and decrypts its payload. -/
def openPayload (c : Crypto) (rt : Runtime) (data : List UInt8) (info : EnvelopeInfo)
    (keyId : UInt32) : Except Errno (List UInt8) :=
  let payloadOffset := lsLepHeaderSize + lsEnvelopeSecurityMetadataSize
  let length := info.payloadLength.toNat
  match envelopeKey c rt keyId info.sequence info.eventId with
  | .error e => .error e
  | .ok derived =>
    c.decrypt derived ((data.drop lsLepHeaderSize).take 24) (data.take payloadOffset)
      ((data.drop payloadOffset).take length)
      ((data.drop (payloadOffset + length + 4)).take lsAeadTagSize)

/-- `ls_envelope_decrypt_payload`; without a buffer it only verifies. -/
def lsEnvelopeDecryptPayload (c : Crypto) (rt : Runtime) (data : List UInt8) (plaintext : Bool)
    (capacity : ℕ) : BufferM ℕ :=
  match lsEnvelopeValidate data with
  | .error e => throw e
  | .ok info =>
    if ¬ hasFlag info.flags lsEnvelopeEncrypted ∨ ¬ hasFlag info.flags lsEnvelopeAead ∨
        ¬ lsSecurityEnabled rt then throw .eauth
    else if plaintext ∧ capacity < info.payloadLength.toNat then throw .enospace
    else if ¬ plaintext ∧ capacity ≠ 0 then throw .einval
    else
      let keyId := get32 data (lsLepHeaderSize + 24)
      if keyId ≠ rt.securityPolicy.keyId then throw .eauth
      else
        match openPayload c rt data info keyId with
        | .error e => do
          onBuffer plaintext fun m => Medium.fill m 0 capacity 0
          throw e
        | .ok text => do
          onBuffer plaintext fun m => Medium.write m 0 text
          return info.payloadLength.toNat

/-- `ls_envelope_verify_auth`. -/
def lsEnvelopeVerifyAuth (c : Crypto) (rt : Runtime) (data : List UInt8) : BufferM Unit :=
  match lsEnvelopeValidate data with
  | .error e => throw e
  | .ok info =>
    if ¬ hasFlag info.flags lsEnvelopeAuthenticated ∨ ¬ lsSecurityEnabled rt then throw .eauth
    else if hasFlag info.flags lsEnvelopeAead then do
      let _ ← lsEnvelopeDecryptPayload c rt data false 0
      return ()
    else if ¬ rt.securityPolicy.allowLegacyHmac then throw .eauth
    else if c.hmacSha256 rt.securityKey (data.take (data.length - lsHmacSha256Size))
        = data.drop (data.length - lsHmacSha256Size) then pure ()
    else throw .eauth

/-- The context of a visitor and the workspace of its caller. -/
structure Reading (σ : Type) where
  context : σ
  workspace : ℕ → UInt8

section

variable {σ α : Type}

/-- A computation on the context. -/
def onContext (x : EStateM Errno σ α) : EStateM Errno (Reading σ) α :=
  zoom Reading.context (fun s context => { s with context := context }) x

/-- A computation on the workspace. -/
def onWorkspace (x : BufferM α) : EStateM Errno (Reading σ) α :=
  zoom Reading.workspace (fun s workspace => { s with workspace := workspace }) x

/-- Visits a decrypted payload in the workspace and wipes it, whatever the visitor answers. -/
def visitWorkspace (visitor : Visitor σ) (length : ℕ) : EStateM Errno (Reading σ) Unit := fun s =>
  match onContext (visitPayload visitor (Medium.read s.workspace 0 length)) s with
  | .ok a s' => .ok a { s' with workspace := Medium.fill s'.workspace 0 length 0 }
  | .error e s' => .error e { s' with workspace := Medium.fill s'.workspace 0 length 0 }

/-- `ls_envelope_visit_secure`. -/
def lsEnvelopeVisitSecure (c : Crypto) (rt : Runtime) (workspaceSize : ℕ) (visitor : Visitor σ)
    (data : List UInt8) : EStateM Errno (Reading σ) Unit :=
  match lsEnvelopeValidate data with
  | .error e => throw e
  | .ok info =>
    if hasFlag info.flags lsEnvelopeEncrypted then do
      let length ← onWorkspace (lsEnvelopeDecryptPayload c rt data true workspaceSize)
      visitWorkspace visitor length
    else if hasFlag info.flags lsEnvelopeAuthenticated then do
      onWorkspace (lsEnvelopeVerifyAuth c rt data)
      onContext (visitPayload visitor (plainPayload data))
    else if lsSecurityEnabled rt ∧ rt.securityPolicy.rejectPlaintext then throw .eauth
    else onContext (visitPayload visitor (plainPayload data))

end

/-! ### What the flags announce -/

/-- The flags say how an envelope is sealed. -/
lemma flagsOf_spec : ∀ secured aead truncated : Bool, (aead = true → secured = true) →
    flagsValid (flagsOf secured aead truncated) = true ∧
    hasFlag (flagsOf secured aead truncated) lsEnvelopeEncrypted = aead ∧
    hasFlag (flagsOf secured aead truncated) lsEnvelopeAead = aead ∧
    hasFlag (flagsOf secured aead truncated) lsEnvelopeAuthenticated = secured := by
  decide

lemma enabled_of_aead {rt : Runtime} (h : aead rt = true) : lsSecurityEnabled rt = true := by
  rw [aead, Bool.and_eq_true] at h
  exact h.1

section Flags

variable (rt : Runtime) (truncated : Bool)

lemma flagsValid_encodeFlags : flagsValid (encodeFlags rt truncated) = true :=
  (flagsOf_spec _ _ truncated enabled_of_aead).1

@[simp] lemma encodeFlags_encrypted :
    hasFlag (encodeFlags rt truncated) lsEnvelopeEncrypted = aead rt :=
  (flagsOf_spec _ _ truncated enabled_of_aead).2.1

@[simp] lemma encodeFlags_aead : hasFlag (encodeFlags rt truncated) lsEnvelopeAead = aead rt :=
  (flagsOf_spec _ _ truncated enabled_of_aead).2.2.1

@[simp] lemma encodeFlags_authenticated :
    hasFlag (encodeFlags rt truncated) lsEnvelopeAuthenticated = lsSecurityEnabled rt :=
  (flagsOf_spec _ _ truncated enabled_of_aead).2.2.2

/-- The sizes that a reader derives from the flags are those of the encoder. -/
lemma metadataSize_encodeFlags :
    metadataSize (encodeFlags rt truncated) = encodeMetadataSize rt := by
  rw [metadataSize, encodeFlags_encrypted, encodeMetadataSize]

lemma authenticationSize_encodeFlags :
    authenticationSize (encodeFlags rt truncated) = encodeAuthenticationSize rt := by
  rw [authenticationSize, encodeFlags_encrypted, encodeFlags_authenticated,
    encodeAuthenticationSize]
  by_cases haead : aead rt = true
  · rw [if_pos haead, if_pos (enabled_of_aead haead), if_pos haead]
  · rw [if_neg haead, if_neg haead]

end Flags

/-! ### Reading a sealed payload -/

/-- An envelope as the encoder makes it around the fields `ts`. -/
structure Envelope (c : Crypto) (rt : Runtime) (type architecture : UInt8) (truncated : Bool)
    (sequence eventId : UInt32) (ts : List Tlv.Field)
    (metadata body authentication : List UInt8) : Prop where
  small : (encode ts).length < 2 ^ 32
  isSealed : Sealed c rt (writeHeader type architecture (encodeFlags rt truncated) sequence eventId
    (UInt32.ofNat (encode ts).length)) sequence eventId (encode ts) metadata body authentication

namespace Envelope

variable {c : Crypto} {rt : Runtime} {type architecture : UInt8} {truncated : Bool}
  {sequence eventId : UInt32} {ts : List Tlv.Field} {metadata body authentication : List UInt8}
  (h : Envelope c rt type architecture truncated sequence eventId ts metadata body authentication)

include h

lemma body_length : body.length = (encode ts).length := h.isSealed.sizes.2.1

lemma plain (haead : aead rt = false) : metadata = [] ∧ body = encode ts := by
  have hs := h.isSealed
  rw [Sealed, haead] at hs
  exact ⟨hs.1, hs.2.1⟩

lemma wellFormed : WellFormed (frame type architecture (encodeFlags rt truncated) sequence eventId
    metadata body authentication) := by
  obtain ⟨hm, hb, ha⟩ := h.isSealed.sizes
  refine wellFormed_frame (flagsValid_encodeFlags rt truncated)
    (hm.trans (metadataSize_encodeFlags rt truncated).symm)
    (ha.trans (authenticationSize_encodeFlags rt truncated).symm) (hb ▸ h.small) fun henc => ?_
  rw [encodeFlags_encrypted] at henc
  exact ⟨ts, (h.plain henc).2⟩

/-- `ls_envelope_validate` reports what the encoder was given. -/
lemma validate : lsEnvelopeValidate (frame type architecture (encodeFlags rt truncated) sequence
    eventId metadata body authentication) = .ok
      { version := lsLepCurrentVersion, type := type, architecture := architecture
        flags := encodeFlags rt truncated, sequence := sequence, eventId := eventId
        payloadLength := UInt32.ofNat (encode ts).length } := by
  rw [lsEnvelopeValidate_ok_iff]
  refine ⟨h.wellFormed, ?_⟩
  rw [envelopeInfo_frame, h.body_length]

lemma plainPayload_eq (haead : aead rt = false) :
    plainPayload (frame type architecture (encodeFlags rt truncated) sequence eventId metadata body
      authentication) = encode ts := by
  obtain ⟨rfl, rfl⟩ := h.plain haead
  exact plainPayload_frame h.small

/-- `ls_envelope_visit` shows the fields of an envelope that is not encrypted. -/
lemma visit (haead : aead rt = false) :
    lsEnvelopeVisit collect (frame type architecture (encodeFlags rt truncated) sequence eventId
      metadata body authentication) [] = .ok () (ts.map Field.pair) := by
  rw [lsEnvelopeVisit, h.validate]
  simp only [encodeFlags_encrypted, haead, Bool.false_eq_true, if_false]
  rw [h.plainPayload_eq haead, visitPayload_encode, forM_collect, List.nil_append]

/-- The MAC of a plain envelope covers all before it. -/
lemma verifyAuth (haead : aead rt = false) {reader : Runtime}
    (hkey : reader.securityKey = rt.securityKey) (hsec : lsSecurityEnabled rt = true)
    (hallow : reader.securityPolicy.allowLegacyHmac = true) (m : ℕ → UInt8) :
    lsEnvelopeVerifyAuth c reader (frame type architecture (encodeFlags rt truncated) sequence
      eventId metadata body authentication) m = .ok () m := by
  have hsec' : lsSecurityEnabled reader = true := by rwa [lsSecurityEnabled, hkey]
  obtain ⟨rfl, rfl⟩ := h.plain haead
  have hs := h.isSealed
  rw [Sealed, haead, hsec] at hs
  have hauth := hs.2.2
  have hlen : authentication.length = lsHmacSha256Size := by rw [hauth]; exact c.hmac_length _ _
  set covered := writeHeader type architecture (encodeFlags rt truncated) sequence eventId
    (UInt32.ofNat (encode ts).length) ++ (encode ts ++ le32 (lsCrc32 (encode ts)))
  have hsplit : frame type architecture (encodeFlags rt truncated) sequence eventId [] (encode ts)
      authentication = covered ++ authentication := by
    simp [frame, covered]
  have hcovered : (covered ++ authentication).length - lsHmacSha256Size = covered.length := by
    rw [List.length_append, hlen, Nat.add_sub_cancel]
  rw [lsEnvelopeVerifyAuth, h.validate, hsplit, hcovered, List.take_left' rfl,
    List.drop_left' rfl, hkey]
  simp only [encodeFlags_authenticated, encodeFlags_aead, hsec, hsec', haead, hallow]
  rw [if_neg (by simp), if_neg (by simp), if_neg (by simp)]
  exact congrFun (if_pos hauth.symm) m

/-- The parts of an encrypted envelope, as the reader cuts them out. -/
lemma openPayload_eq (haead : aead rt = true) {reader : Runtime}
    (hkey : reader.securityKey = rt.securityKey) :
    get32 (frame type architecture (encodeFlags rt truncated) sequence eventId metadata body
        authentication) (lsLepHeaderSize + 24) = rt.securityPolicy.keyId ∧
      ∀ info : EnvelopeInfo, info.payloadLength.toNat = (encode ts).length →
        info.sequence = sequence → info.eventId = eventId →
        openPayload c reader (frame type architecture (encodeFlags rt truncated) sequence eventId
          metadata body authentication) info rt.securityPolicy.keyId = .ok (encode ts) := by
  have hs := h.isSealed
  rw [Sealed, if_pos haead] at hs
  obtain ⟨nonce, derived, rfl, hderived, henc⟩ := hs
  obtain ⟨hbody, htag⟩ := c.encrypt_length henc
  set keyId := rt.securityPolicy.keyId
  set header := writeHeader type architecture (encodeFlags rt truncated) sequence eventId
    (UInt32.ofNat (encode ts).length)
  set crc := lsCrc32 ((nonce.val ++ le32 keyId) ++ body)
  have hheader : header.length = lsLepHeaderSize := writeHeader_length ..
  have hfront : (header ++ (nonce.val ++ le32 keyId)).length
      = lsLepHeaderSize + lsEnvelopeSecurityMetadataSize := by
    rw [List.length_append, List.length_append, hheader, nonce.property, le32_length,
      lsEnvelopeSecurityMetadataSize]
  have hframe : frame type architecture (encodeFlags rt truncated) sequence eventId
      (nonce.val ++ le32 keyId) body authentication
      = (header ++ (nonce.val ++ le32 keyId)) ++ (body ++ (le32 crc ++ authentication)) := by
    rw [frame, hbody]
    exact (List.append_assoc header _ _).symm
  refine ⟨?_, fun info hlength hseq hid => ?_⟩
  · rw [hframe, List.append_assoc, get32_append_right (by rw [hheader]; omega), List.append_assoc,
      get32_append_right (by rw [hheader, nonce.property]; omega), hheader, nonce.property]
    exact get32_le32 keyId _
  · have hnonce : ((header ++ (nonce.val ++ le32 keyId) ++ (body ++ (le32 crc ++ authentication))).drop
        lsLepHeaderSize).take 24 = nonce.val := by
      rw [List.append_assoc, List.drop_left' hheader, List.append_assoc,
        List.take_left' nonce.property]
    have htail : (header ++ (nonce.val ++ le32 keyId) ++ (body ++ (le32 crc ++ authentication))).drop
        (lsLepHeaderSize + lsEnvelopeSecurityMetadataSize + (encode ts).length + 4)
        = authentication := by
      rw [← List.append_assoc body, ← List.append_assoc]
      refine List.drop_left' ?_
      rw [List.length_append, hfront, List.length_append, hbody, le32_length]
      omega
    have hkeys : envelopeKey c reader keyId sequence eventId = .ok derived := by
      rw [← hderived, envelopeKey, envelopeKey, hkey]
    simp only [openPayload, hseq, hid, hkeys, hlength, hframe, hnonce, htail]
    rw [List.take_left' hfront, List.drop_left' hfront, List.take_left' hbody,
      List.take_of_length_le htag.le]
    exact c.decrypt_encrypt henc

/-- `ls_envelope_visit_secure` shows the fields of a sealed envelope to a reader with the
same key and policy. -/
lemma visitSecure (hsec : lsSecurityEnabled rt = true) {reader : Runtime}
    (hkey : reader.securityKey = rt.securityKey)
    (hpolicy : reader.securityPolicy = rt.securityPolicy)
    (hallow : aead rt = false → rt.securityPolicy.allowLegacyHmac = true) {workspaceSize : ℕ}
    (hroom : (encode ts).length ≤ workspaceSize) (workspace : ℕ → UInt8) :
    ∃ workspace', lsEnvelopeVisitSecure c reader workspaceSize collect
      (frame type architecture (encodeFlags rt truncated) sequence eventId metadata body
        authentication) ⟨[], workspace⟩ = .ok () ⟨ts.map Field.pair, workspace'⟩ := by
  have hsec' : lsSecurityEnabled reader = true := by rwa [lsSecurityEnabled, hkey]
  have hlength : (UInt32.ofNat (encode ts).length).toNat = (encode ts).length := by
    rw [UInt32.toNat_ofNat', Nat.mod_eq_of_lt h.small]
  rw [lsEnvelopeVisitSecure, h.validate]
  cases haead : aead rt with
  | false =>
      refine ⟨workspace, ?_⟩
      simp only [encodeFlags_encrypted, encodeFlags_authenticated, haead, hsec, if_true,
        Bool.false_eq_true, if_false]
      have hverify := h.verifyAuth haead hkey hsec (by rw [hpolicy]; exact hallow haead) workspace
      change EStateM.bind _ _ _ = _
      simp only [EStateM.bind, onWorkspace, onContext, zoom, hverify, h.plainPayload_eq haead,
        visitPayload_encode, forM_collect, List.nil_append]
  | true =>
      obtain ⟨hid, hopen⟩ := h.openPayload_eq haead hkey
      refine ⟨Medium.fill (Medium.write workspace 0 (encode ts)) 0 (encode ts).length 0, ?_⟩
      have hdecrypt : lsEnvelopeDecryptPayload c reader (frame type architecture
          (encodeFlags rt truncated) sequence eventId metadata body authentication) true
          workspaceSize workspace
          = .ok (encode ts).length (Medium.write workspace 0 (encode ts)) := by
        rw [lsEnvelopeDecryptPayload, h.validate]
        simp only [encodeFlags_encrypted, encodeFlags_aead, haead, hsec', hlength, hid, hpolicy]
        rw [if_neg (by simp), if_neg (by omega), if_neg (by simp), if_neg (by simp),
          hopen _ hlength rfl rfl]
        rfl
      simp only [encodeFlags_encrypted, haead, if_true]
      change EStateM.bind _ _ _ = _
      simp only [EStateM.bind, onWorkspace, onContext, visitWorkspace, zoom, hdecrypt,
        Medium.read_write_same, visitPayload_encode, forM_collect, List.nil_append]

end Envelope

/-! ### The round trip -/

/-- A type that only one field of the list has. -/
lemma count_type {x y z : Tlv.Field} {ts : List Tlv.Field} (hx : x.type = TlvType.identity.code)
    (hy : y.type = TlvType.reset.code) (hz : z.type = TlvType.event.code)
    (hts : ∀ f ∈ ts, Late f.type) {t : TlvType} (ht : t ∈ [TlvType.identity, .reset, .event]) :
    ((([x, y, z] ++ ts).map Field.pair).map Prod.fst).count t.code = 1 := by
  have hlate : ((ts.map Field.pair).map Prod.fst).count t.code = 0 := by
    rw [List.count_eq_zero, List.map_map]
    intro hmem
    obtain ⟨f, hf, hft⟩ := List.mem_map.mp hmem
    have hlt : Late t.code := hft ▸ hts f hf
    revert hlt
    fin_cases ht <;> decide
  rw [List.map_append, List.map_append, List.count_append, hlate]
  simp only [List.map_cons, List.map_nil, Field.pair, hx, hy, hz]
  fin_cases ht <;> decide

/-- An envelope that `ls_envelope_encode` returns fits the buffer, passes
`ls_envelope_validate` with the type, the architecture, the sequence number and the flags
it was made with, and shows its readers the fields that `put_payload` wrote: first the
identity, the reset and the event, each of them once. -/
theorem encode_round_trip (b : Build) (c : Crypto) (bb : Blackbox) (mem : ℕ → UInt8)
    (uptimeMs : UInt32) (random : Except Errno Nonce) (event : Event) (capacity : ℕ)
    (sequence : UInt32) (s s' : EncodeState)
    (h : lsEnvelopeEncode b c bb mem uptimeMs random event capacity sequence s = .ok () s') :
    ∃ payload : Encoder,
      putPayload b s.runtime bb mem uptimeMs event (payloadWriter s.runtime capacity)
        = .ok () payload ∧
      s'.length ≤ capacity ∧
      (∃ info, lsEnvelopeValidate (Medium.read s'.out 0 s'.length) = .ok info ∧
        info.type = event.type.code ∧ info.architecture = encodeArchitecture s.runtime event ∧
        info.sequence = sequence ∧ info.flags = encodeFlags s.runtime payload.truncated) ∧
      (lsSecurityEnabled s.runtime = false →
        lsEnvelopeVisit collect (Medium.read s'.out 0 s'.length) [] = .ok () payload.written) ∧
      (lsSecurityEnabled s.runtime = true →
        ∀ (reader : Runtime) (workspaceSize : ℕ) (workspace : ℕ → UInt8),
          reader.securityKey = s.runtime.securityKey →
          reader.securityPolicy = s.runtime.securityPolicy →
          (aead s.runtime = false → s.runtime.securityPolicy.allowLegacyHmac = true) →
          payload.data.length ≤ workspaceSize →
          ∃ workspace', lsEnvelopeVisitSecure c reader workspaceSize collect
            (Medium.read s'.out 0 s'.length) ⟨[], workspace⟩
              = .ok () ⟨payload.written, workspace'⟩) ∧
      (payload.written.map Prod.fst).take 3
        = [TlvType.identity.code, TlvType.reset.code, TlvType.event.code] ∧
      ∀ t ∈ [TlvType.identity, .reset, .event],
        (payload.written.map Prod.fst).count t.code = 1 := by
  obtain ⟨payload, hpay, hsmall, hcap, -, eventId, metadata, body, authentication, hsealed, hread⟩ :=
    sat_of_ok (lsEnvelopeEncode_spec b c bb mem uptimeMs random event capacity sequence s) h
  obtain ⟨x, y, z, ts, hx, hy, hz, -, hlate, hext⟩ :=
    sat_of_ok (putPayload_spec b s.runtime bb mem uptimeMs event _) hpay
  have hdata : payload.data = encode ([x, y, z] ++ ts) := hext.data_eq
  have hwritten : payload.written = ([x, y, z] ++ ts).map Field.pair := hext.written_eq
  have henv : Envelope c s.runtime event.type.code (encodeArchitecture s.runtime event)
      payload.truncated sequence eventId ([x, y, z] ++ ts) metadata body authentication :=
    ⟨hdata ▸ hsmall, hdata ▸ hsealed⟩
  have hztype : z.type = TlvType.event.code := congrArg Prod.fst hz
  rw [hread]
  refine ⟨payload, hpay, hcap, ⟨_, henv.validate, rfl, rfl, rfl, rfl⟩, fun hsec => ?_,
    fun hsec reader workspaceSize workspace hkey hpolicy hallow hroom => ?_, ?_, fun t ht => ?_⟩
  · have haead : aead s.runtime = false := by simp [aead, hsec]
    rw [henv.visit haead, hwritten]
  · rw [hwritten]
    exact henv.visitSecure hsec hkey hpolicy hallow (hdata ▸ hroom) workspace
  · simp [hwritten, Field.pair, hx, hy, hztype]
  · rw [hwritten]
    exact count_type hx hy hztype hlate ht

/-- A provider that leaves the payload as it is, under a constant tag. -/
def clearCrypto : Crypto where
  hmacSha256 _ _ := List.replicate lsHmacSha256Size 0
  hkdfSha256 _ _ _ outputLength := .ok (List.replicate outputLength 0)
  encrypt _ _ _ plaintext := .ok (plaintext, List.replicate lsAeadTagSize 0)
  decrypt _ _ _ ciphertext _ := .ok ciphertext
  hmac_length _ _ := List.length_replicate ..
  encrypt_length h := by cases h; exact ⟨rfl, List.length_replicate ..⟩
  decrypt_encrypt h := by cases h; rfl

/-- A runtime with an AEAD key, and an empty buffer. -/
def keyedState : EncodeState where
  runtime := { (default : Runtime) with
    securityKey := List.replicate 32 1
    securityPolicy := ⟨.xchacha20Poly1305, 1, true, false⟩ }
  out _ := 0
  length := 0

/-- The round trip of an encrypted envelope in a buffer of 512 bytes. -/
theorem encode_round_trip_keyed :
    ∃ (s' : EncodeState) (payload : Encoder) (workspace : ℕ → UInt8),
      lsEnvelopeEncode Build.default clearCrypto default (fun _ => 0) 0
        (.ok ⟨List.replicate 24 5, by decide⟩) default 512 1 keyedState = .ok () s' ∧
      s'.length ≤ 512 ∧
      lsEnvelopeVisitSecure clearCrypto keyedState.runtime payload.data.length collect
        (Medium.read s'.out 0 s'.length) ⟨[], fun _ => 0⟩ = .ok () ⟨payload.written, workspace⟩ := by
  have hrun : Sat (lsEnvelopeEncode Build.default clearCrypto default (fun _ => 0) 0
      (.ok ⟨List.replicate 24 5, by decide⟩) default 512 1) keyedState
      (fun _ _ => True) (fun _ _ => False) := by decide +kernel
  obtain ⟨_, s', hs', -⟩ := hrun.exists_ok
  obtain ⟨payload, -, hlen, -, -, hvisit, -⟩ := encode_round_trip _ _ _ _ _ _ _ _ _ _ _ hs'
  obtain ⟨workspace, hw⟩ := hvisit (by decide) keyedState.runtime payload.data.length (fun _ => 0)
    rfl rfl (by decide) le_rfl
  exact ⟨s', payload, workspace, hs', hlen, hw⟩

end Latch
