/-
What a failed `ls_envelope_encode` of `src/envelope/lep.c` leaves behind.

Each exit with an error computes for itself how far the output buffer has to be wiped. All
that is written before an exit lies within what it wipes: the header, the nonce and the
key id in front of the payload, the payload itself and, once the encryption has been
tried, what the provider left of the ciphertext and of the tag.

* `Within`: only a start of the output buffer has changed;
* `Cleared`: what was written is zero again, and nothing else has changed;
* `failed_encode_clears`: every exit of the encoder with an error clears.
-/
import Latch.Envelope.Encode

namespace Latch

open Bytes Exec

/-- From `s` to `s'` only the first `len` bytes of the output buffer have changed. -/
structure Within (len : ℕ) (s s' : EncodeState) : Prop where
  out : Medium.AgreeOff s.out s'.out 0 len
  length : s'.length = s.length
  runtime : s'.runtime = s.runtime

/-- Every byte of the output buffer is zero or as before, and the length, the last nonce
and all else in the runtime are as before. -/
structure Cleared (s s' : EncodeState) : Prop where
  out : ∀ a, s'.out a = 0 ∨ s'.out a = s.out a
  length : s'.length = s.length
  nonce : s'.runtime.lastEnvelopeNonce = s.runtime.lastEnvelopeNonce
  runtime : s'.runtime = s.runtime

section Exits

variable {s s' : EncodeState} {len : ℕ}

lemma Within.refl (s : EncodeState) (len : ℕ) : Within len s s := ⟨.refl _ _ _, rfl, rfl⟩

lemma Within.store (h : Within len s s') (off : ℕ) (bytes : List UInt8)
    (hle : off + bytes.length ≤ len) :
    Within len s { s' with out := Medium.write s'.out off bytes } := by
  refine ⟨h.out.trans ((Medium.agreeOff_write s'.out off bytes).widen ?_ ?_), h.length, h.runtime⟩
  · exact Nat.zero_le _
  · simpa using hle

/-- Unchanged bytes are unchanged within a longer start as well. -/
lemma Within.mono {len' : ℕ} (h : Within len s s') (hle : len ≤ len') : Within len' s s' :=
  ⟨h.out.widen le_rfl (by omega), h.length, h.runtime⟩

/-- An exit that wipes all that has changed clears. -/
lemma Within.wipe {α : Type} {e : Errno} {Q : α → EncodeState → Prop} (h : Within len s s') :
    Sat (wipe len e) s' Q fun _ => Cleared s := by
  rw [Latch.wipe, sat_bind, sat_modify, sat_throw]
  refine ⟨fun a => ?_, h.length, congrArg _ h.runtime, h.runtime⟩
  by_cases ha : a < len
  · exact .inl (Medium.fill_of_mem (Nat.zero_le a) (by omega))
  · right
    exact (Medium.fill_of_not_mem (.inr (by omega))).trans (h.out a (.inr (by omega)))

end Exits

/-- The exits of the encryption: before it is tried they wipe to the end of the payload,
after it they wipe the place of the CRC and the tag as well. -/
lemma failed_sealAead_clears (c : Crypto) (random : Except Errno Nonce) (sequence eventId : UInt32)
    {s s₁ : EncodeState} {payloadLength : ℕ}
    (h : Within (lsLepHeaderSize + lsEnvelopeSecurityMetadataSize + payloadLength) s s₁) :
    Sat (sealAead c random sequence eventId payloadLength) s₁ (fun _ _ => True)
      fun _ => Cleared s := by
  rw [sealAead, sat_bind, sat_get]
  cases random with
  | error e => exact h.wipe
  | ok nonce =>
  dsimp only
  rw [sat_bind, sat_store, sat_ite]
  have h₁ := h.store lsLepHeaderSize nonce.val
    (by rw [nonce.property, lsEnvelopeSecurityMetadataSize]; omega)
  refine ⟨fun _ => h₁.wipe, fun _ => ?_⟩
  rw [sat_bind, sat_store]
  have h₂ := h₁.store (lsLepHeaderSize + 24) (le32 s₁.runtime.securityPolicy.keyId)
    (by rw [le32_length, lsEnvelopeSecurityMetadataSize]; omega)
  cases envelopeKey c s₁.runtime s₁.runtime.securityPolicy.keyId sequence eventId with
  | error e => exact h₂.wipe
  | ok derived =>
  dsimp only
  rw [sat_bind, sat_load, sat_bind, sat_load]
  split
  case h_1 e _ =>
    dsimp only
    rw [sat_bind, sat_store, sat_bind, sat_store]
    -- what the provider leaves is cut to the buffers that it was given
    refine Within.wipe (((h₂.mono ?_).store _ _ ?_).store _ _ ?_)
    · omega
    · exact (Nat.add_le_add_left (List.length_take_le _ _) _).trans (by omega)
    · exact Nat.add_le_add_left (List.length_take_le _ _) _
  case h_2 ciphertext tag _ =>
    rw [sat_bind, sat_store, sat_bind, sat_store, sat_bind, sat_load, sat_bind, sat_store,
      sat_modify]
    trivial

/-- **A failed `ls_envelope_encode` leaves nothing behind**: whatever the runtime, the
event, the contents and the capacity of the buffer and the answers of the providers, at
every exit with an error each byte of the buffer is zero or as it was, and the length and
the stored nonce are as they were. -/
theorem failed_encode_clears (b : Build) (c : Crypto) (bb : Blackbox) (mem : ℕ → UInt8)
    (uptimeMs : UInt32) (random : Except Errno Nonce) (event : Event) (capacity : ℕ)
    (sequence : UInt32) (s : EncodeState) :
    Sat (lsEnvelopeEncode b c bb mem uptimeMs random event capacity sequence) s
      (fun _ _ => True) fun _ s' => Cleared s s' := by
  rw [lsEnvelopeEncode, sat_bind, sat_get]
  refine .ite (fun _ => ?_) fun _ => ?_
  · rw [sat_throw]
    exact ⟨fun _ => .inr rfl, rfl, rfl, rfl⟩
  have hpayload (data : List UInt8) :
      Within (lsLepHeaderSize + encodeMetadataSize s.runtime + data.length) s
        { s with out := Medium.write s.out (lsLepHeaderSize + encodeMetadataSize s.runtime) data } :=
    (Within.refl s _).store _ _ le_rfl
  cases putPayload b s.runtime bb mem uptimeMs event (payloadWriter s.runtime capacity) with
  | error e payload =>
      dsimp only
      rw [sat_bind, sat_store]
      exact (hpayload payload.data).wipe
  | ok u payload =>
      dsimp only
      rw [sat_bind, sat_store]
      refine .ite (fun _ => (hpayload payload.data).wipe) fun _ => ?_
      rw [sat_bind, sat_store, sat_bind, sealPayload]
      refine .ite (fun haead => ?_) fun _ => ?_
      · have hmeta : encodeMetadataSize s.runtime = lsEnvelopeSecurityMetadataSize := if_pos haead
        rw [hmeta] at hpayload ⊢
        have hheader := (hpayload payload.data).store 0
          (writeHeader event.type.code (encodeArchitecture s.runtime event)
            (encodeFlags s.runtime payload.truncated) sequence
            (lsCrc32 payload.data ^^^ sequence ^^^ lsHashString (some b.buildId))
            (UInt32.ofNat payload.data.length))
          (by rw [writeHeader_length]; omega)
        refine (failed_sealAead_clears c random _ _ hheader).mono fun _ _ _ => ?_
        rw [sat_modify]
        trivial
      · refine (sealPlain_completes c _ _).mono fun _ _ _ => ?_
        rw [sat_modify]
        trivial

end Latch
