/-
When `ls_envelope_encode` returns.

The identity, the reset, the event and the processor context are required; every section behind
them is left out where it does not fit. So the encoder returns exactly if the required fields
fit, and their size depends on the configured strings and on the context only.

* `Takes`, `Needs`: a part of the encoder with the room that it takes or needs;
* `needs_putPayload`, `putPayload_requires`: `put_payload` needs `requiredSize`;
* `lsEnvelopeEncode_room`: without a key, the encoder needs the header and the CRC around it.
-/
import Latch.Envelope.Complete

namespace Latch

open Bytes Exec Tlv

/-! ### Room -/

/-- A part of the encoder that writes `n` bytes, or fails where there is less room. -/
def Takes (n : ℕ) (x : EncodeM Unit) : Prop :=
  ∀ s, s.data.length ≤ s.capacity → Sat x s
    (fun _ s' => s'.capacity = s.capacity ∧ s'.data.length = s.data.length + n ∧
      s'.data.length ≤ s.capacity)
    (fun _ _ => s.capacity < s.data.length + n)

/-- A part of the encoder that returns exactly if there is room for `n` bytes. -/
def Needs (n : ℕ) (x : EncodeM Unit) : Prop :=
  ∀ s, s.data.length ≤ s.capacity → Sat x s (fun _ _ => s.data.length + n ≤ s.capacity)
    (fun _ _ => s.capacity < s.data.length + n)

section

variable {n m : ℕ} {x y : EncodeM Unit}

lemma Takes.needs (h : Takes n x) : Needs n x := fun s hs =>
  (h s hs).mono fun _ _ h => h.2.1 ▸ h.2.2

lemma Takes.bind (hx : Takes n x) (hy : Takes m y) : Takes (n + m) (x >>= fun _ => y) := by
  intro s hs
  refine (hx s hs).bind (fun _ s₁ h₁ => ?_) (fun _ _ h => by omega)
  obtain ⟨hcap, hlen, hfit⟩ := h₁
  refine (hy s₁ (by omega)).mono (fun _ s₂ h₂ => ?_) (fun _ _ h => by omega)
  exact ⟨h₂.1.trans hcap, by omega, by omega⟩

lemma Takes.needs_bind (hx : Takes n x) (hy : Needs m y) : Needs (n + m) (x >>= fun _ => y) := by
  intro s hs
  refine (hx s hs).bind (fun _ s₁ ⟨hcap, hlen, hfit⟩ => ?_) (fun _ _ h => by omega)
  exact (hy s₁ (by omega)).mono (fun _ _ h => by omega) (fun _ _ h => by omega)

lemma Needs.bind_writes {P : UInt16 → Prop} (hx : Needs n x) (hy : Writes P False y) :
    Needs n (x >>= fun _ => y) := by
  intro s hs
  exact (hx s hs).bind fun _ s₁ h₁ => (hy s₁).mono fun _ _ _ => h₁

lemma takes_pure : Takes 0 (pure ()) := fun _ hs => .pure ⟨rfl, rfl, hs⟩

end

/-! ### Fields -/

section

variable {t : TlvType} {capacity : ℕ} {pieces : List (List UInt8)}

lemma takes_lsWriterTlv {value : List UInt8} (hv : value.length < 2 ^ 16) :
    Takes (4 + value.length) (lsWriterTlv t.code value) := by
  intro s hs
  by_cases hroom : s.data.length + (4 + value.length) ≤ s.capacity
  · refine (lsWriterTlv_fits t.code_ne hv (by simpa using hroom)).mono fun _ s' h => ?_
    subst h
    refine ⟨rfl, ?_, ?_⟩ <;> simp [Encoder.fill, hroom]
  · refine (lsWriterTlv_spec t.code_ne value s).mono (fun _ s' h => ?_) (fun _ _ _ => by omega)
    obtain ⟨rfl, hfit⟩ := h
    rw [push_eq_fill t.code_ne hv, Encoder.fill, List.length_append, pairBytes_length] at hfit
    exact absurd hfit hroom

/-- A required field of fixed content. -/
lemma takes_required (h : pieces.flatten.length ≤ capacity) (hc : capacity < 2 ^ 16) :
    Takes (4 + pieces.flatten.length)
      (nestedValue capacity (writeAll pieces) >>= fun value => lsWriterTlv t.code value) := by
  intro s hs
  refine (nestedValue_writeAll capacity pieces s).bind (fun value s₁ h₁ => ?_)
    fun _ _ hlack => absurd hlack.2.2 (by omega)
  obtain ⟨rfl, -, rfl⟩ := h₁
  exact takes_lsWriterTlv (by omega) s₁ hs

end

/-! ### The required sections -/

section

variable (b : Build) (rt : Runtime)

/-- The size of the texts of the identity, each with its number and its length. -/
def textsSize (texts : List (Option (List UInt8))) : ℕ :=
  (texts.map fun text => 2 + min (textOf text).length 255).sum

/-- The size of the value of the field `IDENTITY`, where there is room for it. -/
def identitySize : ℕ := min 512 (textsSize (identityFields b rt))

lemma length_le_textsSize (texts : List (Option (List UInt8))) :
    texts.length * 2 ≤ textsSize texts := by
  induction texts with
  | nil => exact Nat.zero_le _
  | cons text rest ih =>
      rw [textsSize, List.map_cons, List.sum_cons, List.length_cons]
      rw [textsSize] at ih
      omega

/-- A string field of which the room is known to be there. -/
lemma sat_putStringField (field : UInt8) (text : Option (List UInt8)) {valueLimit : ℕ}
    {s : Encoder}
    (h : s.data.length + 2 + stringLength (textOf text) valueLimit ≤ s.capacity) :
    Sat (putStringField field text valueLimit) s
      (fun _ s' => s'.capacity = s.capacity ∧
        s'.data.length = s.data.length + 2 + stringLength (textOf text) valueLimit)
      fun _ _ => False := by
  have hmark (c : Prop) [Decidable c] (s : Encoder) : Sat (markIf c) s
      (fun _ s' => s'.capacity = s.capacity ∧ s'.data = s.data) fun _ _ => False := by
    rw [markIf, sat_ite]
    exact ⟨fun _ => (sat_modify _).mpr ⟨rfl, rfl⟩, fun _ => .pure ⟨rfl, rfl⟩⟩
  rw [putStringField]
  refine (hmark _ s).bind fun _ s₁ h₁ => ?_
  refine (hmark _ s₁).bind fun _ s₂ h₂ => ?_
  have hcap : s₂.capacity = s.capacity := h₂.1.trans h₁.1
  have hlen : s₂.data.length = s.data.length := by rw [h₂.2, h₁.2]
  have htaken : ((textOf text).take (stringLength (textOf text) valueLimit)).length =
      stringLength (textOf text) valueLimit := by
    rw [List.length_take]
    exact min_eq_left ((min_le_left _ _).trans (min_le_left _ _))
  rw [sat_bind, sat_lsWriterWrite (by rw [List.length_singleton]; omega), sat_bind,
    sat_lsWriterWrite (by simp; omega), sat_lsWriterWrite (by
      simp only [Encoder.append_data, Encoder.append_capacity, List.length_append,
        List.length_singleton]
      exact le_trans (by rw [htaken]; omega) le_rfl)]
  refine ⟨hcap, ?_⟩
  simp only [Encoder.append_data, List.length_append, List.length_singleton]
  rw [htaken]
  omega

/-- The strings take what they need, or all the room that there is. -/
lemma putIdentityFields_room (index : ℕ) (texts : List (Option (List UInt8))) {s : Encoder}
    (h : s.data.length + texts.length * 2 ≤ s.capacity) :
    Sat (putIdentityFields index texts) s
      (fun _ s' => s'.data.length = min s.capacity (s.data.length + textsSize texts))
      fun _ _ => False := by
  induction texts generalizing index s with
  | nil =>
      refine .pure (min_eq_right ?_).symm
      simpa [textsSize] using h
  | cons text rest ih =>
      have hrest := length_le_textsSize rest
      have hsize : textsSize (text :: rest) = 2 + min (textOf text).length 255 + textsSize rest :=
        rfl
      rw [List.length_cons] at h
      rw [putIdentityFields, sat_bind, writerRemaining, sat_map, sat_get, if_neg (by omega),
        sat_bind]
      have hlimit : stringLength (textOf text) (s.capacity - s.data.length - 2 - rest.length * 2) =
          min (min (textOf text).length 255)
            (s.capacity - s.data.length - 2 - rest.length * 2) := rfl
      refine (sat_putStringField _ text (by omega)).mono fun _ s₁ h₁ => ?_
      obtain ⟨hcap, hlen⟩ := h₁
      refine (ih (index + 1) (by omega)).mono fun _ s₂ h₂ => ?_
      rw [h₂, hcap, hlen, hsize]
      omega

/-- `put_identity` takes what it needs, or all the room that there is. -/
lemma putIdentity_room {s : Encoder} (hs : s.data.length ≤ s.capacity) :
    Sat (putIdentity b rt) s
      (fun _ s' => s'.capacity = s.capacity ∧
        s'.data.length = min s.capacity (s.data.length + (4 + identitySize b rt)))
      fun _ _ => s.capacity < s.data.length + (4 + identitySize b rt) := by
  have hcount : (identityFields b rt).length = 15 := rfl
  have hsize := length_le_textsSize (identityFields b rt)
  rw [putIdentity, sat_bind, writerRemaining, sat_map, sat_get]
  refine .ite (fun hroom => .throw ?_) fun hroom => ?_
  · rw [identitySize]
    omega
  set capacity := min (s.capacity - s.data.length - 4) 512 with hcapacity
  have hrun := putIdentityFields_room 0 (identityFields b rt)
    (s := { s with capacity := capacity, data := [] }) (by simp only [List.length_nil]; omega)
  obtain ⟨_, s₁, hok, hlen⟩ := hrun.exists_ok
  have hnested : nested capacity (putIdentityFields 0 (identityFields b rt)) s =
      .ok (.ok s₁.data) { s with truncated := s₁.truncated } := by
    rw [nested, hok]
  have hvalue : nestedValue capacity (putIdentityFields 0 (identityFields b rt)) s =
      .ok s₁.data { s with truncated := s₁.truncated } := bind_of_ok hnested
  have hlen : s₁.data.length = min capacity (textsSize (identityFields b rt)) := by
    simpa using hlen
  rw [sat_bind]
  refine @Sat.of_eq _ _ _ _ _ _ _ (pure s₁.data) { s with truncated := s₁.truncated } hvalue
    (.pure ?_)
  refine (takes_lsWriterTlv (t := .identity) (by omega) { s with truncated := s₁.truncated } hs).mono
    (fun _ s₂ h₂ => ⟨h₂.1, ?_⟩) (fun _ _ h => ?_)
  · have hlen₂ := h₂.2.1
    dsimp only at hlen₂
    rw [hlen₂, identitySize]
    omega
  · dsimp only at h
    rw [identitySize]
    omega

/-- What follows the identity finds room only if the identity did not take all of it. -/
lemma needs_putIdentity {m : ℕ} (hm : 0 < m) {y : EncodeM Unit} (hy : Needs m y) :
    Needs (4 + identitySize b rt + m) (putIdentity b rt >>= fun _ => y) := by
  intro s hs
  refine (putIdentity_room b rt hs).bind (fun _ s₁ ⟨hcap, hlen⟩ => ?_) (fun _ _ h => by omega)
  exact (hy s₁ (by omega)).mono (fun _ _ h => by omega) (fun _ _ h => by omega)

lemma takes_putReset (event : Event) : Takes 24 (putReset rt event) :=
  takes_required (by simp [flagByte]) (by norm_num)

lemma takes_putEvent (event : Event) : Takes 35 (putEvent event) :=
  takes_required (by simp [eventPieces]) (by norm_num)

/-- The size of the fields `CPU` and `FAULT`. -/
def legacySize (cpu : ArchContext) : ℕ :=
  4 + (2 + 32 * 4 + 18 * 4 + 2 + if cpu.hasFpu then 17 * 4 else 0) + (4 + 13 * 4)

lemma takes_putLegacy (cpu : ArchContext) : Takes (legacySize cpu) (putLegacy cpu) := by
  have hcpu : Takes _ (nestedValue 512 (writeAll (cpuPieces cpu)) >>= fun value =>
      lsWriterTlv TlvType.cpu.code value) := takes_required (by
    rw [cpuPieces_length]
    split <;> omega) (by norm_num)
  have hfault : Takes _ (nestedValue 64 (writeAll (faultPieces cpu)) >>= fun value =>
      lsWriterTlv TlvType.fault.code value) := takes_required (by
    rw [faultPieces_length]
    omega) (by norm_num)
  have hboth := hcpu.bind hfault
  rwa [bind_assoc, cpuPieces_length, faultPieces_length] at hboth

lemma takes_putCpu64 (context : Riscv64Context) (complete : Bool) :
    Takes (if complete then 296 else 8) (putCpu64 context complete) := by
  cases complete with
  | false => exact takes_required (by simp) (by norm_num)
  | true =>
      have h : Takes (4 + (cpu64Bytes context).length) (putCpu64 context true) :=
        takes_required (cpu64Bytes_length context).le (by norm_num)
      rwa [cpu64Bytes_length] at h

lemma takes_markIf (c : Prop) [Decidable c] : Takes 0 (markIf c) := by
  intro s hs
  rw [markIf, sat_ite]
  exact ⟨fun _ => (sat_modify _).mpr ⟨rfl, rfl, hs⟩, fun _ => .pure ⟨rfl, rfl, hs⟩⟩

/-- The least size of the fields of a processor context. An RV64 bank that does not fit is
replaced by a descriptor. -/
def cpuSize : Option ArchContext → ℕ
  | none => 0
  | some cpu => (if cpu.architecture = lsArchRiscv64 then 8 else 0) + legacySize cpu

lemma needs_putCpu (cpu : Option ArchContext) (riscv64 : Option Riscv64Context) :
    Needs (cpuSize cpu) (putCpu cpu riscv64) := by
  cases cpu with
  | none => exact takes_pure.needs
  | some c =>
      have hput : putCpu (some c) riscv64 = putWide c riscv64 >>= fun _ => putLegacy c := rfl
      rw [hput, cpuSize]
      by_cases harch : c.architecture = lsArchRiscv64
      swap
      · rw [putWide, if_neg harch, if_neg harch]
        exact (takes_pure.bind (takes_putLegacy c)).needs
      rw [putWide_eq riscv64 harch, if_pos harch, bind_assoc]
      intro s hs
      rw [sat_bind, writerRemaining, sat_map, sat_get]
      have hboth := (((takes_putCpu64 (riscv64.getD default)
        (decide (WideFits c riscv64 (s.capacity - s.data.length)))).bind
          (takes_markIf (¬ WideFits c riscv64 (s.capacity - s.data.length)))).bind
            (takes_putLegacy c)).needs s hs
      by_cases hfull : WideFits c riscv64 (s.capacity - s.data.length)
      · have hroom := hfull.2
        simp only [hfull, decide_true, if_true] at hboth
        simp only [hfull, decide_true]
        have hlegacy : legacySize c =
            4 + (2 + 32 * 4 + 18 * 4 + 2 + if c.hasFpu then 17 * 4 else 0) + (4 + 13 * 4) := rfl
        exact hboth.mono (fun _ _ h => by omega) (fun _ _ h => by omega)
      · simp only [hfull, decide_false, Bool.false_eq_true, if_false] at hboth
        simp only [hfull, decide_false]
        exact hboth.mono (fun _ _ h => by omega) (fun _ _ h => by omega)

/-! ### The payload and the envelope -/

/-- The size of the fields that an envelope cannot do without. -/
def requiredSize (event : Event) : ℕ :=
  4 + identitySize b rt + (24 + (35 + cpuSize event.cpu))

/-- **When a payload is complete enough.** -/
lemma needs_putPayload (hmission : NoMission rt) (bb : Blackbox) (mem : ℕ → UInt8)
    (uptimeMs : UInt32) (event : Event) :
    Needs (requiredSize b rt event) (putPayload b rt bb mem uptimeMs event) :=
  needs_putIdentity b rt (by omega) ((takes_putReset rt event).needs_bind
    ((takes_putEvent event).needs_bind ((needs_putCpu event.cpu event.riscv64).bind_writes
      fun s => (writes_putRest b rt bb mem uptimeMs event s).mono (fun _ _ h => h)
        fun _ _ h => h hmission)))

/-- Whatever the mission, a payload that is complete has room for the required fields. -/
lemma putPayload_requires (bb : Blackbox) (mem : ℕ → UInt8) (uptimeMs : UInt32) (event : Event)
    {s : Encoder} (hs : s.data.length ≤ s.capacity) :
    Returns (putPayload b rt bb mem uptimeMs event) s fun _ _ =>
      s.data.length + requiredSize b rt event ≤ s.capacity := by
  have hsplit : putPayload b rt bb mem uptimeMs event =
      (putIdentity b rt >>= fun _ => putReset rt event >>= fun _ => putEvent event >>= fun _ =>
        putCpu event.cpu event.riscv64) >>= fun _ => putRest b rt bb mem uptimeMs event := by
    simp only [bind_assoc]
    rfl
  have hneeds := needs_putIdentity b rt (m := 24 + (35 + cpuSize event.cpu)) (by omega)
    ((takes_putReset rt event).needs_bind ((takes_putEvent event).needs_bind
      (needs_putCpu event.cpu event.riscv64)))
  rw [Returns, hsplit, sat_bind]
  exact (hneeds s hs).mono
    fun _ _ h => (sat_run _ _).mono fun _ _ _ => h

end

/-- **When the encoder returns.** Without a key, and without a mission to report, it does so
exactly if the header, the required fields and the CRC fit the buffer. -/
theorem lsEnvelopeEncode_room {b : Build} {c : Crypto} {bb : Blackbox} {mem : ℕ → UInt8}
    {uptimeMs : UInt32} {random : Except Errno Nonce} {event : Event} {capacity : ℕ}
    {sequence : UInt32} {s : EncodeState} (hkey : lsSecurityEnabled s.runtime = false)
    (hmission : NoMission s.runtime) (hcapacity : capacity < 2 ^ 32) :
    Sat (lsEnvelopeEncode b c bb mem uptimeMs random event capacity sequence) s
      (fun _ _ => lsLepHeaderSize + requiredSize b s.runtime event + 4 ≤ capacity)
      (fun _ _ => capacity < lsLepHeaderSize + requiredSize b s.runtime event + 4) := by
  have haead : aead s.runtime = false := by simp [aead, hkey]
  have hmeta : encodeMetadataSize s.runtime = 0 := by simp [encodeMetadataSize, haead]
  have hauth : encodeAuthenticationSize s.runtime = 0 := by simp [encodeAuthenticationSize, hkey]
  have hwipe {len : ℕ} {e : Errno} {t : EncodeState} {P P' : Prop} (h : P') :
      Sat (wipe len e : EnvelopeM Unit) t (fun _ _ => P) (fun _ _ => P') := by
    rw [wipe, sat_bind, sat_modify, sat_throw]
    exact h
  have hroom : (payloadWriter s.runtime capacity).capacity = capacity - lsLepHeaderSize - 4 := by
    simp [payloadWriter, hmeta, hauth]
  have hneeds := needs_putPayload b s.runtime hmission bb mem uptimeMs event
    (payloadWriter s.runtime capacity) (Nat.zero_le _)
  rw [hroom] at hneeds
  rw [lsEnvelopeEncode, sat_bind, sat_get, sat_ite, hmeta, hauth]
  refine ⟨fun hsmall => .throw (by omega), fun hsmall => ?_⟩
  cases hpay : putPayload b s.runtime bb mem uptimeMs event (payloadWriter s.runtime capacity) with
  | error e payload =>
      have hlack := sat_of_error hneeds hpay
      simp only [payloadWriter, List.length_nil] at hlack
      dsimp only
      rw [sat_bind, sat_store]
      exact hwipe (by omega)
  | ok u payload =>
      have hfits := sat_of_ok hneeds hpay
      simp only [payloadWriter, List.length_nil] at hfits
      obtain ⟨_, _, _, _, -, -, -, -, -, hext⟩ := sat_of_ok (putPayload_spec b s.runtime bb mem
        uptimeMs event (payloadWriter s.runtime capacity)) hpay
      have hlen := hext.fits (Nat.zero_le _)
      rw [hroom] at hlen
      dsimp only
      rw [sat_bind, sat_store, if_neg (by omega), sat_bind, sat_store, sat_bind, sealPayload,
        haead]
      refine (sealPlain_completes c _ _).mono fun _ t _ => (sat_modify _).mpr ?_
      omega

end Latch
