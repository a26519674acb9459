/-
The attestation of `src/core/provisioning.c`.

A request concatenates the challenge of the verifier, the device id, the build id and three
words, and has the hash of this string signed. The texts stand one behind the other without their
lengths, so a byte can belong to the challenge or to the device id.

* `lsProvisioningAttest_spec`: what is hashed, and which requests are accepted;
* `attest_binds_iff`: between which two identities the string tells every two requests apart;
* `attest_confused`: two requests with one string.
-/
import Latch.Core.Runtime
import Latch.Security.Sha256

namespace Latch

open Bytes Exec

/-! ### The function -/

/-- What an attestation is about. -/
structure Attestation where
  challenge : List UInt8
  device : List UInt8
  build : List UInt8
  generation : UInt32
  monotonicCounter : UInt32
  bootCount : UInt32
  deriving DecidableEq

/-- The request of a challenge. A device without an id has an empty one. -/
def Runtime.attestation (bd : Build) (rt : Runtime) (challenge : List UInt8) : Attestation where
  challenge := challenge
  device := rt.config.identity.deviceId.getD []
  build := rt.config.identity.firmwareBuildId.getD bd.buildId
  generation := rt.persistent.provisionGeneration
  monotonicCounter := rt.persistent.provisionMonotonicCounter
  bootCount := rt.bootCount

/-- The bytes of `material`. -/
def Attestation.material (a : Attestation) : List UInt8 :=
  a.challenge ++ a.device ++ a.build ++
    (le32 a.generation ++ le32 a.monotonicCounter ++ le32 a.bootCount)

/-- The secure element as far as it is used here: its `sign_sha256` callback, if there is one. -/
structure Signer where
  signSha256 : Option (List UInt8 → Except Errno (List UInt8))

/-- `ls_secure_element_sign`. -/
def lsSecureElementSign (element : Signer) (digest : List UInt8) : Except Errno (List UInt8) :=
  match element.signSha256 with
  | none => .error .einval
  | some sign => sign digest

/-- `ls_provisioning_attest`: the digest and the signature. -/
def lsProvisioningAttest (bd : Build) (element : Option Signer) (challenge : List UInt8) :
    MachineM (List UInt8 × List UInt8) := do
  let m ← getRam
  let request := m.runtime.attestation bd challenge
  match element with
  | none => throw (.fail .einval)
  | some element =>
    if 128 < challenge.length then throw (.fail .einval)
    else if 256 < challenge.length + request.device.length + request.build.length + 12 then
      throw (.fail .enospace)
    else
      let digest := lsSha256 request.material
      match lsSecureElementSign element digest with
      | .error e => throw (.fail e)
      | .ok signature => pure (digest, signature)

/-- The request passes the checks. -/
def Attestation.Accepted (a : Attestation) : Prop :=
  a.challenge.length ≤ 128 ∧ a.challenge.length + a.device.length + a.build.length + 12 ≤ 256

instance (a : Attestation) : Decidable a.Accepted := inferInstanceAs (Decidable (_ ∧ _))

/-- What is signed is the hash of the request, and only an accepted one is signed. -/
lemma lsProvisioningAttest_spec (bd : Build) (element : Option Signer) (challenge : List UInt8)
    (s : System Machine) :
    Returns (lsProvisioningAttest bd element challenge) s fun r s' => s' = s ∧
      (s.ram.runtime.attestation bd challenge).Accepted ∧
      r.1 = lsSha256 (s.ram.runtime.attestation bd challenge).material := by
  rw [Returns, lsProvisioningAttest, sat_bind, sat_getRam]
  cases element with
  | none => exact .throw trivial
  | some element =>
      dsimp only
      rw [sat_ite, sat_ite]
      refine ⟨fun _ => .throw trivial, fun hlen => ⟨fun _ => .throw trivial,
        fun hroom => ?_⟩⟩
      split
      · exact .throw trivial
      · exact .pure ⟨rfl, ⟨not_lt.mp hlen, not_lt.mp hroom⟩, rfl⟩

/-! ### What the string tells apart -/

section Binding

variable {a a' : Attestation} {bd : Build} {i i' : Identity}

lemma le32_injective {x y : UInt32} (h : le32 x = le32 y) : x = y := by
  have hx := num_put 4 x.toNat
  have hy := num_put 4 y.toNat
  have hnum : num (le32 x) = num (le32 y) := by rw [h]
  rw [le32, le32, hx, hy] at hnum
  have hxlt := x.toNat_lt
  have hylt := y.toNat_lt
  apply UInt32.toNat_inj.mp
  omega

/-- Equal strings: the words are equal, and one challenge takes in the start of the other text. -/
lemma material_eq_iff : a.material = a'.material ↔
    (a.challenge ++ (a.device ++ a.build) = a'.challenge ++ (a'.device ++ a'.build)) ∧
      a.generation = a'.generation ∧ a.monotonicCounter = a'.monotonicCounter ∧
      a.bootCount = a'.bootCount := by
  constructor
  · intro h
    obtain ⟨htexts, hwords⟩ := List.append_inj' h (by simp)
    obtain ⟨hwords, hboot⟩ := List.append_inj' hwords (by simp)
    obtain ⟨hgeneration, hcounter⟩ := List.append_inj' hwords (by simp)
    rw [List.append_assoc, List.append_assoc] at htexts
    exact ⟨htexts, le32_injective hgeneration, le32_injective hcounter, le32_injective hboot⟩
  · rintro ⟨htexts, hgeneration, hcounter, hboot⟩
    rw [← List.append_assoc, ← List.append_assoc] at htexts
    rw [Attestation.material, Attestation.material, htexts, hgeneration, hcounter, hboot]

/-- The device id of an identity. -/
def Identity.device (i : Identity) : List UInt8 := i.deviceId.getD []

/-- The build id of an identity. -/
def Identity.build (bd : Build) (i : Identity) : List UInt8 := i.firmwareBuildId.getD bd.buildId

/-- Both texts fit the buffer, and one is the other behind at most 128 more bytes. -/
def Confusable (bd : Build) (i i' : Identity) : Prop :=
  (i.device ++ i.build bd).length + 12 ≤ 256 ∧ (i'.device ++ i'.build bd).length + 12 ≤ 256 ∧
    ∃ t : List UInt8, t.length ≤ 128 ∧
      (i'.device ++ i'.build bd = t ++ (i.device ++ i.build bd) ∨
        i.device ++ i.build bd = t ++ (i'.device ++ i'.build bd))

/-- A runtime with an identity. -/
def identified (i : Identity) : Runtime :=
  { (default : Runtime) with config := { (default : Config) with identity := i } }

lemma identified_attestation (bd : Build) (i : Identity) (challenge : List UInt8) :
    (identified i).attestation bd challenge
      = ⟨challenge, i.device, i.build bd, (default : Runtime).persistent.provisionGeneration,
          (default : Runtime).persistent.provisionMonotonicCounter, (default : Runtime).bootCount⟩ :=
  rfl

/-- Two requests of confusable identities that share their string. -/
lemma Confusable.collision (h : Confusable bd i i') : ∃ challenge challenge' : List UInt8,
    ((identified i).attestation bd challenge).Accepted ∧
      ((identified i').attestation bd challenge').Accepted ∧
      ((identified i).attestation bd challenge).material
        = ((identified i').attestation bd challenge').material := by
  obtain ⟨hi, hi', t, ht, heq | heq⟩ := h
  · refine ⟨t, [], ?_, ?_, ?_⟩
    · have hlen := congrArg List.length heq
      rw [List.length_append, List.length_append, List.length_append] at hlen
      rw [List.length_append] at hi hi'
      exact ⟨ht, by rw [identified_attestation]; dsimp only; omega⟩
    · rw [List.length_append] at hi'
      exact ⟨Nat.zero_le _, by rw [identified_attestation]; dsimp only; simpa using hi'⟩
    · exact material_eq_iff.mpr ⟨heq.symm, rfl, rfl, rfl⟩
  · refine ⟨[], t, ?_, ?_, ?_⟩
    · rw [List.length_append] at hi
      exact ⟨Nat.zero_le _, by rw [identified_attestation]; dsimp only; simpa using hi⟩
    · have hlen := congrArg List.length heq
      rw [List.length_append, List.length_append, List.length_append] at hlen
      rw [List.length_append] at hi hi'
      exact ⟨ht, by rw [identified_attestation]; dsimp only; omega⟩
    · exact material_eq_iff.mpr ⟨heq, rfl, rfl, rfl⟩

end Binding

/-- **What an attestation binds.** For two identities, every two accepted requests that differ
hash different strings, exactly if the device and build ids are the same, or no text of device and
build id is the end of the other one within the bounds of the buffer. -/
theorem attest_binds_iff (bd : Build) (i i' : Identity) :
    (∀ (rt rt' : Runtime) (challenge challenge' : List UInt8), rt.config.identity = i →
      rt'.config.identity = i' → (rt.attestation bd challenge).Accepted →
      (rt'.attestation bd challenge').Accepted →
      rt.attestation bd challenge ≠ rt'.attestation bd challenge' →
      (rt.attestation bd challenge).material ≠ (rt'.attestation bd challenge').material) ↔
    (i.device = i'.device ∧ i.build bd = i'.build bd) ∨ ¬ Confusable bd i i' := by
  constructor
  · intro h
    by_contra hnot
    rw [not_or, not_not] at hnot
    obtain ⟨hdiffer, hconfusable⟩ := hnot
    obtain ⟨challenge, challenge', haccepted, haccepted', hsame⟩ := hconfusable.collision
    refine h _ _ challenge challenge' rfl rfl haccepted haccepted' (fun heq => hdiffer ?_) hsame
    exact ⟨congrArg Attestation.device heq, congrArg Attestation.build heq⟩
  · rintro h rt rt' challenge challenge' rfl rfl haccepted haccepted' hne hsame
    obtain ⟨htexts, hgeneration, hcounter, hboot⟩ := material_eq_iff.mp hsame
    -- one challenge is the other one with the bytes `t` behind it
    have hshift : ∃ t : List UInt8, (challenge' = challenge ++ t ∧
        rt.config.identity.device ++ rt.config.identity.build bd
          = t ++ (rt'.config.identity.device ++ rt'.config.identity.build bd)) ∨
        (challenge = challenge' ++ t ∧
          rt'.config.identity.device ++ rt'.config.identity.build bd
            = t ++ (rt.config.identity.device ++ rt.config.identity.build bd)) := by
      obtain ⟨t, h1, h2⟩ | ⟨t, h1, h2⟩ := List.append_eq_append_iff.mp htexts
      · exact ⟨t, .inl ⟨h1, h2⟩⟩
      · exact ⟨t, .inr ⟨h1, h2⟩⟩
    obtain ⟨t, hshift⟩ := hshift
    obtain ⟨hdevice, hbuild⟩ | hnot := h
    · -- the texts are equal, so nothing is shifted
      rw [hdevice, hbuild] at hshift
      have hnil : t = [] := by
        obtain ⟨-, h⟩ | ⟨-, h⟩ := hshift <;> exact List.self_eq_append_left.mp h
      subst hnil
      have hchallenge : challenge = challenge' := by
        obtain ⟨h, -⟩ | ⟨h, -⟩ := hshift
        · rw [h, List.append_nil]
        · rw [h, List.append_nil]
      refine hne ?_
      rw [Attestation.mk.injEq]
      exact ⟨hchallenge, hdevice, hbuild, hgeneration, hcounter, hboot⟩
    · obtain ⟨hlen, hfit⟩ := haccepted
      obtain ⟨hlen', hfit'⟩ := haccepted'
      change challenge.length ≤ 128 at hlen
      change challenge'.length ≤ 128 at hlen'
      change challenge.length + rt.config.identity.device.length
        + (rt.config.identity.build bd).length + 12 ≤ 256 at hfit
      change challenge'.length + rt'.config.identity.device.length
        + (rt'.config.identity.build bd).length + 12 ≤ 256 at hfit'
      refine hnot ⟨?_, ?_, t, ?_, ?_⟩
      · rw [List.length_append]
        omega
      · rw [List.length_append]
        omega
      · obtain ⟨h, -⟩ | ⟨h, -⟩ := hshift
        · rw [h, List.length_append] at hlen'
          omega
        · rw [h, List.length_append] at hlen
          omega
      · exact hshift.elim (fun h => .inr h.2) fun h => .inl h.2

/-- The identity of a device with a build id that `ls_init` accepts. -/
def labelled (device : List UInt8) : Identity :=
  { (default : Identity) with
    deviceId := some device
    firmwareBuildId := some [0x6c, 0x61, 0x74, 0x63, 0x68, 0x2d, 0x31, 0x2e, 0x30] }

/-- The challenge `a` of the device `bunit7` and the challenge `ab` of the device `unit7`: two
accepted requests with one string, so the signature of one answers the other. -/
theorem attest_confused :
    let rt := identified (labelled [0x62, 0x75, 0x6e, 0x69, 0x74, 0x37])
    let rt' := identified (labelled [0x75, 0x6e, 0x69, 0x74, 0x37])
    lsBuildIdValidate ((labelled []).build Build.default) = true ∧
      (rt.attestation Build.default [0x61]).Accepted ∧
      (rt'.attestation Build.default [0x61, 0x62]).Accepted ∧
      rt.attestation Build.default [0x61] ≠ rt'.attestation Build.default [0x61, 0x62] ∧
      (rt.attestation Build.default [0x61]).material
        = (rt'.attestation Build.default [0x61, 0x62]).material := by
  decide +kernel

end Latch
