/-
The functions of `src/core/provisioning.c` and `src/core/ota.c` that change the boot state.

Each of them checks the boot state, changes it in memory and saves it. The secure element
and the update backend are their answers.
-/
import Latch.Core.Boot

namespace Latch

open Bytes Exec

/-! ### Provisioning -/

/-- `LS_PROVISIONING_UNPROVISIONED`. -/
def lsProvisioningUnprovisioned : UInt8 := 0

/-- `LS_PROVISIONING_ACTIVE`. -/
def lsProvisioningActive : UInt8 := 1

/-- `LS_PROVISIONING_ROTATING`. -/
def lsProvisioningRotating : UInt8 := 2

/-- `LS_PROVISIONING_REVOKED`. -/
def lsProvisioningRevoked : UInt8 := 3

/-- `LS_PROVISIONING_DECOMMISSIONED`. -/
def lsProvisioningDecommissioned : UInt8 := 4

/-- `LS_PROVISIONING_DECOMMISSIONING`. -/
def lsProvisioningDecommissioning : UInt8 := 5

/-- `ls_provisioning_state_t`. -/
structure ProvisioningState where
  state : UInt8
  keyId : UInt32
  pendingKeyId : UInt32
  generation : UInt32
  monotonicCounter : UInt32
  deriving DecidableEq

/-- `ls_provisioning_get_state`. -/
def lsProvisioningGetState (p : PersistentBoot) : ProvisioningState :=
  { state := p.provisionState, keyId := p.provisionKeyId, pendingKeyId := p.provisionPendingKeyId
    generation := p.provisionGeneration, monotonicCounter := p.provisionMonotonicCounter }

/-- `monotonic_allowed`. -/
def monotonicAllowed (p : PersistentBoot) (counter : UInt32) : Bool :=
  counter ≠ 0 ∧ p.provisionMonotonicCounter < counter

/-- The next provisioning generation, which does not wrap. -/
def PersistentBoot.nextGeneration (p : PersistentBoot) : UInt32 :=
  if p.provisionGeneration ≠ 0xffffffff then p.provisionGeneration + 1 else p.provisionGeneration

/-- `ls_security_clear_key`. -/
def lsSecurityClearKey : MachineM Unit :=
  updateRuntime fun rt => { rt with securityKey := [], lastEnvelopeNonce := none }

section

variable (bd : Build)

/-- `ls_provisioning_activate`. -/
def lsProvisioningActivate (keyId monotonicCounter : UInt32) : MachineM Unit :=
  saveIf bd
    (fun p => keyId ≠ 0 ∧ monotonicAllowed p monotonicCounter ∧
      (p.provisionState = lsProvisioningUnprovisioned ∨ p.provisionState = lsProvisioningRevoked))
    fun p => { p with provisionState := lsProvisioningActive, provisionKeyId := keyId
                      provisionPendingKeyId := 0, provisionMonotonicCounter := monotonicCounter
                      provisionGeneration := p.nextGeneration }

/-- `ls_provisioning_begin_rotation`. -/
def lsProvisioningBeginRotation (newKeyId monotonicCounter : UInt32) : MachineM Unit :=
  saveIf bd
    (fun p => p.provisionState = lsProvisioningActive ∧ newKeyId ≠ 0 ∧
      newKeyId ≠ p.provisionKeyId ∧ monotonicAllowed p monotonicCounter)
    fun p => { p with provisionState := lsProvisioningRotating, provisionPendingKeyId := newKeyId
                      provisionMonotonicCounter := monotonicCounter }

/-- `ls_provisioning_commit_rotation`. -/
def lsProvisioningCommitRotation : MachineM Unit :=
  saveIf bd (fun p => p.provisionState = lsProvisioningRotating ∧ p.provisionPendingKeyId ≠ 0)
    fun p => { p with provisionKeyId := p.provisionPendingKeyId, provisionPendingKeyId := 0
                      provisionState := lsProvisioningActive
                      provisionGeneration := p.nextGeneration }

/-- `ls_provisioning_revoke`. -/
def lsProvisioningRevoke : MachineM Unit := do
  let m ← getRam
  if m.persistent.provisionState ≠ lsProvisioningActive ∧
      m.persistent.provisionState ≠ lsProvisioningRotating then throw (.fail .einval)
  else do
    lsSecurityClearKey
    saveWith bd fun p =>
      { p with provisionState := lsProvisioningRevoked, provisionPendingKeyId := 0 }

/-- `ls_provisioning_decommission`. -/
def lsProvisioningDecommission : MachineM Unit := do
  let m ← getRam
  if m.persistent.provisionState = lsProvisioningDecommissioned then pure ()
  else do
    lsSecurityClearKey
    saveWith bd fun p =>
      { p with provisionState := lsProvisioningDecommissioned, provisionKeyId := 0
               provisionPendingKeyId := 0, provisionGeneration := p.nextGeneration }

/-- Sets the provisioning state in memory. -/
def Machine.withProvisionState (m : Machine) (state : UInt8) : Machine :=
  m.setRuntime { m.runtime with persistent := { m.persistent with provisionState := state } }

/-- The first part of `ls_provisioning_decommission_secure`: the intention is saved, or the
state in memory goes back to what it was. -/
def beginDecommission (previous : UInt8) : MachineM Unit :=
  if previous = lsProvisioningDecommissioning then pure ()
  else onFailure (fun m => m.withProvisionState previous) <|
    saveWith bd fun p => { p with provisionState := lsProvisioningDecommissioning }

/-- The secure element as far as it is used here: its `destroy_key` callback with its
answer, if there is one. -/
structure SecureElement where
  destroyKey : Option (Option Errno)
  deriving DecidableEq

/-- `ls_secure_element_destroy_key` of a secure element: its error, if any. A call of the
callback is noted. -/
def lsSecureElementDestroyKey (element : SecureElement) (keyId : UInt32) :
    MachineM (Option Errno) :=
  if keyId = 0 then return some .einval
  else match element.destroyKey with
    | none => return some .enotsup
    | some failure => do
      modifyRam fun m => m.noted (.destroyed keyId m.persistent)
      return failure

/-- The second part of `ls_provisioning_decommission_secure`. -/
def finishDecommission (element : SecureElement) (keyId : UInt32) : MachineM Unit := do
  match ← lsSecureElementDestroyKey element keyId with
  | some e => do
    lsSecurityClearKey
    throw (.fail e)
  | none => lsProvisioningDecommission bd

/-- `ls_provisioning_decommission_secure`. -/
def lsProvisioningDecommissionSecure (element : Option SecureElement) : MachineM Unit := do
  let m ← getRam
  let state := m.persistent.provisionState
  if state = lsProvisioningDecommissioned then pure ()
  else if m.persistent.provisionKeyId = 0 ∨ (state ≠ lsProvisioningActive ∧
      state ≠ lsProvisioningRevoked ∧ state ≠ lsProvisioningDecommissioning) then
    throw (.fail .einval)
  else
    match element with
    | none => throw (.fail .einval)
    | some element => do
      beginDecommission bd state
      finishDecommission bd element m.persistent.provisionKeyId

/-! ### Updates over the air -/

/-- The answers of a valid `ls_ota_backend_t`. -/
structure OtaBackend where
  authenticate : Option Errno
  stage : Option Errno
  requestBoot : Option Errno
  confirm : Option Errno
  rollback : Option Errno
  deriving DecidableEq

/-- Goes on if a callback answers `LS_OK`. -/
def answered (failure : Option Errno) : MachineM Unit :=
  match failure with
  | none => pure ()
  | some e => throw (.fail e)

/-- `digest_fingerprint`. -/
def digestFingerprint (digest : List UInt8) : UInt32 :=
  if get32 digest 0 = 0 then 1 else get32 digest 0

/-- The end of `ls_ota_stage_candidate`: a boot that was refused takes the stage back. -/
def requestBoot (failure : Option Errno) (versionCounter : UInt32) (release : Option (List UInt8)) :
    MachineM Unit :=
  match failure with
  | some e => do
    ignoring (lsUpdateAbortStage bd versionCounter)
    throw (.fail e)
  | none => do
    lsReleaseMarkPending bd release
    lsResetMarkExpected bd true

/-- `ls_ota_stage_candidate`; an invalid backend is `none`, a null pointer the empty list. -/
def lsOtaStageCandidate (sha256 : List UInt8 → List UInt8) (backend : Option OtaBackend)
    (versionCounter signingKeyId : UInt32) (image signature : List UInt8) : MachineM Unit := do
  let m ← getRam
  match backend with
  | none => throw (.fail .einval)
  | some backend =>
    if image = [] ∨ signature = [] ∨ signingKeyId = 0 ∨
        ¬ lsUpdateVersionAllowed m.persistent versionCounter then throw (.fail .einval)
    else do
      answered backend.authenticate
      answered backend.stage
      lsUpdateStage bd versionCounter (digestFingerprint (sha256 image)) signingKeyId
      requestBoot bd backend.requestBoot versionCounter m.runtime.config.identity.firmwareVersion

/-- `ls_ota_confirm_running`. -/
def lsOtaConfirmRunning (backend : Option OtaBackend) (versionCounter : UInt32) : MachineM Unit :=
  match backend with
  | none => throw (.fail .einval)
  | some backend =>
    if versionCounter = 0 then throw (.fail .einval)
    else do
      answered backend.confirm
      lsUpdateConfirmVersion bd versionCounter
      lsReleaseConfirm bd
      lsResetMarkExpected bd false

/-- `ls_ota_request_rollback`. -/
def lsOtaRequestRollback (backend : Option OtaBackend) (failedVersion : UInt32) : MachineM Unit :=
  match backend with
  | none => throw (.fail .einval)
  | some backend =>
    if failedVersion = 0 then throw (.fail .einval)
    else do
      answered backend.rollback
      lsUpdateMarkVersionRollback bd failedVersion
      lsReleaseMarkRollback bd
      lsResetMarkExpected bd true

end

lemma digestFingerprint_ne_zero (digest : List UInt8) : digestFingerprint digest ≠ 0 := by
  unfold digestFingerprint
  split
  · decide
  · assumption

lemma answered_spec (failure : Option Errno) (s : System Machine) :
    Sat (answered failure) s (fun _ s' => failure = none ∧ s' = s)
      (fun _ s' => failure ≠ none ∧ s' = s) := by
  cases failure with
  | none => exact .pure ⟨rfl, rfl⟩
  | some e => exact .throw ⟨nofun, rfl⟩

end Latch
