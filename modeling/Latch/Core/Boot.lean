
/-
The boot state of `src/core/boot.c`: a record behind the spool that survives a reset, with
the anti-rollback floor, the provisioning marks and the last sequence number.

The record has had three layouts, each a prefix of the next one with its own CRC. `bootAt`
is what a medium holds. `ls_boot_state_load` takes it into memory
(`lsBootStateLoad_spec`), `ls_boot_state_save` writes the third layout over it
(`lsBootStateSave_spec`), and every other function changes the boot state in memory and
saves it.
-/
import Latch.Core.Machine

namespace Latch

open Bytes Exec Spool

/-! ### The record -/

/-- `LS_BOOT_MAGIC`. -/
def lsBootMagic : UInt32 := 0x544f4f42

/-- `LS_BOOT_VERSION`. -/
def lsBootVersion : UInt32 := 3

/-- `LS_BOOT_VERSION_V2`. -/
def lsBootVersionV2 : UInt32 := 2

/-- `LS_BOOT_VERSION_LEGACY`. -/
def lsBootVersionLegacy : UInt32 := 1

/-- `sizeof(ls_persistent_boot_v1_t)`. -/
def bootV1Size : ℕ := 44

/-- `sizeof(ls_persistent_boot_v2_t)`. -/
def bootV2Size : ℕ := 68

/-- `sizeof(ls_persistent_boot_t)`. -/
def bootSize : ℕ := 88

namespace PersistentBoot

variable (p : PersistentBoot)

/-- The fields that all layouts have. -/
def common : List UInt8 :=
  words [p.magic, p.version, p.bootCount, p.previousUptimeMs, p.consecutiveFailures,
    p.firstFailureMs, p.lastSequence, p.pendingCrashId, p.releaseHash] ++
    [p.crashPending, p.expectedReset, p.bootSuccessful, p.releaseState]

/-- The fields that came with the second layout. -/
def update : List UInt8 :=
  words [p.updateVersionFloor, p.updatePendingVersion, p.updateImageFingerprint,
    p.updateSigningKeyId, p.updateRollbackCount] ++
    [p.updateState, p.updateReserved 0, p.updateReserved 1, p.updateReserved 2]

/-- The fields that came with the third layout. -/
def provision : List UInt8 :=
  words [p.provisionKeyId, p.provisionPendingKeyId, p.provisionGeneration,
    p.provisionMonotonicCounter] ++
    [p.provisionState, p.provisionReserved 0, p.provisionReserved 1, p.provisionReserved 2]

/-- The bytes that the CRC of a boot state covers. -/
def covered : List UInt8 := p.common ++ (p.update ++ p.provision)

/-- The bytes of a boot state. -/
def bytes : List UInt8 := p.covered ++ le32 (lsCrc32 p.covered)

end PersistentBoot

/-- `boot_from_v1`. -/
def bootFromV1 (l : List UInt8) : PersistentBoot :=
  { (default : PersistentBoot) with
    magic := lsBootMagic, version := lsBootVersion, bootCount := get32 l 8
    previousUptimeMs := get32 l 12, consecutiveFailures := get32 l 16
    firstFailureMs := get32 l 20, lastSequence := get32 l 24, pendingCrashId := get32 l 28
    releaseHash := get32 l 32, crashPending := get8 l 36, expectedReset := get8 l 37
    bootSuccessful := get8 l 38, releaseState := get8 l 39 }

/-- `boot_from_v2`. -/
def bootFromV2 (l : List UInt8) : PersistentBoot :=
  { bootFromV1 l with
    updateVersionFloor := get32 l 40, updatePendingVersion := get32 l 44
    updateImageFingerprint := get32 l 48, updateSigningKeyId := get32 l 52
    updateRollbackCount := get32 l 56, updateState := get8 l 60 }

/-- The boot state of the third layout, which is taken as it is. -/
def PersistentBoot.ofBytes (l : List UInt8) : PersistentBoot :=
  { bootFromV2 l with
    magic := get32 l 0, version := get32 l 4
    updateReserved := fun i => get8 l (61 + i.val)
    provisionKeyId := get32 l 64, provisionPendingKeyId := get32 l 68
    provisionGeneration := get32 l 72, provisionMonotonicCounter := get32 l 76
    provisionState := get8 l 80, provisionReserved := fun i => get8 l (81 + i.val) }

/-- The boot state of a layout of the given size, if its CRC at the end is right. -/
def checkedBoot (size : ℕ) (take : List UInt8 → PersistentBoot) (l : List UInt8) :
    Option PersistentBoot :=
  if get32 l (size - 4) = lsCrc32 (l.take (size - 4)) then some (take l) else none

/-- The boot state that a medium holds from `off` on. -/
def bootAt (m : ℕ → UInt8) (off : ℕ) : Option PersistentBoot :=
  let version := get32 (Medium.read m off 8) 4
  if get32 (Medium.read m off 8) 0 ≠ lsBootMagic then none
  else if version = lsBootVersionLegacy then
    checkedBoot bootV1Size bootFromV1 (Medium.read m off bootV1Size)
  else if version = lsBootVersionV2 then
    checkedBoot bootV2Size bootFromV2 (Medium.read m off bootV2Size)
  else if version ≠ lsBootVersion then none
  else checkedBoot bootSize .ofBytes (Medium.read m off bootSize)

/-- What is left in memory where there is no boot state. -/
def newBoot : PersistentBoot :=
  { (default : PersistentBoot) with magic := lsBootMagic, version := lsBootVersion }

/-! ### Load and save -/

section

variable (bd : Build)

/-- `boot_offset`. -/
def bootOffset (b : Backend) : ℕ := lsSpoolStorageSize bd b.sizeMax

/-- A boot state of the given size fits behind the spool; the sum is one of `size_t`. -/
def bootFits (b : Backend) (size : ℕ) : Prop :=
  (bootOffset bd b + size) % (b.sizeMax + 1) ≤ b.capacity

instance (b : Backend) (size : ℕ) : Decidable (bootFits bd b size) :=
  inferInstanceAs (Decidable (_ ≤ _))

/-- Sets the boot state in memory, and whether it was taken from the storage. -/
def Machine.withBoot (m : Machine) (p : PersistentBoot) (loaded : Bool) : Machine :=
  { m.setRuntime { m.runtime with persistent := p } with loaded := loaded }

@[simp] lemma Machine.withBoot_storage (m : Machine) (p : PersistentBoot) (loaded : Bool) :
    (m.withBoot p loaded).storage = m.storage := rfl

/-- The end of a load that finds no boot state. -/
def noBoot : MachineM Unit := do
  modifyRam fun m => m.withBoot newBoot true
  throw (.fail .ecorrupt)

/-- Reads a boot state of the given size and checks its CRC. -/
def takeBoot (b : Backend) (size : ℕ) (take : List UInt8 → PersistentBoot) : MachineM Unit := do
  let l ← onDevice (b.read (bootOffset bd b) size)
  match checkedBoot size take l with
  | none => noBoot
  | some p => modifyRam fun m => m.withBoot p true

/-- `ls_boot_state_load` on a backend that can be read, with the boot state cleared. -/
def bootStateLoad (b : Backend) : MachineM Unit :=
  if ¬ bootFits bd b bootV1Size then throw (.fail .enospace)
  else do
    let head ← onDevice (b.read (bootOffset bd b) 8)
    let version := get32 head 4
    if get32 head 0 ≠ lsBootMagic then noBoot
    else if version = lsBootVersionLegacy then takeBoot bd b bootV1Size bootFromV1
    else if version = lsBootVersionV2 then
      if ¬ bootFits bd b bootV2Size then throw (.fail .enospace)
      else takeBoot bd b bootV2Size bootFromV2
    else if version ≠ lsBootVersion then noBoot
    else if ¬ bootFits bd b bootSize then do
      modifyRam fun m => m.withBoot newBoot false
      throw (.fail .enospace)
    else takeBoot bd b bootSize .ofBytes

/-- `ls_boot_state_load`. -/
def lsBootStateLoad : MachineM Unit := do
  modifyRam fun m => m.withBoot default false
  let m ← getRam
  match m.storage with
  | none => pure ()
  | some b => if b.hasRead then bootStateLoad bd b else pure ()

/-- The boot state that a save writes at the given uptime. -/
def Machine.toSave (m : Machine) (uptimeMs : UInt32) : PersistentBoot :=
  { m.persistent with
    magic := lsBootMagic, version := lsBootVersion, previousUptimeMs := uptimeMs
    lastSequence := m.runtime.sequence }

/-- The machine that is about to write a boot state. -/
def Machine.saving (m : Machine) (p : PersistentBoot) : Machine :=
  { m.setRuntime { m.runtime with persistent := p } with written := p :: m.written }

/-- `ls_boot_state_save` on a backend with room for it. -/
def bootStateSave (b : Backend) : MachineM Unit := do
  let uptimeMs ← lsUptimeMs
  modifyRam fun m => m.saving (m.toSave uptimeMs)
  let m ← getRam
  onDevice do
    lsStorageProgram b (bootOffset bd b) m.persistent.bytes
    b.sync

/-- `ls_boot_state_save` of the registered storage. -/
def storeBootState : MachineM Unit := do
  let m ← getRam
  match m.storage with
  | none => pure ()
  | some b =>
    if ¬ b.hasWrite then pure ()
    else if ¬ bootFits bd b bootSize then throw (.fail .enospace)
    else bootStateSave bd b

/-- `ls_boot_state_save`; that it returned `LS_OK` is noted. -/
def lsBootStateSave : MachineM Unit := do
  storeBootState bd
  modifyRam fun m => m.noted (.saved m.persistent)

/-! ### The marks -/

/-- Changes the boot state in memory and saves it. -/
def saveWith (f : PersistentBoot → PersistentBoot) : MachineM Unit := do
  updatePersistent f
  lsBootStateSave bd

/-- `ls_boot_state_mark_crash`. -/
def lsBootStateMarkCrash (eventId : UInt32) : MachineM Unit :=
  ignoring <| saveWith bd fun p =>
    { p with crashPending := 1, bootSuccessful := 0, pendingCrashId := eventId }

/-- `ls_reset_mark_expected`. -/
def lsResetMarkExpected (expected : Bool) : MachineM Unit := do
  updateRuntime fun rt => { rt with resetInfo := { rt.resetInfo with expected := expected } }
  ignoring <| saveWith bd fun p => { p with expectedReset := if expected then 1 else 0 }

/-- `ls_boot_mark_successful`. -/
def lsBootMarkSuccessful : MachineM Unit := do
  updateRuntime fun rt =>
    { rt with powerfailLastValid := rt.powerfailLastValid && !bd.enablePowerfailSeal }
  ignoring <| saveWith bd fun p =>
    { p with bootSuccessful := 1, crashPending := 0, consecutiveFailures := 0 }

/-- `ls_release_mark_pending`. -/
def lsReleaseMarkPending (release : Option (List UInt8)) : MachineM Unit :=
  ignoring <| saveWith bd fun p => { p with releaseHash := lsHashString release, releaseState := 1 }

/-- `ls_release_confirm`. -/
def lsReleaseConfirm : MachineM Unit :=
  ignoring <| saveWith bd fun p => { p with releaseState := 2 }

/-- `ls_release_mark_rollback`. -/
def lsReleaseMarkRollback : MachineM Unit :=
  ignoring <| saveWith bd fun p => { p with releaseState := 3 }

/-! ### Updates -/

/-- `LS_UPDATE_NONE`. -/
def lsUpdateNone : UInt8 := 0

/-- `LS_UPDATE_PENDING`. -/
def lsUpdatePending : UInt8 := 1

/-- `LS_UPDATE_CONFIRMED`. -/
def lsUpdateConfirmed : UInt8 := 2

/-- `LS_UPDATE_ROLLED_BACK`. -/
def lsUpdateRolledBack : UInt8 := 3

/-- `ls_update_state_t`. -/
structure UpdateState where
  confirmedVersionFloor : UInt32
  pendingVersion : UInt32
  imageFingerprint : UInt32
  signingKeyId : UInt32
  rollbackCount : UInt32
  state : UInt8
  deriving DecidableEq

/-- `ls_update_get_state`. -/
def lsUpdateGetState (p : PersistentBoot) : UpdateState :=
  { confirmedVersionFloor := p.updateVersionFloor, pendingVersion := p.updatePendingVersion
    imageFingerprint := p.updateImageFingerprint, signingKeyId := p.updateSigningKeyId
    rollbackCount := p.updateRollbackCount, state := p.updateState }

/-- Changes the boot state and saves it, unless a check of the boot state refuses. -/
def saveIf (ok : PersistentBoot → Bool) (f : PersistentBoot → PersistentBoot) : MachineM Unit := do
  let m ← getRam
  if ok m.persistent then saveWith bd f else throw (.fail .einval)

/-- `ls_update_version_allowed`. -/
def lsUpdateVersionAllowed (p : PersistentBoot) (versionCounter : UInt32) : Bool :=
  versionCounter ≠ 0 ∧ p.updateVersionFloor ≤ versionCounter

/-- A version is the one that is staged. -/
def isPending (versionCounter : UInt32) (p : PersistentBoot) : Bool :=
  p.updateState = lsUpdatePending ∧ versionCounter ≠ 0 ∧ versionCounter = p.updatePendingVersion

/-- `ls_update_stage`. -/
def lsUpdateStage (versionCounter imageFingerprint signingKeyId : UInt32) : MachineM Unit :=
  saveIf bd
    (fun p => lsUpdateVersionAllowed p versionCounter ∧ imageFingerprint ≠ 0 ∧ signingKeyId ≠ 0)
    fun p => { p with updatePendingVersion := versionCounter
                      updateImageFingerprint := imageFingerprint
                      updateSigningKeyId := signingKeyId, updateState := lsUpdatePending }

/-- `ls_update_confirm_version`. -/
def lsUpdateConfirmVersion (versionCounter : UInt32) : MachineM Unit :=
  saveIf bd (isPending versionCounter) fun p =>
    { p with updateVersionFloor := if p.updateVersionFloor < versionCounter then versionCounter
                                   else p.updateVersionFloor
             updatePendingVersion := 0, updateState := lsUpdateConfirmed }

/-- `ls_update_mark_version_rollback`. -/
def lsUpdateMarkVersionRollback (failedVersion : UInt32) : MachineM Unit :=
  saveIf bd (isPending failedVersion) fun p =>
    { p with updateRollbackCount := if p.updateRollbackCount ≠ 0xffffffff
                                    then p.updateRollbackCount + 1 else p.updateRollbackCount
             updatePendingVersion := 0, updateState := lsUpdateRolledBack }

/-- `ls_update_abort_stage`. -/
def lsUpdateAbortStage (versionCounter : UInt32) : MachineM Unit :=
  saveIf bd (isPending versionCounter) fun p =>
    { p with updatePendingVersion := 0, updateImageFingerprint := 0, updateSigningKeyId := 0
             updateState := lsUpdateNone }

end

/-! ### A record is read back -/

section Record

variable (p : PersistentBoot)

lemma PersistentBoot.covered_length : p.covered.length = 84 := by
  simp [PersistentBoot.covered, PersistentBoot.common, PersistentBoot.update,
    PersistentBoot.provision, words]

lemma PersistentBoot.bytes_length : p.bytes.length = bootSize := by
  simp [PersistentBoot.bytes, PersistentBoot.covered_length, bootSize]

/-- A field of the record stands in its covered part. -/
lemma PersistentBoot.ofBytes_bytes : PersistentBoot.ofBytes p.bytes = p := by
  have hu : (fun i : Fin 3 => get8 p.bytes (61 + i.val)) = p.updateReserved := by
    funext i
    fin_cases i <;>
    simp [PersistentBoot.bytes, PersistentBoot.covered, PersistentBoot.common,
      PersistentBoot.update, words, get8_append_right, get8_cons_succ]
  have hp : (fun i : Fin 3 => get8 p.bytes (81 + i.val)) = p.provisionReserved := by
    funext i
    fin_cases i <;>
    simp [PersistentBoot.bytes, PersistentBoot.covered, PersistentBoot.common,
      PersistentBoot.update, PersistentBoot.provision, words, get8_append_right, get8_cons_succ]
  rw [PersistentBoot.ofBytes, hu, hp]
  simp [bootFromV2, bootFromV1, PersistentBoot.bytes, PersistentBoot.covered,
    PersistentBoot.common, PersistentBoot.update, PersistentBoot.provision, words,
    get32_append_right, get8_append_right, get32_cons_succ, get8_cons_succ]

/-- What a save wrote is the boot state of the medium. -/
lemma bootAt_write (m : ℕ → UInt8) (off : ℕ) (hm : p.magic = lsBootMagic)
    (hv : p.version = lsBootVersion) : bootAt (Medium.write m off p.bytes) off = some p := by
  have hlen := p.bytes_length
  have hread : Medium.read (Medium.write m off p.bytes) off bootSize = p.bytes := by
    rw [← hlen, Medium.read_write_same]
  have hfield : ∀ o, o + 4 ≤ 8 → get32 (Medium.read (Medium.write m off p.bytes) off 8) o =
      get32 p.bytes o := by
    intro o ho
    calc get32 (Medium.read (Medium.write m off p.bytes) off 8) o
        = get32 (Medium.read (Medium.write m off p.bytes) off bootSize) o := by
          rw [get32_read _ off ho, get32_read _ off (by rw [bootSize]; omega)]
      _ = get32 p.bytes o := by rw [hread]
  have hmagic : get32 p.bytes 0 = lsBootMagic := by
    rw [← hm]
    exact congrArg PersistentBoot.magic p.ofBytes_bytes
  have hversion : get32 p.bytes 4 = lsBootVersion := by
    rw [← hv]
    exact congrArg PersistentBoot.version p.ofBytes_bytes
  have hcrc : get32 p.bytes (bootSize - 4) = lsCrc32 (p.bytes.take (bootSize - 4)) := by
    have hcov : p.covered.length = bootSize - 4 := p.covered_length
    rw [PersistentBoot.bytes, get32_append_right hcov.le, hcov, Nat.sub_self, get32_le32_self,
      List.take_left' hcov]
  rw [bootAt]
  simp only [hfield 0 (by decide), hfield 4 (by decide), hmagic, hversion, hread]
  rw [if_neg (not_not.mpr rfl), if_neg (by decide), if_neg (by decide), if_neg (not_not.mpr rfl),
    checkedBoot, if_pos hcrc, p.ofBytes_bytes]

end Record

/-- The boot state depends on the bytes of its record alone. -/
lemma bootAt_congr {m m' : ℕ → UInt8} {off : ℕ}
    (h : Medium.read m' off bootSize = Medium.read m off bootSize) : bootAt m' off = bootAt m off := by
  have hpart : ∀ len, len ≤ bootSize → Medium.read m' off len = Medium.read m off len := by
    intro len hlen
    rw [← min_eq_left hlen, ← Medium.read_take, ← Medium.read_take, h]
  rw [bootAt, bootAt, hpart 8 (by decide), hpart bootV1Size (by decide),
    hpart bootV2Size (by decide), h]

/-! ### What load and save do -/

section

variable {bd : Build} {b : Backend}

variable (s : System Machine)

/-- The device answers a read of the boot state with `LS_ECORRUPT`. -/
def CorruptAnswer (bd : Build) (b : Backend) (d : Device) : Prop :=
  ∃ k, d.log.length ≤ k ∧ ∃ len j, d.faults k (.read (bootOffset bd b) len) = .fail .ecorrupt j

lemma CorruptAnswer.of_later {d₀ d : Device} (hl : d₀.Later d) (h : CorruptAnswer bd b d) :
    CorruptAnswer bd b d₀ := by
  obtain ⟨k, hk, hf⟩ := h
  exact ⟨k, hl.log.length_le.trans hk, hl.faults ▸ hf⟩

/-- A read of the boot state reports `LS_ECORRUPT` only where the device answers so. -/
lemma readBoot_spec (len : ℕ) (d : Device) :
    Sat (b.read (bootOffset bd b) len) d
      (fun l d' => l = Medium.read d.medium (bootOffset bd b) len ∧ d.Looked d')
      (fun e d' => d.Looked d' ∧ (e = .fail .ecorrupt → CorruptAnswer bd b d)) := by
  refine (read_exits b _ len d).mono (fun _ _ h => ⟨h.1, h.2.1 ▸ looked_ask d _⟩) (fun e d' h => ?_)
  obtain ⟨⟨-, rfl⟩, rfl⟩ | ⟨rfl, hf⟩ := h
  · exact ⟨.refl _, nofun⟩
  · refine ⟨looked_ask d _, ?_⟩
    rintro rfl
    obtain ⟨k, hk⟩ := Fault.error_eq_fail hf
    exact ⟨_, le_rfl, len, k, hk⟩

/-- A load that failed: what it leaves in memory was not taken from the medium. -/
structure LoadFailed (bd : Build) (b : Backend) (d : Device) (m m' : Machine) (e : Halt Errno) :
    Prop where
  ram : m' = m.withBoot default false ∨ m' = m.withBoot newBoot false
  cause : e = .fail .ecorrupt → CorruptAnswer bd b d

/-- A load that found no boot state. -/
structure LoadMissing (bd : Build) (b : Backend) (d : Device) (m m' : Machine) (e : Halt Errno) :
    Prop where
  error : e = .fail .ecorrupt
  missing : bootAt d.medium (bootOffset bd b) = none
  ram : m' = m.withBoot newBoot true

lemma takeBoot_spec (size : ℕ) (take : List UInt8 → PersistentBoot) (s : System Machine)
    (hram : s.ram = s.ram.withBoot default false)
    (hat : bootAt s.dev.medium (bootOffset bd b) =
      checkedBoot size take (Medium.read s.dev.medium (bootOffset bd b) size)) :
    Sat (takeBoot bd b size take) s
      (fun _ s' => s.dev.Looked s'.dev ∧ ∃ p, bootAt s.dev.medium (bootOffset bd b) = some p ∧
        s'.ram = s.ram.withBoot p true)
      (fun e s' => s.dev.Looked s'.dev ∧ (LoadMissing bd b s.dev s.ram s'.ram e ∨
        LoadFailed bd b s.dev s.ram s'.ram e)) := by
  rw [takeBoot, sat_bind, sat_onDevice]
  refine (readBoot_spec size s.dev).mono (fun l d₁ h₁ => ?_)
    (fun e d₁ h₁ => ⟨h₁.1, .inr ⟨.inl hram, h₁.2⟩⟩)
  obtain ⟨rfl, h₁⟩ := h₁
  rw [← hat]
  cases hp : bootAt s.dev.medium (bootOffset bd b) with
  | none =>
      dsimp only
      rw [noBoot, sat_bind, sat_modifyRam, sat_throw]
      exact ⟨h₁, .inl ⟨rfl, hp, rfl⟩⟩
  | some p =>
      dsimp only
      rw [sat_modifyRam]
      exact ⟨h₁, p, rfl, rfl⟩

lemma bootStateLoad_spec (hram : s.ram = s.ram.withBoot default false) :
    Sat (bootStateLoad bd b) s
      (fun _ s' => s.dev.Looked s'.dev ∧ ∃ p, bootAt s.dev.medium (bootOffset bd b) = some p ∧
        s'.ram = s.ram.withBoot p true)
      (fun e s' => s.dev.Looked s'.dev ∧ (LoadMissing bd b s.dev s.ram s'.ram e ∨
        LoadFailed bd b s.dev s.ram s'.ram e)) := by
  have hnone : s.dev.Looked s.dev ∧ (LoadMissing bd b s.dev s.ram s.ram (.fail .enospace) ∨
      LoadFailed bd b s.dev s.ram s.ram (.fail .enospace)) :=
    ⟨.refl _, .inr ⟨.inl hram, nofun⟩⟩
  rw [bootStateLoad]
  refine .ite (fun _ => .throw hnone) fun _ => ?_
  rw [sat_bind, sat_onDevice]
  refine (readBoot_spec 8 s.dev).mono (fun head d₁ h₁ => ?_)
    (fun e d₁ h₁ => ⟨h₁.1, .inr ⟨.inl hram, h₁.2⟩⟩)
  obtain ⟨rfl, h₁⟩ := h₁
  have hmissing : bootAt s.dev.medium (bootOffset bd b) = none →
      Sat noBoot ⟨d₁, s.ram⟩
        (fun _ s' => s.dev.Looked s'.dev ∧ ∃ p, bootAt s.dev.medium (bootOffset bd b) = some p ∧
          s'.ram = s.ram.withBoot p true)
        (fun e s' => s.dev.Looked s'.dev ∧ (LoadMissing bd b s.dev s.ram s'.ram e ∨
          LoadFailed bd b s.dev s.ram s'.ram e)) := by
    intro hp
    rw [noBoot, sat_bind, sat_modifyRam, sat_throw]
    exact ⟨h₁, .inl ⟨rfl, hp, rfl⟩⟩
  have htake : ∀ size take, bootAt s.dev.medium (bootOffset bd b) =
      checkedBoot size take (Medium.read s.dev.medium (bootOffset bd b) size) →
      Sat (takeBoot bd b size take) ⟨d₁, s.ram⟩
        (fun _ s' => s.dev.Looked s'.dev ∧ ∃ p, bootAt s.dev.medium (bootOffset bd b) = some p ∧
          s'.ram = s.ram.withBoot p true)
        (fun e s' => s.dev.Looked s'.dev ∧ (LoadMissing bd b s.dev s.ram s'.ram e ∨
          LoadFailed bd b s.dev s.ram s'.ram e)) := by
    intro size take hat
    rw [← h₁.medium] at hat
    refine (takeBoot_spec size take ⟨d₁, s.ram⟩ hram hat).mono (fun _ s' h => ?_)
      (fun e s' h => ⟨.trans _ _ _ h₁ h.1, ?_⟩)
    · rw [h₁.medium] at h
      exact ⟨.trans _ _ _ h₁ h.1, h.2⟩
    · refine h.2.imp (fun h => ⟨h.error, h₁.medium ▸ h.missing, h.ram⟩) fun h => ⟨h.ram, ?_⟩
      exact fun he => (h.cause he).of_later h₁.toLater
  -- the branches of the load are those of `bootAt`
  refine .ite (fun hc => hmissing (by rw [bootAt, if_pos hc])) fun hc0 => ?_
  refine .ite (fun hc => htake _ _ (by rw [bootAt, if_neg hc0, if_pos hc])) fun hc1 => ?_
  rw [sat_ite]
  constructor
  · intro hc2
    refine .ite (fun _ => .throw ⟨h₁, .inr ⟨.inl hram, nofun⟩⟩) fun _ => ?_
    exact htake _ _ (by rw [bootAt, if_neg hc0, if_neg hc1, if_pos hc2])
  · intro hc2
    refine .ite (fun hc => hmissing (by rw [bootAt, if_neg hc0, if_neg hc1, if_neg hc2, if_pos hc])) fun hc3 => ?_
    rw [sat_ite]
    constructor
    · intro _
      rw [sat_bind, sat_modifyRam, sat_throw]
      exact ⟨h₁, .inr ⟨.inr rfl, nofun⟩⟩
    · intro _
      exact htake _ _ (by rw [bootAt, if_neg hc0, if_neg hc1, if_neg hc2, if_neg hc3])

/-- `ls_boot_state_load` of the registered storage. -/
lemma lsBootStateLoad_spec :
    Sat (lsBootStateLoad bd) s
      (fun _ s' => s.dev.Looked s'.dev ∧
        ((∀ b, s.ram.storage = some b → b.hasRead = false) ∧ s'.ram = s.ram.withBoot default false ∨
          ∃ b p, s.ram.storage = some b ∧ bootAt s.dev.medium (bootOffset bd b) = some p ∧
            s'.ram = s.ram.withBoot p true))
      (fun e s' => s.dev.Looked s'.dev ∧ ∃ b, s.ram.storage = some b ∧
        (LoadMissing bd b s.dev s.ram s'.ram e ∨ LoadFailed bd b s.dev s.ram s'.ram e)) := by
  rw [lsBootStateLoad, sat_bind, sat_modifyRam, sat_bind, sat_getRam]
  cases hs : s.ram.storage with
  | none =>
      simp only [Machine.withBoot_storage, hs, sat_pure]
      exact ⟨.refl _, .inl ⟨fun _ h => (by cases h), trivial⟩⟩
  | some b =>
      simp only [Machine.withBoot_storage, hs]
      rw [sat_ite]
      constructor
      · intro _
        refine (bootStateLoad_spec ⟨s.dev, s.ram.withBoot default false⟩ rfl).mono
          (fun _ s' h => ⟨h.1, .inr ?_⟩) (fun e s' h => ⟨h.1, b, rfl, ?_⟩)
        · obtain ⟨-, p, hp, hr⟩ := h
          exact ⟨b, p, rfl, hp, hr⟩
        · exact h.2.imp (fun h => ⟨h.error, h.missing, h.ram⟩) fun h => ⟨h.ram, h.cause⟩
      · intro hr
        rw [sat_pure]
        refine ⟨.refl _, .inl ⟨?_, rfl⟩⟩
        rintro _ ⟨⟩
        simpa using hr

/-- A save that got as far as writing the boot state `p`. -/
structure SaveBegun (b : Backend) (p : PersistentBoot) (s s' : System Machine) : Prop where
  storage : s.ram.storage = some b
  boot : ∃ uptimeMs, p = s.ram.toSave uptimeMs
  ram : ∃ k, s'.ram = { s.ram with calls := k }.saving p
  dev : s.dev.Later s'.dev

/-- The save of a boot state; `E` is what a program that fails leaves. -/
lemma bootStateSave_spec (hs : s.ram.storage = some b)
    {E : PersistentBoot → (ℕ → UInt8) → Prop}
    (hE : ∀ p, Sat (lsStorageProgram b (bootOffset bd b) p.bytes) s.dev (fun _ _ => True)
      (fun _ d' => E p d'.medium)) :
    Sat (bootStateSave bd b) s
      (fun _ s' => ∃ p, SaveBegun b p s s' ∧
        s'.dev.medium = Medium.write s.dev.medium (bootOffset bd b) p.bytes)
      (fun _ s' => ∃ p, SaveBegun b p s s' ∧
        (s'.dev.medium = Medium.write s.dev.medium (bootOffset bd b) p.bytes ∨
          E p s'.dev.medium)) := by
  rw [bootStateSave]
  refine (lsUptimeMs_spec s).bind fun uptimeMs s₁ h₁ => ?_
  obtain ⟨hd, k, hr⟩ := h₁
  obtain ⟨d₁, m₁⟩ := s₁
  dsimp only at hd hr
  subst hd hr
  rw [sat_bind, sat_modifyRam, sat_bind, sat_getRam, sat_onDevice, sat_bind]
  have hbegun : ∀ d', s.dev.Later d' → SaveBegun b (s.ram.toSave uptimeMs) s
      ⟨d', { s.ram with calls := k }.saving (s.ram.toSave uptimeMs)⟩ :=
    fun d' hl => ⟨hs, ⟨uptimeMs, rfl⟩, ⟨k, rfl⟩, hl⟩
  refine ((program_spec b (bootOffset bd b) _ s.dev).and (hE (s.ram.toSave uptimeMs))).mono
    (fun _ d₂ h₂ => ?_) (fun _ d₂ h₂ => ⟨_, hbegun _ h₂.1.1, .inr h₂.2⟩)
  obtain ⟨⟨hl₂, hm₂⟩, -⟩ := h₂
  exact ((sync_looked b).sat d₂).mono
    (fun _ d₃ h₃ => ⟨_, hbegun _ (.trans _ _ _ hl₂ h₃.toLater), h₃.medium.trans hm₂⟩)
    (fun _ d₃ h₃ => ⟨_, hbegun _ (.trans _ _ _ hl₂ h₃.toLater), .inl (h₃.medium.trans hm₂)⟩)

/-- What a save leaves before it is noted: there was nowhere to write to, or the boot state
was written. -/
def Saved (bd : Build) (s s' : System Machine) : Prop :=
  s' = s ∧ (∀ b, s.ram.storage = some b → b.hasWrite = false) ∨
    ∃ b p, SaveBegun b p s s' ∧
      s'.dev.medium = Medium.write s.dev.medium (bootOffset bd b) p.bytes

/-- `ls_boot_state_save` to the registered storage. -/
lemma lsBootStateSave_spec {E : Backend → PersistentBoot → (ℕ → UInt8) → Prop}
    (hE : ∀ b p, s.ram.storage = some b → Sat (lsStorageProgram b (bootOffset bd b) p.bytes) s.dev
      (fun _ _ => True) (fun _ d' => E b p d'.medium)) :
    Sat (lsBootStateSave bd) s
      (fun _ s' => ∃ s₁, Saved bd s s₁ ∧
        s' = ⟨s₁.dev, s₁.ram.noted (.saved s₁.ram.persistent)⟩)
      (fun _ s' => s' = s ∨ ∃ b p, SaveBegun b p s s' ∧
        (s'.dev.medium = Medium.write s.dev.medium (bootOffset bd b) p.bytes ∨
          E b p s'.dev.medium)) := by
  have hnoted : ∀ {s₁ : System Machine}, Saved bd s s₁ →
      Sat (modifyRam fun m => m.noted (.saved m.persistent)) s₁
        (fun _ s' => ∃ s₁, Saved bd s s₁ ∧
          s' = ⟨s₁.dev, s₁.ram.noted (.saved s₁.ram.persistent)⟩)
        (fun _ s' => s' = s ∨ ∃ b p, SaveBegun b p s s' ∧
          (s'.dev.medium = Medium.write s.dev.medium (bootOffset bd b) p.bytes ∨
            E b p s'.dev.medium)) :=
    fun h => sat_modifyRam.mpr ⟨_, h, rfl⟩
  rw [lsBootStateSave, sat_bind, storeBootState, sat_bind, sat_getRam]
  cases hs : s.ram.storage with
  | none =>
      refine .pure (hnoted (.inl ⟨rfl, fun b h => ?_⟩))
      rw [hs] at h
      cases h
  | some b =>
      dsimp only
      rw [sat_ite]
      constructor
      · intro hw
        refine .pure (hnoted (.inl ⟨rfl, fun b' h => ?_⟩))
        rw [hs] at h
        cases h
        simpa using hw
      · intro _
        refine .ite (fun _ => .throw (.inl rfl)) fun _ => ?_
        exact (bootStateSave_spec s hs fun p => hE b p hs).mono
          (fun _ _ ⟨p, h⟩ => hnoted (.inr ⟨b, p, h⟩)) (fun _ _ ⟨p, h⟩ => .inr ⟨b, p, h⟩)

/-- A boot state with the fields that a save sets. -/
def Restamped (p q : PersistentBoot) : Prop :=
  ∃ magic version uptimeMs last, q =
    { p with magic := magic, version := version, previousUptimeMs := uptimeMs, lastSequence := last }

lemma Restamped.refl (p : PersistentBoot) : Restamped p p := ⟨_, _, _, _, rfl⟩

/-- A save of `p` returned: the boot state in memory is the stored one. -/
structure SavedAs (bd : Build) (p : PersistentBoot) (s s' : System Machine) : Prop where
  dev : s.dev.Later s'.dev
  boot : Restamped p s'.ram.persistent
  trace : s'.ram.trace = .saved s'.ram.persistent :: s.ram.trace
  storage : s'.ram.storage = s.ram.storage
  stored : ∀ b, s.ram.storage = some b → b.hasWrite = true →
    bootAt s'.dev.medium (bootOffset bd b) = some s'.ram.persistent

/-- A save of `p` failed: it is in memory all the same. -/
structure SaveFailed (p : PersistentBoot) (s s' : System Machine) : Prop where
  boot : Restamped p s'.ram.persistent
  trace : s'.ram.trace = s.ram.trace
  storage : s'.ram.storage = s.ram.storage

lemma SaveBegun.failed {p : PersistentBoot} {s s' : System Machine} (h : SaveBegun b p s s') :
    SaveFailed s.ram.persistent s s' := by
  obtain ⟨-, ⟨_, rfl⟩, ⟨_, hr⟩, -⟩ := h
  constructor <;> rw [hr]
  · exact ⟨_, _, _, _, rfl⟩
  · rfl
  · rfl

lemma Saved.savedAs {s s₁ : System Machine} (h : Saved bd s s₁) :
    SavedAs bd s.ram.persistent s ⟨s₁.dev, s₁.ram.noted (.saved s₁.ram.persistent)⟩ := by
  obtain ⟨rfl, hnone⟩ | ⟨b', p, h, hm⟩ := h
  · refine ⟨.refl _, .refl _, rfl, rfl, fun b hb hw => ?_⟩
    rw [hnone b hb] at hw
    cases hw
  · have hf := h.failed
    refine ⟨h.dev, hf.boot, congrArg _ hf.trace, hf.storage, fun b hb _ => ?_⟩
    obtain ⟨hs, ⟨_, hp⟩, ⟨_, hr⟩, -⟩ := h
    obtain rfl := Option.some.inj (hs.symm.trans hb)
    have hpers : (s₁.ram.noted (.saved s₁.ram.persistent)).persistent = p := by
      rw [hr]
      rfl
    rw [hm, hpers]
    exact bootAt_write p _ _ (by rw [hp]; rfl) (by rw [hp]; rfl)

/-- What a save leaves at every exit. -/
lemma lsBootStateSave_exits :
    Sat (lsBootStateSave bd) s (fun _ s' => SavedAs bd s.ram.persistent s s')
      (fun _ s' => SaveFailed s.ram.persistent s s') := by
  refine (lsBootStateSave_spec s (E := fun _ _ _ => True) fun _ _ _ =>
    (sat_run _ _).mono fun _ _ _ => trivial).mono
    (fun _ s' h => ?_) (fun _ s' h => ?_)
  · obtain ⟨s₁, h, rfl⟩ := h
    exact h.savedAs
  · obtain rfl | ⟨b, p, h, -⟩ := h
    · exact ⟨.refl _, rfl, rfl⟩
    · exact h.failed

/-- What a save of a changed boot state leaves at every exit. -/
lemma saveWith_spec (f : PersistentBoot → PersistentBoot) (s : System Machine) :
    Sat (saveWith bd f) s (fun _ s' => SavedAs bd (f s.ram.persistent) s s')
      (fun _ s' => SaveFailed (f s.ram.persistent) s s') := by
  rw [saveWith, sat_bind, sat_updatePersistent]
  exact (lsBootStateSave_exits _).mono (fun _ _ h => ⟨h.dev, h.boot, h.trace, h.storage, h.stored⟩)
    (fun _ _ h => ⟨h.boot, h.trace, h.storage⟩)

lemma saveIf_spec (ok : PersistentBoot → Bool) (f : PersistentBoot → PersistentBoot)
    (s : System Machine) :
    Sat (saveIf bd ok f) s
      (fun _ s' => ok s.ram.persistent = true ∧ SavedAs bd (f s.ram.persistent) s s')
      (fun e s' => ok s.ram.persistent = false ∧ e = .fail .einval ∧ s' = s ∨
        ok s.ram.persistent = true ∧ SaveFailed (f s.ram.persistent) s s') := by
  rw [saveIf, sat_bind, sat_getRam]
  refine .ite (fun h => ?_) fun h => .throw (.inl ⟨by simpa using h, rfl, rfl⟩)
  exact (saveWith_spec f s).mono (fun _ _ hs => ⟨h, hs⟩) (fun _ _ hs => .inr ⟨h, hs⟩)

end

end Latch
