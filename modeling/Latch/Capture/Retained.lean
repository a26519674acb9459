/-
The memory that survives a reset: the minimal snapshot and its RV64 sidecar of
`src/capture/capture.c`, and the power-fail seal of `src/core/powerfail.c`.

A writer fills a record, computes its CRCs and sets its magic last; here it is one step.
The readers check magic, version and CRCs, and hand out a copy.

* `validate_commit`: what a writer commits is read back as it was written;
* `Written`: the snapshot and the sidecar are as one of the writers left them;
* `Written.sidecar`: a sidecar that is taken for part of such a snapshot agrees with it.
-/
import Latch.Core.Types

namespace Latch

open Bytes

/-- The bytes of a sequence of words. -/
def words (l : List UInt32) : List UInt8 := l.flatMap le32

/-! ### The minimal snapshot -/

/-- `LS_MINIMAL_MAGIC`. -/
def lsMinimalMagic : UInt32 := 0x4d534c53

/-- `LS_MINIMAL_SNAPSHOT_VERSION`. -/
def lsMinimalSnapshotVersion : UInt32 := 3

/-- `LS_MINIMAL_SNAPSHOT_FPU_FRAME`. -/
def lsMinimalSnapshotFpuFrame : UInt32 := 8

/-- `LS_MINIMAL_SNAPSHOT_FPU_LAZY`. -/
def lsMinimalSnapshotFpuLazy : UInt32 := 16

/-- `LS_MINIMAL_SNAPSHOT_WIDE_CONTEXT_VALID`. -/
def lsMinimalSnapshotWideContextValid : UInt32 := 512

/-- `LS_FAULT_TRAP`. -/
def lsFaultTrap : UInt32 := 10

/-- `ls_minimal_snapshot_t`. -/
structure MinimalSnapshot where
  magic : UInt32
  version : UInt32
  pc : UInt32
  lr : UInt32
  msp : UInt32
  psp : UInt32
  cfsr : UInt32
  hfsr : UInt32
  buildHash : UInt32
  crc : UInt32
  fault : UInt32
  flags : UInt32
  excReturn : UInt32
  xpsr : UInt32
  fpscr : UInt32
  emergencyStackUsed : UInt32
  faultSequence : UInt32
  extensionCrc : UInt32
  architecture : UInt32
  registers : Fin 16 → UInt32
  ps : UInt32
  sar : UInt32
  exccause : UInt32
  excvaddr : UInt32
  contextCrc : UInt32
  deriving DecidableEq, Inhabited

namespace MinimalSnapshot

variable (s : MinimalSnapshot)

/-- The words before `crc`. -/
def legacy : List UInt32 :=
  [s.magic, s.version, s.pc, s.lr, s.msp, s.psp, s.cfsr, s.hfsr, s.buildHash]

/-- The words before `extension_crc`. -/
def extended : List UInt32 :=
  s.legacy ++ [s.crc, s.fault, s.flags, s.excReturn, s.xpsr, s.fpscr, s.emergencyStackUsed,
    s.faultSequence]

/-- The words before `context_crc`. -/
def full : List UInt32 :=
  s.extended ++ ([s.extensionCrc, s.architecture] ++ List.ofFn s.registers ++
    [s.ps, s.sar, s.exccause, s.excvaddr])

/-- The three CRCs of a snapshot are those of the words before them. -/
def Checked (upTo : ℕ) : Prop :=
  s.crc = lsCrc32 (words s.legacy) ∧
    (2 ≤ upTo → s.extensionCrc = lsCrc32 (words s.extended)) ∧
    (3 ≤ upTo → s.contextCrc = lsCrc32 (words s.full))

instance (upTo : ℕ) : Decidable (s.Checked upTo) := inferInstanceAs (Decidable (_ ∧ _))

/-- The end of every writer: the three CRCs one after the other, and the magic, with which
the CRCs already reckon. -/
def commit : MinimalSnapshot :=
  let s := { s with magic := lsMinimalMagic, version := lsMinimalSnapshotVersion }
  let s := { s with crc := lsCrc32 (words s.legacy) }
  let s := { s with extensionCrc := lsCrc32 (words s.extended) }
  { s with contextCrc := lsCrc32 (words s.full) }

end MinimalSnapshot

/-- `ls_minimal_snapshot_validate`: the copy that the caller is left with. What a version
does not have reads as zero. -/
def lsMinimalSnapshotValidate (s : MinimalSnapshot) : Option MinimalSnapshot :=
  if s.magic ≠ lsMinimalMagic then none
  else if s.version = 1 then
    if s.Checked 1 then
      some { (default : MinimalSnapshot) with
        magic := s.magic, version := s.version, pc := s.pc, lr := s.lr, msp := s.msp
        psp := s.psp, cfsr := s.cfsr, hfsr := s.hfsr, buildHash := s.buildHash, crc := s.crc }
    else none
  else if s.version = 2 then
    if s.Checked 2 then
      some { s with architecture := 0, registers := fun _ => 0, ps := 0, sar := 0, exccause := 0
                    excvaddr := 0, contextCrc := 0 }
    else none
  else if s.version = lsMinimalSnapshotVersion then
    if s.Checked 3 then some s else none
  else none

/-! ### The RV64 sidecar -/

/-- `LS_WIDE_CONTEXT_MAGIC`. -/
def lsWideContextMagic : UInt32 := 0x3656534c

/-- `LS_WIDE_CONTEXT_SNAPSHOT_VERSION`. -/
def lsWideContextSnapshotVersion : UInt32 := 1

/-- `ls_wide_context_snapshot_t`. -/
structure WideContextSnapshot where
  magic : UInt32
  version : UInt32
  architecture : UInt32
  fault : UInt32
  buildHash : UInt32
  faultSequence : UInt32
  context : Riscv64Context
  crc : UInt32
  deriving DecidableEq, Inhabited

/-- The bytes before `crc`. -/
def WideContextSnapshot.covered (w : WideContextSnapshot) : List UInt8 :=
  words [w.magic, w.version, w.architecture, w.fault, w.buildHash, w.faultSequence] ++
    ((List.ofFn w.context.x).flatMap le64 ++
      (le64 w.context.mstatus ++ le64 w.context.mcause ++ le64 w.context.mtval ++
        le64 w.context.mepc))

/-! ### The power-fail seal -/

/-- `LS_POWERFAIL_MAGIC`. -/
def lsPowerfailMagic : UInt32 := 0x46575250

/-- `LS_POWERFAIL_BACKUP_MAGIC`. -/
def lsPowerfailBackupMagic : UInt32 := 0x42575250

/-- `LS_POWERFAIL_VERSION`. -/
def lsPowerfailVersion : UInt32 := 1

/-- `ls_powerfail_sealed_t`. -/
structure PowerfailSealed where
  magic : UInt32
  version : UInt32
  reason : UInt32
  vcapMv : UInt32
  tier : UInt32
  bootId : UInt32
  fault : UInt32
  pc : UInt32
  lr : UInt32
  msp : UInt32
  psp : UInt32
  cfsr : UInt32
  hfsr : UInt32
  sequence : UInt32
  crc : UInt32
  deriving DecidableEq, Inhabited

/-- The CRC of a seal, which reckons with its magic. -/
def PowerfailSealed.computedCrc (s : PowerfailSealed) : UInt32 :=
  lsCrc32 (words [lsPowerfailMagic, s.version, s.reason, s.vcapMv, s.tier, s.bootId, s.fault, s.pc,
    s.lr, s.msp, s.psp, s.cfsr, s.hfsr, s.sequence])

/-- `sealed_validate_copy`. -/
def sealedValidateCopy (s : PowerfailSealed) : Bool :=
  s.magic = lsPowerfailMagic ∧ s.version = lsPowerfailVersion ∧ s.reason ≤ 3 ∧ s.tier ≤ 1 ∧
    s.computedCrc = s.crc

/-! ### Retained memory -/

/-- The retained records, with the backup window if one is installed, and the statics of
the two files, which are ordinary memory. -/
structure Retained where
  minimalSnapshot : MinimalSnapshot
  wideContextSnapshot : WideContextSnapshot
  sealedRetained : PowerfailSealed
  backupWindow : Option PowerfailSealed
  minimalBuildHash : UInt32
  riscv64FaultCaptureSequence : UInt32
  sealSequence : UInt32
  deriving DecidableEq, Inhabited

section

variable (bd : Build) (r : Retained)

/-- `ls_minimal_snapshot_read`. -/
def lsMinimalSnapshotRead : Option MinimalSnapshot := lsMinimalSnapshotValidate r.minimalSnapshot

/-- `ls_wide_context_snapshot_read`. -/
def lsWideContextSnapshotRead : Option WideContextSnapshot :=
  let w := r.wideContextSnapshot
  if bd.enableWideContext ∧ w.magic = lsWideContextMagic ∧
      w.version = lsWideContextSnapshotVersion ∧ w.architecture = lsArchRiscv64 ∧
      w.fault = lsFaultTrap ∧ w.crc = lsCrc32 w.covered then some w
  else none

/-- `wide_snapshot_clear`. -/
def wideSnapshotClear : Retained :=
  if bd.enableWideContext then
    { r with wideContextSnapshot := { r.wideContextSnapshot with magic := 0 } }
  else r

/-- `wide_snapshot_store`, with the registers at hand. -/
def wideSnapshotStore (context : Riscv64Context) (faultSequence : UInt32) : Retained :=
  if bd.enableWideContext then
    let w : WideContextSnapshot :=
      { magic := lsWideContextMagic, version := lsWideContextSnapshotVersion
        architecture := lsArchRiscv64, fault := lsFaultTrap, buildHash := r.minimalBuildHash
        faultSequence := faultSequence, context := context, crc := 0 }
    { r with wideContextSnapshot := { w with crc := lsCrc32 w.covered } }
  else r

/-- `ls_minimal_snapshot_clear`. -/
def lsMinimalSnapshotClear : Retained :=
  wideSnapshotClear bd { r with minimalSnapshot := { r.minimalSnapshot with magic := 0 } }

/-! ### The writers -/

/-- What a caller of `minimal_snapshot_store` hands over besides the context. -/
structure FaultArgs where
  pc : UInt32
  lr : UInt32
  msp : UInt32
  psp : UInt32
  cfsr : UInt32
  hfsr : UInt32
  fault : UInt32
  excReturn : UInt32
  xpsr : UInt32
  fpscr : UInt32
  flags : UInt32
  emergencyStackUsed : UInt32
  faultSequence : UInt32
  deriving DecidableEq, Inhabited

/-- The snapshot that `minimal_snapshot_store` fills, before its CRCs. -/
def filledSnapshot (a : FaultArgs) (context : Option ArchContext) : MinimalSnapshot :=
  let c := context.getD default
  { (default : MinimalSnapshot) with
    pc := a.pc, lr := a.lr, msp := a.msp, psp := a.psp, cfsr := a.cfsr, hfsr := a.hfsr
    buildHash := r.minimalBuildHash, fault := a.fault, flags := a.flags, excReturn := a.excReturn
    xpsr := a.xpsr, fpscr := a.fpscr, emergencyStackUsed := a.emergencyStackUsed
    faultSequence := a.faultSequence, architecture := c.architecture
    registers := fun i => c.registers ⟨i.val, by omega⟩
    ps := c.ps, sar := c.sar, exccause := c.exccause, excvaddr := c.excvaddr }

/-- `minimal_snapshot_store`. -/
def minimalSnapshotStore (a : FaultArgs) (context : Option ArchContext) : Retained :=
  { r with minimalSnapshot := (filledSnapshot r a context).commit }

/-- `ls_capture_minimal_prepare`. -/
def lsCaptureMinimalPrepare : Retained :=
  { r with minimalBuildHash := lsHashString (some bd.buildId), riscv64FaultCaptureSequence := 0 }

/-- `ls_capture_minimal_fault`. -/
def lsCaptureMinimalFault (a : FaultArgs) : Retained :=
  minimalSnapshotStore (wideSnapshotClear bd r) a none

/-- What `ls_capture_minimal_context_fault` takes from a context. -/
def contextArgs (context : ArchContext) : FaultArgs :=
  { pc := context.pc, lr := context.lr, msp := context.msp, psp := context.psp
    cfsr := context.cfsr, hfsr := context.hfsr, fault := context.fault
    excReturn := context.excReturn, xpsr := context.xpsr, fpscr := context.fpscr
    flags := (if context.hasFpu then lsMinimalSnapshotFpuFrame else 0) |||
      (if context.fpuLazy then lsMinimalSnapshotFpuLazy else 0)
    emergencyStackUsed := 0, faultSequence := 0 }

/-- `ls_capture_minimal_context_fault`, also called `ls_capture_minimal`, of a context. -/
def lsCaptureMinimal (context : ArchContext) : Retained :=
  minimalSnapshotStore (wideSnapshotClear bd r) (contextArgs context) (some context)

/-- `riscv64_fault_sequence_next`. -/
def riscv64FaultSequenceNext : UInt32 :=
  if r.riscv64FaultCaptureSequence + 1 = 0 then 1 else r.riscv64FaultCaptureSequence + 1

/-- The snapshot that `ls_capture_minimal_riscv64_fault` fills, before its CRCs. -/
def riscv64Snapshot (context : Riscv64Context) : MinimalSnapshot :=
  { (default : MinimalSnapshot) with
    pc := context.mepc.toUInt32, lr := (context.x 1).toUInt32, msp := (context.x 2).toUInt32
    buildHash := r.minimalBuildHash, fault := lsFaultTrap
    flags := if bd.enableWideContext then lsMinimalSnapshotWideContextValid else 0
    faultSequence := riscv64FaultSequenceNext r, architecture := lsArchRiscv64
    registers := fun i => (context.x ⟨i.val, by omega⟩).toUInt32
    excvaddr := context.mtval.toUInt32 }

/-- `ls_capture_minimal_riscv64_fault`, with the registers at hand. -/
def lsCaptureMinimalRiscv64Fault (context : Riscv64Context) : Retained :=
  let sequence := riscv64FaultSequenceNext r
  { wideSnapshotStore bd r context sequence with
    riscv64FaultCaptureSequence := sequence
    minimalSnapshot := (riscv64Snapshot bd r context).commit }

/-! ### The seal -/

/-- `sealed_read_retained`: the retained seal, or else the one in the backup window. -/
def sealedReadRetained : Option PowerfailSealed :=
  if sealedValidateCopy r.sealedRetained then some r.sealedRetained
  else match r.backupWindow with
    | none => none
    | some copy =>
      if (copy.magic = lsPowerfailMagic ∨ copy.magic = lsPowerfailBackupMagic) ∧
          sealedValidateCopy { copy with magic := lsPowerfailMagic } then
        some { copy with magic := lsPowerfailMagic }
      else none

/-- `ls_powerfail_sealed_clear`. In the backup window only the first byte is cleared. -/
def lsPowerfailSealedClear : Retained :=
  { r with
    sealedRetained := { r.sealedRetained with magic := 0 }
    backupWindow := r.backupWindow.map fun copy => { copy with magic := copy.magic &&& 0xffffff00 } }

/-- `ls_powerfail_seal`; a seal that is already committed stays. -/
def lsPowerfailSeal (bootCount reason : UInt32) (vcapMv : UInt16) : Retained :=
  if reason = 0 ∨ r.sealedRetained.magic = lsPowerfailMagic then r
  else
    let minimal := lsMinimalSnapshotRead r
    let m := minimal.getD default
    let sequence := if r.sealSequence + 1 = 0 then 1 else r.sealSequence + 1
    let s : PowerfailSealed :=
      { magic := lsPowerfailMagic, version := lsPowerfailVersion, reason := reason
        vcapMv := vcapMv.toUInt32, tier := if r.backupWindow.isSome then 1 else 0
        bootId := bootCount, fault := m.fault, pc := m.pc, lr := m.lr, msp := m.msp, psp := m.psp
        cfsr := m.cfsr, hfsr := m.hfsr, sequence := sequence, crc := 0 }
    let s := { s with crc := s.computedCrc }
    { r with sealSequence := sequence, sealedRetained := s
             backupWindow := r.backupWindow.map fun _ => s }

end

/-! ### Reading back -/

section

variable {bd : Build} {r : Retained}

lemma MinimalSnapshot.checked_commit (s : MinimalSnapshot) : s.commit.Checked 3 :=
  ⟨rfl, fun _ => rfl, fun _ => rfl⟩

/-- What a writer commits is read back as it was written. -/
lemma validate_commit (s : MinimalSnapshot) :
    lsMinimalSnapshotValidate s.commit = some s.commit := by
  have hm : s.commit.magic = lsMinimalMagic := rfl
  have hv : s.commit.version = lsMinimalSnapshotVersion := rfl
  rw [lsMinimalSnapshotValidate, if_neg (not_not.mpr hm), if_neg (by rw [hv]; decide),
    if_neg (by rw [hv]; decide), if_pos hv, if_pos s.checked_commit]

/-- `ls_minimal_snapshot_read` behind `ls_capture_minimal`. -/
lemma lsMinimalSnapshotRead_lsCaptureMinimal (context : ArchContext) :
    lsMinimalSnapshotRead (lsCaptureMinimal bd r context)
      = some (filledSnapshot (wideSnapshotClear bd r) (contextArgs context) (some context)).commit :=
  validate_commit _

/-- The sidecar that is read depends on the retained sidecar alone. -/
lemma lsWideContextSnapshotRead_congr {r' : Retained}
    (h : r.wideContextSnapshot = r'.wideContextSnapshot) :
    lsWideContextSnapshotRead bd r = lsWideContextSnapshotRead bd r' := by
  rw [lsWideContextSnapshotRead, lsWideContextSnapshotRead, h]

/-- A cleared sidecar is not read. -/
lemma lsWideContextSnapshotRead_clear :
    lsWideContextSnapshotRead bd (wideSnapshotClear bd r) = none := by
  simp only [lsWideContextSnapshotRead, wideSnapshotClear]
  refine if_neg ?_
  rintro ⟨hen, hmagic, -⟩
  rw [if_pos hen] at hmagic
  exact absurd hmagic (show (0 : UInt32) ≠ lsWideContextMagic by decide)

/-! ### What the writers leave -/

/-- The snapshot and its sidecar are as one of the functions `ls_capture_minimal_*` left
them. -/
inductive Written (bd : Build) (r : Retained) : Prop where
  | fault (before : Retained) (a : FaultArgs)
      (snapshot : r.minimalSnapshot = (lsCaptureMinimalFault bd before a).minimalSnapshot)
      (sidecar : r.wideContextSnapshot = (lsCaptureMinimalFault bd before a).wideContextSnapshot)
  | context (before : Retained) (context : ArchContext)
      (snapshot : r.minimalSnapshot = (lsCaptureMinimal bd before context).minimalSnapshot)
      (sidecar : r.wideContextSnapshot = (lsCaptureMinimal bd before context).wideContextSnapshot)
  | riscv64 (before : Retained) (context : Riscv64Context)
      (snapshot : r.minimalSnapshot =
        (lsCaptureMinimalRiscv64Fault bd before context).minimalSnapshot)
      (sidecar : r.wideContextSnapshot =
        (lsCaptureMinimalRiscv64Fault bd before context).wideContextSnapshot)

/-- What a writer left is readable. -/
lemma Written.read (h : Written bd r) :
    lsMinimalSnapshotRead r = some r.minimalSnapshot := by
  cases h with
  | fault before a snapshot _ =>
      rw [lsMinimalSnapshotRead, snapshot]
      exact validate_commit _
  | context before context snapshot _ =>
      rw [lsMinimalSnapshotRead, snapshot]
      exact validate_commit _
  | riscv64 before context snapshot _ =>
      rw [lsMinimalSnapshotRead, snapshot]
      exact validate_commit _

/-- Only the RV64 writer leaves a sidecar, and its snapshot has no ARM status registers and
no process stack pointer. -/
lemma Written.sidecar (h : Written bd r) {w : WideContextSnapshot}
    (hw : lsWideContextSnapshotRead bd r = some w) :
    r.minimalSnapshot.psp = 0 ∧ r.minimalSnapshot.cfsr = 0 ∧ r.minimalSnapshot.hfsr = 0 := by
  cases h with
  | fault before a _ sidecar =>
      rw [lsWideContextSnapshotRead_congr sidecar] at hw
      exact absurd (lsWideContextSnapshotRead_clear.symm.trans hw) nofun
  | context before context _ sidecar =>
      rw [lsWideContextSnapshotRead_congr sidecar] at hw
      exact absurd (lsWideContextSnapshotRead_clear.symm.trans hw) nofun
  | riscv64 before context snapshot _ =>
      rw [snapshot]
      exact ⟨rfl, rfl, rfl⟩

end

/-! ### Clearing -/

/-- A cleared seal is not read, in neither place. -/
lemma sealedReadRetained_clear (r : Retained) :
    sealedReadRetained (lsPowerfailSealedClear r) = none := by
  have hlow : ∀ magic : UInt32, magic &&& 0xffffff00 ≠ lsPowerfailMagic ∧
      magic &&& 0xffffff00 ≠ lsPowerfailBackupMagic := by
    intro magic
    have hbyte : (magic &&& 0xffffff00) &&& 0xff = 0 := by
      rw [UInt32.and_assoc, show (0xffffff00 : UInt32) &&& 0xff = 0 by decide, UInt32.and_zero]
    constructor <;>
    · intro h
      rw [h] at hbyte
      exact absurd hbyte (by decide)
  have hfirst : sealedValidateCopy (lsPowerfailSealedClear r).sealedRetained = false := by
    simp only [sealedValidateCopy, decide_eq_false_iff_not]
    exact fun h => absurd h.1 (show (0 : UInt32) ≠ lsPowerfailMagic by decide)
  rw [sealedReadRetained, hfirst]
  cases hb : r.backupWindow with
  | none => simp [lsPowerfailSealedClear, hb]
  | some copy => simp [lsPowerfailSealedClear, hb, hlow copy.magic]

end Latch
