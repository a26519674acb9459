/-
The runtime of `src/core/runtime.c`: initialisation, boot and the capture of an event, and
the recovery of retained evidence that a boot ends with (`ls_capture_minimal_recover` of
`src/capture/capture.c` and `ls_powerfail_recover` of `src/core/powerfail.c`).

`lsCaptureEvent_spec` says what a capture does in terms of the append that it ends with:
the sequence number is taken, the event is filtered and encoded, and the envelope is handed
to `ls_spool_append`.
-/
import Latch.Core.Boot
import Latch.Core.Policy

namespace Latch

open Exec Spool

/-! ### Initialisation -/

/-- A character that `ls_build_id_validate` accepts. -/
def buildIdChar (c : UInt8) : Bool :=
  (0x61 ≤ c ∧ c ≤ 0x7a) ∨ (0x41 ≤ c ∧ c ≤ 0x5a) ∨ (0x30 ≤ c ∧ c ≤ 0x39) ∨ c = 0x2e ∨ c = 0x5f ∨
    c = 0x2d ∨ c = 0x3a

/-- `LS_BUILD_ID_MAX`. -/
def lsBuildIdMax : ℕ := 64

/-- `ls_build_id_validate`. -/
def lsBuildIdValidate (buildId : List UInt8) : Bool :=
  8 ≤ buildId.length ∧ buildId.length ≤ lsBuildIdMax ∧ buildId.all buildIdChar

/-- The runtime behind `ls_init`. -/
def initialRuntime (config : Config) (build : List UInt8) : Runtime :=
  { (default : Runtime) with
    config := config
    randomState := lsHashString (some build) ^^^ lsHashString config.identity.deviceId ^^^ 0x9e3779b9
    securityPolicy := ⟨.xchacha20Poly1305, 1, true, false⟩
    initialized := true }

/-- `ls_init` of a configuration. -/
def lsInit (bd : Build) (config : Config) : MachineM Unit :=
  let build := config.identity.firmwareBuildId.getD bd.buildId
  if ¬ lsBuildIdValidate build then throw (.fail .einval)
  else modifyRam fun m =>
    { m.setRuntime (initialRuntime config build) with
      storage := none, breadcrumbPolicy := .dropOldest, loaded := false }

section

variable (bd : Build) (c : Crypto)

/-! ### Capture -/

/-- The encoding of an event with the answers of the world. -/
def encodeEvent (event : Event) (sequence : UInt32) : MachineM (List UInt8) := do
  let k ← nextCall
  let uptimeMs ← lsUptimeMs
  let m ← getRam
  encoding (lsEnvelopeEncode bd c (m.world.blackbox k) (m.world.memory k) uptimeMs
    (m.world.random k) event bd.maxEventSize sequence)

/-- The part of `ls_capture_event` between its critical sections. -/
def captureFiltered (event : Event) (sequence : UInt32) : MachineM Unit := do
  let m ← getRam
  let applied := lsPolicyApply bd m.runtime event
  updateRuntime fun _ => applied.2.2
  if applied.1 then do
    let encoded ← encodeEvent bd c applied.2.1 sequence
    onNode (lsSpoolAppend bd m.storage encoded applied.2.1.priority)
  else pure ()

/-- Marks the end of a capture. -/
def Machine.captured (m : Machine) : Machine :=
  m.setRuntime { m.runtime with capturing := false }

/-- `ls_capture_event`. -/
def lsCaptureEvent (event : Event) : MachineM Unit := do
  let m ← getRam
  if m.runtime.capturing then throw (.fail .eagain)
  else do
    updateRuntime fun rt => { rt with capturing := true, sequence := rt.sequence + 1 }
    afterwards Machine.captured (captureFiltered bd c event (m.runtime.sequence + 1))

/-! ### Recovery of a retained snapshot -/

/-- `riscv64_context_to_arch`. -/
def riscv64ContextToArch (source : Riscv64Context) (fault : UInt32) : ArchContext :=
  { (default : ArchContext) with
    architecture := lsArchRiscv64, fault := fault, lr := (source.x 1).toUInt32
    pc := source.mepc.toUInt32, msp := (source.x 2).toUInt32, mcause := source.mcause.toUInt32
    mtval := source.mtval.toUInt32, mstatus := source.mstatus.toUInt32
    mepc := source.mepc.toUInt32
    faultAddress := source.mtval.toNat % (bd.uintptrMax + 1)
    registers := fun i => (source.x i).toUInt32 }

/-- `wide_snapshot_matches_minimal`. -/
def wideSnapshotMatchesMinimal (wide : WideContextSnapshot) (minimal : MinimalSnapshot) : Bool :=
  wide.architecture = minimal.architecture ∧ wide.fault = minimal.fault ∧
    wide.buildHash = minimal.buildHash ∧ wide.faultSequence = minimal.faultSequence ∧
    (wide.context.x 1).toUInt32 = minimal.lr ∧ (wide.context.x 2).toUInt32 = minimal.msp ∧
    wide.context.mtval.toUInt32 = minimal.excvaddr ∧ wide.context.mepc.toUInt32 = minimal.pc

/-- The context that a snapshot describes on its own. -/
def snapshotContext (rt : Runtime) (snapshot : MinimalSnapshot) : ArchContext :=
  { (default : ArchContext) with
    architecture := if 0 < snapshot.architecture ∧ snapshot.architecture ≤ lsArchRiscv64
      then snapshot.architecture else rt.config.architecture
    fault := snapshot.fault, lr := snapshot.lr, pc := snapshot.pc, xpsr := snapshot.xpsr
    msp := snapshot.msp, psp := snapshot.psp, excReturn := snapshot.excReturn
    cfsr := snapshot.cfsr, hfsr := snapshot.hfsr, fpscr := snapshot.fpscr
    hasFpu := snapshot.flags &&& lsMinimalSnapshotFpuFrame ≠ 0
    fpuLazy := snapshot.flags &&& lsMinimalSnapshotFpuLazy ≠ 0
    ps := snapshot.ps, sar := snapshot.sar, exccause := snapshot.exccause
    excvaddr := snapshot.excvaddr
    faultAddress := snapshot.excvaddr.toNat % (bd.uintptrMax + 1)
    registers := fun i => if h : i.val < 16 then snapshot.registers ⟨i.val, h⟩ else 0 }

/-- The sidecar that belongs to a snapshot. -/
def snapshotSidecar (r : Retained) (snapshot : MinimalSnapshot) : Option Riscv64Context :=
  if snapshot.flags &&& lsMinimalSnapshotWideContextValid ≠ 0 then
    match lsWideContextSnapshotRead bd r with
    | none => none
    | some wide => if wideSnapshotMatchesMinimal wide snapshot then some wide.context else none
  else none

/-- The context of `ls_capture_minimal_recover`: a sidecar has the last word. -/
def recoveredContext (m : Machine) (snapshot : MinimalSnapshot) : ArchContext :=
  match snapshotSidecar bd m.retained snapshot with
  | none => snapshotContext bd m.runtime snapshot
  | some context => riscv64ContextToArch bd context snapshot.fault

/-- The event of `ls_capture_minimal_recover`. -/
def retainedFaultEvent (m : Machine) (snapshot : MinimalSnapshot) (uptimeMs : UInt32) : Event :=
  { (default : Event) with
    type := .crash, priority := .emergency, timestampMs := uptimeMs
    fingerprint := lsCrashFingerprint bd (recoveredContext bd m snapshot)
    -- "fault"
    domain := some [0x66, 0x61, 0x75, 0x6c, 0x74]
    code := snapshot.fault.toInt32, severity := .fatal
    -- "retained_fault"
    message := some [0x72, 0x65, 0x74, 0x61, 0x69, 0x6e, 0x65, 0x64, 0x5f, 0x66, 0x61, 0x75, 0x6c,
      0x74]
    cpu := some (recoveredContext bd m snapshot)
    riscv64 := snapshotSidecar bd m.retained snapshot, captureLevel := .snapshot }

/-- `ls_capture_minimal_recover`. -/
def lsCaptureMinimalRecover : MachineM Unit := do
  let m ← getRam
  match lsMinimalSnapshotRead m.retained with
  | none => pure ()
  | some snapshot =>
    if m.storage.isNone then throw (.fail .eagain)
    else do
      let uptimeMs ← lsUptimeMs
      lsCaptureEvent bd c (retainedFaultEvent bd m snapshot uptimeMs)
      updateRetained (lsMinimalSnapshotClear bd)

/-! ### Recovery of a power-fail seal -/

/-- The context of `ls_powerfail_recover`. -/
def sealedContext (rt : Runtime) (s : PowerfailSealed) : ArchContext :=
  { (default : ArchContext) with
    architecture := rt.config.architecture, fault := s.fault, lr := s.lr, pc := s.pc, msp := s.msp
    psp := s.psp, cfsr := s.cfsr, hfsr := s.hfsr
    faultAddress := s.cfsr.toNat % (bd.uintptrMax + 1) }

/-- The event of `ls_powerfail_recover`. -/
def sealedEvent (rt : Runtime) (s : PowerfailSealed) (uptimeMs : UInt32) : Event :=
  { (default : Event) with
    type := .reset, priority := .emergency, timestampMs := uptimeMs
    fingerprint := s.reason ^^^ (s.vcapMv <<< 8) ^^^ s.sequence
    -- "powerfail"
    domain := some [0x70, 0x6f, 0x77, 0x65, 0x72, 0x66, 0x61, 0x69, 0x6c]
    code := s.reason.toInt32, severity := .fatal
    -- "brownout_seal"
    message := some [0x62, 0x72, 0x6f, 0x77, 0x6e, 0x6f, 0x75, 0x74, 0x5f, 0x73, 0x65, 0x61, 0x6c]
    cpu := some (sealedContext bd rt s), captureLevel := .snapshot }

/-- What `ls_powerfail_recover` keeps of a seal. -/
def sealInfo (s : PowerfailSealed) : PowerfailSealInfo :=
  { reason := s.reason, tier := s.tier, vcapMv := s.vcapMv.toUInt16, bootId := s.bootId
    fault := s.fault, sealedOk := true }

/-- The end of a recovery that failed. -/
def Machine.sealRefused (m : Machine) : Machine :=
  m.setRuntime { m.runtime with powerfailLastValid := false }

/-- `ls_powerfail_recover`. -/
def lsPowerfailRecover : MachineM Unit := do
  let m ← getRam
  match if bd.enablePowerfailSeal then sealedReadRetained m.retained else none with
  | none => pure ()
  | some s => do
    updateRuntime fun rt => { rt with previousCrashed := true }
    if m.storage.isNone then throw (.fail .eagain)
    else do
      updateRuntime fun rt => { rt with powerfailLast := sealInfo s, powerfailLastValid := true }
      let uptimeMs ← lsUptimeMs
      onFailure Machine.sealRefused (lsCaptureEvent bd c (sealedEvent bd m.runtime s uptimeMs))
      updateRetained lsPowerfailSealedClear

/-! ### Boot -/

/-- The load of `ls_boot`, which goes on without a boot state. -/
def loadBoot : MachineM Unit := do
  match ← attempt (lsBootStateLoad bd) with
  | .ok _ => pure ()
  | .error .ecorrupt => pure ()
  | .error e => throw (.fail e)

/-- A reset that counts as a failure. -/
def ResetReason.failure (reason : ResetReason) : Bool :=
  reason = .watchdog ∨ reason = .independentWatchdog ∨ reason = .windowWatchdog ∨ reason = .lockup

/-- What `ls_boot` makes of the boot state, the time and the reset. -/
def bootCounted (retainedFault : Bool) (now : UInt32) (info : ResetInfo) (rt : Runtime) :
    Runtime :=
  let p := rt.persistent
  let previousCrashed := p.crashPending ≠ 0 ∨ retainedFault
  let expected : Bool := p.expectedReset ≠ 0
  let failures :=
    if previousCrashed ∨ info.reason.failure ∧ ¬ expected then
      if p.previousUptimeMs ≤ bd.bootLoopWindowMs then p.consecutiveFailures + 1 else 1
    else if p.bootSuccessful ≠ 0 then 0 else p.consecutiveFailures
  let bootLoop : Bool := bd.bootLoopThreshold ≤ failures
  { rt with
    bootStartedMs := now, previousCrashed := previousCrashed, bootLoop := bootLoop
    safeMode := bootLoop, bootCount := p.bootCount + 1
    sequence := if rt.sequence < p.lastSequence then p.lastSequence else rt.sequence
    resetInfo := { info with
      bootCount := p.bootCount + 1, previousUptimeMs := p.previousUptimeMs, expected := expected
      crashPending := previousCrashed, bootLoop := bootLoop }
    persistent := { p with
      consecutiveFailures := failures, bootCount := p.bootCount + 1, bootSuccessful := 0
      crashPending := 0, expectedReset := 0 } }

/-- Runs a recovery where there is something to recover, and drops its result. -/
def recoverIf (found : Bool) (x : MachineM Unit) : MachineM Unit :=
  if found then ignoring x else pure ()

/-- `ls_boot`. -/
def lsBoot : MachineM Unit := do
  let m ← getRam
  if ¬ m.runtime.initialized then throw (.fail .einval)
  else do
    let retainedFault := (lsMinimalSnapshotRead m.retained).isSome
    onNode (lsSpoolInit bd m.storage)
    loadBoot bd
    let now ← timestampMs
    let info ← askResetInfo
    updateRuntime (bootCounted bd retainedFault now info)
    lsBootStateSave bd
    recoverIf bd.enablePowerfailSeal (lsPowerfailRecover bd c)
    recoverIf retainedFault (lsCaptureMinimalRecover bd c)

end

/-! ### What a capture does -/

section Capture

variable {bd : Build} {c : Crypto} {event : Event} {sequence : UInt32}

/-- The encoder leaves the bytes `data` of an event, for some answers of the world. -/
def Encodes (bd : Build) (c : Crypto) (event : Event) (sequence : UInt32) (data : List UInt8) :
    Prop :=
  ∃ rt bb mem uptimeMs random t,
    lsEnvelopeEncode bd c bb mem uptimeMs random event bd.maxEventSize sequence ⟨rt, fun _ => 0, 0⟩
      = .ok () t ∧ data = Medium.read t.out 0 t.length

/-- The bytes `data` of an event as `ls_capture_event` appends them: behind the policy. -/
def Presents (bd : Build) (c : Crypto) (event : Event) (sequence : UInt32) (data : List UInt8) :
    Prop :=
  ∃ fingerprint repeatCount firstSeenMs lastSeenMs,
    Encodes bd c { event with fingerprint := fingerprint, repeatCount := repeatCount
                              firstSeenMs := firstSeenMs, lastSeenMs := lastSeenMs } sequence data

/-- What filtering and encoding an event may change in the runtime. -/
def Runtime.Worked (rt rt' : Runtime) : Prop :=
  ∃ dedup dedupNext policies randomState nonce last, rt' =
    { rt with dedup := dedup, dedupNext := dedupNext, policies := policies
              randomState := randomState, lastEnvelopeNonce := nonce
              persistent := { rt.persistent with lastSequence := last } }

/-- The machine on which a capture filters and encodes its event. -/
def Machine.begun (m : Machine) : Machine :=
  m.setRuntime { m.runtime with capturing := true, sequence := m.runtime.sequence + 1 }

/-- The machine has filtered and encoded an event. -/
def Machine.Worked (m m' : Machine) : Prop :=
  ∃ rt k, m.runtime.Worked rt ∧ m' = { m.setRuntime rt with calls := k }

lemma Machine.Worked.storage {m m' : Machine} (h : m.Worked m') : m'.storage = m.storage := by
  obtain ⟨rt, k, -, rfl⟩ := h
  rfl

lemma encodeEvent_spec (s : System Machine) :
    Sat (encodeEvent bd c event sequence) s
      (fun data s' => s'.dev = s.dev ∧ Encodes bd c event sequence data ∧
        ∃ rt k, Encoded s.ram.runtime rt ∧ s'.ram = { s.ram.setRuntime rt with calls := k })
      (fun e s' => s'.dev = s.dev ∧ (∃ err, e = .fail err) ∧
        ∃ rt k, Encoded s.ram.runtime rt ∧ s'.ram = { s.ram.setRuntime rt with calls := k }) := by
  rw [encodeEvent]
  refine (nextCall_spec s).bind fun n s₁ h₁ => ?_
  refine (lsUptimeMs_spec s₁).bind fun uptimeMs s₂ h₂ => ?_
  obtain ⟨d₁, m₁⟩ := s₁
  obtain ⟨d₂, m₂⟩ := s₂
  obtain ⟨rfl, k₁, rfl⟩ := h₁
  obtain ⟨rfl, k₂, rfl⟩ := h₂
  rw [sat_bind, sat_getRam, sat_encoding]
  refine ((sat_run _ _).and ((encoded_lsEnvelopeEncode bd c _ _ uptimeMs _ event bd.maxEventSize
    sequence).sat _)).mono (fun _ t h => ?_) (fun e t h => ?_)
  · exact ⟨rfl, ⟨_, _, _, _, _, t, h.1, rfl⟩, t.runtime, k₂, h.2, rfl⟩
  · exact ⟨rfl, ⟨e, rfl⟩, t.runtime, k₂, h.2, rfl⟩

/-- The policy and the encoder together. -/
lemma Machine.Worked.of_encoded {m : Machine} {rt : Runtime} (k : ℕ)
    (h : Encoded (lsPolicyApply bd m.runtime event).2.2 rt) :
    m.Worked { m.setRuntime rt with calls := k } := by
  obtain ⟨dedup, dedupNext, policies, randomState, hp⟩ := lsPolicyApply_runtime bd m.runtime event
  obtain ⟨nonce, last, rfl⟩ := h
  exact ⟨_, k, ⟨dedup, dedupNext, policies, randomState, nonce, last, by rw [hp]⟩, rfl⟩

/-- What filters, encodes and appends an event: an event that is filtered out is not
urgent; any other one is handed to `ls_spool_append`, unless the encoder fails. -/
lemma captureFiltered_spec (s : System Machine) :
    Sat (captureFiltered bd c event sequence) s
      (fun _ s' => ∃ m, s.ram.Worked m ∧
        (Priority.critical.code < event.priority.code ∧ s' = ⟨s.dev, m⟩ ∨
          ∃ data t, Presents bd c event sequence data ∧
            lsSpoolAppend bd s.ram.storage data event.priority ⟨s.dev, m.node⟩ = .ok () t ∧
            s' = ⟨t.dev, { m with node := t.ram }⟩))
      (fun e s' => ∃ m, s.ram.Worked m ∧
        ((∃ err, e = .fail err) ∧ s' = ⟨s.dev, m⟩ ∨
          ∃ data t, Presents bd c event sequence data ∧
            lsSpoolAppend bd s.ram.storage data event.priority ⟨s.dev, m.node⟩ = .error e t ∧
            s' = ⟨t.dev, { m with node := t.ram }⟩)) := by
  rw [captureFiltered, sat_bind, sat_getRam, sat_bind, sat_updateRuntime, sat_ite]
  constructor
  · intro _
    refine (encodeEvent_spec _).bind (fun data s₁ h₁ => ?_) (fun e s₁ h₁ => ?_)
    · obtain ⟨d₁, m₁⟩ := s₁
      obtain ⟨rfl, hdata, rt, k, hrt, rfl⟩ := h₁
      rw [sat_onNode]
      have hdata : Presents bd c event sequence data := ⟨_, _, _, _, hdata⟩
      exact (sat_run _ _).mono
        (fun _ t ht => ⟨_, .of_encoded k hrt, .inr ⟨data, t, hdata, ht, rfl⟩⟩)
        (fun _ t ht => ⟨_, .of_encoded k hrt, .inr ⟨data, t, hdata, ht, rfl⟩⟩)
    · obtain ⟨d₁, m₁⟩ := s₁
      obtain ⟨rfl, he, rt, k, hrt, rfl⟩ := h₁
      exact ⟨_, .of_encoded k hrt, .inl ⟨he, rfl⟩⟩
  · intro hout
    rw [sat_pure]
    refine ⟨_, Machine.Worked.of_encoded s.ram.calls (.refl _), .inl ⟨?_, rfl⟩⟩
    by_contra hurgent
    exact hout (lsPolicyApply_urgent bd s.ram.runtime (UInt8.not_lt.mp hurgent))

/-- `ls_capture_event`, in terms of the append that it ends with. -/
theorem lsCaptureEvent_spec (s : System Machine) :
    Sat (lsCaptureEvent bd c event) s
      (fun _ s' => s.ram.runtime.capturing = false ∧ ∃ m, s.ram.begun.Worked m ∧
        (Priority.critical.code < event.priority.code ∧ s' = ⟨s.dev, m.captured⟩ ∨
          ∃ data t, Presents bd c event (s.ram.runtime.sequence + 1) data ∧
            lsSpoolAppend bd s.ram.storage data event.priority ⟨s.dev, m.node⟩ = .ok () t ∧
            s' = ⟨t.dev, { m with node := t.ram }.captured⟩))
      (fun e s' => e = .fail .eagain ∧ s.ram.runtime.capturing = true ∧ s' = s ∨
        s.ram.runtime.capturing = false ∧ ∃ m, s.ram.begun.Worked m ∧
          (s' = ⟨s.dev, m.captured⟩ ∨
            ∃ data t, Presents bd c event (s.ram.runtime.sequence + 1) data ∧
              lsSpoolAppend bd s.ram.storage data event.priority ⟨s.dev, m.node⟩ = .error e t ∧
              (s' = ⟨t.dev, { m with node := t.ram }.captured⟩ ∨
                e = .cut ∧ s' = ⟨t.dev, { m with node := t.ram }⟩))) := by
  rw [lsCaptureEvent, sat_bind, sat_getRam]
  refine .ite (fun h => .throw (.inl ⟨rfl, h, rfl⟩)) fun h => ?_
  have hc : s.ram.runtime.capturing = false := by simpa using h
  rw [sat_bind, sat_updateRuntime, sat_afterwards]
  refine (captureFiltered_spec ⟨s.dev, s.ram.begun⟩).mono (fun _ s' h' => ⟨hc, ?_⟩)
    (fun e s' h' => ?_)
  · obtain ⟨m, hm, ⟨hp, rfl⟩ | ⟨data, t, hdata, ht, rfl⟩⟩ := h'
    · exact ⟨m, hm, .inl ⟨hp, rfl⟩⟩
    · exact ⟨m, hm, .inr ⟨data, t, hdata, ht, rfl⟩⟩
  · obtain ⟨m, hm, ⟨⟨err, rfl⟩, rfl⟩ | ⟨data, t, hdata, ht, rfl⟩⟩ := h'
    · exact .inr ⟨hc, m, hm, .inl rfl⟩
    · cases e with
      | fail err => exact .inr ⟨hc, m, hm, .inr ⟨data, t, hdata, ht, .inl rfl⟩⟩
      | cut => exact .inr ⟨hc, m, hm, .inr ⟨data, t, hdata, ht, .inr ⟨rfl, rfl⟩⟩⟩

end Capture

/-! ### What a boot loads -/

/-- A machine whose boot state is not the one of the storage. -/
def Machine.Unloaded (m m' : Machine) : Prop :=
  m' = m.withBoot default false ∨ m' = m.withBoot newBoot false

/-- The load of `ls_boot`. It goes on with the boot state of the storage, or with a new one
where there is none; it goes on without having loaded anything only if there is no storage
to read, or if the storage answers with `LS_ECORRUPT`. -/
lemma loadBoot_spec {bd : Build} (s : System Machine) :
    Sat (loadBoot bd) s
      (fun _ s' => s.dev.Looked s'.dev ∧
        ((∀ b, s.ram.storage = some b → b.hasRead = false) ∧ s'.ram = s.ram.withBoot default false ∨
          ∃ b, s.ram.storage = some b ∧
            (s'.ram = s.ram.withBoot ((bootAt s.dev.medium (bootOffset bd b)).getD newBoot) true ∨
              CorruptAnswer bd b s.dev ∧ s.ram.Unloaded s'.ram)))
      (fun _ s' => s.dev.Looked s'.dev ∧ ∃ b, s.ram.storage = some b ∧ s.ram.Unloaded s'.ram) := by
  rw [loadBoot, sat_bind, sat_attempt]
  refine (lsBootStateLoad_spec s).mono (fun _ s' h => .pure ⟨h.1, ?_⟩)
    (fun e s' h => ?_)
  · refine h.2.imp id fun ⟨b, p, hb, hp, hr⟩ => ⟨b, hb, .inl ?_⟩
    rw [hp]
    exact hr
  · obtain ⟨hd, b, hb, h⟩ := h
    cases e with
    | cut =>
        obtain h | h := h
        · cases h.error
        · exact ⟨hd, b, hb, h.ram⟩
    | fail e =>
        by_cases he : e = .ecorrupt
        · subst he
          dsimp only
          rw [sat_pure]
          refine ⟨hd, .inr ⟨b, hb, h.imp (fun h => ?_) fun h => ⟨h.cause rfl, h.ram⟩⟩⟩
          rw [h.missing]
          exact h.ram
        · have hfailed : LoadFailed bd b s.dev s.ram s'.ram (.fail e) :=
            h.resolve_left fun h => he (by cases h.error; rfl)
          cases e with
          | ecorrupt => exact absurd rfl he
          | _ => exact .throw ⟨hd, b, hb, hfailed.ram⟩

/-! ### A small machine -/

/-- A byte-addressed memory with room for the small spool and a boot state behind it. -/
def smallFram : Backend :=
  { sizeMax := 0xffffffff, capacity := 512, eraseSize := 1, writeSize := 1, hasRead := true
    hasWrite := true, hasErase := true, hasSync := true, enforceNor := false
    capacity_le := sector_le, eraseSize_le := byte_le, writeSize_le := byte_le }

/-- A world without a clock whose random provider works. -/
def quietWorld : World :=
  { timestampMs := none, resetInfo := none, random := fun _ => .ok ⟨List.replicate 24 5, by decide⟩
    memory := fun _ _ => 0, blackbox := fun _ => default }

/-- A machine at its first power-up, on a blank device with the given faults. -/
def poweredUp (faults : ℕ → Request → Fault) : System Machine :=
  ⟨⟨fun _ => 0xff, faults, []⟩,
    { node := idleNode, storage := none, breadcrumbPolicy := .dropOldest, loaded := false
      written := [], trace := [], retained := default, world := quietWorld, calls := 0 }⟩

end Latch
