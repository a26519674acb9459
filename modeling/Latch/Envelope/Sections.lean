
/-
The sections of a payload, `put_identity` to `put_memory` of `lep.c`.

Each `put…` is the function of the same name. The bytes of a value are listed in the
order in which the source writes them; a section that may be dropped goes through
`putOptionalTlv`. Only `putMemory` reads application memory.
-/
import Latch.Core.Blackbox
import Latch.Envelope.Writer

namespace Latch

open Bytes Exec Tlv

/-! ### Field types -/

/-- `ls_tlv_type_t`. -/
inductive TlvType where
  | identity
  | reset
  | event
  | cpu
  | fault
  | breadcrumb
  | metric
  | power
  | health
  | assert
  | peripheral
  | log
  | memory
  | stack
  | heap
  | cpu64
  | blackbox
  | mission
  | timeSync
  | provisioning
  | supervisor
  | environment
  | powerfailSeal
  deriving DecidableEq, Repr

/-- The value of a field type. -/
def TlvType.code : TlvType → UInt16
  | .identity => 1
  | .reset => 2
  | .event => 3
  | .cpu => 4
  | .fault => 5
  | .breadcrumb => 6
  | .metric => 7
  | .power => 8
  | .health => 9
  | .assert => 10
  | .peripheral => 11
  | .log => 12
  | .memory => 13
  | .stack => 14
  | .heap => 15
  | .cpu64 => 16
  | .blackbox => 17
  | .mission => 18
  | .timeSync => 19
  | .provisioning => 20
  | .supervisor => 21
  | .environment => 22
  | .powerfailSeal => 23

lemma TlvType.code_ne (t : TlvType) : t.code ≠ 0 := by
  cases t <;> decide

/-- A flag as it is written. -/
def flagByte (c : Bool) : List UInt8 := [if c then 1 else 0]

/-! ### The sections -/

/-- A section of fixed size that may be dropped. -/
def putFixed (type : TlvType) (capacity : ℕ) (pieces : List (List UInt8)) : EncodeM Unit := do
  let value ← nestedValue capacity (writeAll pieces)
  putOptionalTlv type.code value

section

variable (b : Build) (rt : Runtime)

/-- The fifteen strings of `put_identity`, with their fallbacks. -/
def identityFields : List (Option (List UInt8)) :=
  let identity := rt.config.identity
  [identity.projectId, identity.deviceId, identity.product, identity.hardwareRevision,
    identity.bomRevision, identity.manufacturingBatch, identity.firmwareVersion,
    identity.firmwareBuildId <|> some b.buildId, identity.bootloaderVersion, identity.gitCommit,
    identity.variant, identity.architecture, identity.rtos <|> rt.config.rtos,
    identity.region <|> rt.config.region, identity.deviceGroup <|> rt.config.deviceGroup]

/-- The loop of `put_identity` over the strings still to come. Each leaves room for the
two bytes that every later string takes. -/
def putIdentityFields : ℕ → List (Option (List UInt8)) → EncodeM Unit
  | _, [] => pure ()
  | index, text :: rest => do
    let available ← writerRemaining
    if available < 2 + rest.length * 2 then throw .enospace
    else do
      putStringField (UInt8.ofNat (index + 1)) text (available - 2 - rest.length * 2)
      putIdentityFields (index + 1) rest

/-- `put_identity`. -/
def putIdentity : EncodeM Unit := do
  let outerCapacity ← writerRemaining
  if outerCapacity < 4 + 30 then throw .enospace
  else do
    let value ← nestedValue (min (outerCapacity - 4) 512) (putIdentityFields 0 (identityFields b rt))
    lsWriterTlv TlvType.identity.code value

/-- `put_reset`. -/
def putReset (event : Event) : EncodeM Unit := do
  let value ← nestedValue 32 (writeAll
    [[rt.resetInfo.reason.code], le32 rt.resetInfo.rawReason, le32 rt.bootCount,
      le32 rt.resetInfo.previousUptimeMs, le32 event.timestampMs, flagByte rt.resetInfo.expected,
      flagByte rt.previousCrashed, flagByte rt.bootLoop])
  lsWriterTlv TlvType.reset.code value

/-- The value of the field `EVENT`, piece by piece. -/
def eventPieces (event : Event) : List (List UInt8) :=
  [[event.priority.code], [event.severity.code], [event.captureLevel.code],
    le32 (lsHashString event.domain), le32 event.code.toUInt32,
    le32 (lsHashString event.message), le32 event.fingerprint, le32 event.repeatCount,
    le32 event.firstSeenMs, le32 event.lastSeenMs]

/-- `put_event`. -/
def putEvent (event : Event) : EncodeM Unit := do
  let value ← nestedValue 64 (writeAll (eventPieces event))
  lsWriterTlv TlvType.event.code value

/-- `put_cpu64`; the context is only read where it is complete. -/
def putCpu64 (context : Riscv64Context) (complete : Bool) : EncodeM Unit := do
  let value ← nestedValue (4 + (32 + 4) * 8) (writeAll
    ([[1], [if complete then 1 else 2], [lsArchRiscv64.toUInt8], [8]] ++
      if complete then
        (List.ofFn fun i => le64 (context.x i)) ++
          [le64 context.mstatus, le64 context.mcause, le64 context.mtval, le64 context.mepc]
      else []))
  lsWriterTlv TlvType.cpu64.code value

/-- The value of the field `CPU`, piece by piece. -/
def cpuPieces (cpu : ArchContext) : List (List UInt8) :=
  [[cpu.architecture.toUInt8], [cpu.fault.toUInt8]] ++
    (List.ofFn fun i => le32 (cpu.registers i)) ++
    [le32 cpu.lr, le32 cpu.pc, le32 cpu.xpsr, le32 cpu.msp, le32 cpu.psp, le32 cpu.control,
      le32 cpu.primask, le32 cpu.basepri, le32 cpu.faultmask, le32 cpu.excReturn,
      le32 cpu.mcause, le32 cpu.mtval, le32 cpu.mstatus, le32 cpu.mepc, le32 cpu.exccause,
      le32 cpu.excvaddr, le32 cpu.ps, le32 cpu.sar, flagByte cpu.hasFpu, flagByte cpu.fpuLazy] ++
    if cpu.hasFpu then (List.ofFn fun i => le32 (cpu.s i)) ++ [le32 cpu.fpscr] else []

/-- The value of the field `FAULT`, piece by piece. -/
def faultPieces (cpu : ArchContext) : List (List UInt8) :=
  [le32 cpu.cfsr, le32 cpu.hfsr, le32 cpu.dfsr, le32 cpu.afsr, le32 cpu.mmfar, le32 cpu.bfar,
    le32 cpu.shcsr, le32 cpu.icsr, le32 cpu.vtor, le32 cpu.sfsr, le32 cpu.sfar,
    le32 (UInt32.ofNat cpu.faultAddress), le32 cpu.signalNumber.toUInt32]

/-- The RV64 part of `put_cpu`: a full bank where it fits in front of the fields behind
it, else a descriptor that says so. -/
def putWide (cpu : ArchContext) (riscv64 : Option Riscv64Context) : EncodeM Unit :=
  if cpu.architecture = lsArchRiscv64 then do
    let cpuValueLength := 2 + 32 * 4 + 18 * 4 + 2 + if cpu.hasFpu then 17 * 4 else 0
    let legacyRequired := 4 + cpuValueLength + 4 + 13 * 4
    let fullCpu64Required := 4 + 4 + (32 + 4) * 8
    let remaining ← writerRemaining
    let fullCpu64 := riscv64.isSome ∧ legacyRequired + fullCpu64Required ≤ remaining
    putCpu64 (riscv64.getD default) fullCpu64
    markIf (¬ fullCpu64)
  else pure ()

/-- `put_cpu`. -/
def putCpu (cpu : Option ArchContext) (riscv64 : Option Riscv64Context) : EncodeM Unit :=
  match cpu with
  | none => pure ()
  | some cpu => do
    putWide cpu riscv64
    let value ← nestedValue 512 (writeAll (cpuPieces cpu))
    lsWriterTlv TlvType.cpu.code value
    let fault ← nestedValue 64 (writeAll (faultPieces cpu))
    lsWriterTlv TlvType.fault.code fault

/-- One record of `put_breadcrumbs`. -/
def breadcrumbValue (record : BreadcrumbRecord) : EncodeM Unit := do
  writeAll [le32 record.atMs, le16 record.messageId, [record.severity],
    le32 record.categoryHash, le32 record.messageHash]
  putStoredString b 1 (some record.category)
  putStoredString b 2 (some record.message)
  writeAll ([record.valueCount] :: (record.values.take record.valueCount.toNat).flatMap fun kv =>
    [le16 kv.keyId, [kv.type], le32 kv.value])

/-- The loop of `put_breadcrumbs`; a record that does not fit its buffer ends it. -/
def putBreadcrumbRecords : List BreadcrumbRecord → EncodeM Unit
  | [] => pure ()
  | record :: rest => do
    match ← nestedOptional 160 (breadcrumbValue b record) with
    | none => pure ()
    | some value => do
      putOptionalTlv TlvType.breadcrumb.code value
      putBreadcrumbRecords rest

/-- `put_breadcrumbs`. -/
def putBreadcrumbs : EncodeM Unit :=
  if b.enableBreadcrumbs then
    putBreadcrumbRecords b
      (ringEntries rt.breadcrumbs b.breadcrumbCapacity rt.breadcrumbNext rt.breadcrumbCount)
  else pure ()

/-- One record of `put_metrics`. -/
def metricValue (metric : MetricRecord) : EncodeM Unit := do
  writeAll [le32 metric.nameHash]
  putStoredString b 1 (some metric.name)
  writeAll ([[metric.type], le32 metric.value.toUInt32, le32 metric.previous.toUInt32,
    le32 metric.minimum.toUInt32, le32 metric.maximum.toUInt32, le64 metric.sum.toUInt64,
    le32 metric.count, [metric.windowCount]] ++
    (metric.window.take metric.windowCount.toNat).map fun v => le32 v.toUInt32)

/-- The loop of `put_metrics`; a record that does not fit its buffer ends it. -/
def putMetricRecords : List MetricRecord → EncodeM Unit
  | [] => pure ()
  | metric :: rest => do
    match ← nestedOptional 128 (metricValue b metric) with
    | none => pure ()
    | some value => do
      putOptionalTlv TlvType.metric.code value
      putMetricRecords rest

/-- `put_metrics`. -/
def putMetrics : EncodeM Unit :=
  if b.enableMetrics then putMetricRecords b rt.metrics else pure ()

/-- The loop of `put_power_health`. -/
def putPowerSamples : List PowerSample → EncodeM Unit
  | [] => pure ()
  | sample :: rest => do
    let value ← nestedValue 20 (writeAll
      [le32 sample.timestampMs, le16 sample.vddMv, le16 sample.batteryMv,
        le16 sample.currentMa.toUInt16, le16 sample.temperatureC.toUInt16,
        le16 sample.chargerStatus, le16 sample.powerFlags])
    putOptionalTlv TlvType.power.code value
    putPowerSamples rest

/-- The samples of `put_power_health`. -/
def putPower : EncodeM Unit :=
  if b.enablePowerSamples then
    putPowerSamples (ringEntries rt.powerSamples b.powerSampleCapacity rt.powerNext rt.powerCount)
  else pure ()

/-- `put_power_health`. -/
def putPowerHealth : EncodeM Unit := do
  putPower b rt
  putFixed .health 32 [le32 rt.watchdogLastFeed, le16 rt.watchdogCheckpoint,
    le32 (lsHashString (some rt.activeTask))]

/-- The loop of `put_blackbox` over the `remaining` most recent records, oldest first. It
ends behind a record that finds the envelope marked as truncated. -/
def putBlackboxFrom (bb : Blackbox) : ℕ → EncodeM Unit
  | 0 => pure ()
  | remaining + 1 =>
    match lsBlackboxGetRecent bb remaining with
    | none => putBlackboxFrom bb remaining
    | some record =>
      if record.flags &&& lsBlackboxSensitive ≠ 0 then putBlackboxFrom bb remaining
      else do
        let value ← nestedValue 32 (writeAll
          ([[1], le32 record.timestampMs, le16 record.kind, le16 record.sourceId,
            le16 record.flags] ++ List.ofFn fun i => le32 (record.value i).toUInt32))
        putOptionalTlv TlvType.blackbox.code value
        let s ← get
        if s.truncated then pure () else putBlackboxFrom bb remaining

/-- `put_blackbox`. -/
def putBlackbox (bb : Blackbox) : EncodeM Unit :=
  putBlackboxFrom bb (min bb.count b.blackboxEnvelopeMax)

/-- `ls_mission_elapsed_ms`. -/
def lsMissionElapsedMs (uptimeMs : UInt32) : UInt32 :=
  if rt.mission.missionId = [] then 0 else uptimeMs - rt.mission.missionStartedMs

/-- The value of the field `MISSION`. -/
def missionValue (uptimeMs : UInt32) : EncodeM Unit := do
  let mission := rt.mission
  writeAll [[1], le32 (lsHashString (some mission.missionId)),
    le32 (lsHashString (some mission.diveId)), le32 (lsHashString (some mission.nodeId)),
    le32 (lsHashString (some mission.vehicleMode)), le32 mission.phase,
    le32 mission.depthCm.toUInt32, le32 (lsMissionElapsedMs rt uptimeMs),
    le64 mission.incidentHi, le64 mission.incidentLo, flagByte mission.incidentActive]
  putStoredString b 1 (some mission.missionId)
  putStoredString b 2 (some mission.diveId)
  putStoredString b 3 (some mission.nodeId)
  putStoredString b 4 (some mission.vehicleMode)

/-- `put_mission`. -/
def putMission (uptimeMs : UInt32) : EncodeM Unit :=
  if rt.mission.missionId = [] ∧ ¬ rt.mission.incidentActive then pure ()
  else do
    let value ← nestedValue 256 (missionValue b rt uptimeMs)
    putOptionalTlv TlvType.mission.code value

/-- `put_time_sync`. -/
def putTimeSync : EncodeM Unit :=
  let state := rt.timeSync
  if ¬ state.synchronized then pure ()
  else putFixed .timeSync 32 [[1], [state.source], le64 state.utcMsAtSync,
    le32 state.monotonicMsAtSync, le32 state.uncertaintyMs, le32 state.generation]

/-- `put_provisioning`. -/
def putProvisioning : EncodeM Unit :=
  let state := rt.persistent
  if state.provisionState = 0 ∧ state.provisionGeneration = 0 then pure ()
  else putFixed .provisioning 32 [[1], [state.provisionState], le32 state.provisionKeyId,
    le32 state.provisionPendingKeyId, le32 state.provisionGeneration,
    le32 state.provisionMonotonicCounter]

/-- `put_supervisor`. -/
def putSupervisor : EncodeM Unit :=
  let state := rt.supervisorStatus
  if ¬ state.configured then pure ()
  else putFixed .supervisor 24 [[1], le32 state.activeAlarms, le32 state.previousAlarms,
    le32 state.transitions, le32 state.lastChangeMs]

/-- `put_environment`. -/
def putEnvironment : EncodeM Unit :=
  let summary := rt.environment
  if summary.sampleCount = 0 then pure ()
  else putFixed .environment 40 [[1], le32 summary.last.timestampMs, le32 summary.last.pressurePa,
    le32 summary.last.depthCm.toUInt32, le16 summary.last.internalTemperatureC.toUInt16,
    le16 summary.last.humidityPermyriad, le16 summary.last.vibrationMgRms,
    le16 summary.last.flags, le32 summary.sampleCount, le32 summary.leakEvents]

/-- `put_powerfail_seal`. -/
def putPowerfailSeal : EncodeM Unit :=
  let last := rt.powerfailLast
  if ¬ b.enablePowerfailSeal ∨ ¬ rt.powerfailLastValid ∨ ¬ last.sealedOk ∨ 3 < last.reason then
    pure ()
  else putFixed .powerfailSeal 16 [[1], [last.reason.toUInt8], [last.tier.toUInt8],
    le16 last.vcapMv, le32 last.bootId, le32 last.fault]

/-- A part of `put_details`: what does not fit its buffer is left out. -/
def putDetail (type : TlvType) (capacity : ℕ) (body : EncodeM Unit) : EncodeM Unit := do
  match ← nestedOptional capacity body with
  | none => pure ()
  | some value => putOptionalTlv type.code value

/-- The assertion of `put_details`. -/
def putAssertion (assertion : AssertInfo) : EncodeM Unit :=
  putDetail .assert 200 do
    writeAll [le32 assertion.line.toUInt32, le32 (lsHashString assertion.expression),
      le32 (lsHashString assertion.file)]
    putStoredString b 1 assertion.expression
    putStoredString b 2 assertion.file
    putStoredString b 3 assertion.message

/-- The peripheral fault of `put_details`. -/
def putPeripheral (peripheral : PeripheralFault) : EncodeM Unit :=
  putDetail .peripheral 48 (writeAll ([[peripheral.domain], le16 peripheral.fault,
    le16 peripheral.busInstance, le32 peripheral.status, le32 peripheral.address,
    le32 peripheral.reg, le32 peripheral.timeoutMs] ++
    List.ofFn fun i => le32 (peripheral.auxiliary i)))

/-- The log entry of `put_details`. -/
def putLog (log : LogInfo) : EncodeM Unit :=
  putDetail .log 24 (writeAll ([le16 log.messageId, le16 log.formatId, [log.argumentCount]] ++
    (log.arguments.take log.argumentCount.toNat).map le32))

/-- `put_details`. -/
def putDetails (event : Event) : EncodeM Unit := do
  event.assertion.forM (putAssertion b)
  event.peripheral.forM putPeripheral
  event.log.forM putLog

/-! ### Memory -/

/-- `ls_redaction_for`: the mode of the first redaction that meets the range, if any. -/
def lsRedactionFor (address length : ℕ) : Option RedactionMode :=
  let stop := (address + length) % (b.uintptrMax + 1)
  (rt.redactions.find? fun r =>
    address < (r.address + r.length) % (b.uintptrMax + 1) ∧ r.address < stop).map (·.mode)

/-- The zeros that stand for a range, in chunks of 32. -/
def zeroChunks (length : ℕ) : List (List UInt8) :=
  List.replicate (length / 32) (List.replicate 32 0) ++
    if length % 32 = 0 then [] else [List.replicate (length % 32) 0]

/-- `LS_DUMP_SAFE`. -/
def lsDumpSafe : UInt32 := 1

/-- The length of a region as it is dumped. -/
def dumpLength (region : DumpRegion) : ℕ := min region.length b.dumpRegionMaxBytes

/-- What is dumped of a region, given the redaction that meets it first. -/
def dumpContent (mem : ℕ → UInt8) (region : DumpRegion) : Option RedactionMode → List (List UInt8)
  | some .hash => [le32 (lsCrc32 (Medium.read mem region.address (dumpLength b region)))]
  | some .zero => zeroChunks (dumpLength b region)
  | _ => [Medium.read mem region.address (dumpLength b region)]

/-- The value of the field `MEMORY`. -/
def memoryValue (mem : ℕ → UInt8) (region : DumpRegion) (mode : Option RedactionMode) :
    EncodeM Unit :=
  writeAll ([le32 (lsHashString region.name), le32 (UInt32.ofNat region.address),
    le32 (UInt32.ofNat region.length), le32 region.flags] ++ dumpContent b mem region mode)

/-- The loop of `put_memory` over the dump regions; `false` where it returns from
`put_memory`. -/
def putDumpRegions (mem : ℕ → UInt8) : List DumpRegion → EncodeM Bool
  | [] => pure true
  | region :: rest =>
    if region.flags &&& lsDumpSafe = 0 then putDumpRegions mem rest
    else do
      markIf (b.dumpRegionMaxBytes < region.length)
      let mode := lsRedactionFor b rt region.address (dumpLength b region)
      if mode = some .exclude then do
        markTruncated
        putDumpRegions mem rest
      else do
        match ← nestedOptional (b.dumpRegionMaxBytes + 48) (memoryValue b mem region mode) with
        | none => pure false
        | some value => do
          putOptionalTlv TlvType.memory.code value
          putDumpRegions mem rest

/-- The stack pointer and the length of the snapshot that `put_memory` takes, if any. -/
def stackWindow (event : Event) : Option (ℕ × ℕ) :=
  match event.cpu with
  | none => none
  | some cpu =>
    let stackPointer := (if cpu.psp ≠ 0 then cpu.psp else cpu.msp).toNat
    if b.enableStackSnapshot ∧ CaptureLevel.stack.code ≤ event.captureLevel.code ∧
        rt.stackLower ≠ 0 ∧ rt.stackUpper ≠ 0 ∧
        rt.stackLower ≤ stackPointer ∧ stackPointer < rt.stackUpper then
      some (stackPointer, rt.stackUpper - stackPointer)
    else none

/-- The stack snapshot of `put_memory`. -/
def putStack (mem : ℕ → UInt8) (event : Event) : EncodeM Unit :=
  match stackWindow b rt event with
  | none => pure ()
  | some (stackPointer, available) => do
    markIf (b.stackSnapshotMax < available)
    let length := min available b.stackSnapshotMax
    putDetail .stack (b.stackSnapshotMax + 8) (writeAll [le32 (UInt32.ofNat stackPointer),
      le32 (UInt32.ofNat length), Medium.read mem stackPointer length])

/-- The heap statistics of `put_memory`. -/
def putHeap : EncodeM Unit :=
  putFixed .heap 20 [le32 rt.heapStats.freeBytes, le32 rt.heapStats.minimumFreeBytes,
    le32 rt.heapStats.largestBlock, le32 rt.heapStats.allocationFailures,
    le32 rt.heapStats.poolExhaustions]

/-- The dump of `put_memory`. -/
def putDump (mem : ℕ → UInt8) (event : Event) : EncodeM Bool :=
  if CaptureLevel.selective.code ≤ event.captureLevel.code then
    putDumpRegions b rt mem rt.dumpRegions
  else pure true

/-- `put_memory`. -/
def putMemory (mem : ℕ → UInt8) (event : Event) : EncodeM Unit :=
  if b.enableDumps then do
    let goOn ← putDump b rt mem event
    if goOn then do
      putStack b rt mem event
      putHeap rt
    else pure ()
  else putHeap rt

/-- `put_payload`. -/
def putPayload (bb : Blackbox) (mem : ℕ → UInt8) (uptimeMs : UInt32) (event : Event) :
    EncodeM Unit := do
  putIdentity b rt
  putReset rt event
  putEvent event
  putCpu event.cpu event.riscv64
  putBreadcrumbs b rt
  putMetrics b rt
  putPowerHealth b rt
  putBlackbox b bb
  putMission b rt uptimeMs
  putTimeSync rt
  putProvisioning rt
  putSupervisor rt
  putEnvironment rt
  putPowerfailSeal b rt
  putDetails b event
  putMemory b rt mem event

end

/-! ### What a section adds to the payload -/

/-- The type of a field behind the first three. -/
def Late (type : UInt16) : Prop := TlvType.event.code < type

instance (type : UInt16) : Decidable (Late type) :=
  inferInstanceAs (Decidable (TlvType.event.code < type))

lemma flatten_ofFn_length {n k : ℕ} {f : Fin n → List UInt8} (h : ∀ i, (f i).length = k) :
    (List.ofFn f).flatten.length = n * k := by
  simp [List.length_flatten, List.map_ofFn, Function.comp_def, h]

section

variable {P : UInt16 → Prop} {E : Prop} (b : Build) (rt : Runtime)

variable {t : TlvType}

variable {capacity : ℕ} {pieces : List (List UInt8)} {body : EncodeM Unit} {α : Type}

lemma writes_optional (ht : P t.code) (value : List UInt8) :
    Writes P E (putOptionalTlv t.code value) := writes_putOptionalTlv t.code_ne ht value

/-- A section whose field must be written. -/
lemma writes_required (h : E) (ht : P t.code) (capacity : ℕ) (body : EncodeM Unit) :
    Writes P E (nestedValue capacity body >>= lsWriterTlv t.code) :=
  (writes_nestedValue h _ _).bind fun value => writes_lsWriterTlv h t.code_ne ht value

lemma writes_putFixed (ht : P t.code)
    (h : pieces.flatten.length ≤ capacity) : Writes P E (putFixed t capacity pieces) :=
  (writes_value h).bind fun value => writes_optional ht value

/-- A section that is left out under a condition. -/
lemma writes_putFixed_unless {c : Prop} [Decidable c] (ht : P t.code) (h : pieces.flatten.length ≤ capacity) :
    Writes P E (if c then pure () else putFixed t capacity pieces) :=
  (writes_pure ()).ite (writes_putFixed ht h)

/-- A loop that writes a field for each record and ends with one that does not fit. -/
lemma writes_record (ht : P t.code) (h : OnlySpace body) {y : α} {rest : EncodeM α} (hrest : Writes P E rest) (capacity : ℕ) :
    Writes P E (nestedOptional capacity body >>= fun
      | none => pure y
      | some value => putOptionalTlv t.code value >>= fun _ => rest) := by
  refine (writes_nestedOptional h capacity).bind fun value => ?_
  cases value with
  | none => exact writes_pure y
  | some value => exact (writes_optional ht value).bind fun _ => hrest

lemma writes_putDetail (ht : P t.code) (h : OnlySpace body)
    (capacity : ℕ) : Writes P E (putDetail t capacity body) := by
  refine (writes_nestedOptional h capacity).bind fun value => ?_
  cases value with
  | none => exact writes_pure ()
  | some value => exact writes_optional ht value

lemma writes_putIdentity (h : E) (ht : P TlvType.identity.code) :
    Writes P E (putIdentity b rt) :=
  writes_writerRemaining.bind fun _ => (writes_throw h _).ite (writes_required h ht _ _)

lemma writes_putWide (h : E) (ht : P TlvType.cpu64.code) (cpu : ArchContext)
    (riscv64 : Option Riscv64Context) : Writes P E (putWide cpu riscv64) :=
  (writes_writerRemaining.bind fun _ => (writes_required h ht _ _).bind fun _ =>
    writes_markIf _).ite (writes_pure ())

lemma writes_putCpu (h : E) (hwide : P TlvType.cpu64.code) (hcpu : P TlvType.cpu.code)
    (hfault : P TlvType.fault.code) (cpu : Option ArchContext) (riscv64 : Option Riscv64Context) :
    Writes P E (putCpu cpu riscv64) := by
  cases cpu with
  | none => exact writes_pure ()
  | some cpu =>
      refine (writes_putWide h hwide cpu riscv64).bind fun _ => ?_
      refine (writes_nestedValue h _ _).bind fun value => ?_
      refine (writes_lsWriterTlv h TlvType.cpu.code_ne hcpu value).bind fun _ => ?_
      exact writes_required h hfault _ _

lemma writes_putBreadcrumbs (ht : P TlvType.breadcrumb.code) :
    Writes P E (putBreadcrumbs b rt) := by
  have hrecords : ∀ records, Writes P E (putBreadcrumbRecords b records) := by
    intro records
    induction records with
    | nil => exact writes_pure ()
    | cons record rest ih =>
        exact writes_record ht ((onlySpace_writeAll _).bind ((onlySpace_putStoredString b 1 _).bind
          ((onlySpace_putStoredString b 2 _).bind (onlySpace_writeAll _)))) ih 160
  exact (hrecords _).ite (writes_pure ())

lemma writes_putMetrics (ht : P TlvType.metric.code) : Writes P E (putMetrics b rt) := by
  have hrecords : ∀ metrics, Writes P E (putMetricRecords b metrics) := by
    intro metrics
    induction metrics with
    | nil => exact writes_pure ()
    | cons metric rest ih =>
        exact writes_record ht ((onlySpace_writeAll _).bind
          ((onlySpace_putStoredString b 1 _).bind (onlySpace_writeAll _))) ih 128
  exact (hrecords _).ite (writes_pure ())

lemma writes_putPowerHealth (hp : P TlvType.power.code) (hh : P TlvType.health.code) :
    Writes P E (putPowerHealth b rt) := by
  have hsamples : ∀ samples, Writes P E (putPowerSamples samples) := by
    intro samples
    induction samples with
    | nil => exact writes_pure ()
    | cons sample rest ih =>
        exact (writes_value (by simp)).bind fun value =>
          (writes_optional hp value).bind fun _ => ih
  exact ((hsamples _).ite (writes_pure ())).bind fun _ => writes_putFixed hh (by simp)

lemma writes_putBlackboxFrom (ht : P TlvType.blackbox.code) (bb : Blackbox) (remaining : ℕ) :
    Writes P E (putBlackboxFrom bb remaining) := by
  induction remaining with
  | zero => exact writes_pure ()
  | succ remaining ih =>
      rw [putBlackboxFrom]
      cases lsBlackboxGetRecent bb remaining with
      | none => exact ih
      | some record =>
          refine ih.ite ((writes_value ?_).bind fun value => (writes_optional ht value).bind fun _ =>
            writes_get.bind fun _ => (writes_pure ()).ite ih)
          rw [List.flatten_append, List.length_append,
            flatten_ofFn_length fun i => le32_length (record.value i).toUInt32]
          simp

/-- A mission must fit its buffer. -/
lemma writes_putMission (ht : P TlvType.mission.code) (uptimeMs : UInt32)
    (h : ¬ (rt.mission.missionId = [] ∧ ¬ rt.mission.incidentActive) → E) :
    Writes P E (putMission b rt uptimeMs) := by
  rw [putMission]
  split
  · exact writes_pure ()
  · rename_i hsome
    exact (writes_nestedValue (h hsome) _ _).bind fun value => writes_optional ht value

lemma writes_forM {f : α → EncodeM Unit} (x : Option α) (hf : ∀ a, Writes P E (f a)) :
    Writes P E (x.forM f) := by
  cases x with
  | none => exact writes_pure ()
  | some a => exact hf a

lemma writes_putDetails (ha : P TlvType.assert.code) (hp : P TlvType.peripheral.code)
    (hl : P TlvType.log.code) (event : Event) : Writes P E (putDetails b event) := by
  refine (writes_forM _ fun a => writes_putDetail ha ?_ _).bind fun _ =>
    (writes_forM _ fun p => writes_putDetail hp (onlySpace_writeAll _) _).bind fun _ =>
      writes_forM _ fun l => writes_putDetail hl (onlySpace_writeAll _) _
  exact (onlySpace_writeAll _).bind ((onlySpace_putStoredString b 1 _).bind
    ((onlySpace_putStoredString b 2 _).bind (onlySpace_putStoredString b 3 _)))

lemma writes_putDumpRegions (ht : P TlvType.memory.code) (mem : ℕ → UInt8)
    (regions : List DumpRegion) : Writes P E (putDumpRegions b rt mem regions) := by
  induction regions with
  | nil => exact writes_pure true
  | cons region rest ih =>
      exact ih.ite ((writes_markIf _).bind fun _ => (writes_markTruncated.bind fun _ => ih).ite
        (writes_record ht (onlySpace_writeAll _) ih _))

lemma writes_putStack (ht : P TlvType.stack.code) (mem : ℕ → UInt8) (event : Event) :
    Writes P E (putStack b rt mem event) := by
  rw [putStack]
  cases stackWindow b rt event with
  | none => exact writes_pure ()
  | some w => exact (writes_markIf _).bind fun _ => writes_putDetail ht (onlySpace_writeAll _) _

lemma writes_putMemory (hm : P TlvType.memory.code) (hs : P TlvType.stack.code)
    (hh : P TlvType.heap.code) (mem : ℕ → UInt8) (event : Event) :
    Writes P E (putMemory b rt mem event) := by
  have hheap : Writes P E (putHeap rt) := writes_putFixed hh (by simp)
  refine (Writes.bind ?_ fun goOn => ?_).ite hheap
  · exact (writes_putDumpRegions b rt hm mem _).ite (writes_pure true)
  · exact ((writes_putStack b rt hs mem event).bind fun _ => hheap).ite (writes_pure ())

end

/-! ### The payload -/

/-- A section that adds no field leaves the writer as it was. -/
lemma Grows.extends_nil {s s' : Encoder} (h : Grows (fun _ => False) s s') : Extends [] s s' := by
  obtain ⟨ts, hts, hno⟩ := h
  cases ts with
  | nil => exact hts
  | cons x ts => exact (hno x (by simp)).elim

section Payload

variable (b : Build) (rt : Runtime)

variable (bb : Blackbox) (mem : ℕ → UInt8) (uptimeMs : UInt32) (event : Event) (s : Encoder)

/-- `put_identity` writes one field. -/
lemma putIdentity_spec :
    Returns (putIdentity b rt) s fun _ s' =>
      ∃ x : Tlv.Field, x.type = TlvType.identity.code ∧ Extends [x] s s' := by
  rw [Returns, putIdentity, sat_bind, writerRemaining, sat_map, sat_get]
  refine .ite (fun _ => by rw [sat_throw]; trivial) fun _ => ?_
  refine (@writes_nestedValue (fun _ => False) True trivial _ _ s).bind fun value s₁ h₁ => ?_
  refine (lsWriterTlv_spec TlvType.identity.code_ne value s₁).mono fun _ s' hs' => ?_
  obtain ⟨rfl, hfit⟩ := hs'
  exact ⟨_, rfl, h₁.extends_nil.trans (extends_push hfit)⟩

/-- The fields of a processor context. -/
def CarriesCpu (cpu : Option ArchContext) (ts : List Tlv.Field) : Prop :=
  ∀ c, cpu = some c → ∃ x ∈ ts, ∃ y ∈ ts,
    x.pair = (TlvType.cpu.code, (cpuPieces c).flatten) ∧
    y.pair = (TlvType.fault.code, (faultPieces c).flatten)

/-- `put_cpu` writes the context and the fault behind the RV64 bank. -/
lemma putCpu_spec (cpu : Option ArchContext) (riscv64 : Option Riscv64Context) (s : Encoder) :
    Returns (putCpu cpu riscv64) s fun _ s' =>
      ∃ ts, CarriesCpu cpu ts ∧ (∀ x ∈ ts, Late x.type) ∧ Extends ts s s' := by
  cases cpu with
  | none =>
      exact (sat_pure ()).mpr ⟨[], nofun, nofun, Extends.refl s⟩
  | some c =>
      rw [Returns, putCpu]
      refine (@writes_putWide Late True trivial (by decide) c riscv64 s).bind fun _ s₁ h₁ => ?_
      obtain ⟨pre, hpre, hlate⟩ := h₁
      -- the two fields behind, each built and written
      have hbind : ∀ {α : Type} (x : EncodeM α) (f : α → EncodeM Unit) (g : EncodeM Unit),
          (do let v ← x; f v; g) = (do (do let v ← x; f v); g) := by
        intro α x f g
        rw [bind_assoc]
      rw [hbind, sat_bind]
      refine (putField_spec TlvType.cpu.code_ne (by norm_num) (cpuPieces c) s₁).mono
        fun _ s₂ h₂ => ?_
      obtain ⟨x, hx, hx₂⟩ := h₂
      refine (putField_spec TlvType.fault.code_ne (by norm_num) (faultPieces c) s₂).mono
        fun _ s₃ h₃ => ?_
      obtain ⟨y, hy, hy₃⟩ := h₃
      refine ⟨pre ++ ([x] ++ [y]), ?_, ?_, hpre.trans (hx₂.trans hy₃)⟩
      · rintro c' ⟨⟩
        exact ⟨x, by simp, y, by simp, hx, hy⟩
      · intro z hz
        have hxt : x.type = TlvType.cpu.code := congrArg Prod.fst hx
        have hyt : y.type = TlvType.fault.code := congrArg Prod.fst hy
        simp only [List.mem_append, List.mem_singleton] at hz
        obtain hz | rfl | rfl := hz
        · exact hlate z hz
        · rw [hxt]; decide
        · rw [hyt]; decide

/-- The sections behind `put_cpu`. -/
def putRest (bb : Blackbox) (mem : ℕ → UInt8) (uptimeMs : UInt32) (event : Event) :
    EncodeM Unit := do
  putBreadcrumbs b rt
  putMetrics b rt
  putPowerHealth b rt
  putBlackbox b bb
  putMission b rt uptimeMs
  putTimeSync rt
  putProvisioning rt
  putSupervisor rt
  putEnvironment rt
  putPowerfailSeal b rt
  putDetails b event
  putMemory b rt mem event

/-- No section behind the processor context fails, if there is no mission to report. -/
lemma writes_putRest :
    Writes Late (¬ (rt.mission.missionId = [] ∧ ¬ rt.mission.incidentActive))
      (putRest b rt bb mem uptimeMs event) :=
  (writes_putBreadcrumbs b rt (by decide)).bind fun _ =>
    (writes_putMetrics b rt (by decide)).bind fun _ =>
    (writes_putPowerHealth b rt (by decide) (by decide)).bind fun _ =>
    (writes_putBlackboxFrom (by decide) bb _).bind fun _ =>
    (writes_putMission b rt (by decide) uptimeMs id).bind fun _ =>
    (writes_putFixed_unless (by decide) (by simp)).bind fun _ =>
    (writes_putFixed_unless (by decide) (by simp)).bind fun _ =>
    (writes_putFixed_unless (by decide) (by simp)).bind fun _ =>
    (writes_putFixed_unless (by decide) (by simp)).bind fun _ =>
    (writes_putFixed_unless (by decide) (by simp)).bind fun _ =>
    (writes_putDetails b (by decide) (by decide) (by decide) event).bind fun _ =>
    writes_putMemory b rt (by decide) (by decide) (by decide) mem event

/-- What `put_payload` writes: the identity, the reset and the event, then the processor
context if there is one, then fields of later types. -/
theorem putPayload_spec :
    Returns (putPayload b rt bb mem uptimeMs event) s fun _ s' =>
      ∃ (x y z : Tlv.Field) (ts : List Tlv.Field),
        x.type = TlvType.identity.code ∧ y.type = TlvType.reset.code ∧
        z.pair = (TlvType.event.code, (eventPieces event).flatten) ∧
        CarriesCpu event.cpu ts ∧ (∀ f ∈ ts, Late f.type) ∧ Extends ([x, y, z] ++ ts) s s' := by
  have hrest : putPayload b rt bb mem uptimeMs event = (do
      putIdentity b rt
      putReset rt event
      putEvent event
      putCpu event.cpu event.riscv64
      putRest b rt bb mem uptimeMs event) := rfl
  rw [Returns, hrest]
  refine (putIdentity_spec b rt s).bind fun _ s₁ h₁ => ?_
  obtain ⟨x, hx, hx₁⟩ := h₁
  refine (putField_spec TlvType.reset.code_ne (by norm_num) _ s₁).bind fun _ s₂ h₂ => ?_
  obtain ⟨y, hy, hy₂⟩ := h₂
  refine (putField_spec TlvType.event.code_ne (by norm_num) _ s₂).bind fun _ s₃ h₃ => ?_
  obtain ⟨z, hz, hz₃⟩ := h₃
  refine (putCpu_spec event.cpu event.riscv64 s₃).bind fun _ s₄ h₄ => ?_
  obtain ⟨ts, hcpu, hlate, hts⟩ := h₄
  refine (writes_putRest b rt bb mem uptimeMs event s₄).mono fun _ s₅ h₅ => ?_
  obtain ⟨us, hus, hlate'⟩ := h₅
  refine ⟨x, y, z, ts ++ us, hx, congrArg Prod.fst hy, hz, fun c hc => ?_, fun f hf => ?_, ?_⟩
  · obtain ⟨f, hf, g, hg, hfg⟩ := hcpu c hc
    exact ⟨f, List.mem_append_left us hf, g, List.mem_append_left us hg, hfg⟩
  · exact (List.mem_append.mp hf).elim (hlate f) (hlate' f)
  · exact hx₁.trans (hy₂.trans (hz₃.trans (hts.trans hus)))

end Payload

end Latch
