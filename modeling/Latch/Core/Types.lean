/-
The data of the runtime: the build configuration of `laststate/config.h`, the
event types of `laststate/event.h`, and the fields of `ls_runtime_t` that the
modelled functions read or write.

A `const char *` is an `Option (List UInt8)`, a null pointer being `none`; a `char`
array is the list of its characters before the terminator. An enumeration that is
only ever set by name is an inductive type with its `code`; one whose value may come
from retained memory keeps the raw word.
-/
import Latch.Core.Util

namespace Latch

/-! ### Build configuration -/

/-- The settings of `laststate/config.h`, which the build system may override. -/
structure Build where
  enableBreadcrumbs : Bool
  enableMetrics : Bool
  enablePowerSamples : Bool
  enableDumps : Bool
  enableStackSnapshot : Bool
  enablePowerfailSeal : Bool
  enableWideContext : Bool
  storeStrings : Bool
  breadcrumbCapacity : ℕ
  powerSampleCapacity : ℕ
  blackboxCapacity : ℕ
  blackboxEnvelopeMax : ℕ
  dumpRegionMaxBytes : ℕ
  stackSnapshotMax : ℕ
  maxEventSize : ℕ
  spoolMaxRecords : ℕ
  spoolReservedCritical : ℕ
  spoolReservedEmergency : ℕ
  policyCapacity : ℕ
  dedupCapacity : ℕ
  dedupWindowMs : UInt32
  bootLoopThreshold : UInt32
  bootLoopWindowMs : UInt32
  buildId : List UInt8
  uintptrMax : ℕ
  -- the length of a record and the number of slots are 16-bit fields of the spool
  maxEventSize_lt : maxEventSize < 2 ^ 16
  spoolMaxRecords_lt : spoolMaxRecords < 2 ^ 16
  spoolReservedCritical_le : spoolReservedCritical ≤ spoolMaxRecords
  spoolReservedEmergency_le : spoolReservedEmergency ≤ spoolReservedCritical
  blackboxEnvelopeMax_le : blackboxEnvelopeMax ≤ blackboxCapacity

lemma reserve_le : 1 ≤ 2 := by decide

/-- The defaults of `laststate/config.h`, on a 32-bit target. -/
def Build.default : Build :=
  { enableBreadcrumbs := true, enableMetrics := true, enablePowerSamples := true
    enableDumps := true, enableStackSnapshot := true, enablePowerfailSeal := true
    enableWideContext := false, storeStrings := true
    breadcrumbCapacity := 32, powerSampleCapacity := 16, blackboxCapacity := 64
    blackboxEnvelopeMax := 24, dumpRegionMaxBytes := 512, stackSnapshotMax := 256
    maxEventSize := 4096, spoolMaxRecords := 8, spoolReservedCritical := 2
    spoolReservedEmergency := 1, policyCapacity := 16, dedupCapacity := 16
    dedupWindowMs := 60000, bootLoopThreshold := 3, bootLoopWindowMs := 60000
    -- "development-unknown"
    buildId := [0x64, 0x65, 0x76, 0x65, 0x6c, 0x6f, 0x70, 0x6d, 0x65, 0x6e, 0x74, 0x2d, 0x75,
      0x6e, 0x6b, 0x6e, 0x6f, 0x77, 0x6e]
    uintptrMax := 0xffffffff
    maxEventSize_lt := by decide
    spoolMaxRecords_lt := by decide
    spoolReservedCritical_le := by decide
    spoolReservedEmergency_le := reserve_le
    blackboxEnvelopeMax_le := by decide }

/-! ### Events -/

/-- `ls_priority_t`. -/
inductive Priority where
  | emergency
  | critical
  | error
  | warning
  | diagnostic
  deriving DecidableEq, Repr, Inhabited

/-- The value of a priority; lower is more urgent. -/
def Priority.code : Priority → UInt8
  | .emergency => 0
  | .critical => 1
  | .error => 2
  | .warning => 3
  | .diagnostic => 4

/-- `ls_severity_t`. -/
inductive Severity where
  | debug
  | info
  | warning
  | error
  | fatal
  deriving DecidableEq, Repr, Inhabited

/-- The value of a severity. -/
def Severity.code : Severity → UInt8
  | .debug => 0
  | .info => 1
  | .warning => 2
  | .error => 3
  | .fatal => 4

/-- `ls_event_type_t`. -/
inductive EventType where
  | crash
  | error
  | message
  | health
  | reset
  | log
  | peripheral
  | coredump
  deriving DecidableEq, Repr, Inhabited

/-- The value of an event type. -/
def EventType.code : EventType → UInt8
  | .crash => 1
  | .error => 2
  | .message => 3
  | .health => 4
  | .reset => 5
  | .log => 6
  | .peripheral => 7
  | .coredump => 8

/-- `ls_capture_level_t`. -/
inductive CaptureLevel where
  | metadata
  | snapshot
  | stack
  | selective
  | full
  deriving DecidableEq, Repr, Inhabited

/-- The value of a capture level. -/
def CaptureLevel.code : CaptureLevel → UInt8
  | .metadata => 0
  | .snapshot => 1
  | .stack => 2
  | .selective => 3
  | .full => 4

/-- `LS_ARCH_RISCV64`. -/
def lsArchRiscv64 : UInt32 := 5

/-- `ls_arch_context_t`; the architecture and the fault are the values of their
enumerations, which recovery takes from retained memory. -/
structure ArchContext where
  architecture : UInt32
  fault : UInt32
  registers : Fin 32 → UInt32
  lr : UInt32
  pc : UInt32
  xpsr : UInt32
  msp : UInt32
  psp : UInt32
  control : UInt32
  primask : UInt32
  basepri : UInt32
  faultmask : UInt32
  excReturn : UInt32
  cfsr : UInt32
  hfsr : UInt32
  dfsr : UInt32
  afsr : UInt32
  mmfar : UInt32
  bfar : UInt32
  shcsr : UInt32
  icsr : UInt32
  vtor : UInt32
  sfsr : UInt32
  sfar : UInt32
  s : Fin 16 → UInt32
  fpscr : UInt32
  mcause : UInt32
  mtval : UInt32
  mstatus : UInt32
  mepc : UInt32
  exccause : UInt32
  excvaddr : UInt32
  ps : UInt32
  sar : UInt32
  faultAddress : ℕ
  signalNumber : Int32
  hasFpu : Bool
  fpuLazy : Bool
  deriving DecidableEq, Inhabited

/-- Register numbers are literals. -/
instance neZeroRegisters : NeZero 32 := ⟨by decide⟩

/-- `ls_riscv64_context_t`. -/
structure Riscv64Context where
  x : Fin 32 → UInt64
  mstatus : UInt64
  mcause : UInt64
  mtval : UInt64
  mepc : UInt64
  deriving DecidableEq, Inhabited

/-- `ls_assert_info_t`. -/
structure AssertInfo where
  expression : Option (List UInt8)
  file : Option (List UInt8)
  message : Option (List UInt8)
  line : Int32
  deriving DecidableEq, Inhabited

/-- `ls_peripheral_fault_t`. -/
structure PeripheralFault where
  domain : UInt8
  fault : UInt16
  busInstance : UInt16
  status : UInt32
  address : UInt32
  reg : UInt32
  timeoutMs : UInt32
  auxiliary : Fin 4 → UInt32
  deriving DecidableEq, Inhabited

/-- `ls_log_info_t`. -/
structure LogInfo where
  messageId : UInt16
  formatId : UInt16
  argumentCount : UInt8
  arguments : List UInt32
  deriving DecidableEq, Inhabited

/-- `ls_event_t`. -/
structure Event where
  type : EventType
  priority : Priority
  timestampMs : UInt32
  fingerprint : UInt32
  domain : Option (List UInt8)
  code : Int32
  severity : Severity
  message : Option (List UInt8)
  cpu : Option ArchContext
  riscv64 : Option Riscv64Context
  assertion : Option AssertInfo
  peripheral : Option PeripheralFault
  log : Option LogInfo
  captureLevel : CaptureLevel
  repeatCount : UInt32
  firstSeenMs : UInt32
  lastSeenMs : UInt32
  deriving DecidableEq, Inhabited

/-! ### What the runtime records -/

/-- `ls_identity_t`. -/
structure Identity where
  projectId : Option (List UInt8)
  deviceId : Option (List UInt8)
  product : Option (List UInt8)
  hardwareRevision : Option (List UInt8)
  bomRevision : Option (List UInt8)
  manufacturingBatch : Option (List UInt8)
  firmwareVersion : Option (List UInt8)
  firmwareBuildId : Option (List UInt8)
  bootloaderVersion : Option (List UInt8)
  gitCommit : Option (List UInt8)
  variant : Option (List UInt8)
  architecture : Option (List UInt8)
  rtos : Option (List UInt8)
  region : Option (List UInt8)
  deviceGroup : Option (List UInt8)
  deriving DecidableEq, Inhabited

/-- The data of `ls_config_t`; `ls_init` accepts no null `identity`. -/
structure Config where
  identity : Identity
  architecture : UInt32
  rtos : Option (List UInt8)
  region : Option (List UInt8)
  deviceGroup : Option (List UInt8)
  deriving DecidableEq, Inhabited

/-- `ls_reset_reason_t`. -/
inductive ResetReason where
  | unknown
  | powerOn
  | pin
  | software
  | watchdog
  | independentWatchdog
  | windowWatchdog
  | brownout
  | lowPowerWake
  | lockup
  | security
  | bootloader
  | firmwareUpdate
  | clockFailure
  deriving DecidableEq, Repr, Inhabited

/-- The value of a reset reason. -/
def ResetReason.code : ResetReason → UInt8
  | .unknown => 0
  | .powerOn => 1
  | .pin => 2
  | .software => 3
  | .watchdog => 4
  | .independentWatchdog => 5
  | .windowWatchdog => 6
  | .brownout => 7
  | .lowPowerWake => 8
  | .lockup => 9
  | .security => 10
  | .bootloader => 11
  | .firmwareUpdate => 12
  | .clockFailure => 13

/-- `ls_reset_info_t`. -/
structure ResetInfo where
  reason : ResetReason
  rawReason : UInt32
  bootCount : UInt32
  previousUptimeMs : UInt32
  expected : Bool
  crashPending : Bool
  bootLoop : Bool
  deriving DecidableEq, Inhabited

/-- `ls_breadcrumb_kv_t`, with its value read as an unsigned word. -/
structure BreadcrumbKv where
  keyId : UInt16
  type : UInt8
  value : UInt32
  deriving DecidableEq, Inhabited

/-- `ls_breadcrumb_record_t`. -/
structure BreadcrumbRecord where
  atMs : UInt32
  messageId : UInt16
  severity : UInt8
  valueCount : UInt8
  categoryHash : UInt32
  messageHash : UInt32
  category : List UInt8
  message : List UInt8
  values : List BreadcrumbKv
  deriving DecidableEq, Inhabited

/-- `ls_metric_record_t`. -/
structure MetricRecord where
  nameHash : UInt32
  name : List UInt8
  value : Int32
  previous : Int32
  minimum : Int32
  maximum : Int32
  sum : Int64
  count : UInt32
  window : List Int32
  windowCount : UInt8
  type : UInt8
  deriving DecidableEq, Inhabited

/-- `ls_power_sample_t`. -/
structure PowerSample where
  timestampMs : UInt32
  vddMv : UInt16
  batteryMv : UInt16
  currentMa : Int16
  temperatureC : Int16
  chargerStatus : UInt16
  powerFlags : UInt16
  deriving DecidableEq, Inhabited

/-- `ls_mission_context_t`. -/
structure MissionContext where
  missionId : List UInt8
  diveId : List UInt8
  nodeId : List UInt8
  vehicleMode : List UInt8
  missionStartedMs : UInt32
  phase : UInt32
  depthCm : Int32
  incidentHi : UInt64
  incidentLo : UInt64
  incidentActive : Bool
  deriving DecidableEq, Inhabited

/-- `ls_time_sync_state_t`. -/
structure TimeSyncState where
  source : UInt8
  utcMsAtSync : UInt64
  monotonicMsAtSync : UInt32
  uncertaintyMs : UInt32
  generation : UInt32
  synchronized : Bool
  deriving DecidableEq, Inhabited

/-- `ls_supervisor_status_t`. -/
structure SupervisorStatus where
  activeAlarms : UInt32
  previousAlarms : UInt32
  transitions : UInt32
  lastChangeMs : UInt32
  configured : Bool
  deriving DecidableEq, Inhabited

/-- `ls_environment_sample_t`. -/
structure EnvironmentSample where
  timestampMs : UInt32
  pressurePa : UInt32
  depthCm : Int32
  internalTemperatureC : Int16
  humidityPermyriad : UInt16
  vibrationMgRms : UInt16
  flags : UInt16
  deriving DecidableEq, Inhabited

/-- The fields of `ls_environment_summary_t` that an envelope carries. -/
structure EnvironmentSummary where
  last : EnvironmentSample
  sampleCount : UInt32
  leakEvents : UInt32
  deriving DecidableEq, Inhabited

/-- `ls_powerfail_seal_info_t`. -/
structure PowerfailSealInfo where
  reason : UInt32
  tier : UInt32
  vcapMv : UInt16
  bootId : UInt32
  fault : UInt32
  sealedOk : Bool
  deriving DecidableEq, Inhabited

/-- `ls_heap_stats_t`. -/
structure HeapStats where
  freeBytes : UInt32
  minimumFreeBytes : UInt32
  largestBlock : UInt32
  allocationFailures : UInt32
  poolExhaustions : UInt32
  deriving DecidableEq, Inhabited

/-- `ls_dump_region_t`. -/
structure DumpRegion where
  name : Option (List UInt8)
  address : ℕ
  length : ℕ
  flags : UInt32
  deriving DecidableEq, Inhabited

/-- `ls_redaction_mode_t`. -/
inductive RedactionMode where
  | zero
  | hash
  | exclude
  deriving DecidableEq, Repr, Inhabited

/-- `ls_redaction_t`. -/
structure Redaction where
  address : ℕ
  length : ℕ
  mode : RedactionMode
  deriving DecidableEq, Inhabited

/-- `ls_security_algorithm_t`, or nothing chosen yet. -/
inductive SecurityAlgorithm where
  | unset
  | hmacSha256
  | xchacha20Poly1305
  deriving DecidableEq, Repr, Inhabited

/-- `ls_security_policy_t`. -/
structure SecurityPolicy where
  algorithm : SecurityAlgorithm
  keyId : UInt32
  rejectPlaintext : Bool
  allowLegacyHmac : Bool
  deriving DecidableEq, Inhabited

/-- `ls_persistent_boot_t`. -/
structure PersistentBoot where
  magic : UInt32
  version : UInt32
  bootCount : UInt32
  previousUptimeMs : UInt32
  consecutiveFailures : UInt32
  firstFailureMs : UInt32
  lastSequence : UInt32
  pendingCrashId : UInt32
  releaseHash : UInt32
  crashPending : UInt8
  expectedReset : UInt8
  bootSuccessful : UInt8
  releaseState : UInt8
  updateVersionFloor : UInt32
  updatePendingVersion : UInt32
  updateImageFingerprint : UInt32
  updateSigningKeyId : UInt32
  updateRollbackCount : UInt32
  updateState : UInt8
  updateReserved : Fin 3 → UInt8
  provisionKeyId : UInt32
  provisionPendingKeyId : UInt32
  provisionGeneration : UInt32
  provisionMonotonicCounter : UInt32
  provisionState : UInt8
  provisionReserved : Fin 3 → UInt8
  deriving DecidableEq, Inhabited

/-- `ls_policy_record_t`. -/
structure PolicyRecord where
  domainHash : UInt32
  samplingPermyriad : UInt16
  rateMaximum : UInt16
  rateCount : UInt16
  ratePeriodMs : UInt32
  windowStartedMs : UInt32
  seen : UInt32
  deriving DecidableEq, Inhabited

/-- `ls_dedup_record_t`. -/
structure DedupRecord where
  fingerprint : UInt32
  count : UInt32
  firstSeenMs : UInt32
  lastSeenMs : UInt32
  deriving DecidableEq, Inhabited

/-! ### The runtime -/

/-- `ls_runtime_t`. A table with a separate count is the list of its entries; a ring keeps
its array, the next index and the count. -/
structure Runtime where
  config : Config
  initialized : Bool
  capturing : Bool
  previousCrashed : Bool
  bootLoop : Bool
  safeMode : Bool
  bootStartedMs : UInt32
  sequence : UInt32
  bootCount : UInt32
  resetInfo : ResetInfo
  persistent : PersistentBoot
  breadcrumbs : List BreadcrumbRecord
  breadcrumbNext : ℕ
  breadcrumbCount : ℕ
  metrics : List MetricRecord
  powerSamples : List PowerSample
  powerNext : ℕ
  powerCount : ℕ
  activeTask : List UInt8
  watchdogLastFeed : UInt32
  watchdogCheckpoint : UInt16
  dumpRegions : List DumpRegion
  redactions : List Redaction
  stackLower : ℕ
  stackUpper : ℕ
  heapStats : HeapStats
  policies : List PolicyRecord
  dedup : List DedupRecord
  dedupNext : ℕ
  randomState : UInt32
  securityKey : List UInt8
  securityPolicy : SecurityPolicy
  lastEnvelopeNonce : Option (List UInt8)
  spoolHighWatermark : ℕ
  spoolDroppedRecords : UInt32
  spoolCorruptRecords : UInt32
  spoolTransportFailures : UInt32
  spoolRetrySaturated : UInt32
  mission : MissionContext
  timeSync : TimeSyncState
  environment : EnvironmentSummary
  supervisorStatus : SupervisorStatus
  powerfailLast : PowerfailSealInfo
  powerfailLastValid : Bool
  deriving DecidableEq, Inhabited

/-- The entries of a ring of the given size, oldest first. -/
def ringEntries {α : Type} [Inhabited α] (ring : List α) (capacity next count : ℕ) : List α :=
  (List.range count).map fun i => ring.getD ((next + capacity - count + i) % capacity) default

end Latch
