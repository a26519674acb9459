/-
The spool of `src/spool/spool.c`: initialisation, append and flush.

The spool works on the device and on a `Node`: the runtime, and the transports as far as
the spool sees them. Which transport is found and what a send returns is decided by an
oracle; the log of these calls is kept for the statements about deliveries.
-/
import Latch.Lib.Serial
import Latch.Spool.Format

namespace Latch.Spool

open Bytes Exec

/-! ### The node -/

/-- A call to the transports, with its answer. -/
inductive TransportCall where
  | select (priority : UInt8) (length : ℕ) (found : Bool)
  | send (eventId : UInt32) (data : List UInt8) (failure : Option Errno)
  deriving DecidableEq

/-- The transports: their answers, and the calls made so far, the last one first. -/
structure Transport where
  selects : ℕ → Bool
  sends : ℕ → Option Errno
  log : List TransportCall

/-- What the spool works on besides the device. `accepted` are the calls of
`ls_spool_append` that returned `LS_OK`, the last one first, which no function reads. -/
structure Node where
  runtime : Runtime
  transport : Transport
  accepted : List (List UInt8 × Priority)

/-- The functions of the spool. -/
abbrev SpoolM := DriverM Node

/-- Changes the runtime. -/
def modifyRuntime (f : Runtime → Runtime) : SpoolM Unit :=
  modifyRam fun n => { n with runtime := f n.runtime }

/-- Logs a call to the transports. -/
def Node.logged (n : Node) (call : TransportCall) : Node :=
  { n with transport := { n.transport with log := call :: n.transport.log } }

/-- `ls_transport_select`: whether a transport was found. -/
def lsTransportSelect (priority : UInt8) (length : ℕ) : SpoolM Bool := do
  let n ← getRam
  let found := n.transport.selects n.transport.log.length
  modifyRam fun n => n.logged (.select priority length found)
  return found

/-- `ls_transport_send`: its error, if any. -/
def lsTransportSend (eventId : UInt32) (data : List UInt8) : SpoolM (Option Errno) := do
  let n ← getRam
  let failure := n.transport.sends n.transport.log.length
  modifyRam fun n => n.logged (.send eventId data failure)
  return failure

section

variable (bd : Build) (b : Backend)

/-! ### Reading -/

/-- `read_header`. -/
def readHeader : DeviceM SpoolHeader := SpoolHeader.ofBytes <$> b.read 0 headerSize

/-- Reads the record header of a slot. -/
def readRecord (slot : ℕ) : DeviceM SpoolRecord :=
  SpoolRecord.ofBytes <$> b.read (slotOffset bd slot) recordHeaderSize

/-- A loop over the record headers of all slots. -/
def foldRecords {β : Type} (f : β → ℕ → SpoolRecord → β) (init : β) : DeviceM β :=
  (List.range bd.spoolMaxRecords).foldlM
    (fun acc slot => f acc slot <$> readRecord bd b slot) init

/-- One turn of `scan_records`: the newest sequence number so far, and whether a valid
record was seen. -/
def scanTurn (found : UInt32 × Bool) (_ : ℕ) (record : SpoolRecord) : UInt32 × Bool :=
  if recordValid bd record then
    (if Serial.isNewer record.sequence found.1 then record.sequence else found.1, true)
  else found

/-- `scan_records`. -/
def scanRecords (sequence : UInt32) : DeviceM (UInt32 × Bool) :=
  foldRecords bd b (scanTurn bd) (sequence, false)

/-! ### Initialisation -/

/-- The header that `write_header` programs first. -/
def newHeader (sequence : UInt32) : SpoolHeader :=
  let header : SpoolHeader :=
    { magic := lsStorageMagic, version := spoolVersion
      slots := UInt16.ofNat bd.spoolMaxRecords, recordSize := UInt32.ofNat (recordSize bd)
      sequenceFloor := sequence, headerCrc := 0, committed := 0xff }
  { header with headerCrc := spoolHeaderCrc header }

/-- `write_header`, with the sequence number of the runtime as the floor. -/
def writeHeader : SpoolM Unit := do
  let n ← getRam
  onDevice do
    lsStorageProgram b 0 (newHeader bd n.runtime.sequence).bytes
    b.sync
    lsStorageProgram b committedOffset [spoolHeaderCommitted]
    b.sync

/-- `erase_spool`. -/
def eraseSpool : DeviceM Unit :=
  let size := lsSpoolStorageSize bd b.sizeMax
  if ¬ b.hasErase then throw (.fail .ecorrupt)
  else if 1 < b.eraseSize ∧ size % b.eraseSize ≠ 0 then throw (.fail .enotsup)
  else do
    b.erase 0 size
    b.sync

/-- `erase_spool`, unless the spool is already erased. -/
def eraseUnless (erased : Bool) : DeviceM Unit := if erased then pure () else eraseSpool bd b

/-- `ls_spool_init` on a usable backend. -/
def spoolInit : SpoolM Unit := do
  let header ← onDevice (readHeader b)
  let (sequence, hasRecord) ← onDevice
    (scanRecords bd b (if headerValid bd header then header.sequenceFloor else 0))
  if headerValid bd header ∨ hasRecord then
    modifyRuntime fun rt =>
      if Serial.isNewer sequence rt.sequence then { rt with sequence := sequence } else rt
  else do
    let erased ← onDevice (lsStorageIsErased b 0 (lsSpoolStorageSize bd b.sizeMax))
    onDevice (eraseUnless bd b erased)
    writeHeader bd b

/-! ### Append -/

/-- `slot_limit_for_priority`. -/
def slotLimitForPriority : Priority → ℕ
  | .emergency => bd.spoolMaxRecords
  | .critical => bd.spoolMaxRecords - bd.spoolReservedEmergency
  | _ => bd.spoolMaxRecords - bd.spoolReservedCritical

/-- The loop of `find_empty_slot` over `n` slots from `slot` on. -/
def findEmptySlotFrom : ℕ → ℕ → DeviceM ℕ
  | 0, _ => throw (.fail .enospace)
  | n + 1, slot => do
    let erased ← lsStorageIsErased b (slotOffset bd slot) recordHeaderSize
    if erased then pure slot else findEmptySlotFrom n (slot + 1)

/-- `find_empty_slot`. -/
def findEmptySlot (priority : Priority) : DeviceM ℕ :=
  findEmptySlotFrom bd b (slotLimitForPriority bd priority) 0

/-- `find_empty_slot` in `ls_spool_append`, which counts a record that finds no room. -/
def findSlot (priority : Priority) : SpoolM ℕ := fun s =>
  match onDevice (findEmptySlot bd b priority) s with
  | .error (.fail .enospace) s' => .error (.fail .enospace) { s' with
      ram := { s'.ram with runtime := { s'.ram.runtime with
        spoolDroppedRecords := s'.ram.runtime.spoolDroppedRecords + 1 } } }
  | r => r

/-- The record header that `ls_spool_append` programs first. -/
def newRecord (data : List UInt8) (priority : Priority) (info : EnvelopeInfo) : SpoolRecord :=
  let record : SpoolRecord :=
    { magic := spoolRecordMagic, version := spoolVersion, length := UInt16.ofNat data.length
      sequence := info.sequence, dataCrc := lsCrc32 data, priority := priority.code
      eventType := info.type, reserved := 0xffff, headerCrc := 0, state := 0xff
      retryBits := 0xff, reservedAfterState := 0xffff }
  { record with headerCrc := spoolRecordCrc record }

/-- Programs a record: header, payload, and last the state. -/
def storeRecord (slot : ℕ) (record : SpoolRecord) (data : List UInt8) : DeviceM Unit := do
  lsFaultInjectionHit .spoolBeforeHeader
  lsStorageProgram b (slotOffset bd slot) record.bytes
  lsFaultInjectionHit .spoolBeforePayload
  lsStorageProgram b (payloadOffset bd slot) data
  b.sync
  lsFaultInjectionHit .spoolBeforeCommit
  lsStorageProgram b (slotOffset bd slot + stateOffset) [spoolRecordCommitted]
  b.sync

/-- The loop that counts the committed records, over `n` slots from `slot` on; it ends at
the first slot that cannot be read. -/
def countCommittedFrom : ℕ → ℕ → ℕ → DeviceM ℕ
  | 0, _, committed => pure committed
  | n + 1, slot, committed => do
    match ← attempt (readRecord bd b slot) with
    | .error _ => pure committed
    | .ok record =>
      countCommittedFrom n (slot + 1) (if recordValid bd record ∧
        record.state = spoolRecordCommitted then committed + 1 else committed)

/-- `ls_spool_append` on a usable backend, of a valid envelope. -/
def spoolAppend (data : List UInt8) (priority : Priority) (info : EnvelopeInfo) :
    SpoolM Unit := do
  let slot ← findSlot bd b priority
  onDevice (storeRecord bd b slot (newRecord data priority info) data)
  let committed ← onDevice (countCommittedFrom bd b bd.spoolMaxRecords 0 0)
  modifyRuntime fun rt =>
    { rt with spoolHighWatermark := max rt.spoolHighWatermark committed }

/-! ### Flush -/

/-- `set_record_state`. -/
def setRecordState (slot : ℕ) (state : UInt8) : DeviceM Unit :=
  lsStorageProgram b (slotOffset bd slot + stateOffset) [state]

/-- `acknowledge_record`. -/
def acknowledgeRecord (slot : ℕ) : DeviceM Unit := do
  setRecordState bd b slot spoolRecordAcked
  b.sync

/-- The retry marks after one more try: the lowest bit that is set is cleared. -/
def nextRetryBits (retryBits : UInt8) : UInt8 :=
  match (List.range 8).find? fun bit => retryBits &&& (1 <<< UInt8.ofNat bit) ≠ 0 with
  | some bit => retryBits &&& ~~~(1 <<< UInt8.ofNat bit)
  | none => retryBits

/-- `increment_retries`. -/
def incrementRetries (slot : ℕ) (retryBits : UInt8) : SpoolM Unit :=
  let updated := nextRetryBits retryBits
  if updated = retryBits then
    modifyRuntime fun rt => { rt with spoolRetrySaturated := rt.spoolRetrySaturated + 1 }
  else onDevice do
    lsStorageProgram b (slotOffset bd slot + retryOffset) [updated]
    b.sync

/-- A record is to be sent before the one that is selected so far. -/
def sendsBefore (record selected : SpoolRecord) : Bool :=
  record.priority < selected.priority ∨ record.priority = selected.priority ∧
    (record.sequence - selected.sequence).toInt32 < 0

/-- One turn of the selection of a record. -/
def selectTurn (selected : Option (ℕ × SpoolRecord)) (slot : ℕ) (record : SpoolRecord) :
    Option (ℕ × SpoolRecord) :=
  if ¬ recordValid bd record ∨ record.state ≠ spoolRecordCommitted then selected
  else match selected with
    | none => some (slot, record)
    | some (_, best) => if sendsBefore record best then some (slot, record) else selected

/-- The committed record that a pass of `ls_spool_flush` takes. -/
def selectRecord : DeviceM (Option (ℕ × SpoolRecord)) := foldRecords bd b (selectTurn bd) none

/-- Counts a record whose payload cannot be used, and acknowledges it. -/
def discardRecord (slot : ℕ) : SpoolM Unit := do
  modifyRuntime fun rt => { rt with spoolCorruptRecords := rt.spoolCorruptRecords + 1 }
  onDevice (acknowledgeRecord bd b slot)

/-- The send of `ls_spool_flush`, behind its injection point. -/
def sendRecord (eventId : UInt32) (data : List UInt8) : SpoolM (Option Errno) := do
  match ← onDevice (attempt (lsFaultInjectionHit .spoolBeforeSend)) with
  | .error e => return some e
  | .ok _ => lsTransportSend eventId data

/-- Sends a record and acknowledges it, or marks the failed try. -/
def deliverRecord (slot : ℕ) (selected : SpoolRecord) (info : EnvelopeInfo)
    (data : List UInt8) : SpoolM Unit := do
  let found ← lsTransportSelect selected.priority selected.length.toNat
  if found then do
    match ← sendRecord info.eventId data with
    | some e => do
      modifyRuntime fun rt => { rt with spoolTransportFailures := rt.spoolTransportFailures + 1 }
      incrementRetries bd b slot selected.retryBits
      throw (.fail e)
    | none => onDevice do
      lsFaultInjectionHit .spoolBeforeAck
      acknowledgeRecord bd b slot
  else throw (.fail .eagain)

/-- Reads the payload of the selected record and delivers it, or discards the record. -/
def processRecord (slot : ℕ) (selected : SpoolRecord) : SpoolM Unit := do
  match ← onDevice (attempt (b.read (payloadOffset bd slot) selected.length.toNat)) with
  | .error _ => discardRecord bd b slot
  | .ok data =>
    if selected.dataCrc ≠ lsCrc32 data then discardRecord bd b slot
    else match lsEnvelopeValidate data with
      | .error _ => discardRecord bd b slot
      | .ok info => deliverRecord bd b slot selected info data

/-- One pass of `ls_spool_flush`; `false` where no committed record is left. -/
def flushPass : SpoolM Bool := do
  match ← onDevice (selectRecord bd b) with
  | none => return false
  | some (slot, selected) => do
    processRecord bd b slot selected
    return true

/-- The passes of `ls_spool_flush`. -/
def flushPasses : ℕ → SpoolM Unit
  | 0 => pure ()
  | n + 1 => do
    let found ← flushPass bd b
    if found then flushPasses n else pure ()

/-- The loop of `reclaim_if_drained` over `n` slots from `slot` on: `none` where a committed
record is left, and else whether a slot is used. -/
def reclaimScan : ℕ → ℕ → Bool → DeviceM (Option Bool)
  | 0, _, consumed => pure (some consumed)
  | n + 1, slot, consumed => do
    let record ← readRecord bd b slot
    if recordValid bd record ∧ record.state = spoolRecordCommitted then pure none
    else reclaimScan n (slot + 1) (consumed || !recordIsErased record)

/-- `reclaim_if_drained`. -/
def reclaimIfDrained : SpoolM Unit := do
  match ← onDevice (reclaimScan bd b bd.spoolMaxRecords 0 false) with
  | some true => do
    onDevice (eraseSpool bd b)
    writeHeader bd b
  | _ => pure ()

/-- `ls_spool_flush` on a usable backend. -/
def spoolFlush : SpoolM Unit := do
  flushPasses bd b bd.spoolMaxRecords
  reclaimIfDrained bd b

end

/-! ### The interface -/

/-- A function of the spool on the registered backend, if there is one. -/
def onStorage (bd : Build) (storage : Option Backend) (x : Backend → SpoolM Unit) : SpoolM Unit :=
  match storage with
  | none => pure ()
  | some b => if usable bd b then x b else throw (.fail .enospace)

/-- `ls_spool_init`. -/
def lsSpoolInit (bd : Build) (storage : Option Backend) : SpoolM Unit :=
  onStorage bd storage (spoolInit bd)

/-- `ls_spool_append`. -/
def lsSpoolAppend (bd : Build) (storage : Option Backend) (data : List UInt8)
    (priority : Priority) : SpoolM Unit :=
  if data.length = 0 ∨ bd.maxEventSize < data.length then throw (.fail .einval)
  else do
    onStorage bd storage fun b =>
      match lsEnvelopeValidate data with
      | .error _ => throw (.fail .ecorrupt)
      | .ok info => spoolAppend bd b data priority info
    modifyRam fun n => { n with accepted := (data, priority) :: n.accepted }

/-- `ls_spool_flush`, also called `ls_flush`. -/
def lsSpoolFlush (bd : Build) (storage : Option Backend) : SpoolM Unit :=
  onStorage bd storage (spoolFlush bd)

/-! ### What is read -/

section Reads

variable {bd : Build} {b : Backend}

lemma readHeader_spec (d : Device) :
    Sat (readHeader b) d (fun h d' => h = headerAt d.medium ∧ d.Looked d')
      (fun _ d' => d.Looked d') := by
  rw [readHeader, sat_map]
  refine (read_spec b 0 headerSize d).mono fun bytes d' h => ?_
  rw [h.1]
  exact ⟨rfl, h.2⟩

lemma readRecord_spec (slot : ℕ) (d : Device) :
    Sat (readRecord bd b slot) d (fun r d' => r = recordAt bd d.medium slot ∧ d.Looked d')
      (fun _ d' => d.Looked d') := by
  rw [readRecord, sat_map]
  refine (read_spec b _ recordHeaderSize d).mono fun bytes d' h => ?_
  rw [h.1]
  exact ⟨rfl, h.2⟩

/-- A loop over the record headers computes the fold of what the medium holds. -/
lemma foldRecords_spec {β : Type} (f : β → ℕ → SpoolRecord → β) (init : β) (d : Device) :
    Sat (foldRecords bd b f init) d
      (fun acc d' => d.Looked d' ∧ acc = (List.range bd.spoolMaxRecords).foldl
        (fun acc slot => f acc slot (recordAt bd d.medium slot)) init)
      (fun _ d' => d.Looked d') := by
  refine sat_foldlM (fun pre acc d' => d.Looked d' ∧
    acc = pre.foldl (fun acc slot => f acc slot (recordAt bd d.medium slot)) init)
    _ init ⟨.refl d, rfl⟩ ?_
  rintro pre slot post acc d₁ - ⟨h₁, rfl⟩
  rw [sat_map]
  refine (readRecord_spec slot d₁).mono (fun r d₂ h₂ => ⟨.trans _ _ _ h₁ h₂.2, ?_⟩)
    (fun _ d₂ h₂ => .trans _ _ _ h₁ h₂)
  rw [h₂.1, h₁.medium, List.foldl_append]
  rfl

/-- The scan sees a valid record if there is one. -/
lemma scan_hasRecord (m : ℕ → UInt8) (l : List ℕ) (found : UInt32 × Bool) :
    (l.foldl (fun acc slot => scanTurn bd acc slot (recordAt bd m slot)) found).2 = true ↔
      found.2 = true ∨ ∃ i ∈ l, recordValid bd (recordAt bd m i) = true := by
  induction l generalizing found with
  | nil => simp
  | cons i l ih =>
      rw [List.foldl_cons, ih]
      by_cases hv : recordValid bd (recordAt bd m i) = true
      · simp [scanTurn, hv]
      · simp [scanTurn, hv]

/-- The selected record is a committed one. -/
lemma selectRecord_spec (d : Device) :
    Sat (selectRecord bd b) d
      (fun o d' => d.Looked d' ∧ ∀ slot record, o = some (slot, record) →
        slot < bd.spoolMaxRecords ∧ record = recordAt bd d.medium slot ∧
          committedAt bd d.medium slot)
      (fun _ d' => d.Looked d') := by
  refine (foldRecords_spec (selectTurn bd) none d).mono fun o d' h => ⟨h.1, ?_⟩
  obtain ⟨-, rfl⟩ := h
  -- whatever the loop has selected so far is committed
  refine List.foldlRecOn (motive := fun o => ∀ slot record, o = some (slot, record) →
    slot < bd.spoolMaxRecords ∧ record = recordAt bd d.medium slot ∧ committedAt bd d.medium slot)
    _ _ nofun fun best ih i hi => ?_
  have hi := List.mem_range.mp hi
  intro slot record hsel
  dsimp only [selectTurn] at hsel
  split_ifs at hsel with hc
  · exact ih slot record hsel
  · rw [not_or, not_not, not_not] at hc
    have hnew : ∀ slot record, some (i, recordAt bd d.medium i) = some (slot, record) →
        slot < bd.spoolMaxRecords ∧ record = recordAt bd d.medium slot ∧
          committedAt bd d.medium slot := by
      rintro _ _ ⟨⟩
      exact ⟨hi, rfl, hc⟩
    cases best with
    | none => exact hnew slot record hsel
    | some best =>
        dsimp only at hsel
        split_ifs at hsel
        · exact hnew slot record hsel
        · exact ih slot record hsel

/-- `reclaim_if_drained` goes on only if no committed record is left. -/
lemma reclaimScan_spec (n slot : ℕ) (consumed : Bool) (d : Device) :
    Sat (reclaimScan bd b n slot consumed) d
      (fun o d' => d.Looked d' ∧ (o ≠ none →
        ∀ i, slot ≤ i → i < slot + n → ¬ committedAt bd d.medium i))
      (fun _ d' => d.Looked d') := by
  induction n generalizing slot consumed d with
  | zero =>
      rw [reclaimScan, sat_pure]
      exact ⟨.refl d, fun _ i h1 h2 => absurd h2 (by omega)⟩
  | succ n ih =>
      rw [reclaimScan]
      refine (readRecord_spec slot d).bind fun record d₁ h₁ => ?_
      obtain ⟨rfl, h₁⟩ := h₁
      refine .ite (fun _ => .pure ⟨h₁, fun h => absurd rfl h⟩) fun hc => ?_
      refine (ih (slot + 1) _ d₁).mono (fun o d₂ h₂ => ⟨.trans _ _ _ h₁ h₂.1, fun ho i h1 h2 => ?_⟩)
        (fun _ _ h₂ => .trans _ _ _ h₁ h₂)
      rcases Nat.eq_or_lt_of_le h1 with rfl | hlt
      · exact hc
      · rw [← h₁.medium]
        exact h₂.2 ho i hlt (by omega)

end Reads

end Latch.Spool
