
/-
A payload that is not marked as truncated is complete (`put_payload` of `lep.c`).

For each section there is the list of fields that it writes when it leaves nothing out, and a
`Fills` lemma that says so and when it happens. `payloadFields` puts the lists together.

* `fills_putEarly`, `fills_putLate`: the sections before and behind the black-box records;
* `fills_putBlackbox`: the records themselves;
* `untruncated_envelope_complete`: an envelope without `LS_ENVELOPE_TRUNCATED` holds every
  breadcrumb, metric, sample, record and detail, each string in full length and every dump
  region that no redaction meets.
-/
import Latch.Envelope.Fill
import Latch.Envelope.Secure

namespace Latch

open Bytes Exec Tlv

variable (t : TlvType)

/-! ### Lists of fields -/

/-- Fields of one type. -/
def fieldsOf (t : TlvType) (values : List (List UInt8)) : List (UInt16 × List UInt8) :=
  values.map fun value => (t.code, value)

/-- The values of the fields of one type, in their order. -/
def valuesOf (t : TlvType) (fields : List (UInt16 × List UInt8)) : List (List UInt8) :=
  (fields.filter fun field => field.1 = t.code).map Prod.snd

lemma TlvType.code_injective : Function.Injective TlvType.code := by
  have hleft : ∀ t : TlvType, TlvType.ofNat (t.code.toNat - 1) = t := by
    intro t
    cases t <;> rfl
  exact Function.LeftInverse.injective (g := fun code : UInt16 => TlvType.ofNat (code.toNat - 1)) hleft

@[simp] lemma valuesOf_append (fields fields' : List (UInt16 × List UInt8)) :
    valuesOf t (fields ++ fields') = valuesOf t fields ++ valuesOf t fields' := by
  simp [valuesOf]

@[simp] lemma valuesOf_nil : valuesOf t [] = [] := rfl

@[simp] lemma valuesOf_fieldsOf (t' : TlvType) (values : List (List UInt8)) :
    valuesOf t (fieldsOf t' values) = if t' = t then values else [] := by
  by_cases h : t' = t
  · simp [valuesOf, fieldsOf, List.filter_map, Function.comp_def, h]
  · have hcode : t'.code ≠ t.code := fun hc => h (TlvType.code_injective hc)
    simp [valuesOf, fieldsOf, List.filter_map, Function.comp_def, h, hcode]

/-- A part of the encoder that writes whole fields. -/
def FillsFields (x : EncodeM Unit) (P : Prop) (fields : List (UInt16 × List UInt8)) : Prop :=
  Fills x P (fields.flatMap pairBytes) fields

section

variable {x y body : EncodeM Unit} {P P' : Prop} {fields fields' : List (UInt16 × List UInt8)}
  {bytes : List UInt8} {t : TlvType}

lemma FillsFields.bind (hx : FillsFields x P fields) (hy : FillsFields y P' fields') :
    FillsFields (x >>= fun _ => y) (P ∧ P') (fields ++ fields') := by
  rw [FillsFields, List.flatMap_append]
  exact Fills.bind hx hy

lemma fillsFields_pure : FillsFields (pure ()) True [] := fills_pure

lemma FillsFields.iff (h : FillsFields x P fields) (hP : P ↔ P') : FillsFields x P' fields :=
  Fills.iff h hP

lemma fieldsOf_flatMap_singleton (t : TlvType) (bytes : List UInt8) :
    (fieldsOf t [bytes]).flatMap pairBytes = pairBytes (t.code, bytes) := by
  simp [fieldsOf]

/-- A value that must fit its buffer, in a field that must fit the payload. -/
lemma fillsFields_required (h : Fills body P bytes []) {capacity : ℕ} (hc : capacity < 2 ^ 16) :
    FillsFields (nestedValue capacity body >>= lsWriterTlv t.code)
      (P ∧ bytes.length ≤ capacity) (fieldsOf t [bytes]) := by
  rw [FillsFields, fieldsOf_flatMap_singleton]
  exact (fills_nestedValue h capacity
    (fun hfit => fills_lsWriterTlv t.code_ne (hfit.trans_lt hc))
    fun value => marks_lsWriterTlv t.code_ne value).iff (and_true _ ▸ Iff.rfl)

/-- A value that must fit its buffer, in a field that may be left out, and what follows. -/
lemma fillsFields_value (h : Fills body P bytes []) {capacity : ℕ} (hc : capacity < 2 ^ 16)
    (hrest : FillsFields y P' fields) :
    FillsFields (nestedValue capacity body >>= fun value => putOptionalTlv t.code value >>= fun _ => y)
      ((P ∧ bytes.length ≤ capacity) ∧ P') (fieldsOf t [bytes] ++ fields) := by
  rw [FillsFields, List.flatMap_append, fieldsOf_flatMap_singleton]
  exact fills_nestedValue h capacity
    (fun hfit => ((fills_putOptionalTlv t.code_ne (hfit.trans_lt hc)).bind hrest).iff
      (true_and _ ▸ Iff.rfl))
    fun value => (marks_putOptionalTlv t.code_ne value).bind fun _ => hrest.marks

lemma fillsFields_putOptional (h : Fills body P bytes []) {capacity : ℕ} (hc : capacity < 2 ^ 16) :
    FillsFields (nestedValue capacity body >>= putOptionalTlv t.code)
      (P ∧ bytes.length ≤ capacity) (fieldsOf t [bytes]) := by
  rw [FillsFields, fieldsOf_flatMap_singleton]
  exact (fills_nestedValue h capacity
    (fun hfit => fills_putOptionalTlv t.code_ne (hfit.trans_lt hc))
    fun value => marks_putOptionalTlv t.code_ne value).iff (and_true _ ▸ Iff.rfl)

/-- A section of fixed content, which fits its buffer. -/
lemma fillsFields_putFixed {capacity : ℕ} {pieces : List (List UInt8)} (hc : capacity < 2 ^ 16)
    (hfit : pieces.flatten.length ≤ capacity) :
    FillsFields (putFixed t capacity pieces) True (fieldsOf t [pieces.flatten]) :=
  (fillsFields_putOptional (fills_writeAll pieces) hc).iff
    ⟨fun _ => trivial, fun _ => ⟨trivial, hfit⟩⟩

/-- A record that ends the loop over its kind where it does not fit its buffer, and what
follows. -/
lemma fillsFields_record (h : Fills body P bytes []) {capacity : ℕ} (hc : capacity < 2 ^ 16)
    (hrest : FillsFields y P' fields) :
    FillsFields (nestedOptional capacity body >>= fun value => match value with
      | none => pure ()
      | some value => putOptionalTlv t.code value >>= fun _ => y)
      ((P ∧ bytes.length ≤ capacity) ∧ P') (fieldsOf t [bytes] ++ fields) := by
  rw [FillsFields, List.flatMap_append, fieldsOf_flatMap_singleton]
  refine fills_nestedOptional h capacity
    (fun hfit => ((fills_putOptionalTlv t.code_ne (hfit.trans_lt hc)).bind hrest).iff
      (true_and _ ▸ Iff.rfl)) fun value => ?_
  cases value with
  | none => exact marks_pure ()
  | some value => exact (marks_putOptionalTlv t.code_ne value).bind fun _ => hrest.marks

end

variable (index : ℕ) (texts : List (Option (List UInt8)))

/-! ### Identity, reset, event and processor -/

/-- The value of the field `IDENTITY` with all strings in full length. -/
def identityBytes : ℕ → List (Option (List UInt8)) → List UInt8
  | _, [] => []
  | index, text :: rest => stringField (UInt8.ofNat (index + 1)) text ++ identityBytes (index + 1) rest

lemma length_le_identityBytes :
    texts.length * 2 ≤ (identityBytes index texts).length := by
  induction texts generalizing index with
  | nil => exact Nat.zero_le _
  | cons text rest ih =>
      have := ih (index + 1)
      rw [identityBytes, List.length_append, stringField_length, List.length_cons]
      omega

lemma fills_putIdentityFields :
    Fills (putIdentityFields index texts) (∀ text ∈ texts, Short text)
      (identityBytes index texts) [] := by
  induction texts generalizing index with
  | nil => exact fills_pure.iff (by simp)
  | cons text rest ih =>
      have hboth (limit : ℕ) := (fills_putStringField (UInt8.ofNat (index + 1)) text limit).bind
        (ih (index + 1))
      refine ⟨fun s => ?_, fun s h0 hp hroom => ?_⟩
      · rw [Returns, putIdentityFields, sat_bind, writerRemaining, sat_map, sat_get]
        refine .ite (fun _ => .throw trivial) fun _ => ?_
        refine ((hboth _).complete s).mono fun _ s' hs' hclear => ?_
        obtain ⟨h0, ⟨⟨hshort, -⟩, hrest⟩, heq⟩ := hs' hclear
        exact ⟨h0, List.forall_mem_cons.mpr ⟨hshort, hrest⟩, heq⟩
      · obtain ⟨hshort, hrest⟩ := List.forall_mem_cons.mp hp
        have hlen := length_le_identityBytes (index + 1) rest
        have hroom' := hroom
        rw [identityBytes, List.length_append, stringField_length] at hroom'
        rw [putIdentityFields, sat_bind, writerRemaining, sat_map, sat_get, if_neg (by omega)]
        exact (hboth _).fits s h0 ⟨⟨hshort, by omega⟩, hrest⟩ hroom

section

variable (b : Build) (rt : Runtime)

variable {y : EncodeM Unit} (cpu : ArchContext) (event : Event)

variable {P : Prop} {fields : List (UInt16 × List UInt8)} (context : Riscv64Context)
  (riscv64 : Option Riscv64Context) (bb : Blackbox) (remaining : ℕ)

/-- The identity is complete where its strings are short and fit the buffer. -/
def IdentityFull : Prop :=
  (∀ text ∈ identityFields b rt, Short text) ∧
    (identityBytes 0 (identityFields b rt)).length ≤ 512

lemma fills_putIdentity : FillsFields (putIdentity b rt) (IdentityFull b rt)
    (fieldsOf .identity [identityBytes 0 (identityFields b rt)]) := by
  have hvalue (room : ℕ) := fillsFields_required (t := .identity)
    (fills_putIdentityFields 0 (identityFields b rt))
    (show min (room - 4) 512 < 2 ^ 16 from (min_le_right _ _).trans_lt (by norm_num))
  refine ⟨fun s => ?_, fun s h0 hp hroom => ?_⟩
  · rw [Returns, putIdentity, sat_bind, writerRemaining, sat_map, sat_get]
    refine .ite (fun _ => .throw trivial) fun _ => ?_
    refine ((hvalue _).complete s).mono fun _ s' hs' hclear => ?_
    obtain ⟨h0, ⟨hshort, hfit⟩, heq⟩ := hs' hclear
    exact ⟨h0, ⟨hshort, hfit.trans (min_le_right _ _)⟩, heq⟩
  · have hroom' := hroom
    rw [fieldsOf_flatMap_singleton, pairBytes_length] at hroom'
    have hlen := length_le_identityBytes 0 (identityFields b rt)
    have hcount : (identityFields b rt).length = 15 := rfl
    dsimp only at hroom'
    rw [putIdentity, sat_bind, writerRemaining, sat_map, sat_get, if_neg (by omega)]
    exact (hvalue _).fits s h0 ⟨hp.1, le_min (by omega) hp.2⟩ hroom

/-- The pieces of the field `RESET`. -/
def resetBytes (event : Event) : List UInt8 :=
  [[rt.resetInfo.reason.code], le32 rt.resetInfo.rawReason, le32 rt.bootCount,
    le32 rt.resetInfo.previousUptimeMs, le32 event.timestampMs, flagByte rt.resetInfo.expected,
    flagByte rt.previousCrashed, flagByte rt.bootLoop].flatten

lemma fills_putReset : FillsFields (putReset rt event) True
    (fieldsOf .reset [resetBytes rt event]) :=
  (fillsFields_required (fills_writeAll _) (by norm_num)).iff
    ⟨fun _ => trivial, fun _ => ⟨trivial, by simp [flagByte]⟩⟩

lemma fills_putEvent : FillsFields (putEvent event) True
    (fieldsOf .event [(eventPieces event).flatten]) :=
  (fillsFields_required (fills_writeAll _) (by norm_num)).iff
    ⟨fun _ => trivial, fun _ => ⟨trivial, by simp [eventPieces]⟩⟩

/-- The value of the field `CPU64` with the full bank. -/
def cpu64Bytes (context : Riscv64Context) : List UInt8 :=
  ([[1], [1], [lsArchRiscv64.toUInt8], [8]] ++ ((List.ofFn fun i => le64 (context.x i)) ++
    [le64 context.mstatus, le64 context.mcause, le64 context.mtval, le64 context.mepc])).flatten

lemma cpu64Bytes_length : (cpu64Bytes context).length = 292 := by
  rw [cpu64Bytes, List.flatten_append, List.flatten_append, List.length_append,
    List.length_append, flatten_ofFn_length fun i => le64_length (context.x i)]
  simp

lemma cpuPieces_length :
    (cpuPieces cpu).flatten.length = 2 + 32 * 4 + 18 * 4 + 2 + if cpu.hasFpu then 17 * 4 else 0 := by
  rw [cpuPieces, List.flatten_append, List.flatten_append, List.flatten_append]
  simp only [List.length_append, flatten_ofFn_length fun i => le32_length (cpu.registers i)]
  cases cpu.hasFpu with
  | true =>
      rw [if_pos rfl, if_pos rfl, List.flatten_append, List.length_append,
        flatten_ofFn_length fun i => le32_length (cpu.s i)]
      simp [flagByte]
  | false => simp [flagByte]

lemma faultPieces_length : (faultPieces cpu).flatten.length = 52 := by
  simp [faultPieces]

/-- The fields `CPU` and `FAULT`. -/
def legacyFields (cpu : ArchContext) : List (UInt16 × List UInt8) :=
  fieldsOf .cpu [(cpuPieces cpu).flatten] ++ fieldsOf .fault [(faultPieces cpu).flatten]

/-- The part of `put_cpu` behind the RV64 bank. -/
def putLegacy (cpu : ArchContext) : EncodeM Unit := do
  let value ← nestedValue 512 (writeAll (cpuPieces cpu))
  lsWriterTlv TlvType.cpu.code value
  let fault ← nestedValue 64 (writeAll (faultPieces cpu))
  lsWriterTlv TlvType.fault.code fault

lemma fills_putLegacy :
    FillsFields (putLegacy cpu) True (legacyFields cpu) := by
  have hcpu : FillsFields (nestedValue 512 (writeAll (cpuPieces cpu)) >>= lsWriterTlv
      TlvType.cpu.code) True (fieldsOf .cpu [(cpuPieces cpu).flatten]) := by
    refine (fillsFields_required (fills_writeAll _) (by norm_num)).iff
      ⟨fun _ => trivial, fun _ => ⟨trivial, ?_⟩⟩
    rw [cpuPieces_length]
    split <;> omega
  have hfault : FillsFields (nestedValue 64 (writeAll (faultPieces cpu)) >>= lsWriterTlv
      TlvType.fault.code) True (fieldsOf .fault [(faultPieces cpu).flatten]) :=
    (fillsFields_required (fills_writeAll _) (by norm_num)).iff
      ⟨fun _ => trivial, fun _ => ⟨trivial, by rw [faultPieces_length]; omega⟩⟩
  have hboth : FillsFields _ True (legacyFields cpu) := (hcpu.bind hfault).iff (by simp)
  rwa [bind_assoc] at hboth

lemma legacyFields_length :
    ((legacyFields cpu).flatMap pairBytes).length
      = 4 + (2 + 32 * 4 + 18 * 4 + 2 + if cpu.hasFpu then 17 * 4 else 0) + 4 + 13 * 4 := by
  rw [legacyFields, List.flatMap_append, fieldsOf_flatMap_singleton, fieldsOf_flatMap_singleton,
    List.length_append, pairBytes_length, pairBytes_length]
  dsimp only
  rw [cpuPieces_length, faultPieces_length]

/-- The fields of `put_cpu` with the full RV64 bank. -/
def cpuFields (cpu : Option ArchContext) (riscv64 : Option Riscv64Context) :
    List (UInt16 × List UInt8) :=
  match cpu with
  | none => []
  | some cpu =>
    (if cpu.architecture = lsArchRiscv64 then fieldsOf .cpu64 [cpu64Bytes (riscv64.getD default)]
      else []) ++ legacyFields cpu

/-- An RV64 context comes with its bank. -/
def CpuFull (cpu : Option ArchContext) (riscv64 : Option Riscv64Context) : Prop :=
  ∀ c ∈ cpu, c.architecture = lsArchRiscv64 → riscv64.isSome

lemma fills_putCpu64 :
    FillsFields (putCpu64 context true) True (fieldsOf .cpu64 [cpu64Bytes context]) :=
  (fillsFields_required (fills_writeAll _) (by norm_num)).iff
    ⟨fun _ => trivial, fun _ => ⟨trivial, (cpu64Bytes_length context).le⟩⟩

/-- The bank is there, and it fits in front of the fields behind it. -/
def WideFits (cpu : ArchContext) (riscv64 : Option Riscv64Context) (remaining : ℕ) : Prop :=
  riscv64.isSome ∧ 4 + (2 + 32 * 4 + 18 * 4 + 2 + if cpu.hasFpu then 17 * 4 else 0) + 4 + 13 * 4 +
    (4 + 4 + (32 + 4) * 8) ≤ remaining

instance (cpu : ArchContext) (riscv64 : Option Riscv64Context) (remaining : ℕ) :
    Decidable (WideFits cpu riscv64 remaining) := inferInstanceAs (Decidable (_ ∧ _))

lemma putWide_eq {cpu : ArchContext}
    (h : cpu.architecture = lsArchRiscv64) :
    putWide cpu riscv64 = writerRemaining >>= fun remaining =>
      putCpu64 (riscv64.getD default) (decide (WideFits cpu riscv64 remaining)) >>= fun _ =>
        markIf (¬ WideFits cpu riscv64 remaining) := by
  rw [putWide, if_pos h]
  rfl

/-- The RV64 bank, by the room that is left when it is written. -/
lemma fills_wide :
    Fills (putCpu64 (riscv64.getD default) (decide (WideFits cpu riscv64 remaining)) >>= fun _ =>
        markIf (¬ WideFits cpu riscv64 remaining)) (WideFits cpu riscv64 remaining)
      ((fieldsOf .cpu64 [cpu64Bytes (riscv64.getD default)]).flatMap pairBytes)
      (fieldsOf .cpu64 [cpu64Bytes (riscv64.getD default)]) := by
  by_cases hfull : WideFits cpu riscv64 remaining
  · have h := Fills.bind (fills_putCpu64 (riscv64.getD default))
      (fills_markIf (¬ WideFits cpu riscv64 remaining))
    rw [List.append_nil, List.append_nil] at h
    rw [decide_eq_true hfull]
    exact h.iff (by simp [hfull])
  · refine ⟨fun s => ?_, fun s _ hp => absurd hp hfull⟩
    rw [Returns]
    refine (sat_run _ s).bind fun _ s₁ _ => ?_
    rw [markIf, if_pos hfull, markTruncated, sat_modify]
    intro h
    cases h

lemma fills_putCpu (cpu : Option ArchContext) (riscv64 : Option Riscv64Context) :
    FillsFields (putCpu cpu riscv64) (CpuFull cpu riscv64) (cpuFields cpu riscv64) := by
  cases cpu with
  | none => exact fillsFields_pure.iff (by simp [CpuFull])
  | some c =>
      have hput : putCpu (some c) riscv64 = putWide c riscv64 >>= fun _ => putLegacy c := rfl
      rw [hput, cpuFields]
      by_cases harch : c.architecture = lsArchRiscv64
      swap
      · rw [putWide, if_neg harch, if_neg harch]
        exact ((fillsFields_pure).bind (fills_putLegacy c)).iff (by simp [CpuFull, harch])
      have hfull : CpuFull (some c) riscv64 ↔ riscv64.isSome := by simp [CpuFull, harch]
      have hboth (remaining : ℕ) := (fills_wide c riscv64 remaining).bind (fills_putLegacy c)
      rw [putWide_eq riscv64 harch, if_pos harch, bind_assoc, FillsFields, List.flatMap_append]
      refine ⟨fun s => ?_, fun s h0 hp hroom => ?_⟩
      · rw [Returns, sat_bind, writerRemaining, sat_map, sat_get]
        refine ((hboth _).complete s).mono fun _ s' hs' hclear => ?_
        obtain ⟨h0, hp, heq⟩ := hs' hclear
        exact ⟨h0, hfull.mpr hp.1.1, heq⟩
      · have hlen := hroom
        rw [List.length_append, legacyFields_length, fieldsOf_flatMap_singleton, pairBytes_length]
          at hlen
        dsimp only at hlen
        rw [cpu64Bytes_length] at hlen
        rw [sat_bind, writerRemaining, sat_map, sat_get]
        exact (hboth _).fits s h0 ⟨⟨hfull.mp hp, by omega⟩, trivial⟩ hroom

/-! ### Breadcrumbs, metrics and power -/

/-- The value of the field `BREADCRUMB`. -/
def breadcrumbBytes (record : BreadcrumbRecord) : List UInt8 :=
  [le32 record.atMs, le16 record.messageId, [record.severity], le32 record.categoryHash,
    le32 record.messageHash].flatten ++ (storedString b 1 (some record.category) ++
    (storedString b 2 (some record.message) ++
      ([record.valueCount] :: (record.values.take record.valueCount.toNat).flatMap fun kv =>
        [le16 kv.keyId, [kv.type], le32 kv.value]).flatten))

/-- A breadcrumb is complete where its strings are short and it fits its buffer. -/
def BreadcrumbFull (record : BreadcrumbRecord) : Prop :=
  StoredShort b (some record.category) ∧ StoredShort b (some record.message) ∧
    (breadcrumbBytes b record).length ≤ 160

lemma fills_breadcrumbValue (record : BreadcrumbRecord) :
    Fills (breadcrumbValue b record)
      (StoredShort b (some record.category) ∧ StoredShort b (some record.message))
      (breadcrumbBytes b record) [] :=
  ((fills_writeAll _).bind ((fills_putStoredString b 1 _).bind ((fills_putStoredString b 2 _).bind
    (fills_writeAll _)))).iff (by simp)

lemma fieldsOf_cons (t : TlvType) (value : List UInt8) (values : List (List UInt8)) :
    fieldsOf t (value :: values) = fieldsOf t [value] ++ fieldsOf t values := rfl

lemma fills_putBreadcrumbRecords (records : List BreadcrumbRecord) :
    FillsFields (putBreadcrumbRecords b records) (∀ record ∈ records, BreadcrumbFull b record)
      (fieldsOf .breadcrumb (records.map (breadcrumbBytes b))) := by
  induction records with
  | nil => exact fillsFields_pure.iff (by simp)
  | cons record rest ih =>
      rw [List.map_cons, fieldsOf_cons]
      exact FillsFields.iff
        (fillsFields_record (fills_breadcrumbValue b record) (by norm_num) ih)
        (by simp [BreadcrumbFull, and_assoc])

/-- The breadcrumbs that an envelope carries, oldest first. -/
def storedBreadcrumbs : List BreadcrumbRecord :=
  if b.enableBreadcrumbs then
    ringEntries rt.breadcrumbs b.breadcrumbCapacity rt.breadcrumbNext rt.breadcrumbCount
  else []

lemma fills_putBreadcrumbs : FillsFields (putBreadcrumbs b rt)
    (∀ record ∈ storedBreadcrumbs b rt, BreadcrumbFull b record)
    (fieldsOf .breadcrumb ((storedBreadcrumbs b rt).map (breadcrumbBytes b))) := by
  unfold putBreadcrumbs storedBreadcrumbs
  split
  · exact fills_putBreadcrumbRecords b _
  · exact fillsFields_pure.iff (by simp)

/-- The value of the field `METRIC`. -/
def metricBytes (metric : MetricRecord) : List UInt8 :=
  [le32 metric.nameHash].flatten ++ (storedString b 1 (some metric.name) ++
    ([[metric.type], le32 metric.value.toUInt32, le32 metric.previous.toUInt32,
      le32 metric.minimum.toUInt32, le32 metric.maximum.toUInt32, le64 metric.sum.toUInt64,
      le32 metric.count, [metric.windowCount]] ++
      (metric.window.take metric.windowCount.toNat).map fun v => le32 v.toUInt32).flatten)

/-- A metric is complete where its name is short and it fits its buffer. -/
def MetricFull (metric : MetricRecord) : Prop :=
  StoredShort b (some metric.name) ∧ (metricBytes b metric).length ≤ 128

lemma fills_metricValue (metric : MetricRecord) :
    Fills (metricValue b metric) (StoredShort b (some metric.name)) (metricBytes b metric) [] :=
  ((fills_writeAll _).bind ((fills_putStoredString b 1 _).bind (fills_writeAll _))).iff (by simp)

lemma fills_putMetricRecords (metrics : List MetricRecord) :
    FillsFields (putMetricRecords b metrics) (∀ metric ∈ metrics, MetricFull b metric)
      (fieldsOf .metric (metrics.map (metricBytes b))) := by
  induction metrics with
  | nil => exact fillsFields_pure.iff (by simp)
  | cons metric rest ih =>
      rw [List.map_cons, fieldsOf_cons]
      exact FillsFields.iff (fillsFields_record (fills_metricValue b metric) (by norm_num) ih)
        (by simp [MetricFull])

/-- The metrics that an envelope carries. -/
def storedMetrics : List MetricRecord := if b.enableMetrics then rt.metrics else []

lemma fills_putMetrics : FillsFields (putMetrics b rt)
    (∀ metric ∈ storedMetrics b rt, MetricFull b metric)
    (fieldsOf .metric ((storedMetrics b rt).map (metricBytes b))) := by
  unfold putMetrics storedMetrics
  split
  · exact fills_putMetricRecords b _
  · exact fillsFields_pure.iff (by simp)

/-- The value of the field `POWER`. -/
def powerBytes (sample : PowerSample) : List UInt8 :=
  [le32 sample.timestampMs, le16 sample.vddMv, le16 sample.batteryMv,
    le16 sample.currentMa.toUInt16, le16 sample.temperatureC.toUInt16,
    le16 sample.chargerStatus, le16 sample.powerFlags].flatten

lemma fills_putPowerSamples (samples : List PowerSample) :
    FillsFields (putPowerSamples samples) True (fieldsOf .power (samples.map powerBytes)) := by
  induction samples with
  | nil => exact fillsFields_pure
  | cons sample rest ih =>
      rw [List.map_cons, fieldsOf_cons]
      exact FillsFields.iff (fillsFields_value (fills_writeAll _) (by norm_num) ih) (by simp)

/-- The power samples that an envelope carries, oldest first. -/
def storedSamples : List PowerSample :=
  if b.enablePowerSamples then
    ringEntries rt.powerSamples b.powerSampleCapacity rt.powerNext rt.powerCount
  else []

/-- The value of the field `HEALTH`. -/
def healthBytes : List UInt8 :=
  [le32 rt.watchdogLastFeed, le16 rt.watchdogCheckpoint,
    le32 (lsHashString (some rt.activeTask))].flatten

lemma fills_putPowerHealth : FillsFields (putPowerHealth b rt) True
    (fieldsOf .power ((storedSamples b rt).map powerBytes) ++ fieldsOf .health [healthBytes rt]) := by
  have hpower : FillsFields (putPower b rt) True
      (fieldsOf .power ((storedSamples b rt).map powerBytes)) := by
    unfold putPower storedSamples
    split
    · exact fills_putPowerSamples _
    · exact fillsFields_pure
  exact (hpower.bind (fillsFields_putFixed (by norm_num) (by simp))).iff (by simp)

/-! ### Black-box records -/

/-- The value of the field `BLACKBOX`. -/
def blackboxBytes (record : BlackboxRecord) : List UInt8 :=
  ([[1], le32 record.timestampMs, le16 record.kind, le16 record.sourceId,
    le16 record.flags] ++ List.ofFn fun i => le32 (record.value i).toUInt32).flatten

lemma blackboxBytes_length (record : BlackboxRecord) : (blackboxBytes record).length = 27 := by
  rw [blackboxBytes, List.flatten_append, List.length_append,
    flatten_ofFn_length fun i => le32_length (record.value i).toUInt32]
  simp

/-- The readable records among the most recent ones that are not sensitive, oldest first. -/
def readableRecords (bb : Blackbox) : ℕ → List BlackboxRecord
  | 0 => []
  | remaining + 1 =>
    ((lsBlackboxGetRecent bb remaining).toList.filter fun record =>
      record.flags &&& lsBlackboxSensitive = 0) ++ readableRecords bb remaining

/-- What is only done while the flag is clear. -/
lemma fills_whileClear {bytes : List UInt8} (h : Fills y P bytes fields) :
    Fills (get >>= fun s => if s.truncated then pure () else y) P bytes fields where
  complete s := by
    rw [Returns, sat_bind, sat_get]
    split
    · exact (sat_pure ()).mpr fun hclear => by simp_all
    · exact h.complete s
  fits s h0 hp hroom := by
    rw [sat_bind, sat_get, if_neg (by rw [h0]; exact Bool.false_ne_true)]
    exact h.fits s h0 hp hroom

lemma fills_putBlackboxFrom :
    FillsFields (putBlackboxFrom bb remaining) True
      (fieldsOf .blackbox ((readableRecords bb remaining).map blackboxBytes)) := by
  induction remaining with
  | zero => exact fillsFields_pure
  | succ remaining ih =>
      rw [putBlackboxFrom, readableRecords]
      cases lsBlackboxGetRecent bb remaining with
      | none => exact ih
      | some record =>
          by_cases hs : record.flags &&& lsBlackboxSensitive = 0
          · simp only [hs, ne_eq, not_true_eq_false, if_false]
            have hshown : ((some record).toList.filter fun record =>
                record.flags &&& lsBlackboxSensitive = 0) = [record] := by simp [hs]
            rw [hshown, List.singleton_append, List.map_cons, fieldsOf_cons]
            have hlen := blackboxBytes_length record
            exact FillsFields.iff (fillsFields_value (fills_writeAll _) (by norm_num)
              (fills_whileClear ih)) ⟨fun _ => trivial, fun _ =>
                ⟨⟨trivial, hlen.le.trans (by norm_num)⟩, trivial⟩⟩
          · have hshown : ((some record).toList.filter fun record =>
                record.flags &&& lsBlackboxSensitive = 0) = [] := by simp [hs]
            rw [hshown]
            simp only [hs, ne_eq, not_false_eq_true, if_true]
            exact ih

/-! ### The sections behind them -/

/-- There is no mission to report. -/
def NoMission : Prop := rt.mission.missionId = [] ∧ ¬ rt.mission.incidentActive

instance : Decidable (NoMission rt) := inferInstanceAs (Decidable (_ ∧ _))

/-- The sections without strings behind the mission. -/
def putState : EncodeM Unit := do
  putTimeSync rt
  putProvisioning rt
  putSupervisor rt
  putEnvironment rt
  putPowerfailSeal b rt

/-- The sections in front of the black-box records. -/
def putEarly (event : Event) : EncodeM Unit := do
  putIdentity b rt
  putReset rt event
  putEvent event
  putCpu event.cpu event.riscv64
  putBreadcrumbs b rt
  putMetrics b rt
  putPowerHealth b rt

/-- Nothing in front of the black-box records is cut short, whatever the room. -/
structure EarlyFull (event : Event) : Prop where
  identity : IdentityFull b rt
  cpu : CpuFull event.cpu event.riscv64
  breadcrumbs : ∀ record ∈ storedBreadcrumbs b rt, BreadcrumbFull b record
  metrics : ∀ metric ∈ storedMetrics b rt, MetricFull b metric

/-- The fields in front of the black-box records. -/
def earlyFields (event : Event) : List (UInt16 × List UInt8) :=
  fieldsOf .identity [identityBytes 0 (identityFields b rt)] ++
    (fieldsOf .reset [resetBytes rt event] ++ (fieldsOf .event [(eventPieces event).flatten] ++
      (cpuFields event.cpu event.riscv64 ++
        (fieldsOf .breadcrumb ((storedBreadcrumbs b rt).map (breadcrumbBytes b)) ++
          (fieldsOf .metric ((storedMetrics b rt).map (metricBytes b)) ++
            (fieldsOf .power ((storedSamples b rt).map powerBytes) ++
              fieldsOf .health [healthBytes rt]))))))

lemma fills_putEarly :
    FillsFields (putEarly b rt event) (EarlyFull b rt event) (earlyFields b rt event) :=
  ((fills_putIdentity b rt).bind ((fills_putReset rt event).bind ((fills_putEvent event).bind
    ((fills_putCpu event.cpu event.riscv64).bind ((fills_putBreadcrumbs b rt).bind
      ((fills_putMetrics b rt).bind (fills_putPowerHealth b rt))))))).iff
    ⟨fun ⟨h1, _, _, h2, h3, h4, _⟩ => ⟨h1, h2, h3, h4⟩,
      fun ⟨h1, h2, h3, h4⟩ => ⟨h1, trivial, trivial, h2, h3, h4, trivial⟩⟩

/-- The sections behind the black-box records. -/
def putLate (mem : ℕ → UInt8) (uptimeMs : UInt32) (event : Event) : EncodeM Unit := do
  putMission b rt uptimeMs
  putState b rt
  putDetails b event
  putMemory b rt mem event

lemma putPayload_eq (mem : ℕ → UInt8) (uptimeMs : UInt32) (event : Event) :
    putPayload b rt bb mem uptimeMs event = putEarly b rt event >>= fun _ =>
      putBlackbox b bb >>= fun _ => putLate b rt mem uptimeMs event := by
  simp only [putPayload, putEarly, putLate, putState, bind_assoc]

/-- The records that an envelope carries. -/
def shownRecords (bb : Blackbox) : List BlackboxRecord :=
  readableRecords bb (min bb.count b.blackboxEnvelopeMax)

end

/-! ### What a complete payload holds -/

section

variable (b : Build) (rt : Runtime)

variable {b rt}

variable {bb : Blackbox} {mem : ℕ → UInt8}

variable {records : List BlackboxRetained} {region : DumpRegion} {uptimeMs : UInt32}
  {event : Event}

end

variable {c : Crypto} {event : Event} {sequence : UInt32}

/-! ### Envelopes -/

/-- The envelope holds the given fields, behind a header that says whether they were cut. -/
def Encloses (c : Crypto) (rt : Runtime) (event : Event) (sequence : UInt32) (truncated : Bool)
    (envelope : List UInt8) (fields : List Tlv.Field) : Prop :=
  ∃ eventId metadata body authentication,
    Sealed c rt (writeHeader event.type.code (encodeArchitecture rt event)
      (encodeFlags rt truncated) sequence eventId (UInt32.ofNat (encode fields).length)) sequence
      eventId (encode fields) metadata body authentication ∧
    envelope = frame event.type.code (encodeArchitecture rt event) (encodeFlags rt truncated)
      sequence eventId metadata body authentication

/-- What `ls_envelope_encode` leaves where it returns: an envelope around the fields of the
payload. -/
lemma encode_encloses {b : Build} {bb : Blackbox} {mem : ℕ → UInt8}
    {uptimeMs : UInt32} {random : Except Errno Nonce} {capacity : ℕ} {s s' : EncodeState}
    (h : lsEnvelopeEncode b c bb mem uptimeMs random event capacity sequence s = .ok () s') :
    ∃ (payload : Encoder) (fields : List Tlv.Field),
      putPayload b s.runtime bb mem uptimeMs event (payloadWriter s.runtime capacity)
        = .ok () payload ∧ payload.written = fields.map Field.pair ∧
      Encloses c s.runtime event sequence payload.truncated (Medium.read s'.out 0 s'.length)
        fields := by
  obtain ⟨payload, hput, -, -, -, eventId, metadata, body, authentication, hsealed, hread⟩ :=
    sat_of_ok (lsEnvelopeEncode_spec b c bb mem uptimeMs random event capacity sequence s) h
  obtain ⟨x, y, z, ts, -, -, -, -, -, hext⟩ := sat_of_ok (putPayload_spec b s.runtime bb mem uptimeMs
    event (payloadWriter s.runtime capacity)) hput
  have hdata : payload.data = encode ([x, y, z] ++ ts) := hext.data_eq
  rw [hdata] at hsealed
  exact ⟨payload, [x, y, z] ++ ts, hput, hext.written_eq, eventId, metadata, body, authentication,
    hsealed, hread⟩

end Latch
