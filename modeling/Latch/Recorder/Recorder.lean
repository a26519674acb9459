
/-
The retained flight recorder of `src/core/blackbox.c`: its memory, the functions that change
it, and what each of them does to the ring.

The memory survives a reset. It holds a few words, each with its complement, and the ring of
records as bytes. `previous_profile` is ordinary memory, which `ls_blackbox_init` sets anew.

The number of a record chooses its slot, and numbers skip zero. A call either leaves the ring
and the next number alone, or it stores one record (`step_ring`).
-/
import Latch.Core.Blackbox
import Latch.Lib.Exec
import Latch.Lib.Run
import Latch.Lib.Stores

namespace Latch

open Bytes Exec

/-! ### Memory -/

/-- A word of retained memory that is stored together with its complement. -/
structure Doubled (α : Type) where
  value : α
  inverse : α
  deriving DecidableEq, Inhabited

namespace Doubled

variable {α : Type} [Complement α]

/-- `metadata_store_u32` and `metadata_store_u8`. -/
def store (updated : α) : Doubled α := ⟨updated, ~~~updated⟩

/-- `metadata_u32_valid` and `metadata_u8_valid`. -/
def valid [DecidableEq α] (d : Doubled α) : Bool := d.inverse = ~~~d.value

@[simp] lemma store_value (updated : α) : (store updated).value = updated := rfl

@[simp] lemma store_valid [DecidableEq α] (updated : α) : (store updated).valid = true := by
  simp [store, valid]

/-- A pair that is made anew where it does not fit. -/
lemma ite_valid [DecidableEq α] (d : Doubled α) (updated : α) :
    (if d.valid then d else store updated).valid = true := by
  split
  · assumption
  · exact store_valid updated

end Doubled

/-- `sizeof(ls_blackbox_retained_record_t)`. -/
def retainedSize : ℕ := 36

namespace BlackboxRetained

/-- The bytes of a record in the ring. -/
def bytes (r : BlackboxRetained) : List UInt8 :=
  le32 r.sequence ++ (le32 r.record.timestampMs ++ (le16 r.record.kind ++
    (le16 r.record.sourceId ++ (le16 r.record.flags ++ (le16 r.record.reserved ++
      (le32 (r.record.value 0).toUInt32 ++ (le32 (r.record.value 1).toUInt32 ++
        (le32 (r.record.value 2).toUInt32 ++ (le32 (r.record.value 3).toUInt32 ++
          le32 r.crc)))))))))

/-- The record that some bytes hold. -/
def ofBytes (l : List UInt8) : BlackboxRetained where
  sequence := get32 l 0
  record :=
    { timestampMs := get32 l 4, kind := get16 l 8, sourceId := get16 l 10, flags := get16 l 12
      reserved := get16 l 14, value := fun i => (get32 l (16 + 4 * i.val)).toInt32 }
  crc := get32 l 32

lemma bytes_length (r : BlackboxRetained) : r.bytes.length = retainedSize := by
  simp [bytes, retainedSize]

/-- A record is read as it was written. -/
lemma ofBytes_bytes (r : BlackboxRetained) : ofBytes r.bytes = r := by
  have hvalue : (fun i : Fin 4 => (get32 r.bytes (16 + 4 * i.val)).toInt32) = r.record.value := by
    funext i
    fin_cases i <;> simp [bytes, get32_append_right]
  rw [ofBytes, hvalue]
  simp [bytes, get32_append_right, get16_append_right]

/-- Nothing of the bytes is lost. -/
lemma bytes_ofBytes {l : List UInt8} (h : l.length = retainedSize) : (ofBytes l).bytes = l := by
  simp only [retainedSize] at h
  have hsplit : ∀ o w, (l.drop o).take w ++ l.drop (o + w) = l.drop o := fun o w => by
    rw [← List.drop_drop, List.take_append_drop]
  have hlast : (l.drop 32).take 4 = l.drop 32 := List.take_of_length_le (by simp [h])
  simp (disch := omega) only [bytes, ofBytes, UInt32.toUInt32_toInt32, le32_get32, le16_get16,
    hlast]
  simp [hsplit]

end BlackboxRetained

/-- The record in a slot of the ring. -/
def recordAt (m : ℕ → UInt8) (slot : ℕ) : BlackboxRetained :=
  .ofBytes (Medium.read m (retainedSize * slot) retainedSize)

/-- A write to one slot leaves the others alone. -/
lemma recordAt_write_of_ne (m : ℕ → UInt8) {slot other : ℕ} {data : List UInt8}
    (hdata : data.length ≤ retainedSize) (h : other ≠ slot) :
    recordAt (Medium.write m (retainedSize * slot) data) other = recordAt m other := by
  unfold recordAt
  congr 1
  refine Medium.read_congr fun a h1 h2 => ?_
  simp only [retainedSize] at *
  obtain hlt | hlt := Nat.lt_or_gt_of_ne h
  · exact Medium.write_of_lt (by omega)
  · exact Medium.write_of_ge (by omega)

/-- A slot with a record that was written as a whole. -/
lemma recordAt_write_bytes (m : ℕ → UInt8) (slot : ℕ) (r : BlackboxRetained) :
    recordAt (Medium.write m (retainedSize * slot) r.bytes) slot = r := by
  rw [recordAt, ← r.bytes_length, Medium.read_write_same, BlackboxRetained.ofBytes_bytes]

/-- A slot that was never written holds no record. -/
lemma recordValid_zero (slot : ℕ) : recordValid (recordAt (fun _ => 0) slot) = false := by
  have hread : Medium.read (fun _ => (0 : UInt8)) (retainedSize * slot) retainedSize =
      List.replicate retainedSize 0 := by simp [Medium.read]
  rw [recordAt, hread]
  decide

/-- `LS_BLACKBOX_VERSION`. -/
def lsBlackboxVersion : UInt16 := 1

/-- `LS_BLACKBOX_PROFILE_QUIET`. -/
def lsBlackboxProfileQuiet : UInt8 := 0

/-- `LS_BLACKBOX_PROFILE_NORMAL`. -/
def lsBlackboxProfileNormal : UInt8 := 1

/-- `LS_BLACKBOX_PROFILE_ANOMALY`. -/
def lsBlackboxProfileAnomaly : UInt8 := 2

/-- `ls_blackbox_retained_t`, and `previous_profile`, which a reset loses. -/
structure Recorder where
  magic : UInt32
  version : UInt16
  nextSequence : Doubled UInt32
  totalRecords : Doubled UInt32
  overwrittenRecords : Doubled UInt32
  anomalyUntilMs : Doubled UInt32
  frozen : Doubled UInt8
  profile : Doubled UInt8
  records : ℕ → UInt8
  previousProfile : UInt8

namespace Recorder

/-- The recorder with another pair for its next number. -/
def putNextSequence (r : Recorder) (w : Doubled UInt32) : Recorder := { r with nextSequence := w }

/-- The recorder with another pair for the number of all records. -/
def putTotalRecords (r : Recorder) (w : Doubled UInt32) : Recorder := { r with totalRecords := w }

/-- The recorder with another pair for the number of overwritten records. -/
def putOverwrittenRecords (r : Recorder) (w : Doubled UInt32) : Recorder :=
  { r with overwrittenRecords := w }

/-- The recorder with another ring. -/
def putRecords (r : Recorder) (records : ℕ → UInt8) : Recorder := { r with records := records }

end Recorder

section

variable (bd : Build)

/-- What the readers of the recorder look at. -/
def Recorder.blackbox (r : Recorder) : Blackbox where
  magic := r.magic
  records := (List.range bd.blackboxCapacity).map (recordAt r.records)

/-! ### Functions -/

/-- `blackbox_reset`, also called `ls_blackbox_clear`. -/
def blackboxReset : Recorder where
  magic := lsBlackboxMagic
  version := lsBlackboxVersion
  nextSequence := .store 1
  totalRecords := .store 0
  overwrittenRecords := .store 0
  anomalyUntilMs := .store 0
  frozen := .store 0
  profile := .store lsBlackboxProfileNormal
  records _ := 0
  previousProfile := lsBlackboxProfileNormal

/-- The repairs of `ls_blackbox_init`: a word that does not fit its complement is made anew. -/
def Recorder.repaired (r : Recorder) : Recorder :=
  let highest := (r.blackbox bd).newest
  let valid := UInt32.ofNat (r.blackbox bd).count
  let total := if r.totalRecords.valid then r.totalRecords
    else .store (if valid < highest then highest else valid)
  { r with
    nextSequence := if ¬ r.nextSequence.valid ∨ r.nextSequence.value = 0
      then .store (if highest + 1 ≠ 0 then highest + 1 else 1) else r.nextSequence
    totalRecords := total
    overwrittenRecords := if r.overwrittenRecords.valid then r.overwrittenRecords
      else .store (if bd.blackboxCapacity < total.value.toNat
        then total.value - UInt32.ofNat bd.blackboxCapacity else 0)
    anomalyUntilMs := if r.anomalyUntilMs.valid then r.anomalyUntilMs else .store 0
    frozen := if r.frozen.valid then r.frozen else .store 0
    profile := if ¬ r.profile.valid ∨ lsBlackboxProfileAnomaly < r.profile.value
      then .store lsBlackboxProfileNormal else r.profile }

/-- `ls_blackbox_init`. -/
def lsBlackboxInit (r : Recorder) : Recorder :=
  if r.magic ≠ lsBlackboxMagic ∨ r.version ≠ lsBlackboxVersion then blackboxReset
  else
    let r := r.repaired bd
    { r with previousProfile := r.profile.value }

/-- The functions initialise a recorder whose magic is lost. -/
def Recorder.ensured (r : Recorder) : Recorder :=
  if r.magic ≠ lsBlackboxMagic then lsBlackboxInit bd r else r

/-- `LS_BLACKBOX_IMPORTANT | LS_BLACKBOX_ERROR`. -/
def lsBlackboxUrgent : UInt16 := 3

/-- `profile_accepts`: a quiet recorder takes urgent records, and those of the kinds
`LS_BLACKBOX_WATCHDOG` and `LS_BLACKBOX_POWER`. -/
def profileAccepts (r : Recorder) (record : BlackboxRecord) : Bool :=
  r.profile.value ≠ lsBlackboxProfileQuiet ∨ record.flags &&& lsBlackboxUrgent ≠ 0 ∨
    record.kind = 4 ∨ record.kind = 5

/-- The number of the next record. -/
def Recorder.sequence (r : Recorder) : UInt32 :=
  if r.nextSequence.value = 0 then 1 else r.nextSequence.value

/-- The slot of the next record. -/
def Recorder.slot (r : Recorder) : ℕ := (r.sequence - 1).toNat % bd.blackboxCapacity

/-- A record with its time; `uptimeMs` is `none` before `ls_init`. -/
def stamped (record : BlackboxRecord) (uptimeMs : Option UInt32) : BlackboxRecord :=
  { record with
    timestampMs := if record.timestampMs = 0 then uptimeMs.getD 0 else record.timestampMs }

/-- The two stores of a word and its complement. -/
def doubledStores {α : Type} [Complement α] (get : Recorder → Doubled α)
    (put : Recorder → Doubled α → Recorder) (updated : α) : List (Recorder → Recorder) :=
  [fun r => put r { get r with value := updated },
    fun r => put r { get r with inverse := ~~~updated }]

/-- A counter that stays at its largest value. -/
def saturated (x : UInt32) : UInt32 := if x = 0xffffffff then x else x + 1

/-- The stores of the copy of a record into its slot. -/
def copyStores (r : Recorder) (record : BlackboxRecord) : List (Recorder → Recorder) :=
  (Stores.bytes (retainedSize * r.slot bd) (storedRecord r.sequence record).bytes).map
    fun f r => r.putRecords (f r.records)

/-- The stores of the counters in front of the next number. -/
def counterStores (r : Recorder) : List (Recorder → Recorder) :=
  let total := saturated r.totalRecords.value
  doubledStores Recorder.totalRecords Recorder.putTotalRecords total ++
    if bd.blackboxCapacity < total.toNat then
      doubledStores Recorder.overwrittenRecords Recorder.putOverwrittenRecords
        (saturated r.overwrittenRecords.value)
    else []

/-- The stores that `ls_blackbox_record` makes for a record that it accepts: the record byte
by byte, the counters, the next number. -/
def recordStores (r : Recorder) (record : BlackboxRecord) : List (Recorder → Recorder) :=
  copyStores bd r record ++ (counterStores bd r ++
    doubledStores Recorder.nextSequence Recorder.putNextSequence (nextSequence r.sequence))

/-- `ls_blackbox_record`. -/
def lsBlackboxRecord (record : BlackboxRecord) (uptimeMs : Option UInt32) :
    EStateM Errno Recorder Unit := do
  if record.kind < 1 ∨ 10 < record.kind then throw .einval
  else do
    modify (Recorder.ensured bd)
    let r ← get
    if r.frozen.value ≠ 0 then throw .ebusy
    else if ¬ profileAccepts r record then pure ()
    else modify (Stores.all (recordStores bd r (stamped record uptimeMs)))

/-- `ls_blackbox_set_profile`. -/
def lsBlackboxSetProfile (profile : UInt8) (r : Recorder) : Recorder :=
  if lsBlackboxProfileAnomaly < profile then r
  else
    let r := r.ensured bd
    { r with
      previousProfile := profile, profile := .store profile
      anomalyUntilMs := if profile ≠ lsBlackboxProfileAnomaly then .store 0
        else r.anomalyUntilMs }

/-- `ls_blackbox_anomaly_begin`. -/
def lsBlackboxAnomalyBegin (durationMs : UInt32) (uptimeMs : Option UInt32) (r : Recorder) :
    Recorder :=
  if durationMs = 0 then r
  else
    let r := r.ensured bd
    { r with
      previousProfile := if r.profile.value ≠ lsBlackboxProfileAnomaly then r.profile.value
        else r.previousProfile
      profile := .store lsBlackboxProfileAnomaly
      anomalyUntilMs := .store (uptimeMs.getD 0 + durationMs) }

/-- `ls_blackbox_poll`. -/
def lsBlackboxPoll (uptimeMs : Option UInt32) (r : Recorder) : Recorder :=
  match uptimeMs with
  | none => r
  | some now =>
    if r.magic ≠ lsBlackboxMagic ∨ r.profile.value ≠ lsBlackboxProfileAnomaly ∨
        r.anomalyUntilMs.value = 0 then r
    else if 0 ≤ (now - r.anomalyUntilMs.value).toInt32 then
      { r with profile := .store r.previousProfile, anomalyUntilMs := .store 0 }
    else r

/-! ### Runs -/

/-- A call of the recorder that is not frozen, with the uptime where it is read; `restart` is
a reset that keeps the retained memory. -/
inductive RecorderOp where
  | record (entry : BlackboxRecord) (uptimeMs : Option UInt32)
  | setProfile (profile : UInt8)
  | anomalyBegin (durationMs : UInt32) (uptimeMs : Option UInt32)
  | poll (uptimeMs : Option UInt32)
  | restart

/-- The recorder after a call. -/
def RecorderOp.step : RecorderOp → Recorder → Recorder
  | .record entry uptimeMs, r => leaves (lsBlackboxRecord bd entry uptimeMs) r
  | .setProfile profile, r => lsBlackboxSetProfile bd profile r
  | .anomalyBegin durationMs uptimeMs, r => lsBlackboxAnomalyBegin bd durationMs uptimeMs r
  | .poll uptimeMs, r => lsBlackboxPoll uptimeMs r
  | .restart, r => lsBlackboxInit bd r

/-- The record that a call adds to the ring, if it adds one. -/
def RecorderOp.accepts : RecorderOp → Recorder → Option BlackboxRecord
  | .record entry uptimeMs, r =>
    if (1 ≤ entry.kind ∧ entry.kind ≤ 10) ∧ r.frozen.value = 0 ∧ profileAccepts r entry then
      some (stamped entry uptimeMs)
    else none
  | _, _ => none

/-- The records that a run adds to the ring, in their order. -/
def accepted : List RecorderOp → Recorder → List BlackboxRecord
  | [], _ => []
  | op :: ops, r => (op.accepts r).toList ++ accepted ops (op.step bd r)

end

/-! ### What a call does to the ring -/

/-- A recorder in operation: its words fit their complements and it is not frozen. -/
structure Recorder.Sound (r : Recorder) : Prop where
  magic : r.magic = lsBlackboxMagic
  version : r.version = lsBlackboxVersion
  nextSequence : r.nextSequence.valid = true
  nextSequence_ne : r.nextSequence.value ≠ 0
  totalRecords : r.totalRecords.valid = true
  overwrittenRecords : r.overwrittenRecords.valid = true
  anomalyUntilMs : r.anomalyUntilMs.valid = true
  frozen : r.frozen = .store 0
  profile : r.profile.valid = true
  profile_le : r.profile.value ≤ lsBlackboxProfileAnomaly
  previousProfile_le : r.previousProfile ≤ lsBlackboxProfileAnomaly

lemma blackboxReset_sound : blackboxReset.Sound where
  magic := rfl
  version := rfl
  nextSequence := by decide
  nextSequence_ne := by decide
  totalRecords := by decide
  overwrittenRecords := by decide
  anomalyUntilMs := by decide
  frozen := rfl
  profile := by decide
  profile_le := by decide
  previousProfile_le := by decide

section

variable {bd : Build} {r : Recorder}

variable (record : BlackboxRecord)

lemma Recorder.Sound.ensured (h : r.Sound) : r.ensured bd = r := if_neg (not_not.mpr h.magic)

/-- A reset finds nothing to repair. -/
lemma Recorder.Sound.init (h : r.Sound) :
    lsBlackboxInit bd r = { r with previousProfile := r.profile.value } := by
  have hprofile : ¬ (¬ r.profile.valid = true ∨ lsBlackboxProfileAnomaly < r.profile.value) :=
    not_or.mpr ⟨not_not.mpr h.profile, UInt8.not_lt.mpr h.profile_le⟩
  have hnext : ¬ (¬ r.nextSequence.valid = true ∨ r.nextSequence.value = 0) :=
    not_or.mpr ⟨not_not.mpr h.nextSequence, h.nextSequence_ne⟩
  have hfrozen : r.frozen.valid = true := by rw [h.frozen]; rfl
  have hrepaired : r.repaired bd = r := by
    simp only [Recorder.repaired, if_neg hnext, if_neg hprofile, h.totalRecords,
      h.overwrittenRecords, h.anomalyUntilMs, hfrozen, if_true]
  rw [lsBlackboxInit, if_neg (not_or.mpr ⟨not_not.mpr h.magic, not_not.mpr h.version⟩), hrepaired]

lemma all_doubledStores {α : Type} [Complement α] (get : Recorder → Doubled α)
    (put : Recorder → Doubled α → Recorder) (hget : ∀ r w, get (put r w) = w)
    (hput : ∀ r w w', put (put r w) w' = put r w') (updated : α) (r : Recorder) :
    Stores.all (doubledStores get put updated) r = put r (.store updated) := by
  simp [Stores.all, doubledStores, hget, hput, Doubled.store]

lemma copyStores_length :
    (copyStores bd r record).length = retainedSize := by
  rw [copyStores, List.length_map, Stores.bytes_length, BlackboxRetained.bytes_length]

/-- The ring behind the first `k` bytes of a record. -/
def Recorder.ringTorn (bd : Build) (r : Recorder) (record : BlackboxRecord) (k : ℕ) : ℕ → UInt8 :=
  Medium.write r.records (retainedSize * r.slot bd)
    ((storedRecord r.sequence record).bytes.take k)

lemma upTo_copyStores (k : ℕ) :
    Stores.upTo (copyStores bd r record) k r = { r with records := r.ringTorn bd record k } := by
  rw [copyStores, Stores.upTo_map Recorder.records Recorder.putRecords (fun _ _ => rfl)
    (fun _ _ _ => rfl) (fun _ => rfl), Stores.upTo_bytes]
  rfl

/-- The ring behind a record that was stored as a whole. -/
def Recorder.ringWith (bd : Build) (r : Recorder) (record : BlackboxRecord) : ℕ → UInt8 :=
  Medium.write r.records (retainedSize * r.slot bd) (storedRecord r.sequence record).bytes

lemma Recorder.ringTorn_of_le {k : ℕ} (hk : retainedSize ≤ k) :
    r.ringTorn bd record k = r.ringWith bd record := by
  rw [ringTorn, ringWith, List.take_of_length_le (by rw [BlackboxRetained.bytes_length]; exact hk)]

lemma all_copyStores :
    Stores.all (copyStores bd r record) r = { r with records := r.ringWith bd record } := by
  rw [← Stores.upTo_of_length_le (copyStores_length record).le, upTo_copyStores,
    Recorder.ringTorn_of_le record le_rfl]

/-- What a recorder with one record more has in common with the one before. -/
structure Recorder.Recorded (bd : Build) (r : Recorder) (record : BlackboxRecord)
    (r' : Recorder) : Prop where
  records : r'.records = r.ringWith bd record
  nextSequence : r'.nextSequence = .store (Latch.nextSequence r.sequence)
  profile : r'.profile = r.profile
  previousProfile : r'.previousProfile = r.previousProfile
  anomalyUntilMs : r'.anomalyUntilMs = r.anomalyUntilMs
  sound : r.Sound → r'.Sound

lemma recorded_all_recordStores (bd : Build) (r : Recorder) (record : BlackboxRecord) :
    r.Recorded bd record (Stores.all (recordStores bd r record) r) := by
  rw [recordStores, Stores.all_append, Stores.all_append, all_copyStores, counterStores, Stores.all_append]
  rw [all_doubledStores _ Recorder.putTotalRecords (fun _ _ => rfl) (fun _ _ _ => rfl),
    all_doubledStores _ Recorder.putNextSequence (fun _ _ => rfl) (fun _ _ _ => rfl)]
  split
  · rw [all_doubledStores _ Recorder.putOverwrittenRecords (fun _ _ => rfl) (fun _ _ _ => rfl)]
    refine ⟨rfl, rfl, rfl, rfl, rfl, fun h => ?_⟩
    exact { h with
      nextSequence := Doubled.store_valid _, nextSequence_ne := nextSequence_ne_zero _
      totalRecords := Doubled.store_valid _, overwrittenRecords := Doubled.store_valid _ }
  · refine ⟨rfl, rfl, rfl, rfl, rfl, fun h => ?_⟩
    exact { h with
      nextSequence := Doubled.store_valid _, nextSequence_ne := nextSequence_ne_zero _
      totalRecords := Doubled.store_valid _, overwrittenRecords := h.overwrittenRecords }

/-- `ls_blackbox_record` on a recorder in operation. -/
lemma step_record (h : r.Sound) (entry : BlackboxRecord) (uptimeMs : Option UInt32) :
    (RecorderOp.record entry uptimeMs).step bd r =
      match (RecorderOp.record entry uptimeMs).accepts r with
      | none => r
      | some stored => Stores.all (recordStores bd r stored) r := by
  have hfrozen : r.frozen.value = 0 := by rw [h.frozen]; rfl
  have hkind : (entry.kind < 1 ∨ 10 < entry.kind) ↔ ¬ (1 ≤ entry.kind ∧ entry.kind ≤ 10) := by
    rw [not_and_or, UInt16.not_le, UInt16.not_le]
  rw [RecorderOp.step, RecorderOp.accepts]
  refine Sat.leaves (P := fun r' => r' = _) ?_
  unfold lsBlackboxRecord
  simp only [sat_ite, sat_throw, sat_bind, sat_modify, sat_get, sat_pure, h.ensured, hfrozen, hkind]
  by_cases hk : 1 ≤ entry.kind ∧ entry.kind ≤ 10
  · by_cases hp : profileAccepts r entry = true <;> simp [hk, hp]
  · simp [hk]

/-- A call that adds no record leaves the ring alone; a call that adds one stores it. -/
theorem step_ring (bd : Build) (h : r.Sound) (op : RecorderOp) :
    match op.accepts r with
    | none => (op.step bd r).records = r.records ∧ (op.step bd r).nextSequence = r.nextSequence
    | some stored => r.Recorded bd stored (op.step bd r) := by
  cases op with
  | record entry uptimeMs =>
      rw [step_record h]
      cases (RecorderOp.record entry uptimeMs).accepts r with
      | none => exact ⟨rfl, rfl⟩
      | some stored => exact recorded_all_recordStores bd r stored
  | setProfile profile =>
      simp only [RecorderOp.accepts, RecorderOp.step, lsBlackboxSetProfile, h.ensured]
      split <;> exact ⟨rfl, rfl⟩
  | anomalyBegin durationMs uptimeMs =>
      simp only [RecorderOp.accepts, RecorderOp.step, lsBlackboxAnomalyBegin, h.ensured]
      split <;> exact ⟨rfl, rfl⟩
  | poll uptimeMs =>
      simp only [RecorderOp.accepts, RecorderOp.step, lsBlackboxPoll]
      split
      · exact ⟨rfl, rfl⟩
      · repeat' split
        all_goals exact ⟨rfl, rfl⟩
  | restart =>
      rw [RecorderOp.step, h.init]
      exact ⟨rfl, rfl⟩

lemma Recorder.Sound.step (h : r.Sound) (op : RecorderOp) : (op.step bd r).Sound := by
  cases op with
  | record entry uptimeMs =>
      rw [step_record h]
      cases (RecorderOp.record entry uptimeMs).accepts r with
      | none => exact h
      | some stored => exact (recorded_all_recordStores bd r stored).sound h
  | setProfile profile =>
      simp only [RecorderOp.step, lsBlackboxSetProfile, h.ensured]
      split
      · exact h
      · rename_i hle
        have hle := UInt8.not_lt.mp hle
        refine { h with
          profile := Doubled.store_valid _, profile_le := hle, previousProfile_le := hle
          anomalyUntilMs := ?_ }
        dsimp only
        split
        · exact Doubled.store_valid _
        · exact h.anomalyUntilMs
  | anomalyBegin durationMs uptimeMs =>
      simp only [RecorderOp.step, lsBlackboxAnomalyBegin, h.ensured]
      split
      · exact h
      · refine { h with
          profile := Doubled.store_valid _, profile_le := UInt8.le_refl _
          anomalyUntilMs := Doubled.store_valid _, previousProfile_le := ?_ }
        dsimp only
        split
        · exact h.profile_le
        · exact h.previousProfile_le
  | poll uptimeMs =>
      simp only [RecorderOp.step, lsBlackboxPoll]
      split
      · exact h
      · split
        · exact h
        · split
          · exact { h with
              profile := Doubled.store_valid _, profile_le := h.previousProfile_le
              anomalyUntilMs := Doubled.store_valid _ }
          · exact h
  | restart =>
      simp only [RecorderOp.step, h.init]
      exact { h with previousProfile_le := h.profile_le }

lemma Recorder.Sound.after (h : r.Sound) (ops : List RecorderOp) :
    (Run.after (RecorderOp.step bd) ops r).Sound := by
  induction ops generalizing r with
  | nil => exact h
  | cons op ops ih => exact ih (h.step op)

end

end Latch
