/-
The format of the spool of `src/spool/spool.c`: a header, and slots of one size with a
record header and the bytes of an envelope each.

`recordAt`, `payloadAt` and `deliverable` say what the medium holds in a slot. They depend
on the bytes of that slot alone (`recordAt_congr`, `deliverable_congr`), and the two bytes
of a record header that change after it was written do not count for its validity.
-/
import Latch.Envelope.Validate
import Latch.Core.Types
import Latch.Storage.Program

namespace Latch.Spool

open Bytes

/-- `LS_STORAGE_MAGIC`. -/
def lsStorageMagic : UInt32 := 0x4c53534c

/-- `SPOOL_VERSION`. -/
def spoolVersion : UInt16 := 3

/-- `SPOOL_HEADER_COMMITTED`. -/
def spoolHeaderCommitted : UInt8 := 0xa5

/-- `SPOOL_RECORD_MAGIC`. -/
def spoolRecordMagic : UInt32 := 0x4c535245

/-- `SPOOL_RECORD_COMMITTED`. -/
def spoolRecordCommitted : UInt8 := 0xa5

/-- `SPOOL_RECORD_ACKED`. -/
def spoolRecordAcked : UInt8 := 0

/-- `sizeof(spool_header_t)`. -/
def headerSize : ℕ := 24

/-- `sizeof(spool_record_t)`. -/
def recordHeaderSize : ℕ := 28

/-- `spool_header_t` before its reserved bytes. -/
structure SpoolHeader where
  magic : UInt32
  version : UInt16
  slots : UInt16
  recordSize : UInt32
  sequenceFloor : UInt32
  headerCrc : UInt32
  committed : UInt8
  deriving DecidableEq

/-- The bytes that the CRC of a header covers. -/
def SpoolHeader.covered (h : SpoolHeader) : List UInt8 :=
  le32 h.magic ++ (le16 h.version ++ (le16 h.slots ++ (le32 h.recordSize ++ le32 h.sequenceFloor)))

/-- The bytes of a header; the reserved ones stay erased. -/
def SpoolHeader.bytes (h : SpoolHeader) : List UInt8 :=
  h.covered ++ (le32 h.headerCrc ++ [h.committed, 0xff, 0xff, 0xff])

/-- The header that some bytes hold. -/
def SpoolHeader.ofBytes (l : List UInt8) : SpoolHeader :=
  { magic := get32 l 0, version := get16 l 4, slots := get16 l 6, recordSize := get32 l 8
    sequenceFloor := get32 l 12, headerCrc := get32 l 16, committed := get8 l 20 }

/-- `spool_record_t`. -/
structure SpoolRecord where
  magic : UInt32
  version : UInt16
  length : UInt16
  sequence : UInt32
  dataCrc : UInt32
  priority : UInt8
  eventType : UInt8
  reserved : UInt16
  headerCrc : UInt32
  state : UInt8
  retryBits : UInt8
  reservedAfterState : UInt16
  deriving DecidableEq

/-- The bytes that the CRC of a record header covers. -/
def SpoolRecord.covered (r : SpoolRecord) : List UInt8 :=
  le32 r.magic ++ (le16 r.version ++ (le16 r.length ++ (le32 r.sequence ++ (le32 r.dataCrc ++
    ([r.priority, r.eventType] ++ le16 r.reserved)))))

/-- The bytes of a record header. -/
def SpoolRecord.bytes (r : SpoolRecord) : List UInt8 :=
  r.covered ++ (le32 r.headerCrc ++ ([r.state, r.retryBits] ++ le16 r.reservedAfterState))

/-- The record header that some bytes hold. -/
def SpoolRecord.ofBytes (l : List UInt8) : SpoolRecord :=
  { magic := get32 l 0, version := get16 l 4, length := get16 l 6, sequence := get32 l 8
    dataCrc := get32 l 12, priority := get8 l 16, eventType := get8 l 17, reserved := get16 l 18
    headerCrc := get32 l 20, state := get8 l 24, retryBits := get8 l 25
    reservedAfterState := get16 l 26 }

/-- The place of the state in a record header. -/
def stateOffset : ℕ := 24

/-- The place of the retry marks in a record header. -/
def retryOffset : ℕ := 25

/-- The place of the commit marker in the spool header. -/
def committedOffset : ℕ := 20

/-! ### Sizes -/

section Sizes

variable (bd : Build)

/-- `record_size`. -/
def recordSize : ℕ := recordHeaderSize + bd.maxEventSize

/-- `slot_offset`. -/
def slotOffset (index : ℕ) : ℕ := headerSize + index * recordSize bd

/-- `raw_storage_size`; zero stands for an overflow. -/
def rawStorageSize (sizeMax : ℕ) : ℕ :=
  let records := recordSize bd * bd.spoolMaxRecords
  if sizeMax / bd.spoolMaxRecords < recordSize bd ∨ sizeMax - records < headerSize then 0
  else headerSize + records

/-- `ls_spool_storage_size`: a multiple of the largest write unit. -/
def lsSpoolStorageSize (sizeMax : ℕ) : ℕ :=
  let size := rawStorageSize bd sizeMax
  let remainder := size % lsStorageMaxWriteSize
  if size = 0 then 0
  else if remainder = 0 then size
  else if sizeMax - (lsStorageMaxWriteSize - remainder) < size then 0
  else size + lsStorageMaxWriteSize - remainder

/-- `usable`, of a registered backend. -/
def usable (b : Backend) : Prop :=
  lsSpoolStorageSize bd b.sizeMax ≠ 0 ∧ b.hasRead ∧ b.hasWrite ∧
    lsSpoolStorageSize bd b.sizeMax ≤ b.capacity

instance (b : Backend) : Decidable (usable bd b) := inferInstanceAs (Decidable (_ ∧ _))

/-! ### Validity -/

/-- `spool_header_crc`. -/
def spoolHeaderCrc (h : SpoolHeader) : UInt32 := lsCrc32 h.covered

/-- `spool_record_crc`. -/
def spoolRecordCrc (r : SpoolRecord) : UInt32 := lsCrc32 r.covered

/-- `header_valid`. -/
def headerValid (h : SpoolHeader) : Bool :=
  h.magic = lsStorageMagic ∧ h.version = spoolVersion ∧ h.slots.toNat = bd.spoolMaxRecords ∧
    h.recordSize.toNat = recordSize bd ∧ h.committed = spoolHeaderCommitted ∧
    h.headerCrc = spoolHeaderCrc h

/-- `record_valid`. -/
def recordValid (r : SpoolRecord) : Bool :=
  r.magic = spoolRecordMagic ∧ r.version = spoolVersion ∧ 0 < r.length.toNat ∧
    r.length.toNat ≤ bd.maxEventSize ∧ r.priority ≤ Priority.diagnostic.code ∧
    EventType.crash.code ≤ r.eventType ∧ r.eventType ≤ EventType.coredump.code ∧
    r.headerCrc = spoolRecordCrc r

/-- `record_is_erased`. -/
def recordIsErased (r : SpoolRecord) : Bool := r.bytes.all (· = 0xff)

/-! ### What the medium holds -/

variable (m : ℕ → UInt8)

/-- The header on the medium. -/
def headerAt : SpoolHeader := .ofBytes (Medium.read m 0 headerSize)

/-- The record header in a slot. -/
def recordAt (slot : ℕ) : SpoolRecord :=
  .ofBytes (Medium.read m (slotOffset bd slot) recordHeaderSize)

/-- The place of the payload in a slot. -/
def payloadOffset (slot : ℕ) : ℕ := slotOffset bd slot + recordHeaderSize

/-- The payload in a slot. -/
def payloadAt (slot : ℕ) : List UInt8 :=
  Medium.read m (payloadOffset bd slot) (recordAt bd m slot).length.toNat

/-- The slot holds a committed record. -/
def committedAt (slot : ℕ) : Prop :=
  recordValid bd (recordAt bd m slot) = true ∧ (recordAt bd m slot).state = spoolRecordCommitted

instance (slot : ℕ) : Decidable (committedAt bd m slot) := inferInstanceAs (Decidable (_ ∧ _))

end Sizes

/-- A stored envelope with the fields of its record. -/
structure Evidence where
  payload : List UInt8
  sequence : UInt32
  priority : UInt8
  deriving DecidableEq

/-- The deliverable evidence of a slot: committed, with a payload that matches its CRC. -/
def deliverable (bd : Build) (m : ℕ → UInt8) (slot : ℕ) : Option Evidence :=
  if committedAt bd m slot ∧ lsCrc32 (payloadAt bd m slot) = (recordAt bd m slot).dataCrc then
    some ⟨payloadAt bd m slot, (recordAt bd m slot).sequence, (recordAt bd m slot).priority⟩
  else none

/-- The intact evidence of a slot: deliverable, with a payload that is an envelope. -/
def intact (bd : Build) (m : ℕ → UInt8) (slot : ℕ) : Option Evidence :=
  (deliverable bd m slot).filter fun e => (lsEnvelopeValidate e.payload).isOk

/-! ### A slot and its bytes -/

section

variable {bd : Build} {m m' : ℕ → UInt8} {i j : ℕ}

/-- Two media agree on the bytes of a slot. -/
def SameSlot (bd : Build) (m m' : ℕ → UInt8) (slot : ℕ) : Prop :=
  ∀ a, slotOffset bd slot ≤ a → a < slotOffset bd slot + recordSize bd → m' a = m a

lemma SameSlot.refl (bd : Build) (m : ℕ → UInt8) (slot : ℕ) : SameSlot bd m m slot :=
  fun _ _ _ => rfl

lemma slotOffset_succ (bd : Build) (i : ℕ) :
    slotOffset bd (i + 1) = slotOffset bd i + recordSize bd := by
  rw [slotOffset, slotOffset, Nat.succ_mul, Nat.add_assoc]

lemma slotOffset_add_le (h : i < j) : slotOffset bd i + recordSize bd ≤ slotOffset bd j := by
  rw [← slotOffset_succ]
  exact Nat.add_le_add_left (Nat.mul_le_mul_right _ h) _

lemma headerSize_le (bd : Build) (i : ℕ) : headerSize ≤ slotOffset bd i := Nat.le_add_right _ _

/-- What changes one slot leaves the others alone. -/
lemma sameSlot_of_agreeOff (h : Medium.AgreeOff m m' (slotOffset bd i) (recordSize bd))
    (hij : j ≠ i) : SameSlot bd m m' j := by
  intro a h1 h2
  refine h a ?_
  rcases Nat.lt_or_gt_of_ne hij with hlt | hlt
  · exact .inl (h2.trans_le (slotOffset_add_le hlt))
  · exact .inr ((slotOffset_add_le hlt).trans h1)

lemma recordAt_congr (h : SameSlot bd m m' i) : recordAt bd m' i = recordAt bd m i := by
  rw [recordAt, recordAt, Medium.read_congr fun a h1 h2 => h a h1 (by
    rw [recordSize]
    omega)]

/-- A slot whose first byte is erased does not have the magic of a record. -/
lemma magic_ne_of_erased (h : m (slotOffset bd i) = 0xff) :
    (recordAt bd m i).magic ≠ spoolRecordMagic := by
  refine get32_ne_of_low (b := 0xff) ?_ (by decide)
  rw [Medium.read_getElem? (by decide), Nat.add_zero, h]

lemma invalid_of_erased (h : m (slotOffset bd i) = 0xff) :
    recordValid bd (recordAt bd m i) = false := by
  have hmagic := magic_ne_of_erased h
  simp only [recordValid, decide_eq_false_iff_not]
  exact fun hv => hmagic hv.1

/-- The length of a valid record fits the slot. -/
lemma length_le_of_valid {r : SpoolRecord} (h : recordValid bd r = true) :
    r.length.toNat ≤ bd.maxEventSize := by
  simp only [recordValid, decide_eq_true_eq] at h
  exact h.2.2.2.1

lemma payloadAt_congr (h : SameSlot bd m m' i) (hv : recordValid bd (recordAt bd m i) = true) :
    payloadAt bd m' i = payloadAt bd m i := by
  rw [payloadAt, payloadAt, recordAt_congr h]
  have hlen := length_le_of_valid hv
  exact Medium.read_congr fun a h1 h2 => h a (by rw [payloadOffset] at h1; omega) (by
    rw [payloadOffset] at h2
    rw [recordSize]
    omega)

lemma committedAt_congr (h : SameSlot bd m m' i) : committedAt bd m' i ↔ committedAt bd m i := by
  rw [committedAt, committedAt, recordAt_congr h]

lemma deliverable_eq_some_iff {e : Evidence} :
    deliverable bd m i = some e ↔ committedAt bd m i ∧
      lsCrc32 (payloadAt bd m i) = (recordAt bd m i).dataCrc ∧
      e = ⟨payloadAt bd m i, (recordAt bd m i).sequence, (recordAt bd m i).priority⟩ := by
  rw [deliverable]
  split_ifs with h
  · simp [h.1, h.2, eq_comm]
  · exact ⟨nofun, fun h' => absurd ⟨h'.1, h'.2.1⟩ h⟩

lemma intact_eq_some_iff {e : Evidence} :
    intact bd m i = some e ↔
      deliverable bd m i = some e ∧ ∃ info, lsEnvelopeValidate e.payload = .ok info := by
  have hok : (lsEnvelopeValidate e.payload).isOk = true ↔
      ∃ info, lsEnvelopeValidate e.payload = .ok info := by
    cases lsEnvelopeValidate e.payload <;> simp [Except.isOk, Except.toBool]
  rw [intact, Option.filter_eq_some_iff, hok]

/-- A slot delivers what its bytes hold. -/
lemma deliverable_congr (h : SameSlot bd m m' i) : deliverable bd m' i = deliverable bd m i := by
  refine Option.ext fun e => ?_
  rw [deliverable_eq_some_iff, deliverable_eq_some_iff, committedAt_congr h, recordAt_congr h]
  refine and_congr_right fun hc => ?_
  rw [payloadAt_congr h hc.1]

lemma intact_congr (h : SameSlot bd m m' i) : intact bd m' i = intact bd m i := by
  rw [intact, intact, deliverable_congr h]

/-! ### The marks behind the CRC -/

/-- The state and the retry marks are bytes of their own. -/
lemma recordAt_write_mark {k : ℕ} (hk : k = stateOffset ∨ k = retryOffset) (v : UInt8) :
    recordAt bd (Medium.write m (slotOffset bd i + k) [v]) i
      = { recordAt bd m i with
          state := if k = stateOffset then v else (recordAt bd m i).state
          retryBits := if k = retryOffset then v else (recordAt bd m i).retryBits } := by
  have hother : ∀ off w, off + w ≤ k ∨ k + 1 ≤ off →
      Medium.read (Medium.write m (slotOffset bd i + k) [v]) (slotOffset bd i + off) w
        = Medium.read m (slotOffset bd i + off) w := fun off w h =>
    (Medium.agreeOff_write m (slotOffset bd i + k) [v]).read_eq (by
      rw [List.length_singleton]
      omega)
  have hself : UInt8.ofNat (num (Medium.read (Medium.write m (slotOffset bd i + k) [v])
      (slotOffset bd i + k) 1)) = v := by
    have h := Medium.read_write_same m (slotOffset bd i + k) [v]
    rw [List.length_singleton] at h
    rw [h]
    simp [num]
  simp only [recordAt, SpoolRecord.ofBytes, recordHeaderSize]
  rcases hk with rfl | rfl
  · simp only [stateOffset, retryOffset] at hother hself ⊢
    simp (disch := omega) only [get8_read, get16_read, get32_read, hother, hself]
    simp
  · simp only [stateOffset, retryOffset] at hother hself ⊢
    simp (disch := omega) only [get8_read, get16_read, get32_read, hother, hself]
    simp

lemma recordValid_marks (r : SpoolRecord) (state retryBits : UInt8) :
    recordValid bd { r with state := state, retryBits := retryBits } = recordValid bd r := rfl

end

end Latch.Spool
