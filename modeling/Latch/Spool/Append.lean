
/-
Append under faults and cuts of the power.

A record is stored in three programs: its header with an erased state, its payload, and
last the one byte of the state. `storeRecord_spec` follows them: at every exit the slot
holds the whole committed record, or its state is still erased, and no other slot has
changed. `append_atomic` is what this means for a reader after the next initialisation.
-/
import Latch.Lib.Outbox
import Latch.Spool.Init

namespace Latch.Spool

open Bytes Exec

variable {bd : Build} {b : Backend}

/-! ### Erased and torn record headers -/

/-- The record header of a slot is erased. -/
def ErasedHeader (bd : Build) (m : ℕ → UInt8) (slot : ℕ) : Prop :=
  ∀ a, slotOffset bd slot ≤ a → a < slotOffset bd slot + recordHeaderSize → m a = 0xff

/-- A byte of a record header, as the medium holds it. -/
lemma get8_header (m : ℕ → UInt8) (base : ℕ) {k : ℕ} (hk : k < recordHeaderSize) :
    get8 (Medium.read m base recordHeaderSize) k = m (base + k) := by
  rw [get8_read m base hk]
  simp [Medium.read, num]

lemma SpoolRecord.bytes_length (r : SpoolRecord) : r.bytes.length = recordHeaderSize := by
  simp [SpoolRecord.bytes, SpoolRecord.covered, recordHeaderSize]

lemma SpoolRecord.ofBytes_bytes (r : SpoolRecord) : SpoolRecord.ofBytes r.bytes = r := by
  simp [SpoolRecord.ofBytes, SpoolRecord.bytes, SpoolRecord.covered, get32_append_right,
    get16_append_right, get8_append_right, get8_cons_succ, get16_cons_succ, get32_cons_succ]

/-- A torn header has an erased state, and is valid only if its sequence number and its
priority are complete: the event type stands behind them, and no event type is an erased
byte. -/
lemma torn_header {m : ℕ → UInt8} {slot : ℕ} (he : ErasedHeader bd m slot) (r : SpoolRecord)
    (hr : r.state = 0xff) (k : ℕ) :
    let m' := Medium.write m (slotOffset bd slot) (r.bytes.take k)
    (recordAt bd m' slot).state = 0xff ∧
      (recordValid bd (recordAt bd m' slot) = true →
        (recordAt bd m' slot).sequence = r.sequence ∧
          (recordAt bd m' slot).priority = r.priority) := by
  intro m'
  have hlen := r.bytes_length
  have hwritten : ∀ {off w}, off + w ≤ k → off + w ≤ recordHeaderSize →
      field (Medium.read m' (slotOffset bd slot) recordHeaderSize) off w = field r.bytes off w :=
    fun h1 h2 => field_torn m _ r.bytes h1 (hlen ▸ h2) h2
  have herased : ∀ {off}, k ≤ off → off < recordHeaderSize →
      get8 (Medium.read m' (slotOffset bd slot) recordHeaderSize) off = 0xff := by
    intro off h1 h2
    have htake : (r.bytes.take k).length ≤ k := List.length_take_le _ _
    rw [get8_header m' _ h2, show m' (slotOffset bd slot + off) = m (slotOffset bd slot + off) from
      Medium.write_of_ge (by omega)]
    exact he _ (by omega) (by omega)
  have hbytes := r.ofBytes_bytes
  constructor
  · by_cases h : 25 ≤ k
    · have hstate := congrArg SpoolRecord.state hbytes
      rw [hr] at hstate
      rw [← hstate]
      exact congrArg UInt8.ofNat (@hwritten 24 1 h (by decide))
    · exact herased (by omega) (by decide)
  · intro hv
    by_cases h : 18 ≤ k
    · have hseq := congrArg SpoolRecord.sequence hbytes
      have hprio := congrArg SpoolRecord.priority hbytes
      rw [← hseq, ← hprio]
      exact ⟨congrArg UInt32.ofNat (@hwritten 8 4 (by omega) (by decide)),
        congrArg UInt8.ofNat (@hwritten 16 1 (by omega) (by decide))⟩
    · have htype : (recordAt bd m' slot).eventType = 0xff := herased (by omega) (by decide)
      simp only [recordValid, htype, decide_eq_true_eq] at hv
      exact absurd hv.2.2.2.2.2.2.1 (by decide)

lemma not_erasedHeader_of_magic {m : ℕ → UInt8} {slot : ℕ}
    (h : (recordAt bd m slot).magic = spoolRecordMagic) : ¬ ErasedHeader bd m slot :=
  fun he => magic_ne_of_erased (he _ le_rfl (Nat.lt_add_of_pos_right (by decide))) h

/-! ### Storing a record -/

/-- The slot holds the record, committed, with its payload. -/
def Stored (bd : Build) (m : ℕ → UInt8) (slot : ℕ) (r : SpoolRecord) (data : List UInt8) : Prop :=
  recordAt bd m slot = { r with state := spoolRecordCommitted } ∧
    Medium.read m (payloadOffset bd slot) data.length = data

/-- The slot, erased before, holds at most a part of the record: its state is still erased;
if its header is, then nothing was written; and no byte behind its header was written
unless the header is whole. -/
structure Unfinished (bd : Build) (m m' : ℕ → UInt8) (slot : ℕ) (r : SpoolRecord) : Prop where
  state : (recordAt bd m' slot).state = 0xff
  fields : recordValid bd (recordAt bd m' slot) = true →
    (recordAt bd m' slot).sequence = r.sequence ∧ (recordAt bd m' slot).priority = r.priority
  erased : ErasedHeader bd m' slot → m' = m
  payload : recordAt bd m' slot = r ∨ ∀ a, payloadOffset bd slot ≤ a → m' a = m a

/-- A record header before its payload and its state. -/
def SpoolRecord.Open (r : SpoolRecord) : Prop := r.magic = spoolRecordMagic ∧ r.state = 0xff

lemma unfinished_of_recordAt {m m' : ℕ → UInt8} {slot : ℕ} {r : SpoolRecord} (hr : r.Open)
    (h : recordAt bd m' slot = r) : Unfinished bd m m' slot r :=
  ⟨h ▸ hr.2, fun _ => h ▸ ⟨rfl, rfl⟩,
    fun he => absurd he (not_erasedHeader_of_magic (h ▸ hr.1)), .inl h⟩

lemma unfinished_of_torn {m : ℕ → UInt8} {slot : ℕ} (he : ErasedHeader bd m slot)
    {r : SpoolRecord} (hr : r.Open) (k : ℕ) :
    Unfinished bd m (Medium.write m (slotOffset bd slot) (r.bytes.take k)) slot r := by
  have h := torn_header he r hr.2 k
  refine ⟨h.1, h.2, fun he' => ?_, .inr fun a ha => Medium.write_of_ge (by
    have := (List.length_take_le' k r.bytes).trans_eq r.bytes_length
    rw [payloadOffset] at ha
    omega)⟩
  cases k with
  | zero => rw [List.take_zero, Medium.write_nil]
  | succ k =>
      -- the first byte is that of the magic
      have hfirst : r.bytes[0]? = some 0x45 := by
        rw [SpoolRecord.bytes, SpoolRecord.covered, hr.1]
        rfl
      have hwritten : (r.bytes.take (k + 1))[0]? = some 0x45 := by
        rw [List.getElem?_take_of_lt (Nat.succ_pos k), hfirst]
      have hbyte := he' _ le_rfl (Nat.lt_add_of_pos_right (by decide))
      rw [← Nat.add_zero (slotOffset bd slot), Medium.write_at hwritten] at hbyte
      exact absurd hbyte (by decide)

/-- An erased header is one of which nothing was written. -/
lemma unfinished_of_erased {m : ℕ → UInt8} {slot : ℕ} (he : ErasedHeader bd m slot)
    {r : SpoolRecord} (hr : r.Open) : Unfinished bd m m slot r := by
  have h := unfinished_of_torn he hr 0
  rwa [List.take_zero, Medium.write_nil] at h

/-- The device went on and changed its bytes in one slot at most. -/
structure Touches (bd : Build) (slot : ℕ) (d d' : Device) : Prop extends d.Later d' where
  agree : Medium.AgreeOff d.medium d'.medium (slotOffset bd slot) (recordSize bd)

lemma Touches.trans {slot : ℕ} {d₁ d₂ d₃ : Device} (h : Touches bd slot d₁ d₂)
    (h' : Touches bd slot d₂ d₃) : Touches bd slot d₁ d₃ :=
  ⟨.trans _ _ _ h.toLater h'.toLater, h.agree.trans h'.agree⟩

lemma touches_of_looked {slot : ℕ} {d d' : Device} (h : d.Looked d') : Touches bd slot d d' :=
  ⟨h.toLater, by rw [h.medium]; exact .refl _ _ _⟩

/-- A write inside a slot touches that slot. -/
lemma touches_write {slot k : ℕ} {data : List UInt8} (hk : k + data.length ≤ recordSize bd)
    {d d' : Device} (hl : d.Later d')
    (hm : d'.medium = Medium.write d.medium (slotOffset bd slot + k) data) :
    Touches bd slot d d' :=
  ⟨hl, by rw [hm]; exact (Medium.agreeOff_write _ _ _).widen (by omega) (by omega)⟩

section Stages

variable {slot : ℕ} {r : SpoolRecord} {data : List UInt8}

/-- The first program: the header. -/
lemma programHeader_spec (hr : r.Open) (d : Device) (he : ErasedHeader bd d.medium slot) :
    Sat (lsStorageProgram b (slotOffset bd slot) r.bytes) d
      (fun _ d' => Touches bd slot d d' ∧ recordAt bd d'.medium slot = r)
      (fun _ d' => Touches bd slot d d' ∧ Unfinished bd d.medium d'.medium slot r) := by
  have hsize : recordHeaderSize ≤ recordSize bd := Nat.le_add_right _ _
  have hbytes := r.bytes_length
  refine (program_spec b _ r.bytes d).mono (fun _ d' h => ?_) (fun _ d' h => ?_)
  · obtain ⟨hl, hm⟩ := h
    refine ⟨touches_write (k := 0) (by omega) hl hm, ?_⟩
    rw [recordAt, hm, ← hbytes, Medium.read_write_same, SpoolRecord.ofBytes_bytes]
  · obtain ⟨hl, k, hm⟩ := h
    refine ⟨touches_write (k := 0) (by rw [List.length_take]; omega) hl hm, ?_⟩
    rw [hm]
    exact unfinished_of_torn he hr k

/-- The second program: the payload. -/
lemma programPayload_spec (hlen : data.length ≤ bd.maxEventSize) (d : Device)
    (hrec : recordAt bd d.medium slot = r) :
    Sat (lsStorageProgram b (payloadOffset bd slot) data) d
      (fun _ d' => Touches bd slot d d' ∧ recordAt bd d'.medium slot = r ∧
        Medium.read d'.medium (payloadOffset bd slot) data.length = data)
      (fun _ d' => Touches bd slot d d' ∧ recordAt bd d'.medium slot = r) := by
  have hsize : recordSize bd = recordHeaderSize + bd.maxEventSize := rfl
  have hheader : ∀ bytes : List UInt8, recordAt bd
      (Medium.write d.medium (payloadOffset bd slot) bytes) slot = r := by
    intro bytes
    rw [← hrec, recordAt, recordAt,
      (Medium.agreeOff_write d.medium (payloadOffset bd slot) bytes).read_eq (.inl le_rfl)]
  refine (program_spec b _ data d).mono (fun _ d' h => ?_) (fun _ d' h => ?_)
  · obtain ⟨hl, hm⟩ := h
    refine ⟨touches_write (k := recordHeaderSize) (by omega) hl hm, hm ▸ hheader data, ?_⟩
    rw [hm, Medium.read_write_same]
  · obtain ⟨hl, k, hm⟩ := h
    exact ⟨touches_write (k := recordHeaderSize) (by rw [List.length_take]; omega) hl hm,
      hm ▸ hheader _⟩

/-- The last program: the state. -/
lemma programState_spec (d : Device) (hrec : recordAt bd d.medium slot = r)
    (hpay : Medium.read d.medium (payloadOffset bd slot) data.length = data) :
    Sat (lsStorageProgram b (slotOffset bd slot + stateOffset) [spoolRecordCommitted]) d
      (fun _ d' => Touches bd slot d d' ∧ Stored bd d'.medium slot r data)
      (fun _ d' => Touches bd slot d d' ∧
        (Stored bd d'.medium slot r data ∨ recordAt bd d'.medium slot = r)) := by
  have hsize : stateOffset + 1 ≤ recordSize bd := Nat.le_trans (by decide) (Nat.le_add_right _ _)
  have hstored : Stored bd (Medium.write d.medium (slotOffset bd slot + stateOffset)
      [spoolRecordCommitted]) slot r data := by
    constructor
    · rw [recordAt_write_mark (.inl rfl), hrec]
      rfl
    · rw [(Medium.agreeOff_write _ _ _).read_eq (.inr ?_), hpay]
      simp only [List.length_singleton, payloadOffset, stateOffset, recordHeaderSize]
      omega
  refine (program_byte b _ _ d).mono (fun _ d' h => ?_) (fun _ d' h => ?_)
  · exact ⟨touches_write hsize h.1 h.2, h.2 ▸ hstored⟩
  · obtain ⟨hl, hm | hm⟩ := h
    · refine ⟨⟨hl, by rw [hm]; exact .refl _ _ _⟩, .inr (by rw [hm, hrec])⟩
    · exact ⟨touches_write hsize hl hm, .inl (hm ▸ hstored)⟩

/-- Every exit of the storing of a record: the whole record is there, or its state is still
erased; the other slots and the header of the spool are as before. -/
lemma storeRecord_spec (hr : r.Open) (hlen : data.length ≤ bd.maxEventSize) (d : Device)
    (he : ErasedHeader bd d.medium slot) :
    Sat (storeRecord bd b slot r data) d
      (fun _ d' => Touches bd slot d d' ∧ Stored bd d'.medium slot r data)
      (fun _ d' => Touches bd slot d d' ∧
        (Stored bd d'.medium slot r data ∨ Unfinished bd d.medium d'.medium slot r)) := by
  have hunf : ∀ {m}, recordAt bd m slot = r → Unfinished bd d.medium m slot r :=
    unfinished_of_recordAt hr
  rw [storeRecord]
  refine ((hit_looked _).sat d).bind (fun _ d₀ h₀ => ?_) (fun _ d₀ h₀ =>
    ⟨touches_of_looked h₀, .inr (h₀.medium ▸ unfinished_of_erased he hr)⟩)
  refine (programHeader_spec hr d₀ (h₀.medium ▸ he)).bind (fun _ d₁ h₁ => ?_)
    (fun _ d₁ h₁ => ⟨(touches_of_looked h₀).trans h₁.1, .inr (h₀.medium ▸ h₁.2)⟩)
  have t₁ := (touches_of_looked h₀).trans h₁.1
  refine ((hit_looked _).sat d₁).bind (fun _ d₂ h₂ => ?_) (fun _ d₂ h₂ =>
    ⟨t₁.trans (touches_of_looked h₂), .inr (hunf (h₂.medium ▸ h₁.2))⟩)
  refine (programPayload_spec hlen d₂ (h₂.medium ▸ h₁.2)).bind (fun _ d₃ h₃ => ?_) (fun _ d₃ h₃ =>
    ⟨(t₁.trans (touches_of_looked h₂)).trans h₃.1, .inr (hunf h₃.2)⟩)
  have t₃ := (t₁.trans (touches_of_looked h₂)).trans h₃.1
  refine ((sync_looked b).sat d₃).bind (fun _ d₄ h₄ => ?_) (fun _ d₄ h₄ =>
    ⟨t₃.trans (touches_of_looked h₄), .inr (hunf (h₄.medium ▸ h₃.2.1))⟩)
  refine ((hit_looked _).sat d₄).bind (fun _ d₅ h₅ => ?_) (fun _ d₅ h₅ =>
    ⟨(t₃.trans (touches_of_looked h₄)).trans (touches_of_looked h₅),
      .inr (hunf (h₅.medium ▸ h₄.medium ▸ h₃.2.1))⟩)
  have t₅ := (t₃.trans (touches_of_looked h₄)).trans (touches_of_looked h₅)
  have hm₅ : d₅.medium = d₃.medium := h₅.medium.trans h₄.medium
  rw [sat_bind]
  refine (programState_spec d₅ (by rw [hm₅]; exact h₃.2.1) (by rw [hm₅]; exact h₃.2.2)).mono
    (fun _ d₆ h₆ => ?_) (fun _ d₆ h₆ => ⟨t₅.trans h₆.1, h₆.2.imp id hunf⟩)
  exact ((sync_looked b).sat d₆).mono
    (fun _ d₇ h₇ => ⟨(t₅.trans h₆.1).trans (touches_of_looked h₇), h₇.medium ▸ h₆.2⟩)
    (fun _ d₇ h₇ => ⟨(t₅.trans h₆.1).trans (touches_of_looked h₇), .inl (h₇.medium ▸ h₆.2)⟩)

end Stages

/-! ### Append -/

/-- `find_empty_slot` returns a slot below the limit whose record header is erased, and reports
that there is no room only where none is. -/
lemma findEmptySlotFrom_spec (n slot : ℕ) (d : Device) :
    Sat (findEmptySlotFrom bd b n slot) d
      (fun i d' => d.Looked d' ∧ i < slot + n ∧ ErasedHeader bd d.medium i)
      (fun e d' => d.Looked d' ∧ (d'.AnsweredRead e ∨
        (e = .fail .einval ∧ ∃ i < slot + n,
          ¬ storageBounds b (slotOffset bd i) recordHeaderSize) ∨
        e = .fail .enospace ∧ ∀ i, slot ≤ i → i < slot + n → ¬ ErasedHeader bd d.medium i)) := by
  induction n generalizing slot d with
  | zero =>
      rw [findEmptySlotFrom, sat_throw]
      exact ⟨.refl d, .inr (.inr ⟨rfl, fun i h1 h2 => by omega⟩)⟩
  | succ n ih =>
      rw [findEmptySlotFrom]
      refine (isErased_spec b _ _ d).bind (fun erased d₁ h₁ => ?_) (fun e d₁ h₁ => ?_)
      swap
      · obtain ⟨hl, ⟨hout, rfl⟩ | hans⟩ := h₁
        · exact ⟨hl, .inr (.inl ⟨rfl, slot, by omega, hout⟩)⟩
        · exact ⟨hl, .inl hans⟩
      obtain ⟨hl₁, herased⟩ := h₁
      refine .ite (fun he => .pure ⟨hl₁, by omega, herased.mp he⟩) fun hne => ?_
      rw [herased] at hne
      refine (ih (slot + 1) d₁).mono (fun i d₂ h₂ => ?_) (fun _ _ h₂ => ?_)
      · exact ⟨.trans _ _ _ hl₁ h₂.1, by omega, hl₁.medium ▸ h₂.2.2⟩
      · obtain ⟨hl₂, hans | ⟨he, i, hi, hout⟩ | ⟨he, hall⟩⟩ := h₂
        · exact ⟨.trans _ _ _ hl₁ hl₂, .inl hans⟩
        · exact ⟨.trans _ _ _ hl₁ hl₂, .inr (.inl ⟨he, i, by omega, hout⟩)⟩
        · refine ⟨.trans _ _ _ hl₁ hl₂, .inr (.inr ⟨he, fun i h1 h2 => ?_⟩)⟩
          rcases Nat.eq_or_lt_of_le h1 with rfl | hlt
          · exact hne
          · exact hl₁.medium ▸ hall i hlt (by omega)

lemma slotLimit_le (bd : Build) (priority : Priority) :
    slotLimitForPriority bd priority ≤ bd.spoolMaxRecords := by
  cases priority <;> simp [slotLimitForPriority]

/-- An append changes the node in the statistics of the spool only. -/
structure Node.Counted (n n' : Node) : Prop where
  transport : n'.transport = n.transport
  accepted : n'.accepted = n.accepted
  runtime : ∃ watermark dropped, n'.runtime =
    { n.runtime with spoolHighWatermark := watermark, spoolDroppedRecords := dropped }

lemma Node.Counted.refl (n : Node) : n.Counted n := ⟨rfl, rfl, _, _, rfl⟩

lemma findSlot_spec (priority : Priority) (s : System Node) :
    Sat (findSlot bd b priority) s
      (fun slot s' => s.dev.Looked s'.dev ∧ s'.ram = s.ram ∧
        slot < slotLimitForPriority bd priority ∧ ErasedHeader bd s.dev.medium slot)
      (fun _ s' => s.dev.Looked s'.dev ∧ s.ram.Counted s'.ram) := by
  have h : Sat (onDevice (findEmptySlot bd b priority)) s
      (fun slot s' => s.dev.Looked s'.dev ∧ s'.ram = s.ram ∧
        slot < slotLimitForPriority bd priority ∧ ErasedHeader bd s.dev.medium slot)
      (fun _ s' => s.dev.Looked s'.dev ∧ s'.ram = s.ram) := by
    rw [sat_onDevice]
    refine (findEmptySlotFrom_spec _ 0 s.dev).mono (fun i d' h => ?_) (fun _ d' h => ⟨h.1, rfl⟩)
    exact ⟨h.1, rfl, by omega, h.2.2⟩
  unfold Sat at h ⊢
  unfold findSlot
  cases hx : onDevice (findEmptySlot bd b priority) s with
  | ok slot s' =>
      rw [hx] at h
      exact h
  | error e s' =>
      rw [hx] at h
      obtain ⟨hl, hr⟩ := h
      have hcounted : s.ram.Counted s'.ram := hr ▸ .refl _
      cases e with
      | cut => exact ⟨hl, hcounted⟩
      | fail e =>
          cases e with
          | enospace => exact ⟨hl, hcounted.transport, hcounted.accepted, _, _, by rw [hr]⟩
          | _ => exact ⟨hl, hcounted⟩

lemma countCommitted_looked (n slot committed : ℕ) :
    Keeps Device.Looked (countCommittedFrom bd b n slot committed) := by
  induction n generalizing slot committed with
  | zero => exact keeps_pure Device.Looked.refl committed
  | succ n ih =>
      have hread : Keeps Device.Looked (readRecord bd b slot) :=
        ⟨fun d => (readRecord_spec slot d).mono (fun _ _ h => h.2) (fun _ _ h => h)⟩
      refine hread.attempt.bind Device.Looked.trans fun r => ?_
      cases r with
      | error e => exact keeps_pure Device.Looked.refl committed
      | ok record => exact ih _ _

/-- What an append leaves of a new record: nothing was stored, or one slot below the limit
with an erased header holds the record or a part of it. -/
def Attempted (bd : Build) (limit : ℕ) (d d' : Device) (r : SpoolRecord) (data : List UInt8) :
    Prop :=
  d.Looked d' ∨ ∃ slot < limit, ErasedHeader bd d.medium slot ∧ Touches bd slot d d' ∧
    (Stored bd d'.medium slot r data ∨ Unfinished bd d.medium d'.medium slot r)

/-- What an append that succeeds leaves of a new record: one slot below the limit with an
erased header holds it. -/
def Placed (bd : Build) (limit : ℕ) (d d' : Device) (r : SpoolRecord) (data : List UInt8) : Prop :=
  ∃ slot < limit, ErasedHeader bd d.medium slot ∧ Touches bd slot d d' ∧
    Stored bd d'.medium slot r data

section Append

variable {limit : ℕ} {d d' : Device} {r : SpoolRecord} {data : List UInt8}

lemma Placed.attempted (h : Placed bd limit d d' r data) : Attempted bd limit d d' r data := by
  obtain ⟨slot, hlt, he, ht, hs⟩ := h
  exact .inr ⟨slot, hlt, he, ht, .inl hs⟩

lemma Attempted.later (h : Attempted bd limit d d' r data) : d.Later d' := by
  obtain h | ⟨slot, -, -, ht, -⟩ := h
  · exact h.toLater
  · exact ht.toLater

lemma spoolAppend_spec (s : System Node) (hlen : data.length ≤ bd.maxEventSize)
    (priority : Priority) (info : EnvelopeInfo) :
    Sat (spoolAppend bd b data priority info) s
      (fun _ s' => Placed bd (slotLimitForPriority bd priority) s.dev s'.dev
        (newRecord data priority info) data ∧ s.ram.Counted s'.ram)
      (fun _ s' => Attempted bd (slotLimitForPriority bd priority) s.dev s'.dev
        (newRecord data priority info) data ∧ s.ram.Counted s'.ram) := by
  rw [spoolAppend]
  refine (findSlot_spec priority s).bind (fun slot s₁ h₁ => ?_)
    (fun _ s₁ h₁ => ⟨.inl h₁.1, h₁.2⟩)
  obtain ⟨h₁, hr₁, hlt, he⟩ := h₁
  have t₁ : Touches bd slot s.dev s₁.dev := touches_of_looked h₁
  rw [sat_bind, sat_onDevice]
  refine (storeRecord_spec ⟨rfl, rfl⟩ hlen s₁.dev (h₁.medium ▸ he)).mono (fun _ d₂ h₂ => ?_)
    (fun _ d₂ h₂ => ⟨.inr ⟨slot, hlt, he, t₁.trans h₂.1, h₁.medium ▸ h₂.2⟩, hr₁ ▸ .refl _⟩)
  obtain ⟨t₂, hstored⟩ := h₂
  rw [sat_bind, sat_onDevice]
  have hplaced : ∀ {d₃ : Device}, d₂.Looked d₃ → Placed bd (slotLimitForPriority bd priority)
      s.dev d₃ (newRecord data priority info) data := fun h₃ =>
    ⟨slot, hlt, he, (t₁.trans t₂).trans (touches_of_looked h₃), h₃.medium ▸ hstored⟩
  refine ((countCommitted_looked _ _ _).sat d₂).mono (fun committed d₃ h₃ => ?_)
    (fun _ d₃ h₃ => ⟨(hplaced h₃).attempted, hr₁ ▸ .refl _⟩)
  rw [modifyRuntime, sat_modifyRam, hr₁]
  exact ⟨hplaced h₃, rfl, rfl, _, _, rfl⟩

/-- An append to a usable backend: what it refuses changes nothing. -/
lemma lsSpoolAppend_spec (hu : usable bd b) (s : System Node) (data : List UInt8)
    (priority : Priority) :
    Sat (lsSpoolAppend bd (some b) data priority) s
      (fun _ s' => ∃ info, lsEnvelopeValidate data = .ok info ∧ 0 < data.length ∧
        data.length ≤ bd.maxEventSize ∧ Placed bd (slotLimitForPriority bd priority) s.dev s'.dev
          (newRecord data priority info) data ∧
        s'.ram.accepted = (data, priority) :: s.ram.accepted ∧
        s.ram.Counted { s'.ram with accepted := s.ram.accepted })
      (fun _ s' => s.ram.Counted s'.ram ∧ (s.dev.Looked s'.dev ∨
        ∃ info, lsEnvelopeValidate data = .ok info ∧ 0 < data.length ∧
          data.length ≤ bd.maxEventSize ∧ Attempted bd (slotLimitForPriority bd priority) s.dev
            s'.dev (newRecord data priority info) data)) := by
  rw [lsSpoolAppend]
  refine .ite (fun _ => .throw ⟨.refl _, .inl (.refl _)⟩) fun hlen => ?_
  rw [not_or, not_lt] at hlen
  have hpos : 0 < data.length := Nat.pos_of_ne_zero hlen.1
  rw [sat_bind, onStorage, if_pos hu]
  cases hv : lsEnvelopeValidate data with
  | error e => exact .throw ⟨.refl _, .inl (.refl _)⟩
  | ok info =>
      refine (spoolAppend_spec s hlen.2 priority info).mono (fun _ s₁ h₁ => ?_)
        (fun _ s₁ h₁ => ⟨h₁.2, .inr ⟨info, rfl, hpos, hlen.2, h₁.1⟩⟩)
      rw [sat_modifyRam]
      obtain ⟨hplaced, hcounted⟩ := h₁
      exact ⟨info, rfl, hpos, hlen.2, hplaced, by rw [hcounted.accepted],
        hcounted.transport, rfl, hcounted.runtime⟩

end Append

/-! ### What a reader finds -/

/-- What is deliverable, in the order of the slots. -/
def deliverables (bd : Build) (m : ℕ → UInt8) : List Evidence :=
  Outbox.items bd.spoolMaxRecords (deliverable bd m)

section

variable {m m' : ℕ → UInt8} {slot : ℕ} {data : List UInt8} {priority : Priority}
  {info : EnvelopeInfo}

variable {d d' : Device} {limit : ℕ}

lemma deliverable_of_state (h : (recordAt bd m slot).state = 0xff) :
    deliverable bd m slot = none := by
  rw [deliverable, if_neg]
  rintro ⟨⟨-, hc⟩, -⟩
  rw [h] at hc
  exact absurd hc (by decide)

lemma deliverable_of_erased (h : ErasedHeader bd m slot) : deliverable bd m slot = none :=
  deliverable_of_state ((get8_header m _ (by decide)).trans (h _ (Nat.le_add_right _ _)
    (Nat.add_lt_add_left (by decide) _)))

/-- The record of an envelope with a known event type is valid. -/
lemma recordValid_newRecord (hpos : 0 < data.length) (hlen : data.length ≤ bd.maxEventSize)
    (htype : EventType.crash.code ≤ info.type ∧ info.type ≤ EventType.coredump.code) :
    recordValid bd (newRecord data priority info) = true := by
  have hl : (UInt16.ofNat data.length).toNat = data.length := by
    rw [UInt16.toNat_ofNat', Nat.mod_eq_of_lt (hlen.trans_lt bd.maxEventSize_lt)]
  have hp : priority.code ≤ Priority.diagnostic.code := by cases priority <;> decide
  simp only [recordValid, decide_eq_true_eq]
  exact ⟨rfl, rfl, by rw [newRecord, hl]; exact hpos, by rw [newRecord, hl]; exact hlen, hp,
    htype.1, htype.2, rfl⟩

/-- A stored record delivers the bytes that were appended. -/
lemma deliverable_stored (hs : Stored bd m slot (newRecord data priority info) data)
    (hpos : 0 < data.length) (hlen : data.length ≤ bd.maxEventSize)
    (htype : EventType.crash.code ≤ info.type ∧ info.type ≤ EventType.coredump.code) :
    deliverable bd m slot = some ⟨data, info.sequence, priority.code⟩ := by
  obtain ⟨hrec, hpay⟩ := hs
  have hl : (recordAt bd m slot).length.toNat = data.length := by
    rw [hrec]
    exact (UInt16.toNat_ofNat' ..).trans (Nat.mod_eq_of_lt (hlen.trans_lt bd.maxEventSize_lt))
  have hdata : payloadAt bd m slot = data := by rw [payloadAt, hl, hpay]
  rw [deliverable_eq_some_iff, hdata, committedAt, hrec]
  exact ⟨⟨recordValid_newRecord hpos hlen htype, rfl⟩, rfl, rfl⟩

lemma headerAt_of_touches (h : Touches bd slot d d') :
    headerAt d'.medium = headerAt d.medium := by
  rw [headerAt, headerAt, h.agree.read_eq (.inl (by
    rw [Nat.zero_add]
    exact headerSize_le bd slot))]

/-- A spool that is initialised stays so under an append. -/
lemma Attempted.initialised {r : SpoolRecord}
    (h : Attempted bd limit d d' r data) (hi : Initialised bd d.medium) :
    Initialised bd d'.medium := by
  obtain h | ⟨slot, -, he, ht, -⟩ := h
  · exact h.medium ▸ hi
  · refine hi.imp (fun hv => (headerAt_of_touches ht) ▸ hv) ?_
    rintro ⟨i, hlt, hv⟩
    refine ⟨i, hlt, ?_⟩
    have hne : i ≠ slot := by
      rintro rfl
      rw [invalid_of_erased (he _ le_rfl (Nat.lt_add_of_pos_right (by decide)))] at hv
      cases hv
    rwa [recordAt_congr (sameSlot_of_agreeOff ht.agree hne)]

/-- What is deliverable after an append: what was before, or one record more. -/
lemma Attempted.deliverables (hlimit : limit ≤ bd.spoolMaxRecords)
    (h : Attempted bd limit d d' (newRecord data priority info) data) (hpos : 0 < data.length)
    (hlen : data.length ≤ bd.maxEventSize)
    (htype : EventType.crash.code ≤ info.type ∧ info.type ≤ EventType.coredump.code) :
    deliverables bd d'.medium = deliverables bd d.medium ∨
      (deliverables bd d'.medium).Perm
        (⟨data, info.sequence, priority.code⟩ :: deliverables bd d.medium) := by
  obtain h | ⟨slot, hlt, he, ht, hs⟩ := h
  · rw [h.medium]
    exact .inl rfl
  have hrest : ∀ i < bd.spoolMaxRecords, i ≠ slot →
      deliverable bd d'.medium i = deliverable bd d.medium i :=
    fun i _ hne => deliverable_congr (sameSlot_of_agreeOff ht.agree hne)
  have hnone := deliverable_of_erased he
  rcases hs with hs | hs
  · exact .inr (Outbox.items_update (hlt.trans_le hlimit) hnone
      (deliverable_stored hs hpos hlen htype) hrest)
  · refine .inl (Outbox.items_congr fun i hi => ?_)
    by_cases hne : i = slot
    · rw [hne, hnone, deliverable_of_state hs.state]
    · exact hrest i hi hne

lemma Placed.deliverables (hlimit : limit ≤ bd.spoolMaxRecords)
    (h : Placed bd limit d d' (newRecord data priority info) data) (hpos : 0 < data.length)
    (hlen : data.length ≤ bd.maxEventSize)
    (htype : EventType.crash.code ≤ info.type ∧ info.type ≤ EventType.coredump.code) :
    (deliverables bd d'.medium).Perm
      (⟨data, info.sequence, priority.code⟩ :: deliverables bd d.medium) := by
  obtain ⟨slot, hlt, he, ht, hs⟩ := h
  exact Outbox.items_update (hlt.trans_le hlimit) (deliverable_of_erased he)
    (deliverable_stored hs hpos hlen htype)
    fun i _ hne => deliverable_congr (sameSlot_of_agreeOff ht.agree hne)

/-- `ls_spool_init` leaves an initialised spool as it is. -/
lemma lsSpoolInit_medium (hu : usable bd b) {s : System Node} (h : Initialised bd s.dev.medium) :
    (leaves (lsSpoolInit bd (some b)) s).dev.medium = s.dev.medium := by
  have hspec : Sat (lsSpoolInit bd (some b)) s (fun _ s' => s'.dev.medium = s.dev.medium)
      (fun _ s' => s'.dev.medium = s.dev.medium) := by
    rw [lsSpoolInit, onStorage, if_pos hu]
    refine (spoolInit_spec hu s).mono (fun _ s' h' => ?_) (fun _ s' h' => ?_)
    · exact h'.elim (fun h' => h'.2.1.medium) fun h' => absurd h h'.1
    · exact h'.2.elim (fun h' => h'.medium) fun h' => absurd h h'.1
  exact hspec.leaves

end

/-- **Append is atomic.** Whatever the device does during an append to an initialised spool,
the next initialisation finds the deliverable records of before, or these and the new one;
and if the append returned, it finds the new one. -/
theorem append_atomic (hu : usable bd b) (s : System Node) (hi : Initialised bd s.dev.medium)
    (data : List UInt8) (priority : Priority) (info : EnvelopeInfo)
    (hv : lsEnvelopeValidate data = .ok info)
    (htype : EventType.crash.code ≤ info.type ∧ info.type ≤ EventType.coredump.code)
    (rebooted : System Node)
    (hmedium : rebooted.dev.medium =
      (leaves (lsSpoolAppend bd (some b) data priority) s).dev.medium) :
    let before := deliverables bd s.dev.medium
    let found := deliverables bd (leaves (lsSpoolInit bd (some b)) rebooted).dev.medium
    let new : Evidence := ⟨data, info.sequence, priority.code⟩
    (found = before ∨ found.Perm (new :: before)) ∧
      (∀ s', lsSpoolAppend bd (some b) data priority s = .ok () s' → found.Perm (new :: before)) := by
  intro before found new
  have hlimit := slotLimit_le bd priority
  have hspec := lsSpoolAppend_spec hu s data priority
  -- at both exits the spool stays initialised, so that the next initialisation looks only
  have hfound : Initialised bd (leaves (lsSpoolAppend bd (some b) data priority) s).dev.medium →
      found = deliverables bd (leaves (lsSpoolAppend bd (some b) data priority) s).dev.medium := by
    intro h
    rw [← hmedium] at h ⊢
    exact congrArg (deliverables bd) (lsSpoolInit_medium hu h)
  unfold Sat at hspec
  unfold leaves at hfound
  cases hx : lsSpoolAppend bd (some b) data priority s with
  | ok _ s' =>
      rw [hx] at hspec hfound
      obtain ⟨info', hv', hpos, hlen, hplaced, -, -⟩ := hspec
      obtain rfl : info = info' := Except.ok.inj (hv.symm.trans hv')
      have hperm : found.Perm (new :: before) := by
        rw [hfound (hplaced.attempted.initialised hi)]
        exact hplaced.deliverables hlimit hpos hlen htype
      exact ⟨.inr hperm, fun _ _ => hperm⟩
  | error e s' =>
      rw [hx] at hspec hfound
      refine ⟨?_, fun s'' h => by cases h⟩
      obtain ⟨-, hl | ⟨info', hv', hpos, hlen, hatt⟩⟩ := hspec
      · have hm : s'.dev.medium = s.dev.medium := hl.medium
        exact .inl (by rw [hfound (hm ▸ hi)]; exact congrArg (deliverables bd) hm)
      · obtain rfl : info = info' := Except.ok.inj (hv.symm.trans hv')
        rw [hfound (hatt.initialised hi)]
        exact hatt.deliverables hlimit hpos hlen htype

/-! ### A small spool -/

/-- A build with two slots, one of them reserved, for envelopes of up to 34 bytes. -/
def smallBuild : Build :=
  { Build.default with
    maxEventSize := 34, spoolMaxRecords := 2, spoolReservedCritical := 1
    spoolReservedEmergency := 0
    maxEventSize_lt := by decide, spoolMaxRecords_lt := by decide
    spoolReservedCritical_le := reserve_le, spoolReservedEmergency_le := by decide }

/-- A NOR device with write units of eight bytes that holds the small spool. -/
def smallFlash : Backend :=
  { sizeMax := 0xffffffff, capacity := 512, eraseSize := 256, writeSize := 8, hasRead := true
    hasWrite := true, hasErase := true, hasSync := true, enforceNor := true
    capacity_le := sector_le, eraseSize_le := page_le, writeSize_le := by decide }

/-- A node after a reset, whose transports accept everything. -/
def idleNode : Node := ⟨default, ⟨fun _ => true, fun _ => none, []⟩, []⟩

/-- A blank device with the given faults. -/
def blankSpool (faults : ℕ → Request → Fault) : System Node := ⟨⟨fun _ => 0xff, faults, []⟩, idleNode⟩

/-- The small spool with a fresh header on a device with the given faults. -/
def emptySpool (faults : ℕ → Request → Fault) : System Node :=
  ⟨⟨Medium.write (fun _ => 0xff) 0 (freshHeader smallBuild 0).bytes, faults, []⟩, idleNode⟩

lemma initialised_emptySpool (faults : ℕ → Request → Fault) :
    Initialised smallBuild (emptySpool faults).dev.medium := by
  left
  rw [emptySpool, headerAt, ← (freshHeader smallBuild 0).bytes_length, Medium.read_write_same,
    SpoolHeader.ofBytes_bytes]
  exact headerValid_freshHeader smallBuild 0

/-- An append that is cut off inside its payload: the theorem applies, and the next
initialisation finds no record. -/
theorem append_atomic_cut :
    let s := emptySpool fun k _ => if k = 20 then .cut 3 else .none
    let after := leaves (lsSpoolAppend smallBuild (some smallFlash) basicVector .error) s
    let rebooted : System Node := ⟨⟨after.dev.medium, fun _ _ => .none, []⟩, idleNode⟩
    let found := deliverables smallBuild
      (leaves (lsSpoolInit smallBuild (some smallFlash)) rebooted).dev.medium
    after.dev.log.length = 21 ∧ found = [] ∧
      (found = [] ∨ found.Perm [⟨basicVector, 7, 2⟩]) := by
  intro s after rebooted found
  refine ⟨by decide +kernel, by decide +kernel, ?_⟩
  have h := append_atomic (by decide) s (initialised_emptySpool _) basicVector .error
    ⟨1, 2, 0, 0, 7, 9, 6⟩ (by decide +kernel) (by decide) rebooted rfl
  have hbefore : deliverables smallBuild s.dev.medium = [] := by decide +kernel
  have h := h.1
  rw [hbefore] at h
  exact h

end Latch.Spool
