
/-
A flush without faults: everything is sent once, in order, and the spool is reclaimed.

On a healthy device, with transports that accept everything, each pass of `ls_spool_flush`
acknowledges the committed record that comes first in the order of `sendsBefore`
(`selectRecord_first`), and sends its payload if it is intact. The passes therefore drain
the spool in the sense of `Outbox.Drain`, as there are as many of them as slots, and
`flush_delivers` reads the order of the sends off that.
-/
import Latch.Spool.Retain
import Latch.Storage.Healthy

namespace Latch.Spool

open Exec

variable {bd : Build} {b : Backend}

variable {d : Device} {m : ℕ → UInt8} {i : ℕ} {base : UInt32}

/-! ### Entries and their order -/

/-- A committed record with its payload. -/
structure Entry where
  record : SpoolRecord
  payload : List UInt8

/-- The committed record of a slot. -/
def entryAt (bd : Build) (m : ℕ → UInt8) (slot : ℕ) : Option Entry :=
  if committedAt bd m slot then some ⟨recordAt bd m slot, payloadAt bd m slot⟩ else none

/-- The evidence in a committed record, if its payload is intact. -/
def Entry.evidence (x : Entry) : Option Evidence :=
  if lsCrc32 x.payload = x.record.dataCrc ∧ (lsEnvelopeValidate x.payload).isOk then
    some ⟨x.payload, x.record.sequence, x.record.priority⟩
  else none

lemma entryAt_eq_some_iff {x : Entry} :
    entryAt bd m i = some x ↔
      committedAt bd m i ∧ x = ⟨recordAt bd m i, payloadAt bd m i⟩ := by
  rw [entryAt]
  split_ifs with h
  · simp [h, eq_comm]
  · simp [h]

lemma entryAt_eq_none_iff :
    entryAt bd m i = none ↔ ¬ committedAt bd m i := by
  rw [entryAt]
  split_ifs with h <;> simp [h]

lemma intact_eq_bind (m : ℕ → UInt8) (i : ℕ) :
    intact bd m i = (entryAt bd m i).bind Entry.evidence := by
  by_cases hc : committedAt bd m i
  · by_cases hcrc : lsCrc32 (payloadAt bd m i) = (recordAt bd m i).dataCrc
    · simp [intact, deliverable, entryAt, Entry.evidence, hc, hcrc, Option.filter]
    · simp [intact, deliverable, entryAt, Entry.evidence, hc, hcrc]
  · simp [intact, deliverable, entryAt, hc]

/-- The order in which evidence is to be sent: by priority, and then by sequence number. -/
def SendOrder (e e' : Evidence) : Prop :=
  e.priority < e'.priority ∨
    e.priority = e'.priority ∧ ¬ Serial.Newer e.sequence e'.sequence

/-- The sequence numbers of the committed records lie in a window. -/
def Windowed (bd : Build) (m : ℕ → UInt8) : Prop :=
  ∃ base, ∀ i < bd.spoolMaxRecords, committedAt bd m i →
    Serial.offset base (recordAt bd m i).sequence < 2 ^ 31

/-- Inside a window, `sendsBefore` compares the priorities and then the offsets. -/
lemma sendsBefore_iff {r r' : SpoolRecord}
    (h : Serial.offset base r.sequence < 2 ^ 31) (h' : Serial.offset base r'.sequence < 2 ^ 31) :
    sendsBefore r r' = true ↔ r.priority < r'.priority ∨ r.priority = r'.priority ∧
      Serial.offset base r.sequence < Serial.offset base r'.sequence := by
  rw [sendsBefore, decide_eq_true_iff, Serial.sub_neg_iff_offset_lt h h']

lemma sendsBefore_trans {r₁ r₂ r₃ : SpoolRecord}
    (h₁ : Serial.offset base r₁.sequence < 2 ^ 31) (h₂ : Serial.offset base r₂.sequence < 2 ^ 31)
    (h₃ : Serial.offset base r₃.sequence < 2 ^ 31) (h₁₂ : sendsBefore r₁ r₂ = true)
    (h₂₃ : sendsBefore r₂ r₃ = true) : sendsBefore r₁ r₃ = true := by
  rw [sendsBefore_iff h₁ h₂] at h₁₂
  rw [sendsBefore_iff h₂ h₃] at h₂₃
  rw [sendsBefore_iff h₁ h₃]
  simp only [UInt8.lt_iff_toNat_lt, ← UInt8.toNat_inj] at *
  omega

/-- What is not sent before another one is in the order of the sends behind it. -/
lemma sendOrder_of_not_before {x y : Entry} {e e' : Evidence}
    (hx : Serial.offset base x.record.sequence < 2 ^ 31)
    (hy : Serial.offset base y.record.sequence < 2 ^ 31)
    (h : ¬ sendsBefore y.record x.record = true) (he : x.evidence = some e)
    (he' : y.evidence = some e') : SendOrder e e' := by
  have hfields : ∀ {z : Entry} {e : Evidence}, z.evidence = some e →
      e.priority = z.record.priority ∧ e.sequence = z.record.sequence := by
    intro z e hz
    rw [Entry.evidence] at hz
    split_ifs at hz
    obtain rfl := Option.some.inj hz
    exact ⟨rfl, rfl⟩
  rw [sendsBefore_iff hy hx] at h
  rw [SendOrder, (hfields he).1, (hfields he).2, (hfields he').1, (hfields he').2,
    Serial.newer_iff_offset_lt hx hy]
  simp only [UInt8.lt_iff_toNat_lt, ← UInt8.toNat_inj] at *
  omega

/-! ### The selection -/

/-- What the loop of a pass has selected among the first `k` slots. -/
inductive Selected (bd : Build) (m : ℕ → UInt8) (k : ℕ) : Option (ℕ × SpoolRecord) → Prop where
  | none (empty : ∀ i < k, ¬ committedAt bd m i) : Selected bd m k none
  | some (i : ℕ) (lt : i < k) (committed : committedAt bd m i)
      (first : Windowed bd m → ∀ j < k, committedAt bd m j →
        ¬ sendsBefore (recordAt bd m j) (recordAt bd m i) = true) :
      Selected bd m k (some (i, recordAt bd m i))

lemma selected_turn {k : ℕ} {o : Option (ℕ × SpoolRecord)}
    (hk : k < bd.spoolMaxRecords) (h : Selected bd m k o) :
    Selected bd m (k + 1) (selectTurn bd o k (recordAt bd m k)) := by
  by_cases hc : committedAt bd m k
  swap
  · -- the loop skips the slot
    have hskip : selectTurn bd o k (recordAt bd m k) = o := by
      simp only [selectTurn]
      rw [if_pos (not_and_or.mp hc)]
    rw [hskip]
    cases h with
    | none empty =>
        refine .none fun i hi => ?_
        rcases Nat.lt_succ_iff_lt_or_eq.mp hi with hi | rfl
        · exact empty i hi
        · exact hc
    | some i lt committed first =>
        refine .some i (by omega) committed fun hw j hj hcj => ?_
        rcases Nat.lt_succ_iff_lt_or_eq.mp hj with hj | rfl
        · exact first hw j hj hcj
        · exact absurd hcj hc
  have hself : ∀ r : SpoolRecord, ¬ sendsBefore r r = true := by
    intro r
    simp [sendsBefore, UInt8.lt_irrefl]
  simp only [selectTurn]
  rw [if_neg (by rw [← not_and_or, not_not]; exact hc)]
  cases h with
  | none empty =>
      refine .some k (by omega) hc fun _ j hj hcj => ?_
      rcases Nat.lt_succ_iff_lt_or_eq.mp hj with hj | rfl
      · exact absurd hcj (empty j hj)
      · exact hself _
  | some i lt committed first =>
      dsimp only
      split_ifs with hb
      · -- a later record comes first: by transitivity it comes before all others
        refine .some k (by omega) hc fun hw j hj hcj hbefore => ?_
        rcases Nat.lt_succ_iff_lt_or_eq.mp hj with hj | rfl
        · obtain ⟨base, hwin⟩ := hw
          exact first ⟨base, hwin⟩ j hj hcj (sendsBefore_trans (hwin j (by omega) hcj)
            (hwin k hk hc) (hwin i (by omega) committed) hbefore hb)
        · exact hself _ hbefore
      · refine .some i (by omega) committed fun hw j hj hcj => ?_
        rcases Nat.lt_succ_iff_lt_or_eq.mp hj with hj | rfl
        · exact first hw j hj hcj
        · exact hb

/-- The selection of a pass. -/
lemma selectRecord_first (d : Device) :
    Sat (selectRecord bd b) d
      (fun o d' => d.Looked d' ∧ Selected bd d.medium bd.spoolMaxRecords o)
      (fun _ d' => d.Looked d') := by
  refine (foldRecords_spec (selectTurn bd) none d).mono fun o d' h => ⟨h.1, ?_⟩
  obtain ⟨-, rfl⟩ := h
  suffices h : ∀ k ≤ bd.spoolMaxRecords, Selected bd d.medium k ((List.range k).foldl
      (fun acc slot => selectTurn bd acc slot (recordAt bd d.medium slot)) none) from h _ le_rfl
  intro k hk
  induction k with
  | zero => exact .none fun i hi => absurd hi (by omega)
  | succ k ih =>
      rw [List.range_succ, List.foldl_append]
      exact selected_turn (by omega) (ih (by omega))

/-! ### What returns on a healthy device -/

lemma readRecord_completes (hu : usable bd b) (hd : d.Healthy)
    (hi : i < bd.spoolMaxRecords) : Completes (readRecord bd b i) d := by
  have hsize := slotOffset_le_size hu hi
  have hcap := hu.2.2.2
  rw [recordSize] at hsize
  rw [readRecord, Completes, sat_map]
  exact read_completes hd ⟨by omega, by omega⟩

lemma foldRecords_completes {β : Type} {f : β → ℕ → SpoolRecord → β} {start : β}
    (hu : usable bd b) (hd : d.Healthy) : Completes (foldRecords bd b f start) d := by
  refine (sat_foldlM (fun _ _ d' => d.Later d') _ start (.refl d) ?_).completes
  intro pre i post acc d₁ hrange h₁
  have hi : i < bd.spoolMaxRecords := List.mem_range.mp (hrange ▸ by simp)
  rw [sat_map]
  exact ((readRecord_completes hu (hd.later h₁) hi).sat (readRecord_spec i d₁)).mono
    fun _ d₂ h₂ => .trans _ _ _ h₁ h₂.2.toLater

lemma selectRecord_completes (hu : usable bd b) (hd : d.Healthy) :
    Completes (selectRecord bd b) d :=
  foldRecords_completes hu hd

/-- The write unit is accepted for the record headers of the committed records. -/
def Acknowledgeable (bd : Build) (b : Backend) (m : ℕ → UInt8) : Prop :=
  ∀ i < bd.spoolMaxRecords, committedAt bd m i → b.Accepts (slotOffset bd i + recordHeaderSize)

lemma acknowledge_completes {slot : ℕ} (hu : usable bd b) (hd : d.Healthy)
    (lt : slot < bd.spoolMaxRecords) (ha : b.Accepts (slotOffset bd slot + recordHeaderSize)) :
    Completes (acknowledgeRecord bd b slot) d := by
  have hsize := slotOffset_le_size hu lt
  have hcap := hu.2.2.2
  simp only [recordSize, recordHeaderSize] at hsize
  refine Completes.bind (program_completes hd ha ⟨hu.2.1, hu.2.2.1, ?_⟩ ?_ (clears_zero _ _))
    (program_byte b _ spoolRecordAcked d) fun _ d₁ h₁ => sync_completes (hd.later h₁.1)
  · simp only [Backend.inBounds, List.length_singleton, stateOffset]
    omega
  · simp only [List.length_singleton, stateOffset, recordHeaderSize]
    omega

/-! ### One pass -/

/-- The transports carry every length and accept every send. -/
def Node.Accepting (n : Node) : Prop :=
  (∀ k, n.transport.selects k = true) ∧ ∀ k, n.transport.sends k = none

lemma Node.Accepting.flushed {n n' : Node} (h : n.Accepting) (hf : n.Flushed n') : n'.Accepting :=
  ⟨fun k => by rw [hf.selects, h.1], fun k => by rw [hf.sends, h.2]⟩

/-- The payloads of the sends in a log, the last one first. -/
def sendsOf (log : List TransportCall) : List (List UInt8) :=
  log.filterMap fun
    | .send _ data _ => some data
    | _ => none

/-- A pass over the record of a slot: it is acknowledged, and its evidence was sent. -/
structure Passed (bd : Build) (slot : ℕ) (e : Option Evidence) (s s' : System Node) : Prop where
  dev : s.dev.Later s'.dev
  medium : s'.dev.medium = mark bd s.dev.medium slot stateOffset spoolRecordAcked
  ram : s.ram.Flushed s'.ram
  sends : sendsOf s'.ram.transport.log =
    (e.map Evidence.payload).toList ++ sendsOf s.ram.transport.log

section Pass

variable {s s₁ : System Node} {slot : ℕ}

lemma acknowledge_passed (hu : usable bd b) (hd : s.dev.Healthy) (lt : slot < bd.spoolMaxRecords)
    (ha : b.Accepts (slotOffset bd slot + recordHeaderSize)) {e : Option Evidence}
    (hl : s.dev.Looked s₁.dev) (hr : s.ram.Flushed s₁.ram)
    (hsends : sendsOf s₁.ram.transport.log =
      (e.map Evidence.payload).toList ++ sendsOf s.ram.transport.log) :
    Sat (onDevice (acknowledgeRecord bd b slot)) s₁ (fun _ s' => Passed bd slot e s s')
      (fun _ _ => False) := by
  rw [sat_onDevice]
  refine ((acknowledge_completes hu (hd.later hl.toLater) lt ha).sat
    (programMark_spec stateOffset spoolRecordAcked slot s₁.dev)).mono fun _ d' h => ?_
  exact ⟨.trans _ _ _ hl.toLater h.1, by rw [h.2, hl.medium], hr, hsends⟩

lemma discardRecord_passed (hu : usable bd b) (hd : s.dev.Healthy) (lt : slot < bd.spoolMaxRecords)
    (ha : b.Accepts (slotOffset bd slot + recordHeaderSize)) (hl : s.dev.Looked s₁.dev)
    (hr : s₁.ram = s.ram) :
    Sat (discardRecord bd b slot) s₁ (fun _ s' => Passed bd slot none s s')
      (fun _ _ => False) := by
  rw [discardRecord, sat_bind, modifyRuntime, sat_modifyRam]
  exact acknowledge_passed hu hd lt ha hl
    ⟨by rw [hr], by rw [hr], by rw [hr], by rw [hr], _, _, _, by rw [hr]⟩ (by rw [hr]; rfl)

lemma deliverRecord_passed (hu : usable bd b) (hd : s.dev.Healthy) (ht : s.ram.Accepting)
    (lt : slot < bd.spoolMaxRecords) (ha : b.Accepts (slotOffset bd slot + recordHeaderSize))
    (hl : s.dev.Looked s₁.dev) (hr : s₁.ram = s.ram) (selected : SpoolRecord)
    (info : EnvelopeInfo) (e : Evidence) :
    Sat (deliverRecord bd b slot selected info e.payload) s₁
      (fun _ s' => Passed bd slot (some e) s s') (fun _ _ => False) := by
  rw [deliverRecord]
  refine (lsTransportSelect_spec _ _ s₁).bind fun found s₂ h₂ => ?_
  obtain ⟨hd₂, rfl, hr₂⟩ := h₂
  rw [if_pos (hr ▸ ht.1 _), sat_bind, sendRecord, sat_bind, sat_onDevice, sat_attempt]
  have hl₂ : s.dev.Looked s₂.dev := by rw [hd₂]; exact hl
  refine ((hit_completes (hd.later hl₂.toLater) .spoolBeforeSend).sat
    ((hit_looked .spoolBeforeSend).sat s₂.dev)).mono fun _ d₃ h₃ => ?_
  have hl₃ := Device.Looked.trans _ _ _ hl₂ h₃
  dsimp only
  rw [lsTransportSend, sat_bind, sat_getRam, sat_bind, sat_modifyRam, sat_pure]
  have hnone : s₂.ram.transport.sends s₂.ram.transport.log.length = none := by
    rw [hr₂, hr]
    exact ht.2 _
  dsimp only
  rw [hnone]
  dsimp only
  rw [sat_onDevice]
  refine ((hit_completes (hd.later hl₃.toLater) .spoolBeforeAck).sat
    ((hit_looked .spoolBeforeAck).sat d₃)).bind fun _ d₄ h₄ => ?_
  refine sat_onDevice.mp (@acknowledge_passed bd b s
    ⟨d₄, s₂.ram.logged (.send info.eventId e.payload none)⟩ slot hu hd lt ha (some e)
    (.trans _ _ _ hl₃ h₄) ?_ ?_)
  · rw [hr₂, hr]
    exact (Node.flushed_logged _ _).trans (Node.flushed_logged _ _)
  · rw [hr₂, hr]
    rfl

/-- A pass over a selected record. -/
lemma processRecord_passed (hu : usable bd b) (hd : s.dev.Healthy) (ht : s.ram.Accepting)
    (lt : slot < bd.spoolMaxRecords) (hc : committedAt bd s.dev.medium slot)
    (ha : b.Accepts (slotOffset bd slot + recordHeaderSize)) (hl : s.dev.Looked s₁.dev)
    (hr : s₁.ram = s.ram) :
    Sat (processRecord bd b slot (recordAt bd s.dev.medium slot)) s₁
      (fun _ s' => Passed bd slot (intact bd s.dev.medium slot) s s') (fun _ _ => False) := by
  have hin : b.inBounds (payloadOffset bd slot) (recordAt bd s.dev.medium slot).length.toNat :=
    payload_inBounds hu lt hc.1
  rw [processRecord, sat_bind, sat_onDevice, sat_attempt]
  refine ((read_completes (hd.later hl.toLater) hin).sat (read_spec b _ _ s₁.dev)).mono
    fun data d₂ h₂ => ?_
  obtain ⟨rfl, h₂⟩ := h₂
  have hl₂ := Device.Looked.trans _ _ _ hl h₂
  have hdata : Medium.read s₁.dev.medium (payloadOffset bd slot)
      (recordAt bd s.dev.medium slot).length.toNat = payloadAt bd s.dev.medium slot := by
    rw [hl.medium, payloadAt]
  dsimp only
  rw [hdata, sat_ite]
  constructor
  · intro hcrc
    rw [intact, deliverable, if_neg fun h => hcrc h.2.symm]
    exact discardRecord_passed hu hd lt ha hl₂ hr
  · intro hcrc
    have hdel : deliverable bd s.dev.medium slot = some ⟨payloadAt bd s.dev.medium slot,
        (recordAt bd s.dev.medium slot).sequence, (recordAt bd s.dev.medium slot).priority⟩ :=
      if_pos ⟨hc, (not_not.mp hcrc).symm⟩
    rw [intact, hdel]
    cases hv : lsEnvelopeValidate (payloadAt bd s.dev.medium slot) with
    | error e =>
        simp only [Option.filter_some, hv, Except.isOk, Except.toBool]
        exact discardRecord_passed hu hd lt ha hl₂ hr
    | ok info =>
        simp only [Option.filter_some, hv, Except.isOk, Except.toBool]
        exact @deliverRecord_passed bd b s ⟨d₂, s₁.ram⟩ slot hu hd ht lt ha hl₂ hr _ info ⟨_, _, _⟩

end Pass

/-! ### Acknowledged slots -/

section Acked

variable {m m₀ : ℕ → UInt8} {i slot : ℕ}

lemma entryAt_congr {m' : ℕ → UInt8} (h : SameSlot bd m m' i) :
    entryAt bd m' i = entryAt bd m i := by
  by_cases hc : committedAt bd m i
  · rw [entryAt, entryAt, if_pos ((committedAt_congr h).mpr hc), if_pos hc, recordAt_congr h,
      payloadAt_congr h hc.1]
  · rw [entryAt, entryAt, if_neg ((committedAt_congr h).not.mpr hc), if_neg hc]

lemma recordAt_mark_acked : recordAt bd (mark bd m slot stateOffset spoolRecordAcked) slot =
    { recordAt bd m slot with state := spoolRecordAcked } := by
  rw [mark, recordAt_write_mark (.inl rfl), if_pos rfl, if_neg (by decide)]

lemma entryAt_mark_acked :
    entryAt bd (mark bd m slot stateOffset spoolRecordAcked) slot = none := by
  rw [entryAt_eq_none_iff, committedAt, recordAt_mark_acked]
  exact fun h => absurd h.2 (show ¬ spoolRecordAcked = spoolRecordCommitted by decide)

lemma recordIsErased_of_magic {r : SpoolRecord} (h : r.magic = spoolRecordMagic) :
    recordIsErased r = false := by
  have hmem : (0x45 : UInt8) ∈ r.bytes := by
    refine List.mem_append_left _ (List.mem_append_left _ ?_)
    rw [h]
    decide
  rw [recordIsErased, List.all_eq_false]
  exact ⟨0x45, hmem, by decide⟩

lemma recordIsErased_of_committed (hc : committedAt bd m i) :
    recordIsErased (recordAt bd m i) = false := by
  have hv := hc.1
  simp only [recordValid, decide_eq_true_eq] at hv
  exact recordIsErased_of_magic hv.1

/-- A slot that is used stays so when it is acknowledged. -/
lemma recordIsErased_mark_acked (hc : committedAt bd m slot) (i : ℕ) :
    recordIsErased (recordAt bd (mark bd m slot stateOffset spoolRecordAcked) i) =
      recordIsErased (recordAt bd m i) := by
  by_cases hne : i = slot
  · subst hne
    have hv := hc.1
    simp only [recordValid, decide_eq_true_eq] at hv
    rw [recordAt_mark_acked]
    refine (recordIsErased_of_magic ?_).trans (recordIsErased_of_committed hc).symm
    exact hv.1
  · rw [recordAt_congr (sameSlot_mark (.inl rfl) hne)]

/-- The committed records of `m` are among those of `m₀`. -/
def Remains (bd : Build) (m₀ m : ℕ → UInt8) : Prop :=
  ∀ i < bd.spoolMaxRecords, ∀ x, entryAt bd m i = some x → entryAt bd m₀ i = some x

lemma Remains.mark_acked (h : Remains bd m₀ m) (slot : ℕ) :
    Remains bd m₀ (mark bd m slot stateOffset spoolRecordAcked) := by
  intro i hi x hx
  by_cases hne : i = slot
  · subst hne
    rw [entryAt_mark_acked] at hx
    cases hx
  · rw [entryAt_congr (sameSlot_mark (.inl rfl) hne)] at hx
    exact h i hi x hx

lemma Remains.committedAt (h : Remains bd m₀ m) (hi : i < bd.spoolMaxRecords)
    (hc : committedAt bd m i) :
    Spool.committedAt bd m₀ i ∧ recordAt bd m₀ i = recordAt bd m i := by
  obtain ⟨hc₀, hx⟩ := entryAt_eq_some_iff.mp (h i hi _ (if_pos hc))
  exact ⟨hc₀, (congrArg Entry.record hx).symm⟩

lemma Windowed.remains (hw : Windowed bd m₀) (h : Remains bd m₀ m) : Windowed bd m := by
  obtain ⟨base, hw⟩ := hw
  refine ⟨base, fun i hi hc => ?_⟩
  obtain ⟨hc₀, hr⟩ := h.committedAt hi hc
  exact hr ▸ hw i hi hc₀

/-- The order of the sends of a flush that starts at `m₀`. -/
def Before (bd : Build) (m₀ : ℕ → UInt8) (x y : Entry) : Prop :=
  Windowed bd m₀ ∧ sendsBefore x.record y.record = true

/-- The acknowledgement of a selected record takes a first entry out of the spool. -/
lemma take_of_selected (hrem : Remains bd m₀ m)
    (h : Selected bd m bd.spoolMaxRecords (some (slot, recordAt bd m slot))) :
    Outbox.Take (Before bd m₀) bd.spoolMaxRecords (entryAt bd m)
      (entryAt bd (mark bd m slot stateOffset spoolRecordAcked))
      ⟨recordAt bd m slot, payloadAt bd m slot⟩ := by
  cases h with
  | some _ lt committed first =>
      refine ⟨slot, lt, if_pos committed, ?_, entryAt_mark_acked, fun j _ hne =>
        entryAt_congr (sameSlot_mark (.inl rfl) hne)⟩
      rintro y hy ⟨hw, hbefore⟩
      obtain ⟨j, hj, hy⟩ := List.mem_filterMap.mp hy
      obtain ⟨hcj, rfl⟩ := entryAt_eq_some_iff.mp hy
      exact first (hw.remains hrem) j (List.mem_range.mp hj) hcj hbefore

end Acked

variable {s : System Node} {m₀ : ℕ → UInt8}

/-! ### All passes -/

/-- What some passes of a flush have done that started at `m₀`: they took the entries of
`l` one by one. -/
structure Passes (bd : Build) (m₀ : ℕ → UInt8) (l : List Entry) (s s' : System Node) :
    Prop where
  dev : s.dev.Later s'.dev
  ram : s.ram.Flushed s'.ram
  drain : Outbox.Drain (Before bd m₀) bd.spoolMaxRecords (entryAt bd s.dev.medium) l
    (entryAt bd s'.dev.medium)
  sends : sendsOf s'.ram.transport.log =
    ((l.filterMap Entry.evidence).map Evidence.payload).reverse ++ sendsOf s.ram.transport.log
  used : ∀ i, recordIsErased (recordAt bd s'.dev.medium i) =
    recordIsErased (recordAt bd s.dev.medium i)
  idle : l = [] → s'.dev.medium = s.dev.medium

lemma Passes.of_looked {d : Device} (h : s.dev.Looked d) :
    Passes bd m₀ [] s ⟨d, s.ram⟩ :=
  ⟨h.toLater, .refl _, h.medium ▸ .done _, rfl, fun _ => by rw [h.medium], fun _ => h.medium⟩

lemma Passes.cons {s₁ s₂ : System Node} {slot : ℕ} {l : List Entry}
    (hrem : Remains bd m₀ s.dev.medium)
    (hsel : Selected bd s.dev.medium bd.spoolMaxRecords
      (some (slot, recordAt bd s.dev.medium slot)))
    (hc : committedAt bd s.dev.medium slot)
    (h : Passed bd slot (intact bd s.dev.medium slot) s s₁) (h' : Passes bd m₀ l s₁ s₂) :
    Passes bd m₀ (⟨recordAt bd s.dev.medium slot, payloadAt bd s.dev.medium slot⟩ :: l) s s₂ where
  dev := .trans _ _ _ h.dev h'.dev
  ram := h.ram.trans h'.ram
  drain := .take (h.medium ▸ take_of_selected hrem hsel) h'.drain
  sends := by
    have he : intact bd s.dev.medium slot =
        Entry.evidence ⟨recordAt bd s.dev.medium slot, payloadAt bd s.dev.medium slot⟩ := by
      rw [intact_eq_bind, entryAt, if_pos hc]
      rfl
    rw [h'.sends, h.sends, he, List.filterMap_cons]
    cases Entry.evidence ⟨recordAt bd s.dev.medium slot, payloadAt bd s.dev.medium slot⟩ <;> simp
  used i := by rw [h'.used, h.medium, recordIsErased_mark_acked hc]
  idle := nofun

/-- The passes of a flush take entries until there is none left. -/
lemma flushPasses_drain (hu : usable bd b) (ha : Acknowledgeable bd b m₀)
    (k : ℕ) (s : System Node) (hd : s.dev.Healthy) (ht : s.ram.Accepting)
    (hrem : Remains bd m₀ s.dev.medium) :
    Sat (flushPasses bd b k) s
      (fun _ s' => ∃ l, Passes bd m₀ l s s' ∧
        (l.length = k ∨ ∀ i < bd.spoolMaxRecords, ¬ committedAt bd s'.dev.medium i))
      (fun _ _ => False) := by
  induction k generalizing s with
  | zero => exact .pure ⟨[], .of_looked (.refl _), .inl rfl⟩
  | succ k ih =>
      rw [flushPasses, sat_bind, flushPass, sat_bind, sat_onDevice]
      refine ((selectRecord_completes hu hd).sat (selectRecord_first s.dev)).mono
        fun o d₁ h₁ => ?_
      obtain ⟨h₁, hsel⟩ := h₁
      cases hsel with
      | none empty =>
          refine .pure ?_
          rw [if_neg Bool.false_ne_true]
          exact .pure ⟨[], .of_looked h₁, .inr (h₁.medium ▸ empty)⟩
      | some slot lt hc first =>
          obtain ⟨hc₀, -⟩ := hrem.committedAt lt hc
          dsimp only
          refine (@processRecord_passed bd b s ⟨d₁, s.ram⟩ slot hu hd ht lt hc (ha slot lt hc₀)
            h₁ rfl).bind fun _ s₂ h₂ => .pure ?_
          rw [if_pos rfl]
          refine (ih s₂ (hd.later h₂.dev) (ht.flushed h₂.ram)
            (h₂.medium ▸ hrem.mark_acked slot)).mono fun _ s₃ h₃ => ?_
          obtain ⟨l, h₃, hend⟩ := h₃
          refine ⟨_, h₃.cons hrem (.some slot lt hc first) hc h₂, hend.imp ?_ id⟩
          exact fun hl => congrArg (· + 1) hl

/-! ### Reclaiming -/

lemma reclaimScan_drained (hu : usable bd b) (n slot : ℕ) (consumed : Bool) (d : Device)
    (hd : d.Healthy) (hn : slot + n ≤ bd.spoolMaxRecords)
    (hdrained : ∀ i < bd.spoolMaxRecords, ¬ committedAt bd d.medium i) :
    Sat (reclaimScan bd b n slot consumed) d
      (fun o d' => d.Looked d' ∧ o = some (consumed ||
        (List.range' slot n).any fun i => !recordIsErased (recordAt bd d.medium i)))
      (fun _ _ => False) := by
  induction n generalizing slot consumed d with
  | zero => exact .pure ⟨.refl d, by simp⟩
  | succ n ih =>
      rw [reclaimScan, sat_bind]
      refine ((readRecord_completes hu hd (by omega)).sat (readRecord_spec slot d)).mono
        fun record d₁ h₁ => ?_
      obtain ⟨rfl, h₁⟩ := h₁
      have hslot := hdrained slot (by omega)
      rw [committedAt] at hslot
      rw [if_neg hslot]
      refine (ih (slot + 1) _ d₁ (hd.later h₁.toLater) (by omega) (h₁.medium ▸ hdrained)).mono
        fun o d₂ h₂ => ⟨.trans _ _ _ h₁ h₂.1, ?_⟩
      rw [h₂.2, h₁.medium, List.range'_succ, List.any_cons, Bool.or_assoc]

/-- The erase callback is there, and takes the whole spool. -/
def Erasable (bd : Build) (b : Backend) : Prop :=
  b.hasErase = true ∧ (1 < b.eraseSize → lsSpoolStorageSize bd b.sizeMax % b.eraseSize = 0)

instance (bd : Build) (b : Backend) : Decidable (Erasable bd b) := inferInstanceAs (Decidable (_ ∧ _))

lemma eraseSpool_completes (hu : usable bd b) (he : Erasable bd b) {d : Device}
    (hd : d.Healthy) : Completes (eraseSpool bd b) d := by
  rw [eraseSpool, if_neg (not_not.mpr he.1), if_neg fun h => h.2 (he.2 h.1)]
  exact (erase_completes hd ⟨Nat.zero_le _, by have := hu.2.2.2; omega⟩).bind
    (erase_spec b 0 _ d) fun _ d₁ h₁ => sync_completes (hd.later h₁.1)

lemma writeHeader_completes (hu : usable bd b) (ha : b.Accepts headerSize)
    (hd : s.dev.Healthy) (he : ∀ a < headerSize, s.dev.medium a = 0xff) :
    Completes (writeHeader bd b) s := by
  have hlen := (newHeader bd s.ram.runtime.sequence).bytes_length
  have hsize := slots_le_size hu
  have hcap := hu.2.2.2
  have hin : ∀ off len, off + len ≤ headerSize → storageBounds b off len := fun off len h =>
    ⟨hu.2.1, hu.2.2.1, by omega, by omega⟩
  rw [writeHeader, Completes, sat_bind, sat_getRam, sat_onDevice]
  refine (program_completes hd ha (hin _ _ (by omega)) (by omega)
    (clears_of_erased fun a _ ha => he a (by omega))).bind (program_spec b 0 _ s.dev)
    fun _ d₁ h₁ => ?_
  have hd₁ := hd.later h₁.1
  refine (sync_completes hd₁).bind ((sync_looked b).sat d₁) fun _ d₂ h₂ => ?_
  have hd₂ := hd₁.later h₂.toLater
  have hmark : d₂.medium committedOffset = 0xff := by
    have hbyte : (newHeader bd s.ram.runtime.sequence).bytes[committedOffset]? = some 0xff := rfl
    rw [h₂.medium, h₁.2, ← Nat.zero_add committedOffset]
    exact Medium.write_at hbyte
  refine (program_completes hd₂ ha (hin _ _ (by decide)) (by decide)
    (clears_of_erased fun a h1 h2 => ?_)).bind (program_byte b _ _ d₂)
    fun _ d₃ h₃ => sync_completes (hd₂.later h₃.1)
  obtain rfl : a = committedOffset := by
    rw [List.length_singleton] at h2
    omega
  exact hmark

/-- **Initialisation returns** on a healthy device. -/
lemma lsSpoolInit_completes (hu : usable bd b) (he : Erasable bd b) (ha : b.Accepts headerSize) (hd : s.dev.Healthy) : Completes (lsSpoolInit bd (some b)) s := by
  have hsize := slots_le_size hu
  have hcap := hu.2.2.2
  rw [lsSpoolInit, onStorage, if_pos hu, Completes, spoolInit, sat_bind, sat_onDevice]
  have hheader : Completes (readHeader b) s.dev := by
    rw [readHeader, Completes, sat_map]
    exact read_completes hd ⟨by omega, by omega⟩
  refine (hheader.sat (readHeader_spec s.dev)).mono fun header d₁ h₁ => ?_
  have hd₁ := hd.later h₁.2.toLater
  rw [sat_bind, sat_onDevice]
  refine ((foldRecords_completes hu hd₁).sat (foldRecords_spec (scanTurn bd) _ d₁)).mono
    fun found d₂ h₂ => ?_
  have hd₂ := hd₁.later h₂.1.toLater
  refine .ite (fun _ => sat_modifyRam.mpr trivial) fun _ => ?_
  rw [sat_bind, sat_onDevice]
  refine ((isErased_completes hd₂ ⟨hu.2.1, hu.2.2.1, Nat.zero_le _, by omega⟩).sat
    (isErased_spec b 0 _ d₂)).mono fun erased d₃ h₃ => ?_
  have hd₃ := hd₂.later h₃.1.toLater
  have hblank : erased = true → Blank bd b d₃.medium := fun herased a h => by
    rw [h₃.1.medium]
    exact h₃.2.mp herased a (Nat.zero_le _) (by omega)
  have herase : Completes (eraseUnless bd b erased) d₃ := by
    rw [eraseUnless, Completes, sat_ite]
    exact ⟨fun _ => .pure trivial, fun _ => eraseSpool_completes hu he hd₃⟩
  rw [sat_bind, sat_onDevice]
  refine (herase.sat (eraseUnless_spec (.refl d₃) hblank)).mono fun _ d₄ h₄ => ?_
  refine writeHeader_completes (s := ⟨d₄, s.ram⟩) hu ha (hd₃.later h₄.1) fun a h => ?_
  rw [h₄.2]
  exact Medium.fill_of_mem (Nat.zero_le _) (by omega)

/-- A slot of which every byte is erased. -/
def ErasedSlot (bd : Build) (m : ℕ → UInt8) (slot : ℕ) : Prop :=
  ∀ a, slotOffset bd slot ≤ a → a < slotOffset bd slot + recordSize bd → m a = 0xff

lemma Renewed.erasedSlot (hu : usable bd b) {sequence : UInt32} {m m' : ℕ → UInt8}
    (h : Renewed bd b sequence m m') {i : ℕ} (hi : i < bd.spoolMaxRecords) :
    ErasedSlot bd m' i := by
  intro a h1 h2
  have hsize := slotOffset_le_size hu hi
  have hheader := headerSize_le bd i
  rw [h.1 a (.inr (by omega))]
  exact Medium.fill_of_mem (Nat.zero_le _) (by omega)

/-- Reclaiming a drained spool: it is renewed if a slot was used. -/
lemma reclaimIfDrained_drained (hu : usable bd b) (he : Erasable bd b) (ha : b.Accepts headerSize)
    (s : System Node) (hd : s.dev.Healthy)
    (hdrained : ∀ i < bd.spoolMaxRecords, ¬ committedAt bd s.dev.medium i) :
    Sat (reclaimIfDrained bd b) s
      (fun _ s' => s'.ram = s.ram ∧ s.dev.Later s'.dev ∧
        if ∃ i < bd.spoolMaxRecords, recordIsErased (recordAt bd s.dev.medium i) = false then
          Renewed bd b s.ram.runtime.sequence s.dev.medium s'.dev.medium
        else s'.dev.medium = s.dev.medium)
      (fun _ _ => False) := by
  rw [reclaimIfDrained, sat_bind, sat_onDevice]
  refine (reclaimScan_drained hu _ 0 false s.dev hd (by omega) hdrained).mono
    fun o d₁ h₁ => ?_
  obtain ⟨h₁, rfl⟩ := h₁
  rw [Bool.false_or, ← List.range_eq_range']
  have hused : ((List.range bd.spoolMaxRecords).any fun i =>
      !recordIsErased (recordAt bd s.dev.medium i)) = true ↔
      ∃ i < bd.spoolMaxRecords, recordIsErased (recordAt bd s.dev.medium i) = false := by
    simp
  cases hany : (List.range bd.spoolMaxRecords).any fun i =>
      !recordIsErased (recordAt bd s.dev.medium i) with
  | false =>
      rw [hany] at hused
      refine .pure ⟨rfl, h₁.toLater, ?_⟩
      rw [if_neg (hused.not.mp Bool.false_ne_true)]
      exact h₁.medium
  | true =>
      rw [hany] at hused
      dsimp only
      rw [sat_bind, sat_onDevice]
      refine ((eraseSpool_completes hu he (hd.later h₁.toLater)).sat (eraseSpool_spec d₁)).mono
        fun _ d₂ h₂ => ?_
      have hl₂ := Device.Later.trans _ _ _ h₁.toLater h₂.1
      have hm₂ : d₂.medium = Medium.fill s.dev.medium 0 (lsSpoolStorageSize bd b.sizeMax) 0xff :=
        h₁.medium ▸ h₂.2
      have hsize := slots_le_size hu
      refine ((writeHeader_completes hu ha (hd.later hl₂) fun a ha => ?_).sat
        (writeHeader_renews hu ⟨d₂, s.ram⟩ hl₂ hm₂)).mono fun _ s' h => ?_
      · rw [hm₂]
        exact Medium.fill_of_mem (Nat.zero_le _) (by omega)
      · rw [if_pos (hused.mp rfl)]
        exact h

/-! ### A whole flush -/

/-- The spool, its backend and the transports let a flush go through. -/
structure Serviceable (bd : Build) (b : Backend) (s : System Node) : Prop where
  usable : usable bd b
  erasable : Erasable bd b
  headerWrites : b.Accepts headerSize
  ackWrites : Acknowledgeable bd b s.dev.medium
  healthy : s.dev.Healthy
  accepting : s.ram.Accepting

/-- A flush drains the spool and reclaims it. -/
lemma spoolFlush_drain (h : Serviceable bd b s) :
    Sat (lsSpoolFlush bd (some b)) s
      (fun _ s' => ∃ l s₁, Passes bd s.dev.medium l s s₁ ∧
        (∀ i < bd.spoolMaxRecords, ¬ committedAt bd s₁.dev.medium i) ∧
        s'.ram = s₁.ram ∧ s₁.dev.Later s'.dev ∧
        if ∃ i < bd.spoolMaxRecords, recordIsErased (recordAt bd s.dev.medium i) = false then
          Renewed bd b s₁.ram.runtime.sequence s₁.dev.medium s'.dev.medium
        else s'.dev.medium = s₁.dev.medium)
      (fun _ _ => False) := by
  rw [lsSpoolFlush, onStorage, if_pos h.usable, spoolFlush]
  refine (flushPasses_drain h.usable h.ackWrites _ s h.healthy h.accepting
    fun _ _ _ hx => hx).bind fun _ s₁ h₁ => ?_
  obtain ⟨l, h₁, hend⟩ := h₁
  -- after as many passes as slots nothing is left
  have hdrained : ∀ i < bd.spoolMaxRecords, ¬ committedAt bd s₁.dev.medium i := by
    refine hend.elim (fun hl i hi => ?_) id
    exact entryAt_eq_none_iff.mp
      (Outbox.items_eq_nil_iff.mp (h₁.drain.eq_nil_of_length hl.ge) i hi)
  refine (reclaimIfDrained_drained h.usable h.erasable h.headerWrites s₁
    (h.healthy.later h₁.dev) hdrained).mono fun _ s' h' => ?_
  simp only [h₁.used] at h'
  exact ⟨l, s₁, h₁, hdrained, h'⟩

/-- **A fault-free flush delivers everything once, in order.** It returns; what it sends is
the intact evidence of the spool, each piece once, by priority and then by sequence number;
and a spool with a used slot is erased behind it, with the sequence number of the runtime as
the floor of its header. -/
theorem flush_delivers (bd : Build) (b : Backend) (s : System Node) (h : Serviceable bd b s)
    (hw : Windowed bd s.dev.medium) :
    Sat (lsSpoolFlush bd (some b)) s
      (fun _ s' => ∃ sent : List Evidence,
        sent.Perm (Outbox.items bd.spoolMaxRecords (intact bd s.dev.medium)) ∧
        sent.Pairwise SendOrder ∧
        sendsOf s'.ram.transport.log =
          (sent.map Evidence.payload).reverse ++ sendsOf s.ram.transport.log ∧
        s'.ram.runtime.sequence = s.ram.runtime.sequence ∧
        if ∃ i < bd.spoolMaxRecords, recordIsErased (recordAt bd s.dev.medium i) = false then
          (∀ i < bd.spoolMaxRecords, ErasedSlot bd s'.dev.medium i) ∧
          headerValid bd (headerAt s'.dev.medium) = true ∧
          (headerAt s'.dev.medium).sequenceFloor = s'.ram.runtime.sequence
        else s'.dev.medium = s.dev.medium)
      (fun _ _ => False) := by
  refine (spoolFlush_drain h).mono fun _ s' h' => ?_
  obtain ⟨l, s₁, hp, hdrained, hram, -, hm⟩ := h'
  have hempty : Outbox.items bd.spoolMaxRecords (entryAt bd s₁.dev.medium) = [] :=
    Outbox.items_eq_nil_iff.mpr fun i hi => entryAt_eq_none_iff.mpr (hdrained i hi)
  have hperm := hp.drain.perm
  rw [hempty, List.append_nil] at hperm
  obtain ⟨_, _, _, hruntime⟩ := hp.ram.runtime
  refine ⟨l.filterMap Entry.evidence, ?_, ?_, hram ▸ hp.sends, by rw [hram, hruntime], ?_⟩
  · have hitems : Outbox.items bd.spoolMaxRecords (intact bd s.dev.medium) =
        (Outbox.items bd.spoolMaxRecords (entryAt bd s.dev.medium)).filterMap Entry.evidence := by
      rw [Outbox.items, Outbox.items, List.filterMap_filterMap]
      exact List.filterMap_congr fun i _ => intact_eq_bind _ i
    rw [hitems]
    exact (hperm.symm.filterMap _)
  · obtain ⟨base, hwin⟩ := hw
    have hoffset : ∀ x ∈ l, Serial.offset base x.record.sequence < 2 ^ 31 := by
      intro x hx
      obtain ⟨i, hi, hx⟩ := List.mem_filterMap.mp (hperm.mem_iff.mpr hx)
      obtain ⟨hc, rfl⟩ := entryAt_eq_some_iff.mp hx
      exact hwin i (List.mem_range.mp hi) hc
    refine List.pairwise_filterMap.mpr (hp.drain.pairwise.imp_of_mem ?_)
    intro x y hx hy hbefore e he e' he'
    exact sendOrder_of_not_before (hoffset x hx) (hoffset y hy)
      (fun hb => hbefore ⟨⟨base, hwin⟩, hb⟩) he he'
  · split_ifs at hm ⊢ with hused
    · refine ⟨fun i hi => hm.erasedSlot h.usable hi, ?_, ?_⟩
      · rw [hm.2]
        exact headerValid_freshHeader _ _
      · rw [hm.2, hram]
        rfl
    · -- no slot is used, so there was nothing to acknowledge
      have hnone : Outbox.items bd.spoolMaxRecords (entryAt bd s.dev.medium) = [] :=
        Outbox.items_eq_nil_iff.mpr fun i hi => entryAt_eq_none_iff.mpr fun hc =>
          hused ⟨i, hi, recordIsErased_of_committed hc⟩
      rw [hnone] at hperm
      rw [hm, hp.idle hperm.nil_eq.symm]

/-- Two records on a device without faults: the theorem applies, and both are sent. -/
theorem flush_delivers_small :
    let s := Run.after (spoolStep smallBuild (some smallFlash))
      [.init, .append basicVector .error, .append basicVector .emergency]
      (blankSpool fun _ _ => .none)
    Completes (lsSpoolFlush smallBuild (some smallFlash)) s ∧
      (intact smallBuild s.dev.medium 0).isSome ∧ (intact smallBuild s.dev.medium 1).isSome ∧
      sendsOf (spoolStep smallBuild (some smallFlash) .flush s).ram.transport.log =
        [basicVector, basicVector] := by
  intro s
  have hfaults : s.dev.faults = fun _ _ => .none := (after_later _ _ _ _).faults
  have htransport : s.ram.transport = idleNode.transport := after_transport (by simp) _
  have hservice : Serviceable smallBuild smallFlash s :=
    { usable := by decide
      erasable := by decide
      headerWrites := by decide
      ackWrites := fun i hi _ => by
        have hi : i < 2 := hi
        interval_cases i <;> decide
      healthy := fun k r => congrFun₂ hfaults k r
      accepting := by rw [Node.Accepting, htransport]; exact ⟨fun _ => rfl, fun _ => rfl⟩ }
  refine ⟨(flush_delivers _ _ s hservice ⟨0, ?_⟩).completes, ?_⟩
  · decide +kernel
  · decide +kernel

end Latch.Spool
