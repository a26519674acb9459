
/-
Free slots: a slot that looks free is erased throughout.

`find_empty_slot` looks at the record header of a slot alone, while an erase covers the
whole spool. `Clean` says that a slot with something behind its header has a valid record.
It is kept by every call but a flush whose erase is interrupted, and an append of an
envelope whose event type the spool does not know: its record is never valid. In a run
without these, free slots are erased throughout, and once nothing fails an append that
finds a slot stores a record that is delivered (`free_slots_usable`). An interrupted erase
of a flush leaves a free slot that is not (`free_slot_dirty`).
-/
import Latch.Spool.Drain

namespace Latch.Spool

open Exec

variable {bd : Build} {b : Backend}

/-! ### Clean spools -/

/-- The bytes of a slot behind its record header are erased. -/
def ErasedPayload (bd : Build) (m : ℕ → UInt8) (slot : ℕ) : Prop :=
  ∀ a, payloadOffset bd slot ≤ a → a < slotOffset bd slot + recordSize bd → m a = 0xff

/-- A bounded quantifier over addresses, counted from the first one. -/
lemma forall_range_iff {P : ℕ → Prop} {lo hi len : ℕ} (h : hi = lo + len) :
    (∀ k < len, P (lo + k)) ↔ ∀ a, lo ≤ a → a < hi → P a := by
  subst h
  refine ⟨fun h a h1 h2 => ?_, fun h k hk => h _ (Nat.le_add_right _ _) (by omega)⟩
  rw [← Nat.add_sub_cancel' h1]
  exact h _ (by omega)

instance (bd : Build) (m : ℕ → UInt8) (slot : ℕ) : Decidable (ErasedHeader bd m slot) :=
  decidable_of_iff (∀ k < recordHeaderSize, m (slotOffset bd slot + k) = 0xff)
    (forall_range_iff (P := fun a => m a = 0xff) rfl)

instance (bd : Build) (m : ℕ → UInt8) (slot : ℕ) : Decidable (ErasedPayload bd m slot) :=
  decidable_of_iff (∀ k < bd.maxEventSize, m (payloadOffset bd slot + k) = 0xff)
    (forall_range_iff (P := fun a => m a = 0xff) (Nat.add_assoc _ _ _).symm)

/-- Where a slot holds no valid record, the bytes behind its header are erased. -/
def Clean (bd : Build) (m : ℕ → UInt8) : Prop :=
  ∀ i < bd.spoolMaxRecords, recordValid bd (recordAt bd m i) = true ∨ ErasedPayload bd m i

section

variable {m m' : ℕ → UInt8} {i : ℕ}

lemma ErasedHeader.invalid (h : ErasedHeader bd m i) :
    recordValid bd (recordAt bd m i) = false :=
  invalid_of_erased (h _ le_rfl (Nat.lt_add_of_pos_right (by decide)))

/-- In a clean spool a slot that looks free is erased behind its header too. -/
lemma Clean.erasedPayload (h : Clean bd m) (hi : i < bd.spoolMaxRecords)
    (he : ErasedHeader bd m i) : ErasedPayload bd m i :=
  (h i hi).resolve_left (by rw [he.invalid]; exact Bool.false_ne_true)

lemma erasedPayload_congr (hs : SameSlot bd m m' i) (h : ErasedPayload bd m i) :
    ErasedPayload bd m' i := by
  intro a h1 h2
  rw [hs a (by rw [payloadOffset] at h1; omega) h2]
  exact h a h1 h2

/-- A slot whose bytes stay is as clean as before. -/
lemma clean_of_sameSlot (hs : SameSlot bd m m' i)
    (h : recordValid bd (recordAt bd m i) = true ∨ ErasedPayload bd m i) :
    recordValid bd (recordAt bd m' i) = true ∨ ErasedPayload bd m' i :=
  h.imp (fun hv => by rwa [recordAt_congr hs]) (erasedPayload_congr hs)

end

variable {s s' : System Node} {d d' : Device}

/-! ### What keeps a spool clean -/

/-- The event type of an envelope is one that the spool knows. -/
def EnvelopeInfo.Known (info : EnvelopeInfo) : Prop :=
  EventType.crash.code ≤ info.type ∧ info.type ≤ EventType.coredump.code

lemma Attempted.clean {limit : ℕ}
    {data : List UInt8} {priority : Priority} {info : EnvelopeInfo}
    (h : Attempted bd limit d d' (newRecord data priority info) data) (hpos : 0 < data.length)
    (hlen : data.length ≤ bd.maxEventSize) (hk : EnvelopeInfo.Known info)
    (hc : Clean bd d.medium) : Clean bd d'.medium := by
  obtain h | ⟨slot, hlt, he, ht, hs⟩ := h
  · exact h.medium ▸ hc
  intro i hi
  by_cases hne : i = slot
  swap
  · exact clean_of_sameSlot (sameSlot_of_agreeOff ht.agree hne) (hc i hi)
  subst hne
  have hvalid : recordValid bd (newRecord data priority info) = true :=
    recordValid_newRecord hpos hlen hk
  have herased := hc.erasedPayload hi he
  rcases hs with hs | hs
  · left
    rw [hs.1]
    exact hvalid
  · rcases hs.payload with hrec | hsame
    · exact .inl (hrec ▸ hvalid)
    · exact .inr fun a h1 h2 => (hsame a h1).trans (herased a h1 h2)

lemma clean_mark {m : ℕ → UInt8} {slot offset : ℕ} {v : UInt8}
    (ho : offset = stateOffset ∨ offset = retryOffset) (hc : Clean bd m) :
    Clean bd (mark bd m slot offset v) := by
  intro i hi
  by_cases hne : i = slot
  swap
  · exact clean_of_sameSlot (sameSlot_mark ho hne) (hc i hi)
  subst hne
  refine (hc i hi).imp (fun hv => ?_) fun he a h1 h2 => ?_
  · rw [mark, recordAt_write_mark ho, recordValid_marks]
    exact hv
  · rw [mark_agreeOff bd m i v ho a (.inr ?_)]
    · exact he a h1 h2
    · simp only [payloadOffset, recordHeaderSize, stateOffset] at h1 ⊢
      omega

/-- Renewing keeps a spool clean where nothing was behind the headers, or where the erase
goes through. -/
lemma Renewing.clean (hu : usable bd b) {sequence : UInt32}
    (h : Renewing bd b sequence d d') (hc : Clean bd d.medium)
    (hsafe : (∀ i < bd.spoolMaxRecords, ErasedPayload bd d.medium i) ∨ ¬ EraseFault bd b d) :
    Clean bd d'.medium := by
  have hsize : ∀ i < bd.spoolMaxRecords, ∀ a, a < slotOffset bd i + recordSize bd →
      a < lsSpoolStorageSize bd b.sizeMax := fun i hi a ha =>
    ha.trans_le (slotOffset_le_size hu hi)
  cases h with
  | erasing k hk medium cause =>
      rw [medium]
      by_cases hall : ∀ i < bd.spoolMaxRecords, ErasedPayload bd d.medium i
      · refine fun i hi => .inr fun a h1 h2 => ?_
        by_cases ha : a < k
        · exact Medium.fill_of_mem (Nat.zero_le _) (by omega)
        · rw [Medium.fill_of_not_mem (.inr (by omega))]
          exact hall i hi a h1 h2
      · rcases cause with rfl | rfl | hf
        · rwa [Medium.fill_zero]
        · exact fun i hi => .inr fun a h1 h2 =>
            Medium.fill_of_mem (Nat.zero_le _) (by have := hsize i hi a h2; omega)
        · exact absurd hf (hsafe.resolve_left hall)
  | writing agree header =>
      refine fun i hi => .inr fun a h1 h2 => ?_
      have hheader := headerSize_le bd i
      have ha := hsize i hi a h2
      rw [payloadOffset] at h1
      rw [agree a (.inr (by omega))]
      exact Medium.fill_of_mem (Nat.zero_le _) (by omega)

lemma Effect.clean (hu : usable bd b) (h : Effect bd b s s')
    (hf : ¬ EraseFault bd b s.dev) (hc : Clean bd s.dev.medium) : Clean bd s'.dev.medium := by
  cases h with
  | looked dev _ => exact dev.medium ▸ hc
  | marked slot _ _ v _ medium _ => exact medium ▸ clean_mark (.inr rfl) hc
  | acked slot _ _ _ medium _ _ => exact medium ▸ clean_mark (.inl rfl) hc
  | renewed _ _ _ renewing => exact renewing.clean hu hc (.inr hf)

lemma Effects.clean (hu : usable bd b) (h : Effects bd b s s')
    (hf : ¬ EraseFault bd b s.dev) (hc : Clean bd s.dev.medium) : Clean bd s'.dev.medium := by
  have hboth : s.dev.Later s'.dev ∧ Clean bd s'.dev.medium := by
    induction h with
    | refl => exact ⟨.refl _, hc⟩
    | tail _ hstep ih =>
        exact ⟨.trans _ _ _ ih.1 hstep.later,
          hstep.clean hu (fun hf' => hf (hf'.of_later ih.1)) ih.2⟩
  exact hboth.2

/-! ### Runs -/

/-- A call of the spool, with the faults of the device during it. -/
structure SpoolCall where
  op : SpoolOp
  faults : ℕ → Request → Fault

/-- The call keeps free slots usable: a flush whose erase goes through, or an append of an
envelope with a known event type. -/
def SpoolCall.Sound (bd : Build) (b : Backend) (c : SpoolCall) : Prop :=
  match c.op with
  | .flush => ∀ k, c.faults k (.erase 0 (lsSpoolStorageSize bd b.sizeMax)) = .none
  | .append data _ => ∀ info, lsEnvelopeValidate data = .ok info → EnvelopeInfo.Known info
  | _ => True

/-- The system with other faults of its device from now on. -/
def withFaults (faults : ℕ → Request → Fault) (s : System Node) : System Node :=
  { s with dev := { s.dev with faults := faults } }

/-- The system after a call. -/
def callStep (bd : Build) (storage : Option Backend) (c : SpoolCall) (s : System Node) :
    System Node :=
  spoolStep bd storage c.op (withFaults c.faults s)

/-- Every sound call keeps a spool clean. -/
lemma callStep_clean {c : SpoolCall} (h : c.Sound bd b)
    (hc : Clean bd s.dev.medium) : Clean bd (callStep bd (some b) c s).dev.medium := by
  obtain ⟨op, faults⟩ := c
  have hmoved : Moved bd (some b) (withFaults faults s) (callStep bd (some b) ⟨op, faults⟩ s) op :=
    spoolStep_moved (some b) op (withFaults faults s)
  cases hmoved with
  | looked dev _ => exact dev.medium ▸ hc
  | renewed found usable fresh _ renewing _ =>
      -- an initialisation that erases has found no valid record
      refine renewing.clean usable hc (.inl fun i hi => (hc i hi).resolve_left fun hv => ?_)
      exact fresh (.inr ⟨i, hi, hv⟩)
  | appended _ _ valid length attempted _ =>
      exact attempted.clean length.1 length.2 (h _ valid) hc
  | flushed found usable effects =>
      obtain rfl := Option.some.inj found
      exact Effects.clean usable effects (fun ⟨k, _, hk⟩ => hk (h k)) hc

lemma after_clean {calls : List SpoolCall} (h : ∀ c ∈ calls, c.Sound bd b)
    (hc : Clean bd s.dev.medium) :
    Clean bd (Run.after (callStep bd (some b)) calls s).dev.medium := by
  induction calls generalizing s with
  | nil => exact hc
  | cons c calls ih =>
      exact ih (fun c' hc' => h c' (List.mem_cons_of_mem _ hc'))
        (callStep_clean (h c (List.mem_cons_self ..)) hc)

/-! ### Appends that find a slot -/

section Completion

variable {d : Device} {slot : ℕ} {data : List UInt8} {r : SpoolRecord}

variable {s : System Node} {priority : Priority}

/-- A record is stored in a slot that is erased throughout. -/
lemma storeRecord_completes (hu : usable bd b)
    (ha : b.Accepts (lsSpoolStorageSize bd b.sizeMax)) (hd : d.Healthy)
    (lt : slot < bd.spoolMaxRecords) (hr : r.Open) (hlen : data.length ≤ bd.maxEventSize)
    (he : ErasedHeader bd d.medium slot) (hp : ErasedPayload bd d.medium slot) :
    Completes (storeRecord bd b slot r data) d := by
  have hsize := slotOffset_le_size hu lt
  have hcap := hu.2.2.2
  have hbytes := r.bytes_length
  have hin : ∀ off len, off + len ≤ slotOffset bd slot + recordSize bd →
      storageBounds b off len := fun off len h => ⟨hu.2.1, hu.2.2.1, by omega, by omega⟩
  have hstate : stateOffset + 1 ≤ recordSize bd := Nat.le_trans (by decide) (Nat.le_add_right _ _)
  have hrec : recordSize bd = recordHeaderSize + bd.maxEventSize := rfl
  have hpay : payloadOffset bd slot = slotOffset bd slot + recordHeaderSize := rfl
  refine (hit_completes hd _).bind ((hit_looked _).sat d) fun _ d₁ h₁ => ?_
  have hd₁ := hd.later h₁.toLater
  refine (program_completes hd₁ ha (hin _ _ (by omega)) (by omega)
    (clears_of_erased fun a h1 h2 => ?_)).bind (program_spec b _ r.bytes d₁) fun _ d₂ h₂ => ?_
  · rw [h₁.medium]
    exact he a h1 (by omega)
  have hd₂ := hd₁.later h₂.1
  refine (hit_completes hd₂ _).bind ((hit_looked _).sat d₂) fun _ d₃ h₃ => ?_
  have hd₃ := hd₂.later h₃.toLater
  refine (program_completes hd₃ ha (hin _ _ (by omega)) (by omega)
    (clears_of_erased fun a h1 h2 => ?_)).bind (program_spec b _ data d₃) fun _ d₄ h₄ => ?_
  · rw [h₃.medium, h₂.2, Medium.write_of_ge (by omega), h₁.medium]
    exact hp a h1 (by omega)
  have hd₄ := hd₃.later h₄.1
  refine (sync_completes hd₄).bind ((sync_looked b).sat d₄) fun _ d₅ h₅ => ?_
  have hd₅ := hd₄.later h₅.toLater
  refine (hit_completes hd₅ _).bind ((hit_looked _).sat d₅) fun _ d₆ h₆ => ?_
  have hd₆ := hd₅.later h₆.toLater
  refine (program_completes hd₆ ha (hin _ _ ?_) ?_ (clears_of_erased fun a h1 h2 => ?_)).bind
    (program_byte b _ spoolRecordCommitted d₆) fun _ d₇ h₇ => sync_completes (hd₆.later h₇.1)
  · rw [List.length_singleton]
    omega
  · rw [List.length_singleton]
    omega
  · -- the state is still erased: the payload lies behind it
    obtain rfl : a = slotOffset bd slot + stateOffset := by
      rw [List.length_singleton] at h2
      omega
    have hbyte : r.bytes[stateOffset]? = some 0xff := by
      rw [← hr.2]
      rfl
    rw [h₆.medium, h₅.medium, h₄.2, Medium.write_of_lt (by
      rw [hpay]
      exact Nat.add_lt_add_left (by decide) _), h₃.medium, h₂.2, Medium.write_at hbyte]

lemma findSlot_completes (hu : usable bd b) (hd : s.dev.Healthy)
    (hfree : ∃ i < slotLimitForPriority bd priority, ErasedHeader bd s.dev.medium i) :
    Completes (findSlot bd b priority) s := by
  have hlimit := slotLimit_le bd priority
  have h : Completes (onDevice (findEmptySlot bd b priority)) s := by
    rw [Completes, sat_onDevice]
    obtain ⟨i, hi, he⟩ := hfree
    refine (findEmptySlotFrom_spec _ 0 s.dev).mono (fun _ _ _ => trivial) (fun e d' herr => ?_)
    obtain ⟨hl, ⟨_, _, _, hlog, hf⟩ | ⟨-, j, hj, hout⟩ | ⟨-, hall⟩⟩ := herr
    · exact hd.not_answered hl.toLater ⟨_, _, hlog, hf⟩
    · have hsize := slotOffset_le_size hu (show j < bd.spoolMaxRecords by omega)
      have hcap := hu.2.2.2
      rw [recordSize] at hsize
      exact hout ⟨hu.2.1, hu.2.2.1, by omega, by omega⟩
    · exact hall i (Nat.zero_le _) (by omega) he
  unfold Completes Sat at h ⊢
  unfold findSlot
  cases hx : onDevice (findEmptySlot bd b priority) s with
  | ok slot s' => trivial
  | error e s' =>
      rw [hx] at h
      exact h.elim

lemma countCommitted_completes (hu : usable bd b) (n slot committed : ℕ) (hd : d.Healthy)
    (hn : slot + n ≤ bd.spoolMaxRecords) :
    Completes (countCommittedFrom bd b n slot committed) d := by
  induction n generalizing slot committed d with
  | zero => exact .pure trivial
  | succ n ih =>
      rw [countCommittedFrom, Completes, sat_bind, sat_attempt]
      refine ((readRecord_completes hu hd (by omega)).sat (readRecord_spec slot d)).mono
        fun record d₁ h₁ => ?_
      exact ih (slot + 1) _ (hd.later h₁.2.toLater) (by omega)

lemma spoolAppend_completes (hu : usable bd b)
    (ha : b.Accepts (lsSpoolStorageSize bd b.sizeMax)) (hd : s.dev.Healthy)
    (hc : Clean bd s.dev.medium) (hlen : data.length ≤ bd.maxEventSize)
    (hfree : ∃ i < slotLimitForPriority bd priority, ErasedHeader bd s.dev.medium i)
    (info : EnvelopeInfo) : Completes (spoolAppend bd b data priority info) s := by
  have hlimit := slotLimit_le bd priority
  refine (findSlot_completes hu hd hfree).bind (findSlot_spec priority s) fun slot s₁ h₁ => ?_
  obtain ⟨h₁, -, lt, he⟩ := h₁
  have hd₁ := hd.later h₁.toLater
  have hp := hc.erasedPayload (lt.trans_le hlimit) he
  have hstore : Completes (storeRecord bd b slot (newRecord data priority info) data) s₁.dev :=
    storeRecord_completes hu ha hd₁ (lt.trans_le hlimit) ⟨rfl, rfl⟩ hlen (h₁.medium ▸ he)
      (h₁.medium ▸ hp)
  rw [Completes, sat_bind, sat_onDevice]
  refine (hstore.sat (storeRecord_spec ⟨rfl, rfl⟩ hlen s₁.dev (h₁.medium ▸ he))).mono
    fun _ d₂ h₂ => ?_
  rw [sat_bind, sat_onDevice]
  refine Sat.mono (countCommitted_completes hu _ 0 0 (hd₁.later h₂.1.toLater) (by omega))
    (fun _ _ _ => ?_) (fun _ _ h => h)
  rw [modifyRuntime, sat_modifyRam]
  trivial

end Completion

variable {s : System Node}

variable {i : ℕ} {e : Evidence} {s' : System Node} {data : List UInt8} (storage : Option Backend)
  (ops : List SpoolOp)

/-! ### Delivery -/

/-- On a healthy device with accepting transports, a flush sends all intact evidence, also if
it does not get through the reclaiming. -/
lemma flush_sends (hu : usable bd b)
    (ha : Acknowledgeable bd b s.dev.medium) (hd : s.dev.Healthy) (ht : s.ram.Accepting)
    (hi : i < bd.spoolMaxRecords) (he : intact bd s.dev.medium i = some e) :
    Sent e.payload s.ram (spoolStep bd (some b) .flush s).ram := by
  refine Sat.leaves (P := fun s' : System Node => Sent e.payload s.ram s'.ram) ?_
  have hreadable : Readable bd i e s.dev := ⟨he, fun ⟨k, _, err, j, hk⟩ => by
    rw [hd] at hk
    cases hk⟩
  rw [SpoolOp.run, lsSpoolFlush, onStorage, if_pos hu, spoolFlush]
  refine ((flushPasses_drain hu ha _ s hd ht fun _ _ _ hx => hx).and
    (flushPasses_effects hu _ s)).bind (fun _ s₁ h₁ => ?_) (fun _ _ h => h.1.elim)
  obtain ⟨⟨l, hp, hend⟩, heffects⟩ := h₁
  have hsent : Sent e.payload s.ram s₁.ram := by
    refine (Effects.readable heffects hi hreadable).resolve_left fun hr => ?_
    have hc := (committed_of_intact hr.1).1
    rcases hend with hl | hdrained
    · exact entryAt_eq_none_iff.mp
        (Outbox.items_eq_nil_iff.mp (hp.drain.eq_nil_of_length hl.ge) i hi) hc
    · exact hdrained i hi hc
  exact (reclaimIfDrained_effect hu s₁).mono (fun _ s' h => hsent.mono (.refl _) h.flushed)
    (fun _ s' h => hsent.mono (.refl _) h.flushed)

/-- The transports were asked to send the data and accepted it, on the way from `s` to `s'`. -/
def DeliveredBetween (data : List UInt8) (s s' : System Node) : Prop :=
  ∃ fresh, delivered s'.ram.transport.log = fresh ++ delivered s.ram.transport.log ∧ data ∈ fresh

lemma Node.Accepting.moved {storage : Option Backend} {op : SpoolOp}
    (h : s.ram.Accepting) (hm : Moved bd storage s s' op) : s'.ram.Accepting := by
  by_cases hop : op = .flush
  · subst hop
    cases hm with
    | looked _ transport => rwa [Node.Accepting, transport]
    | flushed _ _ effects => exact h.flushed (Effects.flushed effects)
  · rwa [Node.Accepting, hm.transport hop]

lemma after_accepting
    (h : s.ram.Accepting) : (Run.after (spoolStep bd storage) ops s).ram.Accepting := by
  induction ops generalizing s with
  | nil => exact h
  | cons op ops ih => exact ih (h.moved (spoolStep_moved storage op s))

lemma payloadsReadable_of_healthy {d : Device} (hd : d.Healthy) : PayloadsReadable bd d := by
  rintro i - - ⟨k, -, err, j, hk⟩
  rw [hd] at hk
  cases hk

/-- On a healthy device every flush of a run can read the payloads. -/
lemma meets_of_healthy
    (hd : s.dev.Healthy) :
    Run.Meets (spoolStep bd storage) (fun op s => op = .flush → PayloadsReadable bd s.dev)
      ops s := by
  induction ops generalizing s with
  | nil => trivial
  | cons op ops ih =>
      exact ⟨fun _ => payloadsReadable_of_healthy hd,
        ih (hd.later (spoolStep_moved storage op s).later)⟩

lemma Sent.deliveredBetween
    (h : Sent data s.ram s'.ram) : DeliveredBetween data s s' := by
  obtain ⟨id, fresh, hlog, hmem⟩ := h
  refine ⟨delivered fresh, ?_, List.mem_filterMap.mpr ⟨_, hmem, rfl⟩⟩
  rw [hlog, delivered, List.filterMap_append]
  rfl

/-- Where nothing fails, evidence that is in the spool is delivered by the next flush, if not
before. -/
lemma delivered_later (hu : usable bd b) (ha : b.Accepts (lsSpoolStorageSize bd b.sizeMax)) (hd : s.dev.Healthy) (ht : s.ram.Accepting)
    (hi : i < bd.spoolMaxRecords) (he : intact bd s.dev.medium i = some e)
    (rest : List SpoolOp) :
    DeliveredBetween e.payload s (Run.after (spoolStep bd (some b)) (rest ++ [.flush]) s) := by
  rw [Run.after_append, Run.after_cons, Run.after_nil]
  have hd₁ := hd.later (after_later bd (some b) rest s)
  have ht₁ : (Run.after (spoolStep bd (some b)) rest s).ram.Accepting := after_accepting _ rest ht
  have hrest : Retains bd s (Run.after (spoolStep bd (some b)) rest s) :=
    after_retains (meets_of_healthy _ rest hd)
  generalize Run.after (spoolStep bd (some b)) rest s = s₁ at hd₁ ht₁ hrest ⊢
  obtain ⟨fresh, hfresh, hkeep⟩ := hrest
  simp only [outbox] at hfresh hkeep
  rcases hkeep i e (by rwa [if_pos hi]) with hpending | hmem
  · -- still there: the flush sends it
    rw [if_pos hi] at hpending
    have hacks : Acknowledgeable bd b s₁.dev.medium := fun j hj _ => by
      have hsize := slotOffset_le_size hu hj
      rw [recordSize] at hsize
      exact ha.mono (by omega)
    obtain ⟨last, hlast, hmem⟩ := (flush_sends hu hacks hd₁ ht₁ hi hpending).deliveredBetween
    exact ⟨last ++ fresh, by rw [hlast, hfresh, List.append_assoc], List.mem_append_left _ hmem⟩
  · have hflush : Retains bd s₁ (spoolStep bd (some b) .flush s₁) :=
      (spoolStep_moved _ _ s₁).retains fun _ => payloadsReadable_of_healthy hd₁
    obtain ⟨last, hlast, -⟩ := hflush
    simp only [outbox] at hlast
    exact ⟨last ++ fresh, by rw [hlast, hfresh, List.append_assoc], List.mem_append_right _ hmem⟩

/-! ### Free slots are usable -/

/-- The system once nothing fails any more: neither a request to the device nor a send. -/
def healed (s : System Node) : System Node :=
  { withFaults (fun _ _ => .none) s with
    ram := { s.ram with
      transport := { s.ram.transport with selects := fun _ => true, sends := fun _ => none } } }

/-- An append of the envelope reaches the search for a slot and finds one, and the backend
can program the spool. -/
structure Appendable (bd : Build) (b : Backend) (m : ℕ → UInt8) (data : List UInt8)
    (priority : Priority) (info : EnvelopeInfo) : Prop where
  usable : usable bd b
  writes : b.Accepts (lsSpoolStorageSize bd b.sizeMax)
  length : 0 < data.length ∧ data.length ≤ bd.maxEventSize
  valid : lsEnvelopeValidate data = .ok info
  known : EnvelopeInfo.Known info
  free : ∃ i < slotLimitForPriority bd priority, ErasedHeader bd m i

/-- On a clean spool such an append returns, and the next flush delivers the envelope, if no
flush before it does. -/
lemma append_delivered {priority : Priority}
    {info : EnvelopeInfo} (hd : s.dev.Healthy) (ht : s.ram.Accepting)
    (hc : Clean bd s.dev.medium) (h : Appendable bd b s.dev.medium data priority info) :
    Sat (lsSpoolAppend bd (some b) data priority) s
      (fun _ s' => ∀ rest, DeliveredBetween data s'
        (Run.after (spoolStep bd (some b)) (rest ++ [.flush]) s'))
      (fun _ _ => False) := by
  have hcomplete : Completes (lsSpoolAppend bd (some b) data priority) s := by
    have hlen := h.length
    rw [lsSpoolAppend, if_neg (by omega), onStorage, if_pos h.usable, h.valid]
    refine (spoolAppend_completes h.usable h.writes hd hc hlen.2 h.free info).bind
      (spoolAppend_spec s hlen.2 priority info) fun _ s₁ _ => ?_
    rw [Completes, sat_modifyRam]
    trivial
  refine (hcomplete.sat (lsSpoolAppend_spec h.usable s data priority)).mono
    fun _ s' h' rest => ?_
  obtain ⟨info', hv, hpos, hlen, ⟨slot, lt, -, ht', hstored⟩, -, hcounted⟩ := h'
  obtain rfl : info = info' := Except.ok.inj (h.valid.symm.trans hv)
  have hintact : intact bd s'.dev.medium slot = some ⟨data, info.sequence, priority.code⟩ :=
    intact_eq_some_iff.mpr ⟨deliverable_stored hstored hpos hlen h.known, info, hv⟩
  have htransport : s'.ram.transport = s.ram.transport := hcounted.transport
  refine delivered_later h.usable h.writes (hd.later ht'.toLater) ?_
    (lt.trans_le (slotLimit_le bd priority)) hintact rest
  rwa [Node.Accepting, htransport]

/-- **Free slots are usable.** In every state of a run from blank media whose flushes all get
their erase through and whose appends are of known event types, a slot that looks free is
erased throughout; and if nothing fails from there on, an append that finds a slot returns,
and its envelope is delivered by the next flush, if not before. -/
theorem free_slots_usable (bd : Build) (b : Backend) (calls : List SpoolCall)
    (hsound : ∀ c ∈ calls, c.Sound bd b) (s₀ : System Node)
    (hblank : ∀ a, s₀.dev.medium a = 0xff) :
    let s := Run.after (callStep bd (some b)) calls s₀
    (∀ i < bd.spoolMaxRecords, ErasedHeader bd s.dev.medium i → ErasedPayload bd s.dev.medium i) ∧
      ∀ data priority info, Appendable bd b s.dev.medium data priority info →
        Sat (lsSpoolAppend bd (some b) data priority) (healed s)
          (fun _ s' => ∀ rest, DeliveredBetween data s'
            (Run.after (spoolStep bd (some b)) (rest ++ [.flush]) s'))
          (fun _ _ => False) := by
  intro s
  have hclean : Clean bd s.dev.medium :=
    after_clean hsound fun _ _ => .inr fun a _ _ => hblank a
  refine ⟨fun i hi he => hclean.erasedPayload hi he, fun data priority info h => ?_⟩
  exact append_delivered (fun _ _ => rfl) ⟨fun _ => rfl, fun _ => rfl⟩ hclean h

/-- A spool with one record: the theorem applies, and to an append to the other slot too. -/
theorem free_slots_usable_small :
    let quiet : ℕ → Request → Fault := fun _ _ => .none
    let calls : List SpoolCall := [⟨.init, quiet⟩, ⟨.append basicVector .error, quiet⟩]
    let s := Run.after (callStep smallBuild (some smallFlash)) calls (blankSpool quiet)
    ErasedPayload smallBuild s.dev.medium 1 ∧
      Completes (lsSpoolAppend smallBuild (some smallFlash) basicVector .emergency) (healed s) := by
  intro quiet calls s
  have hvalid : lsEnvelopeValidate basicVector = .ok ⟨1, 2, 0, 0, 7, 9, 6⟩ := by decide +kernel
  have hknown : EnvelopeInfo.Known ⟨1, 2, 0, 0, 7, 9, 6⟩ := ⟨by decide, by decide⟩
  have hsound : ∀ c ∈ calls, c.Sound smallBuild smallFlash := by
    intro c hc
    simp only [calls, List.mem_cons, List.not_mem_nil, or_false] at hc
    rcases hc with rfl | rfl
    · trivial
    · intro info hinfo
      obtain rfl := Except.ok.inj (hvalid.symm.trans hinfo)
      exact hknown
  have hfree : ErasedHeader smallBuild s.dev.medium 1 := by decide +kernel
  obtain ⟨hpayload, hdelivers⟩ := free_slots_usable smallBuild smallFlash calls hsound
    (blankSpool quiet) fun _ => rfl
  refine ⟨hpayload 1 (by decide) hfree,
    (hdelivers basicVector .emergency ⟨1, 2, 0, 0, 7, 9, 6⟩ ?_).completes⟩
  exact ⟨by decide, by decide, by decide, hvalid, hknown, 1, by decide, hfree⟩

/-- The basic vector with the next sequence number and the next event id. -/
def nextVector : List UInt8 :=
  [0x4c, 0x53, 0x54, 0x50, 0x01, 0x02, 0x00, 0x00, 0x08, 0x00, 0x00, 0x00, 0x0a, 0x00, 0x00,
    0x00, 0x06, 0x00, 0x00, 0x00, 0xe6, 0x45, 0xdf, 0x75, 0x01, 0x00, 0x02, 0x00, 0xaa, 0xbb,
    0xea, 0x84, 0xcc, 0xd8]

/-- **An interrupted erase leaves a dirty slot.** Both records of a small spool are delivered,
and the power is cut in the erase of the reclaiming, inside the payload of the first slot.
The next initialisation takes the spool as it is, because of the record in the second slot;
the first slot looks free but is not erased, and an append to it fails although nothing else
does. -/
theorem free_slot_dirty :
    let quiet : ℕ → Request → Fault := fun _ _ => .none
    let cut : ℕ → Request → Fault := fun _ r => if r = .erase 0 256 then .cut 55 else .none
    let calls : List SpoolCall := [⟨.init, quiet⟩, ⟨.append basicVector .error, quiet⟩,
      ⟨.append basicVector .emergency, quiet⟩, ⟨.flush, cut⟩, ⟨.reset default, quiet⟩]
    let s := Run.after (callStep smallBuild (some smallFlash)) calls (blankSpool quiet)
    let s' := callStep smallBuild (some smallFlash) ⟨.init, quiet⟩ s
    Completes (lsSpoolInit smallBuild (some smallFlash)) (withFaults quiet s) ∧
      ErasedHeader smallBuild s'.dev.medium 0 ∧ ¬ ErasedPayload smallBuild s'.dev.medium 0 ∧
      (lsEnvelopeValidate nextVector).isOk ∧
      ¬ Completes (lsSpoolAppend smallBuild (some smallFlash) nextVector .error) (healed s') := by
  decide +kernel

end Latch.Spool
