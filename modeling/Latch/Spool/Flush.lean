/-
What a flush of the spool can do.

A flush is a sequence of effects: it looks at the device, it marks a failed try of a
committed record, it acknowledges a committed record, or it renews a spool in which no
committed record is left. `flush_effects` says so of every exit of `ls_spool_flush`; what a
flush keeps is then shown one effect at a time.

An effect that acknowledges a record says why: its payload was sent, or it is not an intact
envelope, or the device failed to read it. The last reason is the one by which evidence is
lost (`flush_discards_unread`); without it nothing intact is (`spool_retains`).
-/
import Latch.Lib.Run
import Latch.Spool.Append

namespace Latch.Spool

open Bytes Exec

variable {bd : Build} {b : Backend}

/-! ### Effects -/

/-- The node went on flushing: its statistics and the log of the transports changed. -/
structure Node.Flushed (n n' : Node) : Prop where
  selects : n'.transport.selects = n.transport.selects
  sends : n'.transport.sends = n.transport.sends
  log : n.transport.log <:+ n'.transport.log
  accepted : n'.accepted = n.accepted
  runtime : ∃ corrupt failures saturated, n'.runtime =
    { n.runtime with spoolCorruptRecords := corrupt, spoolTransportFailures := failures
                     spoolRetrySaturated := saturated }

lemma Node.Flushed.refl (n : Node) : n.Flushed n := ⟨rfl, rfl, List.suffix_rfl, rfl, _, _, _, rfl⟩

lemma Node.Flushed.trans {n₁ n₂ n₃ : Node} (h : n₁.Flushed n₂) (h' : n₂.Flushed n₃) :
    n₁.Flushed n₃ := by
  obtain ⟨c, f, t, hr⟩ := h.runtime
  obtain ⟨c', f', t', hr'⟩ := h'.runtime
  exact ⟨h'.selects.trans h.selects, h'.sends.trans h.sends, h.log.trans h'.log,
    h'.accepted.trans h.accepted, c', f', t', by rw [hr', hr]⟩

lemma Node.flushed_logged (n : Node) (call : TransportCall) : n.Flushed (n.logged call) :=
  ⟨rfl, rfl, List.suffix_cons _ _, rfl, _, _, _, rfl⟩

/-- The payload of the slot was sent and accepted between two states of the node. -/
def Sent (payload : List UInt8) (n n' : Node) : Prop :=
  ∃ id fresh, n'.transport.log = fresh ++ n.transport.log ∧ .send id payload none ∈ fresh

/-- The device fails to read the payload of a slot. -/
def PayloadFault (bd : Build) (d : Device) (slot : ℕ) : Prop :=
  ∃ k, d.log.length ≤ k ∧ ∃ e j, d.faults k
    (.read (payloadOffset bd slot) (recordAt bd d.medium slot).length.toNat) = .fail e j

/-- The medium after one of the marks of a slot was programmed. -/
def mark (bd : Build) (m : ℕ → UInt8) (slot offset : ℕ) (v : UInt8) : ℕ → UInt8 :=
  Medium.write m (slotOffset bd slot + offset) [v]

/-- One step of a flush. -/
inductive Effect (bd : Build) (b : Backend) (s s' : System Node) : Prop where
  | looked (dev : s.dev.Looked s'.dev) (ram : s.ram.Flushed s'.ram)
  | marked (slot : ℕ) (lt : slot < bd.spoolMaxRecords) (committed : committedAt bd s.dev.medium slot)
      (v : UInt8) (dev : s.dev.Later s'.dev)
      (medium : s'.dev.medium = mark bd s.dev.medium slot retryOffset v)
      (ram : s.ram.Flushed s'.ram)
  | acked (slot : ℕ) (lt : slot < bd.spoolMaxRecords) (committed : committedAt bd s.dev.medium slot)
      (dev : s.dev.Later s'.dev)
      (medium : s'.dev.medium = mark bd s.dev.medium slot stateOffset spoolRecordAcked)
      (ram : s.ram.Flushed s'.ram)
      (reason : Sent (payloadAt bd s.dev.medium slot) s.ram s'.ram ∨
        intact bd s.dev.medium slot = none ∨ PayloadFault bd s.dev slot)
  | renewed (drained : ∀ i < bd.spoolMaxRecords, ¬ committedAt bd s.dev.medium i)
      (dev : s.dev.Later s'.dev) (ram : s'.ram = s.ram)
      (renewing : Renewing bd b s.ram.runtime.sequence s.dev s'.dev)

/-! ### The functions of a flush -/

/-- A mark of one byte, with the sync behind it: at an error it may be missing. -/
lemma programMark_spec (offset : ℕ) (v : UInt8) (slot : ℕ) (d : Device) :
    Sat (do lsStorageProgram b (slotOffset bd slot + offset) [v]; b.sync) d
      (fun _ d' => d.Later d' ∧ d'.medium = mark bd d.medium slot offset v)
      (fun _ d' => d.Looked d' ∨ d.Later d' ∧ d'.medium = mark bd d.medium slot offset v) := by
  refine (program_byte b _ v d).bind (fun _ d₁ h₁ => ?_) (fun _ d₁ h₁ => ?_)
  · exact ((sync_looked b).sat d₁).mono
      (fun _ d₂ h₂ => ⟨.trans _ _ _ h₁.1 h₂.toLater, h₂.medium.trans h₁.2⟩)
      (fun _ d₂ h₂ => .inr ⟨.trans _ _ _ h₁.1 h₂.toLater, h₂.medium.trans h₁.2⟩)
  · obtain ⟨hl, hm | hm⟩ := h₁
    · exact .inl ⟨hl, hm⟩
    · exact .inr ⟨hl, hm⟩

section

variable {s s₁ : System Node} {slot : ℕ}

/-- An acknowledgement at the end of a pass that has only looked at the device so far. -/
lemma acknowledge_effect (lt : slot < bd.spoolMaxRecords)
    (hc : committedAt bd s.dev.medium slot) (hl : s.dev.Looked s₁.dev)
    (hr : s.ram.Flushed s₁.ram)
    (reason : Sent (payloadAt bd s.dev.medium slot) s.ram s₁.ram ∨
      intact bd s.dev.medium slot = none ∨ PayloadFault bd s.dev slot) :
    Sat (onDevice (acknowledgeRecord bd b slot)) s₁ (fun _ s' => Effect bd b s s')
      (fun _ s' => Effect bd b s s') := by
  rw [sat_onDevice, acknowledgeRecord, setRecordState]
  have hacked : ∀ d' : Device, s₁.dev.Later d' ∧
      d'.medium = mark bd s₁.dev.medium slot stateOffset spoolRecordAcked →
      Effect bd b s ⟨d', s₁.ram⟩ := fun d' h =>
    .acked slot lt hc (.trans _ _ _ hl.toLater h.1) (by rw [h.2, hl.medium]) hr reason
  refine (programMark_spec stateOffset spoolRecordAcked slot s₁.dev).mono
    (fun _ d' h => hacked d' h) (fun _ d' h => ?_)
  rcases h with h | h
  · exact .looked (.trans _ _ _ hl h) hr
  · exact hacked d' h

/-- A record whose payload cannot be used is acknowledged. -/
lemma discardRecord_effect (lt : slot < bd.spoolMaxRecords)
    (hc : committedAt bd s.dev.medium slot) (hl : s.dev.Looked s₁.dev) (hr : s₁.ram = s.ram)
    (reason : intact bd s.dev.medium slot = none ∨ PayloadFault bd s.dev slot) :
    Sat (discardRecord bd b slot) s₁ (fun _ s' => Effect bd b s s')
      (fun _ s' => Effect bd b s s') := by
  rw [discardRecord, sat_bind, modifyRuntime, sat_modifyRam]
  exact acknowledge_effect lt hc hl
    ⟨by rw [hr], by rw [hr], by rw [hr], by rw [hr], _, _, _, by rw [hr]⟩ (.inr reason)

/-- A failed try is marked, as long as there is a mark left. -/
lemma incrementRetries_effect (lt : slot < bd.spoolMaxRecords)
    (hc : committedAt bd s.dev.medium slot) (hl : s.dev.Looked s₁.dev)
    (hr : s.ram.Flushed s₁.ram) (retryBits : UInt8) :
    Sat (incrementRetries bd b slot retryBits) s₁ (fun _ s' => Effect bd b s s')
      (fun _ s' => Effect bd b s s') := by
  dsimp only [incrementRetries]
  rw [sat_ite]
  constructor
  · intro _
    rw [modifyRuntime, sat_modifyRam]
    exact .looked hl (hr.trans ⟨rfl, rfl, List.suffix_rfl, rfl, _, _, _, rfl⟩)
  · intro _
    rw [sat_onDevice]
    have hmarked : ∀ d' : Device, s₁.dev.Later d' ∧
        d'.medium = mark bd s₁.dev.medium slot retryOffset (nextRetryBits retryBits) →
        Effect bd b s ⟨d', s₁.ram⟩ := fun d' h =>
      .marked slot lt hc _ (.trans _ _ _ hl.toLater h.1) (by rw [h.2, hl.medium]) hr
    refine (programMark_spec retryOffset _ slot s₁.dev).mono (fun _ d' h => hmarked d' h)
      (fun _ d' h => ?_)
    rcases h with h | h
    · exact .looked (.trans _ _ _ hl h) hr
    · exact hmarked d' h

lemma lsTransportSelect_spec (priority : UInt8) (length : ℕ) (s : System Node) :
    Sat (lsTransportSelect priority length) s
      (fun found s' => s'.dev = s.dev ∧ found = s.ram.transport.selects s.ram.transport.log.length ∧
        s'.ram = s.ram.logged (.select priority length found))
      (fun _ _ => False) := by
  rw [lsTransportSelect, sat_bind, sat_getRam, sat_bind, sat_modifyRam, sat_pure]
  exact ⟨rfl, rfl, rfl⟩

/-- The send of a pass: nothing was sent where the injection point fails. -/
lemma sendRecord_spec (eventId : UInt32) (data : List UInt8) (s : System Node) :
    Sat (sendRecord eventId data) s
      (fun failure s' => s.dev.Looked s'.dev ∧ s.ram.Flushed s'.ram ∧
        (failure = none → Sent data s.ram s'.ram))
      (fun _ s' => s.dev.Looked s'.dev ∧ s'.ram = s.ram) := by
  rw [sendRecord, sat_bind, sat_onDevice, sat_attempt]
  refine ((hit_looked .spoolBeforeSend).sat s.dev).mono (fun _ d₁ h₁ => ?_) (fun e d₁ h₁ => ?_)
  · dsimp only
    rw [lsTransportSend, sat_bind, sat_getRam, sat_bind, sat_modifyRam, sat_pure]
    refine ⟨h₁, Node.flushed_logged _ _, fun hf => ?_⟩
    rw [hf]
    exact ⟨eventId, [.send eventId data none], rfl, List.mem_singleton_self _⟩
  · cases e with
    | cut => exact ⟨h₁, rfl⟩
    | fail e => exact .pure ⟨h₁, .refl _, nofun⟩

lemma Sent.mono {payload : List UInt8} {n n₁ n₂ n₃ : Node} (h : Sent payload n₁ n₂)
    (hl : n.Flushed n₁) (hl' : n₂.Flushed n₃) : Sent payload n n₃ := by
  obtain ⟨id, fresh, hlog, hmem⟩ := h
  obtain ⟨before, hbefore⟩ := hl.log
  obtain ⟨after, hafter⟩ := hl'.log
  refine ⟨id, after ++ (fresh ++ before), ?_, ?_⟩
  · rw [← hafter, hlog, ← hbefore, List.append_assoc, List.append_assoc]
  · exact List.mem_append_right _ (List.mem_append_left _ hmem)

lemma deliverRecord_effect (lt : slot < bd.spoolMaxRecords)
    (hc : committedAt bd s.dev.medium slot) (hl : s.dev.Looked s₁.dev) (hr : s₁.ram = s.ram)
    (selected : SpoolRecord) (info : EnvelopeInfo) :
    Sat (deliverRecord bd b slot selected info (payloadAt bd s.dev.medium slot)) s₁
      (fun _ s' => Effect bd b s s') (fun _ s' => Effect bd b s s') := by
  rw [deliverRecord]
  refine (lsTransportSelect_spec _ _ s₁).bind fun found s₂ h₂ => ?_
  obtain ⟨hd₂, -, hr₂⟩ := h₂
  have hl₂ : s.dev.Looked s₂.dev := by rw [hd₂]; exact hl
  have hf₂ : s.ram.Flushed s₂.ram := by
    rw [hr₂, hr]
    exact Node.flushed_logged _ _
  refine .ite (fun _ => ?_) fun _ => .throw (.looked hl₂ hf₂)
  refine (sendRecord_spec _ _ s₂).bind (fun failure s₃ h₃ => ?_)
    (fun _ s₃ h₃ => .looked (.trans _ _ _ hl₂ h₃.1) (h₃.2 ▸ hf₂))
  obtain ⟨hd₃, hf₃, hsent⟩ := h₃
  have hl₃ := Device.Looked.trans _ _ _ hl₂ hd₃
  cases failure with
  | none =>
      dsimp only
      rw [sat_onDevice]
      refine ((hit_looked .spoolBeforeAck).sat s₃.dev).bind (fun _ d₄ h₄ => ?_)
        (fun _ d₄ h₄ => .looked (.trans _ _ _ hl₃ h₄) (hf₂.trans hf₃))
      rw [← @sat_onDevice _ _ ⟨d₄, s₃.ram⟩]
      exact acknowledge_effect lt hc (.trans _ _ _ hl₃ h₄) (hf₂.trans hf₃)
        (.inl ((hsent rfl).mono hf₂ (.refl _)))
  | some e =>
      dsimp only
      rw [sat_bind, modifyRuntime, sat_modifyRam, sat_bind]
      refine Sat.mono (incrementRetries_effect lt hc ?_ ?_ _)
        (fun _ s₄ h₄ => .throw h₄) (fun _ _ h => h)
      · exact hl₃
      · exact (hf₂.trans hf₃).trans ⟨rfl, rfl, List.suffix_rfl, rfl, _, _, _, rfl⟩

/-- The payload of a valid record lies inside the device. -/
lemma payload_inBounds (hu : usable bd b) (lt : slot < bd.spoolMaxRecords) {r : SpoolRecord}
    (hv : recordValid bd r = true) : b.inBounds (payloadOffset bd slot) r.length.toNat := by
  have hlen := length_le_of_valid hv
  have hsize := slotOffset_le_size hu lt
  have hcap := hu.2.2.2
  simp only [recordSize] at hsize
  constructor <;> rw [payloadOffset] <;> omega

/-- One pass over a selected record. -/
lemma processRecord_effect (hu : usable bd b) (lt : slot < bd.spoolMaxRecords)
    (hc : committedAt bd s.dev.medium slot) (hl : s.dev.Looked s₁.dev) (hr : s₁.ram = s.ram) :
    Sat (processRecord bd b slot (recordAt bd s.dev.medium slot)) s₁
      (fun _ s' => Effect bd b s s') (fun _ s' => Effect bd b s s') := by
  have hin : b.inBounds (payloadOffset bd slot) (recordAt bd s.dev.medium slot).length.toNat :=
    payload_inBounds hu lt hc.1
  rw [processRecord, sat_bind, sat_onDevice, sat_attempt]
  refine (read_exits b _ _ s₁.dev).mono (fun data d₂ h₂ => ?_) (fun e d₂ h₂ => ?_)
  · obtain ⟨rfl, hd₂, -⟩ := h₂
    have hl₂ := Device.Looked.trans _ _ _ hl (hd₂ ▸ looked_ask s₁.dev _)
    have hdata : Medium.read s₁.dev.medium (payloadOffset bd slot)
        (recordAt bd s.dev.medium slot).length.toNat = payloadAt bd s.dev.medium slot := by
      rw [hl.medium, payloadAt]
    dsimp only
    rw [hdata, sat_ite]
    constructor
    · intro hcrc
      refine discardRecord_effect lt hc hl₂ hr (.inl ?_)
      rw [intact, deliverable, if_neg fun h => hcrc h.2.symm]
      rfl
    · intro _
      cases hv : lsEnvelopeValidate (payloadAt bd s.dev.medium slot) with
      | error e =>
          refine discardRecord_effect lt hc hl₂ hr (.inl (Option.eq_none_iff_forall_ne_some.mpr ?_))
          intro e' he'
          obtain ⟨hdel, info, hok⟩ := intact_eq_some_iff.mp he'
          obtain ⟨-, -, rfl⟩ := deliverable_eq_some_iff.mp hdel
          rw [hv] at hok
          cases hok
      | ok info => exact @deliverRecord_effect bd b s ⟨d₂, s₁.ram⟩ slot lt hc hl₂ hr _ info
  · obtain ⟨⟨hout, -⟩, -⟩ | ⟨hd₂, hf⟩ := h₂
    · exact absurd hin hout
    have h₂ : s₁.dev.Looked d₂ := hd₂ ▸ looked_ask s₁.dev _
    cases e with
    | cut => exact .looked (.trans _ _ _ hl h₂) (hr ▸ .refl _)
    | fail e =>
        obtain ⟨k, hk⟩ := Fault.error_eq_fail hf
        have hfault : PayloadFault bd s.dev slot :=
          ⟨s₁.dev.log.length, hl.log.length_le, e, k, hl.faults ▸ hk⟩
        exact discardRecord_effect lt hc (.trans _ _ _ hl h₂) hr (.inr hfault)

lemma flushPass_effect (hu : usable bd b) (s : System Node) :
    Sat (flushPass bd b) s (fun _ s' => Effect bd b s s') (fun _ s' => Effect bd b s s') := by
  rw [flushPass, sat_bind, sat_onDevice]
  refine (selectRecord_spec s.dev).mono (fun o d₁ h₁ => ?_) (fun _ d₁ h₁ => .looked h₁ (.refl _))
  obtain ⟨h₁, hsel⟩ := h₁
  cases o with
  | none => exact .pure (.looked h₁ (.refl _))
  | some p =>
      obtain ⟨slot, record⟩ := p
      obtain ⟨lt, rfl, hc⟩ := hsel slot record rfl
      dsimp only
      rw [sat_bind]
      exact (@processRecord_effect bd b s ⟨d₁, s.ram⟩ slot hu lt hc h₁ rfl).mono
        fun _ _ h => .pure h

end

/-! ### Every exit of a flush -/

/-- A sequence of effects. -/
abbrev Effects (bd : Build) (b : Backend) : System Node → System Node → Prop :=
  Relation.ReflTransGen (Effect bd b)

lemma flushPasses_effects (hu : usable bd b) (n : ℕ) (s : System Node) :
    Sat (flushPasses bd b n) s (fun _ s' => Effects bd b s s') (fun _ s' => Effects bd b s s') := by
  induction n generalizing s with
  | zero => exact .pure .refl
  | succ n ih =>
      rw [flushPasses]
      refine (flushPass_effect hu s).bind (fun found s₁ h₁ => ?_) (fun _ _ h => .single h)
      rw [sat_ite]
      exact ⟨fun _ => (ih s₁).mono (fun _ _ h => .head h₁ h) (fun _ _ h => .head h₁ h),
        fun _ => .pure (.single h₁)⟩

lemma reclaimIfDrained_effect (hu : usable bd b) (s : System Node) :
    Sat (reclaimIfDrained bd b) s (fun _ s' => Effect bd b s s') (fun _ s' => Effect bd b s s') := by
  rw [reclaimIfDrained, sat_bind, sat_onDevice]
  refine (reclaimScan_spec _ 0 false s.dev).mono (fun o d₁ h₁ => ?_)
    (fun _ d₁ h₁ => .looked h₁ (.refl _))
  obtain ⟨h₁, hdrained⟩ := h₁
  have hlooked : Effect bd b s ⟨d₁, s.ram⟩ := .looked h₁ (.refl _)
  cases o with
  | none => exact .pure hlooked
  | some used =>
      cases used with
      | false => exact .pure hlooked
      | true =>
          have hdrained : ∀ i < bd.spoolMaxRecords, ¬ committedAt bd s.dev.medium i :=
            fun i hi => hdrained nofun i (Nat.zero_le _) (by omega)
          dsimp only
          rw [sat_bind, sat_onDevice]
          refine (eraseSpool_spec d₁).mono (fun _ d₂ h₂ => ?_) (fun _ d₂ h₂ => ?_)
          · refine (writeHeader_renews hu ⟨d₂, s.ram⟩ (.trans _ _ _ h₁.toLater h₂.1)
              (h₁.medium ▸ h₂.2)).mono (fun _ s' h => ?_) (fun _ s' h => ?_)
            · exact .renewed hdrained h.2.1 h.1 h.2.2.renewing
            · exact .renewed hdrained h.2.1 h.1 h.2.2
          · exact .renewed hdrained (.trans _ _ _ h₁.toLater h₂.1) rfl ((h₂.2 _).of_looked h₁)

/-- **What a flush can do.** At every exit of `ls_spool_flush` the system has gone through a
sequence of effects. -/
theorem flush_effects (hu : usable bd b) (s : System Node) :
    Sat (lsSpoolFlush bd (some b)) s (fun _ s' => Effects bd b s s')
      (fun _ s' => Effects bd b s s') := by
  rw [lsSpoolFlush, onStorage, if_pos hu, spoolFlush]
  refine (flushPasses_effects hu _ s).bind fun _ s₁ h₁ => ?_
  exact (reclaimIfDrained_effect hu s₁).mono (fun _ _ h => h₁.tail h) (fun _ _ h => h₁.tail h)

/-! ### Marks and slots -/

section

variable {m : ℕ → UInt8} {i slot offset : ℕ} {v : UInt8}

/-- A mark lies in the header of its slot. -/
lemma mark_agreeOff (bd : Build) (m : ℕ → UInt8) (slot : ℕ) (v : UInt8)
    (ho : offset = stateOffset ∨ offset = retryOffset) :
    Medium.AgreeOff m (mark bd m slot offset v) (slotOffset bd slot + stateOffset) 2 := by
  refine (Medium.agreeOff_write m (slotOffset bd slot + offset) [v]).widen ?_ ?_ <;>
  · rcases ho with rfl | rfl <;> simp [stateOffset, retryOffset]

lemma sameSlot_mark (ho : offset = stateOffset ∨ offset = retryOffset) (hne : i ≠ slot) :
    SameSlot bd m (mark bd m slot offset v) i := by
  refine sameSlot_of_agreeOff ((mark_agreeOff bd m slot v ho).widen ?_ ?_) hne
  · exact Nat.le_add_right _ _
  · simp only [stateOffset, recordSize, recordHeaderSize]
    omega

/-- A retry mark changes nothing that is delivered. -/
lemma recordAt_mark_retry :
    recordAt bd (mark bd m slot retryOffset v) slot =
      { recordAt bd m slot with retryBits := v } := by
  rw [mark, recordAt_write_mark (.inr rfl), if_neg (by decide), if_pos rfl]

lemma payloadAt_mark_retry :
    payloadAt bd (mark bd m slot retryOffset v) slot = payloadAt bd m slot := by
  rw [payloadAt, recordAt_mark_retry, payloadAt,
    (mark_agreeOff bd m slot v (.inr rfl)).read_eq (.inr ?_)]
  simp only [payloadOffset, stateOffset, recordHeaderSize]
  omega

lemma deliverable_mark_retry :
    deliverable bd (mark bd m slot retryOffset v) i = deliverable bd m i := by
  by_cases hne : i = slot
  · subst hne
    refine Option.ext fun e => ?_
    rw [deliverable_eq_some_iff, deliverable_eq_some_iff, payloadAt_mark_retry, committedAt,
      recordAt_mark_retry, recordValid_marks]
    rfl
  · exact deliverable_congr (sameSlot_mark (.inr rfl) hne)

end

end Latch.Spool
