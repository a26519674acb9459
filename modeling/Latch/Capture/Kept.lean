
/-
What `ls_capture_cpu_context` leaves of a fault.

A fault is kept if a committed record of the spool carries its context, or if the retained
snapshot names it. Where the event cannot be stored, the snapshot takes over; but
`ls_spool_append` without a storage returns `LS_OK` and stores nothing, so that nothing takes
over there.

* `Encodes.carries`: an encoded event carries its own fields and those of its context;
* `recordCarries_of_append`: an append that succeeds leaves a record with them;
* `cpu_fault_kept_iff`: a fault is kept in every state exactly if a storage is registered or a
  capture is in progress, or if no envelope has room for a fault.
-/
import Latch.Capture.Fault

namespace Latch

open Exec Spool

variable {bd : Build} {c : Crypto} {b : Backend}

variable {event : Event} {sequence : UInt32} {data : List UInt8} {cpu : ArchContext}

/-! ### The record of an event -/

/-- An encoded event carries its own fields and those of its context. -/
lemma Encodes.carries
    (h : Encodes bd c event sequence data) (hcpu : event.cpu = some cpu) :
    Carries c data (fieldsOf .event [(eventPieces event).flatten] ++ legacyFields cpu) := by
  obtain ⟨rt, bb, mem, uptimeMs, random, t, hok, rfl⟩ := h
  obtain ⟨payload, hpay, hsmall, -, -, eventId, metadata, body, authentication, hsealed, hread⟩ :=
    sat_of_ok (lsEnvelopeEncode_spec bd c bb mem uptimeMs random event bd.maxEventSize sequence _)
      hok
  obtain ⟨x, y, z, ts, -, -, hz, hcarries, -, hext⟩ :=
    sat_of_ok (putPayload_spec bd rt bb mem uptimeMs event _) hpay
  have hdata : payload.data = Tlv.encode ([x, y, z] ++ ts) := hext.data_eq
  obtain ⟨f, hf, g, hg, hfpair, hgpair⟩ := hcarries cpu hcpu
  refine ⟨rt, _, _, _, sequence, eventId, [x, y, z] ++ ts, metadata, body, authentication,
    ⟨hdata ▸ hsmall, hdata ▸ hsealed⟩, hread, ?_⟩
  have hmem : ∀ field ∈ fieldsOf .event [(eventPieces event).flatten] ++ legacyFields cpu,
      field = z.pair ∨ field = f.pair ∨ field = g.pair := by
    simp [fieldsOf, legacyFields, hz, hfpair, hgpair]
  intro field hfield
  obtain rfl | rfl | rfl := hmem field hfield
  · exact List.mem_map_of_mem (by simp)
  · exact List.mem_map_of_mem (List.mem_append_right _ hf)
  · exact List.mem_map_of_mem (List.mem_append_right _ hg)

lemma Presents.carries
    (h : Presents bd c event sequence data) (hcpu : event.cpu = some cpu) :
    Carries c data (legacyFields cpu) := by
  obtain ⟨_, _, _, _, h⟩ := h
  exact (h.carries hcpu).mono (List.subset_append_right _ _)

/-- The required fields of an event with a context have a size. -/
def faultEnvelopeMin : ℕ := 385

/-- An event with a context is encoded only where there is room for its required fields. -/
lemma Encodes.room
    (h : Encodes bd c event sequence data) (hcpu : event.cpu = some cpu) :
    faultEnvelopeMin ≤ bd.maxEventSize := by
  obtain ⟨rt, bb, mem, uptimeMs, random, t, hok, rfl⟩ := h
  obtain ⟨payload, hpay, -⟩ :=
    sat_of_ok (lsEnvelopeEncode_spec bd c bb mem uptimeMs random event bd.maxEventSize sequence _)
      hok
  have hroom := sat_of_ok (putPayload_requires bd rt bb mem uptimeMs event (Nat.zero_le _)) hpay
  have htexts : 30 ≤ textsSize (identityFields bd rt) := length_le_textsSize (identityFields bd rt)
  simp only [payloadWriter, List.length_nil, requiredSize, hcpu, cpuSize, legacySize, identitySize,
    lsLepHeaderSize] at hroom
  rw [faultEnvelopeMin]
  omega

lemma EventType.code_range (type : EventType) :
    EventType.crash.code ≤ type.code ∧ type.code ≤ EventType.coredump.code := by
  cases type <;> decide

/-- An append that succeeds leaves a committed record with the bytes. -/
lemma recordCarries_of_append {s t : System Node} {priority : Priority} {fields : List (UInt16 × List UInt8)}
    (h : lsSpoolAppend bd (some b) data priority s = .ok () t)
    (hencodes : Encodes bd c event sequence data) (hcarries : Carries c data fields) :
    usable bd b ∧ RecordCarries bd c t.dev.medium fields := by
  have hu : usable bd b := by
    by_contra hu
    have hrefused : Sat (lsSpoolAppend bd (some b) data priority) s (fun _ _ => False)
        (fun _ _ => True) := by
      rw [lsSpoolAppend]
      refine .ite (fun _ => .throw trivial) fun _ => sat_bind_of_never ?_
      rw [onStorage, if_neg hu]
      exact .throw trivial
    exact sat_of_ok hrefused h
  obtain ⟨info, hv, hpos, hlen, ⟨slot, hslot, -, -, hstored⟩, -⟩ :=
    sat_of_ok (lsSpoolAppend_spec hu s data priority) h
  have htype : info.type = event.type.code := by
    obtain ⟨-, -, info', hv', htype⟩ := hencodes.appendable
    rwa [Except.ok.inj (hv.symm.trans hv')]
  obtain ⟨hc, -, hdata⟩ := deliverable_eq_some_iff.mp
    (deliverable_stored hstored hpos hlen (htype ▸ event.type.code_range))
  refine ⟨hu, slot, hslot.trans_le (slotLimit_le bd priority), hc, ?_⟩
  have hpayload : data = payloadAt bd t.dev.medium slot := congrArg Evidence.payload hdata
  rwa [← hpayload]

/-! ### Faults that are kept -/

/-- A committed record of the registered storage carries the context, or the retained snapshot
names the fault. -/
def FaultKept (bd : Build) (c : Crypto) (context : ArchContext) (s : System Machine) : Prop :=
  (∃ b, s.ram.storage = some b ∧ usable bd b ∧
    RecordCarries bd c s.dev.medium (legacyFields context)) ∨
  ∃ snapshot, lsMinimalSnapshotRead s.ram.retained = some snapshot ∧ snapshot.pc = context.pc ∧
    snapshot.lr = context.lr ∧ snapshot.msp = context.msp ∧ snapshot.psp = context.psp ∧
    snapshot.fault = context.fault

section Kept

variable {context : ArchContext} {s : System Machine}

/-- The snapshot of a fault names it. -/
lemma faultKept_minimalTaken (d : Device) (m : Machine) :
    FaultKept bd c context ⟨d, m.minimalTaken bd context⟩ :=
  .inr ⟨_, lsMinimalSnapshotRead_lsCaptureMinimal context, rfl, rfl, rfl, rfl, rfl⟩

lemma faultKept_of_capturing (hc : s.ram.runtime.capturing = true) :
    Sat (lsCaptureCpuContext bd c (some context)) s (fun _ s' => FaultKept bd c context s')
      (fun _ _ => False) := by
  rw [lsCaptureCpuContext, captureCpuContext, sat_bind, sat_getRam, if_pos hc, sat_modifyRam]
  exact faultKept_minimalTaken _ _

/-- With a storage, or without room for an envelope, an event that is not stored is an error. -/
lemma faultKept_of_storage (hc : s.ram.runtime.capturing = false)
    (h : s.ram.storage.isSome ∨ bd.maxEventSize < faultEnvelopeMin) :
    Sat (lsCaptureCpuContext bd c (some context)) s (fun _ s' => FaultKept bd c context s')
      (fun e s' => e ≠ .cut → FaultKept bd c context s') := by
  rw [lsCaptureCpuContext, captureCpuContext, sat_bind, sat_getRam, if_neg (by simp [hc])]
  refine (faultStarted_spec _ s).bind (fun uptimeMs s₁ h₁ => ?_) (fun e _ h he => absurd h.1 he)
  rw [sat_onFailure]
  refine (lsCaptureEvent_spec s₁).mono (fun _ s' h' => ?_) (fun e s' _ => ?_)
  · obtain ⟨-, m, hm, ⟨hlow, -⟩ | ⟨data, t, hdata, happend, rfl⟩⟩ := h'
    · exact absurd hlow (show ¬ Priority.critical.code < Priority.emergency.code by decide)
    obtain ⟨_, _, _, _, hencodes⟩ := id hdata
    cases hs : s₁.ram.storage with
    | none =>
        rw [← h₁.storage, hs] at h
        exact absurd (hencodes.room rfl) (Nat.not_le.mpr (h.resolve_left Bool.false_ne_true))
    | some b =>
        rw [hs] at happend
        have hstorage : m.storage = some b := hm.storage.trans hs
        exact .inl ⟨b, hstorage, recordCarries_of_append happend hencodes (hdata.carries rfl)⟩
  · cases e with
    | fail err => exact fun _ => faultKept_minimalTaken _ _
    | cut => exact fun he => absurd rfl he

/-- Without a storage an append succeeds. -/
lemma lsSpoolAppend_unregistered {event : Event} {sequence : UInt32} {data : List UInt8}
    (hdata : Encodes bd c event sequence data) (priority : Priority) (t : System Node) :
    Completes (lsSpoolAppend bd none data priority) t := by
  obtain ⟨hpos, hlen, -⟩ := hdata.appendable
  rw [Completes, lsSpoolAppend, if_neg (by omega), sat_bind, onStorage, sat_pure, sat_modifyRam]
  trivial

/-- Without a storage a fault that can be encoded is dropped. -/
lemma fault_dropped (hs : s.ram.storage = none) (hrt : s.ram.runtime.Plain) (hd : s.dev.Dead)
    (hfits : EventFits bd s.ram.runtime.config (some context))
    (hr : lsMinimalSnapshotRead s.ram.retained = none) :
    Sat (lsCaptureCpuContext bd c (some context)) s (fun _ s' => ¬ FaultKept bd c context s')
      (fun _ _ => False) := by
  rw [lsCaptureCpuContext, captureCpuContext, sat_bind, sat_getRam,
    if_neg (by rw [hrt.capturing]; exact Bool.false_ne_true), sat_bind]
  refine (faultStarted_spec _ s).mono (fun uptimeMs s₁ h₁ => ?_) (fun _ _ h => absurd hd h.2)
  have hs₁ : s₁.ram.storage = none := h₁.storage.trans hs
  have hreturns := @lsCaptureEvent_fits bd c (faultEvent bd context none uptimeMs) s₁
    (fun t _ _ data _ hdata => hs₁ ▸ lsSpoolAppend_unregistered hdata _ t)
    (hrt.steady h₁.runtime) rfl
  rw [h₁.runtime.config] at hreturns
  rw [sat_onFailure]
  refine (hreturns.and ((lsCaptureEvent_spec s₁).and (lsCaptureEvent_retained _ s₁))).mono
    (fun _ s' h => ?_) (fun e s' h => absurd hfits h.1)
  obtain ⟨-, ⟨-, m, hm, hs'⟩, hretained⟩ := h
  have hnone : s'.ram.storage = none := by
    obtain ⟨-, rfl⟩ | ⟨data, t, -, -, rfl⟩ := hs' <;> exact hm.storage.trans hs₁
  rintro (⟨b, hb, -⟩ | ⟨snapshot, hsnapshot, -⟩)
  · cases hnone.symm.trans hb
  · rw [hretained, h₁.retained, hr] at hsnapshot
    cases hsnapshot

end Kept

/-- A node without identity and without storage, with retained memory as after a power-up. -/
def bareNode : System Machine :=
  let s := poweredUp fun _ _ => .fail .eio 0
  ⟨s.dev, s.ram.setRuntime { (default : Runtime) with
    config := { (default : Config) with
      identity := { (default : Identity) with firmwareBuildId := some [] } } }⟩

lemma eventFits_bareNode (h : faultEnvelopeMin ≤ bd.maxEventSize) :
    EventFits bd bareNode.ram.runtime.config (some default) := by
  have hsize : requiredSize bd { (default : Runtime) with config := bareNode.ram.runtime.config }
      { (default : Event) with cpu := some default } = 357 := rfl
  rw [EventFits, hsize]
  exact h

/-- **A captured fault is kept** in every state with the given storage, during a capture or
not, exactly if a storage is registered, if it arrives during a capture, or if the build has
no room for the envelope of a fault. -/
theorem cpu_fault_kept_iff (bd : Build) (c : Crypto) (storage : Option Backend) (capturing : Bool) :
    (∀ (s : System Machine) (context : ArchContext), s.ram.storage = storage →
        s.ram.runtime.capturing = capturing →
        Sat (lsCaptureCpuContext bd c (some context)) s (fun _ s' => FaultKept bd c context s')
          (fun e s' => e ≠ .cut → FaultKept bd c context s')) ↔
      storage.isSome = true ∨ capturing = true ∨ bd.maxEventSize < faultEnvelopeMin := by
  constructor
  · intro h
    by_contra hno
    rw [not_or, not_or, Nat.not_lt, Bool.not_eq_true, Option.isSome_eq_false_iff,
      Option.isNone_iff_eq_none, Bool.not_eq_true] at hno
    obtain ⟨rfl, rfl, hroom⟩ := hno
    have hlost := @fault_dropped bd c default bareNode rfl ⟨rfl, rfl, by decide⟩ (fun _ _ => rfl)
      (eventFits_bareNode hroom) rfl
    obtain ⟨_, s', hok, hlost⟩ := hlost.exists_ok
    have hkept := sat_of_ok (h bareNode default rfl rfl) hok
    exact hlost hkept
  · rintro h s context rfl rfl
    cases hc : s.ram.runtime.capturing with
    | true => exact (faultKept_of_capturing hc).mono fun _ _ h => h
    | false =>
        rw [hc] at h
        exact faultKept_of_storage hc (h.imp id fun h => h.resolve_left nofun)

/-- With a registered storage a fault outside a capture is kept. -/
theorem cpu_fault_kept_registered :
    Sat (lsCaptureCpuContext Build.default clearCrypto (some default)) (registered false)
      (fun _ s' => FaultKept Build.default clearCrypto default s')
      (fun e s' => e ≠ .cut → FaultKept Build.default clearCrypto default s') :=
  (cpu_fault_kept_iff Build.default clearCrypto (some largeFram) false).mpr (.inl rfl)
    (registered false) default rfl rfl

/-- Without a storage the call returns `LS_OK`, and the fault is nowhere. -/
theorem cpu_fault_lost :
    Sat (lsCaptureCpuContext Build.default clearCrypto (some default)) bareNode
      (fun _ s' => ¬ FaultKept Build.default clearCrypto default s') (fun _ _ => False) :=
  fault_dropped rfl ⟨rfl, rfl, by decide⟩ (fun _ _ => rfl) (eventFits_bareNode (by decide)) rfl

end Latch
