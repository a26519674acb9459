/-
The capture of a processor fault: `capture_cpu_context`, `ls_capture_cpu_context` and
`ls_capture_riscv64_context` of `src/capture/capture.c`, with the breadcrumb of
`src/metrics/breadcrumbs.c` that they leave.

A fault that arrives during a capture goes to the retained memory. Any other one marks the
boot state and is captured as an event; where that fails, the retained snapshot takes over.

* `Carries`: the bytes of an envelope and the fields in it;
* `faultStarted_spec`: what happens before the event is captured;
* `riscv64_bank_survives_iff`: the fallback has no sidecar, so that a bank of RV64 registers
  outlives a failing storage only during a capture.
-/
import Latch.Capture.Trap
import Latch.Core.Promotion

namespace Latch

open Exec Spool

/-! ### The functions -/

/-- Stores an entry in a ring, whose array starts out as zeros. -/
def ringPut {α : Type} [Inhabited α] (ring : List α) (next : ℕ) (entry : α) : List α :=
  (ring ++ List.replicate (next + 1 - ring.length) default).set next entry

section

variable (bd : Build) (c : Crypto)

/-- The breadcrumb of `capture_cpu_context`. -/
def faultBreadcrumb (atMs : UInt32) : BreadcrumbRecord :=
  -- "cpu"
  let category : List UInt8 := [0x63, 0x70, 0x75]
  -- "cpu_fault"
  let message : List UInt8 := [0x63, 0x70, 0x75, 0x5f, 0x66, 0x61, 0x75, 0x6c, 0x74]
  { atMs := atMs, messageId := 1, severity := Severity.fatal.code, valueCount := 0
    categoryHash := lsHashString (some category), messageHash := 1
    category := if bd.storeStrings then category else []
    message := if bd.storeStrings then message else [], values := [] }

/-- `ls_breadcrumb_event` of the breadcrumb of `capture_cpu_context`. No severity is above
its own, so that only `LS_BREADCRUMB_DROP_NEWEST` keeps it out. -/
def leaveFaultBreadcrumb : MachineM Unit := do
  let m ← getRam
  if ¬ bd.enableBreadcrumbs ∨ ¬ m.runtime.initialized ∨
      m.runtime.breadcrumbCount = bd.breadcrumbCapacity ∧ m.breadcrumbPolicy = .dropNewest then
    pure ()
  else do
    let atMs ← lsUptimeMs
    updateRuntime fun rt =>
      { rt with
        breadcrumbs := ringPut rt.breadcrumbs rt.breadcrumbNext (faultBreadcrumb bd atMs)
        breadcrumbNext := (rt.breadcrumbNext + 1) % bd.breadcrumbCapacity
        breadcrumbCount := if rt.breadcrumbCount < bd.breadcrumbCapacity
          then rt.breadcrumbCount + 1 else rt.breadcrumbCount }

/-- The event of `capture_cpu_context`. -/
def faultEvent (context : ArchContext) (riscv64 : Option Riscv64Context) (uptimeMs : UInt32) :
    Event :=
  { (default : Event) with
    type := .crash, priority := .emergency, timestampMs := uptimeMs
    fingerprint := lsCrashFingerprint bd context
    -- "cpu"
    domain := some [0x63, 0x70, 0x75]
    code := context.fault.toInt32, severity := .fatal
    -- "exception"
    message := some [0x65, 0x78, 0x63, 0x65, 0x70, 0x74, 0x69, 0x6f, 0x6e]
    cpu := some context, riscv64 := riscv64
    captureLevel := if bd.enableStackSnapshot then .stack else .snapshot }

/-- The part of `capture_cpu_context` before the event is captured: the time of the event. -/
def faultStarted (context : ArchContext) : MachineM UInt32 := do
  leaveFaultBreadcrumb bd
  let uptimeMs ← lsUptimeMs
  updateRuntime fun rt => { rt with previousCrashed := true }
  lsBootStateMarkCrash bd (lsCrashFingerprint bd context)
  return uptimeMs

/-- The retained memory behind `ls_capture_minimal`. -/
def Machine.minimalTaken (context : ArchContext) (m : Machine) : Machine :=
  { m with retained := lsCaptureMinimal bd m.retained context }

/-- `capture_cpu_context` of a context. The `reset` callback of the application, where there
is one, is called at the end, after a failure as well. -/
def captureCpuContext (context : ArchContext) (riscv64 : Option Riscv64Context) :
    MachineM Unit := do
  let m ← getRam
  if m.runtime.capturing then
    match riscv64 with
    | some bank => updateRetained fun r => lsCaptureMinimalRiscv64Fault bd r bank
    | none => modifyRam (Machine.minimalTaken bd context)
  else do
    let uptimeMs ← faultStarted bd context
    onFailure (Machine.minimalTaken bd context)
      (lsCaptureEvent bd c (faultEvent bd context riscv64 uptimeMs))

/-- `ls_capture_cpu_context`. -/
def lsCaptureCpuContext (context : Option ArchContext) : MachineM Unit :=
  match context with
  | none => throw (.fail .einval)
  | some context => captureCpuContext bd c context none

/-- `ls_capture_riscv64_context`. -/
def lsCaptureRiscv64Context (context : Option Riscv64Context) : MachineM Unit :=
  match context with
  | none => throw (.fail .einval)
  | some context =>
    captureCpuContext bd c (riscv64ContextToArch bd context lsFaultTrap) (some context)

end

/-! ### Records and their fields -/

/-- The bytes are those of an envelope, plain or sealed, with the given fields among its own. -/
def Carries (c : Crypto) (data : List UInt8) (fields : List (UInt16 × List UInt8)) : Prop :=
  ∃ rt type architecture truncated sequence eventId ts metadata body authentication,
    Envelope c rt type architecture truncated sequence eventId ts metadata body authentication ∧
      data = frame type architecture (encodeFlags rt truncated) sequence eventId metadata body
        authentication ∧
      fields ⊆ ts.map Tlv.Field.pair

/-- A committed record of the spool carries some fields. -/
def RecordCarries (bd : Build) (c : Crypto) (m : ℕ → UInt8) (fields : List (UInt16 × List UInt8)) :
    Prop :=
  ∃ slot < bd.spoolMaxRecords, committedAt bd m slot ∧ Carries c (payloadAt bd m slot) fields

/-- What an append or a save leaves of the committed records: all of them. -/
def Preserves (bd : Build) (m m' : ℕ → UInt8) : Prop :=
  ∀ slot < bd.spoolMaxRecords, committedAt bd m slot → SameSlot bd m m' slot

section Records

variable {bd : Build} {b : Backend} {c : Crypto} {m m' m'' : ℕ → UInt8}

lemma Carries.mono {data : List UInt8} {fields fields' : List (UInt16 × List UInt8)}
    (h : Carries c data fields) (hsub : fields' ⊆ fields) : Carries c data fields' := by
  obtain ⟨rt, type, architecture, truncated, sequence, eventId, ts, metadata, body, authentication,
    henv, hdata, hfields⟩ := h
  exact ⟨rt, type, architecture, truncated, sequence, eventId, ts, metadata, body, authentication,
    henv, hdata, List.Subset.trans hsub hfields⟩

lemma RecordCarries.of_preserves {fields : List (UInt16 × List UInt8)} (h : Preserves bd m m')
    (hr : RecordCarries bd c m fields) : RecordCarries bd c m' fields := by
  obtain ⟨slot, hslot, hc, hfields⟩ := hr
  have hsame := h slot hslot hc
  exact ⟨slot, hslot, (committedAt_congr hsame).mpr hc, by rwa [payloadAt_congr hsame hc.1]⟩

lemma Preserves.trans (h : Preserves bd m m') (h' : Preserves bd m' m'') : Preserves bd m m'' :=
  fun slot hslot hc a h1 h2 =>
    (h' slot hslot ((committedAt_congr (h slot hslot hc)).mpr hc) a h1 h2).trans
      (h slot hslot hc a h1 h2)

lemma Preserves.of_eq (h : m' = m) : Preserves bd m m' := fun _ _ _ _ _ _ => by rw [h]

/-- What leaves the bytes of the spool alone. -/
lemma Preserves.of_below (hu : usable bd b) (h : ∀ a < bootOffset bd b, m' a = m a) :
    Preserves bd m m' := by
  intro slot hslot _ a _ ha
  exact h a (ha.trans_le (slotOffset_le_size hu hslot))

/-- An append touches a slot at most whose header is erased. -/
lemma Preserves.of_attempted {limit : ℕ} {d d' : Device} {r : SpoolRecord} {data : List UInt8}
    (h : Attempted bd limit d d' r data) : Preserves bd d.medium d'.medium := by
  obtain h | ⟨slot, -, he, ht, -⟩ := h
  · exact .of_eq h.medium
  · intro i _ hc
    refine sameSlot_of_agreeOff ht.agree ?_
    rintro rfl
    rw [committedAt, invalid_of_erased (he _ le_rfl (Nat.lt_add_of_pos_right (by decide)))] at hc
    exact absurd hc.1 Bool.false_ne_true

lemma lsSpoolAppend_preserves (hu : usable bd b) (data : List UInt8) (priority : Priority)
    (s : System Node) :
    Sat (lsSpoolAppend bd (some b) data priority) s
      (fun _ s' => Preserves bd s.dev.medium s'.dev.medium)
      (fun _ s' => Preserves bd s.dev.medium s'.dev.medium) := by
  refine (lsSpoolAppend_spec hu s data priority).mono (fun _ s' h => ?_) (fun _ s' h => ?_)
  · obtain ⟨info, -, -, -, hplaced, -⟩ := h
    exact .of_attempted hplaced.attempted
  · obtain ⟨-, h | ⟨info, -, -, -, h⟩⟩ := h
    · exact .of_eq h.medium
    · exact .of_attempted h

lemma lsCaptureEvent_preserves (hu : usable bd b) (event : Event) {s : System Machine}
    (hs : s.ram.storage = some b) :
    Sat (lsCaptureEvent bd c event) s (fun _ s' => Preserves bd s.dev.medium s'.dev.medium)
      (fun _ s' => Preserves bd s.dev.medium s'.dev.medium) := by
  refine (lsCaptureEvent_spec s).mono (fun _ s' h => ?_) (fun _ s' h => ?_)
  · obtain ⟨-, m, -, ⟨-, rfl⟩ | ⟨data, t, -, happend, rfl⟩⟩ := h
    · exact .of_eq rfl
    · rw [hs] at happend
      have hkept := sat_of_ok (lsSpoolAppend_preserves hu data event.priority _) happend
      exact hkept
  · obtain ⟨-, -, rfl⟩ | ⟨-, m, -, rfl | ⟨data, t, -, happend, hs'⟩⟩ := h
    · exact .of_eq rfl
    · exact .of_eq rfl
    · rw [hs] at happend
      have hkept := sat_of_error (lsSpoolAppend_preserves hu data event.priority _) happend
      obtain rfl | ⟨-, rfl⟩ := hs'
      · exact hkept
      · exact hkept

end Records

/-! ### A device that serves nothing -/

/-- Every request fails, and a write or an erase leaves no byte. -/
def Device.Dead (d : Device) : Prop := ∀ n r, d.faults n r = .fail .eio 0

section Dead

variable {bd : Build} {b : Backend} {c : Crypto} {d : Device}

lemma Device.Dead.later {d' : Device} (h : d.Dead) (hl : d.Later d') : d'.Dead := fun n r => by
  rw [hl.faults]
  exact h n r

/-- What never returns has no continuation. -/
lemma sat_bind_of_never {σ α β : Type} {x : EStateM (Halt Errno) σ α}
    {f : α → EStateM (Halt Errno) σ β} {s : σ} {Q : β → σ → Prop} {H : Halt Errno → σ → Prop}
    (h : Sat x s (fun _ _ => False) H) : Sat (x >>= f) s Q H := by
  rw [sat_bind]
  exact h.mono fun _ _ h => h.elim

/-- A computation fails without a change to the bytes of the device. -/
def Fails {α : Type} (x : DeviceM α) (d : Device) : Prop :=
  Sat x d (fun _ _ => False) fun e d' => (∃ err, e = .fail err) ∧ d.Looked d'

lemma Device.Dead.serve (h : d.Dead) (r : Request) : Fails (Latch.serve r) d := by
  refine (serve_spec r d).mono (fun _ _ h' => ?_) (fun e d' h' => ⟨⟨.eio, ?_⟩, h'.1 ▸ looked_ask d r⟩)
  · exact absurd ((h _ r).symm.trans h'.2) nofun
  · have herror := h'.2
    rw [h] at herror
    exact (Option.some.inj herror).symm

lemma fails_throw {α : Type} (err : Errno) : Fails (throw (.fail err) : DeviceM α) d :=
  .throw ⟨⟨err, rfl⟩, .refl d⟩

lemma Fails.bind {α β : Type} {x : DeviceM α} {f : α → DeviceM β} (h : Fails x d) :
    Fails (x >>= f) d := sat_bind_of_never h

lemma Device.Dead.read (h : d.Dead) (off len : ℕ) : Fails (b.read off len) d := by
  rw [Fails, Backend.read, sat_ite]
  exact ⟨fun _ => (h.serve _).bind, fun _ => fails_throw _⟩

lemma Device.Dead.program (h : d.Dead) (off : ℕ) {src : List UInt8} (hsrc : src.length ≠ 0) :
    Fails (lsStorageProgram b off src) d := by
  rw [Fails, lsStorageProgram]
  refine .ite (fun _ => fails_throw _) fun _ => ?_
  rw [if_neg hsrc]
  exact (h.serve _).bind

lemma Device.Dead.isErased (h : d.Dead) (off : ℕ) : Fails (lsStorageIsErased b off recordHeaderSize) d := by
  rw [Fails, lsStorageIsErased]
  refine .ite (fun _ => fails_throw _) fun _ => ?_
  change Fails (erasedChunks b (27 + 1) off 28) d
  rw [erasedChunks, if_neg (by decide)]
  exact (h.read _ _).bind

lemma Device.Dead.findEmptySlotFrom (h : d.Dead) (n slot : ℕ) :
    Fails (findEmptySlotFrom bd b n slot) d := by
  cases n with
  | zero => exact fails_throw _
  | succ n => exact (h.isErased _).bind

/-- An append to a dead device fails. -/
lemma Device.Dead.lsSpoolAppend {s : System Node} (h : s.dev.Dead) (data : List UInt8)
    (priority : Priority) :
    Sat (lsSpoolAppend bd (some b) data priority) s (fun _ _ => False)
      (fun e s' => (∃ err, e = .fail err) ∧ s.dev.Looked s'.dev) := by
  have hthrow : ∀ err, Sat (throw (.fail err) : SpoolM Unit) s (fun _ _ => False)
      (fun e s' => (∃ err, e = .fail err) ∧ s.dev.Looked s'.dev) :=
    fun err => .throw ⟨⟨err, rfl⟩, .refl _⟩
  rw [Spool.lsSpoolAppend]
  refine .ite (fun _ => hthrow _) fun _ => sat_bind_of_never ?_
  rw [onStorage]
  refine .ite (fun _ => ?_) fun _ => hthrow _
  cases lsEnvelopeValidate data with
  | error e => exact hthrow _
  | ok info =>
      refine sat_bind_of_never ?_
      have hfind : Sat (onDevice (findEmptySlot bd b priority)) s (fun _ _ => False)
          (fun e s' => (∃ err, e = .fail err) ∧ s.dev.Looked s'.dev) := by
        rw [sat_onDevice]
        exact h.findEmptySlotFrom _ _
      unfold Sat findSlot at *
      cases hx : onDevice (findEmptySlot bd b priority) s with
      | ok slot s' =>
          rw [hx] at hfind
          exact hfind.elim
      | error e s' =>
          rw [hx] at hfind
          obtain ⟨⟨err, rfl⟩, hl⟩ := hfind
          cases err with
          | enospace => exact ⟨⟨_, rfl⟩, hl⟩
          | _ => exact ⟨⟨_, rfl⟩, hl⟩

/-- An urgent event is not captured with a dead device. -/
lemma dead_lsCaptureEvent {event : Event} (hp : ¬ Priority.critical.code < event.priority.code)
    {s : System Machine} (hs : s.ram.storage = some b) (hd : s.dev.Dead) :
    Sat (lsCaptureEvent bd c event) s (fun _ _ => False)
      (fun e s' => (∃ err, e = .fail err) ∧ s'.dev.medium = s.dev.medium) := by
  rw [lsCaptureEvent, sat_bind, sat_getRam]
  refine .ite (fun _ => .throw ⟨⟨_, rfl⟩, rfl⟩) fun _ => ?_
  rw [sat_bind, sat_updateRuntime, sat_afterwards]
  refine (captureFiltered_spec ⟨s.dev, s.ram.begun⟩).mono (fun _ s' h => ?_) (fun e s' h => ?_)
  · obtain ⟨m, -, ⟨hlow, -⟩ | ⟨data, t, -, happend, -⟩⟩ := h
    · exact hp hlow
    · rw [show s.ram.begun.storage = some b from hs] at happend
      exact sat_of_ok (@Device.Dead.lsSpoolAppend bd b ⟨s.dev, m.node⟩ hd data _) happend
  · obtain ⟨m, -, ⟨⟨err, rfl⟩, rfl⟩ | ⟨data, t, -, happend, rfl⟩⟩ := h
    · exact ⟨⟨err, rfl⟩, rfl⟩
    · rw [show s.ram.begun.storage = some b from hs] at happend
      obtain ⟨⟨err, rfl⟩, hl⟩ :=
        sat_of_error (@Device.Dead.lsSpoolAppend bd b ⟨s.dev, m.node⟩ hd data _) happend
      exact ⟨⟨err, rfl⟩, hl.medium⟩

/-- The save of a boot state to a dead device. -/
lemma dead_lsBootStateSave (s : System Machine) :
    Sat (lsBootStateSave bd) s (fun _ s' => s.dev.Dead → s.dev.Looked s'.dev)
      (fun e s' => s.dev.Dead → e ≠ .cut ∧ s.dev.Looked s'.dev) := by
  rw [lsBootStateSave, sat_bind, storeBootState, sat_bind, sat_getRam]
  cases s.ram.storage with
  | none => exact .pure (sat_modifyRam.mpr fun _ => .refl _)
  | some b =>
      dsimp only
      refine .ite (fun _ => .pure (sat_modifyRam.mpr fun _ => .refl _)) fun _ => ?_
      refine .ite (fun _ => .throw fun _ => ⟨by simp, .refl _⟩) fun _ => ?_
      by_cases hd : s.dev.Dead
      · rw [bootStateSave]
        refine (lsUptimeMs_spec s).bind fun uptimeMs s₁ h₁ => ?_
        rw [sat_bind, sat_modifyRam, sat_bind, sat_getRam, sat_onDevice]
        refine sat_bind_of_never ?_
        rw [h₁.1]
        refine (hd.program (bootOffset bd b) ?_).mono (fun _ _ h => h.elim) fun e d h => ?_
        · rw [PersistentBoot.bytes_length]
          decide
        · obtain ⟨⟨err, rfl⟩, hl⟩ := h
          exact fun _ => ⟨by simp, hl⟩
      · exact (sat_run _ _).mono (fun _ _ _ => sat_modifyRam.mpr fun h => absurd h hd)
          (fun _ _ _ h => absurd h hd)

end Dead

/-! ### Before the event -/

/-- What the part before the event leaves: of the device, the bytes behind the spool at most
have changed. -/
structure Started (bd : Build) (s s' : System Machine) : Prop where
  storage : s'.ram.storage = s.ram.storage
  retained : s'.ram.retained = s.ram.retained
  runtime : s.ram.runtime.Steady s'.ram.runtime
  later : s.dev.Later s'.dev
  below : ∀ b, s.ram.storage = some b → ∀ a < bootOffset bd b, s'.dev.medium a = s.dev.medium a
  dead : s.dev.Dead → s'.dev.medium = s.dev.medium

section Started

variable {bd : Build} {b : Backend} {s s₁ s₂ s₃ : System Machine}

lemma Started.of_ram {m : Machine} (hs : m.storage = s.ram.storage)
    (hr : m.retained = s.ram.retained) (hrt : s.ram.runtime.Steady m.runtime) :
    Started bd s ⟨s.dev, m⟩ := ⟨hs, hr, hrt, .refl _, fun _ _ _ _ => rfl, fun _ => rfl⟩

lemma Started.trans (h : Started bd s₁ s₂) (h' : Started bd s₂ s₃) : Started bd s₁ s₃ where
  storage := h'.storage.trans h.storage
  retained := h'.retained.trans h.retained
  runtime := h.runtime.trans h'.runtime
  later := .trans _ _ _ h.later h'.later
  below b hb a ha := (h'.below b (h.storage.trans hb) a ha).trans (h.below b hb a ha)
  dead hd := (h'.dead (hd.later h.later)).trans (h.dead hd)

/-- A step in memory first. -/
lemma Started.behind {m : Machine} (h : Started bd ⟨s.dev, m⟩ s₁) (hs : m.storage = s.ram.storage)
    (hr : m.retained = s.ram.retained) (hrt : s.ram.runtime.Steady m.runtime) :
    Started bd s s₁ := (Started.of_ram hs hr hrt).trans h

lemma Started.of_asked (hd : s₁.dev = s.dev) (h : s.ram.Asked s₁.ram) : Started bd s s₁ := by
  obtain ⟨d, m⟩ := s₁
  obtain ⟨k, rfl⟩ := h
  subst hd
  exact .of_ram rfl rfl ⟨rfl, rfl, rfl, rfl⟩

lemma Started.of_begun {p : PersistentBoot} (h : SaveBegun b p s s₁) {l : List UInt8}
    (hm : s₁.dev.medium = Medium.write s.dev.medium (bootOffset bd b) l)
    (hd : s.dev.Dead → s₁.dev.medium = s.dev.medium) : Started bd s s₁ := by
  obtain ⟨hs, -, ⟨k, hr⟩, hl⟩ := h
  refine ⟨by rw [hr]; rfl, by rw [hr]; rfl, by rw [hr]; exact ⟨rfl, rfl, rfl, rfl⟩, hl,
    fun b' hb' a ha => ?_, hd⟩
  obtain rfl := Option.some.inj (hs.symm.trans hb')
  rw [hm]
  exact Medium.write_of_lt ha

lemma lsBootStateSave_started (s : System Machine) :
    Sat (lsBootStateSave bd) s (fun _ s' => Started bd s s')
      (fun e s' => (e = .cut → ¬ s.dev.Dead) ∧ Started bd s s') := by
  refine ((lsBootStateSave_spec s (E := fun b p m' => ∃ k, m' = Medium.write s.dev.medium
    (bootOffset bd b) (p.bytes.take k)) fun b p _ => (program_spec b _ _ s.dev).mono
      (fun _ _ _ => trivial) (fun _ _ h => h.2)).and (dead_lsBootStateSave s)).mono
    (fun _ s' h => ?_) (fun e s' h => ⟨fun he hd => (h.2 hd).1 he, ?_⟩)
  · obtain ⟨⟨s₁, hsaved, rfl⟩, hdead⟩ := h
    obtain ⟨rfl, -⟩ | ⟨b, p, hbegun, hm⟩ := hsaved
    · exact .of_ram rfl rfl ⟨rfl, rfl, rfl, rfl⟩
    · exact (Started.of_begun hbegun hm fun hd => (hdead hd).medium).trans (.of_ram rfl rfl ⟨rfl, rfl, rfl, rfl⟩)
  · obtain ⟨rfl | ⟨b, p, hbegun, hm⟩, hdead⟩ := h
    · exact .of_ram rfl rfl ⟨rfl, rfl, rfl, rfl⟩
    · obtain hm | ⟨k, hm⟩ := hm
      · exact .of_begun hbegun hm fun hd => (hdead hd).2.medium
      · exact .of_begun hbegun hm fun hd => (hdead hd).2.medium

lemma lsBootStateMarkCrash_started (eventId : UInt32) (s : System Machine) :
    Sat (lsBootStateMarkCrash bd eventId) s (fun _ s' => Started bd s s')
      (fun e _ => e = .cut ∧ ¬ s.dev.Dead) := by
  rw [lsBootStateMarkCrash, sat_ignoring, saveWith, sat_bind, sat_updatePersistent]
  refine Sat.mono (lsBootStateSave_started _) (fun _ s₁ h₁ => ?_) (fun e s₁ h₁ => ?_)
  · exact h₁.behind rfl rfl ⟨rfl, rfl, rfl, rfl⟩
  · cases e with
    | fail err => exact h₁.2.behind rfl rfl ⟨rfl, rfl, rfl, rfl⟩
    | cut => exact ⟨rfl, h₁.1 rfl⟩

lemma leaveFaultBreadcrumb_spec (s : System Machine) :
    Sat (leaveFaultBreadcrumb bd) s (fun _ s' => Started bd s s') (fun _ _ => False) := by
  rw [leaveFaultBreadcrumb, sat_bind, sat_getRam]
  refine .ite (fun _ => .pure (.of_ram rfl rfl ⟨rfl, rfl, rfl, rfl⟩)) fun _ => ?_
  refine (lsUptimeMs_spec s).bind fun atMs s₁ h₁ => ?_
  rw [sat_updateRuntime]
  exact (Started.of_asked h₁.1 h₁.2).trans (.of_ram rfl rfl ⟨rfl, rfl, rfl, rfl⟩)

/-- **Before the event.** Only a cut of the power stops this part, and a dead device has
none. -/
lemma faultStarted_spec (context : ArchContext) (s : System Machine) :
    Sat (faultStarted bd context) s (fun _ s' => Started bd s s')
      (fun e _ => e = .cut ∧ ¬ s.dev.Dead) := by
  rw [faultStarted]
  refine (leaveFaultBreadcrumb_spec s).bind fun _ s₁ h₁ => ?_
  refine (lsUptimeMs_spec s₁).bind fun uptimeMs s₂ h₂ => ?_
  rw [sat_bind, sat_updateRuntime, sat_bind]
  have hasked : Started bd s s₂ := h₁.trans (.of_asked h₂.1 h₂.2)
  refine Sat.mono (lsBootStateMarkCrash_started _ _) (fun _ s₃ h₃ => ?_) (fun e s₃ h₃ => ?_)
  · exact .pure (hasked.trans (h₃.behind rfl rfl ⟨rfl, rfl, rfl, rfl⟩))
  · exact ⟨h₃.1, fun hd => h₃.2 (hd.later hasked.later)⟩

end Started

/-! ### The RV64 bank -/

/-- A committed record of the spool carries the full bank in its field `CPU64`. -/
def BankStored (bd : Build) (c : Crypto) (b : Backend) (context : Riscv64Context)
    (m : ℕ → UInt8) : Prop :=
  usable bd b ∧ RecordCarries bd c m (fieldsOf .cpu64 [cpu64Bytes context])

/-- The bank is in a committed record, or in the retained memory, from which
`ls_capture_minimal_recover` attaches it to its event. -/
def BankKept (bd : Build) (c : Crypto) (b : Backend) (context : Riscv64Context)
    (s : System Machine) : Prop :=
  BankStored bd c b context s.dev.medium ∨ attached bd s.ram.retained = some context

/-- The system with another behaviour of its device. -/
def withFaults (s : System Machine) (faults : ℕ → Request → Fault) : System Machine :=
  ⟨{ s.dev with faults := faults }, s.ram⟩

section Bank

variable {bd : Build} {c : Crypto} {b : Backend} {context : Riscv64Context}

lemma attached_lsCaptureMinimalRiscv64Fault (hen : bd.enableWideContext = true) (r : Retained) :
    attached bd (lsCaptureMinimalRiscv64Fault bd r context) = some context := by
  have hwide : (lsCaptureMinimalRiscv64Fault bd r context).wideContextSnapshot
      = newWide r context := by
    rw [lsCaptureMinimalRiscv64Fault, wideSnapshotStore, if_pos hen]
    rfl
  exact (attached_newWide hen hwide).mpr
    ⟨rfl, _, validate_commit _, looksLike_riscv64Snapshot hen⟩

/-- During a capture both retained records are written. -/
lemma bankKept_of_capturing (hen : bd.enableWideContext = true) {s : System Machine}
    (hc : s.ram.runtime.capturing = true) :
    Sat (lsCaptureRiscv64Context bd c (some context)) s
      (fun _ s' => BankKept bd c b context s') (fun _ _ => False) := by
  rw [lsCaptureRiscv64Context, captureCpuContext, sat_bind, sat_getRam, if_pos hc,
    sat_updateRetained]
  exact .inr (attached_lsCaptureMinimalRiscv64Fault hen _)

/-- A bank that is already stored stays so. -/
lemma bankKept_of_stored {s : System Machine} (hs : s.ram.storage = some b)
    (hc : s.ram.runtime.capturing = false) (h : BankStored bd c b context s.dev.medium) :
    Sat (lsCaptureRiscv64Context bd c (some context)) s
      (fun _ s' => BankKept bd c b context s')
      (fun e s' => e ≠ .cut → BankKept bd c b context s') := by
  obtain ⟨hu, hrecord⟩ := h
  rw [lsCaptureRiscv64Context, captureCpuContext, sat_bind, sat_getRam, if_neg (by simp [hc]),
    sat_bind]
  refine (faultStarted_spec _ s).mono (fun uptimeMs s₁ h₁ => ?_) (fun e _ h he => absurd h.1 he)
  have hbefore : Preserves bd s.dev.medium s₁.dev.medium := .of_below hu (h₁.below b hs)
  rw [sat_onFailure]
  refine (lsCaptureEvent_preserves hu _ (h₁.storage.trans hs)).mono (fun _ s' h' => ?_)
    (fun e s' h' => ?_)
  · exact .inl ⟨hu, hrecord.of_preserves (hbefore.trans h')⟩
  · cases e with
    | fail err => exact fun _ => .inl ⟨hu, hrecord.of_preserves (hbefore.trans h')⟩
    | cut => exact fun he => absurd rfl he

/-- With a dead device the fallback runs, and clears the sidecar. -/
lemma bank_dropped {s : System Machine} (hs : s.ram.storage = some b)
    (hc : s.ram.runtime.capturing = false) (hd : s.dev.Dead) :
    Sat (lsCaptureRiscv64Context bd c (some context)) s (fun _ _ => False)
      (fun e s' => e ≠ .cut ∧ s'.dev.medium = s.dev.medium ∧ attached bd s'.ram.retained = none) := by
  rw [lsCaptureRiscv64Context, captureCpuContext, sat_bind, sat_getRam, if_neg (by simp [hc]),
    sat_bind]
  refine (faultStarted_spec _ s).mono (fun uptimeMs s₁ h₁ => ?_) (fun _ _ h => absurd hd h.2)
  rw [sat_onFailure]
  have hurgent : ¬ Priority.critical.code < Priority.emergency.code := by decide
  refine (dead_lsCaptureEvent hurgent (h₁.storage.trans hs) (hd.later h₁.later)).mono
    (fun _ _ h => h) (fun e s' h' => ?_)
  obtain ⟨⟨err, rfl⟩, hm⟩ := h'
  exact ⟨nofun, hm.trans (h₁.dead hd), attached_of_clear rfl⟩

end Bank

/-- **The RV64 bank survives** every behaviour of the storage exactly if the fault arrives
during a capture, or a committed record already carries the bank. -/
theorem riscv64_bank_survives_iff (bd : Build) (c : Crypto) (hen : bd.enableWideContext = true)
    (b : Backend) (s : System Machine) (hs : s.ram.storage = some b) (context : Riscv64Context) :
    (∀ faults, Sat (lsCaptureRiscv64Context bd c (some context)) (withFaults s faults)
        (fun _ s' => BankKept bd c b context s')
        (fun e s' => e ≠ .cut → BankKept bd c b context s')) ↔
      s.ram.runtime.capturing = true ∨ BankStored bd c b context s.dev.medium := by
  constructor
  · intro h
    by_contra hno
    rw [not_or, Bool.not_eq_true] at hno
    obtain ⟨hc, hstored⟩ := hno
    have hdropped := @bank_dropped bd c b context (withFaults s fun _ _ => .fail .eio 0) hs hc
      fun _ _ => rfl
    have hkept := h fun _ _ => .fail .eio 0
    unfold Sat at hdropped hkept
    split at hdropped
    · exact hdropped
    · rename_i e s' hx
      rw [hx] at hkept
      obtain ⟨he, hm, hnone⟩ := hdropped
      obtain hs' | hs' := hkept he
      · exact hstored (hm ▸ hs')
      · exact absurd (hnone.symm.trans hs') nofun
  · intro h faults
    cases hc : s.ram.runtime.capturing with
    | true =>
        exact (@bankKept_of_capturing bd c b context hen (withFaults s faults) hc).mono
          fun _ _ h => h
    | false =>
        have hstored := h.resolve_left (by simp [hc])
        exact @bankKept_of_stored bd c b context (withFaults s faults) hs hc hstored

/-- A byte-addressed memory with room for the spool of the default build. -/
def largeFram : Backend :=
  { smallFram with capacity := 65536, capacity_le := by decide }

/-- A node with a blank spool, during a capture or not. -/
def registered (capturing : Bool) : System Machine :=
  let s := poweredUp fun _ _ => .none
  ⟨s.dev, { s.ram.setRuntime { s.ram.runtime with capturing := capturing } with
    storage := some largeFram }⟩

/-- A fault during a capture. -/
theorem riscv64_bank_survives_nested :
    wideBuild.enableWideContext = true ∧ (registered true).ram.storage = some largeFram ∧
      ∀ faults, Sat (lsCaptureRiscv64Context wideBuild clearCrypto (some (loopTrap 1)))
        (withFaults (registered true) faults)
        (fun _ s' => BankKept wideBuild clearCrypto largeFram (loopTrap 1) s')
        (fun e s' => e ≠ .cut →
          BankKept wideBuild clearCrypto largeFram (loopTrap 1) s') :=
  ⟨rfl, rfl, (riscv64_bank_survives_iff wideBuild clearCrypto rfl largeFram
    (registered true) rfl (loopTrap 1)).mpr (.inl rfl)⟩

/-- A storage that fails every request: the call returns, the bank is neither in the blank
spool nor in the retained memory. -/
theorem riscv64_bank_lost : usable wideBuild largeFram ∧ ∃ faults,
    Sat (lsCaptureRiscv64Context wideBuild clearCrypto (some (loopTrap 1)))
      (withFaults (registered false) faults) (fun _ _ => False)
      (fun e s' => e ≠ .cut ∧
        ¬ BankKept wideBuild clearCrypto largeFram (loopTrap 1) s') := by
  refine ⟨by decide, fun _ _ => .fail .eio 0, ?_⟩
  refine (@bank_dropped wideBuild clearCrypto largeFram (loopTrap 1)
    (withFaults (registered false) fun _ _ => .fail .eio 0) rfl rfl fun _ _ => rfl).mono
    (fun _ _ h => h) (fun e s' h => ⟨h.1, ?_⟩)
  obtain ⟨-, hm, hnone⟩ := h
  rintro (⟨-, slot, -, ⟨hvalid, -⟩, -⟩ | hkept)
  · rw [hm, invalid_of_erased rfl] at hvalid
    exact absurd hvalid nofun
  · exact absurd (hnone.symm.trans hkept) nofun

end Latch
