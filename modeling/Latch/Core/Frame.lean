
/-
What the functions that do not save leave alone.

* `SpoolFrame`: a function of the spool changes neither the bytes behind the spool, where the
  boot state is, nor the boot state in memory;
* `Quiet`: a capture and a recovery, which append to the spool, change the last sequence
  number in the boot state in memory and nothing else of it.
-/
import Latch.Core.Runtime

namespace Latch

open Exec Spool

variable {bd : Build} {b : Backend}

variable {d d' : Device} {storage : Option Backend}

/-! ### The bytes behind the spool -/

/-- The device went on and changed its bytes in the spool at most. -/
structure Inside (bd : Build) (b : Backend) (d d' : Device) : Prop extends d.Later d' where
  beyond : ∀ a, bootOffset bd b ≤ a → d'.medium a = d.medium a

lemma Inside.of_looked (h : d.Looked d') : Inside bd b d d' :=
  ⟨h.toLater, fun _ _ => by rw [h.medium]⟩

lemma Inside.refl (d : Device) : Inside bd b d d := .of_looked (.refl d)

lemma Inside.trans {d₁ d₂ d₃ : Device} (h : Inside bd b d₁ d₂) (h' : Inside bd b d₂ d₃) :
    Inside bd b d₁ d₃ :=
  ⟨.trans _ _ _ h.toLater h'.toLater, fun a ha => (h'.beyond a ha).trans (h.beyond a ha)⟩

lemma Inside.bootAt (h : Inside bd b d d') :
    bootAt d'.medium (bootOffset bd b) = bootAt d.medium (bootOffset bd b) :=
  bootAt_congr (Medium.read_congr fun a ha _ => h.beyond a ha)

lemma Inside.of_renewing (hu : usable bd b) {sequence : UInt32} (hl : d.Later d')
    (h : Renewing bd b sequence d d') : Inside bd b d d' := by
  have hsize := slots_le_size hu
  refine ⟨hl, fun a ha => ?_⟩
  have hout : Medium.fill d.medium 0 (lsSpoolStorageSize bd b.sizeMax) 0xff a = d.medium a :=
    Medium.fill_of_not_mem (.inr (by rw [Nat.zero_add]; exact ha))
  cases h with
  | erasing k hk hm _ =>
      rw [hm]
      exact Medium.fill_of_not_mem (.inr (by rw [Nat.zero_add]; exact hk.trans ha))
  | writing hm _ =>
      rw [hm a (.inr ?_), hout]
      rw [bootOffset] at ha
      omega

lemma Inside.of_agreeOff (hu : usable bd b) {slot : ℕ} (hs : slot < bd.spoolMaxRecords) (hl : d.Later d')
    (h : Medium.AgreeOff d.medium d'.medium (slotOffset bd slot) (recordSize bd)) :
    Inside bd b d d' :=
  ⟨hl, fun a ha => h a (.inr ((slotOffset_le_size hu hs).trans ha))⟩

lemma Inside.of_attempted (hu : usable bd b) {limit : ℕ} (hlimit : limit ≤ bd.spoolMaxRecords) {r : SpoolRecord} {data : List UInt8} (h : Attempted bd limit d d' r data) :
    Inside bd b d d' := by
  obtain h | ⟨slot, hslot, -, ht, -⟩ := h
  · exact .of_looked h
  · exact .of_agreeOff hu (hslot.trans_le hlimit) ht.toLater ht.agree

/-! ### The functions of the spool -/

/-- A function of the spool leaves the bytes behind the spool and the boot state alone. -/
structure SpoolFrame (bd : Build) (b : Backend) (s s' : System Node) : Prop where
  dev : Inside bd b s.dev s'.dev
  persistent : s'.ram.runtime.persistent = s.ram.runtime.persistent

lemma SpoolFrame.refl (s : System Node) : SpoolFrame bd b s s := ⟨.refl _, rfl⟩

/-- A function of the spool without a usable storage does nothing. -/
lemma onStorage_frame {x : Backend → SpoolM Unit}
    (hs : ∀ b', storage = some b' → b' = b)
    (h : usable bd b → Keeps (SpoolFrame bd b) (x b)) :
    Keeps (SpoolFrame bd b) (onStorage bd storage x) := by
  cases storage with
  | none => exact keeps_pure .refl ()
  | some b' =>
      obtain rfl := hs b' rfl
      exact Keeps.ite h fun _ => keeps_throw .refl _

lemma lsSpoolInit_frame (hs : ∀ b', storage = some b' → b' = b) :
    Keeps (SpoolFrame bd b) (lsSpoolInit bd storage) := by
  refine onStorage_frame hs fun hu => ⟨fun s => ?_⟩
  refine (spoolInit_spec hu s).mono (fun _ s' h => ?_) (fun _ s' h => ?_)
  · obtain ⟨-, hd, hr⟩ | ⟨-, hr, hl, hren⟩ := h
    · refine ⟨.of_looked hd, ?_⟩
      rw [hr, Node.raised]
      dsimp only
      split <;> rfl
    · exact ⟨.of_renewing hu hl hren.renewing, by rw [hr]⟩
  · obtain ⟨hr, hd | ⟨-, hl, hren⟩⟩ := h
    · exact ⟨.of_looked hd, by rw [hr]⟩
    · exact ⟨.of_renewing hu hl hren, by rw [hr]⟩

lemma Spool.Node.Counted.persistent {n n' : Node} (h : n.Counted n') :
    n'.runtime.persistent = n.runtime.persistent := by
  obtain ⟨_, _, hr⟩ := h.runtime
  rw [hr]

lemma lsSpoolAppend_frame (hs : ∀ b', storage = some b' → b' = b)
    (data : List UInt8) (priority : Priority) :
    Keeps (SpoolFrame bd b) (lsSpoolAppend bd storage data priority) := by
  have hlimit := slotLimit_le bd priority
  refine Keeps.ite (fun _ => keeps_throw .refl _) fun hlen => ?_
  refine Keeps.bind (fun _ _ _ h h' => ⟨h.dev.trans h'.dev, h'.persistent.trans h.persistent⟩) ?_
    fun _ => keeps_modify fun s => ⟨.refl _, rfl⟩
  refine onStorage_frame hs fun hu => ?_
  cases lsEnvelopeValidate data with
  | error e => exact keeps_throw .refl _
  | ok info =>
      refine ⟨fun s => (spoolAppend_spec s (by omega) priority info).mono (fun _ s' h => ?_)
        (fun _ s' h => ⟨.of_attempted hu hlimit h.1, h.2.persistent⟩)⟩
      exact ⟨.of_attempted hu hlimit h.1.attempted, h.2.persistent⟩

/-! ### Functions that do not save -/

section Quiet

variable (bd b)

/-- No boot state was written, and the one in memory is the same but for its last sequence
number. -/
structure Quiet (s s' : System Machine) : Prop where
  dev : Inside bd b s.dev s'.dev
  storage : s'.ram.storage = s.ram.storage
  loaded : s'.ram.loaded = s.ram.loaded
  written : s'.ram.written = s.ram.written
  trace : s'.ram.trace = s.ram.trace
  persistent : ∃ last, s'.ram.persistent = { s.ram.persistent with lastSequence := last }

/-- A function is quiet on a machine that has no other storage than `b`. -/
def Quietly (s s' : System Machine) : Prop :=
  (∀ b', s.ram.storage = some b' → b' = b) → Quiet bd b s s'

variable {bd b} {s s' s₁ s₂ s₃ : System Machine} {c : Crypto}

/-- A change of the machine that does not concern the boot state. -/
lemma Quiet.of_ram {m : Machine} (hs : m.storage = s.ram.storage) (hl : m.loaded = s.ram.loaded)
    (hw : m.written = s.ram.written) (ht : m.trace = s.ram.trace)
    (hp : m.persistent = s.ram.persistent) : Quiet bd b s ⟨s.dev, m⟩ :=
  ⟨.refl _, hs, hl, hw, ht, s.ram.persistent.lastSequence, hp⟩

lemma Quiet.refl (s : System Machine) : Quiet bd b s s := .of_ram rfl rfl rfl rfl rfl

lemma Quiet.trans (h : Quiet bd b s₁ s₂) (h' : Quiet bd b s₂ s₃) : Quiet bd b s₁ s₃ := by
  refine ⟨h.dev.trans h'.dev, h'.storage.trans h.storage, h'.loaded.trans h.loaded,
    h'.written.trans h.written, h'.trace.trans h.trace, ?_⟩
  obtain ⟨last, hp⟩ := h.persistent
  obtain ⟨last', hp'⟩ := h'.persistent
  exact ⟨last', by rw [hp', hp]⟩

lemma Quietly.refl (s : System Machine) : Quietly bd b s s := fun _ => .refl s

lemma Quietly.trans (s₁ s₂ s₃ : System Machine) (h : Quietly bd b s₁ s₂)
    (h' : Quietly bd b s₂ s₃) : Quietly bd b s₁ s₃ :=
  fun hs => (h hs).trans (h' ((h hs).storage ▸ hs))

lemma quietly_bind {α β : Type} {x : MachineM α} {f : α → MachineM β}
    (hx : Keeps (Quietly bd b) x) (hf : ∀ a, Keeps (Quietly bd b) (f a)) :
    Keeps (Quietly bd b) (x >>= f) := hx.bind Quietly.trans hf

lemma quietly_pure {α : Type} (a : α) : Keeps (Quietly bd b) (pure a : MachineM α) :=
  keeps_pure .refl a

lemma quietly_throw {α : Type} (e : Halt Errno) : Keeps (Quietly bd b) (throw e : MachineM α) :=
  keeps_throw .refl e

lemma quietly_updateRuntime {f : Runtime → Runtime}
    (hf : ∀ rt, (f rt).persistent = rt.persistent) : Keeps (Quietly bd b) (updateRuntime f) :=
  ⟨fun _ => sat_updateRuntime.mpr fun _ => .of_ram rfl rfl rfl rfl (hf _)⟩

lemma quietly_updateRetained (f : Retained → Retained) :
    Keeps (Quietly bd b) (updateRetained f) :=
  ⟨fun _ => sat_updateRetained.mpr fun _ => .of_ram rfl rfl rfl rfl rfl⟩

/-- A question to the world. -/
lemma quietly_of_asked {α : Type} {x : MachineM α}
    (hx : ∀ s, Sat x s (fun _ s' => s'.dev = s.dev ∧ s.ram.Asked s'.ram) (fun _ _ => False)) :
    Keeps (Quietly bd b) x := by
  refine ⟨fun s => (hx s).mono (fun _ s' h _ => ?_) (fun _ _ h => h.elim)⟩
  obtain ⟨d, m⟩ := s'
  obtain ⟨rfl, k, rfl⟩ := h
  exact .of_ram rfl rfl rfl rfl rfl

lemma quietly_onFailure {α : Type} {x : MachineM α} {f : Machine → Machine}
    (hx : Keeps (Quietly bd b) x)
    (hf : ∀ s : System Machine, Quiet bd b s ⟨s.dev, f s.ram⟩) :
    Keeps (Quietly bd b) (onFailure f x) := by
  refine ⟨fun s => ?_⟩
  rw [sat_onFailure]
  refine (hx.sat s).mono (fun _ _ h => h) (fun e s' h => ?_)
  cases e with
  | cut => exact h
  | fail e => exact .trans _ _ _ h fun _ => hf s'

/-- A capture that has come as far as the append. -/
lemma Quiet.of_append {m m' : Machine} {t : System Node} (hm : s.ram.begun.Worked m)
    (ht : SpoolFrame bd b ⟨s.dev, m.node⟩ t) (hs : m'.storage = m.storage)
    (hl : m'.loaded = m.loaded) (hw : m'.written = m.written) (htr : m'.trace = m.trace)
    (hp : m'.persistent = t.ram.runtime.persistent) : Quiet bd b s ⟨t.dev, m'⟩ := by
  obtain ⟨rt, k, ⟨_, _, _, _, _, last, rfl⟩, rfl⟩ := hm
  exact ⟨ht.dev, hs, hl, hw, htr, last, hp.trans ht.persistent⟩

lemma quietly_lsCaptureEvent (event : Event) :
    Keeps (Quietly bd b) (lsCaptureEvent bd c event) := by
  refine ⟨fun s => (lsCaptureEvent_spec s).mono (fun _ s' h hb => ?_) (fun e s' h hb => ?_)⟩
  · obtain ⟨-, m, hm, ⟨-, rfl⟩ | ⟨data, t, -, ht, rfl⟩⟩ := h
    · exact .of_append hm (.refl ⟨s.dev, m.node⟩) rfl rfl rfl rfl rfl
    · have hframe := sat_of_ok
        ((lsSpoolAppend_frame hb data event.priority).sat ⟨s.dev, m.node⟩) ht
      exact .of_append hm hframe rfl rfl rfl rfl rfl
  · obtain ⟨-, -, rfl⟩ | ⟨-, m, hm, rfl | ⟨data, t, -, ht, hs'⟩⟩ := h
    · exact .refl _
    · exact .of_append hm (.refl ⟨s.dev, m.node⟩) rfl rfl rfl rfl rfl
    · have hframe := sat_of_error
        ((lsSpoolAppend_frame hb data event.priority).sat ⟨s.dev, m.node⟩) ht
      obtain rfl | ⟨-, rfl⟩ := hs'
      · exact .of_append hm hframe rfl rfl rfl rfl rfl
      · exact .of_append hm hframe rfl rfl rfl rfl rfl

lemma quietly_lsCaptureMinimalRecover :
    Keeps (Quietly bd b) (lsCaptureMinimalRecover bd c) := by
  refine ⟨fun s => ?_⟩
  rw [lsCaptureMinimalRecover, sat_bind, sat_getRam]
  cases lsMinimalSnapshotRead s.ram.retained with
  | none => exact .pure (.refl s)
  | some snapshot =>
      refine (Keeps.ite (fun _ => quietly_throw _) fun _ => ?_).sat s
      exact quietly_bind (quietly_of_asked lsUptimeMs_spec) fun _ =>
        quietly_bind (quietly_lsCaptureEvent _) fun _ => quietly_updateRetained _

lemma quietly_lsPowerfailRecover : Keeps (Quietly bd b) (lsPowerfailRecover bd c) := by
  refine ⟨fun s => ?_⟩
  rw [lsPowerfailRecover, sat_bind, sat_getRam]
  cases (if bd.enablePowerfailSeal then sealedReadRetained s.ram.retained else none) with
  | none => exact .pure (.refl s)
  | some sealed =>
      dsimp only
      refine Keeps.sat (quietly_bind (quietly_updateRuntime ?_) fun _ => ?_) s
      · exact fun _ => rfl
      refine Keeps.ite (fun _ => quietly_throw _) fun _ => ?_
      refine quietly_bind (quietly_updateRuntime fun _ => rfl) fun _ =>
        quietly_bind (quietly_of_asked lsUptimeMs_spec) fun _ => quietly_bind ?_ fun _ =>
        quietly_updateRetained _
      exact quietly_onFailure (quietly_lsCaptureEvent _) fun _ => .of_ram rfl rfl rfl rfl rfl

lemma quietly_recoverIf (found : Bool) {x : MachineM Unit} (hx : Keeps (Quietly bd b) x) :
    Keeps (Quietly bd b) (recoverIf found x) :=
  Keeps.ite (fun _ => keeps_ignoring hx) fun _ => quietly_pure _

end Quiet

end Latch
