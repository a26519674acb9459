/-
A storage that always succeeds, and the boot state on it.

* `Reliable`: on a device without faults the spool is initialised and a boot state is read
  and written;
* `InStep`: the stored boot state is the one in memory, but for the fields that a save sets;
* `saveWith_inStep`, `Quiet.inStep`: every change is saved, and what does not save keeps the
  boot state;
* `lsBoot_inStep`: a boot counts what was stored, what was retained and what it is told of
  the reset.
-/
import Latch.Core.Promotion

namespace Latch

open Exec Spool

variable {bd : Build} {b : Backend} {c : Crypto}

/-! ### A storage that succeeds -/

/-- On a device without faults the spool can be initialised and a boot state be read and
written. -/
structure Reliable (bd : Build) (b : Backend) : Prop where
  hasRead : b.hasRead = true
  hasWrite : b.hasWrite = true
  room : bootOffset bd b + bootSize ≤ b.capacity
  spool : ∀ s : System Node, s.dev.Healthy → Completes (lsSpoolInit bd (some b)) s
  program : ∀ (d : Device) (p : PersistentBoot), d.Healthy →
    Completes (lsStorageProgram b (bootOffset bd b) p.bytes) d

section Reliable

variable {s : System Machine}

lemma Reliable.bootFits (hr : Reliable bd b) {size : ℕ} (h : size ≤ bootSize) :
    bootFits bd b size :=
  (Nat.mod_le _ _).trans ((Nat.add_le_add_left h _).trans hr.room)

lemma Reliable.read_completes (hr : Reliable bd b) {d : Device} (hd : d.Healthy) {size : ℕ}
    (h : size ≤ bootSize) : Completes (b.read (bootOffset bd b) size) d := by
  have hroom := hr.room
  exact Latch.read_completes hd ⟨by omega, by omega⟩

/-- A load finds a boot state or reports that there is none. -/
lemma bootStateLoad_reliable (hr : Reliable bd b) (hd : s.dev.Healthy) :
    Sat (bootStateLoad bd b) s (fun _ _ => True) (fun e _ => e = .fail .ecorrupt) := by
  have hnone : ∀ s : System Machine,
      Sat noBoot s (fun _ _ => True) (fun e _ => e = .fail .ecorrupt) := by
    intro s
    rw [noBoot, sat_bind, sat_modifyRam, sat_throw]
  have htake : ∀ d size take, d.Healthy → size ≤ bootSize →
      Sat (takeBoot bd b size take) ⟨d, s.ram⟩ (fun _ _ => True) (fun e _ => e = .fail .ecorrupt) := by
    intro d size take hd hs
    rw [takeBoot, sat_bind, sat_onDevice]
    refine (hr.read_completes hd hs).mono fun l d' _ => ?_
    cases checkedBoot size take l with
    | none => exact hnone _
    | some p => exact sat_modifyRam.mpr trivial
  rw [bootStateLoad, if_neg (not_not.mpr (hr.bootFits (by decide))), sat_bind, sat_onDevice]
  refine ((hr.read_completes hd (by decide)).sat (read_spec b _ 8 s.dev)).mono fun head d₁ h₁ => ?_
  have hd₁ := hd.later h₁.2.toLater
  dsimp only
  refine sat_ite.mpr ⟨fun _ => hnone _, fun _ => sat_ite.mpr ⟨fun _ => ?_, fun _ => sat_ite.mpr
    ⟨fun _ => ?_, fun _ => sat_ite.mpr ⟨fun _ => hnone _, fun _ => ?_⟩⟩⟩⟩
  · exact htake _ _ _ hd₁ (by decide)
  · rw [if_neg (not_not.mpr (hr.bootFits (by decide)))]
    exact htake _ _ _ hd₁ (by decide)
  · rw [if_neg (not_not.mpr (hr.bootFits le_rfl))]
    exact htake _ _ _ hd₁ le_rfl

/-- The load of a boot takes the stored boot state, or a new one where there is none. -/
lemma loadBoot_reliable (hr : Reliable bd b) (hs : s.ram.storage = some b) (hd : s.dev.Healthy) :
    Sat (loadBoot bd) s (fun _ s' => s.dev.Looked s'.dev ∧
        s'.ram = s.ram.withBoot ((bootAt s.dev.medium (bootOffset bd b)).getD newBoot) true)
      (fun _ _ => False) := by
  have hcompletes : Completes (loadBoot bd) s := by
    rw [Completes, loadBoot, sat_bind, sat_attempt, lsBootStateLoad, sat_bind, sat_modifyRam,
      sat_bind, sat_getRam]
    simp only [Machine.withBoot_storage, hs, hr.hasRead, if_true]
    refine (bootStateLoad_reliable (s := ⟨s.dev, s.ram.withBoot default false⟩) hr hd).mono
      (fun _ _ _ => .pure trivial) (fun e _ h => ?_)
    subst h
    exact .pure trivial
  refine (hcompletes.sat (loadBoot_spec s)).mono fun _ s' h => ⟨h.1, ?_⟩
  obtain ⟨hno, -⟩ | ⟨b', hb', hram | ⟨⟨k, -, _, _, hf⟩, -⟩⟩ := h.2
  · cases hr.hasRead.symm.trans (hno b hs)
  · obtain rfl := Option.some.inj (hs.symm.trans hb')
    exact hram
  · rw [hd] at hf
    cases hf

lemma lsBootStateSave_reliable (hr : Reliable bd b) (hs : s.ram.storage = some b)
    (hd : s.dev.Healthy) : Completes (lsBootStateSave bd) s := by
  rw [Completes, lsBootStateSave, sat_bind, storeBootState, sat_bind, sat_getRam]
  simp only [hs, hr.hasWrite, not_true_eq_false, if_false]
  rw [if_neg (not_not.mpr (hr.bootFits le_rfl)), bootStateSave]
  refine (lsUptimeMs_spec s).bind fun _ s₁ h₁ => ?_
  have hd₁ : s₁.dev.Healthy := h₁.1 ▸ hd
  rw [sat_bind, sat_modifyRam, sat_bind, sat_getRam, sat_onDevice]
  refine ((hr.program s₁.dev _ hd₁).bind (program_spec b _ _ s₁.dev) fun _ d₂ h₂ =>
    sync_completes (hd₁.later h₂.1)).mono fun _ _ _ => ?_
  exact sat_modifyRam.mpr trivial

/-- A byte-writable memory with room for the boot state. -/
lemma reliable_of_bytes (hu : usable bd b) (he : Erasable bd b) (hunit : b.unit = 1)
    (hnor : b.enforceNor = false) (hroom : bootOffset bd b + bootSize ≤ b.capacity) :
    Reliable bd b := by
  refine ⟨hu.2.1, hu.2.2.1, hroom, fun s hd => ?_, fun d p hd => ?_⟩
  · exact lsSpoolInit_completes hu he ⟨by rw [hunit]; decide, .inl hunit⟩ hd
  · have hlen := p.bytes_length
    exact program_completes_byte hd hunit (by rw [hnor]; rfl) ⟨hu.2.1, hu.2.2.1, by omega, by omega⟩

end Reliable

/-! ### The boot state on it -/

lemma Restamped.trans {p q r : PersistentBoot} (h : Restamped p q) (h' : Restamped q r) :
    Restamped p r := by
  obtain ⟨_, _, _, _, rfl⟩ := h
  obtain ⟨_, _, _, _, rfl⟩ := h'
  exact ⟨_, _, _, _, rfl⟩

lemma Restamped.symm {p q : PersistentBoot} (h : Restamped p q) : Restamped q p := by
  obtain ⟨_, _, _, _, rfl⟩ := h
  exact ⟨_, _, _, _, rfl⟩

/-- The stored boot state is the one in memory, but for the fields that a save sets. -/
structure InStep (bd : Build) (b : Backend) (s : System Machine) : Prop where
  storage : s.ram.storage = some b
  healthy : s.dev.Healthy
  stored : ∃ p, bootAt s.dev.medium (bootOffset bd b) = some p ∧ Restamped s.ram.persistent p

section InStep

variable {s s' : System Machine} {f : PersistentBoot → PersistentBoot}

/-- A change of the machine that does not concern the boot state. -/
lemma InStep.of_ram (h : InStep bd b s) {m : Machine} (hs : m.storage = s.ram.storage)
    (hp : m.persistent = s.ram.persistent) : InStep bd b ⟨s.dev, m⟩ :=
  ⟨hs.trans h.storage, h.healthy, by rw [hp]; exact h.stored⟩

/-- What does not save keeps the boot state. -/
lemma Quiet.inStep (h : Quiet bd b s s') (hs : InStep bd b s) :
    InStep bd b s' ∧ Restamped s.ram.persistent s'.ram.persistent := by
  obtain ⟨last, hp⟩ := h.persistent
  have hsame : Restamped s.ram.persistent s'.ram.persistent := ⟨_, _, _, last, hp⟩
  obtain ⟨p, hat, hstamp⟩ := hs.stored
  exact ⟨⟨h.storage.trans hs.storage, hs.healthy.later h.dev.toLater, p, h.dev.bootAt.trans hat,
    hsame.symm.trans hstamp⟩, hsame⟩

/-- What does not save, at each of its exits. -/
lemma InStep.quietly {α : Type} {x : MachineM α} (hs : InStep bd b s)
    (hx : Keeps (Quietly bd b) x) :
    Sat x s (fun _ s' => InStep bd b s' ∧ Restamped s.ram.persistent s'.ram.persistent)
      (fun _ s' => InStep bd b s' ∧ Restamped s.ram.persistent s'.ram.persistent) := by
  have hb : ∀ b', s.ram.storage = some b' → b' = b := fun b' h =>
    Option.some.inj (h.symm.trans hs.storage)
  exact (hx.sat s).mono (fun _ _ h => (h hb).inStep hs) (fun _ _ h => (h hb).inStep hs)

/-- A save. -/
lemma lsBootStateSave_inStep (hr : Reliable bd b) (hs : s.ram.storage = some b)
    (hd : s.dev.Healthy) :
    Sat (lsBootStateSave bd) s
      (fun _ s' => InStep bd b s' ∧ Restamped s.ram.persistent s'.ram.persistent)
      (fun _ _ => False) := by
  refine ((lsBootStateSave_reliable hr hs hd).sat (lsBootStateSave_exits s)).mono
    fun _ s' h => ?_
  exact ⟨⟨h.storage.trans hs, hd.later h.dev, _, h.stored b hs hr.hasWrite, .refl _⟩, h.boot⟩

/-- A change that is saved. -/
lemma saveWith_inStep (hr : Reliable bd b) (hs : s.ram.storage = some b) (hd : s.dev.Healthy) :
    Sat (saveWith bd f) s
      (fun _ s' => InStep bd b s' ∧ Restamped (f s.ram.persistent) s'.ram.persistent)
      (fun _ _ => False) := by
  rw [saveWith, sat_bind, sat_updatePersistent]
  exact lsBootStateSave_inStep hr hs hd

/-- A mark, whose result is dropped. -/
lemma ignoring_saveWith_inStep (hr : Reliable bd b) (hs : s.ram.storage = some b)
    (hd : s.dev.Healthy) :
    Sat (ignoring (saveWith bd f)) s
      (fun _ s' => InStep bd b s' ∧ Restamped (f s.ram.persistent) s'.ram.persistent)
      (fun _ _ => False) :=
  sat_ignoring.mpr <| (saveWith_inStep hr hs hd).mono fun _ _ h => h

end InStep

/-! ### A boot on it -/

/-- What the `reset_info` callback answers, where there is one. -/
def World.toldReset (w : World) (k : ℕ) : ResetInfo :=
  match w.resetInfo with
  | none => default
  | some info => info k

lemma askResetInfo_told (s : System Machine) :
    Sat askResetInfo s (fun info s' => (∃ k, info = s.ram.world.toldReset k) ∧
      s'.dev = s.dev ∧ s.ram.Asked s'.ram) (fun _ _ => False) := by
  rw [askResetInfo, nextCall, sat_bind, sat_bind, sat_getRam, sat_bind, sat_modifyRam, sat_pure,
    sat_bind, sat_getRam, sat_pure]
  exact ⟨⟨_, rfl⟩, rfl, _, rfl⟩

/-! ### The verdict of a boot -/

/-- The verdict of the boot stands. -/
def SameVerdict (s s' : System Machine) : Prop :=
  s'.ram.runtime.bootLoop = s.ram.runtime.bootLoop

section Verdict

lemma SameVerdict.refl (s : System Machine) : SameVerdict s s := rfl

lemma SameVerdict.trans (s₁ s₂ s₃ : System Machine) (h : SameVerdict s₁ s₂)
    (h' : SameVerdict s₂ s₃) : SameVerdict s₁ s₃ := Eq.trans h' h

lemma sameVerdict_bind {α β : Type} {x : MachineM α} {f : α → MachineM β}
    (hx : Keeps SameVerdict x) (hf : ∀ a, Keeps SameVerdict (f a)) : Keeps SameVerdict (x >>= f) :=
  hx.bind SameVerdict.trans hf

/-- A question to the world. -/
lemma sameVerdict_of_asked {α : Type} {x : MachineM α}
    (hx : ∀ s, Sat x s (fun _ s' => s'.dev = s.dev ∧ s.ram.Asked s'.ram) (fun _ _ => False)) :
    Keeps SameVerdict x := by
  refine ⟨fun s => (hx s).mono (fun _ s' h => ?_) (fun _ _ h => h.elim)⟩
  obtain ⟨-, k, hr⟩ := h
  rw [SameVerdict, hr]

lemma sameVerdict_lsBootStateSave : Keeps SameVerdict (lsBootStateSave bd) := by
  have hbegun : ∀ {b' p} {s s₁ : System Machine}, SaveBegun b' p s s₁ → SameVerdict s s₁ := by
    intro b' p s s₁ h
    obtain ⟨k, hr⟩ := h.ram
    rw [SameVerdict, hr]
    rfl
  refine ⟨fun s => (lsBootStateSave_spec s (E := fun _ _ _ => True) fun _ _ _ =>
    (sat_run _ _).mono fun _ _ _ => trivial).mono
    (fun _ s' h => ?_) (fun _ s' h => ?_)⟩
  · obtain ⟨s₁, ⟨rfl, -⟩ | ⟨b', p, h, -⟩, rfl⟩ := h
    · rfl
    · have hsame := hbegun h
      exact hsame
  · obtain rfl | ⟨b', p, h, -⟩ := h
    · rfl
    · exact hbegun h

/-- An append changes the statistics of the spool in the runtime. -/
lemma lsSpoolAppend_runtime (storage : Option Backend) (data : List UInt8) (priority : Priority) :
    Keeps (fun s s' : System Node => ∃ watermark dropped, s'.ram.runtime =
      { s.ram.runtime with spoolHighWatermark := watermark, spoolDroppedRecords := dropped })
      (lsSpoolAppend bd storage data priority) := by
  refine Keeps.ite (fun _ => keeps_throw (fun s => ⟨_, _, rfl⟩) _) fun hlen => ?_
  refine Keeps.bind ?_ ?_ fun _ => keeps_modify fun s => ⟨_, _, rfl⟩
  · rintro s₁ s₂ s₃ ⟨w, n, h⟩ ⟨w', n', h'⟩
    exact ⟨w', n', by rw [h', h]⟩
  cases storage with
  | none => exact keeps_pure (fun s => ⟨_, _, rfl⟩) ()
  | some b =>
      refine Keeps.ite (fun hu => ?_) fun _ => keeps_throw (fun s => ⟨_, _, rfl⟩) _
      cases lsEnvelopeValidate data with
      | error e => exact keeps_throw (fun s => ⟨_, _, rfl⟩) _
      | ok info =>
          exact ⟨fun s => (spoolAppend_spec s (by omega) priority info).mono
            (fun _ s' h => h.2.runtime) (fun _ s' h => h.2.runtime)⟩

lemma sameVerdict_lsCaptureEvent (event : Event) :
    Keeps SameVerdict (lsCaptureEvent bd c event) := by
  have hworked : ∀ {s : System Machine} {m : Machine}, s.ram.begun.Worked m →
      m.runtime.bootLoop = s.ram.runtime.bootLoop := by
    rintro s m ⟨rt, k, ⟨_, _, _, _, _, _, rfl⟩, rfl⟩
    rfl
  have happended : ∀ {s : System Machine} {m : Machine} {t : System Node}, s.ram.begun.Worked m →
      (∃ watermark dropped, t.ram.runtime = { m.node.runtime with
        spoolHighWatermark := watermark, spoolDroppedRecords := dropped }) →
      t.ram.runtime.bootLoop = s.ram.runtime.bootLoop := by
    rintro s m t hm ⟨w, n, ht⟩
    rw [ht]
    exact hworked hm
  refine ⟨fun s => (lsCaptureEvent_spec s).mono (fun _ s' h => ?_) (fun e s' h => ?_)⟩
  · obtain ⟨-, m, hm, ⟨-, rfl⟩ | ⟨data, t, -, ht, rfl⟩⟩ := h
    · have hkept := hworked hm
      exact hkept
    · have hrt := sat_of_ok ((lsSpoolAppend_runtime _ data event.priority).sat ⟨s.dev, m.node⟩) ht
      exact happended hm hrt
  · obtain ⟨-, -, rfl⟩ | ⟨-, m, hm, rfl | ⟨data, t, -, ht, hs'⟩⟩ := h
    · rfl
    · have hkept := hworked hm
      exact hkept
    · have hrt := sat_of_error ((lsSpoolAppend_runtime _ data event.priority).sat ⟨s.dev, m.node⟩) ht
      obtain rfl | ⟨-, rfl⟩ := hs' <;> exact happended hm hrt

lemma sameVerdict_updateRuntime {f : Runtime → Runtime}
    (hf : ∀ rt, (f rt).bootLoop = rt.bootLoop) : Keeps SameVerdict (updateRuntime f) :=
  ⟨fun _ => sat_updateRuntime.mpr (hf _)⟩

lemma sameVerdict_updateRetained (f : Retained → Retained) :
    Keeps SameVerdict (updateRetained f) := ⟨fun _ => sat_updateRetained.mpr rfl⟩

lemma sameVerdict_lsCaptureMinimalRecover :
    Keeps SameVerdict (lsCaptureMinimalRecover bd c) := by
  refine ⟨fun s => ?_⟩
  rw [lsCaptureMinimalRecover, sat_bind, sat_getRam]
  cases lsMinimalSnapshotRead s.ram.retained with
  | none => exact .pure rfl
  | some snapshot =>
      refine (Keeps.ite (fun _ => keeps_throw .refl _) fun _ => ?_).sat s
      exact sameVerdict_bind (sameVerdict_of_asked lsUptimeMs_spec) fun _ =>
        sameVerdict_bind (sameVerdict_lsCaptureEvent _) fun _ => sameVerdict_updateRetained _

lemma sameVerdict_lsPowerfailRecover : Keeps SameVerdict (lsPowerfailRecover bd c) := by
  refine ⟨fun s => ?_⟩
  rw [lsPowerfailRecover, sat_bind, sat_getRam]
  cases (if bd.enablePowerfailSeal then sealedReadRetained s.ram.retained else none) with
  | none => exact .pure rfl
  | some sealed =>
      dsimp only
      refine Keeps.sat (sameVerdict_bind (sameVerdict_updateRuntime ?_) fun _ => ?_) s
      · exact fun _ => rfl
      refine Keeps.ite (fun _ => keeps_throw .refl _) fun _ => ?_
      refine sameVerdict_bind (sameVerdict_updateRuntime fun _ => rfl) fun _ =>
        sameVerdict_bind (sameVerdict_of_asked lsUptimeMs_spec) fun _ => sameVerdict_bind ⟨fun s => ?_⟩
        fun _ => sameVerdict_updateRetained _
      rw [sat_onFailure]
      refine ((sameVerdict_lsCaptureEvent _).sat s).mono (fun _ _ h => h) (fun e s' h => ?_)
      cases e <;> exact h

/-- The recoveries at the end of a boot. -/
lemma sameVerdict_recoveries (found : Bool) :
    Keeps SameVerdict (recoverIf bd.enablePowerfailSeal (lsPowerfailRecover bd c) >>= fun _ =>
      recoverIf found (lsCaptureMinimalRecover bd c)) :=
  sameVerdict_bind
    (Keeps.ite (fun _ => keeps_ignoring sameVerdict_lsPowerfailRecover) fun _ => keeps_pure .refl _)
    fun _ => Keeps.ite (fun _ => keeps_ignoring sameVerdict_lsCaptureMinimalRecover) fun _ =>
      keeps_pure .refl _

end Verdict

/-! ### A boot -/

section Boot

variable {s : System Machine}

/-- The machine `s'` has counted a boot that started on `s` with the boot state `p`. -/
def BootCounted (bd : Build) (p : PersistentBoot) (s s' : System Machine) : Prop :=
  ∃ rt now k, rt.persistent = p ∧
    let counted := bootCounted bd (lsMinimalSnapshotRead s.ram.retained).isSome now
      (s.ram.world.toldReset k) rt
    Restamped counted.persistent s'.ram.persistent ∧
      s'.ram.runtime.bootLoop = counted.bootLoop

/-- `ls_boot` up to its recoveries. -/
lemma bootStarted_inStep (hr : Reliable bd b) (hs : s.ram.storage = some b) (hd : s.dev.Healthy)
    (hi : s.ram.runtime.initialized = true) :
    Sat (bootStarted bd) s
      (fun _ s' => InStep bd b s' ∧
        BootCounted bd ((bootAt s.dev.medium (bootOffset bd b)).getD newBoot) s s')
      (fun _ _ => False) := by
  rw [bootStarted, sat_bind, sat_getRam, if_neg (not_not.mpr hi), sat_bind, sat_onNode]
  have hb : ∀ b', s.ram.storage = some b' → b' = b := fun b' h => Option.some.inj (h.symm.trans hs)
  refine (Completes.sat (hs ▸ hr.spool ⟨s.dev, s.ram.node⟩ hd)
    ((lsSpoolInit_frame hb).sat ⟨s.dev, s.ram.node⟩)).mono fun _ t ht => ?_
  refine (loadBoot_reliable (s := ⟨t.dev, { s.ram with node := t.ram }⟩) hr hs
    (hd.later ht.dev.toLater)).bind fun _ s₂ h₂ => ?_
  obtain ⟨hl₂, hr₂⟩ := h₂
  refine (timestampMs_spec s₂).bind fun now s₃ h₃ => ?_
  refine (askResetInfo_told s₃).bind fun info s₄ h₄ => ?_
  obtain ⟨hd₃, k₃, hr₃⟩ := h₃
  obtain ⟨⟨k, rfl⟩, hd₄, k₄, hr₄⟩ := h₄
  have hboot : s₄.ram.persistent = (bootAt s.dev.medium (bootOffset bd b)).getD newBoot := by
    rw [hr₄, hr₃, hr₂]
    change (bootAt t.dev.medium (bootOffset bd b)).getD newBoot = _
    rw [ht.dev.bootAt]
  have hworld : s₃.ram.world = s.ram.world := by rw [hr₃, hr₂]; rfl
  rw [sat_bind, sat_updateRuntime, sat_bind]
  set s₅ : System Machine := ⟨s₄.dev, s₄.ram.setRuntime (bootCounted bd
    (lsMinimalSnapshotRead s.ram.retained).isSome now (s₃.ram.world.toldReset k) s₄.ram.runtime)⟩
    with hs₅
  have hstorage : s₅.ram.storage = some b := by
    rw [hs₅, Machine.setRuntime_storage, hr₄, hr₃, hr₂]
    exact hs
  have hhealthy : s₅.dev.Healthy := by
    change s₄.dev.Healthy
    rw [hd₄, hd₃]
    exact (hd.later ht.dev.toLater).later hl₂.toLater
  refine ((lsBootStateSave_inStep hr hstorage hhealthy).and
    (sameVerdict_lsBootStateSave.sat s₅)).mono (fun _ s' h => ?_) (fun _ _ h => h.1)
  refine .pure ⟨h.1.1, s₄.ram.runtime, now, k, hboot, ?_⟩
  rw [← hworld]
  exact ⟨h.1.2, h.2⟩

/-- **A boot** counts what was stored, what was retained and what it is told of the reset. -/
lemma lsBoot_inStep (hr : Reliable bd b) (hs : s.ram.storage = some b) (hd : s.dev.Healthy)
    (hi : s.ram.runtime.initialized = true) :
    let left := fun s' => InStep bd b s' ∧
      BootCounted bd ((bootAt s.dev.medium (bootOffset bd b)).getD newBoot) s s'
    Sat (lsBoot bd c) s (fun _ s' => left s') (fun _ s' => left s') := by
  intro left
  rw [lsBoot_eq]
  refine (bootStarted_inStep hr hs hd hi).bind fun found s₁ h₁ => ?_
  obtain ⟨hstep, rt, now, k, hboot, hcount, hloop⟩ := h₁
  have hquiet : Keeps (Quietly bd b)
      (recoverIf bd.enablePowerfailSeal (lsPowerfailRecover bd c) >>= fun _ =>
        recoverIf found (lsCaptureMinimalRecover bd c)) :=
    quietly_bind (quietly_recoverIf _ quietly_lsPowerfailRecover) fun _ =>
      quietly_recoverIf _ quietly_lsCaptureMinimalRecover
  have hleft : ∀ s', (InStep bd b s' ∧ Restamped s₁.ram.persistent s'.ram.persistent) ∧
      SameVerdict s₁ s' → left s' := fun s' h =>
    ⟨h.1.1, rt, now, k, hboot, hcount.trans h.1.2, Eq.trans h.2 hloop⟩
  exact ((hstep.quietly hquiet).and ((sameVerdict_recoveries found).sat s₁)).mono
    (fun _ s' => hleft s') (fun _ s' => hleft s')

end Boot

end Latch
