/-
Boot-loop detection over whole histories of boots, on a storage that always succeeds.

A boot is a start, the calls of the application and an end: a fault handler takes over or not,
and the device is reset. A history keeps how each boot really ended; `ls_boot` knows of it what
was saved, what was retained and what it is told of the reset.

* `BootRun.live`: a whole boot, and its end for the history;
* `Supported`: what a failure count says of the boots before;
* `LeftBy`: what a boot leaves behind tells how it ended;
* `Described`: when that is enough to count the boot for what it was;
* `boot_loop_sound`: under that condition every boot loop that is detected is one;
* `boot_loop_false_alarm`: without it, watchdog resets a day apart are taken for one.
-/
import Latch.Capture.Fault
import Latch.Core.Ota
import Latch.Core.Sealing

namespace Latch

open Exec Spool

/-! ### Boots -/

/-- What the application calls within a boot. -/
inductive BootCall where
  | capture (event : Event)
  | markSuccessful
  | markExpected (expected : Bool)

/-- How a boot ends before the reset: in one of the fault handlers, or in none. -/
inductive Ending where
  | cpuContext (context : ArchContext)
  | riscv64Context (context : Riscv64Context)
  | minimalFault (a : FaultArgs)
  | minimal (context : ArchContext)
  | minimalRiscv64 (context : Riscv64Context)
  | reset

/-- A boot: a configuration that `ls_init` accepts, what the world answers during the boot, the
calls, the end and the reason of the reset. -/
structure BootRun (bd : Build) where
  config : Config
  valid : lsBuildIdValidate (config.identity.firmwareBuildId.getD bd.buildId) = true
  world : World
  calls : List BootCall
  ending : Ending
  reason : ResetReason

/-- How a boot ended: in a crash or not, with or without a reset that the application
announced, for which reason, and at which uptime. -/
structure BootEnd where
  crashed : Bool
  expected : Bool
  reason : ResetReason
  uptimeMs : UInt32
  deriving DecidableEq

/-- The boot ended in a crash, or in an unexpected reset by a watchdog or a lockup. -/
def BootEnd.failing (e : BootEnd) : Bool := e.crashed || e.reason.failure && !e.expected

/-- The device behind a reset, with the ends of its boots, the last one first. -/
structure History where
  sys : System Machine
  ends : List BootEnd

/-- The last end; the first boot comes from power-on. -/
def History.last (h : History) : BootEnd := h.ends.headD ⟨false, false, .powerOn, 0⟩

/-- The boot state that the next boot starts with. -/
def History.boot (h : History) (bd : Build) (b : Backend) : PersistentBoot :=
  (bootAt h.sys.dev.medium (bootOffset bd b)).getD newBoot

/-- A retained snapshot is readable. -/
def History.snapshot (h : History) : Bool := (lsMinimalSnapshotRead h.sys.ram.retained).isSome

/-- The world whose `reset_info` callback, where there is one, reports the given reason. -/
def World.telling (w : World) (reason : ResetReason) : World :=
  { w with resetInfo := w.resetInfo.map fun info k => { info k with reason := reason } }

/-- The machine behind a reset; of its memory, the retained records stay. -/
def Machine.afterReset (m : Machine) (world : World) : Machine :=
  { m with
    retained := { m.retained with
      minimalBuildHash := 0, riscv64FaultCaptureSequence := 0, sealSequence := 0 }
    world := world, calls := 0 }

/-- What `ls_uptime_ms` would answer. -/
def Machine.uptimeMs (m : Machine) : UInt32 :=
  (match m.world.timestampMs with
    | none => 0
    | some clock => clock m.calls) - m.runtime.bootStartedMs

section

variable (bd : Build) (c : Crypto)

/-- The function that is called. -/
def BootCall.run : BootCall → MachineM Unit
  | .capture event => lsCaptureEvent bd c event
  | .markSuccessful => lsBootMarkSuccessful bd
  | .markExpected expected => lsResetMarkExpected bd expected

/-- Whether a reset is expected behind a call. -/
def BootCall.expects (expected : Bool) : BootCall → Bool
  | .markExpected expected' => expected'
  | _ => expected

/-- The handler that runs at the end. -/
def Ending.run : Ending → MachineM Unit
  | .cpuContext context => lsCaptureCpuContext bd c (some context)
  | .riscv64Context context => lsCaptureRiscv64Context bd c (some context)
  | .minimalFault a => updateRetained fun r => lsCaptureMinimalFault bd r a
  | .minimal context => updateRetained fun r => lsCaptureMinimal bd r context
  | .minimalRiscv64 context => updateRetained fun r => lsCaptureMinimalRiscv64Fault bd r context
  | .reset => pure ()

/-- The end is a crash. -/
def Ending.crashed : Ending → Bool
  | .reset => false
  | _ => true

variable {bd} (b : Backend)

/-- The system behind a call. -/
def callStep (call : BootCall) (s : System Machine) : System Machine := leaves (call.run bd c) s

/-- The start of a boot, up to the end of `ls_boot`. -/
def BootRun.start (boot : BootRun bd) (h : History) : System Machine :=
  leaves (powerUp bd c boot.config b)
    ⟨h.sys.dev, h.sys.ram.afterReset (boot.world.telling h.last.reason)⟩

/-- A whole boot. -/
def BootRun.live (boot : BootRun bd) (h : History) : History :=
  let s := leaves (boot.ending.run bd c)
    (Run.after (@callStep bd c) boot.calls (boot.start c b h))
  ⟨s, ⟨boot.ending.crashed, boot.calls.foldl BootCall.expects false, boot.reason,
    s.ram.uptimeMs⟩ :: h.ends⟩

/-- What is left of the last boot says enough of it. If it failed after the window, then the
boot state was saved after the window as well, and the failure is one that shows: a crash, or a
reset where `reset_info` is set; none of this matters where no failure is on record. If it did
not fail, no snapshot is left from before, and it was marked successful unless no failure is on
record. -/
def Described (boot : BootRun bd) (h : History) : Prop :=
  (h.last.failing = true → h.last.uptimeMs ≤ bd.bootLoopWindowMs ∨
    (h.boot bd b).consecutiveFailures = 0 ∨ bd.bootLoopWindowMs < (h.boot bd b).previousUptimeMs ∧
      (h.last.crashed = true ∨ boot.world.resetInfo.isSome = true)) ∧
  (h.last.failing = false → h.snapshot = false ∧
    ((h.boot bd b).bootSuccessful ≠ 0 ∨ (h.boot bd b).consecutiveFailures = 0))

instance (boot : BootRun bd) (h : History) : Decidable (Described b boot h) :=
  inferInstanceAs (Decidable (_ ∧ _))

end

/-! ### The failure count -/

/-- The last boots bear out a failure count: so many of them failed, and all but the first of
these within the window. -/
structure Supported (bd : Build) (failures : ℕ) (ends : List BootEnd) : Prop where
  enough : failures ≤ ends.length
  failing : ∀ e ∈ ends.take failures, e.failing = true
  short : ∀ e ∈ ends.take (failures - 1), e.uptimeMs ≤ bd.bootLoopWindowMs

section Count

variable {bd : Build} {n m : ℕ} {ends : List BootEnd} {e : BootEnd}

lemma Supported.zero : Supported bd 0 ends := ⟨Nat.zero_le _, by simp, by simp⟩

lemma Supported.mono (h : Supported bd n ends) (hm : m ≤ n) : Supported bd m ends :=
  ⟨hm.trans h.enough, fun e he => h.failing e (List.take_subset_take_left ends hm he),
    fun e he => h.short e (List.take_subset_take_left ends (Nat.sub_le_sub_right hm 1) he)⟩

/-- One more failure. -/
lemma Supported.cons (h : Supported bd n ends) (hf : e.failing = true)
    (hs : n ≠ 0 → e.uptimeMs ≤ bd.bootLoopWindowMs) : Supported bd (n + 1) (e :: ends) := by
  refine ⟨Nat.succ_le_succ h.enough, fun e' he' => ?_, fun e' he' => ?_⟩
  · rw [List.take_succ_cons, List.mem_cons] at he'
    obtain rfl | he' := he'
    · exact hf
    · exact h.failing e' he'
  · cases n with
    | zero => simp at he'
    | succ n =>
        rw [Nat.add_sub_cancel, List.take_succ_cons, List.mem_cons] at he'
        obtain rfl | he' := he'
        · exact hs (Nat.succ_ne_zero n)
        · exact h.short e' he'

/-- The failure count of `ls_boot`, for a boot state and whether the last boot counts as
failed. -/
def countFailures (bd : Build) (p : PersistentBoot) (failed : Prop) [Decidable failed] : UInt32 :=
  if failed then if p.previousUptimeMs ≤ bd.bootLoopWindowMs then p.consecutiveFailures + 1 else 1
  else if p.bootSuccessful ≠ 0 then 0 else p.consecutiveFailures

/-- The count goes on where the boot failed, unless its uptime is on the other side of the
window. -/
lemma supported_of_failing {p : PersistentBoot} {failed : Prop} [Decidable failed]
    (hs : Supported bd p.consecutiveFailures.toNat ends) (he : e.failing = true)
    (hd : e.uptimeMs ≤ bd.bootLoopWindowMs ∨ p.consecutiveFailures = 0 ∨
      bd.bootLoopWindowMs < p.previousUptimeMs ∧ failed) :
    Supported bd (countFailures bd p failed).toNat (e :: ends) := by
  have hnext (hd : e.uptimeMs ≤ bd.bootLoopWindowMs ∨ p.consecutiveFailures = 0) :
      Supported bd (p.consecutiveFailures.toNat + 1) (e :: ends) := by
    refine hs.cons he fun hne => hd.resolve_right fun h0 => hne ?_
    rw [h0]
    rfl
  rw [countFailures]
  split
  · split
    · rename_i hf hup
      have hle : (p.consecutiveFailures + 1).toNat ≤ p.consecutiveFailures.toNat + 1 := by
        rw [UInt32.toNat_add]
        exact Nat.mod_le _ _
      refine (hnext ?_).mono hle
      obtain h | h | ⟨h, -⟩ := hd
      · exact .inl h
      · exact .inr h
      · exact absurd hup (UInt32.not_le.mpr h)
    · exact Supported.zero.cons he fun h => absurd rfl h
  · split
    · exact .zero
    · rename_i hf _
      refine (hnext ?_).mono (Nat.le_succ _)
      obtain h | h | ⟨-, h⟩ := hd
      · exact .inl h
      · exact .inr h
      · exact absurd h hf

/-- The count is cleared where the boot did not fail. -/
lemma supported_of_clean {p : PersistentBoot} {failed : Prop} [Decidable failed] (hf : ¬ failed)
    (hd : p.bootSuccessful ≠ 0 ∨ p.consecutiveFailures = 0) :
    Supported bd (countFailures bd p failed).toNat ends := by
  have hcount : countFailures bd p failed = 0 := by
    rw [countFailures, if_neg hf]
    split
    · rfl
    · exact hd.resolve_left ‹_›
  rw [hcount]
  exact .zero

end Count

/-! ### What a boot leaves behind -/

/-- What is left of a boot tells how it ended. -/
structure LeftBy (e : BootEnd) (p : PersistentBoot) (snapshot : Bool) : Prop where
  pending : p.crashPending ≠ 0 → e.crashed = true
  crashed : e.crashed = true → p.crashPending ≠ 0 ∨ snapshot = true
  expected : p.expectedReset ≠ 0 ↔ e.expected = true

lemma LeftBy.restamped {e : BootEnd} {p q : PersistentBoot} {snapshot : Bool}
    (h : LeftBy e p snapshot) (hq : Restamped p q) : LeftBy e q snapshot := by
  obtain ⟨_, _, _, _, rfl⟩ := hq
  exact ⟨h.pending, h.crashed, h.expected⟩

/-- A history and what its device has stored of it. -/
structure Recorded (bd : Build) (b : Backend) (h : History) : Prop where
  healthy : h.sys.dev.Healthy
  left : LeftBy h.last (h.boot bd b) h.snapshot
  supported : Supported bd (h.boot bd b).consecutiveFailures.toNat h.ends.tail

/-- A device before its first boot. -/
lemma recorded_fresh {bd : Build} {b : Backend} {s : System Machine} (hd : s.dev.Healthy)
    (hfresh : bootAt s.dev.medium (bootOffset bd b) = none) : Recorded bd b ⟨s, []⟩ := by
  have hboot : History.boot ⟨s, []⟩ bd b = newBoot := by
    rw [History.boot, hfresh]
    rfl
  refine ⟨hd, ?_, ?_⟩
  · rw [hboot]
    exact ⟨fun h => absurd rfl h, nofun, ⟨fun h => absurd rfl h, nofun⟩⟩
  · rw [hboot]
    exact .zero

/-- What the library has saved within a boot: the failure count from its start, or none. -/
structure Running (bd : Build) (b : Backend) (failures : UInt32) (expected : Bool)
    (s : System Machine) : Prop where
  inStep : InStep bd b s
  pending : s.ram.persistent.crashPending = 0
  expected : s.ram.persistent.expectedReset ≠ 0 ↔ expected = true
  failures : s.ram.persistent.consecutiveFailures = failures ∨
    s.ram.persistent.consecutiveFailures = 0

section Live

variable {bd : Build} {b : Backend} {c : Crypto} {s s' : System Machine} {failures : UInt32}
  {expected : Bool}

lemma Running.restamped (h : Running bd b failures expected s)
    (h' : InStep bd b s' ∧ Restamped s.ram.persistent s'.ram.persistent) :
    Running bd b failures expected s' := by
  obtain ⟨hstep, _, _, _, _, hp⟩ := h'
  exact ⟨hstep, by rw [hp]; exact h.pending, by rw [hp]; exact h.expected,
    by rw [hp]; exact h.failures⟩

/-- A call keeps what is saved in step. -/
lemma running_callStep (hr : Reliable bd b) (h : Running bd b failures expected s)
    (call : BootCall) :
    Running bd b failures (call.expects expected) (@callStep bd c call s) := by
  cases call with
  | capture event =>
      exact h.restamped (h.inStep.quietly (quietly_lsCaptureEvent event)).leaves
  | markSuccessful =>
      have hmark : Sat (lsBootMarkSuccessful bd) s
          (fun _ s' => Running bd b failures expected s') (fun _ _ => False) := by
        rw [lsBootMarkSuccessful, sat_bind, sat_updateRuntime]
        refine Sat.mono (ignoring_saveWith_inStep hr h.inStep.storage h.inStep.healthy)
          (fun _ s' h' => ?_) (fun _ _ h' => h')
        obtain ⟨hstep, _, _, _, _, hp⟩ := h'
        exact ⟨hstep, by rw [hp], by rw [hp]; exact h.expected, .inr (by rw [hp])⟩
      exact (hmark.mono (fun _ _ h' => h') fun _ _ h' => h'.elim).leaves
  | markExpected expected' =>
      have hmark : Sat (lsResetMarkExpected bd expected') s
          (fun _ s' => Running bd b failures expected' s') (fun _ _ => False) := by
        rw [lsResetMarkExpected, sat_bind, sat_updateRuntime]
        refine Sat.mono (ignoring_saveWith_inStep hr h.inStep.storage h.inStep.healthy)
          (fun _ s' h' => ?_) (fun _ _ h' => h')
        obtain ⟨hstep, _, _, _, _, hp⟩ := h'
        refine ⟨hstep, by rw [hp]; exact h.pending, ?_, by rw [hp]; exact h.failures⟩
        rw [hp]
        change (if expected' = true then (1 : UInt8) else 0) ≠ 0 ↔ _
        cases expected' <;> decide
      exact (hmark.mono (fun _ _ h' => h') fun _ _ h' => h'.elim).leaves

/-- All calls of a boot. -/
lemma running_calls (hr : Reliable bd b) (calls : List BootCall)
    (h : Running bd b failures expected s) :
    Running bd b failures (calls.foldl BootCall.expects expected)
      (Run.after (@callStep bd c) calls s) := by
  induction calls generalizing s expected with
  | nil => exact h
  | cons call calls ih => exact ih (running_callStep hr h call)

/-- What is left behind the end of a boot. -/
structure Ended (bd : Build) (b : Backend) (failures : UInt32) (expected crashed : Bool)
    (s : System Machine) : Prop where
  inStep : InStep bd b s
  left : ∀ reason uptimeMs, LeftBy ⟨crashed, expected, reason, uptimeMs⟩ s.ram.persistent
    (lsMinimalSnapshotRead s.ram.retained).isSome
  failures : s.ram.persistent.consecutiveFailures = failures ∨
    s.ram.persistent.consecutiveFailures = 0

/-- A handler that leaves a snapshot. -/
lemma updateRetained_ended (h : Running bd b failures expected s) {f : Retained → Retained}
    (hread : (lsMinimalSnapshotRead (f s.ram.retained)).isSome = true) :
    Sat (updateRetained f) s (fun _ s' => Ended bd b failures expected true s')
      (fun _ s' => Ended bd b failures expected true s') :=
  sat_updateRetained.mpr ⟨h.inStep.of_ram rfl rfl,
    fun _ _ => ⟨fun _ => rfl, fun _ => .inr hread, h.expected⟩, h.failures⟩

lemma read_lsCaptureMinimal (r : Retained) (context : ArchContext) :
    (lsMinimalSnapshotRead (lsCaptureMinimal bd r context)).isSome = true := by
  rw [lsMinimalSnapshotRead_lsCaptureMinimal]
  rfl

lemma read_lsCaptureMinimalRiscv64Fault (r : Retained) (context : Riscv64Context) :
    (lsMinimalSnapshotRead (lsCaptureMinimalRiscv64Fault bd r context)).isSome = true := by
  rw [lsMinimalSnapshotRead, lsCaptureMinimalRiscv64Fault, validate_commit]
  rfl

/-- Before the event of a fault: the crash is saved. -/
lemma faultStarted_inStep (hr : Reliable bd b) (h : InStep bd b s) (context : ArchContext) :
    Sat (faultStarted bd context) s
      (fun _ s' => InStep bd b s' ∧ Restamped { s.ram.persistent with
        crashPending := 1, bootSuccessful := 0
        pendingCrashId := lsCrashFingerprint bd context } s'.ram.persistent)
      (fun _ _ => False) := by
  have hcrumb : Sat (leaveFaultBreadcrumb bd) s (fun _ s' => InStep bd b s' ∧
      Restamped s.ram.persistent s'.ram.persistent) (fun _ _ => False) := by
    have hquiet : Keeps (Quietly bd b) (leaveFaultBreadcrumb bd) := by
      refine quietly_bind ⟨fun s => sat_getRam.mpr (.refl s)⟩ fun m => ?_
      refine Keeps.ite (fun _ => quietly_pure _) fun _ => ?_
      exact quietly_bind (quietly_of_asked lsUptimeMs_spec) fun _ =>
        quietly_updateRuntime fun _ => rfl
    exact ((h.quietly hquiet).and (leaveFaultBreadcrumb_spec s)).mono (fun _ _ h => h.1)
      (fun _ _ h => h.2)
  rw [faultStarted, sat_bind]
  refine hcrumb.mono fun _ s₁ h₁ => ?_
  rw [sat_bind]
  refine ((h₁.1.quietly (quietly_of_asked lsUptimeMs_spec)).and (lsUptimeMs_spec s₁)).mono
    (fun _ s₂ h₂ => ?_) (fun _ _ h => h.2)
  rw [sat_bind, sat_updateRuntime, sat_bind, lsBootStateMarkCrash]
  refine Sat.mono (ignoring_saveWith_inStep hr h₂.1.1.storage h₂.1.1.healthy)
    (fun _ s₃ h₃ => .pure ⟨h₃.1, ?_⟩) (fun _ _ h => h)
  obtain ⟨_, _, _, _, hp⟩ := h₁.2.trans h₂.1.2
  refine Restamped.trans ?_ h₃.2
  change Restamped _ { s₂.ram.persistent with crashPending := 1, bootSuccessful := 0, pendingCrashId := _ }
  rw [hp]
  exact ⟨_, _, _, _, rfl⟩

/-- A fault that is captured. -/
lemma captureCpuContext_ended (hr : Reliable bd b) (h : Running bd b failures expected s)
    (context : ArchContext) (riscv64 : Option Riscv64Context) :
    Sat (captureCpuContext bd c context riscv64) s
      (fun _ s' => Ended bd b failures expected true s')
      (fun _ s' => Ended bd b failures expected true s') := by
  unfold captureCpuContext
  rw [sat_bind, sat_getRam, sat_ite]
  constructor
  · intro _
    cases riscv64 with
    | none =>
        exact updateRetained_ended (f := fun r => lsCaptureMinimal bd r context) h
          (read_lsCaptureMinimal _ context)
    | some bank =>
        exact updateRetained_ended (f := fun r => lsCaptureMinimalRiscv64Fault bd r bank) h
          (read_lsCaptureMinimalRiscv64Fault _ bank)
  · intro _
    refine (faultStarted_inStep hr h.inStep context).bind fun uptimeMs s₁ h₁ => ?_
    have hleft : ∀ s', InStep bd b s' ∧ Restamped s₁.ram.persistent s'.ram.persistent →
        Ended bd b failures expected true s' := by
      rintro s' ⟨hstep, hstamp⟩
      obtain ⟨_, _, _, _, hp⟩ := h₁.2.trans hstamp
      refine ⟨hstep, fun _ _ => ⟨fun _ => rfl, fun _ => .inl ?_, ?_⟩, ?_⟩
      · rw [hp]
        exact (by decide : (1 : UInt8) ≠ 0)
      · rw [hp]
        exact h.expected
      · rw [hp]
        exact h.failures
    rw [sat_onFailure]
    refine (h₁.1.quietly (quietly_lsCaptureEvent _)).mono (fun _ s' h' => hleft s' h')
      (fun e s' h' => ?_)
    cases e with
    | cut => exact hleft s' h'
    | fail e => exact hleft _ ⟨h'.1.of_ram rfl rfl, h'.2⟩

/-- The end of a boot. -/
lemma ending_ended (hr : Reliable bd b) (h : Running bd b failures expected s) (ending : Ending) :
    Sat (ending.run bd c) s (fun _ s' => Ended bd b failures expected ending.crashed s')
      (fun _ s' => Ended bd b failures expected ending.crashed s') := by
  cases ending with
  | cpuContext context => exact captureCpuContext_ended hr h context none
  | riscv64Context context => exact captureCpuContext_ended hr h _ (some context)
  | minimalFault a =>
      refine updateRetained_ended (f := fun r => lsCaptureMinimalFault bd r a) h ?_
      rw [lsMinimalSnapshotRead, lsCaptureMinimalFault, minimalSnapshotStore, validate_commit]
      rfl
  | minimal context =>
      exact updateRetained_ended (f := fun r => lsCaptureMinimal bd r context) h
        (read_lsCaptureMinimal _ context)
  | minimalRiscv64 context =>
      exact updateRetained_ended (f := fun r => lsCaptureMinimalRiscv64Fault bd r context) h
        (read_lsCaptureMinimalRiscv64Fault _ context)
  | reset =>
      rw [Ending.run, sat_pure]
      exact ⟨h.inStep, fun _ _ => ⟨fun hp => absurd h.pending hp, fun hc => (by cases hc), h.expected⟩,
        h.failures⟩

end Live

/-! ### The start of a boot -/

section Start

variable {bd : Build} {b : Backend} {c : Crypto} {h : History} {boot : BootRun bd}

/-- A reset that is told of counts, if `reset_info` is set. -/
lemma toldReset_telling (w : World) (reason : ResetReason) (k : ℕ) :
    ((w.telling reason).toldReset k).reason.failure = (w.resetInfo.isSome && reason.failure) := by
  rw [World.toldReset, World.telling]
  cases w.resetInfo <;> rfl

lemma History.ends_of_failing (hf : h.last.failing = true) : h.ends = h.last :: h.ends.tail := by
  rw [History.last] at hf ⊢
  cases hends : h.ends with
  | nil =>
      rw [hends] at hf
      cases hf
  | cons e ends => rfl

/-- The start of a boot on a device without faults. -/
lemma start_counted (hr : Reliable bd b) (hd : h.sys.dev.Healthy) :
    InStep bd b (boot.start c b h) ∧ BootCounted bd (h.boot bd b)
      ⟨h.sys.dev, h.sys.ram.afterReset (boot.world.telling h.last.reason)⟩ (boot.start c b h) := by
  set s₀ : System Machine := ⟨h.sys.dev, h.sys.ram.afterReset (boot.world.telling h.last.reason)⟩
  have hstart : Sat (powerUp bd c boot.config b) s₀
      (fun _ s' => InStep bd b s' ∧ BootCounted bd (h.boot bd b) s₀ s')
      (fun _ s' => InStep bd b s' ∧ BootCounted bd (h.boot bd b) s₀ s') := by
    rw [powerUp, sat_bind, lsInit]
    dsimp only
    rw [if_neg (not_not.mpr boot.valid), sat_modifyRam, sat_bind, lsStorageRegister, sat_modifyRam]
    exact lsBoot_inStep hr rfl hd rfl
  exact hstart.leaves

/-- What a boot counts as failed, for what is left of the last one. -/
def CountsAsFailed (p : PersistentBoot) (snapshot : Bool) (info : ResetInfo) : Prop :=
  (p.crashPending ≠ 0 ∨ snapshot = true) ∨
    info.reason.failure = true ∧ ¬ decide (p.expectedReset ≠ 0) = true

instance (p : PersistentBoot) (snapshot : Bool) (info : ResetInfo) :
    Decidable (CountsAsFailed p snapshot info) := inferInstanceAs (Decidable (_ ∨ _))

/-- **The count of a boot** is borne out by the boots before, where what is left of the last
one says enough of it. -/
lemma supported_countFailures (hrec : Recorded bd b h) (hdesc : Described b boot h) (k : ℕ) :
    Supported bd (countFailures bd (h.boot bd b) (CountsAsFailed (h.boot bd b) h.snapshot
      ((boot.world.telling h.last.reason).toldReset k))).toNat h.ends := by
  have htold := toldReset_telling boot.world h.last.reason k
  have hexpected : decide ((h.boot bd b).expectedReset ≠ 0) = h.last.expected :=
    Bool.eq_iff_iff.mpr (decide_eq_true_iff.trans hrec.left.expected)
  cases hlast : h.last.failing with
  | false =>
      obtain ⟨hsnapshot, hclean⟩ := hdesc.2 hlast
      rw [BootEnd.failing, Bool.or_eq_false_iff] at hlast
      obtain ⟨hcrashed, hreset⟩ := hlast
      refine supported_of_clean ?_ hclean
      rintro ((hpending | hread) | ⟨hfailure, hunexpected⟩)
      · exact Bool.false_ne_true (hcrashed.symm.trans (hrec.left.pending hpending))
      · exact Bool.false_ne_true (hsnapshot.symm.trans hread)
      · rw [htold, Bool.and_eq_true] at hfailure
        rw [hexpected, Bool.not_eq_true] at hunexpected
        rw [hfailure.2, hunexpected] at hreset
        cases hreset
  | true =>
      rw [History.ends_of_failing hlast]
      refine supported_of_failing hrec.supported hlast ((hdesc.1 hlast).imp_right (.imp_right ?_))
      rintro ⟨hlong, hshows⟩
      have hcrash : h.last.crashed = true → CountsAsFailed (h.boot bd b) h.snapshot
          ((boot.world.telling h.last.reason).toldReset k) := fun hc => .inl (hrec.left.crashed hc)
      refine ⟨hlong, hshows.elim hcrash fun hset => ?_⟩
      rw [BootEnd.failing, Bool.or_eq_true, Bool.and_eq_true, Bool.not_eq_true'] at hlast
      refine hlast.elim hcrash fun ⟨hfailure, hunexpected⟩ => .inr ⟨?_, ?_⟩
      · rw [htold, hset, hfailure]
        rfl
      · rw [hexpected, hunexpected]
        exact Bool.false_ne_true

/-- The start of a boot, and its verdict. -/
lemma start_running (hr : Reliable bd b) (hrec : Recorded bd b h) (hdesc : Described b boot h) :
    ∃ failures, Running bd b failures false (boot.start c b h) ∧
      Supported bd failures.toNat h.ends ∧
      ((boot.start c b h).ram.runtime.bootLoop = true → bd.bootLoopThreshold ≤ failures) := by
  obtain ⟨hstep, rt, now, k, hboot, ⟨_, _, _, _, hp⟩, hloop⟩ :=
    @start_counted bd b c h boot hr hrec.healthy
  have hcount := supported_countFailures hrec hdesc k
  rw [← hboot] at hcount
  refine ⟨_, ⟨hstep, by rw [hp]; rfl, ?_, .inl ?_⟩, hcount, fun hdetected => ?_⟩
  · rw [hp]
    exact ⟨fun h => absurd rfl h, nofun⟩
  · rw [hp]
    rfl
  · rw [hloop] at hdetected
    exact of_decide_eq_true hdetected

/-- **One boot** keeps the record. -/
lemma recorded_live (hr : Reliable bd b) (hrec : Recorded bd b h) (hdesc : Described b boot h) :
    Recorded bd b (boot.live c b h) := by
  obtain ⟨failures, hrun, hsupported, -⟩ := @start_running bd b c h boot hr hrec hdesc
  have hended := (ending_ended (c := c) hr (running_calls (c := c) hr boot.calls hrun)
    boot.ending).leaves
  obtain ⟨p, hat, hstamp⟩ := hended.inStep.stored
  have hboot : (boot.live c b h).boot bd b = p := by
    rw [History.boot]
    exact congrArg (Option.getD · newBoot) hat
  refine ⟨hended.inStep.healthy, ?_, ?_⟩
  · rw [hboot]
    exact (hended.left _ _).restamped hstamp
  · rw [hboot]
    obtain ⟨_, _, _, _, rfl⟩ := hstamp
    obtain hf | hf := hended.failures
    · refine hsupported.mono (le_of_eq ?_)
      exact congrArg UInt32.toNat hf
    · refine Supported.zero.mono (le_of_eq ?_)
      exact congrArg UInt32.toNat hf

end Start

/-! ### Histories -/

/-- **Boot-loop detection is sound** in every history of boots from a fresh device on, if what
is left of each boot says enough of it: where `ls_boot` detects a boot loop, the last
`LS_BOOT_LOOP_THRESHOLD` boots have failed, and all but the first of them within
`LS_BOOT_LOOP_WINDOW_MS`. -/
theorem boot_loop_sound (bd : Build) (c : Crypto) (b : Backend) (hr : Reliable bd b)
    (s : System Machine) (hd : s.dev.Healthy)
    (hfresh : bootAt s.dev.medium (bootOffset bd b) = none) (boots : List (BootRun bd))
    (hm : Run.Meets (BootRun.live c b) (Described b) boots ⟨s, []⟩)
    (pre post : List (BootRun bd)) (boot : BootRun bd) (hboots : boots = pre ++ boot :: post) :
    let h := Run.after (BootRun.live c b) pre ⟨s, []⟩
    (boot.start c b h).ram.runtime.bootLoop = true →
      bd.bootLoopThreshold.toNat ≤ h.ends.length ∧
      (∀ e ∈ h.ends.take bd.bootLoopThreshold.toNat, e.failing = true) ∧
      ∀ e ∈ h.ends.take (bd.bootLoopThreshold.toNat - 1), e.uptimeMs ≤ bd.bootLoopWindowMs := by
  intro h hdetected
  subst hboots
  obtain ⟨hpre, hdesc, -⟩ := Run.meets_append.mp hm
  have hrec : Recorded bd b h := Run.after_inv (fun _ _ hdesc hrec => recorded_live hr hrec hdesc)
    hpre (recorded_fresh hd hfresh)
  obtain ⟨failures, -, hsupported, hverdict⟩ := @start_running bd b c h boot hr hrec hdesc
  have hloop := hsupported.mono (UInt32.le_iff_toNat_le.mp (hverdict hdetected))
  exact ⟨hloop.enough, hloop.failing, hloop.short⟩

/-- A boot of the small machine that calls nothing and is reset; the clock is asked three times
before. -/
def uneventful (uptimeMs : UInt32) (reason : ResetReason) : BootRun smallBuild where
  config := default
  valid := rfl
  world := { quietWorld with
    timestampMs := some fun k => if k < 3 then 0 else uptimeMs
    resetInfo := some fun _ => default }
  calls := []
  ending := .reset
  reason := reason

/-- Three watchdog resets within a second each: the theorem applies, and the loop is detected. -/
theorem boot_loop_sound_watchdog :
    let boots := List.replicate 3 (uneventful 1000 .watchdog)
    let h := Run.after (BootRun.live clearCrypto smallFram) boots ⟨poweredUp fun _ _ => .none, []⟩
    ((uneventful 0 .software).start clearCrypto smallFram h).ram.runtime.bootLoop = true ∧
      3 ≤ h.ends.length ∧ (∀ e ∈ h.ends.take 3, e.failing = true) ∧
      ∀ e ∈ h.ends.take 2, e.uptimeMs ≤ 60000 := by
  intro boots h
  have hloop : ((uneventful 0 .software).start clearCrypto smallFram h).ram.runtime.bootLoop =
      true := by decide +kernel
  exact ⟨hloop, boot_loop_sound smallBuild clearCrypto smallFram smallFram_reliable
    (poweredUp fun _ _ => .none) (fun _ _ => rfl) (by decide +kernel)
    (boots ++ [uneventful 0 .software]) (by decide +kernel) boots [] _ rfl hloop⟩

/-- **A false alarm.** Three watchdog resets, each after a day and each followed by a boot that
ends in a clean reset, are taken for a boot loop: the saves of `ls_boot` are the only ones, so
every uptime is stored as zero, and a clean reset leaves the failures on record. -/
theorem boot_loop_false_alarm :
    let day := uneventful 86400000 .watchdog
    let clean := uneventful 86400000 .software
    let h := Run.after (BootRun.live clearCrypto smallFram) [day, clean, day, clean, day]
      ⟨poweredUp fun _ _ => .none, []⟩
    Reliable smallBuild smallFram ∧
      (clean.start clearCrypto smallFram h).ram.runtime.bootLoop = true ∧
      (∃ e ∈ h.ends.take smallBuild.bootLoopThreshold.toNat, e.failing = false) ∧
      ∃ e ∈ h.ends.take (smallBuild.bootLoopThreshold.toNat - 1),
        smallBuild.bootLoopWindowMs < e.uptimeMs :=
  ⟨smallFram_reliable, by decide +kernel⟩

end Latch
