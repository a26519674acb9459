/-
Updates over the air on a storage that always succeeds.

A run is made of reboots, stagings, confirmations, rollbacks and successful boots; the
backend of each call answers as it likes. The update fields of the boot state follow a small
machine of their own, and what is stored agrees with what is in memory.

* `Synced`: the stored update fields are the ones in memory;
* `Moves`: what a call does to the update fields; `otaStep_moves` says that the calls do no
  more, so that every run is one of that machine;
* `LatestStaging`: the last successful staging of a run;
* `floor_raised_by_confirmed`: the invariant of the fields, and where a floor comes from.
-/
import Latch.Core.Reliable
import Latch.Core.Rollback

namespace Latch

open Exec Spool

variable {bd : Build} {b : Backend} {c : Crypto}

/-! ### The update fields -/

/-- The stored update fields are the ones in memory. -/
structure Synced (bd : Build) (b : Backend) (s : System Machine) : Prop where
  storage : s.ram.storage = some b
  healthy : s.dev.Healthy
  stored : ∃ p, bootAt s.dev.medium (bootOffset bd b) = some p ∧
    lsUpdateGetState p = lsUpdateGetState s.ram.persistent

/-- The update fields of the machine. -/
abbrev updateFields (s : System Machine) : UpdateState := lsUpdateGetState s.ram.persistent

lemma Restamped.updateFields {p q : PersistentBoot} (h : Restamped p q) :
    lsUpdateGetState q = lsUpdateGetState p := by
  obtain ⟨_, _, _, _, rfl⟩ := h
  rfl

section Synced

variable {s : System Machine} {f : PersistentBoot → PersistentBoot} {u : UpdateState}

/-- A boot state that is in step has its update fields in step. -/
lemma InStep.synced (h : InStep bd b s) : Synced bd b s := by
  obtain ⟨p, hat, hstamp⟩ := h.stored
  exact ⟨h.storage, h.healthy, p, hat, hstamp.updateFields⟩

/-- A change that is saved. -/
lemma saveWith_synced (hr : Reliable bd b) (hs : s.ram.storage = some b) (hd : s.dev.Healthy) :
    Sat (saveWith bd f) s (fun _ s' => Synced bd b s' ∧
        updateFields s' = lsUpdateGetState (f s.ram.persistent)) (fun _ _ => False) := by
  exact (saveWith_inStep hr hs hd).mono fun _ _ h => ⟨h.1.synced, h.2.updateFields⟩

/-- A mark that does not concern the update fields. -/
lemma ignoring_saveWith_synced (hr : Reliable bd b) (hs : Synced bd b s) (hu : updateFields s = u)
    (hf : ∀ p, lsUpdateGetState (f p) = lsUpdateGetState p) :
    Sat (ignoring (saveWith bd f)) s (fun _ s' => Synced bd b s' ∧ updateFields s' = u)
      (fun _ _ => False) :=
  sat_ignoring.mpr <| (saveWith_synced hr hs.storage hs.healthy).mono
    fun _ _ h => ⟨h.1, h.2.trans ((hf _).trans hu)⟩

lemma lsResetMarkExpected_synced (hr : Reliable bd b) (hs : Synced bd b s)
    (hu : updateFields s = u) (expected : Bool) :
    Sat (lsResetMarkExpected bd expected) s (fun _ s' => Synced bd b s' ∧ updateFields s' = u)
      (fun _ _ => False) := by
  rw [lsResetMarkExpected, sat_bind, sat_updateRuntime]
  refine ignoring_saveWith_synced hr ⟨hs.storage, hs.healthy, hs.stored⟩ hu fun _ => rfl

/-- A change behind a check. -/
lemma saveIf_synced (hr : Reliable bd b) (hs : Synced bd b s) {ok : PersistentBoot → Bool} :
    Sat (saveIf bd ok f) s
      (fun _ s' => ok s.ram.persistent = true ∧ Synced bd b s' ∧
        updateFields s' = lsUpdateGetState (f s.ram.persistent))
      (fun _ s' => ok s.ram.persistent = false ∧ s' = s) := by
  rw [saveIf, sat_bind, sat_getRam]
  refine .ite (fun h => ?_) fun h => .throw ⟨by simpa using h, rfl⟩
  exact (saveWith_synced hr hs.storage hs.healthy).mono fun _ _ h' => ⟨h, h'⟩

end Synced

/-! ### The calls -/

/-- The calls of a run; a reboot has a configuration that `ls_init` accepts. -/
inductive OtaOp (bd : Build) where
  | reboot (config : Config)
      (valid : lsBuildIdValidate (config.identity.firmwareBuildId.getD bd.buildId) = true)
  | stageCandidate (backend : Option OtaBackend) (versionCounter signingKeyId : UInt32)
      (image signature : List UInt8)
  | confirmRunning (backend : Option OtaBackend) (versionCounter : UInt32)
  | requestRollback (backend : Option OtaBackend) (failedVersion : UInt32)
  | markSuccessful

/-- The function that is called; the storage is registered between `ls_init` and `ls_boot`. -/
def OtaOp.run (c : Crypto) (sha256 : List UInt8 → List UInt8) (b : Backend) :
    OtaOp bd → MachineM Unit
  | .reboot config _ => do
    lsInit bd config
    lsStorageRegister (some b)
    lsBoot bd c
  | .stageCandidate backend versionCounter signingKeyId image signature =>
    lsOtaStageCandidate bd sha256 backend versionCounter signingKeyId image signature
  | .confirmRunning backend versionCounter => lsOtaConfirmRunning bd backend versionCounter
  | .requestRollback backend failedVersion => lsOtaRequestRollback bd backend failedVersion
  | .markSuccessful => lsBootMarkSuccessful bd

/-- What a call does to the update fields; the flag tells a successful staging. -/
inductive Moves (sha256 : List UInt8 → List UInt8) :
    OtaOp bd → Bool → UpdateState → UpdateState → Prop where
  | kept (op : OtaOp bd) (u : UpdateState) : Moves sha256 op false u u
  | staged (answers : OtaBackend) (versionCounter signingKeyId : UInt32)
      (image signature : List UInt8) (u : UpdateState) (authenticated : answers.authenticate = none)
      (requested : answers.requestBoot = none) (version : versionCounter ≠ 0)
      (floor : u.confirmedVersionFloor ≤ versionCounter) (key : signingKeyId ≠ 0) :
      Moves sha256 (.stageCandidate (some answers) versionCounter signingKeyId image signature) true u
        { u with pendingVersion := versionCounter
                 imageFingerprint := digestFingerprint (sha256 image)
                 signingKeyId := signingKeyId, state := lsUpdatePending }
  | withdrawn (op : OtaOp bd) (u : UpdateState) :
      Moves sha256 op false u { u with pendingVersion := 0, imageFingerprint := 0, signingKeyId := 0
                                       state := lsUpdateNone }
  | confirmed (answers : OtaBackend) (u : UpdateState) (confirm : answers.confirm = none)
      (pending : u.state = lsUpdatePending) :
      Moves sha256 (.confirmRunning (some answers) u.pendingVersion) false u
        { u with confirmedVersionFloor := if u.confirmedVersionFloor < u.pendingVersion
                                          then u.pendingVersion else u.confirmedVersionFloor
                 pendingVersion := 0, state := lsUpdateConfirmed }
  | rolledBack (op : OtaOp bd) (u : UpdateState) (count : UInt32) :
      Moves sha256 op false u { u with rollbackCount := count, pendingVersion := 0
                                       state := lsUpdateRolledBack }

section

variable {sha256 : List UInt8 → List UInt8} {s : System Machine}

/-- A call left the update fields in step and moved them. -/
def MovedBy (b : Backend) (sha256 : List UInt8 → List UInt8) (op : OtaOp bd) (staged : Bool)
    (s s' : System Machine) : Prop :=
  Synced bd b s' ∧ Moves sha256 op staged (updateFields s) (updateFields s')

lemma MovedBy.of_eq {op : OtaOp bd} {s' : System Machine} (hs : Synced bd b s) (h : s' = s) :
    MovedBy b sha256 op false s s' := by
  subst h
  exact ⟨hs, .kept op _⟩

lemma MovedBy.of_kept {op : OtaOp bd} {s' : System Machine} (hs : Synced bd b s')
    (h : updateFields s' = updateFields s) : MovedBy b sha256 op false s s' :=
  ⟨hs, h ▸ .kept op _⟩

/-- A boot behind `ls_init` takes the update fields from the storage. -/
lemma lsBoot_synced (hr : Reliable bd b) (hs : s.ram.storage = some b) (hd : s.dev.Healthy)
    (hi : s.ram.runtime.initialized = true) :
    let u := lsUpdateGetState ((bootAt s.dev.medium (bootOffset bd b)).getD newBoot)
    Sat (lsBoot bd c) s (fun _ s' => Synced bd b s' ∧ updateFields s' = u)
      (fun _ s' => Synced bd b s' ∧ updateFields s' = u) := by
  intro u
  have hleft : ∀ s', InStep bd b s' ∧
      BootCounted bd ((bootAt s.dev.medium (bootOffset bd b)).getD newBoot) s s' →
      Synced bd b s' ∧ updateFields s' = u := by
    rintro s' ⟨hstep, rt, now, k, hboot, hcount, -⟩
    refine ⟨hstep.synced, hcount.updateFields.trans ?_⟩
    change lsUpdateGetState rt.persistent = u
    rw [hboot]
  exact (lsBoot_inStep hr hs hd hi).mono (fun _ s' => hleft s') (fun _ s' => hleft s')

/-- A reboot. -/
lemma reboot_synced (hr : Reliable bd b) (hd : s.dev.Healthy) {config : Config}
    (hv : lsBuildIdValidate (config.identity.firmwareBuildId.getD bd.buildId) = true) :
    let u := lsUpdateGetState ((bootAt s.dev.medium (bootOffset bd b)).getD newBoot)
    Sat ((OtaOp.reboot config hv).run c sha256 b) s (fun _ s' => Synced bd b s' ∧ updateFields s' = u)
      (fun _ s' => Synced bd b s' ∧ updateFields s' = u) := by
  intro u
  rw [OtaOp.run, sat_bind, lsInit]
  dsimp only
  rw [if_neg (not_not.mpr hv), sat_modifyRam, sat_bind, lsStorageRegister, sat_modifyRam]
  exact lsBoot_synced hr rfl hd rfl

/-- The end of a staging: the candidate is selected, or withdrawn. -/
lemma requestBoot_moved (hr : Reliable bd b) (hs : Synced bd b s) {failure : Option Errno}
    {versionCounter : UInt32} {release : Option (List UInt8)}
    (hp : isPending versionCounter s.ram.persistent = true) :
    Sat (requestBoot bd failure versionCounter release) s
      (fun _ s' => failure = none ∧ Synced bd b s' ∧ updateFields s' = updateFields s)
      (fun _ s' => Synced bd b s' ∧ updateFields s' =
        { updateFields s with pendingVersion := 0, imageFingerprint := 0, signingKeyId := 0
                              state := lsUpdateNone }) := by
  cases failure with
  | none =>
      rw [requestBoot, sat_bind, lsReleaseMarkPending]
      refine (ignoring_saveWith_synced hr hs rfl ?_).mono fun _ s₁ h₁ => ?_
      · exact fun _ => rfl
      exact (lsResetMarkExpected_synced hr h₁.1 h₁.2 true).mono fun _ _ h => ⟨rfl, h⟩
  | some e =>
      rw [requestBoot, sat_bind, sat_ignoring, lsUpdateAbortStage]
      refine (saveIf_synced hr hs).mono (fun _ s' h => .throw h.2) (fun _ s' h => ?_)
      rw [hp] at h
      cases h.1

lemma lsOtaStageCandidate_moved (hr : Reliable bd b) (hs : Synced bd b s)
    (backend : Option OtaBackend) (versionCounter signingKeyId : UInt32)
    (image signature : List UInt8) :
    let op : OtaOp bd := .stageCandidate backend versionCounter signingKeyId image signature
    Sat (op.run c sha256 b) s (fun _ s' => MovedBy b sha256 op true s s')
      (fun _ s' => MovedBy b sha256 op false s s') := by
  intro op
  rw [OtaOp.run, lsOtaStageCandidate, sat_bind, sat_getRam]
  cases backend with
  | none => exact .throw (.of_eq hs rfl)
  | some answers =>
      dsimp only
      refine .ite (fun _ => .throw (.of_eq hs rfl)) fun h => ?_
      simp only [not_or, not_not] at h
      obtain ⟨-, -, hk, hv⟩ := h
      refine (answered_spec _ s).bind (fun _ s₁ h₁ => ?_) (fun _ _ h => .of_eq hs h.2)
      obtain ⟨ha, rfl⟩ := h₁
      refine (answered_spec _ s₁).bind (fun _ s₂ h₂ => ?_) (fun _ _ h => .of_eq hs h.2)
      obtain ⟨-, rfl⟩ := h₂
      rw [sat_bind, lsUpdateStage]
      refine (saveIf_synced hr hs).mono (fun _ s₃ h₃ => ?_) (fun _ _ h => .of_eq hs h.2)
      obtain ⟨-, hs₃, hu⟩ := h₃
      obtain ⟨hv, hfloor⟩ := of_decide_eq_true hv
      have hp : isPending versionCounter s₃.ram.persistent = true := by
        rw [isPending, decide_eq_true_iff]
        exact ⟨congrArg UpdateState.state hu, hv, (congrArg UpdateState.pendingVersion hu).symm⟩
      refine (requestBoot_moved hr hs₃ hp).mono (fun _ s' h => ⟨h.2.1, ?_⟩) (fun _ s' h => ⟨h.1, ?_⟩)
      · rw [h.2.2, hu]
        exact .staged answers versionCounter signingKeyId image signature _ ha h.1 hv hfloor hk
      · rw [h.2, hu]
        exact .withdrawn op _

lemma lsOtaConfirmRunning_moved (hr : Reliable bd b) (hs : Synced bd b s)
    (backend : Option OtaBackend) (versionCounter : UInt32) :
    let op : OtaOp bd := .confirmRunning backend versionCounter
    Sat (op.run c sha256 b) s (fun _ s' => MovedBy b sha256 op false s s')
      (fun _ s' => MovedBy b sha256 op false s s') := by
  intro op
  cases backend with
  | none => exact .throw (.of_eq hs rfl)
  | some answers =>
      rw [OtaOp.run, lsOtaConfirmRunning]
      refine .ite (fun _ => .throw (.of_eq hs rfl)) fun _ => ?_
      refine (answered_spec _ s).bind (fun _ s₁ h₁ => ?_) (fun _ _ h => .of_eq hs h.2)
      obtain ⟨hc, rfl⟩ := h₁
      rw [sat_bind, lsUpdateConfirmVersion]
      refine (saveIf_synced hr hs).mono (fun _ s₂ h₂ => ?_) (fun _ _ h => .of_eq hs h.2)
      obtain ⟨hp, hs₂, hu⟩ := h₂
      obtain ⟨hstate, -, rfl⟩ := of_decide_eq_true hp
      rw [sat_bind, lsReleaseConfirm]
      refine (ignoring_saveWith_synced hr hs₂ hu ?_).mono fun _ s₃ h₃ => ?_
      · exact fun _ => rfl
      refine (lsResetMarkExpected_synced hr h₃.1 h₃.2 false).mono fun _ s' h => ⟨h.1, ?_⟩
      rw [h.2]
      exact .confirmed answers (updateFields s₁) hc hstate

lemma lsOtaRequestRollback_moved (hr : Reliable bd b) (hs : Synced bd b s)
    (backend : Option OtaBackend) (failedVersion : UInt32) :
    let op : OtaOp bd := .requestRollback backend failedVersion
    Sat (op.run c sha256 b) s (fun _ s' => MovedBy b sha256 op false s s')
      (fun _ s' => MovedBy b sha256 op false s s') := by
  intro op
  cases backend with
  | none => exact .throw (.of_eq hs rfl)
  | some answers =>
      rw [OtaOp.run, lsOtaRequestRollback]
      refine .ite (fun _ => .throw (.of_eq hs rfl)) fun _ => ?_
      refine (answered_spec _ s).bind (fun _ s₁ h₁ => ?_) (fun _ _ h => .of_eq hs h.2)
      obtain ⟨-, rfl⟩ := h₁
      rw [sat_bind, lsUpdateMarkVersionRollback]
      refine (saveIf_synced hr hs).mono (fun _ s₂ h₂ => ?_) (fun _ _ h => .of_eq hs h.2)
      obtain ⟨-, hs₂, hu⟩ := h₂
      rw [sat_bind, lsReleaseMarkRollback]
      refine (ignoring_saveWith_synced hr hs₂ hu ?_).mono fun _ s₃ h₃ => ?_
      · exact fun _ => rfl
      refine (lsResetMarkExpected_synced hr h₃.1 h₃.2 true).mono fun _ s' h => ⟨h.1, ?_⟩
      rw [h.2]
      exact .rolledBack op (updateFields s₁) _

lemma lsBootMarkSuccessful_moved (hr : Reliable bd b) (hs : Synced bd b s) :
    Sat ((OtaOp.markSuccessful : OtaOp bd).run c sha256 b) s
      (fun _ s' => MovedBy b sha256 (.markSuccessful : OtaOp bd) false s s')
      (fun _ s' => MovedBy b sha256 (.markSuccessful : OtaOp bd) false s s') := by
  rw [OtaOp.run, lsBootMarkSuccessful, sat_bind, sat_updateRuntime]
  refine (ignoring_saveWith_synced (u := updateFields s) hr ?_ ?_ ?_).mono
    fun _ s' h => MovedBy.of_kept h.1 h.2
  · exact ⟨hs.storage, hs.healthy, hs.stored⟩
  · rfl
  · exact fun _ => rfl

end

/-! ### Runs -/

section

variable (c : Crypto) (sha256 : List UInt8 → List UInt8) (b : Backend)

/-- The system behind a call. -/
def otaStep (op : OtaOp bd) (s : System Machine) : System Machine := leaves (op.run c sha256 b) s

/-- A staging that returns `LS_OK`. -/
def OtaOp.Stages (op : OtaOp bd) (s : System Machine) : Prop :=
  match op with
  | .stageCandidate .. => Completes (op.run c sha256 b) s
  | _ => False

/-- A staging of the version `v` that the backend authenticates and selects for boot. -/
def OtaOp.Selects (v : UInt32) : OtaOp bd → Prop
  | .stageCandidate (some answers) version _ _ _ =>
    version = v ∧ answers.authenticate = none ∧ answers.requestBoot = none
  | _ => False

/-- The last successful staging of a run is one of the version `v`. -/
def LatestStaging (s : System Machine) (ops : List (OtaOp bd)) (v : UInt32) : Prop :=
  ∃ pre op post, ops = pre ++ op :: post ∧ op.Selects v ∧
    op.Stages c sha256 b (Run.after (otaStep c sha256 b) pre s) ∧
    ∀ pre' op' post', post = pre' ++ op' :: post' →
      ¬ op'.Stages c sha256 b (Run.after (otaStep c sha256 b) (pre ++ op :: pre') s)

/-- A run in which the backend confirmed the version `v` when its staging was the latest. -/
def ConfirmedInRun (s : System Machine) (ops : List (OtaOp bd)) (v : UInt32) : Prop :=
  ∃ pre answers post, ops = pre ++ .confirmRunning (some answers) v :: post ∧
    answers.confirm = none ∧ LatestStaging c sha256 b s pre v

variable {c sha256 b} {s : System Machine} {ops : List (OtaOp bd)} {v : UInt32}

/-- Every call behind the first boot. -/
lemma otaStep_moves (hr : Reliable bd b) (hs : Synced bd b s) (op : OtaOp bd) :
    ∃ staged, (staged = true ↔ op.Stages c sha256 b s) ∧
      MovedBy b sha256 op staged s (otaStep c sha256 b op s) := by
  cases op with
  | reboot config hv =>
      obtain ⟨p, hat, hget⟩ := hs.stored
      have h : Sat ((OtaOp.reboot config hv).run c sha256 b) s _ _ := reboot_synced hr hs.healthy hv
      rw [hat] at h
      have h' := h.leaves
      exact ⟨false, ⟨nofun, nofun⟩, .of_kept h'.1 (h'.2.trans hget)⟩
  | stageCandidate backend version key image signature =>
      obtain ⟨hc, _, h⟩ | ⟨hc, _, h⟩ :=
        (lsOtaStageCandidate_moved (c := c) hr hs backend version key image signature).leaves_cases
      · exact ⟨true, ⟨fun _ => hc, fun _ => rfl⟩, h⟩
      · exact ⟨false, ⟨nofun, fun h => absurd h hc⟩, h⟩
  | confirmRunning backend version =>
      exact ⟨false, ⟨nofun, nofun⟩, (lsOtaConfirmRunning_moved hr hs backend version).leaves⟩
  | requestRollback backend version =>
      exact ⟨false, ⟨nofun, nofun⟩, (lsOtaRequestRollback_moved hr hs backend version).leaves⟩
  | markSuccessful => exact ⟨false, ⟨nofun, nofun⟩, (lsBootMarkSuccessful_moved hr hs).leaves⟩

/-- Another call that is not a successful staging. -/
lemma LatestStaging.snoc (h : LatestStaging c sha256 b s ops v) {op : OtaOp bd}
    (hop : ¬ op.Stages c sha256 b (Run.after (otaStep c sha256 b) ops s)) :
    LatestStaging c sha256 b s (ops ++ [op]) v := by
  obtain ⟨pre, staging, post, rfl, hsel, hst, hlast⟩ := h
  refine ⟨pre, staging, post ++ [op], by simp, hsel, hst, ?_⟩
  intro pre' op' post' hsplit
  obtain ⟨rfl, rfl⟩ | ⟨post'', rfl⟩ := Run.snoc_eq_append_cons hsplit
  · exact hop
  · exact hlast pre' op' post'' rfl

lemma ConfirmedInRun.snoc (h : ConfirmedInRun c sha256 b s ops v) (op : OtaOp bd) :
    ConfirmedInRun c sha256 b s (ops ++ [op]) v := by
  obtain ⟨pre, answers, post, rfl, hc, hl⟩ := h
  exact ⟨pre, answers, post ++ [op], by simp, hc, hl⟩

/-- The update fields of a run, and where they come from. -/
structure Sourced (c : Crypto) (sha256 : List UInt8 → List UInt8) (b : Backend) (s : System Machine)
    (ops : List (OtaOp bd)) (u : UpdateState) : Prop where
  pending : u.state = lsUpdatePending → u.pendingVersion ≠ 0 ∧
    u.confirmedVersionFloor ≤ u.pendingVersion ∧ u.imageFingerprint ≠ 0 ∧ u.signingKeyId ≠ 0
  settled : u.state ≠ lsUpdatePending → u.pendingVersion = 0
  staged : u.state = lsUpdatePending → LatestStaging c sha256 b s ops u.pendingVersion
  confirmed : u.confirmedVersionFloor ≠ 0 →
    ConfirmedInRun c sha256 b s ops u.confirmedVersionFloor

/-- Fields without a pending candidate and with the floor from before. -/
lemma Sourced.settle {u u' : UpdateState} (h : Sourced c sha256 b s ops u) (op : OtaOp bd)
    (hs : u'.state ≠ lsUpdatePending) (hp : u'.pendingVersion = 0)
    (hf : u'.confirmedVersionFloor = u.confirmedVersionFloor) :
    Sourced c sha256 b s (ops ++ [op]) u' :=
  ⟨fun h => absurd h hs, fun _ => hp, fun h => absurd h hs,
    fun hne => hf ▸ (h.confirmed (hf ▸ hne)).snoc op⟩

/-- One more call. -/
lemma Sourced.snoc {u u' : UpdateState} {op : OtaOp bd} {staged : Bool}
    (h : Sourced c sha256 b s ops u)
    (hst : staged = true ↔ op.Stages c sha256 b (Run.after (otaStep c sha256 b) ops s))
    (hm : Moves sha256 op staged u u') :
    Sourced c sha256 b s (ops ++ [op]) u' ∧ u.confirmedVersionFloor ≤ u'.confirmedVersionFloor := by
  cases hm with
  | kept =>
      have hno := fun h' => Bool.false_ne_true (hst.mpr h')
      exact ⟨⟨h.pending, h.settled, fun hp => (h.staged hp).snoc hno,
        fun hf => (h.confirmed hf).snoc op⟩, UInt32.le_refl _⟩
  | staged answers version key image signature _ ha hq hv hf hk =>
      refine ⟨⟨fun _ => ⟨hv, hf, digestFingerprint_ne_zero _, hk⟩, fun h => absurd rfl h, fun _ => ?_,
        fun hf => (h.confirmed hf).snoc _⟩, UInt32.le_refl _⟩
      refine ⟨ops, _, [], rfl, ⟨rfl, ha, hq⟩, hst.mp rfl, fun pre' op' post' hn => ?_⟩
      cases pre' <;> cases hn
  | withdrawn => exact ⟨h.settle op (show lsUpdateNone ≠ _ by decide) rfl rfl, UInt32.le_refl _⟩
  | rolledBack => exact ⟨h.settle op (show lsUpdateRolledBack ≠ _ by decide) rfl rfl, UInt32.le_refl _⟩
  | confirmed answers _ hc hp =>
      obtain ⟨-, hle, -⟩ := h.pending hp
      have hfloor : (if u.confirmedVersionFloor < u.pendingVersion then u.pendingVersion
          else u.confirmedVersionFloor) = u.pendingVersion := by
        split
        · rfl
        · exact UInt32.le_antisymm hle (UInt32.not_lt.mp ‹_›)
      refine ⟨⟨fun h => absurd h (show lsUpdateConfirmed ≠ _ by decide), fun _ => rfl,
        fun h => absurd h (show lsUpdateConfirmed ≠ _ by decide), fun _ => ?_⟩, ?_⟩
      · dsimp only
        rw [hfloor]
        exact ⟨ops, answers, [], rfl, hc, h.staged hp⟩
      · dsimp only
        rw [hfloor]
        exact hle

/-- Every run from a state in which the fields are in step. -/
lemma after_sourced (hr : Reliable bd b) (hs : Synced bd b s)
    (hu : Sourced c sha256 b s ([] : List (OtaOp bd)) (updateFields s)) (ops : List (OtaOp bd)) :
    Synced bd b (Run.after (otaStep c sha256 b) ops s) ∧
      Sourced c sha256 b s ops (updateFields (Run.after (otaStep c sha256 b) ops s)) := by
  induction ops using List.reverseRecOn with
  | nil => exact ⟨hs, hu⟩
  | append_singleton ops op ih =>
      obtain ⟨staged, hst, hs', hm⟩ := otaStep_moves hr ih.1 op
      rw [Run.after_append]
      exact ⟨hs', (ih.2.snoc hst hm).1⟩

/-- The floor along a run. -/
lemma after_floor_le (hr : Reliable bd b) (hs : Synced bd b s)
    (hu : Sourced c sha256 b s ([] : List (OtaOp bd)) (updateFields s)) (pre post : List (OtaOp bd)) :
    (updateFields (Run.after (otaStep c sha256 b) pre s)).confirmedVersionFloor ≤
      (updateFields (Run.after (otaStep c sha256 b) (pre ++ post) s)).confirmedVersionFloor := by
  induction post using List.reverseRecOn with
  | nil =>
      rw [List.append_nil]
      exact UInt32.le_refl _
  | append_singleton post op ih =>
      have hpre := after_sourced (c := c) hr hs hu (pre ++ post)
      obtain ⟨staged, hst, -, hm⟩ := otaStep_moves hr hpre.1 op
      rw [← List.append_assoc, Run.after_append]
      exact UInt32.le_trans ih (hpre.2.snoc hst hm).2

/-- **Only a confirmed version raises the floor.** In every run from the first boot of a
fresh device on, the update fields in memory are the stored ones; a pending version is not
zero and not below the floor and has a fingerprint and a key; there is none in any other
state; the floor never falls; and a floor that is not zero was authenticated, selected for
boot and confirmed while its staging was the latest successful one. -/
theorem floor_raised_by_confirmed (bd : Build) (c : Crypto) (sha256 : List UInt8 → List UInt8)
    (b : Backend) (hr : Reliable bd b) (s : System Machine) (hd : s.dev.Healthy)
    (hfresh : bootAt s.dev.medium (bootOffset bd b) = none) (config : Config)
    (hv : lsBuildIdValidate (config.identity.firmwareBuildId.getD bd.buildId) = true)
    (ops : List (OtaOp bd)) :
    let s₀ := otaStep c sha256 b (.reboot config hv : OtaOp bd) s
    let fields ops := updateFields (Run.after (otaStep c sha256 b) ops s₀)
    let u := fields ops
    (∃ p, bootAt (Run.after (otaStep c sha256 b) ops s₀).dev.medium (bootOffset bd b) = some p ∧
      lsUpdateGetState p = u) ∧
    (u.state = lsUpdatePending → u.pendingVersion ≠ 0 ∧
      u.confirmedVersionFloor ≤ u.pendingVersion ∧ u.imageFingerprint ≠ 0 ∧ u.signingKeyId ≠ 0) ∧
    (u.state ≠ lsUpdatePending → u.pendingVersion = 0) ∧
    (∀ pre post, ops = pre ++ post →
      (fields pre).confirmedVersionFloor ≤ u.confirmedVersionFloor) ∧
    (u.confirmedVersionFloor ≠ 0 → ConfirmedInRun c sha256 b s₀ ops u.confirmedVersionFloor) := by
  intro s₀ fields u
  have h : Sat ((OtaOp.reboot config hv).run c sha256 b) s _ _ := reboot_synced hr hd hv
  obtain ⟨hs, hu⟩ : Synced bd b s₀ ∧ updateFields s₀ = _ := h.leaves
  rw [hfresh] at hu
  have hstart : Sourced c sha256 b s₀ ([] : List (OtaOp bd)) (updateFields s₀) := by
    rw [hu]
    exact ⟨fun h => absurd h (by decide), fun _ => rfl, fun h => absurd h (by decide),
      fun h => absurd rfl h⟩
  obtain ⟨hsynced, hsourced⟩ := after_sourced (c := c) hr hs hstart ops
  refine ⟨hsynced.stored, hsourced.pending, hsourced.settled, ?_, hsourced.confirmed⟩
  rintro pre post rfl
  exact after_floor_le hr hs hstart pre post

/-- A backend that answers every call with `LS_OK`. -/
def agreeing : OtaBackend :=
  { authenticate := none, stage := none, requestBoot := none, confirm := none, rollback := none }

lemma smallFram_reliable : Reliable smallBuild smallFram :=
  reliable_of_bytes (by decide) (by decide) rfl rfl (by decide)

/-- An update of the small machine, with a reboot before the confirmation: the theorem
applies. -/
theorem floor_raised_by_confirmed_update :
    let s₀ := otaStep clearCrypto id smallFram (.reboot default rfl : OtaOp smallBuild)
      (poweredUp fun _ _ => .none)
    let ops : List (OtaOp smallBuild) := [.stageCandidate (some agreeing) 5 1 [1] [1],
      .reboot default rfl, .confirmRunning (some agreeing) 5, .markSuccessful]
    ConfirmedInRun clearCrypto id smallFram s₀ ops 5 := by
  intro s₀ ops
  have h := (floor_raised_by_confirmed smallBuild clearCrypto id smallFram smallFram_reliable
    (poweredUp fun _ _ => .none) (fun _ _ => rfl) (by decide +kernel) default rfl ops).2.2.2.2
  have hfloor : (updateFields (Run.after (otaStep clearCrypto id smallFram) ops
      s₀)).confirmedVersionFloor = 5 := by decide +kernel
  rw [← hfloor]
  exact h (by rw [hfloor]; decide)

end

end Latch
