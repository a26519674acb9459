
/-
What a lifecycle call leaves in memory where its save fails.

The nine functions that change the update and provisioning fields of the boot state share one
shape: a check, a change in memory, a save. The change is not taken back where the save
fails, so a call that returns an error has taken effect in memory, unless it staged the
candidate that was pending already.

* `lifecycle_spec`: every exit of such a call, in terms of its check and its change;
* `failed_save_keeps_iff`: what is reported behind a failed save is what was reported before
  it exactly if the call restages the pending candidate; and a candidate whose staging
  returned an error is pending exactly if the save of the staging failed;
* `unselected_candidate_confirmed`: a run in which a candidate that was never selected for
  boot is confirmed.
-/
import Latch.Core.Rollback

namespace Latch

open Exec Spool

/-- The calls that change the boot state and save it. -/
inductive LifecycleOp where
  | updateStage (versionCounter imageFingerprint signingKeyId : UInt32)
  | updateConfirmVersion (versionCounter : UInt32)
  | updateMarkVersionRollback (failedVersion : UInt32)
  | updateAbortStage (versionCounter : UInt32)
  | activate (keyId monotonicCounter : UInt32)
  | beginRotation (newKeyId monotonicCounter : UInt32)
  | commitRotation
  | revoke
  | decommission

namespace LifecycleOp

/-- The function that is called. -/
def run (bd : Build) : LifecycleOp → MachineM Unit
  | .updateStage versionCounter imageFingerprint signingKeyId =>
    lsUpdateStage bd versionCounter imageFingerprint signingKeyId
  | .updateConfirmVersion versionCounter => lsUpdateConfirmVersion bd versionCounter
  | .updateMarkVersionRollback failedVersion => lsUpdateMarkVersionRollback bd failedVersion
  | .updateAbortStage versionCounter => lsUpdateAbortStage bd versionCounter
  | .activate keyId monotonicCounter => lsProvisioningActivate bd keyId monotonicCounter
  | .beginRotation newKeyId monotonicCounter =>
    lsProvisioningBeginRotation bd newKeyId monotonicCounter
  | .commitRotation => lsProvisioningCommitRotation bd
  | .revoke => lsProvisioningRevoke bd
  | .decommission => lsProvisioningDecommission bd

/-- A call that passes its checks, so that it comes to its save. -/
def Passes (p : PersistentBoot) : LifecycleOp → Prop
  | .updateStage versionCounter imageFingerprint signingKeyId =>
    lsUpdateVersionAllowed p versionCounter ∧ imageFingerprint ≠ 0 ∧ signingKeyId ≠ 0
  | .updateConfirmVersion versionCounter => isPending versionCounter p
  | .updateMarkVersionRollback failedVersion => isPending failedVersion p
  | .updateAbortStage versionCounter => isPending versionCounter p
  | .activate keyId monotonicCounter => keyId ≠ 0 ∧ monotonicAllowed p monotonicCounter ∧
    (p.provisionState = lsProvisioningUnprovisioned ∨ p.provisionState = lsProvisioningRevoked)
  | .beginRotation newKeyId monotonicCounter => p.provisionState = lsProvisioningActive ∧
    newKeyId ≠ 0 ∧ newKeyId ≠ p.provisionKeyId ∧ monotonicAllowed p monotonicCounter
  | .commitRotation => p.provisionState = lsProvisioningRotating ∧ p.provisionPendingKeyId ≠ 0
  | .revoke => p.provisionState = lsProvisioningActive ∨ p.provisionState = lsProvisioningRotating
  | .decommission => p.provisionState ≠ lsProvisioningDecommissioned

instance (p : PersistentBoot) (op : LifecycleOp) : Decidable (op.Passes p) := by
  cases op <;> unfold Passes <;> infer_instance

/-- The call stages the candidate that is pending already. -/
def Restages (p : PersistentBoot) : LifecycleOp → Prop
  | .updateStage versionCounter imageFingerprint signingKeyId =>
    p.updateState = lsUpdatePending ∧ p.updatePendingVersion = versionCounter ∧
      p.updateImageFingerprint = imageFingerprint ∧ p.updateSigningKeyId = signingKeyId
  | _ => False

end LifecycleOp

/-- What `ls_update_get_state` and `ls_provisioning_get_state` report. -/
def reported (p : PersistentBoot) : UpdateState × ProvisioningState :=
  (lsUpdateGetState p, lsProvisioningGetState p)

lemma Restamped.reported {p q : PersistentBoot} (h : Restamped p q) : reported q = reported p := by
  obtain ⟨_, _, _, _, rfl⟩ := h
  rfl

variable {bd : Build}

/-! ### Failed saves -/

/-- Where a call failed: at its checks, or behind a change that is still in memory. -/
def FailedAt (passes restages : Prop) (s s' : System Machine) : Prop :=
  ¬ passes ∧ s' = s ∨
    passes ∧ (reported s'.ram.persistent = reported s.ram.persistent ↔ restages)

section FailedSaves

variable {passes restages : Prop} {f : PersistentBoot → PersistentBoot} {s : System Machine}

lemma saveWith_failed {s₁ : System Machine} (hs : s₁.ram.persistent = s.ram.persistent)
    (h : passes) (hf : reported (f s.ram.persistent) = reported s.ram.persistent ↔ restages) :
    Sat (saveWith bd f) s₁ (fun _ _ => True) (fun _ s' => FailedAt passes restages s s') :=
  (saveWith_spec f s₁).mono (fun _ _ _ => trivial)
    (fun _ s' hs' => .inr ⟨h, by rw [hs'.boot.reported, hs]; exact hf⟩)

lemma saveIf_failed {ok : PersistentBoot → Bool} (hok : ok s.ram.persistent = true ↔ passes)
    (hf : passes →
      (reported (f s.ram.persistent) = reported s.ram.persistent ↔ restages)) :
    Sat (saveIf bd ok f) s (fun _ _ => True) (fun _ s' => FailedAt passes restages s s') := by
  rw [saveIf, sat_bind, sat_getRam, sat_ite]
  exact ⟨fun h => saveWith_failed rfl (hok.mp h) (hf (hok.mp h)),
    fun h => .throw (.inl ⟨fun hp => h (hok.mpr hp), rfl⟩)⟩

end FailedSaves

variable {p q : PersistentBoot}

lemma reported_ne_of_updateState (h : q.updateState ≠ p.updateState) :
    reported q = reported p ↔ False :=
  iff_false_intro fun he => h (congrArg (fun r => r.1.state) he)

lemma reported_ne_of_provisionState
    (h : q.provisionState ≠ p.provisionState) : reported q = reported p ↔ False :=
  iff_false_intro fun he => h (congrArg (fun r => r.2.state) he)

/-- Another update state than that of the pending candidate. -/
lemma reported_ne_of_pending {version : UInt32}
    (h : isPending version p = true) (hq : q.updateState ≠ lsUpdatePending) :
    reported q = reported p ↔ False := by
  simp only [isPending, decide_eq_true_eq] at h
  exact reported_ne_of_updateState (by rw [h.1]; exact hq)

/-- Another provisioning state than one of two. -/
lemma reported_ne_of_state {a b : UInt8}
    (h : p.provisionState = a ∨ p.provisionState = b) (ha : q.provisionState ≠ a)
    (hb : q.provisionState ≠ b) : reported q = reported p ↔ False :=
  reported_ne_of_provisionState (h.elim (fun h => h ▸ ha) fun h => h ▸ hb)

/-- Every error exit of a lifecycle call. -/
lemma lifecycle_spec (op : LifecycleOp) (s : System Machine) :
    Sat (op.run bd) s (fun _ _ => True) (fun _ s' =>
      FailedAt (op.Passes s.ram.persistent) (op.Restages s.ram.persistent) s s') := by
  cases op with
  | updateStage versionCounter imageFingerprint signingKeyId =>
      rw [LifecycleOp.run, lsUpdateStage]
      refine saveIf_failed decide_eq_true_iff fun _ => ?_
      simp only [reported, lsUpdateGetState, lsProvisioningGetState, LifecycleOp.Restages,
        Prod.mk.injEq, UpdateState.mk.injEq]
      tauto
  | updateConfirmVersion versionCounter =>
      exact saveIf_failed Iff.rfl fun h => reported_ne_of_pending h
        (show lsUpdateConfirmed ≠ lsUpdatePending by decide)
  | updateMarkVersionRollback failedVersion =>
      exact saveIf_failed Iff.rfl fun h => reported_ne_of_pending h
        (show lsUpdateRolledBack ≠ lsUpdatePending by decide)
  | updateAbortStage versionCounter =>
      exact saveIf_failed Iff.rfl fun h => reported_ne_of_pending h
        (show lsUpdateNone ≠ lsUpdatePending by decide)
  | activate keyId monotonicCounter =>
      rw [LifecycleOp.run, lsProvisioningActivate]
      exact saveIf_failed decide_eq_true_iff fun h => reported_ne_of_state h.2.2
        (show lsProvisioningActive ≠ _ by decide) (show lsProvisioningActive ≠ _ by decide)
  | beginRotation newKeyId monotonicCounter =>
      rw [LifecycleOp.run, lsProvisioningBeginRotation]
      exact saveIf_failed decide_eq_true_iff fun h => reported_ne_of_state (.inl h.1)
        (show lsProvisioningRotating ≠ _ by decide) (show lsProvisioningRotating ≠ 0 by decide)
  | commitRotation =>
      rw [LifecycleOp.run, lsProvisioningCommitRotation]
      exact saveIf_failed decide_eq_true_iff fun h => reported_ne_of_state (.inl h.1)
        (show lsProvisioningActive ≠ _ by decide) (show lsProvisioningActive ≠ 0 by decide)
  | revoke =>
      rw [LifecycleOp.run, lsProvisioningRevoke, sat_bind, sat_getRam]
      refine .ite (fun h => .throw (.inl ⟨fun hp => ?_, rfl⟩)) fun h => ?_
      · exact hp.elim h.1 h.2
      · have hp : (LifecycleOp.revoke).Passes s.ram.persistent := by
          by_contra hn
          exact h (not_or.mp hn)
        rw [sat_bind, lsSecurityClearKey, sat_updateRuntime]
        exact saveWith_failed rfl hp (reported_ne_of_state hp
          (show lsProvisioningRevoked ≠ _ by decide) (show lsProvisioningRevoked ≠ _ by decide))
  | decommission =>
      rw [LifecycleOp.run, lsProvisioningDecommission, sat_bind, sat_getRam]
      refine .ite (fun _ => .pure trivial) fun h => ?_
      rw [sat_bind, lsSecurityClearKey, sat_updateRuntime]
      exact saveWith_failed rfl h (reported_ne_of_provisionState (Ne.symm h))

/-! ### A staging over the air that fails -/

/-- A candidate that comes to the staging of its version: it is accepted by the checks, and
the backend has authenticated it and stored its image. -/
structure Reaches (p : PersistentBoot) (backend : Option OtaBackend)
    (versionCounter signingKeyId : UInt32) (image signature : List UInt8) : Prop where
  backend : ∃ answers, backend = some answers ∧ answers.authenticate = none ∧ answers.stage = none
  image : image ≠ []
  signature : signature ≠ []
  key : signingKeyId ≠ 0
  version : lsUpdateVersionAllowed p versionCounter

section Staging

variable {sha256 : List UInt8 → List UInt8} {backend : Option OtaBackend}
  {versionCounter signingKeyId : UInt32} {image signature : List UInt8} {s : System Machine}

/-- A boot that was refused ends in the withdrawal of the candidate, whatever its result. -/
lemma requestBoot_failed {failure : Option Errno} {release : Option (List UInt8)}
    (s : System Machine) :
    Sat (requestBoot bd failure versionCounter release) s (fun _ _ => True)
      (fun e s' => e = .cut ∨ lsUpdateAbortStage bd versionCounter s = .ok () s' ∨
        ∃ e', lsUpdateAbortStage bd versionCounter s = .error (.fail e') s') := by
  cases failure with
  | none =>
      rw [requestBoot, sat_bind, lsReleaseMarkPending]
      refine (ignoring_stops _ s).mono (fun _ s₁ _ => ?_) (fun _ _ h => .inl h)
      rw [lsResetMarkExpected, sat_bind, sat_updateRuntime]
      exact (ignoring_stops _ _).mono (fun _ _ _ => trivial) (fun _ _ h => .inl h)
  | some e =>
      rw [requestBoot, sat_bind, sat_ignoring]
      refine (sat_run _ s).mono (fun _ s' h => .throw (.inr (.inl h)))
        (fun e s' h => ?_)
      cases e with
      | cut => exact .inl rfl
      | fail e => exact .throw (.inr (.inr ⟨e, h⟩))

/-- Every error that `ls_ota_stage_candidate` reports: nothing has happened, the save of the
staging failed, or the candidate was withdrawn. -/
lemma lsOtaStageCandidate_failed (s : System Machine) :
    let stage := lsUpdateStage bd versionCounter (digestFingerprint (sha256 image)) signingKeyId
    let reaches := Reaches s.ram.persistent backend versionCounter signingKeyId image signature
    Sat (lsOtaStageCandidate bd sha256 backend versionCounter signingKeyId image signature) s
      (fun _ _ => True)
      (fun e s' => e = .cut ∨ ¬ reaches ∧ s' = s ∨ reaches ∧ stage s = .error e s' ∨
        reaches ∧ ∃ s₁, stage s = .ok () s₁ ∧ (lsUpdateAbortStage bd versionCounter s₁ = .ok () s' ∨
          ∃ e', lsUpdateAbortStage bd versionCounter s₁ = .error (.fail e') s')) := by
  intro stage reaches
  rw [lsOtaStageCandidate, sat_bind, sat_getRam]
  cases hb : backend with
  | none => exact .throw (.inr (.inl ⟨fun h => by simpa [hb] using h.backend, rfl⟩))
  | some answers =>
      dsimp only
      refine .ite (fun h => .throw (.inr (.inl ⟨fun hr => ?_, rfl⟩))) fun h => ?_
      · obtain ⟨-, hi, hs, hk, hv⟩ := hr
        exact h.elim hi (Or.rec hs (Or.rec hk (absurd hv)))
      have hreaches : answers.authenticate = none → answers.stage = none → reaches := by
        intro ha hs
        simp only [not_or, not_not] at h
        exact ⟨⟨answers, hb, ha, hs⟩, h.1, h.2.1, h.2.2.1, h.2.2.2⟩
      have hnot : answers.authenticate ≠ none ∨ answers.stage ≠ none → ¬ reaches := by
        rintro hor ⟨⟨a, ha, hn⟩, -⟩
        obtain rfl := Option.some.inj (hb.symm.trans ha)
        exact hor.elim (absurd hn.1) (absurd hn.2)
      refine (answered_spec _ s).bind (fun _ s₁ h₁ => ?_)
        (fun _ s₁ h₁ => .inr (.inl ⟨hnot (.inl h₁.1), h₁.2⟩))
      obtain ⟨ha, rfl⟩ := h₁
      refine (answered_spec _ s₁).bind (fun _ s₂ h₂ => ?_)
        (fun _ s₂ h₂ => .inr (.inl ⟨hnot (.inr h₂.1), h₂.2⟩))
      obtain ⟨hs, rfl⟩ := h₂
      refine (sat_run stage s₂).bind (fun _ s₃ h₃ => ?_)
        (fun e s₃ h₃ => .inr (.inr (.inl ⟨hreaches ha hs, h₃⟩)))
      exact (requestBoot_failed s₃).mono (fun _ _ _ => trivial)
        (fun _ _ h => h.imp id fun h => .inr (.inr ⟨hreaches ha hs, s₃, h₃, h⟩))

/-- The fields that a staging sets, at its normal exit and behind a failed save. -/
lemma lsUpdateStage_spec (fingerprint : UInt32) (s : System Machine) :
    let staged := { lsUpdateGetState s.ram.persistent with
      pendingVersion := versionCounter, imageFingerprint := fingerprint
      signingKeyId := signingKeyId, state := lsUpdatePending }
    Sat (lsUpdateStage bd versionCounter fingerprint signingKeyId) s
      (fun _ s' => lsUpdateGetState s'.ram.persistent = staged ∧
        s'.ram.storage = s.ram.storage ∧ versionCounter ≠ 0)
      (fun _ s' => s' = s ∧ ¬ (LifecycleOp.updateStage versionCounter fingerprint
          signingKeyId).Passes s.ram.persistent ∨
        lsUpdateGetState s'.ram.persistent = staged) := by
  intro staged
  rw [lsUpdateStage]
  refine (saveIf_spec _ _ s).mono (fun _ s' h => ?_) (fun _ s' h => ?_)
  · obtain ⟨hok, hs⟩ := h
    obtain ⟨_, _, _, _, hr⟩ := hs.boot
    refine ⟨by rw [hr]; rfl, hs.storage, ?_⟩
    rintro rfl
    simp [lsUpdateVersionAllowed] at hok
  · obtain ⟨hok, -, rfl⟩ | ⟨-, hs⟩ := h
    · exact .inl ⟨rfl, of_decide_eq_false hok⟩
    · obtain ⟨_, _, _, _, hr⟩ := hs.boot
      exact .inr (by rw [hr]; rfl)

/-- The withdrawal of a pending candidate, at its normal exit and behind a failed save. -/
lemma lsUpdateAbortStage_spec
    (hp : isPending versionCounter s.ram.persistent = true) :
    Sat (lsUpdateAbortStage bd versionCounter) s
      (fun _ s' => s'.ram.persistent.updateState = lsUpdateNone ∧
        ∀ b, s.ram.storage = some b → b.hasWrite = true →
          bootAt s'.dev.medium (bootOffset bd b) = some s'.ram.persistent)
      (fun _ s' => s'.ram.persistent.updateState = lsUpdateNone) := by
  rw [lsUpdateAbortStage]
  refine (saveIf_spec _ _ s).mono (fun _ s' h => ?_) (fun _ s' h => ?_)
  · obtain ⟨_, _, _, _, hr⟩ := h.2.boot
    exact ⟨by rw [hr], h.2.stored⟩
  · obtain ⟨hn, -⟩ | ⟨-, hs⟩ := h
    · rw [hp] at hn
      cases hn
    · obtain ⟨_, _, _, _, hr⟩ := hs.boot
      rw [hr]

lemma Reaches.passes (h : Reaches s.ram.persistent backend versionCounter signingKeyId image signature) :
    (LifecycleOp.updateStage versionCounter (digestFingerprint (sha256 image)) signingKeyId).Passes
      s.ram.persistent :=
  ⟨h.version, digestFingerprint_ne_zero _, h.key⟩

/-- A candidate that was staged is pending. -/
lemma isPending_of_staged {fingerprint : UInt32} {s₁ : System Machine}
    (h : lsUpdateStage bd versionCounter fingerprint signingKeyId s = .ok () s₁) :
    isPending versionCounter s₁.ram.persistent = true ∧ s₁.ram.storage = s.ram.storage := by
  obtain ⟨hst, hstorage, hv⟩ := sat_of_ok (lsUpdateStage_spec _ s) h
  refine ⟨?_, hstorage⟩
  rw [isPending, decide_eq_true_iff]
  exact ⟨congrArg UpdateState.state hst, hv, (congrArg UpdateState.pendingVersion hst).symm⟩

/-- An error of `ls_ota_stage_candidate` leaves a new pending candidate in memory exactly
if it comes from the save of a staging. -/
lemma pending_after_failed_iff {e : Errno} {s' : System Machine}
    (h : lsOtaStageCandidate bd sha256 backend versionCounter signingKeyId image signature s =
      .error (.fail e) s') :
    let op := LifecycleOp.updateStage versionCounter (digestFingerprint (sha256 image)) signingKeyId
    (s'.ram.persistent.updateState = lsUpdatePending ∧
        lsUpdateGetState s'.ram.persistent ≠ lsUpdateGetState s.ram.persistent) ↔
      Reaches s.ram.persistent backend versionCounter signingKeyId image signature ∧
        ¬ Completes (op.run bd) s ∧ ¬ op.Restages s.ram.persistent := by
  intro op
  obtain hc | ⟨hn, rfl⟩ | ⟨hr, hs⟩ | ⟨hr, s₁, hs, ha⟩ :=
    sat_of_error (lsOtaStageCandidate_failed s) h
  · cases hc
  · exact ⟨fun h => absurd rfl h.2, fun h => absurd h.1 hn⟩
  · -- the save failed behind the change of the fields
    have hst := (sat_of_error (lsUpdateStage_spec _ s) hs).resolve_left fun h => h.2 hr.passes
    have hnc : ¬ Completes (op.run bd) s := fun hc => sat_of_error hc hs
    have hstate : s'.ram.persistent.updateState = lsUpdatePending :=
      congrArg UpdateState.state hst
    have hsame : lsUpdateGetState s'.ram.persistent = lsUpdateGetState s.ram.persistent ↔
        op.Restages s.ram.persistent := by
      rw [hst]
      simp only [lsUpdateGetState, UpdateState.mk.injEq, op, LifecycleOp.Restages]
      tauto
    simp only [hstate, hsame, hr, hnc, true_and, not_false_eq_true, ne_eq]
  · -- the candidate was staged and withdrawn
    have hc : Completes (op.run bd) s := completes_of_ok hs
    have hnone : s'.ram.persistent.updateState = lsUpdateNone := by
      have hp := (isPending_of_staged hs).1
      obtain ha | ⟨_, ha⟩ := ha
      · exact (sat_of_ok (lsUpdateAbortStage_spec hp) ha).1
      · exact (sat_of_error (lsUpdateAbortStage_spec hp) ha :)
    refine ⟨fun h => ?_, fun h => absurd hc h.2.1⟩
    rw [hnone] at h
    exact absurd h.1 (by decide)

end Staging

/-- **What a failed lifecycle call leaves.** Behind a failed save the reported fields are the
ones from before the call exactly if the call restages the pending candidate. A candidate
whose staging over the air returned an error is pending in memory, and was not before,
exactly if the save of the staging failed; where the boot was refused instead and the save of
the withdrawal returns, the stored boot state has no pending candidate either. -/
theorem failed_save_keeps_iff (bd : Build) (sha256 : List UInt8 → List UInt8)
    (s s' : System Machine) (e : Errno) :
    (∀ op : LifecycleOp, op.Passes s.ram.persistent → op.run bd s = .error (.fail e) s' →
      (reported s'.ram.persistent = reported s.ram.persistent ↔ op.Restages s.ram.persistent)) ∧
    ∀ backend versionCounter signingKeyId image signature,
      lsOtaStageCandidate bd sha256 backend versionCounter signingKeyId image signature s =
        .error (.fail e) s' →
      let op := LifecycleOp.updateStage versionCounter (digestFingerprint (sha256 image)) signingKeyId
      let reaches := Reaches s.ram.persistent backend versionCounter signingKeyId image signature
      ((s'.ram.persistent.updateState = lsUpdatePending ∧
          lsUpdateGetState s'.ram.persistent ≠ lsUpdateGetState s.ram.persistent) ↔
        reaches ∧ ¬ Completes (op.run bd) s ∧ ¬ op.Restages s.ram.persistent) ∧
      (reaches → ∀ s₁, op.run bd s = .ok () s₁ → Completes (lsUpdateAbortStage bd versionCounter) s₁ →
        ∀ b, s.ram.storage = some b → b.hasWrite = true →
          ∃ p, bootAt s'.dev.medium (bootOffset bd b) = some p ∧ p.updateState = lsUpdateNone) := by
  refine ⟨fun op hp h => ?_, fun backend version key image signature h => ?_⟩
  · obtain ⟨hn, -⟩ | ⟨-, hiff⟩ := sat_of_error (lifecycle_spec op s) h
    · exact absurd hp hn
    · exact hiff
  · refine ⟨pending_after_failed_iff h, fun hr s₁ hs ha b hb hw => ?_⟩
    obtain hc | ⟨hn, -⟩ | ⟨-, hs'⟩ | ⟨-, s₂, hs', ha'⟩ :=
      sat_of_error (lsOtaStageCandidate_failed s) h
    · cases hc
    · exact absurd hr hn
    · cases hs.symm.trans hs'
    · obtain rfl : s₁ = s₂ := by
        cases hs.symm.trans hs'
        rfl
      obtain ⟨hp, hstorage⟩ := isPending_of_staged hs
      obtain ha' | ⟨_, ha'⟩ := ha'
      · obtain ⟨hnone, hstored⟩ := sat_of_ok (lsUpdateAbortStage_spec hp) ha'
        exact ⟨_, hstored b (hstorage.trans hb) hw, hnone⟩
      · exact (sat_of_error ha ha').elim

/-! ### Stagings on a small machine -/

/-- A backend that refuses to boot a candidate. -/
def refusingBoot : OtaBackend :=
  { authenticate := none, stage := none, requestBoot := some .eio, confirm := none, rollback := none }

/-- The small machine behind its first boot, with a device that fails the write of the next
save. -/
@[irreducible] def failingSave : System Machine :=
  smallAfter (fun k _ => if k = 18 then .fail .eio 0 else .none) [.init default, .register, .boot]

/-- A staging whose save fails: both parts of the theorem apply. -/
theorem failed_save_keeps_iff_staging :
    let op := LifecycleOp.updateStage 7 1 1
    let staged := leaves (op.run smallBuild) failingSave
    let candidate := leaves
      (lsOtaStageCandidate smallBuild id (some refusingBoot) 7 1 [1] [1]) failingSave
    (reported staged.ram.persistent = reported failingSave.ram.persistent ↔
        op.Restages failingSave.ram.persistent) ∧
      candidate.ram.persistent.updateState = lsUpdatePending := by
  have hstage := eq_error_of_sat (x := (LifecycleOp.updateStage 7 1 1).run smallBuild)
    (s := failingSave) (e := .fail .eio) (by decide +kernel)
  have hcandidate := eq_error_of_sat
    (x := lsOtaStageCandidate smallBuild id (some refusingBoot) 7 1 [1] [1])
    (s := failingSave) (e := .fail .eio) (by decide +kernel)
  refine ⟨(failed_save_keeps_iff smallBuild id _ _ .eio).1 _ (by decide +kernel) hstage, ?_⟩
  refine ((((failed_save_keeps_iff smallBuild id _ _ .eio).2 _ _ _ _ _ hcandidate).1).mpr
    ⟨?_, by decide +kernel, ?_⟩).1
  · exact ⟨⟨_, rfl, rfl, rfl⟩, nofun, nofun, by decide, by decide +kernel⟩
  · rintro ⟨h, -⟩
    exact absurd h (by decide +kernel)

/-- **A candidate that was never selected is confirmed.** The save of its staging fails, so
that `ls_ota_stage_candidate` returns an error without having asked for the boot; the
candidate is pending in memory, and `ls_ota_confirm_running` raises the floor to it. -/
theorem unselected_candidate_confirmed :
    failingSave.ram.persistent.updateState = lsUpdateNone ∧
    Sat (lsOtaStageCandidate smallBuild id (some refusingBoot) 7 1 [1] [1]) failingSave
      (fun _ _ => False)
      (fun e s => e = .fail .eio ∧ s.ram.persistent.updateState = lsUpdatePending ∧
        Sat (lsOtaConfirmRunning smallBuild (some refusingBoot) 7) s
          (fun _ s' => s'.ram.persistent.updateVersionFloor = 7) (fun _ _ => False)) := by
  decide +kernel

end Latch
