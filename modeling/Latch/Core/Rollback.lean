
/-
The anti-rollback floor and the provisioning marks along a run.

`Grown p q` says that the boot state `q` is not behind `p`. Every function that changes the
boot state lets it grow in memory, and writes what is in memory; so what is stored grows as
long as the memory is not behind the storage (`Advance`). The memory falls behind where it
was cleared and not loaded again: `ls_init` clears it, and a failed `ls_boot` leaves it
cleared. The floor survives the runs in which no call saves such a memory
(`marks_never_regress`), and is lost in a run that does (`floor_lost`).
-/
import Latch.Core.Frame
import Latch.Core.Provisioning
import Latch.Envelope.Secure

namespace Latch

open Exec Spool

/-! ### Growth of a boot state -/

/-- The floor and the counter of `q` are not below those of `p`, and if `p` is
decommissioned, so is `q`. -/
structure Grown (p q : PersistentBoot) : Prop where
  floor : p.updateVersionFloor ≤ q.updateVersionFloor
  counter : p.provisionMonotonicCounter ≤ q.provisionMonotonicCounter
  decommissioned : p.provisionState = lsProvisioningDecommissioned →
    q.provisionState = lsProvisioningDecommissioned

lemma Grown.refl (p : PersistentBoot) : Grown p p := ⟨UInt32.le_refl _, UInt32.le_refl _, id⟩

lemma Grown.trans {p q r : PersistentBoot} (h : Grown p q) (h' : Grown q r) : Grown p r :=
  ⟨UInt32.le_trans h.floor h'.floor, UInt32.le_trans h.counter h'.counter,
    fun hd => h'.decommissioned (h.decommissioned hd)⟩

/-! ### What a function may do -/

section Advance

variable (bd : Build) (b : Backend)

/-- The storage writes a boot state as a whole or not at all. -/
def Atomic (faults : ℕ → Request → Fault) : Prop :=
  ∀ (d : Device) (p : PersistentBoot), d.faults = faults →
    Sat (lsStorageProgram b (bootOffset bd b) p.bytes) d (fun _ _ => True) fun _ d' =>
      Medium.read d'.medium (bootOffset bd b) bootSize =
          Medium.read d.medium (bootOffset bd b) bootSize ∨
        Medium.read d'.medium (bootOffset bd b) bootSize = p.bytes

/-- The machine has no other storage than `b`, which writes boot states atomically. -/
structure Safe (s : System Machine) : Prop where
  storage : ∀ b', s.ram.storage = some b' → b' = b
  atomic : Atomic bd b s.dev.faults

/-- The boot state in memory has grown, and so has the stored one if it was written. -/
structure Advance (s s' : System Machine) : Prop where
  dev : s.dev.Later s'.dev
  storage : s'.ram.storage = s.ram.storage
  loaded : s'.ram.loaded = s.ram.loaded
  grown : Grown s.ram.persistent s'.ram.persistent
  boot : bootAt s'.dev.medium (bootOffset bd b) = bootAt s.dev.medium (bootOffset bd b) ∨
    s.ram.storage = some b ∧ ∃ p, bootAt s'.dev.medium (bootOffset bd b) = some p ∧
      Grown s.ram.persistent p ∧ Grown p s'.ram.persistent
  written : ∃ l, s'.ram.written = l ++ s.ram.written ∧
    ∀ q ∈ l, s.ram.storage = some b ∧ Grown s.ram.persistent q

/-- What a function does on a safe machine. -/
def Advances (s s' : System Machine) : Prop := Safe bd b s → Advance bd b s s'

variable {bd b} {s s' s₁ s₂ s₃ : System Machine}

variable {α : Type} {p : PersistentBoot} {f : PersistentBoot → PersistentBoot}
  (versionCounter : UInt32)

variable {β : Type} {x : MachineM α} {q : PersistentBoot}

/-- A function that writes no boot state. -/
lemma Advance.of_inside (hd : Inside bd b s.dev s'.dev) (hs : s'.ram.storage = s.ram.storage)
    (hl : s'.ram.loaded = s.ram.loaded) (hw : s'.ram.written = s.ram.written)
    (hg : Grown s.ram.persistent s'.ram.persistent) : Advance bd b s s' :=
  ⟨hd.toLater, hs, hl, hg, .inl hd.bootAt, [], by rw [hw]; rfl, nofun⟩

lemma Advance.refl (s : System Machine) : Advance bd b s s :=
  .of_inside (.refl _) rfl rfl rfl (.refl _)

lemma Advance.trans (h : Advance bd b s₁ s₂) (h' : Advance bd b s₂ s₃) : Advance bd b s₁ s₃ := by
  refine ⟨.trans _ _ _ h.dev h'.dev, h'.storage.trans h.storage, h'.loaded.trans h.loaded,
    h.grown.trans h'.grown, ?_, ?_⟩
  · obtain he' | ⟨hs, p, hp, hg, hg'⟩ := h'.boot
    · rw [he']
      refine h.boot.imp id fun ⟨hs, p, hp, hg, hg'⟩ => ⟨hs, p, hp, hg, hg'.trans h'.grown⟩
    · exact .inr ⟨h.storage ▸ hs, p, hp, h.grown.trans hg, hg'⟩
  · obtain ⟨l, hl, hq⟩ := h.written
    obtain ⟨l', hl', hq'⟩ := h'.written
    refine ⟨l' ++ l, by rw [hl', hl, List.append_assoc], fun q hmem => ?_⟩
    rcases List.mem_append.mp hmem with hmem | hmem
    · exact ⟨h.storage ▸ (hq' q hmem).1, h.grown.trans (hq' q hmem).2⟩
    · exact hq q hmem

lemma Safe.of_advance (hs : Safe bd b s) (h : Advance bd b s s') : Safe bd b s' :=
  ⟨h.storage ▸ hs.storage, h.dev.faults ▸ hs.atomic⟩

lemma Advances.refl (s : System Machine) : Advances bd b s s := fun _ => .refl s

lemma Advances.trans (s₁ s₂ s₃ : System Machine) (h : Advances bd b s₁ s₂)
    (h' : Advances bd b s₂ s₃) : Advances bd b s₁ s₃ :=
  fun hs => (h hs).trans (h' (hs.of_advance (h hs)))

/-! ### Rules -/

/-- Both exits of a function advance from `s`. -/
abbrev AdvancesFrom {α : Type} (bd : Build) (b : Backend) (s : System Machine) (x : MachineM α) :
    Prop :=
  Sat x s (fun _ s' => Advances bd b s s') fun _ s' => Advances bd b s s'

lemma AdvancesFrom.bind {f : α → MachineM β}
    (hx : AdvancesFrom bd b s x) (hf : ∀ a, Keeps (Advances bd b) (f a)) :
    AdvancesFrom bd b s (x >>= f) := by
  rw [AdvancesFrom, sat_bind]
  refine hx.mono fun a s₁ h₁ => ?_
  exact ((hf a).sat s₁).mono (fun _ _ h => .trans _ _ _ h₁ h) (fun _ _ h => .trans _ _ _ h₁ h)

lemma advances_bind {f : α → MachineM β}
    (hx : Keeps (Advances bd b) x) (hf : ∀ a, Keeps (Advances bd b) (f a)) :
    Keeps (Advances bd b) (x >>= f) := hx.bind Advances.trans hf

lemma advances_pure (a : α) : Keeps (Advances bd b) (pure a : MachineM α) :=
  keeps_pure .refl a

lemma advances_throw (e : Halt Errno) :
    Keeps (Advances bd b) (throw e : MachineM α) := keeps_throw .refl e

lemma advances_updateRuntime {f : Runtime → Runtime}
    (hf : ∀ rt, Grown rt.persistent (f rt).persistent) :
    Keeps (Advances bd b) (updateRuntime f) :=
  ⟨fun _ => sat_updateRuntime.mpr fun _ => .of_inside (.refl _) rfl rfl rfl (hf _)⟩

/-! ### Saving -/

lemma grown_toSave (m : Machine) (uptimeMs : UInt32) : Grown m.persistent (m.toSave uptimeMs) :=
  ⟨UInt32.le_refl _, UInt32.le_refl _, id⟩

/-- A save that wrote the boot state, or left the stored one alone. -/
lemma SaveBegun.advance (h : SaveBegun b p s s')
    (hm : s'.dev.medium = Medium.write s.dev.medium (bootOffset bd b) p.bytes ∨
      Medium.read s'.dev.medium (bootOffset bd b) bootSize =
          Medium.read s.dev.medium (bootOffset bd b) bootSize ∨
        Medium.read s'.dev.medium (bootOffset bd b) bootSize = p.bytes) :
    Advance bd b s s' := by
  obtain ⟨hs, ⟨uptimeMs, hp⟩, ⟨k, hr⟩, hl⟩ := h
  have hg : Grown s.ram.persistent p := hp ▸ grown_toSave s.ram uptimeMs
  have hpers : s'.ram.persistent = p := by rw [hr]; rfl
  have hwrote : Medium.read s'.dev.medium (bootOffset bd b) bootSize = p.bytes →
      bootAt s'.dev.medium (bootOffset bd b) = some p := by
    intro hread
    rw [← bootAt_write p s'.dev.medium (bootOffset bd b) (by rw [hp]; rfl) (by rw [hp]; rfl)]
    refine bootAt_congr ?_
    rw [hread, ← p.bytes_length, Medium.read_write_same]
  refine ⟨hl, by rw [hr]; rfl, by rw [hr]; rfl, hpers ▸ hg, ?_, [p], by rw [hr]; rfl, ?_⟩
  · obtain hm | hm | hm := hm
    · refine .inr ⟨hs, p, hwrote ?_, hg, hpers ▸ .refl p⟩
      rw [hm, ← p.bytes_length, Medium.read_write_same]
    · exact .inl (bootAt_congr hm)
    · exact .inr ⟨hs, p, hwrote hm, hg, hpers ▸ .refl p⟩
  · intro q hq
    rw [List.mem_singleton.mp hq]
    exact ⟨hs, hg⟩

lemma advances_lsBootStateSave : Keeps (Advances bd b) (lsBootStateSave bd) := by
  refine ⟨fun s => ?_⟩
  by_cases hsafe : Safe bd b s
  swap
  · exact (sat_run _ s).mono (fun _ _ _ h => absurd h hsafe) (fun _ _ _ h => absurd h hsafe)
  refine (lsBootStateSave_spec s (E := fun b p m =>
    Medium.read m (bootOffset bd b) bootSize = Medium.read s.dev.medium (bootOffset bd b) bootSize ∨
      Medium.read m (bootOffset bd b) bootSize = p.bytes) fun b' p hb' => ?_).mono
    (fun _ s' h _ => ?_) (fun _ s' h _ => ?_)
  · obtain rfl := hsafe.storage b' hb'
    exact hsafe.atomic s.dev p rfl
  · obtain ⟨s₁, h, rfl⟩ := h
    have hnoted : Advance bd b s₁ ⟨s₁.dev, s₁.ram.noted (.saved s₁.ram.persistent)⟩ :=
      .of_inside (.refl _) rfl rfl rfl (.refl _)
    obtain ⟨rfl, -⟩ | ⟨b', p, h, hm⟩ := h
    · exact hnoted
    · obtain rfl := hsafe.storage b' h.storage
      exact (h.advance (.inl hm)).trans hnoted
  · obtain rfl | ⟨b', p, h, hm⟩ := h
    · exact .refl _
    · obtain rfl := hsafe.storage b' h.storage
      exact h.advance hm

/-- A change that lets the boot state of `s` grow, with the save behind it. -/
lemma saveWith_advances {f : PersistentBoot → PersistentBoot}
    (hf : Grown s.ram.persistent (f s.ram.persistent)) : AdvancesFrom bd b s (saveWith bd f) := by
  rw [AdvancesFrom, saveWith, sat_bind, sat_updatePersistent]
  have h₁ : Advances bd b s
      ⟨s.dev, s.ram.setRuntime { s.ram.runtime with persistent := f s.ram.persistent }⟩ :=
    fun _ => .of_inside (.refl _) rfl rfl rfl hf
  exact (advances_lsBootStateSave.sat _).mono (fun _ _ h => .trans _ _ _ h₁ h)
    (fun _ _ h => .trans _ _ _ h₁ h)

lemma advances_saveWith (hf : ∀ p, Grown p (f p)) :
    Keeps (Advances bd b) (saveWith bd f) := ⟨fun _ => saveWith_advances (hf _)⟩

lemma advances_saveIf {ok : PersistentBoot → Bool}
    (hf : ∀ p, ok p = true → Grown p (f p)) : Keeps (Advances bd b) (saveIf bd ok f) := by
  refine ⟨fun s => ?_⟩
  rw [saveIf, sat_bind, sat_getRam, sat_ite]
  exact ⟨fun h => saveWith_advances (hf _ h), fun _ => .throw (.refl s)⟩

/-! ### The functions -/

/-- A change outside the marks. -/
lemma Grown.of_eq {p q : PersistentBoot} (hf : q.updateVersionFloor = p.updateVersionFloor)
    (hc : q.provisionMonotonicCounter = p.provisionMonotonicCounter)
    (hs : q.provisionState = p.provisionState) : Grown p q := by
  refine ⟨?_, ?_, ?_⟩
  · rw [hf]
    exact UInt32.le_refl _
  · rw [hc]
    exact UInt32.le_refl _
  · rw [hs]
    exact id

lemma advances_lsResetMarkExpected (expected : Bool) :
    Keeps (Advances bd b) (lsResetMarkExpected bd expected) :=
  advances_bind (advances_updateRuntime fun _ => .refl _) fun _ =>
    keeps_ignoring (advances_saveWith fun _ => .of_eq rfl rfl rfl)

lemma advances_lsBootMarkSuccessful : Keeps (Advances bd b) (lsBootMarkSuccessful bd) :=
  advances_bind (advances_updateRuntime fun _ => .refl _) fun _ =>
    keeps_ignoring (advances_saveWith fun _ => .of_eq rfl rfl rfl)

lemma advances_lsUpdateStage (imageFingerprint signingKeyId : UInt32) :
    Keeps (Advances bd b) (lsUpdateStage bd versionCounter imageFingerprint signingKeyId) :=
  advances_saveIf fun _ _ => .of_eq rfl rfl rfl

/-- The only function that changes the floor, which it raises. -/
lemma advances_lsUpdateConfirmVersion :
    Keeps (Advances bd b) (lsUpdateConfirmVersion bd versionCounter) := by
  refine advances_saveIf fun p _ => ⟨?_, UInt32.le_refl _, id⟩
  dsimp only
  split
  · exact UInt32.le_of_lt ‹_›
  · exact UInt32.le_refl _

lemma advances_lsUpdateMarkVersionRollback (failedVersion : UInt32) :
    Keeps (Advances bd b) (lsUpdateMarkVersionRollback bd failedVersion) :=
  advances_saveIf fun _ _ => .of_eq rfl rfl rfl

lemma advances_lsUpdateAbortStage :
    Keeps (Advances bd b) (lsUpdateAbortStage bd versionCounter) :=
  advances_saveIf fun _ _ => .of_eq rfl rfl rfl

/-- A counter that is allowed is above the old one, and the state was not the last one. -/
lemma grown_of_allowed {counter : UInt32}
    (ha : monotonicAllowed p counter = true) (hf : q.updateVersionFloor = p.updateVersionFloor)
    (hc : q.provisionMonotonicCounter = counter)
    (hs : p.provisionState ≠ lsProvisioningDecommissioned) : Grown p q := by
  simp only [monotonicAllowed, decide_eq_true_eq] at ha
  exact ⟨by rw [hf]; exact UInt32.le_refl _, by rw [hc]; exact UInt32.le_of_lt ha.2,
    fun h => absurd h hs⟩

lemma advances_lsProvisioningActivate (keyId monotonicCounter : UInt32) :
    Keeps (Advances bd b) (lsProvisioningActivate bd keyId monotonicCounter) := by
  refine advances_saveIf fun p hok => ?_
  simp only [decide_eq_true_eq] at hok
  obtain ⟨-, ha, hstate⟩ := hok
  refine grown_of_allowed ha rfl rfl fun hd => ?_
  rw [hd] at hstate
  exact absurd hstate (by decide)

lemma advances_lsProvisioningBeginRotation (newKeyId monotonicCounter : UInt32) :
    Keeps (Advances bd b) (lsProvisioningBeginRotation bd newKeyId monotonicCounter) := by
  refine advances_saveIf fun p hok => ?_
  simp only [decide_eq_true_eq] at hok
  obtain ⟨hstate, -, -, ha⟩ := hok
  refine grown_of_allowed ha rfl rfl fun hd => ?_
  rw [hd] at hstate
  exact absurd hstate (by decide)

/-- A change of the provisioning state, away from another one than the last. -/
lemma grown_of_state (hf : q.updateVersionFloor = p.updateVersionFloor)
    (hc : q.provisionMonotonicCounter = p.provisionMonotonicCounter)
    (hs : p.provisionState = lsProvisioningDecommissioned →
      q.provisionState = lsProvisioningDecommissioned) : Grown p q :=
  ⟨by rw [hf]; exact UInt32.le_refl _, by rw [hc]; exact UInt32.le_refl _, hs⟩

lemma advances_lsProvisioningCommitRotation :
    Keeps (Advances bd b) (lsProvisioningCommitRotation bd) := by
  refine advances_saveIf fun p hok => grown_of_state rfl rfl fun hd => ?_
  simp only [decide_eq_true_eq] at hok
  rw [hd] at hok
  exact absurd hok.1 (by decide)

lemma advances_lsSecurityClearKey : Keeps (Advances bd b) lsSecurityClearKey :=
  advances_updateRuntime fun _ => .refl _

/-- A change of the boot state of `s`, behind one outside of it. -/
lemma clearKey_saveWith_advances
    (hf : Grown s.ram.persistent (f s.ram.persistent)) :
    AdvancesFrom bd b s (do lsSecurityClearKey; saveWith bd f) := by
  rw [AdvancesFrom, sat_bind, lsSecurityClearKey, sat_updateRuntime]
  have h₁ : Advances bd b s ⟨s.dev, s.ram.setRuntime
      { s.ram.runtime with securityKey := [], lastEnvelopeNonce := none }⟩ :=
    fun _ => .of_inside (.refl _) rfl rfl rfl (.refl _)
  have h₂ := @saveWith_advances bd b ⟨s.dev, s.ram.setRuntime
    { s.ram.runtime with securityKey := [], lastEnvelopeNonce := none }⟩ f hf
  exact h₂.mono (fun _ _ h => .trans _ _ _ h₁ h) (fun _ _ h => .trans _ _ _ h₁ h)

lemma advances_lsProvisioningRevoke : Keeps (Advances bd b) (lsProvisioningRevoke bd) := by
  refine ⟨fun s => ?_⟩
  rw [lsProvisioningRevoke, sat_bind, sat_getRam]
  refine .ite (fun _ => .throw (.refl s)) fun hok => clearKey_saveWith_advances ?_
  refine grown_of_state rfl rfl fun hd => ?_
  rw [hd] at hok
  exact absurd (show lsProvisioningDecommissioned ≠ lsProvisioningActive ∧
    lsProvisioningDecommissioned ≠ lsProvisioningRotating by decide) hok

lemma advances_lsProvisioningDecommission :
    Keeps (Advances bd b) (lsProvisioningDecommission bd) := by
  refine ⟨fun s => ?_⟩
  rw [lsProvisioningDecommission, sat_bind, sat_getRam, sat_ite]
  exact ⟨fun _ => .pure (.refl s), fun _ =>
    clearKey_saveWith_advances (grown_of_state rfl rfl fun _ => rfl)⟩

/-- The intention to decommission: where it cannot be saved, the state goes back. -/
lemma beginDecommission_advances
    (hs : s.ram.persistent.provisionState ≠ lsProvisioningDecommissioned) :
    AdvancesFrom bd b s (beginDecommission bd s.ram.persistent.provisionState) := by
  rw [AdvancesFrom, beginDecommission]
  refine .ite (fun _ => .pure (.refl s)) fun _ => ?_
  rw [sat_onFailure]
  refine ((@saveWith_advances bd b s (fun p =>
      { p with provisionState := lsProvisioningDecommissioning })
      (grown_of_state rfl rfl fun h => absurd h hs)).and (saveWith_spec _ s)).mono
    (fun _ _ h => h.1) (fun e s' h => ?_)
  cases e with
  | cut => exact h.1
  | fail e =>
      intro hsafe
      have h' := h.1 hsafe
      refine ⟨h'.dev, h'.storage, h'.loaded, ?_, ?_, h'.written⟩
      · exact ⟨h'.grown.floor, h'.grown.counter, fun hd => absurd hd hs⟩
      · refine h'.boot.imp id fun ⟨hst, p, hp, hg, hg'⟩ => ⟨hst, p, hp, hg, ?_⟩
        refine ⟨hg'.floor, hg'.counter, fun hd => ?_⟩
        have hdec := hg'.decommissioned hd
        obtain ⟨_, _, _, _, hr⟩ := h.2.boot
        rw [hr] at hdec
        exact absurd hdec (show lsProvisioningDecommissioning ≠ lsProvisioningDecommissioned by decide)

lemma advances_noted (f : Machine → LifecycleEvent) :
    Keeps (Advances bd b) (modifyRam fun m => m.noted (f m)) :=
  ⟨fun _ => sat_modifyRam.mpr fun _ => .of_inside (.refl _) rfl rfl rfl (.refl _)⟩

lemma advances_lsSecureElementDestroyKey (element : SecureElement) (keyId : UInt32) :
    Keeps (Advances bd b) (lsSecureElementDestroyKey element keyId) := by
  refine Keeps.ite (fun _ => advances_pure _) fun _ => ?_
  cases element.destroyKey with
  | none => exact advances_pure _
  | some failure => exact advances_bind (advances_noted _) fun _ => advances_pure _

lemma advances_finishDecommission (element : SecureElement) (keyId : UInt32) :
    Keeps (Advances bd b) (finishDecommission bd element keyId) := by
  refine advances_bind (advances_lsSecureElementDestroyKey element keyId) fun failure => ?_
  cases failure with
  | none => exact advances_lsProvisioningDecommission
  | some e => exact advances_bind advances_lsSecurityClearKey fun _ => advances_throw _

lemma advances_lsProvisioningDecommissionSecure (element : Option SecureElement) :
    Keeps (Advances bd b) (lsProvisioningDecommissionSecure bd element) := by
  refine ⟨fun s => ?_⟩
  rw [lsProvisioningDecommissionSecure, sat_bind, sat_getRam]
  refine .ite (fun _ => .pure (.refl s)) fun hs => ?_
  refine .ite (fun _ => .throw (.refl s)) fun _ => ?_
  cases element with
  | none => exact .throw (.refl s)
  | some element =>
      exact (beginDecommission_advances hs).bind fun _ => advances_finishDecommission element _

/-! ### Updates over the air -/

lemma advances_answered (failure : Option Errno) : Keeps (Advances bd b) (answered failure) := by
  cases failure with
  | none => exact advances_pure _
  | some e => exact advances_throw _

lemma advances_requestBoot (failure : Option Errno) (versionCounter : UInt32)
    (release : Option (List UInt8)) :
    Keeps (Advances bd b) (requestBoot bd failure versionCounter release) := by
  cases failure with
  | none =>
      exact advances_bind (keeps_ignoring (advances_saveWith fun _ => .of_eq rfl rfl rfl)) fun _ =>
        advances_lsResetMarkExpected true
  | some e =>
      exact advances_bind (keeps_ignoring (advances_lsUpdateAbortStage _)) fun _ => advances_throw _

lemma advances_lsOtaStageCandidate (sha256 : List UInt8 → List UInt8)
    (backend : Option OtaBackend) (versionCounter signingKeyId : UInt32)
    (image signature : List UInt8) :
    Keeps (Advances bd b)
      (lsOtaStageCandidate bd sha256 backend versionCounter signingKeyId image signature) := by
  refine ⟨fun s => ?_⟩
  rw [lsOtaStageCandidate, sat_bind, sat_getRam]
  cases backend with
  | none => exact .throw (.refl s)
  | some backend =>
      refine (Keeps.ite (fun _ => advances_throw _) fun _ => ?_).sat s
      exact advances_bind (advances_answered _) fun _ => advances_bind (advances_answered _) fun _ =>
        advances_bind (advances_lsUpdateStage _ _ _) fun _ => advances_requestBoot _ _ _

lemma advances_lsOtaConfirmRunning (backend : Option OtaBackend) (versionCounter : UInt32) :
    Keeps (Advances bd b) (lsOtaConfirmRunning bd backend versionCounter) := by
  cases backend with
  | none => exact advances_throw _
  | some backend =>
      refine Keeps.ite (fun _ => advances_throw _) fun _ => ?_
      exact advances_bind (advances_answered _) fun _ =>
        advances_bind (advances_lsUpdateConfirmVersion _) fun _ =>
        advances_bind (keeps_ignoring (advances_saveWith fun _ => .of_eq rfl rfl rfl)) fun _ =>
        advances_lsResetMarkExpected false

lemma advances_lsOtaRequestRollback (backend : Option OtaBackend) (failedVersion : UInt32) :
    Keeps (Advances bd b) (lsOtaRequestRollback bd backend failedVersion) := by
  cases backend with
  | none => exact advances_throw _
  | some backend =>
      refine Keeps.ite (fun _ => advances_throw _) fun _ => ?_
      exact advances_bind (advances_answered _) fun _ =>
        advances_bind (advances_lsUpdateMarkVersionRollback _) fun _ =>
        advances_bind (keeps_ignoring (advances_saveWith fun _ => .of_eq rfl rfl rfl)) fun _ =>
        advances_lsResetMarkExpected true

/-! ### Capture and recovery -/

variable {c : Crypto}

lemma Quiet.advance (h : Quiet bd b s s') : Advance bd b s s' := by
  refine .of_inside h.dev h.storage h.loaded h.written ?_
  obtain ⟨last, hp⟩ := h.persistent
  rw [hp]
  exact .of_eq rfl rfl rfl

lemma advances_of_quietly {α : Type} {x : MachineM α} (hx : Keeps (Quietly bd b) x) :
    Keeps (Advances bd b) x :=
  hx.mono fun _ _ h hsafe => (h hsafe.storage).advance

/-! ### Boot -/

/-- A boot, behind its load. -/
lemma advances_lsBoot_loaded (retainedFault : Bool) : Keeps (Advances bd b) (do
    let now ← timestampMs
    let info ← askResetInfo
    updateRuntime (bootCounted bd retainedFault now info)
    lsBootStateSave bd
    recoverIf bd.enablePowerfailSeal (lsPowerfailRecover bd c)
    recoverIf retainedFault (lsCaptureMinimalRecover bd c)) := by
  refine advances_bind (advances_of_quietly (quietly_of_asked timestampMs_spec)) fun now =>
    advances_bind (advances_of_quietly (quietly_of_asked askResetInfo_spec)) fun info =>
    advances_bind (advances_updateRuntime fun rt => ?_) fun _ =>
    advances_bind advances_lsBootStateSave fun _ => advances_of_quietly <|
    quietly_bind (quietly_recoverIf _ quietly_lsPowerfailRecover) fun _ =>
    quietly_recoverIf _ quietly_lsCaptureMinimalRecover
  exact .of_eq rfl rfl rfl

variable (bd b) in
/-- The machine is safe, and the boot state in memory, if it was loaded, is not behind the
stored one. -/
structure Current (s : System Machine) : Prop where
  safe : Safe bd b s
  current : s.ram.loaded = true → ∀ p, bootAt s.dev.medium (bootOffset bd b) = some p →
    Grown p s.ram.persistent

variable (bd b) in
/-- From `s` to `s'` the stored boot state has grown, and so has all that was to be stored. -/
structure Upheld (s s' : System Machine) : Prop where
  dev : s.dev.Later s'.dev
  current : Current bd b s'
  stored : ∀ p, bootAt s.dev.medium (bootOffset bd b) = some p →
    ∃ q, bootAt s'.dev.medium (bootOffset bd b) = some q ∧ Grown p q
  written : ∃ l, s'.ram.written = l ++ s.ram.written ∧
    ∀ p, bootAt s.dev.medium (bootOffset bd b) = some p → ∀ q ∈ l, Grown p q

lemma Upheld.of_same (hd : s.dev.Later s'.dev) (hc : Current bd b s')
    (hb : bootAt s'.dev.medium (bootOffset bd b) = bootAt s.dev.medium (bootOffset bd b))
    (hw : s'.ram.written = s.ram.written) : Upheld bd b s s' :=
  ⟨hd, hc, fun p hp => ⟨p, hb.trans hp, .refl p⟩, [], by rw [hw]; rfl, nofun⟩

lemma Upheld.refl (hc : Current bd b s) : Upheld bd b s s := .of_same (.refl _) hc rfl rfl

lemma Upheld.trans (h : Upheld bd b s₁ s₂) (h' : Upheld bd b s₂ s₃) : Upheld bd b s₁ s₃ := by
  refine ⟨.trans _ _ _ h.dev h'.dev, h'.current, fun p hp => ?_, ?_⟩
  · obtain ⟨q, hq, hpq⟩ := h.stored p hp
    obtain ⟨r, hr, hqr⟩ := h'.stored q hq
    exact ⟨r, hr, hpq.trans hqr⟩
  · obtain ⟨l, hl, hall⟩ := h.written
    obtain ⟨l', hl', hall'⟩ := h'.written
    refine ⟨l' ++ l, by rw [hl', hl, List.append_assoc], fun p hp r hr => ?_⟩
    rcases List.mem_append.mp hr with hr | hr
    · obtain ⟨q, hq, hpq⟩ := h.stored p hp
      exact hpq.trans (hall' q hq r hr)
    · exact hall p hp r hr

/-- A function that advances upholds the stored boot state, if the one in memory was loaded
or there is nowhere to save it. -/
lemma Advance.upheld (hc : Current bd b s) (hl : s.ram.storage = some b → s.ram.loaded = true)
    (h : Advance bd b s s') : Upheld bd b s s' := by
  have hstored : ∀ p, bootAt s.dev.medium (bootOffset bd b) = some p → s.ram.storage = some b →
      Grown p s.ram.persistent := fun p hp hs => hc.current (hl hs) p hp
  refine ⟨h.dev, ⟨hc.safe.of_advance h, fun hloaded p hp => ?_⟩, fun p hp => ?_, ?_⟩
  · obtain he | ⟨-, q, hq, -, hg⟩ := h.boot
    · exact (hc.current (h.loaded ▸ hloaded) p (he ▸ hp)).trans h.grown
    · rw [hq] at hp
      obtain rfl := Option.some.inj hp
      exact hg
  · obtain he | ⟨hs, q, hq, hg, -⟩ := h.boot
    · exact ⟨p, he.trans hp, .refl p⟩
    · exact ⟨q, hq, (hstored p hp hs).trans hg⟩
  · obtain ⟨l, hl, hall⟩ := h.written
    exact ⟨l, hl, fun p hp q hq => (hstored p hp (hall q hq).1).trans (hall q hq).2⟩

/-- A function of the spool that returns has found its storage usable. -/
lemma onStorage_usable (storage : Option Backend) (x : Backend → SpoolM Unit) (s : System Node) :
    Sat (onStorage bd storage x) s (fun _ _ => ∀ b, storage = some b → usable bd b)
      (fun _ _ => True) := by
  cases storage with
  | none => exact .pure nofun
  | some b =>
      rw [onStorage]
      refine .ite (fun hu => (sat_run _ s).mono (fun _ _ _ => ?_) (fun _ _ _ => trivial)) fun _ => .throw trivial
      rintro _ ⟨⟩
      exact hu

/-- A boot upholds the stored boot state, unless the storage answers a read of it with
`LS_ECORRUPT`. -/
lemma lsBoot_upheld (hc : Current bd b s)
    (hok : s.ram.storage = some b → ¬ CorruptAnswer bd b s.dev) :
    Sat (lsBoot bd c) s (fun _ s' => Upheld bd b s s') (fun _ s' => Upheld bd b s s') := by
  rw [lsBoot, sat_bind, sat_getRam]
  refine .ite (fun _ => .throw (.refl hc)) fun _ => ?_
  rw [sat_bind, sat_onNode]
  have hspool : ∀ t : System Node, SpoolFrame bd b ⟨s.dev, s.ram.node⟩ t →
      Upheld bd b s ⟨t.dev, { s.ram with node := t.ram }⟩ := by
    intro t ht
    refine .of_same ht.dev.toLater ⟨⟨hc.safe.storage, ht.dev.faults ▸ hc.safe.atomic⟩, fun hl p hp => ?_⟩
      ht.dev.bootAt rfl
    have hpers : t.ram.runtime.persistent = s.ram.persistent := ht.persistent
    rw [ht.dev.bootAt] at hp
    change Grown p t.ram.runtime.persistent
    rw [hpers]
    exact hc.current hl p hp
  refine (((lsSpoolInit_frame hc.safe.storage).sat ⟨s.dev, s.ram.node⟩).and
    (onStorage_usable s.ram.storage (spoolInit bd) ⟨s.dev, s.ram.node⟩)).mono (fun _ t h => ?_)
    (fun _ t h => hspool t h.1)
  obtain ⟨ht, husable⟩ := h
  have h₁ := hspool t ht
  set s₁ : System Machine := ⟨t.dev, { s.ram with node := t.ram }⟩
  -- a machine that was not loaded, as far as the storage is concerned
  have hunloaded : ∀ s₂ : System Machine, s₁.dev.Looked s₂.dev → s₁.ram.Unloaded s₂.ram →
      Upheld bd b s₁ s₂ := by
    intro s₂ hd hr
    have hs : s₂.ram.storage = s₁.ram.storage ∧ s₂.ram.loaded = false ∧
        s₂.ram.written = s₁.ram.written := by
      obtain hr | hr := hr <;> rw [hr] <;> exact ⟨rfl, rfl, rfl⟩
    refine .of_same hd.toLater ⟨⟨hs.1 ▸ h₁.current.safe.storage,
      hd.faults ▸ h₁.current.safe.atomic⟩, fun hl => ?_⟩ (by rw [hd.medium]) hs.2.2
    rw [hs.2.1] at hl
    cases hl
  refine (loadBoot_spec s₁).bind (fun _ s₂ h₂ => ?_) (fun _ s₂ h₂ => ?_)
  swap
  · obtain ⟨hd, _, _, hr⟩ := h₂
    exact h₁.trans (hunloaded s₂ hd hr)
  obtain ⟨hd, h₂⟩ := h₂
  have h₁₂ : Upheld bd b s₁ s₂ ∧ (s₂.ram.storage = some b → s₂.ram.loaded = true) := by
    obtain ⟨hread, hr⟩ | ⟨b', hb', hr | ⟨hcorrupt, -⟩⟩ := h₂
    · refine ⟨hunloaded s₂ hd (.inl hr), fun hs => ?_⟩
      rw [hr] at hs
      exact absurd (husable b hs).2.1 (by rw [hread b hs]; decide)
    · obtain rfl := hc.safe.storage b' hb'
      refine ⟨.of_same hd.toLater ⟨⟨?_, hd.faults ▸ h₁.current.safe.atomic⟩, fun _ p hp => ?_⟩
        (by rw [hd.medium]) (by rw [hr]; rfl), fun _ => by rw [hr]; rfl⟩
      · rw [hr]
        exact h₁.current.safe.storage
      · rw [hd.medium] at hp
        rw [hr, hp]
        exact .refl p
    · obtain rfl := hc.safe.storage b' hb'
      exact absurd (hcorrupt.of_later ht.dev.toLater) (hok hb')
  exact ((advances_lsBoot_loaded _).sat s₂).mono
    (fun _ s₃ h₃ => h₁.trans (h₁₂.1.trans ((h₃ h₁₂.1.current.safe).upheld h₁₂.1.current h₁₂.2)))
    (fun _ s₃ h₃ => h₁.trans (h₁₂.1.trans ((h₃ h₁₂.1.current.safe).upheld h₁₂.1.current h₁₂.2)))

end Advance

/-! ### Runs -/

/-- A call of an application that keeps its boot state in one storage. -/
inductive BootOp where
  | init (config : Config)
  | register
  | unregister
  | boot
  | markSuccessful
  | markExpected (expected : Bool)
  | updateStage (versionCounter imageFingerprint signingKeyId : UInt32)
  | updateConfirmVersion (versionCounter : UInt32)
  | updateMarkVersionRollback (failedVersion : UInt32)
  | updateAbortStage (versionCounter : UInt32)
  | otaStageCandidate (backend : Option OtaBackend) (versionCounter signingKeyId : UInt32)
      (image signature : List UInt8)
  | otaConfirmRunning (backend : Option OtaBackend) (versionCounter : UInt32)
  | otaRequestRollback (backend : Option OtaBackend) (failedVersion : UInt32)
  | provisioningActivate (keyId monotonicCounter : UInt32)
  | provisioningBeginRotation (newKeyId monotonicCounter : UInt32)
  | provisioningCommitRotation
  | provisioningRevoke
  | provisioningDecommission
  | provisioningDecommissionSecure (element : Option SecureElement)

section

variable (bd : Build) (c : Crypto) (sha256 : List UInt8 → List UInt8) (b : Backend)

/-- The function that is called. -/
def BootOp.run : BootOp → MachineM Unit
  | .init config => lsInit bd config
  | .register => lsStorageRegister (some b)
  | .unregister => lsStorageRegister none
  | .boot => lsBoot bd c
  | .markSuccessful => lsBootMarkSuccessful bd
  | .markExpected expected => lsResetMarkExpected bd expected
  | .updateStage versionCounter imageFingerprint signingKeyId =>
    lsUpdateStage bd versionCounter imageFingerprint signingKeyId
  | .updateConfirmVersion versionCounter => lsUpdateConfirmVersion bd versionCounter
  | .updateMarkVersionRollback failedVersion => lsUpdateMarkVersionRollback bd failedVersion
  | .updateAbortStage versionCounter => lsUpdateAbortStage bd versionCounter
  | .otaStageCandidate backend versionCounter signingKeyId image signature =>
    lsOtaStageCandidate bd sha256 backend versionCounter signingKeyId image signature
  | .otaConfirmRunning backend versionCounter => lsOtaConfirmRunning bd backend versionCounter
  | .otaRequestRollback backend failedVersion => lsOtaRequestRollback bd backend failedVersion
  | .provisioningActivate keyId monotonicCounter =>
    lsProvisioningActivate bd keyId monotonicCounter
  | .provisioningBeginRotation newKeyId monotonicCounter =>
    lsProvisioningBeginRotation bd newKeyId monotonicCounter
  | .provisioningCommitRotation => lsProvisioningCommitRotation bd
  | .provisioningRevoke => lsProvisioningRevoke bd
  | .provisioningDecommission => lsProvisioningDecommission bd
  | .provisioningDecommissionSecure element => lsProvisioningDecommissionSecure bd element

/-- The system after a call, by whichever exit. -/
def bootStep (op : BootOp) (s : System Machine) : System Machine :=
  leaves (op.run bd c sha256 b) s

/-- A call that saves the boot state finds a loaded one in memory, or no storage; a boot is
not answered with `LS_ECORRUPT` where it reads the boot state. -/
def BootOp.Sound (op : BootOp) (s : System Machine) : Prop :=
  match op with
  | .init _ | .register | .unregister => True
  | .boot => s.ram.storage = some b → ¬ CorruptAnswer bd b s.dev
  | _ => s.ram.storage = some b → s.ram.loaded = true

variable {bd c sha256 b} {s : System Machine}

/-- A call that advances upholds the stored boot state. -/
lemma upheld_of_advances {x : MachineM Unit} (hx : Keeps (Advances bd b) x) (hc : Current bd b s)
    (hl : s.ram.storage = some b → s.ram.loaded = true) : Upheld bd b s (leaves x s) :=
  ((hx.sat s).mono (fun _ _ h => (h hc.safe).upheld hc hl)
    (fun _ _ h => (h hc.safe).upheld hc hl)).leaves

/-- A change of the storage. -/
lemma lsStorageRegister_upheld (hc : Current bd b s) {storage : Option Backend}
    (hs : ∀ b', storage = some b' → b' = b) :
    Upheld bd b s (leaves (lsStorageRegister storage) s) := by
  refine Sat.leaves (P := Upheld bd b s) ?_
  rw [lsStorageRegister, sat_modifyRam]
  exact .of_same (.refl _) ⟨⟨hs, hc.safe.atomic⟩, hc.current⟩ rfl rfl

lemma lsInit_upheld (hc : Current bd b s) (config : Config) :
    Upheld bd b s (leaves (lsInit bd config) s) := by
  refine Sat.leaves (P := Upheld bd b s) ?_
  rw [lsInit]
  refine .ite (fun _ => .throw (.refl hc)) fun _ => ?_
  rw [sat_modifyRam]
  exact .of_same (.refl _) ⟨⟨nofun, hc.safe.atomic⟩, nofun⟩ rfl rfl

/-- Every call of a run. -/
lemma bootStep_upheld (op : BootOp) (hok : op.Sound bd b s) (hc : Current bd b s) :
    Upheld bd b s (bootStep bd c sha256 b op s) := by
  cases op with
  | init config => exact lsInit_upheld hc config
  | register => exact lsStorageRegister_upheld hc fun b' h => (Option.some.inj h).symm
  | unregister => exact lsStorageRegister_upheld hc nofun
  | boot => exact (lsBoot_upheld hc hok).leaves
  | markSuccessful => exact upheld_of_advances advances_lsBootMarkSuccessful hc hok
  | markExpected expected => exact upheld_of_advances (advances_lsResetMarkExpected _) hc hok
  | updateStage _ _ _ => exact upheld_of_advances (advances_lsUpdateStage _ _ _) hc hok
  | updateConfirmVersion _ => exact upheld_of_advances (advances_lsUpdateConfirmVersion _) hc hok
  | updateMarkVersionRollback _ =>
      exact upheld_of_advances (advances_lsUpdateMarkVersionRollback _) hc hok
  | updateAbortStage _ => exact upheld_of_advances (advances_lsUpdateAbortStage _) hc hok
  | otaStageCandidate _ _ _ _ _ =>
      exact upheld_of_advances (advances_lsOtaStageCandidate _ _ _ _ _ _) hc hok
  | otaConfirmRunning _ _ => exact upheld_of_advances (advances_lsOtaConfirmRunning _ _) hc hok
  | otaRequestRollback _ _ => exact upheld_of_advances (advances_lsOtaRequestRollback _ _) hc hok
  | provisioningActivate _ _ =>
      exact upheld_of_advances (advances_lsProvisioningActivate _ _) hc hok
  | provisioningBeginRotation _ _ =>
      exact upheld_of_advances (advances_lsProvisioningBeginRotation _ _) hc hok
  | provisioningCommitRotation =>
      exact upheld_of_advances advances_lsProvisioningCommitRotation hc hok
  | provisioningRevoke => exact upheld_of_advances advances_lsProvisioningRevoke hc hok
  | provisioningDecommission =>
      exact upheld_of_advances advances_lsProvisioningDecommission hc hok
  | provisioningDecommissionSecure _ =>
      exact upheld_of_advances (advances_lsProvisioningDecommissionSecure _) hc hok

/-- Every run of such calls. -/
lemma after_upheld {ops : List BootOp}
    (hm : Run.Meets (bootStep bd c sha256 b) (BootOp.Sound bd b) ops s) (hc : Current bd b s) :
    Upheld bd b s (Run.after (bootStep bd c sha256 b) ops s) :=
  Run.after_rel (R := fun s s' => Current bd b s → Upheld bd b s s')
    (fun _ hc => .refl hc) (fun _ _ _ h h' hc => (h hc).trans (h' (h hc).current))
    (fun op _ hok hc => bootStep_upheld op hok hc) hm hc

/-- **The marks never regress.** In every run from power-up, on a storage that writes boot
states atomically and may fail any request, in which no call saves a boot state that was
not loaded: what is stored at some point stays, or gives way to a boot state that is not
behind it; and no boot state that is to be stored later is behind it. -/
theorem marks_never_regress (bd : Build) (c : Crypto) (sha256 : List UInt8 → List UInt8)
    (b : Backend) (s : System Machine) (hstorage : s.ram.storage = none)
    (hloaded : s.ram.loaded = false) (hatomic : Atomic bd b s.dev.faults) (ops : List BootOp)
    (hm : Run.Meets (bootStep bd c sha256 b) (BootOp.Sound bd b) ops s)
    (pre post : List BootOp) (hops : ops = pre ++ post) :
    let s₁ := Run.after (bootStep bd c sha256 b) pre s
    let s₂ := Run.after (bootStep bd c sha256 b) ops s
    ∀ p, bootAt s₁.dev.medium (bootOffset bd b) = some p →
      (∃ q, bootAt s₂.dev.medium (bootOffset bd b) = some q ∧ Grown p q) ∧
        ∃ l, s₂.ram.written = l ++ s₁.ram.written ∧ ∀ q ∈ l, Grown p q := by
  intro s₁ s₂ p hp
  subst hops
  obtain ⟨hpre, hpost⟩ := Run.meets_append.mp hm
  have hc : Current bd b s := by
    refine ⟨⟨fun b' h => ?_, hatomic⟩, fun h => ?_⟩
    · rw [hstorage] at h
      cases h
    · rw [hloaded] at h
      cases h
  have h := after_upheld hpost (after_upheld hpre hc).current
  rw [← Run.after_append] at h
  obtain ⟨l, hl, hall⟩ := h.written
  exact ⟨h.stored p hp, l, hl, hall p hp⟩

/-! ### Runs on a small machine -/

/-- A call that saves finds a loaded boot state. -/
def BootOp.Loaded (op : BootOp) (s : System Machine) : Prop :=
  match op with
  | .init _ | .register | .unregister | .boot => True
  | _ => s.ram.loaded = true

instance (op : BootOp) (s : System Machine) : Decidable (op.Loaded s) := by
  cases op <;> unfold BootOp.Loaded <;> infer_instance

/-- On a storage that never answers with `LS_ECORRUPT` the loaded boot states decide. -/
lemma meets_of_loaded {ops : List BootOp} (hc : Current bd b s)
    (hf : ∀ k r j, s.dev.faults k r ≠ .fail .ecorrupt j)
    (hm : Run.Meets (bootStep bd c sha256 b) BootOp.Loaded ops s) :
    Run.Meets (bootStep bd c sha256 b) (BootOp.Sound bd b) ops s := by
  induction ops generalizing s with
  | nil => trivial
  | cons op ops ih =>
      have hop : op.Sound bd b s := by
        cases op with
        | init _ => trivial
        | register => trivial
        | unregister => trivial
        | boot =>
            rintro - ⟨k, -, len, j, hk⟩
            exact hf k _ j hk
        | _ => exact fun _ => hm.1
      have hstep := @bootStep_upheld bd c sha256 b _ op hop hc
      exact ⟨hop, ih hstep.current (hstep.dev.faults ▸ hf) hm.2⟩

/-- A storage without write units that fails no write is atomic. -/
lemma atomic_of_writes {faults : ℕ → Request → Fault} (hunit : b.unit = 1)
    (hw : ∀ k off data, faults k (.write off data) = .none) :
    Atomic bd b faults := by
  rintro d p rfl
  have hlen := p.bytes_length
  rw [lsStorageProgram]
  refine .ite (fun _ => .throw (.inl rfl)) fun _ => ?_
  refine .ite (fun h => .pure trivial) fun _ => ?_
  refine ((hit_looked _).sat d).bind (fun _ d₁ h₁ => ?_) (fun _ d₁ h₁ => .inl (by rw [h₁.medium]))
  rw [hunit]
  refine .ite (fun h => absurd h (by decide)) fun _ => ?_
  refine .ite (fun _ => .throw (.inl (by rw [h₁.medium]))) fun _ => ?_
  rw [if_pos rfl, sat_bind]
  -- the one write goes through, so that only the point behind it may fail
  rw [Backend.write]
  refine .ite (fun _ => ?_) fun _ => .throw (.inl (by rw [h₁.medium]))
  rw [sat_bind, sat_ask, h₁.faults, hw]
  dsimp only
  refine (storeBytes_spec b _ _ _).bind fun stored d₂ h₂ => ?_
  obtain ⟨-, rfl⟩ := h₂
  cases stored with
  | false => exact .throw (.inl (congrArg (fun m => Medium.read m _ _) h₁.medium))
  | true =>
      refine .pure (((hit_looked _).sat _).mono (fun _ _ _ => trivial) (fun _ d₃ h₃ => .inr ?_))
      rw [h₃.medium, ← hlen]
      exact Medium.read_write_same _ _ _

end

/-- The first power-up of the small machine, an update to version 5 and a restart. -/
def updatedOps : List BootOp :=
  [.init default, .register, .boot, .updateStage 5 1 1, .updateConfirmVersion 5, .init default,
    .register]

/-- The small machine after a list of calls. -/
@[irreducible] def smallAfter (faults : ℕ → Request → Fault) (ops : List BootOp) :
    System Machine :=
  Run.after (bootStep smallBuild clearCrypto id smallFram) ops (poweredUp faults)

/-- The boot state on the small memory after a list of calls. -/
def smallBoot (faults : ℕ → Request → Fault) (ops : List BootOp) : Option PersistentBoot :=
  bootAt (smallAfter faults ops).dev.medium (bootOffset smallBuild smallFram)

/-- An update, a restart and a successful boot, without a fault: the theorem applies. -/
theorem marks_never_regress_restart :
    let faults : ℕ → Request → Fault := fun _ _ => .none
    let s₁ := smallAfter faults (updatedOps.take 5)
    let s₂ := smallAfter faults (updatedOps ++ [.boot, .markSuccessful])
    (smallBoot faults (updatedOps.take 5)).map (·.updateVersionFloor) = some 5 ∧
      ∀ p, smallBoot faults (updatedOps.take 5) = some p →
        (∃ q, smallBoot faults (updatedOps ++ [.boot, .markSuccessful]) = some q ∧ Grown p q) ∧
          ∃ l, s₂.ram.written = l ++ s₁.ram.written ∧ ∀ q ∈ l, Grown p q := by
  have hatomic : Atomic smallBuild smallFram (poweredUp fun _ _ => .none).dev.faults :=
    atomic_of_writes rfl fun _ _ _ => rfl
  have hc : Current smallBuild smallFram (poweredUp fun _ _ => .none) :=
    ⟨⟨nofun, hatomic⟩, nofun⟩
  have hloaded : Run.Meets (bootStep smallBuild clearCrypto id smallFram) BootOp.Loaded
      (updatedOps ++ [.boot, .markSuccessful]) (poweredUp fun _ _ => .none) := by decide +kernel
  have h := marks_never_regress smallBuild clearCrypto id smallFram (poweredUp fun _ _ => .none)
    rfl rfl hatomic (updatedOps ++ [.boot, .markSuccessful])
    (meets_of_loaded hc (fun _ _ _ => nofun) hloaded) (updatedOps.take 5)
    [.init default, .register, .boot, .markSuccessful] rfl
  refine ⟨by decide +kernel, ?_⟩
  unfold smallBoot smallAfter
  exact h

/-- **A failed load costs the floor.** Behind the restart the first read of the boot state
fails once with `LS_EIO`, so that `ls_boot` returns an error and leaves a cleared boot state
in memory; `ls_boot_mark_successful` then stores it over the floor. -/
theorem floor_lost :
    let faults : ℕ → Request → Fault := fun k r =>
      if k = 28 ∧ r = .read 256 8 then .fail .eio 0 else .none
    let floor ops := (smallBoot faults ops).map (·.updateVersionFloor)
    Atomic smallBuild smallFram faults ∧ floor updatedOps = some 5 ∧
      floor (updatedOps ++ [.boot]) = some 5 ∧
      floor (updatedOps ++ [.boot, .markSuccessful]) = some 0 := by
  refine ⟨atomic_of_writes rfl fun _ _ _ => ?_, by decide +kernel⟩
  rw [if_neg (by rintro ⟨-, h⟩; cases h)]

end Latch
