/-
The provisioning state machine over whole runs.

Six functions of `src/core/provisioning.c` move the key ids through six states. A run is a
list of their calls, with whatever arguments, answers of the secure element and results of
the saves; every call returns, so there is no cut of the power within the run.

* `KeysFit`: which key ids a state has;
* `Announced`: a boot state with `LS_PROVISIONING_DECOMMISSIONING` has been saved for a key;
* `Sound`: the invariant, which also says that a key was destroyed only behind its
  announcement;
* `Stepped`: what one call does, at every exit but a cut;
* `provisioning_sound`: what every run from the unprovisioned state keeps.
-/
import Latch.Core.Rollback

namespace Latch

open Exec Spool

/-- The key ids fit the state. -/
structure KeysFit (p : PersistentBoot) : Prop where
  decommissioned : p.provisionState = lsProvisioningDecommissioned →
    p.provisionKeyId = 0 ∧ p.provisionPendingKeyId = 0
  single : p.provisionState = lsProvisioningActive ∨ p.provisionState = lsProvisioningRevoked ∨
    p.provisionState = lsProvisioningDecommissioning →
    p.provisionKeyId ≠ 0 ∧ p.provisionPendingKeyId = 0
  rotating : p.provisionState = lsProvisioningRotating →
    p.provisionKeyId ≠ 0 ∧ p.provisionPendingKeyId ≠ 0 ∧ p.provisionKeyId ≠ p.provisionPendingKeyId

/-- The intention to destroy a key has been saved. -/
def Announced (keyId : UInt32) (trace : List LifecycleEvent) : Prop :=
  ∃ p, .saved p ∈ trace ∧ p.provisionState = lsProvisioningDecommissioning ∧ p.provisionKeyId = keyId

/-- A key that was destroyed was the current one and had been announced; the trace has the
last event first. -/
def DestroyedSafely (trace : List LifecycleEvent) : Prop :=
  ∀ later keyId p earlier, trace = later ++ .destroyed keyId p :: earlier →
    keyId = p.provisionKeyId ∧ p.provisionState = lsProvisioningDecommissioning ∧
      Announced keyId earlier

/-- The invariant of the state machine. -/
structure Sound (p : PersistentBoot) (trace : List LifecycleEvent) : Prop where
  keys : KeysFit p
  announced : p.provisionState = lsProvisioningDecommissioning → Announced p.provisionKeyId trace
  destroyed : DestroyedSafely trace

section Invariant

variable {p q : PersistentBoot} {trace : List LifecycleEvent}

lemma Announced.cons {keyId : UInt32} (h : Announced keyId trace) (event : LifecycleEvent) :
    Announced keyId (event :: trace) := by
  obtain ⟨p, hp, h⟩ := h
  exact ⟨p, List.mem_cons_of_mem _ hp, h⟩

lemma DestroyedSafely.saved (h : DestroyedSafely trace) : DestroyedSafely (.saved q :: trace) := by
  intro later keyId p earlier he
  obtain ⟨-, he'⟩ | ⟨later', -, he'⟩ := List.cons_eq_append_iff.mp he
  · cases he'
  · exact h later' keyId p earlier he'

lemma DestroyedSafely.destroyed (h : DestroyedSafely trace)
    (hs : p.provisionState = lsProvisioningDecommissioning) (ha : Announced p.provisionKeyId trace) :
    DestroyedSafely (.destroyed p.provisionKeyId p :: trace) := by
  intro later keyId q earlier he
  obtain ⟨-, he'⟩ | ⟨later', -, he'⟩ := List.cons_eq_append_iff.mp he
  · cases he'
    exact ⟨rfl, hs, ha⟩
  · exact h later' keyId q earlier he'

/-- The key ids of a state with one key. -/
lemma keysFit_single (hs : p.provisionState = lsProvisioningActive ∨
      p.provisionState = lsProvisioningRevoked ∨ p.provisionState = lsProvisioningDecommissioning)
    (hk : p.provisionKeyId ≠ 0) (hp : p.provisionPendingKeyId = 0) : KeysFit p := by
  refine ⟨fun h => ?_, fun _ => ⟨hk, hp⟩, fun h => ?_⟩ <;> rw [h] at hs <;> exact absurd hs (by decide)

lemma keysFit_rotating (hs : p.provisionState = lsProvisioningRotating) (hk : p.provisionKeyId ≠ 0)
    (hp : p.provisionPendingKeyId ≠ 0) (hne : p.provisionKeyId ≠ p.provisionPendingKeyId) :
    KeysFit p := by
  refine ⟨fun h => ?_, fun h => ?_, fun _ => ⟨hk, hp, hne⟩⟩ <;> rw [hs] at h <;>
    exact absurd h (by decide)

lemma keysFit_decommissioned (hs : p.provisionState = lsProvisioningDecommissioned)
    (hk : p.provisionKeyId = 0) (hp : p.provisionPendingKeyId = 0) : KeysFit p := by
  refine ⟨fun _ => ⟨hk, hp⟩, fun h => ?_, fun h => ?_⟩ <;> rw [hs] at h <;>
    exact absurd h (by decide)

lemma KeysFit.restamped (h : KeysFit p) (hq : Restamped p q) : KeysFit q := by
  obtain ⟨_, _, _, _, rfl⟩ := hq
  exact ⟨h.decommissioned, h.single, h.rotating⟩

lemma Sound.restamped (h : Sound p trace) (hq : Restamped p q) : Sound q trace := by
  refine ⟨h.keys.restamped hq, ?_, h.destroyed⟩
  obtain ⟨_, _, _, _, rfl⟩ := hq
  exact h.announced

/-- Keys that fit another state than the announcement. -/
lemma Sound.moved (h : Sound p trace) (hq : KeysFit q)
    (hs : q.provisionState ≠ lsProvisioningDecommissioning) : Sound q trace :=
  ⟨hq, fun h' => absurd h' hs, h.destroyed⟩

lemma Sound.saved (h : Sound p trace) : Sound p (.saved q :: trace) :=
  ⟨h.keys, fun hs => (h.announced hs).cons _, h.destroyed.saved⟩

end Invariant

/-! ### One call -/

/-- The calls of a run. -/
inductive ProvisioningOp where
  | activate (keyId monotonicCounter : UInt32)
  | beginRotation (newKeyId monotonicCounter : UInt32)
  | commitRotation
  | revoke
  | decommission
  | decommissionSecure (element : Option SecureElement)

namespace ProvisioningOp

/-- The function that is called. -/
def run (bd : Build) : ProvisioningOp → MachineM Unit
  | .activate keyId monotonicCounter => lsProvisioningActivate bd keyId monotonicCounter
  | .beginRotation newKeyId monotonicCounter =>
    lsProvisioningBeginRotation bd newKeyId monotonicCounter
  | .commitRotation => lsProvisioningCommitRotation bd
  | .revoke => lsProvisioningRevoke bd
  | .decommission => lsProvisioningDecommission bd
  | .decommissionSecure element => lsProvisioningDecommissionSecure bd element

/-- An activation or the begin of a rotation that passes its checks. -/
def Raises (p : PersistentBoot) : ProvisioningOp → Prop
  | .activate keyId monotonicCounter => keyId ≠ 0 ∧ monotonicAllowed p monotonicCounter ∧
    (p.provisionState = lsProvisioningUnprovisioned ∨ p.provisionState = lsProvisioningRevoked)
  | .beginRotation newKeyId monotonicCounter => p.provisionState = lsProvisioningActive ∧
    newKeyId ≠ 0 ∧ newKeyId ≠ p.provisionKeyId ∧ monotonicAllowed p monotonicCounter
  | _ => False

end ProvisioningOp

/-- What a call does to the boot state in memory and to the trace. -/
structure Stepped (raises : Prop) (s s' : System Machine) : Prop where
  sound : Sound s.ram.persistent s.ram.trace → Sound s'.ram.persistent s'.ram.trace
  decommissioned : s.ram.persistent.provisionState = lsProvisioningDecommissioned →
    s'.ram.persistent.provisionState = lsProvisioningDecommissioned
  raised : raises → s.ram.persistent.provisionMonotonicCounter <
    s'.ram.persistent.provisionMonotonicCounter
  kept : ¬ raises → s'.ram.persistent.provisionMonotonicCounter =
    s.ram.persistent.provisionMonotonicCounter

/-- A change of the boot state that keeps the key ids in order. -/
structure Fits (raises : Prop) (p q : PersistentBoot) : Prop where
  keys : KeysFit p → KeysFit q
  state : q.provisionState ≠ lsProvisioningDecommissioning
  decommissioned : p.provisionState = lsProvisioningDecommissioned →
    q.provisionState = lsProvisioningDecommissioned
  raised : raises → p.provisionMonotonicCounter < q.provisionMonotonicCounter
  kept : ¬ raises → q.provisionMonotonicCounter = p.provisionMonotonicCounter

section

variable {bd : Build} {raises : Prop} {s s' : System Machine} {f : PersistentBoot → PersistentBoot}

lemma Stepped.refl (h : ¬ raises) (s : System Machine) : Stepped raises s s :=
  ⟨id, id, fun h' => absurd h' h, fun _ => rfl⟩

lemma Stepped.trans {s₁ s₂ s₃ : System Machine} (h : Stepped False s₁ s₂) (h' : Stepped False s₂ s₃) :
    Stepped False s₁ s₃ :=
  ⟨h'.sound ∘ h.sound, h'.decommissioned ∘ h.decommissioned, False.elim,
    fun hn => (h'.kept hn).trans (h.kept hn)⟩

lemma Fits.stepped {q : PersistentBoot} (h : Fits raises s.ram.persistent q)
    (hq : Restamped q s'.ram.persistent)
    (ht : s'.ram.trace = s.ram.trace ∨ ∃ p, s'.ram.trace = .saved p :: s.ram.trace) :
    Stepped raises s s' := by
  refine ⟨fun hs => ?_, ?_, ?_, ?_⟩
  · have hs' := (hs.moved (h.keys hs.keys) h.state).restamped hq
    obtain ht | ⟨p, ht⟩ := ht <;> rw [ht]
    · exact hs'
    · exact hs'.saved
  all_goals obtain ⟨_, _, _, _, hr⟩ := hq; rw [hr]
  · exact h.decommissioned
  · exact h.raised
  · exact h.kept

/-- A save of a change that fits, behind a change of the runtime or not. -/
lemma saveWith_stepped {s₁ : System Machine} (hp : s₁.ram.persistent = s.ram.persistent)
    (ht : s₁.ram.trace = s.ram.trace) (h : Fits raises s.ram.persistent (f s.ram.persistent)) :
    Sat (saveWith bd f) s₁ (fun _ s' => Stepped raises s s')
      (fun e s' => e ≠ .cut → Stepped raises s s') := by
  refine (saveWith_spec f s₁).mono (fun _ s' h' => ?_) (fun _ s' h' _ => ?_)
  · exact h.stepped (hp ▸ h'.boot) (.inr ⟨_, ht ▸ h'.trace⟩)
  · exact h.stepped (hp ▸ h'.boot) (.inl (h'.trace.trans ht))

lemma saveIf_stepped {ok : PersistentBoot → Bool} (hok : ok s.ram.persistent = false → ¬ raises)
    (h : ok s.ram.persistent = true → Fits raises s.ram.persistent (f s.ram.persistent)) :
    Sat (saveIf bd ok f) s (fun _ s' => Stepped raises s s')
      (fun e s' => e ≠ .cut → Stepped raises s s') := by
  rw [saveIf, sat_bind, sat_getRam]
  refine .ite (fun hp => saveWith_stepped rfl rfl (h hp)) fun hp => .throw fun _ => ?_
  exact .refl (hok (by simpa using hp)) s

lemma lsProvisioningActivate_stepped (keyId counter : UInt32) (s : System Machine) :
    Sat (lsProvisioningActivate bd keyId counter) s
      (fun _ s' => Stepped ((ProvisioningOp.activate keyId counter).Raises s.ram.persistent) s s')
      (fun e s' => e ≠ .cut →
        Stepped ((ProvisioningOp.activate keyId counter).Raises s.ram.persistent) s s') := by
  rw [lsProvisioningActivate]
  refine saveIf_stepped of_decide_eq_false fun h => ?_
  obtain ⟨hk, hc, hs⟩ := of_decide_eq_true h
  refine ⟨fun _ => keysFit_single (.inl rfl) hk rfl, nofun, fun hd => ?_,
    fun _ => (of_decide_eq_true hc).2, fun hn => absurd ⟨hk, hc, hs⟩ hn⟩
  rw [hd] at hs
  exact absurd hs (by decide)

lemma lsProvisioningBeginRotation_stepped (newKeyId counter : UInt32) (s : System Machine) :
    Sat (lsProvisioningBeginRotation bd newKeyId counter) s
      (fun _ s' => Stepped ((ProvisioningOp.beginRotation newKeyId counter).Raises s.ram.persistent)
        s s')
      (fun e s' => e ≠ .cut →
        Stepped ((ProvisioningOp.beginRotation newKeyId counter).Raises s.ram.persistent) s s') := by
  rw [lsProvisioningBeginRotation]
  refine saveIf_stepped of_decide_eq_false fun h => ?_
  obtain ⟨hs, hk, hne, hc⟩ := of_decide_eq_true h
  refine ⟨fun hf => keysFit_rotating rfl (hf.single (.inl hs)).1 hk hne.symm, nofun, fun hd => ?_,
    fun _ => (of_decide_eq_true hc).2, fun hn => absurd ⟨hs, hk, hne, hc⟩ hn⟩
  rw [hd] at hs
  exact absurd hs (by decide)

lemma lsProvisioningCommitRotation_stepped (s : System Machine) :
    Sat (lsProvisioningCommitRotation bd) s (fun _ s' => Stepped False s s')
      (fun e s' => e ≠ .cut → Stepped False s s') := by
  rw [lsProvisioningCommitRotation]
  refine saveIf_stepped (fun _ => not_false) fun h => ?_
  obtain ⟨hs, hp⟩ := of_decide_eq_true h
  refine ⟨fun _ => keysFit_single (.inl rfl) hp rfl, nofun, fun hd => ?_, False.elim, fun _ => rfl⟩
  rw [hd] at hs
  exact absurd hs (by decide)

lemma lsProvisioningRevoke_stepped (s : System Machine) :
    Sat (lsProvisioningRevoke bd) s (fun _ s' => Stepped False s s')
      (fun e s' => e ≠ .cut → Stepped False s s') := by
  rw [lsProvisioningRevoke, sat_bind, sat_getRam]
  refine .ite (fun _ => .throw fun _ => .refl not_false s) fun h => ?_
  have hs : s.ram.persistent.provisionState = lsProvisioningActive ∨
      s.ram.persistent.provisionState = lsProvisioningRotating := by
    by_contra hn
    exact h (not_or.mp hn)
  rw [sat_bind, lsSecurityClearKey, sat_updateRuntime]
  have hstate : lsProvisioningRevoked ≠ lsProvisioningDecommissioning := by decide
  refine saveWith_stepped rfl rfl ⟨fun hf => keysFit_single (.inr (.inl rfl)) ?_ rfl, hstate,
    fun hd => ?_, False.elim, fun _ => rfl⟩
  · exact hs.elim (fun h => (hf.single (.inl h)).1) fun h => (hf.rotating h).1
  · rw [hd] at hs
    exact absurd hs (by decide)

lemma lsProvisioningDecommission_stepped (s : System Machine) :
    Sat (lsProvisioningDecommission bd) s (fun _ s' => Stepped False s s')
      (fun e s' => e ≠ .cut → Stepped False s s') := by
  rw [lsProvisioningDecommission, sat_bind, sat_getRam]
  refine .ite (fun _ => .pure (.refl not_false s)) fun _ => ?_
  rw [sat_bind, lsSecurityClearKey, sat_updateRuntime]
  have hstate : lsProvisioningDecommissioned ≠ lsProvisioningDecommissioning := by decide
  exact saveWith_stepped rfl rfl ⟨fun _ => keysFit_decommissioned rfl rfl rfl, hstate,
    fun _ => rfl, False.elim, fun _ => rfl⟩

/-- Behind the first part of `ls_provisioning_decommission_secure` the intention is saved, or
the state is what it was. -/
lemma beginDecommission_stepped (s : System Machine)
    (hs : s.ram.persistent.provisionState = lsProvisioningActive ∨
      s.ram.persistent.provisionState = lsProvisioningRevoked ∨
      s.ram.persistent.provisionState = lsProvisioningDecommissioning) :
    Sat (beginDecommission bd s.ram.persistent.provisionState) s
      (fun _ s' => Stepped False s s' ∧
        s'.ram.persistent.provisionState = lsProvisioningDecommissioning ∧
        s'.ram.persistent.provisionKeyId = s.ram.persistent.provisionKeyId)
      (fun e s' => e ≠ .cut → Stepped False s s') := by
  have hnot : s.ram.persistent.provisionState ≠ lsProvisioningDecommissioned := by
    intro h
    rw [h] at hs
    exact absurd hs (by decide)
  rw [beginDecommission]
  refine .ite (fun h => .pure ⟨.refl not_false s, h, rfl⟩) fun _ => ?_
  rw [sat_onFailure]
  refine (saveWith_spec _ s).mono (fun _ s' h => ?_) (fun e s' h => ?_)
  · obtain ⟨_, _, _, _, hr⟩ := h.boot
    refine ⟨⟨fun hi => ?_, fun h => absurd h hnot, False.elim, fun _ => ?_⟩, ?_, ?_⟩
    · have hk := hi.keys.single hs
      rw [h.trace]
      refine ⟨?_, fun _ => ⟨_, List.mem_cons_self, ?_, rfl⟩, hi.destroyed.saved⟩
      · rw [hr]
        exact keysFit_single (.inr (.inr rfl)) hk.1 hk.2
      · rw [hr]
    all_goals rw [hr]
  · cases e with
    | cut => exact absurd rfl
    | fail e =>
        obtain ⟨_, _, _, _, hr⟩ := h.boot
        intro _
        have hback : Restamped s.ram.persistent
            (s'.ram.withProvisionState s.ram.persistent.provisionState).persistent := by
          change Restamped _ { s'.ram.persistent with
            provisionState := s.ram.persistent.provisionState }
          rw [hr]
          exact ⟨_, _, _, _, rfl⟩
        refine ⟨fun hi => ?_, fun h => absurd h hnot, False.elim, fun _ => ?_⟩
        · have hi' := hi.restamped hback
          rw [← h.trace] at hi'
          exact hi'
        · obtain ⟨_, _, _, _, hb⟩ := hback
          rw [hb]

/-- The callback is called with the current key behind its announcement. -/
lemma finishDecommission_stepped (element : SecureElement) (s : System Machine)
    (hs : s.ram.persistent.provisionState = lsProvisioningDecommissioning) :
    Sat (finishDecommission bd element s.ram.persistent.provisionKeyId) s
      (fun _ s' => Stepped False s s') (fun e s' => e ≠ .cut → Stepped False s s') := by
  have hcleared (s₁ : System Machine) (e : Errno) (h : Stepped False s s₁) :
      Sat (do lsSecurityClearKey; throw (.fail e) : MachineM Unit) s₁ (fun _ s' => Stepped False s s')
        (fun e s' => e ≠ .cut → Stepped False s s') := by
    rw [sat_bind, lsSecurityClearKey, sat_updateRuntime, sat_throw]
    exact fun _ => ⟨h.sound, h.decommissioned, h.raised, h.kept⟩
  rw [finishDecommission, sat_bind, lsSecureElementDestroyKey]
  refine .ite (fun _ => .pure (hcleared s _ (.refl not_false s))) fun _ => ?_
  cases element.destroyKey with
  | none => exact .pure (hcleared s _ (.refl not_false s))
  | some failure =>
      rw [sat_bind, sat_modifyRam, sat_pure]
      have hnoted : Stepped False s ⟨s.dev, s.ram.noted
          (.destroyed s.ram.persistent.provisionKeyId s.ram.persistent)⟩ := by
        refine ⟨fun hi => ?_, id, False.elim, fun _ => rfl⟩
        exact ⟨hi.keys, fun h => (hi.announced h).cons _,
          hi.destroyed.destroyed hs (hi.announced hs)⟩
      cases failure with
      | some e => exact hcleared _ e hnoted
      | none =>
          exact (lsProvisioningDecommission_stepped _).mono (fun _ _ h => hnoted.trans h)
            (fun _ _ h he => hnoted.trans (h he))

lemma lsProvisioningDecommissionSecure_stepped (element : Option SecureElement)
    (s : System Machine) :
    Sat (lsProvisioningDecommissionSecure bd element) s (fun _ s' => Stepped False s s')
      (fun e s' => e ≠ .cut → Stepped False s s') := by
  rw [lsProvisioningDecommissionSecure, sat_bind, sat_getRam]
  refine .ite (fun _ => .pure (.refl not_false s)) fun _ => sat_ite.mpr ⟨fun _ =>
    .throw fun _ => .refl not_false s, fun h => ?_⟩
  cases element with
  | none => exact .throw fun _ => .refl not_false s
  | some element =>
      have hs : s.ram.persistent.provisionState = lsProvisioningActive ∨
          s.ram.persistent.provisionState = lsProvisioningRevoked ∨
          s.ram.persistent.provisionState = lsProvisioningDecommissioning := by
        by_contra hn
        simp only [not_or] at hn
        exact h (.inr hn)
      dsimp only
      refine (beginDecommission_stepped s hs).bind fun _ s₁ h₁ => ?_
      obtain ⟨h₁, hs₁, hk⟩ := h₁
      rw [← hk]
      exact (finishDecommission_stepped element s₁ hs₁).mono (fun _ _ h => h₁.trans h)
        (fun _ _ h he => h₁.trans (h he))

/-- Every call that returns. -/
lemma provisioningOp_stepped (op : ProvisioningOp) (s : System Machine) :
    Sat (op.run bd) s (fun _ s' => Stepped (op.Raises s.ram.persistent) s s')
      (fun e s' => e ≠ .cut → Stepped (op.Raises s.ram.persistent) s s') := by
  cases op with
  | activate keyId counter => exact lsProvisioningActivate_stepped keyId counter s
  | beginRotation newKeyId counter => exact lsProvisioningBeginRotation_stepped newKeyId counter s
  | commitRotation => exact lsProvisioningCommitRotation_stepped s
  | revoke => exact lsProvisioningRevoke_stepped s
  | decommission => exact lsProvisioningDecommission_stepped s
  | decommissionSecure element => exact lsProvisioningDecommissionSecure_stepped element s

end

/-! ### Runs -/

section

variable (bd : Build)

/-- The system behind a call. -/
def provisioningStep (op : ProvisioningOp) (s : System Machine) : System Machine :=
  leaves (op.run bd) s

/-- A call that returns, with whatever result. -/
def ProvisioningOp.Returned (op : ProvisioningOp) (s : System Machine) : Prop :=
  Sat (op.run bd) s (fun _ _ => True) (fun e _ => e ≠ .cut)

instance (op : ProvisioningOp) (s : System Machine) : Decidable (op.Returned bd s) :=
  inferInstanceAs (Decidable (Sat _ _ _ _))

variable {bd}

lemma provisioningStep_stepped {op : ProvisioningOp} {s : System Machine} (h : op.Returned bd s) :
    Stepped (op.Raises s.ram.persistent) s (provisioningStep bd op s) :=
  ((provisioningOp_stepped op s).and h).mono (fun _ _ h => h.1) (fun _ _ h => h.1 h.2) |>.leaves

/-- What a run keeps, as far as it does not depend on the single call. -/
structure Carried (s s' : System Machine) : Prop where
  sound : Sound s.ram.persistent s.ram.trace → Sound s'.ram.persistent s'.ram.trace
  decommissioned : s.ram.persistent.provisionState = lsProvisioningDecommissioned →
    s'.ram.persistent.provisionState = lsProvisioningDecommissioned

lemma after_carried {ops : List ProvisioningOp} {s : System Machine}
    (hm : Run.Meets (provisioningStep bd) (ProvisioningOp.Returned bd) ops s) :
    Carried s (Run.after (provisioningStep bd) ops s) := by
  refine Run.after_rel (R := Carried) (fun _ => ⟨id, id⟩) (fun _ _ _ h h' => ?_) (fun op s h => ?_) hm
  · exact ⟨h'.sound ∘ h.sound, h'.decommissioned ∘ h.decommissioned⟩
  · have h' := provisioningStep_stepped h
    exact ⟨h'.sound, h'.decommissioned⟩

/-- **The provisioning state machine.** In every run from the unprovisioned state the key ids
fit the state, no call leads out of `LS_PROVISIONING_DECOMMISSIONED`, the monotonic counter
rises at the calls that set it and at no other, and a key is destroyed only as the current
one and behind its announcement. -/
theorem provisioning_sound (bd : Build) (s : System Machine)
    (hstate : s.ram.persistent.provisionState = lsProvisioningUnprovisioned)
    (htrace : s.ram.trace = []) (ops : List ProvisioningOp)
    (hm : Run.Meets (provisioningStep bd) (ProvisioningOp.Returned bd) ops s) :
    let s' := Run.after (provisioningStep bd) ops s
    KeysFit s'.ram.persistent ∧ DestroyedSafely s'.ram.trace ∧
      (∀ pre post, ops = pre ++ post →
        (Run.after (provisioningStep bd) pre s).ram.persistent.provisionState =
          lsProvisioningDecommissioned →
        s'.ram.persistent.provisionState = lsProvisioningDecommissioned) ∧
      ∀ pre op post, ops = pre ++ op :: post →
        let p := (Run.after (provisioningStep bd) pre s).ram.persistent
        let q := (Run.after (provisioningStep bd) (pre ++ [op]) s).ram.persistent
        (op.Raises p → p.provisionMonotonicCounter < q.provisionMonotonicCounter) ∧
          (¬ op.Raises p → q.provisionMonotonicCounter = p.provisionMonotonicCounter) := by
  have hstart : Sound s.ram.persistent s.ram.trace := by
    refine ⟨⟨?_, ?_, ?_⟩, ?_, ?_⟩
    · exact fun h => absurd (hstate.symm.trans h) (by decide)
    · rw [hstate]
      exact fun h => absurd h (by decide)
    · exact fun h => absurd (hstate.symm.trans h) (by decide)
    · exact fun h => absurd (hstate.symm.trans h) (by decide)
    · rw [htrace]
      intro later _ _ _ h
      cases later <;> cases h
  have hsound := (after_carried hm).sound hstart
  refine ⟨hsound.keys, hsound.destroyed, ?_, ?_⟩
  · rintro pre post rfl h
    rw [Run.after_append]
    exact (after_carried (Run.meets_append.mp hm).2).decommissioned h
  · rintro pre op post rfl
    have h := provisioningStep_stepped (Run.meets_append.mp hm).2.1
    rw [Run.after_append]
    exact ⟨h.raised, h.kept⟩

/-- A key that is rotated and destroyed on the small machine, whose third save fails: the
theorem applies. -/
theorem provisioning_sound_decommissioned :
    let faults : ℕ → Request → Fault := fun k _ => if k = 9 then .fail .eio 0 else .none
    let s := smallAfter faults [.init default, .register]
    let ops : List ProvisioningOp := [.activate 3 1, .beginRotation 4 2, .commitRotation,
      .decommissionSecure (some ⟨some none⟩)]
    let s' := Run.after (provisioningStep smallBuild) ops s
    s'.ram.persistent.provisionState = lsProvisioningDecommissioned ∧ s'.ram.trace.length = 5 ∧
      KeysFit s'.ram.persistent ∧ DestroyedSafely s'.ram.trace := by
  intro faults s ops s'
  have h := provisioning_sound smallBuild s (by decide +kernel) (by decide +kernel) ops
    (by decide +kernel)
  exact ⟨by decide +kernel, by decide +kernel, h.1, h.2.1⟩

end

end Latch
