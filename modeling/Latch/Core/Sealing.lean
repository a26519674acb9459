/-
Whether a device can still seal behind a boot.

`ls_powerfail_seal` does nothing where the magic of a seal stands in retained memory. A boot
clears that magic only when it has promoted a seal, and it promotes what it can read: so a
magic in front of words that fail their CRC stays for ever.

* `sealingWorks_iff`: sealing works exactly where no magic stands in retained memory;
* `lsPowerfailRecover_sealed`: what a recovery leaves of the seal;
* `sealing_works_iff`: when sealing works behind a boot;
* `sealing_disabled`: a word of retained memory that disables it.
-/
import Latch.Capture.Seal
import Latch.Core.Promotion

namespace Latch

open Exec Spool

variable {bd : Build} {b : Backend} {c : Crypto}

/-! ### Sealing -/

/-- A following `ls_powerfail_seal` with a known reason is read back. -/
def SealingWorks (m : Machine) : Prop :=
  ∀ (reason : UInt32) (vcapMv : UInt16), 1 ≤ reason → reason ≤ 3 → ∃ info,
    lsPowerfailSealedRead (lsPowerfailSeal m.retained m.runtime.bootCount reason vcapMv) =
      some info ∧ info.reason = reason ∧ info.vcapMv = vcapMv

/-- Sealing works exactly where no magic stands in retained memory. -/
lemma sealingWorks_iff (m : Machine) :
    SealingWorks m ↔ m.retained.sealedRetained.magic ≠ lsPowerfailMagic := by
  constructor
  · intro h hmagic
    -- the seal that stands there has one reason at most
    obtain ⟨info, hread, hreason, -⟩ := h 1 0 (by decide) (by decide)
    obtain ⟨info', hread', hreason', -⟩ := h 2 0 (by decide) (by decide)
    rw [lsPowerfailSeal_eq, if_pos (.inr hmagic)] at hread hread'
    obtain rfl : info = info' := Option.some.inj (hread.symm.trans hread')
    exact absurd (hreason.symm.trans hreason') (by decide)
  · intro hmagic reason vcapMv h1 h3
    have hreason : reason ≠ 0 := by
      rintro rfl
      exact absurd h1 (by decide)
    refine ⟨sealInfo (newSeal m.retained m.runtime.bootCount reason vcapMv), ?_, rfl, ?_⟩
    · rw [lsPowerfailSeal_eq, if_neg (not_or.mpr ⟨hreason, hmagic⟩), lsPowerfailSealedRead,
        sealedReadRetained, if_pos (newSeal_valid h3)]
      rfl
    · exact UInt16.toUInt16_toUInt32 vcapMv

/-! ### The recoveries -/

/-- The event of a recovered seal fits an envelope. -/
def SealFits (bd : Build) (config : Config) : Prop :=
  EventFits bd config (some { (default : ArchContext) with architecture := config.architecture })

instance (bd : Build) (config : Config) : Decidable (SealFits bd config) :=
  inferInstanceAs (Decidable (EventFits ..))

/-- What a recovery leaves of the seal: it is cleared if it was read and promoted. -/
lemma lsPowerfailRecover_sealed {s : System Machine} (henabled : bd.enablePowerfailSeal = true)
    (hroom : Roomy bd b s.dev) (hs : s.ram.storage = some b) (hrt : s.ram.runtime.Plain) :
    let left := fun s' : System Machine => s'.ram.retained =
      if (sealedReadRetained s.ram.retained).isSome ∧ SealFits bd s.ram.runtime.config then
        lsPowerfailSealedClear s.ram.retained
      else s.ram.retained
    Sat (lsPowerfailRecover bd c) s (fun _ s' => left s') (fun _ s' => left s') := by
  intro left
  rw [lsPowerfailRecover, sat_bind, sat_getRam, if_pos henabled]
  cases hread : sealedReadRetained s.ram.retained with
  | none =>
      refine .pure ?_
      simp [left, hread]
  | some sealed =>
      dsimp only
      rw [sat_bind, sat_updateRuntime, if_neg (by rw [hs]; simp), sat_bind, sat_updateRuntime,
        sat_bind]
      refine (lsUptimeMs_spec _).mono fun uptimeMs s₁ h₁ => ?_
      obtain ⟨d₁, m₁⟩ := s₁
      obtain ⟨rfl, k, rfl⟩ := h₁
      rw [sat_bind, sat_onFailure]
      have hcapture (s₁ : System Machine) (hd : s₁.dev = s.dev)
          (hst : s₁.ram.storage = s.ram.storage) (hr : s.ram.runtime.Steady s₁.ram.runtime) :=
        (@lsCaptureEvent_room bd b c (sealedEvent bd s.ram.runtime sealed uptimeMs) s₁
          (hd ▸ hroom) (hst.trans hs) (hrt.steady hr) rfl).and
            (lsCaptureEvent_retained (sealedEvent bd s.ram.runtime sealed uptimeMs) s₁)
      refine Sat.mono (hcapture _ rfl rfl ⟨rfl, rfl, rfl, rfl⟩) (fun _ s₂ h₂ => ?_)
        (fun e s₂ h₂ => ?_)
      · rw [sat_updateRetained]
        have hfits : SealFits bd s.ram.runtime.config := h₂.1
        simp only [left, hread, hfits, Option.isSome_some, and_self, if_true]
        exact congrArg lsPowerfailSealedClear h₂.2
      · have hfits : ¬ SealFits bd s.ram.runtime.config := h₂.1
        have hkept : left s₂ := by
          simp only [left, hread, hfits, and_false, if_false]
          exact h₂.2
        cases e <;> exact hkept

/-- The recovery of a snapshot leaves the seal alone. -/
lemma lsCaptureMinimalRecover_sealed (s : System Machine) :
    let left := fun s' : System Machine =>
      s'.ram.retained.sealedRetained = s.ram.retained.sealedRetained
    Sat (lsCaptureMinimalRecover bd c) s (fun _ s' => left s') (fun _ s' => left s') := by
  intro left
  have hclear (r : Retained) : (lsMinimalSnapshotClear bd r).sealedRetained = r.sealedRetained := by
    rw [lsMinimalSnapshotClear, wideSnapshotClear]
    split <;> rfl
  rw [lsCaptureMinimalRecover, sat_bind, sat_getRam]
  cases lsMinimalSnapshotRead s.ram.retained with
  | none => exact .pure rfl
  | some snapshot =>
      dsimp only
      refine .ite (fun _ => .throw rfl) fun _ => ?_
      refine (lsUptimeMs_spec s).bind fun uptimeMs s₁ h₁ => ?_
      obtain ⟨d₁, m₁⟩ := s₁
      obtain ⟨rfl, k, rfl⟩ := h₁
      refine (lsCaptureEvent_retained _ _).bind (fun _ s₂ h₂ => ?_)
        (fun _ s₂ h₂ => congrArg Retained.sealedRetained h₂)
      rw [sat_updateRetained]
      exact (hclear _).trans (congrArg Retained.sealedRetained h₂)

/-- What a recovery leaves at both exits, it leaves where its result is dropped. -/
lemma returns_recoverIf {found : Bool} {x : MachineM Unit} {s : System Machine}
    {P : System Machine → Prop} (h : Sat x s (fun _ s' => P s') fun _ s' => P s')
    (hnone : found = false → P s) : Returns (recoverIf found x) s fun _ s' => P s' := by
  rw [Returns, recoverIf]
  refine .ite (fun _ => ?_) fun hno => .pure (hnone (by simpa using hno))
  rw [sat_ignoring]
  refine h.mono (fun _ _ h => h) (fun e s' h => ?_)
  cases e with
  | fail e => exact h
  | cut => trivial

/-! ### Behind a boot -/

/-- A boot from power-up: `ls_init`, the registration of a storage and `ls_boot`. -/
def powerUp (bd : Build) (c : Crypto) (config : Config) (b : Backend) : MachineM Unit := do
  lsInit bd config
  lsStorageRegister (some b)
  lsBoot bd c

/-- **When sealing works behind a boot** in which every storage call succeeds and the spool has
room: no magic stood in retained memory at power-up, or a seal was readable and its event fits
an envelope. -/
theorem sealing_works_iff (bd : Build) (c : Crypto) (config : Config) (b : Backend)
    (s s' : System Machine) (henabled : bd.enablePowerfailSeal = true)
    (hroom : Roomy bd b s.dev) (hboot : powerUp bd c config b s = .ok () s') :
    SealingWorks s'.ram ↔ s.ram.retained.sealedRetained.magic ≠ lsPowerfailMagic ∨
      (sealedReadRetained s.ram.retained).isSome ∧ SealFits bd config := by
  have hspec : Returns (powerUp bd c config b) s fun _ s' =>
      s'.ram.retained.sealedRetained.magic =
        if (sealedReadRetained s.ram.retained).isSome ∧ SealFits bd config then 0
        else s.ram.retained.sealedRetained.magic := by
    rw [Returns, powerUp, sat_bind, lsInit]
    refine .ite (fun _ => .throw trivial) fun _ => ?_
    rw [sat_modifyRam, sat_bind, lsStorageRegister, sat_modifyRam, lsBoot_eq, sat_bind]
    set build := config.identity.firmwareBuildId.getD bd.buildId
    set s₀ : System Machine := ⟨s.dev, { s.ram.setRuntime (initialRuntime config build) with
      storage := some b, breadcrumbPolicy := .dropOldest, loaded := false }⟩ with hs₀
    have hplain : s₀.ram.runtime.Plain := ⟨rfl, rfl, rfl, Bool.false_ne_true⟩
    refine (bootStarted_spec (s := s₀) rfl).mono fun retainedFault s₁ h₁ => ?_
    obtain ⟨-, hkept⟩ := h₁
    have hconfig : s₁.ram.runtime.config = config := hkept.runtime.config
    have hretained : s₁.ram.retained = s.ram.retained := hkept.retained
    rw [sat_bind]
    refine (returns_recoverIf (lsPowerfailRecover_sealed henabled (hkept.roomy hroom) hkept.storage
      (hplain.steady hkept.runtime)) fun h => absurd (henabled.symm.trans h) (by decide)).mono
      fun _ s₂ h₂ => ?_
    rw [hretained, hconfig] at h₂
    refine (returns_recoverIf (lsCaptureMinimalRecover_sealed s₂) fun _ => rfl).mono
      fun _ s₃ h₃ => ?_
    rw [h₃, h₂]
    split <;> rfl
  rw [sealingWorks_iff, sat_of_ok hspec hboot]
  by_cases hread : (sealedReadRetained s.ram.retained).isSome ∧ SealFits bd config
  · rw [if_pos hread]
    exact iff_of_true (by decide) (.inr hread)
  · rw [if_neg hread]
    exact ⟨.inl, fun h => h.resolve_right hread⟩

/-- The small machine at power-up, with a blank storage and some retained memory. -/
def retainedUp (r : Retained) : System Machine :=
  ⟨(poweredUp fun _ _ => .none).dev, { (poweredUp fun _ _ => .none).ram with retained := r }⟩

lemma roomy_retainedUp (r : Retained) : Roomy smallBuild smallFram (retainedUp r).dev :=
  ⟨by decide, by decide, fun _ _ => rfl, fun _ _ => .inr fun _ _ _ => rfl, 0, by decide,
    fun _ _ _ => rfl⟩

/-- A cold start. -/
theorem sealing_works_iff_cold : ∃ s',
    powerUp smallBuild clearCrypto default smallFram (retainedUp default) = .ok () s' ∧
      SealingWorks s'.ram := by
  have hrun : Completes (powerUp smallBuild clearCrypto default smallFram) (retainedUp default) := by
    decide +kernel
  obtain ⟨_, s', hok, -⟩ := hrun.exists_ok
  exact ⟨s', hok, (sealing_works_iff smallBuild clearCrypto default smallFram (retainedUp default) s'
    rfl (roomy_retainedUp default) hok).mpr (.inl (by decide))⟩

/-- Retained memory in which only the magic of a seal is right. -/
def strayMagic : Retained :=
  { (default : Retained) with sealedRetained := ⟨lsPowerfailMagic, 0, 0, 0, 0, 0, 0, 0, 0, 0, 0, 0, 0, 0, 0⟩ }

/-- **A stray magic disables sealing.** No storage call of the boot fails and the spool is empty,
but the magic stays, and no seal is written and read behind it. -/
theorem sealing_disabled : Roomy smallBuild smallFram (retainedUp strayMagic).dev ∧ ∃ s',
    powerUp smallBuild clearCrypto default smallFram (retainedUp strayMagic) = .ok () s' ∧
      ∀ reason vcapMv, lsPowerfailSealedRead
        (lsPowerfailSeal s'.ram.retained s'.ram.runtime.bootCount reason vcapMv) = none := by
  have hrun : Sat (powerUp smallBuild clearCrypto default smallFram) (retainedUp strayMagic)
      (fun _ s' => s'.ram.retained.sealedRetained.magic = lsPowerfailMagic ∧
        lsPowerfailSealedRead s'.ram.retained = none) fun _ _ => False := by
    decide +kernel
  obtain ⟨_, s', hok, hmagic, hread⟩ := hrun.exists_ok
  refine ⟨roomy_retainedUp strayMagic, s', hok, fun reason vcapMv => ?_⟩
  rwa [lsPowerfailSeal_eq, if_pos (.inr hmagic)]

end Latch
