/-
The recording profile of the flight recorder, and the anomaly window that replaces it for a
time.

`Expected` is what the caller may expect: the profile it chose last, and the end of the window
it opened last. The profile to return to lies in ordinary memory, and an end of zero stands for
no window at all.

* `Follows`: the recorder is in the chosen profile, or in a window that leads back to it;
* `anomaly_ends_in_profile`: a poll behind the end of the last window finds the chosen profile,
  if no reset came inside a window and no window ended at time zero;
* `anomaly_never_ends`: a reset inside a window makes the anomaly profile permanent, and so
  does an end of zero.
-/
import Latch.Recorder.Recorder

namespace Latch

open Serial

/-- The profile that the caller chose last, and the end of the last anomaly window. -/
structure Expected where
  profile : UInt8
  windowEnd : Option UInt32
  deriving DecidableEq

/-- A call, as far as the caller's expectation goes. -/
def Expected.step : RecorderOp → Expected → Expected
  | .setProfile profile, x => { x with profile := profile }
  | .anomalyBegin durationMs uptimeMs, x =>
    { x with windowEnd := some (uptimeMs.getD 0 + durationMs) }
  | _, x => x

/-- What the caller expects after some calls on a cleared recorder. -/
def expected (ops : List RecorderOp) : Expected :=
  Run.after Expected.step ops ⟨lsBlackboxProfileNormal, none⟩

/-- The caller chooses a profile other than the anomaly one, and windows are not empty. -/
def RecorderOp.Proper : RecorderOp → Prop
  | .setProfile profile => profile = lsBlackboxProfileQuiet ∨ profile = lsBlackboxProfileNormal
  | .anomalyBegin durationMs _ => durationMs ≠ 0
  | _ => True

instance (op : RecorderOp) : Decidable op.Proper := by
  cases op <;> unfold RecorderOp.Proper <;> infer_instance

/-- No reset inside an anomaly window, and no window that ends at time zero. -/
def RecorderOp.KeepsWindow : RecorderOp → Recorder → Prop
  | .restart, r => r.profile.value ≠ lsBlackboxProfileAnomaly
  | .anomalyBegin durationMs uptimeMs, _ => uptimeMs.getD 0 + durationMs ≠ 0
  | _, _ => True

instance (op : RecorderOp) (r : Recorder) : Decidable (op.KeepsWindow r) := by
  cases op <;> unfold RecorderOp.KeepsWindow <;> infer_instance

/-- The recorder is in the chosen profile, or in a window that leads back to it. -/
structure Follows (x : Expected) (r : Recorder) : Prop where
  chosen_ne : x.profile ≠ lsBlackboxProfileAnomaly
  profile : r.profile.value = x.profile ∨
    r.profile.value = lsBlackboxProfileAnomaly ∧ r.previousProfile = x.profile ∧
      r.anomalyUntilMs.value ≠ 0 ∧ x.windowEnd = some r.anomalyUntilMs.value

section

variable {bd : Build} {x : Expected} {r : Recorder}

/-- The test `(int32_t)(now - end) >= 0`. -/
lemma reached_iff (now windowEnd : UInt32) :
    0 ≤ (now - windowEnd).toInt32 ↔ offset windowEnd now < 2 ^ 31 := by
  have hlt := (now - windowEnd).toNat_lt
  rw [Int32.le_iff_toInt_le, toInt_toInt32, offset, Int32.toInt_zero, Int.bmod_def]
  split <;> omega

lemma Follows.chosen (h : Follows x r) (hp : r.profile.value ≠ lsBlackboxProfileAnomaly) :
    r.profile.value = x.profile := h.profile.resolve_right fun hin => hp hin.1

/-- A record leaves the profile and the window alone. -/
lemma Follows.record (h : Follows x r) (hr : r.Sound) (entry : BlackboxRecord)
    (uptimeMs : Option UInt32) : Follows x ((RecorderOp.record entry uptimeMs).step bd r) := by
  rw [step_record hr]
  cases (RecorderOp.record entry uptimeMs).accepts r with
  | none => exact h
  | some stored =>
      have hrec := recorded_all_recordStores bd r stored
      refine ⟨h.chosen_ne, ?_⟩
      rw [hrec.profile, hrec.previousProfile, hrec.anomalyUntilMs]
      exact h.profile

lemma Follows.setProfile (hr : r.Sound) {profile : UInt8}
    (hp : (RecorderOp.setProfile profile).Proper) :
    Follows (x.step (.setProfile profile)) (lsBlackboxSetProfile bd profile r) := by
  have hle : ¬ lsBlackboxProfileAnomaly < profile := by
    rcases hp with rfl | rfl <;> decide
  have hne : profile ≠ lsBlackboxProfileAnomaly := by
    rcases hp with rfl | rfl <;> decide
  rw [lsBlackboxSetProfile, if_neg hle, hr.ensured]
  exact ⟨hne, .inl rfl⟩

/-- A window remembers the profile in front of it, also if it is opened inside another one. -/
lemma Follows.anomalyBegin (h : Follows x r) (hr : r.Sound) {durationMs : UInt32}
    {uptimeMs : Option UInt32} (hd : durationMs ≠ 0) (hend : uptimeMs.getD 0 + durationMs ≠ 0) :
    Follows (x.step (.anomalyBegin durationMs uptimeMs))
      (lsBlackboxAnomalyBegin bd durationMs uptimeMs r) := by
  rw [lsBlackboxAnomalyBegin, if_neg hd, hr.ensured]
  refine ⟨h.chosen_ne, .inr ⟨rfl, ?_, hend, rfl⟩⟩
  dsimp only
  split
  · rename_i hp
    exact h.chosen hp
  · rename_i hp
    obtain hin | hin := h.profile
    · exact absurd (hin.symm.trans (not_not.mp hp)) h.chosen_ne
    · exact hin.2.1

lemma Follows.poll (h : Follows x r) (uptimeMs : Option UInt32) :
    Follows x (lsBlackboxPoll uptimeMs r) := by
  unfold lsBlackboxPoll
  split
  · exact h
  · split
    · exact h
    · rename_i hopen
      split
      · obtain hin | hin := h.profile
        · exact absurd (.inr (.inl (by rw [hin]; exact h.chosen_ne))) hopen
        · exact ⟨h.chosen_ne, .inl hin.2.1⟩
      · exact h

lemma Follows.step (h : Follows x r) (hr : r.Sound) {op : RecorderOp} (hop : op.Proper)
    (hw : op.KeepsWindow r) : Follows (x.step op) (op.step bd r) := by
  cases op with
  | record entry uptimeMs => exact h.record hr entry uptimeMs
  | setProfile profile => exact Follows.setProfile hr hop
  | anomalyBegin durationMs uptimeMs => exact h.anomalyBegin hr hop hw
  | poll uptimeMs => exact h.poll uptimeMs
  | restart =>
      rw [RecorderOp.step, hr.init]
      exact ⟨h.chosen_ne, .inl (h.chosen hw)⟩

/-- A whole run keeps `Follows`. -/
lemma Follows.after {ops : List RecorderOp} (h : Follows x r) (hr : r.Sound)
    (hops : ∀ op ∈ ops, op.Proper)
    (hw : Run.Meets (RecorderOp.step bd) RecorderOp.KeepsWindow ops r) :
    Follows (Run.after Expected.step ops x) (Run.after (RecorderOp.step bd) ops r) := by
  induction ops generalizing x r with
  | nil => exact h
  | cons op ops ih =>
      obtain ⟨hop, hops⟩ := List.forall_mem_cons.mp hops
      exact ih (h.step hr hop hw.1) (hr.step op) hops hw.2

/-- A poll behind the end of the last window. -/
lemma Follows.poll_due (h : Follows x r) (hr : r.Sound) {now : UInt32}
    (hdue : ∀ e ∈ x.windowEnd, offset e now < 2 ^ 31) :
    (lsBlackboxPoll (some now) r).profile.value = x.profile := by
  obtain hin | ⟨hanomaly, hprev, huntil, hend⟩ := h.profile
  · exact (h.poll (some now)).chosen fun hp => by
      simp [lsBlackboxPoll, hin, h.chosen_ne] at hp
  · have hreached := (reached_iff _ _).mpr (hdue _ hend)
    simp only [lsBlackboxPoll]
    rw [if_neg (by simp [hr.magic, hanomaly, huntil]), if_pos hreached]
    exact hprev

end

/-- **The anomaly profile ends.** From a cleared recorder, a poll at or behind the end of the
last window finds the profile that was chosen last, if no reset came inside a window and no
window ended at time zero. -/
theorem anomaly_ends_in_profile (bd : Build) (ops : List RecorderOp)
    (hops : ∀ op ∈ ops, op.Proper)
    (hw : Run.Meets (RecorderOp.step bd) RecorderOp.KeepsWindow ops blackboxReset) (now : UInt32)
    (hdue : ∀ e ∈ (expected ops).windowEnd, offset e now < 2 ^ 31) :
    ((RecorderOp.poll (some now)).step bd
      (Run.after (RecorderOp.step bd) ops blackboxReset)).profile.value =
        (expected ops).profile := by
  have hstart : Follows ⟨lsBlackboxProfileNormal, none⟩ blackboxReset := ⟨by decide, .inl rfl⟩
  exact (hstart.after blackboxReset_sound hops hw).poll_due (blackboxReset_sound.after ops) hdue

/-- Two windows, one inside the other, and a reset behind them. -/
theorem anomaly_ends_in_profile_nested :
    ((RecorderOp.poll (some 400)).step Build.default
      (Run.after (RecorderOp.step Build.default)
        [.setProfile 0, .anomalyBegin 100 (some 10), .anomalyBegin 300 (some 50),
          .poll (some 350), .restart] blackboxReset)).profile.value = 0 :=
  anomaly_ends_in_profile Build.default _ (by decide) (by decide +kernel) 400 (by rintro e ⟨⟩; decide)

/-- A reset inside a window of a recorder in the normal profile leaves it in the anomaly
profile at the end of the window, and so does a window that ends at time zero. -/
theorem anomaly_never_ends :
    (∀ op ∈ [RecorderOp.anomalyBegin 100 (some 0), .restart], op.Proper) ∧
    expected [.anomalyBegin 100 (some 0), .restart] = ⟨lsBlackboxProfileNormal, some 100⟩ ∧
    ((RecorderOp.poll (some 100)).step Build.default
      (Run.after (RecorderOp.step Build.default) [.anomalyBegin 100 (some 0), .restart]
        blackboxReset)).profile.value = lsBlackboxProfileAnomaly ∧
    expected [.anomalyBegin 100 (some 0xffffff9c)] = ⟨lsBlackboxProfileNormal, some 0⟩ ∧
    ((RecorderOp.poll (some 1000)).step Build.default
      (Run.after (RecorderOp.step Build.default) [.anomalyBegin 100 (some 0xffffff9c)]
        blackboxReset)).profile.value = lsBlackboxProfileAnomaly := by
  refine ⟨by decide, by decide, ?_, by decide, ?_⟩ <;> decide +kernel

end Latch
