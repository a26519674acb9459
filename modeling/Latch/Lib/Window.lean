/-
Windows over the latest positions of a sequence, kept as the bits of a word.

* `Window.Holds window highest seen`: bit `d` of the window says whether position
  `highest - d` was seen, and nothing above `highest` was;
* `Holds.single`, `Holds.slide`, `Holds.restart`, `Holds.mark`: what the word is after a first
  position, a newer one inside the window or beyond it, and one that is behind;
* `nearest h s`: the integer nearest to `h` among those that a 32-bit number stands for.
-/
import Mathlib.Tactic

namespace Window

variable {w : ℕ} {window : BitVec w} {highest : ℤ} {seen : ℤ → Prop}

/-- The window tells which of the latest positions were seen. -/
structure Holds (window : BitVec w) (highest : ℤ) (seen : ℤ → Prop) : Prop where
  bit : ∀ d < w, window.getLsbD d = true ↔ seen (highest - d)
  le : ∀ p, seen p → p ≤ highest

lemma Holds.congr {seen' : ℤ → Prop} (h : Holds window highest seen)
    (heq : ∀ p, seen' p ↔ seen p) : Holds window highest seen' :=
  ⟨fun d hd => (h.bit d hd).trans (heq _).symm, fun p hp => h.le p ((heq p).mp hp)⟩

/-- The word of one position. -/
lemma Holds.single (hw : 0 < w) (p : ℤ) : Holds (1#w) p (· = p) := by
  refine ⟨fun d hd => ?_, fun q hq => hq.le⟩
  rw [BitVec.getLsbD_one]
  simp only [hw, decide_true, Bool.true_and, decide_eq_true_eq]
  omega

/-- A newer position beyond the window. -/
lemma Holds.restart (h : Holds window highest seen) (hw : 0 < w) {k : ℕ} (hk : w ≤ k) :
    Holds (1#w) (highest + k) (fun p => p = highest + k ∨ seen p) := by
  refine ⟨fun d hd => ?_, fun q hq => hq.elim (fun h => h.le) fun hq => ?_⟩
  · have hold : ¬ seen (highest + k - d) := fun hs => by
      have := h.le _ hs
      omega
    rw [(Holds.single hw (highest + k)).bit d hd]
    simp [hold]
  · have := h.le q hq
    omega

/-- A newer position inside the window. -/
lemma Holds.slide (h : Holds window highest seen) {k : ℕ} (hk : 0 < k) :
    Holds (window <<< k ||| 1#w) (highest + k) (fun p => p = highest + k ∨ seen p) := by
  refine ⟨fun d hd => ?_, fun q hq => hq.elim (fun h => h.le) fun hq => ?_⟩
  · rw [BitVec.getLsbD_or, BitVec.getLsbD_shiftLeft, Bool.or_eq_true, or_comm,
      (Holds.single (by omega) (highest + k)).bit d hd]
    refine or_congr Iff.rfl ?_
    by_cases hdk : d < k
    · have hold : ¬ seen (highest + k - d) := fun hs => by
        have := h.le _ hs
        omega
      simp [hdk, hold]
    · have hshift : highest + k - d = highest - ((d - k : ℕ) : ℤ) := by omega
      rw [hshift, ← h.bit (d - k) (by omega)]
      simp [hdk, hd]
  · have := h.le q hq
    omega

lemma getLsbD_mask {d k : ℕ} (hd : d < w) : (1#w <<< k).getLsbD d = true ↔ d = k := by
  rw [BitVec.getLsbD_shiftLeft, BitVec.getLsbD_one]
  simp only [hd, decide_true, Bool.true_and, Bool.and_eq_true, Bool.not_eq_true',
    decide_eq_false_iff_not, decide_eq_true_eq]
  omega

/-- A position that is behind. -/
lemma Holds.mark (h : Holds window highest seen) (k : ℕ) :
    Holds (window ||| 1#w <<< k) highest (fun p => p = highest - k ∨ seen p) := by
  refine ⟨fun d hd => ?_, fun q hq => hq.elim (fun h => by omega) (h.le q)⟩
  rw [BitVec.getLsbD_or, Bool.or_eq_true, or_comm, h.bit d hd, getLsbD_mask hd]
  refine or_congr ?_ Iff.rfl
  omega

/-- The mask of a bit picks it. -/
lemma and_mask_eq_zero_iff (window : BitVec w) {k : ℕ} (hk : k < w) :
    window &&& 1#w <<< k = 0#w ↔ window.getLsbD k = false := by
  constructor
  · intro h
    have hbit := congrArg (BitVec.getLsbD · k) h
    simpa [(getLsbD_mask hk).mpr rfl] using hbit
  · intro h
    refine BitVec.eq_of_getLsbD_eq fun d hd => ?_
    rw [BitVec.getLsbD_and, BitVec.getLsbD_zero, Bool.and_eq_false_iff]
    by_cases hdk : d = k
    · exact .inl (hdk ▸ h)
    · exact .inr (Bool.eq_false_iff.mpr fun hm => hdk ((getLsbD_mask hd).mp hm))

/-- The integer nearest to `h` that the number `s` stands for, the lower one of two. -/
def nearest (h : ℤ) (s : UInt32) : ℤ := h + Int.bmod (s.toNat - h) (2 ^ 32)

section Nearest

variable {h : ℤ} {r s : UInt32}

lemma nearest_emod (h : ℤ) (s : UInt32) : nearest h s % 2 ^ 32 = s.toNat := by
  have := s.toNat_lt
  rw [nearest, Int.bmod_def]
  split <;> omega

/-- A number is ahead by the forward distance, if that is less than half of all. -/
lemma nearest_of_forward (hr : h % 2 ^ 32 = r.toNat) (hf : (s - r).toNat < 2 ^ 31) :
    nearest h s = h + (s - r).toNat := by
  have := s.toNat_lt
  have := r.toNat_lt
  rw [UInt32.toNat_sub] at hf ⊢
  rw [nearest, Int.bmod_def]
  split <;> omega

/-- Otherwise it is behind by the backward distance. -/
lemma nearest_of_backward (hr : h % 2 ^ 32 = r.toNat) (hf : (s - r).toNat = 0 ∨ 2 ^ 31 ≤ (s - r).toNat) :
    nearest h s = h - (r - s).toNat := by
  have := s.toNat_lt
  have := r.toNat_lt
  rw [UInt32.toNat_sub] at hf
  rw [nearest, Int.bmod_def, UInt32.toNat_sub]
  split <;> omega

end Nearest

end Window
