
/-
Serial numbers: 32-bit counters that wrap, compared by the sign of their difference.

* `Newer c r`: the difference `c - r` is a positive signed number. It is
  irreflexive and asymmetric, but not transitive on the whole circle.
* `offset base x`: the distance from `base` up to `x`. On a window of fewer than
  `2 ^ 31` numbers above one base, `Newer` is the order of the offsets
  (`newer_iff_offset_lt`), hence a linear order.
* `isNewer_iff`: the signed comparison that programs write computes `Newer`.
-/
import Mathlib.Tactic

namespace Serial

variable {base c r : UInt32}

/-- The serial number `c` comes after `r`. -/
def Newer (c r : UInt32) : Prop := 0 < (c - r).toNat ∧ (c - r).toNat < 2 ^ 31

instance (c r : UInt32) : Decidable (Newer c r) := inferInstanceAs (Decidable (_ ∧ _))

/-- How far `x` lies above `base`. -/
def offset (base x : UInt32) : ℕ := (x - base).toNat

/-- The test `(int32_t)(c - r) > 0`. -/
def isNewer (c r : UInt32) : Bool := decide (0 < (c - r).toInt32)

lemma toInt_toInt32 (x : UInt32) : x.toInt32.toInt = (x.toNat : ℤ).bmod (2 ^ 32) := by
  rw [← Int32.toInt_toBitVec, UInt32.toBitVec_toInt32, BitVec.toInt_eq_toNat_bmod,
    UInt32.toNat_toBitVec]

lemma isNewer_iff (c r : UInt32) : isNewer c r = true ↔ Newer c r := by
  have hlt := (c - r).toNat_lt
  rw [isNewer, decide_eq_true_iff, Int32.lt_iff_toInt_lt, toInt_toInt32, Newer]
  simp only [Int32.toInt_zero]
  rw [Int.bmod_def]
  split <;> omega

lemma newer_irrefl (c : UInt32) : ¬ Newer c c := by
  simp [Newer]

lemma Newer.asymm (h : Newer c r) : ¬ Newer r c := by
  unfold Newer at *
  rw [UInt32.toNat_sub] at *
  have := c.toNat_lt
  have := r.toNat_lt
  omega

/-- The successor is newer, also where the counter wraps. -/
lemma newer_succ (g : UInt32) : Newer (g + 1) g := by
  have := g.toNat_lt
  simp only [Newer, UInt32.toNat_sub, UInt32.toNat_add, UInt32.toNat_one]
  omega

lemma offset_inj {x y : UInt32} (h : offset base x = offset base y) : x = y := by
  apply UInt32.toNat_inj.mp
  have := x.toNat_lt
  have := y.toNat_lt
  have := base.toNat_lt
  simp only [offset, UInt32.toNat_sub] at h
  omega

/-- Inside a window the order of the offsets decides. -/
lemma newer_iff_offset_lt (hc : offset base c < 2 ^ 31)
    (hr : offset base r < 2 ^ 31) : Newer c r ↔ offset base r < offset base c := by
  have := c.toNat_lt
  have := r.toNat_lt
  have := base.toNat_lt
  simp only [Newer, offset, UInt32.toNat_sub] at *
  omega

/-- The test `(int32_t)(c - r) < 0` inside a window. -/
lemma sub_neg_iff_offset_lt (hc : offset base c < 2 ^ 31)
    (hr : offset base r < 2 ^ 31) : (c - r).toInt32 < 0 ↔ offset base c < offset base r := by
  have := c.toNat_lt
  have := r.toNat_lt
  have := base.toNat_lt
  rw [Int32.lt_iff_toInt_lt, toInt_toInt32]
  simp only [Int32.toInt_zero, offset, UInt32.toNat_sub] at *
  rw [Int.bmod_def]
  split <;> omega

lemma eq_of_not_newer (hc : offset base c < 2 ^ 31)
    (hr : offset base r < 2 ^ 31) (h1 : ¬ Newer c r) (h2 : ¬ Newer r c) : c = r := by
  rw [newer_iff_offset_lt hc hr] at h1
  rw [newer_iff_offset_lt hr hc] at h2
  have h : offset base c = offset base r := by omega
  exact offset_inj h

/-- What is older than `g` is older than `g + 1` as long as the window holds both. -/
lemma Newer.succ_of_window {g x : UInt32} (hg : offset base (g + 1) < 2 ^ 31)
    (hx : offset base x < 2 ^ 31) (h : Newer g x) : Newer (g + 1) x := by
  have := g.toNat_lt
  have := x.toNat_lt
  have := base.toNat_lt
  simp only [Newer, offset, UInt32.toNat_sub, UInt32.toNat_add, UInt32.toNat_one] at *
  omega

end Serial
