
/-
Bitmaps in memory: one bit for each index, eight to a byte.

`test` and `set` are the expressions that programs write. `count n` is the number of bits
that are set below `n`; it grows by one where a new bit is set (`count_set`), and it is `n`
only if all bits below `n` are set (`all_of_count`).
-/
import Mathlib.Data.Nat.Bitwise
import Mathlib.Tactic

namespace Bitmap

variable {bits : ℕ → UInt8} {n : ℕ}

/-- The mask of an index in its byte. -/
def mask (i : ℕ) : UInt8 := 1 <<< UInt8.ofNat (i % 8)

/-- The test of a bit. -/
def test (bits : ℕ → UInt8) (i : ℕ) : Bool := bits (i / 8) &&& mask i ≠ 0

/-- The bitmap with one more bit set. -/
def set (bits : ℕ → UInt8) (i : ℕ) : ℕ → UInt8 :=
  Function.update bits (i / 8) (bits (i / 8) ||| mask i)

/-- The number of bits that are set below `n`. -/
def count (n : ℕ) (bits : ℕ → UInt8) : ℕ := (List.range n).countP (test bits)

/-! ### Bits -/

lemma mask_toNat (i : ℕ) : (mask i).toNat = 2 ^ (i % 8) := by
  have h : i % 8 < 8 := Nat.mod_lt _ (by decide)
  rw [mask]
  generalize i % 8 = k at h
  interval_cases k <;> rfl

/-- A bit is tested in its byte. -/
lemma test_eq (bits : ℕ → UInt8) (i : ℕ) : test bits i = (bits (i / 8)).toNat.testBit (i % 8) := by
  have hzero : bits (i / 8) &&& mask i = 0 ↔ (bits (i / 8)).toNat &&& 2 ^ (i % 8) = 0 := by
    rw [← UInt8.toNat_inj, UInt8.toNat_and, mask_toNat]
    rfl
  rw [Nat.and_two_pow] at hzero
  rw [test, Bool.eq_iff_iff, decide_eq_true_iff, ne_eq, hzero]
  cases (bits (i / 8)).toNat.testBit (i % 8) <;> simp

lemma test_set (bits : ℕ → UInt8) (i j : ℕ) :
    test (set bits i) j = (decide (j = i) || test bits j) := by
  rw [test_eq, test_eq, set]
  by_cases hbyte : j / 8 = i / 8
  · rw [hbyte, Function.update_self, UInt8.toNat_or, mask_toNat, Nat.testBit_or,
      Nat.testBit_two_pow, Bool.or_comm]
    congr 1
    exact decide_eq_decide.mpr (by omega)
  · rw [Function.update_of_ne hbyte]
    have hne : j ≠ i := fun h => hbyte (h ▸ rfl)
    simp [hne]

@[simp] lemma test_set_self (bits : ℕ → UInt8) (i : ℕ) : test (set bits i) i = true := by
  simp [test_set]

lemma test_of_eq_zero {i : ℕ} (h : bits (i / 8) = 0) : test bits i = false := by
  simp [test, h]

/-! ### Counting -/

lemma count_le (n : ℕ) (bits : ℕ → UInt8) : count n bits ≤ n :=
  List.countP_le_length.trans_eq List.length_range

lemma count_succ (n : ℕ) (bits : ℕ → UInt8) :
    count (n + 1) bits = count n bits + if test bits n then 1 else 0 := by
  rw [count, List.range_succ, List.countP_append, List.countP_singleton]
  rfl

lemma count_eq_zero (h : ∀ i < n, test bits i = false) :
    count n bits = 0 := by
  rw [count, List.countP_eq_zero]
  intro i hi
  rw [h i (List.mem_range.mp hi)]
  exact Bool.false_ne_true

lemma count_congr {bits' : ℕ → UInt8} (h : ∀ i < n, test bits' i = test bits i) :
    count n bits' = count n bits :=
  List.countP_congr fun i hi => by rw [h i (List.mem_range.mp hi)]

/-- A new bit counts once. -/
lemma count_set {i : ℕ} (hi : i < n) (h : test bits i = false) :
    count n (set bits i) = count n bits + 1 := by
  induction n with
  | zero => omega
  | succ n ih =>
      rw [count_succ, count_succ]
      rcases Nat.lt_succ_iff_lt_or_eq.mp hi with hlt | rfl
      · have hsame : test (set bits i) n = test bits n := by
          rw [test_set, decide_eq_false (by omega), Bool.false_or]
        rw [ih hlt, hsame]
        omega
      · have hbelow : count i (set bits i) = count i bits := count_congr fun j hj => by
          rw [test_set, decide_eq_false (by omega), Bool.false_or]
        rw [hbelow, test_set_self, h]
        rfl

/-- Bits that are set below `n` only are counted there. -/
lemma count_of_below {m : ℕ} (hnm : n ≤ m)
    (h : ∀ i < m, test bits i = true → i < n) : count m bits = count n bits := by
  induction m, hnm using Nat.le_induction with
  | base => rfl
  | succ m hm ih =>
      have hbit : test bits m = false := by
        by_contra hset
        rw [Bool.not_eq_false] at hset
        have := h m (Nat.lt_succ_self m) hset
        omega
      rw [count_succ, hbit, ih fun i hi => h i (by omega)]
      rfl

/-- As many bits as there are below `n` are all of them. -/
lemma all_of_count (h : count n bits = n) :
    ∀ i < n, test bits i = true := by
  have hall := List.countP_eq_length.mp (h.trans List.length_range.symm)
  exact fun i hi => hall i (List.mem_range.mpr hi)

lemma count_of_all (h : ∀ i < n, test bits i = true) :
    count n bits = n :=
  (List.countP_eq_length.mpr fun i hi => h i (List.mem_range.mp hi)).trans List.length_range

end Bitmap
