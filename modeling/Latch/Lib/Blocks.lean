/-
Streams that are taken in blocks.

A hash or a cipher takes its input in blocks of a fixed size, and what does not fill a block waits
for more input.

* `blocks n l` and `rest n l`: the whole blocks of a string, and what is left behind them;
* `blocks_append`, `rest_append`: more input meets what was left, and nothing before it;
* `blocks_append_of_lt`, `blocks_append_of_eq`: input that does not fill the block, and input that
  fills it.
-/
import Mathlib.Tactic

namespace Blocks

variable {α : Type} {n : ℕ} {l a b : List α}

/-- The whole blocks of `n` elements. -/
def blocks (n : ℕ) (l : List α) : List (List α) :=
  (List.range (l.length / n)).map fun i => (l.drop (n * i)).take n

/-- What is left behind the whole blocks. -/
def rest (n : ℕ) (l : List α) : List α := l.drop (n * (l.length / n))

@[simp] lemma blocks_nil : blocks n ([] : List α) = [] := by simp [blocks]

@[simp] lemma rest_nil : rest n ([] : List α) = [] := by simp [rest]

lemma length_rest (n : ℕ) (l : List α) : (rest n l).length = l.length % n := by
  have := Nat.div_add_mod l.length n
  rw [rest, List.length_drop]
  omega

lemma blocks_of_lt (h : l.length < n) : blocks n l = [] := by
  rw [blocks, Nat.div_eq_of_lt h, List.range_zero, List.map_nil]

lemma rest_of_lt (h : l.length < n) : rest n l = l := by
  rw [rest, Nat.div_eq_of_lt h, Nat.mul_zero, List.drop_zero]

/-- The first block. -/
lemma blocks_cons (hn : 0 < n) (h : n ≤ l.length) :
    blocks n l = l.take n :: blocks n (l.drop n) := by
  have hdiv : l.length / n = (l.drop n).length / n + 1 := by
    rw [List.length_drop, Nat.div_eq_sub_div hn h]
  rw [blocks, hdiv, List.range_succ_eq_map, List.map_cons, List.map_map, Nat.mul_zero,
    List.drop_zero, blocks]
  refine congrArg _ (List.map_congr_left fun i _ => ?_)
  rw [Function.comp_apply, List.drop_drop, Nat.mul_succ, Nat.add_comm]

lemma rest_drop (hn : 0 < n) (h : n ≤ l.length) : rest n l = rest n (l.drop n) := by
  have hdiv : l.length / n = (l.drop n).length / n + 1 := by
    rw [List.length_drop, Nat.div_eq_sub_div hn h]
  rw [rest, hdiv, rest, List.drop_drop, Nat.mul_succ, Nat.add_comm]

/-- More input meets what was left. -/
lemma append (hn : 0 < n) (a b : List α) :
    blocks n (a ++ b) = blocks n a ++ blocks n (rest n a ++ b) ∧
      rest n (a ++ b) = rest n (rest n a ++ b) := by
  induction hk : a.length using Nat.strong_induction_on generalizing a with
  | _ k ih =>
      by_cases h : a.length < n
      · rw [blocks_of_lt h, rest_of_lt h]
        exact ⟨rfl, rfl⟩
      · have hle : n ≤ a.length := by omega
        have hle' : n ≤ (a ++ b).length := by
          rw [List.length_append]
          omega
        obtain ⟨hblocks, hrest⟩ := ih (a.drop n).length (by rw [List.length_drop]; omega) _ rfl
        rw [blocks_cons hn hle', blocks_cons hn hle, rest_drop hn hle', rest_drop hn hle,
          List.take_append_of_le_length hle, List.drop_append_of_le_length hle, hblocks, hrest]
        exact ⟨rfl, rfl⟩

lemma blocks_append (hn : 0 < n) (a b : List α) :
    blocks n (a ++ b) = blocks n a ++ blocks n (rest n a ++ b) := (append hn a b).1

lemma rest_append (hn : 0 < n) (a b : List α) : rest n (a ++ b) = rest n (rest n a ++ b) :=
  (append hn a b).2

lemma blocks_of_eq (hn : 0 < n) (h : l.length = n) : blocks n l = [l] := by
  rw [blocks_cons hn h.ge, List.take_of_length_le h.le, List.drop_eq_nil_of_le h.le, blocks_nil]

lemma rest_of_eq (hn : 0 < n) (h : l.length = n) : rest n l = [] := by
  rw [rest_drop hn h.ge, List.drop_eq_nil_of_le h.le, rest_nil]

/-- Input that does not fill the block. -/
lemma blocks_append_of_lt (h : (rest n a).length + b.length < n) :
    blocks n (a ++ b) = blocks n a ∧ rest n (a ++ b) = rest n a ++ b := by
  have hn : 0 < n := by omega
  rw [← List.length_append] at h
  rw [blocks_append hn, rest_append hn, blocks_of_lt h, rest_of_lt h, List.append_nil]
  exact ⟨rfl, rfl⟩

/-- Input that fills the block. -/
lemma blocks_append_of_eq (hn : 0 < n) (h : (rest n a).length + b.length = n) :
    blocks n (a ++ b) = blocks n a ++ [rest n a ++ b] ∧ rest n (a ++ b) = [] := by
  rw [← List.length_append] at h
  rw [blocks_append hn, rest_append hn, blocks_of_eq hn h, rest_of_eq hn h]
  exact ⟨rfl, rfl⟩

end Blocks
