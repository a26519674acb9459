/-
Wear levelling: every use goes to a least used element of a finite set, with the one in use
left out.

A use may be taken, so that its element becomes the one in use, or wasted. Elements are counted
by how often they were used.

* `Even`: the counts differ by at most one more than the number of wasted uses; the invariant
  also says how far the element in use may lag behind.
* `Recent`: how long ago an element was in use. While an element waits, the others can be used
  only up to its own count, except for the one that was in use before it; and that one is taken
  at most every second time. So the wait is bounded by the size of the set alone
  (`Recent.age_le`), however many uses were wasted.
-/
import Mathlib.Tactic
import Mathlib.Algebra.BigOperators.Group.Finset.Basic
import Mathlib.Algebra.Order.BigOperators.Group.Finset

namespace Wear

variable {ι : Type*} [DecidableEq ι] {S : Finset ι} {c : ι → ℕ} {a i j : ι} {k age : ℕ}

/-- A least used element other than `a`. -/
structure Least (S : Finset ι) (c : ι → ℕ) (a j : ι) : Prop where
  mem : j ∈ S
  ne : j ≠ a
  le : ∀ i ∈ S, i ≠ a → c j ≤ c i

/-- The counts after one more use. -/
def used (c : ι → ℕ) (j : ι) : ι → ℕ := Function.update c j (c j + 1)

@[simp] lemma used_self (c : ι → ℕ) (j : ι) : used c j j = c j + 1 := Function.update_self ..

lemma used_of_ne (c : ι → ℕ) (h : i ≠ j) : used c j i = c i := Function.update_of_ne h ..

lemma le_used (c : ι → ℕ) (i j : ι) : c i ≤ used c j i := by
  by_cases h : i = j
  · rw [h, used_self]
    omega
  · rw [used_of_ne c h]

/-! ### Even use -/

/-- The counts of a set with `a` in use after `k` wasted uses. -/
structure Even (S : Finset ι) (c : ι → ℕ) (a : ι) (k : ℕ) : Prop where
  spread : ∀ i ∈ S, ∀ j ∈ S, c i ≤ c j + 1 + k
  next : ∃ i ∈ S, i ≠ a ∧ c i ≤ c a + k

/-- The element that is used next is not far ahead of any other. -/
lemma Even.least_le (h : Even S c a k) (hj : Least S c a j) (hi : i ∈ S) : c j ≤ c i + k := by
  by_cases hia : i = a
  · obtain ⟨l, hl, hla, hle⟩ := h.next
    exact hia ▸ (hj.le l hl hla).trans hle
  · exact (hj.le i hi hia).trans (Nat.le_add_right _ _)

lemma Even.mono {k' : ℕ} (h : Even S c a k) (hk : k ≤ k') : Even S c a k' := by
  obtain ⟨i, hi, hia, hle⟩ := h.next
  exact ⟨fun i hi j hj => (h.spread i hi j hj).trans (by omega), i, hi, hia, by omega⟩

/-- No count overtakes the others by a use of the least one. -/
lemma Even.spread_used (h : Even S c a k) (hj : Least S c a j) :
    ∀ i ∈ S, ∀ l ∈ S, used c j i ≤ used c j l + 1 + k := by
  intro i hi l hl
  have hl' := le_used c l j
  by_cases hij : i = j
  · have := h.least_le hj hl
    rw [hij, used_self]
    omega
  · have := h.spread i hi l hl
    rw [used_of_ne c hij]
    omega

/-- A use that is taken. -/
lemma Even.taken (h : Even S c a k) (hj : Least S c a j) (ha : a ∈ S) : Even S (used c j) j k := by
  refine ⟨h.spread_used hj, a, ha, hj.ne.symm, ?_⟩
  have := h.spread a ha j hj.mem
  rw [used_of_ne c hj.ne.symm, used_self]
  omega

/-- A use that is wasted. -/
lemma Even.wasted (h : Even S c a k) (hj : Least S c a j) (ha : a ∈ S) :
    Even S (used c j) a (k + 1) := by
  refine ⟨fun i hi l hl => (h.spread_used hj i hi l hl).trans (by omega), j, hj.mem, hj.ne, ?_⟩
  have := h.least_le hj ha
  rw [used_self, used_of_ne c hj.ne.symm]
  omega

/-! ### Recent use -/

/-- How much the elements other than `i` and `z` were used since `i` was, as far as they could be
while `i` waits. -/
def progress (S : Finset ι) (c : ι → ℕ) (i z : ι) : ℕ :=
  ∑ l ∈ (S.erase i).erase z, min 2 (c l + 1 - c i)

/-- With `a` in use now, `i` was in use `age` taken uses ago. The element `z` was in use before
it, and no other one has been used less than `i` before that. -/
def Recent (S : Finset ι) (c : ι → ℕ) (a i : ι) (age : ℕ) : Prop :=
  ∃ z, z ≠ i ∧ (∀ l ∈ S, l ≠ i → l ≠ z → c i ≤ c l + 1) ∧
    age ≤ 2 * progress S c i z + if a = z then 1 else 0

lemma mem_others {z l : ι} : l ∈ (S.erase i).erase z ↔ l ∈ S ∧ l ≠ i ∧ l ≠ z := by
  simp only [Finset.mem_erase]
  tauto

lemma progress_le_used {z : ι} (hij : i ≠ j) : progress S c i z ≤ progress S (used c j) i z := by
  refine Finset.sum_le_sum fun l _ => ?_
  have := le_used c l j
  rw [used_of_ne c hij]
  omega

/-- A use of an element that `i` did not wait for counts. -/
lemma progress_lt_used {z : ι} (hij : i ≠ j) (hj : j ∈ S) (hjz : j ≠ z) (hle : c j ≤ c i)
    (hge : c i ≤ c j + 1) : progress S c i z < progress S (used c j) i z := by
  refine Finset.sum_lt_sum (fun l _ => ?_) ⟨j, mem_others.mpr ⟨hj, hij.symm, hjz⟩, ?_⟩
  · have := le_used c l j
    rw [used_of_ne c hij]
    omega
  · rw [used_of_ne c hij, used_self]
    omega

/-- An element that has just come into use. -/
lemma recent_taken (hj : Least S c a j) : Recent S (used c j) j j 0 := by
  refine ⟨a, hj.ne.symm, fun l hl hlj hla => ?_, Nat.zero_le _⟩
  have := hj.le l hl hla
  rw [used_self, used_of_ne c hlj]
  omega

/-- The elements other than `z` stay where they are or go up. -/
lemma floor_used {z : ι} (hij : i ≠ j) (h : ∀ l ∈ S, l ≠ i → l ≠ z → c i ≤ c l + 1) :
    ∀ l ∈ S, l ≠ i → l ≠ z → used c j i ≤ used c j l + 1 := by
  intro l hl hli hlz
  have := h l hl hli hlz
  have := le_used c l j
  rw [used_of_ne c hij]
  omega

lemma Recent.wasted (h : Recent S c a i age) (hij : i ≠ j) : Recent S (used c j) a i age := by
  obtain ⟨z, hz, hfloor, hage⟩ := h
  have := progress_le_used (S := S) (c := c) (z := z) hij
  exact ⟨z, hz, floor_used hij hfloor, by omega⟩

/-- A taken use makes every other element one use older. -/
lemma Recent.taken (h : Recent S c a i age) (hi : i ∈ S) (hj : Least S c a j) (hij : i ≠ j)
    (hnow : i = a → age = 0) : Recent S (used c j) j i (age + 1) := by
  obtain ⟨z, hz, hfloor, hage⟩ := h
  refine ⟨z, hz, floor_used hij hfloor, ?_⟩
  by_cases hjz : j = z
  · -- `z` is not in use twice in a row
    have := progress_le_used (S := S) (c := c) (z := z) hij
    have haz : a ≠ z := fun h => hj.ne (hjz.trans h.symm)
    rw [if_neg haz] at hage
    rw [if_pos hjz]
    omega
  have hge := hfloor j hj.mem hij.symm hjz
  rw [if_neg hjz]
  by_cases hia : i = a
  · -- nothing has been waiting yet, and one use is one step of progress
    have hzero := hnow hia
    have hpos : 0 < progress S (used c j) i z := by
      refine Finset.sum_pos' (fun _ _ => Nat.zero_le _) ⟨j, mem_others.mpr ⟨hj.mem, hij.symm, hjz⟩, ?_⟩
      rw [used_of_ne c hij, used_self]
      omega
    omega
  · have := progress_lt_used (z := z) hij hj.mem hjz (hj.le i hi hia) hge
    split at hage <;> omega

/-- The wait is bounded by the size of the set. -/
lemma Recent.age_le (h : Recent S c a i age) : age ≤ 4 * S.card + 1 := by
  obtain ⟨z, -, -, hage⟩ := h
  have hsum : progress S c i z ≤ ((S.erase i).erase z).card • 2 :=
    Finset.sum_le_card_nsmul _ _ 2 fun l _ => min_le_left 2 _
  have hcard : ((S.erase i).erase z).card ≤ S.card :=
    (Finset.card_erase_le).trans Finset.card_erase_le
  rw [smul_eq_mul] at hsum
  split at hage <;> omega

end Wear
