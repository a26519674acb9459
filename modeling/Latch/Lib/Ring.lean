
/-
Rings: items that are written one after the other into a fixed number of slots.

The item number `i` goes to the slot `slot i`, and an item is live as long as no later item
went to its slot.

* `contents_eq_some_iff`: a slot holds the live item that belongs there;
* `wrapSlot`: the slot by a counter that starts again after `period` items;
* `allLive_iff`: the last items that could fit are all live exactly when the counter has not
  started again within them, or the number of slots divides the period;
* `Live.recent`: a live item is one of the last `2 * capacity` ones, whatever the period.
-/
import Mathlib.Tactic

namespace Ring

/-! ### What the slots hold -/

section Contents

variable {α : Type} (slot : ℕ → ℕ) (item : ℕ → α)

/-- Behind the first `n` items, the item `i` is still there. -/
def Live (n i : ℕ) : Prop := i < n ∧ ∀ j, i < j → j < n → slot j ≠ slot i

/-- What the slot `k` holds behind the first `n` items. -/
def contents : ℕ → ℕ → Option α
  | 0, _ => none
  | n + 1, k => if slot n = k then some (item n) else contents n k

variable {slot item}

variable {n i k : ℕ}

lemma live_last (n : ℕ) : Live slot (n + 1) n :=
  ⟨n.lt_succ_self, fun _ h h' => absurd h (by omega)⟩

lemma live_succ_iff (h : i < n) :
    Live slot (n + 1) i ↔ Live slot n i ∧ slot n ≠ slot i := by
  constructor
  · exact fun hl => ⟨⟨h, fun j h1 h2 => hl.2 j h1 (by omega)⟩, hl.2 n h (by omega)⟩
  · rintro ⟨hl, hne⟩
    refine ⟨by omega, fun j h1 h2 => ?_⟩
    obtain h2 | rfl : j < n ∨ j = n := by omega
    · exact hl.2 j h1 h2
    · exact hne

/-- A slot holds the last item that went there. -/
lemma contents_eq_some_iff {a : α} :
    contents slot item n k = some a ↔ ∃ i, Live slot n i ∧ slot i = k ∧ item i = a := by
  induction n with
  | zero => simp [contents, Live]
  | succ n ih =>
      rw [contents]
      by_cases hk : slot n = k
      · rw [if_pos hk, Option.some.injEq]
        constructor
        · exact fun h => ⟨n, live_last n, hk, h⟩
        · rintro ⟨i, hl, hi, rfl⟩
          obtain hlt | rfl : i < n ∨ i = n := by have := hl.1; omega
          · exact absurd (hk.trans hi.symm) (hl.2 n hlt (by omega))
          · rfl
      · rw [if_neg hk, ih]
        constructor
        · rintro ⟨i, hl, rfl, ha⟩
          exact ⟨i, (live_succ_iff hl.1).mpr ⟨hl, hk⟩, rfl, ha⟩
        · rintro ⟨i, hl, rfl, ha⟩
          obtain hlt | rfl : i < n ∨ i = n := by have := hl.1; omega
          · exact ⟨i, ((live_succ_iff hlt).mp hl).1, rfl, ha⟩
          · exact absurd rfl hk

/-- The slots depend on the items that went there. -/
lemma contents_congr {item' : ℕ → α} (h : ∀ i < n, item' i = item i) :
    contents slot item' n k = contents slot item n k := by
  induction n with
  | zero => rfl
  | succ n ih =>
      rw [contents, contents, ih fun i hi => h i (by omega), h n n.lt_succ_self]

lemma contents_of_live (h : Live slot n i) :
    contents slot item n (slot i) = some (item i) :=
  contents_eq_some_iff.mpr ⟨i, h, rfl, rfl⟩

/-- Live items have slots of their own. -/
lemma Live.eq_of_slot_eq {j : ℕ} (hi : Live slot n i) (hj : Live slot n j)
    (h : slot i = slot j) : i = j := by
  obtain hlt | heq | hlt := Nat.lt_trichotomy i j
  · exact absurd h.symm (hi.2 j hlt hj.1)
  · exact heq
  · exact absurd h (hj.2 i hlt hi.1)

end Contents

/-! ### A counter that starts again -/

section Wrap

variable {period capacity : ℕ}

variable {i n j : ℕ}

/-- The slot of the item `i` by a counter with the given period. -/
def wrapSlot (period capacity i : ℕ) : ℕ := i % period % capacity

lemma wrapSlot_lt (hc : 0 < capacity) (i : ℕ) : wrapSlot period capacity i < capacity :=
  Nat.mod_lt _ hc

/-- Within one turn of the counter, items that are close have different slots. -/
lemma wrapSlot_ne (hij : i < j) (hclose : j < i + capacity)
    (hturn : i / period = j / period) : wrapSlot period capacity i ≠ wrapSlot period capacity j := by
  intro h
  have hi := Nat.div_add_mod i period
  have hj := Nat.div_add_mod j period
  rw [hturn] at hi
  have hsub : j % period - i % period = j - i := by omega
  have hdvd : capacity ∣ j % period - i % period :=
    (Nat.modEq_iff_dvd' (by omega)).mp h
  rw [hsub] at hdvd
  have := Nat.le_of_dvd (by omega) hdvd
  omega

/-- Where the counter does not matter, close items have different slots. -/
lemma wrapSlot_ne_of_dvd (hdvd : capacity ∣ period) (hij : i < j)
    (hclose : j < i + capacity) : wrapSlot period capacity i ≠ wrapSlot period capacity j := by
  rw [wrapSlot, wrapSlot, Nat.mod_mod_of_dvd _ hdvd, Nat.mod_mod_of_dvd _ hdvd]
  intro h
  have hdvd' : capacity ∣ j - i := (Nat.modEq_iff_dvd' hij.le).mp h
  have := Nat.le_of_dvd (by omega) hdvd'
  omega

/-- The last items that could fit are all live. -/
def AllLive (period capacity n : ℕ) : Prop :=
  ∀ i, i < n → n ≤ i + capacity → Live (wrapSlot period capacity) n i

/-- The counter started again within the last items, and the slots do not line up. -/
lemma not_allLive (hc : 0 < capacity) (hp : capacity ≤ period) (hn : period < n)
    (h0 : n % period ≠ 0) (hlt : n % period < capacity) (hd : ¬ capacity ∣ period) :
    ¬ AllLive period capacity n := by
  have hd0 : period % capacity ≠ 0 := fun h => hd (Nat.dvd_of_mod_eq_zero h)
  have hdlt := Nat.mod_lt period hc
  have hdle := Nat.mod_le period capacity
  have hdiv := Nat.div_add_mod n period
  have hq : 1 ≤ n / period := (Nat.one_le_div_iff (by omega)).mpr hn.le
  obtain ⟨q, hq⟩ : ∃ q, n / period = q + 1 := ⟨n / period - 1, by omega⟩
  rw [hq, Nat.mul_succ] at hdiv
  -- the slot `s` is taken by an item of the new turn and one of the old turn
  set s := min (period % capacity) (n % period) - 1 with hs
  have hs1 : s < period % capacity := by omega
  have hs2 : s < n % period := by omega
  set t := period - period % capacity + s with ht
  have htlt : t < period := by omega
  intro hall
  have hlive := hall (period * q + t) (by omega) (by omega)
  refine hlive.2 (period * q + period + s) (by omega) (by omega) ?_
  have hslot₁ : wrapSlot period capacity (period * q + period + s) = s := by
    rw [wrapSlot, Nat.add_assoc, Nat.mul_add_mod, Nat.add_mod_left,
      Nat.mod_eq_of_lt (show s < period by omega), Nat.mod_eq_of_lt (by omega)]
  have hslot₂ : wrapSlot period capacity (period * q + t) = s := by
    have hmul : period - period % capacity = capacity * (period / capacity) := by
      have := Nat.div_add_mod period capacity
      omega
    rw [wrapSlot, Nat.mul_add_mod, Nat.mod_eq_of_lt htlt, ht, hmul, Nat.mul_add_mod,
      Nat.mod_eq_of_lt (by omega)]
  rw [hslot₁, hslot₂]

/-- **When the last items are all live.** -/
theorem allLive_iff (hc : 0 < capacity) (hp : capacity ≤ period) :
    AllLive period capacity n ↔
      n ≤ period ∨ capacity ∣ period ∨ n % period = 0 ∨ capacity ≤ n % period := by
  constructor
  · intro hall
    by_contra hno
    simp only [not_or, not_le] at hno
    exact not_allLive hc hp hno.1 hno.2.2.1 hno.2.2.2 hno.2.1 hall
  · rintro hgood i hi hclose
    refine ⟨hi, fun j hij hj => ?_⟩
    by_cases hdvd : capacity ∣ period
    · exact (wrapSlot_ne_of_dvd hdvd hij (by omega)).symm
    refine (wrapSlot_ne hij (by omega) ?_).symm
    -- the counter does not start again between the two items
    have hpos : 0 < period := by omega
    have hnd := Nat.div_add_mod n period
    have hnlt := Nat.mod_lt n hpos
    have hle : i / period ≤ j / period := Nat.div_le_div_right hij.le
    refine le_antisymm hle (not_lt.mp fun hlt => ?_)
    have hid := Nat.div_add_mod i period
    have hilt := Nat.mod_lt i hpos
    have hjd := Nat.div_add_mod j period
    have hstart : period * (i / period) + period ≤ period * (j / period) := by
      rw [← Nat.mul_succ]
      exact Nat.mul_le_mul_left _ hlt
    have hjn : period * (j / period) ≤ period * (n / period) :=
      Nat.mul_le_mul_left _ (Nat.div_le_div_right hj.le)
    obtain h | h | h | h := hgood
    · have : j / period = 0 := Nat.div_eq_of_lt (by omega)
      omega
    · exact hdvd h
    · have hup : period * (j / period) + period ≤ period * (n / period) := by
        rw [← Nat.mul_succ]
        refine Nat.mul_le_mul_left _ (Nat.div_lt_of_lt_mul ?_)
        omega
      omega
    · omega

/-- If the last items that could fit are all live, they take all slots. -/
lemma AllLive.near (hc : 0 < capacity) (hall : AllLive period capacity n)
    (h : Live (wrapSlot period capacity) n i) : n ≤ i + capacity := by
  by_contra hfar
  have hinj : Set.InjOn (wrapSlot period capacity) (Finset.Ico (n - capacity) n) := by
    intro a ha b hb hab
    rw [Finset.mem_coe, Finset.mem_Ico] at ha hb
    exact (hall a ha.2 (by omega)).eq_of_slot_eq (hall b hb.2 (by omega)) hab
  have himage : (Finset.Ico (n - capacity) n).image (wrapSlot period capacity) =
      Finset.range capacity := by
    refine Finset.eq_of_subset_of_card_le ?_ ?_
    · exact Finset.image_subset_iff.mpr fun j _ => Finset.mem_range.mpr (wrapSlot_lt hc j)
    · rw [Finset.card_image_of_injOn hinj, Finset.card_range, Nat.card_Ico]
      omega
  have hmem : wrapSlot period capacity i ∈
      (Finset.Ico (n - capacity) n).image (wrapSlot period capacity) := by
    rw [himage]
    exact Finset.mem_range.mpr (wrapSlot_lt hc i)
  obtain ⟨j, hj, hslot⟩ := Finset.mem_image.mp hmem
  rw [Finset.mem_Ico] at hj
  exact h.2 j (by omega) hj.2 hslot

/-- A live item is a recent one. -/
lemma Live.recent (hc : 0 < capacity) (hp : capacity ≤ period)
    (h : Live (wrapSlot period capacity) n i) : n < i + 2 * capacity := by
  by_contra hfar
  have hpos : 0 < period := by omega
  have hilt := Nat.mod_lt i hpos
  have hid := Nat.div_add_mod i period
  by_cases hroom : i % period + capacity < period
  · -- the counter goes on for a whole round of slots
    refine h.2 (i + capacity) (by omega) (by omega) ?_
    have hmod : (i + capacity) % period = i % period + capacity := by
      rw [← Nat.mod_add_mod, Nat.mod_eq_of_lt hroom]
    rw [wrapSlot, wrapSlot, hmod, Nat.add_mod_right]
  · -- it starts again, and goes through a whole round from there
    have hslot : wrapSlot period capacity i < capacity := wrapSlot_lt hc i
    set k := wrapSlot period capacity i
    refine h.2 (period * (i / period) + period + k) (by omega) (by omega) ?_
    change wrapSlot period capacity (period * (i / period) + period + k) = k
    rw [wrapSlot, Nat.add_assoc, Nat.mul_add_mod, Nat.add_mod_left,
      Nat.mod_eq_of_lt (show k < period by omega), Nat.mod_eq_of_lt hslot]

end Wrap

end Ring
