/-
A rate limiter with windows.

The limiter counts what it admits in a window, and a window starts with the first event that
comes a period or more after the last one started. Windows are thus at least a period apart,
and an interval as long as a period meets two of them.

* `step`: one event;
* `left`: what the window and those after it can still admit in an interval;
* `left_step`: an event takes what it is admitted for from `left`.
-/
import Mathlib.Tactic

namespace Limiter

/-- The start of the window and the number of events admitted in it. -/
structure State where
  start : ℕ
  count : ℕ

variable (maximum period : ℕ)

/-- The window of an event at a time. -/
def State.at (time : ℕ) (s : State) : State := if s.start + period ≤ time then ⟨time, 0⟩ else s

/-- An event at a time: whether it is admitted, and the state behind it. -/
def step (time : ℕ) (s : State) : Bool × State :=
  if maximum ≤ (s.at period time).count then (false, s.at period time)
  else (true, ⟨(s.at period time).start, (s.at period time).count + 1⟩)

/-- What can still be admitted in the interval of a period from `t` on. -/
def left (t : ℕ) (s : State) : ℕ :=
  if t + period < s.start then 0
  else if t < s.start then maximum - s.count
  else if t < s.start + period then (maximum - s.count) + maximum
  else 2 * maximum

variable {maximum period} {t time : ℕ} {s : State}

lemma left_le : left maximum period t s ≤ 2 * maximum := by
  rw [left]
  split_ifs <;> omega

/-- An event lies in its window. -/
lemma at_spec (hp : 0 < period) (h : s.start ≤ time) :
    (s.at period time).start ≤ time ∧ time < (s.at period time).start + period := by
  rw [State.at]
  split_ifs with hnew
  · exact ⟨le_rfl, Nat.lt_add_of_pos_right hp⟩
  · exact ⟨h, not_le.mp hnew⟩

lemma step_start (hp : 0 < period) (h : s.start ≤ time) :
    (step maximum period time s).2.start ≤ time := by
  rw [step]
  split_ifs <;> exact (at_spec hp h).1

/-- A window that starts takes nothing from the interval: the one before it ended there. -/
lemma left_at (time : ℕ) : left maximum period t (s.at period time) ≤ left maximum period t s := by
  rw [State.at]
  split_ifs with hnew
  · simp only [left]
    split_ifs <;> omega
  · exact le_rfl

/-- An event that is admitted in the interval is one less that can still be. -/
theorem left_step (hp : 0 < period) (h : s.start ≤ time) :
    left maximum period t (step maximum period time s).2 +
        (if (step maximum period time s).1 ∧ t ≤ time ∧ time ≤ t + period then 1 else 0) ≤
      left maximum period t s := by
  obtain ⟨hstart, hend⟩ := at_spec hp h
  refine le_trans ?_ (left_at time)
  rw [step]
  generalize s.at period time = w at *
  by_cases hfull : maximum ≤ w.count
  · simp [if_pos hfull]
  · simp only [if_neg hfull, left, true_and]
    split_ifs <;> omega

end Limiter
