/-
Machine arithmetic that remembers whether it was exact.

An operation returns what the machine computes, and its computation keeps a flag that falls when
a result did not fit its word. One definition then has both readings: the value, wrapped as in
the program, and whether anything has been lost on the way.

* `add32`, `mul32`, `add64`, `mul64`, `narrow`: the operations on words of fixed width;
* `plus`, `minus`, `times`: those on words up to a largest value;
* `Yields`: a computation that is exact, with what holds of its value, and one rule for each
  operation;
* `run_bind_of_run`: sequences of such computations that may stop early.
-/
import Mathlib.Tactic

namespace Checked

/-- A computation; its state is the flag. -/
abbrev CheckedM (α : Type) := StateM Bool α

variable {α β : Type}

/-- A result that is exact if `ok` holds. -/
def note (ok : Bool) (x : α) : CheckedM α := fun exact => (x, exact && ok)

def add32 (x y : UInt32) : CheckedM UInt32 := note (x.toNat + y.toNat < 2 ^ 32) (x + y)

def mul32 (x y : UInt32) : CheckedM UInt32 := note (x.toNat * y.toNat < 2 ^ 32) (x * y)

def add64 (x y : UInt64) : CheckedM UInt64 := note (x.toNat + y.toNat < 2 ^ 64) (x + y)

def mul64 (x y : UInt64) : CheckedM UInt64 := note (x.toNat * y.toNat < 2 ^ 64) (x * y)

/-- A 64-bit value that is stored in 32 bits. -/
def narrow (x : UInt64) : CheckedM UInt32 := note (x.toNat < 2 ^ 32) x.toUInt32

/-! ### Words up to a largest value -/

def plus (top x y : ℕ) : CheckedM ℕ := note (x + y ≤ top) ((x + y) % (top + 1))

def minus (top x y : ℕ) : CheckedM ℕ := note (y ≤ x) ((x + (top + 1) - y) % (top + 1))

def times (top x y : ℕ) : CheckedM ℕ := note (x * y ≤ top) (x * y % (top + 1))

/-- The computation is exact, and its value has the property `P`. -/
def Yields (x : CheckedM α) (P : α → Prop) : Prop := ∃ v, x = pure v ∧ P v

section

variable {x : CheckedM α} {f : α → CheckedM β} {P P' : α → Prop} {Q : β → Prop}

lemma note_of_true {ok : Bool} (h : ok = true) (v : α) : note ok v = pure v := by
  funext exact
  rw [note, h, Bool.and_true]
  rfl

lemma yields_pure {v : α} (h : P v) : Yields (pure v) P := ⟨v, rfl, h⟩

lemma yields_bind (hx : Yields x P) (hf : ∀ v, P v → Yields (f v) Q) : Yields (x >>= f) Q := by
  obtain ⟨v, rfl, hv⟩ := hx
  rw [pure_bind]
  exact hf v hv

lemma Yields.mono (hx : Yields x P) (h : ∀ v, P v → P' v) : Yields x P' := by
  obtain ⟨v, hv, hP⟩ := hx
  exact ⟨v, hv, h v hP⟩

lemma yields_add32 {x y : UInt32} (h : x.toNat + y.toNat < 2 ^ 32) :
    Yields (add32 x y) fun z => z.toNat = x.toNat + y.toNat :=
  ⟨x + y, note_of_true (decide_eq_true h) _,
    (UInt32.toNat_add x y).trans (Nat.mod_eq_of_lt h)⟩

lemma yields_mul32 {x y : UInt32} (h : x.toNat * y.toNat < 2 ^ 32) :
    Yields (mul32 x y) fun z => z.toNat = x.toNat * y.toNat :=
  ⟨x * y, note_of_true (decide_eq_true h) _,
    (UInt32.toNat_mul x y).trans (Nat.mod_eq_of_lt h)⟩

lemma yields_add64 {x y : UInt64} (h : x.toNat + y.toNat < 2 ^ 64) :
    Yields (add64 x y) fun z => z.toNat = x.toNat + y.toNat :=
  ⟨x + y, note_of_true (decide_eq_true h) _,
    (UInt64.toNat_add x y).trans (Nat.mod_eq_of_lt h)⟩

lemma yields_mul64 {x y : UInt64} (h : x.toNat * y.toNat < 2 ^ 64) :
    Yields (mul64 x y) fun z => z.toNat = x.toNat * y.toNat :=
  ⟨x * y, note_of_true (decide_eq_true h) _,
    (UInt64.toNat_mul x y).trans (Nat.mod_eq_of_lt h)⟩

lemma yields_narrow {x : UInt64} (h : x.toNat < 2 ^ 32) :
    Yields (narrow x) fun z => z.toNat = x.toNat :=
  ⟨x.toUInt32, note_of_true (decide_eq_true h) _,
    (UInt64.toNat_toUInt32 x).trans
    (Nat.mod_eq_of_lt h)⟩

lemma plus_eq {top x y : ℕ} (h : x + y ≤ top) : plus top x y = pure (x + y) := by
  rw [plus, note_of_true (decide_eq_true h), Nat.mod_eq_of_lt (Nat.lt_succ_of_le h)]

lemma minus_eq {top x y : ℕ} (hx : x ≤ top) (h : y ≤ x) : minus top x y = pure (x - y) := by
  rw [minus, note_of_true (decide_eq_true h), show x + (top + 1) - y = x - y + (top + 1) by omega,
    Nat.add_mod_right, Nat.mod_eq_of_lt (by omega)]

lemma times_eq {top x y : ℕ} (h : x * y ≤ top) : times top x y = pure (x * y) := by
  rw [times, note_of_true (decide_eq_true h), Nat.mod_eq_of_lt (Nat.lt_succ_of_le h)]

/-- A sequence is exact if its parts are, the second one for the value of the first. -/
lemma run_bind_of_run {x : OptionT CheckedM α} {f : α → OptionT CheckedM β} {o : Option α}
    {g : α → Option β} (hx : x.run = pure o)
    (hf : ∀ v, o = some v → (f v).run = pure (g v)) : (x >>= f).run = pure (o >>= g) := by
  rw [OptionT.run_bind, hx]
  cases o with
  | none => rfl
  | some v => exact hf v rfl

end

end Checked
