
/-
Codecs with checked accesses.

A codec reads its input by index and appends to an output of some capacity. An access outside
of either is not one of its error codes: it stops the run with `outside`, and that a codec stays
within its buffers means that no run of it stops so.

* `readAt`, `append`, `appendAll`, `copyFrom`: the accesses, with one rule each for those that
  stay inside;
* `runOn`: a codec on an output of its own, and `runOn_eq_ok` how its result is read off.
-/
import Latch.Lib.Exec

namespace Codec

open Exec

variable {ε α β : Type}

/-- Why a codec stops: it reports an error, or it has left one of its buffers. -/
inductive Stop (ε : Type) where
  | fail (e : ε)
  | outside
  deriving DecidableEq, Repr

/-- A codec; its state is what it has written. -/
abbrev CodecM (ε β α : Type) := EStateM (Stop ε) (List β) α

/-- Reads one element of the input. -/
def readAt (input : List α) (i : ℕ) : CodecM ε β α :=
  match input[i]? with
  | some x => pure x
  | none => throw .outside

/-- Writes one element behind the others. -/
def append (capacity : ℕ) (x : β) : CodecM ε β Unit := do
  let out ← get
  if out.length < capacity then set (out ++ [x]) else throw .outside

/-- Writes some elements behind the others. -/
def appendAll (capacity : ℕ) : List β → CodecM ε β Unit
  | [] => pure ()
  | x :: l => do
    append capacity x
    appendAll capacity l

/-- Writes `count` elements of the input, from `i` on, behind the others. -/
def copyFrom (input : List β) (capacity : ℕ) : ℕ → ℕ → CodecM ε β Unit
  | 0, _ => pure ()
  | count + 1, i => do
    let x ← readAt input i
    append capacity x
    copyFrom input capacity count (i + 1)

/-- Runs a codec on an empty output: what it has written when it returns. -/
def runOn (x : CodecM ε β Unit) : Except (Stop ε) (List β) :=
  match x [] with
  | .ok _ out => .ok out
  | .error e _ => .error e

section

variable {input : List α} {out l : List β} {capacity i : ℕ} {H : Stop ε → List β → Prop}

variable {Q : Unit → List β → Prop}

lemma sat_readAt {Q : α → List β → Prop} (h : i < input.length) :
    Sat (readAt input i : CodecM ε β α) out Q H ↔ Q (input.get ⟨i, h⟩) out := by
  rw [readAt, List.getElem?_eq_getElem h]
  exact sat_pure _

lemma sat_append {x : β} (h : out.length < capacity) :
    Sat (append capacity x : CodecM ε β Unit) out Q H ↔ Q () (out ++ [x]) := by
  rw [append, sat_bind, sat_get, if_pos h]
  exact sat_set _

lemma sat_appendAll (h : out.length + l.length ≤ capacity) :
    Sat (appendAll capacity l : CodecM ε β Unit) out Q H ↔ Q () (out ++ l) := by
  induction l generalizing out with
  | nil => rw [appendAll, sat_pure, List.append_nil]
  | cons x l ih =>
      rw [List.length_cons] at h
      rw [appendAll, sat_bind, sat_append (by omega), ih (by simp; omega)]
      simp

lemma sat_copyFrom {input : List β} {count : ℕ}
    (hin : i + count ≤ input.length) (hout : out.length + count ≤ capacity) :
    Sat (copyFrom input capacity count i : CodecM ε β Unit) out Q H ↔
      Q () (out ++ (input.drop i).take count) := by
  induction count generalizing i out with
  | zero => rw [copyFrom, sat_pure, List.take_zero, List.append_nil]
  | succ count ih =>
      have hi : i < input.length := by omega
      rw [copyFrom, sat_bind, sat_readAt hi, sat_bind, sat_append (by omega),
        ih (by omega) (by simp; omega), List.drop_eq_getElem_cons hi, List.take_succ_cons]
      simp

/-- A run that returns, by its specification. -/
lemma runOn_eq_ok {x : CodecM ε β Unit} (h : Sat x [] (fun _ out' => out' = out) fun _ _ => False) :
    runOn x = .ok out := by
  obtain ⟨_, out', hx, rfl⟩ := h.exists_ok
  rw [runOn, hx]

/-- A run that stops, by its specification. -/
lemma runOn_eq_error {x : CodecM ε β Unit} {e : Stop ε}
    (h : Sat x [] (fun _ _ => False) fun e' _ => e' = e) : runOn x = .error e := by
  rw [runOn, eq_error_of_sat h]

end

end Codec
