
/-
Processes: computations that interact with their environment.

A process asks for one effect after the other and goes on with the answers, so that other
processes may run in between. Three ways to speak about it are given here:

* `trace` and `result` run a process against an environment that answers each effect;
* `Runs` are all its runs, with the answers that it got;
* `Follows` says that a process keeps to a protocol, an automaton whose state changes with
  the effects and their answers. It is taken apart along `bind` (`follows_bind`), as a
  Hoare triple is.
-/
import Mathlib.Tactic

namespace Process

/-- A computation with effects `E`, whose answers are of the types `A`. -/
inductive Proc (E : Type) (A : E → Type) (α : Type) where
  | done (a : α)
  | ask (e : E) (k : A e → Proc E A α)

variable {E : Type} {A : E → Type} {α β σ : Type}

variable (env : (e : E) → A e) (p : Proc E A α)

/-- Goes on with `f` where `p` is done. -/
def Proc.bind (p : Proc E A α) (f : α → Proc E A β) : Proc E A β :=
  match p with
  | .done a => f a
  | .ask e k => .ask e fun a => (k a).bind f

instance : Monad (Proc E A) where
  pure := .done
  bind := Proc.bind

/-- Asks for one effect. -/
def perform (e : E) : Proc E A (A e) := .ask e .done

/-! ### Runs against an environment -/

/-- The effects of a process, in their order. -/
def Proc.trace (env : (e : E) → A e) : Proc E A α → List E
  | .done _ => []
  | .ask e k => e :: (k (env e)).trace env

/-- What a process returns. -/
def Proc.result (env : (e : E) → A e) : Proc E A α → α
  | .done a => a
  | .ask e k => (k (env e)).result env

@[simp] lemma result_perform (e : E) : (perform e).result env = env e := rfl

@[simp] lemma trace_bind (f : α → Proc E A β) :
    (p >>= f).trace env = p.trace env ++ (f (p.result env)).trace env := by
  induction p with
  | done a => rfl
  | ask e k ih =>
      change e :: (k (env e) >>= f).trace env = _
      rw [ih]
      rfl

@[simp] lemma result_bind (f : α → Proc E A β) :
    (p >>= f).result env = (f (p.result env)).result env := by
  induction p with
  | done a => rfl
  | ask e k ih => exact ih (env e)

/-! ### All runs -/

/-- The process can get the answers of a list of effects, in this order, and then returns `r`. The
same effect may get different answers. -/
def Runs : Proc E A α → List (Σ e, A e) → α → Prop
  | .done a, tr, r => tr = [] ∧ r = a
  | .ask e k, tr, r => ∃ a tr', tr = ⟨e, a⟩ :: tr' ∧ Runs (k a) tr' r

lemma runs_perform {e : E} {tr : List (Σ e, A e)} {r : A e} :
    Runs (perform e) tr r ↔ tr = [⟨e, r⟩] := by
  constructor
  · rintro ⟨a, tr', rfl, rfl, rfl⟩
    rfl
  · rintro rfl
    exact ⟨r, [], rfl, rfl, rfl⟩

lemma runs_bind {p : Proc E A α} {f : α → Proc E A β} {tr : List (Σ e, A e)} {r : β} :
    Runs (p >>= f) tr r ↔ ∃ tr₁ a tr₂, tr = tr₁ ++ tr₂ ∧ Runs p tr₁ a ∧ Runs (f a) tr₂ r := by
  induction p generalizing tr with
  | done a =>
      constructor
      · exact fun h => ⟨[], a, tr, rfl, ⟨rfl, rfl⟩, h⟩
      · rintro ⟨tr₁, a', tr₂, rfl, ⟨rfl, rfl⟩, h⟩
        exact h
  | ask e k ih =>
      constructor
      · rintro ⟨x, tr', rfl, h⟩
        obtain ⟨tr₁, a, tr₂, rfl, h₁, h₂⟩ := (ih x).mp h
        exact ⟨⟨e, x⟩ :: tr₁, a, tr₂, rfl, ⟨x, tr₁, rfl, h₁⟩, h₂⟩
      · rintro ⟨tr₁, a, tr₂, rfl, ⟨x, tr', rfl, h₁⟩, h₂⟩
        exact ⟨x, tr' ++ tr₂, rfl, (ih x).mpr ⟨tr', a, tr₂, rfl, h₁, h₂⟩⟩

lemma runs_ite {c : Prop} [Decidable c] {p q : Proc E A α} {tr : List (Σ e, A e)} {r : α} :
    Runs (if c then p else q) tr r ↔ (c → Runs p tr r) ∧ (¬ c → Runs q tr r) := by
  by_cases h : c <;> simp [h]

/-- Against an environment there is a run, with its answers. -/
lemma exists_runs :
    ∃ tr, Runs p tr (p.result env) ∧ ∀ x ∈ tr, x.2 = env x.1 := by
  induction p with
  | done a => exact ⟨[], ⟨rfl, rfl⟩, fun _ h => by cases h⟩
  | ask e k ih =>
      obtain ⟨tr, h, henv⟩ := ih (env e)
      refine ⟨⟨e, env e⟩ :: tr, ⟨env e, tr, rfl, h⟩, fun x hx => ?_⟩
      rcases List.mem_cons.mp hx with rfl | hx
      · rfl
      · exact henv x hx

/-! ### Protocols -/

/-- A protocol: which effects are allowed in a state, and where their answers lead. -/
structure Protocol (E : Type) (A : E → Type) (σ : Type) where
  allows : σ → E → Prop
  next : σ → (e : E) → A e → σ

variable {P : Protocol E A σ} {s : σ} {Q : σ → α → Prop}

/-- From the state `s` on, the process asks for allowed effects only, and it ends with a
state and a result that satisfy `Q`. -/
def Follows (P : Protocol E A σ) (Q : σ → α → Prop) : σ → Proc E A α → Prop
  | s, .done a => Q s a
  | s, .ask e k => P.allows s e ∧ ∀ a, Follows P Q (P.next s e a) (k a)

lemma follows_pure {a : α} : Follows P Q s (pure a) ↔ Q s a := Iff.rfl

lemma follows_ask {e : E} {k : A e → Proc E A α} :
    Follows P Q s (.ask e k) ↔ P.allows s e ∧ ∀ a, Follows P Q (P.next s e a) (k a) := Iff.rfl

theorem follows_bind {p : Proc E A α} {f : α → Proc E A β} {Q : σ → β → Prop} :
    Follows P Q s (p >>= f) ↔ Follows P (fun s' a => Follows P Q s' (f a)) s p := by
  induction p generalizing s with
  | done a => rfl
  | ask e k ih => exact and_congr_right fun _ => forall_congr' fun a => ih a

lemma Follows.mono {Q' : σ → α → Prop} {p : Proc E A α} (h : Follows P Q s p)
    (hQ : ∀ s a, Q s a → Q' s a) : Follows P Q' s p := by
  induction p generalizing s with
  | done a => exact hQ s a h
  | ask e k ih => exact ⟨h.1, fun a => ih a (h.2 a)⟩

lemma follows_ite {c : Prop} [Decidable c] {p q : Proc E A α} :
    Follows P Q s (if c then p else q) ↔ (c → Follows P Q s p) ∧ (¬ c → Follows P Q s q) := by
  by_cases h : c <;> simp [h]

end Process
