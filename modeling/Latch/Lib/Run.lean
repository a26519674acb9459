
/-
Runs of a machine that is driven by a list of calls.

A machine is a function that gives the state after a call. `after` is the state after a
list of calls, and `Meets C` says that every call of a list meets a condition on the state
before it. What one call keeps under that condition, the whole run keeps: `after_inv` for
an invariant, `after_rel` for a relation between the first state and the last. Where the
condition is also necessary, `forall_after_iff` says so of the run.
-/
import Mathlib.Tactic

namespace Run

variable {σ ω : Type} (step : ω → σ → σ)

/-- The state after a list of calls. -/
def after (ops : List ω) (s : σ) : σ := ops.foldl (fun s op => step op s) s

/-- Every call of a list meets a condition on the state before it. -/
def Meets (C : ω → σ → Prop) : List ω → σ → Prop
  | [], _ => True
  | op :: ops, s => C op s ∧ Meets C ops (step op s)

instance decidableMeets (C : ω → σ → Prop) [∀ op s, Decidable (C op s)] :
    (ops : List ω) → (s : σ) → Decidable (Meets step C ops s)
  | [], _ => inferInstanceAs (Decidable True)
  | op :: ops, s =>
    have := decidableMeets C ops (step op s)
    inferInstanceAs (Decidable (C op s ∧ Meets step C ops (step op s)))

variable {step} {C : ω → σ → Prop}

variable {s : σ} {ops pre post : List ω}

@[simp] lemma after_nil (s : σ) : after step [] s = s := rfl

@[simp] lemma after_cons (op : ω) (ops : List ω) (s : σ) :
    after step (op :: ops) s = after step ops (step op s) := rfl

lemma after_append (pre post : List ω) (s : σ) :
    after step (pre ++ post) s = after step post (after step pre s) := by
  simp [after]

lemma meets_append :
    Meets step C (pre ++ post) s ↔ Meets step C pre s ∧ Meets step C post (after step pre s) := by
  induction pre generalizing s with
  | nil => simp [Meets]
  | cons op pre ih => rw [List.cons_append, Meets, Meets, ih, after_cons, and_assoc]

lemma meets_of_forall (h : ∀ op s, C op s) (ops : List ω) (s : σ) : Meets step C ops s := by
  induction ops generalizing s with
  | nil => trivial
  | cons op ops ih => exact ⟨h op s, ih _⟩

/-- What every call keeps under the condition holds after the run. -/
theorem after_inv {I : σ → Prop} (hstep : ∀ op s, C op s → I s → I (step op s)) {ops : List ω}
    {s : σ} (hm : Meets step C ops s) (hi : I s) : I (after step ops s) := by
  induction ops generalizing s with
  | nil => exact hi
  | cons op ops ih => exact ih hm.2 (hstep op s hm.1 hi)

/-- A reflexive and transitive relation that every call keeps relates the first state of a
run to the last. -/
theorem after_rel {R : σ → σ → Prop} (hrefl : ∀ s, R s s)
    (htrans : ∀ s₁ s₂ s₃, R s₁ s₂ → R s₂ s₃ → R s₁ s₃) (hstep : ∀ op s, C op s → R s (step op s)) (hm : Meets step C ops s) : R s (after step ops s) := by
  induction ops generalizing s with
  | nil => exact hrefl s
  | cons op ops ih => exact htrans _ _ _ (hstep op s hm.1) (ih hm.2)

/-- Where the condition decides what a call does to an invariant, it decides whether the
invariant holds all along a run. -/
theorem forall_after_iff {I J : σ → Prop} (hj : ∀ op s, J s → J (step op s))
    (hstep : ∀ op s, J s → I s → (I (step op s) ↔ C op s)) (hjs : J s)
    (his : I s) : (∀ n, I (after step (ops.take n) s)) ↔ Meets step C ops s := by
  induction ops generalizing s with
  | nil => simpa [Meets] using his
  | cons op ops ih =>
      constructor
      · intro h
        have hi : I (step op s) := h 1
        exact ⟨(hstep op s hjs his).mp hi, (ih (hj op s hjs) hi).mp fun n => h (n + 1)⟩
      · rintro ⟨hc, hm⟩ n
        cases n with
        | zero => exact his
        | succ n => exact (ih (hj op s hjs) ((hstep op s hjs his).mpr hc)).mpr hm n

/-- A call of a list with one more call is the new one or one from before. -/
lemma snoc_eq_append_cons {op op' : ω}
    (h : ops ++ [op] = pre ++ op' :: post) :
    pre = ops ∧ op' = op ∨ ∃ post', ops = pre ++ op' :: post' := by
  obtain rfl | ⟨post', op'', rfl⟩ := post.eq_nil_or_concat
  · obtain ⟨rfl, h'⟩ := List.append_inj' h rfl
    exact .inl ⟨rfl, (List.head_eq_of_cons_eq h').symm⟩
  · rw [List.concat_eq_append, ← List.cons_append, ← List.append_assoc] at h
    exact .inr ⟨post', (List.append_inj' h rfl).1⟩

end Run
