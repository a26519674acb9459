
/-
Computations that may stop early, and rules for reasoning about them.

A computation is an `EStateM ε σ`: it either returns a value or stops with a
reason, and the state it had reached survives in both cases. Nothing is rolled
back, which is what a device that loses power in the middle of a call does.

* `Sat x s Q H`: run from `s`, `x` returns with `Q` or stops with `H`. The
  rules `sat_pure`, `sat_bind` and so on are equivalences, so a sequence of
  steps is taken apart by rewriting.
* `Keeps R x`: whatever the outcome, the final state is `R`-related to the
  first. For a reflexive and transitive `R` this is closed under sequencing,
  branching and folding, which is how frame conditions are proved.
* `Halt`: the reason to stop of a device, an error code or a cut of the power;
  `attempt` turns an error into a value and lets a cut through.
-/
import Mathlib.Tactic

namespace Exec

variable {ε σ τ α β γ : Type}

/-- The outcome of `x` run from `s`: `Q` of the value and state it returns with,
or `H` of the reason and state it stops with. -/
def Sat (x : EStateM ε σ α) (s : σ) (Q : α → σ → Prop) (H : ε → σ → Prop) : Prop :=
  match x s with
  | .ok a s' => Q a s'
  | .error e s' => H e s'

/-- The state that `x` leaves, by whichever exit. -/
def leaves (x : EStateM ε σ α) (s : σ) : σ :=
  match x s with
  | .ok _ s' => s'
  | .error _ s' => s'

/-- If `x` returns from `s`, it does so with `Q`. -/
def Returns (x : EStateM ε σ α) (s : σ) (Q : α → σ → Prop) : Prop := Sat x s Q fun _ _ => True

instance (x : EStateM ε σ α) (s : σ) (Q : α → σ → Prop) (H : ε → σ → Prop)
    [∀ a s', Decidable (Q a s')] [∀ e s', Decidable (H e s')] : Decidable (Sat x s Q H) :=
  match hx : x s with
  | .ok a s' => decidable_of_iff (Q a s') (by rw [Sat, hx])
  | .error e s' => decidable_of_iff (H e s') (by rw [Sat, hx])

instance (x : EStateM ε σ α) (s : σ) (Q : α → σ → Prop) [∀ a s', Decidable (Q a s')] :
    Decidable (Returns x s Q) :=
  inferInstanceAs (Decidable (Sat x s Q fun _ _ => True))

section

variable {s : σ} {Q : α → σ → Prop} {H : ε → σ → Prop}

variable {x : EStateM ε σ α} {s' : σ} {e : ε} {f : β → EStateM ε σ α} {a : α} {H' : ε → σ → Prop}

/-- An outcome is weakened at both exits; where nothing is given for the early exit, its
condition stays, or the new one is trivial, or there is no such exit. -/
lemma Sat.mono {Q' : α → σ → Prop}
    (h : Sat x s Q H) (hQ : ∀ a s', Q a s' → Q' a s')
    (hH : ∀ e s', H e s' → H' e s' := by
      first | exact fun _ _ h => h | exact fun _ _ _ => trivial | exact fun _ _ h => h.elim) :
    Sat x s Q' H' := by
  unfold Sat at h ⊢
  split at h
  · exact hQ _ _ h
  · exact hH _ _ h

/-- Two outcomes of one run hold together. -/
lemma Sat.and {Q' : α → σ → Prop}
    (h : Sat x s Q H) (h' : Sat x s Q' H') :
    Sat x s (fun a s' => Q a s' ∧ Q' a s') (fun e s' => H e s' ∧ H' e s') := by
  unfold Sat at h h' ⊢
  cases hx : x s with
  | ok a s' => rw [hx] at h h'; exact ⟨h, h'⟩
  | error e s' => rw [hx] at h h'; exact ⟨h, h'⟩

lemma sat_of_ok (h : Sat x s Q H) (hx : x s = .ok a s') :
    Q a s' := by
  unfold Sat at h
  rwa [hx] at h

lemma sat_of_error (h : Sat x s Q H)
    (hx : x s = .error e s') : H e s' := by
  unfold Sat at h
  rwa [hx] at h

/-- The outcome of a computation is its run. -/
lemma sat_run (x : EStateM ε σ α) (s : σ) :
    Sat x s (fun a s' => x s = .ok a s') fun e s' => x s = .error e s' := by
  unfold Sat
  cases x s <;> rfl

/-- What holds at both exits holds of the state that is left. -/
lemma Sat.leaves {P : σ → Prop}
    (h : Sat x s (fun _ s' => P s') fun _ s' => P s') : P (leaves x s) := by
  unfold Sat at h
  unfold Exec.leaves
  cases hx : x s with
  | ok a s' => rw [hx] at h; exact h
  | error e s' => rw [hx] at h; exact h

/-- What cannot stop returns. -/
lemma Sat.exists_ok (h : Sat x s Q fun _ _ => False) :
    ∃ a s', x s = .ok a s' ∧ Q a s' := by
  unfold Sat at h
  cases hx : x s with
  | ok a s' => rw [hx] at h; exact ⟨a, s', rfl, h⟩
  | error e s' => rw [hx] at h; exact h.elim

/-- A run that can only stop for one reason. -/
lemma eq_error_of_sat
    (h : Sat x s (fun _ _ => False) fun e' _ => e' = e) : x s = .error e (Exec.leaves x s) := by
  unfold Sat at h
  unfold Exec.leaves
  cases hx : x s with
  | ok a s' => rw [hx] at h; exact h.elim
  | error e' s' => rw [hx] at h; exact congrArg (EStateM.Result.error · s') h

/-- `x` returns when it is run from `s`. -/
def Completes (x : EStateM ε σ α) (s : σ) : Prop := Sat x s (fun _ _ => True) fun _ _ => False

instance (x : EStateM ε σ α) (s : σ) : Decidable (Completes x s) :=
  inferInstanceAs (Decidable (Sat x s (fun _ _ => True) fun _ _ => False))

/-- What completes satisfies the normal exit of its specification. -/
lemma Completes.sat (h : Completes x s) (hx : Sat x s Q H) :
    Sat x s Q fun _ _ => False :=
  (h.and hx).mono (fun _ _ h => h.2) (fun _ _ h => h.1)

/-- The state that is left by what completes. -/
lemma Completes.leaves (h : Completes x s) (hx : Sat x s Q H) :
    ∃ a, Q a (leaves x s) := by
  unfold Completes Sat at h
  unfold Sat at hx
  unfold Exec.leaves
  cases hr : x s with
  | ok a s' => rw [hr] at hx; exact ⟨a, hx⟩
  | error e s' => rw [hr] at h; exact h.elim

/-- The state that is left, by the exit that is taken. -/
lemma Sat.leaves_cases (h : Sat x s Q H) :
    Completes x s ∧ (∃ a, Q a (Exec.leaves x s)) ∨
      ¬ Completes x s ∧ ∃ e, H e (Exec.leaves x s) := by
  unfold Completes
  unfold Sat at h ⊢
  unfold Exec.leaves
  cases hr : x s with
  | ok a s' => rw [hr] at h; exact .inl ⟨trivial, a, h⟩
  | error e s' => rw [hr] at h; exact .inr ⟨id, e, h⟩

lemma Sat.completes (h : Sat x s Q fun _ _ => False) : Completes x s :=
  h.mono fun _ _ _ => trivial

lemma completes_of_ok (h : x s = .ok a s') :
    Completes x s := by
  unfold Completes Sat
  rw [h]
  trivial

lemma sat_of_eq_error (h : x s = .error e s') (hH : H e s') :
    Sat x s Q H := by
  unfold Sat
  rw [h]
  exact hH

/-- Two computations with the same result. -/
lemma Sat.of_eq {x y : EStateM ε σ α} {s' : σ} (hx : x s = y s') (hy : Sat y s' Q H) :
    Sat x s Q H := by
  unfold Sat at hy ⊢
  rwa [hx]

lemma bind_of_ok {x : EStateM ε σ β} {b : β}
    (h : x s = .ok b s') : (x >>= f) s = f b s' := by
  change EStateM.bind x f s = _
  rw [EStateM.bind, h]

lemma exists_of_bind_ok {x : EStateM ε σ β}
    (h : (x >>= f) s = .ok a s') : ∃ b s₁, x s = .ok b s₁ ∧ f b s₁ = .ok a s' := by
  change EStateM.bind x f s = _ at h
  cases hx : x s with
  | ok b s₁ =>
      rw [EStateM.bind, hx] at h
      exact ⟨b, s₁, rfl, h⟩
  | error e s₁ =>
      rw [EStateM.bind, hx] at h
      cases h

lemma bind_of_error {x : EStateM ε σ β}
    (h : x s = .error e s') : (x >>= f) s = .error e s' := by
  change EStateM.bind x f s = _
  rw [EStateM.bind, h]

@[simp] lemma sat_pure (a : α) : Sat (pure a : EStateM ε σ α) s Q H ↔ Q a s := Iff.rfl

@[simp] lemma sat_throw (e : ε) : Sat (throw e : EStateM ε σ α) s Q H ↔ H e s := Iff.rfl

lemma Sat.pure (h : Q a s) : Sat (pure a : EStateM ε σ α) s Q H := h

lemma Sat.throw (h : H e s) : Sat (throw e : EStateM ε σ α) s Q H := h

@[simp] lemma sat_bind (x : EStateM ε σ β) (f : β → EStateM ε σ α) :
    Sat (x >>= f) s Q H ↔ Sat x s (fun b s' => Sat (f b) s' Q H) H := by
  change Sat (EStateM.bind x f) s Q H ↔ _
  unfold Sat EStateM.bind
  cases x s <;> rfl

/-- A sequence is taken apart by a specification of its first part. -/
lemma Sat.bind {x : EStateM ε σ β} {Q' : β → σ → Prop} (hx : Sat x s Q' H') (hf : ∀ b s', Q' b s' → Sat (f b) s' Q H)
    (hH : ∀ e s', H' e s' → H e s' := by
      first | exact fun _ _ h => h | exact fun _ _ _ => trivial | exact fun _ _ h => h.elim) :
    Sat (x >>= f) s Q H :=
  (sat_bind x f).mpr (hx.mono hf hH)

@[simp] lemma sat_map (g : β → α) (x : EStateM ε σ β) :
    Sat (g <$> x) s Q H ↔ Sat x s (fun b s' => Q (g b) s') H := by
  change Sat (EStateM.map g x) s Q H ↔ _
  unfold Sat EStateM.map
  cases x s <;> rfl

@[simp] lemma sat_get {Q : σ → σ → Prop} : Sat (get : EStateM ε σ σ) s Q H ↔ Q s s := Iff.rfl

@[simp] lemma sat_set {Q : PUnit → σ → Prop} (s' : σ) :
    Sat (set s' : EStateM ε σ PUnit) s Q H ↔ Q ⟨⟩ s' := Iff.rfl

@[simp] lemma sat_modify {Q : PUnit → σ → Prop} (f : σ → σ) :
    Sat (modify f : EStateM ε σ PUnit) s Q H ↔ Q ⟨⟩ (f s) := Iff.rfl

/-- A sequence completes if its second part does wherever the first may return. -/
lemma Completes.bind {x : EStateM ε σ β} {Q : β → σ → Prop}
    (h : Completes x s) (hx : Sat x s Q H) (hf : ∀ b s', Q b s' → Completes (f b) s') :
    Completes (x >>= f) s :=
  (sat_bind x f).mpr ((h.sat hx).mono fun b s' hb => hf b s' hb)

lemma sat_ite {c : Prop} [Decidable c] {y : EStateM ε σ α} :
    Sat (if c then x else y) s Q H ↔ (c → Sat x s Q H) ∧ (¬ c → Sat y s Q H) := by
  by_cases h : c <;> simp [h]

lemma Sat.ite {c : Prop} [Decidable c] {y : EStateM ε σ α} (hx : c → Sat x s Q H)
    (hy : ¬ c → Sat y s Q H) : Sat (if c then x else y) s Q H := sat_ite.mpr ⟨hx, hy⟩

/-- A fold is taken apart along its list: `I` relates the part already folded
over, the accumulator and the state. -/
lemma sat_foldlM {f : β → γ → EStateM ε σ β} {H : ε → σ → Prop} (I : List γ → β → σ → Prop)
    (l : List γ) (b : β) (h0 : I [] b s)
    (hstep : ∀ pre x post b s, l = pre ++ x :: post → I pre b s →
      Sat (f b x) s (fun b' s' => I (pre ++ [x]) b' s') H) :
    Sat (l.foldlM f b) s (fun b' s' => I l b' s') H := by
  -- the invariant is carried over the part still to come
  have key : ∀ (post pre : List γ) (b : β) (s : σ), l = pre ++ post → I pre b s →
      Sat (post.foldlM f b) s (fun b' s' => I l b' s') H := by
    intro post
    induction post with
    | nil =>
        intro pre b s hl hI
        rw [List.append_nil] at hl
        rw [hl]
        exact hI
    | cons x post ih =>
        intro pre b s hl hI
        rw [List.foldlM_cons]
        refine (hstep pre x post b s hl hI).bind fun b' s' hb => ?_
        exact ih (pre ++ [x]) b' s' (by rw [hl]; simp) hb
  exact key l [] b s rfl h0

/-- The element at a split of a range is the length of the part before it. -/
lemma range_eq_append_cons {n x : ℕ} {pre post : List ℕ} (h : List.range n = pre ++ x :: post) :
    x = pre.length ∧ pre.length < n := by
  have hlen : n = pre.length + (post.length + 1) := by
    simpa using congrArg List.length h
  have hget : (List.range n)[pre.length]? = some x := by
    rw [h, List.getElem?_append_right le_rfl, Nat.sub_self]
    rfl
  rw [List.getElem?_range (by omega)] at hget
  exact ⟨(Option.some.inj hget).symm, by omega⟩

end

/-! ### Relations kept by a computation -/

/-- Whatever the outcome, the state reached is `R`-related to the first one. -/
structure Keeps (R : σ → σ → Prop) (x : EStateM ε σ α) : Prop where
  sat : ∀ s, Sat x s (fun _ s' => R s s') (fun _ s' => R s s')

section Keeps

variable {R : σ → σ → Prop}

lemma Keeps.mono {R' : σ → σ → Prop} {x : EStateM ε σ α} (h : Keeps R x)
    (hR : ∀ s s', R s s' → R' s s') : Keeps R' x :=
  ⟨fun s => (h.sat s).mono (fun _ _ => hR _ _) (fun _ _ => hR _ _)⟩

lemma keeps_pure (hr : ∀ s, R s s) (a : α) : Keeps R (pure a : EStateM ε σ α) :=
  ⟨fun s => (sat_pure a).mpr (hr s)⟩

lemma keeps_throw (hr : ∀ s, R s s) (e : ε) : Keeps R (throw e : EStateM ε σ α) :=
  ⟨fun s => (sat_throw e).mpr (hr s)⟩

lemma keeps_get (hr : ∀ s, R s s) : Keeps R (get : EStateM ε σ σ) :=
  ⟨fun s => sat_get.mpr (hr s)⟩

lemma keeps_modify {f : σ → σ} (hf : ∀ s, R s (f s)) :
    Keeps R (modify f : EStateM ε σ PUnit) :=
  ⟨fun s => (sat_modify f).mpr (hf s)⟩

lemma Keeps.bind (ht : ∀ a b c, R a b → R b c → R a c) {x : EStateM ε σ β}
    {f : β → EStateM ε σ α} (hx : Keeps R x) (hf : ∀ b, Keeps R (f b)) : Keeps R (x >>= f) := by
  refine ⟨fun s => ?_⟩
  refine (hx.sat s).bind fun b s' h => ?_
  exact ((hf b).sat s').mono (fun _ _ h' => ht _ _ _ h h') (fun _ _ h' => ht _ _ _ h h')

lemma Keeps.ite {c : Prop} [Decidable c] {x y : EStateM ε σ α} (hx : c → Keeps R x)
    (hy : ¬ c → Keeps R y) : Keeps R (if c then x else y) := by
  split
  · exact hx ‹_›
  · exact hy ‹_›

end Keeps

/-! ### Checks before a result -/

/-- A result behind a check is returned where the check passes. -/
lemma guard_eq_ok {c : Prop} [Decidable c] {e : ε} {x : Except ε α} {a : α} :
    (if c then Except.error e else x) = .ok a ↔ ¬ c ∧ x = .ok a := by
  by_cases h : c <;> simp [h]

/-! ### Errors and power cuts -/

/-- Why a device stops: it reports an error, or its power is cut. -/
inductive Halt (ε : Type) where
  | fail (e : ε)
  | cut
  deriving DecidableEq, Repr

/-- Runs `x` and hands an error to the caller as a value; a cut stays a cut. -/
def attempt (x : EStateM (Halt ε) σ α) : EStateM (Halt ε) σ (Except ε α) := fun s =>
  match x s with
  | .ok a s' => .ok (.ok a) s'
  | .error (.fail e) s' => .ok (.error e) s'
  | .error .cut s' => .error .cut s'

lemma sat_attempt {x : EStateM (Halt ε) σ α} {s : σ} {Q : Except ε α → σ → Prop}
    {H : Halt ε → σ → Prop} :
    Sat (attempt x) s Q H ↔
      Sat x s (fun a s' => Q (.ok a) s') fun e s' =>
        match e with
        | .fail e => Q (.error e) s'
        | .cut => H .cut s' := by
  unfold Sat attempt
  cases x s with
  | ok a s' => rfl
  | error e s' => cases e <;> rfl

lemma Keeps.attempt {R : σ → σ → Prop} {x : EStateM (Halt ε) σ α} (h : Keeps R x) :
    Keeps R (Exec.attempt x) := by
  refine ⟨fun s => ?_⟩
  rw [sat_attempt]
  refine (h.sat s).mono (fun _ _ h => h) (fun e _ h => ?_)
  cases e <;> exact h

/-! ### A computation on a part of the state -/

/-- Runs a computation on the part of a larger state that `get` reads and `put`
writes back. -/
def zoom (get : τ → σ) (put : τ → σ → τ) (x : EStateM ε σ α) : EStateM ε τ α := fun t =>
  match x (get t) with
  | .ok a s' => .ok a (put t s')
  | .error e s' => .error e (put t s')

lemma sat_zoom {get : τ → σ} {put : τ → σ → τ} {x : EStateM ε σ α} {t : τ}
    {Q : α → τ → Prop} {H : ε → τ → Prop} :
    Sat (zoom get put x) t Q H ↔
      Sat x (get t) (fun a s' => Q a (put t s')) (fun e s' => H e (put t s')) := by
  unfold Sat zoom
  cases x (get t) <;> rfl

lemma zoom_eq_ok {get : τ → σ} {put : τ → σ → τ} {x : EStateM ε σ α} {t t' : τ} {a : α}
    (h : zoom get put x t = .ok a t') : ∃ s', x (get t) = .ok a s' ∧ t' = put t s' := by
  unfold zoom at h
  cases hx : x (get t) with
  | ok b s' =>
      rw [hx] at h
      cases h
      exact ⟨s', rfl, rfl⟩
  | error e s' =>
      rw [hx] at h
      cases h

-- the rules above are the interface: no tactic should run a program to compare outcomes
attribute [irreducible] Sat leaves

end Exec
