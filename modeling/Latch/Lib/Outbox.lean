
/-
Outboxes: slots that hold items until they are delivered.

An outbox has a family of slots, each empty or holding a pending item, and the list of
what has been delivered, the last delivery first. `Step` is the contract of an outbox
that loses nothing: an item stays in its slot until what it carries has been delivered.
It is closed under composition, so it holds of a run if it holds of every call.

`items` lists the pending items; filling an empty slot adds exactly the new one
(`items_update`). `Drain` is a sequence of deliveries that takes a first pending item each
time: what it delivers is sorted (`Drain.pairwise`) and is, with what is still pending, a
permutation of what was pending (`Drain.perm`).
-/
import Mathlib.Tactic

namespace Outbox

variable {ε δ : Type}

/-- The slots and the deliveries of an outbox. -/
structure State (ε δ : Type) where
  pending : ℕ → Option ε
  delivered : List δ

/-- From `s` to `s'` no item is lost: it stays in its slot, or what it carries is among the
deliveries that were made. -/
def Step (carries : ε → δ) (s s' : State ε δ) : Prop :=
  ∃ fresh, s'.delivered = fresh ++ s.delivered ∧
    ∀ i x, s.pending i = some x → s'.pending i = some x ∨ carries x ∈ fresh

variable {carries : ε → δ}

variable {n : ℕ} {pending pending' : ℕ → Option ε}

lemma Step.refl (s : State ε δ) : Step carries s s := ⟨[], rfl, fun _ _ h => .inl h⟩

lemma Step.trans {s₁ s₂ s₃ : State ε δ} (h : Step carries s₁ s₂) (h' : Step carries s₂ s₃) :
    Step carries s₁ s₃ := by
  obtain ⟨fresh, hd, hp⟩ := h
  obtain ⟨fresh', hd', hp'⟩ := h'
  refine ⟨fresh' ++ fresh, by rw [hd', hd, List.append_assoc], fun i x hx => ?_⟩
  rcases hp i x hx with h | h
  · exact (hp' i x h).imp id fun h => List.mem_append_left _ h
  · exact .inr (List.mem_append_right _ h)

/-! ### The pending items -/

/-- The pending items of the first `n` slots. -/
def items (n : ℕ) (pending : ℕ → Option ε) : List ε := (List.range n).filterMap pending

lemma items_congr
    (h : ∀ i < n, pending' i = pending i) : items n pending' = items n pending :=
  List.filterMap_congr fun i hi => h i (List.mem_range.mp hi)

/-- A slot that is filled adds its item to the others. -/
lemma items_update {i : ℕ} (hi : i < n) {x : ε}
    (hempty : pending i = none) (hfull : pending' i = some x)
    (hrest : ∀ j < n, j ≠ i → pending' j = pending j) :
    (items n pending').Perm (x :: items n pending) := by
  obtain ⟨k, rfl⟩ : ∃ k, n = i + 1 + k := ⟨n - (i + 1), by omega⟩
  -- the slots before, at and behind `i`
  have hsplit : ∀ p : ℕ → Option ε, items (i + 1 + k) p
      = items i p ++ ((p i).toList ++ (List.range k).filterMap fun j => p (i + 1 + j)) := by
    intro p
    rw [items, items, List.range_add, List.filterMap_append, List.filterMap_map, List.range_succ,
      List.filterMap_append, List.append_assoc]
    cases hp : p i <;> simp [hp]
  have hback : (List.range k).filterMap (fun j => pending' (i + 1 + j))
      = (List.range k).filterMap fun j => pending (i + 1 + j) :=
    List.filterMap_congr fun j hj => by
      have := List.mem_range.mp hj
      exact hrest _ (by omega) (by omega)
  rw [hsplit, hsplit, hempty, hfull, items_congr fun j hj => hrest j (by omega) (by omega), hback]
  exact List.perm_middle

lemma items_length_le (n : ℕ) (pending : ℕ → Option ε) : (items n pending).length ≤ n :=
  (List.length_filterMap_le _ _).trans_eq List.length_range

lemma items_eq_nil_iff :
    items n pending = [] ↔ ∀ i < n, pending i = none := by
  simp [items, List.filterMap_eq_nil_iff]

/-! ### Draining in order -/

/-- A slot is emptied whose item `x` has no pending item before it. -/
def Take (before : ε → ε → Prop) (n : ℕ) (p p' : ℕ → Option ε) (x : ε) : Prop :=
  ∃ i < n, p i = some x ∧ (∀ y ∈ items n p, ¬ before y x) ∧ p' i = none ∧
    ∀ j < n, j ≠ i → p' j = p j

/-- The slots are emptied one by one, the delivered items in the order of the list. -/
inductive Drain (before : ε → ε → Prop) (n : ℕ) :
    (ℕ → Option ε) → List ε → (ℕ → Option ε) → Prop where
  | done (p : ℕ → Option ε) : Drain before n p [] p
  | take {p p' p'' : ℕ → Option ε} {x : ε} {l : List ε} (first : Take before n p p' x)
      (rest : Drain before n p' l p'') : Drain before n p (x :: l) p''

variable {before : ε → ε → Prop} {n : ℕ} {p p' : ℕ → Option ε} {x : ε} {l : List ε}

lemma Take.perm (h : Take before n p p' x) : (items n p).Perm (x :: items n p') := by
  obtain ⟨i, hi, hx, -, hnone, hrest⟩ := h
  exact items_update hi hnone hx fun j hj hne => (hrest j hj hne).symm

/-- What was pending is delivered or still pending. -/
theorem Drain.perm (h : Drain before n p l p') : (items n p).Perm (l ++ items n p') := by
  induction h with
  | done p => exact .refl _
  | take first _ ih => exact first.perm.trans (ih.cons _)

/-- Nothing is delivered behind an item that comes after it. -/
theorem Drain.pairwise (h : Drain before n p l p') : l.Pairwise fun x y => ¬ before y x := by
  induction h with
  | done p => exact .nil
  | @take p p₁ _ x l first rest ih =>
      refine .cons (fun y hy => ?_) ih
      have hmem : y ∈ items n p₁ := rest.perm.mem_iff.mpr (List.mem_append_left _ hy)
      have hp : y ∈ items n p := first.perm.mem_iff.mpr (List.mem_cons_of_mem _ hmem)
      obtain ⟨_, _, _, hfirst, _⟩ := first
      exact hfirst y hp

/-- As many deliveries as there are slots leave nothing. -/
lemma Drain.eq_nil_of_length (h : Drain before n p l p') (hl : n ≤ l.length) :
    items n p' = [] := by
  have hlen := h.perm.length_eq
  have hle := items_length_le n p
  rw [List.length_append] at hlen
  exact List.eq_nil_of_length_eq_zero (by omega)

end Outbox
