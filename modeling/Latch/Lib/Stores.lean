
/-
Stores: the single writes to memory that a function makes, one after the other.

A function that a reset may interrupt between any two of its writes is given by the list of
them. `upTo stores k` is the state behind the first `k`.

* `upTo_inv`, `upTo_eq`: what every store keeps, and what none of them touches;
* `upTo_append`: a list of stores cut in its first or in its second part;
* `upTo_map`: stores to one part of a state;
* `all_record`, `upTo_open`: a record that its first store opens and its last one commits;
* `upTo_bytes`: a copy byte by byte, cut after `k` bytes;
* `all_cells`: a copy cell by cell.
-/
import Latch.Lib.Medium

namespace Stores

variable {σ τ : Type}

variable {stores : List (σ → σ)}

/-- The state behind the first `k` of some stores. -/
def upTo (stores : List (σ → σ)) (k : ℕ) (s : σ) : σ := (stores.take k).foldl (fun s f => f s) s

/-- The state behind all stores. -/
def all (stores : List (σ → σ)) (s : σ) : σ := stores.foldl (fun s f => f s) s

@[simp] lemma upTo_zero (stores : List (σ → σ)) (s : σ) : upTo stores 0 s = s := by
  simp [upTo]

@[simp] lemma upTo_nil (k : ℕ) (s : σ) : upTo [] k s = s := by
  simp [upTo]

@[simp] lemma upTo_cons_succ (f : σ → σ) (stores : List (σ → σ)) (k : ℕ) (s : σ) :
    upTo (f :: stores) (k + 1) s = upTo stores k (f s) := by
  simp [upTo]

lemma all_cons (f : σ → σ) (stores : List (σ → σ)) (s : σ) :
    all (f :: stores) s = all stores (f s) := rfl

lemma upTo_of_length_le {k : ℕ} (h : stores.length ≤ k) (s : σ) :
    upTo stores k s = all stores s := by
  rw [upTo, all, List.take_of_length_le h]

lemma all_append (stores stores' : List (σ → σ)) (s : σ) :
    all (stores ++ stores') s = all stores' (all stores s) := List.foldl_append ..

/-- A cut in the first part, or in the second. -/
lemma upTo_append (stores stores' : List (σ → σ)) (k : ℕ) (s : σ) :
    upTo (stores ++ stores') k s =
      if k ≤ stores.length then upTo stores k s
      else upTo stores' (k - stores.length) (all stores s) := by
  unfold upTo all
  split
  · rename_i h
    rw [List.take_append_of_le_length h]
  · rename_i h
    rw [List.take_append, List.foldl_append, List.take_of_length_le (by omega)]

/-- What every store keeps. -/
lemma upTo_inv {P : σ → Prop} (h : ∀ f ∈ stores, ∀ s, P s → P (f s))
    (k : ℕ) {s : σ} (hs : P s) : P (upTo stores k s) := by
  induction stores generalizing k s with
  | nil => simpa using hs
  | cons f stores ih =>
      cases k with
      | zero => simpa using hs
      | succ k =>
          rw [upTo_cons_succ]
          exact ih (fun g hg => h g (List.mem_cons_of_mem _ hg)) k (h f List.mem_cons_self s hs)

/-- What no store touches. -/
lemma upTo_eq {g : σ → τ} (h : ∀ f ∈ stores, ∀ s, g (f s) = g s) (k : ℕ)
    (s : σ) : g (upTo stores k s) = g s :=
  upTo_inv (P := fun s' => g s' = g s) (fun f hf s' hs' => (h f hf s').trans hs') k rfl

/-- Stores to one part of the state. -/
lemma upTo_map (get : σ → τ) (put : σ → τ → σ) (hget : ∀ s t, get (put s t) = t)
    (hput : ∀ s t t', put (put s t) t' = put s t') (hself : ∀ s, put s (get s) = s)
    (stores : List (τ → τ)) (k : ℕ) (s : σ) :
    upTo (stores.map fun f s => put s (f (get s))) k s = put s (upTo stores k (get s)) := by
  induction stores generalizing k s with
  | nil => simp [hself]
  | cons f stores ih =>
      cases k with
      | zero => simp [hself]
      | succ k => rw [List.map_cons, upTo_cons_succ, ih, upTo_cons_succ, hget, hput]

lemma all_map (get : σ → τ) (put : σ → τ → σ) (hget : ∀ s t, get (put s t) = t)
    (hput : ∀ s t t', put (put s t) t' = put s t') (hself : ∀ s, put s (get s) = s)
    (stores : List (τ → τ)) (s : σ) :
    all (stores.map fun f s => put s (f (get s))) s = put s (all stores (get s)) := by
  rw [← upTo_of_length_le le_rfl, upTo_map get put hget hput hself, List.length_map,
    upTo_of_length_le le_rfl]

/-- A record in one part of the state: opened, filled and committed. -/
lemma all_record (get : σ → τ) (put : σ → τ → σ) (hget : ∀ s t, get (put s t) = t)
    (hput : ∀ s t t', put (put s t) t' = put s t') (hself : ∀ s, put s (get s) = s)
    (first : τ → τ) (fill : List (τ → τ)) (commit : σ → σ) (s : σ) :
    all ((fun s => put s (first (get s))) :: (fill.map fun f s => put s (f (get s))) ++ [commit]) s
      = commit (put s (all fill (first (get s)))) := by
  have hfill := all_map get put hget hput hself fill (put s (first (get s)))
  rw [hget, hput] at hfill
  rw [all_append]
  exact congrArg commit hfill

/-- What the first store establishes and the others keep holds up to the commit. -/
lemma upTo_open {P : σ → Prop} {first : σ → σ} {fill : List (σ → σ)} {commit : σ → σ}
    (hfirst : ∀ s, P (first s)) (hkeep : ∀ f ∈ fill, ∀ s, P s → P (f s)) {k : ℕ} (hk : 0 < k)
    (hk' : k ≤ fill.length + 1) (s : σ) : P (upTo (first :: fill ++ [commit]) k s) := by
  obtain ⟨k, rfl⟩ := Nat.exists_eq_add_of_lt hk
  rw [upTo_append, if_pos (by simpa using hk'), Nat.zero_add, upTo_cons_succ]
  exact upTo_inv hkeep k (hfirst s)

/-! ### Copies byte by byte -/

/-- The stores of a copy of `data` to the cells from `off` on. -/
def bytes (off : ℕ) : List τ → List ((ℕ → τ) → ℕ → τ)
  | [] => []
  | v :: data => (fun m => Function.update m off v) :: bytes (off + 1) data

@[simp] lemma bytes_length (off : ℕ) (data : List τ) : (bytes off data).length = data.length := by
  induction data generalizing off with
  | nil => rfl
  | cons v data ih => simp [bytes, ih]

/-- A copy that was cut has written a part of the data. -/
lemma upTo_bytes (off : ℕ) (data : List τ) (k : ℕ) (m : ℕ → τ) :
    upTo (bytes off data) k m = Medium.write m off (data.take k) := by
  induction data generalizing off k m with
  | nil => simp [bytes, Medium.write_nil]
  | cons v data ih =>
      cases k with
      | zero => simp [Medium.write_nil]
      | succ k =>
          have hone : Function.update m off v = Medium.write m off [v] := by
            funext a
            unfold Medium.write
            by_cases ha : a = off
            · simp [ha]
            · rw [Function.update_of_ne ha]
              split
              · rw [List.getElem?_eq_none (by simp; omega)]
                rfl
              · rfl
          rw [bytes, upTo_cons_succ, ih, hone]
          exact Medium.write_write_append m off [v] (data.take k)

/-! ### Copies cell by cell -/

/-- The stores of the values `v` to some cells. -/
def cells {ι : Type} [DecidableEq ι] (l : List ι) (v : ι → τ) : List ((ι → τ) → ι → τ) :=
  l.map fun i g => Function.update g i (v i)

lemma all_cells {ι : Type} [DecidableEq ι] (l : List ι) (v g : ι → τ) :
    all (cells l v) g = fun i => if i ∈ l then v i else g i := by
  induction l generalizing g with
  | nil => simp [cells, all]
  | cons j l ih =>
      funext i
      rw [cells, List.map_cons, all_cons]
      refine (congrFun (ih _) i).trans ?_
      by_cases hj : i = j
      · simp [hj]
      · simp [hj]

end Stores
