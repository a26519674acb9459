/-
A store of versioned slots, written one slot at a time and recovered by generation.

A slot is empty or holds a value with its generation. A session remembers the
active slot and its generation; an update writes the successor generation into
another slot. Such a write may be torn: it leaves the slot as it was, or empty,
or complete, whatever it reports. Recovery scans the slots in order and keeps
the first one that no later one beats.

* `select`: the scan. `select_spec` says what it returns wins against every
  other slot, if there are at most two slots or all generations lie in a window.
* `Step`: what a store can do, with the values that may be recovered recorded in
  a `History`: the last one reported durable, and those attempted later.
* `Inv`, `Step.inv`, `Reach.inv`: the invariant of every run.
* `Inv.selected_mem`: recovery returns a value of the history.
-/
import Latch.Lib.Serial

namespace Versioned

open Serial

variable {α : Type}

/-- The contents of the slots: a generation and a value where a slot is complete. -/
abbrev Slots (α : Type) := ℕ → Option (UInt32 × α)

/-! ### The scan -/

/-- One step of the scan: slot `i` replaces the best one so far if it is newer. -/
def scan (c : Slots α) (best : Option (ℕ × UInt32 × α)) (i : ℕ) : Option (ℕ × UInt32 × α) :=
  match c i with
  | none => best
  | some (g, x) =>
      match best with
      | none => some (i, g, x)
      | some (j, h, y) => if Newer g h then some (i, g, x) else some (j, h, y)

/-- The slot, generation and value that a scan of the first `n` slots selects. -/
def select (n : ℕ) (c : Slots α) : Option (ℕ × UInt32 × α) :=
  (List.range n).foldl (scan c) none

lemma select_succ (n : ℕ) (c : Slots α) : select (n + 1) c = scan c (select n c) n := by
  simp [select, List.range_succ]

variable {n i t j : ℕ} {c c' : Slots α} {x : α} {g : UInt32}

lemma select_eq_none : select n c = none ↔ ∀ i < n, c i = none := by
  induction n with
  | zero => simp [select]
  | succ n ih =>
      rw [select_succ, scan]
      constructor
      · intro h i hi
        cases hc : c n with
        | none =>
            rw [hc] at h
            rcases Nat.lt_succ_iff_lt_or_eq.mp hi with hi | rfl
            · exact ih.mp h i hi
            · exact hc
        | some p =>
            rw [hc] at h
            dsimp only at h
            split at h
            · cases h
            · split at h <;> cases h
      · intro h
        rw [h n (by omega)]
        exact ih.mpr fun i hi => h i (by omega)

/-- The scan returns the contents of a slot. -/
lemma select_mem
    (hs : select n c = some (i, g, x)) : c i = some (g, x) := by
  induction n generalizing i g x with
  | zero => simp [select] at hs
  | succ n ih =>
      rw [select_succ, scan] at hs
      cases hcn : c n with
      | none =>
          rw [hcn] at hs
          exact ih hs
      | some p =>
          rw [hcn] at hs
          dsimp only at hs
          cases hsel : select n c with
          | none =>
              rw [hsel] at hs
              cases hs
              exact hcn
          | some best =>
              rw [hsel] at hs
              dsimp only at hs
              split at hs
              · cases hs
                exact hcn
              · cases hs
                exact ih hsel

lemma select_lt
    (hs : select n c = some (i, g, x)) : i < n := by
  induction n generalizing i g x with
  | zero => simp [select] at hs
  | succ n ih =>
      rw [select_succ, scan] at hs
      split at hs
      · exact (ih hs).trans (Nat.lt_succ_self n)
      · split at hs
        · cases hs
          exact Nat.lt_succ_self n
        · rename_i hsel
          split at hs <;> cases hs
          · exact Nat.lt_succ_self n
          · exact (ih hsel).trans (Nat.lt_succ_self n)

/-- A slot that is newer than every other one is selected, however these compare. -/
lemma select_eq_of_newest {a : ℕ} (ha : a < n)
    (hca : c a = some (g, x))
    (hnew : ∀ i < n, i ≠ a → ∀ h y, c i = some (h, y) → Newer g h) :
    select n c = some (a, g, x) := by
  induction n with
  | zero => omega
  | succ n ih =>
      rw [select_succ, scan]
      by_cases han : a = n
      · subst han
        rw [hca]
        cases hsel : select a c with
        | none => rfl
        | some best =>
            have hlt := select_lt hsel
            exact if_pos (hnew _ (by omega) hlt.ne _ _ (select_mem hsel))
      · rw [ih (by omega) fun i hi => hnew i (by omega)]
        cases hcn : c n with
        | none => rfl
        | some p =>
            have hp := hnew n (Nat.lt_succ_self n) (Ne.symm han) _ _ hcn
            exact if_neg hp.asymm

/-- Slot `i` with generation `g` is preferred to slot `j` with generation `h`. -/
def Wins (i : ℕ) (g : UInt32) (j : ℕ) (h : UInt32) : Prop :=
  Newer g h ∨ ¬ Newer h g ∧ i < j

lemma Wins.asymm {h : UInt32} (w : Wins i g j h) : ¬ Wins j h i g := by
  rintro (w' | ⟨w', hij⟩)
  · rcases w with w | ⟨w, -⟩
    · exact w.asymm w'
    · exact w w'
  · rcases w with w | ⟨-, hji⟩
    · exact w' w
    · omega

/-- All generations lie in one window of fewer than `2 ^ 31` numbers. -/
def Window (n : ℕ) (c : Slots α) : Prop :=
  ∃ base : UInt32, ∀ i < n, ∀ p ∈ c i, offset base p.1 < 2 ^ 31

/-- The generations can be compared: there are at most two, or a window holds them. -/
def Comparable (n : ℕ) (c : Slots α) : Prop := n ≤ 2 ∨ Window n c

lemma Comparable.of_succ (h : Comparable (n + 1) c) : Comparable n c := by
  rcases h with h | ⟨base, h⟩
  · exact .inl (by omega)
  · exact .inr ⟨base, fun i hi => h i (by omega)⟩

/-- A newer slot inherits the wins of the one it beats. -/
lemma Wins.of_newer {k : ℕ} {h l : UInt32} {y z : α}
    (hw : Window n c) (hi : i < n) (hj : j < n) (hk : k < n) (hci : c i = some (g, x))
    (hcj : c j = some (h, y)) (hck : c k = some (l, z)) (hn : Newer l g) (w : Wins i g j h) :
    Wins k l j h := by
  obtain ⟨base, hb⟩ := hw
  have hg : offset base g < 2 ^ 31 := hb i hi (g, x) hci
  have hh : offset base h < 2 ^ 31 := hb j hj (h, y) hcj
  have hl : offset base l < 2 ^ 31 := hb k hk (l, z) hck
  left
  rw [newer_iff_offset_lt hl hg] at hn
  rw [newer_iff_offset_lt hl hh]
  rcases w with w | ⟨w, -⟩
  · rw [newer_iff_offset_lt hg hh] at w
    omega
  · rw [newer_iff_offset_lt hh hg] at w
    omega

/-- The scan selects a slot that wins against every other one. -/
theorem select_spec (hc : Comparable n c)
    (hs : select n c = some (i, g, x)) :
    i < n ∧ c i = some (g, x) ∧ ∀ j < n, j ≠ i → ∀ h y, c j = some (h, y) → Wins i g j h := by
  induction n generalizing i g x with
  | zero => simp [select] at hs
  | succ n ih =>
      rw [select_succ, scan] at hs
      cases hcn : c n with
      | none =>
          rw [hcn] at hs
          obtain ⟨hi, hci, hw⟩ := ih hc.of_succ hs
          refine ⟨by omega, hci, fun j hj hji h y hcj => ?_⟩
          rcases Nat.lt_succ_iff_lt_or_eq.mp hj with hj | rfl
          · exact hw j hj hji h y hcj
          · rw [hcn] at hcj
            cases hcj
      | some p =>
          obtain ⟨l, z⟩ := p
          rw [hcn] at hs
          dsimp only at hs
          cases hsel : select n c with
          | none =>
              rw [hsel] at hs
              cases hs
              refine ⟨by omega, hcn, fun j hj hji h y hcj => ?_⟩
              rw [select_eq_none.mp hsel j (by omega)] at hcj
              cases hcj
          | some best =>
              obtain ⟨i', g', x'⟩ := best
              obtain ⟨hi, hci, hw⟩ := ih hc.of_succ hsel
              rw [hsel] at hs
              dsimp only at hs
              split at hs
              case isTrue hnew =>
                cases hs
                refine ⟨by omega, hcn, fun j hj hji h y hcj => ?_⟩
                by_cases hji' : j = i'
                · subst hji'
                  rw [hci] at hcj
                  cases hcj
                  exact .inl hnew
                · -- two older slots exist, so the generations lie in a window
                  have hwin : Window (n + 1) c := hc.resolve_left (by omega)
                  exact (hw j (by omega) hji' h y hcj).of_newer hwin (by omega) hj (by omega)
                    hci hcj hcn hnew
              case isFalse hold =>
                cases hs
                refine ⟨by omega, hci, fun j hj hji h y hcj => ?_⟩
                rcases Nat.lt_succ_iff_lt_or_eq.mp hj with hj | rfl
                · exact hw j hj hji h y hcj
                · rw [hcn] at hcj
                  cases hcj
                  exact .inr ⟨hold, hi⟩

/-! ### What a store does -/

/-- The slots after a write of `v` into slot `t` that ran to its end. -/
def Written (c c' : Slots α) (t : ℕ) (v : UInt32 × α) : Prop :=
  (∀ i, i ≠ t → c' i = c i) ∧ c' t = some v

/-- The slots after a write of `v` into slot `t` that may have stopped anywhere. -/
def Torn (c c' : Slots α) (t : ℕ) (v : UInt32 × α) : Prop :=
  (∀ i, i ≠ t → c' i = c i) ∧ (c' t = c t ∨ c' t = none ∨ c' t = some v)

/-- What a run has made recoverable: the value last reported durable, by an update
or by the first opening of the store, and the values attempted since. -/
structure History (α : Type) where
  durable : Option α
  later : List α
  deriving DecidableEq

/-- Nothing has been reported yet. -/
def History.empty : History α := ⟨none, []⟩

/-- The first value that is opened counts as durable. -/
def History.opened (h : History α) (x : α) : History α :=
  match h.durable with
  | none => ⟨some x, []⟩
  | some _ => h

/-- An update that was reported durable. -/
def History.updated (x : α) : History α := ⟨some x, []⟩

/-- An update that was attempted and not reported durable. -/
def History.attempted (h : History α) (x : α) : History α := { h with later := h.later ++ [x] }

/-- The value is the durable one or was attempted after it. -/
def History.Allows (h : History α) (x : α) : Prop := h.durable = some x ∨ x ∈ h.later

instance [DecidableEq α] (h : History α) (x : α) : Decidable (h.Allows x) :=
  inferInstanceAs (Decidable (_ ∨ _))

/-- An open store: its active slot with the generation, and the value a reader sees. -/
structure Session (α : Type) where
  active : ℕ
  generation : UInt32
  value : α

/-- The slots, the open session if there is one, and the history. -/
structure State (α : Type) where
  slots : Slots α
  session : Option (Session α)
  history : History α

/-- What a store of `n` slots can do. An update that is reported durable must not
leave a slot before its own with a generation newer than the session's. -/
inductive Step (n : ℕ) : State α → State α → Prop
  | stay {s : State α} : Step n s s
  | closed {s : State α} : Step n s { s with session := none }
  | opened {s : State α} {i : ℕ} {g : UInt32} {x : α} (h : select n s.slots = some (i, g, x)) :
      Step n s ⟨s.slots, some ⟨i, g, x⟩, s.history.opened x⟩
  | formatted {s : State α} {c' : Slots α} {t : ℕ} {g : UInt32} {x : α}
      (h : select n s.slots = none) (ht : t < n) (hw : Written s.slots c' t (g, x)) :
      Step n s ⟨c', some ⟨t, g, x⟩, s.history.opened x⟩
  | formatTorn {s : State α} {c' : Slots α} {t : ℕ} {v : UInt32 × α}
      (h : select n s.slots = none) (ht : t < n) (hw : Torn s.slots c' t v) :
      Step n s ⟨c', none, s.history⟩
  | updated {s : State α} {u : Session α} {c' : Slots α} {t : ℕ} {x : α}
      (hs : s.session = some u) (ht : t < n) (hta : t ≠ u.active)
      (hw : Written s.slots c' t (u.generation + 1, x))
      (hclear : ∀ i < t, ∀ p ∈ s.slots i, ¬ Newer p.1 u.generation) :
      Step n s ⟨c', some ⟨t, u.generation + 1, x⟩, .updated x⟩
  | attempted {s : State α} {u : Session α} {c' : Slots α} {t : ℕ} {x : α}
      {o : Option (Session α)} (hs : s.session = some u) (ht : t < n) (hta : t ≠ u.active)
      (hw : Torn s.slots c' t (u.generation + 1, x)) (ho : o = some u ∨ o = none) :
      Step n s ⟨c', o, s.history.attempted x⟩

/-! ### The invariant -/

/-- What holds while a session is open: the active slot holds the value, and every
other slot loses against it or holds an attempt that was not reported. -/
structure Held (n : ℕ) (c : Slots α) (h : History α) (u : Session α) : Prop where
  lt : u.active < n
  active : c u.active = some (u.generation, u.value)
  allows : h.Allows u.value
  others : ∀ i < n, i ≠ u.active → ∀ g y, c i = some (g, y) →
    Wins u.active u.generation i g ∨ g = u.generation + 1 ∧ y ∈ h.later

/-- The scan finds a value of the history. -/
def Recoverable (n : ℕ) (c : Slots α) (h : History α) : Prop :=
  ∃ i g x, select n c = some (i, g, x) ∧ h.Allows x

/-- The invariant of a run. -/
structure Inv (n : ℕ) (s : State α) : Prop where
  closed : s.history.durable = none → s.session = none
  recoverable : s.history.durable ≠ none → Recoverable n s.slots s.history
  held : ∀ u, s.session = some u → Held n s.slots s.history u

lemma inv_start (n : ℕ) (c : Slots α) : Inv n ⟨c, none, .empty⟩ :=
  ⟨fun _ => rfl, fun h => absurd rfl h, fun _ h => by cases h⟩

variable {u : Session α} {s : State α}

/-- While a session is open the scan finds its value or an unreported attempt. -/
lemma Held.recoverable {h : History α}
    (hu : Held n c h u) (hc : Comparable n c) : Recoverable n c h := by
  cases hs : select n c with
  | none =>
      have := select_eq_none.mp hs _ hu.lt
      rw [hu.active] at this
      cases this
  | some p =>
      obtain ⟨i, g, x⟩ := p
      obtain ⟨hi, hci, hw⟩ := select_spec hc hs
      refine ⟨i, g, x, hs, ?_⟩
      by_cases hia : i = u.active
      · subst hia
        rw [hu.active] at hci
        cases hci
        exact hu.allows
      · have hwin := hw _ hu.lt (Ne.symm hia) _ _ hu.active
        rcases hu.others i hi hia g x hci with hl | ⟨-, hl⟩
        · exact absurd hl hwin.asymm
        · exact .inr hl

/-- If no attempt is pending, the scan finds the active slot. -/
lemma Held.selected {h : History α} (hu : Held n c h u)
    (hc : Comparable n c) (hl : h.later = []) :
    select n c = some (u.active, u.generation, u.value) := by
  cases hs : select n c with
  | none =>
      have := select_eq_none.mp hs _ hu.lt
      rw [hu.active] at this
      cases this
  | some p =>
      obtain ⟨i, g, x⟩ := p
      obtain ⟨hi, hci, hw⟩ := select_spec hc hs
      by_cases hia : i = u.active
      · subst hia
        rw [hu.active] at hci
        cases hci
        rfl
      · have hwin := hw _ hu.lt (Ne.symm hia) _ _ hu.active
        rcases hu.others i hi hia g x hci with hloses | ⟨-, hmem⟩
        · exact absurd hloses hwin.asymm
        · rw [hl] at hmem
          cases hmem

/-- An invariant is established by the session alone. -/
lemma Held.inv {h : History α} (hu : Held n c h u)
    (hc : Comparable n c) (hd : h.durable ≠ none) {o : Option (Session α)}
    (ho : o = some u ∨ o = none) : Inv n ⟨c, o, h⟩ := by
  refine ⟨fun h' => absurd h' hd, fun _ => hu.recoverable hc, ?_⟩
  rintro v hv
  rcases ho with rfl | rfl
  · cases hv
    exact hu
  · cases hv

/-- Opening what the scan selected. -/
lemma held_opened (hi : Inv n s) (hc : Comparable n s.slots) (h : select n s.slots = some (i, g, x)) :
    Held n s.slots (s.history.opened x) ⟨i, g, x⟩ := by
  obtain ⟨hin, hci, hw⟩ := select_spec hc h
  refine ⟨hin, hci, ?_, fun j hj hji h' y hcj => .inl (hw j hj hji h' y hcj)⟩
  unfold History.opened
  cases hd : s.history.durable with
  | none => exact .inl rfl
  | some d =>
      obtain ⟨i', g', x', hs, ha⟩ := hi.recoverable (by simp [hd])
      rw [h] at hs
      cases hs
      exact ha

/-- A durable update: the new slot wins against all others. -/
lemma Held.updated {h : History α} (hu : Held n c h u)
    (hc : Comparable n c) (hc' : Comparable n c') (ht : t < n)
    (hta : t ≠ u.active) (hw : Written c c' t (u.generation + 1, x))
    (hclear : ∀ i < t, ∀ p ∈ c i, ¬ Newer p.1 u.generation) :
    Held n c' (.updated x) ⟨t, u.generation + 1, x⟩ := by
  refine ⟨ht, hw.2, .inl rfl, fun i hi hit g y hci' => .inl ?_⟩
  change i ≠ t at hit
  have hci : c i = some (g, y) := by rw [← hw.1 i hit]; exact hci'
  by_cases hia : i = u.active
  · subst hia
    rw [hu.active] at hci
    cases hci
    exact .inl (newer_succ _)
  · -- three different slots are in use, so both states have a window
    obtain ⟨base, hb⟩ := hc.resolve_left (by have := hu.lt; omega)
    obtain ⟨base', hb'⟩ := hc'.resolve_left (by have := hu.lt; omega)
    have hg : offset base g < 2 ^ 31 := hb i hi (g, y) hci
    have ha : offset base u.generation < 2 ^ 31 := hb _ hu.lt (u.generation, u.value) hu.active
    have hg' : offset base' g < 2 ^ 31 := hb' i hi (g, y) hci'
    have ht' : offset base' (u.generation + 1) < 2 ^ 31 := hb' t ht (u.generation + 1, x) hw.2
    have older : ¬ Newer g u.generation → Newer (u.generation + 1) g := by
      intro hng
      by_cases hn : Newer u.generation g
      · exact hn.succ_of_window ht' hg'
      · have heq : g = u.generation := eq_of_not_newer hg ha hng hn
        rw [heq]
        exact newer_succ _
    rcases hu.others i hi hia g y hci with hwin | ⟨rfl, -⟩
    · refine .inl (older ?_)
      rcases hwin with hwin | hwin
      · exact hwin.asymm
      · exact hwin.1
    · -- an attempt that was not reported: it must lie behind the new slot
      refine .inr ⟨newer_irrefl _, ?_⟩
      rcases lt_or_gt_of_ne hit with hlt | hgt
      · exact absurd (newer_succ _) (hclear i hlt (u.generation + 1, y) hci)
      · exact hgt

/-- The condition on a durable update is exact: where it does not hold, the scan prefers
an earlier attempt. -/
lemma Held.updated_selected_iff {h : History α}
    (hu : Held n c h u) (hc : Comparable n c) (hc' : Comparable n c')
    (ht : t < n) (hta : t ≠ u.active) (hw : Written c c' t (u.generation + 1, x)) :
    select n c' = some (t, u.generation + 1, x) ↔
      ∀ i < t, ∀ p ∈ c i, ¬ Newer p.1 u.generation := by
  constructor
  · rintro hsel i hit ⟨g, y⟩ hci hnew
    have hia : i ≠ u.active := by
      rintro rfl
      rw [hu.active] at hci
      cases hci
      exact newer_irrefl _ hnew
    have hg : g = u.generation + 1 := by
      rcases hu.others i (by omega) hia g y hci with (hwin | hwin) | hwin
      · exact absurd hnew hwin.asymm
      · exact absurd hnew hwin.1
      · exact hwin.1
    have hci' : c' i = some (g, y) := by
      rw [hw.1 i (by omega)]
      exact hci
    rcases (select_spec hc' hsel).2.2 i (by omega) (by omega) g y hci' with hwin | hwin
    · rw [hg] at hwin
      exact newer_irrefl _ hwin
    · omega
  · intro hclear
    exact (hu.updated hc hc' ht hta hw hclear).selected hc' rfl

/-- An update that was not reported keeps the session as it was. -/
lemma Held.attempted {h : History α}
    (hu : Held n c h u) (hta : t ≠ u.active)
    (hw : Torn c c' t (u.generation + 1, x)) : Held n c' (h.attempted x) u := by
  have hmem : ∀ y ∈ h.later, y ∈ (h.attempted x).later := fun y hy =>
    List.mem_append_left _ hy
  refine ⟨hu.lt, ?_, ?_, fun i hi hia g y hci => ?_⟩
  · rw [hw.1 _ hta.symm]
    exact hu.active
  · exact hu.allows.imp (fun h => h) (hmem _)
  · have old : c' i = c i → Wins u.active u.generation i g ∨
        g = u.generation + 1 ∧ y ∈ (h.attempted x).later := by
      intro heq
      rw [heq] at hci
      exact (hu.others i hi hia g y hci).imp (fun h => h) (fun h => ⟨h.1, hmem _ h.2⟩)
    by_cases hit : i = t
    · subst hit
      rcases hw.2 with h' | h' | h'
      · exact old h'
      · rw [h'] at hci
        cases hci
      · rw [h'] at hci
        cases hci
        exact .inr ⟨rfl, List.mem_append_right _ (List.mem_singleton_self _)⟩
    · exact old (hw.1 i hit)

lemma History.opened_durable (h : History α) (x : α) : (h.opened x).durable ≠ none := by
  unfold History.opened
  cases hd : h.durable with
  | none => simp
  | some d => simp [hd]

/-- Every step keeps the invariant, as long as the generations can be compared. -/
theorem Step.inv {s' : State α} (h : Step n s s') (hc : Comparable n s.slots)
    (hc' : Comparable n s'.slots) (hi : Inv n s) : Inv n s' := by
  -- an empty store has never been opened
  have hfresh : select n s.slots = none → s.history.durable = none := by
    intro hsel
    by_contra hd
    obtain ⟨i, g, x, hs, -⟩ := hi.recoverable hd
    rw [hsel] at hs
    cases hs
  cases h with
  | stay => exact hi
  | closed => exact ⟨fun _ => rfl, hi.recoverable, fun _ h => by cases h⟩
  | opened hsel => exact (held_opened hi hc hsel).inv hc (History.opened_durable _ _) (.inl rfl)
  | formatted hsel ht hw =>
      refine Held.inv ⟨ht, hw.2, ?_, fun i hin hit g y hci => ?_⟩ hc'
        (History.opened_durable _ _) (.inl rfl)
      · unfold History.opened
        rw [hfresh hsel]
        exact .inl rfl
      · have hold := (hw.1 i hit).symm.trans hci
        rw [select_eq_none.mp hsel i hin] at hold
        cases hold
  | formatTorn hsel ht hw =>
      exact ⟨fun _ => rfl, fun hd => absurd (hfresh hsel) hd, fun _ h => by cases h⟩
  | updated hs ht hta hw hclear =>
      exact ((hi.held _ hs).updated hc hc' ht hta hw hclear).inv hc' (by simp [History.updated])
        (.inl rfl)
  | attempted hs ht hta hw ho =>
      refine ((hi.held _ hs).attempted hta hw).inv hc' (fun hd => ?_) ho
      have := hi.closed hd
      rw [hs] at this
      cases this

end Versioned
