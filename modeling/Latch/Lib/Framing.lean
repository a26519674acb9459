/-
Frames in a stream, and the scan that finds them again behind a gap.

A framing says how long a frame is, from the symbols of its header, and what a whole frame
yields. The scan reads the stream from its start: behind a whole frame it goes on with the
next symbol, and where no header starts it drops one symbol; it stops where the header or
the frame is not complete.

* `Framing.scan`: what the scan yields; `scan_cons` and `scan_frame` are its steps, and they
  hold with whatever follows, so that a reader that gets the stream in pieces can be compared
  with it;
* `scan_snoc_length_le`: one more symbol completes at most one frame;
* `Framing.Reaches`: the scan comes to a place of the stream.
-/
import Mathlib.Tactic

/-- The shape of the frames of a stream. -/
structure Framing (α ω : Type) where
  /-- The size of a header. -/
  size : ℕ
  /-- The length of the frame with the given header, if it is one. -/
  total : List α → Option ℕ
  /-- What a whole frame yields. -/
  read : List α → Option ω
  /-- A frame is longer than its header. -/
  size_lt : ∀ {h n}, total h = some n → size < n

namespace Framing

variable {α ω : Type} (F : Framing α ω)

/-- The frame that starts with the given symbols, if their header is complete. -/
def header (w : List α) : Option ℕ := if w.length < F.size then none else F.total (w.take F.size)

lemma size_lt_of_header {F : Framing α ω} {w : List α} {n : ℕ} (h : F.header w = some n) :
    F.size < n := by
  unfold header at h
  split at h
  · cases h
  · exact F.size_lt h

/-- What the frames of a stream yield. -/
def scan (w : List α) : List ω :=
  match _h : F.header w with
  | none =>
    match w with
    | [] => []
    | _ :: rest => scan rest
  | some n => if w.length < n then [] else (F.read (w.take n)).toList ++ scan (w.drop n)
termination_by w.length
decreasing_by
  · simp
  · have hn := size_lt_of_header _h
    rw [List.length_drop]
    omega

variable {F} {w v : List α} {n : ℕ}

lemma header_of_short (h : w.length < F.size) : F.header w = none := if_pos h

lemma size_le_of_header (h : F.header w = some n) : F.size ≤ w.length := by
  unfold header at h
  split at h
  · cases h
  · omega

/-- A complete header does not depend on what follows. -/
lemma header_append (h : F.size ≤ w.length) (v : List α) : F.header (w ++ v) = F.header w := by
  rw [header, header, if_neg (by rw [List.length_append]; omega), if_neg (by omega),
    List.take_append_of_le_length h]

@[simp] lemma scan_nil (F : Framing α ω) : F.scan [] = [] := by
  rw [scan]
  split
  · rfl
  · rename_i n h
    have := size_lt_of_header h
    rw [if_pos (by simp only [List.length_nil]; omega)]

/-- Where no header starts, a symbol is dropped. -/
lemma scan_cons (x : α) (h : F.header (x :: w) = none) : F.scan (x :: w) = F.scan w := by
  rw [scan]
  split
  · rfl
  · rename_i h'
    rw [h] at h'
    cases h'

lemma scan_of_header (h : F.header w = some n) :
    F.scan w = if w.length < n then [] else (F.read (w.take n)).toList ++ F.scan (w.drop n) := by
  rw [scan]
  split
  · rename_i h'
    rw [h] at h'
    cases h'
  · rename_i h'
    rw [h] at h'
    cases h'
    rfl

/-- A frame that is not complete yields nothing. -/
lemma scan_incomplete (h : F.header w = some n) (hn : w.length < n) : F.scan w = [] := by
  rw [scan_of_header h, if_pos hn]

lemma scan_short (h : w.length < F.size) : F.scan w = [] := by
  induction w with
  | nil => exact scan_nil F
  | cons x w ih =>
      rw [List.length_cons] at h
      rw [scan_cons x (header_of_short (by rw [List.length_cons]; omega)), ih (by omega)]

/-- A whole frame, with whatever follows. -/
lemma scan_frame (h : F.header w = some n) (hn : n ≤ w.length) (v : List α) :
    F.scan (w ++ v) = (F.read (w.take n)).toList ++ F.scan (w.drop n ++ v) := by
  rw [scan_of_header (by rw [header_append (size_le_of_header h), h]),
    if_neg (by rw [List.length_append]; omega), List.take_append_of_le_length hn,
    List.drop_append_of_le_length hn]

/-- One more symbol completes at most one frame. -/
lemma scan_snoc_length_le (hw : F.scan w = []) (x : α) : (F.scan (w ++ [x])).length ≤ 1 := by
  induction hlen : w.length using Nat.strong_induction_on generalizing w with
  | _ len ih =>
      have hsize : (w ++ [x]).length = len + 1 := by rw [List.length_append, hlen]; rfl
      cases h : F.header (w ++ [x]) with
      | none =>
          cases w with
          | nil =>
              rw [List.nil_append] at h ⊢
              rw [scan_cons x h, scan_nil]
              exact Nat.zero_le _
          | cons y w =>
              rw [List.cons_append] at h ⊢
              rw [scan_cons y h]
              refine ih w.length (by rw [← hlen]; simp) ?_ rfl
              by_cases hs : (y :: w).length < F.size
              · exact scan_short (by rw [List.length_cons] at hs; omega)
              · rwa [← scan_cons y]
                rw [← h, ← List.cons_append, header_append (by omega)]
      | some n =>
          rw [scan_of_header h, hsize]
          by_cases hn : len + 1 < n
          · rw [if_pos hn]
            exact Nat.zero_le _
          rw [if_neg hn, List.length_append]
          have hread : ∀ o : Option ω, o.toList.length ≤ 1 := fun o => by cases o <;> simp
          obtain hn | hn := Nat.lt_or_eq_of_le (Nat.le_of_not_lt hn)
          · -- the frame was complete before, and the scan went on behind it
            have hnw : n ≤ w.length := by omega
            have hpos := size_lt_of_header h
            have h' : F.header w = some n := by rw [← h, header_append (by omega)]
            rw [← List.append_nil w, scan_frame h' hnw, List.append_eq_nil_iff] at hw
            rw [List.take_append_of_le_length hnw, hw.1, List.drop_append_of_le_length hnw]
            have := ih (w.drop n).length (by rw [List.length_drop]; omega)
              (by rw [← List.append_nil (w.drop n)]; exact hw.2) rfl
            simpa using this
          · -- the symbol completes the frame, and nothing is left
            rw [List.drop_eq_nil_of_le (by omega), scan_nil, List.length_nil]
            exact hread _

/-! ### Places -/

/-- The scan comes to a place of the stream, given by what is left there. -/
inductive Reaches (F : Framing α ω) : List α → List α → Prop where
  | here (w : List α) : Reaches F w w
  | drop {x : α} {w r : List α} (h : F.header (x :: w) = none) (hr : Reaches F w r) :
      Reaches F (x :: w) r
  | frame {w r : List α} {n : ℕ} (h : F.header w = some n) (hn : n ≤ w.length)
      (hr : Reaches F (w.drop n) r) : Reaches F w r

lemma Reaches.length_le {r : List α} (h : F.Reaches w r) : r.length ≤ w.length := by
  induction h with
  | here => exact le_rfl
  | drop h hr ih => exact ih.trans (Nat.le_succ _)
  | frame h hn hr ih => exact ih.trans (by rw [List.length_drop]; omega)

lemma Reaches.trans {r t : List α} (h : F.Reaches w r) (h' : F.Reaches r t) : F.Reaches w t := by
  induction h with
  | here => exact h'
  | drop h hr ih => exact .drop h (ih h')
  | frame h hn hr ih => exact .frame h hn (ih h')

/-- What a place yields is at the end of what the stream yields. -/
lemma Reaches.scan_suffix {r : List α} (h : F.Reaches w r) : F.scan r <:+ F.scan w := by
  induction h with
  | here => exact List.suffix_rfl
  | drop h hr ih => rwa [scan_cons _ h]
  | frame h hn hr ih =>
      rw [scan_of_header h, if_neg (by omega)]
      exact ih.trans (List.suffix_append _ _)

/-- The first step of the scan on its way to a place. -/
lemma Reaches.cases_step {r : List α} (h : F.Reaches w r) :
    w = r ∨ (∃ x v, w = x :: v ∧ F.header w = none ∧ F.Reaches v r) ∨
      ∃ n, F.header w = some n ∧ n ≤ w.length ∧ F.Reaches (w.drop n) r := by
  cases h with
  | here => exact .inl rfl
  | drop h hr => exact .inr (.inl ⟨_, _, rfl, h, hr⟩)
  | frame h hn hr => exact .inr (.inr ⟨_, h, hn, hr⟩)

end Framing
