
/-
A medium of addressed cells: what reading, writing and filling a range does.

A medium is a function from addresses to cells. `write m off data` replaces the
cells from `off` on by `data`, `fill` replaces a range by one value, `read`
returns a range as a list. An interrupted write leaves `write m off (data.take k)`
and an interrupted fill leaves `fill m off k v`, so both are described by the
same two operations.

`AgreeOff m m' off len` says that two media differ at most inside a range: it is
the frame condition of every operation here.
-/
import Mathlib.Tactic

namespace Medium

variable {β : Type}

variable {off len a o : ℕ} {m m' : ℕ → β} {data : List β} {v : β}

variable {i l : ℕ}

/-- The `len` cells from `off` on. -/
def read (m : ℕ → β) (off len : ℕ) : List β := (List.range len).map fun i => m (off + i)

/-- The medium after writing `data` from `off` on. -/
def write (m : ℕ → β) (off : ℕ) (data : List β) : ℕ → β := fun a =>
  if off ≤ a then (data[a - off]?).getD (m a) else m a

/-- The medium after setting the `len` cells from `off` on to `v`. -/
def fill (m : ℕ → β) (off len : ℕ) (v : β) : ℕ → β := fun a =>
  if off ≤ a ∧ a < off + len then v else m a

/-! ### Reading -/

@[simp] lemma read_length (m : ℕ → β) (off len : ℕ) : (read m off len).length = len := by
  simp [read]

lemma read_getElem? (h : i < len) :
    (read m off len)[i]? = some (m (off + i)) := by
  simp [read, h]

lemma read_congr
    (h : ∀ a, off ≤ a → a < off + len → m a = m' a) : read m off len = read m' off len := by
  unfold read
  refine List.map_congr_left fun i hi => ?_
  have hi' := List.mem_range.mp hi
  exact h _ (by omega) (by omega)

lemma read_add (m : ℕ → β) (off a b : ℕ) :
    read m off (a + b) = read m off a ++ read m (off + a) b := by
  simp only [read, List.range_add, List.map_append, List.map_map]
  congr 1
  refine List.map_congr_left fun i _ => ?_
  simp [Nat.add_assoc]

/-- A part of what was read is a read of that part. -/
lemma read_slice (m : ℕ → β) (off : ℕ) (h : o + l ≤ len) :
    ((read m off len).drop o).take l = read m (off + o) l := by
  have hlen : len = o + (l + (len - (o + l))) := by omega
  rw [hlen, read_add, read_add, List.drop_left' (read_length m off o),
    List.take_left' (read_length m (off + o) l)]

/-! ### Writing -/

lemma write_nil (m : ℕ → β) (off : ℕ) : write m off [] = m := by
  funext a
  simp [write]

lemma write_of_lt (h : a < off) :
    write m off data a = m a := by
  rw [write, if_neg (by omega)]

lemma write_of_ge (h : off + data.length ≤ a) :
    write m off data a = m a := by
  unfold write
  split
  · rw [List.getElem?_eq_none (by omega)]
    rfl
  · rfl

lemma write_at (h : data[i]? = some v) :
    write m off data (off + i) = v := by
  simp [write, h]

lemma read_write_same (m : ℕ → β) (off : ℕ) (data : List β) :
    read (write m off data) off data.length = data := by
  apply List.ext_getElem?
  intro i
  by_cases h : i < data.length
  · rw [read_getElem? h, write_at (List.getElem?_eq_getElem h), List.getElem?_eq_getElem h]
  · rw [List.getElem?_eq_none (by simpa using h), List.getElem?_eq_none (by omega)]

/-- A write continued where the last one stopped is one write. -/
lemma write_write_append (m : ℕ → β) (off : ℕ) (d₁ d₂ : List β) :
    write (write m off d₁) (off + d₁.length) d₂ = write m off (d₁ ++ d₂) := by
  funext a
  unfold write
  by_cases h0 : off ≤ a
  · simp only [h0, if_true]
    by_cases h1 : off + d₁.length ≤ a
    · rw [if_pos h1, List.getElem?_append_right (by omega), List.getElem?_eq_none (l := d₁) (by omega),
        show a - (off + d₁.length) = a - off - d₁.length by omega]
      rfl
    · rw [if_neg h1, List.getElem?_append_left (by omega)]
  · rw [if_neg (by omega), if_neg h0, if_neg h0]

/-- Writing back what a range holds changes nothing. -/
lemma write_read (m : ℕ → β) (off len : ℕ) : write m off (read m off len) = m := by
  funext a
  unfold write
  split
  · by_cases h : a - off < len
    · rw [read_getElem? h, show off + (a - off) = a by omega]
      rfl
    · rw [List.getElem?_eq_none (by simpa using h)]
      rfl
  · rfl

/-- A write that got as far as the address `q`. -/
lemma write_take_sub (m : ℕ → β) (off q : ℕ) (data : List β) (a : ℕ) :
    write m off (data.take (q - off)) a = if a < q then write m off data a else m a := by
  unfold write
  by_cases h0 : off ≤ a
  · rw [if_pos h0, if_pos h0, List.getElem?_take]
    by_cases hq : a < q
    · rw [if_pos hq, if_pos (by omega)]
    · rw [if_neg hq, if_neg (by omega)]
      rfl
  · rw [if_neg h0, if_neg h0, ite_self]

/-- A write continued from `p` to `p + j` with the bytes it is to leave there. -/
lemma write_continue (m : ℕ → β) (off p j : ℕ) (data : List β) :
    write (write m off (data.take (p - off))) p (read (write m off data) p j) =
      write m off (data.take (p + j - off)) := by
  funext a
  rw [write_take_sub, write]
  by_cases h0 : p ≤ a
  · rw [if_pos h0]
    by_cases h1 : a < p + j
    · rw [if_pos h1, read_getElem? (by omega), show p + (a - p) = a by omega]
      rfl
    · rw [if_neg h1, List.getElem?_eq_none (by simp; omega), Option.getD_none, write_take_sub,
        if_neg (by omega)]
  · rw [if_neg h0, write_take_sub, if_pos (by omega), if_pos (by omega)]

lemma read_take (m : ℕ → β) (off len k : ℕ) :
    (read m off len).take k = read m off (min k len) := by
  rw [read, read, ← List.map_take, List.take_range]

/-! ### Filling -/

lemma fill_zero (m : ℕ → β) (off : ℕ) (v : β) : fill m off 0 v = m := by
  funext a
  rw [fill, if_neg (by omega)]

lemma fill_of_mem (h1 : off ≤ a) (h2 : a < off + len) :
    fill m off len v a = v := by
  rw [fill, if_pos ⟨h1, h2⟩]

lemma fill_of_not_mem (h : a < off ∨ off + len ≤ a) :
    fill m off len v a = m a := by
  rw [fill, if_neg (by omega)]

/-! ### Frames -/

/-- Two media that differ at most in the `len` cells from `off` on. -/
def AgreeOff (m m' : ℕ → β) (off len : ℕ) : Prop :=
  ∀ a, a < off ∨ off + len ≤ a → m' a = m a

lemma AgreeOff.refl (m : ℕ → β) (off len : ℕ) : AgreeOff m m off len := fun _ _ => rfl

lemma AgreeOff.trans {m₁ m₂ m₃ : ℕ → β} (h : AgreeOff m₁ m₂ off len)
    (h' : AgreeOff m₂ m₃ off len) : AgreeOff m₁ m₃ off len :=
  fun a ha => (h' a ha).trans (h a ha)

/-- A frame may be widened. -/
lemma AgreeOff.widen {off' len' : ℕ} (h : AgreeOff m m' off len)
    (h1 : off' ≤ off) (h2 : off + len ≤ off' + len') : AgreeOff m m' off' len' :=
  fun a ha => h a (by omega)

lemma agreeOff_write (m : ℕ → β) (off : ℕ) (data : List β) :
    AgreeOff m (write m off data) off data.length := by
  intro a ha
  rcases ha with ha | ha
  · exact write_of_lt ha
  · exact write_of_ge ha

lemma agreeOff_fill (m : ℕ → β) (off len : ℕ) (v : β) : AgreeOff m (fill m off len v) off len :=
  fun _ ha => fill_of_not_mem ha

/-- A read that does not meet the frame is unchanged. -/
lemma AgreeOff.read_eq (h : AgreeOff m m' off len)
    (hd : o + l ≤ off ∨ off + len ≤ o) : read m' o l = read m o l :=
  read_congr fun a h1 h2 => h a (by omega)

/-- A range that ends with what was just written. -/
lemma read_write_append (m : ℕ → β) (off n : ℕ) (data : List β) :
    read (write m (off + n) data) off (n + data.length) = read m off n ++ data := by
  rw [read_add, read_write_same, (agreeOff_write m (off + n) data).read_eq (.inl le_rfl)]

/-- A write inside the range that is read. -/
lemma read_write_inside (m : ℕ → β) (off : ℕ)
    (h : o + data.length ≤ len) : read (write m (off + o) data) off len =
      (read m off len).take o ++ data ++ (read m off len).drop (o + data.length) := by
  obtain ⟨k, rfl⟩ : ∃ k, len = o + data.length + k := ⟨_, (Nat.add_sub_cancel' h).symm⟩
  have hagree := agreeOff_write m (off + o) data
  have htake : (read m off (o + data.length + k)).take o = read m off o := by
    rw [Nat.add_assoc, read_add, List.take_left' (read_length m off o)]
  rw [htake, read_add m, List.drop_left' (read_length m off _), read_add, read_add,
    read_write_same, hagree.read_eq (.inl le_rfl), hagree.read_eq (.inr (Nat.add_assoc ..).le),
    List.append_assoc]

end Medium
