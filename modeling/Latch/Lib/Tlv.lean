
/-
Sequences of type-length-value fields.

A field is a non-zero 16-bit type and a value whose length fits 16 bits; both
conditions are part of `Field`. `encode` writes fields one behind the other.
A byte string is empty, starts with a whole field, or is `Malformed`, and
`wire_induction` is the induction along these three cases that every reader of
such a sequence goes through.
-/
import Latch.Lib.Bytes

namespace Tlv

open Bytes

/-- A field that can be written: type `0` is not used. -/
structure Field where
  type : UInt16
  value : List UInt8
  type_ne : type ≠ 0
  length_lt : value.length < 2 ^ 16
  deriving DecidableEq

/-- What a reader reports of a field. -/
def Field.pair (x : Field) : UInt16 × List UInt8 := (x.type, x.value)

/-- The bytes of a field: its type, the length of its value, the value. -/
def Field.bytes (x : Field) : List UInt8 :=
  le16 x.type ++ (le16 (UInt16.ofNat x.value.length) ++ x.value)

/-- The fields one behind the other. -/
def encode (ts : List Field) : List UInt8 := ts.flatMap Field.bytes

@[simp] lemma encode_nil : encode [] = [] := rfl

@[simp] lemma encode_cons (x : Field) (ts : List Field) :
    encode (x :: ts) = x.bytes ++ encode ts := List.flatMap_cons

@[simp] lemma encode_append (ts us : List Field) : encode (ts ++ us) = encode ts ++ encode us :=
  List.flatMap_append

@[simp] lemma Field.bytes_length (x : Field) : x.bytes.length = 4 + x.value.length := by
  simp [Field.bytes]
  omega

lemma length_le_encode (ts : List Field) : ts.length ≤ (encode ts).length := by
  induction ts with
  | nil => simp
  | cons x ts ih =>
      rw [encode_cons, List.length_append, Field.bytes_length, List.length_cons]
      omega

/-! ### Reading the first field -/

/-- No field can be read from the start of `l`: there is no room for a type and a
length, the type is `0`, or the value would end behind the end of `l`. -/
def Malformed (l : List UInt8) : Prop :=
  l.length < 4 ∨ get16 l 0 = 0 ∨ l.length < 4 + (get16 l 2).toNat

section First

variable (x : Field) (rest : List UInt8)

@[simp] lemma get16_bytes_type : get16 (x.bytes ++ rest) 0 = x.type := by
  rw [Field.bytes, List.append_assoc, get16_le16]

@[simp] lemma get16_bytes_length : (get16 (x.bytes ++ rest) 2).toNat = x.value.length := by
  have h := x.length_lt
  rw [Field.bytes, List.append_assoc, get16_append_right (by simp), le16_length, Nat.sub_self,
    List.append_assoc, get16_le16, UInt16.toNat_ofNat']
  omega

@[simp] lemma drop_bytes : (x.bytes ++ rest).drop (4 + x.value.length) = rest :=
  List.drop_left' (by simp)

@[simp] lemma take_bytes : ((x.bytes ++ rest).drop 4).take x.value.length = x.value := by
  have h : x.bytes ++ rest
      = (le16 x.type ++ le16 (UInt16.ofNat x.value.length)) ++ (x.value ++ rest) := by
    simp [Field.bytes]
  rw [h, List.drop_left' (by simp), List.take_left' rfl]

end First

variable {x : Field} {rest p : List UInt8} {off : ℕ}

/-- What can be read from the start of a byte string that is not malformed is a field. -/
lemma exists_field_of_not_malformed {l : List UInt8} (h : ¬ Malformed l) :
    ∃ (x : Field) (rest : List UInt8), l = x.bytes ++ rest := by
  obtain ⟨h4, hrest⟩ : 4 ≤ l.length ∧ ¬ (get16 l 0 = 0 ∨ l.length < 4 + (get16 l 2).toNat) := by
    rw [Malformed, not_or] at h
    exact ⟨by omega, h.2⟩
  obtain ⟨ht, hlen⟩ := not_or.mp hrest
  set n := (get16 l 2).toNat with hn
  have hvalue : ((l.drop 4).take n).length = n := by
    rw [List.length_take, List.length_drop]
    omega
  refine ⟨⟨get16 l 0, (l.drop 4).take n, ht, ?_⟩, l.drop (4 + n), ?_⟩
  · rw [hvalue]
    exact (get16 l 2).toNat_lt
  · have hword : UInt16.ofNat n = get16 l 2 := by rw [hn, UInt16.ofNat_toNat]
    have h0 : le16 (get16 l 0) = l.take 2 := le16_get16 (by omega)
    have h2 : le16 (get16 l 2) = (l.drop 2).take 2 := le16_get16 (by omega)
    simp only [Field.bytes, hvalue, hword, h0, h2]
    calc l = l.take 2 ++ ((l.drop 2).take 2 ++ (l.drop 2).drop 2) := by
          rw [List.take_append_drop, List.take_append_drop]
      _ = l.take 2 ++ ((l.drop 2).take 2 ++ ((l.drop 4).take n ++ (l.drop 4).drop n)) := by
          rw [List.take_append_drop n (l.drop 4), List.drop_drop]
      _ = _ := by simp [List.drop_drop]

lemma not_malformed_bytes (x : Field) (rest : List UInt8) : ¬ Malformed (x.bytes ++ rest) := by
  have h := x.type_ne
  simp only [Malformed, get16_bytes_type, get16_bytes_length, List.length_append,
    Field.bytes_length, h, false_or, not_or]
  omega

/-- The cases of a reader: nothing is left, no field can be read, or a field is read
and the reader goes on behind it. -/
theorem wire_induction {motive : List UInt8 → Prop} (nil : motive [])
    (malformed : ∀ l, l ≠ [] → Malformed l → motive l)
    (field : ∀ (x : Field) (rest : List UInt8), motive rest → motive (x.bytes ++ rest))
    (l : List UInt8) : motive l := by
  induction h : l.length using Nat.strong_induction_on generalizing l with
  | _ n ih =>
      by_cases hl : l = []
      · exact hl ▸ nil
      · by_cases hm : Malformed l
        · exact malformed l hl hm
        · obtain ⟨x, rest, rfl⟩ := exists_field_of_not_malformed hm
          refine field x rest (ih rest.length ?_ rest rfl)
          simp [← h]

/-! ### Reading a whole sequence -/

lemma encode_ne_of_malformed {l : List UInt8} (hl : l ≠ []) (hm : Malformed l) (ts : List Field) :
    l ≠ encode ts := by
  rintro rfl
  cases ts with
  | nil => exact hl rfl
  | cons x ts => exact not_malformed_bytes x (encode ts) (by simpa using hm)

/-- A sequence that starts with the bytes of a field starts with that field. -/
lemma bytes_append_eq_encode {ts : List Field} :
    x.bytes ++ rest = encode ts ↔ ∃ us, ts = x :: us ∧ rest = encode us := by
  constructor
  · intro h
    cases ts with
    | nil =>
        have := congrArg List.length h
        simp at this
    | cons y us =>
        rw [encode_cons] at h
        have htype : x.type = y.type := by
          rw [← get16_bytes_type x rest, h, get16_bytes_type]
        have hlen : x.value.length = y.value.length := by
          rw [← get16_bytes_length x rest, h, get16_bytes_length]
        have hvalue : x.value = y.value := by
          rw [← take_bytes x rest, h, hlen, take_bytes]
        have hxy : x = y := by
          cases x
          cases y
          simp_all
        subst hxy
        exact ⟨us, rfl, List.append_cancel_left h⟩
  · rintro ⟨us, rfl, rfl⟩
    rfl

/-! ### A reader that keeps an offset -/

/-- What a reader of `p` sees that stands at `off` in front of the field `x`. -/
structure At (p : List UInt8) (off : ℕ) (x : Field) (rest : List UInt8) : Prop where
  lt : off < p.length
  room : 4 ≤ p.length - off
  type_eq : get16 p off = x.type
  length_eq : (get16 p (off + 2)).toNat = x.value.length
  fits : x.value.length ≤ p.length - (off + 4)
  value_eq : (p.drop (off + 4)).take x.value.length = x.value
  drop_eq : p.drop (off + 4 + x.value.length) = rest

lemma at_of_drop
    (h : p.drop off = x.bytes ++ rest) : At p off x rest := by
  have hlen : p.length - off = 4 + x.value.length + rest.length := by
    simpa using congrArg List.length h
  exact
    { lt := by omega
      room := by omega
      type_eq := by rw [← get16_bytes_type x rest, ← h, get16_drop, Nat.add_zero]
      length_eq := by rw [← get16_bytes_length x rest, ← h, get16_drop]
      fits := by omega
      value_eq := by rw [← List.drop_drop, h, take_bytes]
      drop_eq := by rw [Nat.add_assoc, ← List.drop_drop, h, drop_bytes] }

/-- The test for a bad field does not fire in front of a field. -/
lemma At.not_bad (h : At p off x rest) :
    ¬ (get16 p off = 0 ∨ p.length - (off + 4) < (get16 p (off + 2)).toNat) := by
  rw [h.type_eq, h.length_eq, not_or, not_lt]
  exact ⟨x.type_ne, h.fits⟩

/-- What a reader of `p` sees that stands at `off` in front of a malformed rest. -/
lemma malformed_at (hm : Malformed (p.drop off))
    (h4 : 4 ≤ p.length - off) :
    get16 p off = 0 ∨ p.length - (off + 4) < (get16 p (off + 2)).toNat := by
  rw [Malformed, List.length_drop, get16_drop, get16_drop, Nat.add_zero] at hm
  obtain hshort | htype | hlong := hm
  · omega
  · exact .inl htype
  · exact .inr (by omega)

end Tlv
