
/-
The bounded writer of `src/core/util.c` and the small helpers of `lep.c` around it.

An encoder fills a writer, notes whether it had to leave something out, and, for the
statements about it only, which fields it has written. A section builds its value in
a writer of its own (`nested`) and then writes one field, so whatever it does, the
encoder `Grows` by whole fields.
-/
import Latch.Core.Types
import Latch.Lib.Exec
import Latch.Lib.Tlv

namespace Latch

open Bytes Exec Tlv

/-- An `ls_writer_t` that is being filled, with the flag `truncated` of the encoder.
`written` are the fields that `ls_writer_tlv` has written, which no function reads. -/
structure Encoder where
  capacity : ℕ
  data : List UInt8
  truncated : Bool
  written : List (UInt16 × List UInt8)

/-- The functions of the encoder. -/
abbrev EncodeM := EStateM Errno Encoder

/-- `mark_truncated`. -/
def markTruncated : EncodeM Unit := modify fun s => { s with truncated := true }

/-- `mark_truncated` where something is left out. -/
def markIf (c : Prop) [Decidable c] : EncodeM Unit := if c then markTruncated else pure ()

/-- `writer_remaining`. -/
def writerRemaining : EncodeM ℕ := (fun s => s.capacity - s.data.length) <$> get

/-- `ls_writer_write`. -/
def lsWriterWrite (bytes : List UInt8) : EncodeM Unit := do
  let s ← get
  if s.capacity < s.data.length ∨ s.capacity - s.data.length < bytes.length then throw .enospace
  else set { s with data := s.data ++ bytes }

/-- A chain of writes, each made only while the result is `LS_OK`. -/
def writeAll (pieces : List (List UInt8)) : EncodeM Unit := pieces.forM lsWriterWrite

/-- `ls_writer_tlv`, called with the 16-bit length of the value. -/
def lsWriterTlv (type : UInt16) (value : List UInt8) : EncodeM Unit := do
  let length := UInt16.ofNat value.length
  let s ← get
  if s.capacity < s.data.length ∨ s.capacity - s.data.length < length.toNat + 4 then
    throw .enospace
  else do
    lsWriterWrite (le16 type)
    lsWriterWrite (le16 length)
    lsWriterWrite (value.take length.toNat)
    modify fun s => { s with written := s.written ++ [(type, value.take length.toNat)] }

/-- `put_optional_tlv`. -/
def putOptionalTlv (type : UInt16) (value : List UInt8) : EncodeM Unit := fun s =>
  match lsWriterTlv type value s with
  | .error .enospace s' => markTruncated s'
  | r => r

/-- The length that `put_string_field` writes. -/
def stringLength (text : List UInt8) (valueLimit : ℕ) : ℕ := min (min text.length 255) valueLimit

/-- `put_string_field`. -/
def putStringField (field : UInt8) (text : Option (List UInt8)) (valueLimit : ℕ) :
    EncodeM Unit := do
  let text := text.getD []
  markIf (255 < text.length)
  markIf (valueLimit < min text.length 255)
  lsWriterWrite [field]
  lsWriterWrite [UInt8.ofNat (stringLength text valueLimit)]
  lsWriterWrite (text.take (stringLength text valueLimit))

/-- `string_value_capacity`. -/
def stringValueCapacity : EncodeM ℕ := do
  let remaining ← writerRemaining
  return if 2 < remaining then remaining - 2 else 0

/-- A string field with all the room that is left, where the build stores strings. -/
def putStoredString (b : Build) (field : UInt8) (text : Option (List UInt8)) : EncodeM Unit :=
  if b.storeStrings then do
    let valueLimit ← stringValueCapacity
    putStringField field text valueLimit
  else pure ()

/-- Runs `body` on a writer of its own with the given capacity and hands over its result.
Only the flag `truncated` is shared with the writer outside. -/
def nested (capacity : ℕ) (body : EncodeM Unit) : EncodeM (Except Errno (List UInt8)) := fun s =>
  match body { s with capacity := capacity, data := [] } with
  | .ok _ s' => .ok (.ok s'.data) { s with truncated := s'.truncated }
  | .error e s' => .ok (.error e) { s with truncated := s'.truncated }

/-- The bytes that a nested writer was filled with, or its error. -/
def nestedValue (capacity : ℕ) (body : EncodeM Unit) : EncodeM (List UInt8) := do
  match ← nested capacity body with
  | .error e => throw e
  | .ok value => return value

/-- The bytes that a nested writer was filled with; where it is too small, `none`, and the
envelope is marked. -/
def nestedOptional (capacity : ℕ) (body : EncodeM Unit) : EncodeM (Option (List UInt8)) := do
  match ← nested capacity body with
  | .error .enospace => do
    markTruncated
    return none
  | .error e => throw e
  | .ok value => return some value

/-! ### Growing by fields -/

/-- The field that `ls_writer_tlv` writes. -/
def fieldOf (type : UInt16) (value : List UInt8) (h : type ≠ 0) : Tlv.Field :=
  { type := type, value := value.take (UInt16.ofNat value.length).toNat, type_ne := h
    length_lt := by
      have h1 := (UInt16.ofNat value.length).toNat_lt
      rw [List.length_take]
      omega }

@[simp] lemma fieldOf_type {type : UInt16} (value : List UInt8) (h : type ≠ 0) :
    (fieldOf type value h).type = type := rfl

/-- The encoder with a field more. -/
def Encoder.push (s : Encoder) (x : Tlv.Field) : Encoder :=
  { s with data := s.data ++ x.bytes, written := s.written ++ [x.pair] }

/-- `s'` is `s` with the fields `ts` more; the writer does not outgrow its capacity. -/
structure Extends (ts : List Tlv.Field) (s s' : Encoder) : Prop where
  capacity_eq : s'.capacity = s.capacity
  data_eq : s'.data = s.data ++ encode ts
  written_eq : s'.written = s.written ++ ts.map Field.pair
  fits : s.data.length ≤ s.capacity → s'.data.length ≤ s.capacity

/-- What leaves the writer and the fields alone. -/
lemma Extends.of_eq {s s' : Encoder} (hc : s'.capacity = s.capacity) (hd : s'.data = s.data)
    (hw : s'.written = s.written) : Extends [] s s' :=
  ⟨hc, by simp [hd], by simp [hw], fun h => by rwa [hd]⟩

lemma Extends.refl (s : Encoder) : Extends [] s s := Extends.of_eq rfl rfl rfl

lemma Extends.trans {ts us : List Tlv.Field} {s₁ s₂ s₃ : Encoder} (h : Extends ts s₁ s₂)
    (h' : Extends us s₂ s₃) : Extends (ts ++ us) s₁ s₃ := by
  refine ⟨h'.capacity_eq.trans h.capacity_eq, ?_, ?_, fun h0 => ?_⟩
  · rw [h'.data_eq, h.data_eq, encode_append, List.append_assoc]
  · rw [h'.written_eq, h.written_eq, List.map_append, List.append_assoc]
  · have hfit := h'.fits
    rw [h.capacity_eq] at hfit
    exact hfit (h.fits h0)

lemma extends_push {s : Encoder} {x : Tlv.Field} (hfit : (s.push x).data.length ≤ s.capacity) :
    Extends [x] s (s.push x) :=
  ⟨rfl, by simp [Encoder.push], by simp [Encoder.push], fun _ => hfit⟩

/-- `s'` is `s` with some fields more, all of them of a type in `P`. -/
def Grows (P : UInt16 → Prop) (s s' : Encoder) : Prop :=
  ∃ ts, Extends ts s s' ∧ ∀ x ∈ ts, P x.type

section Grows

variable {P : UInt16 → Prop}

lemma Extends.grows {s s' : Encoder} (h : Extends [] s s') : Grows P s s' := ⟨[], h, by simp⟩

lemma Grows.of_eq {s s' : Encoder} (hc : s'.capacity = s.capacity) (hd : s'.data = s.data)
    (hw : s'.written = s.written) : Grows P s s' := (Extends.of_eq hc hd hw).grows

lemma Grows.refl (s : Encoder) : Grows P s s := (Extends.refl s).grows

lemma Grows.trans {s₁ s₂ s₃ : Encoder} (h : Grows P s₁ s₂) (h' : Grows P s₂ s₃) :
    Grows P s₁ s₃ := by
  obtain ⟨ts, hts, hP⟩ := h
  obtain ⟨us, hus, hP'⟩ := h'
  exact ⟨ts ++ us, hts.trans hus, fun x hx => (List.mem_append.mp hx).elim (hP x) (hP' x)⟩

end Grows

/-- A part of the encoder that adds fields of types in `P` only, and that fails only if `E`. -/
def Writes {α : Type} (P : UInt16 → Prop) (E : Prop) (x : EncodeM α) : Prop :=
  ∀ s, Sat x s (fun _ s' => Grows P s s') fun _ _ => E

/-- A part of the encoder that fails for want of room only. -/
def OnlySpace (x : EncodeM Unit) : Prop :=
  ∀ s, Sat x s (fun _ _ => True) fun e _ => e = .enospace

section

variable {α β : Type} {P : UInt16 → Prop} {E : Prop}

lemma writes_pure (a : α) : Writes P E (pure a) := fun s => .pure (Grows.refl s)

lemma writes_throw (h : E) (e : Errno) : Writes P E (throw e : EncodeM α) := fun _ => .throw h

lemma writes_get : Writes P E get := fun s => sat_get.mpr (Grows.refl s)

lemma Writes.bind {x : EncodeM α} {f : α → EncodeM β} (hx : Writes P E x)
    (hf : ∀ a, Writes P E (f a)) : Writes P E (x >>= f) := fun s =>
  (hx s).bind fun a s₁ h₁ => (hf a s₁).mono fun _ _ h₂ => h₁.trans h₂

lemma Writes.ite {c : Prop} [Decidable c] {x y : EncodeM α} (hx : Writes P E x)
    (hy : Writes P E y) : Writes P E (if c then x else y) := fun s =>
  .ite (fun _ => hx s) fun _ => hy s

lemma writes_markTruncated : Writes P E markTruncated := fun _ =>
  (sat_modify _).mpr (Grows.of_eq rfl rfl rfl)

lemma writes_markIf (c : Prop) [Decidable c] : Writes P E (markIf c) :=
  writes_markTruncated.ite (writes_pure ())

lemma writes_writerRemaining : Writes P E writerRemaining := by
  intro s
  rw [writerRemaining, sat_map, sat_get]
  exact Grows.refl s

/-- `nested` gives back the writer outside. -/
lemma nested_spec {body : EncodeM Unit} {H : Errno → Prop} (capacity : ℕ) (s : Encoder)
    (hbody : ∀ s, Sat body s (fun _ _ => True) fun e _ => H e) :
    Sat (nested capacity body) s
      (fun r s' => Grows P s s' ∧ ∀ e, r = .error e → H e) fun _ _ => False := by
  have hrun := hbody { s with capacity := capacity, data := [] }
  unfold Sat at hrun ⊢
  unfold nested
  cases hx : body { s with capacity := capacity, data := [] } with
  | ok a s' =>
      refine ⟨Grows.of_eq rfl rfl rfl, ?_⟩
      rintro e ⟨⟩
  | error e s' =>
      rw [hx] at hrun
      refine ⟨Grows.of_eq rfl rfl rfl, ?_⟩
      rintro e ⟨⟩
      exact hrun

/-- A value that must fit its buffer. -/
lemma writes_nestedValue (h : E) (capacity : ℕ) (body : EncodeM Unit) :
    Writes P E (nestedValue capacity body) := by
  intro s
  refine (@nested_spec P body (fun _ => True) capacity s fun _ => (sat_run _ _).mono
    fun _ _ _ => trivial).bind fun r s₁ h₁ => ?_
  cases r with
  | error e => exact .throw h
  | ok value => exact .pure h₁.1

/-- What does not fit its buffer is left out. -/
lemma writes_nestedOptional {body : EncodeM Unit} (h : OnlySpace body) (capacity : ℕ) :
    Writes P E (nestedOptional capacity body) := by
  intro s
  refine (@nested_spec P _ _ capacity s h).bind fun r s₁ h₁ => ?_
  cases r with
  | ok value => exact .pure h₁.1
  | error e =>
      obtain rfl := h₁.2 e rfl
      refine (@writes_markTruncated P E s₁).bind fun _ s₂ h₂ => ?_
      exact .pure (h₁.1.trans h₂)

end

section OnlySpace

variable {x y : EncodeM Unit}

lemma OnlySpace.bind (hx : OnlySpace x) (hy : OnlySpace y) : OnlySpace (x >>= fun _ => y) :=
  fun s => (hx s).bind fun _ s₁ _ => hy s₁

lemma onlySpace_pure : OnlySpace (pure ()) := fun _ => .pure trivial

lemma onlySpace_markIf (c : Prop) [Decidable c] : OnlySpace (markIf c) := fun s =>
  (@writes_markIf (fun _ => True) False c _ s).mono fun _ _ _ => trivial

lemma onlySpace_lsWriterWrite (bytes : List UInt8) : OnlySpace (lsWriterWrite bytes) := by
  intro s
  rw [lsWriterWrite, sat_bind, sat_get, sat_ite]
  exact ⟨fun _ => .throw rfl, fun _ => (sat_set _).mpr trivial⟩

lemma onlySpace_writeAll (pieces : List (List UInt8)) : OnlySpace (writeAll pieces) := by
  induction pieces with
  | nil => exact onlySpace_pure
  | cons piece pieces ih => exact (onlySpace_lsWriterWrite piece).bind ih

lemma onlySpace_putStringField (field : UInt8) (text : Option (List UInt8)) (valueLimit : ℕ) :
    OnlySpace (putStringField field text valueLimit) :=
  (onlySpace_markIf _).bind ((onlySpace_markIf _).bind ((onlySpace_lsWriterWrite _).bind
    ((onlySpace_lsWriterWrite _).bind (onlySpace_lsWriterWrite _))))

lemma onlySpace_putStoredString (b : Build) (field : UInt8) (text : Option (List UInt8)) :
    OnlySpace (putStoredString b field text) := by
  intro s
  rw [putStoredString]
  refine .ite (fun _ => ?_) fun _ => .pure trivial
  rw [sat_bind, stringValueCapacity, sat_bind, writerRemaining, sat_map, sat_get, sat_pure]
  exact onlySpace_putStringField field text _ s

end OnlySpace

variable {type : UInt16} {P : UInt16 → Prop} {E : Prop}

/-! ### Writing one field -/

/-- The encoder with some bytes more. -/
def Encoder.append (s : Encoder) (bytes : List UInt8) : Encoder :=
  { s with data := s.data ++ bytes }

@[simp] lemma Encoder.append_capacity (s : Encoder) (bytes : List UInt8) :
    (s.append bytes).capacity = s.capacity := rfl

@[simp] lemma Encoder.append_data (s : Encoder) (bytes : List UInt8) :
    (s.append bytes).data = s.data ++ bytes := rfl

/-- `ls_writer_write` where there is room. -/
lemma sat_lsWriterWrite {bytes : List UInt8} {s : Encoder}
    (h : s.data.length + bytes.length ≤ s.capacity) {Q : Unit → Encoder → Prop}
    {H : Errno → Encoder → Prop} :
    Sat (lsWriterWrite bytes) s Q H ↔ Q () (s.append bytes) := by
  rw [lsWriterWrite, sat_bind, sat_get, if_neg (by omega), sat_set]
  rfl

/-- The bytes of the field that `ls_writer_tlv` writes. -/
lemma fieldOf_bytes (h : type ≠ 0) (value : List UInt8) :
    (fieldOf type value h).bytes = le16 type ++ (le16 (UInt16.ofNat value.length) ++
      value.take (UInt16.ofNat value.length).toNat) := by
  have hlen : (value.take (UInt16.ofNat value.length).toNat).length
      = (UInt16.ofNat value.length).toNat := by
    rw [List.length_take, UInt16.toNat_ofNat']
    exact min_eq_left (Nat.mod_le _ _)
  simp only [fieldOf, Field.bytes]
  rw [hlen, UInt16.ofNat_toNat]

/-- `ls_writer_tlv` writes a whole field or nothing. -/
lemma lsWriterTlv_spec (h : type ≠ 0) (value : List UInt8) (s : Encoder) :
    Sat (lsWriterTlv type value) s
      (fun _ s' => s' = s.push (fieldOf type value h) ∧ s'.data.length ≤ s.capacity)
      (fun e s' => e = .enospace ∧ s' = s) := by
  have hlen : (value.take (UInt16.ofNat value.length).toNat).length
      ≤ (UInt16.ofNat value.length).toNat := List.length_take_le _ _
  rw [lsWriterTlv, sat_bind, sat_get]
  refine .ite (fun _ => by rw [sat_throw]; exact ⟨rfl, rfl⟩) fun hroom => ?_
  -- the room is checked once for all three writes
  rw [sat_bind, sat_lsWriterWrite (by rw [le16_length]; omega),
    sat_bind, sat_lsWriterWrite (by simp; omega),
    sat_bind, sat_lsWriterWrite (by simp only [Encoder.append_data, Encoder.append_capacity,
      List.length_append, le16_length]; omega), sat_modify]
  have hpush : s.push (fieldOf type value h) =
      { ((s.append (le16 type)).append (le16 (UInt16.ofNat value.length))).append
          (value.take (UInt16.ofNat value.length).toNat) with
        written := s.written ++ [(type, value.take (UInt16.ofNat value.length).toNat)] } := by
    rw [Encoder.push, fieldOf_bytes]
    simp [fieldOf, Field.pair, Encoder.append]
  refine ⟨hpush.symm, ?_⟩
  simp only [Encoder.append_data, List.length_append, le16_length]
  omega

lemma writes_lsWriterTlv (h : E) (ht : type ≠ 0)
    (hP : P type) (value : List UInt8) : Writes P E (lsWriterTlv type value) := by
  intro s
  refine (lsWriterTlv_spec ht value s).mono (fun _ s' hs' => ?_) fun _ _ _ => h
  obtain ⟨rfl, hfit⟩ := hs'
  exact ⟨_, extends_push hfit, by simpa using hP⟩

/-- `put_optional_tlv` writes a whole field, or marks the envelope. -/
lemma putOptionalTlv_spec (h : type ≠ 0) (value : List UInt8) (s : Encoder) :
    Sat (putOptionalTlv type value) s
      (fun _ s' => (s' = s.push (fieldOf type value h) ∧ s'.data.length ≤ s.capacity) ∨
        s' = { s with truncated := true })
      (fun _ _ => False) := by
  have hspec := lsWriterTlv_spec h value s
  unfold Sat at hspec ⊢
  unfold putOptionalTlv
  cases hx : lsWriterTlv type value s with
  | ok a s' =>
      rw [hx] at hspec
      exact .inl hspec
  | error e s' =>
      rw [hx] at hspec
      obtain ⟨rfl, rfl⟩ := hspec
      exact .inr rfl

lemma writes_putOptionalTlv (ht : type ≠ 0)
    (hP : P type) (value : List UInt8) : Writes P E (putOptionalTlv type value) := by
  intro s
  refine (putOptionalTlv_spec ht value s).mono fun _ s' hs' => ?_
  obtain ⟨rfl, hfit⟩ | rfl := hs'
  · exact ⟨_, extends_push hfit, by simpa using hP⟩
  · exact Grows.of_eq rfl rfl rfl

/-! ### The value of a section -/

/-- A chain of writes appends all its bytes, or has no room. -/
lemma writeAll_spec (pieces : List (List UInt8)) (s : Encoder) (h : s.data.length ≤ s.capacity) :
    Sat (writeAll pieces) s
      (fun _ s' => s' = s.append pieces.flatten ∧ s'.data.length ≤ s.capacity)
      (fun e s' => e = .enospace ∧ s'.truncated = s.truncated ∧
        s.capacity < s.data.length + pieces.flatten.length) := by
  induction pieces generalizing s with
  | nil => simpa [writeAll, Encoder.append] using h
  | cons piece pieces ih =>
      change Sat (lsWriterWrite piece >>= fun _ => writeAll pieces) s _ _
      rw [sat_bind, List.flatten_cons, List.length_append]
      by_cases hroom : s.data.length + piece.length ≤ s.capacity
      · rw [sat_lsWriterWrite hroom]
        refine (ih (s.append piece) (by simpa using hroom)).mono (fun _ s' hs' => ?_)
          (fun _ _ he => ?_)
        · simpa [Encoder.append] using hs'
        · simpa [Encoder.append, Nat.add_assoc] using he
      · rw [lsWriterWrite, sat_bind, sat_get, if_pos (by omega), sat_throw]
        exact ⟨rfl, rfl, by omega⟩

/-- The same on a writer of its own, which leaves the writer outside as it was. -/
lemma nestedValue_writeAll (capacity : ℕ) (pieces : List (List UInt8)) (s : Encoder) :
    Sat (nestedValue capacity (writeAll pieces)) s
      (fun value s' => value = pieces.flatten ∧ value.length ≤ capacity ∧ s' = s)
      (fun e s' => e = .enospace ∧ s' = s ∧ capacity < pieces.flatten.length) := by
  have hspec := writeAll_spec pieces { s with capacity := capacity, data := [] } (Nat.zero_le _)
  rw [nestedValue, sat_bind]
  unfold Sat at hspec ⊢
  unfold nested
  cases hx : writeAll pieces { s with capacity := capacity, data := [] } with
  | ok a s' =>
      rw [hx] at hspec
      obtain ⟨rfl, hfit⟩ := hspec
      exact ⟨rfl, by simpa using hfit, rfl⟩
  | error e s' =>
      rw [hx] at hspec
      obtain ⟨rfl, htrunc, hlack⟩ := hspec
      refine ⟨rfl, ?_, by simpa using hlack⟩
      simp only [htrunc]

/-- A value of fixed content that takes no more than its buffer. -/
lemma writes_value {capacity : ℕ} {pieces : List (List UInt8)}
    (h : pieces.flatten.length ≤ capacity) :
    Writes P E (nestedValue capacity (writeAll pieces)) := fun s =>
  (nestedValue_writeAll capacity pieces s).mono (fun _ _ hs' => hs'.2.2 ▸ Grows.refl _)
    fun _ _ hlack => absurd hlack.2.2 (by omega)

/-- A section of fixed content writes exactly its field. -/
lemma putField_spec (h : type ≠ 0) {capacity : ℕ} (hc : capacity < 2 ^ 16)
    (pieces : List (List UInt8)) (s : Encoder) :
    Returns (do
      let value ← nestedValue capacity (writeAll pieces)
      lsWriterTlv type value) s
      (fun _ s' => ∃ x : Tlv.Field, x.pair = (type, pieces.flatten) ∧ Extends [x] s s') := by
  rw [Returns]
  refine (nestedValue_writeAll capacity pieces s).bind fun value s₁ hv => ?_
  obtain ⟨rfl, hlen, rfl⟩ := hv
  refine (lsWriterTlv_spec h _ _).mono fun _ s' hs' => ?_
  obtain ⟨rfl, hfit⟩ := hs'
  refine ⟨_, ?_, extends_push hfit⟩
  -- a value of fewer than 2¹⁶ bytes is written as it is
  have hmod : pieces.flatten.length % 2 ^ 16 = pieces.flatten.length := Nat.mod_eq_of_lt (by omega)
  simp only [Field.pair, fieldOf, UInt16.toNat_ofNat', hmod, List.take_length]

end Latch
