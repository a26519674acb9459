
/-
What the encoder writes when it leaves nothing out.

The flag `truncated` is shared by all sections and never cleared. `Fills x P bytes fields`
describes a part `x` of the encoder by what it writes in a run that ends with the flag clear:

* such a run started with the flag clear, met `P` and wrote exactly `bytes` and `fields`;
* conversely, where the flag is clear, `P` holds and the room suffices, `x` ends that way.

So a part is described once, and a sequence of parts, a branch or a loop by the rules below.
`P` collects what does not depend on the room: a string has at most 255 characters, a value
fits the buffer that it is built in.
-/
import Latch.Envelope.Sections

namespace Latch

open Bytes Exec Tlv

/-- The encoder with some bytes and fields more. -/
def Encoder.fill (s : Encoder) (bytes : List UInt8) (fields : List (UInt16 × List UInt8)) :
    Encoder :=
  { s with data := s.data ++ bytes, written := s.written ++ fields }

lemma Encoder.fill_fill (s : Encoder) (bytes bytes' : List UInt8)
    (fields fields' : List (UInt16 × List UInt8)) :
    (s.fill bytes fields).fill bytes' fields' = s.fill (bytes ++ bytes') (fields ++ fields') := by
  simp [Encoder.fill]

lemma Encoder.fill_nil (s : Encoder) : s.fill [] [] = s := by
  simp [Encoder.fill]

/-- What `x` writes in the runs that leave nothing out, and when it does so. -/
structure Fills (x : EncodeM Unit) (P : Prop) (bytes : List UInt8)
    (fields : List (UInt16 × List UInt8)) : Prop where
  complete : ∀ s, Returns x s fun _ s' => s'.truncated = false →
    s.truncated = false ∧ P ∧ s' = s.fill bytes fields ∧
      (s.data.length ≤ s.capacity → s'.data.length ≤ s.capacity)
  fits : ∀ s, s.truncated = false → P → s.data.length + bytes.length ≤ s.capacity →
    Sat x s (fun _ s' => s' = s.fill bytes fields) fun _ _ => False

section

variable {x y : EncodeM Unit} {P P' : Prop} {bytes bytes' : List UInt8}
  {fields fields' : List (UInt16 × List UInt8)}

lemma Fills.congr (h : Fills x P bytes fields) (hP : P ↔ P') (hb : P → bytes = bytes')
    (hf : P → fields = fields') : Fills x P' bytes' fields' where
  complete s := by
    refine (h.complete s).mono fun _ s' hs hclear => ?_
    obtain ⟨h0, hp, heq, hfit⟩ := hs hclear
    exact ⟨h0, hP.mp hp, by rw [heq, hb hp, hf hp], hfit⟩
  fits s h0 hp hroom := by
    have hp' := hP.mpr hp
    rw [← hb hp'] at hroom ⊢
    rw [← hf hp']
    exact h.fits s h0 hp' hroom

lemma Fills.iff (h : Fills x P bytes fields) (hP : P ↔ P') : Fills x P' bytes fields :=
  h.congr hP (fun _ => rfl) fun _ => rfl

lemma fills_pure : Fills (pure ()) True [] [] where
  complete s := (sat_pure ()).mpr fun h => ⟨h, trivial, s.fill_nil.symm, id⟩
  fits s _ _ _ := (sat_pure ()).mpr s.fill_nil.symm

lemma Fills.bind (hx : Fills x P bytes fields) (hy : Fills y P' bytes' fields') :
    Fills (x >>= fun _ => y) (P ∧ P') (bytes ++ bytes') (fields ++ fields') where
  complete s := by
    rw [Returns]
    refine (hx.complete s).bind fun _ s₁ h₁ => ?_
    refine (hy.complete s₁).mono fun _ s₂ h₂ hclear => ?_
    obtain ⟨hs₁, hp', rfl, hfit'⟩ := h₂ hclear
    obtain ⟨hs, hp, rfl, hfit⟩ := h₁ hs₁
    exact ⟨hs, ⟨hp, hp'⟩, s.fill_fill .., fun h => hfit' (hfit h)⟩
  fits s h0 hp hroom := by
    rw [List.length_append] at hroom
    refine (hx.fits s h0 hp.1 (by omega)).bind fun _ s₁ h₁ => ?_
    subst h₁
    have hroom' : (s.fill bytes fields).data.length + bytes'.length ≤ s.capacity := by
      rw [Encoder.fill, List.length_append]
      omega
    refine (hy.fits (s.fill bytes fields) h0 hp.2 hroom').mono fun _ s₂ h₂ => ?_
    rw [h₂, Encoder.fill_fill]

lemma fills_markIf (c : Prop) [Decidable c] : Fills (markIf c) (¬ c) [] [] where
  complete s := by
    rw [Returns, markIf]
    refine .ite (fun _ => ?_) fun hc => (sat_pure ()).mpr fun h => ⟨h, hc, s.fill_nil.symm, id⟩
    rw [markTruncated, sat_modify]
    intro h
    cases h
  fits s _ hc _ := by
    rw [markIf, if_neg hc]
    exact (sat_pure ()).mpr s.fill_nil.symm

lemma fills_lsWriterWrite (bytes : List UInt8) : Fills (lsWriterWrite bytes) True bytes [] where
  complete s := by
    rw [Returns, lsWriterWrite, sat_bind, sat_get]
    refine .ite (fun _ => .throw trivial) fun hroom => (sat_set _).mpr fun hclear => ?_
    refine ⟨hclear, trivial, by simp [Encoder.fill], fun _ => ?_⟩
    rw [List.length_append]
    omega
  fits s _ _ hroom := by
    rw [sat_lsWriterWrite hroom]
    simp [Encoder.fill, Encoder.append]

lemma fills_writeAll (pieces : List (List UInt8)) :
    Fills (writeAll pieces) True pieces.flatten [] := by
  induction pieces with
  | nil => exact fills_pure
  | cons piece pieces ih => exact ((fills_lsWriterWrite piece).bind ih).iff (and_true _ ▸ Iff.rfl)

end

variable {type : UInt16} {value : List UInt8}

variable {s : Encoder} (field : UInt8) (text : Option (List UInt8))

/-! ### Strings -/

/-- The characters of a text; a null pointer has none. -/
abbrev textOf (text : Option (List UInt8)) : List UInt8 := text.getD []

/-- A string field with the whole text. -/
def stringField (field : UInt8) (text : Option (List UInt8)) : List UInt8 :=
  [field, UInt8.ofNat (textOf text).length] ++ textOf text

/-- A text that is not longer than its length byte can say. -/
def Short (text : Option (List UInt8)) : Prop := (textOf text).length ≤ 255

instance (text : Option (List UInt8)) : Decidable (Short text) :=
  inferInstanceAs (Decidable (_ ≤ _))

@[simp] lemma stringField_length :
    (stringField field text).length = 2 + (textOf text).length := by
  simp [stringField]
  omega

lemma fills_putStringField (valueLimit : ℕ) :
    Fills (putStringField field text valueLimit)
      (Short text ∧ (textOf text).length ≤ valueLimit) (stringField field text) [] := by
  have h := (fills_markIf (255 < (textOf text).length)).bind
    ((fills_markIf (valueLimit < min (textOf text).length 255)).bind
      ((fills_lsWriterWrite [field]).bind
        ((fills_lsWriterWrite [UInt8.ofNat (stringLength (textOf text) valueLimit)]).bind
          (fills_lsWriterWrite ((textOf text).take (stringLength (textOf text) valueLimit))))))
  have hlen : Short text ∧ (textOf text).length ≤ valueLimit →
      stringLength (textOf text) valueLimit = (textOf text).length := by
    rintro ⟨h1, h2⟩
    unfold Short at h1
    simp only [stringLength]
    omega
  have hiff : (¬ 255 < (textOf text).length ∧ ¬ valueLimit < min (textOf text).length 255 ∧
      True ∧ True ∧ True) ↔ Short text ∧ (textOf text).length ≤ valueLimit := by
    unfold Short
    simp only [and_true]
    omega
  refine h.congr hiff (fun hp => ?_) fun _ => rfl
  rw [hlen (hiff.mp hp), List.take_length]
  rfl

/-- A string with all the room that is left, where the build stores strings. -/
def storedString (b : Build) (field : UInt8) (text : Option (List UInt8)) : List UInt8 :=
  if b.storeStrings then stringField field text else []

/-- The text is short where the build stores strings. -/
def StoredShort (b : Build) (text : Option (List UInt8)) : Prop := b.storeStrings → Short text

lemma fills_putStoredString (b : Build) (field : UInt8) (text : Option (List UInt8)) :
    Fills (putStoredString b field text) (StoredShort b text) (storedString b field text) [] := by
  unfold putStoredString storedString StoredShort
  by_cases hb : b.storeStrings = true
  · rw [if_pos hb, if_pos hb]
    refine ⟨fun s => ?_, fun s h0 hp hroom => ?_⟩
    · rw [Returns, sat_bind, stringValueCapacity, sat_bind, writerRemaining, sat_map, sat_get,
        sat_pure]
      refine ((fills_putStringField field text _).complete s).mono fun _ s' hs hclear => ?_
      obtain ⟨h0, hp, hrest⟩ := hs hclear
      exact ⟨h0, fun _ => hp.1, hrest⟩
    · rw [stringField_length] at hroom
      rw [sat_bind, stringValueCapacity, sat_bind, writerRemaining, sat_map, sat_get, sat_pure]
      refine (fills_putStringField field text _).fits s h0 ⟨hp hb, ?_⟩
        (by rw [stringField_length]; exact hroom)
      split <;> omega
  · rw [if_neg hb, if_neg hb]
    exact fills_pure.iff ⟨fun _ h => absurd h hb, fun _ => trivial⟩

/-! ### Fields -/

/-- The bytes of a field. -/
def pairBytes (field : UInt16 × List UInt8) : List UInt8 :=
  le16 field.1 ++ (le16 (UInt16.ofNat field.2.length) ++ field.2)

@[simp] lemma pairBytes_length (field : UInt16 × List UInt8) :
    (pairBytes field).length = 4 + field.2.length := by
  simp [pairBytes]
  omega

lemma push_eq_fill (h : type ≠ 0)
    (hv : value.length < 2 ^ 16) (s : Encoder) :
    s.push (fieldOf type value h) = s.fill (pairBytes (type, value)) [(type, value)] := by
  have hlen : (UInt16.ofNat value.length).toNat = value.length := by
    rw [UInt16.toNat_ofNat', Nat.mod_eq_of_lt hv]
  simp only [Encoder.push, Encoder.fill, pairBytes, fieldOf_bytes]
  simp only [fieldOf, Field.pair, hlen, List.take_length]

/-- `ls_writer_tlv` where there is room, whatever the flag says. -/
lemma lsWriterTlv_fits (h : type ≠ 0)
    (hv : value.length < 2 ^ 16)
    (hroom : s.data.length + (pairBytes (type, value)).length ≤ s.capacity) :
    Sat (lsWriterTlv type value) s
      (fun _ s' => s' = s.fill (pairBytes (type, value)) [(type, value)]) fun _ _ => False := by
  have hroom : s.data.length + (4 + value.length) ≤ s.capacity := by
    rwa [pairBytes_length] at hroom
  refine ((lsWriterTlv_spec h value s).and (sat_run _ _)).mono (fun _ s' hs' => ?_)
    (fun e s' hs' => ?_)
  · rw [hs'.1.1, push_eq_fill h hv]
  · -- the only error is one of room
    have hlen : (UInt16.ofNat value.length).toNat = value.length := by
      rw [UInt16.toNat_ofNat', Nat.mod_eq_of_lt hv]
    have hrun : Sat (lsWriterTlv type value) s (fun _ _ => True) fun _ _ => False := by
      rw [lsWriterTlv, sat_bind, sat_get, if_neg (by rw [hlen]; omega), sat_bind,
        sat_lsWriterWrite (by rw [le16_length]; omega), sat_bind,
        sat_lsWriterWrite (by simp; omega), sat_bind,
        sat_lsWriterWrite (by simp [hlen]; omega), sat_modify]
      trivial
    exact sat_of_error hrun hs'.2

lemma putOptionalTlv_fits (h : type ≠ 0)
    (hv : value.length < 2 ^ 16)
    (hroom : s.data.length + (pairBytes (type, value)).length ≤ s.capacity) :
    Sat (putOptionalTlv type value) s
      (fun _ s' => s' = s.fill (pairBytes (type, value)) [(type, value)]) fun _ _ => False := by
  obtain ⟨_, s', hok, rfl⟩ := (lsWriterTlv_fits h hv hroom).exists_ok
  refine Sat.of_eq (y := pure ()) ?_ ((sat_pure ()).mpr rfl)
  rw [putOptionalTlv, hok]
  rfl

lemma fills_lsWriterTlv (h : type ≠ 0)
    (hv : value.length < 2 ^ 16) :
    Fills (lsWriterTlv type value) True (pairBytes (type, value)) [(type, value)] where
  complete s := by
    refine (lsWriterTlv_spec h value s).mono fun _ s' hs' hclear => ?_
    obtain ⟨rfl, hfit⟩ := hs'
    exact ⟨hclear, trivial, push_eq_fill h hv s, fun _ => hfit⟩
  fits s _ _ hroom := lsWriterTlv_fits h hv hroom

lemma fills_putOptionalTlv (h : type ≠ 0)
    (hv : value.length < 2 ^ 16) :
    Fills (putOptionalTlv type value) True (pairBytes (type, value)) [(type, value)] where
  complete s := by
    refine (putOptionalTlv_spec h value s).mono fun _ s' hs' hclear => ?_
    obtain ⟨rfl, hfit⟩ | rfl := hs'
    · exact ⟨hclear, trivial, push_eq_fill h hv s, fun _ => hfit⟩
    · cases hclear
  fits s _ _ hroom := putOptionalTlv_fits h hv hroom

/-! ### The flag stays -/

/-- A run that starts with the flag set ends so. -/
def Marks {α : Type} (x : EncodeM α) : Prop :=
  ∀ s, s.truncated = true → Returns x s fun _ s' => s'.truncated = true

section

variable {α β : Type}

lemma marks_pure (a : α) : Marks (pure a : EncodeM α) := fun _ h => (sat_pure a).mpr h

lemma Marks.bind {x : EncodeM α} {f : α → EncodeM β} (hx : Marks x) (hf : ∀ a, Marks (f a)) :
    Marks (x >>= f) := by
  intro s h
  rw [Returns]
  exact (hx s h).bind fun a s₁ h₁ => hf a s₁ h₁

lemma Fills.marks {x : EncodeM Unit} {P : Prop} {bytes : List UInt8}
    {fields : List (UInt16 × List UInt8)} (h : Fills x P bytes fields) : Marks x := by
  intro s hs
  refine (h.complete s).mono fun _ s' hs' => ?_
  by_contra hclear
  rw [Bool.not_eq_true] at hclear
  rw [(hs' hclear).1] at hs
  cases hs

lemma marks_lsWriterTlv {type : UInt16} (h : type ≠ 0) (value : List UInt8) :
    Marks (lsWriterTlv type value) := by
  intro s hs
  refine (lsWriterTlv_spec h value s).mono fun _ s' hs' => ?_
  rw [hs'.1]
  exact hs

lemma marks_putOptionalTlv {type : UInt16} (h : type ≠ 0) (value : List UInt8) :
    Marks (putOptionalTlv type value) := by
  intro s hs
  refine (putOptionalTlv_spec h value s).mono fun _ s' hs' => ?_
  obtain ⟨rfl, -⟩ | rfl := hs'
  · exact hs
  · rfl

end

/-! ### Values built in a writer of their own -/

section Nested

variable {body : EncodeM Unit} {P : Prop} {bytes : List UInt8}

variable {P' : Prop} {bytes' : List UInt8} {fields : List (UInt16 × List UInt8)}

/-- What a nested writer hands over, where it leaves nothing out. -/
lemma nested_complete (h : Fills body P bytes []) (capacity : ℕ) (s : Encoder) :
    Sat (nested capacity body) s
      (fun r s' => s' = { s with truncated := s'.truncated } ∧
        ∀ value, r = .ok value → s'.truncated = false →
          s' = s ∧ P ∧ value = bytes ∧ bytes.length ≤ capacity)
      (fun _ _ => False) := by
  have hbody := h.complete { s with capacity := capacity, data := [] }
  cases hx : body { s with capacity := capacity, data := [] } with
  | ok a s' =>
      have hok := sat_of_ok hbody hx
      have hrun : nested capacity body s =
          (pure (.ok s'.data) : EncodeM _) { s with truncated := s'.truncated } := by
        rw [nested, hx]
        rfl
      refine Sat.of_eq hrun (.pure ⟨rfl, ?_⟩)
      rintro value ⟨⟩ hclear
      obtain ⟨h0, hp, heq, hfit⟩ := hok hclear
      have hfit := hfit (Nat.zero_le _)
      rw [heq] at hfit ⊢
      exact ⟨rfl, hp, by simp [Encoder.fill], by simpa [Encoder.fill] using hfit⟩
  | error e s' =>
      have hrun : nested capacity body s =
          (pure (.error e) : EncodeM _) { s with truncated := s'.truncated } := by
        rw [nested, hx]
        rfl
      exact Sat.of_eq hrun (.pure ⟨rfl, nofun⟩)

lemma nested_fits (h : Fills body P bytes []) {capacity : ℕ} {s : Encoder}
    (h0 : s.truncated = false) (hp : P) (hroom : bytes.length ≤ capacity) :
    Sat (nested capacity body) s (fun r s' => r = .ok bytes ∧ s' = s) (fun _ _ => False) := by
  have hbody := h.fits { s with capacity := capacity, data := [] } h0 hp (by simpa using hroom)
  obtain ⟨_, s', hok, rfl⟩ := hbody.exists_ok
  have hrun : nested capacity body s = (pure (.ok bytes) : EncodeM _) s := by
    rw [nested, hok]
    simp only [Encoder.fill, List.nil_append]
    rfl
  exact Sat.of_eq hrun (.pure ⟨rfl, rfl⟩)

/-- A value that must fit its buffer, and what is done with it. -/
lemma fills_nestedValue (h : Fills body P bytes []) (capacity : ℕ) {put : List UInt8 → EncodeM Unit}
    (hput : bytes.length ≤ capacity → Fills (put bytes) P' bytes' fields)
    (hmarks : ∀ value, Marks (put value)) :
    Fills (nestedValue capacity body >>= put) ((P ∧ bytes.length ≤ capacity) ∧ P') bytes'
      fields where
  complete s := by
    rw [Returns, sat_bind, nestedValue]
    refine (nested_complete h capacity s).bind fun r s₁ h₁ => ?_
    cases r with
    | error e => exact .throw trivial
    | ok value =>
        rw [sat_pure]
        cases ht : s₁.truncated with
        | true =>
            refine (hmarks value s₁ ht).mono fun _ s' hs' hclear => ?_
            rw [hs'] at hclear
            cases hclear
        | false =>
            obtain ⟨rfl, hp, rfl, hfit⟩ := h₁.2 value rfl ht
            refine ((hput hfit).complete s₁).mono fun _ s' hs' hclear => ?_
            obtain ⟨h0, hp', heq⟩ := hs' hclear
            exact ⟨h0, ⟨⟨hp, hfit⟩, hp'⟩, heq⟩
  fits s h0 hp hroom := by
    rw [sat_bind, nestedValue]
    refine (nested_fits h h0 hp.1.1 hp.1.2).bind fun r s₁ h₁ => ?_
    obtain ⟨rfl, rfl⟩ := h₁
    rw [sat_pure]
    exact (hput hp.1.2).fits s₁ h0 hp.2 hroom

/-- A value that is left out where it does not fit its buffer, and what is done with it. -/
lemma fills_nestedOptional (h : Fills body P bytes []) (capacity : ℕ)
    {put : Option (List UInt8) → EncodeM Unit}
    (hput : bytes.length ≤ capacity → Fills (put (some bytes)) P' bytes' fields)
    (hmarks : ∀ value, Marks (put value)) :
    Fills (nestedOptional capacity body >>= put) ((P ∧ bytes.length ≤ capacity) ∧ P') bytes'
      fields where
  complete s := by
    have hmarked : ∀ {value : Option (List UInt8)} {s₁ : Encoder}, s₁.truncated = true →
        Returns (put value) s₁ fun _ s' => s'.truncated = false →
          s.truncated = false ∧ ((P ∧ bytes.length ≤ capacity) ∧ P') ∧ s' = s.fill bytes' fields ∧
            (s.data.length ≤ s.capacity → s'.data.length ≤ s.capacity) := fun {value s₁} ht =>
      (hmarks value s₁ ht).mono
        fun _ s' hs' hclear => absurd (hs'.symm.trans hclear) (by decide)
    rw [Returns, sat_bind, nestedOptional]
    refine (nested_complete h capacity s).bind fun r s₁ h₁ => ?_
    cases r with
    | error e =>
        cases e with
        | enospace =>
            dsimp only
            rw [sat_bind, markTruncated, sat_modify, sat_pure]
            exact hmarked rfl
        | _ => exact .throw trivial
    | ok value =>
        rw [sat_pure]
        cases ht : s₁.truncated with
        | true => exact hmarked ht
        | false =>
            obtain ⟨rfl, hp, rfl, hfit⟩ := h₁.2 value rfl ht
            refine ((hput hfit).complete s₁).mono fun _ s' hs' hclear => ?_
            obtain ⟨h0, hp', heq⟩ := hs' hclear
            exact ⟨h0, ⟨⟨hp, hfit⟩, hp'⟩, heq⟩
  fits s h0 hp hroom := by
    rw [sat_bind, nestedOptional]
    refine (nested_fits h h0 hp.1.1 hp.1.2).bind fun r s₁ h₁ => ?_
    obtain ⟨rfl, rfl⟩ := h₁
    rw [sat_pure]
    exact (hput hp.1.2).fits s₁ h0 hp.2 hroom

end Nested

end Latch
