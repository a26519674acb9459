
/-
Fragmentation followed by reassembly is the identity: `ls_transport_send` and
`ls_transport_reassembly_push` of `src/transport/transport.c`.

* `validateFragment_fragmentAt`: the receiver's computation of count, offset and length
  agrees with the sender's, so the fragments of an envelope pass their validation;
* `Collected`: the state of a context that has received some of the fragments of an
  envelope; `Collected.push_genuine` and `Collected.push_foreign` say what a push does in it;
* `reassembly_identity`: the fragments that are sent, pushed in any order with any
  repetition and with foreign ones in between, are put together to the envelope, at the push
  by which the last of them arrives.
-/
import Latch.Transport.Reassembly

namespace Latch.Transport

/-! ### The fragments of an envelope -/

section Genuine

variable {data : List UInt8} {mtu i : ℕ} {eventId : UInt32}

/-- The sizes of an envelope and its fragments fit their fields. -/
structure Fits (data : List UInt8) (mtu : ℕ) : Prop where
  length_pos : 0 < data.length
  length_le : data.length ≤ 0xffffffff
  mtu_pos : 0 < mtu
  mtu_le : mtu ≤ 0xffffffff
  count_le : fragmentCount data.length mtu ≤ 0xffff

lemma Fragmenting.fits {t : TransportBackend} (h : Fragmenting t data mtu) : Fits data mtu :=
  ⟨h.length_pos, h.length_le, h.mtu_pos, h.mtu_le, h.count_le⟩

/-- There are just enough fragments to cover the envelope. -/
lemma lt_fragmentCount_iff {length : ℕ} (hm : 0 < mtu) :
    i < fragmentCount length mtu ↔ i * mtu < length := by
  have hdiv := Nat.div_add_mod length mtu
  have hmod := Nat.mod_lt length hm
  rw [Nat.mul_comm] at hdiv
  rw [fragmentCount]
  generalize length / mtu = q at hdiv ⊢
  generalize length % mtu = r at hdiv hmod ⊢
  subst hdiv
  split_ifs with hr
  · constructor
    · intro h
      have := Nat.mul_le_mul_right mtu (Nat.lt_succ_iff.mp h)
      omega
    · intro h
      by_contra hle
      have := Nat.mul_le_mul_right mtu (not_lt.mp hle)
      rw [Nat.succ_mul] at this
      omega
  · rw [not_not] at hr
    rw [Nat.add_zero, hr, Nat.add_zero]
    exact (Nat.mul_lt_mul_right hm).symm

lemma fragmentCount_pos (h : Fits data mtu) : 0 < fragmentCount data.length mtu :=
  (lt_fragmentCount_iff h.mtu_pos).mpr (by rw [Nat.zero_mul]; exact h.length_pos)

lemma piece_length : (piece data mtu i).length = min mtu (data.length - i * mtu) := by
  rw [piece, List.length_take, List.length_drop]

section

variable (h : Fits data mtu) (hi : i < fragmentCount data.length mtu)

include h

lemma totalLength_toNat : (fragmentAt eventId data mtu i).totalLength.toNat = data.length := by
  have := h.length_le
  exact (UInt32.toNat_ofNat' ..).trans (Nat.mod_eq_of_lt (by omega))

lemma fragmentCapacity_toNat : (fragmentAt eventId data mtu i).fragmentCapacity.toNat = mtu := by
  have := h.mtu_le
  exact (UInt32.toNat_ofNat' ..).trans (Nat.mod_eq_of_lt (by omega))

lemma fragmentCount_toNat : (fragmentAt eventId data mtu i).fragmentCount.toNat =
    fragmentCount data.length mtu := by
  have := h.count_le
  exact (UInt16.toNat_ofNat' ..).trans (Nat.mod_eq_of_lt (by omega))

/-- The sender and the receiver compute the same number of fragments. -/
lemma expectedCount_toNat : (fragmentAt eventId data mtu i).expectedCount.toNat =
    fragmentCount data.length mtu := by
  have hcount := h.count_le
  have hmod : (fragmentAt eventId data mtu i).totalLength %
      (fragmentAt eventId data mtu i).fragmentCapacity ≠ 0 ↔ data.length % mtu ≠ 0 := by
    rw [ne_eq, ← UInt32.toNat_inj, UInt32.toNat_mod, totalLength_toNat h, fragmentCapacity_toNat h]
    rfl
  rw [fragmentCount] at hcount ⊢
  rw [Fragment.expectedCount, UInt32.toNat_add, UInt32.toNat_div, totalLength_toNat h,
    fragmentCapacity_toNat h]
  simp only [hmod]
  split_ifs at hcount ⊢
  · exact Nat.mod_eq_of_lt (by rw [UInt32.toNat_one]; omega)
  · exact Nat.mod_eq_of_lt (by rw [UInt32.toNat_zero]; omega)

include hi

lemma fragmentIndex_toNat : (fragmentAt eventId data mtu i).fragmentIndex.toNat = i := by
  have := h.count_le
  exact (UInt16.toNat_ofNat' ..).trans (Nat.mod_eq_of_lt (by omega))

lemma offset_toNat : (fragmentAt eventId data mtu i).offset.toNat = i * mtu := by
  have := h.length_le
  have := (lt_fragmentCount_iff h.mtu_pos).mp hi
  exact (UInt32.toNat_ofNat' ..).trans (Nat.mod_eq_of_lt (by omega))

lemma fragmentAt_inj {j : ℕ} (hj : j < fragmentCount data.length mtu)
    (he : fragmentAt eventId data mtu i = fragmentAt eventId data mtu j) : i = j := by
  rw [← @fragmentIndex_toNat data mtu i eventId h hi, he, fragmentIndex_toNat h hj]

/-- The sender and the receiver compute the same place for a fragment. -/
lemma expectedOffset_fragmentAt : (fragmentAt eventId data mtu i).expectedOffset = i * mtu := by
  rw [Fragment.expectedOffset, fragmentIndex_toNat h hi, fragmentCapacity_toNat h]

/-- The sender and the receiver compute the same length of a fragment. -/
lemma expectedLength_toNat : (fragmentAt eventId data mtu i).expectedLength.toNat =
    (piece data mtu i).length := by
  have hlt := (lt_fragmentCount_iff h.mtu_pos).mp hi
  have hle := h.length_le
  have hoffset : (UInt32.ofNat (i * mtu)).toNat = i * mtu :=
    (UInt32.toNat_ofNat' ..).trans (Nat.mod_eq_of_lt (by omega))
  have hrest : ((fragmentAt eventId data mtu i).totalLength - UInt32.ofNat (i * mtu)).toNat =
      data.length - i * mtu := by
    rw [UInt32.toNat_sub_of_le _ _ (by rw [UInt32.le_iff_toNat_le, hoffset, totalLength_toNat h]; omega),
      hoffset, totalLength_toNat h]
  simp only [Fragment.expectedLength, expectedOffset_fragmentAt h hi]
  rw [piece_length]
  split_ifs with hc
  · rw [UInt32.lt_iff_toNat_lt, hrest, fragmentCapacity_toNat h] at hc
    rw [fragmentCapacity_toNat h, min_eq_left hc.le]
  · rw [UInt32.lt_iff_toNat_lt, hrest, fragmentCapacity_toNat h, not_lt] at hc
    rw [hrest, min_eq_right hc]

end

/-- The buffers of a context are large enough for an envelope. -/
structure Roomy (sizeMax : ℕ) (r : Reassembly) (data : List UInt8) (mtu : ℕ) : Prop where
  buffer : r.data.isSome
  bitmap : r.received.isSome
  length_le : data.length ≤ r.capacity
  count_le : fragmentCount data.length mtu ≤ bitmapBits sizeMax r

/-- The fragments of an envelope pass their validation. -/
lemma validateFragment_fragmentAt {sizeMax : ℕ} {r : Reassembly} (h : Fits data mtu)
    (hroom : Roomy sizeMax r data mtu) (hi : i < fragmentCount data.length mtu) :
    validateFragment sizeMax r (fragmentAt eventId data mtu i) = none := by
  have hlt := (lt_fragmentCount_iff h.mtu_pos).mp hi
  have hlen : (fragmentAt eventId data mtu i).bytes.length = (piece data mtu i).length := rfl
  have hpiece : 0 < (piece data mtu i).length := by
    rw [piece_length]
    exact lt_min h.mtu_pos (by omega)
  have hzero : ∀ x : UInt32, x = 0 ↔ x.toNat = 0 := fun x => UInt32.toNat_inj.symm
  have hzero16 : ∀ x : UInt16, x = 0 ↔ x.toNat = 0 := fun x => UInt16.toNat_inj.symm
  have hpos := h.length_pos
  have hmtu := h.mtu_pos
  have hcap := hroom.length_le
  have hbits := hroom.count_le
  rw [validateFragment, if_neg, if_neg, if_neg, if_neg, if_neg]
  · rw [hlen, expectedLength_toNat h hi]
    simp only [ne_eq, not_true_eq_false, false_or]
    exact not_not.mpr rfl
  · rw [expectedOffset_fragmentAt h hi, totalLength_toNat h, offset_toNat h hi]
    omega
  · rw [hzero, expectedCount_toNat h, UInt32.lt_iff_toNat_lt, expectedCount_toNat h, ne_eq,
      ← UInt32.toNat_inj, UInt16.toNat_toUInt32, expectedCount_toNat h, fragmentCount_toNat h]
    have := h.count_le
    have : (0xffff : UInt32).toNat = 0xffff := rfl
    omega
  · rw [totalLength_toNat h, fragmentCount_toNat h]
    omega
  · rw [hlen, hzero, hzero, hzero16, totalLength_toNat h, fragmentCapacity_toNat h,
      fragmentCount_toNat h, UInt16.le_iff_toNat_le, fragmentCount_toNat h, fragmentIndex_toNat h hi]
    simp only [Option.isNone_iff_eq_none, Option.isSome_iff_ne_none.mp hroom.buffer,
      Option.isSome_iff_ne_none.mp hroom.bitmap, false_or, not_or]
    exact ⟨Option.some_ne_none _, by omega, by omega, by omega, by omega, by omega⟩

end Genuine

/-! ### Pieces and the envelope -/

section Pieces

variable {data : List UInt8} {mtu i j : ℕ}

lemma piece_getElem? {k : ℕ} (hk : k < mtu) : (piece data mtu i)[k]? = data[i * mtu + k]? := by
  rw [piece, List.getElem?_take_of_lt hk, List.getElem?_drop]

/-- Memory that holds every piece holds the envelope. -/
lemma read_of_pieces {m : ℕ → UInt8} (hm : 0 < mtu)
    (h : ∀ i < fragmentCount data.length mtu,
      Medium.read m (i * mtu) (piece data mtu i).length = piece data mtu i) :
    Medium.read m 0 data.length = data := by
  apply List.ext_getElem?
  intro a
  by_cases ha : a < data.length
  · -- the piece of `a`, and its place in there
    have hsplit : a / mtu * mtu + a % mtu = a := by
      rw [Nat.mul_comm]
      exact Nat.div_add_mod a mtu
    have hmod := Nat.mod_lt a hm
    have hk : a % mtu < (piece data mtu (a / mtu)).length := by
      rw [piece_length]
      exact lt_min hmod (by omega)
    have hpiece := h (a / mtu) ((lt_fragmentCount_iff hm).mpr (by omega))
    have hcell : (Medium.read m (a / mtu * mtu) (piece data mtu (a / mtu)).length)[a % mtu]? =
        (piece data mtu (a / mtu))[a % mtu]? := by rw [hpiece]
    rw [Medium.read_getElem? hk, piece_getElem? hmod, hsplit] at hcell
    rw [Medium.read_getElem? ha, Nat.zero_add, hcell]
  · rw [List.getElem?_eq_none (by simpa using ha), List.getElem?_eq_none (by omega)]

/-- Writing one piece leaves the others alone. -/
lemma read_write_piece {m : ℕ → UInt8} (hne : i ≠ j) :
    Medium.read (Medium.write m (j * mtu) (piece data mtu j)) (i * mtu) (piece data mtu i).length =
      Medium.read m (i * mtu) (piece data mtu i).length := by
  refine (Medium.agreeOff_write m (j * mtu) (piece data mtu j)).read_eq ?_
  have hi : (piece data mtu i).length ≤ mtu := piece_length.trans_le (min_le_left ..)
  have hj : (piece data mtu j).length ≤ mtu := piece_length.trans_le (min_le_left ..)
  rcases Nat.lt_or_gt_of_ne hne with hlt | hlt
  · have := Nat.mul_le_mul_right mtu (Nat.succ_le_of_lt hlt)
    rw [Nat.succ_mul] at this
    omega
  · have := Nat.mul_le_mul_right mtu (Nat.succ_le_of_lt hlt)
    rw [Nat.succ_mul] at this
    omega

end Pieces

/-! ### Collecting the fragments of an envelope -/

/-- The context has received the fragments in `got` of an envelope, and no other one. -/
structure Collected (eventId : UInt32) (data : List UInt8) (mtu : ℕ) (got : ℕ → Prop)
    (r : Reassembly) : Prop extends Safe r where
  active : r.active = true
  same : ∀ i, r.Matches (fragmentAt eventId data mtu i)
  bit_iff : ∀ i < fragmentCount data.length mtu, Bitmap.test r.bits i = true ↔ got i
  stored : ∀ i < fragmentCount data.length mtu, got i →
    Medium.read r.buffer (i * mtu) (piece data mtu i).length = piece data mtu i
  complete_iff : r.complete = true ↔ ∀ i < fragmentCount data.length mtu, got i

/-- What a push reports by which the fragments in `got` have been received: the length of the
envelope if these are all. -/
structure Reported (eventId : UInt32) (data : List UInt8) (mtu : ℕ) (got : ℕ → Prop)
    (pushed : Except Errno ℕ × Reassembly) : Prop where
  collected : Collected eventId data mtu got pushed.2
  last : (∀ i < fragmentCount data.length mtu, got i) → pushed.1 = .ok data.length
  early : (¬ ∀ i < fragmentCount data.length mtu, got i) → pushed.1 = .ok 0

/-- A fragment that fails its validation, or that has another envelope. -/
def Foreign (sizeMax : ℕ) (r : Reassembly) (g f : Fragment) : Prop :=
  validateFragment sizeMax r f ≠ none ∨ f.eventId ≠ g.eventId ∨ f.envelopeCrc ≠ g.envelopeCrc ∨
    f.totalLength ≠ g.totalLength ∨ f.fragmentCapacity ≠ g.fragmentCapacity ∨
    f.fragmentCount ≠ g.fragmentCount

section Collecting

variable {sizeMax : ℕ} {data : List UInt8} {mtu j : ℕ} {eventId : UInt32} {got : ℕ → Prop}
  {r : Reassembly} {f : Fragment}

lemma validateFragment_congr {r' : Reassembly} (h : SameBuffers r r') :
    validateFragment sizeMax r' f = validateFragment sizeMax r f := by
  have hdata : r'.data.isNone = r.data.isNone := by
    rw [← Option.not_isSome, h.data, Option.not_isSome]
  have hreceived : r'.received.isNone = r.received.isNone := by
    rw [← Option.not_isSome, h.received, Option.not_isSome]
  rw [validateFragment, validateFragment, bitmapBits, bitmapBits, hdata, hreceived, h.capacity,
    h.receivedCapacity]

lemma Roomy.congr {r' : Reassembly} (h : Roomy sizeMax r data mtu) (hs : SameBuffers r r') :
    Roomy sizeMax r' data mtu :=
  ⟨hs.data ▸ h.buffer, hs.received ▸ h.bitmap, hs.capacity ▸ h.length_le,
    by rw [bitmapBits, hs.receivedCapacity]; exact h.count_le⟩

/-- A foreign fragment is refused. -/
lemma Collected.push_foreign (hc : Collected eventId data mtu got r)
    (hf : Foreign sizeMax r (fragmentAt eventId data mtu j) f) :
    ∃ e, lsTransportReassemblyPush sizeMax f r = (.error e, r) := by
  rw [lsTransportReassemblyPush]
  cases hv : validateFragment sizeMax r f with
  | some e => exact ⟨e, rfl⟩
  | none =>
      have hother : ¬ r.Matches f := by
        rintro ⟨h₁, h₂, h₃, h₄, h₅⟩
        obtain ⟨g₁, g₂, g₃, g₄, g₅⟩ := hc.same j
        rcases hf with hf | hf | hf | hf | hf | hf
        · exact hf hv
        · exact hf (h₁.symm.trans g₁)
        · exact hf (h₂.symm.trans g₂)
        · exact hf (h₃.symm.trans g₃)
        · exact hf (h₄.symm.trans g₄)
        · exact hf (h₅.symm.trans g₅)
      dsimp only
      rw [if_pos hc.active, if_neg hother, ite_self]
      exact ⟨_, rfl⟩

/-- In a complete context every fragment is refused. -/
lemma push_complete (hc : r.complete = true) (hv : validateFragment sizeMax r f = none) :
    lsTransportReassemblyPush sizeMax f r = (.error .ebusy, r) := by
  rw [lsTransportReassemblyPush, hv]
  exact if_pos hc

lemma buffer_store (h : r.data.isSome) :
    (r.store f).buffer = Medium.write r.buffer f.offset.toNat f.bytes := by
  obtain ⟨buffer, hbuffer⟩ := Option.isSome_iff_exists.mp h
  simp [Reassembly.buffer, Reassembly.store, hbuffer]

lemma Collected.congr {got' : ℕ → Prop} (hc : Collected eventId data mtu got r)
    (h : ∀ i < fragmentCount data.length mtu, got i ↔ got' i) :
    Collected eventId data mtu got' r :=
  { hc with
    bit_iff := fun i hi => (hc.bit_iff i hi).trans (h i hi)
    stored := fun i hi hg => hc.stored i hi ((h i hi).mpr hg)
    complete_iff := hc.complete_iff.trans (forall₂_congr h) }

/-- A complete context holds the envelope. -/
lemma Collected.read_complete (hc : Collected eventId data mtu got r) (hm : 0 < mtu)
    (hall : ∀ i < fragmentCount data.length mtu, got i) :
    Medium.read r.buffer 0 data.length = data :=
  read_of_pieces hm fun i hi => hc.stored i hi (hall i hi)

/-- The counter of a context reaches the number of fragments when all bits are set. -/
lemma receivedCount_eq_iff (h : Fits data mtu) (hs : Safe r) (ha : r.active = true)
    (hm : r.Matches (fragmentAt eventId data mtu j)) :
    r.receivedCount = r.fragmentCount ↔
      ∀ i < fragmentCount data.length mtu, Bitmap.test r.bits i = true := by
  have ⟨hle, hbelow⟩ := hs.bounded ha
  have hcount : r.fragmentCount.toNat = fragmentCount data.length mtu := by
    rw [hm.2.2.2.2, fragmentCount_toNat h]
  rw [← UInt16.toNat_inj, hs.counted, Bitmap.count_of_below hle hbelow, hcount]
  exact ⟨Bitmap.all_of_count, Bitmap.count_of_all⟩

section Accept

variable (h : Fits data mtu) (hj : j < fragmentCount data.length mtu)

include h hj

/-- A new fragment is stored, and counts once. -/
lemma Collected.store (hc : Collected eventId data mtu got r)
    (hready : Ready r (fragmentAt eventId data mtu j)) (hnew : Bitmap.test r.bits j = false) :
    Safe (r.store (fragmentAt eventId data mtu j)) ∧
    (∀ i < fragmentCount data.length mtu,
      Bitmap.test (r.store (fragmentAt eventId data mtu j)).bits i = true ↔ got i ∨ i = j) ∧
    (∀ i < fragmentCount data.length mtu, got i ∨ i = j →
      Medium.read (r.store (fragmentAt eventId data mtu j)).buffer (i * mtu)
        (piece data mtu i).length = piece data mtu i) := by
  have hindex := @fragmentIndex_toNat data mtu j eventId h hj
  refine ⟨hready.safe_store (hindex.symm ▸ hnew), fun i hi => ?_, fun i hi hg => ?_⟩
  · rw [bits_store hready.received, hindex, Bitmap.test_set, Bool.or_eq_true, decide_eq_true_iff,
      hc.bit_iff i hi, or_comm]
  · have hbytes : (fragmentAt eventId data mtu j).bytes = piece data mtu j := rfl
    rw [buffer_store hready.data, offset_toNat h hj, hbytes]
    by_cases hij : i = j
    · rw [hij]
      exact Medium.read_write_same ..
    · rw [read_write_piece hij]
      exact hc.stored i hi (hg.resolve_right hij)

/-- **What a fragment of the envelope does.** It is received; the last one completes the
envelope. -/
lemma Collected.accept (hc : Collected eventId data mtu got r)
    (hready : Ready r (fragmentAt eventId data mtu j)) :
    Reported eventId data mtu (fun i => got i ∨ i = j)
      (acceptFragment (fragmentAt eventId data mtu j) r) := by
  have hindex := @fragmentIndex_toNat data mtu j eventId h hj
  have hlogged : Ready (r.logged (.bitmap ((fragmentAt eventId data mtu j).fragmentIndex.toNat / 8) 1))
      (fragmentAt eventId data mtu j) := { hready with within := hready.within_logged }
  have hc₁ : Collected eventId data mtu got
      (r.logged (.bitmap ((fragmentAt eventId data mtu j).fragmentIndex.toNat / 8) 1)) :=
    { hc with within := hready.within_logged }
  simp only [acceptFragment]
  generalize r.logged (.bitmap ((fragmentAt eventId data mtu j).fragmentIndex.toNat / 8) 1) = r₁
    at hlogged hc₁ ⊢
  rw [hindex]
  cases hbit : Bitmap.test r₁.bits j with
  | true =>
      -- received before: the bytes are the same
      have hgot := (hc₁.bit_iff j hj).mp hbit
      have hsame : ∀ i < fragmentCount data.length mtu, got i ↔ got i ∨ i = j := fun i _ =>
        ⟨.inl, fun hg => hg.elim id fun he => he ▸ hgot⟩
      have hmissing : ¬ ∀ i < fragmentCount data.length mtu, got i ∨ i = j := fun hall =>
        absurd (hc₁.complete_iff.mpr fun i hi => (hsame i hi).mpr (hall i hi))
          (by rw [hlogged.incomplete]; exact Bool.false_ne_true)
      have hbytes : Medium.read r₁.buffer (fragmentAt eventId data mtu j).offset.toNat
          (fragmentAt eventId data mtu j).bytes.length = (fragmentAt eventId data mtu j).bytes := by
        rw [offset_toNat h hj]
        exact hc₁.stored j hj hgot
      rw [if_pos rfl, if_neg (not_not.mpr hbytes)]
      exact ⟨hc₁.congr hsame, fun hall => absurd hall hmissing, fun _ => rfl⟩
  | false =>
      obtain ⟨hsafe, hbits, hstored⟩ := hc₁.store h hj hlogged hbit
      have hsame : ∀ i, (r₁.store (fragmentAt eventId data mtu j)).Matches
          (fragmentAt eventId data mtu i) := hc₁.same
      have hcount := receivedCount_eq_iff h hsafe hlogged.active (hsame j)
      rw [forall₂_congr hbits] at hcount
      have hlength : (r₁.store (fragmentAt eventId data mtu j)).totalLength.toNat = data.length := by
        rw [(hsame j).2.2.1, totalLength_toNat h]
      rw [if_neg Bool.false_ne_true]
      by_cases hall : ∀ i < fragmentCount data.length mtu, got i ∨ i = j
      · have hcrc : lsCrc32 (Medium.read (r₁.store (fragmentAt eventId data mtu j)).buffer 0
            (r₁.store (fragmentAt eventId data mtu j)).totalLength.toNat) =
            (r₁.store (fragmentAt eventId data mtu j)).envelopeCrc := by
          rw [hlength, read_of_pieces h.mtu_pos fun i hi => hstored i hi (hall i hi), (hsame j).2.1]
          rfl
        rw [if_neg (not_not.mpr (hcount.mpr hall)), if_neg (not_not.mpr hcrc)]
        refine ⟨⟨{ hsafe with finished := fun _ => ⟨?_, hcrc⟩ }, hlogged.active, hsame, hbits,
          hstored, iff_of_true rfl hall⟩, fun _ => congrArg Except.ok hlength,
          fun hnot => absurd hall hnot⟩
        intro i hi
        rw [(hsame j).2.2.2.2, fragmentCount_toNat h] at hi
        exact (hbits i hi).mpr (hall i hi)
      · rw [if_pos fun he => hall (hcount.mp he)]
        exact ⟨⟨hsafe, hlogged.active, hsame, hbits, hstored, iff_of_false
          (fun hd => absurd (hd.symm.trans hlogged.incomplete) (by decide)) hall⟩,
          fun hyes => absurd hyes hall, fun _ => rfl⟩

end Accept

/-- The context with the first fragment of an envelope has received none of them. -/
lemma collected_begin (h : Fits data mtu) (hincomplete : r.complete = false)
    (hready : Ready (r.begin (fragmentAt eventId data mtu j)) (fragmentAt eventId data mtu j)) :
    Collected eventId data mtu (fun _ => False) (r.begin (fragmentAt eventId data mtu j)) := by
  have hle := (hready.bounded hready.active).1
  rw [hready.same.2.2.2.2, fragmentCount_toNat h] at hle
  refine ⟨hready.toSafe, hready.active, fun i => ⟨rfl, rfl, rfl, rfl, rfl⟩, fun i hi => ?_,
    fun i hi hg => hg.elim, ?_⟩
  · have hclear : Bitmap.test r.clear.bits i = false := bits_clear (hi.trans_le hle)
    exact iff_of_false (fun hset => absurd (hset.symm.trans hclear) (by decide)) id
  · refine iff_of_false (fun hc => ?_) fun hall => hall 0 (fragmentCount_pos h)
    exact absurd (hc.symm.trans hincomplete) (by decide)

/-- A fragment of the envelope that is pushed before it is complete. -/
lemma Collected.push_genuine (h : Fits data mtu) (hj : j < fragmentCount data.length mtu)
    (hc : Collected eventId data mtu got r) (hroom : Roomy sizeMax r data mtu)
    (hmissing : ¬ ∀ i < fragmentCount data.length mtu, got i) :
    Reported eventId data mtu (fun i => got i ∨ i = j)
      (lsTransportReassemblyPush sizeMax (fragmentAt eventId data mtu j) r) := by
  have hincomplete : r.complete = false := by
    rw [← Bool.not_eq_true, hc.complete_iff]
    exact hmissing
  have hv := @validateFragment_fragmentAt data mtu j eventId sizeMax r h hroom hj
  have haccept := hc.accept h hj ((Taken.next hv hincomplete hc.active (hc.same j)).ready hc.toSafe)
  rw [lsTransportReassemblyPush, hv]
  simp only [hincomplete, Bool.false_eq_true, if_false, hc.active, if_true, if_pos (hc.same j)]
  exact haccept

end Collecting

/-! ### Whole feeds -/

/-- A context that waits for the first fragment of an envelope. -/
structure Idle (r : Reassembly) : Prop extends Safe r where
  inactive : r.active = false
  incomplete : r.complete = false

lemma idle_init (data : Option (ℕ → UInt8)) (capacity : ℕ) (received : Option (ℕ → UInt8))
    (receivedCapacity : ℕ) :
    Idle (lsTransportReassemblyInit data capacity received receivedCapacity) :=
  ⟨safe_init .., rfl, rfl⟩

section

variable {sizeMax : ℕ} {data : List UInt8} {mtu j : ℕ} {eventId : UInt32} {r : Reassembly}

variable {f : Fragment} {pre : List Fragment}

/-- The first fragment of an envelope. -/
lemma Idle.push_first (hr : Idle r) (h : Fits data mtu) (hroom : Roomy sizeMax r data mtu)
    (hj : j < fragmentCount data.length mtu) :
    Reported eventId data mtu (fun i => i = j)
      (lsTransportReassemblyPush sizeMax (fragmentAt eventId data mtu j) r) := by
  have hv := @validateFragment_fragmentAt data mtu j eventId sizeMax r h hroom hj
  have hready := (Taken.first hv hr.incomplete hr.inactive).ready hr.toSafe
  have haccept := (collected_begin h hr.incomplete hready).accept h hj hready
  simp only [false_or] at haccept
  rw [lsTransportReassemblyPush, hv]
  simp only [hr.incomplete, hr.inactive, Bool.false_eq_true, if_false]
  exact haccept

/-- The fragments of an envelope are not foreign to it. -/
lemma not_foreign {i : ℕ} (h : Fits data mtu) (hroom : Roomy sizeMax r data mtu)
    (hi : i < fragmentCount data.length mtu) :
    ¬ Foreign sizeMax r (fragmentAt eventId data mtu j) (fragmentAt eventId data mtu i) := by
  rintro (hv | hk | hk | hk | hk | hk)
  · exact hv (validateFragment_fragmentAt h hroom hi)
  all_goals exact hk rfl

lemma mem_fragments : f ∈ fragments eventId data mtu ↔
    ∃ i < fragmentCount data.length mtu, f = fragmentAt eventId data mtu i := by
  simp only [fragments, List.mem_map, List.mem_range, eq_comm]

lemma forall_mem_fragments {p : Fragment → Prop} : (∀ f ∈ fragments eventId data mtu, p f) ↔
    ∀ i < fragmentCount data.length mtu, p (fragmentAt eventId data mtu i) := by
  simp only [fragments, List.forall_mem_map, List.mem_range]

/-- One more fragment of the envelope in the feed. -/
lemma mem_append_fragmentAt {i : ℕ} (h : Fits data mtu)
    (hi : i < fragmentCount data.length mtu) (hj : j < fragmentCount data.length mtu) :
    fragmentAt eventId data mtu i ∈ pre ++ [fragmentAt eventId data mtu j] ↔
      fragmentAt eventId data mtu i ∈ pre ∨ i = j := by
  rw [List.mem_append, List.mem_singleton]
  exact or_congr_right ⟨fragmentAt_inj h hi hj, fun he => he ▸ rfl⟩

/-- A fragment that is pushed to a context that has received `pre`. -/
lemma Collected.push
    (hc : Collected eventId data mtu (fun i => fragmentAt eventId data mtu i ∈ pre) r)
    (h : Fits data mtu) (hroom : Roomy sizeMax r data mtu)
    (hf : f ∈ fragments eventId data mtu ∨
      Foreign sizeMax r (fragmentAt eventId data mtu j) f) :
    Collected eventId data mtu (fun i => fragmentAt eventId data mtu i ∈ pre ++ [f])
      (pushStep sizeMax f r) := by
  rcases hf with hf | hf
  · obtain ⟨k, hk, rfl⟩ := mem_fragments.mp hf
    by_cases hall : ∀ i < fragmentCount data.length mtu, fragmentAt eventId data mtu i ∈ pre
    · rw [pushStep, push_complete (hc.complete_iff.mpr hall) (validateFragment_fragmentAt h hroom hk)]
      exact hc.congr fun i hi => iff_of_true (hall i hi) (List.mem_append_left _ (hall i hi))
    · exact (hc.push_genuine h hk hroom hall).collected.congr fun i hi =>
        (mem_append_fragmentAt h hi hk).symm
  · obtain ⟨e, he⟩ := hc.push_foreign hf
    rw [pushStep, he]
    refine hc.congr fun i hi => ⟨List.mem_append_left _, fun hmem => ?_⟩
    refine (List.mem_append.mp hmem).resolve_right fun hlast => ?_
    exact not_foreign h hroom hi (List.mem_singleton.mp hlast ▸ hf)

lemma sameBuffers_after (sizeMax : ℕ) (fs : List Fragment) (r : Reassembly) :
    SameBuffers r (Run.after (pushStep sizeMax) fs r) :=
  Run.after_rel (R := SameBuffers) (fun _ => ⟨rfl, rfl, rfl, rfl⟩) (fun _ _ _ => .trans)
    (fun f s _ => sameBuffers_push sizeMax f s) (Run.meets_of_forall (C := fun _ _ => True)
      (fun _ _ => trivial) fs r)

lemma Foreign.congr {r' : Reassembly} {g : Fragment} (hf : Foreign sizeMax r g f)
    (hs : SameBuffers r r') : Foreign sizeMax r' g f := by
  rw [Foreign, validateFragment_congr hs]
  exact hf

/-- **What a context has received** after a feed that starts with a fragment of an
envelope. -/
lemma Idle.collected_after (hr : Idle r) (h : Fits data mtu) (hroom : Roomy sizeMax r data mtu)
    (hj : j < fragmentCount data.length mtu) {rest : List Fragment}
    (hrest : ∀ f ∈ rest, f ∈ fragments eventId data mtu ∨
      Foreign sizeMax r (fragmentAt eventId data mtu j) f) :
    Collected eventId data mtu
      (fun i => fragmentAt eventId data mtu i ∈ fragmentAt eventId data mtu j :: rest)
      (Run.after (pushStep sizeMax) (fragmentAt eventId data mtu j :: rest) r) := by
  induction rest using List.reverseRecOn with
  | nil =>
      exact (hr.push_first h hroom hj).collected.congr fun i hi =>
        ⟨fun he => he ▸ List.mem_singleton_self _,
          fun hmem => fragmentAt_inj h hi hj (List.mem_singleton.mp hmem)⟩
  | append_singleton rest f ih =>
      have hbuffers := sameBuffers_after sizeMax (fragmentAt eventId data mtu j :: rest) r
      have hcollected := ih fun g hg => hrest g (List.mem_append_left _ hg)
      have hf := (hrest f (List.mem_append_right _ (List.mem_singleton_self f))).imp_right
        fun hf => hf.congr hbuffers
      rw [← List.cons_append, Run.after_append]
      exact hcollected.push h (hroom.congr hbuffers) hf

/-- The report of a push, in terms of the feed. -/
lemma Reported.of_feed {got : ℕ → Prop}
    {pushed : Except Errno ℕ × Reassembly} (h : Reported eventId data mtu got pushed)
    (hm : 0 < mtu)
    (hgot : ∀ i < fragmentCount data.length mtu,
      got i ↔ fragmentAt eventId data mtu i ∈ pre ++ [f]) :
    if ∀ g ∈ fragments eventId data mtu, g ∈ pre ++ [f] then
      pushed.1 = .ok data.length ∧ Medium.read pushed.2.buffer 0 data.length = data
    else pushed.1 = .ok 0 := by
  have hiff : (∀ g ∈ fragments eventId data mtu, g ∈ pre ++ [f]) ↔
      ∀ i < fragmentCount data.length mtu, got i := by
    rw [forall_mem_fragments]
    exact forall₂_congr fun i hi => (hgot i hi).symm
  split_ifs with hall
  · exact ⟨h.last (hiff.mp hall), h.collected.read_complete hm (hiff.mp hall)⟩
  · exact h.early fun hgot => hall (hiff.mpr hgot)

end

/-- **Fragmentation followed by reassembly is the identity.** The fragments that
`ls_transport_send` emits are pushed, in any order and with any repetition, to a context with
enough room; after the first one there may be foreign fragments in between. A foreign
fragment is refused and changes nothing. The push by which the last missing fragment arrives
reports the length, with the bytes of the envelope in the buffer; accepted pushes before it
report none, and later ones are refused. -/
theorem reassembly_identity (sizeMax : ℕ) (t : TransportBackend) (eventId : UInt32)
    (data : List UInt8) (mtu : ℕ) (h : Fragmenting t data mtu) (r₀ : Reassembly) (hr : Idle r₀)
    (hroom : Roomy sizeMax r₀ data mtu) :
    let sent := emitted mtu (lsTransportSend t eventId data)
    ∀ first ∈ sent, ∀ rest : List Fragment,
      (∀ f ∈ rest, f ∈ sent ∨ Foreign sizeMax r₀ first f) →
      ∀ pre f post, first :: rest = pre ++ f :: post →
        let r := Run.after (pushStep sizeMax) pre r₀
        let pushed := lsTransportReassemblyPush sizeMax f r
        (f ∉ sent → (∃ e, pushed.1 = .error e) ∧ pushed.2 = r) ∧
        (f ∈ sent →
          if ∀ g ∈ sent, g ∈ pre then pushed = (.error .ebusy, r)
          else if ∀ g ∈ sent, g ∈ pre ++ [f] then
            pushed.1 = .ok data.length ∧ Medium.read pushed.2.buffer 0 data.length = data
          else pushed.1 = .ok 0) := by
  have hfits := h.fits
  rw [(lsTransportSend_serving h eventId).2]
  intro sent first hfirst rest hrest pre f post hfeed r pushed
  obtain ⟨j, hj, rfl⟩ := mem_fragments.mp hfirst
  cases pre with
  | nil =>
      obtain ⟨rfl, rfl⟩ := List.cons.inj hfeed
      refine ⟨fun hnot => absurd hfirst hnot, fun _ => ?_⟩
      rw [if_neg fun hall => absurd (hall _ hfirst) List.not_mem_nil]
      refine (hr.push_first hfits hroom hj).of_feed hfits.mtu_pos fun i hi => ?_
      rw [mem_append_fragmentAt hfits hi hj]
      exact ⟨.inr, fun hor => hor.resolve_left List.not_mem_nil⟩
  | cons g pre =>
      obtain ⟨rfl, rfl⟩ := List.cons.inj hfeed
      have hbuffers := sameBuffers_after sizeMax (fragmentAt eventId data mtu j :: pre) r₀
      have hc := hr.collected_after hfits hroom hj fun f hf => hrest f (List.mem_append_left _ hf)
      have hf := hrest f (List.mem_append_right _ (List.mem_cons_self ..))
      refine ⟨fun hnot => ?_, fun hmem => ?_⟩
      · obtain ⟨e, he⟩ := hc.push_foreign ((hf.resolve_left hnot).congr hbuffers)
        exact ⟨⟨e, congrArg Prod.fst he⟩, congrArg Prod.snd he⟩
      · obtain ⟨k, hk, rfl⟩ := mem_fragments.mp hmem
        by_cases hall : ∀ g ∈ sent, g ∈ fragmentAt eventId data mtu j :: pre
        · rw [if_pos hall]
          exact push_complete (hc.complete_iff.mpr (forall_mem_fragments.mp hall))
            (validateFragment_fragmentAt hfits (hroom.congr hbuffers) hk)
        · rw [if_neg hall]
          have hpushed := hc.push_genuine hfits hk (hroom.congr hbuffers) fun h =>
            hall (forall_mem_fragments.mpr h)
          exact hpushed.of_feed hfits.mtu_pos fun i hi => (mem_append_fragmentAt hfits hi hk).symm

/-- A transport that takes fragments only. -/
def fragmentBackend : TransportBackend :=
  { hasAvailable := false, hasSend := false, hasSendFragment := false, hasSendFragmentV2 := true
    hasMaxPayload := true, hasRetry := false, capabilities := 2, retryLimit := 0 }

/-- Three bytes in two fragments: the second one, a foreign one, the second one again and the
first. The theorem applies to the last of these pushes, which reports the envelope. -/
theorem reassembly_identity_three :
    let sent := fun i => fragmentAt 7 [1, 2, 3] 2 i
    let fresh := lsTransportReassemblyInit (some fun _ => 0) 4 (some fun _ => 0xff) 1
    let r := Run.after (pushStep 0xffffffff) [sent 1, { sent 0 with eventId := 8 }, sent 1] fresh
    let pushed := lsTransportReassemblyPush 0xffffffff (sent 0) r
    Fragmenting fragmentBackend [1, 2, 3] 2 ∧ Idle fresh ∧ Roomy 0xffffffff fresh [1, 2, 3] 2 ∧
      pushed.1 = .ok 3 ∧ Medium.read pushed.2.buffer 0 3 = [1, 2, 3] := by
  intro sent fresh r pushed
  have hfragmenting : Fragmenting fragmentBackend [1, 2, 3] 2 := by constructor <;> decide
  have hroom : Roomy 0xffffffff fresh [1, 2, 3] 2 := by constructor <;> decide
  have hidle : Idle fresh := idle_init ..
  have hsent : emitted 2 (lsTransportSend fragmentBackend 7 [1, 2, 3]) = [sent 0, sent 1] :=
    (lsTransportSend_serving hfragmenting 7).2
  have hpush := reassembly_identity 0xffffffff fragmentBackend 7 [1, 2, 3] 2 hfragmenting fresh
    hidle hroom
  rw [hsent] at hpush
  have hlast := (hpush (sent 1) (by simp) [{ sent 0 with eventId := 8 }, sent 1, sent 0] (by
    simp only [List.forall_mem_cons, List.not_mem_nil, false_imp_iff, implies_true, and_true]
    exact ⟨.inr (.inr (.inl (by decide))), .inl (by simp), .inl (by simp)⟩)
    [sent 1, { sent 0 with eventId := 8 }, sent 1] (sent 0) [] rfl).2 (by simp)
  rw [if_neg (by decide +kernel), if_pos (by simp)] at hlast
  exact ⟨hfragmenting, hidle, hroom, hlast⟩

end Latch.Transport
