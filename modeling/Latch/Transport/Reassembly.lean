/-
Reassembly of fragments: `ls_transport_reassembly_push` of `src/transport/transport.c`.

The context holds two buffers of its caller, one for the envelope and a bitmap with one bit
for each fragment. The accesses to them are logged, so that the bounds can be stated.

`push_cases` says what a push can do. From it follows `reassembly_safe`: whatever is pushed,
the accesses stay inside the buffers, the counter agrees with the bitmap, and a context that
is complete holds an envelope with the CRC of its fragments.
-/
import Latch.Lib.Bitmap
import Latch.Lib.Run
import Latch.Transport.Send

namespace Latch.Transport

/-! ### The context -/

/-- An access to the buffers: bytes of the envelope, with the length of the envelope then,
or bytes of the bitmap. -/
inductive Access where
  | write (offset length total : ℕ)
  | bitmap (first length : ℕ)

/-- `ls_transport_reassembly_t`. A null pointer is `none`. `accesses` are those that were
made, the last one first; no function reads them. -/
structure Reassembly where
  data : Option (ℕ → UInt8)
  capacity : ℕ
  received : Option (ℕ → UInt8)
  receivedCapacity : ℕ
  eventId : UInt32
  envelopeCrc : UInt32
  totalLength : UInt32
  fragmentCapacity : UInt32
  fragmentCount : UInt16
  receivedCount : UInt16
  active : Bool
  complete : Bool
  accesses : List Access

namespace Reassembly

/-- The bytes of the envelope buffer. -/
def buffer (r : Reassembly) : ℕ → UInt8 := r.data.getD fun _ => 0

/-- The bytes of the bitmap. -/
def bits (r : Reassembly) : ℕ → UInt8 := r.received.getD fun _ => 0

/-- Logs an access. -/
def logged (r : Reassembly) (access : Access) : Reassembly :=
  { r with accesses := access :: r.accesses }

/-- Clears the bitmap. -/
def clear (r : Reassembly) : Reassembly :=
  { r.logged (.bitmap 0 r.receivedCapacity) with
    received := r.received.map fun bits => Medium.fill bits 0 r.receivedCapacity 0 }

end Reassembly

/-- `ls_transport_reassembly_reset`. -/
def lsTransportReassemblyReset (r : Reassembly) : Reassembly :=
  let r := if r.received.isSome ∧ r.receivedCapacity ≠ 0 then r.clear else r
  { r with
    eventId := 0, envelopeCrc := 0, totalLength := 0, fragmentCapacity := 0, fragmentCount := 0
    receivedCount := 0, active := false, complete := false }

/-- `ls_transport_reassembly_init`. -/
def lsTransportReassemblyInit (data : Option (ℕ → UInt8)) (capacity : ℕ)
    (received : Option (ℕ → UInt8)) (receivedCapacity : ℕ) : Reassembly :=
  lsTransportReassemblyReset
    { data := data, capacity := capacity, received := received
      receivedCapacity := receivedCapacity, eventId := 0, envelopeCrc := 0, totalLength := 0
      fragmentCapacity := 0, fragmentCount := 0, receivedCount := 0, active := false
      complete := false, accesses := [] }

/-! ### Fragments -/

namespace Fragment

/-- The bytes of a fragment. -/
def bytes (f : Fragment) : List UInt8 := f.data.getD []

/-- The number of fragments that the sizes of a fragment stand for. -/
def expectedCount (f : Fragment) : UInt32 :=
  f.totalLength / f.fragmentCapacity + if f.totalLength % f.fragmentCapacity ≠ 0 then 1 else 0

/-- Where the bytes of a fragment belong. -/
def expectedOffset (f : Fragment) : ℕ := f.fragmentIndex.toNat * f.fragmentCapacity.toNat

/-- How many bytes a fragment should have. -/
def expectedLength (f : Fragment) : UInt32 :=
  let rest := f.totalLength - UInt32.ofNat f.expectedOffset
  if f.fragmentCapacity < rest then f.fragmentCapacity else rest

end Fragment

/-- The number of bits in the bitmap, as `received_capacity * 8u` computes it. -/
def bitmapBits (sizeMax : ℕ) (r : Reassembly) : ℕ := r.receivedCapacity * 8 % (sizeMax + 1)

/-- `validate_fragment`; `none` stands for `LS_OK`. -/
def validateFragment (sizeMax : ℕ) (r : Reassembly) (f : Fragment) : Option Errno :=
  if r.data.isNone ∨ r.received.isNone ∨ f.data.isNone ∨ f.bytes.length = 0 ∨
      f.totalLength = 0 ∨ f.fragmentCapacity = 0 ∨ f.fragmentCount = 0 ∨
      f.fragmentCount ≤ f.fragmentIndex then some .einval
  else if r.capacity < f.totalLength.toNat ∨ bitmapBits sizeMax r < f.fragmentCount.toNat then
    some .enospace
  else if f.expectedCount = 0 ∨ 0xffff < f.expectedCount ∨
      f.fragmentCount.toUInt32 ≠ f.expectedCount then some .ecorrupt
  else if f.totalLength.toNat ≤ f.expectedOffset ∨ f.offset.toNat ≠ f.expectedOffset then
    some .ecorrupt
  else if f.bytes.length ≠ f.expectedLength.toNat ∨ f.fragmentCrc ≠ lsCrc32 f.bytes then
    some .ecorrupt
  else none

/-! ### Pushing -/

namespace Reassembly

/-- The fragment belongs to the envelope that is being put together. -/
def Matches (r : Reassembly) (f : Fragment) : Prop :=
  r.eventId = f.eventId ∧ r.envelopeCrc = f.envelopeCrc ∧ r.totalLength = f.totalLength ∧
    r.fragmentCapacity = f.fragmentCapacity ∧ r.fragmentCount = f.fragmentCount

instance (r : Reassembly) (f : Fragment) : Decidable (r.Matches f) :=
  inferInstanceAs (Decidable (_ ∧ _))

/-- The context with the first fragment of an envelope. -/
def begin (r : Reassembly) (f : Fragment) : Reassembly :=
  { r.clear with
    eventId := f.eventId, envelopeCrc := f.envelopeCrc, totalLength := f.totalLength
    fragmentCapacity := f.fragmentCapacity, fragmentCount := f.fragmentCount
    receivedCount := 0, active := true }

/-- Copies the bytes of a fragment, and marks it in the bitmap. -/
def store (r : Reassembly) (f : Fragment) : Reassembly :=
  { r.logged (.write f.offset.toNat f.bytes.length r.totalLength.toNat) with
    data := r.data.map fun buffer => Medium.write buffer f.offset.toNat f.bytes
    received := r.received.map fun bits => Bitmap.set bits f.fragmentIndex.toNat
    receivedCount := r.receivedCount + 1 }

end Reassembly

/-- `ls_transport_reassembly_push` from the look at the bitmap on. -/
def acceptFragment (f : Fragment) (r : Reassembly) : Except Errno ℕ × Reassembly :=
  let r := r.logged (.bitmap (f.fragmentIndex.toNat / 8) 1)
  if Bitmap.test r.bits f.fragmentIndex.toNat then
    if Medium.read r.buffer f.offset.toNat f.bytes.length ≠ f.bytes then
      (.error .ecorrupt, lsTransportReassemblyReset r)
    else (.ok 0, r)
  else
    let r := r.store f
    if r.receivedCount ≠ r.fragmentCount then (.ok 0, r)
    else if lsCrc32 (Medium.read r.buffer 0 r.totalLength.toNat) ≠ r.envelopeCrc then
      (.error .ecorrupt, lsTransportReassemblyReset r)
    else (.ok r.totalLength.toNat, { r with complete := true })

/-- `ls_transport_reassembly_push`: its result with the length of the envelope, and the
context behind it. -/
def lsTransportReassemblyPush (sizeMax : ℕ) (f : Fragment) (r : Reassembly) :
    Except Errno ℕ × Reassembly :=
  match validateFragment sizeMax r f with
  | some e => (.error e, r)
  | none =>
    if r.complete then (.error .ebusy, r)
    else if r.active then
      if r.Matches f then acceptFragment f r else (.error .ebusy, r)
    else acceptFragment f (r.begin f)

/-- The context after a push. -/
def pushStep (sizeMax : ℕ) (f : Fragment) (r : Reassembly) : Reassembly :=
  (lsTransportReassemblyPush sizeMax f r).2

/-! ### What a fragment that passes its validation is -/

/-- A valid fragment, with respect to the buffers of a context. -/
structure Valid (sizeMax : ℕ) (r : Reassembly) (f : Fragment) : Prop where
  data : r.data.isSome
  received : r.received.isSome
  total_le : f.totalLength.toNat ≤ r.capacity
  count_le : f.fragmentCount.toNat ≤ bitmapBits sizeMax r
  index_lt : f.fragmentIndex.toNat < f.fragmentCount.toNat
  end_le : f.offset.toNat + f.bytes.length ≤ f.totalLength.toNat

section Validation

variable {sizeMax : ℕ} {r : Reassembly} {f : Fragment}

/-- The expected length ends inside the envelope. -/
lemma expectedLength_le (h : f.expectedOffset < f.totalLength.toNat) :
    f.expectedOffset + f.expectedLength.toNat ≤ f.totalLength.toNat := by
  have hlt := f.totalLength.toNat_lt
  have hrest : (f.totalLength - UInt32.ofNat f.expectedOffset).toNat =
      f.totalLength.toNat - f.expectedOffset := by
    rw [UInt32.toNat_sub_of_le, UInt32.toNat_ofNat', Nat.mod_eq_of_lt (by omega)]
    rw [UInt32.le_iff_toNat_le, UInt32.toNat_ofNat', Nat.mod_eq_of_lt (by omega)]
    omega
  simp only [Fragment.expectedLength]
  split_ifs with hcap
  · rw [UInt32.lt_iff_toNat_lt, hrest] at hcap
    omega
  · rw [hrest]
    omega

lemma valid_of_validateFragment (h : validateFragment sizeMax r f = none) :
    Valid sizeMax r f := by
  rw [validateFragment] at h
  split_ifs at h with h₁ h₂ h₃ h₄ h₅
  simp only [not_or] at h₁ h₂ h₄ h₅
  obtain ⟨hdata, hreceived, -, -, -, -, -, hindex⟩ := h₁
  have hend := expectedLength_le (not_le.mp h₄.1)
  refine ⟨?_, ?_, not_lt.mp h₂.1, not_lt.mp h₂.2, ?_, ?_⟩
  · exact Option.isSome_iff_ne_none.mpr fun h => hdata (h ▸ rfl)
  · exact Option.isSome_iff_ne_none.mpr fun h => hreceived (h ▸ rfl)
  · rwa [UInt16.le_iff_toNat_le, not_le] at hindex
  · rw [not_not.mp h₄.2, not_not.mp h₅.1]
    exact hend

end Validation

/-! ### What a push can do -/

/-- The fragment is taken: it is the first one of its envelope or belongs to the one that is
being put together; `r'` is the context in which the bitmap is looked at. -/
inductive Taken (sizeMax : ℕ) (f : Fragment) (r : Reassembly) : Reassembly → Prop where
  | first (valid : validateFragment sizeMax r f = none) (incomplete : r.complete = false)
      (inactive : r.active = false) : Taken sizeMax f r (r.begin f)
  | next (valid : validateFragment sizeMax r f = none) (incomplete : r.complete = false)
      (active : r.active = true) (same : r.Matches f) : Taken sizeMax f r r

/-- **What a push can do.** It refuses the fragment and leaves the context alone, or it takes
it. -/
lemma push_cases (sizeMax : ℕ) (f : Fragment) (r : Reassembly) :
    (∃ e, lsTransportReassemblyPush sizeMax f r = (.error e, r)) ∨
      ∃ r', Taken sizeMax f r r' ∧ lsTransportReassemblyPush sizeMax f r = acceptFragment f r' := by
  rw [lsTransportReassemblyPush]
  cases hv : validateFragment sizeMax r f with
  | some e => exact .inl ⟨e, rfl⟩
  | none =>
      dsimp only
      split_ifs with hc ha hm
      · exact .inl ⟨_, rfl⟩
      · exact .inr ⟨r, .next hv (by simpa using hc) ha hm, rfl⟩
      · exact .inl ⟨_, rfl⟩
      · exact .inr ⟨_, .first hv (by simpa using hc) (by simpa using ha), rfl⟩

/-- The buffers of a context stay the same memory. -/
structure SameBuffers (r r' : Reassembly) : Prop where
  data : r'.data.isSome = r.data.isSome
  capacity : r'.capacity = r.capacity
  received : r'.received.isSome = r.received.isSome
  receivedCapacity : r'.receivedCapacity = r.receivedCapacity

section Buffers

variable {sizeMax : ℕ} {r r' : Reassembly} {f : Fragment}

lemma SameBuffers.trans {r'' : Reassembly} (h : SameBuffers r r') (h' : SameBuffers r' r'') :
    SameBuffers r r'' :=
  ⟨h'.data.trans h.data, h'.capacity.trans h.capacity, h'.received.trans h.received,
    h'.receivedCapacity.trans h.receivedCapacity⟩

lemma sameBuffers_clear (r : Reassembly) : SameBuffers r r.clear :=
  ⟨rfl, rfl, Option.isSome_map .., rfl⟩

lemma sameBuffers_reset (r : Reassembly) : SameBuffers r (lsTransportReassemblyReset r) := by
  rw [lsTransportReassemblyReset]
  split_ifs
  · exact ⟨rfl, rfl, (sameBuffers_clear r).received, rfl⟩
  · exact ⟨rfl, rfl, rfl, rfl⟩

lemma sameBuffers_store (r : Reassembly) (f : Fragment) : SameBuffers r (r.store f) :=
  ⟨Option.isSome_map .., rfl, Option.isSome_map .., rfl⟩

lemma sameBuffers_accept (f : Fragment) (r : Reassembly) :
    SameBuffers r (acceptFragment f r).2 := by
  have hlogged : SameBuffers r (r.logged (.bitmap (f.fragmentIndex.toNat / 8) 1)) :=
    ⟨rfl, rfl, rfl, rfl⟩
  simp only [acceptFragment]
  generalize r.logged (.bitmap (f.fragmentIndex.toNat / 8) 1) = r₁ at hlogged ⊢
  have hstored := hlogged.trans (sameBuffers_store r₁ f)
  split_ifs
  · exact hlogged.trans (sameBuffers_reset r₁)
  · exact hlogged
  · exact hstored
  · exact hstored.trans (sameBuffers_reset _)
  · exact ⟨hstored.data, hstored.capacity, hstored.received, hstored.receivedCapacity⟩

lemma sameBuffers_begin (r : Reassembly) (f : Fragment) : SameBuffers r (r.begin f) :=
  ⟨rfl, rfl, (sameBuffers_clear r).received, rfl⟩

lemma sameBuffers_push (sizeMax : ℕ) (f : Fragment) (r : Reassembly) :
    SameBuffers r (pushStep sizeMax f r) := by
  rw [pushStep]
  rcases push_cases sizeMax f r with ⟨e, hp⟩ | ⟨r', htaken, hp⟩
  · rw [hp]
    exact ⟨rfl, rfl, rfl, rfl⟩
  · rw [hp]
    cases htaken with
    | first => exact (sameBuffers_begin r f).trans (sameBuffers_accept f _)
    | next => exact sameBuffers_accept f r

end Buffers

/-! ### Safety -/

/-- The access lies inside the buffers. -/
def Access.Within (capacity receivedCapacity : ℕ) : Access → Prop
  | .write offset length total => offset + length ≤ total ∧ total ≤ capacity
  | .bitmap first length => first + length ≤ receivedCapacity

/-- The state of a context between two pushes. -/
structure Safe (r : Reassembly) : Prop where
  counted : r.receivedCount.toNat = Bitmap.count (8 * r.receivedCapacity) r.bits
  bounded : r.active = true → r.fragmentCount.toNat ≤ 8 * r.receivedCapacity ∧
    ∀ i < 8 * r.receivedCapacity, Bitmap.test r.bits i = true → i < r.fragmentCount.toNat
  within : ∀ a ∈ r.accesses, a.Within r.capacity r.receivedCapacity
  finished : r.complete = true →
    (∀ i < r.fragmentCount.toNat, Bitmap.test r.bits i = true) ∧
      lsCrc32 (Medium.read r.buffer 0 r.totalLength.toNat) = r.envelopeCrc

section Safety

variable {r : Reassembly} {f : Fragment} {sizeMax : ℕ}

/-- A context with a cleared bitmap in which nothing was received. -/
lemma bits_clear {i : ℕ} (hi : i < 8 * r.receivedCapacity) : Bitmap.test r.clear.bits i = false := by
  refine Bitmap.test_of_eq_zero ?_
  simp only [Reassembly.bits, Reassembly.clear]
  cases r.received with
  | none => rfl
  | some bits => exact Medium.fill_of_mem (Nat.zero_le _) (by omega)

lemma within_clear (h : ∀ a ∈ r.accesses, a.Within r.capacity r.receivedCapacity) :
    ∀ a ∈ r.clear.accesses, a.Within r.capacity r.receivedCapacity := by
  intro a ha
  rcases List.mem_cons.mp ha with rfl | ha
  · exact (Nat.zero_add _).le
  · exact h a ha

/-- A reset context is safe. -/
lemma safe_reset (h : ∀ a ∈ r.accesses, a.Within r.capacity r.receivedCapacity) :
    Safe (lsTransportReassemblyReset r) := by
  have hbits : ∀ i < 8 * r.receivedCapacity,
      Bitmap.test (lsTransportReassemblyReset r).bits i = false := by
    intro i hi
    rw [lsTransportReassemblyReset]
    split_ifs with hc
    · exact bits_clear hi
    · have hnone : r.received = none := by
        cases hr : r.received with
        | none => rfl
        | some bits =>
            rw [hr] at hc
            have : r.receivedCapacity ≠ 0 := by omega
            exact absurd ⟨rfl, this⟩ hc
      exact Bitmap.test_of_eq_zero (by simp [Reassembly.bits, hnone])
  have hcap : (lsTransportReassemblyReset r).receivedCapacity = r.receivedCapacity := by
    rw [lsTransportReassemblyReset]
    split_ifs <;> rfl
  refine ⟨?_, fun ha => absurd ha Bool.false_ne_true, ?_, fun hc => absurd hc Bool.false_ne_true⟩
  · rw [hcap, Bitmap.count_eq_zero hbits]
    rfl
  · rw [hcap, lsTransportReassemblyReset]
    split_ifs
    · exact within_clear h
    · exact h

/-- A safe context in which a valid fragment of the right envelope is looked up. -/
structure Ready (r : Reassembly) (f : Fragment) : Prop extends Safe r where
  active : r.active = true
  incomplete : r.complete = false
  same : r.Matches f
  data : r.data.isSome
  received : r.received.isSome
  total_le : r.totalLength.toNat ≤ r.capacity
  index_lt : f.fragmentIndex.toNat < r.fragmentCount.toNat
  end_le : f.offset.toNat + f.bytes.length ≤ r.totalLength.toNat

lemma bitmapBits_le (sizeMax : ℕ) (r : Reassembly) :
    bitmapBits sizeMax r ≤ 8 * r.receivedCapacity :=
  (Nat.mod_le _ _).trans_eq (Nat.mul_comm _ _)

lemma Taken.ready {r' : Reassembly} (h : Taken sizeMax f r r') (hs : Safe r) : Ready r' f := by
  cases h with
  | first valid incomplete inactive =>
      have hv := valid_of_validateFragment valid
      refine ⟨⟨?_, fun _ => ⟨?_, ?_⟩, within_clear hs.within, ?_⟩, rfl, incomplete,
        ⟨rfl, rfl, rfl, rfl, rfl⟩, hv.data, ?_, hv.total_le, hv.index_lt, hv.end_le⟩
      · exact (Bitmap.count_eq_zero fun i hi => bits_clear hi).symm
      · exact hv.count_le.trans (bitmapBits_le sizeMax r)
      · intro i hi hset
        exact absurd (hset.symm.trans (bits_clear hi)) (by decide)
      · intro hc
        exact absurd (hc.symm.trans incomplete) (by decide)
      · simpa [Reassembly.begin, Reassembly.clear] using hv.received
  | next valid incomplete active same =>
      have hv := valid_of_validateFragment valid
      have ⟨_, _, htotal, _, hcount⟩ := same
      exact ⟨hs, active, incomplete, same, hv.data, hv.received, htotal ▸ hv.total_le,
        hcount ▸ hv.index_lt, htotal ▸ hv.end_le⟩

/-- The access to the bitmap lies inside it. -/
lemma Ready.within_logged (h : Ready r f) :
    ∀ a ∈ (r.logged (.bitmap (f.fragmentIndex.toNat / 8) 1)).accesses,
      a.Within r.capacity r.receivedCapacity := by
  intro a ha
  rcases List.mem_cons.mp ha with rfl | ha
  · have hcount := (h.bounded h.active).1
    have hindex := h.index_lt
    simp only [Access.Within]
    omega
  · exact h.within a ha

lemma bits_store (h : r.received.isSome) :
    (r.store f).bits = Bitmap.set r.bits f.fragmentIndex.toNat := by
  obtain ⟨bits, hbits⟩ := Option.isSome_iff_exists.mp h
  simp [Reassembly.bits, Reassembly.store, hbits]

/-- A new fragment is stored. -/
lemma Ready.safe_store (h : Ready r f)
    (hnew : Bitmap.test r.bits f.fragmentIndex.toNat = false) : Safe (r.store f) := by
  obtain ⟨hcount, hbelow⟩ := h.bounded h.active
  have hindex := h.index_lt
  have hbits := bits_store h.received (f := f)
  have hset : ∀ i < 8 * r.receivedCapacity, Bitmap.test (r.store f).bits i = true →
      i < r.fragmentCount.toNat := by
    intro i hi hset
    rw [hbits, Bitmap.test_set, Bool.or_eq_true, decide_eq_true_iff] at hset
    exact hset.elim (fun he => he ▸ hindex) (hbelow i hi)
  have hcounted : Bitmap.count (8 * r.receivedCapacity) (r.store f).bits =
      r.receivedCount.toNat + 1 := by
    rw [hbits, Bitmap.count_set (by omega) hnew, h.counted]
  refine ⟨?_, fun _ => ⟨hcount, hset⟩, ?_, fun hc => absurd (hc.symm.trans h.incomplete) (by decide)⟩
  · -- the counter does not wrap: there are at most as many bits as fragments
    have hle : r.receivedCount.toNat + 1 ≤ r.fragmentCount.toNat := by
      rw [← hcounted, Bitmap.count_of_below hcount hset]
      exact Bitmap.count_le _ _
    have hlt := r.fragmentCount.toNat_lt
    change (r.receivedCount + 1).toNat = _
    rw [show (r.store f).receivedCapacity = r.receivedCapacity from rfl, hcounted,
      UInt16.toNat_add, UInt16.toNat_one, Nat.mod_eq_of_lt (by omega)]
  · intro a ha
    rcases List.mem_cons.mp ha with rfl | ha
    · exact ⟨h.end_le, h.total_le⟩
    · exact h.within a ha

/-- A fragment that is taken leaves a safe context. -/
lemma Ready.safe_accept (h : Ready r f) : Safe (acceptFragment f r).2 := by
  have hlogged : Ready (r.logged (.bitmap (f.fragmentIndex.toNat / 8) 1)) f :=
    { h with within := h.within_logged }
  simp only [acceptFragment]
  generalize r.logged (.bitmap (f.fragmentIndex.toNat / 8) 1) = r₁ at hlogged ⊢
  cases hbit : Bitmap.test r₁.bits f.fragmentIndex.toNat with
  | true =>
      rw [if_pos rfl]
      split_ifs
      · exact safe_reset hlogged.within
      · exact hlogged.toSafe
  | false =>
      have hstored := hlogged.safe_store hbit
      rw [if_neg Bool.false_ne_true]
      split_ifs with hcount hcrc
      · exact hstored
      · exact safe_reset hstored.within
      · -- as many fragments as there are: all bits are set
        rw [not_not] at hcount hcrc
        obtain ⟨hle, hbelow⟩ := hstored.bounded hlogged.active
        refine { hstored with finished := fun _ => ⟨?_, hcrc⟩ }
        refine Bitmap.all_of_count ?_
        have hcounted := hstored.counted
        rw [hcount, Bitmap.count_of_below hle hbelow] at hcounted
        exact hcounted.symm

/-- A push keeps the context safe. -/
lemma safe_push (hs : Safe r) : Safe (pushStep sizeMax f r) := by
  rw [pushStep]
  rcases push_cases sizeMax f r with ⟨e, hp⟩ | ⟨r', htaken, hp⟩
  · rw [hp]
    exact hs
  · rw [hp]
    exact (htaken.ready hs).safe_accept

end Safety

/-- A fresh context is safe. -/
lemma safe_init (data : Option (ℕ → UInt8)) (capacity : ℕ) (received : Option (ℕ → UInt8))
    (receivedCapacity : ℕ) :
    Safe (lsTransportReassemblyInit data capacity received receivedCapacity) :=
  safe_reset nofun

/-- **Reassembly is safe against arbitrary fragments.** After any pushes to a fresh context
the counter is the number of bits that are set; while it is active these belong to
fragments of the envelope, which fit the bitmap; every access so far was inside the
buffers; and a complete context has all fragments, and the CRC that they announce. -/
theorem reassembly_safe (sizeMax : ℕ) (data : Option (ℕ → UInt8)) (capacity : ℕ)
    (received : Option (ℕ → UInt8)) (receivedCapacity : ℕ) (fs : List Fragment) :
    Safe (Run.after (pushStep sizeMax) fs
      (lsTransportReassemblyInit data capacity received receivedCapacity)) :=
  @Run.after_inv _ _ (pushStep sizeMax) (fun _ _ => True) Safe (fun _ _ _ hs => safe_push hs) fs _
    (Run.meets_of_forall (fun _ _ => trivial) fs _) (safe_init ..)

end Latch.Transport
