
/-
The geometry of the two image stores: the layout of a slot and the physical sizes of
`src/storage/flash_mirror.c` and `src/storage/wear_level.c`.

The layout functions of the sources guard every addition. Here they are written once more in
the arithmetic of `size_t`, wrapping as the machine does, and compared with the model.

* `checkedSlotLayout_run`, `checkedMirrorSize_run`, `checkedWearSize_run`: nothing ever wraps,
  and the result is that of the model;
* `Layout.Separates`, `slotLayout_separates`: the marker of a slot is alone in its write unit;
* `layout_arithmetic`: these together, and that the physical size is that of the devices which
  initialisation does not refuse.
-/
import Latch.Lib.Checked
import Latch.Storage.FlashMirror
import Latch.Storage.WearLevel

namespace Latch

open Exec Checked

/-! ### Physical sizes -/

/-- `ls_flash_mirror_physical_size_for_write`. -/
def lsFlashMirrorPhysicalSizeForWrite (sizeMax logicalCapacity eraseSize writeSize : ℕ) : ℕ :=
  let writeSize := if writeSize = 0 then 1 else writeSize
  ((slotLayout sizeMax flashHeaderSize logicalCapacity eraseSize writeSize).bind
    fun lay => addSize sizeMax lay.slotSize lay.slotSize).getD 0

/-- `ls_flash_mirror_physical_size`. -/
def lsFlashMirrorPhysicalSize (sizeMax logicalCapacity eraseSize : ℕ) : ℕ :=
  lsFlashMirrorPhysicalSizeForWrite sizeMax logicalCapacity eraseSize 1

/-- The size of `slots` slots, unless it overflows. -/
def wearTotal (sizeMax slots : ℕ) (lay : Layout) : Option ℕ :=
  if lay.slotSize > sizeMax / slots then none else addSize sizeMax 0 (lay.slotSize * slots)

/-- `ls_flash_wear_physical_size_for_write`. -/
def lsFlashWearPhysicalSizeForWrite (sizeMax logicalCapacity eraseSize writeSize slots : ℕ) : ℕ :=
  let writeSize := if writeSize = 0 then 1 else writeSize
  if slots < 2 ∨ slots > lsFlashWearMaxSlots then 0
  else
    ((slotLayout sizeMax wearHeaderSize logicalCapacity eraseSize writeSize).bind
      (wearTotal sizeMax slots)).getD 0

/-- `ls_flash_wear_physical_size`. -/
def lsFlashWearPhysicalSize (sizeMax logicalCapacity eraseSize slots : ℕ) : ℕ :=
  lsFlashWearPhysicalSizeForWrite sizeMax logicalCapacity eraseSize 1 slots

/-! ### In the arithmetic of the machine -/

/-- `add_size`. -/
def checkedAddSize (sizeMax left right : ℕ) : OptionT CheckedM ℕ := do
  let room ← minus sizeMax sizeMax right
  if left > room then failure else plus sizeMax left right

/-- `align_size`. -/
def checkedAlignSize (sizeMax value alignment : ℕ) : OptionT CheckedM ℕ :=
  if alignment = 0 then failure
  else if value % alignment = 0 then pure value
  else do
    let gap ← minus sizeMax alignment (value % alignment)
    checkedAddSize sizeMax value gap

/-- `flash_layout` and `wear_layout`. -/
def checkedSlotLayout (sizeMax headerSize logicalCapacity eraseSize writeSize : ℕ) :
    OptionT CheckedM Layout :=
  if logicalCapacity = 0 ∨ eraseSize = 0 ∨ writeSize = 0 ∨ writeSize > eraseSize ∨
      eraseSize % writeSize ≠ 0 ∨ writeSize > lsStorageMaxWriteSize then failure
  else do
    let commit ← checkedAlignSize sizeMax headerSize writeSize
    let metadataEnd ← checkedAddSize sizeMax commit writeSize
    let payload ← checkedAlignSize sizeMax metadataEnd writeSize
    let slot ← checkedAddSize sizeMax payload logicalCapacity
    let slot ← checkedAlignSize sizeMax slot eraseSize
    pure ⟨payload, commit, slot⟩

/-- `ls_flash_mirror_physical_size_for_write`. -/
def checkedMirrorSize (sizeMax logicalCapacity eraseSize writeSize : ℕ) : OptionT CheckedM ℕ := do
  let writeSize := if writeSize = 0 then 1 else writeSize
  let lay ← checkedSlotLayout sizeMax flashHeaderSize logicalCapacity eraseSize writeSize
  checkedAddSize sizeMax lay.slotSize lay.slotSize

/-- The size of `slots` slots; the division cannot wrap. -/
def checkedWearTotal (sizeMax slots : ℕ) (lay : Layout) : OptionT CheckedM ℕ :=
  if lay.slotSize > sizeMax / slots then failure
  else do
    let total ← times sizeMax lay.slotSize slots
    checkedAddSize sizeMax 0 total

/-- `ls_flash_wear_physical_size_for_write`. -/
def checkedWearSize (sizeMax logicalCapacity eraseSize writeSize slots : ℕ) :
    OptionT CheckedM ℕ := do
  let writeSize := if writeSize = 0 then 1 else writeSize
  if slots < 2 ∨ slots > lsFlashWearMaxSlots then failure
  else do
    let lay ← checkedSlotLayout sizeMax wearHeaderSize logicalCapacity eraseSize writeSize
    checkedWearTotal sizeMax slots lay

section Exact

variable {sizeMax left right value alignment : ℕ}

lemma checkedAddSize_run (hr : right ≤ sizeMax) :
    (checkedAddSize sizeMax left right).run = pure (addSize sizeMax left right) := by
  unfold checkedAddSize addSize
  rw [minus_eq le_rfl hr]
  by_cases h : left > sizeMax - right
  · simp [h]
  · simp [h, plus_eq (show left + right ≤ sizeMax by omega)]

lemma checkedAlignSize_run (ha : alignment ≤ sizeMax) :
    (checkedAlignSize sizeMax value alignment).run = pure (alignSize sizeMax value alignment) := by
  unfold checkedAlignSize alignSize
  by_cases hzero : alignment = 0
  · rw [if_pos hzero, if_pos hzero]
    rfl
  rw [if_neg hzero, if_neg hzero]
  by_cases hrest : value % alignment = 0
  · rw [if_pos hrest, if_pos hrest]
    rfl
  rw [if_neg hrest, if_neg hrest]
  have hlt := Nat.mod_lt value (Nat.pos_of_ne_zero hzero)
  rw [minus_eq ha hlt.le]
  simpa using @checkedAddSize_run sizeMax value _
    (show alignment - value % alignment ≤ sizeMax by omega)

/-- A sum that was accepted fits. -/
lemma addSize_le {r : ℕ} (h : addSize sizeMax left right = some r) (hr : right ≤ sizeMax) :
    r ≤ sizeMax := by
  unfold addSize at h
  split at h
  · cases h
  · cases h
    omega

variable {headerSize logicalCapacity eraseSize writeSize : ℕ}

/-- The layout functions never wrap. -/
lemma checkedSlotLayout_run (hlc : logicalCapacity ≤ sizeMax) (hes : eraseSize ≤ sizeMax)
    (hws : writeSize ≤ sizeMax) :
    (checkedSlotLayout sizeMax headerSize logicalCapacity eraseSize writeSize).run =
      pure (slotLayout sizeMax headerSize logicalCapacity eraseSize writeSize) := by
  unfold checkedSlotLayout slotLayout
  split
  · rfl
  · refine run_bind_of_run (checkedAlignSize_run hws) fun commit _ => ?_
    refine run_bind_of_run (checkedAddSize_run hws) fun metadataEnd _ => ?_
    refine run_bind_of_run (checkedAlignSize_run hws) fun payload _ => ?_
    refine run_bind_of_run (checkedAddSize_run hlc) fun slot _ => ?_
    exact run_bind_of_run (checkedAlignSize_run hes) fun slot _ => rfl

/-- The size of a slot fits. -/
lemma slotSize_le {lay : Layout} (hes : eraseSize ≤ sizeMax) (hlc : logicalCapacity ≤ sizeMax)
    (h : slotLayout sizeMax headerSize logicalCapacity eraseSize writeSize = some lay) :
    lay.slotSize ≤ sizeMax := by
  unfold slotLayout at h
  split at h
  · cases h
  · simp only [bind, Option.bind_eq_some_iff, pure, Option.some.injEq] at h
    obtain ⟨_, -, _, -, payload, -, slot, h4, slot', h5, rfl⟩ := h
    have hslot := addSize_le h4 hlc
    unfold alignSize at h5
    split at h5
    · cases h5
    · split at h5
      · cases h5
        exact hslot
      · exact addSize_le h5 (by omega)

/-- Nor do the physical sizes. -/
lemma checkedMirrorSize_run (htop : 1 ≤ sizeMax) (hlc : logicalCapacity ≤ sizeMax)
    (hes : eraseSize ≤ sizeMax) (hws : writeSize ≤ sizeMax) :
    ∃ o, (checkedMirrorSize sizeMax logicalCapacity eraseSize writeSize).run = pure o ∧
      o.getD 0 = lsFlashMirrorPhysicalSizeForWrite sizeMax logicalCapacity eraseSize writeSize := by
  have hunit : (if writeSize = 0 then 1 else writeSize) ≤ sizeMax := by split <;> assumption
  exact ⟨_, run_bind_of_run (checkedSlotLayout_run hlc hes hunit) fun lay hlay =>
    checkedAddSize_run (slotSize_le hes hlc hlay), rfl⟩

lemma checkedWearTotal_run {slots : ℕ} (lay : Layout) :
    (checkedWearTotal sizeMax slots lay).run = pure (wearTotal sizeMax slots lay) := by
  unfold checkedWearTotal wearTotal
  split
  · rfl
  case isFalse h =>
    have hfit : lay.slotSize * slots ≤ sizeMax :=
      (Nat.mul_le_mul_right slots (not_lt.mp h)).trans (Nat.div_mul_le_self sizeMax slots)
    rw [times_eq hfit]
    simpa using @checkedAddSize_run sizeMax 0 _ hfit

lemma checkedWearSize_run {slots : ℕ} (htop : 1 ≤ sizeMax) (hlc : logicalCapacity ≤ sizeMax)
    (hes : eraseSize ≤ sizeMax) (hws : writeSize ≤ sizeMax) :
    ∃ o, (checkedWearSize sizeMax logicalCapacity eraseSize writeSize slots).run = pure o ∧
      o.getD 0 =
        lsFlashWearPhysicalSizeForWrite sizeMax logicalCapacity eraseSize writeSize slots := by
  have hunit : (if writeSize = 0 then 1 else writeSize) ≤ sizeMax := by split <;> assumption
  unfold checkedWearSize lsFlashWearPhysicalSizeForWrite
  dsimp only
  by_cases hslots : slots < 2 ∨ slots > lsFlashWearMaxSlots
  · rw [if_pos hslots, if_pos hslots]
    exact ⟨none, rfl, rfl⟩
  · rw [if_neg hslots, if_neg hslots]
    exact ⟨_, run_bind_of_run (checkedSlotLayout_run hlc hes hunit) fun lay _ =>
      checkedWearTotal_run lay, rfl⟩

end Exact

/-! ### The parts of a slot -/

/-- Header, marker and image of a slot lie behind each other, the slot is a number of erase units,
and in every slot of a device the marker shares its write unit with no byte of the other two. -/
structure Layout.Separates (lay : Layout) (headerSize logicalCapacity eraseSize writeSize : ℕ) :
    Prop where
  commit : headerSize ≤ lay.commitOffset
  payload : lay.commitOffset + writeSize ≤ lay.payloadOffset
  slot : lay.payloadOffset + logicalCapacity ≤ lay.slotSize
  erase : eraseSize ∣ lay.slotSize
  unit : ∀ k a, a < headerSize ∨
      (lay.payloadOffset ≤ a ∧ a < lay.payloadOffset + logicalCapacity) →
    (k * lay.slotSize + a) / writeSize ≠ (k * lay.slotSize + lay.commitOffset) / writeSize

/-- `align_size` rounds up to a multiple. -/
lemma dvd_of_alignSize {sizeMax value alignment r : ℕ}
    (h : alignSize sizeMax value alignment = some r) : alignment ∣ r := by
  unfold alignSize at h
  split at h
  · cases h
  case isFalse hzero =>
    split at h
    case isTrue hrest =>
      cases h
      exact Nat.dvd_of_mod_eq_zero hrest
    case isFalse hrest =>
      rw [addSize_eq_some h]
      have hlt := Nat.mod_lt value (Nat.pos_of_ne_zero hzero)
      refine ⟨value / alignment + 1, ?_⟩
      have := Nat.div_add_mod value alignment
      rw [Nat.mul_add, Nat.mul_one]
      omega

/-- An address below a multiple of the write unit lies in an earlier unit. -/
lemma unit_lt {writeSize base a p : ℕ} (hbase : writeSize ∣ base) (hp : writeSize ∣ p)
    (hlt : a < p) : (base + a) / writeSize < (base + p) / writeSize := by
  obtain ⟨q, hq⟩ := (Nat.dvd_add hbase hp)
  have hpos : 0 < writeSize := by
    rcases Nat.eq_zero_or_pos writeSize with rfl | h
    · rw [Nat.zero_dvd.mp hp] at hlt
      omega
    · exact h
  rw [hq, Nat.mul_div_cancel_left q hpos, Nat.div_lt_iff_lt_mul hpos, Nat.mul_comm, ← hq]
  omega

lemma slotLayout_separates {sizeMax headerSize logicalCapacity eraseSize writeSize : ℕ}
    {lay : Layout}
    (h : slotLayout sizeMax headerSize logicalCapacity eraseSize writeSize = some lay) :
    lay.Separates headerSize logicalCapacity eraseSize writeSize := by
  unfold slotLayout at h
  split at h
  · cases h
  case isFalse hgeo =>
    simp only [not_or, not_not] at hgeo
    obtain ⟨-, -, hzero, -, hmod, -⟩ := hgeo
    simp only [bind, Option.bind_eq_some_iff, pure, Option.some.injEq] at h
    obtain ⟨commit, h1, metadataEnd, h2, payload, h3, slot, h4, slot', h5, rfl⟩ := h
    have hcommit := le_of_alignSize h1
    have hend := addSize_eq_some h2
    have hpayload := le_of_alignSize h3
    have hslot := addSize_eq_some h4
    have hslot' := le_of_alignSize h5
    have hdvd := dvd_of_alignSize h5
    refine ⟨hcommit, by dsimp only; omega, by dsimp only; omega, hdvd, fun k a ha => ?_⟩
    have hbase : writeSize ∣ k * slot' :=
      ((Nat.dvd_of_mod_eq_zero hmod).trans hdvd).mul_left k
    -- the marker starts a unit, and so does the image behind it
    have hc := dvd_of_alignSize h1
    rcases ha with ha | ⟨ha, -⟩
    · exact (unit_lt hbase hc (by omega)).ne
    · dsimp only at ha
      have hlt := unit_lt hbase (dvd_of_alignSize h3) (show commit < payload by omega)
      exact (hlt.trans_le (Nat.div_le_div_right (Nat.add_le_add_left ha _))).ne'

/-! ### Initialisation -/

/-- The device has the callbacks that the stores need. -/
def Backend.Equipped (b : Backend) : Prop := b.hasRead ∧ b.hasWrite ∧ b.hasErase

section Init

variable {ρ α : Type} {b : Backend} {cap slots : ℕ}

variable {sizeMax eraseSize writeSize : ℕ} {lay : Layout}

/-- A call that refuses what it is asked for, with one of the two errors. -/
def Refused {ρ α : Type} (x : DriverM ρ α) (s : System ρ) : Prop :=
  ∃ e s', x s = .error e s' ∧ Refuses e

lemma not_refused {x : DriverM ρ α} {s : System ρ} {Q : α → System ρ → Prop}
    {H : Halt Errno → System ρ → Prop} (h : Sat x s Q H) (hH : ∀ e s', H e s' → ¬ Refuses e) :
    ¬ Refused x s := by
  rintro ⟨e, s', hx, he⟩
  exact hH e s' (sat_of_error h hx) he

lemma refused_throw {e : Halt Errno} (h : Refuses e) (s : System ρ) :
    Refused (throw e : DriverM ρ α) s := ⟨e, s, rfl, h⟩

/-- The size of a mirror is that of two banks, where it fits. -/
lemma mirrorSize_eq
    (hlay : slotLayout sizeMax flashHeaderSize cap eraseSize
      (if writeSize = 0 then 1 else writeSize) = some lay) :
    lsFlashMirrorPhysicalSizeForWrite sizeMax cap eraseSize writeSize =
      if lay.slotSize > sizeMax / 2 then 0 else lay.slotSize * 2 := by
  unfold lsFlashMirrorPhysicalSizeForWrite
  dsimp only
  rw [hlay, Option.bind_some, addSize]
  by_cases h : lay.slotSize > sizeMax / 2
  · rw [if_pos h, if_pos (by omega), Option.getD_none]
  · rw [if_neg h, if_neg (by omega), Option.getD_some, Nat.mul_two]

/-- That of a wear-levelled store is that of its slots. -/
lemma wearSize_eq (h2 : 2 ≤ slots)
    (hmax : slots ≤ lsFlashWearMaxSlots)
    (hlay : slotLayout sizeMax wearHeaderSize cap eraseSize
      (if writeSize = 0 then 1 else writeSize) = some lay) :
    lsFlashWearPhysicalSizeForWrite sizeMax cap eraseSize writeSize slots =
      if lay.slotSize > sizeMax / slots then 0 else lay.slotSize * slots := by
  unfold lsFlashWearPhysicalSizeForWrite
  dsimp only
  rw [if_neg (by omega), hlay, Option.bind_some, wearTotal]
  by_cases h : lay.slotSize > sizeMax / slots
  · rw [if_pos h, if_pos h, Option.getD_none]
  · rw [if_neg h, if_neg h, addSize, if_neg (by omega), Option.getD_some, Nat.zero_add]

/-- A slot is a number of write units. -/
lemma unit_dvd_slotSize {headerSize : ℕ}
    (h : slotLayout sizeMax headerSize cap eraseSize writeSize = some lay) :
    writeSize ∣ lay.slotSize := by
  refine Nat.dvd_trans ?_ (slotLayout_separates h).erase
  unfold slotLayout at h
  split at h
  · cases h
  · exact Nat.dvd_of_mod_eq_zero (by omega)

/-- A slot holds something. -/
lemma slotSize_pos {headerSize : ℕ}
    (h : slotLayout sizeMax headerSize cap eraseSize writeSize = some lay) : 0 < lay.slotSize := by
  have hfit := slotLayout_spec h
  have := hfit.payload
  have := hfit.slot
  omega

/-- A device of exactly the physical size is one that the mirror does not refuse. -/
lemma mirrorSize_ne_zero_iff (hb : b.Equipped) (h1 : 1 ≤ cap) (hsmall : cap ≤ 0xffffffff)
    (hsize : b.capacity =
      lsFlashMirrorPhysicalSizeForWrite b.sizeMax cap b.eraseSize b.writeSize)
    {s : System FlashMirror} (hs : s.dev.Accepting) :
    lsFlashMirrorPhysicalSizeForWrite b.sizeMax cap b.eraseSize b.writeSize ≠ 0 ↔
      ¬ Refused (lsFlashMirrorInit b cap) s := by
  have hargs : ¬ ¬ (b.hasRead ∧ b.hasWrite ∧ b.hasErase ∧ cap ≠ 0 ∧ cap ≤ 0xffffffff) :=
    not_not.mpr ⟨hb.1, hb.2.1, hb.2.2, by omega, hsmall⟩
  rw [lsFlashMirrorInit, if_neg hargs, ← hsize]
  cases hlay : flashLayout b cap with
  | none =>
      have hzero : b.capacity = 0 := by
        change slotLayout _ _ _ _ _ = none at hlay
        rw [hsize, lsFlashMirrorPhysicalSizeForWrite]
        exact congrArg (fun o : Option Layout => (o.bind _).getD 0) hlay
      exact iff_of_false (not_not.mpr hzero) (not_not.mpr (refused_throw (.inl rfl) s))
  | some lay =>
      have hpos := slotSize_pos hlay
      rw [mirrorSize_eq hlay] at hsize
      dsimp only
      by_cases hbig : lay.slotSize > b.sizeMax / 2
      · rw [if_pos hbig] at hsize
        rw [if_pos (.inl hbig)]
        exact iff_of_false (not_not.mpr hsize) (not_not.mpr (refused_throw (.inr rfl) s))
      · rw [if_neg hbig] at hsize
        rw [if_neg (by omega)]
        have hu : b.unit ∣ b.capacity := hsize ▸ (unit_dvd_slotSize hlay).mul_right 2
        exact iff_of_true (by omega) (not_refused (openBanks_spec s hsmall hlay)
          fun _ _ h => h.2 ⟨⟨hb.1, hb.2.1⟩, hu, hsize.ge, hs⟩)

lemma wearSize_ne_zero_iff (hb : b.Equipped) (h1 : 1 ≤ cap) (hsmall : cap ≤ 0xffffffff)
    (hsize : b.capacity =
      lsFlashWearPhysicalSizeForWrite b.sizeMax cap b.eraseSize b.writeSize slots)
    {s : System WearLevel} (hs : s.dev.Accepting) :
    lsFlashWearPhysicalSizeForWrite b.sizeMax cap b.eraseSize b.writeSize slots ≠ 0 ↔
      ¬ Refused (lsFlashWearInit b cap slots) s := by
  rw [lsFlashWearInit, ← hsize]
  by_cases hslots : slots < 2 ∨ slots > lsFlashWearMaxSlots
  · have hzero : b.capacity = 0 := by rw [hsize, lsFlashWearPhysicalSizeForWrite, if_pos hslots]
    rw [if_pos fun h => by omega]
    exact iff_of_false (not_not.mpr hzero) (not_not.mpr (refused_throw (.inl rfl) s))
  have h2 : 2 ≤ slots := by omega
  have hmax : slots ≤ lsFlashWearMaxSlots := by omega
  have hargs : ¬ ¬ (b.hasRead ∧ b.hasWrite ∧ b.hasErase ∧ cap ≠ 0 ∧ cap ≤ 0xffffffff ∧
      2 ≤ slots ∧ slots ≤ lsFlashWearMaxSlots) :=
    not_not.mpr ⟨hb.1, hb.2.1, hb.2.2, by omega, hsmall, h2, hmax⟩
  rw [if_neg hargs]
  cases hlay : wearLayout b cap with
  | none =>
      have hzero : b.capacity = 0 := by
        change slotLayout _ _ _ _ _ = none at hlay
        rw [hsize, lsFlashWearPhysicalSizeForWrite, if_neg hslots]
        exact congrArg (fun o : Option Layout => (o.bind _).getD 0) hlay
      exact iff_of_false (not_not.mpr hzero) (not_not.mpr (refused_throw (.inl rfl) s))
  | some lay =>
      have hpos := Nat.mul_pos (slotSize_pos hlay) (show 0 < slots by omega)
      rw [wearSize_eq h2 hmax hlay] at hsize
      dsimp only
      by_cases hbig : lay.slotSize > b.sizeMax / slots
      · rw [if_pos hbig] at hsize
        rw [if_pos (.inl hbig)]
        exact iff_of_false (not_not.mpr hsize) (not_not.mpr (refused_throw (.inr rfl) s))
      · rw [if_neg hbig] at hsize
        rw [if_neg (by omega)]
        have hu : b.unit ∣ b.capacity := hsize ▸ (unit_dvd_slotSize hlay).mul_right slots
        exact iff_of_true (by omega) (not_refused (openSlots_spec s hsmall h2 hlay)
          fun _ _ h => h.2 ⟨⟨hb.1, hb.2.1⟩, hu, hsize.ge, hs⟩)

end Init

/-- **Layout arithmetic.** For all sizes, no computation of the layouts and of the physical sizes
wraps; header, marker and image of a bank or slot are disjoint, the marker shares no write unit
with them and the bank is a number of erase units; and the physical size is not zero exactly if
initialisation does not refuse a device of that size, whatever the device holds and however it
fails, as long as the error is not one of its own answers. -/
theorem layout_arithmetic :
    (∀ sizeMax logicalCapacity eraseSize writeSize slots : ℕ, 1 ≤ sizeMax →
      logicalCapacity ≤ sizeMax → eraseSize ≤ sizeMax → writeSize ≤ sizeMax →
      (∀ headerSize, headerSize = flashHeaderSize ∨ headerSize = wearHeaderSize →
        (checkedSlotLayout sizeMax headerSize logicalCapacity eraseSize writeSize).run =
            pure (slotLayout sizeMax headerSize logicalCapacity eraseSize writeSize) ∧
          ∀ lay, slotLayout sizeMax headerSize logicalCapacity eraseSize writeSize = some lay →
            lay.Separates headerSize logicalCapacity eraseSize writeSize) ∧
      (∃ o, (checkedMirrorSize sizeMax logicalCapacity eraseSize writeSize).run = pure o ∧
        o.getD 0 =
          lsFlashMirrorPhysicalSizeForWrite sizeMax logicalCapacity eraseSize writeSize) ∧
      ∃ o, (checkedWearSize sizeMax logicalCapacity eraseSize writeSize slots).run = pure o ∧
        o.getD 0 =
          lsFlashWearPhysicalSizeForWrite sizeMax logicalCapacity eraseSize writeSize slots) ∧
    ∀ (b : Backend) (logicalCapacity : ℕ), b.Equipped → 1 ≤ logicalCapacity →
      logicalCapacity ≤ 0xffffffff →
      (b.capacity =
          lsFlashMirrorPhysicalSizeForWrite b.sizeMax logicalCapacity b.eraseSize b.writeSize →
        ∀ s : System FlashMirror, s.dev.Accepting →
        (lsFlashMirrorPhysicalSizeForWrite b.sizeMax logicalCapacity b.eraseSize b.writeSize ≠ 0 ↔
          ¬ Refused (lsFlashMirrorInit b logicalCapacity) s)) ∧
      ∀ slots, b.capacity = lsFlashWearPhysicalSizeForWrite b.sizeMax logicalCapacity b.eraseSize
          b.writeSize slots →
        ∀ s : System WearLevel, s.dev.Accepting →
        (lsFlashWearPhysicalSizeForWrite b.sizeMax logicalCapacity b.eraseSize b.writeSize
            slots ≠ 0 ↔
          ¬ Refused (lsFlashWearInit b logicalCapacity slots) s) := by
  constructor
  · intro sizeMax logicalCapacity eraseSize writeSize slots htop hlc hes hws
    exact ⟨fun headerSize _ => ⟨checkedSlotLayout_run hlc hes hws,
        fun lay hlay => slotLayout_separates hlay⟩,
      checkedMirrorSize_run htop hlc hes hws, checkedWearSize_run htop hlc hes hws⟩
  · intro b logicalCapacity hb h1 hsmall
    exact ⟨fun hsize s hs => mirrorSize_ne_zero_iff hb h1 hsmall hsize hs,
      fun slots hsize s hs => wearSize_ne_zero_iff hb h1 hsmall hsize hs⟩

end Latch
