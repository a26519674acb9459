/-
Slots of an image store: the layout and the commit protocol that
`src/storage/flash_mirror.c` and `src/storage/wear_level.c` share.

A slot is a header, a commit marker in a write unit of its own, and the image.
To commit, a slot is erased, header and image are programmed, the device is
synchronised, and only then the marker is programmed.

* `slotLayout`, `slotLayout_spec`: where the parts of a slot lie.
* `Format`, `Format.view`: what a medium holds in a slot; `readSlot_spec`: the
  reads of the source find that out.
* `erase_slot_spec`, `writeImage_spec`: a commit that stops anywhere leaves the
  slot as it was, empty, or complete; on success it is complete. No property of
  the checksum is used, since the marker comes last.
-/
import Latch.Lib.Versioned
import Latch.Storage.Program

namespace Latch

open Exec

/-! ### Layout -/

/-- `add_size`: addition that does not overflow `size_t`. -/
def addSize (sizeMax left right : ℕ) : Option ℕ :=
  if left > sizeMax - right then none else some (left + right)

/-- `align_size`. -/
def alignSize (sizeMax value alignment : ℕ) : Option ℕ :=
  if alignment = 0 then none
  else if value % alignment = 0 then some value
  else addSize sizeMax value (alignment - value % alignment)

/-- Where the parts of a slot lie, and how much space it takes. -/
structure Layout where
  payloadOffset : ℕ
  commitOffset : ℕ
  slotSize : ℕ
  deriving DecidableEq, Repr

/-- `flash_layout` and `wear_layout`, which differ in the size of their header. -/
def slotLayout (sizeMax headerSize logicalCapacity eraseSize writeSize : ℕ) : Option Layout :=
  if logicalCapacity = 0 ∨ eraseSize = 0 ∨ writeSize = 0 ∨ writeSize > eraseSize ∨
      eraseSize % writeSize ≠ 0 ∨ writeSize > lsStorageMaxWriteSize then none
  else do
    let commit ← alignSize sizeMax headerSize writeSize
    let metadataEnd ← addSize sizeMax commit writeSize
    let payload ← alignSize sizeMax metadataEnd writeSize
    let slot ← addSize sizeMax payload logicalCapacity
    let slot ← alignSize sizeMax slot eraseSize
    pure ⟨payload, commit, slot⟩

lemma addSize_eq_some {sizeMax left right r : ℕ} (h : addSize sizeMax left right = some r) :
    r = left + right := by
  unfold addSize at h
  split at h
  · cases h
  · exact (Option.some.inj h).symm

lemma le_of_alignSize {sizeMax value alignment r : ℕ}
    (h : alignSize sizeMax value alignment = some r) : value ≤ r := by
  unfold alignSize at h
  split at h
  · cases h
  · split at h
    · exact (Option.some.inj h).le
    · rw [addSize_eq_some h]
      omega

/-- A layout that fits its header, its marker and an image. -/
structure Layout.Fits (lay : Layout) (headerSize logicalCapacity : ℕ) : Prop where
  commit : headerSize ≤ lay.commitOffset
  payload : lay.commitOffset < lay.payloadOffset
  slot : lay.payloadOffset + logicalCapacity ≤ lay.slotSize

lemma slotLayout_spec {sizeMax headerSize logicalCapacity eraseSize writeSize : ℕ} {lay : Layout}
    (h : slotLayout sizeMax headerSize logicalCapacity eraseSize writeSize = some lay) :
    lay.Fits headerSize logicalCapacity := by
  unfold slotLayout at h
  split at h
  · cases h
  case isFalse hgeo =>
    simp only [bind, Option.bind_eq_some_iff, pure, Option.some.injEq] at h
    obtain ⟨commit, h1, metadataEnd, h2, payload, h3, slot, h4, slot', h5, rfl⟩ := h
    have := le_of_alignSize h1
    have := addSize_eq_some h2
    have := le_of_alignSize h3
    have := addSize_eq_some h4
    have := le_of_alignSize h5
    exact ⟨by simpa, by dsimp only; omega, by dsimp only; omega⟩

/-! ### What the stores ask of a device -/

/-- The requests of a log that were served. -/
def servedOf (faults : ℕ → Request → Fault) : List Request → List Request
  | [] => []
  | r :: log =>
      if faults log.length r = .none then r :: servedOf faults log else servedOf faults log

/-- How often a range of the device was erased. -/
def Device.erases (d : Device) (off len : ℕ) : ℕ :=
  (servedOf d.faults d.log).count (.erase off len)

/-- A request that erases nothing. -/
def Request.Spares (r : Request) : Prop := ∀ off len, r ≠ .erase off len

/-- Programming erases nothing. -/
lemma Device.Asked.spares {b : Backend} {d d' : Device} (h : d.Asked (ProgramRequest b) d') :
    d.Asked Request.Spares d' := by
  refine h.mono ?_
  rintro _ hr off len rfl
  exact hr

/-- A request that is not served, or is no erase, completes none. -/
lemma erases_cons (d : Device) {r : Request}
    (h : d.faults d.log.length r ≠ .none ∨ r.Spares) (m : ℕ → UInt8) (off len : ℕ) :
    Device.erases ⟨m, d.faults, r :: d.log⟩ off len = d.erases off len := by
  unfold Device.erases
  rw [servedOf]
  split
  case isTrue hserved =>
    rw [List.count_cons_of_ne]
    exact h.resolve_left (not_not.mpr hserved) off len
  · rfl

lemma Device.Asked.erases {d d' : Device} (h : d.Asked Request.Spares d') (off len : ℕ) :
    d'.erases off len = d.erases off len := by
  obtain ⟨hf, new, hlog, hall⟩ := h
  obtain ⟨m, faults, log⟩ := d'
  subst hf hlog
  induction new with
  | nil => rfl
  | cons r new ih =>
      rw [List.cons_append]
      refine (erases_cons ⟨m, d.faults, new ++ d.log⟩ (.inr ?_) m off len).trans (ih ?_)
      · exact hall r List.mem_cons_self
      · exact fun r' hr' => hall r' (List.mem_cons_of_mem _ hr')

/-- The device went on without a change of its bytes and without an erase. -/
structure Device.Glanced (d d' : Device) : Prop extends Device.Looked d d' where
  spares : d.Asked Request.Spares d'

lemma Device.Glanced.refl (d : Device) : d.Glanced d := ⟨.refl d, .refl d⟩

lemma Device.Glanced.trans {d₁ d₂ d₃ : Device} (h : d₁.Glanced d₂) (h' : d₂.Glanced d₃) :
    d₁.Glanced d₃ := ⟨.trans _ _ _ h.toLooked h'.toLooked, h.spares.trans h'.spares⟩

lemma Device.Glanced.one (d : Device) {r : Request} (h : r.Spares) : d.Glanced (d.asked r) :=
  ⟨looked_ask d r, .one h⟩

lemma read_glanced (b : Backend) (off len : ℕ) (d : Device) :
    Sat (b.read off len) d (fun bs d' => bs = Medium.read d.medium off len ∧ d.Glanced d')
      (fun e d' => d.Glanced d' ∧ (b.inBounds off len → d'.Answered e)) := by
  have hone : d.Glanced (d.asked (.read off len)) := .one d fun _ _ => nofun
  refine (read_exits b off len d).mono (fun bs d' h => ⟨h.1, h.2.1 ▸ hone⟩) (fun e d' h => ?_)
  obtain ⟨⟨hb, -⟩, rfl⟩ | ⟨rfl, hf⟩ := h
  · exact ⟨.refl _, (absurd · hb)⟩
  · exact ⟨hone, fun _ => answered_of_serve hf⟩

lemma sync_glanced (b : Backend) (d : Device) :
    Sat b.sync d (fun _ d' => d.Glanced d') (fun e d' => d.Glanced d' ∧ d'.Answered e) := by
  have hone : d.Glanced (d.asked .sync) := .one d fun _ _ => nofun
  rw [Backend.sync]
  refine .ite (fun _ => ?_) fun _ => .pure (.refl d)
  refine (serve_spec .sync d).mono (fun _ d' h => h.1 ▸ hone) (fun e d' h => ?_)
  obtain ⟨rfl, hf⟩ := h
  exact ⟨hone, answered_of_serve hf⟩

/-- The errors for a device that does not fit. -/
def Refuses (e : Halt Errno) : Prop := e = .fail .einval ∨ e = .fail .enospace

instance (e : Halt Errno) : Decidable (Refuses e) := inferInstanceAs (Decidable (_ ∨ _))

/-- The device itself has neither of them as an answer to a request. -/
def Device.Accepting (d : Device) : Prop :=
  ∀ n r e k, d.faults n r = .fail e k → ¬ Refuses (.fail e)

/-- A device of `size` bytes at least, in whole units, that does not refuse on its own. -/
structure Backend.Suits (b : Backend) (size : ℕ) (d : Device) : Prop where
  calls : b.hasRead ∧ b.hasWrite
  units : b.unit ∣ b.capacity
  inside : size ≤ b.capacity
  accepting : d.Accepting

section Suits

variable {b : Backend} {size : ℕ} {d d' : Device} {e : Halt Errno}

lemma Backend.Suits.later (h : b.Suits size d) (hl : d.Later d') : b.Suits size d' :=
  ⟨h.calls, h.units, h.inside, fun n r e k hf => h.accepting n r e k (by rw [← hl.faults, hf])⟩

/-- One of `n` slots. -/
lemma Backend.Suits.slot {n k : ℕ} (h : b.Suits (size * n) d) (hk : k < n) :
    b.Suits (k * size + size) d := by
  have := Nat.mul_le_mul_right size (Nat.succ_le_of_lt hk)
  rw [Nat.succ_mul, Nat.mul_comm n] at this
  exact ⟨h.calls, h.units, this.trans h.inside, h.accepting⟩

lemma Backend.Suits.answered (h : b.Suits size d) (hl : d.Later d') (ha : d'.Answered e) :
    ¬ Refuses e := by
  obtain ⟨r, l, -, hf⟩ := ha
  rw [hl.faults] at hf
  cases hfault : d.faults l.length r with
  | none =>
      rw [hfault] at hf
      cases hf
  | fail e' k =>
      rw [hfault] at hf
      obtain rfl := Option.some.inj hf
      exact h.accepting _ _ _ _ hfault
  | cut k =>
      rw [hfault] at hf
      obtain rfl := Option.some.inj hf
      decide

/-- Rounding up stays inside a device of whole units. -/
lemma roundUp_le {unit n capacity : ℕ} (hpos : 0 < unit) (hu : unit ∣ capacity)
    (hn : n ≤ capacity) : (n + unit - 1) / unit * unit ≤ capacity := by
  obtain ⟨q, rfl⟩ := hu
  rw [Nat.mul_comm unit q]
  refine Nat.mul_le_mul_right unit ?_
  rw [Nat.le_iff_lt_add_one, Nat.div_lt_iff_lt_mul hpos, Nat.succ_mul, Nat.mul_comm q]
  omega

/-- A program inside such a device is not refused. -/
lemma Backend.Suits.program {offset : ℕ} {src : List UInt8} (h : b.Suits size d)
    (hle : offset + src.length ≤ size) (hs : ProgramStop b offset src d e d') : ¬ Refuses e := by
  have hin := hle.trans h.inside
  cases hs.cause with
  | answer ha => exact h.answered hs.asked.later ha
  | bounds hout => exact absurd ⟨h.calls.1, h.calls.2, by omega, by omega⟩ hout
  | space hsp => exact absurd (roundUp_le (unit_pos b) h.units hin) (not_le.mpr hsp.2)
  | unit | overflow | bits => decide

end Suits

/-! ### The contents of a slot -/

/-- The value of the commit marker, `FLASH_COMMITTED` and `WEAR_COMMITTED`. -/
def slotCommitted : UInt8 := 0xa5

/-- A slot format with headers in `η`: their size, how they are read, when they are valid,
and the generation and the checksum of the image they state. An erased byte is never the
start of a valid one. -/
structure Format (η : Type) where
  headerSize : ℕ
  ofBytes : List UInt8 → η
  valid : η → Bool
  generation : η → UInt32
  dataCrc : η → UInt32
  headerSize_pos : 0 < headerSize
  valid_erased : ∀ l : List UInt8, l[0]? = some 0xff → valid (ofBytes l) = false

variable {η : Type}

/-- What the slot at `offset` holds: generation and image if its header is valid, its
marker is set and the checksum of the image is right. -/
def Format.view (f : Format η) (lay : Layout) (cap : ℕ) (m : ℕ → UInt8) (offset : ℕ) :
    Option (UInt32 × List UInt8) :=
  let header := f.ofBytes (Medium.read m offset f.headerSize)
  let image := Medium.read m (offset + lay.payloadOffset) cap
  if f.valid header ∧ m (offset + lay.commitOffset) = slotCommitted ∧
      f.dataCrc header = lsCrc32 image then some (f.generation header, image)
  else none

/-- The reads that `valid_bank` and `valid_slot` make: the header, and the image if the header
is valid and the marker is set. -/
def readSlot (f : Format η) (b : Backend) (lay : Layout) (cap offset : ℕ) :
    DeviceM (η × Option (List UInt8)) := do
  let bytes ← b.read offset f.headerSize
  let header := f.ofBytes bytes
  if f.valid header then do
    let committed ← b.read (offset + lay.commitOffset) 1
    if committed = [slotCommitted] then do
      let image ← b.read (offset + lay.payloadOffset) cap
      pure (header, some image)
    else pure (header, none)
  else pure (header, none)

/-- The slot was read to its end and the checksum of its image is right. -/
def slotValid (f : Format η) (header : η) (image : Option (List UInt8)) : Bool :=
  match image with
  | none => false
  | some image => f.dataCrc header == lsCrc32 image

section View

variable {f : Format η} {lay : Layout} {cap : ℕ} {m m' : ℕ → UInt8} {offset : ℕ}

/-- A slot whose first byte is erased holds nothing. -/
lemma view_of_erased (h : m offset = 0xff) : f.view lay cap m offset = none := by
  have hl : (Medium.read m offset f.headerSize)[0]? = some 0xff := by
    rw [Medium.read_getElem? f.headerSize_pos, Nat.add_zero, h]
  simp [Format.view, f.valid_erased _ hl]

/-- A slot whose marker is not set holds nothing. -/
lemma view_of_unmarked (h : m (offset + lay.commitOffset) ≠ slotCommitted) :
    f.view lay cap m offset = none := by
  simp [Format.view, h]

lemma view_of_complete {header : η} {image : List UInt8} (hv : f.valid header = true)
    (hcrc : f.dataCrc header = lsCrc32 image)
    (hh : f.ofBytes (Medium.read m offset f.headerSize) = header)
    (hc : m (offset + lay.commitOffset) = slotCommitted)
    (hi : Medium.read m (offset + lay.payloadOffset) cap = image) :
    f.view lay cap m offset = some (f.generation header, image) := by
  unfold Format.view
  rw [hh, hi]
  exact if_pos ⟨hv, hc, hcrc⟩

/-- What a slot holds depends on its own bytes only. -/
lemma view_congr (hfit : lay.Fits f.headerSize cap)
    (h : ∀ a, offset ≤ a → a < offset + lay.slotSize → m' a = m a) :
    f.view lay cap m' offset = f.view lay cap m offset := by
  have := hfit.commit
  have := hfit.payload
  have := hfit.slot
  have hheader : Medium.read m' offset f.headerSize = Medium.read m offset f.headerSize :=
    Medium.read_congr fun a h1 h2 => h a h1 (by omega)
  have himage : Medium.read m' (offset + lay.payloadOffset) cap =
      Medium.read m (offset + lay.payloadOffset) cap :=
    Medium.read_congr fun a h1 h2 => h a (by omega) (by omega)
  unfold Format.view
  rw [hheader, himage, h (offset + lay.commitOffset) (by omega) (by omega)]

/-- The image of a slot is what its payload reads as. -/
lemma view_image {generation : UInt32} {image : List UInt8}
    (h : f.view lay cap m offset = some (generation, image)) :
    Medium.read m (offset + lay.payloadOffset) cap = image := by
  unfold Format.view at h
  dsimp only at h
  split at h
  · cases h
    rfl
  · cases h

/-- The reads of a slot find out what it holds. -/
lemma readSlot_spec (b : Backend) (hfit : lay.Fits f.headerSize cap) (offset : ℕ) (d : Device) :
    Sat (readSlot f b lay cap offset) d
      (fun p d' => d.Glanced d' ∧ p.1 = f.ofBytes (Medium.read d.medium offset f.headerSize) ∧
        ∃ x, f.view lay cap d.medium offset =
          if slotValid f p.1 p.2 then some (f.generation p.1, x) else none)
      (fun e d' => d.Glanced d' ∧ (offset + lay.slotSize ≤ b.capacity → d'.Answered e)) := by
  have hc := hfit.commit
  have hp := hfit.payload
  have hs := hfit.slot
  rw [readSlot]
  refine (read_glanced b _ _ d).bind (fun bytes d₁ h₁ => ?_) (fun _ _ h₁ =>
    ⟨h₁.1, fun h => h₁.2 ⟨by omega, by omega⟩⟩)
  obtain ⟨rfl, h₁⟩ := h₁
  dsimp only
  refine .ite (fun hv => ?_) fun hv => .pure
    ⟨h₁, rfl, [], by simp [Format.view, slotValid, hv]⟩
  refine (read_glanced b _ _ d₁).bind (fun committed d₂ h₂ => ?_) (fun _ _ h₂ =>
    ⟨h₁.trans h₂.1, fun h => h₂.2 ⟨by omega, by omega⟩⟩)
  obtain ⟨rfl, h₂⟩ := h₂
  have h₁₂ := h₁.trans h₂
  have hone : Medium.read d₁.medium (offset + lay.commitOffset) 1 =
      [d.medium (offset + lay.commitOffset)] := by
    rw [h₁.medium]
    rfl
  rw [hone, sat_ite]
  simp only [List.cons.injEq, and_true]
  refine ⟨fun hc => ?_, fun hc => .pure
    ⟨h₁₂, rfl, [], by simp [Format.view, slotValid, hc]⟩⟩
  refine (read_glanced b _ _ d₂).bind (fun image d₃ h₃ => ?_) (fun _ _ h₃ =>
    ⟨h₁₂.trans h₃.1, fun h => h₃.2 ⟨by omega, by omega⟩⟩)
  obtain ⟨rfl, h₃⟩ := h₃
  rw [h₁₂.medium, sat_pure]
  exact ⟨h₁₂.trans h₃, rfl, Medium.read d.medium (offset + lay.payloadOffset) cap,
    by simp [Format.view, slotValid, hv, hc]⟩

end View

/-! ### Committing a slot -/

/-- The part of a commit that follows the erase of its slot. -/
def writeImage (b : Backend) (lay : Layout) (offset : ℕ) (header image : List UInt8) :
    DeviceM Unit := do
  lsStorageProgram b offset header
  lsStorageProgram b (offset + lay.payloadOffset) image
  b.sync
  lsStorageProgram b (offset + lay.commitOffset) [slotCommitted]
  b.sync

/-- The slots of a medium, one after the other. -/
def Format.slots (f : Format η) (lay : Layout) (cap : ℕ) (m : ℕ → UInt8) :
    Versioned.Slots (List UInt8) :=
  fun i => f.view lay cap m (i * lay.slotSize)

section Commit

variable {f : Format η} {lay : Layout} {cap : ℕ}

/-- The bytes of two slots lie apart. -/
lemma slot_apart {i t size a : ℕ} (hi : i ≠ t) (h1 : i * size ≤ a) (h2 : a < i * size + size) :
    a < t * size ∨ t * size + size ≤ a := by
  rcases lt_or_gt_of_ne hi with hlt | hgt
  · have := Nat.mul_le_mul_right size (Nat.succ_le_of_lt hlt)
    rw [Nat.succ_mul] at this
    exact .inl (by omega)
  · have := Nat.mul_le_mul_right size (Nat.succ_le_of_lt hgt)
    rw [Nat.succ_mul] at this
    exact .inr (by omega)

/-- A change inside one slot leaves the others alone. -/
lemma slots_of_agreeOff {m m' : ℕ → UInt8} {t i : ℕ} (hfit : lay.Fits f.headerSize cap)
    (h : Medium.AgreeOff m m' (t * lay.slotSize) lay.slotSize) (hi : i ≠ t) :
    f.slots lay cap m' i = f.slots lay cap m i :=
  view_congr hfit fun a h1 h2 => h a (slot_apart hi h1 h2)

/-- Erasing a slot leaves it as it was or empty. -/
lemma erase_slot_spec (b : Backend) (hfit : lay.Fits f.headerSize cap) (t : ℕ) (d : Device) :
    Sat (b.erase (t * lay.slotSize) lay.slotSize) d
      (fun _ d' => d.Later d' ∧ Medium.AgreeOff d.medium d'.medium (t * lay.slotSize) lay.slotSize ∧
        ∀ a, t * lay.slotSize ≤ a → a < t * lay.slotSize + lay.slotSize → d'.medium a = 0xff)
      (fun e d' => d.Later d' ∧
        (∀ v, Versioned.Torn (f.slots lay cap d.medium) (f.slots lay cap d'.medium) t v) ∧
        (b.Suits (t * lay.slotSize + lay.slotSize) d → ¬ Refuses e)) := by
  refine (erase_spec b _ _ d).mono (fun _ d' h => ?_) (fun _ d' h => ?_)
  · obtain ⟨hl, hm⟩ := h
    rw [hm]
    exact ⟨hl, Medium.agreeOff_fill _ _ _ _, fun a h1 h2 => Medium.fill_of_mem h1 h2⟩
  · obtain ⟨hl, ⟨k, hk, hm, -⟩, hans⟩ := h
    refine ⟨hl, fun v => ⟨fun i hi => slots_of_agreeOff hfit ?_ hi, ?_⟩, fun hs => ?_⟩
    · rw [hm]
      exact (Medium.agreeOff_fill _ _ _ _).widen le_rfl (by omega)
    · -- an erase that did anything at all has cleared the first byte of the header
      rcases Nat.eq_zero_or_pos k with rfl | hpos
      · left
        rw [hm, Medium.fill_zero]
      · right
        left
        refine view_of_erased ?_
        rw [hm]
        exact Medium.fill_of_mem le_rfl (by omega)
    · have := hs.inside
      exact hs.answered hl (hans ⟨by omega, by omega⟩)

/-- Writing an image into an erased slot: the slot holds nothing until the marker is
programmed, and then everything. The header is there from the start. -/
lemma writeImage_spec (b : Backend) (hfit : lay.Fits f.headerSize cap) (t : ℕ)
    {bytes image : List UInt8} {header : η} (hhl : bytes.length = f.headerSize)
    (hil : image.length = cap) (hof : f.ofBytes bytes = header) (hv : f.valid header = true)
    (hcrc : f.dataCrc header = lsCrc32 image)
    (d : Device)
    (he : ∀ a, t * lay.slotSize ≤ a → a < t * lay.slotSize + lay.slotSize → d.medium a = 0xff) :
    Sat (writeImage b lay (t * lay.slotSize) bytes image) d
      (fun _ d' => d.Asked Request.Spares d' ∧
        Medium.AgreeOff d.medium d'.medium (t * lay.slotSize) lay.slotSize ∧
        f.slots lay cap d'.medium t = some (f.generation header, image) ∧
        Medium.read d'.medium (t * lay.slotSize) f.headerSize = bytes)
      (fun e d' => d.Asked Request.Spares d' ∧
        Medium.AgreeOff d.medium d'.medium (t * lay.slotSize) lay.slotSize ∧
        (f.slots lay cap d'.medium t = none ∨
          f.slots lay cap d'.medium t = some (f.generation header, image)) ∧
        (Completes (lsStorageProgram b (t * lay.slotSize) bytes) d →
          Medium.read d'.medium (t * lay.slotSize) f.headerSize = bytes) ∧
        (b.Suits (t * lay.slotSize + lay.slotSize) d → ¬ Refuses e)) := by
  have hc := hfit.commit
  have hpay := hfit.payload
  have hs := hfit.slot
  unfold Format.slots
  generalize t * lay.slotSize = offset at *
  have unmarked : ∀ m' : ℕ → UInt8, m' (offset + lay.commitOffset) = 0xff →
      f.view lay cap m' offset = none := fun m' hm' => view_of_unmarked (by rw [hm']; decide)
  have hmark := he (offset + lay.commitOffset) (by omega) (by omega)
  rw [writeImage]
  -- the header
  refine ((sat_run _ d).and (program_exits b offset bytes d)).bind (fun _ d₁ h₁ => ?_)
    (fun _ d₁ h₁ => ?_)
  swap
  · have ha := h₁.2.agreeOff
    exact ⟨h₁.2.asked.spares, ha.widen le_rfl (by omega),
      .inl (unmarked _ ((ha _ (by omega)).trans hmark)),
      fun hprog => (sat_of_error hprog h₁.1).elim, fun hsuits => hsuits.program (by omega) h₁.2⟩
  obtain ⟨-, hl₁, hm₁, -⟩ := h₁
  have hl₁ := hl₁.spares
  have ha₁ : Medium.AgreeOff d.medium d₁.medium offset bytes.length := by
    rw [hm₁]
    exact Medium.agreeOff_write _ _ _
  have hf₁ : Medium.AgreeOff d.medium d₁.medium offset lay.slotSize :=
    ha₁.widen le_rfl (by omega)
  have hh₁ : Medium.read d₁.medium offset f.headerSize = bytes := by
    rw [hm₁, ← hhl, Medium.read_write_same]
  have hmark₁ : d₁.medium (offset + lay.commitOffset) = 0xff := (ha₁ _ (by omega)).trans hmark
  -- the image
  refine (program_exits b _ image d₁).bind (fun _ d₂ h₂ => ?_) (fun _ d₂ h₂ => ?_)
  swap
  · have ha := h₂.agreeOff
    exact ⟨hl₁.trans h₂.asked.spares, hf₁.trans (ha.widen (by omega) (by omega)),
      .inl (unmarked _ ((ha _ (by omega)).trans hmark₁)),
      fun _ => (ha.read_eq (by omega)).trans hh₁,
      fun hsuits => (hsuits.later hl₁.later).program (by omega) h₂⟩
  obtain ⟨hl₂, hm₂, -⟩ := h₂
  have hl₁₂ := hl₁.trans hl₂.spares
  have ha₂ : Medium.AgreeOff d₁.medium d₂.medium (offset + lay.payloadOffset) image.length := by
    rw [hm₂]
    exact Medium.agreeOff_write _ _ _
  have hf₂ := hf₁.trans (ha₂.widen (by omega) (by omega))
  have hh₂ : Medium.read d₂.medium offset f.headerSize = bytes :=
    (ha₂.read_eq (by omega)).trans hh₁
  have hi₂ : Medium.read d₂.medium (offset + lay.payloadOffset) cap = image := by
    rw [hm₂, ← hil, Medium.read_write_same]
  have hmark₂ : d₂.medium (offset + lay.commitOffset) = 0xff := (ha₂ _ (by omega)).trans hmark₁
  -- the sync before the marker
  refine (sync_glanced b d₂).bind (fun _ d₃ h₃ => ?_) (fun _ d₃ h₃ => ?_)
  swap
  · have hl := hl₁₂.trans h₃.1.spares
    rw [h₃.1.medium]
    exact ⟨hl, hf₂, .inl (unmarked _ hmark₂), fun _ => hh₂,
      fun hsuits => hsuits.answered hl.later h₃.2⟩
  have hl₁₃ := hl₁₂.trans h₃.spares
  -- the marker
  have hm₃ := h₃.medium
  have hfull : ∀ m' : ℕ → UInt8,
      m' = Medium.write d₃.medium (offset + lay.commitOffset) [slotCommitted] →
      Medium.AgreeOff d.medium m' offset lay.slotSize ∧
        f.view lay cap m' offset = some (f.generation header, image) ∧
        Medium.read m' offset f.headerSize = bytes := by
    rintro m' rfl
    rw [hm₃]
    have ha := Medium.agreeOff_write d₂.medium (offset + lay.commitOffset) [slotCommitted]
    rw [List.length_singleton] at ha
    have hh := (ha.read_eq (show offset + f.headerSize ≤ _ ∨ _ by omega)).trans hh₂
    refine ⟨hf₂.trans (ha.widen (by omega) (by omega)), view_of_complete hv hcrc ?_ ?_ ?_, hh⟩
    · rw [hh, hof]
    · exact Medium.write_at (i := 0) rfl
    · rw [ha.read_eq (by omega)]
      exact hi₂
  refine ((program_exits b _ [slotCommitted] d₃).and (program_byte b _ slotCommitted d₃)).bind
    (fun _ d₄ h₄ => ?_) (fun _ d₄ h₄ => ?_)
  swap
  · have hcause (hsuits : b.Suits (offset + lay.slotSize) d) :=
      (hsuits.later hl₁₃.later).program (by rw [List.length_singleton]; omega) h₄.1
    refine ⟨hl₁₃.trans h₄.1.asked.spares, ?_⟩
    rcases h₄.2.2 with h | h
    · rw [h, hm₃]
      exact ⟨hf₂, .inl (unmarked _ hmark₂), fun _ => hh₂, hcause⟩
    · obtain ⟨ha, hview, hh⟩ := hfull _ h
      exact ⟨ha, .inr hview, fun _ => hh, hcause⟩
  -- the sync behind the marker may fail after the slot is complete
  have hl₁₄ := hl₁₃.trans h₄.1.1.spares
  obtain ⟨ha, hview, hh⟩ := hfull _ h₄.2.2
  refine (sync_glanced b d₄).mono (fun _ d₅ h₅ => ?_) (fun _ d₅ h₅ => ?_)
  · rw [h₅.medium]
    exact ⟨hl₁₄.trans h₅.spares, ha, hview, hh⟩
  · rw [h₅.1.medium]
    have hl := hl₁₄.trans h₅.1.spares
    exact ⟨hl, ha, .inr hview, fun _ => hh, fun hsuits => hsuits.answered hl.later h₅.2⟩

end Commit

end Latch
