
/-
The flash mirror of `src/storage/flash_mirror.c`: one logical image kept in two
banks, each update written to the bank that is not active.

The functions follow the source. `mirror` is the driver they form and
`mirror_sound` the proof that it keeps versioned slots; the results are

* `mirror_refines_atomic_array`: in every run with arbitrary faults, cuts of the
  power and re-initialisations, a successful read returns the bytes of the last
  successful update of the session, or of the image opened, and initialisation
  recovers the last successful update or one attempted after it;
* no assumption on the checksum or on the generations is needed, and the device
  may hold anything at the start.
-/
import Latch.Storage.ImageStore

namespace Latch

open Exec Versioned Bytes

/-- `flash_header_t`. -/
structure FlashHeader where
  magic : UInt32
  version : UInt32
  generation : UInt32
  logicalCapacity : UInt32
  dataCrc : UInt32
  headerCrc : UInt32
  deriving DecidableEq, Repr

/-- `FLASH_MAGIC`. -/
def flashMagic : UInt32 := 0x464d534c

/-- `FLASH_VERSION`. -/
def flashVersion : UInt32 := 2

/-- The bytes of a header in memory. -/
def FlashHeader.bytes (h : FlashHeader) : List UInt8 :=
  le32 h.magic ++ (le32 h.version ++ (le32 h.generation ++ (le32 h.logicalCapacity ++
    (le32 h.dataCrc ++ le32 h.headerCrc))))

/-- The header that the bytes at the start of `l` are. -/
def FlashHeader.ofBytes (l : List UInt8) : FlashHeader :=
  ⟨get32 l 0, get32 l 4, get32 l 8, get32 l 12, get32 l 16, get32 l 20⟩

/-- `ls_flash_mirror_t`. The layout holds `payload_offset`, `commit_offset` and `bank_size`. -/
structure FlashMirror where
  workspace : List UInt8
  logicalCapacity : ℕ
  layout : Layout
  generation : UInt32
  activeBank : UInt8

/-- `sizeof(flash_header_t)`. -/
def flashHeaderSize : ℕ := 24

/-- `flash_layout`. -/
def flashLayout (b : Backend) (logicalCapacity : ℕ) : Option Layout :=
  slotLayout b.sizeMax flashHeaderSize logicalCapacity b.eraseSize b.unit

namespace FlashMirror

/-- The mirror after its workspace was overwritten. -/
def withWorkspace (mirror : FlashMirror) (image : List UInt8) : FlashMirror :=
  { mirror with workspace := image }

/-- `bank_offset`. -/
def bankOffset (mirror : FlashMirror) (bank : UInt8) : ℕ := bank.toNat * mirror.layout.slotSize

/-- `header_crc`: the checksum of the fields before it. -/
def headerCrc (header : FlashHeader) : UInt32 := lsCrc32 (header.bytes.take 20)

/-- `valid_header`. -/
def validHeader (logicalCapacity : ℕ) (header : FlashHeader) : Bool :=
  header.magic == flashMagic && header.version == flashVersion &&
    header.logicalCapacity.toNat == logicalCapacity && header.headerCrc == headerCrc header

/-- The slot format of the mirror. -/
def format (logicalCapacity : ℕ) : Format FlashHeader where
  headerSize := flashHeaderSize
  ofBytes := FlashHeader.ofBytes
  valid := validHeader logicalCapacity
  generation header := header.generation
  dataCrc header := header.dataCrc
  headerSize_pos := by decide
  valid_erased l h := by
    have hne : get32 l 0 ≠ flashMagic := get32_ne_of_low h (by decide)
    simp [FlashHeader.ofBytes, validHeader, hne]

/-- `valid_bank`. -/
def validBank (b : Backend) (bank : UInt8) : DriverM FlashMirror (FlashHeader × Bool) := do
  let mirror ← getRam
  let (header, image) ← onDevice (readSlot (format mirror.logicalCapacity) b mirror.layout
    mirror.logicalCapacity (mirror.bankOffset bank))
  match image with
  | none => pure ()
  | some image => modifyRam (withWorkspace · image)
  pure (header, slotValid (format mirror.logicalCapacity) header image)

/-- The header that `commit_image` builds. -/
def newHeader (mirror : FlashMirror) (generation : UInt32) : FlashHeader :=
  let header : FlashHeader :=
    { magic := flashMagic
      version := flashVersion
      generation := generation
      logicalCapacity := UInt32.ofNat mirror.logicalCapacity
      dataCrc := lsCrc32 mirror.workspace
      headerCrc := 0 }
  { header with headerCrc := headerCrc header }

/-- `commit_image`. -/
def commitImage (b : Backend) (bank : UInt8) (generation : UInt32) : DriverM FlashMirror Unit := do
  let mirror ← getRam
  let offset := mirror.bankOffset bank
  onDevice (b.erase offset mirror.layout.slotSize)
  onDevice (writeImage b mirror.layout offset (mirror.newHeader generation).bytes mirror.workspace)
  modifyRam fun mirror => { mirror with activeBank := bank, generation := generation }

/-- `mirror_read`. -/
def mirrorRead (b : Backend) (offset length : ℕ) : DriverM FlashMirror (List UInt8) := do
  let mirror ← getRam
  if offset > mirror.logicalCapacity ∨ length > mirror.logicalCapacity - offset then
    throw (.fail .einval)
  else
    onDevice (b.read (mirror.bankOffset mirror.activeBank + mirror.layout.payloadOffset + offset)
      length)

/-- `read_active_image`. -/
def readActiveImage (b : Backend) : DriverM FlashMirror Unit := do
  let mirror ← getRam
  let image ← onDevice (b.read
    (mirror.bankOffset mirror.activeBank + mirror.layout.payloadOffset) mirror.logicalCapacity)
  modifyRam (withWorkspace · image)

/-- `update_image`, with `mirror_write` and `mirror_erase` as the two kinds of change. -/
def updateImage (b : Backend) (c : Change) : DriverM FlashMirror Unit := do
  let mirror ← getRam
  if c.offset > mirror.logicalCapacity ∨ c.bytes.length > mirror.logicalCapacity - c.offset then
    throw (.fail .einval)
  else do
    readActiveImage b
    modifyRam fun mirror => mirror.withWorkspace (c.apply mirror.workspace)
    commitImage b (mirror.activeBank ^^^ 1) (mirror.generation + 1)

/-- `mirror_sync`. -/
def mirrorSync (b : Backend) : DriverM FlashMirror Unit := onDevice b.sync

/-- `ls_flash_mirror_init`, from the point where the geometry is accepted. -/
def openBanks (b : Backend) (logicalCapacity : ℕ) (lay : Layout) : DriverM FlashMirror Unit := do
  modifyRam fun mirror => ⟨mirror.workspace, logicalCapacity, lay, 0, 0⟩
  let (first, firstValid) ← validBank b 0
  let (second, secondValid) ← validBank b 1
  if firstValid || secondValid then
    if secondValid && (!firstValid || Serial.isNewer second.generation first.generation) then
      modifyRam fun mirror => { mirror with activeBank := 1, generation := second.generation }
    else modifyRam fun mirror => { mirror with activeBank := 0, generation := first.generation }
  else do
    modifyRam (withWorkspace · (List.replicate logicalCapacity 0xff))
    commitImage b 0 1

end FlashMirror

open FlashMirror

/-- `ls_flash_mirror_init`. -/
def lsFlashMirrorInit (b : Backend) (logicalCapacity : ℕ) : DriverM FlashMirror Unit :=
  if ¬ (b.hasRead ∧ b.hasWrite ∧ b.hasErase ∧ logicalCapacity ≠ 0 ∧
      logicalCapacity ≤ 0xffffffff) then throw (.fail .einval)
  else
    match flashLayout b logicalCapacity with
    | none => throw (.fail .einval)
    | some lay =>
        if lay.slotSize > b.sizeMax / 2 ∨ b.capacity < lay.slotSize * 2 then
          throw (.fail .enospace)
        else openBanks b logicalCapacity lay

/-! ### The mirror as a driver -/

lemma FlashHeader.ofBytes_bytes (h : FlashHeader) : FlashHeader.ofBytes h.bytes = h := by
  simp [FlashHeader.ofBytes, FlashHeader.bytes, get32_append_right]

@[simp] lemma FlashHeader.bytes_length (h : FlashHeader) : h.bytes.length = 24 := by
  simp [FlashHeader.bytes]

/-- The driver of a flash mirror of `cap` bytes over a raw device. -/
def mirror (b : Backend) (cap : ℕ) : Driver FlashHeader FlashMirror where
  format := format cap
  layout := (flashLayout b cap).getD ⟨0, 0, 0⟩
  cap := cap
  count := 2
  blank := ⟨[], 0, ⟨0, 0, 0⟩, 0, 0⟩
  active r := r.activeBank.toNat
  generation r := r.generation
  target r := (r.activeBank ^^^ 1).toNat
  init := lsFlashMirrorInit b cap
  change := updateImage b
  read := mirrorRead b
  sync := mirrorSync b

/-- The memory of an open mirror: it has the layout of the driver, and one of two banks
is active. -/
structure MirrorWf (b : Backend) (cap : ℕ) (r : FlashMirror) : Prop where
  capacity : r.logicalCapacity = cap
  small : cap ≤ 0xffffffff
  layout : flashLayout b cap = some r.layout
  active : r.activeBank = 0 ∨ r.activeBank = 1

section

variable {b : Backend} {cap : ℕ}

variable {r : FlashMirror} (s : System FlashMirror)

lemma MirrorWf.layout_eq (h : MirrorWf b cap r) :
    (mirror b cap).layout = r.layout := by
  simp [mirror, h.layout]

lemma MirrorWf.fits (h : MirrorWf b cap r) :
    r.layout.Fits flashHeaderSize cap := slotLayout_spec h.layout

/-- The workspace is scratch memory: replacing it keeps the mirror well formed. -/
lemma MirrorWf.workspace (h : MirrorWf b cap r) (w : List UInt8) :
    MirrorWf b cap (r.withWorkspace w) := ⟨h.capacity, h.small, h.layout, h.active⟩

/-- The slots of the mirror, read through the layout of a session. -/
lemma mirror_slots (h : MirrorWf b cap r) (m : ℕ → UInt8) :
    (mirror b cap).slots m = (format cap).slots r.layout cap m := by
  unfold Driver.slots
  rw [h.layout_eq]
  rfl

/-- The header that a commit writes is valid. -/
lemma validHeader_newHeader (h : MirrorWf b cap r) (generation : UInt32) :
    validHeader cap (r.newHeader generation) = true := by
  have hcap : (UInt32.ofNat r.logicalCapacity).toNat = cap := by
    have := h.small
    rw [h.capacity, UInt32.toNat_ofNat']
    omega
  have hcrc : headerCrc (r.newHeader generation) = (r.newHeader generation).headerCrc := by
    simp only [newHeader, headerCrc, FlashHeader.bytes, ← List.append_assoc]
    congr 1
  simp only [validHeader, hcrc]
  simp [newHeader, hcap]

lemma validBank_spec (h : MirrorWf b cap s.ram) (bank : UInt8) :
    Sat (validBank b bank) s
      (fun p s' => s.dev.Looked s'.dev ∧ (∃ w, s'.ram = s.ram.withWorkspace w) ∧
        ∃ x, (mirror b cap).slots s.dev.medium bank.toNat =
          if p.2 then some (p.1.generation, x) else none)
      (fun e s' => s.dev.Looked s'.dev ∧
        (b.Suits (s.ram.bankOffset bank + s.ram.layout.slotSize) s.dev → ¬ Refuses e)) := by
  rw [mirror_slots h, validBank, sat_bind, sat_getRam, sat_bind, sat_onDevice, h.capacity]
  have hfit : s.ram.layout.Fits (format cap).headerSize cap := h.fits
  refine (readSlot_spec b hfit _ s.dev).mono (fun p d₁ h₁ => ?_) (fun e d₁ h₁ =>
    ⟨h₁.1.toLooked, fun hs => hs.answered h₁.1.toLater (h₁.2 hs.inside)⟩)
  obtain ⟨header, image⟩ := p
  obtain ⟨hl, -, hx⟩ := h₁
  cases image with
  | none => exact .pure ⟨hl.toLooked, ⟨s.ram.workspace, rfl⟩, hx⟩
  | some image =>
      refine (sat_bind _ _).mpr (sat_modifyRam.mpr (.pure ?_))
      exact ⟨hl.toLooked, ⟨image, rfl⟩, hx⟩

/-- A commit writes one bank; the mirror moves to it only on success. -/
lemma commitImage_spec (h : MirrorWf b cap s.ram)
    (hw : s.ram.workspace.length = cap) {bank : UInt8} (hbank : bank = 0 ∨ bank = 1)
    (generation : UInt32) :
    Sat (commitImage b bank generation) s
      (fun _ s' => MirrorWf b cap s'.ram ∧ s'.ram.activeBank = bank ∧
        s'.ram.generation = generation ∧
        Versioned.Written ((mirror b cap).slots s.dev.medium) ((mirror b cap).slots s'.dev.medium) bank.toNat
          (generation, s.ram.workspace))
      (fun e s' => s'.ram = s.ram ∧
        Torn ((mirror b cap).slots s.dev.medium) ((mirror b cap).slots s'.dev.medium) bank.toNat
          (generation, s.ram.workspace) ∧
        (b.Suits (s.ram.bankOffset bank + s.ram.layout.slotSize) s.dev → ¬ Refuses e)) := by
  simp only [mirror_slots h]
  have hfit : s.ram.layout.Fits (format cap).headerSize cap := h.fits
  rw [commitImage, sat_bind, sat_getRam]
  dsimp only
  rw [sat_bind, sat_onDevice]
  refine (erase_slot_spec b hfit bank.toNat s.dev).mono (fun _ d₁ h₁ => ?_)
    (fun _ d₁ h₁ => ⟨rfl, h₁.2.1 _, h₁.2.2⟩)
  obtain ⟨hl₁, ha₁, he⟩ := h₁
  rw [sat_bind, sat_onDevice]
  refine (writeImage_spec b hfit bank.toNat (FlashHeader.bytes_length _) hw
    (FlashHeader.ofBytes_bytes _) (validHeader_newHeader h generation) rfl d₁ he).mono
    (fun _ d₂ h₂ => ?_) (fun _ d₂ h₂ => ?_)
  · obtain ⟨-, ha₂, hv, -⟩ := h₂
    rw [sat_modifyRam]
    exact ⟨⟨h.capacity, h.small, h.layout, hbank⟩, rfl, rfl,
      fun i hi => slots_of_agreeOff hfit (ha₁.trans ha₂) hi, hv⟩
  · obtain ⟨-, ha₂, hv, -, hcause⟩ := h₂
    exact ⟨rfl, ⟨fun i hi => slots_of_agreeOff hfit (ha₁.trans ha₂) hi, .inr hv⟩,
      fun hs => hcause (hs.later hl₁)⟩

/-- The other bank. -/
lemma xor_one_cases {a : UInt8} (h : a = 0 ∨ a = 1) :
    (a ^^^ 1 = 0 ∨ a ^^^ 1 = 1) ∧ (a ^^^ 1).toNat < 2 ∧ (a ^^^ 1).toNat ≠ a.toNat := by
  rcases h with rfl | rfl <;> decide

lemma updateImage_spec (c : Change) (s : System FlashMirror) (v : List UInt8)
    (h : MirrorWf b cap s.ram)
    (hv : (mirror b cap).slots s.dev.medium s.ram.activeBank.toNat = some (s.ram.generation, v)) :
    Sat (updateImage b c) s
      (fun _ s' => MirrorWf b cap s'.ram ∧ (mirror b cap).Changes c v s s')
      (fun _ s' => MirrorWf b cap s'.ram ∧ (mirror b cap).FailsToChange c v s s') := by
  have himage : Medium.read s.dev.medium
      (s.ram.bankOffset s.ram.activeBank + s.ram.layout.payloadOffset) cap = v := by
    rw [mirror_slots h] at hv
    exact view_image hv
  rw [updateImage, sat_bind, sat_getRam, h.capacity, sat_ite]
  constructor
  · intro hout
    have hout : ¬ c.Within cap := by unfold Change.Within; omega
    exact .throw ⟨h, .refused v s hout⟩
  intro hin
  have hin : c.Within cap := by unfold Change.Within; omega
  rw [sat_bind, readActiveImage, sat_bind, sat_getRam, sat_bind, sat_onDevice, h.capacity]
  refine (read_spec b _ _ s.dev).mono (fun image d₁ h₁ => ?_) (fun _ d₁ h₁ => ?_)
  swap
  · exact ⟨h, .torn hin rfl rfl ⟨fun i _ => by rw [h₁.medium], .inl (by rw [h₁.medium])⟩⟩
  obtain ⟨rfl, h₁⟩ := h₁
  rw [himage, sat_modifyRam, sat_bind, sat_modifyRam]
  -- the commit sees the device as it was, with the patched image in the workspace
  have hlen : v.length = cap := by rw [← himage, Medium.read_length]
  refine (commitImage_spec ⟨d₁, s.ram.withWorkspace (c.apply v)⟩ (h.workspace _)
    (Change.apply_length hin hlen) (xor_one_cases h.active).1 _).mono
    (fun _ s' h' => ?_) (fun _ s' h' => ?_)
  · rw [h₁.medium] at h'
    obtain ⟨hwf, hact, hgen, hw⟩ := h'
    exact ⟨hwf, congrArg UInt8.toNat hact, hgen, hw⟩
  · rw [h₁.medium] at h'
    obtain ⟨hr, ht, -⟩ := h'
    rw [hr]
    refine ⟨h.workspace _, .torn hin ?_ ?_ ht⟩ <;> rw [hr] <;> rfl

/-- The scan over two banks. -/
lemma select_two (c : Slots (List UInt8)) :
    select 2 c = scan c (scan c none 0) 1 := rfl

lemma openBanks_spec {lay : Layout} (hcap : cap ≤ 0xffffffff)
    (hlay : flashLayout b cap = some lay) :
    Sat (openBanks b cap lay) s
      (fun _ s' => MirrorWf b cap s'.ram ∧
        (mirror b cap).Opens s.dev.medium s'.dev.medium s'.ram)
      (fun e s' => (mirror b cap).FailsToOpen s.dev.medium s'.dev.medium ∧
        (b.Suits (lay.slotSize * 2) s.dev → ¬ Refuses e)) := by
  rw [openBanks, sat_bind, sat_modifyRam, sat_bind]
  set r₀ : FlashMirror := ⟨s.ram.workspace, cap, lay, 0, 0⟩ with hr₀
  have h₀ : MirrorWf b cap r₀ := ⟨rfl, hcap, hlay, .inl rfl⟩
  refine (validBank_spec ⟨s.dev, r₀⟩ h₀ 0).mono (fun p s₁ h₁ => ?_)
    (fun _ s₁ h₁ => ⟨.inl (by rw [h₁.1.medium]), fun hs => h₁.2 (hs.slot two_pos)⟩)
  obtain ⟨first, firstValid⟩ := p
  obtain ⟨hd₁, ⟨w₁, hr₁⟩, x₁, hx₁⟩ := h₁
  dsimp only at hd₁ hx₁ ⊢
  have hwf₁ : MirrorWf b cap s₁.ram := by rw [hr₁]; exact h₀.workspace _
  have hlay₁ : s₁.ram.layout = lay := by rw [hr₁]; rfl
  refine (validBank_spec s₁ hwf₁ 1).bind (fun p s₂ h₂ => ?_)
    (fun _ s₂ h₂ => ⟨.inl (by rw [h₂.1.medium, hd₁.medium]), fun hs => h₂.2 ?_⟩)
  swap
  · rw [bankOffset, hlay₁]
    exact (hs.later hd₁.toLater).slot one_lt_two
  obtain ⟨second, secondValid⟩ := p
  obtain ⟨hd₂, ⟨w₂, hr₂⟩, x₂, hx₂⟩ := h₂
  rw [hd₁.medium] at hx₂
  dsimp only at hx₂ ⊢
  have hwf₂ : MirrorWf b cap s₂.ram := by rw [hr₂]; exact hwf₁.workspace _
  have hm : s₂.dev.medium = s.dev.medium := hd₂.medium.trans hd₁.medium
  change (mirror b cap).slots s.dev.medium 0 = _ at hx₁
  change (mirror b cap).slots s.dev.medium 1 = _ at hx₂
  rw [sat_ite]
  constructor
  · intro hany
    rw [sat_ite]
    constructor
    · -- the second bank is valid, and the first one is not or is older
      intro hsecond
      simp only [Bool.and_eq_true, Bool.or_eq_true, Bool.not_eq_true', Serial.isNewer_iff] at hsecond
      obtain ⟨rfl, hnew⟩ := hsecond
      rw [sat_modifyRam]
      refine ⟨⟨hwf₂.capacity, hcap, hwf₂.layout, .inr rfl⟩, .inl ⟨x₂, by rw [hm], ?_⟩⟩
      change select 2 _ = some (1, second.generation, x₂)
      cases firstValid with
      | false => simp [select_two, scan, hx₁, hx₂]
      | true => simpa [select_two, scan, hx₁, hx₂] using hnew
    · intro hfirst
      simp only [Bool.and_eq_true, Bool.or_eq_true, Bool.not_eq_true', Serial.isNewer_iff,
        not_and, not_or] at hfirst hany
      rw [sat_modifyRam]
      refine ⟨⟨hwf₂.capacity, hcap, hwf₂.layout, .inl rfl⟩, .inl ⟨x₁, by rw [hm], ?_⟩⟩
      change select 2 _ = some (0, first.generation, x₁)
      cases firstValid with
      | false => simp_all
      | true =>
          cases secondValid with
          | false => simp [select_two, scan, hx₁, hx₂]
          | true => simpa [select_two, scan, hx₁, hx₂] using hfirst rfl
  · intro hnone
    simp only [Bool.or_eq_true, not_or, Bool.not_eq_true] at hnone
    obtain ⟨rfl, rfl⟩ := hnone
    have hsel : select (mirror b cap).count ((mirror b cap).slots s.dev.medium) = none := by
      change select 2 _ = none
      simp [select_two, scan, hx₁, hx₂]
    rw [sat_bind, sat_modifyRam]
    refine (commitImage_spec ⟨s₂.dev, s₂.ram.withWorkspace (List.replicate cap 0xff)⟩
      (hwf₂.workspace _) (List.length_replicate ..) (.inl rfl) 1).mono
      (fun _ s' h' => ?_) (fun _ s' h' => ?_)
    · obtain ⟨hwf', hact, hgen, hw⟩ := h'
      dsimp only at hw
      rw [hm, ← hact, ← hgen] at hw
      refine ⟨hwf', .inr ⟨_, hsel, ?_, hw⟩⟩
      change s'.ram.activeBank.toNat < 2
      rw [hact]
      decide
    · obtain ⟨-, hw, hcause⟩ := h'
      dsimp only at hw
      rw [hm] at hw
      refine ⟨.inr ⟨0, _, hsel, two_pos, hw⟩, fun hs => hcause ?_⟩
      have hlay₂ : s₂.ram.layout = lay := by rw [hr₂]; exact hlay₁
      change b.Suits (0 * s₂.ram.layout.slotSize + s₂.ram.layout.slotSize) s₂.dev
      rw [hlay₂]
      exact ((hs.later hd₁.toLater).later hd₂.toLater).slot two_pos

lemma lsFlashMirrorInit_spec :
    Sat (lsFlashMirrorInit b cap) s
      (fun _ s' => MirrorWf b cap s'.ram ∧
        (mirror b cap).Opens s.dev.medium s'.dev.medium s'.ram)
      (fun _ s' => (mirror b cap).FailsToOpen s.dev.medium s'.dev.medium) := by
  rw [lsFlashMirrorInit]
  refine .ite (fun _ => .throw (.inl rfl)) fun hok => ?_
  rw [not_not] at hok
  cases hlay : flashLayout b cap with
  | none => exact .throw (.inl rfl)
  | some lay =>
      dsimp only
      rw [sat_ite]
      exact ⟨fun _ => .throw (.inl rfl), fun _ =>
        (openBanks_spec s hok.2.2.2.2 hlay).mono (fun _ _ h => h) fun _ _ h => h.1⟩

lemma mirrorRead_spec (offset length : ℕ) (s : System FlashMirror) (h : MirrorWf b cap s.ram) :
    Sat (mirrorRead b offset length) s
      (fun bs s' => s.dev.Looked s'.dev ∧ s'.ram = s.ram ∧ offset + length ≤ cap ∧
        bs = Medium.read s.dev.medium
          (s.ram.activeBank.toNat * (mirror b cap).layout.slotSize +
            (mirror b cap).layout.payloadOffset + offset) length)
      (fun _ s' => s.dev.Looked s'.dev ∧ s'.ram = s.ram) := by
  rw [mirrorRead, sat_bind, sat_getRam, h.layout_eq, h.capacity]
  refine .ite (fun _ => .throw ⟨.refl _, rfl⟩) fun hin => ?_
  rw [sat_onDevice]
  refine (read_spec b _ _ s.dev).mono (fun bs d₁ h₁ => ⟨h₁.2, rfl, by omega, h₁.1⟩)
    (fun _ d₁ h₁ => ⟨h₁, rfl⟩)

/-- The mirror keeps versioned slots. -/
theorem mirror_sound (b : Backend) (cap : ℕ) : (mirror b cap).Sound (MirrorWf b cap) where
  init s := lsFlashMirrorInit_spec s
  change c s v h hv := updateImage_spec c s v h hv
  target r h := (xor_one_cases h.active).2
  read offset length s h := mirrorRead_spec offset length s h
  sync s := by
    change Sat (onDevice b.sync) s _ _
    rw [sat_onDevice]
    exact ((sync_looked b).sat s.dev).mono (fun _ _ h => ⟨h, rfl⟩) (fun _ _ h => ⟨h, rfl⟩)

/-- With two banks only the active one lies before the target. -/
lemma mirror_clear {s : Store FlashMirror} (hi : (mirror b cap).Inv (MirrorWf b cap) s) :
    (mirror b cap).Clear s := by
  rintro ⟨r, v⟩ hs i hit ⟨h, y⟩ hslot
  have hheld : (mirror b cap).slots s.dev.medium r.activeBank.toNat = some (r.generation, v) :=
    (hi.held hs).active
  have hia : i = r.activeBank.toNat := by
    change i < (r.activeBank ^^^ 1).toNat at hit
    rcases (hi.wf r v hs).active with h0 | h0
    · rw [h0] at hit ⊢
      exact Nat.lt_one_iff.mp hit
    · rw [h0] at hit
      exact absurd hit (Nat.not_lt_zero i)
  subst hia
  rw [hheld] at hslot
  cases hslot
  exact Serial.newer_irrefl _

lemma mirror_inv (d : Device) (ops : List StoreOp) :
    (mirror b cap).Inv (MirrorWf b cap) ((mirror b cap).after d ops) := by
  rw [Driver.after]
  refine Driver.run_inv (mirror_sound b cap) (C := fun _ _ => True) (fun s op _ hi => ?_)
    (Driver.runMeets_of_forall (fun _ _ => trivial) ops _) (Driver.inv_start d)
  exact ⟨.inl le_rfl, .inl le_rfl, fun _ _ => mirror_clear hi⟩

end

/-- **The mirror is an atomic byte array.** After any sequence of calls, over any device:
a read that succeeds returns bytes of the session's value, which is the image of its last
successful change or the one it was opened on; and initialisation, where it succeeds, opens
the image of the last successful change or of one attempted after it. -/
theorem mirror_refines_atomic_array (b : Backend) (cap : ℕ) (d : Device) (ops : List StoreOp) :
    (∀ r v offset length, ((mirror b cap).after d ops).session = some (r, v) →
      Returns (mirrorRead b offset length) ⟨((mirror b cap).after d ops).dev, r⟩ fun bs _ =>
        offset + length ≤ cap ∧ bs = (v.drop offset).take length) ∧
    ∀ r, Returns (lsFlashMirrorInit b cap) ⟨((mirror b cap).after d ops).dev, r⟩ fun _ s' =>
      ((mirror b cap).after d ops).history.durable = none ∨
        ((mirror b cap).after d ops).history.Allows ((mirror b cap).image s'.ram s'.dev.medium) := by
  have hi : (mirror b cap).Inv (MirrorWf b cap) ((mirror b cap).after d ops) := mirror_inv d ops
  generalize (mirror b cap).after d ops = s at *
  constructor
  · intro r v offset length hs
    refine (mirrorRead_spec offset length ⟨s.dev, r⟩ (hi.wf r v hs)).mono
      fun bs s' h => ⟨h.2.2.1, ?_⟩
    rw [h.2.2.2, ← hi.image_eq hs]
    exact (Medium.read_slice _ _ h.2.2.1).symm
  · intro r
    exact (lsFlashMirrorInit_spec ⟨s.dev, r⟩).mono fun _ s' h => hi.opened_allows h.2

/-- A device that loses power at one request. -/
def cutAt (k : ℕ) : Device := .erased fun n _ => if n = k then .cut 0 else .none

/-- An update that loses power behind its marker: the theorem applies to the run, and the
image that is recovered is the one attempted last. -/
theorem mirror_refines_atomic_array_small :
    let ops : List StoreOp := [.init, .change (.write 0 [7]), .change (.erase 0 1)]
    ((mirror smallNor 2).after (cutAt 38) ops).history = ⟨some [7, 0xff], [[0xff, 0xff]]⟩ ∧
    ((mirror smallNor 2).after (cutAt 38) (ops ++ [.init])).session.map Prod.snd =
      some [0xff, 0xff] ∧
    Returns (lsFlashMirrorInit smallNor 2)
      ⟨((mirror smallNor 2).after (cutAt 38) ops).dev, (mirror smallNor 2).blank⟩ fun _ s' =>
        ((mirror smallNor 2).after (cutAt 38) ops).history.durable = none ∨
          ((mirror smallNor 2).after (cutAt 38) ops).history.Allows
            ((mirror smallNor 2).image s'.ram s'.dev.medium) :=
  ⟨by decide +kernel, by decide +kernel, (mirror_refines_atomic_array smallNor 2 (cutAt 38) _).2 _⟩

end Latch
