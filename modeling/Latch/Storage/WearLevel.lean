
/-
The wear-levelling store of `src/storage/wear_level.c`: one logical image kept in
up to 32 slots, each update written to the least-erased slot that is not active.

The functions follow the source. `wear` is the driver they form and `wear_sound`
the proof that it keeps versioned slots. Unlike the mirror, the store has several
slots an update may go to, and an update that failed behind its commit marker
leaves a complete slot with the generation the next update takes too.

* `wear_tie_recovers_earlier_attempt`: such a tie is lost by the later, successful
  update if its slot comes behind the other one.
* `wear_recovers_last_update`: in every run without such a tie, initialisation
  recovers the last successful update or one attempted after it.
* `wear_update_selected_iff_clear`: the condition is exact.
-/
import Latch.Storage.ImageStore

namespace Latch

open Exec Versioned Bytes

/-- `wear_header_t`. -/
structure WearHeader where
  magic : UInt32
  version : UInt32
  generation : UInt32
  eraseCount : UInt32
  logicalCapacity : UInt32
  dataCrc : UInt32
  headerCrc : UInt32
  deriving DecidableEq, Repr

/-- `WEAR_MAGIC`. -/
def wearMagic : UInt32 := 0x574c534c

/-- `WEAR_VERSION`. -/
def wearVersion : UInt32 := 2

/-- `LS_FLASH_WEAR_MAX_SLOTS`. -/
def lsFlashWearMaxSlots : ℕ := 32

/-- The bytes of a header in memory. -/
def WearHeader.bytes (h : WearHeader) : List UInt8 :=
  le32 h.magic ++ (le32 h.version ++ (le32 h.generation ++ (le32 h.eraseCount ++
    (le32 h.logicalCapacity ++ (le32 h.dataCrc ++ le32 h.headerCrc)))))

/-- The header that the bytes at the start of `l` are. -/
def WearHeader.ofBytes (l : List UInt8) : WearHeader :=
  ⟨get32 l 0, get32 l 4, get32 l 8, get32 l 12, get32 l 16, get32 l 20, get32 l 24⟩

/-- `ls_flash_wear_level_t`. The layout holds `payload_offset`, `commit_offset` and
`slot_size`; the active slot is below 32, so its cast to a byte loses nothing. -/
structure WearLevel where
  workspace : List UInt8
  logicalCapacity : ℕ
  layout : Layout
  slotCount : ℕ
  generation : UInt32
  eraseCounts : ℕ → UInt32
  failedCommits : UInt32
  activeSlot : ℕ

/-- `sizeof(wear_header_t)`. -/
def wearHeaderSize : ℕ := 28

/-- `wear_layout`. -/
def wearLayout (b : Backend) (logicalCapacity : ℕ) : Option Layout :=
  slotLayout b.sizeMax wearHeaderSize logicalCapacity b.eraseSize b.unit

namespace WearLevel

/-- The store after its workspace was overwritten. -/
def withWorkspace (wear : WearLevel) (image : List UInt8) : WearLevel :=
  { wear with workspace := image }

/-- The store after an erase count was set. -/
def withEraseCount (wear : WearLevel) (slot : ℕ) (count : UInt32) : WearLevel :=
  { wear with eraseCounts := Function.update wear.eraseCounts slot count }

/-- The store after a commit has failed. -/
def countFailure (wear : WearLevel) : WearLevel :=
  { wear with failedCommits := wear.failedCommits + 1 }

/-- `slot_offset`. -/
def slotOffset (wear : WearLevel) (slot : ℕ) : ℕ := slot * wear.layout.slotSize

/-- `header_crc`: the checksum of the fields before it. -/
def headerCrc (header : WearHeader) : UInt32 := lsCrc32 (header.bytes.take 24)

/-- `valid_header`. -/
def validHeader (logicalCapacity : ℕ) (header : WearHeader) : Bool :=
  header.magic == wearMagic && header.version == wearVersion &&
    header.logicalCapacity.toNat == logicalCapacity && header.headerCrc == headerCrc header

/-- The slot format of the store. -/
def format (logicalCapacity : ℕ) : Format WearHeader where
  headerSize := wearHeaderSize
  ofBytes := WearHeader.ofBytes
  valid := validHeader logicalCapacity
  generation header := header.generation
  dataCrc header := header.dataCrc
  headerSize_pos := by decide
  valid_erased l h := by
    have hne : get32 l 0 ≠ wearMagic := get32_ne_of_low h (by decide)
    simp [WearHeader.ofBytes, validHeader, hne]

/-- `valid_slot`. -/
def validSlot (b : Backend) (slot : ℕ) : DriverM WearLevel (WearHeader × Bool) := do
  let wear ← getRam
  let (header, image) ← onDevice (readSlot (format wear.logicalCapacity) b wear.layout
    wear.logicalCapacity (wear.slotOffset slot))
  match image with
  | none => pure ()
  | some image => modifyRam (withWorkspace · image)
  pure (header, slotValid (format wear.logicalCapacity) header image)

/-- One turn of the loop of `next_slot`: the slot selected so far with its erase count. -/
def nextSlotStep (wear : WearLevel) (best : ℕ × UInt32) (step : ℕ) : ℕ × UInt32 :=
  let slot := (wear.activeSlot + (step + 1)) % wear.slotCount
  if slot = wear.activeSlot then best
  else if wear.eraseCounts slot < best.2 then (slot, wear.eraseCounts slot)
  else best

/-- `next_slot`. -/
def nextSlot (wear : WearLevel) : ℕ :=
  ((List.range wear.slotCount).foldl wear.nextSlotStep
    ((wear.activeSlot + 1) % wear.slotCount, 0xffffffff)).1

/-- The header that `commit` builds. -/
def newHeader (wear : WearLevel) (slot : ℕ) (generation : UInt32) : WearHeader :=
  let header : WearHeader :=
    { magic := wearMagic
      version := wearVersion
      generation := generation
      eraseCount := wear.eraseCounts slot
      logicalCapacity := UInt32.ofNat wear.logicalCapacity
      dataCrc := lsCrc32 wear.workspace
      headerCrc := 0 }
  { header with headerCrc := headerCrc header }

/-- `commit`. -/
def commit (b : Backend) (slot : ℕ) (generation : UInt32) : DriverM WearLevel Unit := do
  let wear ← getRam
  if wear.eraseCounts slot = 0xffffffff then do
    modifyRam countFailure
    throw (.fail .eoverflow)
  else do
    onFailure countFailure (onDevice (b.erase (wear.slotOffset slot) wear.layout.slotSize))
    modifyRam fun wear => wear.withEraseCount slot (wear.eraseCounts slot + 1)
    let wear ← getRam
    onFailure countFailure (onDevice (writeImage b wear.layout (wear.slotOffset slot)
      (wear.newHeader slot generation).bytes wear.workspace))
    modifyRam fun wear => { wear with activeSlot := slot, generation := generation }

/-- `read_active`, into the workspace. -/
def readActive (b : Backend) : DriverM WearLevel Unit := do
  let wear ← getRam
  let image ← onDevice (b.read (wear.slotOffset wear.activeSlot + wear.layout.payloadOffset)
    wear.logicalCapacity)
  modifyRam (withWorkspace · image)

/-- `wear_read`. -/
def wearRead (b : Backend) (offset length : ℕ) : DriverM WearLevel (List UInt8) := do
  let wear ← getRam
  if offset > wear.logicalCapacity ∨ length > wear.logicalCapacity - offset then
    throw (.fail .einval)
  else
    onDevice (b.read (wear.slotOffset wear.activeSlot + wear.layout.payloadOffset + offset) length)

/-- `update`, with `wear_write` and `wear_erase` as the two kinds of change. -/
def update (b : Backend) (c : Change) : DriverM WearLevel Unit := do
  let wear ← getRam
  if c.offset > wear.logicalCapacity ∨ c.bytes.length > wear.logicalCapacity - c.offset then
    throw (.fail .einval)
  else do
    readActive b
    modifyRam fun wear => wear.withWorkspace (c.apply wear.workspace)
    commit b wear.nextSlot (wear.generation + 1)

/-- `wear_sync`. -/
def wearSync (b : Backend) : DriverM WearLevel Unit := onDevice b.sync

/-- The erase count of a slot is taken from its header, also where the image is not valid. -/
def noteEraseCount (slot : ℕ) (header : WearHeader) : DriverM WearLevel Unit := do
  let wear ← getRam
  if validHeader wear.logicalCapacity header then
    modifyRam (withEraseCount · slot header.eraseCount)
  else pure ()

/-- The slot becomes the active one if it is the first valid one or newer than the newest. -/
def takeNewest (newest : Option WearHeader) (slot : ℕ) (header : WearHeader) (valid : Bool) :
    DriverM WearLevel (Option WearHeader) :=
  let newer := match newest with
    | none => true
    | some newest => Serial.isNewer header.generation newest.generation
  if valid && newer then do
    modifyRam fun wear => { wear with activeSlot := slot, generation := header.generation }
    pure (some header)
  else pure newest

/-- One turn of the loop of `ls_flash_wear_init`; `newest` is the header found so far. -/
def scanSlot (b : Backend) (newest : Option WearHeader) (slot : ℕ) :
    DriverM WearLevel (Option WearHeader) := do
  let (header, valid) ← validSlot b slot
  noteEraseCount slot header
  takeNewest newest slot header valid

/-- `ls_flash_wear_init`, from the point where the geometry is accepted. -/
def openSlots (b : Backend) (logicalCapacity slots : ℕ) (lay : Layout) :
    DriverM WearLevel Unit := do
  modifyRam fun wear => ⟨wear.workspace, logicalCapacity, lay, slots, 0, fun _ => 0, 0, 0⟩
  let found ← (List.range slots).foldlM (scanSlot b) none
  match found with
  | some _ => pure ()
  | none => do
      modifyRam (withWorkspace · (List.replicate logicalCapacity 0xff))
      commit b 0 1

end WearLevel

open WearLevel

/-- `ls_flash_wear_init`. -/
def lsFlashWearInit (b : Backend) (logicalCapacity slots : ℕ) : DriverM WearLevel Unit :=
  if ¬ (b.hasRead ∧ b.hasWrite ∧ b.hasErase ∧ logicalCapacity ≠ 0 ∧
      logicalCapacity ≤ 0xffffffff ∧ 2 ≤ slots ∧ slots ≤ lsFlashWearMaxSlots) then
    throw (.fail .einval)
  else
    match wearLayout b logicalCapacity with
    | none => throw (.fail .einval)
    | some lay =>
        if lay.slotSize > b.sizeMax / slots ∨ b.capacity < lay.slotSize * slots then
          throw (.fail .enospace)
        else openSlots b logicalCapacity slots lay

/-! ### The store as a driver -/

lemma WearHeader.ofBytes_bytes (h : WearHeader) : WearHeader.ofBytes h.bytes = h := by
  simp [WearHeader.ofBytes, WearHeader.bytes, get32_append_right]

@[simp] lemma WearHeader.bytes_length (h : WearHeader) : h.bytes.length = 28 := by
  simp [WearHeader.bytes]

/-- The driver of a wear-levelled store of `cap` bytes in `slots` slots of a raw device. -/
def wear (b : Backend) (cap slots : ℕ) : Driver WearHeader WearLevel where
  format := format cap
  layout := (wearLayout b cap).getD ⟨0, 0, 0⟩
  cap := cap
  count := slots
  blank := ⟨[], 0, ⟨0, 0, 0⟩, 0, 0, fun _ => 0, 0, 0⟩
  active r := r.activeSlot
  generation r := r.generation
  target r := r.nextSlot
  init := lsFlashWearInit b cap slots
  change := update b
  read := wearRead b
  sync := wearSync b

/-- The memory of an open store: it has the layout of the driver, and one of at least two
slots is active. -/
structure WearWf (b : Backend) (cap slots : ℕ) (r : WearLevel) : Prop where
  capacity : r.logicalCapacity = cap
  small : cap ≤ 0xffffffff
  layout : wearLayout b cap = some r.layout
  count : r.slotCount = slots
  two : 2 ≤ slots
  active : r.activeSlot < slots

/-! ### Erase counts -/

/-- The header that a medium holds for a slot. -/
def wearHeaderAt (lay : Layout) (m : ℕ → UInt8) (slot : ℕ) : WearHeader :=
  WearHeader.ofBytes (Medium.read m (slot * lay.slotSize) wearHeaderSize)

/-- The erase count that initialisation takes for a slot: that of its header if it is valid, and
zero otherwise. -/
def storedCount (cap : ℕ) (lay : Layout) (m : ℕ → UInt8) (slot : ℕ) : ℕ :=
  if validHeader cap (wearHeaderAt lay m slot) then (wearHeaderAt lay m slot).eraseCount.toNat else 0

/-- An erase that is served counts for its range. -/
lemma erases_served (d : Device) {off len : ℕ}
    (h : d.faults d.log.length (.erase off len) = .none) (m : ℕ → UInt8) (off' len' : ℕ) :
    Device.erases ⟨m, d.faults, .erase off len :: d.log⟩ off' len' =
      d.erases off' len' + if off' = off ∧ len' = len then 1 else 0 := by
  unfold Device.erases
  rw [servedOf, if_pos h, List.count_cons]
  simp only [beq_iff_eq, Request.erase.injEq]
  congr 1
  simp only [eq_comm]

/-- The device after slot `t` was erased and a header written to it: one more erase of the slot,
and the other slots as they were. -/
structure Rewritten (lay : Layout) (d d' : Device) (t : ℕ) (header : WearHeader) : Prop where
  erases : ∀ off len, d'.erases off len =
    d.erases off len + if off = t * lay.slotSize ∧ len = lay.slotSize then 1 else 0
  header : wearHeaderAt lay d'.medium t = header
  agree : Medium.AgreeOff d.medium d'.medium (t * lay.slotSize) lay.slotSize

/-- The device as it was, but for its log. -/
structure Untouched (d d' : Device) : Prop where
  medium : d'.medium = d.medium
  erases : ∀ off len, d'.erases off len = d.erases off len

/-- The memory when a commit has erased its slot. -/
def WearLevel.counted (r : WearLevel) (slot : ℕ) : WearLevel :=
  r.withEraseCount slot (r.eraseCounts slot + 1)

/-- The power does not fail between the first byte of the erase of a slot and the last one of its
new header: the erase is cut before it does anything, or it is served and the header is
programmed. -/
def CommitKeepsCount (b : Backend) (slot : ℕ) (generation : UInt32) (s : System WearLevel) : Prop :=
  let off := s.ram.slotOffset slot
  let len := s.ram.layout.slotSize
  s.dev.faults s.dev.log.length (.erase off len) = .cut 0 ∨
    s.dev.faults s.dev.log.length (.erase off len) = .none ∧
      Completes (lsStorageProgram b off
        ((s.ram.counted slot).newHeader slot generation).bytes) (s.dev.withErased off len)

/-- The read of the active image by an update. -/
def WearLevel.activeRead (r : WearLevel) : Request :=
  .read (r.slotOffset r.activeSlot + r.layout.payloadOffset) r.logicalCapacity

/-- The memory of an update that has read the active image and changed it. -/
def WearLevel.changed (r : WearLevel) (c : Change) (m : ℕ → UInt8) : WearLevel :=
  r.withWorkspace (c.apply (Medium.read m (r.slotOffset r.activeSlot + r.layout.payloadOffset)
    r.logicalCapacity))

/-- The power fails while the update reads the active image, or its commit keeps the count. -/
def UpdateKeepsCount (b : Backend) (c : Change) (s : System WearLevel) : Prop :=
  (∃ k, s.dev.faults s.dev.log.length s.ram.activeRead = .cut k) ∨
    CommitKeepsCount b s.ram.nextSlot (s.ram.generation + 1)
      ⟨{ s.dev with log := s.ram.activeRead :: s.dev.log }, s.ram.changed c s.dev.medium⟩

/-- The header that an update writes. -/
def WearLevel.updateHeader (r : WearLevel) (c : Change) (m : ℕ → UInt8) : WearHeader :=
  ((r.changed c m).counted r.nextSlot).newHeader r.nextSlot (r.generation + 1)

/-- What initialisation makes of the counts of a medium: it takes them over, and erases the first
slot once more if no slot holds an image. -/
structure CountsTaken (b : Backend) (cap : ℕ) (lay : Layout) (slots : ℕ) (any : Bool) (d : Device)
    (s' : System WearLevel) : Prop where
  found : any = true → Untouched d s'.dev ∧
    ∀ i < slots, (s'.ram.eraseCounts i).toNat = storedCount cap lay d.medium i
  first : any = false → ∃ r : WearLevel, WearWf b cap slots r ∧
    (∀ i < slots, (r.eraseCounts i).toNat = storedCount cap lay d.medium i) ∧
    r.eraseCounts 0 ≠ 0xffffffff ∧ s'.ram.eraseCounts = (r.counted 0).eraseCounts ∧
    Rewritten lay d s'.dev 0 ((r.counted 0).newHeader 0 1)

section

variable {b : Backend} {cap slots : ℕ} {lay : Layout}

variable {r : WearLevel}

lemma WearWf.layout_eq (h : WearWf b cap slots r) :
    (wear b cap slots).layout = r.layout := by
  simp [wear, h.layout]

lemma WearWf.fits (h : WearWf b cap slots r) :
    r.layout.Fits wearHeaderSize cap := slotLayout_spec h.layout

/-- The slots of the store, read through the layout of a session. -/
lemma wear_slots (h : WearWf b cap slots r) (m : ℕ → UInt8) :
    (wear b cap slots).slots m = (format cap).slots r.layout cap m := by
  unfold Driver.slots
  rw [h.layout_eq]
  rfl

/-- Workspace, erase counts and the failure counter do not matter for well-formedness. -/
lemma WearWf.congr {r' : WearLevel} (h : WearWf b cap slots r)
    (hc : r'.logicalCapacity = r.logicalCapacity) (hl : r'.layout = r.layout)
    (hn : r'.slotCount = r.slotCount) (ha : r'.activeSlot < slots) : WearWf b cap slots r' :=
  ⟨hc.trans h.capacity, h.small, h.layout.trans (by rw [hl]), hn.trans h.count, h.two, ha⟩

/-- `next_slot` returns a slot other than the active one. -/
lemma nextSlot_spec (h2 : 2 ≤ r.slotCount) (ha : r.activeSlot < r.slotCount) :
    r.nextSlot < r.slotCount ∧ r.nextSlot ≠ r.activeSlot := by
  unfold nextSlot
  -- the slot selected so far is always a candidate
  have key : ∀ (l : List ℕ) (best : ℕ × UInt32),
      best.1 < r.slotCount ∧ best.1 ≠ r.activeSlot →
      (l.foldl r.nextSlotStep best).1 < r.slotCount ∧
        (l.foldl r.nextSlotStep best).1 ≠ r.activeSlot := by
    intro l
    induction l with
    | nil => exact fun _ h => h
    | cons step l ih =>
        intro best hbest
        refine ih _ ?_
        unfold nextSlotStep
        dsimp only
        split
        · exact hbest
        · split
          case isTrue hne _ => exact ⟨Nat.mod_lt _ (by omega), hne⟩
          · exact hbest
  refine key _ _ ⟨Nat.mod_lt _ (by omega), ?_⟩
  dsimp only
  by_cases hlast : r.activeSlot + 1 = r.slotCount
  · rw [hlast, Nat.mod_self]
    omega
  · rw [Nat.mod_eq_of_lt (by omega)]
    omega

/-- The header that a commit writes is valid. -/
lemma wear_validHeader_newHeader (h : WearWf b cap slots r) (slot : ℕ)
    (generation : UInt32) : validHeader cap (r.newHeader slot generation) = true := by
  have hcap : (UInt32.ofNat r.logicalCapacity).toNat = cap := by
    have := h.small
    rw [h.capacity, UInt32.toNat_ofNat']
    omega
  have hcrc : headerCrc (r.newHeader slot generation) =
      (r.newHeader slot generation).headerCrc := by
    simp only [newHeader, headerCrc, WearHeader.bytes, ← List.append_assoc]
    congr 1
  simp only [validHeader, hcrc]
  simp [newHeader, hcap]

lemma validSlot_spec (s : System WearLevel) (h : WearWf b cap slots s.ram) (slot : ℕ) :
    Sat (validSlot b slot) s
      (fun p s' => s.dev.Glanced s'.dev ∧ (∃ w, s'.ram = s.ram.withWorkspace w) ∧
        p.1 = wearHeaderAt s.ram.layout s.dev.medium slot ∧
        ∃ x, (wear b cap slots).slots s.dev.medium slot =
          if p.2 then some (p.1.generation, x) else none)
      (fun e s' => s.dev.Glanced s'.dev ∧
        (b.Suits (s.ram.slotOffset slot + s.ram.layout.slotSize) s.dev → ¬ Refuses e)) := by
  rw [wear_slots h, validSlot, sat_bind, sat_getRam, sat_bind, sat_onDevice, h.capacity]
  have hfit : s.ram.layout.Fits (format cap).headerSize cap := h.fits
  refine (readSlot_spec b hfit _ s.dev).mono (fun p d₁ h₁ => ?_) (fun e d₁ h₁ =>
    ⟨h₁.1, fun hs => hs.answered h₁.1.toLater (h₁.2 hs.inside)⟩)
  obtain ⟨header, image⟩ := p
  cases image with
  | none => exact .pure ⟨h₁.1, ⟨s.ram.workspace, rfl⟩, h₁.2⟩
  | some image =>
      refine (sat_bind _ _).mpr (sat_modifyRam.mpr (.pure ?_))
      exact ⟨h₁.1, ⟨image, rfl⟩, h₁.2⟩

/-- What a failed commit keeps of the memory. -/
structure SameStore (r r' : WearLevel) : Prop where
  capacity : r'.logicalCapacity = r.logicalCapacity
  layout : r'.layout = r.layout
  count : r'.slotCount = r.slotCount
  active : r'.activeSlot = r.activeSlot
  generation : r'.generation = r.generation

lemma WearWf.same {r' : WearLevel} (h : WearWf b cap slots r) (hs : SameStore r r') :
    WearWf b cap slots r' :=
  h.congr hs.capacity hs.layout hs.count (by rw [hs.active]; exact h.active)

/-- The slot was rewritten with a count that was not worn out. -/
def CountedUp (r : WearLevel) (d d' : Device) (slot : ℕ) (header : WearHeader) : Prop :=
  Rewritten r.layout d d' slot header ∧ r.eraseCounts slot ≠ 0xffffffff

/-- A commit writes one slot; the store moves to it only on success. -/
lemma commit_spec (s : System WearLevel) (h : WearWf b cap slots s.ram)
    (hw : s.ram.workspace.length = cap) {slot : ℕ} (hslot : slot < slots) (generation : UInt32) :
    let header := (s.ram.counted slot).newHeader slot generation
    Sat (commit b slot generation) s
      (fun _ s' => (WearWf b cap slots s'.ram ∧ s'.ram.activeSlot = slot ∧
        s'.ram.generation = generation ∧
        Versioned.Written ((wear b cap slots).slots s.dev.medium)
          ((wear b cap slots).slots s'.dev.medium) slot (generation, s.ram.workspace)) ∧
        CountedUp s.ram s.dev s'.dev slot header ∧
        s'.ram.eraseCounts = (s.ram.counted slot).eraseCounts)
      (fun e s' => (SameStore s.ram s'.ram ∧
        Torn ((wear b cap slots).slots s.dev.medium) ((wear b cap slots).slots s'.dev.medium)
          slot (generation, s.ram.workspace)) ∧
        (CommitKeepsCount b slot generation s →
          Untouched s.dev s'.dev ∨ CountedUp s.ram s.dev s'.dev slot header) ∧
        (b.Suits (s.ram.slotOffset slot + s.ram.layout.slotSize) s.dev → ¬ Refuses e)) := by
  intro header
  simp only [wear_slots h]
  have hfit : s.ram.layout.Fits (format cap).headerSize cap := h.fits
  rw [commit, sat_bind, sat_getRam]
  refine .ite (fun _ => (sat_bind _ _).mpr (sat_modifyRam.mpr (.throw
    ⟨⟨⟨rfl, rfl, rfl, rfl, rfl⟩, fun _ _ => rfl, .inl rfl⟩, fun _ => .inl ⟨rfl, fun _ _ => rfl⟩,
      fun _ => by decide⟩))) fun hmax => ?_
  rw [sat_bind, sat_onFailure, sat_onDevice]
  refine ((erase_exits b (s.ram.slotOffset slot) _ s.dev).and (erase_slot_spec b hfit slot s.dev)).mono
    (fun _ d₁ h₁ => ?_) (fun e d₁ h₁ => ?_)
  swap
  · have hkeeps : CommitKeepsCount b slot generation s → Untouched s.dev d₁ := by
      rintro (hcut | ⟨hserved, -⟩)
      · obtain ⟨-, rfl⟩ | ⟨rfl, -⟩ := h₁.1
        · exact ⟨rfl, fun _ _ => rfl⟩
        · refine ⟨?_, erases_cons s.dev (.inl (by rw [hcut]; nofun)) _⟩
          rw [hcut]
          change Medium.fill s.dev.medium _ (min 0 _) 0xff = _
          rw [Nat.zero_min, Medium.fill_zero]
      · obtain ⟨-, rfl⟩ | ⟨-, hf⟩ := h₁.1
        · exact ⟨rfl, fun _ _ => rfl⟩
        · rw [hserved] at hf
          cases hf
    cases e <;> exact ⟨⟨⟨rfl, rfl, rfl, rfl, rfl⟩, h₁.2.2.1 _⟩, fun hk => .inl (hkeeps hk), h₁.2.2.2⟩
  obtain ⟨⟨rfl, hserved⟩, hl₁, ha₁, he⟩ := h₁
  rw [sat_bind, sat_modifyRam, sat_bind, sat_getRam, sat_bind, sat_onFailure, sat_onDevice]
  have h₁ : WearWf b cap slots (s.ram.counted slot) := h.congr rfl rfl rfl h.active
  -- the erase and the header make up a rewritten slot
  have counted : ∀ d₂ : Device, (s.dev.withErased (s.ram.slotOffset slot)
        s.ram.layout.slotSize).Asked Request.Spares d₂ →
      Medium.AgreeOff (s.dev.withErased (s.ram.slotOffset slot) s.ram.layout.slotSize).medium
        d₂.medium (slot * s.ram.layout.slotSize) s.ram.layout.slotSize →
      Medium.read d₂.medium (slot * s.ram.layout.slotSize) wearHeaderSize = header.bytes →
      CountedUp s.ram s.dev d₂ slot header := by
    intro d₂ hl hagree hheader
    refine ⟨⟨fun off len => ?_, ?_, ha₁.trans hagree⟩, hmax⟩
    · rw [hl.erases]
      exact erases_served s.dev hserved _ off len
    · rw [wearHeaderAt, hheader, WearHeader.ofBytes_bytes]
  refine (writeImage_spec b hfit slot (WearHeader.bytes_length _) hw
    (WearHeader.ofBytes_bytes _) (wear_validHeader_newHeader h₁ slot generation) rfl _ he).mono
    (fun _ d₂ h₂ => ?_) (fun e d₂ h₂ => ?_)
  · obtain ⟨hl, ha₂, hv, hheader⟩ := h₂
    rw [sat_modifyRam]
    exact ⟨⟨h.congr rfl rfl rfl hslot, rfl, rfl,
      fun i hi => slots_of_agreeOff hfit (ha₁.trans ha₂) hi, hv⟩, counted d₂ hl ha₂ hheader, rfl⟩
  · obtain ⟨hl, ha₂, hv, hheader, hcause⟩ := h₂
    have hkeeps : CommitKeepsCount b slot generation s →
        Untouched s.dev d₂ ∨ CountedUp s.ram s.dev d₂ slot header := by
      rintro (hcut | ⟨-, hprog⟩)
      · rw [hserved] at hcut
        cases hcut
      · exact .inr (counted d₂ hl ha₂ (hheader hprog))
    cases e <;> exact ⟨⟨⟨rfl, rfl, rfl, rfl, rfl⟩,
      fun i hi => slots_of_agreeOff hfit (ha₁.trans ha₂) hi, .inr hv⟩, hkeeps,
      fun hs => hcause (hs.later hl₁)⟩

/-- A slot of a device that has read something is rewritten just as well. -/
lemma Rewritten.of_read {d d' : Device} {off len t : ℕ} {header : WearHeader}
    (h : Rewritten lay (d.asked (.read off len)) d' t header) : Rewritten lay d d' t header :=
  ⟨fun o l => (h.erases o l).trans (congrArg (· + _)
    (erases_cons d (r := .read off len) (.inr fun _ _ => nofun) d.medium o l)), h.header, h.agree⟩

lemma nextSlot_lt (h : WearWf b cap slots r) :
    r.nextSlot < slots ∧ r.nextSlot ≠ r.activeSlot := by
  have hs := nextSlot_spec (r := r) (by rw [h.count]; exact h.two) (by rw [h.count]; exact h.active)
  rwa [h.count] at hs

lemma update_spec (c : Change) (s : System WearLevel) (v : List UInt8)
    (h : WearWf b cap slots s.ram)
    (hv : (wear b cap slots).slots s.dev.medium s.ram.activeSlot = some (s.ram.generation, v)) :
    let header := s.ram.updateHeader c s.dev.medium
    Sat (update b c) s
      (fun _ s' => (WearWf b cap slots s'.ram ∧ (wear b cap slots).Changes c v s s') ∧
        CountedUp s.ram s.dev s'.dev s.ram.nextSlot header ∧
        s'.ram.eraseCounts = (s.ram.counted s.ram.nextSlot).eraseCounts)
      (fun _ s' => (WearWf b cap slots s'.ram ∧ (wear b cap slots).FailsToChange c v s s') ∧
        (UpdateKeepsCount b c s → Untouched s.dev s'.dev ∨
          CountedUp s.ram s.dev s'.dev s.ram.nextSlot header)) := by
  intro header
  have himage : Medium.read s.dev.medium
      (s.ram.slotOffset s.ram.activeSlot + s.ram.layout.payloadOffset) cap = v := by
    rw [wear_slots h] at hv
    exact view_image hv
  rw [update, sat_bind, sat_getRam]
  refine .ite (fun hout => ?_) fun hin => ?_
  · have hout : ¬ c.Within cap := by rw [← h.capacity]; unfold Change.Within; omega
    exact .throw ⟨⟨h, .refused v s hout⟩, fun _ => .inl ⟨rfl, fun _ _ => rfl⟩⟩
  have hin : c.Within cap := by rw [← h.capacity]; unfold Change.Within; omega
  have hspares : s.ram.activeRead.Spares := fun _ _ => nofun
  rw [sat_bind, readActive, sat_bind, sat_getRam, sat_bind, sat_onDevice]
  refine (read_exits b _ _ s.dev).mono (fun image d₁ h₁ => ?_) (fun _ d₁ h₁ => ?_)
  swap
  · have hu : Untouched s.dev d₁ := by
      obtain ⟨-, rfl⟩ | ⟨rfl, -⟩ := h₁
      · exact ⟨rfl, fun _ _ => rfl⟩
      · exact ⟨rfl, erases_cons s.dev (.inr hspares) _⟩
    exact ⟨⟨h, .torn hin rfl rfl ⟨fun i _ => by rw [hu.medium], .inl (by rw [hu.medium])⟩⟩,
      fun _ => .inl hu⟩
  obtain ⟨rfl, rfl, hserved⟩ := h₁
  rw [sat_modifyRam, sat_bind, sat_modifyRam]
  -- the commit sees the device as it was, with the patched image in the workspace
  have hw : WearWf b cap slots (s.ram.changed c s.dev.medium) := h.congr rfl rfl rfl h.active
  have himage' : (s.ram.changed c s.dev.medium).workspace = c.apply v := by
    rw [← himage, ← h.capacity]
    rfl
  have hlen : (s.ram.changed c s.dev.medium).workspace.length = cap := by
    rw [himage']
    exact Change.apply_length hin (by rw [← himage, Medium.read_length])
  refine (commit_spec ⟨s.dev.asked s.ram.activeRead, s.ram.changed c s.dev.medium⟩ hw hlen
    (nextSlot_lt h).1 (s.ram.generation + 1)).mono (fun _ s' h' => ?_) (fun _ s' h' => ?_)
  · obtain ⟨⟨hwf, hact, hgen, hwritten⟩, ⟨hr, hmax⟩, hc⟩ := h'
    rw [himage'] at hwritten
    exact ⟨⟨hwf, hact, hgen, hwritten⟩, ⟨hr.of_read, hmax⟩, hc⟩
  · obtain ⟨⟨hsame, ht⟩, hkeeps, -⟩ := h'
    rw [himage'] at ht
    refine ⟨⟨hw.same hsame, .torn hin hsame.active hsame.generation ht⟩, ?_⟩
    rintro (⟨k, hcut⟩ | hk)
    · exact absurd (hserved.symm.trans hcut) nofun
    · rcases hkeeps hk with hu | ⟨hr, hmax⟩
      · exact .inl ⟨hu.medium, fun off len =>
          (hu.erases off len).trans (erases_cons s.dev (.inr hspares) _ off len)⟩
      · exact .inr ⟨hr.of_read, hmax⟩

/-- What the loop of initialisation over the device `d` has found after `k` slots. -/
structure ScannedTo (b : Backend) (cap slots : ℕ) (d : Device) (k : ℕ)
    (newest : Option WearHeader) (s : System WearLevel) : Prop where
  wf : WearWf b cap slots s.ram
  dev : d.Glanced s.dev
  found : match newest with
    | none => select k ((wear b cap slots).slots d.medium) = none
    | some header => header.generation = s.ram.generation ∧
        ∃ x, select k ((wear b cap slots).slots d.medium) =
          some (s.ram.activeSlot, s.ram.generation, x)
  counts : ∀ i, (s.ram.eraseCounts i).toNat =
    if i < k then storedCount cap s.ram.layout d.medium i else 0

section Scan

variable {d : Device} {k : ℕ} {newest : Option WearHeader} {s : System WearLevel}

lemma takeNewest_spec (hk : k < slots) (h : ScannedTo b cap slots d k newest s)
    {header : WearHeader} {valid : Bool} {x : List UInt8}
    (hx : (wear b cap slots).slots d.medium k =
      if valid then some (header.generation, x) else none) {r : WearLevel}
    (hr : SameStore s.ram r) (hc : ∀ i, (r.eraseCounts i).toNat =
      if i < k + 1 then storedCount cap s.ram.layout d.medium i else 0)
    {H : Halt Errno → System WearLevel → Prop} :
    Sat (takeNewest newest k header valid) ⟨s.dev, r⟩
      (fun newest' s' => ScannedTo b cap slots d (k + 1) newest' s') H := by
  obtain ⟨hwf, hd, hsel, -⟩ := h
  rw [← hr.layout] at hc
  have hsel' : match newest with
      | none => select k ((wear b cap slots).slots d.medium) = none
      | some header => header.generation = r.generation ∧
          ∃ x, select k ((wear b cap slots).slots d.medium) =
            some (r.activeSlot, r.generation, x) := by
    cases newest with
    | none => exact hsel
    | some best =>
        dsimp only
        rw [hr.active, hr.generation]
        exact hsel
  unfold takeNewest
  rw [sat_ite]
  constructor
  · intro hnew
    rw [Bool.and_eq_true] at hnew
    obtain ⟨rfl, hnew⟩ := hnew
    rw [sat_bind, sat_modifyRam, sat_pure]
    refine ⟨(hwf.same hr).congr rfl rfl rfl hk, hd, ⟨rfl, x, ?_⟩, hc⟩
    rw [select_succ, scan, hx, if_pos rfl]
    cases newest with
    | none => rw [hsel']
    | some best =>
        obtain ⟨hgen, y, hy⟩ := hsel'
        rw [Serial.isNewer_iff, hgen] at hnew
        rw [hy]
        exact if_pos hnew
  · intro hold
    rw [sat_pure]
    refine ⟨hwf.same hr, hd, ?_, hc⟩
    rw [select_succ, scan, hx]
    cases newest with
    | none =>
        cases valid with
        | false => exact hsel'
        | true => simp at hold
    | some best =>
        obtain ⟨hgen, y, hy⟩ := hsel'
        refine ⟨hgen, y, ?_⟩
        cases valid with
        | false => exact hy
        | true =>
            rw [Bool.true_and, Serial.isNewer_iff, hgen] at hold
            rw [hy, if_pos rfl]
            exact if_neg hold

lemma scanSlot_spec (hk : k < slots) (h : ScannedTo b cap slots d k newest s) :
    Sat (scanSlot b newest k) s
      (fun newest' s' => ScannedTo b cap slots d (k + 1) newest' s')
      (fun e s' => d.Glanced s'.dev ∧
        (b.Suits (s.ram.layout.slotSize * slots) d → ¬ Refuses e)) := by
  have hm := h.dev.medium
  rw [scanSlot]
  refine (validSlot_spec s h.wf k).bind (fun p s₁ h₁ => ?_) (fun _ s₁ h₁ =>
    ⟨h.dev.trans h₁.1, fun hs => h₁.2 (hs.slot hk |>.later h.dev.toLater)⟩)
  obtain ⟨header, valid⟩ := p
  obtain ⟨hd₁, ⟨w, hr₁⟩, rfl, x, hx⟩ := h₁
  rw [hm] at hx ⊢
  have h₁ : ScannedTo b cap slots d k newest s₁ := by
    obtain ⟨d₁, r₁⟩ := s₁
    obtain rfl : r₁ = _ := hr₁
    exact ⟨h.wf.congr rfl rfl rfl h.wf.active, h.dev.trans hd₁, h.found, h.counts⟩
  have hlay : s₁.ram.layout = s.ram.layout := by rw [hr₁]; rfl
  dsimp only at hx ⊢
  rw [← hlay] at hx ⊢
  rw [sat_bind, noteEraseCount, sat_bind, sat_getRam, h₁.wf.capacity]
  refine .ite (fun hv => ?_) fun hv => ?_
  · refine sat_modifyRam.mpr (takeNewest_spec hk h₁ hx ?_ fun i => ?_)
    · exact ⟨rfl, rfl, rfl, rfl, rfl⟩
    change (Function.update s₁.ram.eraseCounts k _ i).toNat = _
    by_cases hi : i = k
    · rw [hi, Function.update_self, if_pos (Nat.lt_succ_self k), storedCount, if_pos hv]
    · rw [Function.update_of_ne hi, h₁.counts]
      exact if_congr (by omega) rfl rfl
  · refine .pure (takeNewest_spec hk h₁ hx ⟨rfl, rfl, rfl, rfl, rfl⟩ fun i => ?_)
    rw [h₁.counts]
    by_cases hi : i = k
    · rw [hi, if_neg (lt_irrefl k), if_pos (Nat.lt_succ_self k), storedCount, if_neg hv]
    · exact if_congr (by omega) rfl rfl

end Scan

lemma openSlots_spec (s : System WearLevel) (hcap : cap ≤ 0xffffffff) (h2 : 2 ≤ slots)
    (hlay : wearLayout b cap = some lay) :
    Sat (openSlots b cap slots lay) s
      (fun _ s' => (WearWf b cap slots s'.ram ∧
        (wear b cap slots).Opens s.dev.medium s'.dev.medium s'.ram) ∧
        CountsTaken b cap lay slots
          (select slots ((wear b cap slots).slots s.dev.medium)).isSome s.dev s')
      (fun e s' => (wear b cap slots).FailsToOpen s.dev.medium s'.dev.medium ∧
        (b.Suits (lay.slotSize * slots) s.dev → ¬ Refuses e)) := by
  rw [openSlots, sat_bind, sat_modifyRam, sat_bind]
  have h₀ : ScannedTo b cap slots s.dev 0 none
      ⟨s.dev, ⟨s.ram.workspace, cap, lay, slots, 0, fun _ => 0, 0, 0⟩⟩ :=
    ⟨⟨rfl, hcap, hlay, rfl, h2, by dsimp only; omega⟩, .refl _, rfl, fun _ => rfl⟩
  have layout_eq {r : WearLevel} (hr : WearWf b cap slots r) : r.layout = lay :=
    (Option.some.inj (hlay.symm.trans hr.layout)).symm
  refine (sat_foldlM (fun pre newest s' => ScannedTo b cap slots s.dev pre.length newest s')
    (List.range slots) none h₀ (H := fun e s' => s.dev.Glanced s'.dev ∧
      (b.Suits (lay.slotSize * slots) s.dev → ¬ Refuses e)) ?_).mono
    (fun found s₁ h₁ => ?_) (fun _ s₁ h₁ => ⟨.inl (by rw [h₁.1.medium]), h₁.2⟩)
  · intro pre x post newest s' hl hs
    obtain ⟨rfl, hlt⟩ := range_eq_append_cons hl
    rw [List.length_append, List.length_singleton, ← layout_eq hs.wf]
    exact scanSlot_spec hlt hs
  rw [List.length_range] at h₁
  obtain ⟨hwf, hd, hsel, hcount⟩ := h₁
  have hm := hd.medium
  rw [layout_eq hwf] at hcount
  have hcounts : ∀ i < slots, (s₁.ram.eraseCounts i).toNat = storedCount cap lay s.dev.medium i :=
    fun i hi => (hcount i).trans (if_pos hi)
  cases found with
  | some header =>
      obtain ⟨-, x, hx⟩ := hsel
      rw [hx]
      exact .pure ⟨⟨hwf, .inl ⟨x, by rw [hm], hx⟩⟩,
        fun _ => ⟨⟨hm, hd.spares.erases⟩, hcounts⟩, nofun⟩
  | none =>
      dsimp only at hsel ⊢
      rw [sat_bind, sat_modifyRam, hsel]
      have hwf₁ : WearWf b cap slots (s₁.ram.withWorkspace (List.replicate cap 0xff)) :=
        hwf.congr rfl rfl rfl hwf.active
      refine (commit_spec ⟨s₁.dev, _⟩ hwf₁ (List.length_replicate ..)
        (show 0 < slots by omega) 1).mono (fun _ s' h' => ?_) (fun _ s' h' => ?_)
      · obtain ⟨⟨hwf', hact, hgen, hw⟩, ⟨hr, hmax⟩, hc⟩ := h'
        dsimp only at hw
        rw [hm, ← hgen] at hw
        rw [← hact] at hw
        refine ⟨⟨hwf', .inr ⟨_, hsel, hwf'.active, hw⟩⟩, nofun, fun _ => ⟨_, hwf₁, hcounts, hmax, hc, ?_⟩⟩
        change Rewritten s₁.ram.layout s₁.dev s'.dev 0 _ at hr
        rw [layout_eq hwf] at hr
        exact ⟨fun off len => by rw [hr.erases, hd.spares.erases], hr.header, hm ▸ hr.agree⟩
      · obtain ⟨⟨-, hw⟩, -, hcause⟩ := h'
        dsimp only at hw
        rw [hm] at hw
        refine ⟨.inr ⟨0, _, hsel, show 0 < slots by omega, hw⟩, fun hs => hcause ?_⟩
        change b.Suits (0 * s₁.ram.layout.slotSize + s₁.ram.layout.slotSize) s₁.dev
        rw [layout_eq hwf]
        exact (hs.slot (by omega)).later hd.toLater

lemma lsFlashWearInit_spec (s : System WearLevel) :
    Sat (lsFlashWearInit b cap slots) s
      (fun _ s' => (WearWf b cap slots s'.ram ∧
        (wear b cap slots).Opens s.dev.medium s'.dev.medium s'.ram) ∧
        CountsTaken b cap s'.ram.layout slots
          (select slots ((wear b cap slots).slots s.dev.medium)).isSome s.dev s')
      (fun _ s' => (wear b cap slots).FailsToOpen s.dev.medium s'.dev.medium) := by
  rw [lsFlashWearInit]
  refine .ite (fun _ => .throw (.inl rfl)) fun hok => ?_
  rw [not_not] at hok
  obtain ⟨-, -, -, -, hcap, h2, -⟩ := hok
  cases hlay : wearLayout b cap with
  | none => exact .throw (.inl rfl)
  | some lay =>
      dsimp only
      refine .ite (fun _ => .throw (.inl rfl)) fun _ => ?_
      refine (openSlots_spec s hcap h2 hlay).mono (fun _ s' h => ⟨h.1, ?_⟩) fun _ _ h => h.1
      rw [← Option.some.inj (hlay.symm.trans h.1.1.layout)]
      exact h.2

lemma wearRead_spec (offset length : ℕ) (s : System WearLevel) (h : WearWf b cap slots s.ram) :
    Sat (wearRead b offset length) s
      (fun bs s' => s.dev.Looked s'.dev ∧ s'.ram = s.ram ∧ offset + length ≤ cap ∧
        bs = Medium.read s.dev.medium
          (s.ram.activeSlot * (wear b cap slots).layout.slotSize +
            (wear b cap slots).layout.payloadOffset + offset) length)
      (fun _ s' => s.dev.Looked s'.dev ∧ s'.ram = s.ram) := by
  rw [wearRead, sat_bind, sat_getRam, h.layout_eq, h.capacity]
  refine .ite (fun _ => .throw ⟨.refl _, rfl⟩) fun hin => ?_
  rw [sat_onDevice]
  exact (read_spec b _ _ s.dev).mono (fun bs d₁ h₁ => ⟨h₁.2, rfl, by omega, h₁.1⟩)
    (fun _ d₁ h₁ => ⟨h₁, rfl⟩)

/-- The wear-levelling store keeps versioned slots. -/
theorem wear_sound (b : Backend) (cap slots : ℕ) :
    (wear b cap slots).Sound (WearWf b cap slots) where
  init s := (lsFlashWearInit_spec s).mono (fun _ _ h => h.1) fun _ _ h => h
  change c s v h hv := (update_spec c s v h hv).mono (fun _ _ h => h.1) fun _ _ h => h.1
  target _ h := nextSlot_lt h
  read offset length s h := wearRead_spec offset length s h
  sync s := by
    change Sat (onDevice b.sync) s _ _
    rw [sat_onDevice]
    exact ((sync_looked b).sat s.dev).mono (fun _ _ h => ⟨h, rfl⟩) (fun _ _ h => ⟨h, rfl⟩)

end

/-! ### Durability -/

/-- A call that keeps to the assumption on the generations, and that is not a change which
would tie with a slot before its own: before the call no slot that `next_slot` leaves behind
it holds a generation newer than the one in memory. -/
def WearMeets (b : Backend) (cap slots : ℕ) (s : Store WearLevel) (op : StoreOp) : Prop :=
  Window slots ((wear b cap slots).slots s.dev.medium) ∧
  Window slots ((wear b cap slots).slots ((wear b cap slots).step op s).dev.medium) ∧
  ∀ c, op = .change c → (wear b cap slots).Clear s

lemma wear_inv {b : Backend} {cap slots : ℕ} {d : Device} {ops : List StoreOp}
    (h : (wear b cap slots).RunMeets (WearMeets b cap slots) ops (.start d)) :
    (wear b cap slots).Inv (WearWf b cap slots) ((wear b cap slots).after d ops) := by
  rw [Driver.after]
  exact Driver.run_inv (wear_sound b cap slots)
    (fun _ _ hc _ => ⟨.inr hc.1, .inr hc.2.1, hc.2.2⟩) h (Driver.inv_start d)

/-- **Durability.** In every run whose calls meet the condition, over any device,
initialisation opens, where it succeeds, the image of the last successful change or of one
attempted after it. -/
theorem wear_recovers_last_update (b : Backend) (cap slots : ℕ) (d : Device)
    (ops : List StoreOp) (h : (wear b cap slots).RunMeets (WearMeets b cap slots) ops (.start d))
    (r : WearLevel) :
    Returns (lsFlashWearInit b cap slots) ⟨((wear b cap slots).after d ops).dev, r⟩ fun _ s' =>
      ((wear b cap slots).after d ops).history.durable = none ∨
        ((wear b cap slots).after d ops).history.Allows
          ((wear b cap slots).image s'.ram s'.dev.medium) :=
  (lsFlashWearInit_spec ⟨_, r⟩).mono fun _ _ h' => (wear_inv h).opened_allows h'.1.2

/-- A device that fails one request. -/
def failAt (k partialBytes : ℕ) : Device :=
  .erased fun n _ => if n = k then .fail .eio partialBytes else .none

/-- A run with an update that fails while its header is programmed, and one that succeeds:
the theorem applies, and the image that is recovered is the second one. -/
theorem wear_recovers_last_update_small :
    let ops : List StoreOp := [.init, .change (.write 0 [1]), .change (.write 0 [2])]
    ((wear smallNor 1 3).after (failAt 18 5) ops).history = ⟨some [2], []⟩ ∧
    Returns (lsFlashWearInit smallNor 1 3)
      ⟨((wear smallNor 1 3).after (failAt 18 5) ops).dev, (wear smallNor 1 3).blank⟩ fun _ s' =>
        ((wear smallNor 1 3).after (failAt 18 5) ops).history.durable = none ∨
          ((wear smallNor 1 3).after (failAt 18 5) ops).history.Allows
            ((wear smallNor 1 3).image s'.ram s'.dev.medium) := by
  refine ⟨by decide +kernel, wear_recovers_last_update smallNor 1 3 (failAt 18 5) _ ?_ _⟩
  simp only [Driver.RunMeets, WearMeets, and_true]
  refine ⟨⟨⟨1, ?_⟩, ⟨1, ?_⟩, fun _ h => by cases h⟩, ⟨⟨1, ?_⟩, ⟨1, ?_⟩, fun _ _ => ?_⟩,
    ⟨1, ?_⟩, ⟨1, ?_⟩, fun _ _ => ?_⟩ <;> decide +kernel

/-- **A tie is lost.** The last sync of the first update fails behind its marker, the second
update succeeds in a later slot with the same generation, and initialisation then opens the
image of the first one. All generations lie in a window throughout. -/
theorem wear_tie_recovers_earlier_attempt :
    let ops : List StoreOp := [.init, .change (.write 0 [1]), .change (.write 0 [2])]
    (∀ k ≤ 3, Window 3
      ((wear smallNor 1 3).slots ((wear smallNor 1 3).after (failAt 27 0) (ops.take k)).dev.medium)) ∧
    ((wear smallNor 1 3).after (failAt 27 0) ops).history = ⟨some [2], []⟩ ∧
    ((wear smallNor 1 3).after (failAt 27 0) (ops ++ [.init])).session.map Prod.snd = some [1] ∧
    ¬ Returns (lsFlashWearInit smallNor 1 3)
      ⟨((wear smallNor 1 3).after (failAt 27 0) ops).dev, (wear smallNor 1 3).blank⟩ fun _ s' =>
        ((wear smallNor 1 3).after (failAt 27 0) ops).history.durable = none ∨
          ((wear smallNor 1 3).after (failAt 27 0) ops).history.Allows
            ((wear smallNor 1 3).image s'.ram s'.dev.medium) := by
  refine ⟨fun k hk => ⟨1, ?_⟩, by decide +kernel, by decide +kernel, by decide +kernel⟩
  revert k
  decide +kernel

/-- The condition is exact: after a successful change, the scan of initialisation selects the
slot it has written if and only if the store before it was clear. -/
theorem wear_update_selected_iff_clear (b : Backend) (cap slots : ℕ) (d : Device)
    (ops : List StoreOp) (h : (wear b cap slots).RunMeets (WearMeets b cap slots) ops (.start d))
    (c : Change) (r : WearLevel) (v : List UInt8)
    (hs : ((wear b cap slots).after d ops).session = some (r, v))
    (hwin : Window slots ((wear b cap slots).slots ((wear b cap slots).after d ops).dev.medium)) :
    Returns (update b c) ⟨((wear b cap slots).after d ops).dev, r⟩ fun _ s' =>
      Window slots ((wear b cap slots).slots s'.dev.medium) →
      (select slots ((wear b cap slots).slots s'.dev.medium) =
          some (r.nextSlot, r.generation + 1, c.apply v) ↔
        (wear b cap slots).Clear ((wear b cap slots).after d ops)) := by
  have hi := wear_inv h
  generalize (wear b cap slots).after d ops = s at *
  have hheld := hi.held hs
  obtain ⟨hlt, hne⟩ := (wear_sound b cap slots).target r (hi.wf r v hs)
  refine (update_spec c ⟨s.dev, r⟩ v (hi.wf r v hs) hheld.active).mono
    fun _ s' h' hwin' => ?_
  obtain ⟨⟨-, -, -, hw⟩, -⟩ := h'
  refine (hheld.updated_selected_iff (.inr hwin) (.inr hwin') hlt hne hw).trans ?_
  simp only [Driver.Clear, hs, Option.mem_some, forall_eq']

/-- Behind an update that failed at its last sync the next one is selected if and only if the
store is clear. -/
theorem wear_update_selected_iff_clear_small :
    let s := (wear smallNor 1 3).after (failAt 27 0) [.init, .change (.write 0 [1])]
    ∃ r v, s.session = some (r, v) ∧
      Returns (update smallNor (.write 0 [2])) ⟨s.dev, r⟩ fun _ s' =>
        Window 3 ((wear smallNor 1 3).slots s'.dev.medium) →
        (select 3 ((wear smallNor 1 3).slots s'.dev.medium) =
          some (r.nextSlot, r.generation + 1, (Change.write 0 [2]).apply v) ↔
          (wear smallNor 1 3).Clear s) := by
  intro s
  obtain ⟨⟨r, v⟩, hs⟩ := Option.isSome_iff_exists.mp (show s.session.isSome by decide +kernel)
  refine ⟨r, v, hs, wear_update_selected_iff_clear smallNor 1 3 _ _ ?_ _ r v hs ⟨1, ?_⟩⟩
  · simp only [Driver.RunMeets, WearMeets, and_true]
    refine ⟨⟨⟨1, ?_⟩, ⟨1, ?_⟩, fun _ h => by cases h⟩, ⟨1, ?_⟩, ⟨1, ?_⟩, fun _ _ => ?_⟩ <;>
      decide +kernel
  · decide +kernel

end Latch
