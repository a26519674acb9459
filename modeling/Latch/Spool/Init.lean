
/-
Initialisation of the spool, and the header it writes.

`ls_spool_init` leaves the medium alone if it finds a valid header or a valid record, and
raises the sequence number of the runtime to what it has seen (`scanned`). Otherwise it
erases the spool and writes a fresh header; at every exit on that way there is no valid
record, and no valid header but the fresh one (`spoolInit_spec`).
-/
import Latch.Spool.Spool

namespace Latch.Spool

open Bytes Exec

variable {bd : Build} {b : Backend}

variable {d d₀ d' : Device} {m : ℕ → UInt8} {sequence : UInt32}

/-! ### Sizes -/

/-- The size of the spool of a usable backend covers the header and all slots. -/
lemma slots_le_size (hu : usable bd b) :
    headerSize + recordSize bd * bd.spoolMaxRecords ≤ lsSpoolStorageSize bd b.sizeMax := by
  have hsize := hu.1
  simp only [lsSpoolStorageSize] at hsize ⊢
  have hmod := Nat.mod_lt (rawStorageSize bd b.sizeMax) (show 0 < lsStorageMaxWriteSize by decide)
  have hle : rawStorageSize bd b.sizeMax ≠ 0 →
      headerSize + recordSize bd * bd.spoolMaxRecords ≤ rawStorageSize bd b.sizeMax := by
    intro h
    simp only [rawStorageSize] at h ⊢
    split_ifs at h ⊢
    · exact absurd rfl h
    · exact le_rfl
  split_ifs at hsize ⊢ with h0 h1 h2
  · exact absurd rfl hsize
  · exact hle h0
  · exact absurd rfl hsize
  · have := hle h0
    omega

/-- The slots of a usable backend lie inside the spool. -/
lemma slotOffset_le_size (hu : usable bd b) {i : ℕ} (hi : i < bd.spoolMaxRecords) :
    slotOffset bd i + recordSize bd ≤ lsSpoolStorageSize bd b.sizeMax := by
  refine le_trans ?_ (slots_le_size hu)
  rw [← slotOffset_succ, slotOffset, Nat.mul_comm]
  exact Nat.add_le_add_left (Nat.mul_le_mul_left _ hi) _

/-! ### The fresh header -/

lemma SpoolHeader.bytes_length (h : SpoolHeader) : h.bytes.length = headerSize := by
  simp [SpoolHeader.bytes, SpoolHeader.covered, headerSize]

lemma SpoolHeader.ofBytes_bytes (h : SpoolHeader) : SpoolHeader.ofBytes h.bytes = h := by
  simp [SpoolHeader.ofBytes, SpoolHeader.bytes, SpoolHeader.covered, get32_append_right,
    get16_append_right, get8_append_right]

/-- The header with its commit marker. -/
def freshHeader (bd : Build) (sequence : UInt32) : SpoolHeader :=
  { newHeader bd sequence with committed := spoolHeaderCommitted }

lemma headerValid_freshHeader (bd : Build) (sequence : UInt32) :
    headerValid bd (freshHeader bd sequence) = true := by
  have hslots : (UInt16.ofNat bd.spoolMaxRecords).toNat = bd.spoolMaxRecords := by
    rw [UInt16.toNat_ofNat', Nat.mod_eq_of_lt bd.spoolMaxRecords_lt]
  have hrec : (UInt32.ofNat (recordSize bd)).toNat = recordSize bd := by
    have := bd.maxEventSize_lt
    rw [UInt32.toNat_ofNat', Nat.mod_eq_of_lt (by rw [recordSize, recordHeaderSize]; omega)]
  simp only [headerValid, decide_eq_true_eq]
  exact ⟨rfl, rfl, hslots, hrec, rfl, rfl⟩

/-- The commit marker is a byte of its own. -/
lemma headerAt_write_committed (m : ℕ → UInt8) (v : UInt8) :
    headerAt (Medium.write m committedOffset [v]) = { headerAt m with committed := v } := by
  have hother : ∀ off w, off + w ≤ committedOffset →
      Medium.read (Medium.write m committedOffset [v]) (0 + off) w = Medium.read m (0 + off) w :=
    fun off w h => (Medium.agreeOff_write m committedOffset [v]).read_eq (.inl (by omega))
  have hself : UInt8.ofNat (num (Medium.read (Medium.write m committedOffset [v])
      (0 + committedOffset) 1)) = v := by
    have h := Medium.read_write_same m committedOffset [v]
    rw [List.length_singleton] at h
    rw [Nat.zero_add, h]
    simp [num]
  simp only [headerAt, SpoolHeader.ofBytes, headerSize]
  simp only [committedOffset] at hother hself ⊢
  simp (disch := omega) only [get8_read, get16_read, get32_read, hother, hself]

/-- A torn header has an erased commit marker. -/
lemma torn_committed (he : ∀ a < headerSize, m a = 0xff) (h : SpoolHeader)
    (hc : h.committed = 0xff) (k : ℕ) :
    (headerAt (Medium.write m 0 (h.bytes.take k))).committed = 0xff := by
  by_cases hk : committedOffset + 1 ≤ k
  · have hb := congrArg SpoolHeader.committed h.ofBytes_bytes
    rw [hc] at hb
    rw [← hb]
    exact congrArg UInt8.ofNat (field_torn m 0 h.bytes hk (by rw [h.bytes_length]; decide)
      (by decide))
  · have htake : (h.bytes.take k).length ≤ k := List.length_take_le _ _
    have hbyte : (Medium.write m 0 (h.bytes.take k)) committedOffset = 0xff := by
      rw [Medium.write_of_ge (by omega)]
      exact he _ (by decide)
    simp only [headerAt, SpoolHeader.ofBytes]
    rw [get8_read _ 0 (by decide)]
    simp only [committedOffset] at hbyte
    simp [Medium.read, num, hbyte]

/-- Every exit of `write_header` over an erased header: the fresh header is there, or its
commit marker is still erased. -/
lemma writeHeader_spec (s : System Node) (he : ∀ a < headerSize, s.dev.medium a = 0xff) :
    Sat (writeHeader bd b) s
      (fun _ s' => s'.ram = s.ram ∧ s.dev.Later s'.dev ∧
        Medium.AgreeOff s.dev.medium s'.dev.medium 0 headerSize ∧
        headerAt s'.dev.medium = freshHeader bd s.ram.runtime.sequence)
      (fun _ s' => s'.ram = s.ram ∧ s.dev.Later s'.dev ∧
        Medium.AgreeOff s.dev.medium s'.dev.medium 0 headerSize ∧
        (headerAt s'.dev.medium = freshHeader bd s.ram.runtime.sequence ∨
          (headerAt s'.dev.medium).committed = 0xff)) := by
  have hlen := (newHeader bd s.ram.runtime.sequence).bytes_length
  rw [writeHeader, sat_bind, sat_getRam, sat_onDevice]
  refine (program_spec b 0 _ s.dev).bind (fun _ d₁ h₁ => ?_) (fun _ d₁ h₁ => ?_)
  swap
  · obtain ⟨hl, k, hm⟩ := h₁
    refine ⟨rfl, hl, ?_, .inr ?_⟩
    · rw [hm]
      exact (Medium.agreeOff_write _ _ _).widen le_rfl (by rw [List.length_take]; omega)
    · rw [hm]
      exact torn_committed he _ rfl k
  obtain ⟨hl₁, hm₁⟩ := h₁
  have ha₁ : Medium.AgreeOff s.dev.medium d₁.medium 0 headerSize := by
    rw [hm₁, ← hlen]
    exact Medium.agreeOff_write _ _ _
  have hh₁ : headerAt d₁.medium = newHeader bd s.ram.runtime.sequence := by
    rw [headerAt, hm₁, ← hlen, Medium.read_write_same, SpoolHeader.ofBytes_bytes]
  refine ((sync_looked b).sat d₁).bind (fun _ d₂ h₂ => ?_) (fun _ d₂ h₂ =>
    ⟨rfl, .trans _ _ _ hl₁ h₂.toLater, h₂.medium ▸ ha₁, .inr (by rw [h₂.medium, hh₁]; rfl)⟩)
  have hl₂ := Device.Later.trans _ _ _ hl₁ h₂.toLater
  -- the marker: one byte inside the header
  have hmark : ∀ {m : ℕ → UInt8}, m = Medium.write d₂.medium committedOffset [spoolHeaderCommitted] →
      Medium.AgreeOff s.dev.medium m 0 headerSize ∧
        headerAt m = freshHeader bd s.ram.runtime.sequence := by
    rintro m rfl
    rw [h₂.medium, headerAt_write_committed, hh₁]
    exact ⟨ha₁.trans ((Medium.agreeOff_write _ _ _).widen (Nat.zero_le _) (by decide)), rfl⟩
  refine (program_byte b committedOffset _ d₂).bind (fun _ d₃ h₃ => ?_) (fun _ d₃ h₃ => ?_)
  · obtain ⟨hl₃, hm₃⟩ := h₃
    obtain ⟨ha, hh⟩ := hmark hm₃
    exact ((sync_looked b).sat d₃).mono
      (fun _ d₄ h₄ => ⟨rfl, .trans _ _ _ (.trans _ _ _ hl₂ hl₃) h₄.toLater, h₄.medium ▸ ha,
        h₄.medium ▸ hh⟩)
      (fun _ d₄ h₄ => ⟨rfl, .trans _ _ _ (.trans _ _ _ hl₂ hl₃) h₄.toLater, h₄.medium ▸ ha,
        .inl (h₄.medium ▸ hh)⟩)
  · obtain ⟨hl₃, hm₃ | hm₃⟩ := h₃
    · exact ⟨rfl, .trans _ _ _ hl₂ hl₃, by rw [hm₃, h₂.medium]; exact ha₁,
        .inr (by rw [hm₃, h₂.medium, hh₁]; rfl)⟩
    · obtain ⟨ha, hh⟩ := hmark hm₃
      exact ⟨rfl, .trans _ _ _ hl₂ hl₃, ha, .inl hh⟩

/-! ### Renewal -/

/-- An erase of the whole spool does not go through. -/
def EraseFault (bd : Build) (b : Backend) (d : Device) : Prop :=
  ∃ k, d.log.length ≤ k ∧ d.faults k (.erase 0 (lsSpoolStorageSize bd b.sizeMax)) ≠ .none

/-- The spool was erased and has the fresh header. -/
def Renewed (bd : Build) (b : Backend) (sequence : UInt32) (m m' : ℕ → UInt8) : Prop :=
  Medium.AgreeOff (Medium.fill m 0 (lsSpoolStorageSize bd b.sizeMax) 0xff) m' 0 headerSize ∧
    headerAt m' = freshHeader bd sequence

/-- Where erasing the spool and writing its header may stop. -/
inductive Renewing (bd : Build) (b : Backend) (sequence : UInt32) (d d' : Device) : Prop where
  | erasing (k : ℕ) (hk : k ≤ lsSpoolStorageSize bd b.sizeMax)
      (medium : d'.medium = Medium.fill d.medium 0 k 0xff)
      (cause : k = 0 ∨ k = lsSpoolStorageSize bd b.sizeMax ∨ EraseFault bd b d)
  | writing
      (agree : Medium.AgreeOff (Medium.fill d.medium 0 (lsSpoolStorageSize bd b.sizeMax) 0xff)
        d'.medium 0 headerSize)
      (header : headerAt d'.medium = freshHeader bd sequence ∨
        (headerAt d'.medium).committed = 0xff)

lemma Renewed.renewing
    (h : Renewed bd b sequence d.medium d'.medium) : Renewing bd b sequence d d' :=
  .writing h.1 (.inl h.2)

lemma EraseFault.of_later (hl : d₀.Later d) (h : EraseFault bd b d) :
    EraseFault bd b d₀ := by
  obtain ⟨k, hk, hf⟩ := h
  exact ⟨k, hl.log.length_le.trans hk, hl.faults ▸ hf⟩

lemma Renewing.of_looked (h : d₀.Looked d)
    (h' : Renewing bd b sequence d d') : Renewing bd b sequence d₀ d' := by
  cases h' with
  | erasing k hk hm hcause =>
      exact .erasing k hk (h.medium ▸ hm) (hcause.imp id (Or.imp id (·.of_later h.toLater)))
  | writing ha hh => exact .writing (h.medium ▸ ha) hh

lemma eraseSpool_spec (d : Device) :
    Sat (eraseSpool bd b) d
      (fun _ d' => d.Later d' ∧
        d'.medium = Medium.fill d.medium 0 (lsSpoolStorageSize bd b.sizeMax) 0xff)
      (fun _ d' => d.Later d' ∧ ∀ sequence, Renewing bd b sequence d d') := by
  have hnone : d.Later d ∧ ∀ sequence, Renewing bd b sequence d d :=
    ⟨.refl d, fun _ => .erasing 0 (Nat.zero_le _) (Medium.fill_zero ..).symm (.inl rfl)⟩
  rw [eraseSpool]
  refine .ite (fun _ => .throw hnone) fun _ => ?_
  refine .ite (fun _ => .throw hnone) fun _ => ?_
  refine (erase_spec b 0 _ d).bind (fun _ d₁ h₁ => ?_) (fun _ d₁ h₁ => ?_)
  · exact ((sync_looked b).sat d₁).mono
      (fun _ d₂ h₂ => ⟨.trans _ _ _ h₁.1 h₂.toLater, h₂.medium.trans h₁.2⟩)
      (fun _ d₂ h₂ => ⟨.trans _ _ _ h₁.1 h₂.toLater, fun _ =>
        .erasing _ le_rfl (h₂.medium.trans h₁.2) (.inr (.inl rfl))⟩)
  · obtain ⟨hl, ⟨k, hk, hm, hcause⟩, -⟩ := h₁
    exact ⟨hl, fun _ => .erasing k hk hm (hcause.imp id fun h => .inr ⟨_, le_rfl, h⟩)⟩

/-- The spool is erased up to its size. -/
def Blank (bd : Build) (b : Backend) (m : ℕ → UInt8) : Prop :=
  ∀ a < lsSpoolStorageSize bd b.sizeMax, m a = 0xff

lemma Blank.fill_eq (h : Blank bd b m) :
    Medium.fill m 0 (lsSpoolStorageSize bd b.sizeMax) 0xff = m := by
  funext a
  by_cases ha : a < lsSpoolStorageSize bd b.sizeMax
  · rw [Medium.fill_of_mem (Nat.zero_le _) (by omega), h a ha]
  · exact Medium.fill_of_not_mem (.inr (by omega))

/-- The erase of `ls_spool_init`: the spool is blank behind it, with or without a request
to the device. -/
lemma eraseUnless_spec {erased : Bool} (h : d₀.Looked d)
    (he : erased = true → Blank bd b d₀.medium) :
    Sat (eraseUnless bd b erased) d
      (fun _ d' => d₀.Later d' ∧
        d'.medium = Medium.fill d₀.medium 0 (lsSpoolStorageSize bd b.sizeMax) 0xff)
      (fun _ d' => d₀.Later d' ∧ ∀ sequence, Renewing bd b sequence d₀ d') := by
  rw [eraseUnless, sat_ite]
  constructor
  · intro herased
    exact .pure ⟨h.toLater, h.medium.trans (he herased).fill_eq.symm⟩
  · intro _
    exact (eraseSpool_spec d).mono
      (fun _ d' h' => ⟨.trans _ _ _ h.toLater h'.1, h.medium ▸ h'.2⟩)
      (fun _ d' h' => ⟨.trans _ _ _ h.toLater h'.1, fun _ => (h'.2 _).of_looked h⟩)

/-- `write_header` behind an erase of the spool. -/
lemma writeHeader_renews (hu : usable bd b) (s : System Node) (hl : d.Later s.dev)
    (hm : s.dev.medium = Medium.fill d.medium 0 (lsSpoolStorageSize bd b.sizeMax) 0xff) :
    Sat (writeHeader bd b) s
      (fun _ s' => s'.ram = s.ram ∧ d.Later s'.dev ∧
        Renewed bd b s.ram.runtime.sequence d.medium s'.dev.medium)
      (fun _ s' => s'.ram = s.ram ∧ d.Later s'.dev ∧
        Renewing bd b s.ram.runtime.sequence d s'.dev) := by
  have hsize := slots_le_size hu
  have he : ∀ a < headerSize, s.dev.medium a = 0xff := by
    intro a ha
    rw [hm]
    exact Medium.fill_of_mem (Nat.zero_le _) (by omega)
  refine (writeHeader_spec s he).mono (fun _ s' h => ?_) (fun _ s' h => ?_)
  · obtain ⟨hr, hl', ha, hh⟩ := h
    exact ⟨hr, .trans _ _ _ hl hl', hm ▸ ha, hh⟩
  · obtain ⟨hr, hl', ha, hh⟩ := h
    exact ⟨hr, .trans _ _ _ hl hl', .writing (hm ▸ ha) hh⟩

/-! ### Initialisation -/

/-- `ls_spool_init` takes the spool as it is: a valid header or a valid record. -/
def Initialised (bd : Build) (m : ℕ → UInt8) : Prop :=
  headerValid bd (headerAt m) = true ∨
    ∃ i < bd.spoolMaxRecords, recordValid bd (recordAt bd m i) = true

instance (bd : Build) (m : ℕ → UInt8) : Decidable (Initialised bd m) :=
  inferInstanceAs (Decidable (_ ∨ _))

/-- The newest sequence number that `ls_spool_init` finds. -/
def scanned (bd : Build) (m : ℕ → UInt8) : UInt32 :=
  ((List.range bd.spoolMaxRecords).foldl (fun acc slot => scanTurn bd acc slot (recordAt bd m slot))
    (if headerValid bd (headerAt m) then (headerAt m).sequenceFloor else 0, false)).1

/-- The node after a spool was found: its sequence number is raised. -/
def Node.raised (n : Node) (sequence : UInt32) : Node :=
  { n with runtime := if Serial.isNewer sequence n.runtime.sequence then
      { n.runtime with sequence := sequence } else n.runtime }

/-- Every exit of `ls_spool_init`: a spool that is initialised stays as it is, any other one
is renewed. -/
theorem spoolInit_spec (hu : usable bd b) (s : System Node) :
    Sat (spoolInit bd b) s
      (fun _ s' => Initialised bd s.dev.medium ∧ s.dev.Looked s'.dev ∧
          s'.ram = s.ram.raised (scanned bd s.dev.medium) ∨
        ¬ Initialised bd s.dev.medium ∧ s'.ram = s.ram ∧ s.dev.Later s'.dev ∧
          Renewed bd b s.ram.runtime.sequence s.dev.medium s'.dev.medium)
      (fun _ s' => s'.ram = s.ram ∧ (s.dev.Looked s'.dev ∨
        ¬ Initialised bd s.dev.medium ∧ s.dev.Later s'.dev ∧
          Renewing bd b s.ram.runtime.sequence s.dev s'.dev)) := by
  rw [spoolInit, sat_bind, sat_onDevice]
  refine (readHeader_spec s.dev).mono (fun header d₁ h₁ => ?_) (fun _ d₁ h₁ => ⟨rfl, .inl h₁⟩)
  obtain ⟨rfl, h₁⟩ := h₁
  rw [sat_bind, sat_onDevice]
  refine (foldRecords_spec (scanTurn bd) _ d₁).mono (fun found d₂ h₂ => ?_)
    (fun _ d₂ h₂ => ⟨rfl, .inl (.trans _ _ _ h₁ h₂)⟩)
  obtain ⟨h₂, hfound⟩ := h₂
  have h₁₂ := Device.Looked.trans _ _ _ h₁ h₂
  rw [h₁.medium] at hfound
  have hinit : headerValid bd (headerAt s.dev.medium) = true ∨ found.2 = true ↔
      Initialised bd s.dev.medium := by
    rw [hfound, scan_hasRecord]
    simp [Initialised]
  rw [sat_ite]
  constructor
  · intro h
    rw [modifyRuntime, sat_modifyRam]
    refine .inl ⟨hinit.mp h, h₁₂, ?_⟩
    rw [Node.raised, scanned, hfound]
  · intro h
    rw [hinit] at h
    rw [sat_bind, sat_onDevice]
    refine (isErased_spec b 0 _ d₂).mono (fun erased d₃ h₃ => ?_)
      (fun _ d₃ h₃ => ⟨rfl, .inl (.trans _ _ _ h₁₂ h₃.1)⟩)
    obtain ⟨h₃, herased⟩ := h₃
    have h₁₃ := Device.Looked.trans _ _ _ h₁₂ h₃
    have hblank : erased = true → Blank bd b s.dev.medium := fun he a ha =>
      h₁₂.medium ▸ herased.mp he a (Nat.zero_le _) (by omega)
    rw [sat_bind, sat_onDevice]
    refine (eraseUnless_spec h₁₃ hblank).mono (fun _ d₄ h₄ => ?_) (fun _ d₄ h₄ => ⟨rfl, .inr ⟨h, h₄.1, h₄.2 _⟩⟩)
    exact (writeHeader_renews hu ⟨d₄, s.ram⟩ h₄.1 h₄.2).mono (fun _ s' h' => .inr ⟨h, h'⟩)
      (fun _ s' h' => ⟨h'.1, .inr ⟨h, h'.2⟩⟩)

end Latch.Spool
