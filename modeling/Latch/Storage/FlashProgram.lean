/-
The flash-style semantics of `ls_storage_program`.

A write unit larger than a byte is read, merged with the new bytes and written back. For such
units the device sees whole aligned units only, and no bit is ever set (`UnitWise`). On a
backend whose writes happen entirely or not at all (`Device.WholeWrites`), an error leaves a
prefix of the covered units programmed. Without faults the answer depends on the bits alone:
`LS_EIO` where a cleared bit would have to be set, `LS_OK` otherwise.

The rounding to whole units is guarded against an overflow of `size_t`. The guard also refuses
the last units of a device that ends with the address space: `program_overflow_at_end`.
-/
import Latch.Storage.Healthy

namespace Latch

open Exec

/-! ### What the device sees -/

/-- A write of a whole aligned unit; requests that write nothing are free. -/
def WholeUnit (b : Backend) (r : Request) : Prop :=
  ∀ off data, r = .write off data → b.unit ∣ off ∧ data.length = b.unit

/-- No bit of `m'` is set that is clear in `m`. -/
def OnlyClears (m m' : ℕ → UInt8) : Prop := ∀ a, ~~~(m a) &&& m' a = 0

lemma not_and_self (v : UInt8) : ~~~v &&& v = 0 := by
  apply UInt8.eq_of_toBitVec_eq
  ext i hi
  simp

/-- Where the bytes up to `q` only clear bits, so does a program that has got there. -/
lemma onlyClears_programmedTo {m : ℕ → UInt8} {offset p q : ℕ} {src : List UInt8}
    (hp : p ≤ offset) (h : ClearsIn m offset src p (q - p)) :
    OnlyClears m (programmedTo m offset src q) := by
  intro a
  rw [programmedTo, Medium.write_take_sub]
  split
  case isFalse => exact not_and_self (m a)
  case isTrue hlt =>
    unfold Medium.write
    split
    case isFalse => exact not_and_self (m a)
    case isTrue hle =>
      cases hv : src[a - offset]? with
      | none => exact not_and_self (m a)
      | some v =>
          have hz := h _ v hv (by omega) (by omega)
          rwa [Nat.add_sub_cancel' hle] at hz

/-- The device went on by whole units, without setting a bit. -/
structure UnitWise (b : Backend) (d d' : Device) : Prop where
  requests : ∃ new, d'.log = new ++ d.log ∧ ∀ r ∈ new, WholeUnit b r
  clears : OnlyClears d.medium d'.medium

/-- With units larger than a byte, the device sees whole units and no bit is set. -/
lemma unitWise_of_asked {b : Backend} {d d' : Device} {offset q : ℕ} {src : List UInt8}
    (hu : b.unit ≠ 1) (ha : d.Asked (ProgramRequest b) d')
    (hm : d'.medium = programmedTo d.medium offset src q)
    (hc : ClearsIn d.medium offset src (offset - offset % b.unit)
      (q - (offset - offset % b.unit))) : UnitWise b d d' where
  requests := ha.log.imp fun new h => ⟨h.1, fun r hr off data hw => by
    have hreq := h.2 r hr
    rw [hw] at hreq
    exact hreq hu⟩
  clears := hm ▸ onlyClears_programmedTo (Nat.sub_le _ _) hc

/-! ### The semantics of a program -/

/-- The end of the units that a program covers. -/
def coveredEnd (b : Backend) (offset length : ℕ) : ℕ :=
  (offset + length + b.unit - 1) / b.unit * b.unit

lemma le_coveredEnd (b : Backend) (offset length : ℕ) :
    offset + length ≤ coveredEnd b offset length := by
  have hpos := unit_pos b
  have h1 := Nat.div_add_mod' (offset + length + b.unit - 1) b.unit
  have h2 := Nat.mod_lt (offset + length + b.unit - 1) hpos
  rw [coveredEnd]
  omega

/-- The same backend with a write unit of one byte. -/
def Backend.byteWise (b : Backend) (h : 1 ≤ b.writeSize) : Backend :=
  { b with writeSize := 1, writeSize_le := h.trans b.writeSize_le }

/-- The flash-style semantics of a program of `src` at `offset`. -/
structure FlashSemantics (b : Backend) (hw : 1 ≤ b.writeSize) (offset : ℕ) (src : List UInt8)
    (d : Device) : Prop where
  /-- on success the target holds the data, and every other byte is unchanged -/
  stored : Returns (lsStorageProgram b offset src) d fun _ d' =>
    Medium.read d'.medium offset src.length = src ∧
      Medium.AgreeOff d.medium d'.medium offset src.length
  /-- whole aligned units only, and no bit is set, whatever the outcome -/
  units : 1 < b.writeSize → Sat (lsStorageProgram b offset src) d
    (fun _ d' => UnitWise b d d') (fun _ d' => UnitWise b d d')
  /-- without faults the bits decide -/
  answer : 1 < b.writeSize → d.Healthy → offset + src.length ≤ b.sizeMax - (b.unit - 1) →
    coveredEnd b offset src.length ≤ b.capacity → Sat (lsStorageProgram b offset src) d
      (fun _ _ => Clears d.medium offset src)
      (fun e _ => e = .fail .eio ∧ ¬ Clears d.medium offset src)
  /-- after an error a prefix of the units is programmed as on success -/
  interrupted : 1 < b.writeSize → Sat (lsStorageProgram b offset src) d (fun _ _ => True)
    (fun _ d' => ∃ j, ∀ a, d'.medium a =
      if a < offset - offset % b.unit + j * b.unit then Medium.write d.medium offset src a
      else d.medium a)
  /-- on an erased target the unit does not matter -/
  erased : (∀ a, offset ≤ a → a < offset + src.length → d.medium a = 0xff) → ∀ d' d₁,
    lsStorageProgram b offset src d = .ok () d' →
      lsStorageProgram (b.byteWise hw) offset src d = .ok () d₁ → d'.medium = d₁.medium

section Semantics

variable {b : Backend} {offset : ℕ} {src : List UInt8} {d : Device}

lemma unit_eq (hw : 1 ≤ b.writeSize) : b.unit = b.writeSize := by
  rw [Backend.unit, if_neg (by omega)]

/-- **The flash-style semantics of `ls_storage_program`.** -/
theorem program_flash_semantics (hcalls : b.hasRead ∧ b.hasWrite) (hw : 1 ≤ b.writeSize)
    (hmax : b.writeSize ≤ lsStorageMaxWriteSize) (hwhole : d.WholeWrites) :
    FlashSemantics b hw offset src d := by
  have hunit := unit_eq hw
  constructor
  case stored =>
    refine (program_spec b offset src d).mono fun _ d' h => ?_
    rw [h.2]
    exact ⟨Medium.read_write_same _ _ _, Medium.agreeOff_write _ _ _⟩
  case units =>
    intro h1
    have hu : b.unit ≠ 1 := by omega
    refine (program_exits b offset src d).mono (fun _ d' h => ?_) (fun _ d' h => ?_)
    · obtain ⟨ha, hm, hc⟩ := h
      refine unitWise_of_asked hu ha (q := offset + src.length) ?_ fun i v hv _ _ => hc hu i v hv
      rw [hm, programmedTo, Nat.add_sub_cancel_left, List.take_length]
    · obtain ⟨ha, ⟨q, hq, hc⟩, -⟩ := h
      exact unitWise_of_asked hu ha hq (hc hu).1
  case answer =>
    intro h1 hd hsize hcap
    have hend := le_coveredEnd b offset src.length
    refine (program_exits b offset src d).mono (fun _ _ h => h.2.2 (by omega)) fun _ _ h => ?_
    have hfails := program_fails hd ⟨hunit ▸ hmax, .inr ⟨hsize, hcap⟩⟩
      ⟨hcalls.1, hcalls.2, by omega, by omega⟩ le_rfl h
    exact ⟨hfails.1, hfails.2.1⟩
  case interrupted =>
    intro h1
    refine (program_exits b offset src d).mono (fun _ _ _ => trivial) (fun _ d' h => ?_)
    obtain ⟨q, hq, hw⟩ := h.reached
    obtain ⟨j, rfl⟩ := (hw (by omega)).2 hwhole
    refine ⟨j, fun a => ?_⟩
    rw [hq, programmedTo, Medium.write_take_sub]
  case erased =>
    intro _ d' d₁ h h₁
    have heq := (sat_of_ok (program_spec b offset src d) h).2
    have heq₁ := (sat_of_ok (program_spec (b.byteWise hw) offset src d) h₁).2
    rw [heq, heq₁]

end Semantics

/-- A device that ends with a 32-bit address space, in units of five bytes. -/
def fiveByteUnits : Backend where
  sizeMax := 0xffffffff
  capacity := 0xffffffff
  eraseSize := 5
  writeSize := 5
  hasRead := true
  hasWrite := true
  hasErase := true
  hasSync := false
  enforceNor := true
  capacity_le := le_rfl
  eraseSize_le := by decide
  writeSize_le := by decide

/-- An erased device without faults. -/
def erasedDevice : Device where
  medium _ := 0xff
  faults _ _ := .none
  log := []

/-- The semantics of a program over two partly covered units. -/
theorem program_flash_semantics_two_units :
    FlashSemantics fiveByteUnits (by decide) 3 [1, 2, 3, 4] erasedDevice :=
  program_flash_semantics ⟨rfl, rfl⟩ (by decide) (by decide)
    fun _ _ _ => ⟨fun _ _ h => (nomatch h), fun _ h => (nomatch h)⟩

/-- **The last unit of the address space is refused**, although it lies in the device, no call
fails and it is erased. -/
theorem program_overflow_at_end :
    erasedDevice.Healthy ∧
    coveredEnd fiveByteUnits 0xfffffffa 5 ≤ fiveByteUnits.capacity ∧
    Sat (lsStorageProgram fiveByteUnits 0xfffffffa [0, 0, 0, 0, 0]) erasedDevice
      (fun _ _ => False) (fun e _ => e = .fail .eoverflow) := by
  refine ⟨fun _ _ => rfl, by decide, by decide +kernel⟩

end Latch
