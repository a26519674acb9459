
/-
Devices without faults: the requests and the programs that return.

`Device.Healthy` says that the oracle has no fault for any request. On a healthy device a
read, a write and an erase return if they lie inside the device, and `ls_storage_program`
returns if it accepts the write unit (`Backend.Accepts`) and the new bytes only clear bits
(`Clears`); its only other error is then `LS_EIO` (`program_fails`).
-/
import Latch.Storage.Program

namespace Latch

open Exec

variable {b : Backend} {d : Device}

variable {offset size : ℕ} {src : List UInt8}

/-! ### Requests -/

lemma serve_completes (h : d.Healthy) (r : Request) : Completes (serve r) d :=
  (serve_spec r d).mono (fun _ _ _ => trivial) fun _ _ he =>
    h.not_answered (looked_ask d r).toLater (answered_of_serve he.2)

lemma hit_completes (h : d.Healthy) (p : Point) : Completes (lsFaultInjectionHit p) d :=
  serve_completes h _

lemma sync_completes (h : d.Healthy) : Completes b.sync d := by
  rw [Backend.sync, Completes, sat_ite]
  exact ⟨fun _ => serve_completes h _, fun _ => .pure trivial⟩

lemma read_completes (h : d.Healthy) {off len : ℕ} (hb : b.inBounds off len) :
    Completes (b.read off len) d := by
  refine (read_exits b off len d).mono (fun _ _ _ => trivial) fun e d' he => ?_
  obtain ⟨hout, -⟩ | ⟨-, hf⟩ := he
  · exact hout.1 hb
  · exact h.not_answered (looked_ask d _).toLater (answered_of_serve hf)

lemma erase_completes (h : d.Healthy) {off len : ℕ} (hb : b.inBounds off len) :
    Completes (b.erase off len) d :=
  (erase_spec b off len d).mono (fun _ _ _ => trivial) fun _ _ he =>
    h.not_answered he.1 (he.2.2 hb)

/-! ### Programs -/

/-- Bytes over an erased range only clear bits. -/
lemma clears_of_erased {m : ℕ → UInt8}
    (h : ∀ a, offset ≤ a → a < offset + src.length → m a = 0xff) : Clears m offset src := by
  intro i v hv
  have hi : i < src.length := (List.getElem?_eq_some_iff.mp hv).1
  have hff : ~~~(0xff : UInt8) = 0 := by decide
  rw [h _ (by omega) (by omega), hff, UInt8.zero_and]

lemma clears_zero (m : ℕ → UInt8) (offset : ℕ) : Clears m offset [0] := by
  intro i v hv
  obtain ⟨-, rfl⟩ : i = 0 ∧ v = 0 := by
    cases i with
    | zero => simpa [eq_comm] using hv
    | succ i => simp at hv
  simp

/-- The write unit is one that `ls_storage_program` accepts for every range below `size`. -/
def Backend.Accepts (b : Backend) (size : ℕ) : Prop :=
  b.unit ≤ lsStorageMaxWriteSize ∧ (b.unit = 1 ∨
    size ≤ b.sizeMax - (b.unit - 1) ∧ (size + b.unit - 1) / b.unit * b.unit ≤ b.capacity)

instance (b : Backend) (size : ℕ) : Decidable (b.Accepts size) :=
  inferInstanceAs (Decidable (_ ∧ _))

lemma Backend.Accepts.mono {size' : ℕ} (h : b.Accepts size) (hle : size' ≤ size) :
    b.Accepts size' := by
  refine ⟨h.1, h.2.imp id fun h => ⟨hle.trans h.1, le_trans ?_ h.2⟩⟩
  exact Nat.mul_le_mul_right _ (Nat.div_le_div_right (by omega))

/-- Without faults a program fails only where a bit would have to be set. -/
lemma program_fails (h : d.Healthy) {e : Halt Errno}
    {d' : Device} (ha : b.Accepts size) (hb : storageBounds b offset src.length)
    (hsize : offset + src.length ≤ size) (hs : ProgramStop b offset src d e d') :
    e = .fail .eio ∧ ¬ Clears d.medium offset src ∧ (b.unit = 1 →
      norRefuses b.enforceNor (Medium.read d.medium offset src.length) src = true) := by
  have hlast : (offset + src.length + b.unit - 1) / b.unit * b.unit ≤
      (size + b.unit - 1) / b.unit * b.unit :=
    Nat.mul_le_mul_right _ (Nat.div_le_div_right (by omega))
  cases hs.cause with
  | answer hans => exact absurd hans (h.not_answered hs.asked.later)
  | bounds hout => exact absurd hb hout
  | unit hu => exact absurd ha.1 (not_le.mpr hu)
  | overflow ho =>
      have := (ha.2.resolve_left ho.1).1
      omega
  | space ho =>
      have := (ha.2.resolve_left ho.1).2
      omega
  | bits hbits => exact ⟨rfl, hbits h⟩

/-- A program in units of a byte returns on a healthy device that takes the bytes. -/
lemma program_completes_byte (h : d.Healthy) (hunit : b.unit = 1)
    (hnor : norRefuses b.enforceNor (Medium.read d.medium offset src.length) src = false)
    (hb : storageBounds b offset src.length) : Completes (lsStorageProgram b offset src) d := by
  have ha : b.Accepts (offset + src.length) := ⟨hunit ▸ (by decide), .inl hunit⟩
  refine (program_exits b offset src d).mono (fun _ _ _ => trivial) fun _ _ hs => ?_
  have hr := (program_fails h ha hb le_rfl hs).2.2 hunit
  exact Bool.false_ne_true (hnor.symm.trans hr)

/-- **A program returns** on a healthy device, if its unit is accepted and it only clears
bits. -/
lemma program_completes (h : d.Healthy)
    (ha : b.Accepts size) (hb : storageBounds b offset src.length)
    (hsize : offset + src.length ≤ size) (hc : Clears d.medium offset src) :
    Completes (lsStorageProgram b offset src) d :=
  (program_exits b offset src d).mono (fun _ _ _ => trivial) fun _ _ hs =>
    (program_fails h ha hb hsize hs).2.1 hc

lemma isErased_completes (h : d.Healthy) {length : ℕ} (hb : storageBounds b offset length) :
    Completes (lsStorageIsErased b offset length) d := by
  refine (isErased_spec b offset length d).mono (fun _ _ _ => trivial) fun _ _ he => ?_
  obtain ⟨hl, hout | ⟨_, _, _, hlog, hf⟩⟩ := he
  · exact hout.1 hb
  · exact h.not_answered hl.toLater ⟨_, _, hlog, hf⟩

end Latch
