
/-
The raw storage device under every storage layer, with the fault model of
`src/storage/storage_sim.c`.

A device is a medium of bytes, an oracle that decides for each request whether it
is served, fails or is cut off by a loss of power, and the log of the requests
made so far. A failing or interrupted write or erase applies a byte prefix of its
effect; a failing read, sync or fault-injection point changes nothing.

`Backend` is `ls_storage_backend_t`: the geometry, which callbacks are present, and
whether the medium enforces NOR programming. The sizes fit the platform's `size_t`.
-/
import Latch.Core.Util
import Latch.Lib.Exec

namespace Latch

open Exec

/-- The named points of `ls_fault_injection_hit` on the storage and spool paths. -/
inductive Point where
  | programBefore
  | programUnit
  | programAfter
  | spoolBeforeHeader
  | spoolBeforePayload
  | spoolBeforeCommit
  | spoolBeforeSend
  | spoolBeforeAck
  deriving DecidableEq, Repr

/-- A request to the device. -/
inductive Request where
  | read (off len : ℕ)
  | write (off : ℕ) (data : List UInt8)
  | erase (off len : ℕ)
  | sync
  | hit (p : Point)
  deriving DecidableEq, Repr

/-- What becomes of a request; `k` is the number of bytes a write or erase still applies. -/
inductive Fault where
  | none
  | fail (e : Errno) (k : ℕ)
  | cut (k : ℕ)
  deriving DecidableEq, Repr

/-- A device: its bytes, its behaviour, and the requests made so far, the last one first. -/
structure Device where
  medium : ℕ → UInt8
  faults : ℕ → Request → Fault
  log : List Request

/-- A computation on the device. -/
abbrev DeviceM := EStateM (Halt Errno) Device

/-- `ls_storage_backend_t`. -/
structure Backend where
  sizeMax : ℕ
  capacity : ℕ
  eraseSize : ℕ
  writeSize : ℕ
  hasRead : Bool
  hasWrite : Bool
  hasErase : Bool
  hasSync : Bool
  enforceNor : Bool
  capacity_le : capacity ≤ sizeMax
  eraseSize_le : eraseSize ≤ sizeMax
  writeSize_le : writeSize ≤ sizeMax

lemma byte_le : 1 ≤ 0xffffffff := by decide

lemma page_le : 256 ≤ 0xffffffff := by decide

lemma sector_le : 512 ≤ 0xffffffff := by decide

/-- Logs a request and asks the oracle about it. -/
def ask (r : Request) : DeviceM Fault := fun d =>
  .ok (d.faults d.log.length r) { d with log := r :: d.log }

/-- A request that has no effect on the medium, `ls_fault_injection_hit` for instance. -/
def serve (r : Request) : DeviceM Unit := do
  match ← ask r with
  | .none => pure ()
  | .fail e _ => throw (.fail e)
  | .cut _ => throw .cut

/-- `ls_fault_injection_hit`. -/
def lsFaultInjectionHit (p : Point) : DeviceM Unit := serve (.hit p)

/-- The `bounds` check of the device. -/
def Backend.inBounds (b : Backend) (off len : ℕ) : Prop :=
  off ≤ b.capacity ∧ len ≤ b.capacity - off

instance (b : Backend) (off len : ℕ) : Decidable (b.inBounds off len) :=
  inferInstanceAs (Decidable (_ ∧ _))

/-- `ls_storage_sim_read`. -/
def Backend.read (b : Backend) (off len : ℕ) : DeviceM (List UInt8) :=
  if b.inBounds off len then do
    serve (.read off len)
    let d ← get
    pure (Medium.read d.medium off len)
  else throw (.fail .einval)

/-- The bytes a write leaves: a NOR medium can only clear bits. -/
def programmed (nor : Bool) (old new : List UInt8) : List UInt8 :=
  if nor then List.zipWith (· &&& ·) old new else new

/-- A NOR medium refuses to set a cleared bit. -/
def norRefuses (nor : Bool) (old new : List UInt8) : Bool :=
  nor && (List.zipWith (fun o n => ~~~o &&& n) old new).any (· ≠ 0)

/-- Applies the bytes of a write to the medium, unless it refuses them. -/
def storeBytes (b : Backend) (off : ℕ) (data : List UInt8) : DeviceM Bool := fun d =>
  let old := Medium.read d.medium off data.length
  if norRefuses b.enforceNor old data then .ok false d
  else .ok true { d with medium := Medium.write d.medium off (programmed b.enforceNor old data) }

/-- `ls_storage_sim_write`. -/
def Backend.write (b : Backend) (off : ℕ) (data : List UInt8) : DeviceM Unit :=
  if b.inBounds off data.length then do
    match ← ask (.write off data) with
    | .none => do
        let stored ← storeBytes b off data
        if stored then pure () else throw (.fail .eio)
    | .fail e k => do
        let stored ← storeBytes b off (data.take k)
        if stored then throw (.fail e) else throw (.fail .eio)
    | .cut k => do
        let _ ← storeBytes b off (data.take k)
        throw .cut
  else throw (.fail .einval)

/-- Sets bytes of the medium to the erased value. -/
def eraseBytes (off len : ℕ) : DeviceM Unit :=
  modify fun d => { d with medium := Medium.fill d.medium off len 0xff }

/-- `ls_storage_sim_erase`. -/
def Backend.erase (b : Backend) (off len : ℕ) : DeviceM Unit :=
  if b.inBounds off len then do
    match ← ask (.erase off len) with
    | .none => eraseBytes off len
    | .fail e k => do
        eraseBytes off (min k len)
        throw (.fail e)
    | .cut k => do
        eraseBytes off (min k len)
        throw .cut
  else throw (.fail .einval)

/-- The sync callback, where there is one. -/
def Backend.sync (b : Backend) : DeviceM Unit :=
  if b.hasSync then serve .sync else pure ()

/-! ### What a request leaves behind -/

/-- The device went on: its behaviour is the same and its log only grew. -/
structure Device.Later (d d' : Device) : Prop where
  faults : d'.faults = d.faults
  log : d.log <:+ d'.log

/-- The device went on without a change of its bytes. -/
structure Device.Looked (d d' : Device) : Prop extends Device.Later d d' where
  medium : d'.medium = d.medium

variable (d d₁ d₂ d₃ : Device) (r : Request)

lemma Device.Later.refl : d.Later d := ⟨rfl, List.suffix_rfl⟩

lemma Device.Later.trans (h : d₁.Later d₂) (h' : d₂.Later d₃) :
    d₁.Later d₃ :=
  ⟨h'.faults.trans h.faults, h.log.trans h'.log⟩

lemma Device.Looked.refl : d.Looked d := ⟨.refl d, rfl⟩

lemma Device.Looked.trans (h : d₁.Looked d₂) (h' : d₂.Looked d₃) :
    d₁.Looked d₃ :=
  ⟨.trans _ _ _ h.toLater h'.toLater, h'.medium.trans h.medium⟩

/-- The device after a request. -/
def Device.asked (d : Device) (r : Request) : Device := { d with log := r :: d.log }

@[simp] lemma Device.asked_medium : (d.asked r).medium = d.medium := rfl

lemma looked_ask : d.Looked (d.asked r) :=
  ⟨⟨rfl, List.suffix_cons _ _⟩, rfl⟩

/-- The device went on by requests in `P`. -/
structure Device.Asked (P : Request → Prop) (d d' : Device) : Prop where
  faults : d'.faults = d.faults
  log : ∃ new, d'.log = new ++ d.log ∧ ∀ r ∈ new, P r

section Asked

variable {P P' : Request → Prop} {d d₁ d₂ : Device}

lemma Device.Asked.later (h : d.Asked P d₁) : d.Later d₁ :=
  ⟨h.faults, h.log.imp fun _ hn => hn.1.symm⟩

lemma Device.Asked.refl (d : Device) : d.Asked P d := ⟨rfl, [], rfl, nofun⟩

lemma Device.Asked.trans (h : d.Asked P d₁) (h' : d₁.Asked P d₂) : d.Asked P d₂ := by
  obtain ⟨hf, new, hlog, hall⟩ := h
  obtain ⟨hf', new', hlog', hall'⟩ := h'
  refine ⟨hf'.trans hf, new' ++ new, by rw [hlog', hlog, List.append_assoc], fun r hr => ?_⟩
  exact (List.mem_append.mp hr).elim (hall' r) (hall r)

lemma Device.Asked.mono (h : d.Asked P d₁) (hP : ∀ r, P r → P' r) : d.Asked P' d₁ :=
  ⟨h.faults, h.log.imp fun _ hn => ⟨hn.1, fun r hr => hP r (hn.2 r hr)⟩⟩

lemma Device.Asked.one {r : Request} (h : P r) : d.Asked P (d.asked r) :=
  ⟨rfl, [r], rfl, by simpa using h⟩

end Asked

variable {d d' : Device} {e : Halt Errno} (b : Backend) (off len : ℕ)

/-- The error that a request with the fault is answered with. -/
def Fault.error : Fault → Option (Halt Errno)
  | .none => Option.none
  | .fail e _ => some (.fail e)
  | .cut _ => some .cut

lemma Fault.error_eq_fail {f : Fault} {e : Errno} (h : f.error = some (.fail e)) :
    ∃ k, f = .fail e k := by
  cases f <;> cases h
  exact ⟨_, rfl⟩

/-- The bytes that a write or an erase with the fault still applies. -/
def Fault.bytes : Fault → ℕ
  | .none => 0
  | .fail _ k => k
  | .cut k => k

/-- The last request was answered with the error. -/
def Device.Answered (d : Device) (e : Halt Errno) : Prop :=
  ∃ r l, d.log = r :: l ∧ (d.faults l.length r).error = some e

/-- The device serves every request. -/
def Device.Healthy (d : Device) : Prop := ∀ k r, d.faults k r = .none

lemma Device.Healthy.later (h : d.Healthy) (hl : d.Later d') : d'.Healthy :=
  fun k r => by rw [hl.faults, h]

lemma Device.Healthy.not_answered (h : d.Healthy)
    (hl : d.Later d') : ¬ d'.Answered e := by
  rintro ⟨r, l, -, hf⟩
  rw [h.later hl] at hf
  cases hf

lemma sat_ask {r : Request} {Q : Fault → Device → Prop}
    {H : Halt Errno → Device → Prop} :
    Sat (ask r) d Q H ↔ Q (d.faults d.log.length r) (d.asked r) := by
  unfold Sat
  rfl

/-- A request without effect is served only if the oracle has no fault for it. -/
lemma serve_spec (r : Request) (d : Device) :
    Sat (serve r) d (fun _ d' => d' = d.asked r ∧ d.faults d.log.length r = .none)
      (fun e d' => d' = d.asked r ∧ (d.faults d.log.length r).error = some e) := by
  rw [serve, sat_bind, sat_ask]
  cases d.faults d.log.length r with
  | none => exact .pure ⟨rfl, rfl⟩
  | fail e k => exact .throw ⟨rfl, rfl⟩
  | cut k => exact .throw ⟨rfl, rfl⟩

/-- The last request of a call is the one that failed. -/
lemma answered_of_serve {r : Request}
    (h : (d.faults d.log.length r).error = some e) : (d.asked r).Answered e := ⟨r, d.log, rfl, h⟩

lemma serve_looked (r : Request) : Keeps Device.Looked (serve r) :=
  ⟨fun d => (serve_spec r d).mono (fun _ _ h => h.1 ▸ looked_ask d r)
    (fun _ _ h => h.1 ▸ looked_ask d r)⟩

lemma hit_looked (p : Point) : Keeps Device.Looked (lsFaultInjectionHit p) := serve_looked _

lemma sync_looked : Keeps Device.Looked b.sync :=
  Keeps.ite (fun _ => serve_looked _) fun _ => keeps_pure Device.Looked.refl _

/-- A read that succeeds returns the true bytes; its error is a range outside the device, or the
answer of the oracle. -/
lemma read_exits (d : Device) :
    Sat (b.read off len) d
      (fun bs d' => bs = Medium.read d.medium off len ∧ d' = d.asked (.read off len) ∧
        d.faults d.log.length (.read off len) = .none)
      (fun e d' => (¬ b.inBounds off len ∧ e = .fail .einval) ∧ d' = d ∨
        d' = d.asked (.read off len) ∧
          (d.faults d.log.length (.read off len)).error = some e) := by
  rw [Backend.read]
  refine .ite (fun _ => ?_) fun hb => .throw (.inl ⟨⟨hb, rfl⟩, rfl⟩)
  refine (serve_spec _ d).bind (fun _ d' h => ?_) (fun _ _ h => .inr h)
  obtain ⟨rfl, hf⟩ := h
  rw [sat_bind, sat_get, sat_pure]
  exact ⟨rfl, rfl, hf⟩

/-- A read changes nothing. -/
lemma read_spec (d : Device) :
    Sat (b.read off len) d
      (fun bs d' => bs = Medium.read d.medium off len ∧ d.Looked d') (fun _ d' => d.Looked d') := by
  refine (read_exits b off len d).mono (fun bs d' h => ⟨h.1, h.2.1 ▸ looked_ask d _⟩)
    (fun _ d' h => ?_)
  obtain ⟨-, rfl⟩ | ⟨rfl, -⟩ := h
  · exact .refl d'
  · exact looked_ask d _

/-- What survives programming a byte is the byte, if no cleared bit had to be set. -/
lemma and_eq_of_not_and {o n : UInt8} (h : ~~~o &&& n = 0) : o &&& n = n := by
  have key : n = (o &&& n) ||| (~~~o &&& n) := by
    apply UInt8.eq_of_toBitVec_eq
    ext i hi
    simp only [UInt8.toBitVec_or, UInt8.toBitVec_and, UInt8.toBitVec_not, BitVec.getElem_or,
      BitVec.getElem_and, BitVec.getElem_not]
    cases o.toBitVec[i] <;> cases n.toBitVec[i] <;> rfl
  rw [h] at key
  simpa using key.symm

/-- Accepted bytes are stored as they are, on a NOR medium as well. -/
lemma programmed_eq {nor : Bool} {old new : List UInt8} (hlen : old.length = new.length)
    (h : norRefuses nor old new = false) : programmed nor old new = new := by
  cases nor with
  | false => rfl
  | true =>
      simp only [norRefuses, Bool.true_and] at h
      simp only [programmed, if_true]
      induction old generalizing new with
      | nil =>
          rw [List.eq_nil_of_length_eq_zero hlen.symm]
          rfl
      | cons o old ih =>
          cases new with
          | nil => cases hlen
          | cons n new =>
              simp only [List.zipWith_cons_cons, List.any_cons, Bool.or_eq_false_iff,
                decide_eq_false_iff_not, ne_eq, not_not] at h
              rw [List.zipWith_cons_cons, and_eq_of_not_and h.1,
                ih (by simpa using hlen) (by simpa using h.2)]

lemma storeBytes_spec (data : List UInt8) (d : Device) :
    Sat (storeBytes b off data) d
      (fun stored d' =>
        stored = !norRefuses b.enforceNor (Medium.read d.medium off data.length) data ∧
        d' = { d with medium := if stored then Medium.write d.medium off data else d.medium })
      (fun _ _ => False) := by
  unfold storeBytes Sat
  dsimp only
  cases h : norRefuses b.enforceNor (Medium.read d.medium off data.length) data with
  | true => exact ⟨rfl, rfl⟩
  | false => exact ⟨rfl, by simp [programmed_eq (by simp) h]⟩

/-- A write that fails or is cut off has stored all of its bytes or none. -/
def Device.WholeWrites (d : Device) : Prop :=
  ∀ n off data,
    (∀ e k, d.faults n (.write off data) = .fail e k → k = 0 ∨ data.length ≤ k) ∧
    ∀ k, d.faults n (.write off data) = .cut k → k = 0 ∨ data.length ≤ k

lemma Device.WholeWrites.later (h : d.WholeWrites) (hl : d.Later d') :
    d'.WholeWrites := by
  intro n off data
  rw [hl.faults]
  exact h n off data

/-- Why a write failed: the device has answered so, the bytes do not lie in `range`, or without
any fault of the device they would set `bits`. -/
def Device.Blames (d d' : Device) (range bits : Prop) (e : Halt Errno) : Prop :=
  d'.Answered e ∨ ¬ range ∧ e = .fail .einval ∨ (d.Healthy → bits) ∧ e = .fail .eio

lemma Device.Blames.mono {d₁ : Device} {range range' bits bits' : Prop}
    (h : d₁.Blames d' range bits e) (hl : d.Later d₁) (hr : range' → range) (hb : bits → bits') :
    d.Blames d' range' bits' e :=
  h.imp_right (Or.imp (And.imp_left (mt hr)) (And.imp_left fun h hd => hb (h (hd.later hl))))

/-- A write leaves a prefix of its bytes, all of them if it succeeds; where writes happen
entirely or not at all, that is all or none. -/
lemma write_spec (data : List UInt8) (d : Device) :
    Sat (b.write off data) d
      (fun _ d' => d.Asked (· = .write off data) d' ∧
        d'.medium = Medium.write d.medium off data)
      (fun e d' => d.Asked (· = .write off data) d' ∧
        (∃ k, d'.medium = Medium.write d.medium off (data.take k) ∧
          (d.WholeWrites → k = 0 ∨ data.length ≤ k)) ∧
        d.Blames d' (b.inBounds off data.length)
          (norRefuses b.enforceNor (Medium.read d.medium off data.length) data = true) e) := by
  have hnone : ∃ k, d.medium = Medium.write d.medium off (data.take k) ∧
      (d.WholeWrites → k = 0 ∨ data.length ≤ k) :=
    ⟨0, by rw [List.take_zero, Medium.write_nil], fun _ => .inl rfl⟩
  have hask : ∀ m, d.Asked (· = .write off data) { d.asked (.write off data) with medium := m } :=
    fun m => ⟨rfl, [.write off data], rfl, by simp⟩
  rw [Backend.write]
  refine .ite (fun _ => ?_) fun hb => .throw ⟨.refl d, hnone, .inr (.inl ⟨hb, rfl⟩)⟩
  rw [sat_bind, sat_ask]
  cases hf : d.faults d.log.length (.write off data) with
  | none =>
      refine (storeBytes_spec b off data _).bind fun stored d' h => ?_
      obtain ⟨hstored, rfl⟩ := h
      cases stored with
      | false => exact .throw ⟨hask _, hnone, .inr (.inr ⟨fun _ => by simpa using hstored, rfl⟩)⟩
      | true => exact .pure ⟨hask _, rfl⟩
  | fail e k =>
      refine (storeBytes_spec b off _ _).bind fun stored d' h => ?_
      obtain ⟨-, rfl⟩ := h
      cases stored with
      | false =>
          refine .throw ⟨hask _, hnone, .inr (.inr ⟨fun hd => ?_, rfl⟩)⟩
          cases hf.symm.trans (hd _ _)
      | true =>
          exact .throw ⟨hask _, ⟨k, rfl, fun hw => (hw _ _ _).1 e k hf⟩,
            .inl ⟨_, d.log, rfl, congrArg Fault.error hf⟩⟩
  | cut k =>
      refine (storeBytes_spec b off _ _).bind fun stored d' h => .throw ?_
      obtain ⟨-, rfl⟩ := h
      refine ⟨hask _, ?_, .inl ⟨_, d.log, rfl, congrArg Fault.error hf⟩⟩
      cases stored with
      | false => exact hnone
      | true => exact ⟨k, rfl, fun hw => (hw _ _ _).2 k hf⟩

/-- The device when a range has been erased. -/
def Device.withErased (d : Device) (off len : ℕ) : Device :=
  ⟨Medium.fill d.medium off len 0xff, d.faults, .erase off len :: d.log⟩

/-- The exits of an erase. -/
lemma erase_exits (d : Device) :
    Sat (b.erase off len) d
      (fun _ d' => d' = d.withErased off len ∧ d.faults d.log.length (.erase off len) = .none)
      (fun e d' => (¬ b.inBounds off len ∧ e = .fail .einval) ∧ d' = d ∨
        d' = ⟨Medium.fill d.medium off (min (d.faults d.log.length (.erase off len)).bytes len) 0xff,
          d.faults, .erase off len :: d.log⟩ ∧
        (d.faults d.log.length (.erase off len)).error = some e) := by
  rw [Backend.erase]
  refine .ite (fun _ => ?_) fun hb => .throw (.inl ⟨⟨hb, rfl⟩, rfl⟩)
  rw [sat_bind, sat_ask]
  cases d.faults d.log.length (.erase off len) with
  | none => exact (sat_modify _).mpr ⟨rfl, rfl⟩
  | fail e k => exact (sat_bind _ _).mpr ((sat_modify _).mpr (.throw (.inr ⟨rfl, rfl⟩)))
  | cut k => exact (sat_bind _ _).mpr ((sat_modify _).mpr (.throw (.inr ⟨rfl, rfl⟩)))

/-- An erase clears a prefix of its range, all of it if it succeeds; it stops inside its
range only where the oracle has a fault for it. -/
lemma erase_spec (d : Device) :
    Sat (b.erase off len) d
      (fun _ d' => d.Later d' ∧ d'.medium = Medium.fill d.medium off len 0xff)
      (fun e d' => d.Later d' ∧ (∃ k ≤ len, d'.medium = Medium.fill d.medium off k 0xff ∧
        (k = 0 ∨ d.faults d.log.length (.erase off len) ≠ .none)) ∧
        (b.inBounds off len → d'.Answered e)) := by
  have hlog := (looked_ask d (.erase off len)).log
  refine (erase_exits b off len d).mono (fun _ d' h => ?_) (fun e d' h => ?_)
  · obtain ⟨rfl, -⟩ := h
    exact ⟨⟨rfl, hlog⟩, rfl⟩
  obtain ⟨⟨hb, -⟩, rfl⟩ | ⟨rfl, hf⟩ := h
  · exact ⟨.refl _, ⟨0, Nat.zero_le _, (Medium.fill_zero ..).symm, .inl rfl⟩, (absurd · hb)⟩
  · refine ⟨⟨rfl, hlog⟩, ⟨_, min_le_right _ _, rfl, .inr fun hnone => ?_⟩, fun _ => ⟨_, _, rfl, hf⟩⟩
    rw [hnone] at hf
    cases hf

/-! ### Drivers -/

/-- A device together with the state a driver keeps in memory. -/
structure System (ρ : Type) where
  dev : Device
  ram : ρ

/-- A computation of a driver. -/
abbrev DriverM (ρ : Type) := EStateM (Halt Errno) (System ρ)

variable {ρ α : Type}

/-- A computation on the device alone. -/
def onDevice (x : DeviceM α) : DriverM ρ α := zoom System.dev (fun s d => { s with dev := d }) x

/-- The state in memory. -/
def getRam : DriverM ρ ρ := System.ram <$> get

/-- Changes the state in memory. -/
def modifyRam (f : ρ → ρ) : DriverM ρ PUnit := modify fun s => { s with ram := f s.ram }

/-- Changes the state in memory where a computation fails; a cut of the power leaves no
time for it. -/
def onFailure (f : ρ → ρ) (x : DriverM ρ α) : DriverM ρ α := fun s =>
  match x s with
  | .ok a s' => .ok a s'
  | .error (.fail e) s' => .error (.fail e) ⟨s'.dev, f s'.ram⟩
  | .error .cut s' => .error .cut s'

section

variable {s : System ρ} {H : Halt Errno → System ρ → Prop}

lemma sat_onDevice {x : DeviceM α} {Q : α → System ρ → Prop} :
    Sat (onDevice x) s Q H ↔
      Sat x s.dev (fun a d => Q a ⟨d, s.ram⟩) (fun e d => H e ⟨d, s.ram⟩) := sat_zoom

lemma sat_getRam {Q : ρ → System ρ → Prop} : Sat getRam s Q H ↔ Q s.ram s := by
  unfold Sat
  rfl

lemma sat_modifyRam {Q : PUnit → System ρ → Prop} {f : ρ → ρ} :
    Sat (modifyRam f) s Q H ↔ Q ⟨⟩ ⟨s.dev, f s.ram⟩ := by
  unfold Sat
  rfl

lemma sat_onFailure {f : ρ → ρ} {x : DriverM ρ α} {Q : α → System ρ → Prop} :
    Sat (onFailure f x) s Q H ↔ Sat x s Q fun e s' =>
      match e with
      | .fail e => H (.fail e) ⟨s'.dev, f s'.ram⟩
      | .cut => H .cut s' := by
  unfold Sat onFailure
  cases x s with
  | ok a s' => rfl
  | error e s' => cases e <;> rfl

end

end Latch
