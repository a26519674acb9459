
/-
A whole node: the runtime with its registered storage, the memory that survives a reset,
and what the callbacks of the application answer.

The functions above the spool work on a `Machine`. Those of the spool are run on its
`Node` by `onNode`, the encoder on its runtime by `encoding`.
-/
import Latch.Capture.Retained
import Latch.Envelope.Encode
import Latch.Spool.Retain

namespace Latch

open Exec Spool

/-- What the application and its memory answer: `timestamp_ms` and `reset_info` of
`ls_config_t` if they are set, the random provider, the application memory and the flight
recorder, each for the `n`-th time it is asked. -/
structure World where
  timestampMs : Option (ℕ → UInt32)
  resetInfo : Option (ℕ → ResetInfo)
  random : ℕ → Except Errno Nonce
  memory : ℕ → ℕ → UInt8
  blackbox : ℕ → Blackbox

/-- `ls_breadcrumb_policy_t`. -/
inductive BreadcrumbPolicy where
  | dropOldest
  | dropNewest
  | keepErrors
  deriving DecidableEq, Repr, Inhabited

/-- What happens to the boot state and to the key that it names; `p` is the boot state in
memory. -/
inductive LifecycleEvent where
  | saved (p : PersistentBoot)
  | destroyed (keyId : UInt32) (p : PersistentBoot)
  deriving DecidableEq

/-- What the functions above the spool work on. `loaded` tells whether the boot state in
memory was taken from the storage, `written` are the boot states that were to be stored, and
`trace` the saves that returned `LS_OK` and the calls of the `destroy_key` callback, the last
one first; no function reads them. `calls` counts the answers of the world. -/
structure Machine where
  node : Node
  storage : Option Backend
  breadcrumbPolicy : BreadcrumbPolicy
  loaded : Bool
  written : List PersistentBoot
  trace : List LifecycleEvent
  retained : Retained
  world : World
  calls : ℕ

/-- The functions above the spool. -/
abbrev MachineM := DriverM Machine

namespace Machine

/-- The runtime. -/
abbrev runtime (m : Machine) : Runtime := m.node.runtime

/-- The boot state in memory. -/
abbrev persistent (m : Machine) : PersistentBoot := m.node.runtime.persistent

/-- The machine with another runtime. -/
def setRuntime (m : Machine) (rt : Runtime) : Machine :=
  { m with node := { m.node with runtime := rt } }

@[simp] lemma setRuntime_storage (m : Machine) (rt : Runtime) :
    (m.setRuntime rt).storage = m.storage := rfl

end Machine

/-- Changes the runtime. -/
def updateRuntime (f : Runtime → Runtime) : MachineM Unit :=
  modifyRam fun m => m.setRuntime (f m.runtime)

/-- Changes the boot state in memory. -/
def updatePersistent (f : PersistentBoot → PersistentBoot) : MachineM Unit :=
  updateRuntime fun rt => { rt with persistent := f rt.persistent }

/-- Adds an event to the trace. -/
def Machine.noted (m : Machine) (event : LifecycleEvent) : Machine :=
  { m with trace := event :: m.trace }

/-- Changes the retained memory. -/
def updateRetained (f : Retained → Retained) : MachineM Unit :=
  modifyRam fun m => { m with retained := f m.retained }

/-- A function of the spool on the node of the machine. -/
def onNode {α : Type} (x : SpoolM α) : MachineM α :=
  zoom (fun s : System Machine => ⟨s.dev, s.ram.node⟩)
    (fun s t => ⟨t.dev, { s.ram with node := t.ram }⟩) x

/-- The encoder on the runtime of the machine: the bytes that it leaves in its buffer. -/
def encoding (x : EnvelopeM Unit) : MachineM (List UInt8) := fun s =>
  match x ⟨s.ram.runtime, fun _ => 0, 0⟩ with
  | .ok _ t => .ok (Medium.read t.out 0 t.length) ⟨s.dev, s.ram.setRuntime t.runtime⟩
  | .error e t => .error (.fail e) ⟨s.dev, s.ram.setRuntime t.runtime⟩

/-- Runs a function and drops its result, as a cast to `void` does. -/
def ignoring {α : Type} (x : MachineM α) : MachineM Unit := (fun _ => ()) <$> attempt x

/-- Changes the machine behind a function that succeeds or fails; a cut of the power leaves
no time for it. -/
def afterwards {α : Type} (f : Machine → Machine) (x : MachineM α) : MachineM α :=
  onFailure f do
    let a ← x
    modifyRam f
    return a

/-- The number of the next answer of the world. -/
def nextCall : MachineM ℕ := do
  let m ← getRam
  modifyRam fun m => { m with calls := m.calls + 1 }
  return m.calls

/-- The clock, `0` where there is none. -/
def timestampMs : MachineM UInt32 := do
  let k ← nextCall
  let m ← getRam
  return match m.world.timestampMs with
    | none => 0
    | some clock => clock k

/-- `ls_uptime_ms`. -/
def lsUptimeMs : MachineM UInt32 := do
  let now ← timestampMs
  let m ← getRam
  return now - m.runtime.bootStartedMs

/-- The `reset_info` callback, where there is one. -/
def askResetInfo : MachineM ResetInfo := do
  let k ← nextCall
  let m ← getRam
  return match m.world.resetInfo with
    | none => default
    | some info => info k

/-- `ls_storage_register`. -/
def lsStorageRegister (storage : Option Backend) : MachineM Unit :=
  modifyRam fun m => { m with storage := storage }

/-! ### Rules -/

section

variable {s : System Machine} {H : Halt Errno → System Machine → Prop}

variable {α : Type} {Q : Unit → System Machine → Prop}

lemma sat_updateRuntime {f : Runtime → Runtime} :
    Sat (updateRuntime f) s Q H ↔ Q () ⟨s.dev, s.ram.setRuntime (f s.ram.runtime)⟩ := sat_modifyRam

lemma sat_updatePersistent {f : PersistentBoot → PersistentBoot} :
    Sat (updatePersistent f) s Q H ↔
      Q () ⟨s.dev, s.ram.setRuntime { s.ram.runtime with persistent := f s.ram.persistent }⟩ :=
  sat_updateRuntime

lemma sat_updateRetained {f : Retained → Retained} :
    Sat (updateRetained f) s Q H ↔ Q () ⟨s.dev, { s.ram with retained := f s.ram.retained }⟩ :=
  sat_modifyRam

lemma sat_onNode {x : SpoolM α} {Q : α → System Machine → Prop} :
    Sat (onNode x) s Q H ↔ Sat x ⟨s.dev, s.ram.node⟩
      (fun a t => Q a ⟨t.dev, { s.ram with node := t.ram }⟩)
      (fun e t => H e ⟨t.dev, { s.ram with node := t.ram }⟩) := sat_zoom

lemma sat_encoding {x : EnvelopeM Unit} {Q : List UInt8 → System Machine → Prop} :
    Sat (encoding x) s Q H ↔ Sat x ⟨s.ram.runtime, fun _ => 0, 0⟩
      (fun _ t => Q (Medium.read t.out 0 t.length) ⟨s.dev, s.ram.setRuntime t.runtime⟩)
      (fun e t => H (.fail e) ⟨s.dev, s.ram.setRuntime t.runtime⟩) := by
  unfold Sat encoding
  cases x ⟨s.ram.runtime, fun _ => 0, 0⟩ <;> rfl

lemma sat_ignoring {x : MachineM α} :
    Sat (ignoring x) s Q H ↔ Sat x s (fun _ s' => Q () s') fun e s' =>
      match e with
      | .fail _ => Q () s'
      | .cut => H .cut s' := by
  rw [ignoring, sat_map, sat_attempt]
  constructor <;> exact fun h => h.mono (fun _ _ h => h) (fun e _ h => by cases e <;> exact h)

/-- What a function keeps at every exit is kept when its result is dropped. -/
lemma keeps_ignoring {x : MachineM α} {R : System Machine → System Machine → Prop}
    (h : Keeps R x) : Keeps R (ignoring x) := by
  refine ⟨fun s => ?_⟩
  rw [sat_ignoring]
  refine (h.sat s).mono (fun _ _ h => h) (fun e _ h => ?_)
  cases e <;> exact h

/-- Only a cut of the power stops a function whose result is dropped. -/
lemma ignoring_stops (x : MachineM α) (s : System Machine) :
    Sat (ignoring x) s (fun _ _ => True) (fun e _ => e = .cut) := by
  rw [ignoring, sat_map, sat_attempt]
  refine (sat_run x s).mono (fun _ _ _ => trivial) (fun e _ _ => ?_)
  cases e <;> trivial

lemma sat_afterwards {f : Machine → Machine} {x : MachineM α}
    {Q : α → System Machine → Prop} :
    Sat (afterwards f x) s Q H ↔ Sat x s (fun a s' => Q a ⟨s'.dev, f s'.ram⟩) fun e s' =>
      match e with
      | .fail e => H (.fail e) ⟨s'.dev, f s'.ram⟩
      | .cut => H .cut s' := by
  constructor <;> intro h <;>
    simp only [afterwards, sat_onFailure, sat_bind, sat_modifyRam, sat_pure] at h ⊢ <;>
    exact h.mono (fun _ _ h => h) (fun e _ h => by cases e <;> exact h)

/-- The clock has been asked. -/
def Machine.Asked (m m' : Machine) : Prop := ∃ k, m' = { m with calls := k }

lemma nextCall_spec (s : System Machine) :
    Sat nextCall s (fun _ s' => s'.dev = s.dev ∧ s.ram.Asked s'.ram) (fun _ _ => False) := by
  rw [nextCall, sat_bind, sat_getRam, sat_bind, sat_modifyRam, sat_pure]
  exact ⟨rfl, _, rfl⟩

lemma timestampMs_spec (s : System Machine) :
    Sat timestampMs s (fun _ s' => s'.dev = s.dev ∧ s.ram.Asked s'.ram) (fun _ _ => False) := by
  rw [timestampMs]
  refine (nextCall_spec s).bind fun _ s₁ h₁ => ?_
  rw [sat_bind, sat_getRam, sat_pure]
  exact h₁

lemma askResetInfo_spec (s : System Machine) :
    Sat askResetInfo s (fun _ s' => s'.dev = s.dev ∧ s.ram.Asked s'.ram) (fun _ _ => False) := by
  rw [askResetInfo]
  refine (nextCall_spec s).bind fun _ s₁ h₁ => ?_
  rw [sat_bind, sat_getRam, sat_pure]
  exact h₁

lemma lsUptimeMs_spec (s : System Machine) :
    Sat lsUptimeMs s (fun _ s' => s'.dev = s.dev ∧ s.ram.Asked s'.ram) (fun _ _ => False) := by
  rw [lsUptimeMs]
  refine (timestampMs_spec s).bind fun _ s₁ h₁ => ?_
  rw [sat_bind, sat_getRam, sat_pure]
  exact h₁

end

/-! ### What the encoder does to the runtime -/

/-- The encoder changes the nonce of the runtime and the sequence number in the boot state,
at whichever exit. -/
def Encoded (rt rt' : Runtime) : Prop :=
  ∃ nonce last, rt' = { rt with lastEnvelopeNonce := nonce
                                persistent := { rt.persistent with lastSequence := last } }

lemma Encoded.refl (rt : Runtime) : Encoded rt rt := ⟨_, _, rfl⟩

lemma Encoded.trans {rt₁ rt₂ rt₃ : Runtime} (h : Encoded rt₁ rt₂) (h' : Encoded rt₂ rt₃) :
    Encoded rt₁ rt₃ := by
  obtain ⟨nonce, last, rfl⟩ := h
  obtain ⟨nonce', last', rfl⟩ := h'
  exact ⟨nonce', last', rfl⟩

/-- The same of the state of the encoder. -/
abbrev EncodedState (s s' : EncodeState) : Prop := Encoded s.runtime s'.runtime

section Encoder

lemma encoded_bind {α β : Type} {x : EnvelopeM α} {f : α → EnvelopeM β}
    (hx : Keeps EncodedState x) (hf : ∀ a, Keeps EncodedState (f a)) :
    Keeps EncodedState (x >>= f) := hx.bind (fun _ _ _ => .trans) hf

lemma encoded_store (off : ℕ) (bytes : List UInt8) : Keeps EncodedState (store off bytes) :=
  keeps_modify fun s => .refl s.runtime

lemma encoded_load (off len : ℕ) : Keeps EncodedState (load off len) :=
  ⟨fun s => sat_load.mpr (.refl s.runtime)⟩

lemma encoded_wipe {α : Type} (len : ℕ) (e : Errno) :
    Keeps EncodedState (wipe len e : EnvelopeM α) :=
  encoded_bind (keeps_modify fun s => .refl s.runtime)
    fun _ => keeps_throw (fun s => .refl s.runtime) e

lemma encoded_get : Keeps EncodedState (get : EnvelopeM EncodeState) :=
  keeps_get fun s => .refl s.runtime

lemma encoded_sealAead (c : Crypto) (random : Except Errno Nonce) (sequence eventId : UInt32)
    (payloadLength : ℕ) :
    Keeps EncodedState (sealAead c random sequence eventId payloadLength) := by
  refine encoded_bind encoded_get fun t => ?_
  cases random with
  | error e => exact encoded_wipe _ _
  | ok nonce =>
      refine encoded_bind (encoded_store _ _) fun _ => Keeps.ite (fun _ => encoded_wipe _ _) fun _ => ?_
      refine encoded_bind (encoded_store _ _) fun _ => ?_
      cases envelopeKey c t.runtime t.runtime.securityPolicy.keyId sequence eventId with
      | error e => exact encoded_wipe _ _
      | ok derived =>
          refine encoded_bind (encoded_load _ _) fun aad => encoded_bind (encoded_load _ _) fun plain => ?_
          cases c.encrypt derived nonce.val aad plain with
          | error e =>
              refine encoded_bind (encoded_store _ _) fun _ => encoded_bind (encoded_store _ _) fun _ => ?_
              exact encoded_wipe _ _
          | ok sealed =>
              refine encoded_bind (encoded_store _ _) fun _ => encoded_bind (encoded_store _ _) fun _ => ?_
              refine encoded_bind (encoded_load _ _) fun _ => encoded_bind (encoded_store _ _) fun _ => ?_
              exact keeps_modify fun s => ⟨_, _, rfl⟩

lemma encoded_sealPlain (c : Crypto) (payloadLength : ℕ) :
    Keeps EncodedState (sealPlain c payloadLength) := by
  have hend (f : EncodeState → ℕ) :
      Keeps EncodedState (modify fun s => { s with length := f s } : EnvelopeM Unit) :=
    keeps_modify fun s => .refl s.runtime
  refine encoded_bind encoded_get fun t => encoded_bind (encoded_load _ _) fun payload => ?_
  refine encoded_bind (encoded_store _ _) fun _ => Keeps.ite (fun _ => ?_) fun _ => hend _
  exact encoded_bind (encoded_load _ _) fun _ => encoded_bind (encoded_store _ _) fun _ => hend _

/-- Every exit of `ls_envelope_encode`. -/
lemma encoded_lsEnvelopeEncode (b : Build) (c : Crypto) (bb : Blackbox) (mem : ℕ → UInt8)
    (uptimeMs : UInt32) (random : Except Errno Nonce) (event : Event) (capacity : ℕ)
    (sequence : UInt32) :
    Keeps EncodedState
      (lsEnvelopeEncode b c bb mem uptimeMs random event capacity sequence) := by
  refine encoded_bind encoded_get fun t => Keeps.ite (fun _ => ?_) fun _ => ?_
  · exact keeps_throw (fun s => .refl s.runtime) _
  cases putPayload b t.runtime bb mem uptimeMs event (payloadWriter t.runtime capacity) with
  | error e payload => exact encoded_bind (encoded_store _ _) fun _ => encoded_wipe _ _
  | ok u payload =>
      refine encoded_bind (encoded_store _ _) fun _ => Keeps.ite (fun _ => encoded_wipe _ _) fun _ => ?_
      refine encoded_bind (encoded_store _ _) fun _ => encoded_bind ?_ fun _ => ?_
      · exact Keeps.ite (fun _ => encoded_sealAead c random _ _ _) fun _ => encoded_sealPlain c _
      · exact keeps_modify fun s => ⟨_, _, rfl⟩

end Encoder

end Latch
