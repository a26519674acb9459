
/-
Image stores: a driver that keeps one logical image in the slots of a raw device,
and runs of such a driver under faults, cuts of the power and reboots.

`Change` is a call of the write or erase callback of the driver's backend, `Driver`
collects its functions, and `Driver.step` runs one of them. A run also keeps what a
specification of the store speaks about: the value a reader of the open session must
see, and the history of the images that may be recovered.

* `Driver.Sound`: what initialisation and a change must do to the slots.
* `Driver.step_refines`: a step of a sound driver is a step of a store of
  versioned slots (`Versioned.Step`).
* `Driver.run_inv`: hence the invariant of such a store holds in every run.
-/
import Latch.Storage.Slot

namespace Latch

open Exec Versioned

variable {η ρ α : Type}

/-! ### Changes of the image -/

/-- A call of the write or the erase callback. -/
inductive Change where
  | write (offset : ℕ) (source : List UInt8)
  | erase (offset length : ℕ)
  deriving DecidableEq, Repr

/-- Where a change starts. -/
def Change.offset : Change → ℕ
  | .write offset _ => offset
  | .erase offset _ => offset

/-- The bytes a change puts there. -/
def Change.bytes : Change → List UInt8
  | .write _ source => source
  | .erase _ length => List.replicate length 0xff

/-- The change lies inside an image of `cap` bytes. -/
def Change.Within (c : Change) (cap : ℕ) : Prop :=
  c.offset ≤ cap ∧ c.bytes.length ≤ cap - c.offset

instance (c : Change) (cap : ℕ) : Decidable (c.Within cap) :=
  inferInstanceAs (Decidable (_ ∧ _))

/-- The image after a change. -/
def Change.apply (c : Change) (image : List UInt8) : List UInt8 :=
  image.take c.offset ++ c.bytes ++ image.drop (c.offset + c.bytes.length)

lemma Change.apply_length {c : Change} {cap : ℕ} {image : List UInt8} (h : c.Within cap)
    (hl : image.length = cap) : (c.apply image).length = cap := by
  obtain ⟨h1, h2⟩ := h
  simp only [Change.apply, List.length_append, List.length_take, List.length_drop]
  omega

/-! ### Drivers and their runs -/

/-- The functions of a driver: initialisation, a change, a read and a sync of its backend. The
slots it keeps are described by `format`, `layout`, `cap` and `count`; `target` is the slot
that the next change goes to. -/
structure Driver (η ρ : Type) where
  format : Format η
  layout : Layout
  cap : ℕ
  count : ℕ
  blank : ρ
  active : ρ → ℕ
  generation : ρ → UInt32
  target : ρ → ℕ
  init : DriverM ρ Unit
  change : Change → DriverM ρ Unit
  read : ℕ → ℕ → DriverM ρ (List UInt8)
  sync : DriverM ρ Unit

/-- The slots of a medium. -/
def Driver.slots (D : Driver η ρ) (m : ℕ → UInt8) : Slots (List UInt8) :=
  D.format.slots D.layout D.cap m

/-- The image a reader sees: the payload of the active slot. -/
def Driver.image (D : Driver η ρ) (r : ρ) (m : ℕ → UInt8) : List UInt8 :=
  Medium.read m (D.active r * D.layout.slotSize + D.layout.payloadOffset) D.cap

/-- A store in the course of a run: the device, the open session if there is one, with the
value its readers must see, and the images that may be recovered. -/
structure Store (ρ : Type) where
  dev : Device
  session : Option (ρ × List UInt8)
  history : Versioned.History (List UInt8)

/-- A device as it is found. -/
def Store.start (d : Device) : Store ρ := ⟨d, none, .empty⟩

/-- A call to the driver. -/
inductive StoreOp where
  | init
  | change (c : Change)
  | read (offset length : ℕ)
  | sync
  deriving DecidableEq, Repr

/-- The session after an error; a cut of the power ends it. -/
def sessionAfter (e : Halt Errno) (r : ρ) (v : List UInt8) : Option (ρ × List UInt8) :=
  match e with
  | .fail _ => some (r, v)
  | .cut => none

/-- A call that only looks at the device. -/
def lookStep (s : Store ρ) (r : ρ) (v : List UInt8) (x : DriverM ρ α) : Store ρ :=
  match x ⟨s.dev, r⟩ with
  | .ok _ s' => ⟨s'.dev, some (s'.ram, v), s.history⟩
  | .error e s' => ⟨s'.dev, sessionAfter e s'.ram v, s.history⟩

/-- Initialisation opens a session on the image it finds; a failed one leaves none. -/
def Driver.initStep (D : Driver η ρ) (s : Store ρ) : Store ρ :=
  match D.init ⟨s.dev, D.blank⟩ with
  | .ok _ s' =>
      let x := D.image s'.ram s'.dev.medium
      ⟨s'.dev, some (s'.ram, x), s.history.opened x⟩
  | .error _ s' => ⟨s'.dev, none, s.history⟩

/-- A change that is reported as done becomes the value and the durable image; one that is
not is an attempt, unless it lies outside the image and is refused. -/
def Driver.changeStep (D : Driver η ρ) (s : Store ρ) (r : ρ) (v : List UInt8) (c : Change) :
    Store ρ :=
  match D.change c ⟨s.dev, r⟩ with
  | .ok _ s' => ⟨s'.dev, some (s'.ram, c.apply v), .updated (c.apply v)⟩
  | .error e s' =>
      ⟨s'.dev, sessionAfter e s'.ram v,
        if c.Within D.cap then s.history.attempted (c.apply v) else s.history⟩

/-- One call; without an open session there is no backend to call. -/
def Driver.step (D : Driver η ρ) (op : StoreOp) (s : Store ρ) : Store ρ :=
  match op, s.session with
  | .init, _ => D.initStep s
  | .change c, some (r, v) => D.changeStep s r v c
  | .read offset length, some (r, v) => lookStep s r v (D.read offset length)
  | .sync, some (r, v) => lookStep s r v D.sync
  | _, none => s

/-- A sequence of calls. -/
def Driver.run (D : Driver η ρ) (ops : List StoreOp) (s : Store ρ) : Store ρ :=
  ops.foldl (fun s op => D.step op s) s

/-- The store after a sequence of calls over a device as it is found. Irreducible, so that
a concrete run is never evaluated by unification. -/
@[irreducible] def Driver.after (D : Driver η ρ) (d : Device) (ops : List StoreOp) : Store ρ :=
  D.run ops (.start d)

/-- Every call of a sequence meets a condition on the store before it. -/
def Driver.RunMeets (D : Driver η ρ) (C : Store ρ → StoreOp → Prop) :
    List StoreOp → Store ρ → Prop
  | [], _ => True
  | op :: ops, s => C s op ∧ D.RunMeets C ops (D.step op s)

lemma Driver.runMeets_of_forall {D : Driver η ρ} {C : Store ρ → StoreOp → Prop}
    (h : ∀ s op, C s op) (ops : List StoreOp) (s : Store ρ) : D.RunMeets C ops s := by
  induction ops generalizing s with
  | nil => trivial
  | cons op ops ih => exact ⟨h s op, ih _⟩

/-- A device of erased bytes. -/
def Device.erased (faults : ℕ → Request → Fault) : Device := ⟨fun _ => 0xff, faults, []⟩

/-- A small NOR device for examples: three erase units of 32 bytes, programmed byte-wise. -/
def smallNor : Backend :=
  { sizeMax := 0xffffffff, capacity := 96, eraseSize := 32, writeSize := 1, hasRead := true
    hasWrite := true, hasErase := true, hasSync := true, enforceNor := true
    capacity_le := by decide, eraseSize_le := by decide, writeSize_le := byte_le }

/-! ### Sound drivers -/

/-- What initialisation does where it succeeds: it selects a slot by generation, or writes
a first image into an empty store. -/
def Driver.Opens (D : Driver η ρ) (m m' : ℕ → UInt8) (r' : ρ) : Prop :=
  (∃ x, D.slots m' = D.slots m ∧
    select D.count (D.slots m) = some (D.active r', D.generation r', x)) ∨
  ∃ x, select D.count (D.slots m) = none ∧ D.active r' < D.count ∧
    Versioned.Written (D.slots m) (D.slots m') (D.active r') (D.generation r', x)

/-- What initialisation does where it fails: nothing, or a part of a first image. -/
def Driver.FailsToOpen (D : Driver η ρ) (m m' : ℕ → UInt8) : Prop :=
  D.slots m' = D.slots m ∨
  ∃ t v, select D.count (D.slots m) = none ∧ t < D.count ∧ Torn (D.slots m) (D.slots m') t v

/-- What a change of the image `v` does where it succeeds: the next generation of the patched
image goes into the target slot. -/
def Driver.Changes (D : Driver η ρ) (c : Change) (v : List UInt8) (s s' : System ρ) : Prop :=
  D.active s'.ram = D.target s.ram ∧ D.generation s'.ram = D.generation s.ram + 1 ∧
    Versioned.Written (D.slots s.dev.medium) (D.slots s'.dev.medium) (D.target s.ram)
      (D.generation s.ram + 1, c.apply v)

/-- What a change does where it fails: a part of that, and nothing if it is out of bounds. -/
def Driver.FailsToChange (D : Driver η ρ) (c : Change) (v : List UInt8) (s s' : System ρ) :
    Prop :=
  D.active s'.ram = D.active s.ram ∧ D.generation s'.ram = D.generation s.ram ∧
    if c.Within D.cap then
      Torn (D.slots s.dev.medium) (D.slots s'.dev.medium) (D.target s.ram)
        (D.generation s.ram + 1, c.apply v)
    else D.slots s'.dev.medium = D.slots s.dev.medium

lemma Driver.FailsToChange.refused {D : Driver η ρ} {c : Change} (v : List UInt8) (s : System ρ)
    (h : ¬ c.Within D.cap) : D.FailsToChange c v s s :=
  ⟨rfl, rfl, by rw [if_neg h]⟩

lemma Driver.FailsToChange.torn {D : Driver η ρ} {c : Change} {v : List UInt8} {s s' : System ρ}
    (h : c.Within D.cap) (ha : D.active s'.ram = D.active s.ram)
    (hg : D.generation s'.ram = D.generation s.ram)
    (ht : Torn (D.slots s.dev.medium) (D.slots s'.dev.medium) (D.target s.ram)
      (D.generation s.ram + 1, c.apply v)) : D.FailsToChange c v s s' :=
  ⟨ha, hg, by rw [if_pos h]; exact ht⟩

/-- What a driver must do to the slots. `Wf` holds of the memory of every open session. -/
structure Driver.Sound (D : Driver η ρ) (Wf : ρ → Prop) : Prop where
  init : ∀ s : System ρ, Sat D.init s
    (fun _ s' => Wf s'.ram ∧ D.Opens s.dev.medium s'.dev.medium s'.ram)
    (fun _ s' => D.FailsToOpen s.dev.medium s'.dev.medium)
  change : ∀ (c : Change) (s : System ρ) (v : List UInt8), Wf s.ram →
    D.slots s.dev.medium (D.active s.ram) = some (D.generation s.ram, v) →
    Sat (D.change c) s (fun _ s' => Wf s'.ram ∧ D.Changes c v s s')
      (fun _ s' => Wf s'.ram ∧ D.FailsToChange c v s s')
  /-- The target slot is another one than the active slot. -/
  target : ∀ r, Wf r → D.target r < D.count ∧ D.target r ≠ D.active r
  /-- A read returns bytes of the image and changes nothing. -/
  read : ∀ (offset length : ℕ) (s : System ρ), Wf s.ram → Sat (D.read offset length) s
    (fun bs s' => s.dev.Looked s'.dev ∧ s'.ram = s.ram ∧ offset + length ≤ D.cap ∧
      bs = Medium.read s.dev.medium
        (D.active s.ram * D.layout.slotSize + D.layout.payloadOffset + offset) length)
    (fun _ s' => s.dev.Looked s'.dev ∧ s'.ram = s.ram)
  sync : ∀ s : System ρ, Sat D.sync s
    (fun _ s' => s.dev.Looked s'.dev ∧ s'.ram = s.ram)
    (fun _ s' => s.dev.Looked s'.dev ∧ s'.ram = s.ram)

/-- The store of versioned slots that a store implements. -/
def Driver.abs (D : Driver η ρ) (s : Store ρ) : State (List UInt8) :=
  ⟨D.slots s.dev.medium,
    s.session.map fun p => ⟨D.active p.1, D.generation p.1, p.2⟩, s.history⟩

/-- No slot before the target of the next change has a generation newer than the session's. -/
def Driver.Clear (D : Driver η ρ) (s : Store ρ) : Prop :=
  ∀ u ∈ s.session, ∀ i < D.target u.1, ∀ p ∈ D.slots s.dev.medium i,
    ¬ Serial.Newer p.1 (D.generation u.1)

instance (D : Driver η ρ) (s : Store ρ) : Decidable (D.Clear s) :=
  inferInstanceAs (Decidable (∀ u ∈ s.session, ∀ i < D.target u.1, ∀ p ∈ D.slots s.dev.medium i,
    ¬ Serial.Newer p.1 (D.generation u.1)))

/-- The invariant of a run. -/
structure Driver.Inv (D : Driver η ρ) (Wf : ρ → Prop) (s : Store ρ) : Prop where
  abs : Versioned.Inv D.count (D.abs s)
  wf : ∀ r v, s.session = some (r, v) → Wf r

section

variable {D : Driver η ρ} {Wf : ρ → Prop}

variable {s : Store ρ} {r : ρ} {v : List UInt8}

lemma Driver.inv_start (d : Device) : D.Inv Wf (.start d) :=
  ⟨Versioned.inv_start _ _, fun _ _ h => by cases h⟩

/-- An open session holds its value in the active slot. -/
lemma Driver.Inv.held (hi : D.Inv Wf s)
    (hs : s.session = some (r, v)) :
    Held D.count (D.slots s.dev.medium) s.history ⟨D.active r, D.generation r, v⟩ :=
  hi.abs.held _ (by simp [Driver.abs, hs])

/-- The value of an open session is what its active slot reads as. -/
lemma Driver.Inv.image_eq (hi : D.Inv Wf s)
    (hs : s.session = some (r, v)) : D.image r s.dev.medium = v :=
  view_image (hi.held hs).active

/-- What initialisation opens after a run is in the history of the run. -/
lemma Driver.Inv.opened_allows (hi : D.Inv Wf s) {s' : System ρ}
    (h : D.Opens s.dev.medium s'.dev.medium s'.ram) :
    s.history.durable = none ∨ s.history.Allows (D.image s'.ram s'.dev.medium) := by
  by_cases hd : s.history.durable = none
  · exact .inl hd
  right
  obtain ⟨i, g, x, hsel, hallow⟩ := hi.abs.recoverable hd
  rcases h with ⟨y, hslots, hsel'⟩ | ⟨y, hsel', -⟩
  · have heq := hsel.symm.trans hsel'
    cases heq
    have hcell : D.slots s'.dev.medium (D.active s'.ram) = some (D.generation s'.ram, x) := by
      rw [hslots]
      exact select_mem hsel'
    rw [Driver.image, view_image hcell]
    exact hallow
  · have heq := hsel.symm.trans hsel'
    cases heq

/-- A call that only looks keeps the store or closes it. -/
lemma lookStep_refines {x : DriverM ρ α}
    (hi : D.Inv Wf s) (hs : s.session = some (r, v))
    (hx : Sat x ⟨s.dev, r⟩ (fun _ s' => s.dev.Looked s'.dev ∧ s'.ram = r)
      (fun _ s' => s.dev.Looked s'.dev ∧ s'.ram = r)) :
    Step D.count (D.abs s) (D.abs (lookStep s r v x)) ∧
      ∀ r' v', (lookStep s r v x).session = some (r', v') → Wf r' := by
  have habs : ∀ d : Device, s.dev.Looked d →
      D.abs ⟨d, some (r, v), s.history⟩ = D.abs s ∧
        D.abs ⟨d, none, s.history⟩ = { D.abs s with session := none } := by
    intro d hd
    simp [Driver.abs, hd.medium, hs]
  unfold Sat at hx
  unfold lookStep
  cases hr : x ⟨s.dev, r⟩ with
  | ok a s' =>
      rw [hr] at hx
      obtain ⟨hd, hr'⟩ := hx
      dsimp only
      rw [hr', (habs _ hd).1]
      refine ⟨.stay, fun r' v' h => ?_⟩
      cases h
      exact hi.wf _ _ hs
  | error e s' =>
      rw [hr] at hx
      obtain ⟨hd, hr'⟩ := hx
      cases e with
      | fail e =>
          dsimp only [sessionAfter]
          rw [hr', (habs _ hd).1]
          refine ⟨.stay, fun r' v' h => ?_⟩
          cases h
          exact hi.wf _ _ hs
      | cut =>
          dsimp only [sessionAfter]
          rw [(habs _ hd).2]
          exact ⟨.closed, fun r' v' h => by cases h⟩

/-- Initialisation opens the slot that the scan selects, or a freshly written one. -/
lemma initStep_refines (hD : D.Sound Wf) (s : Store ρ) :
    Step D.count (D.abs s) (D.abs (D.initStep s)) ∧
      ∀ r v, (D.initStep s).session = some (r, v) → Wf r := by
  have hx := hD.init ⟨s.dev, D.blank⟩
  unfold Sat at hx
  unfold Driver.initStep
  cases hr : D.init ⟨s.dev, D.blank⟩ with
  | ok a s' =>
      rw [hr] at hx
      obtain ⟨hwf, hx⟩ := hx
      refine ⟨?_, fun r v h => by cases h; exact hwf⟩
      rcases hx with ⟨x, hslots, hsel⟩ | ⟨x, hsel, hlt, hw⟩
      · have hcell : D.slots s'.dev.medium (D.active s'.ram) = some (D.generation s'.ram, x) := by
          rw [hslots]
          exact select_mem hsel
        have himage : D.image s'.ram s'.dev.medium = x := view_image hcell
        have habs : D.abs ⟨s'.dev, some (s'.ram, x), s.history.opened x⟩ =
            ⟨D.slots s.dev.medium, some ⟨D.active s'.ram, D.generation s'.ram, x⟩,
              s.history.opened x⟩ := by
          simp [Driver.abs, hslots]
        simp only [himage, habs]
        exact .opened hsel
      · have himage : D.image s'.ram s'.dev.medium = x := view_image hw.2
        simp only [himage]
        exact .formatted hsel hlt hw
  | error e s' =>
      rw [hr] at hx
      refine ⟨?_, fun r v h => by cases h⟩
      rcases hx with hslots | ⟨t, v, hsel, ht, hw⟩
      · have habs : D.abs ⟨s'.dev, none, s.history⟩ = { D.abs s with session := none } := by
          simp [Driver.abs, hslots]
        simp only [habs]
        exact .closed
      · exact .formatTorn hsel ht hw

/-- A change is an update of the target slot, or an attempt at one. -/
lemma changeStep_refines (hD : D.Sound Wf) (hi : D.Inv Wf s) (hs : s.session = some (r, v)) (c : Change) (hclear : D.Clear s) :
    Step D.count (D.abs s) (D.abs (D.changeStep s r v c)) ∧
      ∀ r' v', (D.changeStep s r v c).session = some (r', v') → Wf r' := by
  have hwf := hi.wf r v hs
  obtain ⟨htlt, htne⟩ := hD.target r hwf
  have hu : (D.abs s).session = some ⟨D.active r, D.generation r, v⟩ := by
    simp [Driver.abs, hs]
  have hx := hD.change c ⟨s.dev, r⟩ v hwf (hi.held hs).active
  unfold Sat at hx
  unfold Driver.changeStep
  cases hr : D.change c ⟨s.dev, r⟩ with
  | ok a s' =>
      rw [hr] at hx
      obtain ⟨hwf', hact, hgen, hw⟩ := hx
      refine ⟨?_, fun r v h => by cases h; exact hwf'⟩
      have habs : D.abs ⟨s'.dev, some (s'.ram, c.apply v), .updated (c.apply v)⟩ =
          ⟨D.slots s'.dev.medium, some ⟨D.target r, D.generation r + 1, c.apply v⟩,
            .updated (c.apply v)⟩ := by
        simp [Driver.abs, hact, hgen]
      rw [habs]
      exact .updated hu htlt htne hw (hclear (r, v) hs)
  | error e s' =>
      rw [hr] at hx
      obtain ⟨hwf', hact, hgen, hw⟩ := hx
      constructor
      · -- an error keeps the session, a cut of the power ends it
        have hses : ∀ h, ∃ o, (o = some ⟨D.active r, D.generation r, v⟩ ∨ o = none) ∧
            D.abs ⟨s'.dev, sessionAfter e s'.ram v, h⟩ = ⟨D.slots s'.dev.medium, o, h⟩ := by
          intro h
          cases e with
          | fail e => exact ⟨_, .inl rfl, by simp [Driver.abs, sessionAfter, hact, hgen]⟩
          | cut => exact ⟨_, .inr rfl, rfl⟩
        split at hw
        case isTrue hin =>
          obtain ⟨o, ho, habs⟩ := hses (s.history.attempted (c.apply v))
          simp only [if_pos hin, habs]
          exact .attempted hu htlt htne hw ho
        case isFalse hout =>
          obtain ⟨o, ho, habs⟩ := hses s.history
          simp only [if_neg hout, habs, hw]
          rcases ho with rfl | rfl
          · rw [← hu]
            exact .stay
          · exact .closed
      · intro r' v' h
        cases e with
        | fail e => cases h; exact hwf'
        | cut => cases h

/-- **Refinement.** A call to a sound driver is a step of a store of versioned slots. -/
theorem Driver.step_refines (hD : D.Sound Wf) (hi : D.Inv Wf s) (op : StoreOp)
    (hclear : ∀ c, op = .change c → D.Clear s) :
    Step D.count (D.abs s) (D.abs (D.step op s)) ∧
      ∀ r v, (D.step op s).session = some (r, v) → Wf r := by
  unfold Driver.step
  cases hs : s.session with
  | none =>
      cases op with
      | init => exact initStep_refines hD s
      | _ => exact ⟨.stay, fun r v h => by rw [hs] at h; cases h⟩
  | some p =>
      obtain ⟨r, v⟩ := p
      cases op with
      | init => exact initStep_refines hD s
      | change c => exact changeStep_refines hD hi hs c (hclear c rfl)
      | read offset length =>
          exact lookStep_refines hi hs ((hD.read offset length ⟨s.dev, r⟩ (hi.wf r v hs)).mono
            fun _ _ h => ⟨h.1, h.2.1⟩)
      | sync => exact lookStep_refines hi hs (hD.sync ⟨s.dev, r⟩)

/-- The invariant of every run whose states have comparable generations and whose changes
are clear. -/
theorem Driver.run_inv (hD : D.Sound Wf) {C : Store ρ → StoreOp → Prop}
    (hC : ∀ s op, C s op → D.Inv Wf s →
      Comparable D.count (D.slots s.dev.medium) ∧
      Comparable D.count (D.slots (D.step op s).dev.medium) ∧
      ∀ c, op = .change c → D.Clear s)
    {ops : List StoreOp} (hm : D.RunMeets C ops s) (hi : D.Inv Wf s) :
    D.Inv Wf (D.run ops s) := by
  induction ops generalizing s with
  | nil => exact hi
  | cons op ops ih =>
      obtain ⟨hc, hm⟩ := hm
      obtain ⟨hc1, hc2, hclear⟩ := hC _ _ hc hi
      obtain ⟨hstep, hwf⟩ := Driver.step_refines hD hi op hclear
      exact ih hm ⟨hstep.inv hc1 hc2 hi.abs, hwf⟩

end

end Latch
