
/-
When a capture of an urgent event returns.

On a healthy device with a free slot, and without a key and a mission, `ls_capture_event` fails
for one reason only: the required fields of the event do not fit `LS_MAX_EVENT_SIZE`.

* `Encodes.appendable`: what the encoder leaves passes the checks of `ls_spool_append`;
* `Roomy`: every storage call of an append succeeds, and there is a slot for an emergency;
* `lsCaptureEvent_room`: the capture of an emergency on such a device;
* `bootStarted_spec`: `ls_boot` comes to its recoveries with such a device.
-/
import Latch.Core.Frame
import Latch.Envelope.Room
import Latch.Spool.Usable

namespace Latch

open Exec Spool

variable {bd : Build} {b : Backend} {c : Crypto}

variable {s : System Machine} {sequence : UInt32} {d d' : Device}

/-! ### The envelope of a capture -/

/-- What the encoder leaves is an envelope that the spool takes. -/
lemma Encodes.appendable {event : Event} {data : List UInt8}
    (h : Encodes bd c event sequence data) :
    0 < data.length ∧ data.length ≤ bd.maxEventSize ∧
      ∃ info, lsEnvelopeValidate data = .ok info ∧ info.type = event.type.code := by
  obtain ⟨rt, bb, mem, uptimeMs, random, t, hok, rfl⟩ := h
  obtain ⟨payload, hpay, hsmall, hcap, -, eventId, metadata, body, authentication, hsealed, hread⟩ :=
    sat_of_ok (lsEnvelopeEncode_spec bd c bb mem uptimeMs random event bd.maxEventSize sequence _)
      hok
  obtain ⟨x, y, z, ts, -, -, -, -, -, hext⟩ :=
    sat_of_ok (putPayload_spec bd rt bb mem uptimeMs event _) hpay
  have hdata : payload.data = Tlv.encode ([x, y, z] ++ ts) := hext.data_eq
  have henv : Envelope c rt event.type.code (encodeArchitecture rt event) payload.truncated sequence
      eventId ([x, y, z] ++ ts) metadata body authentication := ⟨hdata ▸ hsmall, hdata ▸ hsealed⟩
  refine ⟨?_, by rwa [Medium.read_length], _, by rw [hread]; exact henv.validate, rfl⟩
  rw [hread, frame_length]
  exact Nat.lt_of_lt_of_le (by decide : 0 < lsLepHeaderSize) (by omega)

/-- The runtime has neither a key nor a mission, and captures nothing. -/
structure Runtime.Plain (rt : Runtime) : Prop where
  capturing : rt.capturing = false
  keyless : rt.securityKey = []
  mission : NoMission rt

/-- The required fields of the event fit an envelope. -/
def EventFits (bd : Build) (config : Config) (cpu : Option ArchContext) : Prop :=
  lsLepHeaderSize + requiredSize bd { (default : Runtime) with config := config }
    { (default : Event) with cpu := cpu } + 4 ≤ bd.maxEventSize

instance (bd : Build) (config : Config) (cpu : Option ArchContext) :
    Decidable (EventFits bd config cpu) := inferInstanceAs (Decidable (_ ≤ _))

lemma encodeEvent_room {event : Event} {sequence : UInt32} (s : System Machine)
    (hkey : s.ram.runtime.securityKey = []) (hmission : NoMission s.ram.runtime) :
    Sat (encodeEvent bd c event sequence) s
      (fun data s' => s'.dev = s.dev ∧ Encodes bd c event sequence data ∧
        EventFits bd s.ram.runtime.config event.cpu)
      (fun _ _ => ¬ EventFits bd s.ram.runtime.config event.cpu) := by
  have hfits : Sat (encodeEvent bd c event sequence) s
      (fun _ _ => EventFits bd s.ram.runtime.config event.cpu)
      (fun _ _ => ¬ EventFits bd s.ram.runtime.config event.cpu) := by
    rw [encodeEvent]
    refine (nextCall_spec s).bind fun n s₁ h₁ => ?_
    refine (lsUptimeMs_spec s₁).bind fun uptimeMs s₂ h₂ => ?_
    obtain ⟨d₁, m₁⟩ := s₁
    obtain ⟨d₂, m₂⟩ := s₂
    obtain ⟨rfl, k₁, rfl⟩ := h₁
    obtain ⟨rfl, k₂, rfl⟩ := h₂
    rw [sat_bind, sat_getRam, sat_encoding]
    have hsec : lsSecurityEnabled s.ram.runtime = false := by simp [lsSecurityEnabled, hkey]
    have hmax := bd.maxEventSize_lt
    exact (lsEnvelopeEncode_room hsec hmission (by omega)).mono (fun _ _ h => h)
      (fun _ _ h => Nat.not_le.mpr h)
  exact ((encodeEvent_spec s).and hfits).mono (fun _ _ h => ⟨h.1.1, h.1.2.1, h.2⟩)
    (fun _ _ h => h.2)

/-! ### Devices with room -/

/-- Every storage call of an append to the spool succeeds, and a slot is free for an
emergency. -/
structure Roomy (bd : Build) (b : Backend) (d : Device) : Prop where
  usable : usable bd b
  writes : b.Accepts (lsSpoolStorageSize bd b.sizeMax)
  healthy : d.Healthy
  clean : Clean bd d.medium
  free : ∃ i < slotLimitForPriority bd .emergency, ErasedHeader bd d.medium i

/-- A device on which the bytes of the spool stay. -/
lemma Roomy.of_same (h : Roomy bd b d) (hl : d.Later d')
    (hm : ∀ a < lsSpoolStorageSize bd b.sizeMax, d'.medium a = d.medium a) : Roomy bd b d' := by
  have hsame : ∀ i < bd.spoolMaxRecords, SameSlot bd d.medium d'.medium i := fun i hi a _ ha =>
    hm a (ha.trans_le (slotOffset_le_size h.usable hi))
  refine ⟨h.usable, h.writes, h.healthy.later hl, fun i hi => ?_, ?_⟩
  · exact clean_of_sameSlot (hsame i hi) (h.clean i hi)
  · obtain ⟨i, hi, he⟩ := h.free
    have hlt := hi.trans_le (slotLimit_le bd .emergency)
    refine ⟨i, hi, fun a h1 h2 => (hsame i hlt a h1 ?_).trans (he a h1 h2)⟩
    rw [recordSize]
    omega

lemma Roomy.looked (h : Roomy bd b d) (hd : d.Looked d') : Roomy bd b d' :=
  h.of_same hd.toLater fun _ _ => by rw [hd.medium]

/-- A spool that was renewed has room. -/
lemma Roomy.renewed (h : Roomy bd b d) (hl : d.Later d')
    (hr : Renewed bd b sequence d.medium d'.medium) : Roomy bd b d' := by
  have hsize : recordHeaderSize ≤ recordSize bd := Nat.le_add_right _ _
  refine ⟨h.usable, h.writes, h.healthy.later hl, fun i hi => .inr fun a h1 h2 => ?_, ?_⟩
  · refine hr.erasedSlot h.usable hi a ?_ h2
    rw [payloadOffset] at h1
    omega
  · obtain ⟨i, hi, -⟩ := h.free
    refine ⟨i, hi, fun a h1 h2 => ?_⟩
    exact hr.erasedSlot h.usable (hi.trans_le (slotLimit_le bd .emergency)) a h1 (by omega)

/-- An append of an envelope to a spool with room. -/
lemma lsSpoolAppend_room {s : System Node} (h : Roomy bd b s.dev) {event : Event} {data : List UInt8} (hdata : Encodes bd c event sequence data) :
    Completes (lsSpoolAppend bd (some b) data .emergency) s := by
  obtain ⟨hpos, hlen, info, hv, -⟩ := hdata.appendable
  rw [lsSpoolAppend, if_neg (by omega), onStorage, if_pos h.usable, hv]
  refine (spoolAppend_completes h.usable h.writes h.healthy h.clean hlen h.free info).bind
    (spoolAppend_spec s hlen .emergency info) fun _ s₁ _ => ?_
  rw [Completes, sat_modifyRam]
  trivial

/-! ### The capture -/

/-- A capture changes nothing in retained memory. -/
lemma lsCaptureEvent_retained (event : Event) (s : System Machine) :
    Sat (lsCaptureEvent bd c event) s (fun _ s' => s'.ram.retained = s.ram.retained)
      (fun _ s' => s'.ram.retained = s.ram.retained) := by
  have hworked {m : Machine} (h : s.ram.begun.Worked m) : m.retained = s.ram.retained := by
    obtain ⟨rt, k, -, rfl⟩ := h
    rfl
  refine (lsCaptureEvent_spec s).mono (fun _ s' h => ?_) (fun e s' h => ?_)
  · obtain ⟨-, m, hm, h⟩ := h
    have hkept := hworked hm
    obtain ⟨-, rfl⟩ | ⟨data, t, -, -, rfl⟩ := h <;> exact hkept
  · obtain ⟨-, -, rfl⟩ | ⟨-, m, hm, h⟩ := h
    · rfl
    have hkept := hworked hm
    obtain rfl | ⟨data, t, -, -, rfl | ⟨-, rfl⟩⟩ := h <;> exact hkept

/-- The filter lets an emergency pass, so it is encoded and appended. -/
lemma captureFiltered_fits {event : Event} {sequence : UInt32} {s : System Machine}
    (happend : ∀ (t : System Node) (event : Event) (data : List UInt8), t.dev = s.dev →
      Encodes bd c event sequence data →
      Completes (lsSpoolAppend bd s.ram.storage data .emergency) t)
    (hkey : s.ram.runtime.securityKey = []) (hmission : NoMission s.ram.runtime)
    (hp : event.priority = .emergency) :
    Sat (captureFiltered bd c event sequence) s
      (fun _ _ => EventFits bd s.ram.runtime.config event.cpu)
      (fun _ _ => ¬ EventFits bd s.ram.runtime.config event.cpu) := by
  have hpass : (lsPolicyApply bd s.ram.runtime event).1 = true :=
    lsPolicyApply_urgent bd _ (by rw [hp]; decide)
  have hpriority : (lsPolicyApply bd s.ram.runtime event).2.1.priority = .emergency := hp
  rw [captureFiltered, sat_bind, sat_getRam, sat_bind, sat_updateRuntime, if_pos hpass, sat_bind]
  have hencode := @encodeEvent_room bd c (lsPolicyApply bd s.ram.runtime event).2.1 sequence
    ⟨s.dev, s.ram.setRuntime (lsPolicyApply bd s.ram.runtime event).2.2⟩ hkey hmission
  refine hencode.mono fun data s₁ h₁ => ?_
  obtain ⟨hd, hdata, hfits⟩ := h₁
  rw [sat_onNode, hpriority]
  exact Sat.mono (happend ⟨s₁.dev, s₁.ram.node⟩ _ data hd hdata) (fun _ _ _ => hfits)
    (fun _ _ h => h.elim)

/-- **When the capture of an emergency returns**, if what the encoder leaves can be
appended. -/
lemma lsCaptureEvent_fits {event : Event} {s : System Machine}
    (happend : ∀ (t : System Node) (event : Event) (sequence : UInt32) (data : List UInt8),
      t.dev = s.dev → Encodes bd c event sequence data →
      Completes (lsSpoolAppend bd s.ram.storage data .emergency) t)
    (hrt : s.ram.runtime.Plain) (hp : event.priority = .emergency) :
    Sat (lsCaptureEvent bd c event) s
      (fun _ _ => EventFits bd s.ram.runtime.config event.cpu)
      (fun _ _ => ¬ EventFits bd s.ram.runtime.config event.cpu) := by
  rw [lsCaptureEvent, sat_bind, sat_getRam, if_neg (by rw [hrt.capturing]; exact Bool.false_ne_true),
    sat_bind, sat_updateRuntime, sat_afterwards]
  refine (@captureFiltered_fits bd c event (s.ram.runtime.sequence + 1) ⟨s.dev, s.ram.begun⟩
    (fun t event data => happend t event _ data) hrt.keyless hrt.mission hp).mono (fun _ _ h => h)
    (fun e _ h => ?_)
  cases e with
  | cut => exact h
  | fail e => exact h

/-- The capture of an emergency to a device with room. -/
lemma lsCaptureEvent_room {event : Event} {s : System Machine} (hroom : Roomy bd b s.dev)
    (hs : s.ram.storage = some b) (hrt : s.ram.runtime.Plain) (hp : event.priority = .emergency) :
    Sat (lsCaptureEvent bd c event) s
      (fun _ _ => EventFits bd s.ram.runtime.config event.cpu)
      (fun _ _ => ¬ EventFits bd s.ram.runtime.config event.cpu) := by
  refine lsCaptureEvent_fits (fun t event sequence data ht hdata => ?_) hrt hp
  rw [hs]
  exact lsSpoolAppend_room (ht ▸ hroom) hdata

/-! ### The way to the recoveries -/

/-- `ls_boot` up to its recoveries; tells whether there is a retained snapshot. -/
def bootStarted (bd : Build) : MachineM Bool := do
  let m ← getRam
  if ¬ m.runtime.initialized then throw (.fail .einval)
  else do
    let retainedFault := (lsMinimalSnapshotRead m.retained).isSome
    onNode (lsSpoolInit bd m.storage)
    loadBoot bd
    let now ← timestampMs
    let info ← askResetInfo
    updateRuntime (bootCounted bd retainedFault now info)
    lsBootStateSave bd
    return retainedFault

lemma lsBoot_eq : lsBoot bd c = bootStarted bd >>= fun retainedFault =>
    recoverIf bd.enablePowerfailSeal (lsPowerfailRecover bd c) >>= fun _ =>
      recoverIf retainedFault (lsCaptureMinimalRecover bd c) := by
  rw [lsBoot, bootStarted, bind_assoc]
  congr 1
  funext m
  split
  · rfl
  · simp only [bind_assoc, pure_bind]

/-- The fields of the runtime that a boot leaves alone before its recoveries. -/
structure Runtime.Steady (rt rt' : Runtime) : Prop where
  config : rt'.config = rt.config
  capturing : rt'.capturing = rt.capturing
  key : rt'.securityKey = rt.securityKey
  mission : rt'.mission = rt.mission

lemma Runtime.Steady.trans {rt₁ rt₂ rt₃ : Runtime} (h : rt₁.Steady rt₂) (h' : rt₂.Steady rt₃) :
    rt₁.Steady rt₃ :=
  ⟨h'.config.trans h.config, h'.capturing.trans h.capturing, h'.key.trans h.key,
    h'.mission.trans h.mission⟩

lemma Runtime.Plain.steady {rt rt' : Runtime} (h : rt.Plain) (hs : rt.Steady rt') : rt'.Plain :=
  ⟨hs.capturing.trans h.capturing, hs.key.trans h.keyless, by
    rw [NoMission, hs.mission]; exact h.mission⟩

/-- A step of a boot keeps a device with room, the storage and the retained memory. -/
structure Steady (bd : Build) (b : Backend) (s s' : System Machine) : Prop where
  roomy : Roomy bd b s.dev → Roomy bd b s'.dev
  storage : s'.ram.storage = s.ram.storage
  retained : s'.ram.retained = s.ram.retained
  runtime : s.ram.runtime.Steady s'.ram.runtime

lemma Steady.trans {s₁ s₂ s₃ : System Machine} (h : Steady bd b s₁ s₂) (h' : Steady bd b s₂ s₃) :
    Steady bd b s₁ s₃ :=
  ⟨h'.roomy ∘ h.roomy, h'.storage.trans h.storage, h'.retained.trans h.retained,
    h.runtime.trans h'.runtime⟩

lemma steady_lsSpoolInit (hs : s.ram.storage = some b) :
    Returns (onNode (lsSpoolInit bd s.ram.storage)) s fun _ s' => Steady bd b s s' := by
  rw [Returns, sat_onNode, hs, lsSpoolInit, onStorage]
  refine .ite (fun hu => ?_) fun _ => .throw trivial
  refine (spoolInit_spec hu ⟨s.dev, s.ram.node⟩).mono fun _ t h => ?_
  obtain ⟨-, hd, hr⟩ | ⟨-, hr, hl, hren⟩ := h
  · refine ⟨fun hroom => hroom.looked hd, rfl, rfl, ?_⟩
    change s.ram.runtime.Steady t.ram.runtime
    rw [hr, Node.raised]
    dsimp only
    split <;> exact ⟨rfl, rfl, rfl, rfl⟩
  · refine ⟨fun hroom => hroom.renewed hl hren, rfl, rfl, ?_⟩
    change s.ram.runtime.Steady t.ram.runtime
    rw [hr]
    exact ⟨rfl, rfl, rfl, rfl⟩

lemma steady_loadBoot (s : System Machine) :
    Returns (loadBoot bd) s fun _ s' => Steady bd b s s' := by
  have hboot {m : Machine} (h : ∃ p loaded, m = s.ram.withBoot p loaded) {d : Device}
      (hd : s.dev.Looked d) : Steady bd b s ⟨d, m⟩ := by
    obtain ⟨p, loaded, rfl⟩ := h
    exact ⟨fun hroom => hroom.looked hd, rfl, rfl, rfl, rfl, rfl, rfl⟩
  refine (loadBoot_spec s).mono fun _ s' h => ?_
  obtain ⟨hd, ⟨-, hr⟩ | ⟨b', -, hr | ⟨-, hr | hr⟩⟩⟩ := h <;> exact hboot ⟨_, _, hr⟩ hd

/-- A question to the world. -/
lemma steady_of_asked {s' : System Machine} (hd : s'.dev = s.dev) (h : s.ram.Asked s'.ram) :
    Steady bd b s s' := by
  obtain ⟨k, hr⟩ := h
  refine ⟨fun hroom => by rwa [hd], ?_, ?_, ?_⟩ <;> rw [hr]
  exact ⟨rfl, rfl, rfl, rfl⟩

lemma steady_lsBootStateSave (hs : s.ram.storage = some b) :
    Returns (lsBootStateSave bd) s fun _ s' => Steady bd b s s' := by
  refine (lsBootStateSave_spec s (E := fun _ _ _ => True) fun _ _ _ =>
    (sat_run _ _).mono fun _ _ _ => trivial).mono
    fun _ s' h => ?_
  obtain ⟨s₁, ⟨rfl, -⟩ | ⟨b', p, hbegun, hm⟩, rfl⟩ := h
  · exact ⟨id, rfl, rfl, rfl, rfl, rfl, rfl⟩
  · obtain ⟨hs', -, ⟨k, hr⟩, hl⟩ := hbegun
    obtain rfl := Option.some.inj (hs'.symm.trans hs)
    refine ⟨fun hroom => hroom.of_same hl fun a ha => ?_, ?_, ?_, ?_⟩
    · change s₁.dev.medium a = s.dev.medium a
      rw [hm]
      exact Medium.write_of_lt ha
    · change s₁.ram.storage = _
      rw [hr]
      rfl
    · change s₁.ram.retained = _
      rw [hr]
      rfl
    · change s.ram.runtime.Steady s₁.ram.runtime
      rw [hr]
      exact ⟨rfl, rfl, rfl, rfl⟩

/-- **The way to the recoveries** keeps a device with room. -/
lemma bootStarted_spec (hs : s.ram.storage = some b) :
    Returns (bootStarted bd) s fun retainedFault s' =>
      retainedFault = (lsMinimalSnapshotRead s.ram.retained).isSome ∧ Steady bd b s s' := by
  rw [Returns, bootStarted, sat_bind, sat_getRam]
  refine .ite (fun _ => .throw trivial) fun _ => ?_
  refine (steady_lsSpoolInit hs).bind fun _ s₁ h₁ => ?_
  refine (steady_loadBoot (b := b) s₁).bind fun _ s₂ h₂ => ?_
  refine (timestampMs_spec s₂).bind fun now s₃ h₃ => ?_
  refine (askResetInfo_spec s₃).bind fun info s₄ h₄ => ?_
  rw [sat_bind, sat_updateRuntime, sat_bind]
  have hkept := ((h₁.trans h₂).trans (steady_of_asked h₃.1 h₃.2)).trans (steady_of_asked h₄.1 h₄.2)
  have hcounted : Steady bd b s₄ ⟨s₄.dev, s₄.ram.setRuntime (bootCounted bd
      (lsMinimalSnapshotRead s.ram.retained).isSome now info s₄.ram.runtime)⟩ :=
    ⟨id, rfl, rfl, rfl, rfl, rfl, rfl⟩
  have hkept := hkept.trans hcounted
  refine (steady_lsBootStateSave (hkept.storage.trans hs)).mono fun _ s₅ h₅ => ?_
  exact .pure ⟨rfl, hkept.trans h₅⟩

end Latch
