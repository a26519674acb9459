
/-
Runs of the spool, and what they do with intact evidence.

A run is a list of calls of `ls_spool_init`, `ls_spool_append` and `ls_spool_flush` with
resets in between. Seen as an outbox, the spool keeps an intact record until its payload
has been sent and accepted (`spool_retains`), as long as no flush fails to read the payload
of an intact record: such a record is acknowledged unsent (`flush_discards_unread`).
-/
import Latch.Spool.Flush

namespace Latch.Spool

open Exec

variable {bd : Build} {b : Backend}

/-! ### Runs -/

/-- A call of the spool, or a reset that leaves the given runtime. -/
inductive SpoolOp where
  | init
  | append (data : List UInt8) (priority : Priority)
  | flush
  | reset (runtime : Runtime)

/-- The function that is called. -/
def SpoolOp.run (bd : Build) (storage : Option Backend) : SpoolOp → SpoolM Unit
  | .init => lsSpoolInit bd storage
  | .append data priority => lsSpoolAppend bd storage data priority
  | .flush => lsSpoolFlush bd storage
  | .reset runtime => modifyRuntime fun _ => runtime

/-- The system after a call, by whichever exit. -/
def spoolStep (bd : Build) (storage : Option Backend) (op : SpoolOp) (s : System Node) :
    System Node :=
  leaves (op.run bd storage) s

/-- What a call of a run can do to the device and the transports. -/
inductive Moved (bd : Build) (storage : Option Backend) (s s' : System Node) : SpoolOp → Prop where
  | looked {op : SpoolOp} (dev : s.dev.Looked s'.dev)
      (transport : s'.ram.transport = s.ram.transport) : Moved bd storage s s' op
  | renewed {b : Backend} (found : storage = some b) (usable : usable bd b)
      (fresh : ¬ Initialised bd s.dev.medium) (dev : s.dev.Later s'.dev)
      (renewing : Renewing bd b s.ram.runtime.sequence s.dev s'.dev)
      (transport : s'.ram.transport = s.ram.transport) : Moved bd storage s s' .init
  | appended {b : Backend} {data : List UInt8} {priority : Priority} {info : EnvelopeInfo}
      (found : storage = some b) (usable : usable bd b)
      (valid : lsEnvelopeValidate data = .ok info)
      (length : 0 < data.length ∧ data.length ≤ bd.maxEventSize)
      (attempted : Attempted bd (slotLimitForPriority bd priority) s.dev s'.dev
        (newRecord data priority info) data)
      (transport : s'.ram.transport = s.ram.transport) :
      Moved bd storage s s' (.append data priority)
  | flushed {b : Backend} (found : storage = some b) (usable : usable bd b)
      (effects : Effects bd b s s') : Moved bd storage s s' .flush

variable {s s' : System Node} {storage : Option Backend} {e : Evidence} {i : ℕ} {op : SpoolOp}

/-- A call that finds no usable storage does not reach the device. -/
lemma onStorage_moved {storage : Option Backend} {x : Backend → SpoolM Unit} {s : System Node}
    {op : SpoolOp}
    (h : ∀ b, storage = some b → usable bd b → Sat (x b) s
      (fun _ s' => Moved bd storage s s' op) (fun _ s' => Moved bd storage s s' op)) :
    Sat (onStorage bd storage x) s (fun _ s' => Moved bd storage s s' op)
      (fun _ s' => Moved bd storage s s' op) := by
  have hsame : Moved bd storage s s op := .looked (.refl _) rfl
  cases storage with
  | none => exact .pure hsame
  | some b =>
      rw [onStorage, sat_ite]
      exact ⟨fun hu => h b rfl hu, fun _ => .throw hsame⟩

/-- **What a call can do.** -/
theorem spoolStep_moved (storage : Option Backend) (op : SpoolOp) (s : System Node) :
    Moved bd storage s (spoolStep bd storage op s) op := by
  refine Sat.leaves (P := fun s' => Moved bd storage s s' op) ?_
  cases op with
  | init =>
      refine onStorage_moved fun b hb hu => ?_
      refine (spoolInit_spec hu s).mono (fun _ s' h => ?_) (fun _ s' h => ?_)
      · rcases h with ⟨-, hl, hr⟩ | ⟨hi, hr, hl, hn⟩
        · exact .looked hl (by rw [hr]; rfl)
        · exact .renewed hb hu hi hl hn.renewing (by rw [hr])
      · obtain ⟨hr, hl | ⟨hi, hl, hn⟩⟩ := h
        · exact .looked hl (by rw [hr])
        · exact .renewed hb hu hi hl hn (by rw [hr])
  | append data priority =>
      rw [SpoolOp.run, lsSpoolAppend]
      refine .ite (fun _ => .throw (.looked (.refl _) rfl)) fun hlen => ?_
      rw [not_or, not_lt] at hlen
      have hpos : 0 < data.length := Nat.pos_of_ne_zero hlen.1
      rw [sat_bind]
      refine (@onStorage_moved _ _ _ _ (.append data priority) fun b hb hu => ?_).mono
        fun _ s₁ h₁ => ?_
      · cases hv : lsEnvelopeValidate data with
        | error e => exact .throw (.looked (.refl _) rfl)
        | ok info =>
            exact (spoolAppend_spec s hlen.2 priority info).mono
              (fun _ s' h => .appended hb hu hv ⟨hpos, hlen.2⟩ h.1.attempted h.2.transport)
              (fun _ s' h => .appended hb hu hv ⟨hpos, hlen.2⟩ h.1 h.2.transport)
      · rw [sat_modifyRam]
        cases h₁ with
        | looked dev transport => exact .looked dev transport
        | appended hb hu hv hlen att transport => exact .appended hb hu hv hlen att transport
  | flush =>
      refine onStorage_moved fun b hb hu => ?_
      have h := flush_effects hu s
      rw [lsSpoolFlush, onStorage, if_pos hu] at h
      exact h.mono (fun _ s' h => .flushed hb hu h) (fun _ s' h => .flushed hb hu h)
  | reset runtime =>
      rw [SpoolOp.run, modifyRuntime, sat_modifyRam]
      exact .looked (.refl _) rfl

lemma Effect.later (h : Effect bd b s s') : s.dev.Later s'.dev := by
  cases h with
  | looked dev _ => exact dev.toLater
  | marked _ _ _ _ dev _ _ => exact dev
  | acked _ _ _ dev _ _ _ => exact dev
  | renewed _ dev _ _ => exact dev

lemma Moved.later
    (h : Moved bd storage s s' op) : s.dev.Later s'.dev := by
  cases h with
  | looked dev _ => exact dev.toLater
  | renewed _ _ _ dev _ _ => exact dev
  | appended _ _ _ _ att _ => exact att.later
  | flushed _ _ effects =>
      induction effects with
      | refl => exact .refl _
      | tail _ hstep ih => exact .trans _ _ _ ih hstep.later

/-- Only a flush calls the transports. -/
lemma Moved.transport
    (h : Moved bd storage s s' op) (hop : op ≠ .flush) : s'.ram.transport = s.ram.transport := by
  cases h with
  | looked _ transport => exact transport
  | renewed _ _ _ _ _ transport => exact transport
  | appended _ _ _ _ _ transport => exact transport
  | flushed _ _ _ => exact absurd rfl hop

lemma after_later (bd : Build) (storage : Option Backend) (ops : List SpoolOp) (s : System Node) :
    s.dev.Later (Run.after (spoolStep bd storage) ops s).dev := by
  induction ops generalizing s with
  | nil => exact .refl _
  | cons op ops ih => exact .trans _ _ _ (spoolStep_moved storage op s).later (ih _)

lemma after_transport {ops : List SpoolOp} (h : .flush ∉ ops)
    (s : System Node) :
    (Run.after (spoolStep bd storage) ops s).ram.transport = s.ram.transport := by
  induction ops generalizing s with
  | nil => rfl
  | cons op ops ih =>
      rw [List.mem_cons, not_or] at h
      exact (ih h.2 _).trans ((spoolStep_moved storage op s).transport (Ne.symm h.1))

/-! ### The spool as an outbox -/

/-- The envelopes that were sent and accepted, the last one first. -/
def delivered (log : List TransportCall) : List (List UInt8) :=
  log.filterMap fun
    | .send _ data none => some data
    | _ => none

/-- The intact records and the deliveries. -/
def outbox (bd : Build) (s : System Node) : Outbox.State Evidence (List UInt8) where
  pending slot := if slot < bd.spoolMaxRecords then intact bd s.dev.medium slot else none
  delivered := delivered s.ram.transport.log

/-- No intact record is lost on the way from `s` to `s'`. -/
abbrev Retains (bd : Build) (s s' : System Node) : Prop :=
  Outbox.Step Evidence.payload (outbox bd s) (outbox bd s')

/-- With the log of the transports unchanged, the intact records have to stay. -/
lemma retains_of_intact (hlog : s'.ram.transport.log = s.ram.transport.log)
    (h : ∀ i < bd.spoolMaxRecords, ∀ e, intact bd s.dev.medium i = some e →
      intact bd s'.dev.medium i = some e) : Retains bd s s' := by
  refine ⟨[], by simp only [outbox, hlog, List.nil_append], fun i e he => .inl ?_⟩
  simp only [outbox] at he ⊢
  split at he
  case isTrue hi =>
    rw [if_pos hi]
    exact h i hi e he
  case isFalse => cases he

lemma retains_of_medium (hlog : s'.ram.transport.log = s.ram.transport.log)
    (hm : s'.dev.medium = s.dev.medium) : Retains bd s s' :=
  retains_of_intact hlog fun _ _ _ he => hm ▸ he

/-- An intact record is a committed one, and its evidence has the bytes of the slot. -/
lemma committed_of_intact {m : ℕ → UInt8} (h : intact bd m i = some e) :
    committedAt bd m i ∧ e.payload = payloadAt bd m i := by
  obtain ⟨hc, -, rfl⟩ := deliverable_eq_some_iff.mp (intact_eq_some_iff.mp h).1
  exact ⟨hc, rfl⟩

/-! ### One call -/

lemma Attempted.intact {limit : ℕ} {d d' : Device} {r : SpoolRecord} {data : List UInt8}
    (h : Attempted bd limit d d' r data)
    (he : intact bd d.medium i = some e) : Spool.intact bd d'.medium i = some e := by
  obtain h | ⟨slot, -, herased, ht, -⟩ := h
  · rwa [h.medium]
  · have hne : i ≠ slot := by
      rintro rfl
      rw [Spool.intact, deliverable_of_erased herased] at he
      cases he
    rwa [intact_congr (sameSlot_of_agreeOff ht.agree hne)]

/-- Every effect leaves the node in the course of its flush. -/
lemma Effect.flushed (h : Effect bd b s s') : s.ram.Flushed s'.ram := by
  cases h with
  | looked _ ram => exact ram
  | marked _ _ _ _ _ _ ram => exact ram
  | acked _ _ _ _ _ ram _ => exact ram
  | renewed _ _ ram _ => exact ram ▸ .refl _

/-- The slot holds the evidence, and the device does not fail to read it. -/
def Readable (bd : Build) (slot : ℕ) (e : Evidence) (d : Device) : Prop :=
  intact bd d.medium slot = some e ∧ ¬ PayloadFault bd d slot

lemma Readable.later {slot : ℕ} {d d' : Device} (h : Readable bd slot e d)
    (hl : d.Later d') (hi : intact bd d'.medium slot = some e) : Readable bd slot e d' := by
  refine ⟨hi, fun ⟨k, hk, err, j, hf⟩ => h.2 ⟨k, hl.log.length_le.trans hk, err, j, ?_⟩⟩
  -- the length of the record is that of the payload
  have hlen : ∀ {m : ℕ → UInt8}, intact bd m slot = some e →
      (recordAt bd m slot).length.toNat = e.payload.length := fun h => by
    rw [(committed_of_intact h).2, payloadAt, Medium.read_length]
  rwa [hlen h.1, ← hlen hi, ← hl.faults]

/-- One effect keeps readable evidence, or has sent it. -/
lemma Effect.readable (h : Effect bd b s s')
    (hi : i < bd.spoolMaxRecords) (he : Readable bd i e s.dev) :
    Readable bd i e s'.dev ∨ Sent e.payload s.ram s'.ram := by
  cases h with
  | looked dev ram => exact .inl (he.later dev.toLater (dev.medium ▸ he.1))
  | marked slot lt committed v dev medium ram =>
      refine .inl (he.later dev ?_)
      rw [medium, intact, deliverable_mark_retry]
      exact he.1
  | acked slot lt committed dev medium ram reason =>
      by_cases hne : i = slot
      · subst hne
        rcases reason with hsent | hnone | hfault
        · exact .inr ((committed_of_intact he.1).2 ▸ hsent)
        · cases hnone.symm.trans he.1
        · exact absurd hfault he.2
      · refine .inl (he.later dev ?_)
        rw [medium, intact_congr (sameSlot_mark (.inl rfl) hne)]
        exact he.1
  | renewed drained dev ram renewing =>
      exact absurd (committed_of_intact he.1).1 (drained i hi)

lemma Effects.flushed (h : Effects bd b s s') : s.ram.Flushed s'.ram := by
  induction h with
  | refl => exact .refl _
  | tail _ hstep ih => exact ih.trans hstep.flushed

/-- A whole flush keeps readable evidence, or has sent it. -/
lemma Effects.readable (h : Effects bd b s s')
    (hi : i < bd.spoolMaxRecords) (he : Readable bd i e s.dev) :
    Readable bd i e s'.dev ∨ Sent e.payload s.ram s'.ram := by
  induction h with
  | refl => exact .inl he
  | tail hprev hstep ih =>
      rcases ih with hr | hs
      · exact (hstep.readable hi hr).imp id (·.mono (Effects.flushed hprev) (.refl _))
      · exact .inr (hs.mono (.refl _) hstep.flushed)

/-- No flush that starts here fails to read the payload of an intact record. -/
def PayloadsReadable (bd : Build) (d : Device) : Prop :=
  ∀ i < bd.spoolMaxRecords, intact bd d.medium i ≠ none → ¬ PayloadFault bd d i

lemma Effects.retains (h : Effects bd b s s')
    (hp : PayloadsReadable bd s.dev) : Retains bd s s' := by
  obtain ⟨fresh, hfresh⟩ := (Effects.flushed h).log
  refine ⟨delivered fresh, ?_, fun i e he => ?_⟩
  · simp only [outbox, delivered, ← hfresh, List.filterMap_append]
  simp only [outbox] at he ⊢
  split at he
  case isFalse => cases he
  case isTrue hi =>
    rw [if_pos hi]
    have hreadable : Readable bd i e s.dev := ⟨he, hp i hi (he ▸ nofun)⟩
    refine (Effects.readable h hi hreadable).imp And.left fun hsent => ?_
    obtain ⟨id, fresh', hlog, hmem⟩ := hsent
    obtain rfl : fresh = fresh' := List.append_cancel_right (hfresh.trans hlog)
    exact List.mem_filterMap.mpr ⟨_, hmem, rfl⟩

/-- Every call of a run. -/
lemma Moved.retains
    (h : Moved bd storage s s' op) (hp : op = .flush → PayloadsReadable bd s.dev) :
    Retains bd s s' := by
  cases h with
  | looked dev transport => exact retains_of_medium (by rw [transport]) dev.medium
  | renewed _ _ fresh _ _ transport =>
      -- a spool that is not initialised has no valid record to lose
      exact retains_of_intact (by rw [transport]) fun i hi e he =>
        absurd (.inr ⟨i, hi, (committed_of_intact he).1.1⟩) fresh
  | appended _ _ _ _ att transport =>
      exact retains_of_intact (by rw [transport]) fun i _ e he => att.intact he
  | flushed _ _ effects => exact Effects.retains effects (hp rfl)

/-! ### Runs keep intact evidence -/

lemma after_retains {ops : List SpoolOp}
    (hm : Run.Meets (spoolStep bd storage)
      (fun op s => op = .flush → PayloadsReadable bd s.dev) ops s) :
    Retains bd s (Run.after (spoolStep bd storage) ops s) :=
  Run.after_rel (fun _ => .refl _) (fun _ _ _ => .trans)
    (fun op s h => (spoolStep_moved storage op s).retains h) hm

/-- **Intact evidence is retained.** In every run whose flushes can read the payloads of the
intact records, a record that is intact at some point is found unchanged at every later
one, until its payload has been sent and accepted. -/
theorem spool_retains (bd : Build) (storage : Option Backend) (ops : List SpoolOp)
    (s : System Node)
    (hm : Run.Meets (spoolStep bd storage)
      (fun op s => op = .flush → PayloadsReadable bd s.dev) ops s)
    (pre post : List SpoolOp) (hops : ops = pre ++ post) :
    Retains bd (Run.after (spoolStep bd storage) pre s) (Run.after (spoolStep bd storage) ops s) := by
  subst hops
  rw [Run.after_append]
  exact after_retains (Run.meets_append.mp hm).2

/-- A blank small spool on a device without faults, whose transports refuse every send. -/
def refusedSpool : System Node :=
  ⟨⟨fun _ => 0xff, fun _ _ => .none, []⟩,
    { idleNode with transport := ⟨fun _ => true, fun _ => some .eagain, []⟩ }⟩

/-- A record whose send is refused: the theorem applies, and the record is still there. -/
theorem spool_retains_refused :
    let step := spoolStep smallBuild (some smallFlash)
    let ops : List SpoolOp := [.init, .append basicVector .error, .flush]
    Retains smallBuild (Run.after step (ops.take 2) refusedSpool) (Run.after step ops refusedSpool) ∧
      intact smallBuild (Run.after step ops refusedSpool).dev.medium 0 =
        some ⟨basicVector, 7, 2⟩ := by
  intro step ops
  have hfaults : (Run.after step (ops.take 2) refusedSpool).dev.faults = fun _ _ => .none :=
    (spoolStep_moved _ _ _).later.faults.trans (spoolStep_moved _ _ refusedSpool).later.faults
  refine ⟨spool_retains _ _ ops _ ⟨nofun, nofun, fun _ i _ _ hf => ?_, trivial⟩ (ops.take 2)
    (ops.drop 2) rfl, by decide +kernel⟩
  obtain ⟨k, -, e, j, hk⟩ := hf
  exact absurd ((congrFun₂ hfaults k _).symm.trans hk) nofun

/-- A blank device that fails every read of the first payload. -/
def unreadableSpool : System Node :=
  blankSpool fun _ r => if r = .read (payloadOffset smallBuild 0) 34 then .fail .eio 0 else .none

/-- **A read error costs a record.** The payload of a committed, intact record cannot be read
during a flush, and the record is gone without a send. -/
theorem flush_discards_unread :
    let s := Run.after (spoolStep smallBuild (some smallFlash))
      [.init, .append basicVector .error] unreadableSpool
    let s' := spoolStep smallBuild (some smallFlash) .flush s
    intact smallBuild s.dev.medium 0 = some ⟨basicVector, 7, 2⟩ ∧
      intact smallBuild s'.dev.medium 0 = none ∧ s'.ram.transport.log = [] := by
  decide +kernel

end Latch.Spool
