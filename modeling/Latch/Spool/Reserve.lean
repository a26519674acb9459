
/-
The slots that are reserved for urgent records.

A record header is never rewritten: whatever a run does, a valid record is one that an
append has programmed there, with at most its marks changed (`Moved.inherits`). So every
valid record lies below the slot limit of its priority (`priority_reservation`), and torn
headers need no assumption about their CRC: a torn header that is valid has its priority.

The slot search reports that there is no room only if no header below the limit is erased,
or if the device itself answered a read with that code (`search_passes_code_on`).
-/
import Latch.Spool.Retain

namespace Latch.Spool

open Bytes Exec

variable {bd : Build} {b : Backend}

variable {i : ℕ} {m m' : ℕ → UInt8}

/-! ### Valid records are inherited -/

/-- A record that is valid in `m'` is the one of `m` with other marks at most. -/
def Inherits (bd : Build) (m m' : ℕ → UInt8) (i : ℕ) : Prop :=
  recordValid bd (recordAt bd m' i) = true → recordValid bd (recordAt bd m i) = true ∧
    ∃ state retryBits, recordAt bd m' i =
      { recordAt bd m i with state := state, retryBits := retryBits }

lemma inherits_of_sameSlot (h : SameSlot bd m m' i) :
    Inherits bd m m' i := by
  intro hv
  rw [recordAt_congr h] at hv ⊢
  exact ⟨hv, _, _, rfl⟩

lemma inherits_of_erased (h : m' (slotOffset bd i) = 0xff) :
    Inherits bd m m' i := by
  intro hv
  rw [invalid_of_erased h] at hv
  cases hv

lemma inherits_mark {slot offset : ℕ} {v : UInt8} (i : ℕ)
    (ho : offset = stateOffset ∨ offset = retryOffset) :
    Inherits bd m (mark bd m slot offset v) i := by
  by_cases hne : i = slot
  · subst hne
    intro hv
    rw [mark, recordAt_write_mark ho, recordValid_marks] at hv
    rw [mark, recordAt_write_mark ho]
    exact ⟨hv, _, _, rfl⟩
  · exact inherits_of_sameSlot (sameSlot_mark ho hne)

/-- A slot is erased from its first byte on, or not at all. -/
lemma Renewing.inherits (hu : usable bd b) {sequence : UInt32} {d d' : Device}
    (h : Renewing bd b sequence d d') (hi : i < bd.spoolMaxRecords) :
    Inherits bd d.medium d'.medium i := by
  have hsize := slotOffset_le_size hu hi
  have hpos : 0 < recordSize bd := Nat.lt_of_lt_of_le (by decide) (Nat.le_add_right _ _)
  cases h with
  | erasing k hk hm hcause =>
      rw [hm]
      by_cases hlt : slotOffset bd i < k
      · exact inherits_of_erased (Medium.fill_of_mem (Nat.zero_le _) (by omega))
      · exact inherits_of_sameSlot fun a h1 _ => Medium.fill_of_not_mem (.inr (by omega))
  | writing ha hh =>
      refine inherits_of_erased ?_
      have hheader := headerSize_le bd i
      rw [ha _ (.inr (by omega))]
      exact Medium.fill_of_mem (Nat.zero_le _) (by omega)

lemma Effect.inherits (hu : usable bd b) {s s' : System Node} (h : Effect bd b s s')
    (hi : i < bd.spoolMaxRecords) : Inherits bd s.dev.medium s'.dev.medium i := by
  cases h with
  | looked dev _ =>
      rw [dev.medium]
      exact inherits_of_sameSlot (.refl _ _ _)
  | marked _ _ _ _ _ medium _ =>
      rw [medium]
      exact inherits_mark i (.inr rfl)
  | acked _ _ _ _ medium _ _ =>
      rw [medium]
      exact inherits_mark i (.inl rfl)
  | renewed _ _ _ renewing => exact renewing.inherits hu hi

/-! ### The reservation -/

/-- The valid records in the reserved slots have the priorities these are reserved for. -/
def Reserved (bd : Build) (m : ℕ → UInt8) : Prop :=
  ∀ i < bd.spoolMaxRecords, recordValid bd (recordAt bd m i) = true →
    (bd.spoolMaxRecords - bd.spoolReservedCritical ≤ i →
      (recordAt bd m i).priority = Priority.critical.code ∨
        (recordAt bd m i).priority = Priority.emergency.code) ∧
    (bd.spoolMaxRecords - bd.spoolReservedEmergency ≤ i →
      (recordAt bd m i).priority = Priority.emergency.code)

lemma Reserved.of_inherits (h : Reserved bd m)
    (hi : ∀ i < bd.spoolMaxRecords, Inherits bd m m' i) : Reserved bd m' := by
  intro i hlt hv
  obtain ⟨hv', state, retryBits, hr⟩ := hi i hlt hv
  rw [hr]
  exact h i hlt hv'

/-- The limit of a priority keeps it out of the slots reserved for others. -/
lemma reserved_of_lt_limit {priority : Priority}
    (h : i < slotLimitForPriority bd priority) :
    (bd.spoolMaxRecords - bd.spoolReservedCritical ≤ i →
      priority.code = Priority.critical.code ∨ priority.code = Priority.emergency.code) ∧
    (bd.spoolMaxRecords - bd.spoolReservedEmergency ≤ i →
      priority.code = Priority.emergency.code) := by
  have hle := bd.spoolReservedEmergency_le
  cases priority with
  | emergency => exact ⟨fun _ => .inr rfl, fun _ => rfl⟩
  | critical => exact ⟨fun _ => .inl rfl, fun h' => absurd h (by simp only [slotLimitForPriority]; omega)⟩
  | _ =>
      simp only [slotLimitForPriority] at h
      exact ⟨fun h' => by omega, fun h' => by omega⟩

lemma Attempted.reserved {d d' : Device} {data : List UInt8} {priority : Priority}
    {info : EnvelopeInfo}
    (h : Attempted bd (slotLimitForPriority bd priority) d d' (newRecord data priority info) data)
    (hr : Reserved bd d.medium) : Reserved bd d'.medium := by
  obtain h | ⟨slot, hlt, -, ht, hs⟩ := h
  · rwa [h.medium]
  intro i hi hv
  by_cases hne : i = slot
  · subst hne
    have hp : (recordAt bd d'.medium i).priority = priority.code := by
      rcases hs with hs | hs
      · rw [hs.1]
        rfl
      · exact (hs.fields hv).2
    rw [hp]
    exact reserved_of_lt_limit hlt
  · rw [recordAt_congr (sameSlot_of_agreeOff ht.agree hne)] at hv ⊢
    exact hr i hi hv

/-- Every call keeps the reservation. -/
lemma Moved.reserved {storage : Option Backend} {s s' : System Node} {op : SpoolOp}
    (h : Moved bd storage s s' op) (hr : Reserved bd s.dev.medium) :
    Reserved bd s'.dev.medium := by
  cases h with
  | looked dev _ => rwa [dev.medium]
  | renewed _ hu _ _ renewing _ => exact hr.of_inherits fun i hi => renewing.inherits hu hi
  | appended _ _ _ _ att _ => exact att.reserved hr
  | flushed _ hu effects =>
      induction effects with
      | refl => exact hr
      | tail _ hstep ih => exact ih.of_inherits fun i hi => hstep.inherits hu hi

/-! ### The slot search -/

/-- The last request was a read that the device answered with `LS_ENOSPACE`. -/
def AnsweredNoSpace (d d' : Device) : Prop :=
  ∃ off len k, d'.log.head? = some (.read off len) ∧
    d.faults (d'.log.length - 1) (.read off len) = .fail .enospace k

/-! ### Runs -/

/-- **Priority reservation.** In every run from a blank medium the valid records keep to the
slots of their priority, and the slot search reports that there is no room only if no
header below the limit of the priority is erased, or if the device has answered a read
with that code. -/
theorem priority_reservation (bd : Build) (storage : Option Backend) (ops : List SpoolOp)
    (s : System Node) (hblank : ∀ a, s.dev.medium a = 0xff) :
    let t := Run.after (spoolStep bd storage) ops s
    Reserved bd t.dev.medium ∧
      ∀ b priority, Sat (findEmptySlot bd b priority) t.dev (fun _ _ => True)
        fun e d' => e = .fail .enospace →
          (∀ i < slotLimitForPriority bd priority, ¬ ErasedHeader bd t.dev.medium i) ∨
            AnsweredNoSpace t.dev d' := by
  intro t
  constructor
  · have hstart : Reserved bd s.dev.medium := by
      intro i _ hv
      have hinvalid := invalid_of_erased (hblank (slotOffset bd i))
      exact absurd (hinvalid.symm.trans hv) Bool.false_ne_true
    exact @Run.after_inv _ _ (spoolStep bd storage) (fun _ _ => True)
      (fun s => Reserved bd s.dev.medium)
      (fun op s _ h => (spoolStep_moved storage op s).reserved h) ops s
      (Run.meets_of_forall (fun _ _ => trivial) ops s) hstart
  · intro b priority
    refine (findEmptySlotFrom_spec _ 0 t.dev).mono (fun _ _ _ => trivial) (fun e d' h he => ?_)
    subst he
    obtain ⟨hl, ⟨off, len, l, hlog, hf⟩ | ⟨herr, -⟩ | ⟨-, hall⟩⟩ := h
    · obtain ⟨k, hk⟩ := Fault.error_eq_fail hf
      rw [hl.faults] at hk
      exact .inr ⟨off, len, k, by rw [hlog]; rfl, by rw [hlog]; exact hk⟩
    · cases herr
    · exact .inl fun i hi => hall i (Nat.zero_le _) (by omega)

/-- The small spool with one record, and a second one of the same priority that finds no
room: the theorem applies, the second slot is reserved. -/
theorem priority_reservation_small :
    let t := Run.after (spoolStep smallBuild (some smallFlash))
      [.init, .append basicVector .error] (blankSpool fun _ _ => .none)
    (Sat (findEmptySlot smallBuild smallFlash .error) t.dev (fun _ _ => False)
      fun e _ => e = .fail .enospace) ∧
    Reserved smallBuild t.dev.medium ∧
    Sat (findEmptySlot smallBuild smallFlash .error) t.dev (fun _ _ => True) fun e d' =>
      e = .fail .enospace →
        (∀ i < 1, ¬ ErasedHeader smallBuild t.dev.medium i) ∨ AnsweredNoSpace t.dev d' := by
  intro t
  have h := priority_reservation smallBuild (some smallFlash) [.init, .append basicVector .error]
    (blankSpool fun _ _ => .none) fun _ => rfl
  exact ⟨by decide +kernel, h.1, h.2 smallFlash .error⟩

/-- **The code of the device is passed on.** A device that answers the first read of the
search with `LS_ENOSPACE`: the search reports it, although the first slot is erased. -/
theorem search_passes_code_on :
    let s := blankSpool fun _ _ => .fail .enospace 0
    Sat (findEmptySlot smallBuild smallFlash .error) s.dev (fun _ _ => False)
      (fun e _ => e = .fail .enospace) ∧
    0 < slotLimitForPriority smallBuild .error ∧ ErasedHeader smallBuild s.dev.medium 0 :=
  ⟨by decide +kernel, by decide, fun _ _ _ => rfl⟩

end Latch.Spool
