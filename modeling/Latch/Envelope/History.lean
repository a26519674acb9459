
/-
The black-box records of an envelope.

`put_blackbox` writes the readable records that are not sensitive, oldest first, and leaves its
loop behind a record that finds the envelope marked as truncated. The mark is shared with the
sections before it:

* with a clear mark, all records are written where there is room for them;
* with the mark already set, only the first one is, whatever the room.

So an unrelated section that was cut short removes records that would have fitted, and
`blackbox_history_iff` says exactly when. Whether the sections before were cut short is a
condition on the runtime, the event and the capacity (`EarlyFits`).
-/
import Latch.Envelope.Complete

namespace Latch

open Bytes Exec Tlv

/-! ### Sections that write no record -/

section Other

variable (b : Build) (rt : Runtime)

/-- The sections before the black-box records write none. -/
lemma writes_putEarly (event : Event) :
    Writes (· ≠ TlvType.blackbox.code) True (putEarly b rt event) :=
  (writes_putIdentity b rt trivial (by decide)).bind fun _ =>
    (writes_required trivial (by decide) _ _).bind fun _ =>
    (writes_required trivial (by decide) _ _).bind fun _ =>
    (writes_putCpu trivial (by decide) (by decide) (by decide) _ _).bind fun _ =>
    (writes_putBreadcrumbs b rt (by decide)).bind fun _ =>
    (writes_putMetrics b rt (by decide)).bind fun _ =>
    writes_putPowerHealth b rt (by decide) (by decide)

/-- The sections behind them write none. -/
lemma writes_putLate (mem : ℕ → UInt8) (uptimeMs : UInt32) (event : Event) :
    Writes (· ≠ TlvType.blackbox.code) True (putLate b rt mem uptimeMs event) := by
  refine (writes_putMission b rt (by decide) uptimeMs fun _ => trivial).bind fun _ =>
    Writes.bind ?_ fun _ => (writes_putDetails b (by decide) (by decide) (by decide) event).bind
      fun _ => writes_putMemory b rt (by decide) (by decide) (by decide) mem event
  exact (writes_putFixed_unless (by decide) (by simp)).bind fun _ =>
    (writes_putFixed_unless (by decide) (by simp)).bind fun _ =>
    (writes_putFixed_unless (by decide) (by simp)).bind fun _ =>
    (writes_putFixed_unless (by decide) (by simp)).bind fun _ =>
    writes_putFixed_unless (by decide) (by simp)

end Other

variable {s s' : Encoder} {b : Build}

/-- What grows by fields of other types has the same values of this one. -/
lemma Grows.valuesOf_eq {t : TlvType} (h : Grows (· ≠ t.code) s s') :
    valuesOf t s'.written = valuesOf t s.written := by
  obtain ⟨ts, hts, hne⟩ := h
  have hnone : valuesOf t (ts.map Field.pair) = [] := by
    rw [valuesOf, List.map_eq_nil_iff, List.filter_eq_nil_iff]
    intro field hfield
    obtain ⟨x, hx, rfl⟩ := List.mem_map.mp hfield
    exact fun hcode => hne x hx (of_decide_eq_true hcode)
  rw [hts.written_eq, valuesOf_append, hnone, List.append_nil]

/-! ### The loop over the records -/

/-- The number of bytes of the fields `BLACKBOX` for some records. -/
def historySize (records : List BlackboxRecord) : ℕ :=
  ((fieldsOf .blackbox (records.map blackboxBytes)).flatMap pairBytes).length

lemma historySize_cons (record : BlackboxRecord) (records : List BlackboxRecord) :
    historySize (record :: records) =
      (pairBytes (TlvType.blackbox.code, blackboxBytes record)).length + historySize records := by
  simp [historySize, fieldsOf]

/-- With the mark set, the loop ends behind the first record. -/
lemma putBlackboxFrom_marked (bb : Blackbox) (remaining : ℕ)
    (hs : s.truncated = true)
    (hroom : s.data.length + historySize (readableRecords bb remaining) ≤ s.capacity) :
    Returns (putBlackboxFrom bb remaining) s fun _ s' =>
      s'.written = s.written ++
        fieldsOf .blackbox (((readableRecords bb remaining).take 1).map blackboxBytes) := by
  induction remaining with
  | zero => exact (sat_pure ()).mpr (by simp [readableRecords, fieldsOf])
  | succ remaining ih =>
      rw [putBlackboxFrom]
      rw [readableRecords] at hroom ⊢
      cases hget : lsBlackboxGetRecent bb remaining with
      | none => exact ih (by simpa [hget] using hroom)
      | some record =>
          by_cases hsens : record.flags &&& lsBlackboxSensitive = 0
          · have hshown : ((some record).toList.filter fun record =>
                record.flags &&& lsBlackboxSensitive = 0) = [record] := by simp [hsens]
            rw [hget, hshown, List.singleton_append, historySize_cons] at hroom
            rw [hshown, List.singleton_append]
            simp only [hsens, ne_eq, not_true_eq_false, if_false]
            rw [Returns]
            refine (nestedValue_writeAll 32 _ s).bind fun value s₁ h₁ => ?_
            obtain ⟨rfl, hlen, rfl⟩ := h₁
            have hshort : (blackboxBytes record).length < 2 ^ 16 := hlen.trans_lt (by norm_num)
            rw [sat_bind]
            refine (putOptionalTlv_fits TlvType.blackbox.code_ne hshort (by omega)).mono
              fun _ s₂ h₂ => ?_
            subst h₂
            rw [sat_bind, sat_get, if_pos (show (s₁.fill _ _).truncated = true from hs), sat_pure]
            simp [Encoder.fill, fieldsOf]
          · have hshown : ((some record).toList.filter fun record =>
                record.flags &&& lsBlackboxSensitive = 0) = [] := by simp [hsens]
            rw [hget, hshown, List.nil_append] at hroom
            rw [hshown, List.nil_append]
            simp only [hsens, ne_eq, not_false_eq_true, if_true]
            exact ih hroom

/-- With a clear mark, the loop writes every record. -/
lemma putBlackboxFrom_clear (bb : Blackbox) (remaining : ℕ)
    (hs : s.truncated = false)
    (hroom : s.data.length + historySize (readableRecords bb remaining) ≤ s.capacity) :
    Returns (putBlackboxFrom bb remaining) s fun _ s' =>
      s'.written = s.written ++
        fieldsOf .blackbox ((readableRecords bb remaining).map blackboxBytes) :=
  ((fills_putBlackboxFrom bb remaining).fits s hs trivial hroom).mono
    fun _ _ h => by rw [h]; rfl

/-! ### When the sections before are complete -/

/-- The sections before the black-box records are complete: no string, value or context of them
is cut short, and they fit the room. -/
def EarlyFits (b : Build) (rt : Runtime) (event : Event) (room : ℕ) : Prop :=
  EarlyFull b rt event ∧ ((earlyFields b rt event).flatMap pairBytes).length ≤ room

lemma Fills.truncated_iff {x : EncodeM Unit} {P : Prop} {bytes : List UInt8}
    {fields : List (UInt16 × List UInt8)} (h : Fills x P bytes fields)
    (hs : s.truncated = false) (hlen : s.data.length ≤ s.capacity) (hx : x s = .ok () s') :
    s'.truncated = false ↔ P ∧ s.data.length + bytes.length ≤ s.capacity := by
  constructor
  · intro hclear
    obtain ⟨-, hp, rfl, hfit⟩ := sat_of_ok (h.complete s) hx hclear
    refine ⟨hp, ?_⟩
    simpa [Encoder.fill] using hfit hlen
  · rintro ⟨hp, hroom⟩
    have heq := sat_of_ok (h.fits s hs hp hroom) hx
    rw [heq]
    exact hs

/-- The mark in front of the black-box records. -/
lemma putEarly_truncated_iff {rt : Runtime} {event : Event} {capacity : ℕ}
    {before : Encoder} (h : putEarly b rt event (payloadWriter rt capacity) = .ok () before) :
    before.truncated = false ↔ EarlyFits b rt event (payloadWriter rt capacity).capacity := by
  rw [(fills_putEarly b rt event).truncated_iff rfl (Nat.zero_le _) h, EarlyFits]
  simp [payloadWriter]

/-! ### The history in an envelope -/

/-- The room that is left at the black-box records suffices for all of them. -/
def HistoryFits (b : Build) (bb : Blackbox) (before : Encoder) : Prop :=
  historySize (shownRecords b bb) ≤ before.capacity - before.data.length

instance (b : Build) (bb : Blackbox) (before : Encoder) : Decidable (HistoryFits b bb before) :=
  inferInstanceAs (Decidable (_ ≤ _))

/-- What the loop over the records adds where there is room for them. -/
lemma putBlackbox_values {bb : Blackbox} {before after : Encoder}
    (hroom : HistoryFits b bb before) (hlen : before.data.length ≤ before.capacity)
    (h : putBlackbox b bb before = .ok () after) :
    valuesOf .blackbox after.written = valuesOf .blackbox before.written ++
      (if before.truncated then (shownRecords b bb).take 1 else shownRecords b bb).map
        blackboxBytes := by
  have hroom' : before.data.length + historySize (shownRecords b bb) ≤ before.capacity := by
    rw [HistoryFits] at hroom
    omega
  cases hs : before.truncated with
  | true => simp [sat_of_ok (putBlackboxFrom_marked bb _ hs hroom') h, shownRecords]
  | false => simp [sat_of_ok (putBlackboxFrom_clear bb _ hs hroom') h, shownRecords]

/-- A run of `put_payload`, by its three parts. -/
lemma putPayload_parts {rt : Runtime} {bb : Blackbox} {mem : ℕ → UInt8}
    {uptimeMs : UInt32} {event : Event}
    (h : putPayload b rt bb mem uptimeMs event s = .ok () s') :
    ∃ before after, putEarly b rt event s = .ok () before ∧
      putBlackbox b bb before = .ok () after ∧ putLate b rt mem uptimeMs event after = .ok () s' := by
  rw [putPayload_eq] at h
  obtain ⟨_, before, hearly, h⟩ := exists_of_bind_ok h
  obtain ⟨_, after, hbb, hlate⟩ := exists_of_bind_ok h
  exact ⟨before, after, hearly, hbb, hlate⟩

/-- **When the history is complete wherever it fits.** -/
theorem blackbox_history_iff (b : Build) (c : Crypto) (bb : Blackbox) (mem : ℕ → UInt8)
    (uptimeMs : UInt32) (random : Except Errno Nonce) (event : Event) (capacity : ℕ)
    (sequence : UInt32) {s s' : EncodeState}
    (hencode : lsEnvelopeEncode b c bb mem uptimeMs random event capacity sequence s = .ok () s') :
    ∃ (before : Encoder) (truncated : Bool) (fields : List Tlv.Field),
      putEarly b s.runtime event (payloadWriter s.runtime capacity) = .ok () before ∧
      Encloses c s.runtime event sequence truncated (Medium.read s'.out 0 s'.length) fields ∧
      (HistoryFits b bb before → (valuesOf .blackbox (fields.map Field.pair) =
          (shownRecords b bb).map blackboxBytes ↔
        EarlyFits b s.runtime event (payloadWriter s.runtime capacity).capacity ∨
          (shownRecords b bb).length ≤ 1)) := by
  obtain ⟨payload, fields, hput, hwritten, hencloses⟩ := encode_encloses hencode
  obtain ⟨before, after, hearly, hbb, hlate⟩ := putPayload_parts hput
  refine ⟨before, payload.truncated, fields, hearly, hencloses, fun hroom => ?_⟩
  have hgrown := sat_of_ok (writes_putEarly b s.runtime event _) hearly
  have hlen : before.data.length ≤ before.capacity := by
    obtain ⟨ts, hts, -⟩ := hgrown
    rw [hts.capacity_eq]
    exact hts.fits (Nat.zero_le _)
  have hnone : valuesOf .blackbox before.written = [] := hgrown.valuesOf_eq
  have hlast := sat_of_ok (writes_putLate b s.runtime mem uptimeMs event _) hlate
  rw [← hwritten, hlast.valuesOf_eq, putBlackbox_values hroom hlen hbb, hnone, List.nil_append, ← putEarly_truncated_iff hearly]
  cases hs : before.truncated with
  | false => simp
  | true =>
      simp only [if_true, reduceCtorEq, false_or]
      constructor
      · intro heq
        have hlen := congrArg List.length heq
        simp only [List.length_map, List.length_take] at hlen
        omega
      · intro hone
        rw [List.take_of_length_le hone]

/-- A ring with two records. -/
def twoRecords : Blackbox where
  magic := lsBlackboxMagic
  records := [storedRecord 1 { (default : BlackboxRecord) with kind := 1, timestampMs := 10 },
    storedRecord 2 { (default : BlackboxRecord) with kind := 1, timestampMs := 20 }] ++
    List.replicate 62 default

/-- A crash of an RV64 processor whose 64-bit register bank was not handed over. -/
def narrowCrash : Event :=
  { (default : Event) with cpu := some { (default : ArchContext) with
      architecture := lsArchRiscv64 } }

/-- A runtime without a key, and an empty buffer. -/
def keylessState : EncodeState where
  runtime := default
  out _ := 0
  length := 0

/-- A message in a buffer of 1024 bytes, with both records of the ring. -/
theorem blackbox_history_iff_message :
    ∃ (s' : EncodeState) (before : Encoder) (truncated : Bool) (fields : List Tlv.Field),
      lsEnvelopeEncode Build.default clearCrypto twoRecords (fun _ => 0) 0 (.error .eio) default
        1024 1 keylessState = .ok () s' ∧
      putEarly Build.default default default (payloadWriter default 1024) = .ok () before ∧
      Encloses clearCrypto default default 1 truncated (Medium.read s'.out 0 s'.length) fields ∧
      (HistoryFits Build.default twoRecords before → (valuesOf .blackbox (fields.map Field.pair) =
          (shownRecords Build.default twoRecords).map blackboxBytes ↔
        EarlyFits Build.default default default (payloadWriter default 1024).capacity ∨
          (shownRecords Build.default twoRecords).length ≤ 1)) := by
  have hrun : Completes (lsEnvelopeEncode Build.default clearCrypto twoRecords (fun _ => 0) 0
      (.error .eio) default 1024 1) keylessState := by decide +kernel
  obtain ⟨_, s', hs', -⟩ := hrun.exists_ok
  obtain ⟨before, truncated, fields, h⟩ := blackbox_history_iff _ _ _ _ _ _ _ _ _ hs'
  exact ⟨s', before, truncated, fields, hs', h⟩

/-- **A context that is cut short takes a black-box record with it.** The buffer has room for
both records, and the envelope holds one. -/
theorem history_lost_behind_context :
    ∃ (s' : EncodeState) (before : Encoder) (truncated : Bool) (fields : List Tlv.Field),
      lsEnvelopeEncode Build.default clearCrypto twoRecords (fun _ => 0) 0 (.error .eio)
        narrowCrash 1024 1 keylessState = .ok () s' ∧
      putEarly Build.default default narrowCrash (payloadWriter default 1024) = .ok () before ∧
      Encloses clearCrypto default narrowCrash 1 truncated (Medium.read s'.out 0 s'.length)
        fields ∧
      HistoryFits Build.default twoRecords before ∧
      (shownRecords Build.default twoRecords).length = 2 ∧
      (valuesOf .blackbox (fields.map Field.pair)).length = 1 := by
  have hruns : Completes (lsEnvelopeEncode Build.default clearCrypto twoRecords (fun _ => 0) 0
        (.error .eio) narrowCrash 1024 1) keylessState ∧
      Sat (putEarly Build.default default narrowCrash) (payloadWriter default 1024)
        (fun _ before => HistoryFits Build.default twoRecords before) (fun _ _ => False) ∧
      Sat (putPayload Build.default default twoRecords (fun _ => 0) 0 narrowCrash)
        (payloadWriter default 1024)
        (fun _ payload => (valuesOf .blackbox payload.written).length = 1) (fun _ _ => False) ∧
      (shownRecords Build.default twoRecords).length = 2 := by decide +kernel
  obtain ⟨hrun, hearly, hput, htwo⟩ := hruns
  obtain ⟨_, s', hs', -⟩ := hrun.exists_ok
  obtain ⟨_, before, hbefore, hfits⟩ := hearly.exists_ok
  obtain ⟨payload, fields, hpayload, hwritten, hencloses⟩ := encode_encloses hs'
  have hone := sat_of_ok hput hpayload
  rw [hwritten] at hone
  exact ⟨s', before, payload.truncated, fields, hs', hbefore, hencloses, hfits, htwo, hone⟩

end Latch
