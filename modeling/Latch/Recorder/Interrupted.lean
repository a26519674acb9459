
/-
A reset in the middle of a record, and the ring behind it.

The stores of `ls_blackbox_record` may stop anywhere. `ls_blackbox_init` then trusts the next
number if it fits its complement, and otherwise takes the one behind the newest record.

* `Nearly`: the records lie in their slots in the order of their numbers, and the slot of the
  next record may hold a record with the very number that comes next;
* `Nearly.ringSafe_iff`: from there on, only the next record can go wrong;
* `reset_spares_older_iff`: the ring is kept in order exactly if the reset did not come between
  the last byte of the record and the next number, with a further record behind it;
* `complete_record_overwritten`: a record that was complete is overwritten by the next one.
-/
import Latch.Recorder.Ring

namespace Latch

open Serial

/-! ### What a reset may not break -/

section Statement

variable (bd : Build)

/-- The next record takes the slot of no valid record, or of the oldest one. -/
def OverwritesOldest (r : Recorder) : Prop :=
  recordValid (recordAt r.records (r.slot bd)) = true → ∀ k < bd.blackboxCapacity,
    k ≠ r.slot bd → recordValid (recordAt r.records k) = true →
      ¬ Newer (recordAt r.records (r.slot bd)).sequence (recordAt r.records k).sequence

/-- No two valid records have one number. -/
def DistinctNumbers (r : Recorder) : Prop :=
  ∀ j < bd.blackboxCapacity, ∀ k < bd.blackboxCapacity,
    recordValid (recordAt r.records j) = true → recordValid (recordAt r.records k) = true →
      (recordAt r.records j).sequence = (recordAt r.records k).sequence → j = k

/-- Along a run, every record takes the place of the oldest one, and the numbers are distinct. -/
def RingSafe : List RecorderOp → Recorder → Prop
  | [], r => DistinctNumbers bd r
  | op :: ops, r => DistinctNumbers bd r ∧ ((op.accepts r).isSome → OverwritesOldest bd r) ∧
      RingSafe ops (op.step bd r)

end Statement

/-- The order of two numbers far from the largest one. -/
lemma newer_number_iff {i j : ℕ} (hi : i < 2 ^ 31 - 1) (hj : j < 2 ^ 31 - 1) :
    Newer (number j) (number i) ↔ i < j := by
  have hone : (1 : UInt32) ≠ 0 := by decide
  rw [number, number, newer_iff_offset_lt (offset_iterate_lt hone hj) (offset_iterate_lt hone hi)]
  exact offset_iterate_lt_iff hone hi hj

/-! ### Rings in order -/

/-- The next number is the `n`-th one, and each valid record is one of the last that the ring
has room for, in its own slot, or has that next number. -/
structure Nearly (bd : Build) (n : ℕ) (r : Recorder) : Prop where
  sound : r.Sound
  next : r.nextSequence.value = number n
  slots : ∀ k < bd.blackboxCapacity, recordValid (recordAt r.records k) = true →
    ∃ i ≤ n, n ≤ i + bd.blackboxCapacity ∧ i % bd.blackboxCapacity = k ∧
      (recordAt r.records k).sequence = number i

section Nearly

variable {bd : Build} {n : ℕ} {r : Recorder}

lemma Nearly.sequence (h : Nearly bd n r) : r.sequence = number n := by
  rw [Recorder.sequence, if_neg h.sound.nextSequence_ne, h.next]

lemma Nearly.slot (h : Nearly bd n r) (hn : n < numberPeriod) :
    r.slot bd = n % bd.blackboxCapacity := by
  rw [Recorder.slot, h.sequence, number_slot, Ring.wrapSlot, Nat.mod_eq_of_lt hn]

lemma Nearly.distinct (h : Nearly bd n r) (hn : n < 2 ^ 31 - 1) : DistinctNumbers bd r := by
  intro j hj k hk hvj hvk heq
  obtain ⟨a, ha, -, rfl, hsa⟩ := h.slots j hj hvj
  obtain ⟨b, hb, -, rfl, hsb⟩ := h.slots k hk hvk
  rw [hsa, hsb] at heq
  rw [number_inj (by omega) (by omega) heq]

/-- The next record takes the place of the oldest one, unless its slot holds a record with the
next number in front of others. -/
lemma Nearly.overwritesOldest_iff (h : Nearly bd n r) (hc : 0 < bd.blackboxCapacity)
    (hn : n < 2 ^ 31 - 1) :
    OverwritesOldest bd r ↔
      ¬ (recordValid (recordAt r.records (n % bd.blackboxCapacity)) = true ∧
        (recordAt r.records (n % bd.blackboxCapacity)).sequence = number n) ∨
      ∀ k < bd.blackboxCapacity, k ≠ n % bd.blackboxCapacity →
        recordValid (recordAt r.records k) = false := by
  have hslot := h.slot (by unfold numberPeriod; omega)
  have hlt := Nat.mod_lt n hc
  unfold OverwritesOldest
  rw [hslot]
  constructor
  · intro hold
    by_contra hno
    push Not at hno
    obtain ⟨⟨hv, hseq⟩, k, hk, hne, hvk⟩ := hno
    obtain ⟨i, hi, -, hik, hsi⟩ := h.slots k hk (by simpa using hvk)
    refine hold hv k hk hne (by simpa using hvk) ?_
    rw [hseq, hsi, newer_number_iff (by omega) hn]
    refine lt_of_le_of_ne hi fun heq => hne ?_
    rw [← hik, heq]
  · intro hgood hv k hk hne hvk
    obtain ⟨i, hi, hnear, hin, hsi⟩ := h.slots _ hlt hv
    obtain ⟨j, hj, hnear', hjk, hsj⟩ := h.slots k hk hvk
    rw [hsi, hsj, newer_number_iff (by omega) (by omega)]
    obtain hgood | hgood := hgood
    · -- the record in the slot is as old as any
      have hne' : i ≠ n := fun heq => hgood ⟨hv, by rw [hsi, heq]⟩
      have hdvd : bd.blackboxCapacity ∣ n - i := (Nat.modEq_iff_dvd' hi).mp hin
      have := Nat.le_of_dvd (by omega) hdvd
      omega
    · rw [hgood k hk hne] at hvk
      cases hvk

/-- The ring behind the next record. -/
lemma Nearly.slots_ringWith (h : Nearly bd n r) (hc : 0 < bd.blackboxCapacity)
    (hn : n < numberPeriod) (entry : BlackboxRecord) {k : ℕ} (hk : k < bd.blackboxCapacity)
    (hv : recordValid (recordAt (r.ringWith bd entry) k) = true) :
    ∃ i ≤ n, n + 1 ≤ i + bd.blackboxCapacity ∧ i % bd.blackboxCapacity = k ∧
      (recordAt (r.ringWith bd entry) k).sequence = number i := by
  unfold Recorder.ringWith at hv ⊢
  rw [h.slot hn, h.sequence] at hv ⊢
  by_cases hkn : k = n % bd.blackboxCapacity
  · subst hkn
    rw [recordAt_write_bytes]
    exact ⟨n, le_rfl, by omega, rfl, rfl⟩
  · rw [recordAt_write_of_ne _ (BlackboxRetained.bytes_length _).le hkn] at hv ⊢
    obtain ⟨i, hi, hnear, hik, hsi⟩ := h.slots k hk hv
    refine ⟨i, hi, ?_, hik, hsi⟩
    refine Nat.succ_le_of_lt (lt_of_le_of_ne hnear fun heq => hkn ?_)
    rw [← hik, heq, Nat.add_mod_right]

/-- Behind the next record the ring is in order again. -/
lemma Nearly.recorded (h : Nearly bd n r) (hc : 0 < bd.blackboxCapacity) (hn : n + 1 < 2 ^ 31 - 1)
    {entry : BlackboxRecord} {r' : Recorder} (hsound : r'.Sound)
    (hring : r'.records = r.ringWith bd entry) (hnext : r'.nextSequence.value = number (n + 1)) :
    Nearly bd (n + 1) r' ∧ OverwritesOldest bd r' := by
  have hin : ∀ k < bd.blackboxCapacity, recordValid (recordAt r'.records k) = true →
      ∃ i ≤ n, n + 1 ≤ i + bd.blackboxCapacity ∧ i % bd.blackboxCapacity = k ∧
        (recordAt r'.records k).sequence = number i := by
    rw [hring]
    exact fun k hk hv => h.slots_ringWith hc (by unfold numberPeriod; omega) entry hk hv
  have hnearly : Nearly bd (n + 1) r' := by
    refine ⟨hsound, hnext, fun k hk hv => ?_⟩
    obtain ⟨i, hi, hrest⟩ := hin k hk hv
    exact ⟨i, by omega, hrest⟩
  refine ⟨hnearly, (hnearly.overwritesOldest_iff hc hn).mpr (.inl ?_)⟩
  rintro ⟨hv, hseq⟩
  obtain ⟨i, hi, -, -, hsi⟩ := hin _ (Nat.mod_lt _ hc) hv
  have := number_inj (by omega) (by omega) (hsi.symm.trans hseq)
  omega

lemma Nearly.refused (h : Nearly bd n r) {op : RecorderOp} (hop : op.accepts r = none) :
    Nearly bd n (op.step bd r) := by
  have hring := step_ring bd h.sound op
  rw [hop] at hring
  exact ⟨h.sound.step op, by rw [hring.2]; exact h.next, by rw [hring.1]; exact h.slots⟩

/-- A call that adds no record leaves the next record where it was. -/
lemma overwritesOldest_refused (h : r.Sound) {op : RecorderOp} (hop : op.accepts r = none) :
    OverwritesOldest bd (op.step bd r) ↔ OverwritesOldest bd r := by
  have hring := step_ring bd h op
  rw [hop] at hring
  unfold OverwritesOldest Recorder.slot Recorder.sequence
  rw [hring.1, hring.2]

/-- **Only the next record can go wrong.** -/
lemma Nearly.ringSafe_iff (h : Nearly bd n r) (hc : 0 < bd.blackboxCapacity)
    (ops : List RecorderOp) (hfar : n + (accepted bd ops r).length < 2 ^ 31 - 1) :
    RingSafe bd ops r ↔ accepted bd ops r = [] ∨ OverwritesOldest bd r := by
  have hdistinct : DistinctNumbers bd r := h.distinct (by omega)
  induction ops generalizing n r with
  | nil => exact iff_of_true hdistinct (.inl rfl)
  | cons op ops ih =>
      rw [accepted] at hfar ⊢
      cases hop : op.accepts r with
      | none =>
          have hstep : Nearly bd n (op.step bd r) := h.refused hop
          rw [hop, Option.toList_none, List.nil_append] at hfar
          rw [Option.toList_none, List.nil_append, ← overwritesOldest_refused h.sound hop]
          refine Iff.trans ?_ (ih hstep hfar (hstep.distinct (by omega)))
          simp [RingSafe, hdistinct, hop]
      | some entry =>
          have hring := step_ring bd h.sound op
          rw [hop] at hring hfar
          simp only [Option.toList_some, List.cons_append, List.nil_append,
            List.length_cons] at hfar
          have hnext : (op.step bd r).nextSequence.value = number (n + 1) := by
            rw [hring.nextSequence, h.sequence, number_succ]
            rfl
          obtain ⟨hstep, hold⟩ := h.recorded hc (by omega) (hring.sound h.sound) hring.records hnext
          have hrest := (ih hstep (by omega) (hstep.distinct (by omega))).mpr (.inr hold)
          simp [RingSafe, hdistinct, hop, hrest]

end Nearly

/-! ### The ring before the interrupted record -/

/-- The records of a run that is far from the largest number lie in order. -/
lemma Filed.nearly {bd : Build} {records : List BlackboxRecord} {r : Recorder}
    (h : Filed bd records r) (hfar : records.length < 2 ^ 31 - 1) : Nearly bd records.length r := by
  refine ⟨h.sound, h.next, fun k hk hv => ?_⟩
  obtain ⟨i, hlive, hik, hi⟩ := h.exists_kept hk hv
  have hlt := hlive.1
  have hslot : ∀ j < records.length, Ring.wrapSlot numberPeriod bd.blackboxCapacity j =
      j % bd.blackboxCapacity := fun j hj => by
    rw [Ring.wrapSlot, Nat.mod_eq_of_lt (show j < numberPeriod by unfold numberPeriod; omega)]
  rw [hslot i hlt] at hik
  refine ⟨i, hlt.le, not_lt.mp fun hfar' => ?_, hik, by rw [← hi]; rfl⟩
  refine hlive.2 (i + bd.blackboxCapacity) (by omega) hfar' ?_
  rw [hslot _ hfar', hslot _ hlt, Nat.add_mod_right]

/-! ### The interrupted record -/

section

variable {bd : Build} {r : Recorder}

variable (entry : BlackboxRecord) (k : ℕ)

lemma recordStores_length : (recordStores bd r entry).length =
    retainedSize + ((counterStores bd r).length + 2) := by
  rw [recordStores, List.length_append, List.length_append, copyStores_length]
  rfl

lemma mem_doubledStores {α : Type} [Complement α] {get : Recorder → Doubled α}
    {put : Recorder → Doubled α → Recorder} {updated : α} {f : Recorder → Recorder}
    (hf : f ∈ doubledStores get put updated) :
    ∃ w : Recorder → Doubled α, f = fun s => put s (w s) := by
  simp only [doubledStores, List.mem_cons, List.not_mem_nil, or_false] at hf
  obtain rfl | rfl := hf
  · exact ⟨fun s => { get s with value := updated }, rfl⟩
  · exact ⟨fun s => { get s with inverse := ~~~updated }, rfl⟩

lemma mem_counterStores {f : Recorder → Recorder} (hf : f ∈ counterStores bd r) :
    (∃ w : Recorder → Doubled UInt32, f = fun s => s.putTotalRecords (w s)) ∨
      ∃ w : Recorder → Doubled UInt32, f = fun s => s.putOverwrittenRecords (w s) := by
  rw [counterStores, List.mem_append] at hf
  obtain hf | hf := hf
  · exact .inl (mem_doubledStores hf)
  · split at hf
    · exact .inr (mem_doubledStores hf)
    · cases hf

/-- The counters are no part of what is kept with the ring. -/
lemma upTo_counterStores (s : Recorder) (k : ℕ) :
    (Stores.upTo (counterStores bd r) k s).records = s.records ∧
      (Stores.upTo (counterStores bd r) k s).nextSequence = s.nextSequence := by
  constructor <;>
  · refine Stores.upTo_eq (fun f hf s => ?_) k s
    obtain ⟨w, rfl⟩ | ⟨w, rfl⟩ := mem_counterStores hf <;> rfl

/-- No store of a record touches the words that do not count records. -/
lemma upTo_recordStores_frame (bd : Build) (r : Recorder) (entry : BlackboxRecord) (k : ℕ) :
    (Stores.upTo (recordStores bd r entry) k r).magic = r.magic ∧
      (Stores.upTo (recordStores bd r entry) k r).version = r.version ∧
      (Stores.upTo (recordStores bd r entry) k r).frozen = r.frozen := by
  have hcases : ∀ f ∈ recordStores bd r entry,
      ∀ s, (f s).magic = s.magic ∧ (f s).version = s.version ∧ (f s).frozen = s.frozen := by
    intro f hf s
    rw [recordStores, List.mem_append, List.mem_append] at hf
    obtain hf | hf | hf := hf
    · obtain ⟨g, -, rfl⟩ := List.mem_map.mp hf
      exact ⟨rfl, rfl, rfl⟩
    · obtain ⟨w, rfl⟩ | ⟨w, rfl⟩ := mem_counterStores hf <;> exact ⟨rfl, rfl, rfl⟩
    · obtain ⟨w, rfl⟩ := mem_doubledStores hf
      exact ⟨rfl, rfl, rfl⟩
  exact ⟨Stores.upTo_eq (fun f hf s => (hcases f hf s).1) k r,
    Stores.upTo_eq (fun f hf s => (hcases f hf s).2.1) k r,
    Stores.upTo_eq (fun f hf s => (hcases f hf s).2.2) k r⟩

/-- The ring behind the first `k` stores of a record. -/
lemma upTo_recordStores_records :
    (Stores.upTo (recordStores bd r entry) k r).records = r.ringTorn bd entry k := by
  rw [recordStores, Stores.upTo_append, copyStores_length]
  split
  · rw [upTo_copyStores]
  · rename_i hk
    have hnext : ∀ (j : ℕ) (s : Recorder), (Stores.upTo (doubledStores Recorder.nextSequence
        Recorder.putNextSequence (nextSequence r.sequence)) j s).records = s.records := by
      refine fun j s => Stores.upTo_eq (fun f hf s => ?_) j s
      obtain ⟨w, rfl⟩ := mem_doubledStores hf
      rfl
    rw [Stores.upTo_append, all_copyStores, Recorder.ringTorn_of_le entry (by omega)]
    split
    · rw [(upTo_counterStores _ _).1]
    · rw [hnext, ← Stores.upTo_of_length_le le_rfl, (upTo_counterStores _ _).1]

/-- The next number behind the first `k` stores of a record: it comes last. -/
lemma upTo_recordStores_nextSequence :
    (Stores.upTo (recordStores bd r entry) k r).nextSequence =
      if k + 1 < (recordStores bd r entry).length then r.nextSequence
      else if k + 1 = (recordStores bd r entry).length then
        ⟨nextSequence r.sequence, r.nextSequence.inverse⟩
      else .store (nextSequence r.sequence) := by
  rw [recordStores_length, recordStores, Stores.upTo_append, copyStores_length]
  split
  · rename_i hk
    rw [upTo_copyStores, if_pos (by omega)]
  · rename_i hk
    rw [Stores.upTo_append, all_copyStores]
    split
    · rw [(upTo_counterStores _ _).2, if_pos (by omega)]
    · rename_i hk'
      have hbefore : (Stores.all (counterStores bd r)
          { r with records := r.ringWith bd entry }).nextSequence = r.nextSequence := by
        rw [← Stores.upTo_of_length_le le_rfl, (upTo_counterStores _ _).2]
      rw [if_neg (by omega)]
      obtain hone | htwo : k - retainedSize - (counterStores bd r).length = 1 ∨
          2 ≤ k - retainedSize - (counterStores bd r).length := by omega
      · rw [if_pos (by omega), hone]
        simp [doubledStores, Recorder.putNextSequence, hbefore]
      · rw [if_neg (by omega), Stores.upTo_of_length_le htwo,
          all_doubledStores _ Recorder.putNextSequence (fun _ _ => rfl) (fun _ _ _ => rfl)]
        rfl

/-- The slot of a record whose first bytes were written. -/
lemma recordAt_ringTorn_eq_iff :
    recordAt (r.ringTorn bd entry k) (r.slot bd) = storedRecord r.sequence entry ↔
      (Medium.read r.records (retainedSize * r.slot bd) retainedSize).drop k =
        (storedRecord r.sequence entry).bytes.drop k := by
  set new := storedRecord r.sequence entry
  set old := Medium.read r.records (retainedSize * r.slot bd) retainedSize with hold
  have hnew : new.bytes.length = retainedSize := new.bytes_length
  have hlen : old.length = retainedSize := Medium.read_length ..
  have hread : Medium.read (r.ringTorn bd entry k) (retainedSize * r.slot bd) retainedSize =
      new.bytes.take k ++ old.drop k := by
    have hshort : 0 + (new.bytes.take k).length ≤ retainedSize := by simp [hnew]
    have hin := Medium.read_write_inside r.records (retainedSize * r.slot bd) hshort
    rw [Nat.add_zero, List.take_zero, List.nil_append, Nat.zero_add, ← hold, List.length_take,
      hnew] at hin
    rw [Recorder.ringTorn, hin]
    obtain hk | hk := Nat.le_total k retainedSize
    · rw [Nat.min_eq_left hk]
    · rw [Nat.min_eq_right hk, List.drop_eq_nil_of_le hlen.le, List.drop_eq_nil_of_le (hlen ▸ hk)]
  rw [recordAt, hread]
  constructor
  · intro h
    have hbytes := congrArg BlackboxRetained.bytes h
    rw [BlackboxRetained.bytes_ofBytes (by simp [hnew, hlen]; omega)] at hbytes
    nth_rewrite 2 [← List.take_append_drop k new.bytes] at hbytes
    exact List.append_cancel_left hbytes
  · intro h
    rw [h, List.take_append_drop, BlackboxRetained.ofBytes_bytes]

end

/-! ### The reset -/

section Reset

variable {bd : Build} {r : Recorder}

/-- `ls_blackbox_init` leaves the ring alone, and a recorder in operation. -/
lemma init_records (hm : r.magic = lsBlackboxMagic) (hv : r.version = lsBlackboxVersion) :
    (lsBlackboxInit bd r).records = r.records := by
  rw [lsBlackboxInit, if_neg (not_or.mpr ⟨not_not.mpr hm, not_not.mpr hv⟩)]
  rfl

lemma init_sound (hm : r.magic = lsBlackboxMagic) (hv : r.version = lsBlackboxVersion)
    (hf : r.frozen = .store 0) : (lsBlackboxInit bd r).Sound := by
  rw [lsBlackboxInit, if_neg (not_or.mpr ⟨not_not.mpr hm, not_not.mpr hv⟩)]
  have hprofile : (r.repaired bd).profile.valid = true ∧
      (r.repaired bd).profile.value ≤ lsBlackboxProfileAnomaly := by
    unfold Recorder.repaired
    dsimp only
    split
    · decide
    · rename_i h
      rw [not_or, not_not] at h
      exact ⟨h.1, UInt8.not_lt.mp h.2⟩
  have hnext : (r.repaired bd).nextSequence.valid = true ∧
      (r.repaired bd).nextSequence.value ≠ 0 := by
    unfold Recorder.repaired
    dsimp only
    split
    · refine ⟨Doubled.store_valid _, ?_⟩
      rw [Doubled.store_value]
      split
      · assumption
      · decide
    · rename_i h
      rw [not_or, not_not] at h
      exact h
  refine ⟨hm, hv, hnext.1, hnext.2, Doubled.ite_valid .., Doubled.ite_valid ..,
    Doubled.ite_valid .., ?_, hprofile.1, hprofile.2, hprofile.2⟩
  unfold Recorder.repaired
  dsimp only
  rw [hf]
  rfl

lemma init_nextSequence (hm : r.magic = lsBlackboxMagic) (hv : r.version = lsBlackboxVersion) :
    (lsBlackboxInit bd r).nextSequence =
      if ¬ r.nextSequence.valid ∨ r.nextSequence.value = 0
      then .store (if (r.blackbox bd).newest + 1 ≠ 0 then (r.blackbox bd).newest + 1 else 1)
      else r.nextSequence := by
  rw [lsBlackboxInit, if_neg (not_or.mpr ⟨not_not.mpr hm, not_not.mpr hv⟩)]
  rfl

end Reset

/-! ### The ring behind the reset -/

/-- The recorder behind a reset after the first `k` stores of a record. -/
def interrupted (bd : Build) (r : Recorder) (entry : BlackboxRecord) (k : ℕ) : Recorder :=
  lsBlackboxInit bd (Stores.upTo (recordStores bd r entry) k r)

/-- A valid record in the slot of the interrupted one is the old one or the new one. -/
def TornFails (bd : Build) (r : Recorder) (entry : BlackboxRecord) (k : ℕ) : Prop :=
  let found := recordAt (Stores.upTo (recordStores bd r entry) k r).records (r.slot bd)
  recordValid found = true →
    found = recordAt r.records (r.slot bd) ∨ found = storedRecord r.sequence entry

/-- The record is complete, its bytes from `k` on being those that were there before, and the
next number was not stored. -/
def CompleteUnnumbered (bd : Build) (r : Recorder) (entry : BlackboxRecord) (k : ℕ) : Prop :=
  (Medium.read r.records (retainedSize * r.slot bd) retainedSize).drop k =
      (storedRecord r.sequence entry).bytes.drop k ∧
    k + 1 < (recordStores bd r entry).length

instance (bd : Build) (r : Recorder) (entry : BlackboxRecord) (k : ℕ) :
    Decidable (CompleteUnnumbered bd r entry k) := inferInstanceAs (Decidable (_ ∧ _))

section Behind

variable {bd : Build} {records : List BlackboxRecord} {r : Recorder} {entry : BlackboxRecord}
  {k : ℕ}

lemma interrupted_records (h : r.Sound) :
    (interrupted bd r entry k).records = r.ringTorn bd entry k := by
  obtain ⟨hm, hv, -⟩ := upTo_recordStores_frame bd r entry k
  rw [interrupted, init_records (hm.trans h.magic) (hv.trans h.version),
    upTo_recordStores_records]

lemma interrupted_sound (h : r.Sound) : (interrupted bd r entry k).Sound := by
  obtain ⟨hm, hv, hf⟩ := upTo_recordStores_frame bd r entry k
  exact init_sound (hm.trans h.magic) (hv.trans h.version) (hf.trans h.frozen)

/-- If the next number was not stored, it is still the old one. -/
lemma interrupted_next_of_lt (h : r.Sound) (hk : k + 1 < (recordStores bd r entry).length) :
    (interrupted bd r entry k).nextSequence = r.nextSequence := by
  obtain ⟨hm, hv, -⟩ := upTo_recordStores_frame bd r entry k
  rw [interrupted, init_nextSequence (hm.trans h.magic) (hv.trans h.version),
    upTo_recordStores_nextSequence, if_pos hk,
    if_neg (not_or.mpr ⟨not_not.mpr h.nextSequence, h.nextSequence_ne⟩)]

lemma nextSequence_number {n : ℕ} (hn : n < numberPeriod - 1) :
    nextSequence (number n) = number n + 1 := by
  refine if_neg fun hmax => ?_
  have := congrArg UInt32.toNat hmax
  rw [number_toNat, Nat.mod_eq_of_lt (by omega)] at this
  have hval : (0xffffffff : UInt32).toNat = numberPeriod := rfl
  omega

/-- Otherwise it is the number behind the record, stored or found again. -/
lemma interrupted_next_of_le {n : ℕ} (h : Nearly bd n r) (hc : 0 < bd.blackboxCapacity)
    (hn : n + 1 < 2 ^ 31 - 1) (hk : ¬ k + 1 < (recordStores bd r entry).length) :
    (interrupted bd r entry k).nextSequence.value = number (n + 1) := by
  obtain ⟨hm, hv, -⟩ := upTo_recordStores_frame bd r entry k
  have hperiod : n < numberPeriod - 1 := by unfold numberPeriod; omega
  have hring : r.ringTorn bd entry k = r.ringWith bd entry :=
    Recorder.ringTorn_of_le entry (by rw [recordStores_length] at hk; omega)
  rw [interrupted, init_nextSequence (hm.trans h.sound.magic) (hv.trans h.sound.version)]
  split
  · -- the pair does not fit: the newest record is the one that was written
    have hnewest : ((Stores.upTo (recordStores bd r entry) k r).blackbox bd).newest =
        number n := by
      have hmem := fun x => Recorder.mem_valid_iff bd (x := x) (hm.trans h.sound.magic)
      simp only [upTo_recordStores_records, hring] at hmem
      refine Blackbox.newest_of_window (by decide) (by omega) (fun x hx => ?_) ?_
      · obtain ⟨j, hj, hvalid, rfl⟩ := (hmem x).mp hx
        obtain ⟨i, hi, -, -, hseq⟩ := h.slots_ringWith hc (by omega) entry hj hvalid
        exact ⟨i, hi, hseq⟩
      · refine ⟨storedRecord (number n) entry, (hmem _).mpr ⟨r.slot bd, Nat.mod_lt _ hc, ?_⟩, rfl⟩
        rw [Recorder.ringWith, recordAt_write_bytes, h.sequence]
        exact ⟨recordValid_storedRecord (number_ne_zero n) _, rfl⟩
    rw [Doubled.store_value, hnewest, ← nextSequence_number hperiod, ← number_succ,
      if_pos (number_ne_zero _)]
  · rw [upTo_recordStores_nextSequence, if_neg hk, h.sequence, ← number_succ]
    split <;> rfl

/-- The ring behind the reset, if the next number was stored or found again. -/
lemma interrupted_numbered {n : ℕ} (h : Nearly bd n r) (hc : 0 < bd.blackboxCapacity)
    (hn : n + 1 < 2 ^ 31 - 1) (hk : ¬ k + 1 < (recordStores bd r entry).length) :
    Nearly bd (n + 1) (interrupted bd r entry k) ∧
      OverwritesOldest bd (interrupted bd r entry k) := by
  have hring : (interrupted bd r entry k).records = r.ringWith bd entry := by
    rw [interrupted_records h.sound]
    exact Recorder.ringTorn_of_le entry (by rw [recordStores_length] at hk; omega)
  exact h.recorded hc hn (interrupted_sound h.sound) hring (interrupted_next_of_le h hc hn hk)

/-- A slot other than the one of the interrupted record. -/
lemma recordAt_interrupted_of_ne (h : r.Sound) {j : ℕ} (hj : j ≠ r.slot bd) :
    recordAt (interrupted bd r entry k).records j = recordAt r.records j := by
  rw [interrupted_records h, Recorder.ringTorn, recordAt_write_of_ne _ _ hj]
  rw [List.length_take, BlackboxRetained.bytes_length]
  exact Nat.min_le_right ..

/-- The ring behind the reset, if the next number was not stored. -/
lemma interrupted_unnumbered {n : ℕ} (h : Nearly bd n r) (hn : n < numberPeriod)
    (htorn : TornFails bd r entry k) (hk : k + 1 < (recordStores bd r entry).length) :
    Nearly bd n (interrupted bd r entry k) := by
  refine ⟨interrupted_sound h.sound, ?_, fun j hj hv => ?_⟩
  · rw [interrupted_next_of_lt h.sound hk, h.next]
  · by_cases hjs : j = r.slot bd
    · subst hjs
      rw [interrupted_records h.sound] at hv ⊢
      rw [TornFails, upTo_recordStores_records] at htorn
      obtain hold | hnew := htorn hv
      · rw [hold] at hv ⊢
        exact h.slots _ hj hv
      · rw [hnew]
        exact ⟨n, le_rfl, by omega, (h.slot hn).symm, h.sequence⟩
    · rw [recordAt_interrupted_of_ne h.sound hjs] at hv ⊢
      exact h.slots j hj hv

/-- The numbers of the records in the ring come before the next one. -/
lemma Filed.sequence_ne_number (h : Filed bd records r) (hfar : records.length < 2 ^ 31 - 1) {j : ℕ}
    (hj : j < bd.blackboxCapacity) (hv : recordValid (recordAt r.records j) = true) :
    (recordAt r.records j).sequence ≠ number records.length := by
  obtain ⟨i, hlive, -, hi⟩ := h.exists_kept hj hv
  rw [← hi]
  intro heq
  have hlt := hlive.1
  have : i = records.length := number_inj (by omega) (by omega) heq
  omega

lemma Filed.overwritesOldest (h : Filed bd records r) (hc : 0 < bd.blackboxCapacity)
    (hfar : records.length < 2 ^ 31 - 1) : OverwritesOldest bd r :=
  ((h.nearly hfar).overwritesOldest_iff hc hfar).mpr (.inl fun hin =>
    h.sequence_ne_number hfar (Nat.mod_lt _ hc) hin.1 hin.2)

/-- The slot of the interrupted record holds a record with the next number exactly if the
record is complete. -/
lemma Filed.slot_complete_iff (h : Filed bd records r) (hc : 0 < bd.blackboxCapacity)
    (hfar : records.length < 2 ^ 31 - 1) (htorn : TornFails bd r entry k) :
    recordValid (recordAt (interrupted bd r entry k).records (r.slot bd)) = true ∧
      (recordAt (interrupted bd r entry k).records (r.slot bd)).sequence = number records.length ↔
    (Medium.read r.records (retainedSize * r.slot bd) retainedSize).drop k =
      (storedRecord r.sequence entry).bytes.drop k := by
  rw [interrupted_records h.sound, ← recordAt_ringTorn_eq_iff]
  rw [TornFails, upTo_recordStores_records] at htorn
  constructor
  · rintro ⟨hv, hseq⟩
    refine (htorn hv).resolve_left fun hold => ?_
    rw [hold] at hv hseq
    exact h.sequence_ne_number hfar (Nat.mod_lt _ hc) hv hseq
  · intro hnew
    rw [hnew, h.sequence]
    exact ⟨recordValid_storedRecord (number_ne_zero _) _, rfl⟩

/-- Another record is in the ring, unless there was none or there is one slot. -/
lemma Filed.alone_iff (h : Filed bd records r) (hc : 0 < bd.blackboxCapacity)
    (hfar : records.length < 2 ^ 31 - 1) :
    (∀ j < bd.blackboxCapacity, j ≠ records.length % bd.blackboxCapacity →
      recordValid (recordAt r.records j) = false) ↔
      records.length = 0 ∨ bd.blackboxCapacity = 1 := by
  constructor
  · intro hall
    by_contra hno
    rw [not_or] at hno
    -- the last record lies in another slot than the next one
    have hlast := kept_last bd (show 0 < records.length by omega)
    have hslot : Ring.wrapSlot numberPeriod bd.blackboxCapacity (records.length - 1) =
        (records.length - 1) % bd.blackboxCapacity := by
      rw [Ring.wrapSlot, Nat.mod_eq_of_lt
        (show records.length - 1 < numberPeriod by unfold numberPeriod; omega)]
    have hrec := h.recordAt_kept hc hlast
    rw [hslot] at hrec
    have hinvalid := hall _ (Nat.mod_lt _ hc) fun heq => hno.2 <| by
      have hdvd : bd.blackboxCapacity ∣ records.length - (records.length - 1) :=
        (Nat.modEq_iff_dvd' (by omega)).mp heq
      rw [show records.length - (records.length - 1) = 1 by omega] at hdvd
      exact Nat.dvd_one.mp hdvd
    rw [hrec, recordValid_item] at hinvalid
    cases hinvalid
  · rintro (hn | hone) j hj hne
    · by_contra hv
      obtain ⟨i, hlive, -⟩ := h.exists_kept hj (by simpa using hv)
      have := hlive.1
      omega
    · rw [hone, Nat.mod_one] at hne
      omega

end Behind

/-- **A reset costs at most the record being written**, exactly if it does not come between the
last byte of the record and the next number, or no record follows, or there is no older one. -/
theorem reset_spares_older_iff (bd : Build) (hc : 0 < bd.blackboxCapacity) (ops : List RecorderOp)
    (entry : BlackboxRecord) (k : ℕ) (further : List RecorderOp)
    (htorn : TornFails bd (Run.after (RecorderOp.step bd) ops blackboxReset) entry k)
    (hfar : (accepted bd ops blackboxReset).length + 1 + (accepted bd further
      (interrupted bd (Run.after (RecorderOp.step bd) ops blackboxReset) entry k)).length <
        2 ^ 31 - 1) :
    OverwritesOldest bd (Run.after (RecorderOp.step bd) ops blackboxReset) ∧
        RingSafe bd further
          (interrupted bd (Run.after (RecorderOp.step bd) ops blackboxReset) entry k) ↔
      ¬ CompleteUnnumbered bd (Run.after (RecorderOp.step bd) ops blackboxReset) entry k ∨
        accepted bd further
          (interrupted bd (Run.after (RecorderOp.step bd) ops blackboxReset) entry k) = [] ∨
        (accepted bd ops blackboxReset).length = 0 ∨ bd.blackboxCapacity = 1 := by
  have hfiled := (filed_reset bd).after ops
  rw [List.nil_append] at hfiled
  generalize Run.after (RecorderOp.step bd) ops blackboxReset = r at *
  generalize accepted bd ops blackboxReset = records at *
  have hnearly := hfiled.nearly (by omega)
  rw [and_iff_right (hfiled.overwritesOldest hc (by omega))]
  by_cases hk : k + 1 < (recordStores bd r entry).length
  · have hbehind := interrupted_unnumbered hnearly (by unfold numberPeriod; omega) htorn hk
    have hslot := hnearly.slot (by unfold numberPeriod; omega)
    have hcomplete := hfiled.slot_complete_iff hc (by omega) htorn
    rw [hslot] at hcomplete
    have halone : (∀ j < bd.blackboxCapacity, j ≠ records.length % bd.blackboxCapacity →
        recordValid (recordAt (interrupted bd r entry k).records j) = false) ↔
          records.length = 0 ∨ bd.blackboxCapacity = 1 := by
      rw [← hfiled.alone_iff hc (by omega)]
      refine forall₃_congr fun j _ hj => ?_
      rw [recordAt_interrupted_of_ne hfiled.sound (by rw [hslot]; exact hj)]
    rw [hbehind.ringSafe_iff hc further (by omega),
      hbehind.overwritesOldest_iff hc (by omega), hcomplete, halone, CompleteUnnumbered,
      and_iff_left hk, hslot]
    exact or_left_comm
  · obtain ⟨hbehind, hold⟩ := interrupted_numbered hnearly hc (by omega) hk
    exact iff_of_true ((hbehind.ringSafe_iff hc further (by omega)).mpr (.inr hold))
      (.inl fun h => hk h.2)

/-- A recorder with one record. -/
def oneRecord : Recorder :=
  Run.after (RecorderOp.step Build.default) [.record (recordOfKind 1) none] blackboxReset

/-- A reset behind 20 bytes of the second record. -/
theorem reset_spares_older_iff_torn :
    RingSafe Build.default [.record (recordOfKind 3) none, .record (recordOfKind 4) none]
      (interrupted Build.default oneRecord (recordOfKind 2) 20) :=
  ((reset_spares_older_iff Build.default (by decide) [.record (recordOfKind 1) none]
    (recordOfKind 2) 20 [.record (recordOfKind 3) none, .record (recordOfKind 4) none]
    (fun hv => absurd hv (by decide +kernel)) (by decide +kernel)).mpr
      (.inl (by decide +kernel))).2

/-- A reset behind the last byte of the second record: the record is complete, and it is found
by the readers, but the third one takes its number and its slot while the first one stays. -/
theorem complete_record_overwritten :
    TornFails Build.default oneRecord (recordOfKind 2) retainedSize ∧
    CompleteUnnumbered Build.default oneRecord (recordOfKind 2) retainedSize ∧
    ¬ RingSafe Build.default [.record (recordOfKind 3) none]
      (interrupted Build.default oneRecord (recordOfKind 2) retainedSize) := by
  refine ⟨fun _ => .inr ?_, by decide +kernel, fun hsafe => ?_⟩
  · rw [upTo_recordStores_records, Recorder.ringTorn_of_le _ le_rfl, Recorder.ringWith,
      recordAt_write_bytes]
  · exact hsafe.2.1 (by decide +kernel) (by decide +kernel) 0 (by decide) (by decide +kernel)
      (by decide +kernel) (by decide +kernel)

end Latch
