/-
What the ring of the flight recorder holds after any number of records.

The `i`-th record gets the number `number i`, which starts again at one behind the largest
32-bit number, and goes to the slot that the number chooses. `Filed` says that the ring holds
the records that no later one replaced.

* `Filed.step`: every call keeps it;
* `Filed.inOrder`: if the last records are all there, they lie in the ring without holes;
* `ring_law_iff`: the readers hand out the last records, unless the numbers have just started
  again and the number of slots does not divide `2 ^ 32 - 1`;
* `record_missing_after_wrap`: one of 64 slots is lost for the record behind `2 ^ 32 - 1`.
-/
import Latch.Recorder.Recorder
import Latch.Lib.Ring

namespace Latch

open Ring

/-! ### Numbers and slots -/

/-- How many numbers there are: all but zero. -/
def numberPeriod : ℕ := 2 ^ 32 - 1

/-- The number of the `i`-th record. -/
def number (i : ℕ) : UInt32 := nextSequence^[i] 1

lemma number_succ (i : ℕ) : number (i + 1) = nextSequence (number i) :=
  Function.iterate_succ_apply' ..

lemma number_add (i j : ℕ) : number (i + j) = nextSequence^[j] (number i) := by
  rw [number, Nat.add_comm, Function.iterate_add_apply]
  rfl

lemma number_ne_zero (i : ℕ) : number i ≠ 0 := nextSequence_iterate_ne_zero (by decide) i

lemma number_toNat (i : ℕ) : (number i).toNat = i % numberPeriod + 1 := by
  unfold numberPeriod
  induction i with
  | zero => rfl
  | succ i ih =>
      rw [number_succ, nextSequence]
      split
      · rename_i hmax
        rw [hmax, show (0xffffffff : UInt32).toNat = 2 ^ 32 - 1 from rfl] at ih
        rw [UInt32.toNat_one]
        omega
      · rename_i hmax
        have hne : (number i).toNat ≠ 2 ^ 32 - 1 := fun h => hmax (UInt32.toNat_inj.mp h)
        rw [UInt32.toNat_add, UInt32.toNat_one]
        omega

/-- The slot of the `i`-th record. -/
lemma number_slot (capacity i : ℕ) :
    (number i - 1).toNat % capacity = wrapSlot numberPeriod capacity i := by
  have hle : (1 : UInt32) ≤ number i := by
    rw [UInt32.le_iff_toNat_le, number_toNat, UInt32.toNat_one]
    omega
  rw [wrapSlot, UInt32.toNat_sub_of_le _ _ hle, number_toNat, UInt32.toNat_one,
    Nat.add_sub_cancel]

/-- Records that lie close together have different numbers. -/
lemma number_inj {i j : ℕ} (hij : i < j + (2 ^ 31 - 1)) (hji : j < i + (2 ^ 31 - 1))
    (h : number i = number j) : i = j := by
  wlog hle : i ≤ j
  · exact (this hji hij h.symm (by omega)).symm
  · rw [show j = i + (j - i) by omega, number_add] at h
    have := nextSequence_iterate_inj (i := 0) (number_ne_zero i) (by omega) (by omega) h
    omega

/-! ### The ring -/

/-- The `i`-th of some records, as it lies in the ring. -/
def item (records : List BlackboxRecord) (i : ℕ) : BlackboxRetained :=
  storedRecord (number i) (records.getD i default)

/-- What a slot holds if it should hold some record or none. -/
def SlotHolds (x : Option BlackboxRetained) (y : BlackboxRetained) : Prop :=
  match x with
  | none => recordValid y = false
  | some r => y = r

/-- The ring holds those of some records that no later one replaced. -/
structure Filed (bd : Build) (records : List BlackboxRecord) (r : Recorder) : Prop where
  sound : r.Sound
  next : r.nextSequence.value = number records.length
  slots : ∀ k < bd.blackboxCapacity,
    SlotHolds (contents (wrapSlot numberPeriod bd.blackboxCapacity) (item records)
      records.length k) (recordAt r.records k)

section

variable {bd : Build} {records : List BlackboxRecord} {r : Recorder}

lemma filed_reset (bd : Build) : Filed bd [] blackboxReset :=
  ⟨blackboxReset_sound, rfl, fun k _ => recordValid_zero k⟩

lemma item_append (entry : BlackboxRecord) {i : ℕ} (h : i < records.length) :
    item (records ++ [entry]) i = item records i := by
  rw [item, item, List.getD_eq_getElem?_getD, List.getD_eq_getElem?_getD,
    List.getElem?_append_left h]

lemma item_last (entry : BlackboxRecord) :
    item (records ++ [entry]) records.length = storedRecord (number records.length) entry := by
  simp [item]

lemma Filed.sequence (h : Filed bd records r) : r.sequence = number records.length := by
  rw [Recorder.sequence, if_neg h.sound.nextSequence_ne, h.next]

/-- One more record. -/
lemma Filed.recorded (h : Filed bd records r) {entry : BlackboxRecord} {r' : Recorder}
    (hr : r.Recorded bd entry r') : Filed bd (records ++ [entry]) r' := by
  have hslot : r.slot bd = wrapSlot numberPeriod bd.blackboxCapacity records.length := by
    rw [Recorder.slot, h.sequence, number_slot]
  refine ⟨hr.sound h.sound, ?_, fun k hk => ?_⟩
  · rw [hr.nextSequence, h.sequence, List.length_append, List.length_singleton, number_succ]
    rfl
  · rw [List.length_append, List.length_singleton, contents, hr.records, Recorder.ringWith, hslot,
      h.sequence]
    split
    · rename_i heq
      rw [← heq, recordAt_write_bytes, item_last]
      rfl
    · rename_i hne
      rw [recordAt_write_of_ne _ (BlackboxRetained.bytes_length _).le (Ne.symm hne),
        contents_congr fun i hi => item_append entry hi]
      exact h.slots k hk

lemma Filed.step (h : Filed bd records r) (op : RecorderOp) :
    Filed bd (records ++ (op.accepts r).toList) (op.step bd r) := by
  have hring := step_ring bd h.sound op
  cases hop : op.accepts r with
  | none =>
      rw [hop] at hring
      rw [Option.toList_none, List.append_nil]
      exact ⟨h.sound.step op, by rw [hring.2]; exact h.next, by rw [hring.1]; exact h.slots⟩
  | some entry =>
      rw [hop] at hring
      exact h.recorded hring

/-- The ring after a whole run. -/
lemma Filed.after (h : Filed bd records r) (ops : List RecorderOp) :
    Filed bd (records ++ accepted bd ops r) (Run.after (RecorderOp.step bd) ops r) := by
  induction ops generalizing records r with
  | nil => simpa [accepted] using h
  | cons op ops ih =>
      rw [accepted, ← List.append_assoc]
      exact ih (h.step op)

/-! ### What the readers find -/

/-- The records of the ring that are still there. -/
abbrev Kept (bd : Build) (n i : ℕ) : Prop := Live (wrapSlot numberPeriod bd.blackboxCapacity) n i

lemma kept_last (bd : Build) {n : ℕ} (hn : 0 < n) : Kept bd n (n - 1) := by
  obtain ⟨m, rfl⟩ := Nat.exists_eq_succ_of_ne_zero hn.ne'
  exact live_last m

lemma Recorder.valid_eq (h : r.magic = lsBlackboxMagic) : (r.blackbox bd).valid =
    ((List.range bd.blackboxCapacity).filter (recordValid ∘ recordAt r.records)).map
      (recordAt r.records) := by
  rw [← List.filter_map]
  exact if_pos h

lemma Recorder.mem_valid_iff (bd : Build) (h : r.magic = lsBlackboxMagic) {x : BlackboxRetained} :
    x ∈ (r.blackbox bd).valid ↔ ∃ k < bd.blackboxCapacity,
      recordValid (recordAt r.records k) = true ∧ recordAt r.records k = x := by
  simp only [valid_eq h, List.mem_map, List.mem_filter, List.mem_range, Function.comp_apply,
    and_assoc]

/-- A valid record in a slot is one that is still there. -/
lemma Filed.exists_kept (h : Filed bd records r) {k : ℕ} (hk : k < bd.blackboxCapacity)
    (hv : recordValid (recordAt r.records k) = true) :
    ∃ i, Kept bd records.length i ∧ wrapSlot numberPeriod bd.blackboxCapacity i = k ∧
      item records i = recordAt r.records k := by
  have hslot := h.slots k hk
  cases hcont : contents (wrapSlot numberPeriod bd.blackboxCapacity) (item records)
      records.length k with
  | none =>
      rw [hcont] at hslot
      exact absurd (hv.symm.trans hslot) (by decide)
  | some y =>
      rw [hcont] at hslot
      obtain ⟨i, hlive, hi, hy⟩ := contents_eq_some_iff.mp hcont
      exact ⟨i, hlive, hi, hy.trans hslot.symm⟩

/-- A record that is still there lies in its slot. -/
lemma Filed.recordAt_kept (h : Filed bd records r) (hc : 0 < bd.blackboxCapacity) {i : ℕ}
    (hi : Kept bd records.length i) :
    recordAt r.records (wrapSlot numberPeriod bd.blackboxCapacity i) = item records i := by
  have hslot := h.slots (wrapSlot numberPeriod bd.blackboxCapacity i) (wrapSlot_lt hc i)
  rw [contents_of_live hi] at hslot
  exact hslot

lemma recordValid_item (records : List BlackboxRecord) (i : ℕ) :
    recordValid (item records i) = true := recordValid_storedRecord (number_ne_zero i) _

lemma Filed.mem_valid_iff (h : Filed bd records r) (hc : 0 < bd.blackboxCapacity)
    {x : BlackboxRetained} :
    x ∈ (r.blackbox bd).valid ↔ ∃ i, Kept bd records.length i ∧ item records i = x := by
  rw [Recorder.mem_valid_iff bd h.sound.magic]
  constructor
  · rintro ⟨k, hk, hv, rfl⟩
    obtain ⟨i, hlive, -, hi⟩ := h.exists_kept hk hv
    exact ⟨i, hlive, hi⟩
  · rintro ⟨i, hlive, rfl⟩
    have hslot := h.recordAt_kept hc hlive
    exact ⟨_, wrapSlot_lt hc i, by rw [hslot]; exact recordValid_item records i, hslot⟩

section

variable (hc : 0 < bd.blackboxCapacity) (hcap : bd.blackboxCapacity < 2 ^ 30)
include hc hcap

/-- A record that is still there is recent. -/
lemma kept_recent {n i : ℕ} (hi : Kept bd n i) : i < n ∧ n < i + 2 * bd.blackboxCapacity :=
  ⟨hi.1, hi.recent hc (by unfold numberPeriod; omega)⟩

/-- Two recent records in the ring are different. -/
lemma item_inj {i j : ℕ} (hi : i < records.length ∧ records.length < i + 2 * bd.blackboxCapacity)
    (hj : j < records.length ∧ records.length < j + 2 * bd.blackboxCapacity)
    (heq : item records i = item records j) : i = j :=
  number_inj (by omega) (by omega) (congrArg BlackboxRetained.sequence heq)

variable (h : Filed bd records r)
include h

/-- The newest number is the one of the last record, with or without holes. -/
lemma Filed.newest_eq (hn : 0 < records.length) :
    (r.blackbox bd).newest = number (records.length - 1) := by
  set b := records.length - 2 * bd.blackboxCapacity with hb
  have hnumber : ∀ i, b ≤ i → number i = nextSequence^[i - b] (number b) := fun i hi => by
    rw [← number_add, Nat.add_sub_cancel' hi]
  rw [hnumber _ (by omega)]
  refine Blackbox.newest_of_window (number_ne_zero b) (by omega) (fun x hx => ?_) ?_
  · obtain ⟨i, hi, rfl⟩ := (h.mem_valid_iff hc).mp hx
    have hrecent := kept_recent hc hcap hi
    exact ⟨i - b, by omega, hnumber i (by omega)⟩
  · exact ⟨_, (h.mem_valid_iff hc).mpr ⟨_, kept_last bd hn, rfl⟩, hnumber _ (by omega)⟩

/-- A record that was replaced is not found. -/
lemma Filed.getRecent_eq_none {i : ℕ} (hi : i < records.length)
    (hnear : records.length ≤ i + bd.blackboxCapacity) (hgone : ¬ Kept bd records.length i) :
    lsBlackboxGetRecent (r.blackbox bd) (records.length - 1 - i) = none := by
  rw [lsBlackboxGetRecent]
  split
  · rfl
  · have hback : sequenceBefore (number (records.length - 1)) (records.length - 1 - i) =
        number i := by
      have := sequenceBefore_iterate (number_ne_zero i) 0 (records.length - 1 - i)
      rwa [Nat.zero_add, ← number_add, show i + (records.length - 1 - i) = records.length - 1 by
        omega] at this
    rw [h.newest_eq hc hcap (by omega), hback, Option.map_eq_none_iff, List.find?_eq_none]
    intro x hx hseq
    obtain ⟨j, hj, rfl⟩ := (h.mem_valid_iff hc).mp hx
    have hrecent := kept_recent hc hcap hj
    have hij : j = i := number_inj (by omega) (by omega) (of_decide_eq_true hseq)
    exact hgone (hij ▸ hj)

/-- No record is found twice. -/
lemma Filed.valid_nodup : (r.blackbox bd).valid.Nodup := by
  rw [Recorder.valid_eq h.sound.magic]
  refine List.Nodup.map_on (fun k hk l hl heq => ?_) (List.nodup_range.filter _)
  rw [List.mem_filter, List.mem_range] at hk hl
  obtain ⟨i, hi, hik, hir⟩ := h.exists_kept hk.1 hk.2
  obtain ⟨j, hj, hjl, hjr⟩ := h.exists_kept hl.1 hl.2
  have hij : i = j := item_inj hc hcap (kept_recent hc hcap hi) (kept_recent hc hcap hj)
    ((hir.trans heq).trans hjr.symm)
  rw [← hik, ← hjl, hij]

/-- The last records, as they lie in the ring. -/
lemma Filed.inOrder (hall : AllLive numberPeriod bd.blackboxCapacity records.length) :
    InOrder (r.blackbox bd) ((List.range (min records.length bd.blackboxCapacity)).map fun j =>
      item records (records.length - min records.length bd.blackboxCapacity + j)) := by
  set m := min records.length bd.blackboxCapacity with hm
  constructor
  · refine (List.perm_ext_iff_of_nodup ?_ (h.valid_nodup hc hcap)).mpr fun x => ?_
    · refine List.Nodup.map_on (fun j hj l hl heq => ?_) List.nodup_range
      rw [List.mem_range] at hj hl
      have := item_inj hc hcap (by omega) (by omega) heq
      omega
    · rw [h.mem_valid_iff hc, List.mem_map]
      constructor
      · rintro ⟨j, hj, rfl⟩
        rw [List.mem_range] at hj
        exact ⟨_, hall _ (by omega) (by omega), rfl⟩
      · rintro ⟨i, hi, rfl⟩
        have hnear := hall.near hc hi
        have hlt := hi.1
        exact ⟨i - (records.length - m), List.mem_range.mpr (by omega), by congr 1; omega⟩
  · rw [List.isChain_iff_getElem]
    intro j hj
    simp only [List.getElem_map, List.getElem_range]
    exact number_succ _

end

end

/-! ### The law of the ring -/

/-- The readers hand out the last of some records, in their order. -/
def RingLaw (bd : Build) (records : List BlackboxRecord) (bb : Blackbox) : Prop :=
  (∀ capacity, lsBlackboxCopy bb capacity =
    records.drop (records.length - min records.length (min capacity bd.blackboxCapacity))) ∧
  ∀ age < min records.length bd.blackboxCapacity,
    lsBlackboxGetRecent bb age = records[records.length - 1 - age]?

section Law

variable {bd : Build} {records : List BlackboxRecord} {r : Recorder}

lemma map_record_items (records : List BlackboxRecord) {m : ℕ} (hm : m ≤ records.length) :
    ((List.range m).map fun j => item records (records.length - m + j)).map
      BlackboxRetained.record = records.drop (records.length - m) := by
  refine List.ext_getElem (by simp; omega) fun j h1 h2 => ?_
  rw [List.length_drop] at h2
  simp [item, storedRecord, List.getElem?_eq_getElem (show records.length - m + j <
    records.length by omega)]

/-- The law holds exactly if the last records are all there. -/
lemma Filed.ringLaw_iff (h : Filed bd records r) (hc : 0 < bd.blackboxCapacity)
    (hcap : bd.blackboxCapacity < 2 ^ 30) :
    RingLaw bd records (r.blackbox bd) ↔
      AllLive numberPeriod bd.blackboxCapacity records.length := by
  constructor
  · rintro ⟨-, hrecent⟩ i hi hnear
    by_contra hgone
    have hnone := h.getRecent_eq_none hc hcap hi hnear hgone
    rw [hrecent _ (by omega), List.getElem?_eq_none_iff] at hnone
    omega
  · intro hall
    have horder := h.inOrder hc hcap hall
    set m := min records.length bd.blackboxCapacity with hm
    have hlen : ((List.range m).map fun j =>
        item records (records.length - m + j)).length = m := by simp
    have hmap := map_record_items records (show m ≤ records.length by omega)
    refine ⟨fun capacity => ?_, fun age hage => ?_⟩
    · rw [horder.copy (by omega), List.map_drop, hmap, hlen, List.drop_drop]
      congr 1
      omega
    · have hget : ∀ (l : List BlackboxRetained) (k : ℕ) (hk : k < l.length),
          some l[k].record = (l.map BlackboxRetained.record)[k]? := fun l k hk => by simp [hk]
      rw [horder.getRecent (by omega) (by omega), hget, hmap, hlen, List.getElem?_drop]
      congr 1
      omega

/-- A recorder that is not quiet accepts the same record over and over. -/
lemma accepted_replicate (hr : r.Sound) (hp : r.profile.value ≠ lsBlackboxProfileQuiet)
    {entry : BlackboxRecord} (hk : 1 ≤ entry.kind ∧ entry.kind ≤ 10) (uptimeMs : Option UInt32)
    (n : ℕ) : accepted bd (List.replicate n (.record entry uptimeMs)) r =
      List.replicate n (stamped entry uptimeMs) := by
  induction n generalizing r with
  | zero => rfl
  | succ n ih =>
      have haccepts : (RecorderOp.record entry uptimeMs).accepts r =
          some (stamped entry uptimeMs) :=
        if_pos ⟨hk, by rw [hr.frozen]; rfl, decide_eq_true (.inl hp)⟩
      have hring := step_ring bd hr (.record entry uptimeMs)
      rw [haccepts] at hring
      rw [List.replicate_succ, accepted, haccepts,
        ih (hr.step _) (by rw [hring.profile]; exact hp)]
      rfl

end Law

/-- **The law of the ring.** After any run from a cleared recorder, the readers hand out the
last records, exactly if the numbers have not started again, or the number of slots divides
how many numbers there are, or the new numbers have gone through all slots. -/
theorem ring_law_iff (bd : Build) (hc : 0 < bd.blackboxCapacity)
    (hcap : bd.blackboxCapacity < 2 ^ 30) (ops : List RecorderOp) :
    RingLaw bd (accepted bd ops blackboxReset)
        ((Run.after (RecorderOp.step bd) ops blackboxReset).blackbox bd) ↔
      (accepted bd ops blackboxReset).length ≤ numberPeriod ∨
        bd.blackboxCapacity ∣ numberPeriod ∨
        (accepted bd ops blackboxReset).length % numberPeriod = 0 ∨
        bd.blackboxCapacity ≤ (accepted bd ops blackboxReset).length % numberPeriod := by
  have hfiled := (filed_reset bd).after ops
  rw [List.nil_append] at hfiled
  rw [hfiled.ringLaw_iff hc hcap, allLive_iff hc (by unfold numberPeriod; omega)]

/-- A record of a given kind. -/
def recordOfKind (kind : UInt16) : BlackboxRecord := { (default : BlackboxRecord) with kind := kind }

/-- Two records in a quiet recorder, of which it accepts the second. -/
def quietRun : List RecorderOp :=
  [.setProfile 0, .record (recordOfKind 1) none, .record (recordOfKind 4) (some 7)]

/-- The law holds after a short run. -/
theorem ring_law_iff_quiet :
    RingLaw Build.default (accepted Build.default quietRun blackboxReset)
      ((Run.after (RecorderOp.step Build.default) quietRun blackboxReset).blackbox Build.default) ∧
    (accepted Build.default quietRun blackboxReset).length = 1 :=
  ⟨(ring_law_iff Build.default (by decide) (by decide) quietRun).mpr (.inl (by decide +kernel)),
    by decide +kernel⟩

/-- Behind `2 ^ 32` records, the 64th newest is not in a ring of 64 slots. -/
theorem record_missing_after_wrap :
    (accepted Build.default (List.replicate (2 ^ 32) (.record (recordOfKind 1) none))
      blackboxReset).length = 2 ^ 32 ∧
    lsBlackboxGetRecent
      ((Run.after (RecorderOp.step Build.default)
        (List.replicate (2 ^ 32) (.record (recordOfKind 1) none)) blackboxReset).blackbox
          Build.default) 63 = none := by
  set ops := List.replicate (2 ^ 32) (RecorderOp.record (recordOfKind 1) none) with hops
  have hlen : (accepted Build.default ops blackboxReset).length = 2 ^ 32 := by
    rw [hops, accepted_replicate blackboxReset_sound (by decide) (by decide),
      List.length_replicate]
  have hfiled := (filed_reset Build.default).after ops
  rw [List.nil_append] at hfiled
  -- the record with the number one has taken the slot
  have hgone : ¬ Kept Build.default (2 ^ 32) (2 ^ 32 - 64) := fun hlive =>
    hlive.2 numberPeriod (by decide) (by decide) (by decide)
  have hnone := hfiled.getRecent_eq_none (i := 2 ^ 32 - 64) (by decide) (by decide)
    (by rw [hlen]; decide) (by rw [hlen]; decide) (by rw [hlen]; exact hgone)
  rw [hlen] at hnone
  exact ⟨hlen, hnone⟩

end Latch
