
/-
The readers of the retained flight recorder, `src/core/blackbox.c`.

A record is valid when its sequence is not zero and its CRC fits. A recorder whose
magic is lost reads as empty: the readers reset it before they look.

`InOrder` lists the valid records of a ring without holes in the order in which they were
written; `InOrder.getRecent` says that `ls_blackbox_get_recent` reads that list from its end.
-/
import Latch.Core.Types
import Latch.Lib.Serial

namespace Latch

open Bytes Serial

variable {base : UInt32} {i : ℕ}

/-- `LS_BLACKBOX_MAGIC`. -/
def lsBlackboxMagic : UInt32 := 0x5842424c

/-- `LS_BLACKBOX_SENSITIVE`. -/
def lsBlackboxSensitive : UInt16 := 4

/-- `ls_blackbox_record_t`. -/
structure BlackboxRecord where
  timestampMs : UInt32
  kind : UInt16
  sourceId : UInt16
  flags : UInt16
  reserved : UInt16
  value : Fin 4 → Int32
  deriving DecidableEq, Inhabited

/-- `ls_blackbox_retained_record_t`. -/
structure BlackboxRetained where
  sequence : UInt32
  record : BlackboxRecord
  crc : UInt32
  deriving DecidableEq, Inhabited

/-- The part of `ls_blackbox_retained_t` that is read into an envelope. -/
structure Blackbox where
  magic : UInt32
  records : List BlackboxRetained
  deriving DecidableEq, Inhabited

/-- `record_crc`. -/
def recordCrc (r : BlackboxRetained) : UInt32 :=
  lsCrc32 (le32 r.sequence ++ le32 r.record.timestampMs ++ le16 r.record.kind ++
    le16 r.record.sourceId ++ le16 r.record.flags ++ le16 r.record.reserved ++
    (List.ofFn fun i => le32 (r.record.value i).toUInt32).flatten)

/-- `record_valid`. -/
def recordValid (r : BlackboxRetained) : Bool := r.sequence ≠ 0 ∧ r.crc = recordCrc r

/-- A record as it is stored under a number, with its CRC. -/
def storedRecord (sequence : UInt32) (record : BlackboxRecord) : BlackboxRetained where
  sequence := sequence
  record := record
  crc := recordCrc { sequence := sequence, record := record, crc := 0 }

lemma recordValid_storedRecord {sequence : UInt32} (h : sequence ≠ 0) (record : BlackboxRecord) :
    recordValid (storedRecord sequence record) = true := decide_eq_true ⟨h, rfl⟩

/-- `sequence_before`. -/
def sequenceBefore (sequence : UInt32) : ℕ → UInt32
  | 0 => sequence
  | count + 1 => sequenceBefore (if sequence = 1 then 0xffffffff else sequence - 1) count

/-- The valid records, in the order of their slots. -/
def Blackbox.valid (bb : Blackbox) : List BlackboxRetained :=
  if bb.magic = lsBlackboxMagic then bb.records.filter recordValid else []

/-- The count of `ls_blackbox_get_stats`. -/
def Blackbox.count (bb : Blackbox) : ℕ := bb.valid.length

lemma Blackbox.count_le (bb : Blackbox) : bb.count ≤ bb.records.length := by
  unfold Blackbox.count Blackbox.valid
  split
  · exact List.length_filter_le _ _
  · exact Nat.zero_le _

/-- The newest sequence among the valid records, `0` if there is none. -/
def Blackbox.newest (bb : Blackbox) : UInt32 :=
  bb.valid.foldl (fun newest r =>
    if newest = 0 ∨ 0 < (r.sequence - newest).toInt32 then r.sequence else newest) 0

/-- `ls_blackbox_get_recent`; `none` is `LS_EAGAIN`. -/
def lsBlackboxGetRecent (bb : Blackbox) (age : ℕ) : Option BlackboxRecord :=
  if bb.count ≤ age ∨ bb.newest = 0 then none
  else (bb.valid.find? fun r => r.sequence = sequenceBefore bb.newest age).map (·.record)

/-- The sequence number that `ls_blackbox_record` uses next; zero is skipped. -/
def nextSequence (sequence : UInt32) : UInt32 :=
  if sequence = 0xffffffff then 1 else sequence + 1

/-- The loop of `ls_blackbox_copy` from a number on, with the records found so far; `fuel`
counts the turns. -/
def copyFrom (bb : Blackbox) (wanted : ℕ) : ℕ → UInt32 → List BlackboxRecord → List BlackboxRecord
  | 0, _, found => found
  | fuel + 1, sequence, found =>
    if wanted ≤ found.length then found
    else
      let found := found ++
        ((bb.valid.find? fun r => r.sequence = sequence).map BlackboxRetained.record).toList
      if sequence = bb.newest then found
      else copyFrom bb wanted fuel (nextSequence sequence) found

/-- `ls_blackbox_copy`: the records that it hands out. The loop starts `wanted - 1` numbers
before the newest one, so `wanted` turns are enough. -/
def lsBlackboxCopy (bb : Blackbox) (capacity : ℕ) : List BlackboxRecord :=
  let wanted := min bb.count capacity
  if wanted = 0 then []
  else copyFrom bb wanted wanted (sequenceBefore bb.newest (wanted - 1)) []

/-! ### A ring without holes -/

/-- The valid records in the order in which they were written, with none missing between them:
the ring has no hole. -/
structure InOrder (bb : Blackbox) (records : List BlackboxRetained) : Prop where
  perm : records.Perm bb.valid
  consecutive : records.IsChain fun a b => b.sequence = nextSequence a.sequence

lemma nextSequence_ne_zero (sequence : UInt32) : nextSequence sequence ≠ 0 := by
  unfold nextSequence
  split
  · decide
  · rename_i hmax
    refine fun h => hmax (UInt32.toNat_inj.mp ?_)
    have hsum := congrArg UInt32.toNat h
    rw [UInt32.toNat_add, UInt32.toNat_one, UInt32.toNat_zero] at hsum
    have hlt := sequence.toNat_lt
    change sequence.toNat = 2 ^ 32 - 1
    omega

lemma nextSequence_iterate_ne_zero (h : base ≠ 0) (i : ℕ) :
    nextSequence^[i] base ≠ 0 := by
  cases i with
  | zero => exact h
  | succ i =>
      rw [Function.iterate_succ_apply']
      exact nextSequence_ne_zero _

/-- `sequence_before` walks back. -/
lemma sequenceBefore_iterate (h : base ≠ 0) (i n : ℕ) :
    sequenceBefore (nextSequence^[i + n] base) n = nextSequence^[i] base := by
  induction n with
  | zero => rfl
  | succ n ih =>
      have hne := nextSequence_iterate_ne_zero h (i + n)
      rw [← Nat.add_assoc, Function.iterate_succ_apply', sequenceBefore]
      generalize nextSequence^[i + n] base = x at *
      have hback : (if nextSequence x = 1 then 0xffffffff else nextSequence x - 1) = x := by
        unfold nextSequence
        by_cases hmax : x = 0xffffffff
        · simp [hmax]
        · have hone : x + 1 ≠ 1 := fun h1 => hne (by simpa using h1)
          rw [if_neg hmax, if_neg hone, UInt32.add_sub_cancel]
      rw [hback]
      exact ih

/-- The number of a record, by the number of steps from the first one. -/
lemma nextSequence_iterate (h : base ≠ 0) (hi : i < 2 ^ 31) :
    (nextSequence^[i] base).toNat =
      if base.toNat + i < 2 ^ 32 then base.toNat + i else base.toNat + i + 1 - 2 ^ 32 := by
  have h0 : 0 < base.toNat := by
    rw [Nat.pos_iff_ne_zero]
    exact fun hz => h (UInt32.toNat_inj.mp hz)
  have hlt := base.toNat_lt
  induction i with
  | zero => simp [hlt]
  | succ i ih =>
      have ih := ih (by omega)
      rw [Function.iterate_succ_apply']
      generalize nextSequence^[i] base = x at *
      have hxlt := x.toNat_lt
      unfold nextSequence
      by_cases hmax : x = 0xffffffff
      · have hx : x.toNat = 2 ^ 32 - 1 := by rw [hmax]; rfl
        rw [if_pos hmax]
        have : (1 : UInt32).toNat = 1 := rfl
        split at ih <;> split <;> omega
      · have hx : x.toNat ≠ 2 ^ 32 - 1 := fun hx => hmax (UInt32.toNat_inj.mp hx)
        rw [if_neg hmax, UInt32.toNat_add, UInt32.toNat_one]
        split at ih <;> split <;> omega

/-- Fewer than half of all numbers, counted from the first one, stand in their order. -/
lemma offset_iterate (h : base ≠ 0) (hi : i < 2 ^ 31 - 1) :
    offset base (nextSequence^[i] base) = if base.toNat + i < 2 ^ 32 then i else i + 1 := by
  have hlt := base.toNat_lt
  rw [offset, UInt32.toNat_sub, nextSequence_iterate h (by omega)]
  split <;> omega

lemma offset_iterate_lt_iff (h : base ≠ 0) {j : ℕ} (hi : i < 2 ^ 31 - 1)
    (hj : j < 2 ^ 31 - 1) :
    offset base (nextSequence^[i] base) < offset base (nextSequence^[j] base) ↔ i < j := by
  rw [offset_iterate h hi, offset_iterate h hj]
  split <;> split <;> omega

lemma offset_iterate_lt (h : base ≠ 0) (hi : i < 2 ^ 31 - 1) :
    offset base (nextSequence^[i] base) < 2 ^ 31 := by
  rw [offset_iterate h hi]
  split <;> omega

/-- One step of the search for the newest number. -/
def newerOf (newest sequence : UInt32) : UInt32 :=
  if newest = 0 ∨ 0 < (sequence - newest).toInt32 then sequence else newest

/-- The search keeps the number with the largest offset. -/
lemma foldl_newerOf (l : List UInt32) {start : UInt32} (hne : start ≠ 0)
    (hs : offset base start < 2 ^ 31) (hl : ∀ x ∈ l, x ≠ 0 ∧ offset base x < 2 ^ 31) :
    l.foldl newerOf start ∈ start :: l ∧
      ∀ x ∈ start :: l, offset base x ≤ offset base (l.foldl newerOf start) := by
  induction l generalizing start with
  | nil => simp
  | cons x l ih =>
      obtain ⟨⟨hx, hxo⟩, hl⟩ := List.forall_mem_cons.mp hl
      rw [List.foldl_cons]
      have hnewer : 0 < (x - start).toInt32 ↔ offset base start < offset base x := by
        rw [← newer_iff_offset_lt hxo hs, ← isNewer_iff, isNewer, decide_eq_true_iff]
      by_cases hlt : offset base start < offset base x
      · have hstep : newerOf start x = x := if_pos (.inr (hnewer.mpr hlt))
        rw [hstep]
        obtain ⟨hmem, hmax⟩ := ih hx hxo hl
        refine ⟨List.mem_cons_of_mem _ hmem, List.forall_mem_cons.mpr ⟨?_, hmax⟩⟩
        exact hlt.le.trans (hmax x List.mem_cons_self)
      · have hstep : newerOf start x = start :=
          if_neg (not_or.mpr ⟨hne, fun h => hlt (hnewer.mp h)⟩)
        rw [hstep]
        obtain ⟨hmem, hmax⟩ := ih hne hs hl
        obtain ⟨hstart, hrest⟩ := List.forall_mem_cons.mp hmax
        refine ⟨?_, ?_⟩
        · obtain h | h := List.mem_cons.mp hmem
          · rw [h]; exact List.mem_cons_self
          · exact List.mem_cons_of_mem _ (List.mem_cons_of_mem _ h)
        · refine List.forall_mem_cons.mpr ⟨hstart, List.forall_mem_cons.mpr ⟨?_, hrest⟩⟩
          exact (not_lt.mp hlt).trans hstart

section InOrder

variable {bb : Blackbox} {records : List BlackboxRetained}

lemma InOrder.length_eq (h : InOrder bb records) : records.length = bb.count := h.perm.length_eq

lemma InOrder.sequence_ne (h : InOrder bb records) {r : BlackboxRetained} (hr : r ∈ records) :
    r.sequence ≠ 0 := by
  have hv := h.perm.mem_iff.mp hr
  unfold Blackbox.valid at hv
  split at hv
  · have := (List.mem_filter.mp hv).2
    rw [recordValid, decide_eq_true_iff] at this
    exact this.1
  · cases hv

lemma InOrder.sequence_eq (h : InOrder bb records) {first : BlackboxRetained}
    {rest : List BlackboxRetained} (hr : records = first :: rest) (i : ℕ) (hi : i < records.length) :
    records[i].sequence = nextSequence^[i] first.sequence := by
  have hchain := List.isChain_iff_getElem.mp h.consecutive
  induction i with
  | zero => simp [hr]
  | succ i ih =>
      rw [hchain i hi, ih (by omega), Function.iterate_succ_apply']

lemma Blackbox.newest_eq (bb : Blackbox) :
    bb.newest = (bb.valid.map BlackboxRetained.sequence).foldl newerOf 0 := by
  rw [Blackbox.newest, List.foldl_map]
  rfl

/-- The newest number of records that lie within half of all numbers. -/
lemma Blackbox.newest_of_window {base : UInt32} (hbase : base ≠ 0) {last : ℕ}
    (hwindow : last < 2 ^ 31 - 1)
    (hall : ∀ r ∈ bb.valid, ∃ i ≤ last, r.sequence = nextSequence^[i] base)
    (hlast : ∃ r ∈ bb.valid, r.sequence = nextSequence^[last] base) :
    bb.newest = nextSequence^[last] base := by
  have hall : ∀ x ∈ bb.valid.map BlackboxRetained.sequence,
      ∃ i ≤ last, x = nextSequence^[i] base := List.forall_mem_map.mpr hall
  have hlast : nextSequence^[last] base ∈ bb.valid.map BlackboxRetained.sequence :=
    List.mem_map.mpr hlast
  rw [bb.newest_eq]
  cases hl : bb.valid.map BlackboxRetained.sequence with
  | nil => rw [hl] at hlast; cases hlast
  | cons x l =>
      rw [hl] at hall hlast
      have hgood : ∀ y ∈ x :: l, y ≠ 0 ∧ offset base y < 2 ^ 31 := by
        intro y hy
        obtain ⟨i, hi, rfl⟩ := hall y hy
        exact ⟨nextSequence_iterate_ne_zero hbase i, offset_iterate_lt hbase (by omega)⟩
      obtain ⟨hx, hrest⟩ := List.forall_mem_cons.mp hgood
      have hstart : newerOf 0 x = x := if_pos (.inl rfl)
      rw [List.foldl_cons, hstart]
      obtain ⟨hmem, hmax⟩ := foldl_newerOf l hx.1 hx.2 hrest
      obtain ⟨i, hi, heq⟩ := hall _ hmem
      have hle := hmax _ hlast
      rw [heq] at hle ⊢
      -- no record has a larger offset than the last one
      have hnot := mt (offset_iterate_lt_iff hbase (i := i) (j := last) (by omega)
        hwindow).mpr (not_lt.mpr hle)
      rw [show i = last by omega]

/-- Within half of all numbers, none comes twice. -/
lemma nextSequence_iterate_inj {base : UInt32} (h : base ≠ 0) {i j : ℕ} (hi : i < 2 ^ 31 - 1)
    (hj : j < 2 ^ 31 - 1) (heq : nextSequence^[i] base = nextSequence^[j] base) : i = j := by
  have h1 := offset_iterate_lt_iff h hi hj
  have h2 := offset_iterate_lt_iff h hj hi
  rw [heq] at h1 h2
  omega

section Nonempty

variable {first : BlackboxRetained} {rest : List BlackboxRetained}

lemma InOrder.first_ne (h : InOrder bb records) (hr : records = first :: rest) :
    first.sequence ≠ 0 := h.sequence_ne (by rw [hr]; exact List.mem_cons_self)

/-- The newest number is the one of the last record. -/
lemma InOrder.newest_eq (h : InOrder bb records) (hr : records = first :: rest)
    (hlen : records.length < 2 ^ 31) :
    bb.newest = nextSequence^[records.length - 1] first.sequence := by
  have hlt : records.length - 1 < records.length := by rw [hr]; simp
  refine Blackbox.newest_of_window (h.first_ne hr) (by omega) (fun r hv => ?_) ?_
  · obtain ⟨i, hi, rfl⟩ := List.mem_iff_getElem.mp (h.perm.mem_iff.mpr hv)
    exact ⟨i, by omega, h.sequence_eq hr i hi⟩
  · exact ⟨_, h.perm.mem_iff.mp (List.getElem_mem hlt), h.sequence_eq hr _ hlt⟩

/-- The search for a number finds the record that has it. -/
lemma InOrder.find_eq (h : InOrder bb records) (hr : records = first :: rest)
    (hlen : records.length < 2 ^ 31) (i : ℕ) (hi : i < records.length) :
    (bb.valid.find? fun r => r.sequence = nextSequence^[i] first.sequence) = some records[i] := by
  have hseq := h.sequence_eq hr i hi
  cases hfind : bb.valid.find? fun r => r.sequence = nextSequence^[i] first.sequence with
  | none =>
      have hno := List.find?_eq_none.mp hfind _ (h.perm.mem_iff.mp (List.getElem_mem hi))
      exact absurd hseq (by simpa using hno)
  | some r =>
      have hrseq := List.find?_some hfind
      rw [decide_eq_true_iff] at hrseq
      obtain ⟨j, hj, rfl⟩ := List.mem_iff_getElem.mp
        (h.perm.mem_iff.mpr (List.mem_of_find?_eq_some hfind))
      rw [h.sequence_eq hr j hj] at hrseq
      obtain rfl := nextSequence_iterate_inj (h.first_ne hr) (by omega) (by omega) hrseq
      rfl

/-- The number some steps before the newest one. -/
lemma InOrder.sequenceBefore_newest (h : InOrder bb records) (hr : records = first :: rest)
    (hlen : records.length < 2 ^ 31) {age : ℕ} (hage : age < records.length) :
    sequenceBefore bb.newest age = nextSequence^[records.length - 1 - age] first.sequence := by
  have hback := sequenceBefore_iterate (h.first_ne hr) (records.length - 1 - age) age
  rwa [show records.length - 1 - age + age = records.length - 1 by omega,
    ← h.newest_eq hr hlen] at hback

/-- The loop of `ls_blackbox_copy` on a ring without holes. -/
lemma InOrder.copyFrom (h : InOrder bb records) (hr : records = first :: rest)
    (hlen : records.length < 2 ^ 31) {wanted : ℕ} (fuel i : ℕ) (found : List BlackboxRecord)
    (hi : i + fuel = records.length) (hf : found.length + fuel = wanted) :
    copyFrom bb wanted fuel (nextSequence^[i] first.sequence) found =
      found ++ (records.drop i).map BlackboxRetained.record := by
  induction fuel generalizing i found with
  | zero => simp [Latch.copyFrom, List.drop_eq_nil_of_le (show records.length ≤ i by omega)]
  | succ fuel ih =>
      have hlt : i < records.length := by omega
      rw [Latch.copyFrom, if_neg (by omega), h.find_eq hr hlen i hlt, h.newest_eq hr hlen,
        List.drop_eq_getElem_cons hlt, List.map_cons]
      dsimp only [Option.map_some, Option.toList_some]
      by_cases hlast : i = records.length - 1
      · have hnil : records.drop (i + 1) = [] := List.drop_eq_nil_of_le (by omega)
        rw [if_pos (by rw [← hlast]), hnil, List.map_nil]
      · have hne : nextSequence^[i] first.sequence ≠
            nextSequence^[records.length - 1] first.sequence := fun heq =>
          hlast (nextSequence_iterate_inj (h.first_ne hr) (by omega) (by omega) heq)
        rw [if_neg hne, ← Function.iterate_succ_apply' nextSequence,
          ih (i + 1) _ (by omega) (by simp; omega), List.append_assoc, List.singleton_append]

end Nonempty

/-- `ls_blackbox_get_recent` on a ring without holes. -/
lemma InOrder.getRecent (h : InOrder bb records) (hlen : records.length < 2 ^ 31) {age : ℕ}
    (hage : age < records.length) :
    lsBlackboxGetRecent bb age = some records[records.length - 1 - age].record := by
  obtain ⟨first, rest, hr⟩ := List.exists_cons_of_length_pos (show 0 < records.length by omega)
  have hne : bb.newest ≠ 0 := by
    rw [h.newest_eq hr hlen]
    exact nextSequence_iterate_ne_zero (h.first_ne hr) _
  rw [lsBlackboxGetRecent, if_neg (not_or.mpr ⟨by rw [← h.length_eq]; omega, hne⟩),
    h.sequenceBefore_newest hr hlen hage, h.find_eq hr hlen _ (by omega)]
  rfl

/-- `ls_blackbox_copy` on a ring without holes. -/
lemma InOrder.copy (h : InOrder bb records) (hlen : records.length < 2 ^ 31) (capacity : ℕ) :
    lsBlackboxCopy bb capacity =
      (records.drop (records.length - min records.length capacity)).map
        BlackboxRetained.record := by
  rw [lsBlackboxCopy, ← h.length_eq]
  split
  · rename_i hzero
    simp [hzero]
  · obtain ⟨first, rest, hr⟩ := List.exists_cons_of_length_pos (show 0 < records.length by omega)
    rw [h.sequenceBefore_newest hr hlen (by omega), h.copyFrom hr hlen _ _ [] (by omega) (by simp),
      List.nil_append]
    congr 2
    omega

end InOrder

end Latch
