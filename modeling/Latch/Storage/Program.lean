
/-
`ls_storage_program` and `ls_storage_is_erased` of `src/storage/memory_storage.c`.

Programming goes through the device in write units. A unit larger than one byte is
read, merged with the new bytes and written back, so a program that stops early has
rewritten the neighbouring bytes of its units with their old values. The result for
every caller is `program_spec`: at every exit the medium holds a prefix of the new
bytes, and all of them on success.
-/
import Latch.Storage.Backend

namespace Latch

open Exec

variable {offset p len position : ℕ} {src merged : List UInt8} {m : ℕ → UInt8} (b : Backend)

/-- `LS_STORAGE_MAX_WRITE_SIZE`. -/
def lsStorageMaxWriteSize : ℕ := 256

/-- `storage_bounds`. -/
def storageBounds (b : Backend) (offset length : ℕ) : Prop :=
  b.hasRead ∧ b.hasWrite ∧ b.inBounds offset length

instance (b : Backend) (offset length : ℕ) : Decidable (storageBounds b offset length) :=
  inferInstanceAs (Decidable (_ ∧ _))

/-- The write unit in use: zero stands for one byte. -/
def Backend.unit (b : Backend) : ℕ := if b.writeSize = 0 then 1 else b.writeSize

/-- The byte at `position` after merging `src` at `offset` into it: outside `src` it
stays, inside it must not set a cleared bit. -/
def mergeByte (offset : ℕ) (src : List UInt8) (position : ℕ) (old : UInt8) : Option UInt8 :=
  if offset ≤ position then
    match src[position - offset]? with
    | some value => if ~~~old &&& value ≠ 0 then none else some (old &&& value)
    | none => some old
  else some old

/-- A unit, read from `position` on, merged byte by byte. -/
def mergeUnit (offset : ℕ) (src : List UInt8) : ℕ → List UInt8 → Option (List UInt8)
  | _, [] => some []
  | position, old :: rest => do
      let b ← mergeByte offset src position old
      let bs ← mergeUnit offset src (position + 1) rest
      pure (b :: bs)

/-- One turn of the loop over write units. -/
def programUnit (b : Backend) (offset : ℕ) (src : List UInt8) (unitOffset : ℕ) :
    DeviceM Unit := do
  let unit ← b.read unitOffset b.unit
  match mergeUnit offset src unitOffset unit with
  | none => throw (.fail .eio)
  | some merged =>
      if merged = unit then pure ()
      else do
        lsFaultInjectionHit .programUnit
        b.write unitOffset merged

/-- The loop over `n` write units from `unitOffset` on. -/
def programUnits (b : Backend) (offset : ℕ) (src : List UInt8) : ℕ → ℕ → DeviceM Unit
  | 0, _ => pure ()
  | n + 1, unitOffset => do
      programUnit b offset src unitOffset
      programUnits b offset src n (unitOffset + b.unit)

/-- `ls_storage_program`. -/
def lsStorageProgram (b : Backend) (offset : ℕ) (src : List UInt8) : DeviceM Unit :=
  if ¬ storageBounds b offset src.length then throw (.fail .einval)
  else if src.length = 0 then pure ()
  else do
    lsFaultInjectionHit .programBefore
    if b.unit > lsStorageMaxWriteSize then throw (.fail .enotsup)
    else if offset > b.sizeMax - src.length then throw (.fail .eoverflow)
    else if b.unit = 1 then do
      b.write offset src
      lsFaultInjectionHit .programAfter
    else
      let first := offset - offset % b.unit
      let targetEnd := offset + src.length
      if targetEnd > b.sizeMax - (b.unit - 1) then throw (.fail .eoverflow)
      else
        let last := (targetEnd + b.unit - 1) / b.unit * b.unit
        if last > b.capacity then throw (.fail .enospace)
        else do
          programUnits b offset src ((last - first) / b.unit) first
          lsFaultInjectionHit .programAfter

/-- The loop of `ls_storage_is_erased`, in chunks of the largest write unit; `fuel`
counts chunks. -/
def erasedChunks (b : Backend) : ℕ → ℕ → ℕ → DeviceM Bool
  | 0, _, _ => pure true
  | fuel + 1, offset, length =>
      if length = 0 then pure true
      else do
        let count := if length > lsStorageMaxWriteSize then lsStorageMaxWriteSize else length
        let bytes ← b.read offset count
        if bytes.any (· ≠ 0xff) then pure false
        else erasedChunks b fuel (offset + count) (length - count)

/-- `ls_storage_is_erased`. Each chunk takes a byte at least, so `length` chunks are enough. -/
def lsStorageIsErased (b : Backend) (offset length : ℕ) : DeviceM Bool :=
  if ¬ storageBounds b offset length then throw (.fail .einval)
  else erasedChunks b length offset length

/-! ### Merging a unit -/

lemma mergeByte_eq {v : UInt8}
    (h : mergeByte offset src position (m position) = some v) :
    v = Medium.write m offset src position := by
  unfold mergeByte at h
  unfold Medium.write
  split at h
  case isTrue hle =>
    rw [if_pos hle]
    cases hs : src[position - offset]? with
    | none =>
        rw [hs] at h
        simpa using h.symm
    | some value =>
        rw [hs] at h
        dsimp only at h
        split at h
        · cases h
        case isFalse hz =>
          rw [not_not] at hz
          rw [and_eq_of_not_and hz] at h
          simpa using h.symm
  case isFalse hle =>
    rw [if_neg hle]
    simpa using h.symm

/-- A merged unit holds what the unit holds once all of `src` is written. -/
lemma mergeUnit_eq
    (h : mergeUnit offset src position (Medium.read m position len) = some merged) :
    merged = Medium.read (Medium.write m offset src) position len := by
  induction len generalizing position merged with
  | zero =>
      simp only [Medium.read, List.range_zero, List.map_nil, mergeUnit, Option.some.injEq] at h
      exact h.symm
  | succ len ih =>
      rw [Nat.add_comm, Medium.read_add] at h
      change mergeUnit offset src position (m position :: Medium.read m (position + 1) len) = _ at h
      simp only [mergeUnit, bind, Option.bind_eq_some_iff, pure, Option.some.injEq] at h
      obtain ⟨v, hv, vs, hvs, rfl⟩ := h
      rw [mergeByte_eq hv, ih hvs, Nat.add_comm len, Medium.read_add]
      rfl

/-- The bytes only clear bits of the medium. -/
def Clears (m : ℕ → UInt8) (offset : ℕ) (src : List UInt8) : Prop :=
  ∀ i v, src[i]? = some v → ~~~(m (offset + i)) &&& v = 0

/-- The bytes only clear bits among the `len` bytes from `p` on. -/
def ClearsIn (m : ℕ → UInt8) (offset : ℕ) (src : List UInt8) (p len : ℕ) : Prop :=
  ∀ i v, src[i]? = some v → p ≤ offset + i → offset + i < p + len → ~~~(m (offset + i)) &&& v = 0

lemma mergeUnit_of_clears
    (h : ClearsIn m offset src p len) :
    ∃ merged, mergeUnit offset src p (Medium.read m p len) = some merged := by
  induction len generalizing p with
  | zero => exact ⟨[], rfl⟩
  | succ len ih =>
      have hbyte : ∃ v, mergeByte offset src p (m p) = some v := by
        unfold mergeByte
        split
        · rename_i hle
          cases hs : src[p - offset]? with
          | none => exact ⟨_, rfl⟩
          | some v =>
              have hz := h _ v hs (by omega) (by omega)
              rw [Nat.add_sub_cancel' hle] at hz
              exact ⟨_, if_neg (not_not.mpr hz)⟩
        · exact ⟨_, rfl⟩
      obtain ⟨v, hv⟩ := hbyte
      obtain ⟨vs, hvs⟩ := @ih (p + 1) fun i v hi h1 h2 => h i v hi (by omega) (by omega)
      refine ⟨v :: vs, ?_⟩
      rw [Nat.add_comm, Medium.read_add]
      change mergeUnit offset src p (m p :: Medium.read m (p + 1) len) = _
      simp only [mergeUnit, hv, hvs]
      rfl

/-- A merged byte sets no bit. -/
lemma mergeByte_clears {old v : UInt8}
    (h : mergeByte offset src position old = some v) : ~~~old &&& v = 0 := by
  have hself : ~~~old &&& old = 0 := by
    apply UInt8.eq_of_toBitVec_eq
    ext i hi
    simp
  unfold mergeByte at h
  split at h
  · split at h
    · split at h
      · cases h
      · obtain rfl := Option.some.inj h
        rw [← UInt8.and_assoc, hself]
        simp
    · obtain rfl := Option.some.inj h
      exact hself
  · obtain rfl := Option.some.inj h
    exact hself

/-- A NOR medium takes a merged unit. -/
lemma norRefuses_mergeUnit {old : List UInt8} (nor : Bool)
    (h : mergeUnit offset src position old = some merged) :
    old.length = merged.length ∧ norRefuses nor old merged = false := by
  induction old generalizing position merged with
  | nil =>
      obtain rfl : [] = merged := Option.some.inj h
      exact ⟨rfl, by simp [norRefuses]⟩
  | cons o old ih =>
      simp only [mergeUnit, bind, Option.bind_eq_some_iff, pure, Option.some.injEq] at h
      obtain ⟨v, hv, vs, hvs, rfl⟩ := h
      obtain ⟨hlen, hrest⟩ := ih hvs
      refine ⟨by simp [hlen], ?_⟩
      rw [norRefuses, List.zipWith_cons_cons, List.any_cons, mergeByte_clears hv]
      simpa [norRefuses] using hrest

/-- A merged unit only clears bits of the unit that was read. -/
lemma clears_mergeUnit
    (h : mergeUnit offset src p (Medium.read m p len) = some merged) :
    merged.length = len ∧ Clears m p merged := by
  obtain ⟨hlen, hnor⟩ := norRefuses_mergeUnit true h
  rw [Medium.read_length] at hlen
  refine ⟨hlen.symm, fun i v hv => ?_⟩
  have hi : i < merged.length := (List.getElem?_eq_some_iff.mp hv).1
  rw [norRefuses, Bool.true_and, List.any_eq_false] at hnor
  have hz := hnor (~~~(m (p + i)) &&& v) (List.mem_iff_getElem?.mpr ⟨i, by
    rw [List.getElem?_zipWith, Medium.read_getElem? (by omega), hv]⟩)
  simpa using hz

/-- Where a byte would have to be set, the merge is refused. -/
lemma clears_of_mergeUnit
    (h : mergeUnit offset src p (Medium.read m p len) = some merged) :
    ClearsIn m offset src p len := by
  intro i v hv h1 h2
  have hval : merged[offset + i - p]? = some v := by
    rw [mergeUnit_eq h, Medium.read_getElem? (by omega),
      show p + (offset + i - p) = offset + i by omega, Medium.write_at hv]
  have hz := (clears_mergeUnit h).2 _ v hval
  rwa [show p + (offset + i - p) = offset + i by omega] at hz

/-- A NOR medium takes bytes that only clear bits. -/
lemma norRefuses_of_clears (nor : Bool)
    (h : Clears m offset src) : norRefuses nor (Medium.read m offset src.length) src = false := by
  have hall : (List.zipWith (fun o n => ~~~o &&& n) (Medium.read m offset src.length) src).any
      (· ≠ 0) = false := by
    rw [List.any_eq_false]
    intro x hx
    obtain ⟨i, hi, rfl⟩ := List.getElem_of_mem hx
    simp only [List.length_zipWith, Medium.read_length, Nat.min_self] at hi
    have hz := h i src[i] (List.getElem?_eq_getElem hi)
    simpa [Medium.read] using hz
  rw [norRefuses, hall, Bool.and_false]

/-! ### Programming -/

/-- The medium after programming has got as far as the address `q`. -/
def programmedTo (m : ℕ → UInt8) (offset : ℕ) (src : List UInt8) (q : ℕ) : ℕ → UInt8 :=
  Medium.write m offset (src.take (q - offset))

/-- The start of the loop over the units. -/
lemma programmedTo_first (m : ℕ → UInt8) (w offset : ℕ) (src : List UInt8) :
    programmedTo m offset src (offset - offset % w) = m := by
  rw [programmedTo, show offset - offset % w - offset = 0 by omega, List.take_zero,
    Medium.write_nil]

/-- Ahead of the address that a program has reached the medium is as before. -/
lemma read_programmedTo (m : ℕ → UInt8) (offset : ℕ) (src : List UInt8) (p len : ℕ) :
    Medium.read (programmedTo m offset src p) p len = Medium.read m p len := by
  refine Medium.read_congr fun a h1 _ => ?_
  rw [programmedTo, Medium.write_take_sub, if_neg (by omega)]

lemma ClearsIn.mono {len' : ℕ}
    (h : ClearsIn m offset src p len') (hle : len ≤ len') : ClearsIn m offset src p len :=
  fun i v hv h1 h2 => h i v hv h1 (by omega)

/-- The requests of a program: with units larger than a byte it writes whole aligned units. -/
def ProgramRequest (b : Backend) : Request → Prop
  | .read _ _ | .hit _ => True
  | .write off data => b.unit ≠ 1 → b.unit ∣ off ∧ data.length = b.unit
  | .erase _ _ | .sync => False

/-- How the loop that is to cover `len` bytes from `p` on stops early: it has reached some
address, the end of a unit where writes happen entirely or not at all, and on the way no bit
had to be set. -/
structure UnitsStop (b : Backend) (m : ℕ → UInt8) (offset : ℕ) (src : List UInt8) (p len : ℕ)
    (d : Device) (e : Halt Errno) (d' : Device) : Prop where
  asked : d.Asked (ProgramRequest b) d'
  reached : ∃ q, d'.medium = programmedTo m offset src q ∧ ClearsIn m offset src p (q - p) ∧
    (d.WholeWrites → ∃ j, q = p + j * b.unit)
  cause : d.Blames d' (p + len ≤ b.capacity) (¬ ClearsIn m offset src p len) e

lemma programUnit_spec (m : ℕ → UInt8) (offset : ℕ) (src : List UInt8)
    (hp : b.unit ∣ p) (d : Device) (hd : d.medium = programmedTo m offset src p) :
    Sat (programUnit b offset src p) d
      (fun _ d' => d.Asked (ProgramRequest b) d' ∧
        d'.medium = programmedTo m offset src (p + b.unit) ∧ ClearsIn m offset src p b.unit)
      (fun e d' => UnitsStop b m offset src p b.unit d e d') := by
  have stop {d₁ : Device} {e : Halt Errno} (ha : d.Asked (ProgramRequest b) d₁)
      (hm : d₁.medium = d.medium)
      (hc : d.Blames d₁ (p + b.unit ≤ b.capacity) (¬ ClearsIn m offset src p b.unit) e) :
      UnitsStop b m offset src p b.unit d e d₁ :=
    ⟨ha, ⟨p, hm.trans hd, fun _ _ _ h1 h2 => by omega, fun _ => ⟨0, by omega⟩⟩, hc⟩
  have hread : Medium.read d.medium p b.unit = Medium.read m p b.unit := by
    rw [hd, read_programmedTo]
  rw [programUnit]
  refine (read_exits b p b.unit d).bind (fun unit d₁ h₁ => ?_) (fun e d₁ h₁ => ?_)
  swap
  · obtain ⟨⟨hb, rfl⟩, rfl⟩ | ⟨rfl, hf⟩ := h₁
    · exact stop (.refl _) rfl (.inr (.inl ⟨fun h => hb ⟨by omega, by omega⟩, rfl⟩))
    · exact stop (.one trivial) rfl (.inl (answered_of_serve hf))
  obtain ⟨rfl, rfl, -⟩ := h₁
  have ha₁ : d.Asked (ProgramRequest b) (d.asked (.read p b.unit)) := .one trivial
  rw [hread]
  cases hm : mergeUnit offset src p (Medium.read m p b.unit) with
  | none =>
      refine .throw (stop ha₁ rfl (.inr (.inr ⟨fun _ hc => ?_, rfl⟩)))
      obtain ⟨merged, hmerged⟩ := mergeUnit_of_clears hc
      cases hm.symm.trans hmerged
  | some merged =>
      have hclears := clears_of_mergeUnit hm
      obtain ⟨hlen, hnor⟩ := norRefuses_mergeUnit b.enforceNor hm
      have hmerged := mergeUnit_eq hm
      rw [Medium.read_length] at hlen
      dsimp only
      refine .ite (fun heq => .pure ⟨ha₁, ?_, hclears⟩) fun _ => ?_
      · -- nothing to change: the unit already holds the new bytes
        have hw : Medium.write d.medium p merged = d.medium := by
          rw [heq, ← hread, Medium.write_read]
        rw [Device.asked_medium, ← hw, hmerged, hd]
        exact Medium.write_continue ..
      refine (serve_spec _ _).bind (fun _ d₂ h₂ => ?_) (fun e d₂ h₂ => ?_)
      swap
      · obtain ⟨rfl, hf⟩ := h₂
        exact stop (ha₁.trans (.one trivial)) rfl (.inl (answered_of_serve hf))
      obtain ⟨rfl, -⟩ := h₂
      have ha₂ := ha₁.trans (.one (r := .hit .programUnit) trivial)
      have hwrite {d' : Device} (h : Device.Asked (· = .write p merged)
          ((d.asked (.read p b.unit)).asked (.hit .programUnit)) d') :
          d.Asked (ProgramRequest b) d' := by
        refine ha₂.trans (h.mono ?_)
        rintro _ rfl
        exact fun _ => ⟨hp, hlen.symm⟩
      refine (write_spec b p merged _).mono (fun _ d₃ h₃ => ⟨hwrite h₃.1, ?_, hclears⟩)
        (fun e d₃ h₃ => ?_)
      · rw [h₃.2, Device.asked_medium, Device.asked_medium, hd, hmerged]
        exact Medium.write_continue ..
      · obtain ⟨ha, ⟨k, hk, hwhole⟩, hcause⟩ := h₃
        refine ⟨hwrite ha, ⟨p + min k b.unit, ?_, hclears.mono (by omega), fun hw => ?_⟩,
          hcause.mono ha₂.later (fun h => ⟨by omega, by omega⟩) fun h => ?_⟩
        · rw [hk, Device.asked_medium, Device.asked_medium, hd, hmerged, Medium.read_take]
          exact Medium.write_continue ..
        · rcases hwhole hw with rfl | hk
          · exact ⟨0, by omega⟩
          · exact ⟨1, by omega⟩
        · rw [Device.asked_medium, Device.asked_medium, ← hlen, hread, hnor] at h
          cases h

lemma programUnits_spec (m : ℕ → UInt8) (offset : ℕ) (src : List UInt8) (n : ℕ) (hp : b.unit ∣ p) (d : Device) (hd : d.medium = programmedTo m offset src p) :
    Sat (programUnits b offset src n p) d
      (fun _ d' => d.Asked (ProgramRequest b) d' ∧
        d'.medium = programmedTo m offset src (p + n * b.unit) ∧
        ClearsIn m offset src p (n * b.unit))
      (fun e d' => UnitsStop b m offset src p (n * b.unit) d e d') := by
  -- the medium is programmed up to the unit the loop has reached
  induction n generalizing p d with
  | zero =>
      rw [programUnits, sat_pure, Nat.zero_mul, Nat.add_zero]
      exact ⟨.refl d, hd, fun _ _ _ h1 h2 => by omega⟩
  | succ n ih =>
      have hnext : ∀ j, p + b.unit + j * b.unit = p + (j + 1) * b.unit := fun j => by
        rw [Nat.succ_mul]
        omega
      have hn := hnext n
      have join {q : ℕ} (h₁ : ClearsIn m offset src p b.unit)
          (h₂ : ClearsIn m offset src (p + b.unit) (q - (p + b.unit))) :
          ClearsIn m offset src p (q - p) := fun i v hv h1 h2 =>
        if hlt : offset + i < p + b.unit then h₁ i v hv h1 hlt
        else h₂ i v hv (by omega) (by omega)
      rw [programUnits]
      refine (programUnit_spec b m offset src hp d hd).bind (fun _ d₁ h₁ => ?_) (fun _ _ h => ?_)
      · obtain ⟨ha₁, hm₁, hc₁⟩ := h₁
        refine (ih ((Nat.dvd_add_right hp).mpr dvd_rfl) d₁ hm₁).mono (fun _ _ h => ?_)
          (fun _ _ h => ?_)
        · rw [← hn]
          refine ⟨ha₁.trans h.1, h.2.1, ?_⟩
          have := @join (p + b.unit + n * b.unit) hc₁ (by simpa using h.2.2)
          rwa [hn, Nat.add_sub_cancel_left] at this
        · obtain ⟨ha, ⟨q, hq, hc, hw⟩, hcause⟩ := h
          refine ⟨ha₁.trans ha, ⟨q, hq, join hc₁ hc, fun hwhole => ?_⟩, hcause.mono ha₁.later
            (by omega) fun hb h => hb fun i v hv h1 h2 => h i v hv (by omega) (by omega)⟩
          obtain ⟨j, rfl⟩ := hw (hwhole.later ha₁.later)
          exact ⟨j + 1, hnext j⟩
      · obtain ⟨ha, hr, hcause⟩ := h
        exact ⟨ha, hr, hcause.mono (.refl d) (by omega) fun hb h => hb (h.mono (by omega))⟩

lemma unit_pos : 0 < b.unit := by
  unfold Backend.unit
  split <;> omega

/-- The loop over the units covers the bytes that are to be programmed. -/
lemma units_cover (w offset len : ℕ) (hw : 0 < w) :
    offset + len ≤ offset - offset % w +
      ((offset + len + w - 1) / w * w - (offset - offset % w)) / w * w := by
  have hfirst : offset - offset % w = offset / w * w := by
    have := Nat.div_add_mod' offset w
    omega
  have hle : offset / w ≤ (offset + len + w - 1) / w := Nat.div_le_div_right (by omega)
  have hdiv : ((offset + len + w - 1) / w * w - offset / w * w) / w =
      (offset + len + w - 1) / w - offset / w := by
    rw [← Nat.sub_mul, Nat.mul_div_cancel _ hw]
  rw [hfirst, hdiv, Nat.sub_mul]
  have h1 := Nat.div_add_mod' (offset + len + w - 1) w
  have h2 := Nat.mod_lt (offset + len + w - 1) hw
  have h3 := Nat.mul_le_mul_right w hle
  omega

/-- Why `ls_storage_program` fails. -/
inductive ProgramError (b : Backend) (offset : ℕ) (src : List UInt8) (d d' : Device) :
    Halt Errno → Prop
  | answer {e : Halt Errno} (h : d'.Answered e) : ProgramError b offset src d d' e
  | bounds (h : ¬ storageBounds b offset src.length) : ProgramError b offset src d d' (.fail .einval)
  | unit (h : lsStorageMaxWriteSize < b.unit) : ProgramError b offset src d d' (.fail .enotsup)
  | overflow (h : b.unit ≠ 1 ∧ b.sizeMax - (b.unit - 1) < offset + src.length) :
      ProgramError b offset src d d' (.fail .eoverflow)
  | space (h : b.unit ≠ 1 ∧ b.capacity < (offset + src.length + b.unit - 1) / b.unit * b.unit) :
      ProgramError b offset src d d' (.fail .enospace)
  /-- without faults, a cleared bit would have to be set -/
  | bits (h : d.Healthy → ¬ Clears d.medium offset src ∧ (b.unit = 1 →
      norRefuses b.enforceNor (Medium.read d.medium offset src.length) src = true)) :
      ProgramError b offset src d d' (.fail .eio)

/-- How a program stops early: the bytes up to some address are programmed. With units larger
than a byte no bit had to be set on the way, and where writes happen entirely or not at all
the address is the end of a unit. -/
structure ProgramStop (b : Backend) (offset : ℕ) (src : List UInt8) (d : Device) (e : Halt Errno)
    (d' : Device) : Prop where
  asked : d.Asked (ProgramRequest b) d'
  reached : ∃ q, d'.medium = programmedTo d.medium offset src q ∧ (b.unit ≠ 1 →
    ClearsIn d.medium offset src (offset - offset % b.unit) (q - (offset - offset % b.unit)) ∧
      (d.WholeWrites → ∃ j, q = offset - offset % b.unit + j * b.unit))
  cause : ProgramError b offset src d d' e

/-- The exits of `ls_storage_program`. -/
lemma program_exits (offset : ℕ) (src : List UInt8) (d : Device) :
    Sat (lsStorageProgram b offset src) d
      (fun _ d' => d.Asked (ProgramRequest b) d' ∧ d'.medium = Medium.write d.medium offset src ∧
        (b.unit ≠ 1 → Clears d.medium offset src))
      (fun e d' => ProgramStop b offset src d e d') := by
  have stop {d₁ : Device} {e : Halt Errno} (ha : d.Asked (ProgramRequest b) d₁)
      (hm : d₁.medium = d.medium) (hc : ProgramError b offset src d d₁ e) :
      ProgramStop b offset src d e d₁ :=
    ⟨ha, ⟨offset - offset % b.unit, by rw [programmedTo_first, hm],
      fun _ => ⟨fun _ _ _ h1 h2 => by omega, fun _ => ⟨0, by omega⟩⟩⟩, hc⟩
  -- an injected fault after the bytes are in place
  have after {d₁ : Device} {q : ℕ} (ha : d.Asked (ProgramRequest b) d₁)
      (hm : d₁.medium = programmedTo d.medium offset src q) (hq : offset + src.length ≤ q)
      (hj : b.unit ≠ 1 → ClearsIn d.medium offset src (offset - offset % b.unit)
        (q - (offset - offset % b.unit)) ∧ ∃ j, q = offset - offset % b.unit + j * b.unit) :
      Sat (lsFaultInjectionHit .programAfter) d₁
        (fun _ d' => d.Asked (ProgramRequest b) d' ∧
          d'.medium = Medium.write d.medium offset src ∧ (b.unit ≠ 1 → Clears d.medium offset src))
        (fun e d' => ProgramStop b offset src d e d') := by
    refine (serve_spec _ d₁).mono (fun _ d' h => ?_) (fun e d' h => ?_)
    · obtain ⟨rfl, -⟩ := h
      refine ⟨ha.trans (.one trivial), ?_, fun hu i v hv => ?_⟩
      · rw [Device.asked_medium, hm, programmedTo, List.take_of_length_le (by omega)]
      · have hi : i < src.length := (List.getElem?_eq_some_iff.mp hv).1
        exact (hj hu).1 i v hv (by omega) (by omega)
    · obtain ⟨rfl, hf⟩ := h
      exact ⟨ha.trans (.one trivial), ⟨q, hm, fun hu => ⟨(hj hu).1, fun _ => (hj hu).2⟩⟩,
        .answer (answered_of_serve hf)⟩
  rw [lsStorageProgram]
  refine .ite (fun h => .throw (stop (.refl d) rfl (.bounds h))) fun hb => ?_
  rw [not_not] at hb
  have hcap := b.capacity_le
  have hin := hb.2.2.2
  refine .ite (fun h0 => .pure ?_) fun _ => ?_
  · rw [List.eq_nil_of_length_eq_zero h0, Medium.write_nil]
    exact ⟨.refl d, rfl, fun _ _ _ => nofun⟩
  refine (serve_spec _ d).bind (fun _ d₁ h₁ => ?_) (fun e d₁ h₁ => ?_)
  swap
  · obtain ⟨rfl, hf⟩ := h₁
    exact stop (.one trivial) rfl (.answer (answered_of_serve hf))
  obtain ⟨rfl, -⟩ := h₁
  have ha₁ : d.Asked (ProgramRequest b) (d.asked (.hit .programBefore)) := .one trivial
  refine .ite (fun h => .throw (stop ha₁ rfl (.unit h))) fun _ => ?_
  rw [if_neg (by have := hb.2.2.1; omega)]
  refine .ite (fun hone => ?_) fun hu => ?_
  · -- byte-wise media take the bytes in one write
    have hwrite {d' : Device}
        (h : Device.Asked (· = .write offset src) (d.asked (.hit .programBefore)) d') :
        d.Asked (ProgramRequest b) d' := by
      refine ha₁.trans (h.mono ?_)
      rintro _ rfl
      exact absurd hone
    refine (write_spec b offset src _).bind (fun _ d₂ h₂ => ?_) (fun e d₂ h₂ => ?_)
    · refine after (hwrite h₂.1) (q := offset + src.length) ?_ le_rfl (absurd hone)
      rw [h₂.2, Device.asked_medium, programmedTo, List.take_of_length_le (by omega)]
    · obtain ⟨ha, ⟨k, hk, -⟩, hcause⟩ := h₂
      refine ⟨hwrite ha, ⟨offset + k, ?_, absurd hone⟩, ?_⟩
      · rw [hk, Device.asked_medium, programmedTo, Nat.add_sub_cancel_left]
      · obtain h | ⟨h, -⟩ | ⟨h, rfl⟩ := hcause
        · exact .answer h
        · exact absurd hb.2.2 h
        · refine .bits fun hd => ⟨fun hc => ?_, fun _ => h (hd.later ha₁.later)⟩
          have hr := h (hd.later ha₁.later)
          rw [Device.asked_medium, norRefuses_of_clears _ hc] at hr
          cases hr
  · dsimp only
    refine .ite (fun h => .throw (stop ha₁ rfl (.overflow ⟨hu, h⟩))) fun _ => ?_
    refine .ite (fun h => .throw (stop ha₁ rfl (.space ⟨hu, h⟩))) fun hlast => ?_
    have hcover := units_cover b.unit offset src.length (unit_pos b)
    have hfit := Nat.div_mul_le_self ((offset + src.length + b.unit - 1) / b.unit * b.unit -
      (offset - offset % b.unit)) b.unit
    have hstart : (d.asked (.hit .programBefore)).medium =
        programmedTo d.medium offset src (offset - offset % b.unit) := by
      rw [programmedTo_first, Device.asked_medium]
    refine (programUnits_spec b d.medium offset src _ (Nat.dvd_sub_mod offset) _ hstart).bind (fun _ d₂ h₂ => ?_) (fun e d₂ h₂ => ?_)
    · refine after (ha₁.trans h₂.1) h₂.2.1 hcover fun _ => ⟨?_, _, rfl⟩
      rw [Nat.add_sub_cancel_left]
      exact h₂.2.2
    · obtain ⟨ha, ⟨q, hq, hc, hw⟩, hcause⟩ := h₂
      refine ⟨ha₁.trans ha, ⟨q, hq, fun _ => ⟨hc, fun hwhole => hw (hwhole.later ha₁.later)⟩⟩, ?_⟩
      obtain h | ⟨h, -⟩ | ⟨h, rfl⟩ := hcause
      · exact .answer h
      · omega
      · exact .bits fun hd => ⟨fun hc => h (hd.later ha₁.later) fun i v hv _ _ => hc i v hv,
          (absurd · hu)⟩

/-- **Programming is a prefix write.** At every exit of `ls_storage_program`, by an error
or a cut of the power, the medium holds a prefix of the new bytes; on success all of them. -/
theorem program_spec (offset : ℕ) (src : List UInt8) (d : Device) :
    Sat (lsStorageProgram b offset src) d
      (fun _ d' => d.Later d' ∧ d'.medium = Medium.write d.medium offset src)
      (fun _ d' => d.Later d' ∧ ∃ k, d'.medium = Medium.write d.medium offset (src.take k)) :=
  (program_exits b offset src d).mono (fun _ _ h => ⟨h.1.later, h.2.1⟩) fun _ _ h =>
    ⟨h.asked.later, h.reached.elim fun q hq => ⟨q - offset, hq.1⟩⟩

/-- A program that stops early has changed its own range only. -/
lemma ProgramStop.agreeOff {b : Backend} {d d' : Device}
    {e : Halt Errno} (h : ProgramStop b offset src d e d') :
    Medium.AgreeOff d.medium d'.medium offset src.length := by
  obtain ⟨q, hq, -⟩ := h.reached
  rw [hq, programmedTo]
  refine (Medium.agreeOff_write _ offset (src.take (q - offset))).widen le_rfl ?_
  rw [List.length_take]
  omega

/-- Programming one byte does nothing or everything. -/
lemma program_byte (offset : ℕ) (v : UInt8) (d : Device) :
    Sat (lsStorageProgram b offset [v]) d
      (fun _ d' => d.Later d' ∧ d'.medium = Medium.write d.medium offset [v])
      (fun _ d' => d.Later d' ∧
        (d'.medium = d.medium ∨ d'.medium = Medium.write d.medium offset [v])) := by
  refine (program_spec b offset [v] d).mono (fun _ _ h => h) (fun _ d' h => ?_)
  obtain ⟨hl, k, hk⟩ := h
  refine ⟨hl, ?_⟩
  cases k with
  | zero => exact .inl (by rw [hk, List.take_zero, Medium.write_nil])
  | succ k => exact .inr (by rw [hk, List.take_of_length_le (by simp)])

/-! ### Looking for erased bytes -/

/-- The last request was a read that was answered with the error. -/
def Device.AnsweredRead (d : Device) (e : Halt Errno) : Prop :=
  ∃ off len l, d.log = .read off len :: l ∧
    (d.faults l.length (.read off len)).error = some e

lemma erasedChunks_spec (fuel offset length : ℕ) (hf : length ≤ fuel) (d : Device) :
    Sat (erasedChunks b fuel offset length) d
      (fun e d' => d.Looked d' ∧
        (e = true ↔ ∀ a, offset ≤ a → a < offset + length → d.medium a = 0xff))
      (fun e d' => d.Looked d' ∧
        (b.capacity < offset + length ∧ e = .fail .einval ∨ d'.AnsweredRead e)) := by
  induction fuel generalizing offset length d with
  | zero =>
      rw [erasedChunks, sat_pure]
      exact ⟨.refl d, by simp; omega⟩
  | succ fuel ih =>
      rw [erasedChunks]
      refine .ite (fun h0 => .pure ⟨.refl d, by simp; omega⟩) fun hpos => ?_
      dsimp only
      rw [sat_bind]
      generalize hcount : (if length > lsStorageMaxWriteSize then lsStorageMaxWriteSize
        else length) = count
      have hc : 0 < count ∧ count ≤ length := by
        rw [← hcount]
        unfold lsStorageMaxWriteSize
        split <;> omega
      refine (read_exits b offset count d).mono (fun bytes d₁ h₁ => ?_) (fun e d₁ h₁ => ?_)
      swap
      · obtain ⟨⟨hb, rfl⟩, rfl⟩ | ⟨rfl, hf⟩ := h₁
        · rw [Backend.inBounds] at hb
          exact ⟨.refl _, .inl ⟨by omega, rfl⟩⟩
        · exact ⟨looked_ask d _, .inr ⟨_, _, _, rfl, hf⟩⟩
      obtain ⟨rfl, rfl, -⟩ := h₁
      have h₁ := looked_ask d (.read offset count)
      have hany : (Medium.read d.medium offset count).any (· ≠ 0xff) = true ↔
          ∃ a, offset ≤ a ∧ a < offset + count ∧ d.medium a ≠ 0xff := by
        simp only [Medium.read, List.any_map, List.any_eq_true, List.mem_range, Function.comp,
          decide_eq_true_eq]
        constructor
        · rintro ⟨i, hi, hne⟩
          exact ⟨offset + i, by omega, by omega, hne⟩
        · rintro ⟨a, h1, h2, hne⟩
          exact ⟨a - offset, by omega, by rwa [show offset + (a - offset) = a by omega]⟩
      rw [sat_ite]
      constructor
      · intro ha
        obtain ⟨a, h1, h2, hne⟩ := hany.mp ha
        refine .pure ⟨h₁, ?_⟩
        simp only [Bool.false_eq_true, false_iff, not_forall]
        exact ⟨a, h1, by omega, hne⟩
      · intro ha
        have hhead : ∀ a, offset ≤ a → a < offset + count → d.medium a = 0xff := by
          intro a h1 h2
          by_contra hne
          exact ha (hany.mpr ⟨a, h1, h2, hne⟩)
        refine (ih (offset + count) (length - count) (by omega) _).mono (fun e d₂ h₂ => ?_)
          (fun _ d₂ h₂ => ⟨.trans _ _ _ h₁ h₂.1, h₂.2.imp_left fun h => ⟨by omega, h.2⟩⟩)
        refine ⟨.trans _ _ _ h₁ h₂.1, h₂.2.trans ?_⟩
        rw [h₁.medium]
        constructor
        · intro h a h1 h2
          by_cases hlt : a < offset + count
          · exact hhead a h1 hlt
          · exact h a (by omega) (by omega)
        · intro h a h1 h2
          exact h a (by omega) (by omega)

/-- `ls_storage_is_erased` tells whether every byte of the range is erased. -/
lemma isErased_spec (offset length : ℕ) (d : Device) :
    Sat (lsStorageIsErased b offset length) d
      (fun e d' => d.Looked d' ∧
        (e = true ↔ ∀ a, offset ≤ a → a < offset + length → d.medium a = 0xff))
      (fun e d' => d.Looked d' ∧
        (¬ storageBounds b offset length ∧ e = .fail .einval ∨ d'.AnsweredRead e)) := by
  rw [lsStorageIsErased]
  refine .ite (fun h => .throw ⟨.refl d, .inl ⟨h, rfl⟩⟩) fun hb => ?_
  obtain ⟨h1, h2⟩ := (not_not.mp hb).2.2
  exact (erasedChunks_spec b length offset length le_rfl d).mono (fun _ _ h => h)
    fun _ _ h => ⟨h.1, .inr (h.2.resolve_left fun hout => by omega)⟩

end Latch
