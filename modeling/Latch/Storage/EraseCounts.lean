
/-
The erase counts of the wear-levelling store of `src/storage/wear_level.c`.

A slot keeps the number of its erases in its own header, so the number is gone from the first
byte that is erased until the new header is complete. `Device.erases` is the true number, from
the log of the device, and `storedCount` the one that initialisation reads.

* `WearRun`: runs of initialisations, successful updates and updates that are cut;
* `wear_count_lost`: a cut behind the erase of a slot loses its whole count;
* `wear_spreads_erases`: if every cut leaves the headers as they were or complete, the erases of
  any two slots differ by at most one more than the number of cuts, and the counts in memory are
  at most as far behind.
-/
import Latch.Lib.Wear
import Latch.Storage.WearLevel

namespace Latch

open Exec Versioned WearLevel

section Counts

variable {b : Backend} {cap slots : ℕ} {lay : Layout}

variable {r : WearLevel} {i t : ℕ}

/-! ### The slot that is used next -/

/-- One turn of the loop of `next_slot`: the count it keeps is at least that of the slot selected,
and at most that of the slot it looks at. -/
lemma nextSlotStep_le (r : WearLevel) {best : ℕ × UInt32} (step : ℕ)
    (hb : (r.eraseCounts best.1).toNat ≤ best.2.toNat) :
    let slot := (r.activeSlot + (step + 1)) % r.slotCount
    let next := r.nextSlotStep best step
    (r.eraseCounts next.1).toNat ≤ next.2.toNat ∧ next.2.toNat ≤ best.2.toNat ∧
      (slot ≠ r.activeSlot → next.2.toNat ≤ (r.eraseCounts slot).toNat) := by
  intro slot next
  by_cases hact : slot = r.activeSlot
  · have hnext : next = best := if_pos hact
    rw [hnext]
    exact ⟨hb, le_rfl, fun h => absurd hact h⟩
  by_cases hlt : r.eraseCounts slot < best.2
  · have hnext : next = (slot, r.eraseCounts slot) := (if_neg hact).trans (if_pos hlt)
    rw [hnext]
    exact ⟨le_rfl, (UInt32.lt_iff_toNat_lt.mp hlt).le, fun _ => le_rfl⟩
  · have hnext : next = best := (if_neg hact).trans (if_neg hlt)
    rw [hnext]
    rw [UInt32.lt_iff_toNat_lt] at hlt
    exact ⟨hb, le_rfl, fun _ => not_lt.mp hlt⟩

lemma foldl_nextSlotStep_le (r : WearLevel) (l : List ℕ) {best : ℕ × UInt32}
    (hb : (r.eraseCounts best.1).toNat ≤ best.2.toNat) :
    let last := l.foldl r.nextSlotStep best
    (r.eraseCounts last.1).toNat ≤ last.2.toNat ∧ last.2.toNat ≤ best.2.toNat ∧
      ∀ step ∈ l, (r.activeSlot + (step + 1)) % r.slotCount ≠ r.activeSlot →
        last.2.toNat ≤ (r.eraseCounts ((r.activeSlot + (step + 1)) % r.slotCount)).toNat := by
  induction l generalizing best with
  | nil => exact ⟨hb, le_rfl, fun _ h => by cases h⟩
  | cons step l ih =>
      obtain ⟨h1, h2, h3⟩ := nextSlotStep_le r step hb
      obtain ⟨i1, i2, i3⟩ := ih h1
      refine ⟨i1, i2.trans h2, fun step' hmem hne => ?_⟩
      rcases List.mem_cons.mp hmem with rfl | hmem
      · exact i2.trans (h3 hne)
      · exact i3 step' hmem hne

/-- `next_slot` returns a least erased slot other than the active one. -/
lemma nextSlot_le (ha : r.activeSlot < r.slotCount) (hi : i < r.slotCount)
    (hia : i ≠ r.activeSlot) :
    (r.eraseCounts r.nextSlot).toNat ≤ (r.eraseCounts i).toNat := by
  -- the loop looks at every slot
  obtain ⟨step, hstep, hslot⟩ :
      ∃ step < r.slotCount, (r.activeSlot + (step + 1)) % r.slotCount = i := by
    rcases lt_or_gt_of_ne hia with hlt | hgt
    · refine ⟨i + r.slotCount - r.activeSlot - 1, by omega, ?_⟩
      rw [show r.activeSlot + (i + r.slotCount - r.activeSlot - 1 + 1) = i + r.slotCount by omega,
        Nat.add_mod_right, Nat.mod_eq_of_lt hi]
    · refine ⟨i - r.activeSlot - 1, by omega, ?_⟩
      rw [show r.activeSlot + (i - r.activeSlot - 1 + 1) = i by omega, Nat.mod_eq_of_lt hi]
  have hmax : (r.eraseCounts ((r.activeSlot + 1) % r.slotCount)).toNat ≤ (0xffffffff : UInt32).toNat :=
    Nat.le_of_lt_succ (UInt32.toNat_lt _)
  obtain ⟨h1, -, h3⟩ := @foldl_nextSlotStep_le r (List.range r.slotCount)
    ((r.activeSlot + 1) % r.slotCount, 0xffffffff) hmax
  have h := h1.trans (h3 step (List.mem_range.mpr hstep) (by rw [hslot]; exact hia))
  rwa [hslot] at h

/-- The count of a slot that is not worn out goes up by one. -/
lemma toNat_succ {n : UInt32} (h : n ≠ 0xffffffff) : (n + 1).toNat = n.toNat + 1 := by
  have hne : n.toNat ≠ 0xffffffff := fun h' => h (UInt32.toNat_inj.mp h')
  have := n.toNat_lt
  rw [UInt32.toNat_add, UInt32.toNat_one]
  omega

/-- The counts in memory after a commit. -/
lemma counted_toNat (hmax : r.eraseCounts t ≠ 0xffffffff) (i : ℕ) :
    ((r.counted t).eraseCounts i).toNat = Wear.used (fun i => (r.eraseCounts i).toNat) t i := by
  change (Function.update r.eraseCounts t (r.eraseCounts t + 1) i).toNat = _
  by_cases hi : i = t
  · rw [hi, Function.update_self, Wear.used_self]
    exact toNat_succ hmax
  · rw [Function.update_of_ne hi, Wear.used_of_ne _ hi]

/-! ### Rewritten slots -/

/-- How often a slot was erased. -/
def slotErases (lay : Layout) (d : Device) (slot : ℕ) : ℕ :=
  d.erases (slot * lay.slotSize) lay.slotSize

lemma Untouched.slotErases {d d' : Device} (h : Untouched d d') :
    slotErases lay d' = slotErases lay d := funext fun _ => h.erases _ _

/-- A change inside one slot leaves the headers of the others alone. -/
lemma wearHeaderAt_of_agreeOff {m m' : ℕ → UInt8} (hfit : lay.Fits wearHeaderSize cap)
    (h : Medium.AgreeOff m m' (t * lay.slotSize) lay.slotSize) (hi : i ≠ t) :
    wearHeaderAt lay m' i = wearHeaderAt lay m i := by
  have h1 := hfit.commit
  have h2 := hfit.payload
  have h3 := hfit.slot
  unfold wearHeaderAt
  rw [Medium.read_congr]
  exact fun a ha ha' => h a (slot_apart hi ha (by omega))

section Rewritten

variable {d d' : Device} {t i : ℕ} {header : WearHeader}

lemma Rewritten.slotErases (h : Rewritten lay d d' t header) (hpos : 0 < lay.slotSize) :
    slotErases lay d' = Wear.used (slotErases lay d) t := by
  funext i
  unfold Latch.slotErases
  rw [h.erases]
  by_cases hi : i = t
  · rw [hi, Wear.used_self, if_pos ⟨rfl, rfl⟩]
  · have hne : i * lay.slotSize ≠ t * lay.slotSize := fun h => hi (Nat.eq_of_mul_eq_mul_right hpos h)
    rw [Wear.used_of_ne _ hi, if_neg fun h => hne h.1, Nat.add_zero]

lemma Rewritten.storedCount_self (h : Rewritten lay d d' t header)
    (hv : validHeader cap header = true) :
    storedCount cap lay d'.medium t = header.eraseCount.toNat := by
  rw [storedCount, h.header, if_pos hv]

lemma Rewritten.storedCount_of_ne (h : Rewritten lay d d' t header)
    (hfit : lay.Fits wearHeaderSize cap) (hi : i ≠ t) :
    storedCount cap lay d'.medium i = storedCount cap lay d.medium i := by
  rw [storedCount, storedCount, wearHeaderAt_of_agreeOff hfit h.agree hi]

/-- What the slot holds afterwards has the generation of the header. -/
lemma Rewritten.view_self (h : Rewritten lay d d' t header) {g : UInt32} {x : List UInt8}
    (hv : (format cap).slots lay cap d'.medium t = some (g, x)) : g = header.generation := by
  unfold Format.slots Format.view at hv
  dsimp only at hv
  split at hv
  · cases hv
    exact congrArg WearHeader.generation h.header
  · cases hv

end Rewritten

/-! ### The invariant -/

/-- After `k` cuts, with `g` the newest generation, in slot `a` if in any: every header states the
true number of erases, the slots are worn evenly, and no slot that holds an image is so old that
its generation could be taken for a newer one. -/
structure Worn (b : Backend) (cap slots : ℕ) (lay : Layout) (k : ℕ) (d : Device) (a : ℕ)
    (g : UInt32) : Prop where
  layout : wearLayout b cap = some lay
  few : slots ≤ lsFlashWearMaxSlots
  active : a < slots
  stored : ∀ i < slots, storedCount cap lay d.medium i = slotErases lay d i
  even : Wear.Even (Finset.range slots) (slotErases lay d) a k
  recent : ∀ i < slots, ∀ g' x, (format cap).slots lay cap d.medium i = some (g', x) →
    ∃ age, g' + UInt32.ofNat age = g ∧ (i = a ↔ age = 0) ∧
      Wear.Recent (Finset.range slots) (slotErases lay d) a i age

/-- The slot `a` holds an image. -/
structure Spread (b : Backend) (cap slots : ℕ) (lay : Layout) (k : ℕ) (d : Device) (a : ℕ)
    (g : UInt32) : Prop extends Worn b cap slots lay k d a g where
  held : ∃ x, (format cap).slots lay cap d.medium a = some (g, x)

/-- A session on that slot: it knows the true numbers too. -/
structure CountedSession (b : Backend) (cap slots : ℕ) (lay : Layout) (d : Device) (a : ℕ) (g : UInt32)
    (r : WearLevel) : Prop where
  wf : WearWf b cap slots r
  active : r.activeSlot = a
  generation : r.generation = g
  counts : ∀ i < slots, (r.eraseCounts i).toNat = slotErases lay d i

section

variable {k : ℕ} {d d' : Device} {a t : ℕ} {g : UInt32} {header : WearHeader} {r : WearLevel}

variable {s' : System WearLevel} {c : Change}

lemma Worn.fits (h : Worn b cap slots lay k d a g) : lay.Fits wearHeaderSize cap :=
  slotLayout_spec h.layout

lemma Worn.slotSize_pos (h : Worn b cap slots lay k d a g) : 0 < lay.slotSize := by
  have := h.fits.payload
  have := h.fits.slot
  omega

lemma Spread.untouched (h : Spread b cap slots lay k d a g) (hu : Untouched d d') {k' : ℕ}
    (hk : k ≤ k') : Spread b cap slots lay k' d' a g := by
  refine ⟨⟨h.layout, h.few, h.active, ?_, ?_, ?_⟩, ?_⟩
  · rw [hu.medium, hu.slotErases]
    exact h.stored
  · rw [hu.slotErases]
    exact h.even.mono hk
  · rw [hu.medium, hu.slotErases]
    exact h.recent
  · rw [hu.medium]
    exact h.held

/-- The headers stay true when a slot is rewritten with the next count. -/
lemma Worn.stored_rewritten (h : Worn b cap slots lay k d a g)
    (hr : Rewritten lay d d' t header) (hv : validHeader cap header = true)
    (hc : header.eraseCount.toNat = slotErases lay d t + 1) :
    ∀ i < slots, storedCount cap lay d'.medium i = slotErases lay d' i := by
  intro i hi
  rw [hr.slotErases h.slotSize_pos]
  by_cases hit : i = t
  · rw [hit, hr.storedCount_self hv, hc, Wear.used_self]
  · rw [hr.storedCount_of_ne h.fits hit, h.stored i hi, Wear.used_of_ne _ hit]

/-- A rewritten slot that holds an image is the newest one. -/
lemma Worn.taken (h : Worn b cap slots lay k d a g) (hr : Rewritten lay d d' t header)
    (hv : validHeader cap header = true) (hc : header.eraseCount.toNat = slotErases lay d t + 1)
    (hg : header.generation = g + 1)
    (hleast : Wear.Least (Finset.range slots) (slotErases lay d) a t)
    (hheld : ∃ x, (format cap).slots lay cap d'.medium t = some (g + 1, x)) :
    Spread b cap slots lay k d' t (g + 1) := by
  have hcounts := hr.slotErases h.slotSize_pos
  refine ⟨⟨h.layout, h.few, Finset.mem_range.mp hleast.mem, h.stored_rewritten hr hv hc, ?_,
    fun i hi g' x hview => ?_⟩, hheld⟩
  · rw [hcounts]
    exact h.even.taken hleast (Finset.mem_range.mpr h.active)
  rw [hcounts]
  by_cases hit : i = t
  · subst hit
    refine ⟨0, ?_, iff_of_true rfl rfl, Wear.recent_taken hleast⟩
    rw [hr.view_self hview, hg]
    exact UInt32.add_zero _
  · rw [slots_of_agreeOff h.fits hr.agree hit] at hview
    obtain ⟨age, hage, hzero, hrecent⟩ := h.recent i hi g' x hview
    refine ⟨age + 1, ?_, iff_of_false hit (Nat.succ_ne_zero age),
      hrecent.taken (Finset.mem_range.mpr hi) hleast hit hzero.mp⟩
    rw [← hage, UInt32.ofNat_add, UInt32.add_assoc]
    rfl

/-- A rewritten slot that holds none is a wasted erase. -/
lemma Spread.wasted (h : Spread b cap slots lay k d a g) (hr : Rewritten lay d d' t header)
    (hv : validHeader cap header = true) (hc : header.eraseCount.toNat = slotErases lay d t + 1)
    (hleast : Wear.Least (Finset.range slots) (slotErases lay d) a t)
    (hnone : (format cap).slots lay cap d'.medium t = none) :
    Spread b cap slots lay (k + 1) d' a g := by
  have hcounts := hr.slotErases h.slotSize_pos
  refine ⟨⟨h.layout, h.few, h.active, h.stored_rewritten hr hv hc, ?_, fun i hi g' x hview => ?_⟩, ?_⟩
  · rw [hcounts]
    exact h.even.wasted hleast (Finset.mem_range.mpr h.active)
  · have hit : i ≠ t := by
      rintro rfl
      rw [hnone] at hview
      cases hview
    rw [slots_of_agreeOff h.fits hr.agree hit] at hview
    obtain ⟨age, hage, hzero, hrecent⟩ := h.recent i hi g' x hview
    rw [hcounts]
    exact ⟨age, hage, hzero, hrecent.wasted hit⟩
  · rw [slots_of_agreeOff h.fits hr.agree hleast.ne.symm]
    exact h.held

/-- The newest slot is the one that initialisation selects. -/
lemma Spread.select (h : Spread b cap slots lay k d a g) :
    ∃ x, Versioned.select slots ((format cap).slots lay cap d.medium) = some (a, g, x) := by
  obtain ⟨x, hx⟩ := h.held
  refine ⟨x, select_eq_of_newest h.active hx fun i hi hia g' y hview => ?_⟩
  obtain ⟨age, hage, hzero, hrecent⟩ := h.recent i hi g' y hview
  have hpos : age ≠ 0 := fun h0 => hia (hzero.mpr h0)
  have hle := hrecent.age_le
  have hfew : slots ≤ 32 := h.few
  rw [Finset.card_range] at hle
  have hdiff : (g - g').toNat = age := by
    rw [← hage, UInt32.add_comm, UInt32.add_sub_cancel, UInt32.toNat_ofNat']
    omega
  unfold Serial.Newer
  rw [hdiff]
  omega

/-- The next slot of a session is a least erased one. -/
lemma CountedSession.least (h : CountedSession b cap slots lay d a g r) :
    Wear.Least (Finset.range slots) (slotErases lay d) a r.nextSlot := by
  have hact : r.activeSlot < r.slotCount := by rw [h.wf.count]; exact h.wf.active
  have hnext := nextSlot_spec (r := r) (by rw [h.wf.count]; exact h.wf.two) hact
  rw [h.wf.count, h.active] at hnext
  refine ⟨Finset.mem_range.mpr hnext.1, hnext.2, fun i hi hia => ?_⟩
  rw [Finset.mem_range] at hi
  rw [← h.counts _ hnext.1, ← h.counts i hi]
  exact nextSlot_le hact (by rwa [h.wf.count]) (by rwa [h.active])

lemma CountedSession.layout_eq (h : CountedSession b cap slots lay d a g r) (hs : Spread b cap slots lay k d a g) :
    r.layout = lay := (Option.some.inj (hs.layout.symm.trans h.wf.layout)).symm

/-- The header of an update: valid, one erase and one generation on. -/
lemma CountedSession.updateHeader_spec (h : CountedSession b cap slots lay d a g r) (c : Change)
    (hmax : r.eraseCounts r.nextSlot ≠ 0xffffffff) :
    validHeader cap (r.updateHeader c d.medium) = true ∧
      (r.updateHeader c d.medium).eraseCount.toNat = slotErases lay d r.nextSlot + 1 ∧
      (r.updateHeader c d.medium).generation = g + 1 := by
  have hwf : WearWf b cap slots ((r.changed c d.medium).counted r.nextSlot) :=
    h.wf.congr rfl rfl rfl h.wf.active
  refine ⟨wear_validHeader_newHeader hwf _ _, ?_, congrArg (· + 1) h.generation⟩
  have hcount := counted_toNat hmax r.nextSlot
  rw [Wear.used_self] at hcount
  rw [← h.counts _ (Finset.mem_range.mp h.least.mem)]
  exact hcount

/-- A session that is about to make a successful update. -/
lemma CountedSession.updated (h : CountedSession b cap slots lay d a g r) (hs : Spread b cap slots lay k d a g) (hup : update b c ⟨d, r⟩ = .ok () s') :
    Spread b cap slots lay k s'.dev r.nextSlot (g + 1) ∧
      CountedSession b cap slots lay s'.dev r.nextSlot (g + 1) s'.ram := by
  obtain ⟨v, hv⟩ := hs.held
  have hlay := h.layout_eq hs
  rw [← hlay, ← wear_slots h.wf, ← h.active, ← h.generation] at hv
  obtain ⟨⟨hwf', hact, hgen, -, hview⟩, ⟨hr, hmax⟩, hmem⟩ :=
    sat_of_ok (update_spec c ⟨d, r⟩ v h.wf hv) hup
  obtain ⟨hvalid, hcount, hg⟩ := h.updateHeader_spec c hmax
  dsimp only at hr hgen hview
  rw [hlay] at hr
  rw [wear_slots h.wf, hlay] at hview
  refine ⟨hs.taken hr hvalid hcount hg h.least ⟨c.apply v, ?_⟩, hwf', hact, ?_, fun i hi => ?_⟩
  · rw [← h.generation]
    exact hview
  · rw [← h.generation]
    exact hgen
  · rw [hmem, counted_toNat hmax, hr.slotErases hs.slotSize_pos]
    unfold Wear.used
    by_cases hi' : i = r.nextSlot
    · rw [hi', Function.update_self, Function.update_self]
      exact congrArg (· + 1) (h.counts _ (Finset.mem_range.mp h.least.mem))
    · rw [Function.update_of_ne hi', Function.update_of_ne hi']
      exact h.counts i hi

/-- A session that is about to be cut at a place where no count is lost. -/
lemma CountedSession.interrupted (h : CountedSession b cap slots lay d a g r)
    (hs : Spread b cap slots lay k d a g) {e : Halt Errno}
    (hkeeps : UpdateKeepsCount b c ⟨d, r⟩) (hup : update b c ⟨d, r⟩ = .error e s') :
    ∃ a' g', Spread b cap slots lay (k + 1) s'.dev a' g' := by
  obtain ⟨v, hv⟩ := hs.held
  rw [← h.layout_eq hs, ← wear_slots h.wf, ← h.active, ← h.generation] at hv
  rcases (sat_of_error (update_spec c ⟨d, r⟩ v h.wf hv) hup).2 hkeeps with hu | ⟨hr, hmax⟩
  · exact ⟨a, g, hs.untouched hu (Nat.le_succ k)⟩
  dsimp only at hr
  rw [h.layout_eq hs] at hr
  obtain ⟨hvalid, hcount, hg⟩ := h.updateHeader_spec c hmax
  cases hview : (format cap).slots lay cap s'.dev.medium r.nextSlot with
  | none => exact ⟨a, g, hs.wasted hr hvalid hcount h.least hview⟩
  | some p =>
      -- cut behind the marker, the update has been made
      have hp : p = (g + 1, p.2) := by rw [← hg, ← hr.view_self hview]
      have htaken := hs.taken hr hvalid hcount hg h.least ⟨p.2, hp ▸ hview⟩
      exact ⟨_, _, htaken.untouched ⟨rfl, fun _ _ => rfl⟩ (Nat.le_succ k)⟩

/-- Initialisation finds the newest slot and the true counts. -/
lemma Spread.opened (hs : Spread b cap slots lay k d a g) {r₀ : WearLevel}
    (hinit : lsFlashWearInit b cap slots ⟨d, r₀⟩ = .ok () s') :
    Spread b cap slots lay k s'.dev a g ∧ CountedSession b cap slots lay s'.dev a g s'.ram := by
  obtain ⟨⟨hwf, hopens⟩, htaken⟩ := sat_of_ok (lsFlashWearInit_spec ⟨d, r₀⟩) hinit
  have hlay : s'.ram.layout = lay := (Option.some.inj (hs.layout.symm.trans hwf.layout)).symm
  obtain ⟨x, hx⟩ := hs.select
  rw [← hlay, ← wear_slots hwf] at hx
  dsimp only at htaken hopens
  rw [hx, hlay] at htaken
  obtain ⟨hu, hcounts⟩ := htaken.found rfl
  rcases hopens with ⟨y, -, hsel⟩ | ⟨y, hnone, -⟩
  · rw [show (wear b cap slots).count = slots from rfl, hx] at hsel
    obtain ⟨hact, hgen, -⟩ : a = s'.ram.activeSlot ∧ g = s'.ram.generation ∧ x = y := by
      simpa [wear] using hsel
    refine ⟨hs.untouched hu le_rfl, hwf, hact.symm, hgen.symm, fun i hi => ?_⟩
    rw [hcounts i hi, hs.stored i hi, hu.slotErases]
  · rw [show (wear b cap slots).count = slots from rfl, hx] at hnone
    cases hnone

end

variable {s' : System WearLevel} {faults : ℕ → Request → Fault}

/-! ### Runs -/

/-- Runs from the device `d₀`, with `k` interrupted updates so far: initialisations and updates that
succeed, and updates that end with a cut of the power and meet the condition `C`. The memory of the
store is there while it is open; a cut loses it, and only initialisation opens the store again. -/
inductive WearRun (b : Backend) (cap slots : ℕ) (C : Change → System WearLevel → Prop)
    (d₀ : Device) : ℕ → Device → Option WearLevel → Prop where
  | start : WearRun b cap slots C d₀ 0 d₀ none
  | init {k : ℕ} {d : Device} {o : Option WearLevel} (r : WearLevel) {s' : System WearLevel}
      (run : WearRun b cap slots C d₀ k d o)
      (ok : lsFlashWearInit b cap slots ⟨d, r⟩ = .ok () s') :
      WearRun b cap slots C d₀ k s'.dev (some s'.ram)
  | update {k : ℕ} {d : Device} {r : WearLevel} (c : Change) {s' : System WearLevel}
      (run : WearRun b cap slots C d₀ k d (some r)) (ok : update b c ⟨d, r⟩ = .ok () s') :
      WearRun b cap slots C d₀ k s'.dev (some s'.ram)
  | interrupted {k : ℕ} {d : Device} {r : WearLevel} (c : Change) {s' : System WearLevel}
      (run : WearRun b cap slots C d₀ k d (some r)) (cond : C c ⟨d, r⟩)
      (cut : WearLevel.update b c ⟨d, r⟩ = .error .cut s') :
      WearRun b cap slots C d₀ (k + 1) s'.dev none

/-- Initialisation accepts up to 32 slots. -/
lemma slots_le_of_init {s : System WearLevel} (h : lsFlashWearInit b cap slots s = .ok () s') :
    slots ≤ lsFlashWearMaxSlots := by
  by_contra hmany
  rw [lsFlashWearInit, if_pos fun hok => hmany hok.2.2.2.2.2.2] at h
  cases h

/-- A slot that starts with an erased byte holds nothing and has no count. -/
lemma erased_slot {m : ℕ → UInt8} {i : ℕ} (h : m (i * lay.slotSize) = 0xff) :
    (format cap).slots lay cap m i = none ∧ storedCount cap lay m i = 0 := by
  have hl : (Medium.read m (i * lay.slotSize) wearHeaderSize)[0]? = some 0xff := by
    rw [Medium.read_getElem? (show 0 < wearHeaderSize by decide), Nat.add_zero, h]
  have hinvalid : validHeader cap (wearHeaderAt lay m i) = false :=
    (format cap).valid_erased _ hl
  refine ⟨view_of_erased h, ?_⟩
  rw [storedCount, hinvalid]
  rfl

/-- On an erased device no slot holds an image or a count, and slot 0 is as good as any other. -/
lemma worn_erased (faults : ℕ → Request → Fault) (hlay : wearLayout b cap = some lay)
    (hfew : slots ≤ lsFlashWearMaxSlots) (h2 : 2 ≤ slots) :
    Worn b cap slots lay 0 (.erased faults) 1 0 ∧
      Wear.Least (Finset.range slots) (slotErases lay (.erased faults)) 1 0 := by
  have hleast : Wear.Least (Finset.range slots) (slotErases lay (.erased faults)) 1 0 :=
    ⟨Finset.mem_range.mpr (by omega), Nat.zero_ne_one, fun _ _ _ => le_rfl⟩
  refine ⟨⟨hlay, hfew, by omega, fun i _ => (erased_slot rfl).2, ?_, fun i _ g' x hx => ?_⟩, hleast⟩
  · exact ⟨fun _ _ _ _ => Nat.zero_le _, 0, hleast.mem, hleast.ne, le_rfl⟩
  · rw [(erased_slot rfl).1] at hx
    cases hx

/-- Initialisation of an erased device writes the first slot. -/
lemma spread_first {r₀ : WearLevel}
    (hinit : lsFlashWearInit b cap slots ⟨.erased faults, r₀⟩ = .ok () s') :
    ∃ g, Spread b cap slots s'.ram.layout 0 s'.dev 0 g ∧
      CountedSession b cap slots s'.ram.layout s'.dev 0 g s'.ram := by
  obtain ⟨⟨hwf, hopens⟩, htaken⟩ := sat_of_ok (lsFlashWearInit_spec _) hinit
  have hsel : select slots ((wear b cap slots).slots (fun _ => 0xff)) = none := by
    rw [wear_slots hwf, select_eq_none]
    exact fun i _ => (erased_slot rfl).1
  dsimp only [Device.erased] at htaken hopens
  rw [hsel] at htaken
  obtain ⟨r, hwf₀, hzero, hmax, hcounts, hr⟩ := htaken.first rfl
  rcases hopens with ⟨y, -, hsome⟩ | ⟨y, -, -, hothers, hview⟩
  · rw [show (wear b cap slots).count = slots from rfl, hsel] at hsome
    cases hsome
  rw [wear_slots hwf] at hview
  change (format cap).slots s'.ram.layout cap s'.dev.medium s'.ram.activeSlot =
    some (s'.ram.generation, y) at hview
  have hfit := hwf.fits
  have hactive : s'.ram.activeSlot = 0 := by
    by_contra hne
    rw [slots_of_agreeOff (f := format cap) hfit hr.agree hne, (erased_slot rfl).1] at hview
    cases hview
  rw [hactive] at hview
  have hgen : s'.ram.generation = 0 + 1 := hr.view_self hview
  rw [hgen] at hview
  obtain ⟨hworn, hleast⟩ := worn_erased faults hwf.layout (slots_le_of_init hinit) hwf.two
  have hwf₁ : WearWf b cap slots (r.counted 0) := hwf₀.congr rfl rfl rfl hwf₀.active
  -- the count of every slot was zero
  have hold : ∀ i < slots, (r.eraseCounts i).toNat = 0 := fun i hi =>
    (hzero i hi).trans (erased_slot rfl).2
  have hheader : (((r.counted 0).newHeader 0 1).eraseCount).toNat =
      slotErases s'.ram.layout (.erased faults) 0 + 1 := by
    refine (counted_toNat hmax 0).trans ?_
    rw [Wear.used_self, hold 0 (by have := hwf.two; omega)]
    rfl
  refine ⟨0 + 1, hworn.taken hr (wear_validHeader_newHeader hwf₁ 0 1) hheader rfl hleast ⟨y, hview⟩,
    hwf, hactive, hgen, fun i hi => ?_⟩
  refine Eq.trans ?_ (congrFun (hr.slotErases hworn.slotSize_pos) i).symm
  rw [hcounts, counted_toNat hmax]
  unfold Wear.used
  by_cases h0 : i = 0
  · rw [h0, Function.update_self, Function.update_self]
    exact congrArg (· + 1) (hold 0 (h0 ▸ hi))
  · rw [Function.update_of_ne h0, Function.update_of_ne h0]
    exact hold i hi

/-- What holds in every state of a run. -/
def RunInv (b : Backend) (cap slots : ℕ) (d₀ : Device) (k : ℕ) (d : Device)
    (o : Option WearLevel) : Prop :=
  (d = d₀ ∧ o = none ∧ k = 0) ∨ ∃ lay a g, Spread b cap slots lay k d a g ∧
    ∀ r, o = some r → CountedSession b cap slots lay d a g r

lemma WearRun.inv {k : ℕ} {d : Device} {o : Option WearLevel}
    (h : WearRun b cap slots (UpdateKeepsCount b) (.erased faults) k d o) :
    RunInv b cap slots (.erased faults) k d o := by
  induction h with
  | start => exact .inl ⟨rfl, rfl, rfl⟩
  | init r run ok ih =>
      rcases ih with ⟨rfl, -, rfl⟩ | ⟨lay, a, g, hs, -⟩
      · obtain ⟨g, hs, hsession⟩ := spread_first ok
        exact .inr ⟨_, 0, g, hs, fun r hr => Option.some.inj hr ▸ hsession⟩
      · obtain ⟨hs', hsession⟩ := hs.opened ok
        exact .inr ⟨lay, a, g, hs', fun r hr => Option.some.inj hr ▸ hsession⟩
  | update c run ok ih =>
      rcases ih with ⟨-, hnone, -⟩ | ⟨lay, a, g, hs, hsession⟩
      · cases hnone
      · obtain ⟨hs', hsession'⟩ := (hsession _ rfl).updated hs ok
        exact .inr ⟨lay, _, _, hs', fun r hr => Option.some.inj hr ▸ hsession'⟩
  | interrupted c run cond cut ih =>
      rcases ih with ⟨-, hnone, -⟩ | ⟨lay, a, g, hs, hsession⟩
      · cases hnone
      · obtain ⟨a', g', hs'⟩ := (hsession _ rfl).interrupted hs cond cut
        exact .inr ⟨lay, a', g', hs', nofun⟩

end Counts

/-- How often each slot of a store was erased. -/
def Driver.erases {η ρ : Type} (D : Driver η ρ) (d : Device) (slot : ℕ) : ℕ :=
  slotErases D.layout d slot

/-- **Even wear.** In every run from an erased device in which every cut of the power comes before
the erase of a slot has done anything or when its new header is complete, the completed erases of
any two slots differ by at most one more than the number of cuts, and the counts of an open store
are not further behind than that number. -/
theorem wear_spreads_erases (b : Backend) (cap slots : ℕ) (faults : ℕ → Request → Fault) (k : ℕ)
    (d : Device) (o : Option WearLevel)
    (h : WearRun b cap slots (UpdateKeepsCount b) (.erased faults) k d o) :
    (∀ i < slots, ∀ j < slots,
      (wear b cap slots).erases d i ≤ (wear b cap slots).erases d j + (1 + k)) ∧
    ∀ r, o = some r → ∀ i < slots,
      (wear b cap slots).erases d i ≤ (r.eraseCounts i).toNat + k := by
  rcases h.inv with ⟨rfl, rfl, -⟩ | ⟨lay, a, g, hs, hsession⟩
  · exact ⟨fun _ _ _ _ => Nat.zero_le _, nofun⟩
  have hlay : (wear b cap slots).layout = lay := by
    rw [wear, hs.layout]
    rfl
  unfold Driver.erases
  rw [hlay]
  refine ⟨fun i hi j hj => ?_, fun r hr i hi => ?_⟩
  · have := hs.even.spread i (Finset.mem_range.mpr hi) j (Finset.mem_range.mpr hj)
    omega
  · rw [(hsession r hr).counts i hi]
    exact Nat.le_add_right _ _

/-! ### Two small runs -/

section Small

variable {b : Backend} {cap slots k : ℕ} {C : Change → System WearLevel → Prop} {d₀ : Device}

lemma eq_ok_of_completes {ε σ : Type} {x : EStateM ε σ Unit} {s : σ} (h : Completes x s) :
    x s = .ok () (leaves x s) := by
  unfold Completes Sat at h
  unfold leaves
  cases hx : x s with
  | ok a s' => rfl
  | error e s' =>
      rw [hx] at h
      exact h.elim

lemma WearRun.opens {d : Device} {o : Option WearLevel} (run : WearRun b cap slots C d₀ k d o)
    (r : WearLevel) (h : Completes (lsFlashWearInit b cap slots) ⟨d, r⟩) :
    let s' := leaves (lsFlashWearInit b cap slots) ⟨d, r⟩
    WearRun b cap slots C d₀ k s'.dev (some s'.ram) := run.init r (eq_ok_of_completes h)

lemma WearRun.updates {s : System WearLevel} (run : WearRun b cap slots C d₀ k s.dev (some s.ram))
    (c : Change) (h : Completes (WearLevel.update b c) s) :
    let s' := leaves (WearLevel.update b c) s
    WearRun b cap slots C d₀ k s'.dev (some s'.ram) := run.update c (eq_ok_of_completes h)

lemma WearRun.cuts {s : System WearLevel} (run : WearRun b cap slots C d₀ k s.dev (some s.ram))
    (c : Change) (cond : C c s)
    (h : Sat (WearLevel.update b c) s (fun _ _ => False) fun e _ => e = .cut) :
    WearRun b cap slots C d₀ (k + 1) (leaves (WearLevel.update b c) s).dev none :=
  run.interrupted c cond (eq_error_of_sat h)

end Small

/-- An erased device whose power fails at one request. -/
def interruptedAt (n : ℕ) : Device := .erased fun i _ => if i = n then .cut 0 else .none

/-- A store of three slots on the small device, opened. -/
def openedSmall (d : Device) : System WearLevel :=
  leaves (lsFlashWearInit smallNor 1 3) ⟨d, (wear smallNor 1 3).blank⟩

/-- The store after an update of its byte. -/
def wroteSmall (s : System WearLevel) (v : UInt8) : System WearLevel :=
  leaves (WearLevel.update smallNor (.write 0 [v])) s

/-- Updates of the byte that all succeed. -/
def AllWritten (s : System WearLevel) : List UInt8 → Prop
  | [] => True
  | v :: vs => Completes (WearLevel.update smallNor (.write 0 [v])) s ∧ AllWritten (wroteSmall s v) vs

instance AllWritten.decidable (s : System WearLevel) : (vs : List UInt8) →
    Decidable (AllWritten s vs)
  | [] => inferInstanceAs (Decidable True)
  | v :: vs =>
      have := AllWritten.decidable (wroteSmall s v) vs
      inferInstanceAs (Decidable (_ ∧ _))

lemma WearRun.writesAll {C : Change → System WearLevel → Prop} {d₀ : Device} {k : ℕ}
    {s : System WearLevel} (run : WearRun smallNor 1 3 C d₀ k s.dev (some s.ram))
    (vs : List UInt8) (h : AllWritten s vs) :
    let s' := vs.foldl wroteSmall s
    WearRun smallNor 1 3 C d₀ k s'.dev (some s'.ram) := by
  induction vs generalizing s with
  | nil => exact run
  | cons v vs ih => exact ih (run.updates _ h.1) h.2

/-- A run with an update that is cut behind its header: the theorem applies, and the erase that
was in vain is counted. -/
theorem wear_spreads_erases_small :
    let s := openedSmall (wroteSmall (openedSmall (interruptedAt 20)) 1).dev
    ((wear smallNor 1 3).erases s.dev 1 = 1 ∧ s.ram.eraseCounts 1 = 1 ∧ s.ram.activeSlot = 0) ∧
    (∀ i < 3, ∀ j < 3,
      (wear smallNor 1 3).erases s.dev i ≤ (wear smallNor 1 3).erases s.dev j + (1 + 1)) ∧
    ∀ r, some s.ram = some r → ∀ i < 3,
      (wear smallNor 1 3).erases s.dev i ≤ (r.eraseCounts i).toNat + 1 := by
  have hkeeps : UpdateKeepsCount smallNor (.write 0 [1]) (openedSmall (interruptedAt 20)) := by
    refine .inr (.inr ?_)
    decide +kernel
  refine ⟨by decide +kernel, wear_spreads_erases smallNor 1 3
    (fun i _ => if i = 20 then .cut 0 else .none) 1 _ _ ?_⟩
  refine WearRun.opens (WearRun.cuts (WearRun.opens .start _ ?_) (.write 0 [1]) hkeeps ?_) _ ?_
  all_goals decide +kernel

/-- **A count is lost.** The power fails once, behind the third erase of slot 0 and before its
header is programmed. The store then takes the slot for one that was never erased, and uses it
every other time: three updates later it was erased five times, and another slot twice. -/
theorem wear_count_lost :
    let cut := wroteSmall ([1, 2, 3, 4, 5].foldl wroteSmall (openedSmall (interruptedAt 82))) 6
    let s := openedSmall cut.dev
    let s' := [7, 8, 9].foldl wroteSmall s
    WearRun smallNor 1 3 (fun _ _ => True) (interruptedAt 82) 1 s.dev (some s.ram) ∧
      (wear smallNor 1 3).erases s.dev 0 = 3 ∧ s.ram.eraseCounts 0 = 0 ∧
    WearRun smallNor 1 3 (fun _ _ => True) (interruptedAt 82) 1 s'.dev (some s'.ram) ∧
      (wear smallNor 1 3).erases s'.dev 0 = 5 ∧ (wear smallNor 1 3).erases s'.dev 2 = 2 := by
  intro cut s s'
  obtain ⟨hfirst, hwrites, hcut, hinit, hafter, hnumbers⟩ :
      Completes (lsFlashWearInit smallNor 1 3) ⟨interruptedAt 82, (wear smallNor 1 3).blank⟩ ∧
      AllWritten (openedSmall (interruptedAt 82)) [1, 2, 3, 4, 5] ∧
      Sat (WearLevel.update smallNor (.write 0 [6]))
        ([1, 2, 3, 4, 5].foldl wroteSmall (openedSmall (interruptedAt 82))) (fun _ _ => False)
        (fun e _ => e = .cut) ∧
      Completes (lsFlashWearInit smallNor 1 3) ⟨cut.dev, (wear smallNor 1 3).blank⟩ ∧
      AllWritten s [7, 8, 9] ∧
      (wear smallNor 1 3).erases s.dev 0 = 3 ∧ s.ram.eraseCounts 0 = 0 ∧
      (wear smallNor 1 3).erases s'.dev 0 = 5 ∧ (wear smallNor 1 3).erases s'.dev 2 = 2 := by
    decide +kernel
  have run : WearRun smallNor 1 3 (fun _ _ => True) (interruptedAt 82) 1 s.dev (some s.ram) :=
    WearRun.opens (WearRun.cuts (WearRun.writesAll (WearRun.opens .start _ hfirst)
      [1, 2, 3, 4, 5] hwrites) (.write 0 [6]) trivial hcut) _ hinit
  exact ⟨run, hnumbers.1, hnumbers.2.1, run.writesAll [7, 8, 9] hafter, hnumbers.2.2⟩

end Latch
