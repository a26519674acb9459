/-
The single stores of `ls_capture_minimal_riscv64_fault` in `src/capture/capture.c`, of which a
dying supply may leave any first part.

The sidecar is written and committed first, then the minimal snapshot. The two are paired by
the number of the trap since the last reset and by a few low words of the registers.

* `TrapMemory`: the retained records, and which trap committed which of them;
* `all_trapStores`: behind all stores the memory holds what `lsCaptureMinimalRiscv64Fault`
  leaves;
* `cutTrap_step`: what is left behind each first part of them;
* `contexts_never_mixed_iff`: two traps are mixed exactly when a trap is cut between its two
  records and the snapshot of an earlier one looks like its own.
-/
import Latch.Core.Runtime
import Latch.Lib.Stores

namespace Latch

/-! ### Stores -/

section Stores

variable (bd : Build) (r : Retained) (context : Riscv64Context)

/-- The stores of `wide_snapshot_store` between the two to its magic. -/
def wideFill : List (WideContextSnapshot → WideContextSnapshot) :=
  [fun w => { w with version := lsWideContextSnapshotVersion },
    fun w => { w with architecture := lsArchRiscv64 },
    fun w => { w with fault := lsFaultTrap },
    fun w => { w with buildHash := r.minimalBuildHash },
    fun w => { w with faultSequence := riscv64FaultSequenceNext r }] ++
  ((Stores.cells (List.finRange 32) context.x).map fun f w =>
    { w with context := { w.context with x := f w.context.x } }) ++
  [fun w => { w with context := { w.context with mstatus := context.mstatus } },
    fun w => { w with context := { w.context with mcause := context.mcause } },
    fun w => { w with context := { w.context with mtval := context.mtval } },
    fun w => { w with context := { w.context with mepc := context.mepc } },
    -- the CRC already reckons with the magic
    fun w => { w with crc := lsCrc32 { w with magic := lsWideContextMagic }.covered }]

/-- The sidecar that `wide_snapshot_store` commits. -/
def newWide : WideContextSnapshot :=
  let w : WideContextSnapshot :=
    { magic := lsWideContextMagic, version := lsWideContextSnapshotVersion
      architecture := lsArchRiscv64, fault := lsFaultTrap, buildHash := r.minimalBuildHash
      faultSequence := riscv64FaultSequenceNext r, context := context, crc := 0 }
  { w with crc := lsCrc32 w.covered }

/-- The stores to the minimal snapshot between the two to its magic. -/
def minimalFill : List (MinimalSnapshot → MinimalSnapshot) :=
  let new := riscv64Snapshot bd r context
  [fun s => { s with version := lsMinimalSnapshotVersion },
    fun s => { s with pc := new.pc },
    fun s => { s with lr := new.lr },
    fun s => { s with msp := new.msp },
    fun s => { s with psp := 0 },
    fun s => { s with cfsr := 0 },
    fun s => { s with hfsr := 0 },
    fun s => { s with buildHash := r.minimalBuildHash },
    fun s => { s with crc := 0 },
    fun s => { s with fault := lsFaultTrap },
    fun s => { s with flags := new.flags },
    fun s => { s with excReturn := 0 },
    fun s => { s with xpsr := 0 },
    fun s => { s with fpscr := 0 },
    fun s => { s with emergencyStackUsed := 0 },
    fun s => { s with faultSequence := new.faultSequence },
    fun s => { s with extensionCrc := 0 },
    fun s => { s with architecture := lsArchRiscv64 }] ++
  ((Stores.cells (List.finRange 16) new.registers).map fun f s =>
    { s with registers := f s.registers }) ++
  [fun s => { s with ps := 0 },
    fun s => { s with sar := 0 },
    fun s => { s with exccause := 0 },
    fun s => { s with excvaddr := new.excvaddr },
    fun s => { s with contextCrc := 0 },
    fun s => { s with crc := lsCrc32 (words { s with magic := lsMinimalMagic }.legacy) },
    fun s => { s with extensionCrc := lsCrc32 (words { s with magic := lsMinimalMagic }.extended) },
    fun s => { s with contextCrc := lsCrc32 (words { s with magic := lsMinimalMagic }.full) }]

end Stores

/-- The retained records, the contexts of the traps so far, and the number of the trap whose
store committed the sidecar and the snapshot last. -/
structure TrapMemory where
  retained : Retained
  traps : List Riscv64Context
  wideWriter : Option ℕ
  minimalWriter : Option ℕ

namespace TrapMemory

variable (m : TrapMemory)

/-- The memory with another sidecar. -/
def putWide (w : WideContextSnapshot) : TrapMemory :=
  { m with retained := { m.retained with wideContextSnapshot := w } }

/-- The memory with another snapshot. -/
def putMinimal (s : MinimalSnapshot) : TrapMemory :=
  { m with retained := { m.retained with minimalSnapshot := s } }

/-- The last store of trap `n` to the sidecar. -/
def commitWide (n : ℕ) : TrapMemory :=
  { m.putWide { m.retained.wideContextSnapshot with magic := lsWideContextMagic } with
    wideWriter := some n }

/-- The last store of trap `n` to the snapshot. -/
def commitMinimal (n : ℕ) : TrapMemory :=
  { m.putMinimal { m.retained.minimalSnapshot with magic := lsMinimalMagic } with
    minimalWriter := some n }

/-- The store of the number of a trap. -/
def putSequence (sequence : UInt32) : TrapMemory :=
  { m with retained := { m.retained with riscv64FaultCaptureSequence := sequence } }

end TrapMemory

section Trap

variable (bd : Build) (r : Retained) (context : Riscv64Context) (n : ℕ)

/-- The stores of `wide_snapshot_store`. -/
def wideStores : List (TrapMemory → TrapMemory) :=
  (fun m => m.putWide { m.retained.wideContextSnapshot with magic := 0 }) ::
    ((wideFill r context).map fun f m => m.putWide (f m.retained.wideContextSnapshot)) ++
  [fun m => m.commitWide n]

/-- The stores to the minimal snapshot. -/
def minimalStores : List (TrapMemory → TrapMemory) :=
  (fun m => m.putMinimal { m.retained.minimalSnapshot with magic := 0 }) ::
    ((minimalFill bd r context).map fun f m => m.putMinimal (f m.retained.minimalSnapshot)) ++
  [fun m => m.commitMinimal n]

/-- The stores of `ls_capture_minimal_riscv64_fault`, trap `n`. -/
def trapStores : List (TrapMemory → TrapMemory) :=
  (fun m => m.putSequence (riscv64FaultSequenceNext r)) ::
    ((if bd.enableWideContext then wideStores r context n else []) ++
      minimalStores bd r context n)

end Trap

/-- What happens to the retained records. Where a trap is cut, nothing is stored behind store
`k`. -/
inductive TrapOp where
  | riscv64 (context : Riscv64Context) (k : ℕ)
  | fault (a : FaultArgs)
  | context (context : ArchContext)
  | prepare
  | recover (stored : Bool)

/-- The memory after a call. -/
def TrapMemory.step (bd : Build) : TrapOp → TrapMemory → TrapMemory
  | .riscv64 context k, m =>
    Stores.upTo (trapStores bd m.retained context m.traps.length) k
      { m with traps := m.traps ++ [context] }
  | .fault a, m =>
    { m with retained := lsCaptureMinimalFault bd m.retained a, minimalWriter := none }
  | .context context, m =>
    { m with retained := lsCaptureMinimal bd m.retained context, minimalWriter := none }
  | .prepare, m => { m with retained := lsCaptureMinimalPrepare bd m.retained }
  -- recovery clears what it has read and stored
  | .recover stored, m =>
    if (lsMinimalSnapshotRead m.retained).isSome ∧ stored then
      { m with retained := lsMinimalSnapshotClear bd m.retained }
    else m

/-! ### Complete calls -/

section

variable {bd : Build} {r : Retained} {context : Riscv64Context} {n : ℕ}

lemma all_wideFill (w : WideContextSnapshot) :
    { Stores.all (wideFill r context) w with magic := lsWideContextMagic } = newWide r context := by
  have hcells : ∀ w : WideContextSnapshot,
      Stores.all ((Stores.cells (List.finRange 32) context.x).map fun f w =>
          ({ w with context := { w.context with x := f w.context.x } } : WideContextSnapshot)) w
        = { w with context := { w.context with x := context.x } } := by
    intro w
    refine (Stores.all_map (fun w : WideContextSnapshot => w.context.x)
      (fun w x => { w with context := { w.context with x := x } }) (fun _ _ => rfl)
      (fun _ _ _ => rfl) (fun _ => rfl) _ w).trans ?_
    simp [Stores.all_cells]
  rw [wideFill, Stores.all_append, Stores.all_append, hcells]
  rfl

lemma all_minimalFill (s : MinimalSnapshot) :
    { Stores.all (minimalFill bd r context) s with magic := lsMinimalMagic }
      = (riscv64Snapshot bd r context).commit := by
  have hcells : ∀ s : MinimalSnapshot,
      Stores.all ((Stores.cells (List.finRange 16) (riscv64Snapshot bd r context).registers).map
          fun f s => ({ s with registers := f s.registers } : MinimalSnapshot)) s
        = { s with registers := (riscv64Snapshot bd r context).registers } := by
    intro s
    refine (Stores.all_map (fun s : MinimalSnapshot => s.registers)
      (fun s x => { s with registers := x }) (fun _ _ => rfl) (fun _ _ _ => rfl) (fun _ => rfl) _
      s).trans ?_
    simp [Stores.all_cells]
  rw [minimalFill, Stores.all_append, Stores.all_append, hcells]
  rfl

lemma all_wideStores (m : TrapMemory) :
    Stores.all (wideStores r context n) m
      = { m.putWide (newWide r context) with wideWriter := some n } := by
  have hrecord := Stores.all_record (fun m : TrapMemory => m.retained.wideContextSnapshot)
    TrapMemory.putWide (fun _ _ => rfl) (fun _ _ _ => rfl) (fun _ => rfl)
    (fun w => { w with magic := 0 }) (wideFill r context) (fun m => m.commitWide n) m
  rw [wideStores, hrecord, ← all_wideFill { m.retained.wideContextSnapshot with magic := 0 }]
  rfl

lemma all_minimalStores (m : TrapMemory) :
    Stores.all (minimalStores bd r context n) m
      = { m.putMinimal (riscv64Snapshot bd r context).commit with minimalWriter := some n } := by
  have hrecord := Stores.all_record (fun m : TrapMemory => m.retained.minimalSnapshot)
    TrapMemory.putMinimal (fun _ _ => rfl) (fun _ _ _ => rfl) (fun _ => rfl)
    (fun s => { s with magic := 0 }) (minimalFill bd r context) (fun m => m.commitMinimal n) m
  rw [minimalStores, hrecord, ← all_minimalFill { m.retained.minimalSnapshot with magic := 0 }]
  rfl

/-- A trap that is not cut leaves what `ls_capture_minimal_riscv64_fault` leaves. -/
theorem all_trapStores (m : TrapMemory) :
    (Stores.all (trapStores bd m.retained context n) m).retained
      = lsCaptureMinimalRiscv64Fault bd m.retained context := by
  rw [trapStores, Stores.all_cons, Stores.all_append, all_minimalStores,
    lsCaptureMinimalRiscv64Fault, wideSnapshotStore]
  cases bd.enableWideContext with
  | true =>
      rw [if_pos rfl, all_wideStores]
      rfl
  | false => rfl

end

/-! ### What recovery attaches -/

/-- The wide context that `ls_capture_minimal_recover` attaches to its event. -/
def attached (bd : Build) (r : Retained) : Option Riscv64Context :=
  (lsMinimalSnapshotRead r).bind (snapshotSidecar bd r)

section Attached

variable {bd : Build} {r r' : Retained} {context : Riscv64Context} {snapshot : MinimalSnapshot}

lemma attached_eq_some (h : attached bd r = some context) :
    ∃ snapshot, lsMinimalSnapshotRead r = some snapshot ∧
      snapshotSidecar bd r snapshot = some context :=
  Option.bind_eq_some_iff.mp h

lemma snapshotSidecar_eq_some (h : snapshotSidecar bd r snapshot = some context) :
    snapshot.flags &&& lsMinimalSnapshotWideContextValid ≠ 0 ∧
      lsWideContextSnapshotRead bd r = some r.wideContextSnapshot ∧
      wideSnapshotMatchesMinimal r.wideContextSnapshot snapshot ∧
      r.wideContextSnapshot.context = context := by
  unfold snapshotSidecar at h
  split at h
  · rename_i hflag
    split at h
    · exact absurd h nofun
    · rename_i wide hread
      obtain rfl : r.wideContextSnapshot = wide := by
        rw [lsWideContextSnapshotRead] at hread
        exact Option.some_inj.mp (Option.ite_none_right_eq_some.mp hread).2
      obtain ⟨hmatch, hcontext⟩ := Option.ite_none_right_eq_some.mp h
      exact ⟨hflag, hread, hmatch, Option.some_inj.mp hcontext⟩
  · exact absurd h nofun

lemma snapshotSidecar_congr (h : r.wideContextSnapshot = r'.wideContextSnapshot) :
    snapshotSidecar bd r = snapshotSidecar bd r' := by
  funext snapshot
  rw [snapshotSidecar, snapshotSidecar, lsWideContextSnapshotRead_congr h]

/-- What is attached depends on the two records alone. -/
lemma attached_congr (hw : r.wideContextSnapshot = r'.wideContextSnapshot)
    (hs : r.minimalSnapshot = r'.minimalSnapshot) : attached bd r = attached bd r' := by
  rw [attached, attached, snapshotSidecar_congr hw, lsMinimalSnapshotRead, lsMinimalSnapshotRead, hs]

/-- Nothing is attached while the sidecar is open. -/
lemma attached_of_wide (h : r.wideContextSnapshot.magic = 0) : attached bd r = none := by
  rw [Option.eq_none_iff_forall_ne_some]
  intro context hc
  obtain ⟨snapshot, -, hsidecar⟩ := attached_eq_some hc
  obtain ⟨-, hread, -, -⟩ := snapshotSidecar_eq_some hsidecar
  rw [lsWideContextSnapshotRead] at hread
  have hmagic := (Option.ite_none_right_eq_some.mp hread).1.2.1
  exact absurd (h.symm.trans hmagic) (by decide)

/-- Nothing is attached while the snapshot is open. -/
lemma attached_of_minimal (h : r.minimalSnapshot.magic = 0) : attached bd r = none := by
  have hread : lsMinimalSnapshotRead r = none := by
    rw [lsMinimalSnapshotRead, lsMinimalSnapshotValidate, if_pos]
    rw [h]
    decide
  rw [attached, hread]
  rfl

/-- Nothing is attached behind a writer that clears the sidecar. -/
lemma attached_of_clear (h : r.wideContextSnapshot = (wideSnapshotClear bd r').wideContextSnapshot) :
    attached bd r = none := by
  rw [Option.eq_none_iff_forall_ne_some]
  intro context hc
  obtain ⟨snapshot, -, hsidecar⟩ := attached_eq_some hc
  obtain ⟨-, hread, -, -⟩ := snapshotSidecar_eq_some hsidecar
  rw [lsWideContextSnapshotRead_congr h, lsWideContextSnapshotRead_clear] at hread
  exact absurd hread nofun

/-- A committed sidecar is readable. -/
lemma lsWideContextSnapshotRead_newWide (hen : bd.enableWideContext = true)
    (h : r.wideContextSnapshot = newWide r' context) :
    lsWideContextSnapshotRead bd r = some (newWide r' context) := by
  rw [lsWideContextSnapshotRead]
  simp only [h]
  exact if_pos ⟨hen, rfl, rfl, rfl, rfl, rfl⟩

end Attached

/-! ### Cut traps -/

/-- A snapshot that looks as if it came from a trap that has only committed its sidecar: the
number of the trap and the low words agree. -/
def LooksLike (r : Retained) (context : Riscv64Context) (snapshot : MinimalSnapshot) : Prop :=
  snapshot.flags &&& lsMinimalSnapshotWideContextValid ≠ 0 ∧
    lsArchRiscv64 = snapshot.architecture ∧ lsFaultTrap = snapshot.fault ∧
    r.minimalBuildHash = snapshot.buildHash ∧
    riscv64FaultSequenceNext r = snapshot.faultSequence ∧
    (context.x 1).toUInt32 = snapshot.lr ∧ (context.x 2).toUInt32 = snapshot.msp ∧
    context.mtval.toUInt32 = snapshot.excvaddr ∧ context.mepc.toUInt32 = snapshot.pc

instance (r : Retained) (context : Riscv64Context) (snapshot : MinimalSnapshot) :
    Decidable (LooksLike r context snapshot) := inferInstanceAs (Decidable (_ ∧ _))

/-- How many stores a trap makes up to the commit of its sidecar. -/
def wideCommitted : ℕ := 45

section

variable {bd : Build} {r r' : Retained} {context : Riscv64Context} {n : ℕ}

lemma wideStores_length : (wideStores r context n).length = wideCommitted - 1 := by
  simp [wideStores, wideFill, Stores.cells, wideCommitted]

lemma looksLike_iff {snapshot : MinimalSnapshot} : LooksLike r context snapshot ↔
    snapshot.flags &&& lsMinimalSnapshotWideContextValid ≠ 0 ∧
      wideSnapshotMatchesMinimal (newWide r context) snapshot = true :=
  and_congr_right fun _ => decide_eq_true_iff.symm

/-- A committed sidecar is attached to every readable snapshot that looks like its own. -/
lemma attached_newWide (hen : bd.enableWideContext = true)
    (hw : r.wideContextSnapshot = newWide r' context) {context' : Riscv64Context} :
    attached bd r = some context' ↔ context' = context ∧
      ∃ snapshot, lsMinimalSnapshotRead r = some snapshot ∧ LooksLike r' context snapshot := by
  constructor
  · intro h
    obtain ⟨snapshot, hread, hsidecar⟩ := attached_eq_some h
    obtain ⟨hflag, -, hmatch, hcontext⟩ := snapshotSidecar_eq_some hsidecar
    rw [hw] at hmatch hcontext
    exact ⟨hcontext.symm, snapshot, hread, looksLike_iff.mpr ⟨hflag, hmatch⟩⟩
  · rintro ⟨rfl, snapshot, hread, hlooks⟩
    obtain ⟨hflag, hmatch⟩ := looksLike_iff.mp hlooks
    rw [attached, hread, Option.bind_some, snapshotSidecar, if_pos hflag,
      lsWideContextSnapshotRead_newWide hen hw]
    exact if_pos hmatch

/-- The snapshot of a trap looks like its own. -/
lemma looksLike_riscv64Snapshot (hen : bd.enableWideContext = true) :
    LooksLike r context (riscv64Snapshot bd r context).commit := by
  refine ⟨?_, rfl, rfl, rfl, rfl, rfl, rfl, rfl, rfl⟩
  change (if bd.enableWideContext = true then lsMinimalSnapshotWideContextValid else 0) &&& _ ≠ 0
  rw [if_pos hen]
  decide

end

/-- What a trap leaves that is cut behind `k` stores. -/
inductive CutTrap (bd : Build) (context : Riscv64Context) (m : TrapMemory) (k : ℕ)
    (m' : TrapMemory) : Prop where
  /-- The records from before. -/
  | untouched (hk : k ≠ wideCommitted)
      (wide : m'.retained.wideContextSnapshot = m.retained.wideContextSnapshot)
      (minimal : m'.retained.minimalSnapshot = m.retained.minimalSnapshot)
      (wideWriter : m'.wideWriter = m.wideWriter)
      (minimalWriter : m'.minimalWriter = m.minimalWriter)
  /-- One of the records is open. -/
  | opened (hk : k ≠ wideCommitted) (attached : attached bd m'.retained = none)
  /-- The sidecar beside the snapshot from before. -/
  | sidecar (hk : k = wideCommitted)
      (wide : m'.retained.wideContextSnapshot = newWide m.retained context)
      (minimal : m'.retained.minimalSnapshot = m.retained.minimalSnapshot)
      (wideWriter : m'.wideWriter = some m.traps.length)
      (minimalWriter : m'.minimalWriter = m.minimalWriter)
  /-- Both records. -/
  | complete (hk : k ≠ wideCommitted)
      (wide : m'.retained.wideContextSnapshot = newWide m.retained context)
      (wideWriter : m'.wideWriter = some m.traps.length)
      (minimalWriter : m'.minimalWriter = some m.traps.length)

section Step

variable {bd : Build} {r : Retained} {context : Riscv64Context} {m : TrapMemory}

lemma magic_wideFill {f : WideContextSnapshot → WideContextSnapshot} (hf : f ∈ wideFill r context)
    (w : WideContextSnapshot) : (f w).magic = w.magic := by
  have hall : ∀ f ∈ wideFill r context, ∀ w, (f w).magic = w.magic := by
    simp only [wideFill, Stores.cells, List.forall_mem_append, List.forall_mem_cons,
      List.forall_mem_map, List.not_mem_nil, IsEmpty.forall_iff, implies_true, and_self]
  exact hall f hf w

lemma magic_minimalFill {f : MinimalSnapshot → MinimalSnapshot}
    (hf : f ∈ minimalFill bd r context) (s : MinimalSnapshot) : (f s).magic = s.magic := by
  have hall : ∀ f ∈ minimalFill bd r context, ∀ s, (f s).magic = s.magic := by
    simp only [minimalFill, Stores.cells, List.forall_mem_append, List.forall_mem_cons,
      List.forall_mem_map, List.not_mem_nil, IsEmpty.forall_iff, implies_true, and_self]
  exact hall f hf s

/-- The sidecar is open between the two stores to its magic. -/
lemma wide_open {k : ℕ} (hk : 0 < k) (hk' : k < wideCommitted - 1) (n : ℕ) (m : TrapMemory) :
    (Stores.upTo (wideStores r context n) k m).retained.wideContextSnapshot.magic = 0 := by
  refine Stores.upTo_open (P := fun m => m.retained.wideContextSnapshot.magic = 0) ?_ ?_ hk ?_ m
  · exact fun _ => rfl
  · intro f hf m hm
    obtain ⟨g, hg, rfl⟩ := List.mem_map.mp hf
    exact (magic_wideFill hg _).trans hm
  · have := @wideStores_length r context n
    simp only [wideStores, List.length_append, List.length_cons, List.length_nil] at this
    omega

/-- The snapshot is open between the two stores to its magic. -/
lemma minimal_open {k n : ℕ} (hk : 0 < k) (hk' : k < (minimalStores bd r context n).length)
    (m : TrapMemory) :
    (Stores.upTo (minimalStores bd r context n) k m).retained.minimalSnapshot.magic = 0 := by
  refine Stores.upTo_open (P := fun m => m.retained.minimalSnapshot.magic = 0) ?_ ?_ hk ?_ m
  · exact fun _ => rfl
  · intro f hf m hm
    obtain ⟨g, hg, rfl⟩ := List.mem_map.mp hf
    exact (magic_minimalFill hg _).trans hm
  · simp only [minimalStores, List.length_append, List.length_cons, List.length_nil] at hk'
    omega

lemma cutTrap_step (hen : bd.enableWideContext = true) (k : ℕ) :
    CutTrap bd context m k (m.step bd (.riscv64 context k)) := by
  have hlen := @wideStores_length m.retained context m.traps.length
  rw [TrapMemory.step, trapStores, if_pos hen]
  cases k with
  | zero => exact .untouched (by decide) rfl rfl rfl rfl
  | succ k =>
      rw [Stores.upTo_cons_succ, Stores.upTo_append, hlen]
      obtain rfl | hk := Nat.eq_zero_or_pos k
      · rw [if_pos (Nat.zero_le _), Stores.upTo_zero]
        exact .untouched (by decide) rfl rfl rfl rfl
      obtain hlt | rfl | hgt := lt_trichotomy k (wideCommitted - 1)
      · -- inside the sidecar
        rw [if_pos hlt.le]
        exact .opened (by omega) (attached_of_wide (wide_open hk hlt _ _))
      · rw [if_pos le_rfl, Stores.upTo_of_length_le hlen.le, all_wideStores]
        exact .sidecar rfl rfl rfl rfl rfl
      · -- inside the snapshot, or behind it
        rw [if_neg (by omega)]
        by_cases hend : k - (wideCommitted - 1)
            < (minimalStores bd m.retained context m.traps.length).length
        · exact .opened (by omega) (attached_of_minimal (minimal_open (by omega) hend _))
        · rw [Stores.upTo_of_length_le (by omega), all_wideStores, all_minimalStores]
          exact .complete (by omega) rfl rfl rfl

/-- No store touches the log of the traps, and only a commit changes who wrote the snapshot. -/
lemma mem_trapStores {n : ℕ} {f : TrapMemory → TrapMemory} (hf : f ∈ trapStores bd r context n)
    (m : TrapMemory) :
    (f m).traps = m.traps ∧ ((f m).minimalWriter = m.minimalWriter ∨
      (f m).minimalWriter = some n) := by
  have hwide : ∀ f ∈ wideStores r context n, (f m).traps = m.traps ∧
      (f m).minimalWriter = m.minimalWriter := by
    simp only [wideStores, List.forall_mem_append, List.forall_mem_cons, List.forall_mem_map]
    exact ⟨⟨⟨rfl, rfl⟩, fun _ _ => ⟨rfl, rfl⟩⟩, ⟨rfl, rfl⟩, nofun⟩
  have hminimal : ∀ f ∈ minimalStores bd r context n, (f m).traps = m.traps ∧
      ((f m).minimalWriter = m.minimalWriter ∨ (f m).minimalWriter = some n) := by
    simp only [minimalStores, List.forall_mem_append, List.forall_mem_cons, List.forall_mem_map]
    exact ⟨⟨⟨rfl, .inl rfl⟩, fun _ _ => ⟨rfl, .inl rfl⟩⟩, ⟨rfl, .inr rfl⟩, nofun⟩
  rw [trapStores, List.mem_cons, List.mem_append] at hf
  obtain rfl | hf | hf := hf
  · exact ⟨rfl, .inl rfl⟩
  · split at hf
    · exact ⟨(hwide f hf).1, .inl (hwide f hf).2⟩
    · exact absurd hf List.not_mem_nil
  · exact hminimal f hf

lemma trapStores_length (n : ℕ) : (trapStores bd r context n).length ≤ 90 := by
  cases hen : bd.enableWideContext <;>
    simp [trapStores, wideStores, wideFill, minimalStores, minimalFill, Stores.cells, hen]

/-- The records behind a trap that is not cut. -/
lemma retained_step {k : ℕ} (hk : 90 ≤ k) : (m.step bd (.riscv64 context k)).retained
    = lsCaptureMinimalRiscv64Fault bd m.retained context := by
  rw [TrapMemory.step, Stores.upTo_of_length_le ((trapStores_length _).trans hk)]
  exact all_trapStores { m with traps := m.traps ++ [context] }

/-- Recovery that stores nothing clears nothing. -/
lemma step_recover_false : m.step bd (.recover false) = m := if_neg fun h => absurd h.2 nofun

/-- The trap that wrote the snapshot is one of those so far. -/
def Logged (m : TrapMemory) : Prop := ∀ n, m.minimalWriter = some n → n < m.traps.length

lemma traps_step (k : ℕ) : (m.step bd (.riscv64 context k)).traps = m.traps ++ [context] :=
  Stores.upTo_eq (g := TrapMemory.traps) (fun _ hf m' => (mem_trapStores hf m').1) k _

lemma logged_step (op : TrapOp) (h : Logged m) : Logged (m.step bd op) := by
  cases op with
  | riscv64 context k =>
      have hwriter : ∀ n, (m.step bd (.riscv64 context k)).minimalWriter = some n →
          n ≤ m.traps.length := by
        refine Stores.upTo_inv (P := fun m' : TrapMemory => ∀ n, m'.minimalWriter = some n →
          n ≤ m.traps.length) (fun f hf m' hm' n hn => ?_) k fun n hn => (h n hn).le
        obtain hkept | hnew := (mem_trapStores hf m').2
        · exact hm' n (hkept.symm.trans hn)
        · exact (Option.some_inj.mp (hnew.symm.trans hn)).ge
      intro n hn
      rw [traps_step, List.length_append, List.length_singleton]
      exact Nat.lt_succ_of_le (hwriter n hn)
  | fault a => exact nofun
  | context context => exact nofun
  | prepare => exact h
  | recover stored =>
      rw [TrapMemory.step]
      split
      · exact h
      · exact h

end Step

/-! ### Runs -/

/-- The context that recovery would attach is that of the trap which wrote the snapshot. -/
def SameTrap (bd : Build) (m : TrapMemory) : Prop :=
  ∀ context, attached bd m.retained = some context →
    ∃ n, m.wideWriter = some n ∧ m.minimalWriter = some n ∧ m.traps[n]? = some context

/-- A trap that is cut between its two records meets no snapshot that looks like its own. -/
def Unlike : TrapOp → TrapMemory → Prop
  | .riscv64 context k, m => k = wideCommitted → ∀ snapshot,
    lsMinimalSnapshotRead m.retained = some snapshot → ¬ LooksLike m.retained context snapshot
  | _, _ => True

section

variable {bd : Build} {m : TrapMemory} {context : Riscv64Context}

lemma sameTrap_of_none (h : attached bd m.retained = none) : SameTrap bd m := fun _ hc =>
  absurd (h.symm.trans hc) nofun

/-- One trap: it is mixed with an earlier one exactly if it is cut between its two records
and the snapshot of the earlier one looks like its own. -/
lemma sameTrap_riscv64_iff (hen : bd.enableWideContext = true) (hlog : Logged m)
    (h : SameTrap bd m) (k : ℕ) :
    SameTrap bd (m.step bd (.riscv64 context k)) ↔ Unlike (.riscv64 context k) m := by
  have htraps := @traps_step bd context m k
  cases @cutTrap_step bd context m hen k with
  | untouched hk wide minimal wideWriter minimalWriter =>
      refine ⟨fun _ heq => absurd heq hk, fun _ context' hc => ?_⟩
      obtain ⟨n, hw, hm, hn⟩ := h context' ((attached_congr wide minimal).symm.trans hc)
      refine ⟨n, wideWriter.trans hw, minimalWriter.trans hm, ?_⟩
      rw [htraps, List.getElem?_append_left (hlog n hm), hn]
  | opened hk attached => exact ⟨fun _ heq => absurd heq hk, fun _ => sameTrap_of_none attached⟩
  | sidecar hk wide minimal wideWriter minimalWriter =>
      have hread : lsMinimalSnapshotRead (m.step bd (.riscv64 context k)).retained
          = lsMinimalSnapshotRead m.retained := congrArg lsMinimalSnapshotValidate minimal
      constructor
      · intro hsame _ snapshot hs hlooks
        obtain ⟨n, hw, hm, -⟩ := hsame context
          ((attached_newWide hen wide).mpr ⟨rfl, snapshot, hread.trans hs, hlooks⟩)
        obtain rfl : m.traps.length = n := Option.some_inj.mp (wideWriter.symm.trans hw)
        exact lt_irrefl _ (hlog _ (minimalWriter.symm.trans hm))
      · intro hunlike context' hc
        obtain ⟨-, snapshot, hs, hlooks⟩ := (attached_newWide hen wide).mp hc
        exact absurd hlooks (hunlike hk snapshot (hread.symm.trans hs))
  | complete hk wide wideWriter minimalWriter =>
      refine ⟨fun _ heq => absurd heq hk, fun _ context' hc => ?_⟩
      obtain ⟨rfl, -⟩ := (attached_newWide hen wide).mp hc
      exact ⟨_, wideWriter, minimalWriter, by simp [htraps]⟩

lemma sameTrap_step_iff (hen : bd.enableWideContext = true) (op : TrapOp) (m : TrapMemory)
    (hlog : Logged m) (h : SameTrap bd m) : SameTrap bd (m.step bd op) ↔ Unlike op m := by
  cases op with
  | riscv64 context k => exact sameTrap_riscv64_iff hen hlog h k
  | fault a => exact iff_of_true (sameTrap_of_none (attached_of_clear rfl)) trivial
  | context context => exact iff_of_true (sameTrap_of_none (attached_of_clear rfl)) trivial
  | prepare => exact iff_of_true h trivial
  | recover stored =>
      refine iff_of_true ?_ trivial
      rw [TrapMemory.step]
      split
      · exact sameTrap_of_none (attached_of_clear rfl)
      · exact h

end

/-- Memory before the first trap. -/
def TrapMemory.untrapped (r : Retained) : TrapMemory :=
  { retained := r, traps := [], wideWriter := none, minimalWriter := none }

/-- A crash loop: recovery fails, and the next boot counts its traps from the start. -/
lemma crash_loop_mixed {bd : Build} (hen : bd.enableWideContext = true) {r : Retained}
    (hr : attached bd r = none) {a b : Riscv64Context} {k : ℕ} (hk : 90 ≤ k)
    (hsame : (b.x 1).toUInt32 = (a.x 1).toUInt32 ∧ (b.x 2).toUInt32 = (a.x 2).toUInt32 ∧
      b.mtval.toUInt32 = a.mtval.toUInt32 ∧ b.mepc.toUInt32 = a.mepc.toUInt32) :
    ¬ SameTrap bd (Run.after (TrapMemory.step bd)
      [.prepare, .riscv64 a k, .recover false, .prepare, .riscv64 b wideCommitted]
      (.untrapped r)) := by
  let ops : List TrapOp := [.prepare, .riscv64 a k, .recover false, .prepare]
  let m := Run.after (TrapMemory.step bd) ops (.untrapped r)
  have hmeets : Run.Meets (TrapMemory.step bd) Unlike ops (.untrapped r) :=
    ⟨trivial, fun h => absurd (hk.trans_eq h) (by decide), trivial, trivial, trivial⟩
  have hbefore : Logged m ∧ SameTrap bd m :=
    Run.after_inv (I := fun m => Logged m ∧ SameTrap bd m)
      (fun op m hop hm => ⟨logged_step op hm.1, (sameTrap_step_iff hen op m hm.1 hm.2).mpr hop⟩)
      hmeets ⟨nofun, sameTrap_of_none hr⟩
  have hretained : m.retained = lsCaptureMinimalPrepare bd
      (lsCaptureMinimalRiscv64Fault bd (lsCaptureMinimalPrepare bd r) a) := by
    change lsCaptureMinimalPrepare bd (TrapMemory.step bd (.recover false) _).retained = _
    rw [step_recover_false, retained_step hk]
    rfl
  have hflag := (@looksLike_riscv64Snapshot bd (lsCaptureMinimalPrepare bd r) a hen).1
  intro h
  refine (sameTrap_riscv64_iff hen hbefore.1 hbefore.2 _).mp h rfl
    (riscv64Snapshot bd (lsCaptureMinimalPrepare bd r) a).commit ?_ ?_
  · rw [hretained]
    exact validate_commit _
  · rw [hretained]
    exact ⟨hflag, rfl, rfl, rfl, rfl, hsame⟩

/-- The contexts of two traps are never mixed along a run exactly if no trap is cut between
its two records while the snapshot of an earlier one looks like its own. -/
theorem contexts_never_mixed_iff (bd : Build) (hen : bd.enableWideContext = true) (r : Retained)
    (hr : attached bd r = none) (ops : List TrapOp) :
    (∀ n, SameTrap bd (Run.after (TrapMemory.step bd) (ops.take n) (.untrapped r))) ↔
      Run.Meets (TrapMemory.step bd) Unlike ops (.untrapped r) :=
  Run.forall_after_iff (J := Logged) (fun op _ => logged_step op) (sameTrap_step_iff hen) nofun
    (sameTrap_of_none hr)

/-- A build with the sidecar. -/
def wideBuild : Build := { Build.default with enableWideContext := true }

/-- A trap of a crash loop: register 20 counts, the words that pair the records repeat. -/
def loopTrap (count : UInt64) : Riscv64Context :=
  { x := fun i => if i = 20 then count else 0, mstatus := 0, mcause := 2, mtval := 0
    mepc := 0x80000100 }

/-- A first trap that is cut between its records meets no snapshot at all. -/
theorem contexts_never_mixed_first :
    wideBuild.enableWideContext = true ∧ attached wideBuild default = none ∧
      ∀ n, SameTrap wideBuild (Run.after (TrapMemory.step wideBuild)
        ([.prepare, .riscv64 (loopTrap 1) wideCommitted, .prepare, .riscv64 (loopTrap 2) 200,
          .recover false, .prepare, .riscv64 (loopTrap 3) 200].take n) (.untrapped default)) := by
  refine ⟨rfl, attached_of_wide rfl,
    (contexts_never_mixed_iff wideBuild rfl default (attached_of_wide rfl) _).mpr ?_⟩
  exact ⟨trivial, fun _ _ hs => absurd hs nofun, trivial, fun h => absurd h (by decide), trivial,
    trivial, fun h => absurd h (by decide), trivial⟩

/-- Two traps of a crash loop at the same place, the second one cut between its records while
the snapshot of the first still waits: the registers of the second are attached to it. -/
theorem contexts_mixed :
    ¬ SameTrap wideBuild (Run.after (TrapMemory.step wideBuild)
      [.prepare, .riscv64 (loopTrap 1) 200, .recover false, .prepare,
        .riscv64 (loopTrap 2) wideCommitted] (.untrapped default)) :=
  crash_loop_mixed rfl (attached_of_wide rfl) (by decide) ⟨rfl, rfl, rfl, rfl⟩

end Latch
