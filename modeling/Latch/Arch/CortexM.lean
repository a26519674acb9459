/-
The exception frames of a Cortex-M: `ls_cortex_m_decode_exception_frame` of
`arch/cortex-m/cortex_m.c`, against the frames that the hardware stacks.

The hardware pushes eight core registers and, for an extended frame, `s0` to `s15`, `fpscr`
and a reserved word above them. `Stacks` says so. The decoder looks for the core registers of
an extended frame above the floating-point ones.

* `decode_ok`: what the decoder has checked, and the words it has read, when it returns
  `LS_OK`;
* `decode_reads_registered`: it reads no word outside the bounds registered for the stack in use;
* `decode_faithful_iff`: its fields are those that the hardware stacked for a basic frame, and
  for an extended one if the words that it reads happen to be equal to them.
-/
import Latch.Core.Util

namespace Latch.CortexM

/-! ### The decoder -/

/-- `LS_CORTEX_M_EXC_RETURN_PSP`. -/
def excReturnPsp : UInt32 := (1 : UInt32) <<< 2

/-- `LS_CORTEX_M_EXC_RETURN_FPU`. -/
def excReturnFpu : UInt32 := (1 : UInt32) <<< 4

/-- `LS_CORTEX_M_BASIC_FRAME_WORDS`. -/
def basicFrameWords : ℕ := 8

/-- `LS_CORTEX_M_FPU_FRAME_WORDS`. -/
def fpuFrameWords : ℕ := 18

/-- The flags of a minimal snapshot that the decoder sets. -/
inductive FrameFlag where
  | frameValid
  | mspValid
  | pspValid
  | fpuFrame
  | stackBoundsUnavailable
  | excReturnInvalid
  deriving DecidableEq

/-- The value of a flag. -/
def FrameFlag.bit : FrameFlag → UInt32
  | .frameValid => (1 : UInt32) <<< 0
  | .mspValid => (1 : UInt32) <<< 1
  | .pspValid => (1 : UInt32) <<< 2
  | .fpuFrame => (1 : UInt32) <<< 3
  | .stackBoundsUnavailable => (1 : UInt32) <<< 7
  | .excReturnInvalid => (1 : UInt32) <<< 8

/-- `ls_cortex_m_stack_bounds_t`. -/
structure StackBounds where
  mspLower : UInt32
  mspUpper : UInt32
  pspLower : UInt32
  pspUpper : UInt32
  mspReady : UInt32
  pspReady : UInt32
  deriving DecidableEq

/-- The fields of `ls_cortex_m_saved_t` that the decoder reads. -/
structure SavedContext where
  msp : UInt32
  psp : UInt32
  excReturn : UInt32
  deriving DecidableEq

/-- `ls_cortex_m_exception_frame_t`. -/
structure ExceptionFrame where
  r0 : UInt32
  r1 : UInt32
  r2 : UInt32
  r3 : UInt32
  r12 : UInt32
  lr : UInt32
  pc : UInt32
  xpsr : UInt32
  fpscr : UInt32
  flags : UInt32
  deriving DecidableEq

/-- `stack_range_contains`. -/
def stackRangeContains (lower upper address : UInt32) (length : ℕ) : Bool :=
  if upper ≤ lower ∨ address &&& 3 ≠ 0 ∨ address < lower ∨ upper ≤ address then false
  else length ≤ (upper - address).toNat

/-- `stack_pointer_in_bounds`. -/
def stackPointerInBounds (lower upper address : UInt32) : Bool :=
  lower < upper ∧ address &&& 3 = 0 ∧ lower ≤ address ∧ address ≤ upper

/-- `exc_return_valid`. -/
def excReturnValid (excReturn : UInt32) : Bool :=
  excReturn &&& 0xff000000 = 0xff000000 ∧ excReturn &&& 1 ≠ 0

section Decoder

variable (bounds : StackBounds) (memory : ℕ → UInt32) (rawFrame : ℕ) (saved : SavedContext)

/-- The process stack was in use. -/
def usingPsp : Bool := saved.excReturn &&& excReturnPsp ≠ 0

/-- The frame is an extended one. -/
def extended : Bool := saved.excReturn &&& excReturnFpu = 0

/-- The word at an index of the frame; `memory` has the word at each address. -/
def rawWord (index : ℕ) : UInt32 := memory (rawFrame + 4 * index)

/-- A flag behind a test. -/
def flagIf (condition : Bool) (flag : FrameFlag) : UInt32 := if condition then flag.bit else 0

/-- The flags for the stack pointers. -/
def pointerFlags : UInt32 :=
  let mspReady : Bool := bounds.mspReady ≠ 0
  let pspReady : Bool := bounds.pspReady ≠ 0
  flagIf (mspReady && stackPointerInBounds bounds.mspLower bounds.mspUpper saved.msp) .mspValid |||
  flagIf (pspReady && stackPointerInBounds bounds.pspLower bounds.pspUpper saved.psp) .pspValid |||
  flagIf (!mspReady || !pspReady) .stackBoundsUnavailable

/-- The pointer of the stack in use, with its bounds and whether they are set. -/
def selected : UInt32 × UInt32 × UInt32 × UInt32 :=
  if usingPsp saved then (saved.psp, bounds.pspLower, bounds.pspUpper, bounds.pspReady)
  else (saved.msp, bounds.mspLower, bounds.mspUpper, bounds.mspReady)

/-- The number of words of the frame. -/
def frameWords : ℕ := basicFrameWords + if extended saved then fpuFrameWords else 0

/-- The fields that are read, with the flags. -/
def readFrame (flags : UInt32) : ExceptionFrame :=
  let core := fun index =>
    rawWord memory rawFrame ((if extended saved then fpuFrameWords else 0) + index)
  { r0 := core 0, r1 := core 1, r2 := core 2, r3 := core 3, r12 := core 4, lr := core 5
    pc := core 6, xpsr := core 7
    fpscr := if extended saved then rawWord memory rawFrame 16 else 0, flags := flags }

/-- A frame in which only the flags are set. -/
def flagsOnly (flags : UInt32) : ExceptionFrame :=
  { r0 := 0, r1 := 0, r2 := 0, r3 := 0, r12 := 0, lr := 0, pc := 0, xpsr := 0, fpscr := 0
    flags := flags }

/-- `ls_cortex_m_decode_exception_frame`, where `saved` and `frame` are not null pointers: its
result, `none` for `LS_OK`, and the frame. A null `raw_frame` is zero. -/
def lsCortexMDecodeExceptionFrame : Option Errno × ExceptionFrame :=
  let flags := pointerFlags bounds saved
  if ¬ excReturnValid saved.excReturn then
    (some .ecorrupt, flagsOnly (flags ||| FrameFlag.excReturnInvalid.bit))
  else
    let flags := flags ||| flagIf (extended saved) .fpuFrame
    let (selectedSp, frameLower, frameUpper, ready) := selected bounds saved
    let frameAddress := UInt32.ofNat rawFrame
    if ready = 0 ∨ rawFrame = 0 then (some .ecorrupt, flagsOnly flags)
    else if frameAddress ≠ selectedSp ∨
        ¬ stackRangeContains frameLower frameUpper frameAddress (frameWords saved * 4) then
      (some .ecorrupt, flagsOnly flags)
    else (none, readFrame memory rawFrame saved (flags ||| FrameFlag.frameValid.bit))

end Decoder

/-! ### What the hardware stacks -/

/-- The registers that an exception entry stacks. -/
structure Registers where
  r0 : UInt32
  r1 : UInt32
  r2 : UInt32
  r3 : UInt32
  r12 : UInt32
  lr : UInt32
  pc : UInt32
  xpsr : UInt32
  s : Fin 16 → UInt32
  fpscr : UInt32

/-- The memory holds the frame of an exception entry from the stacked stack pointer on: the
core registers in the words 0 to 7 and, for an extended frame, `s0` to `s15` in the words 8 to
23 and `fpscr` in word 24. -/
structure Stacks (memory : ℕ → UInt32) (rawFrame : ℕ) (saved : SavedContext)
    (regs : Registers) : Prop where
  r0 : rawWord memory rawFrame 0 = regs.r0
  r1 : rawWord memory rawFrame 1 = regs.r1
  r2 : rawWord memory rawFrame 2 = regs.r2
  r3 : rawWord memory rawFrame 3 = regs.r3
  r12 : rawWord memory rawFrame 4 = regs.r12
  lr : rawWord memory rawFrame 5 = regs.lr
  pc : rawWord memory rawFrame 6 = regs.pc
  xpsr : rawWord memory rawFrame 7 = regs.xpsr
  s : extended saved = true → ∀ i : Fin 16, rawWord memory rawFrame (8 + i) = regs.s i
  fpscr : extended saved = true → rawWord memory rawFrame 24 = regs.fpscr

/-- Every field of a frame is the register that was stacked for it. -/
structure Faithful (saved : SavedContext) (regs : Registers) (frame : ExceptionFrame) : Prop where
  r0 : frame.r0 = regs.r0
  r1 : frame.r1 = regs.r1
  r2 : frame.r2 = regs.r2
  r3 : frame.r3 = regs.r3
  r12 : frame.r12 = regs.r12
  lr : frame.lr = regs.lr
  pc : frame.pc = regs.pc
  xpsr : frame.xpsr = regs.xpsr
  fpscr : extended saved = true → frame.fpscr = regs.fpscr

/-- The words that the decoder reads in an extended frame are equal to the registers that it
takes them for. -/
structure Coincides (memory : ℕ → UInt32) (rawFrame : ℕ) (regs : Registers) : Prop where
  r0 : regs.s 10 = regs.r0
  r1 : regs.s 11 = regs.r1
  r2 : regs.s 12 = regs.r2
  r3 : regs.s 13 = regs.r3
  r12 : regs.s 14 = regs.r12
  lr : regs.s 15 = regs.lr
  pc : regs.fpscr = regs.pc
  xpsr : rawWord memory rawFrame 25 = regs.xpsr
  fpscr : regs.s 8 = regs.fpscr

section Decoding

variable {bounds : StackBounds} {memory : ℕ → UInt32} {rawFrame : ℕ} {saved : SavedContext}
  {regs : Registers}

/-- A range that is contained lies between its bounds. -/
lemma stackRangeContains_iff {lower upper address : UInt32} {length : ℕ} :
    stackRangeContains lower upper address length = true ↔
      lower.toNat ≤ address.toNat ∧ address.toNat < upper.toNat ∧
        address.toNat + length ≤ upper.toNat ∧ address &&& 3 = 0 := by
  rw [stackRangeContains]
  split_ifs with h
  · refine iff_of_false (fun h => h) fun hr => ?_
    simp only [UInt32.le_iff_toNat_le, UInt32.lt_iff_toNat_lt] at h
    rcases h with h | h | h | h
    · omega
    · exact h hr.2.2.2
    · omega
    · omega
  · simp only [UInt32.le_iff_toNat_le, UInt32.lt_iff_toNat_lt, not_or, not_le, not_lt, not_not] at h
    obtain ⟨hbounds, haligned, hlower, hupper⟩ := h
    rw [decide_eq_true_iff, UInt32.toNat_sub_of_le _ _ (UInt32.le_iff_toNat_le.mpr hupper.le)]
    refine ⟨fun hlen => ⟨hlower, hupper, by omega, haligned⟩, fun hr => by omega⟩

/-- **What the decoder has checked when it returns `LS_OK`**: the frame is the one on the stack
in use, and all of its words are inside the bounds of that stack. -/
lemma decode_ok
    (h : (lsCortexMDecodeExceptionFrame bounds memory rawFrame saved).1 = none) :
    (∃ flags, (lsCortexMDecodeExceptionFrame bounds memory rawFrame saved).2 =
        readFrame memory rawFrame saved flags) ∧
      excReturnValid saved.excReturn = true ∧ rawFrame ≠ 0 ∧
      UInt32.ofNat rawFrame = (selected bounds saved).1 ∧
      (selected bounds saved).2.1.toNat ≤ (UInt32.ofNat rawFrame).toNat ∧
      (UInt32.ofNat rawFrame).toNat + frameWords saved * 4 ≤
        (selected bounds saved).2.2.1.toNat := by
  simp only [lsCortexMDecodeExceptionFrame] at h ⊢
  split_ifs at h ⊢ with hexc hready hrange
  simp only [not_or, not_not] at hexc hready hrange
  have hcontains := stackRangeContains_iff.mp hrange.2
  exact ⟨⟨_, rfl⟩, hexc, hready.2, hrange.1, hcontains.1, hcontains.2.2.1⟩

/-- The frame is the one on the stack in use, and all of it lies in the bounds that are
registered for this stack. -/
structure Registered (bounds : StackBounds) (rawFrame : ℕ) (saved : SavedContext) : Prop where
  ready : (selected bounds saved).2.2.2 ≠ 0
  pointer : rawFrame ≠ 0 ∧ UInt32.ofNat rawFrame = (selected bounds saved).1
  aligned : UInt32.ofNat rawFrame &&& 3 = 0
  lower : (selected bounds saved).2.1.toNat ≤ (UInt32.ofNat rawFrame).toNat
  upper : (UInt32.ofNat rawFrame).toNat + frameWords saved * 4 ≤ (selected bounds saved).2.2.1.toNat

/-- The decoder by its checks: the memory is read behind all of them. -/
lemma decode_cases :
    (excReturnValid saved.excReturn = true ∧ Registered bounds rawFrame saved ∧
      ∃ flags, flags &&& FrameFlag.frameValid.bit ≠ 0 ∧
        ∀ memory, lsCortexMDecodeExceptionFrame bounds memory rawFrame saved =
          (none, readFrame memory rawFrame saved flags)) ∨
    (¬ (excReturnValid saved.excReturn = true ∧ Registered bounds rawFrame saved) ∧
      ∃ flags, flags &&& FrameFlag.frameValid.bit = 0 ∧
        ∀ memory, lsCortexMDecodeExceptionFrame bounds memory rawFrame saved =
          (some .ecorrupt, flagsOnly flags)) := by
  -- no other flag shares the bit of a valid frame
  have hbits : ∀ a b c d : Bool,
      let flags := flagIf a .mspValid ||| flagIf b .pspValid ||| flagIf c .stackBoundsUnavailable
      (flags ||| FrameFlag.excReturnInvalid.bit) &&& FrameFlag.frameValid.bit = 0 ∧
      (flags ||| flagIf d .fpuFrame) &&& FrameFlag.frameValid.bit = 0 ∧
      (flags ||| flagIf d .fpuFrame ||| FrameFlag.frameValid.bit) &&& FrameFlag.frameValid.bit ≠ 0 := by
    decide
  simp only [lsCortexMDecodeExceptionFrame]
  split_ifs with hexc hready hrange
  · exact .inr ⟨fun h => hready.elim h.2.ready h.2.pointer.1, _, (hbits _ _ _ _).2.1, fun _ => rfl⟩
  · refine .inr ⟨fun h => ?_, _, (hbits _ _ _ _).2.1, fun _ => rfl⟩
    have hlt : 0 < frameWords saved * 4 := Nat.mul_pos (Nat.add_pos_left (by decide) _) (by decide)
    refine hrange.elim (fun hne => hne h.2.pointer.2) fun hnot => hnot ?_
    exact stackRangeContains_iff.mpr
      ⟨h.2.lower, (Nat.lt_add_of_pos_right hlt).trans_le h.2.upper, h.2.upper, h.2.aligned⟩
  · simp only [not_or, not_not] at hready hrange
    obtain ⟨hlower, -, hupper, haligned⟩ := stackRangeContains_iff.mp hrange.2
    exact .inl ⟨hexc, ⟨hready.1, ⟨hready.2, hrange.1⟩, haligned, hlower, hupper⟩, _,
      (hbits _ _ _ _).2.2, fun _ => rfl⟩
  · exact .inr ⟨fun h => hexc h.1, _, (hbits _ _ _ false).1, fun _ => rfl⟩

/-- The words that are read lie in the frame. -/
lemma readFrame_congr {memory' : ℕ → UInt32} (h : ∀ i < frameWords saved,
      rawWord memory' rawFrame i = rawWord memory rawFrame i) (flags : UInt32) :
    readFrame memory' rawFrame saved flags = readFrame memory rawFrame saved flags := by
  cases he : extended saved with
  | true =>
      simp only [frameWords, he, if_true, basicFrameWords, fpuFrameWords] at h
      simp [readFrame, he, fpuFrameWords, h]
  | false =>
      simp only [frameWords, he, basicFrameWords] at h
      simp [readFrame, he, h]

/-- **Reads of the decoder.** It returns `LS_OK` for a valid `EXC_RETURN` and a frame inside the
registered bounds and for no other, sets the flag of a valid frame then and only then, and its
result depends on no word outside such a frame. -/
theorem decode_reads_registered (bounds : StackBounds) (memory : ℕ → UInt32) (rawFrame : ℕ)
    (saved : SavedContext) :
    let decoded := lsCortexMDecodeExceptionFrame bounds memory rawFrame saved
    (decoded.1 = none ↔ excReturnValid saved.excReturn = true ∧ Registered bounds rawFrame saved) ∧
      (decoded.2.flags &&& FrameFlag.frameValid.bit ≠ 0 ↔ decoded.1 = none) ∧
      ∀ memory', (decoded.1 = none → ∀ i < frameWords saved,
          rawWord memory' rawFrame i = rawWord memory rawFrame i) →
        lsCortexMDecodeExceptionFrame bounds memory' rawFrame saved = decoded := by
  obtain ⟨hexc, hr, flags, hflags, heq⟩ | ⟨hnot, flags, hflags, heq⟩ :=
    @decode_cases bounds rawFrame saved
  · rw [heq]
    refine ⟨iff_of_true rfl ⟨hexc, hr⟩, iff_of_true hflags rfl, fun memory' h => ?_⟩
    rw [heq, readFrame_congr (h rfl)]
  · rw [heq]
    exact ⟨iff_of_false (Option.some_ne_none _) hnot,
      iff_of_false (not_not.mpr hflags) (Option.some_ne_none _), fun memory' _ => heq memory'⟩

/-- A basic frame is read as it was stacked. -/
lemma faithful_of_basic (hs : Stacks memory rawFrame saved regs) (hb : extended saved = false)
    (flags : UInt32) : Faithful saved regs (readFrame memory rawFrame saved flags) := by
  simp only [readFrame, hb, Bool.false_eq_true, if_false, Nat.zero_add]
  exact ⟨hs.r0, hs.r1, hs.r2, hs.r3, hs.r12, hs.lr, hs.pc, hs.xpsr,
    fun he => absurd (he.symm.trans hb) (by decide)⟩

/-- An extended frame is read from the place of the floating-point registers. -/
lemma faithful_of_extended (hs : Stacks memory rawFrame saved regs) (he : extended saved = true)
    (flags : UInt32) :
    Faithful saved regs (readFrame memory rawFrame saved flags) ↔
      Coincides memory rawFrame regs := by
  simp only [readFrame, he, if_true, fpuFrameWords]
  have hs' := hs.s he
  constructor
  · intro h
    exact ⟨(hs' 10).symm.trans h.r0, (hs' 11).symm.trans h.r1, (hs' 12).symm.trans h.r2,
      (hs' 13).symm.trans h.r3, (hs' 14).symm.trans h.r12, (hs' 15).symm.trans h.lr,
      (hs.fpscr he).symm.trans h.pc, h.xpsr, (hs' 8).symm.trans (h.fpscr he)⟩
  · intro h
    exact ⟨(hs' 10).trans h.r0, (hs' 11).trans h.r1, (hs' 12).trans h.r2, (hs' 13).trans h.r3,
      (hs' 14).trans h.r12, (hs' 15).trans h.lr, (hs.fpscr he).trans h.pc, h.xpsr,
      fun _ => (hs' 8).trans h.fpscr⟩

end Decoding

/-- **Which frames are decoded as the hardware stacks them.** Where the decoder returns
`LS_OK`, its fields are the registers that were stacked if and only if the frame is a basic
one, or the words that it reads in an extended one are equal to them by coincidence. -/
theorem decode_faithful_iff (bounds : StackBounds) (memory : ℕ → UInt32) (rawFrame : ℕ)
    (saved : SavedContext) (regs : Registers) (hs : Stacks memory rawFrame saved regs)
    (hok : (lsCortexMDecodeExceptionFrame bounds memory rawFrame saved).1 = none) :
    Faithful saved regs (lsCortexMDecodeExceptionFrame bounds memory rawFrame saved).2 ↔
      saved.excReturn &&& excReturnFpu ≠ 0 ∨ Coincides memory rawFrame regs := by
  obtain ⟨⟨flags, hframe⟩, -⟩ := decode_ok hok
  rw [hframe]
  cases he : extended saved with
  | false =>
      have hbasic : saved.excReturn &&& excReturnFpu ≠ 0 := of_decide_eq_false he
      exact iff_of_true (faithful_of_basic hs he flags) (.inl hbasic)
  | true =>
      have hextended : saved.excReturn &&& excReturnFpu = 0 := of_decide_eq_true he
      rw [faithful_of_extended hs he flags]
      exact ⟨.inr, fun h => h.resolve_left fun hne => hne hextended⟩

/-- Registers with a different value in each place. -/
def sampleRegisters : Registers :=
  { r0 := 0x10, r1 := 0x11, r2 := 0x12, r3 := 0x13, r12 := 0x1c, lr := 0x08001235
    pc := 0x08004567, xpsr := 0x21000000, s := fun i => 0x3f000000 + UInt32.ofNat i
    fpscr := 0x03000000 }

/-- The words of the frame that the hardware stacks for them at `0x20000100`. -/
def sampleMemory (address : ℕ) : UInt32 :=
  ([0x10, 0x11, 0x12, 0x13, 0x1c, 0x08001235, 0x08004567, 0x21000000] ++
    (List.range 16).map (fun i => 0x3f000000 + UInt32.ofNat i) ++ [0x03000000]).getD
    ((address - 0x20000100) / 4) 0

/-- Bounds of the main stack only. -/
def sampleBounds : StackBounds := ⟨0x20000000, 0x20000400, 0, 0, 1, 0⟩

/-- A basic frame on the main stack: the theorem applies, and the frame is faithful. -/
theorem decode_faithful_basic :
    let saved : SavedContext := ⟨0x20000100, 0, 0xfffffff9⟩
    let decoded := lsCortexMDecodeExceptionFrame sampleBounds sampleMemory 0x20000100 saved
    decoded.1 = none ∧ Stacks sampleMemory 0x20000100 saved sampleRegisters ∧
      Faithful saved sampleRegisters decoded.2 := by
  intro saved decoded
  have hs : Stacks sampleMemory 0x20000100 saved sampleRegisters := by
    constructor <;> decide +kernel
  have hok : decoded.1 = none := by decide
  exact ⟨hok, hs, (decode_faithful_iff sampleBounds sampleMemory 0x20000100 saved sampleRegisters
    hs hok).mpr (.inl (by decide))⟩

/-- The extended frame of the same registers: the decoder returns `LS_OK`, with `fpscr` for the
program counter and `s8` for `fpscr`. -/
theorem extended_frame_misread :
    let saved : SavedContext := ⟨0x20000100, 0, 0xffffffe9⟩
    let decoded := lsCortexMDecodeExceptionFrame sampleBounds sampleMemory 0x20000100 saved
    decoded.1 = none ∧ Stacks sampleMemory 0x20000100 saved sampleRegisters ∧
      decoded.2.pc = 0x03000000 ∧ decoded.2.fpscr = 0x3f000008 ∧
      ¬ Faithful saved sampleRegisters decoded.2 := by
  intro saved decoded
  have hpc : decoded.2.pc = 0x03000000 := by decide
  refine ⟨by decide, by constructor <;> decide +kernel, hpc, by decide, fun h => ?_⟩
  exact absurd (hpc.symm.trans h.pc) (by decide)

end Latch.CortexM
