/-
What redaction hides (`src/core/memory.c` and `put_memory` of `src/envelope/lep.c`).

The memory of the application reaches an envelope through the dump regions and through
the stack snapshot. A dump region takes its mode from the first registered redaction that
meets it, so it shows nothing of an excluded or zeroed byte, unless that first redaction
asks for its hash. The stack snapshot consults no redaction at all.

* `redaction_noninterference`: where the two memories also agree on the stack snapshot and
  on the hashed regions, both envelopes are the same, byte for byte;
* `stack_snapshot_shows_excluded`: without that, an excluded byte of the stack is shown.
-/
import Latch.Envelope.Secure

namespace Latch

open Bytes Exec

/-- An address inside the range of a redaction. -/
def Redaction.Covers (r : Redaction) (a : ℕ) : Prop := r.address ≤ a ∧ a < r.address + r.length

/-- Two memories that agree outside the bytes that are excluded or zeroed. -/
def AgreeUnredacted (rt : Runtime) (mem mem' : ℕ → UInt8) : Prop :=
  ∀ a, (∀ r ∈ rt.redactions, r.mode = .exclude ∨ r.mode = .zero → ¬ r.Covers a) → mem a = mem' a

/-- No registered range wraps: its end is an address. -/
structure NoWrap (b : Build) (rt : Runtime) : Prop where
  redaction : ∀ r ∈ rt.redactions, r.address + r.length ≤ b.uintptrMax
  region : ∀ r ∈ rt.dumpRegions, r.address + r.length ≤ b.uintptrMax

/-- Two memories that agree on a range. -/
def AgreeOn (mem mem' : ℕ → UInt8) (address length : ℕ) : Prop :=
  ∀ a, address ≤ a → a < address + length → mem a = mem' a

/-- Two memories that agree on the stack snapshot and on the hashed regions. -/
structure AgreeExposed (b : Build) (rt : Runtime) (event : Event) (mem mem' : ℕ → UInt8) : Prop where
  stack : ∀ stackPointer available, stackWindow b rt event = some (stackPointer, available) →
    AgreeOn mem mem' stackPointer (min available b.stackSnapshotMax)
  hashed : ∀ region ∈ rt.dumpRegions,
    lsRedactionFor b rt region.address (dumpLength b region) = some .hash →
      AgreeOn mem mem' region.address (dumpLength b region)

section Noninterference

variable {b : Build} {rt : Runtime} {mem mem' : ℕ → UInt8}

/-- A region that meets no redaction holds no redacted byte. -/
lemma agreeOn_of_unmatched (hw : NoWrap b rt) (ha : AgreeUnredacted rt mem mem')
    {region : DumpRegion} (hr : region ∈ rt.dumpRegions)
    (hnone : lsRedactionFor b rt region.address (dumpLength b region) = none) :
    AgreeOn mem mem' region.address (dumpLength b region) := by
  intro a h1 h2
  refine ha a fun r hrr _ hcov => ?_
  simp only [lsRedactionFor, Option.map_eq_none_iff, List.find?_eq_none, decide_eq_true_eq] at hnone
  have hend := hw.redaction r hrr
  have hstop : region.address + dumpLength b region ≤ b.uintptrMax :=
    (Nat.add_le_add_left (min_le_left _ _) _).trans (hw.region region hr)
  refine hnone r hrr ⟨?_, ?_⟩
  · rw [Nat.mod_eq_of_lt (Nat.lt_succ_of_le hend)]
    exact h1.trans_lt hcov.2
  · rw [Nat.mod_eq_of_lt (Nat.lt_succ_of_le hstop)]
    exact hcov.1.trans_lt h2

lemma dumpContent_congr {region : DumpRegion} {mode : Option RedactionMode}
    (h : mode ≠ some .zero → AgreeOn mem mem' region.address (dumpLength b region)) :
    dumpContent b mem region mode = dumpContent b mem' region mode := by
  have hread : mode ≠ some .zero → Medium.read mem region.address (dumpLength b region)
      = Medium.read mem' region.address (dumpLength b region) := fun hm =>
    Medium.read_congr (h hm)
  match mode with
  | some .zero => rfl
  | some .hash => rw [dumpContent, dumpContent, hread nofun]
  | some .exclude => rw [dumpContent, dumpContent, hread nofun] <;> nofun
  | none => rw [dumpContent, dumpContent, hread nofun] <;> nofun

/-- The dump of the regions, one by one: a region is skipped, excluded, or dumped with a
content that does not depend on the redacted bytes. -/
lemma putDumpRegions_congr (hw : NoWrap b rt) (ha : AgreeUnredacted rt mem mem')
    (hhash : ∀ region ∈ rt.dumpRegions,
      lsRedactionFor b rt region.address (dumpLength b region) = some .hash →
        AgreeOn mem mem' region.address (dumpLength b region))
    (regions : List DumpRegion) (hsub : ∀ region ∈ regions, region ∈ rt.dumpRegions) :
    putDumpRegions b rt mem regions = putDumpRegions b rt mem' regions := by
  induction regions with
  | nil => rfl
  | cons region rest ih =>
      have hrest := ih fun r hr => hsub r (List.mem_cons_of_mem _ hr)
      have hregion := hsub region List.mem_cons_self
      rw [putDumpRegions, putDumpRegions, hrest]
      by_cases hex : lsRedactionFor b rt region.address (dumpLength b region) = some .exclude
      · simp only [hex, if_true]
      · have hvalue : memoryValue b mem region
            (lsRedactionFor b rt region.address (dumpLength b region))
            = memoryValue b mem' region
              (lsRedactionFor b rt region.address (dumpLength b region)) := by
          rw [memoryValue, memoryValue, dumpContent_congr fun hzero => ?_]
          cases hmode : lsRedactionFor b rt region.address (dumpLength b region) with
          | none => exact agreeOn_of_unmatched hw ha hregion hmode
          | some mode =>
              cases mode with
              | exclude => exact absurd hmode hex
              | zero => exact absurd hmode hzero
              | hash => exact hhash region hregion hmode
        simp only [hvalue]

lemma putStack_congr {event : Event}
    (hstack : ∀ stackPointer available, stackWindow b rt event = some (stackPointer, available) →
      AgreeOn mem mem' stackPointer (min available b.stackSnapshotMax)) :
    putStack b rt mem event = putStack b rt mem' event := by
  rw [putStack, putStack]
  cases hwin : stackWindow b rt event with
  | none => rfl
  | some window =>
      obtain ⟨stackPointer, available⟩ := window
      simp only [Medium.read_congr (hstack stackPointer available hwin)]

/-- Of the payload, only `put_memory` reads the memory of the application. -/
lemma putPayload_congr (hw : NoWrap b rt) (ha : AgreeUnredacted rt mem mem') {event : Event}
    (he : AgreeExposed b rt event mem mem') (bb : Blackbox) (uptimeMs : UInt32) :
    putPayload b rt bb mem uptimeMs event = putPayload b rt bb mem' uptimeMs event := by
  have hdump : putDump b rt mem event = putDump b rt mem' event := by
    rw [putDump, putDump, putDumpRegions_congr hw ha he.hashed rt.dumpRegions fun _ h => h]
  rw [putPayload, putPayload, putMemory, putMemory, hdump, putStack_congr he.stack]

end Noninterference

/-- Redaction hides the excluded and zeroed bytes from the envelope, apart from those on the
stack snapshot and in a region whose first redaction asks for its hash. -/
theorem redaction_noninterference (b : Build) (c : Crypto) (bb : Blackbox) (mem mem' : ℕ → UInt8)
    (uptimeMs : UInt32) (random : Except Errno Nonce) (event : Event) (capacity : ℕ)
    (sequence : UInt32) (s : EncodeState) (hw : NoWrap b s.runtime)
    (ha : AgreeUnredacted s.runtime mem mem')
    (he : AgreeExposed b s.runtime event mem mem') :
    lsEnvelopeEncode b c bb mem uptimeMs random event capacity sequence s
      = lsEnvelopeEncode b c bb mem' uptimeMs random event capacity sequence s := by
  have hput := putPayload_congr hw ha he bb uptimeMs
  rw [lsEnvelopeEncode, lsEnvelopeEncode]
  -- both runs start by reading the same runtime
  change EStateM.bind get _ s = EStateM.bind get _ s
  simp only [EStateM.bind, show (get : EnvelopeM EncodeState) s = .ok s s from rfl, hput]

/-- A memory with one byte set. -/
def secretMemory : ℕ → UInt8 := fun a => if a = 4096 then 0xff else 0

/-- A runtime with one dump region, which is zeroed. -/
def zeroedState : EncodeState where
  runtime := { (default : Runtime) with
    dumpRegions := [⟨none, 4096, 16, lsDumpSafe⟩], redactions := [⟨4096, 16, .zero⟩] }
  out _ := 0
  length := 0

/-- The secret byte lies in the redacted range. -/
lemma agreeUnredacted_secretMemory {rt : Runtime} {mode : RedactionMode}
    (hr : ⟨4096, 16, mode⟩ ∈ rt.redactions) (hm : mode = .exclude ∨ mode = .zero) :
    AgreeUnredacted rt (fun _ => 0) secretMemory := by
  intro a h
  have hne : a ≠ 4096 := by
    rintro rfl
    exact h _ hr hm ⟨le_rfl, show 4096 < 4096 + 16 by decide⟩
  rw [secretMemory, if_neg hne]

/-- A full dump of the zeroed region says nothing about the secret byte. -/
theorem redaction_noninterference_zeroed :
    lsEnvelopeEncode Build.default clearCrypto default (fun _ => 0) 0 (.error .enotsup)
        { (default : Event) with captureLevel := .full } 1024 1 zeroedState
      = lsEnvelopeEncode Build.default clearCrypto default secretMemory 0 (.error .enotsup)
        { (default : Event) with captureLevel := .full } 1024 1 zeroedState := by
  refine redaction_noninterference _ _ _ _ _ _ _ _ _ _ _ ⟨by decide, by decide⟩
    (agreeUnredacted_secretMemory List.mem_cons_self (.inr rfl)) ⟨nofun, fun region hr hhash => ?_⟩
  obtain rfl := List.mem_singleton.mp hr
  exact absurd hhash (by decide)

/-- A runtime with a stack of 16 bytes, all of them excluded. -/
def excludedStack : EncodeState where
  runtime := { (default : Runtime) with
    stackLower := 4096, stackUpper := 4112, redactions := [⟨4096, 16, .exclude⟩] }
  out _ := 0
  length := 0

/-- A fault with the stack pointer at the lower end of that stack. -/
def stackEvent : Event :=
  { (default : Event) with
    cpu := some { (default : ArchContext) with psp := 4096 }, captureLevel := .stack }

/-- The stack snapshot shows a byte that is excluded. -/
theorem stack_snapshot_shows_excluded :
    NoWrap Build.default excludedStack.runtime ∧
    AgreeUnredacted excludedStack.runtime (fun _ => 0) secretMemory ∧
    lsEnvelopeEncode Build.default clearCrypto default (fun _ => 0) 0 (.error .enotsup)
        stackEvent 1024 1 excludedStack
      ≠ lsEnvelopeEncode Build.default clearCrypto default secretMemory 0 (.error .enotsup)
        stackEvent 1024 1 excludedStack := by
  refine ⟨⟨by decide, by decide⟩, agreeUnredacted_secretMemory List.mem_cons_self (.inl rfl), ?_⟩
  intro h
  have hbytes := congrArg (fun r => match r with
    | .ok _ s => Medium.read s.out 0 s.length
    | .error _ _ => []) h
  revert hbytes
  decide +kernel

end Latch
