
/-
The policy of `src/core/policy.c` and the fingerprint of a crash: which events are captured.

An event is counted in the table of recent fingerprints and then, unless it is critical,
held against the rate and the sampling of its domain. Whatever the tables say, an event of
priority `LS_PRIORITY_CRITICAL` or above passes (`lsPolicyApply_urgent`). What a run of events
may pass is in `Admission.lean`.
-/
import Latch.Core.Types

namespace Latch

variable (bd : Build) (rt : Runtime)

/-! ### Recent events -/

/-- The fingerprint by which an event is counted. -/
def policyFingerprint (event : Event) : UInt32 :=
  if event.fingerprint = 0 then
    lsHashString event.domain ^^^ (event.code.toUInt32 * 0x9e3779b9) ^^^ lsHashString event.message
  else event.fingerprint

/-- `dedup_record`: the table with a record of the fingerprint, the next place to be reused,
and the place of the record. -/
def dedupRecord (bd : Build) (rt : Runtime) (fingerprint now : UInt32) :
    List DedupRecord × ℕ × ℕ :=
  let fresh : DedupRecord := ⟨fingerprint, 0, now, now⟩
  match rt.dedup.findIdx? (·.fingerprint = fingerprint) with
  | some i => (rt.dedup, rt.dedupNext, i)
  | none =>
    if rt.dedup.length < bd.dedupCapacity then (rt.dedup ++ [fresh], rt.dedupNext, rt.dedup.length)
    else (rt.dedup.set rt.dedupNext fresh, (rt.dedupNext + 1) % bd.dedupCapacity, rt.dedupNext)

/-- A record after its event was seen once more. -/
def DedupRecord.again (bd : Build) (now : UInt32) (d : DedupRecord) : DedupRecord :=
  let d := if bd.dedupWindowMs < now - d.lastSeenMs then { d with count := 0, firstSeenMs := now }
    else d
  { d with count := d.count + 1, lastSeenMs := now }

/-- `is_power_of_two`. -/
def isPowerOfTwo (value : UInt32) : Bool := value ≠ 0 ∧ value &&& (value - 1) = 0

/-! ### Domains -/

/-- `random_next`. -/
def randomNext (state : UInt32) : UInt32 :=
  let value := if state = 0 then 0xa341316c else state
  let value := value ^^^ (value <<< 13)
  let value := value ^^^ (value >>> 17)
  value ^^^ (value <<< 5)

/-- The rate limit of a domain: whether one more event is within it. -/
def PolicyRecord.rated (now : UInt32) (p : PolicyRecord) : Bool × PolicyRecord :=
  if p.rateMaximum = 0 then (true, p)
  else
    let p := if p.ratePeriodMs ≤ now - p.windowStartedMs then
        { p with windowStartedMs := now, rateCount := 0 }
      else p
    if p.rateMaximum ≤ p.rateCount then (false, p)
    else (true, { p with rateCount := p.rateCount + 1 })

/-- What the domain of an event decides: whether it passes, the table of domains and the
state of the random numbers. -/
def domainDecides (rt : Runtime) (event : Event) (count : UInt32) :
    Bool × List PolicyRecord × UInt32 :=
  let counted := count = 1 ∨ isPowerOfTwo count
  match rt.policies.findIdx? (·.domainHash = lsHashString event.domain) with
  | none => (counted, rt.policies, rt.randomState)
  | some i =>
    let p := rt.policies.getD i default
    let (within, p) := { p with seen := p.seen + 1 }.rated event.timestampMs
    let policies := rt.policies.set i p
    if ¬ within then (false, policies, rt.randomState)
    else if 1 < p.seen ∧ p.samplingPermyriad < 10000 then
      let random := randomNext rt.randomState
      (random.toNat % 10000 < p.samplingPermyriad.toNat ∧ counted, policies, random)
    else (counted, policies, rt.randomState)

/-- The decision behind the count: a critical event always passes. -/
def policyDecides (rt : Runtime) (event : Event) (count : UInt32) :
    Bool × List PolicyRecord × UInt32 :=
  if event.priority.code ≤ Priority.critical.code then (true, rt.policies, rt.randomState)
  else domainDecides rt event count

/-- `ls_policy_apply`: whether the event passes, the event with its statistics, and the
runtime. -/
def lsPolicyApply (bd : Build) (rt : Runtime) (event : Event) : Bool × Event × Runtime :=
  let now := event.timestampMs
  let fingerprint := policyFingerprint event
  let found := dedupRecord bd rt fingerprint now
  let record := (found.1.getD found.2.2 default).again bd now
  let event := { event with fingerprint := fingerprint, repeatCount := record.count
                            firstSeenMs := record.firstSeenMs, lastSeenMs := now }
  let decided := policyDecides rt event record.count
  (decided.1, event,
    { rt with dedup := found.1.set found.2.2 record, dedupNext := found.2.1
              policies := decided.2.1, randomState := decided.2.2 })

/-! ### What the policy may change -/

/-- An event of priority `LS_PRIORITY_CRITICAL` or above passes. -/
lemma lsPolicyApply_urgent {event : Event}
    (h : event.priority.code ≤ Priority.critical.code) : (lsPolicyApply bd rt event).1 = true := by
  simp only [lsPolicyApply, policyDecides, if_pos h]

/-- The policy changes its own tables in the runtime. -/
lemma lsPolicyApply_runtime (event : Event) :
    ∃ dedup dedupNext policies randomState, (lsPolicyApply bd rt event).2.2 =
      { rt with dedup := dedup, dedupNext := dedupNext, policies := policies
                randomState := randomState } :=
  ⟨_, _, _, _, rfl⟩

/-! ### Fingerprints -/

/-- `mix` of `src/core/fingerprint.c`. -/
def mix (value : UInt32) : UInt32 :=
  let value := (value ^^^ (value >>> 16)) * 0x7feb352d
  let value := (value ^^^ (value >>> 15)) * 0x846ca68b
  value ^^^ (value >>> 16)

/-- `ls_crash_fingerprint` of a context. -/
def lsCrashFingerprint (bd : Build) (context : ArchContext) : UInt32 :=
  let value := mix context.architecture ^^^ mix context.fault ^^^ mix context.pc ^^^
    mix context.lr ^^^ mix (UInt32.ofNat context.faultAddress) ^^^ mix context.cfsr ^^^
    mix context.hfsr ^^^ mix context.mcause ^^^ mix context.mtval ^^^ mix context.exccause ^^^
    mix context.excvaddr ^^^ mix (lsHashString (some bd.buildId))
  if mix value = 0 then 1 else mix value

end Latch
