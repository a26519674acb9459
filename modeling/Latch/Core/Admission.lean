/-
What the policy passes over runs of events.

`src/core/policy.c` keeps a table of domains, which is searched by the hash of a domain and
changed in place. A run of events is followed at one record of it.

* `counted_limiter`: the rate of a record is a limiter with windows;
* `rate_limit_bounds`: however the events of other domains come between them, a domain passes at
  most twice its maximum in an interval as long as its period.
-/
import Latch.Core.Policy
import Latch.Lib.Limiter

namespace Latch

/-- A change that keeps the key of a record keeps the place of every key. -/
lemma findIdx?_set {α κ : Type} [Inhabited α] [DecidableEq κ] {key : α → κ} {l : List α} {k : κ}
    {j : ℕ} {x : α} (hx : key x = key (l.getD j default)) :
    (l.set j x).findIdx? (key · = k) = l.findIdx? (key · = k) := by
  have hkeys : (l.set j x).map key = l.map key := by
    rw [List.map_set, hx]
    by_cases hl : j < l.length
    · have hself := @List.set_getElem_self _ (l.map key) j (by simpa using hl)
      simpa [hl] using hself
    · exact List.set_eq_of_length_le (by simpa using hl)
  rw [← Function.comp_def (fun y => decide (y = k)) key, ← List.findIdx?_map, ← List.findIdx?_map,
    hkeys]

/-! ### The rate of a domain -/

/-- The window of a record. -/
def PolicyRecord.limiter (p : PolicyRecord) : Limiter.State :=
  ⟨p.windowStartedMs.toNat, p.rateCount.toNat⟩

/-- `find_policy` of a hash, without a record for a new domain. -/
def findPolicy (policies : List PolicyRecord) (hash : UInt32) : Option PolicyRecord :=
  (policies.findIdx? (·.domainHash = hash)).map fun i => policies.getD i default

/-- The events that are held against the limit of a domain. -/
def limited (hash : UInt32) (event : Event) : Bool :=
  hash = lsHashString event.domain ∧ ¬ event.priority.code ≤ Priority.critical.code

/-- An event of its domain against a record: whether it is within the rate. -/
def PolicyRecord.counted (now : UInt32) (p : PolicyRecord) : Bool × PolicyRecord :=
  { p with seen := p.seen + 1 }.rated now

/-- What a call may do to the record of a domain with a limit: it keeps the limit. -/
structure Limits (p p' : PolicyRecord) : Prop where
  domainHash : p'.domainHash = p.domainHash
  rateMaximum : p'.rateMaximum = p.rateMaximum
  ratePeriodMs : p'.ratePeriodMs = p.ratePeriodMs

section Rate

variable {bd : Build} {rt : Runtime} {p : PolicyRecord} {hash now : UInt32}

lemma counted_limits : Limits p (p.counted now).2 := by
  simp only [PolicyRecord.counted, PolicyRecord.rated]
  split_ifs <;> exact ⟨rfl, rfl, rfl⟩

/-- The rate of a record is a limiter with windows; the count does not overflow, as it is below
the maximum when it is raised. -/
lemma counted_limiter (hmax : p.rateMaximum ≠ 0) (hnow : p.limiter.start ≤ now.toNat) :
    ((p.counted now).1, (p.counted now).2.limiter) =
      Limiter.step p.rateMaximum.toNat p.ratePeriodMs.toNat now.toNat p.limiter := by
  have hnew : p.ratePeriodMs ≤ now - p.windowStartedMs ↔
      p.windowStartedMs.toNat + p.ratePeriodMs.toNat ≤ now.toNat := by
    rw [UInt32.le_iff_toNat_le, UInt32.toNat_sub_of_le _ _ (UInt32.le_iff_toNat_le.mpr hnow)]
    have : p.windowStartedMs.toNat ≤ now.toNat := hnow
    omega
  have hcount (count : UInt16) (h : ¬ p.rateMaximum.toNat ≤ count.toNat) :
      (count + 1).toNat = count.toNat + 1 := by
    rw [UInt16.toNat_add, UInt16.toNat_one, Nat.mod_eq_of_lt]
    have := p.rateMaximum.toNat_lt
    omega
  simp only [PolicyRecord.counted, PolicyRecord.rated, if_neg hmax, Limiter.step,
    Limiter.State.at, PolicyRecord.limiter, ← hnew]
  by_cases h : p.ratePeriodMs ≤ now - p.windowStartedMs
  · simp only [if_pos h, UInt16.le_iff_toNat_le, UInt16.toNat_zero]
    split_ifs with hfull
    · rfl
    · rw [hcount 0 hfull]
      rfl
  · simp only [if_neg h, UInt16.le_iff_toNat_le]
    split_ifs with hfull
    · rfl
    · rw [hcount _ hfull]

/-- The record of a domain when a record is changed, perhaps that of another domain. -/
lemma findPolicy_set {l : List PolicyRecord} {i j : ℕ} {q : PolicyRecord}
    (hi : l.findIdx? (·.domainHash = hash) = some i)
    (hq : q.domainHash = (l.getD j default).domainHash) :
    findPolicy (l.set j q) hash = some (if j = i then q else l.getD i default) := by
  obtain ⟨hlt, -⟩ := List.findIdx?_eq_some_iff_getElem.mp hi
  rw [findPolicy, findIdx?_set hq, hi]
  split_ifs with h
  · simp [h, hlt]
  · simp [h]

/-- The event is counted in the record of its domain, and passes only within the rate. -/
lemma domainDecides_some {event : Event} {count : UInt32} {j : ℕ}
    (hj : rt.policies.findIdx? (·.domainHash = lsHashString event.domain) = some j) :
    let counted := (rt.policies.getD j default).counted event.timestampMs
    (domainDecides rt event count).2.1 = rt.policies.set j counted.2 ∧
      ((domainDecides rt event count).1 = true → counted.1 = true) := by
  rw [domainDecides, hj]
  simp only [PolicyRecord.counted]
  generalize PolicyRecord.rated event.timestampMs
    { rt.policies.getD j default with seen := _ } = c
  refine ⟨by split_ifs <;> rfl, fun hok => ?_⟩
  by_contra hn
  simp [hn] at hok

lemma domainDecides_spec (event : Event) (count : UInt32) (hp : findPolicy rt.policies hash = some p) :
    findPolicy (domainDecides rt event count).2.1 hash =
        some (if hash = lsHashString event.domain then (p.counted event.timestampMs).2 else p) ∧
      (hash = lsHashString event.domain → (domainDecides rt event count).1 = true →
        (p.counted event.timestampMs).1 = true) := by
  obtain ⟨i, hi, rfl⟩ := Option.map_eq_some_iff.mp hp
  cases hj : rt.policies.findIdx? (·.domainHash = lsHashString event.domain) with
  | none =>
      have hne : hash ≠ lsHashString event.domain := by
        rintro rfl
        exact Option.some_ne_none i (hi.symm.trans hj)
      rw [domainDecides, hj, if_neg hne]
      exact ⟨hp, fun h => absurd h hne⟩
  | some j =>
      obtain ⟨hpolicies, hwithin⟩ := @domainDecides_some rt event count j hj
      rw [hpolicies, findPolicy_set hi counted_limits.domainHash]
      by_cases h : hash = lsHashString event.domain
      · subst h
        obtain rfl := Option.some.inj (hi.symm.trans hj)
        rw [if_pos rfl, if_pos rfl]
        exact ⟨rfl, fun _ => hwithin⟩
      · have hne : j ≠ i := by
          rintro rfl
          obtain ⟨_, hkey, -⟩ := List.findIdx?_eq_some_iff_getElem.mp hi
          obtain ⟨_, hkey', -⟩ := List.findIdx?_eq_some_iff_getElem.mp hj
          exact h ((of_decide_eq_true hkey).symm.trans (of_decide_eq_true hkey'))
        rw [if_neg hne, if_neg h]
        exact ⟨rfl, fun h' => absurd h' h⟩

/-- A critical event leaves the records as they are. -/
lemma lsPolicyApply_spec (event : Event) (hp : findPolicy rt.policies hash = some p) :
    findPolicy (lsPolicyApply bd rt event).2.2.policies hash =
        some (if limited hash event then (p.counted event.timestampMs).2 else p) ∧
      (limited hash event → (lsPolicyApply bd rt event).1 = true →
        (p.counted event.timestampMs).1 = true) := by
  simp only [lsPolicyApply, policyDecides, limited, decide_eq_true_eq]
  by_cases hu : event.priority.code ≤ Priority.critical.code
  · simpa [hu] using hp
  · simp only [hu, if_false, not_false_eq_true, and_true]
    exact domainDecides_spec _ _ hp

end Rate

/-! ### Runs -/

/-- The times of the limited events in a run. -/
def timesOf (hash : UInt32) (events : List Event) : List ℕ :=
  (events.filter (limited hash)).map (·.timestampMs.toNat)

/-- The times at which they pass. -/
def passed (bd : Build) (hash : UInt32) : List Event → Runtime → List ℕ
  | [], _ => []
  | e :: events, rt =>
    let applied := lsPolicyApply bd rt e
    if limited hash e ∧ applied.1 then e.timestampMs.toNat :: passed bd hash events applied.2.2
    else passed bd hash events applied.2.2

/-- The passes of a run in an interval are what the limiter has left for it. -/
lemma passed_le {bd : Build} {rt : Runtime} {p : PolicyRecord} {hash : UInt32} {events : List Event}
    (hp : findPolicy rt.policies hash = some p) (hmax : p.rateMaximum ≠ 0)
    (hperiod : 0 < p.ratePeriodMs.toNat)
    (htimes : (p.limiter.start :: timesOf hash events).Pairwise (· ≤ ·)) (t : ℕ) :
    (passed bd hash events rt).countP (fun time => t ≤ time ∧ time ≤ t + p.ratePeriodMs.toNat) ≤
      Limiter.left p.rateMaximum.toNat p.ratePeriodMs.toNat t p.limiter := by
  induction events generalizing rt p with
  | nil => exact Nat.zero_le _
  | cons e events ih =>
      obtain ⟨hnext, hpass⟩ := @lsPolicyApply_spec bd rt p hash e hp
      rw [passed]
      cases he : limited hash e with
      | false =>
          rw [he, if_neg Bool.false_ne_true] at hnext
          rw [timesOf, List.filter_cons_of_neg (by simp [he])] at htimes
          simpa using ih hnext hmax hperiod htimes
      | true =>
          rw [he, if_pos rfl] at hnext
          rw [timesOf, List.filter_cons_of_pos he, List.map_cons, List.pairwise_cons,
            List.pairwise_cons, List.forall_mem_cons] at htimes
          obtain ⟨⟨hnow, -⟩, hlater, hsorted⟩ := htimes
          obtain ⟨hwithin, hlimiter⟩ := Prod.ext_iff.mp (counted_limiter hmax hnow)
          have hstart := @Limiter.step_start p.rateMaximum.toNat _ _ p.limiter hperiod hnow
          have hleft := @Limiter.left_step p.rateMaximum.toNat _ t _ p.limiter hperiod hnow
          rw [← hlimiter] at hstart hleft
          have hl := @counted_limits p e.timestampMs
          have ih := ih hnext (hl.rateMaximum ▸ hmax) (hl.ratePeriodMs ▸ hperiod)
            (List.pairwise_cons.mpr ⟨fun time h => hstart.trans (hlater time h), hsorted⟩)
          rw [hl.rateMaximum, hl.ratePeriodMs] at ih
          refine le_trans ?_ (le_trans (Nat.add_le_add_right ih _) hleft)
          rw [← hwithin]
          cases hok : (lsPolicyApply bd rt e).1 with
          | false => simp
          | true => simp [hpass he hok, List.countP_cons]

/-- **Rate limits.** A domain with a maximum and a period passes, of the events less important
than `LS_PRIORITY_CRITICAL`, at most twice the maximum in an interval as long as the period,
whatever other events come between them and whatever the sampling and the table of recent
fingerprints say. -/
theorem rate_limit_bounds (bd : Build) (rt : Runtime) (hash : UInt32) (p : PolicyRecord)
    (hp : findPolicy rt.policies hash = some p) (hmax : p.rateMaximum ≠ 0) (hperiod : p.ratePeriodMs ≠ 0)
    (events : List Event)
    (htimes : (p.windowStartedMs.toNat :: timesOf hash events).Pairwise (· ≤ ·)) (t : ℕ) :
    (passed bd hash events rt).countP (fun time => t ≤ time ∧ time ≤ t + p.ratePeriodMs.toNat) ≤
      2 * p.rateMaximum.toNat := by
  have hpos : 0 < p.ratePeriodMs.toNat := Nat.pos_of_ne_zero fun h => hperiod (UInt32.toNat_inj.mp h)
  exact (passed_le hp hmax hpos htimes t).trans Limiter.left_le

/-- One event in 100 ms: of three events at 0, 50 and 100 ms two pass, which is the bound. -/
theorem rate_limit_bounds_attained :
    let event (code time : UInt32) : Event :=
      { (default : Event) with priority := .warning, code := code.toInt32, timestampMs := time }
    let rt : Runtime := { (default : Runtime) with policies := [⟨0, 10000, 1, 0, 100, 0, 0⟩] }
    let passes := passed .default 0 [event 1 0, event 2 50, event 3 100] rt
    passes = [0, 100] ∧ passes.countP (fun time => 0 ≤ time ∧ time ≤ 0 + 100) ≤ 2 * 1 := by
  intro event rt passes
  exact ⟨by decide +kernel, rate_limit_bounds .default rt 0 ⟨0, 10000, 1, 0, 100, 0, 0⟩ rfl
    (by decide) (by decide) [event 1 0, event 2 50, event 3 100] (by decide +kernel) 0⟩

end Latch
