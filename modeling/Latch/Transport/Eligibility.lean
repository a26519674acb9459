
/-
Which transport can send an envelope: `ls_transport_can_send` against `ls_transport_send` of
`src/transport/transport.c`.

The spool selects a transport with the first function and hands the envelope to the second one.
Both look at the callbacks, at the capability bits and at the payload that the transport takes,
in case splits of their own. They agree but for transports without a `send` callback: the first
one forgets the capability bit where the envelope fits, and the range of the payload.

* `eligible_refused`: a transport that is eligible and refuses every envelope;
* `eligibility_agrees_iff`: the condition under which the two agree, and that a transport which is
  not eligible is never used.
-/
import Latch.Core.Types
import Latch.Transport.Send

namespace Latch.Transport

open Process

/-- `ls_transport_can_send`. -/
def lsTransportCanSend (t : TransportBackend) (eventSize : ℕ) : Call Bool :=
  if ¬ t.hasSend ∧ ¬ hasFragmentSender t then pure false
  else do
    let available ← askAvailable t
    if available then do
      let mtu ← transportMtu t eventSize
      if mtu = 0 then pure false else pure (decide (eventSize ≤ mtu) || canFragment t)
    else pure false

/-! ### Runs of a call -/

/-- An effect of a call with its answer. -/
abbrev Answered := Σ e : Effect, e.Answer

/-- The callbacks that both functions ask give these answers. -/
def Gives (available : Bool) (mtu : ℕ) : Answered → Prop
  | ⟨.available, a⟩ => a = available
  | ⟨.maxPayload, n⟩ => n = mtu
  | _ => True

/-- The transport is not busy, and no fault is injected. -/
def Undisturbed : Answered → Prop
  | ⟨.acquire, acquired⟩ => acquired = true
  | ⟨.hit _, result⟩ => result = none
  | _ => True

/-- A send or fragment callback answers with the error. -/
def AnswersWith (e : Errno) : Answered → Prop
  | ⟨.send _, result⟩ | ⟨.sendFragment _, result⟩ | ⟨.sendFragmentV2 _, result⟩ => result = some e
  | _ => False

/-- The errors of `ls_transport_send` itself that say that it cannot send. -/
def CannotSend : Errno → Prop
  | .einval | .enotsup | .eoverflow | .eagain => True
  | _ => False

/-- In undisturbed runs, every error comes from a callback. -/
def OnlyPasses (p : Call (Option Errno)) : Prop :=
  ∀ tr r e, Runs p tr r → (∀ x ∈ tr, Undisturbed x) → r = some e → ∃ x ∈ tr, AnswersWith e x

section

variable {t : TransportBackend}

lemma onlyPasses_none : OnlyPasses (pure none) := by
  rintro tr r e ⟨rfl, rfl⟩ - h
  cases h

/-- An error of the second part, or one of the first. -/
lemma OnlyPasses.bind {p : Call (Option Errno)} {f : Option Errno → Call (Option Errno)}
    (hp : OnlyPasses p) (hnone : OnlyPasses (f none))
    (hsome : ∀ e tr r, Runs (f (some e)) tr r → (∀ x ∈ tr, Undisturbed x) →
      r = some e ∨ ∀ e', r = some e' → ∃ x ∈ tr, AnswersWith e' x) : OnlyPasses (p >>= f) := by
  intro tr r e hrun hquiet hr
  obtain ⟨tr₁, r₁, tr₂, rfl, h₁, h₂⟩ := runs_bind.mp hrun
  have hquiet₁ : ∀ x ∈ tr₁, Undisturbed x := fun x hx => hquiet x (List.mem_append_left _ hx)
  have hquiet₂ : ∀ x ∈ tr₂, Undisturbed x := fun x hx => hquiet x (List.mem_append_right _ hx)
  have behind : (∃ x ∈ tr₂, AnswersWith e x) → ∃ x ∈ tr₁ ++ tr₂, AnswersWith e x :=
    fun ⟨x, hx, h⟩ => ⟨x, List.mem_append_right _ hx, h⟩
  cases r₁ with
  | none => exact behind (hnone tr₂ r e h₂ hquiet₂ hr)
  | some e₁ =>
      rcases hsome e₁ tr₂ r h₂ hquiet₂ with h | h
      · obtain ⟨x, hx, hans⟩ := hp tr₁ (some e₁) e₁ h₁ hquiet₁ rfl
        rw [h] at hr
        cases hr
        exact ⟨x, List.mem_append_left _ hx, hans⟩
      · exact behind (h e hr)

lemma retrying_passes {once : Call (Option Errno)} (h : OnlyPasses once) (left : ℕ) :
    OnlyPasses (retrying t once left) := by
  induction left with
  | zero => exact h
  | succ left ih =>
      refine h.bind onlyPasses_none fun e tr r hrun hquiet => ?_
      obtain ⟨hyes, hno⟩ := runs_ite.mp hrun
      by_cases hretry : lsTransportResultIsRetryable e = true
      · obtain ⟨tr₁, again, tr₂, rfl, -, h₂⟩ := runs_bind.mp (hyes hretry)
        cases again with
        | false => exact .inl h₂.2
        | true =>
            refine .inr fun e' hr => ?_
            obtain ⟨x, hx, hans⟩ := ih tr₂ r e' h₂
              (fun x hx => hquiet x (List.mem_append_right _ hx)) hr
            exact ⟨x, List.mem_append_right _ hx, hans⟩
      · exact .inl (hno hretry).2

/-- Without fault injection a point is passed. -/
lemma behindPoint_passes {point : SendPoint} {callback : Call (Option Errno)}
    (h : OnlyPasses callback) : OnlyPasses (behindPoint point callback) := by
  intro tr r e hrun hquiet hr
  obtain ⟨tr₁, result, tr₂, rfl, h₁, h₂⟩ := runs_bind.mp hrun
  rw [runs_perform.mp h₁] at hquiet ⊢
  have hnone : result = none := hquiet ⟨.hit point, result⟩ (List.mem_cons_self ..)
  subst hnone
  obtain ⟨x, hx, hans⟩ := h tr₂ r e h₂ (fun x hx => hquiet x (List.mem_append_right _ hx)) hr
  exact ⟨x, List.mem_append_right _ hx, hans⟩

lemma sendComplete_passes (hsend : t.hasSend = true) (data : List UInt8) :
    OnlyPasses (sendComplete t data) := by
  rw [sendComplete, if_pos hsend]
  refine retrying_passes (behindPoint_passes ?_) _
  intro tr r e hrun _ hr
  rw [runs_perform.mp hrun]
  exact ⟨_, List.mem_cons_self .., hr⟩

lemma sendFragment_passes (hfrag : hasFragmentSender t = true) (fragment : Fragment) :
    OnlyPasses (sendFragment t fragment) := by
  refine retrying_passes (behindPoint_passes ?_) _
  intro tr r e hrun _ hr
  obtain ⟨hv2, hold⟩ := runs_ite.mp hrun
  by_cases h2 : t.hasSendFragmentV2 = true
  · rw [runs_perform.mp (hv2 h2)]
    exact ⟨_, List.mem_cons_self .., hr⟩
  · have h1 : t.hasSendFragment = true := by
      unfold hasFragmentSender at hfrag
      simpa [h2] using hfrag
    rw [runs_perform.mp ((runs_ite.mp (hold h2)).1 h1)]
    exact ⟨_, List.mem_cons_self .., hr⟩

lemma sendFragments_passes (hfrag : hasFragmentSender t = true) (fs : List Fragment) :
    OnlyPasses (sendFragments t fs) := by
  induction fs with
  | nil => exact onlyPasses_none
  | cons fragment rest ih =>
      exact (sendFragment_passes hfrag fragment).bind ih fun e tr r hrun _ => .inl hrun.2

/-- The payload that a transport takes, for an envelope of `length` bytes. -/
def payloadOf (t : TransportBackend) (length mtu : ℕ) : ℕ := if t.hasMaxPayload then mtu else length

/-- The transport has a `send` callback, or it is declared to take fragments and its payload fits
the field of a fragment. -/
def Deliverable (t : TransportBackend) (length mtu : ℕ) : Prop :=
  t.hasSend = true ∨ canFragment t = true ∧ payloadOf t length mtu ≤ 0xffffffff

/-- An envelope has at most as many fragments as bytes. -/
lemma fragmentCount_le {length mtu : ℕ} (h : mtu ≠ 0) : fragmentCount length mtu ≤ length := by
  unfold fragmentCount
  have hdiv := Nat.div_add_mod length mtu
  have hle : length / mtu ≤ mtu * (length / mtu) := Nat.le_mul_of_pos_left _ (by omega)
  split <;> omega

lemma hasFragmentSender_of_canFragment (h : canFragment t = true) : hasFragmentSender t = true := by
  unfold canFragment at h
  exact (Bool.and_eq_true _ _ ▸ h).2

lemma sendAcquired_passes (eventId : UInt32) {data : List UInt8} {mtu : ℕ} (hmtu : mtu ≠ 0)
    (hlen : data.length < 2 ^ 16) (hfit : data.length ≤ mtu ∨ canFragment t = true)
    (hd : t.hasSend = true ∨ canFragment t = true ∧ mtu ≤ 0xffffffff) :
    OnlyPasses (sendAcquired t eventId data mtu) := by
  unfold sendAcquired
  by_cases hwhole : data.length ≤ mtu ∧ t.hasSend = true
  · rw [if_pos hwhole]
    exact sendComplete_passes hwhole.2 data
  rw [if_neg hwhole]
  have hcan : canFragment t = true := by
    rcases hd with hsend | ⟨hcan, -⟩
    · exact hfit.resolve_left fun h => hwhole ⟨h, hsend⟩
    · exact hcan
  have hsmall : mtu ≤ 0xffffffff := by
    rcases hd with hsend | ⟨-, hsmall⟩
    · have : ¬ data.length ≤ mtu := fun h => hwhole ⟨h, hsend⟩
      omega
    · exact hsmall
  have hcount := @fragmentCount_le data.length mtu hmtu
  rw [if_neg (by omega)]
  exact sendFragments_passes (hasFragmentSender_of_canFragment hcan) _

lemma sendExclusive_passes (eventId : UInt32) {data : List UInt8} {mtu : ℕ}
    (h : OnlyPasses (sendAcquired t eventId data mtu)) :
    OnlyPasses (sendExclusive t eventId data mtu) := by
  intro tr r e hrun hquiet hr
  obtain ⟨tr₁, acquired, tr₂, rfl, h₁, h₂⟩ := runs_bind.mp hrun
  rw [runs_perform.mp h₁] at hquiet ⊢
  have hyes : acquired = true := hquiet ⟨.acquire, acquired⟩ (List.mem_cons_self ..)
  subst hyes
  obtain ⟨tr₃, result, tr₄, rfl, h₃, h₄⟩ := runs_bind.mp h₂
  obtain ⟨tr₅, _, tr₆, rfl, -, h₆⟩ := runs_bind.mp h₄
  obtain ⟨rfl, rfl⟩ := h₆
  obtain ⟨x, hx, hans⟩ := h tr₃ r e h₃ (fun x hx => hquiet x (by simp [hx])) hr
  exact ⟨x, by simp [hx], hans⟩

end

/-! ### The two functions -/

section Agreement

variable {t : TransportBackend} {available : Bool} {mtu length : ℕ} {tr : List Answered}

variable {data : List UInt8} {eventId : UInt32} {r : Option Errno}

/-- The transport says that it is available, where it is asked. -/
def availableOf (t : TransportBackend) (available : Bool) : Bool := !t.hasAvailable || available

lemma askAvailable_runs {a : Bool} (h : Runs (askAvailable t) tr a)
    (hgives : ∀ x ∈ tr, Gives available mtu x) :
    a = availableOf t available ∧ ∀ x ∈ tr, x.1.sends = false := by
  unfold askAvailable at h
  obtain ⟨hask, hnone⟩ := runs_ite.mp h
  unfold availableOf
  by_cases hc : t.hasAvailable = true
  · have htr := runs_perform.mp (hask hc)
    subst htr
    refine ⟨?_, fun x hx => ?_⟩
    · rw [hc]
      exact hgives _ (List.mem_cons_self ..)
    · rw [List.mem_singleton.mp hx]
      rfl
  · obtain ⟨rfl, rfl⟩ := hnone hc
    exact ⟨by simp [hc], fun _ hx => by cases hx⟩

lemma transportMtu_runs {n : ℕ} (h : Runs (transportMtu t length) tr n)
    (hgives : ∀ x ∈ tr, Gives available mtu x) :
    n = payloadOf t length mtu ∧ ∀ x ∈ tr, x.1.sends = false := by
  unfold transportMtu at h
  obtain ⟨hask, hnone⟩ := runs_ite.mp h
  unfold payloadOf
  by_cases hc : t.hasMaxPayload = true
  · have htr := runs_perform.mp (hask hc)
    subst htr
    refine ⟨?_, fun x hx => ?_⟩
    · rw [if_pos hc]
      exact hgives _ (List.mem_cons_self ..)
    · rw [List.mem_singleton.mp hx]
      rfl
  · obtain ⟨rfl, rfl⟩ := hnone hc
    exact ⟨(if_neg hc).symm, fun _ hx => by cases hx⟩

/-- What `ls_transport_can_send` returns for the answers it gets. -/
def eligibleOf (t : TransportBackend) (available : Bool) (length mtu : ℕ) : Bool :=
  (t.hasSend || hasFragmentSender t) && availableOf t available &&
    payloadOf t length mtu != 0 &&
    (decide (length ≤ payloadOf t length mtu) || canFragment t)

lemma lsTransportCanSend_runs {eligible : Bool} (h : Runs (lsTransportCanSend t length) tr eligible)
    (hgives : ∀ x ∈ tr, Gives available mtu x) : eligible = eligibleOf t available length mtu := by
  unfold lsTransportCanSend at h
  unfold eligibleOf
  obtain ⟨hnone, hsome⟩ := runs_ite.mp h
  by_cases hc : ¬ t.hasSend = true ∧ ¬ hasFragmentSender t = true
  · rw [(hnone hc).2]
    simp [hc.1, hc.2]
  have hsender : (t.hasSend || hasFragmentSender t) = true := by
    rw [Bool.or_eq_true]
    tauto
  obtain ⟨tr₁, a, tr₂, rfl, h₁, h₂⟩ := runs_bind.mp (hsome hc)
  obtain ⟨rfl, -⟩ := askAvailable_runs h₁ fun x hx => hgives x (List.mem_append_left _ hx)
  rw [hsender, Bool.true_and]
  cases hav : availableOf t available with
  | false =>
      rw [hav] at h₂
      exact h₂.2
  | true =>
      rw [hav, if_pos rfl] at h₂
      obtain ⟨tr₃, n, tr₄, rfl, h₃, h₄⟩ := runs_bind.mp h₂
      obtain ⟨rfl, -⟩ := transportMtu_runs h₃ fun x hx => hgives x (by simp [hx])
      obtain ⟨hzero, hpos⟩ := runs_ite.mp h₄
      by_cases h0 : payloadOf t length mtu = 0
      · rw [(hzero h0).2]
        simp [h0]
      · rw [(hpos h0).2]
        simp [h0]

/-- What `ls_transport_send` does once it knows the payload. -/
def sendSized (t : TransportBackend) (eventId : UInt32) (data : List UInt8) (mtu : ℕ) :
    Call (Option Errno) :=
  if mtu = 0 then pure (some .einval)
  else if mtu < data.length ∧ ¬ canFragment t then pure (some .enotsup)
  else if data.length ≤ mtu ∧ ¬ t.hasSend ∧ ¬ canFragment t then pure (some .enotsup)
  else sendExclusive t eventId data mtu

/-- A call with the answers it gets: it stops if the transport is not available, and goes on with
the payload otherwise. -/
lemma lsTransportSend_runs
    (hpos : data.length ≠ 0) (hlen : data.length < 2 ^ 16)
    (h : Runs (lsTransportSend t eventId data) tr r) (hgives : ∀ x ∈ tr, Gives available mtu x) :
    ∃ tr₁ tr₂, tr = tr₁ ++ tr₂ ∧ (∀ x ∈ tr₁, x.1.sends = false) ∧
      if availableOf t available then
        Runs (sendSized t eventId data (payloadOf t data.length mtu)) tr₂ r
      else tr₂ = [] ∧ r = some .eagain := by
  rw [lsTransportSend, if_neg hpos, if_neg (by omega)] at h
  obtain ⟨tr₁, a, tr₂, rfl, h₁, h₂⟩ := runs_bind.mp h
  obtain ⟨rfl, hq₁⟩ := askAvailable_runs h₁ fun x hx => hgives x (List.mem_append_left _ hx)
  cases hav : availableOf t available with
  | false =>
      rw [hav] at h₂
      exact ⟨tr₁, tr₂, rfl, hq₁, h₂⟩
  | true =>
      rw [hav, if_pos rfl] at h₂
      obtain ⟨tr₃, n, tr₄, rfl, h₃, h₄⟩ := runs_bind.mp h₂
      obtain ⟨rfl, hq₃⟩ := transportMtu_runs h₃ fun x hx => hgives x (by simp [hx])
      refine ⟨tr₁ ++ tr₃, tr₄, (List.append_assoc ..).symm, fun x hx => ?_, h₄⟩
      rcases List.mem_append.mp hx with hx | hx
      · exact hq₁ x hx
      · exact hq₃ x hx

/-- A transport that is not eligible is not used. -/
lemma not_used
    (hpos : data.length ≠ 0) (hlen : data.length < 2 ^ 16)
    (hnot : eligibleOf t available data.length mtu = false)
    (h : Runs (lsTransportSend t eventId data) tr r) (hgives : ∀ x ∈ tr, Gives available mtu x) :
    r ≠ none ∧ ∀ x ∈ tr, x.1.sends = false := by
  obtain ⟨tr₁, tr₂, rfl, hq, hrest⟩ := lsTransportSend_runs hpos hlen h hgives
  have stops : ∀ e, tr₂ = [] ∧ r = some e → r ≠ none ∧ ∀ x ∈ tr₁ ++ tr₂, x.1.sends = false := by
    rintro e ⟨rfl, rfl⟩
    exact ⟨nofun, by simpa using hq⟩
  cases hav : availableOf t available with
  | false =>
      rw [hav] at hrest
      exact stops _ hrest
  | true =>
      rw [hav, if_pos rfl, sendSized] at hrest
      unfold eligibleOf at hnot
      rw [hav, Bool.and_true] at hnot
      obtain ⟨hzero, hrest⟩ := runs_ite.mp hrest
      by_cases h0 : payloadOf t data.length mtu = 0
      · exact stops _ (hzero h0)
      obtain ⟨hfrag, hrest⟩ := runs_ite.mp (hrest h0)
      by_cases hbig : payloadOf t data.length mtu < data.length ∧ ¬ canFragment t = true
      · exact stops _ (hfrag hbig)
      obtain ⟨hwhole, -⟩ := runs_ite.mp (hrest hbig)
      refine stops _ (hwhole ?_)
      simp only [Bool.and_eq_false_iff, bne_eq_false_iff_eq, Bool.or_eq_false_iff,
        decide_eq_false_iff_not, h0, or_false] at hnot
      rcases hnot with ⟨hsend, hfragment⟩ | ⟨hshort, hcan⟩
      · have hcan : canFragment t = false := by simp [canFragment, hfragment]
        exact ⟨by_contra fun h => hbig ⟨by omega, by simp [hcan]⟩, by simp [hsend], by simp [hcan]⟩
      · exact absurd ⟨by omega, by simp [hcan]⟩ hbig

/-- What it takes for an envelope to go on to an eligible transport. -/
lemma sendSized_eq (eventId : UInt32)
    (helig : eligibleOf t available data.length mtu = true)
    (hd : t.hasSend = true ∨ canFragment t = true) :
    sendSized t eventId data (payloadOf t data.length mtu) =
      sendExclusive t eventId data (payloadOf t data.length mtu) := by
  simp only [eligibleOf, Bool.and_eq_true, bne_iff_ne, Bool.or_eq_true, decide_eq_true_eq] at helig
  obtain ⟨⟨-, hne⟩, hfit⟩ := helig
  rw [sendSized, if_neg hne, if_neg fun h => ?_, if_neg fun h => ?_]
  · exact hd.elim h.2.1 h.2.2
  · exact hfit.elim (fun h' => by omega) h.2

/-- Where the condition holds, an eligible transport gets the envelope, and every error is its
own. -/
lemma eligible_passes (hpos : data.length ≠ 0)
    (hlen : data.length < 2 ^ 16) (helig : eligibleOf t available data.length mtu = true)
    (hd : Deliverable t data.length mtu) {e : Errno}
    (h : Runs (lsTransportSend t eventId data) tr r)
    (hgives : ∀ x ∈ tr, Gives available mtu x ∧ Undisturbed x) (hr : r = some e) :
    ∃ x ∈ tr, AnswersWith e x := by
  obtain ⟨tr₁, tr₂, rfl, -, hrest⟩ := lsTransportSend_runs hpos hlen h fun x hx => (hgives x hx).1
  have helig' := helig
  simp only [eligibleOf, Bool.and_eq_true, bne_iff_ne, Bool.or_eq_true, decide_eq_true_eq] at helig'
  obtain ⟨⟨⟨-, hav⟩, hne⟩, hfit⟩ := helig'
  rw [hav, if_pos rfl, sendSized_eq eventId helig (hd.imp_right And.left)] at hrest
  have hpass := sendExclusive_passes eventId (sendAcquired_passes eventId hne hlen hfit hd)
  obtain ⟨x, hx, hans⟩ := hpass tr₂ r e hrest
    (fun x hx => (hgives x (List.mem_append_right _ hx)).2) hr
  exact ⟨x, List.mem_append_right _ hx, hans⟩

/-- An environment that gives the answers, and in which everything else succeeds. -/
def answering (available : Bool) (mtu : ℕ) : (e : Effect) → e.Answer
  | .available => available
  | .maxPayload => mtu
  | .acquire | .retry _ _ => true
  | .release => ()
  | .hit _ | .send _ | .sendFragment _ | .sendFragmentV2 _ => none

lemma answering_gives {x : Answered} (h : x.2 = answering available mtu x.1) :
    Gives available mtu x ∧ Undisturbed x ∧ ∀ e, ¬ AnswersWith e x := by
  obtain ⟨e, a⟩ := x
  dsimp only at h
  subst h
  cases e <;> exact ⟨by first | rfl | trivial, by first | rfl | trivial, nofun⟩

/-- Where it does not, an eligible transport is refused although nothing has failed. -/
lemma eligible_refuses (hpos : data.length ≠ 0)
    (hlen : data.length < 2 ^ 16) (helig : eligibleOf t available data.length mtu = true)
    (hd : ¬ Deliverable t data.length mtu)
    (h : Runs (lsTransportSend t eventId data) tr r)
    (hgives : ∀ x ∈ tr, Gives available mtu x ∧ Undisturbed x) :
    ∃ e, r = some e ∧ CannotSend e := by
  obtain ⟨tr₁, tr₂, rfl, -, hrest⟩ := lsTransportSend_runs hpos hlen h fun x hx => (hgives x hx).1
  have helig' := helig
  simp only [eligibleOf, Bool.and_eq_true, bne_iff_ne, Bool.or_eq_true, decide_eq_true_eq] at helig'
  obtain ⟨⟨⟨-, hav⟩, hne⟩, hfit⟩ := helig'
  have hsend : ¬ t.hasSend = true := fun h => hd (.inl h)
  rw [hav, if_pos rfl] at hrest
  by_cases hcan : canFragment t = true
  · -- the payload does not fit its field
    have hbig : ¬ payloadOf t data.length mtu ≤ 0xffffffff := fun h => hd (.inr ⟨hcan, h⟩)
    rw [sendSized_eq eventId helig (.inr hcan)] at hrest
    obtain ⟨tr₃, acquired, tr₄, rfl, h₃, h₄⟩ := runs_bind.mp hrest
    have hyes : acquired = true := by
      rw [runs_perform.mp h₃] at hgives
      exact (hgives ⟨.acquire, acquired⟩ (by simp)).2
    subst hyes
    obtain ⟨tr₅, result, tr₆, rfl, h₅, h₆⟩ := runs_bind.mp h₄
    obtain ⟨tr₇, _, tr₈, rfl, -, h₈⟩ := runs_bind.mp h₆
    rw [sendAcquired, if_neg fun h => hsend h.2, if_pos (.inr (not_le.mp hbig))] at h₅
    exact ⟨.eoverflow, h₈.2.trans h₅.2, trivial⟩
  · -- the capability is not declared
    have hfits := hfit.resolve_right hcan
    rw [sendSized, if_neg hne, if_neg fun h => by omega, if_pos ⟨hfits, hsend, hcan⟩] at hrest
    exact ⟨.enotsup, hrest.2, trivial⟩

end Agreement

/-- **Eligibility and sending.** Let `ls_transport_can_send` answer for an envelope of at most
`LS_MAX_EVENT_SIZE` bytes, and let the two callbacks give the same answers to `ls_transport_send`.
If it was yes, then in every call that finds the transport free and no fault injected the errors
that say that it cannot send come from its callbacks only, exactly if the transport has a `send`
callback or is declared to take fragments of a size that fits. If it was no, then every call
returns an error without a use of the transport. -/
theorem eligibility_agrees_iff (bd : Build) (t : TransportBackend) (available : Bool) (mtu : ℕ)
    (eventId : UInt32) (data : List UInt8) (hpos : 1 ≤ data.length)
    (hlen : data.length ≤ bd.maxEventSize) (asked : List Answered) (eligible : Bool)
    (hcan : Runs (lsTransportCanSend t data.length) asked eligible)
    (hasked : ∀ x ∈ asked, Gives available mtu x) :
    (eligible = true →
      ((∀ tr r e, Runs (lsTransportSend t eventId data) tr r →
        (∀ x ∈ tr, Gives available mtu x ∧ Undisturbed x) → r = some e → CannotSend e →
        ∃ x ∈ tr, AnswersWith e x) ↔ Deliverable t data.length mtu)) ∧
    (eligible = false → ∀ tr r, Runs (lsTransportSend t eventId data) tr r →
      (∀ x ∈ tr, Gives available mtu x) → r ≠ none ∧ ∀ x ∈ tr, x.1.sends = false) := by
  have hlt := hlen.trans_lt bd.maxEventSize_lt
  have hne : data.length ≠ 0 := by omega
  rw [lsTransportCanSend_runs hcan hasked]
  refine ⟨fun helig => ⟨fun hall => ?_, fun hd tr r e h hgives hr _ => ?_⟩,
    fun hnot tr r h hgives => not_used hne hlt hnot h hgives⟩
  · by_contra hd
    obtain ⟨tr, h, henv⟩ := exists_runs (answering available mtu) (lsTransportSend t eventId data)
    have hgives : ∀ x ∈ tr, Gives available mtu x ∧ Undisturbed x := fun x hx =>
      ⟨(answering_gives (henv x hx)).1, (answering_gives (henv x hx)).2.1⟩
    obtain ⟨e, hr, hcannot⟩ := eligible_refuses hne hlt helig hd h hgives
    obtain ⟨x, hx, hans⟩ := hall tr _ e h hgives hr hcannot
    exact (answering_gives (henv x hx)).2.2 e hans
  · exact eligible_passes hne hlt helig hd h hgives hr

/-- A transport with a `send` callback and nothing else. -/
def plainSender : TransportBackend :=
  { hasAvailable := false, hasSend := true, hasSendFragment := false, hasSendFragmentV2 := false
    hasMaxPayload := false, hasRetry := false, capabilities := 0, retryLimit := 0 }

/-- It is eligible, and a call returns only what the callback returned. -/
theorem eligibility_agrees_plainSender :
    Runs (lsTransportCanSend plainSender 1) [] true ∧
    ∀ tr r e, Runs (lsTransportSend plainSender 7 [1]) tr r →
      (∀ x ∈ tr, Gives true 0 x ∧ Undisturbed x) → r = some e → CannotSend e →
      ∃ x ∈ tr, AnswersWith e x :=
  ⟨⟨rfl, rfl⟩, ((eligibility_agrees_iff Build.default plainSender true 0 7 [1] le_rfl (by decide) []
    true ⟨rfl, rfl⟩ fun _ h => by cases h).1 rfl).mpr (.inl rfl)⟩

/-- A transport with a fragment callback only. -/
def fragmentSender (capabilities : UInt32) (hasMaxPayload : Bool) : TransportBackend :=
  { hasAvailable := false, hasSend := false, hasSendFragment := false, hasSendFragmentV2 := true
    hasMaxPayload := hasMaxPayload, hasRetry := false, capabilities := capabilities
    retryLimit := 0 }

/-- **Eligible and refused.** A transport with a fragment callback that is not declared to take
fragments is eligible for an envelope of one byte, and the call returns `LS_ENOTSUP`. One that is
declared to, with a payload of `2 ^ 32` bytes, is eligible as well, and the call returns
`LS_EOVERFLOW` from the free transport. No callback was used in either. -/
theorem eligible_refused :
    (Runs (lsTransportCanSend (fragmentSender 0 false) 1) [] true ∧
      Runs (lsTransportSend (fragmentSender 0 false) 7 [1]) [] (some .enotsup)) ∧
    Runs (lsTransportCanSend (fragmentSender lsTransportFragment true) 1)
        [⟨.maxPayload, (2 ^ 32 : ℕ)⟩] true ∧
      Runs (lsTransportSend (fragmentSender lsTransportFragment true) 7 [1])
        [⟨.maxPayload, (2 ^ 32 : ℕ)⟩, ⟨.acquire, true⟩, ⟨.release, ()⟩] (some .eoverflow) :=
  ⟨⟨⟨rfl, rfl⟩, ⟨rfl, rfl⟩⟩, ⟨(2 ^ 32 : ℕ), [], rfl, rfl, rfl⟩,
    ⟨(2 ^ 32 : ℕ), _, rfl, true, _, rfl, (), [], rfl, rfl, rfl⟩⟩

end Latch.Transport
