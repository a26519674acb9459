
/-
Sending an envelope: `ls_transport_send` of `src/transport/transport.c`.

A call is a process whose effects are the callbacks of the transport, the points of fault
injection, and the two critical sections in which the transport is acquired and released.
`sendProtocol` says in which order they may come: a transport is used only between its
acquisition and its release, and a call that does not get it returns `LS_EBUSY`.
`lsTransportSend_follows` shows that every call keeps to it, whatever the callbacks
answer; `lsTransportSend_serving` computes the fragments that a call hands to its transport.
-/
import Latch.Core.Util
import Latch.Lib.Process

namespace Latch.Transport

open Process

/-! ### Transports and fragments -/

/-- `LS_TRANSPORT_FRAGMENT`. -/
def lsTransportFragment : UInt32 := 2

/-- The part of `ls_transport_backend_t` that sending uses: which callbacks are there, and
the settings. -/
structure TransportBackend where
  hasAvailable : Bool
  hasSend : Bool
  hasSendFragment : Bool
  hasSendFragmentV2 : Bool
  hasMaxPayload : Bool
  hasRetry : Bool
  capabilities : UInt32
  retryLimit : UInt8
  deriving DecidableEq

/-- `ls_transport_fragment_t`; `data` stands for the pointer with its `length`. -/
structure Fragment where
  eventId : UInt32
  envelopeCrc : UInt32
  totalLength : UInt32
  offset : UInt32
  fragmentCapacity : UInt32
  fragmentCrc : UInt32
  fragmentIndex : UInt16
  fragmentCount : UInt16
  data : Option (List UInt8)
  deriving DecidableEq

/-- The points of `ls_fault_injection_hit` in this file. -/
inductive SendPoint where
  | transportSend
  | transportFragment
  deriving DecidableEq

/-- What a call asks of its environment. -/
inductive Effect where
  | available
  | maxPayload
  | acquire
  | release
  | hit (point : SendPoint)
  | send (data : List UInt8)
  | sendFragment (fragment : Fragment)
  | sendFragmentV2 (fragment : Fragment)
  | retry (attempt : ℕ) (result : Errno)
  deriving DecidableEq

/-- The answers; a result is `none` for `LS_OK`. -/
abbrev Effect.Answer : Effect → Type
  | .available | .acquire | .retry _ _ => Bool
  | .maxPayload => ℕ
  | .release => Unit
  | .hit _ | .send _ | .sendFragment _ | .sendFragmentV2 _ => Option Errno

/-- A part of a call. -/
abbrev Call := Proc Effect Effect.Answer

/-- Asks the environment of a call. -/
abbrev invoke (e : Effect) : Call e.Answer := perform e

section

variable (t : TransportBackend)

/-- `has_fragment_sender`. -/
def hasFragmentSender : Bool := t.hasSendFragment || t.hasSendFragmentV2

/-- The transport can be given fragments. -/
def canFragment : Bool := t.capabilities &&& lsTransportFragment ≠ 0 && hasFragmentSender t

/-- `ls_transport_result_is_retryable`. -/
def lsTransportResultIsRetryable : Errno → Bool
  | .eagain | .ebusy => true
  | _ => false

/-- The `available` callback, where there is one. -/
def askAvailable : Call Bool := if t.hasAvailable then invoke .available else pure true

/-- `transport_mtu`. -/
def transportMtu (length : ℕ) : Call ℕ :=
  if t.hasMaxPayload then invoke .maxPayload else pure length

/-- The last test of `should_retry`, with the number of the attempt. -/
def askRetry (attempt : ℕ) (result : Errno) : Call Bool :=
  if t.hasRetry then invoke (.retry attempt result) else pure true

/-- The loops of `send_complete` and `send_fragment`: one try, and again as long as
`should_retry` allows. `left` counts the retries that are left. -/
def retrying (once : Call (Option Errno)) : ℕ → Call (Option Errno)
  | 0 => once
  | left + 1 => do
    match ← once with
    | none => pure none
    | some e =>
      if lsTransportResultIsRetryable e then do
        let again ← askRetry t (t.retryLimit.toNat - left) e
        if again then retrying once left else pure (some e)
      else pure (some e)

/-- A callback behind its injection point. -/
def behindPoint (point : SendPoint) (callback : Call (Option Errno)) : Call (Option Errno) := do
  match ← invoke (.hit point) with
  | some e => pure (some e)
  | none => callback

/-- `send_complete`. -/
def sendComplete (data : List UInt8) : Call (Option Errno) :=
  if t.hasSend then
    retrying t (behindPoint .transportSend (invoke (.send data))) t.retryLimit.toNat
  else pure (some .enotsup)

/-- `send_fragment`. -/
def sendFragment (fragment : Fragment) : Call (Option Errno) :=
  retrying t (behindPoint .transportFragment
    (if t.hasSendFragmentV2 then invoke (.sendFragmentV2 fragment)
    else if t.hasSendFragment then invoke (.sendFragment fragment)
    else pure (some .enotsup))) t.retryLimit.toNat

/-- The loop over the fragments, up to the first error. -/
def sendFragments : List Fragment → Call (Option Errno)
  | [] => pure none
  | fragment :: rest => do
    match ← sendFragment t fragment with
    | some e => pure (some e)
    | none => sendFragments rest

/-- The number of fragments of an envelope. -/
def fragmentCount (length mtu : ℕ) : ℕ := length / mtu + if length % mtu ≠ 0 then 1 else 0

/-- The bytes of a fragment. -/
def piece (data : List UInt8) (mtu index : ℕ) : List UInt8 := (data.drop (index * mtu)).take mtu

/-- The fragment that the loop of `ls_transport_send` builds at an index. -/
def fragmentAt (eventId : UInt32) (data : List UInt8) (mtu index : ℕ) : Fragment :=
  { eventId := eventId, envelopeCrc := lsCrc32 data, totalLength := UInt32.ofNat data.length
    offset := UInt32.ofNat (index * mtu), fragmentCapacity := UInt32.ofNat mtu
    fragmentCrc := lsCrc32 (piece data mtu index), fragmentIndex := UInt16.ofNat index
    fragmentCount := UInt16.ofNat (fragmentCount data.length mtu)
    data := some (piece data mtu index) }

/-- The fragments of an envelope, in their order. -/
def fragments (eventId : UInt32) (data : List UInt8) (mtu : ℕ) : List Fragment :=
  (List.range (fragmentCount data.length mtu)).map (fragmentAt eventId data mtu)

/-- What `ls_transport_send` does with the transport it has acquired. -/
def sendAcquired (eventId : UInt32) (data : List UInt8) (mtu : ℕ) : Call (Option Errno) :=
  if data.length ≤ mtu ∧ t.hasSend then sendComplete t data
  else if 0xffff < fragmentCount data.length mtu ∨ 0xffffffff < mtu then pure (some .eoverflow)
  else sendFragments t (fragments eventId data mtu)

/-- `ls_transport_send` from the acquisition on. -/
def sendExclusive (eventId : UInt32) (data : List UInt8) (mtu : ℕ) : Call (Option Errno) := do
  let acquired ← invoke .acquire
  if acquired then do
    let result ← sendAcquired t eventId data mtu
    invoke .release
    pure result
  else pure (some .ebusy)

/-- `ls_transport_send`; a null pointer for the data is the empty list. -/
def lsTransportSend (eventId : UInt32) (data : List UInt8) : Call (Option Errno) :=
  if data.length = 0 then pure (some .einval)
  else if 0xffffffff < data.length then pure (some .eoverflow)
  else do
    let available ← askAvailable t
    if available then do
      let mtu ← transportMtu t data.length
      if mtu = 0 then pure (some .einval)
      else if mtu < data.length ∧ ¬ canFragment t then pure (some .enotsup)
      else if data.length ≤ mtu ∧ ¬ t.hasSend ∧ ¬ canFragment t then pure (some .enotsup)
      else sendExclusive t eventId data mtu
    else pure (some .eagain)

end

/-! ### The order of the effects -/

/-- How far a call has come. -/
inductive Phase where
  | idle
  | holding
  | refused
  | released
  deriving DecidableEq

/-- The effects that use the transport to send. -/
def Effect.sends : Effect → Bool
  | .send _ | .sendFragment _ | .sendFragmentV2 _ => true
  | _ => false

/-- Before the transport is acquired a call asks whether and how much it can send; the
other callbacks come between the acquisition and the release. -/
def sendProtocol : Protocol Effect Effect.Answer Phase where
  allows
    | .idle, .available | .idle, .maxPayload | .idle, .acquire => True
    | .holding, .hit _ | .holding, .send _ | .holding, .sendFragment _
    | .holding, .sendFragmentV2 _ | .holding, .retry _ _ | .holding, .release => True
    | _, _ => False
  next
    | _, .acquire, acquired => if acquired then .holding else .refused
    | _, .release, _ => .released
    | phase, _, _ => phase

/-- A call ends without the transport; if it was refused, then with `LS_EBUSY`. -/
def Ends (phase : Phase) (result : Option Errno) : Prop :=
  phase ≠ .holding ∧ (phase = .refused → result = some .ebusy)

section Protocol

variable {t : TransportBackend}

variable (eventId : UInt32) (data : List UInt8) (mtu : ℕ)

/-- What keeps the transport: it stays acquired. -/
abbrev Keeps (p : Call (Option Errno)) : Prop :=
  Process.Follows sendProtocol (fun phase _ => phase = .holding) .holding p

lemma retrying_keeps {once : Call (Option Errno)} (h : Keeps once) (left : ℕ) :
    Keeps (retrying t once left) := by
  induction left with
  | zero => exact h
  | succ left ih =>
      rw [Keeps, retrying, follows_bind]
      refine h.mono fun phase result hphase => ?_
      subst hphase
      cases result with
      | none => exact follows_pure.mpr rfl
      | some e =>
          dsimp only
          rw [follows_ite]
          refine ⟨fun _ => ?_, fun _ => follows_pure.mpr rfl⟩
          rw [follows_bind, askRetry, follows_ite]
          have hnext : ∀ again : Bool, Keeps (if again then retrying t once left
              else pure (some e)) := fun again => by
            rw [Keeps, follows_ite]
            exact ⟨fun _ => ih, fun _ => follows_pure.mpr rfl⟩
          exact ⟨fun _ => ⟨trivial, fun again => hnext again⟩, fun _ => hnext true⟩

lemma behindPoint_keeps {point : SendPoint} {callback : Call (Option Errno)}
    (h : Keeps callback) : Keeps (behindPoint point callback) := by
  rw [Keeps, behindPoint, follows_bind]
  refine ⟨trivial, fun result => ?_⟩
  cases result with
  | none => exact h
  | some e => exact follows_pure.mpr rfl

lemma sendComplete_keeps : Keeps (sendComplete t data) := by
  rw [Keeps, sendComplete, follows_ite]
  refine ⟨fun _ => retrying_keeps (behindPoint_keeps ?_) _, fun _ => follows_pure.mpr rfl⟩
  exact ⟨trivial, fun _ => rfl⟩

lemma sendFragment_keeps (fragment : Fragment) : Keeps (sendFragment t fragment) := by
  refine retrying_keeps (behindPoint_keeps ?_) _
  rw [Keeps, follows_ite]
  refine ⟨fun _ => ⟨trivial, fun _ => rfl⟩, fun _ => ?_⟩
  rw [follows_ite]
  exact ⟨fun _ => ⟨trivial, fun _ => rfl⟩, fun _ => follows_pure.mpr rfl⟩

lemma sendFragments_keeps (fs : List Fragment) : Keeps (sendFragments t fs) := by
  induction fs with
  | nil => exact follows_pure.mpr rfl
  | cons fragment rest ih =>
      rw [Keeps, sendFragments, follows_bind]
      refine (sendFragment_keeps fragment).mono fun phase result hphase => ?_
      subst hphase
      cases result with
      | none => exact ih
      | some e => exact follows_pure.mpr rfl

lemma sendAcquired_keeps :
    Keeps (sendAcquired t eventId data mtu) := by
  rw [Keeps, sendAcquired, follows_ite]
  refine ⟨fun _ => sendComplete_keeps data, fun _ => ?_⟩
  rw [follows_ite]
  exact ⟨fun _ => follows_pure.mpr rfl, fun _ => sendFragments_keeps _⟩

lemma sendExclusive_follows :
    Process.Follows sendProtocol Ends .idle (sendExclusive t eventId data mtu) := by
  rw [sendExclusive, follows_bind]
  refine ⟨trivial, fun acquired => ?_⟩
  cases acquired with
  | false => exact ⟨nofun, fun _ => rfl⟩
  | true =>
      change Process.Follows sendProtocol Ends .holding (sendAcquired t eventId data mtu >>= _)
      rw [follows_bind]
      refine (sendAcquired_keeps eventId data mtu).mono fun phase result hphase => ?_
      subst hphase
      exact ⟨trivial, fun _ => ⟨nofun, nofun⟩⟩

/-- **The order of a call.** Whatever its environment answers, a call of `ls_transport_send`
uses the transport only between its acquisition and its release, does not end before it
has released it, and returns `LS_EBUSY` if it did not get it. -/
theorem lsTransportSend_follows (t : TransportBackend) (eventId : UInt32) (data : List UInt8) :
    Process.Follows sendProtocol Ends .idle (lsTransportSend t eventId data) := by
  have hstop : ∀ e : Errno, Process.Follows sendProtocol Ends .idle (pure (some e) : Call _) :=
    fun e => ⟨nofun, nofun⟩
  have hmtu : ∀ mtu, Process.Follows sendProtocol Ends .idle
      (if mtu = 0 then pure (some .einval)
      else if mtu < data.length ∧ ¬ canFragment t then pure (some .enotsup)
      else if data.length ≤ mtu ∧ ¬ t.hasSend ∧ ¬ canFragment t then pure (some .enotsup)
      else sendExclusive t eventId data mtu) := by
    intro mtu
    simp only [follows_ite]
    exact ⟨fun _ => hstop _, fun _ => ⟨fun _ => hstop _, fun _ => ⟨fun _ => hstop _,
      fun _ => sendExclusive_follows eventId data mtu⟩⟩⟩
  have havailable : ∀ available : Bool, Process.Follows sendProtocol Ends .idle
      (if available then transportMtu t data.length >>= fun mtu =>
        if mtu = 0 then pure (some .einval)
        else if mtu < data.length ∧ ¬ canFragment t then pure (some .enotsup)
        else if data.length ≤ mtu ∧ ¬ t.hasSend ∧ ¬ canFragment t then pure (some .enotsup)
        else sendExclusive t eventId data mtu
      else pure (some .eagain)) := by
    intro available
    rw [follows_ite]
    refine ⟨fun _ => ?_, fun _ => hstop _⟩
    rw [follows_bind, transportMtu, follows_ite]
    exact ⟨fun _ => ⟨trivial, hmtu⟩, fun _ => hmtu _⟩
  rw [lsTransportSend, follows_ite]
  refine ⟨fun _ => hstop _, fun _ => ?_⟩
  rw [follows_ite]
  refine ⟨fun _ => hstop _, fun _ => ?_⟩
  rw [follows_bind, askAvailable, follows_ite]
  exact ⟨fun _ => ⟨trivial, havailable⟩, fun _ => havailable true⟩

end Protocol

/-! ### The fragments of a call -/

/-- An environment in which everything succeeds, with the given `max_payload`. -/
def serving (mtu : ℕ) : (e : Effect) → e.Answer
  | .available | .acquire | .retry _ _ => true
  | .maxPayload => mtu
  | .release => ()
  | .hit _ | .send _ | .sendFragment _ | .sendFragmentV2 _ => none

/-- The fragments that a process hands to `send_fragment_v2`. -/
def emitted {α : Type} (mtu : ℕ) (p : Call α) : List Fragment :=
  (p.trace (serving mtu)).filterMap fun
    | .sendFragmentV2 fragment => some fragment
    | _ => none

section Emitted

variable {t : TransportBackend} {mtu : ℕ} {data : List UInt8}

lemma emitted_bind {α β : Type} (p : Call α) (f : α → Call β) :
    emitted mtu (p >>= f) = emitted mtu p ++ emitted mtu (f (p.result (serving mtu))) := by
  rw [emitted, trace_bind, List.filterMap_append]
  rfl

/-- What succeeds is not tried again. -/
lemma retrying_serving (t : TransportBackend) {once : Call (Option Errno)}
    (h : once.result (serving mtu) = none) (left : ℕ) :
    (retrying t once left).result (serving mtu) = none ∧
      emitted mtu (retrying t once left) = emitted mtu once := by
  cases left with
  | zero => exact ⟨h, rfl⟩
  | succ left =>
      rw [retrying, result_bind, emitted_bind, h]
      exact ⟨rfl, List.append_nil _⟩

lemma sendFragment_serving (hv2 : t.hasSendFragmentV2 = true) (fragment : Fragment) :
    (sendFragment t fragment).result (serving mtu) = none ∧
      emitted mtu (sendFragment t fragment) = [fragment] := by
  rw [sendFragment, if_pos hv2]
  exact retrying_serving t rfl t.retryLimit.toNat

lemma sendFragments_serving (hv2 : t.hasSendFragmentV2 = true) (fs : List Fragment) :
    (sendFragments t fs).result (serving mtu) = none ∧
      emitted mtu (sendFragments t fs) = fs := by
  induction fs with
  | nil => exact ⟨rfl, rfl⟩
  | cons fragment rest ih =>
      obtain ⟨hresult, hemitted⟩ : _ ∧ emitted mtu (sendFragment t fragment) = [fragment] :=
        sendFragment_serving hv2 fragment
      rw [sendFragments, result_bind, emitted_bind, hresult, hemitted]
      exact ⟨ih.1, congrArg (fragment :: ·) ih.2⟩

/-- The transport takes the envelope in fragments of `mtu` bytes: it has the callback and the
capability, the envelope does not go out in one piece, and the numbers fit their fields. -/
structure Fragmenting (t : TransportBackend) (data : List UInt8) (mtu : ℕ) : Prop where
  callback : t.hasSendFragmentV2 = true
  capable : t.capabilities &&& lsTransportFragment ≠ 0
  payload : t.hasMaxPayload = true ∨ mtu = data.length
  pieces : t.hasSend = true → mtu < data.length
  length_pos : 0 < data.length
  length_le : data.length ≤ 0xffffffff
  mtu_pos : 0 < mtu
  mtu_le : mtu ≤ 0xffffffff
  count_le : fragmentCount data.length mtu ≤ 0xffff

lemma askAvailable_serving :
    (askAvailable t).result (serving mtu) = true ∧ emitted mtu (askAvailable t) = [] := by
  rw [askAvailable]
  split <;> exact ⟨rfl, rfl⟩

lemma transportMtu_serving (h : t.hasMaxPayload = true ∨ mtu = data.length) :
    (transportMtu t data.length).result (serving mtu) = mtu ∧
      emitted mtu (transportMtu t data.length) = [] := by
  rw [transportMtu]
  split
  · exact ⟨rfl, rfl⟩
  · exact ⟨(h.resolve_left ‹_›).symm, rfl⟩

lemma sendExclusive_serving (h : Fragmenting t data mtu) (eventId : UInt32) :
    (sendExclusive t eventId data mtu).result (serving mtu) = none ∧
      emitted mtu (sendExclusive t eventId data mtu) = fragments eventId data mtu := by
  have hacquired : sendAcquired t eventId data mtu =
      sendFragments t (fragments eventId data mtu) := by
    have := h.count_le
    have := h.mtu_le
    rw [sendAcquired, if_neg fun h' => absurd (h.pieces h'.2) (by omega), if_neg (by omega)]
  obtain ⟨hresult, hemitted⟩ :
      (sendFragments t (fragments eventId data mtu)).result (serving mtu) = none ∧ _ :=
    sendFragments_serving h.callback _
  rw [sendExclusive, result_bind, emitted_bind, result_perform]
  change (sendAcquired t eventId data mtu >>= _).result _ = _ ∧
    [] ++ emitted mtu (sendAcquired t eventId data mtu >>= _) = _
  rw [result_bind, emitted_bind, hacquired, hresult, hemitted]
  exact ⟨rfl, List.append_nil _⟩

/-- **The fragments of an envelope.** Where the transport takes fragments and everything
succeeds, `ls_transport_send` returns `LS_OK` and hands over the fragments of the envelope,
in their order. -/
theorem lsTransportSend_serving (h : Fragmenting t data mtu) (eventId : UInt32) :
    (lsTransportSend t eventId data).result (serving mtu) = none ∧
      emitted mtu (lsTransportSend t eventId data) = fragments eventId data mtu := by
  have hfragment : canFragment t = true := by
    simp [canFragment, hasFragmentSender, h.callback, h.capable]
  obtain ⟨havailable, hnone⟩ : (askAvailable t).result (serving mtu) = true ∧ _ :=
    askAvailable_serving
  obtain ⟨hmtu, hnone'⟩ := transportMtu_serving h.payload
  have hpos := h.length_pos
  have hlen := h.length_le
  have hmtupos := h.mtu_pos
  rw [lsTransportSend, if_neg (by omega), if_neg (by omega), result_bind, emitted_bind,
    havailable, hnone, if_pos rfl, result_bind, emitted_bind, hmtu, hnone', if_neg (by omega),
    if_neg fun h' => h'.2 hfragment, if_neg fun h' => h'.2.2 hfragment]
  exact sendExclusive_serving h eventId

end Emitted

end Latch.Transport
