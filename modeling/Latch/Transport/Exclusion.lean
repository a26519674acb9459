/-
Concurrent senders: the table of busy transports.

Calls of `ls_transport_send` run interleaved; `acquire_transport` and `release_transport`
are atomic, and every other effect of a call may be followed by one of another call. The
table is searched from its start, and a free entry is taken before the rest is looked at:
a transport whose own entry lies behind a hole is acquired a second time
(`transport_held_twice`). As long as no call acquires a transport in that situation, at
most one call holds a transport, and the others get `LS_EBUSY` (`transport_exclusive`).
-/
import Latch.Lib.Run
import Latch.Transport.Send

namespace Latch.Transport

open Process

variable {τ : Type} [DecidableEq τ]

/-! ### The table -/

/-- `acquire_transport`: the table behind it, and whether the transport was acquired. -/
def acquireTransport (t : τ) : List (Option τ) → List (Option τ) × Bool
  | [] => ([], false)
  | none :: rest => (some t :: rest, true)
  | some u :: rest =>
    if u = t then (some u :: rest, false)
    else
      let (rest, acquired) := acquireTransport t rest
      (some u :: rest, acquired)

/-- `release_transport`. -/
def releaseTransport (t : τ) : List (Option τ) → List (Option τ)
  | [] => []
  | entry :: rest => if entry = some t then none :: rest else entry :: releaseTransport t rest

/-- The entry of a transport lies behind a free one. -/
def HoleBefore (t : τ) : List (Option τ) → Prop
  | [] => False
  | none :: rest => some t ∈ rest
  | some u :: rest => u ≠ t ∧ HoleBefore t rest

instance decidableHoleBefore (t : τ) : (busy : List (Option τ)) → Decidable (HoleBefore t busy)
  | [] => inferInstanceAs (Decidable False)
  | none :: rest => inferInstanceAs (Decidable (some t ∈ rest))
  | some u :: rest =>
    have := decidableHoleBefore t rest
    inferInstanceAs (Decidable (u ≠ t ∧ HoleBefore t rest))

section Table

variable {t u : τ} {busy : List (Option τ)}

/-- A transport that is in the table, with no hole before it, is not acquired. -/
lemma acquireTransport_of_mem (hmem : some t ∈ busy) (hhole : ¬ HoleBefore t busy) :
    acquireTransport t busy = (busy, false) := by
  induction busy with
  | nil => cases hmem
  | cons entry rest ih =>
      cases entry with
      | none => exact absurd ((List.mem_cons.mp hmem).resolve_left nofun) hhole
      | some u =>
          by_cases hu : u = t
          · rw [acquireTransport, if_pos hu]
          · have hrest : some t ∈ rest :=
              (List.mem_cons.mp hmem).resolve_left fun h => hu (Option.some.inj h).symm
            rw [acquireTransport, if_neg hu, ih hrest fun h => hhole ⟨hu, h⟩]

/-- What was in the table stays there. -/
lemma mem_acquireTransport (h : some u ∈ busy) : some u ∈ (acquireTransport t busy).1 := by
  induction busy with
  | nil => exact h
  | cons entry rest ih =>
      cases entry with
      | none => exact List.mem_cons_of_mem _ ((List.mem_cons.mp h).resolve_left nofun)
      | some v =>
          rw [acquireTransport]
          split_ifs
          · exact h
          · rcases List.mem_cons.mp h with h | h
            · exact h ▸ List.mem_cons_self ..
            · exact List.mem_cons_of_mem _ (ih h)

/-- A transport that was acquired is in the table. -/
lemma mem_of_acquired (h : (acquireTransport t busy).2 = true) :
    some t ∈ (acquireTransport t busy).1 := by
  induction busy with
  | nil => cases h
  | cons entry rest ih =>
      cases entry with
      | none => exact List.mem_cons_self ..
      | some v =>
          rw [acquireTransport] at h ⊢
          split_ifs at h ⊢
          exact List.mem_cons_of_mem _ (ih h)

/-- A release leaves the other transports in the table. -/
lemma mem_releaseTransport (hne : u ≠ t) (h : some u ∈ busy) :
    some u ∈ releaseTransport t busy := by
  induction busy with
  | nil => exact h
  | cons entry rest ih =>
      rw [releaseTransport]
      split_ifs with he
      · have hrest : some u ∈ rest :=
          (List.mem_cons.mp h).resolve_left fun h' => hne (Option.some.inj (h'.trans he))
        exact List.mem_cons_of_mem _ hrest
      · rcases List.mem_cons.mp h with h | h
        · exact h ▸ List.mem_cons_self ..
        · exact List.mem_cons_of_mem _ (ih h)

end Table

/-! ### Interleaved calls -/

/-- A call of `ls_transport_send`: its transport, how far it has come, what it still has to
do, and what it has asked for, the last effect first. -/
structure Thread (τ : Type) where
  transport : τ
  phase : Phase
  rest : Call (Option Errno)
  asked : List Effect

/-- The calls so far, and the table of the busy transports. -/
structure Senders (τ : Type) where
  busy : List (Option τ)
  threads : List (Thread τ)

/-- No call, and a table of `n` free entries (`LS_MAX_TRANSPORTS`). -/
def Senders.start (n : ℕ) : Senders τ := ⟨List.replicate n none, []⟩

/-- What may happen next: a call begins, or a call goes on with its next effect, the
callbacks answering as `env` says. -/
inductive Action (τ : Type) where
  | call (transport : τ) (eventId : UInt32) (data : List UInt8)
  | advance (thread : ℕ) (env : (e : Effect) → e.Answer)

/-- The table and the answer after an effect of a call. -/
def serve (busy : List (Option τ)) (t : τ) (env : (e : Effect) → e.Answer) :
    (e : Effect) → List (Option τ) × e.Answer
  | .acquire => acquireTransport t busy
  | .release => (releaseTransport t busy, ())
  | e => (busy, env e)

/-- A call after its next effect. -/
def Thread.answered (thread : Thread τ) (e : Effect) (k : e.Answer → Call (Option Errno))
    (answer : e.Answer) : Thread τ :=
  { thread with phase := sendProtocol.next thread.phase e answer, rest := k answer
                asked := e :: thread.asked }

/-- One step of the system. -/
def sendersStep (backends : τ → TransportBackend) : Action τ → Senders τ → Senders τ
  | .call t eventId data, s =>
    { s with threads := s.threads ++ [⟨t, .idle, lsTransportSend (backends t) eventId data, []⟩] }
  | .advance i env, s =>
    match s.threads[i]? with
    | none => s
    | some thread =>
      match thread.rest with
      | .done _ => s
      | .ask e k =>
        let (busy, answer) := serve s.busy thread.transport env e
        { busy := busy, threads := s.threads.set i (thread.answered e k answer) }

/-- No call acquires a transport whose entry lies behind a hole. -/
def NoHole (a : Action τ) (s : Senders τ) : Prop :=
  match a with
  | .call _ _ _ => True
  | .advance i _ => ∀ thread k, s.threads[i]? = some thread → thread.rest = .ask .acquire k →
      ¬ HoleBefore thread.transport s.busy

/-! ### One step -/

/-- What a step can do. -/
inductive Stepped (backends : τ → TransportBackend) (s : Senders τ) :
    Action τ → Senders τ → Prop where
  | stuck (a : Action τ) : Stepped backends s a s
  | began (t : τ) (eventId : UInt32) (data : List UInt8) :
      Stepped backends s (.call t eventId data)
        ⟨s.busy, s.threads ++ [⟨t, .idle, lsTransportSend (backends t) eventId data, []⟩]⟩
  | went (i : ℕ) (env : (e : Effect) → e.Answer) (thread : Thread τ) (e : Effect)
      (k : e.Answer → Call (Option Errno)) (found : s.threads[i]? = some thread)
      (rest : thread.rest = .ask e k) :
      Stepped backends s (.advance i env) ⟨(serve s.busy thread.transport env e).1,
        s.threads.set i (thread.answered e k (serve s.busy thread.transport env e).2)⟩

lemma sendersStep_stepped (backends : τ → TransportBackend) (a : Action τ) (s : Senders τ) :
    Stepped backends s a (sendersStep backends a s) := by
  cases a with
  | call t eventId data => exact .began t eventId data
  | advance i env =>
      rw [sendersStep]
      cases hthread : s.threads[i]? with
      | none => exact .stuck _
      | some thread =>
          dsimp only
          cases hrest : thread.rest with
          | done result => exact .stuck _
          | ask e k => exact .went i env thread e k hthread hrest

/-! ### Mutual exclusion -/

/-- The call `i` holds the transport `t`. -/
def Holds (s : Senders τ) (i : ℕ) (t : τ) : Prop :=
  ∃ thread, s.threads[i]? = some thread ∧ thread.phase = .holding ∧ thread.transport = t

/-- A call keeps to the protocol, and has not sent unless it got its transport. -/
structure Thread.Regular (thread : Thread τ) : Prop where
  follows : Process.Follows sendProtocol Ends thread.phase thread.rest
  quiet : thread.phase = .idle ∨ thread.phase = .refused → ∀ e ∈ thread.asked, e.sends = false

/-- The invariant of the system: the calls are regular, who holds a transport has it in the
table, and no two calls hold the same one. -/
structure Exclusive (s : Senders τ) : Prop where
  regular : ∀ thread ∈ s.threads, thread.Regular
  listed : ∀ i t, Holds s i t → some t ∈ s.busy
  once : ∀ i j t, Holds s i t → Holds s j t → i = j

omit [DecidableEq τ] in
lemma exclusive_start (n : ℕ) : Exclusive (Senders.start n : Senders τ) := by
  have hnone : ∀ i t, ¬ Holds (Senders.start n : Senders τ) i t := fun i t ⟨_, h, _⟩ => nomatch h
  exact ⟨nofun, fun i t h => absurd h (hnone i t), fun i _ t h => absurd h (hnone i t)⟩

omit [DecidableEq τ] in
/-- An effect of a regular call leaves it regular. -/
lemma Thread.Regular.answered {thread : Thread τ} (h : thread.Regular) {e : Effect}
    {k : e.Answer → Call (Option Errno)} (hrest : thread.rest = .ask e k) (answer : e.Answer) :
    (thread.answered e k answer).Regular := by
  have hfollows := h.follows
  rw [hrest, follows_ask] at hfollows
  refine ⟨hfollows.2 answer, fun hphase e' he' => ?_⟩
  have hallows := hfollows.1
  have hquiet := h.quiet
  simp only [Thread.answered] at hphase he'
  -- of the effects that are allowed, only those of a holder send
  have hboth : e.sends = false ∧ (thread.phase = .idle ∨ thread.phase = .refused) := by
    generalize thread.phase = phase at hallows hphase
    cases e <;> cases phase <;> simp_all [sendProtocol, Effect.sends]
  rcases List.mem_cons.mp he' with rfl | he'
  · exact hboth.1
  · exact hquiet hboth.2 e' he'

section Set

variable {s : Senders τ} {i j : ℕ} {t : τ} {thread thread' : Thread τ}
  {busy : List (Option τ)}

omit [DecidableEq τ] in
lemma holds_set_self (hi : s.threads[i]? = some thread) :
    Holds ⟨busy, s.threads.set i thread'⟩ i t ↔
      thread'.phase = .holding ∧ thread'.transport = t := by
  have hlt : i < s.threads.length := (List.getElem?_eq_some_iff.mp hi).1
  simp [Holds, List.getElem?_set_self hlt]

omit [DecidableEq τ] in
lemma holds_set_ne (hne : j ≠ i) :
    Holds ⟨busy, s.threads.set i thread'⟩ j t ↔ Holds s j t := by
  simp [Holds, List.getElem?_set_ne (Ne.symm hne)]

omit [DecidableEq τ] in
/-- Who holds what after one call has gone on: that call, or another one as before. -/
lemma holds_set (hi : s.threads[i]? = some thread)
    (h : Holds ⟨busy, s.threads.set i thread'⟩ j t) :
    j = i ∧ thread'.phase = .holding ∧ thread'.transport = t ∨ j ≠ i ∧ Holds s j t := by
  by_cases hne : j = i
  · subst hne
    exact .inl ⟨rfl, (holds_set_self hi).mp h⟩
  · exact .inr ⟨hne, (holds_set_ne hne).mp h⟩

end Set

/-- An acquisition keeps the invariant where no hole lies before the entry. -/
lemma exclusive_acquire {s : Senders τ} {i : ℕ} {thread : Thread τ}
    {k : Bool → Call (Option Errno)} (found : s.threads[i]? = some thread)
    (hhole : ¬ HoleBefore thread.transport s.busy) (hs : Exclusive s)
    (hregular : ∀ u ∈ s.threads.set i (thread.answered .acquire k
      (acquireTransport thread.transport s.busy).2), u.Regular) :
    Exclusive ⟨(acquireTransport thread.transport s.busy).1, s.threads.set i
      (thread.answered .acquire k (acquireTransport thread.transport s.busy).2)⟩ := by
  -- what was acquired was not in the table, so nobody held it
  have hfree : (acquireTransport thread.transport s.busy).2 = true →
      ∀ j, ¬ Holds s j thread.transport := by
    intro hacquired j hj
    rw [acquireTransport_of_mem (hs.listed j _ hj) hhole] at hacquired
    cases hacquired
  have hholding : (thread.answered .acquire k (acquireTransport thread.transport s.busy).2).phase =
      .holding → (acquireTransport thread.transport s.busy).2 = true := by
    intro hp
    by_contra hacquired
    rw [Bool.not_eq_true] at hacquired
    rw [hacquired] at hp
    cases hp
  refine ⟨hregular, fun j u hj => ?_, fun j l u hj hl => ?_⟩
  · rcases holds_set found hj with ⟨rfl, hp, rfl⟩ | ⟨-, hj⟩
    · exact mem_of_acquired (hholding hp)
    · exact mem_acquireTransport (hs.listed j u hj)
  · rcases holds_set found hj with ⟨rfl, hp, rfl⟩ | ⟨-, hj'⟩
    · rcases holds_set found hl with ⟨rfl, -, -⟩ | ⟨-, hl'⟩
      · rfl
      · exact absurd hl' (hfree (hholding hp) l)
    · rcases holds_set found hl with ⟨rfl, hp, rfl⟩ | ⟨-, hl'⟩
      · exact absurd hj' (hfree (hholding hp) j)
      · exact hs.once j l u hj' hl'

/-- A release by the holder keeps the invariant. -/
lemma exclusive_release {s : Senders τ} {i : ℕ} {thread : Thread τ}
    {k : Unit → Call (Option Errno)} (found : s.threads[i]? = some thread)
    (hphase : thread.phase = .holding) (hs : Exclusive s)
    (hregular : ∀ u ∈ s.threads.set i (thread.answered .release k ()), u.Regular) :
    Exclusive ⟨releaseTransport thread.transport s.busy,
      s.threads.set i (thread.answered .release k ())⟩ := by
  have hother : ∀ j u, Holds ⟨releaseTransport thread.transport s.busy,
      s.threads.set i (thread.answered .release k ())⟩ j u → j ≠ i ∧ Holds s j u := by
    intro j u hj
    refine (holds_set found hj).resolve_left fun ⟨_, hp, _⟩ => ?_
    cases hp
  refine ⟨hregular, fun j u hj => ?_, fun j l u hj hl =>
    hs.once j l u (hother j u hj).2 (hother l u hl).2⟩
  obtain ⟨hne, hj⟩ := hother j u hj
  refine mem_releaseTransport (fun hu => hne ?_) (hs.listed j u hj)
  exact hs.once j i u hj ⟨thread, found, hphase, hu.symm⟩

/-- A step keeps the invariant, if no transport is acquired behind a hole. -/
lemma Stepped.exclusive {backends : τ → TransportBackend} {a : Action τ} {s s' : Senders τ}
    (h : Stepped backends s a s') (hhole : NoHole a s) (hs : Exclusive s) : Exclusive s' := by
  cases h with
  | stuck => exact hs
  | began t eventId data =>
      have hold : ∀ i u, Holds ⟨s.busy, s.threads ++ [⟨t, .idle,
          lsTransportSend (backends t) eventId data, []⟩]⟩ i u → Holds s i u := by
        rintro i u ⟨thread, hi, hphase, hu⟩
        rw [List.getElem?_append] at hi
        split_ifs at hi with hlt
        · exact ⟨thread, hi, hphase, hu⟩
        · have hmem := List.mem_of_getElem? hi
          rw [List.mem_singleton.mp hmem] at hphase
          cases hphase
      refine ⟨fun thread hthread => ?_, fun i u h => hs.listed i u (hold i u h),
        fun i j u hi hj => hs.once i j u (hold i u hi) (hold j u hj)⟩
      rcases List.mem_append.mp hthread with hthread | hthread
      · exact hs.regular thread hthread
      · rw [List.mem_singleton.mp hthread]
        exact ⟨lsTransportSend_follows (backends t) eventId data, nofun⟩
  | went i env thread e k found rest =>
      have hmem := List.mem_of_getElem? found
      have hregular : ∀ u ∈ s.threads.set i (thread.answered e k
          (serve s.busy thread.transport env e).2), u.Regular := by
        intro u hu
        rcases List.mem_or_eq_of_mem_set hu with hu | rfl
        · exact hs.regular u hu
        · exact (hs.regular thread hmem).answered rest _
      -- a callback changes neither the table nor who holds what
      have hcallback : (serve s.busy thread.transport env e).1 = s.busy →
          sendProtocol.next thread.phase e (serve s.busy thread.transport env e).2 = thread.phase →
          Exclusive ⟨(serve s.busy thread.transport env e).1, s.threads.set i (thread.answered e k
            (serve s.busy thread.transport env e).2)⟩ := by
        intro hbusy hphase
        have hsame : ∀ j u, Holds ⟨(serve s.busy thread.transport env e).1, s.threads.set i
            (thread.answered e k (serve s.busy thread.transport env e).2)⟩ j u → Holds s j u := by
          intro j u hj
          rcases holds_set found hj with ⟨rfl, hp, hu⟩ | ⟨-, hj⟩
          · exact ⟨thread, found, hphase ▸ hp, hu⟩
          · exact hj
        exact ⟨hregular, fun j u hj => hbusy.symm.subst (motive := fun busy => some u ∈ busy)
            (hs.listed j u (hsame j u hj)),
          fun j l u hj hl => hs.once j l u (hsame j u hj) (hsame l u hl)⟩
      cases e with
      | acquire => exact exclusive_acquire found (hhole thread k found rest) hs hregular
      | release =>
          have hphase := (hs.regular thread hmem).follows
          rw [rest, follows_ask] at hphase
          refine exclusive_release found ?_ hs hregular
          generalize thread.phase = phase at hphase
          cases phase <;> simp_all [sendProtocol]
      | _ => exact hcallback rfl rfl

/-! ### Runs -/

/-- **Transports are exclusive.** In every interleaving of calls in which no transport is
acquired while its entry lies behind a hole of the table: no two calls hold the same
transport; only a call that holds its transport is about to send on it; and a call that
reaches the acquisition while another one holds the transport returns `LS_EBUSY` without
having sent. -/
theorem transport_exclusive (backends : τ → TransportBackend) (n : ℕ) (actions : List (Action τ))
    (hm : Run.Meets (sendersStep backends) NoHole actions (Senders.start n)) :
    let s := Run.after (sendersStep backends) actions (Senders.start n)
    (∀ i j t, Holds s i t → Holds s j t → i = j) ∧
    (∀ (i : ℕ) (thread : Thread τ) (e : Effect) k, s.threads[i]? = some thread →
      thread.rest = .ask e k → e.sends = true → Holds s i thread.transport) ∧
    (∀ (i j : ℕ) (thread : Thread τ) k env, s.threads[i]? = some thread →
      thread.rest = .ask .acquire k → Holds s j thread.transport →
      NoHole (.advance i env) s → ∃ thread' : Thread τ,
        (sendersStep backends (.advance i env) s).threads[i]? = some thread' ∧
        thread'.rest = .done (some .ebusy) ∧ ∀ e ∈ thread'.asked, e.sends = false) := by
  intro s
  have hs : Exclusive s := Run.after_inv
    (fun a s ha hi => (sendersStep_stepped backends a s).exclusive ha hi) hm (exclusive_start n)
  refine ⟨hs.once, fun i thread e k hi hrest hsends => ?_,
    fun i j thread k env hi hrest hj hhole => ?_⟩
  · have hfollows := (hs.regular thread (List.mem_of_getElem? hi)).follows
    rw [hrest, follows_ask] at hfollows
    refine ⟨thread, hi, ?_, rfl⟩
    have hallows := hfollows.1
    generalize thread.phase = phase at hallows ⊢
    cases e <;> cases phase <;> simp_all [sendProtocol, Effect.sends]
  · have hregular := (hs.regular thread (List.mem_of_getElem? hi)).answered hrest false
    have hrefused : acquireTransport thread.transport s.busy = (s.busy, false) :=
      acquireTransport_of_mem (hs.listed j _ hj) (hhole thread k hi hrest)
    have hlt : i < s.threads.length := (List.getElem?_eq_some_iff.mp hi).1
    refine ⟨thread.answered .acquire k false, ?_, ?_, hregular.quiet (.inr rfl)⟩
    · simp only [sendersStep, hi, hrest, serve, hrefused]
      rw [List.getElem?_set_self hlt]
    · -- nothing is allowed to a call that was refused but to end
      have hfollows : Process.Follows sendProtocol Ends .refused (k false) := hregular.follows
      change k false = _
      cases hk : k false with
      | done result =>
          rw [hk] at hfollows
          rw [hfollows.2 rfl]
      | ask e k' =>
          rw [hk] at hfollows
          exact absurd hfollows.1 (by cases e <;> exact id)

/-- A transport with a `send` callback and nothing else. -/
def plainBackend : TransportBackend :=
  { hasAvailable := false, hasSend := true, hasSendFragment := false, hasSendFragmentV2 := false
    hasMaxPayload := false, hasRetry := false, capabilities := 0, retryLimit := 0 }

/-- Two calls on one transport: the theorem applies, and only the first one holds it. -/
theorem transport_exclusive_two :
    let actions : List (Action Bool) :=
      [.call true 1 [0], .call true 2 [0], .advance 0 (serving 0), .advance 1 (serving 0)]
    let s := Run.after (sendersStep fun _ => plainBackend) actions (Senders.start 2)
    (∀ i j t, Holds s i t → Holds s j t → i = j) ∧
      s.threads.map (fun thread => (thread.transport, thread.phase)) =
        [(true, .holding), (true, .refused)] := by
  intro actions s
  refine ⟨(transport_exclusive _ 2 actions ⟨trivial, trivial, ?_, ?_, trivial⟩).1, rfl⟩
  · rintro thread k h -
    obtain rfl := Option.some.inj h
    decide
  · rintro thread k h -
    obtain rfl := Option.some.inj h
    decide

/-- **A transport is held twice.** Of two transports in use the first one is released; a
second call on the other one then takes the free entry before it sees its own. -/
theorem transport_held_twice :
    let send (i : ℕ) : Action Bool := .advance i (serving 0)
    let actions : List (Action Bool) :=
      [.call false 1 [0], send 0, .call true 2 [0], send 1, send 0, send 0, send 0,
        .call true 3 [0], send 2]
    let s := Run.after (sendersStep fun _ => plainBackend) actions (Senders.start 2)
    s.threads.map (fun thread => (thread.transport, thread.phase)) =
        [(false, .released), (true, .holding), (true, .holding)] ∧
      ¬ ∀ i j t, Holds s i t → Holds s j t → i = j := by
  intro send actions s
  refine ⟨rfl, fun h => absurd (h 1 2 true ⟨_, rfl, rfl, rfl⟩ ⟨_, rfl, rfl, rfl⟩) (by decide)⟩

end Latch.Transport
