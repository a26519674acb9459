
/-
Replay protection: `ls_envelope_replay_accept` and `ls_envelope_visit_secure_replay` of
`src/envelope/lep.c`.

The window of a reader holds the 64 positions up to the highest sequence number. The
positions are integers: a 32-bit number stands for the integer nearest to the highest so far
(`position`), so that a run may wrap as often as it likes.

* `accept_step`: what one call of `lsEnvelopeReplayAccept` does to the window and the trace of
  positions and answers, and `replayTrace_guarded`: what follows for every run of calls;
* `visit_cases`: what a call of `lsEnvelopeVisitSecureReplay` can do: it touches the window
  only behind the authentication, and asks the visitor only behind the window;
* `replay_protection`: both along any run.
-/
import Latch.Envelope.Secure
import Latch.Lib.Run
import Latch.Lib.Window

namespace Latch

open Bytes Exec Tlv

/-! ### The window -/

/-- `ls_envelope_replay_t`. -/
structure Replay where
  highestSequence : UInt32
  seenSequences : UInt64
  initialized : Bool
  deriving DecidableEq

/-- `LS_ENVELOPE_REPLAY_WINDOW_SIZE`. -/
def lsEnvelopeReplayWindowSize : UInt32 := 64

/-- `ls_envelope_replay_reset`. -/
def lsEnvelopeReplayReset : Replay := ⟨0, 0, false⟩

/-- `ls_envelope_replay_accept`. -/
def lsEnvelopeReplayAccept (replay : Replay) (sequence : UInt32) : Bool × Replay :=
  if ¬ replay.initialized then (true, ⟨sequence, 1, true⟩)
  else
    let forward := sequence - replay.highestSequence
    if forward ≠ 0 ∧ forward < 0x80000000 then
      (true, { replay with
        seenSequences :=
          if lsEnvelopeReplayWindowSize ≤ forward then 1
          else replay.seenSequences <<< forward.toUInt64 ||| 1
        highestSequence := sequence })
    else
      let distance := replay.highestSequence - sequence
      if lsEnvelopeReplayWindowSize ≤ distance then (false, replay)
      else
        let bit : UInt64 := 1 <<< distance.toUInt64
        if replay.seenSequences &&& bit ≠ 0 then (false, replay)
        else (true, { replay with seenSequences := replay.seenSequences ||| bit })

/-! ### Positions -/

/-- The position of a sequence number, relative to the highest one so far. -/
def position (highest : Option ℤ) (sequence : UInt32) : ℤ :=
  match highest with
  | none => sequence.toNat
  | some h => Window.nearest h sequence

/-- The highest position, with one more. -/
def highestWith (highest : Option ℤ) (p : ℤ) : ℤ :=
  match highest with
  | none => p
  | some h => max h p

/-- The positions that a run of calls asks for, and the answers. -/
def replayTrace : Replay → Option ℤ → List UInt32 → List (ℤ × Bool)
  | _, _, [] => []
  | replay, highest, sequence :: rest =>
    let p := position highest sequence
    (p, (lsEnvelopeReplayAccept replay sequence).1) ::
      replayTrace (lsEnvelopeReplayAccept replay sequence).2 (some (highestWith highest p)) rest

/-- An answer is right, behind the given positions and answers: no position is accepted twice,
and only those are rejected that were accepted or lie at least 64 behind another one. -/
structure Guarded (past : List (ℤ × Bool)) (p : ℤ) (answer : Bool) : Prop where
  fresh : answer = true → (p, true) ∉ past
  stale : answer = false → (p, true) ∈ past ∨ ∃ q ∈ past, 64 ≤ q.1 - p

/-- The window and the highest position are those of the given positions and answers. -/
structure Tracks (replay : Replay) (h : ℤ) (past : List (ℤ × Bool)) : Prop where
  initialized : replay.initialized = true
  highest : h % 2 ^ 32 = replay.highestSequence.toNat
  holds : Window.Holds replay.seenSequences.toBitVec h fun p => (p, true) ∈ past
  asked : ∃ answer, (h, answer) ∈ past

/-- The same, where there may have been no call yet. -/
def TracksAll (replay : Replay) : Option ℤ → List (ℤ × Bool) → Prop
  | none, past => replay.initialized = false ∧ past = []
  | some h, past => Tracks replay h past

section

variable {replay : Replay} {h : ℤ} {past : List (ℤ × Bool)} {sequence : UInt32}

lemma mem_snoc_true {p q : ℤ} {past : List (ℤ × Bool)} :
    (p, true) ∈ past ++ [(q, true)] ↔ p = q ∨ (p, true) ∈ past := by
  rw [List.mem_append, List.mem_singleton, Prod.mk.injEq, or_comm]
  simp

/-- The shifts of the window stay below its size. -/
lemma toBitVec_shiftLeft_of_lt (x : UInt64) {d : UInt32} (hd : d.toNat < 64) :
    (x <<< d.toUInt64).toBitVec = x.toBitVec <<< d.toNat := by
  have hmod : (d.toUInt64.toBitVec % 64).toNat = d.toNat := by
    rw [BitVec.toNat_umod]
    exact Nat.mod_eq_of_lt hd
  rw [UInt64.toBitVec_shiftLeft, BitVec.shiftLeft_eq', hmod]

lemma windowSize_le_iff (d : UInt32) : lsEnvelopeReplayWindowSize ≤ d ↔ 64 ≤ d.toNat :=
  UInt32.le_iff_toNat_le

/-- The sequence number counts as newer than the highest one. -/
def Ahead (replay : Replay) (sequence : UInt32) : Prop :=
  sequence - replay.highestSequence ≠ 0 ∧ sequence - replay.highestSequence < 0x80000000

instance : Decidable (Ahead replay sequence) := inferInstanceAs (Decidable (_ ∧ _))

lemma ahead_iff : Ahead replay sequence ↔
    0 < (sequence - replay.highestSequence).toNat ∧
      (sequence - replay.highestSequence).toNat < 2 ^ 31 := by
  rw [Ahead, Nat.pos_iff_ne_zero, ne_eq, ← UInt32.toNat_inj, UInt32.lt_iff_toNat_lt]
  rfl

lemma accept_ahead (hi : replay.initialized = true) (hnew : Ahead replay sequence) :
    lsEnvelopeReplayAccept replay sequence = (true, { replay with
      seenSequences :=
        if lsEnvelopeReplayWindowSize ≤ sequence - replay.highestSequence then 1
        else replay.seenSequences <<< (sequence - replay.highestSequence).toUInt64 ||| 1
      highestSequence := sequence }) := by
  unfold lsEnvelopeReplayAccept
  rw [if_neg (by simp [hi])]
  exact if_pos hnew

/-- A sequence number that is not newer is looked up in the window. -/
lemma accept_behind (hi : replay.initialized = true) (hold : ¬ Ahead replay sequence) :
    lsEnvelopeReplayAccept replay sequence =
      if lsEnvelopeReplayWindowSize ≤ replay.highestSequence - sequence ∨
          replay.seenSequences &&& 1 <<< (replay.highestSequence - sequence).toUInt64 ≠ 0 then
        (false, replay)
      else (true, { replay with
        seenSequences := replay.seenSequences |||
          1 <<< (replay.highestSequence - sequence).toUInt64 }) := by
  unfold lsEnvelopeReplayAccept
  rw [if_neg (by simp [hi])]
  refine (if_neg hold).trans ?_
  by_cases hfar : lsEnvelopeReplayWindowSize ≤ replay.highestSequence - sequence
  · exact (if_pos hfar).trans (if_pos (.inl hfar)).symm
  · refine (if_neg hfar).trans (if_congr ?_ rfl rfl)
    simp [hfar]

/-- A newer sequence number. -/
lemma Tracks.newer (ht : Tracks replay h past) (hnew : Ahead replay sequence) :
    let r := lsEnvelopeReplayAccept replay sequence
    let p := Window.nearest h sequence
    Guarded past p r.1 ∧ Tracks r.2 p (past ++ [(p, r.1)]) ∧ h ≤ p := by
  obtain ⟨hpos, hlt⟩ := ahead_iff.mp hnew
  have hp := Window.nearest_of_forward ht.highest hlt
  have hfresh : (Window.nearest h sequence, true) ∉ past := fun hm => by
    have := ht.holds.le _ hm
    omega
  dsimp only
  rw [accept_ahead ht.initialized hnew]
  refine ⟨⟨fun _ => hfresh, nofun⟩, ⟨ht.initialized, Window.nearest_emod h sequence,
    Window.Holds.congr ?_ fun q => mem_snoc_true, true, by simp⟩, by omega⟩
  dsimp only
  rw [hp]
  split
  · rename_i hle
    exact ht.holds.restart (by decide) ((windowSize_le_iff _).mp hle)
  · rename_i hle
    rw [windowSize_le_iff, not_le] at hle
    rw [UInt64.toBitVec_or, toBitVec_shiftLeft_of_lt _ hle]
    exact ht.holds.slide hpos

/-- What the window says of a sequence number that is behind. -/
lemma Tracks.rejects_iff (ht : Tracks replay h past) (sequence : UInt32) :
    (lsEnvelopeReplayWindowSize ≤ replay.highestSequence - sequence ∨
      replay.seenSequences &&& 1 <<< (replay.highestSequence - sequence).toUInt64 ≠ 0) ↔
      (64 ≤ (replay.highestSequence - sequence).toNat ∨
        (h - (replay.highestSequence - sequence).toNat, true) ∈ past) := by
  rw [windowSize_le_iff]
  refine or_congr_right' fun hnear => ?_
  rw [not_le] at hnear
  have hbit := Window.and_mask_eq_zero_iff replay.seenSequences.toBitVec hnear
  rw [ne_eq, ← UInt64.toBitVec_inj, UInt64.toBitVec_and, toBitVec_shiftLeft_of_lt 1 hnear]
  refine (not_congr hbit).trans ?_
  rw [Bool.not_eq_false]
  exact ht.holds.bit _ hnear

/-- A sequence number that is behind. -/
lemma Tracks.behind (ht : Tracks replay h past) (hold : ¬ Ahead replay sequence) :
    let r := lsEnvelopeReplayAccept replay sequence
    let p := Window.nearest h sequence
    Guarded past p r.1 ∧ Tracks r.2 h (past ++ [(p, r.1)]) ∧ p ≤ h := by
  have hp : Window.nearest h sequence = h - (replay.highestSequence - sequence).toNat := by
    refine Window.nearest_of_backward ht.highest ?_
    rw [ahead_iff] at hold
    omega
  obtain ⟨answer, hasked⟩ := ht.asked
  dsimp only
  rw [accept_behind ht.initialized hold, hp]
  split
  · rename_i hreject
    refine ⟨⟨nofun, fun _ => ((ht.rejects_iff _).mp hreject).symm.imp_right fun hfar =>
      ⟨_, hasked, by dsimp only; omega⟩⟩, ⟨ht.initialized, ht.highest,
      ht.holds.congr fun q => by simp, answer, by simp [hasked]⟩, by omega⟩
  · rename_i haccept
    rw [ht.rejects_iff, not_or, not_le] at haccept
    refine ⟨⟨fun _ => haccept.2, nofun⟩, ⟨ht.initialized, ht.highest,
      Window.Holds.congr ?_ fun q => mem_snoc_true, answer, by simp [hasked]⟩, by omega⟩
    dsimp only
    rw [UInt64.toBitVec_or, toBitVec_shiftLeft_of_lt 1 haccept.1]
    exact ht.holds.mark _

/-- The first sequence number. -/
lemma tracks_first (hi : replay.initialized = false) (sequence : UInt32) :
    let r := lsEnvelopeReplayAccept replay sequence
    let p := position none sequence
    Guarded [] p r.1 ∧ Tracks r.2 p ([] ++ [(p, r.1)]) := by
  have hr : lsEnvelopeReplayAccept replay sequence = (true, ⟨sequence, 1, true⟩) :=
    if_pos (by simp [hi])
  have hmod : (sequence.toNat : ℤ) % 2 ^ 32 = sequence.toNat := by
    have := sequence.toNat_lt
    omega
  dsimp only
  rw [hr]
  exact ⟨⟨fun _ => List.not_mem_nil, nofun⟩, rfl, hmod,
    (Window.Holds.single (by decide) _).congr fun q => by simp, true, by simp⟩

/-- **One call.** -/
lemma accept_step {highest : Option ℤ} (ht : TracksAll replay highest past) (sequence : UInt32) :
    let r := lsEnvelopeReplayAccept replay sequence
    let p := position highest sequence
    Guarded past p r.1 ∧ Tracks r.2 (highestWith highest p) (past ++ [(p, r.1)]) := by
  intro r p
  cases highest with
  | none =>
      obtain ⟨hi, rfl⟩ := ht
      exact tracks_first hi sequence
  | some h =>
      by_cases hnew : Ahead replay sequence
      · obtain ⟨hguard, hnext, hle⟩ := ht.newer hnew
        rw [show highestWith (some h) p = p from max_eq_right hle]
        exact ⟨hguard, hnext⟩
      · obtain ⟨hguard, hnext, hle⟩ := ht.behind hnew
        rw [show highestWith (some h) p = h from max_eq_left hle]
        exact ⟨hguard, hnext⟩

/-- **Every run of calls.** -/
lemma replayTrace_guarded {highest : Option ℤ} (ht : TracksAll replay highest past)
    (sequences : List UInt32) :
    ∀ pre p answer post, replayTrace replay highest sequences = pre ++ (p, answer) :: post →
      Guarded (past ++ pre) p answer := by
  induction sequences generalizing replay highest past with
  | nil =>
      intro pre p answer post h
      cases pre <;> cases h
  | cons sequence rest ih =>
      obtain ⟨hguard, hnext⟩ := accept_step ht sequence
      intro pre p answer post h
      rw [replayTrace] at h
      cases pre with
      | nil =>
          obtain ⟨rfl, rfl⟩ := Prod.mk.injEq .. ▸ (List.cons_eq_cons.mp h).1
          rwa [List.append_nil]
      | cons q pre =>
          obtain ⟨rfl, htail⟩ := List.cons_eq_cons.mp h
          have htracks : TracksAll _ (some _) _ := hnext
          have := ih htracks pre p answer post htail
          rwa [List.append_assoc] at this

end

/-! ### The reader -/

/-- A reader with a replay window; `asked` are the sequence numbers it has asked the window
for, in their order. -/
structure ReplaySession (σ : Type) where
  replay : Replay
  asked : List UInt32
  reading : Reading σ

section

variable {σ α : Type}

/-- A computation on the context and the workspace. -/
def onReading (x : EStateM Errno (Reading σ) α) : EStateM Errno (ReplaySession σ) α :=
  zoom ReplaySession.reading (fun s reading => { s with reading := reading }) x

/-- Asks the window for a sequence number. -/
def acceptSequence (sequence : UInt32) : EStateM Errno (ReplaySession σ) Unit := do
  let s ← get
  let answer := lsEnvelopeReplayAccept s.replay sequence
  set { s with replay := answer.2, asked := s.asked ++ [sequence] }
  if ¬ answer.1 then throw .eauth

/-- Wipes the workspace. -/
def ReplaySession.wiped (s : ReplaySession σ) (length : ℕ) : ReplaySession σ :=
  { s with reading :=
    { s.reading with workspace := Medium.fill s.reading.workspace 0 length 0 } }

/-- Wipes the workspace behind `x`, whatever its result. -/
def wipingAfter (length : ℕ) (x : EStateM Errno (ReplaySession σ) α) : EStateM Errno (ReplaySession σ) α :=
  fun s =>
    match x s with
    | .ok a s' => .ok a (s'.wiped length)
    | .error e s' => .error e (s'.wiped length)

/-- What `ls_envelope_visit_secure_replay` does with a decrypted payload. -/
def visitOpened (visitor : Visitor σ) (sequence : UInt32) (payload : List UInt8) :
    EStateM Errno (ReplaySession σ) Unit :=
  match validatePayload payload with
  | .error e => throw e
  | .ok () => do
    acceptSequence sequence
    onReading (onContext (visitPayload visitor payload))

/-- `ls_envelope_visit_secure_replay`, with a window. -/
def lsEnvelopeVisitSecureReplay (c : Crypto) (rt : Runtime) (workspaceSize : ℕ)
    (data : List UInt8) (visitor : Visitor σ) : EStateM Errno (ReplaySession σ) Unit :=
  match lsEnvelopeValidate data with
  | .error e => throw e
  | .ok info =>
    if hasFlag info.flags lsEnvelopeEncrypted then do
      let length ← onReading (onWorkspace (lsEnvelopeDecryptPayload c rt data true workspaceSize))
      let s ← get
      wipingAfter length
        (visitOpened visitor info.sequence (Medium.read s.reading.workspace 0 length))
    else if hasFlag info.flags lsEnvelopeAuthenticated then do
      onReading (onWorkspace (lsEnvelopeVerifyAuth c rt data))
      acceptSequence info.sequence
      onReading (onContext (visitPayload visitor (plainPayload data)))
    else if lsSecurityEnabled rt ∧ rt.securityPolicy.rejectPlaintext then throw .eauth
    else onReading (onContext (visitPayload visitor (plainPayload data)))

end

/-! ### What a call does -/

/-- The MAC at the end of the envelope is that of the bytes before it. -/
def HmacVerifies (c : Crypto) (rt : Runtime) (data : List UInt8) : Prop :=
  c.hmacSha256 rt.securityKey (data.take (data.length - lsHmacSha256Size)) =
    data.drop (data.length - lsHmacSha256Size)

/-- The payload decrypts to a list of fields. -/
def AeadOpens (c : Crypto) (rt : Runtime) (data : List UInt8) : Prop :=
  ∃ ts, openPayload c rt data (envelopeInfo data) (get32 data (lsLepHeaderSize + 24)) =
    .ok (encode ts)

/-- A well-formed envelope that was authenticated, in one of the two ways. -/
def Authentic (c : Crypto) (rt : Runtime) (data : List UInt8) : Prop :=
  WellFormed data ∧ hasFlag (get8 data 7) lsEnvelopeAuthenticated = true ∧
    if hasFlag (get8 data 7) lsEnvelopeEncrypted then AeadOpens c rt data
    else HmacVerifies c rt data

section

variable {σ : Type} {c : Crypto} {rt : Runtime} {workspaceSize : ℕ} {data : List UInt8}
  {s s' : ReplaySession σ} {sequence : UInt32}

variable {s'' : ReplaySession σ} {m m' : ℕ → UInt8} {length : ℕ}

/-- The window was not asked. -/
structure Unasked (s s' : ReplaySession σ) : Prop where
  replay : s'.replay = s.replay
  asked : s'.asked = s.asked

lemma Unasked.refl (s : ReplaySession σ) : Unasked s s := ⟨rfl, rfl⟩

/-- The window was asked for a sequence number. -/
structure Asked (sequence : UInt32) (s s' : ReplaySession σ) : Prop where
  replay : s'.replay = (lsEnvelopeReplayAccept s.replay sequence).2
  asked : s'.asked = s.asked ++ [sequence]

lemma onReading_unasked {α : Type} (x : EStateM Errno (Reading σ) α) (s : ReplaySession σ) :
    Sat (onReading x) s (fun _ s' => Unasked s s') (fun _ s' => Unasked s s') := by
  rw [onReading, sat_zoom]
  exact (sat_run x s.reading).mono (fun _ _ _ => ⟨rfl, rfl⟩) (fun _ _ _ => ⟨rfl, rfl⟩)

lemma Unasked.asked_of (h : Unasked s s') {sequence : UInt32}
    (h' : Asked sequence s' s'') : Asked sequence s s'' :=
  ⟨h.replay ▸ h'.replay, h.asked ▸ h'.asked⟩

lemma Asked.unasked (h : Asked sequence s s') (h' : Unasked s' s'') :
    Asked sequence s s'' :=
  ⟨h'.replay.trans h.replay, h'.asked.trans h.asked⟩

/-- The window and the log behind a question. -/
def ReplaySession.ask (s : ReplaySession σ) (sequence : UInt32) : ReplaySession σ :=
  { s with replay := (lsEnvelopeReplayAccept s.replay sequence).2, asked := s.asked ++ [sequence] }

lemma acceptSequence_of_true (h : (lsEnvelopeReplayAccept s.replay sequence).1 = true) :
    acceptSequence sequence s = .ok () (s.ask sequence) := by
  change (if ¬ (lsEnvelopeReplayAccept s.replay sequence).1 then throw Errno.eauth
    else pure () : EStateM Errno (ReplaySession σ) Unit) (s.ask sequence) = _
  rw [if_neg (by simp [h])]
  rfl

lemma acceptSequence_of_false (h : (lsEnvelopeReplayAccept s.replay sequence).1 = false) :
    acceptSequence sequence s = .error .eauth (s.ask sequence) := by
  change (if ¬ (lsEnvelopeReplayAccept s.replay sequence).1 then throw Errno.eauth
    else pure () : EStateM Errno (ReplaySession σ) Unit) (s.ask sequence) = _
  rw [if_pos (by simp [h])]
  rfl

/-! ### Authentication -/

/-- The provider decrypts a text to one of the same length. -/
def LengthPreserving (c : Crypto) : Prop :=
  ∀ {key nonce aad ciphertext tag text : List UInt8},
    c.decrypt key nonce aad ciphertext tag = .ok text → text.length = ciphertext.length

/-- What is in the workspace behind a decryption. -/
lemma read_of_decrypted (hdec : LengthPreserving c) (hw : WellFormed data)
    (henc : hasFlag (get8 data 7) lsEnvelopeEncrypted = true)
    (h : lsEnvelopeDecryptPayload c rt data true workspaceSize m = .ok length m') :
    openPayload c rt data (envelopeInfo data) (get32 data (lsLepHeaderSize + 24)) =
      .ok (Medium.read m' 0 length) := by
  unfold lsEnvelopeDecryptPayload at h
  rw [(lsEnvelopeValidate_ok_iff data _).mpr ⟨hw, rfl⟩] at h
  dsimp only at h
  split at h
  · cases h
  split at h
  · cases h
  split at h
  · cases h
  split at h
  · cases h
  cases hopen : openPayload c rt data (envelopeInfo data) (get32 data (lsLepHeaderSize + 24)) with
  | error e =>
      rw [hopen] at h
      cases h
  | ok text =>
      rw [hopen] at h
      cases h
      have hlen : text.length = (envelopeInfo data).payloadLength.toNat := by
        unfold openPayload at hopen
        split at hopen
        · cases hopen
        · have hsize := hw.length_eq
          rw [metadataSize, henc, if_pos rfl] at hsize
          have hpayload : (envelopeInfo data).payloadLength = get32 data 16 := rfl
          rw [hdec hopen, List.length_take, List.length_drop, min_eq_left]
          rw [hpayload]
          omega
      rw [← hlen]
      exact congrArg Except.ok (Medium.read_write_same m 0 text).symm

/-- The three flags of a valid envelope. -/
lemma WellFormed.flags_eq (hw : WellFormed data) :
    hasFlag (get8 data 7) lsEnvelopeAead = hasFlag (get8 data 7) lsEnvelopeEncrypted ∧
      (hasFlag (get8 data 7) lsEnvelopeEncrypted = true →
        hasFlag (get8 data 7) lsEnvelopeAuthenticated = true) := by
  have hflags := hw.flags
  unfold flagsValid at hflags
  split at hflags
  · cases hflags
  split at hflags
  · cases hflags
  · rename_i hsame
    rw [not_not] at hsame
    rw [← hsame] at hflags ⊢
    exact ⟨rfl, fun henc => by simpa [henc] using hflags⟩

/-- The MAC is checked where the envelope is not encrypted. -/
lemma hmacVerifies_of_verified (hw : WellFormed data)
    (henc : hasFlag (get8 data 7) lsEnvelopeEncrypted = false)
    (h : lsEnvelopeVerifyAuth c rt data m = .ok () m') : HmacVerifies c rt data := by
  have haead : hasFlag (get8 data 7) lsEnvelopeAead = false := hw.flags_eq.1.trans henc
  unfold lsEnvelopeVerifyAuth at h
  rw [(lsEnvelopeValidate_ok_iff data _).mpr ⟨hw, rfl⟩] at h
  dsimp only at h
  split at h
  · cases h
  rw [show (envelopeInfo data).flags = get8 data 7 from rfl, haead] at h
  simp only [Bool.false_eq_true, if_false] at h
  split at h
  · cases h
  split at h
  · assumption
  · cases h

lemma Unasked.trans (h : Unasked s s') (h' : Unasked s' s'') : Unasked s s'' :=
  ⟨h'.replay.trans h.replay, h'.asked.trans h.asked⟩

lemma wipingAfter_sat {x : EStateM Errno (ReplaySession σ) Unit} {P : ReplaySession σ → Prop} (h : Sat x s (fun _ s' => P s') (fun _ s' => P s'))
    (hP : ∀ s₁ s₂, P s₁ → Unasked s₁ s₂ → P s₂) :
    Sat (wipingAfter length x) s (fun _ s' => P s') (fun _ s' => P s') := by
  cases hx : x s with
  | ok _ s' =>
      have hs' := sat_of_ok h hx
      have hrun : wipingAfter length x s = .ok () (s'.wiped length) := by rw [wipingAfter, hx]
      exact .of_eq (hrun.trans rfl) ((sat_pure ()).mpr (hP s' (s'.wiped length) hs' ⟨rfl, rfl⟩))
  | error e s' =>
      have hs' := sat_of_error h hx
      have hrun : wipingAfter length x s = .error e (s'.wiped length) := by rw [wipingAfter, hx]
      exact sat_of_eq_error hrun (hP s' (s'.wiped length) hs' ⟨rfl, rfl⟩)

/-- **What a call can do.** The window is asked only for an envelope that is authentic, and the
result depends on the visitor only for a plain envelope or one that the window accepts. -/
inductive Handled (c : Crypto) (rt : Runtime) (data : List UInt8) (s : ReplaySession σ)
    (visit : Visitor σ → EStateM Errno (ReplaySession σ) Unit) : Prop where
  | plain (h : hasFlag (get8 data 7) lsEnvelopeAuthenticated = false)
      (hs : ∀ visitor, Sat (visit visitor) s (fun _ s' => Unasked s s') (fun _ s' => Unasked s s'))
  | refused (hv : ∀ visitor visitor', visit visitor s = visit visitor' s)
      (hs : ∀ visitor, Sat (visit visitor) s (fun _ s' => Unasked s s') (fun _ s' => Unasked s s'))
  | rejected (ha : Authentic c rt data)
      (hv : ∀ visitor visitor', visit visitor s = visit visitor' s)
      (hs : ∀ visitor, Sat (visit visitor) s (fun _ s' => Asked (get32 data 8) s s')
        (fun _ s' => Asked (get32 data 8) s s'))
  | accepted (ha : Authentic c rt data)
      (hacc : (lsEnvelopeReplayAccept s.replay (get32 data 8)).1 = true)
      (hs : ∀ visitor, Sat (visit visitor) s (fun _ s' => Asked (get32 data 8) s s')
        (fun _ s' => Asked (get32 data 8) s s'))

section Handling

variable {visit visit' : Visitor σ → EStateM Errno (ReplaySession σ) Unit} {s₁ : ReplaySession σ}

/-- A result that is an error whatever the visitor. -/
lemma Handled.of_error {e : Errno} (h : ∀ visitor, visit visitor s = .error e s')
    (hs : Unasked s s') : Handled c rt data s visit :=
  .refused (fun v v' => (h v).trans (h v').symm) (fun v => sat_of_eq_error (h v) hs)

/-- A call that goes on from another state, before the window is asked. -/
lemma Handled.of_run (hrun : ∀ visitor, visit visitor s = visit' visitor s₁) (hs : Unasked s s₁)
    (h : Handled c rt data s₁ visit') : Handled c rt data s visit := by
  have hsame (hv : ∀ v v', visit' v s₁ = visit' v' s₁) : ∀ v v', visit v s = visit v' s :=
    fun v v' => (hrun v).trans ((hv v v').trans (hrun v').symm)
  cases h with
  | plain h hs₁ =>
      exact .plain h fun v => .of_eq (hrun v)
        ((hs₁ v).mono (fun _ _ h => hs.trans h) (fun _ _ h => hs.trans h))
  | refused hv hs₁ =>
      exact .refused (hsame hv) fun v => .of_eq (hrun v)
        ((hs₁ v).mono (fun _ _ h => hs.trans h) (fun _ _ h => hs.trans h))
  | rejected ha hv hs₁ =>
      exact .rejected ha (hsame hv) fun v => .of_eq (hrun v)
        ((hs₁ v).mono (fun _ _ h => hs.asked_of h) (fun _ _ h => hs.asked_of h))
  | accepted ha hacc hs₁ =>
      rw [hs.replay] at hacc
      exact .accepted ha hacc fun v => .of_eq (hrun v)
        ((hs₁ v).mono (fun _ _ h => hs.asked_of h) (fun _ _ h => hs.asked_of h))

/-- Wiping the workspace asks nobody. -/
lemma Handled.wiping (length : ℕ) (h : Handled c rt data s visit) :
    Handled c rt data s fun visitor => wipingAfter length (visit visitor) := by
  have hsame (hv : ∀ v v', visit v s = visit v' s) :
      ∀ v v', wipingAfter length (visit v) s = wipingAfter length (visit v') s := fun v v' => by
    rw [wipingAfter, wipingAfter, hv v v']
  cases h with
  | plain h hs => exact .plain h fun v => wipingAfter_sat (hs v) fun _ _ h h' => h.trans h'
  | refused hv hs => exact .refused (hsame hv) fun v => wipingAfter_sat (hs v) fun _ _ h h' => h.trans h'
  | rejected ha hv hs =>
      exact .rejected ha (hsame hv) fun v => wipingAfter_sat (hs v) fun _ _ h h' => h.unasked h'
  | accepted ha hacc hs =>
      exact .accepted ha hacc fun v => wipingAfter_sat (hs v) fun _ _ h h' => h.unasked h'

/-- The window stands before the visitor. -/
lemma handled_of_authentic (ha : Authentic c rt data) (payload : List UInt8) :
    Handled c rt data s fun visitor => (do
      acceptSequence (get32 data 8)
      onReading (onContext (visitPayload visitor payload))) := by
  have hask : Asked (get32 data 8) s (s.ask (get32 data 8)) := ⟨rfl, rfl⟩
  cases hacc : (lsEnvelopeReplayAccept s.replay (get32 data 8)).1 with
  | false =>
      have hrun (visitor : Visitor σ) := bind_of_error
        (f := fun _ => onReading (onContext (visitPayload visitor payload)))
        (acceptSequence_of_false hacc)
      exact .rejected ha (fun v v' => (hrun v).trans (hrun v').symm)
        fun v => sat_of_eq_error (hrun v) hask
  | true =>
      refine .accepted ha hacc fun v => .of_eq (bind_of_ok (acceptSequence_of_true hacc)) ?_
      exact (onReading_unasked _ _).mono (fun _ _ h => hask.unasked h) (fun _ _ h => hask.unasked h)

end Handling

/-- An envelope with a MAC. -/
lemma handled_of_mac (hw : WellFormed data)
    (henc : hasFlag (get8 data 7) lsEnvelopeEncrypted = false)
    (hauth : hasFlag (get8 data 7) lsEnvelopeAuthenticated = true) :
    Handled c rt data s fun visitor => (do
      onReading (onWorkspace (lsEnvelopeVerifyAuth c rt data))
      acceptSequence (get32 data 8)
      onReading (onContext (visitPayload visitor (plainPayload data)))) := by
  have hkeep := onReading_unasked (onWorkspace (lsEnvelopeVerifyAuth c rt data)) s
  cases hverify : onReading (onWorkspace (lsEnvelopeVerifyAuth c rt data)) s with
  | error e s₁ =>
      have hs₁ := sat_of_error hkeep hverify
      exact .of_error (fun visitor => bind_of_error hverify) hs₁
  | ok _ s₁ =>
      have hs₁ := sat_of_ok hkeep hverify
      obtain ⟨reading, hreading, -⟩ := zoom_eq_ok hverify
      obtain ⟨m, hm, -⟩ := zoom_eq_ok hreading
      refine .of_run (fun visitor => bind_of_ok hverify) hs₁ (handled_of_authentic ⟨hw, hauth, ?_⟩ _)
      rw [henc]
      exact hmacVerifies_of_verified hw henc hm

/-- An encrypted envelope. -/
lemma handled_of_encrypted (hdec : LengthPreserving c) (hw : WellFormed data)
    (henc : hasFlag (get8 data 7) lsEnvelopeEncrypted = true) :
    Handled c rt data s fun visitor => (do
      let length ← onReading (onWorkspace (lsEnvelopeDecryptPayload c rt data true workspaceSize))
      let s ← get
      wipingAfter length
        (visitOpened visitor (get32 data 8) (Medium.read s.reading.workspace 0 length))) := by
  have hkeep := onReading_unasked
    (onWorkspace (lsEnvelopeDecryptPayload c rt data true workspaceSize)) s
  cases hopen : onReading (onWorkspace
      (lsEnvelopeDecryptPayload c rt data true workspaceSize)) s with
  | error e s₁ =>
      have hs₁ := sat_of_error hkeep hopen
      exact .of_error (fun visitor => bind_of_error hopen) hs₁
  | ok length s₁ =>
      have hs₁ := sat_of_ok hkeep hopen
      obtain ⟨reading, hreading, hs₁eq⟩ := zoom_eq_ok hopen
      obtain ⟨m, hm, rfl⟩ := zoom_eq_ok hreading
      have htext := read_of_decrypted hdec hw henc hm
      rw [← show s₁.reading.workspace = m by rw [hs₁eq]] at htext
      -- behind the decryption the call goes on with the text in the workspace
      suffices hopened : Handled c rt data s₁ fun visitor =>
          visitOpened visitor (get32 data 8) (Medium.read s₁.reading.workspace 0 length) by
        refine .of_run (fun visitor => ?_) hs₁ (hopened.wiping length)
        exact (bind_of_ok hopen).trans rfl
      cases hvalid : validatePayload (Medium.read s₁.reading.workspace 0 length) with
      | error e =>
          refine .of_error (e := e) (fun visitor => ?_) (Unasked.refl s₁)
          rw [visitOpened, hvalid]
          rfl
      | ok _ =>
          obtain ⟨ts, hts⟩ := (validatePayload_ok_iff _).mp hvalid
          have ha : Authentic c rt data := by
            refine ⟨hw, hw.flags_eq.2 henc, ?_⟩
            rw [henc]
            exact ⟨ts, hts ▸ htext⟩
          refine .of_run (fun visitor => ?_) ⟨rfl, rfl⟩
            (handled_of_authentic ha (Medium.read s₁.reading.workspace 0 length))
          rw [visitOpened, hvalid]

/-- **What a call can do.** -/
lemma visit_cases (hdec : LengthPreserving c) (data : List UInt8) (s : ReplaySession σ) :
    Handled c rt data s (lsEnvelopeVisitSecureReplay c rt workspaceSize data) := by
  cases hvalid : lsEnvelopeValidate data with
  | error e =>
      refine .of_error (e := e) (fun visitor => ?_) (Unasked.refl s)
      rw [lsEnvelopeVisitSecureReplay, hvalid]
      rfl
  | ok info =>
      obtain ⟨hw, rfl⟩ := (lsEnvelopeValidate_ok_iff data info).mp hvalid
      unfold lsEnvelopeVisitSecureReplay
      rw [hvalid]
      dsimp only
      rw [show (envelopeInfo data).flags = get8 data 7 from rfl,
        show (envelopeInfo data).sequence = get32 data 8 from rfl]
      by_cases henc : hasFlag (get8 data 7) lsEnvelopeEncrypted = true
      · simp only [if_pos henc]
        exact handled_of_encrypted hdec hw henc
      simp only [if_neg henc]
      by_cases hauth : hasFlag (get8 data 7) lsEnvelopeAuthenticated = true
      · simp only [if_pos hauth]
        exact handled_of_mac hw (Bool.eq_false_iff.mpr henc) hauth
      simp only [if_neg hauth]
      split
      · exact .of_error (fun visitor => rfl) (Unasked.refl s)
      · exact .plain (Bool.eq_false_iff.mpr hauth) fun visitor => onReading_unasked _ s

end

/-! ### Runs -/

/-- A call of `ls_envelope_visit_secure_replay`, with the runtime it reads. -/
structure Call (σ : Type) where
  rt : Runtime
  workspaceSize : ℕ
  data : List UInt8
  visitor : Visitor σ

/-- A call in a run: its result is ignored. -/
def Call.step {σ : Type} (c : Crypto) (call : Call σ) (s : ReplaySession σ) : ReplaySession σ :=
  leaves (lsEnvelopeVisitSecureReplay c call.rt call.workspaceSize call.data call.visitor) s

/-- The window behind a list of sequence numbers. -/
def acceptAll (sequences : List UInt32) : Replay :=
  sequences.foldl (fun replay sequence => (lsEnvelopeReplayAccept replay sequence).2)
    lsEnvelopeReplayReset

lemma acceptAll_snoc (sequences : List UInt32) (sequence : UInt32) :
    acceptAll (sequences ++ [sequence]) =
      (lsEnvelopeReplayAccept (acceptAll sequences) sequence).2 := by
  simp [acceptAll]

/-- One more sequence number extends the trace by its position and answer. -/
lemma replayTrace_snoc (replay : Replay) (highest : Option ℤ) (sequences : List UInt32)
    (sequence : UInt32) :
    ∃ p, replayTrace replay highest (sequences ++ [sequence]) =
      replayTrace replay highest sequences ++ [(p, (lsEnvelopeReplayAccept (sequences.foldl
        (fun replay sequence => (lsEnvelopeReplayAccept replay sequence).2) replay) sequence).1)] := by
  induction sequences generalizing replay highest with
  | nil => exact ⟨_, rfl⟩
  | cons x sequences ih =>
      obtain ⟨p, hp⟩ := ih (lsEnvelopeReplayAccept replay x).2
        (some (highestWith highest (position highest x)))
      exact ⟨p, congrArg (_ :: ·) hp⟩

/-- The window is that of the sequence numbers it was asked for: one call, and then a run. -/
lemma step_replay_eq_acceptAll {σ : Type} {c : Crypto} (hdec : LengthPreserving c)
    (call : Call σ) {s : ReplaySession σ} (hs : s.replay = acceptAll s.asked) :
    (call.step c s).replay = acceptAll (call.step c s).asked := by
  have hun {s' : ReplaySession σ} (h : Unasked s s') : s'.replay = acceptAll s'.asked := by
    rw [h.replay, h.asked, hs]
  have hask {s' : ReplaySession σ} {sequence : UInt32} (h : Asked sequence s s') :
      s'.replay = acceptAll s'.asked := by
    rw [h.replay, h.asked, acceptAll_snoc, hs]
  have hcases : Handled c call.rt call.data s
      (lsEnvelopeVisitSecureReplay c call.rt call.workspaceSize call.data) :=
    visit_cases hdec call.data s
  cases hcases with
  | plain _ h => exact hun (h call.visitor).leaves
  | refused _ h => exact hun (h call.visitor).leaves
  | rejected _ _ h => exact hask (h call.visitor).leaves
  | accepted _ _ h => exact hask (h call.visitor).leaves

lemma replay_eq_acceptAll {σ : Type} {c : Crypto} (hdec : LengthPreserving c)
    (calls : List (Call σ)) {s : ReplaySession σ} (hs : s.replay = acceptAll s.asked) :
    (Run.after (Call.step c) calls s).replay =
      acceptAll (Run.after (Call.step c) calls s).asked := by
  induction calls generalizing s with
  | nil => exact hs
  | cons call calls ih => exact ih (step_replay_eq_acceptAll hdec call hs)

/-- **Replay protection.** Along any run of calls of `lsEnvelopeReplayAccept` no position is
accepted twice, and only positions are rejected that were accepted before or lie at least 64
behind another one. Along any run of calls of `lsEnvelopeVisitSecureReplay` the window changes
only for an envelope that was authenticated, and the result of a call with an authenticated
envelope depends on the visitor only if the window accepts the position of the envelope in
this call. -/
theorem replay_protection {c : Crypto} (hdec : LengthPreserving c) :
    (∀ sequences pre p answer post,
      replayTrace lsEnvelopeReplayReset none sequences = pre ++ (p, answer) :: post →
        Guarded pre p answer) ∧
    ∀ (σ : Type) (reading : Reading σ) (pre : List (Call σ)) (call : Call σ),
      let s := Run.after (Call.step c) pre ⟨lsEnvelopeReplayReset, [], reading⟩
      let s' := call.step c s
      (s'.replay ≠ s.replay → Authentic c call.rt call.data) ∧
      (hasFlag (get8 call.data 7) lsEnvelopeAuthenticated = true →
        (∃ visitor, lsEnvelopeVisitSecureReplay c call.rt call.workspaceSize call.data visitor s ≠
          lsEnvelopeVisitSecureReplay c call.rt call.workspaceSize call.data call.visitor s) →
        s.replay = acceptAll s.asked ∧ s'.asked = s.asked ++ [get32 call.data 8] ∧
        ∃ p, replayTrace lsEnvelopeReplayReset none s'.asked =
          replayTrace lsEnvelopeReplayReset none s.asked ++ [(p, true)]) := by
  constructor
  · intro sequences pre p answer post h
    have hreset : TracksAll lsEnvelopeReplayReset none [] := ⟨rfl, rfl⟩
    exact replayTrace_guarded hreset sequences pre p answer post h
  intro σ reading pre call s s'
  have hs : s.replay = acceptAll s.asked := replay_eq_acceptAll hdec pre rfl
  have hblind (hv : ∀ v v', lsEnvelopeVisitSecureReplay c call.rt call.workspaceSize call.data v s =
      lsEnvelopeVisitSecureReplay c call.rt call.workspaceSize call.data v' s)
      (h : ∃ v, lsEnvelopeVisitSecureReplay c call.rt call.workspaceSize call.data v s ≠
        lsEnvelopeVisitSecureReplay c call.rt call.workspaceSize call.data call.visitor s) : False :=
    let ⟨v, hne⟩ := h
    hne (hv v call.visitor)
  cases visit_cases hdec call.data s with
  | plain h hun =>
      have hs' : Unasked s s' := (hun call.visitor).leaves
      exact ⟨fun hne => absurd hs'.replay hne, fun hauth => by rw [h] at hauth; cases hauth⟩
  | refused hv hun =>
      have hs' : Unasked s s' := (hun call.visitor).leaves
      exact ⟨fun hne => absurd hs'.replay hne, fun _ h => (hblind hv h).elim⟩
  | rejected ha hv _ => exact ⟨fun _ => ha, fun _ h => (hblind hv h).elim⟩
  | accepted ha hacc hask =>
      have hs' : Asked (get32 call.data 8) s s' := (hask call.visitor).leaves
      refine ⟨fun _ => ha, fun _ _ => ⟨hs, hs'.asked, ?_⟩⟩
      obtain ⟨p, hp⟩ := replayTrace_snoc lsEnvelopeReplayReset none s.asked (get32 call.data 8)
      refine ⟨p, ?_⟩
      rw [hs'.asked, hp]
      rw [hs] at hacc
      exact congrArg (fun answer => _ ++ [(p, answer)]) hacc

/-- The test vector with sequence number 5 and a MAC of zeros. -/
def macVector : List UInt8 :=
  [0x4c, 0x53, 0x54, 0x50, 0x01, 0x02, 0x00, 0x01, 0x05, 0x00, 0x00, 0x00, 0x09, 0x00, 0x00,
    0x00, 0x06, 0x00, 0x00, 0x00, 0x6e, 0x9a, 0x69, 0xb8, 0x01, 0x00, 0x02, 0x00, 0xaa, 0xbb,
    0xea, 0x84, 0xcc, 0xd8] ++ List.replicate lsHmacSha256Size 0

/-- A reader with a key that takes MACs. -/
def keyedReader : Runtime :=
  { (default : Runtime) with
    securityKey := [1]
    securityPolicy := ⟨.hmacSha256, 1, true, true⟩ }

/-- The reader is shown a first envelope. -/
theorem replay_protection_first :
    LengthPreserving clearCrypto ∧ Authentic clearCrypto keyedReader macVector ∧
      ∃ p, replayTrace lsEnvelopeReplayReset none [5] = [(p, true)] := by
  have hdec : LengthPreserving clearCrypto := fun h => by
    cases h
    rfl
  let call : Call (List (UInt16 × List UInt8)) := ⟨keyedReader, 64, macVector, collect⟩
  have h := (replay_protection hdec).2 _ ⟨[], fun _ => 0⟩ [] call
  obtain ⟨-, hasked, p, hp⟩ := h.2 (by decide +kernel) ⟨fun _ _ => throw .eio, fun heq => by
    have hresult := congrArg (fun r => match r with
      | .ok _ _ => true
      | .error _ _ => false) heq
    revert hresult
    decide +kernel⟩
  rw [hasked] at hp
  exact ⟨hdec, h.1 (by decide +kernel), p, hp⟩

end Latch
