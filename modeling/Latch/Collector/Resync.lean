/-
The stream parser behind an interrupted frame.

A device that is reset in the middle of a frame goes on with whole frames. The parser takes
the length in the header of the broken frame at its word and swallows what follows, so the
next envelope is lost unless the header itself was cut.

* `Resumes`: the bytes of a broken frame, with the header of the next frame behind them, do
  not hide that frame; `reaches_iff` says that this is the case exactly if the scan of the
  stream comes to the frame, whatever follows;
* `Resynchronises`: every envelope of the whole frames is received, in order, whatever the
  chunks;
* `resumes_iff_of_broken`: a broken frame that the parser accepts resumes exactly if its header
  was cut, and the length that it has together with the next header is refused;
* `resynchronises_iff`: what a caller receives in the three cases.
-/
import Latch.Collector.StreamParser

namespace Latch.Collector

open Bytes Exec Transport

/-! ### Whole frames -/

section

variable {crc32 : List UInt8 → UInt32} {M : ℕ} {e : List UInt8}

/-- What every frame starts with. -/
def frameStart : List UInt8 := [0x4c, 0x53, 1, 0]

/-- The bytes of a frame behind its start. -/
def frameRest (e : List UInt8) : List UInt8 :=
  le32 (UInt32.ofNat e.length) ++ (e ++ le32 (lsCrc32 e))

lemma frame_eq (e : List UInt8) : Transport.frame e = frameStart ++ frameRest e := by
  rw [Transport.frame, frameRest, Part.bytes, List.append_assoc]
  rfl

lemma frameRest_length (e : List UInt8) : (frameRest e).length = e.length + 8 := by
  simp only [frameRest, List.length_append, le32_length]
  omega

lemma frame_length_eq (e : List UInt8) : (Transport.frame e).length = 8 + e.length + 4 := by
  rw [frame_eq, List.length_append, frameRest_length]
  simp only [frameStart, List.length_cons, List.length_nil]
  omega

lemma get32_frame (h : e.length ≤ 0xffffffff) (v : List UInt8) :
    (get32 (Transport.frame e ++ v) 4).toNat = e.length := by
  rw [frame_eq, List.append_assoc, get32_append_right (by decide), frameRest, List.append_assoc]
  refine (congrArg UInt32.toNat (get32_le32 _ _)).trans ?_
  rw [UInt32.toNat_ofNat', Nat.mod_eq_of_lt (by omega)]

/-- The header of a frame that the parser accepts. -/
lemma header_frame (h : Sendable M e) (v : List UInt8) :
    (frames crc32 M).header (Transport.frame e ++ v) = some (Transport.frame e).length := by
  have hlen : 8 ≤ (Transport.frame e ++ v).length := by
    rw [List.length_append, frame_length_eq]
    omega
  rw [header_frames hlen, frame_length_eq, frameTotal, get32_frame h.fits, if_pos]
  refine ⟨?_, ?_, ?_, ?_, h.length_le⟩ <;> rw [frame_eq] <;> rfl

/-- A whole frame carries its envelope. -/
lemma frameOutcome_frame (hcrc : ∀ l, crc32 l = lsCrc32 l) (h : Sendable M e) :
    frameOutcome crc32 (Transport.frame e) = some (.ok e) := by
  have hlen : (get32 (Transport.frame e) 4).toNat = e.length := by
    have := get32_frame h.fits []
    rwa [List.append_nil] at this
  have henv : ((Transport.frame e).drop 8).take e.length = e := by
    have hheader : (Part.bytes e .header).length = 8 := header_length
    rw [Transport.frame, List.drop_left' hheader]
    exact List.take_left
  have hword : get32 (Transport.frame e) (8 + e.length) = lsCrc32 e := by
    rw [Transport.frame, get32_append_right (by rw [header_length]; exact Nat.le_add_right ..), header_length]
    rw [Part.bytes, Part.bytes, get32_append_right (by simp [lsStreamTransportHeaderSize])]
    simp [lsStreamTransportHeaderSize]
  have hvalid : validateEnvelope crc32 e = .ok (infoOf e) :=
    (validateEnvelope_ok_iff hcrc e _).mpr
      ⟨((lsEnvelopeValidate_ok_iff e _).mp h.valid).1, rfl⟩
  rw [frameOutcome]
  simp only [hlen, henv, hword, hcrc, hvalid]
  rw [if_neg (by simp)]

lemma read_frames (w : List UInt8) : (frames crc32 M).read w = frameOutcome crc32 w := rfl

/-- Whole frames yield their envelopes. -/
lemma scan_frames (hcrc : ∀ l, crc32 l = lsCrc32 l) {es : List (List UInt8)}
    (h : ∀ e ∈ es, Sendable M e) (v : List UInt8) :
    (frames crc32 M).scan (es.flatMap Transport.frame ++ v) = es.map .ok ++ (frames crc32 M).scan v := by
  induction es with
  | nil => rfl
  | cons e es ih =>
      obtain ⟨he, hes⟩ := List.forall_mem_cons.mp h
      have hheader : (frames crc32 M).header (Transport.frame e) = some (Transport.frame e).length := by
        rw [← List.append_nil (Transport.frame e), header_frame he, List.append_nil]
      rw [List.flatMap_cons, List.append_assoc, Framing.scan_frame hheader le_rfl, List.take_length,
        List.drop_length, List.nil_append, read_frames, frameOutcome_frame hcrc he, ih hes]
      rfl

/-- The scan goes from frame to frame. -/
lemma reaches_frame {es : List (List UInt8)} (h : ∀ e ∈ es, Sendable M e) (v : List UInt8) :
    (frames crc32 M).Reaches (es.flatMap Transport.frame ++ v) v := by
  induction es with
  | nil => exact .here v
  | cons e es ih =>
      obtain ⟨he, hes⟩ := List.forall_mem_cons.mp h
      rw [List.flatMap_cons, List.append_assoc]
      refine .frame (header_frame he _) (by rw [List.length_append]; omega) ?_
      rw [List.drop_left]
      exact ih hes

end

/-! ### Broken frames -/

/-- The bytes do not hide a frame that follows them. -/
inductive Resumes (M : ℕ) : List UInt8 → Prop where
  | short {p : List UInt8} (h : p.length < 4) : Resumes M p
  | drop {x : UInt8} {p : List UInt8} (h : 4 ≤ (x :: p).length)
      (hx : frameTotal M (x :: p ++ frameStart) = none) (hp : Resumes M p) : Resumes M (x :: p)
  | frame {p : List UInt8} {n : ℕ} (h : 4 ≤ p.length)
      (hn : frameTotal M (p ++ frameStart) = some n) (hle : n ≤ p.length)
      (hp : Resumes M (p.drop n)) : Resumes M p

section Broken

variable {crc32 : List UInt8 → UInt32} {M : ℕ} {p v : List UInt8}

/-- With four bytes the header depends on no more than the start of the next frame. -/
lemma header_of_broken (h : 4 ≤ p.length) (v : List UInt8) :
    (frames crc32 M).header (p ++ (frameStart ++ v)) = frameTotal M (p ++ frameStart) := by
  have hlen : 8 ≤ (p ++ frameStart).length := by
    rw [List.length_append]
    exact Nat.add_le_add_right h 4
  rw [← List.append_assoc, Framing.header_append hlen, header_frames hlen]

/-- Fewer than four bytes before a frame are no start of one. -/
lemma header_of_short_broken {x : UInt8} (h : p.length < 3) (v : List UInt8) :
    (frames crc32 M).header (x :: p ++ (frameStart ++ v)) = none := by
  by_cases hs : (x :: p ++ (frameStart ++ v)).length < 8
  · exact Framing.header_of_short hs
  rw [header_frames (not_lt.mp hs)]
  refine if_neg fun ⟨_, h1, h2, h3, _⟩ => ?_
  match p, h with
  | [], _ => exact absurd h1 (by simp [frameStart, get8_cons_succ])
  | [y], _ => exact absurd h2 (by simp [frameStart, get8_cons_succ])
  | [y, z], _ => exact absurd h3 (by simp [frameStart, get8_cons_succ])

lemma reaches_of_short (h : p.length < 4) (v : List UInt8) :
    (frames crc32 M).Reaches (p ++ (frameStart ++ v)) (frameStart ++ v) := by
  induction p with
  | nil => exact .here _
  | cons x p ih =>
      rw [List.length_cons] at h
      exact .drop (header_of_short_broken (by omega) v) (ih (by omega))

/-- **The scan comes to the frame behind broken bytes** exactly if they do not hide it. -/
lemma reaches_iff (p v : List UInt8) :
    (frames crc32 M).Reaches (p ++ (frameStart ++ v)) (frameStart ++ v) ↔ Resumes M p := by
  constructor
  · -- the bytes get fewer with every step of the scan
    intro h
    induction hlen : p.length using Nat.strong_induction_on generalizing p with
    | _ len ih =>
        by_cases hshort : p.length < 4
        · exact .short hshort
        have hlong := not_lt.mp hshort
        obtain heq | ⟨x, w, hw, hnone, hrest⟩ | ⟨n, hsome, hn, hrest⟩ := h.cases_step
        · have := congrArg List.length heq
          rw [List.length_append] at this
          omega
        · cases p with
          | nil => exact .short (by decide)
          | cons y p =>
              obtain ⟨rfl, rfl⟩ := List.cons_eq_cons.mp hw
              rw [header_of_broken hlong] at hnone
              exact .drop hlong hnone (ih p.length (by rw [← hlen]; simp) p hrest rfl)
        · have hsmall := hrest.length_le
          have happ : (p ++ (frameStart ++ v)).length = p.length + (frameStart ++ v).length :=
            List.length_append
          rw [List.length_drop] at hsmall
          have hpos : 8 < n := Framing.size_lt_of_header hsome
          rw [header_of_broken hlong] at hsome
          have hle : n ≤ p.length := by omega
          rw [List.drop_append_of_le_length hle] at hrest
          exact .frame hlong hsome hle
            (ih (p.drop n).length (by rw [List.length_drop, hlen]; omega) _ hrest rfl)
  · intro h
    induction h with
    | short h => exact reaches_of_short h v
    | drop h hx _ ih => exact .drop ((header_of_broken h v).trans hx) ih
    | frame h hn hle _ ih =>
        refine .frame (by rw [header_of_broken h, hn]) ?_ ?_
        · rw [List.length_append]
          omega
        · rwa [List.drop_append_of_le_length hle]

/-- Bytes that start no frame are passed over. -/
lemma Resumes.cons {x : UInt8} (hx : x ≠ 0x4c) (h : Resumes M p) : Resumes M (x :: p) := by
  by_cases hshort : (x :: p).length < 4
  · exact .short hshort
  · exact .drop (not_lt.mp hshort) (if_neg fun h' => hx (by simpa using h'.1)) h

end Broken

/-! ### What a caller receives behind broken bytes -/

/-- **The parser resynchronises** behind the given bytes: with enough whole frames behind them
every envelope is received, in order. -/
def Resynchronises (crc32 : List UInt8 → UInt32) (M : ℕ) (p : List UInt8) : Prop :=
  ∀ es : List (List UInt8), es ≠ [] → (∀ e ∈ es, Sendable M e) →
    ∃ N : ℕ, ∀ tail : List (List UInt8), (∀ e ∈ tail, Sendable M e) → N ≤ tail.length →
      ∀ chunks : List (List UInt8), chunks.flatten = p ++ (es ++ tail).flatMap Transport.frame →
        es.Sublist (received crc32 M chunks)

section Resync

variable {crc32 : List UInt8 → UInt32} {M : ℕ} {p : List UInt8} {es tail : List (List UInt8)}

lemma behindErrors_append_map_ok (l : List Outcome) (g : List (List UInt8)) :
    behindErrors (l ++ g.map .ok) = behindErrors l ++ g := by
  induction l with
  | nil => simpa [behindErrors, hasError] using behindErrors_append g []
  | cons o l ih =>
      have hmap : hasError (g.map .ok) = false := by
        simp [hasError]
      have herr : hasError (l ++ g.map .ok) = hasError l := by
        rw [hasError, List.any_append] at *
        rw [hmap, Bool.or_false]
        rfl
      cases o with
      | error m => exact ih
      | ok e =>
          rw [List.cons_append, behindErrors, behindErrors, herr, ih]
          split <;> rfl

/-- What a caller receives of a stream that the scan goes through to whole frames. -/
lemma received_of_reaches (hcrc : ∀ l, crc32 l = lsCrc32 l) (hes : ∀ e ∈ es, Sendable M e)
    {chunks : List (List UInt8)}
    (h : (frames crc32 M).Reaches chunks.flatten (es.flatMap Transport.frame)) :
    ∃ l, received crc32 M chunks = l ++ es := by
  obtain ⟨l, hl⟩ := h.scan_suffix
  have hscan := scan_frames hcrc hes []
  rw [List.append_nil, Framing.scan_nil, List.append_nil] at hscan
  obtain ⟨kept, -, hkept⟩ := received_eq crc32 M chunks
  refine ⟨kept ++ behindErrors l, ?_⟩
  rw [hkept, ← hl, hscan, behindErrors_append_map_ok, List.append_assoc]

lemma flatMap_frame_eq (h : es ≠ []) : ∃ v, es.flatMap Transport.frame = frameStart ++ v := by
  cases es with
  | nil => exact absurd rfl h
  | cons e es => exact ⟨_, by rw [List.flatMap_cons, frame_eq, List.append_assoc]⟩

/-- Every one of the frames is reached exactly if the first one is. -/
lemma all_reached_iff (hne : es ≠ []) (hes : ∀ e ∈ es, Sendable M e) :
    (∀ pre e post, es = pre ++ e :: post → (frames crc32 M).Reaches
      (p ++ (es ++ tail).flatMap Transport.frame) (Transport.frame e ++ (post ++ tail).flatMap Transport.frame)) ↔
      Resumes M p := by
  obtain ⟨v, hv⟩ := flatMap_frame_eq (show es ++ tail ≠ [] by simp [hne])
  have hfirst : (frames crc32 M).Reaches _ _ ↔ Resumes M p := reaches_iff p v
  rw [← hfirst, ← hv]
  constructor
  · intro h
    cases es with
    | nil => exact absurd rfl hne
    | cons e es => exact h [] e es rfl
  · rintro h pre e post rfl
    refine h.trans ?_
    rw [List.append_assoc, List.flatMap_append]
    exact reaches_frame (fun e he => hes e (List.mem_append_left _ he)) _

/-- Behind bytes that hide nothing every envelope is received. -/
lemma resynchronises_of_resumes (hcrc : ∀ l, crc32 l = lsCrc32 l) (h : Resumes M p) :
    Resynchronises crc32 M p := by
  refine fun es hne hes => ⟨0, fun tail htail _ chunks hchunks => ?_⟩
  have hall : ∀ e ∈ es ++ tail, Sendable M e := List.forall_mem_append.mpr ⟨hes, htail⟩
  obtain ⟨v, hv⟩ := flatMap_frame_eq (show es ++ tail ≠ [] by simp [hne])
  have hreach : (frames crc32 M).Reaches chunks.flatten ((es ++ tail).flatMap Transport.frame) := by
    rw [hchunks, hv]
    exact (reaches_iff p v).mpr h
  obtain ⟨l, hl⟩ := received_of_reaches hcrc hall hreach
  rw [hl]
  exact (List.sublist_append_left es tail).trans (List.sublist_append_right l _)

end Resync

/-! ### An envelope that is lost -/

/-- No frame starts in the bytes, whatever follows. -/
def quiet : List UInt8 → Bool
  | [] => true
  | x :: rest => (x ≠ 0x4c || rest[1]?.any (· ≠ 1)) && quiet rest

lemma quiet_drop {r : List UInt8} (h : quiet r = true) (j : ℕ) : quiet (r.drop j) = true := by
  induction r generalizing j with
  | nil => simpa using h
  | cons x r ih =>
      cases j with
      | zero => exact h
      | succ j => exact ih (Bool.and_eq_true_iff.mp h).2 j

/-- An envelope of 28 bytes in a frame without another start. -/
structure Plain (e : List UInt8) : Prop where
  sendable : Sendable 28 e
  length : e.length = 28
  quiet : quiet (Transport.frame e).tail = true
  /-- The frame does not overlap the end of the envelope. -/
  overlap : ∀ k < 28, e.drop (27 - k) ≠ (Transport.frame e).take (k + 1)
  /-- The envelope does not start within the header. -/
  shifted : ∀ m < 5, ((Transport.frame e).drop (m + 1)).take 28 ≠ e

lemma Plain.sendable_of_le {M : ℕ} {e : List UInt8} (h : Plain e) (hM : 28 ≤ M) : Sendable M e :=
  ⟨h.sendable.valid, h.sendable.length_le.trans hM, h.sendable.fits⟩

/-- An envelope without fields, with sequence number 1. -/
def firstEnvelope : List UInt8 :=
  [0x4c, 0x53, 0x54, 0x50, 0x01, 0x02, 0x00, 0x00, 0x01, 0x00, 0x00, 0x00, 0x09, 0x00, 0x00,
    0x00, 0x00, 0x00, 0x00, 0x00, 0x48, 0x27, 0x92, 0x43, 0x00, 0x00, 0x00, 0x00]

/-- An envelope without fields, with sequence number 2. -/
def secondEnvelope : List UInt8 :=
  [0x4c, 0x53, 0x54, 0x50, 0x01, 0x02, 0x00, 0x00, 0x02, 0x00, 0x00, 0x00, 0x09, 0x00, 0x00,
    0x00, 0x00, 0x00, 0x00, 0x00, 0xb8, 0xf5, 0x0c, 0x34, 0x00, 0x00, 0x00, 0x00]

lemma plain_firstEnvelope : Plain firstEnvelope :=
  ⟨⟨by decide +kernel, by decide, by decide⟩, by decide, by decide +kernel, by decide +kernel,
    by decide +kernel⟩

lemma plain_secondEnvelope : Plain secondEnvelope :=
  ⟨⟨by decide +kernel, by decide, by decide⟩, by decide, by decide +kernel, by decide +kernel,
    by decide +kernel⟩

section Lost

variable {crc32 : List UInt8 → UInt32} {M : ℕ} {p e : List UInt8}

lemma scan_quiet {r : List UInt8} (h : quiet r = true) (v : List UInt8) :
    (frames crc32 M).scan (r ++ v) = (frames crc32 M).scan v := by
  induction r with
  | nil => rfl
  | cons x r ih =>
      obtain ⟨hx, hr⟩ := Bool.and_eq_true_iff.mp h
      refine (Framing.scan_cons x ?_).trans (ih hr)
      by_cases hs : (x :: r ++ v).length < 8
      · exact Framing.header_of_short hs
      refine (header_frames (not_lt.mp hs)).trans (if_neg fun ⟨h0, _, h2, _⟩ => ?_)
      match r, hx with
      | [], hx => simp_all
      | [y], hx => simp_all
      | y :: z :: r, hx =>
          have h2 : z = 1 := by simpa [get8_cons_succ] using h2
          simp_all

/-- Of frames that have lost their first byte the envelopes behind the first frame are left. -/
lemma mem_of_ok_mem_scan_drop (hcrc : ∀ l, crc32 l = lsCrc32 l) {x : List UInt8}
    {xs : List (List UInt8)} (hx : Plain x) (hxs : ∀ y ∈ xs, Plain y) (hM : 28 ≤ M) {j : ℕ}
    (hj : 0 < j) (h : .ok e ∈ (frames crc32 M).scan (((x :: xs).flatMap Transport.frame).drop j)) :
    e ∈ xs := by
  induction xs generalizing x j with
  | nil =>
      have hquiet := quiet_drop hx.quiet (j - 1)
      rw [List.drop_tail, Nat.sub_add_cancel hj] at hquiet
      rw [List.flatMap_cons, List.flatMap_nil, List.append_nil, ← List.append_nil (List.drop j _),
        scan_quiet hquiet, Framing.scan_nil] at h
      cases h
  | cons y ys ih =>
      rw [List.flatMap_cons] at h
      by_cases hle : j ≤ (Transport.frame x).length
      · have hquiet := quiet_drop hx.quiet (j - 1)
        rw [List.drop_tail, Nat.sub_add_cancel hj] at hquiet
        have hscan := scan_frames hcrc (fun z hz => (hxs z hz).sendable_of_le hM) []
        rw [List.append_nil, Framing.scan_nil, List.append_nil] at hscan
        rw [List.drop_append_of_le_length hle, scan_quiet hquiet, hscan] at h
        simpa using h
      · rw [List.drop_append, List.drop_eq_nil_of_le (by omega), List.nil_append] at h
        obtain ⟨hy, hys⟩ := List.forall_mem_cons.mp hxs
        exact List.mem_cons_of_mem _ (ih hy hys (by omega) h)

/-- What is swallowed is not the envelope of the frame behind it. -/
lemma swallowed_ne (he : Plain e) (h4 : 4 ≤ p.length) (hp : (p.drop 8).take 28 ≠ e)
    (v : List UInt8) : ((p ++ (Transport.frame e ++ v)).drop 8).take 28 ≠ e := by
  have hlen : (Transport.frame e).length = 40 := by rw [frame_length_eq, he.length]
  intro h
  obtain hlt | hge := Nat.lt_or_ge p.length 8
  · rw [List.drop_append, List.drop_eq_nil_of_le hlt.le, List.nil_append,
      List.drop_append_of_le_length (by omega),
      List.take_append_of_le_length (by rw [List.length_drop]; omega)] at h
    refine he.shifted (7 - p.length) (by omega) ?_
    rwa [show 7 - p.length + 1 = 8 - p.length by omega]
  · rw [List.drop_append_of_le_length hge] at h
    obtain hin | hout := Nat.lt_or_ge p.length 36
    · refine he.overlap (35 - p.length) (by omega) ?_
      have hd := congrArg (List.drop (p.length - 8)) h
      rw [List.drop_take, List.drop_append, List.drop_eq_nil_of_le (by rw [List.length_drop]),
        List.nil_append, List.length_drop, Nat.sub_self, List.drop_zero,
        List.take_append_of_le_length (by omega)] at hd
      rw [show 27 - (35 - p.length) = p.length - 8 by omega, ← hd]
      congr 1
      omega
    · rw [List.take_append_of_le_length (by rw [List.length_drop]; omega)] at h
      exact hp h

/-- The envelope of a frame is its bytes behind the header. -/
lemma eq_of_frameOutcome_ok {w : List UInt8} {n : ℕ} (hn : frameTotal M w = some n)
    (h : frameOutcome crc32 (w.take n) = some (.ok e)) : e = (w.drop 8).take (n - 12) := by
  unfold frameTotal at hn
  split at hn
  · cases hn
    rw [frameOutcome_take rfl] at h
    split at h
    · cases h
    · rw [show 8 + (get32 w 4).toNat + 4 - 12 = (get32 w 4).toNat by omega]
      cases hv : validateEnvelope crc32 ((w.drop 8).take (get32 w 4).toNat) with
      | error m =>
          rw [hv] at h
          cases h
      | ok i =>
          rw [hv] at h
          exact (Except.ok.inj (Option.some.inj h)).symm
  · cases hn

lemma ok_mem_of_mem_behindErrors {l : List Outcome} (h : e ∈ behindErrors l) : .ok e ∈ l := by
  induction l with
  | nil => cases h
  | cons o l ih =>
      cases o with
      | error m => exact List.mem_cons_of_mem _ (ih h)
      | ok x =>
          rw [behindErrors] at h
          split at h
          · exact List.mem_cons_of_mem _ (ih h)
          · obtain rfl | h := List.mem_cons.mp h
            · exact List.mem_cons_self
            · exact List.mem_cons_of_mem _ (ih h)

/-- A frame that runs into the next one takes its envelope. -/
lemma ok_not_mem_scan_of_overrun (hcrc : ∀ l, crc32 l = lsCrc32 l) {n : ℕ} (hM : 28 ≤ M)
    (h4 : 4 ≤ p.length) (hn : frameTotal M (p ++ frameStart) = some n) (hlt : p.length < n)
    (he : Plain e) (hp : (p.drop 8).take 28 ≠ e) {xs : List (List UInt8)}
    (hxs : ∀ x ∈ xs, Plain x) (hne : e ∉ xs) :
    .ok e ∉ (frames crc32 M).scan (p ++ (e :: xs).flatMap Transport.frame) := by
  obtain ⟨v, hv⟩ := flatMap_frame_eq (List.cons_ne_nil e xs)
  have hheader : (frames crc32 M).header (p ++ (e :: xs).flatMap Transport.frame) = some n := by
    rw [hv, header_of_broken h4, hn]
  have h8 := Framing.size_le_of_header hheader
  have htotal : frameTotal M (p ++ (e :: xs).flatMap Transport.frame) = some n := by
    rw [← header_frames h8, hheader]
  rw [Framing.scan_of_header hheader]
  split
  · exact List.not_mem_nil
  rename_i hwhole
  intro h
  obtain hswallowed | hrest := List.mem_append.mp h
  · have heq := eq_of_frameOutcome_ok htotal (Option.mem_toList.mp hswallowed)
    have hlen := congrArg List.length heq
    rw [he.length, List.length_take, List.length_drop] at hlen
    rw [show n - 12 = 28 by omega, List.flatMap_cons] at heq
    exact swallowed_ne he h4 hp _ heq.symm
  · rw [List.drop_append, List.drop_eq_nil_of_le hlt.le, List.nil_append] at hrest
    exact hne (mem_of_ok_mem_scan_drop hcrc he hxs hM (by omega) hrest)

/-- Behind such a frame there is an envelope that is not received, however many frames
follow. -/
lemma not_resynchronises_of_overrun (hcrc : ∀ l, crc32 l = lsCrc32 l) {n : ℕ} (hM : 28 ≤ M)
    (h4 : 4 ≤ p.length) (hn : frameTotal M (p ++ frameStart) = some n) (hlt : p.length < n) :
    ¬ Resynchronises crc32 M p := by
  obtain ⟨e, e', he, he', hne, hp⟩ :
      ∃ e e', Plain e ∧ Plain e' ∧ e ≠ e' ∧ (p.drop 8).take 28 ≠ e := by
    by_cases h : (p.drop 8).take 28 = firstEnvelope
    · exact ⟨_, _, plain_secondEnvelope, plain_firstEnvelope, by decide, h ▸ by decide⟩
    · exact ⟨_, _, plain_firstEnvelope, plain_secondEnvelope, by decide, h⟩
  have hreplicate : ∀ {N : ℕ} {x}, x ∈ List.replicate N e' → x = e' := List.eq_of_mem_replicate
  intro h
  obtain ⟨N, hN⟩ := h [e] (List.cons_ne_nil _ _) (by simpa using he.sendable_of_le hM)
  have hsub := hN (List.replicate N e') (fun x hx => hreplicate hx ▸ he'.sendable_of_le hM)
    List.length_replicate.ge [p ++ (e :: List.replicate N e').flatMap Transport.frame] List.flatten_singleton
  rw [received_whole, List.singleton_sublist] at hsub
  exact ok_not_mem_scan_of_overrun hcrc hM h4 hn hlt he hp (fun x hx => hreplicate hx ▸ he')
    (fun hmem => hne (hreplicate hmem)) (ok_mem_of_mem_behindErrors hsub)

end Lost

/-! ### Strict beginnings of a frame -/

section Strict

variable {crc32 : List UInt8 → UInt32} {M : ℕ} {p broken : List UInt8}

/-- Four bytes of a frame are its start. -/
lemma eq_frameStart_append (hp : p <+: Transport.frame broken) (h4 : 4 ≤ p.length) :
    ∃ q, p = frameStart ++ q := by
  refine ⟨(frameRest broken).take (p.length - 4), ?_⟩
  conv_lhs => rw [List.prefix_iff_eq_take.mp hp, frame_eq, List.take_append,
    List.take_of_length_le h4]
  rfl

/-- The length of the frame that the parser sees, where the header is cut. -/
lemma frameTotal_cut {q : List UInt8} :
    frameTotal M (frameStart ++ q ++ frameStart) =
      if (get32 (frameStart ++ q ++ frameStart) 4).toNat ≤ M then
        some (8 + (get32 (frameStart ++ q ++ frameStart) 4).toNat + 4)
      else none := by
  refine if_congr ?_ rfl rfl
  simp [frameStart, get8_cons_succ]

/-- A cut header with a length that is refused. -/
lemma resumes_of_cut {q : List UInt8} (hq : q.length < 4)
    (h : M < (get32 (frameStart ++ q ++ frameStart) 4).toNat) : Resumes M (frameStart ++ q) := by
  have hnone : frameTotal M (frameStart ++ q ++ frameStart) = none := by
    rw [frameTotal_cut, if_neg (by omega)]
  have hrest : Resumes M (0x53 :: 1 :: 0 :: q) :=
    .cons (by decide) (.cons (by decide) (.cons (by decide) (.short hq)))
  exact .drop (by simp) hnone hrest

/-- A frame that is not whole runs into the next one, unless its header was cut and is
refused. -/
lemma overrun_of_broken (hb : Sendable M broken) (hp : p <+: Transport.frame broken)
    (hne : p ≠ Transport.frame broken) (h4 : 4 ≤ p.length)
    (h : ¬ (p.length < 8 ∧ M < (get32 (p ++ frameStart) 4).toNat)) :
    ∃ n, frameTotal M (p ++ frameStart) = some n ∧ p.length < n := by
  obtain ⟨t, ht⟩ := hp
  have hlt : p.length < (Transport.frame broken).length := by
    have hpos : t ≠ [] := by
      rintro rfl
      exact hne (by simpa using ht)
    rw [← ht, List.length_append]
    exact Nat.lt_add_of_pos_right (List.length_pos_iff.mpr hpos)
  obtain hshort | hlong := Nat.lt_or_ge p.length 8
  · obtain ⟨q, rfl⟩ := eq_frameStart_append ⟨t, ht⟩ h4
    have hle := not_lt.mp (not_and.mp h hshort)
    exact ⟨_, by rw [frameTotal_cut, if_pos hle], by omega⟩
  · -- the header is whole, and does not depend on what follows
    refine ⟨_, ?_, hlt⟩
    have hheader : (frames lsCrc32 M).header (Transport.frame broken) = some (Transport.frame broken).length := by
      rw [← List.append_nil (Transport.frame broken), header_frame hb, List.append_nil]
    rw [← ht, Framing.header_append hlong, ← Framing.header_append hlong frameStart,
      header_frames (by rw [List.length_append]; omega), ht] at hheader
    exact hheader

/-- **An interrupted frame.** Where the frame that was cut was one that the parser accepts, it
resynchronises exactly if fewer than four bytes came, or fewer than eight and the length that
they make with the start of the next frame is refused. For every frame that was cut, each of
the whole frames behind it is reached exactly if the bytes that came do not hide it, and then
all the envelopes are received. -/
theorem resynchronises_iff (hcrc : ∀ l, crc32 l = lsCrc32 l)
    (hb : Sendable broken.length broken) (hp : p <+: Transport.frame broken) (hne : p ≠ Transport.frame broken) :
    (broken.length ≤ M → (Resynchronises crc32 M p ↔
      p.length < 4 ∨ p.length < 8 ∧ M < (get32 (p ++ frameStart) 4).toNat)) ∧
    (Resumes M p → Resynchronises crc32 M p) ∧
    ∀ es tail : List (List UInt8), es ≠ [] → (∀ e ∈ es, Sendable M e) →
      (∀ e ∈ tail, Sendable M e) →
      ((∀ pre e post, es = pre ++ e :: post → (frames crc32 M).Reaches
        (p ++ (es ++ tail).flatMap Transport.frame) (Transport.frame e ++ (post ++ tail).flatMap Transport.frame)) ↔
        Resumes M p) := by
  refine ⟨fun hle => ⟨fun h => ?_, fun h => resynchronises_of_resumes hcrc ?_⟩,
    resynchronises_of_resumes hcrc, fun es tail hes hsend _ => all_reached_iff hes hsend⟩
  · by_contra hcond
    rw [not_or, not_lt] at hcond
    have hM : 28 ≤ M := le_trans ((lsEnvelopeValidate_ok_iff _ _).mp hb.valid).1.length_ge hle
    obtain ⟨n, hn, hlt⟩ := overrun_of_broken ⟨hb.valid, hle, hb.fits⟩ hp hne hcond.1 hcond.2
    exact not_resynchronises_of_overrun hcrc hM hcond.1 hn hlt h
  · obtain h4 | ⟨h8, hM⟩ := h
    · exact .short h4
    obtain h4 | h4 := Nat.lt_or_ge p.length 4
    · exact .short h4
    obtain ⟨q, rfl⟩ := eq_frameStart_append hp h4
    exact resumes_of_cut (by rw [List.length_append] at h8; exact Nat.lt_of_add_lt_add_left h8) hM

/-- The whole header of the test vector came. -/
theorem resynchronises_iff_whole_header :
    ¬ Resynchronises lsCrc32 4096 ((Transport.frame basicVector).take 8) := by
  have hb : Sendable basicVector.length basicVector :=
    ⟨by decide +kernel, le_rfl, by decide⟩
  have h : Resynchronises lsCrc32 4096 _ ↔ _ := (resynchronises_iff (fun _ => rfl) hb
    (List.take_prefix 8 (Transport.frame basicVector)) (by decide +kernel)).1 (by decide)
  rw [h]
  decide +kernel

/-- **An envelope is lost behind an interrupted frame**: of the test vector only the header of
its frame came, and the first of the frames that follow it is swallowed. -/
theorem first_envelope_swallowed :
    Sendable 4096 basicVector ∧ Sendable 4096 firstEnvelope ∧ Sendable 4096 secondEnvelope ∧
      received lsCrc32 4096 [(Transport.frame basicVector).take 8 ++
        ([firstEnvelope] ++ [secondEnvelope, secondEnvelope]).flatMap Transport.frame] =
        [secondEnvelope, secondEnvelope] ∧
      ∀ N, firstEnvelope ∉ received lsCrc32 4096 [(Transport.frame basicVector).take 8 ++
        ([firstEnvelope] ++ List.replicate N secondEnvelope).flatMap Transport.frame] := by
  refine ⟨⟨by decide +kernel, by decide, by decide⟩, plain_firstEnvelope.sendable_of_le (by decide),
    plain_secondEnvelope.sendable_of_le (by decide), by decide +kernel, fun N h => ?_⟩
  rw [received_whole] at h
  have hreplicate : ∀ {x}, x ∈ List.replicate N secondEnvelope → x = secondEnvelope :=
    List.eq_of_mem_replicate
  exact ok_not_mem_scan_of_overrun (fun _ => rfl) (by decide) (by decide +kernel)
    (show _ = some 46 by decide +kernel) (by decide +kernel) plain_firstEnvelope
    (by decide +kernel) (fun x hx => hreplicate hx ▸ plain_secondEnvelope)
    (fun hmem => absurd (hreplicate hmem) (by decide)) (ok_mem_of_mem_behindErrors h)

end Strict

end Latch.Collector
