/-
The stream parser of the collector (`StreamParser` of `tools/latch_collector.py`) and its
dependence on the chunks that it is fed.

`feed` takes whole frames out of the buffer and returns their envelopes. An invalid envelope
in a frame with the right CRC raises a `ProtocolError`, and the envelopes that the call had
collected before it are gone, since they have left the buffer.

* `frames`: the frames of the stream as a `Framing`, and `feed_spec`: what one call does, in
  terms of the scan of the buffer with whatever follows;
* `received`: what a caller gets that catches the errors and goes on with the next chunk;
* `received_eq`: it is what is valid behind the last invalid envelope, and before it some of
  the valid envelopes in their order;
* `received_bytes`, `received_whole`: byte by byte nothing is lost, in one chunk all of it;
* `chunking_irrelevant_iff`: the chunks do not matter exactly if there is no valid envelope
  before an invalid one.
-/
import Latch.Envelope.Decoders
import Latch.Lib.Framing
import Latch.Transport.Stream

namespace Latch.Collector

open Bytes Exec

/-! ### The parser -/

/-- `StreamParser`. -/
structure StreamParser where
  maximumEnvelope : ℕ
  buffer : List UInt8
  deriving DecidableEq

/-- `StreamParser.__init__`; the error is the text of the `ValueError`. -/
def StreamParser.init (maximumEnvelope : ℕ) : Except String StreamParser :=
  if maximumEnvelope < 24 + 4 then .error "maximum_envelope is too small"
  else .ok ⟨maximumEnvelope, []⟩

/-- `buffer.find(STREAM_MAGIC)`. -/
def findMarker : List UInt8 → Option ℕ
  | [] => none
  | x :: rest => if x = 0x4c ∧ rest.head? = some 0x53 then some 0 else (findMarker rest).map (· + 1)

/-- A function of the parser that returns envelopes; the error is the text of the
`ProtocolError`. -/
abbrev ParserM := EStateM String StreamParser (List (List UInt8))

/-- Sets the buffer. -/
def setBuffer (buffer : List UInt8) : EStateM String StreamParser Unit :=
  modify fun parser => { parser with buffer := buffer }

section

variable (crc32 : List UInt8 → UInt32)

/-- A turn of the loop of `feed` from the marker on, with the envelopes collected so far; `go`
are the turns that follow. -/
def feedTurn (maximumEnvelope : ℕ) (buffer : List UInt8) (envelopes : List (List UInt8))
    (go : List (List UInt8) → ParserM) : ParserM :=
  if buffer.length < 8 then return envelopes
  else
    let length := (get32 buffer 4).toNat
    if get8 buffer 2 ≠ 1 ∨ get8 buffer 3 ≠ 0 ∨ maximumEnvelope < length then do
      setBuffer (buffer.drop 1)
      go envelopes
    else
      let total := 8 + length + 4
      if buffer.length < total then return envelopes
      else do
        let envelope := (buffer.drop 8).take length
        setBuffer (buffer.drop total)
        if get32 buffer (8 + length) ≠ crc32 envelope then go envelopes
        else
          match validateEnvelope crc32 envelope with
          | .error message => throw message
          | .ok _ => go (envelopes ++ [envelope])

/-- The loop of `feed`. -/
def feedLoop : ℕ → List (List UInt8) → ParserM
  | 0, envelopes => return envelopes
  | fuel + 1, envelopes => do
    let parser ← get
    match findMarker parser.buffer with
    | none => do
      setBuffer (if parser.buffer.getLast? = some 0x4c then [0x4c] else [])
      return envelopes
    | some marker => do
      setBuffer (parser.buffer.drop marker)
      feedTurn crc32 parser.maximumEnvelope (parser.buffer.drop marker) envelopes (feedLoop fuel)

/-- `feed`. Every turn of its loop shortens the buffer or ends it. -/
def feed (chunk : List UInt8) : ParserM := do
  let parser ← get
  setBuffer (parser.buffer ++ chunk)
  feedLoop crc32 (parser.buffer.length + chunk.length + 1) []

/-- Feeds the empty chunk until nothing more is returned. -/
def drain : ℕ → StreamParser → List (List UInt8)
  | 0, _ => []
  | fuel + 1, parser =>
    match feed crc32 [] parser with
    | .ok [] _ => []
    | .ok envelopes parser => envelopes ++ drain fuel parser
    | .error _ parser => drain fuel parser

/-- The envelopes that a caller gets who catches a `ProtocolError` and goes on with the next
chunk, and at the end with the empty one. -/
def receivedFrom : List (List UInt8) → StreamParser → List (List UInt8)
  | [], parser => drain crc32 (parser.buffer.length + 1) parser
  | chunk :: chunks, parser =>
    match feed crc32 chunk parser with
    | .ok envelopes parser => envelopes ++ receivedFrom chunks parser
    | .error _ parser => receivedFrom chunks parser

/-- The same from a fresh parser on. -/
def received (maximumEnvelope : ℕ) (chunks : List (List UInt8)) : List (List UInt8) :=
  receivedFrom crc32 chunks ⟨maximumEnvelope, []⟩

end

/-! ### The frames of the stream -/

/-- What a frame with the right CRC carries: an envelope, or the text of the error. -/
abbrev Outcome := Except String (List UInt8)

/-- The length of a frame with the given header. -/
def frameTotal (maximumEnvelope : ℕ) (h : List UInt8) : Option ℕ :=
  if get8 h 0 = 0x4c ∧ get8 h 1 = 0x53 ∧ get8 h 2 = 1 ∧ get8 h 3 = 0 ∧
      (get32 h 4).toNat ≤ maximumEnvelope then some (8 + (get32 h 4).toNat + 4)
  else none

/-- What a whole frame carries; nothing where its CRC is wrong. -/
def frameOutcome (crc32 : List UInt8 → UInt32) (w : List UInt8) : Option Outcome :=
  let envelope := (w.drop 8).take (get32 w 4).toNat
  if get32 w (8 + (get32 w 4).toNat) ≠ crc32 envelope then none
  else some (match validateEnvelope crc32 envelope with
    | .error message => .error message
    | .ok _ => .ok envelope)

/-- The frames of the stream. -/
def frames (crc32 : List UInt8 → UInt32) (maximumEnvelope : ℕ) : Framing UInt8 Outcome where
  size := 8
  total := frameTotal maximumEnvelope
  read := frameOutcome crc32
  size_lt := by
    intro h n hn
    unfold frameTotal at hn
    split at hn
    · cases hn
      omega
    · cases hn

section

variable {crc32 : List UInt8 → UInt32} {maximumEnvelope : ℕ} {w : List UInt8}

lemma header_frames (h : 8 ≤ w.length) :
    (frames crc32 maximumEnvelope).header w = frameTotal maximumEnvelope w := by
  have hshort : ¬ w.length < (frames crc32 maximumEnvelope).size := not_lt.mpr h
  rw [Framing.header, if_neg hshort]
  simp (disch := decide) only [frames, frameTotal, get8_take, get32_take]

/-- No header starts where the marker does not. -/
lemma header_eq_none {x : UInt8} (h : ¬ (x = 0x4c ∧ w.head? = some 0x53)) :
    (frames crc32 maximumEnvelope).header (x :: w) = none := by
  by_cases hs : (x :: w).length < 8
  · exact Framing.header_of_short hs
  rw [header_frames (not_lt.mp hs)]
  refine if_neg fun hh => h ⟨by simpa using hh.1, ?_⟩
  cases w with
  | nil => simp at hs
  | cons y w => simpa [get8_cons_succ] using hh.2.1

/-- Without a marker the parser keeps the byte that may be the first half of one. -/
lemma scan_of_no_marker (h : findMarker w = none) (v : List UInt8) :
    (frames crc32 maximumEnvelope).scan (w ++ v) = (frames crc32 maximumEnvelope).scan
      ((if w.getLast? = some 0x4c then [0x4c] else []) ++ v) := by
  induction w with
  | nil => rfl
  | cons x w ih =>
      rw [findMarker] at h
      split at h
      · cases h
      rename_i hx
      have hw : findMarker w = none := by simpa using h
      cases w with
      | nil =>
          by_cases hL : x = 0x4c
          · simp [hL]
          · rw [List.cons_append, List.nil_append,
              Framing.scan_cons x (header_eq_none fun h => hL h.1)]
            simp [hL]
      | cons y w =>
          rw [List.cons_append, Framing.scan_cons x (header_eq_none (by simpa using hx)), ih hw,
            List.getLast?_cons_cons]

lemma exists_of_marker {marker : ℕ} (h : findMarker w = some marker) :
    ∃ rest, w.drop marker = 0x4c :: 0x53 :: rest := by
  induction w generalizing marker with
  | nil => cases h
  | cons x w ih =>
      rw [findMarker] at h
      split at h
      · rename_i hx
        cases h
        cases w with
        | nil => simp at hx
        | cons y w =>
            obtain ⟨rfl, hy⟩ := hx
            obtain rfl : y = 0x53 := by simpa using hy
            exact ⟨w, rfl⟩
      · obtain ⟨k, hk, rfl⟩ := Option.map_eq_some_iff.mp h
        exact ih hk

/-- What stands before a marker is dropped. -/
lemma scan_of_marker {marker : ℕ} (h : findMarker w = some marker) (v : List UInt8) :
    (frames crc32 maximumEnvelope).scan (w ++ v) =
      (frames crc32 maximumEnvelope).scan (w.drop marker ++ v) := by
  induction w generalizing marker with
  | nil => cases h
  | cons x w ih =>
      rw [findMarker] at h
      split at h
      · cases h
        rfl
      · rename_i hx
        obtain ⟨k, hk, rfl⟩ := Option.map_eq_some_iff.mp h
        have hne : w ≠ [] := by
          rintro rfl
          cases hk
        have hx' : ¬ (x = 0x4c ∧ (w ++ v).head? = some 0x53) := by
          rwa [List.head?_append_of_ne_nil _ hne]
        rw [List.cons_append, Framing.scan_cons x (header_eq_none hx'), ih hk, List.drop_succ_cons]

/-- A parser has come from one buffer to another and met the given outcomes. -/
structure Yields (crc32 : List UInt8 → UInt32) (parser parser' : StreamParser)
    (outcomes : List Outcome) : Prop where
  maximum : parser'.maximumEnvelope = parser.maximumEnvelope
  length_le : parser'.buffer.length ≤ parser.buffer.length
  scan : ∀ v, (frames crc32 parser.maximumEnvelope).scan (parser.buffer ++ v) =
    outcomes ++ (frames crc32 parser.maximumEnvelope).scan (parser'.buffer ++ v)

lemma Yields.trans {p₁ p₂ p₃ : StreamParser} {l l' : List Outcome} (h : Yields crc32 p₁ p₂ l)
    (h' : Yields crc32 p₂ p₃ l') : Yields crc32 p₁ p₃ (l ++ l') := by
  refine ⟨h'.maximum.trans h.maximum, h'.length_le.trans h.length_le, fun v => ?_⟩
  have h₂ := h'.scan v
  rw [h.maximum] at h₂
  rw [h.scan, h₂, List.append_assoc]

/-- The parser stopped where nothing more can be taken out of the buffer. -/
def AtRest (crc32 : List UInt8 → UInt32) (parser : StreamParser) : Prop :=
  (frames crc32 parser.maximumEnvelope).scan parser.buffer = []

/-- A frame header at the start of the buffer is the one that the parser checks. -/
lemma frameTotal_of_marker {rest : List UInt8} (hw : w = 0x4c :: 0x53 :: rest) :
    frameTotal maximumEnvelope w =
      if get8 w 2 ≠ 1 ∨ get8 w 3 ≠ 0 ∨ maximumEnvelope < (get32 w 4).toNat then none
      else some (8 + (get32 w 4).toNat + 4) := by
  have h0 : get8 w 0 = 0x4c := by rw [hw, get8_cons]
  have h1 : get8 w 1 = 0x53 := by rw [hw, get8_cons_succ, get8_cons]
  rw [frameTotal]
  by_cases h : get8 w 2 ≠ 1 ∨ get8 w 3 ≠ 0 ∨ maximumEnvelope < (get32 w 4).toNat
  · rw [if_pos h, if_neg]
    rintro ⟨-, -, h2, h3, h4⟩
    exact h.elim (absurd h2) (Or.rec (absurd h3) (not_lt.mpr h4))
  · rw [if_neg h, if_pos]
    simp only [not_or, not_not, not_lt] at h
    exact ⟨h0, h1, h.1, h.2.1, h.2.2⟩

/-- A loop that returned: it has taken valid envelopes out of the buffer, and stopped at rest. -/
def LoopReturned (crc32 : List UInt8 → UInt32) (parser : StreamParser)
    (envelopes l : List (List UInt8)) (parser' : StreamParser) : Prop :=
  ∃ goods : List (List UInt8), l = envelopes ++ goods ∧ AtRest crc32 parser' ∧
    Yields crc32 parser parser' (goods.map .ok)

/-- A loop that raised an error: there were valid envelopes and an invalid one behind them. -/
def LoopRaised (crc32 : List UInt8 → UInt32) (parser : StreamParser) (message : String)
    (parser' : StreamParser) : Prop :=
  ∃ goods : List (List UInt8), parser'.buffer.length < parser.buffer.length ∧
    Yields crc32 parser parser' (goods.map .ok ++ [.error message])

section Turns

variable {p₁ p₂ p₃ : StreamParser} {g envelopes l : List (List UInt8)}

lemma Yields.returned (h : Yields crc32 p₁ p₂ (g.map .ok))
    (h' : LoopReturned crc32 p₂ (envelopes ++ g) l p₃) : LoopReturned crc32 p₁ envelopes l p₃ := by
  obtain ⟨goods, rfl, hrest, hy⟩ := h'
  refine ⟨g ++ goods, List.append_assoc .., hrest, ?_⟩
  rw [List.map_append]
  exact h.trans hy

lemma Yields.raised {message : String} (h : Yields crc32 p₁ p₂ (g.map .ok))
    (h' : LoopRaised crc32 p₂ message p₃) : LoopRaised crc32 p₁ message p₃ := by
  obtain ⟨goods, hlt, hy⟩ := h'
  refine ⟨g ++ goods, hlt.trans_le h.length_le, ?_⟩
  rw [List.map_append, List.append_assoc]
  exact h.trans hy

end Turns

/-- Where the marker is missing, the end of the buffer is kept. -/
lemma yields_of_no_marker {buffer : List UInt8} (h : findMarker buffer = none) :
    let kept := if buffer.getLast? = some 0x4c then [0x4c] else []
    AtRest crc32 ⟨maximumEnvelope, kept⟩ ∧
      Yields crc32 ⟨maximumEnvelope, buffer⟩ ⟨maximumEnvelope, kept⟩ [] := by
  intro kept
  have hshort : kept.length < 8 ∧ kept.length ≤ buffer.length := by
    dsimp only [kept]
    split
    · rename_i hL
      have := List.length_pos_of_ne_nil (show buffer ≠ [] by rintro rfl; cases hL)
      exact ⟨by decide, this⟩
    · exact ⟨by decide, Nat.zero_le _⟩
  exact ⟨Framing.scan_short hshort.1, rfl, hshort.2, scan_of_no_marker h⟩

lemma yields_of_marker {buffer : List UInt8} {marker : ℕ} (h : findMarker buffer = some marker) :
    Yields crc32 ⟨maximumEnvelope, buffer⟩ ⟨maximumEnvelope, buffer.drop marker⟩ [] :=
  ⟨rfl, by simp, scan_of_marker h⟩

/-- A header that is refused. -/
lemma yields_of_refused {x : UInt8} (h : frameTotal maximumEnvelope (x :: w) = none)
    (hlen : 8 ≤ (x :: w).length) :
    Yields crc32 ⟨maximumEnvelope, x :: w⟩ ⟨maximumEnvelope, w⟩ [] := by
  refine ⟨rfl, by simp, fun v => ?_⟩
  have hheader : (frames crc32 maximumEnvelope).header ((x :: w) ++ v) = none := by
    rw [Framing.header_append (by exact hlen), header_frames hlen, h]
  exact Framing.scan_cons x hheader

/-- A whole frame. -/
lemma yields_of_frame {n : ℕ} (h : frameTotal maximumEnvelope w = some n) (hn : n ≤ w.length) :
    Yields crc32 ⟨maximumEnvelope, w⟩ ⟨maximumEnvelope, w.drop n⟩
      (frameOutcome crc32 (w.take n)).toList := by
  have hlt : 8 < n := (frames crc32 maximumEnvelope).size_lt h
  refine ⟨rfl, by simp, fun v => Framing.scan_frame ?_ hn v⟩
  rw [header_frames (by omega), h]

/-- The outcome of a frame, by the words that the parser reads. -/
lemma frameOutcome_take {length : ℕ} (hl : length = (get32 w 4).toNat) :
    frameOutcome crc32 (w.take (8 + length + 4)) =
      if get32 w (8 + length) ≠ crc32 ((w.drop 8).take length) then none
      else some (match validateEnvelope crc32 ((w.drop 8).take length) with
        | .error message => .error message
        | .ok _ => .ok ((w.drop 8).take length)) := by
  have hword : get32 (w.take (8 + length + 4)) 4 = get32 w 4 := get32_take w (by omega)
  have hcrc : get32 (w.take (8 + length + 4)) (8 + length) = get32 w (8 + length) :=
    get32_take w (by omega)
  have henv : ((w.take (8 + length + 4)).drop 8).take length = (w.drop 8).take length := by
    rw [List.drop_take, List.take_take, min_eq_left (by omega)]
  rw [frameOutcome, hword, ← hl, hcrc, henv]

/-- Every exit of a turn; `go` is what is known of the turns that follow. -/
lemma feedTurn_spec {fuel : ℕ} {envelopes : List (List UInt8)} {rest : List UInt8}
    (hw : w = 0x4c :: 0x53 :: rest) (hfuel : w.length ≤ fuel)
    (go : ∀ (envelopes : List (List UInt8)) (buffer : List UInt8), buffer.length < fuel →
      Sat (feedLoop crc32 fuel envelopes) ⟨maximumEnvelope, buffer⟩
        (fun l parser' => LoopReturned crc32 ⟨maximumEnvelope, buffer⟩ envelopes l parser')
        (fun message parser' => LoopRaised crc32 ⟨maximumEnvelope, buffer⟩ message parser')) :
    Sat (feedTurn crc32 maximumEnvelope w envelopes (feedLoop crc32 fuel)) ⟨maximumEnvelope, w⟩
      (fun l parser' => LoopReturned crc32 ⟨maximumEnvelope, w⟩ envelopes l parser')
      (fun message parser' => LoopRaised crc32 ⟨maximumEnvelope, w⟩ message parser') := by
  have htotal : frameTotal maximumEnvelope w = _ := frameTotal_of_marker hw
  have hstay : AtRest crc32 ⟨maximumEnvelope, w⟩ →
      LoopReturned crc32 ⟨maximumEnvelope, w⟩ envelopes envelopes ⟨maximumEnvelope, w⟩ :=
    fun h => ⟨[], by simp, h, rfl, le_rfl, fun v => rfl⟩
  rw [feedTurn]
  refine .ite (fun hshort => .pure (hstay (Framing.scan_short hshort))) fun hlong => ?_
  have hlong := not_lt.mp hlong
  rw [sat_ite]
  constructor
  · intro hrefused
    rw [if_pos hrefused] at htotal
    have hy : Yields crc32 ⟨maximumEnvelope, w⟩ ⟨maximumEnvelope, w.drop 1⟩
        (([] : List (List UInt8)).map .ok) := by
      subst hw
      exact yields_of_refused htotal hlong
    rw [sat_bind, setBuffer, sat_modify]
    refine (go envelopes (w.drop 1) (by rw [List.length_drop]; omega)).mono (fun _ _ h => ?_)
      (fun _ _ h => hy.raised h)
    exact hy.returned (by simpa using h)
  · intro haccepted
    rw [if_neg haccepted] at htotal
    refine .ite (fun hpart => .pure (hstay ?_)) fun hwhole => ?_
    · exact Framing.scan_incomplete (by rw [header_frames hlong, htotal]) hpart
    have hwhole := not_lt.mp hwhole
    have hy : Yields crc32 _ _ _ := yields_of_frame htotal hwhole
    rw [frameOutcome_take rfl] at hy
    have hless : (w.drop (8 + (get32 w 4).toNat + 4)).length < w.length := by
      rw [List.length_drop]
      omega
    rw [sat_bind, setBuffer, sat_modify, sat_ite]
    constructor
    · intro hcrc
      rw [if_pos hcrc] at hy
      refine (go envelopes _ (hless.trans_le hfuel)).mono (fun _ _ h => ?_)
        (fun _ _ h => Yields.raised (g := []) hy h)
      exact Yields.returned (g := []) hy (by simpa using h)
    · intro hcrc
      rw [if_neg hcrc] at hy
      cases hv : validateEnvelope crc32 ((w.drop 8).take (get32 w 4).toNat) with
      | error message =>
          rw [hv] at hy
          exact .throw ⟨[], hless, hy⟩
      | ok info =>
          rw [hv] at hy
          exact (go _ _ (hless.trans_le hfuel)).mono
            (fun _ _ h => Yields.returned (g := [(w.drop 8).take (get32 w 4).toNat]) hy h)
            (fun _ _ h => Yields.raised (g := [(w.drop 8).take (get32 w 4).toNat]) hy h)

/-- **Every exit of the loop.** -/
lemma feedLoop_spec (fuel : ℕ) (envelopes : List (List UInt8)) (buffer : List UInt8)
    (hfuel : buffer.length < fuel) :
    Sat (feedLoop crc32 fuel envelopes) ⟨maximumEnvelope, buffer⟩
      (fun l parser' => LoopReturned crc32 ⟨maximumEnvelope, buffer⟩ envelopes l parser')
      (fun message parser' => LoopRaised crc32 ⟨maximumEnvelope, buffer⟩ message parser') := by
  induction fuel generalizing envelopes buffer with
  | zero => omega
  | succ fuel ih =>
      rw [feedLoop, sat_bind, sat_get]
      cases hm : findMarker buffer with
      | none =>
          dsimp only
          rw [sat_bind, setBuffer, sat_modify, sat_pure]
          exact ⟨[], by simp, yields_of_no_marker hm⟩
      | some marker =>
          dsimp only
          have hy : Yields crc32 ⟨maximumEnvelope, buffer⟩ ⟨maximumEnvelope, buffer.drop marker⟩
              (([] : List (List UInt8)).map .ok) := yields_of_marker hm
          obtain ⟨rest, hw⟩ := exists_of_marker hm
          have hlen : (buffer.drop marker).length ≤ buffer.length := hy.length_le
          generalize buffer.drop marker = w at hw hy hlen
          rw [sat_bind, setBuffer, sat_modify]
          refine (feedTurn_spec hw (by omega) ih).mono (fun _ _ h => ?_) (fun _ _ h => hy.raised h)
          exact hy.returned (by simpa using h)

/-- **Every exit of `feed`.** -/
lemma feed_spec (chunk : List UInt8) (parser : StreamParser) :
    Sat (feed crc32 chunk) parser
      (fun l parser' => AtRest crc32 parser' ∧
        Yields crc32 ⟨parser.maximumEnvelope, parser.buffer ++ chunk⟩ parser' (l.map .ok))
      (fun message parser' =>
        LoopRaised crc32 ⟨parser.maximumEnvelope, parser.buffer ++ chunk⟩ message parser') := by
  rw [feed, sat_bind, sat_get, sat_bind, setBuffer, sat_modify]
  refine (feedLoop_spec _ _ _ (by rw [List.length_append]; omega)).mono fun l _ h => ?_
  obtain ⟨goods, rfl, hrest, hy⟩ := h
  exact ⟨hrest, hy⟩

end

/-! ### What a caller receives -/

/-- There is an invalid envelope among the outcomes. -/
def hasError (l : List Outcome) : Bool :=
  l.any fun
    | .error _ => true
    | .ok _ => false

/-- The valid envelopes. -/
def valid : List Outcome → List (List UInt8)
  | [] => []
  | .error _ :: l => valid l
  | .ok envelope :: l => envelope :: valid l

/-- The valid envelopes before the last invalid one. -/
def beforeError : List Outcome → List (List UInt8)
  | [] => []
  | .error _ :: l => beforeError l
  | .ok envelope :: l => if hasError l then envelope :: beforeError l else []

/-- The valid envelopes behind the last invalid one. -/
def behindErrors : List Outcome → List (List UInt8)
  | [] => []
  | .error _ :: l => behindErrors l
  | .ok envelope :: l => if hasError l then behindErrors l else envelope :: behindErrors l

section Outcomes

variable {l : List Outcome}

lemma beforeError_of_not_hasError (h : hasError l = false) : beforeError l = [] := by
  cases l with
  | nil => rfl
  | cons o l =>
      cases o with
      | error m => simp [hasError] at h
      | ok e =>
          have hl : hasError l = false := by simpa [hasError] using h
          rw [beforeError, hl]
          rfl

lemma valid_eq_append (l : List Outcome) : valid l = beforeError l ++ behindErrors l := by
  induction l with
  | nil => rfl
  | cons o l ih =>
      cases o with
      | error m => exact ih
      | ok e =>
          rw [valid, beforeError, behindErrors, ih]
          cases h : hasError l with
          | true => rfl
          | false => simp [beforeError_of_not_hasError h]

lemma hasError_map_ok_append (g : List (List UInt8)) (l : List Outcome) :
    hasError (g.map .ok ++ l) = hasError l := by
  induction g with
  | nil => rfl
  | cons e g ih => simp [hasError]

lemma beforeError_append (g : List (List UInt8)) (l : List Outcome) :
    beforeError (g.map .ok ++ l) = (if hasError l then g else []) ++ beforeError l := by
  induction g with
  | nil => simp
  | cons e g ih =>
      rw [List.map_cons, List.cons_append, beforeError, hasError_map_ok_append, ih]
      cases h : hasError l with
      | true => rfl
      | false => simp [beforeError_of_not_hasError h]

lemma behindErrors_append (g : List (List UInt8)) (l : List Outcome) :
    behindErrors (g.map .ok ++ l) = (if hasError l then [] else g) ++ behindErrors l := by
  induction g with
  | nil => simp
  | cons e g ih =>
      rw [List.map_cons, List.cons_append, behindErrors, hasError_map_ok_append, ih]
      cases h : hasError l <;> rfl

lemma valid_append (l l' : List Outcome) : valid (l ++ l') = valid l ++ valid l' := by
  induction l with
  | nil => rfl
  | cons o l ih => cases o <;> simp [valid, ih]

lemma valid_map_ok (g : List (List UInt8)) : valid (g.map .ok) = g := by
  induction g with
  | nil => rfl
  | cons e g ih => simp [valid, ih]

lemma hasError_of_error (pre post : List Outcome) (message : String) :
    hasError (pre ++ .error message :: post) = true := by
  simp [hasError]

lemma beforeError_of_error (pre post : List Outcome) (message : String) :
    beforeError (pre ++ .error message :: post) = valid pre ++ beforeError post := by
  induction pre with
  | nil => rfl
  | cons o pre ih =>
      cases o with
      | error m => exact ih
      | ok e => rw [List.cons_append, beforeError, hasError_of_error, if_pos rfl, ih, valid,
          List.cons_append]

lemma exists_last_error (h : hasError l = true) :
    ∃ pre message post, l = pre ++ .error message :: post ∧ hasError post = false := by
  induction l with
  | nil => cases h
  | cons o l ih =>
      cases hl : hasError l with
      | true =>
          obtain ⟨pre, m, post, rfl, hpost⟩ := ih hl
          exact ⟨o :: pre, m, post, rfl, hpost⟩
      | false =>
          cases o with
          | error m => exact ⟨[], m, l, rfl, hl⟩
          | ok e =>
              have : hasError l = true := by simpa [hasError] using h
              rw [hl] at this
              cases this

lemma valid_eq_nil_iff : valid l = [] ↔ ∀ envelope, .ok envelope ∉ l := by
  induction l with
  | nil => simp [valid]
  | cons o l ih =>
      cases o with
      | error m => simpa [valid] using ih
      | ok e =>
          refine iff_of_false (List.cons_ne_nil _ _) fun h => ?_
          exact h e List.mem_cons_self

/-- There is no valid envelope before an invalid one. -/
lemma beforeError_eq_nil_iff : beforeError l = [] ↔
    ∀ pre message post, l = pre ++ .error message :: post → ∀ envelope, .ok envelope ∉ pre := by
  constructor
  · rintro h pre message post rfl
    rw [beforeError_of_error, List.append_eq_nil_iff] at h
    exact valid_eq_nil_iff.mp h.1
  · intro h
    cases hl : hasError l with
    | false => exact beforeError_of_not_hasError hl
    | true =>
        obtain ⟨pre, message, post, rfl, hpost⟩ := exists_last_error hl
        rw [beforeError_of_error, valid_eq_nil_iff.mpr (h pre message post rfl),
          beforeError_of_not_hasError hpost, List.append_nil]

end Outcomes

section Received

variable {crc32 : List UInt8 → UInt32}

/-- A call that returns, in terms of the whole stream. -/
lemma scan_of_feed_ok {chunk : List UInt8} {parser parser' : StreamParser}
    {l : List (List UInt8)} (h : feed crc32 chunk parser = .ok l parser') (v : List UInt8) :
    AtRest crc32 parser' ∧
      (frames crc32 parser.maximumEnvelope).scan (parser.buffer ++ (chunk ++ v)) =
        l.map .ok ++ (frames crc32 parser'.maximumEnvelope).scan (parser'.buffer ++ v) := by
  obtain ⟨hrest, hy⟩ := sat_of_ok (feed_spec chunk parser) h
  rw [hy.maximum, ← List.append_assoc]
  exact ⟨hrest, hy.scan v⟩

/-- A call that raises an error, in terms of the whole stream. -/
lemma scan_of_feed_error {chunk : List UInt8} {parser parser' : StreamParser} {message : String}
    (h : feed crc32 chunk parser = .error message parser') :
    parser'.buffer.length < parser.buffer.length + chunk.length ∧ ∃ goods : List (List UInt8),
      ∀ v, (frames crc32 parser.maximumEnvelope).scan (parser.buffer ++ (chunk ++ v)) =
        goods.map .ok ++ .error message ::
          (frames crc32 parser'.maximumEnvelope).scan (parser'.buffer ++ v) := by
  obtain ⟨goods, hlt, hy⟩ := sat_of_error (feed_spec chunk parser) h
  rw [List.length_append] at hlt
  refine ⟨hlt, goods, fun v => ?_⟩
  rw [hy.maximum, ← List.append_assoc, hy.scan, List.append_assoc]
  rfl

lemma drain_atRest (fuel : ℕ) {parser : StreamParser} (h : AtRest crc32 parser) :
    drain crc32 fuel parser = [] := by
  have hscan : (frames crc32 parser.maximumEnvelope).scan (parser.buffer ++ ([] ++ [])) = [] := by
    rw [List.append_nil, List.append_nil]
    exact h
  cases fuel with
  | zero => rfl
  | succ fuel =>
      rw [drain]
      cases hf : feed crc32 [] parser with
      | ok l parser' =>
          rw [(scan_of_feed_ok hf []).2, List.append_eq_nil_iff, List.map_eq_nil_iff] at hscan
          rw [hscan.1]
      | error message parser' =>
          obtain ⟨-, goods, hy⟩ := scan_of_feed_error hf
          rw [hy []] at hscan
          simp at hscan

lemma drain_eq (fuel : ℕ) (parser : StreamParser) (hfuel : parser.buffer.length < fuel) :
    drain crc32 fuel parser =
      behindErrors ((frames crc32 parser.maximumEnvelope).scan parser.buffer) := by
  induction fuel generalizing parser with
  | zero => omega
  | succ fuel ih =>
      rw [drain]
      cases hf : feed crc32 [] parser with
      | ok l parser' =>
          obtain ⟨hrest, hy⟩ := scan_of_feed_ok hf []
          have hscan : (frames crc32 parser.maximumEnvelope).scan parser.buffer =
              l.map .ok ++ [] := by
            rw [AtRest] at hrest
            simpa [hrest] using hy
          rw [hscan, behindErrors_append]
          cases l with
          | nil => rfl
          | cons e l =>
              dsimp only
              rw [drain_atRest fuel hrest]
              rfl
      | error message parser' =>
          obtain ⟨hlt, goods, hy⟩ := scan_of_feed_error hf
          have hscan := hy []
          rw [List.append_nil, List.append_nil, List.append_nil] at hscan
          rw [List.length_nil] at hlt
          dsimp only
          rw [hscan, ih parser' (by omega), behindErrors_append]
          rfl

/-- **What a caller receives**: everything that is valid behind the last invalid envelope, and
before it some of the valid envelopes. -/
lemma receivedFrom_eq (chunks : List (List UInt8)) (parser : StreamParser) :
    ∃ kept, kept.Sublist (beforeError
        ((frames crc32 parser.maximumEnvelope).scan (parser.buffer ++ chunks.flatten))) ∧
      receivedFrom crc32 chunks parser = kept ++ behindErrors
        ((frames crc32 parser.maximumEnvelope).scan (parser.buffer ++ chunks.flatten)) := by
  induction chunks generalizing parser with
  | nil =>
      refine ⟨[], List.nil_sublist _, ?_⟩
      rw [receivedFrom, List.flatten_nil, List.append_nil]
      exact drain_eq _ _ (by omega)
  | cons chunk chunks ih =>
      rw [receivedFrom, List.flatten_cons]
      cases hf : feed crc32 chunk parser with
      | ok l parser' =>
          obtain ⟨kept, hsub, hkept⟩ := ih parser'
          rw [(scan_of_feed_ok hf _).2, beforeError_append, behindErrors_append]
          dsimp only
          rw [hkept]
          cases herr : hasError
              ((frames crc32 parser'.maximumEnvelope).scan (parser'.buffer ++ chunks.flatten)) with
          | true => exact ⟨l ++ kept, hsub.append_left l, by simp⟩
          | false =>
              rw [beforeError_of_not_hasError herr, List.sublist_nil] at hsub
              exact ⟨[], List.nil_sublist _, by simp [hsub]⟩
      | error message parser' =>
          obtain ⟨kept, hsub, hkept⟩ := ih parser'
          obtain ⟨-, goods, hy⟩ := scan_of_feed_error hf
          rw [hy, beforeError_of_error, behindErrors_append]
          exact ⟨kept, hsub.trans (List.sublist_append_right _ _), hkept⟩

variable {maximumEnvelope : ℕ}

variable (crc32 maximumEnvelope) in
lemma received_eq (chunks : List (List UInt8)) :
    ∃ kept, kept.Sublist (beforeError ((frames crc32 maximumEnvelope).scan chunks.flatten)) ∧
      received crc32 maximumEnvelope chunks =
        kept ++ behindErrors ((frames crc32 maximumEnvelope).scan chunks.flatten) :=
  receivedFrom_eq chunks ⟨maximumEnvelope, []⟩

/-- In one chunk all that stands before an invalid envelope is lost. -/
lemma received_whole (w : List UInt8) :
    received crc32 maximumEnvelope [w] = behindErrors ((frames crc32 maximumEnvelope).scan w) := by
  rw [received, receivedFrom]
  cases hf : feed crc32 w ⟨maximumEnvelope, []⟩ with
  | ok l parser' =>
      obtain ⟨hrest, hy⟩ := scan_of_feed_ok hf []
      have hscan : (frames crc32 maximumEnvelope).scan w = l.map .ok ++ [] := by
        rw [AtRest] at hrest
        simpa [hrest] using hy
      dsimp only
      rw [receivedFrom, drain_atRest _ hrest, hscan, behindErrors_append]
      rfl
  | error message parser' =>
      obtain ⟨-, goods, hy⟩ := scan_of_feed_error hf
      have hscan := hy []
      rw [List.append_nil, List.append_nil, List.nil_append] at hscan
      dsimp only
      rw [receivedFrom, drain_eq _ _ (Nat.lt_succ_self _), hscan, behindErrors_append]
      rfl

/-- Byte by byte nothing is lost: no call meets more than one frame. -/
lemma receivedFrom_bytes (w : List UInt8) {parser : StreamParser} (hrest : AtRest crc32 parser) :
    receivedFrom crc32 (w.map fun x => [x]) parser =
      valid ((frames crc32 parser.maximumEnvelope).scan (parser.buffer ++ w)) := by
  induction w generalizing parser with
  | nil =>
      rw [List.map_nil, receivedFrom, drain_atRest _ hrest, List.append_nil, hrest]
      rfl
  | cons x w ih =>
      have hone := Framing.scan_snoc_length_le hrest x
      have hsplit : parser.buffer ++ x :: w = parser.buffer ++ ([x] ++ w) := rfl
      have hstep : parser.buffer ++ [x] = parser.buffer ++ ([x] ++ []) := rfl
      rw [List.map_cons, receivedFrom, hsplit]
      rw [hstep] at hone
      cases hf : feed crc32 [x] parser with
      | ok l parser' =>
          rw [(scan_of_feed_ok hf w).2, valid_append, valid_map_ok]
          exact congrArg (l ++ ·) (ih (scan_of_feed_ok hf []).1)
      | error message parser' =>
          obtain ⟨-, goods, hy⟩ := scan_of_feed_error hf
          rw [hy, List.length_append, List.length_cons, List.append_nil] at hone
          rw [List.length_map] at hone
          have hgoods : goods = [] := List.length_eq_zero_iff.mp (by omega)
          have hrest' : AtRest crc32 parser' := by
            rw [AtRest, ← List.length_eq_zero_iff]
            omega
          rw [hy, hgoods]
          exact ih hrest'

lemma received_bytes (w : List UInt8) :
    received crc32 maximumEnvelope (w.map fun x => [x]) =
      valid ((frames crc32 maximumEnvelope).scan w) :=
  receivedFrom_bytes w (Framing.scan_nil _)

/-- **The chunks do not matter** to what a caller receives of a stream, exactly if the stream
has no valid envelope before an invalid one in a frame with the right CRC. -/
theorem chunking_irrelevant_iff (crc32 : List UInt8 → UInt32) (maximumEnvelope : ℕ)
    (stream : List UInt8) :
    (∀ chunks chunks' : List (List UInt8), chunks.flatten = stream → chunks'.flatten = stream →
      received crc32 maximumEnvelope chunks = received crc32 maximumEnvelope chunks') ↔
    ∀ pre message post, (frames crc32 maximumEnvelope).scan stream = pre ++ .error message :: post →
      ∀ envelope, .ok envelope ∉ pre := by
  rw [← beforeError_eq_nil_iff]
  constructor
  · intro h
    have hflat : (stream.map fun x => [x]).flatten = stream := by
      rw [← List.flatMap_def]
      exact List.flatMap_singleton' stream
    have heq := h [stream] (stream.map fun x => [x]) (by simp) hflat
    rw [received_whole, received_bytes, valid_eq_append] at heq
    simpa using heq
  · rintro h chunks chunks' rfl hflat
    have hall : ∀ cs : List (List UInt8), cs.flatten = chunks.flatten →
        received crc32 maximumEnvelope cs =
          behindErrors ((frames crc32 maximumEnvelope).scan chunks.flatten) := by
      intro cs hcs
      obtain ⟨kept, hsub, hkept⟩ := received_eq crc32 maximumEnvelope cs
      rw [hcs, h, List.sublist_nil] at hsub
      rw [hkept, hsub, hcs, List.nil_append]
    rw [hall chunks rfl, hall chunks' hflat]

/-- **An invalid envelope takes a valid one with it.** The frames of the test vector and of one
byte that is no envelope, in one chunk and in two. -/
theorem envelope_lost_in_one_chunk :
    received lsCrc32 4096 [Transport.frame basicVector ++ Transport.frame [0]] = [] ∧
      received lsCrc32 4096 [Transport.frame basicVector, Transport.frame [0]] = [basicVector] := by
  decide +kernel

end Received

end Latch.Collector
