
/-
The run-length codec of `src/envelope/compression.c`.

A compressed string is a sequence of tokens: a byte that is repeated, or up to 128 bytes as they
are. The compressor takes a run of three and more for the first kind, and collects what is
between such runs for the second.

* `Token`: the tokens, with the bounds that their control byte sets;
* `rleTokens`: the tokens of an input; `decoded_rleTokens` says that they stand for it, and
  `size_rleTokens` that they cost one byte in 127 at most;
* `sat_decompress_token`: the decompressor takes one token, or reports that there is no room;
* `rle_codec`: round trip, expansion, bounds and truncated strings.
-/
import Latch.Envelope.Delta

namespace Latch

open Codec Exec

variable {input : List UInt8}

/-! ### The functions -/

/-- The length of a run of the byte `first`, of which `run` bytes have been seen. -/
def runFrom (first : UInt8) : List UInt8 → ℕ → ℕ
  | [], run => run
  | b :: input, run => if b = first ∧ run < 128 then runFrom first input (run + 1) else run

/-- The length of the run at the start of the input. -/
def runLength : List UInt8 → ℕ
  | [] => 0
  | b :: input => runFrom b input 1

lemma le_runFrom (first : UInt8) (input : List UInt8) (run : ℕ) :
    run ≤ runFrom first input run := by
  induction input generalizing run with
  | nil => exact le_rfl
  | cons b input ih =>
      rw [runFrom]
      split
      · exact (Nat.le_succ run).trans (ih (run + 1))
      · exact le_rfl

lemma runLength_pos (h : input ≠ []) : 0 < runLength input := by
  cases input with
  | nil => exact absurd rfl h
  | cons b input => exact le_runFrom b input 1

/-- How many bytes go into a literal token that has `taken` so far. -/
def literalFrom (input : List UInt8) (taken : ℕ) : ℕ :=
  if h : input = [] then taken
  else if 3 ≤ runLength input ∨ 128 < taken + runLength input then taken
  else literalFrom (input.drop (runLength input)) (taken + runLength input)
termination_by input.length
decreasing_by
  have hpos := runLength_pos h
  have hlen := List.length_pos_of_ne_nil h
  rw [List.length_drop]
  omega

/-- The length of the literal token at the start of the input. -/
def literalLength (input : List UInt8) : ℕ :=
  literalFrom (input.drop (runLength input)) (runLength input)

lemma le_literalFrom (input : List UInt8) (taken : ℕ) : taken ≤ literalFrom input taken := by
  fun_induction literalFrom input taken with
  | case1 => exact le_rfl
  | case2 => exact le_rfl
  | case3 _ _ _ _ ih => omega

lemma literalLength_pos (h : input ≠ []) : 0 < literalLength input :=
  (runLength_pos h).trans_le (le_literalFrom _ _)

/-- The loop of `ls_rle_compress`. -/
def compressFrom (capacity : ℕ) (input : List UInt8) : CodecM Errno UInt8 Unit :=
  if h : input = [] then pure ()
  else if 3 ≤ runLength input then do
    let out ← get
    if capacity - out.length < 2 then throw (.fail .enospace)
    else do
      append capacity (0x80 ||| UInt8.ofNat (runLength input - 1))
      append capacity (← readAt input 0)
      compressFrom capacity (input.drop (runLength input))
  else do
    let out ← get
    if capacity - out.length < literalLength input + 1 then throw (.fail .enospace)
    else do
      append capacity (UInt8.ofNat (literalLength input - 1))
      copyFrom input capacity (literalLength input) 0
      compressFrom capacity (input.drop (literalLength input))
termination_by input.length
decreasing_by
  · have hlen := List.length_pos_of_ne_nil h
    rw [List.length_drop]
    omega
  · have hpos := literalLength_pos h
    have hlen := List.length_pos_of_ne_nil h
    rw [List.length_drop]
    omega

/-- `ls_rle_compress`. -/
def lsRleCompress (input : List UInt8) (capacity : ℕ) : Except (Stop Errno) (List UInt8) :=
  runOn (compressFrom capacity input)

/-- The loop of `ls_rle_decompress`, from the index `i` on. -/
def decompressFrom (input : List UInt8) (capacity i : ℕ) : CodecM Errno UInt8 Unit :=
  if i < input.length then do
    let control ← readAt input i
    let out ← get
    let count := (control &&& 0x7f).toNat + 1
    if control &&& 0x80 ≠ 0 then
      if input.length ≤ i + 1 then throw (.fail .ecorrupt)
      else if capacity - out.length < count then throw (.fail .enospace)
      else do
        let value ← readAt input (i + 1)
        appendAll capacity (List.replicate count value)
        decompressFrom input capacity (i + 2)
    else if input.length - (i + 1) < count then throw (.fail .ecorrupt)
    else if capacity - out.length < count then throw (.fail .enospace)
    else do
      copyFrom input capacity count (i + 1)
      decompressFrom input capacity (i + 1 + count)
  else pure ()
termination_by input.length - i

/-- `ls_rle_decompress`. -/
def lsRleDecompress (input : List UInt8) (capacity : ℕ) : Except (Stop Errno) (List UInt8) :=
  runOn (decompressFrom input capacity 0)

/-! ### Tokens -/

/-- A token: a byte that is repeated, or some bytes as they are. -/
inductive Token where
  | run (count : ℕ) (value : UInt8) (pos : 0 < count) (le : count ≤ 128)
  | literal (l : List UInt8) (pos : 0 < l.length) (le : l.length ≤ 128)

/-- The bytes of a token. -/
def Token.bytes : Token → List UInt8
  | .run count value _ _ => [0x80 ||| UInt8.ofNat (count - 1), value]
  | .literal l _ _ => UInt8.ofNat (l.length - 1) :: l

/-- What a token stands for. -/
def Token.decoded : Token → List UInt8
  | .run count value _ _ => List.replicate count value
  | .literal l _ _ => l

/-- The bytes of a sequence of tokens. -/
def tokenBytes (ts : List Token) : List UInt8 := ts.flatMap Token.bytes

variable (t : Token) (ts : List Token)

@[simp] lemma tokenBytes_nil : tokenBytes [] = [] := rfl

@[simp] lemma tokenBytes_cons :
    tokenBytes (t :: ts) = t.bytes ++ tokenBytes ts := List.flatMap_cons

/-- What a sequence of tokens stands for. -/
def tokenText (ts : List Token) : List UInt8 := ts.flatMap Token.decoded

@[simp] lemma tokenText_nil : tokenText [] = [] := rfl

@[simp] lemma tokenText_cons :
    tokenText (t :: ts) = t.decoded ++ tokenText ts := List.flatMap_cons

section

variable (input : List UInt8)

/-- A run is of one byte, within the input, and ends at 128. -/
lemma runFrom_spec (first : UInt8) (input : List UInt8) {run : ℕ} (h : run ≤ 128) :
    ∃ k ≤ input.length, runFrom first input run = run + k ∧ run + k ≤ 128 ∧
      input.take k = List.replicate k first := by
  induction input generalizing run with
  | nil => exact ⟨0, le_rfl, rfl, h, rfl⟩
  | cons b input ih =>
      rw [runFrom]
      split
      · rename_i hmore
        obtain ⟨k, hk, hrun, hle, htake⟩ := @ih (run + 1) hmore.2
        refine ⟨k + 1, Nat.succ_le_succ hk, by omega, by omega, ?_⟩
        rw [List.take_succ_cons, htake, hmore.1]
        rfl
      · exact ⟨0, Nat.zero_le _, rfl, h, rfl⟩

/-- The run at the start of an input. -/
lemma runLength_spec (b : UInt8) (input : List UInt8) :
    runLength (b :: input) ≤ (b :: input).length ∧ runLength (b :: input) ≤ 128 ∧
      (b :: input).take (runLength (b :: input)) = List.replicate (runLength (b :: input)) b := by
  obtain ⟨k, hk, hrun, hle, htake⟩ := @runFrom_spec b input 1 (by decide)
  rw [runLength, hrun, Nat.add_comm 1 k]
  refine ⟨Nat.succ_le_succ hk, by omega, ?_⟩
  rw [List.take_succ_cons, htake]
  rfl

lemma runLength_le : runLength input ≤ input.length := by
  cases input with
  | nil => exact le_rfl
  | cons b input => exact (runLength_spec b input).1

/-- Where a literal token ends: at the end of the input, at 127 bytes or more, or at a run. -/
lemma literalFrom_spec {taken : ℕ} (h : taken ≤ 128) :
    ∃ k ≤ input.length, literalFrom input taken = taken + k ∧ taken + k ≤ 128 ∧
      (input.drop k = [] ∨ 127 ≤ taken + k ∨ 3 ≤ runLength (input.drop k)) := by
  fun_induction literalFrom input taken with
  | case1 taken => exact ⟨0, le_rfl, rfl, h, .inl rfl⟩
  | case2 input taken hne hstop =>
      refine ⟨0, Nat.zero_le _, rfl, h, ?_⟩
      rw [List.drop_zero, Nat.add_zero]
      by_cases hrun : 3 ≤ runLength input
      · exact .inr (.inr hrun)
      · exact .inr (.inl (by omega))
  | case3 input taken hne hgo ih =>
      obtain ⟨k, hk, heq, hle, hend⟩ := ih (by omega)
      have hrun := runLength_le input
      rw [List.length_drop] at hk
      refine ⟨runLength input + k, by omega, by omega, by omega, ?_⟩
      rw [List.drop_drop, Nat.add_assoc] at hend
      exact hend

/-- The literal token at the start of an input. -/
lemma literalLength_spec {input : List UInt8} (h : runLength input ≤ 128) :
    literalLength input ≤ input.length ∧ literalLength input ≤ 128 ∧
      (input.drop (literalLength input) = [] ∨ 127 ≤ literalLength input ∨
        3 ≤ runLength (input.drop (literalLength input))) := by
  obtain ⟨k, hk, heq, hle, hend⟩ := literalFrom_spec (input.drop (runLength input)) h
  have hrun := runLength_le input
  rw [List.length_drop] at hk
  rw [List.drop_drop] at hend
  rw [literalLength, heq]
  exact ⟨by omega, hle, hend⟩

lemma runLength_le_max : runLength input ≤ 128 := by
  cases input with
  | nil => exact Nat.zero_le _
  | cons b input => exact (runLength_spec b input).2.1

end

/-- The tokens of an input. -/
def rleTokens (input : List UInt8) : List Token :=
  if h : input = [] then []
  else if 3 ≤ runLength input then
    .run (runLength input) (input.head h) (runLength_pos h) (runLength_le_max input) ::
      rleTokens (input.drop (runLength input))
  else
    .literal (input.take (literalLength input))
      (by
        have hpos := literalLength_pos h
        have hlen := List.length_pos_of_ne_nil h
        rw [List.length_take]
        omega)
      (by
        have hle := (literalLength_spec (runLength_le_max input)).2.1
        rw [List.length_take]
        omega) ::
      rleTokens (input.drop (literalLength input))
termination_by input.length
decreasing_by
  · have hlen := List.length_pos_of_ne_nil h
    rw [List.length_drop]
    omega
  · have hpos := literalLength_pos h
    have hlen := List.length_pos_of_ne_nil h
    rw [List.length_drop]
    omega

section Compress

/-- The tokens of an input stand for it. -/
lemma tokenText_rleTokens (input : List UInt8) : tokenText (rleTokens input) = input := by
  fun_induction rleTokens input with
  | case1 => rfl
  | case2 input hne hrun ih =>
      cases input with
      | nil => exact absurd rfl hne
      | cons b input =>
          rw [tokenText_cons, ih, Token.decoded, List.head_cons, ← (runLength_spec b input).2.2]
          exact List.take_append_drop _ _
  | case3 input hne hrun ih =>
      rw [tokenText_cons, ih]
      exact List.take_append_drop _ _

/-- **The cost of the tokens**: one byte in 127 at most. -/
lemma size_rleTokens (input : List UInt8) :
    (tokenBytes (rleTokens input)).length ≤ input.length + (input.length + 126) / 127 := by
  induction hn : input.length using Nat.strong_induction_on generalizing input with
  | _ n ih =>
      -- a run of three and more does not cost anything
      have hshort : ∀ l : List UInt8, l.length ≤ n → 3 ≤ runLength l →
          (tokenBytes (rleTokens l)).length + 1 ≤ l.length + (l.length + 126) / 127 := by
        intro l hl hrun
        have hne : l ≠ [] := by
          rintro rfl
          cases hrun
        have hle := runLength_le l
        have hrest := ih (l.length - runLength l) (by omega) (l.drop (runLength l))
          (by rw [List.length_drop])
        rw [rleTokens, dif_neg hne, if_pos hrun, tokenBytes_cons, List.length_append]
        change 2 + _ + 1 ≤ _
        omega
      rw [rleTokens]
      split
      · simp
      · rename_i hne
        split
        · rename_i hrun
          have := hshort input (by omega) hrun
          rw [rleTokens, dif_neg hne, if_pos hrun] at this
          omega
        · have hpos := literalLength_pos hne
          obtain ⟨hle, -, hend⟩ := literalLength_spec (runLength_le_max input)
          have hdrop : (input.drop (literalLength input)).length = n - literalLength input := by
            rw [List.length_drop, hn]
          rw [tokenBytes_cons, List.length_append]
          change (input.take (literalLength input)).length + 1 + _ ≤ _
          rw [List.length_take, min_eq_left hle]
          obtain hend | hend | hend := hend
          · rw [hend, rleTokens, dif_pos rfl, tokenBytes_nil, List.length_nil]
            omega
          · have hrest := ih (n - literalLength input) (by omega) _ hdrop
            omega
          · have hrest := hshort _ (by omega) hend
            rw [hdrop] at hrest
            omega

/-- The compressor writes the tokens of its input where they fit. -/
lemma compressFrom_spec (capacity : ℕ) (input out : List UInt8) (hout : out.length ≤ capacity) :
    Sat (compressFrom capacity input) out
      (fun _ out' => out' = out ++ tokenBytes (rleTokens input))
      (fun _ _ => capacity < out.length + (tokenBytes (rleTokens input)).length) := by
  fun_induction rleTokens input generalizing out with
  | case1 =>
      rw [compressFrom, dif_pos rfl, sat_pure, tokenBytes_nil, List.append_nil]
  | case2 input hne hrun ih =>
      have hlen := List.length_pos_of_ne_nil hne
      rw [compressFrom, dif_neg hne, if_pos hrun, sat_bind, sat_get, sat_ite, tokenBytes_cons,
        List.length_append]
      refine ⟨fun hfull => .throw ?_, fun hroom => ?_⟩
      · change _ < _ + (2 + _)
        omega
      · rw [sat_bind, sat_append (by omega), sat_bind, sat_readAt hlen, sat_bind,
          sat_append (by rw [List.length_append, List.length_singleton]; omega)]
        have hhead : input.get ⟨0, hlen⟩ = input.head hne := (List.head_eq_getElem hne).symm
        refine (ih _ ?_).mono (fun _ out' h => ?_) (fun _ _ h => ?_)
        · rw [List.length_append, List.length_append, List.length_singleton, List.length_singleton]
          omega
        · rw [h, hhead, Token.bytes]
          simp
        · rw [List.length_append, List.length_append, List.length_singleton,
            List.length_singleton] at h
          change _ < _ + (2 + _)
          omega
  | case3 input hne hrun ih =>
      obtain ⟨hle, -, -⟩ := literalLength_spec (runLength_le_max input)
      have htake : (input.take (literalLength input)).length = literalLength input := by
        rw [List.length_take, min_eq_left hle]
      rw [compressFrom, dif_neg hne, if_neg hrun, sat_bind, sat_get, sat_ite, tokenBytes_cons,
        List.length_append, Token.bytes, List.length_cons, htake]
      refine ⟨fun hfull => .throw (by omega), fun hroom => ?_⟩
      rw [sat_bind, sat_append (by omega), sat_bind, sat_copyFrom (by omega)
        (by rw [List.length_append, List.length_singleton]; omega), List.drop_zero]
      refine (ih _ ?_).mono (fun _ out' h => ?_) (fun _ _ h => ?_)
      · rw [List.length_append, List.length_append, List.length_singleton, htake]
        omega
      · rw [h]
        simp
      · rw [List.length_append, List.length_append, List.length_singleton, htake] at h
        omega

end Compress

section Decompress

variable {input s out : List UInt8} {capacity : ℕ} {Q : Unit → List UInt8 → Prop}
  {H : Stop Errno → List UInt8 → Prop}

variable (pre : List UInt8) (t : Token)

variable {count k : ℕ} (ts : List Token)

lemma Token.length_bytes_pos : 0 < t.bytes.length := by
  cases t <;> exact Nat.succ_pos _

/-- What the control byte of a run says. -/
lemma run_control (hpos : 0 < count) (hle : count ≤ 128) :
    ((0x80 ||| UInt8.ofNat (count - 1)) &&& 0x7f).toNat + 1 = count ∧
      (0x80 ||| UInt8.ofNat (count - 1)) &&& 0x80 ≠ 0 := by
  have hbyte : (UInt8.ofNat (count - 1)).toNat = count - 1 := by
    rw [UInt8.toNat_ofNat']
    omega
  obtain ⟨hlow, hhigh, -⟩ := byte_parts (0x80 ||| UInt8.ofNat (count - 1))
  rw [UInt8.or_comm, toNat_mark (by omega), hbyte] at hlow hhigh
  rw [UInt8.or_comm]
  exact ⟨by omega, fun h => absurd (hhigh.mp h) (by omega)⟩

/-- What the control byte of a literal says. -/
lemma literal_control (hpos : 0 < count) (hle : count ≤ 128) :
    (UInt8.ofNat (count - 1) &&& 0x7f).toNat + 1 = count ∧
      UInt8.ofNat (count - 1) &&& 0x80 = 0 := by
  have hbyte : (UInt8.ofNat (count - 1)).toNat = count - 1 := by
    rw [UInt8.toNat_ofNat']
    omega
  obtain ⟨hlow, hhigh, -⟩ := byte_parts (UInt8.ofNat (count - 1))
  rw [hbyte] at hlow hhigh
  exact ⟨by omega, hhigh.mpr (by omega)⟩

/-- **One token**: the decompressor writes what it stands for, or reports that there is no room
for it. -/
lemma sat_decompress_token (hin : input = pre ++ (t.bytes ++ s)) :
    Sat (decompressFrom input capacity pre.length) out Q H ↔
      if capacity - out.length < t.decoded.length then H (.fail .enospace) out
      else Sat (decompressFrom input capacity (pre ++ t.bytes).length) (out ++ t.decoded) Q H := by
  cases t with
  | run count value hpos hle =>
      obtain ⟨hcount, hrun⟩ := run_control hpos hle
      have hlen : input.length = pre.length + (2 + s.length) := by
        rw [hin, List.length_append, List.length_append]
        rfl
      have hcontrol : input.get ⟨pre.length, by omega⟩ = 0x80 ||| UInt8.ofNat (count - 1) := by
        simp [hin, Token.bytes]
      have hvalue : input.get ⟨pre.length + 1, by omega⟩ = value := by
        simp [hin, Token.bytes]
      rw [decompressFrom, if_pos (by omega), sat_bind, sat_readAt (by omega), hcontrol, sat_bind,
        sat_get]
      dsimp only
      rw [if_pos hrun, hcount, if_neg (by omega), Token.decoded, List.length_replicate]
      split
      · exact sat_throw _
      · rw [sat_bind, sat_readAt (by omega), hvalue, sat_bind, sat_appendAll
          (by rw [List.length_replicate]; omega), List.length_append]
        rfl
  | literal l hpos hle =>
      obtain ⟨hcount, hliteral⟩ := literal_control hpos hle
      have hlen : input.length = pre.length + (l.length + 1 + s.length) := by
        rw [hin, List.length_append, List.length_append]
        rfl
      have hcontrol : input.get ⟨pre.length, by omega⟩ = UInt8.ofNat (l.length - 1) := by
        simp [hin, Token.bytes]
      have hcopied : (input.drop (pre.length + 1)).take l.length = l := by
        rw [hin, ← List.drop_drop, List.drop_left, Token.bytes, List.cons_append,
          List.drop_succ_cons, List.drop_zero, List.take_left]
      rw [decompressFrom, if_pos (by omega), sat_bind, sat_readAt (by omega), hcontrol, sat_bind,
        sat_get]
      dsimp only
      rw [if_neg (not_not_intro hliteral), hcount, if_neg (by omega), Token.decoded]
      split
      · exact sat_throw _
      · rw [sat_bind, sat_copyFrom (by omega) (by omega), hcopied, List.length_append, Token.bytes,
          List.length_cons, Nat.add_assoc, Nat.add_comm 1]

/-- The decompressor on tokens, in front of any bytes. -/
lemma sat_decompress_tokens
    (hin : input = pre ++ (tokenBytes ts ++ s)) (hout : out.length ≤ capacity)
    (hroom : out.length + (tokenText ts).length ≤ capacity →
      Sat (decompressFrom input capacity (pre ++ tokenBytes ts).length) (out ++ tokenText ts) Q H)
    (hfull : ∀ out', capacity < out.length + (tokenText ts).length → H (.fail .enospace) out') :
    Sat (decompressFrom input capacity pre.length) out Q H := by
  induction ts generalizing pre out with
  | nil => simpa using hroom (by simpa using hout)
  | cons t ts ih =>
      rw [tokenBytes_cons, List.append_assoc] at hin
      rw [tokenText_cons, List.length_append] at hroom hfull
      rw [sat_decompress_token pre t hin]
      split
      · exact hfull _ (by omega)
      · refine ih _ (by rw [hin, List.append_assoc]) (by rw [List.length_append]; omega)
          (fun hle => ?_) fun out' hlt => ?_
        · rw [List.length_append] at hle
          have hnext := hroom (by omega)
          rwa [tokenBytes_cons, ← List.append_assoc, ← List.append_assoc] at hnext
        · rw [List.length_append] at hlt
          exact hfull out' (by omega)

/-- A token that is cut off is rejected. -/
lemma sat_decompress_cut (hk : 0 < k)
    (hcut : k < t.bytes.length) (hin : input = pre ++ t.bytes.take k) :
    Sat (decompressFrom input capacity pre.length) out Q H ↔ H (.fail .ecorrupt) out := by
  have hlen : input.length = pre.length + k := by
    rw [hin, List.length_append, List.length_take, min_eq_left hcut.le]
  obtain ⟨j, rfl⟩ := Nat.exists_eq_succ_of_ne_zero hk.ne'
  cases t with
  | run count value hpos hle =>
      obtain ⟨-, hrun⟩ := run_control hpos hle
      have hcontrol : input.get ⟨pre.length, by omega⟩ = 0x80 ||| UInt8.ofNat (count - 1) := by
        simp [hin, Token.bytes]
      have hone : j = 0 := by
        change j + 1 < 2 at hcut
        omega
      rw [decompressFrom, if_pos (by omega), sat_bind, sat_readAt (by omega), hcontrol, sat_bind,
        sat_get]
      dsimp only
      rw [if_pos hrun, if_pos (by omega)]
      exact sat_throw _
  | literal l hpos hle =>
      obtain ⟨hcount, hliteral⟩ := literal_control hpos hle
      have hcontrol : input.get ⟨pre.length, by omega⟩ = UInt8.ofNat (l.length - 1) := by
        simp [hin, Token.bytes]
      have hshort : j < l.length := Nat.lt_of_succ_lt_succ hcut
      rw [decompressFrom, if_pos (by omega), sat_bind, sat_readAt (by omega), hcontrol, sat_bind,
        sat_get]
      dsimp only
      rw [if_neg (not_not_intro hliteral), hcount, if_pos (by omega)]
      exact sat_throw _

/-- The decompressor on whole tokens. -/
lemma lsRleDecompress_tokens (capacity : ℕ) :
    lsRleDecompress (tokenBytes ts) capacity =
      if (tokenText ts).length ≤ capacity then .ok (tokenText ts)
      else .error (.fail .enospace) := by
  have hend : Sat (decompressFrom (tokenBytes ts) capacity (tokenBytes ts).length) (tokenText ts)
      (fun _ out' => out' = tokenText ts) fun _ _ => False := by
    rw [decompressFrom, if_neg (lt_irrefl _)]
    exact .pure rfl
  split
  · rename_i hfits
    refine runOn_eq_ok (sat_decompress_tokens (s := []) [] ts (by simp) (Nat.zero_le _)
      (fun _ => hend) fun _ hlt => ?_)
    rw [List.length_nil] at hlt
    omega
  · rename_i hfull
    refine runOn_eq_error (sat_decompress_tokens (s := []) [] ts (by simp) (Nat.zero_le _)
      (fun hle => ?_) fun _ _ => rfl)
    rw [List.length_nil] at hle
    omega

/-- The decompressor on tokens of which the last is cut off. -/
lemma lsRleDecompress_cut (t : Token) (hk : 0 < k)
    (hcut : k < t.bytes.length) (capacity : ℕ) :
    lsRleDecompress (tokenBytes ts ++ t.bytes.take k) capacity =
      .error (.fail (if (tokenText ts).length ≤ capacity then .ecorrupt else .enospace)) := by
  refine runOn_eq_error (sat_decompress_tokens [] ts rfl (Nat.zero_le _) (fun hle => ?_)
    fun _ hlt => ?_)
  · rw [List.length_nil, Nat.zero_add] at hle
    rw [if_pos hle, List.nil_append, sat_decompress_cut (tokenBytes ts) t hk hcut rfl]
  · rw [List.length_nil, Nat.zero_add] at hlt
    rw [if_neg (by omega)]

/-- Every string consists of tokens, and of a last one that is cut off. -/
lemma exists_tokens (l : List UInt8) : (∃ ts, l = tokenBytes ts) ∨
    ∃ ts, ∃ t : Token, ∃ k, 0 < k ∧ k < t.bytes.length ∧ l = tokenBytes ts ++ t.bytes.take k := by
  induction hn : l.length using Nat.strong_induction_on generalizing l with
  | _ n ih =>
      -- a whole token in front of a shorter string
      have hstep : ∀ (t : Token) (s : List UInt8), l = t.bytes ++ s → (∃ ts, l = tokenBytes ts) ∨
          ∃ ts, ∃ t : Token, ∃ k, 0 < k ∧ k < t.bytes.length ∧
            l = tokenBytes ts ++ t.bytes.take k := by
        intro t s hl
        have hpos := t.length_bytes_pos
        have hlen : l.length = t.bytes.length + s.length := by rw [hl, List.length_append]
        obtain ⟨ts, hs⟩ | ⟨ts, t', k, hk, hcut, hs⟩ := ih s.length (by omega) s rfl
        · exact .inl ⟨t :: ts, by rw [hl, hs, tokenBytes_cons]⟩
        · exact .inr ⟨t :: ts, t', k, hk, hcut, by
            rw [hl, hs, tokenBytes_cons, List.append_assoc]⟩
      cases l with
      | nil => exact .inl ⟨[], rfl⟩
      | cons c l =>
          have hc := c.toNat_lt
          by_cases hrun : 128 ≤ c.toNat
          · have hbyte : c = 0x80 ||| UInt8.ofNat (c.toNat - 127 - 1) := by
              apply UInt8.toNat_inj.mp
              have hlow : (UInt8.ofNat (c.toNat - 127 - 1)).toNat = c.toNat - 128 := by
                rw [UInt8.toNat_ofNat']
                omega
              rw [UInt8.or_comm, toNat_mark (by omega), hlow]
              omega
            cases l with
            | nil =>
                refine .inr ⟨[], .run (c.toNat - 127) 0 (by omega) (by omega), 1, Nat.one_pos,
                  Nat.lt_succ_self 1, ?_⟩
                rw [Token.bytes, ← hbyte]
                rfl
            | cons value s =>
                refine hstep (.run (c.toNat - 127) value (by omega) (by omega)) s ?_
                rw [Token.bytes, ← hbyte]
                rfl
          · have hbyte : UInt8.ofNat (c.toNat + 1 - 1) = c := by
              rw [Nat.add_sub_cancel, UInt8.ofNat_toNat]
            by_cases hlen : c.toNat + 1 ≤ l.length
            · have htake : (l.take (c.toNat + 1)).length = c.toNat + 1 := by
                rw [List.length_take, min_eq_left hlen]
              refine hstep (.literal (l.take (c.toNat + 1)) (by omega) (by omega))
                (l.drop (c.toNat + 1)) ?_
              rw [Token.bytes, htake, hbyte, List.cons_append, List.take_append_drop]
            · have hfill : (l ++ List.replicate (c.toNat + 1 - l.length) 0).length
                  = c.toNat + 1 := by
                rw [List.length_append, List.length_replicate]
                omega
              refine .inr ⟨[], .literal (l ++ List.replicate (c.toNat + 1 - l.length) 0) (by omega)
                (by omega), l.length + 1, Nat.succ_pos _, ?_, ?_⟩
              · rw [Token.bytes, List.length_cons, hfill]
                omega
              · rw [Token.bytes, hfill, hbyte, List.take_succ_cons, List.take_left]
                rfl

end Decompress

lemma lsRleCompress_eq {input : List UInt8} {capacity : ℕ}
    (h : input.length + (input.length + 126) / 127 ≤ capacity) :
    lsRleCompress input capacity = .ok (tokenBytes (rleTokens input)) := by
  have hsize := size_rleTokens input
  refine runOn_eq_ok ((compressFrom_spec capacity input [] (Nat.zero_le _)).mono
    (fun _ _ h => h) fun _ _ hfull => ?_)
  rw [List.length_nil] at hfull
  omega

/-- **The run-length codec.** One byte in 127 more than the input is room enough for the
compressor; what it writes is decompressed to the input; the decompressor stays within its buffers
on every string, and rejects every string whose last token is cut off. -/
theorem rle_codec :
    (∀ (input : List UInt8) (capacity : ℕ),
      input.length + (input.length + 126) / 127 ≤ capacity →
      ∃ packed, lsRleCompress input capacity = .ok packed ∧
        packed.length ≤ input.length + (input.length + 126) / 127 ∧
        ∀ capacity', input.length ≤ capacity' → lsRleDecompress packed capacity' = .ok input) ∧
    (∀ input capacity, lsRleDecompress input capacity ≠ .error .outside) ∧
    ∀ (ts : List Token) (t : Token) (k capacity : ℕ), 0 < k → k < t.bytes.length →
      ∃ e, lsRleDecompress (tokenBytes ts ++ t.bytes.take k) capacity = .error (.fail e) := by
  refine ⟨fun input capacity hroom => ⟨_, lsRleCompress_eq hroom, size_rleTokens input,
    fun capacity' hfits => ?_⟩, fun input capacity => ?_, fun ts t k capacity hk hcut =>
    ⟨_, lsRleDecompress_cut ts t hk hcut capacity⟩⟩
  · rw [lsRleDecompress_tokens, tokenText_rleTokens, if_pos hfits]
  · obtain ⟨ts, rfl⟩ | ⟨ts, t, k, hk, hcut, rfl⟩ := exists_tokens input
    · rw [lsRleDecompress_tokens]
      split <;> nofun
    · rw [lsRleDecompress_cut ts t hk hcut]
      nofun

end Latch
