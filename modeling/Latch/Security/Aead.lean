/-
ChaCha20-Poly1305 of `src/security/chacha20.c` and `src/security/aead.c`.

The cipher is an exclusive or with a key stream of blocks, one for each value of a counter; the
counter 0 is reserved for the key of the tag. Input and output are addresses of one memory, so
that a call in place is a call like any other.

* `Aead.xorFrom_spec`: the loop over the blocks, for an output that does not run into input that
  is still to be read;
* `Aead.nodup_counters`: the counters of a message of an accepted length;
* `aead_sound`: round trip, tags and counters.
-/
import Latch.Core.Types
import Latch.Lib.Exec
import Latch.Security.Poly1305

namespace Latch

open Bytes Checked Exec Medium

/-! ### The cipher -/

namespace Chacha20

/-- The sixteen words of the cipher. -/
abbrev Words := Vector UInt32 16

def rotate (value count : UInt32) : UInt32 := (value <<< count) ||| (value >>> (32 - count))

/-- `QUARTER`. -/
def quarter (a b c d : Fin 16) (x : Words) : Words :=
  let x := x.set a (x[a] + x[b])
  let x := x.set d (rotate (x[d] ^^^ x[a]) 16)
  let x := x.set c (x[c] + x[d])
  let x := x.set b (rotate (x[b] ^^^ x[c]) 12)
  let x := x.set a (x[a] + x[b])
  let x := x.set d (rotate (x[d] ^^^ x[a]) 8)
  let x := x.set c (x[c] + x[d])
  x.set b (rotate (x[b] ^^^ x[c]) 7)

/-- One pass of the loop of `rounds`. -/
def doubleRound (x : Words) : Words :=
  let x := quarter 0 4 8 12 x
  let x := quarter 1 5 9 13 x
  let x := quarter 2 6 10 14 x
  let x := quarter 3 7 11 15 x
  let x := quarter 0 5 10 15 x
  let x := quarter 1 6 11 12 x
  let x := quarter 2 7 8 13 x
  quarter 3 4 9 14 x

/-- `rounds`. -/
def rounds (x : Words) : Words := doubleRound^[10] x

/-- The words that a block starts from. -/
def start (key : List UInt8) (w12 w13 w14 w15 : UInt32) : Words :=
  #v[0x61707865, 0x3320646e, 0x79622d32, 0x6b206574, get32 key 0, get32 key 4, get32 key 8,
    get32 key 12, get32 key 16, get32 key 20, get32 key 24, get32 key 28, w12, w13, w14, w15]

/-- `block`. -/
def block (key nonce : List UInt8) (counter : UInt32) : List UInt8 :=
  let state := start key counter (get32 nonce 0) (get32 nonce 4) (get32 nonce 8)
  (List.finRange 16).flatMap fun i => le32 ((rounds state)[i] + state[i])

end Chacha20

/-- `ls_hchacha20`. -/
def lsHchacha20 (key nonce : List UInt8) : List UInt8 :=
  let x := Chacha20.rounds (Chacha20.start key (get32 nonce 0) (get32 nonce 4) (get32 nonce 8)
    (get32 nonce 12))
  [0, 1, 2, 3, 12, 13, 14, 15].flatMap fun i : Fin 16 => le32 x[i]

/-- The memory of the buffers, and the counters for which a block has been computed. -/
structure Buffers where
  memory : ℕ → UInt8
  asked : List UInt32

namespace Aead

/-- The inner loop of `ls_chacha20_xor`, from the index `i` on. -/
def xorBytes (input : Option ℕ) (output : ℕ) : List UInt8 → ℕ → (ℕ → UInt8) → ℕ → UInt8
  | [], _, memory => memory
  | k :: stream, i, memory =>
    let byte := match input with
      | some p => memory (p + i)
      | none => 0
    xorBytes input output stream (i + 1) (write memory (output + i) [byte ^^^ k])

end Aead

open Aead Chacha20

/-- `ls_chacha20_xor`. -/
def lsChacha20Xor (key nonce : List UInt8) (counter : UInt32) (input : Option ℕ)
    (output length : ℕ) (s : Buffers) : Buffers :=
  if length = 0 then s
  else
    let take := if 64 < length then 64 else length
    lsChacha20Xor key nonce (counter + 1) (input.map (· + take)) (output + take) (length - take)
      { memory := xorBytes input output ((block key nonce counter).take take) 0 s.memory
        asked := s.asked ++ [counter] }
termination_by length
decreasing_by
  split <;> omega

/-! ### The construction -/

/-- `ls_constant_time_equal`. -/
def lsConstantTimeEqual (left right : List UInt8) (length : ℕ) : Bool :=
  (List.range length).foldl (fun difference i =>
    difference ||| (left.getD i 0 ^^^ right.getD i 0)) 0 = 0

/-- `poly_pad16`: the zeros that it passes to the tag. -/
def polyPad16 (length : ℕ) : List (List UInt8) :=
  if length % 16 ≠ 0 then [List.replicate (16 - length % 16) 0] else []

/-- `chacha20_length_overflows`. -/
def chacha20LengthOverflows (sizeMax length : ℕ) : Bool :=
  if 0xffffffff < sizeMax then 0xffffffff * 64 < length else false

/-- The tag that `calculate_tag` computes under the block of the counter 0. -/
def tagOf (firstBlock aad ciphertext : List UInt8) : List UInt8 :=
  (poly1305Of firstBlock
    ((if aad.length ≠ 0 then [aad] else []) ++ polyPad16 aad.length ++
      (if ciphertext.length ≠ 0 then [ciphertext] else []) ++ polyPad16 ciphertext.length ++
      [le64 (UInt64.ofNat aad.length) ++ le64 (UInt64.ofNat ciphertext.length)]) true).1

/-- The calls change the buffers, and may fail. -/
abbrev AeadM := EStateM Errno Buffers

/-- `calculate_tag`. -/
def calculateTag (key nonce aad : List UInt8) (ciphertext length : ℕ) : AeadM (List UInt8) := do
  let s ← get
  -- the first block is a local buffer
  let first := lsChacha20Xor key nonce 0 none 0 64 { s with memory := fun _ => 0 }
  set { s with asked := first.asked }
  pure (tagOf (read first.memory 0 64) aad (read s.memory ciphertext length))

/-- The payload, where there is one. -/
def xorPayload (key nonce : List UInt8) (input : Option ℕ) (output length : ℕ) : AeadM Unit :=
  modify fun s => if length ≠ 0 then lsChacha20Xor key nonce 1 input output length s else s

/-- `ls_chacha20_poly1305_encrypt`. -/
def lsChacha20Poly1305Encrypt (sizeMax : ℕ) (key nonce aad : List UInt8)
    (plaintext ciphertext : Option ℕ) (length : ℕ) : AeadM (List UInt8) :=
  if (plaintext = none ∧ length ≠ 0) ∨ (ciphertext = none ∧ length ≠ 0) then throw .einval
  else if chacha20LengthOverflows sizeMax length then throw .eoverflow
  else do
    xorPayload key nonce plaintext (ciphertext.getD 0) length
    calculateTag key nonce aad (ciphertext.getD 0) length

/-- `ls_chacha20_poly1305_decrypt`. -/
def lsChacha20Poly1305Decrypt (sizeMax : ℕ) (key nonce aad : List UInt8)
    (ciphertext plaintext : Option ℕ) (length : ℕ) (tag : List UInt8) : AeadM Unit :=
  if ciphertext = none ∧ length ≠ 0 then throw .einval
  else if chacha20LengthOverflows sizeMax length then throw .eoverflow
  else do
    let expected ← calculateTag key nonce aad (ciphertext.getD 0) length
    if lsConstantTimeEqual expected tag 16 then
      match plaintext with
      | some p => xorPayload key nonce ciphertext p length
      | none => pure ()
    else throw .eauth

/-! ### The key stream -/

namespace Aead

/-- The key stream from a block on. -/
def keystream (key nonce : List UInt8) (counter : UInt32) (length : ℕ) : List UInt8 :=
  if length = 0 then []
  else
    (block key nonce counter).take (min 64 length) ++
      keystream key nonce (counter + 1) (length - min 64 length)
termination_by length

/-- The counters of the blocks of a message. -/
def counters (counter : UInt32) (length : ℕ) : List UInt32 :=
  (List.range ((length + 63) / 64)).map fun i => counter + UInt32.ofNat i

/-- A text and a key stream. -/
def xorList (text stream : List UInt8) : List UInt8 := List.zipWith (· ^^^ ·) text stream

section

variable {key nonce : List UInt8} {p output length : ℕ} {memory : ℕ → UInt8} {s : Buffers}

@[simp] lemma length_block (key nonce : List UInt8) (counter : UInt32) :
    (block key nonce counter).length = 64 := by
  simp [block]

lemma length_keystream (key nonce : List UInt8) (counter : UInt32) (length : ℕ) :
    (keystream key nonce counter length).length = length := by
  fun_induction keystream key nonce counter length with
  | case1 => rfl
  | case2 counter length h ih =>
      rw [List.length_append, List.length_take, length_block, ih]
      omega

/-- The stream over a stream gives the text back. -/
lemma xorList_xorList {text stream : List UInt8} (h : text.length = stream.length) :
    xorList (xorList text stream) stream = text := by
  induction text generalizing stream with
  | nil => rfl
  | cons b text ih =>
      cases stream with
      | nil => cases h
      | cons k stream =>
          change (b ^^^ k ^^^ k) :: xorList (xorList text stream) stream = b :: text
          rw [UInt8.xor_assoc, UInt8.xor_self, UInt8.xor_zero, ih (Nat.succ_injective h)]

lemma read_succ (memory : ℕ → UInt8) (off len : ℕ) :
    read memory off (len + 1) = memory off :: read memory (off + 1) len := by
  rw [Nat.add_comm len 1, read_add]
  rfl

/-- The inner loop writes the exclusive or, where its output does not reach input that is still to
be read. -/
lemma xorBytes_some (stream : List UInt8) (i : ℕ) (memory : ℕ → UInt8)
    (h : output ≤ p ∨ p + (i + stream.length) ≤ output) :
    xorBytes (some p) output stream i memory
      = write memory (output + i) (xorList (read memory (p + i) stream.length) stream) := by
  induction stream generalizing i memory with
  | nil =>
      rw [xorList, List.zipWith_nil_right, write_nil]
      rfl
  | cons k stream ih =>
      rw [List.length_cons] at h
      have hread : read (write memory (output + i) [memory (p + i) ^^^ k]) (p + i + 1) stream.length
          = read memory (p + i + 1) stream.length := by
        refine read_congr fun a h1 h2 => ?_
        obtain h | h := h
        · exact write_of_ge (by rw [List.length_singleton]; omega)
        · exact write_of_lt (by omega)
      rw [xorBytes, ih (i + 1) _ (by omega), List.length_cons, read_succ, ← Nat.add_assoc,
        ← Nat.add_assoc, hread]
      exact write_write_append memory (output + i) [memory (p + i) ^^^ k] _

lemma xorBytes_none (stream : List UInt8) (i : ℕ) (memory : ℕ → UInt8) :
    xorBytes none output stream i memory = write memory (output + i) stream := by
  induction stream generalizing i memory with
  | nil => exact (write_nil memory _).symm
  | cons k stream ih =>
      rw [xorBytes, ih, ← Nat.add_assoc]
      have hk : (0 : UInt8) ^^^ k = k := UInt8.zero_xor
      rw [hk]
      exact write_write_append memory (output + i) [k] stream

lemma counters_zero (counter : UInt32) : counters counter 0 = [] := rfl

lemma counters_of_pos (counter : UInt32) {length : ℕ} (h : length ≠ 0) :
    counters counter length = counter :: counters (counter + 1) (length - min 64 length) := by
  have hcount : (length + 63) / 64 = (length - min 64 length + 63) / 64 + 1 := by omega
  rw [counters, hcount, List.range_succ_eq_map, List.map_cons, List.map_map, counters]
  congr 1
  · exact UInt32.add_zero counter
  · refine List.map_congr_left fun i _ => ?_
    rw [Function.comp_apply, Nat.succ_eq_add_one, Nat.add_comm, UInt32.ofNat_add, UInt32.add_assoc]
    rfl

/-- **The cipher**: the text with the key stream over it, in blocks of successive counters. -/
lemma lsChacha20Xor_some (counter : UInt32) (h : output ≤ p ∨ p + length ≤ output) :
    lsChacha20Xor key nonce counter (some p) output length s =
      { memory := write s.memory output
          (xorList (read s.memory p length) (keystream key nonce counter length))
        asked := s.asked ++ counters counter length } := by
  induction hn : length using Nat.strong_induction_on generalizing length counter p output s with
  | _ n ih =>
      subst hn
      rw [lsChacha20Xor, keystream]
      split
      · rename_i hzero
        rw [hzero, counters_zero, xorList, List.zipWith_nil_right, write_nil, List.append_nil]
      · rename_i hpos
        have htake : (if 64 < length then 64 else length) = min 64 length := by
          split <;> omega
        have hsum : length = min 64 length + (length - min 64 length) := by omega
        have hk : ((block key nonce counter).take (min 64 length)).length = min 64 length := by
          rw [List.length_take, length_block]
          omega
        have hfirst := @xorBytes_some p output ((block key nonce counter).take (min 64 length)) 0
          s.memory (by rw [hk]; omega)
        rw [hk, Nat.add_zero, Nat.add_zero] at hfirst
        have hlen : (xorList (read s.memory p (min 64 length))
            ((block key nonce counter).take (min 64 length))).length = min 64 length := by
          rw [xorList, List.length_zipWith, read_length, hk, min_self]
        -- what is still to be read has not been written
        have hread : read (write s.memory output (xorList (read s.memory p (min 64 length))
              ((block key nonce counter).take (min 64 length)))) (p + min 64 length)
              (length - min 64 length)
            = read s.memory (p + min 64 length) (length - min 64 length) := by
          refine read_congr fun a h1 h2 => ?_
          obtain h | h := h
          · exact write_of_ge (by omega)
          · exact write_of_lt (by omega)
        have hsplit : xorList (read s.memory p length)
              ((block key nonce counter).take (min 64 length) ++
                keystream key nonce (counter + 1) (length - min 64 length))
            = xorList (read s.memory p (min 64 length))
                ((block key nonce counter).take (min 64 length)) ++
              xorList (read s.memory (p + min 64 length) (length - min 64 length))
                (keystream key nonce (counter + 1) (length - min 64 length)) := by
          conv_lhs => rw [hsum, read_add, ← hsum]
          exact List.zipWith_append (by rw [read_length, hk])
        dsimp only
        rw [htake, hfirst, Option.map_some, ih (length - min 64 length) (by omega) _ (by omega) rfl,
          hread, hsplit, counters_of_pos counter hpos]
        have happend := write_write_append s.memory output
          (xorList (read s.memory p (min 64 length))
            ((block key nonce counter).take (min 64 length)))
          (xorList (read s.memory (p + min 64 length) (length - min 64 length))
            (keystream key nonce (counter + 1) (length - min 64 length)))
        rw [hlen] at happend
        rw [happend, List.append_assoc]
        rfl

/-- The block of the counter 0, in a buffer of its own. -/
lemma lsChacha20Xor_first (s : Buffers) : lsChacha20Xor key nonce 0 none 0 64 s =
    { memory := write s.memory 0 (block key nonce 0), asked := s.asked ++ [0] } := by
  have hall : (block key nonce 0).take 64 = block key nonce 0 :=
    List.take_of_length_le (length_block _ _ _).le
  rw [lsChacha20Xor, if_neg (by decide)]
  dsimp only
  rw [if_neg (by decide), hall, xorBytes_none, lsChacha20Xor, if_pos (by decide)]

/-- **The counters** of a message start at 1 and do not come around to 0. -/
lemma nodup_counters (h : length ≤ 0xffffffff * 64) :
    (counters 1 length).Nodup ∧ 0 ∉ counters 1 length := by
  have hval : ∀ i ∈ List.range ((length + 63) / 64), (1 + UInt32.ofNat i).toNat = 1 + i := by
    intro i hi
    have hi := List.mem_range.mp hi
    rw [UInt32.toNat_add, UInt32.toNat_ofNat']
    change (1 + i % 2 ^ 32) % 2 ^ 32 = _
    omega
  constructor
  · refine List.Nodup.map_on (fun i hi j hj hij => ?_) List.nodup_range
    have hnat := congrArg UInt32.toNat hij
    rw [hval i hi, hval j hj] at hnat
    omega
  · intro hmem
    obtain ⟨i, hi, hzero⟩ := List.mem_map.mp hmem
    have hnat := hval i hi
    rw [hzero] at hnat
    change 0 = 1 + i at hnat
    omega

end

/-! ### Tags -/

section Tags

variable {key nonce aad : List UInt8} {sizeMax length : ℕ} {s : Buffers}

lemma or_eq_zero {x y : UInt8} : x ||| y = 0 ↔ x = 0 ∧ y = 0 := by
  simp [← UInt8.toNat_inj, Nat.or_eq_zero_iff]

lemma differences_eq_zero (left right : List UInt8) (l : List ℕ) (difference : UInt8) :
    l.foldl (fun difference i => difference ||| (left.getD i 0 ^^^ right.getD i 0)) difference = 0 ↔
      difference = 0 ∧ ∀ i ∈ l, left.getD i 0 = right.getD i 0 := by
  induction l generalizing difference with
  | nil => simp
  | cons i l ih =>
      rw [List.foldl_cons, ih, or_eq_zero, UInt8.xor_eq_zero_iff, List.forall_mem_cons, and_assoc]

lemma lsConstantTimeEqual_iff {left right : List UInt8} {n : ℕ} (hl : left.length = n)
    (hr : right.length = n) : lsConstantTimeEqual left right n = true ↔ left = right := by
  rw [lsConstantTimeEqual, decide_eq_true_iff, differences_eq_zero]
  constructor
  · rintro ⟨-, h⟩
    refine List.ext_getElem (hl.trans hr.symm) fun i h1 h2 => ?_
    have hi := h i (List.mem_range.mpr (hl ▸ h1))
    simpa [h1, h2] using hi
  · rintro rfl
    exact ⟨rfl, fun _ _ => rfl⟩

lemma calculateTag_eq (ciphertext : ℕ) : calculateTag key nonce aad ciphertext length s =
    .ok (tagOf (block key nonce 0) aad (read s.memory ciphertext length))
      { s with asked := s.asked ++ [0] } := by
  have hread := read_write_same (fun _ => (0 : UInt8)) 0 (block key nonce 0)
  rw [length_block] at hread
  change EStateM.Result.ok (tagOf (read (lsChacha20Xor key nonce 0 none 0 64
    { s with memory := fun _ => 0 }).memory 0 64) aad _) { s with asked := (lsChacha20Xor key nonce
      0 none 0 64 { s with memory := fun _ => 0 }).asked } = _
  rw [lsChacha20Xor_first, hread]

lemma length_tagOf (firstBlock aad ciphertext : List UInt8) :
    (tagOf firstBlock aad ciphertext).length = 16 := by
  rw [tagOf, poly1305Of_eq]
  exact put_length _ _

lemma xorPayload_eq {src dst : ℕ} (h : dst ≤ src ∨ src + length ≤ dst) :
    xorPayload key nonce (some src) dst length s = .ok ()
      { memory := write s.memory dst
          (xorList (read s.memory src length) (keystream key nonce 1 length))
        asked := s.asked ++ counters 1 length } := by
  change EStateM.Result.ok () (if length ≠ 0 then _ else s) = _
  rw [← lsChacha20Xor_some 1 h]
  split
  · rfl
  · rename_i hzero
    rw [lsChacha20Xor, if_pos (not_not.mp hzero)]

/-- What `ls_chacha20_poly1305_encrypt` leaves. -/
lemma encrypt_eq (hlen : chacha20LengthOverflows sizeMax length = false) {src dst : ℕ}
    (h : dst ≤ src ∨ src + length ≤ dst) :
    lsChacha20Poly1305Encrypt sizeMax key nonce aad (some src) (some dst) length s =
      .ok (tagOf (block key nonce 0) aad
          (xorList (read s.memory src length) (keystream key nonce 1 length)))
        { memory := write s.memory dst
            (xorList (read s.memory src length) (keystream key nonce 1 length))
          asked := s.asked ++ counters 1 length ++ [0] } := by
  have hct : (xorList (read s.memory src length) (keystream key nonce 1 length)).length
      = length := by
    rw [xorList, List.length_zipWith, read_length, length_keystream, min_self]
  have hread := read_write_same s.memory dst
    (xorList (read s.memory src length) (keystream key nonce 1 length))
  rw [hct] at hread
  rw [lsChacha20Poly1305Encrypt, if_neg (by simp), hlen, if_neg (by decide)]
  refine (bind_of_ok (xorPayload_eq h)).trans ?_
  rw [Option.getD_some, calculateTag_eq, hread]

/-- What `ls_chacha20_poly1305_decrypt` leaves. -/
lemma decrypt_eq (hlen : chacha20LengthOverflows sizeMax length = false) {src : ℕ}
    {dst : Option ℕ} (h : ∀ p ∈ dst, p ≤ src ∨ src + length ≤ p) {tag : List UInt8}
    (htag : tag.length = 16) :
    lsChacha20Poly1305Decrypt sizeMax key nonce aad (some src) dst length tag s =
      if tagOf (block key nonce 0) aad (read s.memory src length) = tag then
        match dst with
        | some p => .ok ()
          { memory := write s.memory p
              (xorList (read s.memory src length) (keystream key nonce 1 length))
            asked := s.asked ++ [0] ++ counters 1 length }
        | none => .ok () { s with asked := s.asked ++ [0] }
      else .error .eauth { s with asked := s.asked ++ [0] } := by
  have hequal := lsConstantTimeEqual_iff
    (length_tagOf (block key nonce 0) aad (read s.memory src length)) htag
  unfold lsChacha20Poly1305Decrypt
  rw [if_neg (by simp), hlen, if_neg (by decide)]
  refine (bind_of_ok (calculateTag_eq src)).trans ?_
  by_cases htagged : tagOf (block key nonce 0) aad (read s.memory src length) = tag
  · rw [if_pos htagged, if_pos (hequal.mpr htagged)]
    cases dst with
    | none => rfl
    | some p => exact xorPayload_eq (h p rfl)
  · rw [if_neg htagged, if_neg fun he => htagged (hequal.mp he)]
    rfl

end Tags

end Aead

/-- The lengths that are not rejected. -/
def Accepted (sizeMax length : ℕ) : Prop :=
  length ≤ sizeMax ∧ chacha20LengthOverflows sizeMax length = false

lemma Accepted.le {sizeMax length : ℕ} (h : Accepted sizeMax length) :
    length ≤ 0xffffffff * 64 := by
  obtain ⟨hsize, hlen⟩ := h
  rw [chacha20LengthOverflows] at hlen
  split at hlen
  · exact not_lt.mp (of_decide_eq_false hlen)
  · omega

/-- **The authenticated cipher.** What is encrypted is decrypted, from and to buffers that are
apart, that are the same, or that overlap with the output in front; a text is decrypted exactly
under its tag, and nothing is written under another one; and the counters of the payload differ
from each other and from the counter of the tag. -/
theorem aead_sound (sizeMax : ℕ) (key nonce aad : List UInt8) :
    (∀ (length src dst : ℕ) (s : Buffers), Accepted sizeMax length →
      (dst ≤ src ∨ src + length ≤ dst) →
      ∃ tag s', lsChacha20Poly1305Encrypt sizeMax key nonce aad (some src) (some dst) length s
          = .ok tag s' ∧
        (∀ (src' dst' : ℕ) (t : Buffers), (dst' ≤ src' ∨ src' + length ≤ dst') →
          read t.memory src' length = read s'.memory dst length →
          ∃ t', lsChacha20Poly1305Decrypt sizeMax key nonce aad (some src') (some dst') length tag t
              = .ok () t' ∧ read t'.memory dst' length = read s.memory src length) ∧
        ∃ payload, s'.asked = s.asked ++ payload ++ [0] ∧ payload.Nodup ∧ 0 ∉ payload) ∧
    (∀ (length src : ℕ) (dst : Option ℕ) (s : Buffers) (tag : List UInt8),
      Accepted sizeMax length → (∀ p ∈ dst, p ≤ src ∨ src + length ≤ p) → tag.length = 16 →
      ((∃ s', lsChacha20Poly1305Decrypt sizeMax key nonce aad (some src) dst length tag s
          = .ok () s') ↔
        tag = tagOf (block key nonce 0) aad (read s.memory src length)) ∧
      (∀ e s', lsChacha20Poly1305Decrypt sizeMax key nonce aad (some src) dst length tag s
        = .error e s' → s'.memory = s.memory) ∧
      ∃ payload, (leaves (lsChacha20Poly1305Decrypt sizeMax key nonce aad (some src) dst length tag)
        s).asked = s.asked ++ [0] ++ payload ∧ payload.Nodup ∧ 0 ∉ payload) := by
  constructor
  · intro length src dst s hlength hdst
    refine ⟨_, _, encrypt_eq hlength.2 hdst, fun src' dst' t hdst' hread => ?_, _, rfl,
      nodup_counters hlength.le⟩
    have hct : (xorList (read s.memory src length) (keystream key nonce 1 length)).length
        = length := by
      rw [xorList, List.length_zipWith, read_length, length_keystream, min_self]
    have hsame := read_write_same s.memory dst
      (xorList (read s.memory src length) (keystream key nonce 1 length))
    rw [hct] at hsame
    have htext : read t.memory src' length
        = xorList (read s.memory src length) (keystream key nonce 1 length) := hread.trans hsame
    have hback : xorList (read t.memory src' length) (keystream key nonce 1 length)
        = read s.memory src length := by
      rw [htext, xorList_xorList (by rw [read_length, length_keystream])]
    have hpt := read_write_same t.memory dst'
      (xorList (read t.memory src' length) (keystream key nonce 1 length))
    rw [hback, read_length] at hpt
    refine ⟨_, (decrypt_eq hlength.2 (fun p hp => ?_) (length_tagOf _ _ _)).trans
      (if_pos (by rw [htext])), ?_⟩
    · rwa [← Option.some.inj hp]
    · rw [hback]
      exact hpt
  · intro length src dst s tag hlength hdst htag
    have hresult := @decrypt_eq key nonce aad sizeMax length s hlength.2 src dst hdst tag htag
    by_cases htagged : tagOf (block key nonce 0) aad (read s.memory src length) = tag
    · rw [if_pos htagged] at hresult
      cases dst with
      | none =>
          refine ⟨⟨fun _ => htagged.symm, fun _ => ⟨_, hresult⟩⟩, fun e s' he => ?_, [], ?_,
            List.nodup_nil, List.not_mem_nil⟩
          · cases hresult.symm.trans he
          · rw [leaves, hresult, List.append_nil]
      | some p =>
          refine ⟨⟨fun _ => htagged.symm, fun _ => ⟨_, hresult⟩⟩, fun e s' he => ?_, _, ?_,
            nodup_counters hlength.le⟩
          · cases hresult.symm.trans he
          · rw [leaves, hresult]
    · rw [if_neg htagged] at hresult
      refine ⟨⟨fun ⟨s', hs'⟩ => ?_, fun htag => absurd htag.symm htagged⟩, fun e s' he => ?_, [], ?_,
        List.nodup_nil, List.not_mem_nil⟩
      · cases hresult.symm.trans hs'
      · cases hresult.symm.trans he
        rfl
      · rw [leaves, hresult, List.append_nil]

end Latch
