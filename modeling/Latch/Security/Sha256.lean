/-
SHA-256, HMAC and HKDF of `src/security/sha256.c`.

The hash collects its input in blocks of 64 bytes and passes each to `transform`; `finish` pads
the last one or two. What is proved is that this is the iteration of `transform` over the padded
message, however the message arrives, and what HMAC and HKDF make of it.

* `Sha256.Absorbed`: what a context has taken in, kept by `update` (`Absorbed.update`);
* `Sha256.digest_finish`: the one or two blocks of the padding;
* `sha256_hmac_hkdf`: the hash in any pieces, HMAC for every key, and HKDF for every request.
-/
import Latch.Core.Types
import Latch.Lib.Blocks

namespace Latch

open Blocks

namespace Sha256

/-! ### The compression function -/

/-- The eight words of a hash. -/
structure Words where
  a : UInt32
  b : UInt32
  c : UInt32
  d : UInt32
  e : UInt32
  f : UInt32
  g : UInt32
  h : UInt32
  deriving DecidableEq, Repr

def rotr (value bits : UInt32) : UInt32 := (value >>> bits) ||| (value <<< (32 - bits))

/-- `read_be32`, at the index `i`. -/
def readBe32 (p : List UInt8) (i : ℕ) : UInt32 :=
  ((p.getD i 0).toUInt32 <<< 24) ||| ((p.getD (i + 1) 0).toUInt32 <<< 16) |||
    ((p.getD (i + 2) 0).toUInt32 <<< 8) ||| (p.getD (i + 3) 0).toUInt32

def constants : List UInt32 :=
  [0x428a2f98, 0x71374491, 0xb5c0fbcf, 0xe9b5dba5, 0x3956c25b, 0x59f111f1, 0x923f82a4,
    0xab1c5ed5, 0xd807aa98, 0x12835b01, 0x243185be, 0x550c7dc3, 0x72be5d74, 0x80deb1fe,
    0x9bdc06a7, 0xc19bf174, 0xe49b69c1, 0xefbe4786, 0x0fc19dc6, 0x240ca1cc, 0x2de92c6f,
    0x4a7484aa, 0x5cb0a9dc, 0x76f988da, 0x983e5152, 0xa831c66d, 0xb00327c8, 0xbf597fc7,
    0xc6e00bf3, 0xd5a79147, 0x06ca6351, 0x14292967, 0x27b70a85, 0x2e1b2138, 0x4d2c6dfc,
    0x53380d13, 0x650a7354, 0x766a0abb, 0x81c2c92e, 0x92722c85, 0xa2bfe8a1, 0xa81a664b,
    0xc24b8b70, 0xc76c51a3, 0xd192e819, 0xd6990624, 0xf40e3585, 0x106aa070, 0x19a4c116,
    0x1e376c08, 0x2748774c, 0x34b0bcb5, 0x391c0cb3, 0x4ed8aa4a, 0x5b9cca4f, 0x682e6ff3,
    0x748f82ee, 0x78a5636f, 0x84c87814, 0x8cc70208, 0x90befffa, 0xa4506ceb, 0xbef9a3f7,
    0xc67178f2]

/-- The words behind the sixteen of the block, one at a time. -/
def schedule : ℕ → List UInt32 → List UInt32
  | 0, words => words
  | n + 1, words =>
    let i := words.length
    let w15 := words.getD (i - 15) 0
    let w2 := words.getD (i - 2) 0
    let s0 := rotr w15 7 ^^^ rotr w15 18 ^^^ (w15 >>> 3)
    let s1 := rotr w2 17 ^^^ rotr w2 19 ^^^ (w2 >>> 10)
    schedule n (words ++ [words.getD (i - 16) 0 + s0 + words.getD (i - 7) 0 + s1])

/-- One round. -/
def round (v : Words) (constant word : UInt32) : Words :=
  let s1 := rotr v.e 6 ^^^ rotr v.e 11 ^^^ rotr v.e 25
  let choice := (v.e &&& v.f) ^^^ (~~~v.e &&& v.g)
  let temp1 := v.h + s1 + choice + constant + word
  let s0 := rotr v.a 2 ^^^ rotr v.a 13 ^^^ rotr v.a 22
  let majority := (v.a &&& v.b) ^^^ (v.a &&& v.c) ^^^ (v.b &&& v.c)
  let temp2 := s0 + majority
  ⟨temp1 + temp2, v.a, v.b, v.c, v.d + temp1, v.e, v.f, v.g⟩

/-- `transform`. -/
def transform (state : Words) (block : List UInt8) : Words :=
  let words := schedule 48 ((List.range 16).map fun i => readBe32 block (i * 4))
  let v := (constants.zip words).foldl (fun v k => round v k.1 k.2) state
  ⟨state.a + v.a, state.b + v.b, state.c + v.c, state.d + v.d, state.e + v.e, state.f + v.f,
    state.g + v.g, state.h + v.h⟩

/-! ### The hash -/

/-- `sha256_context_t`. The bytes of the block are those that are used; there is always room for
one more. -/
structure Context where
  state : Words
  bits : UInt64
  block : List UInt8
  used_lt : block.length < 64

def initial : Words :=
  ⟨0x6a09e667, 0xbb67ae85, 0x3c6ef372, 0xa54ff53a, 0x510e527f, 0x9b05688c, 0x1f83d9ab, 0x5be0cd19⟩

/-- `init`. -/
def init : Context := ⟨initial, 0, [], by decide⟩

/-- The bytes that the loop of `update` takes at once. -/
def Context.take (context : Context) (data : List UInt8) : ℕ :=
  min (64 - context.block.length) data.length

lemma Context.take_pos (context : Context) {data : List UInt8} (h : data ≠ []) :
    0 < context.take data := by
  have hused := context.used_lt
  have hlen := List.length_pos_of_ne_nil h
  rw [take]
  omega

lemma Context.length_filled_le (context : Context) (data : List UInt8) :
    (context.block ++ data.take (context.take data)).length ≤ 64 := by
  have hused := context.used_lt
  rw [List.length_append, List.length_take, take]
  omega

/-- The loop of `update`. -/
def updateFrom (context : Context) (data : List UInt8) : Context :=
  if h : data = [] then context
  else if hfull : (context.block ++ data.take (context.take data)).length = 64 then
    updateFrom { context with
      state := transform context.state (context.block ++ data.take (context.take data))
      block := []
      used_lt := by decide } (data.drop (context.take data))
  else
    updateFrom { context with
      block := context.block ++ data.take (context.take data)
      used_lt := (context.length_filled_le data).lt_of_ne hfull } (data.drop (context.take data))
termination_by data.length
decreasing_by
  all_goals
    have hlen := List.length_pos_of_ne_nil h
    have hpos := context.take_pos h
    rw [List.length_drop]
    omega

/-- `update`. -/
def update (context : Context) (data : List UInt8) : Context :=
  updateFrom { context with bits := context.bits + UInt64.ofNat data.length * 8 } data

/-- Zeros up to the index `n`. -/
def fillTo (n : ℕ) (block : List UInt8) : List UInt8 :=
  block ++ List.replicate (n - block.length) 0

/-- The eight bytes of the length. -/
def be64 (bits : UInt64) : List UInt8 :=
  (List.range 8).map fun i => (bits >>> UInt64.ofNat (56 - i * 8)).toUInt8

/-- The bytes of a word. -/
def be32 (word : UInt32) : List UInt8 :=
  [(word >>> 24).toUInt8, (word >>> 16).toUInt8, (word >>> 8).toUInt8, word.toUInt8]

/-- The bytes of a hash. -/
def digest (w : Words) : List UInt8 :=
  be32 w.a ++ be32 w.b ++ be32 w.c ++ be32 w.d ++ be32 w.e ++ be32 w.f ++ be32 w.g ++ be32 w.h

/-- `finish`. -/
def finish (context : Context) : List UInt8 :=
  let block := context.block ++ [0x80]
  if 56 < block.length then
    let state := transform context.state (fillTo 64 block)
    digest (transform state (fillTo 56 [] ++ be64 context.bits))
  else digest (transform context.state (fillTo 56 block ++ be64 context.bits))

end Sha256

open Sha256

/-- `ls_sha256`. -/
def lsSha256 (data : List UInt8) : List UInt8 :=
  finish (if data.length ≠ 0 then update init data else init)

/-- `ls_hmac_sha256`. -/
def lsHmacSha256 (key data : List UInt8) : List UInt8 :=
  let normalized :=
    if 64 < key.length then fillTo 64 (finish (update init key)) else fillTo 64 key
  let inner := update (update init (normalized.map (· ^^^ 0x36))) data
  finish (update (update init (normalized.map (· ^^^ 0x5c))) (finish inner))

def lsHkdfMaxInfoSize : ℕ := 128

/-- The loop of `ls_hkdf_sha256`. -/
def hkdfFrom (prk info : List UInt8) (outputLength produced : ℕ) (previous : List UInt8)
    (counter : UInt8) (output : List UInt8) : List UInt8 :=
  if produced < outputLength then
    let next := lsHmacSha256 prk (previous ++ info ++ [counter])
    hkdfFrom prk info outputLength (produced + min (outputLength - produced) 32) next (counter + 1)
      (output ++ next.take (min (outputLength - produced) 32))
  else output
termination_by outputLength - produced

/-- `ls_hkdf_sha256`. -/
def lsHkdfSha256 (salt ikm info : List UInt8) (outputLength : ℕ) : Except Errno (List UInt8) :=
  if lsHkdfMaxInfoSize < info.length ∨ 255 * 32 < outputLength then .error .einval
  else
    let prk := lsHmacSha256 (if salt.length ≠ 0 then salt else List.replicate 32 0) ikm
    .ok (hkdfFrom prk info outputLength 0 [] 1 [])

/-! ### The definitions -/

/-- The padded message: a one bit, the fewest zeros that leave room for the length, and the length
in bits. -/
def sha256Padded (m : List UInt8) : List UInt8 :=
  m ++ (0x80 :: List.replicate ((119 - m.length % 64) % 64) 0 ++
    (Bytes.put 8 (8 * m.length)).reverse)

/-- SHA-256: the compression function over the blocks of the padded message. -/
def sha256 (m : List UInt8) : List UInt8 :=
  digest ((blocks 64 (sha256Padded m)).foldl transform initial)

/-- The key of HMAC: hashed where it is longer than a block, and filled with zeros. -/
def hmacKey (key : List UInt8) : List UInt8 :=
  fillTo 64 (if 64 < key.length then sha256 key else key)

/-- HMAC with SHA-256. -/
def hmacSha256 (key m : List UInt8) : List UInt8 :=
  sha256 ((hmacKey key).map (· ^^^ 0x5c) ++ sha256 ((hmacKey key).map (· ^^^ 0x36) ++ m))

/-- The blocks of the expansion; each hashes the one before it. -/
def hkdfBlock (prk info : List UInt8) : ℕ → List UInt8
  | 0 => []
  | i + 1 => hmacSha256 prk (hkdfBlock prk info i ++ info ++ [UInt8.ofNat (i + 1)])

/-- HKDF with SHA-256: extract, then expand to `n` bytes. -/
def hkdfSha256 (salt ikm info : List UInt8) (n : ℕ) : List UInt8 :=
  let prk := hmacSha256 (if salt = [] then List.replicate 32 0 else salt) ikm
  ((List.range ((n + 31) / 32)).flatMap fun i => hkdfBlock prk info (i + 1)).take n


/-! ### The hash in pieces -/

namespace Sha256

/-- A context that has taken in the message `m`. -/
structure Absorbed (context : Context) (m : List UInt8) : Prop where
  state : context.state = (blocks 64 m).foldl transform initial
  block : context.block = rest 64 m
  bits : context.bits = UInt64.ofNat (8 * m.length)

section Absorbed

variable {context : Context} {m : List UInt8}

lemma absorbed_init : Absorbed init [] := ⟨by rw [blocks_nil]; rfl, rest_nil.symm, rfl⟩

/-- The loop of `update` takes in the rest of the message. -/
lemma updateFrom_spec (context : Context) (data : List UInt8) {m : List UInt8}
    (hstate : context.state = (blocks 64 m).foldl transform initial)
    (hblock : context.block = rest 64 m) :
    (updateFrom context data).state = (blocks 64 (m ++ data)).foldl transform initial ∧
      (updateFrom context data).block = rest 64 (m ++ data) ∧
      (updateFrom context data).bits = context.bits := by
  fun_induction updateFrom context data generalizing m with
  | case1 context =>
      rw [List.append_nil]
      exact ⟨hstate, hblock, rfl⟩
  | case2 context data hne hfull ih =>
      -- the block is full: it is the next block of the message
      rw [List.length_append, hblock] at hfull
      obtain ⟨hblocks, hrest⟩ := blocks_append_of_eq (by decide) hfull
      have hnext := @ih (m ++ data.take (context.take data))
        (by rw [hblocks, List.foldl_append, ← hstate, hblock]; rfl) hrest.symm
      rwa [List.append_assoc, List.take_append_drop] at hnext
  | case3 context data hne hfull ih =>
      have hlt := (context.length_filled_le data).lt_of_ne hfull
      rw [List.length_append, hblock] at hlt
      obtain ⟨hblocks, hrest⟩ := blocks_append_of_lt hlt
      have hnext := @ih (m ++ data.take (context.take data)) (by rw [hblocks, ← hstate])
        (by rw [hrest]; exact congrArg (· ++ _) hblock)
      rwa [List.append_assoc, List.take_append_drop] at hnext

/-- **`update`** takes in its data behind the message so far. -/
lemma Absorbed.update (h : Absorbed context m) (data : List UInt8) :
    Absorbed (update context data) (m ++ data) := by
  obtain ⟨hstate, hblock, hbits⟩ := updateFrom_spec
    { context with bits := context.bits + UInt64.ofNat data.length * 8 } data h.state h.block
  refine ⟨hstate, hblock, hbits.trans ?_⟩
  change context.bits + UInt64.ofNat data.length * 8 = _
  rw [h.bits, List.length_append, Nat.mul_add, UInt64.ofNat_add, Nat.mul_comm 8 data.length,
    UInt64.ofNat_mul data.length]
  rfl

/-- Any number of pieces. -/
lemma Absorbed.updates (h : Absorbed context m) (pieces : List (List UInt8)) :
    Absorbed (pieces.foldl Sha256.update context) (m ++ pieces.flatten) := by
  induction pieces generalizing context m with
  | nil => rwa [List.flatten_nil, List.append_nil]
  | cons data pieces ih =>
      rw [List.flatten_cons, ← List.append_assoc]
      exact ih (h.update data)

end Absorbed

lemma length_digest (w : Words) : (digest w).length = 32 := rfl

/-- The length field, byte by byte. -/
lemma be64_eq (n : ℕ) : be64 (UInt64.ofNat n) = (Bytes.put 8 n).reverse := by
  have hbyte : ∀ k, k < 64 →
      (UInt64.ofNat n >>> UInt64.ofNat k).toUInt8 = UInt8.ofNat (n % 2 ^ 64 / 2 ^ k) := by
    intro k hk
    have hshift : (UInt64.ofNat k).toNat % 64 = k := by
      rw [UInt64.toNat_ofNat']
      omega
    apply UInt8.toNat_inj.mp
    rw [UInt64.toNat_toUInt8, UInt64.toNat_shiftRight, hshift, UInt64.toNat_ofNat',
      Nat.shiftRight_eq_div_pow, UInt8.toNat_ofNat']
  have hput : ∀ k < 8, UInt8.ofNat (n % 2 ^ 64 / 2 ^ (8 * k)) = UInt8.ofNat (n / 256 ^ k) := by
    intro k hk
    apply UInt8.toNat_inj.mp
    rw [UInt8.toNat_ofNat', UInt8.toNat_ofNat']
    interval_cases k <;> omega
  have hbytes : ∀ k, k < 8 →
      (UInt64.ofNat n >>> UInt64.ofNat (8 * k)).toUInt8 = UInt8.ofNat (n / 256 ^ k) :=
    fun k hk => (hbyte (8 * k) (by omega)).trans (hput k hk)
  have hput : (Bytes.put 8 n).reverse
      = (List.range 8).map fun i => UInt8.ofNat (n / 256 ^ (7 - i)) := by
    simp [Bytes.put, List.range_succ, Nat.div_div_eq_div_mul]
  rw [hput, be64]
  refine List.map_congr_left fun i hi => ?_
  have hi := List.mem_range.mp hi
  rw [← hbytes (7 - i) (by omega)]
  congr 3
  omega

/-- The padding ends the block that was begun, and takes one more where the length does not fit
behind the one bit. -/
lemma blocks_sha256Padded (m : List UInt8) :
    blocks 64 (sha256Padded m) = blocks 64 m ++
      if 56 < (rest 64 m ++ [0x80]).length then
        [fillTo 64 (rest 64 m ++ [0x80]), fillTo 56 [] ++ (Bytes.put 8 (8 * m.length)).reverse]
      else [fillTo 56 (rest 64 m ++ [0x80]) ++ (Bytes.put 8 (8 * m.length)).reverse] := by
  have hr := length_rest 64 m
  have hlt := Nat.mod_lt m.length (show 0 < 64 by decide)
  have hlen : (Bytes.put 8 (8 * m.length)).reverse.length = 8 := by
    rw [List.length_reverse, Bytes.put_length]
  have hfill : ∀ n, fillTo n (rest 64 m ++ [0x80])
      = rest 64 m ++ 0x80 :: List.replicate (n - (m.length % 64 + 1)) 0 := fun n => by
    rw [fillTo, List.length_append, hr, List.append_assoc, List.length_singleton]
    rfl
  rw [sha256Padded, List.length_append, hr, List.length_singleton, hfill, hfill]
  split
  · -- the zeros reach into a second block
    rename_i htwo
    have hzeros : (119 - m.length % 64) % 64 = 64 - (m.length % 64 + 1) + 56 := by omega
    obtain ⟨hblocks, hrest⟩ := @blocks_append_of_eq _ 64 m
      (0x80 :: List.replicate (64 - (m.length % 64 + 1)) 0) (by decide)
      (by rw [hr, List.length_cons, List.length_replicate]; omega)
    have hlast : (List.replicate 56 (0 : UInt8) ++ (Bytes.put 8 (8 * m.length)).reverse).length
        = 64 := by
      rw [List.length_append, List.length_replicate, hlen]
    rw [hzeros, ← List.replicate_append_replicate, ← List.cons_append, List.append_assoc,
      ← List.append_assoc m, blocks_append (by decide), hrest, hblocks, List.nil_append,
      blocks_of_eq (by decide) hlast, List.append_assoc]
    rfl
  · rename_i hone
    have hzeros : (119 - m.length % 64) % 64 = 56 - (m.length % 64 + 1) := by omega
    have hfull : (rest 64 m).length + (0x80 :: List.replicate (56 - (m.length % 64 + 1)) 0 ++
        (Bytes.put 8 (8 * m.length)).reverse).length = 64 := by
      rw [hr, List.length_append, List.length_cons, List.length_replicate, hlen]
      omega
    rw [hzeros, (blocks_append_of_eq (by decide) hfull).1, List.append_assoc]

/-- **`finish`** hashes the blocks of the padding. -/
lemma Absorbed.finish {context : Context} {m : List UInt8} (h : Absorbed context m) :
    finish context = sha256 m := by
  rw [Sha256.finish, sha256, blocks_sha256Padded, h.block, h.state, h.bits, be64_eq,
    List.foldl_append]
  split <;> simp only [List.foldl_cons, List.foldl_nil]

/-- The hash of a message in any pieces. -/
lemma finish_updates (pieces : List (List UInt8)) :
    Sha256.finish (pieces.foldl update init) = sha256 pieces.flatten :=
  (absorbed_init.updates pieces).finish

lemma finish_update (data : List UInt8) : Sha256.finish (update init data) = sha256 data := by
  simpa using finish_updates [data]

lemma finish_update_update (a b : List UInt8) :
    Sha256.finish (update (update init a) b) = sha256 (a ++ b) := by
  simpa using finish_updates [a, b]

end Sha256

/-! ### HMAC and HKDF -/

lemma lsSha256_eq (data : List UInt8) : lsSha256 data = sha256 data := by
  rw [lsSha256]
  split
  · exact finish_update data
  · rename_i h
    rw [List.length_eq_zero_iff.mp (not_not.mp h)]
    exact absorbed_init.finish

lemma lsHmacSha256_eq (key data : List UInt8) : lsHmacSha256 key data = hmacSha256 key data := by
  have hkey : (if 64 < key.length then fillTo 64 (finish (update init key)) else fillTo 64 key)
      = hmacKey key := by
    rw [hmacKey, finish_update]
    split <;> rfl
  rw [lsHmacSha256, hkey, hmacSha256, finish_update_update, finish_update_update]

lemma length_hmacSha256 (key m : List UInt8) : (hmacSha256 key m).length = 32 := length_digest _

lemma length_hkdfBlock (prk info : List UInt8) (i : ℕ) :
    (hkdfBlock prk info (i + 1)).length = 32 := length_hmacSha256 _ _

/-- The loop of the expansion, behind `i` blocks. -/
lemma hkdfFrom_spec (prk info : List UInt8) (n k : ℕ) : ∀ (i : ℕ) (output : List UInt8),
    n - 32 * i = k → hkdfFrom prk info n (32 * i) (hkdfBlock prk info i) (UInt8.ofNat (i + 1)) output
      = output ++ ((List.range ((n + 31) / 32 - i)).flatMap fun j =>
          hkdfBlock prk info (i + j + 1)).take (n - 32 * i) := by
  induction k using Nat.strong_induction_on with
  | _ k ih =>
      intro i output hk
      rw [hkdfFrom]
      split
      · rename_i hmore
        have hcount : (n + 31) / 32 - i = (n + 31) / 32 - (i + 1) + 1 := by omega
        have hcounter : UInt8.ofNat (i + 1) + 1 = UInt8.ofNat (i + 1 + 1) :=
          (UInt8.ofNat_add _ _).symm
        have hnext : lsHmacSha256 prk (hkdfBlock prk info i ++ info ++ [UInt8.ofNat (i + 1)])
            = hkdfBlock prk info (i + 1) := lsHmacSha256_eq _ _
        have hlen := length_hkdfBlock prk info i
        have htail : ((List.range ((n + 31) / 32 - i)).flatMap fun j =>
              hkdfBlock prk info (i + j + 1))
            = hkdfBlock prk info (i + 1) ++ (List.range ((n + 31) / 32 - (i + 1))).flatMap fun j =>
              hkdfBlock prk info (i + 1 + j + 1) := by
          rw [hcount, List.range_succ_eq_map, List.flatMap_cons, List.flatMap_map]
          refine congrArg _ (List.flatMap_congr fun j _ => ?_)
          rw [Nat.succ_eq_add_one, Nat.add_comm j 1, ← Nat.add_assoc]
        dsimp only
        rw [hnext, hcounter, htail, List.take_append, hlen]
        by_cases hlast : n - 32 * i ≤ 32
        · have hend : 32 * i + (n - 32 * i) = n := by omega
          rw [min_eq_left hlast, hend, hkdfFrom, if_neg (lt_irrefl n), Nat.sub_eq_zero_of_le hlast,
            List.take_zero, List.append_nil]
        · have hrest := ih (n - 32 * (i + 1)) (by omega) (i + 1)
            (output ++ hkdfBlock prk info (i + 1)) rfl
          rw [min_eq_right (by omega), List.take_of_length_le hlen.le, List.take_of_length_le
            (by omega), ← Nat.mul_succ, hrest, List.append_assoc, Nat.sub_sub, ← Nat.mul_succ]
      · rename_i hdone
        rw [Nat.sub_eq_zero_of_le (by omega), List.take_zero, List.append_nil]

/-- **The hash, HMAC and HKDF.** The hash of a message is the iteration of `transform` over the
padded message, in whatever pieces it is passed to `update`; `ls_hmac_sha256` is HMAC for keys of
every length; and `ls_hkdf_sha256` is HKDF wherever it does not reject its arguments. -/
theorem sha256_hmac_hkdf :
    (∀ pieces : List (List UInt8), finish (pieces.foldl update init) = sha256 pieces.flatten) ∧
    (∀ data, lsSha256 data = sha256 data) ∧
    (∀ key data, lsHmacSha256 key data = hmacSha256 key data) ∧
    ∀ salt ikm info n, lsHkdfSha256 salt ikm info n =
      if info.length ≤ lsHkdfMaxInfoSize ∧ n ≤ 255 * 32 then .ok (hkdfSha256 salt ikm info n)
      else .error .einval := by
  refine ⟨finish_updates, lsSha256_eq, lsHmacSha256_eq, fun salt ikm info n => ?_⟩
  have hsalt : (if salt.length ≠ 0 then salt else List.replicate 32 0)
      = if salt = [] then List.replicate 32 0 else salt := by
    cases salt <;> rfl
  rw [lsHkdfSha256, hsalt]
  by_cases hok : info.length ≤ lsHkdfMaxInfoSize ∧ n ≤ 255 * 32
  · have hexpand := hkdfFrom_spec
      (hmacSha256 (if salt = [] then List.replicate 32 0 else salt) ikm) info n n 0 [] rfl
    rw [if_neg (by omega), if_pos hok, lsHmacSha256_eq]
    refine congrArg Except.ok (hexpand.trans ?_)
    simp only [List.nil_append, Nat.sub_zero, Nat.mul_zero, Nat.zero_add]
    rfl
  · rw [if_pos (by omega), if_neg hok]

example : lsSha256 [0x61, 0x62, 0x63] =
    [0xba, 0x78, 0x16, 0xbf, 0x8f, 0x01, 0xcf, 0xea, 0x41, 0x41, 0x40, 0xde, 0x5d, 0xae, 0x22, 0x23,
      0xb0, 0x03, 0x61, 0xa3, 0x96, 0x17, 0x7a, 0x9c, 0xb4, 0x10, 0xff, 0x61, 0xf2, 0x00, 0x15,
      0xad] := by
  decide +kernel

end Latch
