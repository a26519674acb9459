
/-
Poly1305 of `src/security/poly1305.c`.

The accumulator and the key are kept in five limbs of 26 bits. A block is added to the
accumulator and the sum is multiplied by the key modulo `2 ^ 130 - 5`, with carries that are only
partly propagated between blocks; `finish` reduces fully. The arithmetic is checked, so that its
value and the absence of overflows are read off one definition.

* `Poly1305.blockStep_spec`: one block, on limbs within their bounds;
* `Poly1305.Authenticated`: what a context has taken in, kept by `update`;
* `Poly1305.reduce_spec`, `subtractPrime_spec`, `pack_spec`: the three parts of `finish`;
* `poly1305_exact`: the tag, and that nothing overflows on the way.
-/
import Latch.Lib.Blocks
import Latch.Lib.Bytes
import Latch.Lib.Checked

namespace Latch

open Blocks Bytes Checked

namespace Poly1305

/-! ### The block loop -/

/-- Five limbs of 26 bits. -/
structure Limbs where
  l0 : UInt32
  l1 : UInt32
  l2 : UInt32
  l3 : UInt32
  l4 : UInt32
  deriving DecidableEq, Repr

/-- The sum of the products of the limbs with five factors. -/
def products (h : Limbs) (c0 c1 c2 c3 c4 : UInt32) : CheckedM UInt64 := do
  let p0 ← mul64 h.l0.toUInt64 c0.toUInt64
  let p1 ← mul64 h.l1.toUInt64 c1.toUInt64
  let sum ← add64 p0 p1
  let p2 ← mul64 h.l2.toUInt64 c2.toUInt64
  let sum ← add64 sum p2
  let p3 ← mul64 h.l3.toUInt64 c3.toUInt64
  let sum ← add64 sum p3
  let p4 ← mul64 h.l4.toUInt64 c4.toUInt64
  add64 sum p4

/-- The carry of an accumulator, and the limb that stays. -/
def split26 (d : UInt64) : CheckedM (UInt32 × UInt32) := do
  let carry ← narrow (d >>> 26)
  pure (carry, d.toUInt32 &&& 0x3ffffff)

/-- The accumulator with a block added to it. -/
def addBlock (h : Limbs) (message : List UInt8) (hibit : UInt32) : CheckedM Limbs := do
  let h0 ← add32 h.l0 (get32 message 0 &&& 0x3ffffff)
  let h1 ← add32 h.l1 ((get32 message 3 >>> 2) &&& 0x3ffffff)
  let h2 ← add32 h.l2 ((get32 message 6 >>> 4) &&& 0x3ffffff)
  let h3 ← add32 h.l3 ((get32 message 9 >>> 6) &&& 0x3ffffff)
  let h4 ← add32 h.l4 ((get32 message 12 >>> 8) ||| hibit)
  pure ⟨h0, h1, h2, h3, h4⟩

/-- The limbs of five accumulators; each carry goes to the next one, and the last to the first. -/
def carryLimbs (d0 d1 d2 d3 d4 : UInt64) : CheckedM Limbs := do
  let (carry, h0) ← split26 d0
  let d1 ← add64 d1 carry.toUInt64
  let (carry, h1) ← split26 d1
  let d2 ← add64 d2 carry.toUInt64
  let (carry, h2) ← split26 d2
  let d3 ← add64 d3 carry.toUInt64
  let (carry, h3) ← split26 d3
  let d4 ← add64 d4 carry.toUInt64
  let (carry, h4) ← split26 d4
  let carry5 ← mul32 carry 5
  let h0 ← add32 h0 carry5
  let h1 ← add32 h1 (h0 >>> 26)
  pure ⟨h0 &&& 0x3ffffff, h1, h2, h3, h4⟩

/-- The body of the loop of `blocks`. -/
def blockStep (r s : Limbs) (hibit : UInt32) (h : Limbs) (message : List UInt8) :
    CheckedM Limbs := do
  let h ← addBlock h message hibit
  let d0 ← products h r.l0 s.l4 s.l3 s.l2 s.l1
  let d1 ← products h r.l1 r.l0 s.l4 s.l3 s.l2
  let d2 ← products h r.l2 r.l1 r.l0 s.l4 s.l3
  let d3 ← products h r.l3 r.l2 r.l1 r.l0 s.l4
  let d4 ← products h r.l4 r.l3 r.l2 r.l1 r.l0
  carryLimbs d0 d1 d2 d3 d4

/-- The loop of `blocks`. -/
def blocksFrom (r s : Limbs) (hibit : UInt32) (h : Limbs) (message : List UInt8) :
    CheckedM Limbs :=
  if 16 ≤ message.length then do
    let h ← blockStep r s hibit h (message.take 16)
    blocksFrom r s hibit h (message.drop 16)
  else pure h
termination_by message.length
decreasing_by
  rw [List.length_drop]
  omega

/-- `ls_poly1305_context_t`. The bytes of the buffer are the `leftover` ones. -/
structure Context where
  r : Limbs
  h : Limbs
  pad0 : UInt32
  pad1 : UInt32
  pad2 : UInt32
  pad3 : UInt32
  buffer : List UInt8
  final : Bool
  leftover_lt : buffer.length < 16

/-- The limbs of `r` times five; the first one is not used. -/
def timesFive (r : Limbs) : CheckedM Limbs := do
  let s1 ← mul32 r.l1 5
  let s2 ← mul32 r.l2 5
  let s3 ← mul32 r.l3 5
  let s4 ← mul32 r.l4 5
  pure ⟨0, s1, s2, s3, s4⟩

/-- `blocks`, on the bytes `message`. -/
def blocks (context : Context) (message : List UInt8) : CheckedM Context := do
  let hibit : UInt32 := if context.final then 0 else (1 : UInt32) <<< 24
  let s ← timesFive context.r
  let h ← blocksFrom context.r s hibit context.h message
  pure { context with h := h }

end Poly1305

open Poly1305

/-- `ls_poly1305_init`. -/
def lsPoly1305Init (key : List UInt8) : Context where
  r := ⟨get32 key 0 &&& 0x3ffffff, (get32 key 3 >>> 2) &&& 0x3ffff03,
    (get32 key 6 >>> 4) &&& 0x3ffc0ff, (get32 key 9 >>> 6) &&& 0x3f03fff,
    (get32 key 12 >>> 8) &&& 0x00fffff⟩
  h := ⟨0, 0, 0, 0, 0⟩
  pad0 := get32 key 16
  pad1 := get32 key 20
  pad2 := get32 key 24
  pad3 := get32 key 28
  buffer := []
  final := false
  leftover_lt := by decide

namespace Poly1305

/-- The whole blocks of the message, in `ls_poly1305_update`. -/
def wholeBlocks (context : Context) (message : List UInt8) : CheckedM Context :=
  if 16 ≤ message.length then blocks context (message.take (16 * (message.length / 16)))
  else pure context

/-- The end of `ls_poly1305_update`: what is behind the whole blocks is kept. -/
def keepRest (context : Context) (message : List UInt8) : Context :=
  if message.length - 16 * (message.length / 16) ≠ 0 then
    { context with
      buffer := message.drop (16 * (message.length / 16))
      leftover_lt := by
        rw [List.length_drop]
        omega }
  else context

/-- `ls_poly1305_update` behind its first branch. -/
def updateWhole (context : Context) (message : List UInt8) : CheckedM Context := do
  let context ← wholeBlocks context message
  pure (keepRest context message)

end Poly1305

/-- `ls_poly1305_update`. -/
def lsPoly1305Update (context : Context) (message : List UInt8) : CheckedM Context :=
  if message.length = 0 then pure context
  else if context.buffer.length ≠ 0 then
    let want := min (16 - context.buffer.length) message.length
    if h : (context.buffer ++ message.take want).length < 16 then
      pure { context with
        buffer := context.buffer ++ message.take want
        leftover_lt := h }
    else do
      let context ← blocks context (context.buffer ++ message.take want)
      updateWhole { context with buffer := [], leftover_lt := by decide } (message.drop want)
  else updateWhole context message

namespace Poly1305

/-! ### The end -/

/-- What is left over, as a block of its own. -/
def lastBlock (context : Context) : CheckedM Context :=
  if context.buffer.length ≠ 0 then
    blocks { context with final := true }
      (context.buffer ++ [1] ++ List.replicate (16 - (context.buffer.length + 1)) 0)
  else pure context

/-- The carries that the loop has left. -/
def reduce (h : Limbs) : Limbs :=
  let carry := h.l1 >>> 26
  let h1 := h.l1 &&& 0x3ffffff
  let h2 := h.l2 + carry
  let carry := h2 >>> 26
  let h2 := h2 &&& 0x3ffffff
  let h3 := h.l3 + carry
  let carry := h3 >>> 26
  let h3 := h3 &&& 0x3ffffff
  let h4 := h.l4 + carry
  let carry := h4 >>> 26
  let h4 := h4 &&& 0x3ffffff
  let h0 := h.l0 + carry * 5
  let carry := h0 >>> 26
  let h0 := h0 &&& 0x3ffffff
  let h1 := h1 + carry
  ⟨h0, h1, h2, h3, h4⟩

/-- The prime is subtracted where this does not go below zero. -/
def subtractPrime (h : Limbs) : Limbs :=
  let g0 := h.l0 + 5
  let carry := g0 >>> 26
  let g0 := g0 &&& 0x3ffffff
  let g1 := h.l1 + carry
  let carry := g1 >>> 26
  let g1 := g1 &&& 0x3ffffff
  let g2 := h.l2 + carry
  let carry := g2 >>> 26
  let g2 := g2 &&& 0x3ffffff
  let g3 := h.l3 + carry
  let carry := g3 >>> 26
  let g3 := g3 &&& 0x3ffffff
  let g4 := h.l4 + carry - (1 : UInt32) <<< 26
  let mask := (g4 >>> 31) - 1
  ⟨(h.l0 &&& ~~~mask) ||| (g0 &&& mask), (h.l1 &&& ~~~mask) ||| (g1 &&& mask),
    (h.l2 &&& ~~~mask) ||| (g2 &&& mask), (h.l3 &&& ~~~mask) ||| (g3 &&& mask),
    (h.l4 &&& ~~~mask) ||| (g4 &&& mask)⟩

/-- The tag: the limbs in four words, plus the second half of the key. -/
def pack (h : Limbs) (pad0 pad1 pad2 pad3 : UInt32) : List UInt8 :=
  let f0 := (h.l0 ||| h.l1 <<< 26).toUInt64 + pad0.toUInt64
  let f1 := (h.l1 >>> 6 ||| h.l2 <<< 20).toUInt64 + pad1.toUInt64 + f0 >>> 32
  let f2 := (h.l2 >>> 12 ||| h.l3 <<< 14).toUInt64 + pad2.toUInt64 + f1 >>> 32
  let f3 := (h.l3 >>> 18 ||| h.l4 <<< 8).toUInt64 + pad3.toUInt64 + f2 >>> 32
  le32 f0.toUInt32 ++ le32 f1.toUInt32 ++ le32 f2.toUInt32 ++ le32 f3.toUInt32

end Poly1305

/-- `ls_poly1305_finish`. -/
def lsPoly1305Finish (context : Context) : CheckedM (List UInt8) := do
  let context ← lastBlock context
  pure (pack (subtractPrime (reduce context.h)) context.pad0 context.pad1 context.pad2
    context.pad3)

/-- A tag over some pieces of a message. -/
def poly1305Of (key : List UInt8) (pieces : List (List UInt8)) : CheckedM (List UInt8) := do
  let context ← pieces.foldlM lsPoly1305Update (lsPoly1305Init key)
  lsPoly1305Finish context

/-! ### The definition -/

/-- The prime of the field. -/
def poly1305Prime : ℕ := 2 ^ 130 - 5

/-- The first half of the key, with some of its bits cleared. -/
def clampedKey (key : List UInt8) : ℕ := num (key.take 16) &&& 0x0ffffffc0ffffffc0ffffffc0fffffff

/-- The blocks of a message; the last one may be shorter. -/
def poly1305Blocks (m : List UInt8) : List (List UInt8) :=
  Blocks.blocks 16 m ++ if rest 16 m = [] then [] else [rest 16 m]

/-- Poly1305: the blocks, each with a one bit appended, are the coefficients of a polynomial that
is evaluated at the first half of the key; the second half is added. -/
def poly1305 (key m : List UInt8) : List UInt8 :=
  let q := (poly1305Blocks m).length
  put 16 ((∑ i ∈ Finset.range q, num ((poly1305Blocks m).getD i [] ++ [1]) * clampedKey key ^ (q - i))
    % poly1305Prime + field key 16 16)

/-! ### Words and limbs -/

namespace Poly1305

variable (l : List UInt8) (x : UInt32)

lemma num_drop (k : ℕ) : num (l.drop k) = num l / 256 ^ k := by
  induction k generalizing l with
  | zero => simp
  | succ k ih =>
      cases l with
      | nil => simp [num]
      | cons b l =>
          have hb := b.toNat_lt
          rw [List.drop_succ_cons, ih, num, pow_succ', ← Nat.div_div_eq_div_mul]
          congr 1
          omega

lemma num_take (k : ℕ) : num (l.take k) = num l % 256 ^ k := by
  induction k generalizing l with
  | zero => simp [num, Nat.mod_one]
  | succ k ih =>
      cases l with
      | nil => simp [num]
      | cons b l =>
          have hb := b.toNat_lt
          have hdiv : (b.toNat + 256 * num l) / 256 = num l := by omega
          have hmod : (b.toNat + 256 * num l) % 256 = b.toNat := by omega
          rw [List.take_succ_cons, num, num, ih, pow_succ', Nat.mod_mul, hdiv, hmod]

lemma num_append (a b : List UInt8) : num (a ++ b) = num a + 256 ^ a.length * num b := by
  induction a with
  | nil => simp [num]
  | cons x a ih =>
      rw [List.cons_append, num, num, ih, List.length_cons, pow_succ']
      ring

/-- A field of a string, by its number. -/
lemma field_eq (off w : ℕ) : field l off w = num l / 256 ^ off % 256 ^ w := by
  rw [field, num_take, num_drop]

lemma toNat_get32 (off : ℕ) :
    (get32 l off).toNat = num l / 256 ^ off % 2 ^ 32 := by
  rw [get32, field_eq, UInt32.toNat_ofNat']
  exact Nat.mod_mod _ _

/-- A word in its low limb and the bits above it. -/
lemma limb_split : x.toNat = (x &&& 0x3ffffff).toNat + 2 ^ 26 * (x >>> 26).toNat ∧
    (x &&& 0x3ffffff).toNat < 2 ^ 26 := by
  have hlow : (x &&& 0x3ffffff).toNat = x.toNat % 2 ^ 26 := by
    rw [UInt32.toNat_and]
    exact Nat.and_two_pow_sub_one_eq_mod _ 26
  have hhigh : (x >>> 26).toNat = x.toNat / 2 ^ 26 := by
    rw [UInt32.toNat_shiftRight]
    exact Nat.shiftRight_eq_div_pow _ _
  omega

lemma toNat_low : (x &&& 0x3ffffff).toNat = x.toNat % 2 ^ 26 := by
  have := limb_split x
  omega

lemma toNat_shr (k : UInt32) : (x >>> k).toNat = x.toNat / 2 ^ (k.toNat % 32) := by
  rw [UInt32.toNat_shiftRight, Nat.shiftRight_eq_div_pow]

/-- The number of five limbs. -/
def Limbs.val (x : Limbs) : ℕ :=
  x.l0.toNat + 2 ^ 26 * x.l1.toNat + 2 ^ 52 * x.l2.toNat + 2 ^ 78 * x.l3.toNat + 2 ^ 104 * x.l4.toNat

/-- Every limb is below `n`. -/
structure Limbs.Below (x : Limbs) (n : ℕ) : Prop where
  l0 : x.l0.toNat < n
  l1 : x.l1.toNat < n
  l2 : x.l2.toNat < n
  l3 : x.l3.toNat < n
  l4 : x.l4.toNat < n

/-- The limbs between two blocks; the second one may still hold a carry. -/
structure Limbs.Reduced (x : Limbs) : Prop where
  l0 : x.l0.toNat < 2 ^ 26
  l1 : x.l1.toNat < 2 ^ 26 + 64
  l2 : x.l2.toNat < 2 ^ 26
  l3 : x.l3.toNat < 2 ^ 26
  l4 : x.l4.toNat < 2 ^ 26

/-! ### One block -/

section Block

variable {h r s : Limbs} {message : List UInt8} {hibit : UInt32}

/-- The sum of five products fits where the product of the bounds does. -/
lemma products_spec {c0 c1 c2 c3 c4 : UInt32} {n c : ℕ} (hh : h.Below (n + 1))
    (h0 : c0.toNat ≤ c) (h1 : c1.toNat ≤ c) (h2 : c2.toNat ≤ c) (h3 : c3.toNat ≤ c)
    (h4 : c4.toNat ≤ c) (hfit : 5 * (n * c) < 2 ^ 64) :
    Yields (products h c0 c1 c2 c3 c4) fun d => d.toNat =
      h.l0.toNat * c0.toNat + h.l1.toNat * c1.toNat + h.l2.toNat * c2.toNat +
        h.l3.toNat * c3.toNat + h.l4.toNat * c4.toNat ∧ d.toNat ≤ 5 * (n * c) := by
  have hp0 := Nat.mul_le_mul (Nat.le_of_lt_succ hh.l0) h0
  have hp1 := Nat.mul_le_mul (Nat.le_of_lt_succ hh.l1) h1
  have hp2 := Nat.mul_le_mul (Nat.le_of_lt_succ hh.l2) h2
  have hp3 := Nat.mul_le_mul (Nat.le_of_lt_succ hh.l3) h3
  have hp4 := Nat.mul_le_mul (Nat.le_of_lt_succ hh.l4) h4
  have hmul : ∀ x y : UInt32, x.toNat * y.toNat ≤ n * c →
      Yields (mul64 x.toUInt64 y.toUInt64) fun z => z.toNat = x.toNat * y.toNat := fun x y hxy =>
    yields_mul64 (by rw [UInt32.toNat_toUInt64, UInt32.toNat_toUInt64]; omega)
  refine yields_bind (hmul _ _ hp0) fun p0 e0 => yields_bind (hmul _ _ hp1) fun p1 e1 => ?_
  refine yields_bind (yields_add64 (by omega)) fun s1 f1 => ?_
  refine yields_bind (hmul _ _ hp2) fun p2 e2 => ?_
  refine yields_bind (yields_add64 (by omega)) fun s2 f2 => ?_
  refine yields_bind (hmul _ _ hp3) fun p3 e3 => ?_
  refine yields_bind (yields_add64 (by omega)) fun s3 f3 => ?_
  refine yields_bind (hmul _ _ hp4) fun p4 e4 => ?_
  exact (yields_add64 (by omega)).mono fun d hd => by omega

lemma yields_times5 {x : UInt32} (hx : x.toNat * 5 < 2 ^ 32) :
    Yields (mul32 x 5) fun z => z.toNat = x.toNat * 5 := yields_mul32 hx

/-- An accumulator below `2 ^ 58` has a carry of 32 bits. -/
lemma split26_spec {d : UInt64} (hd : d.toNat < 2 ^ 58) : Yields (split26 d) fun x =>
    d.toNat = x.2.toNat + 2 ^ 26 * x.1.toNat ∧ x.2.toNat < 2 ^ 26 := by
  have hshift : (d >>> 26).toNat = d.toNat / 2 ^ 26 := by
    rw [UInt64.toNat_shiftRight]
    exact Nat.shiftRight_eq_div_pow _ _
  refine yields_bind (yields_narrow (by omega)) fun carry hcarry => yields_pure ?_
  dsimp only
  rw [toNat_low, UInt64.toNat_toUInt32]
  omega

/-- The limbs of a block. -/
lemma addBlock_spec (hh : h.Reduced) (hlen : message.length = 16)
    (hbit : hibit = 0 ∨ hibit = (1 : UInt32) <<< 24) :
    Yields (addBlock h message hibit) fun h' => h'.Below (2 ^ 27 + 64) ∧
      h'.val = h.val + num message + 2 ^ 104 * hibit.toNat := by
  obtain ⟨b0, b1, b2, b3, b4⟩ := hh
  have hnum : num message < 2 ^ 128 := by
    have := num_lt message
    rwa [hlen] at this
  have e0 : (get32 message 0 &&& 0x3ffffff).toNat = num message % 2 ^ 26 := by
    rw [toNat_low, toNat_get32]
    omega
  have e1 : ((get32 message 3 >>> 2) &&& 0x3ffffff).toNat = num message / 2 ^ 26 % 2 ^ 26 := by
    rw [toNat_low, toNat_shr, toNat_get32]
    change num message / 256 ^ 3 % 2 ^ 32 / 2 ^ 2 % 2 ^ 26 = _
    omega
  have e2 : ((get32 message 6 >>> 4) &&& 0x3ffffff).toNat = num message / 2 ^ 52 % 2 ^ 26 := by
    rw [toNat_low, toNat_shr, toNat_get32]
    change num message / 256 ^ 6 % 2 ^ 32 / 2 ^ 4 % 2 ^ 26 = _
    omega
  have e3 : ((get32 message 9 >>> 6) &&& 0x3ffffff).toNat = num message / 2 ^ 78 % 2 ^ 26 := by
    rw [toNat_low, toNat_shr, toNat_get32]
    change num message / 256 ^ 9 % 2 ^ 32 / 2 ^ 6 % 2 ^ 26 = _
    omega
  have e4 : ((get32 message 12 >>> 8) ||| hibit).toNat = num message / 2 ^ 104 + hibit.toNat := by
    have htop : (get32 message 12 >>> 8).toNat = num message / 2 ^ 104 := by
      rw [toNat_shr, toNat_get32]
      change num message / 256 ^ 12 % 2 ^ 32 / 2 ^ 8 = _
      omega
    obtain rfl | rfl := hbit
    · rw [UInt32.or_zero, htop]
      rfl
    · rw [UInt32.toNat_or, Nat.or_comm, htop, Nat.add_comm]
      exact (Nat.shiftLeft_add_eq_or_of_lt (show num message / 2 ^ 104 < 2 ^ 24 by omega) 1).symm
  have hibit_le : hibit.toNat ≤ 2 ^ 24 := by
    obtain rfl | rfl := hbit <;> decide
  refine yields_bind (yields_add32 (by omega)) fun h0 f0 => ?_
  refine yields_bind (yields_add32 (by omega)) fun h1 f1 => ?_
  refine yields_bind (yields_add32 (by omega)) fun h2 f2 => ?_
  refine yields_bind (yields_add32 (by omega)) fun h3 f3 => ?_
  refine yields_bind (yields_add32 (by omega)) fun h4 f4 => yields_pure ⟨⟨?_, ?_, ?_, ?_, ?_⟩, ?_⟩
  · change h0.toNat < _
    omega
  · change h1.toNat < _
    omega
  · change h2.toNat < _
    omega
  · change h3.toNat < _
    omega
  · change h4.toNat < _
    omega
  · change h0.toNat + 2 ^ 26 * h1.toNat + 2 ^ 52 * h2.toNat + 2 ^ 78 * h3.toNat + 2 ^ 104 * h4.toNat = _
    rw [Limbs.val, f0, f1, f2, f3, f4, e0, e1, e2, e3, e4]
    omega

/-- A carry that is added to an accumulator, and the limb that stays. -/
lemma add_split26_spec {d : UInt64} {c : UInt32} (hd : d.toNat + c.toNat < 2 ^ 58) {β : Type}
    {f : UInt32 × UInt32 → CheckedM β} {Q : β → Prop}
    (hf : ∀ c' y : UInt32, d.toNat + c.toNat = y.toNat + 2 ^ 26 * c'.toNat → y.toNat < 2 ^ 26 →
      Yields (f (c', y)) Q) :
    Yields (add64 d c.toUInt64 >>= fun d => split26 d >>= f) Q := by
  have hadd := @yields_add64 d c.toUInt64
  rw [UInt32.toNat_toUInt64] at hadd
  refine yields_bind (hadd (by omega)) fun d' hd' => ?_
  refine yields_bind (split26_spec (by omega)) fun ⟨c', y⟩ ⟨heq, hlt⟩ => hf c' y ?_ hlt
  rw [← hd']
  exact heq

/-- **The carries**: nothing is lost but a multiple of the prime. -/
lemma carryLimbs_spec {d0 d1 d2 d3 d4 : UInt64} (k0 : d0.toNat < 2 ^ 58 - 2 ^ 32)
    (k1 : d1.toNat < 2 ^ 58 - 2 ^ 32) (k2 : d2.toNat < 2 ^ 58 - 2 ^ 32)
    (k3 : d3.toNat < 2 ^ 58 - 2 ^ 32) (k4 : d4.toNat < 6 * 2 ^ 53 - 2 ^ 32) :
    Yields (carryLimbs d0 d1 d2 d3 d4) fun h => h.Reduced ∧ ∃ c, h.val + poly1305Prime * c
      = d0.toNat + 2 ^ 26 * d1.toNat + 2 ^ 52 * d2.toNat + 2 ^ 78 * d3.toNat
        + 2 ^ 104 * d4.toNat := by
  refine yields_bind (split26_spec (by omega)) fun ⟨c0, y0⟩ ⟨f0, g0⟩ => ?_
  dsimp only at f0 g0
  refine add_split26_spec (by omega) fun c1 y1 f1 g1 => ?_
  refine add_split26_spec (by omega) fun c2 y2 f2 g2 => ?_
  refine add_split26_spec (by omega) fun c3 y3 f3 g3 => ?_
  refine add_split26_spec (by omega) fun c4 y4 f4 g4 => ?_
  have hc : c4.toNat < 6 * 2 ^ 27 := by omega
  refine yields_bind (yields_times5 (by omega)) fun m5 am => ?_
  refine yields_bind (yields_add32 (by omega)) fun z0 az => ?_
  obtain ⟨hz, hz0⟩ := limb_split z0
  have hcarry : (z0 >>> 26).toNat < 64 := by omega
  refine yields_bind (yields_add32 (by omega)) fun z1 az1 =>
    yields_pure ⟨⟨hz0, ?_, g2, g3, g4⟩, c4.toNat, ?_⟩
  · change z1.toNat < _
    omega
  · rw [Limbs.val, poly1305Prime]
    dsimp only
    omega

/-- The factors of a multiplication by `r`, with those that are reduced by `2 ^ 130 = 5`. -/
structure Factors (r s : Limbs) : Prop where
  below : r.Below (2 ^ 26)
  l1 : s.l1.toNat = r.l1.toNat * 5
  l2 : s.l2.toNat = r.l2.toNat * 5
  l3 : s.l3.toNat = r.l3.toNat * 5
  l4 : s.l4.toNat = r.l4.toNat * 5

/-- **One block**: the accumulator stays within its bounds, and is the sum with the block, times
`r`. -/
lemma blockStep_spec (hr : Factors r s) (hh : h.Reduced) (hlen : message.length = 16)
    (hbit : hibit = 0 ∨ hibit = (1 : UInt32) <<< 24) :
    Yields (blockStep r s hibit h message) fun h' => h'.Reduced ∧
      h'.val ≡ (h.val + num message + 2 ^ 104 * hibit.toNat) * r.val [MOD poly1305Prime] := by
  obtain ⟨⟨r0, r1, r2, r3, r4⟩, s1, s2, s3, s4⟩ := hr
  refine yields_bind (addBlock_spec hh hlen hbit) fun x ⟨hx, hval⟩ => ?_
  have hr : ∀ {c : UInt32}, c.toNat < 2 ^ 26 → c.toNat ≤ 5 * 2 ^ 26 := fun hc => by omega
  have hs : ∀ {c c' : UInt32}, c'.toNat = c.toNat * 5 → c.toNat < 2 ^ 26 →
    c'.toNat ≤ 5 * 2 ^ 26 := fun hc hlt => by omega
  have hd : ∀ c0 c1 c2 c3 c4 : UInt32, c0.toNat ≤ 5 * 2 ^ 26 → c1.toNat ≤ 5 * 2 ^ 26 →
      c2.toNat ≤ 5 * 2 ^ 26 → c3.toNat ≤ 5 * 2 ^ 26 → c4.toNat ≤ 5 * 2 ^ 26 → _ :=
    fun c0 c1 c2 c3 c4 k0 k1 k2 k3 k4 =>
      @products_spec x c0 c1 c2 c3 c4 (2 ^ 27 + 63) _ hx k0 k1 k2 k3 k4 (by norm_num)
  refine yields_bind (hd _ _ _ _ _ (hr r0) (hs s4 r4) (hs s3 r3) (hs s2 r2) (hs s1 r1))
    fun d0 ⟨e0, k0⟩ => ?_
  refine yields_bind (hd _ _ _ _ _ (hr r1) (hr r0) (hs s4 r4) (hs s3 r3) (hs s2 r2))
    fun d1 ⟨e1, k1⟩ => ?_
  refine yields_bind (hd _ _ _ _ _ (hr r2) (hr r1) (hr r0) (hs s4 r4) (hs s3 r3))
    fun d2 ⟨e2, k2⟩ => ?_
  refine yields_bind (hd _ _ _ _ _ (hr r3) (hr r2) (hr r1) (hr r0) (hs s4 r4))
    fun d3 ⟨e3, k3⟩ => ?_
  -- no factor of the last accumulator is a multiple of five, so its carry times five still fits
  refine yields_bind (@products_spec x _ _ _ _ _ (2 ^ 27 + 63) _ hx r4.le r3.le r2.le r1.le r0.le
    (by norm_num)) fun d4 ⟨e4, k4⟩ => ?_
  refine (carryLimbs_spec (k0.trans_lt (by norm_num)) (k1.trans_lt (by norm_num))
    (k2.trans_lt (by norm_num)) (k3.trans_lt (by norm_num)) (k4.trans_lt (by norm_num))).mono
    fun h' ⟨hred, c, hc⟩ => ⟨hred, ?_⟩
  have hproduct : x.val * r.val = d0.toNat + 2 ^ 26 * d1.toNat + 2 ^ 52 * d2.toNat
      + 2 ^ 78 * d3.toNat + 2 ^ 104 * d4.toNat + poly1305Prime *
        (x.l1.toNat * r.l4.toNat + x.l2.toNat * r.l3.toNat + x.l3.toNat * r.l2.toNat
          + x.l4.toNat * r.l1.toNat + 2 ^ 26 * (x.l2.toNat * r.l4.toNat
          + x.l3.toNat * r.l3.toNat + x.l4.toNat * r.l2.toNat)
          + 2 ^ 52 * (x.l3.toNat * r.l4.toNat + x.l4.toNat * r.l3.toNat)
          + 2 ^ 78 * (x.l4.toNat * r.l4.toNat)) := by
    rw [e0, e1, e2, e3, e4, s1, s2, s3, s4, Limbs.val, Limbs.val, poly1305Prime]
    ring
  rw [← hval, hproduct, ← hc]
  exact Nat.modEq_add_modulus_mul_iff.mpr (Nat.modEq_add_modulus_mul_iff.mpr rfl)

end Block

/-! ### Many blocks -/

/-- The polynomial by its coefficients, from the value `a` on. -/
def horner (r a : ℕ) (l : List (List UInt8)) : ℕ :=
  l.foldl (fun a b => (a + num (b ++ [1])) * r) a

lemma horner_append (r a : ℕ) (l l' : List (List UInt8)) :
    horner r a (l ++ l') = horner r (horner r a l) l' := List.foldl_append

lemma horner_modEq {r a a' n : ℕ} (h : a ≡ a' [MOD n]) (l : List (List UInt8)) :
    horner r a l ≡ horner r a' l [MOD n] := by
  induction l generalizing a a' with
  | nil => exact h
  | cons b l ih => exact ih ((h.add_right _).mul_right _)

/-- The polynomial as a sum. -/
lemma horner_eq_sum (r : ℕ) (l : List (List UInt8)) :
    horner r 0 l
      = ∑ i ∈ Finset.range l.length, num (l.getD i [] ++ [1]) * r ^ (l.length - i) := by
  induction l using List.reverseRecOn with
  | nil => rfl
  | append_singleton l b ih =>
      have hlast : (l ++ [b]).getD l.length [] = b := by simp
      have hold : ∀ i ∈ Finset.range l.length,
          num ((l ++ [b]).getD i [] ++ [1]) * r ^ (l.length + 1 - i)
            = num (l.getD i [] ++ [1]) * r ^ (l.length - i) * r := by
        intro i hi
        have hi := Finset.mem_range.mp hi
        rw [List.getD_eq_getElem?_getD, List.getElem?_append_left hi, ← List.getD_eq_getElem?_getD,
          Nat.sub_add_comm hi.le, pow_succ, mul_assoc]
      rw [horner_append, ih, List.length_append, List.length_singleton, Finset.sum_range_succ,
        hlast, Finset.sum_congr rfl hold, ← Finset.sum_mul, Nat.add_sub_cancel_left, pow_one,
        ← add_mul]
      rfl

/-- The one bit behind a whole block. -/
lemma num_marked {b : List UInt8} (h : b.length = 16) :
    num (b ++ [1]) = num b + 2 ^ 104 * ((1 : UInt32) <<< 24).toNat := by
  rw [num_append, h]
  rfl

section

variable {r s h : Limbs} {message key m : List UInt8} {context : Context}

/-- The loop of `blocks`. -/
lemma blocksFrom_spec (hr : Factors r s) (hh : h.Reduced) (message : List UInt8) :
    Yields (blocksFrom r s ((1 : UInt32) <<< 24) h message) fun h' => h'.Reduced ∧
      h'.val ≡ horner r.val h.val (Blocks.blocks 16 message) [MOD poly1305Prime] := by
  induction hn : message.length using Nat.strong_induction_on generalizing message h with
  | _ n ih =>
      rw [blocksFrom]
      split
      · rename_i hmore
        have hlen : (message.take 16).length = 16 := by
          rw [List.length_take, min_eq_left hmore]
        refine yields_bind (blockStep_spec hr hh hlen (.inr rfl)) fun h' ⟨hred, hval⟩ => ?_
        refine (ih (message.drop 16).length (by rw [List.length_drop]; omega) hred _ rfl).mono
          fun h'' ⟨hred', hval'⟩ => ⟨hred', hval'.trans ?_⟩
        rw [blocks_cons (by decide) hmore]
        rw [Nat.add_assoc, ← num_marked hlen] at hval
        exact horner_modEq hval _
      · rw [blocks_of_lt (by omega)]
        exact yields_pure ⟨hh, rfl⟩

lemma timesFive_spec (hr : r.Below (2 ^ 26)) : Yields (timesFive r) (Factors r) := by
  obtain ⟨-, h1, h2, h3, h4⟩ := id hr
  refine yields_bind (yields_times5 (by omega)) fun s1 e1 => ?_
  refine yields_bind (yields_times5 (by omega)) fun s2 e2 => ?_
  refine yields_bind (yields_times5 (by omega)) fun s3 e3 => ?_
  refine yields_bind (yields_times5 (by omega)) fun s4 e4 => ?_
  exact yields_pure ⟨hr, e1, e2, e3, e4⟩

/-- `blocks` on whole blocks. -/
lemma blocks_spec (hr : context.r.Below (2 ^ 26)) (hh : context.h.Reduced)
    (hfinal : context.final = false) (message : List UInt8) :
    Yields (blocks context message) fun c => ∃ h, c = { context with h := h } ∧ h.Reduced ∧
      h.val ≡ horner context.r.val context.h.val (Blocks.blocks 16 message)
        [MOD poly1305Prime] := by
  rw [blocks, hfinal]
  refine yields_bind (timesFive_spec hr) fun s hs => ?_
  exact yields_bind (blocksFrom_spec hs hh message) fun h' hh' => yields_pure ⟨h', rfl, hh'⟩

/-- `blocks` on the last block, which has its one bit among its bytes. -/
lemma blocks_final_spec (hr : context.r.Below (2 ^ 26)) (hh : context.h.Reduced)
    (hlen : message.length = 16) :
    Yields (blocks { context with final := true } message) fun c => ∃ h,
      c = { context with final := true, h := h } ∧ h.Reduced ∧
      h.val ≡ (context.h.val + num message) * context.r.val [MOD poly1305Prime] := by
  rw [blocks]
  refine yields_bind (timesFive_spec hr) fun s hs => ?_
  refine yields_bind (P := fun h' : Limbs => h'.Reduced ∧
    h'.val ≡ (context.h.val + num message) * context.r.val [MOD poly1305Prime]) ?_
    fun h' hh' => yields_pure ⟨h', rfl, hh'⟩
  rw [blocksFrom, if_pos hlen.ge, List.take_of_length_le hlen.le, List.drop_eq_nil_of_le hlen.le]
  refine yields_bind (blockStep_spec hs hh hlen (.inl rfl)) fun h' hh' => ?_
  rw [blocksFrom, if_neg (by decide)]
  exact yields_pure hh'

/-- The part of a context that only its key sets. -/
def Context.keyPart (c : Context) : Limbs × UInt32 × UInt32 × UInt32 × UInt32 × Bool :=
  (c.r, c.pad0, c.pad1, c.pad2, c.pad3, c.final)

/-- A context that has taken in the message `m` under a key. -/
structure Authenticated (key : List UInt8) (context : Context) (m : List UInt8) : Prop where
  keyed : context.keyPart = (lsPoly1305Init key).keyPart
  reduced : context.h.Reduced
  value : context.h.val ≡ horner (lsPoly1305Init key).r.val 0 (Blocks.blocks 16 m)
    [MOD poly1305Prime]
  buffer : context.buffer = rest 16 m

lemma Authenticated.r_eq (h : Authenticated key context m) :
    context.r = (lsPoly1305Init key).r := congrArg (fun k => k.1) h.keyed

lemma Authenticated.final_eq (h : Authenticated key context m) : context.final = false :=
  congrArg (fun k => k.2.2.2.2.2) h.keyed

/-- Whole blocks, where nothing is left over. -/
lemma Authenticated.blocks (h : Authenticated key context m)
    (hr : (lsPoly1305Init key).r.Below (2 ^ 26)) {whole : List UInt8} (hwhole : rest 16 whole = [])
    (hnone : rest 16 m = []) :
    Yields (blocks context whole) fun c => Authenticated key c (m ++ whole) := by
  refine (blocks_spec (by rwa [h.r_eq]) h.reduced h.final_eq whole).mono
    fun c ⟨h', hc, hred, hval⟩ => ?_
  subst hc
  refine ⟨h.keyed, hred, ?_, ?_⟩
  · rw [blocks_append (by decide), hnone, List.nil_append, horner_append]
    rw [h.r_eq] at hval
    exact hval.trans (horner_modEq h.value _)
  · rw [rest_append (by decide), hnone, List.nil_append, hwhole]
    exact h.buffer.trans hnone

/-- The end of `ls_poly1305_update`, where nothing is left over. -/
lemma Authenticated.updateWhole (h : Authenticated key context m)
    (hr : (lsPoly1305Init key).r.Below (2 ^ 26)) (hnone : rest 16 m = []) (message : List UInt8) :
    Yields (updateWhole context message) fun c => Authenticated key c (m ++ message) := by
  have hdiv := Nat.div_add_mod message.length 16
  have hlen : (message.take (16 * (message.length / 16))).length = 16 * (message.length / 16) := by
    rw [List.length_take]
    omega
  have hwhole : rest 16 (message.take (16 * (message.length / 16))) = [] := by
    rw [← List.length_eq_zero_iff, length_rest, hlen, Nat.mul_mod_right]
  have htaken : rest 16 (m ++ message.take (16 * (message.length / 16))) = [] := by
    rw [rest_append (by decide), hnone, List.nil_append, hwhole]
  have hfirst : Yields (wholeBlocks context message)
      fun c => Authenticated key c (m ++ message.take (16 * (message.length / 16))) := by
    rw [wholeBlocks]
    split
    · exact h.blocks hr hwhole hnone
    · have hzero : 16 * (message.length / 16) = 0 := by omega
      rw [hzero, List.take_zero, List.append_nil]
      exact yields_pure h
  refine yields_bind hfirst fun c hc => yields_pure ?_
  rw [keepRest]
  split
  · -- what is left starts a block
    have hlt : (rest 16 (m ++ message.take (16 * (message.length / 16)))).length
        + (message.drop (16 * (message.length / 16))).length < 16 := by
      rw [htaken, List.length_nil, List.length_drop]
      omega
    obtain ⟨hblocks, hrest⟩ := blocks_append_of_lt hlt
    rw [List.append_assoc, List.take_append_drop] at hblocks hrest
    rw [htaken, List.nil_append] at hrest
    refine ⟨hc.keyed, hc.reduced, ?_, hrest.symm⟩
    rw [hblocks]
    exact hc.value
  · rename_i hnothing
    have hall : message.take (16 * (message.length / 16)) = message :=
      List.take_of_length_le (by omega)
    rwa [hall] at hc

/-- **`ls_poly1305_update`** takes in its data behind the message so far. -/
lemma Authenticated.update (h : Authenticated key context m)
    (hr : (lsPoly1305Init key).r.Below (2 ^ 26)) (message : List UInt8) :
    Yields (lsPoly1305Update context message) fun c => Authenticated key c (m ++ message) := by
  have hlt := context.leftover_lt
  rw [lsPoly1305Update]
  split
  · rename_i hempty
    rw [List.length_eq_zero_iff.mp hempty, List.append_nil]
    exact yields_pure h
  split
  · dsimp only
    split
    · -- the block is still not full, so all of the message is in it
      rename_i hshort
      have hall : message.take (min (16 - context.buffer.length) message.length) = message := by
        rw [List.length_append, List.length_take] at hshort
        exact List.take_of_length_le (by omega)
      rw [hall, List.length_append, h.buffer] at hshort
      obtain ⟨hblocks, hrest⟩ := blocks_append_of_lt hshort
      refine yields_pure ⟨h.keyed, h.reduced, ?_, ?_⟩
      · rw [hblocks]
        exact h.value
      · rw [hrest, ← h.buffer]
        exact congrArg _ hall
    · -- the block is full
      rename_i hfull
      have htake : context.buffer.length
          + (message.take (min (16 - context.buffer.length) message.length)).length = 16 := by
        rw [List.length_append, List.length_take] at hfull
        rw [List.length_take]
        omega
      have hone := blocks_of_eq (n := 16) (by decide) (List.length_append.trans htake)
      rw [h.buffer] at htake
      obtain ⟨hblocks, hrest⟩ := blocks_append_of_eq (by decide) htake
      refine yields_bind (blocks_spec (by rwa [h.r_eq]) h.reduced h.final_eq _)
        fun c ⟨h', hc, hred, hval⟩ => ?_
      subst hc
      rw [hone, h.r_eq] at hval
      have hnext : Authenticated key
          { context with h := h', buffer := [], leftover_lt := by decide }
          (m ++ message.take (min (16 - context.buffer.length) message.length)) := by
        refine ⟨h.keyed, hred, ?_, ?_⟩
        · rw [h.buffer] at hval ⊢
          rw [hblocks, horner_append]
          exact hval.trans (horner_modEq h.value _)
        · rw [h.buffer, hrest]
      have hend := hnext.updateWhole hr (by rw [h.buffer, hrest])
        (message.drop (min (16 - context.buffer.length) message.length))
      rwa [List.append_assoc, List.take_append_drop] at hend
  · rename_i hnone
    refine h.updateWhole hr ?_ message
    rw [← h.buffer]
    exact List.length_eq_zero_iff.mp (not_not.mp hnone)

end

/-! ### The last reduction -/

section Finish

variable {h : Limbs}

lemma toNat_add_of_lt {x y : UInt32} (hxy : x.toNat + y.toNat < 2 ^ 32) :
    (x + y).toNat = x.toNat + y.toNat := by
  rw [UInt32.toNat_add, Nat.mod_eq_of_lt hxy]

/-- A sum of a limb and a carry, in a limb and the next carry. -/
lemma add_limb_split {x c : UInt32} (hxc : x.toNat + c.toNat < 2 ^ 32) :
    x.toNat + c.toNat
        = ((x + c) &&& 0x3ffffff).toNat + 2 ^ 26 * ((x + c) >>> 26).toNat ∧
      ((x + c) &&& 0x3ffffff).toNat < 2 ^ 26 := by
  rw [← toNat_add_of_lt hxc]
  exact limb_split _

/-- The carries of the loop: the number changes by the prime, if at all. -/
lemma reduce_spec (hh : h.Reduced) : (reduce h).Below (2 ^ 26) ∧
    (reduce h).val ≡ h.val [MOD poly1305Prime] := by
  obtain ⟨b0, b1, b2, b3, b4⟩ := hh
  obtain ⟨e1, k1⟩ := limb_split h.l1
  obtain ⟨e2, k2⟩ := @add_limb_split h.l2 (h.l1 >>> 26) (by omega)
  obtain ⟨e3, k3⟩ := @add_limb_split h.l3 ((h.l2 + h.l1 >>> 26) >>> 26) (by omega)
  obtain ⟨e4, k4⟩ := @add_limb_split h.l4 ((h.l3 + (h.l2 + h.l1 >>> 26) >>> 26) >>> 26) (by omega)
  rw [reduce]
  generalize h.l1 >>> 26 = c1 at *
  generalize (h.l2 + c1) >>> 26 = c2 at *
  generalize (h.l3 + c2) >>> 26 = c3 at *
  generalize (h.l4 + c3) >>> 26 = c4 at *
  have h5 : (c4 * 5).toNat = c4.toNat * 5 := by
    rw [UInt32.toNat_mul]
    change c4.toNat * 5 % 2 ^ 32 = _
    omega
  obtain ⟨e0, k0⟩ := @add_limb_split h.l0 (c4 * 5) (by omega)
  generalize (h.l0 + c4 * 5) >>> 26 = c0 at *
  have e1' : ((h.l1 &&& 0x3ffffff) + c0).toNat = (h.l1 &&& 0x3ffffff).toNat + c0.toNat :=
    toNat_add_of_lt (by omega)
  refine ⟨⟨k0, ?_, k2, k3, k4⟩, ?_⟩
  · rw [e1']
    omega
  · have hval : (⟨(h.l0 + c4 * 5) &&& 0x3ffffff, (h.l1 &&& 0x3ffffff) + c0,
        (h.l2 + c1) &&& 0x3ffffff, (h.l3 + c2) &&& 0x3ffffff, (h.l4 + c3) &&& 0x3ffffff⟩ :
          Limbs).val + poly1305Prime * c4.toNat = h.val := by
      rw [Limbs.val, Limbs.val, poly1305Prime]
      dsimp only
      omega
    rw [← hval]
    exact Nat.modEq_add_modulus_mul_iff.mpr rfl

/-- A choice by a mask of ones or zeros. -/
lemma select_zero (x y : UInt32) : (x &&& ~~~(0 : UInt32)) ||| (y &&& 0) = x := by simp

lemma select_ones (x y : UInt32) : (x &&& ~~~(0xffffffff : UInt32)) ||| (y &&& 0xffffffff) = y := by
  rw [show (0xffffffff : UInt32) = -1 from rfl]
  simp

/-- The subtraction of the prime leaves the remainder. -/
lemma subtractPrime_spec (hh : h.Below (2 ^ 26)) : (subtractPrime h).Below (2 ^ 26) ∧
    (subtractPrime h).val = h.val % poly1305Prime := by
  obtain ⟨b0, b1, b2, b3, b4⟩ := id hh
  have h5 : (5 : UInt32).toNat = 5 := rfl
  obtain ⟨e0, k0⟩ := @add_limb_split h.l0 5 (by omega)
  obtain ⟨e1, k1⟩ := @add_limb_split h.l1 ((h.l0 + 5) >>> 26) (by omega)
  obtain ⟨e2, k2⟩ := @add_limb_split h.l2 ((h.l1 + (h.l0 + 5) >>> 26) >>> 26) (by omega)
  obtain ⟨e3, k3⟩ := @add_limb_split h.l3 ((h.l2 + (h.l1 + (h.l0 + 5) >>> 26) >>> 26) >>> 26)
    (by omega)
  rw [subtractPrime]
  generalize (h.l0 + 5) >>> 26 = c0 at *
  generalize (h.l1 + c0) >>> 26 = c1 at *
  generalize (h.l2 + c1) >>> 26 = c2 at *
  generalize (h.l3 + c2) >>> 26 = c3 at *
  have hg : (h.l4 + c3 - (1 : UInt32) <<< 26).toNat
      = (2 ^ 32 - 2 ^ 26 + (h.l4.toNat + c3.toNat)) % 2 ^ 32 := by
    rw [UInt32.toNat_sub, toNat_add_of_lt (by omega)]
    rfl
  have htop : ((h.l4 + c3 - (1 : UInt32) <<< 26) >>> 31).toNat
      = (2 ^ 32 - 2 ^ 26 + (h.l4.toNat + c3.toNat)) % 2 ^ 32 / 2 ^ 31 := by
    rw [toNat_shr, hg]
    rfl
  generalize h.l4 + c3 - (1 : UInt32) <<< 26 = g4 at *
  by_cases hneg : h.l4.toNat + c3.toNat < 2 ^ 26
  · have hmask : g4 >>> 31 = 1 := UInt32.toNat_inj.mp (htop.trans (by change _ = 1; omega))
    rw [hmask, UInt32.sub_self, select_zero, select_zero, select_zero, select_zero, select_zero]
    refine ⟨hh, (Nat.mod_eq_of_lt ?_).symm⟩
    rw [Limbs.val, poly1305Prime]
    dsimp only
    omega
  · have hmask : g4 >>> 31 = 0 := UInt32.toNat_inj.mp (htop.trans (by change _ = 0; omega))
    rw [hmask, show (0 : UInt32) - 1 = 0xffffffff from rfl, select_ones, select_ones, select_ones,
      select_ones, select_ones]
    refine ⟨⟨k0, k1, k2, k3, ?_⟩, ?_⟩
    · change g4.toNat < _
      omega
    · have hval : h.val = (⟨(h.l0 + 5) &&& 0x3ffffff, (h.l1 + c0) &&& 0x3ffffff,
          (h.l2 + c1) &&& 0x3ffffff, (h.l3 + c2) &&& 0x3ffffff, g4⟩ : Limbs).val
            + poly1305Prime := by
        rw [Limbs.val, Limbs.val, poly1305Prime]
        dsimp only
        omega
      rw [hval, Nat.add_mod_right]
      refine (Nat.mod_eq_of_lt ?_).symm
      rw [Limbs.val, poly1305Prime]
      dsimp only
      omega

/-! ### The tag -/

/-- The low bits of one limb and those of the next above them. -/
lemma toNat_or_shl {x y k : UInt32} {n : ℕ} (hk : k.toNat % 32 = n) (hx : x.toNat < 2 ^ n) :
    (x ||| y <<< k).toNat = x.toNat + 2 ^ n * (y.toNat % 2 ^ (32 - n)) := by
  have hn : n ≤ 32 := by omega
  have hshift : (y <<< k).toNat = (y.toNat % 2 ^ (32 - n)) <<< n := by
    have hpow : 2 ^ 32 = 2 ^ n * 2 ^ (32 - n) := by rw [← pow_add, Nat.add_sub_cancel' hn]
    rw [UInt32.toNat_shiftLeft, hk, Nat.shiftLeft_eq, Nat.shiftLeft_eq, Nat.mul_comm, hpow,
      Nat.mul_mod_mul_left, Nat.mul_comm]
  rw [UInt32.toNat_or, hshift, Nat.or_comm, ← Nat.shiftLeft_add_eq_or_of_lt hx, Nat.shiftLeft_eq,
    Nat.add_comm, Nat.mul_comm]

lemma put_mod (w n : ℕ) : put w (n % 256 ^ w) = put w n := by
  have h := put_num (put w n)
  rwa [put_length, num_put] at h

lemma put_add (a b n : ℕ) : put (a + b) n = put a n ++ put b (n / 256 ^ a) := by
  induction a generalizing n with
  | zero => simp [put]
  | succ a ih =>
      rw [Nat.succ_add, put, ih, put, Nat.div_div_eq_div_mul, ← pow_succ', List.cons_append]

lemma put_congr {w n n' : ℕ} (hn : n % 256 ^ w = n' % 256 ^ w) : put w n = put w n' := by
  rw [← put_mod, hn, put_mod]

lemma toNat_sum64 {x y : UInt32} : (x.toUInt64 + y.toUInt64).toNat = x.toNat + y.toNat := by
  have hx := x.toNat_lt
  have hy := y.toNat_lt
  rw [UInt64.toNat_add, UInt32.toNat_toUInt64, UInt32.toNat_toUInt64]
  omega

lemma toNat_sum64_carry {x y : UInt32} {f : UInt64} :
    (x.toUInt64 + y.toUInt64 + f >>> 32).toNat = x.toNat + y.toNat + f.toNat / 2 ^ 32 := by
  have hx := x.toNat_lt
  have hy := y.toNat_lt
  have hf := f.toNat_lt
  have hshift : (f >>> 32).toNat = f.toNat / 2 ^ 32 := by
    rw [UInt64.toNat_shiftRight]
    exact Nat.shiftRight_eq_div_pow _ _
  rw [UInt64.toNat_add, toNat_sum64, hshift]
  omega

/-- The four words of five limbs. -/
lemma words_spec (hh : h.Below (2 ^ 26)) : h.val = (h.l0 ||| h.l1 <<< 26).toNat
    + 2 ^ 32 * (h.l1 >>> 6 ||| h.l2 <<< 20).toNat + 2 ^ 64 * (h.l2 >>> 12 ||| h.l3 <<< 14).toNat
    + 2 ^ 96 * (h.l3 >>> 18 ||| h.l4 <<< 8).toNat + 2 ^ 128 * (h.l4.toNat / 2 ^ 24) := by
  obtain ⟨b0, b1, b2, b3, b4⟩ := hh
  have e1 : (h.l1 >>> 6).toNat = h.l1.toNat / 2 ^ 6 := toNat_shr _ _
  have e2 : (h.l2 >>> 12).toNat = h.l2.toNat / 2 ^ 12 := toNat_shr _ _
  have e3 : (h.l3 >>> 18).toNat = h.l3.toNat / 2 ^ 18 := toNat_shr _ _
  rw [@toNat_or_shl h.l0 h.l1 26 26 rfl b0, @toNat_or_shl _ h.l2 20 20 rfl (by omega),
    @toNat_or_shl _ h.l3 14 14 rfl (by omega), @toNat_or_shl _ h.l4 8 8 rfl (by omega), e1, e2, e3,
    Limbs.val]
  omega

/-- The tag is the sum of the limbs and of the second half of the key, without its carry. -/
lemma pack_spec (hh : h.Below (2 ^ 26)) (pad0 pad1 pad2 pad3 : UInt32) :
    pack h pad0 pad1 pad2 pad3 = put 16 (h.val + (pad0.toNat + 2 ^ 32 * pad1.toNat
      + 2 ^ 64 * pad2.toNat + 2 ^ 96 * pad3.toNat)) := by
  have hle : ∀ f : UInt64, le32 f.toUInt32 = put 4 f.toNat := fun f => by
    rw [le32, UInt64.toNat_toUInt32]
    exact put_mod 4 f.toNat
  rw [pack, words_spec hh]
  generalize h.l0 ||| h.l1 <<< 26 = w0
  generalize h.l1 >>> 6 ||| h.l2 <<< 20 = w1
  generalize h.l2 >>> 12 ||| h.l3 <<< 14 = w2
  generalize h.l3 >>> 18 ||| h.l4 <<< 8 = w3
  rw [hle, hle, hle, hle, put_add 12 4, put_add 8 4, put_add 4 4]
  simp only [toNat_sum64_carry, toNat_sum64]
  refine congrArg₂ _ (congrArg₂ _ (congrArg₂ _ (put_congr ?_) (put_congr ?_)) (put_congr ?_))
    (put_congr ?_)
  all_goals omega

/-- The first half of the key, in limbs. -/
lemma init_spec (key : List UInt8) : (lsPoly1305Init key).r.Below (2 ^ 26) ∧
    (lsPoly1305Init key).r.val = clampedKey key := by
  have hlt : num (key.take 16) < 2 ^ 128 := by
    rw [num_take]
    exact Nat.mod_lt _ (by norm_num)
  have hget : ∀ off, off + 4 ≤ 16 →
      (get32 key off).toNat = num (key.take 16) / 256 ^ off % 2 ^ 32 := fun off hoff => by
    rw [← get32_take key hoff, toNat_get32]
  -- a limb of the masked key is the limb, masked
  have hlimb : ∀ n, clampedKey key / 2 ^ n % 2 ^ 26 = num (key.take 16) / 2 ^ n % 2 ^ 26 &&&
      0x0ffffffc0ffffffc0ffffffc0fffffff / 2 ^ n % 2 ^ 26 := fun n => by
    rw [clampedKey, Nat.and_div_two_pow, Nat.and_mod_two_pow]
  have hclamped : clampedKey key < 2 ^ 128 := Nat.and_lt_two_pow _ (by norm_num)
  have hand : ∀ {x y : UInt32} {a b : ℕ}, x.toNat % 2 ^ 26 = a → y.toNat = b → b < 2 ^ 26 →
      (x &&& y).toNat = a &&& b := fun {x y a b} hx hy hb => by
    have hle : (x &&& y).toNat < 2 ^ 26 := by
      rw [UInt32.toNat_and]
      exact Nat.and_lt_two_pow _ (hy ▸ hb)
    rw [← Nat.mod_eq_of_lt hle, UInt32.toNat_and, Nat.and_mod_two_pow, hx, hy,
      Nat.mod_eq_of_lt hb]
  have e0 : (lsPoly1305Init key).r.l0.toNat = clampedKey key / 2 ^ 0 % 2 ^ 26 := by
    rw [hlimb]
    refine hand ?_ rfl (Nat.mod_lt _ (by norm_num))
    rw [hget 0 (by decide)]
    omega
  have e1 : (lsPoly1305Init key).r.l1.toNat = clampedKey key / 2 ^ 26 % 2 ^ 26 := by
    rw [hlimb]
    refine hand ?_ rfl (Nat.mod_lt _ (by norm_num))
    rw [toNat_shr, hget 3 (by decide)]
    change num (key.take 16) / 256 ^ 3 % 2 ^ 32 / 2 ^ 2 % 2 ^ 26 = _
    omega
  have e2 : (lsPoly1305Init key).r.l2.toNat = clampedKey key / 2 ^ 52 % 2 ^ 26 := by
    rw [hlimb]
    refine hand ?_ rfl (Nat.mod_lt _ (by norm_num))
    rw [toNat_shr, hget 6 (by decide)]
    change num (key.take 16) / 256 ^ 6 % 2 ^ 32 / 2 ^ 4 % 2 ^ 26 = _
    omega
  have e3 : (lsPoly1305Init key).r.l3.toNat = clampedKey key / 2 ^ 78 % 2 ^ 26 := by
    rw [hlimb]
    refine hand ?_ rfl (Nat.mod_lt _ (by norm_num))
    rw [toNat_shr, hget 9 (by decide)]
    change num (key.take 16) / 256 ^ 9 % 2 ^ 32 / 2 ^ 6 % 2 ^ 26 = _
    omega
  have e4 : (lsPoly1305Init key).r.l4.toNat = clampedKey key / 2 ^ 104 % 2 ^ 26 := by
    rw [hlimb]
    refine hand ?_ rfl (Nat.mod_lt _ (by norm_num))
    rw [toNat_shr, hget 12 (by decide)]
    change num (key.take 16) / 256 ^ 12 % 2 ^ 32 / 2 ^ 8 % 2 ^ 26 = _
    omega
  refine ⟨⟨?_, ?_, ?_, ?_, ?_⟩, ?_⟩
  · omega
  · omega
  · omega
  · omega
  · omega
  · rw [Limbs.val, e0, e1, e2, e3, e4]
    omega

/-- The second half of the key, in words. -/
lemma init_pad (key : List UInt8) : (lsPoly1305Init key).pad0.toNat
    + 2 ^ 32 * (lsPoly1305Init key).pad1.toNat + 2 ^ 64 * (lsPoly1305Init key).pad2.toNat
    + 2 ^ 96 * (lsPoly1305Init key).pad3.toNat = field key 16 16 := by
  rw [field_eq]
  change (get32 key 16).toNat + 2 ^ 32 * (get32 key 20).toNat + 2 ^ 64 * (get32 key 24).toNat
    + 2 ^ 96 * (get32 key 28).toNat = _
  rw [toNat_get32, toNat_get32, toNat_get32, toNat_get32]
  omega

lemma num_zeros (a : List UInt8) (n : ℕ) : num (a ++ List.replicate n 0) = num a := by
  have hzero : num (List.replicate n 0) = 0 := by
    induction n with
    | zero => rfl
    | succ n ih => rw [List.replicate_succ, num, ih]; rfl
  rw [num_append, hzero, Nat.mul_zero, Nat.add_zero]

/-- **`ls_poly1305_finish`** is the tag of what the context has taken in. -/
lemma Authenticated.finish {key m : List UInt8} {context : Context}
    (hc : Authenticated key context m) :
    lsPoly1305Finish context = pure (poly1305 key m) := by
  obtain ⟨hr, hrval⟩ := init_spec key
  -- the last block ends the polynomial
  have hlast : Yields (lastBlock context) fun c => c.h.Reduced ∧
      c.h.val ≡ horner (clampedKey key) 0 (poly1305Blocks m) [MOD poly1305Prime] ∧
      (c.pad0, c.pad1, c.pad2, c.pad3) = (context.pad0, context.pad1, context.pad2, context.pad3) := by
    rw [lastBlock, poly1305Blocks, ← hc.buffer]
    have hvalue := hc.value
    rw [hrval] at hvalue
    split
    · rename_i hsome
      have hlt := context.leftover_lt
      have hfull : (context.buffer ++ [1] ++
          List.replicate (16 - (context.buffer.length + 1)) 0).length = 16 := by
        rw [List.length_append, List.length_append, List.length_singleton, List.length_replicate]
        omega
      refine (blocks_final_spec (by rwa [hc.r_eq]) hc.reduced hfull).mono
        fun c ⟨h', hc', hred, hval⟩ => ?_
      subst hc'
      rw [num_zeros, hc.r_eq, hrval] at hval
      rw [if_neg fun hnil => hsome (by rw [hnil]; rfl), horner_append]
      exact ⟨hred, hval.trans ((hvalue.add_right _).mul_right _), rfl⟩
    · rename_i hnone
      rw [if_pos (List.length_eq_zero_iff.mp (not_not.mp hnone)), List.append_nil]
      exact yields_pure ⟨hc.reduced, hvalue, rfl⟩
  obtain ⟨c, hc', hred, hval, hpads⟩ := hlast
  obtain ⟨hp0, hp1, hp2, hp3⟩ : c.pad0 = context.pad0 ∧ c.pad1 = context.pad1 ∧
    c.pad2 = context.pad2 ∧ c.pad3 = context.pad3 := by simpa using hpads
  obtain ⟨hbelow, hmod⟩ := reduce_spec hred
  obtain ⟨hbelow', hrem⟩ := subtractPrime_spec hbelow
  have hkey : (context.pad0, context.pad1, context.pad2, context.pad3)
      = ((lsPoly1305Init key).pad0, (lsPoly1305Init key).pad1, (lsPoly1305Init key).pad2,
        (lsPoly1305Init key).pad3) :=
    congrArg (fun k => (k.2.1, k.2.2.1, k.2.2.2.1, k.2.2.2.2.1)) hc.keyed
  obtain ⟨hk0, hk1, hk2, hk3⟩ : context.pad0 = (lsPoly1305Init key).pad0 ∧
    context.pad1 = (lsPoly1305Init key).pad1 ∧ context.pad2 = (lsPoly1305Init key).pad2 ∧
    context.pad3 = (lsPoly1305Init key).pad3 := by simpa using hkey
  rw [lsPoly1305Finish, hc', pure_bind, pack_spec hbelow', hrem, hmod.trans hval, hp0, hp1, hp2, hp3,
    hk0, hk1, hk2, hk3, init_pad, horner_eq_sum]
  rfl

end Finish

end Poly1305

/-- The pieces of a message, one after the other. -/
lemma updates_authenticated {key : List UInt8} (pieces : List (List UInt8)) {context : Context}
    {m : List UInt8} (h : Authenticated key context m) :
    Yields (pieces.foldlM lsPoly1305Update context) fun c =>
      Authenticated key c (m ++ pieces.flatten) := by
  induction pieces generalizing context m with
  | nil =>
      rw [List.flatten_nil, List.append_nil]
      exact yields_pure h
  | cons message pieces ih =>
      rw [List.flatten_cons, ← List.append_assoc, List.foldlM_cons]
      exact yields_bind (h.update (init_spec key).1 message) fun c hc => ih hc

lemma Poly1305.reduced_zero : Limbs.Reduced ⟨0, 0, 0, 0, 0⟩ :=
  ⟨by decide, by decide, by decide, by decide, by decide⟩

lemma authenticated_init (key : List UInt8) : Authenticated key (lsPoly1305Init key) [] where
  keyed := rfl
  reduced := reduced_zero
  value := by
    rw [blocks_nil]
    rfl
  buffer := rest_nil.symm

lemma poly1305Of_eq (key : List UInt8) (pieces : List (List UInt8)) :
    poly1305Of key pieces = pure (poly1305 key pieces.flatten) := by
  obtain ⟨context, hupdates, hc⟩ := updates_authenticated pieces (authenticated_init key)
  rw [poly1305Of, hupdates, pure_bind, hc.finish]
  rfl

/-- **Poly1305 is exact.** For every key and for a message in any pieces, the tag is the one of
the definition, and the flag of the arithmetic stays up: no limb, carry or accumulator of the
block loop overflows. -/
theorem poly1305_exact (key : List UInt8) (pieces : List (List UInt8)) :
    poly1305Of key pieces true = (poly1305 key pieces.flatten, true) := by
  rw [poly1305Of_eq]
  rfl

end Latch
