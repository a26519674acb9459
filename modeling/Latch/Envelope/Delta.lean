
/-
The delta codec of `src/envelope/compression.c`: variable-length integers, the zig-zag mapping
of signed differences, and lists of 32-bit values as their differences.

* `varintBytes`: the bytes of an integer in groups of seven bits; `varintFrom_spec` says that the
  encoder writes them, `varintLoop_append` that the decoder reads them in front of anything;
* `zigzagDecode_zigzagEncode`: a difference comes back, whether it wraps or not;
* `deltaBytes`: the bytes of a list; `delta_round_trip` puts the parts together.
-/
import Latch.Core.Util
import Latch.Lib.Codec

namespace Latch

open Codec Exec

/-! ### The functions -/

lemma toNat_shiftRight_seven (value : UInt32) : (value >>> 7).toNat = value.toNat / 128 := by
  rw [UInt32.toNat_shiftRight]
  exact Nat.shiftRight_eq_div_pow _ 7

/-- The loop of `ls_varint_u32_encode`. -/
def varintFrom (capacity : ℕ) (value : UInt32) : CodecM Errno UInt8 Unit := do
  let out ← get
  if capacity ≤ out.length then throw (.fail .enospace)
  else if h : value >>> 7 ≠ 0 then do
    append capacity ((value &&& 0x7f).toUInt8 ||| 0x80)
    varintFrom capacity (value >>> 7)
  else append capacity (value &&& 0x7f).toUInt8
termination_by value.toNat
decreasing_by
  have hne : (value >>> 7).toNat ≠ 0 := fun h0 => h (UInt32.toNat_inj.mp h0)
  rw [toNat_shiftRight_seven] at hne ⊢
  omega

/-- `ls_varint_u32_encode`. -/
def lsVarintU32Encode (value : UInt32) (capacity : ℕ) : Except (Stop Errno) (List UInt8) :=
  runOn (varintFrom capacity value)

/-- The loop of `ls_varint_u32_decode` over the bytes from `i` on. -/
def varintLoop : List UInt8 → ℕ → UInt32 → Except Errno (UInt32 × ℕ)
  | [], _, _ => .error .eagain
  | byte :: input, i, result =>
    if 5 ≤ i then .error .eagain
    else if i = 4 ∧ byte &&& 0xf0 ≠ 0 then .error .eoverflow
    else
      let result := result ||| (byte &&& 0x7f).toUInt32 <<< (UInt32.ofNat (i * 7))
      if byte &&& 0x80 = 0 then .ok (result, i + 1) else varintLoop input (i + 1) result

/-- `ls_varint_u32_decode`: the value, and how many bytes it takes. -/
def lsVarintU32Decode (input : List UInt8) : Except Errno (UInt32 × ℕ) := varintLoop input 0 0

/-- `zigzag_encode`. -/
def zigzagEncode (value : Int32) : UInt32 :=
  (value.toUInt32 <<< 1) ^^^ (0 - (if value < 0 then 1 else 0))

/-- `zigzag_decode`. -/
def zigzagDecode (value : UInt32) : Int32 :=
  ((value >>> 1) ^^^ (0 - (value &&& 1))).toInt32

/-- The loop of `ls_delta_u32_encode`, behind the value `previous`. -/
def deltaEncodeFrom (capacity : ℕ) : UInt32 → List UInt32 → CodecM Errno UInt8 Unit
  | _, [] => pure ()
  | previous, value :: values =>
    match lsVarintU32Encode (zigzagEncode (value - previous).toInt32) 5 with
    | .error e => throw e
    | .ok encoded => do
      let out ← get
      if capacity - out.length < encoded.length then throw (.fail .enospace)
      else do
        appendAll capacity encoded
        deltaEncodeFrom capacity value values

/-- `ls_delta_u32_encode`. -/
def lsDeltaU32Encode (values : List UInt32) (capacity : ℕ) : Except (Stop Errno) (List UInt8) :=
  runOn (deltaEncodeFrom capacity 0 values)

lemma varintLoop_consumed {input : List UInt8} {i n : ℕ} {result value : UInt32}
    (h : varintLoop input i result = .ok (value, n)) : i < n := by
  induction input generalizing i result with
  | nil => cases h
  | cons byte input ih =>
      simp only [varintLoop] at h
      split at h
      · cases h
      split at h
      · cases h
      split at h
      · cases h
        exact Nat.lt_succ_self i
      · exact (Nat.lt_succ_self i).trans (ih h)

/-- The loop of `ls_delta_u32_decode`, from the index `i` on and behind the value `previous`. -/
def deltaDecodeFrom (input : List UInt8) (capacity : ℕ) (previous : UInt32) (i : ℕ) :
    CodecM Errno UInt32 Unit :=
  if i < input.length then do
    let out ← get
    if capacity ≤ out.length then throw (.fail .enospace)
    else
      match h : lsVarintU32Decode (input.drop i) with
      | .error e => throw (.fail e)
      | .ok (encoded, consumed) => do
        append capacity (previous + (zigzagDecode encoded).toUInt32)
        deltaDecodeFrom input capacity (previous + (zigzagDecode encoded).toUInt32) (i + consumed)
  else pure ()
termination_by input.length - i
decreasing_by
  have := varintLoop_consumed h
  omega

/-- `ls_delta_u32_decode`. -/
def lsDeltaU32Decode (input : List UInt8) (capacity : ℕ) : Except (Stop Errno) (List UInt32) :=
  runOn (deltaDecodeFrom input capacity 0 0)

/-! ### Variable-length integers -/

/-- The groups of seven bits of a number, the lowest first; all but the last one are marked. -/
def varintBytes (v : ℕ) : List UInt8 :=
  if 128 ≤ v then UInt8.ofNat (v % 128 + 128) :: varintBytes (v / 128) else [UInt8.ofNat v]

section Varint

variable {acc : UInt32} {i : ℕ} (value : UInt32)

lemma varintBytes_length_pos (v : ℕ) : 0 < (varintBytes v).length := by
  rw [varintBytes]
  split <;> simp

/-- A number of `k` groups takes `k` bytes at most. -/
lemma varintBytes_length_le {k v : ℕ} (hk : 0 < k) (h : v < 128 ^ k) :
    (varintBytes v).length ≤ k := by
  induction k generalizing v with
  | zero => cases hk
  | succ k ih =>
      rw [varintBytes]
      split
      · have hk : 0 < k := by
          rcases Nat.eq_zero_or_pos k with rfl | hk
          · rw [zero_add, pow_one] at h
            omega
          · exact hk
        have hdiv : v / 128 < 128 ^ k := Nat.div_lt_of_lt_mul (by rwa [pow_succ'] at h)
        exact Nat.succ_le_succ (ih hk hdiv)
      · exact Nat.succ_le_succ (Nat.zero_le k)

/-- The low group of a value as a byte. -/
lemma toNat_lowGroup :
    ((value &&& 0x7f).toUInt8).toNat = value.toNat % 128 := by
  have hand : (value &&& 0x7f).toNat = value.toNat % 2 ^ 7 := by
    rw [UInt32.toNat_and]
    exact Nat.and_two_pow_sub_one_eq_mod _ 7
  rw [UInt32.toNat_toUInt8, hand]
  omega

/-- The mark of a group adds to it. -/
lemma toNat_mark {b : UInt8} (h : b.toNat < 128) : (b ||| 0x80).toNat = b.toNat + 128 := by
  rw [UInt8.toNat_or, Nat.or_comm]
  exact (Nat.shiftLeft_add_eq_or_of_lt (show b.toNat < 2 ^ 7 from h) 1).symm.trans
    (Nat.add_comm _ _)

/-- The encoder writes the groups of a value where they fit. -/
lemma varintFrom_spec (capacity : ℕ) (value : UInt32) (out : List UInt8) :
    Sat (varintFrom capacity value) out
      (fun _ out' => out.length + (varintBytes value.toNat).length ≤ capacity ∧
        out' = out ++ varintBytes value.toNat)
      (fun e _ => capacity < out.length + (varintBytes value.toNat).length ∧
        e = .fail .enospace) := by
  induction hv : value.toNat using Nat.strong_induction_on generalizing value out with
  | _ v ih =>
      have hlow := toNat_lowGroup value
      have hshift := toNat_shiftRight_seven value
      have hpos := varintBytes_length_pos v
      have hzero : (value >>> 7 ≠ 0) ↔ 128 ≤ v := by
        rw [ne_eq, ← UInt32.toNat_inj, hshift, hv]
        change ¬ v / 128 = 0 ↔ _
        omega
      rw [varintFrom, sat_bind, sat_get]
      refine .ite (fun hfull => .throw ⟨by omega, rfl⟩) fun hroom => ?_
      split
      · rename_i hmore
        have h128 := hzero.mp hmore
        have hbyte : (value &&& 0x7f).toUInt8 ||| 0x80 = UInt8.ofNat (v % 128 + 128) := by
          apply UInt8.toNat_inj.mp
          rw [toNat_mark (by omega), hlow, hv, UInt8.toNat_ofNat']
          omega
        have hbytes : varintBytes v = UInt8.ofNat (v % 128 + 128) :: varintBytes (v / 128) := by
          rw [varintBytes, if_pos h128]
        rw [sat_bind, sat_append (by omega), hbytes, hbyte, List.length_cons]
        refine (ih (v / 128) (by omega) (value >>> 7) _ (by rw [hshift, hv])).mono
          (fun _ out' h => ?_) (fun e _ h => ?_)
        · rw [List.length_append, List.length_singleton] at h
          exact ⟨by omega, by rw [h.2]; simp⟩
        · rw [List.length_append, List.length_singleton] at h
          exact ⟨by omega, h.2⟩
      · rename_i hlast
        have h128 : ¬ 128 ≤ v := fun h => hlast (hzero.mpr h)
        have hbyte : (value &&& 0x7f).toUInt8 = UInt8.ofNat v := by
          apply UInt8.toNat_inj.mp
          rw [hlow, hv, UInt8.toNat_ofNat']
          omega
        have hbytes : varintBytes v = [UInt8.ofNat v] := by rw [varintBytes, if_neg h128]
        rw [sat_append (by omega), hbytes, hbyte]
        exact ⟨by rw [List.length_singleton]; omega, rfl⟩

/-- `ls_varint_u32_encode` of a value that fits. -/
lemma lsVarintU32Encode_eq {value : UInt32} {capacity : ℕ}
    (h : (varintBytes value.toNat).length ≤ capacity) :
    lsVarintU32Encode value capacity = .ok (varintBytes value.toNat) := by
  refine runOn_eq_ok ((varintFrom_spec capacity value []).mono (fun _ _ h' => ?_) (fun _ _ h' => ?_))
  · rw [h'.2, List.nil_append]
  · rw [List.length_nil] at h'
    omega

lemma varintBytes_length_le_five : (varintBytes value.toNat).length ≤ 5 := by
  have := value.toNat_lt
  exact varintBytes_length_le (by decide) (by omega)

/-- What the decoder looks at in a byte. -/
lemma byte_parts (b : UInt8) : (b &&& 0x7f).toNat = b.toNat % 128 ∧
    (b &&& 0x80 = 0 ↔ b.toNat < 128) ∧ (b &&& 0xf0 = 0 ↔ b.toNat < 16) := by
  have hbits : ∀ n < 256, (n &&& 0x80 = 0 ↔ n < 128) ∧ (n &&& 0xf0 = 0 ↔ n < 16) := by
    decide +kernel
  have hb := hbits b.toNat b.toNat_lt
  refine ⟨?_, ?_, ?_⟩
  · rw [UInt8.toNat_and]
    exact Nat.and_two_pow_sub_one_eq_mod _ 7
  · rw [← UInt8.toNat_inj, UInt8.toNat_and]
    exact hb.1
  · rw [← UInt8.toNat_inj, UInt8.toNat_and]
    exact hb.2

/-- A group is put above the ones before it. -/
lemma toNat_putGroup {b : UInt8} (hi : i ≤ 4) (hacc : acc.toNat < 2 ^ (7 * i))
    (hb : b.toNat % 128 * 2 ^ (7 * i) < 2 ^ 32) :
    (acc ||| (b &&& 0x7f).toUInt32 <<< (UInt32.ofNat (i * 7))).toNat =
      acc.toNat + b.toNat % 128 * 2 ^ (7 * i) := by
  have hshift : (UInt32.ofNat (i * 7)).toNat % 32 = 7 * i := by
    rw [UInt32.toNat_ofNat']
    omega
  have hgroup : ((b &&& 0x7f).toUInt32).toNat = b.toNat % 128 := by
    rw [UInt8.toNat_toUInt32, (byte_parts b).1]
  rw [UInt32.toNat_or, UInt32.toNat_shiftLeft, hshift, hgroup, Nat.mod_eq_of_lt
    (by rw [Nat.shiftLeft_eq]; exact hb), Nat.or_comm, ← Nat.shiftLeft_add_eq_or_of_lt hacc,
    Nat.shiftLeft_eq, Nat.add_comm]

/-- The decoder reads the groups of a value in front of any bytes. -/
lemma varintLoop_append (v : ℕ) (s : List UInt8) (hi : i ≤ 4)
    (hacc : acc.toNat < 2 ^ (7 * i)) (hv : v * 2 ^ (7 * i) < 2 ^ 32) :
    varintLoop (varintBytes v ++ s) i acc =
      .ok (UInt32.ofNat (acc.toNat + v * 2 ^ (7 * i)), i + (varintBytes v).length) := by
  induction v using Nat.strong_induction_on generalizing i acc with
  | _ v ih =>
      have hfour : i = 4 → v < 16 := by
        rintro rfl
        norm_num at hv
        omega
      rw [varintBytes]
      by_cases h128 : 128 ≤ v
      · -- one group, and the others behind it
        set b := UInt8.ofNat (v % 128 + 128) with hbdef
        have hb : b.toNat = v % 128 + 128 := by
          rw [hbdef, UInt8.toNat_ofNat']
          omega
        have hmod : b.toNat % 128 = v % 128 := by omega
        have hi4 : i ≠ 4 := fun h => absurd (hfour h) (by omega)
        have hpow : 2 ^ (7 * (i + 1)) = 128 * 2 ^ (7 * i) := by
          rw [Nat.mul_add, pow_add, Nat.mul_comm]
          rfl
        have hsplit : v % 128 * 2 ^ (7 * i) + v / 128 * 2 ^ (7 * (i + 1)) = v * 2 ^ (7 * i) := by
          rw [hpow, ← Nat.mul_assoc, ← Nat.add_mul]
          congr 1
          omega
        have hput := toNat_putGroup (b := b) (i := i) hi hacc (by rw [hmod]; omega)
        rw [hmod] at hput
        have hcont : ¬ b &&& 0x80 = 0 := by
          rw [(byte_parts b).2.1]
          omega
        have hlt : acc.toNat + v % 128 * 2 ^ (7 * i) < 2 ^ (7 * (i + 1)) := by
          have hm : v % 128 ≤ 127 := by omega
          have := Nat.mul_le_mul_right (2 ^ (7 * i)) hm
          omega
        rw [if_pos h128, List.cons_append, varintLoop, if_neg (by omega), if_neg (by tauto),
          if_neg hcont, ih (v / 128) (by omega) (by omega) (by rw [hput]; exact hlt) (by omega),
          hput, List.length_cons, Nat.add_assoc, hsplit]
        congr 2
        omega
      · -- the last group
        set b := UInt8.ofNat v with hbdef
        have hb : b.toNat = v := by
          rw [hbdef, UInt8.toNat_ofNat']
          omega
        have hmod : b.toNat % 128 = v := by omega
        have hput := toNat_putGroup (b := b) (i := i) hi hacc (by rw [hmod]; exact hv)
        have hover : ¬ (i = 4 ∧ b &&& 0xf0 ≠ 0) := by
          rintro ⟨h4, hne⟩
          exact hne ((byte_parts b).2.2.mpr (by rw [hb]; exact hfour h4))
        have hlast : b &&& 0x80 = 0 := (byte_parts b).2.1.mpr (by omega)
        rw [if_neg h128, List.cons_append, varintLoop, if_neg (by omega), if_neg hover, if_pos hlast,
          List.length_singleton]
        refine congrArg (fun x => Except.ok (x, i + 1)) (UInt32.toNat_inj.mp ?_)
        rw [hput, hmod, UInt32.toNat_ofNat']
        have hlt := UInt32.toNat_lt (acc ||| (b &&& 0x7f).toUInt32 <<< (UInt32.ofNat (i * 7)))
        rw [hput, hmod] at hlt
        exact (Nat.mod_eq_of_lt hlt).symm

/-- `ls_varint_u32_decode` of an encoded value. -/
lemma lsVarintU32Decode_append (s : List UInt8) :
    lsVarintU32Decode (varintBytes value.toNat ++ s) =
      .ok (value, (varintBytes value.toNat).length) := by
  have hlt := value.toNat_lt
  rw [lsVarintU32Decode, varintLoop_append value.toNat s (by decide) (by decide) (by simpa using hlt)]
  simp

/-- The decoder asks for more exactly where all it has seen are marked groups, and fewer than
five. -/
lemma varintLoop_eq_eagain {input : List UInt8} (hi : i ≤ 4) :
    varintLoop input i acc = .error .eagain ↔
      i + input.length < 5 ∧ ∀ b ∈ input, b &&& 0x80 ≠ 0 := by
  induction input generalizing i acc with
  | nil => simp [varintLoop]; omega
  | cons byte input ih =>
      rw [varintLoop, if_neg (by omega), List.length_cons, List.forall_mem_cons]
      by_cases h4 : i = 4
      · by_cases hover : byte &&& 0xf0 = 0
        · have hlast : byte &&& 0x80 = 0 := by
            rw [(byte_parts byte).2.1]
            have := (byte_parts byte).2.2.mp hover
            omega
          rw [if_neg (by tauto), if_pos hlast]
          simp [hlast]
        · rw [if_pos ⟨h4, hover⟩]
          simp
          omega
      · rw [if_neg (by tauto)]
        by_cases hlast : byte &&& 0x80 = 0
        · rw [if_pos hlast]
          simp [hlast]
        · rw [if_neg hlast, ih (by omega)]
          constructor
          · exact fun h => ⟨by omega, hlast, h.2⟩
          · exact fun h => ⟨by omega, h.2.2⟩

end Varint

/-! ### Signed differences -/

/-- An exclusive or with all bits set is the complement. -/
lemma toNat_xor_max (x : UInt32) : (x ^^^ 0xffffffff).toNat = 2 ^ 32 - 1 - x.toNat := by
  have h : x ^^^ 0xffffffff = ~~~ x := by
    apply UInt32.toBitVec_inj.mp
    rw [UInt32.toBitVec_xor, UInt32.toBitVec_not]
    exact BitVec.xor_allOnes
  rw [h]
  exact BitVec.toNat_not

lemma int32_neg_iff (x : Int32) : x < 0 ↔ 2 ^ 31 ≤ x.toUInt32.toNat := by
  rw [Int32.lt_iff_toInt_lt]
  have h : x.toInt < 0 ↔ 2 ^ 32 ≤ 2 * x.toUInt32.toNat := BitVec.toInt_neg_iff
  exact h.trans (by omega)

/-- The zig-zag mapping as arithmetic: `2x` for `x` that is not negative, `-2x - 1` else. -/
lemma toNat_zigzagEncode (x : Int32) : (zigzagEncode x).toNat =
    if x < 0 then 2 ^ 33 - 1 - 2 * x.toUInt32.toNat else 2 * x.toUInt32.toNat := by
  have hlt := x.toUInt32.toNat_lt
  have hneg := int32_neg_iff x
  have hshift : (x.toUInt32 <<< 1).toNat = 2 * x.toUInt32.toNat % 2 ^ 32 := by
    rw [UInt32.toNat_shiftLeft]
    change x.toUInt32.toNat <<< 1 % 2 ^ 32 = _
    rw [Nat.shiftLeft_eq, Nat.mul_comm, pow_one]
  rw [zigzagEncode]
  split
  · change (x.toUInt32 <<< 1 ^^^ 0xffffffff).toNat = _
    rw [toNat_xor_max, hshift]
    have := hneg.mp ‹_›
    omega
  · change (x.toUInt32 <<< 1 ^^^ 0).toNat = _
    rw [UInt32.xor_zero, hshift]
    have : ¬ 2 ^ 31 ≤ x.toUInt32.toNat := fun h => ‹¬ _› (hneg.mpr h)
    omega

/-- A difference comes back. -/
theorem zigzagDecode_zigzagEncode (x : Int32) : zigzagDecode (zigzagEncode x) = x := by
  have hlt := x.toUInt32.toNat_lt
  have hneg := int32_neg_iff x
  have hnat := toNat_zigzagEncode x
  have hlow : (zigzagEncode x &&& 1).toNat = (zigzagEncode x).toNat % 2 := by
    rw [UInt32.toNat_and]
    exact Nat.and_one_is_mod _
  have hhalf : (zigzagEncode x >>> 1).toNat = (zigzagEncode x).toNat / 2 := by
    rw [UInt32.toNat_shiftRight]
    exact Nat.shiftRight_one _
  have hbits : zigzagEncode x >>> 1 ^^^ (0 - (zigzagEncode x &&& 1)) = x.toUInt32 := by
    apply UInt32.toNat_inj.mp
    by_cases hx : x < 0
    · rw [if_pos hx] at hnat
      have hbound := hneg.mp hx
      have hodd : zigzagEncode x &&& 1 = 1 :=
        UInt32.toNat_inj.mp (hlow.trans (by rw [hnat]; change _ = 1; omega))
      rw [hodd]
      change (zigzagEncode x >>> 1 ^^^ 0xffffffff).toNat = _
      rw [toNat_xor_max, hhalf, hnat]
      omega
    · rw [if_neg hx] at hnat
      have heven : zigzagEncode x &&& 1 = 0 :=
        UInt32.toNat_inj.mp (hlow.trans (by rw [hnat]; change _ = 0; omega))
      rw [heven]
      change (zigzagEncode x >>> 1 ^^^ 0).toNat = _
      rw [UInt32.xor_zero, hhalf, hnat]
      omega
  rw [zigzagDecode, hbits]
  rfl

/-! ### Lists -/

/-- The bytes of a list of values behind the value `previous`. -/
def deltaBytes : UInt32 → List UInt32 → List UInt8
  | _, [] => []
  | previous, value :: values =>
    varintBytes (zigzagEncode (value - previous).toInt32).toNat ++ deltaBytes value values

section Lists

lemma deltaBytes_length_le (previous : UInt32) (values : List UInt32) :
    (deltaBytes previous values).length ≤ 5 * values.length := by
  induction values generalizing previous with
  | nil => rfl
  | cons value values ih =>
      have hfirst := varintBytes_length_le_five (zigzagEncode (value - previous).toInt32)
      have hrest := ih value
      rw [deltaBytes, List.length_append, List.length_cons]
      omega

/-- The encoder writes the bytes of a list where they fit. -/
lemma deltaEncodeFrom_spec (capacity : ℕ) (previous : UInt32) (values : List UInt32)
    (out : List UInt8) (hout : out.length ≤ capacity) :
    Sat (deltaEncodeFrom capacity previous values) out
      (fun _ out' => out.length + (deltaBytes previous values).length ≤ capacity ∧
        out' = out ++ deltaBytes previous values)
      (fun _ _ => capacity < out.length + (deltaBytes previous values).length) := by
  induction values generalizing previous out with
  | nil => exact .pure ⟨hout, by rw [deltaBytes, List.append_nil]⟩
  | cons value values ih =>
      have hencoded := lsVarintU32Encode_eq
        (varintBytes_length_le_five (zigzagEncode (value - previous).toInt32))
      rw [deltaEncodeFrom, hencoded]
      dsimp only
      rw [sat_bind, sat_get, sat_ite, deltaBytes, List.length_append]
      refine ⟨fun hfull => .throw (by omega), fun hroom => ?_⟩
      rw [sat_bind, sat_appendAll (by omega)]
      refine (ih value _ (by rw [List.length_append]; omega)).mono (fun _ out' h => ?_)
        (fun _ _ h => ?_)
      · rw [List.length_append] at h
        exact ⟨by omega, by rw [h.2, List.append_assoc]⟩
      · rw [List.length_append] at h
        omega

/-- The decoder reads the bytes of a list back. -/
lemma deltaDecodeFrom_spec {input : List UInt8} {capacity : ℕ} (previous : UInt32)
    (values : List UInt32) {pre : List UInt8} (hin : input = pre ++ deltaBytes previous values)
    {out : List UInt32} (hout : out.length + values.length ≤ capacity) :
    Sat (deltaDecodeFrom input capacity previous pre.length) out (fun _ out' => out' = out ++ values)
      (fun _ _ => False) := by
  induction values generalizing previous pre out with
  | nil =>
      have hend : ¬ pre.length < input.length := by simp [hin, deltaBytes]
      rw [deltaDecodeFrom, if_neg hend, sat_pure, List.append_nil]
  | cons value values ih =>
      have hfirst := varintBytes_length_pos (zigzagEncode (value - previous).toInt32).toNat
      rw [List.length_cons] at hout
      rw [deltaBytes] at hin
      have hmore : pre.length < input.length := by
        rw [hin, List.length_append, List.length_append]
        omega
      have hdecoded : lsVarintU32Decode (input.drop pre.length) = .ok
          (zigzagEncode (value - previous).toInt32,
            (varintBytes (zigzagEncode (value - previous).toInt32).toNat).length) := by
        rw [hin, List.drop_left]
        exact lsVarintU32Decode_append _ _
      have hvalue : previous + (zigzagDecode (zigzagEncode (value - previous).toInt32)).toUInt32
          = value := by
        rw [zigzagDecode_zigzagEncode]
        change previous + (value - previous) = value
        rw [UInt32.add_comm, UInt32.sub_add_cancel]
      rw [deltaDecodeFrom, if_pos hmore, sat_bind, sat_get, if_neg (by omega)]
      split
      · rename_i e he
        cases hdecoded.symm.trans he
      · rename_i encoded consumed hok
        obtain ⟨rfl, rfl⟩ := Prod.mk.inj (Except.ok.inj (hdecoded.symm.trans hok))
        rw [sat_bind, sat_append (by omega), hvalue]
        have hnext := @ih value (pre ++ varintBytes (zigzagEncode
          (value - previous).toInt32).toNat) (by rw [hin, List.append_assoc])
          (out ++ [value]) (by rw [List.length_append, List.length_singleton]; omega)
        rw [List.length_append] at hnext
        refine hnext.mono fun _ _ h => ?_
        rw [h, List.append_assoc]
        rfl

lemma lsDeltaU32Encode_eq {values : List UInt32} {capacity : ℕ} {bytes : List UInt8}
    (h : lsDeltaU32Encode values capacity = .ok bytes) : bytes = deltaBytes 0 values := by
  have hspec := deltaEncodeFrom_spec capacity 0 values [] (Nat.zero_le _)
  rw [lsDeltaU32Encode, runOn] at h
  split at h
  · rename_i out hx
    rw [← Except.ok.inj h]
    exact (sat_of_ok hspec hx).2
  · cases h

lemma lsDeltaU32Decode_deltaBytes {values : List UInt32} {capacity : ℕ}
    (h : values.length ≤ capacity) :
    lsDeltaU32Decode (deltaBytes 0 values) capacity = .ok values :=
  runOn_eq_ok (@deltaDecodeFrom_spec _ _ 0 values [] rfl [] (by simpa using h))

end Lists

/-- **The delta codec.** Five bytes a value are enough for the encoder; what it writes is decoded
to the same list, and belongs to no other list; an integer is read back in front of anything,
from as many bytes as it took; and the decoder of integers asks for more exactly where it has
fewer than five bytes, all of them marked. -/
theorem delta_round_trip :
    (∀ values capacity, 5 * values.length ≤ capacity →
      ∃ bytes, lsDeltaU32Encode values capacity = .ok bytes) ∧
    (∀ values capacity bytes, lsDeltaU32Encode values capacity = .ok bytes →
      ∀ capacity', values.length ≤ capacity' →
        lsDeltaU32Decode bytes capacity' = .ok values) ∧
    (∀ values values' capacity capacity' bytes, lsDeltaU32Encode values capacity = .ok bytes →
      lsDeltaU32Encode values' capacity' = .ok bytes → values = values') ∧
    (∀ value capacity, 5 ≤ capacity → ∃ bytes, lsVarintU32Encode value capacity = .ok bytes ∧
      ∀ s, lsVarintU32Decode (bytes ++ s) = .ok (value, bytes.length)) ∧
    ∀ input, lsVarintU32Decode input = .error .eagain ↔
      input.length < 5 ∧ ∀ b ∈ input, b &&& 0x80 ≠ 0 := by
  refine ⟨fun values capacity hroom => ?_, fun values capacity bytes h capacity' hroom => ?_,
    fun values values' capacity capacity' bytes h h' => ?_, fun value capacity hroom => ?_,
    fun input => ?_⟩
  · have hsize := deltaBytes_length_le 0 values
    refine ⟨deltaBytes 0 values, runOn_eq_ok ((deltaEncodeFrom_spec capacity 0 values []
      (Nat.zero_le _)).mono (fun _ _ h => h.2) (fun _ _ h => ?_))⟩
    rw [List.length_nil] at h
    omega
  · rw [lsDeltaU32Encode_eq h]
    exact lsDeltaU32Decode_deltaBytes hroom
  · have hdecode := @lsDeltaU32Decode_deltaBytes values (values.length + values'.length) (by omega)
    have hdecode' := @lsDeltaU32Decode_deltaBytes values' (values.length + values'.length) (by omega)
    rw [← lsDeltaU32Encode_eq h] at hdecode
    rw [← lsDeltaU32Encode_eq h', hdecode] at hdecode'
    exact Except.ok.inj hdecode'
  · exact ⟨_, lsVarintU32Encode_eq ((varintBytes_length_le_five value).trans hroom),
      lsVarintU32Decode_append value⟩
  · rw [lsVarintU32Decode, varintLoop_eq_eagain (by decide), Nat.zero_add]

end Latch
