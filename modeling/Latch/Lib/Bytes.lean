
/-
Little-endian fields of byte strings.

`put w n` are the `w` bytes of `n`, least significant first, and `field l off w`
reads `w` bytes of `l` from `off` on. `field_put` and `field_append_right` read a
field out of a concatenation of fields, which is what a packed record is; `field_read`
reads one out of a medium.
-/
import Latch.Lib.Medium

namespace Bytes

variable {off w len n : ℕ} {l a : List UInt8}

/-- The `w` bytes of `n`, least significant first. -/
def put : ℕ → ℕ → List UInt8
  | 0, _ => []
  | w + 1, n => UInt8.ofNat n :: put w (n / 256)

/-- The number with the given bytes. -/
def num : List UInt8 → ℕ
  | [] => 0
  | b :: l => b.toNat + 256 * num l

/-- The number in the `w` bytes of `l` from `off` on. -/
def field (l : List UInt8) (off w : ℕ) : ℕ := num ((l.drop off).take w)

@[simp] lemma put_length (w n : ℕ) : (put w n).length = w := by
  induction w generalizing n with
  | zero => rfl
  | succ w ih => simp [put, ih]

lemma num_put (w n : ℕ) : num (put w n) = n % 256 ^ w := by
  induction w generalizing n with
  | zero => simp [put, num, Nat.mod_one]
  | succ w ih =>
      have h : 256 ^ (w + 1) = 256 * 256 ^ w := pow_succ' 256 w
      rw [put, num, ih, UInt8.toNat_ofNat', h, Nat.mod_mul]

lemma num_lt (l : List UInt8) : num l < 256 ^ l.length := by
  induction l with
  | nil => simp [num]
  | cons b l ih =>
      have := b.toNat_lt
      rw [num, List.length_cons, pow_succ]
      omega

lemma put_num (l : List UInt8) : put l.length (num l) = l := by
  induction l with
  | nil => rfl
  | cons b l ih =>
      have hb := b.toNat_lt
      have h1 : UInt8.ofNat (b.toNat + 256 * num l) = b := by
        apply UInt8.toNat_inj.mp
        rw [UInt8.toNat_ofNat']
        omega
      have h2 : (b.toNat + 256 * num l) / 256 = num l := by omega
      rw [List.length_cons, num, put, h1, h2, ih]

lemma field_lt (l : List UInt8) (off w : ℕ) : field l off w < 256 ^ w := by
  refine (num_lt _).trans_le (Nat.pow_le_pow_right (by norm_num) ?_)
  simp

/-- The first field of a packed record. -/
lemma field_put (h : n < 256 ^ w) (l : List UInt8) : field (put w n ++ l) 0 w = n := by
  rw [field, List.drop_zero, List.take_left' (put_length w n), num_put, Nat.mod_eq_of_lt h]

/-- A field behind the first part of a packed record. -/
lemma field_append_right (h : a.length ≤ off) (w : ℕ) :
    field (a ++ l) off w = field l (off - a.length) w := by
  rw [field, field, List.drop_append, List.drop_eq_nil_of_le h, List.nil_append]

/-- A field inside the first bytes. -/
lemma field_take (l : List UInt8) (h : off + w ≤ n) :
    field (l.take n) off w = field l off w := by
  rw [field, field, List.drop_take, List.take_take, min_eq_left (by omega)]

/-- The low byte of a field is its first byte. -/
lemma field_low {b : UInt8} (h : l[0]? = some b) (w : ℕ) :
    field l 0 (w + 1) % 256 = b.toNat := by
  cases l with
  | nil => cases h
  | cons c l =>
      have hb : c = b := by simpa using h
      have := b.toNat_lt
      subst hb
      simp only [field, List.drop_zero, List.take_succ_cons, num]
      omega

/-! ### Machine words -/

/-- The two bytes of a 16-bit word. -/
def le16 (x : UInt16) : List UInt8 := put 2 x.toNat

/-- The four bytes of a 32-bit word. -/
def le32 (x : UInt32) : List UInt8 := put 4 x.toNat

/-- The eight bytes of a 64-bit word. -/
def le64 (x : UInt64) : List UInt8 := put 8 x.toNat

/-- The byte at `off`. -/
def get8 (l : List UInt8) (off : ℕ) : UInt8 := UInt8.ofNat (field l off 1)

/-- The 16-bit word at `off`. -/
def get16 (l : List UInt8) (off : ℕ) : UInt16 := UInt16.ofNat (field l off 2)

/-- The 32-bit word at `off`. -/
def get32 (l : List UInt8) (off : ℕ) : UInt32 := UInt32.ofNat (field l off 4)

@[simp] lemma le16_length (x : UInt16) : (le16 x).length = 2 := put_length _ _

@[simp] lemma le32_length (x : UInt32) : (le32 x).length = 4 := put_length _ _

@[simp] lemma le64_length (x : UInt64) : (le64 x).length = 8 := put_length _ _

@[simp] lemma get8_cons (x : UInt8) (l : List UInt8) : get8 (x :: l) 0 = x := by
  simp [get8, field, num]

@[simp] lemma get16_le16 (x : UInt16) (l : List UInt8) : get16 (le16 x ++ l) 0 = x := by
  rw [get16, le16, field_put (x.toNat_lt), UInt16.ofNat_toNat]

@[simp] lemma get16_le16_self (x : UInt16) : get16 (le16 x) 0 = x := by
  simpa using get16_le16 x []

@[simp] lemma get32_le32 (x : UInt32) (l : List UInt8) : get32 (le32 x ++ l) 0 = x := by
  rw [get32, le32, field_put (x.toNat_lt), UInt32.ofNat_toNat]

@[simp] lemma get32_le32_self (x : UInt32) : get32 (le32 x) 0 = x := by
  simpa using get32_le32 x []

lemma get8_take (l : List UInt8) (h : off + 1 ≤ n) : get8 (l.take n) off = get8 l off := by
  rw [get8, get8, field_take l h]

lemma get32_take (l : List UInt8) (h : off + 4 ≤ n) :
    get32 (l.take n) off = get32 l off := by
  rw [get32, get32, field_take l h]

lemma get8_append_right (h : a.length ≤ off) :
    get8 (a ++ l) off = get8 l (off - a.length) := by
  rw [get8, get8, field_append_right h]

lemma get8_cons_succ (x : UInt8) (l : List UInt8) (off : ℕ) :
    get8 (x :: l) (off + 1) = get8 l off := rfl

lemma get16_cons_succ (x : UInt8) (l : List UInt8) (off : ℕ) :
    get16 (x :: l) (off + 1) = get16 l off := rfl

lemma get32_cons_succ (x : UInt8) (l : List UInt8) (off : ℕ) :
    get32 (x :: l) (off + 1) = get32 l off := rfl

lemma get16_append_right (h : a.length ≤ off) :
    get16 (a ++ l) off = get16 l (off - a.length) := by
  rw [get16, get16, field_append_right h]

lemma get32_append_right (h : a.length ≤ off) :
    get32 (a ++ l) off = get32 l (off - a.length) := by
  rw [get32, get32, field_append_right h]

/-- A field is read at the start of what lies behind the bytes before it. -/
lemma field_drop (l : List UInt8) (a off w : ℕ) : field (l.drop a) off w = field l (a + off) w := by
  rw [field, field, List.drop_drop]

lemma get16_drop (l : List UInt8) (a off : ℕ) : get16 (l.drop a) off = get16 l (a + off) := by
  rw [get16, get16, field_drop]

/-- A field read and written again gives its bytes back. -/
lemma put_field (h : off + w ≤ l.length) :
    put w (field l off w) = (l.drop off).take w := by
  have hlen : ((l.drop off).take w).length = w := by
    rw [List.length_take, List.length_drop]
    omega
  have hput := put_num ((l.drop off).take w)
  rwa [hlen] at hput

lemma le16_get16 (h : off + 2 ≤ l.length) :
    le16 (get16 l off) = (l.drop off).take 2 := by
  have hlt : field l off 2 < 2 ^ 16 := field_lt l off 2
  rw [le16, get16, UInt16.toNat_ofNat', Nat.mod_eq_of_lt hlt, put_field h]

lemma le32_get32 (h : off + 4 ≤ l.length) :
    le32 (get32 l off) = (l.drop off).take 4 := by
  have hlt : field l off 4 < 2 ^ 32 := field_lt l off 4
  rw [le32, get32, UInt32.toNat_ofNat', Nat.mod_eq_of_lt hlt, put_field h]

/-! ### Fields of a medium -/

/-- A field of what was read is read on its own. -/
lemma field_read (m : ℕ → UInt8) (base : ℕ) (h : off + w ≤ len) :
    field (Medium.read m base len) off w = num (Medium.read m (base + off) w) := by
  rw [field, Medium.read_slice m base h]

lemma get8_read (m : ℕ → UInt8) (base : ℕ) (h : off + 1 ≤ len) :
    get8 (Medium.read m base len) off = UInt8.ofNat (num (Medium.read m (base + off) 1)) := by
  rw [get8, field_read m base h]

lemma get16_read (m : ℕ → UInt8) (base : ℕ) (h : off + 2 ≤ len) :
    get16 (Medium.read m base len) off = UInt16.ofNat (num (Medium.read m (base + off) 2)) := by
  rw [get16, field_read m base h]

lemma get32_read (m : ℕ → UInt8) (base : ℕ) (h : off + 4 ≤ len) :
    get32 (Medium.read m base len) off = UInt32.ofNat (num (Medium.read m (base + off) 4)) := by
  rw [get32, field_read m base h]

/-- A field that lies in the written part of a torn write. -/
lemma field_torn (m : ℕ → UInt8) (base : ℕ) (l : List UInt8) {k : ℕ} (hk : off + w ≤ k)
    (hl : off + w ≤ l.length) (hlen : off + w ≤ len) :
    field (Medium.read (Medium.write m base (l.take k)) base len) off w = field l off w := by
  have htake : off + w ≤ (l.take k).length := by
    rw [List.length_take]
    omega
  rw [field_read _ base hlen, ← Medium.read_slice _ base htake, Medium.read_write_same, field,
    List.drop_take, List.take_take, min_eq_left (by omega)]

/-- A word whose first byte is erased differs from one that ends in another byte. -/
lemma get32_ne_of_low {b : UInt8} (h : l[0]? = some b) {x : UInt32}
    (hx : x.toNat % 256 ≠ b.toNat) : get32 l 0 ≠ x := by
  rintro rfl
  apply hx
  have hlow : field l 0 4 % 256 = b.toNat := field_low h 3
  rw [get32, UInt32.toNat_ofNat']
  omega

end Bytes
