
/-
The single stores of `ls_powerfail_seal`, of which a dying supply may leave any first part.

The seal is written behind its magic, then copied to the backup window with a magic of zero,
then the magic is stored as one word, and last the magic of the copy byte by byte.

* `SealMemory`: the bytes of the retained seal and of the backup window;
* `on_all_sealStores`: behind all stores the memory holds what `lsPowerfailSeal` leaves;
* `read_upTo_sealStores`: what a reader finds behind each first part of them;
* `seal_never_torn`: a reader finds nothing, the seal from before or the complete new one;
* `seal_keeps_readable_iff`: the seal from before is lost to readers between the first byte of
  the copy and the magic.
-/
import Latch.Core.Runtime
import Latch.Lib.Stores

namespace Latch

open Bytes

/-! ### Bytes of a seal -/

/-- `sizeof(ls_powerfail_sealed_t)`. -/
def sealSize : ℕ := 60

namespace PowerfailSealed

/-- The words of a seal behind its magic. -/
def body (s : PowerfailSealed) : List UInt8 :=
  le32 s.version ++ (le32 s.reason ++ (le32 s.vcapMv ++ (le32 s.tier ++ (le32 s.bootId ++
    (le32 s.fault ++ (le32 s.pc ++ (le32 s.lr ++ (le32 s.msp ++ (le32 s.psp ++ (le32 s.cfsr ++
      (le32 s.hfsr ++ (le32 s.sequence ++ le32 s.crc))))))))))))

/-- The seal that some words hold behind a magic. -/
def ofBody (magic : UInt32) (l : List UInt8) : PowerfailSealed where
  magic := magic
  version := get32 l 0
  reason := get32 l 4
  vcapMv := get32 l 8
  tier := get32 l 12
  bootId := get32 l 16
  fault := get32 l 20
  pc := get32 l 24
  lr := get32 l 28
  msp := get32 l 32
  psp := get32 l 36
  cfsr := get32 l 40
  hfsr := get32 l 44
  sequence := get32 l 48
  crc := get32 l 52

lemma body_length (s : PowerfailSealed) : s.body.length = sealSize - 4 := by
  simp [body, sealSize]

/-- A seal is read as it was written, with the magic that stands in front of it. -/
lemma ofBody_body (magic : UInt32) (s : PowerfailSealed) :
    ofBody magic s.body = { s with magic := magic } := by
  simp [ofBody, body, get32_append_right]

end PowerfailSealed

/-- The seal in memory. -/
def sealAt (m : ℕ → UInt8) : PowerfailSealed :=
  .ofBody (get32 (Medium.read m 0 4) 0) (Medium.read m 4 (sealSize - 4))

/-! ### Stores -/

/-- The bytes of `sealed_retained` and of the backup window, if one is installed, and
`seal_sequence`. -/
structure SealMemory where
  sealedRetained : ℕ → UInt8
  backupInstalled : Bool
  backupWindow : ℕ → UInt8
  sealSequence : UInt32

namespace SealMemory

/-- The memory with another retained seal. -/
def putSealed (m : SealMemory) (bytes : ℕ → UInt8) : SealMemory := { m with sealedRetained := bytes }

/-- The memory with another backup window. -/
def putBackup (m : SealMemory) (bytes : ℕ → UInt8) : SealMemory := { m with backupWindow := bytes }

/-- The retained memory with these seals. -/
def on (m : SealMemory) (r : Retained) : Retained :=
  { r with
    sealedRetained := sealAt m.sealedRetained
    backupWindow := if m.backupInstalled then some (sealAt m.backupWindow) else none
    sealSequence := m.sealSequence }

end SealMemory

section

variable (r : Retained) (bootCount reason : UInt32) (vcapMv : UInt16)

/-- The number of the next seal. -/
def nextSealSequence : UInt32 := if r.sealSequence + 1 = 0 then 1 else r.sealSequence + 1

/-- The seal that `ls_powerfail_seal` writes. -/
def newSeal : PowerfailSealed :=
  let m := (lsMinimalSnapshotRead r).getD default
  let s : PowerfailSealed :=
    { magic := lsPowerfailMagic, version := lsPowerfailVersion, reason := reason
      vcapMv := vcapMv.toUInt32, tier := if r.backupWindow.isSome then 1 else 0
      bootId := bootCount, fault := m.fault, pc := m.pc, lr := m.lr, msp := m.msp, psp := m.psp
      cfsr := m.cfsr, hfsr := m.hfsr, sequence := nextSealSequence r, crc := 0 }
  { s with crc := s.computedCrc }

lemma lsPowerfailSeal_eq : lsPowerfailSeal r bootCount reason vcapMv =
    if reason = 0 ∨ r.sealedRetained.magic = lsPowerfailMagic then r
    else { r with
      sealSequence := nextSealSequence r, sealedRetained := newSeal r bootCount reason vcapMv
      backupWindow := r.backupWindow.map fun _ => newSeal r bootCount reason vcapMv } := rfl

/-- The stores of a copy to the backup window, where there is one. -/
def backupStores (installed : Bool) (off : ℕ) (bytes : List UInt8) :
    List (SealMemory → SealMemory) :=
  if installed then (Stores.bytes off bytes).map fun f m => m.putBackup (f m.backupWindow) else []

/-- The stores of a seal to retained memory, and of its copy, which has a magic of zero. -/
def bodyStores (installed : Bool) (s : PowerfailSealed) : List (SealMemory → SealMemory) :=
  ((Stores.bytes 4 s.body).map fun f m => m.putSealed (f m.sealedRetained)) ++
    backupStores installed 0 (le32 0 ++ s.body)

/-- The stores of the magic, as a word in retained memory and byte by byte in the copy. -/
def magicStores (installed : Bool) : List (SealMemory → SealMemory) :=
  (fun m => m.putSealed (Medium.write m.sealedRetained 0 (le32 lsPowerfailMagic))) ::
    backupStores installed 0 (le32 lsPowerfailMagic)

/-- The stores of `ls_powerfail_seal`. -/
def sealStores (m : SealMemory) : List (SealMemory → SealMemory) :=
  if reason = 0 ∨ (sealAt m.sealedRetained).magic = lsPowerfailMagic then []
  else
    (fun m' => { m' with sealSequence := nextSealSequence (m.on r) }) ::
      (bodyStores m.backupInstalled (newSeal (m.on r) bootCount reason vcapMv) ++
        magicStores m.backupInstalled)

/-- `ls_powerfail_sealed_read`. -/
def lsPowerfailSealedRead : Option PowerfailSealInfo := (sealedReadRetained r).map sealInfo

end

/-! ### What the stores leave -/

section Phases

variable {m : SealMemory} {s : PowerfailSealed}

variable (w : ℕ → UInt8)

lemma sealAt_magic : (sealAt w).magic = get32 (Medium.read w 0 4) 0 := rfl

/-- A seal of which the words behind the magic are in memory. -/
lemma sealAt_of_body {w : ℕ → UInt8} (h : Medium.read w 4 (sealSize - 4) = s.body) :
    sealAt w = { s with magic := (sealAt w).magic } := by
  rw [sealAt, h, PowerfailSealed.ofBody_body]

/-- Stores behind the magic leave it alone. -/
lemma magic_write_body (bytes : List UInt8) :
    (sealAt (Medium.write w 4 bytes)).magic = (sealAt w).magic := by
  rw [sealAt_magic, sealAt_magic, Medium.read_congr fun a _ h => Medium.write_of_lt (by omega)]

/-- Stores to the magic leave the rest alone. -/
lemma read_body_write_magic {bytes : List UInt8} (h : bytes.length ≤ 4) :
    Medium.read (Medium.write w 0 bytes) 4 (sealSize - 4) = Medium.read w 4 (sealSize - 4) :=
  Medium.read_congr fun a ha _ => Medium.write_of_ge (by omega)

lemma magic_write_magic (x : UInt32) :
    (sealAt (Medium.write w 0 (le32 x))).magic = x := by
  have hread := Medium.read_write_same w 0 (le32 x)
  rw [le32_length] at hread
  rw [sealAt_magic, hread, get32_le32_self]

/-- A magic whose first byte is zero is none of a seal. -/
lemma magic_of_zero {w : ℕ → UInt8} (h : w 0 = 0) :
    (sealAt w).magic ≠ lsPowerfailMagic ∧ (sealAt w).magic ≠ lsPowerfailBackupMagic := by
  have hlow : (Medium.read w 0 4)[0]? = some 0 := by
    rw [Medium.read_getElem? (by decide), h]
  exact ⟨get32_ne_of_low hlow (by decide), get32_ne_of_low hlow (by decide)⟩

/-! ### Cutting the stores -/

lemma upTo_sealedStores (off : ℕ) (bytes : List UInt8) (k : ℕ) (m : SealMemory) :
    Stores.upTo ((Stores.bytes off bytes).map fun f (m : SealMemory) =>
      m.putSealed (f m.sealedRetained)) k m =
        m.putSealed (Medium.write m.sealedRetained off (bytes.take k)) := by
  rw [Stores.upTo_map SealMemory.sealedRetained SealMemory.putSealed (fun _ _ => rfl)
    (fun _ _ _ => rfl) (fun _ => rfl), Stores.upTo_bytes]

lemma backupStores_length (installed : Bool) (off : ℕ) (bytes : List UInt8) :
    (backupStores installed off bytes).length = if installed then bytes.length else 0 := by
  cases installed <;> simp [backupStores]

lemma upTo_backupStores (off : ℕ) (bytes : List UInt8) (k : ℕ) (m : SealMemory) :
    Stores.upTo (backupStores true off bytes) k m =
      m.putBackup (Medium.write m.backupWindow off (bytes.take k)) := by
  rw [backupStores, if_pos rfl, Stores.upTo_map SealMemory.backupWindow SealMemory.putBackup
    (fun _ _ => rfl) (fun _ _ _ => rfl) (fun _ => rfl), Stores.upTo_bytes]

/-- How many bytes are copied to the backup window. -/
def copySize (installed : Bool) : ℕ := if installed then sealSize else 0

lemma bodyStores_length (installed : Bool) (s : PowerfailSealed) :
    (bodyStores installed s).length = sealSize - 4 + copySize installed := by
  rw [bodyStores, List.length_append, List.length_map, Stores.bytes_length, s.body_length,
    backupStores_length, List.length_append, le32_length, s.body_length]
  rfl

/-- Behind some bytes of the seal. -/
lemma upTo_body_early {k : ℕ} (hk : k ≤ sealSize - 4) (rest : List (SealMemory → SealMemory)) :
    Stores.upTo (bodyStores m.backupInstalled s ++ rest) k m =
      m.putSealed (Medium.write m.sealedRetained 4 (s.body.take k)) := by
  rw [Stores.upTo_append, if_pos (by rw [bodyStores_length]; omega), bodyStores,
    Stores.upTo_append, if_pos (by simpa [s.body_length] using hk), upTo_sealedStores]

/-- The memory with the seal behind its magic. -/
def SealMemory.withBody (m : SealMemory) (s : PowerfailSealed) : SealMemory :=
  m.putSealed (Medium.write m.sealedRetained 4 s.body)

lemma all_sealedBody (m : SealMemory) (s : PowerfailSealed) :
    Stores.all ((Stores.bytes 4 s.body).map fun f (m : SealMemory) =>
      m.putSealed (f m.sealedRetained)) m = m.withBody s := by
  rw [← Stores.upTo_of_length_le le_rfl, upTo_sealedStores, List.length_map, Stores.bytes_length,
    List.take_length]
  rfl

/-- Behind some bytes of the copy. -/
lemma upTo_body_copying {k : ℕ} (hk : sealSize - 4 < k)
    (hk' : k ≤ sealSize - 4 + copySize m.backupInstalled)
    (rest : List (SealMemory → SealMemory)) :
    m.backupInstalled = true ∧
      Stores.upTo (bodyStores m.backupInstalled s ++ rest) k m =
        (m.withBody s).putBackup (Medium.write m.backupWindow 0
          ((le32 0 ++ s.body).take (k - (sealSize - 4)))) := by
  have hinstalled : m.backupInstalled = true := by
    by_contra hno
    rw [copySize, if_neg hno] at hk'
    omega
  refine ⟨hinstalled, ?_⟩
  rw [Stores.upTo_append, if_pos (by rw [bodyStores_length]; omega), bodyStores,
    Stores.upTo_append, if_neg (by simpa [s.body_length] using hk), all_sealedBody, hinstalled,
    upTo_backupStores, List.length_map, Stores.bytes_length, s.body_length]
  rfl

/-- The memory with the seal and its copy behind their magics. -/
def SealMemory.withCopy (m : SealMemory) (s : PowerfailSealed) : SealMemory :=
  if m.backupInstalled then
    (m.withBody s).putBackup (Medium.write m.backupWindow 0 (le32 0 ++ s.body))
  else m.withBody s

lemma all_bodyStores (m : SealMemory) (s : PowerfailSealed) :
    Stores.all (bodyStores m.backupInstalled s) m = m.withCopy s := by
  rw [bodyStores, Stores.all_append, all_sealedBody, SealMemory.withCopy]
  cases m.backupInstalled with
  | false => rfl
  | true =>
      rw [← Stores.upTo_of_length_le le_rfl, upTo_backupStores, backupStores_length, if_pos rfl,
        List.take_length]
      rfl

/-- Behind the magic. -/
lemma upTo_body_committed (j : ℕ) :
    Stores.upTo (bodyStores m.backupInstalled s ++ magicStores m.backupInstalled)
        (sealSize - 4 + copySize m.backupInstalled + (j + 1)) m =
      { m with
        sealedRetained := Medium.write (m.withBody s).sealedRetained 0 (le32 lsPowerfailMagic)
        backupWindow := if m.backupInstalled then
          Medium.write (m.withCopy s).backupWindow 0 ((le32 lsPowerfailMagic).take j)
        else m.backupWindow } := by
  rw [Stores.upTo_append, if_neg (by rw [bodyStores_length]; omega), bodyStores_length,
    Nat.add_sub_cancel_left, all_bodyStores, magicStores, Stores.upTo_cons_succ]
  cases hinstalled : m.backupInstalled with
  | false =>
      simp [backupStores, SealMemory.withCopy, SealMemory.withBody, SealMemory.putSealed,
        hinstalled]
  | true =>
      rw [upTo_backupStores]
      simp [SealMemory.withCopy, SealMemory.withBody, SealMemory.putBackup, SealMemory.putSealed,
        hinstalled]

/-- The seal behind its magic. -/
lemma sealAt_committed (hs : s.magic = lsPowerfailMagic) (w : ℕ → UInt8) :
    sealAt (Medium.write (Medium.write w 4 s.body) 0 (le32 lsPowerfailMagic)) = s := by
  have hbody := Medium.read_write_same w 4 s.body
  rw [s.body_length] at hbody
  rw [sealAt_of_body ((read_body_write_magic _ (by simp)).trans hbody), magic_write_magic, ← hs]

/-- The copy, whatever of its magic is there. -/
lemma sealAt_copy {bytes : List UInt8} (hb : bytes.length ≤ 4) :
    sealAt (Medium.write (Medium.write w 0 (le32 0 ++ s.body)) 0 bytes) =
      { s with magic := (sealAt (Medium.write (Medium.write w 0 (le32 0 ++ s.body)) 0 bytes)).magic }
    := by
  have hlen : (le32 0 ++ s.body).length = 4 + (sealSize - 4) := by simp [s.body_length]
  have hbody : Medium.read (Medium.write w 0 (le32 0 ++ s.body)) 4 (sealSize - 4) = s.body := by
    have hread := Medium.read_write_same w 0 (le32 0 ++ s.body)
    rw [hlen, Medium.read_add, Nat.zero_add] at hread
    exact (List.append_inj hread (by simp)).2
  exact sealAt_of_body ((read_body_write_magic _ hb).trans hbody)

end Phases

/-! ### What a reader finds -/

/-- What a reader takes from the backup window. -/
def backupRead (copy : PowerfailSealed) : Option PowerfailSealed :=
  if (copy.magic = lsPowerfailMagic ∨ copy.magic = lsPowerfailBackupMagic) ∧
      sealedValidateCopy { copy with magic := lsPowerfailMagic } then
    some { copy with magic := lsPowerfailMagic }
  else none

section

variable {r : Retained} {m : SealMemory}

variable {s : PowerfailSealed}

lemma sealedReadRetained_of_invalid (h : sealedValidateCopy r.sealedRetained = false) :
    sealedReadRetained r = r.backupWindow.bind backupRead := by
  rw [sealedReadRetained, h]
  cases r.backupWindow <;> rfl

lemma invalid_of_magic (h : s.magic ≠ lsPowerfailMagic) :
    sealedValidateCopy s = false := decide_eq_false fun hv => h hv.1

lemma invalid_of_reason (h : ¬ s.reason ≤ 3) : sealedValidateCopy s = false :=
  decide_eq_false fun hv => h hv.2.2.1

lemma backupRead_of_magic
    (h : s.magic ≠ lsPowerfailMagic ∧ s.magic ≠ lsPowerfailBackupMagic) : backupRead s = none :=
  if_neg fun hv => hv.1.elim h.1 h.2

lemma backupRead_of_reason (h : ¬ s.reason ≤ 3) : backupRead s = none := by
  have hinvalid := invalid_of_reason (s := { s with magic := lsPowerfailMagic }) h
  exact if_neg fun hv => Bool.false_ne_true (hinvalid.symm.trans hv.2)

/-- Without a retained seal, the copy is read. -/
lemma read_on_of_magic (h : (sealAt m.sealedRetained).magic ≠ lsPowerfailMagic) :
    sealedReadRetained (m.on r) =
      if m.backupInstalled then backupRead (sealAt m.backupWindow) else none := by
  rw [sealedReadRetained_of_invalid (invalid_of_magic h), SealMemory.on]
  cases m.backupInstalled <;> rfl

variable {bootCount reason : UInt32} {vcapMv : UInt16}

variable {s : PowerfailSealed} {k : ℕ}

lemma newSeal_valid (h : reason ≤ 3) :
    sealedValidateCopy (newSeal r bootCount reason vcapMv) = true := by
  refine decide_eq_true ⟨rfl, rfl, h, ?_, rfl⟩
  change (if r.backupWindow.isSome then (1 : UInt32) else 0) ≤ 1
  split <;> decide

/-- A complete seal is read exactly if its reason is a known one. -/
lemma read_on_committed (hs : s.reason ≤ 3 → sealedValidateCopy s = true)
    (hseal : sealAt m.sealedRetained = s)
    (hcopy : m.backupInstalled = true → (sealAt m.backupWindow).reason = s.reason) :
    sealedReadRetained (m.on r) = if s.reason ≤ 3 then some s else none := by
  split
  · rename_i hknown
    rw [sealedReadRetained, SealMemory.on, hseal]
    exact if_pos (hs hknown)
  · rename_i hunknown
    have hinvalid : sealedValidateCopy (sealAt m.sealedRetained) = false := by
      rw [hseal]
      exact invalid_of_reason hunknown
    rw [sealedReadRetained_of_invalid hinvalid, SealMemory.on]
    cases hinstalled : m.backupInstalled with
    | false => rfl
    | true => exact backupRead_of_reason (by rw [hcopy hinstalled]; exact hunknown)

/-- The seal is not complete, and the copy not begun. -/
lemma read_early (hmagic : (sealAt m.sealedRetained).magic ≠ lsPowerfailMagic) (hk : k ≤ sealSize - 4)
    (rest : List (SealMemory → SealMemory)) :
    sealedReadRetained ((Stores.upTo (bodyStores m.backupInstalled s ++ rest) k m).on r) =
      sealedReadRetained (m.on r) := by
  have hmagic' : (sealAt (m.putSealed (Medium.write m.sealedRetained 4
      (s.body.take k))).sealedRetained).magic ≠ lsPowerfailMagic :=
    (magic_write_body ..).trans_ne hmagic
  rw [upTo_body_early hk, read_on_of_magic hmagic', read_on_of_magic hmagic]
  rfl

/-- The copy has lost its magic. -/
lemma read_copying (hmagic : (sealAt m.sealedRetained).magic ≠ lsPowerfailMagic) (hk : sealSize - 4 < k)
    (hk' : k ≤ sealSize - 4 + copySize m.backupInstalled)
    (rest : List (SealMemory → SealMemory)) :
    sealedReadRetained ((Stores.upTo (bodyStores m.backupInstalled s ++ rest) k m).on r) =
      none := by
  obtain ⟨hinstalled, heq⟩ := upTo_body_copying (s := s) hk hk' rest
  have hmagic' : (sealAt (m.withBody s).sealedRetained).magic ≠ lsPowerfailMagic :=
    (magic_write_body ..).trans_ne hmagic
  obtain ⟨j, hj⟩ : ∃ j, k - (sealSize - 4) = j + 1 := ⟨k - (sealSize - 4) - 1, by omega⟩
  have hzero : Medium.write m.backupWindow 0 ((le32 0 ++ s.body).take (j + 1)) 0 = 0 :=
    Medium.write_at (i := 0) rfl
  rw [heq, hj]
  refine (read_on_of_magic ?_).trans ?_
  · exact hmagic'
  · exact (if_pos hinstalled).trans (backupRead_of_magic (magic_of_zero hzero))

/-- The seal is complete. -/
lemma read_committed (hs : s.magic = lsPowerfailMagic)
    (hv : s.reason ≤ 3 → sealedValidateCopy s = true)
    (hk : sealSize - 4 + copySize m.backupInstalled < k) :
    sealedReadRetained ((Stores.upTo (bodyStores m.backupInstalled s ++
      magicStores m.backupInstalled) k m).on r) = if s.reason ≤ 3 then some s else none := by
  obtain ⟨j, rfl⟩ := Nat.exists_eq_add_of_lt hk
  rw [Nat.add_assoc, upTo_body_committed]
  refine read_on_committed hv (sealAt_committed hs _) fun hinstalled => ?_
  change (sealAt (if m.backupInstalled then _ else _)).reason = _
  rw [if_pos hinstalled, SealMemory.withCopy, if_pos hinstalled]
  have hshort : ((le32 lsPowerfailMagic).take j).length ≤ 4 := by simp
  have hcopy := congrArg PowerfailSealed.reason (sealAt_copy (s := s) m.backupWindow hshort)
  exact hcopy

/-- **What a reader finds behind each first part of the stores.** -/
theorem read_upTo_sealStores (hreason : reason ≠ 0)
    (hmagic : (sealAt m.sealedRetained).magic ≠ lsPowerfailMagic) (k : ℕ) :
    sealedReadRetained ((Stores.upTo (sealStores r bootCount reason vcapMv m) k m).on r) =
      if k ≤ sealSize - 3 then sealedReadRetained (m.on r)
      else if k ≤ sealSize - 3 + copySize m.backupInstalled then none
      else if reason ≤ 3 then some (newSeal (m.on r) bootCount reason vcapMv) else none := by
  rw [sealStores, if_neg (not_or.mpr ⟨hreason, hmagic⟩)]
  cases k with
  | zero => rfl
  | succ k =>
      rw [Stores.upTo_cons_succ]
      set m' := { m with sealSequence := nextSealSequence (m.on r) }
      have hinstalled : m'.backupInstalled = m.backupInstalled := rfl
      have hsize : sealSize - 3 = sealSize - 4 + 1 := rfl
      rw [← hinstalled]
      split
      · exact read_early (m := m') hmagic (by omega) _
      · split
        · exact read_copying (m := m') hmagic (by omega) (by omega) _
        · exact read_committed rfl newSeal_valid (by omega)

end

/-! ### The stores and the function -/

lemma sealStores_length_le (installed : Bool) (s : PowerfailSealed) :
    (bodyStores installed s ++ magicStores installed).length ≤
      sealSize - 4 + copySize installed + (4 + 1) := by
  rw [List.length_append, bodyStores_length, magicStores, List.length_cons, backupStores_length]
  split <;> simp

/-- The memory behind all stores of a seal. -/
lemma on_all_stores (r : Retained) (m : SealMemory) {s : PowerfailSealed}
    (hs : s.magic = lsPowerfailMagic) :
    (Stores.all (bodyStores m.backupInstalled s ++ magicStores m.backupInstalled) m).on r =
      { r with
        sealedRetained := s, backupWindow := if m.backupInstalled then some s else none
        sealSequence := m.sealSequence } := by
  rw [← Stores.upTo_of_length_le (sealStores_length_le _ s), upTo_body_committed, SealMemory.on]
  have hseal : sealAt (Medium.write (m.withBody s).sealedRetained 0 (le32 lsPowerfailMagic)) = s :=
    sealAt_committed hs _
  have hfour : (le32 lsPowerfailMagic).take 4 = le32 lsPowerfailMagic := rfl
  simp only [hseal, hfour]
  by_cases hinstalled : m.backupInstalled = true
  · simp only [hinstalled, if_true, SealMemory.withCopy]
    have hcopy : sealAt (Medium.write (Medium.write m.backupWindow 0 (le32 0 ++ s.body)) 0
        (le32 lsPowerfailMagic)) = s := by
      rw [sealAt_copy _ (by simp), magic_write_magic, ← hs]
    change { r with
      sealedRetained := s, backupWindow := some (sealAt (Medium.write (Medium.write m.backupWindow 0
        (le32 0 ++ s.body)) 0 (le32 lsPowerfailMagic))), sealSequence := m.sealSequence } = _
    rw [hcopy]
  · simp [hinstalled]

/-- Behind all stores the memory holds what `ls_powerfail_seal` leaves. -/
theorem on_all_sealStores (r : Retained) (m : SealMemory) (bootCount reason : UInt32)
    (vcapMv : UInt16) :
    (Stores.all (sealStores r bootCount reason vcapMv m) m).on r =
      lsPowerfailSeal (m.on r) bootCount reason vcapMv := by
  have hon : (m.on r).sealedRetained.magic = (sealAt m.sealedRetained).magic := rfl
  rw [lsPowerfailSeal_eq, sealStores, hon]
  split
  · rfl
  · have hs : (newSeal (m.on r) bootCount reason vcapMv).magic = lsPowerfailMagic := rfl
    rw [Stores.all_cons]
    refine (on_all_stores r { m with sealSequence := nextSealSequence (m.on r) } hs).trans ?_
    have hwindow : (m.on r).backupWindow =
        if m.backupInstalled then some (sealAt m.backupWindow) else none := rfl
    rw [hwindow]
    by_cases hinstalled : m.backupInstalled = true <;> simp [hinstalled, SealMemory.on]

/-! ### Torn seals -/

/-- **A seal is never read back torn.** If no seal stands in retained memory, then behind each
first part of the stores a reader finds nothing, or the seal that it found in the backup window
before the call, or the complete new one; behind all stores it finds the new one if the reason
is a known one. -/
theorem seal_never_torn (r : Retained) (m : SealMemory) (bootCount reason : UInt32)
    (vcapMv : UInt16) (hmagic : (sealAt m.sealedRetained).magic ≠ lsPowerfailMagic) :
    (∀ k, ∃ found,
      (found = none ∨ found = sealedReadRetained (m.on r) ∨
        found = some (newSeal (m.on r) bootCount reason vcapMv)) ∧
      sealedReadRetained ((Stores.upTo (sealStores r bootCount reason vcapMv m) k m).on r) = found ∧
      lsPowerfailSealedRead ((Stores.upTo (sealStores r bootCount reason vcapMv m) k m).on r) =
        found.map sealInfo) ∧
    (1 ≤ reason → reason ≤ 3 →
      lsPowerfailSealedRead ((Stores.all (sealStores r bootCount reason vcapMv m) m).on r) =
        some (sealInfo (newSeal (m.on r) bootCount reason vcapMv))) := by
  constructor
  · refine fun k => ⟨_, ?_, rfl, rfl⟩
    by_cases hreason : reason = 0
    · rw [sealStores, if_pos (.inl hreason), Stores.upTo_nil]
      exact .inr (.inl rfl)
    · rw [read_upTo_sealStores hreason hmagic]
      split
      · exact .inr (.inl rfl)
      · split
        · exact .inl rfl
        · split
          · exact .inr (.inr rfl)
          · exact .inl rfl
  · intro h1 h3
    have hreason : reason ≠ 0 := by
      rintro rfl
      exact absurd h1 (by decide)
    have hstop : ¬ (reason = 0 ∨ (m.on r).sealedRetained.magic = lsPowerfailMagic) :=
      not_or.mpr ⟨hreason, hmagic⟩
    rw [on_all_sealStores, lsPowerfailSeal_eq, if_neg hstop, lsPowerfailSealedRead,
      sealedReadRetained, if_pos (newSeal_valid h3)]
    rfl

/-- A brownout with an empty backup window. -/
theorem seal_never_torn_brownout :
    lsPowerfailSealedRead ((Stores.all (sealStores default 1 1 3300
      ⟨fun _ => 0, true, fun _ => 0, 0⟩) ⟨fun _ => 0, true, fun _ => 0, 0⟩).on default) =
        some ⟨1, 1, 3300, 1, 0, true⟩ := by
  rw [(seal_never_torn default ⟨fun _ => 0, true, fun _ => 0, 0⟩ 1 1 3300 (by decide)).2
    (by decide) (by decide)]
  decide +kernel

/-! ### Evidence in the backup window -/

/-- **What sealing costs.** A seal that is readable before the call stays readable behind a
first part of the stores exactly if nothing is stored, or the copy is not begun, or the magic
of a new seal with a known reason is stored. -/
theorem seal_keeps_readable_iff (r : Retained) (m : SealMemory) (bootCount reason : UInt32)
    (vcapMv : UInt16) (k : ℕ) (hread : (lsPowerfailSealedRead (m.on r)).isSome) :
    (lsPowerfailSealedRead
        ((Stores.upTo (sealStores r bootCount reason vcapMv m) k m).on r)).isSome ↔
      reason = 0 ∨ (sealAt m.sealedRetained).magic = lsPowerfailMagic ∨ k ≤ sealSize - 3 ∨
        2 * sealSize - 3 < k ∧ reason ≤ 3 := by
  by_cases hstop : reason = 0 ∨ (sealAt m.sealedRetained).magic = lsPowerfailMagic
  · rw [sealStores, if_pos hstop, Stores.upTo_nil]
    exact iff_of_true hread (hstop.imp_right .inl)
  obtain ⟨hreason, hmagic⟩ := not_or.mp hstop
  simp only [hreason, hmagic, false_or]
  -- the seal from before stands in the backup window
  have hinstalled : m.backupInstalled = true := by
    by_contra hno
    rw [lsPowerfailSealedRead, read_on_of_magic hmagic, if_neg hno] at hread
    exact Bool.false_ne_true hread
  have hcopied : sealSize - 3 + copySize m.backupInstalled = 2 * sealSize - 3 := by
    rw [hinstalled]
    rfl
  rw [lsPowerfailSealedRead, Option.isSome_map] at hread ⊢
  rw [read_upTo_sealStores hreason hmagic, hcopied]
  split
  · rename_i hearly
    exact iff_of_true hread (.inl hearly)
  · rename_i hlate
    split
    · rename_i hcopying
      exact iff_of_false Bool.false_ne_true (not_or.mpr ⟨hlate, fun h => by omega⟩)
    · rename_i hcommitted
      have hk : 2 * sealSize - 3 < k := by omega
      by_cases h3 : reason ≤ 3 <;> simp [h3, hk, hlate]

/-- Retained memory that has died behind a brownout, with the copy of its seal. -/
def survivingCopy : SealMemory :=
  { Stores.all (sealStores default 1 1 3300 ⟨fun _ => 0, true, fun _ => 0, 0⟩)
      ⟨fun _ => 0, true, fun _ => 0, 0⟩ with sealedRetained := fun _ => 0 }

lemma survivingCopy_read :
    sealedReadRetained (survivingCopy.on default) = some (newSeal
      (SealMemory.on ⟨fun _ => 0, true, fun _ => 0, 0⟩ default) 1 1 3300) := by
  decide +kernel

/-- A second brownout before the first is promoted, cut in front of its copy. -/
theorem seal_keeps_readable_iff_second :
    (lsPowerfailSealedRead ((Stores.upTo (sealStores default 2 2 3000 survivingCopy) 57
      survivingCopy).on default)).isSome :=
  (seal_keeps_readable_iff default survivingCopy 2 2 3000 57 (by
    rw [lsPowerfailSealedRead, survivingCopy_read]; rfl)).mpr (.inr (.inr (.inl (by decide))))

/-- **A brownout destroys the seal of another one.** The first byte of the copy takes the magic
of the seal in the backup window, before there is another one in retained memory. -/
theorem seal_loses_backup :
    (lsPowerfailSealedRead (survivingCopy.on default)).isSome ∧
      lsPowerfailSealedRead ((Stores.upTo (sealStores default 2 2 3000 survivingCopy) 58
        survivingCopy).on default) = none := by
  have hmagic : (sealAt survivingCopy.sealedRetained).magic ≠ lsPowerfailMagic := by decide
  constructor
  · rw [lsPowerfailSealedRead, survivingCopy_read]
    rfl
  · rw [lsPowerfailSealedRead, read_upTo_sealStores (by decide) hmagic, if_neg (by decide),
      if_pos (by decide)]
    rfl

end Latch
