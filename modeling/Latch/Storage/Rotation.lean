/-
Key rotation of secure storage (`ls_secure_storage_rotate_key` of
`src/storage/secure_storage.c`) over a flash mirror or a wear-levelled store.

The call opens the image, switches the keys, seals the image under the new ones and, if that
fails, switches the keys back. What a failure leaves depends on where it came from.

* `Driver.backing_atomic`: a sound driver is a backing store that leaves out every write that
  it reports as failed;
* `lsSecureStorageRotateKey_spec`: every exit, with the image that the keys in memory open;
* `rotation_failure_readable_iff`: behind a failed rotation the image is still readable exactly
  if the failure is not one of the sync behind the write of the new image.
-/
import Latch.Storage.Secure
import Latch.Storage.FlashMirror
import Latch.Storage.WearLevel

namespace Latch.Secure

open Bytes Exec

/-! ### The model -/

section

variable {τ : Type} (c : Crypto) (B : Backing τ)

/-- The object under another key. -/
def SecureStorage.rekeyed (secure : SecureStorage) (key : List UInt8) (keyId : UInt32) :
    SecureStorage :=
  { secure with key := key, keyId := keyId }

/-- The state under another key. -/
def Secured.rekeyed (s : Secured τ) (key : List UInt8) (keyId : UInt32) : Secured τ :=
  { s with secure := s.secure.rekeyed key keyId }

/-- Seals the image in the workspace under the new key, and goes back to the old one where that
fails. -/
def sealRekeyed (newKey : List UInt8) (newKeyId : UInt32) : SecureM τ Unit := do
  let old := (← get).secure
  modify fun s => s.rekeyed newKey newKeyId
  match ← attempt (sealImage c B) with
  | .error e => do
    setSecure fun secure => { secure with
      key := old.key, keyId := old.keyId, generation := old.generation,
      hasLastNonce := old.hasLastNonce, lastNonce := old.lastNonce }
    throw (.fail e)
  | .ok () => pure ()

/-- `ls_secure_storage_rotate_key`. -/
def lsSecureStorageRotateKey (newKey : List UInt8) (newKeyId : UInt32) : SecureM τ Unit := do
  let secure := (← get).secure
  if newKeyId = 0 ∨ newKeyId = secure.keyId then throw (.fail .einval)
  else
    match ← attempt (loadImage c B) with
    | .error e => do
      wipe
      throw (.fail e)
    | .ok () => sealRekeyed c B newKey newKeyId

/-- The sync behind the write of the image under the new key fails. -/
def RotationSyncFails (newKey : List UInt8) (newKeyId : UInt32) (s : Secured τ) : Prop :=
  newKeyId ≠ 0 ∧ newKeyId ≠ s.secure.keyId ∧ ∃ s₁, loadImage c B s = .ok () s₁ ∧
    SyncFails c B (s₁.rekeyed newKey newKeyId)

end

/-! ### Every exit -/

section

variable {τ : Type} {c : Crypto} {B : Backing τ} {I : τ → Prop} {view : τ → List UInt8}
  {s : Secured τ}

/-- An image is not opened under another key id. -/
lemma stored_of_other_keyId {a b : SecureStorage} {t : τ} {image : List UInt8}
    (h : stored c view a t = some image) (hsize : b.sealedSize = a.sealedSize)
    (hid : b.keyId ≠ a.keyId) : stored c view b t = none := by
  unfold stored imageOf at h ⊢
  rw [hsize]
  split at h
  · rename_i haccepts
    have hkey := (of_decide_eq_true haccepts).2.2.1
    refine if_neg fun hb => hid ?_
    exact (of_decide_eq_true hb).2.2.1.symm.trans hkey
  · cases h

lemma SameKeys.rekeyed {a b : SecureStorage} (h : SameKeys a b) (key : List UInt8)
    (keyId : UInt32) : SameKeys (a.rekeyed key keyId) (b.rekeyed key keyId) :=
  ⟨h.workspaceSize, h.logicalCapacity, h.sealedSize, rfl, rfl, h.ready⟩

/-- The new image is in the store, under the new key in memory. -/
structure Rotated (c : Crypto) (I : τ → Prop) (view : τ → List UInt8) (newKey : List UInt8)
    (newKeyId : UInt32) (image : List UInt8) (s s' : Secured τ) : Prop where
  inv : I s'.store
  keys : SameKeys (s.secure.rekeyed newKey newKeyId) s'.secure
  image : stored c view s'.secure s'.store = some image

/-- What an error leaves: the keys as they were, and the bytes in the store, unless the sync
failed. -/
structure NotRotated (I : τ → Prop) (view : τ → List UInt8) (c : Crypto) (syncFails : Prop)
    (s s' : Secured τ) : Prop where
  inv : I s'.store
  keys : SameKeys s.secure s'.secure
  kept : ¬ syncFails → view s'.store = view s.store
  lost : syncFails → stored c view s.secure s'.store = none

/-- The same, where the call may have been cut. -/
def NotRotatedUnlessCut (I : τ → Prop) (view : τ → List UInt8) (c : Crypto) (syncFails : Prop)
    (s : Secured τ) (e : Halt Errno) (s' : Secured τ) : Prop :=
  match e with
  | .fail _ => NotRotated I view c syncFails s s'
  | .cut => True

/-- Every exit of the second half of a rotation, over a store that leaves out the writes that it
reports as failed. -/
lemma sealRekeyed_spec (hB : B.Atomic true I view) (hfit : Fits B s.secure) (hI : I s.store)
    (newKey : List UInt8) {newKeyId : UInt32} (hid : newKeyId ≠ s.secure.keyId) :
    Sat (sealRekeyed c B newKey newKeyId) s
      (fun _ s' => Rotated c I view newKey newKeyId
        (Medium.read s.workspace headerSize s.secure.logicalCapacity) s s')
      (NotRotatedUnlessCut I view c (SyncFails c B (s.rekeyed newKey newKeyId)) s) := by
  rw [sealRekeyed, sat_bind, sat_get, sat_bind, sat_modify, sat_bind, sat_attempt]
  have hspec := sealImage_spec (c := c) (s := s.rekeyed newKey newKeyId) hB
    ⟨hfit.size, hfit.workspace, hfit.store, hfit.small⟩ hI
  refine hspec.mono (fun _ s' h => ?_) (fun e s' h => ?_)
  · obtain ⟨hsealed, -⟩ := h
    refine .pure ⟨hsealed.inv, hsealed.keys, ?_⟩
    rw [stored_eq_of_keys hsealed.keys]
    exact hsealed.image
  · cases e with
    | cut => trivial
    | fail e =>
        dsimp only
        rw [sat_bind, setSecure, sat_modify, sat_throw]
        have hback : ∀ {b : SecureStorage}, SameKeys (s.secure.rekeyed newKey newKeyId) b →
            SameKeys s.secure { b with
              key := s.secure.key, keyId := s.secure.keyId, generation := s.secure.generation,
              hasLastNonce := s.secure.hasLastNonce, lastNonce := s.secure.lastNonce } := fun h =>
          ⟨h.workspaceSize, h.logicalCapacity, h.sealedSize, rfl, rfl, h.ready⟩
        obtain ⟨⟨hno, hkept | ⟨hstrict, -⟩⟩ | ⟨hyes, hsealed⟩, -⟩ := h
        · exact ⟨hkept.inv, hback hkept.keys, fun _ => hkept.view, fun h => absurd h hno⟩
        · cases hstrict
        · exact ⟨hsealed.inv, hback hsealed.keys, fun h => absurd hyes h,
            fun _ => stored_of_other_keyId hsealed.image rfl hid.symm⟩

/-- **Every exit of `ls_secure_storage_rotate_key`.** -/
lemma lsSecureStorageRotateKey_spec (hB : B.Atomic true I view) (hfit : Fits B s.secure)
    (hI : I s.store) {image : List UInt8} (himage : stored c view s.secure s.store = some image)
    (hlen : image.length = s.secure.logicalCapacity) (newKey : List UInt8) (newKeyId : UInt32) :
    Sat (lsSecureStorageRotateKey c B newKey newKeyId) s
      (fun _ s' => Rotated c I view newKey newKeyId image s s')
      (NotRotatedUnlessCut I view c (RotationSyncFails c B newKey newKeyId s) s) := by
  rw [lsSecureStorageRotateKey, sat_bind, sat_get, sat_ite]
  constructor
  · intro hargs
    refine .throw ⟨hI, .refl _, fun _ => rfl, fun h => ?_⟩
    exact (hargs.elim h.1 h.2.1).elim
  · intro hargs
    rw [not_or] at hargs
    rw [sat_bind, sat_attempt]
    refine ((loadImage_spec hB hfit hI).and (sat_run _ _)).mono (fun _ s₁ h => ?_)
      (fun e s₁ h => ?_)
    · obtain ⟨⟨hkept, image', hstored, hread⟩, hload⟩ := h
      rw [himage] at hstored
      cases hstored
      have hfails : RotationSyncFails c B newKey newKeyId s ↔
          SyncFails c B (s₁.rekeyed newKey newKeyId) := by
        refine ⟨fun ⟨_, _, s₂, hload', h⟩ => ?_, fun h => ⟨hargs.1, hargs.2, s₁, hload, h⟩⟩
        rw [hload] at hload'
        cases hload'
        exact h
      have hspec := sealRekeyed_spec (c := c) hB (hkept.keys.fits hfit) hkept.inv newKey
        (hkept.keys.keyId.symm ▸ hargs.2)
      refine hspec.mono (fun _ s' h => ?_) (fun e s' h => ?_)
      · refine ⟨h.inv, (hkept.keys.rekeyed _ _).trans h.keys, ?_⟩
        rw [h.image, hkept.keys.logicalCapacity, ← hlen, hread]
      · cases e with
        | cut => trivial
        | fail e =>
            refine ⟨h.inv, hkept.keys.trans h.keys, fun hno => ?_, fun hyes => ?_⟩
            · rw [h.kept (mt hfails.mpr hno), hkept.view]
            · rw [← stored_eq_of_keys hkept.keys]
              exact h.lost (hfails.mp hyes)
    · obtain ⟨⟨hkept, -⟩, hload⟩ := h
      cases e with
      | cut => trivial
      | fail e =>
          dsimp only
          rw [sat_bind, wipe, sat_modify, sat_throw]
          refine ⟨hkept.inv, hkept.keys, fun _ => hkept.view, fun ⟨_, _, s₂, hload', _⟩ => ?_⟩
          rw [hload] at hload'
          cases hload'

end

end Latch.Secure

namespace Latch

open Exec Versioned Secure

/-! ### Drivers as backing stores -/

section Drivers

variable {η ρ : Type} {D : Driver η ρ} {Wf : ρ → Prop}

/-- The backend that a driver offers. -/
def Driver.backing (D : Driver η ρ) : Backing (System ρ) where
  capacity := D.cap
  read := D.read
  write offset source := D.change (.write offset source)
  sync := some D.sync

/-- The image that a driver serves. -/
def Driver.view (D : Driver η ρ) (t : System ρ) : List UInt8 := D.image t.ram t.dev.medium

/-- The driver is open, and its active slot holds the image that it serves. -/
structure Driver.Opened (D : Driver η ρ) (Wf : ρ → Prop) (t : System ρ) : Prop where
  wf : Wf t.ram
  slot : D.slots t.dev.medium (D.active t.ram) = some (D.generation t.ram, D.view t)

lemma Driver.Opened.of_slot {t : System ρ} {v : List UInt8} (hwf : Wf t.ram)
    (h : D.slots t.dev.medium (D.active t.ram) = some (D.generation t.ram, v)) :
    D.Opened Wf t ∧ D.view t = v := by
  have hview : D.view t = v := view_image h
  exact ⟨⟨hwf, by rw [hview]; exact h⟩, hview⟩

lemma Driver.Opened.looked {t t' : System ρ} (h : D.Opened Wf t) (hl : t.dev.Looked t'.dev)
    (hr : t'.ram = t.ram) : D.Opened Wf t' ∧ D.view t' = D.view t := by
  refine Opened.of_slot (hr ▸ h.wf) ?_
  rw [hl.medium, hr]
  exact h.slot

/-- **A sound driver applies every write entirely or not at all**, and not at all where it
reports an error. -/
theorem Driver.backing_atomic (hD : D.Sound Wf) : D.backing.Atomic true (D.Opened Wf) D.view where
  length _ _ := Medium.read_length ..
  read offset length t h hbounds := by
    refine (hD.read offset length t h.wf).mono (fun bytes t' hr => ?_) (fun _ t' hr => ?_)
    · obtain ⟨hlooked, hram, hin, rfl⟩ := hr
      obtain ⟨ho, hv⟩ := h.looked hlooked hram
      exact ⟨ho, hv, (Medium.read_slice _ _ hin).symm⟩
    · exact h.looked hr.1 hr.2
  write offset source t h hbounds := by
    refine (hD.change (.write offset source) t (D.view t) h.wf h.slot).mono
      (fun _ t' hc => ?_) (fun _ t' hc => ?_)
    · obtain ⟨hwf, hact, hgen, hw⟩ := hc
      refine Opened.of_slot hwf ?_
      rw [hact, hgen]
      exact hw.2
    · obtain ⟨hwf, hact, hgen, hw⟩ := hc
      have hbounds : offset + source.length ≤ D.cap := hbounds
      have hin : (Change.write offset source).Within D.cap :=
        ⟨by simp only [Change.offset]; omega, by simp only [Change.bytes, Change.offset]; omega⟩
      rw [if_pos hin] at hw
      -- the active slot is not the one that was written
      have hslot : D.slots t'.dev.medium (D.active t'.ram) =
          some (D.generation t'.ram, D.view t) := by
        rw [hact, hgen, hw.1 _ (hD.target _ h.wf).2.symm]
        exact h.slot
      exact (Opened.of_slot hwf hslot).imp_right .inl
  sync sync hsync t h := by
    cases hsync
    exact (hD.sync t).mono (fun _ t' hr => h.looked hr.1 hr.2) (fun _ t' hr => h.looked hr.1 hr.2)

end Drivers

/-! ### A failed rotation -/

section Failure

variable {η ρ : Type} {D : Driver η ρ} {Wf : ρ → Prop} {c : Crypto} {s s' : Secured (System ρ)}
  {image : List UInt8}

/-- A secure store over an open driver that holds `image`. -/
structure HoldsImage (c : Crypto) (D : Driver η ρ) (Wf : ρ → Prop) (s : Secured (System ρ))
    (image : List UInt8) : Prop where
  fits : Secure.Fits D.backing s.secure
  opened : D.Opened Wf s.store
  stored : stored c D.view s.secure s.store = some image
  length : image.length = s.secure.logicalCapacity

/-- **A failed rotation leaves the image readable** exactly if the error is not one of the sync
that follows the write of the image under the new key. The mirror and the wear-levelled store
are sound drivers, `mirror_sound` and `wear_sound`. -/
theorem rotation_failure_readable_iff (hD : D.Sound Wf) (hs : HoldsImage c D Wf s image)
    {newKey : List UInt8} {newKeyId : UInt32} {e : Errno}
    (hrotate : lsSecureStorageRotateKey c D.backing newKey newKeyId s = .error (.fail e) s')
    (hserved : Served D.backing s') {offset length : ℕ}
    (hbounds : offset + length ≤ s.secure.logicalCapacity) :
    (∃ s'', secureRead c D.backing offset length s' =
        .ok ((image.drop offset).take length) s'') ↔
      ¬ RotationSyncFails c D.backing newKey newKeyId s := by
  have hB := D.backing_atomic hD
  have hspec := lsSecureStorageRotateKey_spec (c := c) hB hs.fits hs.opened hs.stored hs.length
    newKey newKeyId
  have hfailed := sat_of_error hspec hrotate
  obtain ⟨hI, hkeys, hkept, hlost⟩ := hfailed
  have hread := secureRead_spec (c := c) hB (hkeys.fits hs.fits) hI offset length
  rw [hkeys.logicalCapacity, stored_eq_of_keys hkeys] at hread
  constructor
  · rintro ⟨s'', hok⟩ hsync
    obtain ⟨-, -, image', himage', -⟩ := sat_of_ok hread hok
    rw [hlost hsync] at himage'
    cases himage'
  · intro hsync
    have hstored : stored c D.view s.secure s'.store = some image := by
      rw [stored, hkept hsync]
      exact hs.stored
    rw [hstored] at hread
    cases hrun : secureRead c D.backing offset length s' with
    | ok bytes s'' =>
        obtain ⟨-, -, image', himage', hbytes⟩ := sat_of_ok hread hrun
        cases himage'
        exact ⟨s'', by rw [hbytes hs.length]⟩
    | error e s'' =>
        obtain ⟨-, -, hwhy⟩ := sat_of_error hread hrun
        exact absurd hserved ((hwhy hbounds).resolve_right (Option.some_ne_none image))

end Failure

/-- A NOR device with two banks of 128 bytes. -/
def twoBanks : Backend :=
  { sizeMax := 0xffffffff, capacity := 256, eraseSize := 128, writeSize := 1, hasRead := true
    hasWrite := true, hasErase := true, hasSync := true, enforceNor := true
    capacity_le := page_le, eraseSize_le := by decide, writeSize_le := byte_le }

/-- A secure store of one byte over a mirror of an erased device. -/
def securedMirror (faults : ℕ → Request → Fault) (random : ℕ → Except Errno Nonce) :
    Secured (System FlashMirror) :=
  let D := mirror twoBanks 69
  let cfg : Secure.Config := ⟨0xffffffff, 69, 1, List.replicate 32 1, 1⟩
  let store := leaves D.init ⟨.erased faults, D.blank⟩
  leaves (lsSecureStorageInit clearCrypto D.backing cfg) ⟨cfg.storage, fun _ => 0, store, random, 0⟩

/-- A random callback that answers once. -/
def oneNonce (n : ℕ) : Except Errno Nonce := if n = 0 then countedNonce 0 else .error .eio

lemma securedMirror_holds :
    HoldsImage clearCrypto (mirror twoBanks 69) (MirrorWf twoBanks 69)
      (securedMirror (fun _ _ => .none) oneNonce) [0xff] := by
  -- one evaluation of the two initialisations
  have hrun : ∃ s ∈ some (securedMirror (fun _ _ => .none) oneNonce),
      s.secure.sealedSize = 69 ∧ s.secure.workspaceSize = 69 ∧ s.secure.logicalCapacity = 1 ∧
      s.store.ram.logicalCapacity = 69 ∧ flashLayout twoBanks 69 = some s.store.ram.layout ∧
      (s.store.ram.activeBank = 0 ∨ s.store.ram.activeBank = 1) ∧
      (mirror twoBanks 69).slots s.store.dev.medium s.store.ram.activeBank.toNat =
        some (s.store.ram.generation, (mirror twoBanks 69).view s.store) ∧
      stored clearCrypto (mirror twoBanks 69).view s.secure s.store = some [0xff] := by
    decide +kernel
  obtain ⟨s, hs, hsealed, hwork, hcap, hlog, hlay, hact, hslot, hstored⟩ := hrun
  rw [Option.mem_some.mp hs]
  exact ⟨⟨by rw [hsealed, hcap]; rfl, by rw [hsealed, hwork], by rw [hsealed]; exact le_rfl,
    by rw [hcap]; decide⟩, ⟨⟨hlog, by decide, hlay, hact⟩, hslot⟩, hstored, by rw [hcap]; rfl⟩

/-- A rotation that fails for want of a nonce. -/
theorem rotation_failure_readable_iff_nonce :
    let B := (mirror twoBanks 69).backing
    let s := securedMirror (fun _ _ => .none) oneNonce
    ∃ s', lsSecureStorageRotateKey clearCrypto B (List.replicate 32 2) 2 s =
        .error (.fail .eio) s' ∧
      ((∃ s'', secureRead clearCrypto B 0 1 s' = .ok [0xff] s'') ↔
        ¬ RotationSyncFails clearCrypto B (List.replicate 32 2) 2 s) := by
  intro B s
  have hrun : Sat (lsSecureStorageRotateKey clearCrypto B (List.replicate 32 2) 2) s
      (fun _ _ => False) (fun e s' => e = .fail .eio ∧
        Completes (B.read 0 s'.secure.sealedSize) s'.store) := by
    decide +kernel
  cases hrotate : lsSecureStorageRotateKey clearCrypto B (List.replicate 32 2) 2 s with
  | ok a s' => exact (sat_of_ok hrun hrotate).elim
  | error e s' =>
      obtain ⟨rfl, hread⟩ := sat_of_error hrun hrotate
      obtain ⟨bytes, t, hok, -⟩ := hread.exists_ok
      exact ⟨s', rfl, rotation_failure_readable_iff (mirror_sound twoBanks 69)
        securedMirror_holds hrotate ⟨bytes, t, hok⟩ (by decide +kernel)⟩

/-- A fault of one request of the device. -/
def oneFault (k : ℕ) (n : ℕ) (_ : Request) : Fault := if n = k then .fail .eio 0 else .none

/-- The sync behind the write of the new image fails, and behind the failed rotation the image is
not readable any more, although the device serves every further request. -/
theorem image_lost_by_failed_sync :
    let B := (mirror twoBanks 69).backing
    let s := securedMirror (oneFault 43) countedNonce
    Sat (secureRead clearCrypto B 0 1) s (fun bytes _ => bytes = [0xff]) (fun _ _ => False) ∧
      Sat (lsSecureStorageRotateKey clearCrypto B (List.replicate 32 2) 2) s
        (fun _ _ => False)
        (fun e s' => e = .fail .eio ∧ Sat (B.read 0 69) s'.store (fun _ _ => True) (fun _ _ => False) ∧
          Sat (secureRead clearCrypto B 0 1) s' (fun _ _ => False)
            (fun e _ => e = .fail .ecorrupt)) := by
  decide +kernel

end Latch
