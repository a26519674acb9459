
/-
Secure storage (`src/storage/secure_storage.c`): one logical image, kept encrypted in a
backing store and opened in a workspace for every call.

The functions follow the source. A `Backing` is the storage backend below, over whatever state
it has; `Backing.Atomic` says that it applies every write entirely or not at all.

* `imageOf_sealed`: what `seal_image` writes, `load_image` opens to the same image;
* `loadImage_spec`, `sealImage_spec`: every exit of the two, with what is left in the store;
* `secure_refines_atomic`: in every run of reads, updates and re-initialisations a read that the
  store serves returns the image of the last update that succeeded or of one attempted after
  it, and no call leaves a byte of an image in the workspace.
-/
import Latch.Envelope.Secure
import Latch.Lib.Run
import Latch.Storage.ImageStore

namespace Latch.Secure

open Bytes Exec

/-! ### The model -/

/-- `SECURE_STORAGE_MAGIC`. -/
def secureStorageMagic : UInt32 := 0x5353534c

/-- `SECURE_STORAGE_VERSION`. -/
def secureStorageVersion : UInt32 := 1

/-- `secure_header_t`. -/
structure SecureHeader where
  magic : UInt32
  version : UInt32
  keyId : UInt32
  generation : UInt32
  length : UInt32
  nonce : List UInt8
  headerCrc : UInt32
  deriving DecidableEq

/-- `sizeof(secure_header_t)`. -/
def headerSize : ℕ := 48

/-- The bytes of a header before its CRC. -/
def SecureHeader.fields (h : SecureHeader) : List UInt8 :=
  le32 h.magic ++ (le32 h.version ++ (le32 h.keyId ++ (le32 h.generation ++
    (le32 h.length ++ h.nonce))))

/-- The bytes of a header in memory. -/
def SecureHeader.bytes (h : SecureHeader) : List UInt8 := h.fields ++ le32 h.headerCrc

/-- The header that the bytes at the start of `l` are. -/
def SecureHeader.ofBytes (l : List UInt8) : SecureHeader :=
  ⟨get32 l 0, get32 l 4, get32 l 8, get32 l 12, get32 l 16, (l.drop 20).take 24, get32 l 44⟩

/-- `header_crc`. -/
def headerCrc (h : SecureHeader) : UInt32 := lsCrc32 h.fields

/-- What is stored besides the image. -/
def overhead : ℕ := headerSize + 4 + lsAeadTagSize

/-- `ls_secure_storage_sealed_size`. -/
def lsSecureStorageSealedSize (sizeMax logicalCapacity : ℕ) : ℕ :=
  if sizeMax - overhead < logicalCapacity then 0 else overhead + logicalCapacity

/-- `ls_secure_storage_t`; `ready` says that the functions of its backend are set. -/
structure SecureStorage where
  workspaceSize : ℕ
  logicalCapacity : ℕ
  sealedSize : ℕ
  key : List UInt8
  lastNonce : List UInt8
  keyId : UInt32
  generation : UInt32
  hasLastNonce : Bool
  ready : Bool

/-- The backend below, over its own state; `sync` may be missing. -/
structure Backing (τ : Type) where
  capacity : ℕ
  read : (offset length : ℕ) → EStateM (Halt Errno) τ (List UInt8)
  write : (offset : ℕ) → (source : List UInt8) → EStateM (Halt Errno) τ Unit
  sync : Option (EStateM (Halt Errno) τ Unit)

/-- The object, its workspace, the store below, and what the random callback answers. -/
structure Secured (τ : Type) where
  secure : SecureStorage
  workspace : ℕ → UInt8
  store : τ
  random : ℕ → Except Errno Nonce
  drawn : ℕ

/-- The functions of secure storage. -/
abbrev SecureM (τ : Type) := EStateM (Halt Errno) (Secured τ)

section

variable {τ α : Type}

/-- A call of the backend below. -/
def onStore (x : EStateM (Halt Errno) τ α) : SecureM τ α :=
  zoom Secured.store (fun s store => { s with store := store }) x

def setWorkspace (f : (ℕ → UInt8) → ℕ → UInt8) : SecureM τ Unit :=
  modify fun s => { s with workspace := f s.workspace }

def setSecure (f : SecureStorage → SecureStorage) : SecureM τ Unit :=
  modify fun s => { s with secure := f s.secure }

/-- `secure->random`. -/
def drawNonce : SecureM τ Nonce := do
  let s ← get
  set { s with drawn := s.drawn + 1 }
  match s.random s.drawn with
  | .error e => throw (.fail e)
  | .ok nonce => pure nonce

/-- The workspace is set to zero. -/
def Secured.wiped (s : Secured τ) : Secured τ :=
  { s with workspace := Medium.fill s.workspace 0 s.secure.workspaceSize 0 }

/-- `ls_secure_zero` on the workspace. -/
def wipe : SecureM τ Unit := modify Secured.wiped

/-- Wipes the workspace behind `x`, whatever it returns. -/
def wiping (x : SecureM τ α) : SecureM τ α := do
  match ← attempt x with
  | .ok a => do
    wipe
    return a
  | .error e => do
    wipe
    throw (.fail e)

/-- The text `laststate/latch/storage/v1`. -/
def storageLabel : List UInt8 :=
  [0x6c, 0x61, 0x73, 0x74, 0x73, 0x74, 0x61, 0x74, 0x65, 0x2f, 0x6c, 0x61, 0x74, 0x63, 0x68,
    0x2f, 0x73, 0x74, 0x6f, 0x72, 0x61, 0x67, 0x65, 0x2f, 0x76, 0x31]

variable (c : Crypto) (B : Backing τ)

/-- `derive_key`. -/
def deriveKey (secure : SecureStorage) (generation : UInt32) : Except Errno (List UInt8) :=
  c.hkdfSha256 (le32 secure.keyId ++ le32 generation) secure.key storageLabel 32

/-- The checks of `load_image` on the header and the CRC of what was read. -/
def accepts (secure : SecureStorage) (bytes : List UInt8) : Bool :=
  let header := SecureHeader.ofBytes bytes
  header.magic = secureStorageMagic ∧ header.version = secureStorageVersion ∧
    header.keyId = secure.keyId ∧ header.length.toNat = secure.logicalCapacity ∧
    header.headerCrc = headerCrc header ∧
    get32 bytes (headerSize + secure.logicalCapacity) =
      lsCrc32 ((bytes.drop headerSize).take secure.logicalCapacity)

/-- Derives the key of the stored generation and decrypts the image. -/
def openImage (secure : SecureStorage) (bytes : List UInt8) : Except Errno (List UInt8) :=
  let header := SecureHeader.ofBytes bytes
  match deriveKey c secure header.generation with
  | .error e => .error e
  | .ok derived =>
    c.decrypt derived header.nonce (bytes.take headerSize)
      ((bytes.drop headerSize).take secure.logicalCapacity)
      ((bytes.drop (headerSize + secure.logicalCapacity + 4)).take lsAeadTagSize)

/-- `load_image`. -/
def loadImage : SecureM τ Unit := do
  let secure := (← get).secure
  let bytes ← onStore (B.read 0 secure.sealedSize)
  setWorkspace (Medium.write · 0 bytes)
  if ¬ accepts secure bytes then throw (.fail .ecorrupt)
  else
    match openImage c secure bytes with
    | .error e => do
      setWorkspace (Medium.fill · headerSize secure.logicalCapacity 0)
      throw (.fail e)
    | .ok text => do
      setWorkspace (Medium.write · headerSize text)
      let header := SecureHeader.ofBytes bytes
      setSecure fun secure => { secure with
        generation := header.generation, lastNonce := header.nonce, hasLastNonce := true }

/-- The header that `seal_image` builds. -/
def newHeader (secure : SecureStorage) (nonce : Nonce) : SecureHeader :=
  let header : SecureHeader :=
    { magic := secureStorageMagic
      version := secureStorageVersion
      keyId := secure.keyId
      generation := secure.generation + 1
      length := UInt32.ofNat secure.logicalCapacity
      nonce := nonce.val
      headerCrc := 0 }
  { header with headerCrc := headerCrc header }

/-- What `seal_image` builds in the workspace: header, ciphertext, CRC and tag. -/
def sealedBytes (secure : SecureStorage) (nonce : Nonce) (image : List UInt8) :
    Except Errno (List UInt8) :=
  let header := newHeader secure nonce
  match deriveKey c secure header.generation with
  | .error e => .error e
  | .ok derived =>
    match c.encrypt derived header.nonce header.bytes image with
    | .error e => .error e
    | .ok (ciphertext, tag) =>
      .ok (header.bytes ++ (ciphertext ++ (le32 (lsCrc32 ciphertext) ++ tag)))

/-- Writes the sealed image to the store. -/
def commit (sealed : List UInt8) : SecureM τ Unit := do
  onStore (B.write 0 sealed)
  match B.sync with
  | none => pure ()
  | some sync => onStore sync

/-- `seal_image` up to its wiping of the workspace. -/
def sealUnwiped : SecureM τ Unit := do
  let secure := (← get).secure
  let nonce ← drawNonce
  if secure.hasLastNonce ∧ nonce.val = secure.lastNonce then throw (.fail .eauth)
  else do
    let s ← get
    match sealedBytes c secure nonce
        (Medium.read s.workspace headerSize secure.logicalCapacity) with
    | .error e => throw (.fail e)
    | .ok sealed => do
      setWorkspace (Medium.write · 0 sealed)
      commit B sealed
      setSecure fun secure => { secure with
        generation := secure.generation + 1, lastNonce := nonce.val, hasLastNonce := true }

/-- `seal_image`. -/
def sealImage : SecureM τ Unit := wiping (sealUnwiped c B)

/-- `secure_read`. -/
def secureRead (offset length : ℕ) : SecureM τ (List UInt8) := do
  let secure := (← get).secure
  if secure.logicalCapacity < offset ∨ secure.logicalCapacity - offset < length then
    throw (.fail .einval)
  else
    wiping (do
      loadImage c B
      let s ← get
      return Medium.read s.workspace (headerSize + offset) length)

/-- `update_image`, with `secure_write` and `secure_erase` as the two kinds of change. -/
def updateImage (change : Change) : SecureM τ Unit := do
  let secure := (← get).secure
  if secure.logicalCapacity < change.offset ∨
      secure.logicalCapacity - change.offset < change.bytes.length then throw (.fail .einval)
  else do
    match ← attempt (loadImage c B) with
    | .error e => do
      wipe
      throw (.fail e)
    | .ok () => do
      setWorkspace (Medium.write · (headerSize + change.offset) change.bytes)
      sealImage c B

/-- `secure_sync`. -/
def secureSync : SecureM τ Unit :=
  match B.sync with
  | none => pure ()
  | some sync => onStore sync

/-- The arguments of `ls_secure_storage_init` besides the pointers. -/
structure Config where
  sizeMax : ℕ
  workspaceSize : ℕ
  logicalCapacity : ℕ
  key : List UInt8
  keyId : UInt32

/-- The object that `ls_secure_storage_init` sets up before it looks at the store. -/
def Config.storage (cfg : Config) : SecureStorage where
  workspaceSize := cfg.workspaceSize
  logicalCapacity := cfg.logicalCapacity
  sealedSize := lsSecureStorageSealedSize cfg.sizeMax cfg.logicalCapacity
  key := cfg.key
  lastNonce := List.replicate 24 0
  keyId := cfg.keyId
  generation := 0
  hasLastNonce := false
  ready := false

/-- Opens the image that is there, or makes a first one in a blank store. -/
def openStore (bytes : List UInt8) : SecureM τ Unit := do
  let secure := (← get).secure
  if get32 bytes 0 = secureStorageMagic then wiping (loadImage c B)
  else if bytes.all (· = 0xff) then do
    setWorkspace fun workspace =>
      Medium.fill (Medium.fill workspace 0 headerSize 0) headerSize secure.logicalCapacity 0xff
    sealImage c B
  else do
    setSecure fun secure => { secure with key := List.replicate 32 0 }
    throw (.fail .ecorrupt)

/-- `ls_secure_storage_init`. -/
def lsSecureStorageInit (cfg : Config) : SecureM τ Unit :=
  let sealedSize := lsSecureStorageSealedSize cfg.sizeMax cfg.logicalCapacity
  if cfg.logicalCapacity = 0 ∨ 0xffffffff < cfg.logicalCapacity ∨ cfg.keyId = 0 then
    throw (.fail .einval)
  else if sealedSize = 0 then throw (.fail .eoverflow)
  else if cfg.workspaceSize < sealedSize ∨ B.capacity < sealedSize then throw (.fail .enospace)
  else do
    setSecure fun _ => cfg.storage
    let bytes ← onStore (B.read 0 headerSize)
    openStore c B bytes
    setSecure fun secure => { secure with ready := true }

/-- `ls_secure_storage_destroy`. -/
def lsSecureStorageDestroy : SecureM τ Unit := do
  setSecure fun secure => { secure with key := List.replicate 32 0 }
  wipe
  setSecure fun secure => { secure with ready := false }

end

/-! ### Sealed images -/

lemma SecureHeader.fields_length {h : SecureHeader} (hn : h.nonce.length = 24) :
    h.fields.length = 44 := by
  simp [SecureHeader.fields, hn]

lemma SecureHeader.bytes_length {h : SecureHeader} (hn : h.nonce.length = 24) :
    h.bytes.length = headerSize := by
  simp [SecureHeader.bytes, fields_length hn, headerSize]

lemma SecureHeader.ofBytes_append {h : SecureHeader} (hn : h.nonce.length = 24)
    (l : List UInt8) : SecureHeader.ofBytes (h.bytes ++ l) = h := by
  have hnonce : ((h.bytes ++ l).drop 20).take 24 = h.nonce := by
    have hsplit : h.bytes ++ l = (le32 h.magic ++ (le32 h.version ++ (le32 h.keyId ++
        (le32 h.generation ++ le32 h.length)))) ++ (h.nonce ++ (le32 h.headerCrc ++ l)) := by
      simp [SecureHeader.bytes, SecureHeader.fields]
    rw [hsplit, List.drop_left' (by simp), List.take_left' hn]
  rw [SecureHeader.ofBytes, hnonce]
  simp [SecureHeader.bytes, SecureHeader.fields, get32_append_right, hn]

section Sealed

variable {c : Crypto} {secure : SecureStorage} {nonce : Nonce} {image sealed : List UInt8}

/-- The image that the bytes of the store open to, if any. -/
def imageOf (c : Crypto) (secure : SecureStorage) (bytes : List UInt8) : Option (List UInt8) :=
  if accepts secure bytes then (openImage c secure bytes).toOption else none

/-- The parts of a sealed image. -/
lemma sealedBytes_eq_ok (h : sealedBytes c secure nonce image = .ok sealed) :
    ∃ derived ciphertext tag, deriveKey c secure (secure.generation + 1) = .ok derived ∧
      c.encrypt derived nonce.val (newHeader secure nonce).bytes image = .ok (ciphertext, tag) ∧
      sealed = (newHeader secure nonce).bytes ++
        (ciphertext ++ (le32 (lsCrc32 ciphertext) ++ tag)) := by
  unfold sealedBytes at h
  dsimp only at h
  split at h
  · cases h
  · rename_i derived hderive
    split at h
    · cases h
    · rename_i ciphertext tag hencrypt
      cases h
      exact ⟨derived, ciphertext, tag, hderive, hencrypt, rfl⟩

lemma newHeader_nonce_length : (newHeader secure nonce).nonce.length = 24 := nonce.property

lemma sealedBytes_length (h : sealedBytes c secure nonce image = .ok sealed) :
    sealed.length = overhead + image.length := by
  obtain ⟨derived, ciphertext, tag, -, hencrypt, rfl⟩ := sealedBytes_eq_ok h
  obtain ⟨hc, ht⟩ := c.encrypt_length hencrypt
  simp only [List.length_append, SecureHeader.bytes_length newHeader_nonce_length, hc, ht,
    le32_length, overhead]
  omega

/-- **A sealed image opens to itself.** -/
lemma imageOf_sealed (hcap : image.length = secure.logicalCapacity)
    (hsmall : secure.logicalCapacity ≤ 0xffffffff)
    (h : sealedBytes c secure nonce image = .ok sealed) : imageOf c secure sealed = some image := by
  obtain ⟨derived, ciphertext, tag, hderive, hencrypt, rfl⟩ := sealedBytes_eq_ok h
  obtain ⟨hc, ht⟩ := c.encrypt_length hencrypt
  rw [hcap] at hc
  have hnonce : (newHeader secure nonce).nonce.length = 24 := newHeader_nonce_length
  have hsize := SecureHeader.bytes_length hnonce
  generalize hbytes : (newHeader secure nonce).bytes ++
    (ciphertext ++ (le32 (lsCrc32 ciphertext) ++ tag)) = bytes
  have hheader : SecureHeader.ofBytes bytes = newHeader secure nonce := by
    rw [← hbytes, SecureHeader.ofBytes_append hnonce]
  have hcipher : (bytes.drop headerSize).take secure.logicalCapacity = ciphertext := by
    rw [← hbytes, List.drop_left' hsize, List.take_left' hc]
  have hword : get32 bytes (headerSize + secure.logicalCapacity) = lsCrc32 ciphertext := by
    rw [← hbytes, get32_append_right (by omega), hsize, Nat.add_sub_cancel_left,
      get32_append_right (by omega), hc, Nat.sub_self]
    exact get32_le32 _ _
  have htag : (bytes.drop (headerSize + secure.logicalCapacity + 4)).take lsAeadTagSize = tag := by
    have hfront : ((newHeader secure nonce).bytes ++ (ciphertext ++
        le32 (lsCrc32 ciphertext))).length = headerSize + secure.logicalCapacity + 4 := by
      simp only [List.length_append, hsize, hc, le32_length]
      omega
    rw [← hbytes, ← List.append_assoc ciphertext, ← List.append_assoc, List.drop_left' hfront,
      List.take_of_length_le ht.le]
  have haad : bytes.take headerSize = (newHeader secure nonce).bytes := by
    rw [← hbytes, List.take_left' hsize]
  have haccepts : accepts secure bytes = true := by
    have hlength : (UInt32.ofNat secure.logicalCapacity).toNat = secure.logicalCapacity := by
      rw [UInt32.toNat_ofNat', Nat.mod_eq_of_lt (by omega)]
    simp only [accepts, hheader, hword, hcipher, newHeader, hlength, true_and, decide_eq_true_eq]
    exact ⟨rfl, trivial⟩
  have hopen : openImage c secure bytes = .ok image := by
    unfold openImage
    simp only [hheader, hcipher, htag, haad]
    rw [show (newHeader secure nonce).generation = secure.generation + 1 from rfl, hderive]
    exact c.decrypt_encrypt hencrypt
  rw [imageOf, haccepts, hopen]
  rfl

end Sealed

/-! ### Backing stores -/

/-- The store holds the bytes `view` in the states `I`. It applies a write that it reports as
done; one that it reports as failed it leaves out, or, if it is not `strict`, also applies.
Reads and syncs change nothing, and what is read is correct. -/
structure Backing.Atomic {τ : Type} (B : Backing τ) (strict : Bool) (I : τ → Prop)
    (view : τ → List UInt8) : Prop where
  length : ∀ t, I t → (view t).length = B.capacity
  read : ∀ offset length t, I t → offset + length ≤ B.capacity → Sat (B.read offset length) t
    (fun bytes t' => I t' ∧ view t' = view t ∧ bytes = ((view t).drop offset).take length)
    (fun _ t' => I t' ∧ view t' = view t)
  write : ∀ offset source t, I t → offset + source.length ≤ B.capacity →
    Sat (B.write offset source) t
      (fun _ t' => I t' ∧ view t' = (Change.write offset source).apply (view t))
      (fun _ t' => I t' ∧ (view t' = view t ∨
        strict = false ∧ view t' = (Change.write offset source).apply (view t)))
  sync : ∀ sync ∈ B.sync, ∀ t, I t → Sat sync t
    (fun _ t' => I t' ∧ view t' = view t) (fun _ t' => I t' ∧ view t' = view t)

/-- The sizes of an object fit its workspace and the store. -/
structure Fits {τ : Type} (B : Backing τ) (secure : SecureStorage) : Prop where
  size : secure.sealedSize = overhead + secure.logicalCapacity
  workspace : secure.sealedSize ≤ secure.workspaceSize
  store : secure.sealedSize ≤ B.capacity
  small : secure.logicalCapacity ≤ 0xffffffff

/-- Two states of an object that differ in the generation and the nonce only. -/
structure SameKeys (a b : SecureStorage) : Prop where
  workspaceSize : b.workspaceSize = a.workspaceSize
  logicalCapacity : b.logicalCapacity = a.logicalCapacity
  sealedSize : b.sealedSize = a.sealedSize
  key : b.key = a.key
  keyId : b.keyId = a.keyId
  ready : b.ready = a.ready

lemma SameKeys.refl (a : SecureStorage) : SameKeys a a := ⟨rfl, rfl, rfl, rfl, rfl, rfl⟩

lemma SameKeys.trans {a b d : SecureStorage} (h : SameKeys a b) (h' : SameKeys b d) :
    SameKeys a d :=
  ⟨h'.workspaceSize.trans h.workspaceSize, h'.logicalCapacity.trans h.logicalCapacity,
    h'.sealedSize.trans h.sealedSize, h'.key.trans h.key, h'.keyId.trans h.keyId,
    h'.ready.trans h.ready⟩

lemma SameKeys.imageOf_eq {a b : SecureStorage} (h : SameKeys a b) (c : Crypto)
    (bytes : List UInt8) : imageOf c b bytes = imageOf c a bytes := by
  have haccepts : accepts b bytes = accepts a bytes := by
    simp only [accepts, h.keyId, h.logicalCapacity]
  have hopen : openImage c b bytes = openImage c a bytes := by
    simp only [openImage, deriveKey, h.keyId, h.key, h.logicalCapacity]
  rw [imageOf, imageOf, haccepts, hopen]

lemma SameKeys.fits {τ : Type} {B : Backing τ} {a b : SecureStorage} (h : SameKeys a b)
    (hf : Fits B a) : Fits B b :=
  ⟨by rw [h.sealedSize, h.logicalCapacity, hf.size], by rw [h.sealedSize, h.workspaceSize]; exact hf.workspace,
    by rw [h.sealedSize]; exact hf.store, by rw [h.logicalCapacity]; exact hf.small⟩

section

variable {τ : Type} {c : Crypto} {B : Backing τ} {strict : Bool} {I : τ → Prop}
  {view : τ → List UInt8} {s s' : Secured τ}

variable {image : List UInt8} {t : τ} {secure : SecureStorage}

/-- The image that is stored. -/
def stored (c : Crypto) (view : τ → List UInt8) (secure : SecureStorage) (t : τ) :
    Option (List UInt8) :=
  imageOf c secure ((view t).take secure.sealedSize)

/-- The store serves the read of the whole image. -/
def Served (B : Backing τ) (s : Secured τ) : Prop :=
  ∃ bytes t, B.read 0 s.secure.sealedSize s.store = .ok bytes t

/-- The workspace is zero. -/
def Wiped (s : Secured τ) : Prop := ∀ i < s.secure.workspaceSize, s.workspace i = 0

/-- The store and the keys are as before. -/
structure Kept (I : τ → Prop) (view : τ → List UInt8) (s s' : Secured τ) : Prop where
  inv : I s'.store
  view : view s'.store = view s.store
  keys : SameKeys s.secure s'.secure

/-- **Every exit of `load_image`.** -/
lemma loadImage_spec (hB : B.Atomic strict I view) (hfit : Fits B s.secure) (hI : I s.store) :
    Sat (loadImage c B) s
      (fun _ s' => Kept I view s s' ∧ ∃ image, stored c view s.secure s.store = some image ∧
        Medium.read s'.workspace headerSize image.length = image)
      (fun _ s' => Kept I view s s' ∧ s'.secure = s.secure ∧
        (¬ Served B s ∨ stored c view s.secure s.store = none)) := by
  rw [loadImage, sat_bind, sat_get, sat_bind, onStore, sat_zoom]
  have hread := hB.read 0 s.secure.sealedSize s.store hI (by rw [Nat.zero_add]; exact hfit.store)
  refine (hread.and (sat_run _ _)).mono (fun bytes t h => ?_) (fun e t h => ?_)
  · obtain ⟨⟨ht, hv, rfl⟩, -⟩ := h
    rw [List.drop_zero, sat_bind, setWorkspace, sat_modify, sat_ite]
    have hkept : ∀ workspace, Kept I view s ⟨s.secure, workspace, t, s.random, s.drawn⟩ :=
      fun _ => ⟨ht, hv, .refl _⟩
    constructor
    · intro hreject
      refine .throw ⟨hkept _, rfl, .inr ?_⟩
      rw [stored, imageOf, if_neg hreject]
    · intro haccept
      rw [not_not] at haccept
      cases hopen : openImage c s.secure ((view s.store).take s.secure.sealedSize) with
      | error e =>
          dsimp only
          rw [sat_bind, setWorkspace, sat_modify, sat_throw]
          refine ⟨hkept _, rfl, .inr ?_⟩
          rw [stored, imageOf, if_pos haccept, hopen]
          rfl
      | ok text =>
          dsimp only
          rw [sat_bind, setWorkspace, sat_modify, setSecure, sat_modify]
          refine ⟨⟨ht, hv, ⟨rfl, rfl, rfl, rfl, rfl, rfl⟩⟩, text, ?_, Medium.read_write_same _ _ _⟩
          rw [stored, imageOf, if_pos haccept, hopen]
          rfl
  · obtain ⟨⟨ht, hv⟩, hrun⟩ := h
    refine ⟨⟨ht, hv, .refl _⟩, rfl, .inl ?_⟩
    rintro ⟨bytes, t', hserved⟩
    rw [hserved] at hrun
    cases hrun

/-- Only a cut keeps the workspace. -/
lemma sat_wiping {α : Type} {x : SecureM τ α} {Q : α → Secured τ → Prop}
    {H : Halt Errno → Secured τ → Prop}
    (h : Sat x s (fun a s' => Q a s'.wiped) fun e s' =>
      match e with
      | .fail e => H (.fail e) s'.wiped
      | .cut => H .cut s') : Sat (wiping x) s Q H := by
  rw [wiping, sat_bind, sat_attempt]
  refine h.mono (fun a s' h => ?_) (fun e s' h => ?_)
  · dsimp only
    rw [sat_bind, wipe, sat_modify, sat_pure]
    exact h
  · cases e with
    | fail e =>
        dsimp only
        rw [sat_bind, wipe, sat_modify, sat_throw]
        exact h
    | cut => exact h

lemma wiped_wiped (s : Secured τ) : Wiped s.wiped :=
  fun i hi => Medium.fill_of_mem (Nat.zero_le i) (by simpa [Secured.wiped] using hi)

/-- What is left of a call that returned or stopped: only a cut keeps the workspace. -/
def WipedUnlessCut (e : Halt Errno) (s : Secured τ) : Prop :=
  match e with
  | .fail _ => Wiped s
  | .cut => True

/-- The store holds the image that was in the workspace. -/
structure SealedAs (c : Crypto) (I : τ → Prop) (view : τ → List UInt8) (s s' : Secured τ) :
    Prop where
  inv : I s'.store
  image : stored c view s.secure s'.store =
    some (Medium.read s.workspace headerSize s.secure.logicalCapacity)
  keys : SameKeys s.secure s'.secure

/-- The sealed image goes to the store, and the sync behind it fails. -/
def SyncFails (c : Crypto) (B : Backing τ) (s : Secured τ) : Prop :=
  ∃ nonce sealed t sync e t', s.random s.drawn = .ok nonce ∧
    ¬ (s.secure.hasLastNonce ∧ nonce.val = s.secure.lastNonce) ∧
    sealedBytes c s.secure nonce
      (Medium.read s.workspace headerSize s.secure.logicalCapacity) = .ok sealed ∧
    B.write 0 sealed s.store = .ok () t ∧ B.sync = some sync ∧ sync t = .error e t'

/-- What an exit of `seal_image` with an error leaves. -/
def SealFailed (c : Crypto) (B : Backing τ) (strict : Bool) (I : τ → Prop)
    (view : τ → List UInt8) (s s' : Secured τ) : Prop :=
  (¬ SyncFails c B s ∧ (Kept I view s s' ∨ strict = false ∧ SealedAs c I view s s')) ∨
    SyncFails c B s ∧ SealedAs c I view s s'

lemma SealedAs.wiped (h : SealedAs c I view s s') : SealedAs c I view s s'.wiped :=
  ⟨h.inv, h.image, h.keys⟩

lemma SealFailed.wiped (h : SealFailed c B strict I view s s') :
    SealFailed c B strict I view s s'.wiped :=
  h.imp (fun h => ⟨h.1, h.2.imp (fun h => ⟨h.inv, h.view, h.keys⟩) fun h => ⟨h.1, h.2.wiped⟩⟩)
    fun h => ⟨h.1, h.2.wiped⟩

/-- What a write of the sealed image leaves in the store. -/
lemma stored_of_written (hfit : Fits B s.secure) {nonce : Nonce} {sealed : List UInt8}
    (hsealed : sealedBytes c s.secure nonce
      (Medium.read s.workspace headerSize s.secure.logicalCapacity) = .ok sealed)
    (hv : view t = (Change.write 0 sealed).apply (view s.store)) :
    stored c view s.secure t =
      some (Medium.read s.workspace headerSize s.secure.logicalCapacity) := by
  have hlen : sealed.length = s.secure.sealedSize := by
    rw [sealedBytes_length hsealed, Medium.read_length, hfit.size]
  have htake : (view t).take s.secure.sealedSize = sealed := by
    rw [hv, Change.apply, ← hlen]
    simp [Change.offset, Change.bytes]
  rw [stored, htake]
  exact imageOf_sealed (Medium.read_length ..) hfit.small hsealed

/-- The write and the sync of a sealed image. -/
lemma commit_spec (hB : B.Atomic strict I view) (hfit : Fits B s.secure) (hI : I s.store)
    {nonce : Nonce} {sealed : List UInt8} (hrandom : s.random s.drawn = .ok nonce)
    (hfresh : ¬ (s.secure.hasLastNonce ∧ nonce.val = s.secure.lastNonce))
    (hsealed : sealedBytes c s.secure nonce
      (Medium.read s.workspace headerSize s.secure.logicalCapacity) = .ok sealed)
    {workspace : ℕ → UInt8} {drawn : ℕ} :
    Sat (commit B sealed) ⟨s.secure, workspace, s.store, s.random, drawn⟩
      (fun _ s' => SealedAs c I view s s') (fun _ s' => SealFailed c B strict I view s s') := by
  have hsize : 0 + sealed.length ≤ B.capacity := by
    rw [sealedBytes_length hsealed, Medium.read_length, Nat.zero_add, ← hfit.size]
    exact hfit.store
  have hfails : SyncFails c B s → ∃ t sync e t', B.write 0 sealed s.store = .ok () t ∧
      B.sync = some sync ∧ sync t = .error e t' := by
    rintro ⟨nonce', sealed', t, sync, e, t', h, -, h', hwrite, hsync, herror⟩
    rw [hrandom] at h
    cases h
    rw [hsealed] at h'
    cases h'
    exact ⟨t, sync, e, t', hwrite, hsync, herror⟩
  rw [commit, sat_bind, onStore, sat_zoom]
  refine ((hB.write 0 sealed s.store hI hsize).and (sat_run _ _)).mono (fun _ t h => ?_)
    (fun e t h => ?_)
  · obtain ⟨⟨ht, hv⟩, hwrite⟩ := h
    have himage := stored_of_written hfit hsealed hv
    cases hsync : B.sync with
    | none => exact .pure ⟨ht, himage, .refl _⟩
    | some sync =>
        dsimp only
        rw [onStore, sat_zoom]
        refine ((hB.sync sync hsync t ht).and (sat_run _ _)).mono (fun _ t' h => ?_)
          (fun e t' h => ?_)
        · exact ⟨h.1.1, by rw [stored, h.1.2]; exact himage, .refl _⟩
        · exact .inr ⟨⟨nonce, sealed, t, sync, e, t', hrandom, hfresh, hsealed, hwrite, hsync, h.2⟩,
            h.1.1, by rw [stored, h.1.2]; exact himage, .refl _⟩
  · obtain ⟨⟨ht, hv⟩, hwrite⟩ := h
    refine .inl ⟨fun hsync => ?_, hv.imp (fun hv => ⟨ht, hv, .refl _⟩) fun hv => ⟨hv.1, ht,
      stored_of_written hfit hsealed hv.2, .refl _⟩⟩
    obtain ⟨t', -, -, -, hok, -⟩ := hfails hsync
    rw [hok] at hwrite
    cases hwrite

/-- Every exit of `seal_image`, before the workspace is wiped. -/
lemma sealUnwiped_spec (hB : B.Atomic strict I view) (hfit : Fits B s.secure) (hI : I s.store) :
    Sat (sealUnwiped c B) s (fun _ s' => SealedAs c I view s s')
      (fun _ s' => SealFailed c B strict I view s s') := by
  have hkept : ∀ {s' : Secured τ}, s'.store = s.store → s'.secure = s.secure →
      Kept I view s s' := fun h h' => ⟨h ▸ hI, by rw [h], h' ▸ .refl _⟩
  rw [sealUnwiped, sat_bind, sat_get, sat_bind, drawNonce, sat_bind, sat_get, sat_bind, sat_set]
  cases hrandom : s.random s.drawn with
  | error e =>
      refine .throw (.inl ⟨?_, .inl (hkept rfl rfl)⟩)
      rintro ⟨nonce, -, -, -, -, -, h, -⟩
      rw [hrandom] at h
      cases h
  | ok nonce =>
      rw [sat_pure, sat_ite]
      constructor
      · intro hrepeated
        refine .throw (.inl ⟨?_, .inl (hkept rfl rfl)⟩)
        rintro ⟨nonce', -, -, -, -, -, h, hfresh, -⟩
        rw [hrandom] at h
        cases h
        exact hfresh hrepeated
      · intro hfresh
        rw [sat_bind, sat_get]
        cases hsealed : sealedBytes c s.secure nonce
            (Medium.read s.workspace headerSize s.secure.logicalCapacity) with
        | error e =>
            refine .throw (.inl ⟨?_, .inl (hkept rfl rfl)⟩)
            rintro ⟨nonce', sealed, -, -, -, -, h, -, h', -⟩
            rw [hrandom] at h
            cases h
            rw [hsealed] at h'
            cases h'
        | ok sealed =>
            dsimp only
            rw [sat_bind, setWorkspace, sat_modify]
            refine (commit_spec hB hfit hI hrandom hfresh hsealed).bind fun _ s' h => ?_
            rw [setSecure, sat_modify]
            exact ⟨h.inv, h.image, h.keys.trans ⟨rfl, rfl, rfl, rfl, rfl, rfl⟩⟩

/-- **Every exit of `seal_image`.** -/
lemma sealImage_spec (hB : B.Atomic strict I view) (hfit : Fits B s.secure) (hI : I s.store) :
    Sat (sealImage c B) s (fun _ s' => SealedAs c I view s s' ∧ Wiped s')
      (fun e s' => SealFailed c B strict I view s s' ∧ WipedUnlessCut e s') := by
  refine sat_wiping ?_
  refine (sealUnwiped_spec hB hfit hI).mono (fun _ s' h => ⟨h.wiped, wiped_wiped s'⟩)
    (fun e s' h => ?_)
  cases e with
  | fail e => exact ⟨h.wiped, wiped_wiped s'⟩
  | cut => exact ⟨h, trivial⟩

/-- A call left the workspace alone, or wiped it. -/
def Clean (s s' : Secured τ) : Prop := s'.workspace = s.workspace ∨ Wiped s'

/-- The same, where the call may have been cut. -/
def CleanUnlessCut (e : Halt Errno) (s s' : Secured τ) : Prop :=
  match e with
  | .fail _ => Clean s s'
  | .cut => True

lemma Kept.wiped (h : Kept I view s s') : Kept I view s s'.wiped := ⟨h.inv, h.view, h.keys⟩

/-- **Every exit of `secure_read`.** -/
lemma secureRead_spec (hB : B.Atomic strict I view) (hfit : Fits B s.secure) (hI : I s.store)
    (offset length : ℕ) :
    Sat (secureRead c B offset length) s
      (fun bytes s' => Kept I view s s' ∧ Clean s s' ∧
        ∃ image, stored c view s.secure s.store = some image ∧
          (image.length = s.secure.logicalCapacity → bytes = (image.drop offset).take length))
      (fun e s' => Kept I view s s' ∧ CleanUnlessCut e s s' ∧
        (offset + length ≤ s.secure.logicalCapacity →
          ¬ Served B s ∨ stored c view s.secure s.store = none)) := by
  rw [secureRead, sat_bind, sat_get, sat_ite]
  constructor
  · intro hout
    exact .throw ⟨⟨hI, rfl, .refl _⟩, .inl rfl, fun h => by omega⟩
  · intro hin
    refine sat_wiping ?_
    refine (loadImage_spec hB hfit hI).bind (fun _ s' h => ?_) (fun e s' h => ?_)
    · obtain ⟨hkept, image, hstored, hread⟩ := h
      rw [sat_bind, sat_get, sat_pure]
      refine ⟨hkept.wiped, .inr (wiped_wiped s'), image, hstored, fun hlen => ?_⟩
      rw [← hread, Medium.read_slice _ _ (by omega)]
    · cases e with
      | fail e => exact ⟨h.1.wiped, .inr (wiped_wiped s'), fun _ => h.2.2⟩
      | cut => exact ⟨h.1, trivial, fun _ => h.2.2⟩

/-- The object and the store behind an update: the store holds the given image. -/
structure Holds (c : Crypto) (I : τ → Prop) (view : τ → List UInt8) (s s' : Secured τ)
    (image : List UInt8) : Prop where
  inv : I s'.store
  image : stored c view s.secure s'.store = some image
  keys : SameKeys s.secure s'.secure

lemma stored_eq_of_keys {a b : SecureStorage} (h : SameKeys a b) (t : τ) :
    stored c view b t = stored c view a t := by
  rw [stored, stored, h.imageOf_eq, h.sealedSize]

/-- **Every exit of `update_image`.** -/
lemma updateImage_spec (hB : B.Atomic strict I view) (hfit : Fits B s.secure) (hI : I s.store)
    (change : Change) (himage : stored c view s.secure s.store = some image)
    (hlen : image.length = s.secure.logicalCapacity) :
    Sat (updateImage c B change) s
      (fun _ s' => Holds c I view s s' (change.apply image) ∧ Clean s s' ∧
        change.Within s.secure.logicalCapacity)
      (fun e s' => CleanUnlessCut e s s' ∧ (Holds c I view s s' image ∨
        change.Within s.secure.logicalCapacity ∧ Holds c I view s s' (change.apply image))) := by
  rw [updateImage, sat_bind, sat_get, sat_ite]
  constructor
  · intro hout
    exact .throw ⟨.inl rfl, .inl ⟨hI, himage, .refl _⟩⟩
  · intro hin
    have hwithin : change.Within s.secure.logicalCapacity := by
      rw [not_or, not_lt, not_lt] at hin
      exact hin
    rw [sat_bind, sat_attempt]
    refine (loadImage_spec hB hfit hI).mono (fun _ s₁ h => ?_) (fun e s₁ h => ?_)
    · obtain ⟨hkept, image', hstored, hread⟩ := h
      rw [himage] at hstored
      cases hstored
      dsimp only
      rw [sat_bind, setWorkspace, sat_modify]
      have hpatched : Medium.read (Medium.write s₁.workspace (headerSize + change.offset)
          change.bytes) headerSize s.secure.logicalCapacity = change.apply image := by
        rw [Medium.read_write_inside _ _ (by obtain ⟨h1, h2⟩ := hwithin; omega), ← hlen, hread]
        rfl
      generalize Medium.write s₁.workspace (headerSize + change.offset) change.bytes = workspace
        at hpatched ⊢
      have hseal : ∀ {s₂ : Secured τ}, SealedAs c I view { s₁ with workspace := workspace } s₂ →
          Holds c I view s s₂ (change.apply image) := fun {s₂} h => by
        refine ⟨h.inv, ?_, hkept.keys.trans h.keys⟩
        have := h.image
        dsimp only at this
        rwa [hkept.keys.logicalCapacity, hpatched, stored_eq_of_keys hkept.keys] at this
      have hspec := sealImage_spec (c := c) (s := { s₁ with workspace := workspace }) hB
        (hkept.keys.fits hfit) hkept.inv
      refine hspec.mono (fun _ s₂ h => ⟨hseal h.1, .inr h.2, hwithin⟩) (fun e s₂ h => ⟨?_, ?_⟩)
      · cases e with
        | fail e => exact .inr h.2
        | cut => trivial
      · obtain ⟨⟨-, hk | ⟨-, hs⟩⟩ | ⟨-, hs⟩, -⟩ := h
        · refine .inl ⟨hk.inv, ?_, hkept.keys.trans hk.keys⟩
          rw [stored, hk.view, hkept.view]
          exact himage
        · exact .inr ⟨hwithin, hseal hs⟩
        · exact .inr ⟨hwithin, hseal hs⟩
    · have hheld : Holds c I view s s₁ image :=
        ⟨h.1.inv, by rw [stored, h.1.view]; exact himage, h.1.keys⟩
      cases e with
      | fail e =>
          dsimp only
          rw [sat_bind, wipe, sat_modify, sat_throw]
          exact ⟨.inr (wiped_wiped s₁), .inl ⟨hheld.inv, hheld.image, hheld.keys⟩⟩
      | cut => exact ⟨trivial, .inl hheld⟩

/-- What `ls_secure_storage_init` asks of its arguments. -/
structure Config.Valid (cfg : Config) (B : Backing τ) : Prop where
  capacity_pos : cfg.logicalCapacity ≠ 0
  keyId_ne : cfg.keyId ≠ 0
  fits : Fits B cfg.storage

/-- The object behind a successful initialisation. -/
def Config.opened (cfg : Config) : SecureStorage := { cfg.storage with ready := true }

/-- The store as it is delivered. -/
def Blank (B : Backing τ) (view : τ → List UInt8) (t : τ) : Prop :=
  view t = List.replicate B.capacity 0xff

/-- The store is blank, which stands for the image of `0xff`, or it holds an image. -/
def Found (c : Crypto) (B : Backing τ) (view : τ → List UInt8) (secure : SecureStorage) (t : τ)
    (image : List UInt8) : Prop :=
  Blank B view t ∧ image = List.replicate secure.logicalCapacity 0xff ∨
    stored c view secure t = some image

lemma Found.of_view {t' : τ}
    (h : Found c B view secure t image) (hv : view t' = view t) :
    Found c B view secure t' image := by
  rwa [Found, Blank, stored, hv]

/-- A stored image starts with the magic number. -/
lemma magic_of_stored
    (hsize : headerSize ≤ secure.sealedSize) (h : stored c view secure t = some image) :
    get32 ((view t).take headerSize) 0 = secureStorageMagic := by
  have haccepts : accepts secure ((view t).take secure.sealedSize) = true := by
    by_contra hno
    rw [stored, imageOf, if_neg hno] at h
    cases h
  have hmagic : get32 ((view t).take secure.sealedSize) 0 = secureStorageMagic :=
    (of_decide_eq_true haccepts).1
  rw [← hmagic, get32_take _ (by decide), get32_take _ (le_trans (by decide) hsize)]

lemma not_blank_of_stored
    (hfit : Fits B secure) (h : stored c view secure t = some image) : ¬ Blank B view t := by
  intro hblank
  have hheader : headerSize ≤ secure.sealedSize := by
    rw [hfit.size, overhead]
    omega
  have hmagic := magic_of_stored hheader h
  rw [hblank, List.take_replicate, min_eq_left (hheader.trans hfit.store)] at hmagic
  revert hmagic
  decide +kernel

/-- Every exit of the second half of `ls_secure_storage_init`. -/
lemma openStore_spec (hB : B.Atomic strict I view) (hfit : Fits B s.secure) (hI : I s.store) (hfound : Found c B view s.secure s.store image) :
    Sat (openStore c B ((view s.store).take headerSize)) s
      (fun _ s' => Wiped s' ∧ Holds c I view s s' image)
      (fun e s' => WipedUnlessCut e s' ∧ I s'.store ∧ SameKeys s.secure s'.secure ∧
        Found c B view s.secure s'.store image) := by
  have hheader : headerSize ≤ s.secure.sealedSize := by
    rw [hfit.size, overhead]
    omega
  rw [openStore, sat_bind, sat_get]
  obtain ⟨hblank, rfl⟩ | hstored := hfound
  · have hbytes : (view s.store).take headerSize = List.replicate headerSize 0xff := by
      rw [hblank, List.take_replicate, min_eq_left (hheader.trans hfit.store)]
    rw [hbytes, if_neg (by decide +kernel), if_pos (by decide)]
    rw [sat_bind, setWorkspace, sat_modify]
    have himage : Medium.read (Medium.fill (Medium.fill s.workspace 0 headerSize 0) headerSize
        s.secure.logicalCapacity 0xff) headerSize s.secure.logicalCapacity =
        List.replicate s.secure.logicalCapacity 0xff := by
      refine List.ext_getElem (by simp) fun i h₁ h₂ => ?_
      rw [Medium.read_length] at h₁
      simp [Medium.read, Medium.fill, h₁]
    generalize Medium.fill (Medium.fill s.workspace 0 headerSize 0) headerSize
        s.secure.logicalCapacity 0xff = workspace at himage ⊢
    have hsealed : ∀ {s' : Secured τ}, SealedAs c I view { s with workspace := workspace } s' →
        Holds c I view s s' (List.replicate s.secure.logicalCapacity 0xff) := fun h =>
      ⟨h.inv, h.image.trans (congrArg some himage), h.keys⟩
    have hspec := sealImage_spec (c := c) (s := { s with workspace := workspace }) hB hfit hI
    refine hspec.mono (fun _ s' h => ⟨h.2, hsealed h.1⟩) (fun e s' h => ⟨h.2, ?_⟩)
    obtain ⟨⟨-, hk | ⟨-, hs⟩⟩ | ⟨-, hs⟩, -⟩ := h
    · exact ⟨hk.inv, hk.keys, Found.of_view (.inl ⟨hblank, rfl⟩) hk.view⟩
    · exact ⟨hs.inv, hs.keys, .inr (hsealed hs).image⟩
    · exact ⟨hs.inv, hs.keys, .inr (hsealed hs).image⟩
  · rw [if_pos (magic_of_stored hheader hstored)]
    refine sat_wiping ((loadImage_spec hB hfit hI).mono (fun _ s' h => ?_) (fun e s' h => ?_))
    · exact ⟨wiped_wiped s', h.1.inv, by rw [stored, Secured.wiped, h.1.view]; exact hstored, h.1.keys⟩
    · have hf : Found c B view s.secure s'.store image := Found.of_view (.inr hstored) h.1.view
      cases e with
      | fail e => exact ⟨wiped_wiped s', h.1.inv, h.1.keys, hf⟩
      | cut => exact ⟨trivial, h.1.inv, h.1.keys, hf⟩

/-- **Every exit of `ls_secure_storage_init`** over a store that is blank or holds an image. -/
lemma lsSecureStorageInit_spec (hB : B.Atomic strict I view) (cfg : Config) (hI : I s.store) (hfound : Found c B view cfg.storage s.store image) :
    Sat (lsSecureStorageInit c B cfg) s
      (fun _ s' => cfg.Valid B ∧ Wiped s' ∧ I s'.store ∧ SameKeys cfg.opened s'.secure ∧
        stored c view cfg.storage s'.store = some image)
      (fun e s' => I s'.store ∧ Found c B view cfg.storage s'.store image ∧
        (s' = s ∧ ¬ cfg.Valid B ∨
          SameKeys cfg.storage s'.secure ∧ CleanUnlessCut e s s')) := by
  rw [lsSecureStorageInit]
  have hrefused : ∀ {e : Errno}, ¬ cfg.Valid B →
      I s.store ∧ Found c B view cfg.storage s.store image ∧
        (s = s ∧ ¬ cfg.Valid B ∨
          SameKeys cfg.storage s.secure ∧ CleanUnlessCut (.fail e) s s) :=
    fun h => ⟨hI, hfound, .inl ⟨rfl, h⟩⟩
  refine .ite (fun h => .throw (hrefused fun hv => ?_)) fun hargs => ?_
  · have := hv.fits.small
    exact h.elim hv.capacity_pos (Or.rec (fun h => absurd h (not_lt.mpr this)) hv.keyId_ne)
  refine .ite (fun h => .throw (hrefused fun hv => ?_)) fun hsize => ?_
  · have := hv.fits.size
    rw [show cfg.storage.sealedSize = 0 from h, overhead, headerSize] at this
    omega
  refine .ite (fun h => .throw (hrefused fun hv => ?_)) fun hroom => ?_
  · exact h.elim (not_lt.mpr hv.fits.workspace) (not_lt.mpr hv.fits.store)
  have hfit : Fits B cfg.storage := by
    rw [not_or, not_or, not_lt] at hargs
    rw [not_or, not_lt, not_lt] at hroom
    refine ⟨?_, hroom.1, hroom.2, hargs.2.1⟩
    have hsealed : lsSecureStorageSealedSize cfg.sizeMax cfg.logicalCapacity = _ :=
      if_neg fun h => hsize (if_pos h)
    exact hsealed
  have hvalid : cfg.Valid B := ⟨fun h => hargs (.inl h), fun h => hargs (.inr (.inr h)), hfit⟩
  rw [sat_bind, setSecure, sat_modify, sat_bind, onStore, sat_zoom]
  have hhead : 0 + headerSize ≤ B.capacity := by
    refine le_trans ?_ hfit.store
    rw [hfit.size, overhead]
    omega
  refine (hB.read 0 headerSize s.store hI hhead).mono (fun bytes t h => ?_) (fun e t h => ?_)
  · obtain ⟨ht, hv, rfl⟩ := h
    rw [List.drop_zero, ← hv, sat_bind]
    have hspec := openStore_spec (c := c)
      (s := ⟨cfg.storage, s.workspace, t, s.random, s.drawn⟩) hB hfit ht (hfound.of_view hv)
    refine hspec.mono (fun _ s' h => ?_) (fun e s' h => ?_)
    · rw [setSecure, sat_modify]
      have hk := h.2.keys
      exact ⟨hvalid, h.1, h.2.inv,
        ⟨hk.workspaceSize, hk.logicalCapacity, hk.sealedSize, hk.key, hk.keyId, rfl⟩, h.2.image⟩
    · refine ⟨h.2.1, h.2.2.2, .inr ⟨h.2.2.1, ?_⟩⟩
      cases e with
      | fail e => exact .inr h.1
      | cut => trivial
  · refine ⟨h.1, hfound.of_view h.2, .inr ⟨.refl _, ?_⟩⟩
    cases e with
    | fail e => exact .inl rfl
    | cut => trivial

end

/-! ### Runs -/

/-- A call by the owner of the object. -/
inductive SecureOp where
  | init
  | read (offset length : ℕ)
  | change (change : Change)
  | sync
  | destroy

/-- The object in the course of a run, and the images that a read may return. -/
structure SecureRun (τ : Type) where
  state : Secured τ
  history : Versioned.History (List UInt8)

section

variable {τ α : Type}

/-- A cut of the power: the memory is lost. -/
def Secured.lost (s : Secured τ) : Secured τ :=
  { s with secure := { s.secure with ready := false }, workspace := fun _ => 0 }

/-- The state behind an error. -/
def stopped (e : Halt Errno) (s : Secured τ) : Secured τ :=
  match e with
  | .fail _ => s
  | .cut => s.lost

/-- The state behind a call. -/
def called (x : SecureM τ α) (s : Secured τ) : Secured τ :=
  match x s with
  | .ok _ s' => s'
  | .error e s' => stopped e s'

variable (c : Crypto) (B : Backing τ) (view : τ → List UInt8) (cfg : Config)

/-- An update that succeeds makes its image the durable one, one that fails inside the bounds
was an attempt. -/
def changeStep (change : Change) (r : SecureRun τ) : SecureRun τ :=
  let image := (stored c view r.state.secure r.state.store).getD []
  match updateImage c B change r.state with
  | .ok _ s' => ⟨s', .updated (change.apply image)⟩
  | .error e s' =>
    ⟨stopped e s', if change.Within r.state.secure.logicalCapacity then
      r.history.attempted (change.apply image) else r.history⟩

/-- One call; without a successful initialisation there is no backend to call. -/
def secureStep (op : SecureOp) (r : SecureRun τ) : SecureRun τ :=
  match op with
  | .init => { r with state := called (lsSecureStorageInit c B cfg) r.state }
  | .read offset length =>
    if r.state.secure.ready then { r with state := called (secureRead c B offset length) r.state }
    else r
  | .change change => if r.state.secure.ready then changeStep c B view change r else r
  | .sync => if r.state.secure.ready then { r with state := called (secureSync B) r.state } else r
  | .destroy => { r with state := called lsSecureStorageDestroy r.state }

/-- A fresh object over the given store; the image of a blank one is `0xff` throughout. -/
def secureStart (t : τ) (workspace : ℕ → UInt8) (random : ℕ → Except Errno Nonce) :
    SecureRun τ :=
  ⟨⟨{ cfg.storage with workspaceSize := 0 }, workspace, t, random, 0⟩,
    .updated (List.replicate cfg.logicalCapacity 0xff)⟩

/-- The state after a sequence of calls. -/
def secureAfter (t : τ) (workspace : ℕ → UInt8) (random : ℕ → Except Errno Nonce)
    (ops : List SecureOp) : SecureRun τ :=
  Run.after (secureStep c B view cfg) ops (secureStart cfg t workspace random)

end

section

variable {τ : Type} {c : Crypto} {B : Backing τ} {strict : Bool} {I : τ → Prop}
  {view : τ → List UInt8} {cfg : Config} {workspace : ℕ → UInt8} {r : SecureRun τ}

variable {s s' : Secured τ}

/-- The workspace is as it was found, or zero. -/
def CleanFrom (cfg : Config) (workspace : ℕ → UInt8) (s : Secured τ) : Prop :=
  s.workspace = workspace ∨ ∀ i < cfg.workspaceSize, s.workspace i = 0

/-- The invariant of a run. -/
structure Inv (c : Crypto) (B : Backing τ) (I : τ → Prop) (view : τ → List UInt8) (cfg : Config)
    (workspace : ℕ → UInt8) (r : SecureRun τ) : Prop where
  inv : I r.state.store
  found : ∃ image, Found c B view cfg.storage r.state.store image ∧
    image.length = cfg.logicalCapacity ∧ r.history.Allows image
  ready : r.state.secure.ready = true → cfg.Valid B ∧ SameKeys cfg.opened r.state.secure ∧
    ¬ Blank B view r.state.store
  size : r.state.secure.workspaceSize = 0 ∨ r.state.secure.workspaceSize = cfg.workspaceSize
  clean : CleanFrom cfg workspace r.state

lemma inv_start {t : τ} (hI : I t) (hblank : Blank B view t)
    (random : ℕ → Except Errno Nonce) :
    Inv c B I view cfg workspace (secureStart cfg t workspace random) :=
  ⟨hI, ⟨_, .inl ⟨hblank, rfl⟩, List.length_replicate, .inl rfl⟩, nofun, .inl rfl, .inl rfl⟩

lemma called_cases {α : Type} {x : SecureM τ α} {Q : α → Secured τ → Prop}
    {H : Halt Errno → Secured τ → Prop} (h : Sat x s Q H) :
    (∃ a, Q a (called x s)) ∨ ∃ e s', H e s' ∧ called x s = stopped e s' := by
  unfold called
  cases hx : x s with
  | ok a s' => exact .inl ⟨a, sat_of_ok h hx⟩
  | error e s' => exact .inr ⟨e, s', sat_of_error h hx, rfl⟩

lemma Clean.from (h : Clean s s')
    (hsize : s'.secure.workspaceSize = cfg.workspaceSize) (hc : CleanFrom cfg workspace s) :
    CleanFrom cfg workspace s' := by
  obtain h | h := h
  · rwa [CleanFrom, h]
  · exact .inr fun i hi => h i (hsize ▸ hi)

/-- What a call that stopped with an error may leave behind. -/
lemma Inv.of_stopped {history : Versioned.History (List UInt8)} {e : Halt Errno} (hI : I s'.store)
    (hfound : ∃ image, Found c B view cfg.storage s'.store image ∧
      image.length = cfg.logicalCapacity ∧ history.Allows image)
    (hready : s'.secure.ready = true → cfg.Valid B ∧ SameKeys cfg.opened s'.secure ∧
      ¬ Blank B view s'.store)
    (hsize : s'.secure.workspaceSize = cfg.workspaceSize) (hclean : CleanUnlessCut e s s')
    (hc : CleanFrom cfg workspace s) :
    Inv c B I view cfg workspace ⟨stopped e s', history⟩ := by
  cases e with
  | fail e => exact ⟨hI, hfound, hready, .inr hsize, hclean.from hsize hc⟩
  | cut => exact ⟨hI, hfound, nofun, .inr hsize, .inr fun _ _ => rfl⟩

/-- An object that is ready holds one of the images of the history. -/
lemma Inv.holds (h : Inv c B I view cfg workspace r) (hready : r.state.secure.ready = true) :
    Fits B r.state.secure ∧ r.state.secure.logicalCapacity = cfg.logicalCapacity ∧
      ∃ image, stored c view r.state.secure r.state.store = some image ∧
        image.length = cfg.logicalCapacity ∧ r.history.Allows image := by
  obtain ⟨hvalid, hkeys, hblank⟩ := h.ready hready
  obtain ⟨image, hfound, hlen, hallows⟩ := h.found
  have hfit : Fits B cfg.opened :=
    ⟨hvalid.fits.size, hvalid.fits.workspace, hvalid.fits.store, hvalid.fits.small⟩
  refine ⟨hkeys.fits hfit, hkeys.logicalCapacity, image, ?_, hlen, hallows⟩
  rw [stored_eq_of_keys hkeys]
  exact hfound.resolve_left fun hb => hblank hb.1

/-- The invariant behind a call that kept the keys, with the image that the store now holds. -/
lemma Inv.of_holds {history : Versioned.History (List UInt8)}
    (h : Inv c B I view cfg workspace r) (hready : r.state.secure.ready = true)
    {image : List UInt8} (hs : Holds c I view r.state s' image)
    (hlen : image.length = cfg.logicalCapacity) (hallows : history.Allows image) :
    I s'.store ∧ (∃ image, Found c B view cfg.storage s'.store image ∧
      image.length = cfg.logicalCapacity ∧ history.Allows image) ∧
      (s'.secure.ready = true → cfg.Valid B ∧ SameKeys cfg.opened s'.secure ∧
        ¬ Blank B view s'.store) ∧ s'.secure.workspaceSize = cfg.workspaceSize := by
  obtain ⟨hvalid, hkeys, -⟩ := h.ready hready
  have hstored : stored c view cfg.storage s'.store = some image := by
    have := hs.image
    rwa [stored_eq_of_keys hkeys] at this
  exact ⟨hs.inv, ⟨image, .inr hstored, hlen, hallows⟩,
    fun _ => ⟨hvalid, hkeys.trans hs.keys, not_blank_of_stored hvalid.fits hstored⟩,
    (hkeys.trans hs.keys).workspaceSize⟩

section

variable (hB : B.Atomic strict I view) (h : Inv c B I view cfg workspace r)

include hB h

lemma Inv.init : Inv c B I view cfg workspace (secureStep c B view cfg .init r) := by
  obtain ⟨image, hfound, hlen, hallows⟩ := h.found
  rw [secureStep]
  obtain ⟨a, hok⟩ | ⟨e, s', ⟨hI, hf, hcase⟩, heq⟩ :=
    called_cases (lsSecureStorageInit_spec hB cfg h.inv hfound)
  · obtain ⟨hvalid, hwiped, hI, hkeys, hstored⟩ := hok
    refine ⟨hI, ⟨image, .inr hstored, hlen, hallows⟩,
      fun _ => ⟨hvalid, hkeys, not_blank_of_stored hvalid.fits hstored⟩, .inr hkeys.workspaceSize,
      .inr fun i hi => hwiped i (hkeys.workspaceSize ▸ hi)⟩
  · rw [heq]
    obtain ⟨rfl, -⟩ | ⟨hkeys, hclean⟩ := hcase
    · cases e with
      | fail e => exact h
      | cut => exact ⟨h.inv, h.found, nofun, h.size, .inr fun _ _ => rfl⟩
    · refine .of_stopped hI ⟨image, hf, hlen, hallows⟩ (fun hready => ?_) hkeys.workspaceSize hclean
        h.clean
      rw [hkeys.ready] at hready
      cases hready

omit hB in
/-- A call that only looks at the store. -/
lemma Inv.look {α : Type} {x : SecureM τ α} (hready : r.state.secure.ready = true)
    (hx : Sat x r.state (fun _ s' => Kept I view r.state s' ∧ Clean r.state s')
      (fun e s' => Kept I view r.state s' ∧ CleanUnlessCut e r.state s')) :
    Inv c B I view cfg workspace { r with state := called x r.state } := by
  obtain ⟨-, -, image, himage, hlen, hallows⟩ := h.holds hready
  have hheld : ∀ {s' : Secured τ}, Kept I view r.state s' → Holds c I view r.state s' image :=
    fun hk => ⟨hk.inv, by rw [stored, hk.view]; exact himage, hk.keys⟩
  obtain ⟨a, hkept, hclean⟩ | ⟨e, s', ⟨hkept, hclean⟩, heq⟩ := called_cases hx
  · obtain ⟨hI, hfound, hr, hsize⟩ := h.of_holds hready (hheld hkept) hlen hallows
    exact ⟨hI, hfound, hr, .inr hsize, hclean.from hsize h.clean⟩
  · rw [heq]
    obtain ⟨hI, hfound, hr, hsize⟩ := h.of_holds hready (hheld hkept) hlen hallows
    exact .of_stopped hI hfound hr hsize hclean h.clean

lemma Inv.change (change : Change) (hready : r.state.secure.ready = true) :
    Inv c B I view cfg workspace (changeStep c B view change r) := by
  obtain ⟨hfit, hcap, image, himage, hlen, hallows⟩ := h.holds hready
  have hspec := updateImage_spec hB hfit h.inv change himage (hlen.trans hcap.symm)
  have hpatched : change.Within r.state.secure.logicalCapacity →
      (change.apply image).length = cfg.logicalCapacity := fun hw =>
    (Change.apply_length hw (hlen.trans hcap.symm)).trans hcap
  rw [changeStep, himage, Option.getD_some]
  cases hx : updateImage c B change r.state with
  | ok a s' =>
      obtain ⟨hheld, hclean, hwithin⟩ := sat_of_ok hspec hx
      have hdurable : (Versioned.History.updated (change.apply image)).Allows
          (change.apply image) := .inl rfl
      obtain ⟨hI, hfound, hr, hsize⟩ := h.of_holds hready hheld (hpatched hwithin) hdurable
      exact ⟨hI, hfound, hr, .inr hsize, hclean.from hsize h.clean⟩
  | error e s' =>
      obtain ⟨hclean, hheld⟩ := sat_of_error hspec hx
      dsimp only
      obtain hheld | ⟨hwithin, hheld⟩ := hheld
      · have hstill : (if change.Within r.state.secure.logicalCapacity then
            r.history.attempted (change.apply image) else r.history).Allows image := by
          split
          · exact hallows.imp_right (List.mem_append_left _)
          · exact hallows
        obtain ⟨hI, hfound, hr, hsize⟩ := h.of_holds hready hheld hlen hstill
        exact .of_stopped hI hfound hr hsize hclean h.clean
      · have hnew : (r.history.attempted (change.apply image)).Allows (change.apply image) :=
          .inr (List.mem_append_right _ List.mem_cons_self)
        obtain ⟨hI, hfound, hr, hsize⟩ := h.of_holds hready hheld (hpatched hwithin) hnew
        rw [if_pos hwithin]
        exact .of_stopped hI hfound hr hsize hclean h.clean

omit hB in
lemma Inv.destroy : Inv c B I view cfg workspace
    { r with state := called lsSecureStorageDestroy r.state } := by
  refine ⟨h.inv, h.found, nofun, h.size, ?_⟩
  obtain hsize | hsize := h.size
  · refine h.clean.imp (fun hc => ?_) fun hc i hi => ?_
    · change Medium.fill r.state.workspace 0 r.state.secure.workspaceSize 0 = workspace
      rw [hsize, Medium.fill_zero, hc]
    · change Medium.fill r.state.workspace 0 r.state.secure.workspaceSize 0 i = 0
      rw [hsize, Medium.fill_zero, hc i hi]
  · exact .inr fun i hi => Medium.fill_of_mem (Nat.zero_le i) (by rw [hsize]; omega)

/-- **One call keeps the invariant.** -/
lemma Inv.step (op : SecureOp) :
    Inv c B I view cfg workspace (secureStep c B view cfg op r) := by
  cases op with
  | init => exact h.init hB
  | read offset length =>
      rw [secureStep]
      split
      · rename_i hready
        refine h.look hready ((secureRead_spec hB (h.holds hready).1 h.inv offset length).mono
          (fun _ _ h => ⟨h.1, h.2.1⟩) (fun _ _ h => ⟨h.1, h.2.1⟩))
      · exact h
  | change change =>
      rw [secureStep]
      split
      · rename_i hready
        exact h.change hB change hready
      · exact h
  | sync =>
      rw [secureStep]
      split
      · rename_i hready
        refine h.look hready ?_
        unfold secureSync
        cases hsync : B.sync with
        | none => exact .pure ⟨⟨h.inv, rfl, .refl _⟩, .inl rfl⟩
        | some sync =>
            dsimp only
            rw [onStore, sat_zoom]
            refine (hB.sync sync hsync _ h.inv).mono
              (fun _ t ht => ⟨⟨ht.1, ht.2, .refl _⟩, .inl rfl⟩)
              (fun e t ht => ⟨⟨ht.1, ht.2, .refl _⟩, ?_⟩)
            cases e with
            | fail e => exact .inl rfl
            | cut => trivial
      · exact h
  | destroy => exact h.destroy

end

variable (cfg workspace) in
/-- **Secure storage refines an atomic byte array.** In every run of initialisations, reads,
writes, erases and syncs over a store that was blank and is atomic, with any call below failing,
a read that the store serves returns bytes of the image of the last update that was reported as
done or of one attempted after it; and behind every call the workspace is as it was found, or
zero. -/
theorem secure_refines_atomic (hB : B.Atomic strict I view) {t : τ} (hI : I t)
    (hblank : Blank B view t) (random : ℕ → Except Errno Nonce) (ops : List SecureOp) :
    let r := secureAfter c B view cfg t workspace random ops
    CleanFrom cfg workspace r.state ∧
      (r.state.secure.ready = true → Served B r.state → ∀ offset length,
        offset + length ≤ cfg.logicalCapacity → ∃ image s', r.history.Allows image ∧
          secureRead c B offset length r.state = .ok ((image.drop offset).take length) s') := by
  intro r
  have hinv : Inv c B I view cfg workspace r := by
    refine List.foldlRecOn ops _ (inv_start hI hblank random) fun r h op _ => ?_
    exact h.step hB op
  refine ⟨hinv.clean, fun hready hserved offset length hbounds => ?_⟩
  obtain ⟨hfit, hcap, image, himage, hlen, hallows⟩ := hinv.holds hready
  have hspec := secureRead_spec (c := c) hB hfit hinv.inv offset length
  cases hread : secureRead c B offset length r.state with
  | ok bytes s' =>
      obtain ⟨-, -, image', himage', hbytes⟩ := sat_of_ok hspec hread
      rw [himage] at himage'
      cases himage'
      exact ⟨image, s', hallows, by rw [hbytes (hlen.trans hcap.symm)]⟩
  | error e s' =>
      obtain ⟨-, -, hwhy⟩ := sat_of_error hspec hread
      obtain hno | hnone := hwhy (hcap ▸ hbounds)
      · exact absurd hserved hno
      · rw [himage] at hnone
        cases hnone

end

/-- How a call of an unreliable store ends: well, with an error, or with an error although it
was carried out. -/
inductive Answer where
  | done
  | failed
  | failedAfter
  deriving DecidableEq

/-- A store in memory whose next calls end in the given ways. -/
structure Unreliable where
  bytes : List UInt8
  answers : List Answer

/-- The next answer. -/
def Unreliable.next (t : Unreliable) : Answer := t.answers.headD .done

/-- The store behind a call that leaves the given bytes. -/
def Unreliable.tick (t : Unreliable) (bytes : List UInt8) : Unreliable := ⟨bytes, t.answers.tail⟩

/-- The store as a backend without sync. -/
def unreliable (capacity : ℕ) : Backing Unreliable where
  capacity := capacity
  read offset length := do
    let t ← get
    set (t.tick t.bytes)
    if t.next = .done then return (t.bytes.drop offset).take length
    else throw (.fail .eio)
  write offset source := do
    let t ← get
    let written := (Change.write offset source).apply t.bytes
    set (t.tick (if t.next = .failed then t.bytes else written))
    if t.next = .done then return
    else throw (.fail .eio)
  sync := none

lemma unreliable_atomic (capacity : ℕ) :
    (unreliable capacity).Atomic false (fun t => t.bytes.length = capacity) Unreliable.bytes where
  length _ h := h
  read offset length t ht _ := by
    by_cases hnext : t.next = .done <;> simp [unreliable, hnext, Unreliable.tick, ht]
  write offset source t ht hbounds := by
    have hbounds : offset + source.length ≤ capacity := hbounds
    have hlen : ((Change.write offset source).apply t.bytes).length = capacity :=
      Change.apply_length ⟨by simp only [Change.offset]; omega, by
        simp only [Change.bytes, Change.offset]; omega⟩ ht
    cases hnext : t.next <;> simp [unreliable, hnext, Unreliable.tick, ht, hlen]
  sync _ h := by cases h

lemma served_of_next {capacity : ℕ} {s : Secured Unreliable} (h : s.store.next = .done) :
    Served (unreliable capacity) s := by
  have hread : Sat ((unreliable capacity).read 0 s.secure.sealedSize) s.store
      (fun _ _ => True) fun _ _ => False := by
    simp [unreliable, h]
  obtain ⟨bytes, t, hok, -⟩ := hread.exists_ok
  exact ⟨bytes, t, hok⟩

/-- An image of four bytes in a workspace of its sealed size. -/
def smallConfig : Config := ⟨0xffffffff, 72, 4, List.replicate 32 1, 1⟩

/-- A blank store whose fourth call is carried out and reported as failed. -/
def blankStore : Unreliable := ⟨List.replicate 72 0xff, [.done, .done, .done, .failedAfter]⟩

/-- Every number a new nonce. -/
def countedNonce (n : ℕ) : Except Errno Nonce :=
  .ok ⟨List.replicate 24 (UInt8.ofNat n), List.length_replicate ..⟩

/-- The run of an initialisation and an update that is reported as failed. -/
def failedUpdate : SecureRun Unreliable :=
  secureAfter clearCrypto (unreliable 72) Unreliable.bytes smallConfig blankStore (fun _ => 7)
    countedNonce [.init, .change (.write 0 [1, 2])]

/-- An update that was reported as failed may be read behind it. -/
theorem secure_refines_atomic_failed_update :
    failedUpdate.history = ⟨some [0xff, 0xff, 0xff, 0xff], [[1, 2, 0xff, 0xff]]⟩ ∧
      CleanFrom smallConfig (fun _ => 7) failedUpdate.state ∧
      ∃ image s', failedUpdate.history.Allows image ∧
        secureRead clearCrypto (unreliable 72) 0 4 failedUpdate.state =
          .ok ((image.drop 0).take 4) s' := by
  have hserved : Served (unreliable 72) failedUpdate.state :=
    served_of_next (by decide +kernel)
  obtain ⟨hclean, hread⟩ := secure_refines_atomic (c := clearCrypto) smallConfig (fun _ => 7)
    (unreliable_atomic 72) (t := blankStore) (by decide) (by rfl) countedNonce
    [.init, .change (.write 0 [1, 2])]
  exact ⟨by decide +kernel, hclean, hread (by decide +kernel) hserved 0 4 (by decide)⟩

end Latch.Secure
