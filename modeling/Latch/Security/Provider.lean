/-
The built-in provider of `src/security/provider.c`.

Envelopes and secure storage are modelled over any functions that keep the contract `Crypto`.
Without a registered provider the dispatch ends at the software of `src/security/`, and
`builtinCrypto` says that this software keeps the contract. What it decrypts is what it has
encrypted (`builtin_decrypts_iff`).
-/
import Latch.Envelope.Encode
import Latch.Security.Aead
import Latch.Security.Sha256

namespace Latch

open Aead Chacha20 Medium

/-- `xchacha_material`: the key and the nonce of the inner cipher. -/
def xchachaMaterial (key nonce : List UInt8) : List UInt8 × List UInt8 :=
  (lsHchacha20 key nonce, List.replicate 4 0 ++ (nonce.drop 16).take 8)

/-- `ls_xchacha20_poly1305_encrypt`. -/
def lsXchacha20Poly1305Encrypt (sizeMax : ℕ) (key nonce aad : List UInt8)
    (plaintext ciphertext : Option ℕ) (length : ℕ) : AeadM (List UInt8) :=
  let material := xchachaMaterial key nonce
  lsChacha20Poly1305Encrypt sizeMax material.1 material.2 aad plaintext ciphertext length

/-- `ls_xchacha20_poly1305_decrypt`. -/
def lsXchacha20Poly1305Decrypt (sizeMax : ℕ) (key nonce aad : List UInt8)
    (ciphertext plaintext : Option ℕ) (length : ℕ) (tag : List UInt8) : AeadM Unit :=
  let material := xchachaMaterial key nonce
  lsChacha20Poly1305Decrypt sizeMax material.1 material.2 aad ciphertext plaintext length tag

/-- A buffer that holds a text. -/
def bufferOf (text : List UInt8) : Buffers := { memory := write (fun _ => 0) 0 text, asked := [] }

/-- A text that is encrypted in place. -/
def builtinEncrypt (sizeMax : ℕ) (key nonce aad plaintext : List UInt8) :
    Except Errno (List UInt8 × List UInt8) :=
  match lsXchacha20Poly1305Encrypt sizeMax key nonce aad (some 0) (some 0) plaintext.length
    (bufferOf plaintext) with
  | .ok tag s => .ok (read s.memory 0 plaintext.length, tag)
  | .error e _ => .error e

/-- A text that is decrypted in place. -/
def builtinDecrypt (sizeMax : ℕ) (key nonce aad ciphertext tag : List UInt8) :
    Except Errno (List UInt8) :=
  match lsXchacha20Poly1305Decrypt sizeMax key nonce aad (some 0) (some 0) ciphertext.length tag
    (bufferOf ciphertext) with
  | .ok _ s => .ok (read s.memory 0 ciphertext.length)
  | .error e _ => .error e

section Builtin

variable {sizeMax : ℕ} {key nonce aad plaintext ciphertext tag : List UInt8}

/-- The ciphertext under a key and a nonce. -/
def sealedText (key nonce text : List UInt8) : List UInt8 :=
  xorList text (keystream (xchachaMaterial key nonce).1 (xchachaMaterial key nonce).2 1 text.length)

lemma length_sealedText (key nonce text : List UInt8) :
    (sealedText key nonce text).length = text.length := by
  rw [sealedText, xorList, List.length_zipWith, length_keystream, min_self]

lemma read_bufferOf (text : List UInt8) : read (bufferOf text).memory 0 text.length = text :=
  read_write_same (fun _ => 0) 0 text

lemma builtinEncrypt_eq : builtinEncrypt sizeMax key nonce aad plaintext =
    if chacha20LengthOverflows sizeMax plaintext.length then .error .eoverflow
    else .ok (sealedText key nonce plaintext, tagOf (block (xchachaMaterial key nonce).1
      (xchachaMaterial key nonce).2 0) aad (sealedText key nonce plaintext)) := by
  have hread := read_write_same (bufferOf plaintext).memory 0 (sealedText key nonce plaintext)
  rw [length_sealedText] at hread
  cases hlen : chacha20LengthOverflows sizeMax plaintext.length with
  | true =>
      have hresult : lsXchacha20Poly1305Encrypt sizeMax key nonce aad (some 0) (some 0)
          plaintext.length (bufferOf plaintext) = .error .eoverflow (bufferOf plaintext) := by
        unfold lsXchacha20Poly1305Encrypt lsChacha20Poly1305Encrypt
        rw [if_neg (by simp), if_pos hlen]
        rfl
      rw [builtinEncrypt, hresult]
      rfl
  | false =>
      have hresult := @encrypt_eq (xchachaMaterial key nonce).1 (xchachaMaterial key nonce).2 aad
        sizeMax plaintext.length (bufferOf plaintext) hlen 0 0 (.inl le_rfl)
      rw [read_bufferOf] at hresult
      rw [builtinEncrypt, lsXchacha20Poly1305Encrypt]
      rw [hresult]
      exact congrArg (fun l => Except.ok (l, _)) hread

/-- The cipher is its own inverse. -/
lemma sealedText_sealedText (key nonce text : List UInt8) :
    sealedText key nonce (sealedText key nonce text) = text := by
  rw [sealedText, length_sealedText]
  exact xorList_xorList (length_keystream _ _ _ _).symm

lemma builtinDecrypt_eq (htag : tag.length = 16) :
    builtinDecrypt sizeMax key nonce aad ciphertext tag =
      if chacha20LengthOverflows sizeMax ciphertext.length then .error .eoverflow
      else if tagOf (block (xchachaMaterial key nonce).1 (xchachaMaterial key nonce).2 0) aad
        ciphertext = tag then .ok (sealedText key nonce ciphertext) else .error .eauth := by
  rw [builtinDecrypt, lsXchacha20Poly1305Decrypt]
  cases hlen : chacha20LengthOverflows sizeMax ciphertext.length with
  | true =>
      unfold lsChacha20Poly1305Decrypt
      rw [if_neg (by simp), if_pos hlen]
      rfl
  | false =>
      have hresult := @decrypt_eq (xchachaMaterial key nonce).1 (xchachaMaterial key nonce).2 aad
        sizeMax ciphertext.length (bufferOf ciphertext) hlen 0 (some 0)
        (fun p hp => .inl (Option.some.inj hp).ge) tag htag
      have hread := read_write_same (bufferOf ciphertext).memory 0 (sealedText key nonce ciphertext)
      rw [read_bufferOf] at hresult
      rw [length_sealedText] at hread
      rw [hresult, if_neg Bool.false_ne_true]
      split_ifs
      · exact congrArg Except.ok hread
      · rfl

end Builtin

/-- **The built-in provider** keeps the contract over which envelopes and storage are modelled. -/
def builtinCrypto (sizeMax : ℕ) : Crypto where
  hmacSha256 := lsHmacSha256
  hkdfSha256 := lsHkdfSha256
  encrypt := builtinEncrypt sizeMax
  decrypt := builtinDecrypt sizeMax
  hmac_length key data := by
    rw [lsHmacSha256_eq, length_hmacSha256]
    rfl
  encrypt_length {key nonce aad plaintext ciphertext tag} h := by
    rw [builtinEncrypt_eq] at h
    split at h
    · cases h
    · obtain ⟨rfl, rfl⟩ := Prod.mk.inj (Except.ok.inj h)
      exact ⟨length_sealedText _ _ _, length_tagOf _ _ _⟩
  decrypt_encrypt {key nonce aad plaintext ciphertext tag} h := by
    rw [builtinEncrypt_eq] at h
    split at h
    · cases h
    · rename_i hlen
      obtain ⟨rfl, rfl⟩ := Prod.mk.inj (Except.ok.inj h)
      rw [builtinDecrypt_eq (length_tagOf _ _ _), length_sealedText, if_neg hlen, if_pos rfl,
        sealedText_sealedText]

/-- **The built-in provider authenticates.** It decrypts a text with a tag to a plaintext if and
only if it encrypts this plaintext to this text with this tag. -/
theorem builtin_decrypts_iff (sizeMax : ℕ) (key nonce aad ciphertext tag plaintext : List UInt8)
    (htag : tag.length = 16) :
    (builtinCrypto sizeMax).decrypt key nonce aad ciphertext tag = .ok plaintext ↔
      (builtinCrypto sizeMax).encrypt key nonce aad plaintext = .ok (ciphertext, tag) := by
  refine ⟨fun h => ?_, (builtinCrypto sizeMax).decrypt_encrypt⟩
  have hdecrypt := (builtinDecrypt_eq htag).symm.trans h
  split_ifs at hdecrypt with hlen htagged
  cases hdecrypt
  refine (builtinEncrypt_eq).trans ?_
  rw [length_sealedText, if_neg hlen, sealedText_sealedText, htagged]

/-- A message of two bytes comes back. -/
theorem builtin_decrypts_message :
    let key := List.replicate 32 1
    let nonce := List.replicate 24 2
    ∃ text tag, (builtinCrypto 0xffffffff).encrypt key nonce [3] [4, 5] = .ok (text, tag) ∧
      (builtinCrypto 0xffffffff).decrypt key nonce [3] text tag = .ok [4, 5] := by
  intro key nonce
  have h := @builtinEncrypt_eq 0xffffffff key nonce [3] [4, 5]
  rw [if_neg (by decide)] at h
  exact ⟨_, _, h, (builtin_decrypts_iff _ _ _ _ _ _ _ (length_tagOf _ _ _)).mpr h⟩

end Latch
