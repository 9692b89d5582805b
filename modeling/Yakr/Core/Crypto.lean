import Yakr.Core.Encoding
import Yakr.Core.Packages

/-!
# Yakr.Core.Crypto

**`crypto.py`.** The wrappers the program puts around the cryptographic packages:
key derivation, the X25519 exchange and the nonce-prefixed AEAD. Lengths the
packages check at run time raise the `ValueError` they raise there.
-/

namespace Yakr

open Lib

variable (P : Packages)

def masterInfo : Bytes := encodeUtf8 "yakr/v0.1/master"
def mailboxTagInfo : Bytes := encodeUtf8 "yakr/v0.1/mailbox-tag"

/-- `hkdf_derive`. -/
def hkdfDerive (ikm info : Bytes) (length : Nat := 32) (salt : Bytes := []) : Bytes :=
  P.hkdf ikm info salt length

@[simp] theorem length_hkdfDerive (ikm info salt : Bytes) (n : Nat) :
    (hkdfDerive P ikm info n salt).length = n := (P.hkdf ikm info salt n).2

/-- `X25519PrivateKey.from_private_bytes`. -/
def loadPrivate (raw : Bytes) : Except PyExc PrivateKey :=
  if h : raw.length = 32 then .ok ⟨raw, h⟩
  else .error (.valueError "An X25519 private key is 32 bytes long")

/-- `x25519_shared_secret`. -/
def x25519SharedSecret (privateKey : PrivateKey) (peerPublicBytes : Bytes) :
    Except PyExc Bytes :=
  if h : peerPublicBytes.length = 32 then
    match P.x25519Exchange privateKey ⟨peerPublicBytes, h⟩ with
    | some shared => .ok shared.1
    | none => .error (.valueError "Error computing shared key.")
  else .error (.valueError "An X25519 public key is 32 bytes long")

/-- `derive_master_secret`. -/
def deriveMasterSecret (sharedSecret : Bytes) : Bytes := hkdfDerive P sharedSecret masterInfo

/-- `derive_mailbox_secret`. -/
def deriveMailboxSecret (masterSecret : Bytes) (direction : String) : Bytes :=
  hkdfDerive P masterSecret (mailboxTagInfo ++ encodeUtf8 direction)

/-- `xchacha_encrypt` with the nonce it draws. -/
def xchachaEncrypt (nonce : Nonce) (key plaintext associatedData : Bytes) : Except PyExc Bytes :=
  if h : key.length = 32 then
    .ok (nonce.1 ++ P.aeadEncrypt ⟨key, h⟩ nonce associatedData plaintext)
  else .error (.valueError "Key must be exactly 32 bytes long")

/-- `xchacha_decrypt`. -/
def xchachaDecrypt (key payload associatedData : Bytes) : Except PyExc Bytes :=
  if hlen : payload.length < 24 then .error (.valueError "ciphertext too short")
  else
    if hkey : key.length = 32 then
      match P.aeadDecrypt ⟨key, hkey⟩ ⟨payload.take 24, length_nonce hlen⟩ associatedData
          (payload.drop 24) with
      | some plaintext => .ok plaintext
      | none => .error .cryptoError
    else .error (.valueError "Key must be exactly 32 bytes long")

/-! ### Laws of the wrappers -/

variable {P}

@[simp] theorem loadPrivate_val (k : PrivateKey) : loadPrivate k.1 = .ok k := by
  rw [loadPrivate, dif_pos k.2]

/-- Two generated keys agree on a shared secret. -/
theorem x25519SharedSecret_comm (hdh : P.DhLaws) (a b : PrivateKey) :
    ∃ shared, x25519SharedSecret P a (P.x25519Public b).1 = .ok shared
      ∧ x25519SharedSecret P b (P.x25519Public a).1 = .ok shared := by
  obtain ⟨s, hs⟩ := Option.isSome_iff_exists.mp (hdh.isSome a b)
  refine ⟨s.1, ?_, ?_⟩
  · rw [x25519SharedSecret, dif_pos (P.x25519Public b).2, hs]
  · rw [x25519SharedSecret, dif_pos (P.x25519Public a).2, ← hdh.comm a b, hs]

/-- Decrypting under the key and associated data of the encryption gives the
plaintext back. -/
theorem xchachaDecrypt_encrypt (haead : P.AeadLaws) {nonce : Nonce}
    {key plaintext aad payload : Bytes} (h : xchachaEncrypt P nonce key plaintext aad = .ok payload) :
    xchachaDecrypt P key payload aad = .ok plaintext := by
  unfold xchachaEncrypt at h
  split at h
  · rename_i hkey
    obtain rfl := Except.ok.inj h
    have htake : (nonce.1 ++ P.aeadEncrypt ⟨key, hkey⟩ nonce aad plaintext).take 24 = nonce.1 :=
      Bytes.take_append_of_length nonce.2
    have hdrop : (nonce.1 ++ P.aeadEncrypt ⟨key, hkey⟩ nonce aad plaintext).drop 24
        = P.aeadEncrypt ⟨key, hkey⟩ nonce aad plaintext := Bytes.drop_append_of_length nonce.2
    have hlen : ¬ (nonce.1 ++ P.aeadEncrypt ⟨key, hkey⟩ nonce aad plaintext).length < 24 := by
      simp [nonce.2]
    rw [xchachaDecrypt, dif_neg hlen, dif_pos hkey]
    simp only [htake, hdrop]
    rw [haead.decrypt_encrypt]
  · cases h

end Yakr
