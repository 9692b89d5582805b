import Yakr.Core.Errors
import Yakr.Lib.Bytes
import Yakr.Lib.Json

/-!
# Yakr.Core.Packages

**Third-party packages.** The program computes with `cryptography`, `PyNaCl`,
`pqcrypto`, `hashlib` and `cbor2`; none of them is part of the repository. They
are the fields of one structure, typed with the lengths their documentation
fixes, and every function of the model takes it as a parameter.

What the program relies on beyond the types is stated as separate laws
(`DhLaws`, `AeadLaws`, …), so that each theorem names the ones it needs.
-/

namespace Yakr

open Lib

/-- A byte string of a fixed length. -/
abbrev BytesN (n : Nat) := { b : Bytes // b.length = n }

/-- The same byte `n` times. -/
def BytesN.fill (n : Nat) (b : UInt8) : BytesN n := ⟨List.replicate n b, List.length_replicate⟩

/-- An X25519 private key, raw. -/
abbrev PrivateKey := BytesN 32

/-- A nonce of XChaCha20-Poly1305. -/
abbrev Nonce := BytesN 24

/-- What stands before the ciphertext of a payload that is long enough is a nonce. -/
theorem length_nonce {payload : Bytes} (h : ¬ payload.length < 24) :
    (payload.take 24).length = 24 := by
  rw [List.length_take]
  omega

/-- A data item of CBOR, as `cbor2` builds it; a map keeps its insertion order. -/
inductive Cbor where
  | int (n : Int)
  | bytes (b : Bytes)
  | text (s : String)
  | array (items : List Cbor)
  | map (entries : List (String × Cbor))
  | bool (b : Bool)
  | null
  /-- Everything else `cbor2.loads` can return: floats, tags, maps whose keys are
  not all texts. -/
  | other (encoding : Bytes)

/-! Lengths of ML-KEM-768. -/

def kemPublicKeySize : Nat := 1184
def kemSecretKeySize : Nat := 2400
def kemCiphertextSize : Nat := 1088
def kemPlaintextSize : Nat := 32

/-- The third-party functions the program calls. -/
structure Packages where
  /-- `HKDF(SHA256(), length, salt, info).derive(ikm)`. -/
  hkdf : (ikm info salt : Bytes) → (length : Nat) → BytesN length
  /-- `private_key.public_key().public_bytes(Raw, Raw)`. -/
  x25519Public : PrivateKey → BytesN 32
  /-- `private_key.exchange(peer)`; `none` when the shared key is all zero. -/
  x25519Exchange : PrivateKey → BytesN 32 → Option (BytesN 32)
  /-- `crypto_aead_xchacha20poly1305_ietf_encrypt`. -/
  aeadEncrypt : (key : BytesN 32) → Nonce → (aad plaintext : Bytes) → Bytes
  /-- `crypto_aead_xchacha20poly1305_ietf_decrypt`; `none` when the tag is wrong. -/
  aeadDecrypt : (key : BytesN 32) → Nonce → (aad ciphertext : Bytes) → Option Bytes
  /-- `hashlib.sha256(data).digest()`. -/
  sha256 : Bytes → BytesN 32
  /-- `hmac.new(key, material, sha256).digest()`. -/
  hmacSha256 : (key material : Bytes) → BytesN 32
  /-- The raw public key of an Ed25519 private key. -/
  ed25519Public : PrivateKey → BytesN 32
  /-- `private_key.sign(data)`. -/
  ed25519Sign : PrivateKey → Bytes → Bytes
  /-- `public_key.verify(signature, data)` does not raise. -/
  ed25519Verify : (publicKey : BytesN 32) → (signature data : Bytes) → Bool
  /-- ML-DSA-65 `sign`. -/
  mlDsaSign : (secretKey data : Bytes) → Bytes
  /-- ML-DSA-65 `verify`. -/
  mlDsaVerify : (publicKey data signature : Bytes) → Bool
  /-- ML-KEM-768 `generate_keypair` with the randomness it draws: public and secret key. -/
  kemKeypair : (random : Bytes) → Bytes × Bytes
  /-- ML-KEM-768 `encrypt` with the randomness it draws: ciphertext and secret. -/
  kemEncrypt : (publicKey random : Bytes) → Bytes × BytesN 32
  /-- ML-KEM-768 `decrypt`. -/
  kemDecrypt : (secretKey ciphertext : Bytes) → BytesN 32
  /-- `cbor2.dumps`. -/
  cborDumps : Cbor → Bytes
  /-- `cbor2.loads`, with the exception it raises. -/
  cborLoads : Bytes → Except PyExc Cbor
  /-- `int(float(literal))`, the one place floating point would matter; `none` when
  it raises. -/
  floatToInt : (literal : String) → Option Int
  /-- `float(literal) == 0.0`. -/
  floatIsZero : (literal : String) → Bool
  /-- `str` of a value that is neither a text nor an integer nor a constant. -/
  reprJson : Json → String
  /-- The same for the values `cbor2` builds. -/
  reprCbor : Cbor → String

namespace Packages

variable (P : Packages)

/-- Both ends of a Diffie–Hellman exchange between generated keys compute one
shared key, and it is not the all-zero one. -/
structure DhLaws : Prop where
  comm : ∀ a b, P.x25519Exchange a (P.x25519Public b) = P.x25519Exchange b (P.x25519Public a)
  isSome : ∀ a b, (P.x25519Exchange a (P.x25519Public b)).isSome

/-- Decryption under the key, nonce and associated data of an encryption returns
its plaintext. -/
structure AeadLaws : Prop where
  decrypt_encrypt : ∀ key nonce aad plaintext,
    P.aeadDecrypt key nonce aad (P.aeadEncrypt key nonce aad plaintext) = some plaintext

/-- Decapsulation with the secret key of a pair inverts encapsulation to its public
key, and every value has the length of its kind. -/
structure KemLaws : Prop where
  length_public : ∀ seed, (P.kemKeypair seed).1.length = kemPublicKeySize
  length_secret : ∀ seed, (P.kemKeypair seed).2.length = kemSecretKeySize
  length_ciphertext : ∀ publicKey random,
    publicKey.length = kemPublicKeySize →
      (P.kemEncrypt publicKey random).1.length = kemCiphertextSize
  decrypt_encrypt : ∀ seed random,
    P.kemDecrypt (P.kemKeypair seed).2 (P.kemEncrypt (P.kemKeypair seed).1 random).1
      = (P.kemEncrypt (P.kemKeypair seed).1 random).2

end Packages
end Yakr
