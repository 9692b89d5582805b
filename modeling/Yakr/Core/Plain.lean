import Yakr.Core.Packages

/-!
# Yakr.Core.Plain

**An executable instance of the packages.** Functions that satisfy the laws the
program relies on and compute quickly, with no secrecy at all: digests are the
low-order bytes of their input, a public key is its private key, a ciphertext is
the plaintext and a checksum over the key, the nonce and the associated data. It
serves to run the model on concrete inputs.
-/

namespace Yakr

open Lib

namespace Plain

/-- The low-order bytes of a byte string, exactly `n` of them. -/
def digest (n : Nat) (data : Bytes) : BytesN n :=
  ⟨Bytes.ofNatBE n (Bytes.toNatBE data), Bytes.length_ofNatBE n _⟩

/-- The checksum of an encryption. -/
def checksum (key : BytesN 32) (nonce : BytesN 24) (aad plaintext : Bytes) : Bytes :=
  (digest 32 (key.1 ++ nonce.1 ++ aad ++ plaintext)).1

@[simp] theorem length_checksum (key : BytesN 32) (nonce : BytesN 24) (aad plaintext : Bytes) :
    (checksum key nonce aad plaintext).length = 32 := (digest 32 _).2

/-- The plaintext in front of a checksum that fits. -/
def openSealed (key : BytesN 32) (nonce : BytesN 24) (aad ciphertext : Bytes) : Option Bytes :=
  let plaintext := ciphertext.take (ciphertext.length - 32)
  if ciphertext.drop (ciphertext.length - 32) = checksum key nonce aad plaintext then
    some plaintext
  else none

/-- Of CBOR only single texts and byte strings are written. -/
def dumps : Cbor → Bytes
  | .bytes b => b
  | .text s => Bytes.ofUtf8 s
  | _ => []

end Plain

/-- The executable instance. -/
def plainPackages : Packages where
  hkdf ikm info salt n := Plain.digest n (ikm ++ info ++ salt)
  x25519Public key := key
  x25519Exchange _ _ := some (Plain.digest 32 [])
  aeadEncrypt key nonce aad plaintext := plaintext ++ Plain.checksum key nonce aad plaintext
  aeadDecrypt := Plain.openSealed
  sha256 := Plain.digest 32
  hmacSha256 _ material := Plain.digest 32 material
  ed25519Public key := key
  ed25519Sign key data := (Plain.digest 32 (key.1 ++ data)).1
  ed25519Verify key signature data := signature = (Plain.digest 32 (key.1 ++ data)).1
  mlDsaSign key data := (Plain.digest 32 (key ++ data)).1
  mlDsaVerify key data signature := signature = (Plain.digest 32 (key ++ data)).1
  kemKeypair random :=
    ((Plain.digest kemPublicKeySize random).1, (Plain.digest kemSecretKeySize random).1)
  kemEncrypt _ random :=
    ((Plain.digest kemCiphertextSize random).1,
      Plain.digest 32 (Plain.digest kemCiphertextSize random).1)
  kemDecrypt _ ciphertext := Plain.digest 32 ciphertext
  cborDumps := Plain.dumps
  cborLoads _ := .error (.other "CBORDecodeError")
  floatToInt _ := none
  floatIsZero _ := false
  reprJson _ := ""
  reprCbor _ := ""

theorem plainPackages_dhLaws : plainPackages.DhLaws := ⟨fun _ _ => rfl, fun _ _ => rfl⟩

theorem plainPackages_aeadLaws : plainPackages.AeadLaws := by
  refine ⟨fun key nonce aad plaintext => ?_⟩
  have hlen : (plaintext ++ Plain.checksum key nonce aad plaintext).length - 32
      = plaintext.length := by
    simp
  show Plain.openSealed key nonce aad (plaintext ++ Plain.checksum key nonce aad plaintext) = _
  simp only [Plain.openSealed, hlen, List.take_left, List.drop_left, if_true]

theorem plainPackages_kemLaws : plainPackages.KemLaws where
  length_public seed := (Plain.digest kemPublicKeySize seed).2
  length_secret seed := (Plain.digest kemSecretKeySize seed).2
  length_ciphertext _ random _ := (Plain.digest kemCiphertextSize random).2
  decrypt_encrypt _ _ := rfl

end Yakr
