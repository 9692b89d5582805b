import Mathlib.Data.Nat.ModEq
import Yakr.Core.Plain
import Yakr.Core.Ratchet

/-!
# Yakr.Core.Exact

**An executable instance without collisions.** Where `plainPackages` forgets its
inputs, these packages keep them: the shared key of an exchange is the sum of the two
keys, a derived chain key is the shared key it comes from, a chain key and its message
key are consecutive numbers, and a ciphertext carries its key. It serves to run the
ratchet where keys have to differ.
-/

namespace Yakr

open Lib

namespace Exact

/-- One more than every number that is a public or a shared key. -/
def modulus : Nat := 256 ^ 31

/-- A number on 32 bytes. -/
def number (n : Nat) : BytesN 32 := ⟨Bytes.ofNatBE 32 n, Bytes.length_ofNatBE 32 n⟩

def publicKey (k : PrivateKey) : BytesN 32 := number (Bytes.toNatBE k.1 % modulus)

def exchange (k : PrivateKey) (q : BytesN 32) : Option (BytesN 32) :=
  some (number ((Bytes.toNatBE k.1 + Bytes.toNatBE q.1) % modulus))

/-- A root key keeps and a chain key becomes the shared key; a chain key becomes a message
key and its successor; every other key is a number beyond the shared keys. -/
def hkdf (ikm info salt : Bytes) (length : Nat) : BytesN length :=
  if h : length = 64 then
    if info = rkInfo then
      ⟨(Plain.digest 32 ikm).1 ++ (Plain.digest 32 salt).1, by simp [h, (Plain.digest 32 _).2]⟩
    else
      ⟨(Plain.digest 32 ikm).1 ++ Bytes.ofNatBE 32 (Bytes.toNatBE ikm + 1), by
        simp [h, (Plain.digest 32 _).2]⟩
  else
    ⟨Bytes.ofNatBE length
      (256 ^ (length - 1) + Bytes.toNatBE (ikm ++ info ++ salt) % 256 ^ (length - 1)),
      Bytes.length_ofNatBE _ _⟩

/-- The tag of an encryption: the key, and a checksum of the rest. -/
def tag (key : BytesN 32) (nonce : BytesN 24) (aad plaintext : Bytes) : Bytes :=
  key.1 ++ (Plain.digest 32 (nonce.1 ++ aad ++ plaintext)).1

def openSealed (key : BytesN 32) (nonce : BytesN 24) (aad ciphertext : Bytes) : Option Bytes :=
  let plaintext := ciphertext.take (ciphertext.length - 64)
  if ciphertext.drop (ciphertext.length - 64) = tag key nonce aad plaintext then some plaintext
  else none

end Exact

/-- The executable instance without collisions. -/
def exactPackages : Packages :=
  { plainPackages with
    hkdf := Exact.hkdf
    x25519Public := Exact.publicKey
    x25519Exchange := Exact.exchange
    aeadEncrypt := fun key nonce aad plaintext => plaintext ++ Exact.tag key nonce aad plaintext
    aeadDecrypt := Exact.openSealed }

namespace Exact

theorem toNatBE_number {n : Nat} (h : n < 256 ^ 32) : Bytes.toNatBE (number n).1 = n :=
  Bytes.toNatBE_ofNatBE h

theorem mod_lt (n : Nat) : n % modulus < 256 ^ 32 :=
  lt_of_lt_of_le (Nat.mod_lt n (by norm_num [modulus])) (by norm_num [modulus])

/-- Numbers below the modulus are told apart by their bytes. -/
theorem number_inj {a b : Nat} (h : number (a % modulus) = number (b % modulus)) :
    a % modulus = b % modulus := by
  rw [← toNatBE_number (mod_lt a), h, toNatBE_number (mod_lt b)]

theorem digest_self {c : Bytes} (h : c.length = 32) : (Plain.digest 32 c).1 = c :=
  Bytes.ofNatBE_toNatBE h

theorem digest_inj {a b : Bytes} (ha : a.length = 32) (hb : b.length = 32)
    (h : (Plain.digest 32 a).1 = (Plain.digest 32 b).1) : a = b := by
  rw [digest_self ha, digest_self hb] at h
  exact h

end Exact

theorem exactPackages_dhLaws : exactPackages.DhLaws where
  comm a b := by
    show Exact.exchange a (Exact.publicKey b) = Exact.exchange b (Exact.publicKey a)
    simp only [Exact.exchange, Exact.publicKey, Exact.toNatBE_number (Exact.mod_lt _)]
    rw [Nat.add_mod_mod, Nat.add_mod_mod, Nat.add_comm]
  isSome _ _ := rfl

theorem exactPackages_aeadLaws : exactPackages.AeadLaws := by
  refine ⟨fun key nonce aad plaintext => ?_⟩
  have hlen : (plaintext ++ Exact.tag key nonce aad plaintext).length - 64 = plaintext.length := by
    simp [Exact.tag, key.2, (Plain.digest 32 _).2]
  show Exact.openSealed key nonce aad (plaintext ++ Exact.tag key nonce aad plaintext) = _
  simp only [Exact.openSealed, hlen, List.take_left, List.drop_left, if_true]

namespace Exact

/-- The shared key of two keys is their sum. -/
theorem sharedSecret_eq {k : PrivateKey} {q d : Bytes}
    (h : x25519SharedSecret exactPackages k q = .ok d) :
    d = (number ((Bytes.toNatBE k.1 + Bytes.toNatBE q) % modulus)).1 := by
  unfold x25519SharedSecret at h
  split at h
  · rename_i hlen
    have hexchange : exactPackages.x25519Exchange k ⟨q, hlen⟩
        = some (number ((Bytes.toNatBE k.1 + Bytes.toNatBE q) % modulus)) := rfl
    rw [hexchange] at h
    exact (Except.ok.inj h).symm
  · cases h

theorem kdfRk_snd (root d : Bytes) : (kdfRk exactPackages root d).2 = (Plain.digest 32 d).1 := by
  have hderive : hkdfDerive exactPackages root rkInfo 64 d
      = (Plain.digest 32 root).1 ++ (Plain.digest 32 d).1 := by
    rw [hkdfDerive]
    show (hkdf root rkInfo d 64).1 = _
    rw [hkdf, dif_pos rfl, if_pos rfl]
  simp only [kdfRk, hderive, Bytes.drop_append_of_length (Plain.digest 32 root).2]

theorem kdfCk_eq (ck : Bytes) : kdfCk exactPackages ck
    = ((Plain.digest 32 ck).1, Bytes.ofNatBE 32 (Bytes.toNatBE ck + 1)) := by
  have hinfo : ckInfo ≠ rkInfo := by decide +kernel
  have hderive : hkdfDerive exactPackages ck ckInfo 64
      = (Plain.digest 32 ck).1 ++ Bytes.ofNatBE 32 (Bytes.toNatBE ck + 1) := by
    rw [hkdfDerive]
    show (hkdf ck ckInfo [] 64).1 = _
    rw [hkdf, dif_pos rfl, if_neg hinfo]
  simp only [kdfCk, hderive, Bytes.take_append_of_length (Plain.digest 32 ck).2,
    Bytes.drop_append_of_length (Plain.digest 32 ck).2]

/-- The initial chain keys are numbers beyond the shared keys. -/
theorem toNatBE_hkdfDerive (ikm info : Bytes) :
    modulus ≤ Bytes.toNatBE (hkdfDerive exactPackages ikm info) := by
  have hderive : hkdfDerive exactPackages ikm info
      = Bytes.ofNatBE 32 (modulus + Bytes.toNatBE (ikm ++ info ++ []) % modulus) := by
    rw [hkdfDerive]
    show (hkdf ikm info [] 32).1 = _
    rw [hkdf, dif_neg (by decide)]
    rfl
  have hlt : Bytes.toNatBE (ikm ++ info ++ []) % modulus < modulus :=
    Nat.mod_lt _ (by norm_num [modulus])
  have hfits : 2 * modulus ≤ 256 ^ 32 := by norm_num [modulus]
  rw [hderive, Bytes.toNatBE_ofNatBE (by omega)]
  omega

theorem messageKey_inj {a b : Bytes} (ha : a.length = 32) (hb : b.length = 32)
    (h : (kdfCk exactPackages a).1 = (kdfCk exactPackages b).1) : a = b := by
  rw [kdfCk_eq, kdfCk_eq] at h
  exact digest_inj ha hb h

theorem nextKey_inj {a b : Bytes} (ha : a.length = 32) (hb : b.length = 32)
    (h : (kdfCk exactPackages a).2 = (kdfCk exactPackages b).2) : a = b := by
  rw [kdfCk_eq, kdfCk_eq] at h
  have hvalue := congrArg Bytes.toNatBE h
  rw [Bytes.toNatBE_ofNatBE_mod, Bytes.toNatBE_ofNatBE_mod] at hvalue
  have hla := Bytes.toNatBE_lt a
  have hlb := Bytes.toNatBE_lt b
  rw [ha] at hla
  rw [hb] at hlb
  have hmod : Bytes.toNatBE a % 256 ^ 32 = Bytes.toNatBE b % 256 ^ 32 :=
    Nat.ModEq.add_right_cancel' 1 hvalue
  rw [Nat.mod_eq_of_lt hla, Nat.mod_eq_of_lt hlb] at hmod
  rw [← Bytes.ofNatBE_toNatBE ha, ← Bytes.ofNatBE_toNatBE hb, hmod]

theorem length_sharedSecret {k : PrivateKey} {q d : Bytes}
    (h : x25519SharedSecret exactPackages k q = .ok d) : d.length = 32 := by
  rw [sharedSecret_eq h]
  exact (number _).2

/-- A chain key derived from an exchange is below the initial chain keys. -/
theorem kdfRk_snd_lt {k : PrivateKey} {q d : Bytes} (root : Bytes)
    (h : x25519SharedSecret exactPackages k q = .ok d) :
    Bytes.toNatBE (kdfRk exactPackages root d).2 < modulus := by
  have hvalue : Bytes.toNatBE d = (Bytes.toNatBE k.1 + Bytes.toNatBE q) % modulus := by
    rw [sharedSecret_eq h, toNatBE_number (mod_lt _)]
  rw [kdfRk_snd, digest_self (length_sharedSecret h), hvalue]
  exact Nat.mod_lt _ (by norm_num [modulus])

theorem exchange_inj {a b c : PrivateKey} {d : Bytes}
    (ha : x25519SharedSecret exactPackages a (publicKey c).1 = .ok d)
    (hb : x25519SharedSecret exactPackages b (publicKey c).1 = .ok d) :
    publicKey a = publicKey b := by
  have hsum := number_inj (Subtype.ext ((sharedSecret_eq ha).symm.trans (sharedSecret_eq hb)))
  have hmod : Bytes.toNatBE a.1 % modulus = Bytes.toNatBE b.1 % modulus :=
    Nat.ModEq.add_right_cancel' (Bytes.toNatBE (publicKey c).1) hsum
  simp only [publicKey, hmod]

/-- A ciphertext that opens carries the key it opens under. -/
theorem openSealed_key {key : BytesN 32} {nonce : BytesN 24} {aad ciphertext m : Bytes}
    (h : openSealed key nonce aad ciphertext = some m) :
    key.1 = (ciphertext.drop (ciphertext.length - 64)).take 32 := by
  rw [openSealed] at h
  split at h
  · rename_i htag
    rw [htag, tag, Bytes.take_append_of_length key.2]
  · cases h

theorem xchachaDecrypt_key {key payload aad m : Bytes}
    (h : xchachaDecrypt exactPackages key payload aad = .ok m) :
    key = ((payload.drop 24).drop ((payload.drop 24).length - 64)).take 32 := by
  unfold xchachaDecrypt at h
  split at h
  · cases h
  · split at h
    · split at h
      · rename_i hkey plaintext hopen
        exact openSealed_key hopen
      · cases h
    · cases h

end Exact

theorem exactPackages_collisionFree : exactPackages.CollisionFree where
  messageKey := Exact.messageKey_inj
  nextKey := Exact.nextKey_inj
  chain hd hd' h := by
    rw [Exact.kdfRk_snd, Exact.kdfRk_snd] at h
    exact Exact.digest_inj (Exact.length_sharedSecret hd) (Exact.length_sharedSecret hd') h
  chain_ne_initial {k q d root root'} hd h := by
    have hbelow := Exact.kdfRk_snd_lt root hd
    rw [h] at hbelow
    exact absurd (Exact.toNatBE_hkdfDerive root' recvChainInfo) (Nat.not_le.mpr hbelow)
  exchange := Exact.exchange_inj
  oneKey h h' := (Exact.xchachaDecrypt_key h).trans (Exact.xchachaDecrypt_key h').symm

end Yakr
