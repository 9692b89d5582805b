import Yakr.Core.DeliveryProfile

/-!
# Yakr.Core.RustProfile

**Delivery profiles in Rust: `encoding.rs`, `cbor.rs` and `delivery_profile.rs`.** The
second implementation never builds a profile. It picks the signed entries out of the
decoded map by a list of keys and checks the signature over their encoding. `ciborium`
writes and reads the values of a profile as `cbor2` does.

A signature is 64 bytes here by type, so another length is refused before the check.
-/

namespace Yakr

open Lib

namespace Rust

variable (P : Packages)

/-! ### Texts -/

/-- `base64url_decode`: the padding is restored, and a text is only accepted when it is the
encoding of its bytes. -/
def base64urlDecode (value : String) : Option Bytes :=
  match b64decode value with
  | .ok data =>
      let strict := (b64encode data).toList ++ Base64.padding (b64encode data)
      if value.toList ++ Base64.padding value = strict then some data else none
  | .error _ => none

/-- The value of a hexadecimal digit. -/
def hexDigit (c : Char) : Option Nat :=
  if '0' ≤ c ∧ c ≤ '9' then some (c.toNat - 48)
  else if 'a' ≤ c ∧ c ≤ 'f' then some (c.toNat - 87)
  else if 'A' ≤ c ∧ c ≤ 'F' then some (c.toNat - 55)
  else none

/-- `hex::decode` on characters. -/
def hexDecode : List Char → Option Bytes
  | [] => some []
  | [_] => none
  | high :: low :: rest => do
      let high ← hexDigit high
      let low ← hexDigit low
      let rest ← hexDecode rest
      return UInt8.ofNat (high * 16 + low) :: rest

/-- `try_into` of a slice to an array. -/
def arrayOf (n : Nat) (data : Bytes) : Option (BytesN n) :=
  if h : data.length = n then some ⟨data, h⟩ else none

/-- Encoded bytes are decoded. -/
@[simp] theorem base64urlDecode_b64encode (data : Bytes) :
    base64urlDecode (b64encode data) = some data := by
  simp [base64urlDecode]

theorem hexDigit_digitChar {n : Nat} (h : n < 16) : hexDigit (Nat.digitChar n) = some n := by
  have hall : ∀ n < 16, hexDigit (Nat.digitChar n) = some n := by decide
  exact hall n h

@[simp] theorem hexDecode_hex (data : Bytes) : hexDecode data.hex.toList = some data := by
  rw [Bytes.hex, String.toList_ofList]
  induction data with
  | nil => rfl
  | cons b data ih =>
      have hb : b.toNat < 256 := b.toNat_lt
      have hbyte : UInt8.ofNat (b.toNat / 16 * 16 + b.toNat % 16) = b := by
        rw [Nat.div_add_mod', UInt8.ofNat_toNat]
      simp only [List.flatMap_cons, Bytes.hexByte, List.cons_append, List.nil_append, hexDecode,
        hexDigit_digitChar (show b.toNat / 16 < 16 by omega),
        hexDigit_digitChar (show b.toNat % 16 < 16 by omega), ih, bind, Option.bind, hbyte, pure]

@[simp] theorem arrayOf_val {n : Nat} (data : BytesN n) : arrayOf n data.1 = some data := by
  rw [arrayOf, dif_pos data.2]

/-! ### Entries -/

/-- `map_field`. -/
def mapField (value : Cbor) (key : String) : Option Cbor :=
  match value with
  | .map entries => entries.lookup key
  | _ => none

/-- `map_bytes`. -/
def mapBytes (value : Cbor) (key : String) : Option Bytes :=
  match mapField value key with
  | some (.bytes bytes) => some bytes
  | _ => none

/-- `KEYS` of `profile_unsigned_cbor`. -/
def profileKeys : List String :=
  ["protocol", "version", "valid_from", "valid_until", "direct_hints", "relay_descriptors",
    "mailbox_params", "blob_classes", "receipt_policy"]

/-- The entries of a map under a list of keys, in the order of the list. -/
def pick (keys : List String) (entries : List (String × Cbor)) : List (String × Cbor) :=
  keys.filterMap fun key => (entries.lookup key).map fun value => (key, value)

/-- `profile_unsigned_cbor`. -/
def profileUnsignedCbor (payload : Cbor) : Option Bytes :=
  match payload with
  | .map entries => some (P.cborDumps (.map (pick profileKeys entries)))
  | _ => none

/-- `verify_delivery_profile`. A key that is no point of the curve verifies nothing. -/
def verifyDeliveryProfile (profileB64 expectedSigningPublicHex : String)
    (expectedVersion : UInt64) : Bool :=
  Option.isSome do
    let raw ← base64urlDecode profileB64
    let payload ← (P.cborLoads raw).toOption
    let signingPublic ← hexDecode expectedSigningPublicHex.toList
    let verifyingKey ← arrayOf 32 signingPublic
    let signature ← mapBytes payload "signature"
    guard (signature.length = 64)
    let unsigned ← profileUnsignedCbor P payload
    guard (P.ed25519Verify verifyingKey signature unsigned = true)
    match mapField payload "version" with
    | some (.int version) => guard (version = expectedVersion.toNat)
    | _ => none

end Rust
end Yakr
