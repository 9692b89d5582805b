import Yakr.Core.RustPairing
import Yakr.Core.RustProfile
import Yakr.Core.RustWords

/-!
# Yakr.Core.RustInvite

**Invites in Rust: `invite.rs` of both crates and `cbor.rs`.** An invite is read into a record
without the ML-DSA key and the TLS pin of the rendezvous. To verify it, the record is encoded
again and the encoding is checked by the crypto crate, which takes every entry but the two
signatures as signed. The expiry is an unsigned word that is written as a signed one.
-/

namespace Yakr

open Lib

namespace Rust

variable (P : Packages)

/-! ### Integers -/

/-- The integers `ciborium` reads as such; others are tagged byte strings. -/
def isCborInteger (n : Int) : Bool := -(2 ^ 64) ≤ n && n < 2 ^ 64

/-! ### The check of the crypto crate -/

/-- `is_signature_key`. -/
def isSignatureKey (key : String) : Bool := key = "signature" || key = "pq_signature"

/-- `invite_unsigned_cbor`. -/
def inviteUnsignedCbor (bundle : Cbor) : Option Bytes :=
  match bundle with
  | .map entries => some (P.cborDumps (.map (entries.filter fun e => !isSignatureKey e.1)))
  | _ => none

/-- `derive_safety_code`. -/
def deriveSafetyCode (signingPublic agreementPublic : Bytes) : String :=
  let digest := (P.sha256 (signingPublic ++ agreementPublic)).1
  let digits := (digest.take 10).map fun byte => Nat.digitChar (byte.toNat % 10)
  String.ofList (digits.take 4 ++ ' ' :: (digits.drop 4).take 4 ++ ' ' :: digits.drop 8)

/-- `verify_invite_bundle`. A key that is no point of the curve verifies nothing. -/
def verifyInviteBundle (bundleB64 expectedSigningPublicHex expectedSafetyCode : String) : Bool :=
  Option.isSome do
    let raw ← base64urlDecode bundleB64
    let bundle ← (P.cborLoads raw).toOption
    let signingPublic ← mapBytes bundle "signing_public"
    guard (signingPublic.hex = expectedSigningPublicHex)
    let agreementPublic ← mapBytes bundle "agreement_public"
    let signature ← mapBytes bundle "signature"
    let unsigned ← inviteUnsignedCbor P bundle
    let verifyingKey ← arrayOf 32 signingPublic
    guard (signature.length = 64)
    guard (P.ed25519Verify verifyingKey signature unsigned = true)
    guard (deriveSafetyCode P signingPublic agreementPublic = expectedSafetyCode)

/-! ### Reading and writing -/

namespace InviteBundle

/-- `invite_unsigned_map`. -/
def unsignedMap (b : InviteBundle) : List (String × Cbor) :=
  [("protocol", .text b.protocol), ("inviter_name", .text b.inviterName),
    ("signing_public", .bytes b.signingPublic.1), ("agreement_public", .bytes b.agreementPublic.1),
    ("invite_secret", .bytes b.inviteSecret.1), ("rendezvous_hint", .text b.rendezvousHint),
    ("expires_at", .int (asI64 b.expiresAt)), ("capabilities", .array (b.capabilities.map .text))]
  ++ if b.kemPublic = [] then [] else [("kem_public", .bytes b.kemPublic)]

/-- `invite_to_bytes`. -/
def toBytes (b : InviteBundle) : Bytes :=
  P.cborDumps (.map (b.unsignedMap ++ [("signature", .bytes b.signature)]))

/-- `invite_to_b64`. -/
def toB64 (b : InviteBundle) : String := b64encode (b.toBytes P)

/-- A text of a map. -/
def mapText (value : Cbor) (key : String) : Except String String :=
  match mapField value key with
  | some (.text s) => .ok s
  | _ => .error ("missing " ++ key)

/-- The bytes of a map. -/
def requiredBytes (value : Cbor) (key : String) : Except String Bytes :=
  match mapBytes value key with
  | some data => .ok data
  | none => .error ("missing " ++ key)

/-- A key of 32 bytes of a map. -/
def requiredArray (value : Cbor) (key : String) : Except String (BytesN 32) := do
  match arrayOf 32 (← requiredBytes value key) with
  | some data => return data
  | none => throw key

/-- The texts of an array; anything else in it is left out. -/
def mapTexts (value : Cbor) (key : String) : List String :=
  match mapField value key with
  | some (.array items) => items.filterMap fun item =>
      match item with
      | .text s => some s
      | _ => none
  | _ => []

/-- The expiry of a map. -/
def mapExpiry (value : Cbor) : Except String UInt64 :=
  match mapField value "expires_at" with
  | some (.int n) => if isCborInteger n then .ok (asU64OfInt n) else .error "missing expires_at"
  | _ => .error "missing expires_at"

/-- `invite_from_bytes` on the decoded value. -/
def ofCbor : Cbor → Except String InviteBundle
  | .map entries => do
      let value := Cbor.map entries
      let protocol ← mapText value "protocol"
      let inviterName ← mapText value "inviter_name"
      let signingPublic ← requiredArray value "signing_public"
      let agreementPublic ← requiredArray value "agreement_public"
      let inviteSecret ← requiredArray value "invite_secret"
      let rendezvousHint ← mapText value "rendezvous_hint"
      let expiresAt ← mapExpiry value
      let signature ← requiredBytes value "signature"
      return { protocol, inviterName, signingPublic, agreementPublic, inviteSecret, rendezvousHint
               expiresAt
               capabilities := mapTexts value "capabilities"
               signature
               kemPublic := (mapBytes value "kem_public").getD [] }
  | _ => .error "invite not a map"

/-- `invite_from_bytes`. -/
def fromBytes (data : Bytes) : Except String InviteBundle :=
  match P.cborLoads data with
  | .ok value => ofCbor value
  | .error _ => .error "Error"

/-- `invite_from_b64`. -/
def fromB64 (value : String) : Except String InviteBundle :=
  match base64urlDecode value with
  | some data => fromBytes P data
  | none => .error "DecodeError"

end InviteBundle

/-- `verify_invite`. -/
def verifyInvite (bundle : InviteBundle) : Except String Unit :=
  if verifyInviteBundle P (bundle.toB64 P) bundle.signingPublic.1.hex
      (deriveSafetyCode P bundle.signingPublic.1 bundle.agreementPublic.1) then .ok ()
  else .error "invite verification failed"

end Rust
end Yakr
