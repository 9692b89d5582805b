import Yakr.Core.Ratchet

/-!
# Yakr.Core.RustRatchet

**The double ratchet of `ratchet.rs`.** The second implementation of the ratchet:
the same fields with keys of 32 bytes as arrays and counters as `u32`, the same
derivations, errors as texts. Where it differs from the Python one: `decrypt`
restores a full clone of the state when `decrypt_inner` fails, skipped keys
included, and an exchange that yields the all-zero key is not refused.

An addition that overflows a counter panics; it is an error here, and the state it
leaves is of no interest since the process is gone.
-/

namespace Yakr

open Lib

namespace Rust

variable (P : Packages)

/-- `RatchetState`. -/
structure RatchetState where
  rootKey : BytesN 32
  dhSelfPrivate : PrivateKey
  dhSelfPublic : BytesN 32
  dhPeerPublic : Option (BytesN 32) := none
  sendChainKey : Option (BytesN 32) := none
  recvChainKey : Option (BytesN 32) := none
  sendN : Nat := 0
  recvN : Nat := 0
  prevSendN : Nat := 0
  skippedKeys : List (String × String) := []
  hybrid : Bool := false
  pendingPairingDhRatchetPeer : Option (BytesN 32) := none
deriving DecidableEq

/-- `hkdf64`. -/
def hkdf64 (ikm info salt : Bytes) : BytesN 32 × BytesN 32 :=
  let out := P.hkdf ikm info salt 64
  (⟨out.1.take 32, by simp [out.2]⟩, ⟨out.1.drop 32, by simp [out.2]⟩)

/-- `kdf_rk`. -/
def kdfRk (rootKey dhOutput : BytesN 32) : BytesN 32 × BytesN 32 :=
  hkdf64 P rootKey.1 rkInfo dhOutput.1

/-- `kdf_ck`. -/
def kdfCk (chainKey : BytesN 32) : BytesN 32 × BytesN 32 := hkdf64 P chainKey.1 ckInfo []

/-- `shared_secret`. -/
def sharedSecret (privateKey : PrivateKey) (peerPublic : BytesN 32) : BytesN 32 :=
  match P.x25519Exchange privateKey peerPublic with
  | some shared => shared
  | none => BytesN.fill 32 0

/-- `xchacha_encrypt` with the nonce it draws. -/
def xchachaEncrypt (nonce : Nonce) (key : BytesN 32) (plaintext associatedData : Bytes) : Bytes :=
  nonce.1 ++ P.aeadEncrypt key nonce associatedData plaintext

/-- `xchacha_decrypt`, with the `Debug` text of its error. -/
def xchachaDecrypt (key : BytesN 32) (payload associatedData : Bytes) : Except String Bytes :=
  if hlen : payload.length < 24 then .error "CiphertextTooShort"
  else
    match P.aeadDecrypt key ⟨payload.take 24, length_nonce hlen⟩ associatedData
        (payload.drop 24) with
    | some plaintext => .ok plaintext
    | none => .error "DecryptFailed"

/-- A method of `RatchetState`. -/
abbrev RatchetM := EStateM String RatchetState

/-- `a + b` of two `u32`. -/
def addU32 (a b : Nat) : Except String Nat :=
  if a + b < 2 ^ 32 then .ok (a + b) else .error "attempt to add with overflow"

namespace RatchetState

open Effect

/-- `RatchetState::from_master`. -/
def fromMaster (masterSecret : Bytes) (isInitiator hybrid : Bool)
    (ratchetPrivate : PrivateKey) : RatchetState :=
  let rootKey := P.hkdf masterSecret rootInfo [] 32
  let sendChain := P.hkdf rootKey.1 sendChainInfo [] 32
  let recvChain := P.hkdf rootKey.1 recvChainInfo [] 32
  { rootKey := rootKey
    dhSelfPrivate := ratchetPrivate
    dhSelfPublic := P.x25519Public ratchetPrivate
    sendChainKey := some (if isInitiator then sendChain else recvChain)
    recvChainKey := some (if isInitiator then recvChain else sendChain)
    hybrid := hybrid }

/-- `key.map(|k| b64encode(&k)).unwrap_or_default()`. -/
def encodeKey (key : Option (BytesN 32)) : String := (key.map fun k => b64encode k.1).getD ""

/-- `to_dict`. -/
def toDict (s : RatchetState) : RatchetDict :=
  { version := 2
    rootKey := b64encode s.rootKey.1
    dhSelfPrivate := b64encode s.dhSelfPrivate.1
    dhSelfPublic := b64encode s.dhSelfPublic.1
    dhPeerPublic := encodeKey s.dhPeerPublic
    sendChainKey := encodeKey s.sendChainKey
    recvChainKey := encodeKey s.recvChainKey
    sendN := s.sendN
    recvN := s.recvN
    prevSendN := s.prevSendN
    skippedKeys := s.skippedKeys
    hybrid := s.hybrid
    pendingPairingDhRatchetPeer := encodeKey s.pendingPairingDhRatchetPeer }

/-- `header_aad`. -/
def headerAad (dhPublic : BytesN 32) (prevN messageN : Nat) : Bytes :=
  ratchetMagic ++ dhPublic.1 ++ Bytes.ofNatBE 4 prevN ++ Bytes.ofNatBE 4 messageN

/-- `pairing_send_init`. -/
def pairingSendInit (peerPublic : BytesN 32) (generated : PrivateKey) (s : RatchetState) :
    RatchetState :=
  let rootKey := (kdfRk P s.rootKey (sharedSecret P s.dhSelfPrivate peerPublic)).1
  let derived := kdfRk P rootKey (sharedSecret P generated peerPublic)
  { s with
    dhPeerPublic := some peerPublic
    dhSelfPrivate := generated
    dhSelfPublic := P.x25519Public generated
    rootKey := derived.1
    sendChainKey := some derived.2
    prevSendN := s.sendN
    sendN := 0 }

/-- `pairing_recv_init`. -/
def pairingRecvInit (peerPublic : BytesN 32) (s : RatchetState) : RatchetState :=
  let derived := kdfRk P s.rootKey (sharedSecret P s.dhSelfPrivate peerPublic)
  { s with
    dhPeerPublic := some peerPublic
    rootKey := derived.1
    recvChainKey := some derived.2
    recvN := 0 }

/-- `dh_ratchet`. -/
def dhRatchet (peerPublic : BytesN 32) (generated : PrivateKey) (s : RatchetState) :
    RatchetState :=
  let received := kdfRk P s.rootKey (sharedSecret P s.dhSelfPrivate peerPublic)
  let sending := kdfRk P received.1 (sharedSecret P generated peerPublic)
  { s with
    skippedKeys := []
    dhPeerPublic := some peerPublic
    recvChainKey := some received.2
    recvN := 0
    dhSelfPrivate := generated
    dhSelfPublic := P.x25519Public generated
    rootKey := sending.1
    sendChainKey := some sending.2
    prevSendN := s.sendN
    sendN := 0 }

/-- `store_skip`. -/
def storeSkip (peerPublic : BytesN 32) (n : Nat) (messageKey : BytesN 32) (s : RatchetState) :
    RatchetState :=
  { s with
    skippedKeys := Table.put Prod.fst
      (Yakr.RatchetState.skipKeyId peerPublic.1 n, b64encode messageKey.1) s.skippedKeys }

/-- `skip_key`; a stored text that is not 32 bytes of base64 counts as absent. -/
def skipKey (s : RatchetState) (peerPublic : BytesN 32) (n : Nat) : Option (BytesN 32) :=
  match Table.find Prod.fst (Yakr.RatchetState.skipKeyId peerPublic.1 n) s.skippedKeys with
  | none => none
  | some entry =>
      match b64decode entry.2 with
      | .ok bytes => if h : bytes.length = 32 then some ⟨bytes, h⟩ else none
      | .error _ => none

/-- `encrypt`. -/
def encrypt (generated : PrivateKey) (nonce : Nonce) (plaintext : Bytes) : RatchetM Bytes := do
  match (← get).pendingPairingDhRatchetPeer with
  | some peer =>
      modify fun s => pairingSendInit P peer generated { s with pendingPairingDhRatchetPeer := none }
  | none => pure ()
  match (← get).sendChainKey with
  | none => throw "send chain not initialized"
  | some sendChain =>
      modify fun s => { s with sendChainKey := some (kdfCk P sendChain).2 }
      let s ← get
      let aad := headerAad s.dhSelfPublic s.prevSendN s.sendN
      let ciphertext := xchachaEncrypt P nonce (kdfCk P sendChain).1 plaintext aad
      let sendN ← orRaise (addU32 s.sendN 1)
      modify fun s => { s with sendN := sendN }
      return aad ++ ciphertext

/-- The loop of `decrypt_inner` that stores the keys of `count` skipped positions. -/
def skipPositions (peerPublic : BytesN 32) :
    (count : Nat) → (recvChain : BytesN 32) → RatchetM (BytesN 32)
  | 0, recvChain => pure recvChain
  | count + 1, recvChain => do
      modify fun s =>
        { storeSkip peerPublic s.recvN (kdfCk P recvChain).1 s with recvN := s.recvN + 1 }
      skipPositions peerPublic count (kdfCk P recvChain).2

/-- The message key of `decrypt_inner`, and the receive chain after it. -/
def receiveKey (peerPublic : BytesN 32) (messageN : Nat) (recvChain : BytesN 32) :
    RatchetM (BytesN 32 × BytesN 32) := do
  let s ← get
  if messageN < s.recvN then
    match skipKey s peerPublic messageN with
    | some messageKey => return (messageKey, recvChain)
    | none => throw "ratchet message already received"
  else
    let gap := messageN - s.recvN
    if gap > maxSkipGap then throw "ratchet skip gap too large"
    if s.skippedKeys.length + gap > maxSkippedKeys then
      throw "ratchet skipped key limit exceeded"
    let recvChain ← skipPositions P peerPublic gap recvChain
    let recvN ← orRaise (addU32 messageN 1)
    modify fun s => { s with recvN := recvN }
    return kdfCk P recvChain

/-- The first lines of `decrypt_inner`: adopt or turn to the peer key of the header. -/
def turnTo (peerPublic : BytesN 32) (generated : PrivateKey) (s : RatchetState) : RatchetState :=
  match s.dhPeerPublic with
  | none => { s with dhPeerPublic := some peerPublic }
  | some known => if known ≠ peerPublic then dhRatchet P peerPublic generated s else s

/-- `decrypt_inner` once the header is parsed. -/
def openPayload (peerPublic : BytesN 32) (prevN messageN : Nat) (ciphertext : Bytes)
    (generated : PrivateKey) : RatchetM Bytes := do
  modify (turnTo P peerPublic generated)
  match (← get).recvChainKey with
  | none => throw "recv chain not initialized"
  | some recvChain =>
      let (messageKey, recvChain) ← receiveKey P peerPublic messageN recvChain
      modify fun s => { s with recvChainKey := some recvChain }
      orRaise (xchachaDecrypt P messageKey ciphertext (headerAad peerPublic prevN messageN))

/-- `decrypt_inner`. -/
def decryptInner (generated : PrivateKey) (payload : Bytes) : RatchetM Bytes := do
  if hlen : payload.length < 5 + 32 + 8 then throw "ratchet payload too short"
  else
    if payload.take 5 ≠ ratchetMagic then throw "invalid ratchet header"
    let peerPublic : BytesN 32 := ⟨(payload.drop 5).take 32, by simp; omega⟩
    let prevN := Bytes.toNatBE ((payload.drop 37).take 4)
    let messageN := Bytes.toNatBE ((payload.drop 41).take 4)
    openPayload P peerPublic prevN messageN (payload.drop 45) generated

/-- `decrypt`. -/
def decrypt (generated : PrivateKey) (payload : Bytes) : RatchetM Bytes := do
  let snapshot ← get
  tryCatch (decryptInner P generated payload) fun e => do
    set snapshot
    throw e

end RatchetState
end Rust
end Yakr
