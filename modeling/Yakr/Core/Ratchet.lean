import Yakr.Core.Crypto
import Yakr.Lib.Effect
import Yakr.Lib.Table

/-!
# Yakr.Core.Ratchet

**The double ratchet of `ratchet.py`.** `RatchetState` is the dataclass, field
for field; its methods are state transformers that keep what a method had
assigned when it raises. The private keys that `X25519PrivateKey.generate()` and
the nonces that `os.urandom` draw are arguments.

`decrypt` takes a snapshot first and restores it when anything raises. The
snapshot is `to_dict()`, which holds the *same* `skipped_keys` object as the
state: what the failing attempt stored or cleared there survives the restore, and
`restoreSnapshot` models exactly that.
-/

namespace Yakr

open Lib

/-! ### Constants and key derivation -/

def ratchetMagic : Bytes := encodeUtf8 "YKDR2"
def maxSkipGap : Nat := 128
def maxSkippedKeys : Nat := 256
def rootInfo : Bytes := encodeUtf8 "yakr/v1.0/double-ratchet-root"
def rkInfo : Bytes := encodeUtf8 "yakr/v1.0/double-ratchet-rk"
def ckInfo : Bytes := encodeUtf8 "yakr/v1.0/double-ratchet-ck"
def sendChainInfo : Bytes := encodeUtf8 "yakr/v1.0/double-ratchet-send"
def recvChainInfo : Bytes := encodeUtf8 "yakr/v1.0/double-ratchet-recv"

@[simp] theorem length_ratchetMagic : ratchetMagic.length = 5 := by decide

variable (P : Packages)

/-- `_kdf_rk`: the next root key and a fresh chain key. -/
def kdfRk (rootKey dhOutput : Bytes) : Bytes × Bytes :=
  let material := hkdfDerive P rootKey rkInfo 64 dhOutput
  (material.take 32, material.drop 32)

/-- `_kdf_ck`: a message key and the next chain key. -/
def kdfCk (chainKey : Bytes) : Bytes × Bytes :=
  let material := hkdfDerive P chainKey ckInfo 64
  (material.take 32, material.drop 32)

/-- **No collisions.** What the ratchet relies on of key derivation, the exchange and
the AEAD: different inputs of a derivation give different keys, different key pairs
different shared keys with a generated key, and a ciphertext opens under one key. -/
structure Packages.CollisionFree : Prop where
  messageKey : ∀ {a b : Bytes}, a.length = 32 → b.length = 32 →
    (kdfCk P a).1 = (kdfCk P b).1 → a = b
  nextKey : ∀ {a b : Bytes}, a.length = 32 → b.length = 32 →
    (kdfCk P a).2 = (kdfCk P b).2 → a = b
  chain : ∀ {k k' : PrivateKey} {q q' d d' root root' : Bytes},
    x25519SharedSecret P k q = .ok d → x25519SharedSecret P k' q' = .ok d' →
    (kdfRk P root d).2 = (kdfRk P root' d').2 → d = d'
  chain_ne_initial : ∀ {k : PrivateKey} {q d root root' : Bytes},
    x25519SharedSecret P k q = .ok d →
    (kdfRk P root d).2 ≠ hkdfDerive P root' recvChainInfo
  exchange : ∀ {a b c : PrivateKey} {d : Bytes},
    x25519SharedSecret P a (P.x25519Public c).1 = .ok d →
    x25519SharedSecret P b (P.x25519Public c).1 = .ok d → P.x25519Public a = P.x25519Public b
  oneKey : ∀ {k k' ciphertext aad m m' : Bytes},
    xchachaDecrypt P k ciphertext aad = .ok m → xchachaDecrypt P k' ciphertext aad = .ok m' →
    k = k'

/-- `struct.pack(">II", prev_n, message_n)`. -/
def packCounters (prevN messageN : Nat) : Except PyExc Bytes :=
  if prevN < 2 ^ 32 ∧ messageN < 2 ^ 32 then
    .ok (Bytes.ofNatBE 4 prevN ++ Bytes.ofNatBE 4 messageN)
  else .error .structError

/-! ### The state -/

structure RatchetState where
  rootKey : Bytes
  dhSelfPrivate : Bytes
  dhSelfPublic : Bytes
  dhPeerPublic : Option Bytes := none
  sendChainKey : Option Bytes := none
  recvChainKey : Option Bytes := none
  sendN : Nat := 0
  recvN : Nat := 0
  prevSendN : Nat := 0
  /-- Message keys of skipped positions, by `"<hex of the peer key>:<n>"`. -/
  skippedKeys : List (String × String) := []
  hybrid : Bool := false
  pendingPairingDhRatchetPeer : Option Bytes := none
deriving DecidableEq, Repr

/-- The dictionary form of `to_dict`, every byte string as base64 text. -/
structure RatchetDict where
  version : Int
  rootKey : String
  dhSelfPrivate : String
  dhSelfPublic : String
  dhPeerPublic : String
  sendChainKey : String
  recvChainKey : String
  sendN : Nat
  recvN : Nat
  prevSendN : Nat
  skippedKeys : List (String × String)
  hybrid : Bool
  pendingPairingDhRatchetPeer : String
deriving DecidableEq, Repr

/-- An absent key is written as the empty text. -/
def encodeOptional : Option Bytes → String
  | some b => b64encode b
  | none => ""

/-- The empty text is the empty byte string. -/
def decodeText (value : String) : Except PyExc Bytes :=
  if value = "" then .ok [] else b64decode value

/-- `value or None`. -/
def orNone (b : Bytes) : Option Bytes := if b = [] then none else some b

namespace RatchetState

/-- `RatchetState.from_master`. -/
def fromMaster (masterSecret : Bytes) (isInitiator hybrid : Bool)
    (ratchetPrivate : PrivateKey) : RatchetState :=
  let rootKey := hkdfDerive P masterSecret rootInfo
  let sendChain := hkdfDerive P rootKey sendChainInfo
  let recvChain := hkdfDerive P rootKey recvChainInfo
  { rootKey := rootKey
    dhSelfPrivate := ratchetPrivate.1
    dhSelfPublic := P.x25519Public ratchetPrivate
    sendChainKey := some (if isInitiator then sendChain else recvChain)
    recvChainKey := some (if isInitiator then recvChain else sendChain)
    hybrid := hybrid }

/-- `to_dict`. -/
def toDict (s : RatchetState) : RatchetDict :=
  { version := 2
    rootKey := b64encode s.rootKey
    dhSelfPrivate := b64encode s.dhSelfPrivate
    dhSelfPublic := b64encode s.dhSelfPublic
    dhPeerPublic := encodeOptional s.dhPeerPublic
    sendChainKey := encodeOptional s.sendChainKey
    recvChainKey := encodeOptional s.recvChainKey
    sendN := s.sendN
    recvN := s.recvN
    prevSendN := s.prevSendN
    skippedKeys := s.skippedKeys
    hybrid := s.hybrid
    pendingPairingDhRatchetPeer := encodeOptional s.pendingPairingDhRatchetPeer }

/-- `from_dict`. -/
def fromDict (payload : RatchetDict) : Except PyExc RatchetState := do
  if payload.version ≠ 2 then
    throw (.valueError "unsupported ratchet version; re-pair required")
  let peer ← decodeText payload.dhPeerPublic
  let sendChain ← decodeText payload.sendChainKey
  let recvChain ← decodeText payload.recvChainKey
  let pendingPeer ← decodeText payload.pendingPairingDhRatchetPeer
  let rootKey ← decodeText payload.rootKey
  let dhSelfPrivate ← decodeText payload.dhSelfPrivate
  let dhSelfPublic ← decodeText payload.dhSelfPublic
  return { rootKey, dhSelfPrivate, dhSelfPublic
           dhPeerPublic := orNone peer
           sendChainKey := orNone sendChain
           recvChainKey := orNone recvChain
           sendN := payload.sendN
           recvN := payload.recvN
           prevSendN := payload.prevSendN
           skippedKeys := payload.skippedKeys
           hybrid := payload.hybrid
           pendingPairingDhRatchetPeer := orNone pendingPeer }

/-- The header of a payload, which is also its associated data. -/
def headerAad (dhPublic : Bytes) (prevN messageN : Nat) : Except PyExc Bytes := do
  let counters ← packCounters prevN messageN
  return ratchetMagic ++ dhPublic ++ counters

end RatchetState

/-! ### Methods -/

/-- A method of `RatchetState`. -/
abbrev RatchetM := EStateM PyExc RatchetState

namespace RatchetState

open Effect

/-- The dictionary key of a skipped position. -/
def skipKeyId (dhPublic : Bytes) (n : Nat) : String := dhPublic.hex ++ ":" ++ toString n

/-- `_skip_key`. -/
def skipKey (s : RatchetState) (dhPublic : Bytes) (n : Nat) : Except PyExc Bytes :=
  match Table.find Prod.fst (skipKeyId dhPublic n) s.skippedKeys with
  | none => .error (.keyError (skipKeyId dhPublic n))
  | some entry => b64decode entry.2

/-- `_store_skip`. -/
def storeSkip (dhPublic : Bytes) (n : Nat) (messageKey : Bytes) (s : RatchetState) :
    RatchetState :=
  { s with
    skippedKeys :=
      Table.put Prod.fst (skipKeyId dhPublic n, b64encode messageKey) s.skippedKeys }

/-- `_pairing_send_init`. -/
def pairingSendInit (peerPublic : Bytes) (generated : PrivateKey) : RatchetM Unit := do
  if peerPublic.length ≠ 32 then
    throw (.valueError "peer ratchet public key must be 32 bytes")
  modify fun s => { s with dhPeerPublic := some peerPublic }
  let dhSelf ← orRaise (loadPrivate (← get).dhSelfPrivate)
  let dhOutput ← orRaise (x25519SharedSecret P dhSelf peerPublic)
  let rootKey := (kdfRk P (← get).rootKey dhOutput).1
  modify fun s =>
    { s with dhSelfPrivate := generated.1, dhSelfPublic := (P.x25519Public generated).1 }
  let dhOutput ← orRaise (x25519SharedSecret P generated peerPublic)
  modify fun s =>
    { s with
      rootKey := (kdfRk P rootKey dhOutput).1
      sendChainKey := some (kdfRk P rootKey dhOutput).2
      prevSendN := s.sendN
      sendN := 0 }

/-- `_pairing_recv_init`. -/
def pairingRecvInit (peerPublic : Bytes) : RatchetM Unit := do
  if peerPublic.length ≠ 32 then
    throw (.valueError "peer ratchet public key must be 32 bytes")
  modify fun s => { s with dhPeerPublic := some peerPublic }
  let dhSelf ← orRaise (loadPrivate (← get).dhSelfPrivate)
  let dhOutput ← orRaise (x25519SharedSecret P dhSelf peerPublic)
  modify fun s =>
    { s with
      rootKey := (kdfRk P s.rootKey dhOutput).1
      recvChainKey := some (kdfRk P s.rootKey dhOutput).2
      recvN := 0 }

/-- `_dh_ratchet`. -/
def dhRatchet (peerPublic : Bytes) (generated : PrivateKey) : RatchetM Unit := do
  modify fun s => { s with skippedKeys := [], dhPeerPublic := some peerPublic }
  let dhSelf ← orRaise (loadPrivate (← get).dhSelfPrivate)
  let dhOutput ← orRaise (x25519SharedSecret P dhSelf peerPublic)
  modify fun s =>
    { s with
      rootKey := (kdfRk P s.rootKey dhOutput).1
      recvChainKey := some (kdfRk P s.rootKey dhOutput).2
      recvN := 0 }
  modify fun s =>
    { s with dhSelfPrivate := generated.1, dhSelfPublic := (P.x25519Public generated).1 }
  let dhOutput ← orRaise (x25519SharedSecret P generated peerPublic)
  modify fun s =>
    { s with
      rootKey := (kdfRk P s.rootKey dhOutput).1
      sendChainKey := some (kdfRk P s.rootKey dhOutput).2
      prevSendN := s.sendN
      sendN := 0 }

/-- The first lines of `encrypt`: a pending pairing key starts the send chain. -/
def takePendingPeer (generated : PrivateKey) : RatchetM Unit := do
  match (← get).pendingPairingDhRatchetPeer with
  | some peer =>
      modify fun s => { s with pendingPairingDhRatchetPeer := none }
      pairingSendInit P peer generated
  | none => pure ()

/-- The message key of the next position of the send chain. -/
def nextSendKey : RatchetM Bytes := do
  match (← get).sendChainKey with
  | none => throw (.valueError "send chain not initialized")
  | some chainKey =>
      modify fun s => { s with sendChainKey := some (kdfCk P chainKey).2 }
      return (kdfCk P chainKey).1

/-- `encrypt`. -/
def encrypt (generated : PrivateKey) (nonce : Nonce) (plaintext : Bytes) : RatchetM Bytes := do
  takePendingPeer P generated
  let messageKey ← nextSendKey P
  let s ← get
  let aad ← orRaise (headerAad s.dhSelfPublic s.prevSendN s.sendN)
  let ciphertext ← orRaise (xchachaEncrypt P nonce messageKey plaintext aad)
  modify fun s => { s with sendN := s.sendN + 1 }
  -- the header is built from the same values as the associated data
  return aad ++ ciphertext

/-- `_restore_snapshot`. The snapshot's `skipped_keys` is the object the failed
attempt went on mutating, so the current dictionary is what is restored. -/
def restoreSnapshot (snapshot : RatchetDict) : RatchetM Unit := do
  let current := (← get).skippedKeys
  let restored ← orRaise (fromDict { snapshot with skippedKeys := current })
  set restored

/-- The first lines of the guarded part of `decrypt`: adopt or turn to the peer
key of the header. -/
def turnTo (peerPublic : Bytes) (generated : PrivateKey) : RatchetM Unit := do
  match (← get).dhPeerPublic with
  | none => modify fun s => { s with dhPeerPublic := some peerPublic }
  | some known => if known ≠ peerPublic then dhRatchet P peerPublic generated

/-- The loop that stores the keys of `count` skipped positions; returns the chain
key after them. -/
def skipPositions (peerPublic : Bytes) : (count : Nat) → (chainKey : Bytes) → RatchetM Bytes
  | 0, chainKey => pure chainKey
  | count + 1, chainKey => do
      modify fun s =>
        { storeSkip peerPublic s.recvN (kdfCk P chainKey).1 s with
          recvChainKey := some (kdfCk P chainKey).2
          recvN := s.recvN + 1 }
      skipPositions peerPublic count (kdfCk P chainKey).2

/-- The message key of position `messageN` of the current receive chain. -/
def receiveKey (peerPublic : Bytes) (messageN : Nat) (chainKey : Bytes) : RatchetM Bytes := do
  let s ← get
  if messageN < s.recvN then
    match skipKey s peerPublic messageN with
    | .ok messageKey => return messageKey
    | .error (.keyError _) => throw (.valueError "ratchet message already received")
    | .error e => throw e
  else
    let gap := messageN - s.recvN
    if gap > maxSkipGap then throw (.valueError "ratchet skip gap too large")
    if s.skippedKeys.length + gap > maxSkippedKeys then
      throw (.valueError "ratchet skipped key limit exceeded")
    let chainKey ← skipPositions P peerPublic gap chainKey
    modify fun s =>
      { s with recvChainKey := some (kdfCk P chainKey).2, recvN := messageN + 1 }
    return (kdfCk P chainKey).1

/-- The guarded part of `decrypt`. -/
def openPayload (peerPublic : Bytes) (prevN messageN : Nat) (ciphertext : Bytes)
    (generated : PrivateKey) : RatchetM Bytes := do
  turnTo P peerPublic generated
  match (← get).recvChainKey with
  | none => throw (.valueError "recv chain not initialized")
  | some chainKey =>
      let messageKey ← receiveKey P peerPublic messageN chainKey
      let aad ← orRaise (headerAad peerPublic prevN messageN)
      orRaise (xchachaDecrypt P messageKey ciphertext aad)

/-- The peer key of a payload's header. -/
def headerPublic (payload : Bytes) : Bytes := (payload.drop 5).take 32

/-- `decrypt`. -/
def decrypt (generated : PrivateKey) (payload : Bytes) : RatchetM Bytes := do
  if payload.length < ratchetMagic.length + 32 + 8 then
    throw (.valueError "ratchet payload too short")
  if payload.take 5 ≠ ratchetMagic then
    throw (.valueError "invalid ratchet header")
  let prevN := Bytes.toNatBE ((payload.drop 37).take 4)
  let messageN := Bytes.toNatBE ((payload.drop 41).take 4)
  let snapshot := (← get).toDict
  tryCatch (openPayload P (headerPublic payload) prevN messageN (payload.drop 45) generated)
    fun e => do
      restoreSnapshot snapshot
      throw e

end RatchetState
end Yakr
