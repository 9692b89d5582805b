import Yakr.Core.Codec
import Yakr.Core.RelayTicket
import Yakr.Lib.Effect

/-!
# Yakr.Core.Onion

**What a sender wraps: `onion.py`.** An outer blob is an instruction for the mailbox relay, sealed
with its secret; that, with the address it is to go to, is an instruction for the entry relay, sealed
with the secret of that one. Each relay opens its own layer.
-/

namespace Yakr

open Lib Effect

variable (P : Packages)

/-- `encrypt_layer`. -/
def encryptLayer (nonce : Nonce) (wrapSecret plaintext : Bytes) : Except PyExc Bytes :=
  xchachaEncrypt P nonce wrapSecret plaintext []

/-- `encode_mailbox_instruction`. -/
def encodeMailboxInstruction (outer : OuterBlob) : Bytes :=
  P.cborDumps (.map [("mailbox_tag", .bytes outer.mailboxTag), ("expires_at", .int outer.expiresAt),
    ("ciphertext", .bytes outer.ciphertext)])

/-- `encode_forward_instruction`. -/
def encodeForwardInstruction (nextRelayIngestUrl : String) (innerCiphertext : Bytes) : Bytes :=
  P.cborDumps (.map [("next_relay", .text nextRelayIngestUrl), ("inner", .bytes innerCiphertext)])

/-- `build_onion_packet`, with the nonces of the two layers. -/
def buildOnionPacket (mailboxNonce entryNonce : Nonce) (entryWrapSecret mailboxWrapSecret : Bytes)
    (mailboxRelayUrl : String) (outer : OuterBlob) : Except PyExc Bytes := do
  let mailboxCipher ←
    encryptLayer P mailboxNonce mailboxWrapSecret (encodeMailboxInstruction P outer)
  let entryCipher ←
    encryptLayer P entryNonce entryWrapSecret
      (encodeForwardInstruction P (mailboxRelayUrl ++ "/v1/ingest") mailboxCipher)
  return P.cborDumps (.map [("version", .int 1), ("entry_ciphertext", .bytes entryCipher)])

/-! ### Opening the layers -/

variable {P}

theorem decodeMailboxInstruction_encode (hcbor : P.CborLaws) (outer : OuterBlob) :
    decodeMailboxInstruction P (encodeMailboxInstruction P outer)
      = .ok { outer with version := 1 } := by
  unfold decodeMailboxInstruction encodeMailboxInstruction
  rw [hcbor.loads_dumps (by simp [Cbor.Storable, Cbor.StorableEntries])]
  simp [cborSubscript, cborGet, List.lookup_cons, cborBytes, cborInt, bind, Except.bind, pure,
    Except.pure]

theorem decodeForwardInstruction_encode (hcbor : P.CborLaws) (next : String) (inner : Bytes) :
    decodeForwardInstruction P (encodeForwardInstruction P next inner) = .ok (next, inner) := by
  unfold decodeForwardInstruction encodeForwardInstruction
  rw [hcbor.loads_dumps (by simp [Cbor.Storable, Cbor.StorableEntries])]
  simp [cborSubscript, cborGet, List.lookup_cons, cborBytes, cborStr, bind, Except.bind, pure,
    Except.pure]

/-- **A packet that was built**: the entry relay reads the address and the inner layer, and the
mailbox relay reads the blob in it. -/
theorem decode_buildOnionPacket (haead : P.AeadLaws) (hcbor : P.CborLaws)
    {mailboxNonce entryNonce : Nonce} {entryWrapSecret mailboxWrapSecret packet : Bytes}
    {mailboxRelayUrl : String} {outer : OuterBlob}
    (h : buildOnionPacket P mailboxNonce entryNonce entryWrapSecret mailboxWrapSecret
      mailboxRelayUrl outer = .ok packet) :
    ∃ inner,
      decodeEntryPacket P packet entryWrapSecret = .ok (mailboxRelayUrl ++ "/v1/ingest", inner)
        ∧ decodeMailboxPacket P inner mailboxWrapSecret = .ok { outer with version := 1 } := by
  unfold buildOnionPacket at h
  obtain ⟨mailboxCipher, hmailbox, h⟩ := bind_ok.mp h
  obtain ⟨entryCipher, hentry, h⟩ := bind_ok.mp h
  obtain rfl := Except.ok.inj h
  refine ⟨mailboxCipher, ?_, ?_⟩
  · have hopened : xchachaDecrypt P entryWrapSecret entryCipher [] = .ok _ :=
      xchachaDecrypt_encrypt haead hentry
    unfold decodeEntryPacket
    rw [hcbor.loads_dumps (by simp [Cbor.Storable, Cbor.StorableEntries])]
    have hfields : cborSubscript (.map [("version", .int 1), ("entry_ciphertext",
        .bytes entryCipher)]) "entry_ciphertext" = .ok (.bytes entryCipher) := rfl
    rw [ok_bind, hfields, ok_bind, cborBytes, ok_bind, hopened]
    exact decodeForwardInstruction_encode hcbor _ mailboxCipher
  · have hopened : xchachaDecrypt P mailboxWrapSecret mailboxCipher [] = .ok _ :=
      xchachaDecrypt_encrypt haead hmailbox
    unfold decodeMailboxPacket
    rw [hopened]
    exact decodeMailboxInstruction_encode hcbor outer

end Yakr
