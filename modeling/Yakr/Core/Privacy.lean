import Yakr.Core.Mailbox

/-!
# Yakr.Core.Privacy

**Privacy modes of `privacy.py`.** Padding of plaintexts to size classes and the
decoy tags a fetch adds to the real ones.
-/

namespace Yakr

open Lib

variable (P : Packages)

inductive PrivacyMode where
  | fast
  | balanced
  | high
deriving DecidableEq, Repr

def size4K : Nat := 4096
def size32K : Nat := 32768
def balancedDecoyCount : Nat := 3
def highDecoyCount : Nat := 7

/-- `size_classes`, in increasing order. -/
def sizeClasses : PrivacyMode → List Nat
  | .high => [size4K, size32K]
  | .balanced => [size4K]
  | .fast => []

/-- `select_size_class`: the first class the framed plaintext fits, else the
largest one. -/
def selectSizeClass (plaintextLen : Nat) (mode : PrivacyMode) : Option Nat :=
  if mode = .fast then none
  else
    match (sizeClasses mode).find? fun classSize => plaintextLen + 4 ≤ classSize with
    | some classSize => some classSize
    | none => (sizeClasses mode).getLast?

/-- `pad_plaintext`: the padded bytes and how many bytes were added. -/
def padPlaintext (plaintext : Bytes) (mode : PrivacyMode) : Except PyExc (Bytes × Nat) :=
  match selectSizeClass plaintext.length mode with
  | none => .ok (plaintext, 0)
  | some classSize =>
      if 2 ^ 32 ≤ plaintext.length then .error (.other "OverflowError")
      else
        let framed := Bytes.ofNatBE 4 plaintext.length ++ plaintext
        if classSize < framed.length then
          .error (.valueError "plaintext exceeds maximum size class")
        else
          .ok (framed ++ List.replicate (classSize - framed.length) 0,
            classSize - plaintext.length)

/-- `unpad_plaintext`. -/
def unpadPlaintext (padded : Bytes) : Except PyExc Bytes :=
  if padded.length < 4 then .error (.valueError "padded payload too short")
  else
    let length := Bytes.toNatBE (padded.take 4)
    if padded.length < 4 + length then .error (.valueError "invalid padded length prefix")
    else .ok ((padded.drop 4).take length)

/-- `decode_padded_plaintext`. -/
def decodePaddedPlaintext (data : Bytes) (mode : PrivacyMode) : Except PyExc Bytes :=
  if mode = .fast then .ok data else unpadPlaintext data

/-- `decoy_count`. -/
def decoyCount : PrivacyMode → Nat
  | .balanced => balancedDecoyCount
  | .high => highDecoyCount
  | .fast => 0

/-- `derive_decoy_tag`. -/
def deriveDecoyTag (mailboxSecret : Bytes) (direction : String) (epoch : Int) (index : Nat) :
    MailboxTag :=
  let material := encodeUtf8
    ("decoy|" ++ direction ++ "|" ++ toString epoch ++ "|" ++ toString index)
  { tag := (P.hmacSha256 mailboxSecret material).1, epoch, direction }

/-- `fetch_tags_for_mode`: the real tags, then the decoys of each. -/
def fetchTagsForMode (deriver : MailboxTagDeriver) (now : Int) (direction : String)
    (mode : PrivacyMode) (mailboxSecret : Bytes) (lookback : Nat := 2) :
    Except PyExc (List MailboxTag) := do
  let realTags ← deriver.candidateEpochs P now direction lookback
  if mode = .fast then return realTags
  else
    return realTags ++ realTags.flatMap fun real =>
      (List.range (decoyCount mode)).map fun index =>
        deriveDecoyTag P mailboxSecret direction real.epoch index

/-- `generate_dummy_ciphertext` with the bytes it draws: the payload, the nonce and the tag. -/
def generateDummyCiphertext (sizeClass : Nat) (payload : BytesN (sizeClass - 40))
    (nonce : BytesN 24) (tag : BytesN 16) : Bytes :=
  nonce.1 ++ payload.1 ++ tag.1

/-- A length-framed plaintext is found again in front of any filling. -/
theorem unpadPlaintext_framed {plaintext : Bytes} (fill : Bytes) (h : plaintext.length < 2 ^ 32) :
    unpadPlaintext (Bytes.ofNatBE 4 plaintext.length ++ (plaintext ++ fill)) = .ok plaintext := by
  have hlen : (Bytes.ofNatBE 4 plaintext.length).length = 4 := Bytes.length_ofNatBE _ _
  have hnat : Bytes.toNatBE (Bytes.ofNatBE 4 plaintext.length) = plaintext.length :=
    Bytes.toNatBE_ofNatBE (by norm_num; omega)
  have hshort : ¬ (Bytes.ofNatBE 4 plaintext.length ++ (plaintext ++ fill)).length < 4 := by
    simp
  have hfit : ¬ (Bytes.ofNatBE 4 plaintext.length ++ (plaintext ++ fill)).length
      < 4 + plaintext.length := by
    simp
  rw [unpadPlaintext, if_neg hshort, Bytes.take_append_of_length hlen, hnat]
  simp only [hfit, if_false, Bytes.drop_append_of_length hlen, List.take_left]

/-- A padding mode always selects a class. -/
theorem selectSizeClass_ne_none {n : Nat} {mode : PrivacyMode} (h : mode ≠ .fast) :
    selectSizeClass n mode ≠ none := by
  rw [selectSizeClass, if_neg h]
  cases mode with
  | fast => exact absurd rfl h
  | balanced => split <;> simp [sizeClasses]
  | high => split <;> simp [sizeClasses]

/-- The largest class. -/
theorem selectSizeClass_le {n classSize : Nat} {mode : PrivacyMode}
    (h : selectSizeClass n mode = some classSize) : classSize ≤ size32K := by
  have hmem : classSize ∈ sizeClasses mode := by
    unfold selectSizeClass at h
    by_cases hfast : mode = .fast
    · rw [if_pos hfast] at h
      cases h
    · rw [if_neg hfast] at h
      cases hfind : (sizeClasses mode).find? fun classSize => n + 4 ≤ classSize with
      | some k =>
          rw [hfind] at h
          cases h
          exact List.mem_of_find?_eq_some hfind
      | none =>
          rw [hfind] at h
          exact List.mem_of_getLast? h
  cases mode with
  | fast => cases hmem
  | balanced =>
      obtain rfl := List.mem_singleton.mp hmem
      decide
  | high =>
      have hsizes : ∀ k ∈ [size4K, size32K], k ≤ size32K := by decide
      exact hsizes classSize hmem

/-- What a padding mode makes: the length, the plaintext and a filling, in a class of at
most 32 KiB. -/
theorem padPlaintext_ok {plaintext padded : Bytes} {mode : PrivacyMode} {added : Nat}
    (hfast : mode ≠ .fast) (h : padPlaintext plaintext mode = .ok (padded, added)) :
    plaintext.length + 4 ≤ size32K
      ∧ ∃ fill, padded = Bytes.ofNatBE 4 plaintext.length ++ (plaintext ++ fill) := by
  unfold padPlaintext at h
  cases hclass : selectSizeClass plaintext.length mode with
  | none => exact absurd hclass (selectSizeClass_ne_none hfast)
  | some classSize =>
      rw [hclass] at h
      by_cases hbig : 2 ^ 32 ≤ plaintext.length
      · simp only [if_pos hbig, reduceCtorEq] at h
      · by_cases hfit : classSize < (Bytes.ofNatBE 4 plaintext.length ++ plaintext).length
        · simp only [if_neg hbig, if_pos hfit, reduceCtorEq] at h
        · simp only [if_neg hbig, if_neg hfit, Except.ok.injEq, Prod.mk.injEq] at h
          have hle := selectSizeClass_le hclass
          rw [List.length_append, Bytes.length_ofNatBE] at hfit
          exact ⟨by omega, _, by rw [← h.1, List.append_assoc]⟩

/-- What unpadding gives back is what was padded, when both sides pad or neither does. -/
theorem decodePaddedPlaintext_padPlaintext {plaintext padded : Bytes} {mode mode' : PrivacyMode}
    {added : Nat} (hmode : mode = .fast ↔ mode' = .fast)
    (h : padPlaintext plaintext mode = .ok (padded, added)) :
    decodePaddedPlaintext padded mode' = .ok plaintext := by
  by_cases hfast : mode = .fast
  · rw [decodePaddedPlaintext, if_pos (hmode.mp hfast)]
    subst hfast
    simp only [padPlaintext, selectSizeClass, if_true, Except.ok.injEq, Prod.mk.injEq] at h
    rw [h.1]
  · rw [decodePaddedPlaintext, if_neg (mt hmode.mpr hfast)]
    obtain ⟨hlen, fill, rfl⟩ := padPlaintext_ok hfast h
    have hbound : size32K < 2 ^ 32 := by decide
    exact unpadPlaintext_framed fill (by omega)

end Yakr
