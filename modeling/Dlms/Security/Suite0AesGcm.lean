import Mathlib.Data.List.Nodup
import Dlms.Security.Types

/-!
# AES-GCM of suite 0

The cipher itself is a library outside the source: a pair of functions here,
each of which may fail. Around it the source checks the key, the nonce and the
sizes, and sizes the output by the last count the library gave it. When there
is no input that count is the one of the associated data, so the output of an
empty input is as many zero bytes.

## Main definitions

* `Aes128Gcm`: The cipher, and `Aes128Gcm.ofTable` one known on some inputs.
* `Suite0AesGcm.sealInput`, `Suite0AesGcm.openInput`: What the source makes of
  it.
* `Aes128Gcm.Lawful`: What the source relies on.
* `Aes128Gcm.TakesEveryNonce`: It is not up to the nonce whether an input is sealed.

## Theorems

* `openInput_sealInput`: What is sealed opens again, unless it is empty.
* `ne_nil_of_openInput`: Nothing opens as an empty plain text.
-/

namespace Dlms

namespace Security

open Apdu (Bytes)

/-- AES-128-GCM: from a key, a nonce, associated data and an input to a cipher
    text and a tag, and back when the tag is right. -/
structure Aes128Gcm where
  encrypt : Bytes → Bytes → Bytes → Bytes → Option (Bytes × Bytes)
  decrypt : Bytes → Bytes → Bytes → Bytes → Bytes → Option Bytes

/-- One input of the cipher with its output. -/
structure AesGcmEntry where
  key : Bytes
  nonce : Bytes
  additionalAuthenticatedData : Bytes
  plainText : Bytes
  cipherText : Bytes
  tag : Bytes

/-- A cipher known on some inputs only. -/
def Aes128Gcm.ofTable (table : List AesGcmEntry) : Aes128Gcm where
  encrypt := fun key nonce aad input =>
    (table.find? fun entry => entry.key == key && entry.nonce == nonce &&
      entry.additionalAuthenticatedData == aad && entry.plainText == input).map
        fun entry => (entry.cipherText, entry.tag)
  decrypt := fun key nonce aad input tag =>
    (table.find? fun entry => entry.key == key && entry.nonce == nonce &&
      entry.additionalAuthenticatedData == aad && entry.cipherText == input &&
        entry.tag == tag).map fun entry => entry.plainText

structure AesGcmParameters where
  nonce : Bytes
  additionalAuthenticatedData : Bytes
  input : Bytes
  deriving DecidableEq, Repr

namespace Suite0AesGcm

def nonceSize : Nat := 12

def tagSize : Nat := 16

def validateAesGcmInput (key : SecurityKey) (parameters : AesGcmParameters) :
    Except SecurityStatus Unit :=
  match validateSecurityKey .suite0 key with
  | .error status => .error status
  | .ok () => if parameters.nonce.length ≠ nonceSize then .error .invalidArgument else .ok ()

def sizeFitsInt (size : Nat) : Bool := size ≤ 2 ^ 31 - 1

/-- The sizes the library's counters hold. -/
def parametersFitInt (parameters : AesGcmParameters) : Bool :=
  sizeFitsInt parameters.input.length && sizeFitsInt parameters.additionalAuthenticatedData.length

/-- The output as the last count of the library sizes it. -/
def sizedOutput (parameters : AesGcmParameters) (output : Bytes) : Bytes :=
  if parameters.input = [] then
    List.replicate parameters.additionalAuthenticatedData.length 0
  else
    output

variable (cipher : Aes128Gcm)

/-- A cipher text and its tag. -/
def sealInput (key : SecurityKey) (parameters : AesGcmParameters) :
    Except SecurityStatus (Bytes × Bytes) :=
  match validateAesGcmInput key parameters with
  | .error status => .error status
  | .ok () =>
      if !parametersFitInt parameters then
        .error .invalidArgument
      else
        match cipher.encrypt key.bytes parameters.nonce parameters.additionalAuthenticatedData
            parameters.input with
        | none => .error .cipherFailed
        | some (cipherText, tag) => .ok (sizedOutput parameters cipherText, tag)

/-- The plain text of a cipher text whose tag is right. -/
def openInput (key : SecurityKey) (parameters : AesGcmParameters) (tag : Bytes) :
    Except SecurityStatus Bytes :=
  match validateAesGcmInput key parameters with
  | .error status => .error status
  | .ok () =>
      if !parametersFitInt parameters then
        .error .invalidArgument
      else
        match cipher.decrypt key.bytes parameters.nonce parameters.additionalAuthenticatedData
            parameters.input tag with
        | none => .error .decipherFailed
        | some plainText => .ok (sizedOutput parameters plainText)

end Suite0AesGcm

/-! ### What the cipher does -/

/-- What the source relies on: opening inverts sealing under one key, nonce and
    associated data, the cipher text is as long as the plain text, and the tag
    fills the array that the source has for it. -/
structure Aes128Gcm.Lawful (cipher : Aes128Gcm) : Prop where
  opens : ∀ key nonce aad plainText cipherText tag,
    cipher.encrypt key nonce aad plainText = some (cipherText, tag) →
      cipher.decrypt key nonce aad cipherText tag = some plainText
  encryptLength : ∀ key nonce aad plainText cipherText tag,
    cipher.encrypt key nonce aad plainText = some (cipherText, tag) →
      cipherText.length = plainText.length ∧ tag.length = Suite0AesGcm.tagSize
  decryptLength : ∀ key nonce aad cipherText tag plainText,
    cipher.decrypt key nonce aad cipherText tag = some plainText →
      plainText.length = cipherText.length

/-- A cipher that seals an input with one nonce of its size seals it with any. -/
def Aes128Gcm.TakesEveryNonce (cipher : Aes128Gcm) : Prop :=
  ∀ key nonce nonce' aad plainText, nonce.length = Suite0AesGcm.nonceSize →
    nonce'.length = Suite0AesGcm.nonceSize →
      (cipher.encrypt key nonce aad plainText).isSome →
        (cipher.encrypt key nonce' aad plainText).isSome

/-- A cipher known on some inputs is lawful when no nonce among them is used
    twice. -/
theorem Aes128Gcm.lawful_ofTable (table : List AesGcmEntry)
    (hnonces : (table.map AesGcmEntry.nonce).Nodup)
    (hlengths : ∀ entry ∈ table, entry.cipherText.length = entry.plainText.length ∧
      entry.tag.length = Suite0AesGcm.tagSize) : (Aes128Gcm.ofTable table).Lawful where
  opens := by
    intro key nonce aad plainText cipherText tag hsealed
    simp only [ofTable, Option.map_eq_some_iff, Prod.mk.injEq] at hsealed ⊢
    rcases hsealed with ⟨entry, hfound, rfl, rfl⟩
    have hfits := List.find?_some hfound
    have hmem := List.mem_of_find?_eq_some hfound
    simp only [Bool.and_eq_true, beq_iff_eq] at hfits
    rcases hfits with ⟨⟨⟨hkey, hnonce⟩, haad⟩, hplain⟩
    cases hopened : table.find? fun other => other.key == key && other.nonce == nonce &&
        other.additionalAuthenticatedData == aad && other.cipherText == entry.cipherText &&
          other.tag == entry.tag with
    | none =>
        have hnot := List.find?_eq_none.mp hopened entry hmem
        simp only [hkey, hnonce, haad, beq_self_eq_true, Bool.and_self, not_true_eq_false]
          at hnot
    | some other =>
        -- The entry that opens has the nonce of the one that sealed, so it is that one.
        have hother := List.find?_some hopened
        simp only [Bool.and_eq_true, beq_iff_eq] at hother
        have hsame : other = entry := List.inj_on_of_nodup_map hnonces
          (List.mem_of_find?_eq_some hopened) hmem (hother.1.1.1.2.trans hnonce.symm)
        exact ⟨other, rfl, by rw [hsame, hplain]⟩
  encryptLength := by
    intro key nonce aad plainText cipherText tag hsealed
    simp only [ofTable, Option.map_eq_some_iff, Prod.mk.injEq] at hsealed
    rcases hsealed with ⟨entry, hfound, rfl, rfl⟩
    have hfits := List.find?_some hfound
    simp only [Bool.and_eq_true, beq_iff_eq] at hfits
    rw [← hfits.2]
    exact hlengths entry (List.mem_of_find?_eq_some hfound)
  decryptLength := by
    intro key nonce aad cipherText tag plainText hopened
    simp only [ofTable, Option.map_eq_some_iff] at hopened
    rcases hopened with ⟨entry, hfound, rfl⟩
    have hfits := List.find?_some hfound
    simp only [Bool.and_eq_true, beq_iff_eq] at hfits
    rw [← hfits.1.2]
    exact (hlengths entry (List.mem_of_find?_eq_some hfound)).1.symm

namespace Suite0AesGcm

variable (cipher : Aes128Gcm)

/-- What is sealed opens again, unless it is empty. -/
theorem openInput_sealInput (hlawful : cipher.Lawful) (key : SecurityKey)
    (parameters : AesGcmParameters) (cipherText tag : Bytes) (hinput : parameters.input ≠ [])
    (hsealed : sealInput cipher key parameters = .ok (cipherText, tag)) :
    openInput cipher key { parameters with input := cipherText } tag = .ok parameters.input ∧
      tag.length = tagSize := by
  unfold sealInput at hsealed
  cases hvalid : validateAesGcmInput key parameters with
  | error status => simp [hvalid] at hsealed
  | ok valid =>
      simp only [hvalid] at hsealed
      by_cases hfit : (!parametersFitInt parameters) = true
      · simp [hfit] at hsealed
      · simp only [hfit, Bool.false_eq_true, if_false] at hsealed
        cases hencrypted : cipher.encrypt key.bytes parameters.nonce
            parameters.additionalAuthenticatedData parameters.input with
        | none => simp [hencrypted] at hsealed
        | some texts =>
            rcases texts with ⟨encrypted, encryptedTag⟩
            simp only [hencrypted, sizedOutput, hinput, if_false, Except.ok.injEq,
              Prod.mk.injEq] at hsealed
            rcases hsealed with ⟨rfl, rfl⟩
            rcases hlawful.encryptLength _ _ _ _ _ _ hencrypted with ⟨hlength, htag⟩
            -- The cipher text is as long as the plain text, so every check goes the same way.
            have hnonempty : encrypted ≠ [] := by
              intro hempty
              rw [hempty] at hlength
              exact hinput (List.eq_nil_of_length_eq_zero hlength.symm)
            have hvalid' : validateAesGcmInput key { parameters with input := encrypted } =
                .ok () := hvalid
            have hfit' : (!parametersFitInt { parameters with input := encrypted }) = false := by
              unfold parametersFitInt at hfit ⊢
              rw [hlength]
              exact Bool.eq_false_iff.mpr hfit
            refine ⟨?_, htag⟩
            unfold openInput
            simp [hvalid', hfit', hlawful.opens _ _ _ _ _ _ hencrypted, sizedOutput, hnonempty]

/-- A cipher text that is not empty does not open as an empty plain text. -/
theorem ne_nil_of_openInput (hlawful : cipher.Lawful) (key : SecurityKey)
    (parameters : AesGcmParameters) (tag plainText : Bytes) (hinput : parameters.input ≠ [])
    (hopened : openInput cipher key parameters tag = .ok plainText) : plainText ≠ [] := by
  unfold openInput at hopened
  cases hvalid : validateAesGcmInput key parameters with
  | error status => simp [hvalid] at hopened
  | ok valid =>
      simp only [hvalid] at hopened
      by_cases hfit : (!parametersFitInt parameters) = true
      · simp [hfit] at hopened
      · simp only [hfit, Bool.false_eq_true, if_false] at hopened
        cases hdecrypted : cipher.decrypt key.bytes parameters.nonce
            parameters.additionalAuthenticatedData parameters.input tag with
        | none => simp [hdecrypted] at hopened
        | some decrypted =>
            simp only [hdecrypted, sizedOutput, hinput, if_false, Except.ok.injEq] at hopened
            have hlength := hlawful.decryptLength _ _ _ _ _ _ hdecrypted
            rw [← hopened]
            intro hempty
            rw [hempty] at hlength
            exact hinput (List.eq_nil_of_length_eq_zero hlength.symm)

end Suite0AesGcm

end Security

end Dlms
