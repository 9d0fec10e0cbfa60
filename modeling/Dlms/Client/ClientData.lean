import Dlms.Client.DlmsClient
import Dlms.Codec.Growing

/-!
# The data of a client

A caller's value is encoded before it is known how large it is. The client tries with a small
buffer and doubles it as long as the encoder finds it too small; every other failure is the
caller's, and the loop ends with it.

The encoder never takes the one for the other. A value has one list of bytes, written into every
buffer that holds it, or it has a reason to be refused, given from every buffer large enough to
come to the part that is wrong. So the loop ends with the bytes or with the reason, as long as
there is memory for a buffer of that size.

## Main definitions

* `mapDataStatus`: What a failure of the codec is to a caller.
* `encodeData`: The loop.
* `EncodesAs`, `RefusedWith`: What the encoder does with a value in every buffer.
* `EndsWith`: What the loop ends with in every memory.

## Theorems

* `encodesAs_or_refusedWith`: It is one of the two.
* `encodeData_settled`: What the loop ends with, for every value and every memory.
-/

namespace Dlms

namespace Client

open Codec
open Apdu (ApduStatus Bytes DlmsData encodeDlmsData)

def mapDataStatus (status : ApduStatus) : ClientStatus :=
  match status with
  | .invalidArgument
  | .invalidTag
  | .invalidData
  | .invalidLength
  | .invalidBer
  | .invalidAxdr
  | .invalidChoice
  | .invalidInvokeId
  | .invalidDescriptor
  | .invalidConformance
  | .needMoreData
  | .unsupportedDataType
  | .unsupportedApdu
  | .unsupportedAcseField
  | .unsupportedXdlmsService
  | .unsupportedFeature => .invalidArgument
  | .outputBufferTooSmall
  | .pduTooLarge
  | .internalError => .internalError

/-- Octets of the first buffer. -/
def firstBufferSize : Nat := 16

theorem firstBufferSize_pos : 0 < firstBufferSize := by decide

/-- Encode a value of any size. Nothing is returned when the next buffer is more than the memory
    holds: the allocation throws then. -/
def encodeData (memory : Nat) (data : DlmsData) : Option (Except ClientStatus Bytes) :=
  (grow (fun size => runEmitter size (encodeDlmsData data)) .outputBufferTooSmall memory
    firstBufferSize firstBufferSize_pos).map (·.mapError mapDataStatus)

/-! ### The encoder in every buffer -/

/-- The value has these bytes in every buffer that holds them, and a smaller one is too small. -/
def EncodesAs (data : DlmsData) (bytes : Bytes) : Prop :=
  ∀ capacity, runEmitter capacity (encodeDlmsData data) =
    if bytes.length ≤ capacity then .ok bytes else .error .outputBufferTooSmall

/-- The value is refused in every buffer that the encoder comes to the wrong part in, and a
    smaller one is too small. -/
def RefusedWith (data : DlmsData) (size : Nat) (status : ApduStatus) : Prop :=
  status ≠ .outputBufferTooSmall ∧ ∀ capacity, runEmitter capacity (encodeDlmsData data) =
    .error (if size ≤ capacity then status else .outputBufferTooSmall)

theorem encodesAs_or_refusedWith (data : DlmsData) :
    (∃ bytes, EncodesAs data bytes) ∨ ∃ size status, RefusedWith data size status := by
  rcases Apdu.settled_encodeDlmsData data with ⟨bytes, hwrites⟩ | ⟨size, status, hstatus, hrefuses⟩
  · exact Or.inl ⟨bytes, fun capacity => runEmitter_of_emits _ capacity _ bytes hwrites⟩
  · exact Or.inr ⟨size, status, hstatus, fun capacity =>
      runEmitter_of_refuses _ status capacity _ size hrefuses⟩

/-! ### The loop -/

/-- The loop ends with the result as soon as the memory holds the first buffer and one of twice
    the size. It ends with the result or with no buffer to be had, and with the result exactly when
    one of its buffers is large enough. -/
def EndsWith (data : DlmsData) (size : Nat) (result : Except ClientStatus Bytes) : Prop :=
  (∀ memory, firstBufferSize ≤ memory → 2 * size ≤ memory →
      encodeData memory data = some result) ∧
    ∀ memory, (encodeData memory data = some result ↔ Enough size memory firstBufferSize) ∧
      (encodeData memory data = none ↔ ¬ Enough size memory firstBufferSize)

/-- Where the encoder settles at a size, the loop ends with what it settles on. -/
theorem endsWith_of_settledAt (data : DlmsData) (size : Nat) (result : Except ApduStatus Bytes)
    (hsettled : SettledAt (fun capacity => runEmitter capacity (encodeDlmsData data))
      .outputBufferTooSmall size result)
    (hresult : result ≠ .error .outputBufferTooSmall) :
    EndsWith data size (result.mapError mapDataStatus) := by
  have hnone (memory : Nat) :
      encodeData memory data = none ↔ ¬ Enough size memory firstBufferSize := by
    rw [encodeData, Option.map_eq_none_iff]
    exact grow_eq_none_iff _ _ size result hsettled hresult memory _ firstBufferSize_pos
  have hsome (memory : Nat) (h : Enough size memory firstBufferSize) :
      encodeData memory data = some (result.mapError mapDataStatus) := by
    rw [encodeData,
      (grow_eq_some_iff _ _ size result hsettled hresult memory _ firstBufferSize_pos).mpr h,
      Option.map_some]
  refine ⟨fun memory hfirst htwice => ?_, fun memory => ⟨⟨fun h => ?_, hsome memory⟩, hnone memory⟩⟩
  · exact hsome memory (enough_of_le size memory _ firstBufferSize_pos hfirst htwice)
  · -- Without a large enough buffer the loop ends with none, and not with the result.
    by_contra hshort
    rw [(hnone memory).mpr hshort] at h
    cases h

/-- Every value has its bytes in every buffer that holds them, or it is refused for a reason that
    is not the room. The client's loop ends with the bytes or with the reason. -/
theorem encodeData_settled (data : DlmsData) :
    (∃ bytes, EncodesAs data bytes ∧ EndsWith data bytes.length (.ok bytes)) ∨
      ∃ size status, RefusedWith data size status ∧
        EndsWith data size (.error (mapDataStatus status)) := by
  rcases encodesAs_or_refusedWith data with ⟨bytes, hencodes⟩ | ⟨size, status, hrefused⟩
  · have hends := endsWith_of_settledAt data bytes.length (.ok bytes) hencodes
      (by simp)
    exact Or.inl ⟨bytes, hencodes, hends⟩
  · -- A refusal settles as well: the size is where the encoder comes to the wrong part.
    have hsettled : SettledAt (fun capacity => runEmitter capacity (encodeDlmsData data))
        .outputBufferTooSmall size (.error status) := by
      intro capacity
      dsimp only
      rw [hrefused.2 capacity, apply_ite Except.error]
    have hends := endsWith_of_settledAt data size (.error status) hsettled
      (by simpa only [ne_eq, Except.error.injEq] using hrefused.1)
    exact Or.inr ⟨size, status, hrefused, hends⟩

/-- A date of the wrong size is refused in a buffer with room for it, so it has no size from which
    on it is encoded. -/
theorem not_encodesAs_emptyDate :
    runEmitter 64 (encodeDlmsData { type := .date }) = .error .invalidLength ∧
      ¬ ∃ size bytes, ∀ capacity, runEmitter capacity (encodeDlmsData { type := .date }) =
        if size ≤ capacity then .ok bytes else .error .outputBufferTooSmall := by
  have hrefuses : runEmitter 64 (encodeDlmsData { type := .date }) = .error .invalidLength := by
    unfold encodeDlmsData Apdu.encodeDlmsDataValue
    rfl
  refine ⟨hrefuses, ?_⟩
  rintro ⟨size, bytes, h⟩
  have hshort := h 64
  rw [hrefuses] at hshort
  split at hshort
  · cases hshort
  · exact absurd (Except.error.inj hshort) (by decide)

end Client

end Dlms
