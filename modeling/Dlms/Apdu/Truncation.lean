import Dlms.Apdu.DataRange

/-!
# Numbers that do not fit

A value is always encoded, as long as its dates and times have their size: the
encoder does not look at the octets of a number above those its type has. So it is
decoded again when there is nothing in them.

## Main definitions

* `RoundTrips`: A value that is encoded is decoded again.

## Theorems

* `dated_of_writes`: What is encoded has dates and times of their size.
* `roundTrips_iff`: When a value is decoded again.
* `not_roundTrips_unsigned`: A number of one octet that is 256.
-/

namespace Dlms

namespace Apdu

open Codec

/-- A value that is encoded, into whatever buffer, is decoded again, by a decoder
    that goes deep enough. -/
def RoundTrips (value : DlmsData) : Prop :=
  ∀ capacity bytes, runEmitter capacity (encodeDlmsData value) = .ok bytes →
    ∀ maximumDepth, nesting value ≤ maximumDepth →
      decodeDlmsData bytes maximumDepth = .ok (used value)

/-! ### What is refused -/

theorem length_of_writeFixedBytes (bytes : Bytes) (size : Nat) (output : Bytes)
    (h : Writes (writeFixedBytes bytes size) output) : bytes.length = size := by
  by_contra hsize
  have hrun := h (Sink.empty output.length)
  rw [writeFixedBytes, if_neg hsize, dif_pos (by
    rw [Sink.empty, Sink.room, List.length_nil, Nat.sub_zero])] at hrun
  exact absurd hrun (by simp [Emitter.fail])

/-- Where elements are written, each of them is. -/
theorem writes_of_mem (elements : List DlmsData) (output : Bytes)
    (h : Writes (encodeElements elements) output) (element : DlmsData)
    (hmem : element ∈ elements) : ∃ bytes, Writes (encodeDlmsDataValue element) bytes := by
  induction elements generalizing output with
  | nil => exact absurd hmem List.not_mem_nil
  | cons first rest ih =>
      unfold encodeElements at h
      rcases emits_parts _ _ _ _ (uniform_encodeDlmsDataValue first) (uniform_encodeElements rest)
        h with ⟨hfirst, later, hrest⟩
      rcases List.mem_cons.mp hmem with rfl | hlater
      · exact hfirst
      · exact ih later hrest hlater

/-- What is written has dates of the right size. -/
theorem dated_of_writes (value : DlmsData) (output : Bytes)
    (h : Writes (encodeDlmsDataValue value) output) : Everywhere Dated value := by
  induction value using induction_elements generalizing output with
  | hstep value ih =>
      rcases value with ⟨type, booleanValue, signedValue, unsignedValue, bytes, elements⟩
      unfold encodeDlmsDataValue at h
      rw [everywhere_iff]
      have hsequence : Writes (do
          writeU8 type.tag
          writeAxdrLength elements.length
          encodeElements elements) output →
          ∀ element ∈ elements, Everywhere Dated element := by
        intro hwrites element helement
        have hlength := uniform_of_emits _ _ _ (writes_writeAxdrLength elements.length)
        rcases emits_parts _ _ _ _ (uniform_writeBytes _)
          (uniform_bind _ _ _ hlength (uniform_encodeElements elements)) hwrites with
          ⟨-, body, hbody⟩
        rcases emits_parts _ _ _ _ hlength (uniform_encodeElements elements) hbody with
          ⟨-, later, hlater⟩
        rcases writes_of_mem elements later hlater element helement with ⟨written, hwritten⟩
        exact ih element helement written hwritten
      have hfixed : ∀ size, Writes (do writeU8 type.tag; writeFixedBytes bytes size) output →
          bytes.length = size := by
        intro size hwrites
        rcases emits_parts _ _ _ _ (uniform_writeBytes _) (uniform_writeFixedBytes bytes size)
          hwrites with ⟨-, body, hbody⟩
        exact length_of_writeFixedBytes bytes size body hbody
      unfold Dated
      cases type <;> simp only [fixedOctets, hasElements, reduceCtorEq, false_imp_iff,
        Option.some.injEq, forall_eq', implies_true, Bool.false_eq_true, true_and, and_true,
        forall_const]
      case array => exact hsequence h
      case structureData => exact hsequence h
      case dateTime => exact hfixed _ h
      case date => exact hfixed _ h
      case time => exact hfixed _ h

/-! ### The value that comes back -/

/-- A value is decoded again exactly when all its numbers fit their types, unless it
    is not encoded at all, for a date or a time of another size. -/
theorem roundTrips_iff (value : DlmsData) (hsized : Everywhere Sized value) :
    RoundTrips value ↔ (Everywhere Dated value → Everywhere InWidth value) := by
  constructor
  · intro hround hdated
    rcases runEmitter_of_conveys _ _ _ _
      (conveyed_narrow value hsized hdated (nesting value) (Nat.le_refl _)) with
      ⟨bytes, hrun, hread⟩
    have hwritten := hrun bytes.length
    rw [if_pos (Nat.le_refl _)] at hwritten
    have hdecoded := hround bytes.length bytes hwritten (nesting value) (Nat.le_refl _)
    have hnarrow := (decodeDlmsData_eq_ok_iff _ _ _).mpr
      (accepts_of_decodes (decodeDlmsDataFromReader (nesting value)) bytes _ hread)
    exact (narrow_eq_used_iff value).mp (Except.ok.inj (hnarrow.symm.trans hdecoded))
  · intro hwidth capacity bytes hrun maximumDepth hdepth
    have hwrites := emits_of_uniform _ _ _ _ (uniform_encodeDlmsData value) hrun
    have hdated := dated_of_writes value bytes hwrites
    have hconveyed := conveyed_narrow value hsized hdated maximumDepth hdepth
    rw [(narrow_eq_used_iff value).mpr (hwidth hdated)] at hconveyed
    rcases hconveyed with ⟨written, hemits, hdecodes⟩
    rw [emits_unique _ _ bytes written hwrites hemits]
    exact (decodeDlmsData_eq_ok_iff _ _ _).mpr (accepts_of_decodes _ _ _ hdecodes)

theorem roundTrips_iff_scaledReading :
    RoundTrips scaledReading ↔
      (Everywhere Dated scaledReading → Everywhere InWidth scaledReading) :=
  roundTrips_iff scaledReading (fits_of_inRange 3 scaledReading inRange_scaledReading).sized

/-- The number 256 in one octet, which is decoded to 0. -/
theorem not_roundTrips_unsigned :
    ¬∀ value, Everywhere Sized value → RoundTrips value := by
  intro hall
  have hround := hall { type := .unsigned, unsignedValue := 256 }
    (everywhere_of_leaf _ _ rfl ⟨by decide, by decide⟩)
  have hdecoded := hround 2 [0x11, 0x00] (by unfold encodeDlmsData encodeDlmsDataValue; rfl) 1
    (by unfold nesting; decide)
  have hnumber := congrArg (Except.map DlmsData.unsignedValue) hdecoded
  unfold used renumber at hnumber
  exact absurd hnumber (by decide)

end Apdu

end Dlms
