import Dlms.Apdu.Narrow

/-!
# Values that survive their encoding

The record of a DLMS value can hold more than its encoding: a slot its type
does not use, a number too wide for its type, a date of the wrong size. The
encoder keeps the low octets of a number and ignores the other slots, so such
a value does not come back. `InRange` describes the values that hold nothing
but what their type asks for, nested no deeper than the decoder goes.

## Main definitions

* `InRange`: A value within the range of its type and the depth.

## Theorems

* `fits_of_inRange`: What that means for all that is nested in a value.
* `conveyed_encodeDlmsDataValue`: Every value in range is conveyed.
* `decodeDlmsData_encodeDlmsData`: What a caller of the two codecs sees.
-/

namespace Dlms

namespace Apdu

open Codec

/-! ### The range of a value -/

/-- A value whose type fills one slot, within the range of the type, and whose
    elements nest no deeper than the first argument. Lengths are those that the
    machine's size type holds. -/
inductive InRange : Nat → DlmsData → Prop where
  | nullData (depth : Nat) : InRange (depth + 1) { type := .nullData }
  | boolean (depth : Nat) (booleanValue : Bool) :
      InRange (depth + 1) { type := .boolean, booleanValue }
  | signed (depth : Nat) (type : DlmsDataType) (byteCount : Nat) (signedValue : Int64)
      (htype : signedOctets type = some byteCount) (hrange : InSignedRange byteCount signedValue) :
      InRange (depth + 1) { type, signedValue }
  | unsigned (depth : Nat) (type : DlmsDataType) (byteCount : Nat) (unsignedValue : UInt64)
      (htype : unsignedOctets type = some byteCount)
      (hrange : unsignedValue.toNat < 256 ^ byteCount) :
      InRange (depth + 1) { type, unsignedValue }
  | octetString (depth : Nat) (bytes : Bytes) (hsize : bytes.length < 256 ^ sizeOctets) :
      InRange (depth + 1) { type := .octetString, bytes }
  | fixed (depth : Nat) (type : DlmsDataType) (bytes : Bytes)
      (htype : fixedOctets type = some bytes.length) : InRange (depth + 1) { type, bytes }
  | sequence (depth : Nat) (type : DlmsDataType) (elements : List DlmsData)
      (htype : type = .array ∨ type = .structureData)
      (hcount : elements.length < 256 ^ sizeOctets)
      (helements : ∀ element ∈ elements, InRange depth element) :
      InRange (depth + 1) { type, elements }

/-- What the range of a value says of all that is nested in it. -/
structure Fitting (depth : Nat) (value : DlmsData) : Prop where
  sized : Everywhere Sized value
  dated : Everywhere Dated value
  inWidth : Everywhere InWidth value
  nested : nesting value ≤ depth
  unused : used value = value

theorem sizes_pos : 0 < 256 ^ sizeOctets := by decide

/-- A type without numbers has none that are too wide. -/
theorem inWidth_of_none (value : DlmsData) (hsigned : signedOctets value.type = none)
    (hunsigned : unsignedOctets value.type = none) : InWidth value where
  left := fun size hsize => absurd (hsigned.symm.trans hsize) (Option.some_ne_none size).symm
  right := fun size hsize => absurd (hunsigned.symm.trans hsize) (Option.some_ne_none size).symm

theorem dated_of_none (value : DlmsData) (hfixed : fixedOctets value.type = none) :
    Dated value :=
  fun size hsize => absurd (hfixed.symm.trans hsize) (Option.some_ne_none size).symm

/-- A leaf has no elements that could ask for more. -/
theorem fitting_of_leaf (depth : Nat) (value : DlmsData) (hleaf : hasElements value.type = false)
    (hsized : Sized value) (hdated : Dated value) (hwidth : InWidth value)
    (hunused : used value = value) : Fitting (depth + 1) value where
  sized := everywhere_of_leaf _ value hleaf hsized
  dated := everywhere_of_leaf _ value hleaf hdated
  inWidth := everywhere_of_leaf _ value hleaf hwidth
  nested := by
    rcases value with ⟨type, booleanValue, signedValue, unsignedValue, bytes, elements⟩
    unfold nesting
    rw [if_neg (by rw [hleaf]; exact Bool.false_ne_true)]
    exact Nat.le_add_left _ _
  unused := hunused

/-- A sequence fits when its elements do, one level deeper. -/
theorem fitting_of_elements (depth : Nat) (type : DlmsDataType) (elements : List DlmsData)
    (htype : type = .array ∨ type = .structureData) (hcount : elements.length < 256 ^ sizeOctets)
    (helements : ∀ element ∈ elements, Fitting depth element) :
    Fitting (depth + 1) { type, elements } := by
  have hsequence : hasElements type = true := by
    rcases htype with rfl | rfl
    · rfl
    · rfl
  have hunsigned : unsignedOctets type = none ∧ signedOctets type = none ∧
      fixedOctets type = none := by
    rcases htype with rfl | rfl
    · exact ⟨rfl, rfl, rfl⟩
    · exact ⟨rfl, rfl, rfl⟩
  rcases hunsigned with ⟨hunsigned, hsigned, hfixed⟩
  refine ⟨?_, ?_, ?_, ?_, ?_⟩
  · exact (everywhere_iff _ _).mpr ⟨⟨sizes_pos, hcount⟩, fun _ element helement =>
      (helements element helement).sized⟩
  · exact (everywhere_iff _ _).mpr ⟨dated_of_none _ hfixed, fun _ element helement =>
      (helements element helement).dated⟩
  · exact (everywhere_iff _ _).mpr ⟨inWidth_of_none _ hsigned hunsigned, fun _ element helement =>
      (helements element helement).inWidth⟩
  · unfold nesting
    rw [if_pos hsequence]
    refine Nat.succ_le_succ ?_
    induction elements with
    | nil =>
        unfold nestingElements
        exact Nat.zero_le _
    | cons first rest ih =>
        unfold nestingElements
        refine Nat.max_le.mpr ⟨(helements first List.mem_cons_self).nested, ih ?_ ?_⟩
        · rw [List.length_cons] at hcount
          omega
        · exact fun element helement => helements element (List.mem_cons_of_mem _ helement)
  · have hsame : elements.map (renumber (fun _ number => number) fun _ number => number) =
        elements := by
      have hid := List.map_congr_left fun element helement => (helements element helement).unused
      exact hid.trans (List.map_id' elements)
    unfold used renumber
    rcases htype with rfl | rfl
    · simp [renumberElements_eq_map, hsame]
    · simp [renumberElements_eq_map, hsame]

theorem fits_of_inRange (depth : Nat) (value : DlmsData) (h : InRange depth value) :
    Fitting depth value := by
  induction h with
  | nullData depth =>
      exact fitting_of_leaf depth _ rfl ⟨sizes_pos, sizes_pos⟩ (dated_of_none _ rfl)
        (inWidth_of_none _ rfl rfl) (by unfold used renumber; rfl)
  | boolean depth booleanValue =>
      exact fitting_of_leaf depth _ rfl ⟨sizes_pos, sizes_pos⟩ (dated_of_none _ rfl)
        (inWidth_of_none _ rfl rfl) (by unfold used renumber; rfl)
  | signed depth type byteCount signedValue htype hrange =>
      have hwidth : InWidth { type, signedValue } := by
        refine ⟨fun other hother => ?_, fun other hother => ?_⟩
        · rw [Option.some.inj (hother.symm.trans htype)]
          exact hrange
        · cases type <;> simp only [signedOctets, unsignedOctets, reduceCtorEq] at htype hother
      cases type <;> simp only [signedOctets, reduceCtorEq] at htype <;>
        exact fitting_of_leaf depth _ rfl ⟨sizes_pos, sizes_pos⟩ (dated_of_none _ rfl) hwidth
          (by unfold used renumber; rfl)
  | unsigned depth type byteCount unsignedValue htype hrange =>
      have hwidth : InWidth { type, unsignedValue } := by
        refine ⟨fun other hother => ?_, fun other hother => ?_⟩
        · cases type <;> simp only [signedOctets, unsignedOctets, reduceCtorEq] at htype hother
        · rw [Option.some.inj (hother.symm.trans htype)]
          exact hrange
      cases type <;> simp only [unsignedOctets, reduceCtorEq] at htype <;>
        exact fitting_of_leaf depth _ rfl ⟨sizes_pos, sizes_pos⟩ (dated_of_none _ rfl) hwidth
          (by unfold used renumber; rfl)
  | octetString depth bytes hsize =>
      exact fitting_of_leaf depth _ rfl ⟨hsize, sizes_pos⟩ (dated_of_none _ rfl)
        (inWidth_of_none _ rfl rfl) (by unfold used renumber; rfl)
  | fixed depth type bytes htype =>
      have hdated : Dated { type, bytes } := fun size hsize =>
        Option.some.inj (htype.symm.trans hsize)
      have hbytes : bytes.length < 256 ^ sizeOctets := by
        cases type <;> simp only [fixedOctets, reduceCtorEq, Option.some.injEq] at htype <;>
          rw [← htype] <;> decide
      cases type <;> simp only [fixedOctets, reduceCtorEq] at htype <;>
        exact fitting_of_leaf depth _ rfl ⟨hbytes, sizes_pos⟩ hdated
          (inWidth_of_none _ rfl rfl) (by unfold used renumber; rfl)
  | sequence depth type elements htype hcount helements ih =>
      exact fitting_of_elements depth type elements htype hcount ih

/-- Every value within its range is conveyed: its low octets are all there is to it. -/
theorem conveyed_encodeDlmsDataValue (depth : Nat) (value : DlmsData) (h : InRange depth value) :
    Conveyed (encodeDlmsDataValue value) (decodeDlmsDataValue depth) value := by
  have hfits := fits_of_inRange depth value h
  have hconveyed := conveyed_narrow value hfits.sized hfits.dated depth hfits.nested
  rwa [(narrow_eq_used_iff value).mpr hfits.inWidth, hfits.unused] at hconveyed

theorem conveyed_encodeDlmsData (depth : Nat) (value : DlmsData) (h : InRange depth value) :
    Conveyed (encodeDlmsData value) (decodeDlmsDataFromReader depth) value :=
  conveyed_encodeDlmsDataValue depth value h

/-- A value within its range is encoded as one list of bytes, into any buffer
    that has room for it. Whatever follows these bytes, the decoder consumes
    exactly them and returns the value. -/
theorem decodeDlmsData_encodeDlmsData (maximumDepth : Nat) (value : DlmsData)
    (h : InRange maximumDepth value) :
    ∃ bytes, (∀ capacity, runEmitter capacity (encodeDlmsData value) =
        if bytes.length ≤ capacity then .ok bytes else .error .outputBufferTooSmall) ∧
      (∀ suffix, decodeDlmsDataFromReader maximumDepth (bytes ++ suffix) = .ok (value, suffix)) ∧
      decodeDlmsData bytes maximumDepth = .ok value := by
  have hconveyed := conveyed_encodeDlmsData maximumDepth value h
  rcases runEmitter_of_conveys _ _ _ _ hconveyed with ⟨bytes, hwritten, hread⟩
  refine ⟨bytes, hwritten, hread, ?_⟩
  rw [decodeDlmsData_eq_ok_iff]
  exact accepts_of_decodes _ _ _ hread

/-- A reading as a meter has it: a number below zero with its scale, and a time. -/
def scaledReading : DlmsData where
  type := .structureData
  elements := [{ type := .doubleLong, signedValue := -70000 },
               { type := .integer, signedValue := -3 },
               { type := .array, elements := [{ type := .time, bytes := [23, 59, 59, 0] }] }]

theorem inRange_scaledReading : InRange 3 scaledReading := by
  refine .sequence 2 .structureData _ (Or.inr rfl) (by decide) ?_
  simp only [List.forall_mem_cons, List.not_mem_nil, false_imp_iff, implies_true, and_true]
  refine ⟨.signed 1 .doubleLong 4 _ rfl ⟨by decide, by decide⟩,
    .signed 1 .integer 1 _ rfl ⟨by decide, by decide⟩,
    .sequence 1 .array _ (Or.inl rfl) (by decide) ?_⟩
  simp only [List.forall_mem_cons, List.not_mem_nil, false_imp_iff, implies_true, and_true]
  exact .fixed 0 .time _ rfl

theorem decodeDlmsData_encodeDlmsData_scaledReading :
    ∃ bytes, (∀ capacity, runEmitter capacity (encodeDlmsData scaledReading) =
        if bytes.length ≤ capacity then .ok bytes else .error .outputBufferTooSmall) ∧
      (∀ suffix, decodeDlmsDataFromReader 3 (bytes ++ suffix) = .ok (scaledReading, suffix)) ∧
      decodeDlmsData bytes 3 = .ok scaledReading :=
  decodeDlmsData_encodeDlmsData 3 scaledReading inRange_scaledReading

end Apdu

end Dlms
