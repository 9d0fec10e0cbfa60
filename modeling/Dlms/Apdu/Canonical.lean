import Dlms.Apdu.Ber
import Dlms.Apdu.DataRange
import Mathlib.Data.List.Forall2

/-!
# The canonical form of decoded data

The decoder is more liberal than the encoder. A length may be written with more
octets than it takes, and any octet but zero is true. So the bytes that are
decoded need not be those that the value is encoded as. But every value that is
decoded is within its range, and its encoding is one of the forms that the
decoder takes, so it is the canonical form of what came in: it decodes to the
same value, and no form of the value is shorter.

The bound on the size is carried along with the range. An array is as long as
its header and its elements, and each of these has shrunk by itself.

## Main definitions

* `ReadFrom`: A value in its range, with an encoding that is no longer than what
  it was read from.

## Theorems

* `consumes_readAxdrLength`: No form of a length is shorter than the one that is
  written.
* `consumes_decodeDlmsDataValue`: Whatever is decoded is in its range and has
  shrunk.
* `recoded_of_decodeDlmsData`: What a caller of the two codecs sees.
-/

namespace Dlms

namespace Apdu

open Codec

/-! ### Lengths -/

/-- A number takes no more octets than there are in any form of it. -/
theorem octetCount_le_of_lt_pow (fuel n octets : Nat) (h : n < 256 ^ octets) :
    octetCount fuel n ≤ octets := by
  induction fuel generalizing n octets with
  | zero => exact Nat.zero_le _
  | succ fuel ih =>
      rw [octetCount]
      split
      · exact Nat.zero_le _
      · rename_i hpositive
        cases octets with
        | zero => exact absurd h (by rw [pow_zero]; omega)
        | succ octets =>
            have hdiv : n / 256 < 256 ^ octets := by
              rw [pow_succ] at h
              exact Nat.div_lt_of_lt_mul (by omega)
            exact Nat.succ_le_succ (ih _ _ hdiv)

/-- A length that is read was written with as many octets as it takes, or more. -/
theorem consumes_readAxdrLength :
    Consumes readAxdrLength fun used length =>
      length < 256 ^ sizeOctets ∧ axdrLengthEncodedSize length ≤ used.length := by
  refine consumes_bind _ _ _ _ (consumes_item _) fun used first hused => ?_
  subst hused
  have hfirst := first.toNat_lt
  have hsmall : 256 ≤ 256 ^ sizeOctets := by decide
  split
  -- A short length takes one octet in any case.
  · rename_i hshort
    have hlow := (toNat_of_flag first).1 hshort
    refine consumes_pure _ _ ⟨by omega, ?_⟩
    rw [axdrLengthEncodedSize, if_pos hlow]
    exact Nat.le_refl 1
  · dsimp only
    split
    · exact consumes_fail _ _
    · rename_i hcount
      refine consumes_bind _ _ _ _ (consumes_items _ _) fun more octets hmore => ?_
      rcases hmore with ⟨rfl, hlength⟩
      split
      · exact consumes_fail _ _
      -- The octets of a long form are at least those that the number takes.
      · have hvalue := beValue_lt more
        have hoctets := octetCount_le_of_lt_pow sizeOctets _ _ hvalue
        have hwidth : 256 ^ more.length ≤ 256 ^ sizeOctets :=
          Nat.pow_le_pow_right (by decide) (by omega)
        rename_i hlong
        refine consumes_pure _ _ ⟨by omega, ?_⟩
        rw [axdrLengthEncodedSize, if_neg hlong, List.append_nil, List.length_append,
          List.length_singleton]
        omega

theorem consumes_readAxdrOctetString :
    Consumes readAxdrOctetString fun used bytes =>
      bytes.length < 256 ^ sizeOctets ∧ (axdrOctetStringBytes bytes).length ≤ used.length := by
  refine consumes_bind _ _ _ _ consumes_readAxdrLength fun used length hused => ?_
  intro ts bytes rest hout
  rcases consumes_items _ _ ts bytes rest hout with ⟨taken, htaken, rfl, hlength⟩
  refine ⟨taken, htaken, by rw [hlength]; exact hused.1, ?_⟩
  rw [axdrOctetStringBytes, List.length_append, List.length_append, length_axdrLengthBytes,
    hlength]
  have hheader := hused.2
  omega

/-! ### Values -/

/-- The value is in its range, and it is written with no more octets than the
    ones it was read from. -/
structure ReadFrom (depth : Nat) (used : Bytes) (value : DlmsData) : Prop where
  inRange : InRange depth value
  shrunk : ∃ bytes, Writes (encodeDlmsDataValue value) bytes ∧ bytes.length ≤ used.length

/-- A value is read from its tag and its body when the body is written with no
    more octets than it was read from. -/
theorem readFrom_of_body (depth : Nat) (type : DlmsDataType) (value : DlmsData) (tag : UInt8)
    (used bytes : Bytes) (writer : Writer) (hrange : InRange depth value)
    (hwriter : encodeDlmsDataValue value = (do writeU8 type.tag; writer))
    (hwrites : Writes writer bytes) (hshrunk : bytes.length ≤ used.length) :
    ReadFrom depth ([tag] ++ used) value where
  inRange := hrange
  shrunk := by
    refine ⟨[type.tag] ++ bytes, ?_, ?_⟩
    · rw [hwriter]
      exact emits_bind _ _ _ _ _ (writes_writeU8 _) hwrites
    · rw [List.length_append, List.length_append, List.length_singleton]
      exact Nat.add_le_add_left hshrunk 1

/-- The elements of an array were read one after another, so all of them together
    have shrunk as well. -/
theorem shrunk_elements (depth : Nat) (pieces : List Bytes) (elements : List DlmsData)
    (h : List.Forall₂ (ReadFrom depth) pieces elements) :
    ∃ bytes, Writes (encodeElements elements) bytes ∧ bytes.length ≤ pieces.flatten.length := by
  induction h with
  | nil => exact ⟨[], by unfold encodeElements; exact emits_nil _, Nat.zero_le _⟩
  | cons hfirst hrest ih =>
      rcases hfirst.shrunk with ⟨first, hwrites, hfirst⟩
      rcases ih with ⟨rest, hwritesRest, hrest⟩
      refine ⟨first ++ rest, ?_, ?_⟩
      · unfold encodeElements
        exact emits_bind _ _ _ _ _ hwrites hwritesRest
      · rw [List.flatten_cons, List.length_append, List.length_append]
        exact Nat.add_le_add hfirst hrest

theorem consumes_readUnsigned (byteCount : Nat) (hcount : byteCount ≤ 8) :
    Consumes (readUnsigned byteCount) fun used value =>
      used.length = byteCount ∧ value.toNat < 256 ^ byteCount := by
  refine consumes_bind _ _ _ _ (consumes_items _ _) fun used octets hused => ?_
  rcases hused with ⟨rfl, hlength⟩
  refine consumes_pure _ _ ⟨by rw [List.append_nil, hlength], ?_⟩
  have hvalue := beValue_lt used
  have hslot : 256 ^ byteCount ≤ 2 ^ 64 :=
    Nat.le_trans (Nat.pow_le_pow_right (by decide) hcount) (by decide)
  rw [hlength] at hvalue
  rw [UInt64.toNat_ofNat', Nat.mod_eq_of_lt (by omega)]
  exact hvalue

section Types

variable (depth : Nat) (tag : UInt8)

/-- What is read as a signed number is in the range of its octets. -/
theorem consumes_readSigned (type : DlmsDataType) (byteCount : Nat)
    (hcount : byteCount = 1 ∨ byteCount = 2 ∨ byteCount = 4)
    (htype : signedOctets type = some byteCount)
    (hwriter : ∀ value, encodeDlmsDataValue { type, signedValue := value } =
      (do writeU8 type.tag; writeUnsigned value.toUInt64 byteCount)) :
    Consumes (readSigned byteCount type) fun used => ReadFrom (depth + 1) ([tag] ++ used) := by
  refine consumes_bind _ _ _ _ (consumes_readUnsigned byteCount (by omega))
    fun used value hused => consumes_pure _ _ ?_
  rw [List.append_nil]
  refine readFrom_of_body _ type _ tag used _ _ ?_ (hwriter _) (writes_writeBytes _) ?_
  · exact .signed depth type byteCount _ htype
      (inSignedRange_signExtend byteCount value hcount hused.2)
  -- The octets that it was read from are as many as it is written with.
  · rw [length_beBytes, hused.1]

theorem consumes_readUnsignedData (type : DlmsDataType) (byteCount : Nat)
    (hcount : byteCount ≤ 8) (htype : unsignedOctets type = some byteCount)
    (hwriter : ∀ value, encodeDlmsDataValue { type, unsignedValue := value } =
      (do writeU8 type.tag; writeUnsigned value byteCount)) :
    Consumes (readUnsignedData byteCount type) fun used =>
      ReadFrom (depth + 1) ([tag] ++ used) := by
  refine consumes_bind _ _ _ _ (consumes_readUnsigned byteCount hcount)
    fun used value hused => consumes_pure _ _ ?_
  rw [List.append_nil]
  refine readFrom_of_body _ type _ tag used _ _ ?_ (hwriter _) (writes_writeBytes _) ?_
  · exact .unsigned depth type byteCount value htype hused.2
  · rw [length_beBytes, hused.1]

theorem consumes_readFixedBytes (type : DlmsDataType) (size : Nat)
    (htype : fixedOctets type = some size)
    (hwriter : ∀ bytes, encodeDlmsDataValue { type, bytes } =
      (do writeU8 type.tag; writeFixedBytes bytes size)) :
    Consumes (readFixedBytes size type) fun used => ReadFrom (depth + 1) ([tag] ++ used) := by
  refine consumes_bind _ _ _ _ (consumes_items _ _) fun used bytes hused => consumes_pure _ _ ?_
  rcases hused with ⟨rfl, hlength⟩
  rw [List.append_nil]
  refine readFrom_of_body _ type _ tag used used _ ?_ (hwriter _) ?_ (Nat.le_refl _)
  · exact .fixed depth type used (by rw [hlength]; exact htype)
  · rw [writeFixedBytes, if_pos hlength]
    exact writes_writeBytes used

/-- A sequence has shrunk when its elements have, and so has its header. -/
theorem consumes_sequence (type : DlmsDataType)
    (htype : type = .array ∨ type = .structureData)
    (ih : Consumes (decodeDlmsDataValue depth) (ReadFrom depth))
    (hwriter : ∀ elements, encodeDlmsDataValue { type, elements } =
      (do writeU8 type.tag; writeAxdrLength elements.length; encodeElements elements)) :
    Consumes (do
      let elementCount ← readAxdrLength
      let elements ← Parser.repeatN (decodeDlmsDataValue depth) elementCount
      pure { type, elements } : Reader DlmsData) fun used =>
        ReadFrom (depth + 1) ([tag] ++ used) := by
  refine consumes_bind _ _ _ _ consumes_readAxdrLength fun header count hheader => ?_
  refine consumes_bind _ _ _ _ (consumes_repeatN _ _ count ih) fun used elements hused => ?_
  rcases hused with ⟨hcount, pieces, rfl, hpieces⟩
  rcases shrunk_elements depth pieces elements hpieces with ⟨bytes, hwrites, hshrunk⟩
  -- As many elements were read as the header says.
  rw [← hcount] at hheader
  refine consumes_pure _ _ ?_
  rw [List.append_nil]
  refine readFrom_of_body _ type _ tag _ _ _ ?_ (hwriter elements)
    (emits_bind _ _ _ _ _ (writes_writeAxdrLength elements.length) hwrites) ?_
  · refine .sequence depth type elements htype hheader.1 fun element helement => ?_
    rcases List.mem_iff_getElem.mp helement with ⟨index, hindex, rfl⟩
    exact (hpieces.get (by rw [hpieces.length_eq]; exact hindex) hindex).inRange
  · rw [List.length_append, List.length_append, length_axdrLengthBytes]
    exact Nat.add_le_add hheader.2 hshrunk

/-- Whatever the decoder returns is within its range, and its encoding is no
    longer than what was decoded. The induction is on the depth: the elements of
    an array have one less. -/
theorem consumes_decodeDlmsDataValue :
    Consumes (decodeDlmsDataValue depth) (ReadFrom depth) := by
  induction depth with
  | zero => exact consumes_fail _ _
  | succ depth ih =>
      refine consumes_bind _ _ _ _ (consumes_item _) fun used tag hused => ?_
      subst hused
      cases DlmsDataType.ofTag tag with
      | none => exact consumes_fail _ _
      | some type =>
          cases type with
          | nullData =>
              exact consumes_pure _ _ (readFrom_of_body _ .nullData _ tag [] [] (pure ())
                (.nullData depth) (by unfold encodeDlmsDataValue; rfl) (emits_nil _)
                (Nat.le_refl 0))
          | array =>
              exact consumes_sequence depth tag .array (Or.inl rfl) ih
                fun _ => by unfold encodeDlmsDataValue; rfl
          | structureData =>
              exact consumes_sequence depth tag .structureData (Or.inr rfl) ih
                fun _ => by unfold encodeDlmsDataValue; rfl
          | boolean =>
              -- Any octet may stand for the flag, and one octet is written for it.
              refine consumes_bind _ _ (fun used _ => used.length = 1) _ ?_
                fun used flag hused => consumes_pure _ _ ?_
              · exact consumes_bind _ _ _ _ (consumes_item _) fun used raw hused =>
                  consumes_pure _ _ (by rw [hused]; rfl)
              · rw [List.append_nil]
                exact readFrom_of_body _ .boolean _ tag used _ _ (.boolean depth flag)
                  (by unfold encodeDlmsDataValue; rfl) (writes_writeU8 _) (Nat.le_of_eq hused.symm)
          | octetString =>
              refine consumes_bind _ _ _ _ consumes_readAxdrOctetString fun used bytes hused =>
                consumes_pure _ _ ?_
              rw [List.append_nil]
              exact readFrom_of_body _ .octetString _ tag used _ _
                (.octetString depth bytes hused.1) (by unfold encodeDlmsDataValue; rfl)
                (writes_writeAxdrOctetString bytes) hused.2
          | integer =>
              exact consumes_readSigned depth tag .integer 1 (by decide) rfl
                fun _ => by unfold encodeDlmsDataValue; rfl
          | long =>
              exact consumes_readSigned depth tag .long 2 (by decide) rfl
                fun _ => by unfold encodeDlmsDataValue; rfl
          | doubleLong =>
              exact consumes_readSigned depth tag .doubleLong 4 (by decide) rfl
                fun _ => by unfold encodeDlmsDataValue; rfl
          -- Eight octets fill the slot, so there is no sign to extend.
          | long64 =>
              refine consumes_bind _ _ _ _ (consumes_readUnsigned 8 (Nat.le_refl 8))
                fun used value hused => consumes_pure _ _ ?_
              rw [List.append_nil]
              exact readFrom_of_body _ .long64 _ tag used _ _
                (.signed depth .long64 8 _ rfl (inSignedRange_eight _))
                (by unfold encodeDlmsDataValue; rfl) (writes_writeBytes _)
                (by rw [length_beBytes, hused.1])
          | dateTime =>
              exact consumes_readFixedBytes depth tag .dateTime dateTimeSize rfl
                fun _ => by unfold encodeDlmsDataValue; rfl
          | date =>
              exact consumes_readFixedBytes depth tag .date dateSize rfl
                fun _ => by unfold encodeDlmsDataValue; rfl
          | time =>
              exact consumes_readFixedBytes depth tag .time timeSize rfl
                fun _ => by unfold encodeDlmsDataValue; rfl
          | _ =>
              exact consumes_readUnsignedData depth tag _ _ (by decide) rfl
                fun _ => by unfold encodeDlmsDataValue; rfl

end Types

/-- Whatever bytes are decoded, the value is encoded into any buffer that has room
    for as many. What is written is no longer than what came in, and it decodes
    to the value again. -/
theorem recoded_of_decodeDlmsData (input : Bytes) (maximumDepth : Nat) (value : DlmsData)
    (h : decodeDlmsData input maximumDepth = .ok value) :
    ∃ bytes, (∀ capacity, runEmitter capacity (encodeDlmsData value) =
        if bytes.length ≤ capacity then .ok bytes else .error .outputBufferTooSmall) ∧
      bytes.length ≤ input.length ∧ decodeDlmsData bytes maximumDepth = .ok value := by
  rw [decodeDlmsData_eq_ok_iff] at h
  rcases consumes_decodeDlmsDataValue maximumDepth input value [] h with ⟨used, hused, hread⟩
  rcases hread.shrunk with ⟨bytes, hwrites, hshrunk⟩
  rw [List.append_nil] at hused
  have hconveyed := conveyed_encodeDlmsData maximumDepth value hread.inRange
  -- The range of the value is what the round trip of the codec asks for.
  refine ⟨bytes, fun capacity => runEmitter_of_emits _ capacity _ bytes hwrites, ?_, ?_⟩
  · rw [hused]
    exact hshrunk
  · rw [decodeDlmsData_eq_ok_iff]
    exact accepts_of_delivers _ _ _ bytes value (delivers_of_conveys _ _ _ value hconveyed) hwrites

/-- An array of one flag, which came in as 0x37. -/
theorem recoded_of_decodeDlmsData_liberal :
    ∃ bytes, (∀ capacity, runEmitter capacity (encodeDlmsData
        { type := .array, elements := [{ type := .boolean, booleanValue := true }] }) =
        if bytes.length ≤ capacity then .ok bytes else .error .outputBufferTooSmall) ∧
      bytes.length ≤ [0x01, 0x01, 0x03, (0x37 : UInt8)].length ∧ decodeDlmsData bytes 2 =
        .ok { type := .array, elements := [{ type := .boolean, booleanValue := true }] } :=
  recoded_of_decodeDlmsData [0x01, 0x01, 0x03, 0x37] 2 _ rfl

end Apdu

end Dlms
