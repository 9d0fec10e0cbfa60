import Dlms.GoHdlc.Fields
import Dlms.Hdlc.Buffers

/-!
# The codec, in Go

The package writes a frame into a slice of the caller, or makes one of the
largest size between the limits; a slice that cannot be made ends the program.
It decodes into a slice of the caller, or makes one as large as the information
is. The limit on the information is checked before the room for it.

Two octets are put together with shifts, and the fields of the format are cut
out of it with masks, where the library in C++ is written in numbers here.

## Main definitions

* `Frame`: A frame of the package; `Frame.ofHdlc` stands for one of the library
  in C++.
* `encodeFrameToBuffer`, `encodeFrame`: Writing it.
* `decodeFrameFromBuffer`, `decodeFrame`: Reading it.

## Theorems

* `encodeFrameToBuffer_eq`: What is written is the same.
* `decodeFrameFromBuffer_eq`, `decodeFrame_eq`: So is what is read.
-/

namespace Dlms

namespace GoHdlc

open Hdlc

structure Frame where
  segmented : Bool
  destination : Address
  source : Address
  control : Control
  information : Bytes
  deriving DecidableEq

namespace Frame

/-- The frame that an error comes with. -/
def zero : Frame where
  segmented := false
  destination := { rawValue := 0, encodedSize := 0 }
  source := { rawValue := 0, encodedSize := 0 }
  control := { raw := 0 }
  information := []

def ofHdlc (frame : HdlcFrame) : Frame where
  segmented := frame.segmented
  destination := .ofHdlc frame.destination
  source := .ofHdlc frame.source
  control := .ofHdlc frame.control
  information := frame.information

end Frame

def hdlcFlag : UInt8 := 0x7E

theorem hdlcFlag_eq : hdlcFlag = Hdlc.hdlcFlag := rfl

def frameFormatType3 : UInt16 := 0xA000

def frameFormatTypeMask : UInt16 := 0xF000

def segmentationBit : UInt16 := 0x0800

def maxFormatFieldLength : Nat := 2047

theorem maxFormatFieldLength_eq : maxFormatFieldLength = maximumFormatFieldLength := rfl

/-! ### Limits -/

def effectiveMaximumFrameSize (limits : HdlcCodecLimits) : Nat :=
  if limits.maximumFrameSize = 0 then 2049 else limits.maximumFrameSize

theorem effectiveMaximumFrameSize_eq (limits : HdlcCodecLimits) :
    effectiveMaximumFrameSize limits = Hdlc.effectiveMaximumFrameSize limits := rfl

def effectiveMaximumInformationFieldSize (destSize srcSize : Nat) (limits : HdlcCodecLimits) :
    Nat :=
  if limits.maximumInformationFieldSize ≠ 0 then limits.maximumInformationFieldSize
  else
    let headerSize := 2 + destSize + srcSize + 1
    let maxFrame := effectiveMaximumFrameSize limits
    let overhead := 2 + headerSize + 2 + 2
    if maxFrame ≤ overhead then 0 else maxFrame - overhead

theorem effectiveMaximumInformationFieldSize_eq (frame : HdlcFrame) (limits : HdlcCodecLimits) :
    effectiveMaximumInformationFieldSize frame.destination.encodedSize
        frame.source.encodedSize limits =
      Hdlc.effectiveMaximumInformationFieldSize frame limits := by
  unfold effectiveMaximumInformationFieldSize Hdlc.effectiveMaximumInformationFieldSize headerSize
  dsimp only
  rw [effectiveMaximumFrameSize_eq]
  split_ifs
  all_goals omega

/-! ### Two octets -/

def putUint16BigEndian (v : UInt16) : Bytes := [(v >>> 8).toUInt8, v.toUInt8]

def putUint16LittleEndian (v : UInt16) : Bytes := [v.toUInt8, (v >>> 8).toUInt8]

def uint16BigEndian (b : Bytes) : UInt16 :=
  (b.getD 1 0).toUInt16 ||| ((b.getD 0 0).toUInt16 <<< 8)

def uint16LittleEndian (b : Bytes) : UInt16 :=
  (b.getD 0 0).toUInt16 ||| ((b.getD 1 0).toUInt16 <<< 8)

theorem low_octet (v : UInt16) : v.toUInt8 = UInt8.ofNat (v.toNat % 256) := by
  rw [← UInt8.toNat_inj, UInt16.toNat_toUInt8, UInt8.toNat_ofNat']
  omega

theorem high_octet (v : UInt16) : (v >>> 8).toUInt8 = UInt8.ofNat (v.toNat / 256) := by
  rw [← UInt8.toNat_inj, UInt16.toNat_toUInt8, UInt8.toNat_ofNat', UInt16.toNat_shiftRight]
  show v.toNat >>> 8 % 2 ^ 8 = _
  rw [Nat.shiftRight_eq_div_pow]

theorem putUint16LittleEndian_eq (v : UInt16) :
    putUint16LittleEndian v = writeUint16LowByteFirst v := by
  rw [putUint16LittleEndian, writeUint16LowByteFirst, low_octet, high_octet]

theorem putUint16BigEndian_eq (v : UInt16) :
    putUint16BigEndian v = writeUint16HighByteFirst v.toNat := by
  rw [putUint16BigEndian, writeUint16HighByteFirst, high_octet, low_octet]

/-- Two octets side by side, in shifts and in numbers. -/
theorem toNat_octets (low high : UInt8) :
    (low.toUInt16 ||| (high.toUInt16 <<< 8)).toNat = low.toNat + high.toNat * 256 := by
  have hlow := low.toNat_lt
  have hhigh := high.toNat_lt
  have hshift : (high.toUInt16 <<< 8).toNat = high.toNat <<< 8 := by
    rw [UInt16.toNat_shiftLeft, UInt8.toNat_toUInt16]
    show high.toNat <<< 8 % 2 ^ 16 = _
    rw [Nat.shiftLeft_eq]
    omega
  rw [UInt16.toNat_or, hshift, UInt8.toNat_toUInt16, Nat.or_comm,
    ← Nat.shiftLeft_add_eq_or_of_lt (by omega), Nat.shiftLeft_eq]
  omega

theorem getD_drop (input : Bytes) (offset index : Nat) :
    (input.drop offset).getD index 0 = input.getD (offset + index) 0 := by
  rw [List.getD_eq_getElem?_getD, List.getD_eq_getElem?_getD, List.getElem?_drop]

theorem toNat_uint16LittleEndian (input : Bytes) (offset : Nat) :
    (uint16LittleEndian (input.drop offset)).toNat = readUint16LowByteFirst input offset := by
  rw [uint16LittleEndian, toNat_octets, getD_drop, getD_drop]
  rfl

theorem toNat_uint16BigEndian (input : Bytes) (offset : Nat) :
    (uint16BigEndian (input.drop offset)).toNat = readUint16HighByteFirst input offset := by
  rw [uint16BigEndian, toNat_octets, getD_drop, getD_drop, Nat.add_comm]
  rfl

/-! ### The fields of the format -/

/-- A mask cuts out a field of the number. -/
theorem and_shiftLeft (value mask shift : Nat) :
    value &&& (mask <<< shift) = ((value >>> shift) &&& mask) <<< shift := by
  refine Nat.eq_of_testBit_eq fun i => ?_
  rw [Nat.testBit_and, Nat.testBit_shiftLeft, Nat.testBit_shiftLeft, Nat.testBit_and,
    Nat.testBit_shiftRight]
  by_cases h : i ≥ shift
  · rw [Nat.add_sub_cancel' h, decide_eq_true h, Bool.true_and, Bool.true_and]
  · rw [decide_eq_false h, Bool.false_and, Bool.false_and, Bool.and_false]

section Format

variable (ff : UInt16)

theorem type_of_format :
    ff &&& frameFormatTypeMask ≠ frameFormatType3 ↔
      ff.toNat / 4096 ≠ Hdlc.frameFormatType3 / 4096 := by
  have hlt := ff.toNat_lt
  have hmask : (ff &&& frameFormatTypeMask).toNat = ff.toNat / 4096 * 4096 := by
    rw [UInt16.toNat_and]
    show ff.toNat &&& (2 ^ 4 - 1) <<< 12 = _
    rw [and_shiftLeft, Nat.and_two_pow_sub_one_eq_mod, Nat.shiftRight_eq_div_pow,
      Nat.shiftLeft_eq]
    omega
  rw [ne_eq, ne_eq, ← UInt16.toNat_inj, hmask]
  show ¬ff.toNat / 4096 * 4096 = 40960 ↔ ¬ff.toNat / 4096 = 10
  omega

theorem segmented_of_format :
    (ff &&& segmentationBit != 0) = (ff.toNat / 2048 % 2 == 1) := by
  have hmask : (ff &&& segmentationBit).toNat = ff.toNat / 2048 % 2 * 2048 := by
    rw [UInt16.toNat_and]
    show ff.toNat &&& (2 ^ 1 - 1) <<< 11 = _
    rw [and_shiftLeft, Nat.and_two_pow_sub_one_eq_mod, Nat.shiftRight_eq_div_pow,
      Nat.shiftLeft_eq]
  rw [Bool.eq_iff_iff, bne_iff_ne, beq_iff_eq, ne_eq, ← UInt16.toNat_inj, hmask]
  show ¬ff.toNat / 2048 % 2 * 2048 = 0 ↔ _
  omega

theorem length_of_format : (ff &&& 0x07FF).toNat = ff.toNat % 2048 := by
  rw [UInt16.toNat_and]
  show ff.toNat &&& 2 ^ 11 - 1 = _
  rw [Nat.and_two_pow_sub_one_eq_mod]

end Format

/-- The fields put together again. -/
theorem toNat_format (segmented : Bool) (length : Nat) (h : length ≤ maxFormatFieldLength) :
    (frameFormatType3 ||| (if segmented then segmentationBit else 0) |||
        UInt16.ofNat length).toNat =
      Hdlc.frameFormatType3 + (if segmented then Hdlc.segmentationBit else 0) + length := by
  rw [maxFormatFieldLength] at h
  have hlength : (UInt16.ofNat length).toNat = length := by
    rw [UInt16.toNat_ofNat']
    omega
  cases segmented with
  | false =>
      rw [UInt16.toNat_or, hlength]
      show 20 <<< 11 ||| length = 40960 + 0 + length
      rw [← Nat.shiftLeft_add_eq_or_of_lt (by omega), Nat.shiftLeft_eq]
  | true =>
      rw [UInt16.toNat_or, hlength]
      show 21 <<< 11 ||| length = 40960 + 2048 + length
      rw [← Nat.shiftLeft_add_eq_or_of_lt (by omega), Nat.shiftLeft_eq]

/-! ### Encoding -/

/-- Octets between the flags. -/
def formatFieldLength (frame : Frame) : Nat :=
  let hasInfo := decide (frame.information.length > 0)
  let headerSize := 2 + frame.destination.encode.length + frame.source.encode.length + 1
  let hcsSize := if hasInfo then 2 else 0
  headerSize + hcsSize + frame.information.length + 2

/-- The octets of the header: format field, addresses, control field. -/
def encodeHeader (frame : Frame) : Bytes :=
  let seg := if frame.segmented then segmentationBit else 0
  putUint16BigEndian (frameFormatType3 ||| seg ||| UInt16.ofNat (formatFieldLength frame)) ++
    frame.destination.encode ++ frame.source.encode ++ [frame.control.encode]

/-- The octets that the checksum of the frame is made over. -/
def encodeChecked (frame : Frame) : Bytes :=
  let hasInfo := decide (frame.information.length > 0)
  let header := encodeHeader frame
  if hasInfo then
    header ++ putUint16LittleEndian (calculateHdlcCRC header) ++ frame.information
  else header

/-- What is written to the output, which is as large as it says. -/
def encodeFrameToBuffer (frame : Frame) (limits : HdlcCodecLimits) (outputLength : Nat) :
    Except HdlcStatus Bytes :=
  let maxInfo := effectiveMaximumInformationFieldSize frame.destination.encodedSize
    frame.source.encodedSize limits
  if frame.information.length > maxInfo then .error .informationFieldTooLarge
  else
    let fullFrameSize := formatFieldLength frame + 2
    if formatFieldLength frame > maxFormatFieldLength then .error .invalidFrameLength
    else if fullFrameSize > effectiveMaximumFrameSize limits then .error .frameTooLarge
    else if outputLength < fullFrameSize then .error .outputBufferTooSmall
    else
      .ok ([hdlcFlag] ++ encodeChecked frame ++
        putUint16LittleEndian (calculateHdlcCRC (encodeChecked frame)) ++ [hdlcFlag])

/-- A slice can be made: it has a length, and there is memory for it. -/
def Makeable (memory length : Nat) : Prop := length < 2 ^ 63 ∧ length ≤ memory

instance (memory length : Nat) : Decidable (Makeable memory length) :=
  inferInstanceAs (Decidable (_ ∧ _))

def encodeFrame (memory : Nat) (frame : Frame) (limits : HdlcCodecLimits) :
    Outcome (Except HdlcStatus Bytes) :=
  if Makeable memory (effectiveMaximumFrameSize limits) then
    .returned (encodeFrameToBuffer frame limits (effectiveMaximumFrameSize limits))
  else .thrown

/-! ### Decoding -/

/-- The octets from one index up to another. -/
def sliceOf (input : Bytes) (low high : Nat) : Bytes := (input.take high).drop low

/-- The addresses and the control field behind the format field, and the offset
    behind them. -/
def decodeHeader (input : Bytes) (fullFrameSize : Nat) :
    Except HdlcStatus (Address × Address × Control × Nat) := do
  let (dst, consumed) ← addressFromBytes (sliceOf input 3 (fullFrameSize - 1))
  let offset := 3 + consumed
  let (src, consumed) ← addressFromBytes (sliceOf input offset (fullFrameSize - 1))
  let offset := offset + consumed
  if offset ≥ fullFrameSize - 3 then
    throw .invalidFrameLength
  let ctrl ← controlFromByte (input.getD offset 0)
  return (dst, src, ctrl, offset + 1)

/-- The information at an offset, of a frame that is otherwise checked. Without a
    buffer, one of its size is made. -/
def takeInformation (input : Bytes) (limits : HdlcCodecLimits) (infoBuf : Option Nat)
    (segmented : Bool) (dst src : Address) (ctrl : Control) (offset infoSize : Nat) :
    Except HdlcStatus (Frame × Nat) :=
  let maxInfo := effectiveMaximumInformationFieldSize dst.encodedSize src.encodedSize limits
  if infoSize > maxInfo then .error .informationFieldTooLarge
  else
    let frame : Frame :=
      { segmented := segmented
        destination := dst
        source := src
        control := ctrl
        information := if infoSize > 0 then sliceOf input offset (offset + infoSize) else [] }
    match infoBuf with
    | none => .ok (frame, infoSize)
    | some length =>
        if infoSize > 0 ∧ infoSize > length then .error .outputBufferTooSmall
        else .ok (frame, infoSize)

/-- The rest of a frame whose header has been read up to an offset. -/
def decodeRest (input : Bytes) (fullFrameSize : Nat) (limits : HdlcCodecLimits)
    (infoBuf : Option Nat) (segmented : Bool) (dst src : Address) (ctrl : Control)
    (offset : Nat) : Except HdlcStatus (Frame × Nat) :=
  let headerSize := offset - 1
  let bytesBeforeFCS := fullFrameSize - 3 - offset
  if bytesBeforeFCS = 1 then .error .invalidFrameLength
  else
    let hasInfo := bytesBeforeFCS ≠ 0
    let expectedHCS := uint16LittleEndian (input.drop offset)
    if hasInfo ∧ calculateHdlcCRC (sliceOf input 1 (1 + headerSize)) ≠ expectedHCS then
      .error .invalidHeaderChecksum
    else
      let offset := if hasInfo then offset + 2 else offset
      let expectedFCS := uint16LittleEndian (input.drop (fullFrameSize - 3))
      if calculateHdlcCRC (sliceOf input 1 (fullFrameSize - 3)) ≠ expectedFCS then
        .error .invalidFrameChecksum
      else
        let infoSize := if hasInfo then fullFrameSize - 3 - offset else 0
        takeInformation input limits infoBuf segmented dst src ctrl offset infoSize

def decodeFrameFromBuffer (input : Bytes) (limits : HdlcCodecLimits) (infoBuf : Option Nat) :
    Except HdlcStatus (Frame × Nat) :=
  if input.length < 4 then .error .needMoreData
  else if input.getD 0 0 ≠ hdlcFlag then .error .invalidFlag
  else
    let ff := uint16BigEndian (input.drop 1)
    if ff &&& frameFormatTypeMask ≠ frameFormatType3 then .error .invalidFrameFormat
    else
      let segmented := ff &&& segmentationBit != 0
      let formatFieldLength := (ff &&& 0x07FF).toNat
      let fullFrameSize := formatFieldLength + 2
      if formatFieldLength < 6 then .error .invalidFrameLength
      else if formatFieldLength > maxFormatFieldLength then .error .invalidFrameLength
      else if fullFrameSize > effectiveMaximumFrameSize limits then .error .frameTooLarge
      else if input.length < fullFrameSize then .error .needMoreData
      else if input.length ≠ fullFrameSize then .error .invalidFrameLength
      else if input.getD (fullFrameSize - 1) 0 ≠ hdlcFlag then .error .invalidFlag
      else do
        let (dst, src, ctrl, offset) ← decodeHeader input fullFrameSize
        decodeRest input fullFrameSize limits infoBuf segmented dst src ctrl offset

def decodeFrame (input : Bytes) (limits : HdlcCodecLimits) : Except HdlcStatus Frame :=
  (decodeFrameFromBuffer input limits none).map Prod.fst

/-! ### The same octets -/

section Encoding

variable (frame : HdlcFrame) (limits : HdlcCodecLimits)

theorem formatFieldLength_eq :
    formatFieldLength (.ofHdlc frame) = Hdlc.formatFieldLength frame := by
  show 2 + (Address.ofHdlc frame.destination).encode.length +
    (Address.ofHdlc frame.source).encode.length + 1 +
      (if decide (frame.information.length > 0) then 2 else 0) + frame.information.length + 2 = _
  rw [Address.encode_ofHdlc, Address.encode_ofHdlc, HdlcAddress.length_encode,
    HdlcAddress.length_encode, Hdlc.formatFieldLength, headerSize]
  by_cases hempty : frame.information = []
  · rw [if_pos hempty, hempty]
    rfl
  · rw [if_neg hempty, if_pos (decide_eq_true (List.length_pos_of_ne_nil hempty))]

variable (hlength : Hdlc.formatFieldLength frame ≤ maxFormatFieldLength)
include hlength

theorem encodeHeader_eq : encodeHeader (.ofHdlc frame) = headerBytes frame := by
  have hformat := toNat_format frame.segmented (Hdlc.formatFieldLength frame) hlength
  rw [encodeHeader, headerBytes, putUint16BigEndian_eq, formatFieldLength_eq]
  show writeUint16HighByteFirst (frameFormatType3 |||
    (if frame.segmented then segmentationBit else 0) |||
      UInt16.ofNat (Hdlc.formatFieldLength frame)).toNat ++
        (Address.ofHdlc frame.destination).encode ++ (Address.ofHdlc frame.source).encode ++
          [(Control.ofHdlc frame.control).encode] = _
  rw [hformat, Address.encode_ofHdlc, Address.encode_ofHdlc, Control.encode_ofHdlc]
  rfl

theorem encodeChecked_eq : encodeChecked (.ofHdlc frame) = checkedBytes frame := by
  show (if decide (frame.information.length > 0) then encodeHeader (.ofHdlc frame) ++
    putUint16LittleEndian (calculateHdlcCRC (encodeHeader (.ofHdlc frame))) ++ frame.information
      else encodeHeader (.ofHdlc frame)) = _
  rw [encodeHeader_eq frame hlength, putUint16LittleEndian_eq, calculateHdlcCRC_eq, checkedBytes]
  by_cases hempty : frame.information = []
  · rw [if_pos hempty, hempty, List.append_nil (headerBytes frame)]
    rfl
  · rw [if_neg hempty, if_pos (decide_eq_true (List.length_pos_of_ne_nil hempty)),
      List.append_assoc]

omit hlength in
/-- What is written to a slice is what is written to a buffer. -/
theorem encodeFrameToBuffer_eq (outputLength : Nat) :
    encodeFrameToBuffer (.ofHdlc frame) limits outputLength =
      (Hdlc.encodeFrameToBuffer frame limits outputLength).1 := by
  unfold encodeFrameToBuffer Hdlc.encodeFrameToBuffer
  show (if frame.information.length > effectiveMaximumInformationFieldSize
      frame.destination.encodedSize frame.source.encodedSize limits then _ else _) = _
  rw [effectiveMaximumInformationFieldSize_eq, formatFieldLength_eq, maxFormatFieldLength_eq,
    effectiveMaximumFrameSize_eq]
  by_cases hinformation :
      frame.information.length > Hdlc.effectiveMaximumInformationFieldSize frame limits
  · rw [if_pos hinformation, if_pos hinformation]
  rw [if_neg hinformation, if_neg hinformation]
  dsimp only
  rw [show Hdlc.formatFieldLength frame + 2 = fullFrameSize frame from rfl]
  by_cases hlong : Hdlc.formatFieldLength frame > maximumFormatFieldLength
  · rw [if_pos hlong, if_pos hlong]
  rw [if_neg hlong, if_neg hlong]
  by_cases hsize : fullFrameSize frame > Hdlc.effectiveMaximumFrameSize limits
  · rw [if_pos hsize, if_pos hsize]
  rw [if_neg hsize, if_neg hsize]
  by_cases hroom : outputLength < fullFrameSize frame
  · rw [if_pos hroom, if_pos hroom]
  · rw [if_neg hroom, if_neg hroom, encodeChecked_eq frame (Nat.le_of_not_lt hlong),
      putUint16LittleEndian_eq, calculateHdlcCRC_eq]
    rfl

end Encoding

/-! ### The same frames -/

section Decoding

variable (input : Bytes) (limits : HdlcCodecLimits)

theorem sliceOf_eq (low high : Nat) : sliceOf input low high = slice input low (high - low) := by
  rw [sliceOf, slice, List.drop_take]

/-- The fields of a header in the package. -/
def headerOfHdlc : HdlcAddress × HdlcAddress × HdlcControl × Nat →
    Address × Address × Control × Nat
  | (destination, source, control, offset) =>
      (.ofHdlc destination, .ofHdlc source, .ofHdlc control, offset)

theorem decodeHeader_eq (fullFrameSize : Nat) :
    decodeHeader input fullFrameSize =
      (Hdlc.decodeHeader input fullFrameSize).map headerOfHdlc := by
  unfold decodeHeader Hdlc.decodeHeader
  simp only [sliceOf_eq, addressFromBytes_eq, controlFromByte_eq, bind, Except.bind]
  cases HdlcAddress.fromBytes (slice input 3 (fullFrameSize - 1 - 3)) with
  | error status => rfl
  | ok destination =>
      rcases destination with ⟨destination, consumed⟩
      dsimp only [Except.map, Prod.map, id]
      cases HdlcAddress.fromBytes
          (slice input (3 + consumed) (fullFrameSize - 1 - (3 + consumed))) with
      | error status => rfl
      | ok source =>
          rcases source with ⟨source, further⟩
          dsimp only
          by_cases hend : 3 + consumed + further ≥ fullFrameSize - 3
          · rw [if_pos hend, if_pos hend]
            rfl
          · rw [if_neg hend, if_neg hend]
            cases HdlcControl.decode (input.getD (3 + consumed + further) 0) with
            | error status => rfl
            | ok control => rfl

/-- What the package does with a frame that has been read: it checks the size of
    its information, and then whether there is room for it. -/
def handOver (limits : HdlcCodecLimits) (infoBuf : Option Nat) (frame : HdlcFrame) :
    Except HdlcStatus (Frame × Nat) :=
  (checkInformation limits frame).bind fun frame =>
    match infoBuf with
    | none => .ok (.ofHdlc frame, frame.information.length)
    | some length =>
        if frame.information.length > 0 ∧ frame.information.length > length then
          .error .outputBufferTooSmall
        else .ok (.ofHdlc frame, frame.information.length)

theorem takeInformation_eq (infoBuf : Option Nat) (frame : HdlcFrame) (offset infoSize : Nat)
    (hinformation : frame.information = if infoSize = 0 then [] else slice input offset infoSize)
    (hsize : frame.information.length = infoSize) :
    takeInformation input limits infoBuf frame.segmented (.ofHdlc frame.destination)
        (.ofHdlc frame.source) (.ofHdlc frame.control) offset infoSize =
      handOver limits infoBuf frame := by
  have htaken : (if infoSize > 0 then sliceOf input offset (offset + infoSize) else []) =
      frame.information := by
    rw [hinformation, sliceOf_eq, Nat.add_sub_cancel_left]
    by_cases hnone : infoSize = 0
    · rw [if_pos hnone, if_neg (by omega)]
    · rw [if_neg hnone, if_pos (by omega)]
  unfold takeInformation handOver checkInformation
  show (if infoSize > effectiveMaximumInformationFieldSize frame.destination.encodedSize
    frame.source.encodedSize limits then _ else _) = _
  rw [effectiveMaximumInformationFieldSize_eq, htaken, ← hsize]
  by_cases hlarge :
      frame.information.length > Hdlc.effectiveMaximumInformationFieldSize frame limits
  · rw [if_pos hlarge, if_pos hlarge]
    rfl
  · rw [if_neg hlarge, if_neg hlarge]
    rfl

theorem decodeRest_eq (fullFrameSize : Nat) (infoBuf : Option Nat) (segmented : Bool)
    (destination source : HdlcAddress) (control : HdlcControl) (offset : Nat)
    (hfull : 3 ≤ fullFrameSize) (hinput : input.length = fullFrameSize) :
    decodeRest input fullFrameSize limits infoBuf segmented (.ofHdlc destination)
        (.ofHdlc source) (.ofHdlc control) offset =
      (readInformation input fullFrameSize segmented destination source control offset).bind
        (handOver limits infoBuf) := by
  have hheader : 1 + (offset - 1) - 1 = offset - 1 := by omega
  have hframe : fullFrameSize - 3 - 1 = fullFrameSize - 4 := by omega
  unfold decodeRest readInformation
  simp only [sliceOf_eq, calculateHdlcCRC_eq, ne_eq, ← UInt16.toNat_inj,
    toNat_uint16LittleEndian, hheader, hframe]
  by_cases hone : fullFrameSize - 3 - offset = 1
  · rw [if_pos hone, if_pos hone]
    rfl
  rw [if_neg hone, if_neg hone]
  by_cases hhcs : ¬fullFrameSize - 3 - offset = 0 ∧
      ¬(calculateHdlcCrc (slice input 1 (offset - 1))).toNat = readUint16LowByteFirst input offset
  · rw [if_pos hhcs, if_pos hhcs]
    rfl
  rw [if_neg hhcs, if_neg hhcs]
  by_cases hfcs : ¬(calculateHdlcCrc (slice input 1 (fullFrameSize - 4))).toNat =
      readUint16LowByteFirst input (fullFrameSize - 3)
  · rw [if_pos hfcs, if_pos hfcs]
    rfl
  rw [if_neg hfcs, if_neg hfcs]
  -- What is left are the octets of the information, if there are any.
  by_cases hnone : fullFrameSize - 3 - offset = 0
  · rw [if_neg (not_not.mpr hnone), if_neg (not_not.mpr hnone), if_pos hnone]
    exact takeInformation_eq input limits infoBuf
      { segmented := segmented
        destination := destination
        source := source
        control := control
        information := [] } offset 0 rfl rfl
  · rw [if_pos hnone, if_pos hnone, if_neg hnone]
    refine takeInformation_eq input limits infoBuf
      { segmented := segmented
        destination := destination
        source := source
        control := control
        information := slice input (offset + 2) (fullFrameSize - 3 - (offset + 2)) }
      (offset + 2) (fullFrameSize - 3 - (offset + 2)) ?_ ?_
    · by_cases hempty : fullFrameSize - 3 - (offset + 2) = 0
      · rw [if_pos hempty, hempty]
        rfl
      · rw [if_neg hempty]
    · rw [slice, List.length_take, List.length_drop]
      omega

/-- What is read from a slice is what is read from a buffer, and handed over. -/
theorem decodeFrameFromBuffer_eq (infoBuf : Option Nat) :
    decodeFrameFromBuffer input limits infoBuf =
      (readFrame input limits).bind (handOver limits infoBuf) := by
  unfold decodeFrameFromBuffer readFrame
  dsimp only
  simp only [type_of_format, segmented_of_format, length_of_format, toNat_uint16BigEndian,
    maxFormatFieldLength_eq, effectiveMaximumFrameSize_eq, hdlcFlag_eq,
    show ∀ length, length + 2 - 1 = length + 1 from fun _ => rfl]
  -- Both make the same checks in the same order, up to the header.
  by_cases hshort : input.length < 4
  · rw [if_pos hshort, if_pos hshort]
    rfl
  rw [if_neg hshort, if_neg hshort]
  by_cases hopening : input.getD 0 0 ≠ Hdlc.hdlcFlag
  · rw [if_pos hopening, if_pos hopening]
    rfl
  rw [if_neg hopening, if_neg hopening]
  by_cases htype : readUint16HighByteFirst input 1 / 4096 ≠ Hdlc.frameFormatType3 / 4096
  · rw [if_pos htype, if_pos htype]
    rfl
  rw [if_neg htype, if_neg htype]
  by_cases hsmall : readUint16HighByteFirst input 1 % 2048 < 6
  · rw [if_pos hsmall, if_pos hsmall]
    rfl
  rw [if_neg hsmall, if_neg hsmall]
  by_cases hlong : readUint16HighByteFirst input 1 % 2048 > maximumFormatFieldLength
  · rw [if_pos hlong, if_pos hlong]
    rfl
  rw [if_neg hlong, if_neg hlong]
  by_cases hsize : readUint16HighByteFirst input 1 % 2048 + 2 >
      Hdlc.effectiveMaximumFrameSize limits
  · rw [if_pos hsize, if_pos hsize]
    rfl
  rw [if_neg hsize, if_neg hsize]
  by_cases hmore : input.length < readUint16HighByteFirst input 1 % 2048 + 2
  · rw [if_pos hmore, if_pos hmore]
    rfl
  rw [if_neg hmore, if_neg hmore]
  by_cases hless : input.length ≠ readUint16HighByteFirst input 1 % 2048 + 2
  · rw [if_pos hless, if_pos hless]
    rfl
  rw [if_neg hless, if_neg hless]
  by_cases hclosing : input.getD (readUint16HighByteFirst input 1 % 2048 + 1) 0 ≠ Hdlc.hdlcFlag
  · rw [if_pos hclosing, if_pos hclosing]
    rfl
  rw [if_neg hclosing, if_neg hclosing, decodeHeader_eq]
  cases Hdlc.decodeHeader input (readUint16HighByteFirst input 1 % 2048 + 2) with
  | error status => rfl
  | ok header =>
      rcases header with ⟨destination, source, control, offset⟩
      exact decodeRest_eq input limits _ infoBuf _ destination source control offset (by omega)
        (by omega)

/-- Without a buffer there is always room. -/
theorem decodeFrameFromBuffer_none :
    decodeFrameFromBuffer input limits none =
      (Hdlc.decodeFrame input limits).map
        fun frame => (.ofHdlc frame, frame.information.length) := by
  rw [decodeFrameFromBuffer_eq, Hdlc.decodeFrame_eq]
  cases readFrame input limits with
  | error status => rfl
  | ok frame =>
      show (checkInformation limits frame).bind _ = (checkInformation limits frame).map _
      cases checkInformation limits frame with
      | error status => rfl
      | ok frame => rfl

/-- A frame is decoded alike. -/
theorem decodeFrame_eq :
    decodeFrame input limits = (Hdlc.decodeFrame input limits).map .ofHdlc := by
  rw [decodeFrame, decodeFrameFromBuffer_none]
  cases Hdlc.decodeFrame input limits with
  | error status => rfl
  | ok frame => rfl

end Decoding

end GoHdlc

end Dlms
