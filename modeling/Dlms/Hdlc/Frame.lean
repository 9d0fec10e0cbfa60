import Dlms.Hdlc.Address
import Dlms.Hdlc.Control
import Mathlib.Data.List.GetD

/-!
# HDLC frames

A frame stands between two flags: a format field of two octets with the length
of what is between the flags, the two addresses, the control field, then the
information behind a checksum of the header, and a checksum of all. A frame
without information has no header checksum.

The source encodes into a buffer of the largest frame and shortens it
afterwards. The buffer is then never too small and an address is always
written, so that an encoding is either refused for a size or is the octets of
the frame. The owned frame of the source and the one that points to its
information are one structure here.

## Main definitions

* `HdlcFrame`: A frame.
* `calculateHdlcCrc`: The checksum.
* `encodeFrame`, `decodeFrame`: The codec.

## Theorems

* `encodeFrame_eq_ok`: What an encoding is.
* `decodeFrame_frameBytes`: What is encoded is decoded to the same frame, unless
  it is too large for the receiver.
-/

namespace Dlms

namespace Hdlc

/-- A frame without its flags and checksums. -/
structure HdlcFrame where
  /-- More segments follow. -/
  segmented : Bool
  destination : HdlcAddress
  source : HdlcAddress
  control : HdlcControl
  information : Bytes
  deriving DecidableEq

def hdlcFlag : UInt8 := 0x7E

def frameFormatType3 : Nat := 0xA000

def segmentationBit : Nat := 0x0800

def maximumFormatFieldLength : Nat := 2047

/-! ### The checksum -/

def crcPolynomial : UInt16 := 0x8408

def shiftCrc (crc : UInt16) : UInt16 :=
  if crc &&& 0x0001 ≠ 0 then (crc >>> 1) ^^^ crcPolynomial else crc >>> 1

def updateCrc (crc : UInt16) (value : UInt8) : UInt16 :=
  (List.range 8).foldl (fun crc _ => shiftCrc crc) (crc ^^^ value.toUInt16)

def calculateHdlcCrc (data : Bytes) : UInt16 := data.foldl updateCrc 0xFFFF ^^^ 0xFFFF

/-! ### Sizes -/

def effectiveMaximumFrameSize (limits : HdlcCodecLimits) : Nat :=
  if limits.maximumFrameSize = 0 then 2049 else limits.maximumFrameSize

/-- Octets from the format field to the control field. -/
def headerSize (frame : HdlcFrame) : Nat :=
  2 + frame.destination.encodedSize + frame.source.encodedSize + 1

def effectiveMaximumInformationFieldSize (frame : HdlcFrame) (limits : HdlcCodecLimits) : Nat :=
  if limits.maximumInformationFieldSize ≠ 0 then limits.maximumInformationFieldSize
  else if effectiveMaximumFrameSize limits < 2 + headerSize frame + 2 + 2 then 0
  else effectiveMaximumFrameSize limits - 2 - headerSize frame - 2 - 2

/-- Octets between the flags. -/
def formatFieldLength (frame : HdlcFrame) : Nat :=
  headerSize frame + (if frame.information = [] then 0 else 2) + frame.information.length + 2

def fullFrameSize (frame : HdlcFrame) : Nat := formatFieldLength frame + 2

/-! ### Encoding -/

def writeUint16LowByteFirst (value : UInt16) : Bytes :=
  [UInt8.ofNat (value.toNat % 256), UInt8.ofNat (value.toNat / 256)]

def writeUint16HighByteFirst (value : Nat) : Bytes :=
  [UInt8.ofNat (value / 256), UInt8.ofNat (value % 256)]

def frameFormat (frame : HdlcFrame) : Nat :=
  frameFormatType3 + (if frame.segmented then segmentationBit else 0) + formatFieldLength frame

/-- The octets that the checksum of the header is made over. -/
def headerBytes (frame : HdlcFrame) : Bytes :=
  writeUint16HighByteFirst (frameFormat frame) ++ frame.destination.encode ++
    frame.source.encode ++ [frame.control.encode]

/-- The octets that the checksum of the frame is made over. -/
def checkedBytes (frame : HdlcFrame) : Bytes :=
  headerBytes frame ++
    if frame.information = [] then []
    else writeUint16LowByteFirst (calculateHdlcCrc (headerBytes frame)) ++ frame.information

def frameBytes (frame : HdlcFrame) : Bytes :=
  [hdlcFlag] ++ checkedBytes frame ++
    writeUint16LowByteFirst (calculateHdlcCrc (checkedBytes frame)) ++ [hdlcFlag]

def encodeFrame (frame : HdlcFrame) (limits : HdlcCodecLimits) : Except HdlcStatus Bytes :=
  if frame.information.length > effectiveMaximumInformationFieldSize frame limits then
    .error .informationFieldTooLarge
  else if formatFieldLength frame > maximumFormatFieldLength then .error .invalidFrameLength
  else if fullFrameSize frame > effectiveMaximumFrameSize limits then .error .frameTooLarge
  else .ok (frameBytes frame)

/-! ### Decoding -/

/-- The octets from an offset on, as many as a size says. -/
def slice (input : Bytes) (offset size : Nat) : Bytes := (input.drop offset).take size

def readUint16LowByteFirst (input : Bytes) (offset : Nat) : Nat :=
  (input.getD offset 0).toNat + (input.getD (offset + 1) 0).toNat * 256

def readUint16HighByteFirst (input : Bytes) (offset : Nat) : Nat :=
  Codec.beWordAt input offset

/-- The addresses and the control field behind the format field of a frame of
    this size, and the offset behind them. -/
def decodeHeader (input : Bytes) (fullSize : Nat) :
    Except HdlcStatus (HdlcAddress × HdlcAddress × HdlcControl × Nat) := do
  let (destination, consumed) ← HdlcAddress.fromBytes (slice input 3 (fullSize - 1 - 3))
  let offset := 3 + consumed
  let (source, consumed) ← HdlcAddress.fromBytes (slice input offset (fullSize - 1 - offset))
  let offset := offset + consumed
  if offset ≥ fullSize - 3 then
    throw .invalidFrameLength
  let control ← HdlcControl.decode (input.getD offset 0)
  return (destination, source, control, offset + 1)

/-- The rest of a frame whose header has been read up to an offset. -/
def decodeInformation (input : Bytes) (fullSize : Nat) (limits : HdlcCodecLimits)
    (segmented : Bool) (destination source : HdlcAddress) (control : HdlcControl)
    (offset : Nat) : Except HdlcStatus HdlcFrame :=
  let bytesBeforeFcs := fullSize - 3 - offset
  if bytesBeforeFcs = 1 then .error .invalidFrameLength
  else if bytesBeforeFcs ≠ 0 ∧
      (calculateHdlcCrc (slice input 1 (offset - 1))).toNat ≠
        readUint16LowByteFirst input offset then
    .error .invalidHeaderChecksum
  else if (calculateHdlcCrc (slice input 1 (fullSize - 4))).toNat ≠
      readUint16LowByteFirst input (fullSize - 3) then
    .error .invalidFrameChecksum
  else
    let frame : HdlcFrame :=
      { segmented := segmented
        destination := destination
        source := source
        control := control
        information := if bytesBeforeFcs = 0 then []
          else slice input (offset + 2) (fullSize - 3 - (offset + 2)) }
    if frame.information.length > effectiveMaximumInformationFieldSize frame limits then
      .error .informationFieldTooLarge
    else .ok frame

def decodeFrame (input : Bytes) (limits : HdlcCodecLimits) : Except HdlcStatus HdlcFrame :=
  if input.length < 4 then .error .needMoreData
  else if input.getD 0 0 ≠ hdlcFlag then .error .invalidFlag
  else
    let format := readUint16HighByteFirst input 1
    let length := format % 2048
    if format / 4096 ≠ frameFormatType3 / 4096 then .error .invalidFrameFormat
    else if length < 6 then .error .invalidFrameLength
    else if length > maximumFormatFieldLength then .error .invalidFrameLength
    else if length + 2 > effectiveMaximumFrameSize limits then .error .frameTooLarge
    else if input.length < length + 2 then .error .needMoreData
    else if input.length ≠ length + 2 then .error .invalidFrameLength
    else if input.getD (length + 1) 0 ≠ hdlcFlag then .error .invalidFlag
    else do
      let (destination, source, control, offset) ← decodeHeader input (length + 2)
      decodeInformation input (length + 2) limits (format / 2048 % 2 == 1) destination source
        control offset

/-! ### What an encoding is -/

section Encoding

variable (frame : HdlcFrame) (limits : HdlcCodecLimits)

/-- The frame has its place between these limits. -/
def Fits : Prop :=
  frame.information.length ≤ effectiveMaximumInformationFieldSize frame limits ∧
    formatFieldLength frame ≤ maximumFormatFieldLength ∧
    fullFrameSize frame ≤ effectiveMaximumFrameSize limits

theorem encodeFrame_eq_ok (bytes : Bytes) :
    encodeFrame frame limits = .ok bytes ↔ Fits frame limits ∧ bytes = frameBytes frame := by
  unfold encodeFrame Fits
  split_ifs with hinformation hlength hsize
  · simp only [false_iff]
    omega
  · simp only [false_iff]
    omega
  · simp only [false_iff]
    omega
  · constructor
    · intro h
      exact ⟨⟨by omega, by omega, by omega⟩, (Except.ok.inj h).symm⟩
    · rintro ⟨-, rfl⟩
      rfl

theorem length_headerBytes : (headerBytes frame).length = headerSize frame := by
  simp only [headerBytes, writeUint16HighByteFirst, List.length_append, List.length_cons,
    List.length_nil, HdlcAddress.length_encode, headerSize]

theorem length_checkedBytes : (checkedBytes frame).length + 2 = formatFieldLength frame := by
  rw [checkedBytes, List.length_append, length_headerBytes, formatFieldLength]
  split_ifs with hempty
  · rw [hempty, List.length_nil]
  · simp only [writeUint16LowByteFirst, List.length_append, List.length_cons, List.length_nil]
    omega

theorem length_frameBytes : (frameBytes frame).length = fullFrameSize frame := by
  have hchecked := length_checkedBytes frame
  simp only [frameBytes, writeUint16LowByteFirst, List.length_append, List.length_cons,
    List.length_nil, fullFrameSize]
  omega

end Encoding

/-! ### What a decoder finds in it -/

section Lookup

variable (before middle after : Bytes) (offset size : Nat) (hoffset : offset = before.length)
include hoffset

theorem slice_append (hsize : size = middle.length) :
    slice (before ++ (middle ++ after)) offset size = middle := by
  rw [slice, hoffset, hsize, List.drop_left, List.take_left]

/-- A slice that is long enough starts with what stands at its offset. -/
theorem slice_append_of_le (hsize : middle.length ≤ size) :
    slice (before ++ (middle ++ after)) offset size =
      middle ++ after.take (size - middle.length) := by
  rw [slice, hoffset, List.drop_left, List.take_append, List.take_of_length_le hsize]

theorem getD_append (byte : UInt8) : (before ++ (byte :: after)).getD offset 0 = byte := by
  rw [hoffset, List.getD_append_right _ _ _ _ (Nat.le_refl _), Nat.sub_self]
  rfl

theorem readLow_append (value : UInt16) :
    readUint16LowByteFirst (before ++ (writeUint16LowByteFirst value ++ after)) offset =
      value.toNat := by
  have hlow : before ++ (writeUint16LowByteFirst value ++ after) =
      before ++ (UInt8.ofNat (value.toNat % 256) :: (UInt8.ofNat (value.toNat / 256) :: after)) :=
    rfl
  have hhigh : before ++ (writeUint16LowByteFirst value ++ after) =
      (before ++ [UInt8.ofNat (value.toNat % 256)]) ++
        (UInt8.ofNat (value.toNat / 256) :: after) := by
    rw [hlow, List.append_assoc]
    rfl
  have hnext : offset + 1 = (before ++ [UInt8.ofNat (value.toNat % 256)]).length := by
    rw [List.length_append, hoffset]
    rfl
  have hbound := value.toNat_lt
  rw [readUint16LowByteFirst]
  conv_lhs =>
    congr
    · rw [hlow, getD_append _ _ _ hoffset]
    · rw [hhigh, getD_append _ _ _ hnext]
  rw [UInt8.toNat_ofNat', UInt8.toNat_ofNat']
  omega

end Lookup

section Decoding

variable (frame : HdlcFrame)

/-- What stands behind the header. -/
def informationBytes : Bytes :=
  if frame.information = [] then []
  else writeUint16LowByteFirst (calculateHdlcCrc (headerBytes frame)) ++ frame.information

def trailerBytes : Bytes :=
  writeUint16LowByteFirst (calculateHdlcCrc (checkedBytes frame)) ++ [hdlcFlag]

theorem frameBytes_checked :
    frameBytes frame = [hdlcFlag] ++ (checkedBytes frame ++ trailerBytes frame) := by
  simp [frameBytes, trailerBytes]

theorem frameBytes_header : frameBytes frame =
    [hdlcFlag] ++ (headerBytes frame ++ (informationBytes frame ++ trailerBytes frame)) := by
  rw [frameBytes_checked, checkedBytes, informationBytes, List.append_assoc]

theorem frameBytes_addresses : frameBytes frame =
    ([hdlcFlag] ++ writeUint16HighByteFirst (frameFormat frame)) ++
      (frame.destination.encode ++ (frame.source.encode ++
        (frame.control.encode :: (informationBytes frame ++ trailerBytes frame)))) := by
  rw [frameBytes_header, headerBytes]
  simp

/-- The header checksum stands in front of the information. -/
theorem frameBytes_information (h : frame.information ≠ []) : frameBytes frame =
    ([hdlcFlag] ++ headerBytes frame) ++
      (writeUint16LowByteFirst (calculateHdlcCrc (headerBytes frame)) ++
        (frame.information ++ trailerBytes frame)) := by
  rw [frameBytes_header, informationBytes, if_neg h]
  simp

theorem headerSize_pos : 5 ≤ headerSize frame := by
  have hdestination := frame.destination.size_cases
  have hsource := frame.source.size_cases
  rw [headerSize]
  omega

theorem length_informationBytes :
    (informationBytes frame).length + headerSize frame + 4 = fullFrameSize frame := by
  have hchecked := length_checkedBytes frame
  rw [checkedBytes, List.length_append, length_headerBytes] at hchecked
  rw [informationBytes, fullFrameSize]
  omega

/-- The format field says what it was made of. -/
theorem readFormat (h : formatFieldLength frame ≤ maximumFormatFieldLength) :
    readUint16HighByteFirst (frameBytes frame) 1 = frameFormat frame := by
  have hbound : frameFormat frame < 65536 := by
    rw [frameFormat, frameFormatType3, segmentationBit]
    rw [maximumFormatFieldLength] at h
    split_ifs <;> omega
  rw [frameBytes_addresses, readUint16HighByteFirst, Codec.beWordAt, writeUint16HighByteFirst]
  simp only [List.cons_append, List.nil_append, List.getD_cons_succ, List.getD_cons_zero]
  rw [UInt8.toNat_ofNat', UInt8.toNat_ofNat']
  omega

/-- The parts of the format field: the length, the type and the segmentation bit. -/
theorem frameFormat_fields (h : formatFieldLength frame ≤ maximumFormatFieldLength) :
    frameFormat frame % 2048 = formatFieldLength frame ∧
      frameFormat frame / 4096 = frameFormatType3 / 4096 ∧
      (frameFormat frame / 2048 % 2 == 1) = frame.segmented := by
  rw [maximumFormatFieldLength] at h
  rw [frameFormat, frameFormatType3, segmentationBit]
  cases frame.segmented with
  | false =>
      simp only [Bool.false_eq_true, if_false, beq_eq_false_iff_ne, ne_eq]
      omega
  | true =>
      simp only [if_true, beq_iff_eq]
      omega

/-- The header is read back. -/
theorem decodeHeader_frameBytes :
    decodeHeader (frameBytes frame) (fullFrameSize frame) =
      .ok (frame.destination, frame.source, frame.control, 1 + headerSize frame) := by
  have hsize := length_informationBytes frame
  have hheader : headerSize frame =
      2 + frame.destination.encodedSize + frame.source.encodedSize + 1 := rfl
  -- The three fields stand one behind the other, in front of the information.
  have hdestination : slice (frameBytes frame) 3 (fullFrameSize frame - 1 - 3) =
      frame.destination.encode ++ (frame.source.encode ++
        (frame.control.encode :: (informationBytes frame ++ trailerBytes frame))).take
          (fullFrameSize frame - 1 - 3 - frame.destination.encode.length) := by
    rw [frameBytes_addresses]
    refine slice_append_of_le _ _ _ _ _ rfl ?_
    rw [HdlcAddress.length_encode]
    omega
  have hsource : slice (frameBytes frame) (3 + frame.destination.encodedSize)
      (fullFrameSize frame - 1 - (3 + frame.destination.encodedSize)) =
      frame.source.encode ++
        (frame.control.encode :: (informationBytes frame ++ trailerBytes frame)).take
          (fullFrameSize frame - 1 - (3 + frame.destination.encodedSize) -
            frame.source.encode.length) := by
    rw [frameBytes_addresses, ← List.append_assoc]
    refine slice_append_of_le _ _ _ _ _ ?_ ?_
    · rw [List.length_append, HdlcAddress.length_encode]
      rfl
    · rw [HdlcAddress.length_encode]
      omega
  have hcontrol : (frameBytes frame).getD
      (3 + frame.destination.encodedSize + frame.source.encodedSize) 0 = frame.control.encode := by
    rw [frameBytes_addresses, ← List.append_assoc, ← List.append_assoc]
    refine getD_append _ _ _ ?_ _
    rw [List.length_append, List.length_append, HdlcAddress.length_encode,
      HdlcAddress.length_encode]
    rfl
  have hroom : ¬ 3 + frame.destination.encodedSize + frame.source.encodedSize ≥
      fullFrameSize frame - 3 := by
    omega
  have hoffset : 3 + frame.destination.encodedSize + frame.source.encodedSize + 1 =
      1 + headerSize frame := by
    omega
  rw [decodeHeader, hdestination, HdlcAddress.fromBytes_encode]
  simp only [bind, Except.bind, hsource, HdlcAddress.fromBytes_encode, hroom, if_false, hcontrol,
    HdlcControl.decode_encode, hoffset]
  rfl

/-- And the information behind it, when the receiver takes as much. -/
theorem decodeInformation_frameBytes (limits : HdlcCodecLimits) :
    decodeInformation (frameBytes frame) (fullFrameSize frame) limits frame.segmented
      frame.destination frame.source frame.control (1 + headerSize frame) =
      if frame.information.length > effectiveMaximumInformationFieldSize frame limits then
        .error .informationFieldTooLarge
      else .ok frame := by
  have hsize := length_informationBytes frame
  have hcount : fullFrameSize frame - 3 - (1 + headerSize frame) =
      (informationBytes frame).length := by
    omega
  have hchecked : slice (frameBytes frame) 1 (fullFrameSize frame - 4) = checkedBytes frame := by
    rw [frameBytes_checked]
    refine slice_append _ _ _ _ _ rfl ?_
    have hlength := length_checkedBytes frame
    rw [fullFrameSize]
    omega
  have hfcs : readUint16LowByteFirst (frameBytes frame) (fullFrameSize frame - 3) =
      (calculateHdlcCrc (checkedBytes frame)).toNat := by
    rw [frameBytes_checked, ← List.append_assoc, trailerBytes]
    refine readLow_append _ _ _ ?_ _
    have hlength := length_checkedBytes frame
    rw [List.length_append, List.length_singleton, fullFrameSize]
    omega
  -- A header checksum is there exactly when there is information.
  have hheaderSlice : slice (frameBytes frame) 1 (1 + headerSize frame - 1) =
      headerBytes frame := by
    rw [frameBytes_header]
    refine slice_append _ _ _ _ _ rfl ?_
    rw [length_headerBytes]
    omega
  have hone : (informationBytes frame).length ≠ 1 := by
    rw [informationBytes]
    split_ifs
    · exact Nat.zero_ne_one
    · rw [List.length_append]
      simp only [writeUint16LowByteFirst, List.length_cons, List.length_nil]
      omega
  have hhcs : ¬ ((informationBytes frame).length ≠ 0 ∧
      (calculateHdlcCrc (headerBytes frame)).toNat ≠
        readUint16LowByteFirst (frameBytes frame) (1 + headerSize frame)) := by
    rintro ⟨hsome, hwrong⟩
    by_cases hempty : frame.information = []
    · exact hsome (by rw [informationBytes, if_pos hempty, List.length_nil])
    · apply hwrong
      rw [frameBytes_information frame hempty]
      refine (readLow_append _ _ _ ?_ _).symm
      rw [List.length_append, length_headerBytes]
      rfl
  have hinformation : (if (informationBytes frame).length = 0 then []
      else slice (frameBytes frame) (1 + headerSize frame + 2)
        (fullFrameSize frame - 3 - (1 + headerSize frame + 2))) = frame.information := by
    by_cases hempty : frame.information = []
    · have hnone : informationBytes frame = [] := by
        rw [informationBytes, if_pos hempty]
      rw [hnone, hempty]
      rfl
    · have hsome : informationBytes frame =
          writeUint16LowByteFirst (calculateHdlcCrc (headerBytes frame)) ++ frame.information := by
        rw [informationBytes, if_neg hempty]
      have hlength : (informationBytes frame).length = 2 + frame.information.length := by
        rw [hsome, List.length_append]
        rfl
      rw [if_neg (by omega), frameBytes_information frame hempty, ← List.append_assoc]
      refine slice_append _ _ _ _ _ ?_ ?_
      · rw [List.length_append, List.length_append, length_headerBytes]
        rfl
      · omega
  rw [decodeInformation]
  simp only [hcount, hchecked, hfcs, hheaderSlice, hone, hhcs, hinformation, ne_eq,
    not_true_eq_false, if_false]

/-- What was encoded is decoded to the same frame, unless it is too large for
    the receiver. -/
theorem decodeFrame_frameBytes (limits : HdlcCodecLimits)
    (h : formatFieldLength frame ≤ maximumFormatFieldLength) :
    decodeFrame (frameBytes frame) limits =
      if fullFrameSize frame > effectiveMaximumFrameSize limits then .error .frameTooLarge
      else if frame.information.length > effectiveMaximumInformationFieldSize frame limits then
        .error .informationFieldTooLarge
      else .ok frame := by
  have hsize := length_informationBytes frame
  have hpositive := headerSize_pos frame
  have hlength := length_frameBytes frame
  have hfull : fullFrameSize frame = formatFieldLength frame + 2 := rfl
  have hflag : (frameBytes frame).getD 0 0 = hdlcFlag := rfl
  have hformat := frameFormat_fields frame h
  -- The closing flag stands behind what the last checksum covers.
  have hend : (frameBytes frame).getD (formatFieldLength frame + 1) 0 = hdlcFlag := by
    rw [frameBytes_checked, trailerBytes, ← List.append_assoc, ← List.append_assoc]
    refine getD_append _ _ _ ?_ _
    have hchecked := length_checkedBytes frame
    simp only [List.length_append, writeUint16LowByteFirst, List.length_cons, List.length_nil]
    omega
  rw [decodeFrame, if_neg (by omega), hflag, if_neg (by simp), readFormat frame h]
  simp only [hformat.1, hformat.2.1, hformat.2.2, ne_eq, not_true_eq_false, if_false]
  rw [if_neg (by omega), if_neg (by omega)]
  -- Only the sizes depend on the receiver.
  by_cases hlarge : fullFrameSize frame > effectiveMaximumFrameSize limits
  · rw [if_pos (by omega), if_pos hlarge]
  · rw [if_neg (by omega), if_neg hlarge, if_neg (by omega), if_neg (by omega), hend,
      if_neg (by simp), ← hfull,
      decodeHeader_frameBytes]
    exact decodeInformation_frameBytes frame limits

/-- What has its place between the limits of the receiver is decoded. -/
theorem decodeFrame_of_fits (limits : HdlcCodecLimits) (h : Fits frame limits) :
    decodeFrame (frameBytes frame) limits = .ok frame := by
  rcases h with ⟨hinformation, hlength, hsize⟩
  rw [decodeFrame_frameBytes frame limits hlength, if_neg (by omega), if_neg (by omega)]

end Decoding

end Hdlc

end Dlms
