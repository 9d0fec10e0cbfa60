import Dlms.Codec.Checks
import Dlms.Hdlc.StreamDecoder

/-!
# Buffers of the caller and of the library

The codec works on buffers that the caller provides: the octets of a frame go
into one, the information of a decoded frame into another. The functions that
return a vector make one first, of the largest size a frame may have between the
limits, hand it to the codec as such a buffer and shorten it afterwards.

Making the vector can fail. More octets than there is memory are refused with
an exception that the functions catch and turn into a status. More than a vector
can ever hold are refused with another one, which they do not catch. The
memory that is left is a parameter here, and data that is already at hand is
taken to fit into it: what fails is the vector whose size the limits alone give.

## Main definitions

* `encodeFrameToBuffer`, `decodeFrameFromBuffer`: The codec on buffers of the
  caller.
* `encodeFrameAllocating`, `decodeFrameAllocating`: The codec on buffers of its
  own.
* `pushAllocating`: The stream decoder, which decodes into such buffers.
* `Allocatable`: The largest frame between the limits can be given a vector.

## Theorems

* `encodeFrameToBuffer_eq`, `decodeFrameFromBuffer_eq`: Buffers that are large
  enough change nothing.
* `encodeFrameAllocating_eq`, `decodeFrameAllocating_eq`, `pushAllocating_eq`:
  Nor does making them, as long as it succeeds.
-/

namespace Dlms

namespace Hdlc

open Codec

/-- How a call ends: with a result, or with an exception. -/
inductive Outcome (α : Type) where
  | returned (result : α)
  | thrown
  deriving DecidableEq

/-! ### Buffers of the caller -/

/-- The octets that are written, and what is said of their number: when there is
    no room for them, how much is needed. -/
def encodeFrameToBuffer (frame : HdlcFrame) (limits : HdlcCodecLimits) (outputSize : Nat) :
    Except HdlcStatus Bytes × Nat :=
  if frame.information.length > effectiveMaximumInformationFieldSize frame limits then
    (.error .informationFieldTooLarge, 0)
  else if formatFieldLength frame > maximumFormatFieldLength then (.error .invalidFrameLength, 0)
  else if fullFrameSize frame > effectiveMaximumFrameSize limits then (.error .frameTooLarge, 0)
  else if outputSize < fullFrameSize frame then
    (.error .outputBufferTooSmall, fullFrameSize frame)
  else (.ok (frameBytes frame), fullFrameSize frame)

/-- The rest of a frame whose header has been read up to an offset, of any size. -/
def readInformation (input : Bytes) (fullSize : Nat) (segmented : Bool)
    (destination source : HdlcAddress) (control : HdlcControl) (offset : Nat) :
    Except HdlcStatus HdlcFrame :=
  let bytesBeforeFcs := fullSize - 3 - offset
  if bytesBeforeFcs = 1 then .error .invalidFrameLength
  else if bytesBeforeFcs ≠ 0 ∧
      (calculateHdlcCrc (slice input 1 (offset - 1))).toNat ≠
        readUint16LowByteFirst input offset then
    .error .invalidHeaderChecksum
  else if (calculateHdlcCrc (slice input 1 (fullSize - 4))).toNat ≠
      readUint16LowByteFirst input (fullSize - 3) then
    .error .invalidFrameChecksum
  else
    .ok
      { segmented := segmented
        destination := destination
        source := source
        control := control
        information := if bytesBeforeFcs = 0 then []
          else slice input (offset + 2) (fullSize - 3 - (offset + 2)) }

/-- A frame, as long as it is no larger than the limits say, with an information
    of any size. -/
def readFrame (input : Bytes) (limits : HdlcCodecLimits) : Except HdlcStatus HdlcFrame :=
  if input.length < 4 then .error .needMoreData
  else if input.getD 0 0 ≠ hdlcFlag then .error .invalidFlag
  else
    let format := readUint16HighByteFirst input 1
    let length := format % 2048
    if format / 4096 ≠ frameFormatType3 / 4096 then .error .invalidFrameFormat
    else if length < 6 then .error .invalidFrameLength
    else if length > maximumFormatFieldLength then .error .invalidFrameLength
    else if length + 2 > effectiveMaximumFrameSize limits then .error .frameTooLarge
    else if input.length < length + 2 then .error .needMoreData
    else if input.length ≠ length + 2 then .error .invalidFrameLength
    else if input.getD (length + 1) 0 ≠ hdlcFlag then .error .invalidFlag
    else do
      let (destination, source, control, offset) ← decodeHeader input (length + 2)
      readInformation input (length + 2) (format / 2048 % 2 == 1) destination source control
        offset

/-- The limit on the information of one frame. -/
def checkInformation (limits : HdlcCodecLimits) (frame : HdlcFrame) :
    Except HdlcStatus HdlcFrame :=
  if frame.information.length > effectiveMaximumInformationFieldSize frame limits then
    .error .informationFieldTooLarge
  else .ok frame

/-- The room for the information is checked before its limit. -/
def decodeFrameFromBuffer (input : Bytes) (limits : HdlcCodecLimits)
    (informationBufferSize : Nat) : Except HdlcStatus HdlcFrame := do
  let frame ← readFrame input limits
  if frame.information.length > informationBufferSize then .error .outputBufferTooSmall
  else checkInformation limits frame

/-! ### Buffers of the library -/

/-- The octets that a vector can have at most. -/
def maximumVectorSize : Nat := 2 ^ 63 - 1

/-- What giving a vector a size comes to. -/
inductive Assignment where
  | done
  | badAlloc
  | lengthError
  deriving DecidableEq, Repr

def assign (memory size : Nat) : Assignment :=
  if size > maximumVectorSize then .lengthError
  else if size > memory then .badAlloc
  else .done

/-- A vector of the largest frame between these limits can be made. -/
def Allocatable (memory : Nat) (limits : HdlcCodecLimits) : Prop :=
  effectiveMaximumFrameSize limits ≤ memory ∧
    effectiveMaximumFrameSize limits ≤ maximumVectorSize

instance (memory : Nat) (limits : HdlcCodecLimits) : Decidable (Allocatable memory limits) :=
  inferInstanceAs (Decidable (_ ∧ _))

def encodeFrameAllocating (memory : Nat) (frame : HdlcFrame) (limits : HdlcCodecLimits) :
    Outcome (Except HdlcStatus Bytes) :=
  match assign memory (effectiveMaximumFrameSize limits) with
  | .lengthError => .thrown
  | .badAlloc => .returned (.error .internalError)
  | .done =>
      .returned (encodeFrameToBuffer frame limits (effectiveMaximumFrameSize limits)).1

def decodeFrameAllocating (memory : Nat) (input : Bytes) (limits : HdlcCodecLimits) :
    Outcome (Except HdlcStatus HdlcFrame) :=
  match assign memory (effectiveMaximumFrameSize limits) with
  | .lengthError => .thrown
  | .badAlloc => .returned (.error .internalError)
  | .done => .returned (decodeFrameFromBuffer input limits (effectiveMaximumFrameSize limits))

namespace HdlcStreamDecoder

/-- The frames at the start of the buffer, each decoded into a vector of its own.
    An exception leaves the buffer as it is by then. -/
def extractFramesAllocating (memory : Nat) : Nat → HdlcStreamDecoder → List HdlcFrame →
    Outcome (Except HdlcStatus Unit × List HdlcFrame) × HdlcStreamDecoder
  | 0, decoder, frames => (.returned (pushStatus frames, frames), decoder)
  | fuel + 1, decoder, frames =>
      let found := decoder.buffer.dropWhile (· != hdlcFlag)
      if found.length ≠ decoder.buffer.length ∧ decoder.noisePolicy = .reportError then
        (.returned (.error .invalidFlag, frames), decoder.reset)
      else
        let decoder := { decoder with buffer := found }
        if found.length < 3 then (.returned (pushStatus frames, frames), decoder)
        else
          let frameFormat := readUint16HighByteFirst found 1
          let formatFieldLength := frameFormat % 2048
          if frameFormat / 4096 ≠ frameFormatType3 / 4096 then
            (.returned (.error .invalidFrameFormat, frames), decoder.reset)
          else if formatFieldLength < 6 then
            (.returned (.error .invalidFrameLength, frames), decoder.reset)
          else if formatFieldLength + 2 > effectiveMaximumFrameSize decoder.limits then
            (.returned (.error .frameTooLarge, frames), decoder.reset)
          else if found.length < formatFieldLength + 2 then
            (.returned (pushStatus frames, frames), decoder)
          else
            match decodeFrameAllocating memory (found.take (formatFieldLength + 2))
              decoder.limits with
            | .thrown => (.thrown, decoder)
            | .returned (.error status) => (.returned (.error status, frames), decoder.reset)
            | .returned (.ok frame) =>
                extractFramesAllocating memory fuel
                  { decoder with buffer := found.drop (formatFieldLength + 2) }
                  (frames ++ [frame])

def pushAllocating (memory : Nat) (decoder : HdlcStreamDecoder) (data : Bytes) :
    Outcome (Except HdlcStatus Unit × List HdlcFrame) × HdlcStreamDecoder :=
  let decoder := { decoder with buffer := decoder.buffer ++ data }
  extractFramesAllocating memory (decoder.buffer.length + 1) decoder []

/-- With the new octets there are all those of a frame, or of what begins like one,
    of a size between the limits. -/
def CompletesFrame (decoder : HdlcStreamDecoder) (data : Bytes) : Prop :=
  let found := (decoder.buffer ++ data).dropWhile (· != hdlcFlag)
  let formatFieldLength := readUint16HighByteFirst found 1 % 2048
  3 ≤ found.length ∧
    readUint16HighByteFirst found 1 / 4096 = frameFormatType3 / 4096 ∧
    6 ≤ formatFieldLength ∧
    formatFieldLength + 2 ≤ effectiveMaximumFrameSize decoder.limits ∧
    formatFieldLength + 2 ≤ found.length

end HdlcStreamDecoder

/-! ### Buffers that are large enough -/

section Enough

variable (frame : HdlcFrame) (limits : HdlcCodecLimits) (input : Bytes)

/-- A buffer as large as the largest frame has room for every one. -/
theorem encodeFrameToBuffer_eq (outputSize : Nat)
    (h : effectiveMaximumFrameSize limits ≤ outputSize) :
    (encodeFrameToBuffer frame limits outputSize).1 = encodeFrame frame limits := by
  unfold encodeFrameToBuffer encodeFrame
  by_cases hinformation :
      frame.information.length > effectiveMaximumInformationFieldSize frame limits
  · rw [if_pos hinformation, if_pos hinformation]
  rw [if_neg hinformation, if_neg hinformation]
  by_cases hlength : formatFieldLength frame > maximumFormatFieldLength
  · rw [if_pos hlength, if_pos hlength]
  rw [if_neg hlength, if_neg hlength]
  by_cases hsize : fullFrameSize frame > effectiveMaximumFrameSize limits
  · rw [if_pos hsize, if_pos hsize]
  · rw [if_neg hsize, if_neg hsize, if_neg (by omega)]

theorem decodeInformation_eq (fullSize : Nat) (segmented : Bool)
    (destination source : HdlcAddress) (control : HdlcControl) (offset : Nat) :
    decodeInformation input fullSize limits segmented destination source control offset =
      (readInformation input fullSize segmented destination source control offset).bind
        (checkInformation limits) := by
  unfold decodeInformation readInformation
  dsimp only
  by_cases hone : fullSize - 3 - offset = 1
  · rw [if_pos hone, if_pos hone]
    rfl
  rw [if_neg hone, if_neg hone]
  by_cases hheader : fullSize - 3 - offset ≠ 0 ∧
      (calculateHdlcCrc (slice input 1 (offset - 1))).toNat ≠ readUint16LowByteFirst input offset
  · rw [if_pos hheader, if_pos hheader]
    rfl
  rw [if_neg hheader, if_neg hheader]
  by_cases hframe : (calculateHdlcCrc (slice input 1 (fullSize - 4))).toNat ≠
      readUint16LowByteFirst input (fullSize - 3)
  · rw [if_pos hframe, if_pos hframe]
    rfl
  · rw [if_neg hframe, if_neg hframe]
    rfl

/-- Decoding is reading a frame and checking its information. -/
theorem decodeFrame_eq :
    decodeFrame input limits = (readFrame input limits).bind (checkInformation limits) := by
  unfold decodeFrame readFrame
  dsimp only
  -- Both make the same checks, and differ in what comes behind the last of them.
  simp only [check_bind]
  cases decodeHeader input (readUint16HighByteFirst input 1 % 2048 + 2) with
  | error status => rfl
  | ok header =>
      rcases header with ⟨destination, source, control, offset⟩
      have hrest := decodeInformation_eq limits input
        (readUint16HighByteFirst input 1 % 2048 + 2)
        (readUint16HighByteFirst input 1 / 2048 % 2 == 1) destination source control offset
      simp only [bind, Except.bind] at hrest ⊢
      rw [hrest]

/-- The information of a frame is shorter than the frame. -/
theorem length_of_readFrame (h : readFrame input limits = .ok frame) :
    frame.information.length ≤ effectiveMaximumFrameSize limits ∧
      frame.information.length < maximumFormatFieldLength := by
  unfold readFrame at h
  dsimp only at h
  simp only [check_eq_ok_iff] at h
  rcases h with ⟨-, -, -, hsix, hlength, hsize, -, -, -, h⟩
  cases hheader : decodeHeader input (readUint16HighByteFirst input 1 % 2048 + 2) with
  | error status =>
      rw [hheader] at h
      exact absurd h (by simp [bind, Except.bind])
  | ok header =>
      rcases header with ⟨destination, source, control, offset⟩
      rw [hheader] at h
      simp only [bind, Except.bind, readInformation] at h
      split_ifs at h
      all_goals
        rw [← Except.ok.inj h]
        simp only [List.length_nil, slice, List.length_take, List.length_drop]
        omega

/-- A buffer as large as the largest frame has room for every information. -/
theorem decodeFrameFromBuffer_eq (informationBufferSize : Nat)
    (h : effectiveMaximumFrameSize limits ≤ informationBufferSize) :
    decodeFrameFromBuffer input limits informationBufferSize = decodeFrame input limits := by
  rw [decodeFrame_eq, decodeFrameFromBuffer]
  cases hread : readFrame input limits with
  | error status => rfl
  | ok frame =>
      have hlength := (length_of_readFrame frame limits input hread).1
      exact if_neg (by omega)

end Enough

/-! ### Vectors that can be made -/

section Allocating

variable (memory : Nat) (frame : HdlcFrame) (limits : HdlcCodecLimits) (input : Bytes)
  (h : Allocatable memory limits)
include h

theorem assign_eq_done : assign memory (effectiveMaximumFrameSize limits) = .done := by
  rw [assign, if_neg (Nat.not_lt.mpr h.2), if_neg (Nat.not_lt.mpr h.1)]

theorem encodeFrameAllocating_eq :
    encodeFrameAllocating memory frame limits = .returned (encodeFrame frame limits) := by
  rw [encodeFrameAllocating, assign_eq_done memory limits h]
  exact congrArg Outcome.returned (encodeFrameToBuffer_eq frame limits _ (Nat.le_refl _))

theorem decodeFrameAllocating_eq :
    decodeFrameAllocating memory input limits = .returned (decodeFrame input limits) := by
  rw [decodeFrameAllocating, assign_eq_done memory limits h]
  exact congrArg Outcome.returned (decodeFrameFromBuffer_eq limits input _ (Nat.le_refl _))

end Allocating

namespace HdlcStreamDecoder

theorem extractFramesAllocating_eq (memory fuel : Nat) (decoder : HdlcStreamDecoder)
    (frames : List HdlcFrame) (h : Allocatable memory decoder.limits) :
    extractFramesAllocating memory fuel decoder frames =
      (.returned ((extractFrames fuel decoder frames).1, (extractFrames fuel decoder frames).2.1),
        (extractFrames fuel decoder frames).2.2) := by
  induction fuel generalizing decoder frames with
  | zero => rfl
  | succ fuel ih =>
      unfold extractFramesAllocating extractFrames
      dsimp only
      rw [decodeFrameAllocating_eq memory _ _ h]
      split_ifs
      all_goals try rfl
      cases decodeFrame _ decoder.limits with
      | error status => rfl
      | ok frame => exact ih _ _ h

/-- Nothing is decoded as long as no frame is complete. -/
theorem pushAllocating_eq (memory : Nat) (decoder : HdlcStreamDecoder) (data : Bytes)
    (h : decoder.CompletesFrame data → Allocatable memory decoder.limits) :
    decoder.pushAllocating memory data =
      (.returned ((decoder.push data).1, (decoder.push data).2.1), (decoder.push data).2.2) := by
  by_cases hallocatable : Allocatable memory decoder.limits
  · exact extractFramesAllocating_eq memory _ _ [] hallocatable
  have hincomplete : ¬decoder.CompletesFrame data := fun hcomplete => hallocatable (h hcomplete)
  unfold CompletesFrame at hincomplete
  dsimp only at hincomplete
  unfold pushAllocating push extractFramesAllocating extractFrames
  dsimp only
  -- The first round ends before it comes to decoding.
  split_ifs
  all_goals first
    | rfl
    | exact absurd ⟨by omega, by omega, by omega, by omega, by omega⟩ hincomplete

end HdlcStreamDecoder

end Hdlc

end Dlms
