import Dlms.Codec.BigEndian

/-!
# Statuses and limits of the data link

## Main definitions

* `HdlcStatus`: The failure codes.
* `HdlcCodecLimits`: What a codec takes; zero stands for a default.
-/

namespace Dlms

namespace Hdlc

/-- Bytes on the wire. -/
abbrev Bytes : Type := List UInt8

/-- Failure codes of the data link. -/
inductive HdlcStatus where
  | needMoreData
  | outputBufferTooSmall
  | invalidArgument
  | invalidFlag
  | invalidFrameFormat
  | invalidFrameType
  | invalidFrameLength
  | invalidAddress
  | invalidControlField
  | invalidHeaderChecksum
  | invalidFrameChecksum
  | frameTooLarge
  | informationFieldTooLarge
  | segmentationError
  | segmentationIncomplete
  | segmentationOverflow
  | unsupportedFrame
  | unsupportedAddress
  | unsupportedFeature
  | internalError
  deriving DecidableEq, Repr

/-- The sizes a codec takes. -/
structure HdlcCodecLimits where
  /-- Octets of a frame with its flags. -/
  maximumFrameSize : Nat
  /-- Octets of the information of one frame. -/
  maximumInformationFieldSize : Nat
  /-- Octets of the information of all segments. -/
  maximumReassembledInformationSize : Nat
  deriving DecidableEq, Repr

def defaultHdlcCodecLimits : HdlcCodecLimits where
  maximumFrameSize := 2049
  maximumInformationFieldSize := 0
  maximumReassembledInformationSize := 65535

end Hdlc

end Dlms
