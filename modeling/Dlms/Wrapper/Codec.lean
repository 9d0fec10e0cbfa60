import Dlms.Apdu.Axdr

/-!
# The wrapper sublayer

Eight octets in front of an APDU on a stream: a version, two ports and the number
of octets behind them, each of sixteen bits.

## Main definitions

* `WrapperHeader`, `decodeWrapperHeader`, `validateWrapperHeader`: The eight octets.
* `decodeWpdu`: With the octets behind them.
* `encodeWpdu`: A frame, when it fits.

## Theorems

* `encodeWpdu_eq_ok`: Which frames are encoded, and as what.
-/

namespace Dlms

namespace Wrapper

open Apdu (Bytes)

inductive WrapperStatus where
  | needMoreData
  | outputBufferTooSmall
  | invalidArgument
  | invalidVersion
  | invalidLength
  | invalidSourcePort
  | invalidDestinationPort
  | dataTooLarge
  | frameTooLarge
  | unsupportedFeature
  | internalError
  deriving DecidableEq, Repr

def wrapperVersion : Nat := 0x0001

def wrapperHeaderSize : Nat := 8

def maximumWrapperDataLength : Nat := 0xffff

def maximumWrapperFrameLength : Nat := wrapperHeaderSize + maximumWrapperDataLength

def noStation : Nat := 0x0000

def isNoStationWrapperPort (port : Nat) : Bool := port == noStation

/-- The fields are numbers of sixteen bits. -/
structure WrapperHeader where
  version : Nat
  sourcePort : Nat
  destinationPort : Nat
  dataLength : Nat
  deriving DecidableEq, Repr

structure WrapperFrameBuffer where
  sourcePort : Nat
  destinationPort : Nat
  data : Bytes
  deriving DecidableEq, Repr

structure WrapperCodecLimits where
  maximumDataSize : Nat
  maximumFrameSize : Nat
  deriving DecidableEq, Repr

def defaultWrapperCodecLimits : WrapperCodecLimits where
  maximumDataSize := maximumWrapperDataLength
  maximumFrameSize := maximumWrapperFrameLength

def readUint16 (input : Bytes) (offset : Nat) : Nat :=
  Codec.beWordAt input offset

/-- The fields of the first eight octets. -/
def headerOf (input : Bytes) : WrapperHeader where
  version := readUint16 input 0
  sourcePort := readUint16 input 2
  destinationPort := readUint16 input 4
  dataLength := readUint16 input 6

def decodeWrapperHeader (input : Bytes) : Except WrapperStatus WrapperHeader :=
  if input.length < wrapperHeaderSize then .error .needMoreData
  else if (headerOf input).version ≠ wrapperVersion then .error .invalidVersion
  else .ok (headerOf input)

def validateWrapperHeader (header : WrapperHeader) (limits : WrapperCodecLimits)
    (availableDataSize : Nat) : Except WrapperStatus Unit :=
  if header.version ≠ wrapperVersion then .error .invalidVersion
  else if header.dataLength > limits.maximumDataSize then .error .dataTooLarge
  else if wrapperHeaderSize + header.dataLength > limits.maximumFrameSize then
    .error .frameTooLarge
  else if availableDataSize < header.dataLength then .error .needMoreData
  else if availableDataSize > header.dataLength then .error .invalidLength
  else .ok ()

def decodeWpdu (input : Bytes) (limits : WrapperCodecLimits) :
    Except WrapperStatus WrapperFrameBuffer :=
  match decodeWrapperHeader input with
  | .error status => .error status
  | .ok header =>
      match validateWrapperHeader header limits (input.length - wrapperHeaderSize) with
      | .error status => .error status
      | .ok () =>
          if isNoStationWrapperPort header.sourcePort then .error .invalidSourcePort
          else if isNoStationWrapperPort header.destinationPort then
            .error .invalidDestinationPort
          else
            .ok
              { sourcePort := header.sourcePort
                destinationPort := header.destinationPort
                data := (input.drop wrapperHeaderSize).take header.dataLength }

/-! ### Encoding -/

/-- A frame of a caller. Its octets are a view, which is a list here. -/
structure WrapperFrame where
  sourcePort : UInt16
  destinationPort : UInt16
  data : Bytes
  deriving DecidableEq, Repr

/-- The frame that is decoded. -/
def WrapperFrame.buffered (frame : WrapperFrame) : WrapperFrameBuffer where
  sourcePort := frame.sourcePort.toNat
  destinationPort := frame.destinationPort.toNat
  data := frame.data

def writeUint16 (value : Nat) : Bytes := [UInt8.ofNat (value / 256), UInt8.ofNat value]

def encodeWrapperHeader (header : WrapperHeader) (outputSize : Nat) : Except WrapperStatus Bytes :=
  if header.version ≠ wrapperVersion then .error .invalidVersion
  else if outputSize < wrapperHeaderSize then .error .outputBufferTooSmall
  else
    .ok (writeUint16 header.version ++ writeUint16 header.sourcePort ++
      writeUint16 header.destinationPort ++ writeUint16 header.dataLength)

/-- The octets that are written, and what is said of their number: when there is no room for
    them, how much is needed. -/
def encodeWpduToBuffer (frame : WrapperFrame) (limits : WrapperCodecLimits) (outputSize : Nat) :
    Except WrapperStatus Bytes × Nat :=
  if isNoStationWrapperPort frame.sourcePort.toNat then (.error .invalidSourcePort, 0)
  else if isNoStationWrapperPort frame.destinationPort.toNat then
    (.error .invalidDestinationPort, 0)
  else if frame.data.length > maximumWrapperDataLength ∨
      frame.data.length > limits.maximumDataSize then (.error .dataTooLarge, 0)
  else
    let frameSize := wrapperHeaderSize + frame.data.length
    if frameSize > limits.maximumFrameSize then (.error .frameTooLarge, 0)
    else if outputSize < frameSize then (.error .outputBufferTooSmall, frameSize)
    else
      let header : WrapperHeader :=
        { version := wrapperVersion
          sourcePort := frame.sourcePort.toNat
          destinationPort := frame.destinationPort.toNat
          dataLength := frame.data.length % 65536 }
      match encodeWrapperHeader header outputSize with
      | .error status => (.error status, 0)
      | .ok bytes => (.ok (bytes ++ frame.data), frameSize)

def encodeWpdu (frame : WrapperFrame) (limits : WrapperCodecLimits) : Except WrapperStatus Bytes :=
  if frame.data.length > maximumWrapperDataLength ∨
      frame.data.length > limits.maximumDataSize then .error .dataTooLarge
  else
    let frameSize := wrapperHeaderSize + frame.data.length
    if frameSize > limits.maximumFrameSize then .error .frameTooLarge
    else (encodeWpduToBuffer frame limits frameSize).1

/-- The octets of a frame. -/
def wpduBytes (frame : WrapperFrame) : Bytes :=
  writeUint16 wrapperVersion ++ writeUint16 frame.sourcePort.toNat ++
    writeUint16 frame.destinationPort.toNat ++ writeUint16 frame.data.length ++ frame.data

/-- What is asked of a frame under some limits. -/
structure WrapperFrame.Fits (frame : WrapperFrame) (limits : WrapperCodecLimits) : Prop where
  sourcePort : isNoStationWrapperPort frame.sourcePort.toNat = false
  destinationPort : isNoStationWrapperPort frame.destinationPort.toNat = false
  dataLength : frame.data.length ≤ maximumWrapperDataLength
  dataSize : frame.data.length ≤ limits.maximumDataSize
  frameSize : wrapperHeaderSize + frame.data.length ≤ limits.maximumFrameSize

/-- A frame is encoded exactly when it fits, as its header and its octets. -/
theorem encodeWpdu_eq_ok (frame : WrapperFrame) (limits : WrapperCodecLimits) (bytes : Bytes) :
    encodeWpdu frame limits = .ok bytes ↔ frame.Fits limits ∧ bytes = wpduBytes frame := by
  unfold encodeWpdu
  by_cases hdata : frame.data.length > maximumWrapperDataLength ∨
      frame.data.length > limits.maximumDataSize
  · rw [if_pos hdata]
    simp only [reduceCtorEq, false_iff, not_and]
    intro hfits
    have hlength := hfits.dataLength
    have hsize := hfits.dataSize
    omega
  rw [if_neg hdata]
  dsimp only
  by_cases hframe : wrapperHeaderSize + frame.data.length > limits.maximumFrameSize
  · rw [if_pos hframe]
    simp only [reduceCtorEq, false_iff, not_and]
    intro hfits
    have hsize := hfits.frameSize
    omega
  rw [if_neg hframe]
  rw [not_or] at hdata
  have hlength : frame.data.length % 65536 = frame.data.length := by
    have hmaximum : maximumWrapperDataLength = 65535 := rfl
    omega
  have hroom : ¬wrapperHeaderSize + frame.data.length < wrapperHeaderSize := by omega
  unfold encodeWpduToBuffer encodeWrapperHeader
  by_cases hsource : isNoStationWrapperPort frame.sourcePort.toNat = true
  · rw [if_pos hsource]
    simp only [reduceCtorEq, false_iff, not_and]
    intro hfits
    exact absurd hfits.sourcePort (by rw [hsource]; decide)
  rw [if_neg hsource]
  by_cases hdestination : isNoStationWrapperPort frame.destinationPort.toNat = true
  · rw [if_pos hdestination]
    simp only [reduceCtorEq, false_iff, not_and]
    intro hfits
    exact absurd hfits.destinationPort (by rw [hdestination]; decide)
  -- All checks of the second function have been passed.
  rw [if_neg hdestination, if_neg (not_or.mpr hdata)]
  dsimp only
  rw [if_neg hframe, if_neg (Nat.lt_irrefl _), if_neg (not_not.mpr rfl), if_neg hroom, hlength]
  dsimp only
  rw [Except.ok.injEq]
  constructor
  · rintro rfl
    exact ⟨⟨Bool.eq_false_iff.mpr hsource, Bool.eq_false_iff.mpr hdestination,
      Nat.le_of_not_lt hdata.1, Nat.le_of_not_lt hdata.2, Nat.le_of_not_lt hframe⟩, rfl⟩
  · rintro ⟨-, rfl⟩
    rfl

end Wrapper

end Dlms
