import Dlms.Hdlc.Buffers
import Dlms.Hdlc.Segmentation
import Mathlib.Logic.Function.Basic

/-!
# The interface for C

Functions for programs that are not written in C++. What they take are pointers
and sizes, any of which may be null, and what they give is a status and what they
have written through the pointers: a size, a frame and the octets of a buffer. A
frame that is given out points into the buffer of the caller.

No exception leaves them: it becomes a status, and what the object held by then
it holds afterwards.

A handle stands for a decoder or a reassembler that has been created. There may
be any number of them, each with limits of its own.

## Main definitions

* `CBytes`, `CBuffer`, `CInputFrame`, `CFrame`: What is behind the pointers.
* `CAnswer`: What a call leaves behind.
* `CCall`, `CHandles`: The calls and the objects behind the handles.
* `cCall`: A call on all of them.
-/

namespace Dlms

namespace Hdlc

/-! ### What is behind the pointers -/

/-- A pointer to octets that are read, with the size that comes with it. -/
inductive CBytes where
  | null (size : Nat)
  | octets (bytes : Bytes)
  deriving DecidableEq

/-- A pointer to a buffer that is written, with its size. The address zero is the
    null pointer. -/
structure CBuffer where
  address : Nat
  size : Nat
  deriving DecidableEq

/-- A frame that is read. -/
structure CInputFrame where
  segmented : UInt8
  destinationAddressRaw : UInt32
  destinationAddressSize : Nat
  sourceAddressRaw : UInt32
  sourceAddressSize : Nat
  control : UInt8
  information : CBytes
  deriving DecidableEq

/-- A frame that is written; its information is where a pointer points to. -/
structure CFrame where
  segmented : UInt8
  destinationAddressRaw : UInt32
  destinationAddressSize : Nat
  sourceAddressRaw : UInt32
  sourceAddressSize : Nat
  control : UInt8
  informationData : Nat
  informationSize : Nat
  deriving DecidableEq

/-- What a call leaves behind: its status, and what stands behind the pointers
    that are not null. -/
structure CAnswer where
  status : Except HdlcStatus Unit
  size : Option Nat := none
  frame : Option CFrame := none
  hasCompletedFrame : Option Nat := none
  /-- What has been written to the buffer. -/
  written : Bytes := []
  deriving DecidableEq

/-- Where a size is written to, it is set to zero first. -/
def zeroed (given : Bool) : Option Nat := if given then some 0 else none

/-! ### Conversions -/

def toCppLimits (limits : Option HdlcCodecLimits) : HdlcCodecLimits :=
  match limits with
  | none => defaultHdlcCodecLimits
  | some limits =>
      { maximumFrameSize :=
          if limits.maximumFrameSize ≠ 0 then limits.maximumFrameSize
          else defaultHdlcCodecLimits.maximumFrameSize
        maximumInformationFieldSize :=
          if limits.maximumInformationFieldSize ≠ 0 then limits.maximumInformationFieldSize
          else defaultHdlcCodecLimits.maximumInformationFieldSize
        maximumReassembledInformationSize :=
          if limits.maximumReassembledInformationSize ≠ 0 then
            limits.maximumReassembledInformationSize
          else defaultHdlcCodecLimits.maximumReassembledInformationSize }

/-- The octets behind a pointer; a null pointer has none. -/
def readBytes (bytes : CBytes) : Except HdlcStatus Bytes :=
  match bytes with
  | .null size => if size ≠ 0 then .error .invalidArgument else .ok []
  | .octets bytes => .ok bytes

def toCppFrame (frame : CInputFrame) : Except HdlcStatus HdlcFrame := do
  let information ← readBytes frame.information
  let destination ← HdlcAddress.fromRaw frame.destinationAddressRaw frame.destinationAddressSize
  let source ← HdlcAddress.fromRaw frame.sourceAddressRaw frame.sourceAddressSize
  let control ← HdlcControl.decode frame.control
  return { segmented := frame.segmented != 0
           destination := destination
           source := source
           control := control
           information := information }

/-- The frame with its information at an address. -/
def fromCppFrame (frame : HdlcFrame) (address : Nat) : CFrame where
  segmented := if frame.segmented then 1 else 0
  destinationAddressRaw := UInt32.ofNat frame.destination.rawValue
  destinationAddressSize := frame.destination.encodedSize
  sourceAddressRaw := UInt32.ofNat frame.source.rawValue
  sourceAddressSize := frame.source.encodedSize
  control := frame.control.encode
  informationData := address
  informationSize := frame.information.length

def clearFrame : CFrame where
  segmented := 0
  destinationAddressRaw := 0
  destinationAddressSize := 0
  sourceAddressRaw := 0
  sourceAddressSize := 0
  control := 0
  informationData := 0
  informationSize := 0

/-- A call that fails: the size is zero and the frame is cleared. -/
def refused (status : HdlcStatus) (frame : Option CFrame) (hasSize : Bool) : CAnswer where
  status := .error status
  size := zeroed hasSize
  frame := frame.map fun _ => clearFrame

/-- A frame that is given out. -/
def delivered (frame : HdlcFrame) (buffer : CBuffer) : CAnswer where
  status := .ok ()
  size := some frame.information.length
  frame := some (fromCppFrame frame buffer.address)
  written := frame.information

/-! ### Encoding and decoding -/

def dlmsHdlcEncodeFrame (frame : Option CInputFrame) (limits : Option HdlcCodecLimits)
    (output : CBuffer) (hasWrittenSize : Bool) : CAnswer :=
  match frame with
  | none => refused .invalidArgument none hasWrittenSize
  | some frame =>
      if output.address = 0 ∨ hasWrittenSize = false then
        refused .invalidArgument none hasWrittenSize
      else
        match toCppFrame frame with
        | .error status => refused status none true
        | .ok cppFrame =>
            match encodeFrameToBuffer cppFrame (toCppLimits limits) output.size with
            | (.error status, writtenSize) =>
                { status := .error status
                  size := some writtenSize }
            | (.ok bytes, writtenSize) =>
                { status := .ok ()
                  size := some writtenSize
                  written := bytes }

def dlmsHdlcDecodeFrame (input : CBytes) (limits : Option HdlcCodecLimits)
    (frame : Option CFrame) (buffer : CBuffer) (hasInformationSize : Bool) : CAnswer :=
  match input with
  | .null _ => refused .invalidArgument frame hasInformationSize
  | .octets input =>
      if frame = none ∨ hasInformationSize = false ∨ (buffer.address = 0 ∧ buffer.size ≠ 0) then
        refused .invalidArgument frame hasInformationSize
      else
        match decodeFrameFromBuffer input (toCppLimits limits) buffer.size with
        | .error status => refused status frame true
        | .ok cppFrame => delivered cppFrame buffer

/-! ### Streams -/

/-- A stream decoder with the frames that wait to be fetched. -/
structure CStreamDecoder where
  decoder : HdlcStreamDecoder
  pending : List HdlcFrame := []
  deriving DecidableEq

namespace CStreamDecoder

def create (limits : Option HdlcCodecLimits) : CStreamDecoder where
  decoder :=
    { limits := toCppLimits limits
      noisePolicy := .ignoreUntilOpeningFlag }

def reset (decoder : CStreamDecoder) : CStreamDecoder where
  decoder := decoder.decoder.reset

/-- What new octets come to: a failure, or frames that join those that wait. -/
def feed (memory : Nat) (decoder : CStreamDecoder) (data : Bytes) :
    Except HdlcStatus Unit × CStreamDecoder :=
  if data = [] then (.ok (), decoder)
  else
    match decoder.decoder.pushAllocating memory data with
    | (.thrown, after) => (.error .internalError, { decoder with decoder := after })
    | (.returned (.error .needMoreData, decoded), after)
    | (.returned (.ok (), decoded), after) =>
        (.ok (), { decoder := after, pending := decoder.pending ++ decoded })
    | (.returned (.error status, _), after) => (.error status, { decoder := after.reset })

/-- The first of the frames that wait is given out, when there is room for it. -/
def fetch (decoder : CStreamDecoder) (frame : Option CFrame) (buffer : CBuffer) :
    CAnswer × CStreamDecoder :=
  match decoder.pending with
  | [] => (refused .needMoreData frame true, decoder)
  | first :: rest =>
      if first.information.length > buffer.size then
        ({ refused .outputBufferTooSmall frame true with
            size := some first.information.length }, decoder)
      else if first.information.length > 0 ∧ buffer.address = 0 then
        (refused .invalidArgument frame true, decoder)
      else (delivered first buffer, { decoder with pending := rest })

end CStreamDecoder

def dlmsHdlcStreamDecoderPush (memory : Nat) (decoder : CStreamDecoder) (data : CBytes)
    (frame : Option CFrame) (buffer : CBuffer) (hasInformationSize : Bool) :
    CAnswer × CStreamDecoder :=
  if frame = none ∨ hasInformationSize = false then
    (refused .invalidArgument frame hasInformationSize, decoder)
  else
    match readBytes data with
    | .error status => (refused status frame true, decoder)
    | .ok data =>
        match decoder.feed memory data with
        | (.error status, decoder) => (refused status frame true, decoder)
        | (.ok (), decoder) => decoder.fetch frame buffer

/-! ### Segments -/

def dlmsHdlcReassemblerPushFrame (reassembler : HdlcReassembler) (inputFrame : Option CInputFrame)
    (outputFrame : Option CFrame) (buffer : CBuffer) (hasSize hasCompleted : Bool) :
    CAnswer × HdlcReassembler :=
  let failed (status : HdlcStatus) : CAnswer :=
    { refused status outputFrame hasSize with hasCompletedFrame := zeroed hasCompleted }
  match inputFrame with
  | none => (failed .invalidArgument, reassembler)
  | some inputFrame =>
      if outputFrame = none ∨ hasSize = false ∨ hasCompleted = false then
        (failed .invalidArgument, reassembler)
      else
        match toCppFrame inputFrame with
        | .error status => (failed status, reassembler)
        | .ok frame =>
            match reassembler.pushFrame frame with
            | (.error status, reassembler) => (failed status, reassembler)
            | (.ok completed, reassembler) =>
                if completed.information.length > buffer.size then
                  ({ failed .outputBufferTooSmall with
                      size := some completed.information.length }, reassembler)
                else if completed.information.length > 0 ∧ buffer.address = 0 then
                  (failed .invalidArgument, reassembler)
                else
                  ({ delivered completed buffer with hasCompletedFrame := some 1 }, reassembler)

/-! ### Calls on the objects behind the handles -/

/-- A call; a handle that is not given is a null pointer. -/
inductive CCall where
  | encodeFrame (frame : Option CInputFrame) (limits : Option HdlcCodecLimits) (output : CBuffer)
      (hasWrittenSize : Bool)
  | decodeFrame (input : CBytes) (limits : Option HdlcCodecLimits) (frame : Option CFrame)
      (buffer : CBuffer) (hasInformationSize : Bool)
  | streamDecoderPush (decoder : Option Nat) (data : CBytes) (frame : Option CFrame)
      (buffer : CBuffer) (hasInformationSize : Bool)
  | streamDecoderReset (decoder : Option Nat)
  | reassemblerPushFrame (reassembler : Option Nat) (inputFrame : Option CInputFrame)
      (outputFrame : Option CFrame) (buffer : CBuffer) (hasSize hasCompleted : Bool)
  | reassemblerReset (reassembler : Option Nat)

/-- The objects behind the handles. -/
structure CHandles where
  decoders : Nat → CStreamDecoder
  reassemblers : Nat → HdlcReassembler

namespace CHandles

/-- Decoders and reassemblers that have just been created. -/
def create (decoderLimits reassemblerLimits : Nat → Option HdlcCodecLimits) : CHandles where
  decoders := fun handle => .create (decoderLimits handle)
  reassemblers := fun handle => { limits := toCppLimits (reassemblerLimits handle) }

end CHandles

/-- A reset says nothing. -/
def silent : CAnswer where
  status := .ok ()

def cCall (memory : Nat) (call : CCall) (handles : CHandles) : CAnswer × CHandles :=
  match call with
  | .encodeFrame frame limits output hasWrittenSize =>
      (dlmsHdlcEncodeFrame frame limits output hasWrittenSize, handles)
  | .decodeFrame input limits frame buffer hasInformationSize =>
      (dlmsHdlcDecodeFrame input limits frame buffer hasInformationSize, handles)
  | .streamDecoderPush none _ frame _ hasInformationSize =>
      (refused .invalidArgument frame hasInformationSize, handles)
  | .streamDecoderPush (some handle) data frame buffer hasInformationSize =>
      let (answer, decoder) := dlmsHdlcStreamDecoderPush memory (handles.decoders handle) data
        frame buffer hasInformationSize
      (answer, { handles with decoders := Function.update handles.decoders handle decoder })
  | .streamDecoderReset none => (silent, handles)
  | .streamDecoderReset (some handle) =>
      (silent, { handles with
        decoders := Function.update handles.decoders handle (handles.decoders handle).reset })
  | .reassemblerPushFrame none _ outputFrame _ hasSize hasCompleted =>
      ({ refused .invalidArgument outputFrame hasSize with
          hasCompletedFrame := zeroed hasCompleted }, handles)
  | .reassemblerPushFrame (some handle) inputFrame outputFrame buffer hasSize hasCompleted =>
      let (answer, reassembler) := dlmsHdlcReassemblerPushFrame (handles.reassemblers handle)
        inputFrame outputFrame buffer hasSize hasCompleted
      (answer, { handles with
        reassemblers := Function.update handles.reassemblers handle reassembler })
  | .reassemblerReset none => (silent, handles)
  | .reassemblerReset (some handle) =>
      (silent, { handles with
        reassemblers := Function.update handles.reassemblers handle
          (handles.reassemblers handle).reset })

end Hdlc

end Dlms
