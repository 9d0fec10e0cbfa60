import Dlms.GoHdlc.Stream
import Dlms.Hdlc.CApi

/-!
# The interface for C, in Go

The same functions with the same header, around the package in Go. Pointers and
sizes of the caller become slices, whose lengths are signed numbers: a size that
is too large for one ends the program, and the size of an information is cut to
32 bits.

A frame is only written by a call that succeeds. Frames that wait to be fetched
are kept when new octets make no sense.

## Main definitions

* `goFrame`, `fillCFrame`: Between the frames of C and those of the package.
* `CabiStreamDecoder`: A stream decoder with the frames that wait.
* `CabiHandles`, `cabiCall`: The objects behind the handles, and a call on them.
-/

namespace Dlms

namespace GoHdlc

open Hdlc

/-! ### Conversions -/

def toLimits (limits : Option HdlcCodecLimits) : HdlcCodecLimits :=
  match limits with
  | none => defaultHdlcCodecLimits
  | some limits => limits

/-- A copy of the octets behind a pointer. Their number is cut to 32 bits, and a
    negative one ends the program. -/
def goBytes (bytes : Bytes) : Outcome Bytes :=
  let n := bytes.length % 2 ^ 32
  if n ≥ 2 ^ 31 then .thrown else .returned (bytes.take n)

/-- The fields of a frame in front of its information. -/
def goFields (cf : CInputFrame) : Except HdlcStatus (Address × Address × Control) := do
  if cf.information matches .null (_ + 1) then
    throw .invalidArgument
  let dst ← addressFromRaw cf.destinationAddressRaw cf.destinationAddressSize
  let src ← addressFromRaw cf.sourceAddressRaw cf.sourceAddressSize
  let ctrl ← controlFromByte cf.control
  return (dst, src, ctrl)

def goFrame (cf : CInputFrame) : Outcome (Except HdlcStatus Frame) :=
  match goFields cf with
  | .error status => .returned (.error status)
  | .ok (dst, src, ctrl) =>
      let info : Outcome Bytes :=
        match cf.information with
        | .null _ => .returned []
        | .octets bytes => if bytes.length > 0 then goBytes bytes else .returned []
      match info with
      | .thrown => .thrown
      | .returned info =>
          .returned (.ok
            { segmented := cf.segmented != 0
              destination := dst
              source := src
              control := ctrl
              information := info })

def fillCFrame (frame : Frame) (infoBuf infoSize : Nat) : CFrame where
  segmented := if frame.segmented then 1 else 0
  destinationAddressRaw := frame.destination.rawValue
  destinationAddressSize := frame.destination.encodedSize
  sourceAddressRaw := frame.source.rawValue
  sourceAddressSize := frame.source.encodedSize
  control := frame.control.encode
  informationData := infoBuf
  informationSize := infoSize

/-- The slice over a buffer of the caller, which may be none; a length beyond
    what a signed number holds ends the program. -/
def infoSlice (buffer : CBuffer) : Outcome (Option Nat) :=
  if buffer.address ≠ 0 ∧ buffer.size > 0 then
    if buffer.size ≥ 2 ^ 63 then .thrown else .returned (some buffer.size)
  else .returned none

/-- A call that fails: the size is zero, and the frame is what it was. -/
def untouched (status : HdlcStatus) (frame : Option CFrame) (hasSize : Bool) : CAnswer where
  status := .error status
  size := zeroed hasSize
  frame := frame

/-- A frame that is given out. Its information is copied when there is a slice. -/
def filled (frame : Frame) (buffer : CBuffer) (ibuf : Option Nat) : CAnswer where
  status := .ok ()
  size := some frame.information.length
  frame := some (fillCFrame frame buffer.address frame.information.length)
  written := if ibuf.isSome then frame.information else []

/-! ### Encoding and decoding -/

def dlmsHdlcEncodeFrame (cframe : Option CInputFrame) (climits : Option HdlcCodecLimits)
    (output : CBuffer) (hasWrittenSize : Bool) : Outcome CAnswer :=
  match cframe with
  | none => .returned (untouched .invalidArgument none hasWrittenSize)
  | some cframe =>
      if output.address = 0 ∨ hasWrittenSize = false then
        .returned (untouched .invalidArgument none hasWrittenSize)
      else
        match goFrame cframe with
        | .thrown => .thrown
        | .returned (.error status) => .returned (untouched status none true)
        | .returned (.ok frame) =>
            if output.size ≥ 2 ^ 63 then .thrown
            else
              match encodeFrameToBuffer frame (toLimits climits) output.size with
              | .error status => .returned (untouched status none true)
              | .ok bytes =>
                  .returned
                    { status := .ok ()
                      size := some bytes.length
                      written := bytes }

def dlmsHdlcDecodeFrame (input : CBytes) (climits : Option HdlcCodecLimits)
    (cframe : Option CFrame) (infoBuf : CBuffer) (hasInfoSize : Bool) : Outcome CAnswer :=
  match input with
  | .null _ => .returned (untouched .invalidArgument cframe hasInfoSize)
  | .octets input =>
      if cframe = none ∨ hasInfoSize = false then
        .returned (untouched .invalidArgument cframe hasInfoSize)
      else if input.length ≥ 2 ^ 63 then .thrown
      else
        match infoSlice infoBuf with
        | .thrown => .thrown
        | .returned ibuf =>
            match decodeFrameFromBuffer input (toLimits climits) ibuf with
            | .error status => .returned (untouched status cframe true)
            | .ok (frame, _) => .returned (filled frame infoBuf ibuf)

/-! ### Streams -/

structure CabiStreamDecoder where
  decoder : StreamDecoder
  pendingFrames : List Frame := []
  deriving DecidableEq

namespace CabiStreamDecoder

def create (climits : Option HdlcCodecLimits) : CabiStreamDecoder where
  decoder :=
    { limits := toLimits climits
      noisePolicy := .ignoreUntilOpeningFlag }

def reset (state : CabiStreamDecoder) : CabiStreamDecoder where
  decoder := state.decoder.reset

/-- What new octets come to: a failure, or frames that join those that wait. -/
def feed (state : CabiStreamDecoder) (chunk : Bytes) :
    Except HdlcStatus Unit × CabiStreamDecoder :=
  match state.decoder.push chunk with
  | (.error .needMoreData, decoder) => (.ok (), { state with decoder := decoder })
  | (.error status, decoder) => (.error status, { state with decoder := decoder })
  | (.ok frames, decoder) =>
      (.ok (), { decoder := decoder, pendingFrames := state.pendingFrames ++ frames })

/-- The first of the frames that wait is given out, or put back. -/
def fetch (state : CabiStreamDecoder) (cframe : Option CFrame) (infoBuf : CBuffer) :
    Outcome CAnswer × CabiStreamDecoder :=
  match state.pendingFrames with
  | [] => (.returned (untouched .needMoreData cframe true), state)
  | first :: rest =>
      match infoSlice infoBuf with
      | .thrown => (.thrown, state)
      | .returned ibuf =>
          if first.information.length > 0 ∧ ibuf.getD 0 < first.information.length then
            (.returned (untouched .outputBufferTooSmall cframe true), state)
          else (.returned (filled first infoBuf ibuf), { state with pendingFrames := rest })

end CabiStreamDecoder

def dlmsHdlcStreamDecoderPush (state : CabiStreamDecoder) (data : CBytes)
    (cframe : Option CFrame) (infoBuf : CBuffer) (hasInfoSize : Bool) :
    Outcome CAnswer × CabiStreamDecoder :=
  if cframe = none ∨ hasInfoSize = false then
    (.returned (untouched .invalidArgument cframe hasInfoSize), state)
  else
    match data with
    | .null 0 | .octets [] => state.fetch cframe infoBuf
    | .null _ => (.returned (untouched .invalidArgument cframe true), state)
    | .octets chunk =>
        if chunk.length ≥ 2 ^ 63 then (.thrown, state)
        else
          match state.feed chunk with
          | (.error status, state) => (.returned (untouched status cframe true), state)
          | (.ok (), state) => state.fetch cframe infoBuf

/-! ### Segments -/

def dlmsHdlcReassemblerPushFrame (r : Reassembler) (inputFrame : Option CInputFrame)
    (outputFrame : Option CFrame) (outInfoBuf : CBuffer) (hasOutInfoSize hasCompleted : Bool) :
    Outcome CAnswer × Reassembler :=
  let failed (status : HdlcStatus) : Outcome CAnswer :=
    .returned { untouched status outputFrame hasOutInfoSize with
      hasCompletedFrame := zeroed hasCompleted }
  match inputFrame with
  | none => (failed .invalidArgument, r)
  | some inputFrame =>
      if outputFrame = none ∨ hasOutInfoSize = false ∨ hasCompleted = false then
        (failed .invalidArgument, r)
      else
        match goFrame inputFrame with
        | .thrown => (.thrown, r)
        | .returned (.error status) => (failed status, r)
        | .returned (.ok frame) =>
            match r.push frame with
            | (.error status, r) => (failed status, r)
            | (.ok completed, r) =>
                let infoLen := completed.information.length
                -- A size beyond what a signed number holds counts as negative.
                if infoLen > 0 ∧ (outInfoBuf.address = 0 ∨ outInfoBuf.size < infoLen ∨
                    outInfoBuf.size ≥ 2 ^ 63) then
                  (failed .outputBufferTooSmall, r)
                else
                  (.returned { filled completed outInfoBuf (some outInfoBuf.size) with
                    hasCompletedFrame := some 1 }, r)

/-! ### Calls on the objects behind the handles -/

/-- The objects behind the handles. -/
structure CabiHandles where
  decoders : Nat → CabiStreamDecoder
  reassemblers : Nat → Reassembler

namespace CabiHandles

/-- Decoders and reassemblers that have just been created. -/
def create (decoderLimits reassemblerLimits : Nat → Option HdlcCodecLimits) : CabiHandles where
  decoders := fun handle => .create (decoderLimits handle)
  reassemblers := fun handle => { limits := toLimits (reassemblerLimits handle) }

end CabiHandles

def cabiCall (call : CCall) (handles : CabiHandles) : Outcome CAnswer × CabiHandles :=
  match call with
  | .encodeFrame cframe climits output hasWrittenSize =>
      (dlmsHdlcEncodeFrame cframe climits output hasWrittenSize, handles)
  | .decodeFrame input climits cframe infoBuf hasInfoSize =>
      (dlmsHdlcDecodeFrame input climits cframe infoBuf hasInfoSize, handles)
  | .streamDecoderPush none _ cframe _ hasInfoSize =>
      (.returned (untouched .invalidArgument cframe hasInfoSize), handles)
  | .streamDecoderPush (some handle) data cframe infoBuf hasInfoSize =>
      let (answer, state) := dlmsHdlcStreamDecoderPush (handles.decoders handle) data cframe
        infoBuf hasInfoSize
      (answer, { handles with decoders := Function.update handles.decoders handle state })
  | .streamDecoderReset none => (.returned silent, handles)
  | .streamDecoderReset (some handle) =>
      (.returned silent, { handles with
        decoders := Function.update handles.decoders handle (handles.decoders handle).reset })
  | .reassemblerPushFrame none _ outputFrame _ hasOutInfoSize hasCompleted =>
      (.returned { untouched .invalidArgument outputFrame hasOutInfoSize with
          hasCompletedFrame := zeroed hasCompleted }, handles)
  | .reassemblerPushFrame (some handle) inputFrame outputFrame outInfoBuf hasOutInfoSize
      hasCompleted =>
      let (answer, r) := dlmsHdlcReassemblerPushFrame (handles.reassemblers handle) inputFrame
        outputFrame outInfoBuf hasOutInfoSize hasCompleted
      (answer, { handles with reassemblers := Function.update handles.reassemblers handle r })
  | .reassemblerReset none => (.returned silent, handles)
  | .reassemblerReset (some handle) =>
      (.returned silent, { handles with
        reassemblers := Function.update handles.reassemblers handle
          (handles.reassemblers handle).reset })

end GoHdlc

end Dlms
