import Dlms.Hdlc.Segmentation
import Dlms.Hdlc.Session
import Dlms.Hdlc.StreamDecoder
import Dlms.Llc.Codec
import Dlms.Profile.Channel

/-!
# The HDLC profile channel

A channel sends an APDU as the segments of an LPDU, each in an information
frame, and waits for an acknowledgement when its window is full. It receives
frames until an LPDU is complete, and acknowledges every segment but the last.

A call of the source that waits for octets is a task here. A turn of a task
goes on to the next read: it takes a frame that has been decoded already or
what the stream has to read, and does what the source does with it. What a turn
writes goes to the stream at once.

## Main definitions

* `HdlcProfileChannel`: What a channel keeps.
* `sendSegment`, `decodeFrameToPendingApdu`, `handleSessionControlFrame`: What is
  done between reads.
* `Call`, `Task`, `startCall`, `continueTask`: The calls of a channel as tasks.
-/

namespace Dlms

namespace Profile

open Apdu (Bytes)
open Hdlc (HdlcAddress HdlcCodecLimits HdlcControl HdlcFrame HdlcReassembler HdlcSession
  HdlcSessionOptions HdlcSessionRole HdlcStatus HdlcStreamDecoder decodeFrame
  defaultHdlcCodecLimits encodeFrame)
open Llc (LlcDirection LlcStatus)

def mapHdlcStatus (status : HdlcStatus) : ProfileStatus :=
  match status with
  | .needMoreData | .segmentationIncomplete => .needMoreData
  | .outputBufferTooSmall => .outputBufferTooSmall
  | .invalidArgument => .invalidArgument
  | .invalidFlag | .invalidFrameFormat | .invalidFrameType | .invalidControlField
  | .invalidHeaderChecksum | .invalidFrameChecksum | .segmentationError => .invalidFrame
  | .invalidFrameLength => .invalidLength
  | .invalidAddress => .invalidAddress
  | .frameTooLarge | .informationFieldTooLarge | .segmentationOverflow => .payloadTooLarge
  | .unsupportedFrame | .unsupportedAddress | .unsupportedFeature => .unsupportedFeature
  | .internalError => .internalError

def mapLlcStatus (status : LlcStatus) : ProfileStatus :=
  match status with
  | .needMoreData => .needMoreData
  | .outputBufferTooSmall => .outputBufferTooSmall
  | .invalidArgument => .invalidArgument
  | .invalidHeader | .invalidDsap | .invalidSsap | .invalidControl => .invalidFrame
  | .invalidLpduLength => .invalidLength
  | .lsduTooLarge => .payloadTooLarge
  | .broadcastEncodeForbidden | .unsupportedAddress | .unsupportedControl
  | .unsupportedFeature => .unsupportedFeature
  | .internalError => .internalError

/-! ### The options of a channel -/

inductive HdlcProfileDirection where
  | clientToServer
  | serverToClient
  deriving DecidableEq, Repr

inductive HdlcProfileRole where
  | client
  | server
  deriving DecidableEq, Repr

structure ApduChannelOptions where
  hdlcClientAddress : UInt8 := 0x10
  hdlcLogicalDeviceAddress : UInt16 := 0x01
  hdlcPhysicalDeviceAddress : UInt16 := 0x00
  hdlcDirection : HdlcProfileDirection := .clientToServer
  hdlcRole : HdlcProfileRole := .client
  hdlcUseSession : Bool := false
  hdlcMaxInformationFieldLengthTransmit : Nat := 0
  hdlcMaxInformationFieldLengthReceive : Nat := 0
  hdlcWindowSizeTransmit : UInt8 := 0
  hdlcWindowSizeReceive : UInt8 := 0
  hdlcRetryCount : UInt8 := 3
  maximumApduSize : Nat := 65535
  scratchBufferSize : Nat := 2048
  deriving DecidableEq, Repr

def toLlcDirection (direction : HdlcProfileDirection) : LlcDirection :=
  match direction with
  | .serverToClient => .serverToClient
  | .clientToServer => .clientToServer

def toHdlcSessionRole (role : HdlcProfileRole) : HdlcSessionRole :=
  match role with
  | .server => .server
  | .client => .client

/-- The sum of two sizes, which are numbers of 64 bits. -/
def sizeSum (size other : Nat) : Nat := (size + other) % 2 ^ 64

/-- Octets of an LPDU that can be put together. -/
def reassemblyLimit (options : ApduChannelOptions) : Nat :=
  let limit := if options.maximumApduSize = 0 then
      defaultHdlcCodecLimits.maximumReassembledInformationSize
    else sizeSum options.maximumApduSize 3
  if defaultHdlcCodecLimits.maximumReassembledInformationSize < limit then limit
  else defaultHdlcCodecLimits.maximumReassembledInformationSize

def makeHdlcSessionOptions (options : ApduChannelOptions) :
    Except ProfileStatus HdlcSessionOptions :=
  match HdlcAddress.makeClientAddress options.hdlcClientAddress with
  | .error status => .error (mapHdlcStatus status)
  | .ok clientAddress =>
      match HdlcAddress.makeServerAddress options.hdlcLogicalDeviceAddress
          options.hdlcPhysicalDeviceAddress with
      | .error status => .error (mapHdlcStatus status)
      | .ok serverAddress =>
          .ok
            { role := toHdlcSessionRole options.hdlcRole
              clientAddress := clientAddress
              serverAddress := serverAddress
              limits := { defaultHdlcCodecLimits with
                maximumReassembledInformationSize := reassemblyLimit options }
              negotiationLimits :=
                { maxInformationFieldLengthTransmit :=
                    options.hdlcMaxInformationFieldLengthTransmit
                  maxInformationFieldLengthReceive :=
                    options.hdlcMaxInformationFieldLengthReceive
                  windowSizeTransmit := options.hdlcWindowSizeTransmit
                  windowSizeReceive := options.hdlcWindowSizeReceive } }

/-! ### The channel -/

/-- A session, its codec, and what is not read yet. -/
structure HdlcProfileChannel where
  options : ApduChannelOptions
  hdlcLimits : HdlcCodecLimits
  decoder : HdlcStreamDecoder
  reassembler : HdlcReassembler
  session : HdlcSession
  /-- Frames that were decoded together with an earlier one. -/
  pendingHdlcFrames : List HdlcFrame := []
  pendingApdus : List Bytes := []
  deriving DecidableEq

namespace HdlcProfileChannel

def makeDecoder (limits : HdlcCodecLimits) : HdlcStreamDecoder where
  limits := limits
  noisePolicy := .ignoreUntilOpeningFlag

/-- A channel around a new session. -/
def withSession (options : ApduChannelOptions) (sessionOptions : HdlcSessionOptions) :
    HdlcProfileChannel where
  options := options
  hdlcLimits := sessionOptions.limits
  decoder := makeDecoder sessionOptions.limits
  reassembler := { limits := sessionOptions.limits }
  session := HdlcSession.create sessionOptions

def defaultSessionOptions : HdlcSessionOptions where
  role := .client
  clientAddress := { HdlcAddress.initial with rawValue := 0x10, bounded := by decide }
  serverAddress := { HdlcAddress.initial with rawValue := 0x01, bounded := by decide }
  limits := defaultHdlcCodecLimits
  negotiationLimits := Hdlc.defaultHdlcSessionNegotiationLimits

/-- A new channel; options that make no session are found out later. -/
def create (options : ApduChannelOptions) : HdlcProfileChannel :=
  match makeHdlcSessionOptions options with
  | .error _ => withSession options defaultSessionOptions
  | .ok sessionOptions => withSession options sessionOptions

variable (channel : HdlcProfileChannel)

def buildSessionInformationFrame (information : Bytes) (segmented pollFinal : Bool) :
    Except ProfileStatus Bytes × HdlcProfileChannel :=
  match channel.session.buildInformationFrame information pollFinal with
  | (.error status, session) => (.error (mapHdlcStatus status), { channel with session := session })
  | (.ok frameBytes, session) =>
      let channel := { channel with session := session }
      if !segmented then (.ok frameBytes, channel)
      else
        -- The frame is taken apart again to set the bit that more segments follow.
        match decodeFrame frameBytes channel.hdlcLimits with
        | .error status => (.error (mapHdlcStatus status), channel)
        | .ok decoded =>
            match encodeFrame { decoded with segmented := true } channel.hdlcLimits with
            | .error status => (.error (mapHdlcStatus status), channel)
            | .ok frameBytes => (.ok frameBytes, channel)

def decodeCompleteInformationToPendingApdu (frame : HdlcFrame) :
    Except ProfileStatus Unit × HdlcProfileChannel :=
  match Llc.decodeLpdu frame.information false with
  | .error status => (.error (mapLlcStatus status), channel)
  | .ok (_, lsdu) =>
      if channel.options.maximumApduSize ≠ 0 ∧ lsdu.length > channel.options.maximumApduSize then
        (.error .payloadTooLarge, channel)
      else (.ok (), { channel with pendingApdus := channel.pendingApdus ++ [lsdu] })

/-- A frame goes to the reassembler and to the session; a segment that is not the
    last one is acknowledged. Next to the status comes what is written. -/
def decodeFrameToPendingApdu (frame : HdlcFrame) :
    Except ProfileStatus Unit × HdlcProfileChannel × Bytes :=
  if !channel.options.hdlcUseSession then
    if frame.segmented then (.error .unsupportedFeature, channel, [])
    else
      let (outcome, channel) := channel.decodeCompleteInformationToPendingApdu frame
      (outcome, channel, [])
  else
    let (pushed, reassembler) := channel.reassembler.pushFrame frame
    let channel := { channel with reassembler := reassembler }
    match pushed with
    | .error status =>
        if mapHdlcStatus status ≠ .needMoreData then
          (.error (mapHdlcStatus status),
            { channel with reassembler := channel.reassembler.reset }, [])
        else
          match channel.session.receiveFrame frame with
          | (.error status, session) =>
              (.error (mapHdlcStatus status),
                { channel with
                  session := session
                  reassembler := channel.reassembler.reset }, [])
          | (.ok (), session) =>
              let channel := { channel with session := session }
              match channel.session.buildReceiveReadyFrame true with
              | .error status => (.error (mapHdlcStatus status), channel, [])
              | .ok frameBytes => (.error .needMoreData, channel, frameBytes)
    | .ok completed =>
        match channel.session.receiveFrame frame with
        | (.error status, session) =>
            (.error (mapHdlcStatus status),
              { channel with
                session := session
                reassembler := channel.reassembler.reset }, [])
        | (.ok (), session) =>
            let channel := { channel with session := session }
            if completed.information = [] then (.ok (), channel, [])
            else
              let (outcome, channel) := channel.decodeCompleteInformationToPendingApdu completed
              (outcome, channel, [])

/-- What a call that waits for the answer to a frame does with a frame. -/
def handleSessionControlFrame (frame : HdlcFrame) :
    Except ProfileStatus Unit × HdlcProfileChannel × Bytes :=
  if frame.control.frameKind = .information then channel.decodeFrameToPendingApdu frame
  else
    match channel.session.receiveFrame frame with
    | (.error status, session) =>
        (.error (mapHdlcStatus status), { channel with session := session }, [])
    | (.ok (), session) => (.ok (), { channel with session := session }, [])

/-- What one read of the stream brings: a frame, or not enough for one yet. -/
def receiveDecodedFrame (read : Except ProfileStatus Bytes) :
    Except ProfileStatus (Option HdlcFrame) × HdlcProfileChannel :=
  match read with
  | .error status => (.error status, channel)
  | .ok [] => (.error .needMoreData, channel)
  | .ok data =>
      let (pushed, frames, decoder) := channel.decoder.push data
      let channel := { channel with decoder := decoder }
      match pushed, frames with
      | .ok (), frame :: later =>
          (.ok (some frame),
            { channel with pendingHdlcFrames := channel.pendingHdlcFrames ++ later })
      | .ok (), [] => (.error .needMoreData, channel)
      | .error status, _ =>
          if mapHdlcStatus status = .needMoreData then (.ok none, channel)
          else
            (.error (mapHdlcStatus status), { channel with decoder := channel.decoder.reset })

/-- A frame that has been decoded already, or one from the stream. -/
def nextFrame (read : Except ProfileStatus Bytes) :
    Except ProfileStatus (Option HdlcFrame) × HdlcProfileChannel :=
  match channel.pendingHdlcFrames with
  | frame :: later => (.ok (some frame), { channel with pendingHdlcFrames := later })
  | [] => channel.receiveDecodedFrame read

end HdlcProfileChannel

/-! ### Calls and tasks -/

/-- What a user asks of a channel. -/
inductive Call where
  | connectDataLink
  | acceptDataLink
  | disconnectDataLink
  | acceptDisconnectDataLink
  | sendApdu (apdu : Bytes)
  | receiveApdu
  deriving DecidableEq, Repr

/-- What a call returns. -/
inductive CallResult where
  | finished (outcome : Except ProfileStatus Unit)
  | received (outcome : Except ProfileStatus Bytes)
  deriving DecidableEq

/-- An LPDU with the loop over its frames. -/
structure Sending where
  lpdu : Bytes
  chunkSize : Nat
  frameCount : Nat
  index : Nat := 0
  offset : Nat := 0
  deriving DecidableEq, Repr

/-- A call that is not finished, at its next read. -/
inductive Task where
  | idle
  | sendInformation (sending : Sending)
  | receiveApdu
  /-- It waits for the answer to a frame that it may write again. -/
  | awaitAnswer (frameBytes : Bytes) (attempt : Nat)
  | acceptDataLink
  | acceptDisconnectDataLink
  deriving DecidableEq, Repr

/-- What a turn of a channel makes of it. -/
structure Turn where
  channel : HdlcProfileChannel
  task : Task := .idle
  result : Option CallResult := none
  written : Bytes := []

/-- The call is finished. -/
def Turn.finish (channel : HdlcProfileChannel) (outcome : Except ProfileStatus Unit)
    (written : Bytes) : Turn where
  channel := channel
  result := some (.finished outcome)
  written := written

section Turns

variable (channel : HdlcProfileChannel)

/-- The next frame of the loop, and whatever was written before it. -/
def sendSegment (sending : Sending) (written : Bytes) : Turn :=
  let currentSize := if sending.lpdu = [] then 0
    else min sending.chunkSize (sending.lpdu.length - sending.offset)
  let finalFrame : Bool := sending.index + 1 = sending.frameCount
  match channel.buildSessionInformationFrame ((sending.lpdu.drop sending.offset).take currentSize)
      (!finalFrame) finalFrame with
  | (.error status, channel) => .finish channel (.error status) written
  | (.ok frameBytes, channel) =>
      if finalFrame then .finish channel (.ok ()) (written ++ frameBytes)
      else
        { channel := channel
          task := .sendInformation { sending with
            index := sending.index + 1
            offset := sending.offset + currentSize }
          written := written ++ frameBytes }

def startSendSessionInformation (lpdu : Bytes) : Turn :=
  if channel.session.state ≠ .connected then .finish channel (.error .notOpen) []
  else
    let limit := channel.session.negotiatedLimits.maxInformationFieldLengthTransmit
    let chunkSize := if limit = 0 then lpdu.length else limit
    { channel := { channel with
        hdlcLimits := { channel.hdlcLimits with maximumInformationFieldSize := limit } }
      task := .sendInformation
        { lpdu := lpdu
          chunkSize := chunkSize
          frameCount := if lpdu = [] then 1 else (lpdu.length + chunkSize - 1) / chunkSize } }

/-- Without a session an LPDU is one frame. -/
def buildFrame (lpdu : Bytes) : Except ProfileStatus Bytes :=
  match HdlcAddress.makeClientAddress channel.options.hdlcClientAddress with
  | .error status => .error (mapHdlcStatus status)
  | .ok clientAddress =>
      match HdlcAddress.makeServerAddress channel.options.hdlcLogicalDeviceAddress
          channel.options.hdlcPhysicalDeviceAddress with
      | .error status => .error (mapHdlcStatus status)
      | .ok serverAddress =>
          let toClient : Bool := channel.options.hdlcDirection = .serverToClient
          match HdlcControl.decode 0x10 with
          | .error status => .error (mapHdlcStatus status)
          | .ok control =>
              let frame : HdlcFrame :=
                { segmented := false
                  destination := if toClient then clientAddress else serverAddress
                  source := if toClient then serverAddress else clientAddress
                  control := control
                  information := lpdu }
              (encodeFrame frame channel.hdlcLimits).mapError mapHdlcStatus

def startSendApdu (apdu : Bytes) : Turn :=
  if channel.options.maximumApduSize ≠ 0 ∧ apdu.length > channel.options.maximumApduSize then
    .finish channel (.error .payloadTooLarge) []
  else
    let header := Llc.makeLlcHeader (toLlcDirection channel.options.hdlcDirection)
    match Llc.encodeLpdu header apdu with
    | .error status => .finish channel (.error (mapLlcStatus status)) []
    | .ok lpdu =>
        if channel.options.hdlcUseSession then startSendSessionInformation channel lpdu
        else
          match buildFrame channel lpdu with
          | .error status => .finish channel (.error status) []
          | .ok frameBytes => .finish channel (.ok ()) frameBytes

/-- The first APDU that waits is received; without one the call goes on. -/
def deliverApdu (written : Bytes) : Turn :=
  match channel.pendingApdus with
  | [] => { channel := channel, task := .receiveApdu, written := written }
  | apdu :: later =>
      { channel := { channel with pendingApdus := later }
        result := some (.received (.ok apdu))
        written := written }

/-- A session that is not in use is made anew. -/
def ensureSession : Except ProfileStatus HdlcProfileChannel :=
  match makeHdlcSessionOptions channel.options with
  | .error status => .error status
  | .ok sessionOptions =>
      if channel.session.state = .disconnected then
        .ok { HdlcProfileChannel.withSession channel.options sessionOptions with
          pendingApdus := channel.pendingApdus }
      else .ok channel

/-- The calls up to their first read, on an open stream. -/
def startCall (call : Call) : Turn :=
  match call with
  | .sendApdu apdu => startSendApdu channel apdu
  | .receiveApdu => deliverApdu channel []
  | .connectDataLink =>
      if !channel.options.hdlcUseSession ∨ channel.options.hdlcRole ≠ .client then
        .finish channel (.error .unsupportedFeature) []
      else
        match ensureSession channel with
        | .error status => .finish channel (.error status) []
        | .ok channel =>
            match channel.session.buildConnectRequest with
            | (.error status, session) =>
                .finish { channel with session := session } (.error (mapHdlcStatus status)) []
            | (.ok frameBytes, session) =>
                { channel := { channel with session := session }
                  task := .awaitAnswer frameBytes 0
                  written := frameBytes }
  | .acceptDataLink =>
      if !channel.options.hdlcUseSession ∨ channel.options.hdlcRole ≠ .server then
        .finish channel (.error .unsupportedFeature) []
      else
        match ensureSession channel with
        | .error status => .finish channel (.error status) []
        | .ok channel => { channel := channel, task := .acceptDataLink }
  | .disconnectDataLink =>
      if !channel.options.hdlcUseSession then .finish channel (.error .unsupportedFeature) []
      else
        match channel.session.buildDisconnectRequest [] with
        | (.error status, session) =>
            .finish { channel with session := session } (.error (mapHdlcStatus status)) []
        | (.ok frameBytes, session) =>
            { channel := { channel with session := session }
              task := .awaitAnswer frameBytes 0
              written := frameBytes }
  | .acceptDisconnectDataLink =>
      if !channel.options.hdlcUseSession ∨ channel.options.hdlcRole ≠ .server then
        .finish channel (.error .unsupportedFeature) []
      else { channel := channel, task := .acceptDisconnectDataLink }

def isRetriableReceiveStatus (status : ProfileStatus) : Bool :=
  status == .wouldBlock || status == .timeout || status == .needMoreData

/-- A call that waits for an answer has failed to get it. -/
def retryAnswer (frameBytes : Bytes) (attempt : Nat) (status : ProfileStatus) (written : Bytes) :
    Turn :=
  if !isRetriableReceiveStatus status ∨ attempt ≥ channel.options.hdlcRetryCount.toNat then
    .finish channel (.error status) written
  else
    { channel := channel
      task := .awaitAnswer frameBytes (attempt + 1)
      written := written ++ frameBytes }

/-- The server answers with what its session builds. -/
def answer (built : Except HdlcStatus Bytes × HdlcSession) (written : Bytes) : Turn :=
  match built with
  | (.error status, session) =>
      .finish { channel with session := session } (.error (mapHdlcStatus status)) written
  | (.ok frameBytes, session) =>
      .finish { channel with session := session } (.ok ()) (written ++ frameBytes)

/-- What a task does with a frame, or without one. -/
def continueWith (task : Task) (frame : Except ProfileStatus (Option HdlcFrame)) : Turn :=
  match frame with
  | .ok none => { channel := channel, task := task }
  | .error status =>
      match task with
      | .idle => { channel := channel }
      | .receiveApdu => { channel := channel, result := some (.received (.error status)) }
      | .awaitAnswer frameBytes attempt => retryAnswer channel frameBytes attempt status []
      | .sendInformation _ | .acceptDataLink | .acceptDisconnectDataLink =>
          .finish channel (.error status) []
  | .ok (some frame) =>
      match task with
      | .idle => { channel := channel }
      | .receiveApdu =>
          match channel.decodeFrameToPendingApdu frame with
          | (.error status, channel, written) =>
              if status = .needMoreData then
                { channel := channel, task := .receiveApdu, written := written }
              else
                { channel := channel
                  result := some (.received (.error status))
                  written := written }
          | (.ok (), channel, written) => deliverApdu channel written
      | .sendInformation sending =>
          match channel.handleSessionControlFrame frame with
          | (.error status, channel, written) => .finish channel (.error status) written
          | (.ok (), channel, written) => sendSegment channel sending written
      | .awaitAnswer frameBytes attempt =>
          match channel.handleSessionControlFrame frame with
          | (.error status, channel, written) =>
              retryAnswer channel frameBytes attempt status written
          | (.ok (), channel, written) => .finish channel (.ok ()) written
      | .acceptDataLink =>
          match channel.handleSessionControlFrame frame with
          | (.error status, channel, written) => .finish channel (.error status) written
          | (.ok (), channel, written) =>
              answer channel channel.session.buildConnectResponse written
      | .acceptDisconnectDataLink =>
          match channel.handleSessionControlFrame frame with
          | (.error status, channel, written) => .finish channel (.error status) written
          | (.ok (), channel, written) =>
              answer channel channel.session.buildDisconnectResponse written

/-- The task waits for a frame; otherwise its next frame can go out. -/
def awaitsFrame (task : Task) : Bool :=
  match task with
  | .idle => false
  | .sendInformation _ => !channel.session.canSendInformationFrame
  | _ => true

/-- A turn of a task, which may read. -/
def continueTask (task : Task) (read : Except ProfileStatus Bytes) : Turn :=
  match task with
  | .idle => { channel := channel }
  | .sendInformation sending =>
      if channel.session.canSendInformationFrame then sendSegment channel sending []
      else
        let (frame, channel) := channel.nextFrame read
        continueWith channel task frame
  | task =>
      let (frame, channel) := channel.nextFrame read
      continueWith channel task frame

end Turns

end Profile

end Dlms
