import Dlms.Hdlc.Connection
import Dlms.Machine.Progress
import Dlms.Profile.HdlcChannel

/-!
# Two channels at the ends of a stream

A stream carries octets both ways, in order and without loss. The ends take
turns in any order. A turn of an end begins its next call or goes on with the
one it is in; where the call has to read, the turn reads some of the octets that
have come, and cannot be taken while there are none.

## Main definitions

* `ChannelEnd`, `ChannelLink`: The ends, with what has been written to them.
* `linkTurn`: One turn of one end.
* `connectChannels`: Channels that have connected.
* `exchangeCalls`, `exchangeResults`: The calls of an exchange of APDUs, and how
  they should end.
-/

namespace Dlms

namespace Profile

open Apdu (Bytes)
open Hdlc (connectSessions)

/-- A channel, its calls and what they have returned. -/
structure ChannelEnd where
  channel : HdlcProfileChannel
  task : Task := .idle
  /-- The octets that can be read. -/
  inbox : Bytes := []
  calls : List Call := []
  results : List CallResult := []

/-- Two channels, each read by the other. -/
structure ChannelLink where
  client : ChannelEnd
  server : ChannelEnd

/-- Octets of the buffer that a channel reads into. -/
def readBufferSize (options : ApduChannelOptions) : Nat :=
  if options.scratchBufferSize = 0 then 2048 else options.scratchBufferSize

/-- A read brings some octets, and no more than have room. -/
def readSize (options : ApduChannelOptions) (size : Nat) : Nat :=
  min (max 1 size) (readBufferSize options)

namespace ChannelEnd

/-- What a turn makes of an end, and what it writes. -/
def apply (near : ChannelEnd) (turn : Turn) : ChannelEnd × Bytes :=
  ({ near with
      channel := turn.channel
      task := turn.task
      results := near.results ++ turn.result.toList }, turn.written)

/-- A turn of an end, if it can be taken. -/
def turn (size : Nat) (near : ChannelEnd) : Option (ChannelEnd × Bytes) :=
  match near.task with
  | .idle =>
      match near.calls with
      | [] => none
      | call :: calls => some (apply { near with calls := calls } (startCall near.channel call))
  | task =>
      if awaitsFrame near.channel task && near.channel.pendingHdlcFrames.isEmpty then
        if near.inbox.isEmpty then none
        else
          let count := readSize near.channel.options size
          some (apply { near with inbox := near.inbox.drop count }
            (continueTask near.channel task (.ok (near.inbox.take count))))
      else some (near.apply (continueTask near.channel task (.ok [])))

/-- What the other end has written can be read. -/
def receive (near : ChannelEnd) (written : Bytes) : ChannelEnd :=
  { near with inbox := near.inbox ++ written }

end ChannelEnd

/-- A turn of one end, with how much it would read. -/
def linkTurn (input : HdlcProfileRole × Nat) (link : ChannelLink) : Option ChannelLink :=
  match input.1 with
  | .client => (link.client.turn input.2).map fun (client, written) =>
      { client := client, server := link.server.receive written }
  | .server => (link.server.turn input.2).map fun (server, written) =>
      { client := link.client.receive written, server := server }

/-- Two new channels in session mode, after their sessions have connected. -/
def connectChannels (clientOptions serverOptions : ApduChannelOptions) :
    Option (HdlcProfileChannel × HdlcProfileChannel) :=
  if clientOptions.hdlcUseSession && clientOptions.hdlcRole == .client &&
      serverOptions.hdlcUseSession && serverOptions.hdlcRole == .server then
    match makeHdlcSessionOptions clientOptions, makeHdlcSessionOptions serverOptions with
    | .ok clientSession, .ok serverSession =>
        let client := HdlcProfileChannel.withSession clientOptions clientSession
        let server := HdlcProfileChannel.withSession serverOptions serverSession
        match connectSessions client.hdlcLimits server.hdlcLimits client.session
            server.session with
        | none => none
        | some (clientSession, serverSession) =>
            some ({ client with session := clientSession },
              { server with session := serverSession })
    | _, _ => none
  else none

/-- A client with small frames, which accepts APDUs of some size. -/
def readerOptions (maximumApduSize : Nat) : ApduChannelOptions where
  hdlcUseSession := true
  hdlcMaxInformationFieldLengthTransmit := 5
  hdlcMaxInformationFieldLengthReceive := 24
  hdlcWindowSizeTransmit := 3
  hdlcWindowSizeReceive := 2
  maximumApduSize := maximumApduSize

/-- A meter that reads seven octets at a time. -/
def meterOptions (maximumApduSize : Nat) : ApduChannelOptions where
  hdlcUseSession := true
  hdlcRole := .server
  hdlcDirection := .serverToClient
  hdlcMaxInformationFieldLengthTransmit := 24
  hdlcMaxInformationFieldLengthReceive := 5
  hdlcWindowSizeTransmit := 2
  hdlcWindowSizeReceive := 3
  maximumApduSize := maximumApduSize
  scratchBufferSize := 7

/-- The calls that connect leave new channels like this. -/
example : connectChannels (readerOptions 65535) (meterOptions 65535) =
    let reached := Machine.final (Machine.attempt linkTurn)
      ([(.client, 0), (.server, 0)] ++ List.replicate 6 (.server, 40) ++
        [(.client, 9), (.client, 40)])
      { client :=
          { channel := HdlcProfileChannel.create (readerOptions 65535)
            calls := [.connectDataLink] }
        server :=
          { channel := HdlcProfileChannel.create (meterOptions 65535)
            calls := [.acceptDataLink] } }
    some (reached.client.channel, reached.server.channel) := by decide +kernel

/-! ### Exchanges of APDUs -/

/-- The calls of an end that sends the first of some APDUs, or receives it. The
    APDUs go to and fro. -/
def exchangeCalls : Bool → List Bytes → List Call
  | _, [] => []
  | true, apdu :: later => .sendApdu apdu :: exchangeCalls false later
  | false, _ :: later => .receiveApdu :: exchangeCalls true later

/-- How these calls should end. -/
def exchangeResults : Bool → List Bytes → List CallResult
  | _, [] => []
  | true, _ :: later => .finished (.ok ()) :: exchangeResults false later
  | false, apdu :: later => .received (.ok apdu) :: exchangeResults true later

/-- Two channels that are to exchange APDUs, the first one from the client. -/
def exchangeLink (client server : HdlcProfileChannel) (apdus : List Bytes) : ChannelLink where
  client := { channel := client, calls := exchangeCalls true apdus }
  server := { channel := server, calls := exchangeCalls false apdus }

/-- All calls so far have ended as they should. -/
def InOrder (apdus : List Bytes) (link : ChannelLink) : Prop :=
  link.client.results <+: exchangeResults true apdus ∧
    link.server.results <+: exchangeResults false apdus

/-- All calls have ended, and as they should. -/
def Exchanged (apdus : List Bytes) (link : ChannelLink) : Prop :=
  link.client.results = exchangeResults true apdus ∧
    link.server.results = exchangeResults false apdus

/-- A channel sends and accepts APDUs of some size; zero is no limit. -/
def Permitted (options : ApduChannelOptions) (apdu : Bytes) : Prop :=
  options.maximumApduSize = 0 ∨ apdu.length ≤ options.maximumApduSize

/-- A connected session with a size and a window within their bounds. -/
structure Negotiated (session : Hdlc.HdlcSession) : Prop where
  informationPositive : 1 ≤ session.negotiatedLimits.maxInformationFieldLengthTransmit
  informationAtMost : session.negotiatedLimits.maxInformationFieldLengthTransmit ≤ 2030
  windowPositive : 1 ≤ session.windowSizeTransmit.toNat
  windowAtMost : session.windowSizeTransmit.toNat ≤ 7

end Profile

end Dlms
