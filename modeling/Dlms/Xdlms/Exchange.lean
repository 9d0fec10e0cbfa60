import Dlms.Xdlms.Client
import Dlms.Xdlms.Encoding

/-!
# A client and a server on one channel

The channel delivers every APDU unchanged and in order: what the client sends
is the server's next request, and the server's response, if it has one, is
what the client receives next. A server that fails a request answers nothing,
and the client waits until its channel gives up.

## Main definitions

* `servedOptions`: The options of the server, with the flags of a request.
* `Peer`, `serverChannel`: The server as a channel.
* `connected`: A client of that channel.

## Theorems

* `sendAndReceive_of_served`, `sendAndReceive_of_failed`: What one exchange
  does, by what the server does with the request.
* `server_sendAndReceive`: Whatever the client makes of the response, the
  server has served the request.
-/

namespace Dlms

namespace Xdlms

open Apdu (Bytes XdlmsApdu)
open Profile (ApduChannel)

/-- The options under which a server serves a client's request. -/
def servedOptions (serverOptions clientOptions : ServiceOptions) : ServiceOptions :=
  { serverOptions with
    confirmed := clientOptions.confirmed
    highPriority := clientOptions.highPriority }

/-- The server reads the flags of a client's request. -/
theorem parseServiceOptions_request (invokeId : UInt8)
    (serverOptions clientOptions : ServiceOptions) :
    parseServiceOptions (makeInvokeIdAndPriority invokeId clientOptions) serverOptions =
      servedOptions serverOptions clientOptions :=
  parseServiceOptions_makeInvokeIdAndPriority _ _ _

theorem and_of_validateInvokeId (invokeId : UInt8) (h : validateInvokeId invokeId = .ok ()) :
    invokeId &&& 0x0F = invokeId := by
  revert invokeId
  apply forall_uint8_of_nat
  decide +kernel

theorem invokeId_of_valid (invokeId : UInt8) (h : validateInvokeId invokeId = .ok ())
    (options : ServiceOptions) : makeInvokeIdAndPriority invokeId options &&& 0x0F = invokeId := by
  rw [invokeId_makeInvokeIdAndPriority, and_of_validateInvokeId invokeId h]

/-- The server behind a channel, and the response that is on its way. -/
structure Peer (σ δ : Type) where
  server : XdlmsServerState σ δ
  response : Option Bytes := none

variable {σ τ δ : Type}

def serverChannel (handler : XdlmsServerHandler δ) (options : ServiceOptions) :
    ApduChannel (Peer σ δ) where
  sendApdu := fun request peer =>
    let out := processRequest handler options none request peer.server
    (.ok (), { server := out.2, response := out.1.toOption })
  receiveApdu := fun peer =>
    match peer.response with
    | none => (.error .timeout, peer)
    | some response => (.ok response, { peer with response := none })

/-- An associated client of the server, neither of them with security. -/
def connected (handler : XdlmsServerHandler δ) (options : ServiceOptions) :
    XdlmsClient (Peer σ δ) τ where
  channel := serverChannel handler options
  security := none
  isAssociated := true

section Exchange

variable (handler : XdlmsServerHandler δ) (options : ServiceOptions)
  (state : XdlmsClientState (Peer σ δ) τ) (request received response : XdlmsApdu)
  (requestApdu responseApdu : Bytes) (server : XdlmsServerState σ δ)

theorem processRequest_none (hrequest : Apdu.decodeXdlmsApdu requestApdu = .ok received)
    (server : XdlmsServerState σ δ) :
    processRequest handler options none requestApdu server =
      processService handler options received server := by
  simp only [processRequest, decodeRequest, hrequest]
  rcases processService handler options received server with ⟨_ | plainResponse, after⟩
  · rfl
  · rfl

/-- A request the server serves is answered with the response it makes. -/
theorem sendAndReceive_of_served (hencode : Apdu.encodeXdlmsApdu request = .ok requestApdu)
    (hrequest : Apdu.decodeXdlmsApdu requestApdu = .ok received)
    (hserved : processService handler options received state.channel.server =
      (.ok responseApdu, server))
    (hresponse : Apdu.decodeXdlmsApdu responseApdu = .ok response) :
    sendAndReceive (connected handler options) request state =
      (.ok response, { state with channel := { server := server } }) := by
  simp [sendAndReceive, connected, serverChannel, hencode,
    processRequest_none handler options received requestApdu hrequest, hserved, Except.toOption,
    hresponse]

/-- A response that does not decode is no response. -/
theorem sendAndReceive_of_undecodable (status : Apdu.ApduStatus)
    (hencode : Apdu.encodeXdlmsApdu request = .ok requestApdu)
    (hrequest : Apdu.decodeXdlmsApdu requestApdu = .ok received)
    (hserved : processService handler options received state.channel.server =
      (.ok responseApdu, server))
    (hresponse : Apdu.decodeXdlmsApdu responseApdu = .error status) :
    sendAndReceive (connected handler options) request state =
      (.error .decodeFailed, { state with channel := { server := server } }) := by
  simp [sendAndReceive, connected, serverChannel, hencode,
    processRequest_none handler options received requestApdu hrequest, hserved, Except.toOption,
    hresponse]

/-- A request the server fails is not answered. -/
theorem sendAndReceive_of_failed (status : XdlmsStatus)
    (hencode : Apdu.encodeXdlmsApdu request = .ok requestApdu)
    (hrequest : Apdu.decodeXdlmsApdu requestApdu = .ok received)
    (hfailed : processService handler options received state.channel.server =
      (.error status, server)) :
    sendAndReceive (connected handler options) request state =
      (.error .receiveFailed, { state with channel := { server := server } }) := by
  simp [sendAndReceive, connected, serverChannel, hencode,
    processRequest_none handler options received requestApdu hrequest, hfailed, Except.toOption]

/-- A request that is too large is not sent. -/
theorem sendAndReceive_of_too_large (status : Apdu.ApduStatus)
    (hencode : Apdu.encodeXdlmsApdu request = .error status) :
    sendAndReceive (connected handler options) request state = (.error .encodeFailed, state) := by
  simp [sendAndReceive, hencode]

/-- Whatever the client makes of the response, the server has served the
    request. -/
theorem server_sendAndReceive (hencode : Apdu.encodeXdlmsApdu request = .ok requestApdu)
    (hrequest : Apdu.decodeXdlmsApdu requestApdu = .ok received) :
    (sendAndReceive (connected handler options) request state).2.channel.server =
      (processService handler options received state.channel.server).2 := by
  rcases hserved : processService handler options received state.channel.server with
    ⟨status | responseApdu, after⟩
  · rw [sendAndReceive_of_failed handler options state _ _ _ _ _ hencode hrequest hserved]
  · rcases hresponse : Apdu.decodeXdlmsApdu responseApdu with status | response
    · rw [sendAndReceive_of_undecodable handler options state _ _ _ _ _ _ hencode hrequest hserved
        hresponse]
    · rw [sendAndReceive_of_served handler options state _ _ _ _ _ _ hencode hrequest hserved
        hresponse]

end Exchange

end Xdlms

end Dlms
