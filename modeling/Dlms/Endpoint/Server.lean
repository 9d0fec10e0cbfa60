import Dlms.Endpoint.Strategy
import Dlms.Security.CipheredApduProcessor
import Dlms.Server.Adapter

/-!
# The server endpoint

An endpoint joins the layers over one channel. It opens the channel and
negotiates an association where it is configured to; it takes one request after
another, each a release, the client's reply to the server's challenge, or a
service for the processor; it closes. Its processor, with the blocks of its
transfers and the counters of its ciphering, is made with the endpoint and
lives as long, through any number of associations.

The application behind the processor is a handler over a state that other
endpoints may share, and may look at the endpoint's own context, as the
dispatcher of the object model does. What the channel does in a call, and the
random bytes a negotiation draws, are inputs of the call. Each call tells what
it did next to its status, in more detail than the source returns it.

## Main definitions

* `ServerEndpoint`: The state of an endpoint, `ServerEndpoint.create` a new one.
* `EndpointInput`, `EndpointOutput`: A call and what it did.
* `ServerEndpoint.openEndpoint`, `ServerEndpoint.runOnce`,
  `ServerEndpoint.close`: The calls.
* `ServerEndpoint.step`: Any of them.
-/

namespace Dlms

namespace Endpoint

open Apdu (Bytes)
open Association (AcceptEnvironment AssociationServer AssociationServerOptions AssociationResult)
open Profile (ProfileStatus)
open Security (CipheredApduState InMemoryKeyStore InMemoryInvocationCounterStore SystemTitle)
open Server (ServerAssociationContext ServerContext)
open Xdlms (ActionRequestBlockState GetResponseBlockState SecurityProcessor
  SetRequestBlockState XdlmsServerHandler XdlmsServerState XdlmsStatus)

/-! ### What the options configure -/

/-- The context of an association that nobody negotiated. -/
def makeAssociationContext (options : ServerEndpointOptions) : ServerAssociationContext where
  associated := true
  clientSap := options.profile.clientSap
  serverSap := options.profile.serverSap
  authenticated := options.security.authentication != .none
  ciphered := options.security.cipheredApdu

/-- The context of a negotiated association. -/
def makeNegotiatedContext (options : ServerEndpointOptions) (result : AssociationResult) :
    ServerAssociationContext :=
  { makeAssociationContext options with
    associated :=
      result.negotiatedDlmsVersionNumber != 0 && result.serverMaxReceivePduSize != 0 }

def makeAssociationServerOptions (security : EndpointSecurityOptions) (hasHls : Bool) :
    AssociationServerOptions :=
  match security.authentication with
  | .none => Association.defaultAssociationServerOptions
  | .lowPassword =>
      { Association.defaultAssociationServerOptions with
        authenticationMode := .lowLevelSecurity
        lowLevelSecurityCredential := security.password.data }
  | .highPassword =>
      { Association.defaultAssociationServerOptions with
        authenticationMode := .highLevelSecurity
        hasHighLevelSecurity := hasHls }
  | .highGmac =>
      { Association.defaultAssociationServerOptions with
        authenticationMode := .highLevelSecurity
        hasHighLevelSecurity := hasHls
        respondingApplicationTitle := security.systemTitle.data }

/-- The keys of the processor: those of the right size. -/
def processorKeys (security : EndpointSecurityOptions) : InMemoryKeyStore :=
  let encryption :=
    if isPresentOfSize security.globalUnicastEncryptionKey 16 then
      setKeyOrKeep .empty .globalUnicastEncryption security.globalUnicastEncryptionKey.data
    else
      .empty
  if isPresentOfSize security.authenticationKey 16 then
    setKeyOrKeep encryption .authentication security.authenticationKey.data
  else
    encryption

/-- The counters of the processor start two above those of the negotiation. -/
def processorSecurity (options : ServerEndpointOptions) : CipheredApduState where
  context :=
    { Security.emptySecurityContext with
      policy := .authenticatedAndEncrypted
      role := .server
      clientSap := options.profile.clientSap
      serverSap := options.profile.serverSap
      localSystemTitle := SystemTitle.ofBytes options.security.systemTitle.data
      remoteSystemTitle := SystemTitle.ofBytes options.security.peerSystemTitle.data }
  counters :=
    InMemoryInvocationCounterStore.setLocalCounter {} (options.security.invocationCounter + 2)

/-- An endpoint, except for what its handler works on. The security state is
    there, and unused, when nothing is ciphered. -/
structure ServerEndpoint where
  isOpen : Bool
  association : Option AssociationServer
  context : ServerContext
  hls : Option HlsStrategy
  hlsPending : Bool
  getBlocks : GetResponseBlockState
  setBlocks : SetRequestBlockState
  actionBlocks : ActionRequestBlockState
  security : CipheredApduState

/-! ### Calls -/

/-- What the calls of `Open` meet. -/
structure OpenEnvironment where
  channelOpen : Except ProfileStatus Unit
  accept : AcceptEnvironment

/-- The channel is closed in a call only to end a release. -/
structure RunEnvironment where
  receive : Except ProfileStatus Bytes
  send : Except ProfileStatus Unit
  close : Except ProfileStatus Unit

/-- A call of an endpoint, with what its surroundings do. -/
inductive EndpointInput where
  | openEndpoint (environment : OpenEnvironment)
  | runOnce (environment : RunEnvironment)
  | close (channelClose : Except ProfileStatus Unit)

/-- What became of the client's reply to the challenge. -/
inductive HlsOutcome where
  | malformed
  | rejected (status : EndpointStatus)
  | unanswered (status : EndpointStatus)
  | answered (serverResponse : Bytes) (responseApdu : Except EndpointStatus Bytes)

namespace HlsOutcome

/-- The response that goes out, or the status that ends the call. -/
def response : HlsOutcome → Except EndpointStatus Bytes
  | malformed => .error .securityFailed
  | rejected status => .error status
  | unanswered status => .error status
  | answered _ responseApdu => responseApdu

end HlsOutcome

/-- What a call did. -/
inductive EndpointEvent where
  | nothing
  | opened
  | released (released : Bool)
  | hlsReply (outcome : HlsOutcome)
  | service (request : Except XdlmsStatus Apdu.XdlmsApdu) (response : Except XdlmsStatus Bytes)
  | closed

/-- What a call returns, and what it has done. -/
structure EndpointOutput where
  status : Except EndpointStatus Unit
  event : EndpointEvent

/-! ### The reply to the challenge -/

def isAssociationLnReplyMethod (descriptor : Apdu.CosemMethodDescriptor) : Bool :=
  descriptor.classId == 15 && descriptor.logicalName == ⟨0, 0, 40, 0, 0, 255⟩ &&
    descriptor.methodId == 1

def encodeOctetStringActionResponse (invokeIdAndPriority : UInt8) (bytes : Bytes) :
    Except EndpointStatus Bytes :=
  match Apdu.encodeXdlmsApdu (.actionResponse (.normal invokeIdAndPriority
      { result := 0, returnParameter := some { type := .octetString, bytes := bytes } })) with
  | .ok responseApdu => .ok responseApdu
  | .error _ => .error .internalError

/-- A request that replies to a challenge: its invoke id, and the octet string
    that is its parameter. -/
def hlsReplyOf (plainRequest : Bytes) : Option (UInt8 × Option Bytes) :=
  match Apdu.decodeXdlmsApdu plainRequest with
  | .ok (.actionRequest (.normal invokeIdAndPriority normal)) =>
      if !isAssociationLnReplyMethod normal.descriptor then
        none
      else
        match normal.invocationParameter with
        | none => some (invokeIdAndPriority, none)
        | some data =>
            if data.type = .octetString then some (invokeIdAndPriority, some data.bytes)
            else some (invokeIdAndPriority, none)
  | _ => none

/-- Verify a reply, and answer the client's challenge when it is right. -/
def answerHlsReply (ciphers : Ciphers) (invokeIdAndPriority : UInt8)
    (clientResponse : Option Bytes) (hls : HlsStrategy) : HlsOutcome × HlsStrategy :=
  match clientResponse with
  | none => (.malformed, hls)
  | some clientResponse =>
      match hls.verifyClientResponse ciphers clientResponse with
      | (.error status, hls) => (.rejected status, hls)
      | (.ok (), hls) =>
          match hls.buildServerResponse ciphers with
          | (.error status, hls) => (.unanswered status, hls)
          | (.ok serverResponse, hls) =>
              (.answered serverResponse
                (encodeOctetStringActionResponse invokeIdAndPriority serverResponse), hls)

namespace ServerEndpoint

/-- A new endpoint. -/
def create (options : ServerEndpointOptions) : ServerEndpoint where
  isOpen := false
  association := none
  context :=
    if options.negotiateAssociation then ServerContext.clearAssociationContext
    else ServerContext.setAssociationContext (makeAssociationContext options)
  hls := none
  hlsPending := false
  getBlocks := {}
  setBlocks := {}
  actionBlocks := {}
  security := processorSecurity options

/-- The state of the processor, with what its handler works on. -/
def processor {δ : Type} (endpoint : ServerEndpoint) (device : δ) :
    XdlmsServerState CipheredApduState δ where
  getBlocks := endpoint.getBlocks
  setBlocks := endpoint.setBlocks
  actionBlocks := endpoint.actionBlocks
  security := endpoint.security
  device := device

/-- Take the state of the processor back. -/
def withProcessor {δ : Type} (endpoint : ServerEndpoint)
    (processor : XdlmsServerState CipheredApduState δ) : ServerEndpoint :=
  { endpoint with
    getBlocks := processor.getBlocks
    setBlocks := processor.setBlocks
    actionBlocks := processor.actionBlocks
    security := processor.security }

/-- Drop the association. -/
def dropAssociation (endpoint : ServerEndpoint) : ServerEndpoint :=
  { endpoint with
    association := none
    hls := none
    hlsPending := false
    isOpen := false }

variable (ciphers : Ciphers) (options : ServerEndpointOptions)

/-- The security processor, when there is one. -/
def securityProcessor : Option (SecurityProcessor CipheredApduState) :=
  if options.security.cipheredApdu then
    some (Security.CipheredApduProcessor.cipheredApduProcessor ciphers.gcm
      (processorKeys options.security))
  else
    none

/-! ### Opening -/

/-- With ciphering, the peer's title comes from the association request. -/
def applyCipheredAssociationContext (server : AssociationServer) (endpoint : ServerEndpoint) :
    Except EndpointStatus ServerEndpoint :=
  if !options.security.cipheredApdu then
    .ok endpoint
  else if server.result.callingApplicationTitle.length ≠ 8 then
    .error .securityFailed
  else
    .ok
      { endpoint with
        security :=
          { endpoint.security with
            context :=
              { endpoint.security.context with
                remoteSystemTitle :=
                  SystemTitle.ofBytes server.result.callingApplicationTitle } } }

/-- Negotiate with the strategy of the configuration, or with none: then the
    negotiation has no use for one. -/
def acceptAssociation (environment : AcceptEnvironment) :
    Except Association.AssociationStatus AssociationServer × Option HlsStrategy :=
  match makeHlsStrategy options.profile options.security with
  | none =>
      ((Association.accept hlsStrategy (makeAssociationServerOptions options.security false)
        environment (.high { password := [] })).1, none)
  | some strategy =>
      let out := Association.accept hlsStrategy
        (makeAssociationServerOptions options.security true) environment strategy
      (out.1, some out.2)

def negotiateAssociation (environment : AcceptEnvironment) (endpoint : ServerEndpoint) :
    Except EndpointStatus Unit × ServerEndpoint :=
  match acceptAssociation options environment with
  | (.error status, hls) =>
      (.error (mapAssociationStatus status), { endpoint with hls := hls })
  | (.ok server, hls) =>
      match applyCipheredAssociationContext options server { endpoint with hls := hls } with
      | .error status => (.error status, { endpoint with hls := hls, association := none })
      | .ok endpoint =>
          (.ok (),
            { endpoint with
              association := some server
              hlsPending := hls.isSome
              context :=
                if hls.isSome then ServerContext.clearAssociationContext
                else ServerContext.setAssociationContext
                  (makeNegotiatedContext options server.result) })

/-- The checks of an opening, before anything is done. -/
def validateOpen : Except EndpointStatus Unit :=
  match validateEndpointProfileOptions options.profile with
  | .error status => .error status
  | .ok () =>
      match validateEndpointSecurityOptions options.security with
      | .error status => .error status
      | .ok () =>
          if options.security.cipheredApdu ∧ !options.negotiateAssociation then
            .error .invalidArgument
          else if options.security.cipheredApdu ∧
              options.security.invocationCounter > 0xFFFFFFFF - 2 then
            .error .invalidArgument
          else
            .ok ()

/-- An endpoint that is open stays as it is. One that fails to negotiate closes
    its channel, whatever comes of that. -/
def openEndpoint (environment : OpenEnvironment) (endpoint : ServerEndpoint) :
    EndpointOutput × ServerEndpoint :=
  if endpoint.isOpen then
    (⟨.ok (), .nothing⟩, endpoint)
  else
    match validateOpen options with
    | .error status => (⟨.error status, .nothing⟩, endpoint)
    | .ok () =>
        match ofProfile environment.channelOpen with
        | .error status => (⟨.error status, .nothing⟩, endpoint)
        | .ok () =>
            if !options.negotiateAssociation then
              (⟨.ok (), .opened⟩, { endpoint with isOpen := true })
            else
              match negotiateAssociation options environment.accept endpoint with
              | (.error status, endpoint) => (⟨.error status, .nothing⟩, endpoint)
              | (.ok (), endpoint) => (⟨.ok (), .opened⟩, { endpoint with isOpen := true })

/-! ### Requests -/

/-- What a receive leaves in the cleared request buffer. -/
def receivedApdu (received : Except ProfileStatus Bytes) : Except EndpointStatus Bytes :=
  match received with
  | .ok requestApdu => .ok requestApdu
  | .error status =>
      match mapProfileStatus status with
      | .error status => .error status
      | .ok () => .ok []

def isReleaseRequest (requestApdu : Bytes) (endpoint : ServerEndpoint) : Bool :=
  options.negotiateAssociation && endpoint.association.isSome &&
    match Apdu.decodeAcseApdu requestApdu with
    | .ok (.rlrq _) => true
    | _ => false

def releaseAssociation (requestApdu : Bytes) (environment : RunEnvironment)
    (endpoint : ServerEndpoint) : EndpointOutput × ServerEndpoint :=
  match Association.release requestApdu environment.send environment.close with
  | .error status => (⟨.error (mapAssociationStatus status), .released false⟩, endpoint)
  | .ok () =>
      (⟨.ok (), .released true⟩,
        { endpoint.dropAssociation with context := ServerContext.clearAssociationContext })

/-- The plain text of a request while a reply is awaited. A request that cannot
    be unprotected is looked at as it is. -/
def plainRequestOf (requestApdu : Bytes) (endpoint : ServerEndpoint) :
    Bytes × ServerEndpoint :=
  match securityProcessor ciphers options with
  | none => (requestApdu, endpoint)
  | some processor =>
      match processor.unprotect requestApdu endpoint.security with
      | (.error _, security) => (requestApdu, { endpoint with security := security })
      | (.ok plainRequest, security) =>
          (if plainRequest = [] then requestApdu else plainRequest,
            { endpoint with security := security })

/-- The context once a reply has been answered. -/
def authenticatedContext (endpoint : ServerEndpoint) : ServerContext :=
  match endpoint.association with
  | none => endpoint.context
  | some server =>
      ServerContext.setAssociationContext (makeNegotiatedContext options server.result)

/-- Handle the reply to the challenge. A request that is none has still been
    unprotected. -/
def handleHlsReply (requestApdu : Bytes) (endpoint : ServerEndpoint) :
    Option HlsOutcome × ServerEndpoint :=
  match endpoint.hls with
  | none => (none, endpoint)
  | some hls =>
      if !endpoint.hlsPending ∨ requestApdu = [] then
        (none, endpoint)
      else
        let plain := plainRequestOf ciphers options requestApdu endpoint
        match hlsReplyOf plain.1 with
        | none => (none, plain.2)
        | some (invokeIdAndPriority, clientResponse) =>
            match answerHlsReply ciphers invokeIdAndPriority clientResponse hls with
            | (.answered serverResponse (.ok responseApdu), hls) =>
                (some (.answered serverResponse (.ok responseApdu)),
                  { plain.2 with
                    hls := some hls
                    hlsPending := false
                    context := authenticatedContext options plain.2 })
            | (outcome, hls) => (some outcome, { plain.2 with hls := some hls })

variable {δ : Type} (handler : ServerContext → XdlmsServerHandler δ)

/-- Let the processor answer a request. The processor has the default options of
    the services. -/
def processService (requestApdu : Bytes) (endpoint : ServerEndpoint) (device : δ) :
    (Except XdlmsStatus Apdu.XdlmsApdu × Except XdlmsStatus Bytes) × ServerEndpoint × δ :=
  let security := securityProcessor ciphers options
  let out := Xdlms.processRequest (handler endpoint.context) Xdlms.defaultServiceOptions security
    requestApdu (endpoint.processor device)
  (((Xdlms.decodeRequest security requestApdu endpoint.security).1, out.1),
    endpoint.withProcessor out.2, out.2.device)

def runOnce (environment : RunEnvironment) (endpoint : ServerEndpoint) (device : δ) :
    EndpointOutput × ServerEndpoint × δ :=
  if !endpoint.isOpen then
    (⟨.error .invalidState, .nothing⟩, endpoint, device)
  else
    match receivedApdu environment.receive with
    | .error status => (⟨.error status, .nothing⟩, endpoint, device)
    | .ok requestApdu =>
        if isReleaseRequest options requestApdu endpoint then
          let out := releaseAssociation requestApdu environment endpoint
          (out.1, out.2, device)
        else
          match handleHlsReply ciphers options requestApdu endpoint with
          | (some outcome, endpoint) =>
              (⟨outcome.response.bind fun _ => ofProfile environment.send, .hlsReply outcome⟩,
                endpoint, device)
          | (none, endpoint) =>
              let out := processService ciphers options handler requestApdu endpoint device
              (⟨(out.1.2.mapError mapXdlmsStatus).bind fun _ => ofProfile environment.send,
                  .service out.1.1 out.1.2⟩,
                out.2.1, out.2.2)

/-! ### Closing -/

/-- Closing keeps the context, and with it whether there is an association. -/
def close (channelClose : Except ProfileStatus Unit) (endpoint : ServerEndpoint) :
    EndpointOutput × ServerEndpoint :=
  if !endpoint.isOpen then
    (⟨.ok (), .nothing⟩, endpoint)
  else
    match ofProfile channelClose with
    | .error status => (⟨.error status, .nothing⟩, endpoint)
    | .ok () => (⟨.ok (), .closed⟩, endpoint.dropAssociation)

/-- Any call. -/
def step (input : EndpointInput) (endpoint : ServerEndpoint) (device : δ) :
    EndpointOutput × ServerEndpoint × δ :=
  match input with
  | .openEndpoint environment =>
      let out := openEndpoint options environment endpoint
      (out.1, out.2, device)
  | .runOnce environment => runOnce ciphers options handler environment endpoint device
  | .close channelClose =>
      let out := close channelClose endpoint
      (out.1, out.2, device)

end ServerEndpoint

end Endpoint

end Dlms
