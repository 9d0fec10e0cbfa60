import Dlms.Association.Lifecycle
import Dlms.Endpoint.Server

/-!
# The gateway endpoint

A gateway is a server to its downstream channel and a client to its upstream. A
service that the policy allows is passed on, and one that it denies is answered
with `access-denied`. Where it is configured to, the gateway negotiates an
association before it opens the upstream, and a release of the association
closes both.

The policy is constant, as the functions of its interface are. The upstream is
an interface over a state of its own. A service that fails returns its status
only, since nothing reads what the source leaves in the result then. The options
of the upstream are for the client that is made elsewhere, so only those of the
downstream are here.

## Main definitions

* `GatewayPolicy`, `GatewayUpstream`: The interfaces.
* `gatewayHandler`: What becomes of a service.
* `GatewayEndpoint`: The state of a gateway, `GatewayEndpoint.create` a new one.
* `GatewayCall`, `GatewayEndpoint.call`: Opening, one request, closing.
-/

namespace Dlms

namespace Endpoint

open Apdu (Bytes)
open Association (AssociationServerOptions AssociationServerSession)
open Profile (ProfileStatus)
open Xdlms (CosemAttributeDescriptor CosemMethodDescriptor XdlmsServerHandler XdlmsServerState
  XdlmsStatus)

structure GatewayPolicy where
  allowGet : CosemAttributeDescriptor → Bool
  allowSet : CosemAttributeDescriptor → Bool
  allowAction : CosemMethodDescriptor → Bool

/-- The way to the devices behind a gateway. An action without a parameter has
    none. -/
structure GatewayUpstream (υ : Type) where
  openUpstream : υ → Except EndpointStatus Unit × υ
  closeUpstream : υ → Except EndpointStatus Unit × υ
  get : CosemAttributeDescriptor → υ → Except EndpointStatus Bytes × υ
  set : CosemAttributeDescriptor → Bytes → υ → Except EndpointStatus Unit × υ
  action : CosemMethodDescriptor → Option Bytes → υ → Except EndpointStatus Bytes × υ

def accessDeniedResult : UInt8 := 3

def mapEndpointStatusToXdlmsStatus (status : EndpointStatus) : XdlmsStatus :=
  match status with
  | .invalidArgument => .invalidArgument
  | .invalidState | .associationFailed => .invalidState
  | .securityFailed => .securityFailed
  | .unsupportedProfile => .unsupportedFeature
  | .transportFailed | .profileFailed | .serviceFailed | .timeout | .closed => .serviceRejected
  | .internalError => .internalError

/-- The handler between the downstream processor and the upstream. -/
def gatewayHandler {υ : Type} (policy : GatewayPolicy) (upstream : GatewayUpstream υ) :
    XdlmsServerHandler υ where
  handleGet := fun indication device =>
    if !policy.allowGet indication.descriptor then
      (.ok
        { invokeId := indication.invokeId
          hasAccessResult := true
          accessResult := accessDeniedResult }, device)
    else
      match upstream.get indication.descriptor device with
      | (.error status, device) => (.error (mapEndpointStatusToXdlmsStatus status), device)
      | (.ok data, device) =>
          (.ok { invokeId := indication.invokeId, hasData := true, data := data }, device)
  handleSet := fun indication device =>
    if !policy.allowSet indication.descriptor then
      (.ok { invokeId := indication.invokeId, accessResult := accessDeniedResult }, device)
    else
      match upstream.set indication.descriptor indication.data device with
      | (.error status, device) => (.error (mapEndpointStatusToXdlmsStatus status), device)
      | (.ok (), device) => (.ok { invokeId := indication.invokeId, accessResult := 0 }, device)
  handleAction := fun indication device =>
    if !policy.allowAction indication.descriptor then
      (.ok { invokeId := indication.invokeId, actionResult := accessDeniedResult }, device)
    else
      match upstream.action indication.descriptor indication.parameter device with
      | (.error status, device) => (.error (mapEndpointStatusToXdlmsStatus status), device)
      | (.ok data, device) =>
          (.ok
            { invokeId := indication.invokeId
              actionResult := 0
              hasData := !data.isEmpty
              data := data }, device)

/-! ### The endpoint -/

/-- A gateway with its upstream, which its processor works on. The processor has
    no security. -/
structure GatewayEndpoint (υ : Type) where
  isOpen : Bool := false
  association : Option AssociationServerSession := none
  processor : XdlmsServerState Unit υ

/-- What the downstream channel does in an opening. -/
structure GatewayOpening where
  channelOpen : Except ProfileStatus Unit
  /-- The association opens the channel once more. -/
  associationOpen : Except ProfileStatus Unit
  receive : Except ProfileStatus Bytes
  send : Except ProfileStatus Unit

/-- What a user asks of a gateway. -/
inductive GatewayCall where
  | openGateway (environment : GatewayOpening)
  | runOnce (environment : RunEnvironment)
  | close (channelClose : Except ProfileStatus Unit)

namespace GatewayEndpoint

variable {υ : Type}

/-- A new gateway. -/
def create (device : υ) : GatewayEndpoint υ where
  processor := { security := (), device := device }

/-- The upstream is in another state. -/
def withDevice (gateway : GatewayEndpoint υ) (device : υ) : GatewayEndpoint υ :=
  { gateway with processor := { gateway.processor with device := device } }

def makeAssociationServerOptions (security : EndpointSecurityOptions) :
    AssociationServerOptions :=
  if security.authentication = .lowPassword then
    { Association.defaultAssociationServerOptions with
      authenticationMode := .lowLevelSecurity
      lowLevelSecurityCredential := security.password.data }
  else
    Association.defaultAssociationServerOptions

variable (options : ServerEndpointOptions) (policy : GatewayPolicy) (upstream : GatewayUpstream υ)

/-! ### Opening -/

/-- A new association server is opened and accepts, and is kept if it does. -/
def negotiateDownstreamAssociation (environment : GatewayOpening)
    (association : Option AssociationServerSession) :
    Except EndpointStatus Unit × Option AssociationServerSession :=
  if !options.negotiateAssociation then (.ok (), association)
  else if options.security.authentication ≠ .none ∧
      options.security.authentication ≠ .lowPassword then
    (.error .associationFailed, association)
  else
    match AssociationServerSession.openChannel environment.associationOpen {} with
    | (.error status, _) => (.error (mapAssociationStatus status), association)
    | (.ok (), session) =>
        match AssociationServerSession.accept AssociationServerSession.withoutServerStrategy
            (makeAssociationServerOptions options.security) environment.receive none
            environment.send session () with
        | (.error status, _, _) => (.error (mapAssociationStatus status), association)
        | (.ok (), session, _) => (.ok (), some session)

/-- A gateway that fails to negotiate, or to open its upstream, closes its
    channel, whatever comes of that. -/
def openGateway (environment : GatewayOpening) (gateway : GatewayEndpoint υ) :
    Except EndpointStatus Unit × GatewayEndpoint υ :=
  if gateway.isOpen then (.ok (), gateway)
  else
    match validateEndpointProfileOptions options.profile with
    | .error status => (.error status, gateway)
    | .ok () =>
        match validateEndpointSecurityOptions options.security with
        | .error status => (.error status, gateway)
        | .ok () =>
            match ofProfile environment.channelOpen with
            | .error status => (.error status, gateway)
            | .ok () =>
                match negotiateDownstreamAssociation options environment gateway.association with
                | (.error status, _) => (.error status, { gateway with association := none })
                | (.ok (), association) =>
                    match upstream.openUpstream gateway.processor.device with
                    | (.error status, device) =>
                        (.error status, { gateway.withDevice device with association := none })
                    | (.ok (), device) =>
                        (.ok (), { gateway.withDevice device with
                          association := association
                          isOpen := true })

/-! ### Requests -/

def isReleaseRequest (requestApdu : Bytes) (gateway : GatewayEndpoint υ) : Bool :=
  options.negotiateAssociation && gateway.association.isSome &&
    match Apdu.decodeAcseApdu requestApdu with
    | .ok (.rlrq _) => true
    | _ => false

/-- The association is gone once it is released; the gateway is closed only if
    its upstream closes. -/
def releaseDownstreamAssociation (requestApdu : Bytes) (environment : RunEnvironment)
    (gateway : GatewayEndpoint υ) : Except EndpointStatus Unit × GatewayEndpoint υ :=
  match gateway.association with
  | none => (.error .invalidState, gateway)
  | some session =>
      match session.releaseWith requestApdu environment.send environment.close with
      | (.error status, session) =>
          (.error (mapAssociationStatus status), { gateway with association := some session })
      | (.ok (), _) =>
          match upstream.closeUpstream gateway.processor.device with
          | (.error status, device) =>
              (.error status, { gateway.withDevice device with association := none })
          | (.ok (), device) =>
              (.ok (), { gateway.withDevice device with association := none, isOpen := false })

def runOnce (environment : RunEnvironment) (gateway : GatewayEndpoint υ) :
    Except EndpointStatus Unit × GatewayEndpoint υ :=
  if !gateway.isOpen then (.error .invalidState, gateway)
  else
    match ServerEndpoint.receivedApdu environment.receive with
    | .error status => (.error status, gateway)
    | .ok requestApdu =>
        if isReleaseRequest options requestApdu gateway then
          releaseDownstreamAssociation upstream requestApdu environment gateway
        else
          let out := Xdlms.processRequest (gatewayHandler policy upstream)
            Xdlms.defaultServiceOptions none requestApdu gateway.processor
          ((out.1.mapError mapXdlmsStatus).bind fun _ => ofProfile environment.send,
            { gateway with processor := out.2 })

/-! ### Closing -/

/-- The gateway is closed once its channel is, whatever comes of the upstream. -/
def close (channelClose : Except ProfileStatus Unit) (gateway : GatewayEndpoint υ) :
    Except EndpointStatus Unit × GatewayEndpoint υ :=
  if !gateway.isOpen then (.ok (), gateway)
  else
    let (upstreamStatus, device) := upstream.closeUpstream gateway.processor.device
    let downstreamStatus := ofProfile channelClose
    let status : Except EndpointStatus Unit :=
      match upstreamStatus with
      | .ok () => downstreamStatus
      | .error status => .error status
    match downstreamStatus with
    | .error _ => (status, gateway.withDevice device)
    | .ok () => (status, { gateway.withDevice device with association := none, isOpen := false })

/-- Any call. -/
def call (call : GatewayCall) (gateway : GatewayEndpoint υ) :
    Except EndpointStatus Unit × GatewayEndpoint υ :=
  match call with
  | .openGateway environment => openGateway options upstream environment gateway
  | .runOnce environment => runOnce options policy upstream environment gateway
  | .close channelClose => close upstream channelClose gateway

end GatewayEndpoint

end Endpoint

end Dlms
