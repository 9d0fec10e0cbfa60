import Dlms.Server.Service
import Dlms.Xdlms.Server

/-!
# The adapter between the xDLMS server and the service dispatcher

A request names an object by its class and logical name only. The adapter
supplies the third part of the key, the version, as zero. What the object
model reports becomes a result code of the service where there is one for it,
and a failure of the service otherwise.

## Main definitions

* `toServerDescriptor`, `toServerMethodDescriptor`: The key the adapter makes.
* `xdlmsServerAdapter`: The handler of a server.
-/

namespace Dlms

namespace Server

open Apdu (Bytes)
open Cosem (CosemObjectKey)
open Xdlms (XdlmsStatus XdlmsServerHandler GetIndication SetIndication ActionIndication
  GetResult SetResult ActionResult)

def toServerDescriptor (descriptor : Xdlms.CosemAttributeDescriptor) :
    Cosem.CosemAttributeDescriptor where
  object :=
    { classId := descriptor.classId
      version := 0
      logicalName := descriptor.instanceId }
  attributeId := descriptor.attributeId

def toServerMethodDescriptor (descriptor : Xdlms.CosemMethodDescriptor) :
    Cosem.CosemMethodDescriptor where
  object :=
    { classId := descriptor.classId
      version := 0
      logicalName := descriptor.instanceId }
  methodId := descriptor.methodId

def isDataAccessResultStatus (status : ServerStatus) : Bool :=
  status == .objectNotFound || status == .accessDenied || status == .attributeNotFound ||
    status == .objectError

def isActionResultStatus (status : ServerStatus) : Bool :=
  status == .objectNotFound || status == .accessDenied || status == .methodNotFound ||
    status == .objectError

def mapServerStatusToDataAccessResult (status : ServerStatus) : UInt8 :=
  match status with
  | .accessDenied => 3
  | .objectNotFound | .attributeNotFound => 4
  -- Everything else has no code of its own and is `other-reason`.
  | .ok | .invalidArgument | .notAssociated | .noLogicalDevice | .methodNotFound | .objectError
  | .unsupportedFeature | .encodeRequired | .internalError => 250

def mapServerStatusToActionResult (status : ServerStatus) : UInt8 :=
  match status with
  | .accessDenied => 3
  | .objectNotFound | .methodNotFound => 4
  -- Everything else has no code of its own and is `other-reason`.
  | .ok | .invalidArgument | .notAssociated | .noLogicalDevice | .attributeNotFound | .objectError
  | .unsupportedFeature | .encodeRequired | .internalError => 250

/-- `none` is the source's success, which no failing response has. -/
def mapServerStatusToXdlmsStatus (status : ServerStatus) : Option XdlmsStatus :=
  match status with
  | .ok => none
  | .invalidArgument => some .invalidArgument
  | .notAssociated => some .notAssociated
  | .noLogicalDevice => some .invalidState
  | .unsupportedFeature => some .unsupportedFeature
  | .encodeRequired | .objectNotFound | .accessDenied | .attributeNotFound | .methodNotFound
  | .objectError | .internalError => some .internalError

/-- The outcome of a response that is neither a success nor has a result code:
    the result stays empty. -/
def failureOf {ρ : Type} (status : ServerStatus) (empty : ρ) : Except XdlmsStatus ρ :=
  match mapServerStatusToXdlmsStatus status with
  | none => .ok empty
  | some status => .error status

section Adapter

variable {δ : Type} (server : IServerService δ)

def XdlmsServerAdapter.getResult (response : ServerGetResponse) : Except XdlmsStatus GetResult :=
  if response.status = .ok then
    if !response.hasData then
      .error .internalError
    else
      .ok { invokeId := response.invokeId, hasData := true, data := response.data }
  else if isDataAccessResultStatus response.status then
    .ok
      { invokeId := response.invokeId
        hasAccessResult := true
        accessResult := mapServerStatusToDataAccessResult response.status }
  else
    failureOf response.status {}

def XdlmsServerAdapter.handleGet (indication : GetIndication) (state : δ) :
    Except XdlmsStatus GetResult × δ :=
  let response := server.handleGet
    { invokeId := indication.invokeId
      descriptor := toServerDescriptor indication.descriptor }
    state
  (XdlmsServerAdapter.getResult response.1, response.2)

def XdlmsServerAdapter.setResult (response : ServerSetResponse) : Except XdlmsStatus SetResult :=
  if response.status = .ok then
    .ok { invokeId := response.invokeId, accessResult := 0 }
  else if isDataAccessResultStatus response.status then
    .ok
      { invokeId := response.invokeId
        accessResult := mapServerStatusToDataAccessResult response.status }
  else
    failureOf response.status {}

def XdlmsServerAdapter.handleSet (indication : SetIndication) (state : δ) :
    Except XdlmsStatus SetResult × δ :=
  let response := server.handleSet
    { invokeId := indication.invokeId
      descriptor := toServerDescriptor indication.descriptor
      data := indication.data }
    state
  (XdlmsServerAdapter.setResult response.1, response.2)

def XdlmsServerAdapter.actionResult (response : ServerActionResponse) :
    Except XdlmsStatus ActionResult :=
  if response.status = .ok then
    .ok
      { invokeId := response.invokeId
        actionResult := 0
        hasData := response.hasData
        data := response.data }
  else if isActionResultStatus response.status then
    .ok
      { invokeId := response.invokeId
        actionResult := mapServerStatusToActionResult response.status }
  else
    failureOf response.status {}

/-- A request without a parameter has an empty one in the source. -/
def XdlmsServerAdapter.handleAction (indication : ActionIndication) (state : δ) :
    Except XdlmsStatus ActionResult × δ :=
  let response := server.handleAction
    { invokeId := indication.invokeId
      descriptor := toServerMethodDescriptor indication.descriptor
      parameter := indication.parameter.getD [] }
    state
  (XdlmsServerAdapter.actionResult response.1, response.2)

def xdlmsServerAdapter : XdlmsServerHandler δ where
  handleGet := XdlmsServerAdapter.handleGet server
  handleSet := XdlmsServerAdapter.handleSet server
  handleAction := XdlmsServerAdapter.handleAction server

end Adapter

end Server

end Dlms
