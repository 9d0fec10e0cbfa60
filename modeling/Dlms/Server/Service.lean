import Dlms.Cosem.Registry

/-!
# The service dispatcher of a server

From a service of the object model to a response with a status. The dispatcher
asks, in this order, whether the descriptor is valid, whether there is an
association, and whether there is a device; only then does it call the device.

A context is a value here: what the association layer has set, and the access
context that follows from it. The device that the source attaches to its
context is an argument of the dispatcher, since it is attached once.

## Main definitions

* `ServerContext`: The association and access state.
* `IServerService`: The three services.
* `cosemServiceDispatcher`: The services of a device.

## Theorems

* `handleGet_of_not_associated` and the same for the others: Without an
  association the device is not called.
-/

namespace Dlms

namespace Server

open Apdu (Bytes)
open Cosem

/-- Failure codes of the server; `ok` is among them since a response carries
    its status. -/
inductive ServerStatus where
  | ok
  | invalidArgument
  | notAssociated
  | noLogicalDevice
  | objectNotFound
  | accessDenied
  | attributeNotFound
  | methodNotFound
  | objectError
  | unsupportedFeature
  | encodeRequired
  | internalError
  deriving DecidableEq, Repr

def mapCosemStatus (status : CosemStatus) : ServerStatus :=
  match status with
  | .invalidArgument => .invalidArgument
  | .objectNotFound => .objectNotFound
  | .accessDenied => .accessDenied
  | .attributeNotFound => .attributeNotFound
  | .methodNotFound => .methodNotFound
  | .objectError => .objectError
  | .unsupportedFeature => .unsupportedFeature
  | .duplicateObject | .outputBufferTooSmall | .internalError => .internalError

/-- What the association is known to be. -/
structure ServerAssociationContext where
  associated : Bool := false
  clientSap : UInt16 := 0
  serverSap : UInt16 := 0
  authenticated : Bool := false
  ciphered : Bool := false
  deriving DecidableEq, Repr

/-- The association, and the access it gives. -/
structure ServerContext where
  association : ServerAssociationContext := {}
  accessContext : CosemAccessContext := publicAccessContext
  deriving DecidableEq, Repr

namespace ServerContext

variable (context : ServerContext)

def isAssociated : Bool := context.association.associated

def setAssociationContext (association : ServerAssociationContext) : ServerContext where
  association := association
  accessContext :=
    if association.authenticated then authenticatedAccessContext else publicAccessContext

def clearAssociationContext : ServerContext := {}

end ServerContext

structure ServerGetRequest where
  invokeId : UInt8
  descriptor : CosemAttributeDescriptor
  deriving DecidableEq, Repr

structure ServerSetRequest where
  invokeId : UInt8
  descriptor : CosemAttributeDescriptor
  data : Bytes
  deriving DecidableEq, Repr

structure ServerActionRequest where
  invokeId : UInt8
  descriptor : CosemMethodDescriptor
  parameter : Bytes
  deriving DecidableEq, Repr

structure ServerGetResponse where
  invokeId : UInt8
  status : ServerStatus
  hasData : Bool
  data : Bytes
  deriving DecidableEq, Repr

structure ServerSetResponse where
  invokeId : UInt8
  status : ServerStatus
  deriving DecidableEq, Repr

structure ServerActionResponse where
  invokeId : UInt8
  status : ServerStatus
  hasData : Bool
  data : Bytes
  deriving DecidableEq, Repr

def makeServerGetResponse (invokeId : UInt8) (status : ServerStatus) : ServerGetResponse where
  invokeId := invokeId
  status := status
  hasData := false
  data := []

def makeServerGetDataResponse (invokeId : UInt8) (data : Bytes) : ServerGetResponse where
  invokeId := invokeId
  status := .ok
  hasData := true
  data := data

def makeServerSetResponse (invokeId : UInt8) (status : ServerStatus) : ServerSetResponse where
  invokeId := invokeId
  status := status

def makeServerActionResponse (invokeId : UInt8) (status : ServerStatus) :
    ServerActionResponse where
  invokeId := invokeId
  status := status
  hasData := false
  data := []

def makeServerActionDataResponse (invokeId : UInt8) (data : Bytes) : ServerActionResponse where
  invokeId := invokeId
  status := .ok
  hasData := true
  data := data

/-- The services of a server, over the state of what is behind it. -/
structure IServerService (δ : Type) where
  handleGet : ServerGetRequest → δ → ServerGetResponse × δ
  handleSet : ServerSetRequest → δ → ServerSetResponse × δ
  handleAction : ServerActionRequest → δ → ServerActionResponse × δ

section Dispatcher

variable {δ : Type} (logicalDevice : Option (ILogicalDevice δ)) (context : ServerContext)

def CosemServiceDispatcher.handleGet (request : ServerGetRequest) (state : δ) :
    ServerGetResponse × δ :=
  match validateAttributeDescriptor request.descriptor with
  | .error status => (makeServerGetResponse request.invokeId (mapCosemStatus status), state)
  | .ok () =>
      if !context.isAssociated then
        (makeServerGetResponse request.invokeId .notAssociated, state)
      else
        match logicalDevice with
        | none => (makeServerGetResponse request.invokeId .noLogicalDevice, state)
        | some device =>
            match device.readAttribute request.descriptor context.accessContext state with
            | (.error status, state) =>
                (makeServerGetResponse request.invokeId (mapCosemStatus status), state)
            | (.ok data, state) => (makeServerGetDataResponse request.invokeId data, state)

def CosemServiceDispatcher.handleSet (request : ServerSetRequest) (state : δ) :
    ServerSetResponse × δ :=
  match validateAttributeDescriptor request.descriptor with
  | .error status => (makeServerSetResponse request.invokeId (mapCosemStatus status), state)
  | .ok () =>
      if !context.isAssociated then
        (makeServerSetResponse request.invokeId .notAssociated, state)
      else
        match logicalDevice with
        | none => (makeServerSetResponse request.invokeId .noLogicalDevice, state)
        | some device =>
            match device.writeAttribute request.descriptor context.accessContext request.data
                state with
            | (.error status, state) =>
                (makeServerSetResponse request.invokeId (mapCosemStatus status), state)
            | (.ok (), state) => (makeServerSetResponse request.invokeId .ok, state)

def CosemServiceDispatcher.handleAction (request : ServerActionRequest) (state : δ) :
    ServerActionResponse × δ :=
  match validateMethodDescriptor request.descriptor with
  | .error status => (makeServerActionResponse request.invokeId (mapCosemStatus status), state)
  | .ok () =>
      if !context.isAssociated then
        (makeServerActionResponse request.invokeId .notAssociated, state)
      else
        match logicalDevice with
        | none => (makeServerActionResponse request.invokeId .noLogicalDevice, state)
        | some device =>
            match device.invokeMethod request.descriptor context.accessContext request.parameter
                state with
            | (.error status, state) =>
                (makeServerActionResponse request.invokeId (mapCosemStatus status), state)
            | (.ok data, state) => (makeServerActionDataResponse request.invokeId data, state)

def cosemServiceDispatcher : IServerService δ where
  handleGet := CosemServiceDispatcher.handleGet logicalDevice context
  handleSet := CosemServiceDispatcher.handleSet logicalDevice context
  handleAction := CosemServiceDispatcher.handleAction logicalDevice context

/-! ### Without an association -/

variable (hassociated : context.isAssociated = false)
include hassociated

theorem handleGet_of_not_associated (request : ServerGetRequest) (state : δ)
    (hvalid : validateAttributeDescriptor request.descriptor = .ok ()) :
    (cosemServiceDispatcher logicalDevice context).handleGet request state =
      (makeServerGetResponse request.invokeId .notAssociated, state) := by
  simp [cosemServiceDispatcher, CosemServiceDispatcher.handleGet, hvalid, hassociated]

theorem handleSet_of_not_associated (request : ServerSetRequest) (state : δ)
    (hvalid : validateAttributeDescriptor request.descriptor = .ok ()) :
    (cosemServiceDispatcher logicalDevice context).handleSet request state =
      (makeServerSetResponse request.invokeId .notAssociated, state) := by
  simp [cosemServiceDispatcher, CosemServiceDispatcher.handleSet, hvalid, hassociated]

theorem handleAction_of_not_associated (request : ServerActionRequest) (state : δ)
    (hvalid : validateMethodDescriptor request.descriptor = .ok ()) :
    (cosemServiceDispatcher logicalDevice context).handleAction request state =
      (makeServerActionResponse request.invokeId .notAssociated, state) := by
  simp [cosemServiceDispatcher, CosemServiceDispatcher.handleAction, hvalid, hassociated]

end Dispatcher

end Server

end Dlms
