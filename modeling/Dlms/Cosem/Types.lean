import Dlms.Apdu.Service

/-!
# COSEM types and access rights

How a logical device names its objects and says who may use them. An object is
identified by its class, the version of the class and its logical name; a
descriptor adds the attribute or the method.

Access rights are two maps of the source in which a missing entry means no
access, so they are total functions here.

## Main definitions

* `CosemObjectKey`: The identity of an object.
* `CosemAttributeDescriptor`, `CosemMethodDescriptor`: What a request is about.
* `CosemAccessRights`: Which attributes and methods an object lets whom use.

## Theorems

* `validateAttributeDescriptor_eq_ok_iff`, `validateMethodDescriptor_eq_ok_iff`:
  What a descriptor needs to be valid.
-/

namespace Dlms

namespace Cosem

open Apdu (Bytes LogicalName)

/-- Failure codes of the object model. -/
inductive CosemStatus where
  | invalidArgument
  | duplicateObject
  | objectNotFound
  | attributeNotFound
  | methodNotFound
  | accessDenied
  | outputBufferTooSmall
  | unsupportedFeature
  | objectError
  | internalError
  deriving DecidableEq, Repr

/-- What a registry finds an object by. -/
structure CosemObjectKey where
  classId : UInt16
  version : UInt8
  logicalName : LogicalName
  deriving DecidableEq, Repr

structure CosemAttributeDescriptor where
  object : CosemObjectKey
  attributeId : UInt8
  deriving DecidableEq, Repr

structure CosemMethodDescriptor where
  object : CosemObjectKey
  methodId : UInt8
  deriving DecidableEq, Repr

def LogicalName.isEmpty (name : LogicalName) : Bool := name.bytes.all (· == 0)

/-! ### Validation -/

def validateObjectKey (key : CosemObjectKey) : Except CosemStatus Unit :=
  if key.classId = 0 ∨ LogicalName.isEmpty key.logicalName then .error .invalidArgument
  else .ok ()

def validateAttributeDescriptor (descriptor : CosemAttributeDescriptor) :
    Except CosemStatus Unit := do
  validateObjectKey descriptor.object
  if descriptor.attributeId = 0 then .error .invalidArgument else .ok ()

def validateMethodDescriptor (descriptor : CosemMethodDescriptor) :
    Except CosemStatus Unit := do
  validateObjectKey descriptor.object
  if descriptor.methodId = 0 then .error .invalidArgument else .ok ()

theorem validateAttributeDescriptor_eq_ok_iff (descriptor : CosemAttributeDescriptor) :
    validateAttributeDescriptor descriptor = .ok () ↔
      validateObjectKey descriptor.object = .ok () ∧ descriptor.attributeId ≠ 0 := by
  rw [validateAttributeDescriptor]
  cases hkey : validateObjectKey descriptor.object with
  | error status => simp [bind, Except.bind]
  | ok valid =>
      by_cases hid : descriptor.attributeId = 0
      · simp [bind, Except.bind, hid]
      · simp [bind, Except.bind, hid]

theorem validateMethodDescriptor_eq_ok_iff (descriptor : CosemMethodDescriptor) :
    validateMethodDescriptor descriptor = .ok () ↔
      validateObjectKey descriptor.object = .ok () ∧ descriptor.methodId ≠ 0 := by
  rw [validateMethodDescriptor]
  cases hkey : validateObjectKey descriptor.object with
  | error status => simp [bind, Except.bind]
  | ok valid =>
      by_cases hid : descriptor.methodId = 0
      · simp [bind, Except.bind, hid]
      · simp [bind, Except.bind, hid]

/-! ### Access rights -/

inductive AttributeAccessMode where
  | noAccess
  | readOnly
  | writeOnly
  | readAndWrite
  | authenticatedReadOnly
  | authenticatedWriteOnly
  | authenticatedReadAndWrite
  deriving DecidableEq, Repr

inductive MethodAccessMode where
  | noAccess
  | access
  | authenticatedAccess
  deriving DecidableEq, Repr

/-- Whether the client is authenticated. -/
structure CosemAccessContext where
  authenticated : Bool
  deriving DecidableEq, Repr

def publicAccessContext : CosemAccessContext := ⟨false⟩

def authenticatedAccessContext : CosemAccessContext := ⟨true⟩

def isReadAllowed (mode : AttributeAccessMode) (context : CosemAccessContext) : Bool :=
  match mode with
  | .readOnly | .readAndWrite => true
  | .authenticatedReadOnly | .authenticatedReadAndWrite => context.authenticated
  | .noAccess | .writeOnly | .authenticatedWriteOnly => false

def isWriteAllowed (mode : AttributeAccessMode) (context : CosemAccessContext) : Bool :=
  match mode with
  | .writeOnly | .readAndWrite => true
  | .authenticatedWriteOnly | .authenticatedReadAndWrite => context.authenticated
  | .noAccess | .readOnly | .authenticatedReadOnly => false

def isMethodAllowed (mode : MethodAccessMode) (context : CosemAccessContext) : Bool :=
  match mode with
  | .access => true
  | .authenticatedAccess => context.authenticated
  | .noAccess => false

/-- The access mode of each attribute and method. -/
structure CosemAccessRights where
  attributeAccess : UInt8 → AttributeAccessMode
  methodAccess : UInt8 → MethodAccessMode

namespace CosemAccessRights

variable (rights : CosemAccessRights)

def canReadAttribute (attributeId : UInt8) (context : CosemAccessContext) : Bool :=
  isReadAllowed (rights.attributeAccess attributeId) context

def canWriteAttribute (attributeId : UInt8) (context : CosemAccessContext) : Bool :=
  isWriteAllowed (rights.attributeAccess attributeId) context

def canInvokeMethod (methodId : UInt8) (context : CosemAccessContext) : Bool :=
  isMethodAllowed (rights.methodAccess methodId) context

end CosemAccessRights

end Cosem

end Dlms
