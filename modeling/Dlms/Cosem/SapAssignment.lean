import Dlms.Cosem.ScriptTable

/-!
# The assignment of service access points

The list of the logical devices of a meter, each with the service access point
under which it is reached. The list may be written, and the application may set
it without a check.

The name of a device is bounded by the offset at which it would end. The sum of
the offset and a length near the limit of the size type wraps around, and then
the bound holds, but no string takes so many octets and the exception goes
through.

## Main definitions

* `SapAssignment`: One entry of the list.
* `appendSapAssignment`, `readSapAssignment`: The codec.
* `CosemSapAssignmentObject`: The object, with `create`, `readAttribute`,
  `writeAttribute` and `setAssignments`.
* `SapAssignmentCall`, `CosemSapAssignmentObject.call`: Any call.
-/

namespace Dlms

namespace Cosem

open Codec
open Apdu (Bytes LogicalName)

/-- A logical device, and the SAP it has. -/
structure SapAssignment where
  sap : UInt16
  logicalDeviceName : Bytes
  deriving DecidableEq

/-! ### Codec -/

/-- What an entry takes up in its vector. -/
def sapAssignmentSize : Nat := 40

def appendSapAssignment (assignment : SapAssignment) : Bytes :=
  appendStructureHeader 2 ++ (appendLongUnsigned assignment.sap ++
    appendOctetString assignment.logicalDeviceName)

/-- So many octets of an input of a size, bounded by their end. Octets that are
    there end within the input. Of the others the end is past it, unless the sum
    wraps around. -/
def readNameOctets (size length : Nat) : DataReader Bytes := fun rest =>
  let offset := size - rest.length
  if length ≤ rest.length then .ok (rest.take length, rest.drop length)
  else if (offset + length) % 2 ^ 64 > size then .error .invalid
  else .error .lengthError

def readSapAssignment (size : Nat) : DataReader SapAssignment := do
  readStructureHeader 2
  let sap ← readLongUnsignedValue
  readExpectedTag dataOctetStringTag
  let length ← readLength
  let logicalDeviceName ← readNameOctets size length
  pure { sap, logicalDeviceName }

def readSapAssignments (size : Nat) : DataReader (List SapAssignment) :=
  readArray sapAssignmentSize (readSapAssignment size)

/-! ### The object -/

structure CosemSapAssignmentObject where
  descriptor : CosemObjectKey
  assignments : List SapAssignment
  rights : CosemAccessRights

inductive SapAssignmentCall where
  | writeAttribute (attributeId : UInt8) (input : Bytes)
  | invokeMethod (methodId : UInt8) (input : Bytes)
  | setAssignments (assignments : List SapAssignment)

namespace CosemSapAssignmentObject

def sapAssignmentClassId : UInt16 := 17

def maxSupportedVersion : UInt8 := 0

def create (logicalName : LogicalName) (assignments : List SapAssignment)
    (listAccess : AttributeAccessMode) (version : UInt8) : CosemSapAssignmentObject where
  descriptor :=
    { classId := sapAssignmentClassId
      version := normalizeVersion version maxSupportedVersion
      logicalName := logicalName }
  assignments := assignments
  rights := valueAccessRights listAccess

def readAttribute (attributeId : UInt8) (object : CosemSapAssignmentObject) :
    Except CosemStatus Bytes :=
  match attributeId.toNat with
  | 1 => .ok (encodeLogicalName object.descriptor.logicalName)
  | 2 => .ok (appendArray appendSapAssignment object.assignments)
  | _ => .error .attributeNotFound

def writeAttribute (attributeId : UInt8) (input : Bytes) (object : CosemSapAssignmentObject) :
    Except WriteFailure Unit × CosemSapAssignmentObject :=
  match attributeId.toNat with
  | 1 => (.error (.status .accessDenied), object)
  | 2 =>
      if !isAccessWritable (object.rights.attributeAccess attributeId) then
        (.error (.status .accessDenied), object)
      else
        match decodePayload (readSapAssignments input.length) input with
        | .error failure => (.error failure, object)
        | .ok decoded => (.ok (), { object with assignments := decoded })
  | _ => (.error (.status .attributeNotFound), object)

/-- Connecting a device is left to the application. -/
def invokeMethod (methodId : UInt8) : Except CosemStatus Bytes :=
  if methodId = 1 then .error .unsupportedFeature else .error .methodNotFound

def setAssignments (assignments : List SapAssignment) (object : CosemSapAssignmentObject) :
    CosemSapAssignmentObject :=
  { object with assignments := assignments }

/-- Any call, with whether it went through. -/
def call (made : SapAssignmentCall) (object : CosemSapAssignmentObject) :
    Bool × CosemSapAssignmentObject :=
  match made with
  | .writeAttribute attributeId input =>
      let (result, object) := object.writeAttribute attributeId input
      (result.isOk, object)
  | .invokeMethod methodId _ => ((invokeMethod methodId).isOk, object)
  | .setAssignments assignments => (true, object.setAssignments assignments)

end CosemSapAssignmentObject

end Cosem

end Dlms
