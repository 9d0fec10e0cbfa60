import Dlms.Codec.Tables
import Dlms.Cosem.DataItems

/-!
# The script table

A script is a list of actions under an identifier, and an action is a service on
another object with a parameter. The parameter is kept as the octets it came in,
and no parameter at all is written as null data.

An action that is not configured has nothing in any of its fields. A script
never has an action that is not valid: the constructor drops all of them, and
the setter refuses.

## Main definitions

* `ActionSpecification`, `ScriptEntry`: The rows.
* `appendScripts`, `decodeScripts`: The codec.
* `CosemScriptTableObject`: The object, with `create`, `readAttribute`,
  `writeAttribute` and `setScripts`.
* `ScriptTableCall`, `CosemScriptTableObject.call`: Any call.
-/

namespace Dlms

namespace Cosem

open Codec
open Apdu (Bytes LogicalName)

/-! ### Actions -/

inductive ScriptServiceId where
  | dummy
  | writeAttribute
  | executeMethod
  deriving DecidableEq, Repr

def ScriptServiceId.code : ScriptServiceId → UInt8
  | dummy => 0
  | writeAttribute => 1
  | executeMethod => 2

def ScriptServiceId.ofCode (code : UInt8) : Option ScriptServiceId :=
  match code.toNat with
  | 0 => some dummy
  | 1 => some writeAttribute
  | 2 => some executeMethod
  | _ => none

/-- What a script does to one object. -/
structure ActionSpecification where
  serviceId : ScriptServiceId
  classId : UInt16
  logicalName : LogicalName
  index : Int8
  parameter : Bytes
  deriving DecidableEq

def zeroLogicalName : LogicalName := ⟨0, 0, 0, 0, 0, 0⟩

def ActionSpecification.isValid (entry : ActionSpecification) : Bool :=
  match entry.serviceId with
  | .dummy =>
      entry.classId == 0 && entry.logicalName == zeroLogicalName && entry.index == 0 &&
        entry.parameter.isEmpty
  | .writeAttribute | .executeMethod => entry.index ≥ 1

/-! ### Scripts -/

/-- A script: its identifier and its actions. -/
structure ScriptEntry where
  identifier : UInt16
  actions : List ActionSpecification
  valid : actions.all ActionSpecification.isValid = true
  deriving DecidableEq

namespace ScriptEntry

theorem all_isValid_nil : ([] : List ActionSpecification).all ActionSpecification.isValid = true :=
  rfl

/-- The constructor drops the actions if one of them is not valid. -/
def create (identifier : UInt16) (actions : List ActionSpecification) : ScriptEntry :=
  if h : actions.all ActionSpecification.isValid = true then ⟨identifier, actions, h⟩
  else ⟨identifier, [], all_isValid_nil⟩

def isValid (entry : ScriptEntry) : Bool := entry.actions.all ActionSpecification.isValid

end ScriptEntry

/-- The loop of the source makes the two checks together. -/
def isValidScripts (scripts : List ScriptEntry) : Bool :=
  scripts.all ScriptEntry.isValid && distinct ScriptEntry.identifier scripts

/-! ### Codec -/

/-- What a row takes up in its vector. -/
def actionSpecificationSize : Nat := 40

def scriptEntrySize : Nat := 32

def appendParameter (parameter : Bytes) : Bytes :=
  if parameter.isEmpty then [nullDataTag] else parameter

def appendActionSpecification (action : ActionSpecification) : Bytes :=
  appendStructureHeader 5 ++ (appendEnum action.serviceId.code ++
    (appendLongUnsigned action.classId ++ (appendLogicalName action.logicalName ++
      (appendInteger action.index.toUInt8 ++ appendParameter action.parameter))))

/-- Null data is no parameter. -/
def readParameter : DataReader Bytes := do
  let item ← skippedData
  pure (if item.head? = some nullDataTag then [] else item)

def decodeActionSpecification : DataReader ActionSpecification := do
  readStructureHeader 5
  let serviceIdRaw ← readEnumValue
  match ScriptServiceId.ofCode serviceIdRaw with
  | none => refuse
  | some serviceId => do
      let classId ← readLongUnsignedValue
      let logicalName ← readLogicalNameValue
      let indexRaw ← readIntegerValue
      let parameter ← readParameter
      let decoded : ActionSpecification :=
        { serviceId, classId, logicalName, index := indexRaw.toInt8, parameter }
      if decoded.isValid then pure decoded else refuse

def appendScript (entry : ScriptEntry) : Bytes :=
  appendStructureHeader 2 ++ (appendLongUnsigned entry.identifier ++
    appendArray appendActionSpecification entry.actions)

def decodeScript : DataReader ScriptEntry := do
  readStructureHeader 2
  let identifier ← readLongUnsignedValue
  let actions ← readArray actionSpecificationSize decodeActionSpecification
  let entry := ScriptEntry.create identifier actions
  -- The constructor has dropped the actions if their number is another.
  if entry.actions.length ≠ actions.length then refuse else pure entry

def appendScripts (scripts : List ScriptEntry) : Bytes := appendArray appendScript scripts

def decodeScripts (input : Bytes) : Except WriteFailure (List ScriptEntry) :=
  match decodePayload (readArray scriptEntrySize decodeScript) input with
  | .error failure => .error failure
  | .ok decoded =>
      if distinct ScriptEntry.identifier decoded then .ok decoded
      else .error (.status .invalidArgument)

/-! ### The object -/

structure CosemScriptTableObject where
  descriptor : CosemObjectKey
  scripts : List ScriptEntry
  rights : CosemAccessRights

inductive ScriptTableCall where
  | writeAttribute (attributeId : UInt8) (input : Bytes)
  | invokeMethod (methodId : UInt8) (input : Bytes)
  | setScripts (scripts : List ScriptEntry)

/-- The rights of an object with one attribute besides its name. -/
def valueAccessRights (access : AttributeAccessMode) : CosemAccessRights where
  attributeAccess := fun attributeId =>
    match attributeId.toNat with
    | 1 => .readOnly
    | 2 => access
    | _ => .noAccess
  methodAccess := fun _ => .noAccess

namespace CosemScriptTableObject

def scriptTableClassId : UInt16 := 9

def maxSupportedVersion : UInt8 := 0

/-- The constructor holds no scripts if they are not valid. -/
def create (logicalName : LogicalName) (scripts : List ScriptEntry)
    (scriptsAccess : AttributeAccessMode) (version : UInt8) : CosemScriptTableObject where
  descriptor :=
    { classId := scriptTableClassId
      version := normalizeVersion version maxSupportedVersion
      logicalName := logicalName }
  scripts := if isValidScripts scripts then scripts else []
  rights := valueAccessRights scriptsAccess

def readAttribute (attributeId : UInt8) (object : CosemScriptTableObject) :
    Except CosemStatus Bytes :=
  match attributeId.toNat with
  | 1 => .ok (encodeLogicalName object.descriptor.logicalName)
  | 2 => .ok (appendScripts object.scripts)
  | _ => .error .attributeNotFound

def writeAttribute (attributeId : UInt8) (input : Bytes) (object : CosemScriptTableObject) :
    Except WriteFailure Unit × CosemScriptTableObject :=
  match attributeId.toNat with
  | 2 =>
      if isAccessWritable (object.rights.attributeAccess 2) then
        match decodeScripts input with
        | .error failure => (.error failure, object)
        | .ok decoded =>
            if !isValidScripts decoded then (.error (.status .invalidArgument), object)
            else (.ok (), { object with scripts := decoded })
      else (.error (.status .accessDenied), object)
  | 1 => (.error (.status .accessDenied), object)
  | _ => (.error (.status .attributeNotFound), object)

/-- Executing a script is left to the application. -/
def invokeMethod (methodId : UInt8) : Except CosemStatus Bytes :=
  if methodId = 1 then .error .unsupportedFeature else .error .methodNotFound

def setScripts (scripts : List ScriptEntry) (object : CosemScriptTableObject) :
    Bool × CosemScriptTableObject :=
  if !isValidScripts scripts then (false, object)
  else (true, { object with scripts := scripts })

/-- Any call, with whether it went through. -/
def call (made : ScriptTableCall) (object : CosemScriptTableObject) :
    Bool × CosemScriptTableObject :=
  match made with
  | .writeAttribute attributeId input =>
      let (result, object) := object.writeAttribute attributeId input
      (result.isOk, object)
  | .invokeMethod methodId _ => ((invokeMethod methodId).isOk, object)
  | .setScripts scripts => object.setScripts scripts

end CosemScriptTableObject

end Cosem

end Dlms
