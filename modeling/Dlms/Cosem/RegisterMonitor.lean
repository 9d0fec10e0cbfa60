import Dlms.Cosem.ScriptTable

/-!
# The register monitor

A monitor compares the value of an attribute of another object with a list of
thresholds, and has a set of actions for each of them. A threshold has the type
of the value, so it is kept as the octets it came in.

There are as many sets of actions as thresholds. The setters check the one list
against the other, and only the thresholds can be written.

## Main definitions

* `Script`, `ActionSet`, `MonitoredValue`: What the attributes hold.
* `appendThresholds`, `decodeThresholds`: The codec of the thresholds.
* `CosemRegisterMonitorObject`: The object, with `create`, `readAttribute`,
  `writeAttribute` and the setters.
* `RegisterMonitorCall`, `CosemRegisterMonitorObject.call`: Any call.
-/

namespace Dlms

namespace Cosem

open Codec
open Apdu (Bytes LogicalName)

/-! ### What is monitored -/

structure Script where
  logicalName : LogicalName
  selector : UInt16
  deriving DecidableEq

/-- The scripts for crossing a threshold up and down. -/
structure ActionSet where
  actionUp : Script
  actionDown : Script
  deriving DecidableEq

/-- Attributes are counted from one. -/
structure MonitoredValue where
  classId : UInt16
  logicalName : LogicalName
  attributeIndex : Int8
  valid : 1 ≤ attributeIndex
  deriving DecidableEq

/-! ### Codec -/

def appendActionItem (item : Script) : Bytes :=
  appendStructureHeader 2 ++
    (appendLogicalName item.logicalName ++ appendLongUnsigned item.selector)

def appendActionSet (set : ActionSet) : Bytes :=
  appendStructureHeader 2 ++ (appendActionItem set.actionUp ++ appendActionItem set.actionDown)

def appendActions (actions : List ActionSet) : Bytes := appendArray appendActionSet actions

def appendMonitoredValue (value : MonitoredValue) : Bytes :=
  appendStructureHeader 3 ++ (appendLongUnsigned value.classId ++
    (appendLogicalName value.logicalName ++ appendInteger value.attributeIndex.toUInt8))

def appendThresholds (thresholds : List Bytes) : Bytes := appendArray id thresholds

/-- An item that takes nothing is refused. -/
def readThreshold : DataReader Bytes := do
  let item ← skippedData
  if item.isEmpty then refuse else pure item

def decodeThresholds : DataReader (List Bytes) := readArray byteBufferSize readThreshold

/-! ### The object -/

def isValidThresholds (thresholds : List Bytes) : Bool := thresholds.all fun t => !t.isEmpty

def thresholdsMatchActions (thresholds : List Bytes) (actions : List ActionSet) : Bool :=
  thresholds.length == actions.length

structure CosemRegisterMonitorObject where
  descriptor : CosemObjectKey
  thresholds : List Bytes
  monitoredValue : MonitoredValue
  actions : List ActionSet
  rights : CosemAccessRights

inductive RegisterMonitorCall where
  | writeAttribute (attributeId : UInt8) (input : Bytes)
  | invokeMethod (methodId : UInt8) (input : Bytes)
  | setThresholds (thresholds : List Bytes)
  | setMonitoredValue (monitoredValue : MonitoredValue)
  | setActions (actions : List ActionSet)

namespace CosemRegisterMonitorObject

def registerMonitorClassId : UInt16 := 21

def maxSupportedVersion : UInt8 := 0

/-- Only the thresholds have the access that is given. -/
def accessRights (thresholdsAccess : AttributeAccessMode) : CosemAccessRights where
  attributeAccess := fun attributeId =>
    match attributeId.toNat with
    | 1 | 3 | 4 => .readOnly
    | 2 => thresholdsAccess
    | _ => .noAccess
  methodAccess := fun _ => .noAccess

/-- The constructor keeps the thresholds and the actions together or drops both.
    No monitored value that can be made is dropped. -/
def create (logicalName : LogicalName) (thresholds : List Bytes) (monitoredValue : MonitoredValue)
    (actions : List ActionSet) (thresholdsAccess : AttributeAccessMode) (version : UInt8) :
    CosemRegisterMonitorObject :=
  let kept := isValidThresholds thresholds && thresholdsMatchActions thresholds actions
  { descriptor :=
      { classId := registerMonitorClassId
        version := normalizeVersion version maxSupportedVersion
        logicalName := logicalName }
    thresholds := if kept then thresholds else []
    monitoredValue := monitoredValue
    actions := if kept then actions else []
    rights := accessRights thresholdsAccess }

def readAttribute (attributeId : UInt8) (object : CosemRegisterMonitorObject) :
    Except CosemStatus Bytes :=
  match attributeId.toNat with
  | 1 => .ok (encodeLogicalName object.descriptor.logicalName)
  | 2 => .ok (appendThresholds object.thresholds)
  | 3 => .ok (appendMonitoredValue object.monitoredValue)
  | 4 => .ok (appendActions object.actions)
  | _ => .error .attributeNotFound

def writeAttribute (attributeId : UInt8) (input : Bytes) (object : CosemRegisterMonitorObject) :
    Except WriteFailure Unit × CosemRegisterMonitorObject :=
  match attributeId.toNat with
  | 2 =>
      if !isAccessWritable (object.rights.attributeAccess 2) then
        (.error (.status .accessDenied), object)
      else
        match decodePayload decodeThresholds input with
        | .error failure => (.error failure, object)
        | .ok decoded =>
            if !isValidThresholds decoded || !thresholdsMatchActions decoded object.actions then
              (.error (.status .invalidArgument), object)
            else (.ok (), { object with thresholds := decoded })
  | 1 | 3 | 4 => (.error (.status .accessDenied), object)
  | _ => (.error (.status .attributeNotFound), object)

/-- A monitor has no methods. -/
def invokeMethod (_methodId : UInt8) : Except CosemStatus Bytes := .error .methodNotFound

def setThresholds (thresholds : List Bytes) (object : CosemRegisterMonitorObject) :
    Bool × CosemRegisterMonitorObject :=
  if !isValidThresholds thresholds || !thresholdsMatchActions thresholds object.actions then
    (false, object)
  else (true, { object with thresholds := thresholds })

/-- Its check refuses no value that can be made. -/
def setMonitoredValue (monitoredValue : MonitoredValue) (object : CosemRegisterMonitorObject) :
    Bool × CosemRegisterMonitorObject :=
  (true, { object with monitoredValue := monitoredValue })

def setActions (actions : List ActionSet) (object : CosemRegisterMonitorObject) :
    Bool × CosemRegisterMonitorObject :=
  if !thresholdsMatchActions object.thresholds actions then (false, object)
  else (true, { object with actions := actions })

/-- Any call, with whether it went through. -/
def call (made : RegisterMonitorCall) (object : CosemRegisterMonitorObject) :
    Bool × CosemRegisterMonitorObject :=
  match made with
  | .writeAttribute attributeId input =>
      let (result, object) := object.writeAttribute attributeId input
      (result.isOk, object)
  | .invokeMethod methodId _ => ((invokeMethod methodId).isOk, object)
  | .setThresholds thresholds => object.setThresholds thresholds
  | .setMonitoredValue monitoredValue => object.setMonitoredValue monitoredValue
  | .setActions actions => object.setActions actions

end CosemRegisterMonitorObject

end Cosem

end Dlms
