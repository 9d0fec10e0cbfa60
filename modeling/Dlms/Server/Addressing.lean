import Dlms.Server.Adapter

/-!
# Which object a service reaches

A service reaches the object the registry has under the key the adapter makes,
and the rest of the registry plays no part in it. The adapter's keys all have
version zero, so the objects of a registry are reached by their class and
logical name exactly when all of them have version zero.

## Main definitions

* `dispatchTarget`: The object the registry holds for an indication.
* `targetDevice`: A device with that object and nothing else.
* `gated`: What the three services have in common in front of a device.
* `Addressable`: Every object is reached by its class and logical name, and is
  the only one with them.

## Theorems

* `handleGet_eq_targetDevice` and the same for the others: A service does what
  it does on the target's own device.
* `dispatchTarget_eq_some_iff`: The target has the class, the logical name and
  version zero.
* `addressable_iff_version_zero`: When every object can be addressed.
-/

namespace Dlms

namespace Server

open Apdu (Bytes)
open Cosem (CosemStatus CosemObject CosemObjectKey CosemAccessContext ILogicalDevice
  ObjectRegistry logicalDevice)
open Xdlms (GetIndication SetIndication ActionIndication ServiceIndication XdlmsStatus GetResult
  SetResult ActionResult)

section Target

variable {ω : Type} (registry : ObjectRegistry ω)

/-- What the registry finds for an indication: reads look behind a check of
    the key, writes and methods in the map itself. -/
def dispatchTarget (indication : ServiceIndication) : Option (CosemObject ω) :=
  match indication with
  | .get indication => registry.find (toServerDescriptor indication.descriptor).object
  | .set indication => registry.lookup (toServerDescriptor indication.descriptor).object
  | .action indication => registry.lookup (toServerMethodDescriptor indication.descriptor).object

/-- The target has the class and the logical name, and version zero. -/
theorem dispatchTarget_eq_some_iff (indication : ServiceIndication) (object : CosemObject ω) :
    dispatchTarget registry indication = some object ↔
      object ∈ registry.objects ∧
        object.key = ⟨indication.classId, 0, indication.instanceId⟩ := by
  cases indication with
  | get indication => exact registry.find_eq_some_iff _ object
  | set indication => exact registry.lookup_eq_some_iff _ object
  | action indication => exact registry.lookup_eq_some_iff _ object

/-- A device that answers for one object, whatever the key. -/
def targetDevice (target : Option (CosemObject ω)) : ILogicalDevice ω where
  readAttribute := fun descriptor context state =>
    match target with
    | none => (.error .objectNotFound, state)
    | some object =>
        if !(object.accessRights state).canReadAttribute descriptor.attributeId context then
          (.error .accessDenied, state)
        else
          object.readAttribute descriptor.attributeId state
  writeAttribute := fun descriptor context input state =>
    match target with
    | none => (.error .objectNotFound, state)
    | some object =>
        if !(object.accessRights state).canWriteAttribute descriptor.attributeId context then
          (.error .accessDenied, state)
        else
          object.writeAttribute descriptor.attributeId input state
  invokeMethod := fun descriptor context input state =>
    match target with
    | none => (.error .objectNotFound, state)
    | some object =>
        if !(object.accessRights state).canInvokeMethod descriptor.methodId context then
          (.error .accessDenied, state)
        else
          object.invokeMethod descriptor.methodId input state

/-- The handler of a server with this device. -/
def serverHandler (device : ILogicalDevice ω) (context : ServerContext) :
    Xdlms.XdlmsServerHandler ω :=
  xdlmsServerAdapter (cosemServiceDispatcher (some device) context)

/-! ### The gate in front of a device -/

/-- A service in front of a device: with a valid descriptor and an association
    it is the call of the device, and its answer follows from the outcome. -/
def gated {ρ β : Type} (valid : Except CosemStatus Unit) (associated : Bool)
    (answer : Except ServerStatus β → ρ) (call : Except CosemStatus β × ω) (state : ω) : ρ × ω :=
  match valid with
  | .error status => (answer (.error (mapCosemStatus status)), state)
  | .ok () =>
      if !associated then
        (answer (.error .notAssociated), state)
      else
        (answer (call.1.mapError mapCosemStatus), call.2)

section Answers

variable (invokeId : UInt8)

def getAnswer (outcome : Except ServerStatus Bytes) : Except XdlmsStatus GetResult :=
  match outcome with
  | .error status => XdlmsServerAdapter.getResult (makeServerGetResponse invokeId status)
  | .ok data => XdlmsServerAdapter.getResult (makeServerGetDataResponse invokeId data)

def setAnswer (outcome : Except ServerStatus Unit) : Except XdlmsStatus SetResult :=
  match outcome with
  | .error status => XdlmsServerAdapter.setResult (makeServerSetResponse invokeId status)
  | .ok () => XdlmsServerAdapter.setResult (makeServerSetResponse invokeId .ok)

def actionAnswer (outcome : Except ServerStatus Bytes) : Except XdlmsStatus ActionResult :=
  match outcome with
  | .error status => XdlmsServerAdapter.actionResult (makeServerActionResponse invokeId status)
  | .ok data => XdlmsServerAdapter.actionResult (makeServerActionDataResponse invokeId data)

end Answers

section Gate

variable (device : ILogicalDevice ω) (context : ServerContext) (state : ω)

theorem handleGet_eq_gated (indication : GetIndication) :
    (serverHandler device context).handleGet indication state =
      gated (Cosem.validateAttributeDescriptor (toServerDescriptor indication.descriptor))
        context.isAssociated (getAnswer indication.invokeId)
        (device.readAttribute (toServerDescriptor indication.descriptor) context.accessContext
          state) state := by
  simp only [serverHandler, xdlmsServerAdapter, XdlmsServerAdapter.handleGet,
    cosemServiceDispatcher, CosemServiceDispatcher.handleGet, gated]
  cases Cosem.validateAttributeDescriptor (toServerDescriptor indication.descriptor) with
  | error status => rfl
  | ok valid =>
      cases context.isAssociated with
      | false => rfl
      | true =>
          rcases device.readAttribute (toServerDescriptor indication.descriptor)
            context.accessContext state with ⟨status | data, after⟩
          · rfl
          · rfl

theorem handleSet_eq_gated (indication : SetIndication) :
    (serverHandler device context).handleSet indication state =
      gated (Cosem.validateAttributeDescriptor (toServerDescriptor indication.descriptor))
        context.isAssociated (setAnswer indication.invokeId)
        (device.writeAttribute (toServerDescriptor indication.descriptor) context.accessContext
          indication.data state) state := by
  simp only [serverHandler, xdlmsServerAdapter, XdlmsServerAdapter.handleSet,
    cosemServiceDispatcher, CosemServiceDispatcher.handleSet, gated]
  cases Cosem.validateAttributeDescriptor (toServerDescriptor indication.descriptor) with
  | error status => rfl
  | ok valid =>
      cases context.isAssociated with
      | false => rfl
      | true =>
          rcases device.writeAttribute (toServerDescriptor indication.descriptor)
            context.accessContext indication.data state with ⟨status | written, after⟩
          · rfl
          · rfl

theorem handleAction_eq_gated (indication : ActionIndication) :
    (serverHandler device context).handleAction indication state =
      gated (Cosem.validateMethodDescriptor (toServerMethodDescriptor indication.descriptor))
        context.isAssociated (actionAnswer indication.invokeId)
        (device.invokeMethod (toServerMethodDescriptor indication.descriptor)
          context.accessContext (indication.parameter.getD []) state) state := by
  simp only [serverHandler, xdlmsServerAdapter, XdlmsServerAdapter.handleAction,
    cosemServiceDispatcher, CosemServiceDispatcher.handleAction, gated]
  cases Cosem.validateMethodDescriptor (toServerMethodDescriptor indication.descriptor) with
  | error status => rfl
  | ok valid =>
      cases context.isAssociated with
      | false => rfl
      | true =>
          rcases device.invokeMethod (toServerMethodDescriptor indication.descriptor)
            context.accessContext (indication.parameter.getD []) state with
            ⟨status | data, after⟩
          · rfl
          · rfl

end Gate

/-- A service is refused and leaves its device alone, or there is an
    association and it is the call of the device. -/
theorem gated_cases {ρ β : Type} (valid : Except CosemStatus Unit) (associated : Bool)
    (answer : Except ServerStatus β → ρ) (call : Except CosemStatus β × ω) (state : ω) :
    (∃ status, gated valid associated answer call state = (answer (.error status), state)) ∨
      valid = .ok () ∧ associated = true ∧
        gated valid associated answer call state =
          (answer (call.1.mapError mapCosemStatus), call.2) := by
  cases valid with
  | error status => exact .inl ⟨_, rfl⟩
  | ok valid =>
      cases associated with
      | false => exact .inl ⟨_, rfl⟩
      | true => exact .inr ⟨rfl, rfl, rfl⟩

/-- Only a call behind the gate makes a difference. -/
theorem gated_congr {ρ β : Type} (valid : Except CosemStatus Unit) (associated : Bool)
    (answer : Except ServerStatus β → ρ) (call other : Except CosemStatus β × ω) (state : ω)
    (h : valid = .ok () → associated = true → call = other) :
    gated valid associated answer call state = gated valid associated answer other state := by
  cases valid with
  | error status => rfl
  | ok valid =>
      cases associated with
      | false => rfl
      | true => rw [h rfl rfl]

variable (context : ServerContext) (state : ω)

theorem handleGet_eq_targetDevice (indication : GetIndication) :
    (serverHandler (logicalDevice registry) context).handleGet indication state =
      (serverHandler (targetDevice (dispatchTarget registry (.get indication))) context).handleGet
        indication state := by
  rw [handleGet_eq_gated, handleGet_eq_gated]
  refine gated_congr _ _ _ _ _ _ fun hvalid _ => ?_
  have hserved := registry.readAttribute_eq_served (toServerDescriptor indication.descriptor)
    context.accessContext state
  rw [hvalid] at hserved
  rw [dispatchTarget, ObjectRegistry.find_eq_lookup]
  exact hserved

theorem handleSet_eq_targetDevice (indication : SetIndication) :
    (serverHandler (logicalDevice registry) context).handleSet indication state =
      (serverHandler (targetDevice (dispatchTarget registry (.set indication))) context).handleSet
        indication state := by
  rw [handleSet_eq_gated, handleSet_eq_gated]
  refine gated_congr _ _ _ _ _ _ fun hvalid _ => ?_
  have hserved := registry.writeAttribute_eq_served (toServerDescriptor indication.descriptor)
    context.accessContext indication.data state
  rw [hvalid] at hserved
  exact hserved

theorem handleAction_eq_targetDevice (indication : ActionIndication) :
    (serverHandler (logicalDevice registry) context).handleAction indication state =
      (serverHandler (targetDevice (dispatchTarget registry (.action indication)))
        context).handleAction indication state := by
  rw [handleAction_eq_gated, handleAction_eq_gated]
  refine gated_congr _ _ _ _ _ _ fun hvalid _ => ?_
  have hserved := registry.invokeMethod_eq_served (toServerMethodDescriptor indication.descriptor)
    context.accessContext (indication.parameter.getD []) state
  rw [hvalid] at hserved
  exact hserved

/-- Every object is reached by whatever carries its class and logical name,
    and no two share both. -/
def Addressable : Prop :=
  (∀ object ∈ registry.objects, ∀ indication : ServiceIndication,
    indication.classId = object.key.classId → indication.instanceId = object.key.logicalName →
      dispatchTarget registry indication = some object) ∧
  ∀ first ∈ registry.objects, ∀ second ∈ registry.objects,
    first.key.classId = second.key.classId → first.key.logicalName = second.key.logicalName →
      first = second

end Target

/-- An indication that carries the class and the logical name of a key. -/
def readOf (key : CosemObjectKey) : ServiceIndication :=
  .get
    { invokeId := 1
      options := Xdlms.defaultServiceOptions
      descriptor :=
        { classId := key.classId
          instanceId := key.logicalName
          attributeId := 1 } }

theorem addressable_of_version_zero {ω : Type} (registry : ObjectRegistry ω)
    (h : ∀ object ∈ registry.objects, object.key.version = 0) : Addressable registry := by
  refine ⟨?_, ?_⟩
  · intro object hobject indication hclass hname
    refine (dispatchTarget_eq_some_iff registry indication object).mpr ⟨hobject, ?_⟩
    rw [hclass, hname, ← h object hobject]
  · intro first hfirst second hsecond hclass hname
    refine registry.eq_of_key_eq first second hfirst hsecond ?_
    have hversion := (h first hfirst).trans (h second hsecond).symm
    rcases hf : first.key with ⟨firstClass, firstVersion, firstName⟩
    rcases hs : second.key with ⟨secondClass, secondVersion, secondName⟩
    rw [hf, hs] at hclass hname hversion
    rw [CosemObjectKey.mk.injEq]
    exact ⟨hclass, hversion, hname⟩

theorem version_zero_of_addressable {ω : Type} (registry : ObjectRegistry ω)
    (h : Addressable registry) : ∀ object ∈ registry.objects, object.key.version = 0 := by
  intro object hobject
  have htarget := h.1 object hobject (readOf object.key) rfl rfl
  rcases (dispatchTarget_eq_some_iff registry _ object).mp htarget with ⟨-, hkey⟩
  rw [hkey]

/-- A service acts on its target alone, and the targets cover the registry
    exactly when every object has version zero. -/
theorem addressable_iff_version_zero {ω : Type} (calls : List (Option (CosemObject ω))) :
    (∀ (context : ServerContext) (state : ω) (indication : ServiceIndication),
      let registered := serverHandler (logicalDevice (ObjectRegistry.registerAll calls)) context
      let targeted := serverHandler
        (targetDevice (dispatchTarget (ObjectRegistry.registerAll calls) indication)) context
      match indication with
      | .get indication => registered.handleGet indication state =
          targeted.handleGet indication state
      | .set indication => registered.handleSet indication state =
          targeted.handleSet indication state
      | .action indication => registered.handleAction indication state =
          targeted.handleAction indication state) ∧
    (Addressable (ObjectRegistry.registerAll calls) ↔
      ∀ object ∈ (ObjectRegistry.registerAll calls).objects, object.key.version = 0) := by
  refine ⟨?_, ?_⟩
  · intro context state indication
    cases indication with
    | get indication => exact handleGet_eq_targetDevice _ context state indication
    | set indication => exact handleSet_eq_targetDevice _ context state indication
    | action indication => exact handleAction_eq_targetDevice _ context state indication
  · exact ⟨version_zero_of_addressable _, addressable_of_version_zero _⟩

/-- A parameter monitor of version 1, which the object library offers with
    four attributes more than version 0, as far as a registry sees it. -/
def parameterMonitor : CosemObject Unit where
  key :=
    { classId := 65
      version := 1
      logicalName := ⟨0, 0, 16, 2, 0, 255⟩ }
  accessRights := fun _ => ⟨fun _ => .readOnly, fun _ => .noAccess⟩
  readAttribute := fun _ state => (.ok [0x00], state)
  writeAttribute := fun _ _ state => (.error .attributeNotFound, state)
  invokeMethod := fun _ _ state => (.error .methodNotFound, state)

/-- It is registered, and a GET with its class and its logical name is told
    that there is no such object. -/
theorem not_addressable_parameterMonitor :
    parameterMonitor ∈ (ObjectRegistry.registerAll [some parameterMonitor]).objects ∧
      dispatchTarget (ObjectRegistry.registerAll [some parameterMonitor])
        (readOf parameterMonitor.key) = none ∧
      ¬ Addressable (ObjectRegistry.registerAll [some parameterMonitor]) := by
  have hmem : parameterMonitor ∈
      (ObjectRegistry.registerAll [some parameterMonitor]).objects := List.mem_cons_self
  refine ⟨hmem, rfl, ?_⟩
  intro h
  exact absurd (version_zero_of_addressable _ h parameterMonitor hmem) (by decide)

end Server

end Dlms
