import Mathlib.Data.List.Nodup
import Dlms.Cosem.Types

/-!
# The object registry and the logical device

A registry maps keys to objects. The source keeps a sorted map; the order of
its entries matters to no service, so the registry is the list of its objects
here, newest first, and carries the proofs that every key is valid and that no
two objects share one.

The objects of a device may share state, such as a clock, so what they do is
given over one state `ω` of all of them. A read is a constant member function of
the source, which keeps an object from changing itself but not what it points
to, so a read has a state after it like the other two.

## Main definitions

* `CosemObject`: What a registry asks of an object.
* `ObjectRegistry`: Objects by key, with `register` and `find`.
* `registerAll`: The registry after any sequence of registrations.
* `ILogicalDevice`: The interface of a device, over a state of its own.
* `logicalDevice`: The device of a registry.
* `served`: What the three services of a registry have in common.

## Theorems

* `find_eq_some_iff`: A lookup finds the object with that key, and no other.
* `served_cases`: A service stops in front of the objects, or its object allows
  it.
-/

namespace Dlms

namespace Cosem

open Apdu (Bytes)

/-- An object, over the state of its device. -/
structure CosemObject (ω : Type) where
  key : CosemObjectKey
  accessRights : ω → CosemAccessRights
  readAttribute : UInt8 → ω → Except CosemStatus Bytes × ω
  writeAttribute : UInt8 → Bytes → ω → Except CosemStatus Unit × ω
  invokeMethod : UInt8 → Bytes → ω → Except CosemStatus Bytes × ω

/-- Valid objects, each under a key of its own. -/
structure ObjectRegistry (ω : Type) where
  objects : List (CosemObject ω)
  valid : ∀ object ∈ objects, validateObjectKey object.key = .ok ()
  nodup : (objects.map CosemObject.key).Nodup

namespace ObjectRegistry

variable {ω : Type}

def empty : ObjectRegistry ω where
  objects := []
  valid := fun _ h => absurd h List.not_mem_nil
  nodup := List.nodup_nil

def register (registry : ObjectRegistry ω) (object : Option (CosemObject ω)) :
    Except CosemStatus (ObjectRegistry ω) :=
  match object with
  | none => .error .invalidArgument
  | some object =>
      if hvalid : validateObjectKey object.key = .ok () then
        if hnew : object.key ∈ registry.objects.map CosemObject.key then
          .error .duplicateObject
        else
          .ok
            { objects := object :: registry.objects
              valid := by
                intro o ho
                rcases List.mem_cons.mp ho with rfl | ho
                · exact hvalid
                · exact registry.valid o ho
              nodup := List.nodup_cons.mpr ⟨hnew, registry.nodup⟩ }
      else
        .error .invalidArgument

/-- A failed registration leaves the registry as it was. -/
def registerAll (objects : List (Option (CosemObject ω))) : ObjectRegistry ω :=
  objects.foldl
    (fun registry object =>
      match registry.register object with
      | .ok registry => registry
      | .error _ => registry)
    empty

/-- The entry of a key in the source's map. -/
def lookup (registry : ObjectRegistry ω) (key : CosemObjectKey) : Option (CosemObject ω) :=
  registry.objects.find? (·.key = key)

def find (registry : ObjectRegistry ω) (key : CosemObjectKey) : Option (CosemObject ω) :=
  match validateObjectKey key with
  | .error _ => none
  | .ok () => registry.lookup key

def readAttribute (registry : ObjectRegistry ω) (descriptor : CosemAttributeDescriptor)
    (context : CosemAccessContext) (state : ω) : Except CosemStatus Bytes × ω :=
  match validateAttributeDescriptor descriptor with
  | .error status => (.error status, state)
  | .ok () =>
      match registry.find descriptor.object with
      | none => (.error .objectNotFound, state)
      | some object =>
          if !(object.accessRights state).canReadAttribute descriptor.attributeId context then
            (.error .accessDenied, state)
          else
            object.readAttribute descriptor.attributeId state

def writeAttribute (registry : ObjectRegistry ω) (descriptor : CosemAttributeDescriptor)
    (context : CosemAccessContext) (input : Bytes) (state : ω) : Except CosemStatus Unit × ω :=
  match validateAttributeDescriptor descriptor with
  | .error status => (.error status, state)
  | .ok () =>
      match registry.lookup descriptor.object with
      | none => (.error .objectNotFound, state)
      | some object =>
          if !(object.accessRights state).canWriteAttribute descriptor.attributeId context then
            (.error .accessDenied, state)
          else
            object.writeAttribute descriptor.attributeId input state

def invokeMethod (registry : ObjectRegistry ω) (descriptor : CosemMethodDescriptor)
    (context : CosemAccessContext) (input : Bytes) (state : ω) : Except CosemStatus Bytes × ω :=
  match validateMethodDescriptor descriptor with
  | .error status => (.error status, state)
  | .ok () =>
      match registry.lookup descriptor.object with
      | none => (.error .objectNotFound, state)
      | some object =>
          if !(object.accessRights state).canInvokeMethod descriptor.methodId context then
            (.error .accessDenied, state)
          else
            object.invokeMethod descriptor.methodId input state

/-! ### Lookup -/

variable (registry : ObjectRegistry ω)

/-- Two registered objects with one key are one object. -/
theorem eq_of_key_eq (first second : CosemObject ω) (hfirst : first ∈ registry.objects)
    (hsecond : second ∈ registry.objects) (h : first.key = second.key) : first = second :=
  List.inj_on_of_nodup_map registry.nodup hfirst hsecond h

theorem lookup_eq_some_iff (key : CosemObjectKey) (object : CosemObject ω) :
    registry.lookup key = some object ↔ object ∈ registry.objects ∧ object.key = key := by
  constructor
  · intro h
    have hkey := List.find?_some h
    exact ⟨List.mem_of_find?_eq_some h, of_decide_eq_true hkey⟩
  · rintro ⟨hmem, rfl⟩
    cases hfound : registry.lookup object.key with
    | none =>
        have hall := List.find?_eq_none.mp hfound object hmem
        exact absurd (decide_eq_true rfl) hall
    | some found =>
        have hkey := List.find?_some hfound
        have heq := registry.eq_of_key_eq found object (List.mem_of_find?_eq_some hfound) hmem
          (of_decide_eq_true hkey)
        rw [heq]

/-- The check in front of a lookup turns away no key that is there. -/
theorem find_eq_lookup (key : CosemObjectKey) : registry.find key = registry.lookup key := by
  rw [find]
  cases hkey : validateObjectKey key with
  | ok valid => rfl
  | error status =>
      cases hfound : registry.lookup key with
      | none => rfl
      | some object =>
          rcases (registry.lookup_eq_some_iff key object).mp hfound with ⟨hmem, hobject⟩
          have hvalid := registry.valid object hmem
          rw [hobject, hkey] at hvalid
          cases hvalid

/-- A lookup finds the object with that key, and no other. -/
theorem find_eq_some_iff (key : CosemObjectKey) (object : CosemObject ω) :
    registry.find key = some object ↔ object ∈ registry.objects ∧ object.key = key := by
  rw [find_eq_lookup, lookup_eq_some_iff]

/-! ### The services as one -/

/-- A service of a registry: the object with the key serves it, if the
    descriptor is valid and the object's rights allow it. -/
def served {β : Type} (valid : Except CosemStatus Unit) (key : CosemObjectKey)
    (allowed : CosemAccessRights → Bool)
    (service : CosemObject ω → ω → Except CosemStatus β × ω) (state : ω) :
    Except CosemStatus β × ω :=
  match valid with
  | .error status => (.error status, state)
  | .ok () =>
      match registry.lookup key with
      | none => (.error .objectNotFound, state)
      | some object =>
          if !allowed (object.accessRights state) then
            (.error .accessDenied, state)
          else
            service object state

theorem readAttribute_eq_served (descriptor : CosemAttributeDescriptor)
    (context : CosemAccessContext) (state : ω) :
    registry.readAttribute descriptor context state =
      registry.served (validateAttributeDescriptor descriptor) descriptor.object
        (·.canReadAttribute descriptor.attributeId context)
        (·.readAttribute descriptor.attributeId) state := by
  rw [readAttribute, find_eq_lookup]
  rfl

theorem writeAttribute_eq_served (descriptor : CosemAttributeDescriptor)
    (context : CosemAccessContext) (input : Bytes) (state : ω) :
    registry.writeAttribute descriptor context input state =
      registry.served (validateAttributeDescriptor descriptor) descriptor.object
        (·.canWriteAttribute descriptor.attributeId context)
        (·.writeAttribute descriptor.attributeId input) state :=
  rfl

theorem invokeMethod_eq_served (descriptor : CosemMethodDescriptor)
    (context : CosemAccessContext) (input : Bytes) (state : ω) :
    registry.invokeMethod descriptor context input state =
      registry.served (validateMethodDescriptor descriptor) descriptor.object
        (·.canInvokeMethod descriptor.methodId context)
        (·.invokeMethod descriptor.methodId input) state :=
  rfl

/-- A service stops in front of the objects, or is that of the object with the
    key, which allows it. -/
theorem served_cases {β : Type} (valid : Except CosemStatus Unit) (key : CosemObjectKey)
    (allowed : CosemAccessRights → Bool)
    (service : CosemObject ω → ω → Except CosemStatus β × ω) (state : ω) :
    (∃ status, registry.served valid key allowed service state = (.error status, state)) ∨
      ∃ object ∈ registry.objects, object.key = key ∧
        allowed (object.accessRights state) = true ∧
        registry.served valid key allowed service state = service object state := by
  unfold served
  cases valid with
  | error status => exact .inl ⟨status, rfl⟩
  | ok valid =>
      cases hfound : registry.lookup key with
      | none => exact .inl ⟨_, rfl⟩
      | some object =>
          have hobject := (registry.lookup_eq_some_iff _ object).mp hfound
          cases hallowed : allowed (object.accessRights state) with
          | false => exact .inl ⟨.accessDenied, by simp [hallowed]⟩
          | true =>
              refine .inr ⟨object, hobject.1, hobject.2, hallowed, ?_⟩
              simp [hallowed]

end ObjectRegistry

/-! ### Devices -/

/-- A device by its three services. -/
structure ILogicalDevice (δ : Type) where
  readAttribute : CosemAttributeDescriptor → CosemAccessContext → δ → Except CosemStatus Bytes × δ
  writeAttribute : CosemAttributeDescriptor → CosemAccessContext → Bytes → δ →
    Except CosemStatus Unit × δ
  invokeMethod : CosemMethodDescriptor → CosemAccessContext → Bytes → δ →
    Except CosemStatus Bytes × δ

/-- A logical device serves what is in its registry. -/
def logicalDevice {ω : Type} (registry : ObjectRegistry ω) : ILogicalDevice ω where
  readAttribute := registry.readAttribute
  writeAttribute := registry.writeAttribute
  invokeMethod := registry.invokeMethod

end Cosem

end Dlms
