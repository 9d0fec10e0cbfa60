import Dlms.Server.Addressing
import Dlms.Xdlms.Projection

/-!
# Access rights over whole runs

Between a request APDU and an object stand the block states of the processor,
the adapter, the association gate of the dispatcher, the lookup of the registry
and the access mode of the attribute or the method. Whatever way a request
takes through them, its call of an object comes last, and it is permitted:
there is an association, and the access rights of the object allow the call for
the association's authentication flag, in the state the objects are in.

Calls are seen twice over here. A registry whose objects keep a record of their
calls says which calls a run makes. And two registries whose objects agree on
permitted calls, and on nothing else, cannot be told apart by any run, so that
no response and no state holds anything of a call that is not permitted.

## Main definitions

* `ObjectCall`, `Permitted`: A call, and when an association permits it.
* `recordedRegistry`: The registry with a record of its calls.
* `Accounted`: What one request does to the objects, call by call.
* `AgreeWhenPermitted`: Two registries that agree on permitted calls.

## Theorems

* `accounted_processRequest`: One request makes permitted calls only.
* `serverHandler_congr`: What is not permitted makes no difference.
* `access_rights_enforced`: Both, for every run.
-/

namespace Dlms

namespace Server

open Apdu (Bytes)
open Cosem
open Machine (Transition run transition mem_run)
open Xdlms (GetIndication SetIndication ActionIndication XdlmsServerHandler XdlmsServerState
  XdlmsStatus ServiceOptions SecurityProcessor HandlerKeeps Projects processRequest)

/-! ### Calls -/

/-- A call of one of the three functions of an object. -/
inductive ObjectCall where
  | readAttribute (key : CosemObjectKey) (attributeId : UInt8)
  | writeAttribute (key : CosemObjectKey) (attributeId : UInt8) (input : Bytes)
  | invokeMethod (key : CosemObjectKey) (methodId : UInt8) (input : Bytes)
  deriving DecidableEq, Repr

namespace ObjectCall

def key : ObjectCall → CosemObjectKey
  | readAttribute key _ => key
  | writeAttribute key _ _ => key
  | invokeMethod key _ _ => key

/-- What access rights say about the call. -/
def allowedBy (rights : CosemAccessRights) (context : CosemAccessContext) : ObjectCall → Bool
  | readAttribute _ attributeId => rights.canReadAttribute attributeId context
  | writeAttribute _ attributeId _ => rights.canWriteAttribute attributeId context
  | invokeMethod _ methodId _ => rights.canInvokeMethod methodId context

end ObjectCall

variable {σ ω : Type}

/-- There is an association, and the object with the key of the call allows
    it for the association's authentication flag. -/
def Permitted (registry : ObjectRegistry ω) (association : ServerAssociationContext) (state : ω)
    (call : ObjectCall) : Prop :=
  association.associated = true ∧
    ∃ object ∈ registry.objects, object.key = call.key ∧
      call.allowedBy (object.accessRights state) ⟨association.authenticated⟩ = true

/-- An object that also writes down its calls, each with the state it found. -/
def recordedObject (object : CosemObject ω) : CosemObject (ω × List (ω × ObjectCall)) where
  key := object.key
  accessRights := fun state => object.accessRights state.1
  readAttribute := fun attributeId state =>
    let out := object.readAttribute attributeId state.1
    (out.1, out.2, state.2 ++ [(state.1, .readAttribute object.key attributeId)])
  writeAttribute := fun attributeId input state =>
    let out := object.writeAttribute attributeId input state.1
    (out.1, out.2, state.2 ++ [(state.1, .writeAttribute object.key attributeId input)])
  invokeMethod := fun methodId input state =>
    let out := object.invokeMethod methodId input state.1
    (out.1, out.2, state.2 ++ [(state.1, .invokeMethod object.key methodId input)])

def recordedRegistry (registry : ObjectRegistry ω) :
    ObjectRegistry (ω × List (ω × ObjectCall)) where
  objects := registry.objects.map recordedObject
  valid := by
    intro object hobject
    rcases List.mem_map.mp hobject with ⟨original, horiginal, rfl⟩
    exact registry.valid original horiginal
  nodup := by
    have hkeys : (registry.objects.map recordedObject).map CosemObject.key =
        registry.objects.map CosemObject.key := by
      rw [List.map_map]
      rfl
    rw [hkeys]
    exact registry.nodup

/-- The access context follows from the authentication flag. -/
theorem accessContext_setAssociationContext (association : ServerAssociationContext) :
    (ServerContext.setAssociationContext association).accessContext =
      ⟨association.authenticated⟩ := by
  cases hauthenticated : association.authenticated with
  | false => simp [ServerContext.setAssociationContext, hauthenticated, publicAccessContext]
  | true => simp [ServerContext.setAssociationContext, hauthenticated, authenticatedAccessContext]

/-! ### The calls of a run -/

/-- The handler of a server in an association. -/
def associatedHandler (registry : ObjectRegistry ω) (association : ServerAssociationContext) :
    XdlmsServerHandler ω :=
  serverHandler (logicalDevice registry) (ServerContext.setAssociationContext association)

/-- What one request has done to recorded objects: it made these calls, each
    permitted in the state it found the objects in, and without a call it has
    changed no object. -/
def Accounted (registry : ObjectRegistry ω) (association : ServerAssociationContext)
    (before after : ω × List (ω × ObjectCall)) : Prop :=
  ∃ calls, after.2 = before.2 ++ calls ∧
    (∀ call ∈ calls, call.1 = before.1 ∧ Permitted registry association call.1 call.2) ∧
    (calls = [] → after.1 = before.1)

section Calls

variable (registry : ObjectRegistry ω) (association : ServerAssociationContext)

theorem accounted_refl (state : ω × List (ω × ObjectCall)) :
    Accounted registry association state state := by
  refine ⟨[], (List.append_nil _).symm, ?_, fun _ => rfl⟩
  intro call hcall
  exact absurd hcall List.not_mem_nil

/-- One permitted call accounts for what it has done. -/
theorem accounted_call (before after : ω × List (ω × ObjectCall)) (call : ObjectCall)
    (hrecord : after.2 = before.2 ++ [(before.1, call)])
    (hpermitted : Permitted registry association before.1 call) :
    Accounted registry association before after := by
  refine ⟨[(before.1, call)], hrecord, ?_, ?_⟩
  · intro made hmade
    rw [List.mem_singleton.mp hmade]
    exact ⟨rfl, hpermitted⟩
  · intro hnone
    exact absurd hnone (List.cons_ne_nil _ _)

/-- A service of the recorded objects makes one call, if it makes any, and that
    one is permitted. -/
theorem accounted_served {β : Type} (valid : Except CosemStatus Unit) (key : CosemObjectKey)
    (service : CosemObject (ω × List (ω × ObjectCall)) → ω × List (ω × ObjectCall) →
      Except CosemStatus β × (ω × List (ω × ObjectCall)))
    (made : CosemObject ω → ObjectCall) (allowed : CosemAccessRights → Bool)
    (state : ω × List (ω × ObjectCall)) (hassociated : association.associated = true)
    (hrecord : ∀ original, (service (recordedObject original) state).2.2 =
      state.2 ++ [(state.1, made original)])
    (hkey : ∀ original, (made original).key = original.key)
    (hallowed : ∀ original rights,
      (made original).allowedBy rights ⟨association.authenticated⟩ = allowed rights) :
    Accounted registry association state
      ((recordedRegistry registry).served valid key allowed service state).2 := by
  rcases (recordedRegistry registry).served_cases valid key allowed service state with
    ⟨status, hfailed⟩ | ⟨object, hobject, -, hpermitted, hserved⟩
  · rw [hfailed]
    exact accounted_refl registry association state
  · -- The recorded object is the record of one of the registry.
    rcases List.mem_map.mp hobject with ⟨original, horiginal, rfl⟩
    rw [hserved]
    exact accounted_call registry association _ _ (made original) (hrecord original)
      ⟨hassociated, original, horiginal, (hkey original).symm,
        (hallowed original _).trans hpermitted⟩

/-- What is behind the gate has an association. -/
theorem accounted_gated {ρ β : Type} (valid : Except CosemStatus Unit)
    (answer : Except ServerStatus β → ρ) (state : ω × List (ω × ObjectCall))
    (call : Except CosemStatus β × (ω × List (ω × ObjectCall)))
    (h : association.associated = true → Accounted registry association state call.2) :
    Accounted registry association state
      (gated valid (ServerContext.setAssociationContext association).isAssociated answer call
        state).2 := by
  rcases gated_cases valid (ServerContext.setAssociationContext association).isAssociated answer
    call state with ⟨status, hrefused⟩ | ⟨-, hassociated, hcalled⟩
  · rw [hrefused]
    exact accounted_refl registry association state
  · rw [hcalled]
    exact h hassociated

/-- No service calls an object without permission. -/
theorem handlerKeeps_accounted :
    HandlerKeeps (associatedHandler (recordedRegistry registry) association)
      (Accounted registry association) where
  refl := accounted_refl registry association
  get := by
    intro indication state hvalid
    rw [associatedHandler, handleGet_eq_gated, accessContext_setAssociationContext]
    refine accounted_gated registry association _ _ state _ fun hassociated => ?_
    simp only [logicalDevice, ObjectRegistry.readAttribute_eq_served]
    exact accounted_served registry association _ _ _ (fun object => .readAttribute object.key _) _
      state hassociated (fun _ => rfl) (fun _ => rfl) fun _ _ => rfl
  set := by
    intro indication state hvalid
    rw [associatedHandler, handleSet_eq_gated, accessContext_setAssociationContext]
    refine accounted_gated registry association _ _ state _ fun hassociated => ?_
    simp only [logicalDevice, ObjectRegistry.writeAttribute_eq_served]
    exact accounted_served registry association _ _ _
      (fun object => .writeAttribute object.key _ _) _ state hassociated (fun _ => rfl)
      (fun _ => rfl) fun _ _ => rfl
  action := by
    intro indication state hvalid
    rw [associatedHandler, handleAction_eq_gated, accessContext_setAssociationContext]
    refine accounted_gated registry association _ _ state _ fun hassociated => ?_
    simp only [logicalDevice, ObjectRegistry.invokeMethod_eq_served]
    exact accounted_served registry association _ _ _
      (fun object => .invokeMethod object.key _ _) _ state hassociated (fun _ => rfl)
      (fun _ => rfl) fun _ _ => rfl

variable (options : ServiceOptions) (security : Option (SecurityProcessor σ))

/-- One request makes permitted calls only. -/
theorem accounted_processRequest (requestApdu : Bytes)
    (state : XdlmsServerState σ (ω × List (ω × ObjectCall))) :
    Accounted registry association state.device
      (processRequest (associatedHandler (recordedRegistry registry) association) options security
        requestApdu state).2.device :=
  Xdlms.device_processRequest _ options security _ (handlerKeeps_accounted registry association)
    requestApdu state

/-- The lookup of recorded objects is the lookup, with a record. -/
theorem lookup_recordedRegistry (key : CosemObjectKey) :
    (recordedRegistry registry).lookup key = (registry.lookup key).map recordedObject := by
  unfold ObjectRegistry.lookup
  exact List.find?_map

/-- Keeping a record changes no service of a registry. -/
theorem served_recordedRegistry {β : Type} (valid : Except CosemStatus Unit)
    (key : CosemObjectKey) (allowed : CosemAccessRights → Bool)
    (recorded : CosemObject (ω × List (ω × ObjectCall)) → ω × List (ω × ObjectCall) →
      Except CosemStatus β × (ω × List (ω × ObjectCall)))
    (service : CosemObject ω → ω → Except CosemStatus β × ω)
    (state : ω × List (ω × ObjectCall))
    (h : ∀ object, service object state.1 =
      ((recorded (recordedObject object) state).1, (recorded (recordedObject object) state).2.1)) :
    registry.served valid key allowed service state.1 =
      (((recordedRegistry registry).served valid key allowed recorded state).1,
        ((recordedRegistry registry).served valid key allowed recorded state).2.1) := by
  simp only [ObjectRegistry.served, lookup_recordedRegistry]
  -- A service that is refused on its way to the object leaves no record.
  cases valid with
  | error status => rfl
  | ok valid =>
      cases registry.lookup key with
      | none => rfl
      | some object =>
          simp only [Option.map_some, h object, recordedObject]
          split_ifs
          · rfl
          · rfl

theorem gated_fst {ρ β : Type} (valid : Except CosemStatus Unit) (associated : Bool)
    (answer : Except ServerStatus β → ρ) (state : ω × List (ω × ObjectCall))
    (recorded : Except CosemStatus β × (ω × List (ω × ObjectCall)))
    (call : Except CosemStatus β × ω) (h : call = (recorded.1, recorded.2.1)) :
    gated valid associated answer call state.1 =
      ((gated valid associated answer recorded state).1,
        (gated valid associated answer recorded state).2.1) := by
  subst h
  cases valid with
  | error status => rfl
  | ok valid =>
      cases associated with
      | false => rfl
      | true => rfl

/-- Keeping a record changes no service. -/
theorem projects_recordedRegistry :
    Projects Prod.fst (associatedHandler (recordedRegistry registry) association)
      (associatedHandler registry association) where
  handleGet := by
    intro indication state
    simp only [associatedHandler, handleGet_eq_gated, logicalDevice,
      ObjectRegistry.readAttribute_eq_served]
    exact gated_fst _ _ _ _ _ _ (served_recordedRegistry registry _ _ _ _ _ state fun _ => rfl)
  handleSet := by
    intro indication state
    simp only [associatedHandler, handleSet_eq_gated, logicalDevice,
      ObjectRegistry.writeAttribute_eq_served]
    exact gated_fst _ _ _ _ _ _ (served_recordedRegistry registry _ _ _ _ _ state fun _ => rfl)
  handleAction := by
    intro indication state
    simp only [associatedHandler, handleAction_eq_gated, logicalDevice,
      ObjectRegistry.invokeMethod_eq_served]
    exact gated_fst _ _ _ _ _ _ (served_recordedRegistry registry _ _ _ _ _ state fun _ => rfl)

end Calls

/-! ### What is not permitted makes no difference -/

/-- An object that is called the same and answers permitted calls the same.
    What it does with any other call is its own. -/
structure SameWhenPermitted (association : ServerAssociationContext)
    (object other : CosemObject ω) : Prop where
  key : other.key = object.key
  accessRights : other.accessRights = object.accessRights
  readAttribute : ∀ attributeId state, association.associated = true →
    (object.accessRights state).canReadAttribute attributeId ⟨association.authenticated⟩ = true →
    other.readAttribute attributeId state = object.readAttribute attributeId state
  writeAttribute : ∀ attributeId input state, association.associated = true →
    (object.accessRights state).canWriteAttribute attributeId ⟨association.authenticated⟩ = true →
    other.writeAttribute attributeId input state = object.writeAttribute attributeId input state
  invokeMethod : ∀ methodId input state, association.associated = true →
    (object.accessRights state).canInvokeMethod methodId ⟨association.authenticated⟩ = true →
    other.invokeMethod methodId input state = object.invokeMethod methodId input state

/-- Registries of such objects, one by one. -/
def AgreeWhenPermitted (association : ServerAssociationContext)
    (registry other : ObjectRegistry ω) : Prop :=
  List.Forall₂ (SameWhenPermitted association) registry.objects other.objects

section Agree

variable (association : ServerAssociationContext)

/-- Lists of such objects have such objects under a key. -/
theorem find_forall₂ (key : CosemObjectKey) (objects others : List (CosemObject ω))
    (h : List.Forall₂ (SameWhenPermitted association) objects others) :
    (objects.find? (·.key = key) = none ∧ others.find? (·.key = key) = none) ∨
      ∃ object other, objects.find? (·.key = key) = some object ∧
        others.find? (·.key = key) = some other ∧ SameWhenPermitted association object other := by
  induction h with
  | nil => exact .inl ⟨rfl, rfl⟩
  | @cons object other objects others hsame hrest ih =>
      by_cases hkey : object.key = key
      · -- The first objects have one key, so both lists stop here or neither.
        have hother : other.key = key := hsame.key.trans hkey
        refine .inr ⟨object, other, ?_, ?_, hsame⟩
        · simp [hkey]
        · simp [hother]
      · have hother : other.key ≠ key := by
          rw [hsame.key]
          exact hkey
        simp only [List.find?_cons, hkey, hother, decide_false]
        exact ih

variable (registry other : ObjectRegistry ω) (h : AgreeWhenPermitted association registry other)
include h

theorem lookup_agree (key : CosemObjectKey) :
    (registry.lookup key = none ∧ other.lookup key = none) ∨
      ∃ object object', registry.lookup key = some object ∧ other.lookup key = some object' ∧
        SameWhenPermitted association object object' :=
  find_forall₂ association key _ _ h

/-- Services that such objects do the same when permitted are the same. -/
theorem served_agree {β : Type} (valid : Except CosemStatus Unit) (key : CosemObjectKey)
    (allowed : CosemAccessRights → Bool)
    (service : CosemObject ω → ω → Except CosemStatus β × ω) (state : ω)
    (hservice : ∀ object object', SameWhenPermitted association object object' →
      allowed (object.accessRights state) = true → service object' state = service object state) :
    other.served valid key allowed service state =
      registry.served valid key allowed service state := by
  unfold ObjectRegistry.served
  rcases lookup_agree association registry other h key with
    ⟨hnone, hnone'⟩ | ⟨object, object', hfound, hfound', hsame⟩
  · rw [hnone, hnone']
  · rw [hfound, hfound']
    simp only [hsame.accessRights]
    cases hallowed : allowed (object.accessRights state) with
    | false => rfl
    | true => rw [hservice object object' hsame hallowed]

/-- Servers over such registries are one handler. -/
theorem serverHandler_congr :
    associatedHandler other association = associatedHandler registry association := by
  have hget : ∀ indication state, (associatedHandler other association).handleGet indication state =
      (associatedHandler registry association).handleGet indication state := by
    intro indication state
    simp only [associatedHandler, handleGet_eq_gated, accessContext_setAssociationContext,
      logicalDevice, ObjectRegistry.readAttribute_eq_served]
    -- Without an association neither device is called.
    refine gated_congr _ _ _ _ _ _ fun _ hassociated => ?_
    exact served_agree association registry other h _ _ _ _ state fun object object' hsame =>
      hsame.readAttribute _ _ hassociated
  have hset : ∀ indication state, (associatedHandler other association).handleSet indication state =
      (associatedHandler registry association).handleSet indication state := by
    intro indication state
    simp only [associatedHandler, handleSet_eq_gated, accessContext_setAssociationContext,
      logicalDevice, ObjectRegistry.writeAttribute_eq_served]
    refine gated_congr _ _ _ _ _ _ fun _ hassociated => ?_
    exact served_agree association registry other h _ _ _ _ state fun object object' hsame =>
      hsame.writeAttribute _ _ _ hassociated
  have haction : ∀ indication state,
      (associatedHandler other association).handleAction indication state =
        (associatedHandler registry association).handleAction indication state := by
    intro indication state
    simp only [associatedHandler, handleAction_eq_gated, accessContext_setAssociationContext,
      logicalDevice, ObjectRegistry.invokeMethod_eq_served]
    refine gated_congr _ _ _ _ _ _ fun _ hassociated => ?_
    exact served_agree association registry other h _ _ _ _ state fun object object' hsame =>
      hsame.invokeMethod _ _ _ hassociated
  exact (XdlmsServerHandler.mk.injEq ..).mpr ⟨funext₂ hget, funext₂ hset, funext₂ haction⟩

end Agree

/-! ### Every run -/

section Runs

variable (registry : ObjectRegistry ω) (association : ServerAssociationContext)
  (options : ServiceOptions) (security : Option (SecurityProcessor σ)) (requests : List Bytes)

/-- In every run every call of an object is permitted, and a request without a
    call changes no object; the record of the calls changes no response; and a
    registry that differs in what is not permitted gives the same run, every
    response and every state included. -/
theorem access_rights_enforced :
    (∀ (state : XdlmsServerState σ (ω × List (ω × ObjectCall))),
      ∀ t ∈ run (processRequest (associatedHandler (recordedRegistry registry) association) options
          security) requests state,
        Accounted registry association t.before.device t.after.device) ∧
      (∀ (state : XdlmsServerState σ (ω × List (ω × ObjectCall))),
        run (processRequest (associatedHandler registry association) options security) requests
            (state.project Prod.fst) =
          (run (processRequest (associatedHandler (recordedRegistry registry) association) options
            security) requests state).map fun t =>
              { before := t.before.project Prod.fst
                input := t.input
                output := t.output
                after := t.after.project Prod.fst }) ∧
      ∀ other, AgreeWhenPermitted association registry other → ∀ state : XdlmsServerState σ ω,
        run (processRequest (associatedHandler other association) options security) requests
            state =
          run (processRequest (associatedHandler registry association) options security) requests
            state := by
  refine ⟨?_, ?_, ?_⟩
  · intro state t ht
    -- A transition of a run is one request from a state the run passes through.
    rcases mem_run _ requests state t ht with ⟨first, request, second, -, rfl⟩
    exact accounted_processRequest registry association options security request _
  · intro state
    exact Xdlms.run_project (projects_recordedRegistry registry association) options security
      requests state
  · intro other hagree state
    rw [serverHandler_congr association registry other hagree]

end Runs

/-- An object with a byte that only an authenticated client may read. -/
def secretObject (secret : UInt8) : CosemObject Unit where
  key :=
    { classId := 1
      version := 0
      logicalName := ⟨0, 0, 96, 1, 0, 255⟩ }
  accessRights := fun _ => ⟨fun _ => .authenticatedReadOnly, fun _ => .noAccess⟩
  readAttribute := fun _ state => (.ok [0x11, secret], state)
  writeAttribute := fun _ _ state => (.error .accessDenied, state)
  invokeMethod := fun _ _ state => (.error .methodNotFound, state)

/-- A client that is not authenticated cannot tell one such byte from another. -/
theorem access_rights_enforced_secret :
    run (processRequest
          (associatedHandler (ObjectRegistry.registerAll [some (secretObject 9)])
            { associated := true })
          Xdlms.defaultServiceOptions (none : Option (SecurityProcessor Unit)))
        [[0xC0, 0x01, 0x81, 0x00, 0x01, 0x00, 0x00, 0x60, 0x01, 0x00, 0xFF, 0x02, 0x00]]
        { security := (), device := () } =
      run (processRequest
          (associatedHandler (ObjectRegistry.registerAll [some (secretObject 7)])
            { associated := true })
          Xdlms.defaultServiceOptions (none : Option (SecurityProcessor Unit)))
        [[0xC0, 0x01, 0x81, 0x00, 0x01, 0x00, 0x00, 0x60, 0x01, 0x00, 0xFF, 0x02, 0x00]]
        { security := (), device := () } := by
  refine (access_rights_enforced _ _ _ _ _).2.2 _ ?_ _
  refine List.Forall₂.cons ⟨rfl, rfl, ?_, ?_, ?_⟩ List.Forall₂.nil
  · intro attributeId state hassociated hallowed
    exact absurd hallowed Bool.false_ne_true
  · intro attributeId input state hassociated hallowed
    exact absurd hallowed Bool.false_ne_true
  · intro methodId input state hassociated hallowed
    exact absurd hallowed Bool.false_ne_true

end Server

end Dlms
