import Dlms.Server.Addressing
import Dlms.Xdlms.RemoteCalls

/-!
# A logical device behind a client and a server

The whole way of a call: the client, its APDUs and blocks, the processor, the
adapter, the dispatcher and the device. For the caller all of it is one
function of what the device does: a success is a success with the device's
bytes, and a failure of the object model is a result code where there is one
for it, and a response that does not come where there is none.

## Main definitions

* `dataAccessResultOf`, `actionResultOf`: The codes of the failures.
* `readReport`, `writeReport`, `invokeReport`: What the caller is told.
* `callObjects`: The call of the device itself.
* `ObjectCallFits`: The calls with a place on the wire.

## Theorems

* `callLocal_serverHandler`: The adapter and the dispatcher add nothing.
* `remote_session_eq_objects`: Every session with an associated server.
-/

namespace Dlms

namespace Server

open Apdu (Bytes CanonicalData maximumDataDepth)
open Cosem (CosemStatus CosemAccessContext ILogicalDevice CosemObject ObjectRegistry logicalDevice)
open Machine (run final Admits)
open Xdlms (ServiceOptions ServiceCall CallOutcome LocalState XdlmsStatus XdlmsServerState
  XdlmsClient XdlmsClientState Peer GetResult SetResult ActionResult Stands GetFits GetAnswerFits
  SetArgumentFits ActionArgumentFits ActionAnswerFits CallFits callLocal callRemote connected
  actionOutputLimit)

/-! ### What the caller is told -/

/-- The code of a failed read or write. -/
def dataAccessResultOf (status : CosemStatus) : Option UInt8 :=
  match status with
  | .accessDenied => some 3
  | .objectNotFound | .attributeNotFound => some 4
  | .objectError => some 250
  | .invalidArgument | .duplicateObject | .methodNotFound | .outputBufferTooSmall
  | .unsupportedFeature | .internalError => none

/-- The code of a failed invocation. -/
def actionResultOf (status : CosemStatus) : Option UInt8 :=
  match status with
  | .accessDenied => some 3
  | .objectNotFound | .methodNotFound => some 4
  | .objectError => some 250
  | .invalidArgument | .duplicateObject | .attributeNotFound | .outputBufferTooSmall
  | .unsupportedFeature | .internalError => none

section Reports

variable (invokeId : UInt8)

def readReport (outcome : Except CosemStatus Bytes) : Except XdlmsStatus Unit × GetResult :=
  match outcome with
  | .ok data => (.ok (), { invokeId := invokeId, hasData := true, data := data })
  | .error status =>
      match dataAccessResultOf status with
      | some code =>
          (.error .serviceRejected,
            { invokeId := invokeId, hasAccessResult := true, accessResult := code })
      | none => (.error .receiveFailed, {})

def writeReport (outcome : Except CosemStatus Unit) : Except XdlmsStatus Unit × SetResult :=
  match outcome with
  | .ok () => (.ok (), { invokeId := invokeId })
  | .error status =>
      match dataAccessResultOf status with
      | some code => (.error .serviceRejected, { invokeId := invokeId, accessResult := code })
      | none => (.error .receiveFailed, {})

/-- A method without output is executed, and not answered. -/
def invokeReport (outcome : Except CosemStatus Bytes) : Except XdlmsStatus Unit × ActionResult :=
  match outcome with
  | .ok [] => (.error .receiveFailed, {})
  | .ok (first :: rest) =>
      (.ok (), { invokeId := invokeId, hasData := true, data := first :: rest })
  | .error status =>
      match actionResultOf status with
      | some code => (.error .serviceRejected, { invokeId := invokeId, actionResult := code })
      | none => (.error .receiveFailed, {})

end Reports

/-! ### The call of the device -/

section Objects

variable {ω : Type} (device : ILogicalDevice ω) (context : CosemAccessContext)

def callObjects (call : ServiceCall) (state : LocalState ω) : CallOutcome × LocalState ω :=
  match call with
  | .get descriptor _ =>
      match Xdlms.validateDescriptor descriptor with
      | .error status => (.get (.error status) {}, state)
      | .ok () =>
          let out := device.readAttribute (toServerDescriptor descriptor) context state.device
          let report := readReport state.invokeIds.next out.1
          (.get report.1 report.2, { invokeIds := state.invokeIds.take.2, device := out.2 })
  | .set descriptor data _ =>
      match Xdlms.validateDescriptor descriptor with
      | .error status => (.set (.error status) {}, state)
      | .ok () =>
          let out := device.writeAttribute (toServerDescriptor descriptor) context data state.device
          let report := writeReport state.invokeIds.next out.1
          (.set report.1 report.2, { invokeIds := state.invokeIds.take.2, device := out.2 })
  | .action descriptor parameter _ =>
      match Xdlms.validateMethodDescriptor descriptor with
      | .error status => (.action (.error status) {}, state)
      | .ok () =>
          let out := device.invokeMethod (toServerMethodDescriptor descriptor) context
            (parameter.getD []) state.device
          let report := invokeReport state.invokeIds.next out.1
          (.action report.1 report.2, { invokeIds := state.invokeIds.take.2, device := out.2 })

/-- What was read has a place in the responses, and in as many of them as the
    client may ask for. -/
structure ReadFits (serverOptions options : ServiceOptions) (responses : Nat) (data : Bytes) :
    Prop where
  canonical : ∃ value, CanonicalData maximumDataDepth data value
  server : data.length ≤ serverOptions.maxBlockTransferBytes
  client : data.length ≤ options.maxBlockTransferBytes
  payload : 0 < serverOptions.maxGetBlockPayloadBytes
  fits : GetFits serverOptions options data.length
  responses : data.length ≤ responses

/-- A confirmed call whose argument and output have a place on the wire. -/
def ObjectCallFits (serverOptions : ServiceOptions) (responses : Nat) (state : LocalState ω)
    (call : ServiceCall) : Prop :=
  match call with
  | .get descriptor options =>
      options.confirmed = true ∧
        ∀ data, (device.readAttribute (toServerDescriptor descriptor) context state.device).1 =
          .ok data → ReadFits serverOptions options responses data
  | .set _ data options =>
      options.confirmed = true ∧ SetArgumentFits serverOptions options data
  | .action descriptor parameter options =>
      options.confirmed = true ∧ ActionArgumentFits serverOptions options parameter ∧
        ∀ data, (device.invokeMethod (toServerMethodDescriptor descriptor) context
            (parameter.getD []) state.device).1 = .ok data →
          data = [] ∨ (∃ value, CanonicalData maximumDataDepth data value) ∧
            data.length ≤ actionOutputLimit

end Objects

/-! ### The adapter and the dispatcher -/

theorem validateObjectKey_of_validateName (classId : UInt16) (instanceId : Apdu.LogicalName)
    (id : UInt8) (h : Xdlms.validateName classId instanceId id = .ok ()) :
    Cosem.validateObjectKey ⟨classId, 0, instanceId⟩ = .ok () ∧ id ≠ 0 := by
  rw [Xdlms.validateName] at h
  by_cases hzero : classId = 0 ∨ id = 0
  · rw [if_pos hzero] at h
    cases h
  rw [if_neg hzero] at h
  by_cases hempty : instanceId = Xdlms.emptyLogicalName
  · rw [if_pos hempty] at h
    cases h
  rw [not_or] at hzero
  refine ⟨?_, hzero.2⟩
  rw [Cosem.validateObjectKey, if_neg]
  rintro (hclass | hname)
  · exact hzero.1 hclass
  · -- The six octets of the name are all zero.
    refine hempty ?_
    rcases instanceId with ⟨a, b, c, d, e, f⟩
    simp only [Cosem.LogicalName.isEmpty, Apdu.LogicalName.bytes, List.all_cons, List.all_nil,
      Bool.and_true, Bool.and_eq_true, beq_iff_eq] at hname
    rcases hname with ⟨rfl, rfl, rfl, rfl, rfl, rfl⟩
    rfl

theorem validateAttributeDescriptor_toServerDescriptor
    (descriptor : Xdlms.CosemAttributeDescriptor)
    (h : Xdlms.validateDescriptor descriptor = .ok ()) :
    Cosem.validateAttributeDescriptor (toServerDescriptor descriptor) = .ok () :=
  (Cosem.validateAttributeDescriptor_eq_ok_iff _).mpr (validateObjectKey_of_validateName _ _ _ h)

theorem validateMethodDescriptor_toServerMethodDescriptor
    (descriptor : Xdlms.CosemMethodDescriptor)
    (h : Xdlms.validateMethodDescriptor descriptor = .ok ()) :
    Cosem.validateMethodDescriptor (toServerMethodDescriptor descriptor) = .ok () :=
  (Cosem.validateMethodDescriptor_eq_ok_iff _).mpr (validateObjectKey_of_validateName _ _ _ h)

section Answers

variable (invokeId : UInt8)

theorem reportGet_getAnswer (outcome : Except CosemStatus Bytes) :
    Xdlms.reportGet invokeId (getAnswer invokeId (outcome.mapError mapCosemStatus)) =
      readReport invokeId outcome := by
  cases outcome with
  | error status =>
      cases status with
      | _ => rfl
  | ok data => rfl

theorem reportSet_setAnswer (outcome : Except CosemStatus Unit) :
    Xdlms.reportSet invokeId (setAnswer invokeId (outcome.mapError mapCosemStatus)) =
      writeReport invokeId outcome := by
  cases outcome with
  | error status =>
      cases status with
      | _ => rfl
  | ok written => rfl

theorem reportAction_actionAnswer (outcome : Except CosemStatus Bytes) :
    Xdlms.reportAction invokeId (actionAnswer invokeId (outcome.mapError mapCosemStatus)) =
      invokeReport invokeId outcome := by
  cases outcome with
  | error status =>
      cases status with
      | _ => rfl
  | ok data =>
      cases data with
      | nil => rfl
      | cons first rest => rfl

theorem failureOf_eq_ok {ρ : Type} (status : ServerStatus) (empty result : ρ)
    (h : failureOf status empty = .ok result) : result = empty := by
  unfold failureOf at h
  split at h
  · exact (Except.ok.inj h).symm
  · cases h

/-- The adapter gives data for a success only. -/
theorem ok_of_getAnswer (outcome : Except ServerStatus Bytes) (result : GetResult)
    (h : getAnswer invokeId outcome = .ok result) (hdata : result.hasData = true) :
    outcome = .ok result.data ∧ result.hasAccessResult = false := by
  cases outcome with
  | ok data =>
      rw [← Except.ok.inj h]
      exact ⟨rfl, rfl⟩
  | error status =>
      refine absurd hdata ?_
      simp only [getAnswer, XdlmsServerAdapter.getResult] at h
      split_ifs at h with hok hmissing hcode
      · exact absurd rfl hmissing
      · rw [← Except.ok.inj h]
        exact Bool.false_ne_true
      · rw [failureOf_eq_ok _ _ _ h]
        exact Bool.false_ne_true

theorem ok_of_actionAnswer (outcome : Except ServerStatus Bytes) (result : ActionResult)
    (h : actionAnswer invokeId outcome = .ok result) (hdata : result.hasData = true) :
    outcome = .ok result.data := by
  cases outcome with
  | ok data =>
      rw [← Except.ok.inj h]
      rfl
  | error status =>
      refine absurd hdata ?_
      simp only [actionAnswer, XdlmsServerAdapter.actionResult] at h
      split_ifs at h with hok hcode
      · rw [← Except.ok.inj h]
        exact Bool.false_ne_true
      · rw [← Except.ok.inj h]
        exact Bool.false_ne_true
      · rw [failureOf_eq_ok _ _ _ h]
        exact Bool.false_ne_true

end Answers

/-- What is a success behind the gate was one in front of it. -/
theorem eq_ok_of_mapError {β : Type} (outcome : Except CosemStatus β) (value : β)
    (h : outcome.mapError mapCosemStatus = .ok value) : outcome = .ok value := by
  cases outcome with
  | error status => cases h
  | ok result => exact congrArg Except.ok (Except.ok.inj h)

section Handler

variable {ω : Type} (device : ILogicalDevice ω) (context : ServerContext)
  (hassociated : context.isAssociated = true)
include hassociated

/-- A GET is a read of the device, and what is reported of it the report of
    the read. -/
theorem handleGet_reports (indication : Xdlms.GetIndication) (state : ω)
    (hdescriptor : Xdlms.validateDescriptor indication.descriptor = .ok ()) :
    Xdlms.reportGet indication.invokeId
        ((serverHandler device context).handleGet indication state).1 =
      readReport indication.invokeId
        (device.readAttribute (toServerDescriptor indication.descriptor) context.accessContext
          state).1 ∧
      ((serverHandler device context).handleGet indication state).2 =
        (device.readAttribute (toServerDescriptor indication.descriptor) context.accessContext
          state).2 := by
  rw [handleGet_eq_gated, validateAttributeDescriptor_toServerDescriptor _ hdescriptor,
    hassociated]
  exact ⟨reportGet_getAnswer _ _, rfl⟩

theorem handleSet_reports (indication : Xdlms.SetIndication) (state : ω)
    (hdescriptor : Xdlms.validateDescriptor indication.descriptor = .ok ()) :
    Xdlms.reportSet indication.invokeId
        ((serverHandler device context).handleSet indication state).1 =
      writeReport indication.invokeId
        (device.writeAttribute (toServerDescriptor indication.descriptor) context.accessContext
          indication.data state).1 ∧
      ((serverHandler device context).handleSet indication state).2 =
        (device.writeAttribute (toServerDescriptor indication.descriptor) context.accessContext
          indication.data state).2 := by
  rw [handleSet_eq_gated, validateAttributeDescriptor_toServerDescriptor _ hdescriptor,
    hassociated]
  exact ⟨reportSet_setAnswer _ _, rfl⟩

theorem handleAction_reports (indication : Xdlms.ActionIndication) (state : ω)
    (hdescriptor : Xdlms.validateMethodDescriptor indication.descriptor = .ok ()) :
    Xdlms.reportAction indication.invokeId
        ((serverHandler device context).handleAction indication state).1 =
      invokeReport indication.invokeId
        (device.invokeMethod (toServerMethodDescriptor indication.descriptor)
          context.accessContext (indication.parameter.getD []) state).1 ∧
      ((serverHandler device context).handleAction indication state).2 =
        (device.invokeMethod (toServerMethodDescriptor indication.descriptor)
          context.accessContext (indication.parameter.getD []) state).2 := by
  rw [handleAction_eq_gated, validateMethodDescriptor_toServerMethodDescriptor _ hdescriptor,
    hassociated]
  exact ⟨reportAction_actionAnswer _ _, rfl⟩

variable (serverOptions : ServiceOptions)

/-- The adapter and the dispatcher add nothing to a call. -/
theorem callLocal_serverHandler (call : ServiceCall) (state : LocalState ω) :
    callLocal (serverHandler device context) serverOptions call state =
      callObjects device context.accessContext call state := by
  cases call with
  | get descriptor options =>
      cases hdescriptor : Xdlms.validateDescriptor descriptor with
      | error status => simp [callLocal, callObjects, hdescriptor]
      | ok valid =>
          have hreports := handleGet_reports device context hassociated
            (Xdlms.getIndication state.invokeIds.next serverOptions options descriptor)
            state.device hdescriptor
          simp only [Xdlms.getIndication] at hreports
          simp [callLocal, callObjects, hdescriptor, Xdlms.getIndication, hreports]
  | set descriptor data options =>
      cases hdescriptor : Xdlms.validateDescriptor descriptor with
      | error status => simp [callLocal, callObjects, hdescriptor]
      | ok valid =>
          have hreports := handleSet_reports device context hassociated
            (Xdlms.setIndication state.invokeIds.next serverOptions options descriptor data)
            state.device hdescriptor
          simp only [Xdlms.setIndication] at hreports
          simp [callLocal, callObjects, hdescriptor, Xdlms.setIndication, hreports]
  | action descriptor parameter options =>
      cases hdescriptor : Xdlms.validateMethodDescriptor descriptor with
      | error status => simp [callLocal, callObjects, hdescriptor]
      | ok valid =>
          have hreports := handleAction_reports device context hassociated
            (Xdlms.actionIndication state.invokeIds.next serverOptions options descriptor
              parameter) state.device hdescriptor
          simp only [Xdlms.actionIndication] at hreports
          simp [callLocal, callObjects, hdescriptor, Xdlms.actionIndication, hreports]

omit hassociated

/-- Data that a GET has was read from the device. -/
theorem read_of_handleGet (indication : Xdlms.GetIndication) (state : ω) (result : GetResult)
    (h : ((serverHandler device context).handleGet indication state).1 = .ok result)
    (hdata : result.hasData = true) :
    (device.readAttribute (toServerDescriptor indication.descriptor) context.accessContext
        state).1 = .ok result.data ∧ result.hasAccessResult = false := by
  rw [handleGet_eq_gated] at h
  rcases gated_cases _ _ _ _ state with ⟨status, hrefused⟩ | ⟨-, -, hcalled⟩
  · rw [hrefused] at h
    dsimp only at h
    cases (ok_of_getAnswer _ _ result h hdata).1
  · rw [hcalled] at h
    dsimp only at h
    rcases ok_of_getAnswer _ _ result h hdata with ⟨hok, hcode⟩
    exact ⟨eq_ok_of_mapError _ _ hok, hcode⟩

/-- Data that an ACTION has was returned by the method. -/
theorem invoked_of_handleAction (indication : Xdlms.ActionIndication) (state : ω)
    (result : ActionResult)
    (h : ((serverHandler device context).handleAction indication state).1 = .ok result)
    (hdata : result.hasData = true) :
    (device.invokeMethod (toServerMethodDescriptor indication.descriptor) context.accessContext
        (indication.parameter.getD []) state).1 = .ok result.data := by
  rw [handleAction_eq_gated] at h
  rcases gated_cases _ _ _ _ state with ⟨status, hrefused⟩ | ⟨-, -, hcalled⟩
  · rw [hrefused] at h
    dsimp only at h
    cases ok_of_actionAnswer _ _ result h hdata
  · rw [hcalled] at h
    dsimp only at h
    exact eq_ok_of_mapError _ _ (ok_of_actionAnswer _ _ result h hdata)

/-- A call that fits for the device fits for the handler. -/
theorem callFits_of_objectCallFits (responses : Nat) (state : LocalState ω) (call : ServiceCall)
    (h : ObjectCallFits device context.accessContext serverOptions responses state call) :
    CallFits (serverHandler device context) serverOptions responses state call := by
  cases call with
  | get descriptor options =>
      refine ⟨h.1, fun result hresult hdata => ?_⟩
      rcases read_of_handleGet device context _ state.device result hresult hdata with
        ⟨hread, hcode⟩
      have hfits := h.2 result.data hread
      exact ⟨⟨hdata, hcode, hfits.canonical, hfits.server, hfits.client, hfits.payload⟩,
        hfits.fits, hfits.responses⟩
  | set descriptor data options => exact h
  | action descriptor parameter options =>
      refine ⟨h.1, h.2.1, fun result hresult hdata hsome => ?_⟩
      have hinvoked := invoked_of_handleAction device context _ state.device result hresult hdata
      exact (h.2.2 result.data hinvoked).resolve_left hsome

end Handler

/-! ### Sessions -/

section Session

variable {σ τ ω : Type} (device : ILogicalDevice ω) (context : ServerContext)
  (serverOptions : ServiceOptions) (responses : Nat)

theorem callLocal_eq_callObjects (hassociated : context.isAssociated = true) :
    callLocal (serverHandler device context) serverOptions =
      callObjects device context.accessContext := by
  funext call localState
  exact callLocal_serverHandler device context hassociated serverOptions call localState

/-- Every call of a session fits where the device has got to by then. -/
def SessionFits (calls : List ServiceCall) (localState : LocalState ω) : Prop :=
  Admits (callObjects device context.accessContext)
    (fun _ state call =>
      ObjectCallFits device context.accessContext serverOptions responses state call) [] calls
    localState

/-- The calls of a client have the outcomes the device has, call by call. -/
def SameOutcomes {χ : Type} (client : XdlmsClient χ τ) (calls : List ServiceCall)
    (localState : LocalState ω) (state : XdlmsClientState χ τ) : Prop :=
  (run (callRemote client responses) calls state).map (fun t => t.output) =
    (run (callObjects device context.accessContext) calls localState).map
      (fun t => some t.output)

/-- A session that fits for the device fits for the handler. -/
theorem admits_callFits (hassociated : context.isAssociated = true) (calls : List ServiceCall)
    (localState : LocalState ω)
    (hfits : SessionFits device context serverOptions responses calls localState) :
    Admits (callLocal (serverHandler device context) serverOptions)
      (fun _ state call => CallFits (serverHandler device context) serverOptions responses state
        call) [] calls localState := by
  rw [callLocal_eq_callObjects device context serverOptions hassociated]
  exact hfits.mono _ _ _ fun _ localState call hcall =>
    callFits_of_objectCallFits device context serverOptions responses localState call hcall

/-- A session of an associated client has the outcomes the device has, call by
    call and whatever was called before, and leaves the device where the calls
    leave it. -/
theorem remote_session_eq_objects (calls : List ServiceCall) (localState : LocalState ω)
    (state : XdlmsClientState (Peer σ ω) τ) (hassociated : context.isAssociated = true)
    (h : Stands localState state)
    (hfits : SessionFits device context serverOptions responses calls localState) :
    SameOutcomes device context responses (connected (serverHandler device context) serverOptions)
        calls localState state ∧
      Stands (final (callObjects device context.accessContext) calls localState)
        (final (callRemote (connected (serverHandler device context) serverOptions) responses)
          calls state) := by
  rw [SameOutcomes, ← callLocal_eq_callObjects device context serverOptions hassociated]
  exact Xdlms.session_stands (serverHandler device context) serverOptions responses calls
    localState state h (admits_callFits device context serverOptions responses hassociated calls
      localState hfits)

end Session

/-! ### One register -/

/-- A register whose value may be read and written. -/
def energyRegister : CosemObject Bytes where
  key := ⟨3, 0, ⟨1, 0, 1, 8, 0, 255⟩⟩
  accessRights := fun _ =>
    { attributeAccess := fun id => if id = 2 then .readAndWrite else .noAccess
      methodAccess := fun _ => .noAccess }
  readAttribute := fun id value =>
    if id = 2 then (.ok value, value) else (.error .attributeNotFound, value)
  writeAttribute := fun id input value =>
    if id = 2 then (.ok (), input) else (.error .attributeNotFound, value)
  invokeMethod := fun _ _ value => (.error .methodNotFound, value)

def meter : ILogicalDevice Bytes := logicalDevice (ObjectRegistry.registerAll [some energyRegister])

/-- Blocks of one byte in both directions. -/
def oneByteOptions : ServiceOptions :=
  { Xdlms.defaultServiceOptions with maxGetBlockPayloadBytes := 1, maxSetBlockPayloadBytes := 1 }

def associated : ServerContext :=
  ServerContext.setAssociationContext { associated := true }

/-- The value is set in two blocks and read in two blocks, and what may not be
    read is asked for. -/
def meterSession : List ServiceCall :=
  [.set ⟨3, ⟨1, 0, 1, 8, 0, 255⟩, 2⟩ [0x03, 0x01] oneByteOptions,
    .get ⟨3, ⟨1, 0, 1, 8, 0, 255⟩, 2⟩ oneByteOptions,
    .get ⟨3, ⟨1, 0, 1, 8, 0, 255⟩, 3⟩ oneByteOptions]

def meterState : XdlmsClientState (Peer Unit Bytes) Unit where
  channel := { server := { security := (), device := [0x00] } }
  security := ()

theorem canonical_true : ∃ value, CanonicalData maximumDataDepth [0x03, 0x01] value :=
  ⟨_, rfl, rfl⟩

theorem meterSession_fits :
    SessionFits meter associated oneByteOptions 2 meterSession { device := [0x00] } := by
  refine ⟨⟨rfl, ⟨_, canonical_true⟩, ?_, by decide⟩, ⟨rfl, ?_⟩, ⟨rfl, ?_⟩, trivial⟩
  · rw [Xdlms.SetFits, if_neg (by decide)]
    exact ⟨rfl, by decide, by decide, by decide⟩
  · intro data hdata
    have hread : data = [0x03, 0x01] := (Except.ok.inj hdata).symm
    subst hread
    refine ⟨canonical_true, by decide, by decide, by decide, ?_, by decide⟩
    rw [GetFits, if_neg (by decide)]
    exact ⟨rfl, rfl, by decide⟩
  · intro data hdata
    change (.error .accessDenied : Except CosemStatus Bytes) = .ok data at hdata
    cases hdata

theorem remote_session_eq_objects_meter :
    SameOutcomes meter associated 2 (connected (serverHandler meter associated) oneByteOptions)
        meterSession { device := [0x00] } meterState ∧
      Stands (final (callObjects meter associated.accessContext) meterSession { device := [0x00] })
        (final (callRemote (connected (serverHandler meter associated) oneByteOptions) 2)
          meterSession meterState) :=
  remote_session_eq_objects meter associated oneByteOptions 2 meterSession { device := [0x00] }
    meterState rfl ⟨rfl, rfl, rfl, rfl, rfl⟩ meterSession_fits

end Server

end Dlms
