import Dlms.Machine.Run
import Dlms.Xdlms.Dispatch

/-!
# A handler seen through a projection

A record of what a handler was called with has to be kept somewhere, so the
handlers that keep one work on a larger state than the handlers they stand
for. The processor looks at no handler state: it hands it to the handler and
keeps what comes back. So a processor over the larger state gives the same
responses as one over the smaller, and its handler state projects to the other.

## Main definitions

* `Projects`: A handler is another one seen through a projection.
* `XdlmsServerState.project`: The projection on the state of a processor.

## Theorems

* `processRequest_project`: One request.
* `run_project`: A whole run.
-/

namespace Dlms

namespace Xdlms

open Apdu (Bytes)
open Machine (run transition)

section Handlers

variable {δ δ' : Type} (π : δ' → δ) (recorder : XdlmsServerHandler δ')
  (handler : XdlmsServerHandler δ)

/-- Each service of the recorder is that of the handler on the projected
    state. -/
structure Projects : Prop where
  handleGet : ∀ indication device, handler.handleGet indication (π device) =
    ((recorder.handleGet indication device).1, π (recorder.handleGet indication device).2)
  handleSet : ∀ indication device, handler.handleSet indication (π device) =
    ((recorder.handleSet indication device).1, π (recorder.handleSet indication device).2)
  handleAction : ∀ indication device, handler.handleAction indication (π device) =
    ((recorder.handleAction indication device).1, π (recorder.handleAction indication device).2)

variable {π recorder handler} (h : Projects π recorder handler)
include h

theorem dispatchGet_project (indication : GetIndication) (device : δ') :
    dispatchGet handler indication (π device) =
      ((dispatchGet recorder indication device).1,
        π (dispatchGet recorder indication device).2) := by
  unfold dispatchGet
  cases validateInvokeId indication.invokeId with
  | error status => rfl
  | ok valid =>
      cases validateDescriptor indication.descriptor with
      | error status => rfl
      | ok valid =>
          rw [h.handleGet]
          rcases recorder.handleGet indication device with ⟨status | result, after⟩
          · rfl
          · rfl

theorem dispatchSet_project (indication : SetIndication) (device : δ') :
    dispatchSet handler indication (π device) =
      ((dispatchSet recorder indication device).1,
        π (dispatchSet recorder indication device).2) := by
  unfold dispatchSet
  cases validateInvokeId indication.invokeId with
  | error status => rfl
  | ok valid =>
      cases validateDescriptor indication.descriptor with
      | error status => rfl
      | ok valid =>
          by_cases hempty : indication.data = []
          · simp [hempty]
          · simp only [hempty, if_false, h.handleSet]
            rcases recorder.handleSet indication device with ⟨status | result, after⟩
            · rfl
            · rfl

theorem dispatchAction_project (indication : ActionIndication) (device : δ') :
    dispatchAction handler indication (π device) =
      ((dispatchAction recorder indication device).1,
        π (dispatchAction recorder indication device).2) := by
  unfold dispatchAction
  cases validateInvokeId indication.invokeId with
  | error status => rfl
  | ok valid =>
      cases validateMethodDescriptor indication.descriptor with
      | error status => rfl
      | ok valid =>
          by_cases hempty : indication.parameter = some []
          · simp [hempty]
          · simp only [hempty, if_false, h.handleAction]
            rcases recorder.handleAction indication device with ⟨status | result, after⟩
            · rfl
            · rfl

theorem answerSet_project (indication : SetIndication)
    (encode : UInt8 → SetResult → Except XdlmsStatus Bytes) (device : δ') :
    answerSet handler indication encode (π device) =
      ((answerSet recorder indication encode device).1,
        π (answerSet recorder indication encode device).2) := by
  unfold answerSet
  rw [dispatchSet_project h]
  rcases dispatchSet recorder indication device with ⟨status | result, after⟩
  · rfl
  · rfl

theorem answerAction_project (indication : ActionIndication) (device : δ') :
    answerAction handler indication (π device) =
      ((answerAction recorder indication device).1,
        π (answerAction recorder indication device).2) := by
  unfold answerAction
  rw [dispatchAction_project h]
  rcases dispatchAction recorder indication device with ⟨status | result, after⟩
  · rfl
  · rfl

theorem validateAndAnswerAction_project (indication : ActionIndication) (parameter : Bytes)
    (device : δ') :
    validateAndAnswerAction handler indication parameter (π device) =
      ((validateAndAnswerAction recorder indication parameter device).1,
        π (validateAndAnswerAction recorder indication parameter device).2) := by
  unfold validateAndAnswerAction
  cases validateEncodedActionParameter parameter with
  | error status => rfl
  | ok valid => exact answerAction_project h _ device

/-! ### The three services -/

variable (options : ServiceOptions)

theorem processGetRequest_project (request : Apdu.GetRequest) (blocks : GetResponseBlockState)
    (device : δ') :
    processGetRequest handler options request blocks (π device) =
      ((processGetRequest recorder options request blocks device).1,
        (processGetRequest recorder options request blocks device).2.1,
        π (processGetRequest recorder options request blocks device).2.2) := by
  cases request with
  | next iip blockNumber =>
      -- A following block is served from the block state alone.
      simp only [processGetRequest]
      split_ifs
      all_goals rfl
  | withList iip list => rfl
  | normal iip normal =>
      simp only [processGetRequest]
      split_ifs
      · rfl
      · rfl
      · rfl
      · rw [dispatchGet_project h]
        rcases dispatchGet recorder _ device with ⟨status | result, after⟩
        · rfl
        · rfl

theorem processSetRequest_project (request : Apdu.SetRequest) (blocks : SetRequestBlockState)
    (device : δ') :
    processSetRequest handler options request blocks (π device) =
      ((processSetRequest recorder options request blocks device).1,
        (processSetRequest recorder options request blocks device).2.1,
        π (processSetRequest recorder options request blocks device).2.2) := by
  cases request with
  | withList iip list values => rfl
  | withListAndFirstDataBlock iip list dataBlock => rfl
  | withFirstDataBlock iip normal dataBlock =>
      simp only [processSetRequest, answerSet_project h]
      split_ifs
      all_goals rfl
  | withDataBlock iip dataBlock =>
      simp only [processSetRequest, answerSet_project h]
      split_ifs
      all_goals rfl
  | normal iip normal data =>
      simp only [processSetRequest]
      split_ifs
      · rfl
      · rfl
      · cases encodeDataBytes data with
        | error status => rfl
        | ok encoded => simp [answerSet_project h]

theorem processActionRequest_project (request : Apdu.ActionRequest)
    (blocks : ActionRequestBlockState) (device : δ') :
    processActionRequest handler options request blocks (π device) =
      ((processActionRequest recorder options request blocks device).1,
        (processActionRequest recorder options request blocks device).2.1,
        π (processActionRequest recorder options request blocks device).2.2) := by
  cases request with
  | nextPblock iip blockNumber => rfl
  | withList iip list => rfl
  | withListAndFirstPblock iip list dataBlock => rfl
  | withFirstPblock iip descriptor dataBlock =>
      simp only [processActionRequest, validateAndAnswerAction_project h]
      split_ifs
      all_goals rfl
  | withPblock iip dataBlock =>
      simp only [processActionRequest, validateAndAnswerAction_project h]
      split_ifs
      all_goals rfl
  | normal iip normal =>
      simp only [processActionRequest]
      split_ifs
      · rfl
      · cases normal.invocationParameter with
        | none => simp [answerAction_project h]
        | some data =>
            cases hencoded : encodeDataBytes data with
            | error status => simp [hencoded]
            | ok encoded => simp [hencoded, answerAction_project h]

end Handlers

/-! ### The whole processor -/

section Processor

variable {σ δ δ' : Type} (π : δ' → δ)

/-- The state of a processor with its handler state projected. -/
def XdlmsServerState.project (state : XdlmsServerState σ δ') : XdlmsServerState σ δ where
  getBlocks := state.getBlocks
  setBlocks := state.setBlocks
  actionBlocks := state.actionBlocks
  security := state.security
  device := π state.device

variable {π} {recorder : XdlmsServerHandler δ'} {handler : XdlmsServerHandler δ}
  (h : Projects π recorder handler) (options : ServiceOptions)
  (security : Option (SecurityProcessor σ))
include h

theorem processService_project (request : Apdu.XdlmsApdu) (state : XdlmsServerState σ δ') :
    processService handler options request (state.project π) =
      ((processService recorder options request state).1,
        (processService recorder options request state).2.project π) := by
  cases request with
  | getRequest request =>
      simp [processService, XdlmsServerState.project, processGetRequest_project h]
  | setRequest request =>
      simp [processService, XdlmsServerState.project, processSetRequest_project h]
  | actionRequest request =>
      simp [processService, XdlmsServerState.project, processActionRequest_project h]
  | initiateRequest apdu => rfl
  | initiateResponse apdu => rfl
  | getResponse apdu => rfl
  | setResponse apdu => rfl
  | actionResponse apdu => rfl
  | ciphered apdu => rfl

/-- One request gets one response from both, and leaves the one state in the
    projection of the other. -/
theorem processRequest_project (requestApdu : Bytes) (state : XdlmsServerState σ δ') :
    processRequest handler options security requestApdu (state.project π) =
      ((processRequest recorder options security requestApdu state).1,
        (processRequest recorder options security requestApdu state).2.project π) := by
  have hsecurity : (state.project π).security = state.security := rfl
  rcases hdecoded : decodeRequest security requestApdu state.security with
    ⟨status | request, securityState⟩
  · rw [processRequest_of_rejected _ _ _ _ _ _ _ hdecoded,
      processRequest_of_rejected _ _ _ _ _ _ _ (hsecurity ▸ hdecoded)]
    rfl
  · rw [processRequest_of_decoded _ _ _ _ _ _ _ hdecoded,
      processRequest_of_decoded _ _ _ _ _ _ _ (hsecurity ▸ hdecoded)]
    have hservice := processService_project h options request
      { state with security := securityState }
    have hstate : ({ state with security := securityState } : XdlmsServerState σ δ').project π =
        { state.project π with security := securityState } := rfl
    rw [hstate] at hservice
    rw [hservice]
    rcases processService recorder options request { state with security := securityState } with
      ⟨status | response, after⟩
    · rfl
    · rfl

/-- A run over the larger state answers as one over the smaller does, and
    stands where the other stands after every request. -/
theorem run_project (requests : List Bytes) (state : XdlmsServerState σ δ') :
    run (processRequest handler options security) requests (state.project π) =
      (run (processRequest recorder options security) requests state).map fun t =>
        { before := t.before.project π
          input := t.input
          output := t.output
          after := t.after.project π } := by
  induction requests generalizing state with
  | nil => rfl
  | cons request requests ih =>
      have hrequest := processRequest_project h options security request state
      simp [run, transition, hrequest, ih]

end Processor

end Xdlms

end Dlms
