import Dlms.Xdlms.Outcomes

/-!
# What a request dispatches

A request calls the handler once or not at all. These lemmas say, for each
service, what the handler is called with and how its result becomes the
response, so that nothing after this module has to look at the branches of the
services again.

## Main definitions

* `recordingHandler`: A handler that also writes down its indications.
* `invokeIdOf`: The invoke id of a request.
* `GetAnswered`, `SetAnswered`, `ActionAnswered`: The handler was called, and
  what came of it.

## Theorems

* `processGetRequest_cases`, `processSetRequest_cases`,
  `processActionRequest_cases`: The handler was called, or its state is as it
  was.
* `device_answerSet`, `device_answerAction`: A valid indication reaches it.
* `device_processRequest`: What no call of the handler changes, no request
  changes.
* `security_processRequest`: A request is unprotected once, and a response to it
  protected once.
-/

namespace Dlms

namespace Xdlms

open Apdu (Bytes)

/-- A handler that also writes down its indications. -/
def recordingHandler {δ : Type} (handler : XdlmsServerHandler δ) :
    XdlmsServerHandler (δ × List ServiceIndication) where
  handleGet := fun indication device =>
    let out := handler.handleGet indication device.1
    (out.1, out.2, device.2 ++ [.get indication])
  handleSet := fun indication device =>
    let out := handler.handleSet indication device.1
    (out.1, out.2, device.2 ++ [.set indication])
  handleAction := fun indication device =>
    let out := handler.handleAction indication device.1
    (out.1, out.2, device.2 ++ [.action indication])

section Services

variable {δ : Type} (handler : XdlmsServerHandler δ) (options : ServiceOptions)

def invokeIdOfGet (request : Apdu.GetRequest) : UInt8 :=
  match request with
  | .normal iip _ | .next iip _ | .withList iip _ => iip &&& 0x0F

def invokeIdOfSet (request : Apdu.SetRequest) : UInt8 :=
  match request with
  | .normal iip _ _ | .withFirstDataBlock iip _ _ | .withDataBlock iip _ | .withList iip _ _
  | .withListAndFirstDataBlock iip _ _ => iip &&& 0x0F

def invokeIdOfAction (request : Apdu.ActionRequest) : UInt8 :=
  match request with
  | .normal iip _ | .nextPblock iip _ | .withList iip _ | .withFirstPblock iip _ _
  | .withListAndFirstPblock iip _ _ | .withPblock iip _ => iip &&& 0x0F

/-- The invoke id of a request; no other APDU has one that a server looks at. -/
def invokeIdOf (request : Apdu.XdlmsApdu) : UInt8 :=
  match request with
  | .getRequest request => invokeIdOfGet request
  | .setRequest request => invokeIdOfSet request
  | .actionRequest request => invokeIdOfAction request
  | _ => 0

/-! ### The dispatcher -/

theorem dispatchGet_cases (indication : GetIndication) (device : δ) :
    (∃ status, dispatchGet handler indication device = (.error status, device)) ∨
      validateDescriptor indication.descriptor = .ok () ∧
        dispatchGet handler indication device =
          ((handler.handleGet indication device).1.map
              (fun result => { result with invokeId := indication.invokeId }),
            (handler.handleGet indication device).2) := by
  unfold dispatchGet
  cases validateInvokeId indication.invokeId with
  | error status => exact .inl ⟨status, rfl⟩
  | ok valid =>
      cases validateDescriptor indication.descriptor with
      | error status => exact .inl ⟨status, rfl⟩
      | ok valid =>
          rcases handler.handleGet indication device with ⟨_ | result, device'⟩
          · exact .inr ⟨rfl, rfl⟩
          · exact .inr ⟨rfl, rfl⟩

theorem dispatchSet_cases (indication : SetIndication) (device : δ) :
    (∃ status, dispatchSet handler indication device = (.error status, device)) ∨
      validateDescriptor indication.descriptor = .ok () ∧
        dispatchSet handler indication device =
          ((handler.handleSet indication device).1.map
              (fun result => { result with invokeId := indication.invokeId }),
            (handler.handleSet indication device).2) := by
  unfold dispatchSet
  cases validateInvokeId indication.invokeId with
  | error status => exact .inl ⟨status, rfl⟩
  | ok valid =>
      cases validateDescriptor indication.descriptor with
      | error status => exact .inl ⟨status, rfl⟩
      | ok valid =>
          by_cases hempty : indication.data = []
          · exact .inl ⟨.invalidArgument, if_pos hempty⟩
          · simp only [hempty, if_false]
            rcases handler.handleSet indication device with ⟨_ | result, device'⟩
            · exact .inr ⟨trivial, rfl⟩
            · exact .inr ⟨trivial, rfl⟩

theorem dispatchAction_cases (indication : ActionIndication) (device : δ) :
    (∃ status, dispatchAction handler indication device = (.error status, device)) ∨
      validateMethodDescriptor indication.descriptor = .ok () ∧
        dispatchAction handler indication device =
          ((handler.handleAction indication device).1.map
              (fun result => { result with invokeId := indication.invokeId }),
            (handler.handleAction indication device).2) := by
  unfold dispatchAction
  cases validateInvokeId indication.invokeId with
  | error status => exact .inl ⟨status, rfl⟩
  | ok valid =>
      cases validateMethodDescriptor indication.descriptor with
      | error status => exact .inl ⟨status, rfl⟩
      | ok valid =>
          by_cases hempty : indication.parameter = some []
          · exact .inl ⟨.invalidArgument, if_pos hempty⟩
          · simp only [hempty, if_false]
            rcases handler.handleAction indication device with ⟨_ | result, device'⟩
            · exact .inr ⟨trivial, rfl⟩
            · exact .inr ⟨trivial, rfl⟩

/-- A valid SET indication reaches the handler, whatever becomes of the
    answer. -/
theorem device_answerSet (indication : SetIndication)
    (encode : UInt8 → SetResult → Except XdlmsStatus Bytes) (device : δ)
    (hinvoke : validateInvokeId indication.invokeId = .ok ())
    (hdescriptor : validateDescriptor indication.descriptor = .ok ())
    (hdata : indication.data ≠ []) :
    (answerSet handler indication encode device).2 =
      (handler.handleSet indication device).2 := by
  unfold answerSet dispatchSet
  simp only [hinvoke, hdescriptor, hdata, if_false]
  rcases handler.handleSet indication device with ⟨status | result, after⟩
  · rfl
  · rfl

/-- An invalid one does not. -/
theorem device_answerSet_refused (indication : SetIndication)
    (encode : UInt8 → SetResult → Except XdlmsStatus Bytes) (device : δ)
    (hinvalid : ¬(validateInvokeId indication.invokeId = .ok () ∧
      validateDescriptor indication.descriptor = .ok () ∧ indication.data ≠ [])) :
    (answerSet handler indication encode device).2 = device := by
  unfold answerSet dispatchSet
  cases hinvoke : validateInvokeId indication.invokeId with
  | error status => rfl
  | ok valid =>
      cases hdescriptor : validateDescriptor indication.descriptor with
      | error status => rfl
      | ok valid =>
          by_cases hempty : indication.data = []
          · simp [hempty]
          · exact absurd ⟨hinvoke, hdescriptor, hempty⟩ hinvalid

theorem device_answerAction (indication : ActionIndication) (device : δ)
    (hinvoke : validateInvokeId indication.invokeId = .ok ())
    (hdescriptor : validateMethodDescriptor indication.descriptor = .ok ())
    (hparameter : indication.parameter ≠ some []) :
    (answerAction handler indication device).2 = (handler.handleAction indication device).2 := by
  unfold answerAction dispatchAction
  simp only [hinvoke, hdescriptor, hparameter, if_false]
  rcases handler.handleAction indication device with ⟨status | result, after⟩
  · rfl
  · rfl

/-! ### The services -/

/-- A GET called the handler, and this came of it. -/
def GetAnswered (invokeId : UInt8) (device : δ)
    (out : Except XdlmsStatus Bytes × GetResponseBlockState × δ) : Prop :=
  ∃ indication : GetIndication, ∃ blocks,
    indication.invokeId = invokeId ∧
    validateDescriptor indication.descriptor = .ok () ∧
    indication.options.maxBlockTransferBytes = options.maxBlockTransferBytes ∧
    indication.options.maxGetBlockPayloadBytes = options.maxGetBlockPayloadBytes ∧
    indication.options.allowBlockTransfer = options.allowBlockTransfer ∧
    out.2.2 = (handler.handleGet indication device).2 ∧
    match (handler.handleGet indication device).1 with
    | .error status => out.1 = .error status
    | .ok result =>
        (out.1, out.2.1) = encodeGetResponseOrStartBlocks
          (makeInvokeIdAndPriority invokeId indication.options) indication
          { result with invokeId := invokeId } blocks

theorem processGetRequest_cases (request : Apdu.GetRequest) (blocks : GetResponseBlockState)
    (device : δ) :
    (processGetRequest handler options request blocks device).2.2 = device ∨
      GetAnswered handler options (invokeIdOfGet request) device
        (processGetRequest handler options request blocks device) := by
  have houtcome := processGetRequest_outcome handler options request blocks device
  generalize processGetRequest handler options request blocks device = out at houtcome ⊢
  cases houtcome with
  | normal iip normal indication answer after hidle hselection hconfirmed hindication hanswer =>
      -- Only here is the handler called.
      rcases dispatchGet_cases handler indication device with ⟨cause, h⟩ | ⟨hvalid, h⟩
      · rcases hanswer with ⟨status, hdispatched, -⟩ | ⟨result, hdispatched, -⟩
        · exact .inl (congrArg Prod.snd (hdispatched.symm.trans h))
        · exact .inl (congrArg Prod.snd (hdispatched.symm.trans h))
      · rw [h] at hanswer
        subst hindication
        refine .inr ⟨_, blocks, rfl, hvalid, rfl, rfl, rfl, ?_⟩
        generalize handler.handleGet _ device = answered at hanswer ⊢
        rcases answered with ⟨cause | handled, device'⟩
        · rcases hanswer with ⟨status, heq, rfl⟩ | ⟨result, heq, -⟩
          · exact ⟨(congrArg Prod.snd heq).symm,
              congrArg Except.error (Except.error.inj (congrArg Prod.fst heq)).symm⟩
          · cases congrArg Prod.fst heq
        · rcases hanswer with ⟨status, heq, -⟩ | ⟨result, heq, rfl⟩
          · cases congrArg Prod.fst heq
          · rw [← Except.ok.inj (congrArg Prod.fst heq)]
            exact ⟨(congrArg Prod.snd heq).symm, rfl⟩
  | _ => exact .inl rfl

/-- A SET called the handler, and this came of it: the answer is the normal
    one or the one to a last block. -/
def SetAnswered (invokeId : UInt8) (device : δ)
    (out : Except XdlmsStatus Bytes × δ) : Prop :=
  ∃ indication : SetIndication, ∃ encode : UInt8 → SetResult → Except XdlmsStatus Bytes,
    indication.invokeId = invokeId ∧
    validateDescriptor indication.descriptor = .ok () ∧
    (encode = encodeSetResponse ∨ ∃ n, encode = fun iip => encodeSetLastBlockResponse iip n) ∧
    out.2 = (handler.handleSet indication device).2 ∧
    match (handler.handleSet indication device).1 with
    | .error status => out.1 = .error status
    | .ok result =>
        out.1 = encode (makeInvokeIdAndPriority invokeId indication.options)
          { result with invokeId := invokeId }

theorem answerSet_cases (indication : SetIndication)
    (encode : UInt8 → SetResult → Except XdlmsStatus Bytes) (device : δ)
    (hencode : encode = encodeSetResponse ∨
      ∃ n, encode = fun iip => encodeSetLastBlockResponse iip n) :
    (answerSet handler indication encode device).2 = device ∨
      SetAnswered handler indication.invokeId device
        (answerSet handler indication encode device) := by
  unfold answerSet
  rcases dispatchSet_cases handler indication device with ⟨status, h⟩ | ⟨hvalid, h⟩
  · rw [h]
    exact .inl rfl
  · rw [h]
    refine .inr ⟨indication, encode, rfl, hvalid, hencode, ?_⟩
    cases handler.handleSet indication device with
    | mk result device' =>
        cases result with
        | error status => exact ⟨rfl, rfl⟩
        | ok result => exact ⟨rfl, rfl⟩

theorem processSetRequest_cases (request : Apdu.SetRequest) (blocks : SetRequestBlockState)
    (device : δ) :
    (processSetRequest handler options request blocks device).2.2 = device ∨
      SetAnswered handler (invokeIdOfSet request) device
        ((processSetRequest handler options request blocks device).1,
          (processSetRequest handler options request blocks device).2.2) := by
  have houtcome := processSetRequest_outcome handler options request blocks device
  generalize processSetRequest handler options request blocks device = out at houtcome ⊢
  cases houtcome with
  | normal iip normal data indication encoded hselection hconfirmed hencoded hindication =>
      subst hindication
      exact answerSet_cases handler _ _ device (.inl rfl)
  | firstAnswered iip normal dataBlock indication answer hexpects hlast hindication hanswer =>
      subst hindication hanswer
      exact answerSet_cases handler _ _ device (.inr ⟨1, rfl⟩)
  | nextAnswered iip dataBlock indication answer hexpects hlast hindication hanswer =>
      subst hindication hanswer
      -- The transfer has the invoke id of the block that completes it.
      rw [invokeIdOfSet, hexpects.2.1]
      exact answerSet_cases handler _ _ device (.inr ⟨dataBlock.blockNumber, rfl⟩)
  | _ => exact .inl rfl

/-- An ACTION called the handler, and this came of it. -/
def ActionAnswered (invokeId : UInt8) (device : δ)
    (out : Except XdlmsStatus Bytes × δ) : Prop :=
  ∃ indication : ActionIndication,
    indication.invokeId = invokeId ∧
    validateMethodDescriptor indication.descriptor = .ok () ∧
    out.2 = (handler.handleAction indication device).2 ∧
    match (handler.handleAction indication device).1 with
    | .error status => out.1 = .error status
    | .ok result =>
        out.1 = encodeActionResponse (makeInvokeIdAndPriority invokeId indication.options)
          { result with invokeId := invokeId }

theorem answerAction_cases (indication : ActionIndication) (device : δ) :
    (answerAction handler indication device).2 = device ∨
      ActionAnswered handler indication.invokeId device
        (answerAction handler indication device) := by
  unfold answerAction
  rcases dispatchAction_cases handler indication device with ⟨status, h⟩ | ⟨hvalid, h⟩
  · rw [h]
    exact .inl rfl
  · rw [h]
    refine .inr ⟨indication, rfl, hvalid, ?_⟩
    cases handler.handleAction indication device with
    | mk result device' =>
        cases result with
        | error status => exact ⟨rfl, rfl⟩
        | ok result => exact ⟨rfl, rfl⟩

theorem validateAndAnswerAction_cases (indication : ActionIndication) (parameter : Bytes)
    (device : δ) :
    (validateAndAnswerAction handler indication parameter device).2 = device ∨
      ActionAnswered handler indication.invokeId device
        (validateAndAnswerAction handler indication parameter device) := by
  unfold validateAndAnswerAction
  cases validateEncodedActionParameter parameter with
  | error status => exact .inl rfl
  | ok valid => exact answerAction_cases handler _ device

theorem processActionRequest_cases (request : Apdu.ActionRequest)
    (blocks : ActionRequestBlockState) (device : δ) :
    (processActionRequest handler options request blocks device).2.2 = device ∨
      ActionAnswered handler (invokeIdOfAction request) device
        ((processActionRequest handler options request blocks device).1,
          (processActionRequest handler options request blocks device).2.2) := by
  have houtcome := processActionRequest_outcome handler options request blocks device
  generalize processActionRequest handler options request blocks device = out at houtcome ⊢
  cases houtcome with
  | normal iip normal indication parameter hconfirmed hparameter hindication =>
      subst hindication
      exact answerAction_cases handler _ device
  | firstAnswered iip descriptor dataBlock indication answer hexpects hlast hindication hanswer =>
      subst hindication hanswer
      exact validateAndAnswerAction_cases handler _ _ device
  | nextAnswered iip dataBlock indication answer hexpects hlast hindication hanswer =>
      subst hindication hanswer
      -- The parameter goes in under the invoke id that its first block came with.
      rw [invokeIdOfAction, hexpects.2.1]
      exact validateAndAnswerAction_cases handler _ _ device
  | _ => exact .inl rfl

end Services

/-! ### The whole processor -/

section Processor

variable {σ δ : Type} (handler : XdlmsServerHandler δ) (options : ServiceOptions)
  (security : Option (SecurityProcessor σ))

/-- A relation that every call of the handler keeps whose descriptor the
    dispatcher lets through. -/
structure HandlerKeeps (related : δ → δ → Prop) : Prop where
  refl : ∀ device, related device device
  get : ∀ indication device, validateDescriptor indication.descriptor = .ok () →
    related device (handler.handleGet indication device).2
  set : ∀ indication device, validateDescriptor indication.descriptor = .ok () →
    related device (handler.handleSet indication device).2
  action : ∀ indication device, validateMethodDescriptor indication.descriptor = .ok () →
    related device (handler.handleAction indication device).2

theorem device_processService (related : δ → δ → Prop) (h : HandlerKeeps handler related)
    (request : Apdu.XdlmsApdu) (state : XdlmsServerState σ δ) :
    related state.device (processService handler options request state).2.device := by
  cases request with
  | getRequest request =>
      rcases processGetRequest_cases handler options request state.getBlocks state.device with
        hsame | ⟨indication, blocks, -, hvalid, -, -, -, hdevice, -⟩
      · simp only [processService, hsame]
        exact h.refl _
      · simp only [processService, hdevice]
        exact h.get indication _ hvalid
  | setRequest request =>
      rcases processSetRequest_cases handler options request state.setBlocks state.device with
        hsame | ⟨indication, encode, -, hvalid, -, hdevice, -⟩
      · simp only [processService, hsame]
        exact h.refl _
      · simp only [processService]
        rw [hdevice]
        exact h.set indication _ hvalid
  | actionRequest request =>
      rcases processActionRequest_cases handler options request state.actionBlocks
        state.device with hsame | ⟨indication, -, hvalid, hdevice, -⟩
      · simp only [processService, hsame]
        exact h.refl _
      · simp only [processService]
        rw [hdevice]
        exact h.action indication _ hvalid
  | initiateRequest apdu => exact h.refl _
  | initiateResponse apdu => exact h.refl _
  | getResponse apdu => exact h.refl _
  | setResponse apdu => exact h.refl _
  | actionResponse apdu => exact h.refl _
  | ciphered apdu => exact h.refl _

/-- The stages of a request that got past decoding. -/
theorem processRequest_of_decoded (requestApdu : Bytes) (state : XdlmsServerState σ δ)
    (request : Apdu.XdlmsApdu) (securityState : σ)
    (hdecoded : decodeRequest security requestApdu state.security =
      (.ok request, securityState)) :
    processRequest handler options security requestApdu state =
      match processService handler options request { state with security := securityState } with
      | (.error status, state) => (.error status, state)
      | (.ok plainResponse, state) =>
          ((protectResponse security plainResponse state.security).1,
            { state with security := (protectResponse security plainResponse state.security).2 })
    := by
  unfold processRequest
  generalize decodeRequest security requestApdu state.security = decoded at hdecoded ⊢
  subst hdecoded
  rfl

theorem processRequest_of_rejected (requestApdu : Bytes) (state : XdlmsServerState σ δ)
    (status : XdlmsStatus) (securityState : σ)
    (hdecoded : decodeRequest security requestApdu state.security =
      (.error status, securityState)) :
    processRequest handler options security requestApdu state =
      (.error status, { state with security := securityState }) := by
  rw [processRequest, hdecoded]

/-- What no call of the handler changes, no request changes. -/
theorem device_processRequest (related : δ → δ → Prop) (h : HandlerKeeps handler related)
    (requestApdu : Bytes) (state : XdlmsServerState σ δ) :
    related state.device
      (processRequest handler options security requestApdu state).2.device := by
  rcases hdecoded : decodeRequest security requestApdu state.security with
    ⟨status | request, securityState⟩
  · rw [processRequest_of_rejected _ _ _ _ _ _ _ hdecoded]
    exact h.refl _
  · rw [processRequest_of_decoded _ _ _ _ _ _ _ hdecoded]
    have hservice := device_processService handler options related h request
      { state with security := securityState }
    rcases hout : processService handler options request { state with security := securityState }
      with ⟨status | plainResponse, state'⟩
    · rw [hout] at hservice
      exact hservice
    · rw [hout] at hservice
      exact hservice

/-! ### The security processor of a request -/

theorem security_decodeRequest_none (requestApdu : Bytes) (securityState : σ) :
    (decodeRequest (none : Option (SecurityProcessor σ)) requestApdu securityState).2 =
      securityState := by
  unfold decodeRequest
  cases h : Apdu.decodeXdlmsApdu requestApdu with
  | error status => simp [h]
  | ok request => simp [h]

theorem security_decodeRequest_some (processor : SecurityProcessor σ) (requestApdu : Bytes)
    (securityState : σ) :
    (decodeRequest (some processor) requestApdu securityState).2 =
      (processor.unprotect requestApdu securityState).2 := by
  unfold decodeRequest
  rcases h : processor.unprotect requestApdu securityState with ⟨status | plain, after⟩
  · simp [h]
  · simp only [h]
    cases Apdu.decodeXdlmsApdu plain with
    | error status => rfl
    | ok request => rfl

/-- A request that is decoded was unprotected. -/
theorem unprotected_of_decodeRequest (processor : SecurityProcessor σ) (requestApdu : Bytes)
    (securityState : σ) (request : Apdu.XdlmsApdu)
    (h : (decodeRequest (some processor) requestApdu securityState).1 = .ok request) :
    ∃ plain, (processor.unprotect requestApdu securityState).1 = .ok plain := by
  unfold decodeRequest at h
  rcases hout : processor.unprotect requestApdu securityState with ⟨status | plain, after⟩
  · simp [hout] at h
  · exact ⟨plain, rfl⟩

theorem security_protectResponse_some (processor : SecurityProcessor σ) (plainResponse : Bytes)
    (securityState : σ) :
    (protectResponse (some processor) plainResponse securityState).2 =
      (processor.protect plainResponse securityState).2 := by
  unfold protectResponse
  rcases h : processor.protect plainResponse securityState with ⟨status | response, after⟩
  · simp [h]
  · simp [h]

/-- A response that goes out was protected. -/
theorem protected_of_protectResponse (processor : SecurityProcessor σ) (plainResponse : Bytes)
    (securityState : σ) (responseApdu : Bytes)
    (h : (protectResponse (some processor) plainResponse securityState).1 = .ok responseApdu) :
    (processor.protect plainResponse securityState).1 = .ok responseApdu := by
  unfold protectResponse at h
  rcases hout : processor.protect plainResponse securityState with ⟨status | response, after⟩
  · simp [hout] at h
  · simp only [hout, Except.ok.injEq] at h
    rw [h]

/-- Services leave the security state alone. -/
theorem security_processService (request : Apdu.XdlmsApdu) (state : XdlmsServerState σ δ) :
    (processService handler options request state).2.security = state.security := by
  cases request <;> rfl

/-- A request is unprotected once; a response to it is protected once, from the
    state that left. -/
theorem security_processRequest (requestApdu : Bytes) (state : XdlmsServerState σ δ) :
    let decoded := decodeRequest security requestApdu state.security
    let out := processRequest handler options security requestApdu state
    ((∃ status, out.1 = .error status) ∧ out.2.security = decoded.2) ∨
      ∃ request plainResponse, decoded.1 = .ok request ∧
        out.1 = (protectResponse security plainResponse decoded.2).1 ∧
        out.2.security = (protectResponse security plainResponse decoded.2).2 := by
  intro decoded out
  rcases hdecoded : decodeRequest security requestApdu state.security with
    ⟨status | request, securityState⟩
  · refine .inl ?_
    simp [decoded, out, hdecoded, processRequest_of_rejected _ _ _ _ _ _ _ hdecoded, exists_eq']
  · have hsecurity := security_processService handler options request
      { state with security := securityState }
    simp only [decoded, out, hdecoded, processRequest_of_decoded _ _ _ _ _ _ _ hdecoded]
    rcases hservice : processService handler options request
      { state with security := securityState } with ⟨status | plainResponse, state'⟩
    · rw [hservice] at hsecurity
      exact .inl ⟨⟨status, rfl⟩, hsecurity⟩
    · rw [hservice] at hsecurity
      simp only at hsecurity
      simp only [hsecurity]
      exact .inr ⟨request, plainResponse, rfl, rfl, rfl⟩

end Processor

end Xdlms

end Dlms
