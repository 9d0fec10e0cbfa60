import Dlms.Machine.Run
import Dlms.Xdlms.Dispatch
import Dlms.Xdlms.Encoding

/-!
# What a failed request leaves behind

A block transfer that a request has broken off must not be continued by a
later block, so the block state of a service is reset when a request to it
fails to decode or carries another invoke id. Every branch of the three
services that reports such a failure resets its state. Two kinds of failure are
not reported there. A request that does not decode at all is turned away in
front of the services, where nobody looks at whose tag it carries. And a normal
SET or ACTION is answered past the blocks that are being collected, so when the
handler itself reports such a status, they stay.

## Main definitions

* `addressedService`: The service whose tag an APDU carries.
* `ResetsAfterFailure`: The rule, for one transition of a run.
* `normalFailure`: The status with which a handler fails a normal request.
* `Resettable`: When the rule is kept.

## Theorems

* `processGetRequest_reset`, `processSetRequest_reset`,
  `processActionRequest_reset`: The branches of the services.
* `resetsAfterFailure_iff`: The rule is kept exactly when it can be.
* `not_resetsAfterFailure`: A truncated SET leaves a transfer active.
-/

namespace Dlms

namespace Xdlms

open Apdu (Bytes)
open Machine (Transition run transition final mem_run)

/-- The services with a block state. -/
inductive ServiceKind where
  | get
  | set
  | action
  deriving DecidableEq, Repr

/-- The request is one of the service. -/
def ServiceKind.IsKindOf (service : ServiceKind) (request : Apdu.XdlmsApdu) : Prop :=
  match service with
  | .get => ∃ get, request = .getRequest get
  | .set => ∃ set, request = .setRequest set
  | .action => ∃ action, request = .actionRequest action

/-- The service whose tag an APDU carries, whether it decodes or not. -/
def addressedService (plainRequest : Bytes) : Option ServiceKind :=
  match plainRequest with
  | [] => none
  | tag :: _ =>
      if tag = Apdu.getRequestTag then some .get
      else if tag = Apdu.setRequestTag then some .set
      else if tag = Apdu.actionRequestTag then some .action
      else none

/-- The failures that break a transfer off. -/
def isResetStatus (status : XdlmsStatus) : Bool :=
  status == .decodeFailed || status == .invokeIdMismatch

section Processor

variable {σ δ : Type}

/-- Whether a transfer of the service is in progress. -/
def XdlmsServerState.active (state : XdlmsServerState σ δ) : ServiceKind → Bool
  | .get => state.getBlocks.active
  | .set => state.setBlocks.active
  | .action => state.actionBlocks.active

/-- The request without its protection, when there is something to look at. -/
def plainRequest (security : Option (SecurityProcessor σ)) (requestApdu : Bytes)
    (securityState : σ) : Option Bytes :=
  match security with
  | none => some requestApdu
  | some processor => (processor.unprotect requestApdu securityState).1.toOption

/-- A request that fails so leaves no transfer of its service in progress. -/
def ResetsAfterFailure (security : Option (SecurityProcessor σ))
    (t : Transition Bytes (Except XdlmsStatus Bytes) (XdlmsServerState σ δ)) : Prop :=
  ∀ status plain service, t.output = .error status → isResetStatus status = true →
    plainRequest security t.input t.before.security = some plain →
    addressedService plain = some service → t.after.active service = false

variable (handler : XdlmsServerHandler δ) (options : ServiceOptions)

/-- The status with which the dispatcher and the handler behind it fail a
    normal SET or ACTION, which they are asked about whatever is collected. -/
def normalFailure (request : Apdu.XdlmsApdu) (device : δ) : Option XdlmsStatus :=
  match request with
  | .setRequest (.normal iip normal data) =>
      if normal.selection.isSome ∨ (parseServiceOptions iip options).confirmed = false then none
      else
        match encodeDataBytes data with
        | .error _ => none
        | .ok encoded =>
            match (dispatchSet handler
                { invokeId := iip &&& 0x0F
                  options := parseServiceOptions iip options
                  descriptor := toXdlmsDescriptor normal.descriptor
                  data := encoded } device).1 with
            | .error status => some status
            | .ok _ => none
  | .actionRequest (.normal iip normal) =>
      if (parseServiceOptions iip options).confirmed = false then none
      else
        let parameter : Except XdlmsStatus (Option Bytes) :=
          match normal.invocationParameter with
          | none => .ok none
          | some data => some <$> encodeDataBytes data
        match parameter with
        | .error _ => none
        | .ok parameter =>
            match (dispatchAction handler
                { invokeId := iip &&& 0x0F
                  options := parseServiceOptions iip options
                  descriptor := toXdlmsMethodDescriptor normal.descriptor
                  parameter := parameter } device).1 with
            | .error status => some status
            | .ok _ => none
  | _ => none

/-- What the rule takes: no transfer of the service was in progress, or the
    request decodes and its handler does not itself fail a normal one so. -/
def Resettable (security : Option (SecurityProcessor σ)) (requestApdu : Bytes)
    (state : XdlmsServerState σ δ) : Prop :=
  ∀ plain service, plainRequest security requestApdu state.security = some plain →
    addressedService plain = some service → state.active service = true →
      ∃ request, Apdu.decodeXdlmsApdu plain = .ok request ∧
        ∀ status, normalFailure handler options request state.device = some status →
          isResetStatus status = false

end Processor

/-! ### Encoding fails otherwise -/

section Encoding

variable (iip : UInt8) (status : XdlmsStatus)

theorem status_of_encodeResponse (response : Apdu.XdlmsApdu)
    (h : encodeResponse response = .error status) : status = .encodeFailed := by
  unfold encodeResponse at h
  cases hencoded : Apdu.encodeXdlmsApdu response with
  | ok bytes => simp [hencoded] at h
  | error cause =>
      simp only [hencoded, Except.error.injEq] at h
      exact h.symm

theorem status_of_decodeEncodedData (data : Bytes)
    (h : decodeEncodedData data = .error status) : status = .encodeFailed := by
  unfold decodeEncodedData at h
  split at h
  · exact (Except.error.inj h).symm
  · cases hdecoded : Apdu.decodeDlmsData data Apdu.maximumDataDepth with
    | ok value => simp [hdecoded] at h
    | error cause =>
        simp only [hdecoded, Except.error.injEq] at h
        exact h.symm

theorem status_of_encodeDataBytes (data : Apdu.DlmsData)
    (h : encodeDataBytes data = .error status) : status = .encodeFailed := by
  unfold encodeDataBytes at h
  cases hencoded : Codec.runEmitter dataBufferSize (Apdu.encodeDlmsData data) with
  | ok bytes => simp [hencoded] at h
  | error cause =>
      simp only [hencoded, Except.error.injEq] at h
      exact h.symm

theorem status_of_encodeActionResponse (result : ActionResult)
    (h : encodeActionResponse iip result = .error status) : status = .encodeFailed := by
  unfold encodeActionResponse at h
  split at h
  · cases hdecoded : decodeEncodedData result.data with
    | error cause =>
        have hcause := status_of_decodeEncodedData cause result.data hdecoded
        simp only [hdecoded, bind, Except.bind, Except.error.injEq] at h
        rw [← h, hcause]
    | ok value =>
        simp only [hdecoded, bind, Except.bind] at h
        exact status_of_encodeResponse status _ h
  · exact status_of_encodeResponse status _ h

end Encoding

/-! ### The branches of the services -/

section Services

variable {δ : Type} (handler : XdlmsServerHandler δ) (options : ServiceOptions) (device : δ)
  (status : XdlmsStatus)

/-- A block that cannot be sent ends its transfer. -/
theorem inactive_of_sendNext (blocks : GetResponseBlockState)
    (hfailed : (sendNextGetResponseBlock blocks).1 = .error status) :
    (sendNextGetResponseBlock blocks).2.active = false := by
  unfold sendNextGetResponseBlock at hfailed ⊢
  split
  · rfl
  · rename_i hsend
    rw [if_neg hsend] at hfailed
    cases hencoded : encodeGetDataBlockResponse
        (makeInvokeIdAndPriority blocks.invokeId blocks.options) (nextGetResponseBlock blocks) with
    | error cause => simp [hencoded]
    | ok responseApdu =>
        simp only [hencoded] at hfailed
        split at hfailed
        · cases hfailed
        · cases hfailed

/-- Every failed GET leaves no GET transfer in progress, save an unsupported
    one. -/
theorem processGetRequest_reset (request : Apdu.GetRequest) (blocks : GetResponseBlockState)
    (hfailed : (processGetRequest handler options request blocks device).1 = .error status)
    (hreset : isResetStatus status = true) :
    (processGetRequest handler options request blocks device).2.1.active = false := by
  have houtcome := processGetRequest_outcome handler options request blocks device
  generalize processGetRequest handler options request blocks device = out at houtcome hfailed ⊢
  cases houtcome with
  | withList iip list =>
      rw [← Except.error.inj hfailed] at hreset
      exact absurd hreset (by decide)
  | nextRefused iip blockNumber cause after hexpects hafter hinactive => exact hinactive
  | next iip blockNumber => exact inactive_of_sendNext status blocks hfailed
  | normalRefused iip normal cause after hrefused hafter hinactive => exact hinactive
  | normal iip normal indication answer after hidle hselection hconfirmed hindication hanswer =>
      rcases hanswer with ⟨cause, -, rfl⟩ | ⟨result, -, rfl⟩
      · exact hidle
      · -- Nothing was in progress, so only a new transfer could be, and it is not.
        simp only at hfailed ⊢
        unfold encodeGetResponseOrStartBlocks at hfailed ⊢
        split_ifs at hfailed ⊢
        · exact hidle
        · exact hidle
        · exact hidle
        · exact hidle
        · exact inactive_of_sendNext status _ hfailed

/-- Every failed SET leaves no SET transfer in progress, save an unsupported one
    and a normal one that the handler has failed. -/
theorem processSetRequest_reset (request : Apdu.SetRequest) (blocks : SetRequestBlockState)
    (hfailed : (processSetRequest handler options request blocks device).1 = .error status)
    (hreset : isResetStatus status = true) :
    (processSetRequest handler options request blocks device).2.1.active = false ∨
      normalFailure handler options (.setRequest request) device = some status := by
  have hunsupported (h : status = .unsupportedFeature) : False := by
    rw [h] at hreset
    exact absurd hreset (by decide)
  have houtcome := processSetRequest_outcome handler options request blocks device
  generalize processSetRequest handler options request blocks device = out at houtcome hfailed ⊢
  cases houtcome with
  | withList iip list values => exact (hunsupported (Except.error.inj hfailed).symm).elim
  | withListAndFirstDataBlock iip list dataBlock =>
      exact (hunsupported (Except.error.inj hfailed).symm).elim
  | normalRefused iip normal data cause hstatus =>
      rw [Except.error.inj hfailed] at hstatus
      rcases hstatus with hstatus | hencoded
      · exact (hunsupported hstatus).elim
      · rw [status_of_encodeDataBytes status data hencoded] at hreset
        exact absurd hreset (by decide)
  | normal iip normal data indication encoded hselection hconfirmed hencoded hindication =>
      refine .inr ?_
      subst hindication
      simp only [answerSet] at hfailed
      simp only [normalFailure, hselection, hconfirmed, hencoded, Bool.false_eq_true,
        Bool.true_eq_false, or_self, if_false]
      -- The handler's answer is always encoded.
      rcases hdispatched : dispatchSet handler
        { invokeId := iip &&& 0x0F
          options := parseServiceOptions iip options
          descriptor := toXdlmsDescriptor normal.descriptor
          data := encoded } device with ⟨cause | result, after⟩
      · simp only [hdispatched, Except.error.injEq] at hfailed
        simp [hfailed]
      · simp [hdispatched, encodeSetResponse_eq] at hfailed
  | firstRefused iip normal dataBlock cause after hexpects hafter hinactive => exact .inl hinactive
  | firstAcknowledged iip normal dataBlock =>
      simp [encodeSetBlockAckResponse_eq] at hfailed
  | firstAnswered iip normal dataBlock indication answer hexpects => exact .inl hexpects.1
  | nextRefused iip dataBlock cause after hexpects hafter hinactive => exact .inl hinactive
  | nextAcknowledged iip dataBlock =>
      simp [encodeSetBlockAckResponse_eq] at hfailed
  | nextAnswered iip dataBlock => exact .inl rfl

/-- An ACTION that fails so was failed by the dispatcher. -/
theorem dispatched_of_answerAction (indication : ActionIndication)
    (hfailed : (answerAction handler indication device).1 = .error status)
    (hreset : isResetStatus status = true) :
    (dispatchAction handler indication device).1 = .error status := by
  unfold answerAction at hfailed
  rcases hdispatched : dispatchAction handler indication device with ⟨cause | result, after⟩
  · simp only [hdispatched, Except.error.injEq] at hfailed
    rw [hfailed]
  · simp only [hdispatched] at hfailed
    rw [status_of_encodeActionResponse _ status result hfailed] at hreset
    exact absurd hreset (by decide)

/-- The same for ACTION. -/
theorem processActionRequest_reset (request : Apdu.ActionRequest) (blocks : ActionRequestBlockState)
    (hfailed : (processActionRequest handler options request blocks device).1 = .error status)
    (hreset : isResetStatus status = true) :
    (processActionRequest handler options request blocks device).2.1.active = false ∨
      normalFailure handler options (.actionRequest request) device = some status := by
  have hunsupported (h : status = .unsupportedFeature) : False := by
    rw [h] at hreset
    exact absurd hreset (by decide)
  have houtcome := processActionRequest_outcome handler options request blocks device
  generalize processActionRequest handler options request blocks device = out
    at houtcome hfailed ⊢
  cases houtcome with
  | nextPblock iip blockNumber => exact (hunsupported (Except.error.inj hfailed).symm).elim
  | withList iip list => exact (hunsupported (Except.error.inj hfailed).symm).elim
  | withListAndFirstPblock iip list dataBlock =>
      exact (hunsupported (Except.error.inj hfailed).symm).elim
  | normalRefused iip normal cause hstatus =>
      rw [Except.error.inj hfailed] at hstatus
      rcases hstatus with hstatus | ⟨data, -, hencoded⟩
      · exact (hunsupported hstatus).elim
      · rw [status_of_encodeDataBytes status data hencoded] at hreset
        exact absurd hreset (by decide)
  | normal iip normal indication parameter hconfirmed hparameter hindication =>
      refine .inr ?_
      subst hindication
      have hdispatched := dispatched_of_answerAction handler device status _ hfailed hreset
      rcases hparameter with ⟨hnone, rfl⟩ | ⟨data, encoded, hsome, hencoded, rfl⟩
      · simp [normalFailure, hconfirmed, hnone, hdispatched]
      · simp [normalFailure, hconfirmed, hsome, hencoded, hdispatched, Functor.map, Except.map]
  | firstRefused iip descriptor dataBlock cause after hexpects hafter hinactive =>
      exact .inl hinactive
  | firstAcknowledged iip descriptor dataBlock =>
      simp [encodeActionNextPblockResponse_eq] at hfailed
  | firstAnswered iip descriptor dataBlock indication answer hexpects => exact .inl hexpects.1
  | nextRefused iip dataBlock cause after hexpects hafter hinactive => exact .inl hinactive
  | nextAcknowledged iip dataBlock =>
      simp [encodeActionNextPblockResponse_eq] at hfailed
  | nextAnswered iip dataBlock => exact .inl rfl

/-- A normal request that its handler fails leaves every transfer as it was. -/
theorem processService_of_normalFailure {σ : Type} (request : Apdu.XdlmsApdu)
    (state : XdlmsServerState σ δ)
    (hfailure : normalFailure handler options request state.device = some status) :
    (processService handler options request state).1 = .error status ∧
      (processService handler options request state).2.setBlocks = state.setBlocks ∧
      (processService handler options request state).2.actionBlocks = state.actionBlocks := by
  unfold normalFailure at hfailure
  -- A SET or an ACTION in one request; neither is part of a transfer.
  split at hfailure
  · rename_i iip normal data
    split at hfailure
    · cases hfailure
    · rename_i hallowed
      rw [not_or] at hallowed
      rcases hallowed with ⟨hselection, hconfirmed⟩
      rw [Bool.not_eq_false] at hconfirmed
      cases hencoded : encodeDataBytes data with
      | error cause => simp [hencoded] at hfailure
      | ok encoded =>
          simp only [hencoded] at hfailure
          simp only [processService, processSetRequest, hselection, hconfirmed, hencoded,
            Bool.false_eq_true, if_false, Bool.not_true, answerSet, and_true]
          rcases hdispatched : dispatchSet handler
            { invokeId := iip &&& 0x0F
              options := parseServiceOptions iip options
              descriptor := toXdlmsDescriptor normal.descriptor
              data := encoded } state.device with ⟨cause | result, after⟩
          · simp only [hdispatched, Option.some.injEq] at hfailure
            simp [hfailure]
          · simp [hdispatched] at hfailure
  · rename_i iip normal
    split at hfailure
    · cases hfailure
    · rename_i hconfirmed
      rw [Bool.not_eq_false] at hconfirmed
      cases hparameter : normal.invocationParameter with
      | none =>
          simp only [hparameter] at hfailure
          simp only [processService, processActionRequest, hconfirmed, hparameter, Bool.not_true,
            Bool.false_eq_true, if_false, answerAction, and_true]
          rcases hdispatched : dispatchAction handler
            { invokeId := iip &&& 0x0F
              options := parseServiceOptions iip options
              descriptor := toXdlmsMethodDescriptor normal.descriptor
              parameter := none } state.device with ⟨cause | result, after⟩
          · simp only [hdispatched, Option.some.injEq] at hfailure
            simp [hfailure]
          · simp [hdispatched] at hfailure
      | some data =>
          simp only [hparameter] at hfailure
          cases hencoded : encodeDataBytes data with
          | error cause =>
              simp [hencoded, Functor.map, Except.map] at hfailure
          | ok encoded =>
              simp only [hencoded, Functor.map, Except.map] at hfailure
              simp only [processService, processActionRequest, hconfirmed, hparameter, hencoded,
                Bool.not_true, Bool.false_eq_true, if_false, answerAction, and_true]
              rcases hdispatched : dispatchAction handler
                { invokeId := iip &&& 0x0F
                  options := parseServiceOptions iip options
                  descriptor := toXdlmsMethodDescriptor normal.descriptor
                  parameter := some encoded } state.device with ⟨cause | result, after⟩
              · simp only [hdispatched, Option.some.injEq] at hfailure
                simp [hfailure]
              · simp [hdispatched] at hfailure
  · cases hfailure

end Services

/-! ### One request -/

section Requests

variable {σ δ : Type} (handler : XdlmsServerHandler δ) (options : ServiceOptions)
  (security : Option (SecurityProcessor σ)) (requestApdu plain : Bytes)

/-- The decoder is given the request without its protection. -/
theorem decodeRequest_of_plain (securityState : σ)
    (hplain : plainRequest security requestApdu securityState = some plain) :
    ∃ after, decodeRequest security requestApdu securityState =
      ((Apdu.decodeXdlmsApdu plain).mapError fun _ => .decodeFailed, after) := by
  unfold plainRequest at hplain
  unfold decodeRequest
  cases security with
  | none =>
      rw [Option.some.inj hplain]
      refine ⟨securityState, ?_⟩
      dsimp only
      cases Apdu.decodeXdlmsApdu plain with
      | error cause => rfl
      | ok request => rfl
  | some processor =>
      rcases hout : processor.unprotect requestApdu securityState with ⟨cause | bytes, after⟩
      · simp [hout, Except.toOption] at hplain
      · simp only [hout, Except.toOption, Option.some.injEq] at hplain
        simp only [hout, hplain]
        cases Apdu.decodeXdlmsApdu plain with
        | error cause => exact ⟨_, rfl⟩
        | ok request => exact ⟨_, rfl⟩

/-- What decodes as a request of a service carries its tag. -/
theorem kind_of_addressedService (service : ServiceKind) (request : Apdu.XdlmsApdu)
    (hservice : addressedService plain = some service)
    (hdecoded : Apdu.decodeXdlmsApdu plain = .ok request) :
    service.IsKindOf request := by
  cases plain with
  | nil => exact absurd hservice (by simp [addressedService])
  | cons tag payload =>
      simp only [addressedService] at hservice
      simp only [Apdu.decodeXdlmsApdu] at hdecoded
      split at hservice
      · -- The other tags are other numbers, so the decoder takes the branch of this one.
        rename_i htag
        rw [← Option.some.inj hservice]
        subst htag
        rw [if_neg (by decide), if_neg (by decide), if_pos rfl] at hdecoded
        cases hbody : Apdu.decodeGetRequest (Apdu.getRequestTag :: payload)
            Apdu.maximumDataDepth with
        | error cause => simp [hbody, Functor.map, Except.map] at hdecoded
        | ok get =>
            simp only [hbody, Functor.map, Except.map, Except.ok.injEq] at hdecoded
            exact ⟨get, hdecoded.symm⟩
      · split at hservice
        · rename_i htag
          rw [← Option.some.inj hservice]
          subst htag
          rw [if_neg (by decide), if_neg (by decide), if_neg (by decide), if_neg (by decide),
            if_pos rfl] at hdecoded
          cases hbody : Apdu.decodeSetRequest (Apdu.setRequestTag :: payload)
              Apdu.maximumDataDepth with
          | error cause => simp [hbody, Functor.map, Except.map] at hdecoded
          | ok set =>
              simp only [hbody, Functor.map, Except.map, Except.ok.injEq] at hdecoded
              exact ⟨set, hdecoded.symm⟩
        · split at hservice
          · rename_i htag
            rw [← Option.some.inj hservice]
            subst htag
            rw [if_neg (by decide), if_neg (by decide), if_neg (by decide), if_neg (by decide),
              if_neg (by decide), if_neg (by decide), if_pos rfl] at hdecoded
            cases hbody : Apdu.decodeActionRequest (Apdu.actionRequestTag :: payload)
                Apdu.maximumDataDepth with
            | error cause => simp [hbody, Functor.map, Except.map] at hdecoded
            | ok action =>
                simp only [hbody, Functor.map, Except.map, Except.ok.injEq] at hdecoded
                exact ⟨action, hdecoded.symm⟩
          · cases hservice

variable (state : XdlmsServerState σ δ)
  (hplain : plainRequest security requestApdu state.security = some plain)
include hplain

/-- A request that does not decode changes no block state. -/
theorem processRequest_undecodable (cause : Apdu.ApduStatus)
    (hdecoded : Apdu.decodeXdlmsApdu plain = .error cause) :
    (processRequest handler options security requestApdu state).1 = .error .decodeFailed ∧
      ∀ service, (processRequest handler options security requestApdu state).2.active service =
        state.active service := by
  rcases decodeRequest_of_plain security requestApdu plain state.security hplain with
    ⟨securityState, hout⟩
  rw [hdecoded] at hout
  rw [processRequest_of_rejected _ _ _ _ _ _ _ hout]
  refine ⟨rfl, ?_⟩
  intro service
  cases service with
  | get => rfl
  | set => rfl
  | action => rfl

/-- A request that decodes is left to its service, and a failure of the service
    is the failure of the request. -/
theorem processRequest_decodable (request : Apdu.XdlmsApdu)
    (hdecoded : Apdu.decodeXdlmsApdu plain = .ok request) :
    ∃ securityState : σ,
      (∀ service, (processRequest handler options security requestApdu state).2.active service =
        (processService handler options request
          { state with security := securityState }).2.active service) ∧
      ∀ status, isResetStatus status = true →
        ((processRequest handler options security requestApdu state).1 = .error status ↔
          (processService handler options request
            { state with security := securityState }).1 = .error status) := by
  rcases decodeRequest_of_plain security requestApdu plain state.security hplain with
    ⟨securityState, hout⟩
  rw [hdecoded] at hout
  refine ⟨securityState, ?_⟩
  rw [processRequest_of_decoded _ _ _ _ _ _ _ hout]
  rcases processService handler options request { state with security := securityState } with
    ⟨cause | response, after⟩
  · exact ⟨fun service => rfl, fun status hreset => Iff.rfl⟩
  · refine ⟨?_, ?_⟩
    · intro service
      cases service with
      | get => rfl
      | set => rfl
      | action => rfl
    · -- What fails behind a response is its protection.
      intro status hreset
      simp only [reduceCtorEq, iff_false]
      intro hfailed
      unfold protectResponse at hfailed
      cases security with
      | none => cases hfailed
      | some processor =>
          rcases hprotect : processor.protect response after.security with
            ⟨cause | responseApdu, securityAfter⟩
          · simp only [hprotect, Except.error.injEq] at hfailed
            rw [← hfailed] at hreset
            exact absurd hreset (by decide)
          · simp [hprotect] at hfailed

end Requests

/-! ### Every run -/

section Runs

variable {σ δ : Type} (handler : XdlmsServerHandler δ) (options : ServiceOptions)
  (security : Option (SecurityProcessor σ))

/-- One request keeps the rule exactly when it can be kept. -/
theorem resetsAfterFailure_transition (requestApdu : Bytes) (state : XdlmsServerState σ δ) :
    ResetsAfterFailure security
        (transition (processRequest handler options security) requestApdu state) ↔
      Resettable handler options security requestApdu state := by
  simp only [ResetsAfterFailure, Resettable, transition]
  constructor
  · intro hresets plain service hplain hservice hactive
    cases hdecoded : Apdu.decodeXdlmsApdu plain with
    | error cause =>
        -- The request fails in front of the services, and the transfer goes on.
        rcases processRequest_undecodable handler options security requestApdu plain state hplain
          cause hdecoded with ⟨hfailed, hsame⟩
        have hinactive := hresets _ plain service hfailed rfl hplain hservice
        rw [hsame, hactive] at hinactive
        exact absurd hinactive (by decide)
    | ok request =>
        refine ⟨request, rfl, ?_⟩
        intro status hfailure
        by_contra hreset
        rw [Bool.not_eq_false] at hreset
        rcases processRequest_decodable handler options security requestApdu plain state hplain
          request hdecoded with ⟨securityState, hsame, hstatus⟩
        rcases processService_of_normalFailure handler options status request
          { state with security := securityState } hfailure with ⟨hfailed, hset, haction⟩
        have hinactive := hresets status plain service ((hstatus status hreset).mpr hfailed) hreset
          hplain hservice
        rw [hsame] at hinactive
        have hkind := kind_of_addressedService plain service request hservice hdecoded
        cases service with
        | get =>
            -- A GET is no normal request of the other two services.
            rcases hkind with ⟨get, rfl⟩
            exact absurd hfailure (by simp [normalFailure])
        | set =>
            simp only [XdlmsServerState.active, hset] at hinactive hactive
            rw [hactive] at hinactive
            exact absurd hinactive (by decide)
        | action =>
            simp only [XdlmsServerState.active, haction] at hinactive hactive
            rw [hactive] at hinactive
            exact absurd hinactive (by decide)
  · intro hresettable status plain service hfailed hreset hplain hservice
    cases hdecoded : Apdu.decodeXdlmsApdu plain with
    | error cause =>
        rw [(processRequest_undecodable handler options security requestApdu plain state hplain
          cause hdecoded).2 service]
        by_contra hactive
        rw [Bool.not_eq_false] at hactive
        rcases hresettable plain service hplain hservice hactive with ⟨request, hrequest, -⟩
        rw [hdecoded] at hrequest
        cases hrequest
    | ok request =>
        rcases processRequest_decodable handler options security requestApdu plain state hplain
          request hdecoded with ⟨securityState, hsame, hstatus⟩
        rw [hsame]
        have hservicefailed := (hstatus status hreset).mp hfailed
        -- Either the service has reset its state, or its handler has failed a normal request.
        have hnormal : ∀ failure, normalFailure handler options request state.device =
            some failure → isResetStatus failure = true → state.active service = false := by
          intro failure hfailure hbreaks
          by_contra hactive
          rw [Bool.not_eq_false] at hactive
          rcases hresettable plain service hplain hservice hactive with ⟨other, hother, hnot⟩
          rw [hdecoded] at hother
          rw [← Except.ok.inj hother] at hnot
          rw [hnot failure hfailure] at hbreaks
          exact absurd hbreaks Bool.false_ne_true
        have hkind := kind_of_addressedService plain service request hservice hdecoded
        cases service with
        | get =>
            rcases hkind with ⟨get, rfl⟩
            exact processGetRequest_reset handler options _ status get _ hservicefailed hreset
        | set =>
            rcases hkind with ⟨set, rfl⟩
            rcases processSetRequest_reset handler options _ status set _ hservicefailed hreset
              with hinactive | hfailure
            · exact hinactive
            · have hset := (processService_of_normalFailure handler options status
                (.setRequest set) { state with security := securityState } hfailure).2.1
              simp only [XdlmsServerState.active, hset]
              exact hnormal status hfailure hreset
        | action =>
            rcases hkind with ⟨action, rfl⟩
            rcases processActionRequest_reset handler options _ status action _ hservicefailed
              hreset with hinactive | hfailure
            · exact hinactive
            · have haction := (processService_of_normalFailure handler options status
                (.actionRequest action) { state with security := securityState } hfailure).2.2
              simp only [XdlmsServerState.active, haction]
              exact hnormal status hfailure hreset

/-- In every run, a request keeps the rule exactly when no transfer of its
    service was in progress, or it decodes and its handler does not itself fail
    a normal one with such a status. -/
theorem resetsAfterFailure_iff (requests : List Bytes) (state : XdlmsServerState σ δ) :
    ∀ t ∈ run (processRequest handler options security) requests state,
      ResetsAfterFailure security t ↔ Resettable handler options security t.input t.before := by
  intro t ht
  rcases mem_run _ requests state t ht with ⟨first, request, second, -, rfl⟩
  exact resetsAfterFailure_transition handler options security request _

end Runs

/-! ### A truncated request in the middle of a transfer -/

/-- A handler that takes every value and keeps the last one. -/
def keepingHandler : XdlmsServerHandler Bytes where
  handleGet := fun _ device => (.error .unsupportedFeature, device)
  handleSet := fun indication _ =>
    (.ok { invokeId := indication.invokeId, accessResult := 0 }, indication.data)
  handleAction := fun _ device => (.error .unsupportedFeature, device)

/-- The first block of a SET, a SET that ends after its tag, and the last block. -/
def interruptedSet : List Bytes :=
  [[0xC1, 0x02, 0xC1, 0x00, 0x01, 0x00, 0x00, 0x60, 0x01, 0x00, 0xFF, 0x02, 0x00, 0x00, 0x00, 0x00,
      0x00, 0x01, 0x02, 0x09, 0x02],
    [0xC1],
    [0xC1, 0x03, 0xC1, 0x01, 0x00, 0x00, 0x00, 0x02, 0x02, 0x41, 0x42]]

/-- The first of them keeps the rule exactly when it can be kept. -/
theorem resetsAfterFailure_iff_interrupted :
    ∃ t ∈ run (processRequest keepingHandler defaultServiceOptions
        (none : Option (SecurityProcessor Unit))) interruptedSet { security := (), device := [] },
      (ResetsAfterFailure none t ↔
        Resettable keepingHandler defaultServiceOptions none t.input t.before) :=
  ⟨_, List.mem_cons_self, resetsAfterFailure_iff keepingHandler defaultServiceOptions none
    interruptedSet _ _ List.mem_cons_self⟩

/-- The truncated request fails to decode and leaves the transfer in progress,
    and the last block completes it. -/
theorem not_resetsAfterFailure :
    (∃ t ∈ run (processRequest keepingHandler defaultServiceOptions
        (none : Option (SecurityProcessor Unit))) interruptedSet { security := (), device := [] },
      ¬ ResetsAfterFailure none t) ∧
      (final (processRequest keepingHandler defaultServiceOptions
        (none : Option (SecurityProcessor Unit))) interruptedSet
          { security := (), device := [] }).device = [0x09, 0x02, 0x41, 0x42] := by
  constructor
  · refine ⟨_, List.mem_cons_of_mem _ List.mem_cons_self, ?_⟩
    intro hresets
    have hinactive := hresets .decodeFailed [0xC1] .set (by decide +kernel) rfl rfl rfl
    exact absurd hinactive (by decide +kernel)
  · decide +kernel

end Xdlms

end Dlms
