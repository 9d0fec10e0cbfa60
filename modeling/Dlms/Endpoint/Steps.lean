import Dlms.Endpoint.Server
import Dlms.Machine.Pool
import Dlms.Xdlms.Dispatch

/-!
# What a call of an endpoint can do

The calls of an endpoint, taken apart once. `Steps` has a case for every way a
call can end, with the guards that lead there and the state it leaves, and
`HandlesReply` does the same for the reply to a challenge. Everything that is
proved about runs of an endpoint goes through these two, and no later module
looks at the branches of a call again.

## Main definitions

* `Steps`: What a call can do.
* `HandlesReply`: What the handling of a reply can do.
* `machineStep`: A call as a step of a machine, with the state of the handler.

## Theorems

* `steps_step`: A call does one of these things.
* `handlesReply_handleHlsReply`: So does the handling of a reply.
* `service_of_event`, `served_of_device`: When a request was served.
-/

namespace Dlms

namespace Endpoint

open Apdu (Bytes)
open Association (AssociationServer)
open Profile (ProfileStatus)
open Security (CipheredApduState SystemTitle)
open Server (ServerContext)
open Xdlms (SecurityProcessor XdlmsServerHandler)

namespace ServerEndpoint

variable (ciphers : Ciphers) (options : ServerEndpointOptions)

/-! ### The reply -/

theorem plainRequestOf_of_plain (requestApdu : Bytes) (endpoint : ServerEndpoint)
    (hplain : securityProcessor ciphers options = none) :
    plainRequestOf ciphers options requestApdu endpoint = (requestApdu, endpoint) := by
  unfold plainRequestOf
  rw [hplain]

/-- With ciphering the request is unprotected, right or not. -/
theorem plainRequestOf_of_ciphered (requestApdu : Bytes) (endpoint : ServerEndpoint)
    (processor : SecurityProcessor CipheredApduState)
    (hciphered : securityProcessor ciphers options = some processor) :
    (plainRequestOf ciphers options requestApdu endpoint).2 =
      { endpoint with security := (processor.unprotect requestApdu endpoint.security).2 } := by
  unfold plainRequestOf
  rw [hciphered]
  rcases h : processor.unprotect requestApdu endpoint.security with ⟨status | plain, security⟩
  · simp [h]
  · simp [h]

/-- Only the security state changes before a reply is looked at. -/
theorem plainRequestOf_frame (requestApdu : Bytes) (endpoint : ServerEndpoint) :
    ∃ security, (plainRequestOf ciphers options requestApdu endpoint).2 =
      { endpoint with security := security } := by
  cases h : securityProcessor ciphers options with
  | none =>
      rw [plainRequestOf_of_plain ciphers options requestApdu endpoint h]
      exact ⟨endpoint.security, rfl⟩
  | some processor =>
      rw [plainRequestOf_of_ciphered ciphers options requestApdu endpoint processor h]
      exact ⟨_, rfl⟩

/-- What the handling of a reply can do: nothing when none is awaited, nothing
    more than unprotect when the request is no reply, and otherwise refuse the
    reply or answer it. -/
inductive HandlesReply (requestApdu : Bytes) (endpoint : ServerEndpoint) :
    Option HlsOutcome × ServerEndpoint → Prop
  | idle
      (hidle : endpoint.hlsPending = false ∨ endpoint.hls = none ∨ requestApdu = []) :
      HandlesReply requestApdu endpoint (none, endpoint)
  | other
      (hpending : endpoint.hlsPending = true)
      (hother : hlsReplyOf (plainRequestOf ciphers options requestApdu endpoint).1 = none) :
      HandlesReply requestApdu endpoint
        (none, (plainRequestOf ciphers options requestApdu endpoint).2)
  | refused (hls after : HlsStrategy) (invokeIdAndPriority : UInt8)
      (clientResponse : Option Bytes) (outcome : HlsOutcome)
      (hpending : endpoint.hlsPending = true)
      (hhls : endpoint.hls = some hls)
      (hreply : hlsReplyOf (plainRequestOf ciphers options requestApdu endpoint).1 =
        some (invokeIdAndPriority, clientResponse))
      (hanswer : answerHlsReply ciphers invokeIdAndPriority clientResponse hls =
        (outcome, after))
      (hrefused : ∀ responseApdu, outcome.response ≠ .ok responseApdu) :
      HandlesReply requestApdu endpoint
        (some outcome,
          { (plainRequestOf ciphers options requestApdu endpoint).2 with hls := some after })
  | answered (hls after : HlsStrategy) (invokeIdAndPriority : UInt8)
      (clientResponse : Option Bytes) (serverResponse responseApdu : Bytes)
      (hpending : endpoint.hlsPending = true)
      (hhls : endpoint.hls = some hls)
      (hreply : hlsReplyOf (plainRequestOf ciphers options requestApdu endpoint).1 =
        some (invokeIdAndPriority, clientResponse))
      (hanswer : answerHlsReply ciphers invokeIdAndPriority clientResponse hls =
        (.answered serverResponse (.ok responseApdu), after)) :
      HandlesReply requestApdu endpoint
        (some (.answered serverResponse (.ok responseApdu)),
          { (plainRequestOf ciphers options requestApdu endpoint).2 with
            hls := some after
            hlsPending := false
            context := authenticatedContext options
              (plainRequestOf ciphers options requestApdu endpoint).2 })

theorem handlesReply_handleHlsReply (requestApdu : Bytes) (endpoint : ServerEndpoint) :
    HandlesReply ciphers options requestApdu endpoint
      (handleHlsReply ciphers options requestApdu endpoint) := by
  unfold handleHlsReply
  cases hhls : endpoint.hls with
  | none => exact .idle (.inr (.inl hhls))
  | some hls =>
      simp only
      by_cases hidle : !endpoint.hlsPending ∨ requestApdu = []
      · rw [if_pos hidle]
        rcases hidle with hpending | hempty
        · exact .idle (.inl (by simpa only [Bool.not_eq_true'] using hpending))
        · exact .idle (.inr (.inr hempty))
      · rw [if_neg hidle]
        have hpending : endpoint.hlsPending = true := by
          simp only [Bool.not_eq_true', not_or, Bool.not_eq_false] at hidle
          exact hidle.1
        -- The endpoint waits for a reply; an APDU that is none goes on to the service.
        cases hreply : hlsReplyOf (plainRequestOf ciphers options requestApdu endpoint).1 with
        | none => exact .other hpending hreply
        | some reply =>
            rcases reply with ⟨invokeIdAndPriority, clientResponse⟩
            simp only
            cases hanswer : answerHlsReply ciphers invokeIdAndPriority clientResponse hls with
            | mk outcome after =>
                cases outcome with
                | malformed =>
                    exact .refused hls after _ _ _ hpending hhls hreply hanswer
                      (fun _ h => absurd h (by simp [HlsOutcome.response]))
                | rejected status =>
                    exact .refused hls after _ _ _ hpending hhls hreply hanswer
                      (fun _ h => absurd h (by simp [HlsOutcome.response]))
                | unanswered status =>
                    exact .refused hls after _ _ _ hpending hhls hreply hanswer
                      (fun _ h => absurd h (by simp [HlsOutcome.response]))
                | answered serverResponse responseApdu =>
                    cases responseApdu with
                    | error status =>
                        exact .refused hls after _ _ _ hpending hhls hreply hanswer
                          (fun _ h => absurd h (by simp [HlsOutcome.response]))
                    | ok responseApdu =>
                        exact .answered hls after _ _ _ _ hpending hhls hreply hanswer

/-! ### Any call -/

variable {δ : Type} (handler : ServerContext → XdlmsServerHandler δ)

/-- The endpoint a negotiation leaves. -/
def negotiated (server : AssociationServer) (hls : Option HlsStrategy)
    (remoteSystemTitle : SystemTitle) (endpoint : ServerEndpoint) : ServerEndpoint :=
  { endpoint with
    isOpen := true
    association := some server
    hls := hls
    hlsPending := hls.isSome
    context :=
      if hls.isSome then ServerContext.clearAssociationContext
      else ServerContext.setAssociationContext (makeNegotiatedContext options server.result)
    security :=
      { endpoint.security with
        context :=
          { endpoint.security.context with remoteSystemTitle := remoteSystemTitle } } }

/-- What a call can do. -/
inductive Steps (endpoint : ServerEndpoint) (device : δ) :
    EndpointInput → EndpointOutput × ServerEndpoint × δ → Prop
  | nothing (input : EndpointInput) (status : Except EndpointStatus Unit) :
      Steps endpoint device input (⟨status, .nothing⟩, endpoint, device)
  | notNegotiated (environment : OpenEnvironment) (status : EndpointStatus)
      (hls : Option HlsStrategy) (association : Option AssociationServer)
      (hclosed : endpoint.isOpen = false) :
      Steps endpoint device (.openEndpoint environment)
        (⟨.error status, .nothing⟩, { endpoint with hls := hls, association := association },
          device)
  | opened (environment : OpenEnvironment)
      (hclosed : endpoint.isOpen = false) (hvalid : validateOpen options = .ok ())
      (hnegotiate : options.negotiateAssociation = false) :
      Steps endpoint device (.openEndpoint environment)
        (⟨.ok (), .opened⟩, { endpoint with isOpen := true }, device)
  | negotiated (environment : OpenEnvironment) (server : AssociationServer)
      (hls : Option HlsStrategy) (remoteSystemTitle : SystemTitle)
      (hclosed : endpoint.isOpen = false) (hvalid : validateOpen options = .ok ())
      (hnegotiate : options.negotiateAssociation = true)
      (haccept : acceptAssociation options environment.accept = (.ok server, hls)) :
      Steps endpoint device (.openEndpoint environment)
        (⟨.ok (), .opened⟩, endpoint.negotiated options server hls remoteSystemTitle, device)
  | released (environment : RunEnvironment) (requestApdu : Bytes)
      (hopen : endpoint.isOpen = true)
      (hreceived : receivedApdu environment.receive = .ok requestApdu)
      (hrelease : isReleaseRequest options requestApdu endpoint = true) :
      Steps endpoint device (.runOnce environment)
        (⟨.ok (), .released true⟩,
          { endpoint.dropAssociation with context := ServerContext.clearAssociationContext },
          device)
  | notReleased (environment : RunEnvironment) (status : EndpointStatus)
      (hopen : endpoint.isOpen = true) :
      Steps endpoint device (.runOnce environment)
        (⟨.error status, .released false⟩, endpoint, device)
  | hlsReply (environment : RunEnvironment) (requestApdu : Bytes) (outcome : HlsOutcome)
      (after : ServerEndpoint)
      (hopen : endpoint.isOpen = true)
      (hreceived : receivedApdu environment.receive = .ok requestApdu)
      (hhandled : handleHlsReply ciphers options requestApdu endpoint = (some outcome, after)) :
      Steps endpoint device (.runOnce environment)
        (⟨outcome.response.bind fun _ => ofProfile environment.send, .hlsReply outcome⟩, after,
          device)
  | service (environment : RunEnvironment) (requestApdu : Bytes) (looked : ServerEndpoint)
      (hopen : endpoint.isOpen = true)
      (hreceived : receivedApdu environment.receive = .ok requestApdu)
      (hhandled : handleHlsReply ciphers options requestApdu endpoint = (none, looked))
      (out : (Except Xdlms.XdlmsStatus Apdu.XdlmsApdu × Except Xdlms.XdlmsStatus Bytes) ×
        ServerEndpoint × δ)
      (hout : processService ciphers options handler requestApdu looked device = out) :
      Steps endpoint device (.runOnce environment)
        (⟨(out.1.2.mapError mapXdlmsStatus).bind fun _ => ofProfile environment.send,
            .service out.1.1 out.1.2⟩, out.2.1, out.2.2)
  | closed (channelClose : Except ProfileStatus Unit) (hopen : endpoint.isOpen = true) :
      Steps endpoint device (.close channelClose)
        (⟨.ok (), .closed⟩, endpoint.dropAssociation, device)

/-- The title a context is applied to, and nothing else of an endpoint. -/
theorem applyCipheredAssociationContext_ok (server : AssociationServer)
    (endpoint after : ServerEndpoint)
    (h : applyCipheredAssociationContext options server endpoint = .ok after) :
    ∃ remoteSystemTitle, after =
      { endpoint with
        security :=
          { endpoint.security with
            context :=
              { endpoint.security.context with remoteSystemTitle := remoteSystemTitle } } } := by
  unfold applyCipheredAssociationContext at h
  by_cases hplain : !options.security.cipheredApdu
  · rw [if_pos hplain] at h
    rw [← Except.ok.inj h]
    exact ⟨endpoint.security.context.remoteSystemTitle, rfl⟩
  · rw [if_neg hplain] at h
    by_cases hsize : server.result.callingApplicationTitle.length ≠ 8
    · rw [if_pos hsize] at h
      cases h
    · rw [if_neg hsize] at h
      rw [← Except.ok.inj h]
      exact ⟨_, rfl⟩

theorem steps_openEndpoint (environment : OpenEnvironment) (endpoint : ServerEndpoint)
    (device : δ) :
    Steps ciphers options handler endpoint device (.openEndpoint environment)
      (step ciphers options handler (.openEndpoint environment) endpoint device) := by
  unfold step openEndpoint
  by_cases hopen : endpoint.isOpen = true
  · simp only [hopen, if_true]
    exact .nothing _ _
  · have hclosed : endpoint.isOpen = false := by simpa only [Bool.not_eq_true] using hopen
    simp only [hclosed, Bool.false_eq_true, if_false]
    cases hvalid : validateOpen options with
    | error status => exact .nothing _ _
    | ok valid =>
        simp only
        cases ofProfile environment.channelOpen with
        | error status => exact .nothing _ _
        | ok opened =>
            simp only
            by_cases hnegotiate : options.negotiateAssociation = true
            · simp only [hnegotiate, Bool.not_true, Bool.false_eq_true, if_false]
              unfold negotiateAssociation
              -- A negotiation that fails keeps the strategy that it has used.
              rcases haccept : acceptAssociation options environment.accept with
                ⟨status | server, hls⟩
              · exact .notNegotiated environment _ hls endpoint.association hclosed
              · simp only
                cases happly : applyCipheredAssociationContext options server
                    { endpoint with hls := hls } with
                | error status => exact .notNegotiated environment _ hls none hclosed
                | ok after =>
                    rcases applyCipheredAssociationContext_ok options server _ after happly with
                      ⟨remoteSystemTitle, hafter⟩
                    rw [hafter]
                    exact .negotiated environment server hls remoteSystemTitle hclosed hvalid
                      hnegotiate haccept
            · have hplain : options.negotiateAssociation = false := by
                simpa only [Bool.not_eq_true] using hnegotiate
              simp only [hplain, Bool.not_false, if_true]
              exact .opened environment hclosed hvalid hplain

theorem steps_runOnce (environment : RunEnvironment) (endpoint : ServerEndpoint) (device : δ) :
    Steps ciphers options handler endpoint device (.runOnce environment)
      (step ciphers options handler (.runOnce environment) endpoint device) := by
  unfold step runOnce
  by_cases hopen : endpoint.isOpen = true
  · simp only [hopen, Bool.not_true, Bool.false_eq_true, if_false]
    cases hreceived : receivedApdu environment.receive with
    | error status => exact .nothing _ _
    | ok requestApdu =>
        simp only
        by_cases hrelease : isReleaseRequest options requestApdu endpoint = true
        · rw [if_pos hrelease]
          unfold releaseAssociation
          cases Association.release requestApdu environment.send environment.close with
          | error status => exact .notReleased environment _ hopen
          | ok released => exact .released environment requestApdu hopen hreceived hrelease
        · rw [if_neg hrelease]
          rcases hhandled : handleHlsReply ciphers options requestApdu endpoint with
            ⟨_ | outcome, after⟩
          · exact .service environment requestApdu after hopen hreceived hhandled _ rfl
          · exact .hlsReply environment requestApdu outcome after hopen hreceived hhandled
  · have hclosed : endpoint.isOpen = false := by simpa only [Bool.not_eq_true] using hopen
    simp only [hclosed, Bool.not_false, if_true]
    exact .nothing _ _

/-- A call does one of these things. -/
theorem steps_step (input : EndpointInput) (endpoint : ServerEndpoint) (device : δ) :
    Steps ciphers options handler endpoint device input
      (step ciphers options handler input endpoint device) := by
  cases input with
  | openEndpoint environment =>
      exact steps_openEndpoint ciphers options handler environment endpoint device
  | runOnce environment => exact steps_runOnce ciphers options handler environment endpoint device
  | close channelClose =>
      unfold step close
      by_cases hopen : endpoint.isOpen = true
      · simp only [hopen, Bool.not_true, Bool.false_eq_true, if_false]
        cases ofProfile channelClose with
        | error status => exact .nothing _ _
        | ok closed => exact .closed channelClose hopen
      · have hclosed : endpoint.isOpen = false := by simpa only [Bool.not_eq_true] using hopen
        simp only [hclosed, Bool.not_false, if_true]
        exact .nothing _ _

/-- A call that served a request was a `RunOnce` whose APDU was no reply. -/
theorem service_of_event (input : EndpointInput) (endpoint : ServerEndpoint) (device : δ)
    (request : Except Xdlms.XdlmsStatus Apdu.XdlmsApdu) (response : Except Xdlms.XdlmsStatus Bytes)
    (hevent : (step ciphers options handler input endpoint device).1.event =
      .service request response) :
    endpoint.isOpen = true ∧ ∃ environment requestApdu looked,
      input = .runOnce environment ∧ receivedApdu environment.receive = .ok requestApdu ∧
      handleHlsReply ciphers options requestApdu endpoint = (none, looked) ∧
      (processService ciphers options handler requestApdu looked device).1 = (request, response) ∧
      (step ciphers options handler input endpoint device).2 =
        (processService ciphers options handler requestApdu looked device).2 := by
  have hsteps := steps_step ciphers options handler input endpoint device
  generalize step ciphers options handler input endpoint device = out at *
  -- One of the steps reports a service.
  cases hsteps with
  | service environment requestApdu looked hopen hreceived hhandled result hresult =>
      simp only [EndpointEvent.service.injEq] at hevent
      refine ⟨hopen, environment, requestApdu, looked, rfl, hreceived, hhandled, ?_, ?_⟩
      · rw [hresult, ← hevent.1, ← hevent.2]
      · rw [hresult]
  | nothing input status => simp at hevent
  | notNegotiated environment status hls association hclosed =>
      simp at hevent
  | opened environment hclosed hvalid hplain => simp at hevent
  | negotiated environment server hls remoteSystemTitle hclosed hvalid hnegotiate haccept =>
      simp at hevent
  | released environment requestApdu hopen hreceived hrelease =>
      simp at hevent
  | notReleased environment status hopen => simp at hevent
  | hlsReply environment requestApdu outcome after hopen hreceived hhandled =>
      simp at hevent
  | closed channelClose hopen => simp at hevent

/-- A call that changed what the handler works on served a request that it could
    decode. -/
theorem served_of_device (input : EndpointInput) (endpoint : ServerEndpoint) (device : δ)
    (hdevice : (step ciphers options handler input endpoint device).2.2 ≠ device) :
    ∃ request response, (step ciphers options handler input endpoint device).1.event =
      .service (.ok request) response := by
  have hsteps := steps_step ciphers options handler input endpoint device
  generalize step ciphers options handler input endpoint device = out at *
  cases hsteps with
  | service environment requestApdu looked hopen hreceived hhandled result hresult =>
      rcases hdecoded : Xdlms.decodeRequest (securityProcessor ciphers options) requestApdu
        looked.security with ⟨status | request, security⟩
      · refine absurd ?_ hdevice
        rw [← hresult, processService, Xdlms.processRequest_of_rejected _ _ _ _ _ _ _ hdecoded]
        rfl
      · refine ⟨request, result.1.2, ?_⟩
        rw [← hresult, processService, hdecoded]
  | nothing input status => exact absurd rfl hdevice
  | notNegotiated environment status hls association hclosed => exact absurd rfl hdevice
  | opened environment hclosed hvalid hplain => exact absurd rfl hdevice
  | negotiated environment server hls remoteSystemTitle hclosed hvalid hnegotiate haccept =>
      exact absurd rfl hdevice
  | released environment requestApdu hopen hreceived hrelease => exact absurd rfl hdevice
  | notReleased environment status hopen => exact absurd rfl hdevice
  | hlsReply environment requestApdu outcome after hopen hreceived hhandled =>
      exact absurd rfl hdevice
  | closed channelClose hopen => exact absurd rfl hdevice

/-- A call as a step of a machine whose state has the handler's. -/
def machineStep (input : EndpointInput) (state : ServerEndpoint × δ) :
    EndpointOutput × ServerEndpoint × δ :=
  step ciphers options handler input state.1 state.2

end ServerEndpoint

end Endpoint

end Dlms
