import Dlms.Endpoint.Steps

/-!
# The ciphering of an endpoint

What the calls of an endpoint do to its security state. A request that comes
through to a service has been unprotected, once, and its response is protected
from the state that left. While a reply to a challenge is awaited nothing comes
through: every request is unprotected to be looked at, and cannot be
unprotected again to be served. No call puts a counter back.

## Main definitions

* `WellCiphered`: What every state of an endpoint has.

## Theorems

* `advances_step`: No call puts a counter back.
* `wellCiphered_create`, `wellCiphered_step`: The invariant.
* `unprotected_of_decoded`: What has happened to a request that is served.
-/

namespace Dlms

namespace Endpoint

open Apdu (Bytes)
open Security (CipheredApduState)
open Security.CipheredApduProcessor (Advances cipheredApduProcessor protect unprotect)
open Server (ServerContext)
open Xdlms (XdlmsServerHandler)

/-- The policy of the security state, and when a reply is awaited: only while
    open, and with a strategy. -/
structure WellCiphered (endpoint : ServerEndpoint) : Prop where
  policy : endpoint.security.context.policy = .authenticatedAndEncrypted
  opened : endpoint.hlsPending = true → endpoint.isOpen = true
  strategy : endpoint.hlsPending = true → endpoint.hls.isSome = true

theorem wellCiphered_create (options : ServerEndpointOptions) :
    WellCiphered (ServerEndpoint.create options) where
  policy := rfl
  opened := fun h => absurd h (by simp [ServerEndpoint.create])
  strategy := fun h => absurd h (by simp [ServerEndpoint.create])

section Ciphering

variable (ciphers : Ciphers) (options : ServerEndpointOptions) {δ : Type}
  (handler : ServerContext → XdlmsServerHandler δ)

/-! ### No counter goes back -/

theorem securityProcessor_of_ciphered (hciphered : options.security.cipheredApdu = true) :
    ServerEndpoint.securityProcessor ciphers options =
      some (cipheredApduProcessor ciphers.gcm (processorKeys options.security)) :=
  if_pos hciphered

theorem securityProcessor_of_plain (hplain : ¬ options.security.cipheredApdu = true) :
    ServerEndpoint.securityProcessor ciphers options = none :=
  if_neg hplain

theorem advances_decodeRequest (requestApdu : Bytes) (security : CipheredApduState) :
    Advances security (Xdlms.decodeRequest (ServerEndpoint.securityProcessor ciphers options)
      requestApdu security).2 := by
  by_cases hciphered : options.security.cipheredApdu = true
  · rw [securityProcessor_of_ciphered ciphers options hciphered,
      Xdlms.security_decodeRequest_some]
    exact Security.CipheredApduProcessor.advances_unprotect ciphers.gcm _ requestApdu security
  · rw [securityProcessor_of_plain ciphers options hciphered, Xdlms.security_decodeRequest_none]
    exact Advances.refl security

theorem advances_protectResponse (plainResponse : Bytes) (security : CipheredApduState) :
    Advances security (Xdlms.protectResponse (ServerEndpoint.securityProcessor ciphers options)
      plainResponse security).2 := by
  by_cases hciphered : options.security.cipheredApdu = true
  · rw [securityProcessor_of_ciphered ciphers options hciphered,
      Xdlms.security_protectResponse_some]
    exact Security.CipheredApduProcessor.advances_protect ciphers.gcm _ plainResponse security
  · rw [securityProcessor_of_plain ciphers options hciphered]
    exact Advances.refl security

theorem advances_plainRequestOf (requestApdu : Bytes) (endpoint : ServerEndpoint) :
    Advances endpoint.security
      (ServerEndpoint.plainRequestOf ciphers options requestApdu endpoint).2.security := by
  by_cases hciphered : options.security.cipheredApdu = true
  · rw [ServerEndpoint.plainRequestOf_of_ciphered ciphers options requestApdu endpoint
      _ (securityProcessor_of_ciphered ciphers options hciphered)]
    exact Security.CipheredApduProcessor.advances_unprotect ciphers.gcm _ _ _
  · rw [ServerEndpoint.plainRequestOf_of_plain ciphers options requestApdu endpoint
      (securityProcessor_of_plain ciphers options hciphered)]
    exact Advances.refl _

theorem advances_handleHlsReply (requestApdu : Bytes) (endpoint : ServerEndpoint) :
    Advances endpoint.security
      (ServerEndpoint.handleHlsReply ciphers options requestApdu endpoint).2.security := by
  have hplain := advances_plainRequestOf ciphers options requestApdu endpoint
  have hhandles :=
    ServerEndpoint.handlesReply_handleHlsReply ciphers options requestApdu endpoint
  generalize ServerEndpoint.handleHlsReply ciphers options requestApdu endpoint = out at *
  cases hhandles with
  | idle hidle => exact Advances.refl _
  | other hpending hother => exact hplain
  | refused hls after iip clientResponse outcome hpending hhls hreply hanswer hrefused =>
      exact hplain
  | answered hls after iip clientResponse serverResponse responseApdu hpending hhls hreply
      hanswer => exact hplain

/-- The security state of a served request, through its two stages. -/
theorem advances_processService (requestApdu : Bytes) (endpoint : ServerEndpoint) (device : δ) :
    Advances endpoint.security (ServerEndpoint.processService ciphers options handler requestApdu
      endpoint device).2.1.security := by
  have hdecoded := advances_decodeRequest ciphers options requestApdu endpoint.security
  rcases Xdlms.security_processRequest (handler endpoint.context) Xdlms.defaultServiceOptions
    (ServerEndpoint.securityProcessor ciphers options) requestApdu (endpoint.processor device) with
    ⟨-, hsecurity⟩ | ⟨request, plainResponse, -, -, hsecurity⟩
  · simp only [ServerEndpoint.processService, ServerEndpoint.withProcessor, hsecurity]
    exact hdecoded
  · simp only [ServerEndpoint.processService, ServerEndpoint.withProcessor, hsecurity]
    exact Advances.trans _ _ _ hdecoded (advances_protectResponse ciphers options plainResponse _)

/-- No call puts a counter back. -/
theorem advances_step (input : EndpointInput) (endpoint : ServerEndpoint) (device : δ) :
    Advances endpoint.security
      (ServerEndpoint.step ciphers options handler input endpoint device).2.1.security := by
  have hsteps := ServerEndpoint.steps_step ciphers options handler input endpoint device
  generalize ServerEndpoint.step ciphers options handler input endpoint device = out at *
  cases hsteps with
  | hlsReply environment requestApdu outcome after hopen hreceived hhandled =>
      have hadvances := advances_handleHlsReply ciphers options requestApdu endpoint
      rw [hhandled] at hadvances
      exact hadvances
  | service environment requestApdu looked hopen hreceived hhandled result hresult =>
      have hadvances := advances_handleHlsReply ciphers options requestApdu endpoint
      rw [hhandled] at hadvances
      rw [← hresult]
      exact Advances.trans _ _ _ hadvances
        (advances_processService ciphers options handler requestApdu looked device)
  | negotiated environment server hls remoteSystemTitle hclosed hvalid hnegotiate haccept =>
      exact ⟨rfl, rfl, UInt32.le_refl _,
        fun _ mark hmark => ⟨mark, hmark, UInt32.le_refl mark⟩⟩
  | nothing input status => exact Advances.refl _
  | notNegotiated environment status hls association hclosed => exact Advances.refl _
  | opened environment hclosed hvalid hplain => exact Advances.refl _
  | released environment requestApdu hopen hreceived hrelease => exact Advances.refl _
  | notReleased environment status hopen => exact Advances.refl _
  | closed channelClose hopen => exact Advances.refl _

/-! ### The invariant -/

/-- What the handling of a reply leaves of the invariant. -/
theorem pending_of_handled (requestApdu : Bytes) (endpoint : ServerEndpoint)
    (h : WellCiphered endpoint) :
    let out := (ServerEndpoint.handleHlsReply ciphers options requestApdu endpoint).2
    out.isOpen = endpoint.isOpen ∧
      (out.hlsPending = true → endpoint.hlsPending = true ∧ out.hls.isSome = true) := by
  have hhandles :=
    ServerEndpoint.handlesReply_handleHlsReply ciphers options requestApdu endpoint
  rcases ServerEndpoint.plainRequestOf_frame ciphers options requestApdu endpoint with
    ⟨security, hsecurity⟩
  generalize ServerEndpoint.handleHlsReply ciphers options requestApdu endpoint = out at *
  cases hhandles with
  | idle hidle => exact ⟨rfl, fun hpending => ⟨hpending, h.strategy hpending⟩⟩
  | other hpending hother =>
      rw [hsecurity]
      exact ⟨rfl, fun hpending => ⟨hpending, h.strategy hpending⟩⟩
  | refused hls after iip clientResponse outcome hpending hhls hreply hanswer hrefused =>
      rw [hsecurity]
      exact ⟨rfl, fun hpending => ⟨hpending, rfl⟩⟩
  | answered hls after iip clientResponse serverResponse responseApdu hpending hhls hreply
      hanswer =>
      rw [hsecurity]
      exact ⟨rfl, fun hpending => absurd hpending (by simp)⟩

theorem wellCiphered_step (input : EndpointInput) (endpoint : ServerEndpoint) (device : δ)
    (h : WellCiphered endpoint) :
    WellCiphered (ServerEndpoint.step ciphers options handler input endpoint device).2.1 := by
  -- A call keeps the policy, and puts an endpoint into waiting for a reply only as it opens it.
  have hpolicy := (advances_step ciphers options handler input endpoint device).policy
  have hnever : ∀ p : Prop, (false : Bool) = true → p := fun _ hfalse =>
    absurd hfalse (by simp)
  have hsteps := ServerEndpoint.steps_step ciphers options handler input endpoint device
  generalize ServerEndpoint.step ciphers options handler input endpoint device = out at *
  refine ⟨hpolicy.trans h.policy, ?_, ?_⟩
  · cases hsteps with
    | hlsReply environment requestApdu outcome after hopen hreceived hhandled =>
        have hframe := pending_of_handled ciphers options requestApdu endpoint h
        rw [hhandled] at hframe
        exact fun _ => hframe.1.trans hopen
    | service environment requestApdu looked hopen hreceived hhandled result hresult =>
        have hframe := pending_of_handled ciphers options requestApdu endpoint h
        rw [hhandled] at hframe
        rw [← hresult]
        exact fun _ => hframe.1.trans hopen
    | negotiated environment server hls remoteSystemTitle hclosed hvalid hnegotiate haccept =>
        exact fun _ => rfl
    | notNegotiated environment status hls association hclosed => exact h.opened
    | nothing input status => exact h.opened
    | opened environment hclosed hvalid hplain => exact fun _ => rfl
    | released environment requestApdu hopen hreceived hrelease => exact hnever _
    | notReleased environment status hopen => exact h.opened
    | closed channelClose hopen => exact hnever _
  · cases hsteps with
    | hlsReply environment requestApdu outcome after hopen hreceived hhandled =>
        have hframe := pending_of_handled ciphers options requestApdu endpoint h
        rw [hhandled] at hframe
        exact fun hpending => (hframe.2 hpending).2
    | service environment requestApdu looked hopen hreceived hhandled result hresult =>
        have hframe := pending_of_handled ciphers options requestApdu endpoint h
        rw [hhandled] at hframe
        rw [← hresult]
        exact fun hpending => (hframe.2 hpending).2
    | negotiated environment server hls remoteSystemTitle hclosed hvalid hnegotiate haccept =>
        exact fun hpending => hpending
    | notNegotiated environment status hls association hclosed =>
        intro hpending
        exact absurd (h.opened hpending) (by simp [hclosed])
    | nothing input status => exact h.strategy
    | opened environment hclosed hvalid hplain => exact h.strategy
    | released environment requestApdu hopen hreceived hrelease => exact hnever _
    | notReleased environment status hopen => exact h.strategy
    | closed channelClose hopen => exact hnever _

/-! ### What comes through -/

section Ciphered

variable (hciphered : options.security.cipheredApdu = true)
include hciphered

/-- The security state of a served request: unprotected first, and protected when
    there is a response. -/
theorem security_processService (requestApdu : Bytes) (endpoint : ServerEndpoint) (device : δ) :
    let out := ServerEndpoint.processService ciphers options handler requestApdu endpoint device
    let unprotected := unprotect ciphers.gcm (processorKeys options.security) requestApdu
      endpoint.security
    Advances unprotected.2 out.2.1.security ∧
      ∀ responseApdu, out.1.2 = .ok responseApdu → (∃ request, out.1.1 = .ok request) ∧
        ∃ plainResponse,
          (protect ciphers.gcm (processorKeys options.security) plainResponse
            unprotected.2).1 = .ok responseApdu ∧
          out.2.1.security = (protect ciphers.gcm (processorKeys options.security) plainResponse
            unprotected.2).2 := by
  intro out unprotected
  have hprocessed := Xdlms.security_processRequest (handler endpoint.context)
    Xdlms.defaultServiceOptions (ServerEndpoint.securityProcessor ciphers options) requestApdu
    (endpoint.processor device)
  have hdecoded : (Xdlms.decodeRequest (ServerEndpoint.securityProcessor ciphers options)
      requestApdu endpoint.security).2 = unprotected.2 := by
    rw [securityProcessor_of_ciphered ciphers options hciphered,
      Xdlms.security_decodeRequest_some]
    rfl
  -- The request failed and nothing was protected, or one response was.
  rcases hprocessed with ⟨⟨status, hfailed⟩, hsecurity⟩ |
    ⟨request, plainResponse, hrequest, hout, hsecurity⟩
  · have hsame : out.2.1.security = unprotected.2 := hsecurity.trans hdecoded
    rw [hsame]
    refine ⟨Advances.refl _, ?_⟩
    intro responseApdu hresponse
    exact absurd (hfailed.symm.trans hresponse) nofun
  · have hprotected : (Xdlms.protectResponse (ServerEndpoint.securityProcessor ciphers options)
        plainResponse unprotected.2).2 = out.2.1.security := by
      rw [← hdecoded]
      exact hsecurity.symm
    rw [← hprotected]
    refine ⟨advances_protectResponse ciphers options plainResponse _, ?_⟩
    intro responseApdu hresponse
    have hsent : (Xdlms.protectResponse (ServerEndpoint.securityProcessor ciphers options)
        plainResponse unprotected.2).1 = .ok responseApdu := by
      rw [← hdecoded]
      exact hout.symm.trans hresponse
    rw [securityProcessor_of_ciphered ciphers options hciphered] at hsent
    refine ⟨⟨request, hrequest⟩, plainResponse,
      Xdlms.protected_of_protectResponse _ plainResponse _ responseApdu hsent, ?_⟩
    rw [securityProcessor_of_ciphered ciphers options hciphered,
      Xdlms.security_protectResponse_some]
    rfl

/-- A request that could be unprotected after it was looked at for a reply was
    not looked at. -/
theorem looked_of_unprotected (requestApdu plain : Bytes) (endpoint looked : ServerEndpoint)
    (h : WellCiphered endpoint)
    (hhandled : ServerEndpoint.handleHlsReply ciphers options requestApdu endpoint =
      (none, looked))
    (hplain : (unprotect ciphers.gcm (processorKeys options.security) requestApdu
      looked.security).1 = .ok plain) :
    looked = endpoint ∧ endpoint.hlsPending = false := by
  have hpolicy : endpoint.security.context.policy ≠ .none := by
    rw [h.policy]
    exact fun hnone => by cases hnone
  have hhandles :=
    ServerEndpoint.handlesReply_handleHlsReply ciphers options requestApdu endpoint
  rw [hhandled] at hhandles
  cases hhandles with
  | idle hidle =>
      refine ⟨rfl, ?_⟩
      rcases hidle with hpending | hnone | hempty
      · exact hpending
      · by_contra hpending
        have hsome := h.strategy (by simpa only [Bool.not_eq_false] using hpending)
        rw [hnone] at hsome
        exact absurd hsome (by simp)
      · -- Nothing can be unprotected without a header and a tag.
        rw [hempty] at hplain
        rcases Security.CipheredApduProcessor.unprotect_nil ciphers.gcm
          (processorKeys options.security) endpoint.security hpolicy with ⟨status, hnil⟩
        rw [hnil] at hplain
        cases hplain
  | other hpending hother =>
      rw [ServerEndpoint.plainRequestOf_of_ciphered ciphers options requestApdu endpoint _
        (securityProcessor_of_ciphered ciphers options hciphered)] at hplain
      rcases Security.CipheredApduProcessor.unprotect_twice ciphers.gcm
        (processorKeys options.security) requestApdu endpoint.security hpolicy with
        ⟨status, hagain⟩
      have hsame := hagain.symm.trans hplain
      cases hsame

/-- A request that is served was unprotected once, while no reply was awaited;
    its response was protected from the state that left. -/
theorem unprotected_of_decoded (input : EndpointInput) (endpoint : ServerEndpoint) (device : δ)
    (h : WellCiphered endpoint) (request : Apdu.XdlmsApdu)
    (response : Except Xdlms.XdlmsStatus Bytes)
    (hevent : (ServerEndpoint.step ciphers options handler input endpoint device).1.event =
      .service (.ok request) response) :
    endpoint.isOpen = true ∧ endpoint.hlsPending = false ∧
      ∃ environment requestApdu, input = .runOnce environment ∧
        ServerEndpoint.receivedApdu environment.receive = .ok requestApdu ∧
        let unprotected := unprotect ciphers.gcm (processorKeys options.security) requestApdu
          endpoint.security
        let after :=
          (ServerEndpoint.step ciphers options handler input endpoint device).2.1.security
        (∃ plain, unprotected.1 = .ok plain) ∧ Advances unprotected.2 after ∧
          ∀ responseApdu, response = .ok responseApdu → ∃ plainResponse,
            (protect ciphers.gcm (processorKeys options.security) plainResponse
              unprotected.2).1 = .ok responseApdu ∧
            after = (protect ciphers.gcm (processorKeys options.security) plainResponse
              unprotected.2).2 := by
  rcases ServerEndpoint.service_of_event ciphers options handler input endpoint device _ _ hevent
    with ⟨hopen, environment, requestApdu, looked, hinput, hreceived, hhandled, hserved, hafter⟩
  have hdecoded : (Xdlms.decodeRequest (ServerEndpoint.securityProcessor ciphers options)
      requestApdu looked.security).1 = .ok request := congrArg Prod.fst hserved
  rw [securityProcessor_of_ciphered ciphers options hciphered] at hdecoded
  rcases Xdlms.unprotected_of_decodeRequest _ requestApdu looked.security request hdecoded
    with ⟨plain, hplain⟩
  -- An endpoint that awaits a reply has unprotected the request before, to look for
  -- one in it, and the counter would be refused now.
  rcases looked_of_unprotected ciphers options hciphered requestApdu plain endpoint looked h
    hhandled hplain with ⟨hlooked, hpending⟩
  rw [hlooked] at hserved hafter hplain
  have hsecurity := security_processService ciphers options handler hciphered requestApdu
    endpoint device
  refine ⟨hopen, hpending, environment, requestApdu, hinput, hreceived, ⟨plain, hplain⟩, ?_, ?_⟩
  · rw [hafter]
    exact hsecurity.1
  · intro responseApdu hresponse
    rw [hafter]
    exact (hsecurity.2 responseApdu ((congrArg Prod.snd hserved).trans hresponse)).2

/-- A request with a response was decoded. -/
theorem decoded_of_response (input : EndpointInput) (endpoint : ServerEndpoint) (device : δ)
    (request : Except Xdlms.XdlmsStatus Apdu.XdlmsApdu) (responseApdu : Bytes)
    (hevent : (ServerEndpoint.step ciphers options handler input endpoint device).1.event =
      .service request (.ok responseApdu)) :
    ∃ decoded, request = .ok decoded := by
  rcases ServerEndpoint.service_of_event ciphers options handler input endpoint device _ _ hevent
    with ⟨-, -, requestApdu, looked, -, -, -, hserved, -⟩
  have hsecurity := security_processService ciphers options handler hciphered requestApdu
    looked device
  rcases (hsecurity.2 responseApdu (congrArg Prod.snd hserved)).1 with ⟨decoded, hdecoded⟩
  exact ⟨decoded, (congrArg Prod.fst hserved).symm.trans hdecoded⟩

end Ciphered

end Ciphering

end Endpoint

end Dlms
