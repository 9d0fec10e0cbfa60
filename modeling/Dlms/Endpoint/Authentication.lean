import Dlms.Endpoint.Steps

/-!
# The authentication gate

An endpoint that negotiates with high-level security has no association after
the negotiation, only a challenge to its client. The invariant of its runs is
that, while it is open, it is either waiting for the reply and not associated,
or it has had the reply: one that the strategy of the last opening accepted for
the challenge of the last opening. Closing and releasing end the one, and every
opening starts over.

Without an association the dispatcher of the object model answers every service
that reaches it with one status and does not call its device. The xDLMS layer
has looked at the descriptors by then, so that the dispatcher finds nothing
wrong with them first.

## Main definitions

* `LastOpening`: The last opening of a run, and the transitions since.
* `AcceptsReply`: A transition that accepts a reply to a challenge.
* `Authenticated`: A run whose last opening has been replied to.
* `Gate`: The invariant.
* `recordingService`: A service that writes down how it answers.

## Theorems

* `gate_step`: A call keeps the invariant.
* `refuses_of_not_associated`: Without an association, every service is refused.
* `authentication_gate`: Both, for every run.
-/

namespace Dlms

namespace Endpoint

open Apdu (Bytes)
open Association (AcceptEnvironment AssociationServer)
open Cosem (ILogicalDevice)
open Machine (Transition run final transition)
open Server (IServerService ServerContext ServerStatus cosemServiceDispatcher xdlmsServerAdapter)
open Xdlms (HandlerKeeps XdlmsServerHandler)

/-! ### The strategy of a negotiation -/

/-- A negotiation with a strategy leaves it with the challenge that was issued,
    and with its nonce as the options have it. -/
theorem hls_of_acceptAssociation (options : ServerEndpointOptions)
    (environment : AcceptEnvironment) (server : AssociationServer) (hls : Option HlsStrategy)
    (strategy : HlsStrategy)
    (hstrategy : makeHlsStrategy options.profile options.security = some strategy)
    (h : ServerEndpoint.acceptAssociation options environment = (.ok server, hls)) :
    ∃ after, hls = some after ∧
      after.serverChallenge = server.result.highLevelSecurityServerChallenge ∧
      after.serverChallenge ≠ [] ∧ after.clientChallenge ≠ [] ∧
      after.nextNonce = strategy.nextNonce := by
  -- Only the two mechanisms of high-level security have a strategy.
  have hmode : (makeAssociationServerOptions options.security true).authenticationMode =
      .highLevelSecurity := by
    unfold makeHlsStrategy at hstrategy
    unfold makeAssociationServerOptions
    cases hauthentication : options.security.authentication with
    | none => simp [hauthentication] at hstrategy
    | lowPassword => simp [hauthentication] at hstrategy
    | highPassword => rfl
    | highGmac => rfl
  unfold ServerEndpoint.acceptAssociation at h
  rw [hstrategy] at h
  simp only [Prod.mk.injEq] at h
  rcases h with ⟨haccept, hhls⟩
  -- An association that is accepted in this mode has gone through the strategy.
  rcases Association.challengeOf_of_accept hlsStrategy _ environment strategy _ server hmode
    (Prod.ext haccept rfl) with ⟨clientChallenge, hclient, hchallenge⟩
  rcases challengeOf_hlsStrategy _ _ _ _ _ _ _ hchallenge with ⟨hc, hs, hcounter, hne⟩
  refine ⟨_, hhls.symm, hs, ?_, ?_, hcounter⟩
  · rw [hs]
    exact hne
  · rw [hc]
    exact hclient

/-- An answer to a reply keeps the server's challenge. -/
theorem answerHlsReply_serverChallenge (ciphers : Ciphers) (invokeIdAndPriority : UInt8)
    (clientResponse : Option Bytes) (hls : HlsStrategy) :
    (answerHlsReply ciphers invokeIdAndPriority clientResponse hls).2.serverChallenge =
      hls.serverChallenge := by
  unfold answerHlsReply
  cases clientResponse with
  | none => rfl
  | some response =>
      simp only
      have hverify := hls.verifyClientResponse_serverChallenge ciphers response
      rcases hverified : hls.verifyClientResponse ciphers response with ⟨status | valid, after⟩
      · rw [hverified] at hverify
        exact hverify
      · rw [hverified] at hverify
        have hbuild := after.buildServerResponse_serverChallenge ciphers
        simp only
        rcases hbuilt : after.buildServerResponse ciphers with ⟨status | built, last⟩
        · rw [hbuilt] at hbuild
          exact hbuild.trans hverify
        · rw [hbuilt] at hbuild
          exact hbuild.trans hverify

/-- A reply that is answered has been verified. -/
theorem verified_of_answered (ciphers : Ciphers) (invokeIdAndPriority : UInt8)
    (clientResponse : Option Bytes) (hls after : HlsStrategy) (serverResponse : Bytes)
    (responseApdu : Except EndpointStatus Bytes)
    (h : answerHlsReply ciphers invokeIdAndPriority clientResponse hls =
      (.answered serverResponse responseApdu, after)) :
    ∃ reply, clientResponse = some reply ∧
      (hls.verifyClientResponse ciphers reply).1 = .ok () ∧
      (hls.verifyClientResponse ciphers reply).2.buildServerResponse ciphers =
        (.ok serverResponse, after) := by
  unfold answerHlsReply at h
  cases clientResponse with
  | none => simp at h
  | some reply =>
      simp only at h
      refine ⟨reply, rfl, ?_⟩
      rcases hverified : hls.verifyClientResponse ciphers reply with ⟨status | valid, middle⟩
      · simp [hverified] at h
      · simp only [hverified] at h
        rcases hbuilt : middle.buildServerResponse ciphers with ⟨status | built, last⟩
        · simp [hbuilt] at h
        · simp only [hbuilt, Prod.mk.injEq, HlsOutcome.answered.injEq] at h
          rw [h.1.1, h.2]
          exact ⟨rfl, rfl⟩

/-! ### Runs with a last opening -/

def EndpointEvent.isOpened : EndpointEvent → Bool
  | .opened => true
  | _ => false

/-- A transition of an endpoint with the state of its handler. -/
abbrev EndpointTransition (δ : Type) : Type :=
  Transition EndpointInput EndpointOutput (ServerEndpoint × δ)

/-- The handlers of a server, which write down their indications. -/
def recordingHandlers {δ : Type} (handler : ServerContext → XdlmsServerHandler δ)
    (context : ServerContext) : XdlmsServerHandler (δ × List Xdlms.ServiceIndication) :=
  Xdlms.recordingHandler (handler context)

section Runs

variable {δ : Type}

/-- The last opening of a run, and the transitions since. -/
def LastOpening (history : List (EndpointTransition δ)) (opening : EndpointTransition δ)
    (later : List (EndpointTransition δ)) : Prop :=
  opening.output.event.isOpened = true ∧ (∀ t ∈ later, t.output.event.isOpened = false) ∧
    ∃ earlier, history = earlier ++ opening :: later

theorem LastOpening.append (history later : List (EndpointTransition δ))
    (opening t : EndpointTransition δ) (h : LastOpening history opening later)
    (ht : t.output.event.isOpened = false) :
    LastOpening (history ++ [t]) opening (later ++ [t]) := by
  rcases h with ⟨hopening, hlater, earlier, hhistory⟩
  refine ⟨hopening, ?_, earlier, ?_⟩
  · intro s hs
    rcases List.mem_append.mp hs with hold | hnew
    · exact hlater s hold
    · rw [List.mem_singleton.mp hnew]
      exact ht
  · rw [hhistory, List.append_assoc, List.cons_append]

variable (ciphers : Ciphers) (options : ServerEndpointOptions)

/-- The strategy with this challenge accepts the reply that comes in. -/
def AcceptsReply (serverChallenge : Bytes) (t : EndpointTransition δ) : Prop :=
  ∃ hls environment requestApdu invokeIdAndPriority reply,
    t.before.1.hls = some hls ∧ hls.serverChallenge = serverChallenge ∧
    t.input = .runOnce environment ∧
    ServerEndpoint.receivedApdu environment.receive = .ok requestApdu ∧
    hlsReplyOf (ServerEndpoint.plainRequestOf ciphers options requestApdu t.before.1).1 =
      some (invokeIdAndPriority, some reply) ∧
    (hls.verifyClientResponse ciphers reply).1 = .ok ()

/-- The challenge of the last opening has been replied to. -/
def Authenticated (history : List (EndpointTransition δ)) : Prop :=
  ∃ opening later server, LastOpening history opening later ∧
    opening.after.1.association = some server ∧
    ∃ t ∈ later, AcceptsReply ciphers options server.result.highLevelSecurityServerChallenge t

/-- Since the last opening, the endpoint has been waiting for the reply to its
    challenge, or has had it. -/
def Negotiated (history : List (EndpointTransition δ)) (endpoint : ServerEndpoint) : Prop :=
  ∃ opening later server hls, LastOpening history opening later ∧
    opening.after.1.association = some server ∧
    endpoint.hls = some hls ∧
    hls.serverChallenge = server.result.highLevelSecurityServerChallenge ∧
    (endpoint.hlsPending = true ∧ endpoint.context.isAssociated = false ∨
      ∃ t ∈ later,
        AcceptsReply ciphers options server.result.highLevelSecurityServerChallenge t)

/-- The invariant of a run. -/
def Gate (history : List (EndpointTransition δ)) (state : ServerEndpoint × δ) : Prop :=
  state.1.isOpen = true → Negotiated ciphers options history state.1

/-- A call that opens nothing and keeps what the invariant speaks of. -/
theorem Negotiated.append (history : List (EndpointTransition δ)) (t : EndpointTransition δ)
    (endpoint after : ServerEndpoint) (hls : HlsStrategy)
    (h : Negotiated ciphers options history endpoint)
    (ht : t.output.event.isOpened = false) (hhls : after.hls = some hls)
    (hchallenge : ∀ before, endpoint.hls = some before →
      hls.serverChallenge = before.serverChallenge)
    (hkept : after.hlsPending = endpoint.hlsPending ∧ after.context = endpoint.context ∨
      ∀ before, endpoint.hls = some before →
        AcceptsReply ciphers options before.serverChallenge t) :
    Negotiated ciphers options (history ++ [t]) after := by
  rcases h with ⟨opening, later, server, before, hlast, hserver, hbefore, hissued, hstate⟩
  refine ⟨opening, later ++ [t], server, hls, hlast.append history later opening t ht, hserver,
    hhls, (hchallenge before hbefore).trans hissued, ?_⟩
  rcases hkept with ⟨hpending, hcontext⟩ | haccepts
  · rcases hstate with ⟨hwaits, hnot⟩ | ⟨s, hs, haccepted⟩
    · rw [hpending, hcontext]
      exact .inl ⟨hwaits, hnot⟩
    · exact .inr ⟨s, List.mem_append_left _ hs, haccepted⟩
  · refine .inr ⟨t, List.mem_append_right _ (List.mem_singleton.mpr rfl), ?_⟩
    rw [← hissued]
    exact haccepts before hbefore

variable (handler : ServerContext → XdlmsServerHandler δ)

/-- What the handling of a reply leaves of the invariant, when it goes on to a
    service. -/
theorem frame_of_handled (requestApdu : Bytes) (endpoint looked : ServerEndpoint)
    (h : ServerEndpoint.handleHlsReply ciphers options requestApdu endpoint = (none, looked)) :
    looked.hls = endpoint.hls ∧ looked.hlsPending = endpoint.hlsPending ∧
      looked.context = endpoint.context ∧ looked.isOpen = endpoint.isOpen := by
  have hhandles :=
    ServerEndpoint.handlesReply_handleHlsReply ciphers options requestApdu endpoint
  rw [h] at hhandles
  cases hhandles with
  | idle hidle => exact ⟨rfl, rfl, rfl, rfl⟩
  | other hpending hother =>
      rcases ServerEndpoint.plainRequestOf_frame ciphers options requestApdu endpoint with
        ⟨security, hsecurity⟩
      rw [hsecurity]
      exact ⟨rfl, rfl, rfl, rfl⟩

/-- A call keeps the invariant, with an authentication that has a strategy. -/
theorem gate_step (hnegotiate : options.negotiateAssociation = true) (strategy : HlsStrategy)
    (hstrategy : makeHlsStrategy options.profile options.security = some strategy)
    (history : List (EndpointTransition δ)) (state : ServerEndpoint × δ) (input : EndpointInput)
    (h : Gate ciphers options history state) :
    Gate ciphers options
      (history ++ [transition (ServerEndpoint.machineStep ciphers options handler) input state])
      (ServerEndpoint.machineStep ciphers options handler input state).2 := by
  intro hopenAfter
  generalize ht : transition (ServerEndpoint.machineStep ciphers options handler) input state = t
  have hbefore : t.before = state := by rw [← ht]; rfl
  have hinput : t.input = input := by rw [← ht]; rfl
  have houtput : t.output = (ServerEndpoint.machineStep ciphers options handler input state).1 := by
    rw [← ht]; rfl
  have hafter : t.after = (ServerEndpoint.machineStep ciphers options handler input state).2 := by
    rw [← ht]; rfl
  have hsteps := ServerEndpoint.steps_step ciphers options handler input state.1 state.2
  rw [ServerEndpoint.machineStep] at hopenAfter houtput hafter ⊢
  generalize ServerEndpoint.step ciphers options handler input state.1 state.2 = out at *
  -- A state that was open has the invariant, and a strategy to say it of.
  have hsame : state.1.isOpen = true → t.output.event.isOpened = false →
      ∀ after : ServerEndpoint, after.hls = state.1.hls →
        after.hlsPending = state.1.hlsPending → after.context = state.1.context →
        Negotiated ciphers options (history ++ [t]) after := by
    intro hopen hquiet after hhls hpending hcontext
    have hnow := h hopen
    rcases hnow with ⟨opening, later, server, hls, hlast, hserver, hcurrent, hissued, hstate⟩
    exact Negotiated.append ciphers options history t state.1 after hls (h hopen) hquiet
      (hhls.trans hcurrent)
      (fun before hb => by rw [Option.some.inj (hcurrent.symm.trans hb)])
      (.inl ⟨hpending, hcontext⟩)
  cases hsteps with
  | nothing input status =>
      exact hsame hopenAfter (by rw [houtput]; rfl) _ rfl rfl rfl
  | notNegotiated environment status hls association hclosed =>
      exact absurd hopenAfter (by simp [hclosed])
  | opened environment hclosed hvalid hplain =>
      exact absurd (hnegotiate.symm.trans hplain)
        (by simp)
  | negotiated environment server hls remoteSystemTitle hclosed hvalid hnegotiates haccept =>
      rcases hls_of_acceptAssociation options environment.accept server hls strategy hstrategy
        haccept with ⟨after, hhls, hissued, -, -, -⟩
      refine ⟨t, [], server, after, ⟨?_, ?_, history, rfl⟩, ?_, hhls, hissued, .inl ?_⟩
      · rw [houtput]
        rfl
      · exact fun s hs => absurd hs List.not_mem_nil
      · rw [hafter]
        rfl
      · simp only [ServerEndpoint.negotiated, hhls, Option.isSome_some, if_true, true_and]
        rfl
  | released environment requestApdu hopen hreceived hrelease =>
      exact absurd hopenAfter (by simp [ServerEndpoint.dropAssociation])
  | notReleased environment status hopen =>
      exact hsame hopen (by rw [houtput]; rfl) _ rfl rfl rfl
  | hlsReply environment requestApdu outcome after hopen hreceived hhandled =>
      have hquiet : t.output.event.isOpened = false := by rw [houtput]; rfl
      have hhandles :=
        ServerEndpoint.handlesReply_handleHlsReply ciphers options requestApdu state.1
      rw [hhandled] at hhandles
      rcases ServerEndpoint.plainRequestOf_frame ciphers options requestApdu state.1 with
        ⟨security, hsecurity⟩
      cases hhandles with
      | refused hls replied iip clientResponse outcome hpending hhls hreply hanswer hrefused =>
          have hchallenge := answerHlsReply_serverChallenge ciphers iip clientResponse hls
          rw [hanswer] at hchallenge
          rw [hsecurity]
          exact Negotiated.append ciphers options history t state.1 _ replied (h hopen) hquiet rfl
            (fun before hb => by rw [← Option.some.inj (hhls.symm.trans hb)]; exact hchallenge)
            (.inl ⟨rfl, rfl⟩)
      | answered hls replied iip clientResponse serverResponse responseApdu hpending hhls hreply
          hanswer =>
          have hchallenge := answerHlsReply_serverChallenge ciphers iip clientResponse hls
          rw [hanswer] at hchallenge
          rcases verified_of_answered ciphers iip clientResponse hls replied serverResponse _
            hanswer with ⟨reply, hsome, hverified, -⟩
          rw [hsome] at hreply
          refine Negotiated.append ciphers options history t state.1 _ replied (h hopen) hquiet rfl
            (fun before hb => by rw [← Option.some.inj (hhls.symm.trans hb)]; exact hchallenge)
            (.inr fun before hb => ?_)
          refine ⟨hls, environment, requestApdu, iip, reply, ?_, ?_, hinput, hreceived, ?_,
            hverified⟩
          · rw [hbefore]
            exact hhls
          · rw [Option.some.inj (hhls.symm.trans hb)]
          · rw [hbefore]
            exact hreply
  | service environment requestApdu looked hopen hreceived hhandled result hresult =>
      rcases frame_of_handled ciphers options requestApdu state.1 looked hhandled with
        ⟨hhls, hpending, hcontext, -⟩
      refine hsame hopen (by rw [houtput]; rfl) _ ?_ ?_ ?_
      · rw [← hresult]
        exact hhls
      · rw [← hresult]
        exact hpending
      · rw [← hresult]
        exact hcontext
  | closed channelClose hopen =>
      exact absurd hopenAfter (by simp [ServerEndpoint.dropAssociation])

/-! ### Services without an association -/

/-- A service that also writes down the statuses it answers with. -/
def recordingService (server : IServerService δ) : IServerService (δ × List ServerStatus) where
  handleGet := fun request device =>
    let out := server.handleGet request device.1
    (out.1, out.2, device.2 ++ [out.1.status])
  handleSet := fun request device =>
    let out := server.handleSet request device.1
    (out.1, out.2, device.2 ++ [out.1.status])
  handleAction := fun request device =>
    let out := server.handleAction request device.1
    (out.1, out.2, device.2 ++ [out.1.status])

/-- The handler of an endpoint with a device, in its own context. -/
def deviceHandler (logicalDevice : Option (ILogicalDevice δ)) (context : ServerContext) :
    XdlmsServerHandler (δ × List ServerStatus) :=
  xdlmsServerAdapter (recordingService (cosemServiceDispatcher logicalDevice context))

/-- Nothing reached the device, and every service that was called answered that
    there is no association. -/
def Refuses (before after : δ × List ServerStatus) : Prop :=
  after.1 = before.1 ∧
    ∃ answers, after.2 = before.2 ++ answers ∧ ∀ answer ∈ answers, answer = .notAssociated

theorem Refuses.refl (device : δ × List ServerStatus) : Refuses device device :=
  ⟨rfl, [], (List.append_nil _).symm, fun _ h => absurd h List.not_mem_nil⟩

theorem refuses_once (device : δ × List ServerStatus) :
    Refuses device (device.1, device.2 ++ [.notAssociated]) :=
  ⟨rfl, [.notAssociated], rfl, fun _ h => List.mem_singleton.mp h⟩

/-- A name that has passed the xDLMS layer passes the object model. -/
theorem validateObjectKey_of_validateName (classId : UInt16) (logicalName : Apdu.LogicalName)
    (id : UInt8) (h : Xdlms.validateName classId logicalName id = .ok ()) :
    Cosem.validateObjectKey ⟨classId, 0, logicalName⟩ = .ok () ∧ id ≠ 0 := by
  unfold Xdlms.validateName at h
  by_cases hzero : classId = 0 ∨ id = 0
  · simp [hzero] at h
  · by_cases hempty : logicalName = Xdlms.emptyLogicalName
    · simp [hzero, hempty] at h
    · rw [not_or] at hzero
      have hnonzero : Cosem.LogicalName.isEmpty logicalName ≠ true := by
        intro hall
        refine hempty ?_
        cases logicalName
        simp only [Cosem.LogicalName.isEmpty, Apdu.LogicalName.bytes, List.all_cons,
          List.all_nil, Bool.and_true, Bool.and_eq_true, beq_iff_eq] at hall
        rcases hall with ⟨h0, h1, h2, h3, h4, h5⟩
        rw [h0, h1, h2, h3, h4, h5]
        rfl
      refine ⟨?_, hzero.2⟩
      unfold Cosem.validateObjectKey
      exact if_neg (not_or.mpr ⟨hzero.1, hnonzero⟩)

variable (logicalDevice : Option (ILogicalDevice δ)) (context : ServerContext)

/-- Without an association, every service that comes through is refused. -/
theorem refuses_of_not_associated (hassociated : context.isAssociated = false) :
    HandlerKeeps (deviceHandler logicalDevice context) Refuses where
  refl := Refuses.refl
  get := fun indication device hvalid => by
    -- The dispatcher looks at the name first, and the xDLMS layer has looked at it before.
    have hkey := validateObjectKey_of_validateName _ _ _ hvalid
    have hdescriptor :=
      (Cosem.validateAttributeDescriptor_eq_ok_iff
        (Server.toServerDescriptor indication.descriptor)).mpr hkey
    have hanswer := Server.handleGet_of_not_associated logicalDevice context hassociated
      { invokeId := indication.invokeId
        descriptor := Server.toServerDescriptor indication.descriptor } device.1 hdescriptor
    simp only [deviceHandler, xdlmsServerAdapter, Server.XdlmsServerAdapter.handleGet,
      recordingService, hanswer]
    exact refuses_once device
  set := fun indication device hvalid => by
    have hkey := validateObjectKey_of_validateName _ _ _ hvalid
    have hdescriptor :=
      (Cosem.validateAttributeDescriptor_eq_ok_iff
        (Server.toServerDescriptor indication.descriptor)).mpr hkey
    have hanswer := Server.handleSet_of_not_associated logicalDevice context hassociated
      { invokeId := indication.invokeId
        descriptor := Server.toServerDescriptor indication.descriptor
        data := indication.data } device.1 hdescriptor
    simp only [deviceHandler, xdlmsServerAdapter, Server.XdlmsServerAdapter.handleSet,
      recordingService, hanswer]
    exact refuses_once device
  action := fun indication device hvalid => by
    have hkey := validateObjectKey_of_validateName _ _ _ hvalid
    have hdescriptor :=
      (Cosem.validateMethodDescriptor_eq_ok_iff
        (Server.toServerMethodDescriptor indication.descriptor)).mpr hkey
    have hanswer := Server.handleAction_of_not_associated logicalDevice context hassociated
      { invokeId := indication.invokeId
        descriptor := Server.toServerMethodDescriptor indication.descriptor
        parameter := indication.parameter.getD [] } device.1 hdescriptor
    simp only [deviceHandler, xdlmsServerAdapter, Server.XdlmsServerAdapter.handleAction,
      recordingService, hanswer]
    exact refuses_once device

/-- What no service changes, no call of an endpoint changes. -/
theorem device_step (related : δ → δ → Prop) (endpoint : ServerEndpoint)
    (h : HandlerKeeps (handler endpoint.context) related) (input : EndpointInput) (device : δ) :
    related device (ServerEndpoint.step ciphers options handler input endpoint device).2.2 := by
  have hsteps := ServerEndpoint.steps_step ciphers options handler input endpoint device
  generalize ServerEndpoint.step ciphers options handler input endpoint device = out at *
  cases hsteps with
  | service environment requestApdu looked hopen hreceived hhandled result hresult =>
      rcases frame_of_handled ciphers options requestApdu endpoint looked hhandled with
        ⟨-, -, hcontext, -⟩
      rw [← hcontext] at h
      rw [← hresult]
      exact Xdlms.device_processRequest (handler looked.context) Xdlms.defaultServiceOptions
        (ServerEndpoint.securityProcessor ciphers options) related h requestApdu
        (looked.processor device)
  | nothing input status => exact h.refl device
  | notNegotiated environment status hls association hclosed => exact h.refl device
  | opened environment hclosed hvalid hplain => exact h.refl device
  | negotiated environment server hls remoteSystemTitle hclosed hvalid hnegotiate haccept =>
      exact h.refl device
  | released environment requestApdu hopen hreceived hrelease => exact h.refl device
  | notReleased environment status hopen => exact h.refl device
  | hlsReply environment requestApdu outcome after hopen hreceived hhandled =>
      exact h.refl device
  | closed channelClose hopen => exact h.refl device

end Runs

/-- The authentications that have a strategy. -/
theorem exists_makeHlsStrategy (options : ServerEndpointOptions)
    (hhls : options.security.authentication = .highPassword ∨
      options.security.authentication = .highGmac) :
    ∃ strategy, makeHlsStrategy options.profile options.security = some strategy := by
  unfold makeHlsStrategy
  rcases hhls with h | h
  · rw [h]
    exact ⟨_, rfl⟩
  · rw [h]
    exact ⟨_, rfl⟩

/-- The invariant, in every state a run reaches. -/
theorem gate_run (ciphers : Ciphers) (options : ServerEndpointOptions)
    (hnegotiate : options.negotiateAssociation = true)
    (hhls : options.security.authentication = .highPassword ∨
      options.security.authentication = .highGmac)
    {δ : Type} (handler : ServerContext → XdlmsServerHandler δ) (device : δ)
    (inputs : List EndpointInput) :
    Gate ciphers options
      (run (ServerEndpoint.machineStep ciphers options handler) inputs
        (ServerEndpoint.create options, device))
      (final (ServerEndpoint.machineStep ciphers options handler) inputs
        (ServerEndpoint.create options, device)) := by
  rcases exists_makeHlsStrategy options hhls with ⟨strategy, hstrategy⟩
  refine Machine.holds_of_every_step _ (Gate ciphers options) ?_ inputs _ ?_
  · intro history state input h
    exact gate_step ciphers options handler hnegotiate strategy hstrategy history state input h
  · intro hopen
    exact absurd hopen (by simp [ServerEndpoint.create])

/-- A state whose reply is missing is not associated. -/
theorem not_associated_of_gate {δ : Type} (ciphers : Ciphers) (options : ServerEndpointOptions)
    (history : List (EndpointTransition δ)) (state : ServerEndpoint × δ)
    (h : Gate ciphers options history state) (hopen : state.1.isOpen = true)
    (hmissing : ¬ Authenticated ciphers options history) :
    state.1.context.isAssociated = false := by
  rcases h hopen with ⟨opening, later, server, hls, hlast, hserver, -, -, hstate⟩
  rcases hstate with ⟨-, hnot⟩ | ⟨t, ht, haccepts⟩
  · exact hnot
  · exact absurd ⟨opening, later, server, hlast, hserver, t, ht, haccepts⟩ hmissing

/-- An open endpoint with high-level security is associated only when the
    client has replied to the challenge of the last opening, and until then
    every service that reaches the dispatcher is refused. -/
theorem authentication_gate (ciphers : Ciphers) (options : ServerEndpointOptions)
    (hnegotiate : options.negotiateAssociation = true)
    (hhls : options.security.authentication = .highPassword ∨
      options.security.authentication = .highGmac) :
    (∀ (δ : Type) (handler : ServerContext → XdlmsServerHandler δ) (device : δ)
        (inputs : List EndpointInput),
      let step := ServerEndpoint.machineStep ciphers options handler
      let start := (ServerEndpoint.create options, device)
      (final step inputs start).1.isOpen = true →
        (final step inputs start).1.context.isAssociated = true →
        Authenticated ciphers options (run step inputs start)) ∧
    (∀ (δ : Type) (logicalDevice : Option (ILogicalDevice δ)) (device : δ × List ServerStatus)
        (inputs : List EndpointInput) (input : EndpointInput),
      let step := ServerEndpoint.machineStep ciphers options (deviceHandler logicalDevice)
      let start := (ServerEndpoint.create options, device)
      (final step inputs start).1.isOpen = true →
        ¬ Authenticated ciphers options (run step inputs start) →
        Refuses (final step inputs start).2 (step input (final step inputs start)).2.2) := by
  refine ⟨?_, ?_⟩
  · intro δ handler device inputs step start hopen hassociated
    by_contra hmissing
    have hnot := not_associated_of_gate ciphers options _ _
      (gate_run ciphers options hnegotiate hhls handler device inputs) hopen hmissing
    rw [hassociated] at hnot
    exact absurd hnot (by simp)
  · -- No service reaches the device, whatever the input is.
    intro δ logicalDevice device inputs input step start hopen hmissing
    have hnot := not_associated_of_gate ciphers options _ _
      (gate_run ciphers options hnegotiate hhls (deviceHandler logicalDevice) device inputs)
      hopen hmissing
    exact device_step ciphers options (deviceHandler logicalDevice) Refuses _
      (refuses_of_not_associated logicalDevice _ hnot) input _

/-! ### A client with a password -/

/-- The least a run with an authentication has done is to open and to reply. -/
theorem not_authenticated_of_length {δ : Type} (ciphers : Ciphers)
    (options : ServerEndpointOptions) (history : List (EndpointTransition δ))
    (hlength : history.length ≤ 1) : ¬ Authenticated ciphers options history := by
  rintro ⟨opening, later, server, ⟨-, -, earlier, hhistory⟩, -, t, ht, -⟩
  have hpositive : 0 < later.length := List.length_pos_of_mem ht
  rw [hhistory, List.length_append, List.length_cons] at hlength
  omega

def passwordOptions : ServerEndpointOptions where
  security :=
    { authentication := .highPassword
      password := .bytes [0x31, 0x32, 0x33, 0x34, 0x35, 0x36, 0x37, 0x38] }
  negotiateAssociation := true

def firstServerChallenge : Security.Challenge where
  bytes := [0xA0, 0xA1, 0xA2, 0xA3, 0xA4, 0xA5, 0xA6, 0xA7, 0xA8, 0xA9, 0xAA, 0xAB, 0xAC, 0xAD,
    0xAE, 0xAF]
  size := (rfl : Security.challengeSize = Security.challengeSize)

/-- What AES makes of the two challenges under the password. -/
def passwordCiphers : Ciphers where
  gcm :=
    { encrypt := fun _ _ _ _ => none
      decrypt := fun _ _ _ _ _ => none }
  ecb :=
    { encrypt := fun key block =>
        if key ≠ [0x31, 0x32, 0x33, 0x34, 0x35, 0x36, 0x37, 0x38, 0, 0, 0, 0, 0, 0, 0, 0] then
          none
        else if block = firstServerChallenge.bytes then
          some [0x9F, 0x7A, 0x5F, 0x66, 0xE7, 0x50, 0x15, 0xCC, 0x00, 0xF0, 0xD1, 0x8C, 0x0B, 0x50,
            0xA2, 0xA0]
        else if block = [0xC0, 1, 2, 3, 4, 5, 6, 7, 0, 0, 0, 0, 0, 0, 0, 0] then
          some [0x08, 0x9E, 0xF7, 0x77, 0xD7, 0x2A, 0x95, 0x58, 0xDC, 0xCB, 0xA0, 0x44, 0x28, 0x9C,
            0xC4, 0x35]
        else
          none }

/-- Open with an association request. -/
def openingWith (aarq : Bytes) (random : Option Security.Challenge) : EndpointInput :=
  .openEndpoint
    { channelOpen := .ok ()
      accept :=
        { channelOpen := .ok ()
          receive := .ok aarq
          random := random
          send := .ok () } }

/-- A request on a channel that works. -/
def requestOf (requestApdu : Bytes) : EndpointInput :=
  .runOnce
    { receive := .ok requestApdu
      send := .ok ()
      close := .ok () }

/-- The request of a client whose challenge is `C0 01 02 03 04 05 06 07`. -/
def passwordOpening : EndpointInput :=
  openingWith
    [0x60, 0x2B, 0x8A, 0x02, 0x07, 0x80, 0x8B, 0x07, 0x60, 0x85, 0x74, 0x05, 0x08, 0x02, 0x02, 0xAC,
      0x0A, 0x80, 0x08, 0xC0, 0x01, 0x02, 0x03, 0x04, 0x05, 0x06, 0x07, 0xBE, 0x10, 0x04, 0x0E,
      0x01, 0x00, 0x00, 0x00, 0x06, 0x5F, 0x1F, 0x04, 0x00, 0x00, 0x7E, 0x1F, 0x02, 0x00]
    (some firstServerChallenge)

def passwordReply : EndpointInput :=
  requestOf
    [0xC3, 0x01, 0x81, 0x00, 0x0F, 0x00, 0x00, 0x28, 0x00, 0x00, 0xFF, 0x01, 0x01, 0x09, 0x10, 0x9F,
      0x7A, 0x5F, 0x66, 0xE7, 0x50, 0x15, 0xCC, 0x00, 0xF0, 0xD1, 0x8C, 0x0B, 0x50, 0xA2, 0xA0]

/-- A read of one register. -/
def getRegister : Bytes :=
  [0xC0, 0x01, 0x81, 0x00, 0x03, 0x01, 0x00, 0x01, 0x08, 0x00, 0xFF, 0x02, 0x00]

/-- The gate of this client: its reply is behind the association, and before the
    reply its read is refused. -/
theorem authentication_gate_password :
    let step := ServerEndpoint.machineStep passwordCiphers passwordOptions
      (deviceHandler (none : Option (ILogicalDevice Unit)))
    let start : ServerEndpoint × Unit × List ServerStatus :=
      (ServerEndpoint.create passwordOptions, (), [])
    Authenticated passwordCiphers passwordOptions
        (run step [passwordOpening, passwordReply] start) ∧
      Refuses (final step [passwordOpening] start).2
        (step (requestOf getRegister) (final step [passwordOpening] start)).2.2 := by
  intro step start
  have hgate := authentication_gate passwordCiphers passwordOptions rfl (.inl rfl)
  refine ⟨?_, ?_⟩
  · exact hgate.1 _ (deviceHandler none) ((), []) [passwordOpening, passwordReply]
      (by decide +kernel) (by decide +kernel)
  · exact hgate.2 Unit none ((), []) [passwordOpening] (requestOf getRegister)
      (by decide +kernel) (not_authenticated_of_length _ _ _ (Nat.le_refl 1))

end Endpoint

end Dlms
