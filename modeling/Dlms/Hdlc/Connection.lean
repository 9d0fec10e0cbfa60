import Dlms.Hdlc.Session

/-!
# Connecting two sessions

The SNRM of a client session and the UA of a server session, each encoded by
one end and decoded by the other. When the exchange succeeds both sessions are
connected and count from zero, whatever parameters they have agreed on.

## Main definitions

* `connectSessions`: The exchange.
* `JustConnected`: A session that counts from zero.
* `Configured`: What the exchange does to the options of a session.
* `answering`, `answered`: A session that is about to answer, and that has.

## Theorems

* `buildConnectResponse_cases`: What an answer does.
* `justConnected_of_connectSessions`, `configured_of_connectSessions`: What the
  exchange leaves.
-/

namespace Dlms

namespace Hdlc

/-- The exchange of a SNRM and a UA; the limits are those each end decodes
    with. -/
def connectSessions (clientLimits serverLimits : HdlcCodecLimits) (client server : HdlcSession) :
    Option (HdlcSession × HdlcSession) :=
  match client.buildConnectRequest with
  | (.error _, _) => none
  | (.ok request, client) =>
      match decodeFrame request serverLimits with
      | .error _ => none
      | .ok frame =>
          match server.receiveFrame frame with
          | (.error _, _) => none
          | (.ok (), server) =>
              match server.buildConnectResponse with
              | (.error _, _) => none
              | (.ok response, server) =>
                  match decodeFrame response clientLimits with
                  | .error _ => none
                  | .ok frame =>
                      match client.receiveFrame frame with
                      | (.error _, _) => none
                      | (.ok (), client) => some (client, server)

/-- A connected session that has sent and received nothing. -/
structure JustConnected (session : HdlcSession) : Prop where
  connected : session.state = .connected
  sendSequence : session.sendSequence = 0
  receiveSequence : session.receiveSequence = 0
  acknowledgeSequence : session.acknowledgeSequence = 0

/-- A session after an exchange keeps its addresses; its limits may follow the
    parameters agreed on. -/
structure Configured (before after : HdlcSession) : Prop where
  role : after.options.role = before.options.role
  clientAddress : after.options.clientAddress = before.options.clientAddress
  serverAddress : after.options.serverAddress = before.options.serverAddress
  limits : after.options.limits = before.options.limits ∨
    after.options.limits = { before.options.limits with
      maximumInformationFieldSize := after.negotiatedLimits.maxInformationFieldLengthTransmit }

theorem Configured.addresses (before after : HdlcSession) (h : Configured before after) :
    after.localAddress = before.localAddress ∧ after.remoteAddress = before.remoteAddress := by
  rw [HdlcSession.localAddress, HdlcSession.remoteAddress, h.role, h.clientAddress,
    h.serverAddress]
  exact ⟨rfl, rfl⟩

namespace HdlcSession

/-- A SNRM leaves the session as it was, but for its numbers and its state. -/
theorem buildConnectRequestInternal_eq_ok (session after : HdlcSession)
    (includeNegotiation : Bool) (userInformation output : Bytes)
    (h : session.buildConnectRequestInternal includeNegotiation userInformation =
      (.ok output, after)) :
    after.state = .awaitingConnection ∧ after.options = session.options ∧
      ∃ information, session.buildFrame snrmControl information = .ok output := by
  unfold buildConnectRequestInternal at h
  by_cases hrole : session.options.role ≠ .client
  · rw [if_pos hrole] at h
    cases h
  · rw [if_neg hrole] at h
    by_cases hstate : session.state ≠ .disconnected
    · rw [if_pos hstate] at h
      cases h
    · rw [if_neg hstate] at h
      dsimp only at h
      generalize hbuilt : session.buildFrame snrmControl _ = built at h
      cases built with
      | error status =>
          cases h
      | ok frame =>
          rcases Prod.mk.inj h with ⟨houtput, rfl⟩
          rw [Except.ok.inj houtput] at hbuilt
          exact ⟨rfl, rfl, _, hbuilt⟩

section Answer

variable (session : HdlcSession)

/-- The session with the limits that it is about to answer with. -/
def answering : HdlcSession :=
  match session.pendingNegotiation with
  | none => session
  | some proposed =>
      session.withNegotiatedLimits
        (answeredLimits (negotiateParams proposed session.options.negotiationLimits))

/-- What the answer says about them. -/
def answerInformation : Bytes :=
  match session.pendingNegotiation with
  | none => []
  | some proposed =>
      encodeSnrmNegotiationBlock (negotiateParams proposed session.options.negotiationLimits)

/-- The session after its answer. -/
def answered : HdlcSession :=
  { session.answering.resetSequences with
    state := .connected
    connectResponsePending := false
    pendingNegotiation := none }

/-- A response is not due, or it does not fit between the limits that are in
    force by then, or the session is connected. -/
theorem buildConnectResponse_cases :
    (¬(session.options.role = .server ∧ session.connectResponsePending = true) ∧
        ∃ status, session.buildConnectResponse = (.error status, session)) ∨
      session.options.role = .server ∧ session.connectResponsePending = true ∧
        ((∃ status,
            session.answering.buildFrame uaControl session.answerInformation = .error status ∧
              session.buildConnectResponse = (.error status, session.answering)) ∨
          ∃ output,
            session.answering.buildFrame uaControl session.answerInformation = .ok output ∧
              session.buildConnectResponse = (.ok output, session.answered)) := by
  by_cases hrole : session.options.role ≠ .server
  · unfold buildConnectResponse
    rw [if_pos hrole]
    exact .inl ⟨fun hdue => hrole hdue.1, _, rfl⟩
  by_cases hpending : session.connectResponsePending = true
  · refine .inr ⟨not_not.mp hrole, hpending, ?_⟩
    -- The answer is built between the limits that it confirms.
    have hbuild : (∀ status,
        session.answering.buildFrame uaControl session.answerInformation = .error status →
          session.buildConnectResponse = (.error status, session.answering)) ∧
        ∀ output,
          session.answering.buildFrame uaControl session.answerInformation = .ok output →
            session.buildConnectResponse = (.ok output, session.answered) := by
      unfold buildConnectResponse
      rw [if_neg hrole, hpending, Bool.not_true, if_neg Bool.false_ne_true, answered, answering,
        answerInformation]
      cases session.pendingNegotiation with
      | none =>
          constructor
          all_goals
            intro _ hbuilt
            dsimp only at hbuilt ⊢
            rw [hbuilt]
      | some proposed =>
          constructor
          all_goals
            intro _ hbuilt
            dsimp only at hbuilt ⊢
            rw [hbuilt]
    cases hbuilt : session.answering.buildFrame uaControl session.answerInformation with
    | error status => exact .inl ⟨status, rfl, hbuild.1 status hbuilt⟩
    | ok output => exact .inr ⟨output, rfl, hbuild.2 output hbuilt⟩
  · refine .inl ⟨fun hdue => hpending hdue.2, ?_⟩
    rw [Bool.not_eq_true] at hpending
    unfold buildConnectResponse
    rw [if_neg hrole, hpending, Bool.not_false, if_pos rfl]
    exact ⟨_, rfl⟩

end Answer

/-- An answer that is built is the one of the limits that it confirms. -/
theorem answered_of_buildConnectResponse (session after : HdlcSession) (output : Bytes)
    (h : session.buildConnectResponse = (.ok output, after)) :
    session.answering.buildFrame uaControl session.answerInformation = .ok output ∧
      after = session.answered := by
  rcases buildConnectResponse_cases session with
    ⟨-, status, hfailed⟩ | ⟨-, -, ⟨status, -, hfailed⟩ | ⟨built, hbuilt, hok⟩⟩
  · rw [hfailed] at h
    cases h
  · rw [hfailed] at h
    cases h
  · rw [hok] at h
    rcases Prod.mk.inj h with ⟨houtput, hafter⟩
    rw [Except.ok.inj houtput] at hbuilt
    exact ⟨hbuilt, hafter.symm⟩

/-- A UA is built from some limits and leaves the session connected. -/
theorem buildConnectResponse_eq_ok (session after : HdlcSession) (output : Bytes)
    (h : session.buildConnectResponse = (.ok output, after)) :
    JustConnected after ∧ ∃ other : HdlcSession, ∃ information,
      other.buildFrame uaControl information = .ok output := by
  rcases answered_of_buildConnectResponse session after output h with ⟨hbuilt, rfl⟩
  exact ⟨⟨rfl, rfl, rfl, rfl⟩, _, _, hbuilt⟩

/-- A session that waits for a UA is connected by it. -/
theorem justConnected_of_receiveUa (session : HdlcSession) (information : Bytes)
    (hstate : session.state = .awaitingConnection) :
    JustConnected (session.receiveUa information).2 := by
  unfold receiveUa
  rw [hstate]
  exact ⟨rfl, rfl, rfl, rfl⟩

/-- A UA leaves the addresses, and the limits follow its parameters. -/
theorem configured_of_receiveUa (session : HdlcSession) (information : Bytes)
    (hstate : session.state = .awaitingConnection) :
    Configured session (session.receiveUa information).2 := by
  unfold receiveUa
  rw [hstate]
  rcases hparsed : parseSnrmInfoField information with status | ⟨params, consumed⟩
  · exact ⟨rfl, rfl, rfl, .inl rfl⟩
  · show Configured session
      { (if consumed > 0 then session.withNegotiatedLimits (confirmedLimits params)
          else session).resetSequences with state := .connected }
    by_cases hsome : consumed > 0
    · rw [if_pos hsome]
      exact ⟨rfl, rfl, rfl, .inr rfl⟩
    · rw [if_neg hsome]
      exact ⟨rfl, rfl, rfl, .inl rfl⟩

theorem configured_of_buildConnectResponse (session after : HdlcSession) (output : Bytes)
    (h : session.buildConnectResponse = (.ok output, after)) : Configured session after := by
  rcases answered_of_buildConnectResponse session after output h with ⟨-, rfl⟩
  -- The limits change in the answer to a proposal only.
  rw [answered, answering]
  cases session.pendingNegotiation with
  | none => exact ⟨rfl, rfl, rfl, .inl rfl⟩
  | some proposed => exact ⟨rfl, rfl, rfl, .inr rfl⟩

/-- A SNRM is accepted between the right addresses, and changes no options and
    asks for no end. -/
theorem receiveFrame_snrm (session after : HdlcSession) (frame : HdlcFrame)
    (hcontrol : frame.control.rawValue = snrmControl)
    (h : session.receiveFrame frame = (.ok (), after)) :
    session.incomingAddressesMatch frame = true ∧ after.options = session.options ∧
      after.disconnectResponsePending = session.disconnectResponsePending := by
  have hkind : frame.control.frameKind = .unnumbered := by
    rw [HdlcControl.frameKind, hcontrol]
    rfl
  have hsnrm : frame.control.unnumberedKind = .ok .snrm := by
    rw [HdlcControl.unnumberedKind, hkind, hcontrol]
    rfl
  unfold receiveFrame receiveUnnumberedFrame at h
  rw [hkind, hsnrm] at h
  by_cases haddresses : (!session.incomingAddressesMatch frame) = true
  · rw [if_pos haddresses] at h
    cases h
  · rw [if_neg haddresses] at h
    refine ⟨by rwa [Bool.not_eq_true', Bool.not_eq_false] at haddresses, ?_⟩
    simp only [receiveSnrm] at h
    split_ifs at h with hstate hnothing
    · cases h
    · rw [← (Prod.mk.inj h).2]
      exact ⟨rfl, rfl⟩
    · rcases hparsed : parseSnrmInfoField frame.information with status | ⟨params, consumed⟩
      · simp [hparsed] at h
      · simp only [hparsed] at h
        rw [← (Prod.mk.inj h).2]
        exact ⟨rfl, rfl⟩

theorem receiveFrame_ua (session after : HdlcSession) (frame : HdlcFrame)
    (hcontrol : frame.control.rawValue = uaControl)
    (h : session.receiveFrame frame = (.ok (), after)) :
    session.receiveUa frame.information = (.ok (), after) := by
  have hkind : frame.control.frameKind = .unnumbered := by
    rw [HdlcControl.frameKind, hcontrol]
    rfl
  have hua : frame.control.unnumberedKind = .ok .ua := by
    rw [HdlcControl.unnumberedKind, hkind, hcontrol]
    rfl
  unfold receiveFrame receiveUnnumberedFrame at h
  rw [hkind, hua] at h
  by_cases haddresses : (!session.incomingAddressesMatch frame) = true
  · rw [if_pos haddresses] at h
    cases h
  · rw [if_neg haddresses] at h
    exact h

end HdlcSession

/-! ### A successful exchange -/

/-- The sessions on the way through an exchange, and its frames. -/
theorem connectSessions_eq_some (clientLimits serverLimits : HdlcCodecLimits)
    (client server clientAfter serverAfter : HdlcSession)
    (h : connectSessions clientLimits serverLimits client server =
      some (clientAfter, serverAfter)) :
    ∃ request waiting snrm answering response ua,
      client.buildConnectRequest = (.ok request, waiting) ∧
        decodeFrame request serverLimits = .ok snrm ∧
        server.receiveFrame snrm = (.ok (), answering) ∧
        answering.buildConnectResponse = (.ok response, serverAfter) ∧
        decodeFrame response clientLimits = .ok ua ∧
        waiting.receiveFrame ua = (.ok (), clientAfter) := by
  unfold connectSessions at h
  rcases hrequest : client.buildConnectRequest with ⟨status | request, waiting⟩
  · simp [hrequest] at h
  simp only [hrequest] at h
  rcases hsnrm : decodeFrame request serverLimits with status | snrm
  · simp [hsnrm] at h
  simp only [hsnrm] at h
  rcases hreceived : server.receiveFrame snrm with ⟨status | accepted, answering⟩
  · simp [hreceived] at h
  simp only [hreceived] at h
  rcases hresponse : answering.buildConnectResponse with ⟨status | response, connected⟩
  · simp [hresponse] at h
  simp only [hresponse] at h
  rcases hua : decodeFrame response clientLimits with status | ua
  · simp [hua] at h
  simp only [hua] at h
  rcases hconfirmed : waiting.receiveFrame ua with ⟨status | accepted, confirmed⟩
  · simp [hconfirmed] at h
  simp only [hconfirmed, Option.some.injEq, Prod.mk.injEq] at h
  rcases h with ⟨rfl, rfl⟩
  exact ⟨request, waiting, snrm, answering, response, ua, rfl, hsnrm, hreceived, hresponse, hua,
    hconfirmed⟩

/-- What a session has built from some limits is what the other end decodes. -/
theorem decodeFrame_of_buildFrame (session : HdlcSession) (control : UInt8)
    (information output : Bytes) (limits : HdlcCodecLimits) (frame : HdlcFrame)
    (hbuilt : session.buildFrame control information = .ok output)
    (hdecoded : decodeFrame output limits = .ok frame) :
    ∃ field : HdlcControl, field.rawValue = control ∧
      frame = session.outgoing field information := by
  rcases HdlcSession.buildFrame_eq_ok session _ _ _ hbuilt with ⟨field, hfield, hfits, rfl⟩
  refine ⟨field, hfield, ?_⟩
  rw [decodeFrame_frameBytes _ limits hfits.2.1] at hdecoded
  split_ifs at hdecoded
  exact (Except.ok.inj hdecoded).symm

/-- Both sessions of a successful exchange are connected and count from zero. -/
theorem justConnected_of_connectSessions (clientLimits serverLimits : HdlcCodecLimits)
    (client server clientAfter serverAfter : HdlcSession)
    (h : connectSessions clientLimits serverLimits client server =
      some (clientAfter, serverAfter)) :
    JustConnected clientAfter ∧ JustConnected serverAfter := by
  rcases connectSessions_eq_some _ _ _ _ _ _ h with
    ⟨request, waiting, snrm, answering, response, ua, hrequest, -, -, hresponse, hua, hconfirmed⟩
  have hwaiting := (HdlcSession.buildConnectRequestInternal_eq_ok _ _ _ _ _ hrequest).1
  rcases HdlcSession.buildConnectResponse_eq_ok _ _ _ hresponse with
    ⟨hserver, other, information, hbuilt⟩
  rcases decodeFrame_of_buildFrame other _ _ _ _ _ hbuilt hua with ⟨field, hfield, hframe⟩
  have hclient := HdlcSession.receiveFrame_ua waiting clientAfter ua (by rw [hframe]; exact hfield)
    hconfirmed
  have hjust := HdlcSession.justConnected_of_receiveUa waiting ua.information hwaiting
  rw [hclient] at hjust
  exact ⟨hjust, hserver⟩

/-- After a successful exchange the sessions speak to each other, with limits
    that follow what they have agreed on. -/
theorem configured_of_connectSessions (clientLimits serverLimits : HdlcCodecLimits)
    (client server clientAfter serverAfter : HdlcSession)
    (h : connectSessions clientLimits serverLimits client server =
      some (clientAfter, serverAfter)) :
    Configured client clientAfter ∧ Configured server serverAfter ∧
      client.remoteAddress = server.localAddress ∧ server.remoteAddress = client.localAddress := by
  rcases connectSessions_eq_some _ _ _ _ _ _ h with
    ⟨request, waiting, snrm, answering, response, ua, hrequest, hsnrm, hreceived, hresponse, hua,
      hconfirmed⟩
  rcases HdlcSession.buildConnectRequestInternal_eq_ok _ _ _ _ _ hrequest with
    ⟨hwaiting, hkept, asked, hasked⟩
  -- Each frame is decoded to the one that was built, with the addresses of its sender.
  rcases decodeFrame_of_buildFrame client _ _ _ _ _ hasked hsnrm with ⟨field, hfield, hframe⟩
  rcases HdlcSession.receiveFrame_snrm server answering snrm (by rw [hframe]; exact hfield)
    hreceived with ⟨haddresses, hsame, -⟩
  rcases HdlcSession.buildConnectResponse_eq_ok _ _ _ hresponse with
    ⟨-, other, information, hbuilt⟩
  rcases decodeFrame_of_buildFrame other _ _ _ _ _ hbuilt hua with ⟨answer, hanswer, huaFrame⟩
  have hserver := HdlcSession.configured_of_buildConnectResponse _ _ _ hresponse
  have hclient := HdlcSession.configured_of_receiveUa waiting ua.information hwaiting
  rw [HdlcSession.receiveFrame_ua waiting clientAfter ua (by rw [huaFrame]; exact hanswer)
    hconfirmed] at hclient
  rw [HdlcSession.incomingAddressesMatch, Bool.and_eq_true, beq_iff_eq, beq_iff_eq, hframe]
    at haddresses
  refine ⟨⟨?_, ?_, ?_, ?_⟩, ⟨?_, ?_, ?_, ?_⟩, haddresses.1, haddresses.2.symm⟩
  · rw [hclient.role, hkept]
  · rw [hclient.clientAddress, hkept]
  · rw [hclient.serverAddress, hkept]
  · rw [← hkept]
    exact hclient.limits
  · rw [hserver.role, hsame]
  · rw [hserver.clientAddress, hsame]
  · rw [hserver.serverAddress, hsame]
  · rw [← hsame]
    exact hserver.limits

/-- The server owes the answer to a DISC just when it did before. -/
theorem disconnect_of_connectSessions (clientLimits serverLimits : HdlcCodecLimits)
    (client server clientAfter serverAfter : HdlcSession)
    (h : connectSessions clientLimits serverLimits client server =
      some (clientAfter, serverAfter)) :
    serverAfter.disconnectResponsePending = server.disconnectResponsePending := by
  rcases connectSessions_eq_some _ _ _ _ _ _ h with
    ⟨request, waiting, snrm, answering, response, ua, hrequest, hsnrm, hreceived, hresponse, -, -⟩
  rcases HdlcSession.buildConnectRequestInternal_eq_ok _ _ _ _ _ hrequest with
    ⟨-, -, asked, hasked⟩
  rcases decodeFrame_of_buildFrame client _ _ _ _ _ hasked hsnrm with ⟨field, hfield, hframe⟩
  rcases HdlcSession.receiveFrame_snrm server answering snrm (by rw [hframe]; exact hfield)
    hreceived with ⟨-, -, hsame⟩
  rcases HdlcSession.answered_of_buildConnectResponse answering serverAfter response hresponse with
    ⟨-, rfl⟩
  rw [← hsame, HdlcSession.answered, HdlcSession.answering]
  cases answering.pendingNegotiation with
  | none => rfl
  | some proposed => rfl

end Hdlc

end Dlms
