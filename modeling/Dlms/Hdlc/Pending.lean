import Dlms.Hdlc.Calls
import Dlms.Machine.Run

/-!
# The responses that a session owes

A SNRM, a DISC and a SNRM that makes no sense each leave a flag that their
response is still to be built, and each flag belongs to a state: who owes a UA
to a SNRM is disconnected, who owes one to a DISC is connected, and nobody owes
both a UA and a DM.

A connect response is owed in the right state in every run. The other two can
go wrong, each in its own way: a flag stays when a DM or the user's own DISC
ends the connection it belongs to, and the two answers to a SNRM do not look at
each other. These are the only ways, so that a run is consistent exactly when
it avoids them.

## Main definitions

* `Consistent`: Each flag in its state.
* `Respects`: A call that leaves what is owed.

## Theorems

* `owed_call`: What holds of a connect response in every run.
* `consistent_call_iff`: One call.
* `consistent_iff`: A run is consistent exactly when its calls respect what is
  owed.
* `not_consistent`: A peer can break it.
-/

namespace Dlms

namespace Hdlc

open Machine (Admits run)

/-- Each pending response in the state it belongs to, and not two answers to a
    SNRM. -/
structure Consistent (session : HdlcSession) : Prop where
  connect : session.connectResponsePending = true → session.state = .disconnected
  disconnect : session.disconnectResponsePending = true → session.state = .connected
  single : ¬(session.connectResponsePending = true ∧ session.dmResponsePending = true)

/-- A connect response is owed by a server that is disconnected. -/
def Owed (session : HdlcSession) : Prop :=
  session.connectResponsePending = true →
    session.options.role = .server ∧ session.state = .disconnected

/-- The calls that end a connection, or that answer a SNRM, while nothing is
    owed that does not go with it. -/
def Respects (session : HdlcSession) (call : SessionCall) : Prop :=
  match call with
  | .buildDisconnectRequest userInformation =>
      session.state = .connected →
        (∃ output, session.buildFrame discControl userInformation = .ok output) →
          session.disconnectResponsePending = false
  | .receiveFrame frame =>
      session.incomingAddressesMatch frame = true →
        match frame.control.unnumberedKind with
        | .ok .dm => session.disconnectResponsePending = false
        | .ok .snrm =>
            session.options.role = .server → session.state = .disconnected →
              match parseSnrmInfoField frame.information with
              | .ok _ => session.dmResponsePending = false
              | .error _ => session.connectResponsePending = false
        | _ => True
  | _ => True

namespace HdlcSession

section Calls

variable (session : HdlcSession)

/-- Numbers do not matter. -/
theorem consistent_of_resetSequences (after : HdlcSession)
    (hsame : after.resetSequences = session.resetSequences) (h : Consistent session) :
    Consistent after := by
  have hreset : Consistent after.resetSequences := by
    rw [hsame]
    exact ⟨h.connect, h.disconnect, h.single⟩
  exact ⟨hreset.connect, hreset.disconnect, hreset.single⟩

theorem owed_of_resetSequences (after : HdlcSession)
    (hsame : after.resetSequences = session.resetSequences) (h : Owed session) : Owed after := by
  have hreset : Owed after.resetSequences := by
    rw [hsame]
    exact h
  exact hreset

/-! ### The frames it builds -/

theorem consistent_buildConnectRequestInternal (includeNegotiation : Bool)
    (userInformation : Bytes) (howed : Owed session) (h : Consistent session) :
    Consistent (session.buildConnectRequestInternal includeNegotiation userInformation).2 := by
  rcases session.buildConnectRequestInternal_cases includeNegotiation userInformation with
    ⟨status, hrefused⟩ | ⟨hrole, hstate, output, hbuilt⟩
  · rw [hrefused]
    exact h
  · rw [hbuilt]
    refine ⟨?_, ?_, h.single⟩
    · intro hpending
      -- Only a server owes a connect response.
      rw [(howed hpending).1] at hrole
      cases hrole
    · intro hpending
      have hconnected := h.disconnect hpending
      rw [hstate] at hconnected
      cases hconnected

/-- New limits leave the flags. -/
theorem consistent_answering (h : Consistent session) : Consistent session.answering := by
  unfold answering
  cases session.pendingNegotiation with
  | none => exact h
  | some proposed => exact ⟨h.connect, h.disconnect, h.single⟩

theorem consistent_buildConnectResponse (h : Consistent session) :
    Consistent session.buildConnectResponse.2 := by
  rcases session.buildConnectResponse_cases with
    ⟨-, status, hrefused⟩ | ⟨-, -, ⟨status, -, hunfit⟩ | ⟨output, -, hbuilt⟩⟩
  · rw [hrefused]
    exact h
  · rw [hunfit]
    exact session.consistent_answering h
  · rw [hbuilt]
    exact ⟨fun hpending => absurd hpending Bool.false_ne_true, fun _ => rfl,
      fun hboth => absurd hboth.1 Bool.false_ne_true⟩

/-- A DISC ends the connection that a disconnect response belongs to. -/
theorem consistent_buildDisconnectRequest_iff (userInformation : Bytes) (h : Consistent session) :
    Consistent (session.buildDisconnectRequest userInformation).2 ↔
      Respects session (.buildDisconnectRequest userInformation) := by
  unfold buildDisconnectRequest Respects
  by_cases hstate : session.state = .connected
  · rw [if_neg (not_not.mpr hstate)]
    cases hbuilt : session.buildFrame discControl userInformation with
    | error status =>
        refine iff_of_true h ?_
        rintro - ⟨output, houtput⟩
        rw [hbuilt] at houtput
        cases houtput
    | ok output =>
        -- The state is left, and with it the one that a disconnect response belongs to.
        constructor
        · intro hafter _ _
          cases hpending : session.disconnectResponsePending with
          | false => rfl
          | true => exact absurd (hafter.disconnect hpending) nofun
        · intro hrespects
          have hpending := hrespects hstate ⟨output, hbuilt⟩
          refine ⟨?_, ?_, h.single⟩
          · intro hconnect
            have hdisconnected := h.connect hconnect
            rw [hstate] at hdisconnected
            cases hdisconnected
          · intro hdisconnect
            rw [show session.disconnectResponsePending = true from hdisconnect] at hpending
            exact absurd hpending.symm Bool.false_ne_true
  · rw [if_pos hstate]
    exact iff_of_true h fun hconnected => absurd hconnected hstate

theorem consistent_buildDisconnectResponse (h : Consistent session) :
    Consistent session.buildDisconnectResponse.2 := by
  unfold buildDisconnectResponse
  by_cases hpending : session.disconnectResponsePending = true
  · rw [hpending, Bool.not_true, if_neg Bool.false_ne_true]
    cases session.buildFrame uaControl [] with
    | error status => exact h
    | ok output =>
        exact ⟨fun _ => rfl, fun hagain => absurd hagain Bool.false_ne_true, h.single⟩
  · rw [Bool.not_eq_true] at hpending
    rw [hpending, Bool.not_false, if_pos rfl]
    exact h

theorem consistent_buildDmResponse (h : Consistent session) :
    Consistent session.buildDmResponse.2 := by
  unfold buildDmResponse
  by_cases hpending : session.dmResponsePending = true
  · rw [hpending, Bool.not_true, if_neg Bool.false_ne_true]
    cases session.buildFrame dmControl [] with
    | error status => exact h
    | ok output =>
        exact ⟨h.connect, h.disconnect, fun hboth => absurd hboth.2 Bool.false_ne_true⟩
  · rw [Bool.not_eq_true] at hpending
    rw [hpending, Bool.not_false, if_pos rfl]
    exact h

/-! ### The frames it is given -/

theorem consistent_receiveSnrm_iff (information : Bytes) (h : Consistent session) :
    Consistent (session.receiveSnrm information).2 ↔
      (session.options.role = .server → session.state = .disconnected →
        match parseSnrmInfoField information with
        | .ok _ => session.dmResponsePending = false
        | .error _ => session.connectResponsePending = false) := by
  -- A SNRM makes one of the two responses due, which the other must not be.
  rcases session.receiveSnrm_cases information with
    ⟨hnot, hrefused⟩ | ⟨⟨hrole, hstate⟩, ⟨status, hparsed, hsenseless⟩ |
      ⟨proposed, consumed, hparsed, haccepted⟩⟩
  · rw [hrefused]
    refine ⟨fun _ hrole hstate => absurd ⟨hrole, hstate⟩ hnot, fun _ => h⟩
  · rw [hsenseless, hparsed]
    constructor
    · intro hafter _ _
      cases hconnect : session.connectResponsePending with
      | false => rfl
      | true => exact absurd ⟨hconnect, rfl⟩ hafter.single
    · intro hconnect
      refine ⟨h.connect, h.disconnect, fun hboth => ?_⟩
      rw [show session.connectResponsePending = true from hboth.1] at hconnect
      exact absurd (hconnect hrole hstate).symm Bool.false_ne_true
  · rw [haccepted, hparsed]
    constructor
    · intro hafter _ _
      cases hdm : session.dmResponsePending with
      | false => rfl
      | true => exact absurd ⟨rfl, hdm⟩ hafter.single
    · intro hdm
      refine ⟨fun _ => hstate, h.disconnect, fun hboth => ?_⟩
      rw [show session.dmResponsePending = true from hboth.2] at hdm
      exact absurd (hdm hrole hstate).symm Bool.false_ne_true

theorem consistent_receiveUa (information : Bytes) (h : Consistent session) :
    Consistent (session.receiveUa information).2 := by
  have hnoConnect (hstate : session.state ≠ .disconnected) :
      ¬session.connectResponsePending = true := fun hpending => hstate (h.connect hpending)
  have hnoDisconnect (hstate : session.state ≠ .connected) :
      ¬session.disconnectResponsePending = true := fun hpending => hstate (h.disconnect hpending)
  rcases session.receiveUa_cases information with
    ⟨hstate, hconnected⟩ | ⟨hstate, hdisconnected⟩ | ⟨-, hrefused⟩
  · have hfree := hnoConnect (by rw [hstate]; simp only [ne_eq, reduceCtorEq, not_false_eq_true])
    rw [hconnected]
    rcases session.confirming_cases information with hsame | ⟨limits, hlimits⟩
    · rw [hsame]
      exact ⟨fun hpending => absurd hpending hfree, fun _ => rfl, h.single⟩
    · rw [hlimits]
      exact ⟨fun hpending => absurd hpending hfree, fun _ => rfl, h.single⟩
  · have hfree := hnoDisconnect
      (by rw [hstate]; simp only [ne_eq, reduceCtorEq, not_false_eq_true])
    rw [hdisconnected]
    exact ⟨fun _ => rfl, fun hpending => absurd hpending hfree, h.single⟩
  · rw [hrefused]
    exact h

/-- An unnumbered frame: a DM and a SNRM have to respect what is owed. -/
theorem consistent_receiveUnnumberedFrame_iff (frame : HdlcFrame) (h : Consistent session) :
    Consistent (session.receiveUnnumberedFrame frame).2 ↔
      match frame.control.unnumberedKind with
      | .ok .dm => session.disconnectResponsePending = false
      | .ok .snrm =>
          session.options.role = .server → session.state = .disconnected →
            match parseSnrmInfoField frame.information with
            | .ok _ => session.dmResponsePending = false
            | .error _ => session.connectResponsePending = false
      | _ => True := by
  unfold receiveUnnumberedFrame
  rcases frame.control.unnumberedKind with status | kind
  · exact iff_of_true h trivial
  · cases kind with
    | snrm => exact session.consistent_receiveSnrm_iff frame.information h
    | ua => exact iff_of_true (session.consistent_receiveUa frame.information h) trivial
    | disc =>
        refine iff_of_true ?_ trivial
        dsimp only
        by_cases hstate : session.state ≠ .connected
        · rw [if_pos hstate]
          exact h
        · rw [if_neg hstate]
          exact ⟨h.connect, fun _ => not_not.mp hstate, h.single⟩
    -- A DM ends the connection, and a disconnect response would be left over.
    | dm =>
        dsimp only
        constructor
        · intro hafter
          cases hpending : session.disconnectResponsePending with
          | false => rfl
          | true => exact absurd (hafter.disconnect hpending) (by simp)
        · intro hpending
          refine ⟨fun _ => rfl, fun hdisconnect => ?_, h.single⟩
          rw [show session.disconnectResponsePending = true from hdisconnect] at hpending
          exact absurd hpending.symm Bool.false_ne_true
    | frmr => exact iff_of_true h trivial
    | ui => exact iff_of_true h trivial

/-! ### The connect response -/

theorem owed_buildConnectRequestInternal (includeNegotiation : Bool) (userInformation : Bytes)
    (h : Owed session) :
    Owed (session.buildConnectRequestInternal includeNegotiation userInformation).2 := by
  rcases session.buildConnectRequestInternal_cases includeNegotiation userInformation with
    ⟨status, hrefused⟩ | ⟨hrole, -, output, hbuilt⟩
  · rw [hrefused]
    exact h
  · rw [hbuilt]
    intro hpending
    have hserver := (h hpending).1
    rw [hrole] at hserver
    cases hserver

theorem owed_answering (h : Owed session) : Owed session.answering := by
  unfold answering
  cases session.pendingNegotiation with
  | none => exact h
  | some proposed => exact h

theorem owed_buildConnectResponse (h : Owed session) : Owed session.buildConnectResponse.2 := by
  rcases session.buildConnectResponse_cases with
    ⟨-, status, hrefused⟩ | ⟨-, -, ⟨status, -, hunfit⟩ | ⟨output, -, hbuilt⟩⟩
  · rw [hrefused]
    exact h
  · rw [hunfit]
    exact session.owed_answering h
  · rw [hbuilt]
    exact fun hpending => absurd hpending Bool.false_ne_true

theorem owed_buildDisconnectRequest (userInformation : Bytes) (h : Owed session) :
    Owed (session.buildDisconnectRequest userInformation).2 := by
  unfold buildDisconnectRequest
  by_cases hstate : session.state = .connected
  · rw [if_neg (not_not.mpr hstate)]
    cases session.buildFrame discControl userInformation with
    | error status => exact h
    | ok output =>
        intro hpending
        have hdisconnected := (h hpending).2
        rw [hstate] at hdisconnected
        cases hdisconnected
  · rw [if_pos hstate]
    exact h

theorem owed_buildDisconnectResponse (h : Owed session) :
    Owed session.buildDisconnectResponse.2 := by
  unfold buildDisconnectResponse
  split_ifs
  · exact h
  · cases session.buildFrame uaControl [] with
    | error status => exact h
    | ok output => exact fun hpending => ⟨(h hpending).1, rfl⟩

theorem owed_buildDmResponse (h : Owed session) : Owed session.buildDmResponse.2 := by
  unfold buildDmResponse
  split_ifs
  · exact h
  · cases session.buildFrame dmControl [] with
    | error status => exact h
    | ok output => exact h

theorem owed_receiveUa (information : Bytes) (h : Owed session) :
    Owed (session.receiveUa information).2 := by
  rcases session.receiveUa_cases information with
    ⟨hstate, hconnected⟩ | ⟨hstate, hdisconnected⟩ | ⟨-, hrefused⟩
  · have hfree : ¬session.connectResponsePending = true := by
      intro hpending
      have hdisconnected := (h hpending).2
      rw [hstate] at hdisconnected
      cases hdisconnected
    rw [hconnected]
    rcases session.confirming_cases information with hsame | ⟨limits, hlimits⟩
    · rw [hsame]
      exact fun hpending => absurd hpending hfree
    · rw [hlimits]
      exact fun hpending => absurd hpending hfree
  · rw [hdisconnected]
    exact fun hpending => ⟨(h hpending).1, rfl⟩
  · rw [hrefused]
    exact h

theorem owed_receiveUnnumberedFrame (frame : HdlcFrame) (h : Owed session) :
    Owed (session.receiveUnnumberedFrame frame).2 := by
  unfold receiveUnnumberedFrame
  rcases frame.control.unnumberedKind with status | kind
  · exact h
  · cases kind with
    | snrm =>
        show Owed (session.receiveSnrm frame.information).2
        rcases session.receiveSnrm_cases frame.information with
          ⟨-, hrefused⟩ | ⟨hready, ⟨status, -, hsenseless⟩ | ⟨proposed, consumed, -, haccepted⟩⟩
        · rw [hrefused]
          exact h
        · rw [hsenseless]
          exact h
        · rw [haccepted]
          exact fun _ => hready
    | ua => exact session.owed_receiveUa frame.information h
    | disc =>
        dsimp only
        split_ifs
        · exact h
        · exact h
    | dm => exact fun hpending => ⟨(h hpending).1, rfl⟩
    | frmr => exact h
    | ui => exact h

/-! ### One call -/

/-- A call keeps the flags in their states exactly when it respects what is
    owed. -/
theorem consistent_call_iff (made : SessionCall) (howed : Owed session)
    (h : Consistent session) :
    Consistent (call made session).2 ↔ Respects session made := by
  cases made with
  | buildConnectRequest =>
      exact iff_of_true (session.consistent_buildConnectRequestInternal _ _ howed h) trivial
  | buildConnectRequestWith userInformation =>
      exact iff_of_true (session.consistent_buildConnectRequestInternal _ _ howed h) trivial
  | buildConnectResponse =>
      exact iff_of_true (session.consistent_buildConnectResponse h) trivial
  | buildDisconnectRequest userInformation =>
      exact session.consistent_buildDisconnectRequest_iff userInformation h
  | buildDisconnectResponse =>
      exact iff_of_true (session.consistent_buildDisconnectResponse h) trivial
  | buildDmResponse => exact iff_of_true (session.consistent_buildDmResponse h) trivial
  | buildInformationFrame information pollFinal =>
      exact iff_of_true (session.consistent_of_resetSequences _
        (session.resetSequences_buildInformationFrame information pollFinal) h) trivial
  | buildReceiveReadyFrame pollFinal => exact iff_of_true h trivial
  | receiveFrame frame =>
      show Consistent (session.receiveFrame frame).2 ↔ _
      by_cases hmatch : session.incomingAddressesMatch frame = true
      -- Frames with numbers touch no flag.
      · by_cases hkind : frame.control.frameKind = .unnumbered
        · rw [session.receiveFrame_unnumbered frame hmatch hkind,
            session.consistent_receiveUnnumberedFrame_iff frame h]
          exact ⟨fun hrespects _ => hrespects, fun hrespects => hrespects hmatch⟩
        · refine iff_of_true (session.consistent_of_resetSequences _
            (session.resetSequences_receiveFrame frame fun hboth => hkind hboth.2) h) ?_
          intro _
          rw [HdlcControl.unnumberedKind, if_pos hkind]
          trivial
      · exact iff_of_true (session.consistent_of_resetSequences _
          (session.resetSequences_receiveFrame frame fun hboth => hmatch hboth.1) h)
          fun hother => absurd hother hmatch

/-- A connect response is owed by a server that stays disconnected until it is
    built, whatever comes in. -/
theorem owed_call (made : SessionCall) (h : Owed session) : Owed (call made session).2 := by
  cases made with
  | buildConnectRequest => exact session.owed_buildConnectRequestInternal _ _ h
  | buildConnectRequestWith userInformation =>
      exact session.owed_buildConnectRequestInternal _ _ h
  | buildConnectResponse => exact session.owed_buildConnectResponse h
  | buildDisconnectRequest userInformation =>
      exact session.owed_buildDisconnectRequest userInformation h
  | buildDisconnectResponse => exact session.owed_buildDisconnectResponse h
  | buildDmResponse => exact session.owed_buildDmResponse h
  | buildInformationFrame information pollFinal =>
      exact session.owed_of_resetSequences _
        (session.resetSequences_buildInformationFrame information pollFinal) h
  | buildReceiveReadyFrame pollFinal => exact h
  | receiveFrame frame =>
      show Owed (session.receiveFrame frame).2
      by_cases hunnumbered : session.incomingAddressesMatch frame = true ∧
          frame.control.frameKind = .unnumbered
      · rw [session.receiveFrame_unnumbered frame hunnumbered.1 hunnumbered.2]
        exact session.owed_receiveUnnumberedFrame frame h
      · exact session.owed_of_resetSequences _
          (session.resetSequences_receiveFrame frame hunnumbered) h

end Calls

/-! ### Runs -/

theorem consistent_create (options : HdlcSessionOptions) : Consistent (create options) :=
  ⟨fun hpending => absurd hpending Bool.false_ne_true,
    fun hpending => absurd hpending Bool.false_ne_true,
    fun hboth => absurd hboth.1 Bool.false_ne_true⟩

theorem owed_create (options : HdlcSessionOptions) : Owed (create options) :=
  fun hpending => absurd hpending Bool.false_ne_true

/-- The flags stand in their states all along a run exactly when each of its
    calls respects what is owed. -/
theorem consistent_iff (options : HdlcSessionOptions) (calls : List SessionCall) :
    (∀ t ∈ run call calls (create options), Consistent t.after) ↔
      Admits call (fun _ session made => Respects session made) [] calls (create options) :=
  Machine.forall_after_iff_admits call Owed Consistent Respects
    (fun session made howed => session.owed_call made howed)
    (fun session made howed h => session.consistent_call_iff made howed h) calls []
    (create options) (owed_create options) (consistent_create options)

/-- A SNRM with a parameter that the meter does not know, and one without any. -/
def twoSnrms : List SessionCall :=
  [.receiveFrame (readerFrame snrm [0x81, 0x80, 0x03, 0x09, 0x01, 0x01]),
   .receiveFrame (readerFrame snrm [])]

/-- A connection that is ended by a DISC and, before its answer, by a DM. -/
def discThenDm : List SessionCall :=
  [.receiveFrame (readerFrame snrm []), .buildConnectResponse,
   .receiveFrame (readerFrame disc []), .receiveFrame (readerFrame dm [])]

/-- A meter with the default limits. -/
def meterStart : HdlcSession :=
  create (sessionOptions .server defaultHdlcSessionNegotiationLimits)

theorem final_twoSnrms : (Machine.final call twoSnrms meterStart).connectResponsePending = true ∧
    (Machine.final call twoSnrms meterStart).dmResponsePending = true := by
  decide +kernel

theorem final_discThenDm :
    (Machine.final call discThenDm meterStart).disconnectResponsePending = true ∧
      (Machine.final call discThenDm meterStart).state = .disconnected := by
  decide +kernel

/-- A peer can make a session owe two answers to a SNRM, and an answer to a DISC
    of a connection that has ended. -/
theorem not_consistent :
    (¬∀ t ∈ run call twoSnrms meterStart, Consistent t.after) ∧
      ¬∀ t ∈ run call discThenDm meterStart, Consistent t.after := by
  constructor
  · intro hall
    have hlast := Machine.holds_final call Consistent twoSnrms meterStart
      (consistent_create _) hall
    exact hlast.single final_twoSnrms
  · intro hall
    have hlast := Machine.holds_final call Consistent discThenDm meterStart
      (consistent_create _) hall
    have hconnected := hlast.disconnect final_discThenDm.1
    rw [final_discThenDm.2] at hconnected
    cases hconnected

end HdlcSession

end Hdlc

end Dlms
