import Dlms.Hdlc.Connection

/-!
# The calls of a session

A session is a machine: its user builds frames and hands it the frames that
have come in, in any order. A frame can be anything that a codec decodes, from
any peer. The runs here are those of one session, whatever is on the other end.

## Main definitions

* `SessionCall`, `call`: The calls.
* `confirming`: A session with the limits of the answer that it has received.

## Theorems

* `resetSequences_receiveFrame`: Frames that touch only the numbers.
* `buildConnectRequestInternal_cases`, `receiveSnrm_cases`, `receiveUa_cases`: What
  the calls of a connection do.
-/

namespace Dlms

namespace Hdlc

/-- What a user does with a session. -/
inductive SessionCall where
  | buildConnectRequest
  | buildConnectRequestWith (userInformation : Bytes)
  | buildConnectResponse
  | buildDisconnectRequest (userInformation : Bytes)
  | buildDisconnectResponse
  | buildDmResponse
  | buildInformationFrame (information : Bytes) (pollFinal : Bool)
  | buildReceiveReadyFrame (pollFinal : Bool)
  | receiveFrame (frame : HdlcFrame)
  deriving DecidableEq

namespace HdlcSession

/-- A call gives a frame, if it builds one, and changes the session. -/
def call (call : SessionCall) (session : HdlcSession) : Except HdlcStatus Bytes × HdlcSession :=
  match call with
  | .buildConnectRequest => session.buildConnectRequest
  | .buildConnectRequestWith userInformation => session.buildConnectRequestWith userInformation
  | .buildConnectResponse => session.buildConnectResponse
  | .buildDisconnectRequest userInformation => session.buildDisconnectRequest userInformation
  | .buildDisconnectResponse => session.buildDisconnectResponse
  | .buildDmResponse => session.buildDmResponse
  | .buildInformationFrame information pollFinal =>
      session.buildInformationFrame information pollFinal
  | .buildReceiveReadyFrame pollFinal => (session.buildReceiveReadyFrame pollFinal, session)
  | .receiveFrame frame =>
      let (received, session) := session.receiveFrame frame
      (received.map fun () => [], session)

section Frames

variable (session : HdlcSession)

/-- An information frame touches nothing but the numbers. -/
theorem resetSequences_receiveInformationFrame (frame : HdlcFrame) :
    (session.receiveInformationFrame frame).2.resetSequences = session.resetSequences := by
  unfold receiveInformationFrame
  split_ifs <;> rfl

/-- Neither does an acknowledgement. -/
theorem resetSequences_receiveSupervisoryFrame (frame : HdlcFrame) :
    (session.receiveSupervisoryFrame frame).2.resetSequences = session.resetSequences := by
  unfold receiveSupervisoryFrame
  by_cases hstate : session.state ≠ .connected
  · rw [if_pos hstate]
  · rw [if_neg hstate]
    cases frame.control.supervisoryKind with
    | error status => rfl
    | ok kind =>
        simp only []
        split_ifs <;> rfl

/-- What is not an unnumbered frame for this session touches nothing but the
    numbers. -/
theorem resetSequences_receiveFrame (frame : HdlcFrame)
    (h : ¬(session.incomingAddressesMatch frame = true ∧
      frame.control.frameKind = .unnumbered)) :
    (session.receiveFrame frame).2.resetSequences = session.resetSequences := by
  unfold receiveFrame
  by_cases hmatch : session.incomingAddressesMatch frame = true
  · rw [hmatch, Bool.not_true, if_neg Bool.false_ne_true]
    cases hkind : frame.control.frameKind with
    | information => exact session.resetSequences_receiveInformationFrame frame
    | supervisory => exact session.resetSequences_receiveSupervisoryFrame frame
    | unnumbered => exact absurd ⟨hmatch, hkind⟩ h
  · rw [Bool.not_eq_true] at hmatch
    rw [hmatch, Bool.not_false, if_pos rfl]

/-- An unnumbered frame for this session. -/
theorem receiveFrame_unnumbered (frame : HdlcFrame)
    (hmatch : session.incomingAddressesMatch frame = true)
    (hkind : frame.control.frameKind = .unnumbered) :
    session.receiveFrame frame = session.receiveUnnumberedFrame frame := by
  unfold receiveFrame
  rw [hmatch, Bool.not_true, if_neg Bool.false_ne_true, hkind]

/-- The kind of a frame that is not unnumbered. -/
theorem unnumberedKind_eq_ok (control : HdlcControl) (kind : HdlcUnnumberedKind)
    (h : control.unnumberedKind = .ok kind) : control.frameKind = .unnumbered := by
  by_contra hkind
  rw [HdlcControl.unnumberedKind, if_pos hkind] at h
  cases h

/-- A frame changes as much of the numbers as it may. -/
theorem resetSequences_buildInformationFrame (information : Bytes) (pollFinal : Bool) :
    (session.buildInformationFrame information pollFinal).2.resetSequences =
      session.resetSequences := by
  rcases session.buildInformationFrame_cases information pollFinal with
    ⟨status, h⟩ | ⟨-, field, -, -, h⟩
  · rw [h]
  · rw [h]
    rfl

/-! ### What the calls of a connection do -/

/-- A request is refused, or the session waits for its answer. -/
theorem buildConnectRequestInternal_cases (includeNegotiation : Bool) (userInformation : Bytes) :
    (∃ status, session.buildConnectRequestInternal includeNegotiation userInformation =
        (.error status, session)) ∨
      session.options.role = .client ∧ session.state = .disconnected ∧
        ∃ output, session.buildConnectRequestInternal includeNegotiation userInformation =
          (.ok output, { session.resetSequences with state := .awaitingConnection }) := by
  unfold buildConnectRequestInternal
  by_cases hrole : session.options.role ≠ .client
  · rw [if_pos hrole]
    exact .inl ⟨_, rfl⟩
  rw [if_neg hrole]
  by_cases hstate : session.state ≠ .disconnected
  · rw [if_pos hstate]
    exact .inl ⟨_, rfl⟩
  rw [if_neg hstate]
  rw [ne_eq, not_not] at hrole hstate
  dsimp only
  cases session.buildFrame snrmControl _ with
  | error status => exact .inl ⟨_, rfl⟩
  | ok output => exact .inr ⟨hrole, hstate, output, rfl⟩

/-- A SNRM is refused, or it makes no sense, or its response is due. -/
theorem receiveSnrm_cases (information : Bytes) :
    (¬(session.options.role = .server ∧ session.state = .disconnected) ∧
        session.receiveSnrm information = (.error .unsupportedFrame, session)) ∨
      (session.options.role = .server ∧ session.state = .disconnected) ∧
        ((∃ status, parseSnrmInfoField information = .error status ∧
            session.receiveSnrm information =
              (.error status, { session with
                receivedUserInformation := []
                pendingNegotiation := none
                dmResponsePending := true })) ∨
          ∃ proposed consumed, parseSnrmInfoField information = .ok (proposed, consumed) ∧
            session.receiveSnrm information =
              (.ok (), { session.resetSequences with
                connectResponsePending := true
                pendingNegotiation := if consumed > 0 then some proposed else none
                receivedUserInformation := information.drop consumed })) := by
  unfold receiveSnrm
  by_cases hready : session.options.role = .server ∧ session.state = .disconnected
  · have hnot : ¬(session.options.role ≠ .server ∨ session.state ≠ .disconnected) := by
      rw [not_or, not_not, not_not]
      exact hready
    refine .inr ⟨hready, ?_⟩
    rw [if_neg hnot]
    dsimp only
    -- Without information the parameters are the defaults, and nothing of it is consumed.
    by_cases hempty : information = []
    · rw [if_pos hempty, hempty]
      exact .inr ⟨defaultSnrmParams, 0, rfl, rfl⟩
    · rw [if_neg hempty]
      rcases hparsed : parseSnrmInfoField information with status | ⟨proposed, consumed⟩
      · exact .inl ⟨status, rfl, rfl⟩
      · exact .inr ⟨proposed, consumed, rfl, rfl⟩
  · have hnot : session.options.role ≠ .server ∨ session.state ≠ .disconnected := by
      rcases not_and_or.mp hready with hrole | hstate
      · exact .inl hrole
      · exact .inr hstate
    rw [if_pos hnot]
    exact .inl ⟨hready, rfl⟩

/-- The session with the limits of a UA. -/
def confirming (information : Bytes) : HdlcSession :=
  match parseSnrmInfoField information with
  | .ok (params, consumed) =>
      if consumed > 0 then session.withNegotiatedLimits (confirmedLimits params) else session
  | .error _ => session

/-- A UA changes the limits or nothing. -/
theorem confirming_cases (information : Bytes) :
    session.confirming information = session ∨
      ∃ limits, session.confirming information = session.withNegotiatedLimits limits := by
  unfold confirming
  rcases parseSnrmInfoField information with status | ⟨params, consumed⟩
  · exact .inl rfl
  · dsimp only
    by_cases hsome : consumed > 0
    · rw [if_pos hsome]
      exact .inr ⟨_, rfl⟩
    · rw [if_neg hsome]
      exact .inl rfl

/-- A UA connects, disconnects, or is refused. -/
theorem receiveUa_cases (information : Bytes) :
    (session.state = .awaitingConnection ∧ session.receiveUa information =
        (.ok (), { (session.confirming information).resetSequences with state := .connected })) ∨
      (session.state = .awaitingDisconnect ∧ session.receiveUa information =
        (.ok (), { session.resetSequences with state := .disconnected })) ∨
      (session.state ≠ .awaitingConnection ∧ session.state ≠ .awaitingDisconnect) ∧
        session.receiveUa information = (.error .unsupportedFrame, session) := by
  unfold receiveUa
  cases session.state with
  | disconnected => exact .inr (.inr ⟨by decide, rfl⟩)
  | connected => exact .inr (.inr ⟨by decide, rfl⟩)
  | awaitingConnection => exact .inl ⟨rfl, rfl⟩
  | awaitingDisconnect => exact .inr (.inl ⟨rfl, rfl⟩)

end Frames

end HdlcSession

/-! ### A reader and a meter -/

theorem supported_oneOctet : isSupportedEncodedSize 1 = true := rfl

theorem bounded_readerAddress : 0x10 ≤ maximumRawValue 1 := by decide

def readerAddress : HdlcAddress where
  rawValue := 0x10
  encodedSize := 1
  supported := supported_oneOctet
  bounded := bounded_readerAddress

theorem bounded_meterAddress : 0x01 ≤ maximumRawValue 1 := by decide

def meterAddress : HdlcAddress where
  rawValue := 0x01
  encodedSize := 1
  supported := supported_oneOctet
  bounded := bounded_meterAddress

/-- The sessions of a reader and a meter with these limits of their own. -/
def sessionOptions (role : HdlcSessionRole) (own : HdlcSessionNegotiationLimits) :
    HdlcSessionOptions where
  role := role
  clientAddress := readerAddress
  serverAddress := meterAddress
  limits := defaultHdlcCodecLimits
  negotiationLimits := own

/-- A frame from the reader to the meter. -/
def readerFrame (control : HdlcControl) (information : Bytes) : HdlcFrame where
  segmented := false
  destination := meterAddress
  source := readerAddress
  control := control
  information := information

/-- A frame from the meter to the reader. -/
def meterFrame (control : HdlcControl) (information : Bytes) : HdlcFrame where
  segmented := false
  destination := readerAddress
  source := meterAddress
  control := control
  information := information

theorem accepted_snrm : isControl snrmControl = true := by decide

def snrm : HdlcControl where
  rawValue := snrmControl
  accepted := accepted_snrm

theorem accepted_ua : isControl uaControl = true := by decide

def ua : HdlcControl where
  rawValue := uaControl
  accepted := accepted_ua

theorem accepted_disc : isControl discControl = true := by decide

def disc : HdlcControl where
  rawValue := discControl
  accepted := accepted_disc

theorem accepted_dm : isControl dmControl = true := by decide

def dm : HdlcControl where
  rawValue := dmControl
  accepted := accepted_dm

end Hdlc

end Dlms
