import Dlms.Hdlc.Frame

/-!
# The HDLC session

The state machine of one end of a data link: connecting with SNRM and UA,
disconnecting with DISC and UA, and information frames under three-bit sequence
numbers in between. The parameters of the link are proposed in the SNRM and
answered in the UA.

Each function takes the session and gives back what it made of it, next to its
frame or its status. The parameters are sizes and numbers of 32 bits, which are
natural numbers here; where the source casts one to eight bits, so does the
model.

## Main definitions

* `HdlcSession`: What a session keeps.
* `buildConnectRequest`, `buildConnectResponse`, `buildDisconnectRequest`,
  `buildDisconnectResponse`, `buildDmResponse`, `buildInformationFrame`,
  `buildReceiveReadyFrame`: The frames it sends.
* `receiveFrame`: What it makes of a frame.

## Theorems

* `buildInformationFrame_cases`, `buildReceiveReadyFrame_eq_ok`: When a frame is
  built, and what it says.
* `receiveFrame_information`, `receiveFrame_supervisory`: What a session makes
  of the frames of another.
* `toNat_nextSequence`, `toNat_distance`: Sequence numbers as remainders.
-/

namespace Dlms

namespace Hdlc

/-- The end of a link that a session is. -/
inductive HdlcSessionRole where
  | client
  | server
  deriving DecidableEq, Repr

/-- How far a link is set up. -/
inductive HdlcSessionState where
  | disconnected
  | awaitingConnection
  | connected
  | awaitingDisconnect
  deriving DecidableEq, Repr

/-- What a session offers and accepts. -/
structure HdlcSessionNegotiationLimits where
  maxInformationFieldLengthTransmit : Nat
  maxInformationFieldLengthReceive : Nat
  windowSizeTransmit : UInt8
  windowSizeReceive : UInt8
  deriving DecidableEq, Repr

/-- How a session is set up. -/
structure HdlcSessionOptions where
  role : HdlcSessionRole
  clientAddress : HdlcAddress
  serverAddress : HdlcAddress
  limits : HdlcCodecLimits
  negotiationLimits : HdlcSessionNegotiationLimits
  deriving DecidableEq

def snrmControl : UInt8 := 0x93

def uaControl : UInt8 := 0x73

def discControl : UInt8 := 0x53

def dmControl : UInt8 := 0x1F

def defaultMaxInfoFieldLength : Nat := 128

def defaultWindowSize : UInt8 := 1

/-! ### The parameters of a link -/

/-- The parameters of a SNRM or a UA. -/
structure SnrmParams where
  maxInfoTx : Nat
  maxInfoRx : Nat
  windowTx : Nat
  windowRx : Nat
  deriving DecidableEq, Repr

def defaultSnrmParams : SnrmParams where
  maxInfoTx := defaultMaxInfoFieldLength
  maxInfoRx := defaultMaxInfoFieldLength
  windowTx := defaultWindowSize.toNat
  windowRx := defaultWindowSize.toNat

/-- The parameters of a group of octets, one after the other. The fuel is the
    number of octets, and each parameter takes more than one. -/
def parseParameters : Nat → Bytes → SnrmParams → Except HdlcStatus SnrmParams
  | _, [], params => .ok params
  | 0, _ :: _, _ => .error .invalidFrameFormat
  | _, [_], _ => .error .invalidFrameFormat
  | fuel + 1, tag :: valueLength :: rest, params =>
      if valueLength = 0 ∨ valueLength.toNat > 4 ∨ valueLength.toNat > rest.length then
        .error .invalidFrameFormat
      else
        let value := Codec.beValue (rest.take valueLength.toNat)
        let rest := rest.drop valueLength.toNat
        match tag.toNat with
        | 0x05 => parseParameters fuel rest { params with maxInfoTx := value }
        | 0x06 => parseParameters fuel rest { params with maxInfoRx := value }
        | 0x07 => parseParameters fuel rest { params with windowTx := value }
        | 0x08 => parseParameters fuel rest { params with windowRx := value }
        | _ => .error .unsupportedFeature

/-- The parameters in an information field, and how many octets they take;
    what has no header of a parameter block is user information. -/
def parseSnrmInfoField (data : Bytes) : Except HdlcStatus (SnrmParams × Nat) :=
  match data with
  | 0x81 :: 0x80 :: groupLength :: rest =>
      if groupLength.toNat > rest.length then .error .invalidFrameFormat
      else do
        let group := rest.take groupLength.toNat
        let params ← parseParameters group.length group defaultSnrmParams
        return (params, 3 + groupLength.toNat)
  | _ => .ok (defaultSnrmParams, 0)

def encodeSnrmNegotiationBlock (params : SnrmParams) : Bytes :=
  [0x81, 0x80, 0x14,
    0x05, 0x02, UInt8.ofNat (params.maxInfoTx / 256), UInt8.ofNat params.maxInfoTx,
    0x06, 0x02, UInt8.ofNat (params.maxInfoRx / 256), UInt8.ofNat params.maxInfoRx,
    0x07, 0x04, 0x00, 0x00, 0x00, UInt8.ofNat params.windowTx,
    0x08, 0x04, 0x00, 0x00, 0x00, UInt8.ofNat params.windowRx]

/-- The smaller of what is proposed and what the other side can do. -/
def negotiateParams (proposed : SnrmParams) (own : HdlcSessionNegotiationLimits) :
    SnrmParams where
  maxInfoTx := min proposed.maxInfoTx own.maxInformationFieldLengthReceive
  maxInfoRx := min proposed.maxInfoRx own.maxInformationFieldLengthTransmit
  windowTx := min proposed.windowTx own.windowSizeReceive.toNat
  windowRx := min proposed.windowRx own.windowSizeTransmit.toNat

def defaultHdlcSessionNegotiationLimits : HdlcSessionNegotiationLimits where
  maxInformationFieldLengthTransmit := defaultMaxInfoFieldLength
  maxInformationFieldLengthReceive := defaultMaxInfoFieldLength
  windowSizeTransmit := defaultWindowSize
  windowSizeReceive := defaultWindowSize

/-- Zero stands for a default. -/
def normalizedLimits (limits : HdlcSessionNegotiationLimits) : HdlcSessionNegotiationLimits where
  maxInformationFieldLengthTransmit :=
    if limits.maxInformationFieldLengthTransmit = 0 then defaultMaxInfoFieldLength
    else limits.maxInformationFieldLengthTransmit
  maxInformationFieldLengthReceive :=
    if limits.maxInformationFieldLengthReceive = 0 then defaultMaxInfoFieldLength
    else limits.maxInformationFieldLengthReceive
  windowSizeTransmit :=
    if limits.windowSizeTransmit = 0 then defaultWindowSize else limits.windowSizeTransmit
  windowSizeReceive :=
    if limits.windowSizeReceive = 0 then defaultWindowSize else limits.windowSizeReceive

/-! ### The session -/

/-- One end of a link, with its numbers and the answers it owes. -/
structure HdlcSession where
  options : HdlcSessionOptions
  state : HdlcSessionState
  sendSequence : UInt8
  receiveSequence : UInt8
  acknowledgeSequence : UInt8
  connectResponsePending : Bool
  disconnectResponsePending : Bool
  dmResponsePending : Bool
  /-- The parameters of a SNRM that has not been answered. -/
  pendingNegotiation : Option SnrmParams
  negotiatedLimits : HdlcSessionNegotiationLimits
  windowSizeTransmit : UInt8
  receivedUserInformation : Bytes
  deriving DecidableEq

namespace HdlcSession

def create (options : HdlcSessionOptions) : HdlcSession :=
  let own := normalizedLimits options.negotiationLimits
  { options := { options with negotiationLimits := own }
    state := .disconnected
    sendSequence := 0
    receiveSequence := 0
    acknowledgeSequence := 0
    connectResponsePending := false
    disconnectResponsePending := false
    dmResponsePending := false
    pendingNegotiation := none
    negotiatedLimits := own
    windowSizeTransmit := own.windowSizeTransmit
    receivedUserInformation := [] }

/-- The difference of two sequence numbers. -/
def distance (ahead behind : UInt8) : UInt8 := (ahead - behind) &&& 0x07

def canSendInformationFrame (session : HdlcSession) : Bool :=
  distance session.sendSequence session.acknowledgeSequence < session.windowSizeTransmit

def localAddress (session : HdlcSession) : HdlcAddress :=
  match session.options.role with
  | .client => session.options.clientAddress
  | .server => session.options.serverAddress

def remoteAddress (session : HdlcSession) : HdlcAddress :=
  match session.options.role with
  | .client => session.options.serverAddress
  | .server => session.options.clientAddress

def resetSequences (session : HdlcSession) : HdlcSession :=
  { session with
    sendSequence := 0
    receiveSequence := 0
    acknowledgeSequence := 0 }

/-! ### The frames it sends -/

def buildFrame (session : HdlcSession) (control : UInt8) (information : Bytes) :
    Except HdlcStatus Bytes := do
  let control ← HdlcControl.decode control
  encodeFrame
    { segmented := false
      destination := session.remoteAddress
      source := session.localAddress
      control := control
      information := information } session.options.limits

def buildConnectRequestInternal (includeNegotiation : Bool) (userInformation : Bytes)
    (session : HdlcSession) : Except HdlcStatus Bytes × HdlcSession :=
  if session.options.role ≠ .client then (.error .unsupportedFeature, session)
  else if session.state ≠ .disconnected then (.error .unsupportedFrame, session)
  else
    let own := session.options.negotiationLimits
    let negotiation :=
      if includeNegotiation then
        encodeSnrmNegotiationBlock
          { maxInfoTx := own.maxInformationFieldLengthTransmit
            maxInfoRx := own.maxInformationFieldLengthReceive
            windowTx := own.windowSizeTransmit.toNat
            windowRx := own.windowSizeReceive.toNat }
      else []
    match session.buildFrame snrmControl (negotiation ++ userInformation) with
    | .error status => (.error status, session)
    | .ok output =>
        (.ok output, { session.resetSequences with state := .awaitingConnection })

/-- A SNRM, with the parameters when they are not the defaults. -/
def buildConnectRequest (session : HdlcSession) : Except HdlcStatus Bytes × HdlcSession :=
  session.buildConnectRequestInternal
    (session.options.negotiationLimits != defaultHdlcSessionNegotiationLimits) []

/-- A SNRM with the parameters and user information behind them. -/
def buildConnectRequestWith (session : HdlcSession) (userInformation : Bytes) :
    Except HdlcStatus Bytes × HdlcSession :=
  session.buildConnectRequestInternal true userInformation

/-- The limits that follow from the parameters, for the side that answers. -/
def answeredLimits (negotiated : SnrmParams) : HdlcSessionNegotiationLimits where
  maxInformationFieldLengthTransmit := negotiated.maxInfoRx
  maxInformationFieldLengthReceive := negotiated.maxInfoTx
  windowSizeTransmit := UInt8.ofNat negotiated.windowRx
  windowSizeReceive := UInt8.ofNat negotiated.windowTx

/-- The limits that follow from the parameters, for the side that proposed. -/
def confirmedLimits (params : SnrmParams) : HdlcSessionNegotiationLimits where
  maxInformationFieldLengthTransmit := params.maxInfoTx
  maxInformationFieldLengthReceive := params.maxInfoRx
  windowSizeTransmit := UInt8.ofNat params.windowTx
  windowSizeReceive := UInt8.ofNat params.windowRx

/-- The limits are in force: the codec and the window follow them. -/
def withNegotiatedLimits (session : HdlcSession) (limits : HdlcSessionNegotiationLimits) :
    HdlcSession :=
  { session with
    negotiatedLimits := limits
    options := { session.options with
      limits := { session.options.limits with
        maximumInformationFieldSize := limits.maxInformationFieldLengthTransmit } }
    windowSizeTransmit := limits.windowSizeTransmit }

def buildConnectResponse (session : HdlcSession) : Except HdlcStatus Bytes × HdlcSession :=
  if session.options.role ≠ .server then (.error .unsupportedFeature, session)
  else if !session.connectResponsePending then (.error .unsupportedFrame, session)
  else
    -- The limits change before the response is built, and stay when it fails.
    let (information, session) : Bytes × HdlcSession :=
      match session.pendingNegotiation with
      | none => ([], session)
      | some proposed =>
          let negotiated := negotiateParams proposed session.options.negotiationLimits
          (encodeSnrmNegotiationBlock negotiated,
            session.withNegotiatedLimits (answeredLimits negotiated))
    match session.buildFrame uaControl information with
    | .error status => (.error status, session)
    | .ok output =>
        (.ok output, { session.resetSequences with
          state := .connected
          connectResponsePending := false
          pendingNegotiation := none })

def buildDisconnectRequest (session : HdlcSession) (userInformation : Bytes) :
    Except HdlcStatus Bytes × HdlcSession :=
  if session.state ≠ .connected then (.error .unsupportedFrame, session)
  else
    match session.buildFrame discControl userInformation with
    | .error status => (.error status, session)
    | .ok output => (.ok output, { session with state := .awaitingDisconnect })

def buildDisconnectResponse (session : HdlcSession) : Except HdlcStatus Bytes × HdlcSession :=
  if !session.disconnectResponsePending then (.error .unsupportedFrame, session)
  else
    match session.buildFrame uaControl [] with
    | .error status => (.error status, session)
    | .ok output =>
        (.ok output, { session.resetSequences with
          state := .disconnected
          disconnectResponsePending := false })

def buildDmResponse (session : HdlcSession) : Except HdlcStatus Bytes × HdlcSession :=
  if !session.dmResponsePending then (.error .unsupportedFrame, session)
  else
    match session.buildFrame dmControl [] with
    | .error status => (.error status, session)
    | .ok output => (.ok output, { session with dmResponsePending := false })

def buildInformationFrame (session : HdlcSession) (information : Bytes) (pollFinal : Bool) :
    Except HdlcStatus Bytes × HdlcSession :=
  if session.state ≠ .connected then (.error .unsupportedFrame, session)
  else if !session.canSendInformationFrame then (.error .unsupportedFrame, session)
  else
    match session.buildFrame
        (makeInformationControl session.sendSequence session.receiveSequence pollFinal)
        information with
    | .error status => (.error status, session)
    | .ok output =>
        (.ok output, { session with sendSequence := nextSequence session.sendSequence })

def buildReceiveReadyFrame (session : HdlcSession) (pollFinal : Bool) :
    Except HdlcStatus Bytes :=
  if session.state ≠ .connected then .error .unsupportedFrame
  else session.buildFrame (makeReceiveReadyControl session.receiveSequence pollFinal) []

/-! ### What it makes of a frame -/

/-- A sequence number that acknowledges what has been sent and was not
    acknowledged before. -/
def acknowledges (session : HdlcSession) (number : UInt8) : Bool :=
  distance number session.acknowledgeSequence ≤
    distance session.sendSequence session.acknowledgeSequence

def receiveInformationFrame (session : HdlcSession) (frame : HdlcFrame) :
    Except HdlcStatus Unit × HdlcSession :=
  if session.state ≠ .connected then (.error .unsupportedFrame, session)
  else if frame.control.sendSequence ≠ session.receiveSequence then
    (.error .invalidControlField, session)
  else if !session.acknowledges frame.control.receiveSequence then
    (.error .invalidControlField, session)
  else
    (.ok (), { session with
      acknowledgeSequence := frame.control.receiveSequence
      receiveSequence := nextSequence session.receiveSequence })

def receiveSupervisoryFrame (session : HdlcSession) (frame : HdlcFrame) :
    Except HdlcStatus Unit × HdlcSession :=
  if session.state ≠ .connected then (.error .unsupportedFrame, session)
  else
    match frame.control.supervisoryKind with
    | .error status => (.error status, session)
    | .ok _ =>
        if !session.acknowledges frame.control.receiveSequence then
          (.error .invalidControlField, session)
        else
          (.ok (), { session with acknowledgeSequence := frame.control.receiveSequence })

/-- A SNRM: its parameters wait for the response, what is behind them is for the
    user. -/
def receiveSnrm (session : HdlcSession) (information : Bytes) :
    Except HdlcStatus Unit × HdlcSession :=
  if session.options.role ≠ .server ∨ session.state ≠ .disconnected then
    (.error .unsupportedFrame, session)
  else
    let session := { session with receivedUserInformation := [], pendingNegotiation := none }
    let accepted (session : HdlcSession) : Except HdlcStatus Unit × HdlcSession :=
      (.ok (), { session.resetSequences with connectResponsePending := true })
    if information = [] then accepted session
    else
      match parseSnrmInfoField information with
      | .error status => (.error status, { session with dmResponsePending := true })
      | .ok (proposed, consumed) =>
          accepted { session with
            pendingNegotiation := if consumed > 0 then some proposed else none
            receivedUserInformation := information.drop consumed }

/-- A UA: it confirms a connection, with the limits of its parameters if it has
    some, or a disconnection. -/
def receiveUa (session : HdlcSession) (information : Bytes) :
    Except HdlcStatus Unit × HdlcSession :=
  match session.state with
  | .awaitingConnection =>
      let session :=
        match parseSnrmInfoField information with
        | .ok (params, consumed) =>
            if consumed > 0 then session.withNegotiatedLimits (confirmedLimits params)
            else session
        | .error _ => session
      (.ok (), { session.resetSequences with state := .connected })
  | .awaitingDisconnect => (.ok (), { session.resetSequences with state := .disconnected })
  | _ => (.error .unsupportedFrame, session)

def receiveUnnumberedFrame (session : HdlcSession) (frame : HdlcFrame) :
    Except HdlcStatus Unit × HdlcSession :=
  match frame.control.unnumberedKind with
  | .error status => (.error status, session)
  | .ok .snrm => session.receiveSnrm frame.information
  | .ok .ua => session.receiveUa frame.information
  | .ok .disc =>
      if session.state ≠ .connected then (.error .unsupportedFrame, session)
      else
        (.ok (), { session with
          receivedUserInformation := frame.information
          disconnectResponsePending := true })
  | .ok .dm => (.ok (), { session.resetSequences with state := .disconnected })
  | .ok _ => (.error .unsupportedFrame, session)

def incomingAddressesMatch (session : HdlcSession) (frame : HdlcFrame) : Bool :=
  frame.destination == session.localAddress && frame.source == session.remoteAddress

def receiveFrame (session : HdlcSession) (frame : HdlcFrame) :
    Except HdlcStatus Unit × HdlcSession :=
  if !session.incomingAddressesMatch frame then (.error .invalidAddress, session)
  else
    match frame.control.frameKind with
    | .information => session.receiveInformationFrame frame
    | .supervisory => session.receiveSupervisoryFrame frame
    | .unnumbered => session.receiveUnnumberedFrame frame

/-! ### What these functions do -/

section Functions

variable (session : HdlcSession)

/-- The frame a session makes of a control field and information. -/
def outgoing (control : HdlcControl) (information : Bytes) : HdlcFrame where
  segmented := false
  destination := session.remoteAddress
  source := session.localAddress
  control := control
  information := information

/-- A frame is built when its octet is a control field and it has its place
    between the limits. -/
theorem buildFrame_eq_ok (control : UInt8) (information output : Bytes)
    (h : session.buildFrame control information = .ok output) :
    ∃ field : HdlcControl, field.rawValue = control ∧
      Fits (session.outgoing field information) session.options.limits ∧
      output = frameBytes (session.outgoing field information) := by
  unfold buildFrame HdlcControl.decode at h
  by_cases hcontrol : isControl control = true
  · rw [dif_pos hcontrol] at h
    rcases (encodeFrame_eq_ok _ _ _).mp h with ⟨hfits, houtput⟩
    exact ⟨{ rawValue := control, accepted := hcontrol }, rfl, hfits, houtput⟩
  · rw [dif_neg hcontrol] at h
    exact absurd h (by simp [bind, Except.bind])

/-- What has its place between the limits is built. -/
theorem buildFrame_of_fits (field : HdlcControl) (information : Bytes)
    (h : Fits (session.outgoing field information) session.options.limits) :
    session.buildFrame field.rawValue information =
      .ok (frameBytes (session.outgoing field information)) := by
  have hdecode : HdlcControl.decode field.rawValue = .ok field := field.decode_encode
  have hencode := (encodeFrame_eq_ok (session.outgoing field information) session.options.limits
    _).mpr ⟨h, rfl⟩
  rw [buildFrame, hdecode]
  exact hencode

/-- A connected session with room in its window sends what has its place between
    the limits. -/
theorem buildInformationFrame_of_fits (field : HdlcControl) (information : Bytes)
    (pollFinal : Bool) (hstate : session.state = .connected)
    (hcan : session.canSendInformationFrame = true)
    (hfield : field.rawValue =
      makeInformationControl session.sendSequence session.receiveSequence pollFinal)
    (h : Fits (session.outgoing field information) session.options.limits) :
    session.buildInformationFrame information pollFinal =
      (.ok (frameBytes (session.outgoing field information)),
        { session with sendSequence := nextSequence session.sendSequence }) := by
  have hbuilt := session.buildFrame_of_fits field information h
  rw [hfield] at hbuilt
  unfold buildInformationFrame
  rw [if_neg (not_not.mpr hstate), hcan, if_neg (by decide), hbuilt]

theorem buildReceiveReadyFrame_of_fits (field : HdlcControl) (pollFinal : Bool)
    (hstate : session.state = .connected)
    (hfield : field.rawValue = makeReceiveReadyControl session.receiveSequence pollFinal)
    (h : Fits (session.outgoing field []) session.options.limits) :
    session.buildReceiveReadyFrame pollFinal = .ok (frameBytes (session.outgoing field [])) := by
  have hbuilt := session.buildFrame_of_fits field [] h
  rw [hfield] at hbuilt
  unfold buildReceiveReadyFrame
  rw [if_neg (not_not.mpr hstate), hbuilt]

theorem buildInformationFrame_cases (information : Bytes) (pollFinal : Bool) :
    (∃ status, session.buildInformationFrame information pollFinal = (.error status, session)) ∨
      session.canSendInformationFrame = true ∧
        ∃ field : HdlcControl,
          field.rawValue =
            makeInformationControl session.sendSequence session.receiveSequence pollFinal ∧
          Fits (session.outgoing field information) session.options.limits ∧
          session.buildInformationFrame information pollFinal =
            (.ok (frameBytes (session.outgoing field information)),
              { session with sendSequence := nextSequence session.sendSequence }) := by
  unfold buildInformationFrame
  split_ifs with hstate hwindow
  · exact .inl ⟨_, rfl⟩
  · exact .inl ⟨_, rfl⟩
  · cases hbuilt : session.buildFrame
        (makeInformationControl session.sendSequence session.receiveSequence pollFinal)
        information with
    | error status => exact .inl ⟨status, rfl⟩
    | ok output =>
        rcases buildFrame_eq_ok session _ _ _ hbuilt with ⟨field, hfield, hfits, rfl⟩
        refine .inr ⟨?_, field, hfield, hfits, rfl⟩
        rw [Bool.not_eq_true', Bool.not_eq_false] at hwindow
        exact hwindow

theorem buildReceiveReadyFrame_eq_ok (pollFinal : Bool) (output : Bytes)
    (h : session.buildReceiveReadyFrame pollFinal = .ok output) :
    ∃ field : HdlcControl,
      field.rawValue = makeReceiveReadyControl session.receiveSequence pollFinal ∧
      Fits (session.outgoing field []) session.options.limits ∧
      output = frameBytes (session.outgoing field []) := by
  unfold buildReceiveReadyFrame at h
  split_ifs at h
  exact buildFrame_eq_ok session _ _ _ h

/-- An information frame is refused, or it carries the number expected. -/
theorem receiveFrame_information (frame : HdlcFrame)
    (hkind : frame.control.frameKind = .information) :
    (∃ status, session.receiveFrame frame = (.error status, session)) ∨
      frame.control.sendSequence = session.receiveSequence ∧
        session.receiveFrame frame =
          (.ok (), { session with
            acknowledgeSequence := frame.control.receiveSequence
            receiveSequence := nextSequence session.receiveSequence }) := by
  unfold receiveFrame
  rw [hkind]
  unfold receiveInformationFrame
  split_ifs with haddresses hstate hnumber hacknowledged
  · exact .inl ⟨_, rfl⟩
  · exact .inl ⟨_, rfl⟩
  · exact .inl ⟨_, rfl⟩
  · exact .inl ⟨_, rfl⟩
  · rw [ne_eq, not_not] at hnumber
    exact .inr ⟨hnumber, rfl⟩

/-- A supervisory frame is refused, or it acknowledges. -/
theorem receiveFrame_supervisory (frame : HdlcFrame)
    (hkind : frame.control.frameKind = .supervisory) :
    (∃ status, session.receiveFrame frame = (.error status, session)) ∨
      session.receiveFrame frame =
        (.ok (), { session with acknowledgeSequence := frame.control.receiveSequence }) := by
  unfold receiveFrame
  rw [hkind]
  unfold receiveSupervisoryFrame
  cases hsupervisory : frame.control.supervisoryKind with
  | error status =>
      simp only []
      split_ifs with haddresses hstate
      · exact .inl ⟨_, rfl⟩
      · exact .inl ⟨_, rfl⟩
      · exact .inl ⟨_, rfl⟩
  | ok kind =>
      simp only []
      split_ifs with haddresses hstate hacknowledged
      · exact .inl ⟨_, rfl⟩
      · exact .inl ⟨_, rfl⟩
      · exact .inl ⟨_, rfl⟩
      · exact .inr rfl

/-- The information frame that a connected session expects. -/
theorem receiveFrame_of_expected (frame : HdlcFrame)
    (hmatch : session.incomingAddressesMatch frame = true) (hstate : session.state = .connected)
    (hkind : frame.control.frameKind = .information)
    (hnumber : frame.control.sendSequence = session.receiveSequence)
    (hacknowledges : session.acknowledges frame.control.receiveSequence = true) :
    session.receiveFrame frame =
      (.ok (), { session with
        acknowledgeSequence := frame.control.receiveSequence
        receiveSequence := nextSequence session.receiveSequence }) := by
  unfold receiveFrame
  rw [hmatch, if_neg (by decide), hkind]
  simp only
  unfold receiveInformationFrame
  rw [if_neg (not_not.mpr hstate), if_neg (not_not.mpr hnumber), hacknowledges,
    if_neg (by decide)]

/-- An acknowledgement that a connected session accepts. -/
theorem receiveFrame_of_acknowledges (frame : HdlcFrame)
    (hmatch : session.incomingAddressesMatch frame = true) (hstate : session.state = .connected)
    (hkind : frame.control.frameKind = .supervisory)
    (hready : frame.control.supervisoryKind = .ok .receiveReady)
    (hacknowledges : session.acknowledges frame.control.receiveSequence = true) :
    session.receiveFrame frame =
      (.ok (), { session with acknowledgeSequence := frame.control.receiveSequence }) := by
  unfold receiveFrame
  rw [hmatch, if_neg (by decide), hkind]
  simp only
  unfold receiveSupervisoryFrame
  rw [if_neg (not_not.mpr hstate), hready]
  simp only
  rw [hacknowledges, if_neg (by decide)]

end Functions

/-! ### Sequence numbers as remainders -/

theorem toNat_nextSequence (sequence : UInt8) (number : Nat)
    (h : sequence.toNat = number % 8) : (nextSequence sequence).toNat = (number + 1) % 8 := by
  have hmask : (nextSequence sequence).toNat = (sequence + 1).toNat % 8 := by
    rw [nextSequence, UInt8.toNat_and]
    exact Nat.and_two_pow_sub_one_eq_mod _ 3
  rw [hmask, UInt8.toNat_add, UInt8.toNat_one, h]
  omega

theorem toNat_distance (ahead behind : UInt8) :
    (distance ahead behind).toNat = (ahead.toNat + 256 - behind.toNat) % 8 := by
  have hbehind := behind.toNat_lt
  have hmask : (distance ahead behind).toNat = (ahead - behind).toNat % 8 := by
    rw [distance, UInt8.toNat_and]
    exact Nat.and_two_pow_sub_one_eq_mod _ 3
  rw [hmask, UInt8.toNat_sub]
  omega

end HdlcSession

end Hdlc

end Dlms
