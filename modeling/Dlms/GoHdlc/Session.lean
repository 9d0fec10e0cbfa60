import Dlms.GoHdlc.Parity

/-!
# The session, in Go

The state machine of one end of a data link without parameters: no negotiation,
no window, and no record of what has been acknowledged. A frame that comes in
has to acknowledge all that has been sent.

A session of the library in C++ is stood for by one that holds its state, its
numbers and its pending responses. As long as nothing is negotiated, the two do
the same, up to frames that acknowledge less and information that is sent
before the last one is acknowledged.

## Main definitions

* `Session`: What a session keeps.
* `BuildCall`, `Session.build`: The frames it sends.
* `Session.receiveFrame`: What it makes of a frame.
* `Crosses`: A frame that acknowledges less than has been sent.

## Theorems

* `Session.build_eq`, `Session.receiveFrame_eq`: The two do the same.
* `acknowledged_of_build`, `not_crosses_of_receiveFrame`: And only then.
-/

namespace Dlms

namespace GoHdlc

open Hdlc

structure SessionOptions where
  role : HdlcSessionRole
  clientAddress : Address
  serverAddress : Address
  limits : HdlcCodecLimits
  deriving DecidableEq

def ctrlSNRM : UInt8 := 0x93

def ctrlUA : UInt8 := 0x73

def ctrlDISC : UInt8 := 0x53

def ctrlReceiveReadyBase : UInt8 := 0x01

def nextSequence (seq : UInt8) : UInt8 := (seq + 1) &&& 0x07

def makeInformationControl (ns nr : UInt8) (pollFinal : Bool) : UInt8 :=
  let ctrl := ((ns &&& 0x07) <<< 1) ||| ((nr &&& 0x07) <<< 5)
  if pollFinal then ctrl ||| 0x10 else ctrl

def makeReceiveReadyControl (nr : UInt8) (pollFinal : Bool) : UInt8 :=
  let ctrl := ctrlReceiveReadyBase ||| ((nr &&& 0x07) <<< 5)
  if pollFinal then ctrl ||| 0x10 else ctrl

/-- The frames that both sessions build: in C++ these are the calls without user
    information. -/
inductive BuildCall where
  | buildConnectRequest
  | buildConnectResponse
  | buildDisconnectRequest
  | buildDisconnectResponse
  | buildInformationFrame (information : Bytes) (pollFinal : Bool)
  | buildReceiveReadyFrame (pollFinal : Bool)
  deriving DecidableEq

/-- A session of the Go library. -/
structure Session where
  options : SessionOptions
  state : HdlcSessionState
  sendSequence : UInt8
  receiveSequence : UInt8
  connectResponsePending : Bool
  disconnectResponsePending : Bool
  deriving DecidableEq

namespace Session

def new (opts : SessionOptions) : Session where
  options := opts
  state := .disconnected
  sendSequence := 0
  receiveSequence := 0
  connectResponsePending := false
  disconnectResponsePending := false

def localAddress (s : Session) : Address :=
  match s.options.role with
  | .client => s.options.clientAddress
  | .server => s.options.serverAddress

def remoteAddress (s : Session) : Address :=
  match s.options.role with
  | .client => s.options.serverAddress
  | .server => s.options.clientAddress

/-! ### The frames it sends -/

def buildFrame (memory : Nat) (s : Session) (ctrl : UInt8) (information : Bytes) :
    Outcome (Except HdlcStatus Bytes) :=
  encodeFrame memory
    { segmented := false
      destination := s.remoteAddress
      source := s.localAddress
      control := controlFromRaw ctrl
      information := information } s.options.limits

/-- The session after a frame, when it has been built. -/
def built (s : Session) (out : Outcome (Except HdlcStatus Bytes)) (after : Session) :
    Outcome (Except HdlcStatus Bytes) × Session :=
  match out with
  | .returned (.ok _) => (out, after)
  | _ => (out, s)

def buildConnectRequest (memory : Nat) (s : Session) :
    Outcome (Except HdlcStatus Bytes) × Session :=
  if s.options.role ≠ .client then (.returned (.error .unsupportedFeature), s)
  else if s.state ≠ .disconnected then (.returned (.error .unsupportedFrame), s)
  else
    s.built (s.buildFrame memory ctrlSNRM [])
      { s with
        state := .awaitingConnection
        sendSequence := 0
        receiveSequence := 0 }

def buildConnectResponse (memory : Nat) (s : Session) :
    Outcome (Except HdlcStatus Bytes) × Session :=
  if s.options.role ≠ .server then (.returned (.error .unsupportedFeature), s)
  else if !s.connectResponsePending then (.returned (.error .unsupportedFrame), s)
  else
    s.built (s.buildFrame memory ctrlUA [])
      { s with
        state := .connected
        connectResponsePending := false
        sendSequence := 0
        receiveSequence := 0 }

def buildDisconnectRequest (memory : Nat) (s : Session) :
    Outcome (Except HdlcStatus Bytes) × Session :=
  if s.state ≠ .connected then (.returned (.error .unsupportedFrame), s)
  else s.built (s.buildFrame memory ctrlDISC []) { s with state := .awaitingDisconnect }

def buildDisconnectResponse (memory : Nat) (s : Session) :
    Outcome (Except HdlcStatus Bytes) × Session :=
  if !s.disconnectResponsePending then (.returned (.error .unsupportedFrame), s)
  else
    s.built (s.buildFrame memory ctrlUA [])
      { s with
        state := .disconnected
        disconnectResponsePending := false
        sendSequence := 0
        receiveSequence := 0 }

def buildInformationFrame (memory : Nat) (s : Session) (information : Bytes)
    (pollFinal : Bool) : Outcome (Except HdlcStatus Bytes) × Session :=
  if s.state ≠ .connected then (.returned (.error .unsupportedFrame), s)
  else
    s.built
      (s.buildFrame memory (makeInformationControl s.sendSequence s.receiveSequence pollFinal)
        information)
      { s with sendSequence := nextSequence s.sendSequence }

def buildReceiveReadyFrame (memory : Nat) (s : Session) (pollFinal : Bool) :
    Outcome (Except HdlcStatus Bytes) :=
  if s.state ≠ .connected then .returned (.error .unsupportedFrame)
  else s.buildFrame memory (makeReceiveReadyControl s.receiveSequence pollFinal) []

def build (memory : Nat) (call : BuildCall) (s : Session) :
    Outcome (Except HdlcStatus Bytes) × Session :=
  match call with
  | .buildConnectRequest => s.buildConnectRequest memory
  | .buildConnectResponse => s.buildConnectResponse memory
  | .buildDisconnectRequest => s.buildDisconnectRequest memory
  | .buildDisconnectResponse => s.buildDisconnectResponse memory
  | .buildInformationFrame information pollFinal =>
      s.buildInformationFrame memory information pollFinal
  | .buildReceiveReadyFrame pollFinal => (s.buildReceiveReadyFrame memory pollFinal, s)

/-! ### What it makes of a frame -/

def receiveInformationFrame (s : Session) (frame : Frame) : Except HdlcStatus Unit × Session :=
  if s.state ≠ .connected then (.error .unsupportedFrame, s)
  else if frame.control.sendSequence ≠ s.receiveSequence then (.error .invalidControlField, s)
  else if frame.control.receiveSequence ≠ s.sendSequence then (.error .invalidControlField, s)
  else (.ok (), { s with receiveSequence := nextSequence s.receiveSequence })

def receiveSupervisoryFrame (s : Session) (frame : Frame) : Except HdlcStatus Unit × Session :=
  if s.state ≠ .connected then (.error .unsupportedFrame, s)
  else
    match frame.control.supervisoryKind with
    | .error status => (.error status, s)
    | .ok _ =>
        if frame.control.receiveSequence ≠ s.sendSequence then (.error .invalidControlField, s)
        else (.ok (), s)

def receiveUnnumberedFrame (s : Session) (frame : Frame) : Except HdlcStatus Unit × Session :=
  match frame.control.unnumberedKind with
  | .error status => (.error status, s)
  | .ok .snrm =>
      if s.options.role ≠ .server ∨ s.state ≠ .disconnected then (.error .unsupportedFrame, s)
      else
        (.ok (), { s with
          connectResponsePending := true
          sendSequence := 0
          receiveSequence := 0 })
  | .ok .ua =>
      if s.state = .awaitingConnection then
        (.ok (), { s with
          state := .connected
          sendSequence := 0
          receiveSequence := 0 })
      else if s.state = .awaitingDisconnect then
        (.ok (), { s with
          state := .disconnected
          sendSequence := 0
          receiveSequence := 0 })
      else (.error .unsupportedFrame, s)
  | .ok .disc =>
      if s.state ≠ .connected then (.error .unsupportedFrame, s)
      else (.ok (), { s with disconnectResponsePending := true })
  | .ok .dm =>
      (.ok (), { s with
        state := .disconnected
        sendSequence := 0
        receiveSequence := 0 })
  | .ok _ => (.error .unsupportedFrame, s)

def incomingAddressesMatch (s : Session) (frame : Frame) : Bool :=
  sameAddress frame.destination s.localAddress && sameAddress frame.source s.remoteAddress

def receiveFrame (s : Session) (frame : Frame) : Except HdlcStatus Unit × Session :=
  if !s.incomingAddressesMatch frame then (.error .invalidAddress, s)
  else
    match frame.control.frameKind with
    | .information => s.receiveInformationFrame frame
    | .supervisory => s.receiveSupervisoryFrame frame
    | .unnumbered => s.receiveUnnumberedFrame frame

end Session

/-! ### What stands for a session in C++ -/

/-- The flag comes last here, and second there. -/
theorem flag_last (first second : UInt8) (pollFinal : Bool) :
    (if pollFinal then (first ||| second) ||| 0x10 else first ||| second) =
      first ||| (if pollFinal then (0x10 : UInt8) else 0x00) ||| second := by
  cases pollFinal with
  | true =>
      show (first ||| second) ||| 0x10 = (first ||| 0x10) ||| second
      rw [UInt8.or_assoc, UInt8.or_comm second, ← UInt8.or_assoc]
  | false =>
      show first ||| second = (first ||| 0x00) ||| second
      rw [UInt8.or_zero]

theorem makeInformationControl_eq (ns nr : UInt8) (pollFinal : Bool) :
    makeInformationControl ns nr pollFinal = Hdlc.makeInformationControl ns nr pollFinal :=
  flag_last _ _ pollFinal

theorem makeReceiveReadyControl_eq (nr : UInt8) (pollFinal : Bool) :
    makeReceiveReadyControl nr pollFinal = Hdlc.makeReceiveReadyControl nr pollFinal :=
  flag_last _ _ pollFinal

/-- Only the three bits of a sequence number are put into a control field. -/
theorem carriesInformation_masked (ns nr : UInt8) (pollFinal : Bool) :
    CarriesInformation (ns &&& 0x07) (nr &&& 0x07)
      (Hdlc.makeInformationControl ns nr pollFinal) := by
  have hmask : ∀ value : UInt8, (value &&& 0x07).toNat < 8 := by
    intro value
    rw [UInt8.toNat_and]
    exact Nat.and_lt_two_pow _ (show (7 : Nat) < 2 ^ 3 by decide)
  have hidem : ∀ value : UInt8, (value &&& 0x07) &&& 0x07 = value &&& 0x07 := by
    intro value
    rw [UInt8.and_assoc]
    rfl
  have hcarries := carriesInformation_octet _ _ (hmask ns) (hmask nr) pollFinal
  unfold Hdlc.makeInformationControl at hcarries ⊢
  rw [hidem, hidem] at hcarries
  exact hcarries

theorem carriesReceiveReady_masked (nr : UInt8) (pollFinal : Bool) :
    CarriesReceiveReady (nr &&& 0x07) (Hdlc.makeReceiveReadyControl nr pollFinal) := by
  have hmask : (nr &&& 0x07).toNat < 8 := by
    rw [UInt8.toNat_and]
    exact Nat.and_lt_two_pow _ (show (7 : Nat) < 2 ^ 3 by decide)
  have hidem : (nr &&& 0x07) &&& 0x07 = nr &&& 0x07 := by
    rw [UInt8.and_assoc]
    rfl
  have hcarries := carriesReceiveReady_octet _ hmask pollFinal
  unfold Hdlc.makeReceiveReadyControl at hcarries ⊢
  rw [hidem] at hcarries
  exact hcarries

namespace Session

/-- The session that holds what one of the library in C++ holds. -/
def ofHdlc (session : HdlcSession) : Session where
  options :=
    { role := session.options.role
      clientAddress := .ofHdlc session.options.clientAddress
      serverAddress := .ofHdlc session.options.serverAddress
      limits := session.options.limits }
  state := session.state
  sendSequence := session.sendSequence
  receiveSequence := session.receiveSequence
  connectResponsePending := session.connectResponsePending
  disconnectResponsePending := session.disconnectResponsePending

section OfHdlc

variable (session : HdlcSession)

theorem state_ofHdlc : (ofHdlc session).state = session.state := rfl

theorem role_ofHdlc : (ofHdlc session).options.role = session.options.role := rfl

theorem localAddress_ofHdlc :
    (ofHdlc session).localAddress = .ofHdlc session.localAddress := by
  rcases session with ⟨options⟩
  rcases options with ⟨role⟩
  cases role with
  | client => rfl
  | server => rfl

theorem remoteAddress_ofHdlc :
    (ofHdlc session).remoteAddress = .ofHdlc session.remoteAddress := by
  rcases session with ⟨options⟩
  rcases options with ⟨role⟩
  cases role with
  | client => rfl
  | server => rfl

theorem incomingAddressesMatch_ofHdlc (frame : HdlcFrame) :
    (ofHdlc session).incomingAddressesMatch (.ofHdlc frame) =
      session.incomingAddressesMatch frame := by
  have hsame : ∀ first second : HdlcAddress,
      HdlcReassembler.sameAddress first second = (first == second) := by
    intro first second
    rw [Bool.eq_iff_iff, beq_iff_eq]
    simp only [HdlcReassembler.sameAddress, Bool.and_eq_true, beq_iff_eq]
    constructor
    · rintro ⟨hraw, hsize⟩
      exact HdlcAddress.ext_of_fields first second hraw hsize
    · rintro rfl
      exact ⟨rfl, rfl⟩
  unfold incomingAddressesMatch HdlcSession.incomingAddressesMatch
  rw [localAddress_ofHdlc, remoteAddress_ofHdlc, ← hsame, ← hsame]
  exact congrArg₂ and (Reassembler.sameAddress_eq _ _) (Reassembler.sameAddress_eq _ _)

/-- A frame is built alike, when there can be a buffer for it. -/
theorem buildFrame_ofHdlc (memory : Nat) (control : UInt8) (information : Bytes)
    (hmemory : Allocatable memory session.options.limits) (hcontrol : isControl control = true) :
    (ofHdlc session).buildFrame memory control information =
      .returned (session.buildFrame control information) := by
  have hmakeable : Makeable memory
      (effectiveMaximumFrameSize (ofHdlc session).options.limits) :=
    (allocatable_iff_makeable memory session.options.limits).mp hmemory
  have hdecode : HdlcControl.decode control =
      .ok { rawValue := control, accepted := hcontrol } := dif_pos hcontrol
  rw [buildFrame, encodeFrame, localAddress_ofHdlc, remoteAddress_ofHdlc,
    HdlcSession.buildFrame, hdecode, if_pos hmakeable]
  refine congrArg Outcome.returned ?_
  exact (encodeFrameToBuffer_eq (session.outgoing { rawValue := control, accepted := hcontrol }
    information) session.options.limits _).trans (Hdlc.encodeFrameToBuffer_eq _ _ _ (Nat.le_refl _))

/-- No frame is refused for its kind when it is encoded. -/
theorem buildFrame_ne_unsupportedFrame (control : UInt8) (information : Bytes)
    (hcontrol : isControl control = true) :
    session.buildFrame control information ≠ .error .unsupportedFrame := by
  have hdecode : HdlcControl.decode control =
      .ok { rawValue := control, accepted := hcontrol } := dif_pos hcontrol
  rw [HdlcSession.buildFrame, hdecode]
  simp only [bind, Except.bind, Hdlc.encodeFrame]
  split_ifs
  all_goals simp only [ne_eq, Except.error.injEq, reduceCtorEq, not_false_eq_true]

end OfHdlc

end Session

/-! ### The same frames -/

/-- The call in C++. -/
def BuildCall.inHdlc : BuildCall → SessionCall
  | .buildConnectRequest => .buildConnectRequest
  | .buildConnectResponse => .buildConnectResponse
  | .buildDisconnectRequest => .buildDisconnectRequest []
  | .buildDisconnectResponse => .buildDisconnectResponse
  | .buildInformationFrame information pollFinal => .buildInformationFrame information pollFinal
  | .buildReceiveReadyFrame pollFinal => .buildReceiveReadyFrame pollFinal

/-- A session in C++ between these limits that has negotiated nothing. -/
structure AtDefaults (limits : HdlcCodecLimits) (session : HdlcSession) : Prop where
  limits : session.options.limits = limits
  negotiationLimits :
    session.options.negotiationLimits = defaultHdlcSessionNegotiationLimits
  pendingNegotiation : session.pendingNegotiation = none

/-- Information is sent when the frame before it has been acknowledged. -/
def Acknowledged (session : HdlcSession) : BuildCall → Prop
  | .buildInformationFrame _ _ =>
      session.state = .connected → session.canSendInformationFrame = true
  | _ => True

instance (session : HdlcSession) (call : BuildCall) : Decidable (Acknowledged session call) :=
  match call with
  | .buildConnectRequest => isTrue trivial
  | .buildConnectResponse => isTrue trivial
  | .buildDisconnectRequest => isTrue trivial
  | .buildDisconnectResponse => isTrue trivial
  | .buildInformationFrame _ _ => inferInstanceAs (Decidable (_ → _))
  | .buildReceiveReadyFrame _ => isTrue trivial

/-- A frame that a connected session expects, and that acknowledges less than it
    has sent: the two have crossed. -/
def Crosses (session : HdlcSession) (frame : HdlcFrame) : Prop :=
  session.incomingAddressesMatch frame = true ∧ session.state = .connected ∧
    (frame.control.frameKind = .supervisory ∨
      frame.control.frameKind = .information ∧
        frame.control.sendSequence = session.receiveSequence) ∧
    session.acknowledges frame.control.receiveSequence = true ∧
    frame.control.receiveSequence ≠ session.sendSequence

instance (session : HdlcSession) (frame : HdlcFrame) : Decidable (Crosses session frame) :=
  inferInstanceAs (Decidable (_ ∧ _ ∧ _ ∧ _ ∧ _))

/-- All that has been sent may be acknowledged. -/
theorem acknowledges_sendSequence (session : HdlcSession) :
    session.acknowledges session.sendSequence = true := by
  unfold HdlcSession.acknowledges
  exact decide_eq_true (UInt8.le_refl _)

namespace Session

section Build

variable (memory : Nat) (limits : HdlcCodecLimits) (session : HdlcSession)
  (hmemory : Allocatable memory limits) (hdefaults : AtDefaults limits session)
include hmemory hdefaults

/-- What follows a frame that is built alike. -/
theorem built_ofHdlc (control : UInt8) (information : Bytes) (after : HdlcSession)
    (hcontrol : isControl control = true) :
    (∀ status, session.buildFrame control information = .error status →
        (ofHdlc session).built ((ofHdlc session).buildFrame memory control information)
          (ofHdlc after) = (.returned (.error status), ofHdlc session)) ∧
      ∀ output, session.buildFrame control information = .ok output →
        (ofHdlc session).built ((ofHdlc session).buildFrame memory control information)
          (ofHdlc after) = (.returned (.ok output), ofHdlc after) := by
  have hallocatable : Allocatable memory session.options.limits := hdefaults.limits ▸ hmemory
  rw [buildFrame_ofHdlc session memory control information hallocatable hcontrol]
  constructor
  · intro status hbuilt
    rw [hbuilt]
    rfl
  · intro output hbuilt
    rw [hbuilt]
    rfl

theorem buildConnectRequest_eq :
    (ofHdlc session).buildConnectRequest memory =
      (.returned session.buildConnectRequest.1, ofHdlc session.buildConnectRequest.2) := by
  have hnone : (session.options.negotiationLimits != defaultHdlcSessionNegotiationLimits) =
      false := by
    rw [hdefaults.negotiationLimits, bne_self_eq_false]
  have hframe := built_ofHdlc memory limits session hmemory hdefaults snrmControl []
    { session.resetSequences with state := .awaitingConnection } accepted_snrm
  unfold buildConnectRequest HdlcSession.buildConnectRequest
    HdlcSession.buildConnectRequestInternal
  rw [hnone]
  rw [role_ofHdlc]
  by_cases hrole : session.options.role ≠ .client
  · rw [if_pos hrole, if_pos hrole]
  rw [if_neg hrole, if_neg hrole]
  rw [state_ofHdlc]
  by_cases hstate : session.state ≠ .disconnected
  · rw [if_pos hstate, if_pos hstate]
  rw [if_neg hstate, if_neg hstate]
  dsimp only
  rw [if_neg Bool.false_ne_true, List.append_nil]
  cases hbuilt : session.buildFrame snrmControl [] with
  | error status => exact hframe.1 status hbuilt
  | ok output => exact hframe.2 output hbuilt

theorem buildConnectResponse_eq :
    (ofHdlc session).buildConnectResponse memory =
      (.returned session.buildConnectResponse.1, ofHdlc session.buildConnectResponse.2) := by
  have hframe := built_ofHdlc memory limits session hmemory hdefaults uaControl []
    { session.resetSequences with
      state := .connected
      connectResponsePending := false
      pendingNegotiation := none } accepted_ua
  unfold buildConnectResponse HdlcSession.buildConnectResponse
  rw [role_ofHdlc]
  by_cases hrole : session.options.role ≠ .server
  · rw [if_pos hrole, if_pos hrole]
  rw [if_neg hrole, if_neg hrole]
  by_cases hpending : (!(ofHdlc session).connectResponsePending) = true
  · have hpending' : (!session.connectResponsePending) = true := hpending
    rw [if_pos hpending, if_pos hpending']
  have hpending' : ¬(!session.connectResponsePending) = true := hpending
  rw [if_neg hpending, if_neg hpending', hdefaults.pendingNegotiation]
  dsimp only
  cases hbuilt : session.buildFrame uaControl [] with
  | error status => exact hframe.1 status hbuilt
  | ok output => exact hframe.2 output hbuilt

theorem buildDisconnectRequest_eq :
    (ofHdlc session).buildDisconnectRequest memory =
      (.returned (session.buildDisconnectRequest []).1,
        ofHdlc (session.buildDisconnectRequest []).2) := by
  have hframe := built_ofHdlc memory limits session hmemory hdefaults discControl []
    { session with state := .awaitingDisconnect } accepted_disc
  unfold buildDisconnectRequest HdlcSession.buildDisconnectRequest
  rw [state_ofHdlc]
  by_cases hstate : session.state ≠ .connected
  · rw [if_pos hstate, if_pos hstate]
  rw [if_neg hstate, if_neg hstate]
  cases hbuilt : session.buildFrame discControl [] with
  | error status => exact hframe.1 status hbuilt
  | ok output => exact hframe.2 output hbuilt

theorem buildDisconnectResponse_eq :
    (ofHdlc session).buildDisconnectResponse memory =
      (.returned session.buildDisconnectResponse.1,
        ofHdlc session.buildDisconnectResponse.2) := by
  have hframe := built_ofHdlc memory limits session hmemory hdefaults uaControl []
    { session.resetSequences with
      state := .disconnected
      disconnectResponsePending := false } accepted_ua
  unfold buildDisconnectResponse HdlcSession.buildDisconnectResponse
  by_cases hpending : (!(ofHdlc session).disconnectResponsePending) = true
  · have hpending' : (!session.disconnectResponsePending) = true := hpending
    rw [if_pos hpending, if_pos hpending']
  have hpending' : ¬(!session.disconnectResponsePending) = true := hpending
  rw [if_neg hpending, if_neg hpending']
  cases hbuilt : session.buildFrame uaControl [] with
  | error status => exact hframe.1 status hbuilt
  | ok output => exact hframe.2 output hbuilt

/-- Only C++ looks whether the last frame has been acknowledged. -/
theorem buildInformationFrame_eq (information : Bytes) (pollFinal : Bool)
    (hacknowledged : session.state = .connected → session.canSendInformationFrame = true) :
    (ofHdlc session).buildInformationFrame memory information pollFinal =
      (.returned (session.buildInformationFrame information pollFinal).1,
        ofHdlc (session.buildInformationFrame information pollFinal).2) := by
  have hframe := built_ofHdlc memory limits session hmemory hdefaults
    (Hdlc.makeInformationControl session.sendSequence session.receiveSequence pollFinal)
    information { session with sendSequence := Hdlc.nextSequence session.sendSequence }
    (carriesInformation_masked _ _ pollFinal).1
  unfold buildInformationFrame HdlcSession.buildInformationFrame
  rw [makeInformationControl_eq]
  rw [state_ofHdlc]
  by_cases hstate : session.state ≠ .connected
  · rw [if_pos hstate, if_pos hstate]
  rw [if_neg hstate, if_neg hstate, hacknowledged (not_not.mp hstate), Bool.not_true,
    if_neg Bool.false_ne_true]
  cases hbuilt : session.buildFrame
      (Hdlc.makeInformationControl session.sendSequence session.receiveSequence pollFinal)
      information with
  | error status => exact hframe.1 status hbuilt
  | ok output => exact hframe.2 output hbuilt

theorem buildReceiveReadyFrame_eq (pollFinal : Bool) :
    (ofHdlc session).buildReceiveReadyFrame memory pollFinal =
      .returned (session.buildReceiveReadyFrame pollFinal) := by
  unfold buildReceiveReadyFrame HdlcSession.buildReceiveReadyFrame
  rw [makeReceiveReadyControl_eq]
  rw [state_ofHdlc]
  by_cases hstate : session.state ≠ .connected
  · rw [if_pos hstate, if_pos hstate]
  rw [if_neg hstate, if_neg hstate]
  exact buildFrame_ofHdlc session memory _ _ (hdefaults.limits ▸ hmemory)
    (carriesReceiveReady_masked _ pollFinal).1

/-- The same frames are built, when information is sent only after the frame
    before it has been acknowledged. -/
theorem build_eq (call : BuildCall) (h : Acknowledged session call) :
    (ofHdlc session).build memory call =
      (.returned (session.call call.inHdlc).1, ofHdlc (session.call call.inHdlc).2) := by
  cases call with
  | buildConnectRequest => exact buildConnectRequest_eq memory limits session hmemory hdefaults
  | buildConnectResponse => exact buildConnectResponse_eq memory limits session hmemory hdefaults
  | buildDisconnectRequest =>
      exact buildDisconnectRequest_eq memory limits session hmemory hdefaults
  | buildDisconnectResponse =>
      exact buildDisconnectResponse_eq memory limits session hmemory hdefaults
  | buildInformationFrame information pollFinal =>
      exact buildInformationFrame_eq memory limits session hmemory hdefaults information pollFinal h
  | buildReceiveReadyFrame pollFinal =>
      exact congrArg (fun answer => (answer, ofHdlc session))
        (buildReceiveReadyFrame_eq memory limits session hmemory hdefaults pollFinal)

/-- Where the answers are the same, nothing is sent too early: Go sends what C++
    holds back. -/
theorem acknowledged_of_build (call : BuildCall)
    (h : ((ofHdlc session).build memory call).1 = .returned (session.call call.inHdlc).1) :
    Acknowledged session call := by
  cases call with
  | buildInformationFrame information pollFinal =>
      intro hstate
      by_contra hfull
      rw [Bool.not_eq_true] at hfull
      -- What C++ holds back it refuses in a status that no frame fails with.
      have hheld : session.buildInformationFrame information pollFinal =
          (.error .unsupportedFrame, session) := by
        unfold HdlcSession.buildInformationFrame
        rw [if_neg (not_not.mpr hstate), hfull, Bool.not_false, if_pos rfl]
      have hconnected : ¬(ofHdlc session).state ≠ .connected := not_not.mpr hstate
      have hcontrol := (carriesInformation_masked session.sendSequence session.receiveSequence
        pollFinal).1
      have hframe := built_ofHdlc memory limits session hmemory hdefaults _ information
        { session with sendSequence := Hdlc.nextSequence session.sendSequence } hcontrol
      -- What Go makes of it is a frame, or a failure of the codec.
      have hsent : (ofHdlc session).buildInformationFrame memory information pollFinal =
          (ofHdlc session).built
            ((ofHdlc session).buildFrame memory
              (Hdlc.makeInformationControl session.sendSequence session.receiveSequence pollFinal)
              information)
            (ofHdlc { session with
              sendSequence := Hdlc.nextSequence session.sendSequence }) := by
        unfold buildInformationFrame
        rw [if_neg hconnected, makeInformationControl_eq]
        rfl
      have hanswer : ((ofHdlc session).buildInformationFrame memory information pollFinal).1 =
          .returned (session.buildInformationFrame information pollFinal).1 := h
      rw [hheld, hsent] at hanswer
      cases hbuilt : session.buildFrame
          (Hdlc.makeInformationControl session.sendSequence session.receiveSequence pollFinal)
          information with
      | error status =>
          rw [hframe.1 status hbuilt] at hanswer
          have hstatus : status = .unsupportedFrame := by
            injection hanswer with hresult
            exact Except.error.inj hresult
          exact buildFrame_ne_unsupportedFrame session _ information hcontrol (hstatus ▸ hbuilt)
      | ok output =>
          rw [hframe.2 output hbuilt] at hanswer
          injection hanswer with hresult
          cases hresult
  | _ => trivial

end Build

/-! ### The same of a frame -/

section Receive

variable (session : HdlcSession) (frame : HdlcFrame)

theorem receiveInformationFrame_eq
    (h : session.state = .connected →
      frame.control.sendSequence = session.receiveSequence →
        session.acknowledges frame.control.receiveSequence = true →
          frame.control.receiveSequence = session.sendSequence) :
    (ofHdlc session).receiveInformationFrame (.ofHdlc frame) =
      ((session.receiveInformationFrame frame).1,
        ofHdlc (session.receiveInformationFrame frame).2) := by
  unfold receiveInformationFrame HdlcSession.receiveInformationFrame
  rw [state_ofHdlc]
  by_cases hstate : session.state ≠ .connected
  · rw [if_pos hstate, if_pos hstate]
  rw [if_neg hstate, if_neg hstate]
  by_cases hnumber : (Frame.ofHdlc frame).control.sendSequence ≠ (ofHdlc session).receiveSequence
  · have hnumber' : frame.control.sendSequence ≠ session.receiveSequence := hnumber
    rw [if_pos hnumber, if_pos hnumber']
  have hnumber' : ¬frame.control.sendSequence ≠ session.receiveSequence := hnumber
  rw [if_neg hnumber, if_neg hnumber']
  by_cases hall : (Frame.ofHdlc frame).control.receiveSequence ≠ (ofHdlc session).sendSequence
  · -- It does not acknowledge all, so it acknowledges what it cannot.
    have hall' : frame.control.receiveSequence ≠ session.sendSequence := hall
    have hrefused : ¬session.acknowledges frame.control.receiveSequence = true :=
      fun hacknowledges => hall' (h (not_not.mp hstate) (not_not.mp hnumber') hacknowledges)
    rw [Bool.not_eq_true] at hrefused
    rw [if_pos hall, hrefused, Bool.not_false, if_pos rfl]
  · have hall' : frame.control.receiveSequence = session.sendSequence := not_not.mp hall
    rw [if_neg hall, hall', acknowledges_sendSequence, Bool.not_true, if_neg Bool.false_ne_true]
    rfl

theorem receiveSupervisoryFrame_eq
    (h : session.state = .connected →
      session.acknowledges frame.control.receiveSequence = true →
        frame.control.receiveSequence = session.sendSequence) :
    (ofHdlc session).receiveSupervisoryFrame (.ofHdlc frame) =
      ((session.receiveSupervisoryFrame frame).1,
        ofHdlc (session.receiveSupervisoryFrame frame).2) := by
  unfold receiveSupervisoryFrame HdlcSession.receiveSupervisoryFrame
  rw [state_ofHdlc]
  by_cases hstate : session.state ≠ .connected
  · rw [if_pos hstate, if_pos hstate]
  have hkind : (Frame.ofHdlc frame).control.supervisoryKind = frame.control.supervisoryKind := rfl
  rw [if_neg hstate, if_neg hstate, hkind]
  cases frame.control.supervisoryKind with
  | error status => rfl
  | ok kind =>
      dsimp only
      by_cases hall : (Frame.ofHdlc frame).control.receiveSequence ≠ (ofHdlc session).sendSequence
      · have hall' : frame.control.receiveSequence ≠ session.sendSequence := hall
        have hrefused : ¬session.acknowledges frame.control.receiveSequence = true :=
          fun hacknowledges => hall' (h (not_not.mp hstate) hacknowledges)
        rw [Bool.not_eq_true] at hrefused
        rw [if_pos hall, hrefused, Bool.not_false, if_pos rfl]
      · have hall' : frame.control.receiveSequence = session.sendSequence := not_not.mp hall
        rw [if_neg hall, hall', acknowledges_sendSequence, Bool.not_true,
          if_neg Bool.false_ne_true]
        rfl

/-- An unnumbered frame without information changes nothing but what both keep. -/
theorem receiveUnnumberedFrame_eq (hempty : frame.information = []) :
    (ofHdlc session).receiveUnnumberedFrame (.ofHdlc frame) =
      ((session.receiveUnnumberedFrame frame).1,
        ofHdlc (session.receiveUnnumberedFrame frame).2) := by
  have hkind : (Frame.ofHdlc frame).control.unnumberedKind = frame.control.unnumberedKind := rfl
  unfold receiveUnnumberedFrame HdlcSession.receiveUnnumberedFrame
  rw [hkind, hempty]
  rcases hfound : frame.control.unnumberedKind with status | kind
  · rfl
  cases kind with
  | snrm =>
      dsimp only
      unfold HdlcSession.receiveSnrm
      rw [role_ofHdlc, state_ofHdlc]
      by_cases hrefused : session.options.role ≠ .server ∨ session.state ≠ .disconnected
      · rw [if_pos hrefused, if_pos hrefused]
      · rw [if_neg hrefused, if_neg hrefused]
        rfl
  | ua =>
      -- A UA answers the one request or the other, or neither.
      rcases session with ⟨options, state⟩
      cases state with
      | disconnected => rfl
      | awaitingConnection => rfl
      | connected => rfl
      | awaitingDisconnect => rfl
  | disc =>
      dsimp only
      rw [state_ofHdlc]
      by_cases hstate : session.state ≠ .connected
      · rw [if_pos hstate, if_pos hstate]
      · rw [if_neg hstate, if_neg hstate]
        rfl
  | dm => rfl
  | frmr => rfl
  | ui => rfl

/-- The same is made of a frame that has not crossed another. -/
theorem receiveFrame_eq
    (hempty : frame.control.frameKind = .unnumbered → frame.information = [])
    (h : ¬Crosses session frame) :
    (ofHdlc session).receiveFrame (.ofHdlc frame) =
      ((session.receiveFrame frame).1, ofHdlc (session.receiveFrame frame).2) := by
  have hkind : (Frame.ofHdlc frame).control.frameKind = frame.control.frameKind := rfl
  unfold receiveFrame HdlcSession.receiveFrame
  rw [incomingAddressesMatch_ofHdlc, hkind]
  by_cases hmatch : session.incomingAddressesMatch frame = true
  · rw [hmatch, Bool.not_true, if_neg Bool.false_ne_true, if_neg Bool.false_ne_true]
    cases hframe : frame.control.frameKind with
    | information =>
        refine receiveInformationFrame_eq session frame fun hstate hnumber hacknowledges => ?_
        by_contra hless
        exact h ⟨hmatch, hstate, Or.inr ⟨hframe, hnumber⟩, hacknowledges, hless⟩
    | supervisory =>
        refine receiveSupervisoryFrame_eq session frame fun hstate hacknowledges => ?_
        by_contra hless
        exact h ⟨hmatch, hstate, Or.inl hframe, hacknowledges, hless⟩
    | unnumbered => exact receiveUnnumberedFrame_eq session frame (hempty hframe)
  · rw [Bool.not_eq_true] at hmatch
    rw [hmatch, Bool.not_false, if_pos rfl, if_pos rfl]

/-- Every supervisory frame has one of four kinds. -/
theorem supervisoryKind_eq_ok (control : HdlcControl) (h : control.frameKind = .supervisory) :
    ∃ kind, control.supervisoryKind = .ok kind := by
  have hkind : ((control.rawValue >>> 2) &&& 0x03).toNat < 4 := by
    rw [UInt8.toNat_and]
    exact Nat.and_lt_two_pow _ (show (3 : Nat) < 2 ^ 2 by decide)
  unfold HdlcControl.supervisoryKind
  rw [if_neg (not_not.mpr h)]
  generalize ((control.rawValue >>> 2) &&& 0x03).toNat = number at hkind ⊢
  rcases number with _ | _ | _ | _ | number
  · exact ⟨_, rfl⟩
  · exact ⟨_, rfl⟩
  · exact ⟨_, rfl⟩
  · exact ⟨_, rfl⟩
  · omega

/-- A frame that has crossed another is accepted in C++ and refused in Go. -/
theorem not_crosses_of_receiveFrame
    (h : ((ofHdlc session).receiveFrame (.ofHdlc frame)).1 = (session.receiveFrame frame).1) :
    ¬Crosses session frame := by
  rintro ⟨hmatch, hstate, hexpected, hacknowledges, hless⟩
  have hkind : (Frame.ofHdlc frame).control.frameKind = frame.control.frameKind := rfl
  have hconnected : ¬(ofHdlc session).state ≠ .connected := not_not.mpr hstate
  have hless' : (Frame.ofHdlc frame).control.receiveSequence ≠ (ofHdlc session).sendSequence :=
    hless
  unfold receiveFrame HdlcSession.receiveFrame at h
  rw [incomingAddressesMatch_ofHdlc, hkind, hmatch, Bool.not_true, if_neg Bool.false_ne_true,
    if_neg Bool.false_ne_true] at h
  -- C++ looks for the acknowledgement in its window, Go for the last number.
  rcases hexpected with hframe | ⟨hframe, hnumber⟩
  · rcases supervisoryKind_eq_ok frame.control hframe with ⟨kind, hsupervisory⟩
    have hsupervisory' : (Frame.ofHdlc frame).control.supervisoryKind = .ok kind := hsupervisory
    rw [hframe] at h
    unfold receiveSupervisoryFrame HdlcSession.receiveSupervisoryFrame at h
    dsimp only at h
    rw [if_neg hconnected, if_neg (not_not.mpr hstate), hsupervisory, hsupervisory'] at h
    dsimp only at h
    rw [if_pos hless', hacknowledges, Bool.not_true, if_neg Bool.false_ne_true] at h
    cases h
  · have hnumber' : ¬(Frame.ofHdlc frame).control.sendSequence ≠
        (ofHdlc session).receiveSequence := not_not.mpr hnumber
    rw [hframe] at h
    unfold receiveInformationFrame HdlcSession.receiveInformationFrame at h
    dsimp only at h
    rw [if_neg hconnected, if_neg (not_not.mpr hstate), if_neg hnumber',
      if_neg (not_not.mpr hnumber), if_pos hless', hacknowledges, Bool.not_true,
      if_neg Bool.false_ne_true] at h
    cases h

end Receive

end Session

end GoHdlc

end Dlms
