import Dlms.Hdlc.Calls
import Dlms.Machine.Run

/-!
# The limits of a link

A server answers a SNRM with the smaller of what it is asked for and what it can
do, so its limits stay below its own, but a proposal of zero takes them to zero.
A client takes the limits of a UA as they come. These are the two ways to leave
the bounds of the protocol, so the limits of a session stay in them exactly as
long as the other side keeps away from both.

## Main definitions

* `Documented`: Limits within the bounds of the protocol.
* `Bounded`: Limits within these bounds and within a session's own.
* `Acceptable`: A call whose parameters keep the limits in their bounds.

## Theorems

* `bounded_call_iff`: One call.
* `bounded_iff`: The runs that never leave the bounds.
* `bounded_of_connected`: A connected session has limits within the bounds.
* `not_bounded`: A peer can lead out of them.
-/

namespace Dlms

namespace Hdlc

open Machine (Admits run)

/-- The bounds of the protocol. -/
structure Documented (limits : HdlcSessionNegotiationLimits) : Prop where
  transmit : 1 ≤ limits.maxInformationFieldLengthTransmit ∧
    limits.maxInformationFieldLengthTransmit ≤ 2030
  receive : 1 ≤ limits.maxInformationFieldLengthReceive ∧
    limits.maxInformationFieldLengthReceive ≤ 2030
  windowTransmit : 1 ≤ limits.windowSizeTransmit.toNat ∧ limits.windowSizeTransmit.toNat ≤ 7
  windowReceive : 1 ≤ limits.windowSizeReceive.toNat ∧ limits.windowSizeReceive.toNat ≤ 7

/-- No limit is above the own one. -/
structure AtMost (own limits : HdlcSessionNegotiationLimits) : Prop where
  transmit : limits.maxInformationFieldLengthTransmit ≤ own.maxInformationFieldLengthTransmit
  receive : limits.maxInformationFieldLengthReceive ≤ own.maxInformationFieldLengthReceive
  windowTransmit : limits.windowSizeTransmit.toNat ≤ own.windowSizeTransmit.toNat
  windowReceive : limits.windowSizeReceive.toNat ≤ own.windowSizeReceive.toNat

/-- The negotiated limits of a session are within the bounds of the protocol and
    within its own. -/
def Bounded (session : HdlcSession) : Prop :=
  Documented session.negotiatedLimits ∧
    AtMost session.options.negotiationLimits session.negotiatedLimits

/-- A proposal without a zero. -/
structure Proposable (params : SnrmParams) : Prop where
  maxInfoTx : params.maxInfoTx ≠ 0
  maxInfoRx : params.maxInfoRx ≠ 0
  windowTx : params.windowTx ≠ 0
  windowRx : params.windowRx ≠ 0

/-- Parameters between one and the own limits; a window is the low octet of what
    is sent. -/
structure Confirmable (own : HdlcSessionNegotiationLimits) (params : SnrmParams) : Prop where
  maxInfoTx : 1 ≤ params.maxInfoTx ∧ params.maxInfoTx ≤ own.maxInformationFieldLengthTransmit
  maxInfoRx : 1 ≤ params.maxInfoRx ∧ params.maxInfoRx ≤ own.maxInformationFieldLengthReceive
  windowTx : 1 ≤ params.windowTx % 256 ∧ params.windowTx % 256 ≤ own.windowSizeTransmit.toNat
  windowRx : 1 ≤ params.windowRx % 256 ∧ params.windowRx % 256 ≤ own.windowSizeReceive.toNat

/-- The parameters that a UA confirms, and the proposal that a response answers,
    keep the limits in their bounds. -/
def Acceptable (session : HdlcSession) (call : SessionCall) : Prop :=
  match call with
  | .buildConnectResponse =>
      session.options.role = .server → session.connectResponsePending = true →
        ∀ proposed ∈ session.pendingNegotiation, Proposable proposed
  | .receiveFrame frame =>
      session.incomingAddressesMatch frame = true → frame.control.unnumberedKind = .ok .ua →
        session.state = .awaitingConnection →
          ∀ params consumed, parseSnrmInfoField frame.information = .ok (params, consumed) →
            consumed > 0 → Confirmable session.options.negotiationLimits params
  | _ => True

/-- The own limits of a session are those of the protocol. -/
def OwnDocumented (session : HdlcSession) : Prop :=
  Documented session.options.negotiationLimits

namespace HdlcSession

section Limits

variable (session : HdlcSession)

/-- The limits do not depend on anything but themselves. -/
theorem bounded_congr (after : HdlcSession)
    (hnegotiated : after.negotiatedLimits = session.negotiatedLimits)
    (hown : after.options.negotiationLimits = session.options.negotiationLimits) :
    Bounded after ↔ Bounded session := by
  rw [Bounded, Bounded, hnegotiated, hown]

/-- A smaller of two is a limit of the protocol when the own one is and the
    proposal is not zero. -/
theorem min_bounds (proposed own bound : Nat) (hown : 1 ≤ own ∧ own ≤ bound) :
    (1 ≤ min proposed own ∧ min proposed own ≤ bound) ↔ proposed ≠ 0 := by
  omega

theorem toNat_min_window (proposed : Nat) (own : UInt8) :
    (UInt8.ofNat (min proposed own.toNat)).toNat = min proposed own.toNat := by
  have hown := own.toNat_lt
  rw [UInt8.toNat_ofNat', Nat.mod_eq_of_lt (by omega)]

/-- What a server answers is within its own limits; it is within the bounds of
    the protocol when nothing asked for is zero. -/
theorem bounded_answeredLimits_iff (proposed : SnrmParams) (own : HdlcSessionNegotiationLimits)
    (hown : Documented own) :
    Documented (answeredLimits (negotiateParams proposed own)) ∧
        AtMost own (answeredLimits (negotiateParams proposed own)) ↔
      Proposable proposed := by
  have htransmit := min_bounds proposed.maxInfoRx _ 2030 hown.transmit
  have hreceive := min_bounds proposed.maxInfoTx _ 2030 hown.receive
  have hwindowTransmit := min_bounds proposed.windowRx _ 7 hown.windowTransmit
  have hwindowReceive := min_bounds proposed.windowTx _ 7 hown.windowReceive
  have hrx := toNat_min_window proposed.windowRx own.windowSizeTransmit
  have htx := toNat_min_window proposed.windowTx own.windowSizeReceive
  -- A minimum is zero only if one of the two is, and the own limits are not.
  constructor
  · rintro ⟨hdocumented, -⟩
    refine ⟨hreceive.mp hdocumented.receive, htransmit.mp hdocumented.transmit, ?_, ?_⟩
    · have hwindow := hdocumented.windowReceive
      simp only [answeredLimits, negotiateParams, htx] at hwindow
      exact hwindowReceive.mp hwindow
    · have hwindow := hdocumented.windowTransmit
      simp only [answeredLimits, negotiateParams, hrx] at hwindow
      exact hwindowTransmit.mp hwindow
  · intro hproposable
    refine ⟨⟨htransmit.mpr hproposable.maxInfoRx, hreceive.mpr hproposable.maxInfoTx, ?_, ?_⟩,
      ⟨Nat.min_le_right _ _, Nat.min_le_right _ _, ?_, ?_⟩⟩
    · simp only [answeredLimits, negotiateParams, hrx]
      exact hwindowTransmit.mpr hproposable.windowRx
    · simp only [answeredLimits, negotiateParams, htx]
      exact hwindowReceive.mpr hproposable.windowTx
    · simp only [answeredLimits, negotiateParams, hrx]
      exact Nat.min_le_right _ _
    · simp only [answeredLimits, negotiateParams, htx]
      exact Nat.min_le_right _ _

/-- What a UA confirms is taken as it comes. -/
theorem bounded_confirmedLimits_iff (params : SnrmParams) (own : HdlcSessionNegotiationLimits)
    (hown : Documented own) :
    Documented (confirmedLimits params) ∧ AtMost own (confirmedLimits params) ↔
      Confirmable own params := by
  have htx : (UInt8.ofNat params.windowTx).toNat = params.windowTx % 256 := UInt8.toNat_ofNat'
  have hrx : (UInt8.ofNat params.windowRx).toNat = params.windowRx % 256 := UInt8.toNat_ofNat'
  constructor
  · rintro ⟨hdocumented, hatMost⟩
    refine ⟨⟨hdocumented.transmit.1, hatMost.transmit⟩, ⟨hdocumented.receive.1, hatMost.receive⟩,
      ?_, ?_⟩
    · rw [← htx]
      exact ⟨hdocumented.windowTransmit.1, hatMost.windowTransmit⟩
    · rw [← hrx]
      exact ⟨hdocumented.windowReceive.1, hatMost.windowReceive⟩
  · rintro ⟨hmaxTx, hmaxRx, hwindowTx, hwindowRx⟩
    rw [← htx] at hwindowTx
    rw [← hrx] at hwindowRx
    exact ⟨⟨⟨hmaxTx.1, hmaxTx.2.trans hown.transmit.2⟩,
        ⟨hmaxRx.1, hmaxRx.2.trans hown.receive.2⟩,
        ⟨hwindowTx.1, hwindowTx.2.trans hown.windowTransmit.2⟩,
        ⟨hwindowRx.1, hwindowRx.2.trans hown.windowReceive.2⟩⟩,
      ⟨hmaxTx.2, hmaxRx.2, hwindowTx.2, hwindowRx.2⟩⟩

/-! ### The calls that leave the limits -/

/-- The negotiated and the own limits are the same. -/
def SameLimits (before after : HdlcSession) : Prop :=
  after.negotiatedLimits = before.negotiatedLimits ∧
    after.options.negotiationLimits = before.options.negotiationLimits

theorem sameLimits_of_resetSequences (after : HdlcSession)
    (hsame : after.resetSequences = session.resetSequences) : SameLimits session after :=
  ⟨congrArg (fun reset => reset.negotiatedLimits) hsame,
    congrArg (fun reset => reset.options.negotiationLimits) hsame⟩

theorem sameLimits_buildConnectRequestInternal (includeNegotiation : Bool)
    (userInformation : Bytes) :
    SameLimits session
      (session.buildConnectRequestInternal includeNegotiation userInformation).2 := by
  rcases session.buildConnectRequestInternal_cases includeNegotiation userInformation with
    ⟨status, h⟩ | ⟨-, -, output, h⟩
  · rw [h]
    exact ⟨rfl, rfl⟩
  · rw [h]
    exact ⟨rfl, rfl⟩

theorem sameLimits_buildDisconnectRequest (userInformation : Bytes) :
    SameLimits session (session.buildDisconnectRequest userInformation).2 := by
  unfold buildDisconnectRequest
  split_ifs
  · exact ⟨rfl, rfl⟩
  · cases session.buildFrame discControl userInformation with
    | error status => exact ⟨rfl, rfl⟩
    | ok output => exact ⟨rfl, rfl⟩

theorem sameLimits_buildDisconnectResponse :
    SameLimits session session.buildDisconnectResponse.2 := by
  unfold buildDisconnectResponse
  split_ifs
  · exact ⟨rfl, rfl⟩
  · cases session.buildFrame uaControl [] with
    | error status => exact ⟨rfl, rfl⟩
    | ok output => exact ⟨rfl, rfl⟩

theorem sameLimits_buildDmResponse : SameLimits session session.buildDmResponse.2 := by
  unfold buildDmResponse
  split_ifs
  · exact ⟨rfl, rfl⟩
  · cases session.buildFrame dmControl [] with
    | error status => exact ⟨rfl, rfl⟩
    | ok output => exact ⟨rfl, rfl⟩

theorem sameLimits_receiveSnrm (information : Bytes) :
    SameLimits session (session.receiveSnrm information).2 := by
  rcases session.receiveSnrm_cases information with
    ⟨-, h⟩ | ⟨-, ⟨status, -, h⟩ | ⟨proposed, consumed, -, h⟩⟩
  · rw [h]
    exact ⟨rfl, rfl⟩
  · rw [h]
    exact ⟨rfl, rfl⟩
  · rw [h]
    exact ⟨rfl, rfl⟩

/-- Only a UA has limits for a session that receives it. -/
theorem sameLimits_receiveUnnumberedFrame (frame : HdlcFrame)
    (hua : frame.control.unnumberedKind ≠ .ok .ua) :
    SameLimits session (session.receiveUnnumberedFrame frame).2 := by
  unfold receiveUnnumberedFrame
  rcases hkind : frame.control.unnumberedKind with status | kind
  · exact ⟨rfl, rfl⟩
  · cases kind with
    | snrm => exact session.sameLimits_receiveSnrm frame.information
    | ua => exact absurd hkind hua
    | disc =>
        dsimp only
        split_ifs
        · exact ⟨rfl, rfl⟩
        · exact ⟨rfl, rfl⟩
    | dm => exact ⟨rfl, rfl⟩
    | frmr => exact ⟨rfl, rfl⟩
    | ui => exact ⟨rfl, rfl⟩

/-! ### The two that set them -/

theorem bounded_buildConnectResponse_iff (hown : OwnDocumented session) (h : Bounded session) :
    Bounded session.buildConnectResponse.2 ↔ Acceptable session .buildConnectResponse := by
  have hanswering : session.options.role = .server → session.connectResponsePending = true →
      (Bounded session.answering ↔ Acceptable session .buildConnectResponse) := by
    intro hrole hpending
    simp only [Acceptable, hrole, hpending, forall_const]
    unfold answering
    cases session.pendingNegotiation with
    | none => exact iff_of_true h fun _ hmem => absurd hmem (Option.not_mem_none _)
    | some proposed =>
        simp only [Option.mem_some_iff, forall_eq']
        exact bounded_answeredLimits_iff proposed _ hown
  rcases session.buildConnectResponse_cases with
    ⟨hundue, status, hrefused⟩ | ⟨hrole, hpending, ⟨status, -, hunfit⟩ | ⟨output, -, hbuilt⟩⟩
  · rw [hrefused]
    exact iff_of_true h fun hrole hpending => absurd ⟨hrole, hpending⟩ hundue
  · rw [hunfit]
    exact hanswering hrole hpending
  · rw [hbuilt]
    exact (bounded_congr session.answering session.answered rfl rfl).trans
      (hanswering hrole hpending)

theorem bounded_receiveUa_iff (information : Bytes) (hown : OwnDocumented session)
    (h : Bounded session) :
    Bounded (session.receiveUa information).2 ↔
      (session.state = .awaitingConnection →
        ∀ params consumed, parseSnrmInfoField information = .ok (params, consumed) →
          consumed > 0 → Confirmable session.options.negotiationLimits params) := by
  rcases session.receiveUa_cases information with
    ⟨hstate, hconnected⟩ | ⟨hstate, hdisconnected⟩ | ⟨⟨hstate, -⟩, hrefused⟩
  · rw [hconnected]
    refine (bounded_congr (session.confirming information) _ rfl rfl).trans ?_
    simp only [hstate, forall_const]
    unfold confirming
    rcases parseSnrmInfoField information with status | ⟨params, consumed⟩
    · refine iff_of_true h ?_
      intro params consumed hparsed
      cases hparsed
    · simp only [Except.ok.injEq, Prod.mk.injEq, and_imp]
      -- A UA that carries no parameters confirms nothing, and the limits stay as they are.
      by_cases hsome : consumed > 0
      · rw [if_pos hsome]
        refine (bounded_confirmedLimits_iff params _ hown).trans ⟨?_, ?_⟩
        · rintro hconfirmable _ _ rfl rfl _
          exact hconfirmable
        · intro hall
          exact hall params consumed rfl rfl hsome
      · rw [if_neg hsome]
        refine iff_of_true h ?_
        rintro _ _ rfl rfl hmore
        exact absurd hmore hsome
  · rw [hdisconnected]
    refine iff_of_true h ?_
    rw [hstate]
    exact fun hother => absurd hother nofun
  · rw [hrefused]
    exact iff_of_true h fun hawaiting => absurd hawaiting hstate

/-! ### One call -/

/-- A call keeps the limits in their bounds exactly when its parameters are
    acceptable. -/
theorem bounded_call_iff (made : SessionCall) (hown : OwnDocumented session)
    (h : Bounded session) : Bounded (call made session).2 ↔ Acceptable session made := by
  have hsame (after : HdlcSession) (hlimits : SameLimits session after) : Bounded after :=
    (session.bounded_congr after hlimits.1 hlimits.2).mpr h
  cases made with
  | buildConnectRequest =>
      exact iff_of_true (hsame _ (session.sameLimits_buildConnectRequestInternal _ _)) trivial
  | buildConnectRequestWith userInformation =>
      exact iff_of_true (hsame _ (session.sameLimits_buildConnectRequestInternal _ _)) trivial
  | buildConnectResponse => exact session.bounded_buildConnectResponse_iff hown h
  | buildDisconnectRequest userInformation =>
      exact iff_of_true (hsame _ (session.sameLimits_buildDisconnectRequest _)) trivial
  | buildDisconnectResponse =>
      exact iff_of_true (hsame _ session.sameLimits_buildDisconnectResponse) trivial
  | buildDmResponse => exact iff_of_true (hsame _ session.sameLimits_buildDmResponse) trivial
  | buildInformationFrame information pollFinal =>
      exact iff_of_true (hsame _ (session.sameLimits_of_resetSequences _
        (session.resetSequences_buildInformationFrame information pollFinal))) trivial
  | buildReceiveReadyFrame pollFinal => exact iff_of_true h trivial
  | receiveFrame frame =>
      show Bounded (session.receiveFrame frame).2 ↔ _
      by_cases hunnumbered : session.incomingAddressesMatch frame = true ∧
          frame.control.frameKind = .unnumbered
      · rw [session.receiveFrame_unnumbered frame hunnumbered.1 hunnumbered.2]
        -- A UA is the only frame that brings limits with it.
        by_cases hua : frame.control.unnumberedKind = .ok .ua
        · have hreceived : session.receiveUnnumberedFrame frame =
              session.receiveUa frame.information := by
            unfold receiveUnnumberedFrame
            rw [hua]
          rw [hreceived, session.bounded_receiveUa_iff frame.information hown h]
          simp [Acceptable, hunnumbered.1, hua]
        · refine iff_of_true (hsame _ (session.sameLimits_receiveUnnumberedFrame frame hua)) ?_
          exact fun _ hother => absurd hother hua
      · refine iff_of_true (hsame _ (session.sameLimits_of_resetSequences _
          (session.resetSequences_receiveFrame frame hunnumbered))) ?_
        exact fun hmatch hua => absurd ⟨hmatch, unnumberedKind_eq_ok _ _ hua⟩ hunnumbered

/-- The own limits never change. -/
theorem ownLimits_call (made : SessionCall) :
    (call made session).2.options.negotiationLimits = session.options.negotiationLimits := by
  cases made with
  | buildConnectRequest => exact (session.sameLimits_buildConnectRequestInternal _ _).2
  | buildConnectRequestWith userInformation =>
      exact (session.sameLimits_buildConnectRequestInternal _ _).2
  | buildConnectResponse =>
      -- An answer changes the limits of the codec, not the own ones.
      have hanswering : session.answering.options.negotiationLimits =
          session.options.negotiationLimits := by
        unfold answering
        cases session.pendingNegotiation with
        | none => rfl
        | some proposed => rfl
      show session.buildConnectResponse.2.options.negotiationLimits = _
      rcases session.buildConnectResponse_cases with
        ⟨-, status, h⟩ | ⟨-, -, ⟨status, -, h⟩ | ⟨output, -, h⟩⟩
      · rw [h]
      · rw [h]
        exact hanswering
      · rw [h]
        exact hanswering
  | buildDisconnectRequest userInformation =>
      exact (session.sameLimits_buildDisconnectRequest _).2
  | buildDisconnectResponse => exact session.sameLimits_buildDisconnectResponse.2
  | buildDmResponse => exact session.sameLimits_buildDmResponse.2
  | buildInformationFrame information pollFinal =>
      exact (session.sameLimits_of_resetSequences _
        (session.resetSequences_buildInformationFrame information pollFinal)).2
  | buildReceiveReadyFrame pollFinal => rfl
  | receiveFrame frame =>
      show (session.receiveFrame frame).2.options.negotiationLimits = _
      by_cases hunnumbered : session.incomingAddressesMatch frame = true ∧
          frame.control.frameKind = .unnumbered
      · rw [session.receiveFrame_unnumbered frame hunnumbered.1 hunnumbered.2]
        by_cases hua : frame.control.unnumberedKind = .ok .ua
        · unfold receiveUnnumberedFrame
          rw [hua]
          show (session.receiveUa frame.information).2.options.negotiationLimits = _
          rcases session.receiveUa_cases frame.information with
            ⟨-, h⟩ | ⟨-, h⟩ | ⟨-, h⟩
          · rw [h]
            rcases session.confirming_cases frame.information with hnone | ⟨limits, hsome⟩
            · rw [hnone]
              rfl
            · rw [hsome]
              rfl
          · rw [h]
            rfl
          · rw [h]
        · exact (session.sameLimits_receiveUnnumberedFrame frame hua).2
      · exact (session.sameLimits_of_resetSequences _
          (session.resetSequences_receiveFrame frame hunnumbered)).2

end Limits

/-! ### Runs -/

/-- Limits within the bounds of the protocol are no zeros that stand for
    defaults. -/
theorem normalizedLimits_of_documented (limits : HdlcSessionNegotiationLimits)
    (h : Documented limits) : normalizedLimits limits = limits := by
  have hwindowTransmit : limits.windowSizeTransmit ≠ 0 := by
    intro hzero
    have hpositive := h.windowTransmit.1
    rw [hzero] at hpositive
    exact absurd hpositive (by decide)
  have hwindowReceive : limits.windowSizeReceive ≠ 0 := by
    intro hzero
    have hpositive := h.windowReceive.1
    rw [hzero] at hpositive
    exact absurd hpositive (by decide)
  unfold normalizedLimits
  rw [if_neg (Nat.pos_iff_ne_zero.mp h.transmit.1), if_neg (Nat.pos_iff_ne_zero.mp h.receive.1),
    if_neg hwindowTransmit, if_neg hwindowReceive]

section Runs

variable (options : HdlcSessionOptions) (hown : Documented options.negotiationLimits)
include hown

theorem ownLimits_create :
    (create options).options.negotiationLimits = options.negotiationLimits :=
  normalizedLimits_of_documented options.negotiationLimits hown

theorem bounded_create : Bounded (create options) := by
  have hnegotiated : (create options).negotiatedLimits = options.negotiationLimits :=
    normalizedLimits_of_documented options.negotiationLimits hown
  rw [Bounded, hnegotiated, ownLimits_create options hown]
  exact ⟨hown, ⟨le_rfl, le_rfl, le_rfl, le_rfl⟩⟩

/-- What holds of the own limits at the start of a run holds of them all along. -/
theorem ownLimits_final (calls : List SessionCall) :
    ∀ t ∈ run call calls (create options),
      t.after.options.negotiationLimits = options.negotiationLimits := by
  intro t ht
  exact ((Machine.invariant_run call
    (fun session => session.options.negotiationLimits = options.negotiationLimits)
    (fun session made hsame => (session.ownLimits_call made).trans hsame) calls (create options)
    (ownLimits_create options hown)).1 t ht).2

/-- The limits stay in their bounds all along a run exactly when the parameters
    of each of its calls are acceptable. -/
theorem bounded_iff (calls : List SessionCall) :
    (∀ t ∈ run call calls (create options), Bounded t.after) ↔
      Admits call (fun _ session made => Acceptable session made) [] calls (create options) := by
  have hdocumented : OwnDocumented (create options) := by
    rw [OwnDocumented, ownLimits_create options hown]
    exact hown
  refine Machine.forall_after_iff_admits call OwnDocumented Bounded Acceptable ?_
    (fun session made hown h => session.bounded_call_iff made hown h) calls [] (create options)
    hdocumented (bounded_create options hown)
  intro session made hdocumented
  rw [OwnDocumented, session.ownLimits_call made]
  exact hdocumented

/-- A session that is connected has limits within the bounds of the protocol and
    of its own, as long as the other side asks for nothing that is zero and
    confirms nothing but what it was offered. -/
theorem bounded_of_connected (calls : List SessionCall)
    (h : Admits call (fun _ session made => Acceptable session made) [] calls
      (create options)) :
    ∀ t ∈ run call calls (create options), t.after.state = .connected →
      Documented t.after.negotiatedLimits ∧
        AtMost options.negotiationLimits t.after.negotiatedLimits := by
  intro t ht _
  have hbounded := (bounded_iff options hown calls).mpr h t ht
  rw [Bounded, ownLimits_final options hown calls t ht] at hbounded
  exact hbounded

end Runs

/-- A reader and a meter with the default limits. -/
def defaultOptions (role : HdlcSessionRole) : HdlcSessionOptions :=
  sessionOptions role defaultHdlcSessionNegotiationLimits

theorem documented_default : Documented defaultHdlcSessionNegotiationLimits :=
  ⟨by decide, by decide, by decide, by decide⟩

/-- A UA with half of the information that the reader can receive. -/
def halvedUa : Bytes := [0x81, 0x80, 0x03, 0x06, 0x01, 0x40]

def halvedCalls : List SessionCall :=
  [.buildConnectRequest, .receiveFrame (meterFrame ua halvedUa)]

theorem bounded_of_connected_halved :
    (Machine.final call halvedCalls (create (defaultOptions .client))).state = .connected ∧
      ∀ t ∈ run call halvedCalls (create (defaultOptions .client)),
        t.after.state = .connected →
          Documented t.after.negotiatedLimits ∧
            AtMost defaultHdlcSessionNegotiationLimits t.after.negotiatedLimits := by
  refine ⟨by decide +kernel,
    bounded_of_connected (defaultOptions .client) documented_default halvedCalls ?_⟩
  refine ⟨trivial, ?_, trivial⟩
  intro _ _ _ params consumed hparsed _
  rcases Prod.mk.inj (Except.ok.inj (hparsed.symm.trans (rfl : parseSnrmInfoField halvedUa =
    .ok ({ defaultSnrmParams with maxInfoRx := 64 }, 6)))) with ⟨rfl, -⟩
  exact ⟨by decide, by decide, by decide, by decide⟩

/-- A UA with a window of eight frames. -/
def wideCalls : List SessionCall :=
  [.buildConnectRequest,
   .receiveFrame (meterFrame ua [0x81, 0x80, 0x06, 0x07, 0x04, 0x00, 0x00, 0x00, 0x08])]

/-- A SNRM that asks for a window of no frames. -/
def closedCalls : List SessionCall :=
  [.receiveFrame (readerFrame snrm [0x81, 0x80, 0x06, 0x07, 0x04, 0x00, 0x00, 0x00, 0x00]),
   .buildConnectResponse]

theorem final_wideCalls :
    (Machine.final call wideCalls (create (defaultOptions .client))).state = .connected ∧
      (Machine.final call wideCalls
        (create (defaultOptions .client))).negotiatedLimits.windowSizeTransmit = 8 := by
  decide +kernel

theorem final_closedCalls :
    (Machine.final call closedCalls (create (defaultOptions .server))).state = .connected ∧
      (Machine.final call closedCalls
        (create (defaultOptions .server))).negotiatedLimits.windowSizeReceive = 0 := by
  decide +kernel

/-- A UA can give a client a window of eight frames, and a SNRM a server a window
    of none. -/
theorem not_bounded :
    (¬∀ t ∈ run call wideCalls (create (defaultOptions .client)),
        t.after.state = .connected → Documented t.after.negotiatedLimits) ∧
      ¬∀ t ∈ run call closedCalls (create (defaultOptions .server)),
        t.after.state = .connected → Documented t.after.negotiatedLimits := by
  constructor
  · intro hall
    have hwindow := (Machine.holds_final call
      (fun session => session.state = .connected → Documented session.negotiatedLimits) wideCalls
      _ (fun hstate => absurd hstate (by decide)) hall final_wideCalls.1).windowTransmit.2
    rw [final_wideCalls.2] at hwindow
    exact absurd hwindow (by decide)
  · intro hall
    have hwindow := (Machine.holds_final call
      (fun session => session.state = .connected → Documented session.negotiatedLimits)
      closedCalls _ (fun hstate => absurd hstate (by decide)) hall
      final_closedCalls.1).windowReceive.1
    rw [final_closedCalls.2] at hwindow
    exact absurd hwindow (by decide)

end HdlcSession

end Hdlc

end Dlms
