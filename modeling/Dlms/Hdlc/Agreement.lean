import Dlms.Hdlc.Calls
import Dlms.Machine.Run

/-!
# Agreement on the limits

A SNRM with parameters and the UA to it leave the two sides with the same
limits, whatever they held before: the server takes the smaller of each, answers
with what it took, and the client takes the answer. The parameters are sent in
two octets and in one, and what has gone through them once comes through them
again.

A SNRM without parameters leaves both sides with the limits they had. Those are
their own when they are new and those of an earlier exchange otherwise, so that
the sides agree after it exactly when they agreed before.

## Main definitions

* `Pair`, `PairEvent`, `pairStep`: Two sessions, what happens to each, and the
  exchanges between them.
* `Agreed`: One side sends what the other receives.
* `Proposes`: A SNRM with parameters.

## Theorems

* `parseSnrmInfoField_block`: What a block of parameters says.
* `exchange_eq_true`: The way of an exchange.
* `agreed_exchange_iff`: One exchange.
* `agreed_iff`: Any exchange of any run.
* `not_agreed`: New sessions that do not agree.
-/

namespace Dlms

namespace Hdlc

open Machine (run Transition)

/-! ### A block of parameters -/

/-- What is left of the parameters on the wire. -/
def sentParams (params : SnrmParams) : SnrmParams where
  maxInfoTx := params.maxInfoTx % 65536
  maxInfoRx := params.maxInfoRx % 65536
  windowTx := params.windowTx % 256
  windowRx := params.windowRx % 256

theorem beValue_two (high low : UInt8) :
    Codec.beValue [high, low] = high.toNat * 256 + low.toNat := by
  simp only [Codec.beValue_cons, List.length_cons, List.length_nil]
  rw [show Codec.beValue [] = 0 from rfl]
  omega

theorem beValue_size (size : Nat) :
    Codec.beValue [UInt8.ofNat (size / 256), UInt8.ofNat size] = size % 65536 := by
  rw [beValue_two, UInt8.toNat_ofNat', UInt8.toNat_ofNat']
  omega

theorem beValue_window (window : Nat) :
    Codec.beValue [0x00, 0x00, 0x00, UInt8.ofNat window] = window % 256 := by
  simp only [Codec.beValue_cons, List.length_cons, List.length_nil, UInt8.toNat_ofNat',
    UInt8.toNat_zero, Nat.zero_mul, Nat.zero_add, pow_zero, Nat.mul_one]
  rw [show Codec.beValue [] = 0 from rfl]
  omega

/-- The parameters of a block, one after the other. -/
theorem parseParameters_block (params : SnrmParams) :
    parseParameters 20
        [0x05, 0x02, UInt8.ofNat (params.maxInfoTx / 256), UInt8.ofNat params.maxInfoTx,
          0x06, 0x02, UInt8.ofNat (params.maxInfoRx / 256), UInt8.ofNat params.maxInfoRx,
          0x07, 0x04, 0x00, 0x00, 0x00, UInt8.ofNat params.windowTx,
          0x08, 0x04, 0x00, 0x00, 0x00, UInt8.ofNat params.windowRx] defaultSnrmParams =
      .ok (sentParams params) := by
  rw [sentParams, ← beValue_size, ← beValue_size, ← beValue_window, ← beValue_window]
  rfl

/-- What a block of parameters says, whatever stands behind it. -/
theorem parseSnrmInfoField_block (params : SnrmParams) (userInformation : Bytes) :
    parseSnrmInfoField (encodeSnrmNegotiationBlock params ++ userInformation) =
      .ok (sentParams params, 23) := by
  have hgroup : parseSnrmInfoField (encodeSnrmNegotiationBlock params ++ userInformation) =
      (do
        let parsed ← parseParameters 20
          [0x05, 0x02, UInt8.ofNat (params.maxInfoTx / 256), UInt8.ofNat params.maxInfoTx,
            0x06, 0x02, UInt8.ofNat (params.maxInfoRx / 256), UInt8.ofNat params.maxInfoRx,
            0x07, 0x04, 0x00, 0x00, 0x00, UInt8.ofNat params.windowTx,
            0x08, 0x04, 0x00, 0x00, 0x00, UInt8.ofNat params.windowRx] defaultSnrmParams
        return (parsed, 3 + 20)) := by
    unfold encodeSnrmNegotiationBlock parseSnrmInfoField
    simp only [List.cons_append, List.nil_append]
    rw [if_neg (by simp only [List.length_cons, not_lt]; exact Nat.le_add_left _ _)]
    rfl
  rw [hgroup, parseParameters_block]
  rfl

/-- What has been negotiated comes through the wire as it is. -/
theorem sentParams_negotiateParams (proposed : SnrmParams) (own : HdlcSessionNegotiationLimits) :
    sentParams (negotiateParams (sentParams proposed) own) =
      negotiateParams (sentParams proposed) own := by
  have hmaxInfoTx : proposed.maxInfoTx % 65536 < 65536 := Nat.mod_lt _ (by decide)
  have hmaxInfoRx : proposed.maxInfoRx % 65536 < 65536 := Nat.mod_lt _ (by decide)
  have hwindowTx : proposed.windowTx % 256 < 256 := Nat.mod_lt _ (by decide)
  have hwindowRx : proposed.windowRx % 256 < 256 := Nat.mod_lt _ (by decide)
  simp only [sentParams, negotiateParams, SnrmParams.mk.injEq]
  refine ⟨Nat.mod_eq_of_lt ?_, Nat.mod_eq_of_lt ?_, Nat.mod_eq_of_lt ?_, Nat.mod_eq_of_lt ?_⟩
  · omega
  · omega
  · omega
  · omega

/-! ### Two sessions -/

/-- The two sessions of a link. -/
structure Pair where
  client : HdlcSession
  server : HdlcSession
  deriving DecidableEq

/-- A call at one end, or an exchange of both. -/
inductive PairEvent where
  | client (call : SessionCall)
  | server (call : SessionCall)
  /-- A SNRM and the UA to it, perhaps with user information in the SNRM. -/
  | connect (userInformation : Option Bytes)
  deriving DecidableEq

/-- The two requests of a client. -/
def buildRequest (userInformation : Option Bytes) (client : HdlcSession) :
    Except HdlcStatus Bytes × HdlcSession :=
  match userInformation with
  | none => client.buildConnectRequest
  | some userInformation => client.buildConnectRequestWith userInformation

/-- An exchange, as far as it comes; the limits are those each side decodes
    with. -/
def exchange (clientLimits serverLimits : HdlcCodecLimits) (userInformation : Option Bytes)
    (pair : Pair) : Bool × Pair :=
  match buildRequest userInformation pair.client with
  | (.error _, client) => (false, { pair with client := client })
  | (.ok request, client) =>
      match decodeFrame request serverLimits with
      | .error _ => (false, { pair with client := client })
      | .ok frame =>
          match pair.server.receiveFrame frame with
          | (.error _, server) => (false, ⟨client, server⟩)
          | (.ok (), server) =>
              match server.buildConnectResponse with
              | (.error _, server) => (false, ⟨client, server⟩)
              | (.ok response, server) =>
                  match decodeFrame response clientLimits with
                  | .error _ => (false, ⟨client, server⟩)
                  | .ok frame =>
                      match client.receiveFrame frame with
                      | (.error _, client) => (false, ⟨client, server⟩)
                      | (.ok (), client) => (true, ⟨client, server⟩)

/-- Whether a call or an exchange has succeeded. -/
def pairStep (clientLimits serverLimits : HdlcCodecLimits) (event : PairEvent) (pair : Pair) :
    Bool × Pair :=
  match event with
  | .client call =>
      let (outcome, client) := HdlcSession.call call pair.client
      (outcome.isOk, { pair with client := client })
  | .server call =>
      let (outcome, server) := HdlcSession.call call pair.server
      (outcome.isOk, { pair with server := server })
  | .connect userInformation => exchange clientLimits serverLimits userInformation pair

/-- Each side sends what the other receives. -/
structure Agreed (pair : Pair) : Prop where
  toServer : pair.client.negotiatedLimits.maxInformationFieldLengthTransmit =
    pair.server.negotiatedLimits.maxInformationFieldLengthReceive
  toClient : pair.client.negotiatedLimits.maxInformationFieldLengthReceive =
    pair.server.negotiatedLimits.maxInformationFieldLengthTransmit
  windowToServer : pair.client.negotiatedLimits.windowSizeTransmit =
    pair.server.negotiatedLimits.windowSizeReceive
  windowToClient : pair.client.negotiatedLimits.windowSizeReceive =
    pair.server.negotiatedLimits.windowSizeTransmit

/-- Only the negotiated limits matter. -/
theorem agreed_congr (pair after : Pair)
    (hclient : after.client.negotiatedLimits = pair.client.negotiatedLimits)
    (hserver : after.server.negotiatedLimits = pair.server.negotiatedLimits) :
    Agreed after ↔ Agreed pair := by
  constructor
  · intro h
    refine ⟨?_, ?_, ?_, ?_⟩
    · rw [← hclient, ← hserver]
      exact h.toServer
    · rw [← hclient, ← hserver]
      exact h.toClient
    · rw [← hclient, ← hserver]
      exact h.windowToServer
    · rw [← hclient, ← hserver]
      exact h.windowToClient
  · intro h
    refine ⟨?_, ?_, ?_, ?_⟩
    · rw [hclient, hserver]
      exact h.toServer
    · rw [hclient, hserver]
      exact h.toClient
    · rw [hclient, hserver]
      exact h.windowToServer
    · rw [hclient, hserver]
      exact h.windowToClient

/-- A SNRM with parameters: the client has limits of its own, or there is user
    information behind them. -/
def Proposes (client : HdlcSession) (userInformation : Option Bytes) : Prop :=
  client.options.negotiationLimits ≠ defaultHdlcSessionNegotiationLimits ∨
    userInformation.isSome = true

/-! ### One exchange -/

section Exchange

variable (clientLimits serverLimits : HdlcCodecLimits) (userInformation : Option Bytes)

/-- The parameters that a client asks for. -/
def ownParams (client : HdlcSession) : SnrmParams where
  maxInfoTx := client.options.negotiationLimits.maxInformationFieldLengthTransmit
  maxInfoRx := client.options.negotiationLimits.maxInformationFieldLengthReceive
  windowTx := client.options.negotiationLimits.windowSizeTransmit.toNat
  windowRx := client.options.negotiationLimits.windowSizeReceive.toNat

/-- A SNRM starts with a block of parameters, or it is empty. -/
def Asks (client : HdlcSession) (information : Bytes) : Prop :=
  (Proposes client userInformation ∧
      ∃ rest, information = encodeSnrmNegotiationBlock (ownParams client) ++ rest) ∨
    ¬Proposes client userInformation ∧ information = []

/-- What a SNRM is built from, and what it leaves of the client. -/
theorem buildConnectRequestInternal_built (client waiting : HdlcSession)
    (includeNegotiation : Bool) (information request : Bytes)
    (h : client.buildConnectRequestInternal includeNegotiation information =
      (.ok request, waiting)) :
    waiting = { client.resetSequences with state := .awaitingConnection } ∧
      client.buildFrame snrmControl
        ((if includeNegotiation then encodeSnrmNegotiationBlock (ownParams client) else []) ++
          information) = .ok request := by
  rcases client.buildConnectRequestInternal_cases includeNegotiation information with
    ⟨status, hrefused⟩ | ⟨hrole, hstate, output, hbuilt⟩
  · rw [hrefused] at h
    cases congrArg Prod.fst h
  · rw [hbuilt, Prod.mk.injEq, Except.ok.injEq] at h
    refine ⟨h.2.symm, ?_⟩
    rw [← h.1]
    -- The same call once more, for what the frame was built from.
    unfold HdlcSession.buildConnectRequestInternal at hbuilt
    rw [if_neg (not_not.mpr hrole), if_neg (not_not.mpr hstate)] at hbuilt
    dsimp only at hbuilt
    cases hframe : client.buildFrame snrmControl
        ((if includeNegotiation then encodeSnrmNegotiationBlock (ownParams client) else []) ++
          information) with
    | error status =>
        rw [ownParams] at hframe
        rw [hframe] at hbuilt
        cases congrArg Prod.fst hbuilt
    | ok built =>
        rw [ownParams] at hframe
        rw [hframe, Prod.mk.injEq] at hbuilt
        exact hbuilt.1

theorem buildRequest_eq_ok (client waiting : HdlcSession) (request : Bytes)
    (h : buildRequest userInformation client = (.ok request, waiting)) :
    waiting = { client.resetSequences with state := .awaitingConnection } ∧
      ∃ information, client.buildFrame snrmControl information = .ok request ∧
        Asks userInformation client information := by
  cases userInformation with
  | none =>
      rcases buildConnectRequestInternal_built _ _ _ _ _ h with ⟨hwaiting, hbuilt⟩
      refine ⟨hwaiting, _, hbuilt, ?_⟩
      by_cases hown : client.options.negotiationLimits = defaultHdlcSessionNegotiationLimits
      · rw [hown, bne_self_eq_false, if_neg Bool.false_ne_true]
        refine .inr ⟨?_, rfl⟩
        rintro (hother | huser)
        · exact hother hown
        · exact absurd huser (by simp)
      · rw [bne_iff_ne.mpr hown, if_pos rfl]
        exact .inl ⟨.inl hown, _, rfl⟩
  | some userInformation =>
      rcases buildConnectRequestInternal_built _ _ _ _ _ h with ⟨hwaiting, hbuilt⟩
      refine ⟨hwaiting, _, hbuilt, ?_⟩
      rw [if_pos rfl]
      exact .inl ⟨.inr rfl, _, rfl⟩

/-- A SNRM that a server accepts waits for its response with its parameters. -/
theorem receiveFrame_snrm_pending (server answering : HdlcSession) (frame : HdlcFrame)
    (hcontrol : frame.control.rawValue = snrmControl)
    (h : server.receiveFrame frame = (.ok (), answering)) :
    ∃ proposed consumed, parseSnrmInfoField frame.information = .ok (proposed, consumed) ∧
      answering.pendingNegotiation = (if consumed > 0 then some proposed else none) ∧
      answering.negotiatedLimits = server.negotiatedLimits ∧
      answering.options = server.options := by
  have hkind : frame.control.frameKind = .unnumbered := by
    rw [HdlcControl.frameKind, hcontrol]
    rfl
  have hsnrm : frame.control.unnumberedKind = .ok .snrm := by
    rw [HdlcControl.unnumberedKind, hkind, hcontrol]
    rfl
  have hmatch := (HdlcSession.receiveFrame_snrm server answering frame hcontrol h).1
  rw [server.receiveFrame_unnumbered frame hmatch hkind, HdlcSession.receiveUnnumberedFrame,
    hsnrm] at h
  change server.receiveSnrm frame.information = _ at h
  rcases server.receiveSnrm_cases frame.information with
    ⟨-, hrefused⟩ | ⟨-, ⟨status, -, hsenseless⟩ | ⟨proposed, consumed, hparsed, haccepted⟩⟩
  · rw [hrefused] at h
    cases congrArg Prod.fst h
  · rw [hsenseless] at h
    cases congrArg Prod.fst h
  · rw [haccepted, Prod.mk.injEq] at h
    rw [← h.2]
    exact ⟨proposed, consumed, hparsed, rfl, rfl, rfl⟩

/-- The response is built by the session with the limits in force. -/
theorem buildConnectResponse_built (answering connected : HdlcSession) (response : Bytes)
    (h : answering.buildConnectResponse = (.ok response, connected)) :
    answering.answering.buildFrame uaControl answering.answerInformation = .ok response ∧
      connected = answering.answered := by
  rcases answering.buildConnectResponse_cases with
    ⟨-, status, hrefused⟩ | ⟨-, -, ⟨status, -, hunfit⟩ | ⟨output, hframe, hbuilt⟩⟩
  · rw [hrefused] at h
    cases congrArg Prod.fst h
  · rw [hunfit] at h
    cases congrArg Prod.fst h
  · rw [hbuilt, Prod.mk.injEq, Except.ok.injEq] at h
    rw [← h.1]
    exact ⟨hframe, h.2.symm⟩

/-- The sessions on the way through an exchange, and its frames. -/
theorem exchange_eq_true (pair after : Pair)
    (h : exchange clientLimits serverLimits userInformation pair = (true, after)) :
    ∃ request waiting snrm answering response ua,
      buildRequest userInformation pair.client = (.ok request, waiting) ∧
        decodeFrame request serverLimits = .ok snrm ∧
        pair.server.receiveFrame snrm = (.ok (), answering) ∧
        answering.buildConnectResponse = (.ok response, after.server) ∧
        decodeFrame response clientLimits = .ok ua ∧
        waiting.receiveFrame ua = (.ok (), after.client) := by
  unfold exchange at h
  rcases hrequest : buildRequest userInformation pair.client with ⟨status | request, waiting⟩
  · simp [hrequest] at h
  simp only [hrequest] at h
  rcases hsnrm : decodeFrame request serverLimits with status | snrm
  · simp [hsnrm] at h
  simp only [hsnrm] at h
  rcases hreceived : pair.server.receiveFrame snrm with ⟨status | accepted, answering⟩
  · simp [hreceived] at h
  simp only [hreceived] at h
  rcases hresponse : answering.buildConnectResponse with ⟨status | response, connected⟩
  · simp [hresponse] at h
  simp only [hresponse] at h
  rcases hua : decodeFrame response clientLimits with status | ua
  · simp [hua] at h
  simp only [hua] at h
  rcases hconfirmed : waiting.receiveFrame ua with ⟨status | accepted, confirmed⟩
  · simp [hconfirmed] at h
  simp only [hconfirmed, Prod.mk.injEq, true_and] at h
  rw [← h]
  exact ⟨request, waiting, snrm, answering, response, ua, rfl, hsnrm, hreceived, hresponse, hua,
    hconfirmed⟩

/-- Both sides of an exchange are connected, and they agree exactly when the SNRM
    had parameters or they agreed before. -/
theorem agreed_exchange_iff (pair after : Pair)
    (h : exchange clientLimits serverLimits userInformation pair = (true, after)) :
    (after.client.state = .connected ∧ after.server.state = .connected) ∧
      (Agreed after ↔ Proposes pair.client userInformation ∨ Agreed pair) := by
  rcases exchange_eq_true clientLimits serverLimits userInformation pair after h with
    ⟨request, waiting, snrm, answering, response, ua, hrequest, hsnrm, hreceived, hresponse, hua,
      hconfirmed⟩
  rcases buildRequest_eq_ok userInformation _ _ _ hrequest with
    ⟨hwaiting, information, hasked, hasks⟩
  rcases decodeFrame_of_buildFrame pair.client _ _ _ _ _ hasked hsnrm with
    ⟨field, hfield, hframe⟩
  rcases receiveFrame_snrm_pending pair.server answering snrm (by rw [hframe]; exact hfield)
    hreceived with ⟨proposed, consumed, hparsed, hpending, hkept, hoptions⟩
  rcases buildConnectResponse_built _ _ _ hresponse with ⟨hanswer, hserver⟩
  rcases decodeFrame_of_buildFrame answering.answering _ _ _ _ _ hanswer hua with
    ⟨answer, hanswerField, huaFrame⟩
  have hreceivedUa := HdlcSession.receiveFrame_ua waiting after.client ua
    (by rw [huaFrame]; exact hanswerField) hconfirmed
  have hclient : after.client =
      { (waiting.confirming answering.answerInformation).resetSequences with
        state := .connected } := by
    rw [huaFrame] at hreceivedUa
    rcases waiting.receiveUa_cases answering.answerInformation with
      ⟨-, hconnected⟩ | ⟨hstate, -⟩ | ⟨⟨hstate, -⟩, -⟩
    · exact (congrArg Prod.snd (hconnected.symm.trans hreceivedUa)).symm
    · rw [hwaiting] at hstate
      cases hstate
    · rw [hwaiting] at hstate
      exact absurd rfl hstate
  refine ⟨⟨by rw [hclient], by rw [hserver]; rfl⟩, ?_⟩
  rw [hframe] at hparsed
  have hinformation : parseSnrmInfoField information = .ok (proposed, consumed) := hparsed
  rcases hasks with ⟨hproposes, rest, hblock⟩ | ⟨hnothing, hempty⟩
  · refine iff_of_true ?_ (.inl hproposes)
    -- The parameters of the SNRM, of the server and of the UA are one after the
    -- other the same.
    rw [hblock, parseSnrmInfoField_block, Except.ok.injEq, Prod.mk.injEq] at hinformation
    rw [← hinformation.1, ← hinformation.2, if_pos (by decide)] at hpending
    have hlimits : answering.answering.negotiatedLimits = HdlcSession.answeredLimits
        (negotiateParams (sentParams (ownParams pair.client))
          answering.options.negotiationLimits) := by
      rw [HdlcSession.answering, hpending]
      rfl
    have hconfirming : (waiting.confirming answering.answerInformation).negotiatedLimits =
        HdlcSession.confirmedLimits (negotiateParams (sentParams (ownParams pair.client))
          answering.options.negotiationLimits) := by
      have hsent := parseSnrmInfoField_block (negotiateParams
        (sentParams (ownParams pair.client)) answering.options.negotiationLimits) []
      rw [List.append_nil, sentParams_negotiateParams] at hsent
      rw [HdlcSession.confirming, HdlcSession.answerInformation, hpending]
      dsimp only
      rw [hsent]
      rfl
    have hclientLimits : after.client.negotiatedLimits =
        (waiting.confirming answering.answerInformation).negotiatedLimits := by
      rw [hclient]
      rfl
    have hserverLimits : after.server.negotiatedLimits =
        answering.answering.negotiatedLimits := by
      rw [hserver]
      rfl
    rw [hconfirming] at hclientLimits
    rw [hlimits] at hserverLimits
    constructor
    · rw [hclientLimits, hserverLimits]
      rfl
    · rw [hclientLimits, hserverLimits]
      rfl
    · rw [hclientLimits, hserverLimits]
      rfl
    · rw [hclientLimits, hserverLimits]
      rfl
  · -- Nothing is asked for and nothing is answered.
    rw [hempty] at hinformation
    have hconsumed : consumed = 0 :=
      (Prod.mk.inj (Except.ok.inj (hinformation.symm.trans rfl))).2
    rw [hconsumed, if_neg (Nat.lt_irrefl 0)] at hpending
    have hserverLimits : after.server.negotiatedLimits = pair.server.negotiatedLimits := by
      rw [hserver, ← hkept, HdlcSession.answered, HdlcSession.answering, hpending]
      rfl
    have hclientLimits : after.client.negotiatedLimits = pair.client.negotiatedLimits := by
      rw [hclient, HdlcSession.answerInformation, hpending, hwaiting]
      rfl
    rw [agreed_congr pair after hclientLimits hserverLimits]
    exact ⟨.inr, fun heither => heither.resolve_left hnothing⟩

end Exchange

/-! ### Runs -/

/-- New sessions with these options. -/
def newPair (clientOptions serverOptions : HdlcSessionOptions) : Pair where
  client := .create clientOptions
  server := .create serverOptions

/-- The exchanges of a run, whatever came before: any calls of the two sides with
    any frames, and any exchanges. -/
theorem agreed_iff (clientLimits serverLimits : HdlcCodecLimits)
    (clientOptions serverOptions : HdlcSessionOptions) (events : List PairEvent) :
    ∀ t ∈ run (pairStep clientLimits serverLimits) events (newPair clientOptions serverOptions),
      ∀ userInformation, t.input = .connect userInformation → t.output = true →
        (t.after.client.state = .connected ∧ t.after.server.state = .connected) ∧
          (Agreed t.after ↔ Proposes t.before.client userInformation ∨ Agreed t.before) := by
  intro t ht userInformation hinput houtput
  rcases Machine.mem_run _ events _ t ht with ⟨earlier, event, later, -, rfl⟩
  change event = _ at hinput
  subst hinput
  refine agreed_exchange_iff clientLimits serverLimits userInformation _ _ ?_
  exact Prod.ext houtput rfl

/-- A reader with the default limits and a meter that can receive more. -/
def widerMeter : Pair :=
  newPair (sessionOptions .client defaultHdlcSessionNegotiationLimits)
    (sessionOptions .server
      { defaultHdlcSessionNegotiationLimits with maxInformationFieldLengthReceive := 256 })

/-- An exchange of theirs, perhaps with user information in the SNRM. -/
def widerExchange (userInformation : Option Bytes) : Transition PairEvent Bool Pair :=
  Machine.transition (pairStep defaultHdlcCodecLimits defaultHdlcCodecLimits)
    (.connect userInformation) widerMeter

theorem output_widerExchange :
    (widerExchange none).output = true ∧ (widerExchange (some [0x01])).output = true := by
  decide +kernel

/-- With parameters they agree. -/
theorem agreed_iff_widerExchange :
    ((widerExchange (some [0x01])).after.client.state = .connected ∧
        (widerExchange (some [0x01])).after.server.state = .connected) ∧
      (Agreed (widerExchange (some [0x01])).after ↔
        Proposes widerMeter.client (some [0x01]) ∨ Agreed widerMeter) :=
  agreed_iff defaultHdlcCodecLimits defaultHdlcCodecLimits
    (sessionOptions .client defaultHdlcSessionNegotiationLimits)
    (sessionOptions .server
      { defaultHdlcSessionNegotiationLimits with maxInformationFieldLengthReceive := 256 })
    [.connect (some [0x01])] (widerExchange (some [0x01])) List.mem_cons_self (some [0x01]) rfl
    output_widerExchange.2

/-- Without them both are connected and do not. -/
theorem not_agreed :
    (widerExchange none).output = true ∧
      ((widerExchange none).after.client.state = .connected ∧
        (widerExchange none).after.server.state = .connected) ∧
      ¬Agreed (widerExchange none).after := by
  refine ⟨output_widerExchange.1, by decide +kernel, ?_⟩
  intro hagreed
  exact absurd hagreed.toServer (by decide +kernel)

end Hdlc

end Dlms
