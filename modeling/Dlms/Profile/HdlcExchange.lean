import Dlms.Profile.HdlcFlight

/-!
# Exchanges of APDUs over HDLC

APDUs go to and fro between two channels that have connected, and every turn
leaves less to do. Where no turn can be taken any more there is no APDU left, so
each has been received as it was sent.

One thing can go wrong. A channel makes room for LPDUs of the largest APDU that
it accepts, and three octets of header more. Their sum is a number of 64 bits and
can go round to nearly nothing, and then there is room for the smallest limit
only, which is that of the default.

## Main definitions

* `Underway`: A link in the course of an exchange.

## Theorems

* `joined_of_connectChannels`, `fresh_of_connectChannels`: What connecting gives.
* `underway_turn`: What a turn of the link leaves.
* `exchange_completes_iff`: An exchange completes just when all LPDUs can be put
  together.
-/

namespace Dlms

namespace Profile

open Apdu (Bytes)
open Hdlc (Configured HdlcFrame HdlcSession HdlcSessionOptions JustConnected
  configured_of_connectSessions connectSessions effectiveMaximumReassembledInformationSize
  justConnected_of_connectSessions)
open Machine (AtRest Completes attempt completes_of_left exists_final final)

/-! ### Channels that have connected -/

/-- A channel that has sent and received nothing since it has connected. -/
structure Fresh (base : HdlcProfileChannel) : Prop where
  connected : JustConnected base.session
  buffer : base.decoder.buffer = []
  assembling : base.reassembler.pendingFrame = none
  decoded : base.pendingHdlcFrames = []
  apdus : base.pendingApdus = []

section Connected

variable (clientOptions serverOptions : ApduChannelOptions) (client server : HdlcProfileChannel)

/-- The sessions of two channels have gone through an exchange. -/
theorem connectChannels_eq_some
    (h : connectChannels clientOptions serverOptions = some (client, server)) :
    clientOptions.hdlcUseSession = true ∧ serverOptions.hdlcUseSession = true ∧
    ∃ clientSession serverSession,
      makeHdlcSessionOptions clientOptions = .ok clientSession ∧
        makeHdlcSessionOptions serverOptions = .ok serverSession ∧
        connectSessions clientSession.limits serverSession.limits (HdlcSession.create clientSession)
          (HdlcSession.create serverSession) = some (client.session, server.session) ∧
        client = { HdlcProfileChannel.withSession clientOptions clientSession with
          session := client.session } ∧
        server = { HdlcProfileChannel.withSession serverOptions serverSession with
          session := server.session } := by
  unfold connectChannels at h
  split_ifs at h with hoptions
  simp only [Bool.and_eq_true, beq_iff_eq] at hoptions
  rcases hclient : makeHdlcSessionOptions clientOptions with status | clientSession
  · simp [hclient] at h
  rcases hserver : makeHdlcSessionOptions serverOptions with status | serverSession
  · simp [hclient, hserver] at h
  simp only [hclient, hserver] at h
  rcases hsessions : connectSessions clientSession.limits serverSession.limits
    (HdlcSession.create clientSession) (HdlcSession.create serverSession) with _ | ⟨first, second⟩
  · simp [HdlcProfileChannel.withSession, hsessions] at h
  · simp only [HdlcProfileChannel.withSession, hsessions, Option.some.injEq, Prod.mk.injEq] at h
    rcases h with ⟨rfl, rfl⟩
    exact ⟨hoptions.1.1.1, hoptions.1.2, clientSession, serverSession, rfl, rfl, hsessions, rfl,
      rfl⟩

/-- The limits of a session are the defaults, with room for the LPDUs. -/
theorem limits_of_makeHdlcSessionOptions (options : ApduChannelOptions)
    (session : HdlcSessionOptions) (h : makeHdlcSessionOptions options = .ok session) :
    session.limits = { Hdlc.defaultHdlcCodecLimits with
      maximumReassembledInformationSize := reassemblyLimit options } := by
  unfold makeHdlcSessionOptions at h
  rcases hclient : Hdlc.HdlcAddress.makeClientAddress options.hdlcClientAddress with
    status | clientAddress
  · simp [hclient] at h
  rcases hserver : Hdlc.HdlcAddress.makeServerAddress options.hdlcLogicalDeviceAddress
      options.hdlcPhysicalDeviceAddress with status | serverAddress
  · simp [hclient, hserver] at h
  · simp only [hclient, hserver, Except.ok.injEq] at h
    rw [← h]

/-- A channel whose session has connected is established. -/
theorem established_of_configured (options : ApduChannelOptions) (session : HdlcSessionOptions)
    (after : HdlcSession) (huse : options.hdlcUseSession = true)
    (hmade : makeHdlcSessionOptions options = .ok session)
    (hconfigured : Configured (HdlcSession.create session) after)
    (hconnected : JustConnected after) (hnegotiated : Negotiated after) :
    Established { HdlcProfileChannel.withSession options session with session := after } := by
  have hlimits := limits_of_makeHdlcSessionOptions options session hmade
  have hroom := (reassemblyLimit_bounds options).1
  refine ⟨huse, hconnected.connected, hnegotiated.informationPositive,
    hnegotiated.informationAtMost, hnegotiated.windowPositive, hnegotiated.windowAtMost, ?_, ?_, ?_,
    ?_, ?_, ?_⟩
  · show after.options.limits.maximumFrameSize = frameSizeLimit
    -- The frame size is never negotiated.
    rcases hconfigured.limits with hsame | hfollow
    · rw [hsame]
      exact congrArg Hdlc.HdlcCodecLimits.maximumFrameSize hlimits
    · rw [hfollow]
      exact congrArg Hdlc.HdlcCodecLimits.maximumFrameSize hlimits
  · show after.options.limits.maximumInformationFieldSize = 0 ∨
      after.options.limits.maximumInformationFieldSize =
        after.negotiatedLimits.maxInformationFieldLengthTransmit
    rcases hconfigured.limits with hsame | hfollow
    · refine .inl ?_
      rw [hsame]
      exact congrArg Hdlc.HdlcCodecLimits.maximumInformationFieldSize hlimits
    · refine .inr ?_
      rw [hfollow]
  · exact congrArg Hdlc.HdlcCodecLimits.maximumFrameSize hlimits
  · exact congrArg Hdlc.HdlcCodecLimits.maximumFrameSize hlimits
  · exact congrArg Hdlc.HdlcCodecLimits.maximumInformationFieldSize hlimits
  · show effectiveMaximumReassembledInformationSize session.limits = reassemblyLimit options
    rw [effectiveMaximumReassembledInformationSize, hlimits, if_neg (by
      show ¬ reassemblyLimit options = 0
      omega)]

variable (h : connectChannels clientOptions serverOptions = some (client, server))
include h

theorem options_of_connectChannels :
    client.options = clientOptions ∧ server.options = serverOptions := by
  rcases connectChannels_eq_some clientOptions serverOptions client server h with
    ⟨-, -, clientSession, serverSession, -, -, -, hclient, hserver⟩
  rw [hclient, hserver]
  exact ⟨rfl, rfl⟩

theorem role_of_connectChannels : server.options.hdlcRole = .server := by
  rw [(options_of_connectChannels clientOptions serverOptions client server h).2]
  unfold connectChannels at h
  split_ifs at h with hoptions
  simp only [Bool.and_eq_true, beq_iff_eq] at hoptions
  exact hoptions.2

theorem joined_of_connectChannels (hclient : Negotiated client.session)
    (hserver : Negotiated server.session) : Joined client server := by
  rcases connectChannels_eq_some clientOptions serverOptions client server h with
    ⟨huseClient, huseServer, clientSession, serverSession, hmadeClient, hmadeServer, hsessions,
      hclientIs, hserverIs⟩
  rcases justConnected_of_connectSessions _ _ _ _ _ _ hsessions with ⟨hjustClient, hjustServer⟩
  rcases configured_of_connectSessions _ _ _ _ _ _ hsessions with
    ⟨hconfiguredClient, hconfiguredServer, htoServer, htoClient⟩
  refine ⟨?_, ?_, ?_, ?_⟩
  · rw [hclientIs]
    exact established_of_configured clientOptions clientSession client.session huseClient
      hmadeClient hconfiguredClient hjustClient hclient
  · rw [hserverIs]
    exact established_of_configured serverOptions serverSession server.session huseServer
      hmadeServer hconfiguredServer hjustServer hserver
  · rw [hconfiguredClient.addresses.2, hconfiguredServer.addresses.1]
    exact htoServer
  · rw [hconfiguredServer.addresses.2, hconfiguredClient.addresses.1]
    exact htoClient

theorem fresh_of_connectChannels : Fresh client ∧ Fresh server := by
  rcases connectChannels_eq_some clientOptions serverOptions client server h with
    ⟨-, -, clientSession, serverSession, -, -, hsessions, hclient, hserver⟩
  rcases justConnected_of_connectSessions _ _ _ _ _ _ hsessions with ⟨hjustClient, hjustServer⟩
  refine ⟨?_, ?_⟩
  · rw [hclient]
    exact ⟨hjustClient, rfl, rfl, rfl, rfl⟩
  · rw [hserver]
    exact ⟨hjustServer, rfl, rfl, rfl, rfl⟩

end Connected

/-! ### The course of an exchange -/

/-- Nothing has happened yet. -/
def noProgress (base : HdlcProfileChannel) : Progress where
  sent := 0
  received := 0
  acknowledged := 0
  informationLimit := base.hdlcLimits.maximumInformationFieldSize
  buffer := []
  decoded := []
  assembling := none

theorem underWay_noProgress (base : HdlcProfileChannel) (h : Fresh base) :
    underWay base (noProgress base) = base := by
  rcases base with ⟨options, limits, decoder, reassembler, session, decoded, apdus⟩
  rcases decoder with ⟨decoderLimits, policy, buffer⟩
  rcases reassembler with ⟨reassemblerLimits, pending⟩
  rcases session with ⟨sessionOptions, state, send, receive, acknowledge, connecting, disconnecting,
    refusing, negotiating, negotiated, window, user⟩
  rcases h with ⟨⟨-, hsend, hreceive, hacknowledge⟩, hbuffer, hassembling, hdecoded, hapdus⟩
  simp only at hsend hreceive hacknowledge hbuffer hassembling hdecoded hapdus
  subst hsend hreceive hacknowledge hbuffer hassembling hdecoded hapdus
  rfl

/-- The course of the exchange of some APDUs. -/
def courseOf (client server : HdlcProfileChannel) (apdus : List Bytes) : Course where
  sending := exchangeResults true apdus
  receiving := exchangeResults false apdus
  reassembles := Reassembles server.options client.options apdus
  leftover := unreadAcknowledgements client server apdus

/-- An APDU is on its way between the ends of a link, in one direction or the
    other, with so much left to do. -/
def Underway (client server : HdlcProfileChannel) (course : Course) (link : ChannelLink)
    (work : Nat) : Prop :=
  ∃ apdus flight,
    (InFlight client server course apdus flight link.client link.server ∧
        work = flightWork client apdus flight link.client link.server) ∨
      InFlight server client course.swap apdus flight link.server link.client ∧
        work = flightWork server apdus flight link.server link.client

/-- A call of either end has ended otherwise than it should. -/
def Failed (course : Course) (link : ChannelLink) : Prop :=
  ¬ (link.client.results <+: course.sending ∧ link.server.results <+: course.receiving)

section Course

variable (client server : HdlcProfileChannel) (hjoined : Joined client server) (course : Course)

/-- The end that has sent nothing is about to send the first APDU. -/
theorem underway_exchangeLink (apdus : List Bytes) (hclient : Fresh client) (hserver : Fresh server)
    (hjoined : Joined client server)
    (hpermitted : ∀ apdu ∈ apdus, Permitted client.options apdu ∧ Permitted server.options apdu) :
    ∃ work, Underway client server (courseOf client server apdus)
      (exchangeLink client server apdus) work := by
  -- No frame has been sent in either direction.
  let flight : Flight :=
    { first := 0, back := 0, sent := 0, handled := 0, answered := 0, seen := 0 }
  refine ⟨_, apdus, flight, .inl ⟨?_, rfl⟩⟩
  refine
    { within :=
        { answered := Nat.le_refl _
          handled := Nat.le_refl _
          sent := Nat.zero_le _
          unfinished := ?_
          window := Nat.zero_le _
          seen := Nat.le_refl _
          back := Nat.zero_le _
          passed := fun _ => rfl }
      permitted := hpermitted
      reassembles := Iff.rfl
      leftover := fun _ => rfl
      sender := ⟨_, [], [], (underWay_noProgress client hclient).symm, ?_, _,
        .waiting apdus rfl, rfl⟩
      receiver := ⟨server.hdlcLimits.maximumInformationFieldSize, [], [], ?_, ?_,
        .waiting apdus rfl ?_, rfl⟩ }
  · intro hsome
    rcases List.exists_cons_of_ne_nil hsome with ⟨apdu, later, rfl⟩
    exact frameCount_pos client apdu hjoined.nearEstablished
  · exact ⟨[], rfl, rfl, Hdlc.HdlcStreamDecoder.waiting_nil []⟩
  · have hnothing : receiverProgress client apdus flight
        server.hdlcLimits.maximumInformationFieldSize [] [] = noProgress server := by
      simp [receiverProgress, noProgress, flight, assembled]
    rw [hnothing]
    exact (underWay_noProgress server hserver).symm
  · exact ⟨[], rfl, rfl, Hdlc.HdlcStreamDecoder.waiting_nil []⟩
  · intro hnone
    subst hnone
    rfl

/-- The calls of a link under way have ended as they should. -/
theorem not_failed_of_underway (link : ChannelLink) (work : Nat)
    (h : Underway client server course link work) : ¬ Failed course link := by
  rw [Failed, not_not]
  rcases h with ⟨apdus, flight, ⟨hflight, -⟩ | ⟨hflight, -⟩⟩
  · rcases hflight.sender with ⟨_, _, _, hsender⟩
    rcases hflight.receiver with ⟨_, _, _, hreceiver⟩
    rcases hsender.stage with ⟨owed, -, hresults⟩
    exact ⟨⟨owed, hresults⟩, ⟨_, hreceiver.results⟩⟩
  · rcases hflight.sender with ⟨_, _, _, hsender⟩
    rcases hflight.receiver with ⟨_, _, _, hreceiver⟩
    rcases hsender.stage with ⟨owed, -, hresults⟩
    exact ⟨⟨_, hreceiver.results⟩, ⟨owed, hresults⟩⟩

include hjoined

/-- A turn of the link leaves less to do, unless a call fails for an APDU that
    cannot be put together. -/
theorem underway_turn (input : HdlcProfileRole × Nat) (link after : ChannelLink) (work : Nat)
    (h : Underway client server course link work) (hturn : linkTurn input link = some after) :
    (∃ rest, rest < work ∧ Underway client server course after rest) ∨
      ¬ course.reassembles ∧ Failed course after := by
  rcases h with ⟨apdus, flight, ⟨hflight, rfl⟩ | ⟨hflight, rfl⟩⟩
  -- The sender is the client or the server, and either end may take the turn.
  · cases hrole : input.1 with
    | client =>
        simp only [linkTurn, hrole, Option.map_eq_some_iff] at hturn
        rcases hturn with ⟨next, hnext, rfl⟩
        rcases sender_turn client server course apdus flight hjoined link.client link.server hflight
          input.2 next hnext with ⟨flight', hflight', hless⟩ | ⟨hwrong, hfailed⟩
        · exact .inl ⟨_, hless, apdus, flight', .inl ⟨hflight', rfl⟩⟩
        · exact .inr ⟨hwrong, fun hboth => hfailed hboth.1⟩
    | server =>
        simp only [linkTurn, hrole, Option.map_eq_some_iff] at hturn
        rcases hturn with ⟨next, hnext, rfl⟩
        rcases receiver_turn client server course apdus flight hjoined link.client link.server
          hflight input.2 next hnext with
          ⟨flight', hflight', hless⟩ | ⟨flight', hflight', hless⟩ | ⟨hwrong, hfailed⟩
        · exact .inl ⟨_, hless, apdus, flight', .inl ⟨hflight', rfl⟩⟩
        · exact .inl ⟨_, hless, apdus.tail, flight', .inr ⟨hflight', rfl⟩⟩
        · exact .inr ⟨hwrong, fun hboth => hfailed hboth.2⟩
  · cases hrole : input.1 with
    | server =>
        simp only [linkTurn, hrole, Option.map_eq_some_iff] at hturn
        rcases hturn with ⟨next, hnext, rfl⟩
        rcases sender_turn server client course.swap apdus flight hjoined.symm link.server
          link.client hflight input.2 next hnext with ⟨flight', hflight', hless⟩ | ⟨hwrong, hfailed⟩
        · exact .inl ⟨_, hless, apdus, flight', .inr ⟨hflight', rfl⟩⟩
        · exact .inr ⟨hwrong, fun hboth => hfailed hboth.2⟩
    | client =>
        simp only [linkTurn, hrole, Option.map_eq_some_iff] at hturn
        rcases hturn with ⟨next, hnext, rfl⟩
        rcases receiver_turn server client course.swap apdus flight hjoined.symm link.server
          link.client hflight input.2 next hnext with
          ⟨flight', hflight', hless⟩ | ⟨flight', hflight', hless⟩ | ⟨hwrong, hfailed⟩
        · exact .inl ⟨_, hless, apdus, flight', .inr ⟨hflight', rfl⟩⟩
        · exact .inl ⟨_, hless, apdus.tail, flight', .inl ⟨hflight', rfl⟩⟩
        · exact .inr ⟨hwrong, fun hboth => hfailed hboth.1⟩

/-- Where no turn can be taken there is no APDU left. -/
theorem underway_of_atRest (link : ChannelLink) (work : Nat)
    (h : Underway client server course link work) (hrest : AtRest linkTurn link) :
    ∃ flight, InFlight client server course [] flight link.client link.server ∨
      InFlight server client course.swap [] flight link.server link.client := by
  have hclient : link.client.turn 0 = none := by
    have hnone := hrest (.client, 0)
    simp only [linkTurn, Option.map_eq_none_iff] at hnone
    exact hnone
  have hserver : link.server.turn 0 = none := by
    have hnone := hrest (.server, 0)
    simp only [linkTurn, Option.map_eq_none_iff] at hnone
    exact hnone
  rcases h with ⟨apdus, flight, ⟨hflight, -⟩ | ⟨hflight, -⟩⟩
  · have hnil := eq_nil_of_atRest client server course apdus flight hjoined link.client link.server
      hflight 0 hclient hserver
    subst hnil
    exact ⟨flight, .inl hflight⟩
  · have hnil := eq_nil_of_atRest server client course.swap apdus flight hjoined.symm link.server
      link.client hflight 0 hserver hclient
    subst hnil
    exact ⟨flight, .inr hflight⟩

end Course

/-- Without an APDU left, all calls have ended as they should. -/
theorem results_of_inFlight_nil (near far : HdlcProfileChannel) (course : Course)
    (flight : Flight) (sender receiver : ChannelEnd)
    (h : InFlight near far course [] flight sender receiver) :
    sender.results = course.sending ∧ receiver.results = course.receiving ∧ course.reassembles := by
  rcases h.sender with ⟨_, _, _, hsender⟩
  rcases h.receiver with ⟨_, _, _, hreceiver⟩
  rcases hsender.stage with ⟨owed, hstage, hresults⟩
  have hreceived := hreceiver.results
  rw [exchangeResults, List.append_nil] at hreceived
  refine ⟨?_, hreceived, h.reassembles.mp trivial⟩
  generalize sender.task = task at hstage
  generalize sender.calls = calls at hstage
  cases hstage with
  | waiting apdus hsent =>
      rw [exchangeResults, List.append_nil] at hresults
      exact hresults

/-- Where no turn can be taken, all calls have ended as they should and all LPDUs
    can be put together. -/
theorem exchanged_of_atRest (client server : HdlcProfileChannel) (hjoined : Joined client server)
    (course : Course) (link : ChannelLink) (work : Nat)
    (h : Underway client server course link work) (hrest : AtRest linkTurn link) :
    link.client.results = course.sending ∧ link.server.results = course.receiving ∧
      course.reassembles := by
  rcases underway_of_atRest client server hjoined course link work h hrest with
    ⟨flight, hflight | hflight⟩
  · exact results_of_inFlight_nil client server course flight link.client link.server hflight
  · rcases results_of_inFlight_nil server client course.swap flight link.server link.client hflight
      with ⟨hserver, hclient, hreassembles⟩
    exact ⟨hclient, hserver, hreassembles⟩

/-- While all LPDUs can be put together, every turn leaves less to do. -/
theorem underway_less (client server : HdlcProfileChannel) (hjoined : Joined client server)
    (course : Course) (hreassembles : course.reassembles) (input : HdlcProfileRole × Nat)
    (link : ChannelLink) (work : Nat) (after : ChannelLink)
    (h : Underway client server course link work) (hturn : linkTurn input link = some after) :
    ∃ rest, rest < work ∧ Underway client server course after rest := by
  rcases underway_turn client server hjoined course input link after work h hturn with
    hless | ⟨hwrong, -⟩
  · exact hless
  · exact absurd hreassembles hwrong

/-- If an LPDU cannot be put together, a call fails in the end. -/
theorem exists_failed (client server : HdlcProfileChannel) (hjoined : Joined client server)
    (course : Course) (hwrong : ¬ course.reassembles) (link : ChannelLink) (work : Nat)
    (h : Underway client server course link work) :
    ∃ inputs, Failed course (final (attempt linkTurn) inputs link) := by
  refine exists_final linkTurn (Underway client server course) (Failed course) ?_ link work h
  intro state left hleft
  by_cases hrest : AtRest linkTurn state
  · exact absurd (exchanged_of_atRest client server hjoined course state left hleft hrest).2.2
      hwrong
  · rw [AtRest, not_forall] at hrest
    rcases hrest with ⟨input, hinput⟩
    rcases Option.ne_none_iff_exists'.mp hinput with ⟨after, hafter⟩
    refine ⟨input, after, hafter, ?_⟩
    rcases underway_turn client server hjoined course input state after left hleft hafter with
      hless | ⟨-, hfailed⟩
    · exact .inr hless
    · exact .inl hfailed

section Exchange

variable (clientOptions serverOptions : ApduChannelOptions) (client server : HdlcProfileChannel)
  (apdus : List Bytes)
  (hconnected : connectChannels clientOptions serverOptions = some (client, server))
  (hclient : Negotiated client.session) (hserver : Negotiated server.session)
  (hpermitted : ∀ apdu ∈ apdus, Permitted clientOptions apdu ∧ Permitted serverOptions apdu)
include hconnected hclient hserver hpermitted

/-- Two channels that have connected begin an exchange. -/
theorem underway_of_connectChannels :
    Joined client server ∧ ∃ work, Underway client server (courseOf client server apdus)
      (exchangeLink client server apdus) work := by
  have hjoined := joined_of_connectChannels clientOptions serverOptions client server hconnected
    hclient hserver
  rcases fresh_of_connectChannels clientOptions serverOptions client server hconnected with
    ⟨hfreshClient, hfreshServer⟩
  rcases options_of_connectChannels clientOptions serverOptions client server hconnected with
    ⟨rfl, rfl⟩
  exact ⟨hjoined,
    underway_exchangeLink client server apdus hfreshClient hfreshServer hjoined hpermitted⟩

theorem completes_of_reassembles (hreassembles : Reassembles serverOptions clientOptions apdus) :
    Completes linkTurn (InOrder apdus) (Exchanged apdus) (exchangeLink client server apdus) := by
  rcases underway_of_connectChannels clientOptions serverOptions client server apdus hconnected
    hclient hserver hpermitted with ⟨hjoined, work, hstart⟩
  rcases options_of_connectChannels clientOptions serverOptions client server hconnected with
    ⟨rfl, rfl⟩
  refine completes_of_left linkTurn (Underway client server (courseOf client server apdus))
    (underway_less client server hjoined _ hreassembles) _ _ ?_ ?_ _ work hstart
  · intro link left hleft
    exact not_not.mp (not_failed_of_underway client server _ link left hleft)
  · intro link left hleft hrest
    rcases exchanged_of_atRest client server hjoined _ link left hleft hrest with
      ⟨hsent, hreceived, -⟩
    exact ⟨hsent, hreceived⟩

theorem not_completes_of_not_reassembles
    (hwrong : ¬ Reassembles serverOptions clientOptions apdus) :
    ¬ Completes linkTurn (InOrder apdus) (Exchanged apdus) (exchangeLink client server apdus) := by
  rcases underway_of_connectChannels clientOptions serverOptions client server apdus hconnected
    hclient hserver hpermitted with ⟨hjoined, work, hstart⟩
  rcases options_of_connectChannels clientOptions serverOptions client server hconnected with
    ⟨rfl, rfl⟩
  rcases exists_failed client server hjoined (courseOf client server apdus) hwrong _ work hstart
    with ⟨inputs, hfailed⟩
  exact fun hcompletes => hfailed (hcompletes.safe inputs)

end Exchange

/-- An exchange completes in every order of turns and with every size of reads,
    with each APDU received as it was sent, if and only if the receivers have room
    for the LPDUs. -/
theorem exchange_completes_iff (clientOptions serverOptions : ApduChannelOptions)
    (client server : HdlcProfileChannel) (apdus : List Bytes)
    (hconnected : connectChannels clientOptions serverOptions = some (client, server))
    (hclient : Negotiated client.session) (hserver : Negotiated server.session)
    (hpermitted : ∀ apdu ∈ apdus, Permitted clientOptions apdu ∧ Permitted serverOptions apdu) :
    Completes linkTurn (InOrder apdus) (Exchanged apdus) (exchangeLink client server apdus) ↔
      Reassembles serverOptions clientOptions apdus := by
  constructor
  · intro hcompletes
    by_contra hwrong
    exact not_completes_of_not_reassembles clientOptions serverOptions client server apdus
      hconnected hclient hserver hpermitted hwrong hcompletes
  · exact completes_of_reassembles clientOptions serverOptions client server apdus hconnected
      hclient hserver hpermitted

/-! ### A client and a meter -/

instance (session : HdlcSession) : Decidable (Negotiated session) :=
  decidable_of_iff
    ((1 ≤ session.negotiatedLimits.maxInformationFieldLengthTransmit ∧
        session.negotiatedLimits.maxInformationFieldLengthTransmit ≤ 2030) ∧
      1 ≤ session.windowSizeTransmit.toNat ∧ session.windowSizeTransmit.toNat ≤ 7)
    ⟨fun h => ⟨h.1.1, h.1.2, h.2.1, h.2.2⟩,
      fun h => ⟨⟨h.informationPositive, h.informationAtMost⟩, h.windowPositive, h.windowAtMost⟩⟩

theorem exists_of_connects (clientOptions serverOptions : ApduChannelOptions)
    (h : (connectChannels clientOptions serverOptions).any (fun ends =>
      decide (Negotiated ends.1.session ∧ Negotiated ends.2.session)) = true) :
    ∃ client server, connectChannels clientOptions serverOptions = some (client, server) ∧
      Negotiated client.session ∧ Negotiated server.session := by
  rcases hends : connectChannels clientOptions serverOptions with _ | ⟨client, server⟩
  · rw [hends] at h
    exact absurd h Bool.false_ne_true
  · rw [hends] at h
    exact ⟨client, server, rfl, of_decide_eq_true h⟩

/-- A client and a meter that exchange three APDUs. -/
theorem exchange_completes_iff_meter : ∃ client server,
    connectChannels (readerOptions 65535) (meterOptions 65535) = some (client, server) ∧
      Completes linkTurn (InOrder [[1, 2, 3], [], [4, 5, 6, 7, 8, 9]])
        (Exchanged [[1, 2, 3], [], [4, 5, 6, 7, 8, 9]])
        (exchangeLink client server [[1, 2, 3], [], [4, 5, 6, 7, 8, 9]]) := by
  rcases exists_of_connects (readerOptions 65535) (meterOptions 65535) (by decide +kernel) with
    ⟨client, server, hconnected, hclient, hserver⟩
  refine ⟨client, server, hconnected, ?_⟩
  refine (exchange_completes_iff (readerOptions 65535) (meterOptions 65535) client server _
    hconnected hclient hserver ?_).mpr ?_
  · intro apdu hapdu
    simp only [List.mem_cons, List.not_mem_nil, or_false] at hapdu
    rcases hapdu with rfl | rfl | rfl
    · exact ⟨.inr (by decide), .inr (by decide)⟩
    · exact ⟨.inr (by decide), .inr (by decide)⟩
    · exact ⟨.inr (by decide), .inr (by decide)⟩
  · exact ⟨by decide, by decide, by decide, trivial⟩

/-- Where APDUs may be as large as any number of 64 bits says, the room for them
    is that of the default, and an APDU of 65533 octets is refused. -/
theorem not_exchange_completes :
    ¬ ∀ (clientOptions serverOptions : ApduChannelOptions) (client server : HdlcProfileChannel)
      (apdus : List Bytes),
      connectChannels clientOptions serverOptions = some (client, server) →
      Negotiated client.session → Negotiated server.session →
      (∀ apdu ∈ apdus, apdu.length ≤ clientOptions.maximumApduSize ∧
        apdu.length ≤ serverOptions.maximumApduSize) →
      Completes linkTurn (InOrder apdus) (Exchanged apdus) (exchangeLink client server apdus) := by
  intro hclaim
  rcases exists_of_connects (readerOptions (2 ^ 64 - 1)) (meterOptions (2 ^ 64 - 1))
    (by decide +kernel) with ⟨client, server, hconnected, hclient, hserver⟩
  have hsize : ∀ apdu ∈ [List.replicate 65533 (0 : UInt8)], apdu.length ≤ 2 ^ 64 - 1 := by
    intro apdu hapdu
    rw [List.mem_singleton] at hapdu
    rw [hapdu, List.length_replicate]
    decide
  refine not_completes_of_not_reassembles _ _ client server [List.replicate 65533 0] hconnected
    hclient hserver (fun apdu hapdu => ⟨.inr (hsize apdu hapdu), .inr (hsize apdu hapdu)⟩) ?_
    (hclaim _ _ client server _ hconnected hclient hserver
      (fun apdu hapdu => ⟨hsize apdu hapdu, hsize apdu hapdu⟩))
  rw [Reassembles, List.length_replicate]
  rintro ⟨hroom, -⟩
  exact absurd hroom (by decide)

end Profile

end Dlms
