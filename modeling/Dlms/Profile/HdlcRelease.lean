import Dlms.Hdlc.Calls
import Dlms.Profile.HdlcExchange

/-!
# Releasing a link

After an exchange the client asks for the end of the link with a DISC and the
server answers with a UA. Each waits for one frame, and takes the next one it
has not looked at.

The sender of the last APDU has looked at acknowledgements only while its window
was full. Those that are left are in front of the DISC or of the UA: a server
takes one for the request and has nothing to answer, a client takes one for the
answer and refuses it.

## Main definitions

* `releaseLink`: The calls that release a link.
* `Releasing`: How far the release has come.

## Theorems

* `open_of_exchanged`: What an exchange leaves unread.
* `releasing_turn`: What a turn of the link leaves.
* `release_completes_iff`: The release completes just when nothing is left.
-/

namespace Dlms

namespace Profile

open Apdu (Bytes)
open Hdlc (HdlcControl HdlcFrame HdlcSession HdlcSessionState discControl frameBytes uaControl)
open Machine (AtRest Completes attempt completes_of_left exists_final final)

/-- The calls that end the link come after an exchange. -/
def releaseLink (link : ChannelLink) : ChannelLink where
  client := { link.client with calls := [.disconnectDataLink], results := [] }
  server := { link.server with calls := [.acceptDisconnectDataLink], results := [] }

/-- A call of the release that has ended has succeeded. -/
def ReleasedInOrder (link : ChannelLink) : Prop :=
  link.client.results <+: [.finished (.ok ())] ∧ link.server.results <+: [.finished (.ok ())]

/-- Both calls have succeeded and both sessions are disconnected. -/
def Released (link : ChannelLink) : Prop :=
  link.client.results = [.finished (.ok ())] ∧ link.server.results = [.finished (.ok ())] ∧
    link.client.channel.session.state = .disconnected ∧
    link.server.channel.session.state = .disconnected

/-! ### After an exchange -/

/-- An end that has been in an exchange, with the frames it has not looked at. -/
def Open (base : HdlcProfileChannel) (frames : List HdlcFrame) (near : ChannelEnd) : Prop :=
  ∃ progress, near.channel = underWay base progress ∧
    Unread progress.buffer progress.decoded near.inbox frames

section Exchanged

variable (client server : HdlcProfileChannel) (course : Course) (link : ChannelLink)

/-- Calls add to the results. -/
theorem failed_of_failed (after : ChannelLink)
    (hclient : link.client.results <+: after.client.results)
    (hserver : link.server.results <+: after.server.results) (h : Failed course link) :
    Failed course after :=
  fun hafter => h ⟨hclient.trans hafter.1, hserver.trans hafter.2⟩

theorem results_prefix_turn (near : ChannelEnd) (size : Nat) (next : ChannelEnd × Bytes)
    (hturn : near.turn size = some next) : near.results <+: next.1.results := by
  by_cases hidle : near.task = .idle
  · cases hcalls : near.calls with
    | nil =>
        rw [turn_of_finished near size hidle hcalls] at hturn
        cases hturn
    | cons call calls =>
        rw [turn_of_idle near size call calls hidle hcalls, Option.some.injEq] at hturn
        rw [← hturn]
        exact List.prefix_append _ _
  · rw [turn_of_task near size hidle] at hturn
    split_ifs at hturn
    · rw [← Option.some.inj hturn]
      exact List.prefix_append _ _
    · rw [← Option.some.inj hturn]
      exact List.prefix_append _ _

theorem results_prefix_linkTurn (input : HdlcProfileRole × Nat) (after : ChannelLink)
    (hturn : linkTurn input link = some after) :
    link.client.results <+: after.client.results ∧
      link.server.results <+: after.server.results := by
  cases hrole : input.1 with
  | client =>
      simp only [linkTurn, hrole, Option.map_eq_some_iff] at hturn
      rcases hturn with ⟨next, hnext, rfl⟩
      exact ⟨results_prefix_turn link.client input.2 next hnext, List.prefix_refl _⟩
  | server =>
      simp only [linkTurn, hrole, Option.map_eq_some_iff] at hturn
      rcases hturn with ⟨next, hnext, rfl⟩
      exact ⟨List.prefix_refl _, results_prefix_turn link.server input.2 next hnext⟩

/-- In every order of turns a link stays under way or a call has failed. -/
theorem underway_or_failed (hjoined : Joined client server)
    (inputs : List (HdlcProfileRole × Nat)) (work : Nat)
    (h : Underway client server course link work) :
    (∃ rest, Underway client server course (final (attempt linkTurn) inputs link) rest) ∨
      Failed course (final (attempt linkTurn) inputs link) := by
  refine (Machine.invariant_run (attempt linkTurn)
    (fun link => (∃ rest, Underway client server course link rest) ∨ Failed course link) ?_
    inputs link (.inl ⟨work, h⟩)).2
  intro state input hstate
  cases hturn : linkTurn input state with
  | none =>
      rw [attempt, hturn]
      exact hstate
  | some after =>
      rw [attempt, hturn]
      rcases hstate with ⟨rest, hrest⟩ | hfailed
      · rcases underway_turn client server hjoined course input state after rest hrest hturn with
          ⟨less, -, hless⟩ | ⟨-, hfailed⟩
        · exact .inl ⟨less, hless⟩
        · exact .inr hfailed
      · rcases results_prefix_linkTurn state input after hturn with ⟨hclient, hserver⟩
        exact .inr (failed_of_failed course state after hclient hserver hfailed)

/-- When all results are there, no APDU is left. -/
theorem eq_nil_of_results (near far : HdlcProfileChannel) (apdus : List Bytes) (flight : Flight)
    (sender receiver : ChannelEnd) (h : InFlight near far course apdus flight sender receiver)
    (hresults : receiver.results = course.receiving) : apdus = [] := by
  rcases h.receiver with ⟨_, _, _, hreceiver⟩
  have hall := hreceiver.results
  rw [hresults, List.append_right_eq_self] at hall
  cases apdus with
  | nil => rfl
  | cons apdu later => exact absurd hall (List.cons_ne_nil _ _)

/-- Acknowledgements that a channel has written. -/
def ReceiveReady (base : HdlcProfileChannel) (frames : List HdlcFrame) : Prop :=
  ∀ frame ∈ frames, ∃ number, frame = receiveReadyFrame base number

/-- Without an APDU left, what an end has not looked at are the acknowledgements
    of the last one. -/
theorem open_of_inFlight_nil (near far : HdlcProfileChannel) (flight : Flight)
    (sender receiver : ChannelEnd) (h : InFlight near far course [] flight sender receiver) :
    ∃ frames, frames.length = course.leftover ∧ ReceiveReady near frames ∧
      (Open near [] sender ∧ sender.task = .idle) ∧
      Open far frames receiver ∧ receiver.task = .idle := by
  have hwithin := h.within
  have hsent : flight.sent = 0 := Nat.le_zero.mp hwithin.sent
  have hhandled := hwithin.handled
  rcases h.sender with ⟨limit, buffer, decoded, hsender⟩
  rcases h.receiver with ⟨limit', buffer', decoded', hreceiver⟩
  rcases hsender.stage with ⟨owed, hstage, -⟩
  have hreceiving := hreceiver.stage
  -- The sender had nothing to look at, the receiver only what is left over.
  have hframes : senderFrames far flight = [] := between_of_le _ _ _ (by omega)
  refine ⟨between (receiveReadyFrame near) (flight.seen + 1) flight.back, ?_, ?_,
    ⟨⟨_, hsender.channel, ?_⟩, ?_⟩, ⟨_, hreceiver.channel, ?_⟩, ?_⟩
  · rw [between, List.length_map, List.length_range']
    generalize receiver.task = task at hreceiving
    generalize receiver.calls = calls at hreceiving
    cases hreceiving with
    | waiting apdus hzero hleft => exact hleft rfl
  · intro frame hframe
    rcases List.mem_map.mp hframe with ⟨number, -, rfl⟩
    exact ⟨number, rfl⟩
  · have hunread := hsender.unread
    rw [hframes] at hunread
    exact hunread
  · generalize sender.task = task at hstage
    generalize sender.calls = calls at hstage
    cases hstage with
    | waiting => rfl
  · have hunread := hreceiver.unread
    rw [receiverFrames, between_of_le _ flight.handled _ (by omega), List.append_nil] at hunread
    exact hunread
  · generalize receiver.task = task at hreceiving
    generalize receiver.calls = calls at hreceiving
    cases hreceiving with
    | waiting => rfl

end Exchanged

/-! ### The frames of a release -/

def discField : HdlcControl where
  rawValue := discControl
  accepted := by decide

def uaField : HdlcControl where
  rawValue := uaControl
  accepted := by decide

theorem kind_discField :
    discField.frameKind = .unnumbered ∧ discField.unnumberedKind = .ok .disc := by
  have hkind : discField.frameKind = .unnumbered := by decide
  refine ⟨hkind, ?_⟩
  rw [HdlcControl.unnumberedKind, hkind]
  rfl

theorem kind_uaField : uaField.frameKind = .unnumbered ∧ uaField.unnumberedKind = .ok .ua := by
  have hkind : uaField.frameKind = .unnumbered := by decide
  refine ⟨hkind, ?_⟩
  rw [HdlcControl.unnumberedKind, hkind]
  rfl

/-- A frame without information. -/
def unnumberedFrame (base : HdlcProfileChannel) (control : HdlcControl) : HdlcFrame where
  segmented := false
  destination := base.session.remoteAddress
  source := base.session.localAddress
  control := control
  information := []

/-- A channel that has asked for the end of the link. -/
def closing (base : HdlcProfileChannel) : HdlcProfileChannel :=
  { base with session := { base.session with state := .awaitingDisconnect } }

section Frames

variable (near far : HdlcProfileChannel) (hjoined : Joined near far) (progress : Progress)

theorem match_outgoing (session : HdlcSession) (frame : HdlcFrame)
    (hlocal : session.localAddress = near.session.localAddress)
    (hremote : session.remoteAddress = near.session.remoteAddress) (hpeers : Peers near far)
    (hdestination : frame.destination = far.session.remoteAddress)
    (hsource : frame.source = far.session.localAddress) :
    session.incomingAddressesMatch frame = true := by
  rw [HdlcSession.incomingAddressesMatch, Bool.and_eq_true, beq_iff_eq, beq_iff_eq, hlocal, hremote,
    hdestination, hsource]
  exact ⟨hpeers.toNear, hpeers.toFar.symm⟩

include hjoined

/-- The client begins with a DISC. -/
theorem startCall_disconnect :
    startCall (underWay near progress) .disconnectDataLink =
      { channel := underWay (closing near) progress
        task := .awaitAnswer (frameBytes (unnumberedFrame near discField)) 0
        written := frameBytes (unnumberedFrame near discField) } := by
  have hfits : Hdlc.Fits ((underWay near progress).session.outgoing discField [])
      near.session.options.limits :=
    fits_of_length _ _ hjoined.nearEstablished.sessionFrame (.inr (Nat.zero_le _)) (Nat.zero_le _)
  have hbuilt := HdlcSession.buildFrame_of_fits (underWay near progress).session discField [] hfits
  have hsession : (underWay near progress).options.hdlcUseSession = true :=
    hjoined.nearEstablished.useSession
  have hstate : (underWay near progress).session.state = .connected :=
    hjoined.nearEstablished.connected
  have hrequest : (underWay near progress).session.buildDisconnectRequest [] =
      (.ok (frameBytes (unnumberedFrame near discField)),
        (underWay (closing near) progress).session) := by
    unfold HdlcSession.buildDisconnectRequest
    rw [if_neg (not_not.mpr hstate)]
    rw [show discField.rawValue = discControl from rfl] at hbuilt
    rw [hbuilt]
    rfl
  unfold startCall
  simp only [hsession, Bool.not_true, Bool.false_eq_true, if_false, hrequest]
  rfl

/-- The server answers a DISC with a UA. -/
theorem answer_disconnect :
    ∃ channel, channel.session.state = HdlcSessionState.disconnected ∧
      continueWith (underWay near progress) .acceptDisconnectDataLink
        (.ok (some (unnumberedFrame far discField))) =
          .finish channel (.ok ()) (frameBytes (unnumberedFrame near uaField)) := by
  have hmatch := match_outgoing near far (underWay near progress).session
    (unnumberedFrame far discField) rfl rfl hjoined.peers rfl rfl
  have hstate : (underWay near progress).session.state = .connected :=
    hjoined.nearEstablished.connected
  -- The DISC is for this session, which is connected and answers it.
  have hreceived : (underWay near progress).session.receiveFrame (unnumberedFrame far discField) =
      (.ok (), { (underWay near progress).session with
        receivedUserInformation := []
        disconnectResponsePending := true }) := by
    rw [HdlcSession.receiveFrame_unnumbered _ _ hmatch kind_discField.1]
    unfold HdlcSession.receiveUnnumberedFrame
    rw [show (unnumberedFrame far discField).control.unnumberedKind = .ok .disc from
      kind_discField.2]
    simp only
    rw [if_neg (not_not.mpr hstate)]
    rfl
  have hfits : Hdlc.Fits ((underWay near progress).session.outgoing uaField [])
      near.session.options.limits :=
    fits_of_length _ _ hjoined.nearEstablished.sessionFrame (.inr (Nat.zero_le _)) (Nat.zero_le _)
  have hbuilt := HdlcSession.buildFrame_of_fits
    { (underWay near progress).session with
      receivedUserInformation := []
      disconnectResponsePending := true } uaField [] hfits
  have hkind : (unnumberedFrame far discField).control.frameKind ≠ .information := by
    rw [show (unnumberedFrame far discField).control.frameKind = .unnumbered from kind_discField.1]
    decide
  unfold continueWith HdlcProfileChannel.handleSessionControlFrame
  simp only [if_neg hkind, hreceived, HdlcSession.buildDisconnectResponse, Bool.not_true,
    Bool.false_eq_true, if_false]
  rw [show uaField.rawValue = uaControl from rfl] at hbuilt
  rw [hbuilt]
  exact ⟨_, rfl, rfl⟩

/-- The UA ends the call of the client. -/
theorem confirm_disconnect (bytes : Bytes) (attempt : Nat) :
    ∃ channel, channel.session.state = HdlcSessionState.disconnected ∧
      continueWith (underWay (closing near) progress) (.awaitAnswer bytes attempt)
        (.ok (some (unnumberedFrame far uaField))) = .finish channel (.ok ()) [] := by
  have hmatch := match_outgoing near far (underWay (closing near) progress).session
    (unnumberedFrame far uaField) rfl rfl hjoined.peers rfl rfl
  have hreceived : (underWay (closing near) progress).session.receiveFrame
      (unnumberedFrame far uaField) =
        (.ok (), { (underWay (closing near) progress).session.resetSequences with
          state := .disconnected }) := by
    rw [HdlcSession.receiveFrame_unnumbered _ _ hmatch kind_uaField.1]
    unfold HdlcSession.receiveUnnumberedFrame
    rw [show (unnumberedFrame far uaField).control.unnumberedKind = .ok .ua from kind_uaField.2]
    rfl
  have hkind : (unnumberedFrame far uaField).control.frameKind ≠ .information := by
    rw [show (unnumberedFrame far uaField).control.frameKind = .unnumbered from kind_uaField.1]
    decide
  unfold continueWith HdlcProfileChannel.handleSessionControlFrame
  simp only [if_neg hkind, hreceived]
  exact ⟨_, rfl, rfl⟩

/-- An acknowledgement is no answer for a client that has asked. -/
theorem confirm_receiveReady (bytes : Bytes) (attempt number : Nat) :
    ∃ channel status, continueWith (underWay (closing near) progress) (.awaitAnswer bytes attempt)
      (.ok (some (receiveReadyFrame far number))) = .finish channel (.error status) [] := by
  have hmatch := match_outgoing near far (underWay (closing near) progress).session
    (receiveReadyFrame far number) rfl rfl hjoined.peers rfl rfl
  have hkind := frameKind_receiveReadyFrame far number
  have hreceived : (underWay (closing near) progress).session.receiveFrame
      (receiveReadyFrame far number) =
        (.error .unsupportedFrame, (underWay (closing near) progress).session) := by
    unfold HdlcSession.receiveFrame HdlcSession.receiveSupervisoryFrame
    rw [hmatch, if_neg (by decide), hkind]
    rfl
  unfold continueWith HdlcProfileChannel.handleSessionControlFrame
  simp only [hkind, reduceCtorEq, if_false, hreceived]
  exact ⟨_, _, rfl⟩

omit hjoined in
/-- A server that owes no answer cannot answer an acknowledgement. -/
theorem answer_receiveReady (number : Nat)
    (hpending : near.session.disconnectResponsePending = false) :
    ∃ channel status, continueWith (underWay near progress) .acceptDisconnectDataLink
      (.ok (some (receiveReadyFrame far number))) = .finish channel (.error status) [] := by
  have hkind := frameKind_receiveReadyFrame far number
  unfold continueWith HdlcProfileChannel.handleSessionControlFrame
  simp only [hkind, reduceCtorEq, if_false]
  -- Whether the session takes its number or not, there is no DISC to answer.
  have hsame := (underWay near progress).session.resetSequences_receiveFrame
    (receiveReadyFrame far number) (by rw [hkind]; exact fun h => by cases h.2)
  cases hreceived :
    (underWay near progress).session.receiveFrame (receiveReadyFrame far number) with
  | mk outcome session =>
      rw [hreceived] at hsame
      have howes : session.disconnectResponsePending = false :=
        (congrArg HdlcSession.disconnectResponsePending hsame).trans hpending
      cases outcome with
      | error status => exact ⟨_, _, rfl⟩
      | ok _ =>
          simp only [HdlcSession.buildDisconnectResponse, howes]
          exact ⟨_, _, rfl⟩

end Frames

/-! ### How far the release has come -/

/-- A client that is about to ask. -/
structure Asking (client : HdlcProfileChannel) (near : ChannelEnd) : Prop where
  looked : Open client [] near
  task : near.task = .idle
  calls : near.calls = [.disconnectDataLink]
  results : near.results = []

/-- A client that has asked, with the frames it has not looked at. -/
structure Asked (client : HdlcProfileChannel) (frames : List HdlcFrame) (near : ChannelEnd) :
    Prop where
  unread : Open (closing client) frames near
  task : ∃ bytes attempt, near.task = .awaitAnswer bytes attempt
  calls : near.calls = []
  results : near.results = []

/-- A server that is to answer, with the frames it has not looked at. -/
structure Answering (server : HdlcProfileChannel) (frames : List HdlcFrame) (near : ChannelEnd) :
    Prop where
  unread : Open server frames near
  stage : near.task = .idle ∧ near.calls = [.acceptDisconnectDataLink] ∨
    near.task = .acceptDisconnectDataLink ∧ near.calls = []
  results : near.results = []

/-- An end whose call has succeeded. -/
structure Ended (near : ChannelEnd) : Prop where
  state : near.channel.session.state = .disconnected
  task : near.task = .idle
  calls : near.calls = []
  results : near.results = [.finished (.ok ())]

/-- Octets and calls at the two ends. -/
def linkSize (link : ChannelLink) : Nat :=
  link.client.inbox.length + link.server.inbox.length + link.client.calls.length +
    link.server.calls.length

/-- The stages of a release, with what is left to do. -/
inductive Releasing (client server : HdlcProfileChannel) (link : ChannelLink) : Nat → Prop where
  | ready (hclient : Asking client link.client) (hserver : Answering server [] link.server) :
      Releasing client server link (linkSize link + 2 * (frameSizeLimit + 2))
  | asked (hclient : Asked client [] link.client)
      (hserver : Answering server [unnumberedFrame client discField] link.server) :
      Releasing client server link (linkSize link + (frameSizeLimit + 2))
  | answered (hclient : Asked client [unnumberedFrame server uaField] link.client)
      (hserver : Ended link.server) : Releasing client server link (linkSize link + 1)
  | ended (hclient : Ended link.client) (hserver : Ended link.server) :
      Releasing client server link (linkSize link)

/-- The frame a peer writes comes behind those not looked at. -/
theorem open_receive (base : HdlcProfileChannel) (frames : List HdlcFrame) (near : ChannelEnd)
    (h : Open base frames near) (written : HdlcFrame) :
    Open base (frames ++ [written]) (near.receive (frameBytes written)) := by
  rcases h with ⟨progress, hchannel, hunread⟩
  exact ⟨progress, hchannel, unread_write _ _ _ _ hunread written⟩

section Releasing

variable (client server : HdlcProfileChannel) (hjoined : Joined client server)
  (link after : ChannelLink) (size : Nat)
include hjoined

omit hjoined in
/-- A turn of a client that has asked: it looks at a frame, or waits on. -/
theorem asked_look (frames : List HdlcFrame) (near : ChannelEnd) (next : ChannelEnd × Bytes)
    (h : Asked client frames near)
    (hfits : ∀ frame ∈ frames, Hdlc.Fits frame (closing client).decoder.limits)
    (hturn : near.turn size = some next) :
    (∃ frame ∈ frames, ∃ progress inbox bytes attempt, inbox.length ≤ near.inbox.length ∧
      next = ChannelEnd.apply { near with inbox := inbox }
        (continueWith (underWay (closing client) progress) (.awaitAnswer bytes attempt)
          (.ok (some frame)))) ∨
      next.2 = [] ∧ Asked client frames next.1 ∧ next.1.inbox.length < near.inbox.length := by
  rcases h.unread with ⟨progress, hchannel, hunread⟩
  rcases h.task with ⟨bytes, attempt, htask⟩
  have hawaits : awaitsFrame near.channel near.task = true := by
    rw [htask]
    rfl
  rcases turn_awaiting (closing client) near progress frames hchannel hawaits hunread hfits size
    next hturn with
    ⟨buffer, decoded, inbox, ⟨frame, later, hcons, hread, -, hnext⟩ | ⟨hread, hrest, hnext⟩⟩
  · rw [htask] at hnext
    exact .inl ⟨frame, by rw [hcons]; exact List.mem_cons_self, _, inbox, bytes, attempt, hread,
      hnext⟩
  · rw [continueWith] at hnext
    subst hnext
    refine .inr ⟨rfl, ⟨⟨_, rfl, hrest⟩, ⟨bytes, attempt, htask⟩, h.calls, ?_⟩, hread⟩
    exact congrArg (· ++ _) h.results

/-- A turn of a server that is to answer: it looks at a frame, or it begins or
    waits on. -/
theorem answering_look (hrole : server.options.hdlcRole = .server) (frames : List HdlcFrame)
    (near : ChannelEnd) (next : ChannelEnd × Bytes) (h : Answering server frames near)
    (hfits : ∀ frame ∈ frames, Hdlc.Fits frame server.decoder.limits)
    (hturn : near.turn size = some next) :
    (∃ frame ∈ frames, ∃ progress inbox, inbox.length ≤ near.inbox.length ∧ near.calls = [] ∧
      next = ChannelEnd.apply { near with inbox := inbox }
        (continueWith (underWay server progress) .acceptDisconnectDataLink (.ok (some frame)))) ∨
      next.2 = [] ∧ Answering server frames next.1 ∧
        next.1.inbox.length + next.1.calls.length < near.inbox.length + near.calls.length := by
  rcases h.unread with ⟨progress, hchannel, hunread⟩
  -- The call of the server begins, or waits for the DISC.
  rcases h.stage with ⟨htask, hcalls⟩ | ⟨htask, hcalls⟩
  · have hsession : (underWay server progress).options.hdlcUseSession = true :=
      hjoined.farEstablished.useSession
    have hserver : (underWay server progress).options.hdlcRole = .server := hrole
    rw [turn_of_idle near size _ _ htask hcalls, Option.some.injEq, hchannel, startCall, hsession,
      hserver, if_neg (by decide)] at hturn
    subst hturn
    refine .inr ⟨rfl, ⟨⟨progress, rfl, hunread⟩, .inr ⟨rfl, rfl⟩, ?_⟩, ?_⟩
    · exact congrArg (· ++ _) h.results
    · rw [hcalls]
      exact Nat.lt_succ_self _
  · have hawaits : awaitsFrame near.channel near.task = true := by
      rw [htask]
      rfl
    rcases turn_awaiting server near progress frames hchannel hawaits hunread hfits size next hturn
      with ⟨buffer, decoded, inbox, ⟨frame, later, hcons, hread, -, hnext⟩ | ⟨hread, hrest, hnext⟩⟩
    · rw [htask] at hnext
      exact .inl ⟨frame, by rw [hcons]; exact List.mem_cons_self, _, inbox, hread, hcalls, hnext⟩
    · rw [htask, continueWith] at hnext
      subst hnext
      refine .inr ⟨rfl, ⟨⟨_, rfl, hrest⟩, .inr ⟨rfl, hcalls⟩, ?_⟩, ?_⟩
      · exact congrArg (· ++ _) h.results
      · exact Nat.add_lt_add_right hread _

/-- A client that has asked waits on, or the UA ends its call: the server answers
    nothing else. -/
theorem asked_turn (frames : List HdlcFrame) (near : ChannelEnd) (next : ChannelEnd × Bytes)
    (h : Asked client frames near)
    (hframes : ∀ frame ∈ frames, frame = unnumberedFrame server uaField)
    (hturn : near.turn size = some next) :
    next.2 = [] ∧ next.1.inbox.length ≤ near.inbox.length ∧ next.1.calls = [] ∧
      (Asked client frames next.1 ∧ next.1.inbox.length < near.inbox.length ∨
        frames ≠ [] ∧ Ended next.1) := by
  rcases asked_look client size frames near next h (fun frame hframe => by
    rw [hframes frame hframe]
    exact fits_decoder client hjoined.nearEstablished _ (Nat.zero_le _)) hturn with
    ⟨frame, hmem, progress, inbox, bytes, attempt, hread, hnext⟩ | ⟨hwritten, hwaits, hless⟩
  · rcases confirm_disconnect client server hjoined progress bytes attempt with
      ⟨channel, hstate, hconfirmed⟩
    rw [hframes frame hmem, hconfirmed] at hnext
    subst hnext
    refine ⟨rfl, hread, h.calls, .inr ⟨List.ne_nil_of_mem hmem, hstate, rfl, h.calls, ?_⟩⟩
    exact congrArg (· ++ _) h.results
  · exact ⟨hwritten, Nat.le_of_lt hless, hwaits.calls, .inl ⟨hwaits, hless⟩⟩

/-- A server that is to answer begins, waits on, or answers the DISC. -/
theorem answering_turn (hrole : server.options.hdlcRole = .server) (frames : List HdlcFrame)
    (near : ChannelEnd) (next : ChannelEnd × Bytes) (h : Answering server frames near)
    (hframes : ∀ frame ∈ frames, frame = unnumberedFrame client discField)
    (hturn : near.turn size = some next) :
    (next.2 = [] ∧ Answering server frames next.1 ∧
        next.1.inbox.length + next.1.calls.length < near.inbox.length + near.calls.length) ∨
      frames ≠ [] ∧ Ended next.1 ∧ next.1.inbox.length ≤ near.inbox.length ∧
        next.2 = frameBytes (unnumberedFrame server uaField) := by
  rcases answering_look client server hjoined size hrole frames near next h (fun frame hframe => by
    rw [hframes frame hframe]
    exact fits_decoder server hjoined.farEstablished _ (Nat.zero_le _)) hturn with
    ⟨frame, hmem, progress, inbox, hread, hcalls, hnext⟩ | hwaits
  · rcases answer_disconnect server client hjoined.symm progress with ⟨channel, hstate, hanswered⟩
    rw [hframes frame hmem, hanswered] at hnext
    subst hnext
    refine .inr ⟨List.ne_nil_of_mem hmem, ⟨hstate, rfl, hcalls, ?_⟩, hread, rfl⟩
    exact congrArg (· ++ _) h.results
  · exact .inl hwaits

/-- A turn of the client. -/
theorem releasing_client (work : Nat) (next : ChannelEnd × Bytes)
    (h : Releasing client server link work) (hturn : link.client.turn size = some next) :
    ∃ rest, rest < work ∧ Releasing client server
      { client := next.1, server := link.server.receive next.2 } rest := by
  -- A client that is ready asks, and one that has asked takes the UA.
  cases h with
  | ready hclient hserver =>
      rcases hclient.looked with ⟨progress, hchannel, hunread⟩
      rw [turn_of_idle link.client size _ _ hclient.task hclient.calls, Option.some.injEq, hchannel,
        startCall_disconnect client server hjoined progress] at hturn
      subst hturn
      have hframe := length_frameBytes_le client hjoined.nearEstablished
        (unnumberedFrame client discField) (Nat.zero_le _)
      refine ⟨_, ?_, .asked ⟨⟨progress, rfl, hunread⟩, ⟨_, _, rfl⟩, rfl, ?_⟩
        ⟨open_receive server [] link.server hserver.unread _, hserver.stage, hserver.results⟩⟩
      · simp only [linkSize, ChannelEnd.apply, ChannelEnd.receive, List.length_append,
          hclient.calls, List.length_cons, List.length_nil] at hframe ⊢
        omega
      · exact congrArg (· ++ _) hclient.results
  | asked hclient hserver =>
      rcases asked_turn client server hjoined size [] link.client next hclient
        (fun frame hframe => absurd hframe List.not_mem_nil) hturn with
        ⟨hwritten, hread, hcalls, ⟨hwaits, hless⟩ | ⟨hsome, -⟩⟩
      · rw [hwritten, receive_nil]
        refine ⟨_, ?_, .asked hwaits hserver⟩
        simp only [linkSize, hcalls, hclient.calls]
        omega
      · exact absurd rfl hsome
  | answered hclient hserver =>
      rcases asked_turn client server hjoined size [unnumberedFrame server uaField] link.client next
        hclient (fun frame hframe => List.mem_singleton.mp hframe) hturn with
        ⟨hwritten, hread, hcalls, ⟨hwaits, hless⟩ | ⟨-, hended⟩⟩
      · rw [hwritten, receive_nil]
        refine ⟨_, ?_, .answered hwaits hserver⟩
        simp only [linkSize, hcalls, hclient.calls]
        omega
      · rw [hwritten, receive_nil]
        refine ⟨_, ?_, .ended hended hserver⟩
        simp only [linkSize, hcalls, hclient.calls]
        omega
  | ended hclient hserver =>
      rw [turn_of_finished link.client size hclient.task hclient.calls] at hturn
      cases hturn

/-- A turn of the server. -/
theorem releasing_server (hrole : server.options.hdlcRole = .server) (work : Nat)
    (next : ChannelEnd × Bytes) (h : Releasing client server link work)
    (hturn : link.server.turn size = some next) :
    ∃ rest, rest < work ∧ Releasing client server
      { client := link.client.receive next.2, server := next.1 } rest := by
  -- A server can only answer what was asked.
  cases h with
  | ready hclient hserver =>
      rcases answering_turn client server hjoined size hrole [] link.server next hserver
        (fun frame hframe => absurd hframe List.not_mem_nil) hturn with
        ⟨hwritten, hanswering, hless⟩ | ⟨hsome, -⟩
      · rw [hwritten, receive_nil]
        refine ⟨_, ?_, .ready hclient hanswering⟩
        simp only [linkSize]
        omega
      · exact absurd rfl hsome
  | asked hclient hserver =>
      rcases answering_turn client server hjoined size hrole [unnumberedFrame client discField]
        link.server next hserver (fun frame hframe => List.mem_singleton.mp hframe) hturn with
        ⟨hwritten, hanswering, hless⟩ | ⟨-, hended, hread, hwritten⟩
      · rw [hwritten, receive_nil]
        refine ⟨_, ?_, .asked hclient hanswering⟩
        simp only [linkSize]
        omega
      · have hframe := length_frameBytes_le server hjoined.farEstablished
          (unnumberedFrame server uaField) (Nat.zero_le _)
        rw [hwritten]
        refine ⟨_, ?_, .answered ⟨open_receive (closing client) [] link.client hclient.unread _,
          hclient.task, hclient.calls, hclient.results⟩ hended⟩
        simp only [linkSize, ChannelEnd.receive, List.length_append, hended.calls,
          List.length_nil] at hframe ⊢
        omega
  | answered hclient hserver =>
      rw [turn_of_finished link.server size hserver.task hserver.calls] at hturn
      cases hturn
  | ended hclient hserver =>
      rw [turn_of_finished link.server size hserver.task hserver.calls] at hturn
      cases hturn

/-- A turn of the link leaves less to do. -/
theorem releasing_turn (hrole : server.options.hdlcRole = .server)
    (input : HdlcProfileRole × Nat) (work : Nat) (h : Releasing client server link work)
    (hturn : linkTurn input link = some after) :
    ∃ rest, rest < work ∧ Releasing client server after rest := by
  cases hside : input.1 with
  | client =>
      simp only [linkTurn, hside, Option.map_eq_some_iff] at hturn
      rcases hturn with ⟨next, hnext, rfl⟩
      exact releasing_client client server hjoined link input.2 work next h hnext
  | server =>
      simp only [linkTurn, hside, Option.map_eq_some_iff] at hturn
      rcases hturn with ⟨next, hnext, rfl⟩
      exact releasing_server client server hjoined link input.2 hrole work next h hnext

omit hjoined in
theorem inOrder_of_releasing (work : Nat) (h : Releasing client server link work) :
    ReleasedInOrder link := by
  cases h with
  | ready hclient hserver =>
      rw [ReleasedInOrder, hclient.results, hserver.results]
      exact ⟨List.nil_prefix, List.nil_prefix⟩
  | asked hclient hserver =>
      rw [ReleasedInOrder, hclient.results, hserver.results]
      exact ⟨List.nil_prefix, List.nil_prefix⟩
  | answered hclient hserver =>
      rw [ReleasedInOrder, hclient.results, hserver.results]
      exact ⟨List.nil_prefix, List.prefix_refl _⟩
  | ended hclient hserver =>
      rw [ReleasedInOrder, hclient.results, hserver.results]
      exact ⟨List.prefix_refl _, List.prefix_refl _⟩

omit hjoined in
/-- Where no turn can be taken the release is over. -/
theorem released_of_atRest (work : Nat) (h : Releasing client server link work)
    (hrest : AtRest linkTurn link) : Released link := by
  -- Whoever waits has a frame to look at, unless the release is over.
  have hclientRests : link.client.turn 0 = none := by
    have hnone := hrest (.client, 0)
    simp only [linkTurn, Option.map_eq_none_iff] at hnone
    exact hnone
  have hserverRests : link.server.turn 0 = none := by
    have hnone := hrest (.server, 0)
    simp only [linkTurn, Option.map_eq_none_iff] at hnone
    exact hnone
  cases h with
  | ready hclient hserver =>
      rw [turn_of_idle link.client 0 _ _ hclient.task hclient.calls] at hclientRests
      cases hclientRests
  | asked hclient hserver =>
      rcases hserver.unread with ⟨progress, hchannel, hunread⟩
      rcases hserver.stage with ⟨htask, hcalls⟩ | ⟨htask, hcalls⟩
      · rw [turn_of_idle link.server 0 _ _ htask hcalls] at hserverRests
        cases hserverRests
      · have hlooked := eq_nil_of_blocked server link.server progress _ hchannel
          (by rw [htask]; rfl) hunread 0 hserverRests
        exact absurd hlooked (List.cons_ne_nil _ _)
  | answered hclient hserver =>
      rcases hclient.unread with ⟨progress, hchannel, hunread⟩
      rcases hclient.task with ⟨bytes, attempt, htask⟩
      have hlooked := eq_nil_of_blocked (closing client) link.client progress _ hchannel
        (by rw [htask]; rfl) hunread 0 hclientRests
      exact absurd hlooked (List.cons_ne_nil _ _)
  | ended hclient hserver =>
      exact ⟨hclient.results, hserver.results, hclient.state, hserver.state⟩

/-- A client that has asked and has an acknowledgement to look at can be run
    until its call has failed. -/
theorem fails_of_asked (frames : List HdlcFrame) (hready : ReceiveReady server frames)
    (hsome : frames ≠ []) (h : Asked client frames link.client) :
    ∃ inputs, ¬ ReleasedInOrder (final (attempt linkTurn) inputs link) := by
  refine exists_final linkTurn
    (fun link work => Asked client frames link.client ∧ link.client.inbox.length = work)
    (fun link => ¬ ReleasedInOrder link) ?_ link _ ⟨h, rfl⟩
  rintro state work ⟨hasked, rfl⟩
  rcases hasked.unread with ⟨progress, hchannel, hunread⟩
  rcases hasked.task with ⟨bytes, attempt, htask⟩
  cases hturn : state.client.turn 0 with
  | none =>
      exact absurd (eq_nil_of_blocked (closing client) state.client progress _ hchannel
        (by rw [htask]; rfl) hunread 0 hturn) hsome
  | some next =>
      refine ⟨(.client, 0), _, by simp only [linkTurn, hturn, Option.map_some]; rfl, ?_⟩
      rcases asked_look client 0 frames state.client next hasked (fun frame hframe => by
        rcases hready frame hframe with ⟨number, rfl⟩
        exact fits_decoder client hjoined.nearEstablished _ (Nat.zero_le _)) hturn with
        ⟨frame, hmem, progress, inbox, bytes, attempt, -, rfl⟩ | ⟨-, hwaits, hless⟩
      · rcases hready frame hmem with ⟨number, rfl⟩
        rcases confirm_receiveReady client server hjoined progress bytes attempt number with
          ⟨channel, status, hfinished⟩
        rw [hfinished]
        refine .inl fun hinOrder => ?_
        have hresults := hinOrder.1
        simp [ChannelEnd.apply, Turn.finish, hasked.results] at hresults
      · exact .inr ⟨_, hless, hwaits, rfl⟩

/-- So can a server that is to answer. -/
theorem fails_of_answering (hrole : server.options.hdlcRole = .server)
    (hpending : server.session.disconnectResponsePending = false) (frames : List HdlcFrame)
    (hready : ReceiveReady client frames) (hsome : frames ≠ [])
    (h : Answering server frames link.server) :
    ∃ inputs, ¬ ReleasedInOrder (final (attempt linkTurn) inputs link) := by
  refine exists_final linkTurn
    (fun link work => Answering server frames link.server ∧
      link.server.inbox.length + link.server.calls.length = work)
    (fun link => ¬ ReleasedInOrder link) ?_ link _ ⟨h, rfl⟩
  rintro state work ⟨hanswering, rfl⟩
  rcases hanswering.unread with ⟨progress, hchannel, hunread⟩
  cases hturn : state.server.turn 0 with
  | none =>
      rcases hanswering.stage with ⟨htask, hcalls⟩ | ⟨htask, hcalls⟩
      · rw [turn_of_idle state.server 0 _ _ htask hcalls] at hturn
        cases hturn
      · exact absurd (eq_nil_of_blocked server state.server progress _ hchannel
          (by rw [htask]; rfl) hunread 0 hturn) hsome
  | some next =>
      refine ⟨(.server, 0), _, by simp only [linkTurn, hturn, Option.map_some]; rfl, ?_⟩
      rcases answering_look client server hjoined 0 hrole frames state.server next hanswering
        (fun frame hframe => by
          rcases hready frame hframe with ⟨number, rfl⟩
          exact fits_decoder server hjoined.farEstablished _ (Nat.zero_le _)) hturn with
        ⟨frame, hmem, progress, inbox, -, -, rfl⟩ | ⟨-, hwaits, hless⟩
      · rcases hready frame hmem with ⟨number, rfl⟩
        rcases answer_receiveReady server client progress number hpending with
          ⟨channel, status, hfinished⟩
        rw [hfinished]
        refine .inl fun hinOrder => ?_
        have hresults := hinOrder.2
        simp [ChannelEnd.apply, Turn.finish, hanswering.results] at hresults
      · exact .inr ⟨_, hless, hwaits, rfl⟩

omit hjoined in
/-- The receiver of the last APDU has looked at everything, and its sender at all
    but the acknowledgements left. -/
theorem open_of_exchanged (course : Course) (work : Nat)
    (h : Underway client server course link work)
    (hresults : link.client.results = course.sending ∧ link.server.results = course.receiving) :
    link.client.task = .idle ∧ link.server.task = .idle ∧
      ∃ frames, frames.length = course.leftover ∧
        (ReceiveReady client frames ∧ Open client [] link.client ∧ Open server frames link.server ∨
          ReceiveReady server frames ∧ Open client frames link.client ∧
            Open server [] link.server) := by
  rcases h with ⟨apdus, flight, ⟨hflight, -⟩ | ⟨hflight, -⟩⟩
  · have hnil := eq_nil_of_results course client server apdus flight link.client link.server hflight
      hresults.2
    subst hnil
    rcases open_of_inFlight_nil course client server flight link.client link.server hflight with
      ⟨frames, hlength, hready, ⟨hclient, hidle⟩, hserver, hidle'⟩
    exact ⟨hidle, hidle', frames, hlength, .inl ⟨hready, hclient, hserver⟩⟩
  · have hnil := eq_nil_of_results course.swap server client apdus flight link.server link.client
      hflight hresults.1
    subst hnil
    rcases open_of_inFlight_nil course.swap server client flight link.server link.client hflight
      with ⟨frames, hlength, hready, ⟨hserver, hidle'⟩, hclient, hidle⟩
    exact ⟨hidle, hidle', frames, hlength, .inr ⟨hready, hclient, hserver⟩⟩

/-- The release completes just when no acknowledgement is left. -/
theorem completes_releaseLink_iff (hrole : server.options.hdlcRole = .server)
    (hpending : server.session.disconnectResponsePending = false)
    (hidle : link.client.task = .idle) (hidle' : link.server.task = .idle)
    (frames : List HdlcFrame)
    (hopen : ReceiveReady client frames ∧ Open client [] link.client ∧
        Open server frames link.server ∨
      ReceiveReady server frames ∧ Open client frames link.client ∧ Open server [] link.server) :
    Completes linkTurn ReleasedInOrder Released (releaseLink link) ↔ frames = [] := by
  constructor
  · intro hcompletes
    by_contra hsome
    rcases hopen with ⟨hready, -, hserver⟩ | ⟨hready, hclient, -⟩
    · rcases fails_of_answering client server hjoined (releaseLink link) hrole hpending frames
        hready hsome ⟨hserver, .inl ⟨hidle', rfl⟩, rfl⟩ with ⟨inputs, hfails⟩
      exact hfails (hcompletes.safe inputs)
    · -- The client asks first, and then looks at what is left.
      rcases hclient with ⟨progress, hchannel, hunread⟩
      cases hturn : (releaseLink link).client.turn 0 with
      | none =>
          rw [turn_of_idle (releaseLink link).client 0 _ _ hidle rfl] at hturn
          cases hturn
      | some next =>
          have hasked : Asked client frames next.1 := by
            rw [turn_of_idle (releaseLink link).client 0 _ _ hidle rfl, Option.some.injEq,
              show (releaseLink link).client.channel = underWay client progress from hchannel,
              startCall_disconnect client server hjoined progress] at hturn
            subst hturn
            exact ⟨⟨progress, rfl, hunread⟩, ⟨_, _, rfl⟩, rfl, rfl⟩
          have hlink : linkTurn (.client, 0) (releaseLink link) = some
              { client := next.1, server := (releaseLink link).server.receive next.2 } := by
            simp only [linkTurn, hturn, Option.map_some]
          rcases fails_of_asked client server hjoined
            { client := next.1, server := (releaseLink link).server.receive next.2 } frames hready
            hsome hasked with ⟨inputs, hfails⟩
          have hsafe := hcompletes.safe ((.client, 0) :: inputs)
          rw [final, attempt, hlink] at hsafe
          exact hfails hsafe
  · rintro rfl
    have hready : ∃ work, Releasing client server (releaseLink link) work := by
      rcases hopen with ⟨-, hclient, hserver⟩ | ⟨-, hclient, hserver⟩
      · exact ⟨_, .ready ⟨hclient, hidle, rfl, rfl⟩ ⟨hserver, .inl ⟨hidle', rfl⟩, rfl⟩⟩
      · exact ⟨_, .ready ⟨hclient, hidle, rfl, rfl⟩ ⟨hserver, .inl ⟨hidle', rfl⟩, rfl⟩⟩
    rcases hready with ⟨work, hreleasing⟩
    exact completes_of_left linkTurn (Releasing client server)
      (fun input link work after h hturn =>
        releasing_turn client server hjoined link after hrole input work h hturn) _ _
      (fun link work h => inOrder_of_releasing client server link work h)
      (fun link work h hrest => released_of_atRest client server link work h hrest) _ work
      hreleasing

end Releasing

/-- A server that has connected owes no answer to a DISC. -/
theorem disconnect_of_connectChannels (clientOptions serverOptions : ApduChannelOptions)
    (client server : HdlcProfileChannel)
    (h : connectChannels clientOptions serverOptions = some (client, server)) :
    server.session.disconnectResponsePending = false := by
  rcases connectChannels_eq_some clientOptions serverOptions client server h with
    ⟨-, -, clientSession, serverSession, -, -, hsessions, -, -⟩
  exact Hdlc.disconnect_of_connectSessions _ _ _ _ _ _ hsessions

/-- After every exchange that has completed, in whatever order its turns were
    taken, the release completes with both sessions disconnected, if and only if
    the sender of the last APDU has no acknowledgement left to look at. -/
theorem release_completes_iff (clientOptions serverOptions : ApduChannelOptions)
    (client server : HdlcProfileChannel) (apdus : List Bytes)
    (hconnected : connectChannels clientOptions serverOptions = some (client, server))
    (hclient : Negotiated client.session) (hserver : Negotiated server.session)
    (hpermitted : ∀ apdu ∈ apdus, Permitted clientOptions apdu ∧ Permitted serverOptions apdu)
    (inputs : List (HdlcProfileRole × Nat))
    (hexchanged :
      Exchanged apdus (final (attempt linkTurn) inputs (exchangeLink client server apdus))) :
    Completes linkTurn ReleasedInOrder Released
        (releaseLink (final (attempt linkTurn) inputs (exchangeLink client server apdus))) ↔
      unreadAcknowledgements client server apdus = 0 := by
  have hrole : server.options.hdlcRole = .server :=
    role_of_connectChannels clientOptions serverOptions client server hconnected
  rcases underway_of_connectChannels clientOptions serverOptions client server apdus hconnected
    hclient hserver hpermitted with ⟨hjoined, work, hstart⟩
  -- Whatever the order of the turns, the exchange has completed, and not failed.
  rcases underway_or_failed client server (courseOf client server apdus) _ hjoined inputs work
    hstart with ⟨rest, hunderway⟩ | hfailed
  · rcases open_of_exchanged client server _ (courseOf client server apdus) rest hunderway
      hexchanged with ⟨hidle, hidle', frames, hlength, hopen⟩
    rw [completes_releaseLink_iff client server hjoined _ hrole
      (disconnect_of_connectChannels clientOptions serverOptions client server hconnected) hidle
      hidle' frames hopen, ← List.length_eq_zero_iff, hlength]
    rfl
  · refine absurd ⟨?_, ?_⟩ hfailed
    · rw [hexchanged.1]
      exact List.prefix_refl _
    · rw [hexchanged.2]
      exact List.prefix_refl _

/-! ### Two releases -/

instance (apdus : List Bytes) (link : ChannelLink) : Decidable (Exchanged apdus link) :=
  inferInstanceAs (Decidable (_ ∧ _))

instance (link : ChannelLink) : Decidable (ReleasedInOrder link) :=
  inferInstanceAs (Decidable (_ ∧ _))

/-- The turns of an exchange, one end after the other. -/
def turnsInTurn (count : Nat) : List (HdlcProfileRole × Nat) :=
  (List.replicate count [(HdlcProfileRole.client, 100), (HdlcProfileRole.server, 100)]).flatten

/-- The client sends an APDU in two segments, and the server one in a single
    segment. -/
theorem release_completes_iff_meter : ∃ client server,
    connectChannels (readerOptions 65535) (meterOptions 65535) = some (client, server) ∧
      Completes linkTurn ReleasedInOrder Released
        (releaseLink (final (attempt linkTurn) (turnsInTurn 20)
          (exchangeLink client server [[1, 2, 3], [4]]))) := by
  rcases exists_of_connects (readerOptions 65535) (meterOptions 65535) (by decide +kernel) with
    ⟨client, server, hconnected, hclient, hserver⟩
  have hexchanged : (connectChannels (readerOptions 65535) (meterOptions 65535)).all (fun ends =>
      decide (Exchanged [[1, 2, 3], [4]] (final (attempt linkTurn) (turnsInTurn 20)
        (exchangeLink ends.1 ends.2 [[1, 2, 3], [4]])) ∧
          unreadAcknowledgements ends.1 ends.2 [[1, 2, 3], [4]] = 0)) = true := by
    decide +kernel
  rw [hconnected, Option.all_some, decide_eq_true_eq] at hexchanged
  refine ⟨client, server, hconnected, ?_⟩
  refine (release_completes_iff (readerOptions 65535) (meterOptions 65535) client server _
    hconnected hclient hserver ?_ _ hexchanged.1).mpr hexchanged.2
  intro apdu hapdu
  simp only [List.mem_cons, List.not_mem_nil, or_false] at hapdu
  rcases hapdu with rfl | rfl
  · exact ⟨.inr (by decide), .inr (by decide)⟩
  · exact ⟨.inr (by decide), .inr (by decide)⟩

/-- After an APDU in two segments the client takes the acknowledgement of the
    first one for the answer to its DISC. -/
theorem not_release_completes :
    ¬ ∀ (clientOptions serverOptions : ApduChannelOptions) (client server : HdlcProfileChannel)
      (apdus : List Bytes) (inputs : List (HdlcProfileRole × Nat)),
      connectChannels clientOptions serverOptions = some (client, server) →
      Negotiated client.session → Negotiated server.session →
      (∀ apdu ∈ apdus, apdu.length ≤ clientOptions.maximumApduSize ∧
        apdu.length ≤ serverOptions.maximumApduSize) →
      Exchanged apdus (final (attempt linkTurn) inputs (exchangeLink client server apdus)) →
      Completes linkTurn ReleasedInOrder Released
        (releaseLink (final (attempt linkTurn) inputs (exchangeLink client server apdus))) := by
  intro hclaim
  rcases exists_of_connects (readerOptions 65535) (meterOptions 65535) (by decide +kernel) with
    ⟨client, server, hconnected, hclient, hserver⟩
  have hfails : (connectChannels (readerOptions 65535) (meterOptions 65535)).all (fun ends =>
      let exchanged := final (attempt linkTurn) (turnsInTurn 20)
        (exchangeLink ends.1 ends.2 [[1, 2, 3]])
      decide (Exchanged [[1, 2, 3]] exchanged ∧
        ¬ ReleasedInOrder (final (attempt linkTurn) (turnsInTurn 2) (releaseLink exchanged)))) =
          true := by
    decide +kernel
  rw [hconnected, Option.all_some, decide_eq_true_eq] at hfails
  have hcompletes := hclaim _ _ client server [[1, 2, 3]] (turnsInTurn 20) hconnected hclient
    hserver (by
      intro apdu hapdu
      rw [List.mem_singleton.mp hapdu]
      exact ⟨by decide, by decide⟩) hfails.1
  exact hfails.2 (hcompletes.safe (turnsInTurn 2))

end Profile

end Dlms
