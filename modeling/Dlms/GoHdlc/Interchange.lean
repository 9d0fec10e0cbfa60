import Dlms.GoHdlc.Session
import Dlms.Machine.Duplex

/-!
# One session for the other

Two sessions on a link, a client and a server with the addresses and the limits
of each other, of either library. They connect, exchange information and
acknowledgements, disconnect and connect again, in any order and at any time,
and every frame arrives once and in order. Nothing is negotiated.

The sessions are interchangeable when it cannot be told of which library each
one is: whatever happens, the answers are the same, the frames with them, and so
are the states and the numbers of both sides.

They are not when two frames cross. A session in Go takes only what acknowledges
all that it has sent, and a frame that was sent before the last one arrived does
not. A session in C++ remembers what has been acknowledged and takes any number
from there on.

The sessions in C++ keep to a window, and those in Go do not. The sides are taken
to keep to it by themselves: information is sent when what was sent before has
been acknowledged.

## Main definitions

* `Party`: A session of either library.
* `linkStep`: Something happens on the link.
* `Interchangeable`: The libraries cannot be told apart.
* `SendsAcknowledged`, `NoneCrosses`: The sides keep to the window, and no frame
  that comes in has crossed another.

## Theorems

* `interchangeable_iff`: They are interchangeable exactly when none crosses.
-/

namespace Dlms

namespace GoHdlc

open Hdlc
open Machine (Side Duplex DuplexAction duplexStep DuplexAllowed DuplexStands)

/-! ### Sessions of either library -/

/-- The implementation an end is of. -/
inductive Library where
  | cpp
  | go
  deriving DecidableEq, Repr

/-- What a session shows: its state and its numbers. -/
structure SessionView where
  state : HdlcSessionState
  sendSequence : UInt8
  receiveSequence : UInt8
  deriving DecidableEq

/-- A session of either library. -/
inductive Party where
  | cpp (session : HdlcSession)
  | go (s : Session)
  deriving DecidableEq

/-- What a session answers: a frame, nothing, or a status. -/
abbrev Answer := Outcome (Except HdlcStatus Bytes)

/-- The frame that is on its way after an answer. -/
def sentFrame : Answer → Option Bytes
  | .returned (.ok output) => some output
  | .returned (.error _) => none
  | .thrown => none

/-- A session in C++ is asked for a frame. -/
def askHdlc (call : BuildCall) (session : HdlcSession) : Answer × HdlcSession :=
  let (answer, session) := session.call call.inHdlc
  (.returned answer, session)

/-- It is given a frame, as soon as it has been decoded. -/
def giveHdlc (bytes : Bytes) (session : HdlcSession) : Answer × HdlcSession :=
  match Hdlc.decodeFrame bytes session.options.limits with
  | .error status => (.returned (.error status), session)
  | .ok frame =>
      let (received, session) := session.receiveFrame frame
      (.returned (received.map fun _ => []), session)

/-- A session in Go is given a frame. -/
def giveGo (bytes : Bytes) (s : Session) : Answer × Session :=
  match decodeFrame bytes s.options.limits with
  | .error status => (.returned (.error status), s)
  | .ok frame =>
      let (received, s) := s.receiveFrame frame
      (.returned (received.map fun _ => []), s)

namespace Party

def create (library : Library) (options : HdlcSessionOptions) : Party :=
  match library with
  | .cpp => .cpp (HdlcSession.create options)
  | .go =>
      .go (Session.new
        { role := options.role
          clientAddress := .ofHdlc options.clientAddress
          serverAddress := .ofHdlc options.serverAddress
          limits := options.limits })

def ask (memory : Nat) (call : BuildCall) (party : Party) : Answer × Party :=
  match party with
  | .cpp session =>
      let (answer, session) := askHdlc call session
      (answer, .cpp session)
  | .go s =>
      let (answer, s) := s.build memory call
      (answer, .go s)

def give (bytes : Bytes) (party : Party) : Answer × Party :=
  match party with
  | .cpp session =>
      let (answer, session) := giveHdlc bytes session
      (answer, .cpp session)
  | .go s =>
      let (answer, s) := giveGo bytes s
      (answer, .go s)

def view (party : Party) : SessionView :=
  match party with
  | .cpp session =>
      { state := session.state
        sendSequence := session.sendSequence
        receiveSequence := session.receiveSequence }
  | .go s =>
      { state := s.state
        sendSequence := s.sendSequence
        receiveSequence := s.receiveSequence }

end Party

/-! ### The link -/

/-- What the two sessions have in common. -/
structure LinkOptions where
  clientAddress : HdlcAddress
  serverAddress : HdlcAddress
  limits : HdlcCodecLimits

/-- The client is on the left. -/
def roleOf : Side → HdlcSessionRole
  | .left => .client
  | .right => .server

namespace LinkOptions

/-- The options of the session on one side, without parameters of its own. -/
def of (options : LinkOptions) (side : Side) : HdlcSessionOptions where
  role := roleOf side
  clientAddress := options.clientAddress
  serverAddress := options.serverAddress
  limits := options.limits
  negotiationLimits := defaultHdlcSessionNegotiationLimits

/-- A link between sessions of these libraries that have just been created. -/
def start (options : LinkOptions) (libraries : Side → Library) : Duplex Party Bytes where
  party := fun side => .create (libraries side) (options.of side)
  inbox := fun _ => []

/-- The link between two sessions in C++. -/
def startHdlc (options : LinkOptions) : Duplex HdlcSession Bytes where
  party := fun side => .create (options.of side)
  inbox := fun _ => []

end LinkOptions

/-- Something happens on a link between sessions of any library. -/
def linkStep (memory : Nat) : DuplexAction BuildCall → Duplex Party Bytes →
    Option Answer × Duplex Party Bytes :=
  duplexStep (Party.ask memory) sentFrame Party.give

/-- Something happens on a link between two sessions in C++. -/
def hdlcLinkStep : DuplexAction BuildCall → Duplex HdlcSession Bytes →
    Option Answer × Duplex HdlcSession Bytes :=
  duplexStep askHdlc sentFrame giveHdlc

/-- What is seen of a step: the answer, and both sides afterwards. -/
structure Seen where
  answer : Option Answer
  left : SessionView
  right : SessionView
  deriving DecidableEq

def seen (t : Machine.Transition (DuplexAction BuildCall) (Option Answer) (Duplex Party Bytes)) :
    Seen where
  answer := t.output
  left := (t.after.party .left).view
  right := (t.after.party .right).view

/-- Whatever the libraries of the two sessions are, the same is seen. -/
def Interchangeable (memory : Nat) (options : LinkOptions)
    (actions : List (DuplexAction BuildCall)) : Prop :=
  ∀ libraries libraries' : Side → Library,
    (Machine.run (linkStep memory) actions (options.start libraries)).map seen =
      (Machine.run (linkStep memory) actions (options.start libraries')).map seen

/-! ### The conditions -/

/-- What comes in has not crossed another frame. -/
def NotCrossed (session : HdlcSession) (bytes : Bytes) : Prop :=
  ∀ frame ∈ (Hdlc.decodeFrame bytes session.options.limits).toOption, ¬Crosses session frame

instance (session : HdlcSession) (bytes : Bytes) : Decidable (NotCrossed session bytes) :=
  inferInstanceAs (Decidable (∀ frame ∈ Except.toOption _, ¬Crosses session frame))

/-- Each side sends information only when what it sent before has been
    acknowledged. -/
def SendsAcknowledged (options : LinkOptions) (actions : List (DuplexAction BuildCall)) : Prop :=
  Machine.Admits hdlcLinkStep
    (fun _ link action => DuplexAllowed Acknowledged (fun _ _ => True) link action) [] actions
    options.startHdlc

/-- No frame comes in that has crossed another. -/
def NoneCrosses (options : LinkOptions) (actions : List (DuplexAction BuildCall)) : Prop :=
  Machine.Admits hdlcLinkStep
    (fun _ link action => DuplexAllowed (fun _ _ => True) NotCrossed link action) [] actions
    options.startHdlc

/-! ### What sessions send -/

/-- An unnumbered frame that comes with these octets has no information. -/
def Bare (limits : HdlcCodecLimits) (bytes : Bytes) : Prop :=
  ∀ frame, Hdlc.decodeFrame bytes limits = .ok frame →
    frame.control.frameKind = .unnumbered → frame.information = []

section Defaults

variable (limits : HdlcCodecLimits) (session : HdlcSession) (h : AtDefaults limits session)
include h

/-- A frame is bare that is built without information or to carry some. -/
theorem bare_of_buildFrame (control : UInt8) (information output : Bytes)
    (hbuilt : session.buildFrame control information = .ok output)
    (hinformation : information = [] ∨ control &&& 0x01 = 0) : Bare limits output := by
  rcases session.buildFrame_eq_ok control information output hbuilt with
    ⟨field, rfl, hfits, rfl⟩
  intro frame hdecoded hunnumbered
  rw [h.limits] at hfits
  rw [decodeFrame_of_fits _ limits hfits] at hdecoded
  obtain rfl := Except.ok.inj hdecoded
  rcases hinformation with hempty | hkind
  · exact hempty
  · have hcarries : (session.outgoing field information).control.frameKind = .information := by
      show field.frameKind = .information
      rw [HdlcControl.frameKind, if_pos hkind]
    rw [hcarries] at hunnumbered
    cases hunnumbered

/-- A call is refused and leaves the session as it is, or a frame is built. -/
theorem call_cases (call : BuildCall) :
    (∃ status, session.call call.inHdlc = (.error status, session)) ∨
      ∃ control information output after,
        session.buildFrame control information = .ok output ∧
          session.call call.inHdlc = (.ok output, after) ∧
          (information = [] ∨ control &&& 0x01 = 0) ∧ after.options = session.options ∧
          after.pendingNegotiation = none := by
  have hnothing := h.pendingNegotiation
  cases call with
  | buildConnectRequest =>
      -- The default limits are not proposed.
      have hnone : (session.options.negotiationLimits !=
          defaultHdlcSessionNegotiationLimits) = false := by
        rw [h.negotiationLimits, bne_self_eq_false]
      simp only [BuildCall.inHdlc, HdlcSession.call, HdlcSession.buildConnectRequest,
        HdlcSession.buildConnectRequestInternal, hnone, Bool.false_eq_true, if_false,
        List.append_nil]
      by_cases hrole : session.options.role ≠ .client
      · rw [if_pos hrole]
        exact .inl ⟨_, rfl⟩
      rw [if_neg hrole]
      by_cases hstate : session.state ≠ .disconnected
      · rw [if_pos hstate]
        exact .inl ⟨_, rfl⟩
      rw [if_neg hstate]
      cases hbuilt : session.buildFrame snrmControl [] with
      | error status => exact .inl ⟨_, rfl⟩
      | ok output => exact .inr ⟨_, _, _, _, hbuilt, rfl, .inl rfl, rfl, hnothing⟩
  | buildConnectResponse =>
      simp only [BuildCall.inHdlc, HdlcSession.call, HdlcSession.buildConnectResponse, hnothing]
      by_cases hrole : session.options.role ≠ .server
      · rw [if_pos hrole]
        exact .inl ⟨_, rfl⟩
      rw [if_neg hrole]
      by_cases hpending : (!session.connectResponsePending) = true
      · rw [if_pos hpending]
        exact .inl ⟨_, rfl⟩
      rw [if_neg hpending]
      cases hbuilt : session.buildFrame uaControl [] with
      | error status => exact .inl ⟨_, rfl⟩
      | ok output => exact .inr ⟨_, _, _, _, hbuilt, rfl, .inl rfl, rfl, rfl⟩
  | buildDisconnectRequest =>
      simp only [BuildCall.inHdlc, HdlcSession.call, HdlcSession.buildDisconnectRequest]
      by_cases hstate : session.state ≠ .connected
      · rw [if_pos hstate]
        exact .inl ⟨_, rfl⟩
      rw [if_neg hstate]
      cases hbuilt : session.buildFrame discControl [] with
      | error status => exact .inl ⟨_, rfl⟩
      | ok output => exact .inr ⟨_, _, _, _, hbuilt, rfl, .inl rfl, rfl, hnothing⟩
  | buildDisconnectResponse =>
      simp only [BuildCall.inHdlc, HdlcSession.call, HdlcSession.buildDisconnectResponse]
      by_cases hpending : (!session.disconnectResponsePending) = true
      · rw [if_pos hpending]
        exact .inl ⟨_, rfl⟩
      rw [if_neg hpending]
      cases hbuilt : session.buildFrame uaControl [] with
      | error status => exact .inl ⟨_, rfl⟩
      | ok output => exact .inr ⟨_, _, _, _, hbuilt, rfl, .inl rfl, rfl, hnothing⟩
  | buildInformationFrame information pollFinal =>
      -- Only this frame carries information, and says so in its control octet.
      have hkind := (carriesInformation_masked session.sendSequence session.receiveSequence
        pollFinal).2.1
      simp only [BuildCall.inHdlc, HdlcSession.call, HdlcSession.buildInformationFrame]
      by_cases hstate : session.state ≠ .connected
      · rw [if_pos hstate]
        exact .inl ⟨_, rfl⟩
      rw [if_neg hstate]
      by_cases hfull : (!session.canSendInformationFrame) = true
      · rw [if_pos hfull]
        exact .inl ⟨_, rfl⟩
      rw [if_neg hfull]
      cases hbuilt : session.buildFrame (Hdlc.makeInformationControl session.sendSequence
          session.receiveSequence pollFinal) information with
      | error status => exact .inl ⟨_, rfl⟩
      | ok output => exact .inr ⟨_, _, _, _, hbuilt, rfl, .inr hkind, rfl, hnothing⟩
  | buildReceiveReadyFrame pollFinal =>
      simp only [BuildCall.inHdlc, HdlcSession.call, HdlcSession.buildReceiveReadyFrame]
      by_cases hstate : session.state ≠ .connected
      · rw [if_pos hstate]
        exact .inl ⟨_, rfl⟩
      rw [if_neg hstate]
      cases hbuilt : session.buildFrame (Hdlc.makeReceiveReadyControl session.receiveSequence
          pollFinal) [] with
      | error status => exact .inl ⟨_, rfl⟩
      | ok output => exact .inr ⟨_, _, _, _, hbuilt, rfl, .inl rfl, rfl, hnothing⟩

/-- A call leaves a session without parameters, and its frame is bare. -/
theorem atDefaults_call (call : BuildCall) :
    AtDefaults limits (session.call call.inHdlc).2 ∧
      ∀ output, (session.call call.inHdlc).1 = .ok output → Bare limits output := by
  rcases call_cases limits session h call with
    ⟨status, hcall⟩ | ⟨control, information, built, after, hbuilt, hcall, hkind, hoptions, hnone⟩
  · rw [hcall]
    refine ⟨h, fun output houtput => ?_⟩
    cases houtput
  · rw [hcall]
    refine ⟨⟨hoptions ▸ h.limits, hoptions ▸ h.negotiationLimits, hnone⟩, fun output houtput => ?_⟩
    obtain rfl := Except.ok.inj houtput
    exact bare_of_buildFrame limits session h control information _ hbuilt hkind

/-- A frame that is bare leaves it so. -/
theorem atDefaults_receiveFrame (frame : HdlcFrame)
    (hempty : frame.control.frameKind = .unnumbered → frame.information = []) :
    AtDefaults limits (session.receiveFrame frame).2 := by
  by_cases hunnumbered : session.incomingAddressesMatch frame = true ∧
      frame.control.frameKind = .unnumbered
  · rw [session.receiveFrame_unnumbered frame hunnumbered.1 hunnumbered.2]
    unfold HdlcSession.receiveUnnumberedFrame
    rw [hempty hunnumbered.2]
    rcases frame.control.unnumberedKind with status | kind
    · exact h
    cases kind with
    | snrm =>
        dsimp only
        unfold HdlcSession.receiveSnrm
        by_cases hrefused : session.options.role ≠ .server ∨ session.state ≠ .disconnected
        · rw [if_pos hrefused]
          exact h
        · rw [if_neg hrefused]
          exact ⟨h.limits, h.negotiationLimits, rfl⟩
    | ua =>
        rcases session.receiveUa_cases [] with ⟨-, hua⟩ | ⟨-, hua⟩ | ⟨-, hua⟩
        · rw [hua]
          exact ⟨h.limits, h.negotiationLimits, h.pendingNegotiation⟩
        · rw [hua]
          exact ⟨h.limits, h.negotiationLimits, h.pendingNegotiation⟩
        · rw [hua]
          exact h
    | disc =>
        dsimp only
        by_cases hstate : session.state ≠ .connected
        · rw [if_pos hstate]
          exact h
        · rw [if_neg hstate]
          exact ⟨h.limits, h.negotiationLimits, h.pendingNegotiation⟩
    | dm => exact ⟨h.limits, h.negotiationLimits, h.pendingNegotiation⟩
    | frmr => exact h
    | ui => exact h
  · -- Any other frame touches the numbers at most.
    have hsame := session.resetSequences_receiveFrame frame hunnumbered
    have hoptions : (session.receiveFrame frame).2.resetSequences.options =
        session.resetSequences.options := congrArg HdlcSession.options hsame
    have hpending : (session.receiveFrame frame).2.resetSequences.pendingNegotiation =
        session.resetSequences.pendingNegotiation :=
      congrArg HdlcSession.pendingNegotiation hsame
    refine ⟨?_, ?_, hpending.trans h.pendingNegotiation⟩
    · exact (congrArg HdlcSessionOptions.limits hoptions).trans h.limits
    · exact (congrArg HdlcSessionOptions.negotiationLimits hoptions).trans h.negotiationLimits

end Defaults

/-! ### One party for the other -/

/-- The party of a library that stands for a session in C++. -/
def Party.standing (library : Library) (session : HdlcSession) : Party :=
  match library with
  | .cpp => .cpp session
  | .go => .go (.ofHdlc session)

/-- It shows the same state and the same numbers. -/
theorem view_standing (library : Library) (session : HdlcSession) :
    (Party.standing library session).view = (Party.cpp session).view := by
  cases library with
  | cpp => rfl
  | go => rfl

section Parties

variable (memory : Nat) (limits : HdlcCodecLimits) (libraries : Side → Library)

/-- The parties on the two sides are of these libraries. -/
def PartyStands (side : Side) (session : HdlcSession) (party : Party) : Prop :=
  AtDefaults limits session ∧ party = .standing (libraries side) session

/-- The parties answer alike what is asked of them, when information is sent only
    after the last one has been acknowledged. -/
theorem ask_alike (hmemory : Allocatable memory limits) (side : Side) (call : BuildCall)
    (session : HdlcSession) (party : Party) (h : PartyStands limits libraries side session party)
    (hallowed : Acknowledged session call) :
    (askHdlc call session).1 = (Party.ask memory call party).1 ∧
      PartyStands limits libraries side (askHdlc call session).2
        (Party.ask memory call party).2 := by
  rcases h with ⟨hdefaults, rfl⟩
  have hafter := (atDefaults_call limits session hdefaults call).1
  unfold PartyStands
  cases libraries side with
  | cpp => exact ⟨rfl, hafter, rfl⟩
  | go =>
      have hbuild := Session.build_eq memory limits session hmemory hdefaults call hallowed
      refine ⟨(congrArg Prod.fst hbuild).symm, hafter, ?_⟩
      exact congrArg Party.go (congrArg Prod.snd hbuild)

/-- What they send is bare. -/
theorem ask_bare (side : Side) (call : BuildCall) (session : HdlcSession) (party : Party)
    (h : PartyStands limits libraries side session party) :
    ∀ message ∈ sentFrame (askHdlc call session).1, Bare limits message := by
  intro message hmessage
  refine (atDefaults_call limits session h.1 call).2 message ?_
  unfold askHdlc at hmessage
  dsimp only at hmessage
  cases hanswer : (session.call call.inHdlc).1 with
  | error status =>
      rw [hanswer] at hmessage
      exact absurd hmessage (by simp [sentFrame, Option.mem_def])
  | ok output =>
      rw [hanswer] at hmessage
      exact congrArg Except.ok (Option.some.inj hmessage)

/-- The parties answer alike what they are given, when it has not crossed what
    they have sent. -/
theorem give_alike (side : Side) (bytes : Bytes) (session : HdlcSession) (party : Party)
    (h : PartyStands limits libraries side session party) (hbare : Bare limits bytes)
    (hallowed : NotCrossed session bytes) :
    (giveHdlc bytes session).1 = (Party.give bytes party).1 ∧
      PartyStands limits libraries side (giveHdlc bytes session).2
        (Party.give bytes party).2 := by
  rcases h with ⟨hdefaults, rfl⟩
  have hlimits : (Session.ofHdlc session).options.limits = session.options.limits := rfl
  unfold PartyStands giveHdlc
  rw [hdefaults.limits]
  cases hdecoded : Hdlc.decodeFrame bytes limits with
  | error status =>
      cases libraries side with
      | cpp =>
          simp only [Party.standing, Party.give, giveHdlc, hdefaults.limits, hdecoded]
          exact ⟨trivial, hdefaults, trivial⟩
      | go =>
          simp only [Party.standing, Party.give, giveGo, hlimits, hdefaults.limits,
            decodeFrame_eq, hdecoded, Except.map]
          exact ⟨trivial, hdefaults, trivial⟩
  | ok frame =>
      have hafter := atDefaults_receiveFrame limits session hdefaults frame (hbare frame hdecoded)
      -- The acknowledgement in it is that of all frames, which is the only one that Go takes.
      have hcrossed : ¬Crosses session frame := by
        refine hallowed frame ?_
        rw [hdefaults.limits, hdecoded]
        rfl
      cases libraries side with
      | cpp =>
          simp only [Party.standing, Party.give, giveHdlc, hdefaults.limits, hdecoded]
          exact ⟨trivial, hafter, trivial⟩
      | go =>
          have hreceived := Session.receiveFrame_eq session frame (hbare frame hdecoded) hcrossed
          simp only [Party.standing, Party.give, giveGo, hlimits, hdefaults.limits,
            decodeFrame_eq, hdecoded, Except.map, hreceived]
          exact ⟨trivial, hafter, trivial⟩

end Parties

/-! ### What only parties that answer alike are asked and given -/

section Converse

variable (memory : Nat) (limits : HdlcCodecLimits)

/-- A session in Go gives itself away by what it sends too early. -/
theorem ask_acknowledged (hmemory : Allocatable memory limits) (side : Side) (call : BuildCall)
    (session : HdlcSession) (party : Party)
    (h : PartyStands limits (fun _ => .go) side session party)
    (hanswer : (askHdlc call session).1 = (Party.ask memory call party).1) :
    Acknowledged session call := by
  rcases h with ⟨hdefaults, rfl⟩
  exact Session.acknowledged_of_build memory limits session hmemory hdefaults call hanswer.symm

/-- And by what it does not take. -/
theorem give_not_crossed (side : Side) (bytes : Bytes) (session : HdlcSession) (party : Party)
    (h : PartyStands limits (fun _ => .go) side session party)
    (hanswer : (giveHdlc bytes session).1 = (Party.give bytes party).1) :
    NotCrossed session bytes := by
  rcases h with ⟨hdefaults, rfl⟩
  intro frame hframe
  refine Session.not_crosses_of_receiveFrame session frame ?_
  have hlimits : (Session.ofHdlc session).options.limits = session.options.limits := rfl
  cases hdecoded : Hdlc.decodeFrame bytes session.options.limits with
  | error status =>
      rw [hdecoded] at hframe
      exact absurd hframe (by simp [Except.toOption, Option.mem_def])
  | ok other =>
      rw [hdecoded] at hframe
      obtain rfl : other = frame := Option.some.inj hframe
      simp only [Party.standing, Party.give, giveHdlc, giveGo, hlimits, decodeFrame_eq, hdecoded,
        Except.map, Outcome.returned.injEq] at hanswer
      -- Each way the two answers are alike, one of the two has to be refused as well.
      cases hgo : ((Session.ofHdlc session).receiveFrame (.ofHdlc other)).1 with
      | error status =>
          rw [hgo] at hanswer
          cases hcpp : (session.receiveFrame other).1 with
          | error status' =>
              rw [hcpp] at hanswer
              exact congrArg Except.error (Except.error.inj hanswer).symm
          | ok received =>
              rw [hcpp] at hanswer
              cases hanswer
      | ok received =>
          rw [hgo] at hanswer
          cases hcpp : (session.receiveFrame other).1 with
          | error status =>
              rw [hcpp] at hanswer
              cases hanswer
          | ok received' => rfl

end Converse

/-! ### Runs -/

/-- What is seen of a step of two sessions in C++. -/
def seenHdlc (t : Machine.Transition (DuplexAction BuildCall) (Option Answer)
    (Duplex HdlcSession Bytes)) : Seen where
  answer := t.output
  left := (Party.cpp (t.after.party .left)).view
  right := (Party.cpp (t.after.party .right)).view

section Runs

variable (memory : Nat) (options : LinkOptions) (actions : List (DuplexAction BuildCall))

/-- Both links begin with sessions that stand for each other. -/
theorem stands_start (libraries : Side → Library) :
    DuplexStands (PartyStands options.limits libraries) (Bare options.limits) options.startHdlc
      (options.start libraries) where
  party := by
    intro side
    refine ⟨⟨rfl, rfl, rfl⟩, ?_⟩
    show Party.create (libraries side) _ = Party.standing (libraries side) _
    cases libraries side with
    | cpp => rfl
    | go => rfl
  inbox := rfl
  sound := by
    intro side message hmessage
    exact absurd hmessage List.not_mem_nil

/-- Two sessions in C++ are two sessions in C++. -/
theorem seen_cpp :
    (Machine.run hdlcLinkStep actions options.startHdlc).map seenHdlc =
      (Machine.run (linkStep memory) actions (options.start fun _ => .cpp)).map seen := by
  have halike := Machine.runAlike_of_step hdlcLinkStep (linkStep memory) Eq
    (DuplexStands (fun _ session party => party = Party.cpp session) fun _ => True)
    (DuplexAllowed (fun _ _ => True) fun _ _ => True)
    (fun action link link' hstands hallowed =>
      Machine.duplex_step askHdlc (Party.ask memory) sentFrame giveHdlc Party.give
        (fun _ session party => party = Party.cpp session) (fun _ => True) (fun _ _ => True)
        (fun _ _ => True)
        (fun _ _ _ _ hparty _ => by
          subst hparty
          exact ⟨rfl, rfl⟩)
        (fun _ _ _ _ _ _ _ => trivial)
        (fun _ _ _ _ hparty _ _ => by
          subst hparty
          exact ⟨rfl, rfl⟩)
        action link link' hstands hallowed)
    actions [] options.startHdlc (options.start fun _ => .cpp)
    ⟨fun _ => rfl, rfl, fun _ _ _ => trivial⟩
    (Machine.admits_of_forall _ _ (fun _ link action => by
      cases action with
      | call side input => trivial
      | receive side => exact fun _ _ => trivial) [] actions _)
  refine (Machine.forall₂_iff_map_eq _ _ _ _).mp (halike.imp fun t t' hsame => ?_)
  have hparties := hsame.after.party
  unfold seenHdlc seen
  rw [hparties .left, hparties .right, hsame.output]

/-- An action that meets both conditions is answered alike, of whatever libraries
    the sessions are. -/
theorem link_step (hmemory : Allocatable memory options.limits) (libraries : Side → Library)
    (action : DuplexAction BuildCall) (link : Duplex HdlcSession Bytes)
    (link' : Duplex Party Bytes)
    (h : DuplexStands (PartyStands options.limits libraries) (Bare options.limits) link link')
    (hallowed : DuplexAllowed Acknowledged NotCrossed link action) :
    (hdlcLinkStep action link).1 = (linkStep memory action link').1 ∧
      DuplexStands (PartyStands options.limits libraries) (Bare options.limits)
        (hdlcLinkStep action link).2 (linkStep memory action link').2 :=
  Machine.duplex_step askHdlc (Party.ask memory) sentFrame giveHdlc Party.give _ _ _ _
    (fun side call session party hparty hcall =>
      ask_alike memory options.limits libraries hmemory side call session party hparty hcall)
    (fun side call session party hparty =>
      ask_bare options.limits libraries side call session party hparty)
    (fun side bytes session party hparty hbare hgiven =>
      give_alike options.limits libraries side bytes session party hparty hbare hgiven)
    action link link' h hallowed

/-- Of whatever libraries the sessions are, the same is seen as with two in C++. -/
theorem seen_of_allowed (hmemory : Allocatable memory options.limits)
    (h : Machine.Admits hdlcLinkStep
      (fun _ link action => DuplexAllowed Acknowledged NotCrossed link action) [] actions
      options.startHdlc)
    (libraries : Side → Library) :
    (Machine.run hdlcLinkStep actions options.startHdlc).map seenHdlc =
      (Machine.run (linkStep memory) actions (options.start libraries)).map seen := by
  have halike := Machine.runAlike_of_step hdlcLinkStep (linkStep memory) Eq
    (DuplexStands (PartyStands options.limits libraries) (Bare options.limits))
    (DuplexAllowed Acknowledged NotCrossed)
    (link_step memory options hmemory libraries) actions [] options.startHdlc
    (options.start libraries) (stands_start options libraries) h
  refine (Machine.forall₂_iff_map_eq _ _ _ _).mp (halike.imp fun t t' hsame => ?_)
  have hparties := hsame.after.party
  unfold seenHdlc seen
  rw [(hparties .left).2, (hparties .right).2, view_standing, view_standing, hsame.output]

/-- When two sessions in Go show what two in C++ show, both conditions were met. -/
theorem allowed_of_seen (hmemory : Allocatable memory options.limits)
    (h : (Machine.run hdlcLinkStep actions options.startHdlc).map seenHdlc =
      (Machine.run (linkStep memory) actions (options.start fun _ => .go)).map seen) :
    Machine.Admits hdlcLinkStep
      (fun _ link action => DuplexAllowed Acknowledged NotCrossed link action) [] actions
      options.startHdlc := by
  refine (Machine.answers_iff_admits hdlcLinkStep (linkStep memory) Eq
    (DuplexStands (PartyStands options.limits fun _ => .go) (Bare options.limits))
    (DuplexAllowed Acknowledged NotCrossed)
    (link_step memory options hmemory fun _ => .go) ?_ actions [] options.startHdlc
    (options.start fun _ => .go) (stands_start options fun _ => .go)).mp ?_
  · intro action link link' hstands hanswer
    exact Machine.duplex_allowed askHdlc (Party.ask memory) sentFrame giveHdlc Party.give _ _ _ _
      (fun side call session party hparty hsame =>
        ask_acknowledged memory options.limits hmemory side call session party hparty hsame)
      (fun side bytes session party hparty _ hsame =>
        give_not_crossed options.limits side bytes session party hparty hsame)
      action link link' hstands hanswer
  · -- What is seen begins with the answer.
    refine ((Machine.forall₂_iff_map_eq _ _ _ _).mpr h).imp fun t t' hsame => ?_
    exact congrArg Seen.answer hsame

/-- The libraries cannot be told apart exactly when no frame that comes in has
    crossed another. -/
theorem interchangeable_iff (hmemory : Allocatable memory options.limits)
    (hacknowledged : SendsAcknowledged options actions) :
    Interchangeable memory options actions ↔ NoneCrosses options actions := by
  have hboth : Machine.Admits hdlcLinkStep
      (fun _ link action => DuplexAllowed Acknowledged NotCrossed link action) [] actions
        options.startHdlc ↔
      SendsAcknowledged options actions ∧ NoneCrosses options actions := by
    rw [SendsAcknowledged, NoneCrosses, ← Machine.admits_and]
    simp [Machine.duplexAllowed_iff Acknowledged NotCrossed]
  constructor
  · intro hsame
    refine (hboth.mp (allowed_of_seen memory options actions hmemory ?_)).2
    exact (seen_cpp memory options actions).trans (hsame _ _)
  · intro hnone libraries libraries'
    have hseen := seen_of_allowed memory options actions hmemory
      (hboth.mpr ⟨hacknowledged, hnone⟩)
    exact (hseen libraries).symm.trans (hseen libraries')

end Runs

/-! ### Two frames that cross -/

/-- A reader and a meter. -/
def readerLink : LinkOptions where
  clientAddress := readerAddress
  serverAddress := meterAddress
  limits := defaultHdlcCodecLimits

/-- The reader connects. -/
def connecting : List (DuplexAction BuildCall) :=
  [.call .left .buildConnectRequest, .receive .right, .call .right .buildConnectResponse,
    .receive .left]

/-- They exchange a request and a response, and disconnect. -/
theorem interchangeable_exchange :
    Interchangeable (2 ^ 34) readerLink
      (connecting ++
        [.call .left (.buildInformationFrame [0xC0] true), .receive .right,
          .call .right (.buildInformationFrame [0xC4] true), .receive .left,
          .call .left (.buildReceiveReadyFrame true), .receive .right,
          .call .left .buildDisconnectRequest, .receive .right,
          .call .right .buildDisconnectResponse, .receive .left] ++ connecting) := by
  refine (interchangeable_iff (2 ^ 34) readerLink _ (by decide +kernel) ?_).mpr ?_
  · unfold SendsAcknowledged
    decide +kernel
  · unfold NoneCrosses
    decide +kernel

/-- Each sends information before that of the other has arrived, having sent none
    before. The one in C++ takes it, the one in Go does not. -/
theorem not_interchangeable :
    SendsAcknowledged readerLink
        (connecting ++
          [.call .left (.buildInformationFrame [0xC0] true),
            .call .right (.buildInformationFrame [0xC2] true), .receive .left,
            .receive .right]) ∧
      ¬Interchangeable (2 ^ 34) readerLink
        (connecting ++
          [.call .left (.buildInformationFrame [0xC0] true),
            .call .right (.buildInformationFrame [0xC2] true), .receive .left,
            .receive .right]) := by
  constructor
  · unfold SendsAcknowledged
    decide +kernel
  · intro hsame
    exact absurd (hsame (fun _ => .cpp) fun _ => .go) (by decide +kernel)

end GoHdlc

end Dlms
