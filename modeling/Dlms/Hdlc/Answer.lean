import Dlms.Hdlc.Calls

/-!
# The answer to a SNRM

A server puts the limits of its answer in force before it builds the frame that
says them, and the frame is built between the new limits. Its block of
parameters takes 23 octets. A client that can receive fewer is owed an answer
that has no place between its own limits, and the server that fails to build it
keeps the limits nevertheless.

## Main definitions

* `RoomForAnswer`: The answer has its place between the limits it confirms.
* `InForce`: Limits that are in force already.
* `Answerable`: A session whose response, if it fails, changes nothing.

## Theorems

* `fits_answer_iff`: When the answer has its place.
* `kept_buildConnectResponse_iff`: When a failed response changes nothing.
* `not_kept_buildConnectResponse`: A client can make a server keep limits of an
  answer that it never gave.
-/

namespace Dlms

namespace Hdlc

/-- There is room for the answer to a proposal: for its 23 octets in the
    information that the client can receive, where none stands for all that the
    largest frame can hold, and for its frame in the largest frame. -/
structure RoomForAnswer (session : HdlcSession) (proposed : SnrmParams) : Prop where
  information :
    min proposed.maxInfoRx session.options.negotiationLimits.maxInformationFieldLengthTransmit = 0 ∨
      23 ≤ min proposed.maxInfoRx
        session.options.negotiationLimits.maxInformationFieldLengthTransmit
  frame : session.remoteAddress.encodedSize + session.localAddress.encodedSize + 32 ≤
    effectiveMaximumFrameSize session.options.limits

/-- Limits that are in force already. -/
structure InForce (session : HdlcSession) (limits : HdlcSessionNegotiationLimits) : Prop where
  negotiated : session.negotiatedLimits = limits
  information : session.options.limits.maximumInformationFieldSize =
    limits.maxInformationFieldLengthTransmit
  window : session.windowSizeTransmit = limits.windowSizeTransmit

/-- No response is due, or there is room for it, or it confirms what is in
    force. -/
def Answerable (session : HdlcSession) : Prop :=
  session.options.role = .server → session.connectResponsePending = true →
    ∀ proposed ∈ session.pendingNegotiation,
      RoomForAnswer session proposed ∨
        InForce session
          (HdlcSession.answeredLimits
            (negotiateParams proposed session.options.negotiationLimits))

namespace HdlcSession

section Answers

variable (session : HdlcSession)

theorem withNegotiatedLimits_eq_self_iff (limits : HdlcSessionNegotiationLimits) :
    session.withNegotiatedLimits limits = session ↔ InForce session limits := by
  constructor
  · intro h
    refine ⟨?_, ?_, ?_⟩
    · exact (congrArg HdlcSession.negotiatedLimits h).symm
    · exact (congrArg (fun s => s.options.limits.maximumInformationFieldSize) h).symm
    · exact (congrArg HdlcSession.windowSizeTransmit h).symm
  · rintro ⟨hnegotiated, hinformation, hwindow⟩
    unfold withNegotiatedLimits
    rw [← hnegotiated] at hinformation hwindow ⊢
    rw [← hinformation, ← hwindow]

/-- A frame is built exactly when it has its place between the limits. -/
theorem buildFrame_isOk_iff (field : HdlcControl) (information : Bytes) :
    (∃ output, session.buildFrame field.rawValue information = .ok output) ↔
      Fits (session.outgoing field information) session.options.limits := by
  constructor
  · rintro ⟨output, hbuilt⟩
    rcases session.buildFrame_eq_ok _ _ _ hbuilt with ⟨built, hraw, hfits, -⟩
    cases built with
    | mk raw accepted =>
        cases field with
        | mk rawValue _ =>
            cases hraw
            exact hfits
  · intro hfits
    exact ⟨_, session.buildFrame_of_fits field information hfits⟩

/-- The addresses are not negotiated. -/
theorem outgoing_answering (field : HdlcControl) (information : Bytes) :
    session.answering.outgoing field information = session.outgoing field information := by
  unfold answering
  cases session.pendingNegotiation with
  | none => rfl
  | some proposed => rfl

/-- The answer with parameters has its place exactly when there is room. -/
theorem fits_answer_iff (proposed : SnrmParams) (h : session.pendingNegotiation = some proposed) :
    Fits (session.answering.outgoing ua session.answerInformation)
        session.answering.options.limits ↔ RoomForAnswer session proposed := by
  have hlength : session.answerInformation.length = 23 := by
    unfold answerInformation
    rw [h]
    rfl
  -- The limits that the answer has to keep are those it has just agreed on.
  have hinformation : session.answering.options.limits.maximumInformationFieldSize =
      min proposed.maxInfoRx
        session.options.negotiationLimits.maxInformationFieldLengthTransmit := by
    unfold answering
    rw [h]
    rfl
  have hframe : effectiveMaximumFrameSize session.answering.options.limits =
      effectiveMaximumFrameSize session.options.limits := by
    unfold answering
    rw [h]
    rfl
  have hsome : (session.outgoing ua session.answerInformation).information ≠ [] := by
    intro hempty
    rw [outgoing] at hempty
    dsimp only at hempty
    rw [hempty] at hlength
    exact absurd hlength (by decide)
  have hheader : headerSize (session.outgoing ua session.answerInformation) =
      2 + session.remoteAddress.encodedSize + session.localAddress.encodedSize + 1 := rfl
  have hformat : formatFieldLength (session.outgoing ua session.answerInformation) =
      session.remoteAddress.encodedSize + session.localAddress.encodedSize + 30 := by
    rw [formatFieldLength, if_neg hsome, hheader]
    show _ + session.answerInformation.length + 2 = _
    rw [hlength]
    omega
  have hremote := session.remoteAddress.size_cases
  have hlocal := session.localAddress.size_cases
  rw [outgoing_answering, Fits, fullFrameSize, hformat, hframe]
  rw [effectiveMaximumInformationFieldSize, hframe, hinformation, hheader]
  show session.answerInformation.length ≤ _ ∧ _ ↔ _
  rw [hlength, maximumFormatFieldLength]
  -- What is left is arithmetic: the parameters are 23 octets.
  constructor
  · rintro ⟨hroom, -, hsize⟩
    refine ⟨?_, by omega⟩
    split_ifs at hroom with hzero
    · exact .inr hroom
    · omega
    · exact .inl (not_not.mp hzero)
  · rintro ⟨hroom, hsize⟩
    refine ⟨?_, by omega, by omega⟩
    split_ifs with hzero
    · exact hroom.resolve_left hzero
    · omega
    · omega

/-- What a response without parameters leaves of a session is the session. -/
theorem answering_of_none (h : session.pendingNegotiation = none) :
    session.answering = session := by
  unfold answering
  rw [h]

/-- A response that fails changes nothing exactly when there is room for it or
    nothing to change. -/
theorem kept_buildConnectResponse_iff :
    (∀ status, session.buildConnectResponse.1 = .error status →
        session.buildConnectResponse.2 = session) ↔ Answerable session := by
  rcases session.buildConnectResponse_cases with
    ⟨hundue, status, hrefused⟩ | ⟨hrole, hpending, ⟨status, hframe, hunfit⟩ |
      ⟨output, hframe, hbuilt⟩⟩
  · rw [hrefused]
    exact iff_of_true (fun _ _ => rfl) fun hrole hpending => absurd ⟨hrole, hpending⟩ hundue
  · -- The frame is refused, and the limits are those of the answer.
    rw [hunfit]
    have hnofit : ¬Fits (session.answering.outgoing ua session.answerInformation)
        session.answering.options.limits := by
      intro hfits
      rcases (session.answering.buildFrame_isOk_iff ua session.answerInformation).mpr hfits with
        ⟨output, houtput⟩
      exact absurd (hframe.symm.trans houtput) nofun
    constructor
    · intro hkept _ _ proposed hproposed
      have hsession := hkept status rfl
      unfold answering at hsession
      rw [Option.mem_def.mp hproposed] at hsession
      exact .inr ((session.withNegotiatedLimits_eq_self_iff _).mp hsession)
    · intro hanswerable _ _
      cases hnegotiation : session.pendingNegotiation with
      | none => exact session.answering_of_none hnegotiation
      | some proposed =>
          rcases hanswerable hrole hpending proposed hnegotiation with hroom | hforce
          · exact absurd ((session.fits_answer_iff proposed hnegotiation).mpr hroom) hnofit
          · show session.answering = session
            unfold answering
            rw [hnegotiation]
            exact (session.withNegotiatedLimits_eq_self_iff _).mpr hforce
  · -- The frame is built, so there is room for it.
    rw [hbuilt]
    refine iff_of_true (fun status hstatus => ?_) ?_
    · cases hstatus
    · intro _ _ proposed hproposed
      have hfits := (session.answering.buildFrame_isOk_iff ua session.answerInformation).mp
        ⟨output, hframe⟩
      exact .inl ((session.fits_answer_iff proposed hproposed).mp hfits)

end Answers

/-! ### A client that can receive sixteen octets -/

/-- A meter with the default limits that is asked for frames of sixteen octets of
    information. -/
def askedForSixteen : HdlcSession :=
  ((create (sessionOptions .server defaultHdlcSessionNegotiationLimits)).receiveFrame
    (readerFrame snrm [0x81, 0x80, 0x03, 0x06, 0x01, 0x10])).2

/-- The answer has no place in sixteen octets, and the meter keeps to sixteen
    octets without having answered. -/
theorem not_kept_buildConnectResponse :
    ¬∀ status, askedForSixteen.buildConnectResponse.1 = .error status →
      askedForSixteen.buildConnectResponse.2 = askedForSixteen := by
  intro hkept
  have hrefused : askedForSixteen.buildConnectResponse.1 = .error .informationFieldTooLarge := by
    decide +kernel
  have hlimits : askedForSixteen.negotiatedLimits.maxInformationFieldLengthTransmit = 128 := by
    decide +kernel
  rw [← hkept _ hrefused] at hlimits
  have hchanged :
      askedForSixteen.buildConnectResponse.2.negotiatedLimits.maxInformationFieldLengthTransmit =
        16 := by
    decide +kernel
  exact absurd (hchanged.symm.trans hlimits) (by decide)

end HdlcSession

end Hdlc

end Dlms
