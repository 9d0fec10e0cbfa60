import Dlms.Hdlc.Reassembly
import Dlms.Profile.HdlcConnect
import Dlms.Profile.HdlcTurns

/-!
# The APDUs of a channel and the frames they come from

A frame that a channel receives goes to the reassembler first and then to the
session. The session numbers the information frames that it accepts, and what the
channel returns should be made of these alone.

Two things stand against it. The reassembler is emptied when a frame does not fit
or is refused, while the session has counted the segments before it. And the
information that a frame completes is handed on whatever kind of frame it is.

The log of a channel is kept next to it, from what its session accepts.

## Main definitions

* `Log`, `Log.step`, `logOf`: The information frames that a session has accepted.
* `Faithful`: What is returned are payloads of what the session has accepted.
* `Undisturbed`: A frame keeps to the sequence, or holds no APDU.

## Theorems

* `accounts_decodeFrameToPendingApdu`: What one frame does.
* `faithful_run`: The runs that return nothing else.
* `not_faithful`: A DISC whose information is returned.
-/

namespace Dlms

namespace Profile

open Apdu (Bytes)
open Hdlc (Continues HdlcFrame HdlcReassembler HdlcStatus effectiveMaximumReassembledInformationSize
  frameBytes sizeDifference)
open Machine (Admits Transition run)

/-! ### What a session accepts -/

/-- The payload of an information, behind its LLC header. -/
def lpduPayload (information : Bytes) : Option Bytes :=
  match Llc.decodeLpdu information false with
  | .error _ => none
  | .ok (_, lsdu) => some lsdu

def informationOf (frames : List HdlcFrame) : Bytes :=
  frames.flatMap fun frame => frame.information

/-- The information frames that a session has accepted. -/
structure Log where
  /-- Those since the last final one. -/
  segments : List HdlcFrame := []
  /-- The information of those up to a final one, put together. -/
  complete : List Bytes := []
  deriving DecidableEq

namespace Log

def receive (log : Log) (frame : HdlcFrame) : Log :=
  if frame.segmented then { log with segments := log.segments ++ [frame] }
  else
    { segments := []
      complete := log.complete ++ [informationOf (log.segments ++ [frame])] }

/-- What waits for its final segment. -/
def assembling (log : Log) : Option Bytes :=
  if log.segments = [] then none else some (informationOf log.segments)

end Log

/-- The frame that a call takes at an event. -/
def handed (used : UsedChannel) (event : ChannelEvent) : Option HdlcFrame :=
  match event with
  | .read read =>
      if awaitsFrame used.channel used.task then
        match (used.channel.nextFrame read).1 with
        | .error _ => none
        | .ok frame => frame
      else none
  | _ => none

/-- The reassembler gives a frame on to the session. -/
def givesOn (pushed : Except HdlcStatus HdlcFrame) : Bool :=
  match pushed with
  | .error status => mapHdlcStatus status = .needMoreData
  | .ok _ => true

/-- A frame that goes by the reassembler reaches the session, which accepts it. -/
def accepts (channel : HdlcProfileChannel) (frame : HdlcFrame) : Bool :=
  givesOn (channel.reassembler.pushFrame frame).1 &&
    (channel.session.receiveFrame frame).1 = .ok ()

/-- A call of the data link makes the session anew. -/
def renews (used : UsedChannel) (event : ChannelEvent) : Bool :=
  match event with
  | .start call =>
      used.task = .idle ∧ used.isOpen ∧ used.channel.options.hdlcUseSession ∧
        call = dataLinkCall used.channel.options.hdlcRole ∧
        used.channel.session.state = .disconnected ∧
        (makeHdlcSessionOptions used.channel.options).isOk
  | _ => false

/-- The information frames accepted after an event. -/
def Log.step (log : Log) (used : UsedChannel) (event : ChannelEvent) : Log :=
  match handed used event with
  | some frame =>
      if frame.control.frameKind = .information ∧ accepts used.channel frame then
        log.receive frame
      else log
  | none => if renews used event then { log with segments := [] } else log

section Histories

variable (history : List (Transition ChannelEvent (Option CallResult × Bytes) UsedChannel))

def logOf : Log := history.foldl (fun log t => log.step t.before t.input) {}

/-- The APDU that a call returns. -/
def answerOf (result : Option CallResult) : Option Bytes :=
  match result with
  | some (.received (.ok apdu)) => some apdu
  | _ => none

def returned : List Bytes := history.filterMap fun t => answerOf t.output.1

/-- What is returned are payloads of the information that has been accepted, in its
    order and each of them once. -/
def Faithful : Prop := (returned history).Sublist ((logOf history).complete.filterMap lpduPayload)

end Histories

/-! ### What keeps to the sequence -/

/-- What is put together of an APDU. -/
def assembling (reassembler : HdlcReassembler) : Option Bytes :=
  (reassembler.pendingFrame.filter fun pending =>
    pending.control.frameKind = .information).map fun pending => pending.information

/-- The information that a final frame completes. -/
def completedBy (reassembler : HdlcReassembler) (frame : HdlcFrame) : Bytes :=
  match reassembler.pendingFrame with
  | none => frame.information
  | some pending => pending.information ++ frame.information

/-- The APDU of an information, unless it is too large. -/
def apduOf (options : ApduChannelOptions) (information : Bytes) : Option Bytes :=
  (lpduPayload information).filter fun lsdu =>
    ¬(options.maximumApduSize ≠ 0 ∧ lsdu.length > options.maximumApduSize)

/-- A frame is the next segment of a sequence. -/
structure IsNext (channel : HdlcProfileChannel) (pending frame : HdlcFrame) : Prop where
  continues : Continues pending frame
  room : pending.information.length ≤ sizeDifference
    (effectiveMaximumReassembledInformationSize channel.reassembler.limits)
    frame.information.length
  accepted : (channel.session.receiveFrame frame).1 = .ok ()

/-- While segments of an APDU wait, a frame is the next of them, and a frame of
    another kind that is accepted completes no APDU. -/
structure Undisturbed (channel : HdlcProfileChannel) (frame : HdlcFrame) : Prop where
  isNext : ∀ pending ∈ channel.reassembler.pendingFrame,
    pending.control.frameKind = .information → IsNext channel pending frame
  noApdu : frame.control.frameKind ≠ .information → frame.segmented = false →
    accepts channel frame = true →
      apduOf channel.options (completedBy channel.reassembler frame) = none

instance (channel : HdlcProfileChannel) (pending frame : HdlcFrame) :
    Decidable (IsNext channel pending frame) :=
  decidable_of_iff ((frame.destination = pending.destination ∧ frame.source = pending.source ∧
      frame.control.frameKind = pending.control.frameKind) ∧
      pending.information.length ≤ sizeDifference
        (effectiveMaximumReassembledInformationSize channel.reassembler.limits)
        frame.information.length ∧
      (channel.session.receiveFrame frame).1 = .ok ())
    ⟨fun h => ⟨h.1, h.2.1, h.2.2⟩, fun h => ⟨h.continues, h.room, h.accepted⟩⟩

instance (channel : HdlcProfileChannel) (frame : HdlcFrame) :
    Decidable (Undisturbed channel frame) :=
  decidable_of_iff ((∀ pending ∈ channel.reassembler.pendingFrame,
      pending.control.frameKind = .information → IsNext channel pending frame) ∧
      (frame.control.frameKind ≠ .information → frame.segmented = false →
        accepts channel frame = true →
          apduOf channel.options (completedBy channel.reassembler frame) = none))
    ⟨fun h => ⟨h.1, h.2⟩, fun h => ⟨h.isNext, h.noApdu⟩⟩

/-- A frame goes by the reassembler. -/
def isReassembled (task : Task) (frame : HdlcFrame) : Bool :=
  task = .receiveApdu ∨ frame.control.frameKind = .information

def closes (event : ChannelEvent) : Bool :=
  match event with
  | .close _ => true
  | _ => false

/-- An event does not disturb an APDU of which segments wait. -/
structure Leaves (used : UsedChannel) (event : ChannelEvent) : Prop where
  frame : ∀ frame ∈ handed used event, isReassembled used.task frame = true →
    Undisturbed used.channel frame
  closed : closes event = true → assembling used.channel.reassembler = none

instance (used : UsedChannel) (event : ChannelEvent) : Decidable (Leaves used event) :=
  decidable_of_iff ((∀ frame ∈ handed used event, isReassembled used.task frame = true →
      Undisturbed used.channel frame) ∧
      (closes event = true → assembling used.channel.reassembler = none))
    ⟨fun h => ⟨h.1, h.2⟩, fun h => ⟨h.frame, h.closed⟩⟩

instance (history : List (Transition ChannelEvent (Option CallResult × Bytes) UsedChannel)) :
    Decidable (Faithful history) := inferInstanceAs (Decidable (List.Sublist _ _))

/-! ### What leaves an APDU alone -/

/-- A turn takes no frame apart and returns no more than what has waited. -/
structure Passes (channel : HdlcProfileChannel) (turn : Turn) : Prop where
  reassembler : turn.channel.reassembler = channel.reassembler
  queue : (answerOf turn.result).toList ++ turn.channel.pendingApdus = channel.pendingApdus

section Passing

variable (channel : HdlcProfileChannel)

theorem passes_buildSessionInformationFrame (information : Bytes) (segmented pollFinal : Bool) :
    (channel.buildSessionInformationFrame information segmented pollFinal).2.reassembler =
        channel.reassembler ∧
      (channel.buildSessionInformationFrame information segmented pollFinal).2.pendingApdus =
        channel.pendingApdus := by
  unfold HdlcProfileChannel.buildSessionInformationFrame
  rcases channel.session.buildInformationFrame information pollFinal with
    ⟨status | frameBytes, session⟩
  · exact ⟨rfl, rfl⟩
  · dsimp only
    split_ifs
    · exact ⟨rfl, rfl⟩
    · cases Hdlc.decodeFrame frameBytes channel.hdlcLimits with
      | error status => exact ⟨rfl, rfl⟩
      | ok decoded =>
          dsimp only
          cases Hdlc.encodeFrame { decoded with segmented := true } channel.hdlcLimits with
          | error status => exact ⟨rfl, rfl⟩
          | ok frameBytes => exact ⟨rfl, rfl⟩

theorem passes_sendSegment (sending : Sending) (written : Bytes) :
    Passes channel (sendSegment channel sending written) := by
  have hbuilt := passes_buildSessionInformationFrame channel
    ((sending.lpdu.drop sending.offset).take (if sending.lpdu = [] then 0
      else min sending.chunkSize (sending.lpdu.length - sending.offset)))
    (!decide (sending.index + 1 = sending.frameCount))
    (decide (sending.index + 1 = sending.frameCount))
  unfold sendSegment
  dsimp only
  rcases hbuild : channel.buildSessionInformationFrame
    ((sending.lpdu.drop sending.offset).take (if sending.lpdu = [] then 0
      else min sending.chunkSize (sending.lpdu.length - sending.offset)))
    (!decide (sending.index + 1 = sending.frameCount))
    (decide (sending.index + 1 = sending.frameCount)) with ⟨status | frameBytes, after⟩
  · rw [hbuild] at hbuilt
    exact ⟨hbuilt.1, hbuilt.2⟩
  · rw [hbuild] at hbuilt
    dsimp only
    by_cases hfinal : decide (sending.index + 1 = sending.frameCount) = true
    · rw [if_pos hfinal]
      exact ⟨hbuilt.1, hbuilt.2⟩
    · rw [if_neg hfinal]
      exact ⟨hbuilt.1, hbuilt.2⟩

theorem passes_deliverApdu (written : Bytes) : Passes channel (deliverApdu channel written) := by
  unfold deliverApdu
  cases hpending : channel.pendingApdus with
  | nil => exact ⟨rfl, rfl⟩
  | cons apdu later => exact ⟨rfl, hpending.symm⟩

theorem passes_finish (outcome : Except ProfileStatus Unit) (written : Bytes) :
    Passes channel (.finish channel outcome written) := ⟨rfl, rfl⟩

theorem passes_startSendApdu (apdu : Bytes) : Passes channel (startSendApdu channel apdu) := by
  unfold startSendApdu
  by_cases hlarge : channel.options.maximumApduSize ≠ 0 ∧
      apdu.length > channel.options.maximumApduSize
  · rw [if_pos hlarge]
    exact passes_finish channel _ _
  · rw [if_neg hlarge]
    dsimp only
    cases Llc.encodeLpdu (Llc.makeLlcHeader (toLlcDirection channel.options.hdlcDirection))
        apdu with
    | error status => exact passes_finish channel _ _
    | ok lpdu =>
        dsimp only
        split_ifs
        · unfold startSendSessionInformation
          split_ifs
          · exact passes_finish channel _ _
          · exact ⟨rfl, rfl⟩
          · exact ⟨rfl, rfl⟩
        · cases buildFrame channel lpdu with
          | error status => exact passes_finish channel _ _
          | ok frameBytes => exact passes_finish channel _ _

theorem passes_retryAnswer (request : Bytes) (attempt : Nat) (status : ProfileStatus)
    (written : Bytes) : Passes channel (retryAnswer channel request attempt status written) := by
  unfold retryAnswer
  split_ifs
  · exact passes_finish channel _ _
  · exact ⟨rfl, rfl⟩

theorem passes_answer (built : Except HdlcStatus Bytes × Hdlc.HdlcSession) (written : Bytes) :
    Passes channel (answer channel built written) := by
  rcases built with ⟨status | answerBytes, session⟩
  · exact ⟨rfl, rfl⟩
  · exact ⟨rfl, rfl⟩

theorem passes_continueWith_error (task : Task) (status : ProfileStatus) :
    Passes channel (continueWith channel task (.error status)) := by
  cases task with
  | awaitAnswer request attempt => exact passes_retryAnswer channel _ _ _ _
  | idle => exact ⟨rfl, rfl⟩
  | receiveApdu => exact ⟨rfl, rfl⟩
  | sendInformation sending => exact passes_finish channel _ _
  | acceptDataLink => exact passes_finish channel _ _
  | acceptDisconnectDataLink => exact passes_finish channel _ _

end Passing

/-! ### One frame -/

section Frames

variable (channel : HdlcProfileChannel) (frame : HdlcFrame)

theorem decodeCompleteInformationToPendingApdu_eq :
    (channel.decodeCompleteInformationToPendingApdu frame).2 =
      { channel with
        pendingApdus := channel.pendingApdus ++
          (apduOf channel.options frame.information).toList } := by
  unfold HdlcProfileChannel.decodeCompleteInformationToPendingApdu apduOf lpduPayload
  rcases Llc.decodeLpdu frame.information false with status | ⟨header, lsdu⟩
  · simp [Option.filter_none]
  · dsimp only
    by_cases hlarge : channel.options.maximumApduSize ≠ 0 ∧
        lsdu.length > channel.options.maximumApduSize
    · rw [if_pos hlarge, Option.filter_some,
        if_neg (by rw [decide_eq_true_eq]; exact not_not_intro hlarge)]
      simp
    · rw [if_neg hlarge, Option.filter_some, if_pos (by rw [decide_eq_true_eq]; exact hlarge)]
      rfl

variable (huse : channel.options.hdlcUseSession = true)
include huse

/-- A frame that is not accepted leaves the reassembler empty. -/
theorem decodeFrameToPendingApdu_refused (h : accepts channel frame = false) :
    (channel.decodeFrameToPendingApdu frame).2.1.reassembler.pendingFrame = none ∧
      (channel.decodeFrameToPendingApdu frame).2.1.pendingApdus = channel.pendingApdus := by
  unfold accepts at h
  unfold HdlcProfileChannel.decodeFrameToPendingApdu
  rw [huse, Bool.not_true, if_neg Bool.false_ne_true]
  rcases hpushed : channel.reassembler.pushFrame frame with ⟨status | completed, reassembler⟩
  · rw [hpushed] at h
    dsimp only
    by_cases hwrong : mapHdlcStatus status ≠ .needMoreData
    · rw [if_pos hwrong]
      exact ⟨rfl, rfl⟩
    rw [if_neg hwrong]
    rw [ne_eq, not_not] at hwrong
    rcases hreceived : channel.session.receiveFrame frame with ⟨status' | received, session⟩
    · exact ⟨rfl, rfl⟩
    · rw [hreceived, givesOn, decide_eq_true hwrong, Bool.true_and, decide_eq_false_iff_not] at h
      exact absurd rfl h
  · rw [hpushed] at h
    dsimp only
    rcases hreceived : channel.session.receiveFrame frame with ⟨status' | received, session⟩
    · exact ⟨rfl, rfl⟩
    · rw [hreceived, givesOn, Bool.true_and, decide_eq_false_iff_not] at h
      exact absurd rfl h

/-- A frame that is accepted and completes nothing is kept. -/
theorem decodeFrameToPendingApdu_incomplete (status : HdlcStatus)
    (hpushed : (channel.reassembler.pushFrame frame).1 = .error status)
    (h : accepts channel frame = true) :
    (channel.decodeFrameToPendingApdu frame).2.1.reassembler =
        (channel.reassembler.pushFrame frame).2 ∧
      (channel.decodeFrameToPendingApdu frame).2.1.pendingApdus = channel.pendingApdus := by
  rw [accepts, hpushed, givesOn, Bool.and_eq_true, decide_eq_true_eq, decide_eq_true_eq] at h
  unfold HdlcProfileChannel.decodeFrameToPendingApdu
  rw [huse, Bool.not_true, if_neg Bool.false_ne_true]
  rcases hpush : channel.reassembler.pushFrame frame with ⟨pushed, reassembler⟩
  rw [hpush] at hpushed
  dsimp only at hpushed ⊢
  subst hpushed
  dsimp only
  rw [if_neg (not_not_intro h.1)]
  rcases hreceived : channel.session.receiveFrame frame with ⟨refused | received, session⟩
  · rw [hreceived] at h
    exact absurd h.2 (by simp)
  · dsimp only
    cases session.buildReceiveReadyFrame true with
    | error failed => exact ⟨rfl, rfl⟩
    | ok frameBytes => exact ⟨rfl, rfl⟩

/-- Of one that completes an information its APDU waits to be returned. -/
theorem decodeFrameToPendingApdu_complete (completed : HdlcFrame)
    (hpushed : (channel.reassembler.pushFrame frame).1 = .ok completed)
    (h : accepts channel frame = true) :
    (channel.decodeFrameToPendingApdu frame).2.1.reassembler =
        (channel.reassembler.pushFrame frame).2 ∧
      (channel.decodeFrameToPendingApdu frame).2.1.pendingApdus =
        channel.pendingApdus ++ (apduOf channel.options completed.information).toList := by
  rw [accepts, hpushed, givesOn, Bool.true_and, decide_eq_true_eq] at h
  unfold HdlcProfileChannel.decodeFrameToPendingApdu
  rw [huse, Bool.not_true, if_neg Bool.false_ne_true]
  rcases hpush : channel.reassembler.pushFrame frame with ⟨pushed, reassembler⟩
  rw [hpush] at hpushed
  dsimp only at hpushed ⊢
  subst hpushed
  dsimp only
  rcases hreceived : channel.session.receiveFrame frame with ⟨refused | received, session⟩
  · rw [hreceived] at h
    cases h
  · dsimp only
    by_cases hempty : completed.information = []
    · rw [if_pos hempty, hempty]
      exact ⟨rfl, (List.append_nil _).symm⟩
    · rw [if_neg hempty]
      have hdecoded := decodeCompleteInformationToPendingApdu_eq
        { channel with reassembler := reassembler, session := session } completed
      rw [hdecoded]
      exact ⟨rfl, rfl⟩

end Frames

/-! ### The reassembler and the log -/

section Segments

variable (reassembler : HdlcReassembler) (frame : HdlcFrame)

/-- A frame that is given on is of one sequence with what waits, and is put behind it. -/
theorem pushFrame_of_givesOn (h : givesOn (reassembler.pushFrame frame).1 = true) :
    (∀ pending ∈ reassembler.pendingFrame,
        pending.control.frameKind = frame.control.frameKind) ∧
      (frame.segmented = true →
        (∃ status, (reassembler.pushFrame frame).1 = .error status) ∧
          ∃ pending, (reassembler.pushFrame frame).2.pendingFrame = some pending ∧
            pending.control.frameKind = frame.control.frameKind ∧
            pending.information = completedBy reassembler frame) ∧
      (frame.segmented = false →
        (reassembler.pushFrame frame).2.pendingFrame = none ∧
          ∃ completed, (reassembler.pushFrame frame).1 = .ok completed ∧
            completed.information = completedBy reassembler frame) := by
  have hpushed := HdlcReassembler.pushed_pushFrame reassembler frame
  have hnot (hmore : frame.segmented = true) (hlast : frame.segmented = false) : False :=
    Bool.false_ne_true (hlast.symm.trans hmore)
  unfold completedBy
  generalize (reassembler.pushFrame frame).1 = answer at hpushed h ⊢
  generalize (reassembler.pushFrame frame).2 = after at hpushed ⊢
  cases hpushed with
  | tooLarge hnone hlarge => exact absurd h (by decide)
  | whole hnone hfits hlast =>
      rw [hnone]
      refine ⟨fun pending hpending => ?_, fun hmore => (hnot hmore hlast).elim,
        fun _ => ⟨rfl, frame, rfl, rfl⟩⟩
      exact absurd hpending (by simp [Option.mem_def])
  | begun hnone hfits hmore =>
      rw [hnone]
      refine ⟨fun pending hpending => ?_,
        fun _ => ⟨⟨_, rfl⟩, frame, rfl, rfl, rfl⟩, fun hlast => (hnot hmore hlast).elim⟩
      exact absurd hpending (by simp [Option.mem_def])
  | other pending hpending hother => exact absurd h (by decide)
  | overflow pending hpending hcontinues hover => exact absurd h (by decide)
  | continued pending hpending hcontinues hroom hmore =>
      rw [hpending]
      refine ⟨fun first hfirst => ?_,
        fun _ => ⟨⟨_, rfl⟩, _, rfl, hcontinues.2.2.symm, rfl⟩,
        fun hlast => (hnot hmore hlast).elim⟩
      rw [← Option.some.inj hfirst]
      exact hcontinues.2.2.symm
  | completed pending hpending hcontinues hroom hlast =>
      rw [hpending]
      refine ⟨fun first hfirst => ?_, fun hmore => (hnot hmore hlast).elim,
        fun _ => ⟨rfl, _, rfl, rfl⟩⟩
      rw [← Option.some.inj hfirst]
      exact hcontinues.2.2.symm

/-- The next frame of a sequence is given on. -/
theorem givesOn_pushFrame (pending : HdlcFrame)
    (hpending : reassembler.pendingFrame = some pending) (hcontinues : Continues pending frame)
    (hroom : pending.information.length ≤ sizeDifference
      (effectiveMaximumReassembledInformationSize reassembler.limits)
      frame.information.length) :
    givesOn (reassembler.pushFrame frame).1 = true := by
  have hpushed := HdlcReassembler.pushed_pushFrame reassembler frame
  generalize (reassembler.pushFrame frame).1 = answer at hpushed ⊢
  generalize (reassembler.pushFrame frame).2 = after at hpushed
  cases hpushed with
  | tooLarge hnone hlarge => exact absurd (hpending.symm.trans hnone) (Option.some_ne_none _)
  | whole hnone hfits hlast => exact absurd (hpending.symm.trans hnone) (Option.some_ne_none _)
  | begun hnone hfits hmore => exact absurd (hpending.symm.trans hnone) (Option.some_ne_none _)
  | other first hfirst hother =>
      rw [Option.some.inj (hpending.symm.trans hfirst)] at hcontinues
      exact absurd hcontinues hother
  | overflow first hfirst hsame hover =>
      rw [Option.some.inj (hpending.symm.trans hfirst)] at hroom
      exact absurd hover (Nat.not_lt.mpr hroom)
  | continued first hfirst hsame hfits hmore => rfl
  | completed first hfirst hsame hfits hlast => rfl

theorem assembling_of_none (h : reassembler.pendingFrame = none) :
    assembling reassembler = none := by
  rw [assembling, h]
  rfl

theorem assembling_of_information (pending : HdlcFrame)
    (h : reassembler.pendingFrame = some pending)
    (hkind : pending.control.frameKind = .information) :
    assembling reassembler = some pending.information := by
  rw [assembling, h, Option.filter_some, if_pos (decide_eq_true hkind)]
  rfl

theorem assembling_of_other (pending : HdlcFrame)
    (h : reassembler.pendingFrame = some pending)
    (hkind : pending.control.frameKind ≠ .information) : assembling reassembler = none := by
  rw [assembling, h, Option.filter_some, if_neg (by rw [decide_eq_true_eq]; exact hkind)]
  rfl

end Segments

namespace Log

variable (log : Log) (frame : HdlcFrame)

theorem informationOf_segments : informationOf log.segments = log.assembling.getD [] := by
  unfold assembling
  by_cases hempty : log.segments = []
  · rw [if_pos hempty, hempty]
    rfl
  · rw [if_neg hempty]
    rfl

theorem informationOf_append (frames : List HdlcFrame) :
    informationOf (frames ++ [frame]) = informationOf frames ++ frame.information := by
  rw [informationOf, List.flatMap_append, List.flatMap_singleton]
  rfl

theorem assembling_receive (h : frame.segmented = true) :
    (log.receive frame).assembling = some (log.assembling.getD [] ++ frame.information) ∧
      (log.receive frame).complete = log.complete := by
  rw [receive, if_pos h]
  refine ⟨?_, rfl⟩
  rw [assembling, if_neg (List.append_ne_nil_of_right_ne_nil _ (List.cons_ne_nil _ _)),
    informationOf_append, informationOf_segments]

theorem complete_receive (h : frame.segmented = false) :
    (log.receive frame).assembling = none ∧
      (log.receive frame).complete =
        log.complete ++ [log.assembling.getD [] ++ frame.information] := by
  rw [receive, h, if_neg Bool.false_ne_true]
  refine ⟨rfl, ?_⟩
  rw [informationOf_append, informationOf_segments]

end Log

/-! ### What a channel owes to the log -/

/-- What is put together is what the log has since the last final segment, and what
    has been returned or waits for it are payloads of what was complete. -/
structure Accounts (log : Log) (answers : List Bytes) (channel : HdlcProfileChannel) : Prop where
  assembled : assembling channel.reassembler = log.assembling
  delivered : (answers ++ channel.pendingApdus).Sublist (log.complete.filterMap lpduPayload)

section Accounts

variable (log : Log) (answers : List Bytes) (channel : HdlcProfileChannel)

/-- A turn that takes no frame apart leaves the accounts in order. -/
theorem Accounts.passes (turn : Turn) (h : Accounts log answers channel)
    (hpasses : Passes channel turn) :
    Accounts log (answers ++ (answerOf turn.result).toList) turn.channel where
  assembled := by
    rw [hpasses.reassembler]
    exact h.assembled
  delivered := by
    rw [List.append_assoc, hpasses.queue]
    exact h.delivered

theorem Accounts.congr (after : HdlcProfileChannel) (h : Accounts log answers channel)
    (hreassembler : after.reassembler = channel.reassembler)
    (hpending : after.pendingApdus = channel.pendingApdus) : Accounts log answers after where
  assembled := by
    rw [hreassembler]
    exact h.assembled
  delivered := by
    rw [hpending]
    exact h.delivered

/-- An empty reassembler goes with a log in which nothing waits. -/
theorem Accounts.emptied (log' : Log) (after : HdlcProfileChannel)
    (h : Accounts log answers channel) (hlog : log'.assembling = none)
    (hcomplete : log'.complete = log.complete) (hnone : after.reassembler.pendingFrame = none)
    (hpending : after.pendingApdus.Sublist channel.pendingApdus) : Accounts log' answers after where
  assembled := (assembling_of_none _ hnone).trans hlog.symm
  delivered := by
    rw [hcomplete]
    exact ((List.Sublist.refl answers).append hpending).trans h.delivered

/-- The log after a frame that goes by the reassembler. -/
def Log.take (frame : HdlcFrame) : Log :=
  if frame.control.frameKind = .information ∧ accepts channel frame then log.receive frame
  else log

/-- The payload of an information that is not too large is its payload. -/
theorem apduOf_sublist (options : ApduChannelOptions) (information : Bytes) :
    (apduOf options information).toList.Sublist ([information].filterMap lpduPayload) := by
  unfold apduOf
  cases hpayload : lpduPayload information with
  | none => exact List.nil_sublist _
  | some lsdu =>
      rw [List.filterMap_cons_some hpayload, Option.filter_some]
      split_ifs
      · exact List.Sublist.refl _
      · exact List.nil_sublist _

variable (frame : HdlcFrame) (huse : channel.options.hdlcUseSession = true)
  (h : Accounts log answers channel)
include huse h

/-- An information frame that is accepted is put together as the log has it. -/
theorem accounts_information (haccepts : accepts channel frame = true)
    (hkind : frame.control.frameKind = .information) :
    Accounts (log.receive frame) answers (channel.decodeFrameToPendingApdu frame).2.1 := by
  have hgives : givesOn (channel.reassembler.pushFrame frame).1 = true :=
    ((Bool.and_eq_true _ _).mp haccepts).1
  rcases pushFrame_of_givesOn channel.reassembler frame hgives with ⟨hsame, hmore, hlast⟩
  -- What waits is all of the log since the last final segment.
  have hcarried : completedBy channel.reassembler frame =
      log.assembling.getD [] ++ frame.information := by
    rw [← h.assembled, completedBy]
    cases hpending : channel.reassembler.pendingFrame with
    | none =>
        rw [assembling_of_none _ hpending]
        rfl
    | some pending =>
        rw [assembling_of_information _ pending hpending ((hsame pending hpending).trans hkind)]
        rfl
  cases hsegmented : frame.segmented with
  | true =>
      rcases hmore hsegmented with ⟨⟨status, hstatus⟩, pending, hpending, hpendingKind, hputs⟩
      rcases decodeFrameToPendingApdu_incomplete channel frame huse status hstatus haccepts with
        ⟨hreassembler, hqueue⟩
      rcases log.assembling_receive frame hsegmented with ⟨hassembling, hcomplete⟩
      constructor
      · rw [hreassembler, hassembling, ← hcarried, ← hputs]
        exact assembling_of_information _ pending hpending (hpendingKind.trans hkind)
      · rw [hqueue, hcomplete]
        exact h.delivered
  | false =>
      rcases hlast hsegmented with ⟨hnone, completed, hcompleted, hputs⟩
      rcases decodeFrameToPendingApdu_complete channel frame huse completed hcompleted haccepts
        with ⟨hreassembler, hqueue⟩
      rcases log.complete_receive frame hsegmented with ⟨hassembling, hcomplete⟩
      constructor
      · rw [hreassembler, hassembling]
        exact assembling_of_none _ hnone
      · rw [hqueue, hcomplete, List.filterMap_append, ← List.append_assoc, hputs, hcarried]
        exact h.delivered.append (apduOf_sublist _ _)

/-- A frame of another kind that is accepted and completes no APDU changes nothing
    that the log has. -/
theorem accounts_other (haccepts : accepts channel frame = true)
    (hkind : frame.control.frameKind ≠ .information)
    (hnoApdu : frame.segmented = false →
      apduOf channel.options (completedBy channel.reassembler frame) = none) :
    Accounts log answers (channel.decodeFrameToPendingApdu frame).2.1 := by
  have hgives : givesOn (channel.reassembler.pushFrame frame).1 = true :=
    ((Bool.and_eq_true _ _).mp haccepts).1
  rcases pushFrame_of_givesOn channel.reassembler frame hgives with ⟨hsame, hmore, hlast⟩
  have hnothing : log.assembling = none := by
    rw [← h.assembled]
    cases hpending : channel.reassembler.pendingFrame with
    | none => exact assembling_of_none _ hpending
    | some pending =>
        refine assembling_of_other _ pending hpending ?_
        rw [hsame pending hpending]
        exact hkind
  cases hsegmented : frame.segmented with
  | true =>
      rcases hmore hsegmented with ⟨⟨status, hstatus⟩, pending, hpending, hpendingKind, -⟩
      rcases decodeFrameToPendingApdu_incomplete channel frame huse status hstatus haccepts with
        ⟨hreassembler, hqueue⟩
      constructor
      · rw [hreassembler, hnothing]
        exact assembling_of_other _ pending hpending (by rw [hpendingKind]; exact hkind)
      · rw [hqueue]
        exact h.delivered
  | false =>
      rcases hlast hsegmented with ⟨hnone, completed, hcompleted, hputs⟩
      rcases decodeFrameToPendingApdu_complete channel frame huse completed hcompleted haccepts
        with ⟨hreassembler, hqueue⟩
      constructor
      · rw [hreassembler, hnothing]
        exact assembling_of_none _ hnone
      · rw [hqueue, hputs, hnoApdu hsegmented, Option.toList_none, List.append_nil]
        exact h.delivered

/-- A frame that goes by the reassembler and keeps to the sequence leaves the
    accounts in order. -/
theorem accounts_decodeFrameToPendingApdu (hundisturbed : Undisturbed channel frame) :
    Accounts (log.take channel frame) answers
      (channel.decodeFrameToPendingApdu frame).2.1 := by
  unfold Log.take
  cases haccepts : accepts channel frame with
  | true =>
      by_cases hkind : frame.control.frameKind = .information
      · rw [if_pos ⟨hkind, rfl⟩]
        exact accounts_information log answers channel frame huse h haccepts hkind
      · rw [if_neg fun hboth => hkind hboth.1]
        exact accounts_other log answers channel frame huse h haccepts hkind
          fun hlast => hundisturbed.noApdu hkind hlast haccepts
  | false =>
      rw [if_neg fun hboth => Bool.false_ne_true hboth.2]
      rcases decodeFrameToPendingApdu_refused channel frame huse haccepts with ⟨hnone, hqueue⟩
      refine h.emptied log answers channel log _ ?_ rfl hnone (by rw [hqueue])
      -- Were an APDU under way, the frame would have been accepted.
      rw [← h.assembled]
      cases hpending : channel.reassembler.pendingFrame with
      | none => exact assembling_of_none _ hpending
      | some pending =>
          refine assembling_of_other _ pending hpending fun hkind => ?_
          have hnext := hundisturbed.isNext pending hpending hkind
          have hgives := givesOn_pushFrame channel.reassembler frame pending hpending
            hnext.continues hnext.room
          rw [accepts, hgives, Bool.true_and, decide_eq_false_iff_not] at haccepts
          exact haccepts hnext.accepted

end Accounts

/-! ### One event -/

section Calls

variable (used : UsedChannel) (call : Call)

section Kept

variable (huse : used.channel.options.hdlcUseSession = true) (hidle : used.task = .idle)
  (h : renews used (.start call) = false)
include huse hidle h

/-- Only a disconnected session is made anew. -/
theorem ensured_eq (hcall : call = dataLinkCall used.channel.options.hdlcRole)
    (hopen : ¬(!used.isOpen) = true) (ensured : HdlcProfileChannel)
    (hensured : ensureSession used.channel = .ok ensured) : ensured = used.channel := by
  unfold ensureSession at hensured
  rw [Bool.not_eq_true, Bool.not_eq_false'] at hopen
  cases hoptions : makeHdlcSessionOptions used.channel.options with
  | error status =>
      rw [hoptions] at hensured
      cases hensured
  | ok sessionOptions =>
      rw [hoptions] at hensured
      by_cases hstate : used.channel.session.state = .disconnected
      · refine absurd (show renews used (.start call) = true from ?_) (by rw [h]; decide)
        exact decide_eq_true ⟨hidle, hopen, huse, hcall, hstate, by rw [hoptions]; rfl⟩
      · dsimp only at hensured
        rw [if_neg hstate] at hensured
        exact (Except.ok.inj hensured).symm

/-- A call that makes no session anew takes no frame apart. -/
theorem passes_startOnStream : Passes used.channel (startOnStream used call) := by
  have hkept := ensured_eq used call huse hidle h
  cases call with
  | sendApdu apdu => exact passes_startSendApdu used.channel apdu
  | receiveApdu => exact passes_deliverApdu used.channel []
  | connectDataLink =>
      unfold startOnStream startCall
      dsimp only
      split_ifs with hnone hopen hrole
      · exact passes_finish _ _ _
      · exact passes_finish _ _ _
      · exact passes_finish _ _ _
      · have hclient : used.channel.options.hdlcRole = .client := by
          by_contra hother
          exact hrole (.inr hother)
        cases hensured : ensureSession used.channel with
        | error status => exact passes_finish _ _ _
        | ok ensured =>
            rw [hkept (by rw [hclient]; rfl) hopen ensured hensured]
            dsimp only
            rcases used.channel.session.buildConnectRequest with ⟨status | frameBytes, session⟩
            · exact ⟨rfl, rfl⟩
            · exact ⟨rfl, rfl⟩
  | acceptDataLink =>
      unfold startOnStream startCall
      dsimp only
      split_ifs with hnone hopen hrole
      · exact passes_finish _ _ _
      · exact passes_finish _ _ _
      · exact passes_finish _ _ _
      · have hserver : used.channel.options.hdlcRole = .server := by
          by_contra hother
          exact hrole (.inr hother)
        cases hensured : ensureSession used.channel with
        | error status => exact passes_finish _ _ _
        | ok ensured =>
            rw [hkept (by rw [hserver]; rfl) hopen ensured hensured]
            exact ⟨rfl, rfl⟩
  | disconnectDataLink =>
      unfold startOnStream startCall
      dsimp only
      split_ifs
      · exact passes_finish _ _ _
      · exact passes_finish _ _ _
      · rcases used.channel.session.buildDisconnectRequest [] with ⟨status | frameBytes, session⟩
        · exact ⟨rfl, rfl⟩
        · exact ⟨rfl, rfl⟩
  | acceptDisconnectDataLink =>
      unfold startOnStream startCall
      dsimp only
      split_ifs
      · exact passes_finish _ _ _
      · exact passes_finish _ _ _
      · exact passes_finish _ _ _
      · exact ⟨rfl, rfl⟩

end Kept

/-- A call that makes the session anew begins with nothing put together. -/
theorem renewed_startOnStream (h : renews used (.start call) = true) :
    (startOnStream used call).channel.reassembler.pendingFrame = none ∧
      (startOnStream used call).channel.pendingApdus = used.channel.pendingApdus ∧
      answerOf (startOnStream used call).result = none := by
  rcases of_decide_eq_true h with ⟨-, hopen, huse, hcall, hstate, hoptions⟩
  cases hmade : makeHdlcSessionOptions used.channel.options with
  | error status =>
      rw [hmade] at hoptions
      exact absurd hoptions Bool.false_ne_true
  | ok sessionOptions =>
      have hensured : ensureSession used.channel =
          .ok { HdlcProfileChannel.withSession used.channel.options sessionOptions with
            pendingApdus := used.channel.pendingApdus } := by
        rw [ensureSession, hmade]
        dsimp only
        rw [if_pos hstate]
      have hnot (role : HdlcProfileRole) (hrole : used.channel.options.hdlcRole = role) :
          ¬((!used.channel.options.hdlcUseSession) = true ∨
            used.channel.options.hdlcRole ≠ role) := by
        rw [huse, hrole]
        rintro (hnone | hother)
        · exact Bool.false_ne_true hnone
        · exact hother rfl
      rw [hcall]
      cases hrole : used.channel.options.hdlcRole with
      | client =>
          unfold dataLinkCall startOnStream startCall
          dsimp only
          rw [if_neg (hnot .client hrole), hensured, huse, hopen, Bool.not_true,
            if_neg Bool.false_ne_true, if_neg Bool.false_ne_true]
          dsimp only
          rcases HdlcProfileChannel.session _ |>.buildConnectRequest with
            ⟨status | frameBytes, session⟩
          · exact ⟨rfl, rfl, rfl⟩
          · exact ⟨rfl, rfl, rfl⟩
      | server =>
          unfold dataLinkCall startOnStream startCall
          dsimp only
          rw [if_neg (hnot .server hrole), hensured, huse, hopen, Bool.not_true,
            if_neg Bool.false_ne_true, if_neg Bool.false_ne_true]
          exact ⟨rfl, rfl, rfl⟩

end Calls

section Reads

variable (channel : HdlcProfileChannel)

/-- The channel once a call has taken a frame apart. -/
def taken (task : Task) (frame : HdlcFrame) : HdlcProfileChannel :=
  if isReassembled task frame then (channel.decodeFrameToPendingApdu frame).2.1
  else { channel with session := (channel.session.receiveFrame frame).2 }

theorem isReassembled_iff (task : Task) (frame : HdlcFrame) :
    isReassembled task frame = true ↔
      task = .receiveApdu ∨ frame.control.frameKind = .information := decide_eq_true_iff

theorem taken_of_other (task : Task) (frame : HdlcFrame) (h : task ≠ .receiveApdu) :
    taken channel task frame = (channel.handleSessionControlFrame frame).2.1 := by
  unfold taken HdlcProfileChannel.handleSessionControlFrame
  by_cases hkind : frame.control.frameKind = .information
  · rw [if_pos ((isReassembled_iff task frame).mpr (.inr hkind)), if_pos hkind]
  · rw [if_neg (by rw [isReassembled_iff]; exact not_or_intro h hkind), if_neg hkind]
    rcases channel.session.receiveFrame frame with ⟨status | received, session⟩
    · rfl
    · rfl

/-- The call goes on from there and takes no other frame apart. -/
theorem passes_continueWith (task : Task) (frame : HdlcFrame) (h : task ≠ .idle) :
    Passes (taken channel task frame) (continueWith channel task (.ok (some frame))) := by
  have hother := taken_of_other channel task frame
  cases task with
  | idle => exact absurd rfl h
  | receiveApdu =>
      rw [taken, if_pos ((isReassembled_iff .receiveApdu frame).mpr (.inl rfl))]
      unfold continueWith
      dsimp only
      rcases channel.decodeFrameToPendingApdu frame with ⟨status | decoded, after, written⟩
      · dsimp only
        split_ifs
        · exact ⟨rfl, rfl⟩
        · exact ⟨rfl, rfl⟩
      · exact passes_deliverApdu after written
  | sendInformation sending =>
      rw [hother (by simp)]
      unfold continueWith
      dsimp only
      rcases channel.handleSessionControlFrame frame with ⟨status | handled, after, written⟩
      · exact passes_finish _ _ _
      · exact passes_sendSegment after sending written
  | awaitAnswer request attempt =>
      rw [hother (by simp)]
      unfold continueWith
      dsimp only
      rcases channel.handleSessionControlFrame frame with ⟨status | handled, after, written⟩
      · exact passes_retryAnswer after request attempt status written
      · exact passes_finish _ _ _
  | acceptDataLink =>
      rw [hother (by simp)]
      unfold continueWith
      dsimp only
      rcases channel.handleSessionControlFrame frame with ⟨status | handled, after, written⟩
      · exact passes_finish _ _ _
      · exact passes_answer after _ written
  | acceptDisconnectDataLink =>
      rw [hother (by simp)]
      unfold continueWith
      dsimp only
      rcases channel.handleSessionControlFrame frame with ⟨status | handled, after, written⟩
      · exact passes_finish _ _ _
      · exact passes_answer after _ written

end Reads

section Congruence

variable (channel after : HdlcProfileChannel) (frame : HdlcFrame)
  (hreassembler : after.reassembler = channel.reassembler)
  (hsession : after.session = channel.session)
include hreassembler hsession

theorem accepts_congr : accepts after frame = accepts channel frame := by
  rw [accepts, accepts, hreassembler, hsession]

theorem undisturbed_congr (hoptions : after.options = channel.options)
    (h : Undisturbed channel frame) : Undisturbed after frame where
  isNext := by
    intro pending hpending hkind
    rw [hreassembler] at hpending
    have hnext := h.isNext pending hpending hkind
    refine ⟨hnext.continues, ?_, ?_⟩
    · rw [hreassembler]
      exact hnext.room
    · rw [hsession]
      exact hnext.accepted
  noApdu := by
    rw [accepts_congr channel after frame hreassembler hsession, hoptions, hreassembler]
    exact h.noApdu

end Congruence

section Events

variable (log : Log) (answers : List Bytes) (used : UsedChannel)
  (huse : used.channel.options.hdlcUseSession = true) (h : Accounts log answers used.channel)
include huse h

/-- A read that is taken by a call. -/
theorem accounts_read (read : Except ProfileStatus Bytes) (hleaves : Leaves used (.read read)) :
    Accounts (log.step used (.read read))
      (answers ++ (answerOf (continueTask used.channel used.task read).result).toList)
      (continueTask used.channel used.task read).channel := by
  have hnever : renews used (.read read) = false := rfl
  by_cases hawaits : awaitsFrame used.channel used.task = true
  · -- The call takes the frame apart in the channel that the read has left.
    rcases used.channel.kept_nextFrame read with ⟨hoptions, hsession, hreassembler, hpending⟩
    have hread := h.congr log answers used.channel (used.channel.nextFrame read).2 hreassembler
      hpending
    rw [continueTask_of_awaits used.channel used.task read hawaits]
    cases hnext : (used.channel.nextFrame read).1 with
    | error status =>
        have hnone : handed used (.read read) = none := by
          rw [handed, if_pos hawaits, hnext]
        rw [Log.step, hnone, hnever]
        exact hread.passes _ _ _ _ (passes_continueWith_error _ _ _)
    | ok frame =>
        have hhanded : handed used (.read read) = frame := by
          rw [handed, if_pos hawaits, hnext]
        rw [Log.step, hhanded]
        cases frame with
        | none =>
            rw [hnever]
            exact hread.passes _ _ _ _ ⟨rfl, rfl⟩
        | some frame =>
            have hpasses := passes_continueWith (used.channel.nextFrame read).2 used.task frame
              (task_ne_idle_of_awaits used.channel used.task hawaits)
            refine Accounts.passes _ _ _ _ ?_ hpasses
            dsimp only
            rw [← accepts_congr used.channel _ frame hreassembler hsession]
            unfold taken
            by_cases hisReassembled : isReassembled used.task frame = true
            · rw [if_pos hisReassembled]
              refine accounts_decodeFrameToPendingApdu log answers _ frame ?_ hread ?_
              · rw [hoptions]
                exact huse
              · exact undisturbed_congr used.channel _ frame hreassembler hsession hoptions
                  (hleaves.frame frame hhanded hisReassembled)
            · rw [if_neg hisReassembled, if_neg fun hboth =>
                hisReassembled ((isReassembled_iff _ _).mpr (.inr hboth.1))]
              exact hread.congr _ _ _ _ rfl rfl
  · have hnone : handed used (.read read) = none := by
      rw [handed, if_neg hawaits]
    rw [Log.step, hnone, hnever]
    unfold continueTask
    cases htask : used.task with
    | idle => exact h.passes _ _ _ { channel := used.channel } ⟨rfl, rfl⟩
    | sendInformation sending =>
        rw [htask, awaitsFrame, Bool.not_eq_true', Bool.not_eq_false] at hawaits
        dsimp only
        rw [if_pos hawaits]
        exact h.passes _ _ _ _ (passes_sendSegment _ _ _)
    | receiveApdu => exact absurd (by rw [htask]; rfl) hawaits
    | awaitAnswer request attempt => exact absurd (by rw [htask]; rfl) hawaits
    | acceptDataLink => exact absurd (by rw [htask]; rfl) hawaits
    | acceptDisconnectDataLink => exact absurd (by rw [htask]; rfl) hawaits

/-- What an event leaves undisturbed stays in order. -/
theorem accounts_useStep (event : ChannelEvent) (hleaves : Leaves used event) :
    Accounts (log.step used event) (answers ++ (answerOf (useStep event used).1.1).toList)
      (useStep event used).2.channel := by
  have hsame : Accounts log (answers ++ []) used.channel := by
    rw [List.append_nil]
    exact h
  cases event with
  | openStream isOpen => exact hsame
  | lose => exact hsame
  | abandon => exact hsame
  | close isOpen =>
      have hnothing := h.assembled.symm.trans (hleaves.closed rfl)
      exact hsame.emptied log _ used.channel log _ hnothing rfl rfl (List.nil_sublist _)
  | read read => exact accounts_read log answers used huse h read hleaves
  | start call =>
      have hnone : handed used (.start call) = none := rfl
      unfold useStep
      dsimp only
      by_cases hidle : used.task = .idle
      · rw [if_pos hidle]
        cases hrenews : renews used (.start call) with
        | false =>
            rw [Log.step, hnone, hrenews]
            exact h.passes _ _ _ _ (passes_startOnStream used call huse hidle hrenews)
        | true =>
            rcases renewed_startOnStream used call hrenews with ⟨hempty, hpending, hanswer⟩
            rw [Log.step, hnone, hrenews, hanswer]
            exact hsame.emptied log _ used.channel { log with segments := [] } _ rfl rfl hempty
              (by rw [hpending])
      · have hnever : renews used (.start call) = false :=
          decide_eq_false fun hall => hidle hall.1
        rw [if_neg hidle, Log.step, hnone, hnever]
        exact hsame

end Events

/-! ### Runs -/

theorem logOf_append (history : List (Transition ChannelEvent (Option CallResult × Bytes)
    UsedChannel)) (t : Transition ChannelEvent (Option CallResult × Bytes) UsedChannel) :
    logOf (history ++ [t]) = (logOf history).step t.before t.input := by
  rw [logOf, List.foldl_append]
  rfl

theorem returned_append (history : List (Transition ChannelEvent (Option CallResult × Bytes)
    UsedChannel)) (t : Transition ChannelEvent (Option CallResult × Bytes) UsedChannel) :
    returned (history ++ [t]) = returned history ++ (answerOf t.output.1).toList := by
  rw [returned, List.filterMap_append, returned, List.filterMap_cons, List.filterMap_nil]
  cases answerOf t.output.1 with
  | none => rfl
  | some apdu => rfl

/-- A channel in session mode whose events leave its APDUs undisturbed returns
    payloads of what its session has accepted. -/
theorem faithful_run (options : ApduChannelOptions) (events : List ChannelEvent)
    (huse : options.hdlcUseSession = true)
    (hleaves : Admits useStep (fun _ used event => Leaves used event) [] events
      (newChannel options)) :
    Faithful (run useStep events (newChannel options)) := by
  have hstart : (newChannel options).channel.options = options ∧
      Accounts (logOf []) (returned []) (newChannel options).channel := by
    refine ⟨options_final options [], ?_⟩
    unfold newChannel HdlcProfileChannel.create
    cases makeHdlcSessionOptions options with
    | error status => exact ⟨rfl, List.Sublist.refl _⟩
    | ok sessionOptions => exact ⟨rfl, List.Sublist.refl _⟩
  have hrun := Machine.holds_of_step useStep
    (fun history used => used.channel.options = options ∧
      Accounts (logOf history) (returned history) used.channel)
    (fun _ used event => Leaves used event)
    (fun history used event hholds hevent => by
      rcases hholds with ⟨hoptions, haccounts⟩
      refine ⟨(options_useStep event used).trans hoptions, ?_⟩
      rw [logOf_append, returned_append]
      exact accounts_useStep _ _ used (by rw [hoptions]; exact huse) haccounts event hevent)
    events (newChannel options) hstart hleaves
  exact (List.sublist_append_left _ _).trans hrun.2.delivered

/-- A frame that the meter sends to the reader. -/
def meterFrame (segmented : Bool) (control : Hdlc.HdlcControl) (information : Bytes) :
    HdlcFrame where
  segmented := segmented
  destination := readerSession.clientAddress
  source := readerSession.serverAddress
  control := control
  information := information

/-- The reader connects and receives an APDU. -/
def receivingHistory (frames : List HdlcFrame) : List ChannelEvent :=
  [.openStream true, .start .connectDataLink,
   .read (.ok (frameBytes (meterFrame false Hdlc.ua [])))] ++
    frames.flatMap fun frame => [.start .receiveApdu, .read (.ok (frameBytes frame))]

/-- Two segments of an APDU. -/
def segmentedHistory : List ChannelEvent :=
  receivingHistory
    [meterFrame true (informationControl 0 0 false) [0xE6, 0xE7, 0x00, 0x42],
     meterFrame false (informationControl 1 0 true) [0x43]]

theorem leaves_segmentedHistory :
    Admits useStep (fun _ used event => Leaves used event) [] segmentedHistory
      (newChannel (readerOptions 65535)) := by
  decide +kernel

theorem faithful_run_segmentedHistory :
    Faithful (run useStep segmentedHistory (newChannel (readerOptions 65535))) :=
  faithful_run (readerOptions 65535) segmentedHistory rfl leaves_segmentedHistory

/-- A DISC with an information that looks like an LPDU. -/
def discHistory : List ChannelEvent :=
  receivingHistory [meterFrame false Hdlc.disc [0xE6, 0xE7, 0x00, 0x42]]

/-- A RR between two segments of an APDU. -/
def interruptedHistory : List ChannelEvent :=
  receivingHistory
    [meterFrame true (informationControl 0 0 false) [0xE6, 0xE7, 0x00, 0x42],
     meterFrame false (receiveReadyControl 0 false) [],
     meterFrame false (informationControl 1 0 true) [0xE6, 0xE7, 0x00, 0x43]]

/-- The first one returns what no information frame has brought, and the second one
    an APDU without its first segment, which has been acknowledged. -/
theorem not_faithful :
    ¬Faithful (run useStep discHistory (newChannel (readerOptions 65535))) ∧
      ¬Faithful (run useStep interruptedHistory (newChannel (readerOptions 65535))) := by
  decide +kernel

end Profile

end Dlms
