import Dlms.Codec.Receiver
import Dlms.Hdlc.Splitting
import Dlms.Profile.HdlcChannel

/-!
# Receiving APDUs on a stream

Calls that receive an APDU, one after the other. A turn takes a frame that has been
decoded already, or reads. What a frame does to a channel has nothing to do with
its decoder, and so a read is a piece for the decoder, whose frames are used by the
rest of the channel.

## Main definitions

* `hdlcReceiver`: The calls of a channel that receive.
* `bare`: A channel without what it has decoded.
* `useHdlcFrame`: What a frame does to it, and the APDU it brings.

## Theorems

* `decodeFrameToPendingApdu_with`: A frame has nothing to do with the decoder.
* `prompt_round`: A frame is found as soon as its last octet is there.
* `uses_hdlcReceiver`: A read is a piece for the decoder.
-/

namespace Dlms

namespace Profile

open Apdu (Bytes)
open Codec (Receiver Reception Reply consume drain)
open Codec.Receiver (waiting)
open Hdlc (HdlcCodecLimits HdlcFrame HdlcNoisePolicy HdlcStatus
  HdlcStreamDecoder)

/-! ### Calls on a stream -/

/-- What a turn of a call that receives comes to. -/
def replyOf (turn : Turn) : Reply Bytes × HdlcProfileChannel :=
  match turn.result with
  | none => (.wait, turn.channel)
  | some (.received (.ok apdu)) => (.returned apdu, turn.channel)
  | some _ => (.failed, turn.channel)

def hdlcReceiver : Receiver UInt8 Bytes HdlcProfileChannel where
  call := fun channel => replyOf (startCall channel .receiveApdu)
  ready := fun channel => !channel.pendingHdlcFrames.isEmpty
  goOn := fun data channel => replyOf (continueTask channel .receiveApdu (.ok data))

def hdlcGoesOn (status : HdlcStatus) : Bool := mapHdlcStatus status = .needMoreData

/-- A channel without what it has decoded. -/
def bare (channel : HdlcProfileChannel) : HdlcProfileChannel :=
  { channel with
    decoder := channel.decoder.reset
    pendingHdlcFrames := [] }

/-- What a frame does to a channel in which nothing waits, with the APDU that is
    returned. -/
def useHdlcFrame (frame : HdlcFrame) (channel : HdlcProfileChannel) :
    List Bytes × Option HdlcProfileChannel :=
  match channel.decodeFrameToPendingApdu frame with
  | (.error status, after, _) => ([], if status = .needMoreData then some after else none)
  | (.ok (), after, _) => (after.pendingApdus, some { after with pendingApdus := [] })

/-- The octets that wait in a channel in which no frame and no APDU waits. -/
structure StandsForHdlc (limits : HdlcCodecLimits) (noisePolicy : HdlcNoisePolicy)
    (buffer : Bytes) (state channel : HdlcProfileChannel) : Prop where
  decoder : channel.decoder =
    { limits := limits, noisePolicy := noisePolicy, buffer := buffer }
  frames : channel.pendingHdlcFrames = []
  apdus : channel.pendingApdus = []
  bare : bare channel = state

/-! ### What a frame does -/

section Frames

variable (channel : HdlcProfileChannel) (frame : HdlcFrame)

/-- A channel with another decoder and other frames that have been decoded. -/
def withDecoded (decoder : HdlcStreamDecoder) (frames : List HdlcFrame) : HdlcProfileChannel :=
  { channel with
    decoder := decoder
    pendingHdlcFrames := frames }

theorem bare_withDecoded (decoder : HdlcStreamDecoder) (frames : List HdlcFrame)
    (h : decoder.reset = channel.decoder.reset) :
    bare (withDecoded channel decoder frames) = bare channel := by
  unfold bare withDecoded
  dsimp only
  rw [h]

theorem decodeCompleteInformationToPendingApdu_with (decoder : HdlcStreamDecoder)
    (frames : List HdlcFrame) :
    (withDecoded channel decoder frames).decodeCompleteInformationToPendingApdu frame =
      ((channel.decodeCompleteInformationToPendingApdu frame).1,
        withDecoded (channel.decodeCompleteInformationToPendingApdu frame).2 decoder frames) := by
  unfold withDecoded HdlcProfileChannel.decodeCompleteInformationToPendingApdu
  rcases Llc.decodeLpdu frame.information false with status | ⟨header, lsdu⟩
  · rfl
  · dsimp only
    by_cases hlarge : channel.options.maximumApduSize ≠ 0 ∧
        lsdu.length > channel.options.maximumApduSize
    · rw [if_pos hlarge, if_pos hlarge]
    · rw [if_neg hlarge, if_neg hlarge]

/-- What a frame does has nothing to do with the decoder. -/
theorem decodeFrameToPendingApdu_with (decoder : HdlcStreamDecoder) (frames : List HdlcFrame) :
    (withDecoded channel decoder frames).decodeFrameToPendingApdu frame =
      ((channel.decodeFrameToPendingApdu frame).1,
        withDecoded (channel.decodeFrameToPendingApdu frame).2.1 decoder frames,
        (channel.decodeFrameToPendingApdu frame).2.2) := by
  unfold withDecoded HdlcProfileChannel.decodeFrameToPendingApdu
  dsimp only
  by_cases huse : (!channel.options.hdlcUseSession) = true
  · rw [if_pos huse, if_pos huse]
    by_cases hsegmented : frame.segmented = true
    · rw [if_pos hsegmented, if_pos hsegmented]
    · rw [if_neg hsegmented, if_neg hsegmented]
      have hdecoded := decodeCompleteInformationToPendingApdu_with channel frame decoder frames
      unfold withDecoded at hdecoded
      rw [hdecoded]
  · rw [if_neg huse, if_neg huse]
    rcases channel.reassembler.pushFrame frame with ⟨status | completed, reassembler⟩
    · dsimp only
      split_ifs
      · rfl
      · rcases channel.session.receiveFrame frame with ⟨refused | received, session⟩
        · rfl
        · dsimp only
          cases session.buildReceiveReadyFrame true with
          | error failed => rfl
          | ok frameBytes => rfl
    · dsimp only
      rcases channel.session.receiveFrame frame with ⟨refused | received, session⟩
      · rfl
      · dsimp only
        split_ifs
        · rfl
        · have hdecoded := decodeCompleteInformationToPendingApdu_with
            { channel with reassembler := reassembler, session := session } completed decoder
              frames
          unfold withDecoded at hdecoded
          rw [hdecoded]

theorem queue_decodeCompleteInformationToPendingApdu :
    ∃ apdu : Option Bytes,
      (channel.decodeCompleteInformationToPendingApdu frame).2.pendingApdus =
          channel.pendingApdus ++ apdu.toList ∧
        ∀ status, (channel.decodeCompleteInformationToPendingApdu frame).1 = .error status →
          apdu = none := by
  unfold HdlcProfileChannel.decodeCompleteInformationToPendingApdu
  rcases Llc.decodeLpdu frame.information false with status | ⟨header, lsdu⟩
  · exact ⟨none, (List.append_nil _).symm, fun _ _ => rfl⟩
  · dsimp only
    by_cases hlarge : channel.options.maximumApduSize ≠ 0 ∧
        lsdu.length > channel.options.maximumApduSize
    · rw [if_pos hlarge]
      exact ⟨none, (List.append_nil _).symm, fun _ _ => rfl⟩
    · rw [if_neg hlarge]
      refine ⟨some lsdu, rfl, fun status h => ?_⟩
      cases h

/-- A frame brings one APDU at most, and none if it fails. -/
theorem queue_decodeFrameToPendingApdu :
    ∃ apdu : Option Bytes,
      (channel.decodeFrameToPendingApdu frame).2.1.pendingApdus =
          channel.pendingApdus ++ apdu.toList ∧
        ∀ status, (channel.decodeFrameToPendingApdu frame).1 = .error status → apdu = none := by
  have hnothing (outcome : Except ProfileStatus Unit) (after : HdlcProfileChannel)
      (hqueue : after.pendingApdus = channel.pendingApdus) :
      ∃ apdu : Option Bytes, after.pendingApdus = channel.pendingApdus ++ apdu.toList ∧
        ∀ status, outcome = .error status → apdu = none :=
    ⟨none, hqueue.trans (List.append_nil _).symm, fun _ _ => rfl⟩
  unfold HdlcProfileChannel.decodeFrameToPendingApdu
  by_cases huse : (!channel.options.hdlcUseSession) = true
  · rw [if_pos huse]
    split_ifs
    · exact hnothing _ _ rfl
    · exact queue_decodeCompleteInformationToPendingApdu channel frame
  · rw [if_neg huse]
    rcases channel.reassembler.pushFrame frame with ⟨status | completed, reassembler⟩
    · dsimp only
      split_ifs
      · exact hnothing _ _ rfl
      · rcases channel.session.receiveFrame frame with ⟨refused | received, session⟩
        · exact hnothing _ _ rfl
        · dsimp only
          cases session.buildReceiveReadyFrame true with
          | error failed => exact hnothing _ _ rfl
          | ok frameBytes => exact hnothing _ _ rfl
    · dsimp only
      rcases channel.session.receiveFrame frame with ⟨refused | received, session⟩
      · exact hnothing _ _ rfl
      · dsimp only
        by_cases hempty : completed.information = []
        · rw [if_pos hempty]
          exact hnothing _ _ rfl
        · rw [if_neg hempty]
          exact queue_decodeCompleteInformationToPendingApdu
            { channel with reassembler := reassembler, session := session } completed

end Frames

/-! ### Turns -/

section Turns

variable (channel : HdlcProfileChannel) (frame : HdlcFrame) (more : List HdlcFrame)
  (later items : List Bytes)

/-- A turn with a frame that has been decoded already. -/
theorem turn_frame (hpending : channel.pendingHdlcFrames = frame :: more) :
    hdlcReceiver.turn (waiting channel later items) =
      (waiting channel later items).record (replyOf (continueWith
        (withDecoded (bare channel) channel.decoder more) .receiveApdu (.ok (some frame)))) := by
  have hready : hdlcReceiver.ready channel = true := by
    show (!channel.pendingHdlcFrames.isEmpty) = true
    rw [hpending]
    rfl
  have hgoOn : hdlcReceiver.goOn [] channel = replyOf (continueWith
      (withDecoded (bare channel) channel.decoder more) .receiveApdu (.ok (some frame))) := by
    simp only [hdlcReceiver, continueTask, HdlcProfileChannel.nextFrame, hpending]
    rfl
  simp [Receiver.turn, waiting, hready, hgoOn]

/-- The next call, when no APDU waits. -/
theorem call_of_nothing (hapdus : channel.pendingApdus = []) :
    hdlcReceiver.call channel = (.wait, channel) := by
  unfold hdlcReceiver startCall deliverApdu
  dsimp only
  rw [hapdus]
  rfl

/-- A call returns the APDU that waits, and the next one finds none. -/
theorem leads_deliverApdu (apdu : Option Bytes) (decoder : HdlcStreamDecoder)
    (after : HdlcProfileChannel) (written : Bytes) (hapdus : after.pendingApdus = apdu.toList) :
    hdlcReceiver.Leads
      ((waiting channel later items).record
        (replyOf (deliverApdu (withDecoded after decoder more) written)))
      (waiting (withDecoded { after with pendingApdus := [] } decoder more) later
        (items ++ after.pendingApdus)) := by
  rw [hapdus]
  cases apdu with
  | none =>
      have hdeliver : deliverApdu (withDecoded after decoder more) written =
          { channel := withDecoded after decoder more
            task := .receiveApdu
            written := written } := by
        rw [deliverApdu, show (withDecoded after decoder more).pendingApdus = [] from hapdus]
      rw [hdeliver, Option.toList_none, List.append_nil,
        show ({ after with pendingApdus := [] } : HdlcProfileChannel) = after by
          rw [← Option.toList_none, ← hapdus]]
      exact Receiver.Leads.refl hdlcReceiver _
  | some apdu =>
      have hdeliver : deliverApdu (withDecoded after decoder more) written =
          { channel := withDecoded { after with pendingApdus := [] } decoder more
            result := some (.received (.ok apdu))
            written := written } := by
        rw [deliverApdu, show (withDecoded after decoder more).pendingApdus = [apdu] from hapdus]
        rfl
      have hcall := call_of_nothing
        (withDecoded { after with pendingApdus := [] } decoder more) rfl
      rw [hdeliver]
      refine ⟨1, ?_⟩
      rw [Function.iterate_one, Receiver.turn]
      simp only [replyOf, Reception.record, waiting, Bool.false_eq_true, if_false,
        Bool.not_false, if_true, hcall]
      rfl

/-- The turns that a frame takes. -/
theorem leads_frame (hpending : channel.pendingHdlcFrames = frame :: more)
    (hapdus : channel.pendingApdus = []) :
    (∀ after, (useHdlcFrame frame (bare channel)).2 = some after →
      hdlcReceiver.Leads (hdlcReceiver.turn (waiting channel later items))
        (waiting (withDecoded after channel.decoder more) later
          (items ++ (useHdlcFrame frame (bare channel)).1)) ∧
      after.pendingApdus = [] ∧ bare after = after ∧
        after.decoder = channel.decoder.reset) ∧
    ((useHdlcFrame frame (bare channel)).2 = none →
      (hdlcReceiver.turn (waiting channel later items)).failed = true ∧
      (hdlcReceiver.turn (waiting channel later items)).items =
        items ++ (useHdlcFrame frame (bare channel)).1) := by
  have hbare : bare channel = withDecoded (bare channel) channel.decoder.reset [] := rfl
  have hqueue := queue_decodeFrameToPendingApdu (bare channel) frame
  have hdecoder := decodeFrameToPendingApdu_with (bare channel) frame channel.decoder.reset []
  have hframe := decodeFrameToPendingApdu_with (bare channel) frame channel.decoder more
  rw [← hbare] at hdecoder
  rw [turn_frame channel frame more later items hpending]
  rcases hdecode : (bare channel).decodeFrameToPendingApdu frame with ⟨outcome, after, written⟩
  rw [hdecode] at hqueue hdecoder hframe
  -- The frame leaves a channel without anything decoded as one.
  have hkept : after = withDecoded after channel.decoder.reset [] :=
    (Prod.mk.inj (Prod.mk.inj hdecoder).2).1
  have hsame : bare after = after := by
    rw [hkept]
    rfl
  have hreset : after.decoder = channel.decoder.reset := by
    rw [hkept]
    rfl
  rcases hqueue with ⟨apdu, happdus, hnone⟩
  rw [show (bare channel).pendingApdus = [] from hapdus, List.nil_append] at happdus
  dsimp only at happdus hnone hframe
  unfold continueWith useHdlcFrame
  rw [hdecode]
  dsimp only
  rw [hframe]
  rcases outcome with status | decoded
  · rw [hnone status rfl, Option.toList_none] at happdus
    dsimp only
    by_cases hmore : status = .needMoreData
    · rw [if_pos hmore, if_pos hmore]
      refine ⟨fun state hstate => ?_, fun hend => absurd hend (Option.some_ne_none _)⟩
      rw [← Option.some.inj hstate, List.append_nil]
      exact ⟨Receiver.Leads.refl hdlcReceiver _, happdus, hsame, hreset⟩
    · rw [if_neg hmore, if_neg hmore]
      refine ⟨fun state hstate => absurd hstate.symm (Option.some_ne_none _), fun _ => ?_⟩
      rw [List.append_nil]
      exact ⟨rfl, rfl⟩
  · dsimp only
    refine ⟨fun state hstate => ?_, fun hend => absurd hend (Option.some_ne_none _)⟩
    rw [← Option.some.inj hstate]
    refine ⟨leads_deliverApdu channel more later items apdu channel.decoder after written happdus,
      rfl, ?_, hreset⟩
    rw [hkept]
    rfl

/-- The turns that some frames take. The induction is on those behind the first. -/
theorem leads_frames (hpending : channel.pendingHdlcFrames = frame :: more)
    (hapdus : channel.pendingApdus = []) :
    (∀ after, (consume useHdlcFrame (frame :: more) (bare channel)).2 = some after →
      hdlcReceiver.Leads (hdlcReceiver.turn (waiting channel later items))
        (waiting (withDecoded after channel.decoder []) later
          (items ++ (consume useHdlcFrame (frame :: more) (bare channel)).1)) ∧
      after.pendingApdus = [] ∧ bare after = after ∧
        after.decoder = channel.decoder.reset) ∧
    ((consume useHdlcFrame (frame :: more) (bare channel)).2 = none →
      hdlcReceiver.Fails (hdlcReceiver.turn (waiting channel later items))
        (items ++ (consume useHdlcFrame (frame :: more) (bare channel)).1)) := by
  induction more generalizing channel frame items with
  | nil =>
      rcases leads_frame channel frame [] later items hpending hapdus with ⟨hsome, hnone⟩
      cases hused : (useHdlcFrame frame (bare channel)).2 with
      | none =>
          rw [Codec.consume_cons_of_none useHdlcFrame frame [] _ hused]
          exact ⟨fun after hafter => absurd hafter.symm (Option.some_ne_none _),
            fun _ => ⟨_, Receiver.Leads.refl hdlcReceiver _, hnone hused⟩⟩
      | some middle =>
          rw [Codec.consume_cons_of_some useHdlcFrame frame [] _ middle hused, consume,
            List.append_nil]
          refine ⟨fun after hafter => ?_, fun hend => absurd hend (Option.some_ne_none _)⟩
          rw [← Option.some.inj hafter]
          exact hsome middle hused
  | cons second more ih =>
      rcases leads_frame channel frame (second :: more) later items hpending hapdus with
        ⟨hsome, hnone⟩
      cases hused : (useHdlcFrame frame (bare channel)).2 with
      | none =>
          rw [Codec.consume_cons_of_none useHdlcFrame frame _ _ hused]
          exact ⟨fun after hafter => absurd hafter.symm (Option.some_ne_none _),
            fun _ => ⟨_, Receiver.Leads.refl hdlcReceiver _, hnone hused⟩⟩
      | some middle =>
          rcases hsome middle hused with ⟨hleads, hmiddle, hbare, hreset⟩
          have hsame : bare (withDecoded middle channel.decoder (second :: more)) = middle :=
            (bare_withDecoded middle _ _ (by rw [hreset]; rfl)).trans hbare
          have hrest := ih (withDecoded middle channel.decoder (second :: more)) second
            (items ++ (useHdlcFrame frame (bare channel)).1) rfl hmiddle
          have hnext := hleads.trans hdlcReceiver _ _ _ (Receiver.leads_turn hdlcReceiver _)
          rw [hsame] at hrest
          rw [Codec.consume_cons_of_some useHdlcFrame frame _ _ middle hused]
          constructor
          · intro after hafter
            rcases hrest.1 after hafter with ⟨hlast, hothers⟩
            rw [List.append_assoc] at hlast
            exact ⟨hnext.trans hdlcReceiver _ _ _ hlast, hothers⟩
          · intro hend
            rcases hrest.2 hend with ⟨after, hlast, hfailed, hitems⟩
            rw [List.append_assoc] at hitems
            exact ⟨after, hnext.trans hdlcReceiver _ _ _ hlast, hfailed, hitems⟩

variable (piece : Bytes) (hpiece : piece ≠ []) (hnone : channel.pendingHdlcFrames = [])
include hpiece hnone

omit hpiece in
theorem turn_hdlc :
    hdlcReceiver.turn (waiting channel (piece :: later) items) =
      (waiting channel later items).record (replyOf (continueWith
        (channel.receiveDecodedFrame (.ok piece)).2 .receiveApdu
        (channel.receiveDecodedFrame (.ok piece)).1)) := by
  have hready : hdlcReceiver.ready channel = false := by
    show (!channel.pendingHdlcFrames.isEmpty) = false
    rw [hnone]
    rfl
  have hgoOn : hdlcReceiver.goOn piece channel = replyOf (continueWith
      (channel.receiveDecodedFrame (.ok piece)).2 .receiveApdu
      (channel.receiveDecodedFrame (.ok piece)).1) := by
    simp [hdlcReceiver, continueTask, HdlcProfileChannel.nextFrame, hnone]
  simp [Receiver.turn, waiting, hready, hgoOn]

/-- The frames of a read are frames that have been decoded already. -/
theorem turn_hdlc_frames (decoder : HdlcStreamDecoder)
    (hpush : channel.decoder.push piece = (.ok (), frame :: more, decoder)) :
    hdlcReceiver.turn (waiting channel (piece :: later) items) =
      hdlcReceiver.turn (waiting (withDecoded channel decoder (frame :: more)) later items) := by
  rw [turn_hdlc channel later items piece hnone,
    turn_frame (withDecoded channel decoder (frame :: more)) frame more later items rfl]
  cases piece with
  | nil => exact absurd rfl hpiece
  | cons first piece =>
      simp only [HdlcProfileChannel.receiveDecodedFrame, hpush, hnone, List.nil_append]
      rfl

/-- A read that brings no frame fails, or the call reads on. -/
theorem turn_hdlc_error (status : HdlcStatus) (frames : List HdlcFrame)
    (decoder : HdlcStreamDecoder)
    (hpush : channel.decoder.push piece = (.error status, frames, decoder)) :
    hdlcReceiver.turn (waiting channel (piece :: later) items) =
      (waiting channel later items).record
        (if mapHdlcStatus status = .needMoreData then (.wait, withDecoded channel decoder [])
        else (.failed, withDecoded channel decoder.reset [])) := by
  rw [turn_hdlc channel later items piece hnone]
  cases piece with
  | nil => exact absurd rfl hpiece
  | cons first piece =>
      simp only [HdlcProfileChannel.receiveDecodedFrame, hpush]
      by_cases hmore : mapHdlcStatus status = .needMoreData
      · rw [if_pos hmore, if_pos hmore, withDecoded, ← hnone]
        rfl
      · rw [if_neg hmore, if_neg hmore, withDecoded, ← hnone]
        rfl

end Turns

/-! ### The decoder -/

section Decoder

variable (limits : HdlcCodecLimits) (noisePolicy : HdlcNoisePolicy)

/-- A frame is found as soon as its last octet is there. -/
theorem prompt_round : Codec.Prompt (HdlcStreamDecoder.round limits noisePolicy) := by
  intro buffer frame rest h
  unfold HdlcStreamDecoder.round at h
  dsimp only at h
  split_ifs at h with hreported
  have hsplit := List.takeWhile_append_dropWhile (p := (· != Hdlc.hdlcFlag)) (l := buffer)
  have hnoise := HdlcStreamDecoder.noise_of_round noisePolicy buffer hreported
  rcases HdlcStreamDecoder.decodeFrame_of_judge limits _ rest frame h with ⟨hframe, hrest⟩
  rcases HdlcStreamDecoder.judge_of_decodeFrame limits _ [] frame hframe with ⟨hflag, hfound⟩
  rw [List.append_nil] at hfound
  refine ⟨buffer.takeWhile (· != Hdlc.hdlcFlag) ++
    (buffer.dropWhile (· != Hdlc.hdlcFlag)).take
      (Hdlc.announcedSize (buffer.dropWhile (· != Hdlc.hdlcFlag))), ?_, ?_⟩
  · rw [hrest, List.append_assoc, List.take_append_drop, hsplit]
  · rw [HdlcStreamDecoder.round_of_noise limits noisePolicy _ _ hnoise hflag, hfound]

section Stands

variable (buffer : Bytes) (state channel : HdlcProfileChannel)
  (h : StandsForHdlc limits noisePolicy buffer state channel)
  (piece : Bytes) (hpiece : piece ≠ []) (later items : List Bytes) (found : List HdlcFrame)
include h hpiece

/-- A read without a refusal. -/
theorem leads_hdlc_kept (kept : Bytes)
    (hdrain : drain (HdlcStreamDecoder.round limits noisePolicy) (buffer ++ piece) =
      (found, .ok kept)) :
    (∀ after, (consume useHdlcFrame found state).2 = some after →
      ∃ channel', StandsForHdlc limits noisePolicy kept after channel' ∧
        hdlcReceiver.Leads (waiting channel (piece :: later) items)
          (waiting channel' later (items ++ (consume useHdlcFrame found state).1))) ∧
    ((consume useHdlcFrame found state).2 = none →
      hdlcReceiver.Fails (waiting channel (piece :: later) items)
        (items ++ (consume useHdlcFrame found state).1)) := by
  have hpush : channel.decoder.push piece = (HdlcStreamDecoder.pushStatus found, found,
      { limits := limits, noisePolicy := noisePolicy, buffer := kept }) := by
    rw [HdlcStreamDecoder.push_eq, h.decoder, hdrain]
    rfl
  rw [← h.bare]
  cases found with
  | nil =>
      have hturn := turn_hdlc_error channel later items piece hpiece h.frames _ _ _ hpush
      rw [if_pos (by rfl)] at hturn
      refine ⟨fun after hafter => ?_, fun hend => absurd hend (Option.some_ne_none _)⟩
      rw [← Option.some.inj hafter, consume, List.append_nil]
      exact ⟨withDecoded channel _ [], ⟨rfl, rfl, h.apdus,
        bare_withDecoded channel _ _ (by rw [h.decoder]; rfl)⟩, 1, hturn⟩
  | cons frame more =>
      have hturn := turn_hdlc_frames channel frame more later items piece hpiece h.frames _ hpush
      rcases leads_frames (withDecoded channel
        { limits := limits, noisePolicy := noisePolicy, buffer := kept } (frame :: more)) frame more
        later items rfl h.apdus with ⟨hsome, hnone⟩
      have hsame : bare (withDecoded channel
          { limits := limits, noisePolicy := noisePolicy, buffer := kept } (frame :: more)) =
            bare channel :=
        bare_withDecoded channel _ _ (by rw [h.decoder]; rfl)
      have hfirst := Receiver.leads_turn hdlcReceiver (waiting channel (piece :: later) items)
      rw [hsame, ← hturn] at hsome hnone
      constructor
      · intro after hafter
        rcases hsome after hafter with ⟨hleads, happdus, hbare, hreset⟩
        refine ⟨withDecoded after
          { limits := limits, noisePolicy := noisePolicy, buffer := kept } [],
          ⟨rfl, rfl, happdus, ?_⟩, hfirst.trans hdlcReceiver _ _ _ hleads⟩
        exact (bare_withDecoded after _ _ (by rw [hreset]; rfl)).trans hbare
      · intro hend
        rcases hnone hend with ⟨after, hleads, hfailed⟩
        exact ⟨after, hfirst.trans hdlcReceiver _ _ _ hleads, hfailed⟩

/-- A read in which something is refused. -/
theorem turn_hdlc_refused (cause : HdlcStatus)
    (hdrain : drain (HdlcStreamDecoder.round limits noisePolicy) (buffer ++ piece) =
      (found, .error cause)) :
    hdlcReceiver.turn (waiting channel (piece :: later) items) =
      (waiting channel later items).record
        (if mapHdlcStatus cause = .needMoreData then
          (.wait, withDecoded channel { limits := limits, noisePolicy := noisePolicy } [])
        else
          (.failed,
            withDecoded channel { limits := limits, noisePolicy := noisePolicy } [])) := by
  have hpush : channel.decoder.push piece =
      (.error cause, found, { limits := limits, noisePolicy := noisePolicy }) := by
    rw [HdlcStreamDecoder.push_eq, h.decoder, hdrain]
    rfl
  exact turn_hdlc_error channel later items piece hpiece h.frames _ _ _ hpush

end Stands

/-- A read is a piece for the decoder of a channel, whose frames are used by the rest
    of it. -/
theorem uses_hdlcReceiver :
    hdlcReceiver.Uses (HdlcStreamDecoder.round limits noisePolicy) hdlcGoesOn useHdlcFrame
      (StandsForHdlc limits noisePolicy) where
  unready := by
    intro buffer state channel h
    show (!channel.pendingHdlcFrames.isEmpty) = false
    rw [h.frames]
    rfl
  kept := by
    intro buffer state channel piece later items found kept after h hpiece hdrain hafter
    exact (leads_hdlc_kept limits noisePolicy buffer state channel h piece hpiece later items found
      kept hdrain).1 after hafter
  ended := by
    intro buffer state channel piece later items found kept h hpiece hdrain hend
    exact (leads_hdlc_kept limits noisePolicy buffer state channel h piece hpiece later items found
      kept hdrain).2 hend
  recovered := by
    intro buffer state channel piece later items found cause h hpiece hdrain hrecovers
    refine ⟨withDecoded channel { limits := limits, noisePolicy := noisePolicy } [],
      ⟨rfl, rfl, h.apdus, ?_⟩, 1, ?_⟩
    · exact (bare_withDecoded channel _ _ (by rw [h.decoder]; rfl)).trans h.bare
    · rw [Function.iterate_one, turn_hdlc_refused limits noisePolicy buffer state channel h piece
        hpiece later items found cause hdrain, if_pos (of_decide_eq_true hrecovers)]
      rfl
  refused := by
    intro buffer state channel piece later items found cause h hpiece hdrain hrecovers
    refine ⟨_, ⟨1, rfl⟩, ?_⟩
    rw [Function.iterate_one, turn_hdlc_refused limits noisePolicy buffer state channel h piece
      hpiece later items found cause hdrain, if_neg (of_decide_eq_false hrecovers)]
    exact ⟨rfl, rfl⟩

end Decoder

end Profile

end Dlms
