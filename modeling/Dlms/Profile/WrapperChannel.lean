import Dlms.Codec.Receiver
import Dlms.Profile.HdlcChannel
import Dlms.Wrapper.StreamDecoder

/-!
# The wrapper profile channel

A channel receives APDUs in wrapper frames. Frames that have been decoded together
with an earlier one wait for the next calls.

## Main definitions

* `WrapperTcpProfileChannel`: What a channel keeps.
* `receiveNextFrame`: What one read brings.
* `wrapperReceiver`: Its calls on a stream.

## Theorems

* `uses_wrapperReceiver`: A read is a piece for its decoder.
* `undropped_wrapper_iff`: Only frames in front of a malformed one may be lost.
-/

namespace Dlms

namespace Profile

open Apdu (Bytes)
open Codec (Receiver Reply Undropped consume drain)
open Codec.Receiver (waiting)
open Wrapper (WrapperCodecLimits WrapperFrameBuffer WrapperStatus WrapperStreamDecoder
  defaultWrapperCodecLimits wrapperHeaderSize)
open Wrapper.WrapperStreamDecoder (wrapperRound)

def mapWrapperStatus (status : WrapperStatus) : ProfileStatus :=
  match status with
  | .needMoreData => .needMoreData
  | .outputBufferTooSmall => .outputBufferTooSmall
  | .invalidArgument => .invalidArgument
  | .invalidVersion | .invalidSourcePort | .invalidDestinationPort => .invalidFrame
  | .invalidLength => .invalidLength
  | .dataTooLarge | .frameTooLarge => .payloadTooLarge
  | .unsupportedFeature => .unsupportedFeature
  | .internalError => .internalError

def makeWrapperLimits (options : ApduChannelOptions) : WrapperCodecLimits :=
  if options.maximumApduSize ≠ 0 ∧
      options.maximumApduSize < defaultWrapperCodecLimits.maximumDataSize then
    { maximumDataSize := options.maximumApduSize
      maximumFrameSize := wrapperHeaderSize + options.maximumApduSize }
  else defaultWrapperCodecLimits

structure WrapperTcpProfileChannel where
  options : ApduChannelOptions
  wrapperLimits : WrapperCodecLimits
  decoder : WrapperStreamDecoder
  /-- Frames that wait to be returned. -/
  pendingFrames : List WrapperFrameBuffer := []
  deriving DecidableEq

namespace WrapperTcpProfileChannel

def create (options : ApduChannelOptions) : WrapperTcpProfileChannel where
  options := options
  wrapperLimits := makeWrapperLimits options
  decoder := { limits := makeWrapperLimits options }

variable (channel : WrapperTcpProfileChannel)

def close : WrapperTcpProfileChannel :=
  { channel with
    decoder := channel.decoder.reset
    pendingFrames := [] }

/-- What one read brings: frames, a failure, or not enough so that it reads on. -/
def receiveNextFrame (read : Except ProfileStatus Bytes) :
    Option (Except ProfileStatus Unit) × WrapperTcpProfileChannel :=
  match read with
  | .error status => (some (.error status), channel)
  | .ok [] => (some (.error .needMoreData), channel)
  | .ok data =>
      let (pushed, frames, decoder) := channel.decoder.push data
      let channel := { channel with decoder := decoder }
      match pushed with
      | .ok () =>
          (some (.ok ()), { channel with pendingFrames := channel.pendingFrames ++ frames })
      | .error status =>
          if mapWrapperStatus status = .needMoreData then (none, channel)
          else
            (some (.error (mapWrapperStatus status)),
              { channel with decoder := channel.decoder.reset })

/-- The first frame that waits is received; without one the call reads. -/
def deliverFrame : Reply Bytes × WrapperTcpProfileChannel :=
  match channel.pendingFrames with
  | [] => (.wait, channel)
  | frame :: later => (.returned frame.data, { channel with pendingFrames := later })

def receiveApdu (read : Except ProfileStatus Bytes) : Reply Bytes × WrapperTcpProfileChannel :=
  match channel.receiveNextFrame read with
  | (none, channel) => (.wait, channel)
  | (some (.error _), channel) => (.failed, channel)
  | (some (.ok ()), channel) => channel.deliverFrame

end WrapperTcpProfileChannel

/-! ### Calls on a stream -/

def wrapperReceiver : Receiver UInt8 Bytes WrapperTcpProfileChannel where
  call := WrapperTcpProfileChannel.deliverFrame
  ready := fun _ => false
  goOn := fun data channel => channel.receiveApdu (.ok data)

/-- Every frame is returned as an APDU. -/
def useWrapperFrame (frame : WrapperFrameBuffer) (_ : Unit) : List Bytes × Option Unit :=
  ([frame.data], some ())

def wrapperGoesOn (status : WrapperStatus) : Bool := mapWrapperStatus status = .needMoreData

/-- The octets that wait in a channel in which no frame waits. -/
structure StandsForWrapper (limits : WrapperCodecLimits) (buffer : Bytes) (state : Unit)
    (channel : WrapperTcpProfileChannel) : Prop where
  decoder : channel.decoder = { limits := limits, buffer := buffer }
  pending : channel.pendingFrames = []

theorem consume_useWrapperFrame (frames : List WrapperFrameBuffer) :
    consume useWrapperFrame frames () = (frames.map fun frame => frame.data, some ()) := by
  induction frames with
  | nil => rfl
  | cons frame frames ih =>
      rw [Codec.consume_cons_of_some useWrapperFrame frame frames () () rfl, ih]
      rfl

/-- The frames that wait are returned one after the other. -/
theorem leads_pendingFrames (frames : List WrapperFrameBuffer)
    (channel : WrapperTcpProfileChannel) (later : List Bytes) (items : List Bytes)
    (hpending : channel.pendingFrames = frames) :
    wrapperReceiver.Leads { channel := channel, reads := later, items := items }
      (waiting { channel with pendingFrames := [] } later
        (items ++ frames.map fun frame => frame.data)) := by
  induction frames generalizing channel items with
  | nil =>
      refine ⟨1, ?_⟩
      have hcall : channel.deliverFrame = (.wait, channel) := by
        rw [WrapperTcpProfileChannel.deliverFrame, hpending]
      rw [Function.iterate_one, Receiver.turn]
      simp only [Bool.false_eq_true, if_false, Bool.not_false, if_true, wrapperReceiver, hcall]
      rw [List.map_nil, List.append_nil, ← hpending]
      rfl
  | cons frame frames ih =>
      have hcall : channel.deliverFrame =
          (.returned frame.data, { channel with pendingFrames := frames }) := by
        rw [WrapperTcpProfileChannel.deliverFrame, hpending]
      have hrest := ih { channel with pendingFrames := frames } (items ++ [frame.data]) rfl
      rw [List.append_assoc, List.singleton_append] at hrest
      refine Receiver.Leads.trans wrapperReceiver _ _ _ ⟨1, ?_⟩ hrest
      rw [Function.iterate_one, Receiver.turn]
      simp only [Bool.false_eq_true, if_false, Bool.not_false, if_true, wrapperReceiver, hcall]
      rfl

/-- A turn that reads. -/
theorem turn_wrapper (channel : WrapperTcpProfileChannel) (piece : Bytes) (later : List Bytes)
    (items : List Bytes) :
    wrapperReceiver.turn (waiting channel (piece :: later) items) =
      (waiting channel later items).record (channel.receiveApdu (.ok piece)) := by
  simp [Receiver.turn, waiting, wrapperReceiver]

section Reads

variable (channel : WrapperTcpProfileChannel) (piece : Bytes) (hpiece : piece ≠ [])
include hpiece

/-- Frames that a read brings are returned. -/
theorem receiveApdu_of_ok (frames : List WrapperFrameBuffer) (decoder : WrapperStreamDecoder)
    (hpush : channel.decoder.push piece = (.ok (), frames, decoder)) :
    channel.receiveApdu (.ok piece) =
      WrapperTcpProfileChannel.deliverFrame
        { channel with
          decoder := decoder
          pendingFrames := channel.pendingFrames ++ frames } := by
  cases piece with
  | nil => exact absurd rfl hpiece
  | cons first piece =>
      simp [WrapperTcpProfileChannel.receiveApdu, WrapperTcpProfileChannel.receiveNextFrame, hpush]

/-- A read that brings none fails, or the call reads on. -/
theorem receiveApdu_of_error (status : WrapperStatus) (frames : List WrapperFrameBuffer)
    (decoder : WrapperStreamDecoder)
    (hpush : channel.decoder.push piece = (.error status, frames, decoder)) :
    channel.receiveApdu (.ok piece) =
      if mapWrapperStatus status = .needMoreData then (.wait, { channel with decoder := decoder })
      else (.failed, { channel with decoder := decoder.reset }) := by
  cases piece with
  | nil => exact absurd rfl hpiece
  | cons first piece =>
      simp only [WrapperTcpProfileChannel.receiveApdu, WrapperTcpProfileChannel.receiveNextFrame,
        hpush]
      split_ifs
      · rfl
      · rfl

end Reads

section Stands

variable (limits : WrapperCodecLimits) (buffer : Bytes) (state : Unit)
  (channel : WrapperTcpProfileChannel) (h : StandsForWrapper limits buffer state channel)
  (piece : Bytes) (hpiece : piece ≠ []) (later items : List Bytes)
  (found : List WrapperFrameBuffer)
include h hpiece

/-- A read without a refusal. -/
theorem leads_wrapper_kept (kept : Bytes)
    (hdrain : drain (wrapperRound limits) (buffer ++ piece) = (found, .ok kept)) :
    ∃ channel', StandsForWrapper limits kept () channel' ∧
      wrapperReceiver.Leads (waiting channel (piece :: later) items)
        (waiting channel' later (items ++ (consume useWrapperFrame found ()).1)) := by
  have hpush : channel.decoder.push piece =
      (WrapperStreamDecoder.pushStatus found, found, { limits := limits, buffer := kept }) := by
    rw [WrapperStreamDecoder.push_eq, h.decoder, hdrain]
    rfl
  refine ⟨{ channel with
      decoder := { limits := limits, buffer := kept }
      pendingFrames := [] }, ⟨rfl, rfl⟩, ?_⟩
  rw [consume_useWrapperFrame]
  cases found with
  | nil =>
      have hturn := receiveApdu_of_error channel piece hpiece _ _ _ hpush
      rw [if_pos (by rfl)] at hturn
      refine ⟨1, ?_⟩
      rw [Function.iterate_one, turn_wrapper, hturn, List.map_nil, List.append_nil, ← h.pending]
      rfl
  | cons frame frames =>
      -- The first frame is returned by this call, the others by those after it.
      have hturn := receiveApdu_of_ok channel piece hpiece _ _ hpush
      rw [h.pending, List.nil_append, WrapperTcpProfileChannel.deliverFrame] at hturn
      dsimp only at hturn
      have hrest := leads_pendingFrames frames
        { channel with
          decoder := { limits := limits, buffer := kept }
          pendingFrames := frames } later (items ++ [frame.data]) rfl
      rw [List.append_assoc, List.singleton_append] at hrest
      rw [List.map_cons]
      refine Receiver.Leads.trans wrapperReceiver _ _ _ ⟨1, ?_⟩ hrest
      rw [Function.iterate_one, turn_wrapper, hturn]
      rfl

/-- A read in which something is refused. -/
theorem turn_wrapper_error (cause : WrapperStatus)
    (hdrain : drain (wrapperRound limits) (buffer ++ piece) = (found, .error cause)) :
    wrapperReceiver.turn (waiting channel (piece :: later) items) =
      (waiting channel later items).record
        (if mapWrapperStatus cause = .needMoreData then
          (.wait, { channel with decoder := { limits := limits } })
        else (.failed, { channel with decoder := { limits := limits } })) := by
  have hpush : channel.decoder.push piece = (.error cause, found, { limits := limits }) := by
    rw [WrapperStreamDecoder.push_eq, h.decoder, hdrain]
    rfl
  rw [turn_wrapper, receiveApdu_of_error channel piece hpiece _ _ _ hpush]
  rfl

end Stands

/-- A read is a piece for the decoder of a channel, whose frames are returned. -/
theorem uses_wrapperReceiver (limits : WrapperCodecLimits) :
    wrapperReceiver.Uses (wrapperRound limits) wrapperGoesOn useWrapperFrame
      (StandsForWrapper limits) where
  unready := fun _ _ _ _ => rfl
  kept := by
    intro buffer state channel piece later items found kept after h hpiece hdrain _
    exact leads_wrapper_kept limits buffer state channel h piece hpiece later items found kept
      hdrain
  ended := by
    intro buffer state channel piece later items found kept _ _ _ hnone
    rw [consume_useWrapperFrame] at hnone
    exact absurd hnone (Option.some_ne_none _)
  recovered := by
    intro buffer state channel piece later items found cause h hpiece hdrain hrecovers
    refine ⟨{ channel with decoder := { limits := limits } }, ⟨rfl, h.pending⟩, 1, ?_⟩
    rw [Function.iterate_one, turn_wrapper_error limits buffer state channel h piece hpiece later
      items found cause hdrain, if_pos (of_decide_eq_true hrecovers)]
    rfl
  refused := by
    intro buffer state channel piece later items found cause h hpiece hdrain hrecovers
    refine ⟨_, ⟨1, rfl⟩, ?_⟩
    rw [Function.iterate_one, turn_wrapper_error limits buffer state channel h piece hpiece later
      items found cause hdrain, if_neg (of_decide_eq_false hrecovers)]
    exact ⟨rfl, rfl⟩

/-! ### What may be lost -/

/-- A round never refuses octets for want of others. -/
theorem wrapperGoesOn_eq_false (limits : WrapperCodecLimits) (octets : Bytes)
    (cause : WrapperStatus) (h : wrapperRound limits octets = .refused cause) :
    wrapperGoesOn cause = false := by
  rw [WrapperStreamDecoder.wrapperRound_eq] at h
  split_ifs at h
  all_goals
    rw [← Codec.Verdict.refused.inj h]
    rfl

/-- Only frames in front of a malformed one may be lost. -/
theorem undropped_wrapper_iff (limits : WrapperCodecLimits) (octets : Bytes) :
    Undropped (wrapperRound limits) wrapperGoesOn useWrapperFrame () octets ↔
      ∀ frames status, drain (wrapperRound limits) octets = (frames, .error status) →
        frames = [] := by
  have hincremental := WrapperStreamDecoder.incremental_wrapperRound limits
  constructor
  · intro hundropped frames status hrefused
    have hnothing := (hundropped octets [] frames status (List.append_nil octets).symm hrefused).1
    rw [consume_useWrapperFrame] at hnothing
    exact List.map_eq_nil_iff.mp hnothing
  · rintro hnone before behind frames status rfl hrefused
    have hfirst := hnone frames status
      (Codec.drain_append_refused _ hincremental before behind frames status hrefused)
    rcases Codec.refused_of_drain _ hincremental before frames status hrefused with
      ⟨later, hlater⟩
    refine ⟨by rw [hfirst]; rfl, fun hrecovers => ?_⟩
    rw [wrapperGoesOn_eq_false limits later status hlater] at hrecovers
    exact absurd hrecovers Bool.false_ne_true

end Profile

end Dlms
