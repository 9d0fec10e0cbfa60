import Dlms.Profile.HdlcReceiving
import Dlms.Profile.HdlcReopen
import Dlms.Profile.WrapperChannel

/-!
# Channels and the reads of their streams

A stream is read in pieces, and where they end is up to the network. What the
calls of a channel return should not depend on it.

It does where a piece holds complete frames in front of a malformed one: the
decoder has both, and the channel returns the failure and forgets the frames. In
two pieces the frames are returned before the failure.

## Main definitions

* `emptied`: A channel in which nothing waits.

## Theorems

* `sameApdus_iff`: When the APDUs do not depend on the reads, for both channels.
* `not_sameApdus`: A frame and a malformed one.
-/

namespace Dlms

namespace Profile

open Apdu (Bytes)
open Codec (Undropped drain)
open Hdlc (HdlcFrame HdlcStreamDecoder frameBytes)
open Wrapper.WrapperStreamDecoder (wrapperRound)

/-- A channel in which nothing waits, whatever its session has been through. -/
def HdlcProfileChannel.emptied (channel : HdlcProfileChannel) : HdlcProfileChannel :=
  { channel with
    decoder := channel.decoder.reset
    pendingHdlcFrames := []
    pendingApdus := [] }

theorem hdlcSame_iff (channel : HdlcProfileChannel) (octets : Bytes) :
    hdlcReceiver.SameHowever channel.emptied octets ↔
      Undropped (HdlcStreamDecoder.round channel.decoder.limits channel.decoder.noisePolicy)
        hdlcGoesOn useHdlcFrame channel.emptied octets :=
  Codec.Receiver.sameHowever_iff hdlcReceiver _ hdlcGoesOn useHdlcFrame _
    (uses_hdlcReceiver channel.decoder.limits channel.decoder.noisePolicy) channel.emptied
    channel.emptied channel.emptied (call_of_nothing channel.emptied rfl) ⟨rfl, rfl, rfl, rfl⟩
    (Hdlc.HdlcStreamDecoder.incremental_round _ _) (prompt_round _ _) octets

theorem wrapperSame_iff (channel : WrapperTcpProfileChannel) (octets : Bytes) :
    wrapperReceiver.SameHowever channel.close octets ↔
      ∀ frames status, drain (wrapperRound channel.decoder.limits) octets =
        (frames, .error status) → frames = [] := by
  rw [← undropped_wrapper_iff]
  exact Codec.Receiver.sameHowever_iff wrapperReceiver _ wrapperGoesOn useWrapperFrame _
    (uses_wrapperReceiver channel.decoder.limits) channel.close channel.close () rfl ⟨rfl, rfl⟩
    (Wrapper.WrapperStreamDecoder.incremental_wrapperRound _)
    (Wrapper.WrapperStreamDecoder.prompt_wrapperRound _) octets

/-- The APDUs that a channel returns up to the first failure do not depend on the
    reads exactly when no APDU comes of frames in front of a malformed one, nor, with
    HDLC, of what is behind a frame whose source is cut off. -/
theorem sameApdus_iff (channel : HdlcProfileChannel) (wrapperChannel : WrapperTcpProfileChannel)
    (octets : Bytes) :
    (hdlcReceiver.SameHowever channel.emptied octets ↔
      Undropped (HdlcStreamDecoder.round channel.decoder.limits channel.decoder.noisePolicy)
        hdlcGoesOn useHdlcFrame channel.emptied octets) ∧
    (wrapperReceiver.SameHowever wrapperChannel.close octets ↔
      ∀ frames status, drain (wrapperRound wrapperChannel.decoder.limits) octets =
        (frames, .error status) → frames = []) :=
  ⟨hdlcSame_iff channel octets, wrapperSame_iff wrapperChannel octets⟩

theorem accepted_plainControl : Hdlc.isControl 0x10 = true := by decide

/-- A frame with an APDU of one octet, for a channel without a session. -/
def plainFrame : HdlcFrame where
  segmented := false
  destination := HdlcProfileChannel.defaultSessionOptions.clientAddress
  source := HdlcProfileChannel.defaultSessionOptions.serverAddress
  control := { rawValue := 0x10, accepted := accepted_plainControl }
  information := [0xE6, 0xE7, 0x00, 0x42]

/-- A wrapper frame with an APDU of one octet. -/
def plainWpdu : Bytes := [0x00, 0x01, 0x00, 0x01, 0x00, 0x10, 0x00, 0x01, 0x42]

/-- Behind the frame there is the start of one of another format, or a header of
    another version. -/
theorem not_sameApdus :
    ¬hdlcReceiver.SameHowever (HdlcProfileChannel.create {}).emptied
        (frameBytes plainFrame ++ [0x7E, 0x00, 0x00]) ∧
      ¬wrapperReceiver.SameHowever (WrapperTcpProfileChannel.create {}).close
        (plainWpdu ++ [0x00, 0x02, 0x00, 0x01, 0x00, 0x10, 0x00, 0x00]) := by
  constructor
  · rw [hdlcSame_iff]
    intro hundropped
    have hnothing := (hundropped (frameBytes plainFrame ++ [0x7E, 0x00, 0x00]) [] [plainFrame]
      .invalidFrameFormat (List.append_nil _).symm (by decide +kernel)).1
    exact absurd hnothing (by decide +kernel)
  · rw [wrapperSame_iff]
    intro hnone
    have hnothing := hnone
      [{ sourcePort := 1, destinationPort := 0x10, data := [0x42] }] .invalidVersion
      (by decide +kernel)
    exact absurd hnothing (List.cons_ne_nil _ _)

end Profile

end Dlms
