import Dlms.Hdlc.Buffers
import Dlms.Hdlc.Segmentation

/-!
# Limits that come to the same

A limit of zero stands for a size of its own. Whether that size is written or
zero, whatever is done between the limits is the same, and only a decoder or a
reassembler tells the two apart, because it keeps the limits it was given.

## Main definitions

* `SameLimits`: Two limits stand for the same sizes.

## Theorems

* `encodeFrameToBuffer_same`, `readFrame_same`, `decodeFrame_same`: The codec
  does the same between them.
* `HdlcStreamDecoder.push_same`, `HdlcReassembler.pushFrame_same`: So does what
  keeps them.
-/

namespace Dlms

namespace Hdlc

/-- Two limits that stand for the same sizes. -/
structure SameLimits (limits other : HdlcCodecLimits) : Prop where
  frame : effectiveMaximumFrameSize limits = effectiveMaximumFrameSize other
  information : limits.maximumInformationFieldSize = other.maximumInformationFieldSize
  reassembled : effectiveMaximumReassembledInformationSize limits =
    effectiveMaximumReassembledInformationSize other

section Same

variable (limits other : HdlcCodecLimits) (h : SameLimits limits other)
include h

theorem effectiveMaximumInformationFieldSize_same (frame : HdlcFrame) :
    effectiveMaximumInformationFieldSize frame limits =
      effectiveMaximumInformationFieldSize frame other := by
  unfold effectiveMaximumInformationFieldSize
  rw [h.frame, h.information]

theorem encodeFrameToBuffer_same (frame : HdlcFrame) (outputSize : Nat) :
    encodeFrameToBuffer frame limits outputSize = encodeFrameToBuffer frame other outputSize := by
  unfold encodeFrameToBuffer
  rw [h.frame, effectiveMaximumInformationFieldSize_same limits other h]

theorem readFrame_same (input : Bytes) : readFrame input limits = readFrame input other := by
  unfold readFrame
  rw [h.frame]

theorem checkInformation_same (frame : HdlcFrame) :
    checkInformation limits frame = checkInformation other frame := by
  unfold checkInformation
  rw [effectiveMaximumInformationFieldSize_same limits other h]

theorem decodeFrame_same (input : Bytes) : decodeFrame input limits = decodeFrame input other := by
  rw [decodeFrame_eq, decodeFrame_eq, readFrame_same limits other h,
    funext (checkInformation_same limits other h)]

end Same

/-! ### What keeps its limits -/

namespace HdlcStreamDecoder

/-- The rounds take the same frames, and only the limits that are kept differ. -/
theorem extractFrames_same (fuel : Nat) (decoder : HdlcStreamDecoder) (frames : List HdlcFrame)
    (other : HdlcCodecLimits) (h : SameLimits decoder.limits other) :
    extractFrames fuel { decoder with limits := other } frames =
      ((extractFrames fuel decoder frames).1, (extractFrames fuel decoder frames).2.1,
        { (extractFrames fuel decoder frames).2.2 with limits := other }) := by
  induction fuel generalizing decoder frames with
  | zero => rfl
  | succ fuel ih =>
      unfold extractFrames
      dsimp only
      rw [← h.frame, ← decodeFrame_same decoder.limits other h]
      split_ifs
      all_goals try rfl
      cases decodeFrame _ decoder.limits with
      | error status => rfl
      | ok frame =>
          exact ih
            { decoder with
              buffer := (decoder.buffer.dropWhile (· != hdlcFlag)).drop
                (readUint16HighByteFirst (decoder.buffer.dropWhile (· != hdlcFlag)) 1 % 2048 +
                  2) }
            (frames ++ [frame]) h

theorem push_same (decoder : HdlcStreamDecoder) (data : Bytes) (other : HdlcCodecLimits)
    (h : SameLimits decoder.limits other) :
    push { decoder with limits := other } data =
      ((decoder.push data).1, (decoder.push data).2.1,
        { (decoder.push data).2.2 with limits := other }) :=
  extractFrames_same _ { decoder with buffer := decoder.buffer ++ data } [] other h

/-- Where the octets make no sense, none of them are kept. -/
theorem extractFrames_failed (fuel : Nat) (decoder : HdlcStreamDecoder)
    (frames : List HdlcFrame) (status : HdlcStatus) (hstatus : status ≠ .needMoreData)
    (h : (extractFrames fuel decoder frames).1 = .error status) :
    (extractFrames fuel decoder frames).2.2.buffer = [] := by
  have hpush : ∀ frames, pushStatus frames ≠ .error status := by
    intro frames hpushStatus
    unfold pushStatus at hpushStatus
    split_ifs at hpushStatus
    exact hstatus (Except.error.inj hpushStatus).symm
  induction fuel generalizing decoder frames with
  | zero => exact absurd h (hpush frames)
  | succ fuel ih =>
      unfold extractFrames at h ⊢
      dsimp only at h ⊢
      split_ifs at h ⊢
      all_goals try first | rfl | exact absurd h (hpush frames)
      revert h
      cases decodeFrame _ decoder.limits with
      | error status => exact fun _ => rfl
      | ok frame => exact ih _ _

theorem push_failed (decoder : HdlcStreamDecoder) (data : Bytes) (status : HdlcStatus)
    (hstatus : status ≠ .needMoreData) (h : (decoder.push data).1 = .error status) :
    (decoder.push data).2.2.reset = (decoder.push data).2.2 := by
  have hbuffer := extractFrames_failed _ { decoder with buffer := decoder.buffer ++ data } []
    status hstatus h
  unfold reset
  rw [← hbuffer]
  rfl

end HdlcStreamDecoder

namespace HdlcReassembler

theorem pushFrame_same (reassembler : HdlcReassembler) (frame : HdlcFrame)
    (other : HdlcCodecLimits) (h : SameLimits reassembler.limits other) :
    pushFrame { reassembler with limits := other } frame =
      ((reassembler.pushFrame frame).1,
        { (reassembler.pushFrame frame).2 with limits := other }) := by
  rcases reassembler with ⟨limits, pendingFrame⟩
  unfold pushFrame
  dsimp only
  rw [← h.reassembled]
  cases pendingFrame with
  | none =>
      dsimp only
      split_ifs
      all_goals rfl
  | some pending =>
      dsimp only
      split_ifs
      all_goals rfl

end HdlcReassembler

end Hdlc

end Dlms
