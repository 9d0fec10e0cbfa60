import Dlms.GoHdlc.Codec
import Dlms.Hdlc.Segmentation

/-!
# Streams and segments, in Go

The stream decoder and the reassembler of the package. An error of the decoder
comes with no frames, where the one in C++ leaves the frames before the error in
the vector of the caller. The reassembler keeps a flag beside the frame it has
put together so far.

The decoder and the reassembler hold what the ones in C++ hold, written in the
types of the package, and a push keeps it so.

## Main definitions

* `StreamDecoder`, `Reassembler`: What is kept between two pushes.
* `StreamDecoder.push`, `Reassembler.push`: More octets, one frame more.

## Theorems

* `StreamDecoder.push_eq`: The frames that come out are the same.
* `Reassembler.push_eq`: So is what is put together.
-/

namespace Dlms

namespace GoHdlc

open Hdlc

/-! ### Streams -/

/-- The stream decoder of the Go library. -/
structure StreamDecoder where
  limits : HdlcCodecLimits
  noisePolicy : HdlcNoisePolicy
  buffer : Bytes := []
  deriving DecidableEq

namespace StreamDecoder

def reset (d : StreamDecoder) : StreamDecoder := { d with buffer := [] }

/-- What comes back when no more frames can be taken. -/
def pushResult (frames : List Frame) : Except HdlcStatus (List Frame) :=
  if frames.length = 0 then .error .needMoreData else .ok frames

/-- The rounds of the loop. Each that goes on takes a frame from the buffer, so
    that there are enough of them. -/
def takeFrames : Nat → StreamDecoder → List Frame →
    Except HdlcStatus (List Frame) × StreamDecoder
  | 0, d, frames => (pushResult frames, d)
  | rounds + 1, d, frames =>
      match d.buffer.findIdx? (· == hdlcFlag) with
      | none =>
          if d.buffer.length > 0 ∧ d.noisePolicy = .reportError then
            (.error .invalidFlag, d.reset)
          else (pushResult frames, { d with buffer := [] })
      | some flagIdx =>
          if flagIdx > 0 ∧ d.noisePolicy = .reportError then (.error .invalidFlag, d.reset)
          else
            let d := { d with buffer := d.buffer.drop flagIdx }
            if d.buffer.length < 3 then (pushResult frames, d)
            else
              let ff := uint16BigEndian (d.buffer.drop 1)
              if ff &&& frameFormatTypeMask ≠ frameFormatType3 then
                (.error .invalidFrameFormat, d.reset)
              else
                let formatFieldLength := (ff &&& 0x07FF).toNat
                let fullFrameSize := formatFieldLength + 2
                if formatFieldLength < 6 then (.error .invalidFrameLength, d.reset)
                else if fullFrameSize > effectiveMaximumFrameSize d.limits then
                  (.error .frameTooLarge, d.reset)
                else if d.buffer.length < fullFrameSize then (pushResult frames, d)
                else
                  match decodeFrameFromBuffer (d.buffer.take fullFrameSize) d.limits none with
                  | .error status => (.error status, d.reset)
                  | .ok (frame, _) =>
                      takeFrames rounds { d with buffer := d.buffer.drop fullFrameSize }
                        (frames ++ [frame])

def push (d : StreamDecoder) (data : Bytes) : Except HdlcStatus (List Frame) × StreamDecoder :=
  let d := { d with buffer := d.buffer ++ data }
  takeFrames (d.buffer.length + 1) d []

/-- The decoder that holds what one of the library in C++ holds. -/
def ofHdlc (decoder : HdlcStreamDecoder) : StreamDecoder where
  limits := decoder.limits
  noisePolicy := decoder.noisePolicy
  buffer := decoder.buffer

/-- What a push in C++ comes to in the package: an error comes without frames. -/
def answerOf (answer : Except HdlcStatus Unit × List HdlcFrame) :
    Except HdlcStatus (List Frame) :=
  answer.1.map fun _ => answer.2.map .ofHdlc

/-- The opening flag is where the octets in front of it end. -/
theorem findIdx_flag (buffer : Bytes) :
    (buffer.findIdx? (· == hdlcFlag) = none ∧ buffer.dropWhile (· != Hdlc.hdlcFlag) = []) ∨
      ∃ flagIdx, buffer.findIdx? (· == hdlcFlag) = some flagIdx ∧ flagIdx < buffer.length ∧
        buffer.dropWhile (· != Hdlc.hdlcFlag) = buffer.drop flagIdx := by
  have hdrop : buffer.dropWhile (· != Hdlc.hdlcFlag) =
      buffer.drop (buffer.findIdx (· == hdlcFlag)) := by
    rw [List.dropWhile_eq_drop_findIdx_not]
    simp only [bne, Bool.not_not]
    rfl
  rw [hdrop]
  cases hfound : buffer.findIdx? (· == hdlcFlag) with
  | none =>
      rw [List.findIdx?_eq_none_iff_findIdx_eq] at hfound
      exact .inl ⟨rfl, by rw [hfound, List.drop_length]⟩
  | some flagIdx =>
      rw [List.findIdx?_eq_some_iff_findIdx_eq] at hfound
      exact .inr ⟨flagIdx, rfl, hfound.1, by rw [hfound.2]⟩

theorem pushResult_eq (frames : List HdlcFrame) :
    pushResult (frames.map .ofHdlc) =
      answerOf (HdlcStreamDecoder.pushStatus frames, frames) := by
  cases frames with
  | nil => rfl
  | cons frame frames => rfl

/-- The rounds take the same frames and leave the same octets. -/
theorem takeFrames_eq (rounds : Nat) (decoder : HdlcStreamDecoder) (frames : List HdlcFrame) :
    takeFrames rounds (ofHdlc decoder) (frames.map .ofHdlc) =
      (answerOf ((decoder.extractFrames rounds frames).1,
          (decoder.extractFrames rounds frames).2.1),
        ofHdlc (decoder.extractFrames rounds frames).2.2) := by
  induction rounds generalizing decoder frames with
  | zero => rw [takeFrames, pushResult_eq]; rfl
  | succ rounds ih =>
      have hempty : pushResult (frames.map .ofHdlc) =
          answerOf (HdlcStreamDecoder.pushStatus frames, frames) := pushResult_eq frames
      rcases decoder with ⟨limits, noisePolicy, buffer⟩
      show takeFrames (rounds + 1)
        { limits := limits, noisePolicy := noisePolicy, buffer := buffer } _ = _
      unfold takeFrames HdlcStreamDecoder.extractFrames
      dsimp only
      rcases findIdx_flag buffer with ⟨hnone, hfound⟩ | ⟨flagIdx, hsome, hlt, hfound⟩
      · -- No flag at all: what there is is noise.
        rw [hnone, hfound, List.length_nil]
        dsimp only
        by_cases hnoise : buffer.length > 0 ∧ noisePolicy = .reportError
        · rw [if_pos hnoise, if_pos ⟨(Nat.ne_of_gt hnoise.1).symm, hnoise.2⟩]
          rfl
        · rw [if_neg hnoise, if_neg (fun h => hnoise ⟨Nat.pos_of_ne_zero (Ne.symm h.1), h.2⟩),
            if_pos (by omega), hempty]
          rfl
      · have hlength : (buffer.drop flagIdx).length ≠ buffer.length ↔
            flagIdx > 0 := by
          rw [List.length_drop]
          omega
        rw [hsome, hfound]
        dsimp only
        generalize buffer.drop flagIdx = found at hlength ⊢
        by_cases hnoise : flagIdx > 0 ∧ noisePolicy = .reportError
        · rw [if_pos hnoise, if_pos ⟨hlength.mpr hnoise.1, hnoise.2⟩]
          rfl
        have hquiet : ¬(found.length ≠ buffer.length ∧ noisePolicy = .reportError) :=
          fun h => hnoise ⟨hlength.mp h.1, h.2⟩
        rw [if_neg hnoise, if_neg hquiet]
        by_cases hthree : found.length < 3
        · rw [if_pos hthree, if_pos hthree, hempty]
          rfl
        rw [if_neg hthree, if_neg hthree]
        simp only [type_of_format, length_of_format, toNat_uint16BigEndian,
          effectiveMaximumFrameSize_eq]
        by_cases htype : readUint16HighByteFirst found 1 / 4096 ≠ Hdlc.frameFormatType3 / 4096
        · rw [if_pos htype, if_pos htype]
          rfl
        rw [if_neg htype, if_neg htype]
        by_cases hsmall : readUint16HighByteFirst found 1 % 2048 < 6
        · rw [if_pos hsmall, if_pos hsmall]
          rfl
        rw [if_neg hsmall, if_neg hsmall]
        by_cases hlarge : readUint16HighByteFirst found 1 % 2048 + 2 >
            Hdlc.effectiveMaximumFrameSize limits
        · rw [if_pos hlarge, if_pos hlarge]
          rfl
        rw [if_neg hlarge, if_neg hlarge]
        by_cases hmore : found.length < readUint16HighByteFirst found 1 % 2048 + 2
        · rw [if_pos hmore, if_pos hmore, hempty]
          rfl
        rw [if_neg hmore, if_neg hmore, decodeFrameFromBuffer_none]
        -- The frame is taken from the buffer, and the next round begins.
        cases Hdlc.decodeFrame (found.take (readUint16HighByteFirst found 1 % 2048 + 2))
            limits with
        | error status => rfl
        | ok frame =>
            have hframes : (frames ++ [frame]).map Frame.ofHdlc =
                frames.map Frame.ofHdlc ++ [Frame.ofHdlc frame] := List.map_append
            show takeFrames rounds
              { limits := limits
                noisePolicy := noisePolicy
                buffer := found.drop (readUint16HighByteFirst found 1 % 2048 + 2) }
              (frames.map .ofHdlc ++ [.ofHdlc frame]) = _
            rw [← hframes]
            exact ih
              { limits := limits
                noisePolicy := noisePolicy
                buffer := found.drop (readUint16HighByteFirst found 1 % 2048 + 2) }
              (frames ++ [frame])

/-- A push is answered alike, and leaves the same octets. -/
theorem push_eq (decoder : HdlcStreamDecoder) (data : Bytes) :
    (ofHdlc decoder).push data =
      (answerOf ((decoder.push data).1, (decoder.push data).2.1),
        ofHdlc (decoder.push data).2.2) :=
  takeFrames_eq _ { decoder with buffer := decoder.buffer ++ data } []

end StreamDecoder

/-! ### Segments -/

def effectiveMaximumReassembledInformationSize (limits : HdlcCodecLimits) : Nat :=
  if limits.maximumReassembledInformationSize = 0 then 65535
  else limits.maximumReassembledInformationSize

def sameAddress (a b : Address) : Bool :=
  a.rawValue == b.rawValue && a.encodedSize == b.encodedSize

/-- The reassembler of the Go library. -/
structure Reassembler where
  limits : HdlcCodecLimits
  hasPending : Bool := false
  pending : Frame := .zero
  deriving DecidableEq

namespace Reassembler

def reset (r : Reassembler) : Reassembler :=
  { r with
    hasPending := false
    pending := .zero }

/-- One frame more: it completes an information, or it does not. -/
def push (r : Reassembler) (frame : Frame) : Except HdlcStatus Frame × Reassembler :=
  let maxReassembled := effectiveMaximumReassembledInformationSize r.limits
  if !r.hasPending then
    if frame.information.length > maxReassembled then (.error .segmentationOverflow, r)
    else if !frame.segmented then (.ok frame, r)
    else
      (.error .segmentationIncomplete,
        { r with
          pending := frame
          hasPending := true })
  else if !sameAddress r.pending.destination frame.destination ||
      !sameAddress r.pending.source frame.source ||
      r.pending.control.frameKind != frame.control.frameKind then
    (.error .segmentationError, r.reset)
  else if r.pending.information.length >
      sizeDifference maxReassembled frame.information.length then
    (.error .segmentationOverflow, r.reset)
  else
    let r := { r with
      pending := { r.pending with information := r.pending.information ++ frame.information } }
    if frame.segmented then (.error .segmentationIncomplete, r)
    else (.ok { r.pending with segmented := false }, r.reset)

/-- The reassembler that holds what one of the library in C++ holds. -/
def ofHdlc (reassembler : HdlcReassembler) : Reassembler :=
  match reassembler.pendingFrame with
  | none => { limits := reassembler.limits }
  | some frame =>
      { limits := reassembler.limits
        hasPending := true
        pending := .ofHdlc frame }

theorem sameAddress_eq (first second : HdlcAddress) :
    sameAddress (.ofHdlc first) (.ofHdlc second) = HdlcReassembler.sameAddress first second := by
  rw [Bool.eq_iff_iff]
  simp only [sameAddress, HdlcReassembler.sameAddress, Bool.and_eq_true, beq_iff_eq,
    ← UInt32.toNat_inj, Address.toNat_rawValue_ofHdlc]
  rfl

/-- A frame more is answered alike, and leaves the same frame pending. -/
theorem push_eq (reassembler : HdlcReassembler) (frame : HdlcFrame) :
    (ofHdlc reassembler).push (.ofHdlc frame) =
      ((reassembler.pushFrame frame).1.map .ofHdlc, ofHdlc (reassembler.pushFrame frame).2) := by
  rcases reassembler with ⟨limits, pendingFrame⟩
  rcases frame with ⟨segmented, destination, source, control, information⟩
  cases pendingFrame with
  | none =>
      show push { limits := limits }
        { segmented := segmented
          destination := .ofHdlc destination
          source := .ofHdlc source
          control := .ofHdlc control
          information := information } = _
      unfold push HdlcReassembler.pushFrame
      dsimp only
      rw [Bool.not_false, if_pos rfl]
      -- The first segment has only to fit.
      by_cases hover : information.length > effectiveMaximumReassembledInformationSize limits
      · have hover' : information.length >
            Hdlc.effectiveMaximumReassembledInformationSize limits := hover
        rw [if_pos hover, if_pos hover']
        rfl
      have hfits : ¬information.length >
          Hdlc.effectiveMaximumReassembledInformationSize limits := hover
      rw [if_neg hover, if_neg hfits]
      by_cases hlast : (!segmented) = true
      · rw [if_pos hlast, if_pos hlast]
        rfl
      · rw [if_neg hlast, if_neg hlast]
        rfl
  | some first =>
      rcases first with ⟨first, far, near, kind, before⟩
      show push
        { limits := limits
          hasPending := true
          pending :=
            { segmented := first
              destination := .ofHdlc far
              source := .ofHdlc near
              control := .ofHdlc kind
              information := before } }
        { segmented := segmented
          destination := .ofHdlc destination
          source := .ofHdlc source
          control := .ofHdlc control
          information := information } = _
      unfold push HdlcReassembler.pushFrame
      have hkinds : (kind.frameKind != control.frameKind) =
          !HdlcReassembler.compatibleFrameType kind control := rfl
      dsimp only
      rw [Bool.not_true, if_neg Bool.false_ne_true]
      simp only [sameAddress_eq, Control.frameKind_ofHdlc, hkinds]
      -- Another segment has to be of the same frame too.
      by_cases hother : (!HdlcReassembler.sameAddress far destination ||
          !HdlcReassembler.sameAddress near source ||
          !HdlcReassembler.compatibleFrameType kind control) = true
      · rw [if_pos hother, if_pos hother]
        rfl
      rw [if_neg hother, if_neg hother]
      by_cases hover : before.length > sizeDifference
          (effectiveMaximumReassembledInformationSize limits) information.length
      · have hover' : before.length > sizeDifference
            (Hdlc.effectiveMaximumReassembledInformationSize limits) information.length := hover
        rw [if_pos hover, if_pos hover']
        rfl
      have hfits : ¬before.length > sizeDifference
          (Hdlc.effectiveMaximumReassembledInformationSize limits) information.length := hover
      rw [if_neg hover, if_neg hfits]
      by_cases hmore : segmented = true
      · rw [if_pos hmore, if_pos hmore]
        rfl
      · rw [if_neg hmore, if_neg hmore]
        rfl

end Reassembler

end GoHdlc

end Dlms
