import Dlms.Hdlc.Frame

/-!
# Segments

The information of several frames put together. A reassembler keeps the first
frame of a sequence and adds the information of those that follow, which have
to be of the same kind and between the same stations.

Sizes are numbers of 64 bits. How much room is left is computed as their
difference, which goes round when a frame alone is larger than the limit.

## Main definitions

* `HdlcReassembler`: What has been put together so far.
* `pushFrame`: One frame more.

## Theorems

* `pushFrame_pending`: A frame of the same sequence adds its information.
-/

namespace Dlms

namespace Hdlc

def effectiveMaximumReassembledInformationSize (limits : HdlcCodecLimits) : Nat :=
  if limits.maximumReassembledInformationSize = 0 then 65535
  else limits.maximumReassembledInformationSize

/-- The difference of two sizes. -/
def sizeDifference (size other : Nat) : Nat := (size + 2 ^ 64 - other) % 2 ^ 64

/-- The segments of a payload so far. -/
structure HdlcReassembler where
  limits : HdlcCodecLimits
  /-- The first frame, with the information put together so far. -/
  pendingFrame : Option HdlcFrame := none
  deriving DecidableEq

namespace HdlcReassembler

def reset (reassembler : HdlcReassembler) : HdlcReassembler :=
  { reassembler with pendingFrame := none }

def sameAddress (left right : HdlcAddress) : Bool :=
  left.rawValue == right.rawValue && left.encodedSize == right.encodedSize

def compatibleFrameType (left right : HdlcControl) : Bool := left.frameKind == right.frameKind

/-- One frame more: it completes an information, or more frames are needed. -/
def pushFrame (reassembler : HdlcReassembler) (frame : HdlcFrame) :
    Except HdlcStatus HdlcFrame × HdlcReassembler :=
  let maximum := effectiveMaximumReassembledInformationSize reassembler.limits
  match reassembler.pendingFrame with
  | none =>
      if frame.information.length > maximum then (.error .segmentationOverflow, reassembler)
      else if !frame.segmented then (.ok frame, reassembler)
      else (.error .segmentationIncomplete, { reassembler with pendingFrame := some frame })
  | some pending =>
      if !sameAddress pending.destination frame.destination ||
          !sameAddress pending.source frame.source ||
          !compatibleFrameType pending.control frame.control then
        (.error .segmentationError, reassembler.reset)
      else if pending.information.length > sizeDifference maximum frame.information.length then
        (.error .segmentationOverflow, reassembler.reset)
      else
        let pending := { pending with information := pending.information ++ frame.information }
        if frame.segmented then
          (.error .segmentationIncomplete, { reassembler with pendingFrame := some pending })
        else (.ok { pending with segmented := false }, reassembler.reset)

end HdlcReassembler

/-! ### A sequence of segments -/

section Segments

variable (limits : HdlcCodecLimits) (first frame : HdlcFrame)

/-- A frame is of the same sequence as the first one. -/
def Continues (first frame : HdlcFrame) : Prop :=
  frame.destination = first.destination ∧ frame.source = first.source ∧
    frame.control.frameKind = first.control.frameKind

theorem sameAddress_self (address : HdlcAddress) :
    HdlcReassembler.sameAddress address address = true := by
  simp [HdlcReassembler.sameAddress, Bool.and_self]

/-- A frame of the same sequence adds its information, as long as there is room
    for it. -/
theorem pushFrame_pending (hcontinues : Continues first frame)
    (hmaximum : effectiveMaximumReassembledInformationSize limits < 2 ^ 64)
    (hframe : frame.information.length ≤ effectiveMaximumReassembledInformationSize limits) :
    HdlcReassembler.pushFrame { limits := limits, pendingFrame := some first } frame =
      if first.information.length + frame.information.length >
          effectiveMaximumReassembledInformationSize limits then
        (.error .segmentationOverflow, { limits := limits })
      else if frame.segmented then
        (.error .segmentationIncomplete,
          { limits := limits
            pendingFrame := some
              { first with information := first.information ++ frame.information } })
      else
        (.ok { first with
            segmented := false
            information := first.information ++ frame.information }, { limits := limits }) := by
  rcases hcontinues with ⟨hdestination, hsource, hkind⟩
  -- The difference does not go round, since the frame alone has room.
  have hroom : sizeDifference (effectiveMaximumReassembledInformationSize limits)
      frame.information.length =
        effectiveMaximumReassembledInformationSize limits - frame.information.length := by
    rw [sizeDifference]
    omega
  have hsame : (!HdlcReassembler.sameAddress first.destination frame.destination ||
      !HdlcReassembler.sameAddress first.source frame.source ||
      !HdlcReassembler.compatibleFrameType first.control frame.control) = false := by
    rw [hdestination, hsource, HdlcReassembler.compatibleFrameType, hkind, sameAddress_self,
      sameAddress_self, beq_self_eq_true]
    rfl
  unfold HdlcReassembler.pushFrame
  simp only [hsame, hroom, Bool.false_eq_true, if_false]
  by_cases hover : first.information.length + frame.information.length >
      effectiveMaximumReassembledInformationSize limits
  · rw [if_pos hover, if_pos (by omega)]
    rfl
  · rw [if_neg hover, if_neg (by omega)]
    rfl

end Segments

end Hdlc

end Dlms
