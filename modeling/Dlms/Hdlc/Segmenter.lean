import Dlms.Hdlc.Recoding
import Dlms.Hdlc.Reassembly

/-!
# Into segments and back

A segmenter cuts a payload into pieces for a frame each. How large a piece may be
it takes from the limits, or from a default of its own. The codec has another
default, which follows from the largest frame, and looks at the frame as a whole.
So all frames are accepted when the longest piece is within the limits of the
codec.

Whether they are accepted or not, a reassembler puts the pieces together again.

## Main definitions

* `HdlcSegmenter.segmentInformation`: The frames for a payload.
* `Pieces`: A payload in pieces, all but the last of the same size.
* `Conveyed`: The frames are accepted, and bring the payload.
* `LongestFits`: The longest piece is within the limits of the codec.

## Theorems

* `pieces_of_segmentInformation`: What the frames are.
* `run_push_pieces`: A reassembler puts the pieces together.
* `conveyed_iff`: When a payload is conveyed.
* `not_conveyed`: A limit for the frames, and none for the information.
-/

namespace Dlms

namespace Hdlc

open Machine (Transition run)

/-- What is left of a payload. -/
structure HdlcSegmenter where
  limits : HdlcCodecLimits

namespace HdlcSegmenter

def effectiveMaximumInformationFieldSize (limits : HdlcCodecLimits) : Nat :=
  if limits.maximumInformationFieldSize = 0 then 2030 else limits.maximumInformationFieldSize

def makeFrameBuffer (baseFrame : HdlcFrame) (segmented : Bool) (information : Bytes) :
    HdlcFrame :=
  { baseFrame with
    segmented := segmented
    information := information }

/-- The frames from an offset on. -/
def segments (maximum : Nat) (baseFrame : HdlcFrame) (information : Bytes) :
    Nat → Nat → List HdlcFrame
  | 0, _ => []
  | fuel + 1, offset =>
      if offset < information.length then
        let remaining := information.length - offset
        let chunkSize := min maximum remaining
        let hasMore := decide (offset + chunkSize < information.length)
        makeFrameBuffer baseFrame hasMore (slice information offset chunkSize) ::
          segments maximum baseFrame information fuel (offset + chunkSize)
      else []

/-- The frames for a payload. Every one of them takes an octet, so that the number
    of octets is fuel enough. -/
def segmentInformation (segmenter : HdlcSegmenter) (baseFrame : HdlcFrame)
    (information : Bytes) : Except HdlcStatus (List HdlcFrame) :=
  let maximum := effectiveMaximumInformationFieldSize segmenter.limits
  if maximum = 0 then .error .invalidArgument
  else if information.length ≤ maximum then .ok [makeFrameBuffer baseFrame false information]
  else .ok (segments maximum baseFrame information information.length 0)

/-! ### Pieces -/

/-- A payload in pieces, all but the last of the same size. -/
inductive Pieces (maximum : Nat) (baseFrame : HdlcFrame) : Bytes → List HdlcFrame → Prop
  | last (piece : Bytes) (hsize : piece.length ≤ maximum) :
      Pieces maximum baseFrame piece [makeFrameBuffer baseFrame false piece]
  | more (piece rest : Bytes) (frames : List HdlcFrame) (hsize : piece.length = maximum)
      (hrest : Pieces maximum baseFrame rest frames) :
      Pieces maximum baseFrame (piece ++ rest) (makeFrameBuffer baseFrame true piece :: frames)

section Pieces

variable (maximum : Nat) (baseFrame : HdlcFrame)

/-- The induction is on the fuel, which goes down with what remains. -/
theorem pieces_segments (hmaximum : 0 < maximum) (information : Bytes) (fuel offset : Nat)
    (hoffset : offset < information.length) (hfuel : information.length ≤ offset + fuel) :
    Pieces maximum baseFrame (information.drop offset)
      (segments maximum baseFrame information fuel offset) := by
  induction fuel generalizing offset with
  | zero => omega
  | succ fuel ih =>
      unfold segments
      dsimp only
      rw [if_pos hoffset]
      by_cases hlast : information.length - offset ≤ maximum
      · -- Nothing remains behind this piece.
        have hall : slice information offset (information.length - offset) =
            information.drop offset := by
          rw [slice, ← List.length_drop, List.take_length]
        have hnone : segments maximum baseFrame information fuel information.length = [] := by
          cases fuel with
          | zero => rfl
          | succ fuel => rw [segments, if_neg (Nat.lt_irrefl _)]
        rw [Nat.min_eq_right hlast, Nat.add_sub_cancel' (Nat.le_of_lt hoffset), hall, hnone,
          decide_eq_false (Nat.lt_irrefl _)]
        exact .last _ (by rw [List.length_drop]; exact hlast)
      · have hmore : offset + maximum < information.length := by omega
        have hsplit : slice information offset maximum ++ information.drop (offset + maximum) =
            information.drop offset := by
          rw [slice, ← List.drop_drop, List.take_append_drop]
        rw [Nat.min_eq_left (by omega), decide_eq_true hmore, ← hsplit]
        refine .more _ _ _ ?_ (ih (offset + maximum) hmore (by omega))
        rw [slice, List.length_take, List.length_drop]
        omega

theorem pieces_of_segmentInformation (segmenter : HdlcSegmenter) (information : Bytes)
    (frames : List HdlcFrame)
    (h : segmenter.segmentInformation baseFrame information = .ok frames) :
    Pieces (effectiveMaximumInformationFieldSize segmenter.limits) baseFrame information
      frames := by
  unfold segmentInformation at h
  dsimp only at h
  split_ifs at h with hzero hone
  · rw [← Except.ok.inj h]
    exact .last information hone
  · rw [← Except.ok.inj h]
    exact pieces_segments _ baseFrame (Nat.pos_of_ne_zero hzero) information information.length 0
      (by omega) (by omega)

theorem length_pieces (information : Bytes) (frames : List HdlcFrame)
    (h : Pieces maximum baseFrame information frames) : 0 < frames.length := by
  cases h with
  | last piece hsize => exact Nat.one_pos
  | more piece rest frames hsize hrest => exact Nat.succ_pos _

end Pieces

/-! ### The codec -/

/-- A frame with an information of this size is within the limits of the codec. -/
def SizeFits (limits : HdlcCodecLimits) (baseFrame : HdlcFrame) (size : Nat) : Prop :=
  let length := headerSize baseFrame + (if size = 0 then 0 else 2) + size + 2
  size ≤ Hdlc.effectiveMaximumInformationFieldSize baseFrame limits ∧
    length ≤ maximumFormatFieldLength ∧
    length + 2 ≤ effectiveMaximumFrameSize limits

/-- The longest piece of a payload is within the limits of the codec. -/
def LongestFits (limits : HdlcCodecLimits) (baseFrame : HdlcFrame) (payload : Bytes) : Prop :=
  SizeFits limits baseFrame
    (min (effectiveMaximumInformationFieldSize limits) payload.length)

section Codec

variable (limits : HdlcCodecLimits) (baseFrame : HdlcFrame)

theorem fits_makeFrameBuffer (segmented : Bool) (piece : Bytes) :
    Fits (makeFrameBuffer baseFrame segmented piece) limits ↔
      SizeFits limits baseFrame piece.length := by
  have hformat : formatFieldLength (makeFrameBuffer baseFrame segmented piece) =
      headerSize baseFrame + (if piece.length = 0 then 0 else 2) + piece.length + 2 := by
    simp only [List.length_eq_zero_iff]
    rfl
  rw [Fits, fullFrameSize, hformat]
  rfl

theorem SizeFits.mono (size larger : Nat) (hle : size ≤ larger)
    (h : SizeFits limits baseFrame larger) : SizeFits limits baseFrame size := by
  rcases h with ⟨hinformation, hlength, hframe⟩
  have hless : headerSize baseFrame + (if size = 0 then 0 else 2) + size + 2 ≤
      headerSize baseFrame + (if larger = 0 then 0 else 2) + larger + 2 := by
    split_ifs
    · omega
    · omega
    · omega
    · omega
  exact ⟨hle.trans hinformation, hless.trans hlength, (Nat.add_le_add_right hless 2).trans hframe⟩

/-- All pieces are within the limits exactly when the longest is, which is the
    first. -/
theorem fits_pieces (maximum : Nat) (information : Bytes) (frames : List HdlcFrame)
    (h : Pieces maximum baseFrame information frames) :
    (∀ frame ∈ frames, Fits frame limits) ↔
      SizeFits limits baseFrame (min maximum information.length) := by
  induction h with
  | last piece hsize =>
      rw [List.forall_mem_singleton, fits_makeFrameBuffer, Nat.min_eq_right hsize]
  | more piece rest frames hsize hrest ih =>
      have hfirst : min maximum (piece ++ rest).length = maximum := by
        rw [List.length_append]
        omega
      rw [List.forall_mem_cons, fits_makeFrameBuffer, ih, hfirst, hsize]
      constructor
      · exact fun hboth => hboth.1
      · exact fun hfirst => ⟨hfirst, hfirst.mono limits baseFrame _ _ (Nat.min_le_left _ _)⟩

end Codec

/-! ### The reassembler -/

/-- The frames ask for more up to the last one, which completes the information. -/
def Completing (frames : List HdlcFrame) (completed : HdlcFrame)
    (answers : List (Except HdlcStatus HdlcFrame)) : Prop :=
  answers =
    List.replicate (frames.length - 1) (.error .segmentationIncomplete) ++ [.ok completed]

/-- The answers to some frames begin with the answer to the first. -/
theorem answers_cons (reassembler : HdlcReassembler) (frame : HdlcFrame)
    (frames : List HdlcFrame) :
    (run HdlcReassembler.push (frame :: frames) reassembler).map Transition.output =
      (reassembler.pushFrame frame).1 ::
        (run HdlcReassembler.push frames (reassembler.pushFrame frame).2).map
          Transition.output := rfl

section Reassembler

variable (limits : HdlcCodecLimits) (maximum : Nat) (baseFrame : HdlcFrame)
  (hmaximum : effectiveMaximumReassembledInformationSize limits < 2 ^ 64)
include hmaximum

/-- Pieces behind those that are pending are put behind them. -/
theorem run_push_pending (information : Bytes) (frames : List HdlcFrame)
    (h : Pieces maximum baseFrame information frames) (pending : HdlcFrame)
    (hcontinues : Continues pending baseFrame)
    (hroom : pending.information.length + information.length ≤
      effectiveMaximumReassembledInformationSize limits) :
    Completing frames
      { pending with
        segmented := false
        information := pending.information ++ information }
      ((run HdlcReassembler.push frames
        { limits := limits, pendingFrame := some pending }).map Transition.output) := by
  induction h generalizing pending with
  | last piece hsize =>
      have hpushed := pushFrame_pending limits pending (makeFrameBuffer baseFrame false piece)
        hcontinues hmaximum (by dsimp only [makeFrameBuffer]; omega)
      rw [if_neg (by dsimp only [makeFrameBuffer]; omega)] at hpushed
      rw [Completing, answers_cons, hpushed]
      rfl
  | more piece rest frames hsize hrest ih =>
      rw [List.length_append] at hroom
      have hpushed := pushFrame_pending limits pending (makeFrameBuffer baseFrame true piece)
        hcontinues hmaximum (by dsimp only [makeFrameBuffer]; omega)
      rw [if_neg (by dsimp only [makeFrameBuffer]; omega)] at hpushed
      have hpositive := length_pieces maximum baseFrame rest frames hrest
      have hrun := ih { pending with information := pending.information ++ piece } hcontinues (by
        dsimp only
        rw [List.length_append]
        omega)
      have hcount : (makeFrameBuffer baseFrame true piece :: frames).length - 1 =
          frames.length - 1 + 1 := by
        rw [List.length_cons]
        omega
      rw [Completing] at hrun
      rw [Completing, answers_cons, hpushed, hcount, List.replicate_succ, List.cons_append,
        ← List.append_assoc, ← hrun]
      rfl

/-- A reassembler that holds nothing puts the pieces together. -/
theorem run_push_pieces (information : Bytes) (frames : List HdlcFrame)
    (h : Pieces maximum baseFrame information frames)
    (hroom : information.length ≤ effectiveMaximumReassembledInformationSize limits) :
    Completing frames (makeFrameBuffer baseFrame false information)
      ((run HdlcReassembler.push frames { limits := limits }).map Transition.output) := by
  cases h with
  | last piece hsize =>
      have hpushed : HdlcReassembler.pushFrame { limits := limits }
          (makeFrameBuffer baseFrame false information) =
            (.ok (makeFrameBuffer baseFrame false information), { limits := limits }) := by
        simp [HdlcReassembler.pushFrame, makeFrameBuffer, Nat.not_lt.mpr hroom]
      rw [Completing, answers_cons, hpushed]
      rfl
  | more piece rest frames hsize hrest =>
      rw [List.length_append] at hroom
      have hpositive := length_pieces maximum baseFrame rest frames hrest
      have hrun := run_push_pending limits maximum baseFrame hmaximum rest frames hrest
        (makeFrameBuffer baseFrame true piece) ⟨rfl, rfl, rfl⟩ hroom
      have hcount : (makeFrameBuffer baseFrame true piece :: frames).length - 1 =
          frames.length - 1 + 1 := by
        rw [List.length_cons]
        omega
      have hfirst : ¬effectiveMaximumReassembledInformationSize limits < piece.length := by omega
      have hpushed : HdlcReassembler.pushFrame { limits := limits }
          (makeFrameBuffer baseFrame true piece) = (.error .segmentationIncomplete,
            { limits := limits, pendingFrame := some (makeFrameBuffer baseFrame true piece) }) := by
        simp [HdlcReassembler.pushFrame, makeFrameBuffer, hfirst]
      rw [Completing] at hrun
      rw [Completing, answers_cons, hpushed, hcount, List.replicate_succ, List.cons_append]
      exact congrArg (_ :: ·) hrun

end Reassembler

/-! ### A payload -/

/-- All frames are accepted, and a reassembler that holds nothing and has room for
    the payload completes exactly that with the last of them. -/
structure Conveyed (memory : Nat) (limits : HdlcCodecLimits) (frames : List HdlcFrame)
    (payload : Bytes) : Prop where
  accepted : ∀ frame ∈ frames, ∃ bytes,
    encodeFrameAllocating memory frame limits = .returned (.ok bytes)
  /-- The limits of the reassembler are sizes of a machine. -/
  reassembled : ∀ others : HdlcCodecLimits,
    effectiveMaximumReassembledInformationSize others < 2 ^ 64 →
    payload.length ≤ effectiveMaximumReassembledInformationSize others →
    ∃ completed, completed.information = payload ∧ Completing frames completed
      ((run HdlcReassembler.push frames { limits := others }).map Transition.output)

/-- A payload is conveyed exactly when the longest piece is within the limits of
    the codec, which has to have its buffer. -/
theorem conveyed_iff (memory : Nat) (segmenter : HdlcSegmenter) (baseFrame : HdlcFrame)
    (payload : Bytes) (frames : List HdlcFrame)
    (h : segmenter.segmentInformation baseFrame payload = .ok frames) :
    Conveyed memory segmenter.limits frames payload ↔
      Allocatable memory segmenter.limits ∧ LongestFits segmenter.limits baseFrame payload := by
  have hpieces := pieces_of_segmentInformation baseFrame segmenter payload frames h
  have hfits := fits_pieces segmenter.limits baseFrame _ payload frames hpieces
  have hpositive := length_pieces _ baseFrame payload frames hpieces
  constructor
  · rintro ⟨haccepted, -⟩
    have hallocatable : Allocatable memory segmenter.limits := by
      rcases haccepted frames[0] (List.getElem_mem _) with ⟨bytes, hbytes⟩
      exact ((encodeFrameAllocating_eq_ok _ _ _ _).mp hbytes).1
    refine ⟨hallocatable, hfits.mp fun frame hframe => ?_⟩
    rcases haccepted frame hframe with ⟨bytes, hbytes⟩
    exact ((encodeFrame_eq_ok _ _ _).mp ((encodeFrameAllocating_eq_ok _ _ _ _).mp hbytes).2).1
  · rintro ⟨hallocatable, hlongest⟩
    refine ⟨fun frame hframe => ⟨frameBytes frame, ?_⟩, fun others hmaximum hroom => ?_⟩
    · exact (encodeFrameAllocating_eq_ok _ _ _ _).mpr
        ⟨hallocatable, (encodeFrame_eq_ok _ _ _).mpr ⟨hfits.mpr hlongest frame hframe, rfl⟩⟩
    · exact ⟨makeFrameBuffer baseFrame false payload, rfl,
        run_push_pieces others _ baseFrame hmaximum payload frames hpieces hroom⟩

/-- Two octets of information in a frame. -/
def twoOctetLimits : HdlcCodecLimits :=
  { defaultHdlcCodecLimits with maximumInformationFieldSize := 2 }

/-- A payload of three frames. -/
theorem conveyed_iff_threeSegments :
    Conveyed 2049 twoOctetLimits
        [makeFrameBuffer meterSegment true [0x01, 0x02],
          makeFrameBuffer meterSegment true [0x03, 0x04],
          makeFrameBuffer meterSegment false [0x05]] [0x01, 0x02, 0x03, 0x04, 0x05] ↔
      Allocatable 2049 twoOctetLimits ∧
        LongestFits twoOctetLimits meterSegment [0x01, 0x02, 0x03, 0x04, 0x05] :=
  conveyed_iff 2049 { limits := twoOctetLimits } meterSegment [0x01, 0x02, 0x03, 0x04, 0x05] _ rfl

/-- Frames of 32 octets at most, and no limit for their information: the payload of
    32 octets is put into one frame, which is too large. -/
theorem not_conveyed :
    ¬∀ (memory : Nat) (segmenter : HdlcSegmenter) (baseFrame : HdlcFrame) (payload : Bytes)
      (frames : List HdlcFrame), Allocatable memory segmenter.limits →
      segmenter.segmentInformation baseFrame payload = .ok frames →
      Conveyed memory segmenter.limits frames payload := by
  intro hall
  have hconveyed := hall 32
    { limits := { defaultHdlcCodecLimits with maximumFrameSize := 32 } } meterSegment
    (List.replicate 32 0) [makeFrameBuffer meterSegment false (List.replicate 32 0)]
    (by decide) rfl
  rcases hconveyed.accepted _ List.mem_cons_self with ⟨bytes, hbytes⟩
  have hencoded := ((encodeFrameAllocating_eq_ok _ _ _ _).mp hbytes).2
  have hfits := ((encodeFrame_eq_ok _ _ _).mp hencoded).1
  exact absurd hfits.1 (by decide)

end HdlcSegmenter

end Hdlc

end Dlms
