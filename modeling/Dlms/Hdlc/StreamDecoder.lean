import Dlms.Hdlc.Frame

/-!
# Frames in a stream of octets

A decoder keeps the octets from an opening flag on until it has as many as the
length of the frame says, whatever they are, and then decodes them.

Every round of its loop that goes on takes a frame from the buffer, so the
number of octets in the buffer is fuel enough.

## Main definitions

* `HdlcStreamDecoder`: The octets that wait.
* `push`: More octets.
* `Waiting`: What waits is the start of a frame.

## Theorems

* `push_frames`: However the octets of some frames are cut, the frames come out
  in order.
-/

namespace Dlms

namespace Hdlc

/-- What is done with octets outside of frames. -/
inductive HdlcNoisePolicy where
  | ignoreUntilOpeningFlag
  | reportError
  deriving DecidableEq, Repr

/-- Frames from a stream of octets. -/
structure HdlcStreamDecoder where
  limits : HdlcCodecLimits
  noisePolicy : HdlcNoisePolicy
  buffer : Bytes := []
  deriving DecidableEq

namespace HdlcStreamDecoder

def reset (decoder : HdlcStreamDecoder) : HdlcStreamDecoder := { decoder with buffer := [] }

/-- The status when no more frames can be taken. -/
def pushStatus (frames : List HdlcFrame) : Except HdlcStatus Unit :=
  if frames.isEmpty then .error .needMoreData else .ok ()

/-- The rounds over the buffer, after some frames. -/
def extractFrames : Nat → HdlcStreamDecoder → List HdlcFrame →
    Except HdlcStatus Unit × List HdlcFrame × HdlcStreamDecoder
  | 0, decoder, frames => (pushStatus frames, frames, decoder)
  | fuel + 1, decoder, frames =>
      let found := decoder.buffer.dropWhile (· != hdlcFlag)
      if found.length ≠ decoder.buffer.length ∧ decoder.noisePolicy = .reportError then
        (.error .invalidFlag, frames, decoder.reset)
      else
        let decoder := { decoder with buffer := found }
        if found.length < 3 then (pushStatus frames, frames, decoder)
        else
          let frameFormat := readUint16HighByteFirst found 1
          let formatFieldLength := frameFormat % 2048
          if frameFormat / 4096 ≠ frameFormatType3 / 4096 then
            (.error .invalidFrameFormat, frames, decoder.reset)
          else if formatFieldLength < 6 then
            (.error .invalidFrameLength, frames, decoder.reset)
          else if formatFieldLength + 2 > effectiveMaximumFrameSize decoder.limits then
            (.error .frameTooLarge, frames, decoder.reset)
          else if found.length < formatFieldLength + 2 then (pushStatus frames, frames, decoder)
          else
            match decodeFrame (found.take (formatFieldLength + 2)) decoder.limits with
            | .error status => (.error status, frames, decoder.reset)
            | .ok frame =>
                extractFrames fuel { decoder with buffer := found.drop (formatFieldLength + 2) }
                  (frames ++ [frame])

/-- More octets: the frames that are complete now. -/
def push (decoder : HdlcStreamDecoder) (data : Bytes) :
    Except HdlcStatus Unit × List HdlcFrame × HdlcStreamDecoder :=
  let decoder := { decoder with buffer := decoder.buffer ++ data }
  extractFrames (decoder.buffer.length + 1) decoder []

/-- A push leaves the limits as they are. -/
theorem limits_extractFrames (fuel : Nat) (decoder : HdlcStreamDecoder)
    (frames : List HdlcFrame) :
    (extractFrames fuel decoder frames).2.2.limits = decoder.limits := by
  induction fuel generalizing decoder frames with
  | zero => rfl
  | succ fuel ih =>
      unfold extractFrames
      dsimp only
      split_ifs
      all_goals try rfl
      cases decodeFrame _ decoder.limits with
      | error status => rfl
      | ok frame => exact ih _ _

/-! ### The frames come out -/

/-- What waits is the start of the next frame, and not all of it. -/
def Waiting (buffer : Bytes) (frames : List HdlcFrame) : Prop :=
  ∀ frame ∈ frames.head?, buffer.length < (frameBytes frame).length

/-- The octets of frames, one after the other. -/
def streamBytes (frames : List HdlcFrame) : Bytes := (frames.map frameBytes).flatten

theorem streamBytes_cons (frame : HdlcFrame) (frames : List HdlcFrame) :
    streamBytes (frame :: frames) = frameBytes frame ++ streamBytes frames := rfl

theorem streamBytes_append (frames later : List HdlcFrame) :
    streamBytes (frames ++ later) = streamBytes frames ++ streamBytes later := by
  rw [streamBytes, List.map_append, List.flatten_append]
  rfl

theorem waiting_nil (frames : List HdlcFrame) : Waiting [] frames := by
  intro frame hframe
  have hpositive := headerSize_pos frame
  rw [length_frameBytes, fullFrameSize, formatFieldLength, List.length_nil]
  omega

/-- The start of a stream, long enough, says how long its first frame is. -/
theorem format_of_prefix (frame : HdlcFrame) (found rest tail : Bytes)
    (h : found ++ rest = frameBytes frame ++ tail) (hlong : 3 ≤ found.length) :
    readUint16HighByteFirst found 1 = readUint16HighByteFirst (frameBytes frame) 1 := by
  have hlength := length_frameBytes frame
  have hpositive := headerSize_pos frame
  have hsame : ∀ index, index < 3 → found.getD index 0 = (frameBytes frame).getD index 0 := by
    intro index hindex
    have hat := congrArg (fun bytes => bytes.getD index 0) h
    simp only [List.getD_eq_getElem?_getD] at hat ⊢
    rw [List.getElem?_append_left (by omega), List.getElem?_append_left (by
      rw [hlength, fullFrameSize, formatFieldLength]
      omega)] at hat
    exact hat
  rw [readUint16HighByteFirst, readUint16HighByteFirst, Codec.beWordAt, Codec.beWordAt,
    hsame 1 (by omega), hsame 2 (by omega)]

section Frames

variable (limits : HdlcCodecLimits) (noisePolicy : HdlcNoisePolicy) (rest : Bytes)

/-- The rounds over a buffer that begins a stream of frames. -/
theorem extractFrames_stream (fuel : Nat) (buffer : Bytes) (frames later : List HdlcFrame)
    (hfuel : buffer.length < fuel) (hfits : ∀ frame ∈ later, Fits frame limits)
    (hstream : buffer ++ rest = streamBytes later) :
    ∃ found left buffer', later = found ++ left ∧
      extractFrames fuel { limits := limits, noisePolicy := noisePolicy, buffer := buffer }
          frames =
        (pushStatus (frames ++ found), frames ++ found,
          { limits := limits, noisePolicy := noisePolicy, buffer := buffer' }) ∧
      buffer' ++ rest = streamBytes left ∧ Waiting buffer' left := by
  induction fuel generalizing buffer frames later with
  | zero => exact absurd hfuel (Nat.not_lt_zero _)
  | succ fuel ih =>
      cases later with
      | nil =>
          rcases List.append_eq_nil_iff.mp hstream with ⟨rfl, rfl⟩
          refine ⟨[], [], [], rfl, ?_, rfl, ?_⟩
          · rw [List.append_nil]
            rfl
          · intro frame hframe
            exact absurd hframe (by simp [List.head?_nil, Option.mem_def])
      | cons frame later =>
          rw [streamBytes_cons] at hstream
          have hframe := hfits frame List.mem_cons_self
          have hlength := length_frameBytes frame
          have hpositive := headerSize_pos frame
          have hsize : fullFrameSize frame = formatFieldLength frame + 2 := rfl
          have hformatSize : formatFieldLength frame = headerSize frame +
              (if frame.information = [] then 0 else 2) + frame.information.length + 2 := rfl
          -- The buffer begins with the opening flag, unless it is empty.
          have hfound : buffer.dropWhile (· != hdlcFlag) = buffer := by
            cases buffer with
            | nil => rfl
            | cons first buffer =>
                have hfirst : first = hdlcFlag := by
                  rw [frameBytes_checked] at hstream
                  exact (List.cons.inj hstream).1
                rw [List.dropWhile_cons, hfirst, bne_self_eq_false, if_neg Bool.false_ne_true]
          have hwait : buffer.length < fullFrameSize frame →
              ∃ found left buffer', frame :: later = found ++ left ∧
                (pushStatus frames, frames,
                  ({ limits := limits, noisePolicy := noisePolicy, buffer := buffer } :
                    HdlcStreamDecoder)) =
                  (pushStatus (frames ++ found), frames ++ found,
                    { limits := limits, noisePolicy := noisePolicy, buffer := buffer' }) ∧
                buffer' ++ rest = streamBytes left ∧ Waiting buffer' left := by
            intro hshort
            refine ⟨[], frame :: later, buffer, rfl, by rw [List.append_nil], hstream, ?_⟩
            intro other hother
            rw [List.head?_cons, Option.mem_def, Option.some.injEq] at hother
            rw [← hother, hlength]
            exact hshort
          unfold extractFrames
          simp only [hfound, ne_eq, not_true_eq_false, false_and, if_false]
          by_cases hthree : buffer.length < 3
          · rw [if_pos hthree]
            exact hwait (by omega)
          · have hformat := frameFormat_fields frame hframe.2.1
            rw [if_neg hthree, format_of_prefix frame buffer rest (streamBytes later) hstream
              (by omega), readFormat frame hframe.2.1, hformat.1, hformat.2.1,
              if_neg (not_not.mpr rfl), if_neg (by omega), if_neg (by
                have hfull := hframe.2.2
                omega), ← hsize]
            by_cases hshort : buffer.length < fullFrameSize frame
            · rw [if_pos hshort]
              exact hwait hshort
            · -- The whole frame is there, and what is behind it begins the rest.
              have htake : buffer.take (fullFrameSize frame) = frameBytes frame := by
                have hboth := congrArg (List.take (fullFrameSize frame)) hstream
                rw [List.take_append_of_le_length (by omega),
                  List.take_left' hlength] at hboth
                exact hboth
              have hdrop : buffer.drop (fullFrameSize frame) ++ rest = streamBytes later := by
                have hboth := congrArg (List.drop (fullFrameSize frame)) hstream
                rw [List.drop_append_of_le_length (by omega),
                  List.drop_left' hlength] at hboth
                exact hboth
              rw [if_neg hshort, htake, decodeFrame_of_fits frame limits hframe]
              simp only
              rcases ih (buffer.drop (fullFrameSize frame)) (frames ++ [frame]) later
                (by rw [List.length_drop]; omega)
                (fun other hother => hfits other (List.mem_cons_of_mem _ hother)) hdrop with
                ⟨found, left, buffer', hlater, hextract, hrest, hwaiting⟩
              refine ⟨frame :: found, left, buffer', by rw [hlater]; rfl, ?_, hrest, hwaiting⟩
              rw [hextract, List.append_assoc]
              rfl

/-- However the octets of some frames are cut, those that are complete come out
    and the rest waits. -/
theorem push_frames (buffer data : Bytes) (later : List HdlcFrame)
    (hfits : ∀ frame ∈ later, Fits frame limits)
    (hstream : buffer ++ data ++ rest = streamBytes later) :
    ∃ found left buffer', later = found ++ left ∧
      push { limits := limits, noisePolicy := noisePolicy, buffer := buffer } data =
        (pushStatus found, found,
          { limits := limits, noisePolicy := noisePolicy, buffer := buffer' }) ∧
      buffer' ++ rest = streamBytes left ∧ Waiting buffer' left :=
  extractFrames_stream limits noisePolicy rest _ (buffer ++ data) [] later (Nat.lt_succ_self _)
    hfits hstream

end Frames

end HdlcStreamDecoder

end Hdlc

end Dlms
