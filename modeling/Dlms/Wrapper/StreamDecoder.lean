import Dlms.Codec.Consumer
import Dlms.Wrapper.Codec
import Mathlib.Data.List.GetD

/-!
# Wrapper frames in a stream of octets

A decoder keeps octets until there are as many as the header says, and refuses a
header as soon as it is there.

Every round of its loop that goes on takes a frame from the buffer, so the number
of octets in the buffer is fuel enough.

## Main definitions

* `WrapperStreamDecoder`, `push`: The octets that wait, and more octets.
* `wrapperRound`: One round of the loop.

## Theorems

* `push_eq`: A push drains the buffer round by round.
* `incremental_wrapperRound`, `prompt_wrapperRound`: A round does not depend on
  what comes later.
-/

namespace Dlms

namespace Wrapper

open Apdu (Bytes)
open Codec (Incremental Prompt Verdict drain drainWithin)

structure WrapperStreamDecoder where
  limits : WrapperCodecLimits
  buffer : Bytes := []
  deriving DecidableEq

namespace WrapperStreamDecoder

def reset (decoder : WrapperStreamDecoder) : WrapperStreamDecoder := { decoder with buffer := [] }

/-- The status when no more frames can be taken. -/
def pushStatus (frames : List WrapperFrameBuffer) : Except WrapperStatus Unit :=
  if frames.isEmpty then .error .needMoreData else .ok ()

/-- What is wrong with a header. With more octets than its frame has, others
    follow it. -/
def headerFailure (validated : Except WrapperStatus Unit) : Option WrapperStatus :=
  match validated with
  | .error status => if status = .invalidLength then none else some status
  | .ok () => none

/-- The rounds over the buffer, after some frames. -/
def extractFrames : Nat → WrapperStreamDecoder → List WrapperFrameBuffer →
    Except WrapperStatus Unit × List WrapperFrameBuffer × WrapperStreamDecoder
  | 0, decoder, frames => (pushStatus frames, frames, decoder)
  | fuel + 1, decoder, frames =>
      if decoder.buffer.length < wrapperHeaderSize then (pushStatus frames, frames, decoder)
      else
        match decodeWrapperHeader decoder.buffer with
        | .error status => (.error status, frames, decoder.reset)
        | .ok header =>
            match headerFailure (validateWrapperHeader header decoder.limits
                (decoder.buffer.length - wrapperHeaderSize)) with
            | some status =>
                if status = .needMoreData then (pushStatus frames, frames, decoder)
                else (.error status, frames, decoder.reset)
            | none =>
                let frameSize := wrapperHeaderSize + header.dataLength
                if decoder.buffer.length < frameSize then (pushStatus frames, frames, decoder)
                else
                  match decodeWpdu (decoder.buffer.take frameSize) decoder.limits with
                  | .error status => (.error status, frames, decoder.reset)
                  | .ok frame =>
                      extractFrames fuel { decoder with buffer := decoder.buffer.drop frameSize }
                        (frames ++ [frame])

/-- More octets: the frames that are complete now. -/
def push (decoder : WrapperStreamDecoder) (data : Bytes) :
    Except WrapperStatus Unit × List WrapperFrameBuffer × WrapperStreamDecoder :=
  let decoder := { decoder with buffer := decoder.buffer ++ data }
  extractFrames (decoder.buffer.length + 1) decoder []

/-! ### Rounds -/

/-- One round of the loop. -/
def wrapperRound (limits : WrapperCodecLimits) (buffer : Bytes) :
    Verdict UInt8 WrapperFrameBuffer WrapperStatus :=
  if buffer.length < wrapperHeaderSize then .wait buffer
  else
    match decodeWrapperHeader buffer with
    | .error status => .refused status
    | .ok header =>
        match headerFailure (validateWrapperHeader header limits
            (buffer.length - wrapperHeaderSize)) with
        | some status => if status = .needMoreData then .wait buffer else .refused status
        | none =>
            let frameSize := wrapperHeaderSize + header.dataLength
            if buffer.length < frameSize then .wait buffer
            else
              match decodeWpdu (buffer.take frameSize) limits with
              | .error status => .refused status
              | .ok frame => .found frame (buffer.drop frameSize)

/-- How a push ends: with what is kept, or with a failure. -/
def finished (decoder : WrapperStreamDecoder) (frames : List WrapperFrameBuffer)
    (outcome : Except WrapperStatus Bytes) :
    Except WrapperStatus Unit × List WrapperFrameBuffer × WrapperStreamDecoder :=
  match outcome with
  | .ok kept => (pushStatus frames, frames, { decoder with buffer := kept })
  | .error status => (.error status, frames, decoder.reset)

/-- The loop is a drain of the rounds. -/
theorem extractFrames_eq (fuel : Nat) (decoder : WrapperStreamDecoder)
    (frames : List WrapperFrameBuffer) :
    extractFrames fuel decoder frames =
      finished decoder
        (frames ++ (drainWithin (wrapperRound decoder.limits) fuel decoder.buffer).1)
        (drainWithin (wrapperRound decoder.limits) fuel decoder.buffer).2 := by
  induction fuel generalizing decoder frames with
  | zero =>
      rw [drainWithin, List.append_nil]
      rfl
  | succ fuel ih =>
      unfold extractFrames drainWithin wrapperRound
      by_cases hshort : decoder.buffer.length < wrapperHeaderSize
      · rw [if_pos hshort, if_pos hshort, List.append_nil]
        rfl
      rw [if_neg hshort, if_neg hshort]
      cases decodeWrapperHeader decoder.buffer with
      | error status =>
          dsimp only
          rw [List.append_nil]
          rfl
      | ok header =>
          dsimp only
          cases headerFailure (validateWrapperHeader header decoder.limits
            (decoder.buffer.length - wrapperHeaderSize)) with
          | some status =>
              dsimp only
              split_ifs
              · rw [List.append_nil]
                rfl
              · rw [List.append_nil]
                rfl
          | none =>
              dsimp only
              split_ifs
              · rw [List.append_nil]
                rfl
              -- Only a decoded frame leads to another round.
              · cases decodeWpdu (decoder.buffer.take (wrapperHeaderSize + header.dataLength))
                  decoder.limits with
                | error status =>
                    dsimp only
                    rw [List.append_nil]
                    rfl
                | ok frame =>
                    dsimp only
                    rw [ih, List.append_assoc]
                    rfl

theorem push_eq (decoder : WrapperStreamDecoder) (data : Bytes) :
    decoder.push data =
      finished decoder (drain (wrapperRound decoder.limits) (decoder.buffer ++ data)).1
        (drain (wrapperRound decoder.limits) (decoder.buffer ++ data)).2 := by
  rw [push, extractFrames_eq, List.nil_append]
  rfl

/-! ### What comes later -/

section Later

variable (limits : WrapperCodecLimits)

/-- The header is in the first eight octets. -/
theorem headerOf_append (buffer more : Bytes) (h : wrapperHeaderSize ≤ buffer.length) :
    headerOf (buffer ++ more) = headerOf buffer := by
  have hread (offset : Nat) (hoffset : offset + 1 < wrapperHeaderSize) :
      readUint16 (buffer ++ more) offset = readUint16 buffer offset :=
    Codec.beWordAt_append buffer more offset (by omega)
  rw [headerOf, headerOf, hread 0 (by decide), hread 2 (by decide), hread 4 (by decide),
    hread 6 (by decide)]

theorem headerOf_take (buffer : Bytes) (size : Nat) (hheader : wrapperHeaderSize ≤ size)
    (hsize : size ≤ buffer.length) : headerOf (buffer.take size) = headerOf buffer := by
  have hall := headerOf_append (buffer.take size) (buffer.drop size) (by
    rw [List.length_take]
    omega)
  rw [List.take_append_drop] at hall
  exact hall.symm

/-- What is wrong with a header of this version. -/
theorem headerFailure_validate (header : WrapperHeader) (available : Nat)
    (hversion : header.version = wrapperVersion) :
    headerFailure (validateWrapperHeader header limits available) =
      if header.dataLength > limits.maximumDataSize then some .dataTooLarge
      else if wrapperHeaderSize + header.dataLength > limits.maximumFrameSize then
        some .frameTooLarge
      else if available < header.dataLength then some .needMoreData
      else none := by
  unfold validateWrapperHeader
  rw [if_neg (not_not.mpr hversion)]
  split_ifs
  · rfl
  · rfl
  · rfl
  · rfl
  · rfl

/-- As many octets as a sound header says are decoded, if both ports are there. -/
theorem decodeWpdu_take (buffer : Bytes)
    (hversion : (headerOf buffer).version = wrapperVersion)
    (hdata : (headerOf buffer).dataLength ≤ limits.maximumDataSize)
    (hframe : wrapperHeaderSize + (headerOf buffer).dataLength ≤ limits.maximumFrameSize)
    (hwhole : wrapperHeaderSize + (headerOf buffer).dataLength ≤ buffer.length) :
    decodeWpdu (buffer.take (wrapperHeaderSize + (headerOf buffer).dataLength)) limits =
      if isNoStationWrapperPort (headerOf buffer).sourcePort then .error .invalidSourcePort
      else if isNoStationWrapperPort (headerOf buffer).destinationPort then
        .error .invalidDestinationPort
      else
        .ok
          { sourcePort := (headerOf buffer).sourcePort
            destinationPort := (headerOf buffer).destinationPort
            data := (buffer.drop wrapperHeaderSize).take (headerOf buffer).dataLength } := by
  have hlength : (buffer.take (wrapperHeaderSize + (headerOf buffer).dataLength)).length =
      wrapperHeaderSize + (headerOf buffer).dataLength := by
    rw [List.length_take]
    omega
  have hsame := headerOf_take buffer (wrapperHeaderSize + (headerOf buffer).dataLength)
    (Nat.le_add_right _ _) hwhole
  have hdecoded : decodeWrapperHeader
      (buffer.take (wrapperHeaderSize + (headerOf buffer).dataLength)) =
        .ok (headerOf buffer) := by
    rw [decodeWrapperHeader, hlength, if_neg (by omega), hsame, if_neg (not_not.mpr hversion)]
  have hvalid : validateWrapperHeader (headerOf buffer) limits
      (wrapperHeaderSize + (headerOf buffer).dataLength - wrapperHeaderSize) = .ok () := by
    rw [validateWrapperHeader, if_neg (not_not.mpr hversion), if_neg (by omega),
      if_neg (by omega), if_neg (by omega), if_neg (by omega)]
  rw [decodeWpdu, hdecoded]
  dsimp only
  rw [hlength, hvalid]
  dsimp only
  rw [List.drop_take, List.take_take, Nat.add_sub_cancel_left, Nat.min_self]

/-- A round in terms of the header. -/
theorem wrapperRound_eq (buffer : Bytes) :
    wrapperRound limits buffer =
      if buffer.length < wrapperHeaderSize then .wait buffer
      else if (headerOf buffer).version ≠ wrapperVersion then .refused .invalidVersion
      else if (headerOf buffer).dataLength > limits.maximumDataSize then .refused .dataTooLarge
      else if wrapperHeaderSize + (headerOf buffer).dataLength > limits.maximumFrameSize then
        .refused .frameTooLarge
      else if buffer.length < wrapperHeaderSize + (headerOf buffer).dataLength then .wait buffer
      else if isNoStationWrapperPort (headerOf buffer).sourcePort then
        .refused .invalidSourcePort
      else if isNoStationWrapperPort (headerOf buffer).destinationPort then
        .refused .invalidDestinationPort
      else
        .found
          { sourcePort := (headerOf buffer).sourcePort
            destinationPort := (headerOf buffer).destinationPort
            data := (buffer.drop wrapperHeaderSize).take (headerOf buffer).dataLength }
          (buffer.drop (wrapperHeaderSize + (headerOf buffer).dataLength)) := by
  unfold wrapperRound
  by_cases hshort : buffer.length < wrapperHeaderSize
  · rw [if_pos hshort, if_pos hshort]
  rw [if_neg hshort, if_neg hshort]
  by_cases hversion : (headerOf buffer).version ≠ wrapperVersion
  · rw [decodeWrapperHeader, if_neg hshort, if_pos hversion, if_pos hversion]
  rw [decodeWrapperHeader, if_neg hshort, if_neg hversion, if_neg hversion]
  dsimp only
  rw [headerFailure_validate limits _ _ (not_not.mp hversion)]
  by_cases hdata : (headerOf buffer).dataLength > limits.maximumDataSize
  · rw [if_pos hdata, if_pos hdata]
    rfl
  rw [if_neg hdata, if_neg hdata]
  by_cases hframe : wrapperHeaderSize + (headerOf buffer).dataLength > limits.maximumFrameSize
  · rw [if_pos hframe, if_pos hframe]
    rfl
  rw [if_neg hframe, if_neg hframe]
  by_cases hwhole : buffer.length < wrapperHeaderSize + (headerOf buffer).dataLength
  · rw [if_pos (by omega)]
    dsimp only
    rw [if_pos rfl, if_pos hwhole]
  rw [if_neg (by omega), if_neg hwhole]
  dsimp only
  rw [if_neg hwhole, decodeWpdu_take limits buffer (not_not.mp hversion) (by omega)
    (by omega) (by omega)]
  split_ifs
  · rfl
  · rfl
  · rfl

/-- What a round has decided on stays decided. -/
theorem wrapperRound_append (buffer more : Bytes)
    (h : ∀ kept, wrapperRound limits buffer ≠ .wait kept) :
    wrapperRound limits (buffer ++ more) = (wrapperRound limits buffer).extend more := by
  rw [wrapperRound_eq] at h
  rw [wrapperRound_eq, wrapperRound_eq]
  have hlength : (buffer ++ more).length = buffer.length + more.length := List.length_append
  by_cases hshort : buffer.length < wrapperHeaderSize
  · exact absurd (by rw [if_pos hshort]) (h buffer)
  rw [if_neg hshort] at h ⊢
  rw [if_neg (by omega), headerOf_append buffer more (Nat.le_of_not_lt hshort)]
  by_cases hversion : (headerOf buffer).version ≠ wrapperVersion
  · rw [if_pos hversion, if_pos hversion]
    rfl
  rw [if_neg hversion] at h ⊢
  rw [if_neg hversion]
  by_cases hdata : (headerOf buffer).dataLength > limits.maximumDataSize
  · rw [if_pos hdata, if_pos hdata]
    rfl
  rw [if_neg hdata] at h ⊢
  rw [if_neg hdata]
  by_cases hframe : wrapperHeaderSize + (headerOf buffer).dataLength > limits.maximumFrameSize
  · rw [if_pos hframe, if_pos hframe]
    rfl
  rw [if_neg hframe] at h ⊢
  rw [if_neg hframe]
  by_cases hwhole : buffer.length < wrapperHeaderSize + (headerOf buffer).dataLength
  · exact absurd (by rw [if_pos hwhole]) (h buffer)
  -- The whole frame is there, and what comes later is behind it.
  rw [if_neg hwhole, if_neg (by omega), List.drop_append_of_le_length (by omega),
    List.drop_append_of_le_length (by omega), List.take_append_of_le_length (by
      rw [List.length_drop]
      omega)]
  split_ifs
  · rfl
  · rfl
  · rfl

/-- What waits is kept as it is. -/
theorem eq_of_wait (buffer kept : Bytes) (h : wrapperRound limits buffer = .wait kept) :
    kept = buffer := by
  rw [wrapperRound_eq] at h
  split_ifs at h
  · exact (Verdict.wait.inj h).symm
  · exact (Verdict.wait.inj h).symm

/-- What is behind a frame is shorter by all of it. -/
theorem rest_of_found (buffer rest : Bytes) (frame : WrapperFrameBuffer)
    (h : wrapperRound limits buffer = .found frame rest) :
    rest = buffer.drop (wrapperHeaderSize + (headerOf buffer).dataLength) ∧
      wrapperHeaderSize + (headerOf buffer).dataLength ≤ buffer.length := by
  rw [wrapperRound_eq] at h
  split_ifs at h with hshort hversion hdata hframe hwhole
  exact ⟨(Verdict.found.inj h).2.symm, Nat.le_of_not_lt hwhole⟩

theorem incremental_wrapperRound : Incremental (wrapperRound limits) where
  empty := by rw [wrapperRound_eq, if_pos (by decide)]
  suffix := by
    intro buffer kept h
    exact (eq_of_wait limits buffer kept h).symm ▸ List.suffix_refl buffer
  settled := by
    intro buffer kept h
    have hsame := eq_of_wait limits buffer kept h
    rw [hsame] at h ⊢
    exact h
  wait := by
    intro buffer kept h more
    rw [eq_of_wait limits buffer kept h]
  shorter := by
    intro buffer frame rest h
    rcases rest_of_found limits buffer rest frame h with ⟨rfl, hwhole⟩
    have hpositive : 0 < wrapperHeaderSize := by decide
    rw [List.length_drop]
    omega
  found := by
    intro buffer frame rest h more
    rw [wrapperRound_append limits buffer more, h]
    · rfl
    · intro kept hwait
      exact absurd (h.symm.trans hwait) nofun
  refused := by
    intro buffer status h more
    rw [wrapperRound_append limits buffer more, h]
    · rfl
    · intro kept hwait
      exact absurd (h.symm.trans hwait) nofun

/-- A frame is found as soon as its last octet is there. -/
theorem prompt_wrapperRound : Prompt (wrapperRound limits) := by
  intro buffer frame rest h
  rcases rest_of_found limits buffer rest frame h with ⟨rfl, hwhole⟩
  refine ⟨buffer.take (wrapperHeaderSize + (headerOf buffer).dataLength),
    (List.take_append_drop _ _).symm, ?_⟩
  have hlength : (buffer.take (wrapperHeaderSize + (headerOf buffer).dataLength)).length =
      wrapperHeaderSize + (headerOf buffer).dataLength := by
    rw [List.length_take]
    omega
  have hsame := headerOf_take buffer (wrapperHeaderSize + (headerOf buffer).dataLength)
    (Nat.le_add_right _ _) hwhole
  have hnone : (buffer.take (wrapperHeaderSize + (headerOf buffer).dataLength)).drop
      (wrapperHeaderSize + (headerOf buffer).dataLength) = [] :=
    List.drop_of_length_le (Nat.le_of_eq hlength)
  rw [wrapperRound_eq] at h ⊢
  rw [hlength, hsame]
  split_ifs at h with hshort hversion hdata hframe hlong hsource hdestination
  rw [if_neg (by omega), if_neg hversion, if_neg hdata, if_neg hframe, if_neg (by omega),
    if_neg hsource, if_neg hdestination, hnone, ← (Verdict.found.inj h).1, List.drop_take,
    List.take_take, Nat.add_sub_cancel_left, Nat.min_self]

end Later

end WrapperStreamDecoder

end Wrapper

end Dlms
