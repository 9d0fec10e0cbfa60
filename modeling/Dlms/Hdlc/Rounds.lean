import Dlms.Codec.Incremental
import Dlms.Hdlc.StreamDecoder
import Mathlib.Data.List.DropRight

/-!
# The rounds of the stream decoder

One round of the loop of the stream decoder looks for a flag, and waits, takes a
frame or refuses what it has found. A round does not depend on octets that come
later, so the decoder is one that is fed piece by piece.

## Main definitions

* `judge`: What becomes of the octets from a flag on.
* `round`: One round of the loop.
* `pushAll`: Octets piece by piece, up to the first failure.

## Theorems

* `push_eq`: A push drains the buffer round by round.
* `incremental_round`: A round does not depend on what comes later.
* `pushAll_eq`: The pushes of some pieces are the pieces fed to the rounds.
-/

namespace Dlms

namespace Hdlc

open Codec (Incremental Verdict drain drainWithin feed residue)

namespace HdlcStreamDecoder

/-- What becomes of the octets from a flag on. -/
def judge (limits : HdlcCodecLimits) (found : Bytes) : Verdict UInt8 HdlcFrame HdlcStatus :=
  if found.length < 3 then .wait found
  else
    let frameFormat := readUint16HighByteFirst found 1
    let formatFieldLength := frameFormat % 2048
    if frameFormat / 4096 ≠ frameFormatType3 / 4096 then .refused .invalidFrameFormat
    else if formatFieldLength < 6 then .refused .invalidFrameLength
    else if formatFieldLength + 2 > effectiveMaximumFrameSize limits then .refused .frameTooLarge
    else if found.length < formatFieldLength + 2 then .wait found
    else
      match decodeFrame (found.take (formatFieldLength + 2)) limits with
      | .error status => .refused status
      | .ok frame => .found frame (found.drop (formatFieldLength + 2))

/-- One round of the loop. -/
def round (limits : HdlcCodecLimits) (noisePolicy : HdlcNoisePolicy) (buffer : Bytes) :
    Verdict UInt8 HdlcFrame HdlcStatus :=
  let found := buffer.dropWhile (· != hdlcFlag)
  if found.length ≠ buffer.length ∧ noisePolicy = .reportError then .refused .invalidFlag
  else judge limits found

/-- How a push ends: with what is kept, or with a failure. -/
def finished (decoder : HdlcStreamDecoder) (frames : List HdlcFrame)
    (outcome : Except HdlcStatus Bytes) :
    Except HdlcStatus Unit × List HdlcFrame × HdlcStreamDecoder :=
  match outcome with
  | .ok kept => (pushStatus frames, frames, { decoder with buffer := kept })
  | .error status => (.error status, frames, decoder.reset)

/-- The loop is a drain of the rounds. -/
theorem extractFrames_eq (fuel : Nat) (decoder : HdlcStreamDecoder) (frames : List HdlcFrame) :
    extractFrames fuel decoder frames =
      finished decoder
        (frames ++ (drainWithin (round decoder.limits decoder.noisePolicy) fuel decoder.buffer).1)
        (drainWithin (round decoder.limits decoder.noisePolicy) fuel decoder.buffer).2 := by
  induction fuel generalizing decoder frames with
  | zero =>
      rw [drainWithin, List.append_nil]
      rfl
  | succ fuel ih =>
      unfold extractFrames drainWithin round judge
      dsimp only
      by_cases hnoise : (decoder.buffer.dropWhile (· != hdlcFlag)).length ≠
          decoder.buffer.length ∧ decoder.noisePolicy = .reportError
      · rw [if_pos hnoise, if_pos hnoise, List.append_nil]
        rfl
      rw [if_neg hnoise, if_neg hnoise]
      split_ifs
      all_goals try
        dsimp only
        rw [List.append_nil]
        rfl
      -- Only a decoded frame leads to another round.
      cases decodeFrame _ decoder.limits with
      | error status =>
          dsimp only
          rw [List.append_nil]
          rfl
      | ok frame =>
          dsimp only
          rw [ih, List.append_assoc]
          rfl

theorem push_eq (decoder : HdlcStreamDecoder) (data : Bytes) :
    decoder.push data =
      finished decoder (drain (round decoder.limits decoder.noisePolicy) (decoder.buffer ++ data)).1
        (drain (round decoder.limits decoder.noisePolicy) (decoder.buffer ++ data)).2 := by
  rw [push, extractFrames_eq, List.nil_append]
  rfl

/-! ### What comes later -/

section Later

variable (limits : HdlcCodecLimits) (noisePolicy : HdlcNoisePolicy)

/-- What has been decided on the octets from a flag on stays decided: a round looks
    at no more of them than their header announces. -/
theorem judge_append (found more : Bytes) (h : ∀ kept, judge limits found ≠ .wait kept) :
    judge limits (found ++ more) = (judge limits found).extend more := by
  by_cases hthree : found.length < 3
  · exact absurd (by rw [judge, if_pos hthree]) (h found)
  have hlength : (found ++ more).length = found.length + more.length := List.length_append
  unfold judge at h ⊢
  have hformat : readUint16HighByteFirst (found ++ more) 1 = readUint16HighByteFirst found 1 :=
    Codec.beWordAt_append found more 1 (by omega)
  rw [hformat, if_neg (by omega)]
  rw [if_neg hthree] at h ⊢
  dsimp only at h ⊢
  by_cases htype : readUint16HighByteFirst found 1 / 4096 ≠ frameFormatType3 / 4096
  · rw [if_pos htype, if_pos htype]
    rfl
  rw [if_neg htype] at h ⊢
  rw [if_neg htype]
  by_cases hsix : readUint16HighByteFirst found 1 % 2048 < 6
  · rw [if_pos hsix, if_pos hsix]
    rfl
  rw [if_neg hsix] at h ⊢
  rw [if_neg hsix]
  by_cases hlarge : readUint16HighByteFirst found 1 % 2048 + 2 > effectiveMaximumFrameSize limits
  · rw [if_pos hlarge, if_pos hlarge]
    rfl
  rw [if_neg hlarge] at h ⊢
  rw [if_neg hlarge]
  by_cases hshort : found.length < readUint16HighByteFirst found 1 % 2048 + 2
  · exact absurd (by rw [if_pos hshort]) (h found)
  -- The whole frame is there, and what comes later is behind it.
  rw [if_neg hshort, if_neg (by omega), List.take_append_of_le_length (by omega),
    List.drop_append_of_le_length (by omega)]
  cases decodeFrame (found.take (readUint16HighByteFirst found 1 % 2048 + 2)) limits with
  | error status => rfl
  | ok frame => rfl

/-- What waits is kept as it is. -/
theorem judge_eq_wait (found kept : Bytes) (h : judge limits found = .wait kept) :
    kept = found := by
  unfold judge at h
  dsimp only at h
  split_ifs at h
  · exact (Verdict.wait.inj h).symm
  · exact (Verdict.wait.inj h).symm
  · revert h
    cases decodeFrame _ limits with
    | error status => exact fun h => absurd h nofun
    | ok frame => exact fun h => absurd h nofun

/-- A frame has eight octets at least, of which none is left. -/
theorem judge_eq_found (found rest : Bytes) (frame : HdlcFrame)
    (h : judge limits found = .found frame rest) : rest.length < found.length := by
  unfold judge at h
  dsimp only at h
  split_ifs at h with hthree htype hsix
  revert h
  cases decodeFrame _ limits with
  | error status => exact fun h => absurd h nofun
  | ok decoded =>
      intro h
      rw [← (Verdict.found.inj h).2, List.length_drop]
      omega

/-- Octets without a flag are nothing to decide on. -/
theorem found_ne_nil (found : Bytes) (h : ∀ kept, judge limits found ≠ .wait kept) :
    found ≠ [] := by
  intro hnil
  rw [hnil] at h
  exact h [] rfl

/-- What a round has decided on stays decided. -/
theorem round_append (buffer more : Bytes)
    (h : ∀ kept, round limits noisePolicy buffer ≠ .wait kept) :
    round limits noisePolicy (buffer ++ more) = (round limits noisePolicy buffer).extend more := by
  have hsuffix := (List.dropWhile_suffix (l := buffer) (· != hdlcFlag)).length_le
  have hmore := (List.dropWhile_suffix (l := more) (· != hdlcFlag)).length_le
  unfold round at h ⊢
  dsimp only at h ⊢
  rw [List.dropWhile_append]
  by_cases hnoise : (buffer.dropWhile (· != hdlcFlag)).length ≠ buffer.length ∧
      noisePolicy = .reportError
  · -- Noise in front is noise in front, whatever comes later.
    have hless := hnoise.1
    have hstill : (if (buffer.dropWhile (· != hdlcFlag)).isEmpty then more.dropWhile (· != hdlcFlag)
        else buffer.dropWhile (· != hdlcFlag) ++ more).length ≠ (buffer ++ more).length := by
      rw [List.length_append]
      split_ifs
      · omega
      · rw [List.length_append]
        omega
    rw [if_pos hnoise, if_pos ⟨hstill, hnoise.2⟩, Verdict.extend]
  · rw [if_neg hnoise] at h ⊢
    have hsome := found_ne_nil limits _ h
    have hempty : ¬ (buffer.dropWhile (· != hdlcFlag)).isEmpty = true := by
      rwa [List.isEmpty_iff]
    simp only [hempty, Bool.false_eq_true, if_false]
    rw [if_neg ?_, judge_append limits _ more h]
    rintro ⟨hless, hpolicy⟩
    rw [List.length_append, List.length_append] at hless
    exact hnoise ⟨by omega, hpolicy⟩

theorem incremental_round : Incremental (round limits noisePolicy) where
  empty := by
    unfold round judge
    rfl
  suffix := by
    intro buffer kept h
    unfold round at h
    dsimp only at h
    split_ifs at h
    rw [judge_eq_wait limits _ kept h]
    exact List.dropWhile_suffix _
  settled := by
    intro buffer kept h
    unfold round at h ⊢
    dsimp only at h ⊢
    split_ifs at h
    have hkept := judge_eq_wait limits _ kept h
    rw [← hkept] at h
    have hagain : kept.dropWhile (· != hdlcFlag) = kept := by
      rw [hkept]
      exact List.dropWhile_idempotent _ _
    rw [hagain, if_neg (by simp), h]
  wait := by
    intro buffer kept h more
    unfold round at h
    dsimp only at h
    split_ifs at h with hnoise
    have hkept := judge_eq_wait limits _ kept h
    -- Where noise is reported there was none, so that nothing has been thrown away.
    by_cases hpolicy : noisePolicy = .reportError
    · have hall : (buffer.dropWhile (· != hdlcFlag)).length = buffer.length := by
        by_contra hless
        exact hnoise ⟨hless, hpolicy⟩
      have hsame := (List.dropWhile_suffix (l := buffer) (· != hdlcFlag)).eq_of_length hall
      rw [hkept, hsame]
    · have hfront : (kept ++ more).dropWhile (· != hdlcFlag) =
          (buffer ++ more).dropWhile (· != hdlcFlag) := by
        rw [List.dropWhile_append, List.dropWhile_append, hkept,
          show (buffer.dropWhile (· != hdlcFlag)).dropWhile (· != hdlcFlag) =
            buffer.dropWhile (· != hdlcFlag) from List.dropWhile_idempotent _ _]
      unfold round
      dsimp only
      rw [hfront, if_neg fun hreported => hpolicy hreported.2,
        if_neg fun hreported => hpolicy hreported.2]
  shorter := by
    intro buffer frame rest h
    unfold round at h
    dsimp only at h
    split_ifs at h
    exact (judge_eq_found limits _ rest frame h).trans_le
      (List.dropWhile_suffix (l := buffer) (· != hdlcFlag)).length_le
  found := by
    intro buffer frame rest h more
    rw [round_append limits noisePolicy buffer more, h]
    · rfl
    · intro kept hwait
      exact absurd (h.symm.trans hwait) nofun
  refused := by
    intro buffer status h more
    rw [round_append limits noisePolicy buffer more, h]
    · rfl
    · intro kept hwait
      exact absurd (h.symm.trans hwait) nofun

end Later

/-! ### Piece by piece -/

/-- A push that asks for more octets has not failed. -/
def asksForMore (status : HdlcStatus) : Bool := status == .needMoreData

/-- The pushes of some pieces, up to the first one that fails: the frames they
    bring, and the decoder after them. -/
def pushAll (decoder : HdlcStreamDecoder) : List Bytes → List HdlcFrame × HdlcStreamDecoder
  | [] => ([], decoder)
  | data :: later =>
      match decoder.push data with
      | (.ok (), frames, after) =>
          let (more, final) := pushAll after later
          (frames ++ more, final)
      | (.error status, frames, after) =>
          if asksForMore status then
            let (more, final) := pushAll after later
            (frames ++ more, final)
          else (frames, after)

/-- The pushes feed the pieces to the rounds. -/
theorem pushAll_eq (decoder : HdlcStreamDecoder) (pieces : List Bytes) :
    (decoder.pushAll pieces).1 =
        (feed (round decoder.limits decoder.noisePolicy) asksForMore pieces decoder.buffer).1 ∧
      (decoder.pushAll pieces).2.buffer = residue
        (feed (round decoder.limits decoder.noisePolicy) asksForMore pieces decoder.buffer).2 := by
  induction pieces generalizing decoder with
  | nil => exact ⟨rfl, rfl⟩
  | cons data later ih =>
      unfold pushAll feed
      rw [push_eq]
      rcases drain (round decoder.limits decoder.noisePolicy) (decoder.buffer ++ data) with
        ⟨frames, status | kept⟩
      · rw [finished]
        dsimp only
        by_cases hmore : asksForMore status = true
        · have hlater := ih decoder.reset
          rw [if_pos hmore, if_pos hmore]
          exact ⟨congrArg (frames ++ ·) hlater.1, hlater.2⟩
        · rw [if_neg hmore, if_neg hmore]
          exact ⟨rfl, rfl⟩
      · -- Without a frame the push asks for more, and goes on as well.
        have hlater := ih { decoder with buffer := kept }
        rw [finished, pushStatus]
        dsimp only
        by_cases hnone : frames.isEmpty = true
        · rw [if_pos hnone]
          exact ⟨congrArg (frames ++ ·) hlater.1, hlater.2⟩
        · rw [if_neg hnone]
          exact ⟨congrArg (frames ++ ·) hlater.1, hlater.2⟩

end HdlcStreamDecoder

end Hdlc

end Dlms
