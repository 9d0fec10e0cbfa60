import Dlms.Wrapper.StreamDecoder

/-!
# Wrapper frames that arrive piece by piece

A stream of wrapper frames comes in pieces that are cut anywhere. What the pushes of the pieces
bring, up to the first one that fails, is what a drain of all the octets brings, so it does not
depend on the cut. The octets of encoded frames are drained to these frames, and nothing is left.

No push fails with the status that asks for more octets, so that a failure cannot be taken for a
piece that ends within a frame.

## Main definitions

* `pushAll`: Pieces one after the other, up to the first failure.

## Theorems

* `pushAll_eq`: The pushes drain the octets of the pieces.
* `wrapperRound_wpduBytes`: An encoded frame is found, whatever follows.
* `pushAll_encoded`: Encoded frames come out, and the cut makes no difference to any octets.
-/

namespace Dlms

namespace Wrapper

open Apdu (Bytes)
open Codec (Verdict drain feed)

namespace WrapperStreamDecoder

/-- The pushes of some pieces, up to the first one that fails: its failure, the frames that they
    bring, and the decoder after them. -/
def pushAll (decoder : WrapperStreamDecoder) :
    List Bytes → Option WrapperStatus × List WrapperFrameBuffer × WrapperStreamDecoder
  | [] => (none, [], decoder)
  | data :: later =>
      match decoder.push data with
      | (.ok (), frames, after) =>
          let (failure, more, last) := pushAll after later
          (failure, frames ++ more, last)
      | (.error status, frames, after) =>
          -- A push without a frame asks for more octets, which is no failure.
          if status = .needMoreData then
            let (failure, more, last) := pushAll after later
            (failure, frames ++ more, last)
          else (some status, frames, after)

/-! ### Pieces -/

section Pieces

variable (decoder : WrapperStreamDecoder)

/-- No round fails with the status that asks for more octets. -/
theorem wrapperRound_ne_needMoreData (limits : WrapperCodecLimits) (buffer : Bytes) :
    wrapperRound limits buffer ≠ .refused .needMoreData := by
  intro h
  rw [wrapperRound_eq] at h
  split_ifs at h
  all_goals exact absurd (Verdict.refused.inj h) (by decide)

theorem ne_needMoreData_of_drain (limits : WrapperCodecLimits) (octets : Bytes)
    (frames : List WrapperFrameBuffer) (status : WrapperStatus)
    (h : drain (wrapperRound limits) octets = (frames, .error status)) :
    status ≠ .needMoreData := by
  rcases Codec.refused_of_drain _ (incremental_wrapperRound limits) octets frames status h with
    ⟨later, hrefused⟩
  rintro rfl
  exact wrapperRound_ne_needMoreData limits later hrefused

/-- How pushes end: they leave some octets to wait, or the last one fails. -/
def fed (frames : List WrapperFrameBuffer) (outcome : Except WrapperStatus Bytes) :
    Option WrapperStatus × List WrapperFrameBuffer × WrapperStreamDecoder :=
  match outcome with
  | .ok kept => (none, frames, { decoder with buffer := kept })
  | .error status => (some status, frames, decoder.reset)

theorem fed_append (frames more : List WrapperFrameBuffer)
    (outcome : Except WrapperStatus Bytes) :
    fed decoder (frames ++ more) outcome =
      ((fed decoder more outcome).1, frames ++ (fed decoder more outcome).2.1,
        (fed decoder more outcome).2.2) := by
  cases outcome with
  | ok kept => rfl
  | error status => rfl

/-- The pushes feed the pieces to the rounds. -/
theorem pushAll_eq_feed (pieces : List Bytes) :
    decoder.pushAll pieces =
      fed decoder
        (feed (wrapperRound decoder.limits) (fun _ => false) pieces decoder.buffer).1
        (feed (wrapperRound decoder.limits) (fun _ => false) pieces decoder.buffer).2 := by
  induction pieces generalizing decoder with
  | nil => rfl
  | cons data later ih =>
      unfold pushAll feed
      rw [push_eq]
      rcases hdrain : drain (wrapperRound decoder.limits) (decoder.buffer ++ data) with
        ⟨frames, status | kept⟩
      · have hstatus := ne_needMoreData_of_drain _ _ _ _ hdrain
        rw [finished]
        dsimp only
        rw [if_neg hstatus, if_neg Bool.false_ne_true]
        rfl
      · -- With a frame or without one, the next piece is pushed.
        have hlater := ih { decoder with buffer := kept }
        rw [finished, pushStatus]
        dsimp only
        rw [fed_append]
        by_cases hnone : frames.isEmpty = true
        · rw [if_pos hnone]
          dsimp only
          rw [if_pos rfl, hlater]
          rfl
        · rw [if_neg hnone]
          dsimp only
          rw [hlater]
          rfl

/-- The pushes drain the octets of the pieces, wherever these are cut. -/
theorem pushAll_eq (limits : WrapperCodecLimits) (pieces : List Bytes) :
    pushAll { limits := limits } pieces =
      fed { limits := limits } (drain (wrapperRound limits) pieces.flatten).1
        (drain (wrapperRound limits) pieces.flatten).2 := by
  have hincremental := incremental_wrapperRound limits
  have hfeed := Codec.feed_eq_drain (wrapperRound limits) hincremental (fun _ => false) pieces []
    hincremental.empty (fun _ _ _ => rfl)
  rw [List.nil_append] at hfeed
  rw [pushAll_eq_feed]
  dsimp only
  rw [hfeed]

end Pieces

/-! ### Encoded frames -/

section Encoded

variable (limits : WrapperCodecLimits) (frame : WrapperFrame)

theorem toNat_writeUint16 (value : Nat) (h : value < 65536) :
    (UInt8.ofNat (value / 256)).toNat * 256 + (UInt8.ofNat value).toNat = value := by
  rw [UInt8.toNat_ofNat', UInt8.toNat_ofNat']
  omega

/-- The header says what the frame is. -/
theorem headerOf_wpduBytes (rest : Bytes)
    (hlength : frame.data.length ≤ maximumWrapperDataLength) :
    headerOf (wpduBytes frame ++ rest) =
      { version := wrapperVersion
        sourcePort := frame.sourcePort.toNat
        destinationPort := frame.destinationPort.toNat
        dataLength := frame.data.length } := by
  have hsource := toNat_writeUint16 frame.sourcePort.toNat frame.sourcePort.toNat_lt
  have hdestination := toNat_writeUint16 frame.destinationPort.toNat frame.destinationPort.toNat_lt
  have hdata := toNat_writeUint16 frame.data.length (Nat.lt_succ_of_le hlength)
  simp only [headerOf, wpduBytes, writeUint16, readUint16, Codec.beWordAt, List.cons_append,
    List.nil_append, List.getD_cons_zero, List.getD_cons_succ, WrapperHeader.mk.injEq]
  exact ⟨rfl, hsource, hdestination, hdata⟩

theorem length_wpduBytes : (wpduBytes frame).length = wrapperHeaderSize + frame.data.length := by
  rw [wpduBytes, List.length_append]
  rfl

/-- A frame that fits is found at the start of its octets, whatever follows. -/
theorem wrapperRound_wpduBytes (rest : Bytes) (h : frame.Fits limits) :
    wrapperRound limits (wpduBytes frame ++ rest) = .found frame.buffered rest := by
  have hlength := length_wpduBytes frame
  have hdata := h.dataSize
  have hframe := h.frameSize
  have hwhole : (wpduBytes frame ++ rest).length =
      wrapperHeaderSize + frame.data.length + rest.length := by
    rw [List.length_append, hlength]
  have hbehind : (wpduBytes frame ++ rest).drop wrapperHeaderSize = frame.data ++ rest := rfl
  rw [wrapperRound_eq, headerOf_wpduBytes frame rest h.dataLength]
  dsimp only
  -- Every check of the round is passed.
  rw [if_neg (by omega), if_neg (not_not.mpr rfl), if_neg (by omega), if_neg (by omega),
    if_neg (by omega), h.sourcePort, h.destinationPort, if_neg Bool.false_ne_true,
    if_neg Bool.false_ne_true, hbehind, List.take_left, ← hlength, List.drop_left]
  rfl

/-- Encoded frames are drained to what they were made of. -/
theorem drain_encoded (frames : List WrapperFrame) (encodings : List Bytes)
    (h : List.Forall₂ (fun frame bytes => encodeWpdu frame limits = .ok bytes) frames encodings) :
    drain (wrapperRound limits) encodings.flatten =
      (frames.map WrapperFrame.buffered, .ok []) := by
  have hincremental := incremental_wrapperRound limits
  induction h with
  | nil => exact Codec.drain_of_wait _ [] [] hincremental.empty
  | cons hframe hlater ih =>
      rcases (encodeWpdu_eq_ok _ limits _).mp hframe with ⟨hfits, rfl⟩
      rw [List.flatten_cons, Codec.drain_of_found _ hincremental _ _ _
        (wrapperRound_wpduBytes limits _ _ hfits), ih]
      rfl

end Encoded

/-- Encoded frames come out of a new decoder in order, without a failure and with nothing left,
    wherever their octets are cut. To any octets the cut makes no difference, up to the first
    failure. -/
theorem pushAll_encoded (limits : WrapperCodecLimits) :
    (∀ (frames : List WrapperFrame) (encodings : List Bytes),
      List.Forall₂ (fun frame bytes => encodeWpdu frame limits = .ok bytes) frames encodings →
      ∀ pieces : List Bytes, pieces.flatten = encodings.flatten →
        pushAll { limits := limits } pieces =
          (none, frames.map WrapperFrame.buffered, { limits := limits, buffer := [] })) ∧
    ∀ pieces others : List Bytes, pieces.flatten = others.flatten →
      pushAll { limits := limits } pieces = pushAll { limits := limits } others := by
  constructor
  · intro frames encodings hencoded pieces hpieces
    rw [pushAll_eq, hpieces, drain_encoded limits frames encodings hencoded]
    rfl
  · intro pieces others hsame
    rw [pushAll_eq, pushAll_eq, hsame]

/-- Two frames, one of them without octets, cut within the header of each. -/
theorem pushAll_encoded_twoFrames :
    pushAll { limits := defaultWrapperCodecLimits }
        [[0x00, 0x01, 0x00], [0x10, 0x00, 0x01, 0x00, 0x01, 0x42, 0x00, 0x01],
          [0x00, 0x01, 0x00, 0x10, 0x00, 0x00]] =
      (none, [⟨0x10, 0x01, [0x42]⟩, ⟨0x01, 0x10, []⟩],
        { limits := defaultWrapperCodecLimits, buffer := [] }) :=
  (pushAll_encoded defaultWrapperCodecLimits).1 [⟨0x10, 0x01, [0x42]⟩, ⟨0x01, 0x10, []⟩]
    [[0x00, 0x01, 0x00, 0x10, 0x00, 0x01, 0x00, 0x01, 0x42],
      [0x00, 0x01, 0x00, 0x01, 0x00, 0x10, 0x00, 0x00]]
    (.cons (by rfl) (.cons (by rfl) .nil)) _ rfl

end WrapperStreamDecoder

end Wrapper

end Dlms
