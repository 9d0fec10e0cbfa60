import Dlms.Hdlc.Recoding
import Dlms.Hdlc.Rounds

/-!
# Frames that end within an address

A decoder asks for more octets while there are fewer than the header announces.
An address that is read asks for more too, when the octets come to an end before
the address does, and the decoder passes that on. It has the whole frame by then:
what has come to an end is the frame, and no more octets will make it longer.

The destination has four octets at least in front of the closing flag, as a frame
has eight, and an address of four octets without an end is no address. So only a
source can be cut off, behind a destination that reaches close to the end.

## Main definitions

* `announcedSize`: The size of a frame by its header.
* `InFull`: As many octets as the header announces.
* `CutOff`: A frame whose source runs into the closing flag.
* `Decided`: A round of the stream decoder that neither waits nor drops what it
  has as if it were not complete.

## Theorems

* `fromBytes_eq_needMoreData`: When an address is cut off.
* `decodeFrame_eq_needMoreData`: When the decoder asks for more octets.
* `decided_iff`: When it does so with the whole frame at hand.
* `not_decided`: A frame of eight octets.
-/

namespace Dlms

namespace Hdlc

open Codec (Verdict check_eq_error_iff)

/-! ### Addresses -/

namespace HdlcAddress

/-- An address asks for more when its octets come to an end too early, and none of
    them is marked. The induction is over the octets. -/
theorem scan_eq_needMoreData (rawValue index : Nat) (h : rawValue ≤ maximumRawValue index)
    (data : Bytes) :
    scan rawValue index h data = .error .needMoreData ↔
      index + data.length < 4 ∧ ∀ byte ∈ data, byte &&& 0x01 = 0 := by
  induction data generalizing rawValue index with
  | nil =>
      unfold scan
      by_cases hfour : index ≥ 4
      · rw [if_pos hfour]
        refine iff_of_false (by simp) ?_
        rintro ⟨hshort, -⟩
        rw [List.length_nil] at hshort
        omega
      · rw [if_neg hfour]
        refine iff_of_true rfl ⟨by rw [List.length_nil]; omega, fun byte hbyte => ?_⟩
        exact absurd hbyte List.not_mem_nil
  | cons byte rest ih =>
      unfold scan
      dsimp only
      by_cases hfour : index ≥ 4
      · rw [if_pos hfour]
        refine iff_of_false (by simp) ?_
        rintro ⟨hshort, -⟩
        omega
      rw [if_neg hfour]
      by_cases hmarked : byte &&& 0x01 ≠ 0
      · -- A marked octet ends the address, for better or worse.
        rw [if_pos hmarked]
        refine iff_of_false ?_ fun hall => hmarked (hall.2 byte List.mem_cons_self)
        split_ifs
        · simp
        · simp
      · rw [if_neg hmarked, ih, List.length_cons, List.forall_mem_cons]
        constructor
        · rintro ⟨hshort, hrest⟩
          exact ⟨by omega, not_not.mp hmarked, hrest⟩
        · rintro ⟨hshort, -, hrest⟩
          exact ⟨by omega, hrest⟩

/-- Fewer than four octets, and no end among them. -/
theorem fromBytes_eq_needMoreData (data : Bytes) :
    fromBytes data = .error .needMoreData ↔
      data.length < 4 ∧ ∀ byte ∈ data, byte &&& 0x01 = 0 := by
  rw [fromBytes, scan_eq_needMoreData, Nat.zero_add]

end HdlcAddress

/-! ### Frames -/

/-- Octets of a frame with its flags, by its header. -/
def announcedSize (input : Bytes) : Nat := readUint16HighByteFirst input 1 % 2048 + 2

/-- Octets that begin with a flag, and are as many as their header announces. -/
structure InFull (input : Bytes) : Prop where
  flag : input.getD 0 0 = hdlcFlag
  header : 3 ≤ input.length
  size : announcedSize input ≤ input.length

/-- The source runs into the closing flag: fewer than four octets are left for it
    behind the destination, and none of them ends it. -/
def SourceCutOff (input : Bytes) : Prop :=
  ∃ destination : HdlcAddress,
    HdlcAddress.fromBytes (slice input 3 (input.length - 4)) =
        .ok (destination, destination.encodedSize) ∧
      input.length - 4 - destination.encodedSize < 4 ∧
      ∀ byte ∈ slice input (3 + destination.encodedSize)
        (input.length - 4 - destination.encodedSize), byte &&& 0x01 = 0

/-- A frame that is well formed but for its source. -/
structure CutOff (limits : HdlcCodecLimits) (input : Bytes) : Prop where
  opening : input.getD 0 0 = hdlcFlag
  closing : input.getD (input.length - 1) 0 = hdlcFlag
  type : readUint16HighByteFirst input 1 / 4096 = frameFormatType3 / 4096
  whole : input.length = announcedSize input
  minimum : 8 ≤ input.length
  maximum : input.length ≤ effectiveMaximumFrameSize limits
  source : SourceCutOff input

section Frames

variable (limits : HdlcCodecLimits) (input : Bytes)

/-- A header asks for more when its source is cut off. -/
theorem decodeHeader_eq_needMoreData (hsize : 8 ≤ input.length) :
    decodeHeader input input.length = .error .needMoreData ↔ SourceCutOff input := by
  have hfirst : input.length - 1 - 3 = input.length - 4 := by omega
  unfold decodeHeader SourceCutOff
  rw [hfirst]
  rcases hdestination : HdlcAddress.fromBytes (slice input 3 (input.length - 4)) with
    status | ⟨destination, consumed⟩
  · -- Four octets are enough to find out that there is no destination.
    simp only [bind, Except.bind, reduceCtorEq, false_and, exists_false, iff_false,
      Except.error.injEq]
    rintro rfl
    have hshort := ((HdlcAddress.fromBytes_eq_needMoreData _).mp hdestination).1
    rw [slice, List.length_take, List.length_drop] at hshort
    omega
  · have hconsumed := (HdlcAddress.take_of_fromBytes _ _ _ hdestination).1
    have hroom := (HdlcAddress.take_of_fromBytes _ _ _ hdestination).2.1
    rw [slice, List.length_take, List.length_drop] at hroom
    have hsecond : input.length - 1 - (3 + consumed) =
        input.length - 4 - destination.encodedSize := by
      omega
    have hlength : (slice input (3 + consumed)
        (input.length - 4 - destination.encodedSize)).length =
          input.length - 4 - destination.encodedSize := by
      rw [slice, List.length_take, List.length_drop]
      omega
    have hsource := HdlcAddress.fromBytes_eq_needMoreData
      (slice input (3 + consumed) (input.length - 4 - destination.encodedSize))
    rw [hlength] at hsource
    have hcases : (∃ other : HdlcAddress,
        (Except.ok (destination, consumed) : Except HdlcStatus (HdlcAddress × Nat)) =
            .ok (other, other.encodedSize) ∧
          input.length - 4 - other.encodedSize < 4 ∧
          ∀ byte ∈ slice input (3 + other.encodedSize) (input.length - 4 - other.encodedSize),
            byte &&& 0x01 = 0) ↔
        input.length - 4 - destination.encodedSize < 4 ∧
          ∀ byte ∈ slice input (3 + consumed) (input.length - 4 - destination.encodedSize),
            byte &&& 0x01 = 0 := by
      constructor
      · rintro ⟨other, hother, hrest⟩
        rcases Prod.mk.inj (Except.ok.inj hother) with ⟨rfl, hsame⟩
        rw [hsame]
        exact hrest
      · intro hrest
        refine ⟨destination, by rw [hconsumed], ?_⟩
        rw [← hconsumed] at hrest ⊢
        exact hrest
    rw [hcases, ← hsource]
    simp only [bind, Except.bind]
    rw [hsecond]
    rcases HdlcAddress.fromBytes
        (slice input (3 + consumed) (input.length - 4 - destination.encodedSize)) with
      status | ⟨source, later⟩
    · simp
    · -- A source that is read leaves nothing to ask for.
      simp only [reduceCtorEq, iff_false]
      split_ifs
      · simp [throw, throwThe, MonadExceptOf.throw]
      · unfold HdlcControl.decode
        split_ifs
        · simp [pure, Except.pure]
        · simp

/-- What stands behind the header never asks for more. -/
theorem decodeInformation_ne_needMoreData (fullSize : Nat) (segmented : Bool)
    (destination source : HdlcAddress) (control : HdlcControl) (offset : Nat) :
    decodeInformation input fullSize limits segmented destination source control offset ≠
      .error .needMoreData := by
  intro h
  unfold decodeInformation at h
  dsimp only at h
  generalize (if fullSize - 3 - offset = 0 then ([] : Bytes)
    else slice input (offset + 2) (fullSize - 3 - (offset + 2))) = information at h
  split_ifs at h
  all_goals exact absurd (Except.error.inj h) (by decide)

/-- The header announces more octets than there are. -/
structure Begun : Prop where
  opening : input.getD 0 0 = hdlcFlag
  type : readUint16HighByteFirst input 1 / 4096 = frameFormatType3 / 4096
  minimum : 8 ≤ announcedSize input
  maximum : announcedSize input ≤ effectiveMaximumFrameSize limits
  short : input.length < announcedSize input

/-- With all in order in front of the header, the decoder asks for more when octets
    are missing, and when the header does. -/
theorem decodeFrame_of_checked (hopening : input.getD 0 0 = hdlcFlag)
    (htype : readUint16HighByteFirst input 1 / 4096 = frameFormatType3 / 4096)
    (hminimum : 8 ≤ announcedSize input)
    (hmaximum : announcedSize input ≤ effectiveMaximumFrameSize limits) :
    (input.length < announcedSize input → 4 ≤ input.length →
      decodeFrame input limits = .error .needMoreData) ∧
    (input.length = announcedSize input → input.getD (input.length - 1) 0 = hdlcFlag →
      decodeHeader input input.length = .error .needMoreData →
      decodeFrame input limits = .error .needMoreData) := by
  rw [announcedSize] at hminimum hmaximum ⊢
  have hmodulo := Nat.mod_lt (readUint16HighByteFirst input 1) (show 0 < 2048 by decide)
  constructor
  · intro hshort hfour
    rw [decodeFrame, if_neg (by omega), if_neg (not_not.mpr hopening)]
    dsimp only
    rw [if_neg (not_not.mpr htype), if_neg (by omega),
      if_neg (by rw [maximumFormatFieldLength]; omega), if_neg (by omega), if_pos hshort]
  · intro hwhole hclosing hheader
    have hend : readUint16HighByteFirst input 1 % 2048 + 1 = input.length - 1 := by omega
    rw [decodeFrame, if_neg (by omega), if_neg (not_not.mpr hopening)]
    dsimp only
    rw [if_neg (not_not.mpr htype), if_neg (by omega),
      if_neg (by rw [maximumFormatFieldLength]; omega), if_neg (by omega), if_neg (by omega),
      if_neg (by omega), hend, if_neg (not_not.mpr hclosing), ← hwhole, hheader]
    rfl

/-- The decoder asks for more octets when there is no header yet, when the header
    announces more than there are, and when the source is cut off. -/
theorem decodeFrame_eq_needMoreData :
    decodeFrame input limits = .error .needMoreData ↔
      input.length < 4 ∨ Begun limits input ∨ CutOff limits input := by
  by_cases hfour : input.length < 4
  · rw [decodeFrame, if_pos hfour]
    exact iff_of_true rfl (.inl hfour)
  have hlast : input.length = announcedSize input →
      readUint16HighByteFirst input 1 % 2048 + 1 = input.length - 1 := by
    rw [announcedSize]
    omega
  constructor
  · intro h
    unfold decodeFrame at h
    dsimp only at h
    rw [if_neg hfour] at h
    -- Every other refusal has a status of its own.
    rcases (check_eq_error_iff _ _ _ _ (by decide)).mp h with ⟨hopening, h⟩
    rcases (check_eq_error_iff _ _ _ _ (by decide)).mp h with ⟨htype, h⟩
    rcases (check_eq_error_iff _ _ _ _ (by decide)).mp h with ⟨hsix, h⟩
    rcases (check_eq_error_iff _ _ _ _ (by decide)).mp h with ⟨hmaximum, h⟩
    rcases (check_eq_error_iff _ _ _ _ (by decide)).mp h with ⟨hsize, h⟩
    by_cases hshort : input.length < readUint16HighByteFirst input 1 % 2048 + 2
    · refine .inr (.inl ⟨not_not.mp hopening, not_not.mp htype, ?_, ?_, hshort⟩)
      · rw [announcedSize]
        omega
      · rw [announcedSize]
        omega
    · rw [if_neg hshort] at h
      rcases (check_eq_error_iff _ _ _ _ (by decide)).mp h with ⟨hlong, h⟩
      rcases (check_eq_error_iff _ _ _ _ (by decide)).mp h with ⟨hclosing, h⟩
      have hwhole : input.length = announcedSize input := not_not.mp hlong
      have hsame : readUint16HighByteFirst input 1 % 2048 + 2 = input.length := hwhole.symm
      rw [hlast hwhole] at hclosing
      rw [hsame] at h
      refine .inr (.inr ⟨not_not.mp hopening, not_not.mp hclosing, not_not.mp htype, hwhole, ?_, ?_,
        ?_⟩)
      · rw [hwhole, announcedSize]
        omega
      · rw [hwhole, announcedSize]
        omega
      · refine (decodeHeader_eq_needMoreData input ?_).mp ?_
        · rw [hwhole, announcedSize]
          omega
        · rcases hheader : decodeHeader input input.length with
            status | ⟨destination, source, control, offset⟩
          · simp only [hheader, bind, Except.bind] at h
            rw [Except.error.inj h]
          · simp only [hheader, bind, Except.bind] at h
            exact absurd h (decodeInformation_ne_needMoreData limits input _ _ _ _ _ _)
  · rintro (hother | hbegun | hcut)
    · exact absurd hother hfour
    · exact (decodeFrame_of_checked limits input hbegun.opening hbegun.type hbegun.minimum
        hbegun.maximum).1 hbegun.short (Nat.le_of_not_lt hfour)
    · have hminimum := hcut.minimum
      have hmaximum := hcut.maximum
      rw [hcut.whole] at hminimum hmaximum
      exact (decodeFrame_of_checked limits input hcut.opening hcut.type hminimum hmaximum).2
        hcut.whole hcut.closing ((decodeHeader_eq_needMoreData input hcut.minimum).mpr hcut.source)

end Frames

/-! ### The stream decoder -/

/-- A round neither waits nor drops what it has as if it were not complete. -/
structure Decided (limits : HdlcCodecLimits) (noisePolicy : HdlcNoisePolicy) (buffer : Bytes) :
    Prop where
  notWaiting : ∀ kept, HdlcStreamDecoder.round limits noisePolicy buffer ≠ .wait kept
  notDropped : HdlcStreamDecoder.round limits noisePolicy buffer ≠ .refused .needMoreData

/-- A push brings a frame, or a failure that is not for want of octets. -/
def Answered (decoder : HdlcStreamDecoder) (data : Bytes) : Prop :=
  (decoder.push data).2.1 = [] → (decoder.push data).1 ≠ .error .needMoreData

section StreamDecoder

variable (limits : HdlcCodecLimits) (noisePolicy : HdlcNoisePolicy) (input : Bytes)
  (h : InFull input)
include h

/-- Without noise in front, a round is about all the octets. -/
theorem round_of_inFull :
    HdlcStreamDecoder.round limits noisePolicy input = HdlcStreamDecoder.judge limits input := by
  have hall : input.dropWhile (· != hdlcFlag) = input := by
    cases input with
    | nil => rfl
    | cons first input =>
        have hfirst : first = hdlcFlag := h.flag
        rw [hfirst, List.dropWhile_cons_of_neg (by decide)]
  unfold HdlcStreamDecoder.round
  dsimp only
  rw [hall, if_neg (by simp)]

/-- The frame in front announces as much as all the octets do. -/
theorem readHigh_take (hlarge : 8 ≤ announcedSize input) :
    readUint16HighByteFirst (input.take (announcedSize input)) 1 =
      readUint16HighByteFirst input 1 := by
  have hlength : (input.take (announcedSize input)).length = announcedSize input := by
    rw [List.length_take, Nat.min_eq_left h.size]
  have happend := Codec.beWordAt_append (input.take (announcedSize input))
    (input.drop (announcedSize input)) 1 (by omega)
  rw [List.take_append_drop] at happend
  exact happend.symm

/-- A whole frame is not waited for. -/
theorem judge_ne_wait (kept : Bytes) : HdlcStreamDecoder.judge limits input ≠ .wait kept := by
  have hheader := h.header
  have hsize := h.size
  rw [announcedSize] at hsize
  intro hwait
  unfold HdlcStreamDecoder.judge at hwait
  dsimp only at hwait
  rw [if_neg (by omega)] at hwait
  split_ifs at hwait
  · omega
  · revert hwait
    cases decodeFrame _ limits with
    | error status =>
        exact fun hwait => absurd hwait nofun
    | ok frame =>
        exact fun hwait => absurd hwait nofun

/-- The frame in front is dropped as if it were not complete when its source is cut
    off: every other way out has a status of its own. -/
theorem judge_eq_needMoreData :
    HdlcStreamDecoder.judge limits input = .refused .needMoreData ↔
      CutOff limits (input.take (announcedSize input)) := by
  have hheader := h.header
  have hsize := h.size
  have hlength : (input.take (announcedSize input)).length = announcedSize input := by
    rw [List.length_take, Nat.min_eq_left h.size]
  by_cases hsmall : announcedSize input < 8
  · refine iff_of_false ?_ fun hcut => ?_
    · rw [announcedSize] at hsmall
      unfold HdlcStreamDecoder.judge
      dsimp only
      rw [if_neg (by omega)]
      by_cases htype : readUint16HighByteFirst input 1 / 4096 ≠ frameFormatType3 / 4096
      · rw [if_pos htype]
        simp
      · rw [if_neg htype, if_pos (by omega)]
        simp
    · have hminimum := hcut.minimum
      omega
  have hread := readHigh_take input h (by omega)
  have hdecode := decodeFrame_eq_needMoreData limits (input.take (announcedSize input))
  rw [hlength] at hdecode
  have hnot : ¬Begun limits (input.take (announcedSize input)) := by
    intro hbegun
    have hshort := hbegun.short
    have hsame : announcedSize (input.take (announcedSize input)) = announcedSize input :=
      congrArg (· % 2048 + 2) hread
    omega
  constructor
  · intro hjudge
    unfold HdlcStreamDecoder.judge at hjudge
    dsimp only at hjudge
    split_ifs at hjudge with hthree htype hsix hmaximum hshort
    · exact absurd (Verdict.refused.inj hjudge) nofun
    · exact absurd (Verdict.refused.inj hjudge) nofun
    · exact absurd (Verdict.refused.inj hjudge) nofun
    · rcases hframe : decodeFrame (input.take (readUint16HighByteFirst input 1 % 2048 + 2)) limits
        with status | frame
      · simp only [hframe, Verdict.refused.injEq] at hjudge
        rw [hjudge] at hframe
        rcases hdecode.mp hframe with hfew | hbegun | hcut
        · omega
        · exact absurd hbegun hnot
        · exact hcut
      · simp [hframe] at hjudge
  · intro hcut
    have htype := hcut.type
    have hmaximum := hcut.maximum
    have hframe := hdecode.mpr (.inr (.inr hcut))
    rw [hread] at htype
    rw [hlength] at hmaximum
    rw [announcedSize] at hmaximum hsize hsmall hframe
    unfold HdlcStreamDecoder.judge
    dsimp only
    rw [if_neg (by omega), if_neg (not_not.mpr htype), if_neg (by omega), if_neg (by omega),
      if_neg (by omega), hframe]

theorem decided_iff_not_cutOff :
    Decided limits noisePolicy input ↔ ¬CutOff limits (input.take (announcedSize input)) := by
  rw [← judge_eq_needMoreData limits input h, ← round_of_inFull limits noisePolicy input h]
  constructor
  · exact fun hdecided => hdecided.notDropped
  · refine fun hnot => ⟨fun kept => ?_, hnot⟩
    rw [round_of_inFull limits noisePolicy input h]
    exact judge_ne_wait limits input h kept

/-- A push begins with a round on all the octets there are. -/
theorem answered_iff_decided (buffer data : Bytes) (hinput : buffer ++ data = input) :
    Answered { limits := limits, noisePolicy := noisePolicy, buffer := buffer } data ↔
      Decided limits noisePolicy input := by
  have hincremental := HdlcStreamDecoder.incremental_round limits noisePolicy
  unfold Answered
  rw [HdlcStreamDecoder.push_eq]
  dsimp only
  rw [hinput]
  cases hround : HdlcStreamDecoder.round limits noisePolicy input with
  | wait kept =>
      rw [round_of_inFull limits noisePolicy input h] at hround
      exact absurd hround (judge_ne_wait limits input h kept)
  | found frame rest =>
      rw [Codec.drain_of_found _ hincremental input rest frame hround]
      refine iff_of_true (fun hnone => ?_) ⟨fun kept => ?_, ?_⟩
      · revert hnone
        cases (Codec.drain (HdlcStreamDecoder.round limits noisePolicy) rest).2 with
        | error status => exact fun hnone => absurd hnone (List.cons_ne_nil _ _)
        | ok kept => exact fun hnone => absurd hnone (List.cons_ne_nil _ _)
      · rw [hround]
        simp
      · rw [hround]
        simp
  | refused status =>
      rw [Codec.drain_of_refused _ input status hround]
      constructor
      · intro hanswered
        refine ⟨fun kept => ?_, ?_⟩
        · rw [hround]
          simp
        · rw [hround]
          rintro hdropped
          exact hanswered rfl (congrArg Except.error (Verdict.refused.inj hdropped))
      · intro hdecided _ hstatus
        exact hdecided.notDropped
          (hround.trans (congrArg Verdict.refused (Except.error.inj hstatus)))

/-- With the whole frame at hand, the codec asks for more octets when there are
    three, too few for it to look at the header, and when the source is cut off. The
    stream decoder, which looks at three, drops a frame for want of octets in the
    second case only; it waits in neither. -/
theorem decided_iff (memory : Nat) :
    (decodeFrameAllocating memory input limits ≠ .returned (.error .needMoreData) ↔
      (Allocatable memory limits → input.length ≠ 3 ∧ ¬CutOff limits input)) ∧
    ∀ noisePolicy,
      (Decided limits noisePolicy input ↔ ¬CutOff limits (input.take (announcedSize input))) ∧
      ∀ buffer data, buffer ++ data = input →
        (Answered { limits := limits, noisePolicy := noisePolicy, buffer := buffer } data ↔
          ¬CutOff limits (input.take (announcedSize input))) := by
  have hheader := h.header
  refine ⟨?_, fun noisePolicy => ⟨decided_iff_not_cutOff limits noisePolicy input h, ?_⟩⟩
  · by_cases hallocatable : Allocatable memory limits
    · have hnot : ¬Begun limits input := fun hbegun => Nat.not_lt.mpr h.size hbegun.short
      rw [decodeFrameAllocating_eq memory limits input hallocatable]
      simp only [ne_eq, Outcome.returned.injEq, decodeFrame_eq_needMoreData, hnot, false_or,
        not_or, hallocatable, forall_const]
      refine and_congr_left fun _ => ?_
      omega
    · refine iff_of_true ?_ fun hother => absurd hother hallocatable
      unfold decodeFrameAllocating
      cases hassign : assign memory (effectiveMaximumFrameSize limits) with
      | done => exact absurd (allocatable_of_done memory limits hassign) hallocatable
      | badAlloc =>
          simp
      | lengthError => simp
  · intro buffer data hinput
    rw [answered_iff_decided limits noisePolicy input h buffer data hinput]
    exact decided_iff_not_cutOff limits noisePolicy input h

end StreamDecoder

/-- Eight octets, of which the destination takes one. The three that are left do
    not end the source. -/
def cutOffFrame : Bytes := [0x7E, 0xA0, 0x06, 0x03, 0x00, 0x00, 0x00, 0x7E]

theorem inFull_cutOffFrame : InFull cutOffFrame where
  flag := rfl
  header := by decide
  size := by decide

theorem decided_iff_cutOffFrame :
    InFull cutOffFrame ∧
      (decodeFrameAllocating 2049 cutOffFrame defaultHdlcCodecLimits ≠
          .returned (.error .needMoreData) ↔
        (Allocatable 2049 defaultHdlcCodecLimits →
          cutOffFrame.length ≠ 3 ∧ ¬CutOff defaultHdlcCodecLimits cutOffFrame)) :=
  ⟨inFull_cutOffFrame,
    (decided_iff defaultHdlcCodecLimits cutOffFrame inFull_cutOffFrame 2049).1⟩

/-- Neither the codec nor the stream decoder finds out what is wrong with it. -/
theorem not_decided :
    ¬∀ (memory : Nat) (limits : HdlcCodecLimits) (input : Bytes), InFull input →
      decodeFrameAllocating memory input limits ≠ .returned (.error .needMoreData) ∧
      ∀ noisePolicy, Decided limits noisePolicy input ∧
        ∀ buffer data, buffer ++ data = input →
          Answered { limits := limits, noisePolicy := noisePolicy, buffer := buffer } data := by
  intro hall
  have hdecoded := (hall 2049 defaultHdlcCodecLimits cutOffFrame inFull_cutOffFrame).1
  exact hdecoded (by decide +kernel)

end Hdlc

end Dlms
