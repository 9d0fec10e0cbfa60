import Dlms.Hdlc.CutOff

/-!
# Where a stream is cut

A push takes whatever octets have arrived, so a stream comes in pieces that are
cut anywhere. A round of the stream decoder does not depend on later octets, and
a frame that fails ends all, so for the most part the cut makes no difference.

It makes one behind a frame with a cut-off source. The status for it is the one
for an incomplete frame, and so the pushes go on. What stands behind such a frame
is dropped with it when it is in the same piece, and looked at when it is in a
later one.

## Main definitions

* `SplitInvariant`: The pieces bring what the octets bring at once.
* `MeetsCutOff`: The rounds come to a frame whose source is cut off.
* `Refused`: What begins like a frame and is none.
* `Spaced`: Frames with octets other than flags in between.

## Theorems

* `recovers_iff`: The pushes go on behind a failure when they meet a frame with a
  cut-off source.
* `barren_iff`: What brings nothing has only refused frames in it.
* `splitInvariant_iff`: When the cut makes no difference; it makes none to frames
  that are encoded.
* `not_splitInvariant`: A cut-off frame with a whole one behind it.
-/

namespace Dlms

namespace Hdlc

open Codec (Barren Indifferent Recovers Verdict drain residue)

namespace HdlcStreamDecoder

/-- However the octets are cut, their pushes bring the frames that they bring when
    they are pushed at once, and leave the same octets to wait. -/
def SplitInvariant (limits : HdlcCodecLimits) (noisePolicy : HdlcNoisePolicy)
    (octets : Bytes) : Prop :=
  ∀ pieces : List Bytes, pieces.flatten = octets →
    let decoder : HdlcStreamDecoder := { limits := limits, noisePolicy := noisePolicy }
    (decoder.pushAll pieces).1 = (decoder.push octets).2.1 ∧
      (decoder.pushAll pieces).2.buffer = (decoder.push octets).2.2.buffer

/-- Octets in front of a frame that the decoder throws away. -/
structure Noise (noisePolicy : HdlcNoisePolicy) (octets : Bytes) : Prop where
  flagless : hdlcFlag ∉ octets
  ignored : noisePolicy = .reportError → octets = []

/-- Behind frames and noise there is a frame whose source is cut off. -/
inductive MeetsCutOff (limits : HdlcCodecLimits) (noisePolicy : HdlcNoisePolicy) :
    Bytes → Prop
  | here (noise bytes behind : Bytes) (hnoise : Noise noisePolicy noise)
      (hcut : CutOff limits bytes) : MeetsCutOff limits noisePolicy (noise ++ (bytes ++ behind))
  | later (noise bytes behind : Bytes) (frame : HdlcFrame) (hnoise : Noise noisePolicy noise)
      (hframe : decodeFrame bytes limits = .ok frame)
      (hbehind : MeetsCutOff limits noisePolicy behind) :
      MeetsCutOff limits noisePolicy (noise ++ (bytes ++ behind))

/-- Octets that begin with a header for no frame, or are as many as the header says
    and no frame. -/
def Refused (limits : HdlcCodecLimits) (octets : Bytes) : Prop :=
  3 ≤ octets.length ∧
    (readUint16HighByteFirst octets 1 / 4096 ≠ frameFormatType3 / 4096 ∨
      announcedSize octets < 8 ∨
      effectiveMaximumFrameSize limits < announcedSize octets ∨
      announcedSize octets ≤ octets.length ∧
        ∀ frame, decodeFrame (octets.take (announcedSize octets)) limits ≠ .ok frame)

/-- Encoded frames, with octets other than flags in front of each and at the end. -/
inductive Spaced (limits : HdlcCodecLimits) : List HdlcFrame → Bytes → Prop
  | nil (noise : Bytes) (hnoise : hdlcFlag ∉ noise) : Spaced limits [] noise
  | cons (noise bytes octets : Bytes) (frame : HdlcFrame) (frames : List HdlcFrame)
      (hnoise : hdlcFlag ∉ noise) (hframe : encodeFrame frame limits = .ok bytes)
      (hframes : Spaced limits frames octets) :
      Spaced limits (frame :: frames) (noise ++ (bytes ++ octets))

/-! ### Rounds -/

section Rounds

variable (limits : HdlcCodecLimits) (noisePolicy : HdlcNoisePolicy)

theorem dropWhile_flagless (noise : Bytes) (h : hdlcFlag ∉ noise) :
    noise.dropWhile (· != hdlcFlag) = [] := by
  rw [List.dropWhile_eq_nil_iff]
  intro byte hbyte
  rw [bne_iff_ne]
  rintro rfl
  exact h hbyte

theorem dropWhile_of_flag (found : Bytes) (h : found.head? = some hdlcFlag) :
    found.dropWhile (· != hdlcFlag) = found := by
  cases found with
  | nil => rfl
  | cons first found =>
      rw [Option.some.inj h, List.dropWhile_cons_of_neg (by decide)]

/-- A round throws the noise away and judges what is behind it. -/
theorem round_of_noise (noise found : Bytes) (hnoise : Noise noisePolicy noise)
    (hfound : found.head? = some hdlcFlag) :
    round limits noisePolicy (noise ++ found) = judge limits found := by
  have hdrop : (noise ++ found).dropWhile (· != hdlcFlag) = found := by
    rw [List.dropWhile_append, dropWhile_flagless noise hnoise.flagless,
      dropWhile_of_flag found hfound]
    rfl
  unfold round
  dsimp only
  rw [hdrop, if_neg]
  rintro ⟨hless, hpolicy⟩
  rw [hnoise.ignored hpolicy] at hless
  exact hless rfl

/-- Any octets are noise in front of a flag or of nothing, if noise is ignored. -/
theorem noise_of_round (buffer : Bytes)
    (hignored : ¬((buffer.dropWhile (· != hdlcFlag)).length ≠ buffer.length ∧
      noisePolicy = .reportError)) :
    Noise noisePolicy (buffer.takeWhile (· != hdlcFlag)) where
  flagless := by
    intro hflag
    have hother := List.mem_takeWhile_imp hflag
    exact absurd hother (by decide)
  ignored := by
    intro hpolicy
    have hlength := congrArg List.length (List.takeWhile_append_dropWhile (p := (· != hdlcFlag))
      (l := buffer))
    rw [List.length_append] at hlength
    have hall : (buffer.dropWhile (· != hdlcFlag)).length = buffer.length := by
      by_contra hless
      exact hignored ⟨hless, hpolicy⟩
    exact List.eq_nil_of_length_eq_zero (by omega)

/-- A flag is in front of what is judged. -/
theorem head_dropWhile (buffer : Bytes) (hsome : buffer.dropWhile (· != hdlcFlag) ≠ []) :
    (buffer.dropWhile (· != hdlcFlag)).head? = some hdlcFlag := by
  have hhead := List.head?_dropWhile_not (· != hdlcFlag) buffer
  cases hfront : (buffer.dropWhile (· != hdlcFlag)).head? with
  | none => exact absurd (List.head?_eq_none_iff.mp hfront) hsome
  | some first =>
      rw [hfront] at hhead
      simp only [bne_eq_false_iff_eq] at hhead
      rw [hhead]

/-! ### What is judged -/

/-- A frame is found where it stands, with whatever is behind it. -/
theorem judge_of_decodeFrame (bytes behind : Bytes) (frame : HdlcFrame)
    (h : decodeFrame bytes limits = .ok frame) :
    bytes.head? = some hdlcFlag ∧ judge limits (bytes ++ behind) = .found frame behind := by
  have hparts := parts_of_decodeFrame bytes limits frame h
  have hopening := hparts.opening
  have hlength := hparts.length
  have hroom := hparts.room
  have hsize := hparts.size
  have hpositive := headerSize_pos frame
  have hwhole : readUint16HighByteFirst bytes 1 % 2048 + 2 = bytes.length := by omega
  have hfound : judge limits bytes = .found frame [] := by
    unfold judge
    dsimp only
    rw [if_neg (by omega), if_neg (not_not.mpr hparts.type), if_neg (by omega), if_neg (by omega),
      if_neg (by omega), hwhole, List.take_length, h, List.drop_length]
  constructor
  · cases bytes with
    | nil => rw [List.length_nil] at hroom; omega
    | cons first bytes => exact congrArg some hopening
  · rw [judge_append limits bytes behind, hfound]
    · rfl
    · intro kept hwait
      exact absurd (hfound.symm.trans hwait) nofun

/-- So is one whose source is cut off. -/
theorem judge_of_cutOff (bytes behind : Bytes) (h : CutOff limits bytes) :
    bytes.head? = some hdlcFlag ∧
      judge limits (bytes ++ behind) = .refused .needMoreData := by
  have hopening := h.opening
  have hminimum := h.minimum
  have hwhole := h.whole
  have hfull : InFull bytes := ⟨hopening, by omega, by omega⟩
  have hrefused : judge limits bytes = .refused .needMoreData := by
    rw [judge_eq_needMoreData limits bytes hfull, ← hwhole, List.take_length]
    exact h
  constructor
  · cases bytes with
    | nil => rw [List.length_nil] at hminimum; omega
    | cons first bytes => exact congrArg some hopening
  · rw [judge_append limits bytes behind, hrefused]
    · rfl
    · intro kept hwait
      exact absurd (hrefused.symm.trans hwait) nofun

/-- What is found is what the first octets are decoded to. -/
theorem decodeFrame_of_judge (found rest : Bytes) (frame : HdlcFrame)
    (h : judge limits found = .found frame rest) :
    decodeFrame (found.take (announcedSize found)) limits = .ok frame ∧
      rest = found.drop (announcedSize found) := by
  unfold judge at h
  dsimp only at h
  split_ifs at h
  rcases hframe : decodeFrame (found.take (readUint16HighByteFirst found 1 % 2048 + 2)) limits
    with status | decoded
  · simp [hframe] at h
  · simp only [hframe, Verdict.found.injEq] at h
    rcases h with ⟨rfl, rfl⟩
    exact ⟨hframe, rfl⟩

/-- What is dropped for want of octets is there as a whole. -/
theorem inFull_of_judge (found : Bytes) (hflag : found.head? = some hdlcFlag)
    (h : judge limits found = .refused .needMoreData) : InFull found := by
  unfold judge at h
  dsimp only at h
  split_ifs at h with hthree htype hsix hmaximum hshort
  · exact absurd (Verdict.refused.inj h) nofun
  · exact absurd (Verdict.refused.inj h) nofun
  · exact absurd (Verdict.refused.inj h) nofun
  · refine ⟨?_, by omega, by rw [announcedSize]; omega⟩
    cases found with
    | nil => exact absurd hflag (by simp [List.head?_nil])
    | cons first found => exact Option.some.inj hflag

theorem judge_refused_iff (found : Bytes) :
    (∃ cause, judge limits found = .refused cause) ↔ Refused limits found := by
  unfold judge Refused announcedSize
  dsimp only
  by_cases hthree : found.length < 3
  · rw [if_pos hthree]
    refine iff_of_false ?_ fun hrefused => by omega
    rintro ⟨cause, hcause⟩
    cases hcause
  rw [if_neg hthree]
  by_cases htype : readUint16HighByteFirst found 1 / 4096 ≠ frameFormatType3 / 4096
  · rw [if_pos htype]
    exact iff_of_true ⟨_, rfl⟩ ⟨by omega, .inl htype⟩
  rw [if_neg htype]
  by_cases hsix : readUint16HighByteFirst found 1 % 2048 < 6
  · rw [if_pos hsix]
    exact iff_of_true ⟨_, rfl⟩ ⟨by omega, .inr (.inl (by omega))⟩
  rw [if_neg hsix]
  by_cases hlarge : readUint16HighByteFirst found 1 % 2048 + 2 > effectiveMaximumFrameSize limits
  · rw [if_pos hlarge]
    exact iff_of_true ⟨_, rfl⟩ ⟨by omega, .inr (.inr (.inl hlarge))⟩
  rw [if_neg hlarge]
  by_cases hshort : found.length < readUint16HighByteFirst found 1 % 2048 + 2
  · rw [if_pos hshort]
    refine iff_of_false ?_ ?_
    · rintro ⟨cause, hcause⟩
      cases hcause
    · rintro ⟨-, hother | hother | hother | hother⟩
      · exact htype hother
      · omega
      · omega
      · omega
  rw [if_neg hshort]
  rcases decodeFrame (found.take (readUint16HighByteFirst found 1 % 2048 + 2)) limits with
    status | frame
  · refine iff_of_true ⟨status, rfl⟩ ⟨by omega, .inr (.inr (.inr ⟨by omega, fun frame => ?_⟩))⟩
    simp
  · refine iff_of_false ?_ ?_
    · rintro ⟨cause, hcause⟩
      cases hcause
    · rintro ⟨-, hother | hother | hother | hother⟩
      · exact htype hother
      · omega
      · omega
      · exact hother.2 frame rfl

/-! ### What is met -/

/-- What is gone on from is a frame whose source is cut off. The induction is on the
    number of octets. -/
theorem meetsCutOff_of_recovers (octets : Bytes)
    (hrecovers : Recovers (round limits noisePolicy) asksForMore octets) :
    MeetsCutOff limits noisePolicy octets := by
  have hincremental := incremental_round limits noisePolicy
  induction hsize : octets.length using Nat.strongRecOn generalizing octets with
  | ind size ih =>
      rcases hrecovers with ⟨frames, cause, hdrain, hcause⟩
      have hneed : cause = .needMoreData := beq_iff_eq.mp hcause
      have hsplit := List.takeWhile_append_dropWhile (p := (· != hdlcFlag)) (l := octets)
      by_cases hnoise : (octets.dropWhile (· != hdlcFlag)).length ≠ octets.length ∧
          noisePolicy = .reportError
      · -- Noise that is reported is not what is gone on from.
        have hround : round limits noisePolicy octets = .refused .invalidFlag := by
          unfold round
          dsimp only
          rw [if_pos hnoise]
        rw [Codec.drain_of_refused _ octets _ hround] at hdrain
        rw [← Except.error.inj (Prod.mk.inj hdrain).2] at hneed
        cases hneed
      have hround : round limits noisePolicy octets =
          judge limits (octets.dropWhile (· != hdlcFlag)) := by
        unfold round
        dsimp only
        rw [if_neg hnoise]
      cases hjudge : judge limits (octets.dropWhile (· != hdlcFlag)) with
      | wait kept =>
          rw [Codec.drain_of_wait _ octets kept (hround.trans hjudge)] at hdrain
          exact absurd (Prod.mk.inj hdrain).2 (by simp)
      | refused other =>
          rw [Codec.drain_of_refused _ octets other (hround.trans hjudge)] at hdrain
          rw [Except.error.inj (Prod.mk.inj hdrain).2, hneed] at hjudge
          have hflag := head_dropWhile octets (found_ne_nil limits _ (by
            intro kept hwait
            exact absurd (hjudge.symm.trans hwait) nofun))
          have hcut := (judge_eq_needMoreData limits _
            (inFull_of_judge limits _ hflag hjudge)).mp hjudge
          have hhere := MeetsCutOff.here (octets.takeWhile (· != hdlcFlag)) _
            ((octets.dropWhile (· != hdlcFlag)).drop
              (announcedSize (octets.dropWhile (· != hdlcFlag))))
            (noise_of_round noisePolicy octets hnoise) hcut
          rw [List.take_append_drop, hsplit] at hhere
          exact hhere
      | found frame rest =>
          have hshorter := hincremental.shorter octets frame rest (hround.trans hjudge)
          rw [Codec.drain_of_found _ hincremental octets rest frame (hround.trans hjudge)]
            at hdrain
          rcases Prod.mk.inj hdrain with ⟨-, hrest⟩
          have hbehind := ih rest.length (by omega) rest
            ⟨(drain (round limits noisePolicy) rest).1, cause, Prod.ext rfl hrest, hcause⟩ rfl
          rcases decodeFrame_of_judge limits _ rest frame hjudge with ⟨hframe, hrest⟩
          have hlater := MeetsCutOff.later (octets.takeWhile (· != hdlcFlag)) _ rest frame
            (noise_of_round noisePolicy octets hnoise) hframe hbehind
          rw [hrest, List.take_append_drop, hsplit] at hlater
          exact hlater

/-- A frame whose source is cut off is gone on from, behind whatever frames. -/
theorem recovers_of_meetsCutOff (octets : Bytes)
    (hmeets : MeetsCutOff limits noisePolicy octets) :
    Recovers (round limits noisePolicy) asksForMore octets := by
  have hincremental := incremental_round limits noisePolicy
  induction hmeets with
  | here noise bytes behind hnoise hcut =>
      rcases judge_of_cutOff limits bytes behind hcut with ⟨hflag, hjudge⟩
      have hround := round_of_noise limits noisePolicy noise (bytes ++ behind) hnoise (by
        rw [List.head?_append, hflag]
        rfl)
      exact ⟨[], .needMoreData, Codec.drain_of_refused _ _ _ (hround.trans hjudge), rfl⟩
  | later noise bytes behind frame hnoise hframe hbehind ih =>
      rcases ih with ⟨frames, cause, hdrain, hcause⟩
      rcases judge_of_decodeFrame limits bytes behind frame hframe with ⟨hflag, hjudge⟩
      have hround := round_of_noise limits noisePolicy noise (bytes ++ behind) hnoise (by
        rw [List.head?_append, hflag]
        rfl)
      refine ⟨frame :: frames, cause, ?_, hcause⟩
      rw [Codec.drain_of_found _ hincremental _ behind frame (hround.trans hjudge), hdrain]

/-- The pushes go on behind a failure exactly when they meet a frame whose source
    is cut off. -/
theorem recovers_iff (octets : Bytes) :
    Recovers (round limits noisePolicy) asksForMore octets ↔
      MeetsCutOff limits noisePolicy octets :=
  ⟨meetsCutOff_of_recovers limits noisePolicy octets,
    recovers_of_meetsCutOff limits noisePolicy octets⟩

/-- Octets bring nothing when whatever begins with a flag in them is refused. -/
theorem barren_iff (octets : Bytes) :
    Barren (round limits noisePolicy) octets ↔
      ∀ later, later <:+ octets → later.head? = some hdlcFlag → Refused limits later := by
  constructor
  · intro hbarren later hlater hflag
    have hround := round_of_noise limits noisePolicy [] later
      ⟨List.not_mem_nil, fun _ => rfl⟩ hflag
    rw [List.nil_append] at hround
    rw [← judge_refused_iff, ← hround]
    rcases hbarren later hlater with hwait | hrefused
    · -- A flag is not thrown away.
      have hkept := judge_eq_wait limits later [] (hround.symm.trans hwait)
      rw [← hkept] at hflag
      exact absurd hflag (by simp [List.head?_nil])
    · exact hrefused
  · intro hrefused later hlater
    unfold round
    dsimp only
    split_ifs with hnoise
    · exact .inr ⟨_, rfl⟩
    · by_cases hnil : later.dropWhile (· != hdlcFlag) = []
      · rw [hnil]
        exact .inl rfl
      · exact .inr ((judge_refused_iff limits _).mpr
          (hrefused _ ((List.dropWhile_suffix _).trans hlater) (head_dropWhile later hnil)))

/-- Encoded frames come out, and nothing else. -/
theorem drain_of_spaced (frames : List HdlcFrame) (octets : Bytes)
    (h : Spaced limits frames octets) :
    drain (round limits .ignoreUntilOpeningFlag) octets = (frames, .ok []) := by
  have hincremental := incremental_round limits .ignoreUntilOpeningFlag
  induction h with
  | nil noise hnoise =>
      refine Codec.drain_of_wait _ noise [] ?_
      unfold round
      dsimp only
      rw [dropWhile_flagless noise hnoise, if_neg fun hreported => absurd hreported.2
        (by simp)]
      rfl
  | cons noise bytes octets frame frames hnoise hframe hframes ih =>
      rcases (encodeFrame_eq_ok frame limits bytes).mp hframe with ⟨hfits, rfl⟩
      rcases judge_of_decodeFrame limits _ octets frame (decodeFrame_of_fits frame limits hfits)
        with ⟨hflag, hjudge⟩
      have hround := round_of_noise limits .ignoreUntilOpeningFlag noise
        (frameBytes frame ++ octets)
        ⟨hnoise, fun hreported => absurd hreported nofun⟩
        (by
          rw [List.head?_append, hflag]
          rfl)
      rw [Codec.drain_of_found _ hincremental _ octets frame (hround.trans hjudge), ih]

end Rounds

/-! ### Pieces -/

/-- A decoder is fed its pieces. -/
theorem splitInvariant_iff_indifferent (limits : HdlcCodecLimits) (noisePolicy : HdlcNoisePolicy)
    (octets : Bytes) :
    SplitInvariant limits noisePolicy octets ↔
      Indifferent (round limits noisePolicy) asksForMore octets := by
  refine forall_congr' fun pieces => forall_congr' fun _ => ?_
  have hall := pushAll_eq { limits := limits, noisePolicy := noisePolicy } pieces
  have hbuffer : (push { limits := limits, noisePolicy := noisePolicy } octets).2.1 =
        (drain (round limits noisePolicy) octets).1 ∧
      (push { limits := limits, noisePolicy := noisePolicy } octets).2.2.buffer =
        residue (drain (round limits noisePolicy) octets).2 := by
    rw [push_eq, List.nil_append]
    cases (drain (round limits noisePolicy) octets).2 with
    | error status => exact ⟨rfl, rfl⟩
    | ok kept => exact ⟨rfl, rfl⟩
  dsimp only
  rw [hall.1, hall.2, hbuffer.1, hbuffer.2]

/-- The cut makes no difference exactly when nothing but refused frames begins
    behind a frame whose source is cut off. Encoded frames with noise in between
    come out as they are, however they are cut. -/
theorem splitInvariant_iff (limits : HdlcCodecLimits) (noisePolicy : HdlcNoisePolicy)
    (octets : Bytes) :
    (SplitInvariant limits noisePolicy octets ↔
      ∀ before behind, octets = before ++ behind → MeetsCutOff limits noisePolicy before →
        ∀ later, later <:+ behind → later.head? = some hdlcFlag → Refused limits later) ∧
    ∀ frames, Spaced limits frames octets → ∀ pieces : List Bytes, pieces.flatten = octets →
      (pushAll { limits := limits, noisePolicy := .ignoreUntilOpeningFlag } pieces).1 = frames := by
  constructor
  · rw [splitInvariant_iff_indifferent,
      Codec.feed_iff _ (incremental_round limits noisePolicy) asksForMore]
    refine forall_congr' fun before => forall_congr' fun behind => forall_congr' fun _ => ?_
    rw [recovers_iff, barren_iff]
  · rintro frames hspaced pieces rfl
    have hdrain := drain_of_spaced limits frames pieces.flatten hspaced
    have hincremental := incremental_round limits .ignoreUntilOpeningFlag
    rw [(pushAll_eq _ pieces).1, Codec.feed_eq_drain _ hincremental _ _ _ hincremental.empty]
    · rw [List.nil_append, hdrain]
    · intro items cause hrefused
      rw [List.nil_append, hdrain] at hrefused
      exact absurd (Prod.mk.inj hrefused).2 (by simp)

/-- A frame with a cut-off source, and one without information behind it. -/
theorem not_splitInvariant :
    ¬∀ (limits : HdlcCodecLimits) (noisePolicy : HdlcNoisePolicy) (octets : Bytes),
      SplitInvariant limits noisePolicy octets := by
  intro hall
  have hsame := hall defaultHdlcCodecLimits .ignoreUntilOpeningFlag
    (cutOffFrame ++ frameBytes { meterSegment with information := [] })
    [cutOffFrame, frameBytes { meterSegment with information := [] }]
    (by simp)
  exact absurd hsame.1 (by decide +kernel)

end HdlcStreamDecoder

end Hdlc

end Dlms
