import Dlms.Hdlc.CApi
import Dlms.Hdlc.Reassembly

/-!
# Another call for what did not fit

A buffer may be too small for an information. The call says so, with the size that
is needed, and a program calls again with a buffer of that size.

A stream decoder keeps the frame among those that wait, so the second call gives
what the first one would have given with that buffer. A reassembler has nothing
left of the segments before: the last frame is the first of a new sequence for it,
and completes that on its own.

## Main definitions

* `StreamRetried`, `ReassemblerRetried`: A second call gives what the first would
  have given with its buffer.
* `NothingBefore`: Of the segments before a frame there is nothing to lose.

## Theorems

* `streamRetried`: A stream decoder loses nothing.
* `reassemblerRetried_iff`: When a reassembler loses nothing.
* `retried_iff`: Both of them.
* `not_retried`: Two segments, and a buffer without room for them.
-/

namespace Dlms

namespace Hdlc

/-! ### The stream decoder -/

/-- A status that neither of two steps fails with. -/
theorem bind_ne_error {α β : Type} (first : Except HdlcStatus α) (later : α → Except HdlcStatus β)
    (status : HdlcStatus) (hfirst : first ≠ .error status)
    (hlater : ∀ value, later value ≠ .error status) : (first >>= later) ≠ .error status := by
  cases first with
  | error other => exact fun h => hfirst (congrArg Except.error (Except.error.inj h))
  | ok value => exact hlater value

theorem fromBytes_ne_outputBufferTooSmall (data : Bytes) :
    HdlcAddress.fromBytes data ≠ .error .outputBufferTooSmall := by
  suffices hscan : ∀ rawValue index h, HdlcAddress.scan rawValue index h data ≠
      .error .outputBufferTooSmall from hscan 0 0 (Nat.zero_le _)
  induction data with
  | nil =>
      intro rawValue index h
      unfold HdlcAddress.scan
      split_ifs
      all_goals simp only [ne_eq, Except.error.injEq, reduceCtorEq, not_false_eq_true]
  | cons byte rest ih =>
      intro rawValue index h
      unfold HdlcAddress.scan
      dsimp only
      split_ifs
      · simp
      · simp
      · simp
      · exact ih _ _ _

/-- Decoding a frame brings a buffer of its own, which is not too small. -/
theorem decodeFrame_ne_outputBufferTooSmall (input : Bytes) (limits : HdlcCodecLimits) :
    decodeFrame input limits ≠ .error .outputBufferTooSmall := by
  unfold decodeFrame
  dsimp only
  iterate 9 refine Codec.check_ne_error _ _ _ _ (by simp) ?_
  refine bind_ne_error _ _ _ ?_ fun header => ?_
  · unfold decodeHeader
    refine bind_ne_error _ _ _ (fromBytes_ne_outputBufferTooSmall _) fun destination => ?_
    refine bind_ne_error _ _ _ (fromBytes_ne_outputBufferTooSmall _) fun source => ?_
    dsimp only
    split_ifs
    · simp [bind, Except.bind, throw, throwThe, MonadExceptOf.throw]
    · refine bind_ne_error _ _ _ ?_ fun control => ?_
      · unfold HdlcControl.decode
        split_ifs
        all_goals simp only [ne_eq, Except.error.injEq, reduceCtorEq, not_false_eq_true]
      · simp [pure, Except.pure]
  · unfold decodeInformation
    dsimp only
    split_ifs
    all_goals simp only [ne_eq, Except.error.injEq, reduceCtorEq, not_false_eq_true]

/-- Nor is it in a push. -/
theorem pushAllocating_ne_outputBufferTooSmall (memory : Nat) (decoder : HdlcStreamDecoder)
    (data : Bytes) (frames : List HdlcFrame) :
    (decoder.pushAllocating memory data).1 ≠
      .returned (.error .outputBufferTooSmall, frames) := by
  suffices hrounds : ∀ fuel (decoder : HdlcStreamDecoder) before,
      (HdlcStreamDecoder.extractFramesAllocating memory fuel decoder before).1 ≠
        .returned (.error .outputBufferTooSmall, frames) from hrounds _ _ _
  intro fuel
  induction fuel with
  | zero =>
      intro decoder before
      unfold HdlcStreamDecoder.extractFramesAllocating HdlcStreamDecoder.pushStatus
      split_ifs
      all_goals simp only [ne_eq, Outcome.returned.injEq, Prod.mk.injEq, Except.error.injEq,
        reduceCtorEq, false_and, not_false_eq_true]
  | succ fuel ih =>
      intro decoder before
      unfold HdlcStreamDecoder.extractFramesAllocating HdlcStreamDecoder.pushStatus
      dsimp only
      generalize hinput : ((decoder.buffer.dropWhile (· != hdlcFlag)).take
        (readUint16HighByteFirst (decoder.buffer.dropWhile (· != hdlcFlag)) 1 % 2048 + 2)) = input
      split_ifs
      all_goals try simp only [ne_eq, Outcome.returned.injEq, Prod.mk.injEq, Except.error.injEq,
        reduceCtorEq, false_and, not_false_eq_true]
      -- Only what a frame is decoded to is left.
      by_cases hallocatable : Allocatable memory decoder.limits
      · rw [decodeFrameAllocating_eq memory decoder.limits input hallocatable]
        cases hframe : decodeFrame input decoder.limits with
        | error status =>
            simp only [Outcome.returned.injEq, Prod.mk.injEq, Except.error.injEq]
            rintro ⟨rfl, -⟩
            exact decodeFrame_ne_outputBufferTooSmall input decoder.limits hframe
        | ok frame => exact ih _ _
      · unfold decodeFrameAllocating assign
        rw [Allocatable] at hallocatable
        split_ifs
        · simp
        · simp
        · omega

theorem readBytes_ne_outputBufferTooSmall (bytes : CBytes) :
    readBytes bytes ≠ .error .outputBufferTooSmall := by
  cases bytes with
  | null size =>
      by_cases hsize : size ≠ 0
      · rw [readBytes, if_pos hsize]
        simp
      · rw [readBytes, if_neg hsize]
        simp
  | octets bytes => simp [readBytes]

theorem feed_ne_outputBufferTooSmall (memory : Nat) (decoder : CStreamDecoder) (data : Bytes) :
    (decoder.feed memory data).1 ≠ .error .outputBufferTooSmall := by
  unfold CStreamDecoder.feed
  split_ifs
  · simp
  rcases hpush : decoder.decoder.pushAllocating memory data with ⟨⟨status | _, frames⟩ | _, after⟩
  · have hother := pushAllocating_ne_outputBufferTooSmall memory decoder.decoder data frames
    rw [hpush] at hother
    cases status with
    | outputBufferTooSmall => exact absurd rfl hother
    | _ => simp
  · simp
  · simp

/-- What does not fit stays first among those that wait, and fits when there is room
    for it. -/
theorem fetch_retried (decoder : CStreamDecoder) (frame : Option CFrame) (buffer larger : CBuffer)
    (hsmall : (decoder.fetch frame buffer).1.status = .error .outputBufferTooSmall)
    (hsize : (decoder.fetch frame buffer).1.size = some larger.size)
    (haddress : larger.address ≠ 0) :
    (decoder.fetch frame buffer).2 = decoder ∧
      (decoder.fetch frame larger).1.status = .ok () := by
  unfold CStreamDecoder.fetch at hsmall hsize ⊢
  cases hpending : decoder.pending with
  | nil =>
      rw [hpending] at hsmall
      exact absurd (Except.error.inj hsmall) (by decide)
  | cons first rest =>
      simp only [hpending] at hsmall hsize ⊢
      by_cases hover : first.information.length > buffer.size
      · rw [if_pos hover] at hsize ⊢
        have hroom := Option.some.inj hsize
        refine ⟨rfl, ?_⟩
        rw [if_neg (by omega), if_neg fun hnull => haddress hnull.2]
        rfl
      · rw [if_neg hover] at hsmall
        split_ifs at hsmall
        · exact absurd (Except.error.inj hsmall) (by decide)
        · exact absurd hsmall (by simp [delivered])

/-- The call again, without new octets and with a buffer of the size that the first
    one has asked for, gives what the first one would have given with that buffer,
    and leaves the same behind. It gives out a frame. -/
def StreamRetried (memory : Nat) (decoder : CStreamDecoder) (data : CBytes)
    (frame : Option CFrame) (buffer larger : CBuffer) (hasInformationSize : Bool) : Prop :=
  let first := dlmsHdlcStreamDecoderPush memory decoder data frame buffer hasInformationSize
  let again := dlmsHdlcStreamDecoderPush memory first.2 (.null 0) frame larger hasInformationSize
  again = dlmsHdlcStreamDecoderPush memory decoder data frame larger hasInformationSize ∧
    again.1.status = .ok ()

theorem streamRetried (memory : Nat) (decoder : CStreamDecoder) (data : CBytes)
    (frame : Option CFrame) (buffer larger : CBuffer) (hasInformationSize : Bool)
    (hsmall : (dlmsHdlcStreamDecoderPush memory decoder data frame buffer
      hasInformationSize).1.status = .error .outputBufferTooSmall)
    (hsize : (dlmsHdlcStreamDecoderPush memory decoder data frame buffer
      hasInformationSize).1.size = some larger.size) (haddress : larger.address ≠ 0) :
    StreamRetried memory decoder data frame buffer larger hasInformationSize := by
  unfold StreamRetried
  unfold dlmsHdlcStreamDecoderPush at hsmall hsize ⊢
  by_cases hgiven : frame = none ∨ hasInformationSize = false
  · rw [if_pos hgiven] at hsmall
    exact absurd (Except.error.inj hsmall) (by decide)
  simp only [if_neg hgiven] at hsmall hsize ⊢
  cases hdata : readBytes data with
  | error status =>
      rw [hdata] at hsmall
      rw [Except.error.inj hsmall] at hdata
      exact absurd hdata (readBytes_ne_outputBufferTooSmall data)
  | ok octets =>
      simp only [hdata] at hsmall hsize ⊢
      rcases hfeed : decoder.feed memory octets with ⟨status | _, after⟩
      · have hother := feed_ne_outputBufferTooSmall memory decoder octets
        rw [hfeed] at hsmall hother
        exact absurd (congrArg Except.error (Except.error.inj hsmall)) hother
      · simp only [hfeed] at hsmall hsize ⊢
        rcases fetch_retried after frame buffer larger hsmall hsize haddress with ⟨hkept, hok⟩
        rw [hkept]
        exact ⟨rfl, hok⟩

/-! ### The reassembler -/

/-- Of the segments before a frame there is nothing to lose: there are none, or they
    have no information and the control field of the frame, which has room alone. -/
def NothingBefore (reassembler : HdlcReassembler) (inputFrame : CInputFrame) : Prop :=
  ∀ frame pending, toCppFrame inputFrame = .ok frame →
    reassembler.pendingFrame = some pending →
    pending.information = [] ∧ pending.control = frame.control ∧
      frame.information.length ≤ effectiveMaximumReassembledInformationSize reassembler.limits

/-- The call again, with the same frame and with a buffer of the size that the first
    one has asked for, gives what the first one would have given with that buffer,
    and leaves the same behind. It gives out a frame. -/
def ReassemblerRetried (reassembler : HdlcReassembler) (inputFrame : CInputFrame)
    (outputFrame : Option CFrame) (buffer larger : CBuffer) (hasSize hasCompleted : Bool) : Prop :=
  let first := dlmsHdlcReassemblerPushFrame reassembler (some inputFrame) outputFrame buffer
    hasSize hasCompleted
  let again := dlmsHdlcReassemblerPushFrame first.2 (some inputFrame) outputFrame larger
    hasSize hasCompleted
  again = dlmsHdlcReassemblerPushFrame reassembler (some inputFrame) outputFrame larger
      hasSize hasCompleted ∧
    again.1.status = .ok ()

theorem toCppFrame_ne_outputBufferTooSmall (inputFrame : CInputFrame) :
    toCppFrame inputFrame ≠ .error .outputBufferTooSmall := by
  have hraw : ∀ (rawValue : UInt32) (size : Nat),
      HdlcAddress.fromRaw rawValue size ≠ .error .outputBufferTooSmall := by
    intro rawValue size
    unfold HdlcAddress.fromRaw
    split_ifs
    all_goals simp only [ne_eq, Except.error.injEq, reduceCtorEq, not_false_eq_true]
  unfold toCppFrame
  refine bind_ne_error _ _ _ (readBytes_ne_outputBufferTooSmall _) fun information => ?_
  refine bind_ne_error _ _ _ (hraw _ _) fun destination => ?_
  refine bind_ne_error _ _ _ (hraw _ _) fun source => ?_
  refine bind_ne_error _ _ _ ?_ fun control => ?_
  · unfold HdlcControl.decode
    split_ifs
    all_goals simp only [ne_eq, Except.error.injEq, reduceCtorEq, not_false_eq_true]
  · simp [pure, Except.pure]

section Reassembler

variable (reassembler : HdlcReassembler) (inputFrame : CInputFrame) (outputFrame : Option CFrame)
  (buffer : CBuffer) (hasSize hasCompleted : Bool)

/-- Of the frames that do not complete anything none is too large for a buffer. -/
theorem pushFrame_ne_outputBufferTooSmall (frame : HdlcFrame) :
    (reassembler.pushFrame frame).1 ≠ .error .outputBufferTooSmall := by
  have hpushed := HdlcReassembler.pushed_pushFrame reassembler frame
  generalize (reassembler.pushFrame frame).1 = answer at hpushed ⊢
  generalize (reassembler.pushFrame frame).2 = after at hpushed
  cases hpushed with
  | tooLarge hnone hlarge =>
      simp
  | whole hnone hfits hlast => simp
  | begun hnone hfits hmore =>
      simp
  | other pending hpending hother =>
      simp
  | overflow pending hpending hcontinues hover =>
      simp
  | continued pending hpending hcontinues hroom hmore =>
      simp
  | completed pending hpending hcontinues hroom hlast =>
      simp

/-- The answer with a completed frame. -/
def completing (completed : HdlcFrame) (buffer : CBuffer) : CAnswer :=
  { delivered completed buffer with hasCompletedFrame := some 1 }

/-- What a call that has all its pointers gives. -/
theorem reassemblerPush_of_given (frame : HdlcFrame)
    (hgiven : ¬(outputFrame = none ∨ hasSize = false ∨ hasCompleted = false))
    (hframe : toCppFrame inputFrame = .ok frame) (completed : HdlcFrame)
    (after : HdlcReassembler) (hpush : reassembler.pushFrame frame = (.ok completed, after))
    (hroom : completed.information.length ≤ buffer.size) (haddress : buffer.address ≠ 0) :
    dlmsHdlcReassemblerPushFrame reassembler (some inputFrame) outputFrame buffer hasSize
        hasCompleted =
      (completing completed buffer, after) := by
  unfold dlmsHdlcReassemblerPushFrame
  dsimp only
  rw [if_neg hgiven, hframe]
  dsimp only
  rw [hpush]
  dsimp only
  rw [if_neg (Nat.not_lt.mpr hroom), if_neg fun hnull => haddress hnull.2]
  rfl

/-- A call that has not enough room has completed a frame, and asks for its size. -/
theorem completed_of_tooSmall
    (hsmall : (dlmsHdlcReassemblerPushFrame reassembler (some inputFrame) outputFrame buffer
      hasSize hasCompleted).1.status = .error .outputBufferTooSmall) :
    ¬(outputFrame = none ∨ hasSize = false ∨ hasCompleted = false) ∧
      ∃ frame completed, toCppFrame inputFrame = .ok frame ∧
        (reassembler.pushFrame frame).1 = .ok completed ∧
        (dlmsHdlcReassemblerPushFrame reassembler (some inputFrame) outputFrame buffer hasSize
            hasCompleted).1.size = some completed.information.length ∧
        (dlmsHdlcReassemblerPushFrame reassembler (some inputFrame) outputFrame buffer hasSize
            hasCompleted).2 = (reassembler.pushFrame frame).2 := by
  unfold dlmsHdlcReassemblerPushFrame at hsmall ⊢
  dsimp only at hsmall ⊢
  by_cases hgiven : outputFrame = none ∨ hasSize = false ∨ hasCompleted = false
  · rw [if_pos hgiven] at hsmall
    exact absurd (Except.error.inj hsmall) (by decide)
  rw [if_neg hgiven] at hsmall ⊢
  refine ⟨hgiven, ?_⟩
  cases hframe : toCppFrame inputFrame with
  | error status =>
      rw [hframe] at hsmall
      rw [Except.error.inj hsmall] at hframe
      exact absurd hframe (toCppFrame_ne_outputBufferTooSmall inputFrame)
  | ok frame =>
      rw [hframe] at hsmall
      dsimp only at hsmall ⊢
      rcases hpush : reassembler.pushFrame frame with ⟨status | completed, after⟩
      · rw [hpush] at hsmall
        have hother := pushFrame_ne_outputBufferTooSmall reassembler frame
        rw [hpush] at hother
        exact absurd (congrArg Except.error (Except.error.inj hsmall)) hother
      · rw [hpush] at hsmall
        dsimp only at hsmall ⊢
        refine ⟨frame, completed, rfl, congrArg Prod.fst hpush, ?_⟩
        rw [hpush]
        split_ifs at hsmall ⊢
        · exact ⟨rfl, rfl⟩
        · exact absurd (Except.error.inj hsmall) (by decide)
        · exact absurd hsmall (by simp [delivered])

/-- A frame that completes something completes itself or a sequence. -/
theorem completed_of_pushFrame (frame completed : HdlcFrame)
    (h : (reassembler.pushFrame frame).1 = .ok completed) :
    (reassembler.pendingFrame = none ∧ completed = frame ∧
        (reassembler.pushFrame frame).2 = reassembler) ∨
      ∃ pending, reassembler.pendingFrame = some pending ∧ Continues pending frame ∧
        frame.segmented = false ∧
        completed = { pending with
          segmented := false
          information := pending.information ++ frame.information } ∧
        (reassembler.pushFrame frame).2 = reassembler.reset := by
  have hpushed := HdlcReassembler.pushed_pushFrame reassembler frame
  rw [h] at hpushed
  generalize (reassembler.pushFrame frame).2 = after at hpushed
  cases hpushed with
  | whole hnone hfits hlast => exact .inl ⟨hnone, rfl, rfl⟩
  | completed pending hpending hcontinues hroom hlast =>
      exact .inr ⟨pending, hpending, hcontinues, hlast, rfl, rfl⟩

/-- The last segment on its own is a frame on its own, if it has room. -/
theorem pushFrame_of_reset (frame : HdlcFrame) (hlast : frame.segmented = false) :
    reassembler.reset.pushFrame frame =
      if frame.information.length >
          effectiveMaximumReassembledInformationSize reassembler.limits then
        (.error .segmentationOverflow, reassembler.reset)
      else (.ok frame, reassembler.reset) := by
  unfold HdlcReassembler.pushFrame HdlcReassembler.reset
  dsimp only
  rw [hlast, Bool.not_false, if_pos rfl]

/-- A second call gives the same exactly when there was nothing before the frame. -/
theorem reassemblerRetried_iff (larger : CBuffer)
    (hsmall : (dlmsHdlcReassemblerPushFrame reassembler (some inputFrame) outputFrame buffer
      hasSize hasCompleted).1.status = .error .outputBufferTooSmall)
    (hsize : (dlmsHdlcReassemblerPushFrame reassembler (some inputFrame) outputFrame buffer
      hasSize hasCompleted).1.size = some larger.size) (haddress : larger.address ≠ 0) :
    ReassemblerRetried reassembler inputFrame outputFrame buffer larger hasSize hasCompleted ↔
      NothingBefore reassembler inputFrame := by
  rcases completed_of_tooSmall reassembler inputFrame outputFrame buffer hasSize hasCompleted
    hsmall with ⟨hgiven, frame, completed, hframe, hcompleted, hasked, hcall⟩
  have hroom : completed.information.length = larger.size :=
    Option.some.inj (hasked.symm.trans hsize)
  have hdirect := reassemblerPush_of_given reassembler inputFrame outputFrame larger hasSize
    hasCompleted frame hgiven hframe completed (reassembler.pushFrame frame).2
    (Prod.ext hcompleted rfl) (Nat.le_of_eq hroom) haddress
  unfold ReassemblerRetried NothingBefore
  dsimp only
  rw [hcall, hdirect]
  rcases completed_of_pushFrame reassembler frame completed hcompleted with
    ⟨hnone, hsame, hafter⟩ | ⟨pending, hpending, hcontinues, hlast, hsame, hafter⟩
  · -- The frame is a sequence of its own, and nothing has changed.
    rw [hafter] at hdirect ⊢
    rw [hdirect]
    refine iff_of_true ⟨rfl, rfl⟩ fun other pending _ hpending => ?_
    exact absurd (hpending.symm.trans hnone) (Option.some_ne_none _)
  rw [hafter]
  have hagain := pushFrame_of_reset reassembler frame hlast
  have hlength : frame.information.length ≤ larger.size := by
    rw [← hroom, hsame, List.length_append]
    omega
  constructor
  · rintro ⟨hequal, hok⟩ other first hother hfirst
    rw [← Except.ok.inj (hframe.symm.trans hother), ← Option.some.inj (hpending.symm.trans hfirst)]
    by_cases hover : frame.information.length >
        effectiveMaximumReassembledInformationSize reassembler.limits
    · -- The frame has only had room behind another.
      rw [if_pos hover] at hagain
      unfold dlmsHdlcReassemblerPushFrame at hok
      dsimp only at hok
      rw [if_neg hgiven, hframe] at hok
      dsimp only at hok
      rw [hagain] at hok
      exact absurd hok (by simp [refused])
    · rw [if_neg hover] at hagain
      rw [reassemblerPush_of_given reassembler.reset inputFrame outputFrame larger hasSize
        hasCompleted frame hgiven hframe frame _ hagain hlength haddress, hsame] at hequal
      have hanswer := congrArg Prod.fst hequal
      have hwritten : frame.information = pending.information ++ frame.information :=
        congrArg CAnswer.written hanswer
      have hcontrol := congrArg (fun answer => answer.frame.map CFrame.control) hanswer
      refine ⟨List.append_left_eq_self.mp hwritten.symm, ?_, Nat.le_of_not_lt hover⟩
      rcases frame with ⟨_, _, _, ⟨control, _⟩, _⟩
      rcases pending with ⟨_, _, _, ⟨control', _⟩, _⟩
      have hoctet : control = control' := Option.some.inj hcontrol
      simp [hoctet]
  · intro hnothing
    rcases hnothing frame pending hframe hpending with ⟨hempty, hcontrol, hfits⟩
    rw [if_neg (Nat.not_lt.mpr hfits)] at hagain
    have hwhole : completed = frame := by
      rcases hcontinues with ⟨hdestination, hsource, -⟩
      rw [hsame, hempty, hcontrol, ← hdestination, ← hsource, ← hlast, List.nil_append]
    rw [reassemblerPush_of_given reassembler.reset inputFrame outputFrame larger hasSize
      hasCompleted frame hgiven hframe frame _ hagain hlength haddress, hwhole]
    exact ⟨rfl, rfl⟩

end Reassembler

/-! ### Both -/

/-- A second call of the stream decoder always gives what the first would have
    given. One of the reassembler does so exactly when there was nothing before the
    frame. -/
theorem retried_iff (memory : Nat) (larger : CBuffer) (haddress : larger.address ≠ 0) :
    (∀ (decoder : CStreamDecoder) (data : CBytes) (frame : Option CFrame) (buffer : CBuffer)
        (hasInformationSize : Bool),
      (dlmsHdlcStreamDecoderPush memory decoder data frame buffer
          hasInformationSize).1.status = .error .outputBufferTooSmall →
      (dlmsHdlcStreamDecoderPush memory decoder data frame buffer
          hasInformationSize).1.size = some larger.size →
      StreamRetried memory decoder data frame buffer larger hasInformationSize) ∧
    ∀ (reassembler : HdlcReassembler) (inputFrame : CInputFrame) (outputFrame : Option CFrame)
        (buffer : CBuffer) (hasSize hasCompleted : Bool),
      (dlmsHdlcReassemblerPushFrame reassembler (some inputFrame) outputFrame buffer hasSize
          hasCompleted).1.status = .error .outputBufferTooSmall →
      (dlmsHdlcReassemblerPushFrame reassembler (some inputFrame) outputFrame buffer hasSize
          hasCompleted).1.size = some larger.size →
      (ReassemblerRetried reassembler inputFrame outputFrame buffer larger hasSize
          hasCompleted ↔
        NothingBefore reassembler inputFrame) :=
  ⟨fun decoder data frame buffer hasInformationSize hsmall hsize =>
      streamRetried memory decoder data frame buffer larger hasInformationSize hsmall hsize
        haddress,
    fun reassembler inputFrame outputFrame buffer hasSize hasCompleted hsmall hsize =>
      reassemblerRetried_iff reassembler inputFrame outputFrame buffer hasSize hasCompleted larger
        hsmall hsize haddress⟩

/-- A segment of one octet, as a program in C has it. -/
def segmentInput (more octet : UInt8) : CInputFrame where
  segmented := more
  destinationAddressRaw := 1
  destinationAddressSize := 1
  sourceAddressRaw := 16
  sourceAddressSize := 1
  control := 0x10
  information := .octets [octet]

theorem retried_iff_segmentInput :
    ReassemblerRetried { limits := defaultHdlcCodecLimits } (segmentInput 0 0x02)
        (some clearFrame) { address := 8, size := 0 } { address := 8, size := 1 } true true ↔
      NothingBefore { limits := defaultHdlcCodecLimits } (segmentInput 0 0x02) :=
  (retried_iff 2049 { address := 8, size := 1 } (by decide)).2
    { limits := defaultHdlcCodecLimits } (segmentInput 0 0x02) (some clearFrame)
    { address := 8, size := 0 } true true (by decide) (by decide)

/-- Two segments and a buffer of one octet. The second call gives the second segment
    as if it were all there is. -/
theorem not_retried :
    ¬∀ (memory : Nat) (limits : Nat → Option HdlcCodecLimits) (calls : List CCall) (handle : Nat)
      (inputFrame : CInputFrame) (outputFrame : Option CFrame) (buffer larger : CBuffer)
      (hasSize hasCompleted : Bool),
      let reassembler :=
        (Machine.final (cCall memory) calls (.create limits limits)).reassemblers handle
      (dlmsHdlcReassemblerPushFrame reassembler (some inputFrame) outputFrame buffer hasSize
          hasCompleted).1.status = .error .outputBufferTooSmall →
      (dlmsHdlcReassemblerPushFrame reassembler (some inputFrame) outputFrame buffer hasSize
          hasCompleted).1.size = some larger.size →
      larger.address ≠ 0 →
      ReassemblerRetried reassembler inputFrame outputFrame buffer larger hasSize
        hasCompleted := by
  intro hall
  have hsame := hall 2049 (fun _ => none)
    [.reassemblerPushFrame (some 0) (some (segmentInput 1 0x01)) (some clearFrame)
      { address := 8, size := 1 } true true] 0 (segmentInput 0 0x02) (some clearFrame)
    { address := 8, size := 1 } { address := 8, size := 2 } true true (by decide) (by decide)
    (by decide)
  exact absurd hsame.1 (by decide)

end Hdlc

end Dlms
