import Dlms.Hdlc.Segmentation
import Dlms.Machine.Run

/-!
# What a reassembler holds

The information of a sequence of segments is bounded. The first frame is compared
with the bound itself, and each of the others with the room that is left.

The room that is left is a difference of sizes, which goes round when a frame alone
is larger than the bound. There is plenty of room then, and the frame is taken. So
the bound holds as long as no frame that continues a sequence is larger than it.

## Main definitions

* `Pushed`: The ways a frame may be taken.
* `HdlcReassembler.push`: One frame more, as a step.
* `Bounded`: What is held after a step and what it returns are within the bound.
* `FitsAlone`: A frame that continues a sequence is not larger than the bound.

## Theorems

* `pushed_pushFrame`: There is no other way.
* `bounded_run_iff`: The runs that stay within the bound.
* `not_bounded_run`: A second segment that is larger than the bound.
-/

namespace Dlms

namespace Hdlc

open Machine (Admits Transition run)

namespace HdlcReassembler

/-! ### One frame -/

theorem sameAddress_iff (left right : HdlcAddress) :
    sameAddress left right = true ↔ left = right := by
  rcases left with ⟨rawValue, encodedSize⟩
  rcases right with ⟨rawValue', encodedSize'⟩
  simp [sameAddress]

/-- A frame is compared with the first one of the sequence. -/
theorem continues_iff (first frame : HdlcFrame) :
    (!sameAddress first.destination frame.destination || !sameAddress first.source frame.source ||
      !compatibleFrameType first.control frame.control) = false ↔ Continues first frame := by
  rw [Bool.or_eq_false_iff, Bool.or_eq_false_iff, Bool.not_eq_false', Bool.not_eq_false',
    Bool.not_eq_false', sameAddress_iff, sameAddress_iff, compatibleFrameType, beq_iff_eq]
  constructor
  · rintro ⟨⟨hdestination, hsource⟩, hkind⟩
    exact ⟨hdestination.symm, hsource.symm, hkind.symm⟩
  · rintro ⟨hdestination, hsource, hkind⟩
    exact ⟨⟨hdestination.symm, hsource.symm⟩, hkind.symm⟩

/-- The ways a frame may be taken, with the answer and the reassembler after it. -/
inductive Pushed (reassembler : HdlcReassembler) (frame : HdlcFrame) :
    Except HdlcStatus HdlcFrame → HdlcReassembler → Prop
  | tooLarge (hnone : reassembler.pendingFrame = none)
      (hlarge : effectiveMaximumReassembledInformationSize reassembler.limits <
        frame.information.length) :
      Pushed reassembler frame (.error .segmentationOverflow) reassembler
  | whole (hnone : reassembler.pendingFrame = none)
      (hfits : frame.information.length ≤
        effectiveMaximumReassembledInformationSize reassembler.limits)
      (hlast : frame.segmented = false) : Pushed reassembler frame (.ok frame) reassembler
  | begun (hnone : reassembler.pendingFrame = none)
      (hfits : frame.information.length ≤
        effectiveMaximumReassembledInformationSize reassembler.limits)
      (hmore : frame.segmented = true) :
      Pushed reassembler frame (.error .segmentationIncomplete)
        { reassembler with pendingFrame := some frame }
  | other (pending : HdlcFrame) (hpending : reassembler.pendingFrame = some pending)
      (hother : ¬Continues pending frame) :
      Pushed reassembler frame (.error .segmentationError) reassembler.reset
  | overflow (pending : HdlcFrame) (hpending : reassembler.pendingFrame = some pending)
      (hcontinues : Continues pending frame)
      (hover : sizeDifference (effectiveMaximumReassembledInformationSize reassembler.limits)
        frame.information.length < pending.information.length) :
      Pushed reassembler frame (.error .segmentationOverflow) reassembler.reset
  | continued (pending : HdlcFrame) (hpending : reassembler.pendingFrame = some pending)
      (hcontinues : Continues pending frame)
      (hroom : pending.information.length ≤
        sizeDifference (effectiveMaximumReassembledInformationSize reassembler.limits)
          frame.information.length)
      (hmore : frame.segmented = true) :
      Pushed reassembler frame (.error .segmentationIncomplete)
        { reassembler with
          pendingFrame := some
            { pending with information := pending.information ++ frame.information } }
  | completed (pending : HdlcFrame) (hpending : reassembler.pendingFrame = some pending)
      (hcontinues : Continues pending frame)
      (hroom : pending.information.length ≤
        sizeDifference (effectiveMaximumReassembledInformationSize reassembler.limits)
          frame.information.length)
      (hlast : frame.segmented = false) :
      Pushed reassembler frame
        (.ok { pending with
          segmented := false
          information := pending.information ++ frame.information }) reassembler.reset

/-- There is no other way. -/
theorem pushed_pushFrame (reassembler : HdlcReassembler) (frame : HdlcFrame) :
    Pushed reassembler frame (reassembler.pushFrame frame).1 (reassembler.pushFrame frame).2 := by
  unfold pushFrame
  dsimp only
  cases hpending : reassembler.pendingFrame with
  | none =>
      dsimp only
      by_cases hlarge : frame.information.length >
          effectiveMaximumReassembledInformationSize reassembler.limits
      · rw [if_pos hlarge]
        exact .tooLarge hpending hlarge
      rw [if_neg hlarge]
      cases hsegmented : frame.segmented with
      | false => exact .whole hpending (Nat.le_of_not_lt hlarge) hsegmented
      | true => exact .begun hpending (Nat.le_of_not_lt hlarge) hsegmented
  | some pending =>
      dsimp only
      by_cases hcontinues : Continues pending frame
      · rw [(continues_iff pending frame).mpr hcontinues, if_neg Bool.false_ne_true]
        by_cases hover : pending.information.length > sizeDifference
            (effectiveMaximumReassembledInformationSize reassembler.limits)
            frame.information.length
        · rw [if_pos hover]
          exact .overflow pending hpending hcontinues hover
        rw [if_neg hover]
        cases hsegmented : frame.segmented with
        | false =>
            exact .completed pending hpending hcontinues (Nat.le_of_not_lt hover) hsegmented
        | true =>
            exact .continued pending hpending hcontinues (Nat.le_of_not_lt hover) hsegmented
      · rw [if_pos (by rw [← Bool.not_eq_false, continues_iff]; exact hcontinues)]
        exact .other pending hpending hcontinues

/-- A reassembler keeps its limits. -/
theorem limits_pushFrame (reassembler : HdlcReassembler) (frame : HdlcFrame) :
    (reassembler.pushFrame frame).2.limits = reassembler.limits := by
  have hpushed := pushed_pushFrame reassembler frame
  generalize (reassembler.pushFrame frame).1 = answer at hpushed
  generalize (reassembler.pushFrame frame).2 = after at hpushed
  cases hpushed with
  | tooLarge hnone hlarge => rfl
  | whole hnone hfits hlast => rfl
  | begun hnone hfits hmore => rfl
  | other pending hpending hother => rfl
  | overflow pending hpending hcontinues hover => rfl
  | continued pending hpending hcontinues hroom hmore => rfl
  | completed pending hpending hcontinues hroom hlast => rfl

/-! ### Frames one after the other -/

/-- One frame more. -/
def push (frame : HdlcFrame) (reassembler : HdlcReassembler) :
    Except HdlcStatus HdlcFrame × HdlcReassembler := reassembler.pushFrame frame

/-- What has been put together so far is within the bound. -/
def Within (reassembler : HdlcReassembler) : Prop :=
  ∀ pending, reassembler.pendingFrame = some pending →
    pending.information.length ≤ effectiveMaximumReassembledInformationSize reassembler.limits

/-- A step holds no more than the bound, and returns no more. -/
structure Bounded
    (t : Transition HdlcFrame (Except HdlcStatus HdlcFrame) HdlcReassembler) : Prop where
  held : t.after.Within
  returned : ∀ completed, t.output = .ok completed →
    completed.information.length ≤ effectiveMaximumReassembledInformationSize t.before.limits

/-- A frame that continues a sequence is not larger than the bound by itself. -/
def FitsAlone (reassembler : HdlcReassembler) (frame : HdlcFrame) : Prop :=
  ∀ pending, reassembler.pendingFrame = some pending → Continues pending frame →
    frame.information.length ≤ effectiveMaximumReassembledInformationSize reassembler.limits

/-- The size of a frame, as a machine has it. -/
def Sized (frame : HdlcFrame) : Prop := frame.information.length < 2 ^ 64

instance (frame : HdlcFrame) : Decidable (Sized frame) := inferInstanceAs (Decidable (_ < _))

/-- A frame that has room alone leaves as much room as there is. -/
theorem sizeDifference_le (maximum size : Nat) (h : size ≤ maximum) :
    sizeDifference maximum size ≤ maximum - size := by
  rw [sizeDifference, show maximum + 2 ^ 64 - size = maximum - size + 2 ^ 64 by omega,
    Nat.add_mod_right]
  exact Nat.mod_le _ _

/-- One that has not seems to leave more room than there is. -/
theorem maximum_lt_sizeDifference (maximum size : Nat) (h : maximum < size)
    (hsize : size < 2 ^ 64) : maximum < sizeDifference maximum size := by
  rw [sizeDifference, Nat.mod_eq_of_lt (by omega)]
  omega

theorem within_of_none (reassembler : HdlcReassembler) (h : reassembler.pendingFrame = none) :
    reassembler.Within :=
  fun _ hpending => absurd (hpending.symm.trans h) (Option.some_ne_none _)

/-- A step that returns nothing has only to hold no more than the bound. -/
theorem bounded_of_error (before after : HdlcReassembler) (frame : HdlcFrame) (status : HdlcStatus)
    (h : after.Within) :
    Bounded { before := before, input := frame, output := .error status, after := after } where
  held := h
  returned := fun _ hreturned =>
    absurd hreturned nofun

/-- A step stays within the bound exactly when its frame has room alone. -/
theorem bounded_push_iff (reassembler : HdlcReassembler) (frame : HdlcFrame)
    (hsize : Sized frame) (hwithin : reassembler.Within) :
    Bounded (Machine.transition push frame reassembler) ↔ FitsAlone reassembler frame := by
  have hpushed := pushed_pushFrame reassembler frame
  have hlimits := limits_pushFrame reassembler frame
  unfold Machine.transition push
  generalize (reassembler.pushFrame frame).1 = answer at hpushed ⊢
  generalize (reassembler.pushFrame frame).2 = after at hpushed hlimits ⊢
  constructor
  · rintro ⟨hheld, hreturned⟩ pending hpending hcontinues
    have hbefore := hwithin pending hpending
    by_contra hlarge
    have hroom := maximum_lt_sizeDifference _ _ (Nat.lt_of_not_le hlarge) hsize
    unfold Within at hheld
    dsimp only at hheld hreturned
    rw [hlimits] at hheld
    -- The frame is taken, and what is held or returned is too large with it.
    cases hpushed with
    | tooLarge hnone hover => exact absurd (hpending.symm.trans hnone) (Option.some_ne_none _)
    | whole hnone hfits hlast => exact absurd (hpending.symm.trans hnone) (Option.some_ne_none _)
    | begun hnone hfits hmore => exact absurd (hpending.symm.trans hnone) (Option.some_ne_none _)
    | other first hfirst hother =>
        rw [Option.some.inj (hpending.symm.trans hfirst)] at hcontinues
        exact hother hcontinues
    | overflow first hfirst hsame hover =>
        rw [Option.some.inj (hpending.symm.trans hfirst)] at hbefore
        omega
    | continued first hfirst hsame hfits hmore =>
        have hafter := hheld _ rfl
        rw [List.length_append] at hafter
        omega
    | completed first hfirst hsame hfits hlast =>
        have hafter := hreturned _ rfl
        rw [List.length_append] at hafter
        omega
  · intro hfitsAlone
    cases hpushed with
    | tooLarge hnone hover => exact bounded_of_error _ _ _ _ hwithin
    | whole hnone hfits hlast =>
        refine ⟨hwithin, fun completed hcompleted => ?_⟩
        rw [← Except.ok.inj hcompleted]
        exact hfits
    | begun hnone hfits hmore =>
        refine bounded_of_error _ _ _ _ fun pending hpending => ?_
        rw [← Option.some.inj hpending]
        exact hfits
    | other first hfirst hother => exact bounded_of_error _ _ _ _ (within_of_none _ rfl)
    | overflow first hfirst hsame hover =>
        exact bounded_of_error _ _ _ _ (within_of_none _ rfl)
    | continued first hfirst hsame hroom hmore =>
        have hleft := sizeDifference_le _ _ (hfitsAlone first hfirst hsame)
        refine bounded_of_error _ _ _ _ fun pending hpending => ?_
        rw [← Option.some.inj hpending]
        dsimp only
        rw [List.length_append]
        have hfits := hfitsAlone first hfirst hsame
        omega
    | completed first hfirst hsame hroom hlast =>
        have hfits := hfitsAlone first hfirst hsame
        have hleft := sizeDifference_le _ _ hfits
        refine ⟨within_of_none _ rfl, fun completed hcompleted => ?_⟩
        rw [← Except.ok.inj hcompleted]
        dsimp only
        rw [List.length_append]
        omega

/-- A run of frames stays within the bound exactly when each of them that continues
    a sequence has room alone. -/
theorem bounded_run_iff (limits : HdlcCodecLimits) (frames : List HdlcFrame)
    (hsizes : ∀ frame ∈ frames, Sized frame) :
    (∀ t ∈ run push frames { limits := limits }, Bounded t) ↔
      Admits push (fun _ reassembler frame => FitsAlone reassembler frame) [] frames
        { limits := limits } :=
  Machine.forall_mem_iff_admits push Within Sized Bounded FitsAlone
    (fun _ _ _ _ hbounded => hbounded.held)
    (fun reassembler frame hsize hwithin => bounded_push_iff reassembler frame hsize hwithin)
    frames [] { limits := limits } hsizes (within_of_none _ rfl)

/-- A segment of so many octets, with more to follow. -/
def segment (size : Nat) : HdlcFrame where
  segmented := true
  destination := HdlcAddress.initial
  source := HdlcAddress.initial
  control := { rawValue := 0x10, accepted := rfl }
  information := List.replicate size 0

theorem bounded_run_iff_segment :
    (∀ t ∈ run push [segment 1, segment 2] { limits := defaultHdlcCodecLimits }, Bounded t) ↔
      Admits push (fun _ reassembler frame => FitsAlone reassembler frame) []
        [segment 1, segment 2] { limits := defaultHdlcCodecLimits } :=
  bounded_run_iff defaultHdlcCodecLimits [segment 1, segment 2] (by
    intro frame hframe
    rcases List.mem_cons.mp hframe with rfl | hframe
    · decide
    · rw [List.mem_singleton.mp hframe]
      decide)

/-- The second segment has two octets, which is more than all of them may have. -/
theorem not_bounded_run :
    ¬∀ (limits : HdlcCodecLimits) (frames : List HdlcFrame), (∀ frame ∈ frames, Sized frame) →
      ∀ t ∈ run push frames { limits := limits }, Bounded t := by
  intro hall
  have hlast := hall { defaultHdlcCodecLimits with maximumReassembledInformationSize := 1 }
    [segment 1, segment 2] (by
      intro frame hframe
      rcases List.mem_cons.mp hframe with rfl | hframe
      · decide
      · rw [List.mem_singleton.mp hframe]
        decide) _ (List.mem_cons_of_mem _ List.mem_cons_self)
  exact absurd (hlast.held _ rfl) (by decide)

end HdlcReassembler

end Hdlc

end Dlms
