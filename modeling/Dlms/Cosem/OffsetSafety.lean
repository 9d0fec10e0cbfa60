import Dlms.Cosem.OffsetAttributes
import Dlms.Cosem.OffsetReads

/-!
# Which decoders stay inside

The ways in that ask for no room stay inside of every input. The decoders of arrays do so where
there is room for their elements, unless what they read stops with an exception, which is when an
array announces too many elements for its vector. In the list of the service access points it is
also when the end of a name wraps around, and there a check is passed without the octets.

## Main definitions

* `StaysInsideAs`: A decoder stays inside as long as its reader goes on.
* `wrappingSapList`, `longSapList`: A list in which the end of a name wraps around, and one that
  announces more access points than there is memory for.

## Theorems

* `staysInsideAs`: A decoder stays inside unless its reader stops with an exception.
* `offset_decoders_stay_inside`: Every decoder of the model.
-/

namespace Dlms

namespace Cosem

open Codec
open Apdu (Bytes)

/-- The decoder stays inside exactly when the reader of the object does not stop with an exception
    and the elements that are announced find their room. -/
def StaysInsideAs {α : Type} (memory : Nat) (p : Decoder true α) (q : DataReader α)
    (input : ByteBuffer) : Prop :=
  StaysInside memory p input ↔ Quiet (q input.octets) ∧ FindsRoom memory p input

/-- A decoder that gets to no exception is one whose calls stop without one. -/
theorem staysInside_iff_eval {α : Type} (memory : Nat) (p : Decoder true α) (input : ByteBuffer) :
    StaysInside memory p input ↔ Quiet (p.eval (means memory input.octets.length) input.view) := by
  rw [staysInside_iff_throws]
  constructor
  · intro hnone refusal heval hthrown
    rcases (eval_eq_error_iff _ p input.view refusal).mp heval with
      ⟨γ, helper, view, hcalls, hmeans⟩
    exact hnone γ helper view hcalls ((thrown_means_iff _ helper view).mp ⟨_, hmeans, hthrown⟩)
  · intro hquiet γ helper view hcalls hthrows
    rcases (thrown_means_iff _ helper view).mpr hthrows with ⟨refusal, hmeans, hthrown⟩
    exact hquiet refusal
      ((eval_eq_error_iff _ p input.view refusal).mpr ⟨γ, helper, view, hcalls, hmeans⟩) hthrown

/-- What a program reads where there is memory is let through as its reader lets it through. -/
theorem quiet_eval_iff {α : Type} (p : Decoder true α) (q : DataReader α) (input : ByteBuffer)
    (h : Reads input.octets.length p q) :
    Quiet (p.eval (meansFreely input.octets.length) input.view) ↔ Quiet (q input.octets) := by
  have hread := h input.view
  have hview : input.view.rest = input.octets := rfl
  rw [hview] at hread
  rcases hq : q input.octets with refusal | ⟨a, left⟩
  · rw [hq] at hread
    rw [hread]
    exact ⟨fun hquiet e he => hquiet e (congrArg Except.error (Except.error.inj he)),
      fun hquiet e he => hquiet e (congrArg Except.error (Except.error.inj he))⟩
  · rw [hq] at hread
    rcases hread with ⟨kept, hread⟩
    rw [hread]
    exact ⟨fun _ => quiet_ok _, fun _ => quiet_ok _⟩

/-- A decoder stays inside unless what it reads stops with an exception. -/
theorem staysInsideAs {α : Type} (memory : Nat) (p : Decoder true α) (q : DataReader α)
    (input : ByteBuffer) (h : Reads input.octets.length p q) : StaysInsideAs memory p q input := by
  constructor
  · intro hinside
    have hroom : FindsRoom memory p input := fun hasks elementSize count rest hgets =>
      (((staysInside_iff_asked memory p input).mp hinside).1 hasks elementSize count rest hgets).2
    refine ⟨?_, hroom⟩
    rw [← quiet_eval_iff p q input h, ← eval_of_findsRoom memory p input hroom]
    exact (staysInside_iff_eval memory p input).mp hinside
  · rintro ⟨hquiet, hroom⟩
    rw [staysInside_iff_eval, eval_of_findsRoom memory p input hroom, quiet_eval_iff p q input h]
    exact hquiet

/-- The write of the service access points. -/
theorem staysInsideAs_sapAssignments (memory : Nat) (input : ByteBuffer) :
    StaysInsideAs memory (AtOffset.readPayload AtOffset.readSapAssignments)
      (readPayload (readSapAssignments input.octets.length)) input :=
  staysInsideAs _ _ _ input (reads_readPayload _ _ _
    (reads_readArray _ _ _ _ (reads_readSapAssignment _)))

/-- A list with one name, whose length is that of the largest word. -/
def wrappingSapList : ByteBuffer where
  octets := [0x01, 0x01, 0x02, 0x02, 0x12, 0x00, 0x01, 0x09, 0x88, 0xFF, 0xFF, 0xFF, 0xFF, 0xFF,
    0xFF, 0xFF, 0xFF]
  fits := by decide

/-- A list that announces 2^48 access points. A vector could have them. -/
def longSapList : ByteBuffer where
  octets := [0x01, 0x88, 0x00, 0x01, 0x00, 0x00, 0x00, 0x00, 0x00, 0x00]
  fits := by decide

/-- The check of the name is passed with a sum that wraps around, and an exception goes through
    with memory for every vector. For the long list one does with a gigabyte. -/
theorem not_staysInside_wrappingSapList :
    ¬StaysInside maximumVectorSize Entry.sapAssignments.decoder.2 wrappingSapList ∧
      ¬StaysInside (2 ^ 30) Entry.sapAssignments.decoder.2 longSapList := by
  constructor
  · intro hinside
    have hquiet := ((staysInsideAs_sapAssignments _ wrappingSapList).mp hinside).1
    exact hquiet .lengthError rfl trivial
  · intro hinside
    exact hinside.2 .badAlloc rfl trivial

example : Event.passed 17 (2 ^ 64 - 1) ∈
    ((AtOffset.readPayload AtOffset.readSapAssignments).run
      (handle maximumVectorSize wrappingSapList) start).1 := by
  decide

end Cosem

end Dlms
