import Mathlib.Data.List.Basic

/-!
# Runs of a machine

A machine is a function from an input and a state to an output and the next
state. Its run over a list of inputs is the list of its transitions, each with
the states around it, so that a property of a run can speak of what was sent,
what came back and where the machine stood.

Most properties of runs need the past: what has happened so far, next to the
state it has led to. `holds_of_step` is the induction for them. A step may ask
for a condition on the past, the state and the input, and `Admits` says that a
run meets the condition at every step.

## Main definitions

* `Transition`: One step with the states around it.
* `run`, `final`: The transitions of a run, and where it ends.
* `Admits`: A condition met at every step.

## Theorems

* `holds_of_step`: What every step keeps, every run keeps.
* `admits_of_invariant`: A condition that every step keeps.
* `forall_after_iff_admits`, `forall_mem_iff_admits`: The runs that keep a property.
* `run_append`, `final_append`: A run in two parts.
* `mem_run`: A transition of a run stands between two parts of it.
-/

namespace Machine

/-- One step, with the states before and after it. -/
structure Transition (ι ο σ : Type) where
  before : σ
  input : ι
  output : ο
  after : σ

section Run

variable {ι ο σ : Type} (step : ι → σ → ο × σ)

/-- The transition a step makes. -/
def transition (input : ι) (state : σ) : Transition ι ο σ where
  before := state
  input := input
  output := (step input state).1
  after := (step input state).2

/-- The transitions of a run. -/
def run : List ι → σ → List (Transition ι ο σ)
  | [], _ => []
  | input :: inputs, state => transition step input state :: run inputs (step input state).2

/-- The state a run ends in. -/
def final : List ι → σ → σ
  | [], state => state
  | input :: inputs, state => final inputs (step input state).2

/-- A condition on the past, the state and the input that holds at every step
    of a run, which goes on from a past. -/
def Admits (allowed : List (Transition ι ο σ) → σ → ι → Prop) :
    List (Transition ι ο σ) → List ι → σ → Prop
  | _, [], _ => True
  | history, input :: inputs, state =>
      allowed history state input ∧
        Admits allowed (history ++ [transition step input state]) inputs (step input state).2

/-- Such a condition can be checked along a run. -/
instance decidableAdmits (allowed : List (Transition ι ο σ) → σ → ι → Prop)
    [∀ history state input, Decidable (allowed history state input)] :
    ∀ history inputs state, Decidable (Admits step allowed history inputs state)
  | _, [], _ => isTrue trivial
  | history, input :: inputs, state =>
      @instDecidableAnd _ _ _ (decidableAdmits allowed (history ++ [transition step input state])
        inputs (step input state).2)

theorem Admits.mono (allowed allowed' : List (Transition ι ο σ) → σ → ι → Prop)
    (hweaker : ∀ history state input, allowed history state input → allowed' history state input)
    (history : List (Transition ι ο σ)) (inputs : List ι) (state : σ)
    (h : Admits step allowed history inputs state) :
    Admits step allowed' history inputs state := by
  induction inputs generalizing history state with
  | nil => trivial
  | cons input inputs ih => exact ⟨hweaker history state input h.1, ih _ _ h.2⟩

theorem run_append (first second : List ι) (state : σ) :
    run step (first ++ second) state = run step first state ++
      run step second (final step first state) := by
  induction first generalizing state with
  | nil => rfl
  | cons input inputs ih =>
      simp only [List.cons_append, run, final]
      rw [ih]

theorem final_append (first second : List ι) (state : σ) :
    final step (first ++ second) state = final step second (final step first state) := by
  induction first generalizing state with
  | nil => rfl
  | cons input inputs ih =>
      simp only [List.cons_append, final]
      exact ih _

section History

variable (holds : List (Transition ι ο σ) → σ → Prop)
  (allowed : List (Transition ι ο σ) → σ → ι → Prop)
  (hstep : ∀ history state input, holds history state → allowed history state input →
    holds (history ++ [transition step input state]) (step input state).2)
include hstep

/-- The same for a run that goes on from a past. -/
theorem holds_of_step_from (inputs : List ι) (history : List (Transition ι ο σ)) (state : σ)
    (hstart : holds history state) (hallowed : Admits step allowed history inputs state) :
    holds (history ++ run step inputs state) (final step inputs state) := by
  -- The past grows with the run, so it is general in the induction.
  induction inputs generalizing history state with
  | nil =>
      rw [run, List.append_nil]
      exact hstart
  | cons input inputs ih =>
      rcases hallowed with ⟨hinput, hrest⟩
      have hnext := hstep history state input hstart hinput
      have hrun := ih (history ++ [transition step input state]) (step input state).2 hnext hrest
      rw [List.append_assoc] at hrun
      exact hrun

/-- What every step keeps of the past and the state, every run keeps. -/
theorem holds_of_step (inputs : List ι) (state : σ) (hstart : holds [] state)
    (hallowed : Admits step allowed [] inputs state) :
    holds (run step inputs state) (final step inputs state) :=
  holds_of_step_from step holds allowed hstep inputs [] state hstart hallowed

end History

/-- A condition that holds always is met by every run. -/
theorem admits_of_forall (allowed : List (Transition ι ο σ) → σ → ι → Prop)
    (hall : ∀ history state input, allowed history state input)
    (history : List (Transition ι ο σ)) (inputs : List ι) (state : σ) :
    Admits step allowed history inputs state := by
  induction inputs generalizing history state with
  | nil => trivial
  | cons input inputs ih => exact ⟨hall history state input, ih _ _⟩

/-- What every step keeps of the past and the state, whatever the input, every
    run keeps. -/
theorem holds_of_every_step (holds : List (Transition ι ο σ) → σ → Prop)
    (hstep : ∀ history state input, holds history state →
      holds (history ++ [transition step input state]) (step input state).2)
    (inputs : List ι) (state : σ) (hstart : holds [] state) :
    holds (run step inputs state) (final step inputs state) :=
  holds_of_step step holds (fun _ _ _ => True)
    (fun history state input h _ => hstep history state input h) inputs state hstart
    (admits_of_forall step _ (fun _ _ _ => trivial) [] inputs state)

/-- An invariant of the states holds around every transition. -/
theorem invariant_run (invariant : σ → Prop)
    (hstep : ∀ state input, invariant state → invariant (step input state).2)
    (inputs : List ι) (state : σ) (hstart : invariant state) :
    (∀ t ∈ run step inputs state, invariant t.before ∧ invariant t.after) ∧
      invariant (final step inputs state) := by
  induction inputs generalizing state with
  | nil => exact ⟨fun t ht => absurd ht List.not_mem_nil, hstart⟩
  | cons input inputs ih =>
      have hnext := hstep state input hstart
      rcases ih (step input state).2 hnext with ⟨hrest, hfinal⟩
      refine ⟨?_, hfinal⟩
      intro t ht
      rcases List.mem_cons.mp ht with rfl | hlater
      · exact ⟨hstart, hnext⟩
      · exact hrest t hlater

/-- A condition on the states alone that every step keeps is met by every run. -/
theorem admits_of_invariant (invariant : σ → Prop)
    (hstep : ∀ state input, invariant state → invariant (step input state).2)
    (history : List (Transition ι ο σ)) (inputs : List ι) (state : σ) (hstart : invariant state) :
    Admits step (fun _ state _ => invariant state) history inputs state := by
  induction inputs generalizing history state with
  | nil => trivial
  | cons input inputs ih => exact ⟨hstart, ih _ _ (hstep state input hstart)⟩

/-- Two conditions hold at every step exactly when each of them does. -/
theorem admits_and (first second : List (Transition ι ο σ) → σ → ι → Prop)
    (history : List (Transition ι ο σ)) (inputs : List ι) (state : σ) :
    Admits step (fun history state input =>
        first history state input ∧ second history state input) history inputs state ↔
      Admits step first history inputs state ∧ Admits step second history inputs state := by
  induction inputs generalizing history state with
  | nil => exact ⟨fun _ => ⟨trivial, trivial⟩, fun _ => trivial⟩
  | cons input inputs ih =>
      constructor
      · rintro ⟨⟨hfirst, hsecond⟩, hrest⟩
        rcases (ih _ _).mp hrest with ⟨hrestFirst, hrestSecond⟩
        exact ⟨⟨hfirst, hrestFirst⟩, hsecond, hrestSecond⟩
      · rintro ⟨⟨hfirst, hrestFirst⟩, hsecond, hrestSecond⟩
        exact ⟨⟨hfirst, hsecond⟩, (ih _ _).mpr ⟨hrestFirst, hrestSecond⟩⟩

/-- What holds around every transition holds where the run ends. -/
theorem holds_final (holds : σ → Prop) (inputs : List ι) (state : σ) (hstart : holds state)
    (hall : ∀ t ∈ run step inputs state, holds t.after) : holds (final step inputs state) := by
  induction inputs generalizing state with
  | nil => exact hstart
  | cons input inputs ih =>
      exact ih _ (hall _ List.mem_cons_self) fun t ht => hall t (List.mem_cons_of_mem _ ht)

/-- Where a transition is good exactly when its input is allowed, a run is good
    exactly when each of its steps is allowed. The invariant says enough of the
    states, for as long as the transitions are good, and the inputs may all be of
    one kind. -/
theorem forall_mem_iff_admits (invariant : σ → Prop) (kind : ι → Prop)
    (good : Transition ι ο σ → Prop) (allowed : σ → ι → Prop)
    (hkept : ∀ state input, kind input → invariant state →
      good (transition step input state) → invariant (step input state).2)
    (hstep : ∀ state input, kind input → invariant state →
      (good (transition step input state) ↔ allowed state input))
    (inputs : List ι) (history : List (Transition ι ο σ)) (state : σ)
    (hinputs : ∀ input ∈ inputs, kind input) (hstart : invariant state) :
    (∀ t ∈ run step inputs state, good t) ↔
      Admits step (fun _ state input => allowed state input) history inputs state := by
  induction inputs generalizing history state with
  | nil => exact ⟨fun _ => trivial, fun _ t ht => absurd ht List.not_mem_nil⟩
  | cons input inputs ih =>
      have hinput := hinputs input List.mem_cons_self
      have hfirst := hstep state input hinput hstart
      have hnext := ih (history ++ [transition step input state]) (step input state).2
        (fun later hlater => hinputs later (List.mem_cons_of_mem _ hlater))
      constructor
      · intro hall
        have hgood := hall _ List.mem_cons_self
        exact ⟨hfirst.mp hgood, (hnext (hkept state input hinput hstart hgood)).mp
          fun t ht => hall t (List.mem_cons_of_mem _ ht)⟩
      · rintro ⟨hallowed, hrest⟩ t ht
        have hgood := hfirst.mpr hallowed
        rcases List.mem_cons.mp ht with rfl | hlater
        · exact hgood
        · exact (hnext (hkept state input hinput hstart hgood)).mpr hrest t hlater

/-- Where a step keeps a property exactly when it is allowed, a run keeps it
    exactly when each of its steps is allowed. What holds without any condition
    may be used on the way. -/
theorem forall_after_iff_admits (invariant holds : σ → Prop) (allowed : σ → ι → Prop)
    (hkept : ∀ state input, invariant state → invariant (step input state).2)
    (hstep : ∀ state input, invariant state → holds state →
      (holds (step input state).2 ↔ allowed state input))
    (inputs : List ι) (history : List (Transition ι ο σ)) (state : σ)
    (hinvariant : invariant state) (hstart : holds state) :
    (∀ t ∈ run step inputs state, holds t.after) ↔
      Admits step (fun _ state input => allowed state input) history inputs state :=
  forall_mem_iff_admits step (fun state => invariant state ∧ holds state) (fun _ => True)
    (fun t => holds t.after) allowed
    (fun state input _ hstate hafter => ⟨hkept state input hstate.1, hafter⟩)
    (fun state input _ hstate => hstep state input hstate.1 hstate.2) inputs history state
    (fun _ _ => trivial) ⟨hinvariant, hstart⟩

/-- A transition of a run stands between two parts of it. -/
theorem mem_run (inputs : List ι) (state : σ) (t : Transition ι ο σ)
    (ht : t ∈ run step inputs state) :
    ∃ first input second, inputs = first ++ input :: second ∧
      t = transition step input (final step first state) := by
  induction inputs generalizing state with
  | nil => exact absurd ht List.not_mem_nil
  | cons input inputs ih =>
      rcases List.mem_cons.mp ht with rfl | hlater
      · exact ⟨[], input, inputs, rfl, rfl⟩
      · rcases ih _ hlater with ⟨first, later, second, hsplit, hlast⟩
        refine ⟨input :: first, later, second, ?_, hlast⟩
        rw [hsplit]
        rfl

end Run

end Machine
