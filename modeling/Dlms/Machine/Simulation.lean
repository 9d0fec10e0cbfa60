import Dlms.Machine.Run
import Mathlib.Data.List.Forall2
import Mathlib.Logic.Function.Basic

/-!
# Two machines side by side

Two machines get the same inputs, one after the other. They answer alike when
every input gets answers that go together and leaves states that stand for each
other. Which answers go together and which states stand for each other is a
parameter: the machines need not have the same outputs or the same states.

The induction is made once, here: what one step keeps of two states that stand
for each other, a run keeps. A step may ask for a condition on the state of the
first machine and the input.

## Main definitions

* `Alike`: Two transitions of the same input that answer alike.
* `RunAlike`: All transitions of two runs do.

## Theorems

* `runAlike_of_step`: Runs answer alike where every step does.
* `stands_final_of_step`: And end in states that stand for each other.
* `answers_iff_admits`: And the answers of two runs go together only there, when
  those of a step do only where it is allowed.
* `stands_update`: One member of two families is exchanged.
-/

namespace Machine

section Simulation

variable {ι ο ο' σ σ' : Type} (step : ι → σ → ο × σ) (step' : ι → σ' → ο' × σ')
  (answers : ο → ο' → Prop) (stands : σ → σ' → Prop)

/-- Two transitions of the same input with answers that go together, after which
    the states stand for each other. -/
structure Alike (t : Transition ι ο σ) (t' : Transition ι ο' σ') : Prop where
  input : t.input = t'.input
  output : answers t.output t'.output
  after : stands t.after t'.after

/-- Two runs over the same inputs, transition by transition. -/
def RunAlike (inputs : List ι) (state : σ) (state' : σ') : Prop :=
  List.Forall₂ (Alike answers stands) (run step inputs state) (run step' inputs state')

theorem runAlike_cons (input : ι) (inputs : List ι) (state : σ) (state' : σ') :
    RunAlike step step' answers stands (input :: inputs) state state' ↔
      (answers (step input state).1 (step' input state').1 ∧
          stands (step input state).2 (step' input state').2) ∧
        RunAlike step step' answers stands inputs (step input state).2 (step' input state').2 := by
  unfold RunAlike
  rw [run, run, List.forall₂_cons]
  constructor
  · rintro ⟨⟨-, houtput, hafter⟩, hrest⟩
    exact ⟨⟨houtput, hafter⟩, hrest⟩
  · rintro ⟨⟨houtput, hafter⟩, hrest⟩
    exact ⟨⟨rfl, houtput, hafter⟩, hrest⟩

/-- Where every step that is allowed answers alike, a run does whose steps are
    all allowed. -/
theorem runAlike_of_step (allowed : σ → ι → Prop)
    (hstep : ∀ input state state', stands state state' → allowed state input →
      answers (step input state).1 (step' input state').1 ∧
        stands (step input state).2 (step' input state').2)
    (inputs : List ι) (history : List (Transition ι ο σ)) (state : σ) (state' : σ')
    (h : stands state state')
    (hallowed : Admits step (fun _ state input => allowed state input) history inputs state) :
    RunAlike step step' answers stands inputs state state' := by
  induction inputs generalizing history state state' with
  | nil => exact .nil
  | cons input inputs ih =>
      rcases hallowed with ⟨hinput, hrest⟩
      have hnext := hstep input state state' h hinput
      exact (runAlike_cons step step' answers stands input inputs state state').mpr
        ⟨hnext, ih _ _ _ hnext.2 hrest⟩

/-- Where every step that is allowed leaves states that stand for each other, so
    does a run. -/
theorem stands_final_of_step (allowed : σ → ι → Prop)
    (hstep : ∀ input state state', stands state state' → allowed state input →
      stands (step input state).2 (step' input state').2)
    (inputs : List ι) (history : List (Transition ι ο σ)) (state : σ) (state' : σ')
    (h : stands state state')
    (hallowed : Admits step (fun _ state input => allowed state input) history inputs state) :
    stands (final step inputs state) (final step' inputs state') := by
  induction inputs generalizing history state state' with
  | nil => exact h
  | cons input inputs ih =>
      rcases hallowed with ⟨hinput, hrest⟩
      exact ih _ _ _ (hstep input state state' h hinput) hrest

/-- Where the answers of a step go together exactly when it is allowed, those of a
    run do exactly when all of its steps are. -/
theorem answers_iff_admits (allowed : σ → ι → Prop)
    (hstep : ∀ input state state', stands state state' → allowed state input →
      answers (step input state).1 (step' input state').1 ∧
        stands (step input state).2 (step' input state').2)
    (hanswer : ∀ input state state', stands state state' →
      answers (step input state).1 (step' input state').1 → allowed state input)
    (inputs : List ι) (history : List (Transition ι ο σ)) (state : σ) (state' : σ')
    (h : stands state state') :
    List.Forall₂ (fun t t' => answers t.output t'.output) (run step inputs state)
        (run step' inputs state') ↔
      Admits step (fun _ state input => allowed state input) history inputs state := by
  -- After a step that is not allowed the states need not stand for each other,
  -- but its answers tell it already.
  induction inputs generalizing history state state' with
  | nil => exact ⟨fun _ => trivial, fun _ => .nil⟩
  | cons input inputs ih =>
      rw [run, run, List.forall₂_cons]
      constructor
      · rintro ⟨houtput, hrest⟩
        have hallowed := hanswer input state state' h houtput
        have hnext := (hstep input state state' h hallowed).2
        exact ⟨hallowed, (ih _ _ _ hnext).mp hrest⟩
      · rintro ⟨hallowed, hrest⟩
        have hnext := hstep input state state' h hallowed
        exact ⟨hnext.1, (ih _ _ _ hnext.2).mpr hrest⟩

end Simulation

/-- Two lists have the same images when their members have, one by one. -/
theorem forall₂_iff_map_eq {α β γ : Type} (f : α → γ) (g : β → γ) (first : List α)
    (second : List β) :
    List.Forall₂ (fun a b => f a = g b) first second ↔ first.map f = second.map g := by
  rw [← List.forall₂_eq_eq_eq, List.forall₂_map_left_iff, List.forall₂_map_right_iff]

/-- Two families stand for each other after a member of each is exchanged. -/
theorem stands_update {ι α β : Type} [DecidableEq ι] (stands : ι → α → β → Prop) (first : ι → α)
    (second : ι → β) (index : ι) (new : α) (new' : β)
    (h : ∀ other, stands other (first other) (second other)) (hnew : stands index new new')
    (other : ι) :
    stands other (Function.update first index new other)
      (Function.update second index new' other) := by
  by_cases hother : other = index
  · subst hother
    rw [Function.update_self, Function.update_self]
    exact hnew
  · rw [Function.update_of_ne hother, Function.update_of_ne hother]
    exact h other

end Machine
