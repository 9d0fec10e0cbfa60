import Dlms.Machine.Run

/-!
# Machines that come to rest

A machine of several parts takes its turns in any order, and some turns cannot
be taken where it stands. When every turn that is taken leaves less to do, only
so many are taken, whatever the order, and the machine comes to rest where no
turn can be taken.

## Main definitions

* `attempt`: A turn, taken if it can be.
* `taken`: How many turns of a run are taken.
* `AtRest`: No turn can be taken.
* `Completes`: Whatever the order of turns, nothing bad happens, not for ever,
  and in the end everything is done.

## Theorems

* `taken_add_le`: The turns taken and what is left to do.
* `completes_of_left`: A machine with less to do after every turn completes.
* `exists_final`: A machine that can go on until something happens can be run
  until it has happened.
-/

namespace Machine

section Progress

variable {σ ι : Type} (turn : ι → σ → Option σ)

/-- A turn that cannot be taken leaves everything as it is; next to the state
    comes whether it was taken. -/
def attempt (input : ι) (state : σ) : Bool × σ :=
  match turn input state with
  | none => (false, state)
  | some state => (true, state)

def taken (inputs : List ι) (state : σ) : Nat :=
  (run (attempt turn) inputs state).countP fun t => t.output

def AtRest (state : σ) : Prop := ∀ input, turn input state = none

/-- Every run stays safe, is bounded, and is done where it rests. -/
structure Completes (safe done : σ → Prop) (start : σ) : Prop where
  safe : ∀ inputs, safe (final (attempt turn) inputs start)
  bounded : ∃ bound, ∀ inputs, taken turn inputs start ≤ bound
  done : ∀ inputs, AtRest turn (final (attempt turn) inputs start) →
    done (final (attempt turn) inputs start)

variable (left : σ → Nat → Prop)

section Decreasing

variable (hless : ∀ input state work after, left state work → turn input state = some after →
  ∃ rest, rest < work ∧ left after rest)
include hless

/-- The turns taken and the work left are no more than the work before. -/
theorem taken_add_le (inputs : List ι) (state : σ) (work : Nat) (h : left state work) :
    ∃ rest, left (final (attempt turn) inputs state) rest ∧
      taken turn inputs state + rest ≤ work := by
  induction inputs generalizing state work with
  | nil => exact ⟨work, h, Nat.le_of_eq (Nat.zero_add work)⟩
  -- An attempt without a turn costs nothing, and a turn takes some of the work.
  | cons input inputs ih =>
      cases hturn : turn input state with
      | none =>
          have hattempt : attempt turn input state = (false, state) := by
            rw [attempt, hturn]
          rcases ih state work h with ⟨rest, hrest, hcount⟩
          refine ⟨rest, ?_, ?_⟩
          · rw [final, hattempt]
            exact hrest
          · rw [taken, run, transition, hattempt, List.countP_cons_of_neg Bool.false_ne_true]
            exact hcount
      | some after =>
          have hattempt : attempt turn input state = (true, after) := by
            rw [attempt, hturn]
          rcases hless input state work after h hturn with ⟨less, hlt, hafter⟩
          rcases ih after less hafter with ⟨rest, hrest, hcount⟩
          refine ⟨rest, ?_, ?_⟩
          · rw [final, hattempt]
            exact hrest
          · rw [taken, run, transition, hattempt, List.countP_cons_of_pos rfl]
            rw [taken] at hcount
            simp only
            omega

/-- A machine that has less to do after every turn, and everything done where it
      rests, completes. -/
theorem completes_of_left (safe done : σ → Prop)
    (hsafe : ∀ state work, left state work → safe state)
    (hdone : ∀ state work, left state work → AtRest turn state → done state)
    (start : σ) (work : Nat) (hstart : left start work) : Completes turn safe done start where
  safe := by
    intro inputs
    rcases taken_add_le turn left hless inputs start work hstart with ⟨rest, hrest, -⟩
    exact hsafe _ rest hrest
  bounded := by
    refine ⟨work, ?_⟩
    intro inputs
    rcases taken_add_le turn left hless inputs start work hstart with ⟨rest, -, hcount⟩
    omega
  done := by
    intro inputs hrests
    rcases taken_add_le turn left hless inputs start work hstart with ⟨rest, hrest, -⟩
    exact hdone _ rest hrest hrests

end Decreasing

/-- A machine that can take a turn until something happens, with less to do after
    every turn, can be run until it has happened. -/
theorem exists_final (happened : σ → Prop)
    (hstep : ∀ state work, left state work → ∃ input after, turn input state = some after ∧
      (happened after ∨ ∃ rest, rest < work ∧ left after rest))
    (state : σ) (work : Nat) (h : left state work) :
    ∃ inputs, happened (final (attempt turn) inputs state) := by
  induction work using Nat.strongRecOn generalizing state with
  | ind work ih =>
      rcases hstep state work h with ⟨input, after, hturn, hnext⟩
      have hattempt : attempt turn input state = (true, after) := by
        rw [attempt, hturn]
      rcases hnext with hnow | ⟨rest, hless, hafter⟩
      · refine ⟨[input], ?_⟩
        rw [final, hattempt]
        exact hnow
      · rcases ih rest hless after hafter with ⟨inputs, hinputs⟩
        refine ⟨input :: inputs, ?_⟩
        rw [final, hattempt]
        exact hinputs

end Progress

end Machine
