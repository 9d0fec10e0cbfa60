import Mathlib.Data.List.Basic

/-!
# Calls that may fail

A program makes one call after the other on some state, the arguments coming
from a list, and stops at the first call that fails. Of the state only a part
may matter: a call that succeeds does to that part what it is for, and a call
that fails leaves it alone. What a whole list of calls does to it then depends
only on how many of them succeed.

## Main definitions

* `callAll`: The calls of a list, up to the first that fails.
* `granted`: How many of them succeed.
* `Lawful`: What a call does to what matters.

## Theorems

* `granted_eq_length`: Calls that never fail.
* `callAll_eq_ok_iff`: All calls succeed, or fewer than there are.
* `view_callAll`: What the calls do to what matters.
-/

namespace Machine

namespace Calls

variable {α σ ε ω : Type}

/-- One call after the other, up to the first that fails. -/
def callAll (call : α → σ → Except ε Unit × σ) : List α → σ → Except ε Unit × σ
  | [], state => (.ok (), state)
  | argument :: rest, state =>
      match call argument state with
      | (.error status, state) => (.error status, state)
      | (.ok (), state) => callAll call rest state

/-- How many calls succeed before one fails. -/
def granted (call : α → σ → Except ε Unit × σ) : List α → σ → Nat
  | [], _ => 0
  | argument :: rest, state =>
      match call argument state with
      | (.error _, _) => 0
      | (.ok (), state) => granted call rest state + 1

/-- A call that succeeds has an effect on what can be seen of the state, and a
    call that fails has none. -/
structure Lawful (call : α → σ → Except ε Unit × σ) (view : σ → ω) (effect : ω → α → ω) :
    Prop where
  succeeds : ∀ argument state after, call argument state = (.ok (), after) →
    view after = effect (view state) argument
  fails : ∀ argument state status after, call argument state = (.error status, after) →
    view after = view state

section Calls

variable (call : α → σ → Except ε Unit × σ)

/-- Calls that never fail are all granted. -/
theorem granted_eq_length (arguments : List α) (state : σ)
    (h : ∀ argument ∈ arguments, ∀ state, (call argument state).1 = .ok ()) :
    granted call arguments state = arguments.length := by
  induction arguments generalizing state with
  | nil => rfl
  | cons argument rest ih =>
      have hfirst := h argument List.mem_cons_self state
      rcases hcall : call argument state with ⟨outcome, after⟩
      rw [hcall] at hfirst
      simp only at hfirst
      subst hfirst
      simp only [granted, hcall, List.length_cons, Nat.add_right_cancel_iff]
      exact ih after fun later hlater => h later (List.mem_cons_of_mem _ hlater)

/-- The calls of a list succeed when none of them fails. -/
theorem callAll_eq_ok_iff (arguments : List α) (state : σ) :
    (callAll call arguments state).1 = .ok () ↔
      granted call arguments state = arguments.length := by
  induction arguments generalizing state with
  | nil => exact iff_of_true rfl rfl
  | cons argument rest ih =>
      rcases hcall : call argument state with ⟨outcome, after⟩
      cases outcome with
      | error status =>
          simp [callAll, granted, hcall]
      | ok done =>
          simp only [callAll, granted, hcall, List.length_cons, Nat.add_right_cancel_iff]
          exact ih after

/-- What can be seen after the calls of a list is what those that succeed have
    made of it. -/
theorem view_callAll (view : σ → ω) (effect : ω → α → ω) (h : Lawful call view effect)
    (arguments : List α) (state : σ) :
    view (callAll call arguments state).2 =
      (arguments.take (granted call arguments state)).foldl effect (view state) := by
  induction arguments generalizing state with
  | nil => rfl
  | cons argument rest ih =>
      rcases hcall : call argument state with ⟨outcome, after⟩
      cases outcome with
      | error status =>
          simp only [callAll, granted, hcall, List.take_zero, List.foldl_nil]
          exact h.fails argument state status after hcall
      | ok done =>
          simp only [callAll, granted, hcall, List.take_succ_cons, List.foldl_cons]
          rw [ih after, h.succeeds argument state after hcall]

/-- Calls that never fail succeed together, and each has its effect. -/
theorem callAll_of_granted (view : σ → ω) (effect : ω → α → ω) (h : Lawful call view effect)
    (arguments : List α) (state : σ)
    (hgranted : granted call arguments state = arguments.length) :
    (callAll call arguments state).1 = .ok () ∧
      view (callAll call arguments state).2 = arguments.foldl effect (view state) := by
  refine ⟨(callAll_eq_ok_iff call arguments state).mpr hgranted, ?_⟩
  rw [view_callAll call view effect h, hgranted, List.take_length]

end Calls

end Calls

end Machine
