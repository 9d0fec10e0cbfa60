import Mathlib.Data.List.Basic

/-!
# Runs that are undone

A machine may be run backwards when there is a second one that undoes its steps. The steps of
both may fail, so what is asked of one of the two is that where it goes, the other comes back.

One step is enough to look at: a list of steps is undone by the same list from its end.

## Main definitions

* `Undoes`: Where one machine goes from a good state, the other comes back.

## Theorems

* `undone_of_run`: A run is undone from its end.
* `run_iff`: When each of the two undoes the other, their runs are the same ones.
* `exists_run`: Steps that never fail are a run that does not.
-/

namespace Machine

variable {σ ι ε : Type} (good : σ → Prop)

/-- Where `forth` goes from a good state it keeps it good, and `back` comes back. -/
def Undoes (forth back : σ → ι → Except ε σ) : Prop :=
  ∀ s i t, good s → forth s i = .ok t → good t ∧ back t i = .ok s

/-- A run has a first step. -/
theorem foldlM_cons_eq_ok (step : σ → ι → Except ε σ) (i : ι) (inputs : List ι) (s t : σ) :
    (i :: inputs).foldlM step s = .ok t ↔
      ∃ middle, step s i = .ok middle ∧ inputs.foldlM step middle = .ok t := by
  rw [List.foldlM_cons]
  cases hstep : step s i with
  | error e => simp [bind, Except.bind]
  | ok middle => simp [bind, Except.bind]

/-- A run has a last step. -/
theorem foldlM_concat_eq_ok (step : σ → ι → Except ε σ) (i : ι) (inputs : List ι) (s t : σ) :
    (inputs ++ [i]).foldlM step s = .ok t ↔
      ∃ middle, inputs.foldlM step s = .ok middle ∧ step middle i = .ok t := by
  rw [List.foldlM_append]
  cases hrun : inputs.foldlM step s with
  | error e => simp [bind, Except.bind]
  | ok middle =>
      simp only [bind, Except.bind, Except.ok.injEq, exists_eq_left', List.foldlM_cons,
        List.foldlM_nil]
      cases step middle i with
      | error e => simp
      | ok last => rfl

/-- A run is undone from its end. The induction is on the inputs: the first step is the last to
    be undone. -/
theorem undone_of_run (forth back : σ → ι → Except ε σ) (h : Undoes good forth back)
    (inputs : List ι) (s t : σ) (hs : good s) (hrun : inputs.foldlM forth s = .ok t) :
    good t ∧ inputs.reverse.foldlM back t = .ok s := by
  induction inputs generalizing s with
  | nil =>
      rw [← Except.ok.inj hrun]
      exact ⟨hs, rfl⟩
  | cons i inputs ih =>
      rcases (foldlM_cons_eq_ok forth i inputs s t).mp hrun with ⟨middle, hstep, hlater⟩
      rcases h s i middle hs hstep with ⟨hmiddle, hback⟩
      rcases ih middle hmiddle hlater with ⟨ht, hundone⟩
      refine ⟨ht, ?_⟩
      rw [List.reverse_cons]
      exact (foldlM_concat_eq_ok back i inputs.reverse t s).mpr ⟨middle, hundone, hback⟩

/-- When each of two machines undoes the other, a run of the one is a run of the other from its
    end. -/
theorem run_iff (forth back : σ → ι → Except ε σ) (hforth : Undoes good forth back)
    (hback : Undoes good back forth) (inputs : List ι) (s t : σ) :
    (good s ∧ inputs.foldlM forth s = .ok t) ↔
      (good t ∧ inputs.reverse.foldlM back t = .ok s) := by
  constructor
  · rintro ⟨hs, hrun⟩
    exact undone_of_run good forth back hforth inputs s t hs hrun
  · rintro ⟨ht, hrun⟩
    have hundone := undone_of_run good back forth hback inputs.reverse t s ht hrun
    rwa [List.reverse_reverse] at hundone

/-- Steps that never fail are a run that does not, and they keep the state good. -/
theorem exists_run (step : σ → ι → Except ε σ)
    (h : ∀ s i, good s → ∃ t, step s i = .ok t ∧ good t) (inputs : List ι) (s : σ) (hs : good s) :
    ∃ t, inputs.foldlM step s = .ok t ∧ good t := by
  induction inputs generalizing s with
  | nil => exact ⟨s, rfl, hs⟩
  | cons i inputs ih =>
      rcases h s i hs with ⟨middle, hstep, hmiddle⟩
      rcases ih middle hmiddle with ⟨t, hlater, ht⟩
      exact ⟨t, (foldlM_cons_eq_ok step i inputs s t).mpr ⟨middle, hstep, hlater⟩, ht⟩

end Machine
