import Mathlib.Logic.Basic

/-!
# Checks in a row

A decoder makes its checks one after another and stops with the status of the first that
fails. These are the rules for one of them, by which a whole row is gone through.

## Theorems

* `check_bind`: What comes behind a check comes behind its rest.
* `check_eq_ok_iff`: A check is passed when there is a result.
* `check_eq_error_iff`: A status that is not the one of a check comes from behind it.
-/

namespace Codec

variable {ε α β : Type} (c : Prop) [Decidable c] (e : ε) (rest : Except ε α)

theorem check_bind (f : α → Except ε β) :
    (if c then .error e else rest).bind f = if c then .error e else rest.bind f := by
  by_cases hc : c
  · rw [if_pos hc, if_pos hc]
    rfl
  · rw [if_neg hc, if_neg hc]

theorem check_eq_ok_iff (a : α) : (if c then .error e else rest) = .ok a ↔ ¬c ∧ rest = .ok a := by
  by_cases hc : c
  · rw [if_pos hc]
    simp [hc]
  · rw [if_neg hc]
    simp [hc]

/-- Another status comes from behind the check. -/
theorem check_eq_error_iff (e' : ε) (he : e ≠ e') :
    (if c then .error e else rest) = .error e' ↔ ¬c ∧ rest = .error e' := by
  by_cases hc : c
  · rw [if_pos hc]
    simp [he, hc]
  · rw [if_neg hc]
    simp [hc]

theorem check_ne_error (e' : ε) (he : e ≠ e') (h : rest ≠ .error e') :
    (if c then .error e else rest) ≠ .error e' :=
  fun heq => h ((check_eq_error_iff c e rest e' he).mp heq).2

end Codec
