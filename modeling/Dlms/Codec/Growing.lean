import Mathlib.Tactic.Ring
import Mathlib.Tactic.SplitIfs

/-!
# Growing a buffer until it is large enough

A producer that does not know how large its output will be tries with a small buffer, and with
one of twice the size as long as it is told that the buffer was too small. Memory is finite, so
the loop has a third end: a buffer that cannot be had.

The loop is right when the failure it goes on after means the room and nothing else, at every
size. Then its result is the one a large buffer gives, and it is reached when and only when one of
the sizes is both large enough and to be had.

## Main definitions

* `grow`: The loop.
* `Enough`: One of its sizes is large enough and to be had.

## Theorems

* `enough_of_le`: Twice what is needed is enough memory.
* `grow_eq_some_iff`, `grow_eq_none_iff`: When the loop ends with its result.
-/

namespace Codec

variable {ε α : Type}

theorem double_pos (size : Nat) (h : 0 < size) : 0 < size * 2 :=
  Nat.mul_pos h Nat.two_pos

/-- Attempt with a buffer of `size`, then of twice that, as long as the failure is `full` and the
    memory holds the buffer. Nothing is returned when it does not. -/
def grow [DecidableEq ε] (attempt : Nat → Except ε α) (full : ε) (memory size : Nat)
    (hsize : 0 < size) : Option (Except ε α) :=
  if size ≤ memory then
    match attempt size with
    | .ok output => some (.ok output)
    | .error err =>
        -- Any other failure is not one that a larger buffer changes.
        if err = full then
          grow attempt full memory (size * 2) (double_pos size hsize)
        else
          some (.error err)
  else
    none
  termination_by memory + 1 - size
  decreasing_by omega

/-- One of the sizes the loop comes to is large enough, and the memory holds it. -/
def Enough (need memory size : Nat) : Prop :=
  ∃ doublings, need ≤ size * 2 ^ doublings ∧ size * 2 ^ doublings ≤ memory

/-- A size that is too small is not the one, and the ones after it are those of its double. -/
theorem enough_double (need memory size : Nat) (h : size < need) :
    Enough need memory size ↔ Enough need memory (size * 2) := by
  constructor
  · -- The size itself is not large enough, so at least one doubling has been made.
    rintro ⟨_ | doublings, hneed, hmemory⟩
    · rw [Nat.pow_zero, Nat.mul_one] at hneed
      omega
    · rw [Nat.pow_succ', ← Nat.mul_assoc] at hneed hmemory
      exact ⟨doublings, hneed, hmemory⟩
  · rintro ⟨doublings, hneed, hmemory⟩
    rw [Nat.mul_assoc, ← Nat.pow_succ'] at hneed hmemory
    exact ⟨doublings + 1, hneed, hmemory⟩

theorem not_enough_of_lt (need memory size : Nat) (h : memory < size) :
    ¬ Enough need memory size := by
  rintro ⟨doublings, -, hmemory⟩
  have hgrows : size * 1 ≤ size * 2 ^ doublings :=
    Nat.mul_le_mul_left size (Nat.one_le_two_pow)
  omega

/-- The first size that is large enough is less than twice what is needed, unless it is the one the
    loop begins with. -/
theorem enough_of_le (need memory size : Nat) (hsize : 0 < size) (hbegin : size ≤ memory)
    (htwice : 2 * need ≤ memory) : Enough need memory size := by
  by_cases hneed : need ≤ size
  · exact ⟨0, by omega, by omega⟩
  · rw [enough_double need memory size (by omega)]
    exact enough_of_le need memory (size * 2) (double_pos size hsize) (by omega) htwice
  termination_by need - size
  decreasing_by omega

section Settled

variable [DecidableEq ε] (attempt : Nat → Except ε α) (full : ε) (need : Nat) (result : Except ε α)

/-- The attempts fail with `full` below a size, and give one result from there on. -/
def SettledAt : Prop :=
  ∀ size, attempt size = if need ≤ size then result else .error full

/-- The induction is the one of the loop. A size that is too small fails with `full`, a large
    enough one gives the result, and that is not `full`. -/
theorem grow_eq_of_settledAt (hsettled : SettledAt attempt full need result)
    (hresult : result ≠ .error full) (memory size : Nat) (hsize : 0 < size) :
    (Enough need memory size ∧ grow attempt full memory size hsize = some result) ∨
      (¬ Enough need memory size ∧ grow attempt full memory size hsize = none) := by
  fun_induction grow attempt full memory size hsize with
  | case1 size hsize hmemory output hattempt =>
      rw [hsettled size] at hattempt
      split_ifs at hattempt with hneed
      exact Or.inl ⟨⟨0, by omega, by omega⟩, by rw [hattempt]⟩
  | case2 size hsize hmemory hattempt ih =>
      rw [hsettled size] at hattempt
      split_ifs at hattempt with hneed
      · exact absurd hattempt hresult
      · rw [enough_double need memory size (by omega)]
        exact ih
  | case3 size hsize hmemory err hattempt herr =>
      rw [hsettled size] at hattempt
      split_ifs at hattempt with hneed
      · exact Or.inl ⟨⟨0, by omega, by omega⟩, by rw [hattempt]⟩
      · exact absurd (Except.error.inj hattempt).symm herr
  | case4 size hsize hmemory =>
      exact Or.inr ⟨not_enough_of_lt need memory size (by omega), rfl⟩

/-- The loop ends with the result of a large buffer when one of its sizes is large enough and to be
    had. -/
theorem grow_eq_some_iff (hsettled : SettledAt attempt full need result)
    (hresult : result ≠ .error full) (memory size : Nat) (hsize : 0 < size) :
    grow attempt full memory size hsize = some result ↔ Enough need memory size := by
  rcases grow_eq_of_settledAt attempt full need result hsettled hresult memory size hsize with
    ⟨henough, hgrow⟩ | ⟨hshort, hgrow⟩
  · simp [hgrow, henough]
  · simp [hgrow, hshort]

/-- It ends without any when none of them is. -/
theorem grow_eq_none_iff (hsettled : SettledAt attempt full need result)
    (hresult : result ≠ .error full) (memory size : Nat) (hsize : 0 < size) :
    grow attempt full memory size hsize = none ↔ ¬ Enough need memory size := by
  rcases grow_eq_of_settledAt attempt full need result hsettled hresult memory size hsize with
    ⟨henough, hgrow⟩ | ⟨hshort, hgrow⟩
  · simp [hgrow, henough]
  · simp [hgrow, hshort]

end Settled

end Codec
