import Mathlib.Data.List.Basic
import Mathlib.Data.List.Forall2

/-!
# Numbered messages in a queue

A queue between two machines from which messages are taken at the front, lost
anywhere, or doubled where they stand. What is true of the messages one by one
and of each with a later one stays true of what is left.

A sender that numbers its messages modulo something and has no more than a
window of them unacknowledged can be understood by the true numbers: as long as
the window is smaller than the modulus, a number that comes in and agrees with
the expected one modulo it is the expected one.

## Main definitions

* `lose`, `duplicate`: What may happen to a queue.

## Theorems

* `forall₂_lose`, `forall₂_duplicate`, `pairwise_lose`, `pairwise_duplicate`:
  What stays true.
* `eq_of_mod_eq`: A number within the window is known by its remainder.
* `sub_of_mod`: A step forward is known by the remainders of its ends.
-/

namespace Machine

namespace Fifo

variable {α β : Type}

/-- The message at an index is lost. -/
def lose (index : Nat) (queue : List α) : List α := queue.eraseIdx index

/-- The message at an index comes twice in a row. -/
def duplicate : Nat → List α → List α
  | _, [] => []
  | 0, message :: queue => message :: message :: queue
  | index + 1, message :: queue => message :: duplicate index queue

@[simp] theorem duplicate_nil (index : Nat) : duplicate index ([] : List α) = [] := by
  cases index with
  | zero => rfl
  | succ index => rfl

theorem mem_lose (index : Nat) (queue : List α) (message : α) (h : message ∈ lose index queue) :
    message ∈ queue :=
  List.mem_of_mem_eraseIdx h

theorem mem_duplicate (index : Nat) (queue : List α) (message : α)
    (h : message ∈ duplicate index queue) : message ∈ queue := by
  induction queue generalizing index with
  | nil =>
      rw [duplicate_nil] at h
      exact absurd h List.not_mem_nil
  | cons first queue ih =>
      cases index with
      | zero =>
          rcases List.mem_cons.mp h with rfl | hlater
          · exact List.mem_cons_self
          · exact hlater
      | succ index =>
          rcases List.mem_cons.mp h with rfl | hlater
          · exact List.mem_cons_self
          · exact List.mem_cons_of_mem _ (ih index hlater)

theorem forall₂_lose (related : α → β → Prop) (index : Nat) (first : List α) (second : List β)
    (h : List.Forall₂ related first second) :
    List.Forall₂ related (lose index first) (lose index second) := by
  induction h generalizing index with
  | nil => exact List.Forall₂.nil
  | cons hhead htail ih =>
      cases index with
      | zero => exact htail
      | succ index => exact List.Forall₂.cons hhead (ih index)

theorem forall₂_duplicate (related : α → β → Prop) (index : Nat) (first : List α)
    (second : List β) (h : List.Forall₂ related first second) :
    List.Forall₂ related (duplicate index first) (duplicate index second) := by
  induction h generalizing index with
  | nil =>
      rw [duplicate_nil, duplicate_nil]
      exact List.Forall₂.nil
  | cons hhead htail ih =>
      cases index with
      | zero => exact List.Forall₂.cons hhead (List.Forall₂.cons hhead htail)
      | succ index => exact List.Forall₂.cons hhead (ih index)

theorem pairwise_lose (related : α → α → Prop) (index : Nat) (queue : List α)
    (h : queue.Pairwise related) : (lose index queue).Pairwise related :=
  h.sublist (List.eraseIdx_sublist queue index)

/-- Doubling asks for a message to be related to itself. -/
theorem pairwise_duplicate (related : α → α → Prop) (hrefl : ∀ message, related message message)
    (index : Nat) (queue : List α) (h : queue.Pairwise related) :
    (duplicate index queue).Pairwise related := by
  induction queue generalizing index with
  | nil =>
      rw [duplicate_nil]
      exact List.Pairwise.nil
  | cons message queue ih =>
      rcases List.pairwise_cons.mp h with ⟨hmessage, hqueue⟩
      cases index with
      | zero =>
          refine List.pairwise_cons.mpr ⟨?_, h⟩
          intro later hlater
          rcases List.mem_cons.mp hlater with rfl | hin
          · exact hrefl _
          · exact hmessage later hin
      | succ index =>
          refine List.pairwise_cons.mpr ⟨?_, ih index hqueue⟩
          intro later hlater
          exact hmessage later (mem_duplicate index queue later hlater)

end Fifo

/-! ### Numbers modulo something -/

section Window

variable (modulus window : Nat) (hwindow : window < modulus)

include hwindow

/-- A number that is at most one behind the expected one, and ahead of it by less
    than the window, is the expected one when the remainders agree. -/
theorem eq_of_mod_eq (hpositive : 0 < window) (number expected : Nat)
    (hbehind : expected ≤ number + 1) (hahead : number < expected + window)
    (hmod : number % modulus = expected % modulus) : number = expected := by
  rcases Nat.lt_trichotomy number expected with hlt | heq | hgt
  · -- One behind is not the same modulo more than one.
    have hdvd := Nat.dvd_of_mod_eq_zero (Nat.sub_mod_eq_zero_of_mod_eq hmod.symm)
    have hle := Nat.le_of_dvd (by omega) hdvd
    omega
  · exact heq
  · have hdvd := Nat.dvd_of_mod_eq_zero (Nat.sub_mod_eq_zero_of_mod_eq hmod)
    have hle := Nat.le_of_dvd (by omega) hdvd
    omega

/-- A step forward within the window is the difference of the remainders. -/
theorem sub_of_mod (behind ahead : Nat) (hle : behind ≤ ahead) (hnear : ahead ≤ behind + window) :
    (ahead % modulus + modulus - behind % modulus) % modulus = ahead - behind := by
  have hlt : behind % modulus < modulus := Nat.mod_lt _ (by omega)
  have hsub : (ahead % modulus + modulus - behind % modulus) % modulus =
      (ahead + (modulus - behind % modulus)) % modulus := by
    rw [Nat.add_sub_assoc (Nat.le_of_lt hlt), Nat.mod_add_mod]
  have hsplit : ahead + (modulus - behind % modulus) =
      (ahead - behind) + modulus * (behind / modulus + 1) := by
    have hdiv := Nat.div_add_mod behind modulus
    have hmul : modulus * (behind / modulus + 1) = modulus * (behind / modulus) + modulus :=
      Nat.mul_succ _ _
    omega
  rw [hsub, hsplit, Nat.add_mul_mod_self_left]
  exact Nat.mod_eq_of_lt (by omega)

end Window

end Machine
