import Mathlib.Data.List.Chain

/-!
# Checks over the rows of a table

A table is a list of rows with keys. The checks a program makes over one are
loops that return at the first row that is wrong: no key twice, every row behind
the one before it, every reference found among the keys of another table. Here
they are Boolean functions of the rows, next to what they establish.

## Main definitions

* `distinct`: No two rows have the same key.
* `ascending`: Every row is behind the one before it.
* `found`: A key is among the rows.

## Theorems

* `distinct_iff`, `found_iff`: What the checks say.
* `both_of_not_refused`: Two checks neither of which refuses.
* `pairwise_of_ascending`: Neighbours in order are rows in order, when the order
  is transitive.
-/

namespace Codec

variable {α κ : Type}

/-- No row has the key of a later one. -/
def distinct [DecidableEq κ] (key : α → κ) : List α → Bool
  | [] => true
  | row :: rows => rows.all (fun later => key row != key later) && distinct key rows

/-- Every row is less than the next one. -/
def ascending (less : α → α → Bool) : List α → Bool
  | [] => true
  | [_] => true
  | row :: next :: rows => less row next && ascending less (next :: rows)

/-- Some row has the key. -/
def found [DecidableEq κ] (key : α → κ) (rows : List α) (wanted : κ) : Bool :=
  rows.any fun row => key row == wanted

/-- A program that refuses when one of two checks fails has gone on. -/
theorem both_of_not_refused (first second : Bool) (h : ¬(!first || !second) = true) :
    first = true ∧ second = true := by
  rw [Bool.not_eq_true, Bool.or_eq_false_iff, Bool.not_eq_false', Bool.not_eq_false'] at h
  exact h

theorem distinct_iff [DecidableEq κ] (key : α → κ) (rows : List α) :
    distinct key rows = true ↔ (rows.map key).Nodup := by
  induction rows with
  | nil => exact ⟨fun _ => List.nodup_nil, fun _ => rfl⟩
  | cons row rows ih =>
      rw [distinct, Bool.and_eq_true, ih, List.map_cons, List.nodup_cons, List.all_eq_true]
      refine and_congr_left fun _ => ⟨fun h hmem => ?_, fun h later hlater => ?_⟩
      · rcases List.mem_map.mp hmem with ⟨later, hlater, hkey⟩
        exact bne_iff_ne.mp (h later hlater) hkey.symm
      · exact bne_iff_ne.mpr fun hkey => h (List.mem_map.mpr ⟨later, hlater, hkey.symm⟩)

theorem found_iff [DecidableEq κ] (key : α → κ) (rows : List α) (wanted : κ) :
    found key rows wanted = true ↔ ∃ row ∈ rows, key row = wanted := by
  rw [found, List.any_eq_true]
  exact ⟨fun ⟨row, hrow, hkey⟩ => ⟨row, hrow, beq_iff_eq.mp hkey⟩,
    fun ⟨row, hrow, hkey⟩ => ⟨row, hrow, beq_iff_eq.mpr hkey⟩⟩

theorem isChain_of_ascending (less : α → α → Bool) (rows : List α)
    (h : ascending less rows = true) : rows.IsChain fun a b => less a b = true := by
  induction rows with
  | nil => exact List.IsChain.nil
  | cons row rows ih =>
      cases rows with
      | nil => exact List.IsChain.singleton row
      | cons next rows =>
          rw [ascending, Bool.and_eq_true] at h
          exact List.IsChain.cons_cons h.1 (ih h.2)

/-- Rows each of which is less than the next are in order throughout. -/
theorem pairwise_of_ascending (less : α → α → Bool) (before : α → α → Prop)
    (htrans : ∀ a b c, before a b → before b c → before a c) (rows : List α)
    (hless : ∀ a ∈ rows, ∀ b ∈ rows, less a b = true → before a b)
    (h : ascending less rows = true) : rows.Pairwise before := by
  have : IsTrans α before := ⟨htrans⟩
  rw [← List.isChain_iff_pairwise]
  exact (isChain_of_ascending less rows h).imp_of_mem_imp
    fun a b ha hb hab => hless a ha b hb hab

end Codec
