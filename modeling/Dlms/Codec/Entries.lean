import Mathlib.Data.List.Basic
import Mathlib.Data.List.Nodup

/-!
# Maps as lists of entries

A map is written as the list of its entries, in the order of its keys, and it is read by
setting one entry after another in an empty map. When every key is listed once, what is
read is what was written: the entry of a key is set in one step, and no other step touches
it.

## Main definitions

* `entriesOf`: The entries of a map.
* `setEntry`: A map with one entry set.

## Theorems

* `foldl_setEntry_of_notMem`: A key that no entry has keeps its value.
* `foldl_setEntry_entriesOf`: Setting the entries of a map makes the map again.
-/

namespace Codec

variable {κ μ : Type}

def entriesOf (keys : List κ) (map : κ → Option μ) : List (κ × μ) :=
  keys.filterMap fun key => (map key).map (key, ·)

theorem length_entriesOf_le (keys : List κ) (map : κ → Option μ) :
    (entriesOf keys map).length ≤ keys.length :=
  List.length_filterMap_le _ _

/-- The keys of the entries are among the keys that were listed. -/
theorem mem_keys_of_mem_entriesOf (keys : List κ) (map : κ → Option μ) (entry : κ × μ)
    (h : entry ∈ entriesOf keys map) : entry.1 ∈ keys := by
  rcases List.mem_filterMap.mp h with ⟨key, hkey, hentry⟩
  rcases Option.map_eq_some_iff.mp hentry with ⟨value, -, rfl⟩
  exact hkey

variable [DecidableEq κ]

/-- Set an entry, in place of the one that its key had. -/
def setEntry (map : κ → Option μ) (entry : κ × μ) : κ → Option μ :=
  fun key => if key = entry.1 then some entry.2 else map key

theorem foldl_setEntry_of_notMem (entries : List (κ × μ)) (start : κ → Option μ) (key : κ)
    (h : ∀ entry ∈ entries, entry.1 ≠ key) : entries.foldl setEntry start key = start key := by
  induction entries generalizing start with
  | nil => rfl
  | cons entry entries ih =>
      rw [List.foldl_cons, ih _ fun other hother => h other (List.mem_cons_of_mem entry hother)]
      rw [setEntry, if_neg fun hkey => h entry List.mem_cons_self hkey.symm]

/-- A key that is listed gets the value that the map has for it, if it has one. -/
theorem foldl_setEntry_entriesOf_apply (keys : List κ) (hkeys : keys.Nodup)
    (map start : κ → Option μ) (key : κ) (hkey : key ∈ keys) :
    (entriesOf keys map).foldl setEntry start key = (map key <|> start key) := by
  induction keys generalizing start with
  | nil => exact absurd hkey List.not_mem_nil
  | cons first keys ih =>
      rw [List.nodup_cons] at hkeys
      rcases List.mem_cons.mp hkey with rfl | hrest
      · -- No later entry has this key, so what this step sets is what stays.
        have hlater (entry : κ × μ) (hentry : entry ∈ entriesOf keys map) : entry.1 ≠ key := by
          rintro rfl
          exact hkeys.1 (mem_keys_of_mem_entriesOf keys map entry hentry)
        cases hvalue : map key with
        -- The map has no entry for the key, and keeps what it had.
        | none =>
            have hentries : entriesOf (key :: keys) map = entriesOf keys map := by
              simp [entriesOf, hvalue]
            rw [hentries, foldl_setEntry_of_notMem _ _ _ hlater]
            rfl
        | some value =>
            have hentries : entriesOf (key :: keys) map = (key, value) :: entriesOf keys map := by
              simp [entriesOf, hvalue]
            rw [hentries, List.foldl_cons, foldl_setEntry_of_notMem _ _ _ hlater, setEntry,
              if_pos rfl]
            rfl
      -- The step for another key leaves this one as it is.
      · have hne : key ≠ first := fun heq => hkeys.1 (heq ▸ hrest)
        cases hvalue : map first with
        | none =>
            have hentries : entriesOf (first :: keys) map = entriesOf keys map := by
              simp [entriesOf, hvalue]
            rw [hentries]
            exact ih hkeys.2 start hrest
        | some value =>
            have hentries :
                entriesOf (first :: keys) map = (first, value) :: entriesOf keys map := by
              simp [entriesOf, hvalue]
            rw [hentries, List.foldl_cons, ih hkeys.2 _ hrest, setEntry, if_neg hne]

/-- The entries of a map make the map again, when every key is listed and no key twice. -/
theorem foldl_setEntry_entriesOf (keys : List κ) (hkeys : keys.Nodup)
    (hcomplete : ∀ key, key ∈ keys) (map : κ → Option μ) :
    (entriesOf keys map).foldl setEntry (fun _ => none) = map := by
  funext key
  rw [foldl_setEntry_entriesOf_apply keys hkeys map _ key (hcomplete key)]
  cases map key <;> rfl

end Codec
