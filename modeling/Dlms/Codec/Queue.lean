import Dlms.Codec.Incremental

/-!
# A stream that carries a queue

Items are encoded one behind the other into a stream, and a reader takes the
octets out in pieces that are cut anywhere. It keeps the octets that make no
item yet, and the items that nobody has asked for. Whatever has been read, what
waits at the reader and what is on the way are the items that were sent and have
not been taken, in the order in which they were sent.

## Main definitions

* `Carries`: The items that are on the way.

## Theorems

* `Carries.send`, `Carries.read`, `Carries.take`: What may happen to them.
* `Carries.pending_of_empty`: Once everything has been read, the items wait.
-/

namespace Codec

variable {τ φ ε : Type} (next : List τ → Verdict τ φ ε)

/-- What waits at a reader, as items and as octets, and the octets on their way
    to it are the items of a queue. -/
structure Carries (pending : List φ) (buffer wire : List τ) (queue : List φ) : Prop where
  waits : next buffer = .wait buffer
  whole : ∃ later, drain next (buffer ++ wire) = (later, .ok []) ∧ queue = pending ++ later

namespace Carries

/-- Nothing is on the way at first. -/
theorem nil (h : Incremental next) : Carries next [] [] [] [] where
  waits := h.empty
  whole := ⟨[], drain_of_wait next [] [] h.empty, rfl⟩

variable {next} {pending : List φ} {buffer wire : List τ} {queue : List φ}

/-- An item that is found in front of anything joins the end. -/
theorem send (h : Incremental next) (hcarries : Carries next pending buffer wire queue)
    (octets : List τ) (item : φ) (hfound : next octets = .found item []) :
    Carries next pending buffer (wire ++ octets) (queue ++ [item]) := by
  rcases hcarries with ⟨hwaits, later, hdrain, rfl⟩
  refine ⟨hwaits, later ++ [item], ?_, List.append_assoc _ _ _⟩
  rw [← List.append_assoc, drain_append next h _ _ _ _ hdrain, List.nil_append,
    drain_of_found next h _ _ _ hfound, drain_of_wait next [] [] h.empty]

/-- A piece that is read refuses nothing, and its items wait. -/
theorem read (h : Incremental next) (piece rest : List τ)
    (hcarries : Carries next pending buffer (piece ++ rest) queue) :
    ∃ found kept, drain next (buffer ++ piece) = (found, .ok kept) ∧
      Carries next (pending ++ found) kept rest queue := by
  rcases hcarries with ⟨-, later, hdrain, rfl⟩
  rw [← List.append_assoc] at hdrain
  rcases hpiece : drain next (buffer ++ piece) with ⟨found, cause | kept⟩
  · rw [drain_append_refused next h _ _ _ _ hpiece, Prod.mk.injEq] at hdrain
    exact absurd hdrain.2 (by simp)
  · rw [drain_append next h _ _ _ _ hpiece, Prod.mk.injEq] at hdrain
    refine ⟨found, kept, rfl, next_of_drain next h _ _ _ hpiece,
      (drain next (kept ++ rest)).1, Prod.ext rfl hdrain.2, ?_⟩
    rw [← hdrain.1, List.append_assoc]

/-- The first item that waits is the first of the queue. -/
theorem take (item : φ) (hcarries : Carries next (item :: pending) buffer wire queue) :
    ∃ later, queue = item :: later ∧ Carries next pending buffer wire later := by
  rcases hcarries with ⟨hwaits, later, hdrain, rfl⟩
  exact ⟨pending ++ later, rfl, hwaits, later, hdrain, rfl⟩

/-- When everything has been read, everything waits. -/
theorem pending_of_empty (hcarries : Carries next pending buffer [] queue) :
    queue = pending ∧ buffer = [] := by
  rcases hcarries with ⟨hwaits, later, hdrain, rfl⟩
  rw [List.append_nil, drain_of_wait next buffer buffer hwaits, Prod.mk.injEq,
    Except.ok.injEq] at hdrain
  rw [← hdrain.1, List.append_nil]
  exact ⟨rfl, hdrain.2⟩

end Carries

end Codec
