import Dlms.Xdlms.Collector

/-!
# Cutting an answer into blocks

What a server does with a long GET answer, without the service around it. A
slicer is started with the answer, cuts the next piece off at every request,
and stops after the last. It may also stop before, and then the rest is never
served.

Next to it runs what a listener would have written down, the answer and the
blocks served from it. `Sliced` is what these blocks are at any time.

## Main definitions

* `Sliced`: Blocks cut from the front of an answer, one after the other.
* `Slicer`, `Cuts`, `Serves`: The slicer and its step.
* `Served`: The answer and its blocks, as they were served.
* `InStep`: What a slicer has left is what was not served.

## Theorems

* `sliced_of_cuts`, `inStep_of_cuts`: One block more.
* `served_of_serves`: A step keeps the blocks slices of the answer.
-/

namespace Dlms

namespace Xdlms

open Apdu (Bytes DataBlock)

/-- The blocks are pieces of the data from its start on, none empty and none
    left out, and the last of them is marked exactly when nothing is left. -/
structure Sliced (data : Bytes) (blocks : List DataBlock) : Prop where
  consecutive : Consecutive blocks
  nonempty : ∀ block ∈ blocks, block.rawData ≠ []
  slices : rawDataOf blocks <+: data
  last : ∀ block, blocks.getLast? = some block →
    (block.lastBlock = true ↔ rawDataOf blocks = data)

theorem sliced_nil (data : Bytes) : Sliced data [] where
  consecutive := consecutive_nil
  nonempty := fun _ h => absurd h List.not_mem_nil
  slices := List.nil_prefix
  last := fun _ h => absurd h (by simp [List.getLast?_nil])

/-- An answer being served: what is left of it starts at the offset. -/
structure Slicer where
  active : Bool
  nextBlockNumber : UInt32
  offset : Nat
  data : Bytes

/-- The slicer cuts a block off, and has the rest left unless there is none. -/
structure Cuts (before : Slicer) (block : DataBlock) (size : Nat) (after : Slicer) : Prop where
  positive : 0 < size
  room : before.offset + size ≤ before.data.length
  number : block.blockNumber = before.nextBlockNumber
  rawData : block.rawData = (before.data.drop before.offset).take size
  last : block.lastBlock = (before.offset + size == before.data.length)
  stops : block.lastBlock = true → after.active = false
  goesOn : block.lastBlock = false → after = { before with
    offset := before.offset + size
    nextBlockNumber := before.nextBlockNumber + 1 }

/-- One step: without an answer, or with one that may be started on. -/
inductive Serves : Option Bytes → Slicer → Slicer → Option DataBlock → Prop
  | same (before after : Slicer) (h : after = before) : Serves none before after none
  | stopped (answer : Option Bytes) (before after : Slicer) (h : after.active = false) :
      Serves answer before after none
  | started (data : Bytes) (block : DataBlock) (size : Nat) (before after : Slicer)
      (h : Cuts ⟨true, 1, 0, data⟩ block size after) :
      Serves (some data) before after (some block)
  | continued (block : DataBlock) (size : Nat) (before after : Slicer)
      (hactive : before.active = true) (h : Cuts before block size after) :
      Serves none before after (some block)

/-- The last answer and the blocks served from it. -/
structure Served where
  data : Bytes := []
  blocks : List DataBlock := []

namespace Served

/-- An answer starts a new list of blocks, and a block goes to its end. -/
def extend (served : Served) (answer : Option Bytes) (block : Option DataBlock) : Served :=
  let current : Served := answer.elim served fun data => { data := data }
  { current with blocks := current.blocks ++ block.toList }

end Served

/-- The blocks served so far are what lies before the offset. -/
structure InStep (served : Served) (slicer : Slicer) : Prop where
  data : slicer.data = served.data
  consecutive : Consecutive served.blocks
  more : ∀ block ∈ served.blocks, block.lastBlock = false
  nonempty : ∀ block ∈ served.blocks, block.rawData ≠ []
  nextBlockNumber : slicer.nextBlockNumber = blockNumber served.blocks.length
  rawData : rawDataOf served.blocks = slicer.data.take slicer.offset

section Steps

variable (served : Served) (before after : Slicer) (block : DataBlock) (size : Nat)
  (h : InStep served before) (hcuts : Cuts before block size after)
include h hcuts

/-- The block lies right behind the others. -/
theorem rawDataOf_cuts :
    rawDataOf (served.blocks ++ [block]) = before.data.take (before.offset + size) := by
  rw [rawDataOf_concat, h.rawData, hcuts.rawData, List.take_add]

theorem consecutive_cuts : Consecutive (served.blocks ++ [block]) := by
  refine consecutive_concat served.blocks block h.consecutive h.more ?_
  rw [hcuts.number, h.nextBlockNumber]

theorem nonempty_cuts : ∀ earlier ∈ served.blocks ++ [block], earlier.rawData ≠ [] := by
  intro earlier hmem
  rcases List.mem_append.mp hmem with hearlier | hthis
  · exact h.nonempty earlier hearlier
  · rw [List.mem_singleton.mp hthis, hcuts.rawData]
    have hlength : ((before.data.drop before.offset).take size).length = size := by
      have hroom := hcuts.room
      rw [List.length_take, List.length_drop]
      omega
    have hpositive := hcuts.positive
    intro hnil
    rw [hnil, List.length_nil] at hlength
    omega

/-- With one block more the blocks are slices, be it the last or not. -/
theorem sliced_of_cuts : Sliced served.data (served.blocks ++ [block]) where
  consecutive := consecutive_cuts served before after block size h hcuts
  nonempty := nonempty_cuts served before after block size h hcuts
  slices := by
    rw [rawDataOf_cuts served before after block size h hcuts, h.data]
    exact List.take_prefix _ _
  last := by
    intro final hfinal
    rw [List.getLast?_concat, Option.some.injEq] at hfinal
    rw [← hfinal, rawDataOf_cuts served before after block size h hcuts, hcuts.last,
      beq_iff_eq, ← h.data]
    have hroom := hcuts.room
    constructor
    · intro hall
      rw [hall, List.take_length]
    · intro hall
      have hlength := congrArg List.length hall
      rw [List.length_take] at hlength
      omega

/-- A slicer that goes on has left what is not served. -/
theorem inStep_of_cuts (hactive : after.active = true) :
    InStep { served with blocks := served.blocks ++ [block] } after := by
  have hmore : block.lastBlock = false := by
    by_contra hlast
    rw [Bool.not_eq_false] at hlast
    exact absurd (hactive.symm.trans (hcuts.stops hlast)) (by decide)
  rw [hcuts.goesOn hmore]
  exact
    { data := h.data
      consecutive := consecutive_cuts served before after block size h hcuts
      more := by
        intro earlier hmem
        rcases List.mem_append.mp hmem with hearlier | hthis
        · exact h.more earlier hearlier
        · rw [List.mem_singleton.mp hthis]
          exact hmore
      nonempty := nonempty_cuts served before after block size h hcuts
      nextBlockNumber := by
        rw [List.length_append, List.length_singleton, ← blockNumber_succ, ← h.nextBlockNumber]
      rawData := rawDataOf_cuts served before after block size h hcuts }

end Steps

/-- What was served is slices of the answer, and an active slicer goes on where
    they end. -/
structure WellServed (served : Served) (slicer : Slicer) : Prop where
  sliced : Sliced served.data served.blocks
  inStep : slicer.active = true → InStep served slicer

theorem inStep_start (data : Bytes) : InStep { data := data } ⟨true, 1, 0, data⟩ where
  data := rfl
  consecutive := consecutive_nil
  more := fun _ h => absurd h List.not_mem_nil
  nonempty := fun _ h => absurd h List.not_mem_nil
  nextBlockNumber := rfl
  rawData := rfl

/-- A step keeps the blocks slices of the answer. -/
theorem served_of_serves (served : Served) (answer : Option Bytes) (block : Option DataBlock)
    (before after : Slicer) (hserves : Serves answer before after block)
    (h : WellServed served before) : WellServed (served.extend answer block) after := by
  cases hserves with
  | same _ _ hsame =>
      rw [hsame]
      simp only [Served.extend, Option.elim, Option.toList, List.append_nil]
      exact h
  | stopped _ _ _ hstopped =>
      have hidle : ∀ served : Served, after.active = true → InStep served after :=
        fun served hactive => absurd (hactive.symm.trans hstopped) (by decide)
      cases answer with
      | none =>
          simp only [Served.extend, Option.elim, Option.toList, List.append_nil]
          exact ⟨h.sliced, hidle _⟩
      | some data =>
          simp only [Served.extend, Option.elim, Option.toList, List.append_nil]
          exact ⟨sliced_nil data, hidle _⟩
  | started data block size _ _ hcuts =>
      -- The blocks of the answer before do not count any more.
      have hstart := inStep_start data
      exact ⟨sliced_of_cuts _ _ _ block size hstart hcuts,
        inStep_of_cuts _ _ _ block size hstart hcuts⟩
  | continued block size _ _ hactive hcuts =>
      have hstep := h.inStep hactive
      exact ⟨sliced_of_cuts _ _ _ block size hstep hcuts,
        inStep_of_cuts _ _ _ block size hstep hcuts⟩

end Xdlms

end Dlms
