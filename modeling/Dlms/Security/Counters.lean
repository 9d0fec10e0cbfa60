import Dlms.Security.Types

/-!
# Invocation counters

A store has the counter of the next message that goes out, and for each system
title the highest counter that came in.

The outgoing counter never goes back and the last value of the type is never
handed out, so that a store hands out no counter twice. The incoming mark of a
title never goes back either, so a counter a store has accepted once it never
accepts again. Both are facts about one store, and what is new is another one.

## Main definitions

* `InMemoryInvocationCounterStore`: The store.
* `nextLocal`: Hand out a counter.
* `validateRemoteForSystemTitle`: Accept a counter, or not.
* `resetAfterKeyRotation`: Start again.

## Theorems

* `nextLocal_cases`: What handing out a counter does.
* `validateRemote_cases`: What accepting a counter does.
* `mark_le_setMark`: A mark that is accepted puts no mark back.
-/

namespace Dlms

namespace Security

/-- The counters of one processor. -/
structure InMemoryInvocationCounterStore where
  nextLocalCounter : UInt32 := 1
  highestRemoteBySystemTitle : SystemTitle → Option UInt32 := fun _ => none

namespace InMemoryInvocationCounterStore

def setLocalCounter (store : InMemoryInvocationCounterStore) (invocationCounter : UInt32) :
    InMemoryInvocationCounterStore :=
  { store with nextLocalCounter := invocationCounter }

/-- The counter of the next message, and the store after it. -/
def nextLocal (store : InMemoryInvocationCounterStore) :
    Except SecurityStatus UInt32 × InMemoryInvocationCounterStore :=
  if store.nextLocalCounter = 0xFFFFFFFF then
    (.error .invocationCounterExhausted, store)
  else
    (.ok store.nextLocalCounter, { store with nextLocalCounter := store.nextLocalCounter + 1 })

/-- Put a new mark for a title. -/
def setMark (store : InMemoryInvocationCounterStore) (title : SystemTitle) (mark : UInt32) :
    InMemoryInvocationCounterStore :=
  { store with
    highestRemoteBySystemTitle := fun other =>
      if other = title then some mark else store.highestRemoteBySystemTitle other }

/-- Accept a counter that is larger than every one accepted before. -/
def validateRemoteForSystemTitle (store : InMemoryInvocationCounterStore)
    (systemTitle : SystemTitle) (invocationCounter : UInt32) :
    Except SecurityStatus Unit × InMemoryInvocationCounterStore :=
  if invocationCounter = 0 then
    (.error .invalidInvocationCounter, store)
  else
    match store.highestRemoteBySystemTitle systemTitle with
    | none => (.ok (), store.setMark systemTitle invocationCounter)
    | some highest =>
        if invocationCounter ≤ highest then
          (.error .replayDetected, store)
        else
          (.ok (), store.setMark systemTitle invocationCounter)

/-- All counters start again, whatever the key. -/
def resetAfterKeyRotation (store : InMemoryInvocationCounterStore) :
    InMemoryInvocationCounterStore :=
  { store with
    nextLocalCounter := 1
    highestRemoteBySystemTitle := fun _ => none }

section Store

variable (store : InMemoryInvocationCounterStore)

/-- A counter is handed out and the next one is larger, or the store is as it
    was. -/
theorem nextLocal_cases :
    (∃ status, store.nextLocal = (.error status, store)) ∨
      ∃ after, store.nextLocal = (.ok store.nextLocalCounter, after) ∧
        after.nextLocalCounter.toNat = store.nextLocalCounter.toNat + 1 ∧
        after.highestRemoteBySystemTitle = store.highestRemoteBySystemTitle := by
  unfold nextLocal
  by_cases hlast : store.nextLocalCounter = 0xFFFFFFFF
  · rw [if_pos hlast]
    exact .inl ⟨_, rfl⟩
  · rw [if_neg hlast]
    refine .inr ⟨_, rfl, ?_, rfl⟩
    have hne : store.nextLocalCounter.toNat ≠ 0xFFFFFFFF := by
      intro h
      exact hlast (UInt32.toNat_inj.mp h)
    have hlt := store.nextLocalCounter.toNat_lt
    rw [UInt32.toNat_add, UInt32.toNat_one]
    omega

variable (title : SystemTitle) (counter : UInt32)

/-- A counter above the mark is accepted and becomes the mark, or the store is
    as it was. -/
theorem validateRemote_cases :
    (∃ status, store.validateRemoteForSystemTitle title counter = (.error status, store)) ∨
      (store.validateRemoteForSystemTitle title counter =
          (.ok (), store.setMark title counter) ∧
        ∀ mark, store.highestRemoteBySystemTitle title = some mark → mark < counter) := by
  unfold validateRemoteForSystemTitle
  by_cases hzero : counter = 0
  · rw [if_pos hzero]
    exact .inl ⟨_, rfl⟩
  · rw [if_neg hzero]
    cases hmark : store.highestRemoteBySystemTitle title with
    | none =>
        refine .inr ⟨rfl, fun mark h => ?_⟩
        cases h
    | some highest =>
        by_cases hold : counter ≤ highest
        · simp only [hold, if_true]
          exact .inl ⟨_, rfl⟩
        · simp only [hold, if_false]
          refine .inr ⟨trivial, fun mark h => ?_⟩
          rw [← Option.some.inj h]
          exact UInt32.not_le.mp hold

theorem mark_setMark : (store.setMark title counter).highestRemoteBySystemTitle title =
    some counter :=
  if_pos rfl

/-- A mark above the old one of its title puts no mark back. -/
theorem mark_le_setMark (hlarger : ∀ mark, store.highestRemoteBySystemTitle title = some mark →
    mark < counter) (other : SystemTitle) (mark : UInt32)
    (hmark : store.highestRemoteBySystemTitle other = some mark) :
    ∃ later, (store.setMark title counter).highestRemoteBySystemTitle other = some later ∧
      mark ≤ later := by
  by_cases hsame : other = title
  · rw [hsame] at hmark ⊢
    exact ⟨counter, store.mark_setMark title counter, UInt32.le_of_lt (hlarger mark hmark)⟩
  · refine ⟨mark, ?_, UInt32.le_refl mark⟩
    rw [← hmark]
    exact if_neg hsame

end Store

end InMemoryInvocationCounterStore

end Security

end Dlms
