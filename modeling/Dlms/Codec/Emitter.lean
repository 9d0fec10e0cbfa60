import Mathlib.Data.List.Basic

/-!
# Emitters into a bounded buffer

An emitter appends tokens to a buffer of fixed capacity, or stops with an
error. The buffer carries the proof that it never holds more than its
capacity, so no later statement has to ask for it.

`Emits full e ts` says what a well behaved emitter does: it appends `ts` when
`ts` fits and reports `full` when it does not, whatever was in the buffer
before. The two outcomes are one statement on purpose. An encoder that checks
for room at the start and one that runs into the end of the buffer half way
through are the same encoder under it, and the statement composes along `>>=`
with concatenation of the outputs.

Some encoders refuse a value outright, for a reason other than room. `Uniform`
covers both kinds: either the emitter emits one fixed list, or it fails from
every buffer. An encoder proved uniform that once succeeded is known to emit
what it produced then into every buffer that has room for it.

## Main definitions

* `Sink`: A buffer with a capacity it respects.
* `Emitter`: A computation that appends to a sink or fails.
* `Emits`: The emitter appends exactly a given list, room permitting.
* `Uniform`: The emitter emits a fixed list or always fails.
* `Settled`: When it fails, room and another reason are told apart.
* `runEmitter`: Running an emitter on an empty buffer.

## Theorems

* `emits_put`, `emits_bind`, `emits_nil`: Emission composes.
* `runEmitter_of_emits`: The output of an emitter is decided by its size.
* `uniform_bind`, `emits_of_uniform`: A uniform emitter emits what it produced.
* `settled_bind`, `runEmitter_of_refuses`: What a refusal depends on.
-/

namespace Codec

variable {τ ε : Type}

/-- A buffer of fixed capacity and what has been written to it so far. -/
structure Sink (τ : Type) where
  capacity : Nat
  written : List τ
  bounded : written.length ≤ capacity

namespace Sink

/-- The empty buffer of a given capacity. -/
def empty (capacity : Nat) : Sink τ := ⟨capacity, [], Nat.zero_le _⟩

/-- How many more tokens the buffer takes. -/
def room (s : Sink τ) : Nat := s.capacity - s.written.length

/-- Append tokens there is room for. -/
def push (s : Sink τ) (ts : List τ) (h : ts.length ≤ s.room) : Sink τ where
  capacity := s.capacity
  written := s.written ++ ts
  bounded := by
    have hbounded := s.bounded
    rw [room] at h
    rw [List.length_append]
    omega

theorem room_push (s : Sink τ) (ts : List τ) (h : ts.length ≤ s.room) :
    (s.push ts h).room = s.room - ts.length := by
  simp only [room, push, List.length_append]
  omega

theorem push_push (s : Sink τ) (ts us : List τ) (h : ts.length ≤ s.room)
    (h' : us.length ≤ (s.push ts h).room) (h'' : (ts ++ us).length ≤ s.room) :
    (s.push ts h).push us h' = s.push (ts ++ us) h'' := by
  simp [push]

theorem push_nil (s : Sink τ) (h : ([] : List τ).length ≤ s.room) : s.push [] h = s := by
  simp [push]

end Sink

/-- A computation that appends to a buffer or fails. -/
abbrev Emitter (τ ε α : Type) : Type := StateT (Sink τ) (Except ε) α

namespace Emitter

/-- Append a list of tokens, or fail with `full` when it does not fit. -/
def put (full : ε) (ts : List τ) : Emitter τ ε Unit := fun s =>
  if h : ts.length ≤ s.room then .ok ((), s.push ts h) else .error full

/-- Check for room without writing. -/
def reserve (full : ε) (n : Nat) : Emitter τ ε Unit := fun s =>
  if n ≤ s.room then .ok ((), s) else .error full

/-- Stop with an error. -/
def fail (e : ε) : Emitter τ ε Unit := fun _ => .error e

/-- Emit every element of a list with the same encoder. -/
def forEach {α : Type} (enc : α → Emitter τ ε Unit) : List α → Emitter τ ε Unit
  | [] => pure ()
  | a :: as => do
      enc a
      forEach enc as

end Emitter

/-- The emitter appends exactly `ts` when there is room for it and fails with
    `full` otherwise. -/
def Emits (full : ε) (e : Emitter τ ε Unit) (ts : List τ) : Prop :=
  ∀ s, e s = if h : ts.length ≤ s.room then .ok ((), s.push ts h) else .error full

theorem emits_put (full : ε) (ts : List τ) : Emits full (Emitter.put full ts) ts :=
  fun _ => rfl

theorem emits_nil (full : ε) : Emits full (pure () : Emitter τ ε Unit) [] := by
  intro s
  have hpure : (pure () : Emitter τ ε Unit) s = .ok ((), s) := rfl
  simp [hpure, Nat.zero_le, Sink.push_nil]

/-- Emitters in sequence append their outputs in sequence. -/
theorem emits_bind (full : ε) (e f : Emitter τ ε Unit) (ts us : List τ)
    (he : Emits full e ts) (hf : Emits full f us) :
    Emits full (e >>= fun _ => f) (ts ++ us) := by
  intro s
  simp only [bind, StateT.bind, he s, List.length_append]
  by_cases hts : ts.length ≤ s.room
  · simp only [hts, dite_true, Except.bind, hf (s.push ts hts), Sink.room_push]
    by_cases hus : us.length ≤ s.room - ts.length
    · have hboth : ts.length + us.length ≤ s.room := by omega
      simp only [hus, hboth, dite_true]
      rw [Sink.push_push]
    · have hboth : ¬ ts.length + us.length ≤ s.room := by omega
      simp [hus, hboth]
  · have hboth : ¬ ts.length + us.length ≤ s.room := by omega
    simp [hts, hboth, Except.bind]

/-- Checking beforehand for room an emitter is going to use changes nothing. -/
theorem emits_reserve (full : ε) (n : Nat) (e : Emitter τ ε Unit) (ts : List τ)
    (hn : n ≤ ts.length) (he : Emits full e ts) :
    Emits full (Emitter.reserve full n >>= fun _ => e) ts := by
  intro s
  simp only [bind, StateT.bind, Emitter.reserve]
  by_cases hroom : n ≤ s.room
  · simp only [hroom, if_true, Except.bind]
    exact he s
  · have hts : ¬ ts.length ≤ s.room := by omega
    simp [hroom, hts, Except.bind]

theorem emits_forEach {α : Type} (full : ε) (enc : α → Emitter τ ε Unit) (out : α → List τ)
    (as : List α) (h : ∀ a ∈ as, Emits full (enc a) (out a)) :
    Emits full (Emitter.forEach enc as) (as.flatMap out) := by
  induction as with
  | nil => exact emits_nil full
  | cons a as ih =>
      rw [List.flatMap_cons]
      have htail := ih fun b hb => h b (List.mem_cons_of_mem a hb)
      exact emits_bind full _ _ _ _ (h a (List.mem_cons_self ..)) htail

/-- Run an emitter on an empty buffer and return what it wrote. -/
def runEmitter (capacity : Nat) (e : Emitter τ ε Unit) : Except ε (List τ) :=
  match e (Sink.empty capacity) with
  | .ok (_, s) => .ok s.written
  | .error err => .error err

/-- An emitter's output is decided by its size alone. -/
theorem runEmitter_of_emits (full : ε) (capacity : Nat) (e : Emitter τ ε Unit) (ts : List τ)
    (he : Emits full e ts) :
    runEmitter capacity e = if ts.length ≤ capacity then .ok ts else .error full := by
  rw [runEmitter, he]
  have hroom : (Sink.empty capacity : Sink τ).room = capacity := by
    simp [Sink.empty, Sink.room]
  by_cases hfits : ts.length ≤ capacity
  · simp only [hroom, hfits, dite_true, if_true]
    rfl
  · simp [hroom, hfits]

/-- The emitter emits one fixed list, or it fails from every buffer. -/
def Uniform (full : ε) (e : Emitter τ ε Unit) : Prop :=
  (∃ ts, Emits full e ts) ∨ ∀ s, ∃ err, e s = .error err

theorem uniform_of_emits (full : ε) (e : Emitter τ ε Unit) (ts : List τ) (he : Emits full e ts) :
    Uniform full e :=
  Or.inl ⟨ts, he⟩

/-- A sequence fails when its end does, whatever the buffer. -/
theorem fails_bind (full : ε) (e f : Emitter τ ε Unit) (ts : List τ) (he : Emits full e ts)
    (hf : ∀ s, ∃ err, f s = .error err) : ∀ s, ∃ err, (e >>= fun _ => f) s = .error err := by
  intro s
  simp only [bind, StateT.bind, he s]
  split
  · exact hf _
  · exact ⟨full, rfl⟩

theorem uniform_bind (full : ε) (e f : Emitter τ ε Unit) (he : Uniform full e)
    (hf : Uniform full f) : Uniform full (e >>= fun _ => f) := by
  rcases he with ⟨ts, hts⟩ | hfail
  · rcases hf with ⟨us, hus⟩ | hfail
    · exact Or.inl ⟨ts ++ us, emits_bind full e f ts us hts hus⟩
    · exact Or.inr (fails_bind full e f ts hts hfail)
  · refine Or.inr fun s => ?_
    rcases hfail s with ⟨err, herr⟩
    exact ⟨err, by simp [bind, StateT.bind, herr, Except.bind]⟩

theorem uniform_forEach {α : Type} (full : ε) (enc : α → Emitter τ ε Unit) (as : List α)
    (h : ∀ a ∈ as, Uniform full (enc a)) : Uniform full (Emitter.forEach enc as) := by
  induction as with
  | nil => exact uniform_of_emits full _ [] (emits_nil full)
  | cons a as ih =>
      exact uniform_bind full _ _ (h a List.mem_cons_self)
        (ih fun b hb => h b (List.mem_cons_of_mem a hb))

/-- Where a sequence emits something, so do its parts. -/
theorem emits_parts (full : ε) (e f : Emitter τ ε Unit) (ts : List τ) (he : Uniform full e)
    (hf : Uniform full f) (h : Emits full (e >>= fun _ => f) ts) :
    (∃ us, Emits full e us) ∧ ∃ us, Emits full f us := by
  have hrun := runEmitter_of_emits full ts.length _ ts h
  rw [if_pos (Nat.le_refl _), runEmitter] at hrun
  rcases he with ⟨us, hus⟩ | hfail
  · refine ⟨⟨us, hus⟩, ?_⟩
    rcases hf with hemits | hfail
    · exact hemits
    · rcases fails_bind full e f us hus hfail (Sink.empty ts.length) with ⟨err, herr⟩
      rw [herr] at hrun
      cases hrun
  · rcases hfail (Sink.empty ts.length) with ⟨err, herr⟩
    simp [bind, StateT.bind, herr, Except.bind] at hrun

/-- A uniform emitter that succeeded once emits what it produced then. -/
theorem emits_of_uniform (full : ε) (capacity : Nat) (e : Emitter τ ε Unit) (ts : List τ)
    (he : Uniform full e) (hrun : runEmitter capacity e = .ok ts) : Emits full e ts := by
  rcases he with ⟨us, hus⟩ | hfail
  · rw [runEmitter_of_emits full capacity e us hus] at hrun
    split at hrun
    · rw [← Except.ok.inj hrun]
      exact hus
    · cases hrun
  · rcases hfail (Sink.empty capacity) with ⟨err, herr⟩
    rw [runEmitter, herr] at hrun
    cases hrun

/-! ### Refusals for another reason -/

/-- The emitter fails from every buffer: with `err` when there is room for so many tokens more, and
    with `full` when there is not. -/
def Refuses (full : ε) (e : Emitter τ ε Unit) (size : Nat) (err : ε) : Prop :=
  ∀ s, e s = .error (if size ≤ s.room then err else full)

/-- The emitter emits one fixed list, or it refuses for another reason than room. -/
def Settled (full : ε) (e : Emitter τ ε Unit) : Prop :=
  (∃ ts, Emits full e ts) ∨ ∃ size err, err ≠ full ∧ Refuses full e size err

theorem settled_of_emits (full : ε) (e : Emitter τ ε Unit) (ts : List τ) (he : Emits full e ts) :
    Settled full e :=
  Or.inl ⟨ts, he⟩

theorem settled_fail (full err : ε) (h : err ≠ full) :
    Settled full (Emitter.fail err : Emitter τ ε Unit) := by
  refine Or.inr ⟨0, err, h, fun s => ?_⟩
  rw [if_pos (Nat.zero_le _)]
  rfl

/-- What is emitted in front of a refusal takes room as well. -/
theorem refuses_bind (full err : ε) (e f : Emitter τ ε Unit) (ts : List τ) (size : Nat)
    (he : Emits full e ts) (hf : Refuses full f size err) :
    Refuses full (e >>= fun _ => f) (ts.length + size) err := by
  intro s
  simp only [bind, StateT.bind, he s]
  by_cases hts : ts.length ≤ s.room
  · have hroom : size ≤ s.room - ts.length ↔ ts.length + size ≤ s.room := by omega
    rw [dif_pos hts]
    simp [Except.bind, hf (s.push ts hts), Sink.room_push, hroom]
  · rw [dif_neg hts, if_neg (by omega)]
    rfl

theorem settled_bind (full : ε) (e f : Emitter τ ε Unit) (he : Settled full e)
    (hf : Settled full f) : Settled full (e >>= fun _ => f) := by
  rcases he with ⟨ts, hts⟩ | ⟨size, err, herr, hrefuses⟩
  · rcases hf with ⟨us, hus⟩ | ⟨size, err, herr, hrefuses⟩
    · exact Or.inl ⟨ts ++ us, emits_bind full e f ts us hts hus⟩
    · exact Or.inr ⟨ts.length + size, err, herr, refuses_bind full err e f ts size hts hrefuses⟩
  · refine Or.inr ⟨size, err, herr, fun s => ?_⟩
    simp [bind, StateT.bind, hrefuses s, Except.bind]

theorem uniform_of_settled (full : ε) (e : Emitter τ ε Unit) (h : Settled full e) :
    Uniform full e := by
  rcases h with hemits | ⟨size, err, -, hrefuses⟩
  · exact Or.inl hemits
  · exact Or.inr fun s => ⟨_, hrefuses s⟩

theorem runEmitter_of_refuses (full err : ε) (capacity : Nat) (e : Emitter τ ε Unit) (size : Nat)
    (h : Refuses full e size err) :
    runEmitter capacity e = .error (if size ≤ capacity then err else full) := by
  rw [runEmitter, h]
  rfl

end Codec
