import Dlms.Codec.Consumer
import Mathlib.Logic.Function.Iterate

/-!
# Receivers on a stream

A receiver is called again and again for one item each time. A call returns what
waits already, or goes on turn by turn: with what it has read before, or else with
the next read of the stream. It returns an item or fails, and then the next call
begins. What the calls return up to the first failure is a sequence of items.

A receiver uses the items of a decoder if a read does to it what a piece does to
the decoder and to the use of its items, however many turns that takes. Then the
sequence is what comes of the pieces, and the cut into reads makes a difference
exactly when something comes of what may be lost.

## Main definitions

* `Receiver`, `Reception`, `turn`: A receiver and its calls.
* `Returns`: What the calls return in the end.
* `SameHowever`: They return the same, however the octets are cut into reads.
* `Uses`: A read is a piece for a decoder whose items are used.

## Theorems

* `returns_receive`: What is returned comes of the pieces.
* `sameHowever_iff`: When the cut into reads makes no difference.
-/

namespace Codec

variable {τ φ ε σ α χ : Type}

/-- What a turn of a call comes to. -/
inductive Reply (α : Type) where
  | wait
  | returned (item : α)
  | failed

/-- Something that is called and reads until it can return. -/
structure Receiver (τ α χ : Type) where
  /-- A call up to where it has to go on. -/
  call : χ → Reply α × χ
  /-- It goes on without a read. -/
  ready : χ → Bool
  goOn : List τ → χ → Reply α × χ

/-- One call after the other, with the reads that are still to come and the items
    that have been returned. -/
structure Reception (τ α χ : Type) where
  channel : χ
  reads : List (List τ)
  inCall : Bool := false
  items : List α := []
  failed : Bool := false

def Reception.record (reception : Reception τ α χ) (answer : Reply α × χ) : Reception τ α χ :=
  match answer.1 with
  | .wait => { reception with channel := answer.2, inCall := true }
  | .returned item =>
      { reception with
        channel := answer.2
        inCall := false
        items := reception.items ++ [item] }
  | .failed => { reception with channel := answer.2, failed := true }

namespace Receiver

section Turns

variable (receiver : Receiver τ α χ)

/-- The next turn. There is none without a read for it, and none after a failure. -/
def turn (reception : Reception τ α χ) : Reception τ α χ :=
  if reception.failed then reception
  else if !reception.inCall then reception.record (receiver.call reception.channel)
  else if receiver.ready reception.channel then
    reception.record (receiver.goOn [] reception.channel)
  else
    match reception.reads with
    | [] => reception
    | data :: later =>
        { reception with reads := later }.record (receiver.goOn data reception.channel)

/-- What the calls have returned after enough turns. -/
def Returns (channel : χ) (reads : List (List τ)) (items : List α) : Prop :=
  ∃ turns, ∀ more,
    (receiver.turn^[turns + more] { channel := channel, reads := reads }).items = items

/-- However some octets are cut into reads, the calls return the same. -/
def SameHowever (channel : χ) (octets : List τ) : Prop :=
  ∀ pieces others : List (List τ), Cut octets pieces → Cut octets others →
    ∃ items, receiver.Returns channel pieces items ∧ receiver.Returns channel others items

/-- Some turns lead from one reception to another. -/
def Leads (before after : Reception τ α χ) : Prop := ∃ turns, receiver.turn^[turns] before = after

variable (before middle after : Reception τ α χ)

theorem Leads.refl : receiver.Leads before before := ⟨0, rfl⟩

theorem leads_turn : receiver.Leads before (receiver.turn before) := ⟨1, rfl⟩

theorem Leads.trans (hfirst : receiver.Leads before middle)
    (hsecond : receiver.Leads middle after) : receiver.Leads before after := by
  rcases hfirst with ⟨turns, rfl⟩
  rcases hsecond with ⟨more, rfl⟩
  exact ⟨more + turns, Function.iterate_add_apply receiver.turn more turns before⟩

/-- There is only one thing that the calls return in the end. -/
theorem returns_unique (channel : χ) (reads : List (List τ)) (items others : List α)
    (hitems : receiver.Returns channel reads items)
    (hothers : receiver.Returns channel reads others) : items = others := by
  rcases hitems with ⟨turns, hturns⟩
  rcases hothers with ⟨turns', hturns'⟩
  rw [← hturns turns', ← hturns' turns, Nat.add_comm]

/-- Where the turns have come to rest, the items are those that have been returned. -/
theorem returns_of_leads (channel : χ) (reads : List (List τ))
    (hleads : receiver.Leads { channel := channel, reads := reads } after)
    (hrests : receiver.turn after = after) : receiver.Returns channel reads after.items := by
  rcases hleads with ⟨turns, hturns⟩
  refine ⟨turns, fun more => ?_⟩
  rw [Nat.add_comm, Function.iterate_add_apply, hturns, Function.iterate_fixed hrests]

theorem turn_of_failed (h : before.failed = true) : receiver.turn before = before := by
  rw [turn, if_pos h]

end Turns

/-! ### What a read does -/

/-- A call that waits for a read. -/
def waiting (channel : χ) (reads : List (List τ)) (items : List α) : Reception τ α χ where
  channel := channel
  reads := reads
  inCall := true
  items := items

/-- The calls end with a failure, after some items. -/
def Fails (receiver : Receiver τ α χ) (before : Reception τ α χ) (items : List α) : Prop :=
  ∃ after, receiver.Leads before after ∧ after.failed = true ∧ after.items = items

/-- A channel stands for what a decoder keeps and what has come of its items, and
    goes on standing for it with every read. -/
structure Uses (receiver : Receiver τ α χ) (next : List τ → Verdict τ φ ε) (recovers : ε → Bool)
    (use : φ → σ → List α × Option σ) (stands : List τ → σ → χ → Prop) : Prop where
  unready : ∀ buffer state channel, stands buffer state channel →
    receiver.ready channel = false
  kept : ∀ buffer state channel piece later items found kept after,
    stands buffer state channel → piece ≠ [] →
    drain next (buffer ++ piece) = (found, .ok kept) →
    (consume use found state).2 = some after →
      ∃ channel', stands kept after channel' ∧
        receiver.Leads (waiting channel (piece :: later) items)
          (waiting channel' later (items ++ (consume use found state).1))
  ended : ∀ buffer state channel piece later items found kept,
    stands buffer state channel → piece ≠ [] →
    drain next (buffer ++ piece) = (found, .ok kept) → (consume use found state).2 = none →
      receiver.Fails (waiting channel (piece :: later) items)
        (items ++ (consume use found state).1)
  recovered : ∀ buffer state channel piece later items found cause,
    stands buffer state channel → piece ≠ [] →
    drain next (buffer ++ piece) = (found, .error cause) → recovers cause = true →
      ∃ channel', stands [] state channel' ∧
        receiver.Leads (waiting channel (piece :: later) items) (waiting channel' later items)
  refused : ∀ buffer state channel piece later items found cause,
    stands buffer state channel → piece ≠ [] →
    drain next (buffer ++ piece) = (found, .error cause) → recovers cause = false →
      receiver.Fails (waiting channel (piece :: later) items) items

section Uses

variable (receiver : Receiver τ α χ) (next : List τ → Verdict τ φ ε) (recovers : ε → Bool)
  (use : φ → σ → List α × Option σ) (stands : List τ → σ → χ → Prop)
  (huses : receiver.Uses next recovers use stands)
include huses

/-- The turns come to rest with what comes of the pieces. -/
theorem leads_receive (pieces : List (List τ)) (buffer : List τ) (state : σ) (channel : χ)
    (items : List α) (hstands : stands buffer state channel) (hnonempty : [] ∉ pieces) :
    ∃ after, receiver.Leads (waiting channel pieces items) after ∧
      receiver.turn after = after ∧
      after.items = items ++ receive next recovers use pieces buffer state := by
  induction pieces generalizing buffer state channel items with
  | nil =>
      refine ⟨_, Leads.refl receiver _, ?_, (List.append_nil items).symm⟩
      simp [turn, waiting, huses.unready buffer state channel hstands]
  | cons piece later ih =>
      have hlater : [] ∉ later := fun hmem => hnonempty (List.mem_cons_of_mem piece hmem)
      have hsome : piece ≠ [] := by
        rintro rfl
        exact hnonempty List.mem_cons_self
      -- A failure is the end.
      have hend (made : List α)
          (hfails : receiver.Fails (waiting channel (piece :: later) items) (items ++ made))
          (hreceive : receive next recovers use (piece :: later) buffer state = made) :
          ∃ after, receiver.Leads (waiting channel (piece :: later) items) after ∧
            receiver.turn after = after ∧
            after.items = items ++ receive next recovers use (piece :: later) buffer state := by
        rcases hfails with ⟨after, hleads, hfailed, hitems⟩
        rw [hreceive]
        exact ⟨after, hleads, turn_of_failed receiver after hfailed, hitems⟩
      rcases hdrain : drain next (buffer ++ piece) with ⟨found, cause | kept⟩
      · cases hrecovers : recovers cause with
        | true =>
            rcases huses.recovered buffer state channel piece later items found cause hstands hsome
              hdrain hrecovers with ⟨channel', hstands', hleads⟩
            rcases ih [] state channel' items hstands' hlater with ⟨after, hafter, hrests, hitems⟩
            rw [receive_of_recovers next recovers use piece buffer later found state cause hdrain
              hrecovers]
            exact ⟨after, hleads.trans receiver _ _ _ hafter, hrests, hitems⟩
        | false =>
            refine hend [] ?_ (receive_of_refused next recovers use piece buffer later found state
              cause hdrain hrecovers)
            rw [List.append_nil]
            exact huses.refused buffer state channel piece later items found cause hstands hsome
              hdrain hrecovers
      · cases hlast : (consume use found state).2 with
        | none =>
            exact hend _ (huses.ended buffer state channel piece later items found kept hstands
              hsome hdrain hlast) (receive_of_none next recovers use piece buffer later found state
                kept hdrain hlast)
        | some middle =>
            rcases huses.kept buffer state channel piece later items found kept middle hstands
              hsome hdrain hlast with ⟨channel', hstands', hleads⟩
            rcases ih kept middle channel' _ hstands' hlater with ⟨after, hafter, hrests, hitems⟩
            rw [receive_of_some next recovers use piece buffer later found state kept middle hdrain
              hlast, ← List.append_assoc]
            exact ⟨after, hleads.trans receiver _ _ _ hafter, hrests, hitems⟩

variable (channel channel' : χ) (state : σ) (hcall : receiver.call channel = (.wait, channel'))
  (hstands : stands [] state channel')
include hcall hstands

/-- What is returned comes of the pieces. -/
theorem returns_receive (pieces : List (List τ)) (hnonempty : [] ∉ pieces) :
    receiver.Returns channel pieces (receive next recovers use pieces [] state) := by
  rcases leads_receive receiver next recovers use stands huses pieces [] state channel' []
    hstands hnonempty with ⟨after, hleads, hrests, hitems⟩
  rw [List.nil_append] at hitems
  rw [← hitems]
  refine returns_of_leads receiver after channel pieces ?_ hrests
  refine Leads.trans receiver _ (waiting channel' pieces []) _ ⟨1, ?_⟩ hleads
  rw [Function.iterate_one, turn]
  simp only [Bool.false_eq_true, if_false, Bool.not_false, if_true]
  rw [hcall]
  rfl

/-- The cut into reads makes no difference exactly when nothing comes of what may
    be lost. -/
theorem sameHowever_iff (hincremental : Incremental next) (hprompt : Prompt next)
    (octets : List τ) :
    receiver.SameHowever channel octets ↔ Undropped next recovers use state octets := by
  have hreturns := returns_receive receiver next recovers use stands huses channel channel' state
    hcall hstands
  rw [← impartial_iff next hincremental recovers use hprompt octets state,
    ← forall_cut_iff next hincremental recovers use octets state]
  constructor
  · intro hsame pieces others hpieces hothers
    rcases hsame pieces others hpieces hothers with ⟨items, hitems, hothersItems⟩
    rw [returns_unique receiver channel pieces _ _ (hreturns pieces hpieces.nonempty) hitems,
      returns_unique receiver channel others _ _ (hreturns others hothers.nonempty) hothersItems]
  · intro hsame pieces others hpieces hothers
    refine ⟨_, hreturns pieces hpieces.nonempty, ?_⟩
    rw [hsame pieces others hpieces hothers]
    exact hreturns others hothers.nonempty

end Uses

end Receiver

end Codec
