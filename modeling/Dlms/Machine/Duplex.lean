import Dlms.Machine.Simulation

/-!
# Two parties and the queues between them

Two parties, each with a queue of messages on their way to it. A party is asked
for something, and its answer may be a message for the other, which goes to the
end of that one's queue; or it is given the message at the front of its own. No
message is lost, doubled or overtaken.

When a party is exchanged for another that stands for it, and the two answer
alike whatever they are asked or given, the link behaves as before, however its
actions follow each other. What is asked and what is given may have to meet a
condition, and what is on its way may have to be sound.

## Main definitions

* `Duplex`, `DuplexAction`, `duplexStep`: The two parties, and what may happen.
* `DuplexAllowed`: The action meets the conditions.
* `DuplexStands`: One link stands for another.

## Theorems

* `duplex_step`: An action that is allowed is answered alike.
* `duplex_allowed`: An action that is answered alike is allowed, when that is so
  of the parties.
-/

namespace Machine

inductive Side where
  | left
  | right
  deriving DecidableEq, Repr

def Side.other : Side → Side
  | .left => .right
  | .right => .left

/-- Two parties, and what is on its way to each of them. -/
structure Duplex (σ μ : Type) where
  party : Side → σ
  inbox : Side → List μ

inductive DuplexAction (κ : Type) where
  | call (side : Side) (call : κ)
  | receive (side : Side)
  deriving DecidableEq

section Step

variable {κ μ ο σ : Type} (call : κ → σ → ο × σ) (sent : ο → Option μ) (receive : μ → σ → ο × σ)

/-- A party is asked, or the message at the front of its queue is given to it; it
    answers, unless there is none. -/
def duplexStep (action : DuplexAction κ) (link : Duplex σ μ) : Option ο × Duplex σ μ :=
  match action with
  | .call side input =>
      let (answer, party) := call input (link.party side)
      (some answer,
        { party := Function.update link.party side party
          inbox := Function.update link.inbox side.other
            (link.inbox side.other ++ (sent answer).toList) })
  | .receive side =>
      match link.inbox side with
      | [] => (none, link)
      | message :: rest =>
          let (answer, party) := receive message (link.party side)
          (some answer,
            { party := Function.update link.party side party
              inbox := Function.update link.inbox side rest })

end Step

section Conditions

variable {κ μ σ : Type} (allowedCall : σ → κ → Prop) (allowedReceive : σ → μ → Prop)

/-- What is asked meets one condition, and what is given another. -/
def DuplexAllowed (link : Duplex σ μ) : DuplexAction κ → Prop
  | .call side input => allowedCall (link.party side) input
  | .receive side => ∀ message ∈ (link.inbox side).head?, allowedReceive (link.party side) message

instance decidableDuplexAllowed [∀ party input, Decidable (allowedCall party input)]
    [∀ party message, Decidable (allowedReceive party message)] (link : Duplex σ μ)
    (action : DuplexAction κ) : Decidable (DuplexAllowed allowedCall allowedReceive link action) :=
  match action with
  | .call _ _ => inferInstanceAs (Decidable (allowedCall _ _))
  | .receive _ => inferInstanceAs (Decidable (∀ message ∈ List.head? _, allowedReceive _ message))

/-- The two conditions are about different actions. -/
theorem duplexAllowed_iff (link : Duplex σ μ) (action : DuplexAction κ) :
    DuplexAllowed allowedCall allowedReceive link action ↔
      DuplexAllowed allowedCall (fun _ _ => True) link action ∧
        DuplexAllowed (fun _ _ => True) allowedReceive link action := by
  cases action with
  | call side input => exact ⟨fun h => ⟨h, trivial⟩, fun h => h.1⟩
  | receive side => exact ⟨fun h => ⟨fun _ _ => trivial, h⟩, fun h => h.2⟩

end Conditions

/-- The parties stand for each other, the same messages are on their way, and they
    are sound. -/
structure DuplexStands {μ σ σ' : Type} (stands : Side → σ → σ' → Prop) (sound : μ → Prop)
    (link : Duplex σ μ) (link' : Duplex σ' μ) : Prop where
  party : ∀ side, stands side (link.party side) (link'.party side)
  inbox : link'.inbox = link.inbox
  sound : ∀ side, ∀ message ∈ link.inbox side, sound message

section Simulation

variable {κ μ ο σ σ' : Type} (call : κ → σ → ο × σ) (call' : κ → σ' → ο × σ')
  (sent : ο → Option μ) (receive : μ → σ → ο × σ) (receive' : μ → σ' → ο × σ')
  (stands : Side → σ → σ' → Prop) (sound : μ → Prop)
  (allowedCall : σ → κ → Prop) (allowedReceive : σ → μ → Prop)

/-- An action that is allowed is answered alike, when that is so of the parties
    and they send what is sound. -/
theorem duplex_step
    (hcall : ∀ side input party party', stands side party party' → allowedCall party input →
      (call input party).1 = (call' input party').1 ∧
        stands side (call input party).2 (call' input party').2)
    (hsent : ∀ side input party party', stands side party party' →
      ∀ message ∈ sent (call input party).1, sound message)
    (hreceive : ∀ side message party party', stands side party party' → sound message →
      allowedReceive party message →
        (receive message party).1 = (receive' message party').1 ∧
          stands side (receive message party).2 (receive' message party').2)
    (action : DuplexAction κ) (link : Duplex σ μ) (link' : Duplex σ' μ)
    (h : DuplexStands stands sound link link')
    (hallowed : DuplexAllowed allowedCall allowedReceive link action) :
    (duplexStep call sent receive action link).1 =
        (duplexStep call' sent receive' action link').1 ∧
      DuplexStands stands sound (duplexStep call sent receive action link).2
        (duplexStep call' sent receive' action link').2 := by
  rcases link' with ⟨party', inbox'⟩
  obtain rfl : inbox' = link.inbox := h.inbox
  cases action with
  | call side input =>
      rcases hcall side input _ _ (h.party side) hallowed with ⟨hanswer, hafter⟩
      refine ⟨congrArg some hanswer, ?_, ?_, ?_⟩
      · exact stands_update stands _ _ side _ _ h.party hafter
      · show Function.update _ _ _ = Function.update _ _ _
        rw [hanswer]
      · -- What is new in a queue has just been sent.
        intro other message hmessage
        dsimp only [duplexStep] at hmessage
        by_cases hother : other = side.other
        · subst hother
          rw [Function.update_self] at hmessage
          rcases List.mem_append.mp hmessage with hold | hnew
          · exact h.sound _ message hold
          · exact hsent side input _ _ (h.party side) message (Option.mem_toList.mp hnew)
        · rw [Function.update_of_ne hother] at hmessage
          exact h.sound other message hmessage
  | receive side =>
      unfold duplexStep
      dsimp only
      cases hinbox : link.inbox side with
      | nil => exact ⟨rfl, h⟩
      | cons message rest =>
          have hsound := h.sound side message (hinbox ▸ List.mem_cons_self)
          have hgiven : allowedReceive (link.party side) message :=
            hallowed message (by rw [hinbox]; rfl)
          rcases hreceive side message _ _ (h.party side) hsound hgiven with ⟨hanswer, hafter⟩
          refine ⟨congrArg some hanswer, ?_, rfl, ?_⟩
          · exact stands_update stands _ _ side _ _ h.party hafter
          · intro other kept hkept
            dsimp only at hkept
            by_cases hother : other = side
            · subst hother
              rw [Function.update_self] at hkept
              exact h.sound other kept (hinbox ▸ List.mem_cons_of_mem message hkept)
            · rw [Function.update_of_ne hother] at hkept
              exact h.sound other kept hkept

/-- An action that is answered alike is allowed, when that is so of the parties. -/
theorem duplex_allowed
    (hcall : ∀ side input party party', stands side party party' →
      (call input party).1 = (call' input party').1 → allowedCall party input)
    (hreceive : ∀ side message party party', stands side party party' → sound message →
      (receive message party).1 = (receive' message party').1 → allowedReceive party message)
    (action : DuplexAction κ) (link : Duplex σ μ) (link' : Duplex σ' μ)
    (h : DuplexStands stands sound link link')
    (hanswer : (duplexStep call sent receive action link).1 =
      (duplexStep call' sent receive' action link').1) :
    DuplexAllowed allowedCall allowedReceive link action := by
  rcases link' with ⟨party', inbox'⟩
  obtain rfl : inbox' = link.inbox := h.inbox
  cases action with
  | call side input => exact hcall side input _ _ (h.party side) (Option.some.inj hanswer)
  | receive side =>
      intro message hmessage
      unfold duplexStep at hanswer
      dsimp only at hanswer
      -- Without a message there is nothing to allow.
      cases hinbox : link.inbox side with
      | nil =>
          rw [hinbox] at hmessage
          exact absurd hmessage (by simp [List.head?_nil, Option.mem_def])
      | cons first rest =>
          have hfirst : first = message := by
            rw [hinbox] at hmessage
            exact Option.some.inj hmessage
          subst hfirst
          have hsound := h.sound side first (hinbox ▸ List.mem_cons_self)
          rw [hinbox] at hanswer
          exact hreceive side first _ _ (h.party side) hsound (Option.some.inj hanswer)

end Simulation

end Machine
