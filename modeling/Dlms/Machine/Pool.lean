import Dlms.Machine.Run
import Mathlib.Data.List.Nodup

/-!
# Pools of machines, and tokens used once

A pool has any number of members that start alike and share a state. An input
creates a member or calls one, so a run of a pool is any interleaving of the
members' runs, with members joining at any time.

A machine spends tokens when a token it gives was not spent before, is spent
after, and is never restored. One machine that spends its tokens gives none
twice. A pool of such machines may, since what one member has spent another has
not; it gives none twice when each call finds the called member at least as far
as the others on the tokens the call could give. That condition speaks of the
states before a call and of its input only.

## Main definitions

* `PoolInput`, `Pool`, `poolStep`: Pools and their steps.
* `memberTransition`: The transition a call of a member is.
* `Spends`: A machine that spends its tokens.
* `Covered`: The called member is as far as the others.
* `tokens`: The tokens of a run.

## Theorems

* `nodup_tokens`: A pool gives no token twice when its calls are covered.
-/

namespace Machine

/-- Create a member, or call one. -/
inductive PoolInput (ι : Type) where
  | create
  | call (index : Nat) (input : ι)

/-- The members of a pool and the state they share. -/
structure Pool (σ δ : Type) where
  members : List σ
  shared : δ

section Pool

variable {ι ο σ δ τ : Type} (initial : σ) (step : ι → σ → δ → ο × σ × δ)

/-- One step of a pool. To call a member that is not there does nothing. -/
def poolStep (input : PoolInput ι) (pool : Pool σ δ) : Option ο × Pool σ δ :=
  match input with
  | .create => (none, { pool with members := pool.members ++ [initial] })
  | .call index input =>
      match pool.members[index]? with
      | none => (none, pool)
      | some member =>
          let out := step input member pool.shared
          (some out.1, { members := pool.members.set index out.2.1, shared := out.2.2 })

theorem poolStep_of_absent (index : Nat) (input : ι) (pool : Pool σ δ)
    (hcalled : pool.members[index]? = none) :
    poolStep initial step (.call index input) pool = (none, pool) := by
  simp [poolStep, hcalled]

theorem poolStep_of_member (index : Nat) (input : ι) (pool : Pool σ δ) (member : σ)
    (hcalled : pool.members[index]? = some member) :
    poolStep initial step (.call index input) pool =
      (some (step input member pool.shared).1,
        { members := pool.members.set index (step input member pool.shared).2.1
          shared := (step input member pool.shared).2.2 }) := by
  simp [poolStep, hcalled]

/-- The transition of one machine, with the state it shares. -/
def callTransition (input : ι) (state : σ) (shared : δ) : Transition ι ο (σ × δ) where
  before := (state, shared)
  input := input
  output := (step input state shared).1
  after := (step input state shared).2

/-- The machine gives a token only for a candidate of its input, and spends it;
    its states satisfy an invariant. -/
structure Spends (invariant : σ → Prop) (token : Transition ι ο (σ × δ) → Option τ)
    (candidate : σ → ι → τ → Prop) (spent : σ → τ → Prop) : Prop where
  start : invariant initial
  keeps : ∀ input state shared, invariant state → invariant (step input state shared).2.1
  stays : ∀ input state shared t, spent state t → spent (step input state shared).2.1 t
  candidate_of_token : ∀ input state shared t, invariant state →
    token (callTransition step input state shared) = some t → candidate state input t
  fresh : ∀ input state shared t, invariant state →
    token (callTransition step input state shared) = some t → ¬ spent state t
  spends : ∀ input state shared t, invariant state →
    token (callTransition step input state shared) = some t →
      spent (step input state shared).2.1 t

variable (invariant : σ → Prop) (token : Transition ι ο (σ × δ) → Option τ)
  (candidate : σ → ι → τ → Prop) (spent : σ → τ → Prop)

/-- What the called member could give and another has spent, it has spent
    itself. -/
def Covered (pool : Pool σ δ) (input : PoolInput ι) : Prop :=
  match input with
  | .create => True
  | .call index input => ∀ member, pool.members[index]? = some member →
      ∀ other ∈ pool.members, ∀ t, candidate member input t → spent other t → spent member t

/-- The transition of the called member in a transition of a pool. -/
def memberTransition (t : Transition (PoolInput ι) (Option ο) (Pool σ δ)) :
    Option (Transition ι ο (σ × δ)) :=
  match t.input, t.output with
  | .call index input, some output =>
      match t.before.members[index]?, t.after.members[index]? with
      | some before, some after =>
          some
            { before := (before, t.before.shared)
              input := input
              output := output
              after := (after, t.after.shared) }
      | _, _ => none
  | _, _ => none

/-- The token of a transition of a pool. -/
def tokenOf (t : Transition (PoolInput ι) (Option ο) (Pool σ δ)) : Option τ :=
  (memberTransition t).bind token

def tokens (history : List (Transition (PoolInput ι) (Option ο) (Pool σ δ))) : List τ :=
  history.filterMap (tokenOf token)

/-- No token was given twice, and some member has spent each. -/
def TokensSpent (history : List (Transition (PoolInput ι) (Option ο) (Pool σ δ)))
    (pool : Pool σ δ) : Prop :=
  (∀ member ∈ pool.members, invariant member) ∧
    (tokens token history).Nodup ∧
    ∀ t ∈ tokens token history, ∃ member ∈ pool.members, spent member t

theorem memberTransition_call (index : Nat) (input : ι) (pool : Pool σ δ) :
    memberTransition (transition (poolStep initial step) (.call index input) pool) =
      (pool.members[index]?).map fun member =>
        callTransition step input member pool.shared := by
  cases hcalled : pool.members[index]? with
  | none =>
      simp [memberTransition, transition, poolStep_of_absent initial step index input pool hcalled]
  | some called =>
      have hindex : index < pool.members.length :=
        (List.getElem?_eq_some_iff.mp hcalled).1
      simp only [memberTransition, transition, hcalled,
        poolStep_of_member initial step index input pool called hcalled,
        List.getElem?_set_self hindex, Option.map_some]
      rfl

theorem tokens_append (history : List (Transition (PoolInput ι) (Option ο) (Pool σ δ)))
    (t : Transition (PoolInput ι) (Option ο) (Pool σ δ)) :
    tokens token (history ++ [t]) = tokens token history ++ (tokenOf token t).toList := by
  rw [tokens, List.filterMap_append, tokens]
  cases h : tokenOf token t with
  | none => simp [h]
  | some given => simp [h]

variable (hspends : Spends initial step invariant token candidate spent)
include hspends

/-- The members keep their invariant. -/
theorem invariant_poolStep (input : PoolInput ι) (pool : Pool σ δ)
    (hinvariant : ∀ member ∈ pool.members, invariant member) :
    ∀ member ∈ (poolStep initial step input pool).2.members, invariant member := by
  intro member hmember
  cases input with
  | create =>
      rcases List.mem_append.mp hmember with hold | hnew
      · exact hinvariant member hold
      · rw [List.mem_singleton.mp hnew]
        exact hspends.start
  | call index input =>
      cases hcalled : pool.members[index]? with
      | none =>
          rw [poolStep_of_absent initial step index input pool hcalled] at hmember
          exact hinvariant member hmember
      | some called =>
          rw [poolStep_of_member initial step index input pool called hcalled] at hmember
          rcases List.mem_or_eq_of_mem_set hmember with hold | hnew
          · exact hinvariant member hold
          · rw [hnew]
            exact hspends.keeps input called pool.shared
              (hinvariant called (List.mem_of_getElem? hcalled))

/-- What a member has spent it has still spent after a step of the pool. -/
theorem spent_poolStep (input : PoolInput ι) (pool : Pool σ δ) (t : τ)
    (hspent : ∃ member ∈ pool.members, spent member t) :
    ∃ member ∈ (poolStep initial step input pool).2.members, spent member t := by
  rcases hspent with ⟨member, hmember, hspent⟩
  cases input with
  | create => exact ⟨member, List.mem_append_left _ hmember, hspent⟩
  | call index input =>
      cases hcalled : pool.members[index]? with
      | none =>
          rw [poolStep_of_absent initial step index input pool hcalled]
          exact ⟨member, hmember, hspent⟩
      | some called =>
          rw [poolStep_of_member initial step index input pool called hcalled]
          rcases List.mem_iff_getElem?.mp hmember with ⟨other, hother⟩
          have hindex : index < pool.members.length :=
            (List.getElem?_eq_some_iff.mp hcalled).1
          by_cases hsame : other = index
          · -- The called member itself: it keeps what it has spent.
            rw [hsame, hcalled] at hother
            rw [← Option.some.inj hother] at hspent
            exact ⟨_, List.mem_set hindex _, hspends.stays input called pool.shared t hspent⟩
          · refine ⟨member, ?_, hspent⟩
            rw [List.mem_iff_getElem?]
            refine ⟨other, ?_⟩
            rw [List.getElem?_set_ne (Ne.symm hsame)]
            exact hother

/-- A step that is covered gives no token given before. -/
theorem tokensSpent_step (history : List (Transition (PoolInput ι) (Option ο) (Pool σ δ)))
    (pool : Pool σ δ) (input : PoolInput ι) (h : TokensSpent invariant token spent history pool)
    (hcovered : Covered candidate spent pool input) :
    TokensSpent invariant token spent
      (history ++ [transition (poolStep initial step) input pool])
      (poolStep initial step input pool).2 := by
  rcases h with ⟨hinvariant, hnodup, hspent⟩
  -- A step leaves what holds of the members, and what they have spent, whatever it gives.
  have hmembers := invariant_poolStep initial step invariant token candidate spent hspends input
    pool hinvariant
  have hkept : ∀ t ∈ tokens token history,
      ∃ member ∈ (poolStep initial step input pool).2.members, spent member t :=
    fun t ht => spent_poolStep initial step invariant token candidate spent hspends input pool t
      (hspent t ht)
  unfold TokensSpent
  rw [tokens_append]
  cases hgiven : tokenOf token (transition (poolStep initial step) input pool) with
  | none =>
      rw [Option.toList_none, List.append_nil]
      exact ⟨hmembers, hnodup, hkept⟩
  | some given =>
      rw [Option.toList_some]
      cases input with
      | create =>
          exact absurd hgiven (by simp [tokenOf, memberTransition, transition])
      | call index input =>
          cases hcalled : pool.members[index]? with
          | none =>
              simp [tokenOf, memberTransition_call, hcalled] at hgiven
          | some called =>
              simp only [tokenOf, memberTransition_call, hcalled, Option.map_some,
                Option.bind_some] at hgiven
              have hcalledInvariant := hinvariant called (List.mem_of_getElem? hcalled)
              have hfresh := hspends.fresh input called pool.shared given hcalledInvariant hgiven
              -- The member that was called refuses all that any of them has spent.
              have hnew : given ∉ tokens token history := by
                intro hold
                rcases hspent given hold with ⟨other, hother, hotherSpent⟩
                exact hfresh (hcovered called hcalled other hother given
                  (hspends.candidate_of_token input called pool.shared given hcalledInvariant
                    hgiven) hotherSpent)
              refine ⟨hmembers, ?_, ?_⟩
              · rw [List.nodup_append]
                refine ⟨hnodup, List.nodup_singleton given, ?_⟩
                intro t ht other hother
                rw [List.mem_singleton.mp hother]
                exact fun heq => hnew (heq ▸ ht)
              · intro t ht
                rcases List.mem_append.mp ht with hold | hlast
                · exact hkept t hold
                · rw [List.mem_singleton.mp hlast]
                  have hindex : index < pool.members.length :=
                    (List.getElem?_eq_some_iff.mp hcalled).1
                  rw [poolStep_of_member initial step index input pool called hcalled]
                  exact ⟨_, List.mem_set hindex _,
                    hspends.spends input called pool.shared given hcalledInvariant hgiven⟩

/-- A pool that starts empty gives no token twice when its calls are covered. -/
theorem nodup_tokens (inputs : List (PoolInput ι)) (shared : δ)
    (hcovered : Admits (poolStep initial step)
      (fun _ pool input => Covered candidate spent pool input) [] inputs ⟨[], shared⟩) :
    (tokens token (run (poolStep initial step) inputs ⟨[], shared⟩)).Nodup := by
  have hstart : TokensSpent invariant token spent [] (⟨[], shared⟩ : Pool σ δ) :=
    ⟨fun member h => absurd h List.not_mem_nil, List.nodup_nil,
      fun t ht => absurd ht List.not_mem_nil⟩
  exact (holds_of_step (poolStep initial step) (TokensSpent invariant token spent) _
    (tokensSpent_step initial step invariant token candidate spent hspends) inputs _ hstart
    hcovered).2.1

end Pool

end Machine
