import Mathlib.Data.List.Basic

/-!
# Programs over a few calls

A program that does nothing but make calls, each chosen by what the earlier ones returned, can be
run in two ways: with the calls as a machine makes them, which notes what it does, and with the
calls as they are meant. When each call as the machine makes it refines the call as it is meant,
so does each program, and what the machine notes is good in every run that does not come to one
of certain stops.

Which stop a run comes to can be told from the calls as they are meant alone: it is the stop of
one of the calls that the program gets to.

## Main definitions

* `Program`: A program over some calls.
* `Noting`: A computation that notes what it does.
* `Program.run`, `Program.eval`: The two ways to run a program.
* `Noting.Goes`, `Noting.Stops`: What comes of it, and that the notes are good.
* `Refines`: What is asked of each call.
* `Calls`: The program gets to a call.

## Theorems

* `refines_run`: Programs refine what they mean.
* `eval_eq_error_iff`: A stop is that of a call.
* `eval_congr`: A program means the same when the calls that it gets to do.
* `good_run_iff`: All notes are good and the run does not stop so, exactly when no call does.
-/

namespace Codec

variable {Op : Type → Type} {σ ρ ε ω α β : Type}

/-! ### Computations that note what they do -/

/-- A computation over a state with notes of what it does. -/
def Noting (σ ω ε α : Type) : Type := σ → List ω × Except ε (α × σ)

namespace Noting

instance : Monad (Noting σ ω ε) where
  pure a := fun s => ([], .ok (a, s))
  bind p f := fun s =>
    match p s with
    | (notes, .error e) => (notes, .error e)
    -- The notes are kept when the computation stops later.
    | (notes, .ok (a, s')) => (notes ++ (f a s').1, (f a s').2)

theorem bind_assoc {γ : Type} (p : Noting σ ω ε α) (f : α → Noting σ ω ε β)
    (g : β → Noting σ ω ε γ) : p >>= f >>= g = p >>= fun a => f a >>= g := by
  funext s
  simp only [bind]
  rcases p s with ⟨notes, e | ⟨a, s'⟩⟩
  · rfl
  -- The first goes through, so it is up to the second and the third.
  · rcases hmiddle : f a s' with ⟨more, e | ⟨b, s''⟩⟩
    · simp [hmiddle]
    · simp [hmiddle]

def fail (e : ε) : Noting σ ω ε α := fun _ => ([], .error e)

/-- The computation goes from one state to another, and its notes are good. -/
def Goes (good : ω → Prop) (p : Noting σ ω ε α) (s : σ) (a : α) (s' : σ) : Prop :=
  ∃ notes, p s = (notes, .ok (a, s')) ∧ ∀ n ∈ notes, good n

/-- The computation stops, and its notes are good when it is not in one of those ways. -/
def Stops (good : ω → Prop) (bad : ε → Prop) (p : Noting σ ω ε α) (s : σ) (e : ε) : Prop :=
  ∃ notes, p s = (notes, .error e) ∧ (¬bad e → ∀ n ∈ notes, good n)

theorem goes_pure (good : ω → Prop) (a : α) (s : σ) :
    Goes good (pure a : Noting σ ω ε α) s a s :=
  ⟨[], rfl, fun _ hn => absurd hn List.not_mem_nil⟩

theorem stops_fail (good : ω → Prop) (bad : ε → Prop) (e : ε) (s : σ) :
    Stops good bad (fail e : Noting σ ω ε α) s e :=
  ⟨[], rfl, fun _ _ hn => absurd hn List.not_mem_nil⟩

theorem goes_bind {good : ω → Prop} {p : Noting σ ω ε α} {f : α → Noting σ ω ε β}
    {s s' s'' : σ} {a : α} {b : β} (hp : Goes good p s a s') (hf : Goes good (f a) s' b s'') :
    Goes good (p >>= f) s b s'' := by
  rcases hp with ⟨notes, hp, hgood⟩
  rcases hf with ⟨more, hf, hmore⟩
  refine ⟨notes ++ more, ?_, fun n hn => ?_⟩
  · simp [bind, hp, hf]
  · rcases List.mem_append.mp hn with hn | hn
    · exact hgood n hn
    · exact hmore n hn

theorem stops_bind {good : ω → Prop} {bad : ε → Prop} {e : ε} {p : Noting σ ω ε α}
    {f : α → Noting σ ω ε β} {s s' : σ} {a : α} (hp : Goes good p s a s')
    (hf : Stops good bad (f a) s' e) : Stops good bad (p >>= f) s e := by
  rcases hp with ⟨notes, hp, hgood⟩
  rcases hf with ⟨more, hf, hmore⟩
  refine ⟨notes ++ more, ?_, fun he n hn => ?_⟩
  · simp [bind, hp, hf]
  · rcases List.mem_append.mp hn with hn | hn
    · exact hgood n hn
    · exact hmore he n hn

theorem stops_first {good : ω → Prop} {bad : ε → Prop} {e : ε} {p : Noting σ ω ε α}
    {f : α → Noting σ ω ε β} {s : σ} (hp : Stops good bad p s e) :
    Stops good bad (p >>= f) s e := by
  rcases hp with ⟨notes, hp, hgood⟩
  refine ⟨notes, ?_, hgood⟩
  simp [bind, hp]

end Noting

/-! ### Programs -/

/-- A program over some calls: it is done, or it makes a call and goes on with what it gets. -/
inductive Program (Op : Type → Type) (α : Type) : Type 1 where
  | done (a : α)
  | call {β : Type} (op : Op β) (next : β → Program Op α)

namespace Program

def bind : Program Op α → (α → Program Op β) → Program Op β
  | done a, f => f a
  | call op next, f => call op fun b => (next b).bind f

instance : Monad (Program Op) where
  pure := done
  bind := bind

/-- One call. -/
def perform (op : Op β) : Program Op β := call op done

/-- So many times one after another. -/
def repeatP (p : Program Op α) : Nat → Program Op (List α)
  | 0 => pure []
  | n + 1 => do
      let a ← p
      let as ← repeatP p n
      pure (a :: as)

/-- The program with the calls as a machine makes them. -/
def run (handle : ∀ β, Op β → Noting σ ω ε β) : Program Op α → Noting σ ω ε α
  | done a => pure a
  | call op next => do
      let b ← handle _ op
      run handle (next b)

/-- The program with the calls as they are meant. -/
def eval (means : ∀ β, Op β → ρ → Except ε (β × ρ)) : Program Op α → ρ → Except ε (α × ρ)
  | done a, t => .ok (a, t)
  | call op next, t =>
      match means _ op t with
      | .error e => .error e
      | .ok (b, t') => eval means (next b) t'

end Program

theorem Program.eval_bind (means : ∀ β, Op β → ρ → Except ε (β × ρ)) (p : Program Op α)
    (f : α → Program Op β) (t : ρ) : (p >>= f).eval means t =
      match p.eval means t with
      | .error e => .error e
      | .ok (a, t') => (f a).eval means t' := by
  induction p generalizing t with
  | done a => rfl
  | call op next ih =>
      change (Program.call op fun b => (next b).bind f).eval means t = _
      rw [Program.eval, Program.eval]
      rcases means _ op t with e | ⟨b, t'⟩
      · rfl
      · exact ih b t'

/-! ### Refinement -/

/-- The machine comes to what is meant, from states that belong together to such states, and all
    its notes are good unless it comes to a bad stop. -/
def Refines (rel : σ → ρ → Prop) (good : ω → Prop) (bad : ε → Prop) (p : Noting σ ω ε α)
    (q : ρ → Except ε (α × ρ)) : Prop :=
  ∀ s t, rel s t →
    match q t with
    | .ok (a, t') => ∃ s', Noting.Goes good p s a s' ∧ rel s' t'
    | .error e => Noting.Stops good bad p s e

/-- A program refines what it means when each call does. The induction is on the program. -/
theorem refines_run (rel : σ → ρ → Prop) (good : ω → Prop) (bad : ε → Prop)
    (handle : ∀ β, Op β → Noting σ ω ε β) (means : ∀ β, Op β → ρ → Except ε (β × ρ))
    (h : ∀ β (op : Op β), Refines rel good bad (handle β op) (means β op))
    (p : Program Op α) : Refines rel good bad (p.run handle) (p.eval means) := by
  induction p with
  | done a =>
      intro s t hrel
      exact ⟨s, Noting.goes_pure good a s, hrel⟩
  | call op next ih =>
      intro s t hrel
      -- The call comes first: either it stops, or the program goes on behind it.
      have hop := h _ op s t hrel
      rw [Program.eval, Program.run]
      revert hop
      rcases means _ op t with e | ⟨b, t'⟩ <;> intro hop
      · exact Noting.stops_first hop
      · rcases hop with ⟨s', hgoes, hrel'⟩
        have hnext := ih b s' t' hrel'
        revert hnext
        dsimp only
        rcases (next b).eval means t' with e | ⟨a, t''⟩ <;> intro hnext
        · exact Noting.stops_bind hgoes hnext
        · rcases hnext with ⟨s'', hrun, hrel''⟩
          exact ⟨s'', Noting.goes_bind hgoes hrun, hrel''⟩

/-! ### Where a program stops -/

/-- The program gets to a call in a state. -/
inductive Calls (means : ∀ β, Op β → ρ → Except ε (β × ρ)) {γ : Type} (made : Op γ) (at_ : ρ) :
    Program Op α → ρ → Prop
  | here (next : γ → Program Op α) : Calls means made at_ (.call made next) at_
  | later {β : Type} (op : Op β) (next : β → Program Op α) (b : β) (t t' : ρ)
      (hgoes : means _ op t = .ok (b, t')) (h : Calls means made at_ (next b) t') :
      Calls means made at_ (.call op next) t

/-- A program comes to a stop exactly when it gets to a call that does. -/
theorem eval_eq_error_iff (means : ∀ β, Op β → ρ → Except ε (β × ρ)) (p : Program Op α) (t : ρ)
    (e : ε) : p.eval means t = .error e ↔
      ∃ (γ : Type) (made : Op γ) (t' : ρ),
        Calls means made t' p t ∧ means _ made t' = .error e := by
  constructor
  · intro h
    induction p generalizing t with
    | done a => exact absurd h (by simp [Program.eval])
    | call op next ih =>
        rw [Program.eval] at h
        cases hop : means _ op t with
        | error e' =>
            rw [hop] at h
            -- It is this call that stops.
            have heq : e' = e := Except.error.inj h
            exact ⟨_, op, t, .here next, heq ▸ hop⟩
        | ok r =>
            rcases r with ⟨b, t'⟩
            rw [hop] at h
            -- The call goes through, and one behind it stops.
            rcases ih b t' h with ⟨γ, made, t'', hcalls, hmade⟩
            exact ⟨γ, made, t'', .later op next b t t' hop hcalls, hmade⟩
  · rintro ⟨γ, made, t', hcalls, hmade⟩
    induction hcalls with
    | here next => rw [Program.eval, hmade]
    | later op next b t s hgoes hcalls ih =>
        rw [Program.eval, hgoes]
        exact ih

/-- A program means the same in two ways when the calls that it gets to do. -/
theorem eval_congr (means means' : ∀ β, Op β → ρ → Except ε (β × ρ)) (p : Program Op α) (t : ρ)
    (h : ∀ (γ : Type) (made : Op γ) (t' : ρ), Calls means made t' p t →
      means _ made t' = means' _ made t') : p.eval means t = p.eval means' t := by
  induction p generalizing t with
  | done a => rfl
  | call op next ih =>
      rw [Program.eval, Program.eval, ← h _ op t (.here next)]
      cases hop : means _ op t with
      | error e => rfl
      | ok r =>
          rcases r with ⟨b, t'⟩
          exact ih b t' fun γ made t'' hcalls =>
            h γ made t'' (.later op next b t t' hop hcalls)

/-- All notes are good and the run does not come to a bad stop exactly when no call that the
    program gets to comes to one. -/
theorem good_run_iff (rel : σ → ρ → Prop) (good : ω → Prop) (bad : ε → Prop)
    (handle : ∀ β, Op β → Noting σ ω ε β) (means : ∀ β, Op β → ρ → Except ε (β × ρ))
    (h : ∀ β (op : Op β), Refines rel good bad (handle β op) (means β op))
    (p : Program Op α) (s : σ) (t : ρ) (hrel : rel s t) :
    ((∀ n ∈ (p.run handle s).1, good n) ∧ ∀ e, (p.run handle s).2 = .error e → ¬bad e) ↔
      ∀ (γ : Type) (made : Op γ) (t' : ρ), Calls means made t' p t →
        ∀ e, means _ made t' = .error e → ¬bad e := by
  have hrun := refines_run rel good bad handle means h p s t hrel
  have hstops := eval_eq_error_iff means p t
  revert hrun hstops
  rcases p.eval means t with e | ⟨a, t'⟩ <;> intro hrun hstops
  · rcases hrun with ⟨notes, hrun, hgood⟩
    rw [hrun]
    constructor
    · intro hboth γ made t' hcalls e' hmade
      rw [← Except.error.inj ((hstops e').mpr ⟨γ, made, t', hcalls, hmade⟩)]
      exact hboth.2 e rfl
    -- The stop of the run is that of a call, so it is not a bad one.
    · intro hnone
      rcases (hstops e).mp rfl with ⟨γ, made, t', hcalls, hmade⟩
      have hbad := hnone γ made t' hcalls e hmade
      exact ⟨hgood hbad, fun e' heq => Except.error.inj heq ▸ hbad⟩
  -- A run that goes through has good notes, and no call in it stops.
  · rcases hrun with ⟨s', ⟨notes, hrun, hgood⟩, -⟩
    rw [hrun]
    refine ⟨fun _ γ made t' hcalls e hmade => ?_, fun _ => ⟨hgood, fun e heq => ?_⟩⟩
    · cases (hstops e).mpr ⟨γ, made, t', hcalls, hmade⟩
    · cases heq

end Codec
