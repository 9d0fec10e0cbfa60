import Mathlib.Data.List.Basic

/-!
# Parsers over a list of tokens

A parser consumes a prefix of a token list and returns a value with the rest,
or stops with an error. It is a state monad over the remaining tokens, so a
decoder is written in the order in which it reads.

What a protocol proof needs of a decoder is a statement that composes along
the sequence of its reads. `Decodes p ts a` is that statement: whatever
follows `ts`, the parser `p` consumes exactly `ts` and returns `a`. The suffix
is universally quantified, so two such facts glue together through `>>=`
without knowing what the second parser leaves behind, and a decoder of a long
message is proved one field at a time.

A read that takes everything that is left decodes no fixed prefix. `Accepts`
is the weaker statement for the last step of a sequence: on exactly this
input the parser succeeds and leaves nothing over.

## Main definitions

* `Parser`: A reader of a token list that may fail.
* `item`, `items`, `remaining`, `repeatN`: The primitive readers.
* `Decodes`: A parser consumes exactly a given prefix, whatever follows it.
* `Accepts`: A parser accepts a whole input.
* `Extends`: A parser returns what another one does, wherever that succeeds.
* `Returns`: Every value a parser returns has a property.
* `Consumes`: What a parser consumed is related to the value it returned.

## Theorems

* `decodes_bind`, `decodes_pure`, `decodes_map`: Decoding composes.
* `decodes_items`, `decodes_repeatN`, `decodes_consumed`: Decoding of the primitive readers.
* `accepts_bind`, `accepts_atEnd`, `accepts_untilEnd`: Accepting the end of an input.
* `extends_bind`, `extends_repeatN`: Extending composes.
* `returns_bind`, `returns_map`, `returns_repeatN`, `returns_untilEnd`: So does returning.
* `consumes_bind`, `consumes_consumed`: And what is consumed adds up.
-/

namespace Codec

variable {τ ε α β : Type}

/-- A reader of a list of tokens: it returns a value and what it left over,
    or an error. -/
abbrev Parser (τ ε α : Type) : Type := StateT (List τ) (Except ε) α

namespace Parser

/-- Read one token, or fail with `e` at the end of the input. -/
def item (e : ε) : Parser τ ε τ := fun ts =>
  match ts with
  | [] => .error e
  | t :: rest => .ok (t, rest)

/-- Read the next `n` tokens, or fail with `e` when fewer are left. -/
def items (e : ε) (n : Nat) : Parser τ ε (List τ) := fun ts =>
  if ts.length < n then .error e else .ok (ts.take n, ts.drop n)

/-- Read everything that is left. -/
def remaining : Parser τ ε (List τ) := fun ts => .ok (ts, [])

/-- Succeed only at the end of the input. -/
def atEnd (e : ε) : Parser τ ε Unit := fun ts =>
  match ts with
  | [] => .ok ((), [])
  | _ :: _ => .error e

/-- Stop with an error. -/
def fail (e : ε) : Parser τ ε α := fun _ => .error e

/-- Use the result of a computation that reads nothing. -/
def ofExcept (r : Except ε α) : Parser τ ε α := fun ts => r.map fun a => (a, ts)

/-- Read `n` values one after another with the same parser. -/
def repeatN (p : Parser τ ε α) : Nat → Parser τ ε (List α)
  | 0 => pure []
  | n + 1 => do
      let a ← p
      let as ← repeatN p n
      pure (a :: as)

/-- Run a parser and also return the tokens it consumed. -/
def consumed (p : Parser τ ε α) : Parser τ ε (List τ × α) := fun ts =>
  match p ts with
  | .ok (a, rest) => .ok ((ts.take (ts.length - rest.length), a), rest)
  | .error e => .error e

/-- Read values with the same parser until the input is empty. A parser that
    consumes something on every success needs no more rounds than there are
    tokens. -/
def untilEnd (p : Parser τ ε α) : Nat → Parser τ ε (List α)
  | 0 => pure []
  | fuel + 1 => fun ts =>
      match ts with
      | [] => .ok ([], [])
      | _ :: _ => (do
          let a ← p
          let as ← untilEnd p fuel
          pure (a :: as) : Parser τ ε (List α)) ts

end Parser

/-- The parser `p` consumes exactly `ts` and returns `a`, whatever tokens
    follow. -/
def Decodes (p : Parser τ ε α) (ts : List τ) (a : α) : Prop :=
  ∀ rest, p (ts ++ rest) = .ok (a, rest)

/-- A sequence of two parsers succeeds when the first does and the second goes on
    from there. -/
theorem bind_eq_ok_iff (p : Parser τ ε α) (f : α → Parser τ ε β) (ts : List τ) (b : β)
    (out : List τ) :
    (p >>= f) ts = .ok (b, out) ↔ ∃ a rest, p ts = .ok (a, rest) ∧ f a rest = .ok (b, out) := by
  simp only [bind, StateT.bind]
  rcases hfirst : p ts with e | ⟨a, rest⟩
  · simp [Except.bind]
  · simp [Except.bind, and_assoc]

theorem pure_eq_ok_iff (a b : α) (ts out : List τ) :
    (pure a : Parser τ ε α) ts = .ok (b, out) ↔ a = b ∧ ts = out := by
  have hpure : (pure a : Parser τ ε α) ts = .ok (a, ts) := rfl
  rw [hpure, Except.ok.injEq, Prod.mk.injEq]

theorem decodes_pure (a : α) : Decodes (pure a : Parser τ ε α) [] a :=
  fun _ => rfl

/-- Reads in sequence consume their prefixes in sequence. -/
theorem decodes_bind (p : Parser τ ε α) (f : α → Parser τ ε β) (ts us : List τ) (a : α) (b : β)
    (hp : Decodes p ts a) (hf : Decodes (f a) us b) : Decodes (p >>= f) (ts ++ us) b := by
  intro rest
  have hfirst := hp (us ++ rest)
  rw [← List.append_assoc] at hfirst
  simp only [bind, StateT.bind, hfirst, Except.bind]
  exact hf rest

theorem decodes_map (p : Parser τ ε α) (g : α → β) (ts : List τ) (a : α)
    (hp : Decodes p ts a) : Decodes (g <$> p) ts (g a) := by
  intro rest
  simp [Functor.map, StateT.map, hp rest, bind, Except.bind, pure, Except.pure]

theorem decodes_item (e : ε) (t : τ) : Decodes (Parser.item e) [t] t :=
  fun _ => rfl

theorem decodes_items (e : ε) (ts : List τ) : Decodes (Parser.items e ts.length) ts ts := by
  intro rest
  have henough : ¬ (ts ++ rest).length < ts.length := by
    rw [List.length_append]
    omega
  simp [Parser.items, List.take_left]

/-- Repeating a parser decodes the concatenation of what each round decodes. -/
theorem decodes_repeatN (p : Parser τ ε α) (enc : α → List τ) (as : List α)
    (hp : ∀ a ∈ as, Decodes p (enc a) a) :
    Decodes (Parser.repeatN p as.length) (as.flatMap enc) as := by
  induction as with
  | nil => exact decodes_pure []
  | cons a as ih =>
      have hhead := hp a (List.mem_cons_self ..)
      have htail := ih fun b hb => hp b (List.mem_cons_of_mem a hb)
      rw [List.flatMap_cons, List.length_cons, Parser.repeatN]
      refine decodes_bind _ _ _ _ _ _ hhead ?_
      rw [← List.append_nil (as.flatMap enc)]
      exact decodes_bind _ _ _ _ _ _ htail (decodes_pure _)

/-- A parser that also returns what it consumed returns the prefix. -/
theorem decodes_consumed (p : Parser τ ε α) (ts : List τ) (a : α) (hp : Decodes p ts a) :
    Decodes (Parser.consumed p) ts (ts, a) := by
  intro rest
  have htaken : (ts ++ rest).length - rest.length = ts.length := by
    rw [List.length_append]
    omega
  simp [Parser.consumed, hp rest, htaken]

/-- The parser accepts the whole list and returns `a`. -/
def Accepts (p : Parser τ ε α) (ts : List τ) (a : α) : Prop := p ts = .ok (a, [])

/-- A parser that decodes a list accepts the list on its own. -/
theorem accepts_of_decodes (p : Parser τ ε α) (ts : List τ) (a : α) (hp : Decodes p ts a) :
    Accepts p ts a := by
  have h := hp []
  rwa [List.append_nil] at h

/-- The last read of a sequence may be one that only works at the end of the
    input, such as one that takes everything that is left. -/
theorem accepts_bind (p : Parser τ ε α) (f : α → Parser τ ε β) (ts us : List τ) (a : α) (b : β)
    (hp : Decodes p ts a) (hf : Accepts (f a) us b) : Accepts (p >>= f) (ts ++ us) b := by
  have hfirst := hp us
  rw [Accepts] at hf ⊢
  simp [bind, StateT.bind, hfirst, Except.bind, hf]

/-- Mapping the result of a parser that accepts its whole input. -/
theorem accepts_map (p : Parser τ ε α) (g : α → β) (ts : List τ) (a : α)
    (hp : Accepts p ts a) : Accepts (g <$> p) ts (g a) := by
  rw [Accepts] at hp ⊢
  simp [Functor.map, StateT.map, hp, bind, Except.bind, pure, Except.pure]

/-- The end-of-input check after a parser that accepts its whole input. -/
theorem accepts_atEnd (p : Parser τ ε α) (e : ε) (g : α → β) (ts : List τ) (a : α)
    (hp : Accepts p ts a) : Accepts (do let b ← p; Parser.atEnd e; pure (g b)) ts (g a) := by
  rw [Accepts] at hp ⊢
  simp only [bind, StateT.bind, hp, Except.bind, Parser.atEnd]
  rfl

/-- Parts of an input that each decode to a value are decoded one after another
    up to the end. The induction is on the parts, and each takes one round. -/
theorem accepts_untilEnd (p : Parser τ ε α) (parts : List (List τ × α)) (fuel : Nat)
    (hp : ∀ part ∈ parts, Decodes p part.1 part.2) (hne : ∀ part ∈ parts, part.1 ≠ [])
    (hfuel : parts.length ≤ fuel) :
    Accepts (Parser.untilEnd p fuel) (parts.flatMap Prod.fst) (parts.map Prod.snd) := by
  induction parts generalizing fuel with
  | nil =>
      cases fuel with
      | zero => rfl
      | succ fuel => rfl
  | cons part parts ih =>
      cases fuel with
      | zero => exact absurd hfuel (by simp only [List.length_cons]; omega)
      | succ fuel =>
          have hhead := hp part List.mem_cons_self
          have htail := ih fuel (fun other h => hp other (List.mem_cons_of_mem part h))
            (fun other h => hne other (List.mem_cons_of_mem part h)) (Nat.le_of_succ_le_succ hfuel)
          have hround := accepts_bind p
            (fun first => (do let rest ← Parser.untilEnd p fuel; pure (first :: rest))) _ _ _ _
            hhead (accepts_map _ (part.2 :: ·) _ _ htail)
          rw [List.flatMap_cons, Accepts]
          rcases hbytes : part.1 with _ | ⟨t, ts⟩
          · exact absurd hbytes (hne part List.mem_cons_self)
          · rw [hbytes] at hround
            exact hround

/-- Wherever `p` succeeds, `q` succeeds in the same way. -/
def Extends (q p : Parser τ ε α) : Prop :=
  ∀ ts a rest, p ts = .ok (a, rest) → q ts = .ok (a, rest)

theorem extends_refl (p : Parser τ ε α) : Extends p p := fun _ _ _ h => h

theorem extends_bind (q p : Parser τ ε α) (g f : α → Parser τ ε β) (hp : Extends q p)
    (hf : ∀ a, Extends (g a) (f a)) : Extends (q >>= g) (p >>= f) := by
  intro ts b rest h
  simp only [bind, StateT.bind] at h ⊢
  rcases hfirst : p ts with e | ⟨a, middle⟩
  · rw [hfirst] at h
    exact absurd h (by simp [Except.bind])
  · rw [hfirst] at h
    rw [hp ts a middle hfirst]
    exact hf a middle b rest h

theorem extends_repeatN (q p : Parser τ ε α) (n : Nat) (hp : Extends q p) :
    Extends (Parser.repeatN q n) (Parser.repeatN p n) := by
  induction n with
  | zero => exact extends_refl _
  | succ n ih =>
      refine extends_bind _ _ _ _ hp fun a => ?_
      exact extends_bind _ _ _ _ ih fun as => extends_refl _

/-- Repeating another parser returns the same values when it returns each of them. -/
theorem repeatN_of_each (p q : Parser τ ε α) (n : Nat) (ts rest : List τ)
    (as : List α)
    (hq : ∀ a ∈ as, ∀ ts rest, p ts = .ok (a, rest) → q ts = .ok (a, rest))
    (h : Parser.repeatN p n ts = .ok (as, rest)) : Parser.repeatN q n ts = .ok (as, rest) := by
  induction n generalizing ts as with
  | zero => exact h
  | succ n ih =>
      rw [Parser.repeatN, bind_eq_ok_iff] at h ⊢
      rcases h with ⟨a, middle, hfirst, h⟩
      rw [bind_eq_ok_iff] at h
      rcases h with ⟨others, last, hothers, h⟩
      rw [pure_eq_ok_iff] at h
      rcases h with ⟨rfl, rfl⟩
      refine ⟨a, middle, hq a List.mem_cons_self _ _ hfirst, ?_⟩
      rw [bind_eq_ok_iff]
      refine ⟨others, last, ?_, rfl⟩
      exact ih _ _ (fun b hb => hq b (List.mem_cons_of_mem a hb)) hothers

theorem decodes_of_extends (q p : Parser τ ε α) (ts : List τ) (a : α) (hq : Extends q p)
    (hp : Decodes p ts a) : Decodes q ts a :=
  fun rest => hq (ts ++ rest) a rest (hp rest)

theorem accepts_of_extends (q p : Parser τ ε α) (ts : List τ) (a : α) (hq : Extends q p)
    (hp : Accepts p ts a) : Accepts q ts a :=
  hq ts a [] hp

/-- Run a parser and keep its value, whatever it left over. -/
def runParser (p : Parser τ ε α) (ts : List τ) : Except ε α :=
  match p ts with
  | .ok (a, _) => .ok a
  | .error e => .error e

theorem runParser_eq_ok_iff (p : Parser τ ε α) (ts : List τ) (value : α) :
    runParser p ts = .ok value ↔ ∃ rest, p ts = .ok (value, rest) := by
  rw [runParser]
  rcases p ts with e | ⟨a, rest⟩
  · simp
  · simp

theorem runParser_of_accepts (p : Parser τ ε α) (ts : List τ) (a : α) (hp : Accepts p ts a) :
    runParser p ts = .ok a := by
  rw [Accepts] at hp
  rw [runParser, hp]

/-- Every value the parser returns has the property, whatever the input. -/
def Returns (p : Parser τ ε α) (has : α → Prop) : Prop :=
  ∀ ts a rest, p ts = .ok (a, rest) → has a

theorem returns_any (p : Parser τ ε α) : Returns p fun _ => True :=
  fun _ _ _ _ => trivial

theorem returns_pure (a : α) (has : α → Prop) (h : has a) :
    Returns (pure a : Parser τ ε α) has := by
  intro ts b rest hout
  rcases Prod.mk.inj (Except.ok.inj hout) with ⟨rfl, -⟩
  exact h

theorem returns_fail (e : ε) (has : α → Prop) :
    Returns (Parser.fail e : Parser τ ε α) has := by
  intro ts a rest hout
  exact absurd hout (by simp [Parser.fail])

/-- The second parser may rely on what the first one returns. -/
theorem returns_bind (p : Parser τ ε α) (f : α → Parser τ ε β) (hasFirst : α → Prop)
    (has : β → Prop) (hp : Returns p hasFirst) (hf : ∀ a, hasFirst a → Returns (f a) has) :
    Returns (p >>= f) has := by
  intro ts b rest hout
  simp only [bind, StateT.bind] at hout
  rcases hfirst : p ts with e | ⟨a, middle⟩
  · rw [hfirst] at hout
    exact absurd hout (by simp [Except.bind])
  · rw [hfirst] at hout
    exact hf a (hp ts a middle hfirst) middle b rest hout

theorem returns_map (p : Parser τ ε α) (g : α → β) (has : β → Prop)
    (hp : Returns p fun a => has (g a)) : Returns (g <$> p) has := by
  intro ts b rest hout
  rcases hfirst : p ts with e | ⟨a, middle⟩
  · simp [Functor.map, StateT.map, hfirst, bind, Except.bind] at hout
  · simp only [Functor.map, StateT.map, hfirst, bind, Except.bind, pure, Except.pure,
      Except.ok.injEq, Prod.mk.injEq] at hout
    rw [← hout.1]
    exact hp ts a middle hfirst

theorem returns_map_of_forall (p : Parser τ ε α) (g : α → β) (has : β → Prop)
    (h : ∀ a, has (g a)) : Returns (g <$> p) has :=
  returns_map p g has fun _ a _ _ => h a

theorem returns_items (e : ε) (n : Nat) :
    Returns (Parser.items e n : Parser τ ε (List τ)) fun ts => ts.length = n := by
  intro ts taken rest hout
  by_cases hshort : ts.length < n
  · simp [Parser.items, hshort] at hout
  · simp only [Parser.items, hshort, if_false, Except.ok.injEq, Prod.mk.injEq] at hout
    rw [← hout.1, List.length_take]
    omega

/-- Repeating a parser returns so many values with its property. -/
theorem returns_repeatN (p : Parser τ ε α) (has : α → Prop) (n : Nat) (hp : Returns p has) :
    Returns (Parser.repeatN p n) fun as => as.length = n ∧ ∀ a ∈ as, has a := by
  induction n with
  | zero => exact returns_pure [] _ ⟨rfl, fun a ha => absurd ha List.not_mem_nil⟩
  | succ n ih =>
      refine returns_bind _ _ _ _ hp fun a ha => ?_
      refine returns_bind _ _ _ _ ih fun as has => ?_
      refine returns_pure _ _ ⟨by rw [List.length_cons, has.1], ?_⟩
      intro b hb
      rcases List.mem_cons.mp hb with rfl | hrest
      · exact ha
      · exact has.2 b hrest

/-- Reading up to the end of the input returns values with the property. -/
theorem returns_untilEnd (p : Parser τ ε α) (has : α → Prop) (fuel : Nat) (hp : Returns p has) :
    Returns (Parser.untilEnd p fuel) fun as => ∀ a ∈ as, has a := by
  induction fuel with
  | zero => exact returns_pure [] _ fun a ha => absurd ha List.not_mem_nil
  | succ fuel ih =>
      intro ts as rest hout
      cases ts with
      | nil =>
          rw [← (Prod.mk.inj (Except.ok.inj hout)).1]
          exact fun a ha => absurd ha List.not_mem_nil
      | cons t ts =>
          refine returns_bind p _ has (fun as => ∀ a ∈ as, has a) hp (fun a ha => ?_) (t :: ts) as
            rest hout
          refine returns_bind _ _ _ _ ih fun as has => returns_pure _ _ ?_
          intro b hb
          rcases List.mem_cons.mp hb with rfl | hrest
          · exact ha
          · exact has b hrest

theorem of_runParser (p : Parser τ ε α) (has : α → Prop) (ts : List τ) (a : α)
    (hp : Returns p has) (hout : runParser p ts = .ok a) : has a := by
  unfold runParser at hout
  rcases hfirst : p ts with e | ⟨b, rest⟩
  · simp [hfirst] at hout
  · simp only [hfirst, Except.ok.injEq] at hout
    rw [← hout]
    exact hp ts b rest hfirst

/-! ### What was consumed -/

/-- What the parser consumed is related to the value it returned. -/
def Consumes (p : Parser τ ε α) (as : List τ → α → Prop) : Prop :=
  ∀ ts a rest, p ts = .ok (a, rest) → ∃ used, ts = used ++ rest ∧ as used a

theorem consumes_pure (a : α) (as : List τ → α → Prop) (h : as [] a) :
    Consumes (pure a : Parser τ ε α) as := by
  intro ts b rest hout
  rcases Prod.mk.inj (Except.ok.inj hout) with ⟨rfl, rfl⟩
  exact ⟨[], rfl, h⟩

theorem consumes_fail (e : ε) (as : List τ → α → Prop) :
    Consumes (Parser.fail e : Parser τ ε α) as := by
  intro ts a rest hout
  exact absurd hout (by simp [Parser.fail])

theorem consumes_item (e : ε) :
    Consumes (Parser.item e : Parser τ ε τ) fun used t => used = [t] := by
  intro ts t rest hout
  cases ts with
  | nil => exact absurd hout (by simp [Parser.item])
  | cons first ts =>
      rcases Prod.mk.inj (Except.ok.inj hout) with ⟨rfl, rfl⟩
      exact ⟨[first], rfl, rfl⟩

theorem consumes_items (e : ε) (n : Nat) :
    Consumes (Parser.items e n : Parser τ ε (List τ)) fun used ts => used = ts ∧ ts.length = n := by
  intro ts taken rest hout
  have hlength := returns_items e n ts taken rest hout
  by_cases hshort : ts.length < n
  · simp [Parser.items, hshort] at hout
  · simp only [Parser.items, hshort, if_false, Except.ok.injEq, Prod.mk.injEq] at hout
    refine ⟨taken, ?_, rfl, hlength⟩
    rw [← hout.1, ← hout.2, List.take_append_drop]

/-- What a sequence consumed is what its parts consumed, one behind the other. -/
theorem consumes_bind (p : Parser τ ε α) (f : α → Parser τ ε β) (as : List τ → α → Prop)
    (bs : List τ → β → Prop) (hp : Consumes p as)
    (hf : ∀ used a, as used a → Consumes (f a) fun more b => bs (used ++ more) b) :
    Consumes (p >>= f) bs := by
  intro ts b rest hout
  simp only [bind, StateT.bind] at hout
  rcases hfirst : p ts with e | ⟨a, middle⟩
  · rw [hfirst] at hout
    exact absurd hout (by simp [Except.bind])
  · rw [hfirst] at hout
    rcases hp ts a middle hfirst with ⟨used, hused, ha⟩
    rcases hf used a ha middle b rest hout with ⟨more, hmore, hb⟩
    exact ⟨used ++ more, by rw [hused, hmore, List.append_assoc], hb⟩

/-- Repeating a parser consumes one piece for each of so many values. -/
theorem consumes_repeatN (p : Parser τ ε α) (as : List τ → α → Prop) (n : Nat)
    (hp : Consumes p as) :
    Consumes (Parser.repeatN p n) fun used values =>
      values.length = n ∧ ∃ pieces, used = pieces.flatten ∧ List.Forall₂ as pieces values := by
  induction n with
  | zero => exact consumes_pure [] _ ⟨rfl, [], rfl, .nil⟩
  | succ n ih =>
      refine consumes_bind _ _ _ _ hp fun used a ha => ?_
      refine consumes_bind _ _ _ _ ih fun more values hmore => consumes_pure _ _ ?_
      rcases hmore with ⟨hlength, pieces, rfl, hpieces⟩
      refine ⟨by rw [List.length_cons, hlength], used :: pieces, ?_, .cons ha hpieces⟩
      rw [List.flatten_cons, List.append_nil]

/-- Keeping what was consumed keeps exactly that. -/
theorem consumes_consumed (p : Parser τ ε α) (as : List τ → α → Prop) (hp : Consumes p as) :
    Consumes (Parser.consumed p) fun used out => out.1 = used ∧ as used out.2 := by
  intro ts out rest hout
  rcases hfirst : p ts with e | ⟨a, left⟩
  · simp [Parser.consumed, hfirst] at hout
  · simp only [Parser.consumed, hfirst, Except.ok.injEq, Prod.mk.injEq] at hout
    rcases hp ts a left hfirst with ⟨used, hused, ha⟩
    rcases hout with ⟨hvalue, hleft⟩
    have htaken : ts.take (ts.length - left.length) = used := by
      rw [hused, List.length_append, Nat.add_sub_cancel, List.take_left]
    rw [htaken] at hvalue
    rw [← hvalue, ← hleft]
    exact ⟨used, hused, rfl, ha⟩

theorem returns_of_consumes (p : Parser τ ε α) (as : List τ → α → Prop) (has : α → Prop)
    (hp : Consumes p as) (h : ∀ used a, as used a → has a) : Returns p has := by
  intro ts a rest hout
  rcases hp ts a rest hout with ⟨used, -, ha⟩
  exact h used a ha

end Codec
