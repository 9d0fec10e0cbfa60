import Dlms.Codec.Prefix

/-!
# Decoders that ask for room

A decoder of a list is told how many elements there are before it has seen one of them, and
may ask for room for all of them. A `Reserving` decoder keeps a log of what it asks for, each
time with how much of the input is left. Without the log it is a parser.

Where a decoder asks can be told from its format: `Headers` relates an input to the numbers of
elements that it announces and to what is behind each of them. `Announces` says that these are
the places where the decoder asks, and composes along the sequence of its reads. So a decoder
asks for no more than is left exactly when no header of its input announces more than stands
behind it.

## Main definitions

* `Reserving`: A decoder with a log, and its `parser` and `log`.
* `ask`, `lift`, `repeatR`: What it is made of.
* `Headers`: Where an input announces how many elements.
* `Announces`: The decoder asks at these places.
* `Bounded`: It asks for no more than is left.

## Theorems

* `parser_bind`, `parser_repeatR`: Without the log.
* `announces_bind`, `announces_elements`, `announces_list`: The places where it asks.
* `bounded_iff`: When it asks for no more than is left.
-/

namespace Codec

variable {τ ε α β : Type}

/-- Room for so many elements, asked for with so many tokens left. -/
structure Reservation where
  count : Nat
  left : Nat
  deriving DecidableEq, Repr

/-- A decoder with a log of what it has asked for. -/
def Reserving (τ ε α : Type) : Type :=
  List τ → List Reservation × Except ε (α × List τ)

namespace Reserving

/-- The decoder without its log. -/
def parser (p : Reserving τ ε α) : Parser τ ε α := fun ts => (p ts).2

def log (p : Reserving τ ε α) (ts : List τ) : List Reservation := (p ts).1

/-- A parser asks for nothing. -/
def lift (p : Parser τ ε α) : Reserving τ ε α := fun ts => ([], p ts)

/-- Ask for room for so many elements. What comes of it is up to who is asked. -/
def ask (count : Nat) (answer : Parser τ ε Unit) : Reserving τ ε Unit := fun ts =>
  ([⟨count, ts.length⟩], answer ts)

instance : Monad (Reserving τ ε) where
  pure a := lift (pure a)
  bind p f := fun ts =>
    match p ts with
    | (log, .error e) => (log, .error e)
    -- What was asked for stays in the log when the decoder stops later.
    | (log, .ok (a, rest)) => (log ++ (f a rest).1, (f a rest).2)

/-- So many values one after another. -/
def repeatR (p : Reserving τ ε α) : Nat → Reserving τ ε (List α)
  | 0 => pure []
  | n + 1 => do
      let a ← p
      let as ← repeatR p n
      pure (a :: as)

/-- So many elements, behind the room for them. -/
def elements (room : Parser τ ε Unit) (item : Reserving τ ε α) (count : Nat) :
    Reserving τ ε (List α) := do
  ask count room
  repeatR item count

/-- A list: how many elements there are, and then the elements. -/
def list (length : Parser τ ε Nat) (room : Nat → Parser τ ε Unit) (item : Reserving τ ε α) :
    Reserving τ ε (List α) := do
  let count ← lift length
  elements (room count) item count

/-- A decoder that is given all that is left. -/
def last (p : Reserving τ ε α) : Reserving τ ε α := fun ts =>
  match p ts with
  | (log, .error e) => (log, .error e)
  -- What it leaves is dropped.
  | (log, .ok (a, _)) => (log, .ok (a, []))

/-! ### Without the log -/

@[simp]
theorem parser_lift (p : Parser τ ε α) : (lift p).parser = p := rfl

@[simp]
theorem parser_pure (a : α) : (pure a : Reserving τ ε α).parser = pure a := rfl

@[simp]
theorem parser_ask (count : Nat) (answer : Parser τ ε Unit) :
    (ask count answer : Reserving τ ε Unit).parser = answer := rfl

@[simp]
theorem parser_bind (p : Reserving τ ε α) (f : α → Reserving τ ε β) :
    (p >>= f).parser = p.parser >>= fun a => (f a).parser := by
  funext ts
  simp only [parser, bind, StateT.bind]
  rcases p ts with ⟨log, e | ⟨a, rest⟩⟩
  · rfl
  · rfl

@[simp]
theorem parser_map (p : Reserving τ ε α) (g : α → β) : (g <$> p).parser = g <$> p.parser := by
  funext ts
  simp only [parser, Functor.map, bind, StateT.map]
  rcases p ts with ⟨log, e | ⟨a, rest⟩⟩
  · rfl
  · rfl

@[simp]
theorem parser_ite (c : Prop) [Decidable c] (p q : Reserving τ ε α) :
    (if c then p else q).parser = if c then p.parser else q.parser := by
  split_ifs <;> rfl

theorem parser_repeatR (p : Reserving τ ε α) (n : Nat) :
    (repeatR p n).parser = Parser.repeatN p.parser n := by
  induction n with
  | zero => rfl
  | succ n ih =>
      rw [repeatR, Parser.repeatN, parser_bind]
      simp [parser_bind, ih, parser_pure]

@[simp]
theorem parser_elements (room : Parser τ ε Unit) (item : Reserving τ ε α) (count : Nat) :
    (elements room item count).parser = (do room; Parser.repeatN item.parser count) := by
  rw [elements]
  simp [parser_bind, parser_ask, parser_repeatR]

@[simp]
theorem parser_list (length : Parser τ ε Nat) (room : Nat → Parser τ ε Unit)
    (item : Reserving τ ε α) : (list length room item).parser = (do
      let count ← length
      room count
      Parser.repeatN item.parser count) := by
  rw [list]
  simp [parser_bind, parser_lift, parser_elements]

theorem parser_last (p : Reserving τ ε α) : p.last.parser = (do
    let ts ← Parser.remaining
    Parser.ofExcept (runParser p.parser ts)) := by
  funext ts
  simp only [parser, last, bind, StateT.bind, Parser.remaining, Except.bind, runParser]
  rcases p ts with ⟨log, e | ⟨a, rest⟩⟩
  · rfl
  · rfl

/-! ### The log -/

theorem log_bind (p : Reserving τ ε α) (f : α → Reserving τ ε β) (ts : List τ)
    (r : Reservation) : r ∈ (p >>= f).log ts ↔
      r ∈ p.log ts ∨ ∃ a rest, p.parser ts = .ok (a, rest) ∧ r ∈ (f a).log rest := by
  simp only [log, parser, bind]
  rcases p ts with ⟨log, e | ⟨a, rest⟩⟩
  · simp
  · simp [and_assoc]

theorem log_map_lift (p : Parser τ ε α) (g : α → β) (ts : List τ) :
    (g <$> lift p).log ts = [] := by
  simp only [log, Functor.map, lift]
  rcases p ts with e | ⟨a, rest⟩
  · rfl
  · rfl

end Reserving

/-! ### Headers -/

/-- Where an input announces so many elements, and what is behind there. -/
abbrev Headers (τ : Type) : Type := List τ → Nat → List τ → Prop

namespace Headers

/-- Nothing is announced. -/
def none : Headers τ := fun _ _ _ => False

/-- Something is announced in one way or the other. -/
def or (h h' : Headers τ) : Headers τ := fun ts count rest => h ts count rest ∨ h' ts count rest

/-- Something is announced behind what a parser decodes. -/
def behind (p : Parser τ ε α) (h : α → Headers τ) : Headers τ := fun ts count rest =>
  ∃ used a left, ts = used ++ left ∧ Decodes p used a ∧ h a left count rest

/-- Something is announced in an item, behind fewer items than there are. -/
def within (p : Parser τ ε α) (n : Nat) (h : Headers τ) : Headers τ := fun ts count rest =>
  ∃ (items : List (List τ)) (left : List τ), items.length < n ∧
    (∀ item ∈ items, ∃ a, Decodes p item a) ∧ ts = items.flatten ++ left ∧ h left count rest

/-- So many elements are announced right here. -/
def here (n : Nat) : Headers τ := fun ts count rest => count = n ∧ rest = ts

/-- So many elements are announced, and they may announce something when there is room for
    them. -/
def elements (room : Parser τ ε Unit) (p : Parser τ ε α) (n : Nat) (h : Headers τ) : Headers τ :=
  (here n).or fun ts count rest => Decodes room [] () ∧ within p n h ts count rest

/-- A list announces what its elements are, behind how many there are. -/
def list (length : Parser τ ε Nat) (room : Nat → Parser τ ε Unit) (p : Parser τ ε α)
    (h : Headers τ) : Headers τ :=
  behind length fun n => elements (room n) p n h

end Headers

/-! ### Where a decoder asks -/

/-- The decoder asks where the input announces something. -/
def Announces (p : Reserving τ ε α) (h : Headers τ) : Prop :=
  ∀ ts count left, ⟨count, left⟩ ∈ p.log ts ↔ ∃ rest, rest.length = left ∧ h ts count rest

theorem announces_lift (p : Parser τ ε α) : Announces (Reserving.lift p) Headers.none := by
  intro ts count left
  simp [Reserving.log, Reserving.lift, Headers.none]

/-- What a delimited parser consumed is what it decodes. -/
theorem parses_iff (p : Parser τ ε α) (hp : Delimited p) (ts rest : List τ) (a : α) :
    p ts = .ok (a, rest) ↔ ∃ used, ts = used ++ rest ∧ Decodes p used a := by
  constructor
  · intro h
    exact hp ts a rest h
  · rintro ⟨used, rfl, hdecodes⟩
    exact hdecodes rest

theorem announces_bind (p : Reserving τ ε α) (q : Parser τ ε α) (f : α → Reserving τ ε β)
    (h : Headers τ) (h' : α → Headers τ) (hq : p.parser = q) (hp : Announces p h)
    (hdelimited : Delimited q) (hf : ∀ a, Announces (f a) (h' a)) :
    Announces (p >>= f) (h.or (Headers.behind q h')) := by
  intro ts count left
  rw [Reserving.log_bind, hp, hq]
  constructor
  -- Asked for by the first decoder, or by the second behind what the first one took.
  · rintro (⟨rest, hleft, hrest⟩ | ⟨a, middle, hfirst, hlater⟩)
    · exact ⟨rest, hleft, Or.inl hrest⟩
    · rcases (hf a middle count left).mp hlater with ⟨rest, hleft, hrest⟩
      rcases (parses_iff q hdelimited _ _ _).mp hfirst with ⟨used, hused, hdecodes⟩
      exact ⟨rest, hleft, Or.inr ⟨used, a, middle, hused, hdecodes, hrest⟩⟩
  · rintro ⟨rest, hleft, hrest | ⟨used, a, middle, hused, hdecodes, hrest⟩⟩
    · exact Or.inl ⟨rest, hleft, hrest⟩
    · refine Or.inr ⟨a, middle, ?_, (hf a middle count left).mpr ⟨rest, hleft, hrest⟩⟩
      rw [hused]
      exact hdecodes middle

/-- The same places under another description. -/
theorem announces_of_iff (p : Reserving τ ε α) (h h' : Headers τ) (hp : Announces p h)
    (heq : ∀ ts count rest, h ts count rest ↔ h' ts count rest) : Announces p h' := by
  intro ts count left
  simp [hp ts count left, heq]

/-- Behind a read that asks for nothing. -/
theorem announces_behind (p : Parser τ ε α) (f : α → Reserving τ ε β) (h' : α → Headers τ)
    (hdelimited : Delimited p) (hf : ∀ a, Announces (f a) (h' a)) :
    Announces (Reserving.lift p >>= f) (Headers.behind p h') := by
  refine announces_of_iff _ _ _ (announces_bind _ p _ _ _ rfl (announces_lift p)
    hdelimited hf) ?_
  intro ts count rest
  simp [Headers.or, Headers.none]

/-- In front of what asks for nothing. -/
theorem announces_front (p : Reserving τ ε α) (f : α → Reserving τ ε β) (h : Headers τ)
    (hp : Announces p h) (hnone : ∀ a ts, (f a).log ts = []) : Announces (p >>= f) h := by
  intro ts count left
  rw [Reserving.log_bind, hp]
  constructor
  · rintro (h | ⟨a, rest, -, hlater⟩)
    · exact h
    · rw [hnone] at hlater
      exact absurd hlater List.not_mem_nil
  · exact Or.inl

theorem announces_map (p : Reserving τ ε α) (g : α → β) (h : Headers τ) (hp : Announces p h) :
    Announces (g <$> p) h :=
  announces_front p (fun a => pure (g a)) h hp fun _ _ => rfl

theorem announces_last (p : Reserving τ ε α) (h : Headers τ) (hp : Announces p h) :
    Announces p.last h := by
  intro ts count left
  rw [← hp]
  simp only [Reserving.log, Reserving.last]
  rcases p ts with ⟨log, e | ⟨a, rest⟩⟩
  · rfl
  · rfl

/-- Items announce what one of them announces, behind those in front of it. The induction is on
    how many there are. -/
theorem announces_repeatR (p : Reserving τ ε α) (h : Headers τ) (n : Nat) (hp : Announces p h)
    (hdelimited : Delimited p.parser) :
    Announces (Reserving.repeatR p n) (Headers.within p.parser n h) := by
  induction n with
  | zero =>
      intro ts count left
      refine ⟨fun hnone => absurd hnone List.not_mem_nil, ?_⟩
      -- Nothing is announced in none of the items.
      rintro ⟨rest, -, items, _, hfew, -⟩
      exact absurd hfew (Nat.not_lt_zero _)
  | succ n ih =>
      have hrest (a : α) : Announces (do let as ← Reserving.repeatR p n; pure (a :: as))
          (Headers.within p.parser n h) := announces_front _ _ _ ih fun _ _ => rfl
      refine announces_of_iff _ _ _ (announces_bind _ _ _ _ _ rfl hp hdelimited hrest) ?_
      intro ts count rest
      constructor
      · rintro (hfirst | ⟨used, a, left, rfl, hdecodes, items, later, hfew, hitems, rfl, hlater⟩)
        -- In the first item there are none in front.
        · exact ⟨[], ts, Nat.succ_pos n, fun item hitem => absurd hitem List.not_mem_nil, rfl,
            hfirst⟩
        · refine ⟨used :: items, later, Nat.succ_lt_succ hfew, fun item hitem => ?_, ?_, hlater⟩
          · rcases List.mem_cons.mp hitem with rfl | hmem
            · exact ⟨a, hdecodes⟩
            · exact hitems item hmem
          · rw [List.flatten_cons, List.append_assoc]
      · rintro ⟨items, left, hfew, hitems, rfl, hlater⟩
        cases items with
        -- No item in front: it is announced in the first one.
        | nil => exact Or.inl hlater
        | cons used items =>
            rcases hitems used List.mem_cons_self with ⟨a, hdecodes⟩
            refine Or.inr ⟨used, a, items.flatten ++ left, ?_, hdecodes, items, left,
              Nat.lt_of_succ_lt_succ hfew, fun item hitem =>
                hitems item (List.mem_cons_of_mem used hitem), rfl, hlater⟩
            rw [List.flatten_cons, List.append_assoc]

theorem announces_ask (count : Nat) (answer : Parser τ ε Unit) :
    Announces (Reserving.ask count answer) (Headers.here count) := by
  intro ts n left
  simp only [Reserving.log, Reserving.ask, List.mem_singleton, Reservation.mk.injEq, Headers.here]
  constructor
  · rintro ⟨rfl, rfl⟩
    exact ⟨ts, rfl, rfl, rfl⟩
  · rintro ⟨rest, rfl, rfl, rfl⟩
    exact ⟨rfl, rfl⟩

/-- Room that is given without a look at the input. -/
def Silent (room : Parser τ ε Unit) : Prop :=
  (∃ e, room = Parser.fail e) ∨ room = pure ()

theorem delimited_of_silent (room : Parser τ ε Unit) (h : Silent room) : Delimited room := by
  rcases h with ⟨e, rfl⟩ | rfl
  · exact delimited_fail e
  · exact delimited_pure ()

theorem nil_of_silent (room : Parser τ ε Unit) (h : Silent room) (used : List τ)
    (hused : Decodes room used ()) : used = [] := by
  rcases h with ⟨e, rfl⟩ | rfl
  -- Room that is refused decodes nothing at all.
  · exact absurd (hused []) (by simp [Parser.fail])
  · have hnone := hused []
    rw [List.append_nil, pure_eq_ok_iff] at hnone
    exact hnone.2

theorem announces_elements (room : Parser τ ε Unit) (item : Reserving τ ε α) (q : Parser τ ε α)
    (count : Nat) (h : Headers τ) (hroom : Silent room) (hq : item.parser = q)
    (hp : Announces item h) (hitem : Delimited q) :
    Announces (Reserving.elements room item count) (Headers.elements room q count h) := by
  have hitems := announces_repeatR item h count hp (hq ▸ hitem)
  rw [hq] at hitems
  refine announces_of_iff _ _ _ (announces_bind _ room _ _ _ rfl (announces_ask count room)
    (delimited_of_silent _ hroom) fun _ => hitems) ?_
  intro ts n rest
  constructor
  · rintro (hhere | ⟨none, ⟨⟩, left, rfl, hn, hin⟩)
    · exact Or.inl hhere
    -- Giving room takes nothing of the input.
    · have hnil := nil_of_silent room hroom none hn
      rw [hnil] at hn ⊢
      exact Or.inr ⟨hn, hin⟩
  · rintro (hhere | ⟨hn, hin⟩)
    · exact Or.inl hhere
    · exact Or.inr ⟨[], (), ts, rfl, hn, hin⟩

theorem announces_list (length : Parser τ ε Nat) (room : Nat → Parser τ ε Unit)
    (item : Reserving τ ε α) (q : Parser τ ε α) (h : Headers τ) (hlength : Delimited length)
    (hroom : ∀ n, Silent (room n)) (hq : item.parser = q) (hp : Announces item h)
    (hitem : Delimited q) :
    Announces (Reserving.list length room item) (Headers.list length room q h) :=
  announces_behind length _ _ hlength fun n =>
    announces_elements (room n) item q n h (hroom n) hq hp hitem

/-! ### Asking for no more than is left -/

/-- The decoder asks for no more elements than there are tokens left. -/
def Bounded (p : Reserving τ ε α) (ts : List τ) : Prop :=
  ∀ r ∈ p.log ts, r.count ≤ r.left

theorem bounded_iff (p : Reserving τ ε α) (h : Headers τ) (hp : Announces p h) (ts : List τ) :
    Bounded p ts ↔ ∀ count rest, h ts count rest → count ≤ rest.length := by
  constructor
  · intro hall count rest hrest
    exact hall ⟨count, rest.length⟩ ((hp ts count rest.length).mpr ⟨rest, rfl, hrest⟩)
  · rintro hall ⟨count, left⟩ hr
    rcases (hp ts count left).mp hr with ⟨rest, rfl, hrest⟩
    exact hall count rest hrest

end Codec
