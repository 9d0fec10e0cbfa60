import Dlms.Codec.Parser

/-!
# Parsers of a prefix

A parser that reads one value out of a longer message has no business with what
comes behind the value. `Steady` says so: tokens behind the ones that are left
change neither the value nor what was read of the others. A steady parser that
accepts a list on its own decodes it in front of anything, so a value that was
checked alone can be put into a message.

What a parser has taken out of a longer message it should take on its own as
well. `Delimited` says so: the tokens that were consumed decide the value, and
not the ones behind them, so they decode to it wherever they stand.

Two parsers may read the same format, the one for its values and the other only
to get past them, each with errors of its own. `Follows` says that the second
one gets as far as the first.

## Main definitions

* `Steady`: What follows changes nothing.
* `Delimited`: What was consumed decodes to the value.
* `Whole`: An input is taken to its end, and not with more behind it.
* `Follows`: One parser gets as far as another does.

## Theorems

* `steady_bind`, `steady_repeatN`: Steadiness composes.
* `decodes_of_steady`: What a steady parser accepts it decodes.
* `decodes_last`: A sequence whose last step reads nothing.
* `delimited_bind`, `delimited_repeatN`: So does being delimited.
* `parts_of_untilEnd`: A whole input is cut into what each round has decoded.
* `follows_bind`, `follows_repeatN`: So does following.
* `decodes_of_follows`, `accepts_of_follows`: What is decoded by the one is
  decoded by the other.
-/

namespace Codec

variable {τ ε ε' α α' β β' : Type}

/-! ### Steadiness -/

/-- Tokens behind the ones that are left over are left over with them. -/
def Steady (p : Parser τ ε α) : Prop :=
  ∀ ts a rest more, p ts = .ok (a, rest) → p (ts ++ more) = .ok (a, rest ++ more)

theorem steady_pure (a : α) : Steady (pure a : Parser τ ε α) := by
  intro ts b rest more h
  rcases Prod.mk.inj (Except.ok.inj h) with ⟨rfl, rfl⟩
  rfl

theorem steady_fail (e : ε) : Steady (Parser.fail e : Parser τ ε α) := by
  intro ts a rest more h
  exact absurd h (by simp [Parser.fail])

theorem steady_item (e : ε) : Steady (Parser.item e : Parser τ ε τ) := by
  intro ts t rest more h
  cases ts with
  | nil => exact absurd h (by simp [Parser.item])
  | cons first ts =>
      rcases Prod.mk.inj (Except.ok.inj h) with ⟨rfl, rfl⟩
      rfl

theorem steady_items (e : ε) (n : Nat) : Steady (Parser.items e n : Parser τ ε (List τ)) := by
  intro ts taken rest more h
  by_cases hshort : ts.length < n
  · simp [Parser.items, hshort] at h
  · simp only [Parser.items, hshort, if_false, Except.ok.injEq, Prod.mk.injEq] at h
    have henough : ¬(ts ++ more).length < n := by
      rw [List.length_append]
      omega
    have hle : n ≤ ts.length := by omega
    simp only [Parser.items, henough, if_false]
    rw [List.take_append_of_le_length hle, List.drop_append_of_le_length hle, h.1, h.2]

/-- Reads in sequence leave alone what follows the last of them. -/
theorem steady_bind (p : Parser τ ε α) (f : α → Parser τ ε β) (hp : Steady p)
    (hf : ∀ a, Steady (f a)) : Steady (p >>= f) := by
  intro ts b rest more h
  simp only [bind, StateT.bind] at h ⊢
  rcases hfirst : p ts with e | ⟨a, middle⟩
  · rw [hfirst] at h
    exact absurd h (by simp [Except.bind])
  · rw [hfirst] at h
    rw [hp ts a middle more hfirst]
    exact hf a middle b rest more h

theorem steady_repeatN (p : Parser τ ε α) (n : Nat) (hp : Steady p) :
    Steady (Parser.repeatN p n) := by
  induction n with
  | zero => exact steady_pure []
  | succ n ih =>
      exact steady_bind _ _ hp fun a => steady_bind _ _ ih fun as => steady_pure _

/-- A list that a steady parser accepts alone it decodes in front of any other. -/
theorem decodes_of_steady (p : Parser τ ε α) (ts : List τ) (a : α) (hp : Steady p)
    (h : Accepts p ts a) : Decodes p ts a :=
  fun rest => hp ts a [] rest h

/-- The last read of a sequence, in front of a step that reads nothing. -/
theorem decodes_last (p : Parser τ ε α) (f : α → Parser τ ε β) (ts : List τ) (a : α) (b : β)
    (hp : Decodes p ts a) (hf : Decodes (f a) [] b) : Decodes (p >>= f) ts b := by
  have h := decodes_bind p f ts [] a b hp hf
  rwa [List.append_nil] at h

/-! ### Delimited parsers -/

/-- The tokens that were consumed decode to the value, whatever follows them. -/
def Delimited (p : Parser τ ε α) : Prop := Consumes p (Decodes p)

theorem delimited_pure (a : α) : Delimited (pure a : Parser τ ε α) :=
  consumes_pure a _ (decodes_pure a)

theorem delimited_fail (e : ε) : Delimited (Parser.fail e : Parser τ ε α) :=
  consumes_fail e _

theorem delimited_item (e : ε) : Delimited (Parser.item e : Parser τ ε τ) := by
  intro ts t rest h
  rcases consumes_item e ts t rest h with ⟨used, hused, rfl⟩
  exact ⟨[t], hused, decodes_item e t⟩

theorem delimited_items (e : ε) (n : Nat) :
    Delimited (Parser.items e n : Parser τ ε (List τ)) := by
  intro ts taken rest h
  rcases consumes_items e n ts taken rest h with ⟨used, hused, rfl, rfl⟩
  exact ⟨used, hused, decodes_items e used⟩

theorem delimited_bind (p : Parser τ ε α) (f : α → Parser τ ε β) (hp : Delimited p)
    (hf : ∀ a, Delimited (f a)) : Delimited (p >>= f) := by
  refine consumes_bind p f _ _ hp fun used a ha => ?_
  intro ts b rest h
  rcases hf a ts b rest h with ⟨more, hmore, hb⟩
  exact ⟨more, hmore, decodes_bind p f used more a b ha hb⟩

theorem delimited_map (p : Parser τ ε α) (g : α → β) (hp : Delimited p) : Delimited (g <$> p) := by
  rw [map_eq_pure_bind]
  exact delimited_bind _ _ hp fun a => delimited_pure (g a)

theorem delimited_repeatN (p : Parser τ ε α) (n : Nat) (hp : Delimited p) :
    Delimited (Parser.repeatN p n) := by
  induction n with
  | zero => exact delimited_pure []
  | succ n ih =>
      exact delimited_bind _ _ hp fun a => delimited_bind _ _ ih fun as => delimited_pure _

theorem delimited_consumed (p : Parser τ ε α) (hp : Delimited p) :
    Delimited (Parser.consumed p) := by
  intro ts out rest h
  rcases consumes_consumed p _ hp ts out rest h with ⟨used, hused, hout, ha⟩
  rcases out with ⟨taken, a⟩
  rw [show taken = used from hout]
  exact ⟨used, hused, decodes_consumed p used a ha⟩

theorem delimited_ofExcept (r : Except ε α) :
    Delimited (Parser.ofExcept r : Parser τ ε α) := by
  cases r with
  | error e => exact delimited_fail e
  | ok a => exact delimited_pure a

/-- What follows changes nothing about a delimited parser. -/
theorem steady_of_delimited (p : Parser τ ε α) (hp : Delimited p) : Steady p := by
  intro ts a rest more h
  rcases hp ts a rest h with ⟨used, rfl, hdecodes⟩
  rw [List.append_assoc]
  exact hdecodes (rest ++ more)

/-- The parser takes a whole input, and refuses it with anything behind it. -/
def Whole (p : Parser τ ε α) : Prop :=
  ∀ ts a rest, p ts = .ok (a, rest) →
    rest = [] ∧ ∀ more out, more ≠ [] → p (ts ++ more) ≠ .ok out

theorem whole_fail (e : ε) : Whole (Parser.fail e : Parser τ ε α) := by
  intro ts a rest h
  exact absurd h (by simp [Parser.fail])

theorem whole_bind (p : Parser τ ε α) (f : α → Parser τ ε β) (hp : Delimited p)
    (hf : ∀ a, Whole (f a)) : Whole (p >>= f) := by
  intro ts b rest h
  rw [bind_eq_ok_iff] at h
  rcases h with ⟨a, middle, hfirst, h⟩
  rcases hf a middle b rest h with ⟨hrest, hmore⟩
  refine ⟨hrest, fun more out hne hout => ?_⟩
  rcases out with ⟨c, left⟩
  rw [bind_eq_ok_iff] at hout
  -- The first part is read as before, so the second has the same to read and more.
  rcases hout with ⟨a', middle', hsecond, hout⟩
  rw [steady_of_delimited p hp _ _ _ more hfirst, Except.ok.injEq, Prod.mk.injEq] at hsecond
  rcases hsecond with ⟨rfl, rfl⟩
  exact hmore more (c, left) hne hout

/-- A last read that checks for the end of the input. -/
theorem whole_atEnd (p : Parser τ ε α) (e : ε) (g : α → β) (hp : Delimited p) :
    Whole (do let a ← p; Parser.atEnd e; pure (g a)) := by
  refine whole_bind _ _ hp fun a ts b rest h => ?_
  cases ts with
  | nil =>
      refine ⟨(Prod.mk.inj (Except.ok.inj h)).2.symm, fun more out hne hout => ?_⟩
      cases more with
      | nil => exact hne rfl
      | cons t more =>
          exact absurd hout (by simp [bind, StateT.bind, Parser.atEnd, Except.bind])
  | cons t ts =>
      exact absurd h (by simp [bind, StateT.bind, Parser.atEnd, Except.bind])

/-- One round of a parser that reads up to the end of the input. -/
theorem untilEnd_succ_iff (p : Parser τ ε α) (fuel : Nat) (ts rest : List τ) (as : List α)
    (hne : ts ≠ []) :
    Parser.untilEnd p (fuel + 1) ts = .ok (as, rest) ↔
      ∃ a middle others, p ts = .ok (a, middle) ∧
        Parser.untilEnd p fuel middle = .ok (others, rest) ∧ as = a :: others := by
  cases ts with
  | nil => exact absurd rfl hne
  | cons t ts =>
      simp only [Parser.untilEnd, bind_eq_ok_iff, pure_eq_ok_iff]
      constructor
      · rintro ⟨a, middle, hfirst, others, last, hothers, rfl, rfl⟩
        exact ⟨a, middle, others, hfirst, hothers, rfl⟩
      · rintro ⟨a, middle, others, hfirst, hothers, rfl⟩
        exact ⟨a, middle, hfirst, others, rest, hothers, rfl, rfl⟩

/-- A delimited parser that takes something in every round cuts the input into
    parts, and each of them decodes to the value of its round. -/
theorem parts_of_untilEnd (p : Parser τ ε α) (fuel : Nat) (ts rest : List τ) (as : List α)
    (hp : Delimited p) (hne : ∀ a, ¬Decodes p [] a) (hfuel : ts.length ≤ fuel)
    (h : Parser.untilEnd p fuel ts = .ok (as, rest)) :
    ∃ parts : List (List τ × α), parts.flatMap Prod.fst = ts ∧ parts.map Prod.snd = as ∧
      ∀ part ∈ parts, Decodes p part.1 part.2 := by
  induction fuel generalizing ts as with
  | zero =>
      rw [Parser.untilEnd, pure_eq_ok_iff] at h
      refine ⟨[], ?_, ?_, fun part hpart => absurd hpart List.not_mem_nil⟩
      · rw [List.length_eq_zero_iff.mp (Nat.le_zero.mp hfuel), List.flatMap_nil]
      · rw [← h.1, List.map_nil]
  | succ fuel ih =>
      cases ts with
      | nil =>
          rcases Prod.mk.inj (Except.ok.inj h) with ⟨rfl, -⟩
          exact ⟨[], rfl, rfl, fun part hpart => absurd hpart List.not_mem_nil⟩
      | cons t ts =>
          rw [untilEnd_succ_iff _ _ _ _ _ (List.cons_ne_nil t ts)] at h
          rcases h with ⟨a, middle, others, hfirst, hothers, rfl⟩
          rcases hp _ _ _ hfirst with ⟨used, hused, ha⟩
          have hsome : used ≠ [] := by
            rintro rfl
            exact hne a ha
          have hlength := congrArg List.length hused
          rw [List.length_append] at hlength
          have hpositive := List.length_pos_iff.mpr hsome
          rcases ih middle others (by omega) hothers with ⟨parts, hflat, hmap, hparts⟩
          refine ⟨(used, a) :: parts, ?_, ?_, fun part hpart => ?_⟩
          · rw [List.flatMap_cons, hflat, hused]
          · rw [List.map_cons, hmap]
          · rcases List.mem_cons.mp hpart with rfl | hrest
            · exact ha
            · exact hparts part hrest

/-! ### Following -/

/-- Wherever `p` succeeds, `q` succeeds with the same tokens left over, and the
    two values agree. -/
def Follows (q : Parser τ ε' α') (p : Parser τ ε α) (agree : α → α' → Prop) : Prop :=
  ∀ ts a rest, p ts = .ok (a, rest) → ∃ a', agree a a' ∧ q ts = .ok (a', rest)

theorem follows_pure (a : α) (a' : α') (agree : α → α' → Prop) (h : agree a a') :
    Follows (pure a' : Parser τ ε' α') (pure a : Parser τ ε α) agree := by
  intro ts b rest hout
  rcases Prod.mk.inj (Except.ok.inj hout) with ⟨rfl, rfl⟩
  exact ⟨a', h, rfl⟩

/-- Nothing is asked where the first parser fails. -/
theorem follows_fail (q : Parser τ ε' α') (e : ε) (agree : α → α' → Prop) :
    Follows q (Parser.fail e : Parser τ ε α) agree := by
  intro ts a rest hout
  exact absurd hout (by simp [Parser.fail])

theorem follows_item (e : ε) (e' : ε') :
    Follows (Parser.item e' : Parser τ ε' τ) (Parser.item e : Parser τ ε τ)
      fun t t' => t' = t := by
  intro ts t rest hout
  cases ts with
  | nil => exact absurd hout (by simp [Parser.item])
  | cons first ts =>
      rcases Prod.mk.inj (Except.ok.inj hout) with ⟨rfl, rfl⟩
      exact ⟨first, rfl, rfl⟩

theorem follows_items (e : ε) (e' : ε') (n : Nat) :
    Follows (Parser.items e' n : Parser τ ε' (List τ)) (Parser.items e n : Parser τ ε (List τ))
      fun ts ts' => ts' = ts := by
  intro ts taken rest hout
  refine ⟨taken, rfl, ?_⟩
  by_cases hshort : ts.length < n
  · simp [Parser.items, hshort] at hout
  · simp only [Parser.items, hshort, if_false, Except.ok.injEq, Prod.mk.injEq] at hout ⊢
    exact hout

/-- A sequence is followed by a sequence whose parts follow. -/
theorem follows_bind (q : Parser τ ε' α') (p : Parser τ ε α) (g : α' → Parser τ ε' β')
    (f : α → Parser τ ε β) (agree : α → α' → Prop) (agree' : β → β' → Prop)
    (hp : Follows q p agree) (hf : ∀ a a', agree a a' → Follows (g a') (f a) agree') :
    Follows (q >>= g) (p >>= f) agree' := by
  intro ts b rest hout
  simp only [bind, StateT.bind] at hout ⊢
  rcases hfirst : p ts with e | ⟨a, middle⟩
  · rw [hfirst] at hout
    exact absurd hout (by simp [Except.bind])
  · rw [hfirst] at hout
    -- Both have read up to the same place, and the rest is read from there.
    rcases hp ts a middle hfirst with ⟨a', ha, hq⟩
    rw [hq]
    exact hf a a' ha middle b rest hout

/-- What is made of a value changes nothing about where it ends. -/
theorem follows_build (q : Parser τ ε' α') (p : Parser τ ε α) (agree : α → α' → Prop) (g : α → β)
    (hp : Follows q p agree) :
    Follows q (do let a ← p; pure (g a) : Parser τ ε β) fun _ _ => True := by
  intro ts b rest hout
  simp only [bind, StateT.bind] at hout
  rcases hfirst : p ts with e | ⟨a, middle⟩
  · rw [hfirst] at hout
    exact absurd hout (by simp [Except.bind])
  · rw [hfirst] at hout
    rcases hp ts a middle hfirst with ⟨a', -, hq⟩
    rcases Prod.mk.inj (Except.ok.inj hout) with ⟨-, rfl⟩
    exact ⟨a', trivial, hq⟩

/-- Nor does what is made of the value that follows. -/
theorem follows_result (q : Parser τ ε' α') (p : Parser τ ε α) (agree : α → α' → Prop)
    (g : α' → β') (hp : Follows q p agree) :
    Follows (do let a' ← q; pure (g a') : Parser τ ε' β') p fun _ _ => True := by
  intro ts a rest hout
  rcases hp ts a rest hout with ⟨a', -, hq⟩
  refine ⟨g a', trivial, ?_⟩
  rw [bind_eq_ok_iff]
  exact ⟨a', rest, hq, rfl⟩

/-- Rounds that are followed one by one are followed together. -/
theorem exists_repeatN_of_each (p : Parser τ ε α) (q : Parser τ ε' α') (n : Nat)
    (ts rest : List τ) (as : List α)
    (hq : ∀ a ∈ as, ∀ ts rest, p ts = .ok (a, rest) → ∃ a', q ts = .ok (a', rest))
    (h : Parser.repeatN p n ts = .ok (as, rest)) :
    ∃ as', Parser.repeatN q n ts = .ok (as', rest) := by
  induction n generalizing ts as with
  | zero =>
      rw [Parser.repeatN, pure_eq_ok_iff] at h
      exact ⟨[], by rw [Parser.repeatN, pure_eq_ok_iff]; exact ⟨rfl, h.2⟩⟩
  | succ n ih =>
      simp only [Parser.repeatN, bind_eq_ok_iff, pure_eq_ok_iff] at h ⊢
      rcases h with ⟨a, middle, hfirst, others, last, hothers, rfl, rfl⟩
      rcases hq a List.mem_cons_self ts middle hfirst with ⟨a', hfirst'⟩
      rcases ih middle others (fun b hb => hq b (List.mem_cons_of_mem a hb)) hothers with
        ⟨others', hothers'⟩
      exact ⟨a' :: others', a', middle, hfirst', others', last, hothers', rfl, rfl⟩

/-- As many rounds of the one get as far as so many of the other. -/
theorem follows_repeatN (q : Parser τ ε' α') (p : Parser τ ε α) (n : Nat)
    (hp : Follows q p fun _ _ => True) :
    Follows (Parser.repeatN q n) (Parser.repeatN p n) fun _ _ => True := by
  induction n with
  | zero => exact follows_pure _ _ _ trivial
  | succ n ih =>
      refine follows_bind _ _ _ _ _ _ hp fun a a' _ => ?_
      exact follows_bind _ _ _ _ _ _ ih fun as as' _ => follows_pure _ _ _ trivial

/-- Rounds that are followed with a property of their values. -/
theorem follows_repeatN_of_forall (q : Parser τ ε' α') (p : Parser τ ε α) (n : Nat)
    (has : α' → Prop) (hp : Follows q p fun _ a' => has a') :
    Follows (Parser.repeatN q n) (Parser.repeatN p n) fun _ as' => ∀ a' ∈ as', has a' := by
  induction n with
  | zero => exact follows_pure _ _ _ fun a' ha' => absurd ha' List.not_mem_nil
  | succ n ih =>
      refine follows_bind _ _ _ _ _ _ hp fun a a' ha' => ?_
      refine follows_bind _ _ _ _ _ _ ih fun as as' has' => follows_pure _ _ _ ?_
      intro b hb
      rcases List.mem_cons.mp hb with rfl | hrest
      · exact ha'
      · exact has' b hrest

theorem accepts_of_follows (q : Parser τ ε' α') (p : Parser τ ε α) (agree : α → α' → Prop)
    (ts : List τ) (a : α) (hq : Follows q p agree) (hp : Accepts p ts a) :
    ∃ a', agree a a' ∧ Accepts q ts a' :=
  hq ts a [] hp

/-- A parser that returns the same values decodes what the other one does. -/
theorem decodes_of_follows (q : Parser τ ε' α) (p : Parser τ ε α) (ts : List τ) (a : α)
    (hq : Follows q p fun a a' => a' = a) (hp : Decodes p ts a) : Decodes q ts a := by
  intro rest
  rcases hq (ts ++ rest) a rest (hp rest) with ⟨a', rfl, hout⟩
  exact hout

/-! ### The same end -/

/-- Both succeed on the same tokens, and with the same ones left over. -/
def Alike (q : Parser τ ε' α') (p : Parser τ ε α) : Prop :=
  ∀ ts rest, (∃ a', q ts = .ok (a', rest)) ↔ ∃ a, p ts = .ok (a, rest)

theorem alike_fail (e : ε) (e' : ε') :
    Alike (Parser.fail e' : Parser τ ε' α') (Parser.fail e : Parser τ ε α) := by
  intro ts rest
  simp [Parser.fail]

theorem alike_refl (p : Parser τ ε α) : Alike p p := fun _ _ => Iff.rfl

theorem alike_pure (a : α) (a' : α') :
    Alike (pure a' : Parser τ ε' α') (pure a : Parser τ ε α) := by
  intro ts rest
  simp [pure_eq_ok_iff]

/-- What is made of the values does not matter. -/
theorem alike_build (q : Parser τ ε' α') (p : Parser τ ε α) (g : α' → β') (f : α → β)
    (h : Alike q p) : Alike (do let a' ← q; pure (g a')) (do let a ← p; pure (f a)) := by
  intro ts rest
  simp only [bind_eq_ok_iff, pure_eq_ok_iff]
  constructor
  · rintro ⟨_, a', _, hfirst, rfl, rfl⟩
    rcases (h ts _).1 ⟨a', hfirst⟩ with ⟨a, hfirst'⟩
    exact ⟨f a, a, _, hfirst', rfl, rfl⟩
  · rintro ⟨_, a, _, hfirst, rfl, rfl⟩
    rcases (h ts _).2 ⟨a, hfirst⟩ with ⟨a', hfirst'⟩
    exact ⟨g a', a', _, hfirst', rfl, rfl⟩

theorem alike_made (q : Parser τ ε' α') (p : Parser τ ε α) (f : α → β) (h : Alike q p) :
    Alike q (do let a ← p; pure (f a)) := by
  intro ts rest
  simp only [bind_eq_ok_iff, pure_eq_ok_iff, h ts rest]
  constructor
  · rintro ⟨a, hfirst⟩
    exact ⟨f a, a, rest, hfirst, rfl, rfl⟩
  · rintro ⟨_, a, _, hfirst, rfl, rfl⟩
    exact ⟨a, hfirst⟩

/-- Behind the same reading. -/
theorem alike_bind (p : Parser τ ε α) (g : α → Parser τ ε β') (f : α → Parser τ ε β)
    (h : ∀ a, Alike (g a) (f a)) : Alike (p >>= g) (p >>= f) := by
  intro ts rest
  simp only [bind_eq_ok_iff]
  constructor
  · rintro ⟨b', a, middle, hfirst, hsecond⟩
    rcases (h a middle rest).1 ⟨b', hsecond⟩ with ⟨b, hsecond'⟩
    exact ⟨b, a, middle, hfirst, hsecond'⟩
  · rintro ⟨b, a, middle, hfirst, hsecond⟩
    rcases (h a middle rest).2 ⟨b, hsecond⟩ with ⟨b', hsecond'⟩
    exact ⟨b', a, middle, hfirst, hsecond'⟩

end Codec
