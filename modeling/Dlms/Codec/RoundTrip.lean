import Dlms.Codec.Parser
import Dlms.Codec.Emitter

/-!
# Round trips of an emitter and a parser

An encoder and a decoder are two programs, and nothing but their fields ties
them together. What is asked of such a pair is that the decoder returns what
the encoder was given. Neither of the two needs its bytes spelled out for that:
it is enough that there are some tokens which the one emits and the other
reads.

`Conveys` says so for a value that stands in the middle of a message. The
parser consumes exactly what was emitted, whatever follows, so the encoding is
self-delimiting, and two such facts compose along the two sequences of reads
and writes. `Delivers` is for a whole message, whose last read may take
everything that is left.

## Main definitions

* `Conveys`: The emitter writes tokens that the parser reads back as a value.
* `Delivers`: The same for a parser of a whole input.

## Theorems

* `conveys_bind`, `conveys_pure`, `conveys_map`: Conveying composes.
* `conveys_repeatN_map`, `conveys_repeatN`: A list is conveyed element by element.
* `delivers_bind`, `delivers_atEnd`, `delivers_of_conveys`: So does delivering.
* `emits_unique`: What is emitted is decided by the emitter.
* `runEmitter_of_conveys`: What a caller with a bounded buffer gets.
-/

namespace Codec

variable {τ ε α β : Type}

/-- The emitter writes tokens of which the parser, whatever follows them,
    consumes exactly those and returns the value. -/
def Conveys (full : ε) (e : Emitter τ ε Unit) (p : Parser τ ε α) (a : α) : Prop :=
  ∃ ts, Emits full e ts ∧ Decodes p ts a

/-- The emitter writes tokens that the parser accepts as a whole input. -/
def Delivers (full : ε) (e : Emitter τ ε Unit) (p : Parser τ ε α) (a : α) : Prop :=
  ∃ ts, Emits full e ts ∧ Accepts p ts a

section Conveys

variable (full : ε) (e f : Emitter τ ε Unit) (p : Parser τ ε α)

theorem conveys_pure (a : α) : Conveys full (pure ()) (pure a : Parser τ ε α) a :=
  ⟨[], emits_nil full, decodes_pure a⟩

theorem conveys_bind (q : α → Parser τ ε β) (a : α) (b : β) (hfirst : Conveys full e p a)
    (hrest : Conveys full f (q a) b) : Conveys full (e >>= fun _ => f) (p >>= q) b := by
  rcases hfirst with ⟨ts, hemits, hdecodes⟩
  rcases hrest with ⟨us, hemitsRest, hdecodesRest⟩
  exact ⟨ts ++ us, emits_bind full e f ts us hemits hemitsRest,
    decodes_bind p q ts us a b hdecodes hdecodesRest⟩

theorem conveys_map (g : α → β) (a : α) (h : Conveys full e p a) :
    Conveys full e (g <$> p) (g a) := by
  rcases h with ⟨ts, hemits, hdecodes⟩
  exact ⟨ts, hemits, decodes_map p g ts a hdecodes⟩

/-- The last read of a record, in front of the one that builds it. -/
theorem conveys_build (g : α → β) (a : α) (h : Conveys full e p a) :
    Conveys full e (do let b ← p; pure (g b)) (g a) := by
  rcases h with ⟨ts, hemits, hdecodes⟩
  refine ⟨ts, hemits, ?_⟩
  rw [← List.append_nil ts]
  exact decodes_bind p _ ts [] a (g a) hdecodes (decodes_pure _)

/-- The elements of a list are conveyed one after another, each as something made
    of it. The induction is on the list, and both loops take one element in a
    step. -/
theorem conveys_repeatN_map (enc : β → Emitter τ ε Unit) (g : β → α) (bs : List β)
    (h : ∀ b ∈ bs, Conveys full (enc b) p (g b)) :
    Conveys full (Emitter.forEach enc bs) (Parser.repeatN p bs.length) (bs.map g) := by
  induction bs with
  | nil => exact conveys_pure full []
  | cons b bs ih =>
      have hhead := h b List.mem_cons_self
      have htail := ih fun c hc => h c (List.mem_cons_of_mem b hc)
      rw [List.length_cons, Parser.repeatN, Emitter.forEach, List.map_cons]
      exact conveys_bind full _ _ _ _ _ _ hhead
        (conveys_build full _ _ (g b :: ·) (bs.map g) htail)

theorem conveys_repeatN (enc : α → Emitter τ ε Unit) (as : List α)
    (h : ∀ a ∈ as, Conveys full (enc a) p a) :
    Conveys full (Emitter.forEach enc as) (Parser.repeatN p as.length) as := by
  have hmap := conveys_repeatN_map full p enc id as h
  rwa [List.map_id] at hmap

/-- What is conveyed is delivered, with nothing behind it. -/
theorem delivers_of_conveys (a : α) (h : Conveys full e p a) : Delivers full e p a := by
  rcases h with ⟨ts, hemits, hdecodes⟩
  exact ⟨ts, hemits, accepts_of_decodes p ts a hdecodes⟩

theorem delivers_bind (q : α → Parser τ ε β) (a : α) (b : β) (hfirst : Conveys full e p a)
    (hrest : Delivers full f (q a) b) : Delivers full (e >>= fun _ => f) (p >>= q) b := by
  rcases hfirst with ⟨ts, hemits, hdecodes⟩
  rcases hrest with ⟨us, hemitsRest, haccepts⟩
  exact ⟨ts ++ us, emits_bind full e f ts us hemits hemitsRest,
    accepts_bind p q ts us a b hdecodes haccepts⟩

/-- The last read of a message, in front of the check that it is the last. -/
theorem delivers_atEnd (err : ε) (g : α → β) (a : α) (h : Conveys full e p a) :
    Delivers full e (do let b ← p; Parser.atEnd err; pure (g b)) (g a) := by
  rcases h with ⟨ts, hemits, hdecodes⟩
  exact ⟨ts, hemits, accepts_atEnd p err g ts a (accepts_of_decodes p ts a hdecodes)⟩

/-- An emitter emits one list only. -/
theorem emits_unique (ts us : List τ) (hts : Emits full e ts) (hus : Emits full e us) :
    ts = us := by
  have hrun := runEmitter_of_emits full (max ts.length us.length) e ts hts
  rw [runEmitter_of_emits full (max ts.length us.length) e us hus, if_pos (Nat.le_max_right ..),
    if_pos (Nat.le_max_left ..)] at hrun
  exact (Except.ok.inj hrun).symm

theorem accepts_of_delivers (ts : List τ) (a : α) (h : Delivers full e p a)
    (hts : Emits full e ts) : Accepts p ts a := by
  rcases h with ⟨us, hus, haccepts⟩
  rw [emits_unique full e ts us hts hus]
  exact haccepts

/-- A caller with a buffer gets the tokens when they fit in it and an error
    otherwise, and the parser takes them out of any longer input. -/
theorem runEmitter_of_conveys (a : α) (h : Conveys full e p a) :
    ∃ ts, (∀ capacity, runEmitter capacity e =
        if ts.length ≤ capacity then .ok ts else .error full) ∧
      ∀ rest, p (ts ++ rest) = .ok (a, rest) := by
  rcases h with ⟨ts, hemits, hdecodes⟩
  exact ⟨ts, fun capacity => runEmitter_of_emits full capacity e ts hemits, hdecodes⟩

end Conveys

end Codec
