import Dlms.Codec.Incremental

/-!
# Items that are used as they come

Something uses the items of a decoder that is fed piece by piece. It has a state,
something comes of each item, and an item may end all. When the decoder refuses
what is behind some items, these are lost if they have come in the same piece:
only the refusal is looked at.

So the cut makes a difference as soon as anything comes of items in front of a
refusal. Where a refusal is gone on from there is more to it: the octets behind it
are dropped if they are in the same piece, and looked at if they come later, with
the use in any state that the items before the refusal may have left it in.

## Main definitions

* `consume`: Items one after the other.
* `receive`: Pieces one after the other, with what comes of their items.
* `Prompt`: An item is found as soon as it is there.
* `Quiet`: Nothing comes of some octets, wherever they are cut and taken up again.
* `Undropped`: Nothing comes of what may be lost.
* `Cut`: A way to cut octets into pieces.

## Theorems

* `receive_of_ok`: What comes of octets without a refusal.
* `receive_eq_nil`: What comes of quiet ones.
* `exists_delivery`: A cut behind each of some items.
* `impartial_iff`: When the cut makes no difference.
* `forall_cut_iff`: Pieces with something in them are enough.
-/

namespace Codec

variable {τ φ ε σ α : Type}

section Definitions

variable (next : List τ → Verdict τ φ ε) (recovers : ε → Bool)
  (use : φ → σ → List α × Option σ)

/-- Items one after the other, up to one that ends all. -/
def consume : List φ → σ → List α × Option σ
  | [], state => ([], some state)
  | item :: items, state =>
      match use item state with
      | (made, none) => (made, none)
      | (made, some after) =>
          let (more, last) := consume items after
          (made ++ more, last)

/-- Pieces one after the other. The items of a piece are used unless something in
    it is refused. -/
def receive : List (List τ) → List τ → σ → List α
  | [], _, _ => []
  | piece :: later, buffer, state =>
      match drain next (buffer ++ piece) with
      | (items, .ok kept) =>
          match consume use items state with
          | (made, none) => made
          | (made, some after) => made ++ receive later kept after
      | (_, .error cause) => if recovers cause then receive later [] state else []

/-- However the octets are cut, the same comes of them. -/
def Impartial (state : σ) (octets : List τ) : Prop :=
  ∀ pieces : List (List τ), pieces.flatten = octets →
    receive next recovers use pieces [] state = receive next recovers use [octets] [] state

/-- An item is found as soon as it is there. -/
def Prompt : Prop :=
  ∀ buffer item rest, next buffer = .found item rest →
    ∃ front, buffer = front ++ rest ∧ next front = .found item []

/-- Nothing comes of some octets, and nothing of what is behind a refusal in them
    that is gone on from, whichever items before it have been used. -/
inductive Quiet : σ → List τ → Prop
  | intro (state : σ) (octets : List τ)
      (hnow : (consume use (drain next octets).1 state).1 = [])
      (hlater : ∀ before behind items cause front after, octets = before ++ behind →
        drain next before = (items, .error cause) → recovers cause = true →
        front <+: items → (consume use front state).2 = some after → Quiet after behind) :
      Quiet state octets

/-- Nothing comes of items in front of a refusal, nor of what is behind one that is
    gone on from. -/
def Undropped (state : σ) (octets : List τ) : Prop :=
  ∀ before behind items cause, octets = before ++ behind →
    drain next before = (items, .error cause) →
      (consume use items state).1 = [] ∧
        (recovers cause = true → ∀ front after, front <+: items →
          (consume use front state).2 = some after → Quiet next recovers use after behind)

end Definitions

/-! ### Using items -/

section Consuming

variable (use : φ → σ → List α × Option σ)

theorem consume_cons_of_none (item : φ) (items : List φ) (state : σ)
    (h : (use item state).2 = none) :
    consume use (item :: items) state = ((use item state).1, none) := by
  rcases hitem : use item state with ⟨made, last⟩
  rw [hitem] at h
  dsimp only at h
  rw [consume, hitem, h]

theorem consume_cons_of_some (item : φ) (items : List φ) (state after : σ)
    (h : (use item state).2 = some after) :
    consume use (item :: items) state =
      ((use item state).1 ++ (consume use items after).1, (consume use items after).2) := by
  rcases hitem : use item state with ⟨made, last⟩
  rw [hitem] at h
  dsimp only at h
  rw [consume, hitem, h]

/-- Behind an item that ends all, no item is used. -/
theorem consume_append_of_none (items more : List φ) (state : σ)
    (h : (consume use items state).2 = none) :
    consume use (items ++ more) state = consume use items state := by
  induction items generalizing state with
  | nil => exact absurd h (Option.some_ne_none _)
  | cons item items ih =>
      cases hitem : (use item state).2 with
      | none =>
          rw [List.cons_append, consume_cons_of_none use item _ state hitem,
            consume_cons_of_none use item _ state hitem]
      | some after =>
          rw [consume_cons_of_some use item _ state after hitem] at h
          rw [List.cons_append, consume_cons_of_some use item _ state after hitem,
            consume_cons_of_some use item _ state after hitem, ih after h]

theorem consume_append_of_some (items more : List φ) (state after : σ)
    (h : (consume use items state).2 = some after) :
    consume use (items ++ more) state =
      ((consume use items state).1 ++ (consume use more after).1, (consume use more after).2) := by
  induction items generalizing state with
  | nil =>
      rw [← Option.some.inj h]
      rfl
  | cons item items ih =>
      cases hitem : (use item state).2 with
      | none =>
          rw [consume_cons_of_none use item _ state hitem] at h
          exact absurd h.symm (Option.some_ne_none _)
      | some middle =>
          rw [consume_cons_of_some use item _ state middle hitem] at h
          rw [List.cons_append, consume_cons_of_some use item _ state middle hitem,
            consume_cons_of_some use item _ state middle hitem, ih middle h]
          dsimp only
          rw [List.append_assoc]

/-- If nothing comes of some items, nothing comes of the first of them. -/
theorem consume_eq_nil_of_append (items more : List φ) (state : σ)
    (h : (consume use (items ++ more) state).1 = []) : (consume use items state).1 = [] := by
  cases hafter : (consume use items state).2 with
  | none => rwa [consume_append_of_none use items more state hafter] at h
  | some after =>
      rw [consume_append_of_some use items more state after hafter] at h
      exact (List.append_eq_nil_iff.mp h).1

end Consuming

/-! ### One piece -/

section Pieces

variable (next : List τ → Verdict τ φ ε) (recovers : ε → Bool)
  (use : φ → σ → List α × Option σ) (piece buffer : List τ) (later : List (List τ))
  (items : List φ) (state : σ)

theorem receive_of_none (kept : List τ) (hdrain : drain next (buffer ++ piece) = (items, .ok kept))
    (hnone : (consume use items state).2 = none) :
    receive next recovers use (piece :: later) buffer state = (consume use items state).1 := by
  rcases hconsume : consume use items state with ⟨made, last⟩
  rw [hconsume] at hnone
  dsimp only at hnone
  rw [receive, hdrain]
  dsimp only
  rw [hconsume, hnone]

theorem receive_of_some (kept : List τ) (after : σ)
    (hdrain : drain next (buffer ++ piece) = (items, .ok kept))
    (hafter : (consume use items state).2 = some after) :
    receive next recovers use (piece :: later) buffer state =
      (consume use items state).1 ++ receive next recovers use later kept after := by
  rcases hconsume : consume use items state with ⟨made, last⟩
  rw [hconsume] at hafter
  dsimp only at hafter
  rw [receive, hdrain]
  dsimp only
  rw [hconsume, hafter]

theorem receive_of_recovers (cause : ε)
    (hdrain : drain next (buffer ++ piece) = (items, .error cause))
    (hrecovers : recovers cause = true) :
    receive next recovers use (piece :: later) buffer state =
      receive next recovers use later [] state := by
  rw [receive, hdrain]
  dsimp only
  rw [if_pos hrecovers]

theorem receive_of_refused (cause : ε)
    (hdrain : drain next (buffer ++ piece) = (items, .error cause))
    (hrecovers : recovers cause = false) :
    receive next recovers use (piece :: later) buffer state = [] := by
  rw [receive, hdrain]
  dsimp only
  rw [if_neg (by rw [hrecovers]; exact Bool.false_ne_true)]

end Pieces

/-! ### All pieces -/

section Receiving

variable (next : List τ → Verdict τ φ ε) (h : Incremental next) (recovers : ε → Bool)
  (use : φ → σ → List α × Option σ)
include h

/-- Without a refusal all items are used, however they are cut. -/
theorem receive_of_ok (pieces : List (List τ)) (buffer kept : List τ) (items : List φ)
    (state : σ) (hbuffer : next buffer = .wait buffer)
    (hdrain : drain next (buffer ++ pieces.flatten) = (items, .ok kept)) :
    receive next recovers use pieces buffer state = (consume use items state).1 := by
  induction pieces generalizing buffer items state with
  | nil =>
      rw [List.flatten_nil, List.append_nil, drain_of_wait next buffer buffer hbuffer] at hdrain
      rw [← (Prod.mk.inj hdrain).1]
      rfl
  | cons piece later ih =>
      rw [List.flatten_cons, ← List.append_assoc] at hdrain
      rcases hpiece : drain next (buffer ++ piece) with ⟨found, cause | middle⟩
      · rw [drain_append_refused next h _ later.flatten found cause hpiece] at hdrain
        exact absurd (Prod.mk.inj hdrain).2 (by simp)
      · rw [drain_append next h _ later.flatten middle found hpiece] at hdrain
        rcases Prod.mk.inj hdrain with ⟨rfl, hlast⟩
        cases hafter : (consume use found state).2 with
        | none =>
            rw [receive_of_none next recovers use piece buffer later found state middle hpiece
              hafter, consume_append_of_none use found _ state hafter]
        | some after =>
            rw [receive_of_some next recovers use piece buffer later found state middle after
              hpiece hafter, consume_append_of_some use found _ state after hafter]
            rw [ih middle (drain next (middle ++ later.flatten)).1 after
              (next_of_drain next h _ middle found hpiece) (Prod.ext rfl hlast)]

/-- Nothing comes of quiet octets. The induction is on the pieces still to come;
    those since the last refusal have been drained to what is kept. -/
theorem receive_eq_nil (pieces : List (List τ)) (done buffer : List τ) (items : List φ)
    (state after : σ) (hdone : drain next done = (items, .ok buffer))
    (hafter : (consume use items state).2 = some after)
    (hnow : (consume use (drain next (done ++ pieces.flatten)).1 state).1 = [])
    (hlater : ∀ before behind items cause front after,
      done ++ pieces.flatten = before ++ behind → drain next before = (items, .error cause) →
      recovers cause = true → front <+: items → (consume use front state).2 = some after →
      Quiet next recovers use after behind) :
    receive next recovers use pieces buffer after = [] := by
  induction pieces generalizing done buffer items state after with
  | nil => rfl
  | cons piece later ih =>
      rw [List.flatten_cons, ← List.append_assoc] at hnow hlater
      rcases hpiece : drain next (buffer ++ piece) with ⟨found, cause | kept⟩
      · by_cases hrecovers : recovers cause = true
        · -- The items of the piece are lost, and what is behind it is quiet.
          rw [receive_of_recovers next recovers use piece buffer later found after cause hpiece
            hrecovers]
          have hrefused : drain next (done ++ piece) = (items ++ found, .error cause) := by
            rw [drain_append next h done piece buffer items hdone, hpiece]
          have hquiet := hlater (done ++ piece) later.flatten _ cause items after rfl hrefused
            hrecovers (List.prefix_append items found) hafter
          cases hquiet with
          | intro _ _ hnow' hlater' =>
              exact ih [] [] [] after after (drain_of_wait next [] [] h.empty) rfl hnow' hlater'
        · exact receive_of_refused next recovers use piece buffer later found after cause hpiece
            (Bool.eq_false_iff.mpr hrecovers)
      · have hdrain : drain next (done ++ piece) = (items ++ found, .ok kept) := by
          rw [drain_append next h done piece buffer items hdone, hpiece]
        have hnone : (consume use found after).1 = [] := by
          rw [drain_append next h _ later.flatten kept _ hdrain] at hnow
          have hfront := consume_eq_nil_of_append use _ _ state hnow
          rw [consume_append_of_some use items found state after hafter] at hfront
          exact (List.append_eq_nil_iff.mp hfront).2
        cases hlast : (consume use found after).2 with
        | none =>
            rw [receive_of_none next recovers use piece buffer later found after kept hpiece hlast,
              hnone]
        | some last =>
            rw [receive_of_some next recovers use piece buffer later found after kept last hpiece
              hlast, hnone, List.nil_append]
            refine ih (done ++ piece) kept (items ++ found) state last hdrain ?_ hnow hlater
            rw [consume_append_of_some use items found state after hafter, hlast]

section Items

variable (head : List τ) (item : φ) (later : List (List τ)) (state : σ)
  (hhead : next head = .found item [])
include hhead

theorem drain_item : drain next ([] ++ head) = ([item], .ok []) := by
  rw [List.nil_append, drain_of_found next h head [] item hhead, drain_of_wait next [] [] h.empty]

/-- A piece that is one item, which ends all. -/
theorem receive_item_of_none (hends : (use item state).2 = none) :
    receive next recovers use (head :: later) [] state = (use item state).1 := by
  have hone := consume_cons_of_none use item [] state hends
  rw [receive_of_none next recovers use head [] later [item] state []
    (drain_item next h head item hhead) (by rw [hone]), hone]

/-- A piece that is one item, and the pieces behind it. -/
theorem receive_item_of_some (after : σ) (hafter : (use item state).2 = some after) :
    receive next recovers use (head :: later) [] state =
      (use item state).1 ++ receive next recovers use later [] after := by
  have hone := consume_cons_of_some use item [] state after hafter
  rw [receive_of_some next recovers use head [] later [item] state [] after
    (drain_item next h head item hhead) (by rw [hone]; rfl), hone]
  dsimp only [consume]
  rw [List.append_nil]

end Items

variable (hprompt : Prompt next)
include hprompt

/-- A cut behind each of some items: they are used, whatever is behind them. The
    induction is on the items. -/
theorem exists_delivery (octets : List τ) (items front : List φ) (outcome : Except ε (List τ))
    (hdrain : drain next octets = (items, outcome)) (hfront : front <+: items) :
    ∃ pieces rest, octets = pieces.flatten ++ rest ∧ (drain next rest).2 = outcome ∧
      (∀ later state, (consume use front state).2 = none →
        receive next recovers use (pieces ++ later) [] state = (consume use front state).1) ∧
      ∀ later state after, (consume use front state).2 = some after →
        receive next recovers use (pieces ++ later) [] state =
          (consume use front state).1 ++ receive next recovers use later [] after := by
  induction front generalizing octets items with
  | nil =>
      refine ⟨[], octets, rfl, by rw [hdrain], ?_, ?_⟩
      · intro later state hnone
        exact absurd hnone (Option.some_ne_none _)
      · intro later state after hafter
        rw [← Option.some.inj hafter]
        rfl
  | cons item front ih =>
      rcases hfront with ⟨tail, rfl⟩
      cases hnext : next octets with
      | wait kept =>
          rw [drain_of_wait next octets kept hnext] at hdrain
          exact absurd (Prod.mk.inj hdrain).1.symm (List.cons_ne_nil _ _)
      | refused cause =>
          rw [drain_of_refused next octets cause hnext] at hdrain
          exact absurd (Prod.mk.inj hdrain).1.symm (List.cons_ne_nil _ _)
      | found found rest =>
          rw [drain_of_found next h octets rest found hnext] at hdrain
          rcases Prod.mk.inj hdrain with ⟨hitems, houtcome⟩
          rcases List.cons.inj hitems with ⟨rfl, htail⟩
          -- The first piece ends where the first item is complete.
          rcases hprompt octets found rest hnext with ⟨head, rfl, hhead⟩
          rcases ih rest (front ++ tail) (Prod.ext htail houtcome)
            (List.prefix_append front tail) with ⟨pieces, last, rfl, hlast, hnone, hsome⟩
          refine ⟨head :: pieces, last, ?_, hlast, ?_, ?_⟩
          · rw [List.flatten_cons, List.append_assoc]
          · intro later state hends
            rw [List.cons_append]
            cases hused : (use found state).2 with
            | none =>
                rw [receive_item_of_none next h recovers use head found _ state hhead hused,
                  consume_cons_of_none use found front state hused]
            | some middle =>
                rw [consume_cons_of_some use found front state middle hused] at hends ⊢
                rw [receive_item_of_some next h recovers use head found _ state hhead middle hused,
                  hnone later middle hends]
          · intro later state after hafter
            rw [List.cons_append]
            cases hused : (use found state).2 with
            | none =>
                rw [consume_cons_of_none use found front state hused] at hafter
                exact absurd hafter.symm (Option.some_ne_none _)
            | some middle =>
                rw [consume_cons_of_some use found front state middle hused] at hafter ⊢
                rw [receive_item_of_some next h recovers use head found _ state hhead middle hused,
                  hsome later middle after hafter, List.append_assoc]

/-- All that comes of the items of some octets can be had first. -/
theorem exists_prefix (octets : List τ) (items : List φ) (outcome : Except ε (List τ))
    (state : σ) (hdrain : drain next octets = (items, outcome)) :
    ∃ pieces rest, octets = pieces.flatten ++ rest ∧ ∀ later,
      (consume use items state).1 <+: receive next recovers use (pieces ++ later) [] state := by
  rcases exists_delivery next h recovers use hprompt octets items items outcome hdrain
    (List.prefix_refl items) with ⟨pieces, rest, hsplit, -, hnone, hsome⟩
  refine ⟨pieces, rest, hsplit, fun later => ?_⟩
  cases hlast : (consume use items state).2 with
  | none => rw [hnone later state hlast]
  | some after =>
      rw [hsome later state after hlast]
      exact List.prefix_append _ _

/-- Octets with a refusal that is gone on from, and a cut by which the pieces behind
    them find the state that some of the items have left. -/
theorem exists_loss (octets : List τ) (items front : List φ) (cause : ε) (state after : σ)
    (hrefused : drain next octets = (items, .error cause)) (hrecovers : recovers cause = true)
    (hfront : front <+: items) (hafter : (consume use front state).2 = some after) :
    ∃ pieces : List (List τ), pieces.flatten = octets ∧ ∀ later,
      receive next recovers use (pieces ++ later) [] state =
        (consume use front state).1 ++ receive next recovers use later [] after := by
  rcases exists_delivery next h recovers use hprompt octets items front (.error cause)
    hrefused hfront with ⟨pieces, rest, rfl, hrest, -, hsome⟩
  refine ⟨pieces ++ [rest], ?_, fun later => ?_⟩
  · rw [List.flatten_append, List.flatten_cons, List.flatten_nil, List.append_nil]
  · rw [List.append_assoc, hsome ([rest] ++ later) state after hafter, List.singleton_append,
      receive_of_recovers next recovers use rest [] later (drain next rest).1 after cause
        (by rw [List.nil_append, ← hrest]) hrecovers]

/-- Octets of which nothing comes, however they are cut, are quiet. The induction is
    on their number. -/
theorem quiet_of_forall (octets : List τ) (state : σ)
    (hnothing : ∀ pieces : List (List τ), pieces.flatten = octets →
      receive next recovers use pieces [] state = []) : Quiet next recovers use state octets := by
  induction hlength : octets.length using Nat.strongRecOn generalizing octets state with
  | ind length ih =>
      refine .intro state octets ?_ ?_
      · rcases hdrain : drain next octets with ⟨items, outcome⟩
        rcases exists_prefix next h recovers use hprompt octets items outcome state hdrain with
          ⟨pieces, rest, hsplit, hprefix⟩
        have hcut := hnothing (pieces ++ [rest]) (by
          rw [List.flatten_append, hsplit, List.flatten_cons, List.flatten_nil, List.append_nil])
        have hall := hprefix [rest]
        rw [hcut] at hall
        exact List.prefix_nil.mp hall
      · rintro before behind items cause front after rfl hrefused hrecovers hfront hafter
        -- What is refused is not empty, so there are fewer octets behind it.
        have hsome : before ≠ [] := by
          rintro rfl
          rw [drain_of_wait next [] [] h.empty] at hrefused
          exact absurd (Prod.mk.inj hrefused).2 (by
            simp)
        have hpositive := List.length_pos_iff.mpr hsome
        rcases exists_loss next h recovers use hprompt before items front cause state after
          hrefused hrecovers hfront hafter with ⟨pieces, hpieces, hloss⟩
        refine ih behind.length ?_ behind after ?_ rfl
        · rw [← hlength, List.length_append]
          omega
        · rintro more rfl
          have hcut := hnothing (pieces ++ more) (by rw [List.flatten_append, hpieces])
          rw [hloss more] at hcut
          exact (List.append_eq_nil_iff.mp hcut).2

/-- The cut makes no difference exactly when nothing comes of what may be lost. -/
theorem impartial_iff (octets : List τ) (state : σ) :
    Impartial next recovers use state octets ↔ Undropped next recovers use state octets := by
  constructor
  · rintro hsame before behind items cause rfl hrefused
    -- In one piece everything is lost.
    have hwhole : receive next recovers use [before ++ behind] [] state = [] := by
      have hall := drain_append_refused next h before behind items cause hrefused
      cases hrecovers : recovers cause with
      | true =>
          exact receive_of_recovers next recovers use _ [] [] items state cause hall hrecovers
      | false => exact receive_of_refused next recovers use _ [] [] items state cause hall hrecovers
    constructor
    · rcases exists_prefix next h recovers use hprompt before items (.error cause) state
        hrefused with ⟨pieces, rest, rfl, hprefix⟩
      have hcut := hsame (pieces ++ [rest, behind]) (by
        simp [List.flatten_append])
      have hall := hprefix [rest, behind]
      rw [hcut, hwhole] at hall
      exact List.prefix_nil.mp hall
    · intro hrecovers front after hfront hafter
      rcases exists_loss next h recovers use hprompt before items front cause state after
        hrefused hrecovers hfront hafter with ⟨pieces, hpieces, hloss⟩
      refine quiet_of_forall next h recovers use hprompt behind after ?_
      rintro more rfl
      have hcut := hsame (pieces ++ more) (by rw [List.flatten_append, hpieces])
      rw [hwhole, hloss more] at hcut
      exact (List.append_eq_nil_iff.mp hcut).2
  · rintro hundropped pieces rfl
    rcases hdrain : drain next pieces.flatten with ⟨items, cause | kept⟩
    · -- With a refusal nothing comes of them in either way.
      have hnothing := (hundropped pieces.flatten [] items cause
        (List.append_nil _).symm hdrain).1
      have hempty : ∀ others : List (List τ), others.flatten = pieces.flatten →
          receive next recovers use others [] state = [] := by
        intro others hothers
        refine receive_eq_nil next h recovers use others [] [] [] state state
          (drain_of_wait next [] [] h.empty) rfl ?_ ?_
        · rw [List.nil_append, hothers, hdrain]
          exact hnothing
        · intro before behind found other front after hsplit hrefused hrecovers hfront hafter
          rw [List.nil_append, hothers] at hsplit
          exact (hundropped before behind found other hsplit hrefused).2 hrecovers front after
            hfront hafter
      rw [hempty pieces rfl, hempty [pieces.flatten] (by
        rw [List.flatten_cons, List.flatten_nil, List.append_nil])]
    · rw [receive_of_ok next h recovers use pieces [] kept items state h.empty (by
        rw [List.nil_append, hdrain]), receive_of_ok next h recovers use [pieces.flatten] [] kept
        items state h.empty (by
          rw [List.flatten_cons, List.flatten_nil, List.append_nil, List.nil_append, hdrain])]

end Receiving

/-! ### Pieces with something in them -/

/-- A way to cut octets into pieces, none of them empty. -/
structure Cut (octets : List τ) (pieces : List (List τ)) : Prop where
  whole : pieces.flatten = octets
  nonempty : [] ∉ pieces

theorem cut_filter (pieces : List (List τ)) :
    Cut pieces.flatten (pieces.filter fun piece => !piece.isEmpty) where
  whole := List.flatten_filter_not_isEmpty
  nonempty := by
    intro hmem
    exact absurd (List.mem_filter.mp hmem).2 Bool.false_ne_true

section Cuts

variable (next : List τ → Verdict τ φ ε) (h : Incremental next) (recovers : ε → Bool)
  (use : φ → σ → List α × Option σ)
include h

/-- A piece without octets brings nothing. -/
theorem receive_filter (pieces : List (List τ)) (buffer : List τ) (state : σ)
    (hbuffer : next buffer = .wait buffer) :
    receive next recovers use (pieces.filter fun piece => !piece.isEmpty) buffer state =
      receive next recovers use pieces buffer state := by
  induction pieces generalizing buffer state with
  | nil => rfl
  | cons piece later ih =>
      cases piece with
      | nil =>
          have hdrain : drain next (buffer ++ []) = ([], .ok buffer) := by
            rw [List.append_nil, drain_of_wait next buffer buffer hbuffer]
          rw [List.filter_cons_of_neg (by simp), ih buffer state hbuffer,
            receive_of_some next recovers use [] buffer later [] state buffer state hdrain rfl]
          rfl
      | cons first piece =>
          rw [List.filter_cons_of_pos rfl]
          rcases hdrain : drain next (buffer ++ first :: piece) with ⟨items, cause | kept⟩
          · cases hrecovers : recovers cause with
            | true =>
                rw [receive_of_recovers next recovers use _ _ _ items state cause hdrain hrecovers,
                  receive_of_recovers next recovers use _ _ _ items state cause hdrain hrecovers,
                  ih [] state h.empty]
            | false =>
                rw [receive_of_refused next recovers use _ _ _ items state cause hdrain hrecovers,
                  receive_of_refused next recovers use _ _ _ items state cause hdrain hrecovers]
          · cases hlast : (consume use items state).2 with
            | none =>
                rw [receive_of_none next recovers use _ _ _ items state kept hdrain hlast,
                  receive_of_none next recovers use _ _ _ items state kept hdrain hlast]
            | some after =>
                rw [receive_of_some next recovers use _ _ _ items state kept after hdrain hlast,
                  receive_of_some next recovers use _ _ _ items state kept after hdrain hlast,
                  ih kept after (next_of_drain next h _ kept items hdrain)]

/-- Pieces with something in them are enough. -/
theorem forall_cut_iff (octets : List τ) (state : σ) :
    (∀ pieces others, Cut octets pieces → Cut octets others →
      receive next recovers use pieces [] state = receive next recovers use others [] state) ↔
      Impartial next recovers use state octets := by
  constructor
  · rintro hsame pieces rfl
    have hwhole := cut_filter [pieces.flatten]
    rw [List.flatten_cons, List.flatten_nil, List.append_nil] at hwhole
    rw [← receive_filter next h recovers use pieces [] state h.empty,
      ← receive_filter next h recovers use [pieces.flatten] [] state h.empty]
    exact hsame _ _ (cut_filter pieces) hwhole
  · intro hcuts pieces others hpieces hothers
    rw [hcuts pieces hpieces.whole, hcuts others hothers.whole]

end Cuts

end Codec
