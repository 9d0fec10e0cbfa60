import Mathlib.Data.List.Infix

/-!
# Decoders that are fed piece by piece

A decoder keeps the octets that it cannot decide on yet. When more come it tries
again: it finds an item at the start of what it has, or refuses it, or waits. It
goes on until it waits or refuses.

Where the pieces are cut makes no difference as long as one try does not depend
on what comes later. An item that has been found is found with more octets behind
it too, what has been refused stays refused, and octets that are thrown away
while it waits would have been thrown away later as well.

A decoder may go on after it has refused something, with nothing kept. Then the
cut makes a difference: what comes in the same piece is thrown away with what is
refused, and what comes later is not.

## Main definitions

* `Verdict`: What one try comes to.
* `Incremental`: A try does not depend on what comes later.
* `drain`: All items at the start of what there is.
* `feed`: Pieces one after the other, with or without going on.
* `Barren`: Octets that bring nothing wherever they are begun.

## Theorems

* `drain_append`: Draining in two goes.
* `feed_eq_drain`: Where nothing is refused and gone on from, the cut makes no
  difference.
* `feed_iff`: What has to be behind that which is refused and gone on from.
-/

namespace Codec

variable {τ φ ε : Type}

/-- One try: wait with what is kept, an item with what is behind it, or a
    refusal. -/
inductive Verdict (τ φ ε : Type) where
  | wait (kept : List τ)
  | found (item : φ) (rest : List τ)
  | refused (cause : ε)

/-- A verdict with more octets behind those it was about. -/
def Verdict.extend (verdict : Verdict τ φ ε) (more : List τ) : Verdict τ φ ε :=
  match verdict with
  | .wait kept => .wait (kept ++ more)
  | .found item rest => .found item (rest ++ more)
  | .refused cause => .refused cause

/-- A try does not depend on what comes later. -/
structure Incremental (next : List τ → Verdict τ φ ε) : Prop where
  empty : next [] = .wait []
  suffix : ∀ buffer kept, next buffer = .wait kept → kept <:+ buffer
  settled : ∀ buffer kept, next buffer = .wait kept → next kept = .wait kept
  wait : ∀ buffer kept, next buffer = .wait kept → ∀ more,
    next (buffer ++ more) = next (kept ++ more)
  shorter : ∀ buffer item rest, next buffer = .found item rest → rest.length < buffer.length
  found : ∀ buffer item rest, next buffer = .found item rest → ∀ more,
    next (buffer ++ more) = .found item (rest ++ more)
  refused : ∀ buffer cause, next buffer = .refused cause → ∀ more,
    next (buffer ++ more) = .refused cause

section Draining

variable (next : List τ → Verdict τ φ ε)

/-- So many tries at most. -/
def drainWithin : Nat → List τ → List φ × Except ε (List τ)
  | 0, buffer => ([], .ok buffer)
  | fuel + 1, buffer =>
      match next buffer with
      | .wait kept => ([], .ok kept)
      | .refused cause => ([], .error cause)
      | .found item rest =>
          let (items, outcome) := drainWithin fuel rest
          (item :: items, outcome)

/-- All items at the start, with what is kept in the end or the refusal. -/
def drain (buffer : List τ) : List φ × Except ε (List τ) :=
  drainWithin next (buffer.length + 1) buffer

/-- Nothing is kept of what has been refused. -/
def residue (outcome : Except ε (List τ)) : List τ :=
  match outcome with
  | .ok kept => kept
  | .error _ => []

/-- Pieces one after the other, up to the first refusal that it does not go on
    from. -/
def feed (recovers : ε → Bool) : List (List τ) → List τ → List φ × Except ε (List τ)
  | [], buffer => ([], .ok buffer)
  | piece :: later, buffer =>
      match drain next (buffer ++ piece) with
      | (items, .ok kept) =>
          let (more, outcome) := feed recovers later kept
          (items ++ more, outcome)
      | (items, .error cause) =>
          if recovers cause then
            let (more, outcome) := feed recovers later []
            (items ++ more, outcome)
          else (items, .error cause)

end Draining

section Incremental

variable (next : List τ → Verdict τ φ ε) (h : Incremental next)
include h

/-- There are enough tries: more of them change nothing. -/
theorem drainWithin_more (fuel more : Nat) (buffer : List τ) (hfuel : buffer.length < fuel) :
    drainWithin next (fuel + more) buffer = drainWithin next fuel buffer := by
  induction fuel generalizing buffer with
  | zero => exact absurd hfuel (Nat.not_lt_zero _)
  | succ fuel ih =>
      rw [Nat.succ_add]
      unfold drainWithin
      cases hnext : next buffer with
      | wait kept => rfl
      | refused cause => rfl
      | found item rest =>
          have hshorter := h.shorter buffer item rest hnext
          dsimp only
          rw [ih rest (by omega)]

theorem drain_of_found (buffer rest : List τ) (item : φ) (hnext : next buffer = .found item rest) :
    drain next buffer = (item :: (drain next rest).1, (drain next rest).2) := by
  have hshorter := h.shorter buffer item rest hnext
  have hfuel : buffer.length = rest.length + 1 + (buffer.length - (rest.length + 1)) := by omega
  rw [drain, drainWithin, hnext]
  dsimp only
  rw [hfuel, drainWithin_more next h (rest.length + 1) _ rest (Nat.lt_succ_self _)]
  rfl

omit h in
theorem drain_of_wait (buffer kept : List τ) (hnext : next buffer = .wait kept) :
    drain next buffer = ([], .ok kept) := by
  rw [drain, drainWithin, hnext]

omit h in
theorem drain_of_refused (buffer : List τ) (cause : ε) (hnext : next buffer = .refused cause) :
    drain next buffer = ([], .error cause) := by
  rw [drain, drainWithin, hnext]

/-- What is drained depends on the first try only. -/
theorem drain_congr (buffer other : List τ) (hsame : next buffer = next other) :
    drain next buffer = drain next other := by
  cases hnext : next other with
  | wait kept =>
      rw [drain_of_wait next buffer kept (hsame.trans hnext), drain_of_wait next other kept hnext]
  | refused cause =>
      rw [drain_of_refused next buffer cause (hsame.trans hnext),
        drain_of_refused next other cause hnext]
  | found item rest =>
      rw [drain_of_found next h buffer rest item (hsame.trans hnext),
        drain_of_found next h other rest item hnext]

/-- Induction on a drain: after an item it goes on with the rest, which is
    shorter. -/
theorem drain_induction (motive : List τ → List φ → Except ε (List τ) → Prop)
    (wait : ∀ buffer kept, next buffer = .wait kept → motive buffer [] (.ok kept))
    (refused : ∀ buffer cause, next buffer = .refused cause → motive buffer [] (.error cause))
    (found : ∀ buffer item rest items outcome, next buffer = .found item rest →
      motive rest items outcome → motive buffer (item :: items) outcome)
    (buffer : List τ) : motive buffer (drain next buffer).1 (drain next buffer).2 := by
  induction hlength : buffer.length using Nat.strongRecOn generalizing buffer with
  | ind length ih =>
      cases hnext : next buffer with
      | wait kept =>
          rw [drain_of_wait next buffer kept hnext]
          exact wait buffer kept hnext
      | refused cause =>
          rw [drain_of_refused next buffer cause hnext]
          exact refused buffer cause hnext
      | found item rest =>
          have hshorter := h.shorter buffer item rest hnext
          rw [drain_of_found next h buffer rest item hnext]
          exact found buffer item rest _ _ hnext (ih rest.length (by omega) rest rfl)

/-- What is kept is drained together with what comes. -/
theorem drain_append (buffer more kept : List τ) (items : List φ)
    (hdrain : drain next buffer = (items, .ok kept)) :
    drain next (buffer ++ more) =
      (items ++ (drain next (kept ++ more)).1, (drain next (kept ++ more)).2) := by
  have hall := drain_induction next h
    (fun buffer items outcome => outcome = .ok kept → drain next (buffer ++ more) =
      (items ++ (drain next (kept ++ more)).1, (drain next (kept ++ more)).2))
    (fun buffer later hnext hkept => by
      rw [Except.ok.inj hkept] at hnext
      rw [drain_congr next h _ _ (h.wait buffer kept hnext more), List.nil_append])
    (fun buffer cause hnext hkept => by cases hkept)
    (fun buffer item rest items outcome hnext ih hkept => by
      rw [drain_of_found next h _ _ item (h.found buffer item rest hnext more), ih hkept,
        List.cons_append]) buffer
  rw [hdrain] at hall
  exact hall rfl

/-- What has been refused stays refused, behind the same items. -/
theorem drain_append_refused (buffer more : List τ) (items : List φ) (cause : ε)
    (hdrain : drain next buffer = (items, .error cause)) :
    drain next (buffer ++ more) = (items, .error cause) := by
  have hall := drain_induction next h
    (fun buffer items outcome => outcome = .error cause →
      drain next (buffer ++ more) = (items, outcome))
    (fun buffer kept hnext hcause => by cases hcause)
    (fun buffer other hnext hcause =>
      drain_of_refused next _ other (h.refused buffer other hnext more))
    (fun buffer item rest items outcome hnext ih hcause => by
      rw [drain_of_found next h _ _ item (h.found buffer item rest hnext more), ih hcause]) buffer
  rw [hdrain] at hall
  exact hall rfl

/-- What is kept is settled: on its own it waits. -/
theorem next_of_drain (buffer kept : List τ) (items : List φ)
    (hdrain : drain next buffer = (items, .ok kept)) : next kept = .wait kept := by
  have hall := drain_induction next h
    (fun _ _ outcome => outcome = .ok kept → next kept = .wait kept)
    (fun buffer later hnext hkept => Except.ok.inj hkept ▸ h.settled buffer later hnext)
    (fun buffer cause hnext hkept => by cases hkept)
    (fun buffer item rest items outcome hnext ih => ih) buffer
  rw [hdrain] at hall
  exact hall rfl

/-- What a drain ends with has been refused by a try. -/
theorem refused_of_drain (buffer : List τ) (items : List φ) (cause : ε)
    (hdrain : drain next buffer = (items, .error cause)) :
    ∃ later, next later = .refused cause := by
  have hall := drain_induction next h
    (fun _ _ outcome => outcome = .error cause → ∃ later, next later = .refused cause)
    (fun buffer kept hnext hcause => by cases hcause)
    (fun buffer other hnext hcause => ⟨buffer, Except.error.inj hcause ▸ hnext⟩)
    (fun buffer item rest items outcome hnext ih => ih) buffer
  rw [hdrain] at hall
  exact hall rfl

/-! ### Pieces -/

variable (recovers : ε → Bool)

/-- A refusal that is not gone on from ends all: so the cut makes no difference
    unless the end is a refusal that is. -/
theorem feed_eq_drain (pieces : List (List τ)) (buffer : List τ)
    (hbuffer : next buffer = .wait buffer)
    (hend : ∀ items cause, drain next (buffer ++ pieces.flatten) = (items, .error cause) →
      recovers cause = false) :
    feed next recovers pieces buffer = drain next (buffer ++ pieces.flatten) := by
  induction pieces generalizing buffer with
  | nil => rw [feed, List.flatten_nil, List.append_nil, drain_of_wait next buffer buffer hbuffer]
  | cons piece later ih =>
      rw [List.flatten_cons, ← List.append_assoc] at hend ⊢
      unfold feed
      rcases hdrain : drain next (buffer ++ piece) with ⟨items, cause | kept⟩
      · have hall := drain_append_refused next h _ later.flatten items cause hdrain
        simp only [hend items cause hall, Bool.false_eq_true, if_false, hall]
      · have hall := drain_append next h _ later.flatten kept items hdrain
        have hlater : feed next recovers later kept = drain next (kept ++ later.flatten) := by
          refine ih kept (next_of_drain next h _ kept items hdrain) ?_
          intro more cause hmore
          refine hend (items ++ more) cause ?_
          rw [hall, hmore]
        simp only [hlater, hall]

/-- Octets that bring nothing, wherever they are begun: they are thrown away or
    refused. -/
def Barren (octets : List τ) : Prop :=
  ∀ later, later <:+ octets → next later = .wait [] ∨ ∃ cause, next later = .refused cause

omit h in
theorem Barren.of_suffix (octets later : List τ) (hbarren : Barren next octets)
    (hlater : later <:+ octets) : Barren next later :=
  fun last hlast => hbarren last (hlast.trans hlater)

/-- Barren octets leave nothing, however they are cut. What is kept of them so far
    is still the start of barren octets. -/
theorem feed_of_barren (pieces : List (List τ)) (buffer : List τ)
    (hbuffer : next buffer = .wait buffer) (hbarren : Barren next (buffer ++ pieces.flatten)) :
    (feed next recovers pieces buffer).1 = [] ∧
      residue (feed next recovers pieces buffer).2 = [] := by
  induction pieces generalizing buffer with
  | nil =>
      rw [List.flatten_nil, List.append_nil] at hbarren
      rcases hbarren buffer (List.suffix_refl buffer) with hwait | ⟨cause, hrefused⟩
      · exact ⟨rfl, Verdict.wait.inj (hbuffer.symm.trans hwait)⟩
      · exact absurd (hbuffer.symm.trans hrefused) nofun
  | cons piece later ih =>
      rw [List.flatten_cons, ← List.append_assoc] at hbarren
      unfold feed
      cases hnext : next (buffer ++ piece) with
      | wait kept =>
          have hsuffix : kept ++ later.flatten <:+ buffer ++ piece ++ later.flatten := by
            rcases h.suffix _ kept hnext with ⟨front, hfront⟩
            exact ⟨front, by rw [← hfront, List.append_assoc]⟩
          rw [drain_of_wait next _ kept hnext]
          dsimp only
          rw [List.nil_append]
          exact ih kept (h.settled _ kept hnext) (hbarren.of_suffix next _ _ hsuffix)
      | refused cause =>
          rw [drain_of_refused next _ cause hnext]
          dsimp only
          by_cases hrecovers : recovers cause = true
          · rw [if_pos hrecovers, List.nil_append]
            refine ih [] h.empty (hbarren.of_suffix next _ _ ?_)
            exact List.suffix_append (buffer ++ piece) later.flatten
          · rw [if_neg hrecovers]
            exact ⟨rfl, rfl⟩
      | found item rest =>
          -- An item at the start would be one of the octets as a whole.
          have hwhole := h.found _ item rest hnext later.flatten
          rcases hbarren _ (List.suffix_refl _) with hwait | ⟨cause, hrefused⟩
          · exact absurd (hwhole.symm.trans hwait) nofun
          · exact absurd (hwhole.symm.trans hrefused) nofun

/-- Drained on their own, barren octets leave nothing, and only they do. -/
theorem barren_of_drain (octets : List τ)
    (hdrain : ∀ later, later <:+ octets →
      (drain next later).1 = [] ∧ residue (drain next later).2 = []) : Barren next octets := by
  intro later hlater
  rcases hdrain later hlater with ⟨hitems, hresidue⟩
  cases hnext : next later with
  | wait kept =>
      rw [drain_of_wait next later kept hnext] at hresidue
      exact .inl (congrArg Verdict.wait hresidue)
  | refused cause => exact .inr ⟨cause, rfl⟩
  | found item rest =>
      rw [drain_of_found next h later rest item hnext] at hitems
      exact absurd hitems (List.cons_ne_nil _ _)

/-- Behind some octets a refusal has been met that is gone on from. -/
def Recovers (octets : List τ) : Prop :=
  ∃ items cause, drain next octets = (items, .error cause) ∧ recovers cause = true

/-- However the octets are cut, the items are those of all of them at once, and so
    is what is kept. -/
def Indifferent (octets : List τ) : Prop :=
  ∀ pieces : List (List τ), pieces.flatten = octets →
    (feed next recovers pieces []).1 = (drain next octets).1 ∧
      residue (feed next recovers pieces []).2 = residue (drain next octets).2

/-- The pieces up to one that is gone on from leave what the rest is barren of. -/
theorem feed_alike (pieces : List (List τ)) (buffer : List τ)
    (hbuffer : next buffer = .wait buffer)
    (hbarren : ∀ before behind, buffer ++ pieces.flatten = before ++ behind →
      Recovers next recovers before → Barren next behind) :
    (feed next recovers pieces buffer).1 = (drain next (buffer ++ pieces.flatten)).1 ∧
      residue (feed next recovers pieces buffer).2 =
        residue (drain next (buffer ++ pieces.flatten)).2 := by
  induction pieces generalizing buffer with
  | nil =>
      rw [feed, List.flatten_nil, List.append_nil, drain_of_wait next buffer buffer hbuffer]
      exact ⟨rfl, rfl⟩
  | cons piece later ih =>
      rw [List.flatten_cons, ← List.append_assoc] at hbarren ⊢
      unfold feed
      rcases hdrain : drain next (buffer ++ piece) with ⟨items, cause | kept⟩
      · have hall := drain_append_refused next h _ later.flatten items cause hdrain
        dsimp only
        by_cases hrecovers : recovers cause = true
        · have hrest := feed_of_barren next h recovers later [] h.empty
            (hbarren (buffer ++ piece) later.flatten rfl ⟨items, cause, hdrain, hrecovers⟩)
          rw [if_pos hrecovers, hall, hrest.1, List.append_nil]
          exact ⟨rfl, hrest.2⟩
        · rw [if_neg hrecovers, hall]
          exact ⟨rfl, rfl⟩
      · have hall := drain_append next h _ later.flatten kept items hdrain
        have hsettled := next_of_drain next h _ kept items hdrain
        have hlater := ih kept hsettled (by
          intro before behind hcut hbefore
          -- What is kept has not been refused, so the cut is in what is still to come.
          rcases List.append_eq_append_iff.mp hcut with
            ⟨middle, hmiddle, hrest⟩ | ⟨middle, hmiddle, hrest⟩
          · rcases hbefore with ⟨found, cause, hfound, hrecovers⟩
            refine hbarren (buffer ++ piece ++ middle) behind ?_ ⟨items ++ found, cause, ?_,
              hrecovers⟩
            · rw [hrest]
              simp
            · rw [drain_append next h _ middle kept items hdrain, ← hmiddle, hfound]
          · rcases hbefore with ⟨found, cause, hfound, -⟩
            have hrefused := drain_append_refused next h before middle found cause hfound
            rw [← hmiddle, drain_of_wait next kept kept hsettled] at hrefused
            exact absurd (Prod.mk.inj hrefused).2
              (by simp))
        rw [hall]
        dsimp only
        rw [hlater.1]
        exact ⟨rfl, hlater.2⟩

/-- The cut makes no difference exactly when what is behind a refusal that is gone
    on from is barren. -/
theorem feed_iff (octets : List τ) :
    Indifferent next recovers octets ↔ ∀ before behind, octets = before ++ behind →
      Recovers next recovers before → Barren next behind := by
  constructor
  · rintro hsame before behind rfl ⟨items, cause, hbefore, hrecovers⟩
    -- Cut in front of any later octets: those before them are refused with all in between.
    refine barren_of_drain next h behind fun later hlater => ?_
    rcases hlater with ⟨between, rfl⟩
    have hfirst := drain_append_refused next h before between items cause hbefore
    have hall := drain_append_refused next h before (between ++ later) items cause hbefore
    rcases hsame [before ++ between, later] (by
      rw [List.flatten_cons, List.flatten_cons, List.flatten_nil, List.append_nil,
        List.append_assoc]) with ⟨hitems, hresidue⟩
    simp only [feed, List.nil_append, hfirst, hrecovers, if_true, hall] at hitems hresidue
    rcases hlast : drain next later with ⟨found, last | kept⟩
    · rw [hlast] at hitems hresidue
      dsimp only at hitems hresidue
      by_cases hagain : recovers last = true
      · simp only [hagain, if_true, List.append_nil, List.append_right_eq_self] at hitems
        exact ⟨hitems, rfl⟩
      · simp only [hagain, Bool.false_eq_true, if_false, List.append_right_eq_self] at hitems
        exact ⟨hitems, rfl⟩
    · rw [hlast] at hitems hresidue
      simp only [List.append_nil, List.append_right_eq_self] at hitems
      exact ⟨hitems, hresidue⟩
  · intro hbarren pieces hpieces
    have halike := feed_alike next h recovers pieces [] h.empty
    rw [List.nil_append, hpieces] at halike
    exact halike hbarren

end Incremental

end Codec
