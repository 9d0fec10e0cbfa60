import Dlms.Apdu.AssociationRoundTrip
import Mathlib.Data.List.Forall2

/-!
# Which release APDUs survive being encoded again

The decoder of a release keeps its children as bytes, and lets a user-information
child take everything that is left. The encoder copies the children, but for a
reason, which it writes anew in one octet and behind all of them. So a reason that
stood in front of the user information comes to stand behind it, where the decoder
takes it for a part of the user information and refuses it.

## Main definitions

* `readReleaseElement`: One child of a release, before it is interpreted.
* `Splits`: A content is made of such children.
* `releaseElements`: The children of an input.
* `Recodable`: What the children have to be like.
* `ReleaseRecodes`: What was decoded is encoded and decoded to the same.

## Theorems

* `splits_iff`: The content of a release is made of its children in one way.
* `recodes_iff_recodable`: For any initiate APDU in the user information.
* `release_recodes_iff`: For both release APDUs.
-/

namespace Dlms

namespace Apdu

open Codec

/-! ### The children of a release -/

/-- One child. The user information takes everything that is left. -/
def readReleaseElement : Reader BerTlv := do
  let child ← readBerTlv
  if child.tag = userInformationTag then do
    let trailing ← readRemaining
    pure { child with value := child.value ++ trailing }
  else
    pure child

/-- What the decoder makes of a child. -/
def interpretReleaseElement {initiate : Type}
    (decodeInitiate : Bytes → Except ApduStatus initiate) (child : BerTlv) :
    Except ApduStatus (ReleaseChild initiate) :=
  if child.tag = releaseReasonTag then do
    let reason ← readPrimitiveIntegerValue child
    pure { field := ⟨child.tag, child.encoded⟩, reason := some reason, initiate := none }
  else if child.tag = userInformationTag then do
    let octetString ← readUserInformation child true
    let decoded ← decodeInitiate octetString
    pure { field := ⟨child.tag, child.encoded⟩, reason := none, initiate := some decoded }
  else
    pure { field := ⟨child.tag, child.encoded⟩, reason := none, initiate := none }

/-- A child and what is made of it. -/
def readReleaseChild {α : Type} (interpret : BerTlv → Except ApduStatus α) : Reader α := do
  let child ← readReleaseElement
  Parser.ofExcept (interpret child)

theorem decodeReleaseChild_eq {initiate : Type}
    (decodeInitiate : Bytes → Except ApduStatus initiate) :
    decodeReleaseChild decodeInitiate =
      readReleaseChild (interpretReleaseElement decodeInitiate) := by
  have hdiffer : releaseReasonTag ≠ userInformationTag := by decide
  rw [decodeReleaseChild, readReleaseChild, readReleaseElement, bind_assoc]
  refine bind_congr fun child => ?_
  by_cases hreason : child.tag = releaseReasonTag
  · rw [if_pos hreason, if_neg (by rw [hreason]; exact hdiffer), pure_bind,
      interpretReleaseElement, if_pos hreason]
    rcases readPrimitiveIntegerValue child with status | reason <;> rfl
  · by_cases hinformation : child.tag = userInformationTag
    · rw [if_neg hreason, if_pos hinformation, if_pos hinformation, bind_assoc]
      refine bind_congr fun trailing => ?_
      rw [pure_bind, interpretReleaseElement, if_neg hreason, if_pos hinformation]
      dsimp only
      rcases readUserInformation { child with value := child.value ++ trailing } true
        with status | octetString
      · rfl
      · rcases hdecoded : decodeInitiate octetString with status | decoded
        · simp only [bind, Except.bind, hdecoded]
          rfl
        · simp only [bind, Except.bind, hdecoded]
          rfl
    · rw [if_neg hreason, if_neg hinformation, if_neg hinformation, pure_bind,
        interpretReleaseElement, if_neg hreason, if_neg hinformation]
      rfl

/-- A content is made of elements, the last of which may be the user information
    with whatever follows it. -/
inductive Splits : List BerTlv → Bytes → Prop where
  | nil : Splits [] []
  | cons (tlv : BerTlv) (rest : List BerTlv) (bytes : Bytes)
      (hread : Accepts readBerTlv tlv.encoded tlv) (htag : tlv.tag ≠ userInformationTag)
      (hrest : Splits rest bytes) : Splits (tlv :: rest) (tlv.encoded ++ bytes)
  | last (tlv : BerTlv) (trailing : Bytes) (hread : Accepts readBerTlv tlv.encoded tlv)
      (htag : tlv.tag = userInformationTag) :
      Splits [{ tlv with value := tlv.value ++ trailing }] (tlv.encoded ++ trailing)

/-- What is read as one child is an element, or the user information and all that
    follows it. -/
theorem readReleaseElement_eq_ok (bytes rest : Bytes) (element : BerTlv)
    (h : readReleaseElement bytes = .ok (element, rest)) :
    (element.tag ≠ userInformationTag ∧ Accepts readBerTlv element.encoded element ∧
        bytes = element.encoded ++ rest) ∨
      ∃ tlv trailing, element = { tlv with value := tlv.value ++ trailing } ∧
        tlv.tag = userInformationTag ∧ Accepts readBerTlv tlv.encoded tlv ∧ rest = [] ∧
          bytes = tlv.encoded ++ trailing := by
  rw [readReleaseElement, bind_eq_ok_iff] at h
  rcases h with ⟨tlv, middle, hread, h⟩
  rcases delimited_readBerTlv _ _ _ hread with ⟨used, rfl, hdecodes⟩
  have haccepts := accepts_of_decodes _ _ _ hdecodes
  have hencoded := (encoded_of_accepts used tlv haccepts).1
  subst hencoded
  by_cases htag : tlv.tag = userInformationTag
  · rw [if_pos htag, bind_eq_ok_iff] at h
    rcases h with ⟨trailing, left, htrailing, h⟩
    rw [pure_eq_ok_iff] at h
    rcases Prod.mk.inj (Except.ok.inj htrailing) with ⟨rfl, rfl⟩
    exact Or.inr ⟨tlv, middle, h.1.symm, htag, haccepts, h.2.symm, rfl⟩
  · rw [if_neg htag, pure_eq_ok_iff] at h
    rcases h with ⟨rfl, rfl⟩
    exact Or.inl ⟨htag, haccepts, rfl⟩

theorem decodes_readReleaseElement (tlv : BerTlv) (hread : Accepts readBerTlv tlv.encoded tlv)
    (htag : tlv.tag ≠ userInformationTag) : Decodes readReleaseElement tlv.encoded tlv := by
  refine decodes_last _ _ _ tlv _ (encoded_of_accepts _ _ hread).2 ?_
  rw [if_neg htag]
  exact decodes_pure tlv

theorem accepts_readReleaseElement (tlv : BerTlv) (trailing : Bytes)
    (hread : Accepts readBerTlv tlv.encoded tlv) (htag : tlv.tag = userInformationTag) :
    Accepts readReleaseElement (tlv.encoded ++ trailing)
      { tlv with value := tlv.value ++ trailing } := by
  refine accepts_bind _ _ _ _ _ _ (encoded_of_accepts _ _ hread).2 ?_
  rw [if_pos htag]
  rfl

section Splits

variable {α : Type} (interpret : BerTlv → Except ApduStatus α)

theorem readReleaseChild_eq_ok_iff (bytes rest : Bytes) (value : α) :
    readReleaseChild interpret bytes = .ok (value, rest) ↔
      ∃ element, readReleaseElement bytes = .ok (element, rest) ∧
        interpret element = .ok value := by
  rw [readReleaseChild, bind_eq_ok_iff]
  have hmade (element : BerTlv) (left : Bytes) :
      Parser.ofExcept (interpret element) left = .ok (value, rest) ↔
        interpret element = .ok value ∧ left = rest := by
    rcases interpret element with status | made
    · simp [Parser.ofExcept, Except.map]
    · simp [Parser.ofExcept, Except.map]
  constructor
  · rintro ⟨element, left, hread, h⟩
    rcases (hmade element left).1 h with ⟨hvalue, rfl⟩
    exact ⟨element, hread, hvalue⟩
  · rintro ⟨element, hread, hvalue⟩
    exact ⟨element, rest, hread, (hmade element rest).2 ⟨hvalue, rfl⟩⟩

/-- A content that is made of elements is read to its end, and each element is
    interpreted. -/
theorem untilEnd_of_splits (elements : List BerTlv) (bytes : Bytes) (fuel : Nat) (values : List α)
    (hsplits : Splits elements bytes) (hfuel : bytes.length ≤ fuel)
    (hvalues : List.Forall₂ (fun element value => interpret element = .ok value) elements values) :
    Accepts (Parser.untilEnd (readReleaseChild interpret) fuel) bytes values := by
  induction hsplits generalizing fuel values with
  | nil =>
      cases hvalues
      cases fuel with
      | zero => rfl
      | succ fuel => rfl
  | cons tlv rest bytes hread htag hrest ih =>
      rcases hvalues with _ | ⟨hfirst, hothers⟩
      rename_i value others
      -- An element takes an octet at least, so the rounds do not run out.
      have hpositive := List.length_pos_iff.mpr (ne_nil_of_accepts_readBerTlv _ _ hread)
      rw [List.length_append] at hfuel
      cases fuel with
      | zero => omega
      | succ fuel =>
          rw [Accepts, untilEnd_succ_iff _ _ _ _ _ (List.append_ne_nil_of_left_ne_nil
            (ne_nil_of_accepts_readBerTlv _ _ hread) _)]
          refine ⟨value, bytes, others, ?_, ih fuel others (by omega) hothers, rfl⟩
          exact (readReleaseChild_eq_ok_iff interpret _ _ _).2
            ⟨tlv, decodes_readReleaseElement tlv hread htag bytes, hfirst⟩
  | last tlv trailing hread htag =>
      rcases hvalues with _ | ⟨hfirst, hothers⟩
      cases hothers
      rename_i value
      have hpositive := List.length_pos_iff.mpr (ne_nil_of_accepts_readBerTlv _ _ hread)
      rw [List.length_append] at hfuel
      cases fuel with
      | zero => omega
      | succ fuel =>
          rw [Accepts, untilEnd_succ_iff _ _ _ _ _ (List.append_ne_nil_of_left_ne_nil
            (ne_nil_of_accepts_readBerTlv _ _ hread) _)]
          -- The user information takes all that is left, and the next round finds the end.
          refine ⟨value, [], [], ?_, by cases fuel <;> rfl, rfl⟩
          exact (readReleaseChild_eq_ok_iff interpret _ _ _).2
            ⟨_, accepts_readReleaseElement tlv trailing hread htag, hfirst⟩

/-- Whatever is read to its end is made of elements. -/
theorem splits_of_untilEnd (bytes rest : Bytes) (fuel : Nat) (values : List α)
    (hfuel : bytes.length ≤ fuel)
    (h : Parser.untilEnd (readReleaseChild interpret) fuel bytes = .ok (values, rest)) :
    ∃ elements, Splits elements bytes ∧
      List.Forall₂ (fun element value => interpret element = .ok value) elements values := by
  induction fuel generalizing bytes values with
  | zero =>
      rw [Parser.untilEnd, pure_eq_ok_iff] at h
      rw [List.length_eq_zero_iff.mp (Nat.le_zero.mp hfuel), ← h.1]
      exact ⟨[], .nil, .nil⟩
  | succ fuel ih =>
      by_cases hne : bytes = []
      · rw [hne] at h ⊢
        rcases Prod.mk.inj (Except.ok.inj h) with ⟨rfl, -⟩
        exact ⟨[], .nil, .nil⟩
      · rw [untilEnd_succ_iff _ _ _ _ _ hne] at h
        rcases h with ⟨value, middle, others, hfirst, hothers, rfl⟩
        rcases (readReleaseChild_eq_ok_iff interpret _ _ _).1 hfirst with ⟨element, hread, hvalue⟩
        rcases readReleaseElement_eq_ok bytes middle element hread with
          ⟨htag, haccepts, rfl⟩ | ⟨tlv, trailing, rfl, htag, haccepts, rfl, rfl⟩
        · have hpositive := List.length_pos_iff.mpr (ne_nil_of_accepts_readBerTlv _ _ haccepts)
          rw [List.length_append] at hfuel
          -- Any other element is cut where it ends, and the rest is cut by the induction.
          rcases ih middle others (by omega) hothers with ⟨elements, hsplits, hvalues⟩
          exact ⟨element :: elements, .cons element elements middle haccepts htag hsplits,
            .cons hvalue hvalues⟩
        · -- Nothing is left behind the user information.
          have hnone : others = [] := by
            cases fuel with
            | zero => exact (Prod.mk.inj (Except.ok.inj hothers)).1.symm
            | succ fuel => exact (Prod.mk.inj (Except.ok.inj hothers)).1.symm
          rw [hnone]
          exact ⟨_, .last tlv trailing haccepts htag, .cons hvalue .nil⟩

theorem decodeChildren_release_iff (bytes : Bytes) (values : List α) :
    decodeChildren (readReleaseChild interpret) bytes = .ok values ↔
      ∃ elements, Splits elements bytes ∧
        List.Forall₂ (fun element value => interpret element = .ok value) elements values := by
  rw [decodeChildren, runParser_eq_ok_iff]
  constructor
  · rintro ⟨rest, h⟩
    exact splits_of_untilEnd interpret bytes rest _ values (Nat.le_refl _) h
  · rintro ⟨elements, hsplits, hvalues⟩
    exact ⟨[], untilEnd_of_splits interpret elements bytes _ values hsplits (Nat.le_refl _) hvalues⟩

end Splits

/-- A content is made of elements in one way only. -/
theorem splits_unique (first second : List BerTlv) (bytes : Bytes) (hfirst : Splits first bytes)
    (hsecond : Splits second bytes) : first = second := by
  have hread (elements : List BerTlv) (h : Splits elements bytes) :
      decodeChildren (readReleaseChild Except.ok) bytes = .ok elements := by
    rw [decodeChildren_release_iff]
    refine ⟨elements, h, ?_⟩
    rw [List.forall₂_same]
    exact fun element _ => rfl
  exact Except.ok.inj ((hread first hfirst).symm.trans (hread second hsecond))

/-! ### The elements of an input -/

/-- The children of a release, as they are cut, and none where it is malformed. -/
def releaseElements (input : Bytes) (tag : UInt8) : List BerTlv :=
  match readReleaseTlv input tag with
  | .error _ => []
  | .ok release =>
      match decodeChildren readReleaseElement release.value with
      | .error _ => []
      | .ok elements => elements

theorem releaseElements_of_splits (input : Bytes) (tag : UInt8) (release : BerTlv)
    (elements : List BerTlv) (hrelease : readReleaseTlv input tag = .ok release)
    (hsplits : Splits elements release.value) : releaseElements input tag = elements := by
  have hread : readReleaseElement = readReleaseChild Except.ok := by
    rw [readReleaseChild]
    exact (bind_pure readReleaseElement).symm
  have hchildren := (decodeChildren_release_iff Except.ok release.value elements).2
    ⟨elements, hsplits, List.forall₂_same.2 fun element _ => rfl⟩
  simp [releaseElements, hrelease, hread, hchildren]

/-- The elements that are reasons. -/
def reasons (elements : List BerTlv) : List BerTlv :=
  elements.filter (·.tag = releaseReasonTag)

/-- What is kept of the elements when a reason is written anew. -/
def kept (elements : List BerTlv) : List BerTlv :=
  elements.filter (·.tag ≠ releaseReasonTag)

/-- The number of octets that the elements are encoded in again: those that are
    kept, and three for a reason. -/
def recodedSize (elements : List BerTlv) : Nat :=
  ((kept elements).flatMap BerTlv.encoded).length + if reasons elements = [] then 0 else 3

/-- No reason stands next to user information, the last reason is a signed octet,
    and the elements fit in the buffer of the encoder. -/
structure Recodable (elements : List BerTlv) : Prop where
  apart : reasons elements = [] ∨ ∀ element ∈ elements, element.tag ≠ userInformationTag
  narrow : ∀ last number, (reasons elements).getLast? = some last →
    readPrimitiveIntegerValue last = .ok number → -128 ≤ number ∧ number ≤ 127
  fits : recodedSize elements ≤ 256

/-- The reason, the initiate APDU and the bytes of the user information are the
    same. -/
structure SameRelease {initiate : Type} (first second : ReleaseApdu initiate) : Prop where
  reason : first.reason = second.reason
  initiate : first.initiate = second.initiate
  userInformation : first.fields.filter (·.tag = userInformationTag) =
    second.fields.filter (·.tag = userInformationTag)

/-- The value is encoded into every buffer that has room for it, and what is
    written decodes to the same. -/
def ReleaseRecodes {initiate : Type} (decode : Bytes → Except ApduStatus (ReleaseApdu initiate))
    (encode : ReleaseApdu initiate → Except ApduStatus Writer) (apdu : ReleaseApdu initiate) :
    Prop :=
  ∃ bytes again, (∀ capacity, (do let writer ← encode apdu; runEmitter capacity writer) =
      if bytes.length ≤ capacity then .ok bytes else .error .outputBufferTooSmall) ∧
    decode bytes = .ok again ∧ SameRelease again apdu

/-! ### What the decoder makes of the elements -/

section Release

variable {initiate : Type} (decodeInitiate : Bytes → Except ApduStatus initiate)

/-- The elements of a release, each with what the decoder made of it. -/
structure Interpreted (elements : List BerTlv) (apdu : ReleaseApdu initiate) : Prop where
  children : ∃ children, List.Forall₂
      (fun element child => interpretReleaseElement decodeInitiate element = .ok child)
      elements children ∧
    apdu = { fields := children.map (·.field), reason := lastOf (·.reason) children,
             initiate := lastOf (·.initiate) children }

theorem decodeRelease_iff (input : Bytes) (tag : UInt8) (apdu : ReleaseApdu initiate) :
    decodeRelease decodeInitiate input tag = .ok apdu ↔
      ∃ release elements, readReleaseTlv input tag = .ok release ∧
        Splits elements release.value ∧ Interpreted decodeInitiate elements apdu := by
  rw [decodeRelease, decodeReleaseChild_eq]
  rcases hrelease : readReleaseTlv input tag with status | release
  · simp [bind, Except.bind]
  · simp only [bind, Except.bind, Except.ok.injEq]
    rcases hchildren : decodeChildren (readReleaseChild (interpretReleaseElement decodeInitiate))
      release.value with status | children
    -- Elements that are interpreted would have been read.
    · simp only [reduceCtorEq, false_iff, not_exists, not_and]
      rintro _ elements rfl hsplits ⟨children, hforall, -⟩
      rw [(decodeChildren_release_iff _ _ _).2 ⟨elements, hsplits, hforall⟩] at hchildren
      cases hchildren
    · have hread := hchildren
      rw [decodeChildren_release_iff] at hread
      constructor
      · intro h
        rcases hread with ⟨elements, hsplits, hforall⟩
        exact ⟨release, elements, rfl, hsplits, children, hforall, (Except.ok.inj h).symm⟩
      · rintro ⟨_, elements, rfl, hsplits, others, hforall, rfl⟩
        rw [(decodeChildren_release_iff _ _ _).2 ⟨elements, hsplits, hforall⟩,
          Except.ok.injEq] at hchildren
        rw [hchildren]
        rfl

/-- What the child of an element carries. -/
theorem child_of_interpretReleaseElement (element : BerTlv) (child : ReleaseChild initiate)
    (h : interpretReleaseElement decodeInitiate element = .ok child) :
    child.field = ⟨element.tag, element.encoded⟩ ∧
      (element.tag = releaseReasonTag → ∃ number,
        readPrimitiveIntegerValue element = .ok number ∧ child.reason = some number) ∧
      (element.tag ≠ releaseReasonTag → child.reason = none) ∧
      (element.tag ≠ userInformationTag → child.initiate = none) := by
  rw [interpretReleaseElement] at h
  -- A reason has a number, user information an initiate APDU, and any other element neither.
  split_ifs at h with hreason hinformation
  · rcases hnumber : readPrimitiveIntegerValue element with status | number
    · simp [hnumber, bind, Except.bind] at h
    · simp only [hnumber, bind, Except.bind, pure, Except.pure, Except.ok.injEq] at h
      rw [← h]
      exact ⟨rfl, fun _ => ⟨number, rfl, rfl⟩, fun hother => absurd hreason hother, fun _ => rfl⟩
  · rcases hoctets : readUserInformation element true with status | octets
    · simp [hoctets, bind, Except.bind] at h
    · rcases hdecoded : decodeInitiate octets with status | decoded
      · simp [hoctets, hdecoded, bind, Except.bind] at h
      · simp only [hoctets, hdecoded, bind, Except.bind, pure, Except.pure, Except.ok.injEq] at h
        rw [← h]
        exact ⟨rfl, fun htag => absurd htag hreason, fun _ => rfl,
          fun hother => absurd hinformation hother⟩
  · rw [← Except.ok.inj h]
    exact ⟨rfl, fun htag => absurd htag hreason, fun _ => rfl, fun _ => rfl⟩

section Children

variable (elements : List BerTlv) (children : List (ReleaseChild initiate))
  (h : List.Forall₂ (fun element child =>
    interpretReleaseElement decodeInitiate element = .ok child) elements children)

include h

theorem fields_of_forall₂ :
    children.map (·.field) = elements.map fun element => ⟨element.tag, element.encoded⟩ := by
  induction h with
  | nil => rfl
  | cons hfirst hrest ih =>
      rw [List.map_cons, List.map_cons, ih,
        (child_of_interpretReleaseElement decodeInitiate _ _ hfirst).1]

/-- The reasons of the children are the numbers of the elements that are reasons. -/
theorem reasons_of_forall₂ :
    List.Forall₂ (fun element number => readPrimitiveIntegerValue element = .ok number)
      (reasons elements) (children.filterMap (·.reason)) := by
  induction h with
  | nil => exact .nil
  | @cons element child elements children hfirst hrest ih =>
      rcases child_of_interpretReleaseElement decodeInitiate _ _ hfirst with ⟨-, hsome, hnone, -⟩
      by_cases htag : element.tag = releaseReasonTag
      · rcases hsome htag with ⟨number, hnumber, hreason⟩
        rw [reasons, List.filter_cons_of_pos (by simp [htag]),
          List.filterMap_cons, hreason]
        exact .cons hnumber ih
      · rw [reasons, List.filter_cons_of_neg (by simp [htag]), List.filterMap_cons, hnone htag]
        exact ih

/-- Without user information there is no initiate APDU. -/
theorem initiates_of_forall₂
    (hnone : ∀ element ∈ elements, element.tag ≠ userInformationTag) :
    children.filterMap (·.initiate) = [] := by
  induction h with
  | nil => rfl
  | cons hfirst hrest ih =>
      rw [List.filterMap_cons, (child_of_interpretReleaseElement decodeInitiate _ _ hfirst).2.2.2
        (hnone _ List.mem_cons_self)]
      exact ih fun element helement => hnone element (List.mem_cons_of_mem _ helement)

end Children

end Release

/-- What goes together with a list goes together with a part of it. -/
theorem forall₂_filter {α β : Type} (related : α → β → Prop) (keep : α → Bool) (as : List α)
    (bs : List β) (h : List.Forall₂ related as bs) :
    ∃ others, List.Forall₂ related (as.filter keep) others := by
  induction h with
  | nil => exact ⟨[], .nil⟩
  | @cons a b as bs hfirst hrest ih =>
      rcases ih with ⟨others, hothers⟩
      by_cases hkeep : keep a = true
      · exact ⟨b :: others, by rw [List.filter_cons_of_pos hkeep]; exact .cons hfirst hothers⟩
      · exact ⟨others, by rw [List.filter_cons_of_neg hkeep]; exact hothers⟩

theorem forall₂_last {α β : Type} (related : α → β → Prop) (as : List α) (a : α) (bs : List β)
    (h : List.Forall₂ related (as ++ [a]) bs) : ∃ b, related a b := by
  induction as generalizing bs with
  | nil =>
      rcases h with _ | ⟨hfirst, -⟩
      exact ⟨_, hfirst⟩
  | cons first as ih =>
      rcases h with _ | ⟨-, hrest⟩
      exact ih _ hrest

/-- The last of two lists that go together. -/
theorem getLast?_of_forall₂ {α β : Type} (related : α → β → Prop) (as : List α) (bs : List β)
    (h : List.Forall₂ related as bs) :
    (as = [] ∧ bs.getLast? = none) ∨
      ∃ a b, as.getLast? = some a ∧ bs.getLast? = some b ∧ related a b := by
  induction h with
  | nil => exact Or.inl ⟨rfl, rfl⟩
  | @cons a b as bs hfirst hrest ih =>
      refine Or.inr ?_
      rcases ih with ⟨rfl, -⟩ | ⟨last, value, hlast, hvalue, hrelated⟩
      · cases hrest
        exact ⟨a, b, rfl, rfl, hfirst⟩
      · refine ⟨last, value, ?_, ?_, hrelated⟩
        · rw [List.getLast?_cons, hlast]
          rfl
        · rw [List.getLast?_cons, hvalue]
          rfl

/-! ### What the encoder writes for the elements -/

theorem writes_encodeReleaseFields (hasReason : Bool) (elements : List BerTlv)
    (h : hasReason = false → reasons elements = []) :
    Writes (encodeReleaseFields hasReason
        (elements.map fun element => ⟨element.tag, element.encoded⟩))
      ((kept elements).flatMap BerTlv.encoded) := by
  induction elements with
  | nil => exact emits_nil _
  | cons element elements ih =>
      rw [List.map_cons, encodeReleaseFields]
      by_cases htag : element.tag = releaseReasonTag
      · have hkept : kept (element :: elements) = kept elements := by
          rw [kept, List.filter_cons_of_neg (by simp [htag])]
          rfl
        cases hasReason with
        | false =>
            -- A record without a reason comes from elements without one.
            have hsome := h rfl
            rw [reasons, List.filter_cons_of_pos (by simp [htag])] at hsome
            exact absurd hsome (List.cons_ne_nil _ _)
        | true =>
            -- The reason is left out here, and written anew behind the fields.
            rw [if_pos ⟨htag, rfl⟩, hkept]
            exact ih fun hfalse => absurd hfalse (by decide)
      · have hkept : kept (element :: elements) = element :: kept elements := by
          rw [kept, List.filter_cons_of_pos (by simp [htag])]
          rfl
        rw [if_neg fun hboth => htag hboth.1, hkept, List.flatMap_cons]
        refine emits_bind _ _ _ _ _ (writes_writeBytes _) (ih fun hfalse => ?_)
        have hnone := h hfalse
        rwa [reasons, List.filter_cons_of_neg (by simp [htag])] at hnone

/-- The octet of a reason. -/
def reasonOctet (reason : Int) : UInt8 := UInt8.ofNat (reason % 256).toNat

/-- The reason as it is written. -/
def reasonBytes (reason : Option Int) : Bytes :=
  match reason with
  | none => []
  | some number => berTlvBytes releaseReasonTag [reasonOctet number]

def recodedContent (elements : List BerTlv) (reason : Option Int) : Bytes :=
  (kept elements).flatMap BerTlv.encoded ++ reasonBytes reason

/-- A reason of one octet reads as it was written. -/
theorem readPrimitiveIntegerValue_reasonOctet (tag : UInt8) (header : Bytes) (number : Int)
    (hlow : -128 ≤ number) (hhigh : number ≤ 127) :
    readPrimitiveIntegerValue { tag, header, value := [reasonOctet number] } = .ok number := by
  have hflag := toNat_of_flag (reasonOctet number)
  have hoctet : ((reasonOctet number).toNat : Int) = number % 256 := by
    rw [reasonOctet, UInt8.toNat_ofNat']
    omega
  have hvalue : beValue [reasonOctet number] = (reasonOctet number).toNat := by
    rw [beValue_cons, List.length_nil, Nat.pow_zero, Nat.mul_one]
    rfl
  rw [readPrimitiveIntegerValue]
  dsimp only
  rw [if_neg (by rw [List.length_singleton]; decide), hvalue]
  -- The highest bit of the octet is the sign of the number.
  by_cases hsign : reasonOctet number &&& 0x80 = 0
  · have hsmall := hflag.1 hsign
    rw [if_neg (not_not_intro hsign), Except.ok.injEq]
    omega
  · have hlarge := hflag.2 hsign
    rw [if_pos hsign, Except.ok.injEq, List.length_singleton]
    omega

theorem writes_reasonBytes (number : Int) (hlow : -128 ≤ number) (hhigh : number ≤ 127) :
    Writes (writeReleaseReason number) (reasonBytes (some number)) := by
  rw [writeReleaseReason, if_neg (by omega)]
  exact writes_writeBerTlv releaseReasonTag _ rfl

section Encoding

variable {initiate : Type} (decodeInitiate : Bytes → Except ApduStatus initiate)
  (elements : List BerTlv) (apdu : ReleaseApdu initiate)
  (h : Interpreted decodeInitiate elements apdu)

include h

/-- The reason of the record is the number of the last element that is a reason. -/
theorem reason_of_interpreted :
    (reasons elements = [] ∧ apdu.reason = none) ∨
      ∃ last number, (reasons elements).getLast? = some last ∧ apdu.reason = some number ∧
        readPrimitiveIntegerValue last = .ok number := by
  rcases h.children with ⟨children, hforall, rfl⟩
  exact getLast?_of_forall₂ _ _ _ (reasons_of_forall₂ decodeInitiate elements children hforall)

theorem fields_of_interpreted :
    apdu.fields = elements.map fun element => ⟨element.tag, element.encoded⟩ := by
  rcases h.children with ⟨children, hforall, rfl⟩
  exact fields_of_forall₂ decodeInitiate elements children hforall

theorem length_recodedContent :
    (recodedContent elements apdu.reason).length = recodedSize elements := by
  rw [recodedContent, recodedSize, List.length_append]
  rcases reason_of_interpreted decodeInitiate elements apdu h with
    ⟨hnone, hreason⟩ | ⟨last, number, hlast, hreason, -⟩
  · rw [hreason, if_pos hnone]
    rfl
  · have hsome : reasons elements ≠ [] := by
      intro hnone
      rw [hnone] at hlast
      exact absurd hlast (by simp [List.getLast?_nil])
    rw [hreason, if_neg hsome]
    rfl

theorem writes_encodeReleaseFields_of_interpreted :
    Writes (encodeReleaseFields apdu.reason.isSome apdu.fields)
      ((kept elements).flatMap BerTlv.encoded) := by
  rw [fields_of_interpreted decodeInitiate elements apdu h]
  refine writes_encodeReleaseFields _ elements fun hfalse => ?_
  rcases reason_of_interpreted decodeInitiate elements apdu h with
    ⟨hnone, -⟩ | ⟨last, number, -, hreason, -⟩
  · exact hnone
  · rw [hreason] at hfalse
    exact absurd hfalse (by simp)

/-- The encoder writes the content anew when the reason is narrow and all of it
    fits. -/
theorem encodeRelease_of_fits (tag : UInt8)
    (hnarrow : ∀ number, apdu.reason = some number → -128 ≤ number ∧ number ≤ 127)
    (hfits : recodedSize elements ≤ 256) :
    encodeRelease tag apdu = .ok (writeBerTlv tag (recodedContent elements apdu.reason)) := by
  have hfields := writes_encodeReleaseFields_of_interpreted decodeInitiate elements apdu h
  have hlength := length_recodedContent decodeInitiate elements apdu h
  rw [encodeRelease]
  rcases hreason : apdu.reason with _ | number
  · rw [hreason] at hfields hlength
    have hwrites := emits_bind _ _ _ _ _ hfields (emits_nil ApduStatus.outputBufferTooSmall)
    change Writes _ (recodedContent elements none) at hwrites
    rw [runEmitter_of_emits _ _ _ _ hwrites, if_pos (by omega)]
    rfl
  · rw [hreason] at hfields hlength
    rcases hnarrow number hreason with ⟨hlow, hhigh⟩
    have hwrites := emits_bind _ _ _ _ _ hfields (writes_reasonBytes number hlow hhigh)
    change Writes _ (recodedContent elements (some number)) at hwrites
    rw [runEmitter_of_emits _ _ _ _ hwrites, if_pos (by omega)]
    rfl

/-- And in no other case does it write anything. -/
theorem fits_of_encodeRelease (tag : UInt8) (writer : Writer)
    (hwriter : encodeRelease tag apdu = .ok writer) :
    (∀ number, apdu.reason = some number → -128 ≤ number ∧ number ≤ 127) ∧
      recodedSize elements ≤ 256 := by
  have hfields := writes_encodeReleaseFields_of_interpreted decodeInitiate elements apdu h
  have hlength := length_recodedContent decodeInitiate elements apdu h
  rw [encodeRelease] at hwriter
  rcases hreason : apdu.reason with _ | number
  · rw [hreason] at hfields hlength hwriter
    have hwrites := emits_bind _ _ _ _ _ hfields (emits_nil ApduStatus.outputBufferTooSmall)
    change Writes _ (recodedContent elements none) at hwrites
    refine ⟨fun number hsome => absurd hsome nofun, ?_⟩
    rw [runEmitter_of_emits _ _ _ _ hwrites] at hwriter
    split_ifs at hwriter with hfits
    · omega
    · simp [bind, Except.bind] at hwriter
  · rw [hreason] at hfields hlength hwriter
    -- A reason out of its range stops the encoder, however much room there is.
    by_cases hrange : number < -128 ∨ number > 127
    · have hrefused (sink : Sink UInt8) : ∃ err, writeReleaseReason number sink = .error err := by
        rw [writeReleaseReason, if_pos hrange]
        exact ⟨.unsupportedFeature, rfl⟩
      have hfails := fails_bind ApduStatus.outputBufferTooSmall
        (encodeReleaseFields (some number).isSome apdu.fields) (writeReleaseReason number) _
        hfields hrefused
      rcases hfails (Sink.empty 256) with ⟨status, hstatus⟩
      rw [runEmitter, hstatus] at hwriter
      simp [bind, Except.bind] at hwriter
    · have hwrites := emits_bind _ _ _ _ _ hfields (writes_reasonBytes number (by omega) (by omega))
      change Writes _ (recodedContent elements (some number)) at hwrites
      rw [runEmitter_of_emits _ _ _ _ hwrites] at hwriter
      refine ⟨fun other hother => ?_, ?_⟩
      · rw [← Option.some.inj hother]
        omega
      · split_ifs at hwriter with hfits
        · omega
        · simp [bind, Except.bind] at hwriter

end Encoding

/-! ### The content of a release -/

theorem accepts_of_splits (elements : List BerTlv) (bytes : Bytes) (h : Splits elements bytes) :
    ∀ element ∈ elements, element.tag ≠ userInformationTag →
      Accepts readBerTlv element.encoded element := by
  induction h with
  | nil => exact fun element helement => absurd helement List.not_mem_nil
  | cons tlv rest bytes hread htag hrest ih =>
      intro element helement hother
      rcases List.mem_cons.mp helement with rfl | hmem
      · exact hread
      · exact ih element hmem hother
  | last tlv trailing hread htag =>
      intro element helement hother
      rw [List.mem_singleton.mp helement] at hother
      exact absurd htag hother

/-- Elements without user information make up the content that they stand in. -/
theorem splits_append (elements rest : List BerTlv) (bytes : Bytes)
    (hread : ∀ element ∈ elements, Accepts readBerTlv element.encoded element ∧
      element.tag ≠ userInformationTag) (hrest : Splits rest bytes) :
    Splits (elements ++ rest) (elements.flatMap BerTlv.encoded ++ bytes) := by
  induction elements with
  | nil => exact hrest
  | cons element elements ih =>
      rcases hread element List.mem_cons_self with ⟨hfirst, htag⟩
      rw [List.cons_append, List.flatMap_cons, List.append_assoc]
      exact .cons element _ _ hfirst htag
        (ih fun other hother => hread other (List.mem_cons_of_mem _ hother))

theorem bytes_of_splits (elements : List BerTlv) (bytes : Bytes) (h : Splits elements bytes) :
    bytes = elements.flatMap BerTlv.encoded := by
  induction h with
  | nil => rfl
  | cons tlv rest bytes hread htag hrest ih => rw [List.flatMap_cons, ← ih]
  | last tlv trailing hread htag =>
      rw [List.flatMap_singleton, BerTlv.encoded, BerTlv.encoded, List.append_assoc]

/-- The user information stands last. -/
theorem splits_information (elements : List BerTlv) (bytes : Bytes) (h : Splits elements bytes)
    (hsome : ∃ element ∈ elements, element.tag = userInformationTag) :
    ∃ front tlv trailing, elements = front ++ [{ tlv with value := tlv.value ++ trailing }] ∧
      (∀ element ∈ front, element.tag ≠ userInformationTag) ∧
        Accepts readBerTlv tlv.encoded tlv ∧ tlv.tag = userInformationTag := by
  induction h with
  | nil =>
      rcases hsome with ⟨element, helement, -⟩
      exact absurd helement List.not_mem_nil
  | cons first rest bytes hread htag hrest ih =>
      -- It is not the first element, so it is one of the others.
      have hlater : ∃ element ∈ rest, element.tag = userInformationTag := by
        rcases hsome with ⟨element, helement, hinformation⟩
        rcases List.mem_cons.mp helement with rfl | hmem
        · exact absurd hinformation htag
        · exact ⟨element, hmem, hinformation⟩
      rcases ih hlater with ⟨front, tlv, trailing, rfl, hfront, hlast, hinformation⟩
      refine ⟨first :: front, tlv, trailing, rfl, fun element helement => ?_, hlast, hinformation⟩
      rcases List.mem_cons.mp helement with rfl | hmem
      · exact htag
      · exact hfront element hmem
  | last tlv trailing hread htag =>
      exact ⟨[], tlv, trailing, rfl, fun element helement => absurd helement List.not_mem_nil,
        hread, htag⟩

/-- A release that was encoded is cut into its content again. -/
theorem readReleaseTlv_berTlvBytes (tag : UInt8) (htag : isMultiByteTag tag = false)
    (content : Bytes) (hsize : content.length ≤ 256) :
    ∃ release, readReleaseTlv (berTlvBytes tag content) tag = .ok release ∧
      release.value = content := by
  have hbig : 1024 < 256 ^ sizeOctets := by decide
  have hread := accepts_of_decodes _ _ _ (decodes_readBerTlv tag content htag (by omega))
  rw [Accepts] at hread
  refine ⟨{ tag, header := berHeaderBytes tag content.length, value := content ++ [] }, ?_,
    List.append_nil content⟩
  rw [readReleaseTlv, hread]
  simp

/-! ### Which releases are recoded -/

section Recoding

variable {initiate : Type} (decodeInitiate : Bytes → Except ApduStatus initiate)

/-- An initiate APDU that is accepted is refused with more bytes behind it. -/
def Strict : Prop :=
  ∀ bytes value, decodeInitiate bytes = .ok value →
    ∀ more other, more ≠ [] → decodeInitiate (bytes ++ more) ≠ .ok other

/-- User information that was read is refused with more bytes behind it. -/
theorem information_extended (hstrict : Strict decodeInitiate) (tlv : BerTlv) (value more : Bytes)
    (first second : ReleaseChild initiate) (htag : tlv.tag = userInformationTag)
    (hmore : more ≠ [])
    (hfirst : interpretReleaseElement decodeInitiate { tlv with value := value } = .ok first)
    (hsecond : interpretReleaseElement decodeInitiate { tlv with value := value ++ more } =
      .ok second) : False := by
  have hother : tlv.tag ≠ releaseReasonTag := by
    rw [htag]
    decide
  rw [interpretReleaseElement, if_neg hother, if_pos htag] at hfirst hsecond
  rw [readUserInformation, if_neg (not_not_intro htag)] at hfirst hsecond
  dsimp only at hfirst hsecond
  rcases hread : readBerTlv value with status | ⟨octetString, rest⟩
  · simp [hread, bind, Except.bind] at hfirst
  -- The octet string is read as before, and the bytes come to stand behind it.
  · have hlonger := steady_of_delimited _ delimited_readBerTlv _ _ _ more hread
    simp only [hread] at hfirst
    simp only [hlonger] at hsecond
    by_cases hoctets : octetString.tag ≠ octetStringTag
    · simp [if_pos hoctets, bind, Except.bind] at hfirst
    · simp only [if_neg hoctets, if_true, bind, Except.bind] at hfirst hsecond
      rcases hvalue : decodeInitiate (octetString.value ++ rest) with status | decoded
      · simp [hvalue] at hfirst
      · rcases hagain : decodeInitiate (octetString.value ++ (rest ++ more)) with status | other
        · simp [hagain] at hsecond
        · rw [← List.append_assoc] at hagain
          exact hstrict _ decoded hvalue more other hmore hagain

section Release

variable (tag : UInt8) (htag : isMultiByteTag tag = false) (elements : List BerTlv)
  (apdu : ReleaseApdu initiate) (h : Interpreted decodeInitiate elements apdu)

include h

/-- The reason of the record is narrow when the last reason of the elements is. -/
theorem narrow_iff :
    (∀ number, apdu.reason = some number → -128 ≤ number ∧ number ≤ 127) ↔
      ∀ last number, (reasons elements).getLast? = some last →
        readPrimitiveIntegerValue last = .ok number → -128 ≤ number ∧ number ≤ 127 := by
  rcases reason_of_interpreted decodeInitiate elements apdu h with
    ⟨hnone, hreason⟩ | ⟨last, number, hlast, hreason, hnumber⟩
  · rw [hreason, hnone]
    simp [List.getLast?_nil]
  · rw [hreason, hlast]
    constructor
    · intro hnarrow other value hother hvalue
      rw [← Option.some.inj hother, hnumber, Except.ok.injEq] at hvalue
      rw [← hvalue]
      exact hnarrow number rfl
    · intro hnarrow value hvalue
      exact hnarrow last value rfl (by rw [hnumber, Option.some.inj hvalue])

include htag

/-- What was written decodes to what the elements of its content are. -/
theorem decodeRelease_recodedContent (others : List BerTlv) (again : ReleaseApdu initiate)
    (hfits : recodedSize elements ≤ 256)
    (hsplits : Splits others (recodedContent elements apdu.reason))
    (hothers : Interpreted decodeInitiate others again) :
    decodeRelease decodeInitiate (berTlvBytes tag (recodedContent elements apdu.reason)) tag =
      .ok again := by
  have hlength := length_recodedContent decodeInitiate elements apdu h
  rcases readReleaseTlv_berTlvBytes tag htag (recodedContent elements apdu.reason) (by omega) with
    ⟨release, hrelease, hvalue⟩
  exact (decodeRelease_iff decodeInitiate _ tag again).2
    ⟨release, others, hrelease, by rw [hvalue]; exact hsplits, hothers⟩

/-- Without a reason the content is written as it was. -/
theorem again_of_noReason (content : Bytes) (hsplits : Splits elements content)
    (hnone : reasons elements = []) (hfits : recodedSize elements ≤ 256) :
    decodeRelease decodeInitiate (berTlvBytes tag (recodedContent elements apdu.reason)) tag =
      .ok apdu := by
  have hreason : apdu.reason = none := by
    rcases reason_of_interpreted decodeInitiate elements apdu h with
      ⟨-, hreason⟩ | ⟨last, number, hlast, -, -⟩
    · exact hreason
    · rw [hnone] at hlast
      exact absurd hlast (by simp [List.getLast?_nil])
  -- No element is a reason, so all of them are kept.
  have hkept : kept elements = elements := by
    rw [kept, List.filter_eq_self]
    intro element helement
    rw [reasons, List.filter_eq_nil_iff] at hnone
    have hother := hnone element helement
    simp only [decide_eq_true_eq] at hother
    simp [hother]
  have hcontent : recodedContent elements apdu.reason = content := by
    rw [recodedContent, hreason, hkept, bytes_of_splits elements content hsplits]
    exact List.append_nil _
  refine decodeRelease_recodedContent decodeInitiate tag htag elements apdu h elements apdu hfits
    ?_ h
  rw [hcontent]
  exact hsplits

omit htag

/-- A release without user information has no initiate APDU and no such field. -/
theorem noInitiate_of_noInformation
    (hother : ∀ element ∈ elements, element.tag ≠ userInformationTag) :
    apdu.initiate = none ∧ apdu.fields.filter (·.tag = userInformationTag) = [] := by
  constructor
  · rcases h.children with ⟨children, hforall, rfl⟩
    change (children.filterMap (·.initiate)).getLast? = none
    rw [initiates_of_forall₂ decodeInitiate elements children hforall hother, List.getLast?_nil]
  · rw [fields_of_interpreted decodeInitiate elements apdu h, List.filter_eq_nil_iff]
    intro field hfield
    rcases List.mem_map.mp hfield with ⟨element, helement, rfl⟩
    simp [hother element helement]

include htag

/-- Without user information the reason is written behind the others, and read there. -/
theorem again_of_noInformation (content : Bytes) (hsplits : Splits elements content)
    (hother : ∀ element ∈ elements, element.tag ≠ userInformationTag)
    (number : Int) (hreason : apdu.reason = some number) (hlow : -128 ≤ number)
    (hhigh : number ≤ 127) (hfits : recodedSize elements ≤ 256) :
    ∃ again, decodeRelease decodeInitiate
        (berTlvBytes tag (recodedContent elements apdu.reason)) tag = .ok again ∧
      SameRelease again apdu := by
  have hdiffer : releaseReasonTag ≠ userInformationTag := by decide
  rcases h.children with ⟨children, hforall, -⟩
  rcases forall₂_filter _ (fun element => decide (element.tag ≠ releaseReasonTag)) elements
    children hforall with ⟨others, hothers⟩
  -- The reason as it is written is an element again, with the child that it is read as.
  let last : BerTlv :=
    { tag := releaseReasonTag, header := berHeaderBytes releaseReasonTag 1,
      value := [reasonOctet number] }
  let child : ReleaseChild initiate :=
    { field := ⟨last.tag, last.encoded⟩, reason := some number, initiate := none }
  have hlast : interpretReleaseElement decodeInitiate last = .ok child := by
    rw [interpretReleaseElement, if_pos rfl,
      readPrimitiveIntegerValue_reasonOctet _ _ number hlow hhigh]
    rfl
  have hread : Accepts readBerTlv last.encoded last :=
    accepts_of_decodes _ _ _ (decodes_readBerTlv releaseReasonTag [reasonOctet number] rfl (by
      rw [List.length_singleton]
      decide))
  have hcontent : Splits (kept elements ++ [last]) (recodedContent elements apdu.reason) := by
    rw [hreason]
    refine splits_append (kept elements) [last] _ (fun element helement => ?_) ?_
    · have hmem := (List.mem_filter.mp helement).1
      exact ⟨accepts_of_splits elements content hsplits element hmem (hother element hmem),
        hother element hmem⟩
    · have hsingle := Splits.cons last [] [] hread hdiffer .nil
      rwa [List.append_nil] at hsingle
  have hinterpreted : Interpreted decodeInitiate (kept elements ++ [last])
      { fields := (others ++ [child]).map (·.field),
        reason := lastOf (·.reason) (others ++ [child]),
        initiate := lastOf (·.initiate) (others ++ [child]) } :=
    ⟨others ++ [child], List.rel_append hothers (.cons hlast .nil), rfl⟩
  refine ⟨_, decodeRelease_recodedContent decodeInitiate tag htag elements apdu h _ _ hfits
    hcontent hinterpreted, ?_⟩
  -- Neither the kept elements nor the reason are user information.
  have hnone : ∀ element ∈ kept elements ++ [last], element.tag ≠ userInformationTag := by
    intro element helement
    rcases List.mem_append.mp helement with hmem | hmem
    · exact hother element (List.mem_filter.mp hmem).1
    · rw [List.mem_singleton.mp hmem]
      exact hdiffer
  have hbefore := noInitiate_of_noInformation decodeInitiate elements apdu h hother
  have hafter := noInitiate_of_noInformation decodeInitiate _ _ hinterpreted hnone
  refine ⟨?_, hafter.1.trans hbefore.1.symm, hafter.2.trans hbefore.2.symm⟩
  rw [hreason]
  change ((others ++ [child]).filterMap (·.reason)).getLast? = some number
  rw [List.filterMap_append]
  exact List.getLast?_concat

omit htag

/-- With a reason and user information the reason comes to stand in the user
    information, where it is refused. -/
theorem not_again_of_both (hstrict : Strict decodeInitiate) (content : Bytes)
    (hsplits : Splits elements content) (hreasons : reasons elements ≠ [])
    (hsome : ∃ element ∈ elements, element.tag = userInformationTag)
    (again : ReleaseApdu initiate) (release : BerTlv) (others : List BerTlv)
    (hvalue : release.value = recodedContent elements apdu.reason)
    (hothers : Splits others release.value)
    (hagain : Interpreted decodeInitiate others again) : False := by
  rcases splits_information elements content hsplits hsome with
    ⟨front, tlv, trailing, rfl, hfront, hread, hinformation⟩
  have hkept : kept (front ++ [{ tlv with value := tlv.value ++ trailing }]) =
      kept front ++ [{ tlv with value := tlv.value ++ trailing }] := by
    rw [kept, List.filter_append, List.filter_cons_of_pos (by
      simp only [hinformation, userInformationTag, releaseReasonTag]
      decide)]
    rfl
  -- The reason is written in some octets, which come behind the user information.
  have hmore : reasonBytes apdu.reason ≠ [] := by
    rcases reason_of_interpreted decodeInitiate _ apdu h with
      ⟨hnone, -⟩ | ⟨last, number, -, hreason, -⟩
    · exact absurd hnone hreasons
    · rw [hreason]
      exact List.cons_ne_nil _ _
  -- The content is made of the same elements, with the reason in the last of them.
  have hextended : Splits (kept front ++
      [{ tlv with value := tlv.value ++ (trailing ++ reasonBytes apdu.reason) }])
      release.value := by
    rw [hvalue, recodedContent, hkept, List.flatMap_append, List.flatMap_singleton,
      List.append_assoc]
    have hlast := Splits.last tlv (trailing ++ reasonBytes apdu.reason) hread hinformation
    have hbytes : BerTlv.encoded { tlv with value := tlv.value ++ trailing } ++
        reasonBytes apdu.reason = tlv.encoded ++ (trailing ++ reasonBytes apdu.reason) := by
      simp [BerTlv.encoded]
    rw [hbytes]
    refine splits_append (kept front) _ _ (fun element helement => ?_) hlast
    have hmem := (List.mem_filter.mp helement).1
    exact ⟨accepts_of_splits _ content hsplits element (List.mem_append_left _ hmem)
      (hfront element hmem), hfront element hmem⟩
  rw [splits_unique others _ _ hothers hextended] at hagain
  rcases h.children with ⟨children, hforall, -⟩
  rcases hagain.children with ⟨childrenAgain, hforallAgain, -⟩
  rcases forall₂_last _ _ _ _ hforall with ⟨first, hfirst⟩
  rcases forall₂_last _ _ _ _ hforallAgain with ⟨second, hsecond⟩
  rw [← List.append_assoc] at hsecond
  exact information_extended decodeInitiate hstrict tlv _ _ first second hinformation hmore
    hfirst hsecond

/-- A buffer with room for the content that is written anew has it. -/
theorem run_encodeRelease (htag : isMultiByteTag tag = false)
    (hnarrow : ∀ number, apdu.reason = some number → -128 ≤ number ∧ number ≤ 127)
    (hfits : recodedSize elements ≤ 256) (capacity : Nat) :
    (do let writer ← encodeRelease tag apdu; runEmitter capacity writer) =
      if (berTlvBytes tag (recodedContent elements apdu.reason)).length ≤ capacity then
        .ok (berTlvBytes tag (recodedContent elements apdu.reason))
      else .error .outputBufferTooSmall := by
  rw [encodeRelease_of_fits decodeInitiate elements apdu h tag hnarrow hfits]
  exact runEmitter_of_emits _ capacity _ _
    (writes_writeBerTlv tag (recodedContent elements apdu.reason) htag)

/-- The elements of a release that is recoded are recodable. -/
theorem recodable_of_recodes (hstrict : Strict decodeInitiate)
    (htag : isMultiByteTag tag = false) (content : Bytes) (hsplits : Splits elements content)
    (hrecodes : ReleaseRecodes (fun bytes => decodeRelease decodeInitiate bytes tag)
      (encodeRelease tag) apdu) : Recodable elements := by
  rcases hrecodes with ⟨bytes, again, hencode, hdecode, -⟩
  have hrun := hencode bytes.length
  rw [if_pos (Nat.le_refl _)] at hrun
  rcases hwriter : encodeRelease tag apdu with status | writer
  · simp [hwriter, bind, Except.bind] at hrun
  rcases fits_of_encodeRelease decodeInitiate elements apdu h tag writer hwriter with
    ⟨hreason, hfits⟩
  refine ⟨?_, (narrow_iff decodeInitiate elements apdu h).1 hreason, hfits⟩
  -- A reason next to user information would be read as a part of it.
  by_contra hboth
  rw [not_or] at hboth
  have hsome : ∃ element ∈ elements, element.tag = userInformationTag := by
    by_contra hnone
    exact hboth.2 fun element helement htag => hnone ⟨element, helement, htag⟩
  rw [run_encodeRelease decodeInitiate tag elements apdu h htag hreason hfits] at hrun
  split_ifs at hrun
  rw [← Except.ok.inj hrun] at hdecode
  have hlength := length_recodedContent decodeInitiate elements apdu h
  rcases readReleaseTlv_berTlvBytes tag htag (recodedContent elements apdu.reason) (by omega)
    with ⟨first, hfirst, hvalue⟩
  rcases (decodeRelease_iff decodeInitiate _ tag again).1 hdecode with
    ⟨second, others, hsecond, hothers, hagain⟩
  rw [hfirst, Except.ok.injEq] at hsecond
  subst hsecond
  exact not_again_of_both decodeInitiate elements apdu h hstrict content hsplits hboth.1 hsome
    again first others hvalue hothers hagain

/-- A release whose elements are recodable is recoded: as it was without a reason, and with the
    reason behind the others. -/
theorem recodes_of_recodable (htag : isMultiByteTag tag = false) (content : Bytes)
    (hsplits : Splits elements content) (hrecodable : Recodable elements) :
    ReleaseRecodes (fun bytes => decodeRelease decodeInitiate bytes tag) (encodeRelease tag)
      apdu := by
  have hreason := (narrow_iff decodeInitiate elements apdu h).2 hrecodable.narrow
  have hrun := run_encodeRelease decodeInitiate tag elements apdu h htag hreason hrecodable.fits
  rcases reason_of_interpreted decodeInitiate elements apdu h with
    ⟨hnone, -⟩ | ⟨last, number, hlast, hsome, -⟩
  · exact ⟨_, apdu, hrun, again_of_noReason decodeInitiate tag htag elements apdu h content
      hsplits hnone hrecodable.fits, rfl, rfl, rfl⟩
  · have hother : ∀ element ∈ elements, element.tag ≠ userInformationTag := by
      rcases hrecodable.apart with hnone | hother
      · rw [hnone] at hlast
        exact absurd hlast (by simp [List.getLast?_nil])
      · exact hother
    rcases hreason number hsome with ⟨hlow, hhigh⟩
    rcases again_of_noInformation decodeInitiate tag htag elements apdu h content hsplits hother
      number hsome hlow hhigh hrecodable.fits with ⟨again, hagain, hsame⟩
    exact ⟨_, again, hrun, hagain, hsame⟩

end Release

/-- A release that was decoded is recoded exactly when its elements are recodable. -/
theorem recodes_iff_recodable (hstrict : Strict decodeInitiate) (tag : UInt8)
    (htag : isMultiByteTag tag = false) (input : Bytes) (apdu : ReleaseApdu initiate)
    (h : decodeRelease decodeInitiate input tag = .ok apdu) :
    ReleaseRecodes (fun bytes => decodeRelease decodeInitiate bytes tag) (encodeRelease tag) apdu ↔
      Recodable (releaseElements input tag) := by
  rcases (decodeRelease_iff decodeInitiate input tag apdu).1 h with
    ⟨release, elements, hrelease, hsplits, hinterpreted⟩
  rw [releaseElements_of_splits input tag release elements hrelease hsplits]
  constructor
  · exact recodable_of_recodes decodeInitiate tag elements apdu hinterpreted hstrict htag
      release.value hsplits
  · exact recodes_of_recodable decodeInitiate tag elements apdu hinterpreted htag release.value
      hsplits

end Recoding

/-! ### The two release APDUs -/

theorem delimited_readOptional {α : Type} (field : Reader α) (h : Delimited field) :
    Delimited (readOptional field) := by
  refine delimited_bind _ _ ?_ fun present => ?_
  · refine delimited_bind _ _ (delimited_item _) fun raw => ?_
    split
    · exact delimited_fail _
    · exact delimited_pure _
  · split
    · rw [map_eq_pure_bind]
      exact delimited_bind _ _ h fun value => delimited_pure _
    · exact delimited_pure _

theorem delimited_readAxdrLength : Delimited readAxdrLength := by
  refine delimited_bind _ _ (delimited_item _) fun first => ?_
  split
  · exact delimited_pure _
  · dsimp only
    split
    · exact delimited_fail _
    · refine delimited_bind _ _ (delimited_items _ _) fun octets => ?_
      split
      · exact delimited_fail _
      · exact delimited_pure _

theorem delimited_readAxdrOctetString : Delimited readAxdrOctetString :=
  delimited_bind _ _ delimited_readAxdrLength fun _ => delimited_items _ _

theorem delimited_readAxdrConformance : Delimited readAxdrConformance := by
  refine delimited_bind _ _ (delimited_item _) fun tag0 => ?_
  refine delimited_bind _ _ (delimited_item _) fun tag1 => ?_
  refine delimited_bind _ _ (delimited_item _) fun length => ?_
  refine delimited_bind _ _ (delimited_item _) fun unusedBits => ?_
  split
  · exact delimited_fail _
  · refine delimited_bind _ _ (delimited_item _) fun byte0 => ?_
    refine delimited_bind _ _ (delimited_item _) fun byte1 => ?_
    exact delimited_bind _ _ (delimited_item _) fun byte2 => delimited_pure _

theorem delimited_readU16 : Delimited readU16 :=
  delimited_bind _ _ (delimited_items _ _) fun _ => delimited_pure _

/-- A decoder that runs a reader of a whole input is strict. -/
theorem strict_of_whole {initiate : Type} (reader : Reader initiate) (h : Whole reader) :
    Strict (runParser reader) := by
  intro bytes value hvalue more other hmore hother
  rw [runParser_eq_ok_iff] at hvalue hother
  rcases hvalue with ⟨rest, hvalue⟩
  rcases hother with ⟨left, hother⟩
  exact (h bytes value rest hvalue).2 more (other, left) hmore hother

theorem strict_decodeInitiateRequest : Strict decodeInitiateRequest := by
  refine strict_of_whole _ (whole_bind _ _ (delimited_item _) fun tag => ?_)
  split
  · exact whole_fail _
  · refine whole_bind _ _ (delimited_readOptional _ delimited_readAxdrOctetString) fun key => ?_
    refine whole_bind _ _ (delimited_readOptional _ (delimited_bind _ _ (delimited_item _)
      fun raw => delimited_pure _)) fun allowed => ?_
    refine whole_bind _ _ (delimited_readOptional _ (delimited_item _)) fun quality => ?_
    refine whole_bind _ _ (delimited_item _) fun version => ?_
    refine whole_bind _ _ delimited_readAxdrConformance fun conformance => ?_
    exact whole_atEnd _ _ _ delimited_readU16

theorem strict_decodeInitiateResponse : Strict decodeInitiateResponse := by
  refine strict_of_whole _ (whole_bind _ _ (delimited_item _) fun tag => ?_)
  split
  · exact whole_fail _
  · refine whole_bind _ _ (delimited_readOptional _ (delimited_item _)) fun quality => ?_
    refine whole_bind _ _ (delimited_item _) fun version => ?_
    refine whole_bind _ _ delimited_readAxdrConformance fun conformance => ?_
    refine whole_bind _ _ delimited_readU16 fun size => ?_
    exact whole_atEnd _ _ _ delimited_readU16

/-- What decodes as a release request or answer survives being encoded again
    exactly when its elements are recodable. -/
theorem release_recodes_iff (input : Bytes) :
    (∀ apdu, decodeRlrq input = .ok apdu →
      (ReleaseRecodes decodeRlrq encodeRlrq apdu ↔ Recodable (releaseElements input rlrqTag))) ∧
    ∀ apdu, decodeRlre input = .ok apdu →
      (ReleaseRecodes decodeRlre encodeRlre apdu ↔ Recodable (releaseElements input rlreTag)) :=
  ⟨fun apdu h => recodes_iff_recodable decodeInitiateRequest strict_decodeInitiateRequest rlrqTag
      rfl input apdu h,
    fun apdu h => recodes_iff_recodable decodeInitiateResponse strict_decodeInitiateResponse
      rlreTag rfl input apdu h⟩

/-- The answer of a meter: a reason, and user information in these octets. -/
def meterRelease (information : Bytes) : ReleaseApdu InitiateResponse where
  fields := [⟨0x80, [0x80, 0x01, 0x00]⟩, ⟨0xBE, information⟩]
  reason := some 0
  initiate := some
    { negotiatedQualityOfService := none
      negotiatedDlmsVersionNumber := 6
      negotiatedConformance := ⟨0x00, 0x10, 0x10⟩
      serverMaxReceivePduSize := 512
      vaaName := 7 }

/-- An answer with user information behind its reason, which goes to the end when
    it is encoded again. -/
theorem release_recodes_iff_otherOrder :
    ReleaseRecodes decodeRlre encodeRlre (meterRelease [0xBE, 0x10, 0x04, 0x0E, 0x08, 0x00, 0x06,
        0x5F, 0x1F, 0x04, 0x00, 0x00, 0x10, 0x10, 0x02, 0x00, 0x00, 0x07]) ↔
      Recodable (releaseElements [0x63, 0x15, 0x80, 0x01, 0x00, 0xBE, 0x10, 0x04, 0x0E, 0x08, 0x00,
        0x06, 0x5F, 0x1F, 0x04, 0x00, 0x00, 0x10, 0x10, 0x02, 0x00, 0x00, 0x07] rlreTag) :=
  (release_recodes_iff _).2 _ rfl

/-- The same with user information whose size is one octet short. -/
def liveRlre : Bytes :=
  [0x63, 0x11, 0x80, 0x01, 0x00, 0xBE, 0x0F, 0x04, 0x0E, 0x08, 0x00, 0x06, 0x5F, 0x1F, 0x04, 0x00,
    0x00, 0x10, 0x10, 0x02, 0x00, 0x00, 0x07]

/-- The same answer, encoded again with its reason at the end. -/
def recodedRlre : Bytes :=
  [0x63, 0x15, 0xBE, 0x0F, 0x04, 0x0E, 0x08, 0x00, 0x06, 0x5F, 0x1F, 0x04, 0x00, 0x00, 0x10, 0x10,
    0x02, 0x00, 0x00, 0x07, 0x80, 0x01, 0x00]

theorem not_recodes_liveRlre :
    ¬ ∀ input apdu, decodeRlre input = .ok apdu → ReleaseRecodes decodeRlre encodeRlre apdu := by
  intro h
  rcases h liveRlre _ rfl with ⟨bytes, again, hencode, hdecode, -⟩
  have hrun := hencode 64
  have hbytes : (do
      let writer ← encodeRlre (meterRelease [0xBE, 0x0F, 0x04, 0x0E, 0x08, 0x00, 0x06, 0x5F, 0x1F,
        0x04, 0x00, 0x00, 0x10, 0x10, 0x02, 0x00, 0x00, 0x07])
      runEmitter 64 writer) = .ok recodedRlre := rfl
  have hwritten : bytes = recodedRlre := by
    have hsame := hrun.symm.trans hbytes
    split_ifs at hsame
    exact Except.ok.inj hsame
  have hrefused : decodeRlre recodedRlre = .error .invalidLength := rfl
  rw [hwritten, hrefused] at hdecode
  cases hdecode

end Apdu

end Dlms
