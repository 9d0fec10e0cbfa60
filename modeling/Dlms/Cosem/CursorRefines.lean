import Dlms.Cosem.Cursor

/-!
# A decoder stays inside of its input

Each helper does at its offset what it is meant to do with what is left. From a position within the
input it comes to such a position, and what it notes is inside of the input. The only helper that
can note anything else is the one that adds, and only when it lets the exception through.

A decoder is a program over the helpers, so it stays inside as long as no helper that it gets to
lets an exception through. Two kinds of helpers can: the one that asks a vector for room, by the
number that the input announces, and the one that adds, by a length close to the largest word. A
decoder that makes neither call stays inside of every input.

## Main definitions

* `At`: A position within the input, and what is left there.
* `Does`: A helper does what it is meant to.
* `Calm`: A reader lets no exception through.

## Theorems

* `goes_readLengthOctets`: A length is read without a loss.
* `refines_helper`: Every helper does what it is meant to.
* `thrown_means_iff`: When a helper lets an exception through.
* `staysInside_iff_asked`: When a decoder stays inside of its input.
-/

namespace Dlms

namespace Cosem

open Codec
open Apdu (Bytes)

/-! ### The offset and the view -/

/-- The words of a decoder are at what the view has. -/
structure At (input : ByteBuffer) (p : Position) (view : View) : Prop where
  order : p.mark.toNat ≤ p.offset.toNat
  within : p.offset.toNat ≤ input.octets.length
  rest : view.rest = input.octets.drop p.offset.toNat
  kept : view.kept = (input.octets.drop p.mark.toNat).take (p.offset.toNat - p.mark.toNat)

section Steps

variable (input : ByteBuffer) (p : Position) (view : View)

/-- The notes of this input are good when they are inside of it. -/
abbrev Goes {α : Type} (c : Cursor α) (a : α) (p' : Position) : Prop :=
  Noting.Goes (Inside input.octets.length) c p a p'

abbrev Stops {α : Type} (c : Cursor α) (e : Refusal) : Prop :=
  Noting.Stops (Inside input.octets.length) Refusal.Thrown c p e

theorem length_rest (h : At input p view) :
    view.rest.length = input.octets.length - p.offset.toNat := by
  rw [h.rest, List.length_drop]

/-- What is left is what the subtraction of the words says. -/
theorem toNat_left (h : At input p view) :
    (input.size - p.offset).toNat = view.rest.length := by
  have hle : p.offset ≤ input.size := by
    rw [UInt64.le_iff_toNat_le, input.toNat_size]
    exact h.within
  -- The offset is within the input, so the subtraction does not wrap around.
  rw [UInt64.toNat_sub_of_le _ _ hle, input.toNat_size, length_rest input p view h]

/-- A sum of words that stays within the input does not wrap around. -/
theorem toNat_add (h : At input p view) (count : UInt64) (hcount : count.toNat ≤ view.rest.length) :
    (p.offset + count).toNat = p.offset.toNat + count.toNat := by
  have hfits := input.fits
  have hwithin := h.within
  rw [length_rest input p view h] at hcount
  rw [maximumVectorSize] at hfits
  rw [UInt64.toNat_add, Nat.mod_eq_of_lt (by omega)]

/-- Behind so many octets. -/
theorem at_past (h : At input p view) (count : UInt64) (hcount : count.toNat ≤ view.rest.length) :
    At input { p with offset := p.offset + count } (view.past count.toNat) where
  order := by
    rw [toNat_add input p view h count hcount]
    exact Nat.le_add_right_of_le h.order
  within := by
    have hrest := length_rest input p view h
    have hwithin := h.within
    rw [toNat_add input p view h count hcount]
    omega
  rest := by
    rw [toNat_add input p view h count hcount, View.past, h.rest, List.drop_drop]
  kept := by
    rw [toNat_add input p view h count hcount, View.past, h.rest, h.kept,
      Nat.sub_add_comm h.order, List.take_add, List.drop_drop]
    dsimp only
    rw [List.drop_drop, Nat.add_sub_cancel' h.order]

theorem View.one_le_of_cons (octet : UInt8) (rest : Bytes) (hrest : view.rest = octet :: rest) :
    (1 : UInt64).toNat ≤ view.rest.length := by
  rw [hrest, List.length_cons]
  exact Nat.le_add_left _ _

/-- Behind the first octet. -/
theorem at_next (h : At input p view) (octet : UInt8) (rest : Bytes)
    (hrest : view.rest = octet :: rest) :
    At input { p with offset := p.offset + 1 } (view.past 1) :=
  at_past input p view h 1 (View.one_le_of_cons view octet rest hrest)

theorem View.rest_past_one (octet : UInt8) (rest : Bytes) (hrest : view.rest = octet :: rest) :
    (view.past 1).rest = rest := by
  rw [View.past, hrest, List.drop_succ_cons, List.drop_zero]

theorem View.past_zero : view.past 0 = view := by
  rw [View.past, List.take_zero, List.append_nil, List.drop_zero]

theorem goes_requireLeft (h : At input p view) (size : UInt64)
    (hsize : size.toNat ≤ view.rest.length) :
    Goes input p (Cursor.requireLeft input size) () p := by
  refine ⟨[.passed p.offset.toNat size.toNat], ?_, fun n hn => ?_⟩
  · rw [Cursor.requireLeft, if_neg]
    rw [UInt64.lt_iff_toNat_lt, toNat_left input p view h]
    exact Nat.not_lt.mpr hsize
  · have hrest := length_rest input p view h
    have hwithin := h.within
    rw [List.mem_singleton.mp hn]
    show p.offset.toNat + size.toNat ≤ input.octets.length
    omega

theorem stops_requireLeft (h : At input p view) (size : UInt64)
    (hsize : view.rest.length < size.toNat) :
    Stops input p (Cursor.requireLeft input size) .invalid := by
  refine ⟨[], ?_, fun _ _ hn => absurd hn List.not_mem_nil⟩
  rw [Cursor.requireLeft, if_pos]
  rwa [UInt64.lt_iff_toNat_lt, toNat_left input p view h]

theorem goes_requireOctet (h : At input p view) (octet : UInt8) (rest : Bytes)
    (hrest : view.rest = octet :: rest) : Goes input p (Cursor.requireOctet input) () p := by
  have hsome := length_rest input p view h
  rw [hrest, List.length_cons] at hsome
  refine ⟨[.passed p.offset.toNat 1], ?_, fun n hn => ?_⟩
  · rw [Cursor.requireOctet, if_neg]
    rw [ge_iff_le, UInt64.le_iff_toNat_le, input.toNat_size]
    omega
  · rw [List.mem_singleton.mp hn]
    show p.offset.toNat + 1 ≤ input.octets.length
    omega

theorem stops_requireOctet (h : At input p view) (hrest : view.rest = []) :
    Stops input p (Cursor.requireOctet input) .invalid := by
  have hnone := congrArg List.length hrest
  rw [length_rest input p view h, List.length_nil] at hnone
  refine ⟨[], ?_, fun _ _ hn => absurd hn List.not_mem_nil⟩
  rw [Cursor.requireOctet, if_pos]
  rw [ge_iff_le, UInt64.le_iff_toNat_le, input.toNat_size]
  omega

theorem goes_advance (h : At input p view) (size : UInt64)
    (hsize : size.toNat ≤ view.rest.length) :
    Goes input p (Cursor.advance size) () { p with offset := p.offset + size } := by
  refine ⟨_, rfl, fun n hn => ?_⟩
  have hafter := (at_past input p view h size hsize).within
  have hsum := toNat_add input p view h size hsize
  rw [List.mem_singleton.mp hn]
  refine ⟨?_, hafter⟩
  rw [hsum]
  exact Nat.le_add_right _ _

/-- The octet at the offset is the first of what is left. -/
theorem octetAt_offset (h : At input p view) (octet : UInt8) (rest : Bytes)
    (hrest : view.rest = octet :: rest) : Cursor.octetAt input p.offset = octet := by
  have hhead := congrArg List.head? (h.rest.symm.trans hrest)
  rw [List.head?_drop, List.head?_cons] at hhead
  rw [Cursor.octetAt, List.getD_eq_getElem?_getD, hhead, Option.getD_some]

theorem goes_next (h : At input p view) (octet : UInt8) (rest : Bytes)
    (hrest : view.rest = octet :: rest) :
    Goes input p (Cursor.next input) octet { p with offset := p.offset + 1 } := by
  have hone := View.one_le_of_cons view octet rest hrest
  have hlength := length_rest input p view h
  have hoctet := octetAt_offset input p view h octet rest hrest
  refine ⟨_, by rw [Cursor.next, hoctet], fun n hn => ?_⟩
  rcases List.mem_cons.mp hn with rfl | hn
  · show p.offset.toNat < input.octets.length
    rw [hrest, List.length_cons] at hlength
    omega
  · rcases goes_advance input p view h 1 hone with ⟨notes, hrun, hgood⟩
    have hnotes : [Event.moved p.offset.toNat (p.offset + 1).toNat] = notes :=
      congrArg Prod.fst hrun
    exact hgood n (hnotes ▸ hn)

/-- What is done behind the first octet. -/
theorem goes_first {α : Type} (h : At input p view) (f : UInt8 → Cursor α) (octet : UInt8)
    (rest : Bytes) (hrest : view.rest = octet :: rest) (a : α) (p' : Position)
    (hf : Goes input { p with offset := p.offset + 1 } (f octet) a p') :
    Goes input p (do Cursor.requireOctet input; let b ← Cursor.next input; f b) a p' := by
  exact Noting.goes_bind (goes_requireOctet input p view h octet rest hrest)
    (Noting.goes_bind (goes_next input p view h octet rest hrest) hf)

theorem stops_first {α : Type} (h : At input p view) (f : UInt8 → Cursor α) (octet : UInt8)
    (rest : Bytes) (hrest : view.rest = octet :: rest) (e : Refusal)
    (hf : Stops input { p with offset := p.offset + 1 } (f octet) e) :
    Stops input p (do Cursor.requireOctet input; let b ← Cursor.next input; f b) e := by
  exact Noting.stops_bind (goes_requireOctet input p view h octet rest hrest)
    (Noting.stops_bind (goes_next input p view h octet rest hrest) hf)

/-- Octets within the input are copied as they are. -/
theorem goes_copy (start : UInt64) (count : Nat)
    (hcount : start.toNat + count ≤ input.octets.length) :
    Goes input p (Cursor.copy input start count)
      ((input.octets.drop start.toNat).take count) p := by
  refine ⟨_, rfl, fun n hn => ?_⟩
  rcases List.mem_map.mp hn with ⟨i, hi, rfl⟩
  show start.toNat + i < input.octets.length
  have hlt := List.mem_range.mp hi
  omega

theorem goes_copyAhead (h : At input p view) (size : UInt64)
    (hsize : size.toNat ≤ view.rest.length) :
    Goes input p (Cursor.copyAhead input size) (view.rest.take size.toNat) p := by
  have hlength := length_rest input p view h
  have hwithin := h.within
  rw [h.rest]
  exact goes_copy input p p.offset size.toNat (by omega)

end Steps

/-! ### The helpers do what they are meant to -/

theorem View.past_past (view : View) (m n : Nat) :
    (view.past m).past n = view.past (m + n) := by
  simp [View.past, List.drop_drop, List.take_add]

theorem View.length_past (view : View) (n : Nat) :
    (view.past n).rest.length = view.rest.length - n := by
  rw [View.past, List.length_drop]

/-- A length grows by an octet while there is room for it in the word. -/
theorem toNat_shift_or (length : UInt64) (octet : UInt8) (h : length.toNat < 2 ^ 56) :
    ((length <<< 8) ||| octet.toUInt64).toNat = length.toNat * 256 + octet.toNat := by
  have hoctet : octet.toNat < 2 ^ 8 := octet.toNat_lt
  have hshift : (length <<< 8).toNat = length.toNat <<< 8 := by
    rw [UInt64.toNat_shiftLeft, Nat.shiftLeft_eq, Nat.shiftLeft_eq]
    exact Nat.mod_eq_of_lt (by simp only [UInt64.reduceToNat, Nat.reduceMod]; omega)
  rw [UInt64.toNat_or, hshift, UInt8.toNat_toUInt64, ← Nat.shiftLeft_add_eq_or_of_lt hoctet,
    Nat.shiftLeft_eq]

/-- The octets of a length are read one after another. The induction is on how many there are, and
    the word has room for them. -/
theorem goes_readLengthOctets (input : ByteBuffer) (n : Nat) (length : UInt64) (p : Position)
    (view : View) (h : At input p view) (hn : n ≤ view.rest.length) (height : n ≤ sizeOfLength)
    (hlength : length.toNat < 256 ^ (sizeOfLength - n)) :
    ∃ p', Goes input p (Cursor.readLengthOctets input n length)
      (UInt64.ofNat (beValueFrom length.toNat (view.rest.take n))) p' ∧
        At input p' (view.past n) := by
  induction n generalizing length p view with
  | zero =>
      refine ⟨p, ?_, ?_⟩
      · rw [List.take_zero, beValueFrom, UInt64.ofNat_toNat]
        exact Noting.goes_pure _ _ _
      · rwa [View.past_zero]
  | succ n ih =>
      cases hrest : view.rest with
      | nil => exact absurd hn (by rw [hrest]; exact Nat.not_succ_le_zero n)
      | cons octet rest =>
          have hat := at_next input p view h octet rest hrest
          -- At most seven octets came before, so the next one does not push any out of the word.
          have hbound : length.toNat < 2 ^ 56 := by
            refine hlength.trans_le ?_
            rw [show (2 : Nat) ^ 56 = 256 ^ 7 from rfl]
            exact Nat.pow_le_pow_right (by omega) (by rw [sizeOfLength]; omega)
          have hgrown := toNat_shift_or length octet hbound
          have hmore : ((length <<< 8) ||| octet.toUInt64).toNat < 256 ^ (sizeOfLength - n) := by
            have hoctet : octet.toNat < 256 := octet.toNat_lt
            rw [hgrown, show sizeOfLength - n = sizeOfLength - (n + 1) + 1 by omega, pow_succ]
            omega
          have hleft : n ≤ (view.past 1).rest.length := by
            rw [View.length_past]
            omega
          -- The rest of the octets go on from the grown length.
          rcases ih _ _ (view.past 1) hat hleft (by omega) hmore with ⟨p', hgoes, hat'⟩
          refine ⟨p', ?_, ?_⟩
          · have hvalue : beValueFrom length.toNat ((octet :: rest).take (n + 1)) =
                beValueFrom ((length <<< 8) ||| octet.toUInt64).toNat
                  ((view.past 1).rest.take n) := by
              rw [List.take_succ_cons, beValueFrom, hgrown,
                View.rest_past_one view octet rest hrest]
            rw [hvalue]
            exact Noting.goes_bind (goes_next input p view h octet rest hrest)
              hgoes
          · rw [View.past_past, Nat.add_comm] at hat'
            exact hat'

/-- A reader that takes so many octets. -/
theorem View.read_of_ok {α : Type} (reader : DataReader α) (view : View) (a : α) (n : Nat)
    (hn : n ≤ view.rest.length) (h : reader view.rest = .ok (a, view.rest.drop n)) :
    view.read reader = .ok (a, view.past n) := by
  simp [View.read, h, Nat.sub_sub_self hn]

theorem View.read_of_error {α : Type} (reader : DataReader α) (view : View) (e : Refusal)
    (h : reader view.rest = .error e) : view.read reader = .error e := by
  simp [View.read, h]

variable {asks : Bool} {memory : Nat}

/-- What is asked of a helper at an offset. -/
abbrev Does {α : Type} (memory : Nat) (input : ByteBuffer) (helper : Helper asks α) : Prop :=
  Refines (At input) (Inside input.octets.length) Refusal.Thrown (handle memory input α helper)
    (means memory input.octets.length α helper)

theorem does_refuse (input : ByteBuffer) : Does memory input (.refuse : Helper asks Empty) :=
  fun p _ _ => Noting.stops_fail _ _ _ p

theorem does_readByte (input : ByteBuffer) : Does memory input (.readByte : Helper asks UInt8) := by
  intro p view h
  cases hrest : view.rest with
  | nil =>
      have hread : view.read readByte = .error .invalid :=
        View.read_of_error _ _ _ (by rw [hrest]; rfl)
      rw [means, hread]
      exact Noting.stops_first (stops_requireOctet input p view h hrest)
  | cons octet rest =>
      have hread : view.read readByte = .ok (octet, view.past 1) :=
        View.read_of_ok _ _ _ 1 (View.one_le_of_cons view octet rest hrest) (by rw [hrest]; rfl)
      rw [means, hread]
      exact ⟨_, Noting.goes_bind (goes_requireOctet input p view h octet rest hrest)
        (goes_next input p view h octet rest hrest), at_next input p view h octet rest hrest⟩

/-- The length in front of what is left, by its first octet. -/
theorem readLength_cons (first : UInt8) (rest : Bytes) : readLength (first :: rest) =
    if first &&& 0x80 = 0 then .ok (first.toNat, rest)
    else if ((first &&& 0x7F).toNat = 0 ∨ (first &&& 0x7F).toNat > sizeOfLength) ∨
        rest.length < (first &&& 0x7F).toNat then .error .invalid
    else .ok (beValue (rest.take (first &&& 0x7F).toNat), rest.drop (first &&& 0x7F).toNat) := by
  simp only [readLength, readAxdrLength, List.getElem?_cons_zero, List.length_cons,
    Nat.zero_add, Nat.add_sub_cancel, List.drop_succ_cons, List.drop_zero, or_assoc]
  split_ifs
  · rfl
  · rfl
  · simp [Nat.add_comm 1]

theorem readLengthWord_of_ok (ts left : Bytes) (n : Nat) (h : readLength ts = .ok (n, left)) :
    readLengthWord ts = .ok (UInt64.ofNat n, left) := by
  simp only [readLengthWord, Functor.map, StateT.map, h]
  rfl

theorem readLengthWord_of_error (ts : Bytes) (e : Refusal) (h : readLength ts = .error e) :
    readLengthWord ts = .error e := by
  simp only [readLengthWord, Functor.map, StateT.map, h]
  rfl

/-- The length in the short form. -/
theorem read_shortLength (view : View) (first : UInt8) (rest : Bytes)
    (hrest : view.rest = first :: rest) (hshort : first &&& 0x80 = 0) :
    view.read readLengthWord = .ok (first.toUInt64, view.past 1) := by
  have hcons := readLength_cons first rest
  rw [if_pos hshort, ← hrest] at hcons
  refine View.read_of_ok _ _ _ 1 (View.one_le_of_cons view first rest hrest)
    ((readLengthWord_of_ok _ _ _ hcons).trans ?_)
  rw [hrest, UInt64.ofNat_uInt8ToNat]
  rfl

/-- The length in the long form, with the octets that the first one says. -/
theorem read_longLength (view : View) (first : UInt8) (rest : Bytes)
    (hrest : view.rest = first :: rest) (hlong : first &&& 0x80 ≠ 0)
    (hgood : ¬((first &&& 0x7F).toNat = 0 ∨ (first &&& 0x7F).toNat > sizeOfLength))
    (hcount : (first &&& 0x7F).toNat ≤ rest.length) :
    view.read readLengthWord =
      .ok (UInt64.ofNat (beValue (rest.take (first &&& 0x7F).toNat)),
        (view.past 1).past (first &&& 0x7F).toNat) := by
  have hcons := readLength_cons first rest
  rw [if_neg hlong, if_neg (not_or.mpr ⟨hgood, Nat.not_lt.mpr hcount⟩), ← hrest] at hcons
  rw [View.past_past]
  refine View.read_of_ok _ _ _ _ ?_ ((readLengthWord_of_ok _ _ _ hcons).trans ?_)
  · rw [hrest, List.length_cons]
    omega
  · rw [hrest, Nat.add_comm, List.drop_succ_cons]

/-- The length is refused for its first octet, or for what is missing behind it. -/
theorem read_noLength (view : View) (first : UInt8) (rest : Bytes)
    (hrest : view.rest = first :: rest) (hlong : first &&& 0x80 ≠ 0)
    (hbad : ((first &&& 0x7F).toNat = 0 ∨ (first &&& 0x7F).toNat > sizeOfLength) ∨
      rest.length < (first &&& 0x7F).toNat) :
    view.read readLengthWord = .error .invalid := by
  have hcons := readLength_cons first rest
  rw [if_neg hlong, if_pos hbad, ← hrest] at hcons
  exact View.read_of_error _ _ _ (readLengthWord_of_error _ _ hcons)

/-- The octets of a length behind its first one. -/
theorem goes_longLength (input : ByteBuffer) (p : Position) (view : View) (h : At input p view)
    (count : UInt8) (hcount : count.toNat ≤ view.rest.length)
    (height : count.toNat ≤ sizeOfLength) :
    ∃ p', Goes input p (do
        Cursor.requireLeft input count.toUInt64
        Cursor.readLengthOctets input count.toNat 0)
      (UInt64.ofNat (beValue (view.rest.take count.toNat))) p' ∧
        At input p' (view.past count.toNat) := by
  rcases goes_readLengthOctets input _ 0 p view h hcount height (Nat.pow_pos (by decide)) with
    ⟨p', hoctets, hat⟩
  exact ⟨p', Noting.goes_bind (goes_requireLeft input p view h _ hcount) hoctets, hat⟩

theorem does_readAxdrLength (input : ByteBuffer) :
    Does memory input (.readAxdrLength : Helper asks UInt64) := by
  intro p view h
  cases hrest : view.rest with
  | nil =>
      have hread : view.read readLengthWord = .error .invalid :=
        View.read_of_error _ _ _ (readLengthWord_of_error _ _ (by rw [hrest]; rfl))
      rw [means, hread]
      exact Noting.stops_first (stops_requireOctet input p view h hrest)
  | cons first rest =>
      have hat := at_next input p view h first rest hrest
      have hleft := View.rest_past_one view first rest hrest
      -- The first octet is read in any case, and what comes next is by its value.
      have hgoes {α : Type} (f : UInt8 → Cursor α) (a : α) (p' : Position) :=
        goes_first input p view h f first rest hrest a p'
      have hstops {α : Type} (f : UInt8 → Cursor α) (e : Refusal) :=
        stops_first input p view h f first rest hrest e
      by_cases hshort : first &&& 0x80 = 0
      · rw [means, read_shortLength view first rest hrest hshort]
        refine ⟨_, hgoes _ _ _ ?_, hat⟩
        rw [if_pos hshort]
        exact Noting.goes_pure _ _ _
      by_cases hbad : (first &&& 0x7F).toNat = 0 ∨ (first &&& 0x7F).toNat > sizeOfLength
      · rw [means, read_noLength view first rest hrest hshort (.inl hbad)]
        refine hstops _ _ ?_
        rw [if_neg hshort, if_pos hbad]
        exact Noting.stops_fail _ _ _ _
      by_cases hfew : rest.length < (first &&& 0x7F).toNat
      · rw [means, read_noLength view first rest hrest hshort (.inr hfew)]
        refine hstops _ _ ?_
        rw [if_neg hshort, if_neg hbad]
        refine Noting.stops_first (stops_requireLeft input _ _ hat _ ?_)
        rwa [hleft, UInt8.toNat_toUInt64]
      · have hcount := Nat.not_lt.mp hfew
        have height : (first &&& 0x7F).toNat ≤ sizeOfLength :=
          Nat.not_lt.mp fun hgt => hbad (Or.inr hgt)
        rcases goes_longLength input _ _ hat (first &&& 0x7F) (hleft.symm ▸ hcount) height with
          ⟨p', hoctets, hat'⟩
        rw [hleft] at hoctets
        rw [means, read_longLength view first rest hrest hshort hbad hcount]
        refine ⟨p', hgoes _ _ _ ?_, hat'⟩
        rw [if_neg hshort, if_neg hbad]
        exact hoctets

/-- A reader of so many octets, whatever they are. -/
theorem items_of_le (size : Nat) (ts : Bytes) (h : size ≤ ts.length) :
    readFixedBytes size ts = .ok (ts.take size, ts.drop size) := by
  rw [readFixedBytes, Parser.items, if_neg (Nat.not_lt.mpr h)]

theorem items_of_lt (size : Nat) (ts : Bytes) (h : ts.length < size) :
    readFixedBytes size ts = .error .invalid := by
  rw [readFixedBytes, Parser.items, if_pos h]

theorem does_readFixedBytes (input : ByteBuffer) (size : UInt64) :
    Does memory input (.readFixedBytes size : Helper asks Bytes) := by
  intro p view h
  by_cases hsize : size.toNat ≤ view.rest.length
  · rw [means, View.read_of_ok _ _ _ size.toNat hsize (items_of_le _ _ hsize)]
    refine ⟨_, Noting.goes_bind (goes_requireLeft input p view h size hsize)
      (Noting.goes_bind (goes_copyAhead input p view h size hsize)
        (Noting.goes_bind (goes_advance input p view h size hsize)
          (Noting.goes_pure _ _ _))), at_past input p view h size hsize⟩
  · rw [means, View.read_of_error _ _ _ (items_of_lt _ _ (Nat.not_le.mp hsize))]
    exact Noting.stops_first
      (stops_requireLeft input p view h size (Nat.not_le.mp hsize))

theorem does_skip (input : ByteBuffer) (size : UInt64) :
    Does memory input (.skip size : Helper asks Unit) := by
  intro p view h
  by_cases hsize : size.toNat ≤ view.rest.length
  · have hskip : skipBytes size.toNat view.rest = .ok ((), view.rest.drop size.toNat) := by
      simp only [skipBytes, bind, StateT.bind, items_of_le _ _ hsize, Except.bind]
      rfl
    rw [means, View.read_of_ok _ _ _ size.toNat hsize hskip]
    exact ⟨_, Noting.goes_bind (goes_requireLeft input p view h size hsize)
      (goes_advance input p view h size hsize), at_past input p view h size hsize⟩
  · have hskip : skipBytes size.toNat view.rest = .error .invalid := by
      simp [skipBytes, bind, StateT.bind, items_of_lt _ _ (Nat.not_le.mp hsize), Except.bind]
    rw [means, View.read_of_error _ _ _ hskip]
    exact Noting.stops_first
      (stops_requireLeft input p view h size (Nat.not_le.mp hsize))

/-- The octet at the offset is looked at. -/
theorem goes_octetHere (input : ByteBuffer) (p : Position) (view : View) (h : At input p view)
    (octet : UInt8) (rest : Bytes) (hrest : view.rest = octet :: rest) :
    Goes input p (do Cursor.requireOctet input; Cursor.octetHere input) octet p := by
  have hlength := length_rest input p view h
  rw [hrest, List.length_cons] at hlength
  refine Noting.goes_bind (goes_requireOctet input p view h octet rest hrest)
    ⟨[.read p.offset.toNat], ?_, fun n hn => ?_⟩
  · rw [Cursor.octetHere, octetAt_offset input p view h octet rest hrest]
  · rw [List.mem_singleton.mp hn]
    show p.offset.toNat < input.octets.length
    omega

theorem does_peek (input : ByteBuffer) : Does memory input (.peek : Helper asks UInt8) := by
  intro p view h
  rw [means]
  cases hrest : view.rest with
  | nil => exact Noting.stops_first (stops_requireOctet input p view h hrest)
  | cons octet rest => exact ⟨p, goes_octetHere input p view h octet rest hrest, h⟩

theorem does_skipTag (input : ByteBuffer) (tag : UInt8) :
    Does memory input (.skipTag tag : Helper asks Bool) := by
  intro p view h
  rw [means]
  cases hrest : view.rest with
  | nil => exact Noting.stops_first (stops_requireOctet input p view h hrest)
  | cons octet rest =>
      have hone := View.one_le_of_cons view octet rest hrest
      have hhere (f : UInt8 → Cursor Bool) (answer : Bool) (p' : Position)
          (hf : Goes input p (f octet) answer p') :
          Goes input p (do Cursor.requireOctet input; let b ← Cursor.octetHere input; f b)
            answer p' := by
        rcases goes_octetHere input p view h octet rest hrest with ⟨notes, hrun, hgood⟩
        have hboth := Noting.goes_bind ⟨notes, hrun, hgood⟩ hf
        rwa [Noting.bind_assoc] at hboth
      by_cases htag : octet = tag
      · simp only [if_pos htag]
        refine ⟨_, hhere _ true _ ?_, at_past input p view h 1 hone⟩
        rw [if_pos htag]
        exact Noting.goes_bind (goes_advance input p view h 1 hone)
          (Noting.goes_pure _ _ _)
      · simp only [if_neg htag]
        refine ⟨_, hhere _ false _ ?_, h⟩
        rw [if_neg htag]
        exact Noting.goes_pure _ _ _

theorem does_atEnd (input : ByteBuffer) : Does memory input (.atEnd : Helper asks Bool) := by
  intro p view h
  have hend : (p.offset == input.size) = view.rest.isEmpty := by
    have hlength := length_rest input p view h
    have hwithin := h.within
    rw [Bool.eq_iff_iff, beq_iff_eq, List.isEmpty_iff, ← List.length_eq_zero_iff,
      ← UInt64.toNat_inj, input.toNat_size]
    omega
  refine ⟨p, ⟨[], ?_, fun _ hn => absurd hn List.not_mem_nil⟩, h⟩
  rw [handle, Cursor.atEnd, hend]

theorem does_mark (input : ByteBuffer) : Does memory input (.mark : Helper asks Unit) := by
  intro p view h
  refine ⟨_, ⟨[], rfl, fun _ hn => absurd hn List.not_mem_nil⟩, ?_⟩
  exact ⟨le_refl _, h.within, h.rest, by rw [Nat.sub_self, List.take_zero]⟩

theorem does_sinceMark (input : ByteBuffer) :
    Does memory input (.sinceMark : Helper asks Bytes) := by
  intro p view h
  -- The item begins in front of the offset, so its size does not wrap around either.
  have hle : p.mark ≤ p.offset := UInt64.le_iff_toNat_le.mpr h.order
  have hwithin := h.within
  have horder := h.order
  have hcount := UInt64.toNat_sub_of_le _ _ hle
  rcases goes_copy input p p.mark (p.offset.toNat - p.mark.toNat) (by omega) with
    ⟨notes, hrun, hgood⟩
  rw [← h.kept] at hrun
  exact ⟨p, ⟨notes, by rw [handle, Cursor.sinceMark, hcount, hrun], hgood⟩, h⟩

theorem goes_requireRest (input : ByteBuffer) (p : Position) (view : View) (h : At input p view)
    (size : UInt64) (hsize : view.rest.length = size.toNat) :
    Goes input p (Cursor.requireRest input size) () p := by
  have hsame : input.size - p.offset = size :=
    UInt64.toNat_inj.mp ((toNat_left input p view h).trans hsize)
  have hlength := length_rest input p view h
  have hwithin := h.within
  refine ⟨[.passed p.offset.toNat size.toNat], ?_, fun n hn => ?_⟩
  · rw [Cursor.requireRest, if_neg (not_not.mpr hsame)]
  · rw [List.mem_singleton.mp hn]
    show p.offset.toNat + size.toNat ≤ input.octets.length
    omega

theorem does_takeRest (input : ByteBuffer) (size : UInt64) :
    Does memory input (.takeRest size : Helper asks Bytes) := by
  intro p view h
  rw [means]
  by_cases hsize : view.rest.length = size.toNat
  · have hcopy := goes_copyAhead input p view h size (le_of_eq hsize.symm)
    rw [← hsize, List.take_length] at hcopy
    rw [if_neg (not_not.mpr hsize)]
    exact ⟨p, Noting.goes_bind (goes_requireRest input p view h size hsize) hcopy, h⟩
  · have hother : input.size - p.offset ≠ size :=
      fun heq => hsize ((toNat_left input p view h).symm.trans (congrArg _ heq))
    rw [if_pos hsize]
    refine Noting.stops_first ⟨[], ?_, fun _ _ hn => absurd hn List.not_mem_nil⟩
    rw [Cursor.requireRest, if_pos hother]

theorem does_readByteBefore (input : ByteBuffer) (more : UInt8) :
    Does memory input (.readByteBefore more : Helper asks UInt8) := by
  intro p view h
  -- The sum is of an octet and one, and fits the word.
  have hmore : (more.toUInt64 + 1).toNat = more.toNat + 1 := by
    have hlt : more.toNat < 256 := more.toNat_lt
    rw [UInt64.toNat_add, UInt8.toNat_toUInt64]
    exact Nat.mod_eq_of_lt (by simp only [UInt64.reduceToNat]; omega)
  rw [means]
  by_cases hfew : view.rest.length < more.toNat + 1
  · rw [if_pos hfew]
    exact Noting.stops_first (stops_requireLeft input p view h _ (hmore ▸ hfew))
  · rw [if_neg hfew]
    have hleft := goes_requireLeft input p view h _ (hmore ▸ Nat.not_lt.mp hfew)
    cases hrest : view.rest with
    | nil => exact absurd (by rw [hrest]; exact Nat.succ_pos _) hfew
    | cons octet rest =>
        rw [View.read_of_ok readByte view octet 1 (View.one_le_of_cons view octet rest hrest)
          (by rw [hrest]; rfl)]
        exact ⟨_, Noting.goes_bind hleft (goes_next input p view h octet rest hrest),
          at_next input p view h octet rest hrest⟩

theorem does_readTaggedByte (input : ByteBuffer) (tag : UInt8) :
    Does memory input (.readTaggedByte tag : Helper asks UInt8) := by
  intro p view h
  rw [means]
  by_cases hfew : view.rest.length < 2
  · rw [if_pos hfew]
    exact Noting.stops_first (stops_requireLeft input p view h 2 hfew)
  · rw [if_neg hfew]
    have hleft := goes_requireLeft input p view h 2 (Nat.not_lt.mp hfew)
    rcases hrest : view.rest with _ | ⟨first, _ | ⟨octet, rest⟩⟩
    · exact absurd (by rw [hrest]; decide) hfew
    · exact absurd (by rw [hrest, List.length_singleton]; decide) hfew
    · have htwo : 2 ≤ view.rest.length := Nat.not_lt.mp hfew
      have hat := at_next input p view h first (octet :: rest) hrest
      have hfirst := goes_next input p view h first (octet :: rest) hrest
      -- The tag is noted and gone over in both cases.
      by_cases htag : first = tag
      · have hread : readTagged tag view.rest = .ok (octet, view.rest.drop 2) := by
          rw [hrest, ← htag]
          exact decodes_readTagged first octet rest
        have hbehind := View.rest_past_one view first (octet :: rest) hrest
        rw [View.read_of_ok _ view octet 2 htwo hread]
        have hsecond := goes_next input _ _ hat octet rest hbehind
        have hat' := at_next input _ _ hat octet rest hbehind
        rw [View.past_past] at hat'
        refine ⟨_, Noting.goes_bind hleft
          (Noting.goes_bind hfirst ?_), hat'⟩
        rw [if_neg (not_not.mpr htag)]
        exact hsecond
      · have hread : readTagged tag view.rest = .error .invalid := by
          rw [hrest]
          simp only [readTagged, readExpectedTag, bind, StateT.bind, readByte, Parser.item,
            Except.bind, if_neg htag]
          rfl
        rw [View.read_of_error _ view _ hread]
        refine Noting.stops_bind hleft
          (Noting.stops_bind hfirst ?_)
        rw [if_pos htag]
        exact Noting.stops_fail _ _ _ _

/-- Room is refused with an exception or given, and nothing is read. -/
theorem does_reserve (input : ByteBuffer) (h : asks = true) (elementSize : Nat) (count : UInt64) :
    Does memory input (.reserve h elementSize count) := by
  intro p view hat
  rw [means, handle, Cursor.reserve]
  by_cases hmany : count.toNat > maximumCount elementSize
  · rw [View.read_of_error (reserveIn memory elementSize count.toNat) view .lengthError
      (by rw [reserveIn, if_neg fun hboth => absurd hboth.1 (Nat.not_le.mpr hmany), reserve,
        if_pos hmany]; rfl), if_pos hmany]
    exact Noting.stops_fail _ _ _ _
  by_cases hbig : elementSize * count.toNat > memory
  · rw [View.read_of_error (reserveIn memory elementSize count.toNat) view .badAlloc
      (by rw [reserveIn, if_pos ⟨Nat.not_lt.mp hmany, hbig⟩]; rfl), if_neg hmany, if_pos hbig]
    exact Noting.stops_fail _ _ _ _
  · rw [View.read_of_ok (reserveIn memory elementSize count.toNat) view () 0 (Nat.zero_le _)
      (by rw [reserveIn, if_neg fun hboth => hbig hboth.2, reserve, if_neg hmany]; rfl),
      if_neg hmany, if_neg hbig]
    refine ⟨p, Noting.goes_pure _ _ _, ?_⟩
    rwa [View.past_zero]

theorem goes_requireEnd (input : ByteBuffer) (p : Position) (view : View) (h : At input p view)
    (length : UInt64) (hname : length.toNat ≤ view.rest.length) :
    Goes input p (Cursor.requireEnd input length) () p := by
  have hfits := input.fits
  have hwithin := h.within
  have hlength := length_rest input p view h
  have hsum := toNat_add input p view h length hname
  refine ⟨[.passed p.offset.toNat length.toNat], ?_, fun n hn => ?_⟩
  · rw [Cursor.requireEnd, if_neg, if_neg]
    · omega
    · rw [gt_iff_lt, UInt64.lt_iff_toNat_lt, hsum, input.toNat_size]
      omega
  · rw [List.mem_singleton.mp hn]
    show p.offset.toNat + length.toNat ≤ input.octets.length
    omega

/-- The octets of a name are within the input, or its end is past the input, or the sum for its
    end wraps around. Only an exception is noted to have passed the check without the octets. -/
theorem does_assignName (input : ByteBuffer) (hasks : asks = true) (length : UInt64) :
    Does memory input (.assignName hasks length) := by
  intro p view h
  have hfits := input.fits
  have hwithin := h.within
  have hlength := length_rest input p view h
  have hoffset : input.octets.length - view.rest.length = p.offset.toNat := by omega
  rw [maximumVectorSize] at hfits
  by_cases hname : length.toNat ≤ view.rest.length
  · have hread : readNameOctets input.octets.length length.toNat view.rest =
        .ok (view.rest.take length.toNat, view.rest.drop length.toNat) := by
      rw [readNameOctets, if_pos hname]
    rw [means, View.read_of_ok _ view _ length.toNat hname hread]
    exact ⟨_, Noting.goes_bind (goes_requireEnd input p view h length hname)
      (Noting.goes_bind (goes_copyAhead input p view h length hname)
        (Noting.goes_bind (goes_advance input p view h length hname)
          (Noting.goes_pure _ _ _))), at_past input p view h length hname⟩
  -- There are too few octets: the sum of the words says so, or it has wrapped around.
  · have hcheck : p.offset + length > input.size ↔
        (p.offset.toNat + length.toNat) % 2 ^ 64 > input.octets.length := by
      rw [gt_iff_lt, UInt64.lt_iff_toNat_lt, UInt64.toNat_add, input.toNat_size]
    by_cases hpast : (p.offset.toNat + length.toNat) % 2 ^ 64 > input.octets.length
    · have hread : readNameOctets input.octets.length length.toNat view.rest =
          .error .invalid := by
        rw [readNameOctets, if_neg hname, hoffset, if_pos hpast]
      rw [means, View.read_of_error _ view _ hread]
      refine Noting.stops_first ⟨[], ?_, fun _ _ hn => absurd hn List.not_mem_nil⟩
      rw [Cursor.requireEnd, if_pos (hcheck.mpr hpast)]
    · have hread : readNameOctets input.octets.length length.toNat view.rest =
          .error .lengthError := by
        rw [readNameOctets, if_neg hname, hoffset, if_neg hpast]
      -- Only a length of more than a string can have makes the sum wrap around.
      have hbig : length.toNat > maximumVectorSize := by
        rw [maximumVectorSize]
        omega
      rw [means, View.read_of_error _ view _ hread]
      refine Noting.stops_first ⟨[.passed p.offset.toNat length.toNat], ?_,
        fun hne => absurd trivial hne⟩
      rw [Cursor.requireEnd, if_neg (fun hgt => hpast (hcheck.mp hgt)), if_pos hbig]

theorem refines_helper (input : ByteBuffer) (β : Type) (helper : Helper asks β) :
    Does memory input helper := by
  cases helper with
  | refuse => exact does_refuse input
  | readByte => exact does_readByte input
  | readAxdrLength => exact does_readAxdrLength input
  | readFixedBytes size => exact does_readFixedBytes input size
  | skip size => exact does_skip input size
  | peek => exact does_peek input
  | skipTag tag => exact does_skipTag input tag
  | atEnd => exact does_atEnd input
  | mark => exact does_mark input
  | sinceMark => exact does_sinceMark input
  | takeRest size => exact does_takeRest input size
  | readByteBefore more => exact does_readByteBefore input more
  | readTaggedByte tag => exact does_readTaggedByte input tag
  | reserve h elementSize count => exact does_reserve input h elementSize count
  | assignName h length => exact does_assignName input h length

theorem at_start (input : ByteBuffer) : At input start input.view where
  order := le_refl _
  within := Nat.zero_le _
  rest := rfl
  kept := rfl

/-! ### Where an exception comes from -/

/-- The reader is refused without an exception. -/
def Calm {α : Type} (reader : DataReader α) : Prop :=
  ∀ ts refusal, reader ts = .error refusal → refusal = .invalid

theorem calm_pure {α : Type} (a : α) : Calm (pure a : DataReader α) := by
  intro ts refusal h
  cases h

theorem calm_readFixedBytes (size : Nat) : Calm (readFixedBytes size) := by
  intro ts refusal h
  rw [readFixedBytes, Parser.items] at h
  split_ifs at h
  exact (Except.error.inj h).symm

theorem calm_readByte : Calm readByte := by
  intro ts refusal h
  cases ts with
  | nil => exact (Except.error.inj h).symm
  | cons octet ts => cases h

theorem calm_bind {α β : Type} (reader : DataReader α) (f : α → DataReader β) (h : Calm reader)
    (hf : ∀ a, Calm (f a)) : Calm (reader >>= f) := by
  intro ts refusal
  simp only [bind, StateT.bind]
  rcases hread : reader ts with e | ⟨a, rest⟩ <;> intro heq
  · exact h ts refusal (hread.trans (congrArg Except.error (Except.error.inj heq)))
  · exact hf a rest refusal heq

theorem calm_readTagged (tag : UInt8) : Calm (readTagged tag) := by
  refine calm_bind _ _ (calm_bind _ _ calm_readByte fun first => ?_) fun _ => calm_readByte
  split_ifs
  · exact calm_pure ()
  · intro ts refusal h
    exact (Except.error.inj h).symm

theorem calm_readLengthWord : Calm readLengthWord := by
  intro ts refusal h
  have hcalm : ∀ e, readLength ts = .error e → e = .invalid := by
    intro e hread
    cases ts with
    | nil => exact (Except.error.inj hread).symm
    | cons first rest =>
        rw [readLength_cons] at hread
        split_ifs at hread
        exact (Except.error.inj hread).symm
  -- As a word the length is refused when it is refused.
  rcases hread : readLength ts with e | ⟨n, left⟩
  · rw [readLengthWord_of_error ts e hread] at h
    rw [← Except.error.inj h]
    exact hcalm e hread
  · rw [readLengthWord_of_ok ts left n hread] at h
    cases h

theorem View.read_eq_error_iff {α : Type} (reader : DataReader α) (view : View) (e : Refusal) :
    view.read reader = .error e ↔ reader view.rest = .error e := by
  rw [View.read]
  rcases reader view.rest with e' | ⟨a, left⟩
  · simp
  · simp

theorem quiet_error {α : Type} : Quiet (.error .invalid : Except Refusal α) := by
  intro e h
  cases h
  exact id

theorem quiet_ok {α : Type} (a : α) : Quiet (.ok a : Except Refusal α) := by
  intro e h
  cases h

theorem quiet_read {α : Type} (reader : DataReader α) (view : View) (h : Calm reader) :
    Quiet (view.read reader) := by
  intro e hread
  rw [h _ _ ((View.read_eq_error_iff reader view e).mp hread)]
  exact id

/-- Room is refused with an exception when there is too little of it. -/
theorem thrown_reserveIn_iff (elementSize count : Nat) (view : View) :
    (∃ e, view.read (reserveIn memory elementSize count) = .error e ∧ e.Thrown) ↔
      count > maximumCount elementSize ∨ elementSize * count > memory := by
  simp only [View.read_eq_error_iff, reserveIn, reserve]
  split_ifs with hbig hmany
  · exact ⟨fun _ => .inr hbig.2, fun _ => ⟨_, rfl, trivial⟩⟩
  · exact ⟨fun _ => .inl hmany, fun _ => ⟨_, rfl, trivial⟩⟩
  · refine ⟨fun h => ?_, fun h => ?_⟩
    · rcases h with ⟨e, h, -⟩
      cases h
    · exact absurd h (not_or.mpr ⟨hmany, fun hgt => hbig ⟨Nat.not_lt.mp hmany, hgt⟩⟩)

theorem thrown_readNameOctets_iff (size length : Nat) (view : View) :
    (∃ e, view.read (readNameOctets size length) = .error e ∧ e.Thrown) ↔
      WrapsAround size length view.rest := by
  simp only [View.read_eq_error_iff, readNameOctets, WrapsAround]
  split_ifs with hname hpast
  · simp only [false_and, exists_false, false_iff, not_and]
    exact fun hgt => absurd hname (Nat.not_le.mpr hgt)
  · refine ⟨fun h => ?_, fun h => absurd h.2 (Nat.not_le.mpr hpast)⟩
    rcases h with ⟨e, h, hthrown⟩
    cases h
    exact absurd hthrown id
  · exact ⟨fun _ => ⟨Nat.not_le.mp hname, Nat.not_lt.mp hpast⟩, fun _ => ⟨_, rfl, trivial⟩⟩

/-- A helper lets an exception through when it asks for too much room, and when the end of a name
    wraps around. -/
theorem thrown_means_iff (size : Nat) {β : Type} (helper : Helper asks β) (view : View) :
    (∃ e, means memory size β helper view = .error e ∧ e.Thrown) ↔
      Throws memory size helper view := by
  have hnever {α : Type} {meant : Except Refusal α} (h : Quiet meant) :
      (∃ e, meant = .error e ∧ e.Thrown) ↔ False :=
    ⟨fun hthrown => by
      rcases hthrown with ⟨e, hmeant, hthrown⟩
      exact h e hmeant hthrown, False.elim⟩
  cases helper with
  | refuse => exact hnever quiet_error
  | readByte => exact hnever (quiet_read _ _ calm_readByte)
  | readAxdrLength => exact hnever (quiet_read _ _ calm_readLengthWord)
  | readFixedBytes size => exact hnever (quiet_read _ _ (calm_readFixedBytes _))
  | skip size =>
      exact hnever (quiet_read _ _ (calm_bind _ _ (calm_readFixedBytes _) fun _ => calm_pure ()))
  | peek =>
      refine hnever ?_
      rw [means]
      cases view.rest with
      | nil => exact quiet_error
      | cons octet rest => exact quiet_ok _
  | skipTag tag =>
      refine hnever ?_
      rw [means]
      cases view.rest with
      | nil => exact quiet_error
      | cons octet rest =>
          dsimp only
          split_ifs
          · exact quiet_ok _
          · exact quiet_ok _
  | atEnd => exact hnever (quiet_ok _)
  | mark => exact hnever (quiet_ok _)
  | sinceMark => exact hnever (quiet_ok _)
  | takeRest size =>
      refine hnever ?_
      rw [means]
      split_ifs
      · exact quiet_error
      · exact quiet_ok _
  | readByteBefore more =>
      refine hnever ?_
      rw [means]
      split_ifs
      · exact quiet_error
      · exact quiet_read _ _ calm_readByte
  | readTaggedByte tag =>
      refine hnever ?_
      rw [means]
      split_ifs
      · exact quiet_error
      · exact quiet_read _ _ (calm_readTagged tag)
  | reserve h elementSize count => exact thrown_reserveIn_iff elementSize count.toNat view
  | assignName h length => exact thrown_readNameOctets_iff size length.toNat view

/-- A decoder stays inside of its input exactly when no helper that it gets to lets an exception
    through. -/
theorem staysInside_iff_throws {α : Type} (memory : Nat) (decoder : Decoder asks α)
    (input : ByteBuffer) : StaysInside memory decoder input ↔
      ∀ (β : Type) (helper : Helper asks β) (view : View),
        Calls (means memory input.octets.length) helper view decoder input.view →
          ¬Throws memory input.octets.length helper view := by
  refine (good_run_iff (At input) (Inside input.octets.length) Refusal.Thrown
    (handle memory input) (means memory input.octets.length) (refines_helper input) decoder start
    input.view (at_start input)).trans ?_
  refine forall_congr' fun β => forall_congr' fun helper => forall_congr' fun view =>
    forall_congr' fun _ => ?_
  rw [← thrown_means_iff, not_exists]
  exact forall_congr' fun e => not_and.symm

/-- A decoder stays inside of its input exactly when, behind fields that are what it reads, the
    input announces no more elements than their vector can have and than the memory has room for,
    and no name so long that the sum for its end wraps around. -/
theorem staysInside_iff_asked {α : Type} (memory : Nat) (decoder : Decoder asks α)
    (input : ByteBuffer) : StaysInside memory decoder input ↔
      (∀ h elementSize count rest,
        GetsTo memory decoder input (.reserve h elementSize count) rest →
          count.toNat ≤ maximumCount elementSize ∧ elementSize * count.toNat ≤ memory) ∧
      ∀ h length rest, GetsTo memory decoder input (.assignName h length) rest →
        ¬WrapsAround input.octets.length length.toNat rest := by
  rw [staysInside_iff_throws]
  constructor
  · intro hnone
    refine ⟨fun h elementSize count rest hgets => ?_, fun h length rest hgets => ?_⟩
    · rcases hgets with ⟨view, -, hcalls⟩
      rcases not_or.mp (hnone _ _ view hcalls) with ⟨hfew, hroom⟩
      exact ⟨Nat.not_lt.mp hfew, Nat.not_lt.mp hroom⟩
    · rcases hgets with ⟨view, hrest, hcalls⟩
      rw [← hrest]
      exact hnone _ _ view hcalls
  · rintro ⟨hrooms, hnames⟩ β helper view hcalls hthrown
    cases helper with
    | reserve h elementSize count =>
        rcases hrooms h elementSize count view.rest ⟨view, rfl, hcalls⟩ with ⟨hfew, hroom⟩
        exact absurd hthrown (not_or.mpr ⟨Nat.not_lt.mpr hfew, Nat.not_lt.mpr hroom⟩)
    | assignName h length => exact hnames h length view.rest ⟨view, rfl, hcalls⟩ hthrown
    | _ => exact hthrown

end Cosem

end Dlms
