import Dlms.Codec.Program
import Dlms.Cosem.ProfileBuffer
import Dlms.Cosem.SapAssignment

/-!
# Reading at an offset

The decoders of the simple objects go over their input with an offset, a word of the machine. Every
helper that reads checks first, and nearly every check subtracts the offset from the size of the
input, which cannot wrap around while the offset is within the input. One check adds instead.

Here are the helpers with their word, and with notes of what they do: the indices that are read,
the moves of the offset, and the checks that are passed with how many octets they were for. A
decoder is a program over the helpers, so its notes are those of the helpers.

Before the elements of an array are read, a vector is given room for as many as the array
announces. How much the memory gives for that is a parameter. Everything else that a decoder keeps
is a copy of octets that are there, and for these the memory is taken for granted.

What a helper is meant to do is said without the offset, with what is left of the input, as the
decoders of the objects have it.

## Main definitions

* `ByteBuffer`, `Position`: The input, and the words of a decoder.
* `Helper`, `Decoder`: The helpers, and the programs over them.
* `Cursor`, `handle`: The helpers at an offset.
* `View`, `means`: What they are meant to do.
* `Inside`, `StaysInside`: The notes of a decoder are inside of the input, and no exception
  goes through.
* `GetsTo`, `FindsRoom`, `WrapsAround`, `Throws`: The way to a helper, and when one lets an
  exception through.
-/

namespace Dlms

namespace Cosem

open Codec
open Apdu (Bytes)

/-- The octets that a decoder is given. They are a vector. -/
structure ByteBuffer where
  octets : Bytes
  fits : octets.length ≤ maximumVectorSize

namespace ByteBuffer

def size (input : ByteBuffer) : UInt64 := UInt64.ofNat input.octets.length

theorem toNat_size (input : ByteBuffer) : input.size.toNat = input.octets.length := by
  have hfits := input.fits
  rw [maximumVectorSize] at hfits
  rw [size, UInt64.toNat_ofNat', Nat.mod_eq_of_lt (by omega)]

end ByteBuffer

/-- The offset, and where the item began that is kept as it is. -/
structure Position where
  offset : UInt64
  mark : UInt64

/-- What a decoder does with its input. -/
inductive Event where
  | read (index : Nat)
  | moved (before after : Nat)
  | passed (offset count : Nat)
  deriving DecidableEq

/-- The octet that is read is one of the input, the offset does not decrease and does not leave the
    input, and there are as many octets as a check was for. -/
def Inside (size : Nat) : Event → Prop
  | .read index => index < size
  | .moved before after => before ≤ after ∧ after ≤ size
  | .passed offset count => offset + count ≤ size

instance (size : Nat) : DecidablePred (Inside size)
  | .read index => inferInstanceAs (Decidable (index < size))
  | .moved before after => inferInstanceAs (Decidable (before ≤ after ∧ after ≤ size))
  | .passed offset count => inferInstanceAs (Decidable (offset + count ≤ size))

/-- What a decoder calls. Only a decoder that is said to ask for room can do so, from a vector for
    the elements that are announced and from a string for a name. -/
inductive Helper (asks : Bool) : Type → Type where
  | refuse : Helper asks Empty
  | readByte : Helper asks UInt8
  | readAxdrLength : Helper asks UInt64
  | readFixedBytes (size : UInt64) : Helper asks Bytes
  | skip (size : UInt64) : Helper asks Unit
  | peek : Helper asks UInt8
  | skipTag (tag : UInt8) : Helper asks Bool
  | atEnd : Helper asks Bool
  | mark : Helper asks Unit
  | sinceMark : Helper asks Bytes
  | takeRest (size : UInt64) : Helper asks Bytes
  | readByteBefore (more : UInt8) : Helper asks UInt8
  | readTaggedByte (tag : UInt8) : Helper asks UInt8
  | reserve (h : asks = true) (elementSize : Nat) (count : UInt64) : Helper asks Unit
  | assignName (h : asks = true) (length : UInt64) : Helper asks Bytes

/-! ### The helpers at an offset -/

abbrev Cursor (α : Type) : Type := Noting Position Event Refusal α

namespace Cursor

def stop {α : Type} : Cursor α := Noting.fail .invalid

/-- The octet at an index. Past the input it is any. -/
def octetAt (input : ByteBuffer) (index : UInt64) : UInt8 := input.octets.getD index.toNat 0

/-- `input[offset++]` -/
def next (input : ByteBuffer) : Cursor UInt8 := fun p =>
  ([.read p.offset.toNat, .moved p.offset.toNat (p.offset + 1).toNat],
    .ok (octetAt input p.offset, { p with offset := p.offset + 1 }))

/-- `offset += size` -/
def advance (size : UInt64) : Cursor Unit := fun p =>
  ([.moved p.offset.toNat (p.offset + size).toNat], .ok ((), { p with offset := p.offset + size }))

/-- `offset >= input.size()` is refused. -/
def requireOctet (input : ByteBuffer) : Cursor Unit := fun p =>
  -- A check that refuses notes nothing, and one that is passed says how many octets it was for.
  if p.offset ≥ input.size then ([], .error .invalid)
  else ([.passed p.offset.toNat 1], .ok ((), p))

/-- `input.size() - offset < size` is refused. -/
def requireLeft (input : ByteBuffer) (size : UInt64) : Cursor Unit := fun p =>
  if input.size - p.offset < size then ([], .error .invalid)
  else ([.passed p.offset.toNat size.toNat], .ok ((), p))

/-- So many octets from an index on. -/
def copy (input : ByteBuffer) (start : UInt64) (count : Nat) : Cursor Bytes := fun p =>
  ((List.range count).map fun i => .read (start.toNat + i),
    .ok ((input.octets.drop start.toNat).take count, p))

def copyAhead (input : ByteBuffer) (size : UInt64) : Cursor Bytes := fun p =>
  copy input p.offset size.toNat p

def readByte (input : ByteBuffer) : Cursor UInt8 := do
  requireOctet input
  next input

def readLengthOctets (input : ByteBuffer) : Nat → UInt64 → Cursor UInt64
  | 0, length => pure length
  | n + 1, length => do
      let octet ← next input
      readLengthOctets input n ((length <<< 8) ||| octet.toUInt64)

def readAxdrLength (input : ByteBuffer) : Cursor UInt64 := do
  requireOctet input
  let first ← next input
  if first &&& 0x80 = 0 then
    pure first.toUInt64
  -- A length of no octets, or of more than the word has.
  else if (first &&& 0x7F).toNat = 0 ∨ (first &&& 0x7F).toNat > sizeOfLength then
    stop
  else do
    requireLeft input (first &&& 0x7F).toUInt64
    readLengthOctets input (first &&& 0x7F).toNat 0

def readFixedBytes (input : ByteBuffer) (size : UInt64) : Cursor Bytes := do
  requireLeft input size
  let data ← copyAhead input size
  advance size
  pure data

def skip (input : ByteBuffer) (size : UInt64) : Cursor Unit := do
  requireLeft input size
  advance size

/-- `input[offset]` -/
def octetHere (input : ByteBuffer) : Cursor UInt8 := fun p =>
  ([.read p.offset.toNat], .ok (octetAt input p.offset, p))

def peek (input : ByteBuffer) : Cursor UInt8 := do
  requireOctet input
  octetHere input

/-- A tag is gone over when it is there. -/
def skipTag (input : ByteBuffer) (tag : UInt8) : Cursor Bool := do
  requireOctet input
  let octet ← octetHere input
  if octet = tag then do
    advance 1
    pure true
  else
    pure false

def atEnd (input : ByteBuffer) : Cursor Bool := fun p => ([], .ok (p.offset == input.size, p))

def mark : Cursor Unit := fun p => ([], .ok ((), { p with mark := p.offset }))

def sinceMark (input : ByteBuffer) : Cursor Bytes := fun p =>
  copy input p.mark (p.offset - p.mark).toNat p

/-- `input.size() - offset != size` is refused. -/
def requireRest (input : ByteBuffer) (size : UInt64) : Cursor Unit := fun p =>
  if input.size - p.offset ≠ size then ([], .error .invalid)
  else ([.passed p.offset.toNat size.toNat], .ok ((), p))

/-- The octets that are left, which are not gone over. -/
def takeRest (input : ByteBuffer) (size : UInt64) : Cursor Bytes := do
  requireRest input size
  copyAhead input size

/-- An octet with so many more behind it. -/
def readByteBefore (input : ByteBuffer) (more : UInt8) : Cursor UInt8 := do
  requireLeft input (more.toUInt64 + 1)
  next input

/-- A tag and an octet, with one check for both. -/
def readTaggedByte (input : ByteBuffer) (tag : UInt8) : Cursor UInt8 := do
  requireLeft input 2
  let first ← next input
  -- The tag is gone over also when it is another one.
  if first ≠ tag then stop else next input

/-- Room in a vector. More elements than it can have are a length error, and more octets than the
    memory gives are a failed allocation. -/
def reserve (memory elementSize : Nat) (count : UInt64) : Cursor Unit :=
  if count.toNat > maximumCount elementSize then Noting.fail .lengthError
  else if elementSize * count.toNat > memory then Noting.fail .badAlloc
  else pure ()

/-- `offset + length > input.size()` is refused, where the sum may wrap around. A string takes no
    more octets than a vector. -/
def requireEnd (input : ByteBuffer) (length : UInt64) : Cursor Unit := fun p =>
  if p.offset + length > input.size then ([], .error .invalid)
  else
    -- The check may be passed without the octets, and then the length is too much for the string.
    ([.passed p.offset.toNat length.toNat],
      if length.toNat > maximumVectorSize then .error .lengthError else .ok ((), p))

def assignName (input : ByteBuffer) (length : UInt64) : Cursor Bytes := do
  requireEnd input length
  let name ← copyAhead input length
  advance length
  pure name

end Cursor

variable {asks : Bool}

/-- The helpers with the word, where an allocation gives at most this memory. -/
def handle (memory : Nat) (input : ByteBuffer) : ∀ β, Helper asks β → Cursor β
  | _, .refuse => Cursor.stop
  | _, .readByte => Cursor.readByte input
  | _, .readAxdrLength => Cursor.readAxdrLength input
  | _, .readFixedBytes size => Cursor.readFixedBytes input size
  | _, .skip size => Cursor.skip input size
  | _, .peek => Cursor.peek input
  | _, .skipTag tag => Cursor.skipTag input tag
  | _, .atEnd => Cursor.atEnd input
  | _, .mark => Cursor.mark
  | _, .sinceMark => Cursor.sinceMark input
  | _, .takeRest size => Cursor.takeRest input size
  | _, .readByteBefore more => Cursor.readByteBefore input more
  | _, .readTaggedByte tag => Cursor.readTaggedByte input tag
  | _, .reserve _ elementSize count => Cursor.reserve memory elementSize count
  | _, .assignName _ length => Cursor.assignName input length

/-! ### What the helpers are meant to do -/

/-- What is left of the input, and what was gone over since the mark. -/
structure View where
  kept : Bytes
  rest : Bytes

namespace View

/-- The view behind so many octets. -/
def past (view : View) (count : Nat) : View where
  kept := view.kept ++ view.rest.take count
  rest := view.rest.drop count

/-- A reader of the objects, and the view behind what it took. -/
def read {α : Type} (reader : DataReader α) (view : View) : Except Refusal (α × View) :=
  match reader view.rest with
  | .error e => .error e
  | .ok (a, left) => .ok (a, view.past (view.rest.length - left.length))

end View

/-- The length in front of what is left, as a word. -/
def readLengthWord : DataReader UInt64 := UInt64.ofNat <$> readLength

/-- Room in a vector, out of this memory. -/
def reserveIn (memory elementSize count : Nat) : DataReader Unit :=
  if count ≤ maximumCount elementSize ∧ elementSize * count > memory then Parser.fail .badAlloc
  else reserve elementSize count

/-- The helpers over what is left, of an input of this size. -/
def means (memory size : Nat) : ∀ β, Helper asks β → View → Except Refusal (β × View)
  | _, .refuse, _ => .error .invalid
  | _, .readByte, view => view.read readByte
  | _, .readAxdrLength, view => view.read readLengthWord
  | _, .readFixedBytes count, view => view.read (readFixedBytes count.toNat)
  | _, .skip count, view => view.read (skipBytes count.toNat)
  | _, .peek, view =>
      match view.rest with
      | [] => .error .invalid
      | octet :: _ => .ok (octet, view)
  | _, .skipTag tag, view =>
      match view.rest with
      | [] => .error .invalid
      | octet :: _ => if octet = tag then .ok (true, view.past 1) else .ok (false, view)
  | _, .atEnd, view => .ok (view.rest.isEmpty, view)
  | _, .mark, view => .ok ((), { view with kept := [] })
  -- The mark itself is not moved by looking.
  | _, .sinceMark, view => .ok (view.kept, view)
  | _, .takeRest count, view =>
      if view.rest.length ≠ count.toNat then .error .invalid else .ok (view.rest, view)
  | _, .readByteBefore more, view =>
      if view.rest.length < more.toNat + 1 then .error .invalid else view.read readByte
  | _, .readTaggedByte tag, view =>
      if view.rest.length < 2 then .error .invalid else view.read (readTagged tag)
  | _, .reserve _ elementSize count, view => view.read (reserveIn memory elementSize count.toNat)
  | _, .assignName _ length, view => view.read (readNameOctets size length.toNat)

/-! ### Decoders -/

/-- A decoder: a program over the helpers. -/
abbrev Decoder (asks : Bool) (α : Type) : Type 1 := Program (Helper asks) α

/-- Where a decoder begins. -/
def start : Position where
  offset := 0
  mark := 0

def ByteBuffer.view (input : ByteBuffer) : View where
  kept := []
  rest := input.octets

/-- A decoder that stops so lets an exception through. -/
def Refusal.Thrown : Refusal → Prop
  | .invalid => False
  | .lengthError => True
  | .badAlloc => True

/-- No exception is let through. -/
def Quiet {α : Type} (result : Except Refusal α) : Prop :=
  ∀ refusal, result = .error refusal → ¬refusal.Thrown

/-- Every octet that is read is one of the input, the offset does not decrease and does not leave
    the input, no check is passed without the octets that it is for, and no exception goes
    through. -/
def StaysInside {α : Type} (memory : Nat) (decoder : Decoder asks α) (input : ByteBuffer) : Prop :=
  (∀ event ∈ (decoder.run (handle memory input) start).1, Inside input.octets.length event) ∧
    Quiet (decoder.run (handle memory input) start).2

/-- The decoder gets to a helper, with so much of the input left, when the fields in front of there
    are what it reads and there was memory for them. -/
def GetsTo {α β : Type} (memory : Nat) (decoder : Decoder asks α) (input : ByteBuffer)
    (helper : Helper asks β) (rest : Bytes) : Prop :=
  ∃ view : View, view.rest = rest ∧
    Calls (means memory input.octets.length) helper view decoder input.view

/-- The memory has the octets of all elements that the arrays announce which the decoder gets
    to. -/
def FindsRoom {α : Type} (memory : Nat) (decoder : Decoder asks α) (input : ByteBuffer) : Prop :=
  ∀ h elementSize count rest, GetsTo memory decoder input (.reserve h elementSize count) rest →
    elementSize * count.toNat ≤ memory

/-- A name whose end is past the input, where the sum of the words is not. -/
def WrapsAround (size length : Nat) (rest : Bytes) : Prop :=
  length > rest.length ∧ (size - rest.length + length) % 2 ^ 64 ≤ size

/-- A helper lets an exception through: for more room than a vector can have or than there is
    memory for, and for a name whose end wraps around. -/
def Throws (memory size : Nat) : ∀ {β : Type}, Helper asks β → View → Prop
  | _, .reserve _ elementSize count, _ =>
      count.toNat > maximumCount elementSize ∨ elementSize * count.toNat > memory
  | _, .assignName _ length, view => WrapsAround size length.toNat view.rest
  | _, _, _ => False

end Cosem

end Dlms
