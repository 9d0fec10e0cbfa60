import Mathlib.Data.Nat.Bitwise
import Dlms.Codec.RoundTrip
import Dlms.Apdu.Data

/-!
# What is decoded of a value

A number is kept in a slot of eight octets, whatever its type, and the encoder
writes the low octets that the type has. It does not look at the others, nor at
the slots that the type does not use. So what comes back has the numbers that
the low octets stand for, and the other slots at their defaults.

The encoding is self-delimiting: whatever follows the encoded bytes, the decoder
consumes exactly them. The only arithmetic in it is the sign. The encoder writes
the low octets of a number as it stands in its slot, and the decoder fills the
octets above them with the sign bit.

## Main definitions

* `InSignedRange`: The range of the signed type with so many octets.
* `Everywhere`: A property of a value and of all that is nested in it.
* `InWidth`, `Dated`, `Sized`: Numbers, dates and sizes as their types ask for.
* `used`: A value without the slots that its type does not use.
* `narrow`: What the low octets of the numbers stand for.
* `Conveyed`: The writer writes bytes that the reader reads back as a value.

## Theorems

* `signExtend_low`, `inSignedRange_signExtend`: The low octets of a number give it
  back when it is in range, and what they give is.
* `narrow_eq_used_iff`: The low octets are the value when every number fits its
  type.
* `conveyed_narrow`: What is encoded is decoded to its low octets.
-/

namespace Dlms

namespace Apdu

open Codec

/-! ### Signed numbers -/

/-- A number of so many octets has its highest bit clear when it is below the
    half of its range. -/
theorem and_signBit_eq_zero_iff (value mask : UInt64) (bit : Nat) (hmask : mask.toNat = 2 ^ bit)
    (hvalue : value.toNat < 2 ^ (bit + 1)) : value &&& mask = 0 ↔ value.toNat < 2 ^ bit := by
  rw [← UInt64.toNat_inj, UInt64.toNat_and, hmask, Nat.and_two_pow]
  constructor
  · intro hzero
    by_contra hlarge
    have hbit := Nat.testBit_of_two_pow_le_and_two_pow_add_one_gt (Nat.le_of_not_lt hlarge) hvalue
    have hpos := Nat.two_pow_pos bit
    rw [hbit, Bool.toNat_true, Nat.one_mul, UInt64.toNat_zero] at hzero
    omega
  · intro hsmall
    rw [Nat.testBit_lt_two_pow hsmall, Bool.toNat_false, Nat.zero_mul, UInt64.toNat_zero]

/-- Setting all octets above the number adds what they are worth. -/
theorem toNat_or_highOctets (value mask : UInt64) (bits high : Nat)
    (hmask : mask.toNat = 2 ^ bits * high) (hvalue : value.toNat < 2 ^ bits) :
    (value ||| mask).toNat = 2 ^ bits * high + value.toNat := by
  rw [UInt64.toNat_or, hmask, Nat.or_comm, ← Nat.two_pow_add_eq_or_of_lt hvalue]

/-- The number is in the range of the signed type with so many octets. -/
def InSignedRange (byteCount : Nat) (value : Int64) : Prop :=
  -((2 ^ (byteCount * 8 - 1) : Nat) : Int) ≤ value.toInt ∧
    value.toInt < ((2 ^ (byteCount * 8 - 1) : Nat) : Int)

/-- The masks of the widths that are narrower than a slot, as numbers. -/
structure Masks (byteCount : Nat) : Prop where
  bit : ((1 : UInt64) <<< (UInt64.ofNat (byteCount * 8) - 1)).toNat = 2 ^ (byteCount * 8 - 1)
  octets : ((0xFFFFFFFFFFFFFFFF : UInt64) <<< UInt64.ofNat (byteCount * 8)).toNat =
    2 ^ (byteCount * 8 - 1 + 1) * (2 ^ (64 - byteCount * 8) - 1)
  pow : 256 ^ byteCount = 2 ^ (byteCount * 8 - 1 + 1)
  product : 2 ^ (byteCount * 8 - 1 + 1) * 2 ^ (64 - byteCount * 8) = 2 ^ 64
  whole : 2 ^ (byteCount * 8 - 1 + 1) * (2 ^ (64 - byteCount * 8) - 1) =
    2 ^ 64 - 2 ^ (byteCount * 8 - 1 + 1)
  half : 2 ^ (byteCount * 8 - 1 + 1) = 2 * 2 ^ (byteCount * 8 - 1)
  small : 2 ^ (byteCount * 8 - 1) < 2 ^ 62

theorem masks (byteCount : Nat) (hcount : byteCount = 1 ∨ byteCount = 2 ∨ byteCount = 4) :
    Masks byteCount := by
  rcases hcount with rfl | rfl | rfl
  · constructor <;> decide
  · constructor <;> decide
  · constructor <;> decide

/-- A slot as a number with a sign. -/
theorem toInt_slot (word : UInt64) :
    word.toInt64.toInt = if 2 * word.toNat < 2 ^ 64 then
      (word.toNat : Int) else word.toNat - (2 ^ 64 : Nat) :=
  BitVec.toInt_eq_toNat_cond word.toBitVec

/-- The low octets of a number in the range of the signed type give it back. -/
theorem signExtend_low (byteCount : Nat) (value : Int64)
    (hcount : byteCount = 1 ∨ byteCount = 2 ∨ byteCount = 4)
    (hrange : InSignedRange byteCount value) :
    signExtend (UInt64.ofNat (value.toUInt64.toNat % 256 ^ byteCount)) byteCount = value := by
  have hbound : value.toUInt64.toNat < 2 ^ 64 := value.toUInt64.toNat_lt
  have hint := toInt_slot value.toUInt64
  rw [Int64.toInt64_toUInt64] at hint
  rcases masks byteCount hcount with ⟨hbit, hoctets, hpow, hproduct, hmask, hhalf, hsmall⟩
  rcases hrange with ⟨hlow, hhigh⟩
  rw [hint] at hlow hhigh
  rw [hpow, signExtend]
  have hmod : value.toUInt64.toNat % 2 ^ (byteCount * 8 - 1 + 1) <
      2 ^ (byteCount * 8 - 1 + 1) := Nat.mod_lt _ (Nat.two_pow_pos _)
  have hword : (UInt64.ofNat (value.toUInt64.toNat % 2 ^ (byteCount * 8 - 1 + 1))).toNat =
      value.toUInt64.toNat % 2 ^ (byteCount * 8 - 1 + 1) := by
    rw [UInt64.toNat_ofNat', Nat.mod_eq_of_lt (by omega)]
  have hsign := and_signBit_eq_zero_iff _ _ _ hbit (by rw [hword]; exact hmod)
  have hfilled := toNat_or_highOctets _ _ _ _ hoctets (by rw [hword]; exact hmod)
  rw [hword] at hsign hfilled
  by_cases hnegative : 2 * value.toUInt64.toNat < 2 ^ 64
  · -- A number that is not negative is in its low octets already.
    rw [if_pos hnegative] at hlow hhigh
    have hsame : value.toUInt64.toNat % 2 ^ (byteCount * 8 - 1 + 1) = value.toUInt64.toNat :=
      Nat.mod_eq_of_lt (by omega)
    rw [if_pos (hsign.mpr (by omega)), hsame, UInt64.ofNat_toNat, Int64.toInt64_toUInt64]
  · -- A negative one lacks the octets that the mask sets.
    rw [if_neg hnegative] at hlow hhigh
    have hquotient : value.toUInt64.toNat / 2 ^ (byteCount * 8 - 1 + 1) =
        2 ^ (64 - byteCount * 8) - 1 := by
      refine Nat.div_eq_of_lt_le ?_ ?_
      · rw [Nat.mul_comm, hmask]
        omega
      · rw [Nat.sub_add_cancel Nat.one_le_two_pow, Nat.mul_comm, hproduct]
        exact hbound
    have hsplit := Nat.div_add_mod value.toUInt64.toNat (2 ^ (byteCount * 8 - 1 + 1))
    rw [hquotient] at hsplit
    have hwhole : (UInt64.ofNat (value.toUInt64.toNat % 2 ^ (byteCount * 8 - 1 + 1)) |||
        (0xFFFFFFFFFFFFFFFF : UInt64) <<< UInt64.ofNat (byteCount * 8)) = value.toUInt64 := by
      rw [← UInt64.toNat_inj, hfilled, hsplit]
    have hset : ¬ value.toUInt64.toNat % 2 ^ (byteCount * 8 - 1 + 1) <
        2 ^ (byteCount * 8 - 1) := by omega
    rw [if_neg (fun hclear => hset (hsign.mp hclear)), hwhole, Int64.toInt64_toUInt64]

/-! ### The octets of a type -/

/-- How many octets a signed number of a type has. -/
def signedOctets (type : DlmsDataType) : Option Nat :=
  match type with
  | .integer => some 1
  | .long => some 2
  | .doubleLong => some 4
  | .long64 => some 8
  | _ => none

/-- How many octets an unsigned number of a type has. -/
def unsignedOctets (type : DlmsDataType) : Option Nat :=
  match type with
  | .unsigned | .enum => some 1
  | .longUnsigned => some 2
  | .doubleLongUnsigned => some 4
  | .long64Unsigned => some 8
  | _ => none

/-- How many octets a date or a time has. -/
def fixedOctets (type : DlmsDataType) : Option Nat :=
  match type with
  | .dateTime => some dateTimeSize
  | .date => some dateSize
  | .time => some timeSize
  | _ => none

/-! ### What is nested -/

/-- A type whose values have elements. -/
def hasElements : DlmsDataType → Bool
  | .array | .structureData => true
  | _ => false

/-- A value is inside itself, and what is inside its elements is inside it. -/
inductive Inside (part : DlmsData) : DlmsData → Prop
  | self : Inside part part
  | element (value element : DlmsData) (htype : hasElements value.type = true)
      (helement : element ∈ value.elements) (hinside : Inside part element) : Inside part value

/-- A property of a value and of all that is nested in it. -/
def Everywhere (holds : DlmsData → Prop) (value : DlmsData) : Prop :=
  ∀ part, Inside part value → holds part

theorem everywhere_iff (holds : DlmsData → Prop) (value : DlmsData) :
    Everywhere holds value ↔ holds value ∧
      (hasElements value.type = true → ∀ element ∈ value.elements, Everywhere holds element) := by
  constructor
  · intro hall
    exact ⟨hall value .self, fun htype element helement part hinside =>
      hall part (.element value element htype helement hinside)⟩
  · rintro ⟨hself, helements⟩ part hinside
    cases hinside with
    | self => exact hself
    | element _ element htype helement hinside =>
        exact helements htype element helement part hinside

/-- A value without elements has nothing nested in it. -/
theorem everywhere_of_leaf (holds : DlmsData → Prop) (value : DlmsData)
    (hleaf : hasElements value.type = false) (h : holds value) : Everywhere holds value :=
  (everywhere_iff holds value).mpr
    ⟨h, fun htype => absurd (hleaf.symm.trans htype) Bool.false_ne_true⟩

/-- The induction over a value: what holds of it when it holds of its elements. -/
theorem induction_elements (motive : DlmsData → Prop)
    (hstep : ∀ value, (∀ element ∈ value.elements, motive element) → motive value)
    (value : DlmsData) : motive value :=
  hstep value fun element _ => induction_elements motive hstep element
termination_by sizeOf value
decreasing_by
  rename_i helement
  have hless := List.sizeOf_lt_of_mem helement
  rcases value with ⟨type, booleanValue, signedValue, unsignedValue, bytes, elements⟩
  simp only [DlmsData.mk.sizeOf_spec]
  dsimp only at hless
  omega

/-! ### Slots and numbers -/

mutual

/-- A value with other numbers in it, and without the slots its type does not use. -/
def renumber (signed : Nat → Int64 → Int64) (unsigned : Nat → UInt64 → UInt64) :
    DlmsData → DlmsData
  | ⟨type, booleanValue, signedValue, unsignedValue, bytes, elements⟩ =>
      match type with
      | .nullData => { type }
      | .array | .structureData =>
          { type, elements := renumberElements signed unsigned elements }
      | .boolean => { type, booleanValue }
      | .integer => { type, signedValue := signed 1 signedValue }
      | .long => { type, signedValue := signed 2 signedValue }
      | .doubleLong => { type, signedValue := signed 4 signedValue }
      | .long64 => { type, signedValue := signed 8 signedValue }
      | .unsigned | .enum => { type, unsignedValue := unsigned 1 unsignedValue }
      | .longUnsigned => { type, unsignedValue := unsigned 2 unsignedValue }
      | .doubleLongUnsigned => { type, unsignedValue := unsigned 4 unsignedValue }
      | .long64Unsigned => { type, unsignedValue := unsigned 8 unsignedValue }
      | .octetString | .dateTime | .date | .time => { type, bytes }

def renumberElements (signed : Nat → Int64 → Int64) (unsigned : Nat → UInt64 → UInt64) :
    List DlmsData → List DlmsData
  | [] => []
  | element :: rest =>
      renumber signed unsigned element :: renumberElements signed unsigned rest

end

/-- A value without the slots that its type does not use. -/
def used (value : DlmsData) : DlmsData :=
  renumber (fun _ number => number) (fun _ number => number) value

/-- The number that the low octets of a signed number stand for. -/
def narrowSigned (byteCount : Nat) (number : Int64) : Int64 :=
  if byteCount = 8 then number
  else signExtend (UInt64.ofNat (number.toUInt64.toNat % 256 ^ byteCount)) byteCount

def narrowUnsigned (byteCount : Nat) (number : UInt64) : UInt64 :=
  UInt64.ofNat (number.toNat % 256 ^ byteCount)

/-- What the low octets of the numbers stand for. -/
def narrow (value : DlmsData) : DlmsData := renumber narrowSigned narrowUnsigned value

theorem renumberElements_eq_map (signed : Nat → Int64 → Int64)
    (unsigned : Nat → UInt64 → UInt64) (elements : List DlmsData) :
    renumberElements signed unsigned elements = elements.map (renumber signed unsigned) := by
  induction elements with
  | nil =>
      unfold renumberElements
      rfl
  | cons element elements ih =>
      unfold renumberElements
      rw [ih, List.map_cons]

mutual

/-- How deep values are nested in a value. -/
def nesting : DlmsData → Nat
  | ⟨type, _, _, _, _, elements⟩ =>
      if hasElements type = true then nestingElements elements + 1 else 1

def nestingElements : List DlmsData → Nat
  | [] => 0
  | element :: rest => max (nesting element) (nestingElements rest)

end

theorem nesting_pos (value : DlmsData) : 0 < nesting value := by
  rcases value with ⟨type, booleanValue, signedValue, unsignedValue, bytes, elements⟩
  unfold nesting
  split_ifs
  · exact Nat.succ_pos _
  · exact Nat.one_pos

theorem nesting_le_of_mem (element : DlmsData) (elements : List DlmsData)
    (h : element ∈ elements) : nesting element ≤ nestingElements elements := by
  induction elements with
  | nil => exact absurd h List.not_mem_nil
  | cons first rest ih =>
      unfold nestingElements
      rcases List.mem_cons.mp h with rfl | hrest
      · exact Nat.le_max_left _ _
      · exact (ih hrest).trans (Nat.le_max_right _ _)

/-! ### Conditions on a value -/

/-- A number fits the octets that its type has. -/
def InWidth (value : DlmsData) : Prop :=
  (∀ byteCount, signedOctets value.type = some byteCount →
      InSignedRange byteCount value.signedValue) ∧
    ∀ byteCount, unsignedOctets value.type = some byteCount →
      value.unsignedValue.toNat < 256 ^ byteCount

/-- A date or a time has its size. -/
def Dated (value : DlmsData) : Prop :=
  ∀ size, fixedOctets value.type = some size → value.bytes.length = size

/-- The sizes of an octet string and of a list are those of a machine. -/
def Sized (value : DlmsData) : Prop :=
  value.bytes.length < 256 ^ sizeOctets ∧ value.elements.length < 256 ^ sizeOctets

/-! ### One number -/

/-- A number that is extended by its sign is within the range of its octets. -/
theorem inSignedRange_signExtend (byteCount : Nat) (value : UInt64)
    (hcount : byteCount = 1 ∨ byteCount = 2 ∨ byteCount = 4)
    (hvalue : value.toNat < 256 ^ byteCount) :
    InSignedRange byteCount (signExtend value byteCount) := by
  rcases masks byteCount hcount with ⟨hbit, hoctets, hpow, -, hmask, hhalf, hsmall⟩
  rw [hpow] at hvalue
  have hsign := and_signBit_eq_zero_iff _ _ _ hbit hvalue
  have hfilled := toNat_or_highOctets _ _ _ _ hoctets hvalue
  unfold InSignedRange signExtend
  by_cases hclear : value.toNat < 2 ^ (byteCount * 8 - 1)
  · rw [if_pos (hsign.mpr hclear), toInt_slot, if_pos (by omega)]
    omega
  · rw [if_neg fun hzero => hclear (hsign.mp hzero), toInt_slot, hfilled, if_neg (by omega)]
    omega

/-- The low octets of a number stand for it exactly when it is in their range. -/
theorem narrowSigned_eq_iff (byteCount : Nat) (number : Int64)
    (hcount : byteCount = 1 ∨ byteCount = 2 ∨ byteCount = 4) :
    narrowSigned byteCount number = number ↔ InSignedRange byteCount number := by
  have hnot : byteCount ≠ 8 := by omega
  have hlow : (UInt64.ofNat (number.toUInt64.toNat % 256 ^ byteCount)).toNat <
      256 ^ byteCount := by
    have hmod := Nat.mod_lt number.toUInt64.toNat (Nat.pow_pos (n := byteCount)
      (show 0 < 256 by decide))
    have hbound : 256 ^ byteCount ≤ 2 ^ 64 := by
      rcases hcount with rfl | rfl | rfl <;> decide
    rw [UInt64.toNat_ofNat', Nat.mod_eq_of_lt (by omega)]
    exact hmod
  rw [narrowSigned, if_neg hnot]
  constructor
  · intro hsame
    rw [← hsame]
    exact inSignedRange_signExtend byteCount _ hcount hlow
  · exact signExtend_low byteCount number hcount

/-- Eight octets hold every number of a slot. -/
theorem inSignedRange_eight (number : Int64) : InSignedRange 8 number :=
  ⟨number.le_toInt, number.toInt_lt⟩

theorem narrowUnsigned_eq_iff (byteCount : Nat) (number : UInt64) :
    narrowUnsigned byteCount number = number ↔ number.toNat < 256 ^ byteCount := by
  have hbound := number.toNat_lt
  have hmod := Nat.mod_le number.toNat (256 ^ byteCount)
  have hpositive : 0 < 256 ^ byteCount := Nat.pow_pos (by decide)
  rw [narrowUnsigned, ← UInt64.toNat_inj, UInt64.toNat_ofNat', Nat.mod_eq_of_lt (by omega)]
  exact Nat.mod_eq_iff_lt (by omega)

/-! ### All numbers of a value -/

/-- The low octets are the value exactly when every number fits its type. -/
theorem narrow_eq_used_iff (value : DlmsData) :
    narrow value = used value ↔ Everywhere InWidth value := by
  induction value using induction_elements with
  | hstep value ih =>
      rcases value with ⟨type, booleanValue, signedValue, unsignedValue, bytes, elements⟩
      have hone := narrowSigned_eq_iff 1 signedValue (by decide)
      have htwo := narrowSigned_eq_iff 2 signedValue (by decide)
      have hfour := narrowSigned_eq_iff 4 signedValue (by decide)
      have height : narrowSigned 8 signedValue = signedValue := rfl
      have hsequence : (renumberElements narrowSigned narrowUnsigned elements =
          renumberElements (fun _ number => number) (fun _ number => number) elements) ↔
          ∀ element ∈ elements, Everywhere InWidth element := by
        rw [renumberElements_eq_map, renumberElements_eq_map, List.map_inj_left]
        exact forall₂_congr fun element helement => ih element helement
      rw [everywhere_iff]
      dsimp only
      rw [← hsequence]
      unfold narrow used renumber InWidth
      -- Only the slot of the type tells the two apart.
      cases type <;> simp only [signedOctets, unsignedOctets, hasElements, DlmsData.mk.injEq,
        reduceCtorEq, Option.some.injEq, forall_eq', false_imp_iff, implies_true, and_true,
        true_and, forall_const, Bool.false_eq_true, narrowUnsigned_eq_iff, hone, htwo, hfour,
        height, inSignedRange_eight]

/-! ### Conveying the parts -/

/-- The writer writes bytes that the reader reads back as the value, whatever
    follows them. -/
abbrev Conveyed {α : Type} (w : Writer) (r : Reader α) (a : α) : Prop :=
  Conveys ApduStatus.outputBufferTooSmall w r a

theorem conveyed_writeU8 (value : UInt8) : Conveyed (writeU8 value) readU8 value :=
  ⟨_, writes_writeU8 value, decodes_readU8 value⟩

theorem conveyed_writeAxdrBoolean (value : Bool) :
    Conveyed (writeAxdrBoolean value) readAxdrBoolean value :=
  ⟨_, writes_writeU8 _, decodes_readAxdrBoolean value⟩

theorem conveyed_writeAxdrLength (length : Nat) (h : length < 256 ^ sizeOctets) :
    Conveyed (writeAxdrLength length) readAxdrLength length :=
  ⟨_, writes_writeAxdrLength length, decodes_readAxdrLength length h⟩

theorem conveyed_writeAxdrOctetString (data : Bytes) (h : data.length < 256 ^ sizeOctets) :
    Conveyed (writeAxdrOctetString data) readAxdrOctetString data :=
  ⟨_, writes_writeAxdrOctetString data, decodes_readAxdrOctetString data h⟩

/-- Of a number only the low octets are written, and they are what is read. -/
theorem conveyed_writeUnsigned (value : UInt64) (byteCount : Nat) :
    Conveyed (writeUnsigned value byteCount) (readUnsigned byteCount)
      (UInt64.ofNat (value.toNat % 256 ^ byteCount)) := by
  have hbytes : Conveyed (writeUnsigned value byteCount) (readBytes byteCount)
      (beBytes byteCount value.toNat) :=
    ⟨_, writes_writeBytes _, decodes_readBytes byteCount _ (length_beBytes ..)⟩
  have h := conveys_build _ _ _ (fun bytes => UInt64.ofNat (beValue bytes)) _ hbytes
  rwa [beValue_beBytes] at h

theorem conveyed_writeFixedBytes (bytes : Bytes) (type : DlmsDataType) :
    Conveyed (writeFixedBytes bytes bytes.length) (readFixedBytes bytes.length type)
      { type, bytes } := by
  have hbytes : Conveyed (writeFixedBytes bytes bytes.length) (readBytes bytes.length) bytes := by
    rw [writeFixedBytes, if_pos rfl]
    exact ⟨_, writes_writeBytes bytes, decodes_readBytes bytes.length bytes rfl⟩
  exact conveys_build _ _ _ _ _ hbytes

/-- The loop over the elements is the loop of the library. -/
theorem encodeElements_eq_forEach (elements : List DlmsData) :
    encodeElements elements = Emitter.forEach encodeDlmsDataValue elements := by
  induction elements with
  | nil =>
      unfold encodeElements
      rfl
  | cons element elements ih =>
      unfold encodeElements
      rw [ih, Emitter.forEach]

/-- A value is conveyed when its type is written as a tag and a body, and the
    body is read back behind the tag. -/
theorem conveyed_of_body (depth : Nat) (type : DlmsDataType) (value decoded : DlmsData)
    (writer : Writer) (reader : Reader DlmsData)
    (hwriter : encodeDlmsDataValue value = (do writeU8 type.tag; writer))
    (hreader : ∀ rest, decodeDlmsDataValue (depth + 1) ([type.tag] ++ rest) = reader rest)
    (hbody : Conveyed writer reader decoded) :
    Conveyed (encodeDlmsDataValue value) (decodeDlmsDataValue (depth + 1)) decoded := by
  rcases hbody with ⟨bytes, hwrites, hdecodes⟩
  refine ⟨[type.tag] ++ bytes, ?_, ?_⟩
  · rw [hwriter]
    exact emits_bind _ _ _ _ _ (writes_writeU8 _) hwrites
  · intro rest
    rw [List.append_assoc, hreader]
    exact hdecodes rest

/-! ### Conveying a value -/

section Leaves

variable (depth : Nat) (value : DlmsData) (type : DlmsDataType) (byteCount : Nat)

/-- A signed number is decoded to what its low octets stand for. -/
theorem conveyed_narrowSigned (hcount : byteCount ≠ 8)
    (hwriter : encodeDlmsDataValue value =
      (do writeU8 type.tag; writeUnsigned value.signedValue.toUInt64 byteCount))
    (hreader : ∀ rest, decodeDlmsDataValue (depth + 1) ([type.tag] ++ rest) =
      readSigned byteCount type rest) :
    Conveyed (encodeDlmsDataValue value) (decodeDlmsDataValue (depth + 1))
      { type, signedValue := narrowSigned byteCount value.signedValue } := by
  have hbody := conveys_build _ _ _
    (fun number => ({ type, signedValue := signExtend number byteCount } : DlmsData)) _
    (conveyed_writeUnsigned value.signedValue.toUInt64 byteCount)
  rw [narrowSigned, if_neg hcount]
  exact conveyed_of_body depth type _ _ _ _ hwriter hreader hbody

theorem conveyed_narrowUnsigned
    (hwriter : encodeDlmsDataValue value =
      (do writeU8 type.tag; writeUnsigned value.unsignedValue byteCount))
    (hreader : ∀ rest, decodeDlmsDataValue (depth + 1) ([type.tag] ++ rest) =
      readUnsignedData byteCount type rest) :
    Conveyed (encodeDlmsDataValue value) (decodeDlmsDataValue (depth + 1))
      { type, unsignedValue := narrowUnsigned byteCount value.unsignedValue } :=
  conveyed_of_body depth type _ _ _ _ hwriter hreader (conveys_build _ _ _
    (fun number => ({ type, unsignedValue := number } : DlmsData)) _
    (conveyed_writeUnsigned value.unsignedValue byteCount))

theorem conveyed_dated (hsize : value.bytes.length = byteCount)
    (hwriter : encodeDlmsDataValue value =
      (do writeU8 type.tag; writeFixedBytes value.bytes byteCount))
    (hreader : ∀ rest, decodeDlmsDataValue (depth + 1) ([type.tag] ++ rest) =
      readFixedBytes byteCount type rest) :
    Conveyed (encodeDlmsDataValue value) (decodeDlmsDataValue (depth + 1))
      { type, bytes := value.bytes } := by
  refine conveyed_of_body depth type _ _ _ _ hwriter hreader ?_
  rw [← hsize]
  exact conveyed_writeFixedBytes value.bytes type

theorem conveyed_elements (elements : List DlmsData)
    (hcount : value.elements.length < 256 ^ sizeOctets)
    (helements : Conveyed (encodeElements value.elements)
      (Parser.repeatN (decodeDlmsDataValue depth) value.elements.length) elements)
    (hwriter : encodeDlmsDataValue value = (do
      writeU8 type.tag
      writeAxdrLength value.elements.length
      encodeElements value.elements))
    (hreader : ∀ rest, decodeDlmsDataValue (depth + 1) ([type.tag] ++ rest) =
      (do
        let elementCount ← readAxdrLength
        let elements ← Parser.repeatN (decodeDlmsDataValue depth) elementCount
        pure { type, elements } : Reader DlmsData) rest) :
    Conveyed (encodeDlmsDataValue value) (decodeDlmsDataValue (depth + 1)) { type, elements } :=
  conveyed_of_body depth type _ _ _ _ hwriter hreader
    (conveys_bind _ _ _ _ _ _ _ (conveyed_writeAxdrLength _ hcount)
      (conveys_build _ _ _ (fun elements => ({ type, elements } : DlmsData)) _ helements))

end Leaves

/-- What is encoded is decoded to what the low octets of the numbers stand for, if
    the dates have their sizes and the decoder goes deep enough. -/
theorem conveyed_narrow (value : DlmsData) (hsized : Everywhere Sized value)
    (hdated : Everywhere Dated value) (depth : Nat) (hdepth : nesting value ≤ depth) :
    Conveyed (encodeDlmsDataValue value) (decodeDlmsDataValue depth) (narrow value) := by
  induction value using induction_elements generalizing depth with
  | hstep value ih =>
      rcases value with ⟨type, booleanValue, signedValue, unsignedValue, bytes, elements⟩
      rw [everywhere_iff] at hsized hdated
      rcases hsized with ⟨⟨hbytes, hcount⟩, hsized⟩
      rcases hdated with ⟨hdate, hdated⟩
      cases depth with
      | zero => exact absurd (nesting_pos _) (Nat.not_lt.mpr hdepth)
      | succ depth =>
          unfold nesting at hdepth
          unfold narrow renumber
          have helements : hasElements type = true →
              Conveyed (encodeElements elements)
                (Parser.repeatN (decodeDlmsDataValue depth) elements.length)
                (renumberElements narrowSigned narrowUnsigned elements) := by
            intro htype
            rw [if_pos htype] at hdepth
            rw [renumberElements_eq_map, encodeElements_eq_forEach]
            refine conveys_repeatN_map _ _ _ _ elements fun element helement => ?_
            refine ih element helement (hsized htype element helement)
              (hdated htype element helement) depth ?_
            exact (nesting_le_of_mem element elements helement).trans
              (Nat.le_of_succ_le_succ hdepth)
          cases type with
          | nullData =>
              exact conveyed_of_body depth .nullData _ _ (pure ()) (pure { type := .nullData })
                (by unfold encodeDlmsDataValue; rfl) (fun _ => rfl) (conveys_pure _ _)
          | boolean =>
              exact conveyed_of_body depth .boolean _ _ (writeAxdrBoolean booleanValue)
                (do let booleanValue ← readAxdrBoolean; pure { type := .boolean, booleanValue })
                (by unfold encodeDlmsDataValue; rfl) (fun _ => rfl)
                (conveys_build _ _ _ _ _ (conveyed_writeAxdrBoolean booleanValue))
          | octetString =>
              exact conveyed_of_body depth .octetString _ _ (writeAxdrOctetString bytes)
                (do let bytes ← readAxdrOctetString; pure { type := .octetString, bytes })
                (by unfold encodeDlmsDataValue; rfl) (fun _ => rfl)
                (conveys_build _ _ _ _ _ (conveyed_writeAxdrOctetString bytes hbytes))
          | array =>
              exact conveyed_elements depth _ .array _ hcount (helements rfl)
                (by unfold encodeDlmsDataValue; rfl) fun _ => rfl
          | structureData =>
              exact conveyed_elements depth _ .structureData _ hcount (helements rfl)
                (by unfold encodeDlmsDataValue; rfl) fun _ => rfl
          | integer =>
              exact conveyed_narrowSigned depth _ .integer 1 (by decide)
                (by unfold encodeDlmsDataValue; rfl) fun _ => rfl
          | long =>
              exact conveyed_narrowSigned depth _ .long 2 (by decide)
                (by unfold encodeDlmsDataValue; rfl) fun _ => rfl
          | doubleLong =>
              exact conveyed_narrowSigned depth _ .doubleLong 4 (by decide)
                (by unfold encodeDlmsDataValue; rfl) fun _ => rfl
          | long64 =>
              -- Eight octets fill the slot, so nothing is lost and nothing is extended.
              have hbody := conveys_build _ _ _
                (fun number => ({ type := .long64, signedValue := number.toInt64 } : DlmsData)) _
                (conveyed_writeUnsigned signedValue.toUInt64 8)
              rw [Nat.mod_eq_of_lt (show _ < 256 ^ 8 from signedValue.toUInt64.toNat_lt),
                UInt64.ofNat_toNat, Int64.toInt64_toUInt64] at hbody
              exact conveyed_of_body depth .long64 _ _ _ _ (by unfold encodeDlmsDataValue; rfl)
                (fun _ => rfl) hbody
          | dateTime =>
              exact conveyed_dated depth _ .dateTime dateTimeSize (hdate _ rfl)
                (by unfold encodeDlmsDataValue; rfl) fun _ => rfl
          | date =>
              exact conveyed_dated depth _ .date dateSize (hdate _ rfl)
                (by unfold encodeDlmsDataValue; rfl) fun _ => rfl
          | time =>
              exact conveyed_dated depth _ .time timeSize (hdate _ rfl)
                (by unfold encodeDlmsDataValue; rfl) fun _ => rfl
          | _ =>
              exact conveyed_narrowUnsigned depth _ _ _ (by unfold encodeDlmsDataValue; rfl)
                fun _ => rfl

end Apdu

end Dlms
