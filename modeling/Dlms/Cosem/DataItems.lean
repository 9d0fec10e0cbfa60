import Dlms.Apdu.Data
import Dlms.Codec.Prefix
import Dlms.Cosem.Types

/-!
# Data items of the simple objects

The attributes of the built-in objects are written and read item by item: each
class has its own encoder and its own decoder, over one set of helpers. The
helpers that append return the octets they append. The helpers that read take
them off the front of what is left of the input, so the offset of the source is
what has been taken.

A decoder stops in two ways. It returns false, or it asks a vector for more room
than a vector can have, and the exception goes through. A vector is asked for
the room for all elements before the first one is read, with the count from the
input. How much memory there is does not come into it.

Parameters and thresholds are kept as the octets they came in. Where such an
item ends is found by a reader of its own, which goes over it without looking at
its value.

## Main definitions

* `DataReader`: A reader that is refused, or stops with an exception.
* `readLength`, `readStructureHeader`, `readArray` and the other readers.
* `appendOctetString`, `appendArray` and the other appenders.
* `skipDlmsData`: The way over one item.
* `WellFormedData`: The octets are one item, as the codec of the APDUs reads it.

## Theorems

* `decodes_readArray` and the others: What is appended is read back.
* `decodes_skippedData`: A well-formed item is kept as it is.
-/

namespace Dlms

namespace Cosem

open Codec
open Apdu (Bytes DlmsData DlmsDataType LogicalName axdrLengthBytes decodeDlmsData)

/-- How a decoder stops: it returns false, or it lets an exception through. -/
inductive Refusal where
  | invalid
  | lengthError
  | badAlloc
  deriving DecidableEq, Repr

abbrev DataReader (α : Type) : Type := Parser UInt8 Refusal α

/-! ### Tags and lengths -/

def nullDataTag : UInt8 := 0x00

def arrayTag : UInt8 := 0x01

def structureTag : UInt8 := 0x02

def dataOctetStringTag : UInt8 := 0x09

def integerTag : UInt8 := 0x0F

def unsignedTag : UInt8 := 0x11

def longUnsignedTag : UInt8 := 0x12

def enumTag : UInt8 := 0x16

def sizeOfLength : Nat := 8

/-- A length at an offset, and the offset behind it. -/
def readAxdrLength (input : Bytes) (offset : Nat) : Option (Nat × Nat) :=
  match input[offset]? with
  | none => none
  | some first =>
      if first &&& 0x80 = 0 then some (first.toNat, offset + 1)
      else
        let lengthBytes := (first &&& 0x7F).toNat
        if lengthBytes = 0 ∨ lengthBytes > sizeOfLength ∨
            input.length - (offset + 1) < lengthBytes then none
        else
          some (Codec.beValue ((input.drop (offset + 1)).take lengthBytes),
            offset + 1 + lengthBytes)

/-! ### Reading -/

def refuse {α : Type} : DataReader α := Parser.fail .invalid

def readByte : DataReader UInt8 := Parser.item .invalid

def readFixedBytes (size : Nat) : DataReader Bytes := Parser.items .invalid size

def readExpectedTag (expectedTag : UInt8) : DataReader Unit := do
  let tag ← readByte
  if tag = expectedTag then pure () else refuse

/-- The length in front of what is left. -/
def readLength : DataReader Nat := fun rest =>
  match readAxdrLength rest 0 with
  | none => .error .invalid
  | some (length, offset) => .ok (length, rest.drop offset)

def readLongUnsignedValue : DataReader UInt16 := do
  readExpectedTag longUnsignedTag
  let octets ← readFixedBytes 2
  pure (UInt16.ofNat (beValue octets))

/-- A tag and one octet. -/
def readTagged (tag : UInt8) : DataReader UInt8 := do
  readExpectedTag tag
  readByte

def readIntegerValue : DataReader UInt8 := readTagged integerTag

def readUnsignedValue : DataReader UInt8 := readTagged unsignedTag

def readEnumValue : DataReader UInt8 := readTagged enumTag

/-- An octet string of one size. -/
def readSizedOctetString (size : Nat) : DataReader Bytes := do
  readExpectedTag dataOctetStringTag
  let length ← readLength
  if length ≠ size then refuse else readFixedBytes length

def logicalNameSize : Nat := 6

def readLogicalNameValue : DataReader LogicalName := do
  let data ← readSizedOctetString logicalNameSize
  match data with
  | [a, b, c, d, e, f] => pure ⟨a, b, c, d, e, f⟩
  | _ => refuse

def readBufferOctetString : DataReader Bytes := do
  readExpectedTag dataOctetStringTag
  let length ← readLength
  readFixedBytes length

/-- The header of a structure with so many fields. -/
def readStructureHeader (fields : Nat) : DataReader Unit := do
  readExpectedTag structureTag
  let fieldCount ← readLength
  if fieldCount = fields then pure () else refuse

/-- The octets that a vector can have at most. -/
def maximumVectorSize : Nat := 2 ^ 63 - 1

/-- The elements that a vector can have at most. -/
def maximumCount (elementSize : Nat) : Nat := maximumVectorSize / elementSize

/-- The elements are those of a vector, which can have so many. -/
def IsVector {α : Type} (elementSize : Nat) (elements : List α) : Prop :=
  elements.length ≤ maximumCount elementSize

/-- What a buffer takes up in its vector. -/
def byteBufferSize : Nat := 24

/-- Room for so many elements of a size. The memory is taken for granted here. -/
def reserve (elementSize count : Nat) : DataReader Unit :=
  if count > maximumCount elementSize then Parser.fail .lengthError else pure ()

/-- The elements of an array, which go into a vector. -/
def readArray {α : Type} (elementSize : Nat) (element : DataReader α) : DataReader (List α) := do
  readExpectedTag arrayTag
  let count ← readLength
  reserve elementSize count
  Parser.repeatN element count

/-- A decoder that is given the whole input leaves nothing of it. -/
def readPayload {α : Type} (reader : DataReader α) : DataReader α := do
  let value ← reader
  Parser.atEnd .invalid
  pure value

/-- How a write fails: with a status, or with an exception. -/
inductive WriteFailure where
  | status (status : CosemStatus)
  | lengthError
  | badAlloc
  deriving DecidableEq

/-- An input that is refused is an invalid argument. -/
def decodePayload {α : Type} (reader : DataReader α) (input : Bytes) : Except WriteFailure α :=
  match readPayload reader input with
  | .ok (value, _) => .ok value
  | .error .invalid => .error (.status .invalidArgument)
  | .error .lengthError => .error .lengthError
  | .error .badAlloc => .error .badAlloc

def isAccessWritable (mode : AttributeAccessMode) : Bool :=
  match mode with
  | .writeOnly | .readAndWrite | .authenticatedWriteOnly | .authenticatedReadAndWrite => true
  | .noAccess | .readOnly | .authenticatedReadOnly => false

def normalizeVersion (version maxSupportedVersion : UInt8) : UInt8 :=
  if version > maxSupportedVersion then maxSupportedVersion else version

/-! ### Skipping -/

def maxProfileGenericDecodeDepth : Nat := 16

def dlmsDateTimeSize : Nat := 12

def dlmsDateSize : Nat := 5

def dlmsTimeSize : Nat := 4

def skipBytes (size : Nat) : DataReader Unit := do
  let _ ← readFixedBytes size
  pure ()

def skipDlmsDataItems (item : DataReader Unit) (count : Nat) : DataReader Unit := do
  let _ ← Parser.repeatN item count
  pure ()

/-- Go over one item that is nested no deeper than so many levels: the depth of
    the source counts up to its limit, and this counts what is left of it. -/
def skipDlmsData : Nat → DataReader Unit
  | 0 => refuse
  | levels + 1 => do
      let tag ← readByte
      match tag.toNat with
      | 0x00 => pure ()
      | 0x01 | 0x02 => do
          let count ← readLength
          skipDlmsDataItems (skipDlmsData levels) count
      | 0x03 | 0x0F | 0x11 | 0x16 => skipBytes 1
      | 0x10 | 0x12 => skipBytes 2
      | 0x05 | 0x06 => skipBytes 4
      | 0x14 | 0x15 => skipBytes 8
      | 0x19 => skipBytes dlmsDateTimeSize
      | 0x1A => skipBytes dlmsDateSize
      | 0x1B => skipBytes dlmsTimeSize
      | 0x09 => do
          let length ← readLength
          skipBytes length
      | _ => refuse

/-- The octets of one item. -/
def skippedData : DataReader Bytes := do
  let item ← Parser.consumed (skipDlmsData (maxProfileGenericDecodeDepth + 1))
  pure item.1

/-! ### Appending -/

def appendLength (length : Nat) : Bytes := axdrLengthBytes length

def appendArrayHeader (count : Nat) : Bytes := [arrayTag] ++ appendLength count

def appendStructureHeader (count : Nat) : Bytes := [structureTag] ++ appendLength count

def appendLongUnsigned (value : UInt16) : Bytes := [longUnsignedTag] ++ beBytes 2 value.toNat

def appendUnsigned (value : UInt8) : Bytes := [unsignedTag, value]

def appendInteger (value : UInt8) : Bytes := [integerTag, value]

def appendEnum (value : UInt8) : Bytes := [enumTag, value]

def appendOctetString (data : Bytes) : Bytes :=
  [dataOctetStringTag] ++ (appendLength data.length ++ data)

def appendBufferOctetString (value : Bytes) : Bytes := appendOctetString value

def appendLogicalName (logicalName : LogicalName) : Bytes := appendOctetString logicalName.bytes

/-- An array with its elements one after another. -/
def appendArray {α : Type} (append : α → Bytes) (elements : List α) : Bytes :=
  appendArrayHeader elements.length ++ elements.flatMap append

def encodeLogicalName (logicalName : LogicalName) : Bytes :=
  [dataOctetStringTag, 6] ++ logicalName.bytes

/-! ### What is appended is read back -/

theorem decodes_readByte (value : UInt8) : Decodes readByte [value] value := decodes_item _ _

theorem decodes_readExpectedTag (tag : UInt8) : Decodes (readExpectedTag tag) [tag] () := by
  intro rest
  simp only [readExpectedTag, bind, StateT.bind, decodes_readByte tag rest, Except.bind, if_true]
  rfl

theorem decodes_readFixedBytes (bytes : Bytes) (size : Nat) (h : bytes.length = size) :
    Decodes (readFixedBytes size) bytes bytes := by
  rw [← h]
  exact decodes_items _ _

theorem decodes_readTagged (tag value : UInt8) : Decodes (readTagged tag) [tag, value] value :=
  decodes_bind _ _ [tag] [value] _ _ (decodes_readExpectedTag tag) (decodes_readByte value)

theorem decodes_readLongUnsignedValue (value : UInt16) :
    Decodes readLongUnsignedValue (appendLongUnsigned value) value := by
  have hlt : value.toNat < 256 ^ 2 := value.toNat_lt
  have hread := decodes_readFixedBytes (beBytes 2 value.toNat) 2 (length_beBytes 2 _)
  have hvalue := decodes_last _ (fun octets => pure (UInt16.ofNat (beValue octets))) _ _ _ hread
    (decodes_pure _)
  rw [beValue_beBytes_of_lt _ _ hlt, UInt16.ofNat_toNat] at hvalue
  exact decodes_bind _ _ _ _ _ _ (decodes_readExpectedTag _) hvalue

/-- The length is read as a program reads it. -/
theorem readLength_eq : readLength = (do
    let first ← readByte
    if first &&& 0x80 = 0 then
      pure first.toNat
    else if (first &&& 0x7F).toNat = 0 ∨ (first &&& 0x7F).toNat > sizeOfLength then
      refuse
    else do
      let octets ← readFixedBytes (first &&& 0x7F).toNat
      pure (beValue octets)) := by
  funext ts
  cases ts with
  | nil => rfl
  | cons first rest =>
      have hread : readByte (first :: rest) = .ok (first, rest) := rfl
      simp only [readLength, readAxdrLength, bind, StateT.bind, hread, Except.bind,
        List.getElem?_cons_zero]
      by_cases hshort : first &&& 0x80 = 0
      · simp only [if_pos hshort]
        rfl
      · simp only [if_neg hshort]
        by_cases hcount : (first &&& 0x7F).toNat = 0 ∨ (first &&& 0x7F).toNat > sizeOfLength
        · rw [if_pos hcount, if_pos (hcount.imp_right Or.inl)]
          rfl
        · rw [if_neg hcount]
          rw [not_or] at hcount
          -- The check for the octets that are left and the reader fail together, in one status.
          by_cases hfew : rest.length < (first &&& 0x7F).toNat
          · have hleft : (first :: rest).length - (0 + 1) < (first &&& 0x7F).toNat := hfew
            have hoctets : readFixedBytes (first &&& 0x7F).toNat rest = .error .invalid := by
              simp only [readFixedBytes, Parser.items, hfew, if_true]
            rw [if_pos (Or.inr (Or.inr hleft))]
            simp only [StateT.bind, hoctets]
            rfl
          · have hleft : ¬(first :: rest).length - (0 + 1) < (first &&& 0x7F).toNat := hfew
            have hoctets : readFixedBytes (first &&& 0x7F).toNat rest =
                .ok (rest.take (first &&& 0x7F).toNat, rest.drop (first &&& 0x7F).toNat) := by
              simp only [readFixedBytes, Parser.items, hfew, if_false]
            rw [if_neg (not_or.mpr ⟨hcount.1, not_or.mpr ⟨hcount.2, hleft⟩⟩)]
            simp only [StateT.bind, hoctets, Nat.zero_add, Nat.add_comm 1, List.drop_succ_cons,
              List.drop_zero]
            rfl

theorem steady_readLength : Steady readLength := by
  rw [readLength_eq]
  refine steady_bind _ _ (steady_item _) fun first => ?_
  split_ifs
  · exact steady_pure _
  · exact steady_fail _
  · exact steady_bind _ _ (steady_items _ _) fun _ => steady_pure _

/-- A length that the codec of the APDUs takes is taken here too. -/
theorem follows_readLength :
    Follows readLength Apdu.readAxdrLength fun length length' => length' = length := by
  rw [readLength_eq]
  refine follows_bind _ _ _ _ _ _ (follows_item _ _) fun first first' hfirst => ?_
  rw [hfirst]
  dsimp only
  by_cases hshort : first &&& 0x80 = 0
  · rw [if_pos hshort, if_pos hshort]
    exact follows_pure _ _ _ rfl
  rw [if_neg hshort, if_neg hshort]
  by_cases hcount : (first &&& 0x7F).toNat = 0 ∨ (first &&& 0x7F).toNat > sizeOfLength
  · have hcount' : (first &&& 0x7F).toNat = 0 ∨ (first &&& 0x7F).toNat > Apdu.sizeOctets := hcount
    rw [if_pos hcount, if_pos hcount']
    exact follows_fail _ _ _
  · have hcount' : ¬((first &&& 0x7F).toNat = 0 ∨ (first &&& 0x7F).toNat > Apdu.sizeOctets) :=
      hcount
    rw [if_neg hcount, if_neg hcount']
    refine follows_bind _ _ _ _ _ _ (follows_items _ _ _) fun octets octets' hoctets => ?_
    rw [hoctets]
    -- A long form of a short length is refused by the other one only.
    by_cases hlong : beValue octets < 0x80
    · rw [if_pos hlong]
      exact follows_fail _ _ _
    · rw [if_neg hlong]
      exact follows_pure _ _ _ rfl

theorem decodes_readLength (length : Nat) (h : length < 256 ^ Apdu.sizeOctets) :
    Decodes readLength (appendLength length) length :=
  decodes_of_follows _ _ _ _ follows_readLength (Apdu.decodes_readAxdrLength length h)

theorem decodes_readBufferOctetString (data : Bytes) (h : data.length < 256 ^ Apdu.sizeOctets) :
    Decodes readBufferOctetString (appendOctetString data) data :=
  decodes_bind _ _ _ _ _ _ (decodes_readExpectedTag _)
    (decodes_bind _ _ _ _ _ _ (decodes_readLength _ h) (decodes_readFixedBytes _ _ rfl))

/-- Sizes and counts of one octet are lengths. -/
theorem decodes_readLength_short (length : Nat) (h : length < 128) :
    Decodes readLength (appendLength length) length := by
  have hbound : 128 < 256 ^ Apdu.sizeOctets := by decide
  exact decodes_readLength length (by omega)

theorem decodes_readSizedOctetString (data : Bytes) (size : Nat) (hsize : data.length = size)
    (h : size < 128) : Decodes (readSizedOctetString size) (appendOctetString data) data := by
  rw [← hsize] at h ⊢
  refine decodes_bind _ _ _ _ _ _ (decodes_readExpectedTag _)
    (decodes_bind _ _ _ _ _ _ (decodes_readLength_short _ h) ?_)
  rw [if_neg (not_not.mpr rfl)]
  exact decodes_readFixedBytes _ _ rfl

theorem decodes_readLogicalNameValue (logicalName : LogicalName) :
    Decodes readLogicalNameValue (appendLogicalName logicalName) logicalName := by
  have hsmall : logicalNameSize < 128 := by decide
  exact decodes_last _ _ _ _ _ (decodes_readSizedOctetString logicalName.bytes _ rfl hsmall)
    (decodes_pure _)

theorem decodes_readStructureHeader (fields : Nat) (h : fields < 128) :
    Decodes (readStructureHeader fields) (appendStructureHeader fields) () := by
  refine decodes_bind _ _ _ _ _ _ (decodes_readExpectedTag _)
    (decodes_last _ _ _ _ _ (decodes_readLength_short _ h) ?_)
  rw [if_pos rfl]
  exact decodes_pure ()

theorem maximumCount_lt (elementSize : Nat) :
    maximumCount elementSize < 256 ^ Apdu.sizeOctets := by
  have hle : maximumCount elementSize ≤ maximumVectorSize := Nat.div_le_self ..
  have hlt : maximumVectorSize < 256 ^ Apdu.sizeOctets := by decide
  omega

theorem decodes_reserve (elementSize count : Nat) (h : count ≤ maximumCount elementSize) :
    Decodes (reserve elementSize count) [] () := by
  rw [reserve, if_neg (Nat.not_lt.mpr h)]
  exact decodes_pure ()

/-- The elements of a vector are read back from its array. -/
theorem decodes_readArray {α : Type} (elementSize : Nat) (element : DataReader α)
    (append : α → Bytes) (elements : List α) (hcount : IsVector elementSize elements)
    (h : ∀ a ∈ elements, Decodes element (append a) a) :
    Decodes (readArray elementSize element) (appendArray append elements) elements := by
  have hlength : elements.length < 256 ^ Apdu.sizeOctets :=
    Nat.lt_of_le_of_lt hcount (maximumCount_lt elementSize)
  rw [appendArray, appendArrayHeader, List.append_assoc]
  refine decodes_bind _ _ _ _ _ _ (decodes_readExpectedTag _)
    (decodes_bind _ _ _ _ _ _ (decodes_readLength _ hlength) ?_)
  rw [← List.nil_append (elements.flatMap append)]
  exact decodes_bind _ _ _ _ _ _ (decodes_reserve _ _ hcount) (decodes_repeatN _ _ _ h)

/-- An input that is read to its end is decoded. -/
theorem decodePayload_of_decodes {α : Type} (reader : DataReader α) (input : Bytes) (value : α)
    (h : Decodes reader input value) : decodePayload reader input = .ok value := by
  have haccepts : readPayload reader input = .ok (value, []) :=
    accepts_atEnd reader Refusal.invalid id _ _ (accepts_of_decodes _ _ _ h)
  rw [decodePayload, haccepts]

/-- What is decoded is read from the first octet to the last. -/
theorem decodePayload_eq_ok_iff {α : Type} (reader : DataReader α) (input : Bytes) (value : α) :
    decodePayload reader input = .ok value ↔ Accepts reader input value := by
  constructor
  · intro h
    rw [decodePayload] at h
    split at h
    case h_1 read rest hread =>
      rw [readPayload, bind_eq_ok_iff] at hread
      rcases hread with ⟨first, left, hfirst, hend⟩
      cases left with
      | nil =>
          rw [Accepts, hfirst, ← Except.ok.inj h, (Prod.mk.inj (Except.ok.inj hend)).1]
      | cons t left =>
          exact absurd hend (by simp [bind, StateT.bind, Parser.atEnd, Except.bind])
    all_goals cases h
  · intro h
    have haccepts : readPayload reader input = .ok (value, []) :=
      accepts_atEnd reader Refusal.invalid id _ _ h
    rw [decodePayload, haccepts]

/-! ### Items that are kept -/

theorem steady_skipBytes (size : Nat) : Steady (skipBytes size) :=
  steady_bind _ _ (steady_items _ _) fun _ => steady_pure _

theorem steady_skipDlmsData (levels : Nat) : Steady (skipDlmsData levels) := by
  induction levels with
  | zero => exact steady_fail _
  | succ levels ih =>
      -- Items of one level less, as many as the length says.
      have hitems (count : Nat) : Steady (skipDlmsDataItems (skipDlmsData levels) count) :=
        steady_bind _ _ (steady_repeatN _ _ ih) fun _ => steady_pure _
      unfold skipDlmsData
      refine steady_bind _ _ (steady_item _) fun tag => ?_
      split
      · exact steady_pure _
      · exact steady_bind _ _ steady_readLength hitems
      · exact steady_bind _ _ steady_readLength hitems
      all_goals first
        | exact steady_skipBytes _
        | exact steady_bind _ _ steady_readLength steady_skipBytes
        | exact steady_fail _

theorem follows_skipBytes (size : Nat) :
    Follows (skipBytes size) (Apdu.readBytes size) fun _ _ => True := by
  intro ts taken rest hout
  rcases follows_items Apdu.ApduStatus.needMoreData Refusal.invalid size ts taken rest hout with
    ⟨taken', -, htaken⟩
  refine ⟨(), trivial, ?_⟩
  simp only [skipBytes, readFixedBytes, bind, StateT.bind, htaken, Except.bind]
  rfl

theorem follows_skipByte : Follows (skipBytes 1) Apdu.readU8 fun _ _ => True := by
  intro ts first rest hout
  cases ts with
  | nil => exact absurd hout (by simp [Apdu.readU8, Parser.item])
  | cons t ts =>
      rcases Prod.mk.inj (Except.ok.inj hout) with ⟨-, rfl⟩
      exact ⟨(), trivial, rfl⟩

/-- The tags of the codec of the APDUs are those of its types. -/
theorem tag_of_ofTag (tag : UInt8) (type : DlmsDataType) (h : DlmsDataType.ofTag tag = some type) :
    tag = type.tag := by
  unfold DlmsDataType.ofTag at h
  apply UInt8.toNat.inj
  split at h <;> cases h <;> assumption

/-- An item that the codec of the APDUs decodes is skipped to its end. The
    induction is on the levels, and both go one level down for an array. -/
theorem follows_skipDlmsData (levels : Nat) :
    Follows (skipDlmsData levels) (Apdu.decodeDlmsDataValue levels) fun _ _ => True := by
  induction levels with
  | zero => exact follows_fail _ _ _
  | succ levels ih =>
      -- The four shapes of an item: octets of a fixed size, a number made of some, a list of items,
      -- and octets with their length in front.
      have hsized (size : Nat) {α : Type} (g : Bytes → α) :
          Follows (skipBytes size) (do let octets ← Apdu.readBytes size; pure (g octets))
            fun _ _ => True :=
        follows_build _ _ _ g (follows_skipBytes size)
      have hnumber (size : Nat) {α : Type} (g : UInt64 → α) :
          Follows (skipBytes size) (do let value ← Apdu.readUnsigned size; pure (g value))
            fun _ _ => True :=
        follows_build _ _ _ g (hsized size _)
      have hitems {α : Type} (g : List DlmsData → α) :
          Follows (do let count ← readLength; skipDlmsDataItems (skipDlmsData levels) count)
            (do
              let elementCount ← Apdu.readAxdrLength
              let elements ← Parser.repeatN (Apdu.decodeDlmsDataValue levels) elementCount
              pure (g elements)) fun _ _ => True := by
        refine follows_bind _ _ _ _ _ _ follows_readLength fun count count' hcount => ?_
        rw [hcount]
        exact follows_bind _ _ _ _ _ _ (follows_repeatN _ _ count ih)
          fun _ _ _ => follows_pure _ _ _ trivial
      have hoctets {α : Type} (g : Bytes → α) :
          Follows (do let length ← readLength; skipBytes length)
            (do let octets ← Apdu.readAxdrOctetString; pure (g octets)) fun _ _ => True := by
        refine follows_build _ _ (fun _ _ => True) g
          (follows_bind _ _ _ _ _ _ follows_readLength fun length length' hlength => ?_)
        rw [hlength]
        exact follows_skipBytes length
      -- Both read the tag first, and go by it.
      unfold skipDlmsData Apdu.decodeDlmsDataValue
      refine follows_bind _ _ _ _ _ _ (follows_item _ _) fun tag tag' htag => ?_
      rw [htag]
      cases htype : DlmsDataType.ofTag tag with
      | none => exact follows_fail _ _ _
      | some type =>
          rw [tag_of_ofTag tag type htype]
          cases type with
          | nullData => exact follows_pure _ _ _ trivial
          | array => exact hitems _
          | structureData => exact hitems _
          | boolean => exact follows_build _ _ _ _ (follows_build _ _ _ _ follows_skipByte)
          | octetString => exact hoctets _
          | dateTime => exact hsized 12 _
          | date => exact hsized 5 _
          | time => exact hsized 4 _
          | integer | unsigned | enum => exact hnumber 1 _
          | long | longUnsigned => exact hnumber 2 _
          | doubleLong | doubleLongUnsigned => exact hnumber 4 _
          | long64 | long64Unsigned => exact hnumber 8 _

/-- The octets are one item for the codec of the APDUs, nested no deeper than
    the items of an attribute may be. -/
def WellFormedData (item : Bytes) : Prop :=
  ∃ value, decodeDlmsData item (maxProfileGenericDecodeDepth + 1) = .ok value

/-- A well-formed item is kept as it is. -/
theorem decodes_skippedData (item : Bytes) (h : WellFormedData item) :
    Decodes skippedData item item := by
  rcases h with ⟨value, hvalue⟩
  rw [Apdu.decodeDlmsData_eq_ok_iff] at hvalue
  rcases accepts_of_follows _ _ _ _ _ (follows_skipDlmsData _) hvalue with ⟨_, -, haccepts⟩
  have hskipped := decodes_consumed _ _ _
    (decodes_of_steady _ _ _ (steady_skipDlmsData _) haccepts)
  exact decodes_last _ _ _ _ _ hskipped (decodes_pure _)

end Cosem

end Dlms
