import Dlms.Apdu.Axdr

/-!
# DLMS data

The tagged value every attribute and every method parameter is made of.

A value is a record with one slot for each kind of content, as the source has
it: the type says which slot is meant and the decoder leaves the others at
their defaults. Arrays and structures nest, and the decoder bounds the depth
so that a hostile input cannot make it recurse further.

The theorem a user of the encoder needs is that it is uniform. A value is
either written as one fixed list of bytes, room permitting, or it is refused
from every buffer. So one successful encoding, into any buffer, decides what
every other encoding of the same value does.

## Main definitions

* `DlmsDataType`, `DlmsData`: The value and its types.
* `decodeDlmsData`, `encodeDlmsData`: The codec.
* `CanonicalData`: The bytes are what the encoder writes for the value they
  decode to.

## Theorems

* `settled_encodeDlmsData`: When the encoder refuses a value, the reason is its own.
* `uniform_encodeDlmsData`: The encoder writes one list or always refuses.
* `writes_of_canonicalData`: Canonical bytes are written back unchanged.
* `decodeDlmsData_eq_ok_iff`: Decoding a whole view is accepting it.
* `canonicalData_octetString`: An octet string is canonical with any content.
* `canonicalData_of_decodes`: Canonical bytes are canonical at every depth that
  decodes them.
-/

namespace Dlms

namespace Apdu

open Codec

/-- The data types of the codec. -/
inductive DlmsDataType where
  | nullData
  | array
  | structureData
  | boolean
  | doubleLong
  | doubleLongUnsigned
  | octetString
  | integer
  | long
  | unsigned
  | longUnsigned
  | long64
  | long64Unsigned
  | enum
  | dateTime
  | date
  | time
  deriving DecidableEq, Repr

namespace DlmsDataType

/-- The tag byte of a type. -/
def tag : DlmsDataType → UInt8
  | nullData => 0x00
  | array => 0x01
  | structureData => 0x02
  | boolean => 0x03
  | doubleLong => 0x05
  | doubleLongUnsigned => 0x06
  | octetString => 0x09
  | integer => 0x0F
  | long => 0x10
  | unsigned => 0x11
  | longUnsigned => 0x12
  | long64 => 0x14
  | long64Unsigned => 0x15
  | enum => 0x16
  | dateTime => 0x19
  | date => 0x1A
  | time => 0x1B

/-- The type of a tag byte, when there is one. -/
def ofTag (tag : UInt8) : Option DlmsDataType :=
  match tag.toNat with
  | 0x00 => some nullData
  | 0x01 => some array
  | 0x02 => some structureData
  | 0x03 => some boolean
  | 0x05 => some doubleLong
  | 0x06 => some doubleLongUnsigned
  | 0x09 => some octetString
  | 0x0F => some integer
  | 0x10 => some long
  | 0x11 => some unsigned
  | 0x12 => some longUnsigned
  | 0x14 => some long64
  | 0x15 => some long64Unsigned
  | 0x16 => some enum
  | 0x19 => some dateTime
  | 0x1A => some date
  | 0x1B => some time
  | _ => none

end DlmsDataType

/-- A DLMS value. The slots the type does not use hold their defaults in
    every decoded value. -/
structure DlmsData where
  type : DlmsDataType
  booleanValue : Bool := false
  signedValue : Int64 := 0
  unsignedValue : UInt64 := 0
  bytes : Bytes := []
  elements : List DlmsData := []

/-! ### Decoding -/

def signExtend (value : UInt64) (byteCount : Nat) : Int64 :=
  if value &&& (1 <<< (UInt64.ofNat (byteCount * 8) - 1)) = 0 then
    value.toInt64
  else
    (value ||| ((0xFFFFFFFFFFFFFFFF : UInt64) <<< UInt64.ofNat (byteCount * 8))).toInt64

def readUnsigned (byteCount : Nat) : Reader UInt64 := do
  let bytes ← readBytes byteCount
  pure (UInt64.ofNat (beValue bytes))

def dateTimeSize : Nat := 12

def dateSize : Nat := 5

def timeSize : Nat := 4

def readFixedBytes (size : Nat) (type : DlmsDataType) : Reader DlmsData := do
  let bytes ← readBytes size
  pure { type, bytes }

def readSigned (byteCount : Nat) (type : DlmsDataType) : Reader DlmsData := do
  let value ← readUnsigned byteCount
  pure { type, signedValue := signExtend value byteCount }

def readUnsignedData (byteCount : Nat) (type : DlmsDataType) : Reader DlmsData := do
  let unsignedValue ← readUnsigned byteCount
  pure { type, unsignedValue }

/-- Decode one value, nested no deeper than `maximumDepth`. -/
def decodeDlmsDataValue : Nat → Reader DlmsData
  | 0 => Parser.fail .invalidData
  | maximumDepth + 1 => do
      let tag ← readU8
      match DlmsDataType.ofTag tag with
      | none => Parser.fail .unsupportedDataType
      | some type =>
          match type with
          | .nullData => pure { type }
          | .array | .structureData => do
              let elementCount ← readAxdrLength
              let elements ← Parser.repeatN (decodeDlmsDataValue maximumDepth) elementCount
              pure { type, elements }
          | .boolean => do
              let booleanValue ← readAxdrBoolean
              pure { type, booleanValue }
          | .doubleLong => readSigned 4 type
          | .doubleLongUnsigned => readUnsignedData 4 type
          | .octetString => do
              let bytes ← readAxdrOctetString
              pure { type, bytes }
          | .integer => readSigned 1 type
          | .long => readSigned 2 type
          | .unsigned | .enum => readUnsignedData 1 type
          | .longUnsigned => readUnsignedData 2 type
          -- Eight octets fill the slot, so there is no sign to extend.
          | .long64 => do
              let value ← readUnsigned 8
              pure { type, signedValue := value.toInt64 }
          | .long64Unsigned => readUnsignedData 8 type
          | .dateTime => readFixedBytes dateTimeSize type
          | .date => readFixedBytes dateSize type
          | .time => readFixedBytes timeSize type

def decodeDlmsDataFromReader (maximumDepth : Nat) : Reader DlmsData :=
  decodeDlmsDataValue maximumDepth

/-- Decode one value and nothing after it. -/
def decodeDlmsData (input : Bytes) (maximumDepth : Nat) : Except ApduStatus DlmsData :=
  match decodeDlmsDataFromReader maximumDepth input with
  | .error status => .error status
  | .ok (output, []) => .ok output
  | .ok (_, _ :: _) => .error .invalidLength

/-! ### Encoding -/

def writeUnsigned (value : UInt64) (byteCount : Nat) : Writer :=
  writeBytes (beBytes byteCount value.toNat)

def writeFixedBytes (bytes : Bytes) (size : Nat) : Writer :=
  if bytes.length = size then writeBytes bytes else Emitter.fail .invalidLength

mutual

def encodeDlmsDataValue : DlmsData → Writer
  | ⟨type, booleanValue, signedValue, unsignedValue, bytes, elements⟩ => do
      writeU8 type.tag
      match type with
      | .nullData => pure ()
      | .array | .structureData => do
          writeAxdrLength elements.length
          encodeElements elements
      | .boolean => writeAxdrBoolean booleanValue
      -- The casts to a narrower unsigned type keep the low octets.
      | .doubleLong => writeUnsigned signedValue.toUInt64 4
      | .doubleLongUnsigned => writeUnsigned unsignedValue 4
      | .octetString => writeAxdrOctetString bytes
      | .integer => writeUnsigned signedValue.toUInt64 1
      | .long => writeUnsigned signedValue.toUInt64 2
      | .unsigned | .enum => writeUnsigned unsignedValue 1
      | .longUnsigned => writeUnsigned unsignedValue 2
      | .long64 => writeUnsigned signedValue.toUInt64 8
      | .long64Unsigned => writeUnsigned unsignedValue 8
      | .dateTime => writeFixedBytes bytes dateTimeSize
      | .date => writeFixedBytes bytes dateSize
      | .time => writeFixedBytes bytes timeSize

/-- The loop over the elements of an array or a structure. -/
def encodeElements : List DlmsData → Writer
  | [] => pure ()
  | input :: rest => do
      encodeDlmsDataValue input
      encodeElements rest

end

def encodeDlmsData (input : DlmsData) : Writer := encodeDlmsDataValue input

/-! ### What one successful encoding decides -/

theorem uniform_writeBytes (bytes : Bytes) : UniformWriter (writeBytes bytes) :=
  uniform_of_emits _ _ _ (writes_writeBytes bytes)

theorem settled_writeBytes (bytes : Bytes) : SettledWriter (writeBytes bytes) :=
  settled_of_emits _ _ _ (writes_writeBytes bytes)

theorem settled_writeFixedBytes (bytes : Bytes) (size : Nat) :
    SettledWriter (writeFixedBytes bytes size) := by
  rw [writeFixedBytes]
  split
  · exact settled_writeBytes bytes
  · exact settled_fail _ _ (by decide)

mutual

/-- The induction is on the value: at any depth a part emits its bytes or refuses for a reason of
    its own. -/
theorem settled_encodeDlmsDataValue : ∀ input, SettledWriter (encodeDlmsDataValue input)
  | ⟨type, booleanValue, signedValue, unsignedValue, bytes, elements⟩ => by
      unfold encodeDlmsDataValue
      refine settled_bind _ _ _ (settled_writeBytes _) ?_
      have hsequence : SettledWriter (do
          writeAxdrLength elements.length
          encodeElements elements) :=
        settled_bind _ _ _ (settled_of_emits _ _ _ (writes_writeAxdrLength _))
          (settled_encodeElements elements)
      have hoctets := settled_of_emits _ _ _ (writes_writeAxdrOctetString bytes)
      -- Every remaining type writes a fixed list of bytes or checks a size first.
      cases type with
      | nullData => exact settled_of_emits _ _ _ (emits_nil _)
      | array => exact hsequence
      | structureData => exact hsequence
      | octetString => exact hoctets
      | dateTime => exact settled_writeFixedBytes _ _
      | date => exact settled_writeFixedBytes _ _
      | time => exact settled_writeFixedBytes _ _
      | _ => exact settled_writeBytes _

theorem settled_encodeElements : ∀ inputs, SettledWriter (encodeElements inputs)
  | [] => settled_of_emits _ _ _ (emits_nil _)
  | input :: rest => by
      unfold encodeElements
      exact settled_bind _ _ _ (settled_encodeDlmsDataValue input) (settled_encodeElements rest)

end

theorem settled_encodeDlmsData (input : DlmsData) : SettledWriter (encodeDlmsData input) :=
  settled_encodeDlmsDataValue input

theorem uniform_writeFixedBytes (bytes : Bytes) (size : Nat) :
    UniformWriter (writeFixedBytes bytes size) :=
  uniform_of_settled _ _ (settled_writeFixedBytes bytes size)

theorem uniform_encodeDlmsDataValue (input : DlmsData) :
    UniformWriter (encodeDlmsDataValue input) :=
  uniform_of_settled _ _ (settled_encodeDlmsDataValue input)

theorem uniform_encodeElements (inputs : List DlmsData) : UniformWriter (encodeElements inputs) :=
  uniform_of_settled _ _ (settled_encodeElements inputs)

/-- The encoder writes one list of bytes, room permitting, or refuses the
    value whatever the buffer. -/
theorem uniform_encodeDlmsData (input : DlmsData) : UniformWriter (encodeDlmsData input) :=
  uniform_of_settled _ _ (settled_encodeDlmsData input)

/-- The bytes decode to a value, and they are what the encoder writes for it
    when the buffer is large enough. -/
def CanonicalData (maximumDepth : Nat) (bytes : Bytes) (value : DlmsData) : Prop :=
  decodeDlmsData bytes maximumDepth = .ok value ∧
    runEmitter bytes.length (encodeDlmsData value) = .ok bytes

theorem writes_of_canonicalData (maximumDepth : Nat) (bytes : Bytes) (value : DlmsData)
    (h : CanonicalData maximumDepth bytes value) : Writes (encodeDlmsData value) bytes :=
  emits_of_uniform _ _ _ _ (uniform_encodeDlmsData value) h.2

theorem decodeDlmsData_eq_ok_iff (bytes : Bytes) (maximumDepth : Nat) (value : DlmsData) :
    decodeDlmsData bytes maximumDepth = .ok value ↔
      Accepts (decodeDlmsDataFromReader maximumDepth) bytes value := by
  rw [decodeDlmsData, Accepts]
  rcases decodeDlmsDataFromReader maximumDepth bytes with status | ⟨output, _ | ⟨b, rest⟩⟩
  · simp
  · simp
  · simp

/-! ### The depth -/

/-- A larger depth changes nothing about a value that decodes. The induction is
    on the depth: the elements of an array have one less. -/
theorem extends_decodeDlmsDataValue (depth : Nat) :
    Extends (decodeDlmsDataValue (depth + 1)) (decodeDlmsDataValue depth) := by
  induction depth with
  | zero =>
      intro ts value rest h
      exact absurd h (by simp [decodeDlmsDataValue, Parser.fail])
  | succ depth ih =>
      have hsequence (type : DlmsDataType) : Extends
          (do
            let elementCount ← readAxdrLength
            let elements ← Parser.repeatN (decodeDlmsDataValue (depth + 1)) elementCount
            pure { type, elements } : Reader DlmsData)
          (do
            let elementCount ← readAxdrLength
            let elements ← Parser.repeatN (decodeDlmsDataValue depth) elementCount
            pure { type, elements }) := by
        refine extends_bind _ _ _ _ (extends_refl _) fun elementCount => ?_
        exact extends_bind _ _ _ _ (extends_repeatN _ _ elementCount ih) fun _ => extends_refl _
      unfold decodeDlmsDataValue
      refine extends_bind _ _ _ _ (extends_refl _) fun tag => ?_
      cases DlmsDataType.ofTag tag with
      | none => exact extends_refl _
      | some type =>
          -- Only the two types with elements read at the depth.
          cases type with
          | array => exact hsequence .array
          | structureData => exact hsequence .structureData
          | _ => exact extends_refl _

theorem decodeDlmsData_of_le (bytes : Bytes) (value : DlmsData) (depth deeper : Nat)
    (hdepth : depth ≤ deeper) (h : decodeDlmsData bytes depth = .ok value) :
    decodeDlmsData bytes deeper = .ok value := by
  induction hdepth with
  | refl => exact h
  | step hdepth ih =>
      rw [decodeDlmsData_eq_ok_iff] at ih ⊢
      exact accepts_of_extends _ _ _ _ (extends_decodeDlmsDataValue _) ih

/-- Canonical bytes are canonical at every depth that decodes them. -/
theorem canonicalData_of_decodes (depth maximumDepth : Nat) (bytes : Bytes)
    (value decoded : DlmsData) (h : CanonicalData depth bytes value)
    (hdecoded : decodeDlmsData bytes maximumDepth = .ok decoded) :
    CanonicalData maximumDepth bytes decoded := by
  -- Both decode to the same value at the larger one of the two depths.
  have hvalue := decodeDlmsData_of_le bytes value depth (max depth maximumDepth)
    (Nat.le_max_left ..) h.1
  rw [decodeDlmsData_of_le bytes decoded maximumDepth (max depth maximumDepth)
    (Nat.le_max_right ..) hdecoded, Except.ok.injEq] at hvalue
  rw [hvalue] at hdecoded ⊢
  exact ⟨hdecoded, h.2⟩

/-- An octet string is canonical with any content. -/
theorem canonicalData_octetString (maximumDepth : Nat) (data : Bytes)
    (h : data.length < 256 ^ sizeOctets) :
    CanonicalData (maximumDepth + 1) ([0x09] ++ axdrOctetStringBytes data)
      { type := .octetString, bytes := data } := by
  have hread : Decodes (do
      let bytes ← readAxdrOctetString
      pure { type := .octetString, bytes } : Reader DlmsData)
      (axdrOctetStringBytes data) { type := .octetString, bytes := data } := by
    have hbind := decodes_bind readAxdrOctetString
      (fun bytes => (pure { type := .octetString, bytes } : Reader DlmsData)) _ _ _ _
      (decodes_readAxdrOctetString data h) (decodes_pure _)
    rwa [List.append_nil] at hbind
  have hwrites : Writes (encodeDlmsData { type := .octetString, bytes := data })
      ([0x09] ++ axdrOctetStringBytes data) := by
    unfold encodeDlmsData encodeDlmsDataValue
    exact emits_bind _ _ _ _ _ (writes_writeU8 _) (writes_writeAxdrOctetString _)
  refine ⟨(decodeDlmsData_eq_ok_iff _ _ _).mpr ?_, ?_⟩
  · exact accepts_bind _ _ _ _ _ _ (decodes_readU8 _) (accepts_of_decodes _ _ _ hread)
  · rw [runEmitter_of_emits _ _ _ _ hwrites, if_pos (Nat.le_refl _)]

theorem length_octetStringData (data : Bytes) :
    ([0x09] ++ axdrOctetStringBytes data : Bytes).length =
      1 + axdrLengthEncodedSize data.length + data.length := by
  rw [axdrOctetStringBytes, List.length_append, List.length_append, length_axdrLengthBytes,
    List.length_singleton]
  omega

end Apdu

end Dlms
