import Dlms.Apdu.Xdlms

/-!
# Encoding what was decoded

A server decodes the value of a normal request and encodes it again before it
hands it on. The bytes need not be those that came in: a length may have been
written with more octets than it takes, and any octet but zero is true. But
they are an encoding again. Every value that the decoder returns has the
lengths its type asks for, so it is written as a fixed list of bytes, and that
list decodes at the same depth.

## Main definitions

* `WellFormedData`: The bytes are one encoding of a value, and nothing more.
* `Recodes`: The value is written as bytes that decode.

## Theorems

* `returns_decodeDlmsDataValue`: Whatever is decoded recodes.
* `recodes_of_decodeXdlmsApdu`: So do the values of requests.
* `wellFormedData_of_recodes`: Encoding such a value gives well-formed bytes.
-/

namespace Dlms

namespace Apdu

open Codec

/-- The bytes are exactly one encoding of a value that nests no deeper than the
    services allow. -/
def WellFormedData (bytes : Bytes) : Prop :=
  ∃ value, decodeDlmsData bytes maximumDataDepth = .ok value

/-- The value is written as a fixed list of bytes, and these decode. -/
def Recodes (depth : Nat) (value : DlmsData) : Prop :=
  ∃ bytes decoded, Writes (encodeDlmsDataValue value) bytes ∧
    Decodes (decodeDlmsDataValue depth) bytes decoded

/-- The same for the elements of an array. -/
theorem recodes_elements (depth : Nat) (values : List DlmsData)
    (h : ∀ value ∈ values, Recodes depth value) :
    ∃ bytes decoded, Writes (encodeElements values) bytes ∧
      Decodes (Parser.repeatN (decodeDlmsDataValue depth) values.length) bytes decoded := by
  induction values with
  | nil => exact ⟨[], [], by unfold encodeElements; exact emits_nil _, decodes_pure []⟩
  | cons value values ih =>
      rcases h value List.mem_cons_self with ⟨first, decoded, hwrites, hdecodes⟩
      rcases ih fun other hother => h other (List.mem_cons_of_mem value hother) with
        ⟨rest, decodedRest, hwritesRest, hdecodesRest⟩
      refine ⟨first ++ rest, decoded :: decodedRest, ?_, ?_⟩
      · unfold encodeElements
        exact emits_bind _ _ _ _ _ hwrites hwritesRest
      · rw [List.length_cons, Parser.repeatN]
        refine decodes_bind _ _ _ _ _ _ hdecodes ?_
        rw [← List.append_nil rest]
        exact decodes_bind _ _ _ _ _ _ hdecodesRest (decodes_pure _)

/-- A length that is read fits the octets a length may have. -/
theorem returns_readAxdrLength :
    Returns readAxdrLength fun length => length < 256 ^ sizeOctets := by
  refine returns_bind _ _ _ _ (returns_any _) fun first _ => ?_
  split
  · refine returns_pure _ _ ?_
    have hbyte := first.toNat_lt
    have hsmall : 256 ≤ 256 ^ sizeOctets := by decide
    omega
  · simp only []
    split
    · exact returns_fail _ _
    · rename_i hoctets
      rw [not_or] at hoctets
      refine returns_bind _ _ _ _ (returns_items _ _) fun octets hlength => ?_
      split
      · exact returns_fail _ _
      · refine returns_pure _ _ ?_
        have hvalue := beValue_lt octets
        have hwidth : 256 ^ octets.length ≤ 256 ^ sizeOctets :=
          Nat.pow_le_pow_right (by decide) (by omega)
        omega

theorem returns_readAxdrOctetString :
    Returns readAxdrOctetString fun bytes => bytes.length < 256 ^ sizeOctets := by
  refine returns_bind _ _ _ _ returns_readAxdrLength fun length hlength => ?_
  intro ts bytes rest hout
  have hsize : bytes.length = length := returns_items _ _ ts bytes rest hout
  rw [hsize]
  exact hlength

/-- So many octets are read as a number, whatever they are. -/
theorem decodes_readUnsigned (byteCount : Nat) (make : UInt64 → DlmsData) (bytes : Bytes)
    (h : bytes.length = byteCount) :
    Decodes (do
      let value ← readUnsigned byteCount
      pure (make value) : Reader DlmsData) bytes (make (UInt64.ofNat (beValue bytes))) := by
  have hread : Decodes (readUnsigned byteCount) bytes (UInt64.ofNat (beValue bytes)) := by
    have hbytes := decodes_bind (readBytes byteCount)
      (fun octets => (pure (UInt64.ofNat (beValue octets)) : Reader UInt64)) bytes [] bytes _
      (decodes_readBytes byteCount bytes h) (decodes_pure _)
    rwa [List.append_nil] at hbytes
  have hmade := decodes_bind _ (fun value => (pure (make value) : Reader DlmsData)) bytes [] _ _
    hread (decodes_pure _)
  rwa [List.append_nil] at hmade

section Types

variable (depth : Nat)

/-- A value recodes when its type is written as a tag and a fixed body, and the
    body is read back behind the tag. -/
theorem recodes_of_body (type : DlmsDataType) (value decoded : DlmsData) (writer : Writer)
    (reader : Reader DlmsData) (bytes : Bytes)
    (hwriter : encodeDlmsDataValue value = (do writeU8 type.tag; writer))
    (hreader : ∀ rest, decodeDlmsDataValue (depth + 1) ([type.tag] ++ rest) = reader rest)
    (hwrites : Writes writer bytes) (hdecodes : Decodes reader bytes decoded) :
    Recodes (depth + 1) value := by
  refine ⟨[type.tag] ++ bytes, decoded, ?_, ?_⟩
  · rw [hwriter]
    exact emits_bind _ _ _ _ _ (writes_writeU8 _) hwrites
  · intro rest
    rw [List.append_assoc, hreader]
    exact hdecodes rest

/-- A number recodes: its octets are written, and any octets are read. -/
theorem recodes_number (type : DlmsDataType) (byteCount : Nat) (value : DlmsData)
    (number : UInt64) (make : UInt64 → DlmsData)
    (hwriter : encodeDlmsDataValue value =
      (do writeU8 type.tag; writeUnsigned number byteCount))
    (hreader : ∀ rest, decodeDlmsDataValue (depth + 1) ([type.tag] ++ rest) =
      (do let read ← readUnsigned byteCount; pure (make read) : Reader DlmsData) rest) :
    Recodes (depth + 1) value :=
  recodes_of_body depth type value _ _ _ _ hwriter hreader (writes_writeBytes _)
    (decodes_readUnsigned byteCount make _ (length_beBytes ..))

/-- So does a date or a time of the right size. -/
theorem recodes_fixedBytes (type : DlmsDataType) (size : Nat) (value : DlmsData) (bytes : Bytes)
    (hsize : bytes.length = size)
    (hwriter : encodeDlmsDataValue value = (do writeU8 type.tag; writeFixedBytes bytes size))
    (hreader : ∀ rest, decodeDlmsDataValue (depth + 1) ([type.tag] ++ rest) =
      readFixedBytes size type rest) : Recodes (depth + 1) value := by
  refine recodes_of_body depth type value { type, bytes } _ _ bytes hwriter hreader ?_ ?_
  · rw [writeFixedBytes, if_pos hsize]
    exact writes_writeBytes bytes
  · have hread := decodes_bind (readBytes size)
      (fun bytes => (pure { type, bytes } : Reader DlmsData)) bytes [] bytes _
      (decodes_readBytes size bytes hsize) (decodes_pure _)
    rwa [List.append_nil] at hread

/-- So does a sequence of elements that recode one level deeper. -/
theorem recodes_sequence (type : DlmsDataType) (htype : type = .array ∨ type = .structureData)
    (elements : List DlmsData) (hcount : elements.length < 256 ^ sizeOctets)
    (helements : ∀ element ∈ elements, Recodes depth element) :
    Recodes (depth + 1) { type, elements } := by
  rcases recodes_elements depth elements helements with ⟨bytes, decoded, hwrites, hdecodes⟩
  refine recodes_of_body depth type _ { type, elements := decoded }
    (do writeAxdrLength elements.length; encodeElements elements)
    (do
      let elementCount ← readAxdrLength
      let elements ← Parser.repeatN (decodeDlmsDataValue depth) elementCount
      pure { type, elements }) (axdrLengthBytes elements.length ++ bytes) ?_ ?_ ?_ ?_
  · unfold encodeDlmsDataValue
    rcases htype with rfl | rfl
    · rfl
    · rfl
  · intro rest
    rcases htype with rfl | rfl
    · rfl
    · rfl
  · exact emits_bind _ _ _ _ _ (writes_writeAxdrLength _) hwrites
  · refine decodes_bind _ _ _ _ _ _ (decodes_readAxdrLength _ hcount) ?_
    rw [← List.append_nil bytes]
    exact decodes_bind _ _ _ _ _ _ hdecodes (decodes_pure _)

/-- What is read as a signed number recodes. -/
theorem returns_readSigned (type : DlmsDataType) (byteCount : Nat)
    (hwriter : ∀ value, encodeDlmsDataValue { type, signedValue := value } =
      (do writeU8 type.tag; writeUnsigned value.toUInt64 byteCount))
    (hreader : ∀ rest, decodeDlmsDataValue (depth + 1) ([type.tag] ++ rest) =
      readSigned byteCount type rest) :
    Returns (readSigned byteCount type) (Recodes (depth + 1)) :=
  returns_bind _ _ _ _ (returns_any _) fun _ _ => returns_pure _ _
    (recodes_number depth type byteCount _ _
      (fun read => { type, signedValue := signExtend read byteCount }) (hwriter _) hreader)

theorem returns_readUnsignedData (type : DlmsDataType) (byteCount : Nat)
    (hwriter : ∀ value, encodeDlmsDataValue { type, unsignedValue := value } =
      (do writeU8 type.tag; writeUnsigned value byteCount))
    (hreader : ∀ rest, decodeDlmsDataValue (depth + 1) ([type.tag] ++ rest) =
      readUnsignedData byteCount type rest) :
    Returns (readUnsignedData byteCount type) (Recodes (depth + 1)) :=
  returns_bind _ _ _ _ (returns_any _) fun _ _ => returns_pure _ _
    (recodes_number depth type byteCount _ _ (fun read => { type, unsignedValue := read })
      (hwriter _) hreader)

theorem returns_readFixedBytes (type : DlmsDataType) (size : Nat)
    (hwriter : ∀ bytes, encodeDlmsDataValue { type, bytes } =
      (do writeU8 type.tag; writeFixedBytes bytes size))
    (hreader : ∀ rest, decodeDlmsDataValue (depth + 1) ([type.tag] ++ rest) =
      readFixedBytes size type rest) :
    Returns (readFixedBytes size type) (Recodes (depth + 1)) :=
  returns_bind _ _ _ _ (returns_items _ _) fun bytes hsize => returns_pure _ _
    (recodes_fixedBytes depth type size _ bytes hsize (hwriter _) hreader)

/-- So does a sequence, when the elements of one level less do. -/
theorem returns_sequence (ih : Returns (decodeDlmsDataValue depth) (Recodes depth))
    (type : DlmsDataType) (htype : type = .array ∨ type = .structureData) :
    Returns (do
      let elementCount ← readAxdrLength
      let elements ← Parser.repeatN (decodeDlmsDataValue depth) elementCount
      pure { type, elements } : Reader DlmsData) (Recodes (depth + 1)) := by
  refine returns_bind _ _ _ _ returns_readAxdrLength fun elementCount hcount => ?_
  refine returns_bind _ _ _ _ (returns_repeatN _ _ _ ih) fun elements helements => ?_
  refine returns_pure _ _ ?_
  refine recodes_sequence depth type htype elements ?_ helements.2
  rw [helements.1]
  exact hcount

/-- Whatever the decoder returns is written as bytes that decode. The induction
    is on the depth: the elements of an array have one less. -/
theorem returns_decodeDlmsDataValue : Returns (decodeDlmsDataValue depth) (Recodes depth) := by
  induction depth with
  | zero => exact returns_fail _ _
  | succ depth ih =>
      refine returns_bind _ _ _ _ (returns_any _) fun tag _ => ?_
      cases DlmsDataType.ofTag tag with
      | none => exact returns_fail _ _
      | some type =>
          -- Numbers are cut to their octets in either direction, so that what is read again may be
          -- another value, but is read.
          cases type with
          | nullData =>
              exact returns_pure _ _ (recodes_of_body depth .nullData _ { type := .nullData }
                (pure ()) (pure { type := .nullData }) [] (by unfold encodeDlmsDataValue; rfl)
                (fun _ => rfl) (emits_nil _) (decodes_pure _))
          | array =>
              exact returns_sequence depth ih .array (.inl rfl)
          | structureData =>
              exact returns_sequence depth ih .structureData (.inr rfl)
          | boolean =>
              refine returns_bind _ _ _ _ (returns_any _) fun flag _ => returns_pure _ _ ?_
              refine recodes_of_body depth .boolean _
                { type := .boolean, booleanValue := flag } (writeAxdrBoolean flag)
                (do let flag ← readAxdrBoolean; pure { type := .boolean, booleanValue := flag })
                [flagByte flag] (by unfold encodeDlmsDataValue; rfl) (fun _ => rfl)
                (writes_writeU8 _) ?_
              exact decodes_bind _ _ _ _ _ _ (decodes_readAxdrBoolean flag) (decodes_pure _)
          | octetString =>
              refine returns_bind _ _ _ _ returns_readAxdrOctetString fun bytes hsize =>
                returns_pure _ _ ?_
              refine recodes_of_body depth .octetString _ { type := .octetString, bytes }
                (writeAxdrOctetString bytes)
                (do let bytes ← readAxdrOctetString; pure { type := .octetString, bytes })
                (axdrOctetStringBytes bytes) (by unfold encodeDlmsDataValue; rfl) (fun _ => rfl)
                (writes_writeAxdrOctetString _) ?_
              rw [← List.append_nil (axdrOctetStringBytes bytes)]
              exact decodes_bind _ _ _ _ _ _ (decodes_readAxdrOctetString bytes hsize)
                (decodes_pure _)
          | doubleLong =>
              exact returns_readSigned depth .doubleLong 4
                (fun _ => by unfold encodeDlmsDataValue; rfl) fun _ => rfl
          | doubleLongUnsigned =>
              exact returns_readUnsignedData depth .doubleLongUnsigned 4
                (fun _ => by unfold encodeDlmsDataValue; rfl) fun _ => rfl
          | integer =>
              exact returns_readSigned depth .integer 1
                (fun _ => by unfold encodeDlmsDataValue; rfl) fun _ => rfl
          | long =>
              exact returns_readSigned depth .long 2
                (fun _ => by unfold encodeDlmsDataValue; rfl) fun _ => rfl
          | unsigned =>
              exact returns_readUnsignedData depth .unsigned 1
                (fun _ => by unfold encodeDlmsDataValue; rfl) fun _ => rfl
          | enum =>
              exact returns_readUnsignedData depth .enum 1
                (fun _ => by unfold encodeDlmsDataValue; rfl) fun _ => rfl
          | longUnsigned =>
              exact returns_readUnsignedData depth .longUnsigned 2
                (fun _ => by unfold encodeDlmsDataValue; rfl) fun _ => rfl
          | long64 =>
              exact returns_bind _ _ _ _ (returns_any _) fun read _ => returns_pure _ _
                (recodes_number depth .long64 8 _ _
                  (fun read => { type := .long64, signedValue := read.toInt64 })
                  (by unfold encodeDlmsDataValue; rfl) fun _ => rfl)
          | long64Unsigned =>
              exact returns_readUnsignedData depth .long64Unsigned 8
                (fun _ => by unfold encodeDlmsDataValue; rfl) fun _ => rfl
          | dateTime =>
              exact returns_readFixedBytes depth .dateTime dateTimeSize
                (fun _ => by unfold encodeDlmsDataValue; rfl) fun _ => rfl
          | date =>
              exact returns_readFixedBytes depth .date dateSize
                (fun _ => by unfold encodeDlmsDataValue; rfl) fun _ => rfl
          | time =>
              exact returns_readFixedBytes depth .time timeSize
                (fun _ => by unfold encodeDlmsDataValue; rfl) fun _ => rfl

end Types

/-! ### The values of requests -/

theorem returns_decodeServiceApdu {α : Type} (tag : UInt8) (body : UInt8 → UInt8 → Reader α)
    (has : α → Prop) (h : ∀ choice invokeIdAndPriority, Returns (body choice invokeIdAndPriority)
      has) : Returns (decodeServiceApdu tag body) has := by
  refine returns_bind _ _ _ _ (returns_any _) fun read _ => ?_
  split
  · exact returns_fail _ _
  · refine returns_bind _ _ _ _ (returns_any _) fun choice _ => ?_
    refine returns_bind _ _ _ _ (returns_any _) fun invokeIdAndPriority _ => ?_
    refine returns_bind _ _ _ _ (h choice invokeIdAndPriority) fun output houtput => ?_
    exact returns_bind _ _ _ _ (returns_any _) fun _ _ => returns_pure _ _ houtput

/-- The value of a normal SET. -/
def SetRequest.Recodes (request : SetRequest) : Prop :=
  ∀ iip normal data, request = .normal iip normal data → Apdu.Recodes maximumDataDepth data

/-- The parameter of a normal ACTION. -/
def ActionRequest.Recodes (request : ActionRequest) : Prop :=
  ∀ iip normal data, request = .normal iip normal → normal.invocationParameter = some data →
    Apdu.Recodes maximumDataDepth data

theorem returns_decodeSetRequestVariant (choice iip : UInt8) :
    Returns (decodeSetRequestVariant maximumDataDepth choice iip) SetRequest.Recodes := by
  unfold decodeSetRequestVariant
  split
  · refine returns_bind _ _ _ _ (returns_any _) fun descriptor _ => returns_map _ _ _ ?_
    intro ts value rest hout iip normal data hnormal
    rw [← (SetRequest.normal.inj hnormal).2.2]
    exact returns_decodeDlmsDataValue maximumDataDepth ts value rest hout
  · refine returns_bind _ _ _ _ (returns_any _) fun descriptor _ => ?_
    exact returns_map_of_forall _ _ _ fun _ _ _ _ h => absurd h nofun
  · exact returns_map_of_forall _ _ _ fun _ _ _ _ h => absurd h nofun
  · refine returns_bind _ _ _ _ (returns_any _) fun count _ => ?_
    refine returns_bind _ _ _ _ (returns_any _) fun list _ => ?_
    refine returns_bind _ _ _ _ (returns_any _) fun valueCount _ => ?_
    split
    · exact returns_fail _ _
    · exact returns_map_of_forall _ _ _ fun _ _ _ _ h => absurd h nofun
  · refine returns_bind _ _ _ _ (returns_any _) fun count _ => ?_
    refine returns_bind _ _ _ _ (returns_any _) fun list _ => ?_
    exact returns_map_of_forall _ _ _ fun _ _ _ _ h => absurd h nofun
  · exact returns_fail _ _

theorem returns_decodeActionRequestVariant (choice iip : UInt8) :
    Returns (decodeActionRequestVariant maximumDataDepth choice iip) ActionRequest.Recodes := by
  -- Only the first variant has a parameter that is decoded.
  unfold decodeActionRequestVariant
  split
  · refine returns_map _ _ _ ?_
    refine returns_bind _ _ _ _ (returns_any _) fun descriptor _ => ?_
    refine returns_bind _ _ (fun parameter => ∀ data, parameter = some data →
      Apdu.Recodes maximumDataDepth data) _ ?_ fun parameter hparameter => returns_pure _ _ ?_
    · refine returns_bind _ _ _ _ (returns_any _) fun flag _ => ?_
      split
      · exact returns_fail _ _
      · split
        · exact returns_pure _ _ fun data hnone =>
            absurd hnone nofun
        · refine returns_map _ _ _ ?_
          intro ts value rest hout data hsome
          rw [← Option.some.inj hsome]
          exact returns_decodeDlmsDataValue maximumDataDepth ts value rest hout
    · intro iip normal data hnormal hdata
      rw [← (ActionRequest.normal.inj hnormal).2] at hdata
      exact hparameter data hdata
  · exact returns_map_of_forall _ _ _ fun _ _ _ _ h => absurd h nofun
  · refine returns_bind _ _ _ _ (returns_any _) fun count _ => ?_
    exact returns_map_of_forall _ _ _ fun _ _ _ _ h => absurd h nofun
  · refine returns_bind _ _ _ _ (returns_any _) fun descriptor _ => ?_
    exact returns_map_of_forall _ _ _ fun _ _ _ _ h => absurd h nofun
  · refine returns_bind _ _ _ _ (returns_any _) fun count _ => ?_
    refine returns_bind _ _ _ _ (returns_any _) fun list _ => ?_
    exact returns_map_of_forall _ _ _ fun _ _ _ _ h => absurd h nofun
  · exact returns_map_of_forall _ _ _ fun _ _ _ _ h => absurd h nofun
  · exact returns_fail _ _

/-- The requests the decoder returns have values that recode. -/
def XdlmsApdu.Recodes : XdlmsApdu → Prop
  | .setRequest set => set.Recodes
  | .actionRequest action => action.Recodes
  | _ => True

theorem recodes_of_decodeXdlmsApdu (input : Bytes) (request : XdlmsApdu)
    (h : decodeXdlmsApdu input = .ok request) : request.Recodes := by
  -- A service decoder makes requests of its own kind.
  have hmapped {α : Type} (make : α → XdlmsApdu) (decoded : Except ApduStatus α)
      (hmake : ∀ a, decoded = .ok a → (make a).Recodes) (hout : make <$> decoded = .ok request) :
      request.Recodes := by
    cases hdecoded : decoded with
    | error status =>
        rw [hdecoded] at hout
        exact absurd hout (by simp [Functor.map, Except.map])
    | ok a =>
        rw [hdecoded] at hout
        simp only [Functor.map, Except.map, Except.ok.injEq] at hout
        rw [← hout]
        exact hmake a hdecoded
  unfold decodeXdlmsApdu at h
  split at h
  · cases h
  · rename_i tag payload
    split_ifs at h
    · exact hmapped _ _ (by exact fun _ _ => trivial) h
    · exact hmapped _ _ (by exact fun _ _ => trivial) h
    · exact hmapped _ _ (by exact fun _ _ => trivial) h
    · exact hmapped _ _ (by exact fun _ _ => trivial) h
    · refine hmapped _ _ (fun set hset => ?_) h
      have hrecodes : set.Recodes := of_runParser _ _ _ _ (returns_decodeServiceApdu _ _ _
        returns_decodeSetRequestVariant) hset
      exact hrecodes
    · exact hmapped _ _ (by exact fun _ _ => trivial) h
    · refine hmapped _ _ (fun action haction => ?_) h
      have hrecodes : action.Recodes := of_runParser _ _ _ _ (returns_decodeServiceApdu _ _ _
        returns_decodeActionRequestVariant) haction
      exact hrecodes
    · exact hmapped _ _ (by exact fun _ _ => trivial) h
    · rw [← Except.ok.inj h]
      trivial

/-- A value that recodes is encoded as well-formed bytes. -/
theorem wellFormedData_of_recodes (value : DlmsData) (capacity : Nat) (bytes : Bytes)
    (h : Apdu.Recodes maximumDataDepth value)
    (hencoded : runEmitter capacity (encodeDlmsData value) = .ok bytes) :
    WellFormedData bytes := by
  rcases h with ⟨written, decoded, hwrites, hdecodes⟩
  rw [encodeDlmsData, runEmitter_of_emits _ _ _ _ hwrites] at hencoded
  split at hencoded
  · rw [← Except.ok.inj hencoded]
    exact ⟨decoded, (decodeDlmsData_eq_ok_iff _ _ _).mpr (accepts_of_decodes _ _ _ hdecodes)⟩
  · cases hencoded

end Apdu

end Dlms
