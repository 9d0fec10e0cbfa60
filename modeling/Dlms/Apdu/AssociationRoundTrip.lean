import Dlms.Apdu.AcseRoundTrip
import Dlms.Codec.Prefix

/-!
# Which association APDUs come back

The encoder of an association request or answer copies the fields as the caller
has made them and adds the user information. The decoder cuts the content into
elements again and reads two of them: the result and the diagnostic of an answer.
Nothing in the encoder looks at the result and the diagnostic of the record, so an
answer comes back with those that its fields say, and a field comes back when it
is one element under its tag.

The two initiate APDUs always come back.

## Main definitions

* `AcseRawField.element`: The element that a field is.
* `AcseRawField.reading`: The number that a field says.
* `AarqApdu.Faithful`, `AareApdu.Faithful`: Requests and answers whose fields say
  what they are.
* `AssociationValue`: One of the four values.

## Theorems

* `delimited_readBerTlv`: An element is what it was read from, wherever it stands.
* `decodeChildren_content`: The content of an association is cut where it was put
  together.
* `decodeAarq_iff`, `decodeAare_iff`: Which of them come back.
* `associationValue_iff`: All four codecs.
-/

namespace Dlms

namespace Apdu

open Codec

/-! ### Elements -/

theorem delimited_readBerTlv : Delimited readBerTlv := by
  -- The tag, the length and the value are each delimited by what they say.
  have htag : Delimited readBerTag := by
    refine delimited_bind _ _ (delimited_item _) fun tag => ?_
    split
    · exact delimited_fail _
    · exact delimited_pure _
  have hlength : Delimited readBerLength := by
    refine delimited_bind _ _ (delimited_item _) fun first => ?_
    split
    · exact delimited_pure _
    · dsimp only
      split
      · exact delimited_fail _
      · split
        · exact delimited_fail _
        · refine delimited_bind _ _ (delimited_items _ _) fun octets => ?_
          split
          · exact delimited_fail _
          · exact delimited_pure _
  have hheader : Delimited readBerHeader :=
    delimited_bind _ _ htag fun tag => delimited_bind _ _ hlength fun length => delimited_pure _
  refine delimited_bind _ _ (delimited_consumed _ hheader) fun out => ?_
  exact delimited_bind _ _ (delimited_items _ _) fun value => delimited_pure _

/-- The element that is all of a field and has its tag. -/
def AcseRawField.element (field : AcseRawField) : Except ApduStatus BerTlv :=
  readSingleTlv field.encoded field.tag

theorem element_eq_ok_iff (field : AcseRawField) (tlv : BerTlv) :
    field.element = .ok tlv ↔ Accepts readBerTlv field.encoded tlv ∧ tlv.tag = field.tag := by
  rw [AcseRawField.element, readSingleTlv, Accepts]
  rcases readBerTlv field.encoded with status | ⟨first, rest⟩
  · simp
  · by_cases htag : first.tag = field.tag
    · by_cases hrest : rest = []
      · simp only [htag, ne_eq, not_true_eq_false, if_false, hrest, Except.ok.injEq,
          Prod.mk.injEq, and_true]
        constructor
        · rintro rfl
          exact ⟨rfl, htag⟩
        · exact fun h => h.1
      -- Octets are left behind the element.
      · simp [htag, hrest]
    · simp only [htag, ne_eq, not_false_eq_true, if_true, reduceCtorEq, Except.ok.injEq,
        Prod.mk.injEq, false_iff, not_and]
      rintro ⟨rfl, -⟩
      exact htag

/-- An element that is read alone is its header and its value, and it is read
    wherever it stands. -/
theorem encoded_of_accepts (bytes : Bytes) (tlv : BerTlv) (h : Accepts readBerTlv bytes tlv) :
    bytes = tlv.encoded ∧ Decodes readBerTlv bytes tlv := by
  rcases consumes_readBerTlv _ _ _ h with ⟨used, hused, hencoded, -⟩
  rcases delimited_readBerTlv _ _ _ h with ⟨taken, htaken, hdecodes⟩
  rw [List.append_nil] at hused htaken
  rw [← htaken] at hdecodes
  exact ⟨hused.trans hencoded, hdecodes⟩

theorem ne_nil_of_accepts_readBerTlv (bytes : Bytes) (tlv : BerTlv)
    (h : Accepts readBerTlv bytes tlv) : bytes ≠ [] := by
  rintro rfl
  have hnone : readBerTlv [] = .error .needMoreData := rfl
  rw [Accepts, hnone] at h
  cases h

/-! ### Children -/

section Children

variable {initiate : Type} (interpret : BerTlv → Except ApduStatus (AcseChild initiate))

/-- A child is one element and what is made of it. -/
def readChild : Reader (AcseChild initiate) := do
  let child ← readBerTlv
  Parser.ofExcept (interpret child)

theorem delimited_readChild : Delimited (readChild interpret) :=
  delimited_bind _ _ delimited_readBerTlv fun _ => delimited_ofExcept _

/-- A child that decodes is an element that is interpreted as the child. -/
theorem decodes_readChild_iff (bytes : Bytes) (child : AcseChild initiate) :
    Decodes (readChild interpret) bytes child ↔
      ∃ tlv, Accepts readBerTlv bytes tlv ∧ interpret tlv = .ok child := by
  constructor
  · intro h
    have haccepts := accepts_of_decodes _ _ _ h
    rw [Accepts, readChild, bind_eq_ok_iff] at haccepts
    rcases haccepts with ⟨tlv, rest, hread, h⟩
    rcases hchild : interpret tlv with status | value
    · rw [hchild] at h
      exact absurd h (by simp [Parser.ofExcept, Except.map])
    · rw [hchild] at h
      rcases Prod.mk.inj (Except.ok.inj h) with ⟨rfl, rfl⟩
      exact ⟨tlv, hread, hchild⟩
  · rintro ⟨tlv, hread, hchild⟩
    refine decodes_last _ _ _ tlv _ (encoded_of_accepts bytes tlv hread).2 ?_
    rw [hchild]
    exact decodes_pure child

/-- A content is decoded when it is made of elements that are interpreted. -/
theorem decodeChildren_of_parts (parts : List (Bytes × AcseChild initiate))
    (h : ∀ part ∈ parts, Decodes (readChild interpret) part.1 part.2) :
    decodeChildren (readChild interpret) (parts.flatMap Prod.fst) =
      .ok (parts.map Prod.snd) := by
  -- An element has a tag at least, so none of the parts is empty.
  have hne : ∀ part ∈ parts, part.1 ≠ [] := by
    intro part hpart
    rcases (decodes_readChild_iff interpret _ _).1 (h part hpart) with ⟨tlv, hread, -⟩
    exact ne_nil_of_accepts_readBerTlv _ tlv hread
  have haccepts := accepts_untilEnd _ _ _ h hne (length_le_length_flatMap parts hne)
  rw [decodeChildren, runParser_of_accepts _ _ _ haccepts]

theorem parts_of_decodeChildren (value : Bytes) (children : List (AcseChild initiate))
    (h : decodeChildren (readChild interpret) value = .ok children) :
    ∃ parts : List (Bytes × AcseChild initiate), parts.flatMap Prod.fst = value ∧
      parts.map Prod.snd = children ∧
        ∀ part ∈ parts, Decodes (readChild interpret) part.1 part.2 := by
  rw [decodeChildren, runParser_eq_ok_iff] at h
  rcases h with ⟨rest, h⟩
  refine parts_of_untilEnd _ _ _ rest _ (delimited_readChild interpret) (fun child hnil => ?_)
    (Nat.le_refl _) h
  rcases (decodes_readChild_iff interpret _ _).1 hnil with ⟨tlv, hread, -⟩
  exact ne_nil_of_accepts_readBerTlv _ tlv hread rfl

/-- The fields that were kept are elements, and more is known of each from the way
    it was interpreted. -/
theorem elements_of_decodeChildren (keeps : BerTlv → Prop)
    (hkeeps : ∀ tlv child field, interpret tlv = .ok child → child.field = some field →
      field = ⟨tlv.tag, tlv.encoded⟩ ∧ keeps tlv)
    (value : Bytes) (children : List (AcseChild initiate))
    (h : decodeChildren (readChild interpret) value = .ok children) :
    ∀ field ∈ children.filterMap (·.field), ∃ tlv, field.element = .ok tlv ∧ keeps tlv := by
  rcases parts_of_decodeChildren interpret value children h with ⟨parts, -, rfl, hparts⟩
  intro field hfield
  rcases List.mem_filterMap.mp hfield with ⟨child, hchild, hsome⟩
  rcases List.mem_map.mp hchild with ⟨part, hpart, rfl⟩
  rcases (decodes_readChild_iff interpret _ _).1 (hparts part hpart) with ⟨tlv, hread, hvalue⟩
  rcases hkeeps tlv part.2 field hvalue hsome with ⟨rfl, htlv⟩
  refine ⟨tlv, (element_eq_ok_iff _ _).2 ⟨?_, rfl⟩, htlv⟩
  rw [← (encoded_of_accepts _ _ hread).1]
  exact hread

/-! ### The content -/

/-- The user information around an initiate APDU. -/
def userInformation (xdlms : Bytes) : Bytes :=
  berTlvBytes userInformationTag (berTlvBytes octetStringTag xdlms)

/-- The content of an association APDU: its fields, then the user information. -/
def associationContent (fields : List AcseRawField) (xdlms : Bytes) : Bytes :=
  fields.flatMap (·.encoded) ++ userInformation xdlms

/-- No field of an APDU that was encoded has the tag of the user information. -/
theorem tag_of_encodeAssociationValue (fields : List AcseRawField) (xdlms : Bytes)
    (sink out : Sink UInt8) (h : encodeAssociationValue fields xdlms sink = .ok ((), out)) :
    ∀ field ∈ fields, field.tag ≠ userInformationTag := by
  induction fields generalizing sink with
  | nil => exact fun field hfield => absurd hfield List.not_mem_nil
  | cons first fields ih =>
      rw [encodeAssociationValue] at h
      -- The encoder stops at the first field that has the tag.
      by_cases htag : first.tag = userInformationTag
      · rw [if_pos htag] at h
        exact absurd h (by simp [Emitter.fail])
      · rw [if_neg htag] at h
        simp only [bind, StateT.bind] at h
        rcases hfirst : writeBytes first.encoded sink with status | ⟨written, middle⟩
        · rw [hfirst] at h
          exact absurd h (by simp [Except.bind])
        · rw [hfirst] at h
          intro field hfield
          rcases List.mem_cons.mp hfield with rfl | hrest
          · exact htag
          · exact ih middle h field hrest

/-- What the encoder of an association writes, when it writes something. -/
theorem bytes_of_encodeAssociation (tag : UInt8) (htag : isMultiByteTag tag = false)
    (fields : List AcseRawField) (xdlms : Bytes) (hxdlms : xdlms.length ≤ 256) (capacity : Nat)
    (bytes : Bytes)
    (h : (do let writer ← encodeAssociation tag fields xdlms; runEmitter capacity writer) =
      .ok bytes) :
    (∀ field ∈ fields, field.tag ≠ userInformationTag) ∧
      (associationContent fields xdlms).length ≤ 1024 ∧
        bytes = berTlvBytes tag (associationContent fields xdlms) := by
  have hoctets := length_berTlvBytes octetStringTag xdlms
  have hmono := axdrLengthEncodedSize_mono _ _ hxdlms
  have hsize : axdrLengthEncodedSize 256 = 3 := by decide
  rw [encodeAssociation] at h
  rcases hvalue : runEmitter 1024 (encodeAssociationValue fields xdlms) with status | value
  · simp [hvalue, bind, Except.bind] at h
  · simp only [hvalue, bind, Except.bind, pure, Except.pure] at h
    -- The value was written into the buffer of the encoder, so no field stopped it.
    have hfields : ∀ field ∈ fields, field.tag ≠ userInformationTag := by
      rw [runEmitter] at hvalue
      rcases hout : encodeAssociationValue fields xdlms (Sink.empty 1024) with
        status | ⟨written, out⟩
      · rw [hout] at hvalue
        cases hvalue
      · exact tag_of_encodeAssociationValue fields xdlms _ _ hout
    have hwrites := writes_encodeAssociationValue fields xdlms hfields (by omega)
    change Writes _ (associationContent fields xdlms) at hwrites
    rw [runEmitter_of_emits _ _ _ _ hwrites] at hvalue
    -- It fits the 1024 octets that the encoder keeps for it.
    split_ifs at hvalue with hfits
    rw [Except.ok.injEq] at hvalue
    subst hvalue
    rw [runEmitter_of_emits _ _ _ _ (writes_writeBerTlv tag _ htag)] at h
    split_ifs at h with hroom
    exact ⟨hfields, hfits, (Except.ok.inj h).symm⟩

/-- What the user information contributes. -/
def initiateChild (value : initiate) : AcseChild initiate where
  field := none
  initiate := some value

/-- The user information is a child with the initiate APDU. -/
theorem decodes_userInformation (decodeInitiate : Bytes → Except ApduStatus initiate)
    (hinterpret : ∀ tlv : BerTlv, tlv.tag = userInformationTag →
      interpret tlv = decodeAssociationChild decodeInitiate tlv)
    (xdlms : Bytes) (hxdlms : xdlms.length ≤ 256) (value : initiate)
    (hvalue : decodeInitiate xdlms = .ok value) :
    Decodes (readChild interpret) (userInformation xdlms) (initiateChild value) := by
  have hbig : 1024 < 256 ^ sizeOctets := by decide
  have hoctets := length_berTlvBytes octetStringTag xdlms
  have hmono := axdrLengthEncodedSize_mono _ _ hxdlms
  have hsize : axdrLengthEncodedSize 256 = 3 := by decide
  have hinner := accepts_of_decodes _ _ _
    (decodes_readBerTlv octetStringTag xdlms rfl (by omega))
  rw [decodes_readChild_iff]
  refine ⟨_, accepts_of_decodes _ _ _ (decodes_readBerTlv userInformationTag
    (berTlvBytes octetStringTag xdlms) rfl (by omega)), ?_⟩
  have hread : readUserInformation
      { tag := userInformationTag
        header := berHeaderBytes userInformationTag (berTlvBytes octetStringTag xdlms).length
        value := berTlvBytes octetStringTag xdlms } false = .ok xdlms := by
    rw [Accepts] at hinner
    rw [readUserInformation, if_neg (not_not_intro rfl), hinner]
    rfl
  rw [hinterpret _ rfl, decodeAssociationChild, if_neg (not_not_intro rfl), hread]
  simp only [bind, Except.bind, hvalue]
  rfl

/-- A content is cut where it was put together, when each field is an element that
    is interpreted. -/
theorem decodeChildren_content (decodeInitiate : Bytes → Except ApduStatus initiate)
    (hinterpret : ∀ tlv : BerTlv, tlv.tag = userInformationTag →
      interpret tlv = decodeAssociationChild decodeInitiate tlv)
    (fields : List AcseRawField) (childOf : AcseRawField → AcseChild initiate)
    (hfields : ∀ field ∈ fields, ∃ tlv, field.element = .ok tlv ∧
      interpret tlv = .ok (childOf field))
    (xdlms : Bytes) (hxdlms : xdlms.length ≤ 256) (value : initiate)
    (hvalue : decodeInitiate xdlms = .ok value) :
    decodeChildren (readChild interpret) (associationContent fields xdlms) =
      .ok (fields.map childOf ++ [initiateChild value]) := by
  have hdecoded := decodeChildren_of_parts interpret
    (fields.map (fun field => (field.encoded, childOf field)) ++
      [(userInformation xdlms, initiateChild value)]) fun part hpart => ?_
  · rw [List.flatMap_append, List.flatMap_map, List.flatMap_singleton, List.map_append,
      List.map_map] at hdecoded
    exact hdecoded
  -- A part is a field, or the user information behind them.
  · rcases List.mem_append.mp hpart with hfield | hlast
    · rcases List.mem_map.mp hfield with ⟨field, hmem, rfl⟩
      rcases hfields field hmem with ⟨tlv, htlv, hchild⟩
      exact (decodes_readChild_iff interpret _ _).2
        ⟨tlv, ((element_eq_ok_iff field tlv).1 htlv).1, hchild⟩
    · rw [List.mem_singleton.mp hlast]
      exact decodes_userInformation interpret decodeInitiate hinterpret xdlms hxdlms value hvalue

/-- The fields and the initiate APDU are picked out of the children again. -/
theorem fields_of_children (fields : List AcseRawField)
    (childOf : AcseRawField → AcseChild initiate) (h : ∀ field, (childOf field).field = some field)
    (value : initiate) :
    (fields.map childOf ++ [initiateChild value]).filterMap (·.field) = fields := by
  rw [List.filterMap_append, List.filterMap_map]
  simp [h, initiateChild]

theorem initiate_of_children (children : List (AcseChild initiate)) (value : initiate) :
    lastOf (·.initiate) (children ++ [initiateChild value]) = some value := by
  rw [lastOf, List.filterMap_append]
  exact List.getLast?_concat

/-- A number is picked out of the last field that says one. -/
theorem number_of_children (fields : List AcseRawField)
    (childOf : AcseRawField → AcseChild initiate) (pick : AcseChild initiate → Option Int)
    (value : initiate) (hnone : pick (initiateChild value) = none) :
    lastOf pick (fields.map childOf ++ [initiateChild value]) =
      (fields.filterMap fun field => pick (childOf field)).getLast? := by
  rw [lastOf, List.filterMap_append, List.filterMap_map, List.filterMap_cons, hnone,
    List.filterMap_nil, List.append_nil]
  rfl

end Children

/-! ### The initiate APDUs -/

theorem delivers_encodeInitiateResponse (response : InitiateResponse) :
    Delivers ApduStatus.outputBufferTooSmall (encodeInitiateResponse response)
      decodeInitiateResponseReader response := by
  have hname := delivers_atEnd _ _ _ ApduStatus.invalidLength
    (fun name => ({ response with vaaName := name } : InitiateResponse)) _
    (conveyed_writeU16 response.vaaName)
  refine delivers_bind _ _ _ _ _ _ _ (conveyed_writeU8 initiateResponseTag) ?_
  rw [if_neg (not_not_intro rfl)]
  refine delivers_bind _ _ _ _ _ _ _ (conveyed_optional writeU8 readU8
    response.negotiatedQualityOfService fun quality _ => conveyed_writeU8 quality) ?_
  refine delivers_bind _ _ _ _ _ _ _ (conveyed_writeU8 response.negotiatedDlmsVersionNumber) ?_
  refine delivers_bind _ _ _ _ _ _ _ (conveyed_conformance response.negotiatedConformance) ?_
  exact delivers_bind _ _ _ _ _ _ _ (conveyed_writeU16 response.serverMaxReceivePduSize) hname

theorem decodeInitiateResponse_of_runEmitter (response : InitiateResponse) (capacity : Nat)
    (bytes : Bytes) (h : runEmitter capacity (encodeInitiateResponse response) = .ok bytes) :
    decodeInitiateResponse bytes = .ok response ∧ bytes.length ≤ capacity := by
  rcases delivers_encodeInitiateResponse response with ⟨written, hwrites, haccepts⟩
  rw [runEmitter_of_emits _ _ _ _ hwrites] at h
  split_ifs at h with hfits
  rw [← Except.ok.inj h]
  exact ⟨runParser_of_accepts _ _ _ haccepts, hfits⟩

/-- A request that fits in a buffer has a key that the size type can count. -/
theorem decodeInitiateRequest_of_runEmitter (request : InitiateRequest) (capacity : Nat)
    (hcapacity : capacity < 256 ^ sizeOctets) (bytes : Bytes)
    (h : runEmitter capacity (encodeInitiateRequest request) = .ok bytes) :
    decodeInitiateRequest bytes = .ok request ∧ bytes.length ≤ capacity := by
  rw [runEmitter_of_emits _ _ _ _ (writes_encodeInitiateRequest request)] at h
  split_ifs at h with hfits
  rw [← Except.ok.inj h]
  refine ⟨decodeInitiateRequest_initiateRequestBytes request fun key hkey => ?_, hfits⟩
  -- The key is part of what fits.
  rw [initiateRequestBytes, hkey] at hfits
  simp only [optionalBytes, axdrOctetStringBytes, List.length_append] at hfits
  omega

/-! ### Requests and answers -/

/-- Every field of the request is one element under its tag. -/
def AarqApdu.Faithful (aarq : AarqApdu) : Prop :=
  ∀ field ∈ aarq.fields, ∃ tlv, field.element = .ok tlv

/-- The number in a field, as the decoder of an answer reads it. -/
def AcseRawField.reading (field : AcseRawField) (innerTag : UInt8) : Except ApduStatus Int := do
  let tlv ← field.element
  readNestedInteger tlv innerTag

/-- The number of a field with the given tag. -/
def AcseRawField.number (field : AcseRawField) (tag innerTag : UInt8) : Option Int :=
  if field.tag = tag then (field.reading innerTag).toOption else none

/-- Every field of the answer is one element under its tag, those of the result
    and of the diagnostic are numbers, and the last ones are the result and the
    diagnostic of the record. -/
structure AareApdu.Faithful (aare : AareApdu) : Prop where
  elements : ∀ field ∈ aare.fields, ∃ tlv, field.element = .ok tlv
  results : ∀ field ∈ aare.fields, field.tag = associationResultTag →
    ∃ number, field.reading berIntegerTag = .ok number
  diagnostics : ∀ field ∈ aare.fields, field.tag = resultSourceDiagnosticTag →
    ∃ number, field.reading acseServiceUserTag = .ok number
  result : aare.result =
    (aare.fields.filterMap (·.number associationResultTag berIntegerTag)).getLast?
  diagnostic : aare.diagnostic =
    (aare.fields.filterMap (·.number resultSourceDiagnosticTag acseServiceUserTag)).getLast?

/-- A field that is an element is what the decoder keeps of the element. -/
theorem field_of_element (field : AcseRawField) (tlv : BerTlv) (h : field.element = .ok tlv) :
    field = ⟨tlv.tag, tlv.encoded⟩ := by
  rcases (element_eq_ok_iff field tlv).1 h with ⟨hread, htag⟩
  rw [htag, ← (encoded_of_accepts _ _ hread).1]

theorem reading_of_element (field : AcseRawField) (tlv : BerTlv)
    (helement : field.element = .ok tlv) (innerTag : UInt8) :
    field.reading innerTag = readNestedInteger tlv innerTag := by
  rw [AcseRawField.reading, helement]
  rfl

theorem readSingleTlv_berTlvBytes (tag : UInt8) (htag : isMultiByteTag tag = false)
    (value : Bytes) (hsize : value.length ≤ 1024) :
    ∃ header, readSingleTlv (berTlvBytes tag value) tag = .ok { tag, header, value } := by
  have hbig : 1024 < 256 ^ sizeOctets := by decide
  have hread := accepts_of_decodes _ _ _ (decodes_readBerTlv tag value htag (by omega))
  rw [Accepts] at hread
  refine ⟨berHeaderBytes tag value.length, ?_⟩
  rw [readSingleTlv, hread]
  simp

/-- What a field of an answer contributes. -/
def aareChildOf (field : AcseRawField) : AcseChild InitiateResponse where
  field := some field
  initiate := none
  result := field.number associationResultTag berIntegerTag
  diagnostic := field.number resultSourceDiagnosticTag acseServiceUserTag

/-- A child of an answer, as the decoder interprets it. -/
def interpretAareChild (child : BerTlv) : Except ApduStatus (AcseChild InitiateResponse) :=
  if child.tag = associationResultTag then do
    let result ← readNestedInteger child berIntegerTag
    pure { field := some ⟨child.tag, child.encoded⟩, initiate := none, result := some result }
  else if child.tag = resultSourceDiagnosticTag then do
    let diagnostic ← readNestedInteger child acseServiceUserTag
    pure { field := some ⟨child.tag, child.encoded⟩, initiate := none,
           diagnostic := some diagnostic }
  else
    decodeAssociationChild decodeInitiateResponse child

theorem decodeAareChild_eq : decodeAareChild = readChild interpretAareChild := rfl

/-- What is kept of a child that is no user information is its tag and its bytes. -/
theorem field_of_decodeAssociationChild {initiate : Type}
    (decodeInitiate : Bytes → Except ApduStatus initiate) (tlv : BerTlv)
    (child : AcseChild initiate) (field : AcseRawField)
    (h : decodeAssociationChild decodeInitiate tlv = .ok child)
    (hfield : child.field = some field) : field = ⟨tlv.tag, tlv.encoded⟩ := by
  rw [decodeAssociationChild] at h
  split_ifs at h with htag
  · rw [← Except.ok.inj h] at hfield
    exact (Option.some.inj hfield).symm
  · rcases hoctets : readUserInformation tlv false with status | octets
    · simp [hoctets, bind, Except.bind] at h
    · rcases hdecoded : decodeInitiate octets with status | value
      · simp [hoctets, hdecoded, bind, Except.bind] at h
      · simp only [hoctets, hdecoded, bind, Except.bind, pure, Except.pure, Except.ok.injEq] at h
        rw [← h] at hfield
        cases hfield

/-- A field that is an element is kept as it is. -/
theorem decodeAssociationChild_of_element {initiate : Type}
    (decodeInitiate : Bytes → Except ApduStatus initiate) (field : AcseRawField) (tlv : BerTlv)
    (helement : field.element = .ok tlv) (hother : field.tag ≠ userInformationTag) :
    decodeAssociationChild decodeInitiate tlv =
      .ok { field := some field, initiate := none } := by
  have htag := ((element_eq_ok_iff field tlv).1 helement).2
  rw [decodeAssociationChild, if_pos (by rw [htag]; exact hother),
    ← field_of_element field tlv helement]

/-- The numbers that the decoder of an answer asks for can be read. -/
structure Numbered (tlv : BerTlv) : Prop where
  result : tlv.tag = associationResultTag →
    ∃ number, readNestedInteger tlv berIntegerTag = .ok number
  diagnostic : tlv.tag = resultSourceDiagnosticTag →
    ∃ number, readNestedInteger tlv acseServiceUserTag = .ok number

theorem keeps_interpretAareChild (tlv : BerTlv) (child : AcseChild InitiateResponse)
    (field : AcseRawField) (h : interpretAareChild tlv = .ok child)
    (hfield : child.field = some field) : field = ⟨tlv.tag, tlv.encoded⟩ ∧ Numbered tlv := by
  -- No field says both numbers.
  have hdiffer : associationResultTag ≠ resultSourceDiagnosticTag := by decide
  rw [interpretAareChild] at h
  split_ifs at h with hresult hdiagnostic
  · rcases hnumber : readNestedInteger tlv berIntegerTag with status | number
    · simp [hnumber, bind, Except.bind] at h
    · simp only [hnumber, bind, Except.bind, pure, Except.pure, Except.ok.injEq] at h
      rw [← h] at hfield
      exact ⟨(Option.some.inj hfield).symm, fun _ => ⟨number, hnumber⟩,
        fun htag => absurd (hresult.symm.trans htag) hdiffer⟩
  · rcases hnumber : readNestedInteger tlv acseServiceUserTag with status | number
    · simp [hnumber, bind, Except.bind] at h
    · simp only [hnumber, bind, Except.bind, pure, Except.pure, Except.ok.injEq] at h
      rw [← h] at hfield
      exact ⟨(Option.some.inj hfield).symm, fun htag => absurd htag hresult,
        fun _ => ⟨number, hnumber⟩⟩
  · exact ⟨field_of_decodeAssociationChild _ tlv child field h hfield,
      fun htag => absurd htag hresult, fun htag => absurd htag hdiagnostic⟩

/-- A field of an answer is interpreted as what it contributes. -/
theorem interpretAareChild_of_element (field : AcseRawField) (tlv : BerTlv)
    (helement : field.element = .ok tlv) (hother : field.tag ≠ userInformationTag)
    (hnumbered : Numbered tlv) : interpretAareChild tlv = .ok (aareChildOf field) := by
  have hfield := field_of_element field tlv helement
  have htag := ((element_eq_ok_iff field tlv).1 helement).2
  have hreading := reading_of_element field tlv helement
  have hdiffer : associationResultTag ≠ resultSourceDiagnosticTag := by decide
  rw [interpretAareChild, aareChildOf, AcseRawField.number, AcseRawField.number, hreading,
    hreading, htag]
  by_cases hresult : field.tag = associationResultTag
  · rcases hnumbered.result (htag.trans hresult) with ⟨number, hnumber⟩
    rw [if_pos hresult, if_pos hresult, if_neg (by rw [hresult]; exact hdiffer), hnumber, hfield]
    rfl
  · by_cases hdiagnostic : field.tag = resultSourceDiagnosticTag
    · rcases hnumbered.diagnostic (htag.trans hdiagnostic) with ⟨number, hnumber⟩
      rw [if_neg hresult, if_pos hdiagnostic, if_neg hresult, if_pos hdiagnostic, hnumber, hfield]
      rfl
    · rw [if_neg hresult, if_neg hdiagnostic, if_neg hresult, if_neg hdiagnostic,
        decodeAssociationChild_of_element _ field tlv helement hother]

/-- A request comes back exactly when it is faithful. -/
theorem decodeAarq_iff (aarq : AarqApdu) (capacity : Nat) (bytes : Bytes)
    (h : (do let writer ← encodeAarq aarq; runEmitter capacity writer) = .ok bytes) :
    decodeAarq bytes = .ok aarq ↔ aarq.Faithful := by
  rw [encodeAarq] at h
  rcases hxdlms : runEmitter 256 (encodeInitiateRequest aarq.initiateRequest) with status | xdlms
  · simp [hxdlms, bind, Except.bind] at h
  · simp only [hxdlms, bind, Except.bind] at h
    rcases decodeInitiateRequest_of_runEmitter _ 256 (by decide) xdlms hxdlms with ⟨hvalue, hshort⟩
    rcases bytes_of_encodeAssociation aarqTag rfl aarq.fields xdlms hshort capacity bytes h with
      ⟨htags, hfits, rfl⟩
    rcases readSingleTlv_berTlvBytes aarqTag rfl _ hfits with ⟨header, hsingle⟩
    constructor
    · intro hdecoded
      -- What the decoder returns as fields are elements that it has kept.
      simp only [decodeAarq, hsingle, bind, Except.bind] at hdecoded
      rcases hchildren : decodeChildren decodeAarqChild
        (associationContent aarq.fields xdlms) with status | children
      · simp [hchildren] at hdecoded
      · simp only [hchildren] at hdecoded
        have helements := elements_of_decodeChildren
          (decodeAssociationChild decodeInitiateRequest) (fun _ => True)
          (fun tlv child field hchild hfield =>
            ⟨field_of_decodeAssociationChild _ tlv child field hchild hfield, trivial⟩)
          _ children hchildren
        split at hdecoded
        · simp at hdecoded
        · have hfields := congrArg AarqApdu.fields (Except.ok.inj hdecoded)
          intro field hfield
          rw [← hfields] at hfield
          rcases helements field hfield with ⟨tlv, htlv, -⟩
          exact ⟨tlv, htlv⟩
    · intro hfaithful
      -- The content is cut into the fields again, and each is kept as it is.
      have hchildren := decodeChildren_content (decodeAssociationChild decodeInitiateRequest)
        decodeInitiateRequest (fun _ _ => rfl) aarq.fields childOfField (fun field hfield => ?_)
        xdlms hshort _ hvalue
      · change decodeChildren decodeAarqChild _ = _ at hchildren
        simp only [decodeAarq, hsingle, bind, Except.bind, hchildren, initiate_of_children,
          fields_of_children aarq.fields childOfField fun _ => rfl]
        rfl
      · rcases hfaithful field hfield with ⟨tlv, htlv⟩
        exact ⟨tlv, htlv, decodeAssociationChild_of_element _ field tlv htlv (htags field hfield)⟩

/-- An answer whose fields can be read decodes, with the numbers that they say. -/
theorem decodeAare_associationContent (aare : AareApdu) (xdlms : Bytes)
    (hshort : xdlms.length ≤ 256)
    (hvalue : decodeInitiateResponse xdlms = .ok aare.initiateResponse)
    (hfits : (associationContent aare.fields xdlms).length ≤ 1024)
    (htags : ∀ field ∈ aare.fields, field.tag ≠ userInformationTag)
    (hfields : ∀ field ∈ aare.fields, ∃ tlv, field.element = .ok tlv ∧ Numbered tlv) :
    decodeAare (berTlvBytes aareTag (associationContent aare.fields xdlms)) =
      .ok { aare with
        result := (aare.fields.filterMap
          (·.number associationResultTag berIntegerTag)).getLast?
        diagnostic := (aare.fields.filterMap
          (·.number resultSourceDiagnosticTag acseServiceUserTag)).getLast? } := by
  rcases readSingleTlv_berTlvBytes aareTag rfl _ hfits with ⟨header, hsingle⟩
  have hchildren := decodeChildren_content interpretAareChild decodeInitiateResponse
    -- The user information is neither of the two numbers.
    (fun tlv htag => by rw [interpretAareChild, if_neg (by rw [htag]; decide),
      if_neg (by rw [htag]; decide)])
    aare.fields aareChildOf (fun field hfield => ?_) xdlms hshort _ hvalue
  · rw [← decodeAareChild_eq] at hchildren
    simp only [decodeAare, hsingle, bind, Except.bind, hchildren, initiate_of_children,
      fields_of_children aare.fields aareChildOf fun _ => rfl]
    rw [number_of_children aare.fields aareChildOf (·.result) _ rfl,
      number_of_children aare.fields aareChildOf (·.diagnostic) _ rfl]
    rfl
  · rcases hfields field hfield with ⟨tlv, helement, hnumbered⟩
    exact ⟨tlv, helement, interpretAareChild_of_element field tlv helement
      (htags field hfield) hnumbered⟩

/-- The fields of an answer that was decoded can be read. -/
theorem numbered_of_decodeAare (input : Bytes) (aare : AareApdu)
    (h : decodeAare input = .ok aare) :
    ∀ field ∈ aare.fields, ∃ tlv, field.element = .ok tlv ∧ Numbered tlv := by
  rw [decodeAare, decodeAareChild_eq] at h
  rcases hsingle : readSingleTlv input aareTag with status | tlv
  · simp [hsingle, bind, Except.bind] at h
  · rcases hchildren : decodeChildren (readChild interpretAareChild) tlv.value
      with status | children
    · simp [hsingle, hchildren, bind, Except.bind] at h
    · simp only [hsingle, hchildren, bind, Except.bind] at h
      split at h
      · simp at h
      · rw [← Except.ok.inj h]
        exact elements_of_decodeChildren interpretAareChild Numbered keeps_interpretAareChild
          _ children hchildren

/-- An answer comes back exactly when it is faithful. -/
theorem decodeAare_iff (aare : AareApdu) (capacity : Nat) (bytes : Bytes)
    (h : (do let writer ← encodeAare aare; runEmitter capacity writer) = .ok bytes) :
    decodeAare bytes = .ok aare ↔ aare.Faithful := by
  rw [encodeAare] at h
  rcases hxdlms : runEmitter 256 (encodeInitiateResponse aare.initiateResponse) with status | xdlms
  · simp [hxdlms, bind, Except.bind] at h
  · simp only [hxdlms, bind, Except.bind] at h
    rcases decodeInitiateResponse_of_runEmitter _ 256 xdlms hxdlms with ⟨hvalue, hshort⟩
    rcases bytes_of_encodeAssociation aareTag rfl aare.fields xdlms hshort capacity bytes h with
      ⟨htags, hfits, rfl⟩
    constructor
    · intro hdecoded
      -- The numbers of the record are then those that the fields say.
      have hfields := numbered_of_decodeAare _ aare hdecoded
      rw [decodeAare_associationContent aare xdlms hshort hvalue hfits htags hfields] at hdecoded
      have hsame := Except.ok.inj hdecoded
      refine ⟨fun field hfield => ?_, fun field hfield htag => ?_, fun field hfield htag => ?_,
        (congrArg AareApdu.result hsame).symm, (congrArg AareApdu.diagnostic hsame).symm⟩
      · rcases hfields field hfield with ⟨tlv, helement, -⟩
        exact ⟨tlv, helement⟩
      · rcases hfields field hfield with ⟨tlv, helement, hnumbered⟩
        rw [reading_of_element field tlv helement]
        exact hnumbered.result (((element_eq_ok_iff field tlv).1 helement).2.trans htag)
      · rcases hfields field hfield with ⟨tlv, helement, hnumbered⟩
        rw [reading_of_element field tlv helement]
        exact hnumbered.diagnostic (((element_eq_ok_iff field tlv).1 helement).2.trans htag)
    · intro hfaithful
      have hfields : ∀ field ∈ aare.fields, ∃ tlv, field.element = .ok tlv ∧ Numbered tlv := by
        intro field hfield
        rcases hfaithful.elements field hfield with ⟨tlv, helement⟩
        have htag := ((element_eq_ok_iff field tlv).1 helement).2
        refine ⟨tlv, helement, fun hresult => ?_, fun hdiagnostic => ?_⟩
        · rw [← reading_of_element field tlv helement]
          exact hfaithful.results field hfield (htag.symm.trans hresult)
        · rw [← reading_of_element field tlv helement]
          exact hfaithful.diagnostics field hfield (htag.symm.trans hdiagnostic)
      rw [decodeAare_associationContent aare xdlms hshort hvalue hfits htags hfields,
        ← hfaithful.result, ← hfaithful.diagnostic]

/-! ### All four values -/

/-- A value that the association codecs encode. -/
inductive AssociationValue where
  | aarq (aarq : AarqApdu)
  | aare (aare : AareApdu)
  | initiateRequest (request : InitiateRequest)
  | initiateResponse (response : InitiateResponse)

/-- The encoder of the value, on a buffer of some size. -/
def AssociationValue.encode (value : AssociationValue) (capacity : Nat) :
    Except ApduStatus Bytes :=
  match value with
  | .aarq apdu => do
      let writer ← encodeAarq apdu
      runEmitter capacity writer
  | .aare apdu => do
      let writer ← encodeAare apdu
      runEmitter capacity writer
  | .initiateRequest request => runEmitter capacity (encodeInitiateRequest request)
  | .initiateResponse response => runEmitter capacity (encodeInitiateResponse response)

/-- The decoder of the same kind of value accepts the bytes and returns the value. -/
def AssociationValue.ComesBack (value : AssociationValue) (bytes : Bytes) : Prop :=
  match value with
  | .aarq apdu => decodeAarq bytes = .ok apdu
  | .aare apdu => decodeAare bytes = .ok apdu
  | .initiateRequest request => decodeInitiateRequest bytes = .ok request
  | .initiateResponse response => decodeInitiateResponse bytes = .ok response

def AssociationValue.Faithful (value : AssociationValue) : Prop :=
  match value with
  | .aarq apdu => apdu.Faithful
  | .aare apdu => apdu.Faithful
  | .initiateRequest _ => True
  | .initiateResponse _ => True

/-- A value that is encoded comes back exactly when its fields say what it is. -/
theorem associationValue_iff (value : AssociationValue) (capacity : Nat) (bytes : Bytes)
    (hcapacity : capacity < 256 ^ sizeOctets) (h : value.encode capacity = .ok bytes) :
    value.ComesBack bytes ↔ value.Faithful := by
  cases value with
  | aarq aarq => exact decodeAarq_iff aarq capacity bytes h
  | aare aare => exact decodeAare_iff aare capacity bytes h
  | initiateRequest request =>
      exact iff_of_true (decodeInitiateRequest_of_runEmitter request capacity hcapacity bytes h).1
        trivial
  | initiateResponse response =>
      exact iff_of_true (decodeInitiateResponse_of_runEmitter response capacity bytes h).1 trivial

/-- An answer that accepts the association, with a result and a diagnostic. -/
def acceptingAnswer : AareApdu where
  fields := [⟨0xA2, [0xA2, 0x03, 0x02, 0x01, 0x00]⟩,
    ⟨0xA3, [0xA3, 0x05, 0xA1, 0x03, 0x02, 0x01, 0x00]⟩]
  result := some 0
  diagnostic := some 0
  initiateResponse :=
    { negotiatedQualityOfService := none
      negotiatedDlmsVersionNumber := 6
      negotiatedConformance := ⟨0x00, 0x10, 0x10⟩
      serverMaxReceivePduSize := 512
      vaaName := 7 }

theorem associationValue_iff_acceptingAnswer :
    (AssociationValue.aare acceptingAnswer).ComesBack
        [0x61, 0x1E, 0xA2, 0x03, 0x02, 0x01, 0x00, 0xA3, 0x05, 0xA1, 0x03, 0x02, 0x01, 0x00, 0xBE,
          0x10, 0x04, 0x0E, 0x08, 0x00, 0x06, 0x5F, 0x1F, 0x04, 0x00, 0x00, 0x10, 0x10, 0x02, 0x00,
          0x00, 0x07] ↔
      (AssociationValue.aare acceptingAnswer).Faithful :=
  associationValue_iff _ 64 _ (by decide) rfl

/-- An answer with a result in its record and none in its fields is encoded, and it
    comes back without a result. -/
theorem not_comesBack_result :
    ¬ ∀ value capacity bytes, capacity < 256 ^ sizeOctets →
      AssociationValue.encode value capacity = .ok bytes → value.ComesBack bytes := by
  intro h
  have hback := h (.aare { acceptingAnswer with fields := [], diagnostic := none }) 64 _
    (by decide) rfl
  have hdecoded : decodeAare [0x61, 0x12, 0xBE, 0x10, 0x04, 0x0E, 0x08, 0x00, 0x06, 0x5F, 0x1F,
      0x04, 0x00, 0x00, 0x10, 0x10, 0x02, 0x00, 0x00, 0x07] =
    .ok { acceptingAnswer with fields := [], result := none, diagnostic := none } := rfl
  have hsame := congrArg AareApdu.result (Except.ok.inj (hdecoded.symm.trans hback))
  exact absurd hsame (by decide)

end Apdu

end Dlms
