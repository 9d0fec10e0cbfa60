import Dlms.Apdu.Acse
import Dlms.Apdu.RoundTrip

/-!
# Round trip of the association request

A request is one element around its fields and the user information, and the
user information is an octet string around an initiate request. The encoder
copies a field as the bytes the caller has made, and the decoder cuts the
content into elements again. So a request comes back when each of its fields is
one element, and the encoder asks nothing of the kind.

The buffers are 256 octets for the initiate request, 512 for the octet string,
1024 for the content and 2048 for all of it. With an initiate request that has
no dedicated key only the one of the content can be too small.

## Main definitions

* `InitiateRequest.WellFormed`: A dedicated key that the size type can count.
* `FieldIsElement`: A field is one element, and not the user information.
* `FieldWasRead`: A field is an element as the reader takes them.
* `aarqContentBytes`, `aarqBytes`: What the encoder writes.

## Theorems

* `delivers_encodeInitiateRequest`: The initiate request comes back.
* `encodeAcseApdu_aarq`: A request is encoded exactly when its content fits.
* `decodeAcseApdu_aarq`: It comes back when its fields are elements.
* `fieldWasRead_of_decodeAarq`: Whatever is decoded has elements for fields.
-/

namespace Dlms

namespace Apdu

open Codec

/-! ### The initiate request -/

theorem conveyed_flag (present : Bool) :
    Conveyed (writeAxdrOptionalFlag present) readAxdrOptionalFlag present :=
  ⟨_, writes_writeU8 _, fun _ => by cases present <;> rfl⟩

/-- An optional field is conveyed when its content is. -/
theorem conveyed_optional {α : Type} (field : α → Writer) (read : Reader α) (value : Option α)
    (h : ∀ a, value = some a → Conveyed (field a) read a) :
    Conveyed (writeOptional field value) (readOptional read) value := by
  cases value with
  | none =>
      refine ⟨[0x00], writes_writeU8 _, fun rest => rfl⟩
  | some a =>
      refine conveys_bind _ _ _ _ _ _ _ (conveyed_flag true) ?_
      rw [if_pos rfl]
      exact conveys_map _ _ _ some a (h a rfl)

theorem conveyed_conformance (value : AxdrConformance) :
    Conveyed (writeAxdrConformance value) readAxdrConformance value :=
  ⟨_, writes_writeBytes _, fun _ => rfl⟩

theorem conveyed_writeU16 (value : UInt16) : Conveyed (writeU16 value) readU16 value :=
  ⟨_, writes_writeU16 value, decodes_readU16 value⟩

/-- A dedicated key, where there is one, that the size type can count. -/
def InitiateRequest.WellFormed (request : InitiateRequest) : Prop :=
  ∀ key, request.dedicatedKey = some key → key.length < 256 ^ sizeOctets

/-- The default of a response being allowed is left out and read back. -/
theorem getD_responseAllowed (allowed : Bool) :
    (if allowed then none else some false : Option Bool).getD true = allowed := by
  cases allowed <;> rfl

theorem delivers_encodeInitiateRequest (request : InitiateRequest) (h : request.WellFormed) :
    Delivers ApduStatus.outputBufferTooSmall (encodeInitiateRequest request)
      decodeInitiateRequestReader request := by
  have hallowed : Conveyed
      (writeOptional writeAxdrBoolean (if request.responseAllowed then none else some false))
      (readOptional readAxdrBoolean) (if request.responseAllowed then none else some false) :=
    conveyed_optional _ _ _ fun allowed _ => conveyed_writeAxdrBoolean allowed
  have hsize := delivers_atEnd _ _ _ ApduStatus.invalidLength
    (fun size => ({ request with clientMaxReceivePduSize := size } : InitiateRequest)) _
    (conveyed_writeU16 request.clientMaxReceivePduSize)
  refine delivers_bind _ _ _ _ _ _ _ (conveyed_writeU8 initiateRequestTag) ?_
  rw [if_neg (not_not_intro rfl)]
  refine delivers_bind _ _ _ _ _ _ _ (conveyed_optional writeAxdrOctetString readAxdrOctetString
    request.dedicatedKey fun key hkey => conveyed_writeAxdrOctetString key (h key hkey)) ?_
  refine delivers_bind _ _ _ _ _ _ _ hallowed ?_
  refine delivers_bind _ _ _ _ _ _ _ (conveyed_optional writeU8 readU8
    request.proposedQualityOfService fun quality _ => conveyed_writeU8 quality) ?_
  refine delivers_bind _ _ _ _ _ _ _ (conveyed_writeU8 request.proposedDlmsVersionNumber) ?_
  refine delivers_bind _ _ _ _ _ _ _ (conveyed_conformance request.proposedConformance) ?_
  rw [getD_responseAllowed]
  exact hsize

/-- An optional field as it is written. -/
def optionalBytes {α : Type} (bytes : α → Bytes) (value : Option α) : Bytes :=
  match value with
  | none => [0x00]
  | some a => [0x01] ++ bytes a

def initiateRequestBytes (request : InitiateRequest) : Bytes :=
  [initiateRequestTag] ++ (optionalBytes axdrOctetStringBytes request.dedicatedKey ++
    (optionalBytes (fun allowed => [flagByte allowed])
        (if request.responseAllowed then none else some false) ++
      (optionalBytes (fun quality => [quality]) request.proposedQualityOfService ++
        ([request.proposedDlmsVersionNumber] ++
          ([0x5f, 0x1f, 0x04, 0x00, request.proposedConformance.byte0,
              request.proposedConformance.byte1, request.proposedConformance.byte2] ++
            beBytes 2 request.clientMaxReceivePduSize.toNat)))))

theorem writes_writeOptional {α : Type} (field : α → Writer) (bytes : α → Bytes)
    (value : Option α) (h : ∀ a, Writes (field a) (bytes a)) :
    Writes (writeOptional field value) (optionalBytes bytes value) := by
  cases value with
  | none => exact writes_writeU8 _
  | some a => exact emits_bind _ _ _ _ _ (writes_writeU8 _) (h a)

theorem writes_encodeInitiateRequest (request : InitiateRequest) :
    Writes (encodeInitiateRequest request) (initiateRequestBytes request) := by
  refine emits_bind _ _ _ _ _ (writes_writeU8 _) ?_
  refine emits_bind _ _ _ _ _ (writes_writeOptional _ _ _ writes_writeAxdrOctetString) ?_
  refine emits_bind _ _ _ _ _ (writes_writeOptional _ _ _ fun _ => writes_writeU8 _) ?_
  refine emits_bind _ _ _ _ _ (writes_writeOptional _ _ _ writes_writeU8) ?_
  exact emits_bind _ _ _ _ _ (writes_writeU8 _)
    (emits_bind _ _ _ _ _ (writes_writeBytes _) (writes_writeU16 _))

theorem decodeInitiateRequest_initiateRequestBytes (request : InitiateRequest)
    (h : request.WellFormed) :
    decodeInitiateRequest (initiateRequestBytes request) = .ok request :=
  runParser_of_accepts _ _ _ (accepts_of_delivers _ _ _ _ _
    (delivers_encodeInitiateRequest request h) (writes_encodeInitiateRequest request))

/-- A request without a dedicated key takes at most sixteen octets. -/
theorem length_initiateRequestBytes_le (request : InitiateRequest)
    (h : request.dedicatedKey = none) : (initiateRequestBytes request).length ≤ 16 := by
  rw [initiateRequestBytes, h]
  simp only [List.length_append, length_beBytes, List.length_cons, List.length_nil]
  have hkey : (optionalBytes axdrOctetStringBytes none).length = 1 := rfl
  have hallowed (allowed : Bool) : (optionalBytes (fun allowed => [flagByte allowed])
      (if allowed then none else some false)).length ≤ 2 := by
    cases allowed <;> decide
  have hquality (quality : Option UInt8) :
      (optionalBytes (fun quality => [quality]) quality).length ≤ 2 := by
    cases quality with
    | none => exact Nat.le_succ 1
    | some quality => exact Nat.le_refl 2
  have h₁ := hallowed request.responseAllowed
  have h₂ := hquality request.proposedQualityOfService
  omega

/-! ### The fields and the user information -/

/-- A field is one element with its tag, and not the user information. -/
def FieldIsElement (field : AcseRawField) : Prop :=
  isMultiByteTag field.tag = false ∧ field.tag ≠ userInformationTag ∧
    ∃ value, value.length < 256 ^ sizeOctets ∧ field.encoded = berTlvBytes field.tag value

/-- The user information around an initiate request. -/
def userInformationBytes (request : InitiateRequest) : Bytes :=
  berTlvBytes userInformationTag (berTlvBytes octetStringTag (initiateRequestBytes request))

/-- The content of a request: its fields, then the user information. -/
def aarqContentBytes (aarq : AarqApdu) : Bytes :=
  aarq.fields.flatMap (·.encoded) ++ userInformationBytes aarq.initiateRequest

def aarqBytes (aarq : AarqApdu) : Bytes := berTlvBytes aarqTag (aarqContentBytes aarq)

/-- The fields are copied, whatever bytes they are. -/
theorem writes_encodeAssociationValue (fields : List AcseRawField) (xdlms : Bytes)
    (hfields : ∀ field ∈ fields, field.tag ≠ userInformationTag)
    (hsize : (berTlvBytes octetStringTag xdlms).length ≤ 512) :
    Writes (encodeAssociationValue fields xdlms)
      (fields.flatMap (·.encoded) ++
        berTlvBytes userInformationTag (berTlvBytes octetStringTag xdlms)) := by
  induction fields with
  | nil =>
      have hinformation : writeUserInformation xdlms = .ok (berTlvBytes octetStringTag xdlms) := by
        have hrun := runEmitter_of_emits _ 512 _ _ (writes_writeBerTlv octetStringTag xdlms rfl)
        rw [if_pos hsize] at hrun
        simp [writeUserInformation, hrun]
      rw [encodeAssociationValue, hinformation]
      exact writes_writeBerTlv userInformationTag _ rfl
  | cons field fields ih =>
      have hrest := ih fun other hother => hfields other (List.mem_cons_of_mem field hother)
      rw [encodeAssociationValue, if_neg (hfields field List.mem_cons_self), List.flatMap_cons,
        List.append_assoc]
      exact emits_bind _ _ _ _ _ (writes_writeBytes _) hrest

/-- A request without a dedicated key is encoded exactly when its content fits
    in the buffer. -/
theorem encodeAcseApdu_aarq (aarq : AarqApdu) (hkey : aarq.initiateRequest.dedicatedKey = none)
    (hfields : ∀ field ∈ aarq.fields, field.tag ≠ userInformationTag) :
    encodeAcseApdu (.aarq aarq) =
      if (aarqContentBytes aarq).length ≤ 1024 then .ok (aarqBytes aarq)
      else .error .outputBufferTooSmall := by
  have hshort := length_initiateRequestBytes_le aarq.initiateRequest hkey
  have hxdlms : runEmitter 256 (encodeInitiateRequest aarq.initiateRequest) =
      .ok (initiateRequestBytes aarq.initiateRequest) := by
    rw [runEmitter_of_emits _ _ _ _ (writes_encodeInitiateRequest _), if_pos (by omega)]
  have hlength : axdrLengthEncodedSize (initiateRequestBytes aarq.initiateRequest).length = 1 :=
    if_pos (by omega)
  have hoctets := length_berTlvBytes octetStringTag (initiateRequestBytes aarq.initiateRequest)
  have hcontent : runEmitter 1024 (encodeAssociationValue aarq.fields
      (initiateRequestBytes aarq.initiateRequest)) =
        if (aarqContentBytes aarq).length ≤ 1024 then .ok (aarqContentBytes aarq)
        else .error .outputBufferTooSmall :=
    runEmitter_of_emits _ 1024 _ _ (writes_encodeAssociationValue aarq.fields _ hfields (by omega))
  by_cases hfits : (aarqContentBytes aarq).length ≤ 1024
  · -- The whole of it is then far from the end of the last buffer.
    have hwhole := length_berTlvBytes aarqTag (aarqContentBytes aarq)
    have hmono := axdrLengthEncodedSize_mono _ _ hfits
    have hsize : axdrLengthEncodedSize 1024 = 3 := by decide
    have hbuffer : (berTlvBytes aarqTag (aarqContentBytes aarq)).length ≤ apduBufferSize := by
      rw [apduBufferSize]
      omega
    rw [if_pos hfits] at hcontent ⊢
    simp only [encodeAcseApdu, encodeAarq, encodeAssociation, hxdlms, hcontent, bind, Except.bind,
      pure, Except.pure]
    rw [runEmitter_of_emits _ _ _ _ (writes_writeBerTlv aarqTag _ rfl), if_pos hbuffer]
    rfl
  · rw [if_neg hfits] at hcontent ⊢
    simp [encodeAcseApdu, encodeAarq, encodeAssociation, hxdlms, hcontent, bind, Except.bind]

/-! ### The request comes back -/

/-- Parts that are not empty have at least one octet each. -/
theorem length_le_length_flatMap {α : Type} (parts : List (Bytes × α))
    (hne : ∀ part ∈ parts, part.1 ≠ []) : parts.length ≤ (parts.flatMap Prod.fst).length := by
  induction parts with
  | nil => exact Nat.le_refl 0
  | cons part parts ih =>
      have hrest := ih fun other h => hne other (List.mem_cons_of_mem part h)
      have hpart := List.length_pos_iff.mpr (hne part List.mem_cons_self)
      rw [List.flatMap_cons, List.length_append, List.length_cons]
      omega

/-- What a field contributes when it is read. -/
def childOfField (field : AcseRawField) : AcseChild InitiateRequest where
  field := some field
  initiate := none

/-- What the user information contributes. -/
def childOfInitiate (request : InitiateRequest) : AcseChild InitiateRequest where
  field := none
  initiate := some request

theorem decodes_child_field (field : AcseRawField) (h : FieldIsElement field) :
    Decodes decodeAarqChild field.encoded (childOfField field) := by
  rcases field with ⟨tag, encoded⟩
  rcases h with ⟨htag, hother, value, hsize, hencoded⟩
  rw [show encoded = berTlvBytes tag value from hencoded]
  intro rest
  have hread := decodes_readBerTlv tag value htag hsize rest
  simp only [decodeAarqChild, bind, StateT.bind, hread, Except.bind, decodeAssociationChild,
    if_pos hother]
  rfl

theorem readUserInformation_userInformationBytes (request : InitiateRequest) (header : Bytes)
    (hkey : request.dedicatedKey = none) :
    readUserInformation
        { tag := userInformationTag
          header := header
          value := berTlvBytes octetStringTag (initiateRequestBytes request) } false =
      .ok (initiateRequestBytes request) := by
  have hshort := length_initiateRequestBytes_le request hkey
  have hbig : 16 < 256 ^ sizeOctets := by decide
  have hinner := decodes_readBerTlv octetStringTag (initiateRequestBytes request) rfl (by omega) []
  rw [List.append_nil] at hinner
  rw [readUserInformation, if_neg (not_not_intro rfl), hinner]
  rfl

theorem decodes_child_initiate (request : InitiateRequest)
    (hkey : request.dedicatedKey = none) :
    Decodes decodeAarqChild (userInformationBytes request) (childOfInitiate request) := by
  intro rest
  have hshort := length_initiateRequestBytes_le request hkey
  have hbig : 300 < 256 ^ sizeOctets := by decide
  have hlength : axdrLengthEncodedSize (initiateRequestBytes request).length = 1 :=
    if_pos (by omega)
  have hoctets := length_berTlvBytes octetStringTag (initiateRequestBytes request)
  have hread := decodes_readBerTlv userInformationTag
    (berTlvBytes octetStringTag (initiateRequestBytes request)) rfl (by omega) rest
  have hdecoded := decodeInitiateRequest_initiateRequestBytes request
    (fun key h => absurd (hkey.symm.trans h) nofun)
  simp only [decodeAarqChild, userInformationBytes, bind, StateT.bind, hread, Except.bind,
    decodeAssociationChild]
  rw [if_neg (not_not_intro rfl), readUserInformation_userInformationBytes request _ hkey]
  simp only [hdecoded]
  rfl

/-- The content of a request, cut into parts, each with what it contributes. -/
def aarqParts (aarq : AarqApdu) : List (Bytes × AcseChild InitiateRequest) :=
  aarq.fields.map (fun field => (field.encoded, childOfField field)) ++
    [(userInformationBytes aarq.initiateRequest, childOfInitiate aarq.initiateRequest)]

theorem decodeChildren_aarqContentBytes (aarq : AarqApdu)
    (hkey : aarq.initiateRequest.dedicatedKey = none)
    (hfields : ∀ field ∈ aarq.fields, FieldIsElement field) :
    decodeChildren decodeAarqChild (aarqContentBytes aarq) =
      .ok (aarq.fields.map childOfField ++ [childOfInitiate aarq.initiateRequest]) := by
  have hcontent : (aarqParts aarq).flatMap Prod.fst = aarqContentBytes aarq := by
    rw [aarqParts, aarqContentBytes, List.flatMap_append, List.flatMap_map, List.flatMap_singleton]
  have hvalues : (aarqParts aarq).map Prod.snd =
      aarq.fields.map childOfField ++ [childOfInitiate aarq.initiateRequest] := by
    rw [aarqParts, List.map_append, List.map_map]
    rfl
  have hdecodes : ∀ part ∈ aarqParts aarq, Decodes decodeAarqChild part.1 part.2 := by
    intro part hpart
    rcases List.mem_append.mp hpart with hfield | hlast
    · rcases List.mem_map.mp hfield with ⟨field, hmem, rfl⟩
      exact decodes_child_field field (hfields field hmem)
    · rw [List.mem_singleton.mp hlast]
      exact decodes_child_initiate aarq.initiateRequest hkey
  have hne : ∀ part ∈ aarqParts aarq, part.1 ≠ [] := by
    intro part hpart
    rcases List.mem_append.mp hpart with hfield | hlast
    · rcases List.mem_map.mp hfield with ⟨field, hmem, rfl⟩
      rcases (hfields field hmem).2.2 with ⟨value, -, hencoded⟩
      exact hencoded ▸ List.cons_ne_nil _ _
    · rw [List.mem_singleton.mp hlast]
      exact List.cons_ne_nil _ _
  -- No part is empty, so there are no more rounds than octets.
  have hfuel : (aarqParts aarq).length ≤ (aarqContentBytes aarq).length := by
    rw [← hcontent]
    exact length_le_length_flatMap _ hne
  have haccepts := accepts_untilEnd decodeAarqChild _ _ hdecodes hne hfuel
  rw [hcontent, hvalues] at haccepts
  rw [decodeChildren, runParser_of_accepts _ _ _ haccepts]

/-- A request whose fields are elements is read back from its bytes. -/
theorem decodeAcseApdu_aarq (aarq : AarqApdu) (hkey : aarq.initiateRequest.dedicatedKey = none)
    (hfields : ∀ field ∈ aarq.fields, FieldIsElement field)
    (hfits : (aarqContentBytes aarq).length ≤ 1024) :
    decodeAcseApdu (aarqBytes aarq) = .ok (.aarq aarq) := by
  have hbig : 1024 < 256 ^ sizeOctets := by decide
  have hread := decodes_readBerTlv aarqTag (aarqContentBytes aarq) rfl (by omega) []
  rw [List.append_nil] at hread
  have hsingle : readSingleTlv (aarqBytes aarq) aarqTag = .ok
      { tag := aarqTag
        header := berHeaderBytes aarqTag (aarqContentBytes aarq).length
        value := aarqContentBytes aarq } := by
    rw [readSingleTlv, aarqBytes, hread]
    rfl
  have hchildren := decodeChildren_aarqContentBytes aarq hkey hfields
  -- The initiate request stands last among the fields, and is picked out by its kind.
  have hinitiate : lastOf (fun child : AcseChild InitiateRequest => child.initiate)
      (aarq.fields.map childOfField ++ [childOfInitiate aarq.initiateRequest]) =
        some aarq.initiateRequest := by
    rw [lastOf, List.filterMap_append]
    exact List.getLast?_concat
  have hkept : (aarq.fields.map childOfField ++ [childOfInitiate aarq.initiateRequest]).filterMap
      (fun child => child.field) = aarq.fields := by
    rw [List.filterMap_append, List.filterMap_map]
    simp [Function.comp_def, childOfField, childOfInitiate]
  have hdecoded : decodeAarq (aarqBytes aarq) = .ok aarq := by
    simp only [decodeAarq, hsingle, bind, Except.bind, hchildren, hinitiate, hkept]
    rfl
  have hfirst : decodeAcseApdu (aarqBytes aarq) = AcseApdu.aarq <$> decodeAarq (aarqBytes aarq) :=
    rfl
  rw [hfirst, hdecoded]
  rfl

/-! ### Fields that were read -/

/-- A field that was read is one element. -/
def FieldWasRead (field : AcseRawField) : Prop :=
  ∃ tlv : BerTlv, field = ⟨tlv.tag, tlv.encoded⟩ ∧ ReadHeader tlv.header tlv.tag tlv.value.length

theorem returns_decodeAarqChild :
    Returns decodeAarqChild fun child =>
      ∀ field, child.field = some field → FieldWasRead field := by
  refine returns_bind _ _ _ _ (returns_of_consumes _ _ _ consumes_readBerTlv
    fun used tlv h => h.2) fun tlv htlv => ?_
  intro ts child rest hout field hfield
  unfold decodeAssociationChild at hout
  by_cases hother : tlv.tag ≠ userInformationTag
  · rw [if_pos hother] at hout
    rcases Prod.mk.inj (Except.ok.inj hout) with ⟨rfl, -⟩
    exact ⟨tlv, (Option.some.inj hfield).symm, htlv⟩
  · -- The user information leaves no field behind.
    rw [if_neg hother] at hout
    rcases hoctets : readUserInformation tlv false with status | octets
    · simp [hoctets, bind, Except.bind, Parser.ofExcept, Except.map] at hout
    · rcases hdecoded : decodeInitiateRequest octets with status | request
      · simp [hoctets, hdecoded, bind, Except.bind, Parser.ofExcept, Except.map] at hout
      · simp only [hoctets, hdecoded, bind, Except.bind, Parser.ofExcept, Except.map, pure,
          Except.pure, Except.ok.injEq, Prod.mk.injEq] at hout
        rw [← hout.1] at hfield
        cases hfield

/-- Every field of a decoded request was an element of it. -/
theorem fieldWasRead_of_decodeAarq (input : Bytes) (aarq : AarqApdu)
    (h : decodeAarq input = .ok aarq) : ∀ field ∈ aarq.fields, FieldWasRead field := by
  unfold decodeAarq at h
  rcases hsingle : readSingleTlv input aarqTag with status | tlv
  · simp [hsingle, bind, Except.bind] at h
  · rcases hchildren : decodeChildren decodeAarqChild tlv.value with status | children
    · simp [hsingle, hchildren, bind, Except.bind] at h
    · simp only [hsingle, hchildren, bind, Except.bind] at h
      have hall := of_runParser _ _ _ _
        (returns_untilEnd _ _ tlv.value.length returns_decodeAarqChild) hchildren
      split at h
      · simp at h
      · intro field hfield
        rw [← Except.ok.inj h] at hfield
        rcases List.mem_filterMap.mp hfield with ⟨child, hchild, hsome⟩
        exact hall child hchild field hsome

theorem decodeAarq_of_decodeAcseApdu (input : Bytes) (aarq : AarqApdu)
    (h : decodeAcseApdu input = .ok (.aarq aarq)) : decodeAarq input = .ok aarq := by
  unfold decodeAcseApdu at h
  split at h
  · simp at h
  · rename_i tag rest
    split_ifs at h
    · rcases hdecoded : decodeAarq (tag :: rest) with status | decoded
      · simp [hdecoded, Functor.map, Except.map] at h
      · simp only [hdecoded, Functor.map, Except.map, Except.ok.injEq, AcseApdu.aarq.injEq] at h
        rw [h]
    · rcases hdecoded : decodeAare (tag :: rest) with status | decoded <;>
        simp [hdecoded, Functor.map, Except.map] at h
    · rcases hdecoded : decodeRlrq (tag :: rest) with status | decoded <;>
        simp [hdecoded, Functor.map, Except.map] at h
    · rcases hdecoded : decodeRlre (tag :: rest) with status | decoded <;>
        simp [hdecoded, Functor.map, Except.map] at h

end Apdu

end Dlms
