import Dlms.Apdu.AcseRoundTrip
import Dlms.Association.Client
import Dlms.Association.Server

/-!
# What a server reads in the request of a client

The client puts an association request together from its options: a title, a
password or a challenge with the mechanism it is for, and an initiate request.
The server takes them out again with code of its own. The fields are made by
hand, with a length of one octet each way, so a value of more than 125 octets
does not fit in one.

A password and a challenge of that size are refused when the options are
checked. The title is checked only with high-level security. A longer one is
put into the field all the same, and the octet of its length, cut off or with
the flag bit set, announces something else. The server never reads such a
title, whatever it does with the rest.

## Main definitions

* `initiateRequestOf`: The initiate request a client is configured with.
* `ReadsAuthentication`: The authentication fields read as they were meant.
* `Understood`: A server reads in a request what the client was configured with.
* `contentSize`: Octets of a request without a challenge, without its header.

## Theorems

* `length_le_of_decodeTypedField`: A field that was read holds no long title.
* `understood_of_short`: A request whose title is short is understood.
* `understood_iff`: When every request that is built is understood.
-/

namespace Dlms

namespace Association

open Apdu (Bytes AcseRawField AarqApdu InitiateRequest FieldIsElement FieldWasRead ReadHeader
  aarqContentBytes aarqBytes userInformationBytes axdrLengthBytes berTlvBytes berHeaderBytes)
open Security (Challenge)
open Codec (beValue)

/-! ### Fields with a length of one octet -/

/-- A field around a short value is one element. -/
theorem fieldIsElement_makeTypedField (tag typeTag : UInt8) (value : Bytes)
    (htag : Apdu.isMultiByteTag tag = false) (hother : tag ≠ Apdu.userInformationTag)
    (hsize : value.length ≤ maxShortBerAuthenticationValueSize) :
    FieldIsElement (rawField (makeTypedField tag typeTag value)) := by
  have hbound : value.length ≤ 125 := hsize
  have hbig : 127 < 256 ^ Apdu.sizeOctets := by decide
  refine ⟨htag, hother, typeTag :: UInt8.ofNat value.length :: value, ?_, ?_⟩
  · simp only [List.length_cons]
    omega
  · have hlength : axdrLengthBytes (value.length + 2) = [UInt8.ofNat (value.length + 2)] := by
      rw [axdrLengthBytes, if_pos (by omega)]
    simp [rawField, makeTypedField, berTlvBytes, berHeaderBytes, hlength]

/-- An octet string in a field that was read has at most 125 octets: in a longer
    field the octet behind the tag counts octets of the length, and the type
    would have to be the first of them. -/
theorem length_le_of_decodeTypedField (field : AcseRawField) (tag : UInt8) (value : Bytes)
    (hread : FieldWasRead field)
    (hvalue : decodeTypedField field.encoded tag octetStringTag = some value) :
    value.length ≤ maxShortBerAuthenticationValueSize := by
  rcases hread with ⟨⟨read, header, content⟩, rfl, hheader⟩
  unfold decodeTypedField at hvalue
  split at hvalue
  · rename_i first outerSize kind innerSize rest hencoded
    split_ifs at hvalue with hsizes
    rcases hsizes with ⟨-, hkind, hinner, houter⟩
    rw [← Option.some.inj hvalue]
    have htotal := congrArg List.length hencoded
    simp only [Apdu.BerTlv.encoded, List.length_append, List.length_cons] at htotal
    dsimp only [Apdu.BerTlv.encoded] at hheader hencoded
    rcases hheader with ⟨lengthOctet, hshort, hsmall, hlength⟩ | ⟨lengthOctet, octets, hlong,
        hflag, hne, hlength⟩
    · -- The length is in the octet behind the tag.
      simp only [hshort, List.cons_append, List.nil_append,
        List.cons.injEq] at hencoded
      have hcontent : content.length = lengthOctet.toNat := hlength
      rw [hencoded.2.1] at hcontent hsmall
      show rest.length ≤ 125
      omega
    · -- The length would be 128, and its first octet the type of the string.
      rcases octets with _ | ⟨octet, octets⟩
      · exact absurd rfl hne
      · simp only [hlong, List.cons_append, List.cons.injEq] at hencoded
        rcases hencoded with ⟨-, houterOctet, hoctet, -⟩
        have hcontent : content.length = beValue (octet :: octets) := hlength
        have hheaderLength : header.length = 2 + (octets.length + 1) := by
          rw [hlong]
          simp only [List.length_cons]
          omega
        have hflagValue : outerSize.toNat = 128 + (octets.length + 1) := by
          rw [← houterOctet]
          exact hflag
        have htype : octet.toNat = 4 := by
          rw [hoctet, hkind]
          rfl
        rw [Codec.beValue_cons, htype] at hcontent
        -- So the content has 128 octets, and the octets of the length say more or less.
        have hrest := Codec.beValue_lt octets
        rcases octets with _ | ⟨next, octets⟩
        · simp only [List.length_nil, pow_zero] at hcontent hflagValue hheaderLength hrest
          omega
        · have hpow : 256 ^ 1 ≤ 256 ^ (next :: octets).length :=
            Nat.pow_le_pow_right (by decide) (by simp only [List.length_cons]; omega)
          omega
  · simp at hvalue

/-- No server reads a title of more than 125 octets, whatever the request. -/
theorem length_le_of_callingApplicationTitleOf (input : Bytes) (aarq : AarqApdu) (title : Bytes)
    (hdecoded : Apdu.decodeAcseApdu input = .ok (.aarq aarq))
    (htitle : callingApplicationTitleOf aarq = .ok title) :
    title.length ≤ maxShortBerAuthenticationValueSize := by
  have hfields := Apdu.fieldWasRead_of_decodeAarq input aarq
    (Apdu.decodeAarq_of_decodeAcseApdu input aarq hdecoded)
  unfold callingApplicationTitleOf at htitle
  split at htitle
  · rw [← Except.ok.inj htitle]
    exact Nat.zero_le _
  · rename_i field hfind
    rcases hvalue : decodeTypedField field.encoded callingApTitleTag octetStringTag with _ | value
    · simp [hvalue] at htitle
    · simp only [hvalue, Except.ok.injEq] at htitle
      rw [← htitle]
      exact length_le_of_decodeTypedField field callingApTitleTag value
        (hfields field (List.mem_of_find?_eq_some hfind)) hvalue

/-! ### What the client has put in -/

namespace AssociationClient

/-- The initiate request a client is configured with. -/
def initiateRequestOf (options : AssociationOptions) : InitiateRequest :=
  { Apdu.makeDefaultInitiateRequest with
    proposedQualityOfService := options.proposedQualityOfService
    proposedDlmsVersionNumber := options.proposedDlmsVersionNumber
    proposedConformance := options.proposedConformance
    clientMaxReceivePduSize := options.clientMaxReceivePduSize }

/-- The request with the fields of a challenge, if there is one. -/
def aarqOf (options : AssociationOptions) (hlsFields : List Bytes) : AarqApdu where
  fields := (llsAuthenticationFields options ++ titleFields options ++ hlsFields).map rawField
  initiateRequest := initiateRequestOf options

/-- Octets of a request without a challenge, without its header. -/
def contentSize (options : AssociationOptions) : Nat :=
  (aarqContentBytes (aarqOf options [])).length

section Request

variable {η : Type} (strategy : IHighLevelSecurityStrategy η) (random : Option Challenge)

/-- The authentication fields read as the client's mode has meant them: none, or
    the requirements with a mechanism and a value. -/
def ReadsAuthentication (options : AssociationOptions) (hls : η) (aarq : AarqApdu) : Prop :=
  match options.authenticationMode with
  | .none => hasAuthenticationFields aarq = false
  | .lowLevelSecurity =>
      ∃ value, authenticationFields aarq = some (makeSenderAcseRequirementsField,
          makeLowLevelSecurityMechanismField, value) ∧
        decodeTypedField value callingAuthenticationValueTag charstringAuthenticationValueTag =
          some options.lowLevelSecurityCredential
  | .highLevelSecurity =>
      ∃ mechanismField value challenge, authenticationFields aarq =
          some (makeSenderAcseRequirementsField, mechanismField, value) ∧
        decodeHlsMechanism mechanismField = some (strategy.mechanism hls) ∧
        (strategy.buildInitialChallenge random hls).1 = .ok challenge ∧
        decodeTypedField value callingAuthenticationValueTag charstringAuthenticationValueTag =
          some challenge

/-- A server reads in the bytes the title, the authentication and the initiate
    request that the client was configured with. -/
def Understood (options : AssociationOptions) (hls : η) (input : Bytes) : Prop :=
  ∃ aarq, Apdu.decodeAcseApdu input = .ok (.aarq aarq) ∧
    callingApplicationTitleOf aarq = .ok options.callingApplicationTitle ∧
    aarq.initiateRequest = initiateRequestOf options ∧
    ReadsAuthentication strategy random options hls aarq

/-! ### The fields of a client -/

/-- The fields of a challenge a strategy has made. -/
def challengeFields (mechanism : HighLevelSecurityMechanism) (challenge : Bytes) : List Bytes :=
  [makeSenderAcseRequirementsField, makeHighLevelSecurityMechanismField mechanism,
    makeAuthenticationValueField callingAuthenticationValueTag challenge]

/-- With high-level security there are the fields of a challenge, and otherwise
    there are none. -/
theorem hlsAuthenticationFields_cases (options : AssociationOptions) (hls after : η)
    (hlsFields : List Bytes)
    (h : hlsAuthenticationFields strategy random options hls = (.ok hlsFields, after)) :
    (options.authenticationMode ≠ .highLevelSecurity ∧ hlsFields = []) ∨
      ∃ challenge, options.authenticationMode = .highLevelSecurity ∧
        (hlsMechanismId (strategy.mechanism hls)).isSome ∧
        (strategy.buildInitialChallenge random hls).1 = .ok challenge ∧
        challenge.length ≤ maxShortBerAuthenticationValueSize ∧
        hlsFields = challengeFields (strategy.mechanism hls) challenge := by
  unfold hlsAuthenticationFields at h
  by_cases hmode : options.authenticationMode ≠ .highLevelSecurity
  · rw [if_pos hmode] at h
    exact Or.inl ⟨hmode, (Except.ok.inj (Prod.mk.inj h).1).symm⟩
  · rw [if_neg hmode] at h
    by_cases hstrategy : (!options.hasHighLevelSecurity) = true
    · rw [if_pos hstrategy] at h
      simp at h
    · rw [if_neg hstrategy] at h
      by_cases hmechanism : (hlsMechanismId (strategy.mechanism hls)).isNone = true
      · rw [if_pos hmechanism] at h
        simp at h
      · rw [if_neg hmechanism] at h
        -- The challenge has to fit a length of one octet.
        rcases hbuilt : strategy.buildInitialChallenge random hls with ⟨status | challenge, hls'⟩
        · simp [hbuilt] at h
        · simp only [hbuilt] at h
          by_cases hempty : challenge = []
          · rw [if_pos hempty] at h
            simp at h
          · rw [if_neg hempty] at h
            by_cases hlong : challenge.length > maxShortBerAuthenticationValueSize
            · rw [if_pos hlong] at h
              simp at h
            · rw [if_neg hlong] at h
              refine Or.inr ⟨challenge, not_not.mp hmode, ?_, rfl, Nat.le_of_not_lt hlong, ?_⟩
              · rw [Option.isSome_iff_ne_none]
                exact fun hnone => hmechanism (Option.isNone_iff_eq_none.mpr hnone)
              · exact (Except.ok.inj (Prod.mk.inj h).1).symm

/-- The request is the one of the options with the fields of a challenge. -/
theorem buildAarq_of_encoded (options : AssociationOptions) (hls after : η)
    (hlsFields : List Bytes) (bytes : Bytes)
    (hfields : hlsAuthenticationFields strategy random options hls = (.ok hlsFields, after))
    (hencoded : Apdu.encodeAcseApdu (.aarq (aarqOf options hlsFields)) = .ok bytes) :
    buildAarq strategy random options hls = (.ok bytes, after) := by
  simp only [aarqOf, initiateRequestOf] at hencoded
  simp only [buildAarq, hfields, hencoded]

theorem buildAarq_of_failed (options : AssociationOptions) (hls after : η)
    (hlsFields : List Bytes) (status : Apdu.ApduStatus)
    (hfields : hlsAuthenticationFields strategy random options hls = (.ok hlsFields, after))
    (hencoded : Apdu.encodeAcseApdu (.aarq (aarqOf options hlsFields)) = .error status) :
    buildAarq strategy random options hls = (.error .encodeFailed, after) := by
  simp only [aarqOf, initiateRequestOf] at hencoded
  simp only [buildAarq, hfields, hencoded]

/-- A request that is built was encoded so. -/
theorem encode_of_buildAarq (options : AssociationOptions) (hls after : η) (input : Bytes)
    (h : buildAarq strategy random options hls = (.ok input, after)) :
    ∃ hlsFields, hlsAuthenticationFields strategy random options hls = (.ok hlsFields, after) ∧
      Apdu.encodeAcseApdu (.aarq (aarqOf options hlsFields)) = .ok input := by
  rcases hfields : hlsAuthenticationFields strategy random options hls with
    ⟨status | hlsFields, hls'⟩
  · simp [buildAarq, hfields] at h
  · rcases hencoded : Apdu.encodeAcseApdu (.aarq (aarqOf options hlsFields)) with status | bytes
    · rw [buildAarq_of_failed strategy random options hls hls' hlsFields status hfields
        hencoded] at h
      simp at h
    · rw [buildAarq_of_encoded strategy random options hls hls' hlsFields bytes hfields
        hencoded, Prod.mk.injEq, Except.ok.injEq] at h
      rw [← h.1, ← h.2]
      exact ⟨hlsFields, rfl, hencoded⟩

/-! ### A short title is read as it was meant -/

theorem fieldIsElement_mechanismField (mechanismId : UInt8) :
    FieldIsElement (rawField (mechanismNamePrefix ++ [mechanismId])) := by
  have htag : mechanismNameTag ≠ Apdu.userInformationTag := by decide
  have hbig : 7 < 256 ^ Apdu.sizeOctets := by decide
  have hshort : Apdu.isMultiByteTag mechanismNameTag = false := by decide
  exact ⟨hshort, htag, [0x60, 0x85, 0x74, 0x05, 0x08, 0x02, mechanismId], hbig, rfl⟩

/-- The requirements, a mechanism and a short value are three elements. -/
theorem fieldIsElement_authentication (mechanismId : UInt8) (value : Bytes)
    (hsize : value.length ≤ maxShortBerAuthenticationValueSize) :
    ∀ encoded ∈ [makeSenderAcseRequirementsField, mechanismNamePrefix ++ [mechanismId],
      makeAuthenticationValueField callingAuthenticationValueTag value],
      FieldIsElement (rawField encoded) := by
  intro encoded hmem
  rcases List.mem_cons.mp hmem with rfl | hmem
  · exact ⟨rfl, by decide, [0x07, 0x80], by decide, rfl⟩
  · rcases List.mem_cons.mp hmem with rfl | hmem
    · exact fieldIsElement_mechanismField mechanismId
    · rw [List.mem_singleton.mp hmem]
      exact fieldIsElement_makeTypedField _ _ value rfl (by decide) hsize

/-- A password that has passed the check is short. -/
theorem credential_le_of_validateOptions (options : AssociationOptions)
    (hmode : options.authenticationMode = .lowLevelSecurity)
    (hvalid : validateOptions options = .ok ()) :
    options.lowLevelSecurityCredential.length ≤ maxShortBerAuthenticationValueSize := by
  unfold validateOptions at hvalid
  split_ifs at hvalid with hempty hlong
  rw [not_and_or, not_lt] at hlong
  rcases hlong with hother | hsize
  · exact absurd hmode hother
  · exact hsize

theorem fieldIsElement_lls (options : AssociationOptions)
    (hvalid : validateOptions options = .ok ()) :
    ∀ encoded ∈ llsAuthenticationFields options, FieldIsElement (rawField encoded) := by
  intro encoded hmem
  unfold llsAuthenticationFields at hmem
  split_ifs at hmem with hmode
  · exact fieldIsElement_authentication 0x01 _
      (credential_le_of_validateOptions options hmode hvalid) encoded hmem
  · exact absurd hmem List.not_mem_nil

theorem fieldIsElement_title (options : AssociationOptions)
    (hsize : options.callingApplicationTitle.length ≤ maxShortBerAuthenticationValueSize) :
    ∀ encoded ∈ titleFields options, FieldIsElement (rawField encoded) := by
  intro encoded hmem
  unfold titleFields at hmem
  split_ifs at hmem with hempty
  · exact absurd hmem List.not_mem_nil
  · rw [List.mem_singleton.mp hmem]
    exact fieldIsElement_makeTypedField _ _ _ rfl (by decide) hsize

/-- The fields of the title are nothing, or one field that reads as the title. -/
theorem titleFields_cases (options : AssociationOptions) :
    (options.callingApplicationTitle = [] ∧ titleFields options = []) ∨
      titleFields options =
        [makeOctetStringField callingApTitleTag options.callingApplicationTitle] := by
  unfold titleFields
  by_cases hempty : options.callingApplicationTitle = []
  · exact Or.inl ⟨hempty, if_pos hempty⟩
  · exact Or.inr (if_neg hempty)

theorem callingApplicationTitleOf_of_find (aarq : AarqApdu) (field : AcseRawField) (title : Bytes)
    (hfind : aarq.fields.find? (·.tag == callingApTitleTag) = some field)
    (hvalue : decodeTypedField field.encoded callingApTitleTag octetStringTag = some title) :
    callingApplicationTitleOf aarq = .ok title := by
  rw [callingApplicationTitleOf, hfind]
  simp [hvalue]

/-- Without authentication there is the title or nothing. -/
theorem reads_none (options : AssociationOptions) (hmode : options.authenticationMode = .none)
    (hsize : options.callingApplicationTitle.length ≤ maxShortBerAuthenticationValueSize) :
    callingApplicationTitleOf (aarqOf options []) = .ok options.callingApplicationTitle ∧
      hasAuthenticationFields (aarqOf options []) = false := by
  have hvalue := decodeTypedField_makeTypedField callingApTitleTag octetStringTag
    options.callingApplicationTitle hsize
  have hlls : llsAuthenticationFields options = [] :=
    if_neg (by rw [hmode]; simp only [reduceCtorEq, not_false_eq_true])
  unfold aarqOf
  rw [hlls]
  rcases titleFields_cases options with ⟨hempty, hnone⟩ | htitle
  · rw [hnone, hempty]
    exact ⟨rfl, rfl⟩
  · rw [htitle]
    exact ⟨callingApplicationTitleOf_of_find _ _ _ rfl hvalue, rfl⟩

/-- With a password its three fields stand in front of the title. -/
theorem reads_lls (options : AssociationOptions)
    (hmode : options.authenticationMode = .lowLevelSecurity)
    (hsize : options.callingApplicationTitle.length ≤ maxShortBerAuthenticationValueSize) :
    callingApplicationTitleOf (aarqOf options []) = .ok options.callingApplicationTitle ∧
      authenticationFields (aarqOf options []) = some (makeSenderAcseRequirementsField,
        makeLowLevelSecurityMechanismField, makeAuthenticationValueField
          callingAuthenticationValueTag options.lowLevelSecurityCredential) := by
  have hvalue := decodeTypedField_makeTypedField callingApTitleTag octetStringTag
    options.callingApplicationTitle hsize
  have hlls : llsAuthenticationFields options = _ := if_pos hmode
  unfold aarqOf
  rw [hlls]
  rcases titleFields_cases options with ⟨hempty, hnone⟩ | htitle
  · rw [hnone, hempty]
    exact ⟨rfl, rfl⟩
  · rw [htitle]
    exact ⟨callingApplicationTitleOf_of_find _ _ _ rfl hvalue, rfl⟩

/-- With a challenge its three fields stand behind the title. -/
theorem reads_hls (options : AssociationOptions) (mechanism : HighLevelSecurityMechanism)
    (challenge : Bytes) (hmode : options.authenticationMode = .highLevelSecurity)
    (hsize : options.callingApplicationTitle.length ≤ maxShortBerAuthenticationValueSize) :
    callingApplicationTitleOf (aarqOf options (challengeFields mechanism challenge)) =
        .ok options.callingApplicationTitle ∧
      authenticationFields (aarqOf options (challengeFields mechanism challenge)) =
        some (makeSenderAcseRequirementsField, makeHighLevelSecurityMechanismField mechanism,
          makeAuthenticationValueField callingAuthenticationValueTag challenge) := by
  have hvalue := decodeTypedField_makeTypedField callingApTitleTag octetStringTag
    options.callingApplicationTitle hsize
  have hlls : llsAuthenticationFields options = [] :=
    if_neg (by rw [hmode]; simp only [reduceCtorEq, not_false_eq_true])
  unfold aarqOf
  rw [hlls]
  rcases titleFields_cases options with ⟨hempty, hnone⟩ | htitle
  · rw [hnone, hempty]
    exact ⟨rfl, rfl⟩
  · rw [htitle]
    exact ⟨callingApplicationTitleOf_of_find _ _ _ rfl hvalue, rfl⟩

theorem decodeHlsMechanism_makeHighLevelSecurityMechanismField
    (mechanism : HighLevelSecurityMechanism) (h : (hlsMechanismId mechanism).isSome) :
    decodeHlsMechanism (makeHighLevelSecurityMechanismField mechanism) = some mechanism := by
  cases mechanism with
  | unknown => exact absurd h Bool.false_ne_true
  | hlsHigh => rfl
  | hlsMd5 => rfl
  | hlsSha1 => rfl
  | hlsGmac => rfl

/-- A request whose title is short is understood when it is built. -/
theorem understood_of_short (options : AssociationOptions) (hls after : η) (input : Bytes)
    (hvalid : validateOptions options = .ok ())
    (hsize : options.callingApplicationTitle.length ≤ maxShortBerAuthenticationValueSize)
    (hbuilt : buildAarq strategy random options hls = (.ok input, after)) :
    Understood strategy random options hls input := by
  rcases encode_of_buildAarq strategy random options hls after input hbuilt with
    ⟨hlsFields, hfields, hencoded⟩
  have hcases := hlsAuthenticationFields_cases strategy random options hls after hlsFields hfields
  have hhls : ∀ encoded ∈ hlsFields, FieldIsElement (rawField encoded) := by
    intro encoded hmem
    rcases hcases with ⟨-, rfl⟩ | ⟨challenge, -, -, -, hshort, rfl⟩
    · exact absurd hmem List.not_mem_nil
    · exact fieldIsElement_authentication _ challenge hshort encoded hmem
  have helements : ∀ field ∈ (aarqOf options hlsFields).fields, FieldIsElement field := by
    intro field hmem
    rcases List.mem_map.mp hmem with ⟨encoded, hencodedMem, rfl⟩
    rcases List.mem_append.mp hencodedMem with hfront | hback
    · rcases List.mem_append.mp hfront with hlls | htitle
      · exact fieldIsElement_lls options hvalid encoded hlls
      · exact fieldIsElement_title options hsize encoded htitle
    · exact hhls encoded hback
  -- What was encoded fits in the buffer, so it comes back.
  rw [Apdu.encodeAcseApdu_aarq _ rfl fun field hmem => (helements field hmem).2.1] at hencoded
  split_ifs at hencoded with hfits
  rw [← Except.ok.inj hencoded]
  refine ⟨aarqOf options hlsFields, Apdu.decodeAcseApdu_aarq _ rfl helements hfits, ?_⟩
  rcases hcases with ⟨hmode, rfl⟩ | ⟨challenge, hmode, hmechanism, hchallenge, hshort, rfl⟩
  · cases hother : options.authenticationMode with
    | none =>
        rcases reads_none options hother hsize with ⟨htitle, hnone⟩
        refine ⟨htitle, rfl, ?_⟩
        rw [ReadsAuthentication, hother]
        exact hnone
    | lowLevelSecurity =>
        rcases reads_lls options hother hsize with ⟨htitle, hauthentication⟩
        refine ⟨htitle, rfl, ?_⟩
        rw [ReadsAuthentication, hother]
        exact ⟨_, hauthentication, decodeTypedField_makeTypedField _ _ _
          (credential_le_of_validateOptions options hother hvalid)⟩
    | highLevelSecurity => exact absurd hother hmode
  · rcases reads_hls options (strategy.mechanism hls) challenge hmode hsize with
      ⟨htitle, hauthentication⟩
    refine ⟨htitle, rfl, ?_⟩
    rw [ReadsAuthentication, hmode]
    exact ⟨_, _, challenge, hauthentication,
      decodeHlsMechanism_makeHighLevelSecurityMechanismField _ hmechanism, hchallenge,
      decodeTypedField_makeTypedField _ _ _ hshort⟩

/-! ### When every request is understood -/

/-- With high-level security the title has been checked. -/
theorem title_le_of_highLevelSecurity (options : AssociationOptions)
    (hmode : options.authenticationMode = .highLevelSecurity)
    (hvalid : validateOptions options = .ok ()) :
    options.callingApplicationTitle.length ≤ maxShortBerAuthenticationValueSize := by
  unfold validateOptions at hvalid
  split_ifs at hvalid with hempty hcredential hlong
  rw [not_and_or, not_lt] at hlong
  rcases hlong with hother | hsize
  · exact absurd hmode hother
  · exact hsize

/-- No field of a client has the tag of the user information. -/
theorem tag_ne_userInformation (options : AssociationOptions)
    (hvalid : validateOptions options = .ok ()) :
    ∀ field ∈ (aarqOf options []).fields, field.tag ≠ Apdu.userInformationTag := by
  intro field hmem
  rcases List.mem_map.mp hmem with ⟨encoded, hencoded, rfl⟩
  rw [List.append_nil] at hencoded
  rcases List.mem_append.mp hencoded with hlls | htitle
  · exact (fieldIsElement_lls options hvalid encoded hlls).2.1
  · rcases titleFields_cases options with ⟨-, hnone⟩ | hone
    · rw [hnone] at htitle
      exact absurd htitle List.not_mem_nil
    · rw [hone, List.mem_singleton] at htitle
      have htag : callingApTitleTag ≠ Apdu.userInformationTag := by decide
      rw [htitle]
      exact htag

/-- A request without a challenge is built exactly when its content fits. -/
theorem buildAarq_withoutChallenge (options : AssociationOptions) (hls : η)
    (hvalid : validateOptions options = .ok ())
    (hmode : options.authenticationMode ≠ .highLevelSecurity) :
    buildAarq strategy random options hls =
      if contentSize options ≤ 1024 then (.ok (aarqBytes (aarqOf options [])), hls)
      else (.error .encodeFailed, hls) := by
  have hencoded := Apdu.encodeAcseApdu_aarq (aarqOf options []) rfl
    (tag_ne_userInformation options hvalid)
  have hfields : hlsAuthenticationFields strategy random options hls = (.ok [], hls) :=
    if_pos hmode
  by_cases hfits : contentSize options ≤ 1024
  · rw [if_pos hfits]
    exact buildAarq_of_encoded strategy random options hls hls [] _ hfields
      (hencoded.trans (if_pos hfits))
  · rw [if_neg hfits]
    exact buildAarq_of_failed strategy random options hls hls [] _ hfields
      (hencoded.trans (if_neg hfits))

/-- Every request that is built is understood if and only if the title has at
    most 125 octets, or the request is too long to be built. -/
theorem understood_iff (options : AssociationOptions) (hls : η)
    (hvalid : validateOptions options = .ok ()) :
    (∀ input after, buildAarq strategy random options hls = (.ok input, after) →
        Understood strategy random options hls input) ↔
      options.callingApplicationTitle.length ≤ maxShortBerAuthenticationValueSize ∨
        1024 < contentSize options := by
  constructor
  · intro hunderstood
    by_contra hneither
    rw [not_or, not_lt] at hneither
    have hmode : options.authenticationMode ≠ .highLevelSecurity := fun hmode =>
      hneither.1 (title_le_of_highLevelSecurity options hmode hvalid)
    have hbuilt := buildAarq_withoutChallenge strategy random options hls hvalid hmode
    rw [if_pos hneither.2] at hbuilt
    rcases hunderstood _ _ hbuilt with ⟨aarq, hdecoded, htitle, -, -⟩
    exact hneither.1 (length_le_of_callingApplicationTitleOf _ aarq _ hdecoded htitle)
  · intro hcondition input after hbuilt
    by_cases hmode : options.authenticationMode = .highLevelSecurity
    · exact understood_of_short strategy random options hls after input hvalid
        (title_le_of_highLevelSecurity options hmode hvalid) hbuilt
    · rcases hcondition with hsize | hlong
      · exact understood_of_short strategy random options hls after input hvalid hsize hbuilt
      · rw [buildAarq_withoutChallenge strategy random options hls hvalid hmode,
          if_neg (Nat.not_le_of_lt hlong)] at hbuilt
        cases hbuilt

end Request

/-- A client without a strategy of high-level security. -/
def withoutStrategy : IHighLevelSecurityStrategy Unit where
  mechanism := fun _ => .unknown
  buildInitialChallenge := fun _ hls => (.error .unsupportedAuthentication, hls)

/-- A client with a password and a title of eight octets. -/
def passwordOptions : AssociationOptions :=
  { defaultAssociationOptions with
    authenticationMode := .lowLevelSecurity
    lowLevelSecurityCredential := [0x31, 0x32, 0x33, 0x34, 0x35, 0x36, 0x37, 0x38]
    callingApplicationTitle := [0x4D, 0x4D, 0x4D, 0x00, 0x00, 0xBC, 0x61, 0x4E] }

theorem understood_iff_passwordOptions :
    (∀ input after, buildAarq withoutStrategy none passwordOptions () = (.ok input, after) →
        Understood withoutStrategy none passwordOptions () input) ↔
      passwordOptions.callingApplicationTitle.length ≤ maxShortBerAuthenticationValueSize ∨
        1024 < contentSize passwordOptions :=
  understood_iff withoutStrategy none passwordOptions () rfl

/-- A client without authentication and with a title of 126 octets. -/
def longTitleOptions : AssociationOptions :=
  { defaultAssociationOptions with callingApplicationTitle := List.replicate 126 0x41 }

/-- Its options pass and its request is built, but the request does not even
    decode: the length of the title field announces an indefinite length. -/
theorem not_understood :
    validateOptions longTitleOptions = .ok () ∧
      ∃ input, buildAarq withoutStrategy none longTitleOptions () = (.ok input, ()) ∧
        Apdu.decodeAcseApdu input = .error .unsupportedFeature ∧
        ¬ Understood withoutStrategy none longTitleOptions () input := by
  have hbuilt := buildAarq_withoutChallenge withoutStrategy none longTitleOptions () rfl
    (by decide)
  rw [if_pos (by decide +kernel)] at hbuilt
  have hdecoded : Apdu.decodeAcseApdu (aarqBytes (aarqOf longTitleOptions [])) =
      .error .unsupportedFeature := by decide +kernel
  refine ⟨rfl, _, hbuilt, hdecoded, ?_⟩
  rintro ⟨aarq, hother, -⟩
  rw [hdecoded] at hother
  simp at hother

end AssociationClient

end Association

end Dlms
