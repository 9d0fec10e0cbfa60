import Dlms.Apdu.Ber
import Dlms.Apdu.Initiate

/-!
# Association control APDUs

The association request and answer (AARQ, AARE) and the release request and
answer (RLRQ, RLRE).

Each is one BER element that contains further elements. The decoder keeps
every child as raw bytes except the user information, which wraps an initiate
APDU, and picks out of an answer the result and the diagnostic, out of a
release the reason. What the remaining children mean is the business of the
association layer.

A release is read more tolerantly than an association: bytes after the element
belong to it, and a user-information child takes everything that is left.

## Main definitions

* `AcseRawField`: A child element kept as bytes.
* `AarqApdu`, `AareApdu`, `RlrqApdu`, `RlreApdu`: The four APDUs.
* `decodeAarq`, `encodeAarq` and the same for the others: Their codecs.
-/

namespace Dlms

namespace Apdu

open Codec

/-- A child element of an association APDU, as bytes. -/
structure AcseRawField where
  tag : UInt8
  encoded : Bytes
  deriving DecidableEq, Repr

/-- The request for an association. -/
structure AarqApdu where
  fields : List AcseRawField
  initiateRequest : InitiateRequest
  deriving DecidableEq, Repr

/-- The answer to an AARQ. -/
structure AareApdu where
  fields : List AcseRawField
  result : Option Int
  diagnostic : Option Int
  initiateResponse : InitiateResponse
  deriving DecidableEq, Repr

/-- A release APDU. The initiate APDU in its user information is optional and
    the raw field keeps it for encoding. -/
structure ReleaseApdu (initiate : Type) where
  fields : List AcseRawField
  reason : Option Int
  initiate : Option initiate
  deriving DecidableEq, Repr

/-- The request for the release of an association. -/
abbrev RlrqApdu : Type := ReleaseApdu InitiateRequest

/-- The answer to an RLRQ. -/
abbrev RlreApdu : Type := ReleaseApdu InitiateResponse

def aarqTag : UInt8 := 0x60

def aareTag : UInt8 := 0x61

def rlrqTag : UInt8 := 0x62

def rlreTag : UInt8 := 0x63

def userInformationTag : UInt8 := 0xBE

def octetStringTag : UInt8 := 0x04

def associationResultTag : UInt8 := 0xA2

def resultSourceDiagnosticTag : UInt8 := 0xA3

def acseServiceUserTag : UInt8 := 0xA1

def berIntegerTag : UInt8 := 0x02

def releaseReasonTag : UInt8 := 0x80

/-! ### Reading elements -/

/-- One element with the expected tag and nothing after it. -/
def readSingleTlv (input : Bytes) (expectedTag : UInt8) : Except ApduStatus BerTlv :=
  match readBerTlv input with
  | .error status => .error status
  | .ok (tlv, rest) =>
      if tlv.tag ≠ expectedTag then .error .invalidTag
      else if rest ≠ [] then .error .invalidLength
      else .ok tlv

/-- One element with the expected tag. Bytes after it extend its value. -/
def readReleaseTlv (input : Bytes) (expectedTag : UInt8) : Except ApduStatus BerTlv :=
  match readBerTlv input with
  | .error status => .error status
  | .ok (tlv, rest) =>
      if tlv.tag ≠ expectedTag then .error .invalidTag
      else .ok { tlv with value := tlv.value ++ rest }

/-- The octet string inside a user-information element. -/
def readUserInformation (userInformation : BerTlv) (allowTrailingBytes : Bool) :
    Except ApduStatus Bytes :=
  if userInformation.tag ≠ userInformationTag then
    .error .invalidTag
  else
    match readBerTlv userInformation.value with
    | .error status => .error status
    | .ok (octetString, rest) =>
        if octetString.tag ≠ octetStringTag then .error .invalidTag
        else if allowTrailingBytes then .ok (octetString.value ++ rest)
        else if rest ≠ [] then .error .invalidLength
        else .ok octetString.value

/-- A two's complement integer of one to four octets. -/
def readPrimitiveIntegerValue (integerTlv : BerTlv) : Except ApduStatus Int :=
  match integerTlv.value with
  | [] => .error .invalidLength
  | first :: rest =>
      let octets := first :: rest
      if octets.length > 4 then
        .error .invalidLength
      else if first &&& 0x80 ≠ 0 then
        .ok ((beValue octets : Int) - 256 ^ octets.length)
      else
        .ok (beValue octets)

def readIntegerValue (integerTlv : BerTlv) : Except ApduStatus Int :=
  if integerTlv.tag ≠ berIntegerTag then .error .invalidTag
  else readPrimitiveIntegerValue integerTlv

/-- The only element of a view. -/
def readOnlyTlv (input : Bytes) : Except ApduStatus BerTlv :=
  match readBerTlv input with
  | .error status => .error status
  | .ok (tlv, rest) => if rest ≠ [] then .error .invalidLength else .ok tlv

/-- An integer, possibly wrapped in one more element. -/
def readNestedInteger (outer : BerTlv) (optionalInnerTag : UInt8) : Except ApduStatus Int := do
  let first ← readOnlyTlv outer.value
  if first.tag = berIntegerTag then
    readIntegerValue first
  else if first.tag ≠ optionalInnerTag then
    .error .invalidTag
  else do
    let integerTlv ← readOnlyTlv first.value
    readIntegerValue integerTlv

/-! ### Association request and answer -/

/-- What a child element of an association APDU contributes. -/
structure AcseChild (initiate : Type) where
  field : Option AcseRawField
  initiate : Option initiate
  result : Option Int := none
  diagnostic : Option Int := none

/-- The children of an element, in order, up to the first that is malformed. -/
def decodeChildren {α : Type} (child : Reader α) (value : Bytes) : Except ApduStatus (List α) :=
  runParser (Parser.untilEnd child value.length) value

/-- A user-information child of an association, or a field kept as bytes. -/
def decodeAssociationChild {initiate : Type}
    (decodeInitiate : Bytes → Except ApduStatus initiate) (child : BerTlv) :
    Except ApduStatus (AcseChild initiate) :=
  if child.tag ≠ userInformationTag then
    .ok { field := some ⟨child.tag, child.encoded⟩, initiate := none }
  else do
    let octetString ← readUserInformation child false
    let decoded ← decodeInitiate octetString
    pure { field := none, initiate := some decoded }

def decodeAarqChild : Reader (AcseChild InitiateRequest) := do
  let child ← readBerTlv
  Parser.ofExcept (decodeAssociationChild decodeInitiateRequest child)

def decodeAareChild : Reader (AcseChild InitiateResponse) := do
  let child ← readBerTlv
  Parser.ofExcept do
    if child.tag = associationResultTag then do
      let result ← readNestedInteger child berIntegerTag
      pure { field := some ⟨child.tag, child.encoded⟩, initiate := none, result := some result }
    else if child.tag = resultSourceDiagnosticTag then do
      let diagnostic ← readNestedInteger child acseServiceUserTag
      pure { field := some ⟨child.tag, child.encoded⟩, initiate := none,
             diagnostic := some diagnostic }
    else
      decodeAssociationChild decodeInitiateResponse child

/-- The last of the values some children carry, as repeated assignment to one
    slot leaves it. -/
def lastOf {α β : Type} (pick : α → Option β) (children : List α) : Option β :=
  (children.filterMap pick).getLast?

def decodeAarq (input : Bytes) : Except ApduStatus AarqApdu := do
  let aarq ← readSingleTlv input aarqTag
  let children ← decodeChildren decodeAarqChild aarq.value
  match lastOf (·.initiate) children with
  | none => .error .invalidData
  | some initiateRequest =>
      pure { fields := children.filterMap (·.field), initiateRequest }

def decodeAare (input : Bytes) : Except ApduStatus AareApdu := do
  let aare ← readSingleTlv input aareTag
  let children ← decodeChildren decodeAareChild aare.value
  match lastOf (·.initiate) children with
  | none => .error .invalidData
  | some initiateResponse =>
      pure { fields := children.filterMap (·.field), result := lastOf (·.result) children,
             diagnostic := lastOf (·.diagnostic) children, initiateResponse }

def writeUserInformation (xdlms : Bytes) : Except ApduStatus Bytes := do
  let octetString ← runEmitter 512 (writeBerTlv octetStringTag xdlms)
  pure octetString

/-- The raw fields and the user information of an association APDU. A field
    with the tag of the user information is refused, in its turn. -/
def encodeAssociationValue : List AcseRawField → Bytes → Writer
  | [], xdlms =>
      match writeUserInformation xdlms with
      | .error status => Emitter.fail status
      | .ok octetString => writeBerTlv userInformationTag octetString
  | field :: rest, xdlms =>
      if field.tag = userInformationTag then
        Emitter.fail .invalidArgument
      else do
        writeBytes field.encoded
        encodeAssociationValue rest xdlms

def encodeAssociation (tag : UInt8) (fields : List AcseRawField) (xdlms : Bytes) :
    Except ApduStatus Writer := do
  let value ← runEmitter 1024 (encodeAssociationValue fields xdlms)
  pure (writeBerTlv tag value)

def encodeAarq (input : AarqApdu) : Except ApduStatus Writer := do
  let xdlms ← runEmitter 256 (encodeInitiateRequest input.initiateRequest)
  encodeAssociation aarqTag input.fields xdlms

def encodeAare (input : AareApdu) : Except ApduStatus Writer := do
  let xdlms ← runEmitter 256 (encodeInitiateResponse input.initiateResponse)
  encodeAssociation aareTag input.fields xdlms

/-! ### Release request and answer -/

/-- What a child element of a release APDU contributes. -/
structure ReleaseChild (initiate : Type) where
  field : AcseRawField
  reason : Option Int
  initiate : Option initiate

/-- A child of a release. A user-information child takes everything that is
    left, so it is always the last one and is never cut short. -/
def decodeReleaseChild {initiate : Type}
    (decodeInitiate : Bytes → Except ApduStatus initiate) : Reader (ReleaseChild initiate) := do
  let child ← readBerTlv
  if child.tag = releaseReasonTag then do
    let reason ← Parser.ofExcept (readPrimitiveIntegerValue child)
    pure { field := ⟨child.tag, child.encoded⟩, reason := some reason, initiate := none }
  else if child.tag = userInformationTag then do
    let trailing ← readRemaining
    let extended := { child with value := child.value ++ trailing }
    let decoded ← Parser.ofExcept do
      let octetString ← readUserInformation extended true
      decodeInitiate octetString
    pure { field := ⟨extended.tag, extended.encoded⟩, reason := none, initiate := some decoded }
  else
    pure { field := ⟨child.tag, child.encoded⟩, reason := none, initiate := none }

def decodeRelease {initiate : Type} (decodeInitiate : Bytes → Except ApduStatus initiate)
    (input : Bytes) (expectedTag : UInt8) : Except ApduStatus (ReleaseApdu initiate) := do
  let release ← readReleaseTlv input expectedTag
  let children ← decodeChildren (decodeReleaseChild decodeInitiate) release.value
  pure { fields := children.map (·.field), reason := lastOf (·.reason) children,
         initiate := lastOf (·.initiate) children }

def writeReleaseReason (reason : Int) : Writer :=
  if reason < -128 ∨ reason > 127 then
    Emitter.fail .unsupportedFeature
  else
    writeBerTlv releaseReasonTag [UInt8.ofNat (reason % 256).toNat]

/-- The raw fields of a release. A reason that was read is written anew at the
    end, so its raw field is left out. -/
def encodeReleaseFields (hasReason : Bool) : List AcseRawField → Writer
  | [] => pure ()
  | field :: rest =>
      if field.tag = releaseReasonTag ∧ hasReason then
        encodeReleaseFields hasReason rest
      else do
        writeBytes field.encoded
        encodeReleaseFields hasReason rest

def encodeRelease {initiate : Type} (tag : UInt8) (input : ReleaseApdu initiate) :
    Except ApduStatus Writer := do
  let value ← runEmitter 256 do
    encodeReleaseFields input.reason.isSome input.fields
    match input.reason with
    | none => pure ()
    | some reason => writeReleaseReason reason
  pure (writeBerTlv tag value)

def decodeRlrq (input : Bytes) : Except ApduStatus RlrqApdu :=
  decodeRelease decodeInitiateRequest input rlrqTag

def encodeRlrq (input : RlrqApdu) : Except ApduStatus Writer := encodeRelease rlrqTag input

def decodeRlre (input : Bytes) : Except ApduStatus RlreApdu :=
  decodeRelease decodeInitiateResponse input rlreTag

def encodeRlre (input : RlreApdu) : Except ApduStatus Writer := encodeRelease rlreTag input

/-! ### Any of the four -/

inductive AcseApdu where
  | aarq (aarq : AarqApdu)
  | aare (aare : AareApdu)
  | rlrq (rlrq : RlrqApdu)
  | rlre (rlre : RlreApdu)
  deriving DecidableEq, Repr

def decodeAcseApdu (input : Bytes) : Except ApduStatus AcseApdu :=
  match input with
  | [] => .error .needMoreData
  | tag :: _ =>
      if tag = aarqTag then .aarq <$> decodeAarq input
      else if tag = aareTag then .aare <$> decodeAare input
      else if tag = rlrqTag then .rlrq <$> decodeRlrq input
      else if tag = rlreTag then .rlre <$> decodeRlre input
      else .error .invalidTag

/-- Octets of the buffer an APDU is encoded in. -/
def apduBufferSize : Nat := 2048

def encodeAcseApdu (input : AcseApdu) : Except ApduStatus Bytes := do
  let writer ← match input with
    | .aarq aarq => encodeAarq aarq
    | .aare aare => encodeAare aare
    | .rlrq rlrq => encodeRlrq rlrq
    | .rlre rlre => encodeRlre rlre
  runEmitter apduBufferSize writer

end Apdu

end Dlms
