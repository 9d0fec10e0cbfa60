import Dlms.Apdu.Acse
import Dlms.Apdu.Get
import Dlms.Apdu.Set
import Dlms.Apdu.Action

/-!
# xDLMS APDUs

Any APDU of the application layer, chosen by its first byte.

The source keeps, next to the general record of each service, one for its
normal variant, filled from the general one on decoding and consulted on
encoding only when the general one has no valid choice. The two describe one
value and the two encoders write the same bytes for it, so there is one
constructor for each service here.

Every encoding goes through a buffer of `apduBufferSize` bytes, whatever PDU
size the peers negotiated.

## Main definitions

* `XdlmsApdu`: An APDU of the application layer.
* `decodeXdlmsApdu`, `encodeXdlmsApdu`: Its codec.

## Theorems

* `encodeXdlmsApdu_getRequest` and the same for the other services: An APDU
  is encoded exactly when it fits in the buffer.
* `decodeXdlmsApdu_getRequest` and the same for the others: Decoding goes by
  the first byte.
-/

namespace Dlms

namespace Apdu

open Codec

inductive CipheredApduKind where
  | serviceSpecific
  | generalGloCiphering
  | generalDedCiphering
  | generalCiphering
  deriving DecidableEq, Repr

structure CipheredApdu where
  kind : CipheredApduKind
  tag : UInt8
  payload : Bytes
  deriving DecidableEq, Repr

/-- Any APDU of the xDLMS codec. -/
inductive XdlmsApdu where
  | initiateRequest (apdu : InitiateRequest)
  | initiateResponse (apdu : InitiateResponse)
  | getRequest (apdu : GetRequest)
  | getResponse (apdu : GetResponse)
  | setRequest (apdu : SetRequest)
  | setResponse (apdu : SetResponse)
  | actionRequest (apdu : ActionRequest)
  | actionResponse (apdu : ActionResponse)
  | ciphered (apdu : CipheredApdu)

/-- The service-specific tags with global and with dedicated ciphering. -/
def serviceSpecificCipheredTags : List UInt8 :=
  [0xC8, 0xC9, 0xCA, 0xCB, 0xCC, 0xCD, 0xCF, 0xD0, 0xD1, 0xD2, 0xD3, 0xD4, 0xD5, 0xD7]

def generalGloCipheringTag : UInt8 := 0xDB

def generalDedCipheringTag : UInt8 := 0xDC

def generalCipheringTag : UInt8 := 0xDD

def isCipheredTag (tag : UInt8) : Bool :=
  serviceSpecificCipheredTags.contains tag || tag == generalGloCipheringTag ||
    tag == generalDedCipheringTag || tag == generalCipheringTag

def cipheredKindFromTag (tag : UInt8) : CipheredApduKind :=
  if tag = generalGloCipheringTag then .generalGloCiphering
  else if tag = generalDedCipheringTag then .generalDedCiphering
  else if tag = generalCipheringTag then .generalCiphering
  else .serviceSpecific

/-- How deep the data of a service APDU may nest. -/
def maximumDataDepth : Nat := 8

def decodeXdlmsApdu (input : Bytes) : Except ApduStatus XdlmsApdu :=
  match input with
  | [] => .error .needMoreData
  | tag :: payload =>
      if tag = initiateRequestTag then .initiateRequest <$> decodeInitiateRequest input
      else if tag = initiateResponseTag then .initiateResponse <$> decodeInitiateResponse input
      else if tag = getRequestTag then .getRequest <$> decodeGetRequest input maximumDataDepth
      else if tag = getResponseTag then .getResponse <$> decodeGetResponse input maximumDataDepth
      else if tag = setRequestTag then .setRequest <$> decodeSetRequest input maximumDataDepth
      else if tag = setResponseTag then .setResponse <$> decodeSetResponse input
      else if tag = actionRequestTag then
        .actionRequest <$> decodeActionRequest input maximumDataDepth
      else if tag = actionResponseTag then
        .actionResponse <$> decodeActionResponse input maximumDataDepth
      else if isCipheredTag tag then
        .ok (.ciphered { kind := cipheredKindFromTag tag, tag, payload })
      else .error .unsupportedXdlmsService

def encodeXdlmsApdu (input : XdlmsApdu) : Except ApduStatus Bytes :=
  runEmitter apduBufferSize <|
    match input with
    | .initiateRequest apdu => encodeInitiateRequest apdu
    | .initiateResponse apdu => encodeInitiateResponse apdu
    | .getRequest apdu => encodeGetRequest apdu
    | .getResponse apdu => encodeGetResponse apdu
    | .setRequest apdu => encodeSetRequest apdu
    | .setResponse apdu => encodeSetResponse apdu
    | .actionRequest apdu => encodeActionRequest apdu
    | .actionResponse apdu => encodeActionResponse apdu
    | .ciphered apdu =>
        if !isCipheredTag apdu.tag then
          Emitter.fail .unsupportedXdlmsService
        else do
          writeU8 apdu.tag
          writeBytes apdu.payload

/-! ### Encoding by size -/

/-- What the codec's buffer does to an encoding: it passes unchanged or not at
    all. -/
def bounded (bytes : Bytes) : Except ApduStatus Bytes :=
  if bytes.length ≤ apduBufferSize then .ok bytes else .error .outputBufferTooSmall

theorem bounded_of_le (bytes : Bytes) (h : bytes.length ≤ apduBufferSize) :
    bounded bytes = .ok bytes :=
  if_pos h

theorem bounded_of_lt (bytes : Bytes) (h : apduBufferSize < bytes.length) :
    bounded bytes = .error .outputBufferTooSmall :=
  if_neg (by omega)

theorem encodeXdlmsApdu_getRequest (apdu : GetRequest) (bytes : Bytes)
    (h : Writes (encodeGetRequest apdu) bytes) :
    encodeXdlmsApdu (.getRequest apdu) = bounded bytes :=
  runEmitter_of_emits _ _ _ _ h

theorem encodeXdlmsApdu_getResponse (apdu : GetResponse) (bytes : Bytes)
    (h : Writes (encodeGetResponse apdu) bytes) :
    encodeXdlmsApdu (.getResponse apdu) = bounded bytes :=
  runEmitter_of_emits _ _ _ _ h

theorem encodeXdlmsApdu_setRequest (apdu : SetRequest) (bytes : Bytes)
    (h : Writes (encodeSetRequest apdu) bytes) :
    encodeXdlmsApdu (.setRequest apdu) = bounded bytes :=
  runEmitter_of_emits _ _ _ _ h

theorem encodeXdlmsApdu_setResponse (apdu : SetResponse) (bytes : Bytes)
    (h : Writes (encodeSetResponse apdu) bytes) :
    encodeXdlmsApdu (.setResponse apdu) = bounded bytes :=
  runEmitter_of_emits _ _ _ _ h

theorem encodeXdlmsApdu_actionRequest (apdu : ActionRequest) (bytes : Bytes)
    (h : Writes (encodeActionRequest apdu) bytes) :
    encodeXdlmsApdu (.actionRequest apdu) = bounded bytes :=
  runEmitter_of_emits _ _ _ _ h

theorem encodeXdlmsApdu_actionResponse (apdu : ActionResponse) (bytes : Bytes)
    (h : Writes (encodeActionResponse apdu) bytes) :
    encodeXdlmsApdu (.actionResponse apdu) = bounded bytes :=
  runEmitter_of_emits _ _ _ _ h

/-! ### Decoding by the first byte -/

section Decode

variable (choice iip : UInt8) (body : Bytes)

theorem decodeXdlmsApdu_getRequest :
    decodeXdlmsApdu (serviceApduBytes getRequestTag choice iip body) =
      .getRequest <$> decodeGetRequest (serviceApduBytes getRequestTag choice iip body)
        maximumDataDepth :=
  rfl

theorem decodeXdlmsApdu_getResponse :
    decodeXdlmsApdu (serviceApduBytes getResponseTag choice iip body) =
      .getResponse <$> decodeGetResponse (serviceApduBytes getResponseTag choice iip body)
        maximumDataDepth :=
  rfl

theorem decodeXdlmsApdu_setRequest :
    decodeXdlmsApdu (serviceApduBytes setRequestTag choice iip body) =
      .setRequest <$> decodeSetRequest (serviceApduBytes setRequestTag choice iip body)
        maximumDataDepth :=
  rfl

theorem decodeXdlmsApdu_setResponse :
    decodeXdlmsApdu (serviceApduBytes setResponseTag choice iip body) =
      .setResponse <$> decodeSetResponse (serviceApduBytes setResponseTag choice iip body) :=
  rfl

theorem decodeXdlmsApdu_actionRequest :
    decodeXdlmsApdu (serviceApduBytes actionRequestTag choice iip body) =
      .actionRequest <$> decodeActionRequest (serviceApduBytes actionRequestTag choice iip body)
        maximumDataDepth :=
  rfl

theorem decodeXdlmsApdu_actionResponse :
    decodeXdlmsApdu (serviceApduBytes actionResponseTag choice iip body) =
      .actionResponse <$> decodeActionResponse
        (serviceApduBytes actionResponseTag choice iip body) maximumDataDepth :=
  rfl

end Decode

end Apdu

end Dlms
