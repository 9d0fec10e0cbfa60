import Dlms.Apdu.Axdr

/-!
# Initiate request and response

The two APDUs that travel inside an association request and its answer and
negotiate the protocol version, the conformance block and the PDU sizes.

Optional fields of the source are a presence flag and a slot; here they are
options. A response that is allowed is the default and is left out on the
wire, so its field is a flag followed by a boolean only when it is false.

## Main definitions

* `InitiateRequest`, `InitiateResponse`: The APDUs.
* `decodeInitiateRequest`, `encodeInitiateRequest`, `decodeInitiateResponse`,
  `encodeInitiateResponse`: Their codecs.
* `makeDefaultInitiateRequest`: What a client proposes unless told otherwise.
-/

namespace Dlms

namespace Apdu

open Codec

/-- The conformance bits, three bytes. -/
structure AxdrConformance where
  byte0 : UInt8
  byte1 : UInt8
  byte2 : UInt8
  deriving DecidableEq, Repr

structure InitiateRequest where
  dedicatedKey : Option Bytes
  responseAllowed : Bool
  proposedQualityOfService : Option UInt8
  proposedDlmsVersionNumber : UInt8
  proposedConformance : AxdrConformance
  clientMaxReceivePduSize : UInt16
  deriving DecidableEq, Repr

structure InitiateResponse where
  negotiatedQualityOfService : Option UInt8
  negotiatedDlmsVersionNumber : UInt8
  negotiatedConformance : AxdrConformance
  serverMaxReceivePduSize : UInt16
  vaaName : UInt16
  deriving DecidableEq, Repr

def makeDefaultInitiateRequest : InitiateRequest where
  dedicatedKey := none
  responseAllowed := true
  proposedQualityOfService := none
  proposedDlmsVersionNumber := 6
  proposedConformance := ⟨0x00, 0x7e, 0x1f⟩
  clientMaxReceivePduSize := 0x0200

def readAxdrConformance : Reader AxdrConformance := do
  let tag0 ← readU8
  let tag1 ← readU8
  let length ← readU8
  let unusedBits ← readU8
  if tag0 ≠ 0x5f ∨ tag1 ≠ 0x1f ∨ length ≠ 0x04 ∨ unusedBits ≠ 0x00 then
    Parser.fail .invalidConformance
  else do
    let byte0 ← readU8
    let byte1 ← readU8
    let byte2 ← readU8
    pure ⟨byte0, byte1, byte2⟩

def writeAxdrConformance (value : AxdrConformance) : Writer :=
  writeBytes [0x5f, 0x1f, 0x04, 0x00, value.byte0, value.byte1, value.byte2]

/-- An optional field: a flag, and the field when the flag is set. -/
def readOptional {α : Type} (field : Reader α) : Reader (Option α) := do
  let present ← readAxdrOptionalFlag
  if present then some <$> field else pure none

def writeOptional {α : Type} (field : α → Writer) (value : Option α) : Writer :=
  match value with
  | none => writeAxdrOptionalFlag false
  | some a => do
      writeAxdrOptionalFlag true
      field a

/-- The signed byte of the source is kept as the byte on the wire. -/
def readOptionalInteger8 : Reader (Option UInt8) := readOptional readU8

def writeOptionalInteger8 (value : Option UInt8) : Writer := writeOptional writeU8 value

def initiateRequestTag : UInt8 := 0x01

def initiateResponseTag : UInt8 := 0x08

def decodeInitiateRequestReader : Reader InitiateRequest := do
  let tag ← readU8
  if tag ≠ initiateRequestTag then
    Parser.fail .invalidTag
  else do
    let dedicatedKey ← readOptional readAxdrOctetString
    let responseAllowed ← readOptional readAxdrBoolean
    let proposedQualityOfService ← readOptionalInteger8
    let proposedDlmsVersionNumber ← readU8
    let proposedConformance ← readAxdrConformance
    let clientMaxReceivePduSize ← readU16
    requireNoTrailingBytes
    pure { dedicatedKey, responseAllowed := responseAllowed.getD true, proposedQualityOfService,
           proposedDlmsVersionNumber, proposedConformance, clientMaxReceivePduSize }

def decodeInitiateRequest (input : Bytes) : Except ApduStatus InitiateRequest :=
  runParser decodeInitiateRequestReader input

def encodeInitiateRequest (input : InitiateRequest) : Writer := do
  writeU8 initiateRequestTag
  writeOptional writeAxdrOctetString input.dedicatedKey
  writeOptional writeAxdrBoolean (if input.responseAllowed then none else some false)
  writeOptionalInteger8 input.proposedQualityOfService
  writeU8 input.proposedDlmsVersionNumber
  writeAxdrConformance input.proposedConformance
  writeU16 input.clientMaxReceivePduSize

def decodeInitiateResponseReader : Reader InitiateResponse := do
  let tag ← readU8
  if tag ≠ initiateResponseTag then
    Parser.fail .invalidTag
  else do
    let negotiatedQualityOfService ← readOptionalInteger8
    let negotiatedDlmsVersionNumber ← readU8
    let negotiatedConformance ← readAxdrConformance
    let serverMaxReceivePduSize ← readU16
    let vaaName ← readU16
    requireNoTrailingBytes
    pure { negotiatedQualityOfService, negotiatedDlmsVersionNumber, negotiatedConformance,
           serverMaxReceivePduSize, vaaName }

def decodeInitiateResponse (input : Bytes) : Except ApduStatus InitiateResponse :=
  runParser decodeInitiateResponseReader input

def encodeInitiateResponse (input : InitiateResponse) : Writer := do
  writeU8 initiateResponseTag
  writeOptionalInteger8 input.negotiatedQualityOfService
  writeU8 input.negotiatedDlmsVersionNumber
  writeAxdrConformance input.negotiatedConformance
  writeU16 input.serverMaxReceivePduSize
  writeU16 input.vaaName

end Apdu

end Dlms
