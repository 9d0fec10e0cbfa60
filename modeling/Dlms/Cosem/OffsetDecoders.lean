import Dlms.Cosem.AssociationCodecs
import Dlms.Cosem.Certificates
import Dlms.Cosem.Cursor
import Dlms.Cosem.ScriptTable
import Dlms.Cosem.SecuritySetup

/-!
# The decoders at an offset

The decoders of the attributes and of the methods as programs over the helpers, each with the
checks that it makes itself. One that gives no vector and no string room is a decoder of both
kinds, and the type of the others says that they ask for it.

The transfer of keys makes one check for several octets, and what it does with a wrapped key is up
to its caller. A name in the list of the service access points is the one place where the end is
added up.

## Main definitions

* `AtOffset.skipDlmsData`: The way over an item.
* `AtOffset.decodeCaptureObjectsAt`, `AtOffset.readProfileBuffer`, `AtOffset.readRangeDescriptor`,
  `AtOffset.readScripts`, `AtOffset.readSapAssignments`, `AtOffset.decodeApn`: Attributes.
* `AtOffset.readCertificateSelector`, `AtOffset.transferredKeys`: Methods.
-/

namespace Dlms

namespace Cosem

open Codec
open Apdu (Bytes LogicalName)

namespace AtOffset

variable {asks : Bool}

/-! ### Helpers -/

def refuse {α : Type} : Decoder asks α := .call .refuse fun none => nomatch none

def readByte : Decoder asks UInt8 := .perform .readByte

def readAxdrLength : Decoder asks UInt64 := .perform .readAxdrLength

def readFixedBytes (size : UInt64) : Decoder asks Bytes := .perform (.readFixedBytes size)

def skip (size : UInt64) : Decoder asks Unit := .perform (.skip size)

def readExpectedTag (expectedTag : UInt8) : Decoder asks Unit := do
  let tag ← readByte
  if tag = expectedTag then pure () else refuse

def readLongUnsignedValue : Decoder asks UInt16 := do
  readExpectedTag longUnsignedTag
  let octets ← readFixedBytes 2
  pure (UInt16.ofNat (beValue octets))

def readTagged (tag : UInt8) : Decoder asks UInt8 := do
  readExpectedTag tag
  readByte

def readSizedOctetString (size : Nat) : Decoder asks Bytes := do
  readExpectedTag dataOctetStringTag
  let length ← readAxdrLength
  if length.toNat ≠ size then refuse else readFixedBytes length

def readLogicalNameValue : Decoder asks LogicalName := do
  let data ← readSizedOctetString logicalNameSize
  match data with
  | [a, b, c, d, e, f] => pure ⟨a, b, c, d, e, f⟩
  | _ => refuse

def readBufferOctetString : Decoder asks Bytes := do
  readExpectedTag dataOctetStringTag
  let length ← readAxdrLength
  readFixedBytes length

def readStructureHeader (fields : Nat) : Decoder asks Unit := do
  readExpectedTag structureTag
  let fieldCount ← readAxdrLength
  if fieldCount.toNat = fields then pure () else refuse

/-- The room for the elements, and the elements. -/
def readArray {α : Type} (elementSize : Nat) (element : Decoder true α) :
    Decoder true (List α) := do
  readExpectedTag arrayTag
  let count ← readAxdrLength
  Program.perform (Helper.reserve rfl elementSize count)
  Program.repeatP element count.toNat

/-- A decoder leaves nothing of its input. -/
def readPayload {α : Type} (decoder : Decoder asks α) : Decoder asks α := do
  let value ← decoder
  let ended ← Program.perform Helper.atEnd
  if ended then pure value else refuse

/-! ### Items -/

def skipDlmsDataItems (item : Decoder asks Unit) (count : Nat) : Decoder asks Unit := do
  let _ ← Program.repeatP item count
  pure ()

def skipDlmsData : Nat → Decoder asks Unit
  | 0 => refuse
  | levels + 1 => do
      let tag ← readByte
      match tag.toNat with
      | 0x00 => pure ()
      | 0x01 | 0x02 => do
          let count ← readAxdrLength
          skipDlmsDataItems (skipDlmsData levels) count.toNat
      | 0x03 | 0x0F | 0x11 | 0x16 => skip 1
      | 0x10 | 0x12 => skip 2
      | 0x05 | 0x06 => skip 4
      | 0x14 | 0x15 => skip 8
      -- The sizes of a date and time, of a date and of a time.
      | 0x19 => skip 12
      | 0x1A => skip 5
      | 0x1B => skip 4
      | 0x09 => do
          let length ← readAxdrLength
          skip length
      | _ => refuse

/-- The octets of one item. -/
def skippedData : Decoder asks Bytes := do
  Program.perform Helper.mark
  skipDlmsData (maxProfileGenericDecodeDepth + 1)
  Program.perform Helper.sinceMark

def skipProfileGenericRangeValue : Decoder asks Unit := do
  let tag ← readByte
  match tag.toNat with
  | 0x05 | 0x06 | 0x17 => skip 4
  | 0x09 | 0x0A | 0x0C => do
      let length ← readAxdrLength
      skip length
  | 0x0F | 0x11 => skip 1
  | 0x10 | 0x12 => skip 2
  | 0x14 | 0x15 | 0x18 => skip 8
  | 0x19 => skip 12
  | 0x1A => skip 5
  | 0x1B => skip 4
  | _ => refuse

def rangeValue : Decoder asks Bytes := do
  Program.perform Helper.mark
  skipProfileGenericRangeValue
  Program.perform Helper.sinceMark

/-! ### Attributes -/

def decodeCaptureObjectAt : Decoder asks CosemCaptureObject := do
  readStructureHeader 4
  let classId ← readLongUnsignedValue
  let logicalName ← readLogicalNameValue
  let attributeId ← readTagged integerTag
  let dataIndex ← readLongUnsignedValue
  pure ⟨⟨classId, 0, logicalName⟩, attributeId, dataIndex⟩

def decodeCaptureObjectsAt : Decoder true (List CosemCaptureObject) :=
  readArray captureObjectSize decodeCaptureObjectAt

/-- The tag of a row is looked at before the way over it. -/
def readProfileRow : Decoder asks Bytes := do
  let first ← Program.perform Helper.peek
  if first = structureTag then skippedData else refuse

def readProfileBuffer : Decoder true (List Bytes) := readArray byteBufferSize readProfileRow

def readRangeDescriptor : Decoder true CosemProfileGenericRangeDescriptor := do
  readStructureHeader 4
  let restrictingObject ← decodeCaptureObjectAt
  let fromValue ← rangeValue
  let toValue ← rangeValue
  let selectedValues ← decodeCaptureObjectsAt
  pure ⟨restrictingObject, fromValue, toValue, selectedValues⟩

/-- The selectors of an attribute are gone over. -/
def skipAssociationAccessSelectors : Decoder asks Unit := do
  let none ← Program.perform (Helper.skipTag nullDataTag)
  -- Null data stands for no selectors.
  if none then pure ()
  else do
    readExpectedTag arrayTag
    let count ← readAxdrLength
    let _ ← Program.repeatP (readTagged integerTag) count.toNat
    pure ()

def readParameter : Decoder asks Bytes := do
  let item ← skippedData
  pure (if item.head? = some nullDataTag then [] else item)

def decodeActionSpecification : Decoder asks ActionSpecification := do
  readStructureHeader 5
  let serviceIdRaw ← readTagged enumTag
  match ScriptServiceId.ofCode serviceIdRaw with
  | none => refuse
  | some serviceId => do
      let classId ← readLongUnsignedValue
      let logicalName ← readLogicalNameValue
      let indexRaw ← readTagged integerTag
      let parameter ← readParameter
      let decoded : ActionSpecification :=
        { serviceId, classId, logicalName, index := indexRaw.toInt8, parameter }
      if decoded.isValid then pure decoded else refuse

def decodeScript : Decoder true ScriptEntry := do
  readStructureHeader 2
  let identifier ← readLongUnsignedValue
  let actions ← readArray actionSpecificationSize decodeActionSpecification
  let entry := ScriptEntry.create identifier actions
  -- Creating the entry drops the actions that are not valid.
  if entry.actions.length ≠ actions.length then refuse else pure entry

def readScripts : Decoder true (List ScriptEntry) := readArray scriptEntrySize decodeScript

/-- The name is checked by its end. -/
def readSapAssignment : Decoder true SapAssignment := do
  readStructureHeader 2
  let sap ← readLongUnsignedValue
  readExpectedTag dataOctetStringTag
  let length ← readAxdrLength
  let logicalDeviceName ← Program.perform (Helper.assignName rfl length)
  pure { sap, logicalDeviceName }

def readSapAssignments : Decoder true (List SapAssignment) :=
  readArray sapAssignmentSize readSapAssignment

/-- An octet string that is all there is. -/
def decodeApn : Decoder asks Bytes := do
  readExpectedTag dataOctetStringTag
  let length ← readAxdrLength
  Program.perform (Helper.takeRest length)

/-! ### Methods -/

def readSelectorPayload (kind : UInt8) (selectorFields : Nat) : Decoder asks CertificateSelector :=
  if kind = 0 then
    -- The entity, the type and the system title.
    if selectorFields ≠ 3 then refuse
    else do
      let entity ← readTagged enumTag
      let type ← readTagged enumTag
      let systemTitle ← readSizedOctetString systemTitleSize
      pure (.byEntity entity type systemTitle)
  else if kind = 1 then
    -- The serial number and the issuer.
    if selectorFields ≠ 2 then refuse
    else do
      let serialNumber ← readBufferOctetString
      let issuer ← readBufferOctetString
      pure (.bySerial serialNumber issuer)
  else refuse

def readCertificateSelector : Decoder asks CertificateSelector := do
  readStructureHeader 2
  let kind ← readTagged enumTag
  readExpectedTag structureTag
  let selectorFields ← readAxdrLength
  readSelectorPayload kind selectorFields.toNat

/-- One key of a transfer. The checks for the octets in front of it are made for several octets
    at once, and what a wrapped key is worth is up to the caller. -/
def readTransferredKey {κ : Type} (unwrap : Security.SecurityKeyRole → Bytes → Option κ) :
    Decoder asks κ := do
  let tag ← Program.perform (Helper.readByteBefore 5)
  if tag ≠ structureTag then refuse
  else do
    let fieldCount ← readAxdrLength
    if fieldCount.toNat ≠ 2 then refuse
    else do
      let keyId ← Program.perform (Helper.readTaggedByte enumTag)
      match mapSecuritySetupKeyId keyId with
      | none => refuse
      | some role => do
          let wrapped ← readSizedOctetString suite0WrappedKeySize
          match unwrap role wrapped with
          | none => refuse
          | some key => pure key

def transferredKeys {κ : Type} (unwrap : Security.SecurityKeyRole → Bytes → Option κ) :
    Decoder asks (List κ) := do
  let tag ← Program.perform (Helper.readByteBefore 1)
  if tag ≠ arrayTag then refuse
  else do
    let count ← readAxdrLength
    Program.repeatP (readTransferredKey unwrap) count.toNat

end AtOffset

end Cosem

end Dlms
