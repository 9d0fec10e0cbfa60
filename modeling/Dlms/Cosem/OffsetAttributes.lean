import Dlms.Cosem.ActivityCalendar
import Dlms.Cosem.CursorRefines
import Dlms.Cosem.OffsetDecoders
import Dlms.Cosem.RegisterMonitor

/-!
# Every way in

The other decoders of the simple objects at an offset, and the list of all of them: what takes
octets when an attribute is written, when a method is called, and in the codecs. Each is a program
over the helpers, so each stays inside of its input exactly when the helpers that it gets to let no
exception through.

An attribute that is one octet string has the same decoder wherever it is, and so has a certificate
that is imported.

## Main definitions

* `AtOffset.decodeScheduleTableEntry`, `AtOffset.decodeDayProfile` and the others: The decoders.
* `Entry`, `Entry.decoder`: The ways in, and what each of them runs.

## Theorems

* `staysInside_iff`: When the octets that come in that way are read inside of what there is.
-/

namespace Dlms

namespace Cosem

open Codec
open Apdu (Bytes LogicalName)

/-! ### Values -/

structure Date where
  year : UInt16
  month : UInt8
  dayOfMonth : UInt8
  dayOfWeek : UInt8
  validMonth : isValidMonth month = true
  validDayOfMonth : isValidDayOfMonth dayOfMonth = true
  validDayOfWeek : isValidDayOfWeek dayOfWeek = true

namespace Date

def wireSize : Nat := 5

def tryFromBytes (data : Bytes) : Option Date :=
  match data with
  | [year1, year0, month, dayOfMonth, dayOfWeek] =>
      if h : isValidMonth month = true ∧ isValidDayOfMonth dayOfMonth = true ∧
          isValidDayOfWeek dayOfWeek = true then
        some ⟨UInt16.ofNat (beValue [year1, year0]), month, dayOfMonth, dayOfWeek, h.1, h.2.1,
          h.2.2⟩
      else none
  | _ => none

end Date

/-- An entry of a schedule. The days of the week are seven bits. -/
structure ScheduleTableEntry where
  index : UInt16
  enable : Bool
  script : Script
  switchTime : Time
  validityWindow : UInt16
  execWeekdays : UInt8
  execSpecdays : UInt64
  beginDate : Date
  endDate : Date

structure SpecialDayEntry where
  index : UInt16
  date : Date
  dayId : UInt8

structure QosElement where
  precedence : UInt8
  delay : UInt8
  reliability : UInt8
  peakThroughput : UInt8
  meanThroughput : UInt8

/-! ### Sizes -/

/-- The octets of an element in its vector: a time and a date, and so on. -/
def executionTimeSize : Nat := 10

def scheduleTableEntrySize : Nat := 48

def actionSetSize : Nat := 16

def monitoredValueSize : Nat := 10

def specialDayEntrySize : Nat := 10

/-- A window of calls is two date-times. -/
def windowEntrySize : Nat := 28

def allowedCallerSize : Nat := 32

def booleanTag : UInt8 := 0x03

def bitStringTag : UInt8 := 0x04

namespace AtOffset

variable {asks : Bool}

/-! ### Simple values -/

/-- What the octets may not be worth anything as. -/
def given {α : Type} : Option α → Decoder asks α
  | none => refuse
  | some value => pure value

def readBooleanValue : Decoder asks Bool := do
  let raw ← readTagged booleanTag
  pure (raw != 0)

def readDoubleLongUnsignedValue : Decoder asks UInt32 := do
  readExpectedTag doubleLongUnsignedTag
  let octets ← readFixedBytes 4
  pure (UInt32.ofNat (beValue octets))

def readTime : Decoder asks Time := do
  let timeData ← readSizedOctetString Time.wireSize
  given (Time.tryFromBytes timeData)

def readDate : Decoder asks Date := do
  let dateData ← readSizedOctetString Date.wireSize
  given (Date.tryFromBytes dateData)

def readStreamingDateTime : Decoder asks DateTime := do
  let data ← readSizedOctetString DateTime.wireSize
  given (DateTime.tryFromBytes data)

/-- The first bit is the highest one of the first octet. -/
def bitsMsbFirst (data : Bytes) (bitLength : Nat) : UInt64 :=
  (List.range bitLength).foldl (fun bits i =>
    if data.getD (i / 8) 0 &&& (0x80 >>> UInt8.ofNat (i % 8)) ≠ 0 then
      bits ||| (1 <<< UInt64.ofNat i)
    else bits) 0

/-- A string of fewer bits is taken, and one of more is refused before its octets are counted. -/
def readBitStringMsbFirst (expectedBitWidth : UInt8) : Decoder asks UInt64 := do
  readExpectedTag bitStringTag
  let bitLength ← readAxdrLength
  if bitLength > expectedBitWidth.toUInt64 then refuse
  else do
    let data ← readFixedBytes ((bitLength + 7) / 8)
    pure (bitsMsbFirst data bitLength.toNat)

/-! ### Associations -/

def readAttributeAccessEntry : Decoder asks (UInt8 × AttributeAccessMode) := do
  readStructureHeader 3
  let attributeId ← readTagged integerTag
  let modeValue ← readTagged enumTag
  let mode ← given ([.noAccess, .readOnly, .writeOnly, .readAndWrite, .authenticatedReadOnly,
    .authenticatedWriteOnly, .authenticatedReadAndWrite][modeValue.toNat]?)
  skipAssociationAccessSelectors
  pure (attributeId, mode)

def readMethodAccessEntry : Decoder asks (UInt8 × MethodAccessMode) := do
  readStructureHeader 2
  let methodId ← readTagged integerTag
  let modeValue ← readTagged enumTag
  let mode ← given ([.noAccess, .access, .authenticatedAccess][modeValue.toNat]?)
  pure (methodId, mode)

/-- The entries go into a map, which is given no room. -/
def readEntries {α : Type} (entry : Decoder asks α) : Decoder asks (List α) := do
  readExpectedTag arrayTag
  let count ← readAxdrLength
  Program.repeatP entry count.toNat

def decodeAccessRightsAt : Decoder asks StoredAccessRights := do
  readStructureHeader 2
  let attributes ← readEntries readAttributeAccessEntry
  let methods ← readEntries readMethodAccessEntry
  pure (methods.foldl StoredAccessRights.setMethodAccess
    (attributes.foldl StoredAccessRights.setAttributeAccess noEntries))

def decodeObjectListElementAt : Decoder asks AssociationViewObject := do
  readStructureHeader 4
  let classId ← readLongUnsignedValue
  let version ← readTagged unsignedTag
  let logicalName ← readLogicalNameValue
  let accessRights ← decodeAccessRightsAt
  pure ⟨⟨classId, version, logicalName⟩, accessRights⟩

def readEntryDescriptor : Decoder asks CosemProfileGenericEntryDescriptor := do
  readStructureHeader 4
  let fromEntry ← readDoubleLongUnsignedValue
  let toEntry ← readDoubleLongUnsignedValue
  let fromSelectedValue ← readLongUnsignedValue
  let toSelectedValue ← readLongUnsignedValue
  pure ⟨fromEntry, toEntry, fromSelectedValue, toSelectedValue⟩

/-! ### Scripts, schedules and special days -/

/-- The script of a single action, and the item of an action set. -/
def decodeActionItem : Decoder asks Script := do
  readStructureHeader 2
  let logicalName ← readLogicalNameValue
  let selector ← readLongUnsignedValue
  pure { logicalName, selector }

def decodeActionSet : Decoder asks ActionSet := do
  readStructureHeader 2
  let actionUp ← decodeActionItem
  let actionDown ← decodeActionItem
  pure { actionUp, actionDown }

def readExecutionTime : Decoder asks (Time × Date) := do
  readStructureHeader 2
  let time ← readTime
  let date ← readDate
  pure (time, date)

def decodeScheduleTableEntry : Decoder asks ScheduleTableEntry := do
  readStructureHeader 10
  let index ← readLongUnsignedValue
  let enable ← readBooleanValue
  let logicalName ← readLogicalNameValue
  let selector ← readLongUnsignedValue
  let switchTime ← readTime
  let validityWindow ← readLongUnsignedValue
  let weekdaysBits ← readBitStringMsbFirst 7
  if weekdaysBits > 0x7F then refuse
  else do
    let execSpecdays ← readBitStringMsbFirst 64
    let beginDate ← readDate
    let endDate ← readDate
    -- The check of the whole entry is of these seven bits again.
    let execWeekdays := (weekdaysBits &&& 0x7F).toUInt8
    pure { index, enable, script := { logicalName, selector }, switchTime, validityWindow,
           execWeekdays, execSpecdays, beginDate, endDate }

/-- The ranges of a schedule: for two of them to disable and to enable, and one to delete. -/
def readIndices (fields : Nat) : Decoder asks (List UInt16) := do
  readStructureHeader fields
  Program.repeatP readLongUnsignedValue fields

def readSpecialDayEntry : Decoder asks SpecialDayEntry := do
  readStructureHeader 3
  let index ← readLongUnsignedValue
  let date ← readDate
  let dayId ← readTagged unsignedTag
  pure { index, date, dayId }

/-! ### Registers and monitors -/

def decodeScalerUnit : Decoder asks (Int8 × UInt8) := do
  readStructureHeader 2
  let scalerRaw ← readTagged integerTag
  let unitRaw ← readTagged enumTag
  pure (scalerRaw.toInt8, unitRaw)

def decodeMonitoredValue : Decoder asks MonitoredValue := do
  readStructureHeader 3
  let classId ← readLongUnsignedValue
  let logicalName ← readLogicalNameValue
  let attributeRaw ← readTagged integerTag
  if h : 1 ≤ attributeRaw.toInt8 then
    pure { classId, logicalName, attributeIndex := attributeRaw.toInt8, valid := h }
  else refuse

def readThreshold : Decoder asks Bytes := do
  let item ← skippedData
  if item.isEmpty then refuse else pure item

/-! ### Calendars -/

def decodeDayProfileAction : Decoder asks DayProfileAction := do
  readStructureHeader 3
  let startTime ← readTime
  let scriptLogicalName ← readLogicalNameValue
  let scriptSelector ← readLongUnsignedValue
  let action : DayProfileAction := { startTime, scriptLogicalName, scriptSelector }
  if action.isValid then pure action else refuse

def decodeDayProfile : Decoder true DayProfile := do
  readStructureHeader 2
  let dayId ← readTagged unsignedTag
  let schedule ← readArray dayProfileActionSize decodeDayProfileAction
  given ((DayProfile.create dayId []).setDaySchedule schedule)

def decodeWeekProfile : Decoder asks WeekProfile := do
  readStructureHeader 8
  let name ← readBufferOctetString
  let days ← Program.repeatP (readTagged unsignedTag) 7
  match days with
  | [monday, tuesday, wednesday, thursday, friday, saturday, sunday] =>
      pure { name, monday, tuesday, wednesday, thursday, friday, saturday, sunday }
  | _ => refuse

def decodeSeasonProfile : Decoder asks SeasonProfile := do
  readStructureHeader 3
  let name ← readBufferOctetString
  let start ← readStreamingDateTime
  let weekName ← readBufferOctetString
  pure { name, start, weekName }

/-! ### Calls -/

/-- The time in which calls are made, and that in which they are listened for. -/
def decodeWindowEntry : Decoder asks (DateTime × DateTime) := do
  readStructureHeader 2
  let start ← readStreamingDateTime
  let stop ← readStreamingDateTime
  pure (start, stop)

def decodeQosElement : Decoder asks QosElement := do
  readStructureHeader 5
  let precedence ← readTagged unsignedTag
  let delay ← readTagged unsignedTag
  let reliability ← readTagged unsignedTag
  let peakThroughput ← readTagged unsignedTag
  let meanThroughput ← readTagged unsignedTag
  pure { precedence, delay, reliability, peakThroughput, meanThroughput }

def decodeQualityOfService : Decoder asks (QosElement × QosElement) := do
  readStructureHeader 2
  let byDefault ← decodeQosElement
  let requested ← decodeQosElement
  pure (byDefault, requested)

def decodeNumberOfRings : Decoder asks (UInt8 × UInt8) := do
  readStructureHeader 2
  let inWindow ← readTagged unsignedTag
  let outOfWindow ← readTagged unsignedTag
  pure (inWindow, outOfWindow)

def readAllowedCaller : Decoder asks (Bytes × UInt8) := do
  readStructureHeader 2
  let callerId ← readBufferOctetString
  let callType ← readTagged enumTag
  pure (callerId, callType)

/-- The identifiers of the scripts are all different. -/
def decodeScripts : Decoder true (List ScriptEntry) := do
  let decoded ← readPayload readScripts
  if distinct ScriptEntry.identifier decoded then pure decoded else refuse

end AtOffset

/-! ### The ways in -/

/-- What takes octets. -/
inductive Entry where
  /-- The codecs of a profile and of its selective access. -/
  | captureObject | captureObjects | profileBuffer | rangeDescriptor | entryDescriptor
  /-- The codecs of an association. -/
  | accessRights | objectList
  /-- Attributes that are written. -/
  | exactOctetString (expectedSize : Nat) | octetString | dateTime | executedScript
  | executionTime | scheduleEntries | scalerUnit | actions | thresholds | monitoredValues | scripts
  | dayProfileTable | weekProfileTable | seasonProfile | specialDayEntries | callingWindow
  | destinationList | listeningWindow | qualityOfService | apn | numberOfRings | allowedCallers
  | sapAssignments
  /-- Methods of a schedule, of a table of special days and of a monitor of parameters. -/
  | scheduleEnableDisable | scheduleInsert | scheduleDelete | specialDayEntry | monitoredValue
  /-- Methods of a security setup. What a wrapped key is worth is up to the one that encrypts
      keys. -/
  | globalKeyTransfer (unwrap : Security.SecurityKeyRole → Bytes → Option Security.SecurityKey)
  | importCertificate | certificateSelector

/-- It gives a vector or a string room by what the input announces. -/
def Entry.asks : Entry → Bool
  | .captureObjects | .profileBuffer | .rangeDescriptor | .objectList | .executionTime
  | .scheduleEntries | .actions | .thresholds | .monitoredValues | .scripts | .dayProfileTable
  | .weekProfileTable | .seasonProfile | .specialDayEntries | .callingWindow | .destinationList
  | .listeningWindow | .allowedCallers | .sapAssignments => true
  | _ => false

/-- What is decoded, and how. -/
def Entry.decoder : ∀ entry : Entry, Σ α : Type, Decoder entry.asks α
  | .captureObject => ⟨_, AtOffset.readPayload AtOffset.decodeCaptureObjectAt⟩
  | .captureObjects => ⟨_, AtOffset.readPayload AtOffset.decodeCaptureObjectsAt⟩
  | .profileBuffer => ⟨_, AtOffset.readPayload AtOffset.readProfileBuffer⟩
  | .rangeDescriptor => ⟨_, AtOffset.readPayload AtOffset.readRangeDescriptor⟩
  | .entryDescriptor => ⟨_, AtOffset.readPayload AtOffset.readEntryDescriptor⟩
  | .accessRights => ⟨_, AtOffset.readPayload AtOffset.decodeAccessRightsAt⟩
  | .objectList => ⟨_, AtOffset.readPayload
      (AtOffset.readArray associationViewObjectSize AtOffset.decodeObjectListElementAt)⟩
  | .exactOctetString expectedSize =>
      ⟨_, AtOffset.readPayload (AtOffset.readSizedOctetString expectedSize)⟩
  | .octetString => ⟨_, AtOffset.readPayload AtOffset.readBufferOctetString⟩
  | .dateTime => ⟨_, AtOffset.readPayload AtOffset.readStreamingDateTime⟩
  | .executedScript => ⟨_, AtOffset.readPayload AtOffset.decodeActionItem⟩
  | .executionTime => ⟨_, AtOffset.readPayload
      (AtOffset.readArray executionTimeSize AtOffset.readExecutionTime)⟩
  | .scheduleEntries => ⟨_, AtOffset.readPayload
      (AtOffset.readArray scheduleTableEntrySize AtOffset.decodeScheduleTableEntry)⟩
  | .scalerUnit => ⟨_, AtOffset.readPayload AtOffset.decodeScalerUnit⟩
  | .actions => ⟨_, AtOffset.readPayload
      (AtOffset.readArray actionSetSize AtOffset.decodeActionSet)⟩
  | .thresholds => ⟨_, AtOffset.readPayload
      (AtOffset.readArray byteBufferSize AtOffset.readThreshold)⟩
  | .monitoredValues => ⟨_, AtOffset.readPayload
      (AtOffset.readArray monitoredValueSize AtOffset.decodeMonitoredValue)⟩
  | .scripts => ⟨_, AtOffset.decodeScripts⟩
  | .dayProfileTable => ⟨_, AtOffset.readPayload
      (AtOffset.readArray dayProfileSize AtOffset.decodeDayProfile)⟩
  | .weekProfileTable => ⟨_, AtOffset.readPayload
      (AtOffset.readArray weekProfileSize AtOffset.decodeWeekProfile)⟩
  | .seasonProfile => ⟨_, AtOffset.readPayload
      (AtOffset.readArray seasonProfileSize AtOffset.decodeSeasonProfile)⟩
  | .specialDayEntries => ⟨_, AtOffset.readPayload
      (AtOffset.readArray specialDayEntrySize AtOffset.readSpecialDayEntry)⟩
  | .callingWindow => ⟨_, AtOffset.readPayload
      (AtOffset.readArray windowEntrySize AtOffset.decodeWindowEntry)⟩
  | .destinationList => ⟨_, AtOffset.readPayload
      (AtOffset.readArray byteBufferSize AtOffset.readBufferOctetString)⟩
  | .listeningWindow => ⟨_, AtOffset.readPayload
      (AtOffset.readArray windowEntrySize AtOffset.decodeWindowEntry)⟩
  | .qualityOfService => ⟨_, AtOffset.readPayload AtOffset.decodeQualityOfService⟩
  | .apn => ⟨_, AtOffset.decodeApn⟩
  | .numberOfRings => ⟨_, AtOffset.readPayload AtOffset.decodeNumberOfRings⟩
  | .allowedCallers => ⟨_, AtOffset.readPayload
      (AtOffset.readArray allowedCallerSize AtOffset.readAllowedCaller)⟩
  | .sapAssignments => ⟨_, AtOffset.readPayload AtOffset.readSapAssignments⟩
  | .scheduleEnableDisable => ⟨_, AtOffset.readPayload (AtOffset.readIndices 4)⟩
  | .scheduleInsert => ⟨_, AtOffset.readPayload AtOffset.decodeScheduleTableEntry⟩
  | .scheduleDelete => ⟨_, AtOffset.readPayload (AtOffset.readIndices 2)⟩
  | .specialDayEntry => ⟨_, AtOffset.readPayload AtOffset.readSpecialDayEntry⟩
  | .monitoredValue => ⟨_, AtOffset.readPayload AtOffset.decodeMonitoredValue⟩
  | .globalKeyTransfer unwrap => ⟨_, AtOffset.readPayload (AtOffset.transferredKeys unwrap)⟩
  | .importCertificate => ⟨_, AtOffset.readPayload AtOffset.readBufferOctetString⟩
  | .certificateSelector => ⟨_, AtOffset.readPayload AtOffset.readCertificateSelector⟩

/-- What comes in stays inside of its input exactly when, behind fields that are what is read, the
    input announces no more elements than their vector can have and than the memory has room for,
    and no name so long that the sum for its end wraps around. -/
theorem staysInside_iff (entry : Entry) (memory : Nat) (input : ByteBuffer) :
    StaysInside memory entry.decoder.2 input ↔
      (∀ h elementSize count rest,
        GetsTo memory entry.decoder.2 input (.reserve h elementSize count) rest →
          count.toNat ≤ maximumCount elementSize ∧ elementSize * count.toNat ≤ memory) ∧
      ∀ h length rest, GetsTo memory entry.decoder.2 input (.assignName h length) rest →
        ¬WrapsAround input.octets.length length.toNat rest :=
  staysInside_iff_asked memory entry.decoder.2 input

end Cosem

end Dlms
