import Dlms.Cosem.CalendarTypes

/-!
# The activity calendar

A calendar has three tables that refer to one another: the seasons name weeks,
and the weeks name days. An object has two calendars, the active one, which
nothing changes, and the passive one, whose tables are written one at a time,
from octets or from typed values.

The constructor takes what it is given table by table, from the days up, and
leaves a table empty that is not valid or refers to rows that are not there. A
setter checks its table against the tables it refers to and against those that
refer to it.

The fields of the two calendars have the names of the source without the ending
that says which of them it is.

## Main definitions

* `isValidDayProfileTable`, `weekProfileTableSatisfies` and the other checks.
* `appendDayProfile`, `decodeDayProfile` and the other parts of the codec.
* `CosemActivityCalendarObject`: The object, with `create`, `readAttribute`,
  `writeAttribute` and the setters.
* `CalendarCall`, `CosemActivityCalendarObject.call`: Any call.
-/

namespace Dlms

namespace Cosem

open Codec
open Apdu (Bytes LogicalName)

/-! ### Codec -/

/-- What a row takes up in its vector. -/
def dayProfileActionSize : Nat := 12

def dayProfileSize : Nat := 32

def weekProfileSize : Nat := 32

def seasonProfileSize : Nat := 64

def appendDayProfileAction (action : DayProfileAction) : Bytes :=
  appendStructureHeader 3 ++ (appendOctetString action.startTime.toBytes ++
    (appendLogicalName action.scriptLogicalName ++ appendLongUnsigned action.scriptSelector))

def decodeDayProfileAction : DataReader DayProfileAction := do
  readStructureHeader 3
  let timeData ← readSizedOctetString Time.wireSize
  match Time.tryFromBytes timeData with
  | none => refuse
  | some startTime => do
      let scriptLogicalName ← readLogicalNameValue
      let scriptSelector ← readLongUnsignedValue
      let action : DayProfileAction := { startTime, scriptLogicalName, scriptSelector }
      if action.isValid then pure action else refuse

def appendDayProfile (profile : DayProfile) : Bytes :=
  appendStructureHeader 2 ++ (appendUnsigned profile.dayId ++
    appendArray appendDayProfileAction profile.daySchedule)

def decodeDayProfile : DataReader DayProfile := do
  readStructureHeader 2
  let dayId ← readUnsignedValue
  let schedule ← readArray dayProfileActionSize decodeDayProfileAction
  match (DayProfile.create dayId []).setDaySchedule schedule with
  | none => refuse
  | some profile => pure profile

def appendDayProfileTable (table : List DayProfile) : Bytes := appendArray appendDayProfile table

def decodeDayProfileTable : DataReader (List DayProfile) :=
  readArray dayProfileSize decodeDayProfile

def appendWeekProfile (profile : WeekProfile) : Bytes :=
  appendStructureHeader 8 ++
    (appendBufferOctetString profile.name ++ profile.dayIds.flatMap appendUnsigned)

def decodeWeekProfile : DataReader WeekProfile := do
  readStructureHeader 8
  let name ← readBufferOctetString
  let days ← Parser.repeatN readUnsignedValue 7
  match days with
  | [monday, tuesday, wednesday, thursday, friday, saturday, sunday] =>
      pure { name, monday, tuesday, wednesday, thursday, friday, saturday, sunday }
  | _ => refuse

def appendWeekProfileTable (table : List WeekProfile) : Bytes :=
  appendArray appendWeekProfile table

def decodeWeekProfileTable : DataReader (List WeekProfile) :=
  readArray weekProfileSize decodeWeekProfile

/-- A date-time is an octet string of its own size. -/
def readDateTime : DataReader DateTime := do
  let data ← readSizedOctetString DateTime.wireSize
  match DateTime.tryFromBytes data with
  | none => refuse
  | some value => pure value

def appendDateTimeOctetString (value : DateTime) : Bytes := appendOctetString value.toBytes

def appendSeasonProfile (profile : SeasonProfile) : Bytes :=
  appendStructureHeader 3 ++ (appendBufferOctetString profile.name ++
    (appendDateTimeOctetString profile.start ++ appendBufferOctetString profile.weekName))

def decodeSeasonProfile : DataReader SeasonProfile := do
  readStructureHeader 3
  let name ← readBufferOctetString
  let start ← readDateTime
  let weekName ← readBufferOctetString
  pure { name, start, weekName }

def appendSeasonProfileTable (table : List SeasonProfile) : Bytes :=
  appendArray appendSeasonProfile table

def decodeSeasonProfileTable : DataReader (List SeasonProfile) :=
  readArray seasonProfileSize decodeSeasonProfile

/-! ### Checks -/

/-- The loop of the source makes the two checks together. -/
def isValidSeasonProfile (value : List SeasonProfile) : Bool :=
  distinct SeasonProfile.name value &&
    ascending (fun previous current =>
      strictlyLess previous.start.toBytes current.start.toBytes) value

def isValidWeekProfileTable (value : List WeekProfile) : Bool := distinct WeekProfile.name value

def isValidDayProfileTable (value : List DayProfile) : Bool :=
  value.all DayProfile.isValid && distinct DayProfile.dayId value

def weekProfileTableSatisfies (weekTable : List WeekProfile) (dayTable : List DayProfile) : Bool :=
  weekTable.all fun week => week.dayIds.all (found DayProfile.dayId dayTable)

def seasonProfileSatisfies (seasonProfile : List SeasonProfile) (weekTable : List WeekProfile) :
    Bool :=
  seasonProfile.all fun season => found WeekProfile.name weekTable season.weekName

/-! ### The object -/

/-- The tables of one of the two calendars. -/
structure Calendar where
  calendarName : Bytes
  seasonProfile : List SeasonProfile
  weekProfileTable : List WeekProfile
  dayProfileTable : List DayProfile
  deriving DecidableEq

/-- What the constructor keeps of the tables it is given. -/
def Calendar.create (given : Calendar) : Calendar :=
  let dayProfileTable :=
    if isValidDayProfileTable given.dayProfileTable then given.dayProfileTable else []
  let weekProfileTable :=
    if isValidWeekProfileTable given.weekProfileTable &&
        weekProfileTableSatisfies given.weekProfileTable dayProfileTable then
      given.weekProfileTable
    else []
  let seasonProfile :=
    if isValidSeasonProfile given.seasonProfile &&
        seasonProfileSatisfies given.seasonProfile weekProfileTable then
      given.seasonProfile
    else []
  { calendarName := given.calendarName
    seasonProfile := seasonProfile
    weekProfileTable := weekProfileTable
    dayProfileTable := dayProfileTable }

/-- An activity calendar with its two calendars. -/
structure CosemActivityCalendarObject where
  descriptor : CosemObjectKey
  active : Calendar
  passive : Calendar
  activatePassiveCalendarTime : DateTime
  rights : CosemAccessRights

/-- What is called: the services of an object, and the setters of this one. -/
inductive CalendarCall where
  | writeAttribute (attributeId : UInt8) (input : Bytes)
  | invokeMethod (methodId : UInt8) (input : Bytes)
  | setCalendarNamePassive (value : Bytes)
  | setSeasonProfilePassive (value : List SeasonProfile)
  | setWeekProfileTablePassive (value : List WeekProfile)
  | setDayProfileTablePassive (value : List DayProfile)
  | setActivatePassiveCalendarTime (value : DateTime)

/-- What comes of it. -/
inductive CalendarResult where
  | written (result : Except WriteFailure Unit)
  | invoked (result : Except CosemStatus Bytes)
  | set (accepted : Bool)
  | done

/-- The call was rejected. -/
def CalendarResult.Rejected : CalendarResult → Prop
  | .written result => result ≠ .ok ()
  | .invoked result => ∀ output, result ≠ .ok output
  | .set accepted => accepted = false
  | .done => False

namespace CosemActivityCalendarObject

def activityCalendarClassId : UInt16 := 20

def maxSupportedVersion : UInt8 := 0

/-- The attributes of the passive calendar have the access that is given. -/
def accessRights (passiveAccess : AttributeAccessMode) : CosemAccessRights where
  attributeAccess := fun attributeId =>
    match attributeId.toNat with
    | 1 | 2 | 3 | 4 | 5 => .readOnly
    | 6 | 7 | 8 | 9 | 10 => passiveAccess
    | _ => .noAccess
  methodAccess := fun _ => .noAccess

def create (logicalName : LogicalName) (active passive : Calendar)
    (activatePassiveCalendarTime : DateTime) (passiveAccess : AttributeAccessMode)
    (version : UInt8) : CosemActivityCalendarObject where
  descriptor :=
    { classId := activityCalendarClassId
      version := normalizeVersion version maxSupportedVersion
      logicalName := logicalName }
  active := active.create
  passive := passive.create
  activatePassiveCalendarTime := activatePassiveCalendarTime
  rights := accessRights passiveAccess

def readAttribute (attributeId : UInt8) (object : CosemActivityCalendarObject) :
    Except CosemStatus Bytes :=
  match attributeId.toNat with
  | 1 => .ok (encodeLogicalName object.descriptor.logicalName)
  | 2 => .ok object.active.calendarName
  | 3 => .ok (appendSeasonProfileTable object.active.seasonProfile)
  | 4 => .ok (appendWeekProfileTable object.active.weekProfileTable)
  | 5 => .ok (appendDayProfileTable object.active.dayProfileTable)
  | 6 => .ok object.passive.calendarName
  | 7 => .ok (appendSeasonProfileTable object.passive.seasonProfile)
  | 8 => .ok (appendWeekProfileTable object.passive.weekProfileTable)
  | 9 => .ok (appendDayProfileTable object.passive.dayProfileTable)
  | 10 => .ok (appendDateTimeOctetString object.activatePassiveCalendarTime)
  | _ => .error .attributeNotFound

/-! ### Setters -/

def setCalendarNamePassive (value : Bytes) (object : CosemActivityCalendarObject) :
    CosemActivityCalendarObject :=
  { object with passive.calendarName := value }

def setSeasonProfilePassive (value : List SeasonProfile) (object : CosemActivityCalendarObject) :
    Bool × CosemActivityCalendarObject :=
  if !isValidSeasonProfile value ||
      !seasonProfileSatisfies value object.passive.weekProfileTable then
    (false, object)
  else (true, { object with passive.seasonProfile := value })

def setWeekProfileTablePassive (value : List WeekProfile) (object : CosemActivityCalendarObject) :
    Bool × CosemActivityCalendarObject :=
  if !isValidWeekProfileTable value ||
      !weekProfileTableSatisfies value object.passive.dayProfileTable then
    (false, object)
  -- The seasons that are there must find their weeks in the new table.
  else if !seasonProfileSatisfies object.passive.seasonProfile value then (false, object)
  else (true, { object with passive.weekProfileTable := value })

def setDayProfileTablePassive (value : List DayProfile) (object : CosemActivityCalendarObject) :
    Bool × CosemActivityCalendarObject :=
  if !isValidDayProfileTable value then (false, object)
  else if !weekProfileTableSatisfies object.passive.weekProfileTable value then (false, object)
  else (true, { object with passive.dayProfileTable := value })

def setActivatePassiveCalendarTime (value : DateTime) (object : CosemActivityCalendarObject) :
    CosemActivityCalendarObject :=
  { object with activatePassiveCalendarTime := value }

/-! ### Writing -/

/-- A table is decoded, then set. -/
def writeTable {α : Type} (reader : DataReader α)
    (set : α → CosemActivityCalendarObject → Bool × CosemActivityCalendarObject) (input : Bytes)
    (object : CosemActivityCalendarObject) :
    Except WriteFailure Unit × CosemActivityCalendarObject :=
  match decodePayload reader input with
  | .error failure => (.error failure, object)
  | .ok decoded =>
      match set decoded object with
      | (false, object) => (.error (.status .invalidArgument), object)
      | (true, object) => (.ok (), object)

def writeAttribute (attributeId : UInt8) (input : Bytes) (object : CosemActivityCalendarObject) :
    Except WriteFailure Unit × CosemActivityCalendarObject :=
  let writable := isAccessWritable (object.rights.attributeAccess attributeId)
  let denied := (.error (.status .accessDenied), object)
  match attributeId.toNat with
  | 6 => if !writable then denied else (.ok (), object.setCalendarNamePassive input)
  | 7 =>
      if !writable then denied
      else writeTable decodeSeasonProfileTable setSeasonProfilePassive input object
  | 8 =>
      if !writable then denied
      else writeTable decodeWeekProfileTable setWeekProfileTablePassive input object
  | 9 =>
      if !writable then denied
      else writeTable decodeDayProfileTable setDayProfileTablePassive input object
  | 10 =>
      if !writable then denied
      else
        match decodePayload readDateTime input with
        | .error failure => (.error failure, object)
        | .ok decoded => (.ok (), object.setActivatePassiveCalendarTime decoded)
  | 1 | 2 | 3 | 4 | 5 => denied
  | _ => (.error (.status .attributeNotFound), object)

/-- Activating the passive calendar is left to the application. -/
def invokeMethod (methodId : UInt8) : Except CosemStatus Bytes :=
  if methodId = 1 then .error .unsupportedFeature else .error .methodNotFound

def call (made : CalendarCall) (object : CosemActivityCalendarObject) :
    CalendarResult × CosemActivityCalendarObject :=
  match made with
  | .writeAttribute attributeId input =>
      let (result, object) := object.writeAttribute attributeId input
      (.written result, object)
  | .invokeMethod methodId _ => (.invoked (invokeMethod methodId), object)
  | .setCalendarNamePassive value => (.done, object.setCalendarNamePassive value)
  | .setSeasonProfilePassive value =>
      let (accepted, object) := object.setSeasonProfilePassive value
      (.set accepted, object)
  | .setWeekProfileTablePassive value =>
      let (accepted, object) := object.setWeekProfileTablePassive value
      (.set accepted, object)
  | .setDayProfileTablePassive value =>
      let (accepted, object) := object.setDayProfileTablePassive value
      (.set accepted, object)
  | .setActivatePassiveCalendarTime value =>
      (.done, object.setActivatePassiveCalendarTime value)

end CosemActivityCalendarObject

end Cosem

end Dlms
