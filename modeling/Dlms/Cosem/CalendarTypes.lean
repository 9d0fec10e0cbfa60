import Dlms.Codec.Tables
import Dlms.Cosem.DataItems

/-!
# Times, dates and the rows of a calendar

A time and a date-time have fields with ranges, each of which may be left open.
Their setters keep to the ranges, and so does reading them, so no value is out
of range: the ranges are part of the types. In the same way a day profile never
has a schedule that is not valid. The constructor drops such a schedule and the
setter refuses it.

## Main definitions

* `Time`, `DateTime`: Points in time, with their octets.
* `DayProfileAction`, `DayProfile`: A day, as what is done when.
* `WeekProfile`, `SeasonProfile`: Seven days, and the weeks from a start on.

## Theorems

* `Time.tryFromBytes_toBytes`, `DateTime.tryFromBytes_toBytes`: The octets of a
  value are read as that value.
* `hundredthsOfDay_lt_of_timeStrictlyLess`: The order of two times without open
  fields is their order in the day.
* `beValue_lt_of_strictlyLess`: The order of two starts is that of their octets
  as numbers.
-/

namespace Dlms

namespace Cosem

open Codec
open Apdu (Bytes LogicalName)

/-! ### The ranges of the fields -/

/-- The value of a field that is left open. -/
def unspecifiedValue : UInt8 := 0xFF

def isValidHourByte (value : UInt8) : Bool := value == unspecifiedValue || value ≤ 23

def isValidMinuteByte (value : UInt8) : Bool := value == unspecifiedValue || value ≤ 59

def isValidSecondByte (value : UInt8) : Bool := value == unspecifiedValue || value ≤ 59

def isValidHundredthsByte (value : UInt8) : Bool := value == unspecifiedValue || value ≤ 99

/-- `0xFD` and `0xFE` are the ends of the daylight saving time. -/
def isValidMonth (value : UInt8) : Bool :=
  value == unspecifiedValue || (value == 0xFD || value == 0xFE) || (1 ≤ value && value ≤ 12)

/-- `0xFE` and `0xFD` are the last day and the one before it. -/
def isValidDayOfMonth (value : UInt8) : Bool :=
  if value == unspecifiedValue || value == 0xFE || value == 0xFD then true
  else if value ≥ 0xE0 then false
  else 1 ≤ value && value ≤ 31

def isValidDayOfWeek (value : UInt8) : Bool :=
  value == unspecifiedValue || (1 ≤ value && value ≤ 7)

def deviationUnspecifiedValue : Int16 := -32768

def isValidDeviation (value : Int16) : Bool :=
  value == deviationUnspecifiedValue || (-720 ≤ value && value ≤ 720)

/-! ### Time -/

structure Time where
  hour : UInt8
  minute : UInt8
  second : UInt8
  hundredths : UInt8
  validHour : isValidHourByte hour = true
  validMinute : isValidMinuteByte minute = true
  validSecond : isValidSecondByte second = true
  validHundredths : isValidHundredthsByte hundredths = true
  deriving DecidableEq

namespace Time

def wireSize : Nat := 4

def tryFromBytes (data : Bytes) : Option Time :=
  match data with
  | [hour, minute, second, hundredths] =>
      if h : isValidHourByte hour = true ∧ isValidMinuteByte minute = true ∧
          isValidSecondByte second = true ∧ isValidHundredthsByte hundredths = true then
        some
          { hour := hour
            minute := minute
            second := second
            hundredths := hundredths
            validHour := h.1
            validMinute := h.2.1
            validSecond := h.2.2.1
            validHundredths := h.2.2.2 }
      else none
  | _ => none

def toBytes (time : Time) : Bytes := [time.hour, time.minute, time.second, time.hundredths]

theorem tryFromBytes_toBytes (time : Time) : tryFromBytes time.toBytes = some time :=
  dif_pos ⟨time.validHour, time.validMinute, time.validSecond, time.validHundredths⟩

end Time

/-! ### Date and time -/

structure DateTime where
  year : UInt16
  month : UInt8
  dayOfMonth : UInt8
  dayOfWeek : UInt8
  hour : UInt8
  minute : UInt8
  second : UInt8
  hundredths : UInt8
  deviation : Int16
  clockStatus : UInt8
  validMonth : isValidMonth month = true
  validDayOfMonth : isValidDayOfMonth dayOfMonth = true
  validDayOfWeek : isValidDayOfWeek dayOfWeek = true
  validHour : isValidHourByte hour = true
  validMinute : isValidMinuteByte minute = true
  validSecond : isValidSecondByte second = true
  validHundredths : isValidHundredthsByte hundredths = true
  validDeviation : isValidDeviation deviation = true
  deriving DecidableEq

namespace DateTime

def wireSize : Nat := 12

def tryFromBytes (data : Bytes) : Option DateTime :=
  match data with
  | [year1, year0, month, dayOfMonth, dayOfWeek, hour, minute, second, hundredths, deviation1,
      deviation0, clockStatus] =>
      let year := UInt16.ofNat (beValue [year1, year0])
      let deviation := (UInt16.ofNat (beValue [deviation1, deviation0])).toInt16
      if h : isValidMonth month = true ∧ isValidDayOfMonth dayOfMonth = true ∧
          isValidDayOfWeek dayOfWeek = true ∧ isValidHourByte hour = true ∧
          isValidMinuteByte minute = true ∧ isValidSecondByte second = true ∧
          isValidHundredthsByte hundredths = true ∧ isValidDeviation deviation = true then
        some
          { year := year
            month := month
            dayOfMonth := dayOfMonth
            dayOfWeek := dayOfWeek
            hour := hour
            minute := minute
            second := second
            hundredths := hundredths
            deviation := deviation
            clockStatus := clockStatus
            validMonth := h.1
            validDayOfMonth := h.2.1
            validDayOfWeek := h.2.2.1
            validHour := h.2.2.2.1
            validMinute := h.2.2.2.2.1
            validSecond := h.2.2.2.2.2.1
            validHundredths := h.2.2.2.2.2.2.1
            validDeviation := h.2.2.2.2.2.2.2 }
      else none
  | _ => none

def toBytes (time : DateTime) : Bytes :=
  beBytes 2 time.year.toNat ++
    ([time.month, time.dayOfMonth, time.dayOfWeek, time.hour, time.minute, time.second,
      time.hundredths] ++ (beBytes 2 time.deviation.toUInt16.toNat ++ [time.clockStatus]))

/-- A field of two octets is read back. -/
theorem ofNat_beValue_beBytes (value : UInt16) :
    UInt16.ofNat (beValue (beBytes 2 value.toNat)) = value := by
  have hlt : value.toNat < 256 ^ 2 := value.toNat_lt
  rw [beValue_beBytes_of_lt _ _ hlt, UInt16.ofNat_toNat]

theorem tryFromBytes_toBytes (time : DateTime) : tryFromBytes time.toBytes = some time := by
  have hyear := ofNat_beValue_beBytes time.year
  have hdeviation : (UInt16.ofNat (beValue (beBytes 2 time.deviation.toUInt16.toNat))).toInt16 =
      time.deviation := by
    rw [ofNat_beValue_beBytes]
    rfl
  simp only [beBytes] at hyear hdeviation
  simp only [toBytes, beBytes, List.cons_append, List.nil_append, tryFromBytes, hyear, hdeviation]
  exact dif_pos ⟨time.validMonth, time.validDayOfMonth, time.validDayOfWeek, time.validHour,
    time.validMinute, time.validSecond, time.validHundredths, time.validDeviation⟩

theorem length_toBytes (time : DateTime) : time.toBytes.length = wireSize := by
  simp only [toBytes, List.length_append, length_beBytes, List.length_cons, List.length_nil]
  rfl

end DateTime

/-! ### Days -/

/-- A script that is run at a time of the day. -/
structure DayProfileAction where
  startTime : Time
  scriptLogicalName : LogicalName
  scriptSelector : UInt16
  deriving DecidableEq

/-- No field of the start may be left open. -/
def DayProfileAction.isValid (action : DayProfileAction) : Bool :=
  action.startTime.hour != unspecifiedValue && action.startTime.minute != unspecifiedValue &&
    action.startTime.second != unspecifiedValue && action.startTime.hundredths != unspecifiedValue

def timeStrictlyLess (a b : Time) : Bool :=
  if a.hour ≠ b.hour then a.hour < b.hour
  else if a.minute ≠ b.minute then a.minute < b.minute
  else if a.second ≠ b.second then a.second < b.second
  else a.hundredths < b.hundredths

/-- The loop of the source makes the two checks together. -/
def isValidSchedule (schedule : List DayProfileAction) : Bool :=
  schedule.all DayProfileAction.isValid &&
    ascending (fun earlier later => timeStrictlyLess earlier.startTime later.startTime) schedule

structure DayProfile where
  dayId : UInt8
  daySchedule : List DayProfileAction
  valid : isValidSchedule daySchedule = true
  deriving DecidableEq

namespace DayProfile

theorem isValidSchedule_nil : isValidSchedule [] = true := rfl

/-- The constructor drops a schedule that is not valid. -/
def create (dayId : UInt8) (schedule : List DayProfileAction) : DayProfile :=
  if h : isValidSchedule schedule = true then ⟨dayId, schedule, h⟩
  else ⟨dayId, [], isValidSchedule_nil⟩

/-- The setter refuses it. -/
def setDaySchedule (value : List DayProfileAction) (profile : DayProfile) : Option DayProfile :=
  if h : isValidSchedule value = true then some { profile with daySchedule := value, valid := h }
  else none

def isValid (profile : DayProfile) : Bool := isValidSchedule profile.daySchedule

end DayProfile

/-! ### Weeks and seasons -/

/-- The day profile of each day of a week. -/
structure WeekProfile where
  name : Bytes
  monday : UInt8
  tuesday : UInt8
  wednesday : UInt8
  thursday : UInt8
  friday : UInt8
  saturday : UInt8
  sunday : UInt8
  deriving DecidableEq

/-- The days of a week. -/
def WeekProfile.dayIds (week : WeekProfile) : List UInt8 :=
  [week.monday, week.tuesday, week.wednesday, week.thursday, week.friday, week.saturday,
    week.sunday]

/-- The week profile from a date on. -/
structure SeasonProfile where
  name : Bytes
  start : DateTime
  weekName : Bytes
  deriving DecidableEq

/-- The first octet that differs decides. -/
def strictlyLess : Bytes → Bytes → Bool
  | previous :: previousRest, current :: currentRest =>
      if previous < current then true
      else if previous > current then false
      else strictlyLess previousRest currentRest
  | _, _ => false

/-! ### What the orders are -/

/-- The hundredths of a second from midnight. -/
def Time.hundredthsOfDay (time : Time) : Nat :=
  ((time.hour.toNat * 60 + time.minute.toNat) * 60 + time.second.toNat) * 100 +
    time.hundredths.toNat

/-- A field that is not left open is in its range. -/
theorem toNat_le_of_valid (value limit : UInt8)
    (hvalid : (value == unspecifiedValue || value ≤ limit) = true)
    (hspecified : (value != unspecifiedValue) = true) : value.toNat ≤ limit.toNat := by
  rw [Bool.or_eq_true, decide_eq_true_eq] at hvalid
  rcases hvalid with hopen | hle
  · exact absurd (beq_iff_eq.mp hopen) (bne_iff_ne.mp hspecified)
  · exact UInt8.le_iff_toNat_le.mp hle

/-- Two times without open fields are in the order of the day. -/
theorem hundredthsOfDay_lt_of_timeStrictlyLess (a b : DayProfileAction) (ha : a.isValid = true)
    (hb : b.isValid = true) (h : timeStrictlyLess a.startTime b.startTime = true) :
    a.startTime.hundredthsOfDay < b.startTime.hundredthsOfDay := by
  simp only [DayProfileAction.isValid, Bool.and_eq_true] at ha hb
  rcases ha with ⟨⟨⟨haHour, haMinute⟩, haSecond⟩, haHundredths⟩
  rcases hb with ⟨⟨⟨hbHour, hbMinute⟩, hbSecond⟩, hbHundredths⟩
  -- What stands below the field that decides is less than one of it.
  have hminute := toNat_le_of_valid _ 59 a.startTime.validMinute haMinute
  have hsecond := toNat_le_of_valid _ 59 a.startTime.validSecond haSecond
  have hhundredths := toNat_le_of_valid _ 99 a.startTime.validHundredths haHundredths
  have hsixty : (59 : UInt8).toNat = 59 := rfl
  have hhundred : (99 : UInt8).toNat = 99 := rfl
  rw [hsixty] at hminute hsecond
  rw [hhundred] at hhundredths
  unfold timeStrictlyLess at h
  unfold Time.hundredthsOfDay
  by_cases hhourEq : a.startTime.hour = b.startTime.hour
  · rw [if_neg (not_not.mpr hhourEq)] at h
    rw [hhourEq]
    by_cases hminuteEq : a.startTime.minute = b.startTime.minute
    · rw [if_neg (not_not.mpr hminuteEq)] at h
      rw [hminuteEq]
      by_cases hsecondEq : a.startTime.second = b.startTime.second
      · rw [if_neg (not_not.mpr hsecondEq), decide_eq_true_eq] at h
        have hlt := UInt8.lt_iff_toNat_lt.mp h
        rw [hsecondEq]
        omega
      · rw [if_pos hsecondEq, decide_eq_true_eq] at h
        have hlt := UInt8.lt_iff_toNat_lt.mp h
        omega
    · rw [if_pos hminuteEq, decide_eq_true_eq] at h
      have hlt := UInt8.lt_iff_toNat_lt.mp h
      omega
  · rw [if_pos hhourEq, decide_eq_true_eq] at h
    have hlt := UInt8.lt_iff_toNat_lt.mp h
    omega

/-- The octets of the lesser are the lesser number. The induction goes along the
    octets up to the one that decides. -/
theorem beValue_lt_of_strictlyLess (a b : Bytes) (hlength : a.length = b.length)
    (h : strictlyLess a b = true) : beValue a < beValue b := by
  induction a generalizing b with
  | nil => exact absurd h (by simp [strictlyLess])
  | cons first rest ih =>
      cases b with
      | nil => exact absurd h (by simp [strictlyLess])
      | cons first' rest' =>
          have hrest : rest.length = rest'.length := Nat.succ.inj hlength
          rw [strictlyLess] at h
          rw [beValue_cons, beValue_cons, hrest]
          by_cases hlt : first < first'
          · -- This octet decides: one more of its weight outweighs all the octets after it.
            have hfirst := UInt8.lt_iff_toNat_lt.mp hlt
            have hbelow := beValue_lt rest
            rw [hrest] at hbelow
            calc first.toNat * 256 ^ rest'.length + beValue rest
                < first.toNat * 256 ^ rest'.length + 256 ^ rest'.length :=
                  Nat.add_lt_add_left hbelow _
              _ = (first.toNat + 1) * 256 ^ rest'.length := (Nat.succ_mul _ _).symm
              _ ≤ first'.toNat * 256 ^ rest'.length := Nat.mul_le_mul_right _ hfirst
              _ ≤ first'.toNat * 256 ^ rest'.length + beValue rest' := Nat.le_add_right _ _
          · rw [if_neg hlt] at h
            by_cases hgt : first > first'
            · rw [if_pos hgt] at h
              exact absurd h Bool.false_ne_true
            · rw [if_neg hgt] at h
              -- Neither is less, so that the rest decides.
              have heq : first = first' := by
                apply UInt8.toNat.inj
                rw [UInt8.lt_iff_toNat_lt] at hlt
                rw [gt_iff_lt, UInt8.lt_iff_toNat_lt] at hgt
                omega
              rw [heq]
              exact Nat.add_lt_add_left (ih rest' hrest h) _

end Cosem

end Dlms
