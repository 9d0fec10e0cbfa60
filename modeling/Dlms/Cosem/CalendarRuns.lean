import Dlms.Cosem.ActivityCalendar
import Dlms.Machine.Run

/-!
# Calendars over whole runs

A calendar is consistent when no day, week or season is there twice, the actions
of a day and the seasons are in order, and every row that a row refers to is in
its table. The checks of the source say this of each table and of each pair of
neighbours. The constructor leaves tables that meet all of them, and a call that
replaces one table makes the checks for that table on both of its sides, so what
the other checks said remains true.

Order means order in time. The actions of a day are in the order of the
hundredths of a second from midnight. The starts of the seasons may have open
fields, and are in the order of their octets.

## Main definitions

* `Calendar.Consistent`: What a calendar should be.
* `Calendar.Checked`: What the checks of the source say of one.
* `Sound`: A call that is rejected changes nothing, and no call breaks a
  calendar or changes the rights.

## Theorems

* `Calendar.consistent_of_checked`: The checks are enough.
* `Calendar.checked_create`: The constructor leaves tables that meet them.
* `sound_call`: No call breaks them.
* `consistent_run`: Calendars are consistent in every run.
-/

namespace Dlms

namespace Cosem

open Codec
open Machine (run)
open Apdu (Bytes LogicalName)

/-! ### Consistency -/

namespace Calendar

/-- No key twice, everything in order, and nothing missing. -/
structure Consistent (calendar : Calendar) : Prop where
  dayIds_nodup : (calendar.dayProfileTable.map DayProfile.dayId).Nodup
  actions_inOrder : ∀ day ∈ calendar.dayProfileTable,
    day.daySchedule.Pairwise fun earlier later =>
      earlier.startTime.hundredthsOfDay < later.startTime.hundredthsOfDay
  weekNames_nodup : (calendar.weekProfileTable.map WeekProfile.name).Nodup
  days_exist : ∀ week ∈ calendar.weekProfileTable, ∀ dayId ∈ week.dayIds,
    ∃ day ∈ calendar.dayProfileTable, day.dayId = dayId
  seasonNames_nodup : (calendar.seasonProfile.map SeasonProfile.name).Nodup
  seasons_inOrder : calendar.seasonProfile.Pairwise fun earlier later =>
    beValue earlier.start.toBytes < beValue later.start.toBytes
  weeks_exist : ∀ season ∈ calendar.seasonProfile,
    ∃ week ∈ calendar.weekProfileTable, week.name = season.weekName

/-- The checks of the source. -/
structure Checked (calendar : Calendar) : Prop where
  days : isValidDayProfileTable calendar.dayProfileTable = true
  weeks : isValidWeekProfileTable calendar.weekProfileTable = true
  seasons : isValidSeasonProfile calendar.seasonProfile = true
  daysFound :
    weekProfileTableSatisfies calendar.weekProfileTable calendar.dayProfileTable = true
  weeksFound : seasonProfileSatisfies calendar.seasonProfile calendar.weekProfileTable = true

/-- The actions of a valid schedule are in the order of the day. -/
theorem inOrder_of_isValidSchedule (schedule : List DayProfileAction)
    (h : isValidSchedule schedule = true) :
    schedule.Pairwise fun earlier later =>
      earlier.startTime.hundredthsOfDay < later.startTime.hundredthsOfDay := by
  rw [isValidSchedule, Bool.and_eq_true, List.all_eq_true] at h
  refine pairwise_of_ascending _ (fun earlier later : DayProfileAction =>
      earlier.startTime.hundredthsOfDay < later.startTime.hundredthsOfDay)
    (fun _ _ _ => Nat.lt_trans) schedule ?_ h.2
  intro earlier hearlier later hlater hless
  exact hundredthsOfDay_lt_of_timeStrictlyLess earlier later (h.1 earlier hearlier)
    (h.1 later hlater) hless

theorem inOrder_of_isValidSeasonProfile (value : List SeasonProfile)
    (h : isValidSeasonProfile value = true) :
    value.Pairwise fun earlier later =>
      beValue earlier.start.toBytes < beValue later.start.toBytes := by
  rw [isValidSeasonProfile, Bool.and_eq_true] at h
  refine pairwise_of_ascending _ (fun earlier later : SeasonProfile =>
      beValue earlier.start.toBytes < beValue later.start.toBytes)
    (fun _ _ _ => Nat.lt_trans) value ?_ h.2
  intro earlier _ later _ hless
  have hlength : earlier.start.toBytes.length = later.start.toBytes.length := by
    rw [DateTime.length_toBytes, DateTime.length_toBytes]
  exact beValue_lt_of_strictlyLess _ _ hlength hless

/-- What the checks say of a calendar makes it consistent. -/
theorem consistent_of_checked (calendar : Calendar) (h : calendar.Checked) :
    calendar.Consistent := by
  have hdays := h.days
  have hseasons := h.seasons
  rw [isValidDayProfileTable, Bool.and_eq_true] at hdays
  rw [isValidSeasonProfile, Bool.and_eq_true] at hseasons
  -- Each check looks through a table; found and distinct are about its names.
  refine ⟨?_, ?_, ?_, ?_, ?_, ?_, ?_⟩
  · exact (distinct_iff _ _).mp hdays.2
  · exact fun day _ => inOrder_of_isValidSchedule _ day.valid
  · exact (distinct_iff _ _).mp h.weeks
  · intro week hweek dayId hday
    have hall := List.all_eq_true.mp h.daysFound week hweek
    exact (found_iff _ _ _).mp (List.all_eq_true.mp hall dayId hday)
  · exact (distinct_iff _ _).mp hseasons.1
  · exact inOrder_of_isValidSeasonProfile _ h.seasons
  · intro season hseason
    exact (found_iff _ _ _).mp (List.all_eq_true.mp h.weeksFound season hseason)

/-- A table that is dropped unless a check says otherwise. -/
theorem holds_of_dropped {α : Type} (check : Bool) (table : List α) (holds : List α → Prop)
    (hnil : holds []) (hkept : check = true → holds table) :
    holds (if check = true then table else []) := by
  by_cases hcheck : check = true
  · rw [if_pos hcheck]
    exact hkept hcheck
  · rw [if_neg hcheck]
    exact hnil

/-- What the constructor keeps meets the checks. An empty table meets those that
    are about it and the one below it. -/
theorem checked_create (given : Calendar) : given.create.Checked where
  days := holds_of_dropped _ _ (fun table => isValidDayProfileTable table = true) rfl id
  weeks := holds_of_dropped _ _ (fun table => isValidWeekProfileTable table = true) rfl
    fun h => (Bool.and_eq_true _ _ ▸ h).1
  seasons := holds_of_dropped _ _ (fun table => isValidSeasonProfile table = true) rfl
    fun h => (Bool.and_eq_true _ _ ▸ h).1
  daysFound := holds_of_dropped _ _ (fun table => weekProfileTableSatisfies table _ = true) rfl
    fun h => (Bool.and_eq_true _ _ ▸ h).2
  weeksFound := holds_of_dropped _ _ (fun table => seasonProfileSatisfies table _ = true) rfl
    fun h => (Bool.and_eq_true _ _ ▸ h).2

end Calendar

/-! ### Calls -/

namespace CosemActivityCalendarObject

/-- Both calendars meet the checks. -/
def Checked (object : CosemActivityCalendarObject) : Prop :=
  object.active.Checked ∧ object.passive.Checked

/-- A call that is rejected changes nothing, and no call breaks a calendar or
    changes the rights. -/
structure Sound (rejected : Prop) (before after : CosemActivityCalendarObject) : Prop where
  unchanged : rejected → after = before
  checked : before.Checked → after.Checked
  rights : after.rights = before.rights

theorem sound_unchanged (rejected : Prop) (object : CosemActivityCalendarObject) :
    Sound rejected object object :=
  ⟨fun _ => rfl, id, rfl⟩

/-- A passive calendar that meets the checks takes the place of the old one. -/
theorem sound_accepted (rejected : Prop) (before after : CosemActivityCalendarObject)
    (hrejected : ¬rejected) (hactive : after.active = before.active)
    (hrights : after.rights = before.rights)
    (hpassive : before.passive.Checked → after.passive.Checked) : Sound rejected before after := by
  refine ⟨fun h => absurd h hrejected, fun h => ⟨?_, hpassive h.2⟩, hrights⟩
  rw [hactive]
  exact h.1

theorem sound_setSeasonProfilePassive (value : List SeasonProfile)
    (object : CosemActivityCalendarObject) :
    Sound ((object.setSeasonProfilePassive value).1 = false) object
      (object.setSeasonProfilePassive value).2 := by
  unfold setSeasonProfilePassive
  -- Seasons name weeks, and nothing names seasons.
  by_cases hbad : (!isValidSeasonProfile value ||
      !seasonProfileSatisfies value object.passive.weekProfileTable) = true
  · rw [if_pos hbad]
    exact sound_unchanged _ object
  · rw [if_neg hbad]
    have hgood := both_of_not_refused _ _ hbad
    refine sound_accepted _ _ _ Bool.true_eq_false.mp rfl rfl fun h => ?_
    exact ⟨h.days, h.weeks, hgood.1, h.daysFound, hgood.2⟩

theorem sound_setWeekProfileTablePassive (value : List WeekProfile)
    (object : CosemActivityCalendarObject) :
    Sound ((object.setWeekProfileTablePassive value).1 = false) object
      (object.setWeekProfileTablePassive value).2 := by
  unfold setWeekProfileTablePassive
  by_cases hbad : (!isValidWeekProfileTable value ||
      !weekProfileTableSatisfies value object.passive.dayProfileTable) = true
  · rw [if_pos hbad]
    exact sound_unchanged _ object
  rw [if_neg hbad]
  have hgood := both_of_not_refused _ _ hbad
  -- The seasons that are there must find their weeks in the new table.
  by_cases hlost : (!seasonProfileSatisfies object.passive.seasonProfile value) = true
  · rw [if_pos hlost]
    exact sound_unchanged _ object
  · rw [if_neg hlost]
    rw [Bool.not_eq_true, Bool.not_eq_false'] at hlost
    refine sound_accepted _ _ _ Bool.true_eq_false.mp rfl rfl fun h => ?_
    exact ⟨h.days, hgood.1, h.seasons, hgood.2, hlost⟩

theorem sound_setDayProfileTablePassive (value : List DayProfile)
    (object : CosemActivityCalendarObject) :
    Sound ((object.setDayProfileTablePassive value).1 = false) object
      (object.setDayProfileTablePassive value).2 := by
  unfold setDayProfileTablePassive
  by_cases hbad : (!isValidDayProfileTable value) = true
  · rw [if_pos hbad]
    exact sound_unchanged _ object
  rw [if_neg hbad]
  rw [Bool.not_eq_true, Bool.not_eq_false'] at hbad
  -- The weeks that are there must find their days in the new table.
  by_cases hlost : (!weekProfileTableSatisfies object.passive.weekProfileTable value) = true
  · rw [if_pos hlost]
    exact sound_unchanged _ object
  · rw [if_neg hlost]
    rw [Bool.not_eq_true, Bool.not_eq_false'] at hlost
    refine sound_accepted _ _ _ Bool.true_eq_false.mp rfl rfl fun h => ?_
    exact ⟨hbad, h.weeks, h.seasons, hlost, h.weeksFound⟩

/-- Writing a table is as sound as setting it. -/
theorem sound_writeTable {α : Type} (reader : DataReader α)
    (set : α → CosemActivityCalendarObject → Bool × CosemActivityCalendarObject)
    (hset : ∀ value object, Sound ((set value object).1 = false) object (set value object).2)
    (input : Bytes) (object : CosemActivityCalendarObject) :
    Sound ((writeTable reader set input object).1 ≠ .ok ()) object
      (writeTable reader set input object).2 := by
  unfold writeTable
  cases decodePayload reader input with
  | error failure => exact sound_unchanged _ object
  | ok decoded =>
      -- What the setter rejects is reported as a failure of the write.
      have hsound := hset decoded object
      dsimp only
      generalize set decoded object = out at hsound ⊢
      rcases out with ⟨_ | _, after⟩
      · exact ⟨fun _ => hsound.unchanged rfl, hsound.checked, hsound.rights⟩
      · exact ⟨fun h => absurd rfl h, hsound.checked, hsound.rights⟩

/-- Writing any attribute. -/
theorem sound_writeAttribute (attributeId : UInt8) (input : Bytes)
    (object : CosemActivityCalendarObject) :
    Sound ((object.writeAttribute attributeId input).1 ≠ .ok ()) object
      (object.writeAttribute attributeId input).2 := by
  -- The name and the time of activation are no part of the checks.
  have hsimple (after : CosemActivityCalendarObject) (hactive : after.active = object.active)
      (hrights : after.rights = object.rights)
      (hpassive : object.passive.Checked → after.passive.Checked) :
      Sound ((.ok () : Except WriteFailure Unit) ≠ .ok ()) object after :=
    sound_accepted _ _ _ (not_not.mpr rfl) hactive hrights hpassive
  unfold writeAttribute
  dsimp only
  by_cases hwritable : (!isAccessWritable (object.rights.attributeAccess attributeId)) = true
  · simp only [hwritable, if_true]
    split <;> exact sound_unchanged _ object
  · simp only [hwritable, Bool.false_eq_true, if_false]
    split
    · exact hsimple _ rfl rfl fun h => ⟨h.days, h.weeks, h.seasons, h.daysFound, h.weeksFound⟩
    · exact sound_writeTable _ _ sound_setSeasonProfilePassive input object
    · exact sound_writeTable _ _ sound_setWeekProfileTablePassive input object
    · exact sound_writeTable _ _ sound_setDayProfileTablePassive input object
    · cases decodePayload readDateTime input with
      | error failure => exact sound_unchanged _ object
      | ok decoded => exact hsimple _ rfl rfl id
    all_goals exact sound_unchanged _ object

/-- Any call. -/
theorem sound_call (made : CalendarCall) (object : CosemActivityCalendarObject) :
    Sound (object.call made).1.Rejected object (object.call made).2 := by
  cases made with
  | writeAttribute attributeId input => exact sound_writeAttribute attributeId input object
  | invokeMethod methodId input => exact sound_unchanged _ object
  | setCalendarNamePassive value =>
      exact sound_accepted _ _ _ id rfl rfl
        fun h => ⟨h.days, h.weeks, h.seasons, h.daysFound, h.weeksFound⟩
  | setSeasonProfilePassive value => exact sound_setSeasonProfilePassive value object
  | setWeekProfileTablePassive value => exact sound_setWeekProfileTablePassive value object
  | setDayProfileTablePassive value => exact sound_setDayProfileTablePassive value object
  | setActivatePassiveCalendarTime value => exact sound_accepted _ _ _ id rfl rfl id

/-- A new object meets the checks. -/
theorem checked_new (logicalName : LogicalName) (active passive : Calendar)
    (activatePassiveCalendarTime : DateTime) (passiveAccess : AttributeAccessMode)
    (version : UInt8) :
    (create logicalName active passive activatePassiveCalendarTime passiveAccess
      version).Checked :=
  ⟨Calendar.checked_create active, Calendar.checked_create passive⟩

/-- Whatever an object is made of and whatever is called: both calendars are
    consistent at every time, and a call that is rejected leaves the object as it
    was. -/
theorem consistent_run (logicalName : LogicalName) (active passive : Calendar)
    (activatePassiveCalendarTime : DateTime) (passiveAccess : AttributeAccessMode)
    (version : UInt8) (calls : List CalendarCall) :
    ((create logicalName active passive activatePassiveCalendarTime passiveAccess
        version).active.Consistent ∧
      (create logicalName active passive activatePassiveCalendarTime passiveAccess
        version).passive.Consistent) ∧
      ∀ t ∈ run call calls (create logicalName active passive activatePassiveCalendarTime
          passiveAccess version),
        (t.after.active.Consistent ∧ t.after.passive.Consistent) ∧
          (t.output.Rejected → t.after = t.before) := by
  -- A new object has dropped what does not pass the checks.
  have hnew := checked_new logicalName active passive activatePassiveCalendarTime passiveAccess
    version
  have hconsistent (object : CosemActivityCalendarObject) (h : object.Checked) :
      object.active.Consistent ∧ object.passive.Consistent :=
    ⟨Calendar.consistent_of_checked _ h.1, Calendar.consistent_of_checked _ h.2⟩
  refine ⟨hconsistent _ hnew, fun t ht => ⟨?_, ?_⟩⟩
  · have hrun := Machine.invariant_run call Checked
      (fun object made h => (sound_call made object).checked h) calls _ hnew
    exact hconsistent _ (hrun.1 t ht).2
  · rcases Machine.mem_run call calls _ t ht with ⟨before, made, later, -, rfl⟩
    exact (sound_call made _).unchanged

end CosemActivityCalendarObject

end Cosem

end Dlms
