import Dlms.Cosem.CalendarRuns
import Dlms.Cosem.RegisterMonitor
import Dlms.Cosem.SapAssignment

/-!
# Codecs of the structured attributes

Each table has an encoder and a decoder of its own. What the one appends the
other reads back, and the decoders do not look past it, so a table is read back
row by row and a row field by field.

The rows are those of an object: actions and scripts are valid, and every table,
name and schedule is a vector of the source. A parameter or a threshold is one
well-formed item. A parameter of null data is read back as no parameter, which
is appended as the same octet.

## Main definitions

* `DayProfile.IsVectors`, `WeekProfile.IsVectors` and the others: The parts of a
  row are vectors.
* `ActionSpecification.settled`, `ScriptEntry.settled`: Null data as no
  parameter.

## Theorems

* `decodes_decodeDayProfileTable`, `decodes_decodeWeekProfileTable`,
  `decodes_decodeSeasonProfileTable`, `decodes_readDateTime`: The calendar.
* `decodeScripts_appendScripts`, `appendScripts_settled`: The scripts.
* `decodes_decodeThresholds`, `decodes_readSapAssignments`: The other two.
-/

namespace Dlms

namespace Cosem

open Codec
open Apdu (Bytes LogicalName sizeOctets)

theorem length_lt_of_isVector {α : Type} (elementSize : Nat) (elements : List α)
    (h : IsVector elementSize elements) : elements.length < 256 ^ sizeOctets :=
  Nat.lt_of_le_of_lt h (maximumCount_lt elementSize)

/-! ### The calendar -/

theorem decodes_decodeDayProfileAction (action : DayProfileAction) (h : action.isValid = true) :
    Decodes decodeDayProfileAction (appendDayProfileAction action) action := by
  have htime := decodes_readSizedOctetString action.startTime.toBytes Time.wireSize rfl
    (by decide)
  refine decodes_bind _ _ _ _ _ _ (decodes_readStructureHeader 3 (by decide))
    (decodes_bind _ _ _ _ _ _ htime ?_)
  rw [Time.tryFromBytes_toBytes]
  refine decodes_bind _ _ _ _ _ _ (decodes_readLogicalNameValue _)
    (decodes_last _ _ _ _ _ (decodes_readLongUnsignedValue _) ?_)
  dsimp only
  rw [if_pos h]
  exact decodes_pure action

/-- The actions of a day are in a vector. -/
def DayProfile.IsVectors (profile : DayProfile) : Prop :=
  IsVector dayProfileActionSize profile.daySchedule

theorem decodes_decodeDayProfile (profile : DayProfile) (h : profile.IsVectors) :
    Decodes decodeDayProfile (appendDayProfile profile) profile := by
  have hvalid := profile.valid
  rw [isValidSchedule, Bool.and_eq_true, List.all_eq_true] at hvalid
  have hschedule := decodes_readArray dayProfileActionSize decodeDayProfileAction
    appendDayProfileAction profile.daySchedule h
    fun action haction => decodes_decodeDayProfileAction action (hvalid.1 action haction)
  refine decodes_bind _ _ _ _ _ _ (decodes_readStructureHeader 2 (by decide))
    (decodes_bind _ _ _ _ _ _ (decodes_readTagged _ _) (decodes_last _ _ _ _ _ hschedule ?_))
  -- The schedule was checked when the profile was made, so that it is taken again.
  have hset : (DayProfile.create profile.dayId []).setDaySchedule profile.daySchedule =
      some profile := by
    rw [DayProfile.setDaySchedule, dif_pos profile.valid, DayProfile.create,
      dif_pos DayProfile.isValidSchedule_nil]
  rw [hset]
  exact decodes_pure profile

theorem decodes_decodeDayProfileTable (table : List DayProfile)
    (htable : IsVector dayProfileSize table) (hrows : ∀ profile ∈ table, profile.IsVectors) :
    Decodes decodeDayProfileTable (appendDayProfileTable table) table :=
  decodes_readArray _ _ _ table htable
    fun profile hprofile => decodes_decodeDayProfile profile (hrows profile hprofile)

/-- The name of a week is a buffer. -/
def WeekProfile.IsVectors (profile : WeekProfile) : Prop := IsVector 1 profile.name

theorem decodes_decodeWeekProfile (profile : WeekProfile) (h : profile.IsVectors) :
    Decodes decodeWeekProfile (appendWeekProfile profile) profile := by
  have hdays : Decodes (Parser.repeatN readUnsignedValue 7)
      (profile.dayIds.flatMap appendUnsigned) profile.dayIds :=
    decodes_repeatN readUnsignedValue appendUnsigned profile.dayIds
      fun dayId _ => decodes_readTagged unsignedTag dayId
  exact decodes_bind _ _ _ _ _ _ (decodes_readStructureHeader 8 (by decide))
    (decodes_bind _ _ _ _ _ _ (decodes_readBufferOctetString _ (length_lt_of_isVector 1 _ h))
      (decodes_last _ _ _ _ _ hdays (decodes_pure profile)))

theorem decodes_decodeWeekProfileTable (table : List WeekProfile)
    (htable : IsVector weekProfileSize table) (hrows : ∀ profile ∈ table, profile.IsVectors) :
    Decodes decodeWeekProfileTable (appendWeekProfileTable table) table :=
  decodes_readArray _ _ _ table htable
    fun profile hprofile => decodes_decodeWeekProfile profile (hrows profile hprofile)

theorem decodes_readDateTime (value : DateTime) :
    Decodes readDateTime (appendDateTimeOctetString value) value := by
  refine decodes_last _ _ _ _ _ (decodes_readSizedOctetString value.toBytes DateTime.wireSize
    value.length_toBytes (by decide)) ?_
  rw [DateTime.tryFromBytes_toBytes]
  exact decodes_pure value

/-- The two names of a season are buffers. -/
def SeasonProfile.IsVectors (profile : SeasonProfile) : Prop :=
  IsVector 1 profile.name ∧ IsVector 1 profile.weekName

theorem decodes_decodeSeasonProfile (profile : SeasonProfile) (h : profile.IsVectors) :
    Decodes decodeSeasonProfile (appendSeasonProfile profile) profile :=
  decodes_bind _ _ _ _ _ _ (decodes_readStructureHeader 3 (by decide))
    (decodes_bind _ _ _ _ _ _ (decodes_readBufferOctetString _ (length_lt_of_isVector 1 _ h.1))
      (decodes_bind _ _ _ _ _ _ (decodes_readDateTime profile.start)
        (decodes_last _ _ _ _ _
          (decodes_readBufferOctetString _ (length_lt_of_isVector 1 _ h.2))
          (decodes_pure profile))))

theorem decodes_decodeSeasonProfileTable (table : List SeasonProfile)
    (htable : IsVector seasonProfileSize table) (hrows : ∀ profile ∈ table, profile.IsVectors) :
    Decodes decodeSeasonProfileTable (appendSeasonProfileTable table) table :=
  decodes_readArray _ _ _ table htable
    fun profile hprofile => decodes_decodeSeasonProfile profile (hrows profile hprofile)

/-! ### The scripts -/

theorem ScriptServiceId.ofCode_code (serviceId : ScriptServiceId) :
    ScriptServiceId.ofCode serviceId.code = some serviceId := by
  cases serviceId <;> rfl

/-- An item takes an octet at least. -/
theorem ne_nil_of_wellFormedData (item : Bytes) (h : WellFormedData item) : item ≠ [] := by
  intro hnil
  rcases h with ⟨value, hvalue⟩
  have hempty : Apdu.decodeDlmsData [] (maxProfileGenericDecodeDepth + 1) =
      .error .needMoreData := rfl
  rw [hnil, hempty] at hvalue
  cases hvalue

/-- Null data takes one octet. -/
theorem eq_nullData_of_wellFormedData (item : Bytes) (h : WellFormedData item)
    (hhead : item.head? = some nullDataTag) : item = [nullDataTag] := by
  rcases h with ⟨value, hvalue⟩
  cases item with
  | nil => exact absurd hhead (by simp [List.head?_nil])
  | cons tag rest =>
      rw [List.head?_cons, Option.some.injEq] at hhead
      rw [hhead] at hvalue ⊢
      cases rest with
      | nil => rfl
      | cons next rest =>
          -- Octets behind the tag are left over.
          have hextra : Apdu.decodeDlmsData (nullDataTag :: next :: rest)
              (maxProfileGenericDecodeDepth + 1) = .error .invalidLength := rfl
          rw [hextra] at hvalue
          cases hvalue

/-- The action as it is read back: a parameter of null data is no parameter. -/
def ActionSpecification.settled (action : ActionSpecification) : ActionSpecification :=
  if action.parameter = [nullDataTag] then { action with parameter := [] } else action

/-- There is no parameter, or it is one well-formed item. -/
def ActionSpecification.WellFormed (action : ActionSpecification) : Prop :=
  action.parameter = [] ∨ WellFormedData action.parameter

theorem appendActionSpecification_settled (action : ActionSpecification) :
    appendActionSpecification action.settled = appendActionSpecification action := by
  unfold ActionSpecification.settled
  by_cases hnull : action.parameter = [nullDataTag]
  · rw [if_pos hnull]
    unfold appendActionSpecification
    rw [hnull]
    rfl
  · rw [if_neg hnull]

theorem isValid_settled (action : ActionSpecification) (h : action.isValid = true) :
    action.settled.isValid = true := by
  unfold ActionSpecification.settled
  by_cases hnull : action.parameter = [nullDataTag]
  · rw [if_pos hnull]
    unfold ActionSpecification.isValid at h ⊢
    rw [hnull] at h
    cases hservice : action.serviceId with
    -- Such an action has no parameter, not even null data.
    | dummy =>
        rw [hservice] at h
        exact absurd h (by simp)
    | writeAttribute => rw [hservice] at h; exact h
    | executeMethod => rw [hservice] at h; exact h
  · rw [if_neg hnull]
    exact h

theorem decodes_readParameter (action : ActionSpecification) (h : action.WellFormed) :
    Decodes readParameter (appendParameter action.parameter) action.settled.parameter := by
  have hnullData : WellFormedData [nullDataTag] := ⟨_, rfl⟩
  by_cases hnull : action.parameter = [nullDataTag]
  · rw [ActionSpecification.settled, if_pos hnull, hnull]
    exact decodes_last _ _ _ _ _ (decodes_skippedData _ hnullData) (decodes_pure _)
  rw [ActionSpecification.settled, if_neg hnull]
  -- No parameter is written as null data, and read as none.
  rcases h with hnone | hitem
  · rw [hnone]
    exact decodes_last _ _ _ _ _ (decodes_skippedData _ hnullData) (decodes_pure _)
  · have hhead : action.parameter.head? ≠ some nullDataTag :=
      fun hhead => hnull (eq_nullData_of_wellFormedData _ hitem hhead)
    have hitems : ¬action.parameter.isEmpty = true :=
      fun hempty => ne_nil_of_wellFormedData _ hitem (List.isEmpty_iff.mp hempty)
    rw [appendParameter, if_neg hitems]
    refine decodes_last _ _ _ _ _ (decodes_skippedData _ hitem) ?_
    rw [if_neg hhead]
    exact decodes_pure _

theorem decodes_decodeActionSpecification (action : ActionSpecification)
    (hvalid : action.isValid = true) (h : action.WellFormed) :
    Decodes decodeActionSpecification (appendActionSpecification action) action.settled := by
  refine decodes_bind _ _ _ _ _ _ (decodes_readStructureHeader 5 (by decide))
    (decodes_bind _ _ _ _ _ _ (decodes_readTagged _ _) ?_)
  rw [ScriptServiceId.ofCode_code]
  refine decodes_bind _ _ _ _ _ _ (decodes_readLongUnsignedValue _)
    (decodes_bind _ _ _ _ _ _ (decodes_readLogicalNameValue _)
      (decodes_bind _ _ _ _ _ _ (decodes_readTagged _ _)
        (decodes_last _ _ _ _ _ (decodes_readParameter action h) ?_)))
  -- The fields are read as they were, but for a parameter that is null data.
  have hsettled : ({ serviceId := action.serviceId
                     classId := action.classId
                     logicalName := action.logicalName
                     index := action.index.toUInt8.toInt8
                     parameter := action.settled.parameter } : ActionSpecification) =
      action.settled := by
    unfold ActionSpecification.settled
    by_cases hnull : action.parameter = [nullDataTag]
    · rw [if_pos hnull, Int8.toInt8_toUInt8]
    · rw [if_neg hnull, Int8.toInt8_toUInt8]
  dsimp only
  rw [hsettled, if_pos (isValid_settled action hvalid)]
  exact decodes_pure _

namespace ScriptEntry

theorem all_isValid_settled (actions : List ActionSpecification)
    (h : actions.all ActionSpecification.isValid = true) :
    (actions.map ActionSpecification.settled).all ActionSpecification.isValid = true := by
  rw [List.all_eq_true] at h ⊢
  intro action haction
  rcases List.mem_map.mp haction with ⟨before, hbefore, rfl⟩
  exact isValid_settled before (h before hbefore)

/-- The script as it is read back. -/
def settled (entry : ScriptEntry) : ScriptEntry where
  identifier := entry.identifier
  actions := entry.actions.map ActionSpecification.settled
  valid := all_isValid_settled entry.actions entry.valid

/-- The actions of a script are in a vector. -/
def IsVectors (entry : ScriptEntry) : Prop := IsVector actionSpecificationSize entry.actions

def WellFormed (entry : ScriptEntry) : Prop := ∀ action ∈ entry.actions, action.WellFormed

end ScriptEntry

/-- Rows that are appended in the same way make the same array. -/
theorem appendArray_map {α : Type} (append : α → Bytes) (change : α → α) (elements : List α)
    (h : ∀ a ∈ elements, append (change a) = append a) :
    appendArray append (elements.map change) = appendArray append elements := by
  rw [appendArray, appendArray, List.length_map, List.flatMap_map]
  exact congrArg _ (List.flatMap_congr h)

theorem appendScript_settled (entry : ScriptEntry) :
    appendScript entry.settled = appendScript entry := by
  unfold appendScript ScriptEntry.settled
  dsimp only
  rw [appendArray_map _ _ _ fun action _ => appendActionSpecification_settled action]

theorem decodes_decodeScript (entry : ScriptEntry) (hvector : entry.IsVectors)
    (h : entry.WellFormed) : Decodes decodeScript (appendScript entry) entry.settled := by
  have hvalid := List.all_eq_true.mp entry.valid
  -- Settled actions are written as the actions were, and are read as themselves.
  have hactions : Decodes (readArray actionSpecificationSize decodeActionSpecification)
      (appendArray appendActionSpecification entry.actions) entry.settled.actions := by
    rw [← appendArray_map _ _ _ fun action _ => appendActionSpecification_settled action]
    refine decodes_readArray _ _ _ _ ?_ fun action haction => ?_
    · unfold IsVector
      rw [List.length_map]
      exact hvector
    · rcases List.mem_map.mp haction with ⟨before, hbefore, rfl⟩
      rw [appendActionSpecification_settled]
      exact decodes_decodeActionSpecification before (hvalid before hbefore) (h before hbefore)
  have hcreate : ScriptEntry.create entry.identifier entry.settled.actions = entry.settled :=
    dif_pos entry.settled.valid
  refine decodes_bind _ _ _ _ _ _ (decodes_readStructureHeader 2 (by decide))
    (decodes_bind _ _ _ _ _ _ (decodes_readLongUnsignedValue _)
      (decodes_last _ _ _ _ _ hactions ?_))
  dsimp only
  rw [hcreate, if_neg (not_not.mpr rfl)]
  exact decodes_pure _

theorem appendScripts_settled (scripts : List ScriptEntry) :
    appendScripts (scripts.map ScriptEntry.settled) = appendScripts scripts :=
  appendArray_map _ _ _ fun entry _ => appendScript_settled entry

/-- The identifiers are those of the scripts. -/
theorem isValidScripts_settled (scripts : List ScriptEntry) (h : isValidScripts scripts = true) :
    isValidScripts (scripts.map ScriptEntry.settled) = true := by
  rw [isValidScripts, Bool.and_eq_true] at h ⊢
  refine ⟨List.all_eq_true.mpr fun entry _ => entry.valid, ?_⟩
  have hidentifiers : (scripts.map ScriptEntry.settled).map ScriptEntry.identifier =
      scripts.map ScriptEntry.identifier := by
    rw [List.map_map]
    exact List.map_congr_left fun _ _ => rfl
  rw [distinct_iff, hidentifiers]
  exact (distinct_iff _ _).mp h.2

theorem decodeScripts_appendScripts (scripts : List ScriptEntry)
    (hvalid : isValidScripts scripts = true) (htable : IsVector scriptEntrySize scripts)
    (hvectors : ∀ entry ∈ scripts, entry.IsVectors) (h : ∀ entry ∈ scripts, entry.WellFormed) :
    decodeScripts (appendScripts scripts) = .ok (scripts.map ScriptEntry.settled) := by
  have hdecodes : Decodes (readArray scriptEntrySize decodeScript) (appendScripts scripts)
      (scripts.map ScriptEntry.settled) := by
    rw [← appendScripts_settled]
    refine decodes_readArray _ _ _ _ ?_ fun entry hentry => ?_
    · unfold IsVector
      rw [List.length_map]
      exact htable
    · rcases List.mem_map.mp hentry with ⟨before, hbefore, rfl⟩
      rw [appendScript_settled]
      exact decodes_decodeScript before (hvectors before hbefore) (h before hbefore)
  -- The identifiers are the same, so that the table is accepted.
  have hsettled := isValidScripts_settled scripts hvalid
  rw [isValidScripts, Bool.and_eq_true] at hsettled
  rw [decodeScripts, decodePayload_of_decodes _ _ _ hdecodes]
  exact if_pos hsettled.2

/-! ### The thresholds and the assignments -/

theorem decodes_decodeThresholds (thresholds : List Bytes)
    (htable : IsVector byteBufferSize thresholds)
    (h : ∀ threshold ∈ thresholds, WellFormedData threshold) :
    Decodes decodeThresholds (appendThresholds thresholds) thresholds := by
  refine decodes_readArray _ _ _ thresholds htable fun threshold hthreshold => ?_
  have hitem := h threshold hthreshold
  have hitems : ¬threshold.isEmpty = true :=
    fun hempty => ne_nil_of_wellFormedData _ hitem (List.isEmpty_iff.mp hempty)
  refine decodes_last _ _ _ _ _ (decodes_skippedData _ hitem) ?_
  rw [id_eq, if_neg hitems]
  exact decodes_pure _

/-- The name of a device is a string. -/
def SapAssignment.IsVectors (assignment : SapAssignment) : Prop :=
  IsVector 1 assignment.logicalDeviceName

theorem decodes_readNameOctets (size : Nat) (name : Bytes) :
    Decodes (readNameOctets size name.length) name name := by
  intro rest
  have hthere : name.length ≤ (name ++ rest).length := by
    rw [List.length_append]
    exact Nat.le_add_right _ _
  rw [readNameOctets, if_pos hthere, List.take_left, List.drop_left]

theorem decodes_readSapAssignments (size : Nat) (assignments : List SapAssignment)
    (htable : IsVector sapAssignmentSize assignments)
    (hvectors : ∀ assignment ∈ assignments, assignment.IsVectors) :
    Decodes (readSapAssignments size) (appendArray appendSapAssignment assignments)
      assignments := by
  refine decodes_readArray _ _ _ assignments htable fun assignment hassignment => ?_
  -- A name in memory is shorter than any length that can be written.
  have hlength := length_lt_of_isVector 1 _ (hvectors assignment hassignment)
  exact decodes_bind _ _ _ _ _ _
    (decodes_readStructureHeader 2 (by decide))
    (decodes_bind _ _ _ _ _ _ (decodes_readLongUnsignedValue _)
      (decodes_bind _ _ _ _ _ _ (decodes_readExpectedTag _)
        (decodes_bind _ _ _ _ _ _ (decodes_readLength _ hlength)
          (decodes_last _ _ _ _ _ (decodes_readNameOctets size _) (decodes_pure assignment)))))

end Cosem

end Dlms
