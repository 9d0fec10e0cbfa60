import Dlms.Cosem.AttributeCodecs

/-!
# Writing back what was read

A client that reads an attribute and writes back what it has read should change
nothing: this is how the configuration of a meter is saved and restored. What
stands against it is that a table has two codecs, that a write makes checks which
the object need not have met when it was made, and that parameters and
thresholds are any octets of the application.

The checks are met by every object that calls have led to, whatever it was made
of. The octets are written back when each parameter and each threshold is one
well-formed item. An object is a record of vectors in the source and a record of
lists here, so what is asked of a table besides is that it is a vector. A write
that fails leaves everything as it was, whatever the octets.

## Main definitions

* `WritesBack`: What an attribute reads as is taken back and read again.
* `Restorable`: This goes for every attribute that may be written, and failed
  writes change nothing.

## Theorems

* `CosemActivityCalendarObject.restorable` and the others: Each of the classes.
* `restorable_structuredAttributes`: All of them.
-/

namespace Dlms

namespace Cosem

open Codec
open Machine (final)
open Apdu (Bytes LogicalName)

section Restoring

variable {ω : Type} (read : UInt8 → ω → Except CosemStatus Bytes)
  (write : UInt8 → Bytes → ω → Except WriteFailure Unit × ω)

/-- The octets that are read are accepted, and read again afterwards. -/
def WritesBack (attributeId : UInt8) (object : ω) : Prop :=
  ∃ octets after, read attributeId object = .ok octets ∧
    write attributeId octets object = (.ok (), after) ∧ read attributeId after = .ok octets

/-- Every attribute that may be written is written back, in every object that
    calls lead to and whose tables and items are whole. A write that fails
    changes no object. -/
structure Restorable (rights : ω → CosemAccessRights) (reachable whole : ω → Prop) : Prop where
  writesBack : ∀ object, reachable object → whole object → ∀ attributeId,
    isAccessWritable ((rights object).attributeAccess attributeId) = true →
      WritesBack read write attributeId object
  unchanged : ∀ attributeId input object, (write attributeId input object).1 ≠ .ok () →
    (write attributeId input object).2 = object

/-- Writing back the octets leaves the object itself as it was. -/
theorem writesBack_of_unchanged (attributeId : UInt8) (object : ω) (octets : Bytes)
    (hread : read attributeId object = .ok octets)
    (hwrite : write attributeId octets object = (.ok (), object)) :
    WritesBack read write attributeId object :=
  ⟨octets, object, hread, hwrite, hread⟩

end Restoring

/-! ### The activity calendar -/

/-- The tables of a calendar are vectors. -/
structure Calendar.IsVectors (calendar : Calendar) : Prop where
  seasons : IsVector seasonProfileSize calendar.seasonProfile
  weeks : IsVector weekProfileSize calendar.weekProfileTable
  days : IsVector dayProfileSize calendar.dayProfileTable
  season : ∀ profile ∈ calendar.seasonProfile, profile.IsVectors
  week : ∀ profile ∈ calendar.weekProfileTable, profile.IsVectors
  day : ∀ profile ∈ calendar.dayProfileTable, profile.IsVectors

namespace CosemActivityCalendarObject

/-- Calls have led to the object. -/
def Reachable (object : CosemActivityCalendarObject) : Prop :=
  ∃ logicalName active passive activatePassiveCalendarTime passiveAccess version calls,
    object = final call calls (create logicalName active passive activatePassiveCalendarTime
      passiveAccess version)

/-- What is known of an object that calls have led to. -/
theorem checked_of_reachable (object : CosemActivityCalendarObject) (h : object.Reachable) :
    object.Checked ∧ ∃ passiveAccess, object.rights = accessRights passiveAccess := by
  rcases h with ⟨logicalName, active, passive, time, passiveAccess, version, calls, rfl⟩
  have hrun := Machine.invariant_run call
    (fun object => object.Checked ∧ object.rights = accessRights passiveAccess)
    (fun object made h =>
      ⟨(sound_call made object).checked h.1, (sound_call made object).rights.trans h.2⟩)
    calls _ ⟨checked_new logicalName active passive time passiveAccess version, rfl⟩
  exact ⟨hrun.2.1, passiveAccess, hrun.2.2⟩

/-- Only attributes of the passive calendar may be written. -/
theorem passive_of_writable (passiveAccess : AttributeAccessMode) (attributeId : UInt8)
    (h : isAccessWritable ((accessRights passiveAccess).attributeAccess attributeId) = true) :
    attributeId = 6 ∨ attributeId = 7 ∨ attributeId = 8 ∨ attributeId = 9 ∨ attributeId = 10 := by
  unfold accessRights at h
  dsimp only at h
  split at h
  case h_6 heq => exact Or.inl (UInt8.toNat.inj heq)
  case h_7 heq => exact Or.inr (Or.inl (UInt8.toNat.inj heq))
  case h_8 heq => exact Or.inr (Or.inr (Or.inl (UInt8.toNat.inj heq)))
  case h_9 heq => exact Or.inr (Or.inr (Or.inr (Or.inl (UInt8.toNat.inj heq))))
  case h_10 heq => exact Or.inr (Or.inr (Or.inr (Or.inr (UInt8.toNat.inj heq))))
  all_goals exact absurd h Bool.false_ne_true

/-- A table that is decoded and set to what it was. -/
theorem writeTable_unchanged {α : Type} (reader : DataReader α)
    (set : α → CosemActivityCalendarObject → Bool × CosemActivityCalendarObject) (octets : Bytes)
    (value : α) (object : CosemActivityCalendarObject) (hdecodes : Decodes reader octets value)
    (hset : set value object = (true, object)) :
    writeTable reader set octets object = (.ok (), object) := by
  rw [writeTable, decodePayload_of_decodes reader octets value hdecodes]
  dsimp only
  rw [hset]

theorem writesBack (object : CosemActivityCalendarObject) (hreachable : object.Reachable)
    (h : object.passive.IsVectors) (attributeId : UInt8)
    (hwritable : isAccessWritable (object.rights.attributeAccess attributeId) = true) :
    WritesBack readAttribute writeAttribute attributeId object := by
  rcases checked_of_reachable object hreachable with ⟨⟨-, hpassive⟩, passiveAccess, hrights⟩
  rw [hrights] at hwritable
  -- No other attribute is writable.
  have hattribute := passive_of_writable passiveAccess attributeId hwritable
  rw [← hrights] at hwritable
  -- Each table is set to itself, and meets the checks on both of its sides.
  have hseasons : object.setSeasonProfilePassive object.passive.seasonProfile = (true, object) := by
    rw [setSeasonProfilePassive, hpassive.seasons, hpassive.weeksFound]
    rfl
  have hweeks :
      object.setWeekProfileTablePassive object.passive.weekProfileTable = (true, object) := by
    rw [setWeekProfileTablePassive, hpassive.weeks, hpassive.daysFound, hpassive.weeksFound]
    rfl
  have hdays :
      object.setDayProfileTablePassive object.passive.dayProfileTable = (true, object) := by
    rw [setDayProfileTablePassive, hpassive.days, hpassive.daysFound]
    rfl
  have hgranted (written denied : Except WriteFailure Unit × CosemActivityCalendarObject) :
      (if (!isAccessWritable (object.rights.attributeAccess attributeId)) = true then denied
        else written) = written := by
    rw [hwritable, Bool.not_true, if_neg Bool.false_ne_true]
  rcases hattribute with rfl | rfl | rfl | rfl | rfl
  · exact writesBack_of_unchanged _ _ 6 object _ rfl (hgranted _ _)
  · refine writesBack_of_unchanged _ _ 7 object _ rfl ((hgranted _ _).trans ?_)
    exact writeTable_unchanged _ _ _ _ object
      (decodes_decodeSeasonProfileTable _ h.seasons h.season) hseasons
  · refine writesBack_of_unchanged _ _ 8 object _ rfl ((hgranted _ _).trans ?_)
    exact writeTable_unchanged _ _ _ _ object
      (decodes_decodeWeekProfileTable _ h.weeks h.week) hweeks
  · refine writesBack_of_unchanged _ _ 9 object _ rfl ((hgranted _ _).trans ?_)
    exact writeTable_unchanged _ _ _ _ object
      (decodes_decodeDayProfileTable _ h.days h.day) hdays
  · refine writesBack_of_unchanged _ _ 10 object _ rfl ((hgranted _ _).trans ?_)
    rw [decodePayload_of_decodes _ _ _ (decodes_readDateTime object.activatePassiveCalendarTime)]
    rfl

theorem restorable : Restorable readAttribute writeAttribute rights Reachable
    fun object => object.passive.IsVectors where
  writesBack := writesBack
  unchanged := fun attributeId input object =>
    (sound_writeAttribute attributeId input object).unchanged

end CosemActivityCalendarObject

/-! ### The script table -/

/-- Only one attribute may be written. -/
theorem value_of_writable (access : AttributeAccessMode) (attributeId : UInt8)
    (h : isAccessWritable ((valueAccessRights access).attributeAccess attributeId) = true) :
    attributeId = 2 := by
  unfold valueAccessRights at h
  dsimp only at h
  split at h
  case h_2 heq => exact UInt8.toNat.inj heq
  all_goals exact absurd h Bool.false_ne_true

namespace CosemScriptTableObject

def Reachable (object : CosemScriptTableObject) : Prop :=
  ∃ logicalName scripts scriptsAccess version calls,
    object = final call calls (create logicalName scripts scriptsAccess version)

/-- A write is refused or holds valid scripts. -/
theorem writeAttribute_cases (attributeId : UInt8) (input : Bytes)
    (object : CosemScriptTableObject) :
    (∃ failure, object.writeAttribute attributeId input = (.error failure, object)) ∨
      ∃ decoded, isValidScripts decoded = true ∧
        object.writeAttribute attributeId input = (.ok (), { object with scripts := decoded }) := by
  unfold writeAttribute
  split
  · by_cases hwritable : isAccessWritable (object.rights.attributeAccess 2) = true
    · rw [if_pos hwritable]
      cases decodeScripts input with
      | error failure => exact Or.inl ⟨failure, rfl⟩
      | ok decoded =>
          dsimp only
          by_cases hvalid : isValidScripts decoded = true
          · rw [hvalid, Bool.not_true, if_neg Bool.false_ne_true]
            exact Or.inr ⟨decoded, hvalid, rfl⟩
          · rw [Bool.not_eq_true] at hvalid
            rw [hvalid, Bool.not_false, if_pos rfl]
            exact Or.inl ⟨_, rfl⟩
    · rw [if_neg hwritable]
      exact Or.inl ⟨_, rfl⟩
  · exact Or.inl ⟨_, rfl⟩
  · exact Or.inl ⟨_, rfl⟩

theorem valid_call (access : AttributeAccessMode) (made : ScriptTableCall)
    (object : CosemScriptTableObject)
    (h : isValidScripts object.scripts = true ∧ object.rights = valueAccessRights access) :
    isValidScripts (object.call made).2.scripts = true ∧
      (object.call made).2.rights = valueAccessRights access := by
  cases made with
  | writeAttribute attributeId input =>
      change isValidScripts (object.writeAttribute attributeId input).2.scripts = true ∧
        (object.writeAttribute attributeId input).2.rights = valueAccessRights access
      -- Only a write that decodes reaches the scripts, and it has been checked by then.
      rcases object.writeAttribute_cases attributeId input with
        ⟨failure, hwrite⟩ | ⟨decoded, hvalid, hwrite⟩
      · rw [hwrite]
        exact h
      · rw [hwrite]
        exact ⟨hvalid, h.2⟩
  | invokeMethod methodId input => exact h
  | setScripts scripts =>
      change isValidScripts (object.setScripts scripts).2.scripts = true ∧
        (object.setScripts scripts).2.rights = valueAccessRights access
      unfold setScripts
      by_cases hvalid : isValidScripts scripts = true
      · rw [hvalid, Bool.not_true, if_neg Bool.false_ne_true]
        exact ⟨hvalid, h.2⟩
      · rw [Bool.not_eq_true] at hvalid
        rw [hvalid, Bool.not_false, if_pos rfl]
        exact h

theorem valid_of_reachable (object : CosemScriptTableObject) (h : object.Reachable) :
    isValidScripts object.scripts = true ∧
      ∃ access, object.rights = valueAccessRights access := by
  rcases h with ⟨logicalName, scripts, access, version, calls, rfl⟩
  have hnew : isValidScripts (create logicalName scripts access version).scripts = true :=
    Calendar.holds_of_dropped _ _ (fun table => isValidScripts table = true) rfl id
  have hrun := Machine.invariant_run call
    (fun object => isValidScripts object.scripts = true ∧ object.rights = valueAccessRights access)
    (fun object made h => valid_call access made object h) calls _ ⟨hnew, rfl⟩
  exact ⟨hrun.2.1, access, hrun.2.2⟩

/-- The scripts and their actions are vectors, and every parameter is an item. -/
structure Whole (object : CosemScriptTableObject) : Prop where
  table : IsVector scriptEntrySize object.scripts
  actions : ∀ entry ∈ object.scripts, entry.IsVectors
  parameters : ∀ entry ∈ object.scripts, entry.WellFormed

/-- The parameters of null data are gone afterwards, and read as they did. -/
theorem writesBack (object : CosemScriptTableObject) (hreachable : object.Reachable)
    (h : object.Whole) (attributeId : UInt8)
    (hwritable : isAccessWritable (object.rights.attributeAccess attributeId) = true) :
    WritesBack readAttribute writeAttribute attributeId object := by
  rcases valid_of_reachable object hreachable with ⟨hvalid, access, hrights⟩
  have hattribute : attributeId = 2 := by
    rw [hrights] at hwritable
    exact value_of_writable access attributeId hwritable
  subst hattribute
  have hdecoded := decodeScripts_appendScripts object.scripts hvalid h.table h.actions h.parameters
  have hwrite : object.writeAttribute 2 (appendScripts object.scripts) =
      (.ok (), { object with scripts := object.scripts.map ScriptEntry.settled }) := by
    change (if isAccessWritable (object.rights.attributeAccess 2) = true then _ else _) = _
    rw [if_pos hwritable, hdecoded]
    dsimp only
    rw [isValidScripts_settled _ hvalid, Bool.not_true, if_neg Bool.false_ne_true]
  exact ⟨_, _, rfl, hwrite, congrArg Except.ok (appendScripts_settled object.scripts)⟩

theorem restorable : Restorable readAttribute writeAttribute rights Reachable Whole where
  writesBack := writesBack
  unchanged := fun attributeId input object hfailed => by
    rcases object.writeAttribute_cases attributeId input with
      ⟨failure, hwrite⟩ | ⟨decoded, -, hwrite⟩
    · rw [hwrite]
    · rw [hwrite] at hfailed
      exact absurd rfl hfailed

end CosemScriptTableObject

/-! ### The register monitor -/

namespace CosemRegisterMonitorObject

def Reachable (object : CosemRegisterMonitorObject) : Prop :=
  ∃ logicalName thresholds monitoredValue actions thresholdsAccess version calls,
    object = final call calls (create logicalName thresholds monitoredValue actions
      thresholdsAccess version)

/-- What the setters of the thresholds and of the actions see to. -/
def Matched (object : CosemRegisterMonitorObject) : Prop :=
  isValidThresholds object.thresholds = true ∧
    thresholdsMatchActions object.thresholds object.actions = true

theorem value_of_writable (access : AttributeAccessMode) (attributeId : UInt8)
    (h : isAccessWritable ((accessRights access).attributeAccess attributeId) = true) :
    attributeId = 2 := by
  unfold accessRights at h
  dsimp only at h
  split at h
  case h_4 heq => exact UInt8.toNat.inj heq
  all_goals exact absurd h Bool.false_ne_true

/-- A write is refused or holds valid thresholds, as many as there are sets of
    actions. -/
theorem writeAttribute_cases (attributeId : UInt8) (input : Bytes)
    (object : CosemRegisterMonitorObject) :
    (∃ failure, object.writeAttribute attributeId input = (.error failure, object)) ∨
      ∃ decoded, isValidThresholds decoded = true ∧
        thresholdsMatchActions decoded object.actions = true ∧
        object.writeAttribute attributeId input =
          (.ok (), { object with thresholds := decoded }) := by
  unfold writeAttribute
  split
  · by_cases hwritable : isAccessWritable (object.rights.attributeAccess 2) = true
    · rw [hwritable, Bool.not_true, if_neg Bool.false_ne_true]
      cases decodePayload decodeThresholds input with
      | error failure => exact Or.inl ⟨failure, rfl⟩
      | ok decoded =>
          dsimp only
          by_cases hbad : (!isValidThresholds decoded ||
              !thresholdsMatchActions decoded object.actions) = true
          · rw [if_pos hbad]
            exact Or.inl ⟨_, rfl⟩
          · rw [if_neg hbad]
            have hgood := both_of_not_refused _ _ hbad
            exact Or.inr ⟨decoded, hgood.1, hgood.2, rfl⟩
    · rw [Bool.not_eq_true] at hwritable
      rw [hwritable, Bool.not_false, if_pos rfl]
      exact Or.inl ⟨_, rfl⟩
  all_goals exact Or.inl ⟨_, rfl⟩

theorem matched_call (access : AttributeAccessMode) (made : RegisterMonitorCall)
    (object : CosemRegisterMonitorObject)
    (h : object.Matched ∧ object.rights = accessRights access) :
    (object.call made).2.Matched ∧ (object.call made).2.rights = accessRights access := by
  cases made with
  | writeAttribute attributeId input =>
      change (object.writeAttribute attributeId input).2.Matched ∧
        (object.writeAttribute attributeId input).2.rights = accessRights access
      rcases object.writeAttribute_cases attributeId input with
        ⟨failure, hwrite⟩ | ⟨decoded, hvalid, hmatch, hwrite⟩
      · rw [hwrite]
        exact h
      · rw [hwrite]
        exact ⟨⟨hvalid, hmatch⟩, h.2⟩
  | invokeMethod methodId input => exact h
  | setThresholds thresholds =>
      change (object.setThresholds thresholds).2.Matched ∧
        (object.setThresholds thresholds).2.rights = accessRights access
      unfold setThresholds
      by_cases hbad : (!isValidThresholds thresholds ||
          !thresholdsMatchActions thresholds object.actions) = true
      · rw [if_pos hbad]
        exact h
      · rw [if_neg hbad]
        exact ⟨both_of_not_refused _ _ hbad, h.2⟩
  -- The monitored value has no part in the check.
  | setMonitoredValue monitoredValue => exact h
  | setActions actions =>
      change (object.setActions actions).2.Matched ∧
        (object.setActions actions).2.rights = accessRights access
      unfold setActions
      -- New actions are held to the thresholds that are there.
      by_cases hmatch : thresholdsMatchActions object.thresholds actions = true
      · rw [hmatch, Bool.not_true, if_neg Bool.false_ne_true]
        exact ⟨⟨h.1.1, hmatch⟩, h.2⟩
      · rw [Bool.not_eq_true] at hmatch
        rw [hmatch, Bool.not_false, if_pos rfl]
        exact h

theorem matched_of_reachable (object : CosemRegisterMonitorObject) (h : object.Reachable) :
    object.Matched ∧ ∃ access, object.rights = accessRights access := by
  rcases h with ⟨logicalName, thresholds, monitoredValue, actions, access, version, calls, rfl⟩
  -- A new object has no thresholds if they do not match.
  have hnew : (create logicalName thresholds monitoredValue actions access version).Matched := by
    unfold create
    by_cases hkept : (isValidThresholds thresholds &&
        thresholdsMatchActions thresholds actions) = true
    · simp only [Matched, hkept, if_true]
      exact Bool.and_eq_true_iff.mp hkept
    · simp only [Matched, hkept, Bool.false_eq_true, if_false]
      exact ⟨rfl, rfl⟩
  have hrun := Machine.invariant_run call
    (fun object => object.Matched ∧ object.rights = accessRights access)
    (fun object made h => matched_call access made object h) calls _ ⟨hnew, rfl⟩
  exact ⟨hrun.2.1, access, hrun.2.2⟩

/-- The thresholds are a vector of items. -/
structure Whole (object : CosemRegisterMonitorObject) : Prop where
  table : IsVector byteBufferSize object.thresholds
  thresholds : ∀ threshold ∈ object.thresholds, WellFormedData threshold

theorem writesBack (object : CosemRegisterMonitorObject) (hreachable : object.Reachable)
    (h : object.Whole) (attributeId : UInt8)
    (hwritable : isAccessWritable (object.rights.attributeAccess attributeId) = true) :
    WritesBack readAttribute writeAttribute attributeId object := by
  rcases matched_of_reachable object hreachable with ⟨⟨hvalid, hmatch⟩, access, hrights⟩
  have hattribute : attributeId = 2 := by
    rw [hrights] at hwritable
    exact value_of_writable access attributeId hwritable
  subst hattribute
  have hdecodes := decodes_decodeThresholds object.thresholds h.table h.thresholds
  have hwrite :
      object.writeAttribute 2 (appendThresholds object.thresholds) = (.ok (), object) := by
    change (if (!isAccessWritable (object.rights.attributeAccess 2)) = true then _ else _) = _
    rw [hwritable, Bool.not_true, if_neg Bool.false_ne_true,
      decodePayload_of_decodes _ _ _ hdecodes]
    dsimp only
    rw [hvalid, hmatch, Bool.not_true, Bool.or_false, if_neg Bool.false_ne_true]
  exact writesBack_of_unchanged _ _ _ object _ rfl hwrite

theorem restorable : Restorable readAttribute writeAttribute rights Reachable Whole where
  writesBack := writesBack
  unchanged := fun attributeId input object hfailed => by
    rcases object.writeAttribute_cases attributeId input with
      ⟨failure, hwrite⟩ | ⟨decoded, -, -, hwrite⟩
    · rw [hwrite]
    · rw [hwrite] at hfailed
      exact absurd rfl hfailed

end CosemRegisterMonitorObject

/-! ### The assignment of service access points -/

namespace CosemSapAssignmentObject

def Reachable (object : CosemSapAssignmentObject) : Prop :=
  ∃ logicalName assignments listAccess version calls,
    object = final call calls (create logicalName assignments listAccess version)

theorem writeAttribute_cases (attributeId : UInt8) (input : Bytes)
    (object : CosemSapAssignmentObject) :
    (∃ failure, object.writeAttribute attributeId input = (.error failure, object)) ∨
      ∃ decoded, object.writeAttribute attributeId input =
        (.ok (), { object with assignments := decoded }) := by
  unfold writeAttribute
  split
  · exact Or.inl ⟨_, rfl⟩
  · by_cases hwritable : isAccessWritable (object.rights.attributeAccess attributeId) = true
    · rw [hwritable, Bool.not_true, if_neg Bool.false_ne_true]
      cases decodePayload (readSapAssignments input.length) input with
      | error failure => exact Or.inl ⟨failure, rfl⟩
      | ok decoded => exact Or.inr ⟨decoded, rfl⟩
    · rw [Bool.not_eq_true] at hwritable
      rw [hwritable, Bool.not_false, if_pos rfl]
      exact Or.inl ⟨_, rfl⟩
  · exact Or.inl ⟨_, rfl⟩

theorem rights_call (made : SapAssignmentCall) (object : CosemSapAssignmentObject) :
    (object.call made).2.rights = object.rights := by
  cases made with
  | writeAttribute attributeId input =>
      change (object.writeAttribute attributeId input).2.rights = object.rights
      rcases object.writeAttribute_cases attributeId input with
        ⟨failure, hwrite⟩ | ⟨decoded, hwrite⟩
      · rw [hwrite]
      · rw [hwrite]
  | invokeMethod methodId input => rfl
  | setAssignments assignments => rfl

theorem rights_of_reachable (object : CosemSapAssignmentObject) (h : object.Reachable) :
    ∃ access, object.rights = valueAccessRights access := by
  rcases h with ⟨logicalName, assignments, access, version, calls, rfl⟩
  have hrun := Machine.invariant_run call
    (fun object => object.rights = valueAccessRights access)
    (fun object made h => (rights_call made object).trans h) calls
    (create logicalName assignments access version) rfl
  exact ⟨access, hrun.2⟩

/-- The list and the names in it are vectors. -/
structure Whole (object : CosemSapAssignmentObject) : Prop where
  table : IsVector sapAssignmentSize object.assignments
  names : ∀ assignment ∈ object.assignments, assignment.IsVectors

theorem writesBack (object : CosemSapAssignmentObject) (hreachable : object.Reachable)
    (h : object.Whole) (attributeId : UInt8)
    (hwritable : isAccessWritable (object.rights.attributeAccess attributeId) = true) :
    WritesBack readAttribute writeAttribute attributeId object := by
  rcases rights_of_reachable object hreachable with ⟨access, hrights⟩
  have hattribute : attributeId = 2 := by
    rw [hrights] at hwritable
    exact value_of_writable access attributeId hwritable
  subst hattribute
  have hdecodes := decodes_readSapAssignments
    (appendArray appendSapAssignment object.assignments).length object.assignments h.table h.names
  have hwrite : object.writeAttribute 2 (appendArray appendSapAssignment object.assignments) =
      (.ok (), object) := by
    change (if (!isAccessWritable (object.rights.attributeAccess 2)) = true then _ else _) = _
    rw [hwritable, Bool.not_true, if_neg Bool.false_ne_true,
      decodePayload_of_decodes _ _ _ hdecodes]
  exact writesBack_of_unchanged _ _ _ object _ rfl hwrite

theorem restorable : Restorable readAttribute writeAttribute rights Reachable Whole where
  writesBack := writesBack
  unchanged := fun attributeId input object hfailed => by
    rcases object.writeAttribute_cases attributeId input with ⟨failure, hwrite⟩ | ⟨decoded, hwrite⟩
    · rw [hwrite]
    · rw [hwrite] at hfailed
      exact absurd rfl hfailed

end CosemSapAssignmentObject

/-! ### All of them -/

/-- Reading an attribute and writing back what was read is the identity on what
    it reads as, in each of the four classes, and failed writes change nothing. -/
theorem restorable_structuredAttributes :
    Restorable CosemActivityCalendarObject.readAttribute
        CosemActivityCalendarObject.writeAttribute CosemActivityCalendarObject.rights
        CosemActivityCalendarObject.Reachable (fun object => object.passive.IsVectors) ∧
      Restorable CosemScriptTableObject.readAttribute CosemScriptTableObject.writeAttribute
        CosemScriptTableObject.rights CosemScriptTableObject.Reachable
        CosemScriptTableObject.Whole ∧
      Restorable CosemRegisterMonitorObject.readAttribute
        CosemRegisterMonitorObject.writeAttribute CosemRegisterMonitorObject.rights
        CosemRegisterMonitorObject.Reachable CosemRegisterMonitorObject.Whole ∧
      Restorable CosemSapAssignmentObject.readAttribute CosemSapAssignmentObject.writeAttribute
        CosemSapAssignmentObject.rights CosemSapAssignmentObject.Reachable
        CosemSapAssignmentObject.Whole :=
  ⟨CosemActivityCalendarObject.restorable, CosemScriptTableObject.restorable,
    CosemRegisterMonitorObject.restorable, CosemSapAssignmentObject.restorable⟩

/-- A script with a parameter, and the day that starts it. -/
def lightScript : ScriptEntry where
  identifier := 7
  actions :=
    [{ serviceId := .executeMethod
       classId := 70
       logicalName := ⟨0, 0, 96, 3, 10, 255⟩
       index := 2
       parameter := [0x0F, 0x00] }]
  valid := rfl

def lightDay : DayProfile where
  dayId := 1
  daySchedule :=
    [{ startTime := ⟨18, 30, 0, 0, rfl, rfl, rfl, rfl⟩
       scriptLogicalName := ⟨0, 0, 10, 0, 100, 255⟩
       scriptSelector := 7 }]
  valid := rfl

/-- The first day of a year, whichever day of the week that is. -/
def newYear : DateTime :=
  ⟨2026, 1, 1, 0xFF, 0, 0, 0, 0, 0, 0, rfl, rfl, rfl, rfl, rfl, rfl, rfl, rfl⟩

/-- Tables that calls have set are read and written back: the days of a calendar,
    and the scripts. -/
theorem restorable_lightTables :
    WritesBack CosemActivityCalendarObject.readAttribute
        CosemActivityCalendarObject.writeAttribute 9
        (final CosemActivityCalendarObject.call [.setDayProfileTablePassive [lightDay]]
          (.create ⟨0, 0, 13, 0, 0, 255⟩ ⟨[], [], [], []⟩ ⟨[], [], [], []⟩ newYear
            .readAndWrite 0)) ∧
      WritesBack CosemScriptTableObject.readAttribute CosemScriptTableObject.writeAttribute 2
        (final CosemScriptTableObject.call [.setScripts [lightScript]]
          (.create ⟨0, 0, 10, 0, 100, 255⟩ [] .readAndWrite 0)) := by
  refine ⟨restorable_structuredAttributes.1.writesBack _ ⟨_, _, _, _, _, _, _, rfl⟩ ?_ 9 rfl,
    restorable_structuredAttributes.2.1.writesBack _ ⟨_, _, _, _, _, rfl⟩ ?_ 2 rfl⟩
  · refine ⟨Nat.zero_le _, Nat.zero_le _, ?_, List.forall_mem_nil _, List.forall_mem_nil _,
      fun profile hprofile => ?_⟩
    · change 1 ≤ maximumCount dayProfileSize
      decide
    · rw [List.mem_singleton.mp hprofile]
      change 1 ≤ maximumCount dayProfileActionSize
      decide
  · refine ⟨?_, fun entry hentry => ?_, fun entry hentry action haction => ?_⟩
    · change 1 ≤ maximumCount scriptEntrySize
      decide
    · rw [List.mem_singleton.mp hentry]
      change 1 ≤ maximumCount actionSpecificationSize
      decide
    · rw [List.mem_singleton.mp hentry] at haction
      rw [List.mem_singleton.mp haction]
      exact Or.inr ⟨_, rfl⟩

end Cosem

end Dlms
