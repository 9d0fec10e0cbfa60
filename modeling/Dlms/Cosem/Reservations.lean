import Dlms.Apdu.Reservations
import Dlms.Cosem.AssociationCodecs
import Dlms.Cosem.SapAssignment
import Dlms.Cosem.ScriptTable

/-!
# What the decoders of the attributes ask for

The decoders of the attributes read an array as those of the APDUs read a list: the number, the
room for all elements, the elements. Here the call of `reserve` may be refused, by the size of an
element. A name in the list of the service access points asks for room once more, with its
length, when the check of its end is passed, and a sum that wraps around passes it.

No decoder compares the number with what is left of the input. So it asks for no more than is
left exactly when the input announces no more than stands behind.

## Main definitions

* `Room.decodeCaptureObjectsAt`, `Room.readProfileBuffer`, `Room.readSapAssignments`,
  `Room.readScripts`: The decoders with a log.
* `captureObjectsHeaders` and the others: Where elements are announced.
* `ListDecoder`: The decoders of lists of both layers.

## Theorems

* `announces_captureObjects` and the others: The decoders ask at these places.
* `boundedReservations_iff`: When a decoder asks for no more than is left.
-/

namespace Dlms

namespace Cosem

open Codec
open Apdu (Bytes)

abbrev ReservingDataReader (α : Type) : Type := Reserving UInt8 Refusal α

/-! ### The decoders -/

namespace Room

open Reserving (lift)

def readArray {α : Type} (elementSize : Nat) (element : ReservingDataReader α) :
    ReservingDataReader (List α) := do
  lift (readExpectedTag arrayTag)
  Reserving.list readLength (reserve elementSize) element

def decodeCaptureObjectsAt : ReservingDataReader (List CosemCaptureObject) :=
  readArray captureObjectSize (lift decodeCaptureObjectAt)

def readProfileBuffer : ReservingDataReader (List Bytes) :=
  readArray byteBufferSize (lift readProfileRow)

/-- The name asks a string for its length, once the check is passed. -/
def readNameOctets (size length : Nat) : ReservingDataReader Bytes := fun rest =>
  let offset := size - rest.length
  if length ≤ rest.length then
    ([⟨length, rest.length⟩], .ok (rest.take length, rest.drop length))
  else if (offset + length) % 2 ^ 64 > size then
    ([], .error .invalid)
  else
    ([⟨length, rest.length⟩], .error .lengthError)

def readSapAssignment (size : Nat) : ReservingDataReader SapAssignment := do
  lift (readStructureHeader 2)
  let sap ← lift readLongUnsignedValue
  lift (readExpectedTag dataOctetStringTag)
  let length ← lift readLength
  let logicalDeviceName ← readNameOctets size length
  pure { sap, logicalDeviceName }

def readSapAssignments (size : Nat) : ReservingDataReader (List SapAssignment) :=
  readArray sapAssignmentSize (readSapAssignment size)

def decodeScript : ReservingDataReader ScriptEntry := do
  lift (readStructureHeader 2)
  let identifier ← lift readLongUnsignedValue
  let actions ← readArray actionSpecificationSize (lift decodeActionSpecification)
  let entry := ScriptEntry.create identifier actions
  if entry.actions.length ≠ actions.length then lift refuse else pure entry

def readScripts : ReservingDataReader (List ScriptEntry) :=
  readArray scriptEntrySize decodeScript

/-- A decoder of a whole input. -/
def readPayload {α : Type} (reader : ReservingDataReader α) : ReservingDataReader α := do
  let value ← reader
  lift (Parser.atEnd .invalid)
  pure value

end Room

/-! ### Where elements are announced -/

/-- An array announces its elements behind the tag. -/
def arrayHeaders {α : Type} (elementSize : Nat) (element : DataReader α) (h : Headers UInt8) :
    Headers UInt8 :=
  Headers.behind (readExpectedTag arrayTag) fun _ =>
    Headers.list readLength (reserve elementSize) element h

def captureObjectsHeaders : Headers UInt8 :=
  arrayHeaders captureObjectSize decodeCaptureObjectAt Headers.none

def profileBufferHeaders : Headers UInt8 :=
  arrayHeaders byteBufferSize readProfileRow Headers.none

/-- A name announces its octets when it ends within the input of this size, or the sum that is
    compared with the size wraps around. -/
def nameHeaders (size length : Nat) : Headers UInt8 := fun input count rest =>
  (length ≤ input.length ∨ (size - input.length + length) % 2 ^ 64 ≤ size) ∧
    Headers.here length input count rest

/-- The name stands behind the service access point. -/
def sapAssignmentHeaders (size : Nat) : Headers UInt8 :=
  Headers.behind (readStructureHeader 2) fun _ =>
    Headers.behind readLongUnsignedValue fun _ =>
      Headers.behind (readExpectedTag dataOctetStringTag) fun _ =>
        Headers.behind readLength fun length => nameHeaders size length

def sapAssignmentsHeaders (size : Nat) : Headers UInt8 :=
  arrayHeaders sapAssignmentSize (readSapAssignment size) (sapAssignmentHeaders size)

/-- The actions of a script stand behind its identifier. -/
def scriptHeaders : Headers UInt8 :=
  Headers.behind (readStructureHeader 2) fun _ =>
    Headers.behind readLongUnsignedValue fun _ =>
      arrayHeaders actionSpecificationSize decodeActionSpecification Headers.none

def scriptsHeaders : Headers UInt8 := arrayHeaders scriptEntrySize decodeScript scriptHeaders

/-! ### The decoders without the log -/

theorem parser_readArray {α : Type} (elementSize : Nat) (element : ReservingDataReader α)
    (q : DataReader α) (hq : element.parser = q) :
    (Room.readArray elementSize element).parser = readArray elementSize q := by
  rw [Room.readArray, Reserving.parser_bind, Reserving.parser_list, hq]
  rfl

theorem parser_readNameOctets (size length : Nat) :
    (Room.readNameOctets size length).parser = readNameOctets size length := by
  funext rest
  simp only [Reserving.parser, Room.readNameOctets, readNameOctets]
  split_ifs <;> rfl

theorem parser_readSapAssignment (size : Nat) :
    (Room.readSapAssignment size).parser = readSapAssignment size := by
  simp only [Room.readSapAssignment, Reserving.parser_bind, Reserving.parser_lift,
    Reserving.parser_pure, parser_readNameOctets]
  rfl

theorem parser_decodeScript : Room.decodeScript.parser = decodeScript := by
  simp only [Room.decodeScript, Reserving.parser_bind, Reserving.parser_lift,
    Reserving.parser_ite, Reserving.parser_pure, parser_readArray _ _ _ rfl]
  rfl

theorem parser_readPayload {α : Type} (reader : ReservingDataReader α) (q : DataReader α)
    (hq : reader.parser = q) : (Room.readPayload reader).parser = readPayload q := by
  simp only [Room.readPayload, Reserving.parser_bind, Reserving.parser_lift,
    Reserving.parser_pure, hq]
  rfl

/-! ### Where the readers stop -/

theorem delimited_readExpectedTag (tag : UInt8) : Delimited (readExpectedTag tag) := by
  refine delimited_bind _ _ (delimited_item _) fun first => ?_
  split_ifs
  · exact delimited_pure _
  · exact delimited_fail _

theorem delimited_readLongUnsignedValue : Delimited readLongUnsignedValue :=
  delimited_bind _ _ (delimited_readExpectedTag _) fun _ =>
    delimited_bind _ _ (delimited_items _ _) fun _ => delimited_pure _

theorem delimited_readTagged (tag : UInt8) : Delimited (readTagged tag) :=
  delimited_bind _ _ (delimited_readExpectedTag tag) fun _ => delimited_item _

theorem delimited_readLogicalNameValue : Delimited readLogicalNameValue := by
  refine delimited_bind _ _ ?_ fun data => ?_
  · refine delimited_bind _ _ (delimited_readExpectedTag _) fun _ => ?_
    refine delimited_bind _ _ delimited_readLength fun length => ?_
    split_ifs
    · exact delimited_fail _
    · exact delimited_items _ _
  · split
    · exact delimited_pure _
    · exact delimited_fail _

theorem delimited_readStructureHeader (fields : Nat) : Delimited (readStructureHeader fields) := by
  refine delimited_bind _ _ (delimited_readExpectedTag _) fun _ => ?_
  refine delimited_bind _ _ delimited_readLength fun fieldCount => ?_
  split_ifs
  · exact delimited_pure _
  · exact delimited_fail _

theorem silent_reserve (elementSize count : Nat) : Silent (reserve elementSize count) := by
  rw [reserve]
  split_ifs
  · exact Or.inl ⟨_, rfl⟩
  · exact Or.inr rfl

theorem delimited_readArray {α : Type} (elementSize : Nat) (element : DataReader α)
    (h : Delimited element) : Delimited (readArray elementSize element) := by
  refine delimited_bind _ _ (delimited_readExpectedTag _) fun _ => ?_
  refine delimited_bind _ _ delimited_readLength fun count => ?_
  refine delimited_bind _ _ (delimited_of_silent _ (silent_reserve _ _)) fun _ => ?_
  exact delimited_repeatN _ count h

theorem delimited_decodeCaptureObjectAt : Delimited decodeCaptureObjectAt := by
  refine delimited_bind _ _ (delimited_readStructureHeader _) fun _ => ?_
  refine delimited_bind _ _ delimited_readLongUnsignedValue fun _ => ?_
  refine delimited_bind _ _ delimited_readLogicalNameValue fun _ => ?_
  refine delimited_bind _ _ (delimited_readTagged _) fun _ => ?_
  exact delimited_bind _ _ delimited_readLongUnsignedValue fun _ => delimited_pure _

theorem delimited_skippedData : Delimited skippedData :=
  delimited_bind _ _ (delimited_consumed _ (delimited_skipDlmsData _)) fun _ => delimited_pure _

/-- A row is delimited as the item that it is. -/
theorem delimited_readProfileRow : Delimited readProfileRow := by
  intro ts row rest h
  rcases consumes_readProfileRow ts row rest h with ⟨used, hts, hused, hrow⟩
  exact ⟨used, hts, hused ▸ decodes_readProfileRow row hrow⟩

/-- The name that is read is within the input, wherever the check of its end stands. -/
theorem delimited_readNameOctets (size length : Nat) : Delimited (readNameOctets size length) := by
  intro ts name rest h
  by_cases hlength : length ≤ ts.length
  · simp only [readNameOctets, if_pos hlength, Except.ok.injEq, Prod.mk.injEq] at h
    rcases h with ⟨rfl, rfl⟩
    refine ⟨ts.take length, (List.take_append_drop _ _).symm, fun other => ?_⟩
    have htake : (ts.take length).length = length := by
      rw [List.length_take, Nat.min_eq_left hlength]
    have hwithin : length ≤ (ts.take length ++ other).length := by
      rw [List.length_append, htake]
      exact Nat.le_add_right _ _
    simp only [readNameOctets, if_pos hwithin]
    rw [List.take_left' htake, List.drop_left' htake]
  · simp only [readNameOctets, if_neg hlength] at h
    split_ifs at h

theorem delimited_readSapAssignment (size : Nat) : Delimited (readSapAssignment size) := by
  refine delimited_bind _ _ (delimited_readStructureHeader _) fun _ => ?_
  refine delimited_bind _ _ delimited_readLongUnsignedValue fun _ => ?_
  refine delimited_bind _ _ (delimited_readExpectedTag _) fun _ => ?_
  refine delimited_bind _ _ delimited_readLength fun length => ?_
  exact delimited_bind _ _ (delimited_readNameOctets _ _) fun _ => delimited_pure _

theorem delimited_decodeActionSpecification : Delimited decodeActionSpecification := by
  refine delimited_bind _ _ (delimited_readStructureHeader _) fun _ => ?_
  refine delimited_bind _ _ (delimited_readTagged _) fun serviceIdRaw => ?_
  cases ScriptServiceId.ofCode serviceIdRaw with
  | none => exact delimited_fail _
  | some serviceId =>
      refine delimited_bind _ _ delimited_readLongUnsignedValue fun _ => ?_
      refine delimited_bind _ _ delimited_readLogicalNameValue fun _ => ?_
      refine delimited_bind _ _ (delimited_readTagged _) fun _ => ?_
      refine delimited_bind _ _ ?_ fun _ => ?_
      · exact delimited_bind _ _ delimited_skippedData fun _ => delimited_pure _
      · dsimp only
        split_ifs
        · exact delimited_pure _
        · exact delimited_fail _

theorem delimited_decodeScript : Delimited decodeScript := by
  refine delimited_bind _ _ (delimited_readStructureHeader _) fun _ => ?_
  refine delimited_bind _ _ delimited_readLongUnsignedValue fun _ => ?_
  refine delimited_bind _ _ (delimited_readArray _ _ delimited_decodeActionSpecification)
    fun actions => ?_
  dsimp only
  split_ifs
  · exact delimited_fail _
  · exact delimited_pure _

/-! ### Where the decoders ask -/

theorem announces_readArray {α : Type} (elementSize : Nat) (element : ReservingDataReader α)
    (q : DataReader α) (h : Headers UInt8) (hq : element.parser = q) (hp : Announces element h)
    (hitem : Delimited q) :
    Announces (Room.readArray elementSize element) (arrayHeaders elementSize q h) :=
  announces_behind _ _ _ (delimited_readExpectedTag _) fun _ =>
    announces_list _ _ _ _ _ delimited_readLength (silent_reserve elementSize) hq hp hitem

theorem announces_captureObjects : Announces Room.decodeCaptureObjectsAt captureObjectsHeaders :=
  announces_readArray _ _ _ _ rfl (announces_lift _) delimited_decodeCaptureObjectAt

theorem announces_profileBuffer : Announces Room.readProfileBuffer profileBufferHeaders :=
  announces_readArray _ _ _ _ rfl (announces_lift _) delimited_readProfileRow

theorem announces_name (size length : Nat) :
    Announces (Room.readNameOctets size length) (nameHeaders size length) := by
  intro ts count left
  have hasked (r : Reservation) (answer : Except Refusal (Bytes × Bytes)) :
      ⟨count, left⟩ ∈ (([r], answer) : List Reservation × _).1 ↔
        count = r.count ∧ left = r.left := by
    rw [List.mem_singleton]
    exact ⟨fun h => ⟨congrArg Reservation.count h, congrArg Reservation.left h⟩,
      fun ⟨hcount, hleft⟩ => by rw [hcount, hleft]⟩
  -- A name that has passed the check asks for its octets right here.
  have hplace (hpassed : length ≤ ts.length ∨ (size - ts.length + length) % 2 ^ 64 ≤ size) :
      (count = length ∧ left = ts.length) ↔
        ∃ rest, rest.length = left ∧ nameHeaders size length ts count rest := by
    constructor
    · rintro ⟨rfl, rfl⟩
      exact ⟨ts, rfl, hpassed, rfl, rfl⟩
    · rintro ⟨rest, rfl, -, rfl, rfl⟩
      exact ⟨rfl, rfl⟩
  rw [Reserving.log, Room.readNameOctets]
  -- The three ways of the check: within the input, past it, and past it unnoticed.
  by_cases hlength : length ≤ ts.length
  · rw [if_pos hlength, hasked]
    exact hplace (Or.inl hlength)
  · rw [if_neg hlength]
    by_cases hpast : (size - ts.length + length) % 2 ^ 64 > size
    · rw [if_pos hpast]
      refine ⟨fun hnone => absurd hnone List.not_mem_nil, ?_⟩
      rintro ⟨rest, -, hwithin | hwraps, -⟩
      · exact absurd hwithin hlength
      · exact absurd hwraps (Nat.not_le.mpr hpast)
    · rw [if_neg hpast, hasked]
      exact hplace (Or.inr (Nat.not_lt.mp hpast))

theorem announces_sapAssignment (size : Nat) :
    Announces (Room.readSapAssignment size) (sapAssignmentHeaders size) := by
  refine announces_behind _ _ _ (delimited_readStructureHeader _) fun _ => ?_
  refine announces_behind _ _ _ delimited_readLongUnsignedValue fun _ => ?_
  refine announces_behind _ _ _ (delimited_readExpectedTag _) fun _ => ?_
  refine announces_behind _ _ _ delimited_readLength fun length => ?_
  exact announces_front _ _ _ (announces_name size length) fun _ _ => rfl

theorem announces_sapAssignments (size : Nat) :
    Announces (Room.readSapAssignments size) (sapAssignmentsHeaders size) :=
  announces_readArray _ _ _ _ (parser_readSapAssignment size) (announces_sapAssignment size)
    (delimited_readSapAssignment size)

theorem announces_script : Announces Room.decodeScript scriptHeaders := by
  refine announces_behind _ _ _ (delimited_readStructureHeader _) fun _ => ?_
  refine announces_behind _ _ _ delimited_readLongUnsignedValue fun _ => ?_
  -- The actions are asked for, and what is made of them is not.
  refine announces_front _ _ _ (announces_readArray _ _ _ _ rfl (announces_lift _)
    delimited_decodeActionSpecification) fun actions ts => ?_
  dsimp only
  split_ifs
  · rfl
  · rfl

theorem announces_scripts : Announces Room.readScripts scriptsHeaders :=
  announces_readArray _ _ _ _ parser_decodeScript announces_script delimited_decodeScript

theorem announces_readPayload {α : Type} (reader : ReservingDataReader α) (h : Headers UInt8)
    (hp : Announces reader h) : Announces (Room.readPayload reader) h :=
  announces_front _ _ _ hp fun value ts =>
    Reserving.log_map_lift (Parser.atEnd Refusal.invalid) (fun _ => value) ts

/-! ### The decoders of both layers -/

/-- A decoder of lists, with the depth that it is called with. -/
inductive ListDecoder where
  | dlmsData (maximumDepth : Nat)
  | getRequest (maximumDataDepth : Nat)
  | getResponse (maximumDataDepth : Nat)
  | setRequest (maximumDataDepth : Nat)
  | setResponse
  | actionRequest (maximumDataDepth : Nat)
  | actionResponse (maximumDataDepth : Nat)
  | captureObjects
  | profileBuffer
  | sapAssignment
  | scriptTable

namespace ListDecoder

open Apdu (ApduStatus DlmsData GetRequest GetResponse SetRequest SetResponse ActionRequest
  ActionResponse serviceHeaders)

/-- How the decoder fails, by its layer. -/
def Failure : ListDecoder → Type
  | captureObjects | profileBuffer | sapAssignment | scriptTable => Refusal
  | _ => ApduStatus

def Value : ListDecoder → Type
  | dlmsData _ => DlmsData
  | getRequest _ => GetRequest
  | getResponse _ => GetResponse
  | setRequest _ => SetRequest
  | setResponse => SetResponse
  | actionRequest _ => ActionRequest
  | actionResponse _ => ActionResponse
  | captureObjects => List CosemCaptureObject
  | profileBuffer => List Bytes
  | sapAssignment => List SapAssignment
  | scriptTable => List ScriptEntry

/-- The decoder of the code, for an input of this size. -/
def reader : (decoder : ListDecoder) → Nat → Parser UInt8 decoder.Failure decoder.Value
  | dlmsData depth, _ => Apdu.decodeDlmsDataFromReader depth
  | getRequest depth, _ =>
      Apdu.decodeServiceApdu Apdu.getRequestTag (Apdu.decodeGetRequestVariant depth)
  | getResponse depth, _ =>
      Apdu.decodeServiceApdu Apdu.getResponseTag (Apdu.decodeGetResponseVariant depth)
  | setRequest depth, _ =>
      Apdu.decodeServiceApdu Apdu.setRequestTag (Apdu.decodeSetRequestVariant depth)
  | setResponse, _ => Apdu.decodeServiceApdu Apdu.setResponseTag Apdu.decodeSetResponseVariant
  | actionRequest depth, _ =>
      Apdu.decodeServiceApdu Apdu.actionRequestTag (Apdu.decodeActionRequestVariant depth)
  | actionResponse depth, _ =>
      Apdu.decodeServiceApdu Apdu.actionResponseTag (Apdu.decodeActionResponseVariant depth)
  | captureObjects, _ => readPayload decodeCaptureObjectsAt
  | profileBuffer, _ => readPayload Cosem.readProfileBuffer
  | sapAssignment, size => readPayload (Cosem.readSapAssignments size)
  | scriptTable, _ => readPayload (readArray scriptEntrySize decodeScript)

/-- The decoder with its log. -/
def reserving : (decoder : ListDecoder) → Nat → Reserving UInt8 decoder.Failure decoder.Value
  | dlmsData depth, _ => Apdu.Room.decodeDlmsDataValue depth
  | getRequest depth, _ =>
      Apdu.Room.decodeServiceApdu Apdu.getRequestTag (Apdu.Room.decodeGetRequestVariant depth)
  | getResponse depth, _ =>
      Apdu.Room.decodeServiceApdu Apdu.getResponseTag (Apdu.Room.decodeGetResponseVariant depth)
  | setRequest depth, _ =>
      Apdu.Room.decodeServiceApdu Apdu.setRequestTag (Apdu.Room.decodeSetRequestVariant depth)
  | setResponse, _ =>
      Apdu.Room.decodeServiceApdu Apdu.setResponseTag Apdu.Room.decodeSetResponseVariant
  | actionRequest depth, _ =>
      Apdu.Room.decodeServiceApdu Apdu.actionRequestTag (Apdu.Room.decodeActionRequestVariant depth)
  | actionResponse depth, _ => Apdu.Room.decodeServiceApdu Apdu.actionResponseTag
      (Apdu.Room.decodeActionResponseVariant depth)
  | captureObjects, _ => Room.readPayload Room.decodeCaptureObjectsAt
  | profileBuffer, _ => Room.readPayload Room.readProfileBuffer
  | sapAssignment, size => Room.readPayload (Room.readSapAssignments size)
  | scriptTable, _ => Room.readPayload Room.readScripts

/-- Where the format has an input of this size announce elements to the decoder. -/
def headers : ListDecoder → Nat → Headers UInt8
  | dlmsData depth, _ => Apdu.dataHeaders depth
  | getRequest depth, _ => serviceHeaders Apdu.getRequestTag (Apdu.getRequestHeaders depth)
  | getResponse depth, _ => serviceHeaders Apdu.getResponseTag (Apdu.getResponseHeaders depth)
  | setRequest depth, _ => serviceHeaders Apdu.setRequestTag (Apdu.setRequestHeaders depth)
  | setResponse, _ => serviceHeaders Apdu.setResponseTag Apdu.setResponseHeaders
  | actionRequest depth, _ =>
      serviceHeaders Apdu.actionRequestTag (Apdu.actionRequestHeaders depth)
  | actionResponse depth, _ =>
      serviceHeaders Apdu.actionResponseTag (Apdu.actionResponseHeaders depth)
  | captureObjects, _ => captureObjectsHeaders
  | profileBuffer, _ => profileBufferHeaders
  | sapAssignment, size => sapAssignmentsHeaders size
  | scriptTable, _ => scriptsHeaders

/-- What the decoder asks for on an input. -/
def reservations (decoder : ListDecoder) (input : Bytes) : List Reservation :=
  (decoder.reserving input.length).log input

/-- The decoder with its log is the decoder of the code. -/
theorem parser_reserving (decoder : ListDecoder) (size : Nat) :
    (decoder.reserving size).parser = decoder.reader size := by
  cases decoder with
  | dlmsData depth => exact Apdu.parser_decodeDlmsDataValue depth
  | getRequest depth =>
      exact Apdu.parser_decodeServiceApdu _ _ _ (Apdu.parser_decodeGetRequestVariant depth)
  | getResponse depth =>
      exact Apdu.parser_decodeServiceApdu _ _ _ (Apdu.parser_decodeGetResponseVariant depth)
  | setRequest depth =>
      exact Apdu.parser_decodeServiceApdu _ _ _ (Apdu.parser_decodeSetRequestVariant depth)
  | setResponse =>
      exact Apdu.parser_decodeServiceApdu _ _ _ Apdu.parser_decodeSetResponseVariant
  | actionRequest depth =>
      exact Apdu.parser_decodeServiceApdu _ _ _ (Apdu.parser_decodeActionRequestVariant depth)
  | actionResponse depth =>
      exact Apdu.parser_decodeServiceApdu _ _ _ (Apdu.parser_decodeActionResponseVariant depth)
  | captureObjects => exact parser_readPayload _ _ (parser_readArray _ _ _ rfl)
  | profileBuffer => exact parser_readPayload _ _ (parser_readArray _ _ _ rfl)
  | sapAssignment =>
      exact parser_readPayload _ _ (parser_readArray _ _ _ (parser_readSapAssignment size))
  | scriptTable => exact parser_readPayload _ _ (parser_readArray _ _ _ parser_decodeScript)

/-- The decoder asks where its format announces elements. -/
theorem announces_reserving (decoder : ListDecoder) (size : Nat) :
    Announces (decoder.reserving size) (decoder.headers size) := by
  cases decoder with
  | dlmsData depth => exact Apdu.announces_data depth
  | getRequest depth => exact Apdu.announces_service _ _ _ (Apdu.announces_getRequest depth)
  | getResponse depth => exact Apdu.announces_service _ _ _ (Apdu.announces_getResponse depth)
  | setRequest depth => exact Apdu.announces_service _ _ _ (Apdu.announces_setRequest depth)
  | setResponse => exact Apdu.announces_service _ _ _ Apdu.announces_setResponse
  | actionRequest depth => exact Apdu.announces_service _ _ _ (Apdu.announces_actionRequest depth)
  | actionResponse depth =>
      exact Apdu.announces_service _ _ _ (Apdu.announces_actionResponse depth)
  | captureObjects => exact announces_readPayload _ _ announces_captureObjects
  | profileBuffer => exact announces_readPayload _ _ announces_profileBuffer
  | sapAssignment => exact announces_readPayload _ _ (announces_sapAssignments size)
  | scriptTable => exact announces_readPayload _ _ announces_scripts

end ListDecoder

/-- Each decoder asks for no more elements than there are octets left exactly when no number of
    elements that the input announces, behind fields and elements that decode, is more than the
    number of octets behind it. -/
theorem boundedReservations_iff (decoder : ListDecoder) (input : Bytes) :
    (∀ r ∈ decoder.reservations input, r.count ≤ r.left) ↔
      ∀ count rest, decoder.headers input.length input count rest → count ≤ rest.length :=
  bounded_iff _ _ (decoder.announces_reserving input.length) input

/-- Six octets ask for room for 4294967295 elements, with none of them left. -/
theorem not_boundedReservations_array :
    ¬∀ (decoder : ListDecoder) (input : Bytes),
      ∀ r ∈ decoder.reservations input, r.count ≤ r.left := by
  intro hall
  have harray := hall (.dlmsData 8) [0x01, 0x84, 0xFF, 0xFF, 0xFF, 0xFF]
  -- The array is announced with the largest number of four octets, and nothing behind it.
  exact absurd (harray ⟨4294967295, 0⟩ (by decide)) (by decide)

end Cosem

end Dlms
