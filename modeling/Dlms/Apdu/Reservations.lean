import Dlms.Apdu.Action
import Dlms.Apdu.Get
import Dlms.Apdu.ReleaseRecoding
import Dlms.Apdu.Set
import Dlms.Codec.Reserving

/-!
# What the APDU decoders ask for

Each decoder of a list calls `reserve` with the number of elements that the input announces, and
reads the first element after that. Here are the decoders once more with a log of these calls.
Each is the decoder that it is of when the log is left out.

An input announces elements in the length octets of an array or a structure, and in those of the
lists of the services. `dataHeaders` and the others say where these octets are, from the format
alone: behind which fields and behind which elements.

A call of `reserve` that finds no room ends the decoder with an exception. That does not come
into it, as such a call is the last one of its log.

## Main definitions

* `Room.decodeDlmsDataValue`, `Room.decodeGetRequest` and the others: The decoders.
* `dataHeaders`, `getRequestHeaders` and the others: Where elements are announced.

## Theorems

* `parser_decodeDlmsDataValue`, `parser_decodeGetRequest` and the others: Without the log.
* `announces_data`, `announces_getRequest` and the others: The decoders ask at these places.
-/

namespace Dlms

namespace Apdu

open Codec

/-- A vector is asked for the room for all elements, and gives it. -/
def givenRoom : Reader Unit := pure ()

theorem silent_givenRoom : Silent givenRoom := Or.inr rfl

abbrev ReservingReader (α : Type) : Type := Reserving UInt8 ApduStatus α

/-! ### DLMS data -/

namespace Room

open Reserving (lift)

/-- The elements behind their number. -/
def readList {α : Type} (element : ReservingReader α) : ReservingReader (List α) :=
  Reserving.list readAxdrLength (fun _ => givenRoom) element

def decodeDlmsDataValue : Nat → ReservingReader DlmsData
  | 0 => lift (Parser.fail .invalidData)
  | maximumDepth + 1 => do
      let tag ← lift readU8
      match DlmsDataType.ofTag tag with
      | none => lift (Parser.fail .unsupportedDataType)
      | some type =>
          match type with
          | .nullData => pure { type }
          | .array | .structureData => do
              let elements ← readList (decodeDlmsDataValue maximumDepth)
              pure { type, elements }
          | .boolean => lift do
              let booleanValue ← readAxdrBoolean
              pure { type, booleanValue }
          | .doubleLong => lift (readSigned 4 type)
          | .doubleLongUnsigned => lift (readUnsignedData 4 type)
          | .octetString => lift do
              let bytes ← readAxdrOctetString
              pure { type, bytes }
          | .integer => lift (readSigned 1 type)
          | .long => lift (readSigned 2 type)
          | .unsigned | .enum => lift (readUnsignedData 1 type)
          | .longUnsigned => lift (readUnsignedData 2 type)
          | .long64 => lift do
              let value ← readUnsigned 8
              pure { type, signedValue := value.toInt64 }
          | .long64Unsigned => lift (readUnsignedData 8 type)
          | .dateTime => lift (readFixedBytes dateTimeSize type)
          | .date => lift (readFixedBytes dateSize type)
          | .time => lift (readFixedBytes timeSize type)

end Room

/-- A list announces its elements in its length octets. -/
def listHeaders {α : Type} (element : Reader α) (h : Headers UInt8) : Headers UInt8 :=
  Headers.list readAxdrLength (fun _ => givenRoom) element h

/-- An array and a structure announce their elements behind the tag, and an element may be one
    of the two. -/
def dataHeaders : Nat → Headers UInt8
  | 0 => Headers.none
  | maximumDepth + 1 => Headers.behind readU8 fun tag =>
      if DlmsDataType.ofTag tag = some .array ∨ DlmsDataType.ofTag tag = some .structureData then
        listHeaders (Apdu.decodeDlmsDataValue maximumDepth) (dataHeaders maximumDepth)
      else Headers.none

theorem parser_readList {α : Type} (element : ReservingReader α) :
    (Room.readList element).parser = (do
      let count ← readAxdrLength
      Parser.repeatN element.parser count) := by
  rw [Room.readList, Reserving.parser_list]
  rfl

theorem parser_decodeDlmsDataValue (maximumDepth : Nat) :
    (Room.decodeDlmsDataValue maximumDepth).parser = decodeDlmsDataValue maximumDepth := by
  induction maximumDepth with
  | zero => rfl
  | succ maximumDepth ih =>
      rw [Room.decodeDlmsDataValue, decodeDlmsDataValue, Reserving.parser_bind,
        Reserving.parser_lift]
      refine bind_congr fun tag => ?_
      cases DlmsDataType.ofTag tag with
      | none => rfl
      | some type =>
          have hsequence : (do
              let elements ← Room.readList (Room.decodeDlmsDataValue maximumDepth)
              pure { type, elements } : ReservingReader DlmsData).parser = (do
              let elementCount ← readAxdrLength
              let elements ← Parser.repeatN (decodeDlmsDataValue maximumDepth) elementCount
              pure { type, elements }) := by
            rw [Reserving.parser_bind, parser_readList, ih, bind_assoc]
            rfl
          -- Only the two types with elements ask for anything.
          cases type with
          | array => exact hsequence
          | structureData => exact hsequence
          | _ => rfl

theorem delimited_decodeDlmsDataValue (maximumDepth : Nat) :
    Delimited (decodeDlmsDataValue maximumDepth) := by
  induction maximumDepth with
  | zero => exact delimited_fail _
  | succ maximumDepth ih =>
      have hsequence (type : DlmsDataType) : Delimited (do
          let elementCount ← readAxdrLength
          let elements ← Parser.repeatN (decodeDlmsDataValue maximumDepth) elementCount
          pure { type, elements } : Reader DlmsData) :=
        delimited_bind _ _ delimited_readAxdrLength fun count =>
          delimited_bind _ _ (delimited_repeatN _ count ih) fun _ => delimited_pure _
      have hunsigned (byteCount : Nat) : Delimited (readUnsigned byteCount) :=
        delimited_bind _ _ (delimited_items _ _) fun _ => delimited_pure _
      have hfixed (size : Nat) (type : DlmsDataType) : Delimited (readFixedBytes size type) :=
        delimited_bind _ _ (delimited_items _ _) fun _ => delimited_pure _
      unfold decodeDlmsDataValue
      refine delimited_bind _ _ (delimited_item _) fun tag => ?_
      cases DlmsDataType.ofTag tag with
      | none => exact delimited_fail _
      | some type =>
          cases type with
          | nullData => exact delimited_pure _
          | array => exact hsequence .array
          | structureData => exact hsequence .structureData
          | boolean =>
              refine delimited_bind _ _ ?_ fun _ => delimited_pure _
              exact delimited_bind _ _ (delimited_item _) fun _ => delimited_pure _
          | octetString =>
              exact delimited_bind _ _ delimited_readAxdrOctetString fun _ => delimited_pure _
          | dateTime => exact hfixed _ _
          | date => exact hfixed _ _
          | time => exact hfixed _ _
          -- The other types are numbers of a size.
          | _ => exact delimited_bind _ _ (hunsigned _) fun _ => delimited_pure _

theorem announces_readList {α : Type} (element : ReservingReader α) (q : Reader α)
    (h : Headers UInt8) (hq : element.parser = q) (hp : Announces element h)
    (hitem : Delimited q) : Announces (Room.readList element) (listHeaders q h) :=
  announces_list _ _ _ _ _ delimited_readAxdrLength (fun _ => silent_givenRoom) hq hp hitem

/-- A value announces its elements. The induction is on the depth. -/
theorem announces_data (maximumDepth : Nat) :
    Announces (Room.decodeDlmsDataValue maximumDepth) (dataHeaders maximumDepth) := by
  induction maximumDepth with
  | zero => exact announces_lift _
  | succ maximumDepth ih =>
      rw [Room.decodeDlmsDataValue, dataHeaders]
      refine announces_behind _ _ _ (delimited_item _) fun tag => ?_
      have hlist := announces_readList _ _ _ (parser_decodeDlmsDataValue maximumDepth) ih
        (delimited_decodeDlmsDataValue maximumDepth)
      cases DlmsDataType.ofTag tag with
      | none => exact announces_lift _
      | some type =>
          cases type with
          -- Nothing is asked for behind the elements.
          | array => exact announces_front _ _ _ hlist fun _ _ => rfl
          | structureData => exact announces_front _ _ _ hlist fun _ _ => rfl
          | _ => exact announces_lift _

/-! ### The fields of the services -/

namespace Room

open Reserving (lift)

def decodeSelection (maximumDataDepth : Nat) :
    ReservingReader (Option SelectiveAccessDescriptor) := do
  let flag ← lift readU8
  if flag > 1 then
    lift (Parser.fail .invalidChoice)
  else if flag = 0 then
    pure none
  else do
    let selector ← lift readU8
    let parameters ← decodeDlmsDataValue maximumDataDepth
    pure (some { selector, parameters })

def decodeDescriptorWithSelection (maximumDataDepth : Nat) :
    ReservingReader CosemAttributeDescriptorWithSelection := do
  let descriptor ← lift decodeCosemAttributeDescriptor
  let selection ← decodeSelection maximumDataDepth
  pure { descriptor, selection }

def decodeOptionalData (maximumDataDepth : Nat) : ReservingReader (Option DlmsData) := do
  let flag ← lift readU8
  if flag > 1 then
    lift (Parser.fail .invalidChoice)
  else if flag = 0 then
    pure none
  else
    some <$> decodeDlmsDataValue maximumDataDepth

def decodeMethodWithParameter (maximumDataDepth : Nat) :
    ReservingReader CosemMethodDescriptorWithParameter := do
  let descriptor ← lift decodeCosemMethodDescriptor
  let invocationParameter ← decodeOptionalData maximumDataDepth
  pure { descriptor, invocationParameter }

def decodeOptionalActionReturnParameter (maximumDataDepth : Nat) :
    ReservingReader (Option DlmsData) := do
  let flag ← lift readU8
  if flag > 1 then
    lift (Parser.fail .invalidChoice)
  else if flag = 0 then
    pure none
  else do
    let choice ← lift readU8
    if choice ≠ 0 then
      lift (Parser.fail .unsupportedXdlmsService)
    else
      some <$> decodeDlmsDataValue maximumDataDepth

def decodeResponseItem (maximumDataDepth : Nat) : ReservingReader ActionResponseItem := do
  let result ← lift readU8
  let returnParameter ← decodeOptionalActionReturnParameter maximumDataDepth
  pure { result, returnParameter }

def decodeGetDataResult (maximumDataDepth : Nat) : ReservingReader GetDataResult := do
  let choice ← lift readU8
  if choice > 1 then
    lift (Parser.fail .invalidChoice)
  else if choice = 0 then do
    let data ← decodeDlmsDataValue maximumDataDepth
    lift requireNoTrailingBytes
    pure (.data data)
  else lift do
    let dataAccessError ← readU8
    requireNoTrailingBytes
    pure (.dataAccessError dataAccessError)

def decodeGetDataResultItem (maximumDataDepth : Nat) : ReservingReader GetDataResult := do
  let resultChoice ← lift readU8
  if resultChoice = 0 then
    .data <$> decodeDlmsDataValue maximumDataDepth
  else if resultChoice = 1 then
    .dataAccessError <$> lift readU8
  else
    lift (Parser.fail .invalidChoice)

end Room

/-- Data that is there when the flag in front of it is set. -/
def optionalDataHeaders (maximumDataDepth : Nat) : Headers UInt8 :=
  Headers.behind readU8 fun flag =>
    if flag = 1 then dataHeaders maximumDataDepth else Headers.none

/-- The parameters of a selection stand behind the flag and the selector. -/
def selectionHeaders (maximumDataDepth : Nat) : Headers UInt8 :=
  Headers.behind readU8 fun flag =>
    if flag = 1 then Headers.behind readU8 fun _ => dataHeaders maximumDataDepth
    else Headers.none

def descriptorHeaders (maximumDataDepth : Nat) : Headers UInt8 :=
  Headers.behind decodeCosemAttributeDescriptor fun _ => selectionHeaders maximumDataDepth

def methodHeaders (maximumDataDepth : Nat) : Headers UInt8 :=
  Headers.behind decodeCosemMethodDescriptor fun _ => optionalDataHeaders maximumDataDepth

/-- Data stands behind the choice of it. -/
def resultHeaders (maximumDataDepth : Nat) : Headers UInt8 :=
  Headers.behind readU8 fun choice =>
    if choice = 0 then dataHeaders maximumDataDepth else Headers.none

/-- A return parameter that is there is again a result. -/
def responseItemHeaders (maximumDataDepth : Nat) : Headers UInt8 :=
  Headers.behind readU8 fun _ => Headers.behind readU8 fun flag =>
    if flag = 1 then resultHeaders maximumDataDepth else Headers.none

/-! ### The fields without the log -/

theorem parser_decodeSelection (maximumDataDepth : Nat) :
    (Room.decodeSelection maximumDataDepth).parser = decodeSelection maximumDataDepth := by
  simp only [Room.decodeSelection, Reserving.parser_bind, Reserving.parser_lift,
    Reserving.parser_ite, Reserving.parser_pure, parser_decodeDlmsDataValue]
  rfl

theorem parser_decodeDescriptorWithSelection (maximumDataDepth : Nat) :
    (Room.decodeDescriptorWithSelection maximumDataDepth).parser =
      decodeDescriptorWithSelection maximumDataDepth := by
  simp only [Room.decodeDescriptorWithSelection, Reserving.parser_bind, Reserving.parser_lift,
    Reserving.parser_pure, parser_decodeSelection]
  rfl

theorem parser_decodeOptionalData (maximumDataDepth : Nat) :
    (Room.decodeOptionalData maximumDataDepth).parser = decodeOptionalData maximumDataDepth := by
  simp only [Room.decodeOptionalData, Reserving.parser_bind, Reserving.parser_lift,
    Reserving.parser_ite, Reserving.parser_pure, Reserving.parser_map, parser_decodeDlmsDataValue]
  rfl

theorem parser_decodeMethodWithParameter (maximumDataDepth : Nat) :
    (Room.decodeMethodWithParameter maximumDataDepth).parser =
      decodeMethodWithParameter maximumDataDepth := by
  simp only [Room.decodeMethodWithParameter, Reserving.parser_bind, Reserving.parser_lift,
    Reserving.parser_pure, parser_decodeOptionalData]
  rfl

theorem parser_decodeOptionalActionReturnParameter (maximumDataDepth : Nat) :
    (Room.decodeOptionalActionReturnParameter maximumDataDepth).parser =
      decodeOptionalActionReturnParameter maximumDataDepth := by
  simp only [Room.decodeOptionalActionReturnParameter, Reserving.parser_bind,
    Reserving.parser_lift, Reserving.parser_ite, Reserving.parser_pure, Reserving.parser_map,
    parser_decodeDlmsDataValue]
  rfl

theorem parser_decodeResponseItem (maximumDataDepth : Nat) :
    (Room.decodeResponseItem maximumDataDepth).parser = decodeResponseItem maximumDataDepth := by
  simp only [Room.decodeResponseItem, Reserving.parser_bind, Reserving.parser_lift,
    Reserving.parser_pure, parser_decodeOptionalActionReturnParameter]
  rfl

theorem parser_decodeGetDataResult (maximumDataDepth : Nat) :
    (Room.decodeGetDataResult maximumDataDepth).parser = decodeGetDataResult maximumDataDepth := by
  simp only [Room.decodeGetDataResult, Reserving.parser_bind, Reserving.parser_lift,
    Reserving.parser_ite, Reserving.parser_pure, parser_decodeDlmsDataValue]
  rfl

theorem parser_decodeGetDataResultItem (maximumDataDepth : Nat) :
    (Room.decodeGetDataResultItem maximumDataDepth).parser =
      decodeGetDataResultItem maximumDataDepth := by
  simp only [Room.decodeGetDataResultItem, Reserving.parser_bind, Reserving.parser_lift,
    Reserving.parser_ite, Reserving.parser_map, parser_decodeDlmsDataValue]
  rfl

/-! ### Where the fields stop -/

theorem delimited_decodeLogicalName : Delimited decodeLogicalName := by
  refine delimited_bind _ _ (delimited_item _) fun _ => ?_
  refine delimited_bind _ _ (delimited_item _) fun _ => ?_
  refine delimited_bind _ _ (delimited_item _) fun _ => ?_
  refine delimited_bind _ _ (delimited_item _) fun _ => ?_
  refine delimited_bind _ _ (delimited_item _) fun _ => ?_
  exact delimited_bind _ _ (delimited_item _) fun _ => delimited_pure _

theorem delimited_decodeCosemAttributeDescriptor : Delimited decodeCosemAttributeDescriptor := by
  refine delimited_bind _ _ delimited_readU16 fun _ => ?_
  refine delimited_bind _ _ delimited_decodeLogicalName fun _ => ?_
  exact delimited_bind _ _ (delimited_item _) fun _ => delimited_pure _

theorem delimited_decodeCosemMethodDescriptor : Delimited decodeCosemMethodDescriptor := by
  refine delimited_bind _ _ delimited_readU16 fun _ => ?_
  refine delimited_bind _ _ delimited_decodeLogicalName fun _ => ?_
  exact delimited_bind _ _ (delimited_item _) fun _ => delimited_pure _

/-- A field that is there or not, by a flag in front of it. -/
theorem delimited_flag {α : Type} (flag : UInt8) (e : ApduStatus) (a : α) (field : Reader α)
    (h : Delimited field) : Delimited
      (if flag > 1 then Parser.fail e else if flag = 0 then pure a else field : Reader α) := by
  split_ifs
  · exact delimited_fail e
  · exact delimited_pure a
  · exact h

theorem delimited_decodeDescriptorWithSelection (maximumDataDepth : Nat) :
    Delimited (decodeDescriptorWithSelection maximumDataDepth) := by
  refine delimited_bind _ _ delimited_decodeCosemAttributeDescriptor fun _ => ?_
  refine delimited_bind _ _ ?_ fun _ => delimited_pure _
  refine delimited_bind _ _ (delimited_item _) fun flag => delimited_flag flag _ _ _ ?_
  refine delimited_bind _ _ (delimited_item _) fun _ => ?_
  exact delimited_bind _ _ (delimited_decodeDlmsDataValue _) fun _ => delimited_pure _

theorem delimited_decodeMethodWithParameter (maximumDataDepth : Nat) :
    Delimited (decodeMethodWithParameter maximumDataDepth) := by
  refine delimited_bind _ _ delimited_decodeCosemMethodDescriptor fun _ => ?_
  refine delimited_bind _ _ ?_ fun _ => delimited_pure _
  refine delimited_bind _ _ (delimited_item _) fun flag => delimited_flag flag _ _ _ ?_
  exact delimited_map _ _ (delimited_decodeDlmsDataValue _)

theorem delimited_decodeResponseItem (maximumDataDepth : Nat) :
    Delimited (decodeResponseItem maximumDataDepth) := by
  refine delimited_bind _ _ (delimited_item _) fun _ => ?_
  refine delimited_bind _ _ ?_ fun _ => delimited_pure _
  refine delimited_bind _ _ (delimited_item _) fun flag => delimited_flag flag _ _ _ ?_
  refine delimited_bind _ _ (delimited_item _) fun choice => ?_
  split_ifs
  · exact delimited_fail _
  · exact delimited_map _ _ (delimited_decodeDlmsDataValue _)

theorem delimited_decodeGetDataResultItem (maximumDataDepth : Nat) :
    Delimited (decodeGetDataResultItem maximumDataDepth) := by
  refine delimited_bind _ _ (delimited_item _) fun choice => ?_
  split_ifs
  · exact delimited_map _ _ (delimited_decodeDlmsDataValue _)
  · exact delimited_map _ _ (delimited_item _)
  · exact delimited_fail _

/-! ### Where the fields ask -/

/-- Behind a flag something is announced when it is one. -/
theorem announces_flag {α : Type} (flag : UInt8) (e : ApduStatus) (a : α)
    (field : ReservingReader α) (h : Headers UInt8) (hp : Announces field h) : Announces
      (if flag > 1 then Reserving.lift (Parser.fail e) else if flag = 0 then pure a else field)
      (if flag = 1 then h else Headers.none) := by
  by_cases hbig : flag > 1
  · have hone : flag ≠ 1 := fun hone => absurd hbig (by rw [hone]; decide)
    rw [if_pos hbig, if_neg hone]
    exact announces_lift _
  · rw [if_neg hbig]
    by_cases hzero : flag = 0
    · rw [if_pos hzero, if_neg (by rw [hzero]; decide)]
      exact announces_lift _
    · -- What is neither above one nor zero is one.
      have hone : flag = 1 := by
        rw [gt_iff_lt, UInt8.lt_iff_toNat_lt] at hbig
        rw [← UInt8.toNat_inj] at hzero ⊢
        simp only [UInt8.reduceToNat] at hbig hzero ⊢
        omega
      rw [if_neg hzero, if_pos hone]
      exact hp

theorem announces_selection (maximumDataDepth : Nat) :
    Announces (Room.decodeSelection maximumDataDepth) (selectionHeaders maximumDataDepth) := by
  refine announces_behind _ _ _ (delimited_item _) fun flag => announces_flag flag _ _ _ _ ?_
  refine announces_behind _ _ _ (delimited_item _) fun _ => ?_
  exact announces_front _ _ _ (announces_data _) fun _ _ => rfl

theorem announces_descriptor (maximumDataDepth : Nat) :
    Announces (Room.decodeDescriptorWithSelection maximumDataDepth)
      (descriptorHeaders maximumDataDepth) := by
  refine announces_behind _ _ _ delimited_decodeCosemAttributeDescriptor fun _ => ?_
  exact announces_front _ _ _ (announces_selection _) fun _ _ => rfl

theorem announces_method (maximumDataDepth : Nat) :
    Announces (Room.decodeMethodWithParameter maximumDataDepth)
      (methodHeaders maximumDataDepth) := by
  refine announces_behind _ _ _ delimited_decodeCosemMethodDescriptor fun _ => ?_
  refine announces_front _ _ _ ?_ fun _ _ => rfl
  refine announces_behind _ _ _ (delimited_item _) fun flag => announces_flag flag _ _ _ _ ?_
  exact announces_map _ _ _ (announces_data _)

theorem announces_responseItem (maximumDataDepth : Nat) :
    Announces (Room.decodeResponseItem maximumDataDepth)
      (responseItemHeaders maximumDataDepth) := by
  refine announces_behind _ _ _ (delimited_item _) fun _ => ?_
  refine announces_front _ _ _ ?_ fun _ _ => rfl
  refine announces_behind _ _ _ (delimited_item _) fun flag => announces_flag flag _ _ _ _ ?_
  refine announces_behind _ _ _ (delimited_item _) fun choice => ?_
  by_cases hdata : choice = 0
  · rw [if_neg (not_not.mpr hdata), if_pos hdata]
    exact announces_map _ _ _ (announces_data _)
  · rw [if_pos hdata, if_neg hdata]
    exact announces_lift _

theorem announces_getDataResult (maximumDataDepth : Nat) :
    Announces (Room.decodeGetDataResult maximumDataDepth) (resultHeaders maximumDataDepth) := by
  refine announces_behind _ _ _ (delimited_item _) fun choice => ?_
  by_cases hdata : choice = 0
  · rw [if_pos hdata, if_pos hdata, if_neg (by rw [hdata]; decide)]
    refine announces_front _ _ _ (announces_data _) fun a ts => ?_
    cases ts with
    | nil => rfl
    | cons octet ts => rfl
  · rw [if_neg hdata, if_neg hdata]
    split_ifs
    · exact announces_lift _
    · exact announces_lift _

theorem announces_getDataResultItem (maximumDataDepth : Nat) :
    Announces (Room.decodeGetDataResultItem maximumDataDepth)
      (resultHeaders maximumDataDepth) := by
  refine announces_behind _ _ _ (delimited_item _) fun choice => ?_
  by_cases hdata : choice = 0
  · rw [if_pos hdata, if_pos hdata]
    exact announces_map _ _ _ (announces_data _)
  · rw [if_neg hdata, if_neg hdata]
    split_ifs
    · exact announces_map _ _ _ (announces_lift _)
    · exact announces_lift _

/-! ### The services -/

namespace Room

open Reserving (lift)

def decodeServiceApdu {α : Type} (expectedTag : UInt8)
    (body : UInt8 → UInt8 → ReservingReader α) : ReservingReader α := do
  let tag ← lift readU8
  if tag ≠ expectedTag then
    lift (Parser.fail .invalidTag)
  else do
    let choice ← lift readU8
    let invokeIdAndPriority ← lift readU8
    let output ← body choice invokeIdAndPriority
    lift requireNoTrailingBytes
    pure output

def decodeGetRequestVariant (maximumDataDepth : Nat) (choice invokeIdAndPriority : UInt8) :
    ReservingReader GetRequest :=
  match choice.toNat with
  | 1 => .normal invokeIdAndPriority <$> decodeDescriptorWithSelection maximumDataDepth
  | 2 => .next invokeIdAndPriority <$> lift readU32
  | 3 => .withList invokeIdAndPriority <$>
      readList (decodeDescriptorWithSelection maximumDataDepth)
  | _ => lift (Parser.fail .unsupportedXdlmsService)

def decodeGetResponseVariant (maximumDataDepth : Nat) (choice invokeIdAndPriority : UInt8) :
    ReservingReader GetResponse :=
  match choice.toNat with
  -- The view of the result is what is left of the APDU.
  | 1 => .normal invokeIdAndPriority <$> (decodeGetDataResult maximumDataDepth).last
  | 2 => .withDataBlock invokeIdAndPriority <$> lift decodeDataBlock
  | 3 => .withList invokeIdAndPriority <$> readList (decodeGetDataResultItem maximumDataDepth)
  | _ => lift (Parser.fail .unsupportedXdlmsService)

def decodeResultList : ReservingReader (List UInt8) := readList (lift readU8)

def decodeSetRequestVariant (maximumDataDepth : Nat) (choice invokeIdAndPriority : UInt8) :
    ReservingReader SetRequest :=
  match choice.toNat with
  | 1 => do
      let normal ← decodeDescriptorWithSelection maximumDataDepth
      .normal invokeIdAndPriority normal <$> decodeDlmsDataValue maximumDataDepth
  | 2 => do
      let normal ← decodeDescriptorWithSelection maximumDataDepth
      .withFirstDataBlock invokeIdAndPriority normal <$> lift decodeDataBlock
  | 3 => .withDataBlock invokeIdAndPriority <$> lift decodeDataBlock
  | 4 => do
      let count ← lift readAxdrLength
      let list ← Reserving.elements givenRoom (decodeDescriptorWithSelection maximumDataDepth) count
      let valueCount ← lift readAxdrLength
      -- The values are asked for when there are as many as there are descriptors.
      if valueCount ≠ count then
        lift (Parser.fail .invalidLength)
      else
        .withList invokeIdAndPriority list <$>
          Reserving.elements givenRoom (decodeDlmsDataValue maximumDataDepth) valueCount
  | 5 => do
      let list ← readList (decodeDescriptorWithSelection maximumDataDepth)
      .withListAndFirstDataBlock invokeIdAndPriority list <$> lift decodeDataBlock
  | _ => lift (Parser.fail .unsupportedXdlmsService)

def decodeSetResponseVariant (choice invokeIdAndPriority : UInt8) : ReservingReader SetResponse :=
  match choice.toNat with
  | 1 => .normal invokeIdAndPriority <$> lift readU8
  | 2 => .dataBlock invokeIdAndPriority <$> lift readU32
  | 3 => do
      let result ← lift readU8
      .lastDataBlock invokeIdAndPriority result <$> lift readU32
  | 4 => do
      let resultList ← decodeResultList
      .lastDataBlockWithList invokeIdAndPriority resultList <$> lift readU32
  | 5 => .withList invokeIdAndPriority <$> decodeResultList
  | _ => lift (Parser.fail .unsupportedXdlmsService)

def decodeActionRequestVariant (maximumDataDepth : Nat) (choice invokeIdAndPriority : UInt8) :
    ReservingReader ActionRequest :=
  match choice.toNat with
  | 1 => .normal invokeIdAndPriority <$> decodeMethodWithParameter maximumDataDepth
  | 2 => .nextPblock invokeIdAndPriority <$> lift readU32
  | 3 => .withList invokeIdAndPriority <$> readList (decodeMethodWithParameter maximumDataDepth)
  | 4 => lift do
      let descriptor ← decodeCosemMethodDescriptor
      .withFirstPblock invokeIdAndPriority descriptor <$> decodeDataBlock
  | 5 => do
      let descriptorList ← readList (lift decodeCosemMethodDescriptor)
      .withListAndFirstPblock invokeIdAndPriority descriptorList <$> lift decodeDataBlock
  | 6 => .withPblock invokeIdAndPriority <$> lift decodeDataBlock
  | _ => lift (Parser.fail .unsupportedXdlmsService)

def decodeActionResponseVariant (maximumDataDepth : Nat) (choice invokeIdAndPriority : UInt8) :
    ReservingReader ActionResponse :=
  match choice.toNat with
  | 1 => .normal invokeIdAndPriority <$> decodeResponseItem maximumDataDepth
  | 2 => .withPblock invokeIdAndPriority <$> lift decodeDataBlock
  | 3 => .withList invokeIdAndPriority <$> readList (decodeResponseItem maximumDataDepth)
  | 4 => .nextPblock invokeIdAndPriority <$> lift readU32
  | _ => lift (Parser.fail .unsupportedXdlmsService)

end Room

/-- What a variant announces, behind the tag, the choice and the invoke id. -/
def serviceHeaders (expectedTag : UInt8) (body : UInt8 → Headers UInt8) : Headers UInt8 :=
  Headers.behind readU8 fun tag =>
    if tag = expectedTag then
      Headers.behind readU8 fun choice => Headers.behind readU8 fun _ => body choice
    else Headers.none

def getRequestHeaders (maximumDataDepth : Nat) (choice : UInt8) : Headers UInt8 :=
  match choice.toNat with
  | 1 => descriptorHeaders maximumDataDepth
  | 3 => listHeaders (decodeDescriptorWithSelection maximumDataDepth)
      (descriptorHeaders maximumDataDepth)
  | _ => Headers.none

def getResponseHeaders (maximumDataDepth : Nat) (choice : UInt8) : Headers UInt8 :=
  match choice.toNat with
  | 1 => resultHeaders maximumDataDepth
  | 3 => listHeaders (decodeGetDataResultItem maximumDataDepth) (resultHeaders maximumDataDepth)
  | _ => Headers.none

/-- Values for so many descriptors. -/
def valueListHeaders (maximumDataDepth count : Nat) : Headers UInt8 :=
  Headers.behind readAxdrLength fun valueCount =>
    if valueCount = count then
      Headers.elements givenRoom (decodeDlmsDataValue maximumDataDepth) valueCount
        (dataHeaders maximumDataDepth)
    else Headers.none

def setRequestHeaders (maximumDataDepth : Nat) (choice : UInt8) : Headers UInt8 :=
  let descriptor := decodeDescriptorWithSelection maximumDataDepth
  let descriptors := descriptorHeaders maximumDataDepth
  match choice.toNat with
  | 1 => descriptors.or (Headers.behind descriptor fun _ => dataHeaders maximumDataDepth)
  | 2 => descriptors
  | 4 => Headers.behind readAxdrLength fun count =>
      (Headers.elements givenRoom descriptor count descriptors).or
        (Headers.behind (Parser.repeatN descriptor count) fun _ =>
          valueListHeaders maximumDataDepth count)
  | 5 => listHeaders descriptor descriptors
  | _ => Headers.none

def setResponseHeaders (choice : UInt8) : Headers UInt8 :=
  match choice.toNat with
  | 4 | 5 => listHeaders readU8 Headers.none
  | _ => Headers.none

def actionRequestHeaders (maximumDataDepth : Nat) (choice : UInt8) : Headers UInt8 :=
  match choice.toNat with
  | 1 => methodHeaders maximumDataDepth
  | 3 => listHeaders (decodeMethodWithParameter maximumDataDepth) (methodHeaders maximumDataDepth)
  | 5 => listHeaders decodeCosemMethodDescriptor Headers.none
  | _ => Headers.none

def actionResponseHeaders (maximumDataDepth : Nat) (choice : UInt8) : Headers UInt8 :=
  match choice.toNat with
  | 1 => responseItemHeaders maximumDataDepth
  | 3 => listHeaders (decodeResponseItem maximumDataDepth) (responseItemHeaders maximumDataDepth)
  | _ => Headers.none

/-! ### The services without the log -/

theorem parser_map_readList {α β : Type} (element : ReservingReader α) (q : Reader α)
    (hq : element.parser = q) (build : List α → β) :
    (build <$> Room.readList element).parser = (do
      let count ← readAxdrLength
      build <$> Parser.repeatN q count) := by
  rw [Reserving.parser_map, parser_readList, hq, map_bind]

theorem parser_decodeServiceApdu {α : Type} (expectedTag : UInt8)
    (body : UInt8 → UInt8 → ReservingReader α) (plain : UInt8 → UInt8 → Reader α)
    (h : ∀ choice iip, (body choice iip).parser = plain choice iip) :
    (Room.decodeServiceApdu expectedTag body).parser = decodeServiceApdu expectedTag plain := by
  simp only [Room.decodeServiceApdu, Reserving.parser_bind, Reserving.parser_lift,
    Reserving.parser_ite, Reserving.parser_pure, h]
  rfl

theorem parser_map_lift {α β : Type} (plain : Reader α) (build : α → β) :
    (build <$> Reserving.lift plain : ReservingReader β).parser = build <$> plain :=
  Reserving.parser_map _ _

theorem parser_map_of {α β : Type} (field : ReservingReader α) (plain : Reader α)
    (h : field.parser = plain) (build : α → β) :
    (build <$> field).parser = build <$> plain := by
  rw [Reserving.parser_map, h]

theorem parser_bind_of {α β : Type} (field : ReservingReader α) (plain : Reader α)
    (f : α → ReservingReader β) (g : α → Reader β) (h : field.parser = plain)
    (hf : ∀ a, (f a).parser = g a) : (field >>= f).parser = plain >>= g := by
  rw [Reserving.parser_bind, h]
  exact bind_congr hf

theorem parser_decodeGetRequestVariant (maximumDataDepth : Nat) (choice iip : UInt8) :
    (Room.decodeGetRequestVariant maximumDataDepth choice iip).parser =
      decodeGetRequestVariant maximumDataDepth choice iip := by
  rw [Room.decodeGetRequestVariant, decodeGetRequestVariant]
  rcases choice.toNat with _ | _ | _ | _ | n
  · rfl
  · exact parser_map_of _ _ (parser_decodeDescriptorWithSelection _) _
  · exact parser_map_lift _ _
  · exact parser_map_readList _ _ (parser_decodeDescriptorWithSelection _) _
  · rfl

theorem parser_decodeGetResponseVariant (maximumDataDepth : Nat) (choice iip : UInt8) :
    (Room.decodeGetResponseVariant maximumDataDepth choice iip).parser =
      decodeGetResponseVariant maximumDataDepth choice iip := by
  rw [Room.decodeGetResponseVariant, decodeGetResponseVariant]
  rcases choice.toNat with _ | _ | _ | _ | n
  · rfl
  · refine (Reserving.parser_map _ _).trans ?_
    rw [Reserving.parser_last, parser_decodeGetDataResult, map_bind]
    rfl
  · exact parser_map_lift _ _
  · exact parser_map_readList _ _ (parser_decodeGetDataResultItem _) _
  · rfl

theorem parser_decodeResultList : Room.decodeResultList.parser = decodeResultList :=
  parser_readList _

theorem parser_decodeSetRequestVariant (maximumDataDepth : Nat) (choice iip : UInt8) :
    (Room.decodeSetRequestVariant maximumDataDepth choice iip).parser =
      decodeSetRequestVariant maximumDataDepth choice iip := by
  have hdescriptor := parser_decodeDescriptorWithSelection maximumDataDepth
  have hdata := parser_decodeDlmsDataValue maximumDataDepth
  rw [Room.decodeSetRequestVariant, decodeSetRequestVariant]
  rcases choice.toNat with _ | _ | _ | _ | _ | _ | n
  · rfl
  · exact parser_bind_of _ _ _ _ hdescriptor fun _ => parser_map_of _ _ hdata _
  · exact parser_bind_of _ _ _ _ hdescriptor fun _ => parser_map_lift _ _
  · exact parser_map_lift _ _
  · refine parser_bind_of _ _ _ _ rfl fun count => ?_
    refine parser_bind_of _ _ _ _ ?_ fun list => ?_
    · rw [Reserving.parser_elements, hdescriptor]
      rfl
    · refine parser_bind_of _ _ _ _ rfl fun valueCount => ?_
      rw [Reserving.parser_ite, Reserving.parser_map, Reserving.parser_elements, hdata]
      rfl
  · refine (parser_bind_of _ _ _ _ (parser_readList _) fun _ => parser_map_lift _ _).trans ?_
    rw [hdescriptor, bind_assoc]
    rfl
  · rfl

theorem parser_decodeSetResponseVariant (choice iip : UInt8) :
    (Room.decodeSetResponseVariant choice iip).parser = decodeSetResponseVariant choice iip := by
  rw [Room.decodeSetResponseVariant, decodeSetResponseVariant]
  rcases choice.toNat with _ | _ | _ | _ | _ | _ | n
  · rfl
  · exact parser_map_lift _ _
  · exact parser_map_lift _ _
  · exact parser_bind_of _ _ _ _ rfl fun _ => parser_map_lift _ _
  · exact parser_bind_of _ _ _ _ parser_decodeResultList fun _ => parser_map_lift _ _
  · exact parser_map_of _ _ parser_decodeResultList _
  · rfl

theorem parser_decodeActionRequestVariant (maximumDataDepth : Nat) (choice iip : UInt8) :
    (Room.decodeActionRequestVariant maximumDataDepth choice iip).parser =
      decodeActionRequestVariant maximumDataDepth choice iip := by
  rw [Room.decodeActionRequestVariant, decodeActionRequestVariant]
  rcases choice.toNat with _ | _ | _ | _ | _ | _ | _ | n
  · rfl
  · exact parser_map_of _ _ (parser_decodeMethodWithParameter _) _
  · exact parser_map_lift _ _
  · exact parser_map_readList _ _ (parser_decodeMethodWithParameter _) _
  · rfl
  · refine (parser_bind_of _ _ _ _ (parser_readList _) fun _ => parser_map_lift _ _).trans ?_
    rw [bind_assoc]
    rfl
  · exact parser_map_lift _ _
  · rfl

theorem parser_decodeActionResponseVariant (maximumDataDepth : Nat) (choice iip : UInt8) :
    (Room.decodeActionResponseVariant maximumDataDepth choice iip).parser =
      decodeActionResponseVariant maximumDataDepth choice iip := by
  rw [Room.decodeActionResponseVariant, decodeActionResponseVariant]
  rcases choice.toNat with _ | _ | _ | _ | _ | n
  · rfl
  · exact parser_map_of _ _ (parser_decodeResponseItem _) _
  · exact parser_map_lift _ _
  · exact parser_map_readList _ _ (parser_decodeResponseItem _) _
  · exact parser_map_lift _ _
  · rfl

/-! ### Where the services ask -/

theorem announces_service {α : Type} (expectedTag : UInt8)
    (body : UInt8 → UInt8 → ReservingReader α) (h : UInt8 → Headers UInt8)
    (hbody : ∀ choice iip, Announces (body choice iip) (h choice)) :
    Announces (Room.decodeServiceApdu expectedTag body) (serviceHeaders expectedTag h) := by
  refine announces_behind _ _ _ (delimited_item _) fun tag => ?_
  by_cases htag : tag = expectedTag
  · rw [if_neg (not_not.mpr htag), if_pos htag]
    refine announces_behind _ _ _ (delimited_item _) fun choice => ?_
    refine announces_behind _ _ _ (delimited_item _) fun iip => ?_
    -- The end of the APDU is only looked for.
    exact announces_front _ _ _ (hbody choice iip) fun _ ts =>
      Reserving.log_map_lift requireNoTrailingBytes _ ts
  · rw [if_pos htag, if_neg htag]
    exact announces_lift _

theorem announces_getRequest (maximumDataDepth : Nat) (choice iip : UInt8) :
    Announces (Room.decodeGetRequestVariant maximumDataDepth choice iip)
      (getRequestHeaders maximumDataDepth choice) := by
  rw [Room.decodeGetRequestVariant, getRequestHeaders]
  rcases choice.toNat with _ | _ | _ | _ | n
  · exact announces_lift _
  · exact announces_map _ _ _ (announces_descriptor _)
  · exact announces_map _ _ _ (announces_lift _)
  · exact announces_map _ _ _ (announces_readList _ _ _ (parser_decodeDescriptorWithSelection _)
      (announces_descriptor _) (delimited_decodeDescriptorWithSelection _))
  · exact announces_lift _

theorem announces_getResponse (maximumDataDepth : Nat) (choice iip : UInt8) :
    Announces (Room.decodeGetResponseVariant maximumDataDepth choice iip)
      (getResponseHeaders maximumDataDepth choice) := by
  rw [Room.decodeGetResponseVariant, getResponseHeaders]
  rcases choice.toNat with _ | _ | _ | _ | n
  · exact announces_lift _
  · exact announces_map _ _ _ (announces_last _ _ (announces_getDataResult _))
  · exact announces_map _ _ _ (announces_lift _)
  · exact announces_map _ _ _ (announces_readList _ _ _ (parser_decodeGetDataResultItem _)
      (announces_getDataResultItem _) (delimited_decodeGetDataResultItem _))
  · exact announces_lift _

/-- A request with a list of values asks for the values when there are as many of them as there
    are descriptors. -/
theorem announces_setRequest (maximumDataDepth : Nat) (choice iip : UInt8) :
    Announces (Room.decodeSetRequestVariant maximumDataDepth choice iip)
      (setRequestHeaders maximumDataDepth choice) := by
  have hparser := parser_decodeDescriptorWithSelection maximumDataDepth
  have hdescriptor := announces_descriptor maximumDataDepth
  have hdelimited := delimited_decodeDescriptorWithSelection maximumDataDepth
  rw [Room.decodeSetRequestVariant, setRequestHeaders]
  rcases choice.toNat with _ | _ | _ | _ | _ | _ | n
  · exact announces_lift _
  · exact announces_bind _ _ _ _ _ hparser hdescriptor hdelimited fun _ =>
      announces_map _ _ _ (announces_data _)
  · exact announces_front _ _ _ hdescriptor fun _ ts => Reserving.log_map_lift decodeDataBlock _ ts
  · exact announces_map _ _ _ (announces_lift _)
  · refine announces_behind _ _ _ delimited_readAxdrLength fun count => ?_
    refine announces_bind _ (Parser.repeatN (decodeDescriptorWithSelection maximumDataDepth) count)
      _ _ _ ?_ (announces_elements _ _ _ count _ silent_givenRoom hparser hdescriptor hdelimited)
      (delimited_repeatN _ count hdelimited) fun list => ?_
    · rw [Reserving.parser_elements, hparser]
      rfl
    · refine announces_behind _ _ _ delimited_readAxdrLength fun valueCount => ?_
      by_cases hcount : valueCount = count
      -- As many values as descriptors: room for them is asked for as well.
      · rw [if_neg (not_not.mpr hcount), if_pos hcount]
        exact announces_map _ _ _ (announces_elements _ _ _ valueCount _ silent_givenRoom
          (parser_decodeDlmsDataValue _) (announces_data _) (delimited_decodeDlmsDataValue _))
      · rw [if_pos hcount, if_neg hcount]
        exact announces_lift _
  · exact announces_front _ _ _ (announces_readList _ _ _ hparser hdescriptor hdelimited)
      fun _ ts => Reserving.log_map_lift decodeDataBlock _ ts
  · exact announces_lift _

theorem announces_resultList :
    Announces Room.decodeResultList (listHeaders readU8 Headers.none) :=
  announces_readList _ _ _ rfl (announces_lift _) (delimited_item _)

theorem announces_setResponse (choice iip : UInt8) :
    Announces (Room.decodeSetResponseVariant choice iip) (setResponseHeaders choice) := by
  rw [Room.decodeSetResponseVariant, setResponseHeaders]
  rcases choice.toNat with _ | _ | _ | _ | _ | _ | n
  · exact announces_lift _
  · exact announces_map _ _ _ (announces_lift _)
  · exact announces_map _ _ _ (announces_lift _)
  · exact announces_front _ _ _ (announces_lift _) fun _ ts => Reserving.log_map_lift readU32 _ ts
  · exact announces_front _ _ _ announces_resultList fun _ ts =>
      Reserving.log_map_lift readU32 _ ts
  · exact announces_map _ _ _ announces_resultList
  · exact announces_lift _

theorem announces_actionRequest (maximumDataDepth : Nat) (choice iip : UInt8) :
    Announces (Room.decodeActionRequestVariant maximumDataDepth choice iip)
      (actionRequestHeaders maximumDataDepth choice) := by
  rw [Room.decodeActionRequestVariant, actionRequestHeaders]
  rcases choice.toNat with _ | _ | _ | _ | _ | _ | _ | n
  · exact announces_lift _
  · exact announces_map _ _ _ (announces_method _)
  · exact announces_map _ _ _ (announces_lift _)
  · exact announces_map _ _ _ (announces_readList _ _ _ (parser_decodeMethodWithParameter _)
      (announces_method _) (delimited_decodeMethodWithParameter _))
  · exact announces_lift _
  · exact announces_front _ _ _ (announces_readList _ _ _ rfl (announces_lift _)
      delimited_decodeCosemMethodDescriptor) fun _ ts =>
        Reserving.log_map_lift decodeDataBlock _ ts
  · exact announces_map _ _ _ (announces_lift _)
  · exact announces_lift _

theorem announces_actionResponse (maximumDataDepth : Nat) (choice iip : UInt8) :
    Announces (Room.decodeActionResponseVariant maximumDataDepth choice iip)
      (actionResponseHeaders maximumDataDepth choice) := by
  rw [Room.decodeActionResponseVariant, actionResponseHeaders]
  rcases choice.toNat with _ | _ | _ | _ | _ | n
  · exact announces_lift _
  · exact announces_map _ _ _ (announces_responseItem _)
  · exact announces_map _ _ _ (announces_lift _)
  · exact announces_map _ _ _ (announces_readList _ _ _ (parser_decodeResponseItem _)
      (announces_responseItem _) (delimited_decodeResponseItem _))
  · exact announces_map _ _ _ (announces_lift _)
  · exact announces_lift _

end Apdu

end Dlms
