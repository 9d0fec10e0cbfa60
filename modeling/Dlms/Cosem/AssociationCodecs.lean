import Dlms.Codec.Entries
import Dlms.Cosem.ProfileBuffer

/-!
# The codecs of associations and of selective access

The object list of an association and its access rights, the capture objects of a profile,
and the descriptors that select a part of its buffer. Each has an encoder and a decoder of
its own.

Access rights are two maps from the ids to the modes, which are written as arrays of their
entries. The decoders of these two arrays set one entry after another in a map of their
caller, and what they have set stays there when they fail. Their caller fills maps of its
own and assigns them at its end, and so do all decoders that have a status.

## Main definitions

* `StoredAccessRights`: The two maps, with what is missing in them.
* `Filling`: A decoder that fills an argument of its caller as it goes.
* `decodeAssociationObjectList`, `decodeAssociationAccessRights`,
  `decodeProfileGenericCaptureObjects`, `decodeProfileGenericRangeDescriptor`,
  `decodeProfileGenericEntryDescriptor`: The decoders.
* `IsRangeValue`: One value of a simple type.

## Theorems

* `decodes_accessRights`, `decodes_captureObject`, `decodes_rangeValue`: What is written is
  read back.
* `associationCodecs`: What the codecs guarantee.
-/

namespace Dlms

namespace Cosem

open Codec
open Apdu (Bytes LogicalName)

/-! ### Tags -/

def doubleLongUnsignedTag : UInt8 := 0x06

def visibleStringTag : UInt8 := 0x0A

def utf8StringTag : UInt8 := 0x0C

/-! ### Access rights -/

/-- The maps of the access rights. An id that has no entry is not one that has the entry for
    no access. -/
@[ext]
structure StoredAccessRights where
  attributeAccess : UInt8 → Option AttributeAccessMode
  methodAccess : UInt8 → Option MethodAccessMode

def noEntries : StoredAccessRights := ⟨fun _ => none, fun _ => none⟩

/-- What the maps say about an id, which is all that a request is checked against. -/
def StoredAccessRights.rights (rights : StoredAccessRights) : CosemAccessRights where
  attributeAccess id := (rights.attributeAccess id).getD .noAccess
  methodAccess id := (rights.methodAccess id).getD .noAccess

def StoredAccessRights.setAttributeAccess (rights : StoredAccessRights)
    (entry : UInt8 × AttributeAccessMode) : StoredAccessRights :=
  { rights with attributeAccess := setEntry rights.attributeAccess entry }

def StoredAccessRights.setMethodAccess (rights : StoredAccessRights)
    (entry : UInt8 × MethodAccessMode) : StoredAccessRights :=
  { rights with methodAccess := setEntry rights.methodAccess entry }

/-- The ids, in the order in which a map has them. -/
def octets : List UInt8 := (List.range 256).map UInt8.ofNat

def StoredAccessRights.attributeAccessEntries (rights : StoredAccessRights) :
    List (UInt8 × AttributeAccessMode) :=
  entriesOf octets rights.attributeAccess

def StoredAccessRights.methodAccessEntries (rights : StoredAccessRights) :
    List (UInt8 × MethodAccessMode) :=
  entriesOf octets rights.methodAccess

/-- The number of a mode. -/
def AttributeAccessMode.value : AttributeAccessMode → UInt8
  | .noAccess => 0
  | .readOnly => 1
  | .writeOnly => 2
  | .readAndWrite => 3
  | .authenticatedReadOnly => 4
  | .authenticatedWriteOnly => 5
  | .authenticatedReadAndWrite => 6

def MethodAccessMode.value : MethodAccessMode → UInt8
  | .noAccess => 0
  | .access => 1
  | .authenticatedAccess => 2

def mapAttributeAccessMode (value : UInt8) : DataReader AttributeAccessMode :=
  match value.toNat with
  | 0 => pure .noAccess
  | 1 => pure .readOnly
  | 2 => pure .writeOnly
  | 3 => pure .readAndWrite
  | 4 => pure .authenticatedReadOnly
  | 5 => pure .authenticatedWriteOnly
  | 6 => pure .authenticatedReadAndWrite
  | _ => refuse

def mapMethodAccessMode (value : UInt8) : DataReader MethodAccessMode :=
  match value.toNat with
  | 0 => pure .noAccess
  | 1 => pure .access
  | 2 => pure .authenticatedAccess
  | _ => refuse

/-! ### Filling an argument -/

/-- A decoder that is given a value of its caller, and leaves it changed whether it fails or
    not. -/
def Filling (σ : Type) : Type := σ → Bytes → Except Refusal Bytes × σ

/-- So many items, each put into the value when it has been read. -/
def fillN {σ α : Type} (item : DataReader α) (put : σ → α → σ) : Nat → Filling σ
  | 0 => fun value input => (.ok input, value)
  | count + 1 => fun value input =>
      match item input with
      | .error refusal => (.error refusal, value)
      | .ok (a, rest) => fillN item put count (put value a) rest

/-- The elements of an array, put into the value. -/
def fillArray {σ α : Type} (item : DataReader α) (put : σ → α → σ) : Filling σ :=
  fun value input =>
    match (do readExpectedTag arrayTag; readLength : DataReader Nat) input with
    | .error refusal => (.error refusal, value)
    | .ok (count, rest) => fillN item put count value rest

/-- A value of the decoder's own is filled, and is lost when it fails. -/
def filled {σ : Type} (fill : Filling σ) (value : σ) : DataReader σ := fun input =>
  match fill value input with
  | (.error refusal, _) => .error refusal
  | (.ok rest, value') => .ok (value', rest)

/-- The selectors of an attribute are gone over. -/
def skipAssociationAccessSelectors : DataReader Unit := fun input =>
  match input with
  | [] => .error .invalid
  | first :: rest =>
      if first = nullDataTag then .ok ((), rest)
      else
        (do
          readExpectedTag arrayTag
          let count ← readLength
          let _ ← Parser.repeatN readIntegerValue count
          pure () : DataReader Unit) input

def readAttributeAccessEntry : DataReader (UInt8 × AttributeAccessMode) := do
  readStructureHeader 3
  let attributeId ← readIntegerValue
  let modeValue ← readEnumValue
  let mode ← mapAttributeAccessMode modeValue
  skipAssociationAccessSelectors
  pure (attributeId, mode)

def decodeAttributeAccessAt : Filling StoredAccessRights :=
  fillArray readAttributeAccessEntry StoredAccessRights.setAttributeAccess

def readMethodAccessEntry : DataReader (UInt8 × MethodAccessMode) := do
  readStructureHeader 2
  let methodId ← readIntegerValue
  let modeValue ← readEnumValue
  let mode ← mapMethodAccessMode modeValue
  pure (methodId, mode)

def decodeMethodAccessAt : Filling StoredAccessRights :=
  fillArray readMethodAccessEntry StoredAccessRights.setMethodAccess

def decodeAccessRightsAt : DataReader StoredAccessRights := do
  readStructureHeader 2
  let decoded ← filled decodeAttributeAccessAt noEntries
  filled decodeMethodAccessAt decoded

def appendAttributeAccessEntry (entry : UInt8 × AttributeAccessMode) : Bytes :=
  appendStructureHeader 3 ++
    (appendInteger entry.1 ++ (appendEnum entry.2.value ++ [nullDataTag]))

def appendAttributeAccess (rights : StoredAccessRights) : Bytes :=
  appendArray appendAttributeAccessEntry rights.attributeAccessEntries

def appendMethodAccessEntry (entry : UInt8 × MethodAccessMode) : Bytes :=
  appendStructureHeader 2 ++ (appendInteger entry.1 ++ appendEnum entry.2.value)

def appendMethodAccess (rights : StoredAccessRights) : Bytes :=
  appendArray appendMethodAccessEntry rights.methodAccessEntries

def appendAccessRights (rights : StoredAccessRights) : Bytes :=
  appendStructureHeader 2 ++ (appendAttributeAccess rights ++ appendMethodAccess rights)

/-! ### Objects -/

/-- An object that an association sees. -/
@[ext]
structure AssociationViewObject where
  key : CosemObjectKey
  accessRights : StoredAccessRights

/-- The octets of such an object in a vector. -/
def associationViewObjectSize : Nat := 112

/-- The objects an association sees. -/
structure AssociationView where
  objects : List AssociationViewObject

def decodeObjectListElementAt : DataReader AssociationViewObject := do
  readStructureHeader 4
  let classId ← readLongUnsignedValue
  let version ← readUnsignedValue
  let logicalName ← readLogicalNameValue
  let accessRights ← decodeAccessRightsAt
  pure ⟨⟨classId, version, logicalName⟩, accessRights⟩

def appendObjectListElement (object : AssociationViewObject) : Bytes :=
  appendStructureHeader 4 ++
    (appendLongUnsigned object.key.classId ++
      (appendUnsigned object.key.version ++
        (appendLogicalName object.key.logicalName ++ appendAccessRights object.accessRights)))

/-- An attribute that a profile captures. -/
structure CosemCaptureObject where
  object : CosemObjectKey
  attributeId : UInt8
  dataIndex : UInt16
  deriving DecidableEq

/-- The octets of a capture object in a vector. -/
def captureObjectSize : Nat := 14

/-- The version is not written. -/
def CosemCaptureObject.withoutVersion (object : CosemCaptureObject) : CosemCaptureObject :=
  { object with object := { object.object with version := 0 } }

def decodeCaptureObjectAt : DataReader CosemCaptureObject := do
  readStructureHeader 4
  let classId ← readLongUnsignedValue
  let logicalName ← readLogicalNameValue
  let attributeId ← readIntegerValue
  let dataIndex ← readLongUnsignedValue
  pure ⟨⟨classId, 0, logicalName⟩, attributeId, dataIndex⟩

def appendCaptureObject (object : CosemCaptureObject) : Bytes :=
  appendStructureHeader 4 ++
    (appendLongUnsigned object.object.classId ++
      (appendLogicalName object.object.logicalName ++
        (appendInteger object.attributeId ++ appendLongUnsigned object.dataIndex)))

def decodeCaptureObjectsAt : DataReader (List CosemCaptureObject) :=
  readArray captureObjectSize decodeCaptureObjectAt

def appendProfileCaptureObjects (objects : List CosemCaptureObject) : Bytes :=
  appendArray appendCaptureObject objects

/-! ### Selective access -/

/-- The way over a value of a simple type. -/
def skipProfileGenericRangeValue : DataReader Unit := do
  let tag ← readByte
  match tag.toNat with
  | 0x05 | 0x06 | 0x17 => skipBytes 4
  | 0x09 | 0x0A | 0x0C => do
      let length ← readLength
      skipBytes length
  | 0x0F | 0x11 => skipBytes 1
  | 0x10 | 0x12 => skipBytes 2
  | 0x14 | 0x15 | 0x18 => skipBytes 8
  | 0x19 => skipBytes dlmsDateTimeSize
  | 0x1A => skipBytes dlmsDateSize
  | 0x1B => skipBytes dlmsTimeSize
  | _ => refuse

/-- The octets of a value, as they are. -/
def rangeValue : DataReader Bytes := do
  let value ← Parser.consumed skipProfileGenericRangeValue
  pure value.1

/-- Selective access to a buffer by a range of values. -/
structure CosemProfileGenericRangeDescriptor where
  restrictingObject : CosemCaptureObject
  fromValue : Bytes
  toValue : Bytes
  selectedValues : List CosemCaptureObject

def readRangeDescriptor : DataReader CosemProfileGenericRangeDescriptor := do
  readStructureHeader 4
  let restrictingObject ← decodeCaptureObjectAt
  let fromValue ← rangeValue
  let toValue ← rangeValue
  let selectedValues ← decodeCaptureObjectsAt
  pure ⟨restrictingObject, fromValue, toValue, selectedValues⟩

def encodeProfileGenericRangeDescriptor (descriptor : CosemProfileGenericRangeDescriptor) :
    Bytes :=
  appendStructureHeader 4 ++
    (appendCaptureObject descriptor.restrictingObject ++
      (descriptor.fromValue ++
        (descriptor.toValue ++ appendProfileCaptureObjects descriptor.selectedValues)))

/-- Selective access to a buffer by entries. -/
structure CosemProfileGenericEntryDescriptor where
  fromEntry : UInt32
  toEntry : UInt32
  fromSelectedValue : UInt16
  toSelectedValue : UInt16

def readDoubleLongUnsignedValue : DataReader UInt32 := do
  readExpectedTag doubleLongUnsignedTag
  let octets ← readFixedBytes 4
  pure (UInt32.ofNat (beValue octets))

def appendDoubleLongUnsigned (value : UInt32) : Bytes :=
  [doubleLongUnsignedTag] ++ beBytes 4 value.toNat

def readEntryDescriptor : DataReader CosemProfileGenericEntryDescriptor := do
  readStructureHeader 4
  let fromEntry ← readDoubleLongUnsignedValue
  let toEntry ← readDoubleLongUnsignedValue
  let fromSelectedValue ← readLongUnsignedValue
  let toSelectedValue ← readLongUnsignedValue
  pure ⟨fromEntry, toEntry, fromSelectedValue, toSelectedValue⟩

def encodeProfileGenericEntryDescriptor (descriptor : CosemProfileGenericEntryDescriptor) :
    Bytes :=
  appendStructureHeader 4 ++
    (appendDoubleLongUnsigned descriptor.fromEntry ++
      (appendDoubleLongUnsigned descriptor.toEntry ++
        (appendLongUnsigned descriptor.fromSelectedValue ++
          appendLongUnsigned descriptor.toSelectedValue)))

/-! ### The codecs with a status -/

/-- How a decoder ends, and what its output argument holds then. -/
abbrev Decoded (α : Type) : Type := Except WriteFailure Unit × α

/-- What was decoded is assigned when all of it has been. -/
def assign {α : Type} (decoded : Except WriteFailure α) (output : α) : Decoded α :=
  match decoded with
  | .ok value => (.ok (), value)
  | .error failure => (.error failure, output)

def encodeAssociationAccessRights (rights : StoredAccessRights) : Bytes :=
  appendAccessRights rights

def decodeAssociationAccessRights (input : Bytes) (rights : StoredAccessRights) :
    Decoded StoredAccessRights :=
  assign (decodePayload decodeAccessRightsAt input) rights

def encodeAssociationObjectList (objectList : AssociationView) : Bytes :=
  appendArray appendObjectListElement objectList.objects

def readObjectList : DataReader AssociationView := do
  let objects ← readArray associationViewObjectSize decodeObjectListElementAt
  pure ⟨objects⟩

def decodeAssociationObjectList (input : Bytes) (objectList : AssociationView) :
    Decoded AssociationView :=
  assign (decodePayload readObjectList input) objectList

def encodeProfileGenericCaptureObject (object : CosemCaptureObject) : Bytes :=
  appendCaptureObject object

def decodeProfileGenericCaptureObject (input : Bytes) (object : CosemCaptureObject) :
    Decoded CosemCaptureObject :=
  assign (decodePayload decodeCaptureObjectAt input) object

def encodeProfileGenericCaptureObjects (objects : List CosemCaptureObject) : Bytes :=
  appendProfileCaptureObjects objects

def decodeProfileGenericCaptureObjects (input : Bytes) (objects : List CosemCaptureObject) :
    Decoded (List CosemCaptureObject) :=
  assign (decodePayload decodeCaptureObjectsAt input) objects

def decodeProfileGenericRangeDescriptor (input : Bytes)
    (descriptor : CosemProfileGenericRangeDescriptor) :
    Decoded CosemProfileGenericRangeDescriptor :=
  assign (decodePayload readRangeDescriptor input) descriptor

def decodeProfileGenericEntryDescriptor (input : Bytes)
    (descriptor : CosemProfileGenericEntryDescriptor) :
    Decoded CosemProfileGenericEntryDescriptor :=
  assign (decodePayload readEntryDescriptor input) descriptor

/-! ### What is filled -/

/-- Items that are read are items that are put in, one after another. The induction is on how
    many are left. -/
theorem filled_fillN {σ α : Type} (item : DataReader α) (put : σ → α → σ) (count : Nat)
    (value : σ) : filled (fillN item put count) value = (do
      let items ← Parser.repeatN item count
      pure (items.foldl put value)) := by
  induction count generalizing value with
  | zero => rfl
  | succ count ih =>
      funext input
      have hnext (a : α) := congrFun (ih (put value a))
      simp only [Parser.repeatN, bind_assoc, pure_bind, List.foldl_cons]
      simp only [filled, bind, StateT.bind] at hnext ⊢
      simp only [fillN]
      -- An item that is refused stops both, and one that is read is put in first.
      rcases item input with refusal | ⟨a, rest⟩
      · rfl
      · exact hnext a rest

theorem filled_fillArray {σ α : Type} (item : DataReader α) (put : σ → α → σ) (value : σ) :
    filled (fillArray item put) value = (do
      readExpectedTag arrayTag
      let count ← readLength
      filled (fillN item put count) value) := by
  funext input
  rw [← bind_assoc]
  simp only [filled, fillArray]
  rw [show ∀ (p : DataReader Nat) (f : Nat → DataReader σ), (p >>= f) input =
    Except.bind (p input) fun out => f out.1 out.2 from fun _ _ => rfl]
  rcases (readExpectedTag arrayTag >>= fun _ => readLength) input with refusal | ⟨count, rest⟩
  · rfl
  · rfl

/-- An array of what was written puts its elements in. -/
theorem decodes_fillArray {σ α : Type} (item : DataReader α) (put : σ → α → σ)
    (append : α → Bytes) (elements : List α) (value : σ)
    (hcount : elements.length < 256 ^ Apdu.sizeOctets)
    (h : ∀ a ∈ elements, Decodes item (append a) a) :
    Decodes (filled (fillArray item put) value) (appendArray append elements)
      (elements.foldl put value) := by
  rw [filled_fillArray, appendArray, appendArrayHeader, List.append_assoc]
  refine decodes_bind _ _ _ _ _ _ (decodes_readExpectedTag _)
    (decodes_bind _ _ _ _ _ _ (decodes_readLength _ hcount) ?_)
  rw [filled_fillN]
  exact decodes_last _ _ _ _ _ (decodes_repeatN _ _ _ h) (decodes_pure _)

/-! ### Access rights are read back -/

theorem nodup_octets : octets.Nodup := by
  refine List.Nodup.map_on (fun a ha b hb heq => ?_) List.nodup_range
  have hvalue := congrArg UInt8.toNat heq
  rw [List.mem_range] at ha hb
  rwa [UInt8.toNat_ofNat', UInt8.toNat_ofNat', Nat.mod_eq_of_lt ha, Nat.mod_eq_of_lt hb] at hvalue

theorem mem_octets (id : UInt8) : id ∈ octets :=
  List.mem_map.mpr ⟨id.toNat, List.mem_range.mpr id.toNat_lt, UInt8.ofNat_toNat⟩

/-- So a map has no more entries than there are ids, and their number is a length. -/
theorem length_entriesOf_octets_lt {μ : Type} (map : UInt8 → Option μ) :
    (entriesOf octets map).length < 256 ^ Apdu.sizeOctets := by
  have hle := length_entriesOf_le octets map
  -- Every id is an octet.
  have hids : octets.length = 256 := by rw [octets, List.length_map, List.length_range]
  have hbound : 256 < 256 ^ Apdu.sizeOctets := by decide
  omega

theorem decodes_mapAttributeAccessMode (mode : AttributeAccessMode) :
    Decodes (mapAttributeAccessMode mode.value) [] mode := by
  cases mode <;> exact decodes_pure _

theorem decodes_mapMethodAccessMode (mode : MethodAccessMode) :
    Decodes (mapMethodAccessMode mode.value) [] mode := by
  cases mode <;> exact decodes_pure _

/-- The null data that stands for the selectors is gone over. -/
theorem decodes_skipAssociationAccessSelectors :
    Decodes skipAssociationAccessSelectors [nullDataTag] () := fun _ => rfl

theorem decodes_readAttributeAccessEntry (entry : UInt8 × AttributeAccessMode) :
    Decodes readAttributeAccessEntry (appendAttributeAccessEntry entry) entry := by
  refine decodes_bind _ _ _ _ _ _ (decodes_readStructureHeader 3 (by decide)) ?_
  refine decodes_bind _ _ _ _ _ _ (decodes_readTagged _ _) ?_
  refine decodes_bind _ _ _ _ _ _ (decodes_readTagged _ _) ?_
  rw [← List.nil_append [nullDataTag]]
  refine decodes_bind _ _ _ _ _ _ (decodes_mapAttributeAccessMode entry.2) ?_
  exact decodes_last _ _ _ _ _ decodes_skipAssociationAccessSelectors (decodes_pure _)

theorem decodes_readMethodAccessEntry (entry : UInt8 × MethodAccessMode) :
    Decodes readMethodAccessEntry (appendMethodAccessEntry entry) entry := by
  refine decodes_bind _ _ _ _ _ _ (decodes_readStructureHeader 2 (by decide)) ?_
  refine decodes_bind _ _ _ _ _ _ (decodes_readTagged _ _) ?_
  refine decodes_last _ _ _ _ _ (decodes_readTagged _ _) ?_
  exact decodes_last _ _ _ _ _ (decodes_mapMethodAccessMode entry.2) (decodes_pure _)

theorem foldl_setAttributeAccess (entries : List (UInt8 × AttributeAccessMode))
    (rights : StoredAccessRights) :
    entries.foldl StoredAccessRights.setAttributeAccess rights =
      { rights with attributeAccess := entries.foldl setEntry rights.attributeAccess } := by
  induction entries generalizing rights with
  | nil => rfl
  | cons entry entries ih => rw [List.foldl_cons, ih, List.foldl_cons]; rfl

theorem foldl_setMethodAccess (entries : List (UInt8 × MethodAccessMode))
    (rights : StoredAccessRights) :
    entries.foldl StoredAccessRights.setMethodAccess rights =
      { rights with methodAccess := entries.foldl setEntry rights.methodAccess } := by
  induction entries generalizing rights with
  | nil => rfl
  | cons entry entries ih => rw [List.foldl_cons, ih, List.foldl_cons]; rfl

/-- Both maps are read back entry by entry, into maps that were empty. -/
theorem decodes_accessRights (rights : StoredAccessRights) :
    Decodes decodeAccessRightsAt (appendAccessRights rights) rights := by
  have hattributes := decodes_fillArray readAttributeAccessEntry
    StoredAccessRights.setAttributeAccess appendAttributeAccessEntry
    rights.attributeAccessEntries noEntries (length_entriesOf_octets_lt _)
    fun entry _ => decodes_readAttributeAccessEntry entry
  -- The methods go into the rights that the attributes have been read into.
  have hmethods (decoded : StoredAccessRights) := decodes_fillArray readMethodAccessEntry
    StoredAccessRights.setMethodAccess appendMethodAccessEntry rights.methodAccessEntries decoded
    (length_entriesOf_octets_lt _) fun entry _ => decodes_readMethodAccessEntry entry
  have hread : Decodes decodeAccessRightsAt (appendAccessRights rights)
      (rights.methodAccessEntries.foldl StoredAccessRights.setMethodAccess
        (rights.attributeAccessEntries.foldl StoredAccessRights.setAttributeAccess noEntries)) := by
    refine decodes_bind _ _ _ _ _ _ (decodes_readStructureHeader 2 (by decide)) ?_
    exact decodes_bind _ _ _ _ _ _ hattributes (hmethods _)
  rw [foldl_setMethodAccess, foldl_setAttributeAccess] at hread
  simp only [StoredAccessRights.attributeAccessEntries, StoredAccessRights.methodAccessEntries,
    noEntries, foldl_setEntry_entriesOf octets nodup_octets mem_octets] at hread
  exact hread

theorem decodes_objectListElement (object : AssociationViewObject) :
    Decodes decodeObjectListElementAt (appendObjectListElement object) object := by
  refine decodes_bind _ _ _ _ _ _ (decodes_readStructureHeader 4 (by decide)) ?_
  refine decodes_bind _ _ _ _ _ _ (decodes_readLongUnsignedValue _) ?_
  refine decodes_bind _ _ _ _ _ _ (decodes_readTagged _ _) ?_
  refine decodes_bind _ _ _ _ _ _ (decodes_readLogicalNameValue _) ?_
  exact decodes_last _ _ _ _ _ (decodes_accessRights _) (decodes_pure _)

/-! ### Selective access is read back -/

theorem decodes_captureObject (object : CosemCaptureObject) :
    Decodes decodeCaptureObjectAt (appendCaptureObject object) object.withoutVersion := by
  refine decodes_bind _ _ _ _ _ _ (decodes_readStructureHeader 4 (by decide)) ?_
  refine decodes_bind _ _ _ _ _ _ (decodes_readLongUnsignedValue _) ?_
  refine decodes_bind _ _ _ _ _ _ (decodes_readLogicalNameValue _) ?_
  refine decodes_bind _ _ _ _ _ _ (decodes_readTagged _ _) ?_
  exact decodes_last _ _ _ _ _ (decodes_readLongUnsignedValue _) (decodes_pure _)

theorem decodes_captureObjects (objects : List CosemCaptureObject)
    (hcount : IsVector captureObjectSize objects) :
    Decodes decodeCaptureObjectsAt (appendProfileCaptureObjects objects)
      (objects.map CosemCaptureObject.withoutVersion) := by
  -- The version is not written, so the objects may as well be those without one.
  have hwritten : appendProfileCaptureObjects objects =
      appendProfileCaptureObjects (objects.map CosemCaptureObject.withoutVersion) := by
    rw [appendProfileCaptureObjects, appendProfileCaptureObjects, appendArray, appendArray,
      List.length_map, List.flatMap_map]
    rfl
  rw [hwritten]
  refine decodes_readArray _ _ _ _ (by rwa [IsVector, List.length_map]) fun object hobject => ?_
  rcases List.mem_map.mp hobject with ⟨original, -, rfl⟩
  exact decodes_captureObject original.withoutVersion

/-- The size of the values of a simple type that have a fixed one. -/
def rangeValueSize (tag : UInt8) : Option Nat :=
  match tag.toNat with
  | 0x0F | 0x11 => some 1
  | 0x10 | 0x12 => some 2
  | 0x05 | 0x06 | 0x17 => some 4
  | 0x14 | 0x15 | 0x18 => some 8
  | 0x19 => some 12
  | 0x1A => some 5
  | 0x1B => some 4
  | _ => none

/-- One value of a simple type: a number, a date or a time of the size of its type, or a
    string with its length in front. -/
inductive IsRangeValue : Bytes → Prop where
  | sized (tag : UInt8) (content : Bytes) (h : rangeValueSize tag = some content.length) :
      IsRangeValue (tag :: content)
  | string (tag : UInt8) (count content : Bytes)
      (htag : tag ∈ [dataOctetStringTag, visibleStringTag, utf8StringTag])
      (hcount : LengthOctets count content.length) : IsRangeValue (tag :: (count ++ content))

theorem decodes_skipBytes (content : Bytes) (size : Nat) (h : content.length = size) :
    Decodes (skipBytes size) content () :=
  decodes_last _ _ _ _ _ (decodes_readFixedBytes content size h) (decodes_pure _)

theorem decodes_skipRangeValue (value : Bytes) (h : IsRangeValue value) :
    Decodes skipProfileGenericRangeValue value () := by
  cases h with
  | sized tag content h =>
      refine decodes_bind _ _ [tag] content _ _ (decodes_readByte tag) ?_
      unfold rangeValueSize at h
      split at h
      -- No other type has a size.
      case h_14 => cases h
      all_goals
        rename_i htag
        simp only [htag]
        exact decodes_skipBytes content _ (Option.some.inj h).symm
  | string tag count content htag hcount =>
      have hcontent : Decodes (do let length ← readLength; skipBytes length)
          (count ++ content) () :=
        decodes_bind _ _ _ _ _ _ (decodes_of_lengthOctets _ _ hcount)
          (decodes_skipBytes content _ rfl)
      refine decodes_bind _ _ [tag] (count ++ content) _ _ (decodes_readByte tag) ?_
      simp only [List.mem_cons, List.not_mem_nil, or_false] at htag
      -- The three types of strings are gone over in the same way.
      rcases htag with rfl | rfl | rfl
      · exact hcontent
      · exact hcontent
      · exact hcontent

theorem decodes_rangeValue (value : Bytes) (h : IsRangeValue value) :
    Decodes rangeValue value value :=
  decodes_last _ _ _ _ _ (decodes_consumed _ _ _ (decodes_skipRangeValue value h))
    (decodes_pure _)

def CosemProfileGenericRangeDescriptor.withoutVersions
    (descriptor : CosemProfileGenericRangeDescriptor) : CosemProfileGenericRangeDescriptor :=
  { descriptor with
    restrictingObject := descriptor.restrictingObject.withoutVersion
    selectedValues := descriptor.selectedValues.map CosemCaptureObject.withoutVersion }

theorem decodes_rangeDescriptor (descriptor : CosemProfileGenericRangeDescriptor)
    (hfrom : IsRangeValue descriptor.fromValue) (hto : IsRangeValue descriptor.toValue)
    (hcount : IsVector captureObjectSize descriptor.selectedValues) :
    Decodes readRangeDescriptor (encodeProfileGenericRangeDescriptor descriptor)
      descriptor.withoutVersions := by
  refine decodes_bind _ _ _ _ _ _ (decodes_readStructureHeader 4 (by decide)) ?_
  refine decodes_bind _ _ _ _ _ _ (decodes_captureObject _) ?_
  refine decodes_bind _ _ _ _ _ _ (decodes_rangeValue _ hfrom) ?_
  refine decodes_bind _ _ _ _ _ _ (decodes_rangeValue _ hto) ?_
  exact decodes_last _ _ _ _ _ (decodes_captureObjects _ hcount) (decodes_pure _)

theorem decodes_readDoubleLongUnsignedValue (value : UInt32) :
    Decodes readDoubleLongUnsignedValue (appendDoubleLongUnsigned value) value := by
  have hlt : value.toNat < 256 ^ 4 := value.toNat_lt
  have hread := decodes_readFixedBytes (beBytes 4 value.toNat) 4 (length_beBytes 4 _)
  have hvalue := decodes_last _ (fun octets => pure (UInt32.ofNat (beValue octets))) _ _ _ hread
    (decodes_pure _)
  rw [beValue_beBytes_of_lt _ _ hlt, UInt32.ofNat_toNat] at hvalue
  exact decodes_bind _ _ _ _ _ _ (decodes_readExpectedTag _) hvalue

theorem decodes_entryDescriptor (descriptor : CosemProfileGenericEntryDescriptor) :
    Decodes readEntryDescriptor (encodeProfileGenericEntryDescriptor descriptor) descriptor := by
  refine decodes_bind _ _ _ _ _ _ (decodes_readStructureHeader 4 (by decide)) ?_
  refine decodes_bind _ _ _ _ _ _ (decodes_readDoubleLongUnsignedValue _) ?_
  refine decodes_bind _ _ _ _ _ _ (decodes_readDoubleLongUnsignedValue _) ?_
  refine decodes_bind _ _ _ _ _ _ (decodes_readLongUnsignedValue _) ?_
  exact decodes_last _ _ _ _ _ (decodes_readLongUnsignedValue _) (decodes_pure _)

/-! ### What the codecs guarantee -/

/-- What was assigned is what was decoded. -/
theorem assign_of_decodes {α : Type} (reader : DataReader α) (input : Bytes) (value output : α)
    (h : Decodes reader input value) :
    assign (decodePayload reader input) output = (.ok (), value) := by
  rw [decodePayload_of_decodes reader input value h]
  rfl

/-- A decoder that fails leaves its output as it is. -/
def KeepsOutput {α : Type} (decode : Bytes → α → Decoded α) : Prop :=
  ∀ input output failure, (decode input output).1 = .error failure →
    (decode input output).2 = output

theorem keepsOutput_assign {α : Type} (reader : DataReader α) :
    KeepsOutput fun input output => assign (decodePayload reader input) output := by
  intro input output failure h
  dsimp only at h ⊢
  cases hdecoded : decodePayload reader input with
  | ok value =>
      rw [hdecoded] at h
      exact absurd h (by simp [assign])
  | error failure' => rfl

/-- What each codec writes is read back, but for the versions of capture objects, and a decoder
    that fails leaves its output as it is. -/
theorem associationCodecs :
    (∀ objectList output, IsVector associationViewObjectSize objectList.objects →
        decodeAssociationObjectList (encodeAssociationObjectList objectList) output =
          (.ok (), objectList)) ∧
      (∀ rights output, decodeAssociationAccessRights (encodeAssociationAccessRights rights)
        output = (.ok (), rights)) ∧
      (∀ object output, decodeProfileGenericCaptureObject
        (encodeProfileGenericCaptureObject object) output = (.ok (), object.withoutVersion)) ∧
      (∀ objects output, IsVector captureObjectSize objects →
        decodeProfileGenericCaptureObjects (encodeProfileGenericCaptureObjects objects) output =
          (.ok (), objects.map CosemCaptureObject.withoutVersion)) ∧
      (∀ descriptor output, IsRangeValue descriptor.fromValue → IsRangeValue descriptor.toValue →
        IsVector captureObjectSize descriptor.selectedValues →
        decodeProfileGenericRangeDescriptor (encodeProfileGenericRangeDescriptor descriptor)
          output = (.ok (), descriptor.withoutVersions)) ∧
      (∀ descriptor output, decodeProfileGenericEntryDescriptor
        (encodeProfileGenericEntryDescriptor descriptor) output = (.ok (), descriptor)) ∧
      KeepsOutput decodeAssociationObjectList ∧ KeepsOutput decodeAssociationAccessRights ∧
      KeepsOutput decodeProfileGenericCaptureObject ∧
      KeepsOutput decodeProfileGenericCaptureObjects ∧
      KeepsOutput decodeProfileGenericRangeDescriptor ∧
      KeepsOutput decodeProfileGenericEntryDescriptor := by
  refine ⟨fun objectList output hcount => ?_, fun rights output => ?_, fun object output => ?_,
    fun objects output hcount => ?_, fun descriptor output hfrom hto hcount => ?_,
    fun descriptor output => ?_, keepsOutput_assign _, keepsOutput_assign _,
    keepsOutput_assign _, keepsOutput_assign _, keepsOutput_assign _, keepsOutput_assign _⟩
  · refine assign_of_decodes _ _ _ _ (decodes_last _ _ _ _ _ ?_ (decodes_pure _))
    exact decodes_readArray _ _ _ _ hcount fun object _ => decodes_objectListElement object
  · exact assign_of_decodes _ _ _ _ (decodes_accessRights rights)
  · exact assign_of_decodes _ _ _ _ (decodes_captureObject object)
  · exact assign_of_decodes _ _ _ _ (decodes_captureObjects objects hcount)
  · exact assign_of_decodes _ _ _ _ (decodes_rangeDescriptor descriptor hfrom hto hcount)
  · exact assign_of_decodes _ _ _ _ (decodes_entryDescriptor descriptor)

/-- A range between two numbers of one octet, for a clock. -/
def clockRange : CosemProfileGenericRangeDescriptor where
  restrictingObject := ⟨⟨8, 0, ⟨0, 0, 1, 0, 0, 255⟩⟩, 2, 0⟩
  fromValue := [0x11, 0x01]
  toValue := [0x11, 0x02]
  selectedValues := []

theorem associationCodecs_clockRange :
    decodeProfileGenericRangeDescriptor (encodeProfileGenericRangeDescriptor clockRange)
      clockRange = (.ok (), clockRange) := by
  have hfrom : IsRangeValue clockRange.fromValue := .sized 0x11 [0x01] rfl
  have hto : IsRangeValue clockRange.toValue := .sized 0x11 [0x02] rfl
  have hcount : IsVector captureObjectSize clockRange.selectedValues := Nat.zero_le _
  exact associationCodecs.2.2.2.2.1 clockRange clockRange hfrom hto hcount

end Cosem

end Dlms
