import Dlms.Apdu.Data

/-!
# The frame of a service APDU

What the GET, SET and ACTION codecs have in common. Each of the six APDUs
starts with its tag, the choice of its variant and the invoke id and
priority, and each top-level decoder rejects trailing bytes. The variants
share COSEM descriptors, selective access, and the two datablock layouts.

The data of a variant stands at the end of the APDU. So a decoder proof reads
the fixed fields with `decodes_` lemmas and ends with an `accepts_` lemma for
the data.

## Main definitions

* `CosemAttributeDescriptor`, `CosemMethodDescriptor`: What a request names.
* `DataBlock`: One block of a long transfer.
* `decodeServiceApdu`, `encodeServiceApdu`: The frame around a variant.

## Theorems

* `decodes_decodeCosemAttributeDescriptor`, `writes_encodeCosemAttributeDescriptor`
  and the same for methods and blocks: The field codecs agree.
* `accepts_decodeServiceApdu`, `writes_encodeServiceApdu`: The frame, once.
-/

namespace Dlms

namespace Apdu

open Codec

/-- A logical name: the six value groups of an OBIS code. -/
structure LogicalName where
  b0 : UInt8
  b1 : UInt8
  b2 : UInt8
  b3 : UInt8
  b4 : UInt8
  b5 : UInt8
  deriving DecidableEq, Repr

structure CosemAttributeDescriptor where
  classId : UInt16
  logicalName : LogicalName
  attributeId : UInt8
  deriving DecidableEq, Repr

structure CosemMethodDescriptor where
  classId : UInt16
  logicalName : LogicalName
  methodId : UInt8
  deriving DecidableEq, Repr

structure SelectiveAccessDescriptor where
  selector : UInt8
  parameters : DlmsData

/-- An attribute with its optional selective access. -/
structure CosemAttributeDescriptorWithSelection where
  descriptor : CosemAttributeDescriptor
  selection : Option SelectiveAccessDescriptor

/-- A block of a long transfer. The source has this record twice, for the two
    directions, with the same fields and the same layout. -/
structure DataBlock where
  lastBlock : Bool
  blockNumber : UInt32
  rawData : Bytes
  deriving DecidableEq, Repr

/-! ### Descriptors -/

def decodeLogicalName : Reader LogicalName := do
  let b0 ← readU8
  let b1 ← readU8
  let b2 ← readU8
  let b3 ← readU8
  let b4 ← readU8
  let b5 ← readU8
  pure ⟨b0, b1, b2, b3, b4, b5⟩

def LogicalName.bytes (name : LogicalName) : Bytes :=
  [name.b0, name.b1, name.b2, name.b3, name.b4, name.b5]

/-- The writer stores the six groups one at a time. -/
def encodeLogicalName (name : LogicalName) : Writer := Emitter.forEach writeU8 name.bytes

def decodeCosemAttributeDescriptor : Reader CosemAttributeDescriptor := do
  let classId ← readU16
  let logicalName ← decodeLogicalName
  let attributeId ← readU8
  pure { classId, logicalName, attributeId }

def encodeCosemAttributeDescriptor (input : CosemAttributeDescriptor) : Writer := do
  writeU16 input.classId
  encodeLogicalName input.logicalName
  writeU8 input.attributeId

def decodeCosemMethodDescriptor : Reader CosemMethodDescriptor := do
  let classId ← readU16
  let logicalName ← decodeLogicalName
  let methodId ← readU8
  pure { classId, logicalName, methodId }

def encodeCosemMethodDescriptor (input : CosemMethodDescriptor) : Writer := do
  writeU16 input.classId
  encodeLogicalName input.logicalName
  writeU8 input.methodId

/-! ### Selective access and optional data -/

def decodeSelection (maximumDataDepth : Nat) : Reader (Option SelectiveAccessDescriptor) := do
  let flag ← readU8
  if flag > 1 then
    Parser.fail .invalidChoice
  else if flag = 0 then
    pure none
  else do
    let selector ← readU8
    let parameters ← decodeDlmsDataFromReader maximumDataDepth
    pure (some { selector, parameters })

def encodeSelection (input : Option SelectiveAccessDescriptor) : Writer :=
  match input with
  | none => writeU8 0x00
  | some selection => do
      writeU8 0x01
      writeU8 selection.selector
      encodeDlmsData selection.parameters

def decodeDescriptorWithSelection (maximumDataDepth : Nat) :
    Reader CosemAttributeDescriptorWithSelection := do
  let descriptor ← decodeCosemAttributeDescriptor
  let selection ← decodeSelection maximumDataDepth
  pure { descriptor, selection }

def encodeDescriptorWithSelection (input : CosemAttributeDescriptorWithSelection) : Writer := do
  encodeCosemAttributeDescriptor input.descriptor
  encodeSelection input.selection

def decodeOptionalData (maximumDataDepth : Nat) : Reader (Option DlmsData) := do
  let flag ← readU8
  if flag > 1 then
    Parser.fail .invalidChoice
  else if flag = 0 then
    pure none
  else
    some <$> decodeDlmsDataFromReader maximumDataDepth

def encodeOptionalData (input : Option DlmsData) : Writer :=
  match input with
  | none => writeU8 0x00
  | some data => do
      writeU8 0x01
      encodeDlmsData data

/-! ### Datablocks -/

def decodeDataBlock : Reader DataBlock := do
  let lastBlock ← readAxdrBoolean
  let blockNumber ← readU32
  let rawData ← readAxdrOctetString
  pure { lastBlock, blockNumber, rawData }

def encodeDataBlock (input : DataBlock) : Writer := do
  writeAxdrBoolean input.lastBlock
  writeU32 input.blockNumber
  writeAxdrOctetString input.rawData

/-! ### The frame -/

/-- Tag, choice and invoke id, then the variant the choice names, then the end
    of the APDU. -/
def decodeServiceApdu {α : Type} (expectedTag : UInt8) (body : UInt8 → UInt8 → Reader α) :
    Reader α := do
  let tag ← readU8
  if tag ≠ expectedTag then
    Parser.fail .invalidTag
  else do
    let choice ← readU8
    let invokeIdAndPriority ← readU8
    let output ← body choice invokeIdAndPriority
    requireNoTrailingBytes
    pure output

def encodeServiceApdu (tag choice invokeIdAndPriority : UInt8) (body : Writer) : Writer := do
  writeU8 tag
  writeU8 choice
  writeU8 invokeIdAndPriority
  body

/-! ### What the writers write and the readers read back -/

def attributeDescriptorBytes (input : CosemAttributeDescriptor) : Bytes :=
  beBytes 2 input.classId.toNat ++ (input.logicalName.bytes ++ [input.attributeId])

def methodDescriptorBytes (input : CosemMethodDescriptor) : Bytes :=
  beBytes 2 input.classId.toNat ++ (input.logicalName.bytes ++ [input.methodId])

def dataBlockBytes (input : DataBlock) : Bytes :=
  [flagByte input.lastBlock] ++
    (beBytes 4 input.blockNumber.toNat ++ axdrOctetStringBytes input.rawData)

def serviceApduBytes (tag choice invokeIdAndPriority : UInt8) (body : Bytes) : Bytes :=
  [tag] ++ ([choice] ++ ([invokeIdAndPriority] ++ body))

theorem writes_encodeLogicalName (name : LogicalName) :
    Writes (encodeLogicalName name) name.bytes := by
  have h := emits_forEach ApduStatus.outputBufferTooSmall writeU8 (fun b => [b]) name.bytes
    fun b _ => writes_writeU8 b
  rwa [List.flatMap_singleton'] at h

theorem decodes_decodeLogicalName (name : LogicalName) :
    Decodes decodeLogicalName name.bytes name :=
  fun _ => rfl

theorem writes_encodeCosemAttributeDescriptor (input : CosemAttributeDescriptor) :
    Writes (encodeCosemAttributeDescriptor input) (attributeDescriptorBytes input) :=
  emits_bind _ _ _ _ _ (writes_writeU16 _)
    (emits_bind _ _ _ _ _ (writes_encodeLogicalName _) (writes_writeU8 _))

theorem writes_encodeCosemMethodDescriptor (input : CosemMethodDescriptor) :
    Writes (encodeCosemMethodDescriptor input) (methodDescriptorBytes input) :=
  emits_bind _ _ _ _ _ (writes_writeU16 _)
    (emits_bind _ _ _ _ _ (writes_encodeLogicalName _) (writes_writeU8 _))

theorem decodes_decodeCosemAttributeDescriptor (input : CosemAttributeDescriptor) :
    Decodes decodeCosemAttributeDescriptor (attributeDescriptorBytes input) input := by
  have hid := decodes_map _ (fun attributeId => { input with attributeId }) _ _
    (decodes_readU8 input.attributeId)
  exact decodes_bind _ _ _ _ _ _ (decodes_readU16 _)
    (decodes_bind _ _ _ _ _ _ (decodes_decodeLogicalName _) hid)

theorem decodes_decodeCosemMethodDescriptor (input : CosemMethodDescriptor) :
    Decodes decodeCosemMethodDescriptor (methodDescriptorBytes input) input := by
  have hid := decodes_map _ (fun methodId => { input with methodId }) _ _
    (decodes_readU8 input.methodId)
  exact decodes_bind _ _ _ _ _ _ (decodes_readU16 _)
    (decodes_bind _ _ _ _ _ _ (decodes_decodeLogicalName _) hid)

theorem length_attributeDescriptorBytes (input : CosemAttributeDescriptor) :
    (attributeDescriptorBytes input).length = 9 := by
  simp [attributeDescriptorBytes, LogicalName.bytes, length_beBytes]

theorem length_methodDescriptorBytes (input : CosemMethodDescriptor) :
    (methodDescriptorBytes input).length = 9 := by
  simp [methodDescriptorBytes, LogicalName.bytes, length_beBytes]

theorem decodes_decodeDescriptorWithSelection (maximumDataDepth : Nat)
    (descriptor : CosemAttributeDescriptor) :
    Decodes (decodeDescriptorWithSelection maximumDataDepth)
      (attributeDescriptorBytes descriptor ++ [0x00]) ⟨descriptor, none⟩ := by
  have hselection : Decodes (decodeSelection maximumDataDepth) [0x00] none := fun _ => rfl
  have hnone := decodes_map _ (CosemAttributeDescriptorWithSelection.mk descriptor) _ _ hselection
  exact decodes_bind _ _ _ _ _ _ (decodes_decodeCosemAttributeDescriptor descriptor) hnone

theorem writes_encodeDescriptorWithSelection (descriptor : CosemAttributeDescriptor) :
    Writes (encodeDescriptorWithSelection ⟨descriptor, none⟩)
      (attributeDescriptorBytes descriptor ++ [0x00]) :=
  emits_bind _ _ _ _ _ (writes_encodeCosemAttributeDescriptor _) (writes_writeU8 _)

theorem writes_encodeDataBlock (input : DataBlock) :
    Writes (encodeDataBlock input) (dataBlockBytes input) :=
  emits_bind _ _ _ _ _ (writes_writeU8 _)
    (emits_bind _ _ _ _ _ (writes_writeU32 _) (writes_writeAxdrOctetString _))

theorem decodes_decodeDataBlock (input : DataBlock)
    (h : input.rawData.length < 256 ^ sizeOctets) :
    Decodes decodeDataBlock (dataBlockBytes input) input := by
  have hraw := decodes_map _ (fun rawData => { input with rawData }) _ _
    (decodes_readAxdrOctetString input.rawData h)
  exact decodes_bind _ _ _ _ _ _ (decodes_readAxdrBoolean _)
    (decodes_bind _ _ _ _ _ _ (decodes_readU32 _) hraw)

theorem length_dataBlockBytes (input : DataBlock) :
    (dataBlockBytes input).length =
      5 + axdrLengthEncodedSize input.rawData.length + input.rawData.length := by
  simp only [dataBlockBytes, axdrOctetStringBytes, List.length_append, List.length_cons,
    List.length_nil, length_beBytes, length_axdrLengthBytes]
  omega

theorem writes_encodeServiceApdu (tag choice invokeIdAndPriority : UInt8) (body : Writer)
    (bytes : Bytes) (h : Writes body bytes) :
    Writes (encodeServiceApdu tag choice invokeIdAndPriority body)
      (serviceApduBytes tag choice invokeIdAndPriority bytes) :=
  emits_bind _ _ _ _ _ (writes_writeU8 _)
    (emits_bind _ _ _ _ _ (writes_writeU8 _) (emits_bind _ _ _ _ _ (writes_writeU8 _) h))

/-- Whatever the encoder of an APDU writes starts with the frame. -/
theorem serviceApduBytes_of_runEmitter (tag choice invokeIdAndPriority : UInt8) (body : Writer)
    (hbody : UniformWriter body) (capacity : Nat) (bytes : Bytes)
    (h : runEmitter capacity (encodeServiceApdu tag choice invokeIdAndPriority body) = .ok bytes) :
    ∃ rest, bytes = serviceApduBytes tag choice invokeIdAndPriority rest := by
  rcases hbody with ⟨rest, hrest⟩ | hfail
  · rw [runEmitter_of_emits _ _ _ _ (writes_encodeServiceApdu tag choice invokeIdAndPriority body
      rest hrest)] at h
    by_cases hfits : (serviceApduBytes tag choice invokeIdAndPriority rest).length ≤ capacity
    · rw [if_pos hfits, Except.ok.injEq] at h
      exact ⟨rest, h.symm⟩
    · rw [if_neg hfits] at h
      cases h
  · have hframe := fails_bind _ _ _ _ (writes_writeU8 tag) (fails_bind _ _ _ _
      (writes_writeU8 choice) (fails_bind _ _ _ _ (writes_writeU8 invokeIdAndPriority) hfail))
    rcases hframe (Sink.empty capacity) with ⟨status, hstatus⟩
    rw [runEmitter, encodeServiceApdu, hstatus] at h
    cases h

theorem length_serviceApduBytes (tag choice invokeIdAndPriority : UInt8) (body : Bytes) :
    (serviceApduBytes tag choice invokeIdAndPriority body).length = 3 + body.length := by
  simp only [serviceApduBytes, List.length_append, List.length_cons, List.length_nil]
  omega

/-- The frame accepts an APDU when its variant accepts the rest of it. -/
theorem accepts_decodeServiceApdu {α : Type} (tag choice invokeIdAndPriority : UInt8)
    (body : UInt8 → UInt8 → Reader α) (bytes : Bytes) (value : α)
    (h : Accepts (body choice invokeIdAndPriority) bytes value) :
    Accepts (decodeServiceApdu tag body)
      (serviceApduBytes tag choice invokeIdAndPriority bytes) value := by
  have hend := accepts_atEnd (body choice invokeIdAndPriority) ApduStatus.invalidLength id bytes
    value h
  refine accepts_bind _ _ _ _ _ _ (decodes_readU8 tag) ?_
  rw [if_neg (by simp)]
  exact accepts_bind _ _ _ _ _ _ (decodes_readU8 _)
    (accepts_bind _ _ _ _ _ _ (decodes_readU8 _) hend)

/-- An APDU the frame accepts was read by the variant its choice names. -/
theorem body_of_decodeServiceApdu {α : Type} (tag choice invokeIdAndPriority : UInt8)
    (body : UInt8 → UInt8 → Reader α) (bytes : Bytes) (value : α)
    (h : runParser (decodeServiceApdu tag body)
      (serviceApduBytes tag choice invokeIdAndPriority bytes) = .ok value) :
    ∃ rest, body choice invokeIdAndPriority bytes = .ok (value, rest) := by
  have hbody : decodeServiceApdu tag body
      (serviceApduBytes tag choice invokeIdAndPriority bytes) =
      (do
        let output ← body choice invokeIdAndPriority
        requireNoTrailingBytes
        pure output : Reader α) bytes := by
    simp [decodeServiceApdu, serviceApduBytes, readU8, Parser.item, bind, StateT.bind, Except.bind]
  rw [runParser, hbody] at h
  simp only [bind, StateT.bind] at h
  rcases hvariant : body choice invokeIdAndPriority bytes with status | ⟨output, rest⟩
  · rw [hvariant] at h
    exact absurd h (by simp [Except.bind])
  · rw [hvariant] at h
    cases rest with
    | nil =>
        have houtput : output = value := Except.ok.inj h
        rw [houtput]
        exact ⟨_, rfl⟩
    | cons byte rest =>
        exact absurd h (by simp [Except.bind, requireNoTrailingBytes, Parser.atEnd])

end Apdu

end Dlms
