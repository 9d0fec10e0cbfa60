import Dlms.Apdu.Service

/-!
# SET request and response

The five variants of the SET request and of the SET response. Three of the
request variants carry blocks of an encoded value instead of the value, and
two of the responses acknowledge them by number.

## Main definitions

* `SetRequest`, `SetResponse`: The APDUs.
* `decodeSetRequest`, `encodeSetRequest`, `decodeSetResponse`,
  `encodeSetResponse`: Their codecs.

## Theorems

* `decodeSetRequest_normal`, `decodeSetRequest_firstBlock`,
  `decodeSetRequest_block`: The requests a client sends arrive as they were.
* `decodeSetResponse_dataBlock`, `decodeSetResponse_lastDataBlock`: So do the
  responses.
-/

namespace Dlms

namespace Apdu

open Codec

inductive SetRequest where
  | normal (invokeIdAndPriority : UInt8) (normal : CosemAttributeDescriptorWithSelection)
      (data : DlmsData)
  | withFirstDataBlock (invokeIdAndPriority : UInt8)
      (normal : CosemAttributeDescriptorWithSelection) (dataBlock : DataBlock)
  | withDataBlock (invokeIdAndPriority : UInt8) (dataBlock : DataBlock)
  | withList (invokeIdAndPriority : UInt8) (list : List CosemAttributeDescriptorWithSelection)
      (valueList : List DlmsData)
  | withListAndFirstDataBlock (invokeIdAndPriority : UInt8)
      (list : List CosemAttributeDescriptorWithSelection) (dataBlock : DataBlock)

inductive SetResponse where
  | normal (invokeIdAndPriority result : UInt8)
  | dataBlock (invokeIdAndPriority : UInt8) (blockNumber : UInt32)
  | lastDataBlock (invokeIdAndPriority result : UInt8) (blockNumber : UInt32)
  | lastDataBlockWithList (invokeIdAndPriority : UInt8) (resultList : List UInt8)
      (blockNumber : UInt32)
  | withList (invokeIdAndPriority : UInt8) (resultList : List UInt8)

def setRequestTag : UInt8 := 0xC1

def setResponseTag : UInt8 := 0xC5

/-! ### Codecs -/

def decodeResultList : Reader (List UInt8) := do
  let count ← readAxdrLength
  Parser.repeatN readU8 count

def encodeResultList (input : List UInt8) : Writer := do
  writeAxdrLength input.length
  Emitter.forEach writeU8 input

def decodeDescriptorList (maximumDataDepth count : Nat) :
    Reader (List CosemAttributeDescriptorWithSelection) :=
  Parser.repeatN (decodeDescriptorWithSelection maximumDataDepth) count

def decodeSetRequestVariant (maximumDataDepth : Nat) (choice invokeIdAndPriority : UInt8) :
    Reader SetRequest :=
  match choice.toNat with
  | 1 => do
      let normal ← decodeDescriptorWithSelection maximumDataDepth
      .normal invokeIdAndPriority normal <$> decodeDlmsDataFromReader maximumDataDepth
  | 2 => do
      let normal ← decodeDescriptorWithSelection maximumDataDepth
      .withFirstDataBlock invokeIdAndPriority normal <$> decodeDataBlock
  | 3 => .withDataBlock invokeIdAndPriority <$> decodeDataBlock
  | 4 => do
      let count ← readAxdrLength
      let list ← decodeDescriptorList maximumDataDepth count
      let valueCount ← readAxdrLength
      if valueCount ≠ count then
        Parser.fail .invalidLength
      else
        .withList invokeIdAndPriority list <$>
          Parser.repeatN (decodeDlmsDataFromReader maximumDataDepth) valueCount
  | 5 => do
      let count ← readAxdrLength
      let list ← decodeDescriptorList maximumDataDepth count
      .withListAndFirstDataBlock invokeIdAndPriority list <$> decodeDataBlock
  | _ => Parser.fail .unsupportedXdlmsService

def decodeSetRequest (input : Bytes) (maximumDataDepth : Nat) : Except ApduStatus SetRequest :=
  runParser (decodeServiceApdu setRequestTag (decodeSetRequestVariant maximumDataDepth)) input

def encodeSetRequest (input : SetRequest) : Writer :=
  match input with
  | .normal iip normal data => encodeServiceApdu setRequestTag 1 iip do
      encodeDescriptorWithSelection normal
      encodeDlmsData data
  | .withFirstDataBlock iip normal dataBlock => encodeServiceApdu setRequestTag 2 iip do
      encodeDescriptorWithSelection normal
      encodeDataBlock dataBlock
  | .withDataBlock iip dataBlock =>
      encodeServiceApdu setRequestTag 3 iip (encodeDataBlock dataBlock)
  | .withList iip list valueList => encodeServiceApdu setRequestTag 4 iip do
      if list.length ≠ valueList.length then
        Emitter.fail .invalidLength
      else do
        writeAxdrLength list.length
        Emitter.forEach encodeDescriptorWithSelection list
        writeAxdrLength valueList.length
        Emitter.forEach encodeDlmsData valueList
  | .withListAndFirstDataBlock iip list dataBlock => encodeServiceApdu setRequestTag 5 iip do
      writeAxdrLength list.length
      Emitter.forEach encodeDescriptorWithSelection list
      encodeDataBlock dataBlock

def decodeSetResponseVariant (choice invokeIdAndPriority : UInt8) : Reader SetResponse :=
  match choice.toNat with
  | 1 => .normal invokeIdAndPriority <$> readU8
  | 2 => .dataBlock invokeIdAndPriority <$> readU32
  | 3 => do
      let result ← readU8
      .lastDataBlock invokeIdAndPriority result <$> readU32
  | 4 => do
      let resultList ← decodeResultList
      .lastDataBlockWithList invokeIdAndPriority resultList <$> readU32
  | 5 => .withList invokeIdAndPriority <$> decodeResultList
  | _ => Parser.fail .unsupportedXdlmsService

def decodeSetResponse (input : Bytes) : Except ApduStatus SetResponse :=
  runParser (decodeServiceApdu setResponseTag decodeSetResponseVariant) input

def encodeSetResponse (input : SetResponse) : Writer :=
  match input with
  | .normal iip result => encodeServiceApdu setResponseTag 1 iip (writeU8 result)
  | .dataBlock iip blockNumber => encodeServiceApdu setResponseTag 2 iip (writeU32 blockNumber)
  | .lastDataBlock iip result blockNumber => encodeServiceApdu setResponseTag 3 iip do
      writeU8 result
      writeU32 blockNumber
  | .lastDataBlockWithList iip resultList blockNumber => encodeServiceApdu setResponseTag 4 iip do
      encodeResultList resultList
      writeU32 blockNumber
  | .withList iip resultList =>
      encodeServiceApdu setResponseTag 5 iip (encodeResultList resultList)

/-! ### The variants two peers exchange -/

/-- A normal SET request without selective access. -/
def setRequestNormalBytes (iip : UInt8) (descriptor : CosemAttributeDescriptor) (data : Bytes) :
    Bytes :=
  serviceApduBytes setRequestTag 1 iip ((attributeDescriptorBytes descriptor ++ [0x00]) ++ data)

theorem writes_setRequest_normal (iip : UInt8) (descriptor : CosemAttributeDescriptor)
    (value : DlmsData) (data : Bytes) (h : Writes (encodeDlmsData value) data) :
    Writes (encodeSetRequest (.normal iip ⟨descriptor, none⟩ value))
      (setRequestNormalBytes iip descriptor data) :=
  writes_encodeServiceApdu _ _ _ _ _
    (emits_bind _ _ _ _ _ (writes_encodeDescriptorWithSelection descriptor) h)

theorem decodeSetRequest_normal (maximumDataDepth : Nat) (iip : UInt8)
    (descriptor : CosemAttributeDescriptor) (value : DlmsData) (data : Bytes)
    (h : decodeDlmsData data maximumDataDepth = .ok value) :
    decodeSetRequest (setRequestNormalBytes iip descriptor data) maximumDataDepth =
      .ok (.normal iip ⟨descriptor, none⟩ value) := by
  rw [decodeDlmsData_eq_ok_iff] at h
  have hvariant := accepts_bind _
    (fun d => SetRequest.normal iip d <$> decodeDlmsDataFromReader maximumDataDepth) _ _ _ _
    (decodes_decodeDescriptorWithSelection maximumDataDepth descriptor)
    (accepts_map _ (SetRequest.normal iip ⟨descriptor, none⟩) _ _ h)
  exact runParser_of_accepts _ _ _ (accepts_decodeServiceApdu _ _ _ _ _ _ hvariant)

/-- The SET request that opens a block transfer. -/
def setRequestFirstBlockBytes (iip : UInt8) (descriptor : CosemAttributeDescriptor)
    (dataBlock : DataBlock) : Bytes :=
  serviceApduBytes setRequestTag 2 iip
    ((attributeDescriptorBytes descriptor ++ [0x00]) ++ dataBlockBytes dataBlock)

theorem writes_setRequest_firstBlock (iip : UInt8) (descriptor : CosemAttributeDescriptor)
    (dataBlock : DataBlock) :
    Writes (encodeSetRequest (.withFirstDataBlock iip ⟨descriptor, none⟩ dataBlock))
      (setRequestFirstBlockBytes iip descriptor dataBlock) :=
  writes_encodeServiceApdu _ _ _ _ _
    (emits_bind _ _ _ _ _ (writes_encodeDescriptorWithSelection descriptor)
      (writes_encodeDataBlock _))

theorem decodeSetRequest_firstBlock (maximumDataDepth : Nat) (iip : UInt8)
    (descriptor : CosemAttributeDescriptor) (dataBlock : DataBlock)
    (h : dataBlock.rawData.length < 256 ^ sizeOctets) :
    decodeSetRequest (setRequestFirstBlockBytes iip descriptor dataBlock) maximumDataDepth =
      .ok (.withFirstDataBlock iip ⟨descriptor, none⟩ dataBlock) := by
  have hvariant := decodes_bind _
    (fun d => SetRequest.withFirstDataBlock iip d <$> decodeDataBlock) _ _ _ _
    (decodes_decodeDescriptorWithSelection maximumDataDepth descriptor)
    (decodes_map _ (SetRequest.withFirstDataBlock iip ⟨descriptor, none⟩) _ _
      (decodes_decodeDataBlock dataBlock h))
  exact runParser_of_accepts _ _ _
    (accepts_decodeServiceApdu _ _ _ _ _ _ (accepts_of_decodes _ _ _ hvariant))

/-- The SET request that continues a block transfer. -/
def setRequestBlockBytes (iip : UInt8) (dataBlock : DataBlock) : Bytes :=
  serviceApduBytes setRequestTag 3 iip (dataBlockBytes dataBlock)

theorem writes_setRequest_block (iip : UInt8) (dataBlock : DataBlock) :
    Writes (encodeSetRequest (.withDataBlock iip dataBlock))
      (setRequestBlockBytes iip dataBlock) :=
  writes_encodeServiceApdu _ _ _ _ _ (writes_encodeDataBlock _)

theorem decodeSetRequest_block (maximumDataDepth : Nat) (iip : UInt8) (dataBlock : DataBlock)
    (h : dataBlock.rawData.length < 256 ^ sizeOctets) :
    decodeSetRequest (setRequestBlockBytes iip dataBlock) maximumDataDepth =
      .ok (.withDataBlock iip dataBlock) :=
  runParser_of_accepts _ _ _ (accepts_decodeServiceApdu _ _ _ _ _ _
    (accepts_map _ _ _ _ (accepts_of_decodes _ _ _ (decodes_decodeDataBlock _ h))))

def setResponseNormalBytes (iip result : UInt8) : Bytes :=
  serviceApduBytes setResponseTag 1 iip [result]

theorem writes_setResponse_normal (iip result : UInt8) :
    Writes (encodeSetResponse (.normal iip result)) (setResponseNormalBytes iip result) :=
  writes_encodeServiceApdu _ _ _ _ _ (writes_writeU8 _)

def setResponseDataBlockBytes (iip : UInt8) (blockNumber : UInt32) : Bytes :=
  serviceApduBytes setResponseTag 2 iip (beBytes 4 blockNumber.toNat)

theorem writes_setResponse_dataBlock (iip : UInt8) (blockNumber : UInt32) :
    Writes (encodeSetResponse (.dataBlock iip blockNumber))
      (setResponseDataBlockBytes iip blockNumber) :=
  writes_encodeServiceApdu _ _ _ _ _ (writes_writeU32 _)

theorem decodeSetResponse_dataBlock (iip : UInt8) (blockNumber : UInt32) :
    decodeSetResponse (setResponseDataBlockBytes iip blockNumber) =
      .ok (.dataBlock iip blockNumber) :=
  runParser_of_accepts _ _ _ (accepts_decodeServiceApdu _ _ _ _ _ _
    (accepts_map _ _ _ _ (accepts_of_decodes _ _ _ (decodes_readU32 _))))

def setResponseLastDataBlockBytes (iip result : UInt8) (blockNumber : UInt32) : Bytes :=
  serviceApduBytes setResponseTag 3 iip ([result] ++ beBytes 4 blockNumber.toNat)

theorem writes_setResponse_lastDataBlock (iip result : UInt8) (blockNumber : UInt32) :
    Writes (encodeSetResponse (.lastDataBlock iip result blockNumber))
      (setResponseLastDataBlockBytes iip result blockNumber) :=
  writes_encodeServiceApdu _ _ _ _ _
    (emits_bind _ _ _ _ _ (writes_writeU8 _) (writes_writeU32 _))

theorem decodeSetResponse_lastDataBlock (iip result : UInt8) (blockNumber : UInt32) :
    decodeSetResponse (setResponseLastDataBlockBytes iip result blockNumber) =
      .ok (.lastDataBlock iip result blockNumber) := by
  have hvariant := decodes_bind _
    (fun r => SetResponse.lastDataBlock iip r <$> readU32) _ _ _ _ (decodes_readU8 result)
    (decodes_map _ (SetResponse.lastDataBlock iip result) _ _ (decodes_readU32 blockNumber))
  exact runParser_of_accepts _ _ _
    (accepts_decodeServiceApdu _ _ _ _ _ _ (accepts_of_decodes _ _ _ hvariant))

end Apdu

end Dlms
