import Dlms.Apdu.Service

/-!
# ACTION request and response

The six variants of the ACTION request and the four of the ACTION response.
Blocks of an invocation parameter go in one direction and blocks of a return
parameter in the other, each acknowledged by a variant of the opposite APDU.

A return parameter is an optional field whose content is again a choice
between data and an access error. The codec knows the data branch only.

## Main definitions

* `ActionRequest`, `ActionResponse`: The APDUs.
* `decodeActionRequest`, `encodeActionRequest`, `decodeActionResponse`,
  `encodeActionResponse`: Their codecs.

## Theorems

* `decodeActionRequest_some`, `decodeActionRequest_firstBlock`,
  `decodeActionRequest_block`: The requests a client sends arrive as they were.
* `decodeActionResponse_some`, `decodeActionResponse_next`: So do the responses.
-/

namespace Dlms

namespace Apdu

open Codec

structure ActionResponseItem where
  result : UInt8
  returnParameter : Option DlmsData

structure CosemMethodDescriptorWithParameter where
  descriptor : CosemMethodDescriptor
  invocationParameter : Option DlmsData

inductive ActionRequest where
  | normal (invokeIdAndPriority : UInt8) (normal : CosemMethodDescriptorWithParameter)
  | nextPblock (invokeIdAndPriority : UInt8) (blockNumber : UInt32)
  | withList (invokeIdAndPriority : UInt8) (list : List CosemMethodDescriptorWithParameter)
  | withFirstPblock (invokeIdAndPriority : UInt8) (descriptor : CosemMethodDescriptor)
      (dataBlock : DataBlock)
  | withListAndFirstPblock (invokeIdAndPriority : UInt8)
      (descriptorList : List CosemMethodDescriptor) (dataBlock : DataBlock)
  | withPblock (invokeIdAndPriority : UInt8) (dataBlock : DataBlock)

inductive ActionResponse where
  | normal (invokeIdAndPriority : UInt8) (normal : ActionResponseItem)
  | withPblock (invokeIdAndPriority : UInt8) (dataBlock : DataBlock)
  | withList (invokeIdAndPriority : UInt8) (list : List ActionResponseItem)
  | nextPblock (invokeIdAndPriority : UInt8) (blockNumber : UInt32)

def actionRequestTag : UInt8 := 0xC3

def actionResponseTag : UInt8 := 0xC7

/-! ### Codecs -/

def decodeOptionalActionReturnParameter (maximumDataDepth : Nat) : Reader (Option DlmsData) := do
  let flag ← readU8
  if flag > 1 then
    Parser.fail .invalidChoice
  else if flag = 0 then
    pure none
  else do
    let choice ← readU8
    if choice ≠ 0 then
      Parser.fail .unsupportedXdlmsService
    else
      some <$> decodeDlmsDataFromReader maximumDataDepth

def encodeOptionalActionReturnParameter (input : Option DlmsData) : Writer :=
  match input with
  | none => writeU8 0x00
  | some data => do
      writeU8 0x01
      writeU8 0x00
      encodeDlmsData data

def decodeMethodWithParameter (maximumDataDepth : Nat) :
    Reader CosemMethodDescriptorWithParameter := do
  let descriptor ← decodeCosemMethodDescriptor
  let invocationParameter ← decodeOptionalData maximumDataDepth
  pure { descriptor, invocationParameter }

def encodeMethodWithParameter (input : CosemMethodDescriptorWithParameter) : Writer := do
  encodeCosemMethodDescriptor input.descriptor
  encodeOptionalData input.invocationParameter

def decodeResponseItem (maximumDataDepth : Nat) : Reader ActionResponseItem := do
  let result ← readU8
  let returnParameter ← decodeOptionalActionReturnParameter maximumDataDepth
  pure { result, returnParameter }

def encodeResponseItem (input : ActionResponseItem) : Writer := do
  writeU8 input.result
  encodeOptionalActionReturnParameter input.returnParameter

def decodeActionRequestVariant (maximumDataDepth : Nat) (choice invokeIdAndPriority : UInt8) :
    Reader ActionRequest :=
  match choice.toNat with
  | 1 => .normal invokeIdAndPriority <$> decodeMethodWithParameter maximumDataDepth
  | 2 => .nextPblock invokeIdAndPriority <$> readU32
  | 3 => do
      let count ← readAxdrLength
      .withList invokeIdAndPriority <$>
        Parser.repeatN (decodeMethodWithParameter maximumDataDepth) count
  | 4 => do
      let descriptor ← decodeCosemMethodDescriptor
      .withFirstPblock invokeIdAndPriority descriptor <$> decodeDataBlock
  | 5 => do
      let count ← readAxdrLength
      let descriptorList ← Parser.repeatN decodeCosemMethodDescriptor count
      .withListAndFirstPblock invokeIdAndPriority descriptorList <$> decodeDataBlock
  | 6 => .withPblock invokeIdAndPriority <$> decodeDataBlock
  | _ => Parser.fail .unsupportedXdlmsService

def decodeActionRequest (input : Bytes) (maximumDataDepth : Nat) :
    Except ApduStatus ActionRequest :=
  runParser (decodeServiceApdu actionRequestTag (decodeActionRequestVariant maximumDataDepth)) input

def encodeActionRequest (input : ActionRequest) : Writer :=
  match input with
  | .normal iip normal =>
      encodeServiceApdu actionRequestTag 1 iip (encodeMethodWithParameter normal)
  | .nextPblock iip blockNumber =>
      encodeServiceApdu actionRequestTag 2 iip (writeU32 blockNumber)
  | .withList iip list => encodeServiceApdu actionRequestTag 3 iip do
      writeAxdrLength list.length
      Emitter.forEach encodeMethodWithParameter list
  | .withFirstPblock iip descriptor dataBlock => encodeServiceApdu actionRequestTag 4 iip do
      encodeCosemMethodDescriptor descriptor
      encodeDataBlock dataBlock
  | .withListAndFirstPblock iip descriptorList dataBlock =>
      encodeServiceApdu actionRequestTag 5 iip do
        writeAxdrLength descriptorList.length
        Emitter.forEach encodeCosemMethodDescriptor descriptorList
        encodeDataBlock dataBlock
  | .withPblock iip dataBlock =>
      encodeServiceApdu actionRequestTag 6 iip (encodeDataBlock dataBlock)

def decodeActionResponseVariant (maximumDataDepth : Nat) (choice invokeIdAndPriority : UInt8) :
    Reader ActionResponse :=
  match choice.toNat with
  | 1 => .normal invokeIdAndPriority <$> decodeResponseItem maximumDataDepth
  | 2 => .withPblock invokeIdAndPriority <$> decodeDataBlock
  | 3 => do
      let count ← readAxdrLength
      .withList invokeIdAndPriority <$>
        Parser.repeatN (decodeResponseItem maximumDataDepth) count
  | 4 => .nextPblock invokeIdAndPriority <$> readU32
  | _ => Parser.fail .unsupportedXdlmsService

def decodeActionResponse (input : Bytes) (maximumDataDepth : Nat) :
    Except ApduStatus ActionResponse :=
  runParser (decodeServiceApdu actionResponseTag (decodeActionResponseVariant maximumDataDepth))
    input

def encodeActionResponse (input : ActionResponse) : Writer :=
  match input with
  | .normal iip normal => encodeServiceApdu actionResponseTag 1 iip (encodeResponseItem normal)
  | .withPblock iip dataBlock =>
      encodeServiceApdu actionResponseTag 2 iip (encodeDataBlock dataBlock)
  | .withList iip list => encodeServiceApdu actionResponseTag 3 iip do
      writeAxdrLength list.length
      Emitter.forEach encodeResponseItem list
  | .nextPblock iip blockNumber =>
      encodeServiceApdu actionResponseTag 4 iip (writeU32 blockNumber)

/-! ### The variants two peers exchange -/

/-- A normal ACTION request, with the bytes of its parameter when it has one. -/
def actionRequestNormalBytes (iip : UInt8) (descriptor : CosemMethodDescriptor)
    (parameter : Option Bytes) : Bytes :=
  serviceApduBytes actionRequestTag 1 iip (methodDescriptorBytes descriptor ++
    (match parameter with
      | none => [0x00]
      | some data => [0x01] ++ data))

theorem writes_actionRequest_some (iip : UInt8) (descriptor : CosemMethodDescriptor)
    (value : DlmsData) (data : Bytes) (h : Writes (encodeDlmsData value) data) :
    Writes (encodeActionRequest (.normal iip ⟨descriptor, some value⟩))
      (actionRequestNormalBytes iip descriptor (some data)) :=
  writes_encodeServiceApdu _ _ _ _ _
    (emits_bind _ _ _ _ _ (writes_encodeCosemMethodDescriptor _)
      (emits_bind _ _ _ _ _ (writes_writeU8 _) h))

theorem decodeActionRequest_some (maximumDataDepth : Nat) (iip : UInt8)
    (descriptor : CosemMethodDescriptor) (value : DlmsData) (data : Bytes)
    (h : decodeDlmsData data maximumDataDepth = .ok value) :
    decodeActionRequest (actionRequestNormalBytes iip descriptor (some data)) maximumDataDepth =
      .ok (.normal iip ⟨descriptor, some value⟩) := by
  rw [decodeDlmsData_eq_ok_iff] at h
  have hoptional : Accepts (decodeOptionalData maximumDataDepth) ([0x01] ++ data) (some value) := by
    refine accepts_bind _ _ _ _ _ _ (decodes_readU8 _) ?_
    rw [if_neg (by decide), if_neg (by decide)]
    exact accepts_map _ _ _ _ h
  have hmethod : Accepts (decodeMethodWithParameter maximumDataDepth)
      (methodDescriptorBytes descriptor ++ ([0x01] ++ data)) ⟨descriptor, some value⟩ :=
    accepts_bind _ _ _ _ _ _ (decodes_decodeCosemMethodDescriptor descriptor)
      (accepts_map _ (CosemMethodDescriptorWithParameter.mk descriptor) _ _ hoptional)
  exact runParser_of_accepts _ _ _ (accepts_decodeServiceApdu _ _ _ _ _ _
    (accepts_map _ _ _ _ hmethod))

/-- The ACTION request that opens a block transfer. -/
def actionRequestFirstBlockBytes (iip : UInt8) (descriptor : CosemMethodDescriptor)
    (dataBlock : DataBlock) : Bytes :=
  serviceApduBytes actionRequestTag 4 iip
    (methodDescriptorBytes descriptor ++ dataBlockBytes dataBlock)

theorem writes_actionRequest_firstBlock (iip : UInt8) (descriptor : CosemMethodDescriptor)
    (dataBlock : DataBlock) :
    Writes (encodeActionRequest (.withFirstPblock iip descriptor dataBlock))
      (actionRequestFirstBlockBytes iip descriptor dataBlock) :=
  writes_encodeServiceApdu _ _ _ _ _
    (emits_bind _ _ _ _ _ (writes_encodeCosemMethodDescriptor _) (writes_encodeDataBlock _))

theorem decodeActionRequest_firstBlock (maximumDataDepth : Nat) (iip : UInt8)
    (descriptor : CosemMethodDescriptor) (dataBlock : DataBlock)
    (h : dataBlock.rawData.length < 256 ^ sizeOctets) :
    decodeActionRequest (actionRequestFirstBlockBytes iip descriptor dataBlock) maximumDataDepth =
      .ok (.withFirstPblock iip descriptor dataBlock) := by
  have hvariant := decodes_bind _
    (fun d => ActionRequest.withFirstPblock iip d <$> decodeDataBlock) _ _ _ _
    (decodes_decodeCosemMethodDescriptor descriptor)
    (decodes_map _ (ActionRequest.withFirstPblock iip descriptor) _ _
      (decodes_decodeDataBlock dataBlock h))
  exact runParser_of_accepts _ _ _
    (accepts_decodeServiceApdu _ _ _ _ _ _ (accepts_of_decodes _ _ _ hvariant))

/-- The ACTION request that continues a block transfer. -/
def actionRequestBlockBytes (iip : UInt8) (dataBlock : DataBlock) : Bytes :=
  serviceApduBytes actionRequestTag 6 iip (dataBlockBytes dataBlock)

theorem writes_actionRequest_block (iip : UInt8) (dataBlock : DataBlock) :
    Writes (encodeActionRequest (.withPblock iip dataBlock))
      (actionRequestBlockBytes iip dataBlock) :=
  writes_encodeServiceApdu _ _ _ _ _ (writes_encodeDataBlock _)

theorem decodeActionRequest_block (maximumDataDepth : Nat) (iip : UInt8) (dataBlock : DataBlock)
    (h : dataBlock.rawData.length < 256 ^ sizeOctets) :
    decodeActionRequest (actionRequestBlockBytes iip dataBlock) maximumDataDepth =
      .ok (.withPblock iip dataBlock) :=
  runParser_of_accepts _ _ _ (accepts_decodeServiceApdu _ _ _ _ _ _
    (accepts_map _ _ _ _ (accepts_of_decodes _ _ _ (decodes_decodeDataBlock _ h))))

/-- A normal response, with the bytes of its return parameter when it has one. -/
def actionResponseNormalBytes (iip result : UInt8) (parameter : Option Bytes) : Bytes :=
  serviceApduBytes actionResponseTag 1 iip ([result] ++
    (match parameter with
      | none => [0x00]
      | some data => [0x01] ++ ([0x00] ++ data)))

theorem writes_actionResponse_some (iip result : UInt8) (value : DlmsData) (data : Bytes)
    (h : Writes (encodeDlmsData value) data) :
    Writes (encodeActionResponse (.normal iip ⟨result, some value⟩))
      (actionResponseNormalBytes iip result (some data)) :=
  writes_encodeServiceApdu _ _ _ _ _
    (emits_bind _ _ _ _ _ (writes_writeU8 _)
      (emits_bind _ _ _ _ _ (writes_writeU8 _) (emits_bind _ _ _ _ _ (writes_writeU8 _) h)))

theorem decodeActionResponse_some (maximumDataDepth : Nat) (iip result : UInt8)
    (value : DlmsData) (data : Bytes) (h : decodeDlmsData data maximumDataDepth = .ok value) :
    decodeActionResponse (actionResponseNormalBytes iip result (some data)) maximumDataDepth =
      .ok (.normal iip ⟨result, some value⟩) := by
  rw [decodeDlmsData_eq_ok_iff] at h
  have hoptional : Accepts (decodeOptionalActionReturnParameter maximumDataDepth)
      ([0x01] ++ ([0x00] ++ data)) (some value) := by
    refine accepts_bind _ _ _ _ _ _ (decodes_readU8 _) ?_
    rw [if_neg (by decide), if_neg (by decide)]
    refine accepts_bind _ _ _ _ _ _ (decodes_readU8 _) ?_
    rw [if_neg (by decide)]
    exact accepts_map _ _ _ _ h
  have hitem : Accepts (decodeResponseItem maximumDataDepth)
      ([result] ++ ([0x01] ++ ([0x00] ++ data))) ⟨result, some value⟩ :=
    accepts_bind _ _ _ _ _ _ (decodes_readU8 result)
      (accepts_map _ (ActionResponseItem.mk result) _ _ hoptional)
  exact runParser_of_accepts _ _ _ (accepts_decodeServiceApdu _ _ _ _ _ _
    (accepts_map _ _ _ _ hitem))

theorem uniform_encodeResponseItem (item : ActionResponseItem) :
    UniformWriter (encodeResponseItem item) := by
  unfold encodeResponseItem encodeOptionalActionReturnParameter
  refine uniform_bind _ _ _ (uniform_of_emits _ _ _ (writes_writeU8 _)) ?_
  cases item.returnParameter with
  | none => exact uniform_of_emits _ _ _ (writes_writeU8 _)
  | some data =>
      refine uniform_bind _ _ _ (uniform_of_emits _ _ _ (writes_writeU8 _)) ?_
      exact uniform_bind _ _ _ (uniform_of_emits _ _ _ (writes_writeU8 _))
        (uniform_encodeDlmsData data)

/-- A response with the first choice is a normal one. -/
theorem normal_of_decodeActionResponse (maximumDataDepth : Nat) (iip : UInt8) (bytes : Bytes)
    (response : ActionResponse)
    (h : decodeActionResponse (serviceApduBytes actionResponseTag 1 iip bytes) maximumDataDepth =
      .ok response) : ∃ item, response = .normal iip item := by
  rcases body_of_decodeServiceApdu _ _ _ _ _ _ h with ⟨rest, hbody⟩
  change (ActionResponse.normal iip <$> decodeResponseItem maximumDataDepth) bytes = _ at hbody
  simp only [Functor.map, StateT.map] at hbody
  rcases hitem : decodeResponseItem maximumDataDepth bytes with status | ⟨item, left⟩
  · rw [hitem] at hbody
    exact absurd hbody (by simp [bind, Except.bind])
  · rw [hitem] at hbody
    exact ⟨item, (congrArg Prod.fst (Except.ok.inj hbody)).symm⟩

/-- The response that asks for the next block of an invocation parameter. -/
def actionResponseNextBytes (iip : UInt8) (blockNumber : UInt32) : Bytes :=
  serviceApduBytes actionResponseTag 4 iip (beBytes 4 blockNumber.toNat)

theorem writes_actionResponse_next (iip : UInt8) (blockNumber : UInt32) :
    Writes (encodeActionResponse (.nextPblock iip blockNumber))
      (actionResponseNextBytes iip blockNumber) :=
  writes_encodeServiceApdu _ _ _ _ _ (writes_writeU32 _)

theorem decodeActionResponse_next (maximumDataDepth : Nat) (iip : UInt8) (blockNumber : UInt32) :
    decodeActionResponse (actionResponseNextBytes iip blockNumber) maximumDataDepth =
      .ok (.nextPblock iip blockNumber) :=
  runParser_of_accepts _ _ _ (accepts_decodeServiceApdu _ _ _ _ _ _
    (accepts_map _ _ _ _ (accepts_of_decodes _ _ _ (decodes_readU32 _))))

end Apdu

end Dlms
