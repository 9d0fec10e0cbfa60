import Dlms.Apdu.Service

/-!
# GET request and response

The three variants of the GET request and of the GET response. The source
keeps one record with a slot for every variant and a choice that says which
slot counts; here each variant is a constructor with its own fields.

The result of a normal response is decoded from a view of everything that is
left of the APDU, and so is checked for trailing bytes twice.

## Main definitions

* `GetRequest`, `GetResponse`: The APDUs.
* `decodeGetRequest`, `encodeGetRequest`, `decodeGetResponse`,
  `encodeGetResponse`: Their codecs.

## Theorems

* `decodeGetRequest_normal`, `decodeGetRequest_next`: The requests a client
  sends arrive as they were.
* `decodeGetResponse_data`, `decodeGetResponse_block`: The responses a server
  sends arrive as they were.
-/

namespace Dlms

namespace Apdu

open Codec

inductive GetDataResult where
  | data (data : DlmsData)
  | dataAccessError (dataAccessError : UInt8)

inductive GetRequest where
  | normal (invokeIdAndPriority : UInt8) (normal : CosemAttributeDescriptorWithSelection)
  | next (invokeIdAndPriority : UInt8) (blockNumber : UInt32)
  | withList (invokeIdAndPriority : UInt8) (list : List CosemAttributeDescriptorWithSelection)

inductive GetResponse where
  | normal (invokeIdAndPriority : UInt8) (result : GetDataResult)
  | withDataBlock (invokeIdAndPriority : UInt8) (dataBlock : DataBlock)
  | withList (invokeIdAndPriority : UInt8) (list : List GetDataResult)

def getRequestTag : UInt8 := 0xC0

def getResponseTag : UInt8 := 0xC4

/-! ### Codecs -/

/-- The result of a normal response, decoded from a view of its own. -/
def decodeGetDataResult (maximumDataDepth : Nat) : Reader GetDataResult := do
  let choice ← readU8
  if choice > 1 then
    Parser.fail .invalidChoice
  else if choice = 0 then do
    let data ← decodeDlmsDataFromReader maximumDataDepth
    requireNoTrailingBytes
    pure (.data data)
  else do
    let dataAccessError ← readU8
    requireNoTrailingBytes
    pure (.dataAccessError dataAccessError)

/-- One result of a list, decoded from what is left of the list. -/
def decodeGetDataResultItem (maximumDataDepth : Nat) : Reader GetDataResult := do
  let resultChoice ← readU8
  if resultChoice = 0 then
    .data <$> decodeDlmsDataFromReader maximumDataDepth
  else if resultChoice = 1 then
    .dataAccessError <$> readU8
  else
    Parser.fail .invalidChoice

def encodeGetDataResult (input : GetDataResult) : Writer :=
  match input with
  | .data data => do
      writeU8 0x00
      encodeDlmsData data
  | .dataAccessError dataAccessError => do
      writeU8 0x01
      writeU8 dataAccessError

def decodeGetRequestVariant (maximumDataDepth : Nat) (choice invokeIdAndPriority : UInt8) :
    Reader GetRequest :=
  match choice.toNat with
  | 1 => .normal invokeIdAndPriority <$> decodeDescriptorWithSelection maximumDataDepth
  | 2 => .next invokeIdAndPriority <$> readU32
  | 3 => do
      let count ← readAxdrLength
      .withList invokeIdAndPriority <$>
        Parser.repeatN (decodeDescriptorWithSelection maximumDataDepth) count
  | _ => Parser.fail .unsupportedXdlmsService

def decodeGetRequest (input : Bytes) (maximumDataDepth : Nat) : Except ApduStatus GetRequest :=
  runParser (decodeServiceApdu getRequestTag (decodeGetRequestVariant maximumDataDepth)) input

def encodeGetRequest (input : GetRequest) : Writer :=
  match input with
  | .normal iip normal =>
      encodeServiceApdu getRequestTag 1 iip (encodeDescriptorWithSelection normal)
  | .next iip blockNumber => encodeServiceApdu getRequestTag 2 iip (writeU32 blockNumber)
  | .withList iip list => encodeServiceApdu getRequestTag 3 iip do
      writeAxdrLength list.length
      Emitter.forEach encodeDescriptorWithSelection list

def decodeGetResponseVariant (maximumDataDepth : Nat) (choice invokeIdAndPriority : UInt8) :
    Reader GetResponse :=
  match choice.toNat with
  | 1 => do
      let result ← readRemaining
      .normal invokeIdAndPriority <$>
        Parser.ofExcept (runParser (decodeGetDataResult maximumDataDepth) result)
  | 2 => .withDataBlock invokeIdAndPriority <$> decodeDataBlock
  | 3 => do
      let count ← readAxdrLength
      .withList invokeIdAndPriority <$>
        Parser.repeatN (decodeGetDataResultItem maximumDataDepth) count
  | _ => Parser.fail .unsupportedXdlmsService

def decodeGetResponse (input : Bytes) (maximumDataDepth : Nat) : Except ApduStatus GetResponse :=
  runParser (decodeServiceApdu getResponseTag (decodeGetResponseVariant maximumDataDepth)) input

def encodeGetResponse (input : GetResponse) : Writer :=
  match input with
  | .normal iip result => encodeServiceApdu getResponseTag 1 iip (encodeGetDataResult result)
  | .withDataBlock iip dataBlock =>
      encodeServiceApdu getResponseTag 2 iip (encodeDataBlock dataBlock)
  | .withList iip list => encodeServiceApdu getResponseTag 3 iip do
      writeAxdrLength list.length
      Emitter.forEach encodeGetDataResult list

/-! ### The variants two peers exchange -/

/-- A normal GET request without selective access. -/
def getRequestNormalBytes (iip : UInt8) (descriptor : CosemAttributeDescriptor) : Bytes :=
  serviceApduBytes getRequestTag 1 iip (attributeDescriptorBytes descriptor ++ [0x00])

theorem writes_getRequest_normal (iip : UInt8) (descriptor : CosemAttributeDescriptor) :
    Writes (encodeGetRequest (.normal iip ⟨descriptor, none⟩))
      (getRequestNormalBytes iip descriptor) :=
  writes_encodeServiceApdu _ _ _ _ _ (writes_encodeDescriptorWithSelection descriptor)

theorem decodeGetRequest_normal (maximumDataDepth : Nat) (iip : UInt8)
    (descriptor : CosemAttributeDescriptor) :
    decodeGetRequest (getRequestNormalBytes iip descriptor) maximumDataDepth =
      .ok (.normal iip ⟨descriptor, none⟩) := by
  have hvariant := decodes_decodeDescriptorWithSelection maximumDataDepth descriptor
  exact runParser_of_accepts _ _ _ (accepts_decodeServiceApdu _ _ _ _ _ _
    (accepts_map _ _ _ _ (accepts_of_decodes _ _ _ hvariant)))

/-- A request for the next block. -/
def getRequestNextBytes (iip : UInt8) (blockNumber : UInt32) : Bytes :=
  serviceApduBytes getRequestTag 2 iip (beBytes 4 blockNumber.toNat)

theorem writes_getRequest_next (iip : UInt8) (blockNumber : UInt32) :
    Writes (encodeGetRequest (.next iip blockNumber)) (getRequestNextBytes iip blockNumber) :=
  writes_encodeServiceApdu _ _ _ _ _ (writes_writeU32 _)

theorem decodeGetRequest_next (maximumDataDepth : Nat) (iip : UInt8) (blockNumber : UInt32) :
    decodeGetRequest (getRequestNextBytes iip blockNumber) maximumDataDepth =
      .ok (.next iip blockNumber) :=
  runParser_of_accepts _ _ _ (accepts_decodeServiceApdu _ _ _ _ _ _
    (accepts_map _ _ _ _ (accepts_of_decodes _ _ _ (decodes_readU32 _))))

/-- A normal response that carries data. -/
def getResponseDataBytes (iip : UInt8) (data : Bytes) : Bytes :=
  serviceApduBytes getResponseTag 1 iip ([0x00] ++ data)

theorem writes_getResponse_data (iip : UInt8) (value : DlmsData) (data : Bytes)
    (h : Writes (encodeDlmsData value) data) :
    Writes (encodeGetResponse (.normal iip (.data value))) (getResponseDataBytes iip data) :=
  writes_encodeServiceApdu _ _ _ _ _ (emits_bind _ _ _ _ _ (writes_writeU8 _) h)

theorem decodeGetResponse_data (maximumDataDepth : Nat) (iip : UInt8) (value : DlmsData)
    (data : Bytes) (h : decodeDlmsData data maximumDataDepth = .ok value) :
    decodeGetResponse (getResponseDataBytes iip data) maximumDataDepth =
      .ok (.normal iip (.data value)) := by
  rw [decodeDlmsData_eq_ok_iff] at h
  have hresult : Accepts (decodeGetDataResult maximumDataDepth) ([0x00] ++ data)
      (.data value) := by
    refine accepts_bind _ _ _ _ _ _ (decodes_readU8 _) ?_
    rw [if_neg (by decide), if_pos rfl]
    exact accepts_atEnd _ _ GetDataResult.data _ _ h
  refine runParser_of_accepts _ _ _ (accepts_decodeServiceApdu _ _ _ _ _ _ ?_)
  rw [Accepts]
  show (do
    let result ← readRemaining
    GetResponse.normal iip <$>
      Parser.ofExcept (runParser (decodeGetDataResult maximumDataDepth) result) :
    Reader GetResponse) _ = _
  simp only [bind, StateT.bind, readRemaining, Parser.remaining, Except.bind,
    runParser_of_accepts _ _ _ hresult]
  rfl

/-- A response that carries one block. -/
def getResponseBlockBytes (iip : UInt8) (dataBlock : DataBlock) : Bytes :=
  serviceApduBytes getResponseTag 2 iip (dataBlockBytes dataBlock)

theorem writes_getResponse_block (iip : UInt8) (dataBlock : DataBlock) :
    Writes (encodeGetResponse (.withDataBlock iip dataBlock))
      (getResponseBlockBytes iip dataBlock) :=
  writes_encodeServiceApdu _ _ _ _ _ (writes_encodeDataBlock _)

theorem decodeGetResponse_block (maximumDataDepth : Nat) (iip : UInt8) (dataBlock : DataBlock)
    (h : dataBlock.rawData.length < 256 ^ sizeOctets) :
    decodeGetResponse (getResponseBlockBytes iip dataBlock) maximumDataDepth =
      .ok (.withDataBlock iip dataBlock) :=
  runParser_of_accepts _ _ _ (accepts_decodeServiceApdu _ _ _ _ _ _
    (accepts_map _ _ _ _ (accepts_of_decodes _ _ _ (decodes_decodeDataBlock _ h))))

theorem uniform_encodeGetDataResult (result : GetDataResult) :
    UniformWriter (encodeGetDataResult result) := by
  cases result with
  | data data =>
      exact uniform_bind _ _ _ (uniform_of_emits _ _ _ (writes_writeU8 _))
        (uniform_encodeDlmsData data)
  | dataAccessError dataAccessError =>
      exact uniform_bind _ _ _ (uniform_of_emits _ _ _ (writes_writeU8 _))
        (uniform_of_emits _ _ _ (writes_writeU8 _))

/-- A response with the first choice is a normal one. -/
theorem normal_of_decodeGetResponse (maximumDataDepth : Nat) (iip : UInt8) (bytes : Bytes)
    (response : GetResponse)
    (h : decodeGetResponse (serviceApduBytes getResponseTag 1 iip bytes) maximumDataDepth =
      .ok response) : ∃ result, response = .normal iip result := by
  rcases body_of_decodeServiceApdu _ _ _ _ _ _ h with ⟨rest, hbody⟩
  change (GetResponse.normal iip <$>
    Parser.ofExcept (runParser (decodeGetDataResult maximumDataDepth) bytes)) [] = _ at hbody
  rcases hresult : runParser (decodeGetDataResult maximumDataDepth) bytes with status | result
  · rw [hresult] at hbody
    exact absurd hbody (by simp [Functor.map, StateT.map, Parser.ofExcept, Except.map, bind,
      Except.bind])
  · rw [hresult] at hbody
    exact ⟨result, (congrArg Prod.fst (Except.ok.inj hbody)).symm⟩

end Apdu

end Dlms
