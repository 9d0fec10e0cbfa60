import Dlms.Apdu.DataRange
import Dlms.Apdu.Xdlms

/-!
# Round trips of the service APDUs

Three services with a request and a response each, and three to six choices for
each of the six. Every choice has a branch in an encoder and a branch in a
decoder, and the two branches are written apart.

A request or a response is well formed when its data is within the range of its
types and the depth of the services, its lists and blocks have lengths that the
machine's size type holds, and a list of values has one value for each
attribute. Such an APDU is encoded, if the buffer of the codec has room for it,
and the generic decoder returns it from these bytes.

The fields are put together in the order in which both sides have them. Only
the result of a normal GET response is read from a view of everything that is
left, so there the whole body is delivered, and not conveyed.

## Main definitions

* `DataInRange`, `BlockInRange`, `ListInRange`: The ranges of the parts.
* `GetRequest.WellFormed` and the same for the other five APDUs.
* `XdlmsApdu.WellFormedService`: A well-formed APDU of one of the services.
* `Arrives`: The decoder returns what the encoder was given.

## Theorems

* `arrives_of_frame`: An APDU arrives when the body of its choice is delivered.
* `arrives_getRequest` and the same for the other five: Every choice of each.
* `decodeXdlmsApdu_encodeXdlmsApdu`: All of them together.
-/

namespace Dlms

namespace Apdu

open Codec

/-! ### The ranges of the parts -/

/-- Data of a service APDU within the range of its types. -/
def DataInRange (data : DlmsData) : Prop := InRange maximumDataDepth data

def OptionalDataInRange (data : Option DlmsData) : Prop :=
  ∀ value, data = some value → DataInRange value

def SelectionInRange (selection : Option SelectiveAccessDescriptor) : Prop :=
  ∀ access, selection = some access → DataInRange access.parameters

def BlockInRange (dataBlock : DataBlock) : Prop :=
  dataBlock.rawData.length < 256 ^ sizeOctets

/-- A list no longer than the size type, with all its elements in range. -/
def ListInRange {α : Type} (inRange : α → Prop) (list : List α) : Prop :=
  list.length < 256 ^ sizeOctets ∧ ∀ a ∈ list, inRange a

def CosemAttributeDescriptorWithSelection.WellFormed
    (input : CosemAttributeDescriptorWithSelection) : Prop := SelectionInRange input.selection

def CosemMethodDescriptorWithParameter.WellFormed
    (input : CosemMethodDescriptorWithParameter) : Prop :=
  OptionalDataInRange input.invocationParameter

def ActionResponseItem.WellFormed (input : ActionResponseItem) : Prop :=
  OptionalDataInRange input.returnParameter

def GetDataResult.WellFormed (input : GetDataResult) : Prop :=
  match input with
  | .data value => DataInRange value
  | .dataAccessError _ => True

/-! ### Conveying the fields -/

theorem conveyed_writeU32 (value : UInt32) : Conveyed (writeU32 value) readU32 value :=
  ⟨_, writes_writeU32 value, decodes_readU32 value⟩

theorem conveyed_attributeDescriptor (input : CosemAttributeDescriptor) :
    Conveyed (encodeCosemAttributeDescriptor input) decodeCosemAttributeDescriptor input :=
  ⟨_, writes_encodeCosemAttributeDescriptor input, decodes_decodeCosemAttributeDescriptor input⟩

theorem conveyed_methodDescriptor (input : CosemMethodDescriptor) :
    Conveyed (encodeCosemMethodDescriptor input) decodeCosemMethodDescriptor input :=
  ⟨_, writes_encodeCosemMethodDescriptor input, decodes_decodeCosemMethodDescriptor input⟩

theorem conveyed_dataBlock (input : DataBlock) (h : BlockInRange input) :
    Conveyed (encodeDataBlock input) decodeDataBlock input :=
  ⟨_, writes_encodeDataBlock input, decodes_decodeDataBlock input h⟩

theorem conveyed_selection (input : Option SelectiveAccessDescriptor)
    (h : SelectionInRange input) :
    Conveyed (encodeSelection input) (decodeSelection maximumDataDepth) input := by
  cases input with
  | none => exact ⟨[0x00], writes_writeU8 _, fun _ => rfl⟩
  | some access =>
      have hparameters := conveys_build _ _ _
        (fun parameters => some (SelectiveAccessDescriptor.mk access.selector parameters)) _
        (conveyed_encodeDlmsData maximumDataDepth access.parameters (h access rfl))
      refine conveys_bind _ _ _ _ _ _ _ (conveyed_writeU8 0x01) ?_
      rw [if_neg (by decide), if_neg (by decide)]
      exact conveys_bind _ _ _ _ _ _ _ (conveyed_writeU8 access.selector) hparameters

theorem conveyed_descriptorWithSelection (input : CosemAttributeDescriptorWithSelection)
    (h : input.WellFormed) :
    Conveyed (encodeDescriptorWithSelection input)
      (decodeDescriptorWithSelection maximumDataDepth) input :=
  conveys_bind _ _ _ _ _ _ _ (conveyed_attributeDescriptor input.descriptor)
    (conveys_build _ _ _ (CosemAttributeDescriptorWithSelection.mk input.descriptor) _
      (conveyed_selection input.selection h))

theorem conveyed_optionalData (input : Option DlmsData) (h : OptionalDataInRange input) :
    Conveyed (encodeOptionalData input) (decodeOptionalData maximumDataDepth) input := by
  cases input with
  | none => exact ⟨[0x00], writes_writeU8 _, fun _ => rfl⟩
  | some data =>
      refine conveys_bind _ _ _ _ _ _ _ (conveyed_writeU8 0x01) ?_
      rw [if_neg (by decide), if_neg (by decide)]
      exact conveys_map _ _ _ _ _ (conveyed_encodeDlmsData maximumDataDepth data (h data rfl))

theorem conveyed_methodWithParameter (input : CosemMethodDescriptorWithParameter)
    (h : input.WellFormed) :
    Conveyed (encodeMethodWithParameter input) (decodeMethodWithParameter maximumDataDepth)
      input :=
  conveys_bind _ _ _ _ _ _ _ (conveyed_methodDescriptor input.descriptor)
    (conveys_build _ _ _ (CosemMethodDescriptorWithParameter.mk input.descriptor) _
      (conveyed_optionalData input.invocationParameter h))

/-- A return parameter has one more octet than other optional data: the choice
    between data and an error. -/
theorem conveyed_optionalActionReturnParameter (input : Option DlmsData)
    (h : OptionalDataInRange input) :
    Conveyed (encodeOptionalActionReturnParameter input)
      (decodeOptionalActionReturnParameter maximumDataDepth) input := by
  cases input with
  | none => exact ⟨[0x00], writes_writeU8 _, fun _ => rfl⟩
  | some data =>
      refine conveys_bind _ _ _ _ _ _ _ (conveyed_writeU8 0x01) ?_
      rw [if_neg (by decide), if_neg (by decide)]
      refine conveys_bind _ _ _ _ _ _ _ (conveyed_writeU8 0x00) ?_
      rw [if_neg (by decide)]
      exact conveys_map _ _ _ _ _ (conveyed_encodeDlmsData maximumDataDepth data (h data rfl))

theorem conveyed_responseItem (input : ActionResponseItem) (h : input.WellFormed) :
    Conveyed (encodeResponseItem input) (decodeResponseItem maximumDataDepth) input :=
  conveys_bind _ _ _ _ _ _ _ (conveyed_writeU8 input.result)
    (conveys_build _ _ _ (ActionResponseItem.mk input.result) _
      (conveyed_optionalActionReturnParameter input.returnParameter h))

/-- A result in a list of results. -/
theorem conveyed_getDataResultItem (input : GetDataResult) (h : input.WellFormed) :
    Conveyed (encodeGetDataResult input) (decodeGetDataResultItem maximumDataDepth) input := by
  cases input with
  | data data =>
      refine conveys_bind _ _ _ _ _ _ _ (conveyed_writeU8 0x00) ?_
      rw [if_pos rfl]
      exact conveys_map _ _ _ _ _ (conveyed_encodeDlmsData maximumDataDepth data h)
  | dataAccessError dataAccessError =>
      refine conveys_bind _ _ _ _ _ _ _ (conveyed_writeU8 0x01) ?_
      rw [if_neg (by decide), if_pos rfl]
      exact conveys_map _ _ _ _ _ (conveyed_writeU8 dataAccessError)

/-- The only result of a response, which has to end the APDU. -/
theorem delivers_getDataResult (input : GetDataResult) (h : input.WellFormed) :
    Delivers ApduStatus.outputBufferTooSmall (encodeGetDataResult input)
      (decodeGetDataResult maximumDataDepth) input := by
  cases input with
  | data data =>
      refine delivers_bind _ _ _ _ _ _ _ (conveyed_writeU8 0x00) ?_
      rw [if_neg (by decide), if_pos rfl]
      exact delivers_atEnd _ _ _ _ GetDataResult.data _
        (conveyed_encodeDlmsData maximumDataDepth data h)
  | dataAccessError dataAccessError =>
      refine delivers_bind _ _ _ _ _ _ _ (conveyed_writeU8 0x01) ?_
      rw [if_neg (by decide), if_neg (by decide)]
      exact delivers_atEnd _ _ _ _ GetDataResult.dataAccessError _
        (conveyed_writeU8 dataAccessError)

/-- A list behind its length. -/
theorem conveyed_list {α : Type} (enc : α → Writer) (dec : Reader α) (inRange : α → Prop)
    (list : List α) (hlist : ListInRange inRange list)
    (h : ∀ a, inRange a → Conveyed (enc a) dec a) :
    Conveyed (do writeAxdrLength list.length; Emitter.forEach enc list)
      (do let count ← readAxdrLength; Parser.repeatN dec count) list :=
  conveys_bind _ _ _ _ _ _ _ (conveyed_writeAxdrLength _ hlist.1)
    (conveys_repeatN _ _ enc list fun a ha => h a (hlist.2 a ha))

/-! ### Well-formed APDUs -/

/-- Selective access and lists within their ranges. -/
def GetRequest.WellFormed (request : GetRequest) : Prop :=
  match request with
  | .normal _ descriptor => descriptor.WellFormed
  | .next _ _ => True
  | .withList _ list => ListInRange CosemAttributeDescriptorWithSelection.WellFormed list

def GetResponse.WellFormed (response : GetResponse) : Prop :=
  match response with
  | .normal _ result => result.WellFormed
  | .withDataBlock _ dataBlock => BlockInRange dataBlock
  | .withList _ list => ListInRange GetDataResult.WellFormed list

/-- A list of values has one value for each attribute. -/
def SetRequest.WellFormed (request : SetRequest) : Prop :=
  match request with
  | .normal _ descriptor data => descriptor.WellFormed ∧ DataInRange data
  | .withFirstDataBlock _ descriptor dataBlock => descriptor.WellFormed ∧ BlockInRange dataBlock
  | .withDataBlock _ dataBlock => BlockInRange dataBlock
  | .withList _ list valueList =>
      ListInRange CosemAttributeDescriptorWithSelection.WellFormed list ∧
        ListInRange DataInRange valueList ∧ list.length = valueList.length
  | .withListAndFirstDataBlock _ list dataBlock =>
      ListInRange CosemAttributeDescriptorWithSelection.WellFormed list ∧ BlockInRange dataBlock

def SetResponse.WellFormed (response : SetResponse) : Prop :=
  match response with
  | .normal _ _ => True
  | .dataBlock _ _ => True
  | .lastDataBlock _ _ _ => True
  | .lastDataBlockWithList _ resultList _ => ListInRange (fun _ => True) resultList
  | .withList _ resultList => ListInRange (fun _ => True) resultList

def ActionRequest.WellFormed (request : ActionRequest) : Prop :=
  match request with
  | .normal _ method => method.WellFormed
  | .nextPblock _ _ => True
  | .withList _ list => ListInRange CosemMethodDescriptorWithParameter.WellFormed list
  | .withFirstPblock _ _ dataBlock => BlockInRange dataBlock
  | .withListAndFirstPblock _ descriptorList dataBlock =>
      ListInRange (fun _ => True) descriptorList ∧ BlockInRange dataBlock
  | .withPblock _ dataBlock => BlockInRange dataBlock

def ActionResponse.WellFormed (response : ActionResponse) : Prop :=
  match response with
  | .normal _ item => item.WellFormed
  | .withPblock _ dataBlock => BlockInRange dataBlock
  | .withList _ list => ListInRange ActionResponseItem.WellFormed list
  | .nextPblock _ _ => True

/-- A well-formed request or response of one of the three services. -/
def XdlmsApdu.WellFormedService (apdu : XdlmsApdu) : Prop :=
  match apdu with
  | .getRequest request => request.WellFormed
  | .getResponse response => response.WellFormed
  | .setRequest request => request.WellFormed
  | .setResponse response => response.WellFormed
  | .actionRequest request => request.WellFormed
  | .actionResponse response => response.WellFormed
  | .initiateRequest _ | .initiateResponse _ | .ciphered _ => False

/-! ### Every choice arrives -/

/-- The encoder writes bytes, if its buffer has room for them, from which the
    generic decoder returns what the encoder was given. -/
def Arrives (apdu : XdlmsApdu) : Prop :=
  ∃ bytes, encodeXdlmsApdu apdu = bounded bytes ∧ decodeXdlmsApdu bytes = .ok apdu

/-- An APDU arrives when the body of its choice is delivered. -/
theorem arrives_of_frame {α : Type} (wrap : α → XdlmsApdu) (value : α) (tag choice iip : UInt8)
    (body : Writer) (variant : UInt8 → UInt8 → Reader α)
    (hencode : encodeXdlmsApdu (wrap value) =
      runEmitter apduBufferSize (encodeServiceApdu tag choice iip body))
    (hdecode : ∀ bytes, decodeXdlmsApdu (serviceApduBytes tag choice iip bytes) =
      wrap <$> runParser (decodeServiceApdu tag variant) (serviceApduBytes tag choice iip bytes))
    (hbody : Delivers ApduStatus.outputBufferTooSmall body (variant choice iip) value) :
    Arrives (wrap value) := by
  rcases hbody with ⟨bytes, hwrites, haccepts⟩
  refine ⟨serviceApduBytes tag choice iip bytes, ?_, ?_⟩
  · rw [hencode]
    exact runEmitter_of_emits _ _ _ _ (writes_encodeServiceApdu tag choice iip body bytes hwrites)
  · have hframe := accepts_decodeServiceApdu tag choice iip variant bytes value haccepts
    rw [hdecode, runParser_of_accepts _ _ _ hframe]
    rfl

theorem arrives_getRequest (request : GetRequest) (h : request.WellFormed) :
    Arrives (.getRequest request) := by
  have hframe (choice iip : UInt8) (body : Writer)
      (hencode : encodeGetRequest request = encodeServiceApdu getRequestTag choice iip body)
      (hbody : Conveyed body (decodeGetRequestVariant maximumDataDepth choice iip) request) :
      Arrives (.getRequest request) :=
    arrives_of_frame .getRequest request getRequestTag choice iip body
      (decodeGetRequestVariant maximumDataDepth) (by rw [← hencode]; rfl) (fun _ => rfl)
      (delivers_of_conveys _ _ _ _ hbody)
  cases request with
  | normal iip descriptor =>
      exact hframe 1 iip _ rfl
        (conveys_map _ _ _ (GetRequest.normal iip) _
          (conveyed_descriptorWithSelection descriptor h))
  | next iip blockNumber =>
      exact hframe 2 iip _ rfl
        (conveys_map _ _ _ (GetRequest.next iip) _ (conveyed_writeU32 blockNumber))
  | withList iip list =>
      refine hframe 3 iip _ rfl ?_
      exact conveys_bind _ _ _ _ _ _ _ (conveyed_writeAxdrLength _ h.1)
        (conveys_map _ _ _ (GetRequest.withList iip) _
          (conveys_repeatN _ _ _ _ fun descriptor hmem =>
            conveyed_descriptorWithSelection descriptor (h.2 descriptor hmem)))

theorem arrives_getResponse (response : GetResponse) (h : response.WellFormed) :
    Arrives (.getResponse response) := by
  have hframe (choice iip : UInt8) (body : Writer)
      (hencode : encodeGetResponse response = encodeServiceApdu getResponseTag choice iip body)
      (hbody : Delivers ApduStatus.outputBufferTooSmall body
        (decodeGetResponseVariant maximumDataDepth choice iip) response) :
      Arrives (.getResponse response) :=
    arrives_of_frame .getResponse response getResponseTag choice iip body
      (decodeGetResponseVariant maximumDataDepth) (by rw [← hencode]; rfl) (fun _ => rfl) hbody
  cases response with
  | normal iip result =>
      -- The result is read from a view of its own, which is everything that is left.
      rcases delivers_getDataResult result h with ⟨bytes, hwrites, haccepts⟩
      refine hframe 1 iip _ rfl ⟨bytes, hwrites, ?_⟩
      rw [Accepts]
      show (do
        let view ← readRemaining
        GetResponse.normal iip <$>
          Parser.ofExcept (runParser (decodeGetDataResult maximumDataDepth) view) :
        Reader GetResponse) bytes = _
      simp only [bind, StateT.bind, readRemaining, Parser.remaining, Except.bind,
        runParser_of_accepts _ _ _ haccepts]
      rfl
  | withDataBlock iip dataBlock =>
      exact hframe 2 iip _ rfl (delivers_of_conveys _ _ _ _
        (conveys_map _ _ _ (GetResponse.withDataBlock iip) _ (conveyed_dataBlock dataBlock h)))
  | withList iip list =>
      refine hframe 3 iip _ rfl (delivers_of_conveys _ _ _ _ ?_)
      exact conveys_bind _ _ _ _ _ _ _ (conveyed_writeAxdrLength _ h.1)
        (conveys_map _ _ _ (GetResponse.withList iip) _ (conveys_repeatN _ _ _ _ fun result hmem =>
          conveyed_getDataResultItem result (h.2 result hmem)))

theorem arrives_setRequest (request : SetRequest) (h : request.WellFormed) :
    Arrives (.setRequest request) := by
  have hframe (choice iip : UInt8) (body : Writer)
      (hencode : encodeSetRequest request = encodeServiceApdu setRequestTag choice iip body)
      (hbody : Conveyed body (decodeSetRequestVariant maximumDataDepth choice iip) request) :
      Arrives (.setRequest request) :=
    arrives_of_frame .setRequest request setRequestTag choice iip body
      (decodeSetRequestVariant maximumDataDepth) (by rw [← hencode]; rfl) (fun _ => rfl)
      (delivers_of_conveys _ _ _ _ hbody)
  cases request with
  | normal iip descriptor data =>
      refine hframe 1 iip _ rfl ?_
      exact conveys_bind _ _ _ _ _ _ _ (conveyed_descriptorWithSelection descriptor h.1)
        (conveys_map _ _ _ (SetRequest.normal iip descriptor) _
          (conveyed_encodeDlmsData maximumDataDepth data h.2))
  | withFirstDataBlock iip descriptor dataBlock =>
      refine hframe 2 iip _ rfl ?_
      exact conveys_bind _ _ _ _ _ _ _ (conveyed_descriptorWithSelection descriptor h.1)
        (conveys_map _ _ _ (SetRequest.withFirstDataBlock iip descriptor) _
          (conveyed_dataBlock dataBlock h.2))
  | withDataBlock iip dataBlock =>
      exact hframe 3 iip _ rfl (conveys_map _ _ _ (SetRequest.withDataBlock iip) _
        (conveyed_dataBlock dataBlock h))
  | withList iip list valueList =>
      rcases h with ⟨hlist, hvalues, hlength⟩
      refine hframe 4 iip _ rfl ?_
      -- The check of the encoder and the one of the decoder both pass.
      rw [if_neg (not_not_intro hlength)]
      refine conveys_bind _ _ _ _ _ _ _ (conveyed_writeAxdrLength _ hlist.1) ?_
      refine conveys_bind _ _ _ _ _ _ _ (conveys_repeatN _ _ _ _ fun descriptor hmem =>
        conveyed_descriptorWithSelection descriptor (hlist.2 descriptor hmem)) ?_
      refine conveys_bind _ _ _ _ _ _ _ (conveyed_writeAxdrLength _ hvalues.1) ?_
      rw [if_neg (not_not_intro hlength.symm)]
      exact conveys_map _ _ _ (SetRequest.withList iip list) _ (conveys_repeatN _ _ _ _
        fun data hmem => conveyed_encodeDlmsData maximumDataDepth data (hvalues.2 data hmem))
  | withListAndFirstDataBlock iip list dataBlock =>
      rcases h with ⟨hlist, hblock⟩
      refine hframe 5 iip _ rfl ?_
      refine conveys_bind _ _ _ _ _ _ _ (conveyed_writeAxdrLength _ hlist.1) ?_
      refine conveys_bind _ _ _ _ _ _ _ (conveys_repeatN _ _ _ _ fun descriptor hmem =>
        conveyed_descriptorWithSelection descriptor (hlist.2 descriptor hmem)) ?_
      exact conveys_map _ _ _ (SetRequest.withListAndFirstDataBlock iip list) _
        (conveyed_dataBlock dataBlock hblock)

theorem conveyed_resultList (resultList : List UInt8)
    (h : ListInRange (fun _ => True) resultList) :
    Conveyed (encodeResultList resultList) decodeResultList resultList :=
  conveyed_list writeU8 readU8 _ resultList h fun result _ => conveyed_writeU8 result

theorem arrives_setResponse (response : SetResponse) (h : response.WellFormed) :
    Arrives (.setResponse response) := by
  -- The tag, the choice and the invoke id are the frame, the rest is the variant.
  have hframe (choice iip : UInt8) (body : Writer)
      (hencode : encodeSetResponse response = encodeServiceApdu setResponseTag choice iip body)
      (hbody : Conveyed body (decodeSetResponseVariant choice iip) response) :
      Arrives (.setResponse response) :=
    arrives_of_frame .setResponse response setResponseTag choice iip body
      decodeSetResponseVariant (by rw [← hencode]; rfl) (fun _ => rfl)
      (delivers_of_conveys _ _ _ _ hbody)
  cases response with
  | normal iip result =>
      exact hframe 1 iip _ rfl
        (conveys_map _ _ _ (SetResponse.normal iip) _ (conveyed_writeU8 result))
  | dataBlock iip blockNumber =>
      exact hframe 2 iip _ rfl
        (conveys_map _ _ _ (SetResponse.dataBlock iip) _ (conveyed_writeU32 blockNumber))
  | lastDataBlock iip result blockNumber =>
      refine hframe 3 iip _ rfl ?_
      exact conveys_bind _ _ _ _ _ _ _ (conveyed_writeU8 result)
        (conveys_map _ _ _ (SetResponse.lastDataBlock iip result) _
          (conveyed_writeU32 blockNumber))
  | lastDataBlockWithList iip resultList blockNumber =>
      refine hframe 4 iip _ rfl ?_
      exact conveys_bind _ _ _ _ _ _ _ (conveyed_resultList resultList h)
        (conveys_map _ _ _ (SetResponse.lastDataBlockWithList iip resultList) _
          (conveyed_writeU32 blockNumber))
  | withList iip resultList =>
      exact hframe 5 iip _ rfl
        (conveys_map _ _ _ (SetResponse.withList iip) _ (conveyed_resultList resultList h))

theorem arrives_actionRequest (request : ActionRequest) (h : request.WellFormed) :
    Arrives (.actionRequest request) := by
  have hframe (choice iip : UInt8) (body : Writer)
      (hencode : encodeActionRequest request = encodeServiceApdu actionRequestTag choice iip body)
      (hbody : Conveyed body (decodeActionRequestVariant maximumDataDepth choice iip) request) :
      Arrives (.actionRequest request) :=
    arrives_of_frame .actionRequest request actionRequestTag choice iip body
      (decodeActionRequestVariant maximumDataDepth) (by rw [← hencode]; rfl) (fun _ => rfl)
      (delivers_of_conveys _ _ _ _ hbody)
  cases request with
  | normal iip method =>
      exact hframe 1 iip _ rfl
        (conveys_map _ _ _ (ActionRequest.normal iip) _ (conveyed_methodWithParameter method h))
  | nextPblock iip blockNumber =>
      exact hframe 2 iip _ rfl
        (conveys_map _ _ _ (ActionRequest.nextPblock iip) _ (conveyed_writeU32 blockNumber))
  | withList iip list =>
      refine hframe 3 iip _ rfl ?_
      exact conveys_bind _ _ _ _ _ _ _ (conveyed_writeAxdrLength _ h.1)
        (conveys_map _ _ _ (ActionRequest.withList iip) _ (conveys_repeatN _ _ _ _
          fun method hmem => conveyed_methodWithParameter method (h.2 method hmem)))
  | withFirstPblock iip descriptor dataBlock =>
      refine hframe 4 iip _ rfl ?_
      exact conveys_bind _ _ _ _ _ _ _ (conveyed_methodDescriptor descriptor)
        (conveys_map _ _ _ (ActionRequest.withFirstPblock iip descriptor) _
          (conveyed_dataBlock dataBlock h))
  | withListAndFirstPblock iip descriptorList dataBlock =>
      rcases h with ⟨hlist, hblock⟩
      refine hframe 5 iip _ rfl ?_
      refine conveys_bind _ _ _ _ _ _ _ (conveyed_writeAxdrLength _ hlist.1) ?_
      refine conveys_bind _ _ _ _ _ _ _ (conveys_repeatN _ _ _ _ fun descriptor _ =>
        conveyed_methodDescriptor descriptor) ?_
      exact conveys_map _ _ _ (ActionRequest.withListAndFirstPblock iip descriptorList) _
        (conveyed_dataBlock dataBlock hblock)
  | withPblock iip dataBlock =>
      exact hframe 6 iip _ rfl
        (conveys_map _ _ _ (ActionRequest.withPblock iip) _ (conveyed_dataBlock dataBlock h))

theorem arrives_actionResponse (response : ActionResponse) (h : response.WellFormed) :
    Arrives (.actionResponse response) := by
  have hframe (choice iip : UInt8) (body : Writer)
      (hencode : encodeActionResponse response =
        encodeServiceApdu actionResponseTag choice iip body)
      (hbody : Conveyed body (decodeActionResponseVariant maximumDataDepth choice iip) response) :
      Arrives (.actionResponse response) :=
    arrives_of_frame .actionResponse response actionResponseTag choice iip body
      (decodeActionResponseVariant maximumDataDepth) (by rw [← hencode]; rfl) (fun _ => rfl)
      (delivers_of_conveys _ _ _ _ hbody)
  cases response with
  | normal iip item =>
      exact hframe 1 iip _ rfl
        (conveys_map _ _ _ (ActionResponse.normal iip) _ (conveyed_responseItem item h))
  | withPblock iip dataBlock =>
      exact hframe 2 iip _ rfl
        (conveys_map _ _ _ (ActionResponse.withPblock iip) _ (conveyed_dataBlock dataBlock h))
  | withList iip list =>
      refine hframe 3 iip _ rfl ?_
      exact conveys_bind _ _ _ _ _ _ _ (conveyed_writeAxdrLength _ h.1)
        (conveys_map _ _ _ (ActionResponse.withList iip) _ (conveys_repeatN _ _ _ _
          fun item hmem => conveyed_responseItem item (h.2 item hmem)))
  | nextPblock iip blockNumber =>
      exact hframe 4 iip _ rfl
        (conveys_map _ _ _ (ActionResponse.nextPblock iip) _ (conveyed_writeU32 blockNumber))

/-- Whatever well-formed request or response of GET, SET or ACTION is encoded,
    the generic decoder returns it. The encoder fails only for lack of room. -/
theorem decodeXdlmsApdu_encodeXdlmsApdu (apdu : XdlmsApdu) (h : apdu.WellFormedService) :
    ∃ bytes, encodeXdlmsApdu apdu = bounded bytes ∧ decodeXdlmsApdu bytes = .ok apdu := by
  cases apdu with
  | getRequest request => exact arrives_getRequest request h
  | getResponse response => exact arrives_getResponse response h
  | setRequest request => exact arrives_setRequest request h
  | setResponse response => exact arrives_setResponse response h
  | actionRequest request => exact arrives_actionRequest request h
  | actionResponse response => exact arrives_actionResponse response h
  | initiateRequest request => exact absurd h id
  | initiateResponse response => exact absurd h id
  | ciphered apdu => exact absurd h id

/-- Two attributes of a register, the first with selective access, set at once. -/
def setTwoAttributes : XdlmsApdu :=
  .setRequest (.withList 0xC1
    [⟨⟨3, ⟨1, 0, 1, 8, 0, 255⟩, 2⟩, some ⟨1, { type := .nullData }⟩⟩,
      ⟨⟨3, ⟨1, 0, 1, 8, 0, 255⟩, 3⟩, none⟩]
    [{ type := .long, signedValue := -1 }, { type := .boolean, booleanValue := true }])

theorem wellFormedService_setTwoAttributes : setTwoAttributes.WellFormedService := by
  refine ⟨⟨by decide, ?_⟩, ⟨by decide, ?_⟩, rfl⟩
  · simp only [List.forall_mem_cons, List.not_mem_nil, false_imp_iff, implies_true, and_true]
    refine ⟨fun access haccess => ?_, fun access haccess => ?_⟩
    · rw [← Option.some.inj haccess]
      exact .nullData 7
    · cases haccess
  · simp only [List.forall_mem_cons, List.not_mem_nil, false_imp_iff, implies_true, and_true]
    exact ⟨.signed 7 .long 2 _ rfl ⟨by decide, by decide⟩, .boolean 7 true⟩

theorem decodeXdlmsApdu_encodeXdlmsApdu_setTwoAttributes :
    ∃ bytes, encodeXdlmsApdu setTwoAttributes = bounded bytes ∧
      decodeXdlmsApdu bytes = .ok setTwoAttributes :=
  decodeXdlmsApdu_encodeXdlmsApdu setTwoAttributes wellFormedService_setTwoAttributes

end Apdu

end Dlms
