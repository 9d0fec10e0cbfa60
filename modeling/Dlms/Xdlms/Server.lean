import Dlms.Xdlms.Types

/-!
# The xDLMS server processor

From a request APDU to a response APDU, with the three block transfers a
request may start or continue.

A processor keeps one block state for each service. A GET answer that is too
long for one response is served block by block from the first state; the
blocks of a SET value or of an ACTION parameter are collected in the other two
until the last one arrives and the service is dispatched. A state is reset on
a mismatch of the invoke id or of the block number, and after its last block.

The handler and the security processor are interfaces of the source with
several implementations, so they are records of functions over an arbitrary
state here. Statuses that the source returns next to an output argument are
`Except` values, and the state after a failed call is whatever the call left.
Trace events go to sinks that nothing reads back and are left out.

## Main definitions

* `XdlmsServerHandler`, `SecurityProcessor`: The interfaces.
* `GetResponseBlockState`, `SetRequestBlockState`, `ActionRequestBlockState`:
  The transfers in progress.
* `processGetRequest`, `processSetRequest`, `processActionRequest`: One service.
* `processRequest`: One request.
-/

namespace Dlms

namespace Xdlms

open Codec
open Apdu (Bytes DlmsData DataBlock)
open Security (SecurityStatus)

/-- What a GET asks of the handler. -/
structure GetIndication where
  invokeId : UInt8
  options : ServiceOptions
  descriptor : CosemAttributeDescriptor
  deriving DecidableEq, Repr

/-- What a SET asks of the handler. -/
structure SetIndication where
  invokeId : UInt8
  options : ServiceOptions
  descriptor : CosemAttributeDescriptor
  data : Bytes
  deriving DecidableEq, Repr

/-- What an ACTION asks of the handler. -/
structure ActionIndication where
  invokeId : UInt8
  options : ServiceOptions
  descriptor : CosemMethodDescriptor
  parameter : Option Bytes
  deriving DecidableEq, Repr

/-- An indication of any of the three services. -/
inductive ServiceIndication where
  | get (indication : GetIndication)
  | set (indication : SetIndication)
  | action (indication : ActionIndication)
  deriving DecidableEq, Repr

namespace ServiceIndication

def classId : ServiceIndication → UInt16
  | get indication => indication.descriptor.classId
  | set indication => indication.descriptor.classId
  | action indication => indication.descriptor.classId

def instanceId : ServiceIndication → Apdu.LogicalName
  | get indication => indication.descriptor.instanceId
  | set indication => indication.descriptor.instanceId
  | action indication => indication.descriptor.instanceId

end ServiceIndication

/-- A GET answer being served block by block. -/
structure GetResponseBlockState where
  active : Bool := false
  invokeId : UInt8 := 0
  options : ServiceOptions := defaultServiceOptions
  nextBlockNumber : UInt32 := 1
  offset : Nat := 0
  data : Bytes := []
  deriving DecidableEq, Repr

/-- A SET value being collected. -/
structure SetRequestBlockState where
  active : Bool := false
  invokeId : UInt8 := 0
  options : ServiceOptions := defaultServiceOptions
  descriptor : CosemAttributeDescriptor := ⟨0, emptyLogicalName, 0⟩
  nextBlockNumber : UInt32 := 1
  data : Bytes := []
  deriving DecidableEq, Repr

/-- An ACTION parameter being collected. -/
structure ActionRequestBlockState where
  active : Bool := false
  invokeId : UInt8 := 0
  options : ServiceOptions := defaultServiceOptions
  descriptor : CosemMethodDescriptor := ⟨0, emptyLogicalName, 0⟩
  nextBlockNumber : UInt32 := 1
  data : Bytes := []
  deriving DecidableEq, Repr

/-- What the application does with an indication, over a state of its own. -/
structure XdlmsServerHandler (δ : Type) where
  handleGet : GetIndication → δ → Except XdlmsStatus GetResult × δ
  handleSet : SetIndication → δ → Except XdlmsStatus SetResult × δ
  handleAction : ActionIndication → δ → Except XdlmsStatus ActionResult × δ

section Dispatcher

variable {δ : Type}

/-! ### The dispatcher in front of the handler -/

def dispatchGet (handler : XdlmsServerHandler δ) (indication : GetIndication) (device : δ) :
    Except XdlmsStatus GetResult × δ :=
  match validateInvokeId indication.invokeId with
  | .error status => (.error status, device)
  | .ok () =>
      match validateDescriptor indication.descriptor with
      | .error status => (.error status, device)
      | .ok () =>
          match handler.handleGet indication device with
          | (.error status, device) => (.error status, device)
          | (.ok result, device) => (.ok { result with invokeId := indication.invokeId }, device)

def dispatchSet (handler : XdlmsServerHandler δ) (indication : SetIndication) (device : δ) :
    Except XdlmsStatus SetResult × δ :=
  match validateInvokeId indication.invokeId with
  | .error status => (.error status, device)
  | .ok () =>
      match validateDescriptor indication.descriptor with
      | .error status => (.error status, device)
      | .ok () =>
          if indication.data = [] then
            (.error .invalidArgument, device)
          else
            match handler.handleSet indication device with
            | (.error status, device) => (.error status, device)
            | (.ok result, device) => (.ok { result with invokeId := indication.invokeId }, device)

def dispatchAction (handler : XdlmsServerHandler δ) (indication : ActionIndication) (device : δ) :
    Except XdlmsStatus ActionResult × δ :=
  match validateInvokeId indication.invokeId with
  | .error status => (.error status, device)
  | .ok () =>
      match validateMethodDescriptor indication.descriptor with
      | .error status => (.error status, device)
      | .ok () =>
          if indication.parameter = some [] then
            (.error .invalidArgument, device)
          else
            match handler.handleAction indication device with
            | (.error status, device) => (.error status, device)
            | (.ok result, device) => (.ok { result with invokeId := indication.invokeId }, device)

end Dispatcher

/-! ### Descriptors and data between the layers -/

def toXdlmsDescriptor (descriptor : Apdu.CosemAttributeDescriptor) : CosemAttributeDescriptor where
  classId := descriptor.classId
  instanceId := descriptor.logicalName
  attributeId := descriptor.attributeId

def toXdlmsMethodDescriptor (descriptor : Apdu.CosemMethodDescriptor) :
    CosemMethodDescriptor where
  classId := descriptor.classId
  instanceId := descriptor.logicalName
  methodId := descriptor.methodId

/-- The value of an encoding on its way out. -/
def decodeEncodedData (encodedData : Bytes) : Except XdlmsStatus DlmsData :=
  if encodedData = [] then .error .encodeFailed
  else
    match Apdu.decodeDlmsData encodedData Apdu.maximumDataDepth with
    | .ok data => .ok data
    | .error _ => .error .encodeFailed

/-- Octets of the buffer a decoded value is encoded in again. -/
def dataBufferSize : Nat := 65535

def encodeDataBytes (data : DlmsData) : Except XdlmsStatus Bytes :=
  match runEmitter dataBufferSize (Apdu.encodeDlmsData data) with
  | .ok output => .ok output
  | .error _ => .error .encodeFailed

def validateEncodedActionParameter (encodedData : Bytes) : Except XdlmsStatus Unit :=
  if encodedData = [] then .error .decodeFailed
  else
    match Apdu.decodeDlmsData encodedData Apdu.maximumDataDepth with
    | .ok _ => .ok ()
    | .error _ => .error .decodeFailed

/-! ### Responses -/

/-- Whatever keeps a response from being encoded is an encoding failure. -/
def encodeResponse (response : Apdu.XdlmsApdu) : Except XdlmsStatus Bytes :=
  match Apdu.encodeXdlmsApdu response with
  | .ok responseApdu => .ok responseApdu
  | .error _ => .error .encodeFailed

def encodeGetResponse (invokeIdAndPriority : UInt8) (result : GetResult) :
    Except XdlmsStatus Bytes :=
  if result.hasAccessResult then
    encodeResponse (.getResponse (.normal invokeIdAndPriority
      (.dataAccessError result.accessResult)))
  else if result.hasData then do
    let data ← decodeEncodedData result.data
    encodeResponse (.getResponse (.normal invokeIdAndPriority (.data data)))
  else
    .error .internalError

def encodeGetDataBlockResponse (invokeIdAndPriority : UInt8) (dataBlock : DataBlock) :
    Except XdlmsStatus Bytes :=
  encodeResponse (.getResponse (.withDataBlock invokeIdAndPriority dataBlock))

/-- The bytes of the next block, and whether they are the last. -/
def nextGetResponseBlock (blocks : GetResponseBlockState) : DataBlock :=
  let remaining := blocks.data.length - blocks.offset
  let blockSize := min remaining blocks.options.maxGetBlockPayloadBytes
  { lastBlock := blocks.offset + blockSize == blocks.data.length
    blockNumber := blocks.nextBlockNumber
    rawData := (blocks.data.drop blocks.offset).take blockSize }

def sendNextGetResponseBlock (blocks : GetResponseBlockState) :
    Except XdlmsStatus Bytes × GetResponseBlockState :=
  if !blocks.active ∨ blocks.options.maxGetBlockPayloadBytes = 0 ∨
      blocks.offset ≥ blocks.data.length then
    (.error .invalidArgument, {})
  else
    let block := nextGetResponseBlock blocks
    match encodeGetDataBlockResponse (makeInvokeIdAndPriority blocks.invokeId blocks.options)
        block with
    | .error status => (.error status, {})
    | .ok responseApdu =>
        if block.lastBlock then
          (.ok responseApdu, {})
        else
          (.ok responseApdu,
            { blocks with
              offset := blocks.offset + block.rawData.length
              nextBlockNumber := blocks.nextBlockNumber + 1 })

def encodeGetResponseOrStartBlocks (invokeIdAndPriority : UInt8) (indication : GetIndication)
    (result : GetResult) (blocks : GetResponseBlockState) :
    Except XdlmsStatus Bytes × GetResponseBlockState :=
  if !result.hasData ∨ result.data.length ≤ indication.options.maxGetBlockPayloadBytes then
    (encodeGetResponse invokeIdAndPriority result, blocks)
  else if result.data.length > indication.options.maxBlockTransferBytes then
    (.error .decodeFailed, blocks)
  else if !indication.options.allowBlockTransfer then
    (.error .blockTransferRequired, blocks)
  else if indication.options.maxGetBlockPayloadBytes = 0 then
    (.error .invalidArgument, blocks)
  else
    sendNextGetResponseBlock
      { active := true
        invokeId := indication.invokeId
        options := indication.options
        nextBlockNumber := 1
        offset := 0
        data := result.data }

def encodeSetResponse (invokeIdAndPriority : UInt8) (result : SetResult) :
    Except XdlmsStatus Bytes :=
  encodeResponse (.setResponse (.normal invokeIdAndPriority result.accessResult))

def encodeSetBlockAckResponse (invokeIdAndPriority : UInt8) (blockNumber : UInt32) :
    Except XdlmsStatus Bytes :=
  encodeResponse (.setResponse (.dataBlock invokeIdAndPriority blockNumber))

def encodeSetLastBlockResponse (invokeIdAndPriority : UInt8) (blockNumber : UInt32)
    (result : SetResult) : Except XdlmsStatus Bytes :=
  encodeResponse (.setResponse
    (.lastDataBlock invokeIdAndPriority result.accessResult blockNumber))

def encodeActionResponse (invokeIdAndPriority : UInt8) (result : ActionResult) :
    Except XdlmsStatus Bytes :=
  if result.hasData then do
    let returnParameter ← decodeEncodedData result.data
    encodeResponse (.actionResponse (.normal invokeIdAndPriority
      { result := result.actionResult, returnParameter := some returnParameter }))
  else
    encodeResponse (.actionResponse (.normal invokeIdAndPriority
      { result := result.actionResult, returnParameter := none }))

def encodeActionNextPblockResponse (invokeIdAndPriority : UInt8) (blockNumber : UInt32) :
    Except XdlmsStatus Bytes :=
  encodeResponse (.actionResponse (.nextPblock invokeIdAndPriority blockNumber))

/-! ### One service -/

section Services

variable {δ : Type} (handler : XdlmsServerHandler δ) (processorOptions : ServiceOptions)

def processGetRequest (request : Apdu.GetRequest) (getBlocks : GetResponseBlockState)
    (device : δ) : Except XdlmsStatus Bytes × GetResponseBlockState × δ :=
  match request with
  | .next invokeIdAndPriority blockNumber =>
      if !getBlocks.active then
        (.error .decodeFailed, getBlocks, device)
      else if invokeIdAndPriority &&& 0x0F ≠ getBlocks.invokeId then
        (.error .invokeIdMismatch, {}, device)
      else if blockNumber ≠ getBlocks.nextBlockNumber - 1 then
        (.error .decodeFailed, {}, device)
      else
        let sent := sendNextGetResponseBlock getBlocks
        (sent.1, sent.2, device)
  | .withList _ _ => (.error .unsupportedFeature, getBlocks, device)
  | .normal invokeIdAndPriority normal =>
      if getBlocks.active then
        (.error .decodeFailed, {}, device)
      else if normal.selection.isSome then
        (.error .unsupportedFeature, getBlocks, device)
      else
        let indication : GetIndication :=
          { invokeId := invokeIdAndPriority &&& 0x0F
            options := parseServiceOptions invokeIdAndPriority processorOptions
            descriptor := toXdlmsDescriptor normal.descriptor }
        if !indication.options.confirmed then
          (.error .unsupportedFeature, getBlocks, device)
        else
          match dispatchGet handler indication device with
          | (.error status, device) => (.error status, getBlocks, device)
          | (.ok result, device) =>
              let sent := encodeGetResponseOrStartBlocks
                (makeInvokeIdAndPriority indication.invokeId indication.options)
                indication result getBlocks
              (sent.1, sent.2, device)

/-- Dispatch a SET whose value is complete, and answer it. -/
def answerSet (indication : SetIndication) (encode : UInt8 → SetResult → Except XdlmsStatus Bytes)
    (device : δ) : Except XdlmsStatus Bytes × δ :=
  match dispatchSet handler indication device with
  | (.error status, device) => (.error status, device)
  | (.ok result, device) =>
      (encode (makeInvokeIdAndPriority indication.invokeId indication.options) result, device)

def processSetRequest (request : Apdu.SetRequest) (setBlocks : SetRequestBlockState)
    (device : δ) : Except XdlmsStatus Bytes × SetRequestBlockState × δ :=
  match request with
  | .withFirstDataBlock invokeIdAndPriority normal dataBlock =>
      let options := parseServiceOptions invokeIdAndPriority processorOptions
      if setBlocks.active then
        (.error .decodeFailed, {}, device)
      else if normal.selection.isSome then
        (.error .unsupportedFeature, setBlocks, device)
      else if dataBlock.blockNumber ≠ 1 then
        (.error .decodeFailed, setBlocks, device)
      else if !options.confirmed then
        (.error .unsupportedFeature, setBlocks, device)
      else if dataBlock.rawData.length > options.maxBlockTransferBytes then
        (.error .decodeFailed, setBlocks, device)
      else if !dataBlock.lastBlock then
        (encodeSetBlockAckResponse invokeIdAndPriority 1,
          { active := true
            invokeId := invokeIdAndPriority &&& 0x0F
            options := options
            descriptor := toXdlmsDescriptor normal.descriptor
            nextBlockNumber := 2
            data := dataBlock.rawData },
          device)
      else
        let answer := answerSet handler
          { invokeId := invokeIdAndPriority &&& 0x0F
            options := options
            descriptor := toXdlmsDescriptor normal.descriptor
            data := dataBlock.rawData }
          (fun iip => encodeSetLastBlockResponse iip 1) device
        (answer.1, setBlocks, answer.2)
  | .withDataBlock invokeIdAndPriority dataBlock =>
      if !setBlocks.active then
        (.error .decodeFailed, setBlocks, device)
      else if invokeIdAndPriority &&& 0x0F ≠ setBlocks.invokeId then
        (.error .invokeIdMismatch, {}, device)
      else if dataBlock.blockNumber ≠ setBlocks.nextBlockNumber then
        (.error .decodeFailed, {}, device)
      else if dataBlock.rawData.length > setBlocks.options.maxBlockTransferBytes ∨
          setBlocks.data.length >
            setBlocks.options.maxBlockTransferBytes - dataBlock.rawData.length then
        (.error .decodeFailed, {}, device)
      else if !dataBlock.lastBlock then
        (encodeSetBlockAckResponse invokeIdAndPriority dataBlock.blockNumber,
          { setBlocks with
            data := setBlocks.data ++ dataBlock.rawData
            nextBlockNumber := setBlocks.nextBlockNumber + 1 },
          device)
      else
        let answer := answerSet handler
          { invokeId := setBlocks.invokeId
            options := setBlocks.options
            descriptor := setBlocks.descriptor
            data := setBlocks.data ++ dataBlock.rawData }
          (fun iip => encodeSetLastBlockResponse iip dataBlock.blockNumber) device
        (answer.1, {}, answer.2)
  | .normal invokeIdAndPriority normal data =>
      let options := parseServiceOptions invokeIdAndPriority processorOptions
      if normal.selection.isSome then
        (.error .unsupportedFeature, setBlocks, device)
      else if !options.confirmed then
        (.error .unsupportedFeature, setBlocks, device)
      else
        match encodeDataBytes data with
        | .error status => (.error status, setBlocks, device)
        | .ok encoded =>
            let answer := answerSet handler
              { invokeId := invokeIdAndPriority &&& 0x0F
                options := options
                descriptor := toXdlmsDescriptor normal.descriptor
                data := encoded }
              encodeSetResponse device
            (answer.1, setBlocks, answer.2)
  | .withList _ _ _ => (.error .unsupportedFeature, setBlocks, device)
  | .withListAndFirstDataBlock _ _ _ => (.error .unsupportedFeature, setBlocks, device)

/-- Dispatch an ACTION whose parameter is complete, and answer it. -/
def answerAction (indication : ActionIndication) (device : δ) : Except XdlmsStatus Bytes × δ :=
  match dispatchAction handler indication device with
  | (.error status, device) => (.error status, device)
  | (.ok result, device) =>
      (encodeActionResponse (makeInvokeIdAndPriority indication.invokeId indication.options)
        result, device)

/-- The same for a parameter that came in blocks, which nothing has decoded
    yet. -/
def validateAndAnswerAction (indication : ActionIndication) (parameter : Bytes) (device : δ) :
    Except XdlmsStatus Bytes × δ :=
  match validateEncodedActionParameter parameter with
  | .error status => (.error status, device)
  | .ok () => answerAction handler { indication with parameter := some parameter } device

def processActionRequest (request : Apdu.ActionRequest) (actionBlocks : ActionRequestBlockState)
    (device : δ) : Except XdlmsStatus Bytes × ActionRequestBlockState × δ :=
  match request with
  | .withFirstPblock invokeIdAndPriority descriptor dataBlock =>
      let options := parseServiceOptions invokeIdAndPriority processorOptions
      if actionBlocks.active then
        (.error .decodeFailed, {}, device)
      else if dataBlock.blockNumber ≠ 1 then
        (.error .decodeFailed, actionBlocks, device)
      else if !options.confirmed then
        (.error .unsupportedFeature, actionBlocks, device)
      else if dataBlock.rawData.length > options.maxBlockTransferBytes then
        (.error .decodeFailed, actionBlocks, device)
      else if !dataBlock.lastBlock then
        (encodeActionNextPblockResponse invokeIdAndPriority 1,
          { active := true
            invokeId := invokeIdAndPriority &&& 0x0F
            options := options
            descriptor := toXdlmsMethodDescriptor descriptor
            nextBlockNumber := 2
            data := dataBlock.rawData },
          device)
      else
        let answer := validateAndAnswerAction handler
          { invokeId := invokeIdAndPriority &&& 0x0F
            options := options
            descriptor := toXdlmsMethodDescriptor descriptor
            parameter := none }
          dataBlock.rawData device
        (answer.1, actionBlocks, answer.2)
  | .withPblock invokeIdAndPriority dataBlock =>
      if !actionBlocks.active then
        (.error .decodeFailed, actionBlocks, device)
      else if invokeIdAndPriority &&& 0x0F ≠ actionBlocks.invokeId then
        (.error .invokeIdMismatch, {}, device)
      else if dataBlock.blockNumber ≠ actionBlocks.nextBlockNumber then
        (.error .decodeFailed, {}, device)
      else if dataBlock.rawData.length > actionBlocks.options.maxBlockTransferBytes ∨
          actionBlocks.data.length >
            actionBlocks.options.maxBlockTransferBytes - dataBlock.rawData.length then
        (.error .decodeFailed, {}, device)
      else if !dataBlock.lastBlock then
        (encodeActionNextPblockResponse invokeIdAndPriority dataBlock.blockNumber,
          { actionBlocks with
            data := actionBlocks.data ++ dataBlock.rawData
            nextBlockNumber := actionBlocks.nextBlockNumber + 1 },
          device)
      else
        let answer := validateAndAnswerAction handler
          { invokeId := actionBlocks.invokeId
            options := actionBlocks.options
            descriptor := actionBlocks.descriptor
            parameter := none }
          (actionBlocks.data ++ dataBlock.rawData) device
        (answer.1, {}, answer.2)
  | .normal invokeIdAndPriority normal =>
      let options := parseServiceOptions invokeIdAndPriority processorOptions
      let indication : ActionIndication :=
        { invokeId := invokeIdAndPriority &&& 0x0F
          options := options
          descriptor := toXdlmsMethodDescriptor normal.descriptor
          parameter := none }
      if !options.confirmed then
        (.error .unsupportedFeature, actionBlocks, device)
      else
        match normal.invocationParameter with
        | none =>
            let answer := answerAction handler indication device
            (answer.1, actionBlocks, answer.2)
        | some data =>
            match encodeDataBytes data with
            | .error status => (.error status, actionBlocks, device)
            | .ok encoded =>
                let answer := answerAction handler { indication with parameter := some encoded }
                  device
                (answer.1, actionBlocks, answer.2)
  | .nextPblock _ _ => (.error .unsupportedFeature, actionBlocks, device)
  | .withList _ _ => (.error .unsupportedFeature, actionBlocks, device)
  | .withListAndFirstPblock _ _ _ => (.error .unsupportedFeature, actionBlocks, device)

end Services

/-! ### One request -/

/-- What a processor keeps from one request to the next, the state of its
    security processor and of the application behind its handler included. -/
structure XdlmsServerState (σ δ : Type) where
  getBlocks : GetResponseBlockState := {}
  setBlocks : SetRequestBlockState := {}
  actionBlocks : ActionRequestBlockState := {}
  security : σ
  device : δ

section Processor

variable {σ δ : Type}

/-- Unprotect and decode, when there is something to unprotect with. -/
def decodeRequest (security : Option (SecurityProcessor σ)) (requestApdu : Bytes)
    (securityState : σ) : Except XdlmsStatus Apdu.XdlmsApdu × σ :=
  let unprotected : Except SecurityStatus Bytes × σ :=
    match security with
    | none => (.ok requestApdu, securityState)
    | some processor => processor.unprotect requestApdu securityState
  match unprotected with
  | (.error _, securityState) => (.error .securityFailed, securityState)
  | (.ok plainRequest, securityState) =>
      match Apdu.decodeXdlmsApdu plainRequest with
      | .error _ => (.error .decodeFailed, securityState)
      | .ok request => (.ok request, securityState)

def processService (handler : XdlmsServerHandler δ) (options : ServiceOptions)
    (request : Apdu.XdlmsApdu) (state : XdlmsServerState σ δ) :
    Except XdlmsStatus Bytes × XdlmsServerState σ δ :=
  match request with
  | .getRequest request =>
      let out := processGetRequest handler options request state.getBlocks state.device
      (out.1, { state with getBlocks := out.2.1, device := out.2.2 })
  | .setRequest request =>
      let out := processSetRequest handler options request state.setBlocks state.device
      (out.1, { state with setBlocks := out.2.1, device := out.2.2 })
  | .actionRequest request =>
      let out := processActionRequest handler options request state.actionBlocks state.device
      (out.1, { state with actionBlocks := out.2.1, device := out.2.2 })
  | _ => (.error .unsupportedFeature, state)

def protectResponse (security : Option (SecurityProcessor σ)) (plainResponse : Bytes)
    (securityState : σ) : Except XdlmsStatus Bytes × σ :=
  match security with
  | none => (.ok plainResponse, securityState)
  | some processor =>
      match processor.protect plainResponse securityState with
      | (.error _, securityState) => (.error .securityFailed, securityState)
      | (.ok responseApdu, securityState) => (.ok responseApdu, securityState)

def processRequest (handler : XdlmsServerHandler δ) (options : ServiceOptions)
    (security : Option (SecurityProcessor σ)) (requestApdu : Bytes)
    (state : XdlmsServerState σ δ) : Except XdlmsStatus Bytes × XdlmsServerState σ δ :=
  match decodeRequest security requestApdu state.security with
  | (.error status, securityState) => (.error status, { state with security := securityState })
  | (.ok request, securityState) =>
      match processService handler options request { state with security := securityState } with
      | (.error status, state) => (.error status, state)
      | (.ok plainResponse, state) =>
          let out := protectResponse security plainResponse state.security
          (out.1, { state with security := out.2 })

end Processor

end Xdlms

end Dlms
