import Dlms.Profile.Channel
import Dlms.Xdlms.Types

/-!
# The xDLMS client

From a service call to request APDUs, and from their responses to a result. A
long GET or ACTION answer is collected block by block; a long SET value or
ACTION parameter is sent block by block, each block after the response to the
one before it.

A call that fails may leave a part of its result behind, as the code of a
rejected service, so a call returns its status next to its result. The two
loops that collect an answer ask for as many blocks as the peer has, which no
bound limits; they take a bound on the number of responses and return `none`
when it is used up.

## Main definitions

* `XdlmsClient`: What a client is connected to, and `XdlmsClientState`.
* `sendAndReceive`: One request and its response.
* `BlockTransferManager`: An answer being collected.
* `get`, `set`, `action`: The services.
-/

namespace Dlms

namespace Xdlms

open Codec
open Apdu (Bytes DlmsData DataBlock XdlmsApdu)
open Profile (ApduChannel)
open Security (SecurityStatus)

/-- What a client is connected to. -/
structure XdlmsClient (χ σ : Type) where
  channel : ApduChannel χ
  security : Option (SecurityProcessor σ)
  isAssociated : Bool

/-- A client's channel, security and invoke ids. -/
structure XdlmsClientState (χ σ : Type) where
  channel : χ
  security : σ
  invokeIds : InvokeIdAllocator := .initial

/-! ### Descriptors and data between the layers -/

def toApduDescriptor (descriptor : CosemAttributeDescriptor) : Apdu.CosemAttributeDescriptor where
  classId := descriptor.classId
  logicalName := descriptor.instanceId
  attributeId := descriptor.attributeId

def toApduMethodDescriptor (descriptor : CosemMethodDescriptor) : Apdu.CosemMethodDescriptor where
  classId := descriptor.classId
  logicalName := descriptor.instanceId
  methodId := descriptor.methodId

/-- The value of an encoding that the caller gave. -/
def Client.decodeEncodedData (encodedData : Bytes) : Except XdlmsStatus DlmsData :=
  if encodedData = [] then .error .invalidArgument
  else
    match Apdu.decodeDlmsData encodedData Apdu.maximumDataDepth with
    | .ok data => .ok data
    | .error _ => .error .encodeFailed

/-- Octets of the buffer an answer is encoded in again. -/
def answerBufferSize : Nat := 2048

def copyEncodedData (data : DlmsData) : Except XdlmsStatus Bytes :=
  match runEmitter answerBufferSize (Apdu.encodeDlmsData data) with
  | .ok bytes => .ok bytes
  | .error _ => .error .decodeFailed

/-! ### Blocks of an answer -/

/-- The blocks of a response so far, and their limit. -/
structure BlockTransferManager where
  maxBytes : Nat
  nextBlockNumber : UInt32 := 1
  data : Bytes := []
  deriving DecidableEq, Repr

def BlockTransferManager.appendBlock (blocks : BlockTransferManager) (block : DataBlock) :
    Except XdlmsStatus BlockTransferManager :=
  if block.blockNumber ≠ blocks.nextBlockNumber then
    .error .decodeFailed
  else if block.rawData.length > blocks.maxBytes ∨
      blocks.data.length > blocks.maxBytes - block.rawData.length then
    .error .decodeFailed
  else
    .ok
      { blocks with
        data := blocks.data ++ block.rawData
        nextBlockNumber := blocks.nextBlockNumber + 1 }

section Client

variable {χ σ : Type} (client : XdlmsClient χ σ)

/-! ### One request and its response -/

def sendAndReceive (request : XdlmsApdu) (state : XdlmsClientState χ σ) :
    Except XdlmsStatus XdlmsApdu × XdlmsClientState χ σ :=
  match Apdu.encodeXdlmsApdu request with
  | .error _ => (.error .encodeFailed, state)
  | .ok encodedRequest =>
      let outbound : Except SecurityStatus Bytes × σ :=
        match client.security with
        | none => (.ok encodedRequest, state.security)
        | some security => security.protect encodedRequest state.security
      let state := { state with security := outbound.2 }
      match outbound.1 with
      | .error _ => (.error .securityFailed, state)
      | .ok outboundRequest =>
          match client.channel.sendApdu outboundRequest state.channel with
          | (.error _, channel) => (.error .sendFailed, { state with channel := channel })
          | (.ok (), channel) =>
              match client.channel.receiveApdu channel with
              | (.error _, channel) => (.error .receiveFailed, { state with channel := channel })
              | (.ok encodedResponse, channel) =>
                  let state := { state with channel := channel }
                  let inbound : Except SecurityStatus Bytes × σ :=
                    match client.security with
                    | none => (.ok encodedResponse, state.security)
                    | some security => security.unprotect encodedResponse state.security
                  let state := { state with security := inbound.2 }
                  match inbound.1 with
                  | .error _ => (.error .securityFailed, state)
                  | .ok inboundResponse =>
                      match Apdu.decodeXdlmsApdu inboundResponse with
                      | .error _ => (.error .decodeFailed, state)
                      | .ok response => (.ok response, state)

def receiveGetResponse (request : XdlmsApdu) (state : XdlmsClientState χ σ) :
    Except XdlmsStatus Apdu.GetResponse × XdlmsClientState χ σ :=
  match sendAndReceive client request state with
  | (.error status, state) => (.error status, state)
  | (.ok (.getResponse response), state) => (.ok response, state)
  | (.ok _, state) => (.error .decodeFailed, state)

def receiveActionResponse (request : XdlmsApdu) (state : XdlmsClientState χ σ) :
    Except XdlmsStatus Apdu.ActionResponse × XdlmsClientState χ σ :=
  match sendAndReceive client request state with
  | (.error status, state) => (.error status, state)
  | (.ok (.actionResponse response), state) => (.ok response, state)
  | (.ok _, state) => (.error .decodeFailed, state)

/-! ### GET -/

/-- A status, the result next to it, and the state after the call. -/
abbrev Outcome (χ σ ρ : Type) := Except XdlmsStatus Unit × ρ × XdlmsClientState χ σ

/-- Collect the blocks from this one on, asking for each next one. -/
def collectGetBlocks (invokeId invokeIdAndPriority : UInt8) :
    Nat → UInt8 → DataBlock → BlockTransferManager → XdlmsClientState χ σ →
      Option (Outcome χ σ GetResult)
  | 0, _, _, _, _ => none
  | responses + 1, responseInvokeId, block, blocks, state =>
      if responseInvokeId &&& 0x0F ≠ invokeId then
        some (.error .invokeIdMismatch, {}, state)
      else
        match blocks.appendBlock block with
        | .error status => some (.error status, {}, state)
        | .ok blocks =>
            if block.lastBlock then
              some (.ok (), { invokeId := invokeId, hasData := true, data := blocks.data }, state)
            else
              match receiveGetResponse client
                  (.getRequest (.next invokeIdAndPriority block.blockNumber)) state with
              | (.error status, state) => some (.error status, {}, state)
              | (.ok (.withDataBlock responseInvokeId block), state) =>
                  collectGetBlocks invokeId invokeIdAndPriority responses responseInvokeId block
                    blocks state
              | (.ok _, state) => some (.error .decodeFailed, {}, state)

def makeGetRequestNormal (invokeIdAndPriority : UInt8) (descriptor : CosemAttributeDescriptor)
    (selectiveAccess : Option SelectiveAccessDescriptor) : Except XdlmsStatus XdlmsApdu :=
  match selectiveAccess with
  | none =>
      .ok (.getRequest (.normal invokeIdAndPriority
        { descriptor := toApduDescriptor descriptor, selection := none }))
  | some selectiveAccess => do
      let parameters ← Client.decodeEncodedData selectiveAccess.encodedParameters
      .ok (.getRequest (.normal invokeIdAndPriority
        { descriptor := toApduDescriptor descriptor
          selection := some { selector := selectiveAccess.selector, parameters } }))

/-- What a client makes of the first response. -/
def finishGet (invokeId invokeIdAndPriority : UInt8) (options : ServiceOptions) (responses : Nat)
    (response : Apdu.GetResponse) (state : XdlmsClientState χ σ) :
    Option (Outcome χ σ GetResult) :=
  match response with
  | .withList _ _ => some (.error .unsupportedFeature, {}, state)
  | .withDataBlock responseInvokeId block =>
      if !options.allowBlockTransfer then
        some (.error .blockTransferRequired, {}, state)
      else
        collectGetBlocks client invokeId invokeIdAndPriority responses responseInvokeId block
          { maxBytes := options.maxBlockTransferBytes } state
  | .normal responseInvokeId result =>
      if responseInvokeId &&& 0x0F ≠ invokeId then
        some (.error .invokeIdMismatch, {}, state)
      else
        match result with
        | .dataAccessError accessResult =>
            some (.error .serviceRejected,
              { invokeId, hasAccessResult := true, accessResult }, state)
        | .data data =>
            match copyEncodedData data with
            | .error status => some (.error status, { invokeId }, state)
            | .ok data => some (.ok (), { invokeId, hasData := true, data }, state)

/-- The call after its arguments have been accepted. -/
def getWithInvokeId (invokeId : UInt8) (descriptor : CosemAttributeDescriptor)
    (selectiveAccess : Option SelectiveAccessDescriptor) (options : ServiceOptions)
    (responses : Nat) (state : XdlmsClientState χ σ) : Option (Outcome χ σ GetResult) :=
  let invokeIdAndPriority := makeInvokeIdAndPriority invokeId options
  match makeGetRequestNormal invokeIdAndPriority descriptor selectiveAccess with
  | .error status => some (.error status, {}, state)
  | .ok request =>
      match receiveGetResponse client request state with
      | (.error status, state) => some (.error status, {}, state)
      | (.ok response, state) =>
          finishGet client invokeId invokeIdAndPriority options responses response state

def get (descriptor : CosemAttributeDescriptor)
    (selectiveAccess : Option SelectiveAccessDescriptor) (options : ServiceOptions)
    (responses : Nat) (state : XdlmsClientState χ σ) : Option (Outcome χ σ GetResult) :=
  match validateDescriptor descriptor with
  | .error status => some (.error status, {}, state)
  | .ok () =>
      match validateOptionalSelectiveAccess selectiveAccess with
      | .error status => some (.error status, {}, state)
      | .ok () =>
          if !client.isAssociated then
            some (.error .notAssociated, {}, state)
          else
            getWithInvokeId client state.invokeIds.take.1 descriptor selectiveAccess options
              responses { state with invokeIds := state.invokeIds.take.2 }

/-! ### SET -/

/-- The block number of a response; one without any has zero. -/
def setResponseBlockNumber (response : Apdu.SetResponse) : UInt32 :=
  match response with
  | .dataBlock _ blockNumber | .lastDataBlock _ _ blockNumber
  | .lastDataBlockWithList _ _ blockNumber => blockNumber
  | .normal _ _ | .withList _ _ => 0

def setResponseInvokeId (response : Apdu.SetResponse) : UInt8 :=
  match response with
  | .normal iip _ | .dataBlock iip _ | .lastDataBlock iip _ _ | .lastDataBlockWithList iip _ _
  | .withList iip _ => iip

def validateSetBlockResponse (response : XdlmsApdu) (invokeId : UInt8)
    (expectedBlockNumber : UInt32) (finalBlock : Bool) : Except XdlmsStatus Unit × SetResult :=
  match response with
  | .setResponse response =>
      if setResponseInvokeId response &&& 0x0F ≠ invokeId then
        (.error .invokeIdMismatch, {})
      else if setResponseBlockNumber response ≠ expectedBlockNumber then
        (.error .decodeFailed, {})
      else
        match finalBlock, response with
        | false, .dataBlock _ _ => (.ok (), {})
        | true, .lastDataBlock _ result _ =>
            (if result = 0 then .ok () else .error .serviceRejected,
              { invokeId, accessResult := result })
        | _, _ => (.error .decodeFailed, {})
  | _ => (.error .decodeFailed, {})

/-- Send what is left, from this block on. Every round sends at least one byte,
    so the length of the rest bounds the rounds. -/
def sendSetBlocks (invokeId invokeIdAndPriority : UInt8) (descriptor : CosemAttributeDescriptor)
    (maxSetBlockPayloadBytes : Nat) :
    Nat → Bytes → UInt32 → XdlmsClientState χ σ → Outcome χ σ SetResult
  | 0, _, _, state => (.error .internalError, {}, state)
  | rounds + 1, rest, blockNumber, state =>
      let blockSize := min rest.length maxSetBlockPayloadBytes
      let finalBlock := blockSize == rest.length
      let block : DataBlock :=
        { lastBlock := finalBlock
          blockNumber := blockNumber
          rawData := rest.take blockSize }
      let request : Apdu.SetRequest :=
        if blockNumber = 1 then
          .withFirstDataBlock invokeIdAndPriority
            { descriptor := toApduDescriptor descriptor, selection := none } block
        else
          .withDataBlock invokeIdAndPriority block
      match sendAndReceive client (.setRequest request) state with
      | (.error status, state) => (.error status, {}, state)
      | (.ok response, state) =>
          match validateSetBlockResponse response invokeId blockNumber finalBlock with
          | (.error status, result) => (.error status, result, state)
          | (.ok (), result) =>
              if finalBlock then
                (.ok (), result, state)
              else
                sendSetBlocks invokeId invokeIdAndPriority descriptor maxSetBlockPayloadBytes
                  rounds (rest.drop blockSize) (blockNumber + 1) state

def setNormal (invokeId : UInt8) (descriptor : CosemAttributeDescriptor) (data : DlmsData)
    (options : ServiceOptions) (state : XdlmsClientState χ σ) : Outcome χ σ SetResult :=
  match sendAndReceive client
      (.setRequest (.normal (makeInvokeIdAndPriority invokeId options)
        { descriptor := toApduDescriptor descriptor, selection := none } data)) state with
  | (.error status, state) => (.error status, {}, state)
  | (.ok (.setResponse (.normal responseInvokeId accessResult)), state) =>
      if responseInvokeId &&& 0x0F ≠ invokeId then
        (.error .invokeIdMismatch, {}, state)
      else
        (if accessResult = 0 then .ok () else .error .serviceRejected,
          { invokeId, accessResult }, state)
  | (.ok (.setResponse (.dataBlock _ _)), state)
  | (.ok (.setResponse (.lastDataBlock _ _ _)), state) =>
      (.error .blockTransferRequired, {}, state)
  | (.ok (.setResponse _), state) => (.error .unsupportedFeature, {}, state)
  | (.ok _, state) => (.error .decodeFailed, {}, state)

def set (descriptor : CosemAttributeDescriptor) (encodedData : Bytes) (options : ServiceOptions)
    (state : XdlmsClientState χ σ) : Outcome χ σ SetResult :=
  let numbered := { state with invokeIds := state.invokeIds.take.2 }
  match validateDescriptor descriptor with
  | .error status => (.error status, {}, state)
  | .ok () =>
      if encodedData.length ≤ options.maxSetBlockPayloadBytes then
        match Client.decodeEncodedData encodedData with
        | .error status => (.error status, {}, state)
        | .ok data =>
            if !client.isAssociated then
              (.error .notAssociated, {}, state)
            else
              setNormal client state.invokeIds.take.1 descriptor data options numbered
      else if options.maxSetBlockPayloadBytes = 0 then
        (.error .invalidArgument, {}, state)
      else if !options.allowBlockTransfer then
        (.error .blockTransferRequired, {}, state)
      else if !client.isAssociated then
        (.error .notAssociated, {}, state)
      else
        sendSetBlocks client state.invokeIds.take.1
          (makeInvokeIdAndPriority state.invokeIds.take.1 options) descriptor
          options.maxSetBlockPayloadBytes encodedData.length encodedData 1 numbered

/-! ### ACTION -/

def validateActionNextPblockResponse (response : Apdu.ActionResponse) (invokeId : UInt8)
    (expectedBlockNumber : UInt32) : Except XdlmsStatus Unit :=
  match response with
  | .nextPblock responseInvokeId blockNumber =>
      if responseInvokeId &&& 0x0F ≠ invokeId then .error .invokeIdMismatch
      else if blockNumber = expectedBlockNumber then .ok ()
      else .error .decodeFailed
  | .normal responseInvokeId _ | .withPblock responseInvokeId _ | .withList responseInvokeId _ =>
      if responseInvokeId &&& 0x0F ≠ invokeId then .error .invokeIdMismatch
      else .error .decodeFailed

def copyActionResponse (responseInvokeId : UInt8) (item : Apdu.ActionResponseItem)
    (invokeId : UInt8) : Except XdlmsStatus Unit × ActionResult :=
  if responseInvokeId &&& 0x0F ≠ invokeId then
    (.error .invokeIdMismatch, {})
  else
    let status : Except XdlmsStatus Unit :=
      if item.result = 0 then .ok () else .error .serviceRejected
    match item.returnParameter with
    | none => (status, { invokeId, actionResult := item.result })
    | some data =>
        match copyEncodedData data with
        | .error status => (.error status, { invokeId, actionResult := item.result })
        | .ok data => (status, { invokeId, actionResult := item.result, hasData := true, data })

/-- A response that came in blocks is decoded as the rest of a normal one. -/
def decodeActionBlockPayload (invokeIdAndPriority : UInt8) (payload : Bytes) :
    Except XdlmsStatus (UInt8 × Apdu.ActionResponseItem) :=
  match Apdu.decodeXdlmsApdu ([0xC7, 0x01, invokeIdAndPriority] ++ payload) with
  | .ok (.actionResponse (.normal responseInvokeId item)) => .ok (responseInvokeId, item)
  | _ => .error .decodeFailed

/-- Collect the blocks of a response from this one on. -/
def collectActionBlocks (invokeId invokeIdAndPriority : UInt8) :
    Nat → UInt8 → DataBlock → BlockTransferManager → XdlmsClientState χ σ →
      Option (Outcome χ σ ActionResult)
  | 0, _, _, _, _ => none
  | responses + 1, responseInvokeId, block, blocks, state =>
      if responseInvokeId &&& 0x0F ≠ invokeId then
        some (.error .invokeIdMismatch, {}, state)
      else
        match blocks.appendBlock block with
        | .error status => some (.error status, {}, state)
        | .ok blocks =>
            if block.lastBlock then
              match decodeActionBlockPayload invokeIdAndPriority blocks.data with
              | .error status => some (.error status, {}, state)
              | .ok (responseInvokeId, item) =>
                  let copied := copyActionResponse responseInvokeId item invokeId
                  some (copied.1, copied.2, state)
            else
              match receiveActionResponse client
                  (.actionRequest (.nextPblock invokeIdAndPriority block.blockNumber)) state with
              | (.error status, state) => some (.error status, {}, state)
              | (.ok (.withPblock responseInvokeId block), state) =>
                  collectActionBlocks invokeId invokeIdAndPriority responses responseInvokeId
                    block blocks state
              | (.ok _, state) => some (.error .decodeFailed, {}, state)

def copyFinalActionResponse (invokeId invokeIdAndPriority : UInt8) (options : ServiceOptions)
    (response : Apdu.ActionResponse) (responses : Nat) (state : XdlmsClientState χ σ) :
    Option (Outcome χ σ ActionResult) :=
  match response with
  | .normal responseInvokeId item =>
      let copied := copyActionResponse responseInvokeId item invokeId
      some (copied.1, copied.2, state)
  | .withPblock responseInvokeId block =>
      if !options.allowBlockTransfer then
        some (.error .blockTransferRequired, {}, state)
      else
        collectActionBlocks client invokeId invokeIdAndPriority responses responseInvokeId block
          { maxBytes := options.maxBlockTransferBytes } state
  | .withList _ _ | .nextPblock _ _ => some (.error .unsupportedFeature, {}, state)

def sendActionBlocks (invokeId invokeIdAndPriority : UInt8) (descriptor : CosemMethodDescriptor)
    (options : ServiceOptions) (responses : Nat) :
    Nat → Bytes → UInt32 → XdlmsClientState χ σ → Option (Outcome χ σ ActionResult)
  | 0, _, _, _ => none
  | rounds + 1, rest, blockNumber, state =>
      let blockSize := min rest.length options.maxActionBlockPayloadBytes
      let finalBlock := blockSize == rest.length
      let block : DataBlock :=
        { lastBlock := finalBlock
          blockNumber := blockNumber
          rawData := rest.take blockSize }
      let request : Apdu.ActionRequest :=
        if blockNumber = 1 then
          .withFirstPblock invokeIdAndPriority (toApduMethodDescriptor descriptor) block
        else
          .withPblock invokeIdAndPriority block
      match receiveActionResponse client (.actionRequest request) state with
      | (.error status, state) => some (.error status, {}, state)
      | (.ok response, state) =>
          if finalBlock then
            copyFinalActionResponse client invokeId invokeIdAndPriority options response responses
              state
          else
            match validateActionNextPblockResponse response invokeId blockNumber with
            | .error status => some (.error status, {}, state)
            | .ok () =>
                sendActionBlocks invokeId invokeIdAndPriority descriptor options responses rounds
                  (rest.drop blockSize) (blockNumber + 1) state

def actionNormal (invokeId : UInt8) (descriptor : CosemMethodDescriptor)
    (parameter : Option DlmsData) (options : ServiceOptions) (responses : Nat)
    (state : XdlmsClientState χ σ) : Option (Outcome χ σ ActionResult) :=
  let invokeIdAndPriority := makeInvokeIdAndPriority invokeId options
  match receiveActionResponse client
      (.actionRequest (.normal invokeIdAndPriority
        { descriptor := toApduMethodDescriptor descriptor
          invocationParameter := parameter })) state with
  | (.error status, state) => some (.error status, {}, state)
  | (.ok response, state) =>
      copyFinalActionResponse client invokeId invokeIdAndPriority options response responses state

/-- The parameter is `none` when the source's flag says that there is none. -/
def action (descriptor : CosemMethodDescriptor) (encodedParameter : Option Bytes)
    (options : ServiceOptions) (responses : Nat) (state : XdlmsClientState χ σ) :
    Option (Outcome χ σ ActionResult) :=
  let numbered := { state with invokeIds := state.invokeIds.take.2 }
  match validateMethodDescriptor descriptor with
  | .error status => some (.error status, {}, state)
  | .ok () =>
      match encodedParameter with
      | none =>
          if !client.isAssociated then
            some (.error .notAssociated, {}, state)
          else
            actionNormal client state.invokeIds.take.1 descriptor none options responses numbered
      | some encodedParameter =>
          if encodedParameter.length ≤ options.maxActionBlockPayloadBytes then
            match Client.decodeEncodedData encodedParameter with
            | .error status => some (.error status, {}, state)
            | .ok parameter =>
                if !client.isAssociated then
                  some (.error .notAssociated, {}, state)
                else
                  actionNormal client state.invokeIds.take.1 descriptor (some parameter) options
                    responses numbered
          else if options.maxActionBlockPayloadBytes = 0 then
            some (.error .invalidArgument, {}, state)
          else if !options.allowBlockTransfer then
            some (.error .blockTransferRequired, {}, state)
          else if !client.isAssociated then
            some (.error .notAssociated, {}, state)
          else
            sendActionBlocks client state.invokeIds.take.1
              (makeInvokeIdAndPriority state.invokeIds.take.1 options) descriptor options
              responses encodedParameter.length encodedParameter 1 numbered

end Client

end Xdlms

end Dlms
