import Dlms.Xdlms.SetTransfer

/-!
# An ACTION from end to end

The parameter of an ACTION travels as the value of a SET does, in one request
or block by block. The server decodes a parameter that came in blocks before
it dispatches it, and the client waits for a response with a result after its
last block.

## Main definitions

* `actionIndication`: What the handler is asked.
* `collectingAction`: The server's state in the middle of a transfer.
* `ActionFits`: The parameters and the sizes at which an ACTION arrives.

## Theorems

* `action_blocks_reaches`: A transfer comes to its last block, or runs out of numbers.
* `device_action_of_fits`, `device_action_of_not_fits`: The handler is asked
  once, or not at all.
-/

namespace Dlms

namespace Xdlms

open Apdu (Bytes DlmsData DataBlock XdlmsApdu CanonicalData maximumDataDepth)

/-! ### The requests of a client -/

/-- The largest block payload whose first request fits, with the descriptor
    and the header of a block. -/
def actionBlockLimit : Nat := 2028

/-- The largest parameter whose only request fits. -/
def actionValueLimit : Nat := 2035

theorem lt_of_le_actionBlockLimit (n : Nat) (h : n ≤ actionBlockLimit) :
    n < 256 ^ Apdu.sizeOctets := by
  rw [actionBlockLimit] at h
  rw [Apdu.sizeOctets]
  omega

section Requests

variable (iip : UInt8)

theorem encode_actionRequestNormal (descriptor : Apdu.CosemMethodDescriptor) (depth : Nat)
    (data : Bytes) (value : DlmsData) (h : CanonicalData depth data value) :
    Apdu.encodeXdlmsApdu (.actionRequest (.normal iip ⟨descriptor, some value⟩)) =
      Apdu.bounded (Apdu.actionRequestNormalBytes iip descriptor (some data)) :=
  Apdu.encodeXdlmsApdu_actionRequest _ _
    (Apdu.writes_actionRequest_some _ _ _ _ (Apdu.writes_of_canonicalData _ _ _ h))

theorem length_actionRequestNormalBytes (descriptor : Apdu.CosemMethodDescriptor) (data : Bytes) :
    (Apdu.actionRequestNormalBytes iip descriptor (some data)).length = 13 + data.length := by
  simp only [Apdu.actionRequestNormalBytes, Apdu.length_serviceApduBytes, List.length_append,
    Apdu.length_methodDescriptorBytes, List.length_cons, List.length_nil]
  omega

theorem decode_actionRequestNormal (descriptor : Apdu.CosemMethodDescriptor) (data : Bytes)
    (value : DlmsData) (h : Apdu.decodeDlmsData data maximumDataDepth = .ok value) :
    Apdu.decodeXdlmsApdu (Apdu.actionRequestNormalBytes iip descriptor (some data)) =
      .ok (.actionRequest (.normal iip ⟨descriptor, some value⟩)) := by
  have hdecoded := Apdu.decodeActionRequest_some maximumDataDepth iip descriptor value data h
  rw [Apdu.actionRequestNormalBytes] at hdecoded ⊢
  rw [Apdu.decodeXdlmsApdu_actionRequest, hdecoded]
  rfl

theorem encode_actionRequestFirstBlock_eq (descriptor : Apdu.CosemMethodDescriptor)
    (dataBlock : DataBlock) :
    Apdu.encodeXdlmsApdu (.actionRequest (.withFirstPblock iip descriptor dataBlock)) =
      Apdu.bounded (Apdu.actionRequestFirstBlockBytes iip descriptor dataBlock) :=
  Apdu.encodeXdlmsApdu_actionRequest _ _ (Apdu.writes_actionRequest_firstBlock _ _ _)

theorem length_actionRequestFirstBlockBytes (descriptor : Apdu.CosemMethodDescriptor)
    (dataBlock : DataBlock) :
    (Apdu.actionRequestFirstBlockBytes iip descriptor dataBlock).length =
      17 + Apdu.axdrLengthEncodedSize dataBlock.rawData.length + dataBlock.rawData.length := by
  simp only [Apdu.actionRequestFirstBlockBytes, Apdu.length_serviceApduBytes, List.length_append,
    Apdu.length_methodDescriptorBytes, Apdu.length_dataBlockBytes]
  omega

theorem encode_actionRequestFirstBlock (descriptor : Apdu.CosemMethodDescriptor)
    (dataBlock : DataBlock) (h : dataBlock.rawData.length ≤ actionBlockLimit) :
    Apdu.encodeXdlmsApdu (.actionRequest (.withFirstPblock iip descriptor dataBlock)) =
      .ok (Apdu.actionRequestFirstBlockBytes iip descriptor dataBlock) := by
  rw [encode_actionRequestFirstBlock_eq]
  refine Apdu.bounded_of_le _ ?_
  rw [length_actionRequestFirstBlockBytes]
  refine (octetString_fits_iff 17 _ (by decide)).mpr ?_
  rw [actionBlockLimit] at h
  rw [Apdu.apduBufferSize]
  omega

theorem encode_actionRequestFirstBlock_tooLarge (descriptor : Apdu.CosemMethodDescriptor)
    (dataBlock : DataBlock) (h : actionBlockLimit < dataBlock.rawData.length) :
    Apdu.encodeXdlmsApdu (.actionRequest (.withFirstPblock iip descriptor dataBlock)) =
      .error .outputBufferTooSmall := by
  rw [encode_actionRequestFirstBlock_eq]
  refine Apdu.bounded_of_lt _ ?_
  have hfits := octetString_fits_iff 17 dataBlock.rawData.length (by decide)
  rw [length_actionRequestFirstBlockBytes]
  rw [actionBlockLimit] at h
  rw [Apdu.apduBufferSize] at hfits ⊢
  omega

theorem decode_actionRequestFirstBlock (descriptor : Apdu.CosemMethodDescriptor)
    (dataBlock : DataBlock) (h : dataBlock.rawData.length ≤ actionBlockLimit) :
    Apdu.decodeXdlmsApdu (Apdu.actionRequestFirstBlockBytes iip descriptor dataBlock) =
      .ok (.actionRequest (.withFirstPblock iip descriptor dataBlock)) := by
  have hdecoded := Apdu.decodeActionRequest_firstBlock maximumDataDepth iip descriptor dataBlock
    (lt_of_le_actionBlockLimit _ h)
  rw [Apdu.actionRequestFirstBlockBytes] at hdecoded ⊢
  rw [Apdu.decodeXdlmsApdu_actionRequest, hdecoded]
  rfl

theorem length_actionRequestBlockBytes (dataBlock : DataBlock) :
    (Apdu.actionRequestBlockBytes iip dataBlock).length =
      8 + Apdu.axdrLengthEncodedSize dataBlock.rawData.length + dataBlock.rawData.length := by
  simp only [Apdu.actionRequestBlockBytes, Apdu.length_serviceApduBytes,
    Apdu.length_dataBlockBytes]
  omega

theorem encode_actionRequestBlock (dataBlock : DataBlock)
    (h : dataBlock.rawData.length ≤ actionBlockLimit) :
    Apdu.encodeXdlmsApdu (.actionRequest (.withPblock iip dataBlock)) =
      .ok (Apdu.actionRequestBlockBytes iip dataBlock) := by
  rw [Apdu.encodeXdlmsApdu_actionRequest _ _ (Apdu.writes_actionRequest_block _ _)]
  refine Apdu.bounded_of_le _ ?_
  rw [length_actionRequestBlockBytes]
  refine (octetString_fits_iff 8 _ (by decide)).mpr ?_
  rw [actionBlockLimit] at h
  rw [Apdu.apduBufferSize]
  omega

theorem decode_actionRequestBlock (dataBlock : DataBlock)
    (h : dataBlock.rawData.length ≤ actionBlockLimit) :
    Apdu.decodeXdlmsApdu (Apdu.actionRequestBlockBytes iip dataBlock) =
      .ok (.actionRequest (.withPblock iip dataBlock)) := by
  have hdecoded := Apdu.decodeActionRequest_block maximumDataDepth iip dataBlock
    (lt_of_le_actionBlockLimit _ h)
  rw [Apdu.actionRequestBlockBytes] at hdecoded ⊢
  rw [Apdu.decodeXdlmsApdu_actionRequest, hdecoded]
  rfl

end Requests

/-! ### The server's part -/

def actionIndication (invokeId : UInt8) (serverOptions clientOptions : ServiceOptions)
    (descriptor : CosemMethodDescriptor) (parameter : Option Bytes) : ActionIndication where
  invokeId := invokeId
  options := servedOptions serverOptions clientOptions
  descriptor := descriptor
  parameter := parameter

/-- The server in the middle of a transfer: it has collected these bytes, and
    the next block has this number. -/
def collectingAction (invokeId : UInt8) (options : ServiceOptions)
    (descriptor : CosemMethodDescriptor) (number : UInt32) (collected : Bytes) :
    ActionRequestBlockState where
  active := true
  invokeId := invokeId
  options := options
  descriptor := descriptor
  nextBlockNumber := number
  data := collected

/-- An answer is no block: whatever a server answers is a normal response. -/
theorem normal_of_encodeActionResponse (iip : UInt8) (result : ActionResult) (bytes : Bytes)
    (apdu : XdlmsApdu) (hencoded : encodeActionResponse iip result = .ok bytes)
    (hdecoded : Apdu.decodeXdlmsApdu bytes = .ok apdu) :
    ∃ item, apdu = .actionResponse (.normal iip item) := by
  -- Whatever is encoded starts with the tag and choice of a normal response.
  have hframe : ∃ rest, bytes = Apdu.serviceApduBytes Apdu.actionResponseTag 1 iip rest := by
    have hitem (item : Apdu.ActionResponseItem)
        (h : encodeResponse (.actionResponse (.normal iip item)) = .ok bytes) :
        ∃ rest, bytes = Apdu.serviceApduBytes Apdu.actionResponseTag 1 iip rest := by
      rw [encodeResponse] at h
      rcases hrun : Apdu.encodeXdlmsApdu (.actionResponse (.normal iip item)) with
        status | written
      · rw [hrun] at h
        cases h
      · rw [hrun, Except.ok.injEq] at h
        rw [← h]
        exact Apdu.serviceApduBytes_of_runEmitter _ _ _ _ (Apdu.uniform_encodeResponseItem item) _
          _ hrun
    unfold encodeActionResponse at hencoded
    cases hdata : result.hasData with
    | false =>
        rw [hdata, if_neg Bool.false_ne_true] at hencoded
        exact hitem _ hencoded
    | true =>
        rw [hdata, if_pos rfl] at hencoded
        rcases hvalue : decodeEncodedData result.data with status | value
        · rw [hvalue] at hencoded
          exact absurd hencoded (by simp [bind, Except.bind])
        · rw [hvalue] at hencoded
          exact hitem _ hencoded
  rcases hframe with ⟨rest, hrest⟩
  rw [hrest, Apdu.decodeXdlmsApdu_actionResponse] at hdecoded
  rcases hresponse : Apdu.decodeActionResponse
      (Apdu.serviceApduBytes Apdu.actionResponseTag 1 iip rest) maximumDataDepth with
    status | response
  · rw [hresponse] at hdecoded
    exact absurd hdecoded (by simp [Functor.map, Except.map])
  · rw [hresponse] at hdecoded
    rcases Apdu.normal_of_decodeActionResponse _ _ _ _ hresponse with ⟨item, hitem⟩
    exact ⟨item, by rw [← Except.ok.inj hdecoded, hitem]⟩

/-- What a server answers to the last request of an ACTION, if it answers. -/
def AnswersNormally (answer : Except XdlmsStatus Bytes) : Prop :=
  ∀ bytes apdu, answer = .ok bytes → Apdu.decodeXdlmsApdu bytes = .ok apdu →
    ∃ iip item, apdu = .actionResponse (.normal iip item)

section Serve

variable {σ δ : Type} (handler : XdlmsServerHandler δ)

theorem answersNormally_error (status : XdlmsStatus) : AnswersNormally (.error status) := by
  intro bytes apdu h
  cases h

theorem answersNormally_answerAction (indication : ActionIndication) (device : δ) :
    AnswersNormally (answerAction handler indication device).1 := by
  unfold answerAction
  rcases dispatchAction handler indication device with ⟨status | result, after⟩
  · exact answersNormally_error status
  · intro bytes apdu hencoded hdecoded
    rcases normal_of_encodeActionResponse _ _ _ _ hencoded hdecoded with ⟨item, hitem⟩
    exact ⟨_, item, hitem⟩

theorem answersNormally_validateAndAnswerAction (indication : ActionIndication)
    (parameter : Bytes) (device : δ) :
    AnswersNormally (validateAndAnswerAction handler indication parameter device).1 := by
  unfold validateAndAnswerAction
  rcases validateEncodedActionParameter parameter with status | ⟨⟩
  · exact answersNormally_error status
  · exact answersNormally_answerAction handler _ device

/-- A parameter that does not decode does not reach the handler. -/
theorem device_validateAndAnswerAction_of_not_decodable (indication : ActionIndication)
    (parameter : Bytes) (device : δ) (h : ¬ Decodable parameter) :
    (validateAndAnswerAction handler indication parameter device).2 = device := by
  unfold validateAndAnswerAction validateEncodedActionParameter
  by_cases hempty : parameter = []
  · rw [if_pos hempty]
  · rw [if_neg hempty]
    rcases hdecoded : Apdu.decodeDlmsData parameter maximumDataDepth with status | value
    · rfl
    · exact absurd ⟨value, hdecoded⟩ h

/-- One that decodes does. -/
theorem device_validateAndAnswerAction_of_decodable (indication : ActionIndication)
    (parameter : Bytes) (device : δ) (h : Decodable parameter) (hparameter : parameter ≠ [])
    (hinvoke : validateInvokeId indication.invokeId = .ok ())
    (hdescriptor : validateMethodDescriptor indication.descriptor = .ok ()) :
    (validateAndAnswerAction handler indication parameter device).2 =
      (handler.handleAction { indication with parameter := some parameter } device).2 := by
  rcases h with ⟨value, hdecoded⟩
  unfold validateAndAnswerAction validateEncodedActionParameter
  rw [if_neg hparameter, hdecoded]
  refine device_answerAction handler { indication with parameter := some parameter } device hinvoke
    hdescriptor ?_
  rw [ne_eq, Option.some.injEq]
  exact hparameter

variable (serverOptions clientOptions : ServiceOptions) (invokeId : UInt8)
  (descriptor : CosemMethodDescriptor) (server : XdlmsServerState σ δ)
  (hvalid : validateInvokeId invokeId = .ok ())
include hvalid

/-- A parameter in one request. -/
theorem serve_actionRequestNormal (hconfirmed : clientOptions.confirmed = true) (data : Bytes)
    (value : DlmsData) (hvalue : CanonicalData maximumDataDepth data value)
    (hsize : data.length ≤ dataBufferSize) :
    processService handler serverOptions
      (.actionRequest (.normal (makeInvokeIdAndPriority invokeId clientOptions)
        ⟨toApduMethodDescriptor descriptor, some value⟩)) server =
      ((answerAction handler
          (actionIndication invokeId serverOptions clientOptions descriptor (some data))
          server.device).1,
        { server with
          device := (answerAction handler
            (actionIndication invokeId serverOptions clientOptions descriptor (some data))
            server.device).2 }) := by
  have hiip := invokeId_of_valid invokeId hvalid clientOptions
  have hserved : (servedOptions serverOptions clientOptions).confirmed = true := hconfirmed
  simp only [processService, processActionRequest, parseServiceOptions_request, hiip, hserved,
    Bool.not_true, Bool.false_eq_true, if_false,
    encodeDataBytes_of_canonicalData _ _ _ hvalue hsize]
  rfl

/-- The first of several blocks opens a transfer. -/
theorem serve_actionRequestFirstBlock (hconfirmed : clientOptions.confirmed = true)
    (hidle : server.actionBlocks.active = false) (raw : Bytes)
    (hsize : raw.length ≤ serverOptions.maxBlockTransferBytes) :
    processService handler serverOptions
        (.actionRequest (.withFirstPblock (makeInvokeIdAndPriority invokeId clientOptions)
          (toApduMethodDescriptor descriptor)
          { lastBlock := false, blockNumber := 1, rawData := raw })) server =
      (.ok (Apdu.actionResponseNextBytes (makeInvokeIdAndPriority invokeId clientOptions) 1),
        { server with
          actionBlocks := collectingAction invokeId (servedOptions serverOptions clientOptions)
            descriptor (blockNumber 1) raw }) := by
  have hiip := invokeId_of_valid invokeId hvalid clientOptions
  have hserved : (servedOptions serverOptions clientOptions).confirmed = true := hconfirmed
  have hroom : ¬ raw.length > (servedOptions serverOptions clientOptions).maxBlockTransferBytes :=
    Nat.not_lt.mpr hsize
  simp only [processService, processActionRequest, hidle, Bool.false_eq_true, if_false, ne_eq,
    not_true_eq_false, parseServiceOptions_request, hiip, hserved, Bool.not_true, Bool.not_false,
    hroom, if_true,
    encodeActionNextPblockResponse_eq]
  rfl

omit hvalid in
/-- A server that has a transfer open drops it for another first block. -/
theorem serve_actionRequestFirstBlock_active (iip : UInt8) (dataBlock : DataBlock)
    (hactive : server.actionBlocks.active = true) :
    processService handler serverOptions
        (.actionRequest (.withFirstPblock iip (toApduMethodDescriptor descriptor) dataBlock))
        server = (.error .decodeFailed, { server with actionBlocks := {} }) := by
  simp [processService, processActionRequest, hactive]

section Collecting

variable (sent : Nat) (collected raw : Bytes)
  (hcollecting : server.actionBlocks =
    collectingAction invokeId (servedOptions serverOptions clientOptions) descriptor
      (blockNumber sent) collected)
  (hsize : collected.length + raw.length ≤ serverOptions.maxBlockTransferBytes)
include hcollecting hsize

/-- The next block, when there are more. -/
theorem serve_actionRequestBlock :
    processService handler serverOptions
        (.actionRequest (.withPblock (makeInvokeIdAndPriority invokeId clientOptions)
          { lastBlock := false, blockNumber := blockNumber sent, rawData := raw })) server =
      (.ok (Apdu.actionResponseNextBytes (makeInvokeIdAndPriority invokeId clientOptions)
          (blockNumber sent)),
        { server with
          actionBlocks := collectingAction invokeId (servedOptions serverOptions clientOptions)
            descriptor (blockNumber (sent + 1)) (collected ++ raw) }) := by
  have hiip := invokeId_of_valid invokeId hvalid clientOptions
  have hroom := room_of_le _ _ _ hsize
  simp [processService, processActionRequest, hcollecting, collectingAction, servedOptions, hiip,
    hroom, encodeActionNextPblockResponse_eq, blockNumber_succ]

/-- The last block completes the parameter. -/
theorem serve_actionRequestLastBlock :
    processService handler serverOptions
        (.actionRequest (.withPblock (makeInvokeIdAndPriority invokeId clientOptions)
          { lastBlock := true, blockNumber := blockNumber sent, rawData := raw })) server =
      ((validateAndAnswerAction handler
          (actionIndication invokeId serverOptions clientOptions descriptor none)
          (collected ++ raw) server.device).1,
        { server with
          actionBlocks := {}
          device := (validateAndAnswerAction handler
            (actionIndication invokeId serverOptions clientOptions descriptor none)
            (collected ++ raw) server.device).2 }) := by
  have hiip := invokeId_of_valid invokeId hvalid clientOptions
  have hroom := room_of_le _ _ _ hsize
  simp only [processService, processActionRequest, hcollecting, collectingAction, servedOptions,
    Bool.not_true, Bool.false_eq_true, if_false, hiip, ne_eq, not_true_eq_false, hroom]
  rfl

end Collecting

end Serve

/-! ### The rounds of a transfer -/

section Transfer

variable {σ τ δ : Type} (handler : XdlmsServerHandler δ)
  (serverOptions clientOptions : ServiceOptions) (invokeId : UInt8)
  (descriptor : CosemMethodDescriptor) (responses : Nat)

/-- The last exchange of an ACTION, whose response has the result. -/
def finalExchange (iip : UInt8) (request : Apdu.ActionRequest)
    (state : XdlmsClientState (Peer σ δ) τ) : Option (Outcome (Peer σ δ) τ ActionResult) :=
  match receiveActionResponse (connected handler serverOptions) (.actionRequest request) state with
  | (.error status, state) => some (.error status, {}, state)
  | (.ok response, state) =>
      copyFinalActionResponse (connected handler serverOptions) invokeId iip clientOptions
        response responses state

theorem actionNormal_eq (parameter : Option DlmsData) (state : XdlmsClientState (Peer σ δ) τ) :
    actionNormal (connected handler serverOptions) invokeId descriptor parameter clientOptions
        responses state =
      finalExchange handler serverOptions clientOptions invokeId responses
        (makeInvokeIdAndPriority invokeId clientOptions)
        (.normal (makeInvokeIdAndPriority invokeId clientOptions)
          ⟨toApduMethodDescriptor descriptor, parameter⟩) state := by
  unfold actionNormal finalExchange
  dsimp only
  rcases receiveActionResponse (connected handler serverOptions) _ state with
    ⟨status | response, after⟩
  · rfl
  · rfl

/-- The call returns, whatever its status, and the server has served the
    request. -/
theorem finalExchange_of_answersNormally (iip : UInt8) (request received : Apdu.ActionRequest)
    (requestApdu : Bytes) (state : XdlmsClientState (Peer σ δ) τ)
    (hencode : Apdu.encodeXdlmsApdu (.actionRequest request) = .ok requestApdu)
    (hrequest : Apdu.decodeXdlmsApdu requestApdu = .ok (.actionRequest received))
    (hnormal : AnswersNormally
      (processService handler serverOptions (.actionRequest received) state.channel.server).1) :
    ∃ outcome, finalExchange handler serverOptions clientOptions invokeId responses iip request
        state = some outcome ∧
      outcome.2.2.channel.server =
        (processService handler serverOptions (.actionRequest received)
          state.channel.server).2 := by
  unfold finalExchange receiveActionResponse
  rcases hserved : processService handler serverOptions (.actionRequest received)
    state.channel.server with ⟨status | responseApdu, after⟩
  · rw [sendAndReceive_of_failed handler serverOptions state _ _ _ _ _ hencode hrequest hserved]
    exact ⟨_, rfl, rfl⟩
  · rcases hdecoded : Apdu.decodeXdlmsApdu responseApdu with status | apdu
    · rw [sendAndReceive_of_undecodable handler serverOptions state _ _ _ _ _ _ hencode hrequest
        hserved hdecoded]
      exact ⟨_, rfl, rfl⟩
    · rw [hserved] at hnormal
      rcases hnormal responseApdu apdu rfl hdecoded with ⟨responseIip, item, hitem⟩
      rw [hitem] at hdecoded
      rw [sendAndReceive_of_served handler serverOptions state _ _ _ _ _ _ hencode hrequest
        hserved hdecoded]
      exact ⟨_, rfl, rfl⟩

/-- The request of one round. -/
def actionBlockRequest (payload : Nat) (iip : UInt8) (number : UInt32) (rest : Bytes) :
    Apdu.ActionRequest :=
  if number = 1 then
    .withFirstPblock iip (toApduMethodDescriptor descriptor) (splitBlock payload number rest)
  else
    .withPblock iip (splitBlock payload number rest)

section Round

variable (iip : UInt8) (rounds : Nat) (rest : Bytes) (number : UInt32)
  (state : XdlmsClientState (Peer σ δ) τ)

/-- A client that gets no response stops. -/
theorem sendActionBlocks_of_error (status : XdlmsStatus)
    (after : XdlmsClientState (Peer σ δ) τ)
    (hsent : sendAndReceive (connected handler serverOptions)
      (.actionRequest (actionBlockRequest descriptor clientOptions.maxActionBlockPayloadBytes iip
        number rest)) state = (.error status, after)) :
    sendActionBlocks (connected handler serverOptions) invokeId iip descriptor clientOptions
      responses (rounds + 1) rest number state = some (.error status, {}, after) := by
  rw [actionBlockRequest, splitBlock] at hsent
  rw [sendActionBlocks]
  simp [receiveActionResponse, hsent]

/-- The last block is the last exchange. -/
theorem sendActionBlocks_of_last
    (hlast : rest.length ≤ clientOptions.maxActionBlockPayloadBytes) :
    sendActionBlocks (connected handler serverOptions) invokeId iip descriptor clientOptions
        responses (rounds + 1) rest number state =
      finalExchange handler serverOptions clientOptions invokeId responses iip
        (actionBlockRequest descriptor clientOptions.maxActionBlockPayloadBytes iip number rest)
        state := by
  have hfinal : (min rest.length clientOptions.maxActionBlockPayloadBytes == rest.length) = true :=
    beq_iff_eq.mpr (Nat.min_eq_left hlast)
  rw [sendActionBlocks, finalExchange, actionBlockRequest, splitBlock]
  simp only [hfinal, if_true]
  rcases receiveActionResponse (connected handler serverOptions) _ state with
    ⟨status | response, after⟩
  · rfl
  · rfl

/-- After a response that asks for the next block the client sends it. -/
theorem sendActionBlocks_of_next (after : XdlmsClientState (Peer σ δ) τ)
    (hinvoke : iip &&& 0x0F = invokeId)
    (hmore : clientOptions.maxActionBlockPayloadBytes < rest.length)
    (hsent : sendAndReceive (connected handler serverOptions)
      (.actionRequest (actionBlockRequest descriptor clientOptions.maxActionBlockPayloadBytes iip
        number rest)) state = (.ok (.actionResponse (.nextPblock iip number)), after)) :
    sendActionBlocks (connected handler serverOptions) invokeId iip descriptor clientOptions
        responses (rounds + 1) rest number state =
      sendActionBlocks (connected handler serverOptions) invokeId iip descriptor clientOptions
        responses rounds (rest.drop clientOptions.maxActionBlockPayloadBytes) (number + 1)
        after := by
  have hsize : min rest.length clientOptions.maxActionBlockPayloadBytes =
      clientOptions.maxActionBlockPayloadBytes := Nat.min_eq_right (Nat.le_of_lt hmore)
  have hfinal : (clientOptions.maxActionBlockPayloadBytes == rest.length) = false :=
    beq_eq_false_iff_ne.mpr (Nat.ne_of_lt hmore)
  rw [actionBlockRequest, splitBlock, hsize, hfinal] at hsent
  rw [sendActionBlocks]
  simp [hsize, hfinal, receiveActionResponse, hsent, validateActionNextPblockResponse, hinvoke]

end Round

/-- The client, whose server has collected so much of a parameter. -/
def XdlmsClientState.collectingAction (sent : Nat) (collected : Bytes)
    (state : XdlmsClientState (Peer σ δ) τ) : XdlmsClientState (Peer σ δ) τ :=
  { state with
    channel :=
      { server :=
          { state.channel.server with
            actionBlocks := Xdlms.collectingAction invokeId
              (servedOptions serverOptions clientOptions) descriptor (blockNumber sent)
              collected } } }

@[simp] theorem XdlmsClientState.collectingAction_device (sent : Nat) (collected : Bytes)
    (state : XdlmsClientState (Peer σ δ) τ) :
    (state.collectingAction serverOptions clientOptions invokeId descriptor sent
      collected).channel.server.device = state.channel.server.device := rfl

/-- After a block that is not the last the server asks for the next, and has one
    more. -/
theorem sendActionBlocks_next (state : XdlmsClientState (Peer σ δ) τ) (data : Bytes)
    (hvalid : validateInvokeId invokeId = .ok ())
    (hserver : data.length ≤ serverOptions.maxBlockTransferBytes)
    (hlimit : clientOptions.maxActionBlockPayloadBytes ≤ actionBlockLimit)
    (rounds sent : Nat) (collected rest : Bytes)
    (h : Underway data clientOptions.maxActionBlockPayloadBytes sent collected rest)
    (hlast : clientOptions.maxActionBlockPayloadBytes < rest.length)
    (hbelow : sent < blockNumbers) :
    sendActionBlocks (connected handler serverOptions) invokeId
        (makeInvokeIdAndPriority invokeId clientOptions) descriptor clientOptions responses
        (rounds + 1) rest (blockNumber sent)
        (state.collectingAction serverOptions clientOptions invokeId descriptor sent collected) =
      sendActionBlocks (connected handler serverOptions) invokeId
        (makeInvokeIdAndPriority invokeId clientOptions) descriptor clientOptions responses rounds
        (rest.drop clientOptions.maxActionBlockPayloadBytes) (blockNumber (sent + 1))
        (state.collectingAction serverOptions clientOptions invokeId descriptor (sent + 1)
          (collected ++ rest.take clientOptions.maxActionBlockPayloadBytes)) := by
  have hlength := h.length
  have htake : (rest.take clientOptions.maxActionBlockPayloadBytes).length =
      clientOptions.maxActionBlockPayloadBytes := by
    rw [List.length_take, Nat.min_eq_left (Nat.le_of_lt hlast)]
  have hraw : (rest.take clientOptions.maxActionBlockPayloadBytes).length ≤ actionBlockLimit := by
    omega
  have hserved := serve_actionRequestBlock handler serverOptions clientOptions invokeId
    descriptor (state.collectingAction serverOptions clientOptions invokeId descriptor sent
      collected).channel.server hvalid sent collected
    (rest.take clientOptions.maxActionBlockPayloadBytes) rfl (by
      have hblocks := h.blocks
      omega)
  rw [sendActionBlocks_of_next handler serverOptions clientOptions invokeId descriptor
    responses _ rounds rest _ _ _ (invokeId_of_valid invokeId hvalid clientOptions) hlast (by
      rw [actionBlockRequest, if_neg (blockNumber_ne_one sent h.opened hbelow),
        splitBlock_more _ _ rest hlast]
      exact sendAndReceive_of_served handler serverOptions _ _ _ _ _ _ _
        (encode_actionRequestBlock _ _ hraw) (decode_actionRequestBlock _ _ hraw) hserved
        (decode_actionResponseNext _ _)), blockNumber_succ]
  rfl

end Transfer

/-! ### The whole call -/

/-- A parameter has to decode. One of at most one payload is sent in one
    request, which has to fit. A longer one goes in blocks, which have to be
    allowed, to fit and to have numbers. -/
def ActionFits (clientOptions : ServiceOptions) (data : Bytes) : Prop :=
  Decodable data ∧
    if data.length ≤ clientOptions.maxActionBlockPayloadBytes then
      data.length ≤ actionValueLimit
    else
      clientOptions.allowBlockTransfer = true ∧ 0 < clientOptions.maxActionBlockPayloadBytes ∧
        clientOptions.maxActionBlockPayloadBytes ≤ actionBlockLimit ∧
        data.length ≤ blockNumbers * clientOptions.maxActionBlockPayloadBytes

section Action

variable {σ τ δ : Type} (handler : XdlmsServerHandler δ)
  (serverOptions clientOptions : ServiceOptions) (descriptor : CosemMethodDescriptor)
  (data : Bytes) (depth : Nat) (value : DlmsData) (responses : Nat)
  (state : XdlmsClientState (Peer σ δ) τ)
  (hdescriptor : validateMethodDescriptor descriptor = .ok ())
include hdescriptor

section Whole

variable (hwhole : data.length ≤ clientOptions.maxActionBlockPayloadBytes)
include hwhole

/-- A parameter the client decodes is sent in one request. -/
theorem action_whole (hvalue : CanonicalData maximumDataDepth data value) :
    action (connected handler serverOptions) descriptor (some data) clientOptions responses
        state =
      finalExchange handler serverOptions clientOptions state.invokeIds.next responses
        (makeInvokeIdAndPriority state.invokeIds.next clientOptions)
        (.normal (makeInvokeIdAndPriority state.invokeIds.next clientOptions)
          ⟨toApduMethodDescriptor descriptor, some value⟩)
        { state with invokeIds := state.invokeIds.take.2 } := by
  rw [← actionNormal_eq handler serverOptions clientOptions state.invokeIds.next descriptor]
  simp only [action, hdescriptor, if_pos hwhole, clientDecode_of_canonicalData data value hvalue,
    connected, Bool.not_true, Bool.false_eq_true, if_false]
  rfl

/-- A parameter the client cannot decode is not sent. -/
theorem action_undecodable (hdecodable : ¬ Decodable data) :
    ∃ outcome, action (connected handler serverOptions) descriptor (some data) clientOptions
      responses state = some outcome ∧ outcome.2.2 = state := by
  rcases clientDecode_of_not_decodable data hdecodable with ⟨status, hstatus⟩
  simp only [action, hdescriptor, if_pos hwhole, hstatus]
  exact ⟨_, rfl, rfl⟩

theorem device_action_whole (hconfirmed : clientOptions.confirmed = true)
    (hvalue : CanonicalData maximumDataDepth data value)
    (hsize : data.length ≤ actionValueLimit) :
    ∃ outcome, action (connected handler serverOptions) descriptor (some data) clientOptions
        responses state = some outcome ∧
      outcome.2.2.channel.server.device =
        (handler.handleAction
          (actionIndication state.invokeIds.next serverOptions clientOptions descriptor
            (some data)) state.channel.server.device).2 := by
  rw [actionValueLimit] at hsize
  have hserved := serve_actionRequestNormal handler serverOptions clientOptions
    state.invokeIds.next descriptor state.channel.server state.invokeIds.valid hconfirmed data
    value hvalue (by rw [dataBufferSize]; omega)
  -- An empty parameter would have been refused by the client.
  have hparameter : (some data : Option Bytes) ≠ some [] := by
    rw [ne_eq, Option.some.injEq]
    exact ne_nil_of_canonicalData _ _ _ hvalue
  have hencode := encode_actionRequestNormal
    (makeInvokeIdAndPriority state.invokeIds.next clientOptions)
    (toApduMethodDescriptor descriptor) _ data value hvalue
  rw [Apdu.bounded_of_le _ (by
    rw [length_actionRequestNormalBytes, Apdu.apduBufferSize]
    omega)] at hencode
  have hdecode := decode_actionRequestNormal
    (makeInvokeIdAndPriority state.invokeIds.next clientOptions)
    (toApduMethodDescriptor descriptor) data value hvalue.1
  -- The answer is read by the client in whatever way; the device has been called by then.
  have hnormal := answersNormally_answerAction handler
    (actionIndication state.invokeIds.next serverOptions clientOptions descriptor (some data))
    state.channel.server.device
  rw [action_whole handler serverOptions clientOptions descriptor data value responses state
    hdescriptor hwhole hvalue]
  rcases finalExchange_of_answersNormally handler serverOptions clientOptions
    state.invokeIds.next responses (makeInvokeIdAndPriority state.invokeIds.next clientOptions) _ _
    _ { state with invokeIds := state.invokeIds.take.2 } hencode hdecode
    (by rw [hserved]; exact hnormal) with ⟨outcome, houtcome, hdevice⟩
  refine ⟨outcome, houtcome, ?_⟩
  rw [hdevice, hserved]
  exact device_answerAction handler _ _ state.invokeIds.valid hdescriptor hparameter

/-- One that does not fit into a request is not sent either. -/
theorem action_whole_tooLarge (hvalue : CanonicalData maximumDataDepth data value)
    (hsize : actionValueLimit < data.length) :
    ∃ outcome, action (connected handler serverOptions) descriptor (some data) clientOptions
      responses state = some outcome ∧ outcome.2.2.channel = state.channel := by
  rw [actionValueLimit] at hsize
  rw [action_whole handler serverOptions clientOptions descriptor data value responses state
    hdescriptor hwhole hvalue, finalExchange, receiveActionResponse]
  rw [sendAndReceive_of_too_large handler serverOptions _ _ _
    ((encode_actionRequestNormal _ _ _ _ _ hvalue).trans (Apdu.bounded_of_lt _ (by
      rw [length_actionRequestNormalBytes, Apdu.apduBufferSize]
      omega)))]
  exact ⟨_, rfl, rfl⟩

end Whole

section Blocks

variable (hlong : clientOptions.maxActionBlockPayloadBytes < data.length)
include hlong

/-- A longer parameter goes in blocks when they are allowed and hold
    something. -/
theorem action_blocks (hpos : 0 < clientOptions.maxActionBlockPayloadBytes)
    (hallow : clientOptions.allowBlockTransfer = true) :
    action (connected handler serverOptions) descriptor (some data) clientOptions responses
        state =
      sendActionBlocks (connected handler serverOptions) state.invokeIds.next
        (makeInvokeIdAndPriority state.invokeIds.next clientOptions) descriptor clientOptions
        responses (data.length - 1 + 1) data (blockNumber 0)
        { state with invokeIds := state.invokeIds.take.2 } := by
  have hmore : ¬ data.length ≤ clientOptions.maxActionBlockPayloadBytes := Nat.not_le.mpr hlong
  have hsome : clientOptions.maxActionBlockPayloadBytes ≠ 0 := Nat.pos_iff_ne_zero.mp hpos
  rw [Nat.sub_add_cancel (by omega)]
  simp only [action, hdescriptor, connected, hmore, hsome, hallow, if_false, Bool.not_true,
    Bool.false_eq_true]
  rfl

section Reaches

variable (hpos : 0 < clientOptions.maxActionBlockPayloadBytes)
  (hallow : clientOptions.allowBlockTransfer = true)
  (hlimit : clientOptions.maxActionBlockPayloadBytes ≤ actionBlockLimit)
  (hconfirmed : clientOptions.confirmed = true)
  (hidle : state.channel.server.actionBlocks.active = false)
  (hserver : data.length ≤ serverOptions.maxBlockTransferBytes)
include hpos hallow hlimit hconfirmed hidle hserver

/-- The first block opens the transfer, and the rest of them follow it up to the
    last one, or until the numbers are used up. -/
theorem action_blocks_reaches :
    ∃ rounds sent collected rest,
      Underway data clientOptions.maxActionBlockPayloadBytes sent collected rest ∧
      (sent = blockNumbers ∨
        sent < blockNumbers ∧ rest.length ≤ clientOptions.maxActionBlockPayloadBytes) ∧
      action (connected handler serverOptions) descriptor (some data) clientOptions responses
          state =
        sendActionBlocks (connected handler serverOptions) state.invokeIds.next
          (makeInvokeIdAndPriority state.invokeIds.next clientOptions) descriptor clientOptions
          responses (rounds + 1) rest (blockNumber sent)
          (XdlmsClientState.collectingAction serverOptions clientOptions state.invokeIds.next
            descriptor sent collected { state with invokeIds := state.invokeIds.take.2 }) := by
  have hvalid := state.invokeIds.valid
  have hraw : (data.take clientOptions.maxActionBlockPayloadBytes).length ≤
      actionBlockLimit := by
    rw [List.length_take]
    omega
  have hserved := serve_actionRequestFirstBlock handler serverOptions clientOptions
    state.invokeIds.next descriptor state.channel.server hvalid hconfirmed hidle
    (data.take clientOptions.maxActionBlockPayloadBytes) (by rw [List.length_take]; omega)
  rw [action_blocks handler serverOptions clientOptions descriptor data responses state hdescriptor
    hlong hpos hallow]
  rw [sendActionBlocks_of_next handler serverOptions clientOptions state.invokeIds.next descriptor
    responses (makeInvokeIdAndPriority state.invokeIds.next clientOptions) (data.length - 1) data
    (blockNumber 0) { state with invokeIds := state.invokeIds.take.2 } _
    (invokeId_of_valid _ hvalid clientOptions) hlong (by
      rw [actionBlockRequest, if_pos blockNumber_zero, splitBlock_more _ _ data hlong]
      exact sendAndReceive_of_served handler serverOptions _ _ _ _ _ _ _
        (encode_actionRequestFirstBlock _ _ _ hraw) (decode_actionRequestFirstBlock _ _ _ hraw)
        hserved (decode_actionResponseNext _ _)), blockNumber_succ]
  exact reaches_of_next data clientOptions.maxActionBlockPayloadBytes hpos
    (fun rounds sent collected rest => sendActionBlocks (connected handler serverOptions)
      state.invokeIds.next (makeInvokeIdAndPriority state.invokeIds.next clientOptions) descriptor
      clientOptions responses rounds rest (blockNumber sent)
      (XdlmsClientState.collectingAction serverOptions clientOptions state.invokeIds.next descriptor
        sent collected { state with invokeIds := state.invokeIds.take.2 }))
    (sendActionBlocks_next handler serverOptions clientOptions state.invokeIds.next descriptor
      responses _ data hvalid hserver hlimit) (data.length - 1) 1 _ _
    (by rw [List.length_drop]; omega) (underway_first data _ hlong)

/-- The parameter is validated and dispatched when the numbers last for its
    blocks. -/
theorem device_action_blocks :
    ∃ outcome, action (connected handler serverOptions) descriptor (some data) clientOptions
        responses state = some outcome ∧
      outcome.2.2.channel.server.device =
        if data.length ≤ blockNumbers * clientOptions.maxActionBlockPayloadBytes then
          (validateAndAnswerAction handler
            (actionIndication state.invokeIds.next serverOptions clientOptions descriptor none)
            data state.channel.server.device).2
        else
          state.channel.server.device := by
  have hvalid := state.invokeIds.valid
  rcases action_blocks_reaches handler serverOptions clientOptions descriptor data responses state
    hdescriptor hlong hpos hallow hlimit hconfirmed hidle hserver with
      ⟨rounds, sent, collected, rest, h, hend, haction⟩
  have hlength := h.length
  have hmore : 0 < rest.length := List.length_pos_iff.mpr h.more
  have hraw : (splitBlock clientOptions.maxActionBlockPayloadBytes (blockNumber sent)
      rest).rawData.length ≤ actionBlockLimit :=
    Nat.le_trans (length_splitBlock_le _ _ rest) hlimit
  rw [haction]
  rcases hend with hwraps | ⟨hbelow, hlast⟩
  · -- The number is one again, so the client opens another transfer.
    rw [hwraps] at hlength hraw ⊢
    rw [if_neg (by omega), sendActionBlocks_of_error handler serverOptions clientOptions _
      descriptor responses _ rounds rest _ _ _ _ (by
        rw [actionBlockRequest, if_pos blockNumber_wraps]
        exact sendAndReceive_of_failed handler serverOptions _ _ _ _ _ _
          (encode_actionRequestFirstBlock _ _ _ hraw) (decode_actionRequestFirstBlock _ _ _ hraw)
          (serve_actionRequestFirstBlock_active handler serverOptions descriptor _ _ _ rfl))]
    exact ⟨_, rfl, rfl⟩
  · -- With the last block the server has the whole parameter.
    have hbound := Nat.mul_le_mul_right clientOptions.maxActionBlockPayloadBytes hbelow
    rw [Nat.succ_mul] at hbound
    have hserved := serve_actionRequestLastBlock handler serverOptions clientOptions
      state.invokeIds.next descriptor
      (XdlmsClientState.collectingAction serverOptions clientOptions state.invokeIds.next
        descriptor sent collected state).channel.server hvalid sent collected rest rfl (by
          rw [h.blocks]
          omega)
    rw [splitBlock_last _ _ rest hlast] at hraw
    rw [if_pos (by omega), sendActionBlocks_of_last handler serverOptions clientOptions _
      descriptor responses _ rounds rest _ _ hlast, actionBlockRequest,
      if_neg (blockNumber_ne_one sent h.opened hbelow), splitBlock_last _ _ rest hlast]
    rcases finalExchange_of_answersNormally handler serverOptions clientOptions
      state.invokeIds.next responses (makeInvokeIdAndPriority state.invokeIds.next clientOptions) _
      _ _ (XdlmsClientState.collectingAction serverOptions clientOptions state.invokeIds.next
        descriptor sent collected { state with invokeIds := state.invokeIds.take.2 })
      (encode_actionRequestBlock _ _ hraw) (decode_actionRequestBlock _ _ hraw) (by
        rw [XdlmsClientState.collectingAction] at hserved ⊢
        rw [hserved]
        exact answersNormally_validateAndAnswerAction handler _ _ _) with
      ⟨outcome, houtcome, hdevice⟩
    refine ⟨outcome, houtcome, ?_⟩
    rw [XdlmsClientState.collectingAction] at hserved hdevice
    rw [hdevice, hserved, ← h.whole]

end Reaches

/-- A block that does not fit is not sent, nor is anything after it. -/
theorem action_blocks_tooLarge
    (hlimit : actionBlockLimit < clientOptions.maxActionBlockPayloadBytes)
    (hallow : clientOptions.allowBlockTransfer = true) :
    ∃ outcome, action (connected handler serverOptions) descriptor (some data) clientOptions
      responses state = some outcome ∧ outcome.2.2.channel = state.channel := by
  have hraw : actionBlockLimit <
      (data.take clientOptions.maxActionBlockPayloadBytes).length := by
    rw [List.length_take]
    omega
  rw [action_blocks handler serverOptions clientOptions descriptor data responses state hdescriptor
    hlong (by omega) hallow]
  rw [sendActionBlocks_of_error handler serverOptions clientOptions state.invokeIds.next descriptor
    responses (makeInvokeIdAndPriority state.invokeIds.next clientOptions) (data.length - 1) data
    (blockNumber 0) { state with invokeIds := state.invokeIds.take.2 } _ _ (by
      rw [actionBlockRequest, if_pos blockNumber_zero, splitBlock_more _ _ data hlong]
      exact sendAndReceive_of_too_large handler serverOptions _ _ _
        (encode_actionRequestFirstBlock_tooLarge _ _ _ hraw))]
  exact ⟨_, rfl, rfl⟩

end Blocks

section Device

variable (hvalue : CanonicalData depth data value) (hconfirmed : clientOptions.confirmed = true)
  (hidle : state.channel.server.actionBlocks.active = false)
  (hserver : data.length ≤ serverOptions.maxBlockTransferBytes)
include hvalue hconfirmed hidle hserver

theorem device_action_of_fits (hfits : ActionFits clientOptions data) :
    ∃ outcome, action (connected handler serverOptions) descriptor (some data) clientOptions
        responses state = some outcome ∧
      outcome.2.2.channel.server.device =
        (handler.handleAction
          (actionIndication state.invokeIds.next serverOptions clientOptions descriptor
            (some data)) state.channel.server.device).2 := by
  rcases hfits with ⟨hdecodable, hfits⟩
  by_cases hwhole : data.length ≤ clientOptions.maxActionBlockPayloadBytes
  · rw [if_pos hwhole] at hfits
    rcases hdecodable with ⟨decoded, hdecoded⟩
    exact device_action_whole handler serverOptions clientOptions descriptor data decoded responses
      state hdescriptor hwhole hconfirmed (Apdu.canonicalData_of_decodes _ _ _ _ _ hvalue hdecoded)
      hfits
  · rw [if_neg hwhole] at hfits
    rcases hfits with ⟨hallow, hpos, hlimit, hnumbers⟩
    rcases device_action_blocks handler serverOptions clientOptions descriptor data responses state
      hdescriptor (Nat.lt_of_not_le hwhole) hpos hallow hlimit hconfirmed hidle hserver with
      ⟨outcome, houtcome, hdevice⟩
    refine ⟨outcome, houtcome, ?_⟩
    rw [hdevice, if_pos hnumbers]
    exact device_validateAndAnswerAction_of_decodable handler _ data _ hdecodable
      (ne_nil_of_canonicalData _ _ _ hvalue) state.invokeIds.valid hdescriptor

theorem device_action_of_not_fits (hfits : ¬ ActionFits clientOptions data) :
    ∃ outcome, action (connected handler serverOptions) descriptor (some data) clientOptions
        responses state = some outcome ∧
      outcome.2.2.channel.server.device = state.channel.server.device := by
  rw [ActionFits] at hfits
  by_cases hwhole : data.length ≤ clientOptions.maxActionBlockPayloadBytes
  · rw [if_pos hwhole] at hfits
    by_cases hdecodable : Decodable data
    · rcases hdecodable with ⟨decoded, hdecoded⟩
      have hlarge : actionValueLimit < data.length :=
        Nat.lt_of_not_le fun hsize => hfits ⟨⟨decoded, hdecoded⟩, hsize⟩
      rcases action_whole_tooLarge handler serverOptions clientOptions descriptor data decoded
        responses state hdescriptor hwhole
        (Apdu.canonicalData_of_decodes _ _ _ _ _ hvalue hdecoded) hlarge with
        ⟨outcome, houtcome, hchannel⟩
      exact ⟨outcome, houtcome, by rw [hchannel]⟩
    · rcases action_undecodable handler serverOptions clientOptions descriptor data responses state
        hdescriptor hwhole hdecodable with ⟨outcome, houtcome, hstate⟩
      exact ⟨outcome, houtcome, by rw [hstate]⟩
  · rw [if_neg hwhole] at hfits
    have hlong := Nat.lt_of_not_le hwhole
    -- The conditions in the order in which the client comes upon them.
    rcases Nat.eq_zero_or_pos clientOptions.maxActionBlockPayloadBytes with hzero | hpos
    · simp only [action, hdescriptor]
      rw [if_neg hwhole, if_pos hzero]
      exact ⟨_, rfl, rfl⟩
    · cases hallow : clientOptions.allowBlockTransfer with
      | false =>
          simp only [action, hdescriptor]
          rw [if_neg hwhole, if_neg (by omega), hallow]
          exact ⟨_, rfl, rfl⟩
      | true =>
          by_cases hlimit : clientOptions.maxActionBlockPayloadBytes ≤ actionBlockLimit
          · rcases device_action_blocks handler serverOptions clientOptions descriptor data
              responses state hdescriptor hlong hpos hallow hlimit hconfirmed hidle hserver with
              ⟨outcome, houtcome, hdevice⟩
            refine ⟨outcome, houtcome, ?_⟩
            rw [hdevice]
            by_cases hnumbers : data.length ≤
                blockNumbers * clientOptions.maxActionBlockPayloadBytes
            · rw [if_pos hnumbers]
              exact device_validateAndAnswerAction_of_not_decodable handler _ data _
                fun hdecodable => hfits ⟨hdecodable, hallow, hpos, hlimit, hnumbers⟩
            · rw [if_neg hnumbers]
          · rcases action_blocks_tooLarge handler serverOptions clientOptions descriptor data
              responses state hdescriptor hlong (Nat.lt_of_not_le hlimit) hallow with
              ⟨outcome, houtcome, hchannel⟩
            exact ⟨outcome, houtcome, by rw [hchannel]⟩

end Device

end Action

end Xdlms

end Dlms
