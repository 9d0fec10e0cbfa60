import Dlms.Xdlms.Exchange

/-!
# A GET from end to end

The server serves a long answer from an offset; the client collects it in a
buffer. The invariant of a transfer is that the two agree: what the client has,
with the block on its way, is what the server has served, and the client waits
for the number of that block. Every round keeps it, whatever the length of the
data and the size of a block, so the client ends up with the handler's bytes.

What can go wrong is the size of one APDU. The buffers of the codec hold 2048
bytes, and a payload or an answer that does not fit with its header in them is
lost, whatever block size and PDU size were agreed.

## Main definitions

* `getIndication`: What the handler is asked.
* `serving`: The server's state in the middle of a transfer.
* `GetFits`: The sizes at which every response of the transfer fits.

## Theorems

* `serve_next`: One round of the server.
* `collectGetBlocks_serving`: The rounds from any point of a transfer.
* `get_delivers_iff`: A GET ends with exactly the handler's bytes when its
  responses fit, and only then.
-/

namespace Dlms

namespace Xdlms

open Apdu (Bytes DlmsData DataBlock XdlmsApdu CanonicalData maximumDataDepth)

def getIndication (invokeId : UInt8) (serverOptions clientOptions : ServiceOptions)
    (descriptor : CosemAttributeDescriptor) : GetIndication where
  invokeId := invokeId
  options := servedOptions serverOptions clientOptions
  descriptor := descriptor

/-! ### The requests of a client -/

section Requests

variable (iip : UInt8)

theorem encode_getRequestNormal (descriptor : Apdu.CosemAttributeDescriptor) :
    Apdu.encodeXdlmsApdu (.getRequest (.normal iip ⟨descriptor, none⟩)) =
      .ok (Apdu.getRequestNormalBytes iip descriptor) := by
  rw [Apdu.encodeXdlmsApdu_getRequest _ _ (Apdu.writes_getRequest_normal _ _)]
  refine Apdu.bounded_of_le _ ?_
  simp only [Apdu.getRequestNormalBytes, Apdu.length_serviceApduBytes, List.length_append,
    Apdu.length_attributeDescriptorBytes, List.length_cons, List.length_nil]
  decide

theorem decode_getRequestNormal (descriptor : Apdu.CosemAttributeDescriptor) :
    Apdu.decodeXdlmsApdu (Apdu.getRequestNormalBytes iip descriptor) =
      .ok (.getRequest (.normal iip ⟨descriptor, none⟩)) := by
  have hdecoded := Apdu.decodeGetRequest_normal maximumDataDepth iip descriptor
  rw [Apdu.getRequestNormalBytes] at hdecoded ⊢
  rw [Apdu.decodeXdlmsApdu_getRequest, hdecoded]
  rfl

theorem encode_getRequestNext (blockNumber : UInt32) :
    Apdu.encodeXdlmsApdu (.getRequest (.next iip blockNumber)) =
      .ok (Apdu.getRequestNextBytes iip blockNumber) := by
  rw [Apdu.encodeXdlmsApdu_getRequest _ _ (Apdu.writes_getRequest_next _ _)]
  refine Apdu.bounded_of_le _ ?_
  simp only [Apdu.getRequestNextBytes, Apdu.length_serviceApduBytes, Codec.length_beBytes]
  decide

theorem decode_getRequestNext (blockNumber : UInt32) :
    Apdu.decodeXdlmsApdu (Apdu.getRequestNextBytes iip blockNumber) =
      .ok (.getRequest (.next iip blockNumber)) := by
  have hdecoded := Apdu.decodeGetRequest_next maximumDataDepth iip blockNumber
  rw [Apdu.getRequestNextBytes] at hdecoded ⊢
  rw [Apdu.decodeXdlmsApdu_getRequest, hdecoded]
  rfl

end Requests

/-! ### The rounds of a transfer -/

/-- The server in the middle of a transfer: it has served the bytes before the
    offset, and the next block has this number. -/
def serving (invokeId : UInt8) (options : ServiceOptions) (data : Bytes) (offset : Nat)
    (number : UInt32) : GetResponseBlockState where
  active := true
  invokeId := invokeId
  options := options
  nextBlockNumber := number
  offset := offset
  data := data

section Transfer

variable {σ τ δ : Type} (handler : XdlmsServerHandler δ) (serverOptions : ServiceOptions)
  (invokeId : UInt8) (options : ServiceOptions) (data : Bytes)

/-- The next block goes out, and the offset moves over it, or the transfer is
    over. -/
theorem sendNext_serving (offset : Nat) (number : UInt32) (hoffset : offset < data.length)
    (hpos : 0 < options.maxGetBlockPayloadBytes)
    (hlimit : options.maxGetBlockPayloadBytes ≤ getBlockLimit) :
    ∃ raw, raw ≠ [] ∧ data.take offset ++ raw = data.take (offset + raw.length) ∧
      offset + raw.length ≤ data.length ∧ raw.length ≤ getBlockLimit ∧
      sendNextGetResponseBlock (serving invokeId options data offset number) =
        (.ok (Apdu.getResponseBlockBytes (makeInvokeIdAndPriority invokeId options)
            { lastBlock := offset + raw.length == data.length
              blockNumber := number
              rawData := raw }),
          if offset + raw.length == data.length then {}
          else serving invokeId options data (offset + raw.length) (number + 1)) := by
  -- Something is left, and so the block is not empty.
  have hsize : ((data.drop offset).take
      (min (data.length - offset) options.maxGetBlockPayloadBytes)).length =
      min (data.length - offset) options.maxGetBlockPayloadBytes := by
    rw [List.length_take, List.length_drop]
    omega
  have hblock : nextGetResponseBlock (serving invokeId options data offset number) =
      { lastBlock := offset + min (data.length - offset) options.maxGetBlockPayloadBytes ==
          data.length
        blockNumber := number
        rawData := (data.drop offset).take
          (min (data.length - offset) options.maxGetBlockPayloadBytes) } := rfl
  refine ⟨(data.drop offset).take (min (data.length - offset) options.maxGetBlockPayloadBytes),
    ?_, ?_, ?_, ?_, ?_⟩
  · intro hnil
    rw [hnil, List.length_nil] at hsize
    omega
  · rw [hsize, List.take_add]
  · omega
  · omega
  · rw [sendNextGetResponseBlock_eq _ rfl hpos hoffset hlimit, hblock, hsize]
    rfl

/-- One round of the server. -/
theorem serve_next (iip : UInt8) (offset : Nat) (number : UInt32) (server : XdlmsServerState σ δ)
    (hinvoke : iip &&& 0x0F = invokeId)
    (hserving : server.getBlocks = serving invokeId options data offset (number + 1)) :
    processService handler serverOptions (.getRequest (.next iip number)) server =
      ((sendNextGetResponseBlock (serving invokeId options data offset (number + 1))).1,
        { server with
          getBlocks :=
            (sendNextGetResponseBlock
              (serving invokeId options data offset (number + 1))).2 }) := by
  have hnumber : number + 1 - 1 = number := UInt32.add_sub_cancel number 1
  simp only [processService, processGetRequest, hserving]
  rw [if_neg (by simp [serving]),
    if_neg (by simp [serving, hinvoke]),
    if_neg (by simp [serving, hnumber])]

/-- From any point of a transfer the client ends up with all of the data, and
    the server with nothing left to serve. What the client has gathered, with
    the block it holds, is what the server has served. -/
theorem collectGetBlocks_serving (hvalid : validateInvokeId invokeId = .ok ()) (iip : UInt8)
    (hiip : iip &&& 0x0F = invokeId) (hpos : 0 < options.maxGetBlockPayloadBytes)
    (hlimit : options.maxGetBlockPayloadBytes ≤ getBlockLimit) (maxBytes : Nat)
    (hmax : data.length ≤ maxBytes) (responses : Nat) :
    ∀ (offset : Nat) (number : UInt32) (gathered raw : Bytes)
      (state : XdlmsClientState (Peer σ δ) τ),
      data.length - offset < responses → offset ≤ data.length →
      gathered ++ raw = data.take offset →
      (state.channel.server.getBlocks =
        if offset == data.length then {}
        else serving invokeId options data offset (number + 1)) →
      ∃ state', (state'.invokeIds = state.invokeIds ∧
        state'.channel.server = { state.channel.server with getBlocks := {} }) ∧
        collectGetBlocks (connected handler serverOptions) invokeId iip responses
          (makeInvokeIdAndPriority invokeId options)
          { lastBlock := offset == data.length, blockNumber := number, rawData := raw }
          { maxBytes := maxBytes, nextBlockNumber := number, data := gathered } state =
        some (.ok (), { invokeId := invokeId, hasData := true, data := data }, state') := by
  -- Each round asks for a block, of which there are fewer than octets left.
  induction responses with
  | zero =>
      intro offset number gathered raw state hrounds
      omega
  | succ responses ih =>
      intro offset number gathered raw state hrounds hoffset hgathered hserver
      have hlength : gathered.length + raw.length = offset := by
        rw [← List.length_append, hgathered, List.length_take]
        omega
      rw [collectGetBlocks, if_neg (by
        rw [invokeId_of_valid invokeId hvalid, ne_eq, not_not])]
      rw [BlockTransferManager.appendBlock, if_neg (by rw [ne_eq, not_not]),
        if_neg (by dsimp only; omega)]
      dsimp only
      rw [hgathered]
      -- The block at hand was the last, or the next one is served.
      by_cases hlast : offset = data.length
      · subst hlast
        rw [beq_self_eq_true] at hserver ⊢
        rw [if_pos rfl] at hserver ⊢
        rw [List.take_length]
        exact ⟨state, ⟨rfl, by rw [← hserver]⟩, rfl⟩
      · have hne : (offset == data.length) = false := beq_eq_false_iff_ne.mpr hlast
        rw [hne] at hserver ⊢
        rw [if_neg Bool.false_ne_true] at hserver ⊢
        rcases sendNext_serving invokeId options data offset (number + 1) (by omega) hpos hlimit
          with ⟨next, hnil, htake, hbound, hfits, hsent⟩
        have hserved := serve_next handler serverOptions invokeId options data iip offset number
          state.channel.server hiip hserver
        rw [hsent] at hserved
        have hdecoded := decode_getResponseBlock (makeInvokeIdAndPriority invokeId options)
          { lastBlock := offset + next.length == data.length
            blockNumber := number + 1
            rawData := next }
          (lt_of_le_getBlockLimit _ hfits)
        rw [receiveGetResponse, sendAndReceive_of_served handler serverOptions state _ _ _ _ _ _
          (encode_getRequestNext iip number) (decode_getRequestNext iip number) hserved hdecoded]
        have hmore : next.length ≠ 0 := fun hzero => hnil (List.length_eq_zero_iff.mp hzero)
        exact ih (offset + next.length) (number + 1) (data.take offset) next
          { state with channel := { server := { state.channel.server with getBlocks := _ } } }
          (by omega) hbound htake rfl

end Transfer

/-! ### The whole call -/

/-- Every response of the transfer has a place in the buffer, and both sides
    allow blocks when there are any. -/
def GetFits (serverOptions clientOptions : ServiceOptions) (size : Nat) : Prop :=
  if size ≤ serverOptions.maxGetBlockPayloadBytes then
    size ≤ getOutputLimit
  else
    serverOptions.allowBlockTransfer = true ∧ clientOptions.allowBlockTransfer = true ∧
      serverOptions.maxGetBlockPayloadBytes ≤ getBlockLimit

section Get

variable {σ τ δ : Type} (handler : XdlmsServerHandler δ)
  (serverOptions clientOptions : ServiceOptions) (descriptor : CosemAttributeDescriptor)
  (result : GetResult)

/-- A handler that is asked about valid numbers answers for the server. -/
theorem dispatchGet_of_valid (indication : GetIndication) (device : δ)
    (answer : Except XdlmsStatus GetResult) (after : δ)
    (hvalid : validateInvokeId indication.invokeId = .ok ())
    (hdescriptor : validateDescriptor indication.descriptor = .ok ())
    (hhandler : handler.handleGet indication device = (answer, after)) :
    dispatchGet handler indication device =
      (answer.map fun result => { result with invokeId := indication.invokeId }, after) := by
  rw [dispatchGet, hvalid, hdescriptor]
  dsimp only
  rw [hhandler]
  cases answer <;> rfl

/-- The server's part of the first round: the handler is asked once, and its
    data is answered whole or as the first block of a transfer. -/
theorem serve_getRequestNormal (invokeId : UInt8) (server : XdlmsServerState σ δ) (device : δ)
    (hvalid : validateInvokeId invokeId = .ok ())
    (hdescriptor : validateDescriptor descriptor = .ok ())
    (hconfirmed : clientOptions.confirmed = true) (hidle : server.getBlocks.active = false)
    (hhandler : handler.handleGet
      (getIndication invokeId serverOptions clientOptions descriptor) server.device =
        (.ok result, device)) :
    let sent := encodeGetResponseOrStartBlocks
      (makeInvokeIdAndPriority invokeId (servedOptions serverOptions clientOptions))
      (getIndication invokeId serverOptions clientOptions descriptor)
      { result with invokeId := invokeId } server.getBlocks
    processService handler serverOptions
        (.getRequest (.normal (makeInvokeIdAndPriority invokeId clientOptions)
          ⟨toApduDescriptor descriptor, none⟩)) server =
      (sent.1, { server with getBlocks := sent.2, device := device }) := by
  have hiip := invokeId_of_valid invokeId hvalid clientOptions
  -- The server reads the indication out of the request as the client has put it in.
  have hdispatched : dispatchGet handler
      { invokeId := invokeId
        options := servedOptions serverOptions clientOptions
        descriptor := toXdlmsDescriptor (toApduDescriptor descriptor) } server.device =
        (.ok { result with invokeId := invokeId }, device) :=
    dispatchGet_of_valid handler (getIndication invokeId serverOptions clientOptions descriptor)
      server.device (.ok result) device hvalid hdescriptor hhandler
  have hserved : (servedOptions serverOptions clientOptions).confirmed = true := hconfirmed
  simp only [processService, processGetRequest, hidle, Bool.false_eq_true, if_false,
    Option.isSome_none, hiip, parseServiceOptions_request, hdispatched, hserved, Bool.not_true]
  rfl

theorem copyEncodedData_of_canonicalData (data : Bytes) (value : DlmsData)
    (hvalue : CanonicalData maximumDataDepth data value) (hsize : data.length ≤ answerBufferSize) :
    copyEncodedData value = .ok data := by
  rw [copyEncodedData, Codec.runEmitter_of_emits _ _ _ _
    (Apdu.writes_of_canonicalData _ _ _ hvalue), if_pos hsize]

section FirstRound

variable (invokeId : UInt8) (responses : Nat) (state : XdlmsClientState (Peer σ δ) τ)
  (server : XdlmsServerState σ δ)

/-- A server that fails the request leaves the call without a result. -/
theorem get_of_failed (status : XdlmsStatus)
    (hfailed : processService handler serverOptions
      (.getRequest (.normal (makeInvokeIdAndPriority invokeId clientOptions)
        ⟨toApduDescriptor descriptor, none⟩)) state.channel.server = (.error status, server)) :
    getWithInvokeId (connected handler serverOptions) invokeId descriptor none clientOptions
        responses state =
      some (.error .receiveFailed, {}, { state with channel := { server := server } }) := by
  rw [getWithInvokeId, makeGetRequestNormal]
  dsimp only
  rw [receiveGetResponse, sendAndReceive_of_failed handler serverOptions state _ _ _ _ _
    (encode_getRequestNormal _ _) (decode_getRequestNormal _ _) hfailed]

theorem get_of_served (responseApdu : Bytes) (response : Apdu.GetResponse)
    (hserved : processService handler serverOptions
      (.getRequest (.normal (makeInvokeIdAndPriority invokeId clientOptions)
        ⟨toApduDescriptor descriptor, none⟩)) state.channel.server = (.ok responseApdu, server))
    (hresponse : Apdu.decodeXdlmsApdu responseApdu = .ok (.getResponse response)) :
    getWithInvokeId (connected handler serverOptions) invokeId descriptor none clientOptions
        responses state =
      finishGet (connected handler serverOptions) invokeId
        (makeInvokeIdAndPriority invokeId clientOptions) clientOptions responses response
        { state with channel := { server := server } } := by
  rw [getWithInvokeId, makeGetRequestNormal]
  dsimp only
  rw [receiveGetResponse, sendAndReceive_of_served handler serverOptions state _ _ _ _ _ _
    (encode_getRequestNormal _ _) (decode_getRequestNormal _ _) hserved hresponse]

end FirstRound

/-- The data is the handler's, and both sides take that much in one transfer. -/
structure GetAgreed : Prop where
  hasData : result.hasData = true
  noAccessResult : result.hasAccessResult = false
  canonical : ∃ value, CanonicalData maximumDataDepth result.data value
  server : result.data.length ≤ serverOptions.maxBlockTransferBytes
  client : result.data.length ≤ clientOptions.maxBlockTransferBytes
  payload : 0 < serverOptions.maxGetBlockPayloadBytes

section Delivery

variable (invokeId : UInt8) (responses : Nat) (state : XdlmsClientState (Peer σ δ) τ) (device : δ)
  (hvalid : validateInvokeId invokeId = .ok ())
  (hdescriptor : validateDescriptor descriptor = .ok ())
  (hconfirmed : clientOptions.confirmed = true)
  (hidle : state.channel.server.getBlocks.active = false)
  (hhandler : handler.handleGet
    (getIndication invokeId serverOptions clientOptions descriptor) state.channel.server.device =
      (.ok result, device))
  (hagreed : GetAgreed serverOptions clientOptions result)
include hvalid hdescriptor hconfirmed hidle hhandler hagreed

/-- An answer that fits is delivered, and leaves the server as it was but for its
    device and a transfer that is over. -/
theorem getWithInvokeId_delivers
    (hfits : GetFits serverOptions clientOptions result.data.length)
    (hresponses : result.data.length ≤ responses) :
    ∃ state', getWithInvokeId (connected handler serverOptions) invokeId descriptor none
        clientOptions responses state =
          some (.ok (), { invokeId := invokeId, hasData := true, data := result.data }, state') ∧
      state'.invokeIds = state.invokeIds ∧
      ∃ getBlocks, getBlocks.active = false ∧ state'.channel.server =
        { state.channel.server with getBlocks := getBlocks, device := device } := by
  rcases hagreed.canonical with ⟨value, hvalue⟩
  have hserved := serve_getRequestNormal handler serverOptions clientOptions descriptor result
    invokeId state.channel.server device hvalid hdescriptor hconfirmed hidle hhandler
  dsimp only at hserved
  rw [GetFits] at hfits
  by_cases hwhole : result.data.length ≤ serverOptions.maxGetBlockPayloadBytes
  · -- One response, after which the server is as it was.
    rw [if_pos hwhole, getOutputLimit] at hfits
    rw [startBlocks_whole _ (getIndication invokeId serverOptions clientOptions descriptor)
      { result with invokeId := invokeId } _ hagreed.hasData value hagreed.noAccessResult hvalue
      hwhole, buffered_of_le _ (by
        rw [length_getResponseDataBytes, Apdu.apduBufferSize]
        dsimp only
        omega)] at hserved
    rw [get_of_served handler serverOptions clientOptions descriptor invokeId responses state _ _
      _ hserved (decode_getResponseData _ _ value hvalue.1), finishGet,
      if_neg (by rw [invokeId_of_valid _ hvalid, ne_eq, not_not])]
    dsimp only
    rw [copyEncodedData_of_canonicalData result.data value hvalue (by
      rw [answerBufferSize]
      omega)]
    exact ⟨_, rfl, rfl, _, hidle, rfl⟩
  · -- The first block comes with the response, and the rest are asked for.
    rw [if_neg hwhole] at hfits
    rcases hfits with ⟨hallow, hclient, hlimit⟩
    rw [startBlocks_allowed _ (getIndication invokeId serverOptions clientOptions descriptor)
      { result with invokeId := invokeId } _ hagreed.hasData (Nat.lt_of_not_le hwhole)
      hagreed.server hallow hagreed.payload] at hserved
    rcases sendNext_serving invokeId (servedOptions serverOptions clientOptions) result.data 0 1
      (by omega) hagreed.payload hlimit with ⟨raw, hnil, htake, hbound, hsize, hsent⟩
    rw [Nat.zero_add] at htake hbound hsent
    change processService _ _ _ _ =
      ((sendNextGetResponseBlock (serving invokeId (servedOptions serverOptions clientOptions)
        result.data 0 1)).1, _) at hserved
    rw [get_of_served handler serverOptions clientOptions descriptor invokeId responses state
      _ _ _ (hserved.trans (by rw [hsent]))
      (decode_getResponseBlock _ _ (lt_of_le_getBlockLimit _ hsize)), finishGet]
    dsimp only
    rw [hclient, Bool.not_true, if_neg Bool.false_ne_true]
    have hmore : raw.length ≠ 0 := fun hzero => hnil (List.length_eq_zero_iff.mp hzero)
    rcases collectGetBlocks_serving handler serverOptions invokeId
      (servedOptions serverOptions clientOptions) result.data hvalid
      (makeInvokeIdAndPriority invokeId clientOptions)
      (invokeId_of_valid invokeId hvalid clientOptions) hagreed.payload hlimit
      clientOptions.maxBlockTransferBytes hagreed.client responses raw.length 1 [] raw
      { state with channel := { server :=
        { state.channel.server with
          getBlocks := _
          device := device } } }
      (by omega) hbound (by rw [← htake]; rfl) (congrArg Prod.snd hsent) with
      ⟨state', ⟨hids, hserver⟩, hcollected⟩
    exact ⟨state', hcollected, hids, {}, rfl, hserver⟩

/-- An answer that does not fit is not delivered: a response of the server finds
    no room in its buffer, or a side does not take blocks. -/
theorem getWithInvokeId_loses
    (hfits : ¬ GetFits serverOptions clientOptions result.data.length) :
    ¬ ∃ state', getWithInvokeId (connected handler serverOptions) invokeId descriptor none
      clientOptions responses state =
        some (.ok (), { invokeId := invokeId, hasData := true, data := result.data }, state') := by
  have hserved := serve_getRequestNormal handler serverOptions clientOptions descriptor result
    invokeId state.channel.server device hvalid hdescriptor hconfirmed hidle hhandler
  dsimp only at hserved
  rw [GetFits] at hfits
  rintro ⟨state', h⟩
  -- What the server fails ends the call in an error.
  have hanswered : ∀ status server, processService handler serverOptions
      (.getRequest (.normal (makeInvokeIdAndPriority invokeId clientOptions)
        ⟨toApduDescriptor descriptor, none⟩)) state.channel.server ≠ (.error status, server) := by
    intro status server hfailed
    rw [get_of_failed handler serverOptions clientOptions descriptor invokeId responses state
      server status hfailed] at h
    exact absurd h (by simp)
  by_cases hwhole : result.data.length ≤ serverOptions.maxGetBlockPayloadBytes
  · rcases hagreed.canonical with ⟨value, hvalue⟩
    rw [if_pos hwhole, getOutputLimit] at hfits
    rw [startBlocks_whole _ (getIndication invokeId serverOptions clientOptions descriptor)
      { result with invokeId := invokeId } _ hagreed.hasData value hagreed.noAccessResult hvalue
      hwhole, buffered_of_lt _ (by
        rw [length_getResponseDataBytes, Apdu.apduBufferSize]
        dsimp only
        omega)] at hserved
    exact hanswered _ _ hserved
  rw [if_neg hwhole] at hfits
  have hlong := Nat.lt_of_not_le hwhole
  cases hallow : serverOptions.allowBlockTransfer with
  | false =>
      rw [startBlocks_disallowed _ (getIndication invokeId serverOptions clientOptions descriptor)
        { result with invokeId := invokeId } _ hagreed.hasData hlong hagreed.server hallow]
        at hserved
      exact hanswered _ _ hserved
  | true =>
      rw [startBlocks_allowed _ (getIndication invokeId serverOptions clientOptions descriptor)
        { result with invokeId := invokeId } _ hagreed.hasData hlong hagreed.server hallow
        hagreed.payload] at hserved
      change processService _ _ _ _ =
        ((sendNextGetResponseBlock (serving invokeId (servedOptions serverOptions clientOptions)
          result.data 0 1)).1, _) at hserved
      by_cases hlimit : serverOptions.maxGetBlockPayloadBytes ≤ getBlockLimit
      · -- The first block is answered, and the client does not take it.
        have hclient : clientOptions.allowBlockTransfer = false :=
          Bool.eq_false_iff.mpr fun hclient => hfits ⟨hallow, hclient, hlimit⟩
        rcases sendNext_serving invokeId (servedOptions serverOptions clientOptions) result.data 0
          1 (by omega) hagreed.payload hlimit with ⟨raw, -, -, -, hsize, hsent⟩
        rw [get_of_served handler serverOptions clientOptions descriptor invokeId responses state
          _ _ _ (hserved.trans (by rw [hsent]))
          (decode_getResponseBlock _ _ (lt_of_le_getBlockLimit _ hsize)), finishGet] at h
        dsimp only at h
        rw [hclient, Bool.not_false, if_pos rfl] at h
        exact absurd h (by simp)
      · rw [sendNextGetResponseBlock_tooLarge
          (serving invokeId (servedOptions serverOptions clientOptions) result.data 0 1) rfl
          hagreed.payload (by dsimp only [serving]; omega) (Nat.lt_of_not_le hlimit)
          (Nat.le_of_lt hlong)] at hserved
        exact hanswered _ _ hserved

/-- A GET ends with exactly the handler's bytes when its responses fit, and
    only then. -/
theorem getWithInvokeId_delivers_iff (hresponses : result.data.length ≤ responses) :
    (∃ state', getWithInvokeId (connected handler serverOptions) invokeId descriptor none
      clientOptions responses state =
        some (.ok (), { invokeId := invokeId, hasData := true, data := result.data }, state')) ↔
      GetFits serverOptions clientOptions result.data.length := by
  refine ⟨fun hdelivered => ?_, fun hfits => ?_⟩
  · by_contra hfits
    exact getWithInvokeId_loses handler serverOptions clientOptions descriptor result invokeId
      responses state device hvalid hdescriptor hconfirmed hidle hhandler hagreed hfits hdelivered
  · rcases getWithInvokeId_delivers handler serverOptions clientOptions descriptor result invokeId
      responses state device hvalid hdescriptor hconfirmed hidle hhandler hagreed hfits hresponses
      with ⟨state', hdelivered, -⟩
    exact ⟨state', hdelivered⟩

end Delivery

theorem get_connected (responses : Nat) (state : XdlmsClientState (Peer σ δ) τ)
    (hdescriptor : validateDescriptor descriptor = .ok ()) :
    get (connected handler serverOptions) descriptor none clientOptions responses state =
      getWithInvokeId (connected handler serverOptions) state.invokeIds.next descriptor none
        clientOptions responses { state with invokeIds := state.invokeIds.take.2 } := by
  simp [get, hdescriptor, validateOptionalSelectiveAccess, connected, InvokeIdAllocator.take]

/-- The same of the whole call, with the invoke id the client's allocator has
    next. Enough responses for one byte in each are enough. -/
theorem get_delivers_iff (responses : Nat) (state : XdlmsClientState (Peer σ δ) τ) (device : δ)
    (hdescriptor : validateDescriptor descriptor = .ok ())
    (hconfirmed : clientOptions.confirmed = true)
    (hidle : state.channel.server.getBlocks.active = false)
    (hhandler : handler.handleGet
      (getIndication state.invokeIds.next serverOptions clientOptions descriptor)
      state.channel.server.device = (.ok result, device))
    (hagreed : GetAgreed serverOptions clientOptions result)
    (hresponses : result.data.length ≤ responses) :
    (∃ state', get (connected handler serverOptions) descriptor none clientOptions responses state =
      some (.ok (),
        { invokeId := state.invokeIds.next, hasData := true, data := result.data }, state')) ↔
      GetFits serverOptions clientOptions result.data.length := by
  rw [get_connected handler serverOptions clientOptions descriptor responses state hdescriptor]
  exact getWithInvokeId_delivers_iff handler serverOptions clientOptions descriptor result
    state.invokeIds.next responses { state with invokeIds := state.invokeIds.take.2 } device
    state.invokeIds.valid hdescriptor hconfirmed hidle hhandler hagreed hresponses

end Get

/-! ### One register -/

/-- A handler that answers every GET with the same data and nothing else. -/
def answering (data : Bytes) : XdlmsServerHandler Unit where
  handleGet := fun _ device => (.ok { hasData := true, data := data }, device)
  handleSet := fun _ device => (.error .unsupportedFeature, device)
  handleAction := fun _ device => (.error .unsupportedFeature, device)

/-- A client and a server at their start. -/
def initialState : XdlmsClientState (Peer Unit Unit) Unit where
  channel := { server := { security := (), device := () } }
  security := ()

def energyValue : CosemAttributeDescriptor where
  classId := 3
  instanceId := ⟨1, 0, 1, 8, 0, 255⟩
  attributeId := 2

/-- Payloads of two bytes for all three services. -/
def twoByteOptions : ServiceOptions :=
  { defaultServiceOptions with
    maxGetBlockPayloadBytes := 2
    maxSetBlockPayloadBytes := 2
    maxActionBlockPayloadBytes := 2 }

/-- An octet string of three bytes, which takes three such payloads. -/
def threeBytes : Bytes := [0x09, 0x03, 0x0A, 0x0B, 0x0C]

/-- An answer of three blocks is delivered. -/
theorem get_delivers_threeBlocks :
    (∃ state', get (connected (answering threeBytes) twoByteOptions) energyValue none
      defaultServiceOptions 5 initialState =
        some (.ok (), { invokeId := 1, hasData := true, data := threeBytes }, state')) ↔
      GetFits twoByteOptions defaultServiceOptions threeBytes.length :=
  get_delivers_iff (answering threeBytes) twoByteOptions defaultServiceOptions energyValue
    { hasData := true, data := threeBytes } 5 initialState () rfl rfl rfl rfl
    ⟨rfl, rfl, ⟨_, rfl, rfl⟩, by decide, by decide, by decide⟩ (by decide)

/-- Block payloads as large as the server lets them be set. -/
def largePayloadOptions : ServiceOptions :=
  { defaultServiceOptions with maxGetBlockPayloadBytes := 4096 }

/-- An octet string of 2041 bytes. -/
def longAnswer : Bytes := [0x09] ++ Apdu.axdrOctetStringBytes (List.replicate 2041 0x00)

theorem length_longAnswer : longAnswer.length = 2045 := by
  rw [longAnswer, Apdu.length_octetStringData, List.length_replicate,
    Apdu.axdrLengthEncodedSize_eq_three 2041 (by decide) (by decide)]

theorem longAnswer_agreed :
    GetAgreed largePayloadOptions defaultServiceOptions
      { hasData := true, data := longAnswer } where
  hasData := rfl
  noAccessResult := rfl
  canonical := ⟨_, Apdu.canonicalData_octetString 7 _ (by
    rw [List.length_replicate, Apdu.sizeOctets]
    decide)⟩
  server := by
    change longAnswer.length ≤ 65536
    rw [length_longAnswer]
    decide
  client := by
    change longAnswer.length ≤ 65536
    rw [length_longAnswer]
    decide
  payload := by decide

/-- A longer one, well within every limit of both sides, is not: its response
    is one byte larger than the buffer. -/
theorem get_loses_longAnswer :
    GetAgreed largePayloadOptions defaultServiceOptions { hasData := true, data := longAnswer } ∧
      ∀ responses, ¬ ∃ state',
        get (connected (answering longAnswer) largePayloadOptions) energyValue none
          defaultServiceOptions responses initialState =
            some (.ok (), { invokeId := 1, hasData := true, data := longAnswer }, state') := by
  refine ⟨longAnswer_agreed, fun responses => ?_⟩
  rw [get_connected (answering longAnswer) largePayloadOptions defaultServiceOptions energyValue
    responses initialState rfl]
  refine getWithInvokeId_loses (answering longAnswer) largePayloadOptions defaultServiceOptions
    energyValue { hasData := true, data := longAnswer } 1 responses
    { initialState with invokeIds := initialState.invokeIds.take.2 } () rfl rfl rfl rfl rfl
    longAnswer_agreed ?_
  dsimp only
  rw [length_longAnswer, GetFits]
  decide

end Xdlms

end Dlms
