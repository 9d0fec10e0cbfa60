import Dlms.Xdlms.Dispatch
import Dlms.Xdlms.Exchange

/-!
# A SET from end to end

The client sends a short value in one request and splits a longer one into
blocks. The server collects the blocks, and dispatches the value with the last
of them. The invariant of a transfer is that what the server has collected,
with what the client has left, is the value, and that the server waits for the
number of the client's next block.

Two numbers bound a transfer. A block has to fit into a request with its
header, and the block number has 32 bits: a client that has counted through
all of them opens the transfer again, and the server, which has one open,
drops it.

## Main definitions

* `setIndication`: What the handler is asked. The sizes of the client's blocks
  have no part in it.
* `blockNumber`: The number of the block after so many others.
* `collectingSet`: The server's state in the middle of a transfer.
* `SetFits`: The values and the sizes at which a SET arrives.

## Theorems

* `set_blocks_reaches`: A transfer comes to its last block, or runs out of numbers.
* `device_set_of_fits`, `device_set_of_not_fits`: The handler is asked once, or
  not at all.
-/

namespace Dlms

namespace Xdlms

open Apdu (Bytes DlmsData DataBlock XdlmsApdu CanonicalData maximumDataDepth)

/-! ### The numbers of blocks -/

/-- The number of the block after `sent` others. -/
def blockNumber (sent : Nat) : UInt32 := UInt32.ofNat (sent + 1)

/-- How many blocks have numbers of their own. -/
def blockNumbers : Nat := 2 ^ 32

theorem blockNumber_zero : blockNumber 0 = 1 := rfl

theorem blockNumber_succ (sent : Nat) : blockNumber sent + 1 = blockNumber (sent + 1) := by
  rw [blockNumber, blockNumber, UInt32.ofNat_add (sent + 1) 1]
  rfl

/-- Only the first block has number one, until the numbers are used up. -/
theorem blockNumber_ne_one (sent : Nat) (hpos : 0 < sent) (hlimit : sent < blockNumbers) :
    blockNumber sent ≠ 1 := by
  intro h
  have hvalue := congrArg UInt32.toNat h
  rw [blockNumber, UInt32.toNat_ofNat', UInt32.toNat_one] at hvalue
  rw [blockNumbers] at hlimit
  omega

theorem blockNumber_wraps : blockNumber blockNumbers = 1 := by
  apply UInt32.toNat_inj.mp
  rw [blockNumber, UInt32.toNat_ofNat', UInt32.toNat_one, blockNumbers]
  decide

/-- The block that starts what is left. -/
def splitBlock (payload : Nat) (number : UInt32) (rest : Bytes) : DataBlock where
  lastBlock := min rest.length payload == rest.length
  blockNumber := number
  rawData := rest.take (min rest.length payload)

theorem length_splitBlock_le (payload : Nat) (number : UInt32) (rest : Bytes) :
    (splitBlock payload number rest).rawData.length ≤ payload := by
  rw [splitBlock, List.length_take]
  omega

theorem splitBlock_last (payload : Nat) (number : UInt32) (rest : Bytes)
    (h : rest.length ≤ payload) :
    splitBlock payload number rest =
      { lastBlock := true, blockNumber := number, rawData := rest } := by
  rw [splitBlock, Nat.min_eq_left h, List.take_length, beq_self_eq_true]

theorem splitBlock_more (payload : Nat) (number : UInt32) (rest : Bytes)
    (h : payload < rest.length) :
    splitBlock payload number rest =
      { lastBlock := false, blockNumber := number, rawData := rest.take payload } := by
  rw [splitBlock, Nat.min_eq_right (Nat.le_of_lt h), beq_eq_false_iff_ne.mpr (Nat.ne_of_lt h)]

/-! ### The requests of a client -/

/-- The largest block payload whose first request fits, with the descriptor
    and the header of a block. -/
def setBlockLimit : Nat := 2027

/-- The largest value whose only request fits. -/
def setValueLimit : Nat := 2035

theorem lt_of_le_setBlockLimit (n : Nat) (h : n ≤ setBlockLimit) : n < 256 ^ Apdu.sizeOctets := by
  rw [setBlockLimit] at h
  rw [Apdu.sizeOctets]
  omega

section Requests

variable (iip : UInt8)

theorem encode_setRequestNormal (descriptor : Apdu.CosemAttributeDescriptor) (depth : Nat)
    (data : Bytes) (value : DlmsData) (h : CanonicalData depth data value) :
    Apdu.encodeXdlmsApdu (.setRequest (.normal iip ⟨descriptor, none⟩ value)) =
      Apdu.bounded (Apdu.setRequestNormalBytes iip descriptor data) :=
  Apdu.encodeXdlmsApdu_setRequest _ _
    (Apdu.writes_setRequest_normal _ _ _ _ (Apdu.writes_of_canonicalData _ _ _ h))

theorem length_setRequestNormalBytes (descriptor : Apdu.CosemAttributeDescriptor) (data : Bytes) :
    (Apdu.setRequestNormalBytes iip descriptor data).length = 13 + data.length := by
  simp only [Apdu.setRequestNormalBytes, Apdu.length_serviceApduBytes, List.length_append,
    Apdu.length_attributeDescriptorBytes, List.length_cons, List.length_nil]
  omega

theorem decode_setRequestNormal (descriptor : Apdu.CosemAttributeDescriptor) (data : Bytes)
    (value : DlmsData) (h : Apdu.decodeDlmsData data maximumDataDepth = .ok value) :
    Apdu.decodeXdlmsApdu (Apdu.setRequestNormalBytes iip descriptor data) =
      .ok (.setRequest (.normal iip ⟨descriptor, none⟩ value)) := by
  have hdecoded := Apdu.decodeSetRequest_normal maximumDataDepth iip descriptor value data h
  rw [Apdu.setRequestNormalBytes] at hdecoded ⊢
  rw [Apdu.decodeXdlmsApdu_setRequest, hdecoded]
  rfl

theorem encode_setRequestFirstBlock_eq (descriptor : Apdu.CosemAttributeDescriptor)
    (dataBlock : DataBlock) :
    Apdu.encodeXdlmsApdu (.setRequest (.withFirstDataBlock iip ⟨descriptor, none⟩ dataBlock)) =
      Apdu.bounded (Apdu.setRequestFirstBlockBytes iip descriptor dataBlock) :=
  Apdu.encodeXdlmsApdu_setRequest _ _ (Apdu.writes_setRequest_firstBlock _ _ _)

theorem length_setRequestFirstBlockBytes (descriptor : Apdu.CosemAttributeDescriptor)
    (dataBlock : DataBlock) :
    (Apdu.setRequestFirstBlockBytes iip descriptor dataBlock).length =
      18 + Apdu.axdrLengthEncodedSize dataBlock.rawData.length + dataBlock.rawData.length := by
  simp only [Apdu.setRequestFirstBlockBytes, Apdu.length_serviceApduBytes, List.length_append,
    Apdu.length_attributeDescriptorBytes, Apdu.length_dataBlockBytes, List.length_cons,
    List.length_nil]
  omega

theorem encode_setRequestFirstBlock (descriptor : Apdu.CosemAttributeDescriptor)
    (dataBlock : DataBlock) (h : dataBlock.rawData.length ≤ setBlockLimit) :
    Apdu.encodeXdlmsApdu (.setRequest (.withFirstDataBlock iip ⟨descriptor, none⟩ dataBlock)) =
      .ok (Apdu.setRequestFirstBlockBytes iip descriptor dataBlock) := by
  rw [encode_setRequestFirstBlock_eq]
  refine Apdu.bounded_of_le _ ?_
  rw [length_setRequestFirstBlockBytes]
  refine (octetString_fits_iff 18 _ (by decide)).mpr ?_
  rw [setBlockLimit] at h
  rw [Apdu.apduBufferSize]
  omega

theorem encode_setRequestFirstBlock_tooLarge (descriptor : Apdu.CosemAttributeDescriptor)
    (dataBlock : DataBlock) (h : setBlockLimit < dataBlock.rawData.length) :
    Apdu.encodeXdlmsApdu (.setRequest (.withFirstDataBlock iip ⟨descriptor, none⟩ dataBlock)) =
      .error .outputBufferTooSmall := by
  rw [encode_setRequestFirstBlock_eq]
  refine Apdu.bounded_of_lt _ ?_
  have hfits := octetString_fits_iff 18 dataBlock.rawData.length (by decide)
  rw [length_setRequestFirstBlockBytes]
  rw [setBlockLimit] at h
  rw [Apdu.apduBufferSize] at hfits ⊢
  omega

theorem decode_setRequestFirstBlock (descriptor : Apdu.CosemAttributeDescriptor)
    (dataBlock : DataBlock) (h : dataBlock.rawData.length ≤ setBlockLimit) :
    Apdu.decodeXdlmsApdu (Apdu.setRequestFirstBlockBytes iip descriptor dataBlock) =
      .ok (.setRequest (.withFirstDataBlock iip ⟨descriptor, none⟩ dataBlock)) := by
  have hdecoded := Apdu.decodeSetRequest_firstBlock maximumDataDepth iip descriptor dataBlock
    (lt_of_le_setBlockLimit _ h)
  rw [Apdu.setRequestFirstBlockBytes] at hdecoded ⊢
  rw [Apdu.decodeXdlmsApdu_setRequest, hdecoded]
  rfl

theorem length_setRequestBlockBytes (dataBlock : DataBlock) :
    (Apdu.setRequestBlockBytes iip dataBlock).length =
      8 + Apdu.axdrLengthEncodedSize dataBlock.rawData.length + dataBlock.rawData.length := by
  simp only [Apdu.setRequestBlockBytes, Apdu.length_serviceApduBytes, Apdu.length_dataBlockBytes]
  omega

theorem encode_setRequestBlock (dataBlock : DataBlock)
    (h : dataBlock.rawData.length ≤ setBlockLimit) :
    Apdu.encodeXdlmsApdu (.setRequest (.withDataBlock iip dataBlock)) =
      .ok (Apdu.setRequestBlockBytes iip dataBlock) := by
  rw [Apdu.encodeXdlmsApdu_setRequest _ _ (Apdu.writes_setRequest_block _ _)]
  refine Apdu.bounded_of_le _ ?_
  rw [length_setRequestBlockBytes]
  refine (octetString_fits_iff 8 _ (by decide)).mpr ?_
  rw [setBlockLimit] at h
  rw [Apdu.apduBufferSize]
  omega

theorem decode_setRequestBlock (dataBlock : DataBlock)
    (h : dataBlock.rawData.length ≤ setBlockLimit) :
    Apdu.decodeXdlmsApdu (Apdu.setRequestBlockBytes iip dataBlock) =
      .ok (.setRequest (.withDataBlock iip dataBlock)) := by
  have hdecoded := Apdu.decodeSetRequest_block maximumDataDepth iip dataBlock
    (lt_of_le_setBlockLimit _ h)
  rw [Apdu.setRequestBlockBytes] at hdecoded ⊢
  rw [Apdu.decodeXdlmsApdu_setRequest, hdecoded]
  rfl

end Requests

/-! ### The server's part -/

def setIndication (invokeId : UInt8) (serverOptions clientOptions : ServiceOptions)
    (descriptor : CosemAttributeDescriptor) (data : Bytes) : SetIndication where
  invokeId := invokeId
  options := servedOptions serverOptions clientOptions
  descriptor := descriptor
  data := data

/-- The server in the middle of a transfer: it has collected these bytes, and
    the next block has this number. -/
def collectingSet (invokeId : UInt8) (options : ServiceOptions)
    (descriptor : CosemAttributeDescriptor) (number : UInt32) (collected : Bytes) :
    SetRequestBlockState where
  active := true
  invokeId := invokeId
  options := options
  descriptor := descriptor
  nextBlockNumber := number
  data := collected

/-- A block that keeps the value within the limit has room. -/
theorem room_of_le (collected raw limit : Nat) (h : collected + raw ≤ limit) :
    ¬ (raw > limit ∨ collected > limit - raw) := by
  omega

section Serve

variable {σ δ : Type} (handler : XdlmsServerHandler δ)
  (serverOptions clientOptions : ServiceOptions) (invokeId : UInt8)
  (descriptor : CosemAttributeDescriptor) (server : XdlmsServerState σ δ)
  (hvalid : validateInvokeId invokeId = .ok ())

include hvalid

omit hvalid in
/-- A complete value is dispatched, and the result of the handler answered. -/
theorem answerSet_eq (indication : SetIndication)
    (encode : UInt8 → SetResult → Except XdlmsStatus Bytes) (device : δ)
    (hvalid : validateInvokeId indication.invokeId = .ok ())
    (hdescriptor : validateDescriptor indication.descriptor = .ok ())
    (hdata : indication.data ≠ []) :
    answerSet handler indication encode device =
      ((handler.handleSet indication device).1.bind fun result =>
          encode (makeInvokeIdAndPriority indication.invokeId indication.options)
            { result with invokeId := indication.invokeId },
        (handler.handleSet indication device).2) := by
  rw [answerSet, dispatchSet, hvalid, hdescriptor]
  dsimp only
  rw [if_neg hdata]
  rcases handler.handleSet indication device with ⟨status | result, after⟩
  · rfl
  · rfl

/-- A value in one request is answered as the handler says. -/
theorem serve_setRequestNormal (hdescriptor : validateDescriptor descriptor = .ok ())
    (hconfirmed : clientOptions.confirmed = true) (data : Bytes)
    (value : DlmsData) (hvalue : CanonicalData maximumDataDepth data value)
    (hsize : data.length ≤ dataBufferSize) :
    processService handler serverOptions
        (.setRequest (.normal (makeInvokeIdAndPriority invokeId clientOptions)
          ⟨toApduDescriptor descriptor, none⟩ value)) server =
      ((handler.handleSet (setIndication invokeId serverOptions clientOptions descriptor data)
          server.device).1.bind fun result =>
            .ok (Apdu.setResponseNormalBytes
              (makeInvokeIdAndPriority invokeId (servedOptions serverOptions clientOptions))
              result.accessResult),
        { server with
          device := (handler.handleSet
            (setIndication invokeId serverOptions clientOptions descriptor data)
            server.device).2 }) := by
  have hiip := invokeId_of_valid invokeId hvalid clientOptions
  have hserved : (servedOptions serverOptions clientOptions).confirmed = true := hconfirmed
  have hanswer := answerSet_eq handler
    (setIndication invokeId serverOptions clientOptions descriptor data) encodeSetResponse
    server.device hvalid hdescriptor (ne_nil_of_canonicalData _ _ _ hvalue)
  simp only [processService, processSetRequest, Option.isSome_none, Bool.false_eq_true, if_false,
    parseServiceOptions_request, hiip, hserved, Bool.not_true,
    encodeDataBytes_of_canonicalData _ _ _ hvalue hsize]
  simp only [encodeSetResponse_eq] at hanswer
  exact congrArg (fun answer : Except XdlmsStatus Bytes × δ =>
    (answer.1, ({ server with device := answer.2 } : XdlmsServerState σ δ))) hanswer

/-- The first of several blocks opens a transfer. -/
theorem serve_setRequestFirstBlock (hconfirmed : clientOptions.confirmed = true)
    (hidle : server.setBlocks.active = false) (raw : Bytes)
    (hsize : raw.length ≤ serverOptions.maxBlockTransferBytes) :
    processService handler serverOptions
        (.setRequest (.withFirstDataBlock (makeInvokeIdAndPriority invokeId clientOptions)
          ⟨toApduDescriptor descriptor, none⟩
          { lastBlock := false, blockNumber := 1, rawData := raw })) server =
      (.ok (Apdu.setResponseDataBlockBytes (makeInvokeIdAndPriority invokeId clientOptions) 1),
        { server with
          setBlocks := collectingSet invokeId (servedOptions serverOptions clientOptions)
            descriptor (blockNumber 1) raw }) := by
  have hiip := invokeId_of_valid invokeId hvalid clientOptions
  have hserved : (servedOptions serverOptions clientOptions).confirmed = true := hconfirmed
  have hroom : ¬ raw.length > (servedOptions serverOptions clientOptions).maxBlockTransferBytes :=
    Nat.not_lt.mpr hsize
  simp only [processService, processSetRequest, hidle, Option.isSome_none, Bool.false_eq_true,
    if_false, ne_eq, not_true_eq_false, parseServiceOptions_request, hiip, hserved,
    Bool.not_true, Bool.not_false,
    hroom, if_true, encodeSetBlockAckResponse_eq]
  rfl

omit hvalid in
/-- A server that has a transfer open drops it for another first block. -/
theorem serve_setRequestFirstBlock_active (iip : UInt8) (dataBlock : DataBlock)
    (hactive : server.setBlocks.active = true) :
    processService handler serverOptions
        (.setRequest (.withFirstDataBlock iip ⟨toApduDescriptor descriptor, none⟩ dataBlock))
        server = (.error .decodeFailed, { server with setBlocks := {} }) := by
  simp [processService, processSetRequest, hactive]

section Collecting

variable (sent : Nat) (collected raw : Bytes)
  (hcollecting : server.setBlocks =
    collectingSet invokeId (servedOptions serverOptions clientOptions) descriptor
      (blockNumber sent) collected)
  (hsize : collected.length + raw.length ≤ serverOptions.maxBlockTransferBytes)
include hcollecting hsize

/-- The next block, when there are more. -/
theorem serve_setRequestBlock :
    processService handler serverOptions
        (.setRequest (.withDataBlock (makeInvokeIdAndPriority invokeId clientOptions)
          { lastBlock := false, blockNumber := blockNumber sent, rawData := raw })) server =
      (.ok (Apdu.setResponseDataBlockBytes (makeInvokeIdAndPriority invokeId clientOptions)
          (blockNumber sent)),
        { server with
          setBlocks := collectingSet invokeId (servedOptions serverOptions clientOptions)
            descriptor (blockNumber (sent + 1)) (collected ++ raw) }) := by
  have hiip := invokeId_of_valid invokeId hvalid clientOptions
  have hroom := room_of_le _ _ _ hsize
  simp [processService, processSetRequest, hcollecting, collectingSet, servedOptions, hiip, hroom,
    encodeSetBlockAckResponse_eq, blockNumber_succ]

/-- The last block completes the value, and is answered as the handler says. -/
theorem serve_setRequestLastBlock (hdescriptor : validateDescriptor descriptor = .ok ())
    (hraw : raw ≠ []) :
    processService handler serverOptions
        (.setRequest (.withDataBlock (makeInvokeIdAndPriority invokeId clientOptions)
          { lastBlock := true, blockNumber := blockNumber sent, rawData := raw })) server =
      ((handler.handleSet
          (setIndication invokeId serverOptions clientOptions descriptor (collected ++ raw))
          server.device).1.bind fun result =>
            .ok (Apdu.setResponseLastDataBlockBytes
              (makeInvokeIdAndPriority invokeId (servedOptions serverOptions clientOptions))
              result.accessResult (blockNumber sent)),
        { server with
          setBlocks := {}
          device := (handler.handleSet
            (setIndication invokeId serverOptions clientOptions descriptor (collected ++ raw))
            server.device).2 }) := by
  have hiip := invokeId_of_valid invokeId hvalid clientOptions
  have hroom := room_of_le _ _ _ hsize
  have hanswer := answerSet_eq handler
    (setIndication invokeId serverOptions clientOptions descriptor (collected ++ raw))
    (fun iip => encodeSetLastBlockResponse iip (blockNumber sent)) server.device hvalid
    hdescriptor (List.append_ne_nil_of_right_ne_nil _ hraw)
  simp only [encodeSetLastBlockResponse_eq] at hanswer
  simp only [processService, processSetRequest, hcollecting, collectingSet, servedOptions,
    Bool.not_true, Bool.false_eq_true, if_false, hiip, ne_eq, not_true_eq_false, hroom]
  exact congrArg (fun answer : Except XdlmsStatus Bytes × δ =>
    (answer.1, ({ server with setBlocks := {}, device := answer.2 } : XdlmsServerState σ δ)))
    hanswer

end Collecting

end Serve

/-! ### The rounds of a transfer -/

/-- A value of which so many blocks were sent, what they held, and what is left. -/
structure Underway (data : Bytes) (payload sent : Nat) (collected rest : Bytes) : Prop where
  whole : collected ++ rest = data
  more : rest ≠ []
  opened : 0 < sent
  numbered : sent ≤ blockNumbers
  blocks : collected.length = sent * payload

namespace Underway

variable {data : Bytes} {payload sent : Nat} {collected rest : Bytes}
  (h : Underway data payload sent collected rest)
include h

theorem length : data.length = sent * payload + rest.length := by
  rw [← h.whole, List.length_append, h.blocks]

theorem next (hlast : payload < rest.length) (hbelow : sent < blockNumbers) :
    Underway data payload (sent + 1) (collected ++ rest.take payload) (rest.drop payload) where
  whole := by rw [List.append_assoc, List.take_append_drop, h.whole]
  more := List.ne_nil_of_length_pos (by rw [List.length_drop]; omega)
  opened := Nat.succ_pos sent
  numbered := hbelow
  blocks := by
    rw [List.length_append, h.blocks, List.length_take, Nat.min_eq_left (Nat.le_of_lt hlast),
      Nat.succ_mul]

end Underway

/-- The first block was sent. -/
theorem underway_first (data : Bytes) (payload : Nat) (hlong : payload < data.length) :
    Underway data payload 1 (data.take payload) (data.drop payload) where
  whole := List.take_append_drop _ _
  more := List.ne_nil_of_length_pos (by rw [List.length_drop]; omega)
  opened := Nat.one_pos
  numbered := by decide
  blocks := by rw [List.length_take, Nat.min_eq_left (Nat.le_of_lt hlong), Nat.one_mul]

/-- Rounds that each send a block that is not the last come to the last one, or
    use up the numbers. The induction is on the rounds that are left. -/
theorem reaches_of_next {α : Type} (data : Bytes) (payload : Nat) (hpos : 0 < payload)
    (send : Nat → Nat → Bytes → Bytes → α)
    (hnext : ∀ rounds sent collected rest, Underway data payload sent collected rest →
      payload < rest.length → sent < blockNumbers →
        send (rounds + 1) sent collected rest =
          send rounds (sent + 1) (collected ++ rest.take payload) (rest.drop payload))
    (rounds sent : Nat) (collected rest : Bytes) (hrounds : rest.length ≤ rounds)
    (h : Underway data payload sent collected rest) :
    ∃ rounds' sent' collected' rest', Underway data payload sent' collected' rest' ∧
      (sent' = blockNumbers ∨ sent' < blockNumbers ∧ rest'.length ≤ payload) ∧
      send rounds sent collected rest = send (rounds' + 1) sent' collected' rest' := by
  induction rounds generalizing sent collected rest with
  | zero => exact absurd (List.length_eq_zero_iff.mp (Nat.le_zero.mp hrounds)) h.more
  | succ rounds ih =>
      by_cases hwraps : sent = blockNumbers
      · exact ⟨rounds, sent, collected, rest, h, .inl hwraps, rfl⟩
      have hbelow : sent < blockNumbers := Nat.lt_of_le_of_ne h.numbered hwraps
      by_cases hlast : rest.length ≤ payload
      · exact ⟨rounds, sent, collected, rest, h, .inr ⟨hbelow, hlast⟩, rfl⟩
      rw [Nat.not_le] at hlast
      rw [hnext rounds sent collected rest h hlast hbelow]
      exact ih (sent + 1) _ _ (by rw [List.length_drop]; omega) (h.next hlast hbelow)

section Transfer

variable {σ τ δ : Type} (handler : XdlmsServerHandler δ)
  (serverOptions clientOptions : ServiceOptions) (invokeId : UInt8)
  (descriptor : CosemAttributeDescriptor) (payload : Nat)

/-- The request of one round. -/
def setBlockRequest (iip : UInt8) (number : UInt32) (rest : Bytes) : Apdu.SetRequest :=
  if number = 1 then
    .withFirstDataBlock iip ⟨toApduDescriptor descriptor, none⟩ (splitBlock payload number rest)
  else
    .withDataBlock iip (splitBlock payload number rest)

section Round

variable (iip : UInt8) (rounds : Nat) (rest : Bytes) (number : UInt32)
  (state : XdlmsClientState (Peer σ δ) τ)

/-- A client that gets no response stops. -/
theorem sendSetBlocks_of_error (status : XdlmsStatus) (after : XdlmsClientState (Peer σ δ) τ)
    (hsent : sendAndReceive (connected handler serverOptions)
      (.setRequest (setBlockRequest descriptor payload iip number rest)) state =
        (.error status, after)) :
    (sendSetBlocks (connected handler serverOptions) invokeId iip descriptor payload (rounds + 1)
      rest number state).2.2 = after := by
  rw [setBlockRequest, splitBlock] at hsent
  rw [sendSetBlocks]
  simp [hsent]

/-- A client stops after its last block. -/
theorem sendSetBlocks_of_last (hlast : rest.length ≤ payload) :
    (sendSetBlocks (connected handler serverOptions) invokeId iip descriptor payload (rounds + 1)
      rest number state).2.2 =
      (sendAndReceive (connected handler serverOptions)
        (.setRequest (setBlockRequest descriptor payload iip number rest)) state).2 := by
  have hfinal : (min rest.length payload == rest.length) = true :=
    beq_iff_eq.mpr (Nat.min_eq_left hlast)
  rw [sendSetBlocks, setBlockRequest, splitBlock]
  simp only [hfinal]
  rcases sendAndReceive (connected handler serverOptions) _ state with ⟨status | response, after⟩
  · rfl
  · dsimp only
    rcases validateSetBlockResponse response invokeId number true with ⟨status | ⟨⟩, result⟩
    · rfl
    · rfl

/-- After an acknowledged block the client goes on with the next one. -/
theorem sendSetBlocks_of_acknowledged (after : XdlmsClientState (Peer σ δ) τ)
    (hinvoke : iip &&& 0x0F = invokeId) (hmore : payload < rest.length)
    (hsent : sendAndReceive (connected handler serverOptions)
      (.setRequest (setBlockRequest descriptor payload iip number rest)) state =
        (.ok (.setResponse (.dataBlock iip number)), after)) :
    sendSetBlocks (connected handler serverOptions) invokeId iip descriptor payload (rounds + 1)
        rest number state =
      sendSetBlocks (connected handler serverOptions) invokeId iip descriptor payload rounds
        (rest.drop payload) (number + 1) after := by
  have hsize : min rest.length payload = payload := Nat.min_eq_right (Nat.le_of_lt hmore)
  have hfinal : (payload == rest.length) = false := beq_eq_false_iff_ne.mpr (Nat.ne_of_lt hmore)
  rw [setBlockRequest, splitBlock, hsize, hfinal] at hsent
  rw [sendSetBlocks]
  simp [hsize, hfinal, hsent, validateSetBlockResponse, setResponseInvokeId,
    setResponseBlockNumber, hinvoke]

end Round

/-- The client, whose server has collected so much of a value. -/
def XdlmsClientState.collectingSet (sent : Nat) (collected : Bytes)
    (state : XdlmsClientState (Peer σ δ) τ) : XdlmsClientState (Peer σ δ) τ :=
  { state with
    channel :=
      { server :=
          { state.channel.server with
            setBlocks := Xdlms.collectingSet invokeId (servedOptions serverOptions clientOptions)
              descriptor (blockNumber sent) collected } } }

@[simp] theorem XdlmsClientState.collectingSet_device (sent : Nat) (collected : Bytes)
    (state : XdlmsClientState (Peer σ δ) τ) :
    (state.collectingSet serverOptions clientOptions invokeId descriptor sent
      collected).channel.server.device = state.channel.server.device := rfl

/-- A block that is not the last is acknowledged, and the server has one more. -/
theorem sendSetBlocks_next (state : XdlmsClientState (Peer σ δ) τ) (data : Bytes)
    (hvalid : validateInvokeId invokeId = .ok ())
    (hserver : data.length ≤ serverOptions.maxBlockTransferBytes) (hlimit : payload ≤ setBlockLimit)
    (rounds sent : Nat) (collected rest : Bytes) (h : Underway data payload sent collected rest)
    (hlast : payload < rest.length) (hbelow : sent < blockNumbers) :
    sendSetBlocks (connected handler serverOptions) invokeId
        (makeInvokeIdAndPriority invokeId clientOptions) descriptor payload (rounds + 1) rest
        (blockNumber sent)
        (state.collectingSet serverOptions clientOptions invokeId descriptor sent collected) =
      sendSetBlocks (connected handler serverOptions) invokeId
        (makeInvokeIdAndPriority invokeId clientOptions) descriptor payload rounds
        (rest.drop payload) (blockNumber (sent + 1))
        (state.collectingSet serverOptions clientOptions invokeId descriptor (sent + 1)
          (collected ++ rest.take payload)) := by
  have hlength := h.length
  have htake : (rest.take payload).length = payload := by
    rw [List.length_take, Nat.min_eq_left (Nat.le_of_lt hlast)]
  have hraw : (rest.take payload).length ≤ setBlockLimit := by omega
  have hserved := serve_setRequestBlock handler serverOptions clientOptions invokeId
    descriptor (state.collectingSet serverOptions clientOptions invokeId descriptor sent
      collected).channel.server hvalid sent collected (rest.take payload) rfl (by
        have hblocks := h.blocks
        omega)
  rw [sendSetBlocks_of_acknowledged handler serverOptions invokeId descriptor payload _
    rounds rest _ _ _ (invokeId_of_valid invokeId hvalid clientOptions) hlast (by
      rw [setBlockRequest, if_neg (blockNumber_ne_one sent h.opened hbelow),
        splitBlock_more payload _ rest hlast]
      exact sendAndReceive_of_served handler serverOptions _ _ _ _ _ _ _
        (encode_setRequestBlock _ _ hraw) (decode_setRequestBlock _ _ hraw) hserved
        (decode_setResponseDataBlock _ _)), blockNumber_succ]
  rfl

end Transfer

/-! ### The whole call -/

/-- The decoder of the codec accepts the value at its own depth. -/
def Decodable (data : Bytes) : Prop :=
  ∃ value, Apdu.decodeDlmsData data maximumDataDepth = .ok value

/-- A value of at most one payload is decoded and sent in one request, which
    has to fit. A longer one goes in blocks, which have to be allowed, to fit
    and to have numbers. -/
def SetFits (clientOptions : ServiceOptions) (data : Bytes) : Prop :=
  if data.length ≤ clientOptions.maxSetBlockPayloadBytes then
    Decodable data ∧ data.length ≤ setValueLimit
  else
    clientOptions.allowBlockTransfer = true ∧ 0 < clientOptions.maxSetBlockPayloadBytes ∧
      clientOptions.maxSetBlockPayloadBytes ≤ setBlockLimit ∧
      data.length ≤ blockNumbers * clientOptions.maxSetBlockPayloadBytes

/-- A client decodes a canonical value when the depth allows it. -/
theorem clientDecode_of_canonicalData (data : Bytes) (value : DlmsData)
    (h : CanonicalData maximumDataDepth data value) :
    Client.decodeEncodedData data = .ok value := by
  rw [Client.decodeEncodedData, if_neg (ne_nil_of_canonicalData _ _ _ h), h.1]

theorem clientDecode_of_not_decodable (data : Bytes) (h : ¬ Decodable data) :
    ∃ status, Client.decodeEncodedData data = .error status := by
  unfold Client.decodeEncodedData
  by_cases hempty : data = []
  · exact ⟨_, if_pos hempty⟩
  · rw [if_neg hempty]
    rcases hdecoded : Apdu.decodeDlmsData data maximumDataDepth with status | value
    · exact ⟨_, rfl⟩
    · exact absurd ⟨value, hdecoded⟩ h

theorem state_setNormal {χ σ : Type} (client : XdlmsClient χ σ) (invokeId : UInt8)
    (descriptor : CosemAttributeDescriptor) (value : DlmsData) (options : ServiceOptions)
    (state : XdlmsClientState χ σ) :
    (setNormal client invokeId descriptor value options state).2.2 =
      (sendAndReceive client
        (.setRequest (.normal (makeInvokeIdAndPriority invokeId options)
          ⟨toApduDescriptor descriptor, none⟩ value)) state).2 := by
  unfold setNormal
  rcases sendAndReceive client _ state with ⟨status | response, after⟩
  · rfl
  · cases response with
    | setResponse response =>
        cases response with
        | normal iip accessResult =>
            dsimp only
            split_ifs <;> rfl
        | _ => rfl
    | _ => rfl

section Set

variable {σ τ δ : Type} (handler : XdlmsServerHandler δ)
  (serverOptions clientOptions : ServiceOptions) (descriptor : CosemAttributeDescriptor)
  (data : Bytes) (depth : Nat) (value : DlmsData) (state : XdlmsClientState (Peer σ δ) τ)
  (hdescriptor : validateDescriptor descriptor = .ok ())
  (hvalue : CanonicalData depth data value)
include hdescriptor hvalue

section Whole

variable (hwhole : data.length ≤ clientOptions.maxSetBlockPayloadBytes)
include hwhole

/-- A value the client decodes is sent in one request. -/
theorem server_set_whole (decoded : DlmsData)
    (hdecoded : Apdu.decodeDlmsData data maximumDataDepth = .ok decoded) :
    (set (connected handler serverOptions) descriptor data clientOptions state).2.2.channel =
      (sendAndReceive (connected handler serverOptions)
        (.setRequest (.normal (makeInvokeIdAndPriority state.invokeIds.next clientOptions)
          ⟨toApduDescriptor descriptor, none⟩ decoded))
        { state with invokeIds := state.invokeIds.take.2 }).2.channel := by
  have hcanonical := Apdu.canonicalData_of_decodes _ _ _ _ _ hvalue hdecoded
  simp only [set, hdescriptor, if_pos hwhole, clientDecode_of_canonicalData data decoded hcanonical,
    connected, Bool.not_true, Bool.false_eq_true, if_false]
  rw [state_setNormal]
  rfl

omit hvalue in
/-- A value the client cannot decode is not sent. -/
theorem server_set_undecodable (hdecodable : ¬ Decodable data) :
    (set (connected handler serverOptions) descriptor data clientOptions state).2.2 = state := by
  rcases clientDecode_of_not_decodable data hdecodable with ⟨status, hstatus⟩
  simp [set, hdescriptor, if_pos hwhole, hstatus]

end Whole

section Blocks

variable (hlong : clientOptions.maxSetBlockPayloadBytes < data.length)
include hlong

omit hvalue in
/-- A longer value goes in blocks when they are allowed and hold something. -/
theorem set_blocks (hpos : 0 < clientOptions.maxSetBlockPayloadBytes)
    (hallow : clientOptions.allowBlockTransfer = true) :
    set (connected handler serverOptions) descriptor data clientOptions state =
      sendSetBlocks (connected handler serverOptions) state.invokeIds.next
        (makeInvokeIdAndPriority state.invokeIds.next clientOptions) descriptor
        clientOptions.maxSetBlockPayloadBytes (data.length - 1 + 1) data (blockNumber 0)
        { state with invokeIds := state.invokeIds.take.2 } := by
  have hmore : ¬ data.length ≤ clientOptions.maxSetBlockPayloadBytes := Nat.not_le.mpr hlong
  have hsome : clientOptions.maxSetBlockPayloadBytes ≠ 0 := Nat.pos_iff_ne_zero.mp hpos
  rw [Nat.sub_add_cancel (by omega)]
  simp only [set, hdescriptor, connected, hmore, hsome, hallow, if_false, Bool.not_true,
    Bool.false_eq_true]
  rfl

section Reaches

variable (hpos : 0 < clientOptions.maxSetBlockPayloadBytes)
  (hallow : clientOptions.allowBlockTransfer = true)
  (hlimit : clientOptions.maxSetBlockPayloadBytes ≤ setBlockLimit)
  (hconfirmed : clientOptions.confirmed = true)
  (hidle : state.channel.server.setBlocks.active = false)
  (hserver : data.length ≤ serverOptions.maxBlockTransferBytes)
include hpos hallow hlimit hconfirmed hidle hserver

omit hvalue in
/-- The first block opens the transfer, and the rest of them follow it up to the
    last one, or until the numbers are used up. -/
theorem set_blocks_reaches :
    ∃ rounds sent collected rest,
      Underway data clientOptions.maxSetBlockPayloadBytes sent collected rest ∧
      (sent = blockNumbers ∨
        sent < blockNumbers ∧ rest.length ≤ clientOptions.maxSetBlockPayloadBytes) ∧
      set (connected handler serverOptions) descriptor data clientOptions state =
        sendSetBlocks (connected handler serverOptions) state.invokeIds.next
          (makeInvokeIdAndPriority state.invokeIds.next clientOptions) descriptor
          clientOptions.maxSetBlockPayloadBytes (rounds + 1) rest (blockNumber sent)
          (XdlmsClientState.collectingSet serverOptions clientOptions state.invokeIds.next
            descriptor sent collected { state with invokeIds := state.invokeIds.take.2 }) := by
  have hvalid := state.invokeIds.valid
  have hraw : (data.take clientOptions.maxSetBlockPayloadBytes).length ≤ setBlockLimit := by
    rw [List.length_take]
    omega
  have hserved := serve_setRequestFirstBlock handler serverOptions clientOptions
    state.invokeIds.next descriptor state.channel.server hvalid hconfirmed hidle
    (data.take clientOptions.maxSetBlockPayloadBytes) (by rw [List.length_take]; omega)
  rw [set_blocks handler serverOptions clientOptions descriptor data state hdescriptor hlong hpos
    hallow]
  rw [sendSetBlocks_of_acknowledged handler serverOptions state.invokeIds.next descriptor
    clientOptions.maxSetBlockPayloadBytes
    (makeInvokeIdAndPriority state.invokeIds.next clientOptions) (data.length - 1) data
    (blockNumber 0) { state with invokeIds := state.invokeIds.take.2 } _
    (invokeId_of_valid _ hvalid clientOptions) hlong (by
      rw [setBlockRequest, if_pos blockNumber_zero, splitBlock_more _ _ data hlong]
      exact sendAndReceive_of_served handler serverOptions _ _ _ _ _ _ _
        (encode_setRequestFirstBlock _ _ _ hraw) (decode_setRequestFirstBlock _ _ _ hraw) hserved
        (decode_setResponseDataBlock _ _)), blockNumber_succ]
  exact reaches_of_next data clientOptions.maxSetBlockPayloadBytes hpos
    (fun rounds sent collected rest => sendSetBlocks (connected handler serverOptions)
      state.invokeIds.next (makeInvokeIdAndPriority state.invokeIds.next clientOptions) descriptor
      clientOptions.maxSetBlockPayloadBytes rounds rest (blockNumber sent)
      (XdlmsClientState.collectingSet serverOptions clientOptions state.invokeIds.next descriptor
        sent collected { state with invokeIds := state.invokeIds.take.2 }))
    (sendSetBlocks_next handler serverOptions clientOptions state.invokeIds.next descriptor _ _
      data hvalid hserver hlimit) (data.length - 1) 1 _ _
    (by rw [List.length_drop]; omega) (underway_first data _ hlong)

omit hvalue in
/-- The value reaches the handler when the numbers last for its blocks. -/
theorem device_set_blocks :
    (set (connected handler serverOptions) descriptor data clientOptions
      state).2.2.channel.server.device =
      if data.length ≤ blockNumbers * clientOptions.maxSetBlockPayloadBytes then
        (handler.handleSet
          (setIndication state.invokeIds.next serverOptions clientOptions descriptor data)
          state.channel.server.device).2
      else
        state.channel.server.device := by
  have hvalid := state.invokeIds.valid
  rcases set_blocks_reaches handler serverOptions clientOptions descriptor data state hdescriptor
    hlong hpos hallow hlimit hconfirmed hidle hserver with
      ⟨rounds, sent, collected, rest, h, hend, hset⟩
  have hlength := h.length
  have hmore : 0 < rest.length := List.length_pos_iff.mpr h.more
  have hraw : (splitBlock clientOptions.maxSetBlockPayloadBytes (blockNumber sent)
      rest).rawData.length ≤ setBlockLimit :=
    Nat.le_trans (length_splitBlock_le _ _ rest) hlimit
  rw [hset]
  rcases hend with hwraps | ⟨hbelow, hlast⟩
  · -- The number is one again, so the client opens another transfer.
    rw [hwraps] at hlength hraw ⊢
    rw [if_neg (by omega), sendSetBlocks_of_error handler serverOptions _ descriptor _ _ rounds
      rest _ _ _ _ (by
        rw [setBlockRequest, if_pos blockNumber_wraps]
        exact sendAndReceive_of_failed handler serverOptions _ _ _ _ _ _
          (encode_setRequestFirstBlock _ _ _ hraw) (decode_setRequestFirstBlock _ _ _ hraw)
          (serve_setRequestFirstBlock_active handler serverOptions descriptor _ _ _ rfl))]
    rfl
  · -- With the last block the server has the whole value.
    have hbound := Nat.mul_le_mul_right clientOptions.maxSetBlockPayloadBytes hbelow
    rw [Nat.succ_mul] at hbound
    rw [if_pos (by omega), sendSetBlocks_of_last handler serverOptions _ descriptor _ _ rounds
      rest _ _ hlast, setBlockRequest, if_neg (blockNumber_ne_one sent h.opened hbelow),
      server_sendAndReceive handler serverOptions _ _ _ _ (encode_setRequestBlock _ _ hraw)
        (decode_setRequestBlock _ _ hraw), splitBlock_last _ _ rest hlast,
      serve_setRequestLastBlock handler serverOptions clientOptions _ descriptor _ hvalid sent
        collected rest rfl (by
          rw [h.blocks]
          omega) hdescriptor h.more, h.whole]
    rfl

end Reaches

omit hvalue in
/-- A block that does not fit is not sent, nor is anything after it. -/
theorem device_set_tooLarge (hlimit : setBlockLimit < clientOptions.maxSetBlockPayloadBytes)
    (hallow : clientOptions.allowBlockTransfer = true) :
    (set (connected handler serverOptions) descriptor data clientOptions
      state).2.2.channel = state.channel := by
  have hraw : setBlockLimit <
      (data.take clientOptions.maxSetBlockPayloadBytes).length := by
    rw [List.length_take]
    omega
  rw [set_blocks handler serverOptions clientOptions descriptor data state hdescriptor hlong
    (by omega) hallow]
  rw [sendSetBlocks_of_error handler serverOptions state.invokeIds.next descriptor
    clientOptions.maxSetBlockPayloadBytes
    (makeInvokeIdAndPriority state.invokeIds.next clientOptions) (data.length - 1) data
    (blockNumber 0) { state with invokeIds := state.invokeIds.take.2 } _ _ (by
      rw [setBlockRequest, if_pos blockNumber_zero, splitBlock_more _ _ data hlong]
      exact sendAndReceive_of_too_large handler serverOptions _ _ _
        (encode_setRequestFirstBlock_tooLarge _ _ _ hraw))]

end Blocks

theorem device_set_of_fits (hconfirmed : clientOptions.confirmed = true)
    (hidle : state.channel.server.setBlocks.active = false)
    (hserver : data.length ≤ serverOptions.maxBlockTransferBytes)
    (hfits : SetFits clientOptions data) :
    (set (connected handler serverOptions) descriptor data clientOptions
      state).2.2.channel.server.device =
      (handler.handleSet
        (setIndication state.invokeIds.next serverOptions clientOptions descriptor data)
        state.channel.server.device).2 := by
  rw [SetFits] at hfits
  -- In one request or in blocks, the handler is given the same indication.
  by_cases hwhole : data.length ≤ clientOptions.maxSetBlockPayloadBytes
  · rw [if_pos hwhole] at hfits
    rcases hfits with ⟨⟨decoded, hdecoded⟩, hsize⟩
    have hcanonical := Apdu.canonicalData_of_decodes _ _ _ _ _ hvalue hdecoded
    rw [setValueLimit] at hsize
    rw [server_set_whole handler serverOptions clientOptions descriptor data depth value state
      hdescriptor hvalue hwhole decoded hdecoded]
    rw [server_sendAndReceive handler serverOptions _ _ _ _
      ((encode_setRequestNormal _ _ _ _ _ hcanonical).trans (Apdu.bounded_of_le _ (by
        rw [length_setRequestNormalBytes, Apdu.apduBufferSize]
        omega)))
      (decode_setRequestNormal _ _ _ _ hdecoded)]
    rw [serve_setRequestNormal handler serverOptions clientOptions state.invokeIds.next
      descriptor state.channel.server state.invokeIds.valid hdescriptor hconfirmed data decoded
      hcanonical (by rw [dataBufferSize]; omega)]
  · rw [if_neg hwhole] at hfits
    rcases hfits with ⟨hallow, hpos, hlimit, hnumbers⟩
    rw [device_set_blocks handler serverOptions clientOptions descriptor data state hdescriptor
      (Nat.lt_of_not_le hwhole) hpos hallow hlimit hconfirmed hidle hserver, if_pos hnumbers]

theorem device_set_of_not_fits (hconfirmed : clientOptions.confirmed = true)
    (hidle : state.channel.server.setBlocks.active = false)
    (hserver : data.length ≤ serverOptions.maxBlockTransferBytes)
    (hfits : ¬ SetFits clientOptions data) :
    (set (connected handler serverOptions) descriptor data clientOptions
      state).2.2.channel.server.device = state.channel.server.device := by
  rw [SetFits] at hfits
  by_cases hwhole : data.length ≤ clientOptions.maxSetBlockPayloadBytes
  · rw [if_pos hwhole] at hfits
    by_cases hdecodable : Decodable data
    · rcases hdecodable with ⟨decoded, hdecoded⟩
      have hcanonical := Apdu.canonicalData_of_decodes _ _ _ _ _ hvalue hdecoded
      have hlarge : setValueLimit < data.length :=
        Nat.lt_of_not_le fun hsize => hfits ⟨⟨decoded, hdecoded⟩, hsize⟩
      rw [setValueLimit] at hlarge
      rw [server_set_whole handler serverOptions clientOptions descriptor data depth value state
        hdescriptor hvalue hwhole decoded hdecoded]
      rw [sendAndReceive_of_too_large handler serverOptions _ _ _
        ((encode_setRequestNormal _ _ _ _ _ hcanonical).trans (Apdu.bounded_of_lt _ (by
          rw [length_setRequestNormalBytes, Apdu.apduBufferSize]
          omega)))]
    · rw [server_set_undecodable handler serverOptions clientOptions descriptor data state
        hdescriptor hwhole hdecodable]
  · rw [if_neg hwhole] at hfits
    have hlong := Nat.lt_of_not_le hwhole
    -- The conditions in the order in which the client comes upon them.
    rcases Nat.eq_zero_or_pos clientOptions.maxSetBlockPayloadBytes with hzero | hpos
    · simp only [set, hdescriptor]
      rw [if_neg hwhole, if_pos hzero]
    · cases hallow : clientOptions.allowBlockTransfer with
      | false =>
          simp only [set, hdescriptor]
          rw [if_neg hwhole, if_neg (by omega), hallow]
          rfl
      | true =>
          by_cases hlimit : clientOptions.maxSetBlockPayloadBytes ≤ setBlockLimit
          · rw [device_set_blocks handler serverOptions clientOptions descriptor data state
              hdescriptor hlong hpos hallow hlimit hconfirmed hidle hserver,
              if_neg fun hnumbers => hfits ⟨hallow, hpos, hlimit, hnumbers⟩]
          · rw [device_set_tooLarge handler serverOptions clientOptions descriptor data state
              hdescriptor hlong (Nat.lt_of_not_le hlimit) hallow]

end Set

end Xdlms

end Dlms
