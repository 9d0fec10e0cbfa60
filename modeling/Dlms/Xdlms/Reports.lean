import Dlms.Xdlms.ActionTransfer
import Dlms.Xdlms.GetTransfer

/-!
# What a client makes of a handler's answer

The status and the result a client returns, as a function of what the handler
of the server has answered. The request APDUs, the blocks of both directions,
the invoke ids and the block states of the server stand between the two, and
none of them shows.

What shows is that a handler's failure is not answered, so that the caller
learns of it only as of a response that has not come; and sizes. A call fits
when its argument and its answer have a place in the requests and responses of
both sides, whole or in blocks.

## Main definitions

* `reportGet`, `reportSet`, `reportAction`: What the caller is told.
* `GetAnswerFits`, `SetArgumentFits`, `ActionArgumentFits`, `ActionAnswerFits`:
  What has a place on the wire.
* `Stands`: The client and the server between two calls.

## Theorems

* `get_reports`, `set_reports`, `action_reports`: One call of a client is one
  call of the handler, and leaves no transfer open.
-/

namespace Dlms

namespace Xdlms

open Apdu (Bytes DlmsData DataBlock XdlmsApdu CanonicalData maximumDataDepth)

/-! ### What a remote caller is told -/

/-- A handler that fails, or has neither data nor a result code, is not
    answered. -/
def reportGet (invokeId : UInt8) (answer : Except XdlmsStatus GetResult) :
    Except XdlmsStatus Unit × GetResult :=
  match answer with
  | .error _ => (.error .receiveFailed, {})
  | .ok result =>
      if result.hasAccessResult then
        (.error .serviceRejected,
          { invokeId := invokeId, hasAccessResult := true, accessResult := result.accessResult })
      else if result.hasData then
        (.ok (), { invokeId := invokeId, hasData := true, data := result.data })
      else
        (.error .receiveFailed, {})

def reportSet (invokeId : UInt8) (answer : Except XdlmsStatus SetResult) :
    Except XdlmsStatus Unit × SetResult :=
  match answer with
  | .error _ => (.error .receiveFailed, {})
  | .ok result =>
      (if result.accessResult = 0 then .ok () else .error .serviceRejected,
        { invokeId := invokeId, accessResult := result.accessResult })

/-- Data without any bytes is not answered either. -/
def reportAction (invokeId : UInt8) (answer : Except XdlmsStatus ActionResult) :
    Except XdlmsStatus Unit × ActionResult :=
  match answer with
  | .error _ => (.error .receiveFailed, {})
  | .ok result =>
      if result.hasData = true ∧ result.data = [] then
        (.error .receiveFailed, {})
      else
        (if result.actionResult = 0 then .ok () else .error .serviceRejected,
          { invokeId := invokeId
            actionResult := result.actionResult
            hasData := result.hasData
            data := if result.hasData then result.data else [] })

/-! ### Sizes -/

section Sizes

variable (serverOptions : ServiceOptions)

/-- A GET answer that both sides take, whole or in blocks, with fewer blocks
    than the client may ask for. -/
def GetAnswerFits (options : ServiceOptions) (responses : Nat)
    (answer : Except XdlmsStatus GetResult) : Prop :=
  ∀ result, answer = .ok result → result.hasData = true →
    GetAgreed serverOptions options result ∧
      GetFits serverOptions options result.data.length ∧ result.data.length ≤ responses

/-- A value in one request, or in blocks that the server has room for. -/
def SetArgumentFits (options : ServiceOptions) (data : Bytes) : Prop :=
  (∃ depth value, CanonicalData depth data value) ∧ SetFits options data ∧
    (options.maxSetBlockPayloadBytes < data.length →
      data.length ≤ serverOptions.maxBlockTransferBytes)

def ActionArgumentFits (options : ServiceOptions) (parameter : Option Bytes) : Prop :=
  ∀ data, parameter = some data →
    (∃ depth value, CanonicalData depth data value) ∧ ActionFits options data ∧
      (options.maxActionBlockPayloadBytes < data.length →
        data.length ≤ serverOptions.maxBlockTransferBytes)

/-- An ACTION answer goes out whole or not at all. -/
def ActionAnswerFits (answer : Except XdlmsStatus ActionResult) : Prop :=
  ∀ result, answer = .ok result → result.hasData = true → result.data ≠ [] →
    (∃ value, CanonicalData maximumDataDepth result.data value) ∧
      result.data.length ≤ actionOutputLimit

end Sizes

/-! ### Between two calls -/

/-- No transfer is open. -/
structure XdlmsServerState.Idle {σ δ : Type} (server : XdlmsServerState σ δ) : Prop where
  getBlocks : server.getBlocks.active = false
  setBlocks : server.setBlocks.active = false
  actionBlocks : server.actionBlocks.active = false

/-- What there is to know of a client and a server between two calls. -/
structure LocalState (δ : Type) where
  invokeIds : InvokeIdAllocator := .initial
  device : δ

/-- The client and the server have the allocator and the device, and nothing
    else is going on. -/
structure Stands {σ τ δ : Type} (localState : LocalState δ)
    (state : XdlmsClientState (Peer σ δ) τ) : Prop where
  invokeIds : state.invokeIds = localState.invokeIds
  device : state.channel.server.device = localState.device
  idle : state.channel.server.Idle

/-- The outcome of a call, of which the caller is told this. -/
def told {χ σ ρ : Type} (report : Except XdlmsStatus Unit × ρ) (state : XdlmsClientState χ σ) :
    Outcome χ σ ρ :=
  (report.1, report.2, state)

/-- The server goes on with another device. -/
def XdlmsClientState.withDevice {σ τ δ : Type} (state : XdlmsClientState (Peer σ δ) τ)
    (device : δ) : XdlmsClientState (Peer σ δ) τ :=
  { state with channel := { server := { state.channel.server with device := device } } }

/-- A call that leaves the transfers as they were. -/
theorem stands_withDevice {σ τ δ : Type} (state : XdlmsClientState (Peer σ δ) τ) (device : δ)
    (hidle : state.channel.server.Idle) :
    Stands { invokeIds := state.invokeIds, device := device } (state.withDevice device) :=
  ⟨rfl, rfl, hidle.getBlocks, hidle.setBlocks, hidle.actionBlocks⟩

/-! ### GET -/

section Get

variable {σ τ δ : Type} (handler : XdlmsServerHandler δ)
  (serverOptions clientOptions : ServiceOptions) (descriptor : CosemAttributeDescriptor)
  (invokeId : UInt8)

/-- A server whose handler fails answers nothing. -/
theorem serve_getRequestNormal_failed (server : XdlmsServerState σ δ) (status : XdlmsStatus)
    (device : δ) (hvalid : validateInvokeId invokeId = .ok ())
    (hdescriptor : validateDescriptor descriptor = .ok ())
    (hconfirmed : clientOptions.confirmed = true) (hidle : server.getBlocks.active = false)
    (hhandler : handler.handleGet
      (getIndication invokeId serverOptions clientOptions descriptor) server.device =
        (.error status, device)) :
    processService handler serverOptions
        (.getRequest (.normal (makeInvokeIdAndPriority invokeId clientOptions)
          ⟨toApduDescriptor descriptor, none⟩)) server =
      (.error status, { server with device := device }) := by
  have hiip := invokeId_of_valid invokeId hvalid clientOptions
  have hdispatched : dispatchGet handler
      { invokeId := invokeId
        options := servedOptions serverOptions clientOptions
        descriptor := toXdlmsDescriptor (toApduDescriptor descriptor) } server.device =
        (.error status, device) :=
    dispatchGet_of_valid handler (getIndication invokeId serverOptions clientOptions descriptor)
      server.device (.error status) device hvalid hdescriptor hhandler
  have hserved : (servedOptions serverOptions clientOptions).confirmed = true := hconfirmed
  simp [processService, processGetRequest, hidle, hiip, parseServiceOptions_request, hdispatched,
    hserved]

/-- The response to a GET that has a result code. -/
def getResponseErrorBytes (iip accessResult : UInt8) : Bytes :=
  [0xC4, 0x01, iip, 0x01, accessResult]

theorem encodeGetResponse_accessResult (iip : UInt8) (result : GetResult)
    (h : result.hasAccessResult = true) :
    encodeGetResponse iip result = .ok (getResponseErrorBytes iip result.accessResult) := by
  rw [encodeGetResponse, h]
  rfl

theorem decode_getResponseError (iip accessResult : UInt8) :
    Apdu.decodeXdlmsApdu (getResponseErrorBytes iip accessResult) =
      .ok (.getResponse (.normal iip (.dataAccessError accessResult))) := rfl

section Answer

variable (responses : Nat) (state : XdlmsClientState (Peer σ δ) τ) (device : δ)
  (result : GetResult) (hvalid : validateInvokeId invokeId = .ok ())
  (hdescriptor : validateDescriptor descriptor = .ok ())
  (hconfirmed : clientOptions.confirmed = true)
  (hidle : state.channel.server.getBlocks.active = false)
  (hhandler : handler.handleGet
    (getIndication invokeId serverOptions clientOptions descriptor) state.channel.server.device =
      (.ok result, device))
include hvalid hdescriptor hconfirmed hidle hhandler

/-- An answer without data is a result code or no answer. -/
theorem getWithInvokeId_reports_noData (hdata : result.hasData = false) :
    getWithInvokeId (connected handler serverOptions) invokeId descriptor none clientOptions
        responses state =
      some (told (reportGet invokeId (.ok result)) (state.withDevice device)) := by
  have hserved := serve_getRequestNormal handler serverOptions clientOptions descriptor result
    invokeId state.channel.server device hvalid hdescriptor hconfirmed hidle hhandler
  dsimp only at hserved
  rw [encodeGetResponseOrStartBlocks, if_pos (Or.inl (by rw [hdata]; rfl))] at hserved
  cases hcode : result.hasAccessResult with
  | true =>
      rw [encodeGetResponse_accessResult _ { result with invokeId := invokeId } hcode] at hserved
      rw [get_of_served handler serverOptions clientOptions descriptor invokeId responses state _ _
        _ hserved (decode_getResponseError _ _), finishGet,
        if_neg (by rw [invokeId_of_valid _ hvalid, ne_eq, not_not])]
      simp only [told, reportGet, hcode, if_true]
      rfl
  | false =>
      simp only [encodeGetResponse, hcode, hdata, Bool.false_eq_true, if_false] at hserved
      rw [get_of_failed handler serverOptions clientOptions descriptor invokeId responses state _ _
        hserved]
      simp only [told, reportGet, hcode, hdata, Bool.false_eq_true, if_false]
      rfl

variable (hagreed : GetAgreed serverOptions clientOptions result)
include hagreed

theorem getWithInvokeId_reports_data (hfits : GetFits serverOptions clientOptions
    result.data.length) (hresponses : result.data.length ≤ responses) :
    ∃ state', getWithInvokeId (connected handler serverOptions) invokeId descriptor none
        clientOptions responses state =
          some (told (reportGet invokeId (.ok result)) state') ∧
      state'.invokeIds = state.invokeIds ∧
      ∃ getBlocks, getBlocks.active = false ∧ state'.channel.server =
        { state.channel.server with getBlocks := getBlocks, device := device } := by
  have hreport : reportGet invokeId (.ok result) =
      (.ok (), { invokeId := invokeId, hasData := true, data := result.data }) := by
    simp [reportGet, hagreed.noAccessResult, hagreed.hasData]
  rw [hreport]
  exact getWithInvokeId_delivers handler serverOptions clientOptions descriptor result invokeId
    responses state device hvalid hdescriptor hconfirmed hidle hhandler hagreed hfits hresponses

end Answer

/-- A GET through the client is the GET of the handler. -/
theorem get_reports (responses : Nat) (state : XdlmsClientState (Peer σ δ) τ)
    (answer : Except XdlmsStatus GetResult) (device : δ)
    (hdescriptor : validateDescriptor descriptor = .ok ())
    (hconfirmed : clientOptions.confirmed = true) (hidle : state.channel.server.Idle)
    (hhandler : handler.handleGet
      (getIndication state.invokeIds.next serverOptions clientOptions descriptor)
      state.channel.server.device = (answer, device))
    (hfits : GetAnswerFits serverOptions clientOptions responses answer) :
    ∃ state', get (connected handler serverOptions) descriptor none clientOptions responses state =
        some (told (reportGet state.invokeIds.next answer) state') ∧
      Stands { invokeIds := state.invokeIds.take.2, device := device } state' := by
  have hvalid := state.invokeIds.valid
  rw [get_connected handler serverOptions clientOptions descriptor responses state hdescriptor]
  rcases answer with status | result
  · rw [get_of_failed handler serverOptions clientOptions descriptor state.invokeIds.next responses
      { state with invokeIds := state.invokeIds.take.2 } _ status
      (serve_getRequestNormal_failed handler serverOptions clientOptions descriptor
        state.invokeIds.next state.channel.server status device hvalid hdescriptor hconfirmed
        hidle.getBlocks hhandler)]
    exact ⟨_, rfl, stands_withDevice { state with invokeIds := _ } device hidle⟩
  cases hdata : result.hasData with
  | false =>
      rw [getWithInvokeId_reports_noData handler serverOptions clientOptions descriptor
        state.invokeIds.next responses { state with invokeIds := state.invokeIds.take.2 } device
        result hvalid hdescriptor hconfirmed hidle.getBlocks hhandler hdata]
      exact ⟨_, rfl, stands_withDevice { state with invokeIds := _ } device hidle⟩
  | true =>
      rcases hfits result rfl hdata with ⟨hagreed, hsize, hresponses⟩
      rcases getWithInvokeId_reports_data handler serverOptions clientOptions descriptor
        state.invokeIds.next responses { state with invokeIds := state.invokeIds.take.2 } device
        result hvalid hdescriptor hconfirmed hidle.getBlocks hhandler hagreed hsize hresponses with
        ⟨state', hcall, hids, getBlocks, hinactive, hserver⟩
      refine ⟨state', hcall, hids, by rw [hserver], ?_⟩
      rw [hserver]
      exact ⟨hinactive, hidle.setBlocks, hidle.actionBlocks⟩

end Get

/-! ### SET -/

section Set

variable {σ τ δ : Type} (handler : XdlmsServerHandler δ)
  (serverOptions clientOptions : ServiceOptions) (descriptor : CosemAttributeDescriptor)
  (invokeId : UInt8)

section Whole

variable (data : Bytes) (value : DlmsData) (hvalid : validateInvokeId invokeId = .ok ())
  (hdescriptor : validateDescriptor descriptor = .ok ())
  (hconfirmed : clientOptions.confirmed = true)
  (hvalue : CanonicalData maximumDataDepth data value) (hsize : data.length ≤ setValueLimit)
include hvalid hdescriptor hconfirmed hvalue hsize

/-- A value in one request is answered with the handler's result. -/
theorem setNormal_reports (state : XdlmsClientState (Peer σ δ) τ)
    (answer : Except XdlmsStatus SetResult) (device : δ)
    (hhandler : handler.handleSet
      (setIndication invokeId serverOptions clientOptions descriptor data)
      state.channel.server.device = (answer, device)) :
    setNormal (connected handler serverOptions) invokeId descriptor value clientOptions state =
      told (reportSet invokeId answer) (state.withDevice device) := by
  have hserved := serve_setRequestNormal handler serverOptions clientOptions invokeId descriptor
    state.channel.server hvalid hdescriptor hconfirmed data value hvalue (by
      rw [setValueLimit] at hsize
      rw [dataBufferSize]
      omega)
  have hencode := encode_setRequestNormal (makeInvokeIdAndPriority invokeId clientOptions)
    (toApduDescriptor descriptor) _ data value hvalue
  rw [Apdu.bounded_of_le _ (by
    rw [setValueLimit] at hsize
    rw [length_setRequestNormalBytes, Apdu.apduBufferSize]
    omega)] at hencode
  have hdecode := decode_setRequestNormal (makeInvokeIdAndPriority invokeId clientOptions)
    (toApduDescriptor descriptor) data value hvalue.1
  rw [hhandler] at hserved
  unfold setNormal
  rcases answer with status | result
  · rw [sendAndReceive_of_failed handler serverOptions state _ _ _ _ _ hencode hdecode hserved]
    rfl
  · rw [sendAndReceive_of_served handler serverOptions state _ _ _ _ _ _ hencode hdecode hserved
      (decode_setResponseNormal _ _)]
    dsimp only
    rw [if_neg (by rw [invokeId_of_valid _ hvalid, ne_eq, not_not])]
    rfl

end Whole

section Blocks

/-- The server has the whole value, and the transfer is over. -/
def XdlmsClientState.setEnded (state : XdlmsClientState (Peer σ δ) τ) (device : δ) :
    XdlmsClientState (Peer σ δ) τ :=
  { state with
    channel := { server := { state.channel.server with setBlocks := {}, device := device } } }

variable (payload : Nat) (data : Bytes) (hvalid : validateInvokeId invokeId = .ok ())
  (hdescriptor : validateDescriptor descriptor = .ok ())
include hvalid hdescriptor

/-- The last exchange of a transfer is answered with the handler's result. -/
theorem sendSetBlocks_last_reports (rounds sent : Nat) (collected rest : Bytes)
    (state : XdlmsClientState (Peer σ δ) τ)
    (h : Underway data payload sent collected rest)
    (hserver : data.length ≤ serverOptions.maxBlockTransferBytes)
    (hlast : rest.length ≤ payload) (hlimit : payload ≤ setBlockLimit)
    (hbelow : sent < blockNumbers) (answer : Except XdlmsStatus SetResult) (device : δ)
    (hhandler : handler.handleSet
      (setIndication invokeId serverOptions clientOptions descriptor data)
      state.channel.server.device = (answer, device)) :
    sendSetBlocks (connected handler serverOptions) invokeId
        (makeInvokeIdAndPriority invokeId clientOptions) descriptor payload (rounds + 1) rest
        (blockNumber sent)
        (state.collectingSet serverOptions clientOptions invokeId descriptor sent collected) =
      told (reportSet invokeId answer) (state.setEnded device) := by
  have hlength := h.length
  have hnumber := blockNumber_ne_one sent h.opened hbelow
  have hserved := serve_setRequestLastBlock handler serverOptions clientOptions invokeId
    descriptor (state.collectingSet serverOptions clientOptions invokeId descriptor sent
      collected).channel.server hvalid sent collected rest rfl (by
        rw [h.blocks]
        omega) hdescriptor h.more
  rw [h.whole, XdlmsClientState.collectingSet_device, hhandler] at hserved
  have hraw : rest.length ≤ setBlockLimit := Nat.le_trans hlast hlimit
  have hencode := encode_setRequestBlock (makeInvokeIdAndPriority invokeId clientOptions)
    { lastBlock := true, blockNumber := blockNumber sent, rawData := rest } hraw
  have hdecode := decode_setRequestBlock (makeInvokeIdAndPriority invokeId clientOptions)
    { lastBlock := true, blockNumber := blockNumber sent, rawData := rest } hraw
  rw [sendSetBlocks]
  simp only [beq_self_eq_true, if_neg hnumber, Nat.min_eq_left hlast, List.take_length, if_true]
  rcases answer with status | result
  · rw [sendAndReceive_of_failed handler serverOptions _ _ _ _ _ _ hencode hdecode hserved]
    rfl
  · rw [sendAndReceive_of_served handler serverOptions _ _ _ _ _ _ _ hencode hdecode hserved
      (decode_setResponseLastDataBlock _ _ _)]
    simp only [validateSetBlockResponse, setResponseInvokeId, setResponseBlockNumber,
      invokeId_of_valid _ hvalid, ne_eq, not_true_eq_false, if_false, told, reportSet]
    by_cases hresult : result.accessResult = 0
    · rw [if_pos hresult]
      rfl
    · rw [if_neg hresult]
      rfl

end Blocks

/-- A SET through the client is the SET of the handler. -/
theorem set_reports (data : Bytes) (state : XdlmsClientState (Peer σ δ) τ)
    (answer : Except XdlmsStatus SetResult) (device : δ)
    (hdescriptor : validateDescriptor descriptor = .ok ())
    (hconfirmed : clientOptions.confirmed = true) (hidle : state.channel.server.Idle)
    (hhandler : handler.handleSet
      (setIndication state.invokeIds.next serverOptions clientOptions descriptor data)
      state.channel.server.device = (answer, device))
    (hfits : SetArgumentFits serverOptions clientOptions data) :
    ∃ state', set (connected handler serverOptions) descriptor data clientOptions state =
        told (reportSet state.invokeIds.next answer) state' ∧
      Stands { invokeIds := state.invokeIds.take.2, device := device } state' := by
  have hvalid := state.invokeIds.valid
  rcases hfits with ⟨⟨depth, value, hvalue⟩, hfits, hserver⟩
  rw [SetFits] at hfits
  by_cases hwhole : data.length ≤ clientOptions.maxSetBlockPayloadBytes
  · rw [if_pos hwhole] at hfits
    rcases hfits with ⟨⟨decoded, hdecoded⟩, hsize⟩
    have hcanonical := Apdu.canonicalData_of_decodes _ _ _ _ _ hvalue hdecoded
    have hreports := setNormal_reports handler serverOptions clientOptions descriptor
      state.invokeIds.next data decoded hvalid hdescriptor hconfirmed hcanonical hsize
      { state with invokeIds := state.invokeIds.take.2 } answer device hhandler
    simp only [set, hdescriptor, if_pos hwhole,
      clientDecode_of_canonicalData data decoded hcanonical]
    rw [if_neg (by exact Bool.false_ne_true)]
    exact ⟨_, hreports, stands_withDevice { state with invokeIds := _ } device hidle⟩
  · rw [if_neg hwhole] at hfits
    have hlong := Nat.lt_of_not_le hwhole
    have hroom := hserver hlong
    rcases hfits with ⟨hallow, hpos, hlimit, hnumbers⟩
    rcases set_blocks_reaches handler serverOptions clientOptions descriptor data state hdescriptor
      hlong hpos hallow hlimit hconfirmed hidle.setBlocks hroom with
        ⟨rounds, sent, collected, rest, h, hend, hset⟩
    have hlength := h.length
    have hmore : 0 < rest.length := List.length_pos_iff.mpr h.more
    -- The numbers last, so it is the last block that is left.
    rcases hend with hwraps | ⟨hbelow, hlast⟩
    · rw [hwraps] at hlength
      omega
    refine ⟨_, hset.trans (sendSetBlocks_last_reports handler serverOptions clientOptions
      descriptor state.invokeIds.next clientOptions.maxSetBlockPayloadBytes data hvalid
      hdescriptor rounds sent collected rest { state with invokeIds := state.invokeIds.take.2 } h
      hroom hlast hlimit hbelow answer device hhandler), rfl, rfl, ?_⟩
    exact ⟨hidle.getBlocks, rfl, hidle.actionBlocks⟩

end Set

/-! ### ACTION -/

/-- A normal request without a parameter. -/
theorem encode_actionRequest_none (iip : UInt8) (descriptor : Apdu.CosemMethodDescriptor) :
    Apdu.encodeXdlmsApdu (.actionRequest (.normal iip ⟨descriptor, none⟩)) =
      .ok (Apdu.actionRequestNormalBytes iip descriptor none) := by
  have hwrites : Apdu.Writes (Apdu.encodeActionRequest (.normal iip ⟨descriptor, none⟩))
      (Apdu.actionRequestNormalBytes iip descriptor none) :=
    Apdu.writes_encodeServiceApdu _ _ _ _ _
      (Codec.emits_bind _ _ _ _ _ (Apdu.writes_encodeCosemMethodDescriptor _)
        (Apdu.writes_writeU8 _))
  rw [Apdu.encodeXdlmsApdu_actionRequest _ _ hwrites]
  refine Apdu.bounded_of_le _ ?_
  simp only [Apdu.actionRequestNormalBytes, Apdu.length_serviceApduBytes, List.length_append,
    Apdu.length_methodDescriptorBytes, List.length_cons, List.length_nil]
  decide

theorem decode_actionRequest_none (iip : UInt8) (descriptor : Apdu.CosemMethodDescriptor) :
    Apdu.decodeXdlmsApdu (Apdu.actionRequestNormalBytes iip descriptor none) =
      .ok (.actionRequest (.normal iip ⟨descriptor, none⟩)) := by
  have hmethod : Codec.Accepts (Apdu.decodeMethodWithParameter maximumDataDepth)
      (Apdu.methodDescriptorBytes descriptor ++ [0x00]) ⟨descriptor, none⟩ :=
    Codec.accepts_bind _ _ _ _ _ _ (Apdu.decodes_decodeCosemMethodDescriptor descriptor) rfl
  have hdecoded : Apdu.decodeActionRequest (Apdu.actionRequestNormalBytes iip descriptor none)
      maximumDataDepth = .ok (.normal iip ⟨descriptor, none⟩) :=
    Codec.runParser_of_accepts _ _ _ (Apdu.accepts_decodeServiceApdu _ _ _ _ _ _
      (Codec.accepts_map _ _ _ _ hmethod))
  rw [Apdu.actionRequestNormalBytes] at hdecoded ⊢
  rw [Apdu.decodeXdlmsApdu_actionRequest, hdecoded]
  rfl

/-- What a client reads of the response to a result that fits, if there is a
    response. -/
theorem actionResponse_reports (iip invokeId : UInt8) (hiip : iip &&& 0x0F = invokeId)
    (result : ActionResult) (hfits : ActionAnswerFits (.ok result)) :
    (reportAction invokeId (.ok result) = (.error .receiveFailed, {}) ∧
        ∃ status, encodeActionResponse iip result = .error status) ∨
      ∃ bytes item, encodeActionResponse iip result = .ok bytes ∧
        Apdu.decodeXdlmsApdu bytes = .ok (.actionResponse (.normal iip item)) ∧
        copyActionResponse iip item invokeId = reportAction invokeId (.ok result) := by
  cases hdata : result.hasData with
  | false =>
      refine .inr ⟨Apdu.actionResponseNormalBytes iip result.actionResult none,
        ⟨result.actionResult, none⟩, ?_, rfl, ?_⟩
      · rw [encodeActionResponse, hdata]
        rfl
      · simp [copyActionResponse, reportAction, hiip, hdata]
  | true =>
      by_cases hempty : result.data = []
      · refine .inl ⟨?_, _, encodeActionResponse_empty iip result hdata hempty⟩
        simp [reportAction, hdata, hempty]
      · rcases hfits result rfl hdata hempty with ⟨⟨value, hvalue⟩, hsize⟩
        rw [actionOutputLimit] at hsize
        refine .inr ⟨_, _, (encodeActionResponse_some iip result value hdata hvalue).trans
          (buffered_of_le _ (by
            rw [length_actionResponse_some, Apdu.apduBufferSize]
            omega)), decode_actionResponse_some _ _ _ _ hvalue.1, ?_⟩
        simp only [copyActionResponse, reportAction, hiip, hdata, hempty, ne_eq,
          not_true_eq_false, if_false, if_true, and_false,
          copyEncodedData_of_canonicalData result.data value hvalue (by
            rw [answerBufferSize]
            omega)]

section Action

variable {σ τ δ : Type} (handler : XdlmsServerHandler δ)
  (serverOptions clientOptions : ServiceOptions) (descriptor : CosemMethodDescriptor)

/-- A complete parameter is dispatched, and the result of the handler answered. -/
theorem answerAction_eq (indication : ActionIndication) (device : δ)
    (hvalid : validateInvokeId indication.invokeId = .ok ())
    (hdescriptor : validateMethodDescriptor indication.descriptor = .ok ())
    (hparameter : indication.parameter ≠ some []) :
    answerAction handler indication device =
      ((handler.handleAction indication device).1.bind fun result =>
          encodeActionResponse
            (makeInvokeIdAndPriority indication.invokeId indication.options)
            { result with invokeId := indication.invokeId },
        (handler.handleAction indication device).2) := by
  rw [answerAction, dispatchAction, hvalid, hdescriptor]
  dsimp only
  rw [if_neg hparameter]
  rcases handler.handleAction indication device with ⟨status | result, after⟩
  · rfl
  · rfl

variable (invokeId : UInt8) (responses : Nat) (hvalid : validateInvokeId invokeId = .ok ())
include hvalid

/-- The last exchange of an ACTION reports what the handler has answered. -/
theorem finalExchange_reports (iip : UInt8) (request : Apdu.ActionRequest) (requestApdu : Bytes)
    (indication : ActionIndication) (state : XdlmsClientState (Peer σ δ) τ)
    (server : XdlmsServerState σ δ) (hinvoke : indication.invokeId = invokeId)
    (hdescriptor : validateMethodDescriptor indication.descriptor = .ok ())
    (hparameter : indication.parameter ≠ some [])
    (hencode : Apdu.encodeXdlmsApdu (.actionRequest request) = .ok requestApdu)
    (hrequest : Apdu.decodeXdlmsApdu requestApdu = .ok (.actionRequest request))
    (hserved : processService handler serverOptions (.actionRequest request)
      state.channel.server =
        ((answerAction handler indication state.channel.server.device).1, server))
    (answer : Except XdlmsStatus ActionResult) (device : δ)
    (hhandler : handler.handleAction indication state.channel.server.device = (answer, device))
    (hfits : ActionAnswerFits answer) :
    finalExchange handler serverOptions clientOptions invokeId responses iip request state =
      some (told (reportAction invokeId answer)
        { state with channel := { server := server } }) := by
  rw [answerAction_eq handler indication _ (by rw [hinvoke]; exact hvalid) hdescriptor hparameter]
    at hserved
  rw [hhandler] at hserved
  unfold finalExchange receiveActionResponse
  rcases answer with status | result
  · rw [sendAndReceive_of_failed handler serverOptions state _ _ _ _ _ hencode hrequest hserved]
    rfl
  · have hiip := invokeId_of_valid invokeId hvalid indication.options
    rw [← hinvoke] at hiip
    rcases actionResponse_reports
      (makeInvokeIdAndPriority indication.invokeId indication.options) indication.invokeId hiip
      { result with invokeId := indication.invokeId }
      (fun other hother => by
        rw [← Except.ok.inj hother]
        exact hfits result rfl) with
      ⟨hreport, status, hfailed⟩ | ⟨bytes, item, hencoded, hdecoded, hcopied⟩
    · rw [sendAndReceive_of_failed handler serverOptions state _ _ _ _ _ hencode hrequest
        (hserved.trans (Prod.ext hfailed rfl))]
      have hunreported : reportAction indication.invokeId (.ok result) =
          (.error .receiveFailed, {}) := hreport
      rw [← hinvoke, hunreported]
      rfl
    · rw [sendAndReceive_of_served handler serverOptions state _ _ _ _ _ _ hencode hrequest
        (hserved.trans (Prod.ext hencoded rfl)) hdecoded]
      simp only [copyFinalActionResponse]
      rw [← hinvoke, hcopied]
      rfl

variable (hconfirmed : clientOptions.confirmed = true)
include hconfirmed

/-- The server's part when there is no parameter. -/
theorem serve_actionRequest_none (server : XdlmsServerState σ δ) :
    processService handler serverOptions
      (.actionRequest (.normal (makeInvokeIdAndPriority invokeId clientOptions)
        ⟨toApduMethodDescriptor descriptor, none⟩)) server =
      ((answerAction handler
          (actionIndication invokeId serverOptions clientOptions descriptor none)
          server.device).1,
        { server with
          device := (answerAction handler
            (actionIndication invokeId serverOptions clientOptions descriptor none)
            server.device).2 }) := by
  have hiip := invokeId_of_valid invokeId hvalid clientOptions
  have hserved : (servedOptions serverOptions clientOptions).confirmed = true := hconfirmed
  simp only [processService, processActionRequest, parseServiceOptions_request, hiip, hserved,
    Bool.not_true, Bool.false_eq_true, if_false]
  rfl

section Reports

variable (state : XdlmsClientState (Peer σ δ) τ) (answer : Except XdlmsStatus ActionResult)
  (device : δ) (hfits : ActionAnswerFits answer)
  (hdescriptor : validateMethodDescriptor descriptor = .ok ())
include hfits hdescriptor

/-- A normal request, with or without a parameter. -/
theorem actionNormal_reports (parameter : Option Bytes) (value : Option DlmsData)
    (hvalue : ∀ data, parameter = some data → ∃ decoded, value = some decoded ∧
      CanonicalData maximumDataDepth data decoded ∧ data.length ≤ actionValueLimit)
    (hnone : parameter = none → value = none)
    (hhandler : handler.handleAction
      (actionIndication invokeId serverOptions clientOptions descriptor parameter)
      state.channel.server.device = (answer, device)) :
    actionNormal (connected handler serverOptions) invokeId descriptor value clientOptions
        responses state =
      some (told (reportAction invokeId answer) (state.withDevice device)) := by
  rw [actionNormal_eq handler serverOptions clientOptions invokeId descriptor]
  cases parameter with
  | none =>
      rw [hnone rfl]
      have hdevice := congrArg Prod.snd (answerAction_eq handler
        (actionIndication invokeId serverOptions clientOptions descriptor none)
        state.channel.server.device hvalid hdescriptor (Option.some_ne_none _).symm)
      have hserved := serve_actionRequest_none handler serverOptions clientOptions descriptor
        invokeId hvalid hconfirmed state.channel.server
      rw [hdevice, hhandler] at hserved
      exact finalExchange_reports handler serverOptions clientOptions invokeId responses hvalid _ _
        _ _ state _ rfl hdescriptor (Option.some_ne_none _).symm (encode_actionRequest_none _ _)
        (decode_actionRequest_none _ _) hserved answer device hhandler hfits
  | some data =>
      rcases hvalue data rfl with ⟨decoded, rfl, hcanonical, hsize⟩
      rw [actionValueLimit] at hsize
      have hparameter : (some data : Option Bytes) ≠ some [] := by
        rw [ne_eq, Option.some.injEq]
        exact ne_nil_of_canonicalData _ _ _ hcanonical
      have hdevice := congrArg Prod.snd (answerAction_eq handler
        (actionIndication invokeId serverOptions clientOptions descriptor (some data))
        state.channel.server.device hvalid hdescriptor hparameter)
      have hserved := serve_actionRequestNormal handler serverOptions clientOptions invokeId
        descriptor state.channel.server hvalid hconfirmed data decoded hcanonical
        (by rw [dataBufferSize]; omega)
      rw [hdevice, hhandler] at hserved
      exact finalExchange_reports handler serverOptions clientOptions invokeId responses hvalid _ _
        _ _ state _ rfl hdescriptor hparameter
        ((encode_actionRequestNormal _ _ _ _ _ hcanonical).trans (Apdu.bounded_of_le _ (by
          rw [length_actionRequestNormalBytes, Apdu.apduBufferSize]
          omega)))
        (decode_actionRequestNormal _ _ _ _ hcanonical.1) hserved answer device hhandler hfits

/-- The server has the whole parameter, and the transfer is over. -/
def XdlmsClientState.actionEnded (state : XdlmsClientState (Peer σ δ) τ) (device : δ) :
    XdlmsClientState (Peer σ δ) τ :=
  { state with
    channel := { server := { state.channel.server with actionBlocks := {}, device := device } } }

omit hconfirmed in
/-- With the last block the server has the whole parameter, and it decodes. -/
theorem sendActionBlocks_last_reports (rounds sent : Nat) (data collected rest : Bytes)
    (h : Underway data clientOptions.maxActionBlockPayloadBytes sent collected rest)
    (hdecodable : Decodable data) (hserver : data.length ≤ serverOptions.maxBlockTransferBytes)
    (hlast : rest.length ≤ clientOptions.maxActionBlockPayloadBytes)
    (hlimit : clientOptions.maxActionBlockPayloadBytes ≤ actionBlockLimit)
    (hbelow : sent < blockNumbers)
    (hhandler : handler.handleAction
      (actionIndication invokeId serverOptions clientOptions descriptor (some data))
      state.channel.server.device = (answer, device)) :
    sendActionBlocks (connected handler serverOptions) invokeId
        (makeInvokeIdAndPriority invokeId clientOptions) descriptor clientOptions responses
        (rounds + 1) rest (blockNumber sent)
        (state.collectingAction serverOptions clientOptions invokeId descriptor sent collected) =
      some (told (reportAction invokeId answer) (state.actionEnded device)) := by
  have hlength := h.length
  have hraw : rest.length ≤ actionBlockLimit := Nat.le_trans hlast hlimit
  have hnonempty : data ≠ [] := by
    rw [← h.whole]
    exact List.append_ne_nil_of_right_ne_nil _ h.more
  have hparameter : (some data : Option Bytes) ≠ some [] := by
    rw [ne_eq, Option.some.injEq]
    exact hnonempty
  have hserved := serve_actionRequestLastBlock handler serverOptions clientOptions invokeId
    descriptor (state.collectingAction serverOptions clientOptions invokeId descriptor sent
      collected).channel.server hvalid sent collected rest rfl (by
        rw [h.blocks]
        omega)
  have hanswer : validateAndAnswerAction handler
      (actionIndication invokeId serverOptions clientOptions descriptor none) data
      state.channel.server.device =
    answerAction handler
      (actionIndication invokeId serverOptions clientOptions descriptor (some data))
      state.channel.server.device := by
    rcases hdecodable with ⟨value, hdecoded⟩
    rw [validateAndAnswerAction, validateEncodedActionParameter, if_neg hnonempty, hdecoded]
    rfl
  have hdevice := congrArg Prod.snd (answerAction_eq handler
    (actionIndication invokeId serverOptions clientOptions descriptor (some data))
    state.channel.server.device hvalid hdescriptor hparameter)
  rw [h.whole, XdlmsClientState.collectingAction_device, hanswer, hdevice, hhandler] at hserved
  rw [sendActionBlocks_of_last handler serverOptions clientOptions invokeId descriptor responses _
    rounds rest _ _ hlast, actionBlockRequest, if_neg (blockNumber_ne_one sent h.opened hbelow),
    splitBlock_last _ _ rest hlast]
  exact finalExchange_reports handler serverOptions clientOptions invokeId responses hvalid _ _ _
    _ (state.collectingAction serverOptions clientOptions invokeId descriptor sent collected) _ rfl
    hdescriptor hparameter (encode_actionRequestBlock _ _ hraw) (decode_actionRequestBlock _ _ hraw)
    hserved answer device hhandler hfits

end Reports

omit hvalid in
/-- An ACTION through the client is the ACTION of the handler. -/
theorem action_reports (parameter : Option Bytes) (state : XdlmsClientState (Peer σ δ) τ)
    (answer : Except XdlmsStatus ActionResult) (device : δ)
    (hdescriptor : validateMethodDescriptor descriptor = .ok ())
    (hidle : state.channel.server.Idle)
    (hhandler : handler.handleAction
      (actionIndication state.invokeIds.next serverOptions clientOptions descriptor parameter)
      state.channel.server.device = (answer, device))
    (hargument : ActionArgumentFits serverOptions clientOptions parameter)
    (hanswer : ActionAnswerFits answer) :
    ∃ state', action (connected handler serverOptions) descriptor parameter clientOptions responses
        state = some (told (reportAction state.invokeIds.next answer) state') ∧
      Stands { invokeIds := state.invokeIds.take.2, device := device } state' := by
  have hvalid := state.invokeIds.valid
  cases parameter with
  | none =>
      have hreports := actionNormal_reports handler serverOptions clientOptions descriptor
        state.invokeIds.next responses hvalid hconfirmed
        { state with invokeIds := state.invokeIds.take.2 } answer device hanswer hdescriptor none
        none (fun data hdata => absurd hdata (Option.some_ne_none _).symm) (fun _ => rfl) hhandler
      simp only [action, hdescriptor]
      rw [if_neg (by exact Bool.false_ne_true)]
      exact ⟨_, hreports, stands_withDevice { state with invokeIds := _ } device hidle⟩
  | some data =>
      rcases hargument data rfl with ⟨⟨depth, value, hvalue⟩, ⟨hdecodable, hfits⟩, hserver⟩
      by_cases hwhole : data.length ≤ clientOptions.maxActionBlockPayloadBytes
      · rw [if_pos hwhole] at hfits
        rcases hdecodable with ⟨decoded, hdecoded⟩
        have hcanonical := Apdu.canonicalData_of_decodes _ _ _ _ _ hvalue hdecoded
        have hreports := actionNormal_reports handler serverOptions clientOptions descriptor
          state.invokeIds.next responses hvalid hconfirmed
          { state with invokeIds := state.invokeIds.take.2 } answer device hanswer hdescriptor
          (some data) (some decoded)
          (fun other hother => ⟨decoded, rfl, by
            rw [← Option.some.inj hother]
            exact ⟨hcanonical, hfits⟩⟩)
          (fun hnone => absurd hnone (Option.some_ne_none _)) hhandler
        simp only [action, hdescriptor, if_pos hwhole,
          clientDecode_of_canonicalData data decoded hcanonical]
        rw [if_neg (by exact Bool.false_ne_true)]
        exact ⟨_, hreports, stands_withDevice { state with invokeIds := _ } device hidle⟩
      · rw [if_neg hwhole] at hfits
        have hlong := Nat.lt_of_not_le hwhole
        have hroom := hserver hlong
        rcases hfits with ⟨hallow, hpos, hlimit, hnumbers⟩
        rcases action_blocks_reaches handler serverOptions clientOptions descriptor data responses
          state hdescriptor hlong hpos hallow hlimit hconfirmed hidle.actionBlocks hroom with
            ⟨rounds, sent, collected, rest, h, hend, haction⟩
        have hlength := h.length
        have hmore : 0 < rest.length := List.length_pos_iff.mpr h.more
        -- The numbers last, so it is the last block that is left.
        rcases hend with hwraps | ⟨hbelow, hlast⟩
        · rw [hwraps] at hlength
          omega
        refine ⟨_, haction.trans (sendActionBlocks_last_reports handler serverOptions clientOptions
          descriptor state.invokeIds.next responses hvalid
          { state with invokeIds := state.invokeIds.take.2 } answer device hanswer hdescriptor
          rounds sent data collected rest h hdecodable hroom hlast hlimit hbelow hhandler),
        rfl, rfl, ?_⟩
        exact ⟨hidle.getBlocks, hidle.setBlocks, rfl⟩

end Action

end Xdlms

end Dlms
