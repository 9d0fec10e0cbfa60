import Dlms.Xdlms.Encoding
import Dlms.Xdlms.Slicer

/-!
# The services as collectors and as a slicer

The SET and the ACTION service move their block states as collectors do, and
the GET service moves its state as a slicer does: whatever the request is and
however it ends, one request is one step of the abstract machine. The lemmas
are about a handler that writes down its indications, so that they also say
what the handler is called with.

## Main definitions

* `setEvent`, `actionEvent`: The datablock of a request.
* `servedBlock`, `answerOf`: The datablock of a response, and the data behind
  it.
* `SetRequestBlockState.collector`, `ActionRequestBlockState.collector`,
  `GetResponseBlockState.slicer`: The block states as abstract machines.

## Theorems

* `takes_processSetRequest`, `takes_processActionRequest`,
  `serves_processGetRequest`: One request is one step.
* `servedBlock_encodeGetResponse`, `servedBlock_encodeGetDataBlockResponse`:
  Which responses carry a datablock.
-/

namespace Dlms

namespace Xdlms

open Apdu (Bytes DataBlock XdlmsApdu)

/-! ### The datablocks of requests -/

def setEvent (request : XdlmsApdu) : Option (BlockEvent CosemAttributeDescriptor) :=
  match request with
  | .setRequest (.withFirstDataBlock iip normal dataBlock) =>
      some (.first (toXdlmsDescriptor normal.descriptor) (iip &&& 0x0F) dataBlock)
  | .setRequest (.withDataBlock iip dataBlock) => some (.following (iip &&& 0x0F) dataBlock)
  | _ => none

def actionEvent (request : XdlmsApdu) : Option (BlockEvent CosemMethodDescriptor) :=
  match request with
  | .actionRequest (.withFirstPblock iip descriptor dataBlock) =>
      some (.first (toXdlmsMethodDescriptor descriptor) (iip &&& 0x0F) dataBlock)
  | .actionRequest (.withPblock iip dataBlock) => some (.following (iip &&& 0x0F) dataBlock)
  | _ => none

/-- The block a response carries to a GET. -/
def servedBlock (response : Except XdlmsStatus Bytes) : Option DataBlock :=
  match response with
  | .error _ => none
  | .ok responseApdu =>
      match Apdu.decodeXdlmsApdu responseApdu with
      | .ok (.getResponse (.withDataBlock _ dataBlock)) => some dataBlock
      | _ => none

/-- The data a handler gives to the one GET among its calls. -/
def answerOf {δ : Type} (handler : XdlmsServerHandler δ) (device : δ)
    (calls : List ServiceIndication) : Option Bytes :=
  match calls with
  | [.get indication] => (handler.handleGet indication device).1.toOption.map (·.data)
  | _ => none

/-! ### The block states as abstract machines -/

def SetRequestBlockState.collector (blocks : SetRequestBlockState) :
    Collector CosemAttributeDescriptor where
  active := blocks.active
  invokeId := blocks.invokeId
  limit := blocks.options.maxBlockTransferBytes
  descriptor := blocks.descriptor
  nextBlockNumber := blocks.nextBlockNumber
  data := blocks.data

def ActionRequestBlockState.collector (blocks : ActionRequestBlockState) :
    Collector CosemMethodDescriptor where
  active := blocks.active
  invokeId := blocks.invokeId
  limit := blocks.options.maxBlockTransferBytes
  descriptor := blocks.descriptor
  nextBlockNumber := blocks.nextBlockNumber
  data := blocks.data

def GetResponseBlockState.slicer (blocks : GetResponseBlockState) : Slicer where
  active := blocks.active
  nextBlockNumber := blocks.nextBlockNumber
  offset := blocks.offset
  data := blocks.data

/-- A complete value on its way to the handler. -/
def SetIndication.delivery (indication : SetIndication) : Delivery CosemAttributeDescriptor where
  descriptor := indication.descriptor
  invokeId := indication.invokeId
  data := indication.data

def ActionIndication.delivery (indication : ActionIndication) :
    Delivery CosemMethodDescriptor where
  descriptor := indication.descriptor
  invokeId := indication.invokeId
  data := indication.parameter.getD []

/-! ### The services move as the abstract machines do -/

section Services

variable {δ : Type} (handler : XdlmsServerHandler δ) (options : ServiceOptions)
  (device : δ × List ServiceIndication)

/-- A SET calls the handler with its indication or not at all. -/
theorem log_answerSet (indication : SetIndication)
    (encode : UInt8 → SetResult → Except XdlmsStatus Bytes) :
    ∃ calls, (answerSet (recordingHandler handler) indication encode device).2.2 =
        device.2 ++ calls ∧ ∀ call ∈ calls, call = .set indication := by
  unfold answerSet
  rcases dispatchSet_cases (recordingHandler handler) indication device with
    ⟨status, h⟩ | ⟨-, h⟩
  · rw [h]
    exact ⟨[], (List.append_nil _).symm, fun _ hmem => absurd hmem List.not_mem_nil⟩
  · rw [h]
    refine ⟨[.set indication], ?_, fun _ hmem => List.mem_singleton.mp hmem⟩
    simp only [recordingHandler]
    cases (handler.handleSet indication device.1).1 with
    | error status => rfl
    | ok result => rfl

theorem log_answerAction (indication : ActionIndication) :
    ∃ calls, (answerAction (recordingHandler handler) indication device).2.2 =
        device.2 ++ calls ∧ ∀ call ∈ calls, call = .action indication := by
  unfold answerAction
  rcases dispatchAction_cases (recordingHandler handler) indication device with
    ⟨status, h⟩ | ⟨-, h⟩
  · rw [h]
    exact ⟨[], (List.append_nil _).symm, fun _ hmem => absurd hmem List.not_mem_nil⟩
  · rw [h]
    refine ⟨[.action indication], ?_, fun _ hmem => List.mem_singleton.mp hmem⟩
    simp only [recordingHandler]
    cases (handler.handleAction indication device.1).1 with
    | error status => rfl
    | ok result => rfl

theorem log_validateAndAnswerAction (indication : ActionIndication) (parameter : Bytes) :
    ∃ calls, (validateAndAnswerAction (recordingHandler handler) indication parameter
          device).2.2 = device.2 ++ calls ∧
      ∀ call ∈ calls, call = .action { indication with parameter := some parameter } := by
  unfold validateAndAnswerAction
  cases validateEncodedActionParameter parameter with
  | error status =>
      exact ⟨[], (List.append_nil _).symm, fun _ hmem => absurd hmem List.not_mem_nil⟩
  | ok valid => exact log_answerAction handler device _

/-- One SET request: how its datablock is taken, and what the handler is called
    with. A call that comes with a datablock is a delivery. -/
theorem takes_processSetRequest (request : Apdu.SetRequest) (blocks : SetRequestBlockState) :
    ∃ delivery calls,
      Takes options.maxBlockTransferBytes (setEvent (.setRequest request)) blocks.collector
        (processSetRequest (recordingHandler handler) options request blocks device).2.1.collector
        delivery ∧
      (processSetRequest (recordingHandler handler) options request blocks device).2.2.2 =
        device.2 ++ calls ∧
      ∀ call ∈ calls, ∃ indication, call = ServiceIndication.set indication ∧
        ((setEvent (.setRequest request)).isSome → delivery = some indication.delivery) := by
  -- A branch that answers nothing leaves the log as it is.
  have hsilent : device.2 = device.2 ++ [] ∧ ∀ call ∈ ([] : List ServiceIndication), ∃ indication,
      call = ServiceIndication.set indication ∧
      ((setEvent (.setRequest request)).isSome → none = some indication.delivery) :=
    ⟨(List.append_nil _).symm, fun call hmem => absurd hmem List.not_mem_nil⟩
  have houtcome := processSetRequest_outcome (recordingHandler handler) options request blocks
    device
  generalize processSetRequest (recordingHandler handler) options request blocks device = out
    at houtcome ⊢
  cases houtcome with
  | withList iip list values => exact ⟨none, [], .same _ _ rfl, hsilent⟩
  | withListAndFirstDataBlock iip list dataBlock => exact ⟨none, [], .same _ _ rfl, hsilent⟩
  | normalRefused iip normal data => exact ⟨none, [], .same _ _ rfl, hsilent⟩
  | normal iip normal data indication encoded =>
      rcases log_answerSet handler device indication encodeSetResponse with ⟨calls, hlog, hcalls⟩
      exact ⟨none, calls, .same _ _ rfl, hlog, fun call hmem =>
        ⟨indication, hcalls call hmem, fun hevent => absurd hevent Bool.false_ne_true⟩⟩
  | firstRefused iip normal dataBlock status after hexpects hafter hinactive =>
      exact ⟨none, [], .refused _ _ _ hinactive, hsilent⟩
  | firstAcknowledged iip normal dataBlock hexpects hlast =>
      exact ⟨none, [], .opened _ _ _ _ _ hexpects.2.2.1 hlast hexpects.2.2.2.2 rfl, hsilent⟩
  | firstAnswered iip normal dataBlock indication answer hexpects hlast hindication hanswer =>
      subst hanswer
      rcases log_answerSet handler device indication (fun iip => encodeSetLastBlockResponse iip 1)
        with ⟨calls, hlog, hcalls⟩
      exact ⟨_, calls, .only _ _ _ _ _ hexpects.2.2.1 hlast hexpects.2.2.2.2 hexpects.1, hlog,
        fun call hmem => ⟨indication, hcalls call hmem, fun _ => by rw [hindication]; rfl⟩⟩
  | nextRefused iip dataBlock status after hexpects hafter hinactive =>
      exact ⟨none, [], .refused _ _ _ hinactive, hsilent⟩
  | nextAcknowledged iip dataBlock hexpects hlast =>
      rcases hexpects with ⟨hactive, hinvoke, hnumber, hsize, hroom⟩
      refine ⟨none, [], ?_, hsilent⟩
      rw [setEvent, hinvoke]
      exact .continued dataBlock blocks.collector _ hactive hnumber hlast
        (Nat.add_le_of_le_sub hsize hroom) rfl
  | nextAnswered iip dataBlock indication answer hexpects hlast hindication hanswer =>
      subst hanswer
      rcases hexpects with ⟨hactive, hinvoke, hnumber, hsize, hroom⟩
      rcases log_answerSet handler device indication
        (fun iip => encodeSetLastBlockResponse iip dataBlock.blockNumber) with
        ⟨calls, hlog, hcalls⟩
      refine ⟨some ⟨blocks.descriptor, blocks.invokeId, blocks.data ++ dataBlock.rawData⟩, calls,
        ?_, hlog, fun call hmem => ⟨indication, hcalls call hmem, fun _ => by
          rw [hindication]; rfl⟩⟩
      rw [setEvent, hinvoke]
      exact .completed dataBlock blocks.collector _ hactive hnumber hlast
        (Nat.add_le_of_le_sub hsize hroom) rfl

/-- One ACTION request, in the same way. -/
theorem takes_processActionRequest (request : Apdu.ActionRequest)
    (blocks : ActionRequestBlockState) :
    ∃ delivery calls,
      Takes options.maxBlockTransferBytes (actionEvent (.actionRequest request)) blocks.collector
        (processActionRequest (recordingHandler handler) options request blocks
          device).2.1.collector delivery ∧
      (processActionRequest (recordingHandler handler) options request blocks device).2.2.2 =
        device.2 ++ calls ∧
      ∀ call ∈ calls, ∃ indication, call = ServiceIndication.action indication ∧
        ((actionEvent (.actionRequest request)).isSome →
          indication.parameter.isSome ∧ delivery = some indication.delivery) := by
  have hsilent : device.2 = device.2 ++ [] ∧ ∀ call ∈ ([] : List ServiceIndication), ∃ indication,
      call = ServiceIndication.action indication ∧
      ((actionEvent (.actionRequest request)).isSome →
        indication.parameter.isSome ∧ none = some indication.delivery) :=
    ⟨(List.append_nil _).symm, fun call hmem => absurd hmem List.not_mem_nil⟩
  have houtcome := processActionRequest_outcome (recordingHandler handler) options request blocks
    device
  generalize processActionRequest (recordingHandler handler) options request blocks device = out
    at houtcome ⊢
  cases houtcome with
  | nextPblock iip blockNumber => exact ⟨none, [], .same _ _ rfl, hsilent⟩
  | withList iip list => exact ⟨none, [], .same _ _ rfl, hsilent⟩
  | withListAndFirstPblock iip list dataBlock => exact ⟨none, [], .same _ _ rfl, hsilent⟩
  | normalRefused iip normal => exact ⟨none, [], .same _ _ rfl, hsilent⟩
  | normal iip normal indication =>
      -- A call without a datablock is no delivery.
      rcases log_answerAction handler device indication with ⟨calls, hlog, hcalls⟩
      exact ⟨none, calls, .same _ _ rfl, hlog, fun call hmem =>
        ⟨indication, hcalls call hmem, fun hevent => absurd hevent Bool.false_ne_true⟩⟩
  | firstRefused iip descriptor dataBlock status after hexpects hafter hinactive =>
      exact ⟨none, [], .refused _ _ _ hinactive, hsilent⟩
  | firstAcknowledged iip descriptor dataBlock hexpects hlast =>
      exact ⟨none, [], .opened _ _ _ _ _ hexpects.2.1 hlast hexpects.2.2.2 rfl, hsilent⟩
  | firstAnswered iip descriptor dataBlock indication answer hexpects hlast hindication hanswer =>
      subst hanswer
      rcases log_validateAndAnswerAction handler device indication dataBlock.rawData with
        ⟨calls, hlog, hcalls⟩
      exact ⟨_, calls, .only _ _ _ _ _ hexpects.2.1 hlast hexpects.2.2.2 hexpects.1, hlog,
        fun call hmem => ⟨_, hcalls call hmem, fun _ => ⟨rfl, by rw [hindication]; rfl⟩⟩⟩
  | nextRefused iip dataBlock status after hexpects hafter hinactive =>
      exact ⟨none, [], .refused _ _ _ hinactive, hsilent⟩
  | nextAcknowledged iip dataBlock hexpects hlast =>
      rcases hexpects with ⟨hactive, hinvoke, hnumber, hsize, hroom⟩
      refine ⟨none, [], ?_, hsilent⟩
      rw [actionEvent, hinvoke]
      exact .continued dataBlock blocks.collector _ hactive hnumber hlast
        (Nat.add_le_of_le_sub hsize hroom) rfl
  | nextAnswered iip dataBlock indication answer hexpects hlast hindication hanswer =>
      subst hanswer
      rcases hexpects with ⟨hactive, hinvoke, hnumber, hsize, hroom⟩
      rcases log_validateAndAnswerAction handler device indication
        (blocks.data ++ dataBlock.rawData) with ⟨calls, hlog, hcalls⟩
      refine ⟨some ⟨blocks.descriptor, blocks.invokeId, blocks.data ++ dataBlock.rawData⟩, calls,
        ?_, hlog, fun call hmem => ⟨_, hcalls call hmem, fun _ => ⟨rfl, by
          rw [hindication]; rfl⟩⟩⟩
      rw [actionEvent, hinvoke]
      exact .completed dataBlock blocks.collector _ hactive hnumber hlast
        (Nat.add_le_of_le_sub hsize hroom) rfl

/-- A whole answer is no block. -/
theorem servedBlock_encodeGetResponse (iip : UInt8) (result : GetResult) :
    servedBlock (encodeGetResponse iip result) = none := by
  cases hencoded : encodeGetResponse iip result with
  | error status => rfl
  | ok bytes =>
      -- Whatever is encoded as a normal response has the first choice.
      have hframe : ∃ rest, bytes = Apdu.serviceApduBytes Apdu.getResponseTag 1 iip rest := by
        have hresult (dataResult : Apdu.GetDataResult)
            (h : encodeResponse (.getResponse (.normal iip dataResult)) = .ok bytes) :
            ∃ rest, bytes = Apdu.serviceApduBytes Apdu.getResponseTag 1 iip rest := by
          rw [encodeResponse] at h
          rcases hrun : Apdu.encodeXdlmsApdu (.getResponse (.normal iip dataResult)) with
            status | written
          · rw [hrun] at h
            cases h
          · rw [hrun, Except.ok.injEq] at h
            rw [← h]
            exact Apdu.serviceApduBytes_of_runEmitter _ _ _ _
              (Apdu.uniform_encodeGetDataResult dataResult) _ _ hrun
        unfold encodeGetResponse at hencoded
        split at hencoded
        · exact hresult _ hencoded
        · split at hencoded
          · rcases hvalue : decodeEncodedData result.data with status | value
            · rw [hvalue] at hencoded
              exact absurd hencoded (by simp [bind, Except.bind])
            · rw [hvalue] at hencoded
              exact hresult _ hencoded
          · cases hencoded
      rcases hframe with ⟨rest, rfl⟩
      simp only [servedBlock, Apdu.decodeXdlmsApdu_getResponse]
      cases hdecoded : Apdu.decodeGetResponse
          (Apdu.serviceApduBytes Apdu.getResponseTag 1 iip rest) Apdu.maximumDataDepth with
      | error status => rfl
      | ok response =>
          rcases Apdu.normal_of_decodeGetResponse _ _ _ _ hdecoded with ⟨dataResult, rfl⟩
          rfl

/-- A block that is sent arrives as it is. -/
theorem servedBlock_encodeGetDataBlockResponse (iip : UInt8) (dataBlock : DataBlock)
    (bytes : Bytes) (h : encodeGetDataBlockResponse iip dataBlock = .ok bytes) :
    servedBlock (.ok bytes) = some dataBlock := by
  rw [encodeGetDataBlockResponse_eq, buffered] at h
  by_cases hfits : (Apdu.getResponseBlockBytes iip dataBlock).length ≤ Apdu.apduBufferSize
  · rw [if_pos hfits, Except.ok.injEq] at h
    rw [← h]
    have hsize : dataBlock.rawData.length < 256 ^ Apdu.sizeOctets := by
      rw [length_getResponseBlockBytes, Apdu.apduBufferSize] at hfits
      have hsmall : 2048 < 256 ^ Apdu.sizeOctets := by decide
      omega
    simp [servedBlock, decode_getResponseBlock iip dataBlock hsize]
  · rw [if_neg hfits] at h
    cases h

/-- The next block is cut off the front of what is left, or nothing is sent and
    the transfer ends. -/
theorem cuts_sendNextGetResponseBlock (blocks : GetResponseBlockState) :
    (∃ status, sendNextGetResponseBlock blocks = (.error status, {})) ∨
      ∃ size, servedBlock (sendNextGetResponseBlock blocks).1 =
          some (nextGetResponseBlock blocks) ∧
        Cuts blocks.slicer (nextGetResponseBlock blocks) size
          (sendNextGetResponseBlock blocks).2.slicer := by
  unfold sendNextGetResponseBlock
  split_ifs with hidle
  · exact .inl ⟨_, rfl⟩
  · simp only []
    cases hencoded : encodeGetDataBlockResponse
        (makeInvokeIdAndPriority blocks.invokeId blocks.options) (nextGetResponseBlock blocks) with
    | error status => exact .inl ⟨status, rfl⟩
    | ok responseApdu =>
        -- The block that was encoded is the one that arrives.
        have hserved := servedBlock_encodeGetDataBlockResponse _ _ _ hencoded
        rw [not_or, not_or] at hidle
        refine .inr ⟨(nextGetResponseBlock blocks).rawData.length, ?_, ?_⟩
        · split_ifs
          · exact hserved
          · exact hserved
        · have hlength := length_nextGetResponseBlock blocks
          have hlast := lastBlock_nextGetResponseBlock blocks
          exact
            { positive := by omega
              room := by
                show blocks.offset + _ ≤ blocks.data.length
                omega
              number := rfl
              rawData := by
                rw [hlength]
                rfl
              last := hlast
              stops := by
                intro hmarked
                simp only [hmarked, if_true]
                rfl
              goesOn := by
                intro hmore
                simp only [hmore, Bool.false_eq_true, if_false]
                rfl }

/-- An answer in one response or none leaves no transfer; one in blocks starts
    it. -/
theorem serves_startBlocks (iip : UInt8) (indication : GetIndication) (result : GetResult)
    (blocks : GetResponseBlockState) (hidle : blocks.active = false) :
    Serves (some result.data) blocks.slicer
      (encodeGetResponseOrStartBlocks iip indication result blocks).2.slicer
      (servedBlock (encodeGetResponseOrStartBlocks iip indication result blocks).1) := by
  unfold encodeGetResponseOrStartBlocks
  split_ifs
  · rw [servedBlock_encodeGetResponse]
    exact .stopped _ _ _ hidle
  · exact .stopped _ _ _ hidle
  · exact .stopped _ _ _ hidle
  · exact .stopped _ _ _ hidle
  · generalize hstart : ({ active := true
                           invokeId := indication.invokeId
                           options := indication.options
                           nextBlockNumber := 1
                           offset := 0
                           data := result.data } : GetResponseBlockState) = start
    have hslicer : start.slicer = ⟨true, 1, 0, result.data⟩ := by
      rw [← hstart]
      rfl
    rcases cuts_sendNextGetResponseBlock start with ⟨status, hfailed⟩ | ⟨size, hserved, hcuts⟩
    · simp only [hfailed]
      exact .stopped _ _ _ rfl
    · simp only [hserved]
      rw [hslicer] at hcuts
      exact .started _ _ size _ _ hcuts

/-- One GET request: what the handler gives to it, and how the answer is
    served. -/
theorem serves_processGetRequest (request : Apdu.GetRequest) (blocks : GetResponseBlockState) :
    ∃ calls,
      (processGetRequest (recordingHandler handler) options request blocks device).2.2.2 =
        device.2 ++ calls ∧
      (∀ call ∈ calls, ∃ indication, call = ServiceIndication.get indication) ∧
      Serves (answerOf handler device.1 calls) blocks.slicer
        (processGetRequest (recordingHandler handler) options request blocks device).2.1.slicer
        (servedBlock
          (processGetRequest (recordingHandler handler) options request blocks device).1) := by
  -- Only a normal request that starts anew calls the handler.
  have hsilent : ∀ call ∈ ([] : List ServiceIndication), ∃ indication,
      call = ServiceIndication.get indication :=
    fun call hmem => absurd hmem List.not_mem_nil
  have houtcome := processGetRequest_outcome (recordingHandler handler) options request blocks
    device
  generalize processGetRequest (recordingHandler handler) options request blocks device = out
    at houtcome ⊢
  cases houtcome with
  | withList iip list => exact ⟨[], (List.append_nil _).symm, hsilent, .same _ _ rfl⟩
  | nextRefused iip blockNumber status after hexpects hafter hinactive =>
      exact ⟨[], (List.append_nil _).symm, hsilent, .stopped _ _ _ hinactive⟩
  | next iip blockNumber hexpects =>
      refine ⟨[], (List.append_nil _).symm, hsilent, ?_⟩
      rcases cuts_sendNextGetResponseBlock blocks with ⟨status, hfailed⟩ | ⟨size, hserved, hcuts⟩
      · simp only [hfailed]
        exact .stopped _ _ _ rfl
      · simp only [hserved]
        exact .continued _ size _ _ hexpects.1 hcuts
  | normalRefused iip normal status after hrefused hafter hinactive =>
      exact ⟨[], (List.append_nil _).symm, hsilent, .stopped _ _ _ hinactive⟩
  | normal iip normal indication answer after hidle hselection hconfirmed hindication hanswer =>
      rcases dispatchGet_cases (recordingHandler handler) indication device with
        ⟨cause, h⟩ | ⟨-, h⟩
      · rcases hanswer with ⟨status, hdispatched, rfl⟩ | ⟨result, hdispatched, -⟩
        · rw [h] at hdispatched
          rw [← congrArg Prod.snd hdispatched]
          exact ⟨[], (List.append_nil _).symm, hsilent, .same _ _ rfl⟩
        · cases congrArg Prod.fst (h.symm.trans hdispatched)
      · rw [h] at hanswer
        have hcall : ∀ call ∈ [ServiceIndication.get indication], ∃ indication,
            call = ServiceIndication.get indication :=
          fun call hmem => ⟨indication, List.mem_singleton.mp hmem⟩
        refine ⟨[.get indication], ?_, hcall, ?_⟩
        · rcases hanswer with ⟨status, hdispatched, -⟩ | ⟨result, hdispatched, -⟩
          · exact (congrArg (fun out => out.2.2) hdispatched).symm
          · exact (congrArg (fun out => out.2.2) hdispatched).symm
        · simp only [recordingHandler] at hanswer
          cases hresult : (handler.handleGet indication device.1).1 with
          | error status =>
              simp only [answerOf, hresult, Except.toOption, Option.map_none]
              rcases hanswer with ⟨status, -, rfl⟩ | ⟨result, hdispatched, -⟩
              · exact .same _ _ rfl
              · rw [hresult] at hdispatched
                cases congrArg Prod.fst hdispatched
          | ok handled =>
              simp only [answerOf, hresult, Except.toOption, Option.map_some]
              rcases hanswer with ⟨status, hdispatched, -⟩ | ⟨result, hdispatched, rfl⟩
              · rw [hresult] at hdispatched
                cases congrArg Prod.fst hdispatched
              · rw [hresult] at hdispatched
                rw [← Except.ok.inj (congrArg Prod.fst hdispatched)]
                exact serves_startBlocks _ indication
                  { handled with invokeId := indication.invokeId }
                  blocks hidle

end Services

end Xdlms

end Dlms
