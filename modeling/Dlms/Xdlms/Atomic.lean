import Dlms.Machine.Run
import Dlms.Security.RoundTrip
import Dlms.Xdlms.Dispatch
import Dlms.Xdlms.Encoding

/-!
# Requests that fail half way

A request that is not answered should leave no trace in the block transfers:
each block state is as it was before, or reset. The services keep to this, and
reset a state whose block they could not encode. But the response of a service
is protected after the service is done. When that fails, the peer never sees a
response that has already moved a block state on: the block of a GET is lost,
and the peer does not know that its own block was taken.

A request moves a state on, and does not end its transfer, with one kind of
response: a block of a GET that more blocks follow, or the acknowledgement of a
block that is not the last. `continuation` says which response that is. So a
request is atomic exactly when this response, if there is one, can be
protected.

## Main definitions

* `Restored`: Each block state is as it was, or reset.
* `Atomic`: A failed request leaves the states so, and a GET does not go past a
  block that was not handed over.
* `continuation`: The response with which a request leaves a transfer under way.
* `Protectable`: That response can be protected.

## Theorems

* `processGetRequest_settles`, `processSetRequest_settles`,
  `processActionRequest_settles`: A service moves its state on with that
  response, or leaves it settled.
* `atomic_iff`: After every run, a request is atomic exactly when that response
  can be protected.
* `not_atomic`: A server runs out of counters in the middle of a GET.
-/

namespace Dlms

namespace Xdlms

open Apdu (Bytes DataBlock)
open Machine (Transition run transition final)

/-! ### The response that leaves a transfer under way -/

/-- The next block of a GET, when more follows it. -/
def openGetBlock (blocks : GetResponseBlockState) : Option Bytes :=
  if 0 < blocks.options.maxGetBlockPayloadBytes ∧
      blocks.offset + blocks.options.maxGetBlockPayloadBytes < blocks.data.length then
    (encodeGetDataBlockResponse (makeInvokeIdAndPriority blocks.invokeId blocks.options)
      (nextGetResponseBlock blocks)).toOption
  else
    none

/-- The block in front of the offset of a transfer, which was the last to be
    cut off. -/
def GetResponseBlockState.lastServed (blocks : GetResponseBlockState) : DataBlock where
  lastBlock := false
  blockNumber := blocks.nextBlockNumber - 1
  rawData := (blocks.data.take blocks.offset).drop
    (blocks.offset - blocks.options.maxGetBlockPayloadBytes)

/-- The first block of an answer that is cut into blocks. -/
def startContinuation (indication : GetIndication) (result : GetResult) : Option Bytes :=
  if result.hasData = true ∧
      result.data.length ≤ indication.options.maxBlockTransferBytes ∧
      indication.options.allowBlockTransfer = true then
    openGetBlock
      { active := true
        invokeId := indication.invokeId
        options := indication.options
        nextBlockNumber := 1
        offset := 0
        data := result.data }
  else
    none

section Services

variable {σ δ : Type} (handler : XdlmsServerHandler δ) (options : ServiceOptions)

def getContinuation (request : Apdu.GetRequest) (getBlocks : GetResponseBlockState)
    (device : δ) : Option Bytes :=
  match request with
  | .next iip blockNumber =>
      if getBlocks.active = true ∧ iip &&& 0x0F = getBlocks.invokeId ∧
          blockNumber = getBlocks.nextBlockNumber - 1 then
        openGetBlock getBlocks
      else
        none
  | .withList _ _ => none
  | .normal iip normal =>
      let indication : GetIndication :=
        { invokeId := iip &&& 0x0F
          options := parseServiceOptions iip options
          descriptor := toXdlmsDescriptor normal.descriptor }
      if getBlocks.active = true ∨ normal.selection.isSome = true ∨
          indication.options.confirmed = false then
        none
      else
        match (dispatchGet handler indication device).1 with
        | .error _ => none
        | .ok result => startContinuation indication result

def setContinuation (request : Apdu.SetRequest) (setBlocks : SetRequestBlockState) :
    Option Bytes :=
  match request with
  | .withFirstDataBlock iip normal dataBlock =>
      if setBlocks.active = false ∧ normal.selection.isSome = false ∧ dataBlock.blockNumber = 1 ∧
          (parseServiceOptions iip options).confirmed = true ∧
          dataBlock.rawData.length ≤ options.maxBlockTransferBytes ∧
          dataBlock.lastBlock = false then
        (encodeSetBlockAckResponse iip 1).toOption
      else
        none
  | .withDataBlock iip dataBlock =>
      if setBlocks.active = true ∧ iip &&& 0x0F = setBlocks.invokeId ∧
          dataBlock.blockNumber = setBlocks.nextBlockNumber ∧
          dataBlock.rawData.length ≤ setBlocks.options.maxBlockTransferBytes ∧
          setBlocks.data.length ≤
            setBlocks.options.maxBlockTransferBytes - dataBlock.rawData.length ∧
          dataBlock.lastBlock = false then
        (encodeSetBlockAckResponse iip dataBlock.blockNumber).toOption
      else
        none
  | _ => none

def actionContinuation (request : Apdu.ActionRequest) (actionBlocks : ActionRequestBlockState) :
    Option Bytes :=
  match request with
  | .withFirstPblock iip _ dataBlock =>
      if actionBlocks.active = false ∧ dataBlock.blockNumber = 1 ∧
          (parseServiceOptions iip options).confirmed = true ∧
          dataBlock.rawData.length ≤ options.maxBlockTransferBytes ∧
          dataBlock.lastBlock = false then
        (encodeActionNextPblockResponse iip 1).toOption
      else
        none
  | .withPblock iip dataBlock =>
      if actionBlocks.active = true ∧ iip &&& 0x0F = actionBlocks.invokeId ∧
          dataBlock.blockNumber = actionBlocks.nextBlockNumber ∧
          dataBlock.rawData.length ≤ actionBlocks.options.maxBlockTransferBytes ∧
          actionBlocks.data.length ≤
            actionBlocks.options.maxBlockTransferBytes - dataBlock.rawData.length ∧
          dataBlock.lastBlock = false then
        (encodeActionNextPblockResponse iip dataBlock.blockNumber).toOption
      else
        none
  | _ => none

/-- The response with which a request leaves a transfer of its service under
    way, before it is protected. -/
def continuation (request : Apdu.XdlmsApdu) (state : XdlmsServerState σ δ) : Option Bytes :=
  match request with
  | .getRequest request => getContinuation handler options request state.getBlocks state.device
  | .setRequest request => setContinuation options request state.setBlocks
  | .actionRequest request => actionContinuation options request state.actionBlocks
  | _ => none

/-! ### One service -/

/-- A service moves its state on with a response, or leaves it settled. -/
def Settles {β : Type} (empty before : β) (continued : Option Bytes)
    (response : Except XdlmsStatus Bytes) (after : β) : Prop :=
  match continued with
  | none => after = before ∨ after = empty
  | some plain => response = .ok plain ∧ after ≠ before ∧ after ≠ empty

/-- Not even the last block number of all is its own successor. -/
theorem succ_ne_self (number : UInt32) : number + 1 ≠ number := by
  rw [ne_eq, UInt32.add_eq_left]
  decide

/-- A transfer with data behind its offset is not the empty one. -/
theorem ne_empty_of_active (blocks : GetResponseBlockState) (h : blocks.active = true) :
    blocks ≠ {} := by
  intro hempty
  rw [hempty] at h
  exact absurd h Bool.false_ne_true

/-- Sending the next block of a transfer, from the state before it was started
    or from the transfer itself. -/
theorem sendNextGetResponseBlock_settles (before blocks : GetResponseBlockState)
    (hactive : blocks.active = true)
    (hbefore : before = blocks ∨ before.active = false) :
    Settles {} before (openGetBlock blocks) (sendNextGetResponseBlock blocks).1
        (sendNextGetResponseBlock blocks).2 ∧
      ∀ plain, openGetBlock blocks = some plain →
        encodeGetDataBlockResponse
          (makeInvokeIdAndPriority (sendNextGetResponseBlock blocks).2.invokeId
            (sendNextGetResponseBlock blocks).2.options)
          (sendNextGetResponseBlock blocks).2.lastServed = .ok plain := by
  have hlast : (nextGetResponseBlock blocks).lastBlock = true ↔
      blocks.offset + min (blocks.data.length - blocks.offset)
        blocks.options.maxGetBlockPayloadBytes = blocks.data.length := by
    simp [nextGetResponseBlock]
  unfold openGetBlock sendNextGetResponseBlock
  by_cases hrefused : !blocks.active ∨ blocks.options.maxGetBlockPayloadBytes = 0 ∨
      blocks.offset ≥ blocks.data.length
  · have hclosed : ¬(0 < blocks.options.maxGetBlockPayloadBytes ∧
        blocks.offset + blocks.options.maxGetBlockPayloadBytes < blocks.data.length) := by
      rw [hactive] at hrefused
      rcases hrefused with h | h | h
      · exact absurd h Bool.false_ne_true
      · omega
      · omega
    rw [if_pos hrefused, if_neg hclosed]
    exact ⟨.inr rfl, fun _ h => by cases h⟩
  · rw [if_neg hrefused]
    rw [not_or, not_or] at hrefused
    simp only []
    cases hencoded : encodeGetDataBlockResponse
        (makeInvokeIdAndPriority blocks.invokeId blocks.options) (nextGetResponseBlock blocks) with
    | error status =>
        simp only [Except.toOption, ite_self]
        exact ⟨.inr rfl, fun _ h => by cases h⟩
    | ok responseApdu =>
        simp only [Except.toOption]
        by_cases hmore : 0 < blocks.options.maxGetBlockPayloadBytes ∧
            blocks.offset + blocks.options.maxGetBlockPayloadBytes < blocks.data.length
        · -- The payload is smaller than what is left, so this is not the last block.
          have hnotLast : (nextGetResponseBlock blocks).lastBlock = false := by
            rw [Bool.eq_false_iff, ne_eq, hlast]
            omega
          have hsize : (nextGetResponseBlock blocks).rawData.length =
              blocks.options.maxGetBlockPayloadBytes := by
            rw [length_nextGetResponseBlock]
            omega
          rw [if_pos hmore, hnotLast]
          simp only [Bool.false_eq_true, if_false]
          refine ⟨⟨rfl, ?_, ?_⟩, ?_⟩
          · -- A payload was cut off, or else there was no transfer before.
            intro hsame
            rcases hbefore with rfl | hidle
            · have hoffset := congrArg GetResponseBlockState.offset hsame
              simp only [hsize] at hoffset
              omega
            · rw [← hsame] at hidle
              rw [hactive] at hidle
              exact absurd hidle (by decide)
          · exact ne_empty_of_active _ hactive
          · -- The block that was sent lies in front of the offset now.
            intro plain hplain
            rw [← Option.some.inj hplain, ← hencoded]
            congr 1
            rw [GetResponseBlockState.lastServed, hsize]
            have hrest : min (blocks.data.length - blocks.offset)
                blocks.options.maxGetBlockPayloadBytes =
                  blocks.options.maxGetBlockPayloadBytes := by
              omega
            have hnumber : blocks.nextBlockNumber + 1 - 1 = blocks.nextBlockNumber :=
              UInt32.add_sub_cancel ..
            rw [Nat.add_sub_cancel, hnumber, List.drop_take, Nat.add_sub_cancel_left,
              nextGetResponseBlock, hrest]
            have hopen : ¬(blocks.offset + blocks.options.maxGetBlockPayloadBytes =
                blocks.data.length) := by
              omega
            simp [beq_eq_false_iff_ne.mpr hopen]
        · have hisLast : (nextGetResponseBlock blocks).lastBlock = true := by
            rw [hlast]
            omega
          rw [if_neg hmore, hisLast]
          simp only [if_true]
          exact ⟨.inr rfl, fun _ h => by cases h⟩

/-- What a service says that moved nothing on. -/
theorem settles_none (before after : GetResponseBlockState)
    (response : Except XdlmsStatus Bytes) (h : after = before ∨ after = {}) :
    Settles {} before none response after ∧
      ∀ plain, (none : Option Bytes) = some plain →
        encodeGetDataBlockResponse (makeInvokeIdAndPriority after.invokeId after.options)
          after.lastServed = .ok plain :=
  ⟨h, fun _ h => by cases h⟩

/-- The answer of a handler is in one response, refused, or cut into blocks. -/
theorem encodeGetResponseOrStartBlocks_settles (iip : UInt8) (indication : GetIndication)
    (result : GetResult) (blocks : GetResponseBlockState) (hidle : blocks.active = false) :
    Settles {} blocks (startContinuation indication result)
        (encodeGetResponseOrStartBlocks iip indication result blocks).1
        (encodeGetResponseOrStartBlocks iip indication result blocks).2 ∧
      ∀ plain, startContinuation indication result = some plain →
        encodeGetDataBlockResponse
          (makeInvokeIdAndPriority
            (encodeGetResponseOrStartBlocks iip indication result blocks).2.invokeId
            (encodeGetResponseOrStartBlocks iip indication result blocks).2.options)
          (encodeGetResponseOrStartBlocks iip indication result blocks).2.lastServed =
            .ok plain := by
  unfold encodeGetResponseOrStartBlocks startContinuation
  -- What fits one payload is not cut, and a first block of it would be the last.
  by_cases hwhole : (!result.hasData) = true ∨
      result.data.length ≤ indication.options.maxGetBlockPayloadBytes
  · rw [if_pos hwhole]
    by_cases hcut : result.hasData = true ∧
        result.data.length ≤ indication.options.maxBlockTransferBytes ∧
          indication.options.allowBlockTransfer = true
    · have hclosed : openGetBlock
          { active := true
            invokeId := indication.invokeId
            options := indication.options
            nextBlockNumber := 1
            offset := 0
            data := result.data } = none := by
        rw [hcut.1, Bool.not_true] at hwhole
        refine if_neg ?_
        simp only [Bool.false_eq_true, false_or] at hwhole
        simp only []
        omega
      rw [if_pos hcut, hclosed]
      exact settles_none _ _ _ (.inl rfl)
    · rw [if_neg hcut]
      exact settles_none _ _ _ (.inl rfl)
  · rw [if_neg hwhole]
    rw [not_or, Bool.not_eq_true', Bool.not_eq_false] at hwhole
    by_cases hlong : result.data.length > indication.options.maxBlockTransferBytes
    · rw [if_pos hlong, if_neg (by omega)]
      exact settles_none _ _ _ (.inl rfl)
    · rw [if_neg hlong]
      cases hallow : indication.options.allowBlockTransfer with
      | false =>
          simp only [Bool.not_false, if_true, Bool.false_eq_true, and_false, if_false]
          exact settles_none _ _ _ (.inl rfl)
      | true =>
          have hcut : result.hasData = true ∧
              result.data.length ≤ indication.options.maxBlockTransferBytes ∧ true = true :=
            ⟨hwhole.1, by omega, rfl⟩
          rw [if_pos hcut]
          simp only [Bool.not_true, Bool.false_eq_true, if_false]
          -- Without a payload size nothing can be cut off.
          by_cases hzero : indication.options.maxGetBlockPayloadBytes = 0
          · have hclosed : openGetBlock
                { active := true
                  invokeId := indication.invokeId
                  options := indication.options
                  nextBlockNumber := 1
                  offset := 0
                  data := result.data } = none := by
              refine if_neg ?_
              simp only []
              omega
            rw [if_pos hzero, hclosed]
            exact settles_none _ _ _ (.inl rfl)
          · rw [if_neg hzero]
            exact sendNextGetResponseBlock_settles blocks _ rfl (.inr hidle)

/-- A GET request moves its state on with a block that more blocks follow, and
    that block is the last one the state has behind it. -/
theorem processGetRequest_settles (request : Apdu.GetRequest) (blocks : GetResponseBlockState)
    (device : δ) :
    Settles {} blocks (getContinuation handler options request blocks device)
        (processGetRequest handler options request blocks device).1
        (processGetRequest handler options request blocks device).2.1 ∧
      ∀ plain, getContinuation handler options request blocks device = some plain →
        encodeGetDataBlockResponse
          (makeInvokeIdAndPriority
            (processGetRequest handler options request blocks device).2.1.invokeId
            (processGetRequest handler options request blocks device).2.1.options)
          (processGetRequest handler options request blocks device).2.1.lastServed =
            .ok plain := by
  have houtcome := processGetRequest_outcome handler options request blocks device
  generalize processGetRequest handler options request blocks device = out at houtcome ⊢
  cases houtcome with
  | withList iip list => exact settles_none _ _ _ (.inl rfl)
  | nextRefused iip blockNumber status after hexpects hafter =>
      rw [GetResponseBlockState.Expects] at hexpects
      rw [getContinuation, if_neg hexpects]
      exact settles_none _ _ _ hafter
  | next iip blockNumber hexpects =>
      rw [GetResponseBlockState.Expects] at hexpects
      rw [getContinuation, if_pos hexpects]
      exact sendNextGetResponseBlock_settles blocks blocks hexpects.1 (.inl rfl)
  | normalRefused iip normal status after hrefused hafter =>
      rw [getContinuation, if_pos hrefused]
      exact settles_none _ _ _ hafter
  | normal iip normal indication answer after hidle hselection hconfirmed hindication hanswer =>
      subst hindication
      simp only [getContinuation, hidle, hselection, hconfirmed, Bool.false_eq_true,
        Bool.true_eq_false, or_self, if_false]
      rcases hanswer with ⟨status, hdispatched, rfl⟩ | ⟨result, hdispatched, rfl⟩
      · rw [hdispatched]
        exact settles_none _ _ _ (.inl rfl)
      · rw [hdispatched]
        exact encodeGetResponseOrStartBlocks_settles _ _ result blocks hidle

/-- A SET request moves its state on with the acknowledgement of a block that
    is not the last. -/
theorem processSetRequest_settles (request : Apdu.SetRequest) (blocks : SetRequestBlockState)
    (device : δ) :
    Settles {} blocks (setContinuation options request blocks)
      (processSetRequest handler options request blocks device).1
      (processSetRequest handler options request blocks device).2.1 := by
  have houtcome := processSetRequest_outcome handler options request blocks device
  generalize processSetRequest handler options request blocks device = out at houtcome ⊢
  cases houtcome with
  | firstRefused iip normal dataBlock status after hexpects hafter =>
      rw [setContinuation, if_neg fun h =>
        hexpects ⟨h.1, h.2.1, h.2.2.1, h.2.2.2.1, h.2.2.2.2.1⟩]
      exact hafter
  | firstAcknowledged iip normal dataBlock hexpects hlast =>
      rcases id hexpects with ⟨hidle, hselection, hnumber, hconfirmed, hsize⟩
      rw [setContinuation, if_pos ⟨hidle, hselection, hnumber, hconfirmed, hsize, hlast⟩,
        encodeSetBlockAckResponse_eq]
      refine ⟨rfl, ?_, ?_⟩
      · intro hsame
        rw [← hsame] at hidle
        exact Bool.noConfusion (hidle : true = false)
      · intro hempty
        exact Bool.noConfusion (congrArg SetRequestBlockState.active hempty : true = false)
  | firstAnswered iip normal dataBlock indication answer hexpects hlast =>
      rw [setContinuation, if_neg fun h =>
        Bool.false_ne_true (h.2.2.2.2.2.symm.trans hlast)]
      exact .inl rfl
  | nextRefused iip dataBlock status after hexpects hafter =>
      rw [setContinuation, if_neg fun h =>
        hexpects ⟨h.1, h.2.1, h.2.2.1, h.2.2.2.1, h.2.2.2.2.1⟩]
      exact hafter
  | nextAcknowledged iip dataBlock hexpects hlast =>
      rcases hexpects with ⟨hactive, hinvoke, hnumber, hsize, hroom⟩
      rw [setContinuation, if_pos ⟨hactive, hinvoke, hnumber, hsize, hroom, hlast⟩,
        encodeSetBlockAckResponse_eq]
      refine ⟨rfl, ?_, ne_of_apply_ne SetRequestBlockState.active ?_⟩
      · intro hsame
        exact succ_ne_self _ (congrArg SetRequestBlockState.nextBlockNumber hsame)
      · rw [hactive]
        decide
  | nextAnswered iip dataBlock indication answer hexpects hlast =>
      rw [setContinuation, if_neg fun h =>
        Bool.false_ne_true (h.2.2.2.2.2.symm.trans hlast)]
      exact .inr rfl
  | _ => exact .inl rfl

/-- So does an ACTION request. -/
theorem processActionRequest_settles (request : Apdu.ActionRequest)
    (blocks : ActionRequestBlockState) (device : δ) :
    Settles {} blocks (actionContinuation options request blocks)
      (processActionRequest handler options request blocks device).1
      (processActionRequest handler options request blocks device).2.1 := by
  have houtcome := processActionRequest_outcome handler options request blocks device
  generalize processActionRequest handler options request blocks device = out at houtcome ⊢
  cases houtcome with
  | firstRefused iip descriptor dataBlock status after hexpects hafter =>
      rw [actionContinuation, if_neg fun h => hexpects ⟨h.1, h.2.1, h.2.2.1, h.2.2.2.1⟩]
      exact hafter
  | firstAcknowledged iip descriptor dataBlock hexpects hlast =>
      rcases id hexpects with ⟨hidle, hnumber, hconfirmed, hsize⟩
      rw [actionContinuation, if_pos ⟨hidle, hnumber, hconfirmed, hsize, hlast⟩,
        encodeActionNextPblockResponse_eq]
      refine ⟨rfl, ?_, ?_⟩
      · intro hsame
        rw [← hsame] at hidle
        exact Bool.noConfusion (hidle : true = false)
      · intro hempty
        exact Bool.noConfusion (congrArg ActionRequestBlockState.active hempty : true = false)
  | firstAnswered iip descriptor dataBlock indication answer hexpects hlast =>
      rw [actionContinuation, if_neg fun h => Bool.false_ne_true (h.2.2.2.2.symm.trans hlast)]
      exact .inl rfl
  | nextRefused iip dataBlock status after hexpects hafter =>
      rw [actionContinuation, if_neg fun h =>
        hexpects ⟨h.1, h.2.1, h.2.2.1, h.2.2.2.1, h.2.2.2.2.1⟩]
      exact hafter
  | nextAcknowledged iip dataBlock hexpects hlast =>
      rcases hexpects with ⟨hactive, hinvoke, hnumber, hsize, hroom⟩
      rw [actionContinuation, if_pos ⟨hactive, hinvoke, hnumber, hsize, hroom, hlast⟩,
        encodeActionNextPblockResponse_eq]
      refine ⟨rfl, ?_, ne_of_apply_ne ActionRequestBlockState.active ?_⟩
      · intro hsame
        exact succ_ne_self _ (congrArg ActionRequestBlockState.nextBlockNumber hsame)
      · rw [hactive]
        decide
  | nextAnswered iip dataBlock indication answer hexpects hlast =>
      rw [actionContinuation, if_neg fun h =>
        Bool.false_ne_true (h.2.2.2.2.2.symm.trans hlast)]
      exact .inr rfl
  | _ => exact .inl rfl

end Services

/-! ### The whole processor -/

section Processor

variable {σ δ : Type}

/-- The three block states are each as they were, or reset. -/
structure Restored (before after : XdlmsServerState σ δ) : Prop where
  get : after.getBlocks = before.getBlocks ∨ after.getBlocks = {}
  set : after.setBlocks = before.setBlocks ∨ after.setBlocks = {}
  action : after.actionBlocks = before.actionBlocks ∨ after.actionBlocks = {}

/-- The caller was given the block behind which a GET transfer stands now. -/
def HandedOver (security : Option (SecurityProcessor σ))
    (t : Transition Bytes (Except XdlmsStatus Bytes) (XdlmsServerState σ δ)) : Prop :=
  ∃ plain response,
    encodeGetDataBlockResponse
      (makeInvokeIdAndPriority t.after.getBlocks.invokeId t.after.getBlocks.options)
      t.after.getBlocks.lastServed = .ok plain ∧
    (protectResponse security plain (decodeRequest security t.input t.before.security).2).1 =
      .ok response ∧
    t.output = .ok response

/-- A request that fails leaves the block states as they were or reset, and one
    that moves a GET on hands the block over. -/
structure Atomic (security : Option (SecurityProcessor σ))
    (t : Transition Bytes (Except XdlmsStatus Bytes) (XdlmsServerState σ δ)) : Prop where
  restored : ∀ status, t.output = .error status → Restored t.before t.after
  handedOver : t.after.getBlocks ≠ t.before.getBlocks → t.after.getBlocks ≠ {} →
    HandedOver security t

variable (handler : XdlmsServerHandler δ) (options : ServiceOptions)
  (security : Option (SecurityProcessor σ))

/-- A response that leaves a transfer under way can be protected. -/
def Protectable (requestApdu : Bytes) (state : XdlmsServerState σ δ) : Prop :=
  ∀ request securityState plain,
    decodeRequest security requestApdu state.security = (.ok request, securityState) →
    continuation handler options request state = some plain →
    ∃ response, (protectResponse security plain securityState).1 = .ok response

/-- What a service does to the three states when it has nothing to go on with,
    and when it has. -/
theorem processService_settles (request : Apdu.XdlmsApdu) (state : XdlmsServerState σ δ) :
    (continuation handler options request state = none →
        Restored state (processService handler options request state).2) ∧
      ∀ plain, continuation handler options request state = some plain →
        (processService handler options request state).1 = .ok plain ∧
        ¬ Restored state (processService handler options request state).2 ∧
        ((processService handler options request state).2.getBlocks ≠ state.getBlocks →
          encodeGetDataBlockResponse
            (makeInvokeIdAndPriority
              (processService handler options request state).2.getBlocks.invokeId
              (processService handler options request state).2.getBlocks.options)
            (processService handler options request state).2.getBlocks.lastServed =
              .ok plain) := by
  cases request with
  | getRequest request =>
      have hsettles := processGetRequest_settles handler options request state.getBlocks
        state.device
      simp only [continuation, processService]
      -- Only the state of this service can have moved.
      generalize getContinuation handler options request state.getBlocks state.device = continued
        at hsettles ⊢
      refine ⟨?_, ?_⟩
      · rintro rfl
        exact ⟨hsettles.1, .inl rfl, .inl rfl⟩
      · rintro plain rfl
        refine ⟨hsettles.1.1, ?_, fun _ => hsettles.2 plain rfl⟩
        intro hrestored
        rcases hrestored.get with hsame | hreset
        · exact hsettles.1.2.1 hsame
        · exact hsettles.1.2.2 hreset
  | setRequest request =>
      have hsettles := processSetRequest_settles handler options request state.setBlocks
        state.device
      simp only [continuation, processService]
      generalize setContinuation options request state.setBlocks = continued at hsettles ⊢
      refine ⟨?_, ?_⟩
      · rintro rfl
        exact ⟨.inl rfl, hsettles, .inl rfl⟩
      · rintro plain rfl
        refine ⟨hsettles.1, ?_, fun hmoved => absurd rfl hmoved⟩
        intro hrestored
        rcases hrestored.set with hsame | hreset
        · exact hsettles.2.1 hsame
        · exact hsettles.2.2 hreset
  | actionRequest request =>
      have hsettles := processActionRequest_settles handler options request state.actionBlocks
        state.device
      simp only [continuation, processService]
      generalize actionContinuation options request state.actionBlocks = continued at hsettles ⊢
      refine ⟨?_, ?_⟩
      · rintro rfl
        exact ⟨.inl rfl, .inl rfl, hsettles⟩
      · rintro plain rfl
        refine ⟨hsettles.1, ?_, fun hmoved => absurd rfl hmoved⟩
        intro hrestored
        rcases hrestored.action with hsame | hreset
        · exact hsettles.2.1 hsame
        · exact hsettles.2.2 hreset
  | _ =>
      exact ⟨fun _ => ⟨.inl rfl, .inl rfl, .inl rfl⟩, fun plain hplain =>
        absurd hplain (by simp [continuation])⟩

/-- Which response it would be does not depend on the security. -/
theorem continuation_security (request : Apdu.XdlmsApdu) (state : XdlmsServerState σ δ)
    (securityState : σ) :
    continuation handler options request { state with security := securityState } =
      continuation handler options request state := by
  cases request <;> rfl

/-- A request that leaves nothing under way is atomic, answered or not. -/
theorem atomic_of_not_continued (requestApdu : Bytes) (state : XdlmsServerState σ δ)
    (request : Apdu.XdlmsApdu) (securityState : σ)
    (hdecoded : decodeRequest security requestApdu state.security = (.ok request, securityState))
    (hcontinued : continuation handler options request state = none) :
    Atomic security (transition (processRequest handler options security) requestApdu state) := by
  have hout := processRequest_of_decoded handler options security requestApdu state request
    securityState hdecoded
  have hrestored := (processService_settles handler options request
    { state with security := securityState }).1
    ((continuation_security handler options request state securityState).trans hcontinued)
  -- Protecting the response, or the failure to, changes the security only.
  have hafter : Restored state (processRequest handler options security requestApdu state).2 := by
    rw [hout]
    revert hrestored
    rcases processService handler options request { state with security := securityState }
      with ⟨failure | plain, after⟩ <;> intro hrestored
    · exact ⟨hrestored.get, hrestored.set, hrestored.action⟩
    · exact ⟨hrestored.get, hrestored.set, hrestored.action⟩
  refine ⟨fun _ _ => hafter, ?_⟩
  intro hmoved hnonempty
  rcases hafter.get with hsame | hreset
  · exact absurd hsame hmoved
  · exact absurd hreset hnonempty

/-- A request that leaves a transfer under way is atomic exactly when its response
    can be protected. -/
theorem atomic_iff_of_continued (requestApdu : Bytes) (state : XdlmsServerState σ δ)
    (request : Apdu.XdlmsApdu) (securityState : σ) (plain : Bytes)
    (hdecoded : decodeRequest security requestApdu state.security = (.ok request, securityState))
    (hcontinued : continuation handler options request state = some plain) :
    Atomic security (transition (processRequest handler options security) requestApdu state) ↔
      ∃ response, (protectResponse security plain securityState).1 = .ok response := by
  have hout := processRequest_of_decoded handler options security requestApdu state request
    securityState hdecoded
  have hsecurity := security_processService handler options request
    { state with security := securityState }
  rcases (processService_settles handler options request
    { state with security := securityState }).2 plain
    ((continuation_security handler options request state securityState).trans hcontinued) with
    ⟨hanswered, hnot, hlast⟩
  rcases hservice : processService handler options request
    { state with security := securityState } with ⟨response, after⟩
  rw [hservice] at hanswered hnot hlast hsecurity
  simp only at hanswered hsecurity
  rw [hanswered] at hservice
  simp only [hservice, hsecurity] at hout
  have hnotRestored : ¬ Restored state { after with
      security := (protectResponse security plain securityState).2 } :=
    fun h => hnot ⟨h.get, h.set, h.action⟩
  constructor
  · -- A failure would leave the transfer moved on.
    intro hatomic
    cases hprotected : (protectResponse security plain securityState).1 with
    | ok response => exact ⟨response, rfl⟩
    | error failure =>
        have hrestored := hatomic.restored failure (by
          simp [transition, hout, hprotected])
        simp only [transition, hout] at hrestored
        exact absurd hrestored hnotRestored
  · rintro ⟨response, hprotected⟩
    refine ⟨?_, ?_⟩
    · intro failure hfailed
      simp [transition, hout, hprotected] at hfailed
    · intro hmoved _
      simp only [transition, hout] at hmoved
      refine ⟨plain, response, ?_, ?_, ?_⟩
      · simp only [transition, hout]
        exact hlast hmoved
      · simp only [transition, hdecoded]
        exact hprotected
      · simp only [transition, hout]
        exact hprotected

/-- One request is atomic exactly when the response that would leave a transfer
    under way can be protected. -/
theorem atomic_transition (requestApdu : Bytes) (state : XdlmsServerState σ δ) :
    Atomic security (transition (processRequest handler options security) requestApdu state) ↔
      Protectable handler options security requestApdu state := by
  rcases hdecoded : decodeRequest security requestApdu state.security with
    ⟨status | request, securityState⟩
  · -- Nothing was decoded, so nothing moves.
    have hout := processRequest_of_rejected handler options security requestApdu state status
      securityState hdecoded
    refine iff_of_true ⟨?_, ?_⟩ ?_
    · intro failure _
      simp only [transition, hout]
      exact ⟨.inl rfl, .inl rfl, .inl rfl⟩
    · intro hmoved
      simp [transition, hout] at hmoved
    · intro request after plain hother
      rw [hdecoded] at hother
      cases congrArg Prod.fst hother
  · have hcondition : Protectable handler options security requestApdu state ↔
        ∀ plain, continuation handler options request state = some plain →
          ∃ response, (protectResponse security plain securityState).1 = .ok response := by
      refine ⟨fun h plain => h request securityState plain hdecoded, ?_⟩
      intro h other after plain hother
      rw [hdecoded] at hother
      cases hother
      exact h plain
    rw [hcondition]
    cases hcontinued : continuation handler options request state with
    | none =>
        exact iff_of_true
          (atomic_of_not_continued handler options security requestApdu state request
            securityState hdecoded hcontinued)
          fun plain hplain => by cases hplain
    | some plain =>
        simp only [Option.some.injEq, forall_eq']
        exact atomic_iff_of_continued handler options security requestApdu state request
          securityState plain hdecoded hcontinued

/-- After every run, a request is atomic exactly when the response that would
    leave a transfer under way can be protected. -/
theorem atomic_iff (requests : List Bytes) (request : Bytes) (state : XdlmsServerState σ δ) :
    Atomic security (transition (processRequest handler options security) request
        (final (processRequest handler options security) requests state)) ↔
      Protectable handler options security request
        (final (processRequest handler options security) requests state) :=
  atomic_transition handler options security request _

end Processor

/-! ### A meter that runs out of counters -/

/-- A register with an octet string that takes three blocks of three octets. -/
def longRegister : XdlmsServerHandler Unit where
  handleGet := fun _ device =>
    (.ok { hasData := true, data := [0x09, 0x05, 0x41, 0x42, 0x43, 0x44, 0x45] }, device)
  handleSet := fun _ device => (.error .unsupportedFeature, device)
  handleAction := fun _ device => (.error .unsupportedFeature, device)

def threeOctetBlocks : ServiceOptions := { defaultServiceOptions with maxGetBlockPayloadBytes := 3 }

/-- What AES-GCM makes of the two requests and of the first block. -/
def lastCounterCipher : Security.Aes128Gcm :=
  .ofTable
    [{ key := Security.CipheredApduProcessor.meterEncryptionKey
       nonce := [0x43, 0x4C, 0x49, 0x00, 0x00, 0x00, 0x00, 0x01, 0x00, 0x00, 0x00, 0x01]
       additionalAuthenticatedData := 0x30 :: Security.CipheredApduProcessor.meterAuthenticationKey
       plainText := [0xC0, 0x01, 0x81, 0x00, 0x01, 0x00, 0x00, 0x60, 0x01, 0x00, 0xFF, 0x02, 0x00]
       cipherText := [0x89, 0xB3, 0x14, 0x94, 0xA2, 0xBC, 0x14, 0x6E, 0x6A, 0x46, 0x0D, 0xB7, 0x78]
       tag := [0x12, 0x91, 0x99, 0xD0, 0x83, 0x67, 0x8F, 0x97, 0x23, 0x86, 0x20, 0x68, 0xF8, 0x13,
           0x23, 0x72] },
    { key := Security.CipheredApduProcessor.meterEncryptionKey
      nonce := [0x43, 0x4C, 0x49, 0x00, 0x00, 0x00, 0x00, 0x01, 0x00, 0x00, 0x00, 0x02]
      additionalAuthenticatedData := 0x30 :: Security.CipheredApduProcessor.meterAuthenticationKey
      plainText := [0xC0, 0x02, 0x81, 0x00, 0x00, 0x00, 0x01]
      cipherText := [0xDD, 0xAB, 0x98, 0x77, 0xC1, 0x02, 0x6B]
      tag := [0x4B, 0xAC, 0xE9, 0x74, 0x5F, 0x92, 0x0F, 0x05, 0xD3, 0xE5, 0xE6, 0xE6, 0x13, 0x00,
          0x9B, 0x85] },
    { key := Security.CipheredApduProcessor.meterEncryptionKey
      nonce := [0x4D, 0x4D, 0x4D, 0x00, 0x00, 0xBC, 0x61, 0x4E, 0xFF, 0xFF, 0xFF, 0xFE]
      additionalAuthenticatedData := 0x30 :: Security.CipheredApduProcessor.meterAuthenticationKey
      plainText := [0xC4, 0x02, 0x81, 0x00, 0x00, 0x00, 0x00, 0x01, 0x03, 0x09, 0x05, 0x41]
      cipherText := [0xFA, 0x0C, 0xFB, 0xD1, 0xD8, 0x88, 0xB4, 0x80, 0xF8, 0xCF, 0xD8, 0x6B]
      tag := [0x64, 0x32, 0x93, 0x47, 0xD2, 0xC9, 0x3C, 0x23, 0xE8, 0xD4, 0xA7, 0x7D, 0xB5, 0x46,
          0xB6, 0x5E] }]

def lastCounterSecurity : SecurityProcessor Security.CipheredApduState :=
  Security.CipheredApduProcessor.cipheredApduProcessor lastCounterCipher
    Security.CipheredApduProcessor.meterKeys

/-- The read of the register, and the request for its second block. -/
def blockwiseRead : List Bytes :=
  [[0x30, 0x00, 0x00, 0x00, 0x01, 0x89, 0xB3, 0x14, 0x94, 0xA2, 0xBC, 0x14, 0x6E, 0x6A, 0x46,
      0x0D, 0xB7, 0x78, 0x12, 0x91, 0x99, 0xD0, 0x83, 0x67, 0x8F, 0x97, 0x23, 0x86, 0x20, 0x68,
      0xF8, 0x13, 0x23, 0x72],
    [0x30, 0x00, 0x00, 0x00, 0x02, 0xDD, 0xAB, 0x98, 0x77, 0xC1, 0x02, 0x6B, 0x4B, 0xAC, 0xE9,
      0x74, 0x5F, 0x92, 0x0F, 0x05, 0xD3, 0xE5, 0xE6, 0xE6, 0x13, 0x00, 0x9B, 0x85]]

/-- The meter, with one counter left. -/
def lastCounterMeter : XdlmsServerState Security.CipheredApduState Unit where
  security :=
    { context := Security.CipheredApduProcessor.meterContext
      counters := { nextLocalCounter := 0xFFFFFFFE } }
  device := ()

/-- The first block goes out. The second cannot be protected, and the transfer
    stands behind it. -/
theorem not_atomic :
    (∃ t ∈ run (processRequest longRegister threeOctetBlocks (some lastCounterSecurity))
        blockwiseRead lastCounterMeter,
      t.output = .error .securityFailed ∧ t.before.getBlocks.offset = 3 ∧
        t.after.getBlocks.active = true ∧ t.after.getBlocks.offset = 6 ∧
        ¬ Atomic (some lastCounterSecurity) t) := by
  refine ⟨_, List.mem_cons_of_mem _ List.mem_cons_self, by decide +kernel, by decide +kernel,
    by decide +kernel, by decide +kernel, ?_⟩
  intro hatomic
  rcases (hatomic.restored .securityFailed (by decide +kernel)).get with hsame | hreset
  · exact absurd (congrArg GetResponseBlockState.offset hsame) (by decide +kernel)
  · exact absurd (congrArg GetResponseBlockState.offset hreset) (by decide +kernel)

end Xdlms

end Dlms
