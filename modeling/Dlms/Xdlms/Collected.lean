import Dlms.Xdlms.BlockLoop
import Dlms.Xdlms.Delivery
import Dlms.Xdlms.Reassembly

/-!
# What a client collects

A client that reads a long answer takes blocks from a server it does not trust.
Whatever the server sends, an answer that the client accepts is made of the
blocks of this call: they carry its invoke id, their numbers go up by one from
one, only the last is marked last, and together they stay within the limit.

The manager of a transfer is a collector, so its invariant is the one of the
server's collectors. Next to it stands what the client has received since the
call began, which a security processor writes down here as it unprotects it.

Not every answer comes in blocks. A GET that fits one response is answered with
the value itself, and the blocks of an ACTION are not its result but the rest
of a normal response, which is decoded.

## Main definitions

* `recordingClient`: A client that also writes down what it receives.
* `getBlockOf`, `actionBlockOf`: The block of a response.
* `GetCollected`, `ActionCollected`: A call that succeeds was given a whole
  answer, or blocks in order.

## Theorems

* `sendAndReceive_recording`: Writing down changes nothing.
* `collects_blocks`: The loop, from any block on.
* `collected_of_calls`: Both services, whatever the server sends.
* `not_numbered_of_calls`: What they do not promise.
-/

namespace Dlms

namespace Xdlms

open Apdu (Bytes DataBlock XdlmsApdu)
open Profile (ApduChannel)

/-! ### Writing down what is received -/

section Recording

variable {χ σ : Type}

/-- A security processor that also writes down what it unprotects; without one,
    that is the APDU as it came. -/
def recordingSecurity (security : Option (SecurityProcessor σ)) :
    SecurityProcessor (σ × List Bytes) where
  protect := fun plain state =>
    match security with
    | none => (.ok plain, state)
    | some processor =>
        let out := processor.protect plain state.1
        (out.1, out.2, state.2)
  unprotect := fun protectedApdu state =>
    let out : Except Security.SecurityStatus Bytes × σ :=
      match security with
      | none => (.ok protectedApdu, state.1)
      | some processor => processor.unprotect protectedApdu state.1
    match out.1 with
    | .error status => (.error status, out.2, state.2)
    | .ok plain => (.ok plain, out.2, state.2 ++ [plain])

/-- A client that also writes down what it receives. -/
def recordingClient (client : XdlmsClient χ σ) : XdlmsClient χ (σ × List Bytes) where
  channel := client.channel
  security := some (recordingSecurity client.security)
  isAssociated := client.isAssociated

/-- The state without what was written down. -/
def XdlmsClientState.forget (state : XdlmsClientState χ (σ × List Bytes)) :
    XdlmsClientState χ σ where
  channel := state.channel
  security := state.security.1
  invokeIds := state.invokeIds

variable (client : XdlmsClient χ σ)

/-- Writing down changes nothing else. -/
theorem sendAndReceive_recording (request : XdlmsApdu)
    (state : XdlmsClientState χ (σ × List Bytes)) :
    sendAndReceive client request state.forget =
      ((sendAndReceive (recordingClient client) request state).1,
        (sendAndReceive (recordingClient client) request state).2.forget) := by
  rcases client with ⟨channel, security, isAssociated⟩
  unfold sendAndReceive
  cases Apdu.encodeXdlmsApdu request with
  | error status => rfl
  | ok encodedRequest =>
      -- The record is written behind every call, and read by none.
      cases security with
      | none =>
          simp only [recordingClient, recordingSecurity, XdlmsClientState.forget]
          rcases channel.sendApdu encodedRequest state.channel with ⟨status | sent, afterSend⟩
          · rfl
          · simp only []
            rcases channel.receiveApdu afterSend with ⟨status | response, afterReceive⟩
            · rfl
            · simp only []
              cases Apdu.decodeXdlmsApdu response with
              | error status => rfl
              | ok decoded => rfl
      | some processor =>
          simp only [recordingClient, recordingSecurity, XdlmsClientState.forget]
          rcases processor.protect encodedRequest state.security.1 with ⟨status | outbound, after⟩
          · rfl
          · simp only []
            rcases channel.sendApdu outbound state.channel with ⟨status | sent, afterSend⟩
            · rfl
            · simp only []
              rcases channel.receiveApdu afterSend with ⟨status | response, afterReceive⟩
              · rfl
              · simp only []
                rcases processor.unprotect response after with ⟨status | plain, afterAll⟩
                · rfl
                · simp only []
                  cases Apdu.decodeXdlmsApdu plain with
                  | error status => rfl
                  | ok decoded => rfl

theorem log_protect (security : Option (SecurityProcessor σ)) (plain : Bytes)
    (state : σ × List Bytes) :
    ((recordingSecurity security).protect plain state).2.2 = state.2 := by
  cases security with
  | none => rfl
  | some processor => rfl

theorem log_unprotect (security : Option (SecurityProcessor σ)) (protectedApdu plain : Bytes)
    (state after : σ × List Bytes)
    (h : (recordingSecurity security).unprotect protectedApdu state = (.ok plain, after)) :
    after.2 = state.2 ++ [plain] := by
  simp only [recordingSecurity] at h
  split at h
  · exact absurd (congrArg Prod.fst h) nofun
  · simp only [Prod.mk.injEq, Except.ok.injEq] at h
    rw [← h.2, h.1]

theorem log_unprotect_failed (security : Option (SecurityProcessor σ)) (protectedApdu : Bytes)
    (status : Security.SecurityStatus) (state after : σ × List Bytes)
    (h : (recordingSecurity security).unprotect protectedApdu state = (.error status, after)) :
    after.2 = state.2 := by
  simp only [recordingSecurity] at h
  split at h
  · exact (congrArg (fun out => out.2.2) h).symm
  · exact absurd (congrArg Prod.fst h) nofun

/-- A response that a client is given is the last it has written down. -/
theorem received_of_sendAndReceive (request response : XdlmsApdu)
    (state after : XdlmsClientState χ (σ × List Bytes))
    (h : sendAndReceive (recordingClient client) request state = (.ok response, after)) :
    ∃ plain, Apdu.decodeXdlmsApdu plain = .ok response ∧
      after.security.2 = state.security.2 ++ [plain] := by
  have hfailed (status : XdlmsStatus) (other : XdlmsClientState χ (σ × List Bytes)) :
      ((.error status, other) : Except XdlmsStatus XdlmsApdu × _) ≠ (.ok response, after) :=
    fun heq => absurd (congrArg Prod.fst heq) nofun
  unfold sendAndReceive at h
  cases hencoded : Apdu.encodeXdlmsApdu request with
  | error status =>
      simp only [hencoded] at h
      exact absurd h (hfailed _ _)
  | ok encodedRequest =>
      -- Protecting writes nothing down, and unprotecting the plain text.
      have hlog := log_protect client.security encodedRequest state.security
      simp only [hencoded, recordingClient] at h
      rcases hprotected : (recordingSecurity client.security).protect encodedRequest
        state.security with ⟨status | outbound, sealing⟩
      · simp only [hprotected] at h
        exact absurd h (hfailed _ _)
      · simp only [hprotected] at h hlog
        rcases hsent : client.channel.sendApdu outbound state.channel with
          ⟨status | sent, afterSend⟩
        · simp only [hsent] at h
          exact absurd h (hfailed _ _)
        · simp only [hsent] at h
          rcases hreceived : client.channel.receiveApdu afterSend with
            ⟨status | encodedResponse, afterReceive⟩
          · simp only [hreceived] at h
            exact absurd h (hfailed _ _)
          · simp only [hreceived] at h
            rcases hopened : (recordingSecurity client.security).unprotect encodedResponse
              sealing with ⟨status | plain, opening⟩
            · simp only [hopened] at h
              exact absurd h (hfailed _ _)
            · have hplain := log_unprotect client.security encodedResponse plain sealing opening
                hopened
              simp only [hopened] at h
              cases hdecoded : Apdu.decodeXdlmsApdu plain with
              | error status =>
                  simp only [hdecoded] at h
                  exact absurd h (hfailed _ _)
              | ok decoded =>
                  simp only [hdecoded, Prod.mk.injEq, Except.ok.injEq] at h
                  refine ⟨plain, by rw [hdecoded, h.1], ?_⟩
                  rw [← h.2, ← hlog]
                  exact hplain

theorem received_of_receiveGetResponse (request : XdlmsApdu) (response : Apdu.GetResponse)
    (state after : XdlmsClientState χ (σ × List Bytes))
    (h : receiveGetResponse (recordingClient client) request state = (.ok response, after)) :
    ∃ plain, Apdu.decodeXdlmsApdu plain = .ok (.getResponse response) ∧
      after.security.2 = state.security.2 ++ [plain] := by
  unfold receiveGetResponse at h
  split at h
  · exact absurd (congrArg Prod.fst h) nofun
  · rename_i answer afterSend hsent
    simp only [Prod.mk.injEq, Except.ok.injEq] at h
    rw [h.1, h.2] at hsent
    exact received_of_sendAndReceive client request _ state after hsent
  · exact absurd (congrArg Prod.fst h) nofun

theorem received_of_receiveActionResponse (request : XdlmsApdu) (response : Apdu.ActionResponse)
    (state after : XdlmsClientState χ (σ × List Bytes))
    (h : receiveActionResponse (recordingClient client) request state = (.ok response, after)) :
    ∃ plain, Apdu.decodeXdlmsApdu plain = .ok (.actionResponse response) ∧
      after.security.2 = state.security.2 ++ [plain] := by
  unfold receiveActionResponse at h
  split at h
  · exact absurd (congrArg Prod.fst h) nofun
  · rename_i answer afterSend hsent
    simp only [Prod.mk.injEq, Except.ok.injEq] at h
    rw [h.1, h.2] at hsent
    exact received_of_sendAndReceive client request _ state after hsent
  · exact absurd (congrArg Prod.fst h) nofun

end Recording

/-! ### The manager of a transfer -/

/-- The manager as a collector. -/
def BlockTransferManager.collector (blocks : BlockTransferManager) (invokeId : UInt8) :
    Collector Unit where
  active := true
  invokeId := invokeId
  limit := blocks.maxBytes
  descriptor := ()
  nextBlockNumber := blocks.nextBlockNumber
  data := blocks.data

/-- The block of a response to a GET, with the invoke id it came with. -/
def getBlockOf (plain : Bytes) : Option (UInt8 × DataBlock) :=
  match Apdu.decodeXdlmsApdu plain with
  | .ok (.getResponse (.withDataBlock iip block)) => some (iip &&& 0x0F, block)
  | _ => none

/-- The block of a response to an ACTION. -/
def actionBlockOf (plain : Bytes) : Option (UInt8 × DataBlock) :=
  match Apdu.decodeXdlmsApdu plain with
  | .ok (.actionResponse (.withPblock iip block)) => some (iip &&& 0x0F, block)
  | _ => none

/-- Blocks received in a call, in order and up to the last one, that make up
    these bytes. -/
def MadeOf (limit : Nat) (invokeId : UInt8) (datablocks : List (UInt8 × DataBlock))
    (data : Bytes) : Prop :=
  Complete limit (⟨(), datablocks⟩ : Received Unit) ⟨(), invokeId, data⟩

/-- A manager that has what was received in a call before a block. -/
def Gathered (limit : Nat) (invokeId : UInt8) (datablocks : List (UInt8 × DataBlock))
    (blocks : BlockTransferManager) : Prop :=
  Assembled limit (⟨(), datablocks⟩ : Received Unit) (blocks.collector invokeId)

theorem gathered_start (limit : Nat) (invokeId : UInt8) :
    Gathered limit invokeId [] { maxBytes := limit } where
  limit := rfl
  descriptor := rfl
  invokeIds := fun _ h => absurd h List.not_mem_nil
  consecutive := consecutive_nil
  more := fun _ h => absurd h List.not_mem_nil
  nextBlockNumber := rfl
  data := rfl

/-- A block that the manager appends has the next number and fits. -/
theorem appendBlock_eq_ok (blocks after : BlockTransferManager) (block : DataBlock)
    (h : blocks.appendBlock block = .ok after) :
    block.blockNumber = blocks.nextBlockNumber ∧
      blocks.data.length + block.rawData.length ≤ blocks.maxBytes ∧
      after = { blocks with
        data := blocks.data ++ block.rawData
        nextBlockNumber := blocks.nextBlockNumber + 1 } := by
  unfold BlockTransferManager.appendBlock at h
  split_ifs at h with hnumber hsize
  rw [ne_eq, not_not] at hnumber
  rw [not_or] at hsize
  exact ⟨hnumber, by omega, (Except.ok.inj h).symm⟩

section Append

variable (limit : Nat) (invokeId : UInt8) (datablocks : List (UInt8 × DataBlock))
  (blocks after : BlockTransferManager) (block : DataBlock)
  (hgathered : Gathered limit invokeId datablocks blocks)
  (happended : blocks.appendBlock block = .ok after)
include hgathered happended

/-- A block that is not the last is gathered with the others. -/
theorem gathered_of_appended (hmore : block.lastBlock = false) :
    Gathered limit invokeId (datablocks ++ [(invokeId, block)]) after := by
  rcases appendBlock_eq_ok blocks after block happended with ⟨hnumber, -, hafter⟩
  rw [hafter]
  exact assembled_of_continued limit ⟨(), datablocks⟩ block (blocks.collector invokeId) hgathered
    hnumber hmore

/-- The last one completes them. -/
theorem madeOf_of_appended (hlast : block.lastBlock = true) :
    MadeOf limit invokeId (datablocks ++ [(invokeId, block)]) after.data := by
  rcases appendBlock_eq_ok blocks after block happended with ⟨hnumber, hsize, hafter⟩
  rw [hafter]
  exact complete_of_completed limit ⟨(), datablocks⟩ block (blocks.collector invokeId) hgathered
    hnumber hlast hsize

end Append

/-- The plain text of a block stands in front of those of the blocks after it. -/
theorem logged_cons (blockOf : Bytes → Option (UInt8 × DataBlock)) (next : UInt8 × DataBlock)
    (plain : Bytes) (before received after plains : List Bytes)
    (hlog : received = before ++ [plain]) (hblock : blockOf plain = some next)
    (hrest : after = received ++ plains) (hblocks : ∀ other ∈ plains, (blockOf other).isSome) :
    after = before ++ plain :: plains ∧ (∀ other ∈ plain :: plains, (blockOf other).isSome) ∧
      (plain :: plains).filterMap blockOf = next :: plains.filterMap blockOf := by
  refine ⟨?_, ?_, ?_⟩
  · rw [hrest, hlog, List.append_assoc]
    rfl
  · intro other hmem
    rcases List.mem_cons.mp hmem with rfl | hlater
    · rw [hblock]
      rfl
    · exact hblocks other hlater
  · rw [List.filterMap_cons, hblock]

/-! ### The loop -/

/-- The block of a response in a loop, with the invoke id it came with. -/
def BlockLoop.blockOf {ρ : Type} (loop : BlockLoop ρ) (plain : Bytes) :
    Option (UInt8 × DataBlock) :=
  match Apdu.decodeXdlmsApdu plain with
  | .ok response => (loop.block response).map fun next => (next.1 &&& 0x0F, next.2)
  | .error _ => none

/-- An ACTION that succeeds on blocks is given the rest of a normal response in
    them. -/
def DecodedFrom (invokeId iip : UInt8) (payload : Bytes) (result : ActionResult) : Prop :=
  ∃ responseInvokeId item,
    decodeActionBlockPayload iip payload = .ok (responseInvokeId, item) ∧
      copyActionResponse responseInvokeId item invokeId = (.ok (), result)

theorem getBlockOf_eq (invokeId iip : UInt8) : (getLoop invokeId iip).blockOf = getBlockOf := by
  funext plain
  unfold BlockLoop.blockOf getBlockOf
  cases Apdu.decodeXdlmsApdu plain with
  | error status => rfl
  | ok response =>
      cases response with
      | getResponse response => cases response <;> rfl
      | _ => rfl

theorem actionBlockOf_eq (invokeId iip : UInt8) :
    (actionLoop invokeId iip).blockOf = actionBlockOf := by
  funext plain
  unfold BlockLoop.blockOf actionBlockOf
  cases Apdu.decodeXdlmsApdu plain with
  | error status => rfl
  | ok response =>
      cases response with
      | actionResponse response => cases response <;> rfl
      | _ => rfl

theorem decodedFrom_of_finish (invokeId iip : UInt8) (payload : Bytes) (result : ActionResult)
    (h : (actionLoop invokeId iip).finish payload = (.ok (), result)) :
    DecodedFrom invokeId iip payload result := by
  simp only [actionLoop] at h
  cases hdecoded : decodeActionBlockPayload iip payload with
  | error status =>
      rw [hdecoded] at h
      cases h
  | ok decoded =>
      rw [hdecoded] at h
      exact ⟨decoded.1, decoded.2, hdecoded, h⟩

section Loops

variable {χ σ ρ : Type} (client : XdlmsClient χ σ) (loop : BlockLoop ρ) (limit : Nat)
  (invokeId : UInt8)

/-- From any block on, an answer is made of the blocks received before and of
    those still to come. -/
theorem collects_blocks (responses : Nat) (responseInvokeId : UInt8) (block : DataBlock)
    (blocks : BlockTransferManager) (datablocks : List (UInt8 × DataBlock))
    (state after : XdlmsClientState χ (σ × List Bytes)) (result : ρ)
    (hgathered : Gathered limit invokeId datablocks blocks)
    (h : collectBlocks (recordingClient client) loop invokeId responses responseInvokeId block
      blocks state = some (.ok (), result, after)) :
    ∃ plains payload, after.security.2 = state.security.2 ++ plains ∧
      (∀ plain ∈ plains, (loop.blockOf plain).isSome) ∧
      MadeOf limit invokeId
        (datablocks ++ (responseInvokeId &&& 0x0F, block) :: plains.filterMap loop.blockOf)
        payload ∧ loop.finish payload = (.ok (), result) := by
  -- Each round receives one response more, and what was gathered before it grows.
  induction responses generalizing responseInvokeId block blocks datablocks state with
  | zero => exact absurd h (by simp [collectBlocks])
  | succ responses ih =>
      unfold collectBlocks at h
      by_cases hinvoke : responseInvokeId &&& 0x0F = invokeId
      · rw [if_neg (not_not.mpr hinvoke)] at h
        rw [hinvoke]
        cases happended : blocks.appendBlock block with
        | error status =>
            simp [happended] at h
        | ok appended =>
            simp only [happended] at h
            cases hlast : block.lastBlock with
            | true =>
                simp only [hlast, if_true, Option.some.injEq, Prod.mk.injEq] at h
                refine ⟨[], appended.data, by rw [← h.2.2, List.append_nil], fun _ hmem =>
                  absurd hmem List.not_mem_nil, ?_, Prod.ext h.1 h.2.1⟩
                exact madeOf_of_appended limit invokeId datablocks blocks appended block
                  hgathered happended hlast
            | false =>
                simp only [hlast, Bool.false_eq_true, if_false] at h
                have hnext := gathered_of_appended limit invokeId datablocks blocks appended block
                  hgathered happended hlast
                split at h
                · simp at h
                · rename_i response received hreceived
                  rcases received_of_sendAndReceive client _ response state received hreceived with
                    ⟨plain, hplain, hlog⟩
                  split at h
                  · rename_i nextInvokeId nextBlock hpicked
                    rcases ih nextInvokeId nextBlock appended _ received hnext h with
                      ⟨plains, payload, hrest, hblocks, hmade, hresult⟩
                    have hblock : loop.blockOf plain =
                        some (nextInvokeId &&& 0x0F, nextBlock) := by
                      simp [BlockLoop.blockOf, hplain, hpicked]
                    rcases logged_cons loop.blockOf _ plain _ _ _ plains hlog hblock hrest hblocks
                      with ⟨hlogged, hall, hfound⟩
                    refine ⟨plain :: plains, payload, hlogged, hall, ?_, hresult⟩
                    rw [hfound, List.append_cons]
                    exact hmade
                  · simp at h
      · rw [if_pos hinvoke] at h
        simp at h

end Loops

/-! ### The services -/

section Calls

variable {χ σ : Type} (client : XdlmsClient χ σ) (options : ServiceOptions) (responses : Nat)
  (state : XdlmsClientState χ (σ × List Bytes))

/-- What a GET that succeeds was given, after `before` had been received: the
    value in one response, or blocks that make it up. -/
def GetReceived (invokeId : UInt8) (before after : List Bytes) (data : Bytes) : Prop :=
  ∃ plains, after = before ++ plains ∧
    ((∃ plain iip value, plains = [plain] ∧
        Apdu.decodeXdlmsApdu plain = .ok (.getResponse (.normal iip (.data value))) ∧
        iip &&& 0x0F = invokeId ∧ copyEncodedData value = .ok data) ∨
      options.allowBlockTransfer = true ∧ (∀ plain ∈ plains, (getBlockOf plain).isSome) ∧
        MadeOf options.maxBlockTransferBytes invokeId (plains.filterMap getBlockOf) data)

/-- What an ACTION that succeeds was given after the acknowledgements of its
    own blocks: a normal response, or blocks that make up the rest of one. -/
def ActionReceived (invokeId : UInt8) (before after : List Bytes) (result : ActionResult) :
    Prop :=
  ∃ acknowledgements plains, after = before ++ acknowledgements ++ plains ∧
    (∀ plain ∈ acknowledgements, actionBlockOf plain = none) ∧
    ((∃ plain iip item, plains = [plain] ∧
        Apdu.decodeXdlmsApdu plain = .ok (.actionResponse (.normal iip item)) ∧
        copyActionResponse iip item invokeId = (.ok (), result)) ∨
      options.allowBlockTransfer = true ∧ (∀ plain ∈ plains, (actionBlockOf plain).isSome) ∧
        ∃ payload, MadeOf options.maxBlockTransferBytes invokeId
            (plains.filterMap actionBlockOf) payload ∧
          DecodedFrom invokeId (makeInvokeIdAndPriority invokeId options) payload result)

/-- A GET that succeeds was given a whole value or blocks in order, with the
    invoke id of the call. -/
def GetCollected : Prop :=
  ∀ descriptor selectiveAccess result after,
    get (recordingClient client) descriptor selectiveAccess options responses state =
        some (.ok (), result, after) →
      GetReceived options state.invokeIds.next state.security.2 after.security.2 result.data

/-- So was an ACTION. -/
def ActionCollected : Prop :=
  ∀ descriptor parameter result after,
    action (recordingClient client) descriptor parameter options responses state =
        some (.ok (), result, after) →
      ActionReceived options state.invokeIds.next state.security.2 after.security.2 result

theorem getReceived_of_finishGet (invokeId iip : UInt8) (response : Apdu.GetResponse)
    (plain : Bytes) (before : List Bytes) (after : XdlmsClientState χ (σ × List Bytes))
    (result : GetResult) (hplain : Apdu.decodeXdlmsApdu plain = .ok (.getResponse response))
    (hlog : state.security.2 = before ++ [plain])
    (h : finishGet (recordingClient client) invokeId iip options responses response state =
      some (.ok (), result, after)) :
    GetReceived options invokeId before after.security.2 result.data := by
  cases response with
  | withList responseInvokeId results =>
      simp [finishGet] at h
  | withDataBlock responseInvokeId block =>
      cases hallow : options.allowBlockTransfer with
      | false =>
          simp [finishGet, hallow] at h
      | true =>
          simp only [finishGet, hallow, Bool.not_true, Bool.false_eq_true, if_false] at h
          -- The first block is in the response at hand, the others come in the loop.
          rw [collectGetBlocks_eq] at h
          rcases collects_blocks client _ options.maxBlockTransferBytes invokeId responses
            responseInvokeId block _ [] state after result (gathered_start _ invokeId) h with
            ⟨plains, payload, hrest, hblocks, hmade, hresult⟩
          rw [getBlockOf_eq] at hblocks hmade
          have hblock : getBlockOf plain = some (responseInvokeId &&& 0x0F, block) := by
            simp [getBlockOf, hplain]
          rcases logged_cons getBlockOf _ plain _ _ _ plains hlog hblock hrest hblocks with
            ⟨hlogged, hall, hfound⟩
          refine ⟨plain :: plains, hlogged, .inr ⟨hallow, hall, ?_⟩⟩
          rw [hfound, ← (Prod.mk.inj hresult).2]
          exact hmade
  | normal responseInvokeId answer =>
      by_cases hinvoke : responseInvokeId &&& 0x0F = invokeId
      · simp only [finishGet, hinvoke, ne_eq, not_true_eq_false, if_false] at h
        cases answer with
        | dataAccessError accessResult =>
            simp at h
        | data value =>
            cases hcopied : copyEncodedData value with
            | error status =>
                simp [hcopied] at h
            | ok data =>
                simp only [hcopied, Option.some.injEq, Prod.mk.injEq, true_and] at h
                refine ⟨[plain], by rw [← h.2, hlog], .inl ⟨plain, responseInvokeId, value, rfl,
                  hplain, hinvoke, ?_⟩⟩
                rw [← h.1]
                exact hcopied
      · simp [finishGet, hinvoke] at h

/-- Whatever the server sends, a GET that succeeds was given its answer. -/
theorem getCollected : GetCollected client options responses state := by
  intro descriptor selectiveAccess result after h
  -- Whatever fails before the response is no success.
  have hfailed (status : XdlmsStatus) (other : GetResult)
      (state : XdlmsClientState χ (σ × List Bytes)) :
      (some (.error status, other, state) : Option (Outcome χ (σ × List Bytes) GetResult)) ≠
        some (.ok (), result, after) := by
    simp
  unfold get at h
  cases hdescriptor : validateDescriptor descriptor with
  | error status =>
      simp only [hdescriptor] at h
      exact absurd h (hfailed _ _ _)
  | ok valid =>
      cases hselective : validateOptionalSelectiveAccess selectiveAccess with
      | error status =>
          simp only [hdescriptor, hselective] at h
          exact absurd h (hfailed _ _ _)
      | ok valid =>
          simp only [hdescriptor, hselective] at h
          split_ifs at h
          · exact absurd h (hfailed _ _ _)
          · unfold getWithInvokeId at h
            simp only [] at h
            split at h
            · exact absurd h (hfailed _ _ _)
            · rename_i request hrequest
              split at h
              · exact absurd h (hfailed _ _ _)
              · rename_i response received hreceived
                rcases received_of_receiveGetResponse client _ _ _ received hreceived with
                  ⟨plain, hplain, hlog⟩
                exact getReceived_of_finishGet client options responses received _ _ response plain
                  _ after result hplain hlog h

theorem actionReceived_of_copyFinal (invokeId : UInt8) (response : Apdu.ActionResponse)
    (plain : Bytes) (before acknowledgements : List Bytes)
    (after : XdlmsClientState χ (σ × List Bytes)) (result : ActionResult)
    (hplain : Apdu.decodeXdlmsApdu plain = .ok (.actionResponse response))
    (hacknowledged : ∀ earlier ∈ acknowledgements, actionBlockOf earlier = none)
    (hlog : state.security.2 = before ++ acknowledgements ++ [plain])
    (h : copyFinalActionResponse (recordingClient client) invokeId
      (makeInvokeIdAndPriority invokeId options) options response responses state =
        some (.ok (), result, after)) :
    ActionReceived options invokeId before after.security.2 result := by
  cases response with
  | withList responseInvokeId results =>
      simp [copyFinalActionResponse] at h
  | nextPblock responseInvokeId blockNumber =>
      simp [copyFinalActionResponse] at h
  | normal responseInvokeId item =>
      simp only [copyFinalActionResponse, Option.some.injEq, Prod.mk.injEq] at h
      refine ⟨acknowledgements, [plain], by rw [← h.2.2, hlog], hacknowledged,
        .inl ⟨plain, responseInvokeId, item, rfl, hplain, Prod.ext h.1 h.2.1⟩⟩
  | withPblock responseInvokeId block =>
      cases hallow : options.allowBlockTransfer with
      | false =>
          simp [copyFinalActionResponse, hallow] at h
      | true =>
          simp only [copyFinalActionResponse, hallow, Bool.not_true, Bool.false_eq_true,
            if_false] at h
          rw [collectActionBlocks_eq] at h
          rcases collects_blocks client _ options.maxBlockTransferBytes invokeId responses
            responseInvokeId block _ [] state after result (gathered_start _ invokeId) h with
            ⟨plains, payload, hrest, hblocks, hmade, hresult⟩
          rw [actionBlockOf_eq] at hblocks hmade
          have hblock : actionBlockOf plain = some (responseInvokeId &&& 0x0F, block) := by
            simp [actionBlockOf, hplain]
          rcases logged_cons actionBlockOf _ plain _ _ _ plains hlog hblock hrest hblocks with
            ⟨hlogged, hall, hfound⟩
          refine ⟨acknowledgements, plain :: plains, hlogged, hacknowledged,
            .inr ⟨hallow, hall, payload, ?_, decodedFrom_of_finish _ _ _ _ hresult⟩⟩
          rw [hfound]
          exact hmade

/-- The rounds that send a parameter: each but the last is acknowledged, and the
    acknowledgement is no block. -/
theorem actionReceived_of_sendBlocks (invokeId : UInt8) (descriptor : CosemMethodDescriptor)
    (rounds : Nat) (rest : Bytes) (blockNumber : UInt32) (before acknowledgements : List Bytes)
    (after : XdlmsClientState χ (σ × List Bytes)) (result : ActionResult)
    (hacknowledged : ∀ earlier ∈ acknowledgements, actionBlockOf earlier = none)
    (hlog : state.security.2 = before ++ acknowledgements)
    (h : sendActionBlocks (recordingClient client) invokeId
      (makeInvokeIdAndPriority invokeId options) descriptor options responses rounds rest
        blockNumber state = some (.ok (), result, after)) :
    ActionReceived options invokeId before after.security.2 result := by
  -- Each round adds one acknowledgement, until the response to the last block.
  induction rounds generalizing rest blockNumber acknowledgements state with
  | zero => exact absurd h (by simp [sendActionBlocks])
  | succ rounds ih =>
      unfold sendActionBlocks at h
      simp only [] at h
      split at h
      · simp at h
      · rename_i response received hreceived
        rcases received_of_receiveActionResponse client _ _ state received hreceived with
          ⟨plain, hplain, hreceivedLog⟩
        rw [hlog] at hreceivedLog
        split_ifs at h with hfinal
        · exact actionReceived_of_copyFinal client options responses received invokeId response
            plain before acknowledgements after result hplain hacknowledged hreceivedLog h
        · cases hvalid : validateActionNextPblockResponse response invokeId blockNumber with
          | error status =>
              simp [hvalid] at h
          | ok valid =>
              simp only [hvalid] at h
              -- A response that brings a block is no acknowledgement.
              have hnone : actionBlockOf plain = none := by
                cases response with
                | nextPblock responseInvokeId number => simp [actionBlockOf, hplain]
                | normal responseInvokeId item => simp [actionBlockOf, hplain]
                | withList responseInvokeId results => simp [actionBlockOf, hplain]
                | withPblock responseInvokeId block =>
                    simp only [validateActionNextPblockResponse] at hvalid
                    split_ifs at hvalid
              refine ih received _ _ (acknowledgements ++ [plain]) ?_ ?_ h
              · intro earlier hmem
                rcases List.mem_append.mp hmem with hearlier | hthis
                · exact hacknowledged earlier hearlier
                · rw [List.mem_singleton.mp hthis]
                  exact hnone
              · rw [hreceivedLog, List.append_assoc]

theorem actionReceived_of_normal (invokeId : UInt8) (descriptor : CosemMethodDescriptor)
    (parameter : Option Apdu.DlmsData) (after : XdlmsClientState χ (σ × List Bytes))
    (result : ActionResult)
    (h : actionNormal (recordingClient client) invokeId descriptor parameter options responses
      state = some (.ok (), result, after)) :
    ActionReceived options invokeId state.security.2 after.security.2 result := by
  unfold actionNormal at h
  simp only [] at h
  split at h
  · simp at h
  · rename_i response received hreceived
    rcases received_of_receiveActionResponse client _ _ state received hreceived with
      ⟨plain, hplain, hlog⟩
    refine actionReceived_of_copyFinal client options responses received invokeId response plain
      _ [] after result hplain (fun _ hmem => absurd hmem List.not_mem_nil) ?_ h
    rw [hlog, List.append_nil]

/-- Whatever the server sends, an ACTION that succeeds was given its result. -/
theorem actionCollected : ActionCollected client options responses state := by
  intro descriptor parameter result after h
  have hfailed (status : XdlmsStatus) (other : ActionResult)
      (state : XdlmsClientState χ (σ × List Bytes)) :
      (some (.error status, other, state) : Option (Outcome χ (σ × List Bytes) ActionResult)) ≠
        some (.ok (), result, after) := by
    simp
  unfold action at h
  cases hdescriptor : validateMethodDescriptor descriptor with
  | error status =>
      simp only [hdescriptor] at h
      exact absurd h (hfailed _ _ _)
  | ok valid =>
      simp only [hdescriptor] at h
      cases parameter with
      | none =>
          simp only [] at h
          split_ifs at h
          · exact absurd h (hfailed _ _ _)
          · exact actionReceived_of_normal client options responses
              { state with invokeIds := state.invokeIds.take.2 } state.invokeIds.next descriptor
              none after result h
      | some encoded =>
          simp only [] at h
          by_cases hfits : encoded.length ≤ options.maxActionBlockPayloadBytes
          · rw [if_pos hfits] at h
            cases hdecoded : Client.decodeEncodedData encoded with
            | error status =>
                simp only [hdecoded] at h
                exact absurd h (hfailed _ _ _)
            | ok value =>
                simp only [hdecoded] at h
                by_cases hassociated : (!(recordingClient client).isAssociated) = true
                · rw [if_pos hassociated] at h
                  exact absurd h (hfailed _ _ _)
                · rw [if_neg hassociated] at h
                  exact actionReceived_of_normal client options responses
                    { state with invokeIds := state.invokeIds.take.2 } state.invokeIds.next
                    descriptor (some value) after result h
          · rw [if_neg hfits] at h
            by_cases hzero : options.maxActionBlockPayloadBytes = 0
            · rw [if_pos hzero] at h
              exact absurd h (hfailed _ _ _)
            · rw [if_neg hzero] at h
              by_cases hallow : (!options.allowBlockTransfer) = true
              · rw [if_pos hallow] at h
                exact absurd h (hfailed _ _ _)
              · rw [if_neg hallow] at h
                by_cases hassociated : (!(recordingClient client).isAssociated) = true
                · rw [if_pos hassociated] at h
                  exact absurd h (hfailed _ _ _)
                · rw [if_neg hassociated] at h
                  -- No acknowledgement has been received yet.
                  exact actionReceived_of_sendBlocks client options responses
                    { state with invokeIds := state.invokeIds.take.2 } state.invokeIds.next
                    descriptor encoded.length encoded 1 state.security.2 [] after result
                    (fun _ hmem => absurd hmem List.not_mem_nil) (List.append_nil _).symm h

/-- Whatever the server sends, both services return the answers they were
    given. -/
theorem collected_of_calls :
    GetCollected client options responses state ∧ ActionCollected client options responses state :=
  ⟨getCollected client options responses state, actionCollected client options responses state⟩

end Calls

/-! ### Answers that are no numbered blocks -/

section Numbered

variable {χ σ : Type} (client : XdlmsClient χ σ) (options : ServiceOptions) (responses : Nat)
  (state : XdlmsClientState χ (σ × List Bytes))

/-- Blocks numbered one, two and so on, with nothing else in the data. -/
def NumberedFromOne (datablocks : List (UInt8 × DataBlock)) (data : Bytes) : Prop :=
  datablocks.map (fun datablock => datablock.2.blockNumber.toNat) =
      (List.range datablocks.length).map (· + 1) ∧
    data = rawDataOf (datablocks.map Prod.snd)

/-- A GET that succeeds returns the blocks it was given, numbered from one. -/
def GetNumbered : Prop :=
  ∀ descriptor selectiveAccess result after,
    get (recordingClient client) descriptor selectiveAccess options responses state =
        some (.ok (), result, after) →
      NumberedFromOne
        ((after.security.2.drop state.security.2.length).filterMap getBlockOf) result.data

/-- An ACTION that succeeds returns the blocks it was given, numbered from one. -/
def ActionNumbered : Prop :=
  ∀ descriptor parameter result after,
    action (recordingClient client) descriptor parameter options responses state =
        some (.ok (), result, after) →
      NumberedFromOne
        ((after.security.2.drop state.security.2.length).filterMap actionBlockOf) result.data

end Numbered

/-- A channel to a server that sends these responses. -/
def scriptedChannel : ApduChannel (List Bytes) where
  sendApdu := fun _ responses => (.ok (), responses)
  receiveApdu := fun responses =>
    match responses with
    | [] => (.error .timeout, [])
    | response :: rest => (.ok response, rest)

def scriptedClient : XdlmsClient (List Bytes) Unit where
  channel := scriptedChannel
  security := none
  isAssociated := true

def scripted (responses : List Bytes) : XdlmsClientState (List Bytes) (Unit × List Bytes) where
  channel := responses
  security := ((), [])

section Endless

/-- A block with nothing in it; the last is the one whose number is zero. -/
def hollowBlock (sent : Nat) : DataBlock where
  lastBlock := sent + 1 == blockNumbers
  blockNumber := blockNumber sent
  rawData := []

def hollowResponse (sent : Nat) : Bytes :=
  Apdu.getResponseBlockBytes wrappingIip (hollowBlock sent)

/-- A channel to a server that has sent so many such blocks. -/
def endlessChannel : ApduChannel Nat where
  sendApdu := fun _ sent => (.ok (), sent)
  receiveApdu := fun sent => (.ok (hollowResponse sent), sent + 1)

def endlessClient : XdlmsClient Nat Unit where
  channel := endlessChannel
  security := none
  isAssociated := true

def endless (sent : Nat) (log : List Bytes) (invokeIds : InvokeIdAllocator) :
    XdlmsClientState Nat (Unit × List Bytes) where
  channel := sent
  security := ((), log)
  invokeIds := invokeIds

variable (invokeIds : InvokeIdAllocator)

theorem decode_hollowResponse (sent : Nat) : Apdu.decodeXdlmsApdu (hollowResponse sent) =
    .ok (.getResponse (.withDataBlock wrappingIip (hollowBlock sent))) :=
  decode_getResponseBlock wrappingIip (hollowBlock sent) (by
    show 0 < 256 ^ Apdu.sizeOctets
    decide)

theorem getBlockOf_hollowResponse (sent : Nat) :
    getBlockOf (hollowResponse sent) = some (1, hollowBlock sent) := by
  simp only [getBlockOf, decode_hollowResponse]
  rfl

/-- Any request that can be encoded is answered with the next block. -/
theorem receive_endless (request : XdlmsApdu) (requestApdu : Bytes) (sent : Nat)
    (log : List Bytes) (hencoded : Apdu.encodeXdlmsApdu request = .ok requestApdu) :
    receiveGetResponse (recordingClient endlessClient) request (endless sent log invokeIds) =
      (.ok (.withDataBlock wrappingIip (hollowBlock sent)),
        endless (sent + 1) (log ++ [hollowResponse sent]) invokeIds) := by
  simp [receiveGetResponse, sendAndReceive, hencoded, recordingClient, recordingSecurity,
    endlessClient, endlessChannel, endless, decode_hollowResponse]

/-- A manager that has received so many hollow blocks. -/
def hollowManager (sent : Nat) : BlockTransferManager where
  maxBytes := defaultServiceOptions.maxBlockTransferBytes
  nextBlockNumber := blockNumber sent

theorem appendBlock_hollow (sent : Nat) :
    (hollowManager sent).appendBlock (hollowBlock sent) = .ok (hollowManager (sent + 1)) := by
  simp [BlockTransferManager.appendBlock, hollowManager, hollowBlock, blockNumber_succ]

/-- The loop from any block on. The induction is on the blocks still to come. -/
theorem collect_endless (left sent : Nat) (log : List Bytes)
    (h : sent + left + 1 = blockNumbers) :
    collectGetBlocks (recordingClient endlessClient) 1 wrappingIip (left + 1) wrappingIip
        (hollowBlock sent) (hollowManager sent) (endless (sent + 1) log invokeIds) =
      some (.ok (), { invokeId := 1, hasData := true, data := [] },
        endless blockNumbers (log ++ (List.range' (sent + 1) left).map hollowResponse)
          invokeIds) := by
  -- The invoke id is the one that was asked with, in every block.
  have hinvoke : ¬(wrappingIip &&& 0x0F ≠ 1) := by decide
  induction left generalizing sent log with
  | zero =>
      have hlast : (hollowBlock sent).lastBlock = true := by
        simp only [hollowBlock, beq_iff_eq]
        omega
      unfold collectGetBlocks
      rw [if_neg hinvoke]
      simp only [appendBlock_hollow, hlast, if_true, List.range'_zero, List.map_nil,
        List.append_nil]
      rw [← h]
      rfl
  | succ left ih =>
      have hmore : (hollowBlock sent).lastBlock = false := by
        simp only [hollowBlock, beq_eq_false_iff_ne]
        omega
      unfold collectGetBlocks
      rw [if_neg hinvoke]
      simp only [appendBlock_hollow, hmore, Bool.false_eq_true, if_false,
        receive_endless invokeIds _ _ (sent + 1) log (encode_getRequestNext _ _)]
      rw [ih (sent + 1) _ (by omega)]
      rw [List.range'_succ, List.map_cons, List.append_assoc]
      rfl

/-- What is left of the allocator after the call. -/
abbrev endlessIds : InvokeIdAllocator := InvokeIdAllocator.initial.take.2

/-- A GET from a server that sends one hollow block for every number. -/
theorem get_endless (left : Nat) (h : left + 1 = blockNumbers) :
    get (recordingClient endlessClient) energyValue none defaultServiceOptions (left + 1)
        (endless 0 [] .initial) =
      some (.ok (), { invokeId := 1, hasData := true, data := [] },
        endless blockNumbers ((List.range' 0 (left + 1)).map hollowResponse) endlessIds) := by
  have hrequest := receive_endless endlessIds _ _ 0 []
    (encode_getRequestNormal wrappingIip (toApduDescriptor energyValue))
  have hloop := collect_endless endlessIds left 0 [hollowResponse 0] (by omega)
  have hfirst : getWithInvokeId (recordingClient endlessClient) 1 energyValue none
      defaultServiceOptions (left + 1) (endless 0 [] endlessIds) =
        finishGet (recordingClient endlessClient) 1 wrappingIip defaultServiceOptions (left + 1)
          (.withDataBlock wrappingIip (hollowBlock 0))
          (endless 1 [hollowResponse 0] endlessIds) := by
    unfold getWithInvokeId
    simp only [makeGetRequestNormal]
    rw [wrappingIip] at hrequest
    rw [hrequest]
    rfl
  rw [List.range'_succ, List.map_cons]
  exact hfirst.trans hloop

theorem filterMap_hollowResponse (sent : List Nat) :
    (sent.map hollowResponse).filterMap getBlockOf =
      sent.map fun number => ((1 : UInt8), hollowBlock number) := by
  induction sent with
  | nil => rfl
  | cons number sent ih =>
      rw [List.map_cons, List.filterMap_cons, getBlockOf_hollowResponse, ih]
      rfl

/-- The last of its blocks has the number zero. -/
theorem not_getNumbered_endless (left : Nat) (h : left + 1 = blockNumbers) :
    ¬GetNumbered endlessClient defaultServiceOptions (left + 1) (endless 0 [] .initial) := by
  intro hnumbered
  have hnumbers := (hnumbered energyValue none _ _ (get_endless left h)).1
  simp only [endless, List.length_nil, List.drop_zero, filterMap_hollowResponse, List.map_map,
    List.length_map, List.length_range'] at hnumbers
  have hlast := congrArg (fun numbers => numbers[left]?) hnumbers
  simp only [List.getElem?_map, List.getElem?_range' left.lt_succ_self,
    List.getElem?_range left.lt_succ_self, Option.map_some, Option.some.injEq,
    Function.comp_apply, hollowBlock] at hlast
  have hzero : blockNumber (0 + 1 * left) = 0 := by
    rw [← blockNumber_last, ← h]
    congr 1
    omega
  rw [hzero, UInt32.toNat_zero] at hlast
  omega

end Endless

/-- A value that fits one response. -/
def wholeGet : List Bytes :=
  [[0xC4, 0x01, 0x41, 0x00, 0x11, 0x07]]

/-- The rest of a normal response in two blocks. -/
def blockwiseAction : List Bytes :=
  [[0xC7, 0x02, 0x41, 0x00, 0x00, 0x00, 0x00, 0x01, 0x03, 0x00, 0x01, 0x00],
   [0xC7, 0x02, 0x41, 0x01, 0x00, 0x00, 0x00, 0x02, 0x02, 0x0F, 0x05]]

theorem get_wholeGet :
    get (recordingClient scriptedClient) energyValue none defaultServiceOptions 1
        (scripted wholeGet) =
      some (.ok (), { invokeId := 1, hasData := true, data := [0x11, 0x07] },
        { scripted [] with security := ((), wholeGet), invokeIds := endlessIds }) := by
  rfl

theorem action_blockwiseAction :
    action (recordingClient scriptedClient) resetMethod none defaultServiceOptions 2
        (scripted blockwiseAction) =
      some (.ok (), { invokeId := 1, hasData := true, data := [0x0F, 0x05] },
        { scripted [] with security := ((), blockwiseAction), invokeIds := endlessIds }) := by
  rfl

/-- A value that came without blocks, numbers that start again after the last,
    and a result that is not all of its blocks. -/
theorem not_numbered_of_calls :
    ¬GetNumbered scriptedClient defaultServiceOptions 1 (scripted wholeGet) ∧
      ¬GetNumbered endlessClient defaultServiceOptions blockNumbers (endless 0 [] .initial) ∧
      ¬ActionNumbered scriptedClient defaultServiceOptions 2 (scripted blockwiseAction) := by
  refine ⟨?_, ?_, ?_⟩
  · intro hnumbered
    have hdata := (hnumbered energyValue none _ _ get_wholeGet).2
    exact absurd hdata (by decide +kernel)
  · rcases Nat.exists_eq_succ_of_ne_zero (show blockNumbers ≠ 0 by decide) with ⟨left, hleft⟩
    rw [hleft]
    exact not_getNumbered_endless left hleft.symm
  · intro hnumbered
    have hdata := (hnumbered resetMethod none _ _ action_blockwiseAction).2
    exact absurd hdata (by decide +kernel)

end Xdlms

end Dlms
