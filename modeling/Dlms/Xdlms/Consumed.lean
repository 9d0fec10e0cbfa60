import Dlms.Xdlms.Collected

/-!
# How many responses a call takes

The loops of a client that collect an answer ask for one block after the other
until the last, and the only limit they know is on the bytes they have gathered.
A block that brings something uses up some of the limit, so there can be no more
of these than the limit has bytes. An empty block uses up nothing: a server that
sends empty blocks is asked for the next one as long as it likes.

The responses are a list here, each one an APDU or the failure to receive one,
and where the list ends the channel fails. Whatever a server sends in answer to
the requests of a call is such a list.

## Main definitions

* `streamClient`: A client of a channel that gives these responses.
* `Took`: How many responses were taken, and what was written down of them.
* `emptyBlocks`: Blocks that bring nothing and are not the last.
* `GathersBlocks`: What both loops do with one block.
* `TakesAtMost`: A call that ends, and how many responses it has taken.

## Theorems

* `takesAtMost_of_gathersBlocks`: A loop, from any block on.
* `responses_bounded`: Both services, whatever the server sends.
* `not_responses_bounded`: A server of empty blocks is asked for all of them.
-/

namespace Dlms

namespace Xdlms

open Apdu (Bytes DataBlock XdlmsApdu)
open Profile (ApduChannel ProfileStatus)

/-! ### Responses in a row -/

/-- What a channel gives back for one request after the other. -/
abbrev Responses := List (Except ProfileStatus Bytes)

def streamChannel : ApduChannel Responses where
  sendApdu := fun _ responses => (.ok (), responses)
  receiveApdu := fun responses =>
    match responses with
    | [] => (.error .timeout, [])
    | response :: later => (response, later)

variable {σ : Type}

def streamClient (security : Option (SecurityProcessor σ)) (isAssociated : Bool) :
    XdlmsClient Responses σ where
  channel := streamChannel
  security := security
  isAssociated := isAssociated

/-- Between two states so many responses were taken, and these were written down. -/
structure Took (before after : XdlmsClientState Responses (σ × List Bytes)) (count : Nat)
    (plains : List Bytes) : Prop where
  count : before.channel.length = after.channel.length + count
  plains : after.security.2 = before.security.2 ++ plains

theorem took_nothing (state : XdlmsClientState Responses (σ × List Bytes)) :
    Took state state 0 [] where
  count := rfl
  plains := (List.append_nil _).symm

theorem Took.trans (before middle after : XdlmsClientState Responses (σ × List Bytes))
    (count later : Nat) (plains laterPlains : List Bytes) (h : Took before middle count plains)
    (hlater : Took middle after later laterPlains) :
    Took before after (count + later) (plains ++ laterPlains) where
  count := by
    have hcount := h.count
    have hlaterCount := hlater.count
    omega
  plains := by
    rw [hlater.plains, h.plains, List.append_assoc]

section Requests

variable (security : Option (SecurityProcessor σ)) (isAssociated : Bool)
  (state : XdlmsClientState Responses (σ × List Bytes))

/-- A request takes one response at most, and one if it is given one. -/
theorem took_of_sendAndReceive (request : XdlmsApdu) :
    ∃ count plains, Took state
        (sendAndReceive (recordingClient (streamClient security isAssociated)) request state).2
        count plains ∧ count ≤ 1 ∧
      ∀ response,
        (sendAndReceive (recordingClient (streamClient security isAssociated)) request state).1 =
          .ok response → count = 1 := by
  have hfailed (status : XdlmsStatus) (count : Nat) (response : XdlmsApdu)
      (h : (.error status : Except XdlmsStatus XdlmsApdu) = .ok response) : count = 1 :=
    absurd h nofun
  unfold sendAndReceive
  cases Apdu.encodeXdlmsApdu request with
  | error status => exact ⟨0, [], took_nothing state, Nat.zero_le _, fun _ => hfailed _ _ _⟩
  | ok encodedRequest =>
      -- A request that cannot be protected takes no response.
      have hprotect := log_protect security encodedRequest state.security
      simp only [recordingClient, streamClient, streamChannel]
      rcases hprotected : (recordingSecurity security).protect encodedRequest state.security with
        ⟨status | outbound, sealing⟩
      · simp only [hprotected] at hprotect ⊢
        exact ⟨0, [], ⟨rfl, by rw [hprotect, List.append_nil]⟩, Nat.zero_le _,
          fun _ => hfailed _ _ _⟩
      · simp only [hprotected] at hprotect ⊢
        rcases hresponses : state.channel with _ | ⟨received, later⟩
        · simp only
          exact ⟨0, [], ⟨congrArg List.length hresponses, by rw [hprotect, List.append_nil]⟩,
            Nat.zero_le _, fun _ => hfailed _ _ _⟩
        · have hone : state.channel.length = later.length + 1 := by
            rw [hresponses, List.length_cons]
          -- A response is taken even if it is an error, or is not opened.
          cases received with
          | error status =>
              simp only
              exact ⟨1, [], ⟨hone, by rw [hprotect, List.append_nil]⟩, Nat.le_refl _,
                fun _ => hfailed _ _ _⟩
          | ok encodedResponse =>
              simp only
              rcases hopened : (recordingSecurity security).unprotect encodedResponse sealing with
                ⟨status | plain, opening⟩
              · have hlog : opening.2 = state.security.2 := by
                  rw [← hprotect]
                  exact log_unprotect_failed security encodedResponse status sealing opening hopened
                exact ⟨1, [], ⟨hone, by rw [hlog, List.append_nil]⟩, Nat.le_refl _,
                  fun _ => hfailed _ _ _⟩
              · have hlog := log_unprotect security encodedResponse plain sealing opening hopened
                rw [hprotect] at hlog
                dsimp only
                cases Apdu.decodeXdlmsApdu plain with
                | error status => exact ⟨1, [plain], ⟨hone, hlog⟩, Nat.le_refl _, fun _ _ => rfl⟩
                | ok response => exact ⟨1, [plain], ⟨hone, hlog⟩, Nat.le_refl _, fun _ _ => rfl⟩

/-- So does one that reads its result off the response. -/
theorem took_of_receiveGetResponse (request : XdlmsApdu) :
    ∃ count plains, Took state
        (receiveGetResponse (recordingClient (streamClient security isAssociated)) request state).2
        count plains ∧ count ≤ 1 ∧
      ∀ response,
        (receiveGetResponse (recordingClient (streamClient security isAssociated)) request
          state).1 = .ok response → count = 1 := by
  rcases took_of_sendAndReceive security isAssociated state request with
    ⟨count, plains, htook, hcount, hok⟩
  unfold receiveGetResponse
  generalize sendAndReceive (recordingClient (streamClient security isAssociated)) request state =
    out at htook hok ⊢
  rcases out with ⟨status | answer, after⟩
  · exact ⟨count, plains, htook, hcount, fun _ h => absurd h nofun⟩
  · cases answer <;> exact ⟨count, plains, htook, hcount, fun _ _ => hok _ rfl⟩

end Requests

/-! ### One block of a loop -/

/-- A block that brings nothing and is not the last. -/
def bringsNothing (block : DataBlock) : Bool := block.rawData.isEmpty && !block.lastBlock

def emptyBlocks (datablocks : List (UInt8 × DataBlock)) : Nat :=
  datablocks.countP fun datablock => bringsNothing datablock.2

/-- A block that is appended uses up some of the limit, unless it brings nothing. -/
theorem length_of_appended (blocks after : BlockTransferManager) (block : DataBlock)
    (h : blocks.appendBlock block = .ok after) (hmore : block.lastBlock = false) (invokeId : UInt8)
    (later : List (UInt8 × DataBlock)) :
    blocks.data.length + 1 + emptyBlocks later ≤
        after.data.length + emptyBlocks ((invokeId, block) :: later) ∧
      after.data.length ≤ after.maxBytes ∧ after.maxBytes = blocks.maxBytes := by
  rcases appendBlock_eq_ok blocks after block h with ⟨-, hsize, rfl⟩
  refine ⟨?_, ?_, rfl⟩
  · rw [emptyBlocks, emptyBlocks, List.countP_cons, bringsNothing, hmore, List.length_append]
    cases hdata : block.rawData with
    | nil =>
        simp only [List.isEmpty_nil, Bool.not_false, Bool.and_self, if_true, List.length_nil]
        omega
    | cons first rest =>
        simp only [List.isEmpty_cons, Bool.false_and, Bool.false_eq_true, if_false,
          List.length_cons]
        omega
  · rw [List.length_append]
    exact hsize

section Loop

variable {ρ : Type} (blockOf : Bytes → Option (UInt8 × DataBlock))
  (loop : Nat → UInt8 → DataBlock → BlockTransferManager →
    XdlmsClientState Responses (σ × List Bytes) → Option (Outcome Responses (σ × List Bytes) ρ))

/-- What a loop that gathers blocks does with one: it ends without a response, or
    it appends the block and asks for the next one, and ends with what it is
    given or goes on with the block in it. -/
structure GathersBlocks : Prop where
  step : ∀ responses responseInvokeId block blocks state,
    (∃ outcome, loop (responses + 1) responseInvokeId block blocks state = some outcome ∧
        outcome.2.2 = state) ∨
      ∃ appended, blocks.appendBlock block = .ok appended ∧ block.lastBlock = false ∧
        ((∃ outcome count plains,
            loop (responses + 1) responseInvokeId block blocks state = some outcome ∧
              Took state outcome.2.2 count plains ∧ count ≤ 1) ∨
          ∃ nextInvokeId next received plain, Took state received 1 [plain] ∧
            blockOf plain = some (nextInvokeId &&& 0x0F, next) ∧
            loop (responses + 1) responseInvokeId block blocks state =
              loop responses nextInvokeId next appended received)

/-- A call that ends, having taken no more responses than its limit has bytes, but
    for the last one and for the blocks that bring nothing. The blocks of
    responses that it had before are given. -/
def TakesAtMost (limit : Nat) (before : List (UInt8 × DataBlock))
    (state : XdlmsClientState Responses (σ × List Bytes))
    (outcome : Option (Outcome Responses (σ × List Bytes) ρ)) : Prop :=
  ∃ result count plains, outcome = some result ∧ Took state result.2.2 count plains ∧
    before.length + count ≤ limit + 1 + emptyBlocks (before ++ plains.filterMap blockOf)

variable (hloop : GathersBlocks blockOf loop)
include hloop

/-- A loop from any block on. The induction is on the rounds that are left, of
    which there are more than responses; what has been gathered and what brings
    nothing pays for the responses. -/
theorem takesAtMost_of_gathersBlocks (responses : Nat) (responseInvokeId : UInt8)
    (block : DataBlock) (blocks : BlockTransferManager)
    (state : XdlmsClientState Responses (σ × List Bytes))
    (hrounds : state.channel.length < responses)
    (hsize : blocks.data.length ≤ blocks.maxBytes) :
    TakesAtMost blockOf (blocks.maxBytes - blocks.data.length)
      [(responseInvokeId &&& 0x0F, block)] state
      (loop responses responseInvokeId block blocks state) := by
  induction responses generalizing responseInvokeId block blocks state with
  | zero => exact absurd hrounds (Nat.not_lt_zero _)
  | succ responses ih =>
      rcases hloop.step responses responseInvokeId block blocks state with
        ⟨outcome, hended, hstate⟩ | ⟨appended, happended, hmore, hread⟩
      · refine ⟨outcome, 0, [], hended, ?_, ?_⟩
        · rw [hstate]
          exact took_nothing state
        · simp only [List.length_singleton]
          omega
      · have hpaid := length_of_appended blocks appended block happended hmore
          (responseInvokeId &&& 0x0F)
        rcases hread with ⟨outcome, count, plains, hended, htook, hcount⟩ |
          ⟨nextInvokeId, next, received, plain, htook, hblock, hnext⟩
        · refine ⟨outcome, count, plains, hended, htook, ?_⟩
          rcases hpaid (plains.filterMap blockOf) with ⟨hless, hmost, hlimit⟩
          simp only [List.length_singleton, List.singleton_append]
          omega
        -- One response is taken here, and there is a round less.
        · have hleft := htook.count
          rcases hpaid [] with ⟨-, hmost, hlimit⟩
          rcases ih nextInvokeId next appended received (by omega) hmost with
            ⟨outcome, count, plains, hended, hlater, hbound⟩
          refine ⟨outcome, 1 + count, plain :: plains, hnext.trans hended,
            htook.trans _ _ _ _ _ _ _ hlater, ?_⟩
          rw [List.filterMap_cons, hblock]
          simp only [List.length_singleton, List.singleton_append] at hbound ⊢
          rcases hpaid ((nextInvokeId &&& 0x0F, next) :: plains.filterMap blockOf) with
            ⟨hless, -, -⟩
          omega

end Loop

/-! ### The loop of a client -/

/-- Whatever it asks for, the loop gathers blocks. -/
theorem gathersBlocks_collectBlocks {ρ : Type} (security : Option (SecurityProcessor σ))
    (isAssociated : Bool) (loop : BlockLoop ρ) (invokeId : UInt8) : GathersBlocks loop.blockOf
      (collectBlocks (recordingClient (streamClient security isAssociated)) loop invokeId) := by
  constructor
  intro responses responseInvokeId block blocks state
  rw [collectBlocks]
  by_cases hinvoke : responseInvokeId &&& 0x0F ≠ invokeId
  · rw [if_pos hinvoke]
    exact .inl ⟨_, rfl, rfl⟩
  rw [if_neg hinvoke]
  cases happended : blocks.appendBlock block with
  | error status => exact .inl ⟨_, rfl, rfl⟩
  | ok appended =>
      dsimp only
      cases hmore : block.lastBlock with
      | true =>
          rw [if_pos rfl]
          exact .inl ⟨_, rfl, rfl⟩
      | false =>
          rw [if_neg Bool.false_ne_true]
          refine .inr ⟨appended, rfl, rfl, ?_⟩
          -- The next block is asked for.
          rcases took_of_sendAndReceive security isAssociated state
            (loop.request block.blockNumber) with ⟨count, plains, htook, hcount, hok⟩
          rcases hreceived : sendAndReceive (recordingClient (streamClient security isAssociated))
            (loop.request block.blockNumber) state with ⟨status | response, received⟩
          · rw [hreceived] at htook
            exact .inl ⟨_, count, plains, rfl, htook, hcount⟩
          · rw [hreceived] at htook hok
            dsimp only
            cases hnext : loop.block response with
            | none => exact .inl ⟨_, count, plains, rfl, htook, hcount⟩
            | some next =>
                rcases received_of_sendAndReceive (streamClient security isAssociated) _ response
                  state received hreceived with ⟨plain, hplain, hlog⟩
                have hone := htook.count
                rw [hok _ rfl] at hone
                refine .inr ⟨next.1, next.2, received, plain, ⟨hone, hlog⟩, ?_, rfl⟩
                simp [BlockLoop.blockOf, hplain, hnext]

/-! ### The services -/

section Services

variable (security : Option (SecurityProcessor σ)) (isAssociated : Bool)
  (options : ServiceOptions) (state : XdlmsClientState Responses (σ × List Bytes)) (extra : Nat)

/-- A call that ends with no response or with one. -/
theorem takesAtMost_of_one {ρ : Type} (blockOf : Bytes → Option (UInt8 × DataBlock)) (limit : Nat)
    (result : Outcome Responses (σ × List Bytes) ρ) (count : Nat) (plains : List Bytes)
    (htook : Took state result.2.2 count plains) (hcount : count ≤ 1) :
    TakesAtMost blockOf limit [] state (some result) := by
  refine ⟨result, count, plains, rfl, htook, ?_⟩
  simp only [List.length_nil]
  omega

/-- The blocks that a response to an ACTION brings. -/
def actionBlocks (response : Apdu.ActionResponse) : List (UInt8 × DataBlock) :=
  match response with
  | .withPblock iip block => [(iip &&& 0x0F, block)]
  | .normal _ _ | .nextPblock _ _ | .withList _ _ => []

/-- The rest of a GET, which has its first response already: it has taken one, and
    a block of it pays for those that the loop still takes. -/
theorem takesAtMost_finishGet (invokeId iip : UInt8) (request : XdlmsApdu)
    (numbered received : XdlmsClientState Responses (σ × List Bytes)) (response : Apdu.GetResponse)
    (hnumbered : Took state numbered 0 [])
    (hreceived : receiveGetResponse (recordingClient (streamClient security isAssociated)) request
      numbered = (.ok response, received)) :
    TakesAtMost getBlockOf options.maxBlockTransferBytes [] state
      (finishGet (recordingClient (streamClient security isAssociated)) invokeId iip options
        (state.channel.length + 1 + extra) response received) := by
  rcases took_of_receiveGetResponse security isAssociated numbered request with
    ⟨count, plains, htook, hcount, hok⟩
  rw [hreceived] at htook hok
  have hfirst := hnumbered.trans _ _ _ _ _ _ _ htook
  rw [Nat.zero_add, List.nil_append] at hfirst
  -- Without a loop the call ends here.
  have hone (result : Outcome Responses (σ × List Bytes) GetResult)
      (hstate : result.2.2 = received) :
      TakesAtMost getBlockOf options.maxBlockTransferBytes [] state (some result) :=
    takesAtMost_of_one state getBlockOf _ _ count plains (hstate.symm ▸ hfirst) hcount
  unfold finishGet
  cases response with
  | withList _ _ => exact hone _ rfl
  | normal responseInvokeId result =>
      dsimp only
      by_cases hinvoke : responseInvokeId &&& 0x0F ≠ invokeId
      · rw [if_pos hinvoke]
        exact hone _ rfl
      · rw [if_neg hinvoke]
        cases result with
        | dataAccessError accessResult => exact hone _ rfl
        | data data =>
            dsimp only
            cases copyEncodedData data with
            | error status => exact hone _ rfl
            | ok bytes => exact hone _ rfl
  | withDataBlock responseInvokeId block =>
      dsimp only
      by_cases hallow : (!options.allowBlockTransfer) = true
      · rw [if_pos hallow]
        exact hone _ rfl
      rw [if_neg hallow]
      rcases received_of_receiveGetResponse (streamClient security isAssociated) request _ numbered
        received hreceived with ⟨plain, hplain, hlog⟩
      have hleft : state.channel.length = received.channel.length + 1 := by
        rw [← hok _ rfl]
        exact hfirst.count
      -- The loop has a round for every response that is left.
      rw [collectGetBlocks_eq]
      rcases takesAtMost_of_gathersBlocks _ _
        (gathersBlocks_collectBlocks security isAssociated (getLoop invokeId iip) invokeId)
        (state.channel.length + 1 + extra) responseInvokeId block
        { maxBytes := options.maxBlockTransferBytes } received (by omega)
        (Nat.zero_le _) with ⟨outcome, more, later, hended, hlater, hbound⟩
      rw [getBlockOf_eq] at hbound
      have hplains : Took state received 1 [plain] := by
        refine ⟨hleft, hlog.trans ?_⟩
        rw [hnumbered.plains, List.append_nil]
      refine ⟨outcome, 1 + more, plain :: later, hended, hplains.trans _ _ _ _ _ _ _ hlater, ?_⟩
      have hblock : getBlockOf plain = some (responseInvokeId &&& 0x0F, block) := by
        simp [getBlockOf, hplain]
      rw [List.nil_append, List.filterMap_cons, hblock]
      simp only [List.length_singleton, List.length_nil, List.singleton_append, Nat.sub_zero]
        at hbound ⊢
      omega

/-- A GET takes no more responses than its limit has bytes, but for the last one
    and for empty blocks. -/
theorem takesAtMost_get (descriptor : CosemAttributeDescriptor)
    (selectiveAccess : Option SelectiveAccessDescriptor) :
    TakesAtMost getBlockOf options.maxBlockTransferBytes [] state
      (get (recordingClient (streamClient security isAssociated)) descriptor selectiveAccess options
        (state.channel.length + 1 + extra) state) := by
  -- A call whose arguments are refused takes no response.
  have hnone (status : XdlmsStatus) (result : GetResult)
      (after : XdlmsClientState Responses (σ × List Bytes)) (htook : Took state after 0 []) :
      TakesAtMost getBlockOf options.maxBlockTransferBytes [] state
        (some (.error status, result, after)) :=
    takesAtMost_of_one state getBlockOf _ _ 0 [] htook (Nat.zero_le _)
  unfold get
  cases validateDescriptor descriptor with
  | error status => exact hnone _ _ _ (took_nothing state)
  | ok valid =>
      dsimp only
      cases validateOptionalSelectiveAccess selectiveAccess with
      | error status => exact hnone _ _ _ (took_nothing state)
      | ok valid =>
          dsimp only
          by_cases hassociated :
              (!(recordingClient (streamClient security isAssociated)).isAssociated) = true
          · rw [if_pos hassociated]
            exact hnone _ _ _ (took_nothing state)
          rw [if_neg hassociated]
          unfold getWithInvokeId
          dsimp only
          generalize state.invokeIds.take.1 = invokeId
          have hnumbered : Took state { state with invokeIds := state.invokeIds.take.2 } 0 [] :=
            ⟨rfl, (List.append_nil _).symm⟩
          generalize ({ state with invokeIds := state.invokeIds.take.2 } :
            XdlmsClientState Responses (σ × List Bytes)) = numbered at hnumbered ⊢
          cases makeGetRequestNormal (makeInvokeIdAndPriority invokeId options) descriptor
              selectiveAccess with
          | error status => exact hnone _ _ _ hnumbered
          | ok request =>
              dsimp only
              rcases hreceived : receiveGetResponse (recordingClient (streamClient security
                isAssociated)) request numbered with ⟨status | response, received⟩
              · rcases took_of_receiveGetResponse security isAssociated numbered request with
                  ⟨count, plains, htook, hcount, -⟩
                have hfirst := hnumbered.trans _ _ _ _ _ _ _ htook
                rw [Nat.zero_add, List.nil_append, hreceived] at hfirst
                exact takesAtMost_of_one state getBlockOf _ _ count plains hfirst hcount
              · exact takesAtMost_finishGet security isAssociated options state extra invokeId _
                  request numbered received response hnumbered hreceived

/-- The loop over the response to an ACTION, which has its first response already. -/
theorem takesAtMost_copyFinal (invokeId iip : UInt8) (response : Apdu.ActionResponse) :
    TakesAtMost actionBlockOf options.maxBlockTransferBytes (actionBlocks response) state
      (copyFinalActionResponse (recordingClient (streamClient security isAssociated)) invokeId iip
        options response (state.channel.length + 1 + extra) state) := by
  have hnone (blocks : List (UInt8 × DataBlock)) (hblocks : blocks.length ≤ 1)
      (result : Outcome Responses (σ × List Bytes) ActionResult) (hstate : result.2.2 = state) :
      TakesAtMost actionBlockOf options.maxBlockTransferBytes blocks state (some result) := by
    refine ⟨result, 0, [], rfl, hstate.symm ▸ took_nothing state, ?_⟩
    omega
  unfold copyFinalActionResponse
  cases response with
  | normal responseInvokeId item => exact hnone _ (Nat.zero_le _) _ rfl
  | nextPblock responseInvokeId blockNumber => exact hnone _ (Nat.zero_le _) _ rfl
  | withList responseInvokeId items => exact hnone _ (Nat.zero_le _) _ rfl
  | withPblock responseInvokeId block =>
      dsimp only
      by_cases hallow : (!options.allowBlockTransfer) = true
      · rw [if_pos hallow]
        exact hnone _ (Nat.le_refl _) _ rfl
      · rw [if_neg hallow]
        rw [collectActionBlocks_eq, ← actionBlockOf_eq invokeId iip]
        exact takesAtMost_of_gathersBlocks _ _ (gathersBlocks_collectBlocks security isAssociated
          (actionLoop invokeId iip) invokeId) (state.channel.length + 1 + extra) responseInvokeId
          block { maxBytes := options.maxBlockTransferBytes } state (by omega) (Nat.zero_le _)

/-- Whatever the server sends, both loops end, with no more responses than the
    limit has bytes, one for the response that ends them, and one for each empty
    block that was not the last. -/
theorem responses_bounded :
    (∀ descriptor selectiveAccess,
        TakesAtMost getBlockOf options.maxBlockTransferBytes [] state
          (get (recordingClient (streamClient security isAssociated)) descriptor selectiveAccess
            options (state.channel.length + 1 + extra) state)) ∧
      ∀ invokeId iip response,
        TakesAtMost actionBlockOf options.maxBlockTransferBytes (actionBlocks response) state
          (copyFinalActionResponse (recordingClient (streamClient security isAssociated)) invokeId
            iip options response (state.channel.length + 1 + extra) state) :=
  ⟨takesAtMost_get security isAssociated options state extra,
    takesAtMost_copyFinal security isAssociated options state extra⟩

end Services

/-- A server that sends one empty block for every number is asked for all of them,
    more than the limit of the call has bytes. -/
theorem not_responses_bounded :
    ¬∀ outcome, get (recordingClient endlessClient) energyValue none defaultServiceOptions
        blockNumbers (endless 0 [] .initial) = some outcome →
      outcome.2.2.channel ≤ defaultServiceOptions.maxBlockTransferBytes + 1 := by
  intro hbounded
  rcases Nat.exists_eq_succ_of_ne_zero (show blockNumbers ≠ 0 by decide) with ⟨left, hleft⟩
  have hget := get_endless left hleft.symm
  rw [← Nat.succ_eq_add_one, ← hleft] at hget
  have hcount := hbounded _ hget
  exact absurd hcount (by decide)

end Xdlms

end Dlms
