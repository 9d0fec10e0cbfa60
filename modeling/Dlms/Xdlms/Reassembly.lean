import Dlms.Machine.Run
import Dlms.Xdlms.GetTransfer
import Dlms.Xdlms.Transfers

/-!
# Block transfers over a whole run

One request moves each of the three block states of a processor as its abstract
machine may, whichever service it addresses. From that follows what a run shows
from outside. Each value that reaches the handler in blocks is the bytes of the
datablocks received since the first one, and the blocks an answer is served in
are consecutive slices of it.

Block numbers have 32 bits and go on with zero. A SET of that many blocks
delivers a block with that number, so numbers are counted in 32 bits here.

## Main definitions

* `requestOf`, `callsOf`: The decoded request of a transition, and the
  indications its handler was given.
* `setReceived`, `actionReceived`: The datablocks received since a first one.
* `getServed`: The last answer and the blocks it was served in.
* `BlockWise`: The statement for a transition and its past.

## Theorems

* `moves_transition`: One request moves each block state as it may.
* `held_step`: What one request keeps of the past and the block states.
* `blockWise_run`: The statement for every run.
* `wrapped_not_blockWise`: A transfer whose numbers start again.
-/

namespace Dlms

namespace Xdlms

open Apdu (Bytes DataBlock XdlmsApdu)
open Machine (Transition run transition final run_append final_append holds_of_every_step)

/-! ### The whole processor -/

section Runs

variable {σ δ : Type} (handler : XdlmsServerHandler δ) (options : ServiceOptions)
  (security : Option (SecurityProcessor σ))

/-- A transition of a processor whose handler writes down its indications. -/
abbrev Recorded (σ δ : Type) : Type :=
  Transition Bytes (Except XdlmsStatus Bytes) (XdlmsServerState σ (δ × List ServiceIndication))

/-- The request of a transition, when it was unprotected and decoded. -/
def requestOf (t : Recorded σ δ) : Option XdlmsApdu :=
  (decodeRequest security t.input t.before.security).1.toOption

/-- The indications the handler was given in a transition. -/
def callsOf (t : Recorded σ δ) : List ServiceIndication :=
  t.after.device.2.drop t.before.device.2.length

def setEventOf (t : Recorded σ δ) : Option (BlockEvent CosemAttributeDescriptor) :=
  (requestOf security t).bind setEvent

def actionEventOf (t : Recorded σ δ) : Option (BlockEvent CosemMethodDescriptor) :=
  (requestOf security t).bind actionEvent

/-- The datablocks of SET requests received since the last first one. -/
def setReceived (history : List (Recorded σ δ)) : Option (Received CosemAttributeDescriptor) :=
  Received.since (history.filterMap (setEventOf security))

def actionReceived (history : List (Recorded σ δ)) : Option (Received CosemMethodDescriptor) :=
  Received.since (history.filterMap (actionEventOf security))

/-- The answer to a GET request before it is protected, and nothing for another
    request. -/
def getResponseOf (t : Recorded σ δ) : Except XdlmsStatus Bytes :=
  match requestOf security t with
  | some (.getRequest request) =>
      (processGetRequest (recordingHandler handler) options request t.before.getBlocks
        t.before.device).1
  | _ => .error .unsupportedFeature

/-- The last answer to a GET and the blocks served from it. -/
def getServed (history : List (Recorded σ δ)) : Served :=
  history.foldl (fun served t => served.extend (answerOf handler t.before.device.1 (callsOf t))
    (servedBlock (getResponseOf handler options security t))) {}

/-- What a transition shows after a past: values that came in blocks are what was
    received since the first block, and blocks that were served are slices of
    the answer. -/
structure BlockWise (history : List (Recorded σ δ)) (t : Recorded σ δ) : Prop where
  set : ∀ indication, .set indication ∈ callsOf t → (setEventOf security t).isSome →
    ∃ received, setReceived security (history ++ [t]) = some received ∧
      Complete options.maxBlockTransferBytes received indication.delivery
  action : ∀ indication, .action indication ∈ callsOf t → (actionEventOf security t).isSome →
    indication.parameter.isSome ∧
      ∃ received, actionReceived security (history ++ [t]) = some received ∧
        Complete options.maxBlockTransferBytes received indication.delivery
  get : Sliced (getServed handler options security (history ++ [t])).data
    (getServed handler options security (history ++ [t])).blocks

/-- How a transition moves the three block states. -/
structure Moves (t : Recorded σ δ) (setDelivery : Option (Delivery CosemAttributeDescriptor))
    (actionDelivery : Option (Delivery CosemMethodDescriptor)) : Prop where
  set : Takes options.maxBlockTransferBytes (setEventOf security t)
    t.before.setBlocks.collector t.after.setBlocks.collector setDelivery
  setCalls : ∀ indication, .set indication ∈ callsOf t → (setEventOf security t).isSome →
    setDelivery = some indication.delivery
  action : Takes options.maxBlockTransferBytes (actionEventOf security t)
    t.before.actionBlocks.collector t.after.actionBlocks.collector actionDelivery
  actionCalls : ∀ indication, .action indication ∈ callsOf t →
    (actionEventOf security t).isSome →
    indication.parameter.isSome ∧ actionDelivery = some indication.delivery
  get : Serves (answerOf handler t.before.device.1 (callsOf t)) t.before.getBlocks.slicer
    t.after.getBlocks.slicer (servedBlock (getResponseOf handler options security t))

/-- Without a call of the handler for a GET there is no answer. -/
theorem answerOf_of_other (device : δ) (calls : List ServiceIndication)
    (h : ∀ indication, .get indication ∉ calls) : answerOf handler device calls = none := by
  unfold answerOf
  split
  · rename_i indication
    exact absurd List.mem_cons_self (h indication)
  · rfl

theorem callsOf_eq (t : Recorded σ δ) (calls : List ServiceIndication)
    (hlog : t.after.device.2 = t.before.device.2 ++ calls) : callsOf t = calls := by
  rw [callsOf, hlog, List.drop_left]

/-- A transition moves the block states as its service does. -/
theorem moves_of_service (t : Recorded σ δ) (request : XdlmsApdu)
    (hrequest : requestOf security t = some request) (calls : List ServiceIndication)
    (hlog : t.after.device.2 = t.before.device.2 ++ calls)
    (setDelivery : Option (Delivery CosemAttributeDescriptor))
    (actionDelivery : Option (Delivery CosemMethodDescriptor))
    (hset : Takes options.maxBlockTransferBytes (setEvent request) t.before.setBlocks.collector
      t.after.setBlocks.collector setDelivery)
    (hsetCalls : ∀ indication, .set indication ∈ calls → (setEvent request).isSome →
      setDelivery = some indication.delivery)
    (haction : Takes options.maxBlockTransferBytes (actionEvent request)
      t.before.actionBlocks.collector t.after.actionBlocks.collector actionDelivery)
    (hactionCalls : ∀ indication, .action indication ∈ calls → (actionEvent request).isSome →
      indication.parameter.isSome ∧ actionDelivery = some indication.delivery)
    (hget : Serves (answerOf handler t.before.device.1 calls) t.before.getBlocks.slicer
      t.after.getBlocks.slicer (servedBlock (getResponseOf handler options security t))) :
    Moves handler options security t setDelivery actionDelivery := by
  have hcalls := callsOf_eq t calls hlog
  have hsetEvent : setEventOf security t = setEvent request := by
    rw [setEventOf, hrequest]
    rfl
  have hactionEvent : actionEventOf security t = actionEvent request := by
    rw [actionEventOf, hrequest]
    rfl
  refine ⟨?_, ?_, ?_, ?_, ?_⟩
  · rw [hsetEvent]
    exact hset
  · rw [hcalls, hsetEvent]
    exact hsetCalls
  · rw [hactionEvent]
    exact haction
  · rw [hcalls, hactionEvent]
    exact hactionCalls
  · rw [hcalls]
    exact hget

/-- A transition that leaves all but the security state moves nothing. -/
theorem moves_of_unchanged (t : Recorded σ δ) (securityAfter : σ)
    (hafter : t.after = { t.before with security := securityAfter })
    (hset : setEventOf security t = none) (haction : actionEventOf security t = none)
    (hresponse : servedBlock (getResponseOf handler options security t) = none) :
    Moves handler options security t none none := by
  have hcalls : callsOf t = [] := by
    rw [callsOf, hafter, List.drop_length]
  exact
    { set := by
        rw [hset, hafter]
        exact .same _ _ rfl
      setCalls := fun _ _ hevent => by
        rw [hset] at hevent
        exact absurd hevent Bool.false_ne_true
      action := by
        rw [haction, hafter]
        exact .same _ _ rfl
      actionCalls := fun _ _ hevent => by
        rw [haction] at hevent
        exact absurd hevent Bool.false_ne_true
      get := by
        rw [hresponse, hcalls, hafter]
        exact .same _ _ rfl }

/-- A decoded request leaves what its service leaves, but for the security
    state. -/
theorem after_of_decoded (requestApdu : Bytes)
    (state : XdlmsServerState σ (δ × List ServiceIndication)) (request : XdlmsApdu)
    (securityState : σ)
    (hdecoded : decodeRequest security requestApdu state.security =
      (.ok request, securityState)) :
    ∃ securityAfter, (transition (processRequest (recordingHandler handler) options security)
        requestApdu state).after =
      { (processService (recordingHandler handler) options request
          { state with security := securityState }).2 with security := securityAfter } := by
  simp only [transition, processRequest_of_decoded _ _ _ _ _ _ _ hdecoded]
  rcases processService (recordingHandler handler) options request
    { state with security := securityState } with ⟨status | response, after⟩
  · exact ⟨_, rfl⟩
  · exact ⟨_, rfl⟩

/-- One request moves each block state as its abstract machine may. -/
theorem moves_transition (requestApdu : Bytes)
    (state : XdlmsServerState σ (δ × List ServiceIndication)) :
    ∃ setDelivery actionDelivery, Moves handler options security
      (transition (processRequest (recordingHandler handler) options security) requestApdu state)
      setDelivery actionDelivery := by
  rcases hdecoded : decodeRequest security requestApdu state.security with
    ⟨status | request, securityState⟩
  · -- Nothing was decoded.
    have hrequest : requestOf security (transition
        (processRequest (recordingHandler handler) options security) requestApdu state) =
        none := by
      simp [requestOf, transition, hdecoded, Except.toOption]
    have hafter : (transition (processRequest (recordingHandler handler) options security)
        requestApdu state).after = { state with security := securityState } := by
      simp [transition, processRequest_of_rejected _ _ _ _ _ _ _ hdecoded]
    refine ⟨none, none, moves_of_unchanged handler options security _ securityState hafter
      ?_ ?_ ?_⟩
    · rw [setEventOf, hrequest]
      rfl
    · rw [actionEventOf, hrequest]
      rfl
    · simp [getResponseOf, hrequest, servedBlock]
  · have hrequest : requestOf security (transition
        (processRequest (recordingHandler handler) options security) requestApdu state) =
        some request := by
      simp [requestOf, transition, hdecoded, Except.toOption]
    rcases after_of_decoded handler options security requestApdu state request securityState
      hdecoded with ⟨securityAfter, hafter⟩
    have hbefore : (transition (processRequest (recordingHandler handler) options security)
        requestApdu state).before = state := rfl
    generalize transition (processRequest (recordingHandler handler) options security)
      requestApdu state = t at hrequest hafter hbefore ⊢
    have hmoves := moves_of_service handler options security t request hrequest
    rw [getResponseOf, hrequest, hafter, hbefore] at hmoves
    -- Each service moves its own block state, and calls for nothing else.
    cases request with
    | getRequest request =>
        rcases serves_processGetRequest handler options state.device request state.getBlocks with
          ⟨calls, hlog, hget, hserves⟩
        exact ⟨none, none, hmoves calls hlog none none (.same _ _ rfl)
          (fun _ _ hevent => absurd hevent Bool.false_ne_true) (.same _ _ rfl)
          (fun _ _ hevent => absurd hevent Bool.false_ne_true) hserves⟩
    | setRequest request =>
        rcases takes_processSetRequest handler options state.device request state.setBlocks with
          ⟨delivery, calls, htakes, hlog, hset⟩
        have hanswer : answerOf handler state.device.1 calls = none := by
          refine answerOf_of_other handler _ calls fun indication hcall => ?_
          rcases hset _ hcall with ⟨other, hother, -⟩
          cases hother
        refine ⟨delivery, none, hmoves calls hlog delivery none htakes ?_ (.same _ _ rfl)
          (fun _ _ hevent => absurd hevent Bool.false_ne_true) ?_⟩
        · intro indication hcall hevent
          rcases hset _ hcall with ⟨other, hother, hdelivery⟩
          rw [ServiceIndication.set.inj hother]
          exact hdelivery hevent
        · rw [hanswer]
          exact .same _ _ rfl
    | actionRequest request =>
        rcases takes_processActionRequest handler options state.device request
          state.actionBlocks with ⟨delivery, calls, htakes, hlog, haction⟩
        have hanswer : answerOf handler state.device.1 calls = none := by
          refine answerOf_of_other handler _ calls fun indication hcall => ?_
          rcases haction _ hcall with ⟨other, hother, -⟩
          cases hother
        refine ⟨none, delivery, hmoves calls hlog none delivery (.same _ _ rfl)
          (fun _ _ hevent => absurd hevent Bool.false_ne_true) htakes ?_ ?_⟩
        · intro indication hcall hevent
          rcases haction _ hcall with ⟨other, hother, hdelivery⟩
          rw [ServiceIndication.action.inj hother]
          exact hdelivery hevent
        · rw [hanswer]
          exact .same _ _ rfl
    | _ =>
        exact ⟨none, none, hmoves [] (List.append_nil _).symm none none (.same _ _ rfl)
          (fun _ hcall => absurd hcall List.not_mem_nil) (.same _ _ rfl)
          (fun _ hcall => absurd hcall List.not_mem_nil) (.same _ _ rfl)⟩

/-- What the block states are after a past. -/
structure Held (history : List (Recorded σ δ))
    (state : XdlmsServerState σ (δ × List ServiceIndication)) : Prop where
  set : AssembledSince options.maxBlockTransferBytes (setReceived security history)
    state.setBlocks.collector
  action : AssembledSince options.maxBlockTransferBytes (actionReceived security history)
    state.actionBlocks.collector
  get : WellServed (getServed handler options security history) state.getBlocks.slicer

/-- The past grows by the datablock of a transition, if it has one. -/
theorem setReceived_concat (history : List (Recorded σ δ)) (t : Recorded σ δ) :
    setReceived security (history ++ [t]) =
      (setEventOf security t).elim (setReceived security history)
        (Received.extend (setReceived security history)) :=
  Received.since_filterMap_concat _ history t

theorem actionReceived_concat (history : List (Recorded σ δ)) (t : Recorded σ δ) :
    actionReceived security (history ++ [t]) =
      (actionEventOf security t).elim (actionReceived security history)
        (Received.extend (actionReceived security history)) :=
  Received.since_filterMap_concat _ history t

theorem getServed_concat (history : List (Recorded σ δ)) (t : Recorded σ δ) :
    getServed handler options security (history ++ [t]) =
      (getServed handler options security history).extend
        (answerOf handler t.before.device.1 (callsOf t))
        (servedBlock (getResponseOf handler options security t)) := by
  rw [getServed, List.foldl_append]
  rfl

/-- One request keeps what the block states are. -/
theorem held_step (history : List (Recorded σ δ))
    (state : XdlmsServerState σ (δ × List ServiceIndication)) (requestApdu : Bytes)
    (h : Held handler options security history state) :
    Held handler options security (history ++ [transition
        (processRequest (recordingHandler handler) options security) requestApdu state])
      (processRequest (recordingHandler handler) options security requestApdu state).2 := by
  rcases moves_transition handler options security requestApdu state with
    ⟨setDelivery, actionDelivery, hmoves⟩
  exact
    { set := by
        rw [setReceived_concat]
        exact assembled_of_takes _ _ _ _ _ _ hmoves.set h.set
      action := by
        rw [actionReceived_concat]
        exact assembled_of_takes _ _ _ _ _ _ hmoves.action h.action
      get := by
        rw [getServed_concat]
        exact served_of_serves _ _ _ _ _ hmoves.get h.get }

theorem blockWise_step (history : List (Recorded σ δ))
    (state : XdlmsServerState σ (δ × List ServiceIndication)) (requestApdu : Bytes)
    (h : Held handler options security history state) :
    BlockWise handler options security history (transition
      (processRequest (recordingHandler handler) options security) requestApdu state) := by
  rcases moves_transition handler options security requestApdu state with
    ⟨setDelivery, actionDelivery, hmoves⟩
  exact
    { set := by
        intro indication hcall hevent
        rw [setReceived_concat]
        exact complete_of_takes _ _ _ _ _ _ hmoves.set h.set _
          (hmoves.setCalls indication hcall hevent)
      action := by
        intro indication hcall hevent
        rcases hmoves.actionCalls indication hcall hevent with ⟨hparameter, hdelivery⟩
        rw [actionReceived_concat]
        exact ⟨hparameter, complete_of_takes _ _ _ _ _ _ hmoves.action h.action _ hdelivery⟩
      get := (held_step handler options security history state requestApdu h).get.sliced }

/-- Nothing is held before the first request. -/
theorem held_start (securityState : σ) (device : δ) :
    Held handler options security [] { security := securityState, device := (device, []) } where
  set := fun hactive => absurd hactive Bool.false_ne_true
  action := fun hactive => absurd hactive Bool.false_ne_true
  get := ⟨sliced_nil [], fun hactive => absurd hactive Bool.false_ne_true⟩

/-- In every run of a new processor, whatever the requests are, each value
    handed on in blocks is the bytes of the datablocks received since the first
    of them, and the blocks made for a GET are consecutive slices of its answer. -/
theorem blockWise_run (requests : List Bytes) (request : Bytes) (securityState : σ)
    (device : δ) :
    BlockWise handler options security
      (run (processRequest (recordingHandler handler) options security) requests
        { security := securityState, device := (device, []) })
      (transition (processRequest (recordingHandler handler) options security) request
        (final (processRequest (recordingHandler handler) options security) requests
          { security := securityState, device := (device, []) })) := by
  -- The invariant holds of the past, and the last request is one step more.
  have hheld := holds_of_every_step
    (processRequest (recordingHandler handler) options security)
    (Held handler options security)
    (fun history state input h => held_step handler options security history state input h)
    requests _ (held_start handler options security securityState device)
  exact blockWise_step handler options security _ _ request hheld

end Runs

/-! ### A transfer whose numbers start again -/

section Wrapped

/-- The invoke id and priority of a client with the default options. -/
def wrappingIip : UInt8 := makeInvokeIdAndPriority 1 defaultServiceOptions

/-- The start of a value of one octet, and empty blocks behind it. -/
def wrappingBlock (sent : Nat) : DataBlock where
  lastBlock := false
  blockNumber := blockNumber sent
  rawData := if sent = 0 then [0x09, 0x01] else []

/-- The first blocks of a SET, one request each. -/
def wrappingSet (following : Nat) : List Bytes :=
  Apdu.setRequestFirstBlockBytes wrappingIip (toApduDescriptor energyValue) (wrappingBlock 0) ::
    (List.range following).map fun sent =>
      Apdu.setRequestBlockBytes wrappingIip (wrappingBlock (sent + 1))

/-- The request that ends it after as many blocks as there are numbers but
    one. -/
def wrappedRequest : Bytes :=
  Apdu.setRequestBlockBytes wrappingIip
    { lastBlock := true, blockNumber := blockNumber (blockNumbers - 1), rawData := [0x00] }

/-- A processor without security that answers every GET, and its start. -/
def wrappingStep : Bytes → XdlmsServerState Unit (Unit × List ServiceIndication) →
    Except XdlmsStatus Bytes × XdlmsServerState Unit (Unit × List ServiceIndication) :=
  processRequest (recordingHandler (answering [])) defaultServiceOptions none

/-- A new processor with no security. -/
def freshServer : XdlmsServerState Unit (Unit × List ServiceIndication) where
  security := ()
  device := ((), [])

/-- The processor after these blocks. -/
def wrappingState (following : Nat) : XdlmsServerState Unit (Unit × List ServiceIndication) where
  setBlocks := collectingSet 1 (servedOptions defaultServiceOptions defaultServiceOptions)
    energyValue (blockNumber (following + 1)) [0x09, 0x01]
  security := ()
  device := ((), [])

theorem wrappingSet_succ (following : Nat) : wrappingSet (following + 1) =
    wrappingSet following ++
      [Apdu.setRequestBlockBytes wrappingIip (wrappingBlock (following + 1))] := by
  simp [wrappingSet, List.range_succ]

theorem wrappingStep_first : wrappingStep
    (Apdu.setRequestFirstBlockBytes wrappingIip (toApduDescriptor energyValue) (wrappingBlock 0))
    freshServer =
      (.ok (Apdu.setResponseDataBlockBytes wrappingIip 1), wrappingState 0) := by
  have hdecoded := decode_setRequestFirstBlock wrappingIip (toApduDescriptor energyValue)
    (wrappingBlock 0) (by decide)
  rw [wrappingStep, processRequest_none _ _ _ _ hdecoded]
  exact serve_setRequestFirstBlock _ defaultServiceOptions defaultServiceOptions 1 energyValue
    freshServer rfl rfl rfl [0x09, 0x01] (by decide)

theorem wrappingStep_following (following : Nat) : wrappingStep
    (Apdu.setRequestBlockBytes wrappingIip (wrappingBlock (following + 1)))
    (wrappingState following) =
      (.ok (Apdu.setResponseDataBlockBytes wrappingIip (blockNumber (following + 1))),
        wrappingState (following + 1)) := by
  have hdecoded := decode_setRequestBlock wrappingIip (wrappingBlock (following + 1))
    (Nat.zero_le _)
  rw [wrappingStep, processRequest_none _ _ _ _ hdecoded]
  exact serve_setRequestBlock _ defaultServiceOptions defaultServiceOptions 1 energyValue
    (wrappingState following) rfl (following + 1) [0x09, 0x01] [] rfl (by decide)

theorem final_wrappingSet (following : Nat) :
    final wrappingStep (wrappingSet following) freshServer = wrappingState following := by
  induction following with
  | zero =>
      rw [wrappingSet, List.range_zero, List.map_nil, final, wrappingStep_first]
      rfl
  | succ following ih =>
      rw [wrappingSet_succ, final_append, ih, final, wrappingStep_following]
      rfl

theorem setEventOf_of_decoded (requestApdu : Bytes)
    (state : XdlmsServerState Unit (Unit × List ServiceIndication)) (request : XdlmsApdu)
    (hdecoded : Apdu.decodeXdlmsApdu requestApdu = .ok request) :
    setEventOf none (transition wrappingStep requestApdu state) = setEvent request := by
  simp [setEventOf, requestOf, transition, decodeRequest, hdecoded, Except.toOption]

/-- The datablocks of these requests, all with one invoke id. -/
def wrappingReceived (following : Nat) : Received CosemAttributeDescriptor where
  descriptor := energyValue
  datablocks := (List.range (following + 1)).map fun sent => (1, wrappingBlock sent)

theorem wrappingReceived_succ (following : Nat) : Received.extend
    (some (wrappingReceived following)) (.following 1 (wrappingBlock (following + 1))) =
      some (wrappingReceived (following + 1)) := by
  simp [Received.extend, wrappingReceived, List.range_succ]

theorem setReceived_wrappingSet (following : Nat) :
    setReceived none (run wrappingStep (wrappingSet following) freshServer) =
      some (wrappingReceived following) := by
  induction following with
  | zero =>
      have hdecoded := decode_setRequestFirstBlock wrappingIip (toApduDescriptor energyValue)
        (wrappingBlock 0) (by decide)
      have hevent := setEventOf_of_decoded _ freshServer _ hdecoded
      rw [wrappingSet, List.range_zero, List.map_nil, run, run, setReceived,
        List.filterMap_cons, hevent]
      rfl
  | succ following ih =>
      have hdecoded := decode_setRequestBlock wrappingIip (wrappingBlock (following + 1))
        (Nat.zero_le _)
      have hevent := setEventOf_of_decoded _ (wrappingState following) _ hdecoded
      rw [wrappingSet_succ, run_append, final_wrappingSet, run, run, setReceived_concat, ih, hevent]
      exact wrappingReceived_succ following

/-- The last block goes on with the number zero. -/
theorem blockNumber_last : blockNumber (blockNumbers - 1) = 0 := by
  apply UInt32.toNat_inj.mp
  rw [blockNumber, UInt32.toNat_ofNat', UInt32.toNat_zero, blockNumbers]
  decide

/-- What the handler is given at the end. -/
def wrappedIndication : SetIndication :=
  setIndication 1 defaultServiceOptions defaultServiceOptions energyValue [0x09, 0x01, 0x00]

/-- The datablocks of the whole transfer. -/
def wrappedReceived (following : Nat) : Received CosemAttributeDescriptor where
  descriptor := energyValue
  datablocks := (wrappingReceived following).datablocks ++
    [(1, { lastBlock := true, blockNumber := blockNumber (blockNumbers - 1), rawData := [0x00] })]

theorem callsOf_wrappedRequest (following : Nat) (hfollowing : following + 1 = blockNumbers - 1) :
    callsOf (transition wrappingStep wrappedRequest (wrappingState following)) =
      [.set wrappedIndication] := by
  have hdecoded := decode_setRequestBlock wrappingIip
    { lastBlock := true, blockNumber := blockNumber (blockNumbers - 1), rawData := [0x00] }
    (by decide)
  have hdevice := serve_setRequestLastBlock (recordingHandler (answering []))
    defaultServiceOptions defaultServiceOptions 1 energyValue (wrappingState following) rfl
    (following + 1) [0x09, 0x01] [0x00] rfl (by decide) rfl (by decide)
  rw [hfollowing] at hdevice
  simp only [callsOf, transition, wrappingStep, wrappedRequest,
    processRequest_none _ _ _ _ hdecoded]
  rw [wrappingIip, hdevice]
  rfl

theorem setReceived_wrappedRequest (following : Nat) : setReceived none
    (run wrappingStep (wrappingSet following) freshServer ++
      [transition wrappingStep wrappedRequest (wrappingState following)]) =
      some (wrappedReceived following) := by
  have hdecoded := decode_setRequestBlock wrappingIip
    { lastBlock := true, blockNumber := blockNumber (blockNumbers - 1), rawData := [0x00] }
    (by decide)
  have hevent := setEventOf_of_decoded _ (wrappingState following) _ hdecoded
  rw [setReceived_concat, setReceived_wrappingSet, wrappedRequest, hevent]
  rfl

/-- Only the block with the number zero carries the last octet. -/
theorem number_of_last_octet (following : Nat) (block : DataBlock)
    (hblock : block ∈ (wrappedReceived following).blocks) (hoctet : 0x00 ∈ block.rawData) :
    block.blockNumber = 0 := by
  rw [Received.blocks, wrappedReceived, List.map_append] at hblock
  rcases List.mem_append.mp hblock with hearlier | hlast
  · exfalso
    rcases List.mem_map.mp hearlier with ⟨datablock, hmem, rfl⟩
    rcases List.mem_map.mp hmem with ⟨sent, -, rfl⟩
    by_cases hfirst : sent = 0
    · simp only [wrappingBlock, hfirst, if_true] at hoctet
      exact absurd hoctet (by decide)
    · simp only [wrappingBlock, hfirst, if_false] at hoctet
      exact absurd hoctet List.not_mem_nil
  · rw [List.map_cons, List.map_nil] at hlast
    rw [List.mem_singleton.mp hlast]
    exact blockNumber_last

/-- The value is delivered, but no datablocks received since the first one that
    are numbered from one on make it up: its last octet came in a block with the
    number zero. -/
theorem wrapped_not_blockWise :
    ∃ indication received,
      .set indication ∈ callsOf (transition wrappingStep wrappedRequest
        (final wrappingStep (wrappingSet (blockNumbers - 2)) freshServer)) ∧
      setReceived none (run wrappingStep (wrappingSet (blockNumbers - 2)) freshServer ++
        [transition wrappingStep wrappedRequest
          (final wrappingStep (wrappingSet (blockNumbers - 2)) freshServer)]) = some received ∧
      ∀ blocks ⊆ received.blocks,
        (∀ k (h : k < blocks.length), (blocks.get ⟨k, h⟩).blockNumber.toNat = k + 1) →
          rawDataOf blocks ≠ indication.data := by
  have hcount : blockNumbers - 2 + 1 = blockNumbers - 1 := by
    rw [blockNumbers]
    omega
  refine ⟨wrappedIndication, wrappedReceived (blockNumbers - 2), ?_, ?_, ?_⟩
  · rw [final_wrappingSet, callsOf_wrappedRequest _ hcount]
    exact List.mem_singleton.mpr rfl
  · rw [final_wrappingSet]
    exact setReceived_wrappedRequest _
  · intro blocks hsubset hnumbered hdata
    -- Some block carries the last octet of the value.
    have hoctet : (0x00 : UInt8) ∈ rawDataOf blocks := by
      rw [hdata]
      decide
    rcases List.mem_flatten.mp hoctet with ⟨rawData, hmem, hin⟩
    rcases List.mem_map.mp hmem with ⟨block, hblock, rfl⟩
    have hzero := number_of_last_octet _ block (hsubset hblock) hin
    rcases List.mem_iff_get.mp hblock with ⟨k, hk⟩
    have hnumber := hnumbered k.1 k.2
    rw [hk, hzero, UInt32.toNat_zero] at hnumber
    omega

end Wrapped

end Xdlms

end Dlms
