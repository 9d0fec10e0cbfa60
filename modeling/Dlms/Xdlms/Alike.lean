import Dlms.Xdlms.BlockLoop
import Dlms.Xdlms.RemoteCalls

/-!
# Clients that cannot be told apart

A client does nothing with its channel and its security processor but exchange
a request for a response. So two clients whose exchanges have the same
responses make every call alike, with the loops of the block transfers in it.
What they are connected to may differ as much as it likes.

One of the two may break on the way, as a ciphered client does whose counter is
used up. A broken client gets no response any more, and its calls say nothing
of the other's.

## Main definitions

* `ExchangesAlike`: The exchanges of two clients have the same responses, until
  the first of them breaks.
* `CallsAlike`: So have their calls.

## Theorems

* `alike_get`, `alike_set`, `alike_action`: The services.
* `sessions_alike`: Every session.
-/

namespace Dlms

namespace Xdlms

open Apdu (Bytes DlmsData DataBlock XdlmsApdu)
open Machine (run final)

section Alike

variable {χ σ χ' σ' : Type} (first : XdlmsClient χ σ) (second : XdlmsClient χ' σ')
  (related : XdlmsClientState χ σ → XdlmsClientState χ' σ' → Prop)
  (broken : XdlmsClientState χ σ → Prop)

/-- Two exchanges with the same response, or a broken one without any. -/
inductive ExchangeAlike {α : Type} :
    Except XdlmsStatus α × XdlmsClientState χ σ → Except XdlmsStatus α × XdlmsClientState χ' σ' →
      Prop
  | same (response : Except XdlmsStatus α) (state : XdlmsClientState χ σ)
      (state' : XdlmsClientState χ' σ') (h : related state state') :
      ExchangeAlike (response, state) (response, state')
  | broke (status : XdlmsStatus) (state : XdlmsClientState χ σ)
      (other : Except XdlmsStatus α × XdlmsClientState χ' σ') (h : broken state) :
      ExchangeAlike (.error status, state) other

/-- Two outcomes with the same status and result, or a broken one that is a
    failure. Both calls may ask for too many responses. -/
inductive CallsAlike {ρ : Type} : Option (Outcome χ σ ρ) → Option (Outcome χ' σ' ρ) → Prop
  | unfinished : CallsAlike none none
  | same (status : Except XdlmsStatus Unit) (result : ρ) (state : XdlmsClientState χ σ)
      (state' : XdlmsClientState χ' σ') (h : related state state') :
      CallsAlike (some (status, result, state)) (some (status, result, state'))
  | broke (status : XdlmsStatus) (result : ρ) (state : XdlmsClientState χ σ)
      (other : Option (Outcome χ' σ' ρ)) (h : broken state) :
      CallsAlike (some (.error status, result, state)) other

/-- The requests a client makes. -/
def IsServiceRequest (request : XdlmsApdu) : Prop :=
  (∃ get, request = .getRequest get) ∨ (∃ set, request = .setRequest set) ∨
    ∃ action, request = .actionRequest action

/-- Exchanges have the same responses until the first client breaks, and a
    broken client gets no response. The invoke ids are the client's own. -/
structure ExchangesAlike : Prop where
  associated : first.isAssociated = second.isAssociated
  invokeIds : ∀ state state', related state state' → state.invokeIds = state'.invokeIds
  numbered : ∀ state state' invokeIds, related state state' →
    related { state with invokeIds := invokeIds } { state' with invokeIds := invokeIds }
  exchange : ∀ request state state', IsServiceRequest request → related state state' →
    ExchangeAlike related broken (sendAndReceive first request state)
      (sendAndReceive second request state')
  brokenNumbered : ∀ state invokeIds, broken state →
    broken { state with invokeIds := invokeIds }
  brokenExchange : ∀ request state, IsServiceRequest request → broken state →
    ∃ status after, sendAndReceive first request state = (.error status, after) ∧ broken after

variable {first second related broken} (h : ExchangesAlike first second related broken)
include h

/-! ### One exchange -/

section Services

variable {state : XdlmsClientState χ σ} {state' : XdlmsClientState χ' σ'}
  (hrelated : related state state')
include hrelated

theorem alike_receiveGetResponse (request : Apdu.GetRequest) :
    ExchangeAlike related broken (receiveGetResponse first (.getRequest request) state)
      (receiveGetResponse second (.getRequest request) state') := by
  have hexchange := h.exchange (.getRequest request) state state' (.inl ⟨request, rfl⟩) hrelated
  unfold receiveGetResponse
  generalize sendAndReceive first (.getRequest request) state = out at hexchange ⊢
  generalize sendAndReceive second (.getRequest request) state' = out' at hexchange ⊢
  cases hexchange with
  | broke status after other hbroken => exact .broke _ _ _ hbroken
  | same response after after' hafter =>
      cases response with
      | error status => exact .same _ _ _ hafter
      | ok response => cases response <;> exact .same _ _ _ hafter

theorem alike_receiveActionResponse (request : Apdu.ActionRequest) :
    ExchangeAlike related broken (receiveActionResponse first (.actionRequest request) state)
      (receiveActionResponse second (.actionRequest request) state') := by
  have hexchange := h.exchange (.actionRequest request) state state'
    (.inr (.inr ⟨request, rfl⟩)) hrelated
  unfold receiveActionResponse
  generalize sendAndReceive first (.actionRequest request) state = out at hexchange ⊢
  generalize sendAndReceive second (.actionRequest request) state' = out' at hexchange ⊢
  cases hexchange with
  | broke status after other hbroken => exact .broke _ _ _ hbroken
  | same response after after' hafter =>
      cases response with
      | error status => exact .same _ _ _ hafter
      | ok response => cases response <;> exact .same _ _ _ hafter

omit hrelated in
/-- The loop that collects a response, block by block. -/
theorem alike_collectBlocks {ρ : Type} (loop : BlockLoop ρ)
    (hrequest : ∀ blockNumber, IsServiceRequest (loop.request blockNumber)) (invokeId : UInt8)
    (responses : Nat) :
    ∀ (responseIip : UInt8) (block : DataBlock) (blocks : BlockTransferManager)
      (state : XdlmsClientState χ σ) (state' : XdlmsClientState χ' σ'), related state state' →
      CallsAlike related broken
        (collectBlocks first loop invokeId responses responseIip block blocks state)
        (collectBlocks second loop invokeId responses responseIip block blocks state') := by
  induction responses with
  | zero =>
      intro responseIip block blocks state state' hrelated
      exact .unfinished
  | succ responses ih =>
      intro responseIip block blocks state state' hrelated
      rw [collectBlocks, collectBlocks]
      split
      · exact .same _ _ _ _ hrelated
      cases blocks.appendBlock block with
      | error status => exact .same _ _ _ _ hrelated
      | ok blocks =>
          dsimp only
          split
          · exact .same _ _ _ _ hrelated
          have hnext := h.exchange _ state state' (hrequest block.blockNumber) hrelated
          generalize sendAndReceive first _ state = out at hnext ⊢
          generalize sendAndReceive second _ state' = out' at hnext ⊢
          cases hnext with
          | broke status after other hbroken => exact .broke _ _ _ _ hbroken
          | same response after after' hafter =>
              cases response with
              | error status => exact .same _ _ _ _ hafter
              | ok response =>
                  dsimp only
                  cases loop.block response with
                  | none => exact .same _ _ _ _ hafter
                  | some next => exact ih _ _ _ _ _ hafter

/-! ### GET -/

theorem alike_finishGet (invokeId iip : UInt8) (options : ServiceOptions) (responses : Nat)
    (response : Apdu.GetResponse) :
    CallsAlike related broken (finishGet first invokeId iip options responses response state)
      (finishGet second invokeId iip options responses response state') := by
  unfold finishGet
  cases response with
  | withList responseIip results => exact .same _ _ _ _ hrelated
  | withDataBlock responseIip block =>
      dsimp only
      split
      · exact .same _ _ _ _ hrelated
      · rw [collectGetBlocks_eq, collectGetBlocks_eq]
        exact alike_collectBlocks h _ (fun _ => .inl ⟨_, rfl⟩) invokeId responses _ _ _ _ _ hrelated
  | normal responseIip result =>
      dsimp only
      split
      · exact .same _ _ _ _ hrelated
      cases result with
      | dataAccessError accessResult => exact .same _ _ _ _ hrelated
      | data data =>
          dsimp only
          cases copyEncodedData data with
          | error status => exact .same _ _ _ _ hrelated
          | ok bytes => exact .same _ _ _ _ hrelated

omit h hrelated in
/-- The first request of a GET is a GET request, whatever its selection. -/
theorem makeGetRequestNormal_cases (iip : UInt8) (descriptor : CosemAttributeDescriptor)
    (selectiveAccess : Option SelectiveAccessDescriptor) :
    (∃ status, makeGetRequestNormal iip descriptor selectiveAccess = .error status) ∨
      ∃ request,
        makeGetRequestNormal iip descriptor selectiveAccess = .ok (.getRequest request) := by
  cases selectiveAccess with
  | none => exact .inr ⟨_, rfl⟩
  | some selectiveAccess =>
      simp only [makeGetRequestNormal]
      cases Client.decodeEncodedData selectiveAccess.encodedParameters with
      | error status => exact .inl ⟨status, rfl⟩
      | ok parameters => exact .inr ⟨_, rfl⟩

theorem alike_getWithInvokeId (invokeId : UInt8) (descriptor : CosemAttributeDescriptor)
    (selectiveAccess : Option SelectiveAccessDescriptor) (options : ServiceOptions)
    (responses : Nat) :
    CallsAlike related broken
      (getWithInvokeId first invokeId descriptor selectiveAccess options responses state)
      (getWithInvokeId second invokeId descriptor selectiveAccess options responses state') := by
  unfold getWithInvokeId
  dsimp only
  rcases makeGetRequestNormal_cases (makeInvokeIdAndPriority invokeId options) descriptor
    selectiveAccess with ⟨status, hrequest⟩ | ⟨request, hrequest⟩
  · rw [hrequest]
    exact .same _ _ _ _ hrelated
  · rw [hrequest]
    have hexchange := alike_receiveGetResponse h hrelated request
    dsimp only
    generalize receiveGetResponse first _ state = out at hexchange ⊢
    generalize receiveGetResponse second _ state' = out' at hexchange ⊢
    cases hexchange with
    | broke status after other hbroken => exact .broke _ _ _ _ hbroken
    | same response after after' hafter =>
        cases response with
        | error status => exact .same _ _ _ _ hafter
        | ok response => exact alike_finishGet h hafter _ _ options responses response

theorem alike_get (descriptor : CosemAttributeDescriptor)
    (selectiveAccess : Option SelectiveAccessDescriptor) (options : ServiceOptions)
    (responses : Nat) :
    CallsAlike related broken (get first descriptor selectiveAccess options responses state)
      (get second descriptor selectiveAccess options responses state') := by
  unfold get
  rw [h.associated, h.invokeIds state state' hrelated]
  cases validateDescriptor descriptor with
  | error status => exact .same _ _ _ _ hrelated
  | ok valid =>
      cases validateOptionalSelectiveAccess selectiveAccess with
      | error status => exact .same _ _ _ _ hrelated
      | ok valid =>
          dsimp only
          split
          · exact .same _ _ _ _ hrelated
          · exact alike_getWithInvokeId h (h.numbered _ _ _ hrelated) _ _ _ _ _

/-! ### SET -/

theorem alike_setNormal (invokeId : UInt8) (descriptor : CosemAttributeDescriptor)
    (data : DlmsData) (options : ServiceOptions) :
    CallsAlike related broken (some (setNormal first invokeId descriptor data options state))
      (some (setNormal second invokeId descriptor data options state')) := by
  have hexchange := h.exchange
    (.setRequest (.normal (makeInvokeIdAndPriority invokeId options)
      { descriptor := toApduDescriptor descriptor, selection := none } data)) state state'
    (.inr (.inl ⟨_, rfl⟩)) hrelated
  unfold setNormal
  generalize sendAndReceive first _ state = out at hexchange ⊢
  generalize sendAndReceive second _ state' = out' at hexchange ⊢
  cases hexchange with
  | broke status after other hbroken => exact .broke _ _ _ _ hbroken
  | same response after after' hafter =>
      cases response with
      | error status => exact .same _ _ _ _ hafter
      | ok response =>
          cases response with
          | setResponse response =>
              cases response with
              | normal responseIip accessResult =>
                  dsimp only
                  split
                  · exact .same _ _ _ _ hafter
                  · exact .same _ _ _ _ hafter
              | _ => exact .same _ _ _ _ hafter
          | _ => exact .same _ _ _ _ hafter

omit hrelated in
theorem alike_sendSetBlocks (invokeId iip : UInt8) (descriptor : CosemAttributeDescriptor)
    (payload : Nat) (rounds : Nat) :
    ∀ (rest : Bytes) (blockNumber : UInt32) (state : XdlmsClientState χ σ)
      (state' : XdlmsClientState χ' σ'), related state state' →
      CallsAlike related broken
        (some (sendSetBlocks first invokeId iip descriptor payload rounds rest blockNumber state))
        (some (sendSetBlocks second invokeId iip descriptor payload rounds rest blockNumber
          state')) := by
  induction rounds with
  | zero =>
      intro rest blockNumber state state' hrelated
      exact .same _ _ _ _ hrelated
  | succ rounds ih =>
      intro rest blockNumber state state' hrelated
      rw [sendSetBlocks, sendSetBlocks]
      generalize (if blockNumber = 1 then _ else _ : Apdu.SetRequest) = request
      have hexchange := h.exchange (.setRequest request) state state'
        (.inr (.inl ⟨_, rfl⟩)) hrelated
      generalize sendAndReceive first _ state = out at hexchange ⊢
      generalize sendAndReceive second _ state' = out' at hexchange ⊢
      cases hexchange with
      | broke status after other hbroken => exact .broke _ _ _ _ hbroken
      | same response after after' hafter =>
          cases response with
          | error status => exact .same _ _ _ _ hafter
          | ok response =>
              dsimp only
              rcases validateSetBlockResponse response invokeId blockNumber
                (min rest.length payload == rest.length) with ⟨status | ⟨⟩, result⟩
              · exact .same _ _ _ _ hafter
              · dsimp only
                split
                · exact .same _ _ _ _ hafter
                · exact ih _ _ _ _ hafter

theorem alike_set (descriptor : CosemAttributeDescriptor) (data : Bytes)
    (options : ServiceOptions) :
    CallsAlike related broken (some (set first descriptor data options state))
      (some (set second descriptor data options state')) := by
  unfold set
  rw [h.associated, h.invokeIds state state' hrelated]
  have hnumbered := h.numbered state state' state'.invokeIds.take.2 hrelated
  cases validateDescriptor descriptor with
  | error status => exact .same _ _ _ _ hrelated
  | ok valid =>
      dsimp only
      split
      · cases Client.decodeEncodedData data with
        | error status => exact .same _ _ _ _ hrelated
        | ok value =>
            dsimp only
            split
            · exact .same _ _ _ _ hrelated
            · exact alike_setNormal h hnumbered _ _ _ _
      split
      · exact .same _ _ _ _ hrelated
      split
      · exact .same _ _ _ _ hrelated
      split
      · exact .same _ _ _ _ hrelated
      · exact alike_sendSetBlocks h _ _ _ _ _ _ _ _ _ hnumbered

/-! ### ACTION -/

theorem alike_copyFinalActionResponse (invokeId iip : UInt8) (options : ServiceOptions)
    (response : Apdu.ActionResponse) (responses : Nat) :
    CallsAlike related broken
      (copyFinalActionResponse first invokeId iip options response responses state)
      (copyFinalActionResponse second invokeId iip options response responses state') := by
  unfold copyFinalActionResponse
  cases response with
  | withPblock responseIip block =>
      dsimp only
      split
      · exact .same _ _ _ _ hrelated
      · rw [collectActionBlocks_eq, collectActionBlocks_eq]
        exact alike_collectBlocks h _ (fun _ => .inr (.inr ⟨_, rfl⟩)) _ _ _ _ _ _ _ hrelated
  | _ => exact .same _ _ _ _ hrelated

omit hrelated in
theorem alike_sendActionBlocks (invokeId iip : UInt8) (descriptor : CosemMethodDescriptor)
    (options : ServiceOptions) (responses rounds : Nat) :
    ∀ (rest : Bytes) (blockNumber : UInt32) (state : XdlmsClientState χ σ)
      (state' : XdlmsClientState χ' σ'), related state state' →
      CallsAlike related broken
        (sendActionBlocks first invokeId iip descriptor options responses rounds rest blockNumber
          state)
        (sendActionBlocks second invokeId iip descriptor options responses rounds rest blockNumber
          state') := by
  induction rounds with
  | zero =>
      intro rest blockNumber state state' hrelated
      exact .unfinished
  | succ rounds ih =>
      intro rest blockNumber state state' hrelated
      rw [sendActionBlocks, sendActionBlocks]
      generalize (if blockNumber = 1 then _ else _ : Apdu.ActionRequest) = request
      have hexchange := alike_receiveActionResponse h hrelated request
      generalize receiveActionResponse first _ state = out at hexchange ⊢
      generalize receiveActionResponse second _ state' = out' at hexchange ⊢
      cases hexchange with
      | broke status after other hbroken => exact .broke _ _ _ _ hbroken
      | same response after after' hafter =>
          cases response with
          | error status => exact .same _ _ _ _ hafter
          | ok response =>
              dsimp only
              split
              · exact alike_copyFinalActionResponse h hafter _ _ _ _ _
              cases validateActionNextPblockResponse response invokeId blockNumber with
              | error status => exact .same _ _ _ _ hafter
              | ok valid => exact ih _ _ _ _ hafter

theorem alike_actionNormal (invokeId : UInt8) (descriptor : CosemMethodDescriptor)
    (parameter : Option DlmsData) (options : ServiceOptions) (responses : Nat) :
    CallsAlike related broken
      (actionNormal first invokeId descriptor parameter options responses state)
      (actionNormal second invokeId descriptor parameter options responses state') := by
  have hexchange := alike_receiveActionResponse h hrelated
    (.normal (makeInvokeIdAndPriority invokeId options)
      { descriptor := toApduMethodDescriptor descriptor, invocationParameter := parameter })
  unfold actionNormal
  dsimp only
  generalize receiveActionResponse first _ state = out at hexchange ⊢
  generalize receiveActionResponse second _ state' = out' at hexchange ⊢
  cases hexchange with
  | broke status after other hbroken => exact .broke _ _ _ _ hbroken
  | same response after after' hafter =>
      cases response with
      | error status => exact .same _ _ _ _ hafter
      | ok response => exact alike_copyFinalActionResponse h hafter _ _ _ _ _

theorem alike_action (descriptor : CosemMethodDescriptor) (parameter : Option Bytes)
    (options : ServiceOptions) (responses : Nat) :
    CallsAlike related broken (action first descriptor parameter options responses state)
      (action second descriptor parameter options responses state') := by
  unfold action
  rw [h.associated, h.invokeIds state state' hrelated]
  have hnumbered := h.numbered state state' state'.invokeIds.take.2 hrelated
  cases validateMethodDescriptor descriptor with
  | error status => exact .same _ _ _ _ hrelated
  | ok valid =>
      cases parameter with
      | none =>
          dsimp only
          split
          · exact .same _ _ _ _ hrelated
          · exact alike_actionNormal h hnumbered _ _ _ _ _
      | some parameter =>
          dsimp only
          split
          · cases Client.decodeEncodedData parameter with
            | error status => exact .same _ _ _ _ hrelated
            | ok value =>
                dsimp only
                split
                · exact .same _ _ _ _ hrelated
                · exact alike_actionNormal h hnumbered _ _ _ _ _
          split
          · exact .same _ _ _ _ hrelated
          split
          · exact .same _ _ _ _ hrelated
          split
          · exact .same _ _ _ _ hrelated
          · exact alike_sendActionBlocks h _ _ _ _ _ _ _ _ _ _ hnumbered

end Services

/-! ### Sessions -/

/-- A call has the same outcome, or breaks the first client. -/
theorem alike_callRemote (responses : Nat) (call : ServiceCall) (state : XdlmsClientState χ σ)
    (state' : XdlmsClientState χ' σ') (hrelated : related state state') :
    ((callRemote first responses call state).1 = (callRemote second responses call state').1 ∧
        related (callRemote first responses call state).2
          (callRemote second responses call state').2) ∨
      broken (callRemote first responses call state).2 := by
  cases call with
  | get descriptor options =>
      have halike := alike_get h hrelated descriptor none options responses
      simp only [callRemote]
      generalize get first descriptor none options responses state = out at halike ⊢
      generalize get second descriptor none options responses state' = out' at halike ⊢
      cases halike with
      | unfinished => exact .inl ⟨rfl, hrelated⟩
      | same status result after after' hafter => exact .inl ⟨rfl, hafter⟩
      | broke status result after other hbroken => exact .inr hbroken
  | set descriptor data options =>
      have halike := alike_set h hrelated descriptor data options
      simp only [callRemote]
      generalize set first descriptor data options state = out at halike ⊢
      generalize set second descriptor data options state' = out' at halike ⊢
      cases halike with
      | same status result after after' hafter => exact .inl ⟨rfl, hafter⟩
      | broke status result after other hbroken => exact .inr hbroken
  | action descriptor parameter options =>
      have halike := alike_action h hrelated descriptor parameter options responses
      simp only [callRemote]
      generalize action first descriptor parameter options responses state = out at halike ⊢
      generalize action second descriptor parameter options responses state' = out' at halike ⊢
      cases halike with
      | unfinished => exact .inl ⟨rfl, hrelated⟩
      | same status result after after' hafter => exact .inl ⟨rfl, hafter⟩
      | broke status result after other hbroken => exact .inr hbroken

/-- A broken client is one whose exchanges are alike with its own, while it
    stays broken. -/
theorem exchangesAlike_broken :
    ExchangesAlike first first (fun state state' => state = state' ∧ broken state)
      (fun _ => False) where
  associated := rfl
  invokeIds := fun state state' hsame => by rw [hsame.1]
  numbered := fun state state' invokeIds hsame => by
    rw [← hsame.1]
    exact ⟨rfl, h.brokenNumbered state invokeIds hsame.2⟩
  exchange := fun request state state' hrequest hsame => by
    rw [← hsame.1]
    rcases h.brokenExchange request state hrequest hsame.2 with ⟨status, after, hout, hafter⟩
    rw [hout]
    exact .same _ _ _ ⟨rfl, hafter⟩
  brokenNumbered := fun _ _ hfalse => hfalse
  brokenExchange := fun _ _ _ hfalse => hfalse.elim

/-- And it stays broken. -/
theorem broken_callRemote (responses : Nat) (call : ServiceCall) (state : XdlmsClientState χ σ)
    (hbroken : broken state) : broken (callRemote first responses call state).2 := by
  rcases alike_callRemote (exchangesAlike_broken h) responses call state state ⟨rfl, hbroken⟩ with
    hsame | hfalse
  · exact hsame.2.2
  · exact hfalse.elim

theorem broken_session (responses : Nat) (calls : List ServiceCall)
    (state : XdlmsClientState χ σ) (hbroken : broken state) :
    broken (final (callRemote first responses) calls state) := by
  induction calls generalizing state with
  | nil => exact hbroken
  | cons call calls ih => exact ih _ (broken_callRemote h responses call state hbroken)

/-- A session has the same outcomes, call by call, or the first client is
    broken at its end. -/
theorem sessions_alike (responses : Nat) (calls : List ServiceCall)
    (state : XdlmsClientState χ σ) (state' : XdlmsClientState χ' σ')
    (hrelated : related state state') :
    ((run (callRemote first responses) calls state).map (fun t => t.output) =
          (run (callRemote second responses) calls state').map (fun t => t.output) ∧
        related (final (callRemote first responses) calls state)
          (final (callRemote second responses) calls state')) ∨
      broken (final (callRemote first responses) calls state) := by
  induction calls generalizing state state' with
  | nil => exact .inl ⟨rfl, hrelated⟩
  | cons call calls ih =>
      rcases alike_callRemote h responses call state state' hrelated with ⟨houtput, hafter⟩ | hbroke
      · rcases ih _ _ hafter with ⟨houtputs, hend⟩ | hbroke
        · refine .inl ⟨?_, hend⟩
          simp [run, Machine.transition, houtput, houtputs]
        · exact .inr hbroke
      · exact .inr (broken_session h responses calls _ hbroke)

end Alike

end Xdlms

end Dlms
