import Dlms.Machine.Simulation
import Dlms.Xdlms.Reports

/-!
# Sessions of a client

A session is a list of calls, one after the other on one client. Through the
client and the server it has the outcomes it has on the handler, and leaves the
device where the handler leaves it: a transfer in blocks of one call does not
reach into the next one, and the invoke ids go around without a trace.

## Main definitions

* `ServiceCall`, `CallOutcome`: A call of one of the three services.
* `callRemote`, `callLocal`: The call through the client, and of the handler.
* `CallFits`: The calls with a place on the wire.

## Theorems

* `callRemote_stands`: One call.
* `session_stands`: Every session.
-/

namespace Dlms

namespace Xdlms

open Apdu (Bytes)
open Machine (run final Admits RunAlike Alike runAlike_of_step stands_final_of_step)

/-- A call of one of the three services, with its arguments. A selective access
    is not among them: the server of this library serves none. -/
inductive ServiceCall where
  | get (descriptor : CosemAttributeDescriptor) (options : ServiceOptions)
  | set (descriptor : CosemAttributeDescriptor) (data : Bytes) (options : ServiceOptions)
  | action (descriptor : CosemMethodDescriptor) (parameter : Option Bytes)
      (options : ServiceOptions)
  deriving DecidableEq, Repr

/-- A status, and the result next to it. -/
inductive CallOutcome where
  | get (status : Except XdlmsStatus Unit) (result : GetResult)
  | set (status : Except XdlmsStatus Unit) (result : SetResult)
  | action (status : Except XdlmsStatus Unit) (result : ActionResult)

/-- A call through the client, which has no outcome when it asks for more
    responses than it may. -/
def callRemote {χ σ : Type} (client : XdlmsClient χ σ) (responses : Nat) (call : ServiceCall)
    (state : XdlmsClientState χ σ) : Option CallOutcome × XdlmsClientState χ σ :=
  match call with
  | .get descriptor options =>
      match get client descriptor none options responses state with
      | none => (none, state)
      | some (status, result, state) => (some (.get status result), state)
  | .set descriptor data options =>
      let out := set client descriptor data options state
      (some (.set out.1 out.2.1), out.2.2)
  | .action descriptor parameter options =>
      match action client descriptor parameter options responses state with
      | none => (none, state)
      | some (status, result, state) => (some (.action status result), state)

section Local

variable {δ : Type} (handler : XdlmsServerHandler δ) (serverOptions : ServiceOptions)

/-- The call of the handler itself. An invalid descriptor does not use up an
    invoke id. -/
def callLocal (call : ServiceCall) (state : LocalState δ) : CallOutcome × LocalState δ :=
  match call with
  | .get descriptor options =>
      match validateDescriptor descriptor with
      | .error status => (.get (.error status) {}, state)
      | .ok () =>
          let out := handler.handleGet
            (getIndication state.invokeIds.next serverOptions options descriptor) state.device
          let report := reportGet state.invokeIds.next out.1
          (.get report.1 report.2, { invokeIds := state.invokeIds.take.2, device := out.2 })
  | .set descriptor data options =>
      match validateDescriptor descriptor with
      | .error status => (.set (.error status) {}, state)
      | .ok () =>
          let out := handler.handleSet
            (setIndication state.invokeIds.next serverOptions options descriptor data) state.device
          let report := reportSet state.invokeIds.next out.1
          (.set report.1 report.2, { invokeIds := state.invokeIds.take.2, device := out.2 })
  | .action descriptor parameter options =>
      match validateMethodDescriptor descriptor with
      | .error status => (.action (.error status) {}, state)
      | .ok () =>
          let out := handler.handleAction
            (actionIndication state.invokeIds.next serverOptions options descriptor parameter)
            state.device
          let report := reportAction state.invokeIds.next out.1
          (.action report.1 report.2, { invokeIds := state.invokeIds.take.2, device := out.2 })

/-- A confirmed call with a place on the wire. -/
def CallFits (responses : Nat) (state : LocalState δ) (call : ServiceCall) : Prop :=
  match call with
  | .get descriptor options =>
      options.confirmed = true ∧
        GetAnswerFits serverOptions options responses
          (handler.handleGet
            (getIndication state.invokeIds.next serverOptions options descriptor)
            state.device).1
  | .set _ data options =>
      options.confirmed = true ∧ SetArgumentFits serverOptions options data
  | .action descriptor parameter options =>
      options.confirmed = true ∧ ActionArgumentFits serverOptions options parameter ∧
        ActionAnswerFits
          (handler.handleAction
            (actionIndication state.invokeIds.next serverOptions options descriptor parameter)
            state.device).1

end Local

section Session

variable {σ τ δ : Type} (handler : XdlmsServerHandler δ) (serverOptions : ServiceOptions)
  (responses : Nat)

/-- One call has the outcome it has on the handler, and the client and the
    server stand for what the handler leaves. -/
theorem callRemote_stands (call : ServiceCall) (localState : LocalState δ)
    (state : XdlmsClientState (Peer σ δ) τ) (h : Stands localState state)
    (hfits : CallFits handler serverOptions responses localState call) :
    (callRemote (connected handler serverOptions) responses call state).1 =
        some (callLocal handler serverOptions call localState).1 ∧
      Stands (callLocal handler serverOptions call localState).2
        (callRemote (connected handler serverOptions) responses call state).2 := by
  rcases localState with ⟨invokeIds, device⟩
  rcases h with ⟨hids, hdevice, hidle⟩
  subst hids hdevice
  cases call with
  | get descriptor options =>
      rcases hfits with ⟨hconfirmed, hanswer⟩
      cases hdescriptor : validateDescriptor descriptor with
      | error status =>
          simp only [callRemote, callLocal, get, hdescriptor]
          exact ⟨trivial, rfl, rfl, hidle⟩
      | ok valid =>
          rcases get_reports handler serverOptions options descriptor responses state _ _
            hdescriptor hconfirmed hidle rfl hanswer with ⟨state', hcall, hstands⟩
          simp only [callRemote, callLocal, hdescriptor, hcall, told]
          exact ⟨trivial, hstands⟩
  | set descriptor data options =>
      rcases hfits with ⟨hconfirmed, hargument⟩
      cases hdescriptor : validateDescriptor descriptor with
      | error status =>
          simp only [callRemote, callLocal, set, hdescriptor]
          exact ⟨trivial, rfl, rfl, hidle⟩
      | ok valid =>
          rcases set_reports handler serverOptions options descriptor data state _ _ hdescriptor
            hconfirmed hidle rfl hargument with ⟨state', hcall, hstands⟩
          simp only [callRemote, callLocal, hdescriptor, hcall, told]
          exact ⟨trivial, hstands⟩
  | action descriptor parameter options =>
      rcases hfits with ⟨hconfirmed, hargument, hanswer⟩
      cases hdescriptor : validateMethodDescriptor descriptor with
      | error status =>
          simp only [callRemote, callLocal, action, hdescriptor]
          exact ⟨trivial, rfl, rfl, hidle⟩
      | ok valid =>
          rcases action_reports handler serverOptions options descriptor responses hconfirmed
            parameter state _ _ hdescriptor hidle rfl hargument hanswer with
              ⟨state', hcall, hstands⟩
          simp only [callRemote, callLocal, hdescriptor, hcall, told]
          exact ⟨trivial, hstands⟩

/-- A session has the outcomes it has on the handler, call by call, and leaves
    the device where the handler leaves it, with no transfer open. -/
theorem session_stands (calls : List ServiceCall) (localState : LocalState δ)
    (state : XdlmsClientState (Peer σ δ) τ) (h : Stands localState state)
    (hfits : Admits (callLocal handler serverOptions)
      (fun _ state call => CallFits handler serverOptions responses state call) [] calls
      localState) :
    (run (callRemote (connected handler serverOptions) responses) calls state).map
        (fun t => t.output) =
      (run (callLocal handler serverOptions) calls localState).map (fun t => some t.output) ∧
      Stands (final (callLocal handler serverOptions) calls localState)
        (final (callRemote (connected handler serverOptions) responses) calls state) := by
  have halike := runAlike_of_step (callLocal handler serverOptions)
    (callRemote (connected handler serverOptions) responses)
    (fun outcome remote => remote = some outcome) Stands
    (fun state call => CallFits handler serverOptions responses state call)
    (fun call localState state hstands hcall =>
      callRemote_stands handler serverOptions responses call localState state hstands hcall)
    calls [] localState state h hfits
  refine ⟨?_, stands_final_of_step (callLocal handler serverOptions)
    (callRemote (connected handler serverOptions) responses) Stands
    (fun state call => CallFits handler serverOptions responses state call)
    (fun call localState state hstands hcall =>
      (callRemote_stands handler serverOptions responses call localState state hstands hcall).2)
    calls [] localState state h hfits⟩
  rw [← Machine.forall₂_iff_map_eq]
  exact halike.flip.imp fun t t' ht => ht.output

end Session

end Xdlms

end Dlms
