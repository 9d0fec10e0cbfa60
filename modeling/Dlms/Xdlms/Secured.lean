import Dlms.Xdlms.Alike
import Dlms.Xdlms.Exchange
import Dlms.Xdlms.Sized

/-!
# A secured client and its server

What a client and a server need of their security processors, whatever these
do: what one side protects the other side unprotects as it was, until a side has
nothing left to protect with. Over such processors a session is the session
without any, up to there. The blocks of a transfer are protected one by one,
and each of them comes out again.

## Main definitions

* `Carries`: One direction of a pair of processors.
* `SecureLink`: Both directions.
* `secured`: A client and a server with a processor each.

## Theorems

* `exchangesAlike_secured`: An exchange has the response it has without
  security, or a side is spent.
* `secured_session`: So has a session.
-/

namespace Dlms

namespace Xdlms

open Apdu (Bytes XdlmsApdu IsService apduBufferSize)
open Profile (ApduChannel)
open Machine (run final)
open Security (SecurityStatus)

/-- What one side protects the other unprotects, and stays linked with it, or
    the one is spent. Who is spent protects nothing any more. -/
structure Carries {σ τ : Type} (sender : SecurityProcessor σ) (receiver : SecurityProcessor τ)
    (linked : σ → τ → Prop) (spent : σ → Prop) : Prop where
  carried : ∀ state peer apdu, linked state peer → apdu ≠ [] → apdu.length ≤ apduBufferSize →
    (∃ status after, sender.protect apdu state = (.error status, after) ∧ spent after) ∨
      ∃ protectedApdu after after', sender.protect apdu state = (.ok protectedApdu, after) ∧
        receiver.unprotect protectedApdu peer = (.ok apdu, after') ∧ linked after after'
  spentProtect : ∀ state apdu, spent state →
    ∃ status after, sender.protect apdu state = (.error status, after) ∧ spent after
  spentUnprotect : ∀ state apdu, spent state → spent (sender.unprotect apdu state).2

/-- The two processors of a client and its server. -/
structure SecureLink {σ τ : Type} (client : SecurityProcessor τ) (server : SecurityProcessor σ)
    (linked : τ → σ → Prop) (clientSpent : τ → Prop) (serverSpent : σ → Prop) : Prop where
  requests : Carries client server linked clientSpent
  responses : Carries server client (fun serverState clientState => linked clientState serverState)
    serverSpent

section Secured

variable {σ τ δ : Type} (handler : XdlmsServerHandler δ) (options : ServiceOptions)
  (clientProcessor : SecurityProcessor τ) (serverProcessor : SecurityProcessor σ)

/-- The channel of a server with a processor. -/
def securedChannel : ApduChannel (Peer σ δ) where
  sendApdu := fun request peer =>
    let out := processRequest handler options (some serverProcessor) request peer.server
    (.ok (), { server := out.2, response := out.1.toOption })
  receiveApdu := fun peer =>
    match peer.response with
    | none => (.error .timeout, peer)
    | some response => (.ok response, { peer with response := none })

/-- An associated client of that server, with a processor of its own. -/
def secured : XdlmsClient (Peer σ δ) τ where
  channel := securedChannel handler options serverProcessor
  security := some clientProcessor
  isAssociated := true

variable {σ' τ' : Type} (linked : τ → σ → Prop) (clientSpent : τ → Prop) (serverSpent : σ → Prop)

/-- A secured client and one without security that stand at the same place. -/
structure SamePlace (state : XdlmsClientState (Peer σ δ) τ)
    (state' : XdlmsClientState (Peer σ' δ) τ') : Prop where
  invokeIds : state.invokeIds = state'.invokeIds
  service : SameService state.channel.server state'.channel.server
  linked : linked state.security state.channel.server.security

/-- A side has nothing left to protect with. -/
def Spent (state : XdlmsClientState (Peer σ δ) τ) : Prop :=
  clientSpent state.security ∨ serverSpent state.channel.server.security

variable {clientProcessor serverProcessor linked clientSpent serverSpent}
  (link : SecureLink clientProcessor serverProcessor linked clientSpent serverSpent)
include link

/-! ### The server -/

/-- A request that arrives has the answer it has without security, or the
    server is spent with it. -/
theorem processRequest_secured (requestApdu protectedRequest : Bytes)
    (state after : XdlmsServerState σ δ) (state' : XdlmsServerState σ' δ) (clientState : τ)
    (hrequest : serverProcessor.unprotect protectedRequest state.security =
      (.ok requestApdu, after.security))
    (hsame : SameService state state') (hlinked : linked clientState after.security) :
    let out := processRequest handler options (some serverProcessor) protectedRequest state
    let out' := processRequest handler options none requestApdu state'
    (serverSpent out.2.security ∧ ∃ status, out.1 = .error status) ∨
      SameService out.2 out'.2 ∧
        ((∃ status, out.1 = .error status ∧ out'.1 = .error status ∧
            linked clientState out.2.security) ∨
          ∃ responseApdu protectedResponse clientAfter,
            out.1 = .ok protectedResponse ∧ out'.1 = .ok responseApdu ∧
            clientProcessor.unprotect protectedResponse clientState =
              (.ok responseApdu, clientAfter) ∧
            linked clientAfter out.2.security) := by
  simp only [processRequest, decodeRequest, hrequest]
  cases hdecode : Apdu.decodeXdlmsApdu requestApdu with
  | error status =>
      dsimp only
      exact .inr ⟨⟨hsame.getBlocks, hsame.setBlocks, hsame.actionBlocks, hsame.device⟩,
        .inl ⟨_, rfl, rfl, hlinked⟩⟩
  | ok request =>
      dsimp only
      have hopened : SameService { state with security := after.security } state' :=
        ⟨hsame.getBlocks, hsame.setBlocks, hsame.actionBlocks, hsame.device⟩
      rcases processService_same handler options request _ _ hopened with
        ⟨hanswer, hafter, hsecurity⟩
      have hsized := sized_processService handler options request
        { state with security := after.security }
      rcases hout : processService handler options request
        { state with security := after.security } with ⟨answer, served⟩
      rcases hout' : processService handler options request state' with ⟨answer', served'⟩
      rw [hout, hout'] at hanswer hafter
      rw [hout] at hsecurity hsized
      dsimp only at hanswer hafter hsecurity hsized
      subst hanswer
      cases answer with
      | error status =>
          dsimp only
          refine .inr ⟨hafter, .inl ⟨_, rfl, rfl, ?_⟩⟩
          rw [hsecurity]
          exact hlinked
      | ok plainResponse =>
          dsimp only [protectResponse]
          rcases hsized plainResponse rfl with ⟨hnonempty, hfits⟩
          rw [← hsecurity] at hlinked
          rcases link.responses.carried served.security clientState plainResponse hlinked hnonempty
            hfits with ⟨status, spentAfter, hprotect, hspent⟩ |
              ⟨protectedResponse, serverAfter, clientAfter, hprotect, hunprotect, hlinked⟩
          · rw [hprotect]
            exact .inl ⟨hspent, _, rfl⟩
          · rw [hprotect]
            exact .inr ⟨⟨hafter.getBlocks, hafter.setBlocks, hafter.actionBlocks, hafter.device⟩,
              .inr ⟨_, _, _, rfl, rfl, hunprotect, hlinked⟩⟩

/-- A spent server answers nothing, and is spent after it. -/
theorem processRequest_spent (protectedRequest : Bytes) (state : XdlmsServerState σ δ)
    (hspent : serverSpent state.security) :
    let out := processRequest handler options (some serverProcessor) protectedRequest state
    (∃ status, out.1 = .error status) ∧ serverSpent out.2.security := by
  have hopened := link.responses.spentUnprotect state.security protectedRequest hspent
  simp only [processRequest, decodeRequest]
  rcases hunprotect : serverProcessor.unprotect protectedRequest state.security with
    ⟨status | plainRequest, after⟩
  · rw [hunprotect] at hopened
    exact ⟨⟨_, rfl⟩, hopened⟩
  · rw [hunprotect] at hopened
    dsimp only at hopened ⊢
    cases hdecode : Apdu.decodeXdlmsApdu plainRequest with
    | error status => exact ⟨⟨_, rfl⟩, hopened⟩
    | ok request =>
        dsimp only
        have hsecurity := (processService_same handler options request
          { state with security := after } { state with security := after }
          ⟨rfl, rfl, rfl, rfl⟩).2.2
        rcases hout : processService handler options request { state with security := after } with
          ⟨status | plainResponse, served⟩
        · rw [hout] at hsecurity
          dsimp only at hsecurity ⊢
          rw [hsecurity]
          exact ⟨⟨_, rfl⟩, hopened⟩
        · rw [hout] at hsecurity
          dsimp only [protectResponse] at hsecurity ⊢
          rw [← hsecurity] at hopened
          rcases link.responses.spentProtect served.security plainResponse hopened with
            ⟨status, spentAfter, hprotect, hspentAfter⟩
          rw [hprotect]
          exact ⟨⟨_, rfl⟩, hspentAfter⟩

/-! ### The client -/

omit link in
theorem isService_of_request (request : XdlmsApdu) (h : IsServiceRequest request) :
    IsService request := by
  rcases h with ⟨get, rfl⟩ | ⟨set, rfl⟩ | ⟨action, rfl⟩
  · exact .getRequest get
  · exact .setRequest set
  · exact .actionRequest action

/-- An exchange has the response it has without security, or a side is spent
    after it. -/
theorem exchange_secured (request : XdlmsApdu) (state : XdlmsClientState (Peer σ δ) τ)
    (state' : XdlmsClientState (Peer σ' δ) τ') (hrequest : IsServiceRequest request)
    (hplace : SamePlace linked state state') :
    ExchangeAlike (SamePlace linked) (Spent clientSpent serverSpent)
      (sendAndReceive (secured handler options clientProcessor serverProcessor) request state)
      (sendAndReceive (connected handler options) request state') := by
  rcases hplace with ⟨hids, hservice, hlinked⟩
  simp only [sendAndReceive, secured, connected]
  cases hencode : Apdu.encodeXdlmsApdu request with
  | error status => exact .same _ _ _ ⟨hids, hservice, hlinked⟩
  | ok requestApdu =>
      rcases Apdu.encodedService request requestApdu (isService_of_request request hrequest)
        hencode with ⟨hnonempty, hfits⟩
      rcases link.requests.carried state.security state.channel.server.security requestApdu hlinked
        hnonempty hfits with ⟨status, spentAfter, hprotect, hspent⟩ |
          ⟨protectedRequest, clientAfter, serverAfter, hprotect, hunprotect, hlinked⟩
      · simp only [hprotect]
        exact .broke _ _ _ (.inl hspent)
      · simp only [hprotect, securedChannel, serverChannel]
        rcases processRequest_secured handler options link requestApdu protectedRequest
          state.channel.server { state.channel.server with security := serverAfter }
          state'.channel.server clientAfter hunprotect hservice hlinked with
            ⟨hspent, status, hanswer⟩ | ⟨hafter, ⟨status, hanswer, hanswer', hlinked⟩ |
              ⟨responseApdu, protectedResponse, clientLast, hanswer, hanswer', hopened, hlinked⟩⟩
        · simp only [hanswer, Except.toOption]
          exact .broke _ _ _ (.inr hspent)
        · simp only [hanswer, hanswer', Except.toOption]
          exact .same _ _ _ ⟨hids, hafter, hlinked⟩
        · simp only [hanswer, hanswer', Except.toOption, hopened]
          cases Apdu.decodeXdlmsApdu responseApdu with
          | error status => exact .same _ _ _ ⟨hids, hafter, hlinked⟩
          | ok response => exact .same _ _ _ ⟨hids, hafter, hlinked⟩

/-- Once a side is spent, no request is answered. -/
theorem exchange_spent (request : XdlmsApdu) (state : XdlmsClientState (Peer σ δ) τ)
    (hspent : Spent clientSpent serverSpent state) :
    ∃ status after,
      sendAndReceive (secured handler options clientProcessor serverProcessor) request state =
        (.error status, after) ∧ Spent clientSpent serverSpent after := by
  simp only [sendAndReceive, secured]
  cases hencode : Apdu.encodeXdlmsApdu request with
  | error status => exact ⟨_, _, rfl, hspent⟩
  | ok requestApdu =>
      dsimp only
      rcases hspent with hclient | hserver
      · rcases link.requests.spentProtect state.security requestApdu hclient with
          ⟨status, after, hprotect, hafter⟩
        simp only [hprotect]
        exact ⟨_, _, rfl, .inl hafter⟩
      · rcases hprotect : clientProcessor.protect requestApdu state.security with
          ⟨status | protectedRequest, after⟩
        · exact ⟨_, _, rfl, .inr hserver⟩
        · rcases processRequest_spent handler options link protectedRequest state.channel.server
            hserver with ⟨⟨status, hanswer⟩, hafter⟩
          simp only [securedChannel, hanswer, Except.toOption]
          exact ⟨_, _, rfl, .inr hafter⟩

theorem exchangesAlike_secured :
    ExchangesAlike (secured handler options clientProcessor serverProcessor)
      (connected (σ := σ') (τ := τ') handler options) (SamePlace linked)
      (Spent clientSpent serverSpent) where
  associated := rfl
  invokeIds := fun _ _ hplace => hplace.invokeIds
  numbered := fun _ _ _ hplace => ⟨rfl, hplace.service, hplace.linked⟩
  exchange := fun request state state' hrequest hplace =>
    exchange_secured handler options link request state state' hrequest hplace
  brokenNumbered := fun _ _ hspent => hspent
  brokenExchange := fun request state _ hspent =>
    exchange_spent handler options link request state hspent

/-- A secured session has the outcomes it has without security, call by call,
    or a side is spent at its end. -/
theorem secured_session (responses : Nat) (calls : List ServiceCall)
    (state : XdlmsClientState (Peer σ δ) τ) (state' : XdlmsClientState (Peer σ' δ) τ')
    (hplace : SamePlace linked state state') :
    let call := callRemote (secured handler options clientProcessor serverProcessor) responses
    let call' := callRemote (connected (σ := σ') (τ := τ') handler options) responses
    ((run call calls state).map (fun t => t.output) =
          (run call' calls state').map (fun t => t.output) ∧
        SamePlace linked (final call calls state) (final call' calls state')) ∨
      Spent clientSpent serverSpent (final call calls state) :=
  sessions_alike (exchangesAlike_secured handler options link) responses calls state state' hplace

end Secured

end Xdlms

end Dlms
