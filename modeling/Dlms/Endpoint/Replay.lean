import Dlms.Endpoint.Nonces

/-!
# Requests that come again

A protected request is known by the title it was protected under, its counter
and its tag. An endpoint that has unprotected one and called its handler for it
never does so again: the mark of the title stands at the counter or above.

The marks are the endpoint's own. The endpoint of a later connection starts
with none and takes the same request once more. It does not when each request
comes to an endpoint whose mark refuses every counter that the mark of another
endpoint refuses.

## Main definitions

* `ProtectedRequest`: What a protected request is known by.
* `dispatchedRequest`: The protected request for which a call called the handler.
* `marksAhead`: The called endpoint refuses the counters that the others refuse.

## Theorems

* `spends_dispatchedRequest`: An endpoint spends its requests.
* `nodup_dispatchedRequests`: The requests of a run of a server.
-/

namespace Dlms

namespace Endpoint

open Apdu (Bytes)
open Machine (Admits Pool PoolInput Spends Transition callTransition run tokens)
open Security (SystemTitle)
open Security.CipheredApduProcessor (invocationCounterOf unprotect)
open Server (ServerContext)
open Xdlms (ServiceIndication XdlmsServerHandler recordingHandler)

/-- What a protected request is known by. -/
structure ProtectedRequest where
  systemTitle : SystemTitle
  invocationCounter : UInt32
  tag : Bytes
deriving DecidableEq

/-- The protected request that an endpoint sees in an APDU. -/
def protectedRequestOf (endpoint : ServerEndpoint) (requestApdu : Bytes) : ProtectedRequest where
  systemTitle := endpoint.security.context.remoteSystemTitle
  invocationCounter := invocationCounterOf requestApdu
  tag := requestApdu.drop (requestApdu.length - Security.Suite0AesGcm.tagSize)

/-- The APDU a call looks at, if it gets so far. -/
def requestApduOf (input : EndpointInput) : Option Bytes :=
  match input with
  | .runOnce environment => (ServerEndpoint.receivedApdu environment.receive).toOption
  | _ => none

/-- A mark of a title refuses a counter. -/
def refusesCounter (endpoint : ServerEndpoint) (title : SystemTitle) (counter : UInt32) : Bool :=
  match endpoint.security.counters.highestRemoteBySystemTitle title with
  | none => false
  | some mark => counter ≤ mark

section Replay

variable (ciphers : Ciphers) (options : ServerEndpointOptions) {δ : Type}
  (handler : ServerContext → XdlmsServerHandler δ)

/-- The protected request of a call that called the handler. -/
def dispatchedRequest
    (t : Transition EndpointInput EndpointOutput (ServerEndpoint × δ × List ServiceIndication)) :
    Option ProtectedRequest :=
  if t.before.2.2.length < t.after.2.2.length then
    (requestApduOf t.input).map (protectedRequestOf t.before.1)
  else
    none

/-- The protected request a call could call the handler for: one in a call while
    the endpoint is open and no reply is awaited. -/
def RequestCandidate (endpoint : ServerEndpoint) (input : EndpointInput)
    (request : ProtectedRequest) : Prop :=
  endpoint.isOpen = true ∧ endpoint.hlsPending = false ∧
    (requestApduOf input).map (protectedRequestOf endpoint) = some request

/-- The requests whose counter a mark refuses. -/
def RequestSpent (endpoint : ServerEndpoint) (request : ProtectedRequest) : Prop :=
  refusesCounter endpoint request.systemTitle request.invocationCounter = true

/-- In a call that could call the handler, what another endpoint's mark of the
    peer's title refuses the called one's refuses too. -/
def marksAhead {ε : Type} (pool : Pool ServerEndpoint ε) (input : PoolInput EndpointInput) :
    Bool :=
  match input with
  | .create => true
  | .call index input =>
      match pool.members[index]?, requestApduOf input with
      | some called, some requestApdu =>
          let title := called.security.context.remoteSystemTitle
          let counter := invocationCounterOf requestApdu
          !called.isOpen || called.hlsPending || refusesCounter called title counter ||
            pool.members.all fun other => !refusesCounter other title counter
      | _, _ => true

theorem refusesCounter_iff (endpoint : ServerEndpoint) (title : SystemTitle) (counter : UInt32) :
    refusesCounter endpoint title counter = true ↔
      ∃ mark, endpoint.security.counters.highestRemoteBySystemTitle title = some mark ∧
        counter ≤ mark := by
  unfold refusesCounter
  cases endpoint.security.counters.highestRemoteBySystemTitle title with
  | none => simp
  | some mark => simp

/-- A counter that is refused is refused for good. -/
theorem refusesCounter_step (input : EndpointInput) (endpoint : ServerEndpoint) (device : δ)
    (title : SystemTitle) (counter : UInt32)
    (hrefuses : refusesCounter endpoint title counter = true) :
    refusesCounter (ServerEndpoint.step ciphers options handler input endpoint device).2.1 title
      counter = true := by
  rcases (refusesCounter_iff endpoint title counter).mp hrefuses with ⟨mark, hmark, hle⟩
  rcases (advances_step ciphers options handler input endpoint device).marks title mark hmark with
    ⟨later, hlater, hle'⟩
  exact (refusesCounter_iff _ title counter).mpr ⟨later, hlater, UInt32.le_trans hle hle'⟩

variable (hciphered : options.security.cipheredApdu = true)
include hciphered

/-- A call that called the handler had a request above the mark, and has put the
    mark to it. -/
theorem request_of_dispatched (input : EndpointInput) (endpoint : ServerEndpoint)
    (device : δ × List ServiceIndication) (h : WellCiphered endpoint) (request : ProtectedRequest)
    (hdispatched : dispatchedRequest (callTransition (ServerEndpoint.step ciphers options
      (recordingHandlers handler)) input endpoint device) = some request) :
    RequestCandidate endpoint input request ∧ ¬ RequestSpent endpoint request ∧
      RequestSpent (ServerEndpoint.step ciphers options (recordingHandlers handler) input endpoint
        device).2.1 request := by
  unfold dispatchedRequest callTransition at hdispatched
  simp only at hdispatched
  by_cases hgrown : device.2.length < (ServerEndpoint.step ciphers options
      (recordingHandlers handler) input endpoint device).2.2.2.length
  · rw [if_pos hgrown] at hdispatched
    -- The handler wrote the call down, so that the device has changed and a request was served.
    have hdevice : (ServerEndpoint.step ciphers options (recordingHandlers handler) input endpoint
        device).2.2 ≠ device := by
      intro hsame
      rw [hsame] at hgrown
      exact Nat.lt_irrefl _ hgrown
    rcases ServerEndpoint.served_of_device ciphers options (recordingHandlers handler) input
      endpoint device hdevice with ⟨decoded, response, hevent⟩
    rcases unprotected_of_decoded ciphers options (recordingHandlers handler) hciphered input
      endpoint device h decoded response hevent with
      ⟨hopen, hpending, environment, requestApdu, hinput, hreceived, ⟨plain, hplain⟩, hafter, -⟩
    have hpolicy : endpoint.security.context.policy ≠ .none := by
      rw [h.policy]
      exact fun hnone => by cases hnone
    -- Its counter is above the mark, which is put to it.
    rcases Security.CipheredApduProcessor.unprotect_mark ciphers.gcm
      (processorKeys options.security) requestApdu endpoint.security plain hpolicy hplain with
      ⟨habove, hmark⟩
    have hrequest : request = protectedRequestOf endpoint requestApdu := by
      rw [hinput] at hdispatched
      simp only [requestApduOf, hreceived, Except.toOption, Option.map_some,
        Option.some.injEq] at hdispatched
      exact hdispatched.symm
    refine ⟨⟨hopen, hpending, hdispatched⟩, ?_, ?_⟩
    · intro hspent
      rcases (refusesCounter_iff _ _ _).mp hspent with ⟨mark, hold, hle⟩
      rw [hrequest] at hold hle
      exact absurd (habove mark hold) (UInt32.not_lt.mpr hle)
    · rcases hafter.marks _ _ hmark with ⟨later, hlater, hle⟩
      rw [hrequest]
      exact (refusesCounter_iff _ _ _).mpr ⟨later, hlater, hle⟩
  · rw [if_neg hgrown] at hdispatched
    cases hdispatched

/-- An endpoint spends its requests. -/
theorem spends_dispatchedRequest :
    Spends (ServerEndpoint.create options)
      (ServerEndpoint.step ciphers options (recordingHandlers handler))
      WellCiphered dispatchedRequest RequestCandidate RequestSpent where
  start := wellCiphered_create options
  keeps := wellCiphered_step ciphers options (recordingHandlers handler)
  stays := fun input endpoint device _ hspent =>
    refusesCounter_step ciphers options (recordingHandlers handler) input endpoint device _ _
      hspent
  candidate_of_token := fun input endpoint device request h hrequest =>
    (request_of_dispatched ciphers options handler hciphered input endpoint device h request
      hrequest).1
  fresh := fun input endpoint device request h hrequest =>
    (request_of_dispatched ciphers options handler hciphered input endpoint device h request
      hrequest).2.1
  spends := fun input endpoint device request h hrequest =>
    (request_of_dispatched ciphers options handler hciphered input endpoint device h request
      hrequest).2.2

omit hciphered in
/-- When the called endpoint refuses what the others do, it has spent what they
    have. -/
theorem covered_of_marksAhead {ε : Type} (pool : Pool ServerEndpoint ε)
    (input : PoolInput EndpointInput) (h : marksAhead pool input = true) :
    Machine.Covered RequestCandidate RequestSpent pool input := by
  cases input with
  | create => trivial
  | call index input =>
      intro called hcalled other hother request hcandidate hspent
      rcases hcandidate with ⟨hopen, hpending, hrequest⟩
      cases hinput : requestApduOf input with
      | none =>
          rw [hinput] at hrequest
          exact absurd hrequest (by simp)
      | some requestApdu =>
          rw [hinput, Option.map_some, Option.some.injEq] at hrequest
          rw [← hrequest] at hspent ⊢
          simp only [marksAhead, hcalled, hinput, hopen, hpending, Bool.not_true, Bool.or_self,
            Bool.false_or, Bool.or_eq_true, List.all_eq_true, Bool.not_eq_true'] at h
          rcases h with hrefuses | hnone
          · exact hrefuses
          · exact absurd ((hnone other hother).symm.trans hspent)
              (by simp)

/-- No protected request calls a handler of a server twice when each request
    comes to an endpoint that refuses what the others refuse. -/
theorem nodup_dispatchedRequests (inputs : List (PoolInput EndpointInput)) (device : δ)
    (hahead : Admits (serverStep ciphers options (recordingHandlers handler))
      (fun _ pool input => marksAhead pool input = true) [] inputs ⟨[], device, []⟩) :
    (tokens dispatchedRequest (run (serverStep ciphers options (recordingHandlers handler)) inputs
      ⟨[], device, []⟩)).Nodup :=
  Machine.nodup_tokens _ _ WellCiphered dispatchedRequest RequestCandidate RequestSpent
    (spends_dispatchedRequest ciphers options handler hciphered) inputs (device, [])
    (Machine.Admits.mono _ _ _ (fun _ pool input => covered_of_marksAhead pool input)
      [] inputs _ hahead)

end Replay

/-- Two connections, where the second client goes on from the first one's
    counter. -/
theorem nodup_dispatchedRequests_fresh :
    (tokens dispatchedRequest (run (serverStep gmacCiphers gmacOptions
        (recordingHandlers fun _ => registerHandler))
      (.create :: callsOf 0 (gmacConnect ++ [gmacGet, .close (.ok ())]) ++
        .create :: callsOf 1 (gmacConnect' ++ [gmacGet'])) ⟨[], (), []⟩)).Nodup :=
  nodup_dispatchedRequests gmacCiphers gmacOptions (fun _ => registerHandler) rfl _ ()
    (by decide +kernel)

/-- Two connections, where the request of the first comes again in the second. -/
theorem not_nodup_dispatchedRequests :
    gmacOptions.security.cipheredApdu = true ∧
      ServerEndpoint.validateOpen gmacOptions = .ok () ∧
      ¬ (tokens dispatchedRequest (run (serverStep gmacCiphers gmacOptions
          (recordingHandlers fun _ => registerHandler))
        (.create :: callsOf 0 (gmacConnect ++ [gmacGet, .close (.ok ())]) ++
          .create :: callsOf 1 (gmacConnect' ++ [gmacGet])) ⟨[], (), []⟩)).Nodup := by
  refine ⟨rfl, by decide +kernel, by decide +kernel⟩

end Endpoint

end Dlms
