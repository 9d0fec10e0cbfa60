import Dlms.Endpoint.Authentication
import Dlms.Endpoint.Ciphering
import Dlms.Security.RoundTrip

/-!
# The nonces of protected responses

A server makes an endpoint for each connection, all from the same options, and
each endpoint has counters of its own. A run of the server is a run of the pool
of its endpoints: connections come at any time, and the calls of the endpoints
interleave in any way.

Within one endpoint no two responses have the same nonce. Between two they do
as soon as each has protected one, since the counters start alike. A response
goes out only to a request that comes while no reply to a challenge is awaited;
when at each such call no other endpoint is ahead of the one that is called, no
two responses have the same nonce.

## Main definitions

* `serverStep`: A step of a server with any number of connections.
* `responseNonce`: The nonce of a response, if the call has protected one.
* `localCounterAhead`: No other endpoint is ahead of the one that is called.

## Theorems

* `spends_responseNonce`: An endpoint spends its nonces.
* `nodup_responseNonces`: The nonces of a run of a server.
-/

namespace Dlms

namespace Endpoint

open Apdu (Bytes)
open Machine (Admits Pool PoolInput Spends Transition callTransition poolStep run tokens)
open Security (SystemTitle)
open Security.CipheredApduProcessor (clientTitle invocationCounterOf meterAuthenticationKey
  meterEncryptionKey meterEntry)
open Server (ServerContext)
open Xdlms (XdlmsServerHandler)

section Nonces

variable (ciphers : Ciphers) (options : ServerEndpointOptions) {δ : Type}
  (handler : ServerContext → XdlmsServerHandler δ)

/-- A step of a server: a new connection, or a call of the endpoint of one. -/
def serverStep (input : PoolInput EndpointInput) (pool : Pool ServerEndpoint δ) :
    Option EndpointOutput × Pool ServerEndpoint δ :=
  poolStep (ServerEndpoint.create options) (ServerEndpoint.step ciphers options handler) input pool

/-- The nonce of the response a call has protected: the endpoint's title and the
    counter in the response. -/
def responseNonce (t : Transition EndpointInput EndpointOutput (ServerEndpoint × δ)) :
    Option (SystemTitle × UInt32) :=
  match t.output.event with
  | .service _ (.ok responseApdu) =>
      some (t.before.1.security.context.localSystemTitle, invocationCounterOf responseApdu)
  | _ => none

/-- The nonce a call could use: of the next counter, in a request while the
    endpoint is open and no reply is awaited. -/
def NonceCandidate (endpoint : ServerEndpoint) (input : EndpointInput)
    (nonce : SystemTitle × UInt32) : Prop :=
  (∃ environment, input = .runOnce environment) ∧ endpoint.isOpen = true ∧
    endpoint.hlsPending = false ∧ nonce.2 = endpoint.security.counters.nextLocalCounter

/-- The nonces of the counters below the next one. -/
def NonceSpent (endpoint : ServerEndpoint) (nonce : SystemTitle × UInt32) : Prop :=
  nonce.2 < endpoint.security.counters.nextLocalCounter

/-- In a call that could protect a response, no other endpoint is ahead of the
    called one. -/
def localCounterAhead (pool : Pool ServerEndpoint δ) (input : PoolInput EndpointInput) : Bool :=
  match input with
  | .call index (.runOnce _) =>
      match pool.members[index]? with
      | none => true
      | some called =>
          !called.isOpen || called.hlsPending || pool.members.all fun other =>
            other.security.counters.nextLocalCounter ≤ called.security.counters.nextLocalCounter
  | _ => true

variable (hciphered : options.security.cipheredApdu = true)
include hciphered

/-- A call that has protected a response has used the next counter for it. -/
theorem counter_of_responseNonce (input : EndpointInput) (endpoint : ServerEndpoint) (device : δ)
    (h : WellCiphered endpoint) (nonce : SystemTitle × UInt32)
    (hnonce : responseNonce (callTransition (ServerEndpoint.step ciphers options handler) input
      endpoint device) = some nonce) :
    NonceCandidate endpoint input nonce ∧
      NonceSpent (ServerEndpoint.step ciphers options handler input endpoint device).2.1
        nonce := by
  unfold responseNonce callTransition at hnonce
  simp only at hnonce
  cases hevent : (ServerEndpoint.step ciphers options handler input endpoint device).1.event with
  | service request response =>
      rw [hevent] at hnonce
      cases response with
      | error status => simp at hnonce
      | ok responseApdu =>
          simp only [Option.some.injEq] at hnonce
          rcases decoded_of_response ciphers options handler hciphered input endpoint device
            request responseApdu hevent with ⟨decoded, hdecoded⟩
          rw [hdecoded] at hevent
          rcases unprotected_of_decoded ciphers options handler hciphered input endpoint device h
            decoded _ hevent with ⟨hopen, hpending, environment, requestApdu, hinput, -, -, -,
            hprotected⟩
          rcases hprotected responseApdu rfl with ⟨plainResponse, hresponse, hafter⟩
          rcases Security.CipheredApduProcessor.unprotect_frame ciphers.gcm
            (processorKeys options.security) requestApdu endpoint.security with
            ⟨hcontext, hnext, -⟩
          -- Unprotecting the request has not moved the local counter.
          rcases Security.CipheredApduProcessor.protect_counter ciphers.gcm
            (processorKeys options.security) plainResponse _ responseApdu
            (by rw [hcontext, h.policy]; exact fun hnone => by cases hnone) hresponse with
            ⟨hcounter, hspent⟩
          rw [hnext] at hcounter hspent
          rw [← hnonce]
          refine ⟨⟨⟨environment, hinput⟩, hopen, hpending, hcounter⟩, ?_⟩
          unfold NonceSpent
          simp only
          rw [hcounter, hafter]
          exact hspent
  | nothing => simp [hevent] at hnonce
  | opened => simp [hevent] at hnonce
  | released released => simp [hevent] at hnonce
  | hlsReply outcome => simp [hevent] at hnonce
  | closed => simp [hevent] at hnonce

/-- An endpoint spends its nonces. -/
theorem spends_responseNonce :
    Spends (ServerEndpoint.create options) (ServerEndpoint.step ciphers options handler)
      WellCiphered responseNonce NonceCandidate NonceSpent where
  start := wellCiphered_create options
  keeps := wellCiphered_step ciphers options handler
  stays := fun input endpoint device nonce hspent =>
    UInt32.lt_of_lt_of_le hspent (advances_step ciphers options handler input endpoint device).next
  candidate_of_token := fun input endpoint device nonce h hnonce =>
    (counter_of_responseNonce ciphers options handler hciphered input endpoint device h nonce
      hnonce).1
  fresh := fun input endpoint device nonce h hnonce hspent => by
    have hcounter := (counter_of_responseNonce ciphers options handler hciphered input endpoint
      device h nonce hnonce).1.2.2.2
    unfold NonceSpent at hspent
    rw [hcounter] at hspent
    exact absurd hspent (UInt32.lt_irrefl _)
  spends := fun input endpoint device nonce h hnonce =>
    (counter_of_responseNonce ciphers options handler hciphered input endpoint device h nonce
      hnonce).2

omit hciphered in
/-- When no other endpoint is ahead, none has spent what this one could use. -/
theorem covered_of_localCounterAhead (pool : Pool ServerEndpoint δ)
    (input : PoolInput EndpointInput) (h : localCounterAhead pool input = true) :
    Machine.Covered NonceCandidate NonceSpent pool input := by
  cases input with
  | create => trivial
  | call index input =>
      intro called hcalled other hother nonce hcandidate hspent
      rcases hcandidate with ⟨⟨environment, hinput⟩, hopen, hpending, hcounter⟩
      unfold localCounterAhead at h
      rw [hinput] at h
      simp only [hcalled, hopen, hpending, Bool.not_true, Bool.or_self, Bool.false_or,
        List.all_eq_true, decide_eq_true_eq] at h
      have hle := h other hother
      unfold NonceSpent at hspent ⊢
      exact UInt32.lt_of_lt_of_le hspent hle

/-- No two responses of a server have the same nonce when each call that could
    protect one finds no other endpoint ahead. -/
theorem nodup_responseNonces (inputs : List (PoolInput EndpointInput)) (device : δ)
    (hahead : Admits (serverStep ciphers options handler)
      (fun _ pool input => localCounterAhead pool input = true) [] inputs ⟨[], device⟩) :
    (tokens responseNonce (run (serverStep ciphers options handler) inputs
      ⟨[], device⟩)).Nodup :=
  Machine.nodup_tokens _ _ WellCiphered responseNonce NonceCandidate NonceSpent
    (spends_responseNonce ciphers options handler hciphered) inputs device
    (Machine.Admits.mono _ _ _ (fun _ pool input => covered_of_localCounterAhead pool input)
      [] inputs _ hahead)

end Nonces

/-! ### A client with GMAC -/

def gmacServerTitle : Bytes := [0x53, 0x52, 0x56, 0x00, 0x00, 0x00, 0x00, 0x01]

def gmacOptions : ServerEndpointOptions where
  security :=
    { authentication := .highGmac
      systemTitle := .bytes gmacServerTitle
      authenticationKey := .bytes meterAuthenticationKey
      globalUnicastEncryptionKey := .bytes meterEncryptionKey
      invocationCounter := 1
      cipheredApdu := true }
  negotiateAssociation := true

/-- The challenges of two connections: the client's and the server's. -/
def gmacClientChallenge : Bytes := [0xC0, 0x01, 0x02, 0x03, 0x04, 0x05, 0x06, 0x07]

def gmacClientChallenge' : Bytes := [0xD0, 0x01, 0x02, 0x03, 0x04, 0x05, 0x06, 0x07]

def secondServerChallenge : Security.Challenge where
  bytes := [0xB0, 0xB1, 0xB2, 0xB3, 0xB4, 0xB5, 0xB6, 0xB7, 0xB8, 0xB9, 0xBA, 0xBB, 0xBC, 0xBD,
      0xBE, 0xBF]
  size := (rfl : Security.challengeSize = Security.challengeSize)

/-- A tag over a challenge, with the counter of its nonce. -/
def gmacEntry (title : Bytes) (counter : UInt8) (challenge tag : Bytes) :
    Security.AesGcmEntry where
  key := meterAuthenticationKey
  nonce := title ++ [0, 0, 0, counter]
  additionalAuthenticatedData := 0x10 :: (meterAuthenticationKey ++ challenge)
  plainText := []
  cipherText := []
  tag := tag

/-- A read of an attribute of one register, and the response to it. -/
def getAttribute (id : UInt8) : Bytes :=
  [0xC0, 0x01, 0x81, 0x00, 0x03, 0x01, 0x00, 0x01, 0x08, 0x00, 0xFF, id, 0x00]

def attributeResponse (id : UInt8) : Bytes := [0xC4, 0x01, 0x81, 0x00, 0x11, id]

/-- What AES-GCM makes of the messages of the two connections. -/
def gmacCiphers : Ciphers where
  gcm := .ofTable
    [gmacEntry clientTitle 1 firstServerChallenge.bytes
        [0x65, 0xEF, 0x78, 0x40, 0xEC, 0x86, 0x34, 0x2B, 0x9C, 0x2C, 0x05, 0x72, 0x9D, 0x48,
          0x58, 0xB2],
      gmacEntry clientTitle 2 secondServerChallenge.bytes
        [0xCD, 0x09, 0x87, 0xE4, 0x4E, 0x98, 0xF2, 0xEC, 0xB1, 0xF7, 0x64, 0xAE, 0x6F, 0x10,
          0xD9, 0xFE],
      gmacEntry gmacServerTitle 1 gmacClientChallenge
        [0xF2, 0x4C, 0x64, 0xBC, 0x67, 0x4D, 0xD0, 0x13, 0xFF, 0x16, 0x27, 0xC0, 0xAB, 0xF2,
          0xC8, 0x67],
      gmacEntry gmacServerTitle 1 gmacClientChallenge'
        [0xA6, 0xE8, 0x3A, 0xB1, 0xD0, 0x90, 0x2F, 0x28, 0xEA, 0x3A, 0x79, 0x37, 0x4B, 0x9B,
          0x30, 0x55],
      meterEntry clientTitle 3 (getAttribute 2)
        [0x1E, 0x7E, 0x41, 0xB6, 0x5D, 0xC5, 0x88, 0x36, 0xCD, 0xA2, 0x54, 0x47, 0x11]
        [0x6D, 0x61, 0x71, 0x08, 0x7A, 0x3F, 0xE0, 0x27, 0x72, 0x58, 0x30, 0x8C, 0xB5, 0x1E,
          0x68, 0x76],
      meterEntry clientTitle 4 (getAttribute 3)
        [0xCD, 0x3A, 0xB7, 0x46, 0xE1, 0xBF, 0x94, 0xBA, 0xB1, 0x19, 0x7A, 0x9B, 0x67]
        [0xB2, 0x59, 0xAC, 0x5C, 0x19, 0x73, 0xCC, 0x1F, 0x43, 0x3C, 0x8E, 0x96, 0x2B, 0xCB,
          0xF2, 0xB5],
      meterEntry gmacServerTitle 3 (attributeResponse 2)
        [0xF5, 0x31, 0x41, 0x58, 0xD5, 0xFE]
        [0x28, 0x8F, 0x26, 0xE6, 0xBC, 0x7C, 0x45, 0x94, 0xBE, 0x35, 0x78, 0x46, 0xBA, 0x43,
          0x35, 0x47],
      meterEntry gmacServerTitle 3 (attributeResponse 3)
        [0xF5, 0x31, 0x41, 0x58, 0xD5, 0xFF]
        [0xE0, 0x62, 0xFC, 0xA3, 0x07, 0x75, 0x5C, 0xDC, 0x77, 0x19, 0x07, 0x55, 0xCA, 0xAB,
          0xCB, 0x34],
      meterEntry gmacServerTitle 4 (attributeResponse 3)
        [0xA4, 0xB2, 0x04, 0x3F, 0x11, 0x8F]
        [0x29, 0xA6, 0xCC, 0x5D, 0x0F, 0xDA, 0xFF, 0x03, 0xD2, 0x8B, 0xEF, 0xE0, 0x6E, 0x42,
          0xA1, 0xF9]]
  ecb := { encrypt := fun _ _ => none }

/-- The association request of the client, around its challenge. -/
def gmacAarq (clientChallenge : Bytes) : Bytes :=
  [0x60, 0x37, 0xA6, 0x0A, 0x04, 0x08] ++ clientTitle ++
    [0x8A, 0x02, 0x07, 0x80, 0x8B, 0x07, 0x60, 0x85, 0x74, 0x05, 0x08, 0x02, 0x05, 0xAC, 0x0A,
      0x80, 0x08] ++ clientChallenge ++
    [0xBE, 0x10, 0x04, 0x0E, 0x01, 0x00, 0x00, 0x00, 0x06, 0x5F, 0x1F, 0x04, 0x00, 0x00, 0x7E,
      0x1F, 0x02, 0x00]

/-- The reply of the client, in the plain: a counter and a tag. -/
def gmacReply (counter : UInt8) (tag : Bytes) : EndpointInput :=
  requestOf
    ([0xC3, 0x01, 0x81, 0x00, 0x0F, 0x00, 0x00, 0x28, 0x00, 0x00, 0xFF, 0x01, 0x01, 0x09, 0x15,
      0x10, 0x00, 0x00, 0x00, counter] ++ tag)

/-- The two calls that authenticate the client of the first connection. -/
def gmacConnect : List EndpointInput :=
  [openingWith (gmacAarq gmacClientChallenge) (some firstServerChallenge),
    gmacReply 1
      [0x65, 0xEF, 0x78, 0x40, 0xEC, 0x86, 0x34, 0x2B, 0x9C, 0x2C, 0x05, 0x72, 0x9D, 0x48, 0x58,
        0xB2]]

/-- The same in the second connection, with new challenges and the next
    counter. -/
def gmacConnect' : List EndpointInput :=
  [openingWith (gmacAarq gmacClientChallenge') (some secondServerChallenge),
    gmacReply 2
      [0xCD, 0x09, 0x87, 0xE4, 0x4E, 0x98, 0xF2, 0xEC, 0xB1, 0xF7, 0x64, 0xAE, 0x6F, 0x10, 0xD9,
        0xFE]]

/-- The client's protected reads of two attributes. -/
def gmacGet : EndpointInput :=
  requestOf
    [0x30, 0x00, 0x00, 0x00, 0x03, 0x1E, 0x7E, 0x41, 0xB6, 0x5D, 0xC5, 0x88, 0x36, 0xCD, 0xA2,
      0x54, 0x47, 0x11, 0x6D, 0x61, 0x71, 0x08, 0x7A, 0x3F, 0xE0, 0x27, 0x72, 0x58, 0x30, 0x8C,
      0xB5, 0x1E, 0x68, 0x76]

def gmacGet' : EndpointInput :=
  requestOf
    [0x30, 0x00, 0x00, 0x00, 0x04, 0xCD, 0x3A, 0xB7, 0x46, 0xE1, 0xBF, 0x94, 0xBA, 0xB1, 0x19,
      0x7A, 0x9B, 0x67, 0xB2, 0x59, 0xAC, 0x5C, 0x19, 0x73, 0xCC, 0x1F, 0x43, 0x3C, 0x8E, 0x96,
      0x2B, 0xCB, 0xF2, 0xB5]

/-- A register whose attributes have their own numbers as values. -/
def registerHandler : XdlmsServerHandler Unit where
  handleGet := fun indication device =>
    (.ok { hasData := true, data := [0x11, indication.descriptor.attributeId] }, device)
  handleSet := fun _ device => (.error .unsupportedFeature, device)
  handleAction := fun _ device => (.error .unsupportedFeature, device)

/-- Calls of the endpoint of one connection. -/
def callsOf (index : Nat) (inputs : List EndpointInput) : List (PoolInput EndpointInput) :=
  inputs.map (.call index)

/-- Two connections, of which the one that leads protects: the other
    authenticates between its two reads. -/
theorem nodup_responseNonces_two_connections :
    (tokens responseNonce (run (serverStep gmacCiphers gmacOptions fun _ => registerHandler)
      (.create :: callsOf 0 (gmacConnect ++ [gmacGet]) ++
        .create :: callsOf 1 gmacConnect' ++ callsOf 0 [gmacGet']) ⟨[], ()⟩)).Nodup :=
  nodup_responseNonces gmacCiphers gmacOptions (fun _ => registerHandler) rfl _ ()
    (by decide +kernel)

/-- Two connections with a read each: both responses have the first counter. -/
theorem not_nodup_responseNonces :
    gmacOptions.security.cipheredApdu = true ∧
      ServerEndpoint.validateOpen gmacOptions = .ok () ∧
      ¬ (tokens responseNonce (run (serverStep gmacCiphers gmacOptions fun _ => registerHandler)
        (.create :: callsOf 0 (gmacConnect ++ [gmacGet, .close (.ok ())]) ++
          .create :: callsOf 1 (gmacConnect' ++ [gmacGet'])) ⟨[], ()⟩)).Nodup := by
  refine ⟨rfl, by decide +kernel, by decide +kernel⟩

end Endpoint

end Dlms
