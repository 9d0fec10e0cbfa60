import Dlms.Association.Server
import Dlms.Endpoint.Options

/-!
# The high-level security strategies of a server endpoint

An endpoint has one strategy for each mechanism it knows, made anew for each
negotiation from the options. During the negotiation the strategy is told the
client's challenge and makes the server's; when the client replies it verifies
the reply to the second and answers the first. It keeps both challenges until
its owner drops it, and the one with GMAC keeps its counters.

The two strategies are two classes with one interface in the source, and one
type with two constructors here.

## Main definitions

* `ServerEndpointHlsHighStrategy`, `ServerEndpointHlsGmacStrategy`: The two.
* `HlsStrategy`: Either of them.
* `hlsStrategy`: The interface the negotiation sees.
* `verifyClientResponse`, `buildServerResponse`: What the reply needs.

## Theorems

* `challengeOf_hlsStrategy`: What a negotiation leaves in a strategy.
* `verifyClientResponse_serverChallenge`: Verifying keeps the challenge.
-/

namespace Dlms

namespace Endpoint

open Apdu (Bytes)
open Association (AssociationStatus HighLevelSecurityMechanism IHighLevelSecurityServerStrategy)
open Security (Aes128Gcm Aes128Ecb Challenge HlsGmacState InMemoryKeyStore
  InMemoryInvocationCounterStore SecurityKeyRole SystemTitle SecurityStatus)

/-- The ciphers of suite 0. -/
structure Ciphers where
  gcm : Aes128Gcm
  ecb : Aes128Ecb

/-- The HLS check with a password. -/
structure ServerEndpointHlsHighStrategy where
  password : Bytes
  clientChallenge : Bytes := []
  serverChallenge : Bytes := []

/-- The HLS check with a GMAC tag. -/
structure ServerEndpointHlsGmacStrategy where
  keys : InMemoryKeyStore
  state : HlsGmacState
  clientChallenge : Bytes := []
  serverChallenge : Bytes := []

/-- A strategy of either mechanism. -/
inductive HlsStrategy where
  | high (strategy : ServerEndpointHlsHighStrategy)
  | gmac (strategy : ServerEndpointHlsGmacStrategy)

/-- Put a key, or leave the store as it is when the key has no good size. -/
def setKeyOrKeep (keys : InMemoryKeyStore) (role : SecurityKeyRole) (bytes : Bytes) :
    InMemoryKeyStore :=
  match keys.setKey ⟨role, bytes⟩ with
  | .ok keys => keys
  | .error _ => keys

def makeHlsHighStrategy (security : EndpointSecurityOptions) : ServerEndpointHlsHighStrategy where
  password := security.password.data

def makeHlsGmacStrategy (profile : EndpointProfileOptions) (security : EndpointSecurityOptions) :
    ServerEndpointHlsGmacStrategy where
  keys := setKeyOrKeep .empty .authentication security.authenticationKey.data
  state :=
    { context :=
        { Security.emptySecurityContext with
          policy := .authenticated
          role := .server
          clientSap := profile.clientSap
          serverSap := profile.serverSap
          localSystemTitle := SystemTitle.ofBytes security.systemTitle.data }
      counters :=
        InMemoryInvocationCounterStore.setLocalCounter {} security.invocationCounter }

/-- The strategy of a configuration, if its authentication has one. -/
def makeHlsStrategy (profile : EndpointProfileOptions) (security : EndpointSecurityOptions) :
    Option HlsStrategy :=
  match security.authentication with
  | .none | .lowPassword => none
  | .highPassword => some (.high (makeHlsHighStrategy security))
  | .highGmac => some (.gmac (makeHlsGmacStrategy profile security))

namespace HlsStrategy

def mechanism : HlsStrategy → HighLevelSecurityMechanism
  | high _ => .hlsHigh
  | gmac _ => .hlsGmac

def clientChallenge : HlsStrategy → Bytes
  | high strategy => strategy.clientChallenge
  | gmac strategy => strategy.clientChallenge

def serverChallenge : HlsStrategy → Bytes
  | high strategy => strategy.serverChallenge
  | gmac strategy => strategy.serverChallenge

/-- The nonce the next tag is made with; a password needs none. -/
def nextNonce : HlsStrategy → Option (SystemTitle × UInt32)
  | high _ => none
  | gmac strategy =>
      some (strategy.state.context.localSystemTitle, strategy.state.counters.nextLocalCounter)

def withClientChallenge (challenge : Bytes) : HlsStrategy → HlsStrategy
  | high strategy => high { strategy with clientChallenge := challenge }
  | gmac strategy => gmac { strategy with clientChallenge := challenge }

def withServerChallenge (challenge : Bytes) : HlsStrategy → HlsStrategy
  | high strategy => high { strategy with serverChallenge := challenge }
  | gmac strategy => gmac { strategy with serverChallenge := challenge }

@[simp] theorem clientChallenge_withClientChallenge (challenge : Bytes) (strategy : HlsStrategy) :
    (strategy.withClientChallenge challenge).clientChallenge = challenge := by
  cases strategy <;> rfl

@[simp] theorem clientChallenge_withServerChallenge (challenge : Bytes) (strategy : HlsStrategy) :
    (strategy.withServerChallenge challenge).clientChallenge = strategy.clientChallenge := by
  cases strategy <;> rfl

@[simp] theorem serverChallenge_withServerChallenge (challenge : Bytes) (strategy : HlsStrategy) :
    (strategy.withServerChallenge challenge).serverChallenge = challenge := by
  cases strategy <;> rfl

@[simp] theorem nextNonce_withClientChallenge (challenge : Bytes) (strategy : HlsStrategy) :
    (strategy.withClientChallenge challenge).nextNonce = strategy.nextNonce := by
  cases strategy <;> rfl

@[simp] theorem nextNonce_withServerChallenge (challenge : Bytes) (strategy : HlsStrategy) :
    (strategy.withServerChallenge challenge).nextNonce = strategy.nextNonce := by
  cases strategy <;> rfl

/-- The mechanism with a password has no use for the title. -/
def setCallingApplicationTitle (title : Bytes) (strategy : HlsStrategy) :
    Except AssociationStatus Unit × HlsStrategy :=
  match strategy with
  | high strategy => (.ok (), high strategy)
  | gmac strategy =>
      if title.length ≠ 8 then
        (.error .unsupportedAuthentication, gmac strategy)
      else
        (.ok (),
          gmac
            { strategy with
              state :=
                { strategy.state with
                  context :=
                    { strategy.state.context with
                      remoteSystemTitle := SystemTitle.ofBytes title } } })

def validateInitialChallenge (mechanism : HighLevelSecurityMechanism) (clientChallenge : Bytes)
    (strategy : HlsStrategy) : Except AssociationStatus Unit × HlsStrategy :=
  if mechanism ≠ strategy.mechanism ∨ clientChallenge = [] then
    (.error .unsupportedAuthentication, strategy)
  else
    (.ok (), strategy.withClientChallenge clientChallenge)

def buildResponseChallenge (mechanism : HighLevelSecurityMechanism) (random : Option Challenge)
    (strategy : HlsStrategy) : Except AssociationStatus Bytes × HlsStrategy :=
  if mechanism ≠ strategy.mechanism then
    (.error .unsupportedAuthentication, strategy)
  else
    match Security.buildChallenge random with
    | .error _ => (.error .internalError, strategy)
    | .ok challenge => (.ok challenge, strategy.withServerChallenge challenge)

/-- A failure of the authenticator, whichever, is one of security. -/
def ofSecurity {α : Type} (outcome : Except SecurityStatus α) : Except EndpointStatus α :=
  match outcome with
  | .ok value => .ok value
  | .error _ => .error .securityFailed

variable (ciphers : Ciphers)

/-- Verify the client's reply to the server's challenge. -/
def verifyClientResponse (response : Bytes) (strategy : HlsStrategy) :
    Except EndpointStatus Unit × HlsStrategy :=
  if strategy.serverChallenge = [] then
    (.error .associationFailed, strategy)
  else
    match strategy with
    | high strategy =>
        (ofSecurity (Security.HlsHighAuthenticator.verifyResponse ciphers.ecb strategy.password
            strategy.serverChallenge response), high strategy)
    | gmac strategy =>
        let out := Security.HlsGmacAuthenticator.verifyResponse ciphers.gcm strategy.keys
          strategy.serverChallenge response strategy.state
        (ofSecurity out.1, gmac { strategy with state := out.2 })

/-- Answer the client's challenge. -/
def buildServerResponse (strategy : HlsStrategy) :
    Except EndpointStatus Bytes × HlsStrategy :=
  if strategy.clientChallenge = [] then
    (.error .associationFailed, strategy)
  else
    match strategy with
    | high strategy =>
        (ofSecurity (Security.HlsHighAuthenticator.buildResponse ciphers.ecb strategy.password
            strategy.clientChallenge), high strategy)
    | gmac strategy =>
        let out := Security.HlsGmacAuthenticator.buildResponse ciphers.gcm strategy.keys
          strategy.clientChallenge strategy.state
        (ofSecurity out.1, gmac { strategy with state := out.2 })

theorem verifyClientResponse_serverChallenge (response : Bytes) (strategy : HlsStrategy) :
    (strategy.verifyClientResponse ciphers response).2.serverChallenge =
      strategy.serverChallenge := by
  unfold verifyClientResponse
  by_cases hempty : strategy.serverChallenge = []
  · rw [if_pos hempty]
  · rw [if_neg hempty]
    cases strategy with
    | high strategy => rfl
    | gmac strategy => rfl

theorem buildServerResponse_serverChallenge (strategy : HlsStrategy) :
    (strategy.buildServerResponse ciphers).2.serverChallenge = strategy.serverChallenge := by
  unfold buildServerResponse
  by_cases hempty : strategy.clientChallenge = []
  · rw [if_pos hempty]
  · rw [if_neg hempty]
    cases strategy with
    | high strategy => rfl
    | gmac strategy => rfl

end HlsStrategy

/-- The strategies as a negotiation sees them. -/
def hlsStrategy : IHighLevelSecurityServerStrategy HlsStrategy where
  setCallingApplicationTitle := HlsStrategy.setCallingApplicationTitle
  validateInitialChallenge := HlsStrategy.validateInitialChallenge
  buildResponseChallenge := HlsStrategy.buildResponseChallenge

/-- A negotiation leaves in the strategy the two challenges and the next nonce. -/
theorem challengeOf_hlsStrategy (random : Option Challenge) (title : Bytes)
    (mechanism : HighLevelSecurityMechanism) (clientChallenge serverChallenge : Bytes)
    (strategy after : HlsStrategy)
    (h : Association.challengeOf hlsStrategy random title mechanism clientChallenge strategy =
      (.ok serverChallenge, after)) :
    after.clientChallenge = clientChallenge ∧ after.serverChallenge = serverChallenge ∧
      after.nextNonce = strategy.nextNonce ∧ serverChallenge ≠ [] := by
  unfold Association.challengeOf at h
  -- The title of the client is put into the context, next to the server's own.
  have htitle : ∀ titled, strategy.setCallingApplicationTitle title = (.ok (), titled) →
      titled.nextNonce = strategy.nextNonce := by
    intro titled hset
    cases strategy with
    | high strategy =>
        rw [← (Prod.mk.inj hset).2]
    | gmac strategy =>
        simp only [HlsStrategy.setCallingApplicationTitle] at hset
        split_ifs at hset with hsize
        · exact absurd (Prod.mk.inj hset).1 (by simp)
        · rw [← (Prod.mk.inj hset).2]
          rfl
  cases hset : strategy.setCallingApplicationTitle title with
  | mk outcome titled =>
      cases outcome with
      | error status => simp [hlsStrategy, hset] at h
      | ok set =>
          simp only [hlsStrategy, hset, HlsStrategy.validateInitialChallenge] at h
          by_cases hinvalid : mechanism ≠ titled.mechanism ∨ clientChallenge = []
          · simp [hinvalid] at h
          · simp only [hinvalid, if_false, HlsStrategy.buildResponseChallenge] at h
            by_cases hmechanism :
                mechanism ≠ (titled.withClientChallenge clientChallenge).mechanism
            · simp [hmechanism] at h
            · simp only [hmechanism, if_false] at h
              -- Both strategies issue the challenge in the same way.
              cases hchallenge : Security.buildChallenge random with
              | error status =>
                  simp [hchallenge] at h
              | ok challenge =>
                  simp only [hchallenge] at h
                  have hne := Security.ne_nil_of_buildChallenge random challenge hchallenge
                  by_cases hsize :
                      challenge.length > Association.maxShortBerAuthenticationValueSize
                  · simp [hne, hsize] at h
                  · simp only [hne, hsize, if_false, Prod.mk.injEq, Except.ok.injEq] at h
                    rw [← h.1, ← h.2]
                    simp [HlsStrategy.clientChallenge_withServerChallenge,
                      HlsStrategy.clientChallenge_withClientChallenge,
                      HlsStrategy.serverChallenge_withServerChallenge,
                      HlsStrategy.nextNonce_withServerChallenge,
                      HlsStrategy.nextNonce_withClientChallenge, htitle titled hset, hne]

end Endpoint

end Dlms
