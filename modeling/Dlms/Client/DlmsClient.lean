import Dlms.Association.Client
import Dlms.Endpoint.Strategy
import Dlms.Xdlms.Client

/-!
# The client

A client joins an association, a strategy of high-level security and the xDLMS
services over one channel. Opening an association negotiates it; with
high-level security the client then answers the server's challenge through an
ACTION in the plain, whatever the services after it use, and verifies the
answer to its own.

The two strategies share nothing with those of the server endpoint but the
authenticators: a client keeps its own challenge only, and is given the
server's. The transports and the trace sinks of the options are left out.

## Main definitions

* `ClientStatus`: The failure codes, and the maps from those below.
* `DlmsClientOptions`: The configuration.
* `ClientHlsAssociationStrategy`: The strategy of either mechanism.
* `DlmsClient`: The state of a client.
* `openAssociation`: The exchange, and the reply it verified.
-/

namespace Dlms

namespace Client

open Codec
open Apdu (Bytes DlmsData)
open Association (AssociationClient AssociationOptions AssociationResult AssociationStatus
  HighLevelSecurityMechanism IHighLevelSecurityStrategy)
open Endpoint (Ciphers setKeyOrKeep)
open Profile (ApduChannel)
open Security (Challenge HlsGmacState InMemoryInvocationCounterStore InMemoryKeyStore
  SecurityStatus SystemTitle)
open Xdlms (InvokeIdAllocator XdlmsStatus)

inductive ClientStatus where
  | invalidArgument
  | invalidState
  | channelOpenFailed
  | associationFailed
  | notAssociated
  | sendFailed
  | receiveFailed
  | serviceRejected
  | securityFailed
  | unsupportedFeature
  | blockTransferRequired
  | invokeIdMismatch
  | codecFailed
  | internalError
  deriving DecidableEq, Repr

/-- A client that has an association already has no failure. -/
def mapAssociationStatus (status : AssociationStatus) : Except ClientStatus Unit :=
  match status with
  | .alreadyAssociated => .ok ()
  | .invalidArgument => .error .invalidArgument
  | .invalidState => .error .invalidState
  | .channelOpenFailed => .error .channelOpenFailed
  | .sendFailed => .error .sendFailed
  | .receiveFailed => .error .receiveFailed
  | .unsupportedApplicationContext | .unsupportedAuthentication => .error .unsupportedFeature
  | .associationRejected | .negotiationFailed | .encodeFailed | .decodeFailed =>
      .error .associationFailed
  | .channelCloseFailed | .internalError => .error .internalError

def ofAssociation (outcome : Except AssociationStatus Unit) : Except ClientStatus Unit :=
  match outcome with
  | .ok () => .ok ()
  | .error status => mapAssociationStatus status

def mapXdlmsStatus (status : XdlmsStatus) : ClientStatus :=
  match status with
  | .invalidArgument => .invalidArgument
  | .invalidState => .invalidState
  | .notAssociated => .notAssociated
  | .sendFailed => .sendFailed
  | .receiveFailed => .receiveFailed
  | .serviceRejected => .serviceRejected
  | .securityFailed => .securityFailed
  | .blockTransferRequired => .blockTransferRequired
  | .unsupportedFeature => .unsupportedFeature
  | .encodeFailed | .decodeFailed => .codecFailed
  | .invokeIdMismatch => .invokeIdMismatch
  | .internalError => .internalError

/-! ### The configuration -/

inductive ClientAuthenticationMode where
  | none
  | lowLevelSecurity
  | highLevelSecurity
  | highLevelSecurityGmac
  deriving DecidableEq, Repr

inductive ClientSecurityMode where
  | none
  | authenticatedAndEncrypted
  deriving DecidableEq, Repr

/-- A key as the options hold it: sixteen bytes. -/
structure ClientKey where
  bytes : Bytes
  size : bytes.length = 16
  deriving DecidableEq

structure ClientSecurityOptions where
  clientSystemTitle : SystemTitle
  serverSystemTitle : SystemTitle
  globalUnicastEncryptionKey : ClientKey
  authenticationKey : ClientKey
  invocationCounter : UInt32
  deriving DecidableEq

structure DlmsClientOptions where
  authenticationMode : ClientAuthenticationMode
  securityMode : ClientSecurityMode
  lowLevelSecurityCredential : Bytes
  highLevelSecurityPassword : Bytes
  security : ClientSecurityOptions
  association : AssociationOptions
  clientSap : UInt16
  serverSap : UInt16

def isAllZero (bytes : Bytes) : Bool := bytes.all (· == 0)

/-- A password or a credential that fits its field. -/
def isCredential (credential : Bytes) : Bool :=
  credential.length != 0 && credential.length ≤ 125

/-- The checks of the options, but for those of the transports. -/
def validateDlmsClientOptions (options : DlmsClientOptions) : Except ClientStatus Unit :=
  if options.authenticationMode = .lowLevelSecurity ∧
      !isCredential options.lowLevelSecurityCredential then
    .error .invalidArgument
  else if options.authenticationMode = .highLevelSecurity ∧
      !isCredential options.highLevelSecurityPassword then
    .error .invalidArgument
  else if options.authenticationMode = .highLevelSecurityGmac ∧
      (isAllZero options.security.clientSystemTitle.bytes ∨
        isAllZero options.security.authenticationKey.bytes) then
    .error .invalidArgument
  else if options.clientSap = 0 ∨ options.serverSap = 0 ∨
      options.association.proposedDlmsVersionNumber = 0 ∨
      options.association.clientMaxReceivePduSize = 0 then
    .error .invalidArgument
  else if options.securityMode = .authenticatedAndEncrypted ∧
      (isAllZero options.security.clientSystemTitle.bytes ∨
        isAllZero options.security.globalUnicastEncryptionKey.bytes ∨
        isAllZero options.security.authenticationKey.bytes) then
    .error .invalidArgument
  else if options.securityMode = .authenticatedAndEncrypted ∧
      isAllZero options.security.serverSystemTitle.bytes ∧
      options.authenticationMode ≠ .highLevelSecurityGmac then
    .error .invalidArgument
  else
    .ok ()

def usesHls (options : DlmsClientOptions) : Bool :=
  options.authenticationMode == .highLevelSecurity ||
    options.authenticationMode == .highLevelSecurityGmac

/-- What the association takes from the configuration; the proposals pass as
    they are. -/
def makeAssociationOptions (options : DlmsClientOptions) (hasHls : Bool) : AssociationOptions :=
  match options.authenticationMode with
  | .none =>
      { options.association with
        authenticationMode := .none
        lowLevelSecurityCredential := []
        hasHighLevelSecurity := false
        callingApplicationTitle := [] }
  | .lowLevelSecurity =>
      { options.association with
        authenticationMode := .lowLevelSecurity
        lowLevelSecurityCredential := options.lowLevelSecurityCredential
        hasHighLevelSecurity := false
        callingApplicationTitle := [] }
  | .highLevelSecurity =>
      { options.association with
        authenticationMode := .highLevelSecurity
        lowLevelSecurityCredential := []
        hasHighLevelSecurity := hasHls
        callingApplicationTitle := [] }
  | .highLevelSecurityGmac =>
      { options.association with
        authenticationMode := .highLevelSecurity
        lowLevelSecurityCredential := []
        hasHighLevelSecurity := hasHls
        callingApplicationTitle := options.security.clientSystemTitle.bytes }

/-! ### The strategy -/

/-- The authenticator of a mechanism, with what it works on. -/
inductive ClientHlsAuthenticator where
  | high (password : Bytes)
  | gmac (keys : InMemoryKeyStore) (state : HlsGmacState)

structure ClientHlsAssociationStrategy where
  authenticator : ClientHlsAuthenticator
  clientChallenge : Bytes := []

def createKeyStore (security : ClientSecurityOptions) : InMemoryKeyStore :=
  setKeyOrKeep
    (setKeyOrKeep .empty .globalUnicastEncryption security.globalUnicastEncryptionKey.bytes)
    .authentication security.authenticationKey.bytes

def createHlsGmacState (options : DlmsClientOptions) : HlsGmacState where
  context :=
    { Security.emptySecurityContext with
      policy :=
        if options.securityMode = .authenticatedAndEncrypted then .authenticatedAndEncrypted
        else .authenticated
      role := .client
      clientSap := options.clientSap
      serverSap := options.serverSap
      localSystemTitle := options.security.clientSystemTitle
      remoteSystemTitle := options.security.serverSystemTitle }
  counters :=
    InMemoryInvocationCounterStore.setLocalCounter {} options.security.invocationCounter

def createHlsStrategy (options : DlmsClientOptions) : Option ClientHlsAssociationStrategy :=
  match options.authenticationMode with
  | .none | .lowLevelSecurity => none
  | .highLevelSecurity => some { authenticator := .high options.highLevelSecurityPassword }
  | .highLevelSecurityGmac =>
      some
        { authenticator :=
            .gmac (createKeyStore options.security) (createHlsGmacState options) }

namespace ClientHlsAssociationStrategy

variable (ciphers : Ciphers) (strategy : ClientHlsAssociationStrategy)

def mechanism : HighLevelSecurityMechanism :=
  match strategy.authenticator with
  | .high _ => .hlsHigh
  | .gmac _ _ => .hlsGmac

def buildInitialChallenge (random : Option Challenge) :
    Except AssociationStatus Bytes × ClientHlsAssociationStrategy :=
  match Security.buildChallenge random with
  | .error _ => (.error .unsupportedAuthentication, strategy)
  | .ok challenge => (.ok challenge, { strategy with clientChallenge := challenge })

def buildResponse (challenge : Bytes) :
    Except SecurityStatus Bytes × ClientHlsAssociationStrategy :=
  match strategy.authenticator with
  | .high password =>
      (Security.HlsHighAuthenticator.buildResponse ciphers.ecb password challenge, strategy)
  | .gmac keys state =>
      let out := Security.HlsGmacAuthenticator.buildResponse ciphers.gcm keys challenge state
      (out.1, { strategy with authenticator := .gmac keys out.2 })

def verifyResponse (challenge response : Bytes) :
    Except SecurityStatus Unit × ClientHlsAssociationStrategy :=
  match strategy.authenticator with
  | .high password =>
      (Security.HlsHighAuthenticator.verifyResponse ciphers.ecb password challenge response,
        strategy)
  | .gmac keys state =>
      let out :=
        Security.HlsGmacAuthenticator.verifyResponse ciphers.gcm keys challenge response state
      (out.1, { strategy with authenticator := .gmac keys out.2 })

/-- With GMAC and no title of the peer in the configuration, take the one in the
    response. -/
def applyDiscoveredRemoteSystemTitle (result : AssociationResult) :
    Option ClientHlsAssociationStrategy :=
  match strategy.authenticator with
  | .high _ => some strategy
  | .gmac keys state =>
      if Security.isValidSystemTitle state.context.remoteSystemTitle then
        some strategy
      else if result.respondingApplicationTitle.length ≠ 8 then
        none
      else
        some
          { strategy with
            authenticator :=
              .gmac keys
                { state with
                  context :=
                    { state.context with
                      remoteSystemTitle :=
                        SystemTitle.ofBytes result.respondingApplicationTitle } } }

end ClientHlsAssociationStrategy

/-- The strategy as the association sees it; there is none without high-level
    security. -/
def clientHlsStrategy : IHighLevelSecurityStrategy (Option ClientHlsAssociationStrategy) where
  mechanism := fun hls =>
    match hls with
    | none => .unknown
    | some strategy => strategy.mechanism
  buildInitialChallenge := fun random hls =>
    match hls with
    | none => (.error .unsupportedAuthentication, none)
    | some strategy =>
        let out := strategy.buildInitialChallenge random
        (out.1, some out.2)

/-! ### The client -/

inductive ClientState where
  | disconnected
  | connected
  | associated
  deriving DecidableEq, Repr

/-- A client over a channel of its own. -/
structure DlmsClient (χ : Type) where
  state : ClientState
  association : AssociationClient
  hls : Option ClientHlsAssociationStrategy
  invokeIds : InvokeIdAllocator
  channel : χ

def create {χ : Type} (options : DlmsClientOptions) (channel : χ) : DlmsClient χ where
  state := .disconnected
  association := {}
  hls := createHlsStrategy options
  invokeIds := .initial
  channel := channel

/-- A client once its channel is open. -/
def connected {χ : Type} (options : DlmsClientOptions) (channel : χ) : DlmsClient χ :=
  { create options channel with
    state := .connected
    association := { state := .opened } }

def hlsReplyMethod : Xdlms.CosemMethodDescriptor where
  classId := 15
  instanceId := ⟨0, 0, 40, 0, 0, 255⟩
  methodId := 1

/-- Octets of the buffer a response is encoded in. -/
def responseBufferSize : Nat := 256

def encodeOctetStringData (bytes : Bytes) : Except ClientStatus Bytes :=
  match runEmitter responseBufferSize
      (Apdu.encodeDlmsData { type := .octetString, bytes := bytes }) with
  | .ok encoded => .ok encoded
  | .error _ => .error .internalError

def decodeOctetStringData (encoded : Bytes) : Except ClientStatus Bytes :=
  match Apdu.decodeDlmsData encoded 8 with
  | .ok data => if data.type = .octetString then .ok data.bytes else .error .associationFailed
  | .error _ => .error .associationFailed

/-- What was verified: the client's own response to the server's challenge, what
    came back, and the strategy that looked at it. -/
structure HlsExchange where
  strategy : ClientHlsAssociationStrategy
  clientResponse : Bytes
  serverResponse : Bytes

/-- How an opening ends, and the exchange if there was one. -/
structure OpenOutcome where
  status : Except ClientStatus Unit
  exchange : Option HlsExchange := none

section OpenAssociation

variable {χ : Type} (ciphers : Ciphers) (options : DlmsClientOptions) (channel : ApduChannel χ)
  (random : Option Challenge) (responses : Nat)

/-- The ACTION that replies to the challenge goes out in the plain. With
    ciphered services it is made by a client of its own. -/
def sendHlsReply (encodedParameter : Bytes) (client : DlmsClient χ) :
    Option ((Except XdlmsStatus Unit × Xdlms.ActionResult) × DlmsClient χ) :=
  let plain := options.securityMode = .none
  match Xdlms.action
      { channel := channel
        security := (none : Option (Xdlms.SecurityProcessor Unit))
        isAssociated := client.association.state = .associated }
      hlsReplyMethod (some encodedParameter) Xdlms.defaultServiceOptions responses
      { channel := client.channel
        security := ()
        invokeIds := if plain then client.invokeIds else .initial } with
  | none => none
  | some (status, result, state) =>
      some ((status, result),
        { client with
          channel := state.channel
          invokeIds := if plain then state.invokeIds else client.invokeIds })

/-- Verify what came back. -/
def verifyHlsReply (hls : ClientHlsAssociationStrategy) (clientResponse serverResponse : Bytes)
    (client : DlmsClient χ) : OpenOutcome × DlmsClient χ :=
  match hls.verifyResponse ciphers hls.clientChallenge serverResponse with
  | (.error _, after) =>
      (⟨.error .securityFailed, some ⟨hls, clientResponse, serverResponse⟩⟩,
        { client with hls := some after })
  | (.ok (), after) =>
      (⟨.ok (), some ⟨hls, clientResponse, serverResponse⟩⟩,
        { client with hls := some after, state := .associated })

/-- Answer the server's challenge and have the client's answered. -/
def exchangeHls (hls : ClientHlsAssociationStrategy) (client : DlmsClient χ) :
    Option (OpenOutcome × DlmsClient χ) :=
  let serverChallenge := client.association.result.highLevelSecurityServerChallenge
  if serverChallenge = [] ∨ hls.clientChallenge = [] then
    some (⟨.error .associationFailed, none⟩, client)
  else
    match hls.applyDiscoveredRemoteSystemTitle client.association.result with
    | none => some (⟨.error .associationFailed, none⟩, client)
    | some hls =>
        match hls.buildResponse ciphers serverChallenge with
        | (.error _, hls) =>
            some (⟨.error .securityFailed, none⟩, { client with hls := some hls })
        | (.ok clientResponse, hls) =>
            let client := { client with hls := some hls }
            match encodeOctetStringData clientResponse with
            | .error status => some (⟨.error status, none⟩, client)
            | .ok encodedParameter =>
                match sendHlsReply options channel responses encodedParameter client with
                | none => none
                | some ((.error status, _), client) =>
                    some (⟨.error (mapXdlmsStatus status), none⟩, client)
                | some ((.ok (), result), client) =>
                    if !result.hasData then
                      some (⟨.error .associationFailed, none⟩, client)
                    else
                      match decodeOctetStringData result.data with
                      | .error status => some (⟨.error status, none⟩, client)
                      | .ok serverResponse =>
                          some (verifyHlsReply ciphers hls clientResponse serverResponse client)

/-- Open an association. The bound is the one of the ACTION. -/
def openAssociation (client : DlmsClient χ) : Option (OpenOutcome × DlmsClient χ) :=
  match client.state with
  | .disconnected => some (⟨.error .invalidState, none⟩, client)
  | .associated => some (⟨.ok (), none⟩, client)
  | .connected =>
      let established := AssociationClient.establish clientHlsStrategy channel
        (makeAssociationOptions options client.hls.isSome) random client.association client.hls
        client.channel
      let client :=
        { client with
          association := established.2.1
          hls := established.2.2.1
          channel := established.2.2.2 }
      match ofAssociation established.1 with
      | .error status => some (⟨.error status, none⟩, client)
      | .ok () =>
          if !usesHls options then
            some (⟨.ok (), none⟩, { client with state := .associated })
          else
            match client.hls with
            | none => some (⟨.error .internalError, none⟩, client)
            | some hls => exchangeHls ciphers options channel responses hls client

end OpenAssociation

end Client

end Dlms
