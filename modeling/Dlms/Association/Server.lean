import Dlms.Association.Types
import Dlms.Security.Hls

/-!
# The server end of an association

A server receives a request, checks the authentication fields its mode asks
for, and answers. With high-level security the answer carries a challenge, and
the association is not authenticated until the peer has replied to it, which is
not the business of this layer: the strategy that made the challenge is an
interface, here a record of functions over a state.

A server whose negotiation failed is thrown away by its owner, so the operations
return a server only where they succeed. What the channel does in a call is an
argument of the call.

## Main definitions

* `IHighLevelSecurityServerStrategy`: The interface of a strategy.
* `decodeAarq`: What a request must contain.
* `accept`: Negotiate an association.
* `release`: Answer a release request.

## Theorems

* `challengeOf_of_accept`: A negotiation that succeeded with high-level security
  has asked its strategy for the challenge it has.
-/

namespace Dlms

namespace Association

open Apdu (Bytes AcseRawField AarqApdu AareApdu AcseApdu)
open Profile (ProfileStatus)
open Security (Challenge)

/-- A mechanism of high-level security at a server. Its challenges are random,
    and the random source may fail. -/
structure IHighLevelSecurityServerStrategy (η : Type) where
  setCallingApplicationTitle : Bytes → η → Except AssociationStatus Unit × η
  validateInitialChallenge : HighLevelSecurityMechanism → Bytes → η →
    Except AssociationStatus Unit × η
  buildResponseChallenge : HighLevelSecurityMechanism → Option Challenge → η →
    Except AssociationStatus Bytes × η

/-- The application context has one value in the source and is left out. -/
structure AssociationServerOptions where
  authenticationMode : AuthenticationMode
  lowLevelSecurityCredential : Bytes
  hasHighLevelSecurity : Bool
  respondingApplicationTitle : Bytes
  negotiatedDlmsVersionNumber : UInt8
  negotiatedConformance : Apdu.AxdrConformance
  serverMaxReceivePduSize : UInt16
  vaaName : UInt16
  deriving DecidableEq

def defaultAssociationServerOptions : AssociationServerOptions where
  authenticationMode := .none
  lowLevelSecurityCredential := []
  hasHighLevelSecurity := false
  respondingApplicationTitle := []
  negotiatedDlmsVersionNumber := Apdu.makeDefaultInitiateRequest.proposedDlmsVersionNumber
  negotiatedConformance := Apdu.makeDefaultInitiateRequest.proposedConformance
  serverMaxReceivePduSize := Apdu.makeDefaultInitiateRequest.clientMaxReceivePduSize
  vaaName := 0x0007

/-- A server with an association. -/
structure AssociationServer where
  result : AssociationResult
  highLevelSecurityMechanism : HighLevelSecurityMechanism
  deriving DecidableEq

/-! ### The request -/

def hasAuthenticationFields (aarq : AarqApdu) : Bool :=
  aarq.fields.any fun field =>
    field.tag == senderAcseRequirementsTag || field.tag == mechanismNameTag ||
      field.tag == callingAuthenticationValueTag

/-- The only field with a tag. -/
def findSingleField (aarq : AarqApdu) (tag : UInt8) : Option AcseRawField :=
  match aarq.fields.filter (·.tag == tag) with
  | [field] => some field
  | _ => none

def decodeHlsMechanism (encoded : Bytes) : Option HighLevelSecurityMechanism :=
  if encoded.length = 9 ∧ encoded.take 8 = mechanismNamePrefix then
    hlsMechanismFromId (encoded.getD 8 0)
  else
    none

/-- The three fields of an authentication: the requirements, the mechanism and
    the value. -/
def authenticationFields (aarq : AarqApdu) : Option (Bytes × Bytes × Bytes) := do
  let requirements ← findSingleField aarq senderAcseRequirementsTag
  let mechanism ← findSingleField aarq mechanismNameTag
  let value ← findSingleField aarq callingAuthenticationValueTag
  pure (requirements.encoded, mechanism.encoded, value.encoded)

def validateLowLevelSecurityAarq (aarq : AarqApdu) (expectedCredential : Bytes) :
    Except AssociationStatus Unit :=
  match authenticationFields aarq with
  | none => .error .unsupportedAuthentication
  | some (requirements, mechanism, value) =>
      if requirements ≠ makeSenderAcseRequirementsField ∨
          mechanism ≠ makeLowLevelSecurityMechanismField then
        .error .unsupportedAuthentication
      else
        match decodeTypedField value callingAuthenticationValueTag
            charstringAuthenticationValueTag with
        | none => .error .unsupportedAuthentication
        | some credential =>
            if credential ≠ expectedCredential then .error .unsupportedAuthentication
            else .ok ()

section Negotiation

variable {η : Type} (strategy : IHighLevelSecurityServerStrategy η) (random : Option Challenge)

/-- Ask the strategy about the peer's title and challenge, and for a challenge
    of its own. -/
def challengeOf (callingApplicationTitle : Bytes) (mechanism : HighLevelSecurityMechanism)
    (clientChallenge : Bytes) (hls : η) : Except AssociationStatus Bytes × η :=
  match strategy.setCallingApplicationTitle callingApplicationTitle hls with
  | (.error status, hls) => (.error status, hls)
  | (.ok (), hls) =>
      match strategy.validateInitialChallenge mechanism clientChallenge hls with
      | (.error status, hls) => (.error status, hls)
      | (.ok (), hls) =>
          match strategy.buildResponseChallenge mechanism random hls with
          | (.error status, hls) => (.error status, hls)
          | (.ok serverChallenge, hls) =>
              if serverChallenge = [] then (.error .unsupportedAuthentication, hls)
              else if serverChallenge.length > maxShortBerAuthenticationValueSize then
                (.error .invalidArgument, hls)
              else (.ok serverChallenge, hls)

/-- The mechanism of a request and the server's challenge to it. -/
def validateHighLevelSecurityAarq (aarq : AarqApdu) (callingApplicationTitle : Bytes) (hls : η) :
    Except AssociationStatus (HighLevelSecurityMechanism × Bytes) × η :=
  match authenticationFields aarq with
  | none => (.error .unsupportedAuthentication, hls)
  | some (requirements, mechanismField, value) =>
      if requirements ≠ makeSenderAcseRequirementsField then
        (.error .unsupportedAuthentication, hls)
      else
        match decodeHlsMechanism mechanismField,
            decodeTypedField value callingAuthenticationValueTag
              charstringAuthenticationValueTag with
        | some mechanism, some clientChallenge =>
            if clientChallenge = [] then
              (.error .unsupportedAuthentication, hls)
            else
              match challengeOf strategy random callingApplicationTitle mechanism clientChallenge
                  hls with
              | (.error status, hls) => (.error status, hls)
              | (.ok serverChallenge, hls) => (.ok (mechanism, serverChallenge), hls)
        | _, _ => (.error .unsupportedAuthentication, hls)

/-- The title in the first title field, if there is one. -/
def callingApplicationTitleOf (aarq : AarqApdu) : Except AssociationStatus Bytes :=
  match aarq.fields.find? (·.tag == callingApTitleTag) with
  | none => .ok []
  | some field =>
      match decodeTypedField field.encoded callingApTitleTag octetStringTag with
      | none => .error .decodeFailed
      | some title => .ok title

/-- What the mode of the server makes of the authentication fields: a mechanism
    and a challenge for high-level security, nothing otherwise. -/
def authenticateAarq (options : AssociationServerOptions) (aarq : AarqApdu)
    (callingApplicationTitle : Bytes) (hls : η) :
    Except AssociationStatus (HighLevelSecurityMechanism × Bytes) × η :=
  match options.authenticationMode with
  | .none => (.ok (.unknown, []), hls)
  | .lowLevelSecurity =>
      match validateLowLevelSecurityAarq aarq options.lowLevelSecurityCredential with
      | .error status => (.error status, hls)
      | .ok () => (.ok (.unknown, []), hls)
  | .highLevelSecurity =>
      validateHighLevelSecurityAarq strategy random aarq callingApplicationTitle hls

def decodeAarq (options : AssociationServerOptions) (input : Bytes) (hls : η) :
    Except AssociationStatus AssociationServer × η :=
  match Apdu.decodeAcseApdu input with
  | .ok (.aarq aarq) =>
      if options.authenticationMode = .none ∧ hasAuthenticationFields aarq then
        (.error .unsupportedAuthentication, hls)
      else
        match callingApplicationTitleOf aarq with
        | .error status => (.error status, hls)
        | .ok title =>
            match authenticateAarq strategy random options aarq title hls with
            | (.error status, hls) => (.error status, hls)
            | (.ok (mechanism, serverChallenge), hls) =>
                if aarq.initiateRequest.proposedDlmsVersionNumber = 0 ∨
                    aarq.initiateRequest.clientMaxReceivePduSize = 0 then
                  (.error .negotiationFailed, hls)
                else
                  (.ok
                    { highLevelSecurityMechanism := mechanism
                      result :=
                        { negotiatedDlmsVersionNumber := options.negotiatedDlmsVersionNumber
                          serverMaxReceivePduSize := options.serverMaxReceivePduSize
                          highLevelSecurityServerChallenge := serverChallenge
                          callingApplicationTitle := title } }, hls)
  | _ => (.error .decodeFailed, hls)

/-! ### The answer -/

def validateOptions (options : AssociationServerOptions) : Except AssociationStatus Unit :=
  if options.authenticationMode = .highLevelSecurity ∧ !options.hasHighLevelSecurity then
    .error .unsupportedAuthentication
  else if options.authenticationMode = .lowLevelSecurity ∧
      options.lowLevelSecurityCredential = [] then
    .error .unsupportedAuthentication
  else if options.respondingApplicationTitle.length > maxShortBerAuthenticationValueSize then
    .error .invalidArgument
  else if options.negotiatedDlmsVersionNumber = 0 ∨ options.serverMaxReceivePduSize = 0 then
    .error .invalidArgument
  else
    .ok ()

def makeAssociationResultField : Bytes := [0xA2, 0x03, 0x02, 0x01, 0x00]

def makeResultSourceDiagnosticField : Bytes := [0xA3, 0x05, 0xA1, 0x03, 0x02, 0x01, 0x0E]

def aareFields (options : AssociationServerOptions) (server : AssociationServer) : List Bytes :=
  [makeAssociationResultField, makeResultSourceDiagnosticField] ++
    (if options.respondingApplicationTitle = [] then []
     else [makeOctetStringField respondingApTitleTag options.respondingApplicationTitle]) ++
    (if options.authenticationMode = .highLevelSecurity then
      [makeSenderAcseRequirementsField,
        makeHighLevelSecurityMechanismField server.highLevelSecurityMechanism,
        makeAuthenticationValueField respondingAuthenticationValueTag
          server.result.highLevelSecurityServerChallenge]
     else [])

def buildAare (options : AssociationServerOptions) (server : AssociationServer) :
    Except AssociationStatus Bytes :=
  match Apdu.encodeAcseApdu (.aare
      { fields := (aareFields options server).map rawField
        result := some 0
        diagnostic := some 0x0E
        initiateResponse :=
          { negotiatedQualityOfService := none
            negotiatedDlmsVersionNumber := options.negotiatedDlmsVersionNumber
            negotiatedConformance := options.negotiatedConformance
            serverMaxReceivePduSize := options.serverMaxReceivePduSize
            vaaName := options.vaaName } }) with
  | .ok output => .ok output
  | .error _ => .error .encodeFailed

/-- What happens around a negotiation: the channel is opened, a request comes
    in, random bytes are drawn, the answer goes out. -/
structure AcceptEnvironment where
  channelOpen : Except ProfileStatus Unit
  receive : Except ProfileStatus Bytes
  random : Option Challenge
  send : Except ProfileStatus Unit

/-- Open the channel and negotiate an association over it. -/
def accept (options : AssociationServerOptions) (environment : AcceptEnvironment) (hls : η) :
    Except AssociationStatus AssociationServer × η :=
  if !isProfileOk environment.channelOpen then
    (.error .channelOpenFailed, hls)
  else
    match validateOptions options with
    | .error status => (.error status, hls)
    | .ok () =>
        match environment.receive with
        | .error _ => (.error .receiveFailed, hls)
        | .ok aarq =>
            match decodeAarq strategy environment.random options aarq hls with
            | (.error status, hls) => (.error status, hls)
            | (.ok server, hls) =>
                match buildAare options server, environment.send with
                | .error status, _ => (.error status, hls)
                | .ok _, .error _ => (.error .sendFailed, hls)
                | .ok _, .ok () => (.ok server, hls)

/-! ### Negotiations that succeed -/

/-- A request that came in was decoded. -/
theorem decodeAarq_of_accept (options : AssociationServerOptions)
    (environment : AcceptEnvironment) (hls after : η) (server : AssociationServer)
    (h : accept strategy options environment hls = (.ok server, after)) :
    ∃ aarq, environment.receive = .ok aarq ∧
      decodeAarq strategy environment.random options aarq hls = (.ok server, after) := by
  unfold accept at h
  by_cases hopen : !isProfileOk environment.channelOpen
  · simp [hopen] at h
  · simp only [hopen] at h
    cases hvalid : validateOptions options with
    | error status => simp [hvalid] at h
    | ok valid =>
        cases hreceive : environment.receive with
        | error status => simp [hvalid, hreceive] at h
        | ok aarq =>
            refine ⟨aarq, rfl, ?_⟩
            simp only [hvalid, hreceive, Bool.false_eq_true, if_false] at h
            -- What comes after the request was decoded can fail, but changes nothing of it.
            rcases hdecoded : decodeAarq strategy environment.random options aarq hls with
              ⟨status | decoded, hls'⟩
            · simp [hdecoded] at h
            · simp only [hdecoded] at h
              cases hbuilt : buildAare options decoded with
              | error status => simp [hbuilt] at h
              | ok aare =>
                  cases hsend : environment.send with
                  | error status =>
                      simp [hbuilt, hsend] at h
                  | ok sent => simpa only [hbuilt, hsend] using h

/-- What a decoded request was authenticated with is in the server. -/
theorem authenticateAarq_of_decodeAarq (options : AssociationServerOptions) (input : Bytes)
    (hls after : η) (server : AssociationServer)
    (h : decodeAarq strategy random options input hls = (.ok server, after)) :
    server.result.negotiatedDlmsVersionNumber = options.negotiatedDlmsVersionNumber ∧
      server.result.serverMaxReceivePduSize = options.serverMaxReceivePduSize ∧
      ∃ aarq, authenticateAarq strategy random options aarq server.result.callingApplicationTitle
        hls = (.ok (server.highLevelSecurityMechanism,
          server.result.highLevelSecurityServerChallenge), after) := by
  unfold decodeAarq at h
  cases hdecoded : Apdu.decodeAcseApdu input with
  | error status => simp [hdecoded] at h
  | ok apdu =>
      cases apdu with
      | aare aare => simp [hdecoded] at h
      | rlrq rlrq => simp [hdecoded] at h
      | rlre rlre => simp [hdecoded] at h
      | aarq aarq =>
          simp only [hdecoded] at h
          by_cases hfields : options.authenticationMode = .none ∧ hasAuthenticationFields aarq
          · rw [if_pos hfields] at h
            simp at h
          · rw [if_neg hfields] at h
            cases htitle : callingApplicationTitleOf aarq with
            | error status => simp [htitle] at h
            | ok title =>
                simp only [htitle] at h
                -- The proposals are looked at last, when the strategy has been asked.
                rcases hauth : authenticateAarq strategy random options aarq title hls with
                  ⟨status | ⟨mechanism, serverChallenge⟩, hls'⟩
                · simp [hauth] at h
                · simp only [hauth] at h
                  by_cases hproposed : aarq.initiateRequest.proposedDlmsVersionNumber = 0 ∨
                      aarq.initiateRequest.clientMaxReceivePduSize = 0
                  · rw [if_pos hproposed] at h
                    simp at h
                  · rw [if_neg hproposed] at h
                    rw [← Except.ok.inj (Prod.mk.inj h).1, ← (Prod.mk.inj h).2]
                    exact ⟨rfl, rfl, aarq, hauth⟩

/-- The strategy was asked about the client's challenge, and made the server's. -/
theorem challengeOf_of_authenticateAarq (options : AssociationServerOptions) (aarq : AarqApdu)
    (title serverChallenge : Bytes) (mechanism : HighLevelSecurityMechanism) (hls after : η)
    (hmode : options.authenticationMode = .highLevelSecurity)
    (h : authenticateAarq strategy random options aarq title hls =
      (.ok (mechanism, serverChallenge), after)) :
    ∃ clientChallenge, clientChallenge ≠ [] ∧
      challengeOf strategy random title mechanism clientChallenge hls =
        (.ok serverChallenge, after) := by
  simp only [authenticateAarq, hmode, validateHighLevelSecurityAarq] at h
  cases hfields : authenticationFields aarq with
  | none => simp [hfields] at h
  | some fields =>
      simp only [hfields] at h
      -- The fields have to say that there is a mechanism and a challenge of it.
      by_cases hrequirements : fields.1 ≠ makeSenderAcseRequirementsField
      · rw [if_pos hrequirements] at h
        simp at h
      · rw [if_neg hrequirements] at h
        split at h
        · rename_i decoded clientChallenge hmechanism hvalue
          by_cases hempty : clientChallenge = []
          · rw [if_pos hempty] at h
            simp at h
          · rw [if_neg hempty] at h
            refine ⟨clientChallenge, hempty, ?_⟩
            rcases hout : challengeOf strategy random title decoded clientChallenge hls with
              ⟨status | made, hls'⟩
            · simp [hout] at h
            · simp only [hout, Prod.mk.injEq, Except.ok.injEq] at h
              rw [← h.1.1, ← h.1.2, ← h.2, hout]
        · simp at h

/-- A negotiation that succeeded with high-level security has asked its
    strategy for the challenge it has. -/
theorem challengeOf_of_accept (options : AssociationServerOptions)
    (environment : AcceptEnvironment) (hls after : η) (server : AssociationServer)
    (hmode : options.authenticationMode = .highLevelSecurity)
    (h : accept strategy options environment hls = (.ok server, after)) :
    ∃ clientChallenge, clientChallenge ≠ [] ∧
      challengeOf strategy environment.random server.result.callingApplicationTitle
        server.highLevelSecurityMechanism clientChallenge hls =
        (.ok server.result.highLevelSecurityServerChallenge, after) := by
  rcases decodeAarq_of_accept strategy options environment hls after server h with
    ⟨input, -, hdecoded⟩
  rcases authenticateAarq_of_decodeAarq strategy environment.random options input hls after server
    hdecoded with ⟨-, -, aarq, hauth⟩
  exact challengeOf_of_authenticateAarq strategy environment.random options aarq _ _ _ hls after
    hmode hauth

end Negotiation

/-! ### The release -/

def decodeRlrq (input : Bytes) : Except AssociationStatus Unit :=
  match Apdu.decodeAcseApdu input with
  | .ok (.rlrq _) => .ok ()
  | _ => .error .decodeFailed

def buildRlre : Except AssociationStatus Bytes :=
  match Apdu.encodeAcseApdu (.rlre { fields := [], reason := none, initiate := none }) with
  | .ok output => .ok output
  | .error _ => .error .encodeFailed

/-- Answer a release request and close the channel. An answer that is not sent,
    or a channel that is not closed, leaves the association as it was. -/
def release (rlrq : Bytes) (send close : Except ProfileStatus Unit) :
    Except AssociationStatus Unit :=
  match decodeRlrq rlrq with
  | .error status => .error status
  | .ok () =>
      match buildRlre, send, close with
      | .error status, _, _ => .error status
      | .ok _, .error _, _ => .error .sendFailed
      | .ok _, .ok (), .error _ => .error .channelCloseFailed
      | .ok _, .ok (), .ok () => .ok ()

end Association

end Dlms
