import Dlms.Association.Types
import Dlms.Security.Hls

/-!
# The client end of an association

A client sends a request with the authentication fields of its mode and takes
the response apart: the outcome, what was negotiated, the peer's title, and
with high-level security the peer's challenge. Where a response has several
fields of one kind, the first title that reads well is taken, and the first
challenge has to.

The strategy of high-level security is an interface, a record of functions over
a state, as it is at the server. A challenge is made for each request, and kept
by the strategy.

## Main definitions

* `IHighLevelSecurityStrategy`: The interface of a strategy.
* `buildAarq`: The request.
* `decodeAare`: What a response leaves in the result.
* `establish`: One negotiation.
-/

namespace Dlms

namespace Association

open Apdu (Bytes AareApdu)
open Profile (ApduChannel ProfileStatus)
open Security (Challenge)

/-- A mechanism of high-level security at a client. -/
structure IHighLevelSecurityStrategy (η : Type) where
  mechanism : η → HighLevelSecurityMechanism
  buildInitialChallenge : Option Challenge → η → Except AssociationStatus Bytes × η

/-- The application context has one value in the source and is left out. -/
structure AssociationOptions where
  authenticationMode : AuthenticationMode
  lowLevelSecurityCredential : Bytes
  hasHighLevelSecurity : Bool
  callingApplicationTitle : Bytes
  proposedQualityOfService : Option UInt8
  proposedDlmsVersionNumber : UInt8
  proposedConformance : Apdu.AxdrConformance
  clientMaxReceivePduSize : UInt16
  deriving DecidableEq

def defaultAssociationOptions : AssociationOptions where
  authenticationMode := .none
  lowLevelSecurityCredential := []
  hasHighLevelSecurity := false
  callingApplicationTitle := []
  proposedQualityOfService := Apdu.makeDefaultInitiateRequest.proposedQualityOfService
  proposedDlmsVersionNumber := Apdu.makeDefaultInitiateRequest.proposedDlmsVersionNumber
  proposedConformance := Apdu.makeDefaultInitiateRequest.proposedConformance
  clientMaxReceivePduSize := Apdu.makeDefaultInitiateRequest.clientMaxReceivePduSize

/-- The client's end of an association. -/
structure AssociationClient where
  state : AssociationState := .closed
  result : AssociationResult := emptyAssociationResult
  deriving DecidableEq

namespace AssociationClient

def validateOptions (options : AssociationOptions) : Except AssociationStatus Unit :=
  if options.authenticationMode = .lowLevelSecurity ∧
      options.lowLevelSecurityCredential = [] then
    .error .unsupportedAuthentication
  else if options.authenticationMode = .lowLevelSecurity ∧
      options.lowLevelSecurityCredential.length > maxShortBerAuthenticationValueSize then
    .error .invalidArgument
  else if options.authenticationMode = .highLevelSecurity ∧
      options.callingApplicationTitle.length > maxShortBerAuthenticationValueSize then
    .error .invalidArgument
  else if options.authenticationMode = .highLevelSecurity ∧ !options.hasHighLevelSecurity then
    .error .unsupportedAuthentication
  else if options.proposedDlmsVersionNumber = 0 ∨ options.clientMaxReceivePduSize = 0 then
    .error .invalidArgument
  else
    .ok ()

/-! ### The request -/

def llsAuthenticationFields (options : AssociationOptions) : List Bytes :=
  if options.authenticationMode = .lowLevelSecurity then
    [makeSenderAcseRequirementsField, makeLowLevelSecurityMechanismField,
      makeAuthenticationValueField callingAuthenticationValueTag
        options.lowLevelSecurityCredential]
  else
    []

def titleFields (options : AssociationOptions) : List Bytes :=
  if options.callingApplicationTitle = [] then []
  else [makeOctetStringField callingApTitleTag options.callingApplicationTitle]

section Request

variable {η : Type} (strategy : IHighLevelSecurityStrategy η) (random : Option Challenge)

def hlsAuthenticationFields (options : AssociationOptions) (hls : η) :
    Except AssociationStatus (List Bytes) × η :=
  if options.authenticationMode ≠ .highLevelSecurity then
    (.ok [], hls)
  else if !options.hasHighLevelSecurity then
    (.error .unsupportedAuthentication, hls)
  else if (hlsMechanismId (strategy.mechanism hls)).isNone then
    (.error .unsupportedAuthentication, hls)
  else
    match strategy.buildInitialChallenge random hls with
    | (.error _, after) => (.error .unsupportedAuthentication, after)
    | (.ok challenge, after) =>
        if challenge = [] then
          (.error .unsupportedAuthentication, after)
        else if challenge.length > maxShortBerAuthenticationValueSize then
          (.error .invalidArgument, after)
        else
          (.ok
            [makeSenderAcseRequirementsField,
              makeHighLevelSecurityMechanismField (strategy.mechanism hls),
              makeAuthenticationValueField callingAuthenticationValueTag challenge], after)

/-- The request has the title behind a password and in front of a challenge. -/
def buildAarq (options : AssociationOptions) (hls : η) : Except AssociationStatus Bytes × η :=
  match hlsAuthenticationFields strategy random options hls with
  | (.error status, hls) => (.error status, hls)
  | (.ok hlsFields, hls) =>
      match Apdu.encodeAcseApdu (.aarq
          { fields :=
              (llsAuthenticationFields options ++ titleFields options ++ hlsFields).map rawField
            initiateRequest :=
              { Apdu.makeDefaultInitiateRequest with
                proposedQualityOfService := options.proposedQualityOfService
                proposedDlmsVersionNumber := options.proposedDlmsVersionNumber
                proposedConformance := options.proposedConformance
                clientMaxReceivePduSize := options.clientMaxReceivePduSize } }) with
      | .ok aarq => (.ok aarq, hls)
      | .error _ => (.error .encodeFailed, hls)

end Request

/-! ### The response -/

/-- The first title field that reads well. -/
def respondingApplicationTitleOf (aare : AareApdu) : Bytes :=
  (aare.fields.findSome? fun field =>
    if field.tag = respondingApTitleTag ∨ field.tag = callingApTitleTag then
      decodeTypedField field.encoded field.tag octetStringTag
    else
      none).getD []

/-- The first challenge field, which has to read well. -/
def serverChallengeOf (aare : AareApdu) : Except AssociationStatus Bytes :=
  match aare.fields.find? (·.tag == respondingAuthenticationValueTag) with
  | none => .error .decodeFailed
  | some field =>
      match decodeTypedField field.encoded respondingAuthenticationValueTag
          charstringAuthenticationValueTag with
      | none => .error .decodeFailed
      | some challenge => if challenge = [] then .error .decodeFailed else .ok challenge

/-- What a response leaves in the result, also where it is refused. -/
def decodeAare (options : AssociationOptions) (input : Bytes) (result : AssociationResult) :
    Except AssociationStatus Unit × AssociationResult :=
  match Apdu.decodeAcseApdu input with
  | .ok (.aare aare) =>
      if aare.result ≠ none ∧ aare.result ≠ some 0 then
        (.error .associationRejected, result)
      else if aare.initiateResponse.negotiatedDlmsVersionNumber = 0 ∨
          aare.initiateResponse.serverMaxReceivePduSize = 0 then
        (.error .negotiationFailed, result)
      else
        let negotiated : AssociationResult :=
          { result with
            negotiatedDlmsVersionNumber := aare.initiateResponse.negotiatedDlmsVersionNumber
            serverMaxReceivePduSize := aare.initiateResponse.serverMaxReceivePduSize
            respondingApplicationTitle := respondingApplicationTitleOf aare }
        if options.authenticationMode ≠ .highLevelSecurity then
          (.ok (), negotiated)
        else
          match serverChallengeOf aare with
          | .error status =>
              (.error status, { negotiated with highLevelSecurityServerChallenge := [] })
          | .ok challenge =>
              (.ok (), { negotiated with highLevelSecurityServerChallenge := challenge })
  | _ => (.error .decodeFailed, result)

/-! ### The negotiation -/

section Establish

variable {η χ : Type} (strategy : IHighLevelSecurityStrategy η) (channel : ApduChannel χ)
  (options : AssociationOptions) (random : Option Challenge)

/-- Send a request and take the response in. A client that has an association
    keeps it. -/
def establish (client : AssociationClient) (hls : η) (peer : χ) :
    Except AssociationStatus Unit × AssociationClient × η × χ :=
  match client.state with
  | .closed => (.error .invalidState, client, hls, peer)
  | .associated => (.error .alreadyAssociated, client, hls, peer)
  | .opened | .associating =>
      match validateOptions options with
      | .error status => (.error status, client, hls, peer)
      | .ok () =>
          match buildAarq strategy random options hls with
          | (.error status, hls) => (.error status, { state := .opened }, hls, peer)
          | (.ok aarq, hls) =>
              match channel.sendApdu aarq peer with
              | (.error _, peer) => (.error .sendFailed, { state := .opened }, hls, peer)
              | (.ok (), peer) =>
                  match channel.receiveApdu peer with
                  | (.error _, peer) => (.error .receiveFailed, { state := .opened }, hls, peer)
                  | (.ok aare, peer) =>
                      match decodeAare options aare emptyAssociationResult with
                      | (.error status, result) =>
                          (.error status, { state := .opened, result := result }, hls, peer)
                      | (.ok (), result) =>
                          (.ok (), { state := .associated, result := result }, hls, peer)

end Establish

/-! ### The channel -/

def openChannel (channelOpen : Except ProfileStatus Unit) (client : AssociationClient) :
    Except AssociationStatus Unit × AssociationClient :=
  if client.state ≠ .closed then (.ok (), client)
  else if !isProfileOk channelOpen then (.error .channelOpenFailed, client)
  else (.ok (), { state := .opened })

def close (channelClose : Except ProfileStatus Unit) (client : AssociationClient) :
    Except AssociationStatus Unit × AssociationClient :=
  if client.state = .closed then
    (.ok (), client)
  else
    match channelClose with
    | .error _ => (.error .channelCloseFailed, client)
    | .ok () => (.ok (), {})

end AssociationClient

end Association

end Dlms
