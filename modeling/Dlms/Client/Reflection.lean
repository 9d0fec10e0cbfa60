import Mathlib.Data.List.Infix
import Dlms.Client.DlmsClient
import Dlms.Endpoint.Nonces

/-!
# Reflection

A client that authenticates its server by a challenge can be sent its own bytes
back. The peer here may do anything; a run reflects when the challenge and the
reply that came from the peer stand somewhere in what the client has sent.

The client looks at the reply alone. It compares neither the challenges nor,
with GMAC, the titles, so that a peer that sends the client's challenge back is
sent the reply it needs. An opening that succeeds has had as its reply what the
keyed function makes of the client's own challenge. In a run that reflects there
are three ways to that: the client's answer was of the same input, the function
makes the same of its input and of the peer's, or the client has sent what the
function makes of an input that it did not give it.

## Main definitions

* `Copied`, `Reflects`: Bytes that the client has sent, and runs of them.
* `KeyedInput`, `keyedInput`: What the keyed function is given for an answer.
* `Answers`: A response to a challenge is what the function makes of an input.
* `SameInput`: The answers to two challenges are of one input.

## Theorems

* `answers_of_verifyResponse`: What a client accepts.
* `answers_of_buildResponse`: What it answers with.
* `answers_of_openAssociation`: Both, for every peer.
-/

namespace Dlms

namespace Client

open Apdu (Bytes)
open Association (AssociationClient)
open Endpoint (Ciphers)
open Profile (ApduChannel)
open Security (Challenge)
open Security.CipheredApduProcessor (clientTitle meterAuthenticationKey meterEncryptionKey)

/-- A channel that also writes down what is sent. -/
def recordingChannel {χ : Type} (channel : ApduChannel χ) : ApduChannel (χ × List Bytes) where
  sendApdu := fun apdu peer =>
    let out := channel.sendApdu apdu peer.1
    (out.1, out.2, peer.2 ++ [apdu])
  receiveApdu := fun peer =>
    let out := channel.receiveApdu peer.1
    (out.1, out.2, peer.2)

/-- Bytes that stand somewhere in what was sent. -/
def Copied (sent : List Bytes) (bytes : Bytes) : Prop := ∃ apdu ∈ sent, bytes <:+: apdu

instance (sent : List Bytes) (bytes : Bytes) : Decidable (Copied sent bytes) := by
  unfold Copied
  infer_instance

/-- The challenge and the reply of the peer are copies of what the client has
    sent. -/
def Reflects {χ : Type} (outcome : OpenOutcome) (after : DlmsClient (χ × List Bytes)) : Prop :=
  Copied after.channel.2 after.association.result.highLevelSecurityServerChallenge ∧
    ∀ exchange ∈ outcome.exchange, Copied after.channel.2 exchange.serverResponse

instance {χ : Type} (outcome : OpenOutcome) (after : DlmsClient (χ × List Bytes)) :
    Decidable (Reflects outcome after) := by
  unfold Reflects
  infer_instance

section Answers

variable (ciphers : Ciphers)

/-- What a keyed function is given: a block for the password, or a nonce and
    associated data for GMAC. -/
inductive KeyedInput where
  | block (key plaintext : Bytes)
  | tag (key nonce aad : Bytes)
  deriving DecidableEq

/-- What the function makes of its input. -/
def KeyedInput.output (input : KeyedInput) : Option Bytes :=
  match input with
  | .block key plaintext => ciphers.ecb.encrypt key plaintext
  | .tag key nonce aad => (ciphers.gcm.encrypt key nonce aad []).map Prod.snd

/-- What is given for an answer that has this response: with GMAC under the title
    of the one who answers and the counter that the response has. -/
def keyedInput (title : Security.SecurityContext → Security.SystemTitle)
    (strategy : ClientHlsAssociationStrategy) (challenge response : Bytes) : Option KeyedInput :=
  match strategy.authenticator with
  | .high password =>
      some (.block (Security.HlsHighAuthenticator.passwordKey password)
        (Security.HlsHighAuthenticator.paddedChallenge challenge password))
  | .gmac keys state =>
      match Security.HlsGmacAuthenticator.getAuthenticationKey keys with
      | .error _ => none
      | .ok key =>
          some (.tag key.bytes
            ((title state.context).bytes ++ Security.writeBigEndian32
              (Security.HlsGmacAuthenticator.invocationCounterOf response))
            (Security.HlsGmacAuthenticator.buildGmacAad challenge key))

/-- What the function has made, in a response. -/
def outputOf (strategy : ClientHlsAssociationStrategy) (response : Bytes) : Bytes :=
  match strategy.authenticator with
  | .high _ => response
  | .gmac _ _ => response.drop Security.HlsGmacAuthenticator.responseHeaderSize

/-- A response to a challenge is what the function makes of this input. -/
def Answers (title : Security.SecurityContext → Security.SystemTitle)
    (strategy : ClientHlsAssociationStrategy) (challenge response : Bytes) (input : KeyedInput) :
    Prop :=
  keyedInput title strategy challenge response = some input ∧
    input.output ciphers = some (outputOf strategy response)

/-- The client's answer to one challenge and the peer's to another are of one
    input: the challenges are the same once they are filled up with zeros, or
    they are the same under one title. -/
def SameInput (strategy : ClientHlsAssociationStrategy) (challenge challenge' : Bytes) : Prop :=
  match strategy.authenticator with
  | .high password =>
      Security.HlsHighAuthenticator.paddedChallenge challenge password =
        Security.HlsHighAuthenticator.paddedChallenge challenge' password
  | .gmac _ state =>
      state.context.localSystemTitle = state.context.remoteSystemTitle ∧ challenge = challenge'

/-! ### The authenticators -/

theorem encrypt_of_transformHigh (challenge password response : Bytes)
    (h : Security.HlsHighAuthenticator.transformHigh ciphers.ecb challenge password =
      .ok response) :
    ciphers.ecb.encrypt (Security.HlsHighAuthenticator.passwordKey password)
      (Security.HlsHighAuthenticator.paddedChallenge challenge password) = some response := by
  unfold Security.HlsHighAuthenticator.transformHigh at h
  by_cases hempty : challenge = [] ∨ password = []
  · simp [hempty] at h
  · simp only [hempty, if_false] at h
    cases hencrypted : ciphers.ecb.encrypt (Security.HlsHighAuthenticator.passwordKey password)
        (Security.HlsHighAuthenticator.paddedChallenge challenge password) with
    | none => simp [hencrypted] at h
    | some output =>
        simp only [hencrypted, Except.ok.injEq] at h
        rw [h]

theorem output_of_buildTag (title : Security.SystemTitle) (counter : UInt32)
    (challenge tag : Bytes) (key : Security.SecurityKey)
    (h : Security.HlsGmacAuthenticator.buildTag ciphers.gcm title counter challenge key =
      .ok tag) :
    (KeyedInput.tag key.bytes (title.bytes ++ Security.writeBigEndian32 counter)
      (Security.HlsGmacAuthenticator.buildGmacAad challenge key)).output ciphers = some tag := by
  rcases (Security.HlsGmacAuthenticator.buildTag_eq_ok_iff ciphers.gcm _ _ _ _ _).mp h with
    ⟨-, text, hencrypted⟩
  rw [KeyedInput.output, hencrypted]
  rfl

/-- What a client accepts is an answer to its challenge. -/
theorem answers_of_verifyResponse (strategy : ClientHlsAssociationStrategy)
    (challenge response : Bytes)
    (h : (strategy.verifyResponse ciphers challenge response).1 = .ok ()) :
    ∃ input, Answers ciphers (·.remoteSystemTitle) strategy challenge response input := by
  unfold ClientHlsAssociationStrategy.verifyResponse at h
  unfold Answers keyedInput outputOf
  cases hauthenticator : strategy.authenticator with
  | high password =>
      simp only [hauthenticator, Security.HlsHighAuthenticator.verifyResponse,
        Security.HlsHighAuthenticator.buildResponse] at h ⊢
      cases hexpected : Security.HlsHighAuthenticator.transformHigh ciphers.ecb challenge
          password with
      | error status => simp [hexpected] at h
      | ok expected =>
          simp only [hexpected] at h
          -- What is accepted was compared with the answer.
          by_cases hsame : response ≠ expected
          · simp [hsame] at h
          · rw [not_not.mp hsame]
            exact ⟨_, rfl, encrypt_of_transformHigh ciphers challenge password expected hexpected⟩
  | gmac keys state =>
      simp only [hauthenticator, Security.HlsGmacAuthenticator.verifyResponse] at h ⊢
      by_cases hempty : challenge = []
      · simp [hempty] at h
      · simp only [hempty, if_false] at h
        cases hvalid : Security.HlsGmacAuthenticator.validateHlsContext state.context with
        | error status => simp [hvalid] at h
        | ok valid =>
            simp only [hvalid] at h
            split_ifs at h with hsize hcontrol
            cases hkey : Security.HlsGmacAuthenticator.getAuthenticationKey keys with
            | error status => simp [hkey] at h
            | ok key =>
                simp only [hkey] at h
                cases htag : Security.HlsGmacAuthenticator.buildTag ciphers.gcm
                    state.context.remoteSystemTitle
                    (Security.HlsGmacAuthenticator.invocationCounterOf response) challenge
                    key with
                | error status => simp [htag] at h
                | ok expectedTag =>
                    simp only [htag] at h
                    by_cases hsame :
                        response.drop Security.HlsGmacAuthenticator.responseHeaderSize ≠
                          expectedTag
                    · simp [hsame] at h
                    · rw [← not_not.mp hsame] at htag
                      exact ⟨_, rfl, output_of_buildTag ciphers _ _ _ _ key htag⟩

/-- What a client answers with is an answer of its own. -/
theorem answers_of_buildResponse (before strategy : ClientHlsAssociationStrategy)
    (challenge response : Bytes)
    (h : before.buildResponse ciphers challenge = (.ok response, strategy)) :
    ∃ input, Answers ciphers (·.localSystemTitle) strategy challenge response input := by
  unfold ClientHlsAssociationStrategy.buildResponse at h
  unfold Answers keyedInput outputOf
  cases hauthenticator : before.authenticator with
  | high password =>
      simp only [hauthenticator, Prod.mk.injEq] at h
      rcases h with ⟨hresponse, hstrategy⟩
      rw [← hstrategy]
      simp only [hauthenticator]
      exact ⟨_, rfl, encrypt_of_transformHigh ciphers challenge password response hresponse⟩
  | gmac keys state =>
      simp only [hauthenticator, Prod.mk.injEq] at h
      rcases h with ⟨hresponse, hstrategy⟩
      rcases Security.HlsGmacAuthenticator.tag_of_buildResponse ciphers.gcm keys challenge response
        state hresponse with ⟨hcounter, key, hkey, htag⟩
      have hcontext : (Security.HlsGmacAuthenticator.buildResponse ciphers.gcm keys challenge
          state).2.context = state.context := by
        rcases Security.HlsGmacAuthenticator.buildResponse_cases ciphers.gcm keys challenge
          state with ⟨status, h⟩ | ⟨_, counters, -, h⟩
        · rw [h]
        · rw [h]
      rw [← hstrategy]
      simp only [hcontext, hkey, hcounter]
      exact ⟨_, rfl, output_of_buildTag ciphers _ _ _ _ key htag⟩

/-- The challenges and the titles of one input are the same. -/
theorem sameInput_of_keyedInput (strategy : ClientHlsAssociationStrategy)
    (challenge challenge' response response' : Bytes) (input : KeyedInput)
    (hown : keyedInput (·.localSystemTitle) strategy challenge response = some input)
    (hpeers : keyedInput (·.remoteSystemTitle) strategy challenge' response' = some input) :
    SameInput strategy challenge challenge' := by
  unfold keyedInput at hown hpeers
  unfold SameInput
  cases hauthenticator : strategy.authenticator with
  | high password =>
      simp only [hauthenticator, Option.some.injEq] at hown hpeers
      exact (KeyedInput.block.inj (hown.trans hpeers.symm)).2
  | gmac keys state =>
      simp only [hauthenticator] at hown hpeers
      cases hkey : Security.HlsGmacAuthenticator.getAuthenticationKey keys with
      | error status => simp [hkey] at hown
      | ok key =>
          simp only [hkey, Option.some.injEq] at hown hpeers
          rcases KeyedInput.tag.inj (hown.trans hpeers.symm) with ⟨-, hnonce, haad⟩
          -- Title and counter have their sizes, and the challenge stands behind the key.
          have htitle := (List.append_inj hnonce (by
            rw [state.context.localSystemTitle.size, state.context.remoteSystemTitle.size])).1
          rw [Security.HlsGmacAuthenticator.buildGmacAad,
            Security.HlsGmacAuthenticator.buildGmacAad, List.cons.injEq,
            List.append_cancel_left_eq] at haad
          exact ⟨by rwa [Security.SystemTitle.mk.injEq], haad.2⟩

end Answers

/-! ### The opening -/

section Opening

variable {χ : Type} (ciphers : Ciphers) (options : DlmsClientOptions) (channel : ApduChannel χ)
  (random : Option Challenge) (responses : Nat)

/-- Sending the reply leaves the rest of a client alone. -/
theorem frame_of_sendHlsReply (encodedParameter : Bytes) (client after : DlmsClient χ)
    (out : Except Xdlms.XdlmsStatus Unit × Xdlms.ActionResult)
    (h : sendHlsReply options channel responses encodedParameter client = some (out, after)) :
    after.state = client.state ∧ after.association = client.association := by
  unfold sendHlsReply at h
  simp only at h
  split at h
  · cases h
  · rw [← (Prod.mk.inj (Option.some.inj h)).2]
    exact ⟨rfl, rfl⟩

/-- An exchange that associates has had the client's challenge answered. -/
theorem answers_of_exchangeHls (hls : ClientHlsAssociationStrategy)
    (client after : DlmsClient χ) (outcome : OpenOutcome)
    (h : exchangeHls ciphers options channel responses hls client = some (outcome, after))
    (hbefore : client.state ≠ .associated) (hassociated : after.state = .associated) :
    after.association = client.association ∧ ∃ (exchange : HlsExchange)
      (before : ClientHlsAssociationStrategy), outcome.exchange = some exchange ∧
      before.buildResponse ciphers
        client.association.result.highLevelSecurityServerChallenge =
        (.ok exchange.clientResponse, exchange.strategy) ∧
      ∃ input, Answers ciphers (·.remoteSystemTitle) exchange.strategy
        exchange.strategy.clientChallenge exchange.serverResponse input := by
  -- Whatever leaves the state as it was has not associated.
  have hkept : ∀ (kept : DlmsClient χ) (ended : OpenOutcome),
      (some (ended, kept) : Option (OpenOutcome × DlmsClient χ)) = some (outcome, after) →
        kept.state = client.state → False := by
    intro kept ended hsome hstate
    rw [← (Prod.mk.inj (Option.some.inj hsome)).2, hstate] at hassociated
    exact hbefore hassociated
  unfold exchangeHls at h
  simp only at h
  split_ifs at h with hempty
  · exact (hkept _ _ h rfl).elim
  · cases happlied : hls.applyDiscoveredRemoteSystemTitle client.association.result with
    | none =>
        rw [happlied] at h
        exact (hkept _ _ h rfl).elim
    | some applied =>
        simp only [happlied] at h
        rcases hbuilt : applied.buildResponse ciphers
          client.association.result.highLevelSecurityServerChallenge with
          ⟨status | clientResponse, strategy⟩
        · simp only [hbuilt] at h
          exact (hkept _ _ h rfl).elim
        · simp only [hbuilt] at h
          cases hencoded : encodeOctetStringData clientResponse with
          | error status =>
              simp only [hencoded] at h
              exact (hkept _ _ h rfl).elim
          | ok encodedParameter =>
              simp only [hencoded] at h
              rcases hsent : sendHlsReply options channel responses encodedParameter
                { client with hls := some strategy } with _ | ⟨⟨status | sent, result⟩, replied⟩
              · simp [hsent] at h
              · have hframe := frame_of_sendHlsReply options channel responses _ _ _ _ hsent
                simp only [hsent] at h
                exact (hkept _ _ h hframe.1).elim
              · have hframe := frame_of_sendHlsReply options channel responses _ _ _ _ hsent
                simp only [hsent] at h
                split_ifs at h with hdata
                · exact (hkept _ _ h hframe.1).elim
                · cases hdecoded : decodeOctetStringData result.data with
                  | error status =>
                      simp only [hdecoded] at h
                      exact (hkept _ _ h hframe.1).elim
                  | ok serverResponse =>
                      simp only [hdecoded, verifyHlsReply] at h
                      rcases hverified : strategy.verifyResponse ciphers strategy.clientChallenge
                        serverResponse with ⟨status | verified, last⟩
                      · simp only [hverified] at h
                        exact (hkept _ _ h hframe.1).elim
                      · simp only [hverified, Option.some.injEq, Prod.mk.injEq] at h
                        rw [← h.1, ← h.2]
                        refine ⟨hframe.2, ⟨strategy, clientResponse, serverResponse⟩, applied,
                          rfl, hbuilt, ?_⟩
                        refine answers_of_verifyResponse ciphers strategy _ _ ?_
                        rw [hverified]

/-- In a run that reflects, a client with high-level security ends associated
    only when what it was sent back is the answer to its own challenge. Its answer
    to the challenge that it was sent is then of the same input, or the function
    makes the same of the two inputs, or what it was sent back is something else
    that it has sent. -/
theorem answers_of_openAssociation (hhls : usesHls options = true)
    (client after : DlmsClient (χ × List Bytes)) (outcome : OpenOutcome)
    (hconnected : client.state = .connected)
    (h : openAssociation ciphers options (recordingChannel channel) random responses client =
      some (outcome, after))
    (hreflects : Reflects outcome after) (hassociated : after.state = .associated) :
    ∃ exchange own peers, outcome.exchange = some exchange ∧
      Answers ciphers (·.localSystemTitle) exchange.strategy
        after.association.result.highLevelSecurityServerChallenge exchange.clientResponse own ∧
      Answers ciphers (·.remoteSystemTitle) exchange.strategy exchange.strategy.clientChallenge
        exchange.serverResponse peers ∧
      (own = peers ∧ SameInput exchange.strategy
          after.association.result.highLevelSecurityServerChallenge
          exchange.strategy.clientChallenge ∨
        own ≠ peers ∧ own.output ciphers = peers.output ciphers ∨
        own.output ciphers ≠ peers.output ciphers ∧
          Copied after.channel.2 exchange.serverResponse) := by
  unfold openAssociation at h
  simp only [hconnected] at h
  generalize AssociationClient.establish clientHlsStrategy (recordingChannel channel)
    (makeAssociationOptions options client.hls.isSome) random client.association client.hls
    client.channel = established at h
  -- A client that ends connected is not associated.
  have hnot : ∀ (kept : DlmsClient (χ × List Bytes)) (ended : OpenOutcome),
      some (ended, kept) = some (outcome, after) → kept.state = .connected → False := by
    intro kept ended hsome hstate
    rw [← (Prod.mk.inj (Option.some.inj hsome)).2, hstate] at hassociated
    cases hassociated
  cases hestablished : ofAssociation established.1 with
  | error status =>
      simp only [hestablished] at h
      exact (hnot _ _ h rfl).elim
  | ok done =>
      simp only [hestablished, hhls, Bool.not_true, Bool.false_eq_true, if_false] at h
      cases hstrategy : established.2.2.1 with
      | none =>
          simp only [hstrategy] at h
          exact (hnot _ _ h rfl).elim
      | some hls =>
          simp only [hstrategy] at h
          -- It is associated by the exchange, whose answer it has verified.
          rcases answers_of_exchangeHls ciphers options (recordingChannel channel) responses hls _
            after outcome h (by simp)
            hassociated with ⟨hassociation, exchange, before, hexchange, hbuilt, peers, hpeers⟩
          rcases answers_of_buildResponse ciphers before exchange.strategy _ _ hbuilt with
            ⟨own, hown⟩
          rw [hassociation]
          refine ⟨exchange, own, peers, hexchange, hown, hpeers, ?_⟩
          by_cases hsame : own = peers
          · exact .inl ⟨hsame, sameInput_of_keyedInput exchange.strategy _ _ _ _ own hown.1
              (hsame ▸ hpeers.1)⟩
          · by_cases houtput : own.output ciphers = peers.output ciphers
            · exact .inr (.inl ⟨hsame, houtput⟩)
            · exact .inr (.inr ⟨houtput, hreflects.2 exchange hexchange⟩)

end Opening

/-! ### A peer that sends the client's bytes back -/

/-- The options of a client with the password `12345678`, or with the keys of the
    meter and no title of the peer. -/
def reflectedOptions (mode : ClientAuthenticationMode) : DlmsClientOptions where
  authenticationMode := mode
  securityMode := .none
  lowLevelSecurityCredential := []
  highLevelSecurityPassword := [0x31, 0x32, 0x33, 0x34, 0x35, 0x36, 0x37, 0x38]
  security :=
    { clientSystemTitle := .ofBytes clientTitle
      serverSystemTitle := .zero
      globalUnicastEncryptionKey := ⟨meterEncryptionKey, rfl⟩
      authenticationKey := ⟨meterAuthenticationKey, rfl⟩
      invocationCounter := 1 }
  association := Association.defaultAssociationOptions
  clientSap := 16
  serverSap := 1

/-- What the keyed functions make of the client's challenge. -/
def reflectedCiphers : Ciphers where
  gcm := Endpoint.gmacCiphers.gcm
  ecb := Endpoint.passwordCiphers.ecb

/-- A channel whose peer answers with what is prepared, whatever it is sent. -/
def preparedChannel : ApduChannel (List Bytes) where
  sendApdu := fun _ answers => (.ok (), answers)
  receiveApdu := fun answers =>
    match answers with
    | [] => (.error .timeout, [])
    | answer :: later => (.ok answer, later)

/-- An association response with the client's challenge as the server's. -/
def reflectedAare (size mechanism : UInt8) (title : Bytes) : Bytes :=
  [0x61, size, 0xA2, 0x03, 0x02, 0x01, 0x00, 0xA3, 0x05, 0xA1, 0x03, 0x02, 0x01, 0x0E] ++ title ++
    [0x8A, 0x02, 0x07, 0x80, 0x8B, 0x07, 0x60, 0x85, 0x74, 0x05, 0x08, 0x02, mechanism, 0xAA, 0x12,
      0x80, 0x10] ++ Endpoint.firstServerChallenge.bytes ++
    [0xBE, 0x10, 0x04, 0x0E, 0x08, 0x00, 0x06, 0x5F, 0x1F, 0x04, 0x00, 0x00, 0x7E, 0x1F, 0x02,
      0x00, 0x00, 0x07]

/-- A response to the client's reply with this as the server's. -/
def reflectedReply (reply : Bytes) : Bytes :=
  [0xC7, 0x01, 0x81, 0x00, 0x01, 0x00, 0x09, UInt8.ofNat reply.length] ++ reply

/-- The two answers of the peer: the client's challenge, with GMAC also its title,
    and its reply. -/
def reflectedAnswers (mode : ClientAuthenticationMode) : List Bytes :=
  match mode with
  | .highLevelSecurityGmac =>
      [reflectedAare 0x4B 0x05 ([0xA4, 0x0A, 0x04, 0x08] ++ clientTitle),
        reflectedReply
          [0x10, 0x00, 0x00, 0x00, 0x01, 0x65, 0xEF, 0x78, 0x40, 0xEC, 0x86, 0x34, 0x2B, 0x9C, 0x2C,
            0x05, 0x72, 0x9D, 0x48, 0x58, 0xB2]]
  | _ =>
      [reflectedAare 0x3F 0x02 [],
        reflectedReply
          [0x9F, 0x7A, 0x5F, 0x66, 0xE7, 0x50, 0x15, 0xCC, 0x00, 0xF0, 0xD1, 0x8C, 0x0B, 0x50, 0xA2,
            0xA0]]

/-- The opening against this peer. -/
def reflectedOpening (mode : ClientAuthenticationMode) :
    Option (OpenOutcome × DlmsClient (List Bytes × List Bytes)) :=
  openAssociation reflectedCiphers (reflectedOptions mode) (recordingChannel preparedChannel)
    (some Endpoint.firstServerChallenge) 1
    (connected (reflectedOptions mode) (reflectedAnswers mode, []))

/-- The opening is answered with what the function makes of the input that the
    client has given it. -/
def OwnInputAnswered (mode : ClientAuthenticationMode) : Prop :=
  ∃ outcome after exchange input, reflectedOpening mode = some (outcome, after) ∧
    outcome.exchange = some exchange ∧
    Answers reflectedCiphers (·.localSystemTitle) exchange.strategy
      after.association.result.highLevelSecurityServerChallenge exchange.clientResponse input ∧
    Answers reflectedCiphers (·.remoteSystemTitle) exchange.strategy
      exchange.strategy.clientChallenge exchange.serverResponse input ∧
    SameInput exchange.strategy after.association.result.highLevelSecurityServerChallenge
      exchange.strategy.clientChallenge

/-- With both mechanisms this peer has the answer to the client's challenge: the
    client has sent it, as its answer to the same challenge. -/
theorem answers_of_openAssociation_reflected :
    OwnInputAnswered .highLevelSecurity ∧ OwnInputAnswered .highLevelSecurityGmac := by
  suffices hmodes : ∀ mode ∈ [ClientAuthenticationMode.highLevelSecurity, .highLevelSecurityGmac],
      OwnInputAnswered mode from ⟨hmodes _ (by decide), hmodes _ (by decide)⟩
  intro mode hmode
  have hhls : usesHls (reflectedOptions mode) = true := by
    revert mode
    decide
  have hreflects : (reflectedOpening mode).any (fun out => decide (Reflects out.1 out.2) &&
      out.2.state == .associated) = true := by
    revert mode
    decide +kernel
  -- The two inputs are computed from the exchange.
  have hinputs : (reflectedOpening mode).all (fun out => out.1.exchange.all fun exchange =>
      keyedInput (·.localSystemTitle) exchange.strategy
          out.2.association.result.highLevelSecurityServerChallenge exchange.clientResponse ==
        keyedInput (·.remoteSystemTitle) exchange.strategy exchange.strategy.clientChallenge
          exchange.serverResponse) = true := by
    revert mode
    decide +kernel
  rcases hopening : reflectedOpening mode with _ | ⟨outcome, after⟩
  · rw [hopening] at hreflects
    exact absurd hreflects (by simp [Option.any_none])
  · rw [hopening, Option.any_some, Bool.and_eq_true, decide_eq_true_eq, beq_iff_eq] at hreflects
    rw [hopening, Option.all_some] at hinputs
    rcases answers_of_openAssociation reflectedCiphers (reflectedOptions mode) preparedChannel
      (some Endpoint.firstServerChallenge) 1 hhls
      (connected (reflectedOptions mode) (reflectedAnswers mode, [])) after outcome rfl hopening
      hreflects.1 hreflects.2 with ⟨exchange, own, peers, hexchange, hown, hpeers, hcases⟩
    rw [hexchange, Option.all_some, beq_iff_eq] at hinputs
    have hsame : own = peers :=
      Option.some.inj (hown.1.symm.trans (hinputs.trans hpeers.1))
    rw [← hsame] at hpeers hcases
    refine ⟨outcome, after, exchange, own, hopening, hexchange, hown, hpeers, ?_⟩
    rcases hcases with ⟨-, hinput⟩ | ⟨hdiffer, -⟩ | ⟨hdiffer, -⟩
    · exact hinput
    · exact absurd rfl hdiffer
    · exact absurd rfl hdiffer

/-- With both mechanisms a run that reflects ends associated. -/
theorem associated_of_reflectedOpening :
    [ClientAuthenticationMode.highLevelSecurity, .highLevelSecurityGmac].all (fun mode =>
      decide (validateDlmsClientOptions (reflectedOptions mode) = .ok ()) &&
        usesHls (reflectedOptions mode) && (reflectedOpening mode).any (fun out =>
          decide (Reflects out.1 out.2) && out.2.state == .associated)) = true := by
  decide +kernel

end Client

end Dlms
