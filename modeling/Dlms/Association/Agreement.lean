import Dlms.Apdu.AssociationRoundTrip
import Dlms.Association.Handshake
import Dlms.Association.Lifecycle

/-!
# Two ends that agree

A client and a server negotiate over a link that loses messages, and each is
opened and closed by its owner at any time. The server is associated when its
answer has gone out, and the client when it has read the answer. So the server
may have an association that the client does not know of, but while both have
one they have it with the same terms.

## Main definitions

* `Delivery`, `link`: What becomes of two messages, and the channel to a server.
* `Agreed`: The two ends have the same terms.
* `PairCall`, `pairStep`: What happens at either end.

## Theorems

* `decodeAcseApdu_of_buildAare`: The answer of a server comes back.
* `decodeAare_of_agreed`: A client takes in the answer to its own request.
* `pair_agrees`: In every run, ends that are both associated agree.
-/

namespace Dlms

namespace Association

open Apdu (Bytes AareApdu AarqApdu AcseRawField FieldIsElement)
open AssociationClient (ReadsAuthentication Understood passwordOptions withoutStrategy)
open AssociationServerSession (passwordServerOptions withoutServerStrategy)
open Profile (ApduChannel ProfileStatus)
open Security (Challenge)
open Machine (run)

/-! ### The link -/

/-- Whether a message and its answer arrive, and what the server is given when it
    answers. -/
structure Delivery where
  request : Bool
  answer : Bool
  random : Option Challenge
  send : Except ProfileStatus Unit

/-- A server, and the answer that is on its way. -/
structure ServerEnd (η : Type) where
  session : AssociationServerSession
  hls : η
  answer : Option Bytes

section Link

variable {η : Type} (strategy : IHighLevelSecurityServerStrategy η)
  (options : AssociationServerOptions) (delivery : Delivery)

def ServerEnd.take (apdu : Bytes) (peer : ServerEnd η) : ServerEnd η :=
  let out := peer.session.accept strategy options (.ok apdu) delivery.random delivery.send peer.hls
  { session := out.2.1
    hls := out.2.2
    answer :=
      match out.1 with
      | .error _ => none
      | .ok () => out.2.1.association.bind fun server => (buildAare options server).toOption }

/-- The channel to the server. An answer that is not received in time is gone. -/
def link : ApduChannel (ServerEnd η) where
  sendApdu apdu peer :=
    (.ok (), if delivery.request then peer.take strategy options delivery apdu
      else { peer with answer := none })
  receiveApdu peer :=
    (if delivery.answer then peer.answer.elim (.error .timeout) .ok else .error .timeout,
      { peer with answer := none })

end Link

/-! ### The answer of a server -/

/-- The answer as a server has configured it. -/
def aareOf (options : AssociationServerOptions) (server : AssociationServer) : AareApdu where
  fields := (aareFields options server).map rawField
  result := some 0
  diagnostic := some 0x0E
  initiateResponse :=
    { negotiatedQualityOfService := none
      negotiatedDlmsVersionNumber := options.negotiatedDlmsVersionNumber
      negotiatedConformance := options.negotiatedConformance
      serverMaxReceivePduSize := options.serverMaxReceivePduSize
      vaaName := options.vaaName }

/-- A field whose tag says no number is an element, and there is nothing to it. -/
def Plain (field : AcseRawField) : Prop :=
  FieldIsElement field ∧ field.tag ≠ Apdu.associationResultTag ∧
    field.tag ≠ Apdu.resultSourceDiagnosticTag

theorem numbered_of_plain (field : AcseRawField) (h : Plain field) :
    ∃ tlv, field.element = .ok tlv ∧ Apdu.Numbered tlv := by
  rcases h with ⟨⟨htag, -, value, hsize, hencoded⟩, hresult, hdiagnostic⟩
  have hread := Codec.accepts_of_decodes _ _ _
    (Apdu.decodes_readBerTlv field.tag value htag hsize)
  rw [← hencoded] at hread
  exact ⟨_, (Apdu.element_eq_ok_iff field _).2 ⟨hread, rfl⟩, fun h => absurd h hresult,
    fun h => absurd h hdiagnostic⟩

section Answer

variable {options : AssociationServerOptions} {server : AssociationServer}
  (htitle : options.respondingApplicationTitle.length ≤ maxShortBerAuthenticationValueSize)
  (hchallenge : server.result.highLevelSecurityServerChallenge.length ≤
    maxShortBerAuthenticationValueSize)
include htitle hchallenge

/-- What stands behind the result and the diagnostic is plain. -/
theorem aareFields_cons : ∃ behind, (aareFields options server).map rawField =
    rawField makeAssociationResultField :: rawField makeResultSourceDiagnosticField :: behind ∧
      ∀ field ∈ behind, Plain field := by
  have htags : ∀ tag ∈ [respondingApTitleTag, senderAcseRequirementsTag, mechanismNameTag,
      respondingAuthenticationValueTag],
      tag ≠ Apdu.associationResultTag ∧ tag ≠ Apdu.resultSourceDiagnosticTag := by decide +kernel
  refine ⟨((aareFields options server).drop 2).map rawField, rfl, fun field hmem => ?_⟩
  rcases List.mem_map.mp hmem with ⟨encoded, hencoded, rfl⟩
  rcases List.mem_append.mp hencoded with htitled | hhls
  · split_ifs at htitled with hempty
    · exact absurd htitled List.not_mem_nil
    · rw [List.mem_singleton.mp htitled]
      exact ⟨fieldIsElement_makeTypedField _ _ _ rfl (by decide) htitle,
        htags respondingApTitleTag (by decide)⟩
  · split_ifs at hhls with hmode
    · rcases List.mem_cons.mp hhls with rfl | hhls
      · exact ⟨⟨rfl, by decide, [0x07, 0x80], by decide, rfl⟩,
          htags senderAcseRequirementsTag (by decide)⟩
      · rcases List.mem_cons.mp hhls with rfl | hhls
        · exact ⟨AssociationClient.fieldIsElement_mechanismField _,
            htags mechanismNameTag (by decide)⟩
        · rw [List.mem_singleton.mp hhls]
          exact ⟨fieldIsElement_makeTypedField _ _ _ rfl (by decide) hchallenge,
            htags respondingAuthenticationValueTag (by decide)⟩
    · exact absurd hhls List.not_mem_nil

omit htitle hchallenge in
theorem getLast?_numbers (first second : AcseRawField) (behind : List AcseRawField)
    (tag innerTag : UInt8) (hnone : ∀ field ∈ behind, field.tag ≠ tag) :
    ((first :: second :: behind).filterMap (·.number tag innerTag)).getLast? =
      ([first, second].filterMap (·.number tag innerTag)).getLast? := by
  have hbehind : behind.filterMap (·.number tag innerTag) = [] :=
    List.filterMap_eq_nil_iff.mpr fun field hmem => if_neg (hnone field hmem)
  rw [← List.append_nil ([first, second].filterMap _), ← hbehind, ← List.filterMap_append]
  rfl

/-- The answer of a server comes back. -/
theorem decodeAcseApdu_of_buildAare (bytes : Bytes) (h : buildAare options server = .ok bytes) :
    Apdu.decodeAcseApdu bytes = .ok (.aare (aareOf options server)) := by
  have hencoded : Apdu.encodeAcseApdu (.aare (aareOf options server)) = .ok bytes := by
    unfold buildAare at h
    split at h
    · rename_i output hbuilt
      rw [← Except.ok.inj h]
      exact hbuilt
    · cases h
  rcases aareFields_cons htitle hchallenge with ⟨behind, hfields, hplain⟩
  rcases hxdlms : Codec.runEmitter 256 (Apdu.encodeInitiateResponse
    (aareOf options server).initiateResponse) with status | xdlms
  · simp only [Apdu.encodeAcseApdu, Apdu.encodeAare, hxdlms, bind, Except.bind, reduceCtorEq]
      at hencoded
  · simp only [Apdu.encodeAcseApdu, Apdu.encodeAare, hxdlms, bind, Except.bind] at hencoded
    rcases Apdu.decodeInitiateResponse_of_runEmitter _ 256 xdlms hxdlms with ⟨hvalue, hlength⟩
    rcases Apdu.bytes_of_encodeAssociation Apdu.aareTag rfl _ xdlms hlength _ bytes hencoded with
      ⟨htags, hfits, rfl⟩
    have hfirst (content : Bytes) : Apdu.decodeAcseApdu (Apdu.berTlvBytes Apdu.aareTag content) =
        Apdu.AcseApdu.aare <$> Apdu.decodeAare (Apdu.berTlvBytes Apdu.aareTag content) := rfl
    have hnumbered : ∀ field ∈ (aareOf options server).fields,
        ∃ tlv, field.element = .ok tlv ∧ Apdu.Numbered tlv := by
      intro field hmem
      rw [aareOf, hfields] at hmem
      rcases List.mem_cons.mp hmem with rfl | hmem
      · exact ⟨⟨0xA2, [0xA2, 0x03], [0x02, 0x01, 0x00]⟩, rfl, fun _ => ⟨0, rfl⟩,
          fun h => absurd h (by decide)⟩
      · rcases List.mem_cons.mp hmem with rfl | hmem
        · exact ⟨⟨0xA3, [0xA3, 0x05], [0xA1, 0x03, 0x02, 0x01, 0x0E]⟩, rfl,
            fun h => absurd h (by decide), fun _ => ⟨14, rfl⟩⟩
        · exact numbered_of_plain field (hplain field hmem)
    rw [hfirst, Apdu.decodeAare_associationContent _ xdlms hlength hvalue hfits htags hnumbered]
    -- The two numbers are those of the first two fields.
    simp only [aareOf, hfields]
    rw [getLast?_numbers _ _ behind _ _ fun field hmem => (hplain field hmem).2.1,
      getLast?_numbers _ _ behind _ _ fun field hmem => (hplain field hmem).2.2]
    rfl

end Answer

/-! ### The terms -/

theorem hasAuthenticationFields_of_some (aarq : AarqApdu) (fields : Bytes × Bytes × Bytes)
    (h : authenticationFields aarq = some fields) : hasAuthenticationFields aarq = true := by
  rcases hsingle : findSingleField aarq senderAcseRequirementsTag with _ | field
  · simp [authenticationFields, hsingle] at h
  · have hmem := List.mem_singleton_self field
    rw [← AssociationServerSession.filter_of_findSingleField aarq _ field hsingle,
      List.mem_filter] at hmem
    exact List.any_eq_true.mpr ⟨field, hmem.1, by rw [hmem.2]; rfl⟩

/-- The mode that the fields of a request are for. -/
def requestMode (aarq : AarqApdu) : AuthenticationMode :=
  match authenticationFields aarq with
  | none => .none
  | some fields =>
      if (decodeHlsMechanism fields.2.1).isSome then .highLevelSecurity else .lowLevelSecurity

theorem requestMode_none (aarq : AarqApdu) (h : hasAuthenticationFields aarq = false) :
    requestMode aarq = .none := by
  rcases hfields : authenticationFields aarq with _ | fields
  · rw [requestMode, hfields]
  · cases h.symm.trans (hasAuthenticationFields_of_some aarq fields hfields)

section Request

variable {η κ : Type} {clientStrategy : IHighLevelSecurityStrategy κ}
  {strategy : IHighLevelSecurityServerStrategy η} {clientRandom random : Option Challenge}
  {options : AssociationOptions} {offered : AssociationServerOptions}
  {aarq : AarqApdu} {clientHls : κ} {hls after : η}

theorem requestMode_of_readsAuthentication
    (h : ReadsAuthentication clientStrategy clientRandom options clientHls aarq) :
    requestMode aarq = options.authenticationMode := by
  unfold ReadsAuthentication at h
  cases hmode : options.authenticationMode with
  | none =>
      rw [hmode] at h
      exact requestMode_none aarq h
  | lowLevelSecurity =>
      rw [hmode] at h
      rcases h with ⟨value, hfields, -⟩
      rw [requestMode, hfields]
      rfl
  | highLevelSecurity =>
      rw [hmode] at h
      rcases h with ⟨mechanismField, value, challenge, hfields, hmechanism, -⟩
      simp [requestMode, hfields, hmechanism]

theorem requestMode_of_validateLow (expected : Bytes)
    (h : validateLowLevelSecurityAarq aarq expected = .ok ()) :
    requestMode aarq = .lowLevelSecurity := by
  unfold validateLowLevelSecurityAarq at h
  rcases hfields : authenticationFields aarq with _ | ⟨requirements, mechanism, value⟩
  · simp [hfields] at h
  · simp only [hfields] at h
    split_ifs at h with hexpected
    rw [not_or, not_not, not_not] at hexpected
    rw [requestMode, hfields, hexpected.2]
    rfl

theorem requestMode_of_validateHigh (title : Bytes) (out : HighLevelSecurityMechanism × Bytes)
    (h : validateHighLevelSecurityAarq strategy random aarq title hls = (.ok out, after)) :
    requestMode aarq = .highLevelSecurity := by
  unfold validateHighLevelSecurityAarq at h
  rcases hfields : authenticationFields aarq with _ | ⟨requirements, mechanismField, value⟩
  · simp only [hfields] at h
    cases h
  · simp only [hfields] at h
    split_ifs at h with hrequirements
    · cases h
    · rcases hmechanism : decodeHlsMechanism mechanismField with _ | mechanism
      · simp only [hmechanism] at h
        cases h
      · simp [requestMode, hfields, hmechanism]

theorem short_of_challengeOf (title clientChallenge challenge : Bytes)
    (mechanism : HighLevelSecurityMechanism)
    (h : challengeOf strategy random title mechanism clientChallenge hls =
      (.ok challenge, after)) :
    challenge ≠ [] ∧ challenge.length ≤ maxShortBerAuthenticationValueSize := by
  unfold challengeOf at h
  split at h
  · cases h
  split at h
  · cases h
  split at h
  · cases h
  split_ifs at h with hempty hlong
  · cases h
  · cases h
  · cases h
    exact ⟨hempty, Nat.le_of_not_lt hlong⟩

variable (options offered)

/-- What a client and a server have the same of, with the challenge of the server. -/
structure Authenticated (challenge : Bytes) : Prop where
  mode : options.authenticationMode = offered.authenticationMode
  made : options.authenticationMode = .highLevelSecurity ↔ challenge ≠ []
  short : challenge.length ≤ maxShortBerAuthenticationValueSize

/-- What both ends have after a negotiation. -/
structure Agreed (result : AssociationResult) (server : AssociationServer) : Prop where
  authenticated : Authenticated options offered
    server.result.highLevelSecurityServerChallenge
  atServer : server.result =
    { negotiatedDlmsVersionNumber := offered.negotiatedDlmsVersionNumber
      serverMaxReceivePduSize := offered.serverMaxReceivePduSize
      highLevelSecurityServerChallenge := server.result.highLevelSecurityServerChallenge
      callingApplicationTitle := options.callingApplicationTitle }
  atClient : result =
    { server.result with
      callingApplicationTitle := []
      respondingApplicationTitle := offered.respondingApplicationTitle }

variable {options offered}

/-- A server that accepts the authentication of a client is in its mode. -/
theorem authenticated_of_authenticateAarq (title challenge : Bytes)
    (mechanism : HighLevelSecurityMechanism)
    (hreads : ReadsAuthentication clientStrategy clientRandom options clientHls aarq)
    (hplain : ¬(offered.authenticationMode = .none ∧ hasAuthenticationFields aarq))
    (h : authenticateAarq strategy random offered aarq title hls =
      (.ok (mechanism, challenge), after)) : Authenticated options offered challenge := by
  have hmode := requestMode_of_readsAuthentication hreads
  have hasked := challengeOf_of_authenticateAarq strategy random offered aarq title challenge
    mechanism hls after
  unfold authenticateAarq at h
  cases hserver : offered.authenticationMode with
  | none =>
      have hrequest := requestMode_none aarq
        (Bool.eq_false_iff.mpr fun hhas => hplain ⟨hserver, hhas⟩)
      rw [hmode] at hrequest
      simp only [hserver] at h
      cases h
      exact ⟨hrequest.trans hserver.symm,
        iff_of_false (by rw [hrequest]; decide) (not_not_intro rfl), Nat.zero_le _⟩
  | lowLevelSecurity =>
      simp only [hserver] at h
      split at h
      · cases h
      · rename_i hvalid
        have hrequest := requestMode_of_validateLow _ hvalid
        rw [hmode] at hrequest
        cases h
        exact ⟨hrequest.trans hserver.symm,
          iff_of_false (by rw [hrequest]; decide) (not_not_intro rfl), Nat.zero_le _⟩
  | highLevelSecurity =>
      rcases hasked hserver (by simpa only [authenticateAarq] using h) with
        ⟨clientChallenge, -, hchallenge⟩
      rcases short_of_challengeOf _ _ _ _ hchallenge with ⟨hne, hshort⟩
      simp only [hserver] at h
      have hrequest := requestMode_of_validateHigh title _ h
      rw [hmode] at hrequest
      exact ⟨hrequest.trans hserver.symm, iff_of_true hrequest hne, hshort⟩

/-- A server that accepts the request of a client has its terms from it. -/
theorem terms_of_decodeAarq (input : Bytes) (server : AssociationServer)
    (hunderstood : Understood clientStrategy clientRandom options clientHls input)
    (h : decodeAarq strategy random offered input hls = (.ok server, after)) :
    Agreed options offered
      { server.result with
        callingApplicationTitle := []
        respondingApplicationTitle := offered.respondingApplicationTitle } server := by
  rcases hunderstood with ⟨aarq, hdecoded, htitle, -, hreads⟩
  simp only [decodeAarq, hdecoded] at h
  by_cases hplain : offered.authenticationMode = .none ∧ hasAuthenticationFields aarq
  · rw [if_pos hplain] at h
    cases h
  · rw [if_neg hplain] at h
    simp only [htitle] at h
    split at h
    · cases h
    · rename_i mechanism challenge hls' hauthenticate
      split at h
      · cases h
      · cases h
        exact ⟨authenticated_of_authenticateAarq _ challenge mechanism hreads hplain hauthenticate,
          rfl, rfl⟩

/-- A client takes in the answer to its own request. -/
theorem decodeAare_of_agreed (server : AssociationServer) (result : AssociationResult)
    (bytes : Bytes) (hvalid : validateOptions offered = .ok ())
    (hagreed : Agreed options offered result server)
    (h : buildAare offered server = .ok bytes) :
    AssociationClient.decodeAare options bytes emptyAssociationResult = (.ok (), result) := by
  unfold validateOptions at hvalid
  split_ifs at hvalid with hstrategy hcredential hlong hzero
  have hshort := Nat.le_of_not_lt hlong
  have htitleValue := decodeTypedField_makeTypedField respondingApTitleTag octetStringTag _ hshort
  have htitle : AssociationClient.respondingApplicationTitleOf (aareOf offered server) =
      offered.respondingApplicationTitle := by
    unfold AssociationClient.respondingApplicationTitleOf aareOf aareFields
    by_cases hempty : offered.respondingApplicationTitle = []
    · rw [if_pos hempty, hempty]
      by_cases hmode : offered.authenticationMode = .highLevelSecurity
      · rw [if_pos hmode]
        rfl
      · rw [if_neg hmode]
        rfl
    · rw [if_neg hempty]
      have hthird (f : AcseRawField → Option Bytes) (first second third : AcseRawField)
          (behind : List AcseRawField) (title : Bytes) (h₁ : f first = none)
          (h₂ : f second = none) (h₃ : f third = some title) :
          ((first :: second :: third :: behind).findSome? f).getD [] = title := by
        simp [h₁, h₂, h₃]
      exact hthird _ _ _ _ _ _ rfl rfl htitleValue
  have hdecoded := decodeAcseApdu_of_buildAare hshort hagreed.authenticated.short bytes h
  have hclient := hagreed.atClient
  rw [hagreed.atServer] at hclient
  have haccepted : ¬((aareOf offered server).result ≠ none ∧
      (aareOf offered server).result ≠ some 0) := fun h => h.2 rfl
  have hnegotiated : ¬((aareOf offered server).initiateResponse.negotiatedDlmsVersionNumber =
      0 ∨ (aareOf offered server).initiateResponse.serverMaxReceivePduSize = 0) := hzero
  unfold AssociationClient.decodeAare
  simp only [hdecoded]
  rw [if_neg haccepted, if_neg hnegotiated, htitle]
  by_cases hmode : options.authenticationMode = .highLevelSecurity
  · have hserver := hagreed.authenticated.mode.symm.trans hmode
    have hfind : (aareOf offered server).fields.find?
        (·.tag == respondingAuthenticationValueTag) = some (rawField
          (makeAuthenticationValueField respondingAuthenticationValueTag
            server.result.highLevelSecurityServerChallenge)) := by
      unfold aareOf aareFields
      rw [if_pos hserver]
      by_cases hempty : offered.respondingApplicationTitle = []
      · rw [if_pos hempty]
        rfl
      · rw [if_neg hempty]
        rfl
    have hchallenge : AssociationClient.serverChallengeOf (aareOf offered server) =
        .ok server.result.highLevelSecurityServerChallenge := by
      rw [AssociationClient.serverChallengeOf, hfind]
      simp [rawField, makeAuthenticationValueField,
        decodeTypedField_makeTypedField _ _ _ hagreed.authenticated.short,
        if_neg (hagreed.authenticated.made.1 hmode)]
    rw [if_neg (not_not_intro hmode), hchallenge, hclient]
    rfl
  · have hempty := not_not.mp (mt hagreed.authenticated.made.2 hmode)
    rw [if_pos hmode, hclient, hempty]
    rfl

/-! ### A negotiation -/

theorem accept_built (input : Bytes) (send : Except ProfileStatus Unit)
    (session : AssociationServerSession) (hls : η) :
    let out := session.accept strategy offered (.ok input) random send hls
    ((∃ status, out.1 = .error status) ∧
      (out.2.1.state = .associated → session.state = .associated)) ∨
    ∃ server answer after, out = (.ok (), ⟨.associated, some server⟩, after) ∧
      validateOptions offered = .ok () ∧ buildAare offered server = .ok answer ∧
      decodeAarq strategy random offered input hls = (.ok server, after) := by
  unfold AssociationServerSession.accept AssociationServerSession.negotiate
  split
  · exact .inl ⟨⟨_, rfl⟩, id⟩
  · exact .inl ⟨⟨_, rfl⟩, id⟩
  all_goals
    split
    · exact .inl ⟨⟨_, rfl⟩, id⟩
    rename_i hvalid
    dsimp only
    split
    · exact .inl ⟨⟨_, rfl⟩, fun h => by cases h⟩
    rename_i server after hdecoded
    split
    · exact .inl ⟨⟨_, rfl⟩, fun h => by cases h⟩
    rename_i answer hbuilt
    split
    · exact .inl ⟨⟨_, rfl⟩, fun h => by cases h⟩
    · exact .inr ⟨server, answer, after, rfl, hvalid, hbuilt, hdecoded⟩

variable (clientStrategy strategy options offered)

/-- The server has no association from the request and does not answer, or it has
    one with the terms of the client, who takes the answer in. -/
theorem take_cases (delivery : Delivery) (input : Bytes) (peer : ServerEnd η)
    (hunderstood : Understood clientStrategy clientRandom options clientHls input) :
    let after := peer.take strategy offered delivery input
    (after.answer = none ∧
      (after.session.state = .associated → peer.session.state = .associated)) ∨
    ∃ server result answer, after.session = ⟨.associated, some server⟩ ∧
      after.answer = some answer ∧ Agreed options offered result server ∧
      AssociationClient.decodeAare options answer emptyAssociationResult = (.ok (), result) := by
  unfold ServerEnd.take
  rcases accept_built input delivery.send peer.session peer.hls with
    ⟨⟨status, hout⟩, hkept⟩ | ⟨server, answer, after, hout, hvalid, hbuilt, hdecoded⟩
  · exact .inl ⟨by simp [hout], hkept⟩
  · have hagreed := terms_of_decodeAarq input server hunderstood hdecoded
    simp only [hout, Option.bind_some, hbuilt]
    exact .inr ⟨server, _, answer, rfl, rfl, hagreed,
      decodeAare_of_agreed server _ answer hvalid hagreed hbuilt⟩

/-- A negotiation has failed at the client, and then no association has been made
    whose answer arrives, or both ends have one with the same terms. -/
theorem establish_cases (delivery : Delivery) (client : AssociationClient) (peer : ServerEnd η)
    (hsize : options.callingApplicationTitle.length ≤ maxShortBerAuthenticationValueSize)
    (hnew : client.state ≠ .associated) :
    let out := AssociationClient.establish clientStrategy (link strategy offered delivery)
      options clientRandom client clientHls peer
    (out.1 ≠ .ok () ∧ out.2.1.state ≠ .associated ∧ (delivery.answer →
      out.2.2.2.session.state = .associated → peer.session.state = .associated)) ∨
    (out.1 = .ok () ∧ ∃ server, out.2.2.2.session = ⟨.associated, some server⟩ ∧
      Agreed options offered out.2.1.result server) := by
  have hrefused (status : AssociationStatus) :
      (Except.error status : Except AssociationStatus Unit) ≠ .ok () := fun h => nomatch h
  have hopened : ({ state := .opened } : AssociationClient).state ≠ .associated :=
    fun h => nomatch h
  unfold AssociationClient.establish
  split
  · exact .inl ⟨hrefused _, hnew, fun _ => id⟩
  · exact absurd ‹_› hnew
  all_goals
    split
    · exact .inl ⟨hrefused _, hnew, fun _ => id⟩
    rename_i hvalid
    split
    · exact .inl ⟨hrefused _, hopened, fun _ => id⟩
    rename_i aarq after hbuilt
    have hunderstood := AssociationClient.understood_of_short clientStrategy clientRandom options
      clientHls after aarq hvalid hsize hbuilt
    cases harrives : delivery.answer with
    | false =>
        simp only [link, harrives, Bool.false_eq_true, if_false]
        exact .inl ⟨hrefused _, hopened, False.elim⟩
    | true =>
        cases hrequest : delivery.request with
        | false =>
            simp only [link, harrives, hrequest, Bool.false_eq_true, if_false, if_true,
              Option.elim_none]
            exact .inl ⟨hrefused _, hopened, fun _ => id⟩
        | true =>
            rcases take_cases clientStrategy strategy options offered delivery aarq peer
              hunderstood with
              ⟨hnone, hkept⟩ | ⟨server, result, answer, hsession, hanswer, hagreed, hdecoded⟩
            · simp only [link, harrives, hrequest, if_true, hnone, Option.elim_none]
              exact .inl ⟨hrefused _, hopened, fun _ => hkept⟩
            · simp only [link, harrives, hrequest, if_true, hanswer, Option.elim_some, hdecoded,
                hsession]
              exact .inr ⟨trivial, server, rfl, hagreed⟩

/-! ### Runs -/

/-- A client and its strategy, and the server. -/
structure Pair (κ η : Type) where
  client : AssociationClient
  hls : κ
  peer : ServerEnd η

/-- What happens at either end. -/
inductive PairCall where
  | establish (delivery : Delivery) (random : Option Challenge)
  | openClient (channelOpen : Except ProfileStatus Unit)
  | closeClient (channelClose : Except ProfileStatus Unit)
  | openServer (channelOpen : Except ProfileStatus Unit)
  | closeServer (channelClose : Except ProfileStatus Unit)

def pairStep (call : PairCall) (pair : Pair κ η) : Except AssociationStatus Unit × Pair κ η :=
  match call with
  | .establish delivery random =>
      let out := AssociationClient.establish clientStrategy (link strategy offered delivery)
        options random pair.client pair.hls pair.peer
      (out.1, ⟨out.2.1, out.2.2.1, out.2.2.2⟩)
  | .openClient channelOpen =>
      let out := pair.client.openChannel channelOpen
      (out.1, { pair with client := out.2 })
  | .closeClient channelClose =>
      let out := pair.client.close channelClose
      (out.1, { pair with client := out.2 })
  | .openServer channelOpen =>
      let out := pair.peer.session.openChannel channelOpen
      (out.1, { pair with peer := { pair.peer with session := out.2 } })
  | .closeServer channelClose =>
      let out := pair.peer.session.close channelClose
      (out.1, { pair with peer := { pair.peer with session := out.2 } })

/-- Ends that are both associated have the same terms. -/
def Together (pair : Pair κ η) : Prop :=
  pair.client.state = .associated → pair.peer.session.state = .associated →
    ∃ server, pair.peer.session.association = some server ∧
      Agreed options offered pair.client.result server

/-- A step keeps ends that are both associated together. -/
theorem together_pairStep (call : PairCall) (pair : Pair κ η)
    (hsize : options.callingApplicationTitle.length ≤ maxShortBerAuthenticationValueSize)
    (htogether : Together options offered pair) :
    Together options offered
      (pairStep clientStrategy strategy options offered call pair).2 := by
  cases call with
  | establish delivery random =>
      by_cases hnew : pair.client.state = .associated
      · simp only [pairStep, AssociationClient.establish, hnew]
        exact htogether
      · intro hclient hsession
        rcases establish_cases clientStrategy strategy options offered delivery pair.client
          pair.peer hsize hnew with hfailed | ⟨-, server, hserver, hagreed⟩
        · exact absurd hclient hfailed.2.1
        · exact ⟨server, congrArg AssociationServerSession.association hserver, hagreed⟩
  | openClient channelOpen =>
      simp only [pairStep, AssociationClient.openChannel]
      split_ifs
      · exact htogether
      · exact htogether
      · exact fun h => by cases h
  | closeClient channelClose =>
      simp only [pairStep, AssociationClient.close]
      split_ifs
      · exact htogether
      · cases channelClose with
        | error status => exact htogether
        | ok closed => exact fun h => by cases h
  | openServer channelOpen =>
      simp only [pairStep, AssociationServerSession.openChannel]
      split_ifs
      · exact htogether
      · exact htogether
      · exact fun _ h => by cases h
  | closeServer channelClose =>
      simp only [pairStep, AssociationServerSession.close]
      split_ifs
      · exact htogether
      · cases channelClose with
        | error status => exact htogether
        | ok closed => exact fun _ h => by cases h

/-- In every run, ends that are both associated agree, and a negotiation whose
    answer arrives succeeds exactly when the server has made an association. -/
theorem pair_agrees (calls : List PairCall) (hls : κ) (serverHls : η)
    (hsize : options.callingApplicationTitle.length ≤ maxShortBerAuthenticationValueSize) :
    ∀ t ∈ run (pairStep clientStrategy strategy options offered) calls
        ⟨{}, hls, ⟨{}, serverHls, none⟩⟩,
      Together options offered t.after ∧
        ∀ delivery random, t.input = .establish delivery random → delivery.answer →
          t.before.client.state ≠ .associated → t.before.peer.session.state ≠ .associated →
            (t.output = .ok () ↔ t.after.peer.session.state = .associated) := by
  intro t ht
  have hinvariant := Machine.invariant_run
    (pairStep clientStrategy strategy options offered) (Together options offered)
    (fun pair call => together_pairStep clientStrategy strategy options offered call pair
      hsize) calls ⟨{}, hls, ⟨{}, serverHls, none⟩⟩ (fun h => nomatch h)
  refine ⟨(hinvariant.1 t ht).2, fun delivery random hinput hanswer hnew hserver => ?_⟩
  rcases Machine.mem_run _ _ _ t ht with ⟨first, call, second, -, rfl⟩
  rw [show call = .establish delivery random from hinput]
  rcases establish_cases clientStrategy strategy options offered delivery _ _ hsize hnew with
    ⟨herror, -, hnone⟩ | ⟨hok, server, hsession, -⟩
  · exact iff_of_false herror fun hassociated => hserver (hnone hanswer hassociated)
  · exact iff_of_true hok (congrArg AssociationServerSession.state hsession)

end Request

/-- Both ends are opened, and negotiate with a password. -/
def passwordNegotiation : List PairCall :=
  [.openServer (.ok ()), .openClient (.ok ()), .establish ⟨true, true, none, .ok ()⟩ none]

theorem pair_agrees_password :
    (Machine.final (pairStep withoutStrategy withoutServerStrategy
        passwordOptions passwordServerOptions) passwordNegotiation
      ⟨{}, (), ⟨{}, (), none⟩⟩).client.state = .associated ∧
    ∀ t ∈ run (pairStep withoutStrategy withoutServerStrategy
        passwordOptions passwordServerOptions) passwordNegotiation
        ⟨{}, (), ⟨{}, (), none⟩⟩,
      Together passwordOptions passwordServerOptions t.after :=
  ⟨by decide +kernel, fun t ht =>
    (pair_agrees _ _ _ _ passwordNegotiation () () (by decide) t ht).1⟩

end Association

end Dlms
