import Dlms.Endpoint.Nonces

/-!
# The tags that answer challenges

With GMAC an endpoint answers the client's challenge with a tag, made with a
nonce of its title and a counter. The counter is the strategy's own, and each
negotiation makes a strategy anew from the options, with the counter where the
options have it. So the first tags of two associations have the same nonce and,
where the challenges differ, not the same input.

A counter can also be spent without a tag, when the cipher fails. It is not up
to the nonce whether it does, so that a challenge with a tag has one with the
first counter. The nonces of a run are apart, then, exactly when it answers
replies to one challenge.

## Main definitions

* `IssuedTag`, `issuedTag`: A tag that has answered a challenge.
* `NoncesApart`: Tags over different challenges have different nonces.
* `answeredChallenges`: The challenges that were answered.
* `FromFirst`: Where there is a tag, there is one with the first nonce.

## Theorems

* `gmac_answerHlsReply`: What an answer does to the counter.
* `fromFirst_step`: What a call does to the tags.
* `noncesApart_run_iff`: The tags of a run.
-/

namespace Dlms

namespace Endpoint

open Apdu (Bytes)
open Machine (Transition run transition)
open Security (SystemTitle)
open Security.HlsGmacAuthenticator (buildTag getAuthenticationKey invocationCounterOf)
open Server (ServerContext)
open Xdlms (XdlmsServerHandler)

/-- A tag by its nonce, and the challenge it was made over. -/
structure IssuedTag where
  systemTitle : SystemTitle
  invocationCounter : UInt32
  challenge : Bytes
deriving DecidableEq

/-- Tags over different challenges have different nonces. -/
def NoncesApart (tags : List IssuedTag) : Prop :=
  ∀ tag ∈ tags, ∀ other ∈ tags, tag.challenge ≠ other.challenge →
    (tag.systemTitle, tag.invocationCounter) ≠ (other.systemTitle, other.invocationCounter)

instance (tags : List IssuedTag) : Decidable (NoncesApart tags) := by
  unfold NoncesApart
  infer_instance

section Tags

variable (ciphers : Ciphers) (options : ServerEndpointOptions) {δ : Type}
  (handler : ServerContext → XdlmsServerHandler δ)

/-- The tag of a call that has answered a challenge. -/
def issuedTag (t : EndpointTransition δ) : Option IssuedTag :=
  match t.before.1.hls, t.output.event with
  | some (.gmac strategy), .hlsReply (.answered serverResponse _) =>
      some
        { systemTitle := strategy.state.context.localSystemTitle
          invocationCounter := invocationCounterOf serverResponse
          challenge := strategy.clientChallenge }
  | _, _ => none

def issuedTags (history : List (EndpointTransition δ)) : List IssuedTag :=
  history.filterMap issuedTag

/-- The challenge of the client whose reply a call has answered. -/
def answeredChallenge (t : EndpointTransition δ) : Option Bytes :=
  match t.before.1.hls, t.output.event with
  | some (.gmac strategy), .hlsReply (.answered _ _) => some strategy.clientChallenge
  | _, _ => none

def answeredChallenges (history : List (EndpointTransition δ)) : List Bytes :=
  history.filterMap answeredChallenge

theorem challenges_of_issuedTags (history : List (EndpointTransition δ)) :
    answeredChallenges history = (issuedTags history).map IssuedTag.challenge := by
  rw [answeredChallenges, issuedTags, List.map_filterMap]
  refine congrArg (history.filterMap ·) (funext fun t => ?_)
  unfold answeredChallenge issuedTag
  split
  · rfl
  · rfl

/-! ### The strategy with GMAC -/

section Strategy

variable (strategy : ServerEndpointHlsGmacStrategy)

/-- With no counter there is a tag over the client's challenge. -/
def Tagless : Prop :=
  ∀ counter key tag, getAuthenticationKey strategy.keys = .ok key →
    buildTag ciphers.gcm strategy.state.context.localSystemTitle counter strategy.clientChallenge
      key ≠ .ok tag

/-- The strategies that differ in their counters at most. -/
structure SameTags (after : ServerEndpointHlsGmacStrategy) : Prop where
  keys : after.keys = strategy.keys
  clientChallenge : after.clientChallenge = strategy.clientChallenge
  localSystemTitle :
    after.state.context.localSystemTitle = strategy.state.context.localSystemTitle

theorem SameTags.tagless (after : ServerEndpointHlsGmacStrategy) (h : SameTags strategy after) :
    Tagless ciphers after ↔ Tagless ciphers strategy := by
  simp [Tagless, h.keys, h.clientChallenge, h.localSystemTitle]

/-- Verifying a reply uses no counter of the server. -/
theorem gmac_verifyClientResponse (response : Bytes) :
    ∃ after, ((HlsStrategy.gmac strategy).verifyClientResponse ciphers response).2 = .gmac after ∧
      SameTags strategy after ∧
      after.state.counters.nextLocalCounter = strategy.state.counters.nextLocalCounter := by
  unfold HlsStrategy.verifyClientResponse
  split_ifs
  · exact ⟨strategy, rfl, ⟨rfl, rfl, rfl⟩, rfl⟩
  · have hlocal := Security.HlsGmacAuthenticator.verifyResponse_local ciphers.gcm strategy.keys
      strategy.serverChallenge response strategy.state
    exact ⟨_, rfl, ⟨rfl, rfl, by rw [hlocal.1]⟩, hlocal.2⟩

/-- An answer under a password leaves the password. -/
theorem answerHlsReply_high (invokeIdAndPriority : UInt8) (clientResponse : Option Bytes)
    (strategy : ServerEndpointHlsHighStrategy) :
    (answerHlsReply ciphers invokeIdAndPriority clientResponse (.high strategy)).2 =
      .high strategy := by
  have hverify (response : Bytes) :
      ((HlsStrategy.high strategy).verifyClientResponse ciphers response).2 = .high strategy := by
    unfold HlsStrategy.verifyClientResponse
    split_ifs
    · rfl
    · rfl
  have hbuild : ((HlsStrategy.high strategy).buildServerResponse ciphers).2 = .high strategy := by
    unfold HlsStrategy.buildServerResponse
    split_ifs
    · rfl
    · rfl
  unfold answerHlsReply
  cases clientResponse with
  | none => rfl
  | some response =>
      have hmiddle := hverify response
      rcases hverified : (HlsStrategy.high strategy).verifyClientResponse ciphers response with
        ⟨status | valid, middle⟩
      · rw [hverified] at hmiddle
        simp only [hverified]
        exact hmiddle
      · rw [hverified] at hmiddle
        simp only at hmiddle
        simp only [hverified, hmiddle]
        rcases hbuilt : (HlsStrategy.high strategy).buildServerResponse ciphers with
          ⟨status | serverResponse, last⟩
        · rw [hbuilt] at hbuild
          exact hbuild
        · rw [hbuilt] at hbuild
          exact hbuild

/-- An answer has the next counter. Where there is none, the counter is still the
    next one or there is no tag over this challenge. -/
theorem gmac_buildServerResponse (hcipher : ciphers.gcm.TakesEveryNonce) :
    ∃ after, ((HlsStrategy.gmac strategy).buildServerResponse ciphers).2 = .gmac after ∧
      SameTags strategy after ∧
      ((∃ serverResponse tag key,
          ((HlsStrategy.gmac strategy).buildServerResponse ciphers).1 = .ok serverResponse ∧
          invocationCounterOf serverResponse = strategy.state.counters.nextLocalCounter ∧
          getAuthenticationKey strategy.keys = .ok key ∧
          buildTag ciphers.gcm strategy.state.context.localSystemTitle
            strategy.state.counters.nextLocalCounter strategy.clientChallenge key = .ok tag) ∨
        (∃ status, ((HlsStrategy.gmac strategy).buildServerResponse ciphers).1 = .error status) ∧
          (after.state.counters.nextLocalCounter = strategy.state.counters.nextLocalCounter ∨
            Tagless ciphers strategy)) := by
  unfold HlsStrategy.buildServerResponse
  split_ifs
  · exact ⟨strategy, rfl, ⟨rfl, rfl, rfl⟩, .inr ⟨⟨_, rfl⟩, .inl rfl⟩⟩
  · rcases Security.HlsGmacAuthenticator.buildResponse_cases ciphers.gcm strategy.keys
      strategy.clientChallenge strategy.state with ⟨status, h⟩ | ⟨key, counters, hkey, h⟩
    · simp only [h]
      exact ⟨strategy, rfl, ⟨rfl, rfl, rfl⟩, .inr ⟨⟨_, rfl⟩, .inl rfl⟩⟩
    · refine ⟨_, rfl, ⟨rfl, rfl, by simp [h]⟩, ?_⟩
      cases htag : buildTag ciphers.gcm strategy.state.context.localSystemTitle
          strategy.state.counters.nextLocalCounter strategy.clientChallenge key with
      | ok tag =>
          have hcounter := Security.HlsGmacAuthenticator.tag_of_buildResponse ciphers.gcm
            strategy.keys strategy.clientChallenge _ strategy.state (by rw [h, htag]; rfl)
          exact .inl ⟨_, tag, key, by simp only [h, htag]; rfl, hcounter.1, hkey, htag⟩
      | error status =>
          refine .inr ⟨⟨.securityFailed, by simp only [h, htag]; rfl⟩, .inr ?_⟩
          -- A counter that was spent for nothing would have been so with any other.
          intro counter key' tag hkey' htagged
          rw [Except.ok.inj (hkey'.symm.trans hkey)] at htagged
          rcases Security.HlsGmacAuthenticator.exists_tag_of_tag ciphers.gcm hcipher _ _
            strategy.state.counters.nextLocalCounter _ _ _ htagged with ⟨other, hother⟩
          cases htag.symm.trans hother

/-- The same for the whole answer to a reply. -/
theorem gmac_answerHlsReply (hcipher : ciphers.gcm.TakesEveryNonce) (invokeIdAndPriority : UInt8)
    (clientResponse : Option Bytes) (outcome : HlsOutcome) (replied : HlsStrategy)
    (h : answerHlsReply ciphers invokeIdAndPriority clientResponse (.gmac strategy) =
      (outcome, replied)) :
    ∃ after, replied = .gmac after ∧ SameTags strategy after ∧
      ((∃ serverResponse responseApdu, outcome = .answered serverResponse responseApdu ∧
          invocationCounterOf serverResponse = strategy.state.counters.nextLocalCounter ∧
          ¬Tagless ciphers strategy) ∨
        (∀ serverResponse responseApdu, outcome ≠ .answered serverResponse responseApdu) ∧
          (after.state.counters.nextLocalCounter = strategy.state.counters.nextLocalCounter ∨
            Tagless ciphers strategy)) := by
  unfold answerHlsReply at h
  cases clientResponse with
  | none =>
      simp only [Prod.mk.injEq] at h
      rcases h with ⟨rfl, rfl⟩
      exact ⟨strategy, rfl, ⟨rfl, rfl, rfl⟩, .inr ⟨fun _ _ h => (by cases h), .inl rfl⟩⟩
  | some response =>
      rcases gmac_verifyClientResponse ciphers strategy response with
        ⟨verified, hverified, hsame, hcounter⟩
      rcases hout : (HlsStrategy.gmac strategy).verifyClientResponse ciphers response with
        ⟨status | valid, middle⟩
      · simp only [hout, Prod.mk.injEq] at h hverified
        rcases h with ⟨rfl, rfl⟩
        exact ⟨verified, hverified, hsame, .inr ⟨fun _ _ h => (by cases h), .inl hcounter⟩⟩
      · rw [hout] at hverified
        simp only at hverified
        rw [hverified] at hout
        simp only [hout] at h
        rcases gmac_buildServerResponse ciphers verified hcipher with
          ⟨after, hafter, hsame', hbuilt⟩
        have hwhole : SameTags strategy after :=
          ⟨hsame'.keys.trans hsame.keys, hsame'.clientChallenge.trans hsame.clientChallenge,
            hsame'.localSystemTitle.trans hsame.localSystemTitle⟩
        have htagless := hsame.tagless ciphers strategy verified
        rcases hresponse : (HlsStrategy.gmac verified).buildServerResponse ciphers with
          ⟨status | serverResponse, last⟩
        · simp only [hresponse, Prod.mk.injEq] at h hafter hbuilt
          rcases h with ⟨rfl, rfl⟩
          refine ⟨after, hafter, hwhole, .inr ⟨fun _ _ h => (by cases h), ?_⟩⟩
          rcases hbuilt with ⟨_, _, _, hok, -⟩ | ⟨-, hkept⟩
          · cases hok
          · exact hkept.imp (fun hcounter' => hcounter'.trans hcounter) htagless.mp
        · simp only [hresponse, Prod.mk.injEq] at h hafter hbuilt
          rcases h with ⟨rfl, rfl⟩
          refine ⟨after, hafter, hwhole, .inl ⟨serverResponse, _, rfl, ?_⟩⟩
          rcases hbuilt with ⟨made, tag, key, hok, hmade, hkey, htag⟩ | ⟨⟨status, hfailed⟩, -⟩
          · rw [Except.ok.inj hok]
            exact ⟨hmade.trans hcounter, fun h => htagless.mpr h _ _ _ hkey htag⟩
          · cases hfailed

end Strategy

/-! ### The first tag of an association -/

/-- The nonce that a strategy is made with. -/
def firstNonce : Option (SystemTitle × UInt32) :=
  (makeHlsStrategy options.profile options.security).bind HlsStrategy.nextNonce

/-- A tag over the challenge has this nonce. -/
def HasFirst (history : List (EndpointTransition δ)) (challenge : Bytes) : Prop :=
  ∃ tag ∈ issuedTags history, tag.challenge = challenge ∧
    some (tag.systemTitle, tag.invocationCounter) = firstNonce options

/-- A strategy is at the first nonce, unless there is a tag with it over its
    challenge already or there cannot be any. -/
def Stands (history : List (EndpointTransition δ)) (strategy : ServerEndpointHlsGmacStrategy) :
    Prop :=
  (HlsStrategy.gmac strategy).nextNonce = firstNonce options ∨
    HasFirst options history strategy.clientChallenge ∨ Tagless ciphers strategy

/-- Every challenge that has a tag has one with the first nonce. -/
structure FromFirst (history : List (EndpointTransition δ)) (state : ServerEndpoint) : Prop where
  closed : state.isOpen = false → state.hlsPending = false
  tags : ∀ tag ∈ issuedTags history, HasFirst options history tag.challenge
  awaiting : ∀ strategy, state.hls = some (.gmac strategy) → state.hlsPending = true →
    Stands ciphers options history strategy

section Append

variable (history : List (EndpointTransition δ)) (t : EndpointTransition δ)

theorem issuedTags_append :
    issuedTags (history ++ [t]) = issuedTags history ++ (issuedTag t).toList := by
  rw [issuedTags, List.filterMap_append, List.filterMap_cons]
  cases issuedTag t with
  | none => rfl
  | some tag => rfl

theorem HasFirst.append (challenge : Bytes) (h : HasFirst options history challenge) :
    HasFirst options (history ++ [t]) challenge := by
  rcases h with ⟨tag, htag, hfirst⟩
  refine ⟨tag, ?_, hfirst⟩
  rw [issuedTags_append]
  exact List.mem_append_left _ htag

theorem Stands.append (strategy : ServerEndpointHlsGmacStrategy)
    (h : Stands ciphers options history strategy) :
    Stands ciphers options (history ++ [t]) strategy :=
  h.imp_right (.imp_left (HasFirst.append options history t _))

variable (state after : ServerEndpoint) (h : FromFirst ciphers options history state)
  (hclosed : after.isOpen = false → after.hlsPending = false)
include h hclosed

/-- A call that makes no tag keeps those that there are. -/
theorem FromFirst.quiet (hquiet : issuedTag t = none)
    (hawaiting : ∀ strategy, after.hls = some (.gmac strategy) → after.hlsPending = true →
      Stands ciphers options history strategy) :
    FromFirst ciphers options (history ++ [t]) after where
  closed := hclosed
  tags := by
    intro tag htag
    rw [issuedTags_append, hquiet, Option.toList_none, List.append_nil] at htag
    exact (h.tags tag htag).append options history t _
  awaiting := fun strategy hhls hwaits =>
    (hawaiting strategy hhls hwaits).append ciphers options history t strategy

/-- A tag over a challenge is the first of them, or there is one with the first
    nonce before it. -/
theorem FromFirst.tagged (tag : IssuedTag) (htag : issuedTag t = some tag)
    (hfirst : some (tag.systemTitle, tag.invocationCounter) = firstNonce options ∨
      HasFirst options history tag.challenge)
    (hawaiting : ∀ strategy, after.hls = some (.gmac strategy) →
      strategy.clientChallenge = tag.challenge) :
    FromFirst ciphers options (history ++ [t]) after := by
  have hissued : issuedTags (history ++ [t]) = issuedTags history ++ [tag] := by
    rw [issuedTags_append, htag, Option.toList_some]
  have hchallenge : HasFirst options (history ++ [t]) tag.challenge := by
    rcases hfirst with hnonce | hbefore
    · refine ⟨tag, ?_, rfl, hnonce⟩
      rw [hissued]
      exact List.mem_append_right _ (List.mem_singleton.mpr rfl)
    · exact hbefore.append options history t _
  refine ⟨hclosed, fun other hother => ?_, fun strategy hhls _ => .inr (.inl ?_)⟩
  · rw [hissued] at hother
    rcases List.mem_append.mp hother with hold | hlast
    · exact (h.tags other hold).append options history t _
    · rw [List.mem_singleton.mp hlast]
      exact hchallenge
  · rw [hawaiting strategy hhls]
    exact hchallenge

end Append

/-- A negotiation makes its strategy with the first nonce. -/
theorem nextNonce_of_acceptAssociation (environment : Association.AcceptEnvironment)
    (server : Association.AssociationServer) (after : HlsStrategy)
    (haccept : ServerEndpoint.acceptAssociation options environment = (.ok server, some after)) :
    after.nextNonce = firstNonce options := by
  cases hstrategy : makeHlsStrategy options.profile options.security with
  | none =>
      rw [ServerEndpoint.acceptAssociation, hstrategy, Prod.mk.injEq] at haccept
      exact absurd haccept.2 (by simp)
  | some strategy =>
      rcases hls_of_acceptAssociation options environment server _ strategy hstrategy haccept with
        ⟨made, hmade, -, -, -, hnonce⟩
      rw [firstNonce, hstrategy, Option.bind_some, ← hnonce, Option.some.inj hmade]

/-- The handling of a reply keeps the invariant. -/
theorem FromFirst.replied (hcipher : ciphers.gcm.TakesEveryNonce)
    (history : List (EndpointTransition δ)) (t : EndpointTransition δ)
    (state after : ServerEndpoint) (hls replied : HlsStrategy) (invokeIdAndPriority : UInt8)
    (clientResponse : Option Bytes) (outcome : HlsOutcome)
    (h : FromFirst ciphers options history state)
    (hclosed : after.isOpen = false → after.hlsPending = false)
    (hwaited : state.hlsPending = true) (hhls : state.hls = some hls)
    (hanswer : answerHlsReply ciphers invokeIdAndPriority clientResponse hls = (outcome, replied))
    (hbefore : t.before.1.hls = some hls) (hevent : t.output.event = .hlsReply outcome)
    (hafter : after.hls = some replied) :
    FromFirst ciphers options (history ++ [t]) after := by
  cases hls with
  | high strategy =>
      refine h.quiet ciphers options history t state after hclosed ?_ fun strategy' hgmac => ?_
      · unfold issuedTag
        rw [hbefore]
      · have hhigh := answerHlsReply_high ciphers invokeIdAndPriority clientResponse strategy
        rw [hanswer, ← Option.some.inj (hgmac.symm.trans hafter)] at hhigh
        cases hhigh
  | gmac strategy =>
      have hstands := h.awaiting strategy hhls hwaited
      rcases gmac_answerHlsReply ciphers strategy hcipher invokeIdAndPriority clientResponse outcome
        replied hanswer with ⟨last, rfl, hsame, hanswered⟩
      rcases hanswered with ⟨serverResponse, responseApdu, rfl, hcounter, htagged⟩ | ⟨hno, hkept⟩
      · -- The tag is made with the next nonce of the strategy.
        refine h.tagged ciphers options history t state after hclosed
          { systemTitle := strategy.state.context.localSystemTitle
            invocationCounter := invocationCounterOf serverResponse
            challenge := strategy.clientChallenge } ?_ ?_ fun strategy' hgmac => ?_
        · unfold issuedTag
          rw [hbefore, hevent]
        · rw [hcounter]
          exact hstands.imp_right (·.resolve_right htagged)
        · rw [hafter, Option.some.injEq, HlsStrategy.gmac.injEq] at hgmac
          rw [← hgmac, hsame.clientChallenge]
      · refine h.quiet ciphers options history t state after hclosed ?_ fun strategy' hgmac _ => ?_
        · unfold issuedTag
          rw [hbefore, hevent]
          cases outcome with
          | answered serverResponse responseApdu => exact absurd rfl (hno _ _)
          | _ => rfl
        · rw [hafter, Option.some.injEq, HlsStrategy.gmac.injEq] at hgmac
          rw [← hgmac]
          rcases hstands with hnonce | hbehind | htagless
          · rcases hkept with hcounter | htagless
            · left
              rw [← hnonce]
              simp [HlsStrategy.nextNonce, hsame.localSystemTitle, hcounter]
            · exact .inr (.inr ((hsame.tagless ciphers strategy last).mpr htagless))
          · rw [Stands, hsame.clientChallenge]
            exact .inr (.inl hbehind)
          · exact .inr (.inr ((hsame.tagless ciphers strategy last).mpr htagless))

/-- A call keeps the invariant. -/
theorem fromFirst_step (hcipher : ciphers.gcm.TakesEveryNonce)
    (history : List (EndpointTransition δ)) (state : ServerEndpoint × δ) (input : EndpointInput)
    (h : FromFirst ciphers options history state.1) :
    FromFirst ciphers options
      (history ++ [transition (ServerEndpoint.machineStep ciphers options handler) input state])
      (ServerEndpoint.machineStep ciphers options handler input state).2.1 := by
  have hsteps := ServerEndpoint.steps_step ciphers options handler input state.1 state.2
  generalize ht : transition (ServerEndpoint.machineStep ciphers options handler) input state = t
  have hbefore : t.before = state := by rw [← ht]; rfl
  have houtput : t.output = (ServerEndpoint.machineStep ciphers options handler input state).1 := by
    rw [← ht]; rfl
  rw [ServerEndpoint.machineStep] at houtput ⊢
  generalize ServerEndpoint.step ciphers options handler input state.1 state.2 = out at *
  -- A tag is reported as a reply to a challenge.
  have hquiet : (∀ outcome, out.1.event ≠ .hlsReply outcome) → issuedTag t = none := by
    intro hother
    unfold issuedTag
    split
    · next hevent => exact absurd (houtput ▸ hevent) (hother _)
    · rfl
  have hopened : ∀ after : ServerEndpoint, after.isOpen = true → after.isOpen = false →
      after.hlsPending = false := fun after hopen hnot =>
    absurd (hopen.symm.trans hnot) (by simp)
  cases hsteps with
  | nothing input status =>
      exact h.quiet ciphers options history t state.1 _ h.closed
        (hquiet fun _ h => by cases h) h.awaiting
  | notNegotiated environment status hls association hclosed =>
      refine h.quiet ciphers options history t state.1 _ h.closed (hquiet fun _ h => by cases h)
        fun strategy _ hwaits => ?_
      exact absurd (hwaits.symm.trans (h.closed hclosed))
        (by simp)
  | opened environment hclosed hvalid hplain =>
      exact h.quiet ciphers options history t state.1 _ (hopened _ rfl)
        (hquiet fun _ h => by cases h)
        h.awaiting
  | negotiated environment server hls remoteSystemTitle hclosed hvalid hnegotiate haccept =>
      refine h.quiet ciphers options history t state.1 _ (hopened _ rfl)
        (hquiet fun _ h => by cases h)
        fun strategy hhls _ => .inl ?_
      rw [show hls = some (.gmac strategy) from hhls] at haccept
      exact nextNonce_of_acceptAssociation options environment.accept server _ haccept
  | released environment requestApdu hopen hreceived hrelease =>
      exact h.quiet ciphers options history t state.1 _ (fun _ => rfl)
        (hquiet fun _ h => by cases h)
        fun _ h => by cases h
  | notReleased environment status hopen =>
      exact h.quiet ciphers options history t state.1 _ h.closed
        (hquiet fun _ h => by cases h) h.awaiting
  | hlsReply environment requestApdu outcome after hopen hreceived hhandled =>
      have hhandles :=
        ServerEndpoint.handlesReply_handleHlsReply ciphers options requestApdu state.1
      rw [hhandled] at hhandles
      rcases ServerEndpoint.plainRequestOf_frame ciphers options requestApdu state.1 with
        ⟨security, hsecurity⟩
      cases hhandles with
      | refused hls replied iip clientResponse outcome hpending hhls hreply hanswer hrefused =>
          rw [hsecurity]
          exact FromFirst.replied ciphers options hcipher history t state.1 _ hls replied iip
            clientResponse outcome h (hopened _ hopen) hpending hhls hanswer (by rw [hbefore, hhls])
            (by rw [houtput]) rfl
      | answered hls replied iip clientResponse serverResponse responseApdu hpending hhls hreply
          hanswer =>
          rw [hsecurity]
          exact FromFirst.replied ciphers options hcipher history t state.1 _ hls replied iip
            clientResponse _ h (hopened _ hopen) hpending hhls hanswer (by rw [hbefore, hhls])
            (by rw [houtput]) rfl
  | service environment requestApdu looked hopen hreceived hhandled result hresult =>
      rcases frame_of_handled ciphers options requestApdu state.1 looked hhandled with
        ⟨hhls, hpending, -, hstays⟩
      rw [← hresult]
      refine h.quiet ciphers options history t state.1 _ (hopened _ (hstays.trans hopen))
        (hquiet fun _ h => by cases h) fun strategy hgmac hwaits =>
          h.awaiting strategy (hhls.symm.trans hgmac) (hpending.symm.trans hwaits)
  | closed channelClose hopen =>
      exact h.quiet ciphers options history t state.1 _ (fun _ => rfl)
        (hquiet fun _ h => by cases h)
        fun _ h => by cases h

/-- Tags over different challenges have different nonces exactly in the runs that
    answer replies to one challenge. -/
theorem noncesApart_run_iff (hcipher : ciphers.gcm.TakesEveryNonce) (inputs : List EndpointInput)
    (device : δ) :
    let history := run (ServerEndpoint.machineStep ciphers options handler) inputs
      (ServerEndpoint.create options, device)
    NoncesApart (issuedTags history) ↔
      ∀ challenge ∈ answeredChallenges history, ∀ other ∈ answeredChallenges history,
        challenge = other := by
  intro history
  have hfirst : FromFirst ciphers options history _ :=
    Machine.holds_of_every_step (ServerEndpoint.machineStep ciphers options handler)
      (fun history state => FromFirst ciphers options history state.1)
      (fun history state input h => fromFirst_step ciphers options handler hcipher history state
        input h) inputs (ServerEndpoint.create options, device)
      ⟨fun _ => rfl, fun _ h => absurd h List.not_mem_nil, fun _ h => by cases h⟩
  rw [challenges_of_issuedTags]
  simp only [List.mem_map, forall_exists_index, and_imp, forall_apply_eq_imp_iff₂]
  constructor
  · intro hapart tag htag other hother
    -- Both challenges have a tag with the first nonce.
    rcases hfirst.tags tag htag with ⟨first, hmem, hchallenge, hnonce⟩
    rcases hfirst.tags other hother with ⟨first', hmem', hchallenge', hnonce'⟩
    rw [← hchallenge, ← hchallenge']
    by_contra hdifferent
    exact hapart first hmem first' hmem' hdifferent (Option.some.inj (hnonce.trans hnonce'.symm))
  · intro hone tag htag other hother hdifferent
    exact absurd (hone tag htag other hother) hdifferent

end Tags

/-- The ciphers of the two connections, with some tag where the table has none. -/
def totalCiphers : Ciphers where
  gcm :=
    { gmacCiphers.gcm with
      encrypt := fun key nonce aad input =>
        some ((gmacCiphers.gcm.encrypt key nonce aad input).getD (input, List.replicate 16 0)) }
  ecb := gmacCiphers.ecb

/-- Two associations, with the same challenge and with another. -/
theorem noncesApart_run_iff_two_associations :
    let tagsWith := fun second : List EndpointInput =>
      issuedTags (run (ServerEndpoint.machineStep totalCiphers gmacOptions fun _ => registerHandler)
        (gmacConnect ++ .close (.ok ()) :: second) (ServerEndpoint.create gmacOptions, ()))
    ((tagsWith gmacConnect).length = 2 ∧ NoncesApart (tagsWith gmacConnect)) ∧
      ¬NoncesApart (tagsWith gmacConnect') := by
  have hcipher : totalCiphers.gcm.TakesEveryNonce := fun _ _ _ _ _ _ _ _ => rfl
  have happly (second : List EndpointInput) :=
    noncesApart_run_iff totalCiphers gmacOptions (fun _ => registerHandler) hcipher
      (gmacConnect ++ .close (.ok ()) :: second) ()
  refine ⟨⟨by decide +kernel, (happly gmacConnect).mpr (by decide +kernel)⟩, fun h => ?_⟩
  exact absurd ((happly gmacConnect').mp h) (by decide +kernel)

/-- Two associations: the tags over both challenges have the first counter. -/
theorem not_noncesApart_run :
    ServerEndpoint.validateOpen gmacOptions = .ok () ∧
      ¬ NoncesApart (issuedTags (run (ServerEndpoint.machineStep gmacCiphers gmacOptions
        fun _ => registerHandler) (gmacConnect ++ .close (.ok ()) :: gmacConnect')
        (ServerEndpoint.create gmacOptions, ()))) := by
  refine ⟨by decide +kernel, by decide +kernel⟩

end Endpoint

end Dlms
