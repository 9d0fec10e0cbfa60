import Dlms.Association.Server
import Dlms.Machine.Run

/-!
# The states of a server

A server is closed, open or associated between two calls, and associating only
inside one. Each call checks the state first, and a call in the wrong state
changes nothing: a server that is not open refuses to negotiate, and one that
has an association already says so.

A negotiation goes through five steps that can each fail, and every failure
takes the server back to where it was open. The server is associated behind the
last of them only, when the answer has gone out. What a negotiation that failed
leaves in the result is cleared by the next one, so the result is kept here for
an association only.

## Main definitions

* `AssociationServerSession`: A server in one of its states.
* `ServerCall`, `call`: The calls and what they do.
* `CredentialAccepted`: The request a server with a password accepts.

## Theorems

* `accept_cases`: What a negotiation leaves behind, however it ends.
* `credentialAccepted_of_decodeAarq`: What a server with a password has checked.
* `call_accept_sound`: In every run, what an association rests on and what a
  failure leaves.
-/

namespace Dlms

namespace Association

open Apdu (Bytes AcseRawField AarqApdu)
open Profile (ProfileStatus)
open Security (Challenge)
open Machine (Transition run)

/-- A server in one of its states, with the result of its association. -/
structure AssociationServerSession where
  state : AssociationState := .closed
  association : Option AssociationServer := none
  deriving DecidableEq

/-- The calls of a server, each with what the channel does in it. -/
inductive ServerCall where
  | openChannel (channelOpen : Except ProfileStatus Unit)
  | accept (receive : Except ProfileStatus Bytes) (random : Option Challenge)
      (send : Except ProfileStatus Unit)
  | release (receive : Except ProfileStatus Bytes) (send close : Except ProfileStatus Unit)
  | releaseWith (rlrq : Bytes) (send close : Except ProfileStatus Unit)
  | close (channelClose : Except ProfileStatus Unit)

namespace AssociationServerSession

def openChannel (channelOpen : Except ProfileStatus Unit) (session : AssociationServerSession) :
    Except AssociationStatus Unit × AssociationServerSession :=
  if session.state ≠ .closed then
    (.ok (), session)
  else if !isProfileOk channelOpen then
    (.error .channelOpenFailed, session)
  else
    (.ok (), { state := .opened, association := none })

def close (channelClose : Except ProfileStatus Unit) (session : AssociationServerSession) :
    Except AssociationStatus Unit × AssociationServerSession :=
  if session.state = .closed then
    (.ok (), session)
  else
    match channelClose with
    | .error _ => (.error .channelCloseFailed, session)
    | .ok () => (.ok (), { state := .closed, association := none })

/-- Release the association and close the channel. -/
def releaseWith (rlrq : Bytes) (send close : Except ProfileStatus Unit)
    (session : AssociationServerSession) :
    Except AssociationStatus Unit × AssociationServerSession :=
  if session.state ≠ .associated then
    (.error .invalidState, session)
  else
    match Association.release rlrq send close with
    | .error status => (.error status, session)
    | .ok () => (.ok (), { state := .closed, association := none })

def release (receive : Except ProfileStatus Bytes) (send close : Except ProfileStatus Unit)
    (session : AssociationServerSession) :
    Except AssociationStatus Unit × AssociationServerSession :=
  if session.state ≠ .associated then
    (.error .invalidState, session)
  else
    match receive with
    | .error _ => (.error .receiveFailed, session)
    | .ok rlrq => releaseWith rlrq send close session

section Calls

variable {η : Type} (strategy : IHighLevelSecurityServerStrategy η)
  (options : AssociationServerOptions)

/-- The part of a negotiation in which the server is associating. -/
def negotiate (receive : Except ProfileStatus Bytes) (random : Option Challenge)
    (send : Except ProfileStatus Unit) (session : AssociationServerSession) (hls : η) :
    Except AssociationStatus Unit × AssociationServerSession × η :=
  match receive with
  | .error _ => (.error .receiveFailed, { session with state := .opened }, hls)
  | .ok aarq =>
      match decodeAarq strategy random options aarq hls with
      | (.error status, hls) => (.error status, { session with state := .opened }, hls)
      | (.ok server, hls) =>
          match buildAare options server with
          | .error status => (.error status, { session with state := .opened }, hls)
          | .ok _ =>
              match send with
              | .error _ => (.error .sendFailed, { session with state := .opened }, hls)
              | .ok () => (.ok (), { state := .associated, association := server }, hls)

/-- Negotiate an association. -/
def accept (receive : Except ProfileStatus Bytes) (random : Option Challenge)
    (send : Except ProfileStatus Unit) (session : AssociationServerSession) (hls : η) :
    Except AssociationStatus Unit × AssociationServerSession × η :=
  match session.state with
  | .closed => (.error .invalidState, session, hls)
  | .associated => (.error .alreadyAssociated, session, hls)
  | .opened | .associating =>
      match validateOptions options with
      | .error status => (.error status, session, hls)
      | .ok () =>
          negotiate strategy options receive random send
            { state := .associating, association := none } hls

/-- One call of a server and its strategy. -/
def call (input : ServerCall) (state : AssociationServerSession × η) :
    Except AssociationStatus Unit × AssociationServerSession × η :=
  match input with
  | .openChannel channelOpen =>
      let out := openChannel channelOpen state.1
      (out.1, out.2, state.2)
  | .accept receive random send => accept strategy options receive random send state.1 state.2
  | .release receive send close =>
      let out := release receive send close state.1
      (out.1, out.2, state.2)
  | .releaseWith rlrq send close =>
      let out := releaseWith rlrq send close state.1
      (out.1, out.2, state.2)
  | .close channelClose =>
      let out := close channelClose state.1
      (out.1, out.2, state.2)

/-- A new server is opened and accepts, over one channel. -/
def openAndAccept (environment : AcceptEnvironment) (hls : η) :
    Except AssociationStatus AssociationServer × η :=
  match openChannel environment.channelOpen {} with
  | (.error status, _) => (.error status, hls)
  | (.ok (), opened) =>
      match accept strategy options environment.receive environment.random environment.send opened
        hls with
      | (.error status, _, hls) => (.error status, hls)
      | (.ok (), { association := some server, .. }, hls) => (.ok server, hls)
      | (.ok (), { association := none, .. }, hls) => (.error .invalidState, hls)

/-- The negotiation that opens its channel is what the two calls of a server come to. -/
theorem accept_eq_openAndAccept (environment : AcceptEnvironment) (hls : η) :
    Association.accept strategy options environment hls =
      openAndAccept strategy options environment hls := by
  have hclosed : ¬({} : AssociationServerSession).state ≠ .closed := not_not.mpr rfl
  rw [Association.accept, openAndAccept, openChannel, if_neg hclosed]
  by_cases hopen : !isProfileOk environment.channelOpen
  · rw [if_pos hopen, if_pos hopen]
  · rw [if_neg hopen, if_neg hopen]
    simp only [accept]
    cases validateOptions options with
    | error status => rfl
    | ok valid =>
        simp only [negotiate]
        cases environment.receive with
        | error status => rfl
        | ok aarq =>
            -- What is left is the answer: it is built and sent, or there is no association.
            rcases hdecoded : decodeAarq strategy environment.random options aarq hls with
              ⟨status | server, after⟩
            · simp [hdecoded]
            · cases hbuilt : buildAare options server with
              | error status => simp [hdecoded, hbuilt]
              | ok aare => cases hsent : environment.send <;> simp [hdecoded, hbuilt]

/-! ### What a server with a password has checked -/

/-- The request has exactly one field of each of the three kinds: the
    requirements, the mechanism of passwords, and the configured password. -/
structure CredentialAccepted (aarq : AarqApdu) : Prop where
  requirements : ∃ field, aarq.fields.filter (·.tag == senderAcseRequirementsTag) = [field] ∧
    field.encoded = makeSenderAcseRequirementsField
  mechanism : ∃ field, aarq.fields.filter (·.tag == mechanismNameTag) = [field] ∧
    field.encoded = makeLowLevelSecurityMechanismField
  credential : ∃ field, aarq.fields.filter (·.tag == callingAuthenticationValueTag) = [field] ∧
    decodeTypedField field.encoded callingAuthenticationValueTag
      charstringAuthenticationValueTag = some options.lowLevelSecurityCredential

theorem filter_of_findSingleField (aarq : AarqApdu) (tag : UInt8) (field : AcseRawField)
    (h : findSingleField aarq tag = some field) : aarq.fields.filter (·.tag == tag) = [field] := by
  unfold findSingleField at h
  split at h
  · rename_i single hfilter
    rw [hfilter, Option.some.inj h]
  · simp at h

theorem credentialAccepted_of_validate (aarq : AarqApdu)
    (h : validateLowLevelSecurityAarq aarq options.lowLevelSecurityCredential = .ok ()) :
    CredentialAccepted options aarq := by
  unfold validateLowLevelSecurityAarq at h
  -- The three fields are each the only one with its tag.
  rcases hrequirements : findSingleField aarq senderAcseRequirementsTag with _ | requirements
  · simp [authenticationFields, hrequirements] at h
  rcases hmechanism : findSingleField aarq mechanismNameTag with _ | mechanism
  · simp [authenticationFields, hrequirements, hmechanism] at h
  rcases hvalue : findSingleField aarq callingAuthenticationValueTag with _ | value
  · simp [authenticationFields, hrequirements, hmechanism, hvalue] at h
  have hfields : authenticationFields aarq =
      some (requirements.encoded, mechanism.encoded, value.encoded) := by
    simp [authenticationFields, hrequirements, hmechanism, hvalue]
  simp only [hfields] at h
  by_cases hexpected : requirements.encoded ≠ makeSenderAcseRequirementsField ∨
      mechanism.encoded ≠ makeLowLevelSecurityMechanismField
  · rw [if_pos hexpected] at h
    simp at h
  · rw [if_neg hexpected] at h
    rw [not_or, not_not, not_not] at hexpected
    rcases hcredential : decodeTypedField value.encoded callingAuthenticationValueTag
        charstringAuthenticationValueTag with _ | credential
    · simp [hcredential] at h
    · simp only [hcredential] at h
      by_cases hother : credential ≠ options.lowLevelSecurityCredential
      · rw [if_pos hother] at h
        simp at h
      · rw [not_not] at hother
        rw [hother] at hcredential
        exact ⟨⟨requirements, filter_of_findSingleField _ _ _ hrequirements, hexpected.1⟩,
          ⟨mechanism, filter_of_findSingleField _ _ _ hmechanism, hexpected.2⟩,
          ⟨value, filter_of_findSingleField _ _ _ hvalue, hcredential⟩⟩

/-- A request that a server with a password has decoded was accepted for it. -/
theorem credentialAccepted_of_decodeAarq (random : Option Challenge) (input : Bytes)
    (hls after : η) (server : AssociationServer)
    (hmode : options.authenticationMode = .lowLevelSecurity)
    (h : decodeAarq strategy random options input hls = (.ok server, after)) :
    ∃ aarq, Apdu.decodeAcseApdu input = .ok (.aarq aarq) ∧ CredentialAccepted options aarq := by
  unfold decodeAarq at h
  rcases hdecoded : Apdu.decodeAcseApdu input with status | (aarq | aare | rlrq | rlre)
  · simp [hdecoded] at h
  · refine ⟨aarq, rfl, ?_⟩
    simp only [hdecoded] at h
    by_cases hfields : options.authenticationMode = .none ∧ hasAuthenticationFields aarq
    · rw [if_pos hfields] at h
      simp at h
    · rw [if_neg hfields] at h
      rcases htitle : callingApplicationTitleOf aarq with status | title
      · simp [htitle] at h
      · rcases hvalid : validateLowLevelSecurityAarq aarq options.lowLevelSecurityCredential with
          status | valid
        · simp [htitle, authenticateAarq, hmode, hvalid] at h
        · exact credentialAccepted_of_validate options aarq hvalid
  · simp [hdecoded] at h
  · simp [hdecoded] at h
  · simp [hdecoded] at h

/-! ### What a negotiation leaves behind -/

/-- How a negotiation can end: refused where it stood, failed and open again, or
    with the association of a request that was decoded. -/
inductive AcceptOutcome (receive : Except ProfileStatus Bytes) (random : Option Challenge)
    (session : AssociationServerSession) (hls : η) :
    Except AssociationStatus Unit × AssociationServerSession × η → Prop where
  | refused (status : AssociationStatus) :
      AcceptOutcome receive random session hls (.error status, session, hls)
  | failed (status : AssociationStatus) (after : η)
      (hstate : session.state = .opened ∨ session.state = .associating) :
      AcceptOutcome receive random session hls
        (.error status, { state := .opened, association := none }, after)
  | associated (input : Bytes) (server : AssociationServer) (after : η)
      (hreceive : receive = .ok input)
      (hdecoded : decodeAarq strategy random options input hls = (.ok server, after)) :
      AcceptOutcome receive random session hls
        (.ok (), { state := .associated, association := server }, after)

/-- Every failure behind the first check takes the server back to open. -/
theorem negotiate_cases (receive : Except ProfileStatus Bytes) (random : Option Challenge)
    (send : Except ProfileStatus Unit) (session : AssociationServerSession) (hls : η)
    (hstate : session.state = .opened ∨ session.state = .associating) :
    AcceptOutcome strategy options receive random session hls
      (negotiate strategy options receive random send
        { state := .associating, association := none } hls) := by
  unfold negotiate
  cases hreceive : receive with
  | error status => exact .failed .receiveFailed hls hstate
  | ok input =>
      rcases hdecoded : decodeAarq strategy random options input hls with ⟨status | server, after⟩
      · simp only [hdecoded]
        exact .failed status after hstate
      · cases hbuilt : buildAare options server with
        | error status =>
            simp only [hdecoded, hbuilt]
            exact .failed status after hstate
        | ok aare =>
            cases hsent : send with
            | error status =>
                simp only [hdecoded, hbuilt]
                exact .failed .sendFailed after hstate
            | ok sent =>
                simp only [hdecoded, hbuilt]
                exact .associated input server after rfl hdecoded

theorem accept_cases (receive : Except ProfileStatus Bytes) (random : Option Challenge)
    (send : Except ProfileStatus Unit) (session : AssociationServerSession) (hls : η) :
    AcceptOutcome strategy options receive random session hls
      (accept strategy options receive random send session hls) := by
  have hentered (hstate : session.state = .opened ∨ session.state = .associating) :
      AcceptOutcome strategy options receive random session hls
        (match validateOptions options with
        | .error status => (.error status, session, hls)
        | .ok () => negotiate strategy options receive random send
            { state := .associating, association := none } hls) := by
    cases hvalid : validateOptions options with
    | error status => exact .refused status
    | ok valid => exact negotiate_cases strategy options receive random send session hls hstate
  unfold accept
  cases hstate : session.state with
  | closed => exact .refused .invalidState
  | associated => exact .refused .alreadyAssociated
  | opened => exact hentered (Or.inl hstate)
  | associating => exact hentered (Or.inr hstate)

/-! ### Whole runs -/

/-- A release leaves the server as it was or closed. -/
theorem releaseWith_state (rlrq : Bytes) (send close : Except ProfileStatus Unit)
    (session : AssociationServerSession) :
    (releaseWith rlrq send close session).2 = session ∨
      (releaseWith rlrq send close session).2.state = .closed := by
  unfold releaseWith
  split_ifs with hstate
  · exact Or.inl rfl
  · cases Association.release rlrq send close with
    | error status => exact Or.inl rfl
    | ok released => exact Or.inr rfl

theorem release_state (receive : Except ProfileStatus Bytes)
    (send close : Except ProfileStatus Unit) (session : AssociationServerSession) :
    (release receive send close session).2 = session ∨
      (release receive send close session).2.state = .closed := by
  unfold release
  split_ifs with hstate
  · exact Or.inl rfl
  · cases receive with
    | error status => exact Or.inl rfl
    | ok rlrq => exact releaseWith_state rlrq send close session

/-- No call leaves the server associating, if none has before. -/
theorem call_state (input : ServerCall) (state : AssociationServerSession × η)
    (h : state.1.state ≠ .associating) :
    (call strategy options input state).2.1.state ≠ .associating := by
  rcases state with ⟨session, hls⟩
  have hclosed : AssociationState.closed ≠ .associating := by simp
  cases input with
  | openChannel channelOpen =>
      simp only [call, openChannel]
      split_ifs
      · exact h
      · exact h
      · simp
  | accept receive random send =>
      -- Accepting starts and ends in one call, with the session associated or opened again.
      have houtcome := accept_cases strategy options receive random send session hls
      simp only [call]
      generalize accept strategy options receive random send session hls = out at houtcome
      cases houtcome with
      | refused status => exact h
      | failed status after hstate => simp
      | associated input server after hreceive hdecoded =>
          simp
  | release receive send close =>
      simp only [call]
      rcases release_state receive send close session with hsame | hstate
      · rw [hsame]
        exact h
      · rw [hstate]
        exact hclosed
  | releaseWith rlrq send close =>
      simp only [call]
      rcases releaseWith_state rlrq send close session with hsame | hstate
      · rw [hsame]
        exact h
      · rw [hstate]
        exact hclosed
  | close channelClose =>
      simp only [call, close]
      split_ifs
      · exact h
      · cases channelClose with
        | error status => exact h
        | ok closed => exact hclosed

/-- What an Accept owes to its caller: where it fails the state is the one it
    found, and where it makes an association with a password the request had
    that password, in exactly one field of each kind. -/
def AcceptSound (receive : Except ProfileStatus Bytes)
    (t : Transition ServerCall (Except AssociationStatus Unit) (AssociationServerSession × η)) :
    Prop :=
  (t.output ≠ .ok () → t.after.1.state = t.before.1.state) ∧
    (options.authenticationMode = .lowLevelSecurity → t.before.1.state ≠ .associated →
      t.after.1.state = .associated → ∃ input aarq, receive = .ok input ∧
        Apdu.decodeAcseApdu input = .ok (.aarq aarq) ∧ CredentialAccepted options aarq)

theorem acceptSound_of_state (receive : Except ProfileStatus Bytes) (random : Option Challenge)
    (send : Except ProfileStatus Unit) (state : AssociationServerSession × η)
    (h : state.1.state ≠ .associating) :
    AcceptSound options receive
      (Machine.transition (call strategy options) (.accept receive random send) state) := by
  rcases state with ⟨session, hls⟩
  have houtcome := accept_cases strategy options receive random send session hls
  unfold AcceptSound
  simp only [Machine.transition, call]
  generalize accept strategy options receive random send session hls = out at houtcome
  cases houtcome with
  | refused status => exact ⟨fun _ => rfl, fun _ hbefore hafter => absurd hafter hbefore⟩
  | failed status after hstate =>
      refine ⟨fun _ => (hstate.resolve_right h).symm, fun _ _ hafter => ?_⟩
      simp at hafter
  | associated input server after hreceive hdecoded =>
      refine ⟨fun hfailed => absurd rfl hfailed, fun hmode _ _ => ?_⟩
      rcases credentialAccepted_of_decodeAarq strategy options random input hls after server hmode
        hdecoded with ⟨aarq, haarq, haccepted⟩
      exact ⟨input, aarq, hreceive, haarq, haccepted⟩

/-- In every run of a server that starts closed, whatever requests come in: no
    call leaves it associating, every Accept that fails leaves the state it has
    found, and an Accept that makes an association with a password has had
    exactly one field of each kind and the configured password in a request. -/
theorem call_accept_sound (inputs : List ServerCall) (hls : η) :
    ∀ t ∈ run (call strategy options) inputs ({}, hls),
      t.after.1.state ≠ .associating ∧
        ∀ receive random send, t.input = .accept receive random send →
          AcceptSound options receive t := by
  intro t ht
  have hstart : ({} : AssociationServerSession).state ≠ .associating := by
    simp
  have haround := (Machine.invariant_run (call strategy options)
    (fun state => state.1.state ≠ .associating)
    (fun state input => call_state strategy options input state) inputs ({}, hls) hstart).1 t ht
  refine ⟨haround.2, fun receive random send hinput => ?_⟩
  rcases Machine.mem_run _ _ _ _ ht with ⟨past, input, future, -, rfl⟩
  have hcall : input = .accept receive random send := hinput
  rw [hcall]
  exact acceptSound_of_state strategy options receive random send _ haround.1

end Calls

/-- A server without a strategy of high-level security. -/
def withoutServerStrategy : IHighLevelSecurityServerStrategy Unit where
  setCallingApplicationTitle := fun _ hls => (.ok (), hls)
  validateInitialChallenge := fun _ _ hls => (.error .unsupportedAuthentication, hls)
  buildResponseChallenge := fun _ _ hls => (.error .unsupportedAuthentication, hls)

def passwordServerOptions : AssociationServerOptions :=
  { defaultAssociationServerOptions with
    authenticationMode := .lowLevelSecurity
    lowLevelSecurityCredential := [0x31, 0x32, 0x33, 0x34, 0x35, 0x36, 0x37, 0x38] }

/-- A request with that password. -/
def passwordAarq : Bytes :=
  [0x60, 0x2B, 0x8A, 0x02, 0x07, 0x80, 0x8B, 0x07, 0x60, 0x85, 0x74, 0x05, 0x08, 0x02, 0x01,
    0xAC, 0x0A, 0x80, 0x08, 0x31, 0x32, 0x33, 0x34, 0x35, 0x36, 0x37, 0x38,
    0xBE, 0x10, 0x04, 0x0E, 0x01, 0x00, 0x00, 0x00, 0x06, 0x5F, 0x1F, 0x04, 0x00, 0x00, 0x7E, 0x1F,
    0x02, 0x00]

/-- A server that is opened and accepts this request. -/
def passwordCalls : List ServerCall :=
  [.openChannel (.ok ()), .accept (.ok passwordAarq) none (.ok ())]

/-- The second of these calls. -/
def passwordTransition :
    Transition ServerCall (Except AssociationStatus Unit) (AssociationServerSession × Unit) :=
  Machine.transition (call withoutServerStrategy passwordServerOptions)
    (.accept (.ok passwordAarq) none (.ok ())) ({ state := .opened }, ())

theorem call_accept_sound_password :
    passwordTransition.output = .ok () ∧ passwordTransition.after.1.state ≠ .associating ∧
      ∀ receive random send, passwordTransition.input = .accept receive random send →
        AcceptSound passwordServerOptions receive passwordTransition :=
  ⟨by decide +kernel, call_accept_sound withoutServerStrategy passwordServerOptions passwordCalls
    () passwordTransition (List.mem_cons_of_mem _ List.mem_cons_self)⟩

/-- An Accept on a server that has not been opened fails and leaves it closed,
    not open. -/
theorem not_opened_of_failed : ¬ ∀ inputs, ∀ t ∈ run
    (call withoutServerStrategy passwordServerOptions) inputs ({}, ()),
    ∀ receive random send, t.input = .accept receive random send → t.output ≠ .ok () →
      t.after.1.state = .opened := by
  intro hall
  have hclosed := hall [.accept (.ok passwordAarq) none (.ok ())] _ List.mem_cons_self _ _ _ rfl
    (by simp [Machine.transition, call, accept])
  simp [Machine.transition, call, accept] at hclosed

end AssociationServerSession

end Association

end Dlms
