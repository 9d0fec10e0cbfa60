import Dlms.Endpoint.Gateway
import Dlms.Xdlms.Dispatch

/-!
# What passes a gateway

No call of the upstream goes past the policy: the handler asks it before each
one, and a request reaches the upstream through the handler only, whole or in
blocks, and whatever the processor had in hand before.

The association stands in front of that. A gateway that negotiates opens with an
association, and loses it in two ways: it is closed, or it is released. A
release closes the upstream after the association is gone, and the gateway stays
open when that fails. The next request is then served without an association, so
the gate holds exactly as long as no upstream fails to close behind a release.

## Main definitions

* `UpstreamCall`, `GatewayPolicy.Allows`: A call of the upstream, and whether it
  is allowed.
* `recordingUpstream`: An upstream that also writes down its calls.
* `Guarded`: An open gateway that negotiates has an association.
* `UpstreamCloses`: The upstream closes behind a release.

## Theorems

* `allowed_call`: One call of a gateway.
* `guarded_call_iff`: What one call makes of the gate.
* `policy_and_gate`: Every run.
* `not_guarded`: A release that the upstream does not follow.
-/

namespace Dlms

namespace Endpoint

open Apdu (Bytes)
open Association (AssociationServerSession)
open Machine (Admits final run)
open Profile (ProfileStatus)
open Xdlms (CosemAttributeDescriptor CosemMethodDescriptor)

/-! ### Calls of the upstream -/

/-- A service that has reached the upstream. -/
inductive UpstreamCall where
  | get (descriptor : CosemAttributeDescriptor)
  | set (descriptor : CosemAttributeDescriptor) (data : Bytes)
  | action (descriptor : CosemMethodDescriptor) (parameter : Option Bytes)
  deriving DecidableEq, Repr

def GatewayPolicy.Allows (policy : GatewayPolicy) (call : UpstreamCall) : Prop :=
  match call with
  | .get descriptor => policy.allowGet descriptor = true
  | .set descriptor _ => policy.allowSet descriptor = true
  | .action descriptor _ => policy.allowAction descriptor = true

variable {υ : Type}

/-- An upstream that also writes down the services that reach it. -/
def recordingUpstream (upstream : GatewayUpstream υ) : GatewayUpstream (υ × List UpstreamCall) where
  openUpstream := fun device =>
    let out := upstream.openUpstream device.1
    (out.1, out.2, device.2)
  closeUpstream := fun device =>
    let out := upstream.closeUpstream device.1
    (out.1, out.2, device.2)
  get := fun descriptor device =>
    let out := upstream.get descriptor device.1
    (out.1, out.2, device.2 ++ [.get descriptor])
  set := fun descriptor data device =>
    let out := upstream.set descriptor data device.1
    (out.1, out.2, device.2 ++ [.set descriptor data])
  action := fun descriptor parameter device =>
    let out := upstream.action descriptor parameter device.1
    (out.1, out.2, device.2 ++ [.action descriptor parameter])

section Policy

variable (options : ServerEndpointOptions) (policy : GatewayPolicy) (upstream : GatewayUpstream υ)

/-- What has been written down since is allowed. -/
def AllowedSince (before after : υ × List UpstreamCall) : Prop :=
  ∃ calls, after.2 = before.2 ++ calls ∧ ∀ call ∈ calls, policy.Allows call

theorem allowedSince_same (before after : υ × List UpstreamCall) (h : after.2 = before.2) :
    AllowedSince policy before after :=
  ⟨[], by rw [h, List.append_nil], fun _ hmem => absurd hmem List.not_mem_nil⟩

theorem allowedSince_one (before after : υ × List UpstreamCall) (call : UpstreamCall)
    (h : after.2 = before.2 ++ [call]) (hallowed : policy.Allows call) :
    AllowedSince policy before after := by
  refine ⟨[call], h, ?_⟩
  intro other hmem
  rw [List.mem_singleton.mp hmem]
  exact hallowed

/-- The handler asks the policy before it calls the upstream. -/
theorem handlerKeeps_allowedSince :
    Xdlms.HandlerKeeps (gatewayHandler policy (recordingUpstream upstream))
      (AllowedSince policy) where
  refl := fun device => allowedSince_same policy device device rfl
  get := by
    intro indication device _
    simp only [gatewayHandler]
    cases hallowed : policy.allowGet indication.descriptor with
    | false => exact allowedSince_same policy device device rfl
    -- What the policy allows is the one call that is written down.
    | true =>
        rw [Bool.not_true, if_neg Bool.false_ne_true]
        refine allowedSince_one policy device _ (.get indication.descriptor) ?_ hallowed
        simp only [recordingUpstream]
        rcases upstream.get indication.descriptor device.1 with ⟨status | data, after⟩
        · rfl
        · rfl
  set := by
    intro indication device _
    simp only [gatewayHandler]
    cases hallowed : policy.allowSet indication.descriptor with
    | false => exact allowedSince_same policy device device rfl
    | true =>
        rw [Bool.not_true, if_neg Bool.false_ne_true]
        refine allowedSince_one policy device _ (.set indication.descriptor indication.data) ?_
          hallowed
        simp only [recordingUpstream]
        rcases upstream.set indication.descriptor indication.data device.1 with
          ⟨status | written, after⟩
        · rfl
        · rfl
  action := by
    intro indication device _
    simp only [gatewayHandler]
    cases hallowed : policy.allowAction indication.descriptor with
    | false => exact allowedSince_same policy device device rfl
    | true =>
        rw [Bool.not_true, if_neg Bool.false_ne_true]
        refine allowedSince_one policy device _
          (.action indication.descriptor indication.parameter) ?_ hallowed
        simp only [recordingUpstream]
        rcases upstream.action indication.descriptor indication.parameter device.1 with
          ⟨status | data, after⟩
        · rfl
        · rfl

namespace GatewayEndpoint

/-- Opening calls the upstream only to open it. -/
theorem logged_openGateway (environment : GatewayOpening)
    (gateway : GatewayEndpoint (υ × List UpstreamCall)) :
    (openGateway options (recordingUpstream upstream) environment
      gateway).2.processor.device.2 = gateway.processor.device.2 := by
  unfold openGateway
  by_cases hopen : gateway.isOpen = true
  · rw [if_pos hopen]
  rw [if_neg hopen]
  cases validateEndpointProfileOptions options.profile with
  | error status => rfl
  | ok valid =>
      cases validateEndpointSecurityOptions options.security with
      | error status => rfl
      | ok valid =>
          cases ofProfile environment.channelOpen with
          | error status => rfl
          | ok opened =>
              dsimp only
              rcases negotiateDownstreamAssociation options environment gateway.association with
                ⟨status | negotiated, association⟩
              · rfl
              · simp only [recordingUpstream]
                rcases upstream.openUpstream gateway.processor.device.1 with
                  ⟨status | opened, device⟩
                · rfl
                · rfl

/-- So does a release, which only closes it. -/
theorem logged_release (requestApdu : Bytes) (environment : RunEnvironment)
    (gateway : GatewayEndpoint (υ × List UpstreamCall)) :
    (releaseDownstreamAssociation (recordingUpstream upstream) requestApdu environment
      gateway).2.processor.device.2 = gateway.processor.device.2 := by
  unfold releaseDownstreamAssociation
  cases gateway.association with
  | none => rfl
  | some session =>
      dsimp only
      rcases session.releaseWith requestApdu environment.send environment.close with
        ⟨status | released, after⟩
      · rfl
      · simp only [recordingUpstream]
        rcases upstream.closeUpstream gateway.processor.device.1 with ⟨status | closed, device⟩
        · rfl
        · rfl

/-- A call of a gateway lets through what the policy allows. -/
theorem allowed_call (made : GatewayCall) (gateway : GatewayEndpoint (υ × List UpstreamCall)) :
    AllowedSince policy gateway.processor.device
      (call options policy (recordingUpstream upstream) made gateway).2.processor.device := by
  cases made with
  | openGateway environment =>
      exact allowedSince_same policy _ _
        (logged_openGateway options upstream environment gateway)
  | runOnce environment =>
      simp only [call, runOnce]
      by_cases hopen : (!gateway.isOpen) = true
      · rw [if_pos hopen]
        exact allowedSince_same policy _ _ rfl
      rw [if_neg hopen]
      cases ServerEndpoint.receivedApdu environment.receive with
      | error status => exact allowedSince_same policy _ _ rfl
      | ok requestApdu =>
          dsimp only
          by_cases hrelease : isReleaseRequest options requestApdu gateway = true
          · rw [if_pos hrelease]
            exact allowedSince_same policy _ _
              (logged_release upstream requestApdu environment gateway)
          · -- Any other request comes to the handler, which asks the policy.
            rw [if_neg hrelease]
            exact Xdlms.device_processRequest _ _ _ _ (handlerKeeps_allowedSince policy upstream)
              requestApdu gateway.processor
  | close channelClose =>
      refine allowedSince_same policy _ _ ?_
      simp only [call, close]
      by_cases hopen : (!gateway.isOpen) = true
      · rw [if_pos hopen]
      · rw [if_neg hopen]
        cases ofProfile channelClose with
        | error status => rfl
        | ok closed => rfl

/-- So does a run of calls. -/
theorem allowed_final (calls : List GatewayCall)
    (gateway : GatewayEndpoint (υ × List UpstreamCall)) :
    AllowedSince policy gateway.processor.device
      (final (call options policy (recordingUpstream upstream)) calls
        gateway).processor.device := by
  induction calls generalizing gateway with
  | nil => exact allowedSince_same policy _ _ rfl
  | cons made calls ih =>
      rcases allowed_call options policy upstream made gateway with ⟨now, hnow, hallowed⟩
      rcases ih (call options policy (recordingUpstream upstream) made gateway).2 with
        ⟨later, hlater, hallowedLater⟩
      refine ⟨now ++ later, ?_, ?_⟩
      · rw [final, hlater, hnow, List.append_assoc]
      · intro other hmem
        rcases List.mem_append.mp hmem with hother | hother
        · exact hallowed other hother
        · exact hallowedLater other hother

end GatewayEndpoint

end Policy

/-! ### The association in front of it -/

section Gate

variable (options : ServerEndpointOptions) (policy : GatewayPolicy) (upstream : GatewayUpstream υ)

/-- An open gateway that negotiates has an association. -/
def Guarded (gateway : GatewayEndpoint υ) : Prop :=
  options.negotiateAssociation = true → gateway.isOpen = true →
    ∃ session, gateway.association = some session ∧ session.state = .associated

/-- If the call releases the association, the upstream closes. A release goes
    through when its answer is sent and the channel closes. -/
def UpstreamCloses (gateway : GatewayEndpoint υ) (made : GatewayCall) : Prop :=
  ∀ environment requestApdu, made = .runOnce environment → gateway.isOpen = true →
    ServerEndpoint.receivedApdu environment.receive = .ok requestApdu →
    gateway.isReleaseRequest options requestApdu = true →
    Association.release requestApdu environment.send environment.close = .ok () →
    (upstream.closeUpstream gateway.processor.device).1 = .ok ()

namespace GatewayEndpoint

/-- A negotiation that succeeds makes an association. -/
theorem associated_of_negotiate (environment : GatewayOpening)
    (before after : Option AssociationServerSession)
    (hnegotiate : options.negotiateAssociation = true)
    (h : negotiateDownstreamAssociation options environment before = (.ok (), after)) :
    ∃ session, after = some session ∧ session.state = .associated := by
  unfold negotiateDownstreamAssociation at h
  rw [hnegotiate, Bool.not_true, if_neg Bool.false_ne_true] at h
  by_cases hauthentication : options.security.authentication ≠ .none ∧
      options.security.authentication ≠ .lowPassword
  · rw [if_pos hauthentication] at h
    cases h
  rw [if_neg hauthentication] at h
  -- Without high-level security the session is opened, and accepts or not.
  rcases hopened : AssociationServerSession.openChannel environment.associationOpen {} with
    ⟨status | opened, session⟩
  · rw [hopened] at h
    cases h
  · rw [hopened] at h
    dsimp only at h
    have houtcome := AssociationServerSession.accept_cases
      AssociationServerSession.withoutServerStrategy
      (makeAssociationServerOptions options.security) environment.receive none environment.send
      session ()
    generalize AssociationServerSession.accept AssociationServerSession.withoutServerStrategy
      (makeAssociationServerOptions options.security) environment.receive none environment.send
      session () = accepted at h houtcome
    cases houtcome with
    | refused status =>
        cases h
    | failed status hls hstate =>
        cases h
    | associated input server hls hreceive hdecoded => exact ⟨_, (Prod.mk.inj h).2.symm, rfl⟩

/-- A call that is no request releases nothing. -/
theorem upstreamCloses_of_other (gateway : GatewayEndpoint υ) (made : GatewayCall)
    (h : ∀ environment, made ≠ .runOnce environment) :
    UpstreamCloses options upstream gateway made :=
  fun environment _ hmade => absurd hmade (h environment)

/-- Opening makes the association first. -/
theorem guarded_openGateway (environment : GatewayOpening) (gateway : GatewayEndpoint υ)
    (h : Guarded options gateway) :
    Guarded options (openGateway options upstream environment gateway).2 := by
  unfold openGateway
  by_cases hopen : gateway.isOpen = true
  · rw [if_pos hopen]
    exact h
  rw [if_neg hopen]
  -- Whatever fails leaves the gateway closed, and nothing to guard.
  have hclosed (after : GatewayEndpoint υ) (hsame : after.isOpen = gateway.isOpen) :
      Guarded options after := by
    intro _ hafter
    rw [hsame] at hafter
    exact absurd hafter hopen
  cases validateEndpointProfileOptions options.profile with
  | error status => exact hclosed _ rfl
  | ok valid =>
      cases validateEndpointSecurityOptions options.security with
      | error status => exact hclosed _ rfl
      | ok valid =>
          cases ofProfile environment.channelOpen with
          | error status => exact hclosed _ rfl
          | ok opened =>
              dsimp only
              rcases hnegotiated : negotiateDownstreamAssociation options environment
                gateway.association with ⟨status | negotiated, association⟩
              · exact hclosed _ rfl
              · dsimp only
                rcases upstream.openUpstream gateway.processor.device with
                  ⟨status | opened, device⟩
                · exact hclosed _ rfl
                · -- It opens last of all, when the association has been made.
                  intro hnegotiate _
                  exact associated_of_negotiate options environment _ _ hnegotiate hnegotiated

/-- Closing leaves nothing to guard, or everything as it was. -/
theorem guarded_close (channelClose : Except ProfileStatus Unit) (gateway : GatewayEndpoint υ)
    (h : Guarded options gateway) : Guarded options (close upstream channelClose gateway).2 := by
  unfold close
  by_cases hopen : (!gateway.isOpen) = true
  · rw [if_pos hopen]
    exact h
  rw [if_neg hopen]
  dsimp only
  cases ofProfile channelClose with
  | error status => exact h
  | ok closed =>
      intro _ hafter
      exact absurd hafter Bool.false_ne_true

/-- A release that goes through leaves the gateway open without an association
    exactly when the upstream fails to close. -/
theorem guarded_release_iff (requestApdu : Bytes) (environment : RunEnvironment)
    (gateway : GatewayEndpoint υ) (h : Guarded options gateway) (hopen : gateway.isOpen = true)
    (hrelease : gateway.isReleaseRequest options requestApdu = true) :
    Guarded options
        (releaseDownstreamAssociation upstream requestApdu environment gateway).2 ↔
      (Association.release requestApdu environment.send environment.close = .ok () →
        (upstream.closeUpstream gateway.processor.device).1 = .ok ()) := by
  have hnegotiate : options.negotiateAssociation = true := by
    unfold isReleaseRequest at hrelease
    rw [Bool.and_eq_true, Bool.and_eq_true] at hrelease
    exact hrelease.1.1
  rcases h hnegotiate hopen with ⟨session, hassociation, hstate⟩
  unfold releaseDownstreamAssociation
  rw [hassociation]
  dsimp only
  unfold AssociationServerSession.releaseWith
  rw [if_neg (not_not.mpr hstate)]
  cases hreleased : Association.release requestApdu environment.send environment.close with
  | error status =>
      refine iff_of_true (fun _ _ => ⟨session, rfl, hstate⟩) fun hok => ?_
      cases hok
  | ok released =>
      dsimp only
      rcases upstream.closeUpstream gateway.processor.device with ⟨status | closed, device⟩
      · refine iff_of_false (fun hguarded => ?_) fun hcloses => ?_
        · rcases hguarded hnegotiate hopen with ⟨_, hnone, -⟩
          cases hnone
        · exact absurd (hcloses rfl) nofun
      · exact iff_of_true (fun _ hafter => absurd hafter Bool.false_ne_true) fun _ => rfl

/-- One call of a gateway. -/
theorem guarded_call_iff (gateway : GatewayEndpoint υ) (made : GatewayCall)
    (h : Guarded options gateway) :
    Guarded options (call options policy upstream made gateway).2 ↔
      UpstreamCloses options upstream gateway made := by
  cases made with
  | openGateway environment =>
      refine iff_of_true (guarded_openGateway options upstream environment gateway h) ?_
      exact upstreamCloses_of_other options upstream gateway _
        fun _ => by simp
  | close channelClose =>
      refine iff_of_true (guarded_close options upstream channelClose gateway h) ?_
      exact upstreamCloses_of_other options upstream gateway _
        fun _ => by simp
  | runOnce environment =>
      simp only [call, runOnce]
      by_cases hopen : gateway.isOpen = true
      · rw [hopen, Bool.not_true, if_neg Bool.false_ne_true]
        cases hreceived : ServerEndpoint.receivedApdu environment.receive with
        | error status =>
            refine iff_of_true h ?_
            intro other requestApdu hmade _ hother
            rw [← GatewayCall.runOnce.inj hmade, hreceived] at hother
            cases hother
        | ok requestApdu =>
            dsimp only
            -- A release takes the association away, and leaves the gateway open if the upstream
            -- does not close.
            by_cases hrelease : gateway.isReleaseRequest options requestApdu = true
            · rw [if_pos hrelease,
                guarded_release_iff options upstream requestApdu environment gateway h hopen
                  hrelease]
              constructor
              · intro hcloses other otherApdu hmade _ hother _ hreleased
                rw [← GatewayCall.runOnce.inj hmade] at hother hreleased
                rw [← Except.ok.inj (hreceived.symm.trans hother)] at hreleased
                exact hcloses hreleased
              · intro hcloses hreleased
                exact hcloses environment requestApdu rfl hopen hreceived hrelease hreleased
            · rw [if_neg hrelease]
              refine iff_of_true (fun hnegotiate _ => h hnegotiate hopen) ?_
              intro other otherApdu hmade _ hother hisRelease
              rw [← GatewayCall.runOnce.inj hmade] at hother
              rw [← Except.ok.inj (hreceived.symm.trans hother)] at hisRelease
              exact absurd hisRelease hrelease
      · rw [Bool.not_eq_true] at hopen
        rw [hopen, Bool.not_false, if_pos rfl]
        refine iff_of_true h ?_
        intro _ _ _ hother
        exact absurd (hopen.symm.trans hother) Bool.false_ne_true

/-- In every run of a new gateway, whatever comes in: only what the policy allows
    reaches the upstream, and the gateway is never open without its association
    exactly as long as the upstream closes behind every release. -/
theorem policy_and_gate (calls : List GatewayCall) (device : υ) :
    (∀ reached ∈ (final (call options policy (recordingUpstream upstream)) calls
        (create (device, []))).processor.device.2, policy.Allows reached) ∧
      ((∀ t ∈ run (call options policy upstream) calls (create device), Guarded options t.after) ↔
        Admits (call options policy upstream)
          (fun _ gateway made => UpstreamCloses options upstream gateway made) [] calls
          (create device)) := by
  constructor
  · rcases allowed_final options policy upstream calls (create (device, [])) with
      ⟨reached, hreached, hallowed⟩
    have hlog : (final (call options policy (recordingUpstream upstream)) calls
        (create (device, []))).processor.device.2 = reached := hreached.trans (List.nil_append _)
    rw [hlog]
    exact hallowed
  · exact Machine.forall_after_iff_admits _ (fun _ => True) (Guarded options) _
      (fun _ _ _ => trivial)
      (fun gateway made _ h => guarded_call_iff options policy upstream gateway made h) calls []
      (create device) trivial (fun _ hopen => absurd hopen Bool.false_ne_true)

end GatewayEndpoint

end Gate

/-! ### A client that releases, and the next one -/

/-- A gateway with an association without a password. -/
def negotiatingOptions : ServerEndpointOptions where
  negotiateAssociation := true

def allowAll : GatewayPolicy where
  allowGet := fun _ => true
  allowSet := fun _ => true
  allowAction := fun _ => true

/-- An upstream that fails to close. -/
def stuckUpstream : GatewayUpstream Unit where
  openUpstream := fun device => (.ok (), device)
  closeUpstream := fun device => (.error .transportFailed, device)
  get := fun _ device => (.ok [0x11, 0x07], device)
  set := fun _ _ device => (.ok (), device)
  action := fun _ _ device => (.ok [], device)

def plainAarq : Bytes :=
  [0x60, 0x12, 0xBE, 0x10, 0x04, 0x0E, 0x01, 0x00, 0x00, 0x00, 0x06, 0x5F, 0x1F, 0x04, 0x00, 0x00,
    0x7E, 0x1F, 0x02, 0x00]

def releaseRequest : Bytes := [0x62, 0x00]

/-- A client negotiates and releases its association. -/
def releasedCalls : List GatewayCall :=
  [.openGateway
    { channelOpen := .ok (), associationOpen := .ok (), receive := .ok plainAarq, send := .ok () },
   .runOnce { receive := .ok releaseRequest, send := .ok (), close := .ok () }]

/-- A GET from whoever comes next. -/
def nextRequest : GatewayCall :=
  .runOnce
    { receive := .ok [0xC0, 0x01, 0xC1, 0x00, 0x03, 0x01, 0x00, 0x01, 0x08, 0x00, 0xFF, 0x02, 0x00]
      send := .ok ()
      close := .ok () }

theorem final_releasedCalls :
    (final (GatewayEndpoint.call negotiatingOptions allowAll stuckUpstream) releasedCalls
        (.create ())).isOpen = true ∧
      (final (GatewayEndpoint.call negotiatingOptions allowAll stuckUpstream) releasedCalls
        (.create ())).association = none := by
  decide +kernel

/-- The gateway stays open without an association, and serves the next request. -/
theorem not_guarded :
    (¬∀ t ∈ run (GatewayEndpoint.call negotiatingOptions allowAll stuckUpstream) releasedCalls
        (.create ()), Guarded negotiatingOptions t.after) ∧
      (final (GatewayEndpoint.call negotiatingOptions allowAll (recordingUpstream stuckUpstream))
        (releasedCalls ++ [nextRequest]) (.create ((), []))).processor.device.2 =
          [.get { classId := 3, instanceId := ⟨1, 0, 1, 8, 0, 255⟩, attributeId := 2 }] := by
  refine ⟨fun hall => ?_, by decide +kernel⟩
  have hfinal := Machine.holds_final _ (Guarded negotiatingOptions) releasedCalls _
    (fun _ hopen => absurd hopen Bool.false_ne_true) hall rfl final_releasedCalls.1
  rcases hfinal with ⟨session, hassociation, -⟩
  rw [final_releasedCalls.2] at hassociation
  cases hassociation

end Endpoint

end Dlms
