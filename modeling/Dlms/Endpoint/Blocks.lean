import Dlms.Endpoint.Authentication

/-!
# Blocks and associations

The blocks of a transfer stay in the processor until the transfer ends or goes
wrong. Closing an endpoint, releasing its association and opening it again leave
them there, so a transfer that was not finished goes on in the next association:
a GET is served on, a SET or an ACTION dispatched, before the new client has
replied to its challenge or after.

To say so, each association of a run has a number, and each of the three block
states the number of the association it was started in. A run in which every
opening finds the block states inactive uses none in another association.

## Main definitions

* `BlockOwners`: The numbers, and what a transition makes of them.
* `Crosses`: A transition uses a block state of another association.
* `NeverCrosses`: No transition of a run does.
* `opensWithoutBlocks`: An opening finds the block states inactive.

## Theorems

* `ownersCurrent_step`: A call keeps the block states with their association.
* `neverCrosses_run`: The runs in which openings find nothing.
-/

namespace Dlms

namespace Endpoint

open Apdu (Bytes)
open Machine (Admits final run transition)
open Server (ServerContext)
open Xdlms (ServiceIndication XdlmsServerHandler recordingHandler)

/-- The number of the association, and of the one each block state was started
    in. -/
structure BlockOwners where
  current : Nat := 0
  get : Nat := 0
  set : Nat := 0
  action : Nat := 0

/-- A transition of an endpoint whose handler writes down its indications. -/
abbrev RecordedTransition (δ : Type) : Type := EndpointTransition (δ × List ServiceIndication)

section Blocks

variable {δ : Type}

/-- An opening begins an association, and an inactive block state belongs to
    whichever comes to start it. -/
def BlockOwners.next (owners : BlockOwners) (t : RecordedTransition δ) : BlockOwners :=
  let current := if t.output.event.isOpened then owners.current + 1 else owners.current
  { current := current
    get := if t.before.1.getBlocks.active then owners.get else current
    set := if t.before.1.setBlocks.active then owners.set else current
    action := if t.before.1.actionBlocks.active then owners.action else current }

/-- The handler was called. -/
def dispatched (t : RecordedTransition δ) : Bool := t.before.2.2.length < t.after.2.2.length

/-- Bytes of the GET that was being served have been returned. -/
def usesGetBlocks (t : RecordedTransition δ) : Bool :=
  t.before.1.getBlocks.active &&
    match t.output.event with
    | .service (.ok (.getRequest (.next _ _))) (.ok _) => true
    | _ => false

/-- Bytes of the SET that was being collected have been dispatched. -/
def usesSetBlocks (t : RecordedTransition δ) : Bool :=
  t.before.1.setBlocks.active && dispatched t &&
    match t.output.event with
    | .service (.ok (.setRequest (.withDataBlock _ _))) _ => true
    | _ => false

/-- Bytes of the ACTION that was being collected have been dispatched. -/
def usesActionBlocks (t : RecordedTransition δ) : Bool :=
  t.before.1.actionBlocks.active && dispatched t &&
    match t.output.event with
    | .service (.ok (.actionRequest (.withPblock _ _))) _ => true
    | _ => false

/-- A block state is used in an association it was not started in. -/
def Crosses (owners : BlockOwners) (t : RecordedTransition δ) : Prop :=
  usesGetBlocks t = true ∧ owners.get ≠ owners.current ∨
    usesSetBlocks t = true ∧ owners.set ≠ owners.current ∨
    usesActionBlocks t = true ∧ owners.action ≠ owners.current

instance (owners : BlockOwners) (t : RecordedTransition δ) : Decidable (Crosses owners t) := by
  unfold Crosses
  infer_instance

/-- No block state of a run is used in an association it was not started in. -/
def NeverCrosses : BlockOwners → List (RecordedTransition δ) → Prop
  | _, [] => True
  | owners, t :: ts => ¬ Crosses owners t ∧ NeverCrosses (owners.next t) ts

instance decidableNeverCrosses : ∀ (owners : BlockOwners) (ts : List (RecordedTransition δ)),
    Decidable (NeverCrosses owners ts)
  | _, [] => isTrue trivial
  | owners, t :: ts => @instDecidableAnd _ _ _ (decidableNeverCrosses (owners.next t) ts)

/-- No transfer is unfinished. -/
def blocksInactive (endpoint : ServerEndpoint) : Bool :=
  !endpoint.getBlocks.active && !endpoint.setBlocks.active && !endpoint.actionBlocks.active

/-- An opening of a closed endpoint finds no unfinished transfer. -/
def opensWithoutBlocks (endpoint : ServerEndpoint) (input : EndpointInput) : Bool :=
  match input with
  | .openEndpoint _ => endpoint.isOpen || blocksInactive endpoint
  | _ => true

/-- An active block state was started in the association there is. -/
structure OwnersCurrent (owners : BlockOwners) (endpoint : ServerEndpoint) : Prop where
  get : endpoint.getBlocks.active = true → owners.get = owners.current
  set : endpoint.setBlocks.active = true → owners.set = owners.current
  action : endpoint.actionBlocks.active = true → owners.action = owners.current

theorem not_crosses_of_current (owners : BlockOwners) (t : RecordedTransition δ)
    (h : OwnersCurrent owners t.before.1) : ¬ Crosses owners t := by
  rintro (⟨huses, hother⟩ | ⟨huses, hother⟩ | ⟨huses, hother⟩)
  · rw [usesGetBlocks, Bool.and_eq_true] at huses
    exact hother (h.get huses.1)
  · rw [usesSetBlocks, Bool.and_eq_true, Bool.and_eq_true] at huses
    exact hother (h.set huses.1.1)
  · rw [usesActionBlocks, Bool.and_eq_true, Bool.and_eq_true] at huses
    exact hother (h.action huses.1.1)

variable (ciphers : Ciphers) (options : ServerEndpointOptions)
  (handler : ServerContext → XdlmsServerHandler δ)

/-- An endpoint opens only when it is told to and is closed, and keeps its block
    states. -/
theorem opened_of_event {ε : Type} (handler : ServerContext → XdlmsServerHandler ε)
    (input : EndpointInput) (endpoint : ServerEndpoint) (device : ε)
    (hevent : (ServerEndpoint.step ciphers options handler input endpoint device).1.event.isOpened =
      true) :
    ∃ environment, input = .openEndpoint environment ∧ endpoint.isOpen = false := by
  have hsteps := ServerEndpoint.steps_step ciphers options handler input endpoint device
  generalize ServerEndpoint.step ciphers options handler input endpoint device = out at *
  cases hsteps with
  | opened environment hclosed hvalid hplain => exact ⟨environment, rfl, hclosed⟩
  | negotiated environment server hls remoteSystemTitle hclosed hvalid hnegotiate haccept =>
      exact ⟨environment, rfl, hclosed⟩
  | nothing input status => simp [EndpointEvent.isOpened] at hevent
  | notNegotiated environment status hls association hclosed =>
      simp [EndpointEvent.isOpened] at hevent
  | released environment requestApdu hopen hreceived hrelease =>
      simp [EndpointEvent.isOpened] at hevent
  | notReleased environment status hopen =>
      simp [EndpointEvent.isOpened] at hevent
  | hlsReply environment requestApdu outcome after hopen hreceived hhandled =>
      simp [EndpointEvent.isOpened] at hevent
  | service environment requestApdu looked hopen hreceived hhandled result hresult =>
      simp [EndpointEvent.isOpened] at hevent
  | closed channelClose hopen =>
      simp [EndpointEvent.isOpened] at hevent

/-- A call keeps the block states with their association, when an opening finds
    none active. -/
theorem ownersCurrent_step (owners : BlockOwners)
    (state : ServerEndpoint × δ × List ServiceIndication) (input : EndpointInput)
    (h : OwnersCurrent owners state.1) (hquiet : opensWithoutBlocks state.1 input = true) :
    OwnersCurrent
      (owners.next (transition (ServerEndpoint.machineStep ciphers options
        (recordingHandlers handler)) input state))
      (ServerEndpoint.machineStep ciphers options (recordingHandlers handler) input state).2.1 := by
  unfold BlockOwners.next transition
  simp only
  by_cases hopened : (ServerEndpoint.machineStep ciphers options (recordingHandlers handler) input
      state).1.event.isOpened = true
  · rcases opened_of_event ciphers options (recordingHandlers handler) input state.1 state.2
      hopened with ⟨environment, hinput, hclosed⟩
    -- Nothing was active, so everything belongs to the new association.
    rw [hinput] at hquiet
    simp only [opensWithoutBlocks, hclosed, Bool.false_or, blocksInactive, Bool.and_eq_true,
      Bool.not_eq_true'] at hquiet
    rcases hquiet with ⟨⟨hget, hset⟩, haction⟩
    simp only [hget, hset, haction, Bool.false_eq_true, if_false]
    exact ⟨fun _ => rfl, fun _ => rfl, fun _ => rfl⟩
  · -- The association is the same: what was active belongs to it, and so does
    -- what comes to be.
    simp only [hopened, Bool.false_eq_true, if_false]
    refine ⟨fun _ => ?_, fun _ => ?_, fun _ => ?_⟩
    · by_cases hactive : state.1.getBlocks.active = true
      · rw [if_pos hactive]
        exact h.get hactive
      · rw [if_neg hactive]
    · by_cases hactive : state.1.setBlocks.active = true
      · rw [if_pos hactive]
        exact h.set hactive
      · rw [if_neg hactive]
    · by_cases hactive : state.1.actionBlocks.active = true
      · rw [if_pos hactive]
        exact h.action hactive
      · rw [if_neg hactive]

theorem neverCrosses_run_from (inputs : List EndpointInput) (owners : BlockOwners)
    (state : ServerEndpoint × δ × List ServiceIndication)
    (history : List (RecordedTransition δ)) (h : OwnersCurrent owners state.1)
    (hquiet : Admits (ServerEndpoint.machineStep ciphers options (recordingHandlers handler))
      (fun _ state input => opensWithoutBlocks state.1 input = true) history inputs state) :
    NeverCrosses owners
      (run (ServerEndpoint.machineStep ciphers options (recordingHandlers handler)) inputs
        state) := by
  induction inputs generalizing owners state history with
  | nil => trivial
  | cons input inputs ih =>
      refine ⟨not_crosses_of_current owners _ h, ?_⟩
      exact ih _ _ _ (ownersCurrent_step ciphers options handler owners state input h hquiet.1)
        hquiet.2

/-- In a run in which every opening finds the block states inactive, none is
    used in an association it was not started in. -/
theorem neverCrosses_run (inputs : List EndpointInput) (device : δ)
    (hquiet : Admits (ServerEndpoint.machineStep ciphers options (recordingHandlers handler))
      (fun _ state input => opensWithoutBlocks state.1 input = true) [] inputs
      (ServerEndpoint.create options, device, [])) :
    NeverCrosses {}
      (run (ServerEndpoint.machineStep ciphers options (recordingHandlers handler)) inputs
        (ServerEndpoint.create options, device, [])) :=
  neverCrosses_run_from ciphers options handler inputs {} _ []
    ⟨fun _ => rfl, fun _ => rfl, fun _ => rfl⟩ hquiet

end Blocks

/-! ### A write in two blocks -/

/-- The first block of a write, and the last. -/
def setFirstBlock : Bytes :=
  [0xC1, 0x02, 0x81, 0x00, 0x03, 0x01, 0x00, 0x01, 0x08, 0x00, 0xFF, 0x02, 0x00, 0x00, 0x00, 0x00,
    0x00, 0x01, 0x02, 0x12, 0x34]

def setLastBlock : Bytes := [0xC1, 0x03, 0x81, 0x01, 0x00, 0x00, 0x00, 0x02, 0x01, 0x56]

/-- A handler that takes everything. -/
def takingHandler : XdlmsServerHandler Unit where
  handleGet := fun _ device => (.ok { hasData := true, data := [0x00] }, device)
  handleSet := fun _ device => (.ok { accessResult := 0 }, device)
  handleAction := fun _ device => (.ok { actionResult := 0 }, device)

/-- A write that is finished before the endpoint closes. -/
theorem neverCrosses_run_finished :
    NeverCrosses {}
      (run (ServerEndpoint.machineStep passwordCiphers passwordOptions
          (recordingHandlers fun _ => takingHandler))
        [passwordOpening, passwordReply, requestOf setFirstBlock, requestOf setLastBlock,
          .close (.ok ()), passwordOpening]
        (ServerEndpoint.create passwordOptions, (), [])) :=
  neverCrosses_run passwordCiphers passwordOptions (fun _ => takingHandler) _ ()
    (by decide +kernel)

/-- A write that goes on in the next association, whose client has not replied
    to its challenge. -/
theorem not_neverCrosses_run :
    let step := ServerEndpoint.machineStep passwordCiphers passwordOptions
      (recordingHandlers fun _ => takingHandler)
    let inputs := [passwordOpening, passwordReply, requestOf setFirstBlock, .close (.ok ()),
      passwordOpening, requestOf setLastBlock]
    let start : ServerEndpoint × Unit × List ServiceIndication :=
      (ServerEndpoint.create passwordOptions, (), [])
    ServerEndpoint.validateOpen passwordOptions = .ok () ∧
      ¬ NeverCrosses {} (run step inputs start) ∧
      (final step inputs start).2.2 =
        [.set
          { invokeId := 1
            options := Xdlms.parseServiceOptions 0x81 Xdlms.defaultServiceOptions
            descriptor := ⟨3, ⟨1, 0, 1, 8, 0, 255⟩, 2⟩
            data := [0x12, 0x34, 0x56] }] ∧
      (final step inputs start).1.hlsPending = true := by
  refine ⟨?_, ?_, ?_, ?_⟩
  · decide +kernel
  · decide +kernel
  · decide +kernel
  · decide +kernel

end Endpoint

end Dlms
