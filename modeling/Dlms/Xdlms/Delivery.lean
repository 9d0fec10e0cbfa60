import Dlms.Xdlms.ActionTransfer
import Dlms.Xdlms.GetTransfer

/-!
# What a handler sees of a SET or an ACTION

A handler that writes down its indications sees each value once, and it sees
the same indication whether the value came whole or in blocks: nothing of an
indication depends on the sizes the client split the value into.

It does not see the values that the client's buffer holds no request for. The
limits are those of one APDU, as for a GET, and no option of the services
names them.

## Main definitions

* `SetIndicated`, `ActionIndicated`: The handler has seen one indication more,
  with the client's bytes.

## Theorems

* `indicated_iff`: A value is seen once when its requests fit, and only then.
-/

namespace Dlms

namespace Xdlms

open Apdu (Bytes DlmsData CanonicalData maximumDataDepth)

section Indicated

variable {σ τ δ : Type} (handler : XdlmsServerHandler δ)
  (serverOptions clientOptions : ServiceOptions)
  (state : XdlmsClientState (Peer σ (δ × List ServiceIndication)) τ) (data : Bytes)

/-- The SET ends with one indication more, of the client's bytes. -/
def SetIndicated (descriptor : CosemAttributeDescriptor) : Prop :=
  (set (connected (recordingHandler handler) serverOptions) descriptor data clientOptions
    state).2.2.channel.server.device.2 =
    state.channel.server.device.2 ++
      [.set (setIndication state.invokeIds.next serverOptions clientOptions descriptor data)]

/-- The ACTION ends with one indication more, of the client's bytes. -/
def ActionIndicated (descriptor : CosemMethodDescriptor) (responses : Nat) : Prop :=
  ∃ outcome, action (connected (recordingHandler handler) serverOptions) descriptor (some data)
      clientOptions responses state = some outcome ∧
    outcome.2.2.channel.server.device.2 =
      state.channel.server.device.2 ++
        [.action (actionIndication state.invokeIds.next serverOptions clientOptions descriptor
          (some data))]

variable (target : CosemAttributeDescriptor) (method : CosemMethodDescriptor) (responses : Nat)
  (depth : Nat) (value : DlmsData) (hvalue : CanonicalData depth data value)
  (hconfirmed : clientOptions.confirmed = true)
  (hserver : data.length ≤ serverOptions.maxBlockTransferBytes)
include hvalue hconfirmed hserver

theorem setIndicated_of_fits (htarget : validateDescriptor target = .ok ())
    (hidle : state.channel.server.setBlocks.active = false) (hfits : SetFits clientOptions data) :
    SetIndicated handler serverOptions clientOptions state data target := by
  rw [SetIndicated, device_set_of_fits (recordingHandler handler) serverOptions clientOptions
    target data depth value state htarget hvalue hconfirmed hidle hserver hfits]
  rfl

theorem not_setIndicated (htarget : validateDescriptor target = .ok ())
    (hidle : state.channel.server.setBlocks.active = false)
    (hfits : ¬ SetFits clientOptions data) :
    ¬ SetIndicated handler serverOptions clientOptions state data target := by
  rw [SetIndicated, device_set_of_not_fits (recordingHandler handler) serverOptions clientOptions
    target data depth value state htarget hvalue hconfirmed hidle hserver hfits]
  intro h
  exact absurd (List.self_eq_append_right.mp h) (List.cons_ne_nil _ _)

theorem actionIndicated_of_fits (hmethod : validateMethodDescriptor method = .ok ())
    (hidle : state.channel.server.actionBlocks.active = false)
    (hfits : ActionFits clientOptions data) :
    ActionIndicated handler serverOptions clientOptions state data method responses := by
  rcases device_action_of_fits (recordingHandler handler) serverOptions clientOptions method data
    depth value responses state hmethod hvalue hconfirmed hidle hserver hfits with
    ⟨outcome, houtcome, hdevice⟩
  refine ⟨outcome, houtcome, ?_⟩
  rw [hdevice]
  rfl

theorem not_actionIndicated (hmethod : validateMethodDescriptor method = .ok ())
    (hidle : state.channel.server.actionBlocks.active = false)
    (hfits : ¬ ActionFits clientOptions data) :
    ¬ ActionIndicated handler serverOptions clientOptions state data method responses := by
  rcases device_action_of_not_fits (recordingHandler handler) serverOptions clientOptions method
    data depth value responses state hmethod hvalue hconfirmed hidle hserver hfits with
    ⟨outcome, houtcome, hdevice⟩
  rintro ⟨outcome', houtcome', hdevice'⟩
  -- The call returns once, so the two ends of it are the same.
  rw [houtcome, Option.some.injEq] at houtcome'
  rw [← houtcome', hdevice] at hdevice'
  exact absurd (List.self_eq_append_right.mp hdevice') (List.cons_ne_nil _ _)

/-- A value is seen once when its requests fit, and only then. -/
theorem indicated_iff (htarget : validateDescriptor target = .ok ())
    (hmethod : validateMethodDescriptor method = .ok ())
    (hset : state.channel.server.setBlocks.active = false)
    (haction : state.channel.server.actionBlocks.active = false) :
    (SetIndicated handler serverOptions clientOptions state data target ↔
        SetFits clientOptions data) ∧
      (ActionIndicated handler serverOptions clientOptions state data method responses ↔
        ActionFits clientOptions data) := by
  constructor
  · by_cases hfits : SetFits clientOptions data
    · exact iff_of_true (setIndicated_of_fits handler serverOptions clientOptions state data
        target depth value hvalue hconfirmed hserver htarget hset hfits) hfits
    · exact iff_of_false (not_setIndicated handler serverOptions clientOptions state data
        target depth value hvalue hconfirmed hserver htarget hset hfits) hfits
  · by_cases hfits : ActionFits clientOptions data
    · exact iff_of_true (actionIndicated_of_fits handler serverOptions clientOptions state data
        method responses depth value hvalue hconfirmed hserver hmethod haction hfits) hfits
    · exact iff_of_false (not_actionIndicated handler serverOptions clientOptions state data
        method responses depth value hvalue hconfirmed hserver hmethod haction hfits) hfits

end Indicated

/-! ### One register and one method -/

/-- A client and a server at their start, with nothing written down. -/
def recordingState : XdlmsClientState (Peer Unit (Unit × List ServiceIndication)) Unit where
  channel := { server := { security := (), device := ((), []) } }
  security := ()

def resetMethod : CosemMethodDescriptor where
  classId := 3
  instanceId := ⟨1, 0, 1, 8, 0, 255⟩
  methodId := 1

/-- A value of three blocks is seen once by both services. -/
theorem indicated_threeBlocks :
    (SetIndicated (answering []) defaultServiceOptions twoByteOptions recordingState threeBytes
        energyValue ↔ SetFits twoByteOptions threeBytes) ∧
      (ActionIndicated (answering []) defaultServiceOptions twoByteOptions recordingState
        threeBytes resetMethod 0 ↔ ActionFits twoByteOptions threeBytes) :=
  indicated_iff (answering []) defaultServiceOptions twoByteOptions recordingState threeBytes
    energyValue resetMethod 0 8 _ ⟨rfl, rfl⟩ rfl (by decide) rfl rfl rfl rfl

/-- Payloads as large as the client lets them be set. -/
def largeRequestOptions : ServiceOptions :=
  { defaultServiceOptions with
    maxSetBlockPayloadBytes := 4096
    maxActionBlockPayloadBytes := 4096 }

/-- A value that goes whole and is larger than its request is not delivered. -/
theorem not_setFits_of_large (options : ServiceOptions) (data : Bytes)
    (hwhole : data.length ≤ options.maxSetBlockPayloadBytes)
    (hlarge : setValueLimit < data.length) : ¬ SetFits options data := by
  intro hfits
  rw [SetFits, if_pos hwhole] at hfits
  omega

theorem not_actionFits_of_large (options : ServiceOptions) (data : Bytes)
    (hwhole : data.length ≤ options.maxActionBlockPayloadBytes)
    (hlarge : actionValueLimit < data.length) : ¬ ActionFits options data := by
  intro hfits
  rw [ActionFits, if_pos hwhole] at hfits
  omega

/-- An octet string well within every limit of both sides is seen by neither
    service: its request is ten bytes larger than the buffer. -/
theorem longValue_not_indicated :
    (∃ value, CanonicalData maximumDataDepth longAnswer value) ∧
      longAnswer.length ≤ defaultServiceOptions.maxBlockTransferBytes ∧
      longAnswer.length ≤ largeRequestOptions.maxBlockTransferBytes ∧
      ¬ SetIndicated (answering []) defaultServiceOptions largeRequestOptions recordingState
        longAnswer energyValue ∧
      ∀ responses, ¬ ActionIndicated (answering []) defaultServiceOptions largeRequestOptions
        recordingState longAnswer resetMethod responses := by
  rcases longAnswer_agreed.canonical with ⟨value, hvalue⟩
  have hserver : longAnswer.length ≤ defaultServiceOptions.maxBlockTransferBytes := by
    rw [length_longAnswer]
    decide
  have hsetWhole : longAnswer.length ≤ largeRequestOptions.maxSetBlockPayloadBytes := by
    rw [length_longAnswer]
    decide
  have hactionWhole : longAnswer.length ≤ largeRequestOptions.maxActionBlockPayloadBytes := by
    rw [length_longAnswer]
    decide
  -- It fits one block of each service, and neither request fits the buffer.
  have hset := not_setFits_of_large largeRequestOptions longAnswer hsetWhole (by
    rw [length_longAnswer]
    decide)
  have haction := not_actionFits_of_large largeRequestOptions longAnswer hactionWhole (by
    rw [length_longAnswer]
    decide)
  refine ⟨⟨value, hvalue⟩, hserver, hserver, ?_, fun responses => ?_⟩
  · exact not_setIndicated (answering []) defaultServiceOptions largeRequestOptions recordingState
      longAnswer energyValue maximumDataDepth value hvalue rfl hserver rfl rfl hset
  · exact not_actionIndicated (answering []) defaultServiceOptions largeRequestOptions
      recordingState longAnswer resetMethod responses maximumDataDepth value hvalue rfl hserver
      rfl rfl haction

end Xdlms

end Dlms
