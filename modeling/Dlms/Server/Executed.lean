import Dlms.Server.Addressing
import Dlms.Xdlms.Dispatch
import Dlms.Xdlms.Encoding

/-!
# An executed service and its answer

What a device did is seen through a device that records its calls. The result
of a call passes through the response of the dispatcher, the result of the
service and the value of an APDU before it is bytes again, and each of these
says in its own way whether there is data. For a method without output they
disagree: the dispatcher says that there is data, since the call succeeded,
and the encoder finds no bytes to decode.

## Main definitions

* `DeviceCall`, `recordingDevice`: What a device was asked, and what it did.
* `Accepted`: The call succeeded, and its output has a place in a response.
* `Reports`: A response that says what the call did.

## Theorems

* `handleGet_called` and the same for the others: One service, one call.
* `executed_answered_iff`: Every executed service is answered as executed,
  except for a method without output.
-/

namespace Dlms

namespace Server

open Apdu (Bytes CanonicalData XdlmsApdu maximumDataDepth)
open Cosem (CosemStatus CosemObject CosemAttributeDescriptor CosemMethodDescriptor
  CosemAccessContext ILogicalDevice)
open Xdlms (GetIndication SetIndication ActionIndication ServiceOptions XdlmsStatus
  XdlmsServerState GetResponseBlockState GetResult getOutputLimit getBlockLimit
  actionOutputLimit)

/-- One call of a device, with what it returned. -/
inductive DeviceCall where
  | read (descriptor : CosemAttributeDescriptor) (context : CosemAccessContext)
      (outcome : Except CosemStatus Bytes)
  | write (descriptor : CosemAttributeDescriptor) (context : CosemAccessContext) (input : Bytes)
      (outcome : Except CosemStatus Unit)
  | invoke (descriptor : CosemMethodDescriptor) (context : CosemAccessContext) (input : Bytes)
      (outcome : Except CosemStatus Bytes)

/-- A device that also keeps the list of its calls. -/
def recordingDevice {δ : Type} (device : ILogicalDevice δ) :
    ILogicalDevice (δ × List DeviceCall) where
  readAttribute := fun descriptor context state =>
    let out := device.readAttribute descriptor context state.1
    (out.1, out.2, state.2 ++ [.read descriptor context out.1])
  writeAttribute := fun descriptor context input state =>
    let out := device.writeAttribute descriptor context input state.1
    (out.1, out.2, state.2 ++ [.write descriptor context input out.1])
  invokeMethod := fun descriptor context input state =>
    let out := device.invokeMethod descriptor context input state.1
    (out.1, out.2, state.2 ++ [.invoke descriptor context input out.1])

/-- A GET output of this size has a place in the response, whole or as the
    first block of several. -/
def GetSizeAccepted (options : ServiceOptions) (size : Nat) : Prop :=
  if size ≤ options.maxGetBlockPayloadBytes then
    size ≤ getOutputLimit
  else
    size ≤ options.maxBlockTransferBytes ∧ options.allowBlockTransfer = true ∧
      0 < options.maxGetBlockPayloadBytes ∧ options.maxGetBlockPayloadBytes ≤ getBlockLimit

/-- The call succeeded with an output that is canonical data of accepted depth
    and size, or empty for a method. -/
def Accepted (options : ServiceOptions) (call : DeviceCall) : Prop :=
  match call with
  | .read _ _ (.ok output) =>
      (∃ value, CanonicalData maximumDataDepth output value) ∧
        GetSizeAccepted options output.length
  | .write _ _ _ (.ok ()) => True
  | .invoke _ _ _ (.ok output) =>
      output = [] ∨
        (∃ value, CanonicalData maximumDataDepth output value) ∧
          output.length ≤ actionOutputLimit
  | _ => False

/-- A method that succeeded and returned nothing. -/
def MethodWithoutOutput (call : DeviceCall) : Prop :=
  match call with
  | .invoke _ _ _ (.ok []) => True
  | _ => False

/-- The APDU is a success with this invoke id and exactly the call's output.
    An output served in blocks is in the processor's block state, and the APDU
    has the beginning of it. -/
def Reports (invokeId : UInt8) (call : DeviceCall) (apdu : XdlmsApdu)
    (blocks : GetResponseBlockState) : Prop :=
  match call, apdu with
  | .read _ _ (.ok output), .getResponse (.normal iip (.data value)) =>
      iip &&& 0x0F = invokeId ∧ CanonicalData maximumDataDepth output value
  | .read _ _ (.ok output), .getResponse (.withDataBlock iip dataBlock) =>
      iip &&& 0x0F = invokeId ∧ dataBlock.blockNumber = 1 ∧ dataBlock.lastBlock = false ∧
        blocks.active = true ∧ blocks.invokeId = invokeId ∧ blocks.nextBlockNumber = 2 ∧
        blocks.data = output ∧ dataBlock.rawData = output.take blocks.offset
  | .write _ _ _ (.ok ()), .setResponse (.normal iip result) =>
      iip &&& 0x0F = invokeId ∧ result = 0
  | .write _ _ _ (.ok ()), .setResponse (.lastDataBlock iip result _) =>
      iip &&& 0x0F = invokeId ∧ result = 0
  | .invoke _ _ _ (.ok output), .actionResponse (.normal iip item) =>
      iip &&& 0x0F = invokeId ∧ item.result = 0 ∧
        match item.returnParameter with
        | none => output = []
        | some value => CanonicalData maximumDataDepth output value
  | _, _ => False

/-! ### One service, one call -/

section Recording

variable {δ : Type} (device : ILogicalDevice δ) (context : ServerContext)
  (state : δ × List DeviceCall)

/-- The log has grown by one call and no more. -/
theorem log_ne_append (log : List DeviceCall) (call : DeviceCall) : log ≠ log ++ [call] := by
  intro h
  have hlength := congrArg List.length h
  rw [List.length_append, List.length_singleton] at hlength
  omega

variable {call : DeviceCall}

/-- A call that is in the log after a service is that of the service, and the
    answer is that of the call. -/
theorem called_of_gated {ρ β : Type} (valid : Except CosemStatus Unit) (associated : Bool)
    (answer : Except ServerStatus β → ρ) (out : Except CosemStatus β × δ) (made : DeviceCall)
    (hcall : (gated valid associated answer (out.1, out.2, state.2 ++ [made]) state).2.2 =
      state.2 ++ [call]) :
    call = made ∧
      (gated valid associated answer (out.1, out.2, state.2 ++ [made]) state).1 =
        answer (out.1.mapError mapCosemStatus) := by
  rcases gated_cases valid associated answer (out.1, out.2, state.2 ++ [made]) state with
    ⟨status, hrefused⟩ | ⟨-, -, hcalled⟩
  · rw [hrefused] at hcall
    exact absurd hcall (log_ne_append _ call)
  · rw [hcalled] at hcall ⊢
    exact ⟨(List.singleton_inj.mp (List.append_cancel_left hcall)).symm, rfl⟩

theorem handleGet_called (indication : GetIndication)
    (hcall : ((serverHandler (recordingDevice device) context).handleGet indication state).2.2 =
      state.2 ++ [call]) :
    ∃ descriptor access outcome, call = .read descriptor access outcome ∧
      ∀ output, outcome = .ok output →
        ((serverHandler (recordingDevice device) context).handleGet indication state).1 =
          .ok { invokeId := indication.invokeId, hasData := true, data := output } := by
  rw [handleGet_eq_gated] at hcall ⊢
  rcases called_of_gated state _ _ _ (device.readAttribute _ _ state.1) _ hcall with ⟨rfl, hanswer⟩
  exact ⟨_, _, _, rfl, fun output hok => hanswer.trans (by rw [hok]; rfl)⟩

theorem handleSet_called (indication : SetIndication)
    (hcall : ((serverHandler (recordingDevice device) context).handleSet indication state).2.2 =
      state.2 ++ [call]) :
    ∃ descriptor access input outcome, call = .write descriptor access input outcome ∧
      (outcome = .ok () →
        ((serverHandler (recordingDevice device) context).handleSet indication state).1 =
          .ok { invokeId := indication.invokeId, accessResult := 0 }) := by
  rw [handleSet_eq_gated] at hcall ⊢
  rcases called_of_gated state _ _ _ (device.writeAttribute _ _ _ state.1) _ hcall with
    ⟨rfl, hanswer⟩
  exact ⟨_, _, _, _, rfl, fun hok => hanswer.trans (by rw [hok]; rfl)⟩

theorem handleAction_called (indication : ActionIndication)
    (hcall : ((serverHandler (recordingDevice device) context).handleAction indication
      state).2.2 = state.2 ++ [call]) :
    ∃ descriptor access input outcome, call = .invoke descriptor access input outcome ∧
      ∀ output, outcome = .ok output →
        ((serverHandler (recordingDevice device) context).handleAction indication state).1 = .ok
          { invokeId := indication.invokeId
            actionResult := 0
            hasData := true
            data := output } := by
  rw [handleAction_eq_gated] at hcall ⊢
  rcases called_of_gated state _ _ _ (device.invokeMethod _ _ _ state.1) _ hcall with
    ⟨rfl, hanswer⟩
  exact ⟨_, _, _, _, rfl, fun output hok => hanswer.trans (by rw [hok]; rfl)⟩

end Recording

/-! ### The answer -/

section Answer

variable (invokeId : UInt8)

theorem answer_invokeId (hinvoke : invokeId &&& 0x0F = invokeId) (options : ServiceOptions) :
    Xdlms.makeInvokeIdAndPriority invokeId options &&& 0x0F = invokeId := by
  rw [Xdlms.invokeId_makeInvokeIdAndPriority, hinvoke]

/-- An output that fits in one payload is answered whole. -/
theorem get_reports_normal (indication : GetIndication) (output : Bytes)
    (value : Apdu.DlmsData) (blocks : GetResponseBlockState)
    (hvalue : CanonicalData maximumDataDepth output value)
    (hsize : output.length ≤ indication.options.maxGetBlockPayloadBytes)
    (hlimit : output.length ≤ getOutputLimit) :
    Xdlms.encodeGetResponseOrStartBlocks
        (Xdlms.makeInvokeIdAndPriority invokeId indication.options) indication
        { invokeId := invokeId, hasData := true, data := output } blocks =
      (.ok (Apdu.getResponseDataBytes
        (Xdlms.makeInvokeIdAndPriority invokeId indication.options) output), blocks) := by
  rw [Xdlms.startBlocks_whole _ _ _ _ rfl value rfl hvalue hsize]
  have hfits : (Apdu.getResponseDataBytes
      (Xdlms.makeInvokeIdAndPriority invokeId indication.options) output).length ≤
      Apdu.apduBufferSize := by
    rw [Xdlms.length_getResponseDataBytes, Apdu.apduBufferSize]
    rw [getOutputLimit] at hlimit
    omega
  rw [Xdlms.buffered_of_le _ hfits]

/-- A longer one is answered by its first payload, and the rest is kept. -/
theorem get_reports_block (indication : GetIndication) (output : Bytes)
    (blocks : GetResponseBlockState) (hid : indication.invokeId = invokeId)
    (hsize : indication.options.maxGetBlockPayloadBytes < output.length)
    (htotal : output.length ≤ indication.options.maxBlockTransferBytes)
    (hallow : indication.options.allowBlockTransfer = true)
    (hpos : 0 < indication.options.maxGetBlockPayloadBytes)
    (hlimit : indication.options.maxGetBlockPayloadBytes ≤ getBlockLimit) :
    Xdlms.encodeGetResponseOrStartBlocks
        (Xdlms.makeInvokeIdAndPriority invokeId indication.options) indication
        { invokeId := invokeId, hasData := true, data := output } blocks =
      (.ok (Apdu.getResponseBlockBytes
          (Xdlms.makeInvokeIdAndPriority invokeId indication.options)
          { lastBlock := false
            blockNumber := 1
            rawData := output.take indication.options.maxGetBlockPayloadBytes }),
        { active := true
          invokeId := invokeId
          options := indication.options
          nextBlockNumber := 2
          offset := indication.options.maxGetBlockPayloadBytes
          data := output }) := by
  have hmin : min output.length indication.options.maxGetBlockPayloadBytes =
      indication.options.maxGetBlockPayloadBytes := Nat.min_eq_right (by omega)
  -- The first block is not the last one.
  have hne : (indication.options.maxGetBlockPayloadBytes == output.length) = false := by
    rw [beq_eq_false_iff_ne]
    omega
  rw [Xdlms.startBlocks_allowed _ _ _ _ rfl hsize htotal hallow hpos,
    Xdlms.sendNextGetResponseBlock_eq _ rfl hpos (by dsimp only; omega) hlimit,
    Xdlms.length_nextGetResponseBlock]
  simp only [Xdlms.nextGetResponseBlock, Nat.sub_zero, hmin, Nat.zero_add, hne, List.drop_zero,
    hid, Bool.false_eq_true, if_false]
  rfl

end Answer

section Reports

variable {σ δ : Type} (device : ILogicalDevice δ) (context : ServerContext)
  (options : ServiceOptions) (call : DeviceCall)

theorem get_reports (request : Apdu.GetRequest) (blocks : GetResponseBlockState)
    (state : δ × List DeviceCall)
    (hcall : (Xdlms.processGetRequest (serverHandler (recordingDevice device) context) options
      request blocks state).2.2.2 = state.2 ++ [call])
    (haccepted : Accepted options call) :
    let out := Xdlms.processGetRequest (serverHandler (recordingDevice device) context) options
      request blocks state
    (∃ response apdu, out.1 = .ok response ∧ Apdu.decodeXdlmsApdu response = .ok apdu ∧
      Reports (Xdlms.invokeIdOfGet request) call apdu out.2.1) ∧ ¬ MethodWithoutOutput call := by
  intro out
  have hinvoke : Xdlms.invokeIdOfGet request &&& 0x0F = Xdlms.invokeIdOfGet request := by
    cases request <;> rw [Xdlms.invokeIdOfGet, UInt8.and_assoc] <;> rfl
  -- One of the calls was made in this request, or the log would be the same.
  rcases Xdlms.processGetRequest_cases (serverHandler (recordingDevice device) context) options
    request blocks state with
    hsame | ⟨indication, before, hid, -, hmax, hpayload, hallow, hstate, hout⟩
  · rw [hsame] at hcall
    exact absurd hcall (log_ne_append _ call)
  rw [hstate] at hcall
  rcases handleGet_called device context state indication hcall with
    ⟨descriptor, access, outcome, rfl, hresult⟩
  cases outcome with
  | error status => exact absurd haccepted id
  | ok output =>
      refine ⟨?_, id⟩
      rcases haccepted with ⟨⟨value, hvalue⟩, hsize⟩
      rw [hresult output rfl] at hout
      dsimp only at hout
      rw [GetSizeAccepted, ← hmax, ← hpayload, ← hallow] at hsize
      -- An output of at most one payload goes out whole, and a longer one in blocks.
      split_ifs at hsize with hwhole
      · rw [get_reports_normal _ indication output value before hvalue hwhole hsize] at hout
        refine ⟨_, _, (Prod.mk.inj hout).1, Xdlms.decode_getResponseData _ _ value hvalue.1, ?_⟩
        exact ⟨answer_invokeId _ hinvoke _, hvalue⟩
      · rcases hsize with ⟨htotal, hallowed, hpos, hlimit⟩
        rw [get_reports_block _ indication output before hid (by omega) htotal hallowed hpos
          hlimit] at hout
        have hraw : (output.take indication.options.maxGetBlockPayloadBytes).length <
            256 ^ Apdu.sizeOctets :=
          Xdlms.lt_of_le_getBlockLimit _ ((List.length_take_le _ _).trans hlimit)
        refine ⟨_, _, (Prod.mk.inj hout).1, Xdlms.decode_getResponseBlock _ _ hraw, ?_⟩
        have hblocks : out.2.1 = _ := (Prod.mk.inj hout).2
        rw [hblocks]
        exact ⟨answer_invokeId _ hinvoke _, rfl, rfl, rfl, rfl, rfl, rfl, rfl⟩

theorem set_reports (request : Apdu.SetRequest) (blocks : Xdlms.SetRequestBlockState)
    (state : δ × List DeviceCall) (getBlocks : GetResponseBlockState)
    (hcall : (Xdlms.processSetRequest (serverHandler (recordingDevice device) context) options
      request blocks state).2.2.2 = state.2 ++ [call])
    (haccepted : Accepted options call) :
    (∃ response apdu,
      (Xdlms.processSetRequest (serverHandler (recordingDevice device) context) options
        request blocks state).1 = .ok response ∧
      Apdu.decodeXdlmsApdu response = .ok apdu ∧
      Reports (Xdlms.invokeIdOfSet request) call apdu getBlocks) ∧
    ¬ MethodWithoutOutput call := by
  have hinvoke : Xdlms.invokeIdOfSet request &&& 0x0F = Xdlms.invokeIdOfSet request := by
    cases request <;> rw [Xdlms.invokeIdOfSet, UInt8.and_assoc] <;> rfl
  rcases Xdlms.processSetRequest_cases (serverHandler (recordingDevice device) context) options
    request blocks state with hsame | ⟨indication, encode, hid, -, hencode, hstate, hout⟩
  · rw [hsame] at hcall
    exact absurd hcall (log_ne_append _ call)
  rw [hstate] at hcall
  rcases handleSet_called device context state indication hcall with
    ⟨descriptor, access, input, outcome, rfl, hresult⟩
  cases outcome with
  | error status => exact absurd haccepted id
  | ok written =>
      refine ⟨?_, id⟩
      rw [hresult rfl] at hout
      -- A SET in one request is answered by a result, and one in blocks by that of the last.
      rcases hencode with rfl | ⟨blockNumber, rfl⟩
      · exact ⟨_, _, hout.trans (Xdlms.encodeSetResponse_eq _ _),
          Xdlms.decode_setResponseNormal _ _, answer_invokeId _ hinvoke _, rfl⟩
      · exact ⟨_, _, hout.trans (Xdlms.encodeSetLastBlockResponse_eq _ _ _),
          Xdlms.decode_setResponseLastDataBlock _ _ _, answer_invokeId _ hinvoke _, rfl⟩

theorem action_reports_iff (request : Apdu.ActionRequest)
    (blocks : Xdlms.ActionRequestBlockState) (state : δ × List DeviceCall)
    (getBlocks : GetResponseBlockState)
    (hcall : (Xdlms.processActionRequest (serverHandler (recordingDevice device) context) options
      request blocks state).2.2.2 = state.2 ++ [call])
    (haccepted : Accepted options call) :
    (∃ response apdu,
      (Xdlms.processActionRequest (serverHandler (recordingDevice device) context) options
        request blocks state).1 = .ok response ∧
      Apdu.decodeXdlmsApdu response = .ok apdu ∧
      Reports (Xdlms.invokeIdOfAction request) call apdu getBlocks) ↔
    ¬ MethodWithoutOutput call := by
  have hinvoke : Xdlms.invokeIdOfAction request &&& 0x0F = Xdlms.invokeIdOfAction request := by
    cases request <;> rw [Xdlms.invokeIdOfAction, UInt8.and_assoc] <;> rfl
  rcases Xdlms.processActionRequest_cases (serverHandler (recordingDevice device) context) options
    request blocks state with hsame | ⟨indication, hid, -, hstate, hout⟩
  · rw [hsame] at hcall
    exact absurd hcall (log_ne_append _ call)
  rw [hstate] at hcall
  rcases handleAction_called device context state indication hcall with
    ⟨descriptor, access, input, outcome, rfl, hresult⟩
  cases outcome with
  | error status => exact absurd haccepted id
  | ok output =>
      rw [hresult output rfl] at hout
      dsimp only at hout
      by_cases hempty : output = []
      · -- There is data, says the result, and there is none to decode.
        subst hempty
        rw [Xdlms.encodeActionResponse_empty _ _ rfl rfl] at hout
        refine ⟨?_, fun h => absurd trivial h⟩
        rintro ⟨response, apdu, hok, -⟩
        rw [hout] at hok
        cases hok
      · refine ⟨fun _ h => ?_, fun _ => ?_⟩
        · cases output with
          | nil => exact hempty rfl
          | cons byte rest => exact h
        · rcases haccepted with hnil | ⟨⟨value, hvalue⟩, hsize⟩
          · exact absurd hnil hempty
          rw [Xdlms.encodeActionResponse_some _ _ value rfl hvalue,
            Xdlms.buffered_of_le] at hout
          · exact ⟨_, _, hout, Xdlms.decode_actionResponse_some _ _ _ value hvalue.1,
              answer_invokeId _ hinvoke _, rfl, hvalue⟩
          · rw [Xdlms.length_actionResponse_some, Apdu.apduBufferSize]
            rw [actionOutputLimit] at hsize
            show 6 + output.length ≤ 2048
            omega

/-- Every executed service is answered as executed, with the one exception of
    a method that returns nothing. -/
theorem executed_answered_iff (requestApdu : Bytes) (request : XdlmsApdu)
    (state state' : XdlmsServerState σ (δ × List DeviceCall))
    (result : Except XdlmsStatus Bytes)
    (hrequest : Apdu.decodeXdlmsApdu requestApdu = .ok request)
    (hrun : Xdlms.processRequest (serverHandler (recordingDevice device) context) options none
      requestApdu state = (result, state'))
    (hcall : state'.device.2 = state.device.2 ++ [call])
    (haccepted : Accepted options call) :
    (∃ response apdu, result = .ok response ∧ Apdu.decodeXdlmsApdu response = .ok apdu ∧
      Reports (Xdlms.invokeIdOf request) call apdu state'.getBlocks) ↔
    ¬ MethodWithoutOutput call := by
  have hdecoded : Xdlms.decodeRequest (none : Option (Xdlms.SecurityProcessor σ)) requestApdu
      state.security = (.ok request, state.security) := by
    simp [Xdlms.decodeRequest, hrequest]
  -- Without security the response is that of the service.
  have hservice : Xdlms.processService (serverHandler (recordingDevice device) context) options
      request state = (result, state') := by
    rw [Xdlms.processRequest_of_decoded _ _ _ _ _ _ _ hdecoded] at hrun
    rcases hout : Xdlms.processService (serverHandler (recordingDevice device) context) options
      request state with ⟨status | response, after⟩
    · rw [hout] at hrun
      exact hrun
    · rw [hout] at hrun
      exact hrun
  have hresult : (Xdlms.processService (serverHandler (recordingDevice device) context) options
      request state).1 = result := congrArg Prod.fst hservice
  have hstate : (Xdlms.processService (serverHandler (recordingDevice device) context) options
      request state).2 = state' := congrArg Prod.snd hservice
  rw [← hstate] at hcall
  rw [← hresult, ← hstate]
  cases request with
  | getRequest request =>
      rcases get_reports device context options call request state.getBlocks state.device hcall
        haccepted with ⟨hreports, hcalled⟩
      exact iff_of_true hreports hcalled
  | setRequest request =>
      rcases set_reports device context options call request state.setBlocks state.device
        state.getBlocks hcall haccepted with ⟨hreports, hcalled⟩
      exact iff_of_true hreports hcalled
  | actionRequest request =>
      exact action_reports_iff device context options call request state.actionBlocks
        state.device _ hcall haccepted
  -- No other APDU is a service, so that nothing was executed.
  | initiateRequest apdu => exact absurd hcall (log_ne_append _ call)
  | initiateResponse apdu => exact absurd hcall (log_ne_append _ call)
  | getResponse apdu => exact absurd hcall (log_ne_append _ call)
  | setResponse apdu => exact absurd hcall (log_ne_append _ call)
  | actionResponse apdu => exact absurd hcall (log_ne_append _ call)
  | ciphered apdu => exact absurd hcall (log_ne_append _ call)

end Reports

/-! ### A disconnector -/

/-- A device with one switch: reading says whether it is on, and every method
    turns it off and returns nothing. -/
def disconnector : ILogicalDevice Bool where
  readAttribute := fun _ _ connected => (.ok [0x03, if connected then 0x01 else 0x00], connected)
  writeAttribute := fun _ _ _ connected => (.error .accessDenied, connected)
  invokeMethod := fun _ _ _ _ => (.ok [], false)

/-- The context of a client that has an association without authentication. -/
def associatedContext : ServerContext :=
  ServerContext.setAssociationContext { associated := true, clientSap := 16, serverSap := 1 }

def disconnectControlName : Apdu.LogicalName := ⟨0, 0, 96, 3, 10, 255⟩

def readOutputStateRequest : Bytes :=
  Apdu.getRequestNormalBytes 0xC1
    { classId := 70, logicalName := disconnectControlName, attributeId := 2 }

def remoteDisconnectRequest : Bytes :=
  Apdu.actionRequestNormalBytes 0xC1
    { classId := 70, logicalName := disconnectControlName, methodId := 1 } none

/-- The server of the disconnector, connected and with nothing recorded. -/
def disconnectorState : XdlmsServerState Unit (Bool × List DeviceCall) where
  security := ()
  device := (true, [])

def processDisconnector (requestApdu : Bytes) :
    Except XdlmsStatus Bytes × XdlmsServerState Unit (Bool × List DeviceCall) :=
  Xdlms.processRequest (serverHandler (recordingDevice disconnector) associatedContext)
    Xdlms.defaultServiceOptions none requestApdu disconnectorState

def readOutputStateCall : DeviceCall :=
  .read
    { object := { classId := 70, version := 0, logicalName := disconnectControlName }
      attributeId := 2 }
    Cosem.publicAccessContext (.ok [0x03, 0x01])

def remoteDisconnectCall : DeviceCall :=
  .invoke
    { object := { classId := 70, version := 0, logicalName := disconnectControlName }
      methodId := 1 }
    Cosem.publicAccessContext [] (.ok [])

/-- Reading the switch is answered as executed. -/
theorem executed_answered_readOutputState :
    (∃ response apdu, (processDisconnector readOutputStateRequest).1 = .ok response ∧
      Apdu.decodeXdlmsApdu response = .ok apdu ∧
      Reports 1 readOutputStateCall apdu
        (processDisconnector readOutputStateRequest).2.getBlocks) ↔
    ¬ MethodWithoutOutput readOutputStateCall :=
  executed_answered_iff disconnector associatedContext Xdlms.defaultServiceOptions
    readOutputStateCall readOutputStateRequest _ disconnectorState _ _ rfl rfl rfl
    ⟨⟨_, rfl, rfl⟩, by rw [GetSizeAccepted]; decide⟩

/-- Turning it off is executed, and answered with a failure to encode: the
    client is not told of a switch that is now off. -/
theorem remoteDisconnect_not_answered :
    (processDisconnector remoteDisconnectRequest).2.device = (false, [remoteDisconnectCall]) ∧
      Accepted Xdlms.defaultServiceOptions remoteDisconnectCall ∧
      (processDisconnector remoteDisconnectRequest).1 = .error .encodeFailed ∧
      ¬ ∃ response apdu, (processDisconnector remoteDisconnectRequest).1 = .ok response ∧
        Apdu.decodeXdlmsApdu response = .ok apdu ∧
        Reports 1 remoteDisconnectCall apdu
          (processDisconnector remoteDisconnectRequest).2.getBlocks := by
  have hfailed : (processDisconnector remoteDisconnectRequest).1 = .error .encodeFailed := rfl
  refine ⟨rfl, .inl rfl, hfailed, ?_⟩
  rintro ⟨response, apdu, hok, -⟩
  rw [hfailed] at hok
  cases hok

end Server

end Dlms
