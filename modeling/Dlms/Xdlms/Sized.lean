import Dlms.Apdu.Uniform
import Dlms.Xdlms.Outcomes

/-!
# The bytes a server answers with

Whatever the request, a server answers with an encoded response or not at all.
So an answer is not empty, and fits the buffer of the codec. What else it is
does not depend on the security processor, which is not asked before the answer
is there.

## Main definitions

* `Sized`: An answer that is not empty and fits the buffer.
* `SameService`: Two servers that differ in their security alone.

## Theorems

* `sized_processService`: The answer of every service.
* `processService_same`: It is the same with any security.
-/

namespace Dlms

namespace Xdlms

open Apdu (Bytes IsService apduBufferSize)

/-- Not empty, and not more than the codec's buffer, when it is an answer at
    all. -/
def Sized (answer : Except XdlmsStatus Bytes) : Prop :=
  ∀ bytes, answer = .ok bytes → bytes ≠ [] ∧ bytes.length ≤ apduBufferSize

theorem sized_error (status : XdlmsStatus) : Sized (.error status) :=
  fun _ h => absurd h nofun

theorem sized_encodeResponse (response : Apdu.XdlmsApdu) (h : IsService response) :
    Sized (encodeResponse response) := by
  intro bytes hbytes
  unfold encodeResponse at hbytes
  cases hencode : Apdu.encodeXdlmsApdu response with
  | error status =>
      rw [hencode] at hbytes
      cases hbytes
  | ok encoded =>
      rw [hencode] at hbytes
      rw [← Except.ok.inj hbytes]
      exact Apdu.encodedService response encoded h hencode

/-! ### GET -/

theorem sized_encodeGetResponse (iip : UInt8) (result : GetResult) :
    Sized (encodeGetResponse iip result) := by
  unfold encodeGetResponse
  split
  · exact sized_encodeResponse _ (.getResponse _)
  split
  · cases decodeEncodedData result.data with
    | error status => exact sized_error status
    | ok data => exact sized_encodeResponse _ (.getResponse _)
  · exact sized_error _

theorem sized_sendNextGetResponseBlock (blocks : GetResponseBlockState) :
    Sized (sendNextGetResponseBlock blocks).1 := by
  unfold sendNextGetResponseBlock
  split
  · exact sized_error _
  dsimp only
  have hsized : Sized (encodeGetDataBlockResponse
      (makeInvokeIdAndPriority blocks.invokeId blocks.options) (nextGetResponseBlock blocks)) :=
    sized_encodeResponse _ (.getResponse _)
  revert hsized
  generalize encodeGetDataBlockResponse _ _ = encoded
  intro hsized
  cases encoded with
  | error status => exact sized_error status
  | ok bytes =>
      dsimp only
      split
      · exact hsized
      · exact hsized

theorem sized_encodeGetResponseOrStartBlocks (iip : UInt8) (indication : GetIndication)
    (result : GetResult) (blocks : GetResponseBlockState) :
    Sized (encodeGetResponseOrStartBlocks iip indication result blocks).1 := by
  unfold encodeGetResponseOrStartBlocks
  split
  · exact sized_encodeGetResponse iip result
  split
  · exact sized_error _
  split
  · exact sized_error _
  split
  · exact sized_error _
  · exact sized_sendNextGetResponseBlock _

section Services

variable {δ : Type} (handler : XdlmsServerHandler δ) (options : ServiceOptions)

theorem sized_processGetRequest (request : Apdu.GetRequest) (blocks : GetResponseBlockState)
    (device : δ) : Sized (processGetRequest handler options request blocks device).1 := by
  have houtcome := processGetRequest_outcome handler options request blocks device
  generalize processGetRequest handler options request blocks device = out at houtcome ⊢
  cases houtcome with
  | next iip blockNumber => exact sized_sendNextGetResponseBlock blocks
  | normal iip normal indication answer after hidle hselection hconfirmed hindication hanswer =>
      rcases hanswer with ⟨status, -, rfl⟩ | ⟨result, -, rfl⟩
      · exact sized_error status
      · exact sized_encodeGetResponseOrStartBlocks _ _ result blocks
  | _ => exact sized_error _

/-! ### SET -/

theorem sized_encodeSetBlockAckResponse (iip : UInt8) (blockNumber : UInt32) :
    Sized (encodeSetBlockAckResponse iip blockNumber) :=
  sized_encodeResponse _ (.setResponse _)

theorem sized_answerSet (indication : SetIndication)
    (encode : UInt8 → SetResult → Except XdlmsStatus Bytes) (device : δ)
    (h : ∀ iip result, Sized (encode iip result)) :
    Sized (answerSet handler indication encode device).1 := by
  unfold answerSet
  rcases dispatchSet handler indication device with ⟨status | result, after⟩
  · exact sized_error status
  · exact h _ _

theorem sized_processSetRequest (request : Apdu.SetRequest) (blocks : SetRequestBlockState)
    (device : δ) : Sized (processSetRequest handler options request blocks device).1 := by
  have hanswers (indication : SetIndication) (blockNumber : UInt32) :
      Sized (answerSet handler indication
        (fun iip => encodeSetLastBlockResponse iip blockNumber) device).1 :=
    sized_answerSet handler _ _ device fun _ _ => sized_encodeResponse _ (.setResponse _)
  have houtcome := processSetRequest_outcome handler options request blocks device
  generalize processSetRequest handler options request blocks device = out at houtcome ⊢
  cases houtcome with
  | normal iip normal data =>
      exact sized_answerSet handler _ _ device fun _ _ => sized_encodeResponse _ (.setResponse _)
  | firstAcknowledged iip normal dataBlock => exact sized_encodeSetBlockAckResponse iip _
  | firstAnswered iip normal dataBlock indication answer hexpects hlast hindication hanswer =>
      exact hanswer ▸ hanswers indication 1
  | nextAcknowledged iip dataBlock => exact sized_encodeSetBlockAckResponse iip _
  | nextAnswered iip dataBlock indication answer hexpects hlast hindication hanswer =>
      exact hanswer ▸ hanswers indication dataBlock.blockNumber
  | _ => exact sized_error _

/-! ### ACTION -/

theorem sized_encodeActionNextPblockResponse (iip : UInt8) (blockNumber : UInt32) :
    Sized (encodeActionNextPblockResponse iip blockNumber) :=
  sized_encodeResponse _ (.actionResponse _)

theorem sized_encodeActionResponse (iip : UInt8) (result : ActionResult) :
    Sized (encodeActionResponse iip result) := by
  unfold encodeActionResponse
  split
  · cases decodeEncodedData result.data with
    | error status => exact sized_error status
    | ok data => exact sized_encodeResponse _ (.actionResponse _)
  · exact sized_encodeResponse _ (.actionResponse _)

theorem sized_answerAction (indication : ActionIndication) (device : δ) :
    Sized (answerAction handler indication device).1 := by
  unfold answerAction
  rcases dispatchAction handler indication device with ⟨status | result, after⟩
  · exact sized_error status
  · exact sized_encodeActionResponse _ result

theorem sized_validateAndAnswerAction (indication : ActionIndication) (parameter : Bytes)
    (device : δ) : Sized (validateAndAnswerAction handler indication parameter device).1 := by
  unfold validateAndAnswerAction
  cases validateEncodedActionParameter parameter with
  | error status => exact sized_error status
  | ok valid => exact sized_answerAction handler _ device

theorem sized_processActionRequest (request : Apdu.ActionRequest)
    (blocks : ActionRequestBlockState) (device : δ) :
    Sized (processActionRequest handler options request blocks device).1 := by
  have houtcome := processActionRequest_outcome handler options request blocks device
  generalize processActionRequest handler options request blocks device = out at houtcome ⊢
  cases houtcome with
  | normal iip normal indication => exact sized_answerAction handler indication device
  | firstAcknowledged iip descriptor dataBlock => exact sized_encodeActionNextPblockResponse iip _
  | firstAnswered iip descriptor dataBlock indication answer hexpects hlast hindication hanswer =>
      exact hanswer ▸ sized_validateAndAnswerAction handler indication _ device
  | nextAcknowledged iip dataBlock => exact sized_encodeActionNextPblockResponse iip _
  | nextAnswered iip dataBlock indication answer hexpects hlast hindication hanswer =>
      exact hanswer ▸ sized_validateAndAnswerAction handler indication _ device
  | _ => exact sized_error _

/-! ### Any service -/

/-- An answer is not empty and fits the buffer, whatever the request. -/
theorem sized_processService {σ : Type} (request : Apdu.XdlmsApdu)
    (state : XdlmsServerState σ δ) :
    Sized (processService handler options request state).1 := by
  cases request with
  | getRequest request => exact sized_processGetRequest handler options request _ _
  | setRequest request => exact sized_processSetRequest handler options request _ _
  | actionRequest request => exact sized_processActionRequest handler options request _ _
  | _ => exact sized_error _

/-- Two servers with one device and the same transfers open. -/
structure SameService {σ σ' : Type} (state : XdlmsServerState σ δ)
    (state' : XdlmsServerState σ' δ) : Prop where
  getBlocks : state.getBlocks = state'.getBlocks
  setBlocks : state.setBlocks = state'.setBlocks
  actionBlocks : state.actionBlocks = state'.actionBlocks
  device : state.device = state'.device

/-- A service does not look at the security, and leaves it as it was. -/
theorem processService_same {σ σ' : Type} (request : Apdu.XdlmsApdu)
    (state : XdlmsServerState σ δ) (state' : XdlmsServerState σ' δ)
    (h : SameService state state') :
    (processService handler options request state).1 =
        (processService handler options request state').1 ∧
      SameService (processService handler options request state).2
        (processService handler options request state').2 ∧
      (processService handler options request state).2.security = state.security := by
  rcases state with ⟨getBlocks, setBlocks, actionBlocks, security, device⟩
  rcases state' with ⟨getBlocks', setBlocks', actionBlocks', security', device'⟩
  rcases h with ⟨rfl, rfl, rfl, rfl⟩
  cases request with
  | _ => exact ⟨rfl, ⟨rfl, rfl, rfl, rfl⟩, rfl⟩

end Services

end Xdlms

end Dlms
