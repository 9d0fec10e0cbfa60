import Dlms.Xdlms.Server

/-!
# What a service comes to

One request to one service of the processor is refused, moves a block transfer
on, or asks the handler. The three processing functions are read here once, each
into the ways it can end, with what led to each of them. Whatever is said of the
processor is said of these ways.

A transfer is moved on by the block it expects. Any other block is refused, and
then no transfer of the service is under way: there was none, or it is reset.

## Main definitions

* `GetResponseBlockState.Expects`, `SetRequestBlockState.Expects`,
  `ActionRequestBlockState.Expects`: The block that moves a transfer on.
* `GetOutcome`, `SetOutcome`, `ActionOutcome`: How a request can end.

## Theorems

* `processGetRequest_outcome`, `processSetRequest_outcome`,
  `processActionRequest_outcome`: A request ends in one of these ways.
-/

namespace Dlms

namespace Xdlms

open Apdu (Bytes DataBlock)

variable {δ : Type} (handler : XdlmsServerHandler δ) (options : ServiceOptions)

/-! ### GET -/

/-- The next block of the answer that is being served is asked for. -/
def GetResponseBlockState.Expects (blocks : GetResponseBlockState) (iip : UInt8)
    (blockNumber : UInt32) : Prop :=
  blocks.active = true ∧ iip &&& 0x0F = blocks.invokeId ∧
    blockNumber = blocks.nextBlockNumber - 1

/-- How a GET request can end. -/
inductive GetOutcome (blocks : GetResponseBlockState) (device : δ) :
    Apdu.GetRequest → Except XdlmsStatus Bytes × GetResponseBlockState × δ → Prop where
  | withList iip list :
      GetOutcome blocks device (.withList iip list) (.error .unsupportedFeature, blocks, device)
  | nextRefused iip blockNumber status after (hexpects : ¬blocks.Expects iip blockNumber)
      (hafter : after = blocks ∨ after = {}) (hinactive : after.active = false) :
      GetOutcome blocks device (.next iip blockNumber) (.error status, after, device)
  | next iip blockNumber (hexpects : blocks.Expects iip blockNumber) :
      GetOutcome blocks device (.next iip blockNumber)
        ((sendNextGetResponseBlock blocks).1, (sendNextGetResponseBlock blocks).2, device)
  | normalRefused iip normal status after
      (hrefused : blocks.active = true ∨ normal.selection.isSome = true ∨
        (parseServiceOptions iip options).confirmed = false)
      (hafter : after = blocks ∨ after = {}) (hinactive : after.active = false) :
      GetOutcome blocks device (.normal iip normal) (.error status, after, device)
  | normal iip normal indication answer after (hidle : blocks.active = false)
      (hselection : normal.selection.isSome = false)
      (hconfirmed : (parseServiceOptions iip options).confirmed = true)
      (hindication : indication =
        { invokeId := iip &&& 0x0F
          options := parseServiceOptions iip options
          descriptor := toXdlmsDescriptor normal.descriptor })
      (hanswer :
        (∃ status, dispatchGet handler indication device = (.error status, after) ∧
          answer = (.error status, blocks)) ∨
        ∃ result, dispatchGet handler indication device = (.ok result, after) ∧
          answer = encodeGetResponseOrStartBlocks
            (makeInvokeIdAndPriority indication.invokeId indication.options) indication result
            blocks) :
      GetOutcome blocks device (.normal iip normal) (answer.1, answer.2, after)

theorem processGetRequest_outcome (request : Apdu.GetRequest) (blocks : GetResponseBlockState)
    (device : δ) :
    GetOutcome handler options blocks device request
      (processGetRequest handler options request blocks device) := by
  cases request with
  | withList iip list => exact .withList iip list
  | next iip blockNumber =>
      by_cases hexpects : blocks.Expects iip blockNumber
      · rcases hexpects with ⟨hactive, hinvoke, rfl⟩
        simp only [processGetRequest, hactive, hinvoke, Bool.not_true, Bool.false_eq_true, if_false,
          ne_eq, not_true_eq_false]
        exact .next _ _ ⟨hactive, hinvoke, rfl⟩
      · simp only [processGetRequest]
        split_ifs with hactive hinvoke hnumber
        · exact .nextRefused _ _ _ _ hexpects (.inl rfl) (Bool.not_eq_true' _ |>.mp hactive)
        · exact .nextRefused _ _ _ _ hexpects (.inr rfl) rfl
        · exact .nextRefused _ _ _ _ hexpects (.inr rfl) rfl
        · rw [Bool.not_eq_true', Bool.not_eq_false] at hactive
          exact absurd ⟨hactive, not_not.mp hinvoke, not_not.mp hnumber⟩ hexpects
  | normal iip normal =>
      simp only [processGetRequest]
      split_ifs with hactive hselection hconfirmed
      · exact .normalRefused _ _ _ _ (.inl hactive) (.inr rfl) rfl
      · exact .normalRefused _ _ _ _ (.inr (.inl hselection)) (.inl rfl)
          (Bool.not_eq_true _ |>.mp hactive)
      · exact .normalRefused _ _ _ _ (.inr (.inr (Bool.not_eq_true' _ |>.mp hconfirmed)))
          (.inl rfl) (Bool.not_eq_true _ |>.mp hactive)
      · rw [Bool.not_eq_true', Bool.not_eq_false] at hconfirmed
        rw [Bool.not_eq_true] at hactive hselection
        rcases hdispatched : dispatchGet handler
            { invokeId := iip &&& 0x0F
              options := parseServiceOptions iip options
              descriptor := toXdlmsDescriptor normal.descriptor } device with
          ⟨status | result, after⟩
        · exact .normal iip normal _ (.error status, blocks) after hactive hselection hconfirmed
            rfl (.inl ⟨status, hdispatched, rfl⟩)
        · exact .normal iip normal _ _ after hactive hselection hconfirmed rfl
            (.inr ⟨result, hdispatched, rfl⟩)

/-! ### SET -/

/-- A block of a SET that is taken: the first one of a new transfer, or the next
    one of the transfer that is under way. -/
def SetRequestBlockState.Expects (blocks : SetRequestBlockState) : Apdu.SetRequest → Prop
  | .withFirstDataBlock iip normal dataBlock =>
      blocks.active = false ∧ normal.selection.isSome = false ∧ dataBlock.blockNumber = 1 ∧
        (parseServiceOptions iip options).confirmed = true ∧
        dataBlock.rawData.length ≤ options.maxBlockTransferBytes
  | .withDataBlock iip dataBlock =>
      blocks.active = true ∧ iip &&& 0x0F = blocks.invokeId ∧
        dataBlock.blockNumber = blocks.nextBlockNumber ∧
        dataBlock.rawData.length ≤ blocks.options.maxBlockTransferBytes ∧
        blocks.data.length ≤ blocks.options.maxBlockTransferBytes - dataBlock.rawData.length
  | _ => False

/-- How a SET request can end. -/
inductive SetOutcome (blocks : SetRequestBlockState) (device : δ) :
    Apdu.SetRequest → Except XdlmsStatus Bytes × SetRequestBlockState × δ → Prop where
  | withList iip list values :
      SetOutcome blocks device (.withList iip list values)
        (.error .unsupportedFeature, blocks, device)
  | withListAndFirstDataBlock iip list dataBlock :
      SetOutcome blocks device (.withListAndFirstDataBlock iip list dataBlock)
        (.error .unsupportedFeature, blocks, device)
  | normalRefused iip normal data status
      (hstatus : status = .unsupportedFeature ∨ encodeDataBytes data = .error status) :
      SetOutcome blocks device (.normal iip normal data) (.error status, blocks, device)
  | normal iip normal data indication encoded
      (hselection : normal.selection.isSome = false)
      (hconfirmed : (parseServiceOptions iip options).confirmed = true)
      (hencoded : encodeDataBytes data = .ok encoded)
      (hindication : indication =
        { invokeId := iip &&& 0x0F
          options := parseServiceOptions iip options
          descriptor := toXdlmsDescriptor normal.descriptor
          data := encoded }) :
      SetOutcome blocks device (.normal iip normal data)
        ((answerSet handler indication encodeSetResponse device).1, blocks,
          (answerSet handler indication encodeSetResponse device).2)
  | firstRefused iip normal dataBlock status after
      (hexpects : ¬blocks.Expects options (.withFirstDataBlock iip normal dataBlock))
      (hafter : after = blocks ∨ after = {}) (hinactive : after.active = false) :
      SetOutcome blocks device (.withFirstDataBlock iip normal dataBlock)
        (.error status, after, device)
  | firstAcknowledged iip normal dataBlock
      (hexpects : blocks.Expects options (.withFirstDataBlock iip normal dataBlock))
      (hlast : dataBlock.lastBlock = false) :
      SetOutcome blocks device (.withFirstDataBlock iip normal dataBlock)
        (encodeSetBlockAckResponse iip 1,
          { active := true
            invokeId := iip &&& 0x0F
            options := parseServiceOptions iip options
            descriptor := toXdlmsDescriptor normal.descriptor
            nextBlockNumber := 2
            data := dataBlock.rawData },
          device)
  | firstAnswered iip normal dataBlock indication answer
      (hexpects : blocks.Expects options (.withFirstDataBlock iip normal dataBlock))
      (hlast : dataBlock.lastBlock = true)
      (hindication : indication =
        { invokeId := iip &&& 0x0F
          options := parseServiceOptions iip options
          descriptor := toXdlmsDescriptor normal.descriptor
          data := dataBlock.rawData })
      (hanswer : answer =
        answerSet handler indication (fun iip => encodeSetLastBlockResponse iip 1) device) :
      SetOutcome blocks device (.withFirstDataBlock iip normal dataBlock)
        (answer.1, blocks, answer.2)
  | nextRefused iip dataBlock status after
      (hexpects : ¬blocks.Expects options (.withDataBlock iip dataBlock))
      (hafter : after = blocks ∨ after = {}) (hinactive : after.active = false) :
      SetOutcome blocks device (.withDataBlock iip dataBlock) (.error status, after, device)
  | nextAcknowledged iip dataBlock
      (hexpects : blocks.Expects options (.withDataBlock iip dataBlock))
      (hlast : dataBlock.lastBlock = false) :
      SetOutcome blocks device (.withDataBlock iip dataBlock)
        (encodeSetBlockAckResponse iip dataBlock.blockNumber,
          { blocks with
            data := blocks.data ++ dataBlock.rawData
            nextBlockNumber := blocks.nextBlockNumber + 1 },
          device)
  | nextAnswered iip dataBlock indication answer
      (hexpects : blocks.Expects options (.withDataBlock iip dataBlock))
      (hlast : dataBlock.lastBlock = true)
      (hindication : indication =
        { invokeId := blocks.invokeId
          options := blocks.options
          descriptor := blocks.descriptor
          data := blocks.data ++ dataBlock.rawData })
      (hanswer : answer = answerSet handler indication
        (fun iip => encodeSetLastBlockResponse iip dataBlock.blockNumber) device) :
      SetOutcome blocks device (.withDataBlock iip dataBlock) (answer.1, {}, answer.2)

theorem processSetRequest_outcome (request : Apdu.SetRequest) (blocks : SetRequestBlockState)
    (device : δ) :
    SetOutcome handler options blocks device request
      (processSetRequest handler options request blocks device) := by
  cases request with
  | withList iip list values => exact .withList iip list values
  | withListAndFirstDataBlock iip list dataBlock =>
      exact .withListAndFirstDataBlock iip list dataBlock
  | normal iip normal data =>
      simp only [processSetRequest]
      split_ifs with hselection hconfirmed
      · exact .normalRefused _ _ _ _ (.inl rfl)
      · exact .normalRefused _ _ _ _ (.inl rfl)
      · rw [Bool.not_eq_true', Bool.not_eq_false] at hconfirmed
        cases hencoded : encodeDataBytes data with
        | error status => exact .normalRefused _ _ _ _ (.inr hencoded)
        | ok encoded =>
            exact .normal iip normal data _ encoded (Bool.not_eq_true _ |>.mp hselection)
              hconfirmed hencoded rfl
  | withFirstDataBlock iip normal dataBlock =>
      simp only [processSetRequest]
      split_ifs with hactive hselection hnumber hconfirmed hsize hlast
      · exact .firstRefused _ _ _ _ _ (fun h => Bool.false_ne_true (h.1.symm.trans hactive))
          (.inr rfl) rfl
      · exact .firstRefused _ _ _ _ _ (fun h => Bool.false_ne_true (h.2.1.symm.trans hselection))
          (.inl rfl) (Bool.not_eq_true _ |>.mp hactive)
      · exact .firstRefused _ _ _ _ _ (fun h => hnumber h.2.2.1) (.inl rfl)
          (Bool.not_eq_true _ |>.mp hactive)
      · rw [Bool.not_eq_true'] at hconfirmed
        exact .firstRefused _ _ _ _ _
          (fun h => Bool.false_ne_true (hconfirmed.symm.trans h.2.2.2.1)) (.inl rfl)
          (Bool.not_eq_true _ |>.mp hactive)
      · exact .firstRefused _ _ _ _ _ (fun h => Nat.not_lt.mpr h.2.2.2.2 hsize) (.inl rfl)
          (Bool.not_eq_true _ |>.mp hactive)
      all_goals
        rw [Bool.not_eq_true', Bool.not_eq_false] at hconfirmed
        have hexpects : blocks.Expects options (.withFirstDataBlock iip normal dataBlock) :=
          ⟨Bool.not_eq_true _ |>.mp hactive, Bool.not_eq_true _ |>.mp hselection,
            not_not.mp hnumber, hconfirmed, Nat.not_lt.mp hsize⟩
        rw [Bool.not_eq_true'] at hlast
      · exact .firstAcknowledged iip normal dataBlock hexpects hlast
      · exact .firstAnswered iip normal dataBlock _ _ hexpects (Bool.not_eq_false _ |>.mp hlast)
          rfl rfl
  | withDataBlock iip dataBlock =>
      simp only [processSetRequest]
      split_ifs with hactive hinvoke hnumber hsize hlast
      · exact .nextRefused _ _ _ _
          (fun h => Bool.false_ne_true ((Bool.not_eq_true' _ |>.mp hactive).symm.trans h.1))
          (.inl rfl) (Bool.not_eq_true' _ |>.mp hactive)
      · exact .nextRefused _ _ _ _ (fun h => hinvoke h.2.1) (.inr rfl) rfl
      · exact .nextRefused _ _ _ _ (fun h => hnumber h.2.2.1) (.inr rfl) rfl
      · exact .nextRefused _ _ _ _
          (fun h => hsize.elim (Nat.not_lt.mpr h.2.2.2.1) (Nat.not_lt.mpr h.2.2.2.2))
          (.inr rfl) rfl
      all_goals
        rw [not_or, Nat.not_lt, Nat.not_lt] at hsize
        rw [Bool.not_eq_true', Bool.not_eq_false] at hactive
        have hexpects : blocks.Expects options (.withDataBlock iip dataBlock) :=
          ⟨hactive, not_not.mp hinvoke, not_not.mp hnumber, hsize.1, hsize.2⟩
        rw [Bool.not_eq_true'] at hlast
      · exact .nextAcknowledged iip dataBlock hexpects hlast
      · exact .nextAnswered iip dataBlock _ _ hexpects (Bool.not_eq_false _ |>.mp hlast) rfl rfl

/-! ### ACTION -/

/-- A block of an ACTION that is taken. -/
def ActionRequestBlockState.Expects (blocks : ActionRequestBlockState) :
    Apdu.ActionRequest → Prop
  | .withFirstPblock iip _ dataBlock =>
      blocks.active = false ∧ dataBlock.blockNumber = 1 ∧
        (parseServiceOptions iip options).confirmed = true ∧
        dataBlock.rawData.length ≤ options.maxBlockTransferBytes
  | .withPblock iip dataBlock =>
      blocks.active = true ∧ iip &&& 0x0F = blocks.invokeId ∧
        dataBlock.blockNumber = blocks.nextBlockNumber ∧
        dataBlock.rawData.length ≤ blocks.options.maxBlockTransferBytes ∧
        blocks.data.length ≤ blocks.options.maxBlockTransferBytes - dataBlock.rawData.length
  | _ => False

/-- How an ACTION request can end. -/
inductive ActionOutcome (blocks : ActionRequestBlockState) (device : δ) :
    Apdu.ActionRequest → Except XdlmsStatus Bytes × ActionRequestBlockState × δ → Prop where
  | nextPblock iip blockNumber :
      ActionOutcome blocks device (.nextPblock iip blockNumber)
        (.error .unsupportedFeature, blocks, device)
  | withList iip list :
      ActionOutcome blocks device (.withList iip list)
        (.error .unsupportedFeature, blocks, device)
  | withListAndFirstPblock iip list dataBlock :
      ActionOutcome blocks device (.withListAndFirstPblock iip list dataBlock)
        (.error .unsupportedFeature, blocks, device)
  | normalRefused iip normal status
      (hstatus : status = .unsupportedFeature ∨
        ∃ data, normal.invocationParameter = some data ∧ encodeDataBytes data = .error status) :
      ActionOutcome blocks device (.normal iip normal) (.error status, blocks, device)
  | normal iip normal indication parameter
      (hconfirmed : (parseServiceOptions iip options).confirmed = true)
      (hparameter : normal.invocationParameter = none ∧ parameter = none ∨
        ∃ data encoded, normal.invocationParameter = some data ∧
          encodeDataBytes data = .ok encoded ∧ parameter = some encoded)
      (hindication : indication =
        { invokeId := iip &&& 0x0F
          options := parseServiceOptions iip options
          descriptor := toXdlmsMethodDescriptor normal.descriptor
          parameter := parameter }) :
      ActionOutcome blocks device (.normal iip normal)
        ((answerAction handler indication device).1, blocks,
          (answerAction handler indication device).2)
  | firstRefused iip descriptor dataBlock status after
      (hexpects : ¬blocks.Expects options (.withFirstPblock iip descriptor dataBlock))
      (hafter : after = blocks ∨ after = {}) (hinactive : after.active = false) :
      ActionOutcome blocks device (.withFirstPblock iip descriptor dataBlock)
        (.error status, after, device)
  | firstAcknowledged iip descriptor dataBlock
      (hexpects : blocks.Expects options (.withFirstPblock iip descriptor dataBlock))
      (hlast : dataBlock.lastBlock = false) :
      ActionOutcome blocks device (.withFirstPblock iip descriptor dataBlock)
        (encodeActionNextPblockResponse iip 1,
          { active := true
            invokeId := iip &&& 0x0F
            options := parseServiceOptions iip options
            descriptor := toXdlmsMethodDescriptor descriptor
            nextBlockNumber := 2
            data := dataBlock.rawData },
          device)
  | firstAnswered iip descriptor dataBlock indication answer
      (hexpects : blocks.Expects options (.withFirstPblock iip descriptor dataBlock))
      (hlast : dataBlock.lastBlock = true)
      (hindication : indication =
        { invokeId := iip &&& 0x0F
          options := parseServiceOptions iip options
          descriptor := toXdlmsMethodDescriptor descriptor
          parameter := none })
      (hanswer : answer = validateAndAnswerAction handler indication dataBlock.rawData device) :
      ActionOutcome blocks device (.withFirstPblock iip descriptor dataBlock)
        (answer.1, blocks, answer.2)
  | nextRefused iip dataBlock status after
      (hexpects : ¬blocks.Expects options (.withPblock iip dataBlock))
      (hafter : after = blocks ∨ after = {}) (hinactive : after.active = false) :
      ActionOutcome blocks device (.withPblock iip dataBlock) (.error status, after, device)
  | nextAcknowledged iip dataBlock
      (hexpects : blocks.Expects options (.withPblock iip dataBlock))
      (hlast : dataBlock.lastBlock = false) :
      ActionOutcome blocks device (.withPblock iip dataBlock)
        (encodeActionNextPblockResponse iip dataBlock.blockNumber,
          { blocks with
            data := blocks.data ++ dataBlock.rawData
            nextBlockNumber := blocks.nextBlockNumber + 1 },
          device)
  | nextAnswered iip dataBlock indication answer
      (hexpects : blocks.Expects options (.withPblock iip dataBlock))
      (hlast : dataBlock.lastBlock = true)
      (hindication : indication =
        { invokeId := blocks.invokeId
          options := blocks.options
          descriptor := blocks.descriptor
          parameter := none })
      (hanswer : answer = validateAndAnswerAction handler indication
        (blocks.data ++ dataBlock.rawData) device) :
      ActionOutcome blocks device (.withPblock iip dataBlock) (answer.1, {}, answer.2)

theorem processActionRequest_outcome (request : Apdu.ActionRequest)
    (blocks : ActionRequestBlockState) (device : δ) :
    ActionOutcome handler options blocks device request
      (processActionRequest handler options request blocks device) := by
  cases request with
  | nextPblock iip blockNumber => exact .nextPblock iip blockNumber
  | withList iip list => exact .withList iip list
  | withListAndFirstPblock iip list dataBlock => exact .withListAndFirstPblock iip list dataBlock
  | normal iip normal =>
      simp only [processActionRequest]
      split_ifs with hconfirmed
      · exact .normalRefused _ _ _ (.inl rfl)
      · rw [Bool.not_eq_true', Bool.not_eq_false] at hconfirmed
        cases hparameter : normal.invocationParameter with
        | none => exact .normal iip normal _ none hconfirmed (.inl ⟨hparameter, rfl⟩) rfl
        | some data =>
            cases hencoded : encodeDataBytes data with
            | error status =>
                simp only [hencoded]
                exact .normalRefused _ _ _ (.inr ⟨data, hparameter, hencoded⟩)
            | ok encoded =>
                simp only [hencoded]
                exact .normal iip normal _ (some encoded) hconfirmed
                  (.inr ⟨data, encoded, hparameter, hencoded, rfl⟩) rfl
  | withFirstPblock iip descriptor dataBlock =>
      simp only [processActionRequest]
      split_ifs with hactive hnumber hconfirmed hsize hlast
      · exact .firstRefused _ _ _ _ _ (fun h => Bool.false_ne_true (h.1.symm.trans hactive))
          (.inr rfl) rfl
      · exact .firstRefused _ _ _ _ _ (fun h => hnumber h.2.1) (.inl rfl)
          (Bool.not_eq_true _ |>.mp hactive)
      · rw [Bool.not_eq_true'] at hconfirmed
        exact .firstRefused _ _ _ _ _
          (fun h => Bool.false_ne_true (hconfirmed.symm.trans h.2.2.1)) (.inl rfl)
          (Bool.not_eq_true _ |>.mp hactive)
      · exact .firstRefused _ _ _ _ _ (fun h => Nat.not_lt.mpr h.2.2.2 hsize) (.inl rfl)
          (Bool.not_eq_true _ |>.mp hactive)
      all_goals
        rw [Bool.not_eq_true', Bool.not_eq_false] at hconfirmed
        have hexpects : blocks.Expects options (.withFirstPblock iip descriptor dataBlock) :=
          ⟨Bool.not_eq_true _ |>.mp hactive, not_not.mp hnumber, hconfirmed,
            Nat.not_lt.mp hsize⟩
        rw [Bool.not_eq_true'] at hlast
      · exact .firstAcknowledged iip descriptor dataBlock hexpects hlast
      · exact .firstAnswered iip descriptor dataBlock _ _ hexpects
          (Bool.not_eq_false _ |>.mp hlast) rfl rfl
  | withPblock iip dataBlock =>
      simp only [processActionRequest]
      split_ifs with hactive hinvoke hnumber hsize hlast
      · exact .nextRefused _ _ _ _
          (fun h => Bool.false_ne_true ((Bool.not_eq_true' _ |>.mp hactive).symm.trans h.1))
          (.inl rfl) (Bool.not_eq_true' _ |>.mp hactive)
      · exact .nextRefused _ _ _ _ (fun h => hinvoke h.2.1) (.inr rfl) rfl
      · exact .nextRefused _ _ _ _ (fun h => hnumber h.2.2.1) (.inr rfl) rfl
      · exact .nextRefused _ _ _ _
          (fun h => hsize.elim (Nat.not_lt.mpr h.2.2.2.1) (Nat.not_lt.mpr h.2.2.2.2))
          (.inr rfl) rfl
      all_goals
        rw [not_or, Nat.not_lt, Nat.not_lt] at hsize
        rw [Bool.not_eq_true', Bool.not_eq_false] at hactive
        have hexpects : blocks.Expects options (.withPblock iip dataBlock) :=
          ⟨hactive, not_not.mp hinvoke, not_not.mp hnumber, hsize.1, hsize.2⟩
        rw [Bool.not_eq_true'] at hlast
      · exact .nextAcknowledged iip dataBlock hexpects hlast
      · exact .nextAnswered iip dataBlock _ _ hexpects (Bool.not_eq_false _ |>.mp hlast) rfl rfl

end Xdlms

end Dlms
