import Dlms.Xdlms.Client

/-!
# The loop over the blocks of a response

A client collects the blocks of a long GET and those of a long ACTION in the
same way: it appends the block it has, asks for the next one, and ends with the
last. The two differ in what they ask for, which response brings a block, and
what they make of the whole. So what is true of both is proved once, of the
loop with these as parameters.

## Main definitions

* `BlockLoop`: What the two loops differ in.
* `collectBlocks`: The loop.
* `getLoop`, `actionLoop`: The two.

## Theorems

* `collectGetBlocks_eq`, `collectActionBlocks_eq`: They are these loops.
-/

namespace Dlms

namespace Xdlms

open Apdu (Bytes DataBlock XdlmsApdu)

/-- The request for the block after a number, the block of a response, and the
    outcome of the blocks together. -/
structure BlockLoop (ρ : Type) where
  request : UInt32 → XdlmsApdu
  block : XdlmsApdu → Option (UInt8 × DataBlock)
  finish : Bytes → Except XdlmsStatus Unit × ρ
  failed : ρ

section Loop

variable {χ σ ρ : Type} (client : XdlmsClient χ σ) (loop : BlockLoop ρ) (invokeId : UInt8)

/-- Collect the blocks from this one on. -/
def collectBlocks :
    Nat → UInt8 → DataBlock → BlockTransferManager → XdlmsClientState χ σ →
      Option (Outcome χ σ ρ)
  | 0, _, _, _, _ => none
  | responses + 1, responseInvokeId, block, blocks, state =>
      if responseInvokeId &&& 0x0F ≠ invokeId then
        some (.error .invokeIdMismatch, loop.failed, state)
      else
        match blocks.appendBlock block with
        | .error status => some (.error status, loop.failed, state)
        | .ok blocks =>
            if block.lastBlock then
              some ((loop.finish blocks.data).1, (loop.finish blocks.data).2, state)
            else
              match sendAndReceive client (loop.request block.blockNumber) state with
              | (.error status, state) => some (.error status, loop.failed, state)
              | (.ok response, state) =>
                  match loop.block response with
                  | some (responseInvokeId, block) =>
                      collectBlocks responses responseInvokeId block blocks state
                  | none => some (.error .decodeFailed, loop.failed, state)

end Loop

/-- The loop over the blocks of a GET. -/
def getLoop (invokeId invokeIdAndPriority : UInt8) : BlockLoop GetResult where
  request := fun blockNumber => .getRequest (.next invokeIdAndPriority blockNumber)
  block := fun response =>
    match response with
    | .getResponse (.withDataBlock responseInvokeId block) => some (responseInvokeId, block)
    | _ => none
  finish := fun data => (.ok (), { invokeId := invokeId, hasData := true, data := data })
  failed := {}

/-- The loop over those of an ACTION, whose payload is decoded. -/
def actionLoop (invokeId invokeIdAndPriority : UInt8) : BlockLoop ActionResult where
  request := fun blockNumber => .actionRequest (.nextPblock invokeIdAndPriority blockNumber)
  block := fun response =>
    match response with
    | .actionResponse (.withPblock responseInvokeId block) => some (responseInvokeId, block)
    | _ => none
  finish := fun data =>
    match decodeActionBlockPayload invokeIdAndPriority data with
    | .error status => (.error status, {})
    | .ok (responseInvokeId, item) => copyActionResponse responseInvokeId item invokeId
  failed := {}

section Loops

variable {χ σ : Type} (client : XdlmsClient χ σ) (invokeId iip : UInt8)

theorem collectGetBlocks_eq (responses : Nat) (responseInvokeId : UInt8) (block : DataBlock)
    (blocks : BlockTransferManager) (state : XdlmsClientState χ σ) :
    collectGetBlocks client invokeId iip responses responseInvokeId block blocks state =
      collectBlocks client (getLoop invokeId iip) invokeId responses responseInvokeId block blocks
        state := by
  induction responses generalizing responseInvokeId block blocks state with
  | zero => rfl
  | succ responses ih =>
      rw [collectGetBlocks, collectBlocks, receiveGetResponse]
      simp only [ih]
      split
      · rfl
      · cases blocks.appendBlock block with
        | error status => rfl
        | ok appended =>
            simp only [getLoop]
            split
            · rfl
            · rcases sendAndReceive client (.getRequest (.next iip block.blockNumber)) state with
                ⟨status | response, after⟩
              · rfl
              · cases response with
                | getResponse response => cases response <;> rfl
                | _ => rfl

theorem collectActionBlocks_eq (responses : Nat) (responseInvokeId : UInt8) (block : DataBlock)
    (blocks : BlockTransferManager) (state : XdlmsClientState χ σ) :
    collectActionBlocks client invokeId iip responses responseInvokeId block blocks state =
      collectBlocks client (actionLoop invokeId iip) invokeId responses responseInvokeId block
        blocks state := by
  induction responses generalizing responseInvokeId block blocks state with
  | zero => rfl
  | succ responses ih =>
      rw [collectActionBlocks, collectBlocks, receiveActionResponse]
      simp only [ih]
      split
      · rfl
      · cases blocks.appendBlock block with
        | error status => rfl
        | ok appended =>
            simp only [actionLoop]
            split
            · cases decodeActionBlockPayload iip appended.data with
              | error status => rfl
              | ok decoded => rfl
            · rcases sendAndReceive client (.actionRequest (.nextPblock iip block.blockNumber))
                state with ⟨status | response, after⟩
              · rfl
              · cases response with
                | actionResponse response => cases response <;> rfl
                | _ => rfl

end Loops

end Xdlms

end Dlms
