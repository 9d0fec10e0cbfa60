import Dlms.Xdlms.Server

/-!
# What the server's responses look like on the wire

Each response a server makes is one list of bytes, sent when the buffer of the
codec holds it and refused otherwise. The sizes say where that happens.

## Main definitions

* `buffered`: What the buffer lets through.

## Theorems

* `encodeGetResponse_data` and the same for the other responses: The bytes of
  a response.
* `decode_getResponseData` and the same for the others: What they decode to.
* `length_getResponseDataBytes` and the same for the others: Their sizes.
* `startBlocks_whole`, `startBlocks_allowed`, `startBlocks_disallowed`: How an
  answer starts.
* `sendNextGetResponseBlock_eq`, `sendNextGetResponseBlock_tooLarge`: The next
  block of a long answer, when its payload has a place in a response and when
  it has not.
-/

namespace Dlms

namespace Xdlms

open Codec
open Apdu

/-- What the buffer of the codec lets through. -/
def buffered (bytes : Bytes) : Except XdlmsStatus Bytes :=
  if bytes.length ≤ apduBufferSize then .ok bytes else .error .encodeFailed

theorem buffered_of_le (bytes : Bytes) (h : bytes.length ≤ apduBufferSize) :
    buffered bytes = .ok bytes :=
  if_pos h

theorem buffered_of_lt (bytes : Bytes) (h : apduBufferSize < bytes.length) :
    buffered bytes = .error .encodeFailed :=
  if_neg (by omega)

theorem encodeResponse_of_bounded (apdu : XdlmsApdu) (bytes : Bytes)
    (h : encodeXdlmsApdu apdu = bounded bytes) : encodeResponse apdu = buffered bytes := by
  rw [encodeResponse, h, bounded, buffered]
  by_cases hfits : bytes.length ≤ apduBufferSize
  · rw [if_pos hfits, if_pos hfits]
  · rw [if_neg hfits, if_neg hfits]

/-- Near the end of the buffer a length takes three octets, so an APDU with
    one octet string and `overhead` bytes around it fits when the string and
    those do. -/
theorem octetString_fits_iff (overhead n : Nat) (h : overhead ≤ 1024) :
    overhead + axdrLengthEncodedSize n + n ≤ apduBufferSize ↔
      n + overhead + 3 ≤ apduBufferSize := by
  rw [apduBufferSize]
  by_cases hlow : n < 256
  · have hmono := axdrLengthEncodedSize_mono n 255 (by omega)
    have hvalue : axdrLengthEncodedSize 255 = 2 := by decide
    omega
  · by_cases hhigh : n < 65536
    · rw [axdrLengthEncodedSize_eq_three n (by omega) hhigh]
      omega
    · omega

/-! ### Data on its way out -/

theorem ne_nil_of_canonicalData (depth : Nat) (data : Bytes) (value : DlmsData)
    (h : CanonicalData depth data value) : data ≠ [] := by
  rintro rfl
  have haccepts := (decodeDlmsData_eq_ok_iff _ _ _).mp h.1
  rw [Accepts] at haccepts
  -- A value starts with its tag, whatever the depth.
  cases depth with
  | zero =>
      have herror : decodeDlmsDataFromReader 0 [] = .error .invalidData := rfl
      rw [herror] at haccepts
      cases haccepts
  | succ depth =>
      have herror : decodeDlmsDataFromReader (depth + 1) [] = .error .needMoreData := rfl
      rw [herror] at haccepts
      cases haccepts

theorem decodeEncodedData_of_canonicalData (data : Bytes) (value : DlmsData)
    (h : CanonicalData maximumDataDepth data value) : decodeEncodedData data = .ok value := by
  rw [decodeEncodedData, if_neg (ne_nil_of_canonicalData _ _ _ h), h.1]

theorem encodeDataBytes_of_canonicalData (depth : Nat) (data : Bytes) (value : DlmsData)
    (h : CanonicalData depth data value) (hsize : data.length ≤ dataBufferSize) :
    encodeDataBytes value = .ok data := by
  rw [encodeDataBytes, runEmitter_of_emits _ _ _ _ (writes_of_canonicalData _ _ _ h), if_pos hsize]

/-! ### Responses -/

section Responses

variable (iip : UInt8)

theorem encodeGetResponse_data (result : GetResult) (value : DlmsData)
    (herror : result.hasAccessResult = false) (hdata : result.hasData = true)
    (h : CanonicalData maximumDataDepth result.data value) :
    encodeGetResponse iip result = buffered (getResponseDataBytes iip result.data) := by
  rw [encodeGetResponse, herror, hdata, decodeEncodedData_of_canonicalData _ _ h]
  exact encodeResponse_of_bounded _ _ (encodeXdlmsApdu_getResponse _ _
    (writes_getResponse_data _ _ _ (writes_of_canonicalData _ _ _ h)))

theorem encodeGetDataBlockResponse_eq (dataBlock : DataBlock) :
    encodeGetDataBlockResponse iip dataBlock = buffered (getResponseBlockBytes iip dataBlock) :=
  encodeResponse_of_bounded _ _ (encodeXdlmsApdu_getResponse _ _ (writes_getResponse_block _ _))

theorem length_getResponseDataBytes (data : Bytes) :
    (getResponseDataBytes iip data).length = 4 + data.length := by
  simp only [getResponseDataBytes, length_serviceApduBytes, List.length_append, List.length_cons,
    List.length_nil]
  omega

theorem length_getResponseBlockBytes (dataBlock : DataBlock) :
    (getResponseBlockBytes iip dataBlock).length =
      8 + axdrLengthEncodedSize dataBlock.rawData.length + dataBlock.rawData.length := by
  simp only [getResponseBlockBytes, length_serviceApduBytes, length_dataBlockBytes]
  omega

theorem decode_getResponseData (data : Bytes) (value : DlmsData)
    (h : decodeDlmsData data maximumDataDepth = .ok value) :
    decodeXdlmsApdu (getResponseDataBytes iip data) =
      .ok (.getResponse (.normal iip (.data value))) := by
  have hdecoded := decodeGetResponse_data maximumDataDepth iip value data h
  rw [getResponseDataBytes] at hdecoded ⊢
  rw [decodeXdlmsApdu_getResponse, hdecoded]
  rfl

theorem decode_getResponseBlock (dataBlock : DataBlock)
    (h : dataBlock.rawData.length < 256 ^ sizeOctets) :
    decodeXdlmsApdu (getResponseBlockBytes iip dataBlock) =
      .ok (.getResponse (.withDataBlock iip dataBlock)) := by
  have hdecoded := decodeGetResponse_block maximumDataDepth iip dataBlock h
  rw [getResponseBlockBytes] at hdecoded ⊢
  rw [decodeXdlmsApdu_getResponse, hdecoded]
  rfl

theorem encodeSetResponse_eq (result : SetResult) :
    encodeSetResponse iip result = .ok (setResponseNormalBytes iip result.accessResult) :=
  encodeResponse_of_bounded _ _ (encodeXdlmsApdu_setResponse _ _ (writes_setResponse_normal _ _))

theorem encodeSetBlockAckResponse_eq (blockNumber : UInt32) :
    encodeSetBlockAckResponse iip blockNumber =
      .ok (setResponseDataBlockBytes iip blockNumber) := by
  rw [encodeSetBlockAckResponse, encodeResponse_of_bounded _ _
    (encodeXdlmsApdu_setResponse _ _ (writes_setResponse_dataBlock _ _))]
  refine buffered_of_le _ ?_
  simp only [setResponseDataBlockBytes, length_serviceApduBytes, length_beBytes]
  decide

theorem encodeSetLastBlockResponse_eq (blockNumber : UInt32) (result : SetResult) :
    encodeSetLastBlockResponse iip blockNumber result =
      .ok (setResponseLastDataBlockBytes iip result.accessResult blockNumber) := by
  rw [encodeSetLastBlockResponse, encodeResponse_of_bounded _ _
    (encodeXdlmsApdu_setResponse _ _ (writes_setResponse_lastDataBlock _ _ _))]
  refine buffered_of_le _ ?_
  simp only [setResponseLastDataBlockBytes, length_serviceApduBytes, List.length_append,
    List.length_cons, List.length_nil, length_beBytes]
  decide

theorem decode_setResponseNormal (result : UInt8) :
    decodeXdlmsApdu (setResponseNormalBytes iip result) = .ok (.setResponse (.normal iip result)) :=
  rfl

theorem decode_setResponseDataBlock (blockNumber : UInt32) :
    decodeXdlmsApdu (setResponseDataBlockBytes iip blockNumber) =
      .ok (.setResponse (.dataBlock iip blockNumber)) := by
  have hdecoded := decodeSetResponse_dataBlock iip blockNumber
  rw [setResponseDataBlockBytes] at hdecoded ⊢
  rw [decodeXdlmsApdu_setResponse, hdecoded]
  rfl

theorem decode_setResponseLastDataBlock (result : UInt8) (blockNumber : UInt32) :
    decodeXdlmsApdu (setResponseLastDataBlockBytes iip result blockNumber) =
      .ok (.setResponse (.lastDataBlock iip result blockNumber)) := by
  have hdecoded := decodeSetResponse_lastDataBlock iip result blockNumber
  rw [setResponseLastDataBlockBytes] at hdecoded ⊢
  rw [decodeXdlmsApdu_setResponse, hdecoded]
  rfl

theorem encodeActionResponse_some (result : ActionResult) (value : DlmsData)
    (hdata : result.hasData = true) (h : CanonicalData maximumDataDepth result.data value) :
    encodeActionResponse iip result =
      buffered (actionResponseNormalBytes iip result.actionResult (some result.data)) := by
  rw [encodeActionResponse, hdata, decodeEncodedData_of_canonicalData _ _ h]
  exact encodeResponse_of_bounded _ _ (encodeXdlmsApdu_actionResponse _ _
    (writes_actionResponse_some _ _ _ _ (writes_of_canonicalData _ _ _ h)))

/-- A result that has data, but no bytes of it, is not encoded. -/
theorem encodeActionResponse_empty (result : ActionResult) (hdata : result.hasData = true)
    (h : result.data = []) : encodeActionResponse iip result = .error .encodeFailed := by
  rw [encodeActionResponse, hdata, h]
  rfl

theorem length_actionResponse_some (result : UInt8) (data : Bytes) :
    (actionResponseNormalBytes iip result (some data)).length = 6 + data.length := by
  simp only [actionResponseNormalBytes, length_serviceApduBytes, List.length_append,
    List.length_cons, List.length_nil]
  omega

theorem encodeActionNextPblockResponse_eq (blockNumber : UInt32) :
    encodeActionNextPblockResponse iip blockNumber =
      .ok (actionResponseNextBytes iip blockNumber) := by
  rw [encodeActionNextPblockResponse, encodeResponse_of_bounded _ _
    (encodeXdlmsApdu_actionResponse _ _ (writes_actionResponse_next _ _))]
  refine buffered_of_le _ ?_
  simp only [actionResponseNextBytes, length_serviceApduBytes, length_beBytes]
  decide

theorem decode_actionResponse_some (result : UInt8) (data : Bytes) (value : DlmsData)
    (h : decodeDlmsData data maximumDataDepth = .ok value) :
    decodeXdlmsApdu (actionResponseNormalBytes iip result (some data)) =
      .ok (.actionResponse (.normal iip ⟨result, some value⟩)) := by
  have hdecoded := decodeActionResponse_some maximumDataDepth iip result value data h
  rw [actionResponseNormalBytes] at hdecoded ⊢
  rw [decodeXdlmsApdu_actionResponse, hdecoded]
  rfl

theorem decode_actionResponseNext (blockNumber : UInt32) :
    decodeXdlmsApdu (actionResponseNextBytes iip blockNumber) =
      .ok (.actionResponse (.nextPblock iip blockNumber)) := by
  have hdecoded := decodeActionResponse_next maximumDataDepth iip blockNumber
  rw [actionResponseNextBytes] at hdecoded ⊢
  rw [decodeXdlmsApdu_actionResponse, hdecoded]
  rfl

end Responses

/-! ### The next block of an answer -/

/-- The largest outputs one response of each kind holds. -/
def getOutputLimit : Nat := 2044

def getBlockLimit : Nat := 2037

def actionOutputLimit : Nat := 2042

/-- The size field of a block has room for what a response holds. -/
theorem lt_of_le_getBlockLimit (size : Nat) (h : size ≤ getBlockLimit) :
    size < 256 ^ Apdu.sizeOctets := by
  rw [getBlockLimit] at h
  rw [Apdu.sizeOctets]
  omega

section NextBlock

variable (blocks : GetResponseBlockState) (hactive : blocks.active = true)
  (hpos : 0 < blocks.options.maxGetBlockPayloadBytes) (hoffset : blocks.offset < blocks.data.length)

theorem length_nextGetResponseBlock :
    (nextGetResponseBlock blocks).rawData.length =
      min (blocks.data.length - blocks.offset) blocks.options.maxGetBlockPayloadBytes := by
  rw [nextGetResponseBlock, List.length_take, List.length_drop]
  omega

theorem lastBlock_nextGetResponseBlock :
    (nextGetResponseBlock blocks).lastBlock =
      (blocks.offset + (nextGetResponseBlock blocks).rawData.length == blocks.data.length) := by
  rw [length_nextGetResponseBlock]
  rfl

include hactive hpos hoffset

theorem sendNextGetResponseBlock_eq
    (hlimit : blocks.options.maxGetBlockPayloadBytes ≤ getBlockLimit) :
    sendNextGetResponseBlock blocks =
      (.ok (getResponseBlockBytes (makeInvokeIdAndPriority blocks.invokeId blocks.options)
          (nextGetResponseBlock blocks)),
        if (nextGetResponseBlock blocks).lastBlock then {}
        else
          { blocks with
            offset := blocks.offset + (nextGetResponseBlock blocks).rawData.length
            nextBlockNumber := blocks.nextBlockNumber + 1 }) := by
  have hfits : (getResponseBlockBytes (makeInvokeIdAndPriority blocks.invokeId blocks.options)
      (nextGetResponseBlock blocks)).length ≤ apduBufferSize := by
    rw [length_getResponseBlockBytes]
    refine (octetString_fits_iff 8 _ (by decide)).mpr ?_
    rw [length_nextGetResponseBlock, apduBufferSize]
    rw [getBlockLimit] at hlimit
    omega
  rw [sendNextGetResponseBlock, if_neg (by
    rw [hactive]
    simp only [Bool.not_true, Bool.false_eq_true, false_or]
    omega)]
  dsimp only
  rw [encodeGetDataBlockResponse_eq, buffered_of_le _ hfits]
  dsimp only
  split_ifs <;> rfl

/-- A whole payload that is too large ends the transfer. -/
theorem sendNextGetResponseBlock_tooLarge
    (hlimit : getBlockLimit < blocks.options.maxGetBlockPayloadBytes)
    (hwhole : blocks.options.maxGetBlockPayloadBytes ≤ blocks.data.length - blocks.offset) :
    sendNextGetResponseBlock blocks = (.error .encodeFailed, {}) := by
  have hfull : apduBufferSize <
      (getResponseBlockBytes (makeInvokeIdAndPriority blocks.invokeId blocks.options)
        (nextGetResponseBlock blocks)).length := by
    have hfits := octetString_fits_iff 8 (nextGetResponseBlock blocks).rawData.length (by decide)
    rw [length_getResponseBlockBytes]
    rw [length_nextGetResponseBlock] at hfits ⊢
    rw [getBlockLimit] at hlimit
    rw [apduBufferSize] at hfits ⊢
    omega
  rw [sendNextGetResponseBlock, if_neg (by
    rw [hactive]
    simp only [Bool.not_true, Bool.false_eq_true, false_or]
    omega)]
  dsimp only
  rw [encodeGetDataBlockResponse_eq, buffered_of_lt _ hfull]

end NextBlock

/-! ### The start of an answer -/

section Start

variable (iip : UInt8) (indication : GetIndication) (result : GetResult)
  (blocks : GetResponseBlockState) (hdata : result.hasData = true)
include hdata

theorem startBlocks_whole (value : DlmsData) (herror : result.hasAccessResult = false)
    (hvalue : CanonicalData maximumDataDepth result.data value)
    (hsize : result.data.length ≤ indication.options.maxGetBlockPayloadBytes) :
    encodeGetResponseOrStartBlocks iip indication result blocks =
      (buffered (getResponseDataBytes iip result.data), blocks) := by
  rw [encodeGetResponseOrStartBlocks, if_pos (Or.inr hsize),
    encodeGetResponse_data iip result value herror hdata hvalue]

variable (hsize : indication.options.maxGetBlockPayloadBytes < result.data.length)
  (htotal : result.data.length ≤ indication.options.maxBlockTransferBytes)
include hsize htotal

theorem startBlocks_disallowed (hallow : indication.options.allowBlockTransfer = false) :
    encodeGetResponseOrStartBlocks iip indication result blocks =
      (.error .blockTransferRequired, blocks) := by
  rw [encodeGetResponseOrStartBlocks, if_neg (by
    rw [hdata, Bool.not_true]
    simp only [Bool.false_eq_true, false_or, not_le]
    exact hsize), if_neg (Nat.not_lt.mpr htotal), if_pos (by rw [hallow]; rfl)]

theorem startBlocks_allowed (hallow : indication.options.allowBlockTransfer = true)
    (hpos : 0 < indication.options.maxGetBlockPayloadBytes) :
    encodeGetResponseOrStartBlocks iip indication result blocks =
      sendNextGetResponseBlock
        { active := true
          invokeId := indication.invokeId
          options := indication.options
          nextBlockNumber := 1
          offset := 0
          data := result.data } := by
  rw [encodeGetResponseOrStartBlocks, if_neg (by
    rw [hdata, Bool.not_true]
    simp only [Bool.false_eq_true, false_or, not_le]
    exact hsize), if_neg (Nat.not_lt.mpr htotal), if_neg (by rw [hallow]; decide),
    if_neg (by omega)]

end Start

end Xdlms

end Dlms
