import Dlms.Hdlc.Buffers

/-!
# From octets to a frame and back

What a decoder accepts is pinned down octet by octet. The flags, the type and the
length stand where they have to, an address says with the low bit of each octet
where it ends, and the control field is kept as it is. What is left are the two
checksums, which are computed again and compared. So the octets of an accepted
frame are those that the frame is encoded to.

The one exception is a frame with a header checksum and no information behind
it: the encoder writes no header checksum then. Such a frame has one more pair
of octets than its encoding.

## Main definitions

* `Recodable`: What the octets of an accepted frame are.

## Theorems

* `decodeFrameAllocating_of_encodeFrameAllocating`: What is encoded is decoded to
  the same frame.
* `take_of_fromBytes`: The octets an address is read from are those it is written
  in.
* `frameBytes_of_parts`: The octets of an accepted frame with information
  are its encoding.
* `recodable_of_decodeFrameAllocating`: What a decoder accepts.
-/

namespace Dlms

namespace Hdlc

/-! ### From a frame to octets and back -/

theorem allocatable_of_done (memory : Nat) (limits : HdlcCodecLimits)
    (h : assign memory (effectiveMaximumFrameSize limits) = .done) :
    Allocatable memory limits := by
  unfold assign at h
  split_ifs at h with hvector hmemory
  exact ⟨Nat.le_of_not_lt hmemory, Nat.le_of_not_lt hvector⟩

/-- A frame that is encoded had its buffer. -/
theorem encodeFrameAllocating_eq_ok (memory : Nat) (frame : HdlcFrame) (limits : HdlcCodecLimits)
    (bytes : Bytes) :
    encodeFrameAllocating memory frame limits = .returned (.ok bytes) ↔
      Allocatable memory limits ∧ encodeFrame frame limits = .ok bytes := by
  constructor
  · intro h
    have hallocatable : Allocatable memory limits := by
      unfold encodeFrameAllocating at h
      cases hassign : assign memory (effectiveMaximumFrameSize limits) with
      | done => exact allocatable_of_done memory limits hassign
      | badAlloc => simp [hassign] at h
      | lengthError => simp [hassign] at h
    rw [encodeFrameAllocating_eq memory frame limits hallocatable] at h
    exact ⟨hallocatable, Outcome.returned.inj h⟩
  · rintro ⟨hallocatable, hencoded⟩
    rw [encodeFrameAllocating_eq memory frame limits hallocatable, hencoded]

theorem decodeFrameAllocating_eq_ok (memory : Nat) (input : Bytes) (limits : HdlcCodecLimits)
    (frame : HdlcFrame) :
    decodeFrameAllocating memory input limits = .returned (.ok frame) ↔
      Allocatable memory limits ∧ decodeFrame input limits = .ok frame := by
  constructor
  · intro h
    have hallocatable : Allocatable memory limits := by
      unfold decodeFrameAllocating at h
      cases hassign : assign memory (effectiveMaximumFrameSize limits) with
      | done => exact allocatable_of_done memory limits hassign
      | badAlloc => simp [hassign] at h
      | lengthError => simp [hassign] at h
    rw [decodeFrameAllocating_eq memory limits input hallocatable] at h
    exact ⟨hallocatable, Outcome.returned.inj h⟩
  · rintro ⟨hallocatable, hdecoded⟩
    rw [decodeFrameAllocating_eq memory limits input hallocatable, hdecoded]

/-- Every frame that the encoder accepts is given back by the decoder. -/
theorem decodeFrameAllocating_of_encodeFrameAllocating (memory : Nat) (frame : HdlcFrame)
    (limits : HdlcCodecLimits) (bytes : Bytes)
    (h : encodeFrameAllocating memory frame limits = .returned (.ok bytes)) :
    decodeFrameAllocating memory bytes limits = .returned (.ok frame) := by
  rcases (encodeFrameAllocating_eq_ok memory frame limits bytes).mp h with
    ⟨hallocatable, hencoded⟩
  rcases (encodeFrame_eq_ok frame limits bytes).mp hencoded with ⟨hfits, rfl⟩
  exact (decodeFrameAllocating_eq_ok memory _ limits frame).mpr
    ⟨hallocatable, decodeFrame_of_fits frame limits hfits⟩

/-! ### From octets to an address and back -/

namespace HdlcAddress

/-- An octet is its upper seven bits over its mark. -/
theorem ofNat_of_halves (byte : UInt8) (mark : Nat) (hmark : byte.toNat % 2 = mark) :
    UInt8.ofNat (byte.toNat / 2 * 2 + mark) = byte := by
  rw [← hmark, Nat.div_add_mod' byte.toNat 2]
  exact UInt8.ofNat_toNat

/-- The octets that a scan takes are those that the address has from its index
    on, and what it started from are the bits above them. The induction is over
    the data. -/
theorem scan_eq_ok (rawValue index : Nat) (h : rawValue ≤ maximumRawValue index) (data : Bytes)
    (address : HdlcAddress) (size : Nat)
    (hscan : scan rawValue index h data = .ok (address, size)) :
    size = address.encodedSize ∧ index < size ∧ size - index ≤ data.length ∧
      data.take (size - index) = (List.range' index (size - index)).map address.encodedByte ∧
      address.rawValue / 128 ^ (size - index) = rawValue := by
  induction data generalizing rawValue index with
  | nil =>
      unfold scan at hscan
      split_ifs at hscan
  | cons byte rest ih =>
      have hbyte := byte.toNat_lt
      unfold scan at hscan
      dsimp only at hscan
      split_ifs at hscan with hfour hmarked hsupported
      · -- The marked octet is the last one.
        simp only [Except.ok.injEq, Prod.mk.injEq] at hscan
        rcases hscan with ⟨rfl, rfl⟩
        have hone : index + 1 - index = 1 := by omega
        have hmark := (low_bit byte).mp hmarked
        refine ⟨rfl, Nat.lt_succ_self _, ?_, ?_, ?_⟩
        · rw [hone, List.length_cons]
          omega
        · rw [hone, List.take_succ_cons, List.take_zero]
          simp only [List.range'_one, List.map_cons, List.map_nil, encodedByte, List.cons.injEq,
            and_true, Nat.add_sub_cancel_left, Nat.sub_self, pow_zero, Nat.div_one, if_true]
          have hgroup : (rawValue * 128 + byte.toNat / 2) % 128 = byte.toNat / 2 := by omega
          rw [hgroup, ofNat_of_halves byte 1 hmark]
        · rw [hone, pow_one]
          dsimp only
          omega
      · -- An octet that is not marked puts its bits below what was read before.
        rcases ih _ _ _ hscan with ⟨hsize, hless, hlength, hbytes, hraw⟩
        have hstep : size - index = size - (index + 1) + 1 := by omega
        have hunmarked : byte.toNat % 2 = 0 := by
          have hbit := (low_bit byte).not.mp hmarked
          omega
        have hgroup : (rawValue * 128 + byte.toNat / 2) % 128 = byte.toNat / 2 := by omega
        have hlast : ¬ index + 1 = address.encodedSize := by omega
        have hshift : address.encodedSize - index - 1 = size - (index + 1) := by omega
        refine ⟨hsize, by omega, ?_, ?_, ?_⟩
        · rw [List.length_cons]
          omega
        · rw [hstep, List.take_succ_cons, hbytes, List.range'_succ, List.map_cons]
          simp only [encodedByte, List.cons.injEq, and_true]
          rw [hshift, hraw, hgroup, if_neg hlast, ofNat_of_halves byte 0 hunmarked]
        · rw [hstep, pow_succ, ← Nat.div_div_eq_div_mul, hraw]
          omega

/-- The octets an address is read from are those it is written in. -/
theorem take_of_fromBytes (data : Bytes) (address : HdlcAddress) (size : Nat)
    (h : fromBytes data = .ok (address, size)) :
    size = address.encodedSize ∧ size ≤ data.length ∧ data.take size = address.encode := by
  rcases scan_eq_ok 0 0 _ data address size h with ⟨hsize, -, hlength, hbytes, -⟩
  rw [Nat.sub_zero] at hlength hbytes
  refine ⟨hsize, hlength, ?_⟩
  rw [hbytes, encode, List.range_eq_range', hsize]

end HdlcAddress

/-! ### From octets to a frame and back -/

section Slices

variable (input : Bytes) (offset : Nat)

/-- Slices that stand one behind the other are one slice. -/
theorem slice_append_slice (size later : Nat) :
    slice input offset size ++ slice input (offset + size) later =
      slice input offset (size + later) := by
  rw [slice, slice, slice, List.take_add, List.drop_drop]

theorem slice_all (size : Nat) (h : size = input.length) : slice input 0 size = input := by
  rw [slice, List.drop_zero, h, List.take_length]

theorem slice_one (h : offset < input.length) : slice input offset 1 = [input.getD offset 0] := by
  rw [slice, List.drop_eq_getElem_cons h, List.take_succ_cons, List.take_zero,
    List.getD_eq_getElem _ _ h]

theorem slice_two (h : offset + 1 < input.length) :
    slice input offset 2 = [input.getD offset 0, input.getD (offset + 1) 0] := by
  rw [← slice_append_slice input offset 1 1, slice_one input offset (by omega),
    slice_one input (offset + 1) h]
  rfl

theorem length_slice (size : Nat) (h : offset + size ≤ input.length) :
    (slice input offset size).length = size := by
  rw [slice, List.length_take, List.length_drop]
  omega

/-- A checksum that is read is the one that would be written. -/
theorem slice_of_readLow (value : UInt16) (h : offset + 1 < input.length)
    (hvalue : value.toNat = readUint16LowByteFirst input offset) :
    slice input offset 2 = writeUint16LowByteFirst value := by
  have hlow := (input.getD offset 0).toNat_lt
  have hhigh := (input.getD (offset + 1) 0).toNat_lt
  rw [readUint16LowByteFirst] at hvalue
  have hmod : value.toNat % 256 = (input.getD offset 0).toNat := by omega
  have hdiv : value.toNat / 256 = (input.getD (offset + 1) 0).toNat := by omega
  rw [slice_two input offset h, writeUint16LowByteFirst, hmod, hdiv, UInt8.ofNat_toNat,
    UInt8.ofNat_toNat]

theorem slice_of_readHigh (h : offset + 1 < input.length) :
    slice input offset 2 = writeUint16HighByteFirst (readUint16HighByteFirst input offset) := by
  have hlow := (input.getD (offset + 1) 0).toNat_lt
  have hdiv : readUint16HighByteFirst input offset / 256 = (input.getD offset 0).toNat := by
    rw [readUint16HighByteFirst, Codec.beWordAt]
    omega
  have hmod : readUint16HighByteFirst input offset % 256 =
      (input.getD (offset + 1) 0).toNat := by
    rw [readUint16HighByteFirst, Codec.beWordAt]
    omega
  rw [slice_two input offset h, writeUint16HighByteFirst, hdiv, hmod, UInt8.ofNat_toNat,
    UInt8.ofNat_toNat]

end Slices

section Accepted

variable (input : Bytes) (limits : HdlcCodecLimits)

/-- What a header that has been read is made of. -/
theorem decodeHeader_eq_ok (fullSize : Nat) (destination source : HdlcAddress)
    (control : HdlcControl) (offset : Nat) (hsize : fullSize ≤ input.length)
    (h : decodeHeader input fullSize = .ok (destination, source, control, offset)) :
    offset = 3 + (destination.encodedSize + source.encodedSize) + 1 ∧ offset + 3 ≤ fullSize ∧
      slice input 3 (destination.encodedSize + source.encodedSize + 1) =
        destination.encode ++ source.encode ++ [control.encode] := by
  unfold decodeHeader at h
  rcases hdestination : HdlcAddress.fromBytes (slice input 3 (fullSize - 1 - 3)) with
    status | ⟨first, consumed⟩
  · simp [hdestination, bind, Except.bind] at h
  rcases HdlcAddress.take_of_fromBytes _ _ _ hdestination with ⟨hconsumed, hroom, hfirst⟩
  simp only [hdestination, bind, Except.bind] at h
  rcases hsource : HdlcAddress.fromBytes
      (slice input (3 + consumed) (fullSize - 1 - (3 + consumed))) with status | ⟨second, later⟩
  · simp [hsource] at h
  rcases HdlcAddress.take_of_fromBytes _ _ _ hsource with ⟨hlater, hroomLater, hsecond⟩
  simp only [hsource] at h
  split_ifs at h with hend
  rcases hcontrol : HdlcControl.decode (input.getD (3 + consumed + later) 0) with
    status | field
  · simp only [hcontrol, reduceCtorEq] at h
  simp only [hcontrol, pure, Except.pure, Except.ok.injEq, Prod.mk.injEq] at h
  rcases h with ⟨rfl, rfl, rfl, rfl⟩
  -- The control field is the octet that was read.
  have hfield : input.getD (3 + consumed + later) 0 = field.encode := by
    unfold HdlcControl.decode at hcontrol
    split_ifs at hcontrol
    exact congrArg HdlcControl.rawValue (Except.ok.inj hcontrol)
  rw [slice, List.length_take, List.length_drop] at hroom hroomLater
  rw [slice, List.take_take, Nat.min_eq_left (by omega)] at hfirst hsecond
  refine ⟨by omega, by omega, ?_⟩
  rw [← slice_append_slice, ← slice_append_slice, ← hconsumed, ← hlater,
    slice_one input _ (by omega), ← Nat.add_assoc, hfield]
  exact congrArg₂ (· ++ · ++ [field.encode]) hfirst hsecond

/-- What the octets behind the header are, when a frame is made of them. -/
theorem decodeInformation_eq_ok (fullSize : Nat) (segmented : Bool)
    (destination source : HdlcAddress) (control : HdlcControl) (offset : Nat) (frame : HdlcFrame)
    (h : decodeInformation input fullSize limits segmented destination source control offset =
      .ok frame) :
    frame = { segmented := segmented
              destination := destination
              source := source
              control := control
              information := if fullSize - 3 - offset = 0 then []
                else slice input (offset + 2) (fullSize - 3 - (offset + 2)) } ∧
      fullSize - 3 - offset ≠ 1 ∧
      (fullSize - 3 - offset ≠ 0 → (calculateHdlcCrc (slice input 1 (offset - 1))).toNat =
        readUint16LowByteFirst input offset) ∧
      (calculateHdlcCrc (slice input 1 (fullSize - 4))).toNat =
        readUint16LowByteFirst input (fullSize - 3) ∧
      frame.information.length ≤ effectiveMaximumInformationFieldSize frame limits := by
  unfold decodeInformation at h
  dsimp only at h
  generalize (if fullSize - 3 - offset = 0 then ([] : Bytes)
    else slice input (offset + 2) (fullSize - 3 - (offset + 2))) = information at h ⊢
  split_ifs at h with hone hheader hframe hlarge
  have hmade := (Except.ok.inj h).symm
  rw [hmade]
  refine ⟨rfl, hone, ?_, not_not.mp hframe, Nat.le_of_not_lt hlarge⟩
  intro hsome
  by_contra hwrong
  exact hheader ⟨hsome, hwrong⟩

/-- The size of an accepted frame, where its flags stand, and how its parts have
    been read. -/
structure Parts (frame : HdlcFrame) : Prop where
  opening : input.getD 0 0 = hdlcFlag
  closing : input.getD (input.length - 1) 0 = hdlcFlag
  length : readUint16HighByteFirst input 1 % 2048 = input.length - 2
  type : readUint16HighByteFirst input 1 / 4096 = frameFormatType3 / 4096
  segmented : frame.segmented = (readUint16HighByteFirst input 1 / 2048 % 2 == 1)
  size : input.length ≤ effectiveMaximumFrameSize limits
  header : slice input 3 (frame.destination.encodedSize + frame.source.encodedSize + 1) =
    frame.destination.encode ++ frame.source.encode ++ [frame.control.encode]
  room : headerSize frame + 4 ≤ input.length
  information : frame.information = if input.length = headerSize frame + 4 then []
    else slice input (headerSize frame + 3) (input.length - headerSize frame - 6)
  pair : input.length ≠ headerSize frame + 5
  headerChecksum : headerSize frame + 4 < input.length →
    (calculateHdlcCrc (slice input 1 (headerSize frame))).toNat =
      readUint16LowByteFirst input (1 + headerSize frame)
  frameChecksum : (calculateHdlcCrc (slice input 1 (input.length - 4))).toNat =
    readUint16LowByteFirst input (input.length - 3)
  informationSize : frame.information.length ≤ effectiveMaximumInformationFieldSize frame limits

theorem parts_of_decodeFrame (frame : HdlcFrame) (h : decodeFrame input limits = .ok frame) :
    Parts input limits frame := by
  unfold decodeFrame at h
  dsimp only at h
  simp only [Codec.check_eq_ok_iff] at h
  rcases h with ⟨hfour, hopening, htype, hsix, hmaximum, hsize, hshort, hlong, hclosing, h⟩
  have hlength : input.length = readUint16HighByteFirst input 1 % 2048 + 2 := not_not.mp hlong
  rw [← hlength] at h
  rcases hheader : decodeHeader input input.length with
    status | ⟨destination, source, control, offset⟩
  · simp [hheader, bind, Except.bind] at h
  simp only [hheader, bind, Except.bind] at h
  rcases decodeHeader_eq_ok input _ destination source control offset (Nat.le_refl _) hheader with
    ⟨hoffset, hroom, hslice⟩
  rcases decodeInformation_eq_ok input limits _ _ _ _ _ _ frame h with
    ⟨hframe, hone, hhcs, hfcs, hinformation⟩
  have hheaderSize : headerSize frame + 1 = offset := by
    rw [hframe, headerSize]
    dsimp only
    omega
  have hlast : input.length - 1 = readUint16HighByteFirst input 1 % 2048 + 1 := by omega
  have hbefore : offset - 1 = headerSize frame := by omega
  constructor
  case opening => exact not_not.mp hopening
  case closing =>
    rw [hlast]
    exact not_not.mp hclosing
  case length => omega
  case type => exact not_not.mp htype
  case segmented => rw [hframe]
  case size => omega
  case header =>
    rw [hframe]
    exact hslice
  case room => omega
  case information =>
    have hrest : input.length - 3 - (offset + 2) = input.length - headerSize frame - 6 := by omega
    have hstart : headerSize frame + 3 = offset + 2 := by omega
    have hinfo := congrArg HdlcFrame.information hframe
    rw [hinfo, hstart, ← hrest]
    dsimp only
    by_cases hnone : input.length - 3 - offset = 0
    · rw [if_pos hnone, if_pos (by omega)]
    · rw [if_neg hnone, if_neg (by omega)]
  case pair => omega
  case headerChecksum =>
    intro hsome
    rw [hbefore] at hhcs
    rw [Nat.add_comm 1, hheaderSize]
    exact hhcs (by omega)
  case frameChecksum => exact hfcs
  case informationSize => exact hinformation

/-- The octets of an accepted frame with information are its encoding. -/
theorem frameBytes_of_parts (frame : HdlcFrame) (h : Parts input limits frame)
    (hsome : frame.information ≠ []) :
    input = frameBytes frame ∧ Fits frame limits := by
  have hroom := h.room
  have hpair := h.pair
  have hnot : input.length ≠ headerSize frame + 4 := by
    intro hnone
    exact hsome (by rw [h.information, if_pos hnone])
  have hinformation := h.information
  rw [if_neg hnot] at hinformation
  have hcount : frame.information.length = input.length - headerSize frame - 6 := by
    rw [hinformation, length_slice _ _ _ (by omega)]
  have hformat : formatFieldLength frame = input.length - 2 := by
    have hpositive := List.length_pos_iff.mpr hsome
    rw [formatFieldLength, if_neg hsome, hcount]
    omega
  have hvalue : frameFormat frame = readUint16HighByteFirst input 1 := by
    have hlength := h.length
    have htype := h.type
    have hsegmented := h.segmented
    have hlow := (input.getD 2 0).toNat_lt
    rw [frameFormatType3] at htype
    rw [frameFormat, hformat, frameFormatType3, segmentationBit, hsegmented, ← hlength]
    -- The type, the segmentation bit and the length are all the field is made of.
    by_cases hbit : readUint16HighByteFirst input 1 / 2048 % 2 = 1
    · rw [hbit, beq_self_eq_true, if_pos rfl]
      omega
    · rw [if_neg (by rwa [beq_iff_eq])]
      omega
  have hheader : slice input 1 (headerSize frame) = headerBytes frame := by
    have hsplit : headerSize frame =
        2 + (frame.destination.encodedSize + frame.source.encodedSize + 1) := by
      rw [headerSize]
      omega
    rw [hsplit, ← slice_append_slice, h.header, slice_of_readHigh input 1 (by omega), ← hvalue,
      headerBytes]
    simp
  have hchecked : slice input 1 (input.length - 4) = checkedBytes frame := by
    have hsplit : input.length - 4 =
        headerSize frame + (2 + (input.length - headerSize frame - 6)) := by omega
    have hstart : headerSize frame + 3 = 1 + headerSize frame + 2 := by omega
    have hhcs := h.headerChecksum (by omega)
    rw [hheader] at hhcs
    rw [hsplit, ← slice_append_slice, ← slice_append_slice, hheader,
      slice_of_readLow input (1 + headerSize frame) _ (by omega) hhcs, checkedBytes,
      if_neg hsome, hinformation, hstart]
  have hfcs := h.frameChecksum
  rw [hchecked] at hfcs
  refine ⟨?_, h.informationSize, by rw [maximumFormatFieldLength]; have := h.length; omega, ?_⟩
  · have hsplit : input.length = 1 + (input.length - 4 + (2 + 1)) := by omega
    have hthird : 1 + (input.length - 4) = input.length - 3 := by omega
    have hend : input.length - 3 + 2 = input.length - 1 := by omega
    conv_lhs => rw [← slice_all input _ hsplit.symm]
    rw [← slice_append_slice, ← slice_append_slice, ← slice_append_slice, Nat.zero_add, hchecked,
      hthird, slice_one input 0 (by omega), h.opening, hend, slice_one input _ (by omega),
      h.closing, slice_of_readLow input _ _ (by omega) hfcs, frameBytes]
    simp
  · rw [fullFrameSize, hformat]
    have hsize := h.size
    omega

/-- What the octets of an accepted frame are: their checksums and their length are
    right, and they are the encoding of the frame when it has information. -/
structure Recodable (memory : Nat) (frame : HdlcFrame) : Prop where
  opening : input.getD 0 0 = hdlcFlag
  closing : input.getD (input.length - 1) 0 = hdlcFlag
  /-- The octets between the flags. -/
  length : readUint16HighByteFirst input 1 % 2048 = input.length - 2
  /-- A header checksum stands where there is anything between the header and the
      checksum of the frame. -/
  headerChecksum : headerSize frame + 4 < input.length →
    (calculateHdlcCrc (slice input 1 (headerSize frame))).toNat =
      readUint16LowByteFirst input (1 + headerSize frame)
  frameChecksum : (calculateHdlcCrc (slice input 1 (input.length - 4))).toNat =
    readUint16LowByteFirst input (input.length - 3)
  recoded : frame.information ≠ [] →
    encodeFrameAllocating memory frame limits = .returned (.ok input)

/-- Whatever octets a decoder accepts, they are what the frame says they are. -/
theorem recodable_of_decodeFrameAllocating (memory : Nat) (frame : HdlcFrame)
    (h : decodeFrameAllocating memory input limits = .returned (.ok frame)) :
    Recodable input limits memory frame := by
  rcases (decodeFrameAllocating_eq_ok memory input limits frame).mp h with
    ⟨hallocatable, hdecoded⟩
  have hparts := parts_of_decodeFrame input limits frame hdecoded
  refine ⟨hparts.opening, hparts.closing, hparts.length, hparts.headerChecksum,
    hparts.frameChecksum, ?_⟩
  intro hsome
  rcases frameBytes_of_parts input limits frame hparts hsome with ⟨hbytes, hfits⟩
  exact (encodeFrameAllocating_eq_ok memory frame limits input).mpr
    ⟨hallocatable, (encodeFrame_eq_ok frame limits input).mpr ⟨hfits, hbytes⟩⟩

end Accepted

theorem bounded_segmentDestination : 0x24011 ≤ maximumRawValue 4 := by decide

theorem bounded_segmentSource : 0x10 ≤ maximumRawValue 1 := by decide

/-- A segment of two octets, which a client sends to a server with an address of
    four. -/
def meterSegment : HdlcFrame where
  segmented := true
  destination :=
    { rawValue := 0x24011
      encodedSize := 4
      supported := rfl
      bounded := bounded_segmentDestination }
  source :=
    { rawValue := 0x10
      encodedSize := 1
      supported := HdlcAddress.initial.supported
      bounded := bounded_segmentSource }
  control := { rawValue := 0x54, accepted := rfl }
  information := [0xE6, 0x7E]

theorem decodeFrameAllocating_of_encodeFrameAllocating_meterSegment :
    decodeFrameAllocating 4096 (frameBytes meterSegment) defaultHdlcCodecLimits =
      .returned (.ok meterSegment) :=
  decodeFrameAllocating_of_encodeFrameAllocating 4096 meterSegment defaultHdlcCodecLimits
    (frameBytes meterSegment) (by decide +kernel)

theorem recodable_of_decodeFrameAllocating_meterSegment :
    Recodable (frameBytes meterSegment) defaultHdlcCodecLimits 4096 meterSegment :=
  recodable_of_decodeFrameAllocating (frameBytes meterSegment) defaultHdlcCodecLimits 4096
    meterSegment (by decide +kernel)

end Hdlc

end Dlms
