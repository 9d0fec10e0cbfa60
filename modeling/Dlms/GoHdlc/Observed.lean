import Dlms.Hdlc.Reassembly
import Dlms.GoHdlc.Cabi
import Dlms.Hdlc.Calls
import Dlms.Hdlc.Limits
import Dlms.Machine.Simulation

/-!
# The two interfaces for C

A program in C is linked with one of two libraries that share a header. It
observes the same when every call returns, with the same status and the same
sizes, frames and octets behind its pointers.

It does not always. What the interface in Go does otherwise is this:

* A frame is not cleared by a call that fails.
* How much room is needed is not said when there is not enough, neither for the
  octets of a frame nor for an information in a stream.
* A frame is decoded without a buffer, or into an empty one, and its information
  is nowhere then. The limit on an information is checked before the room for it.
* Octets that make no sense leave the frames of a stream waiting.
* Frames in front of one that breaks off within an address are dropped.
* No room at all for an information counts as too little, also where there is no
  buffer.
* Sizes that a signed number does not hold end the program.

Nothing else is: in a run in which no call meets one of these, the same is
observed throughout.

## Main definitions

* `CallAllowed`: A call that none of them is about.
* `ObservedAlike`: A run in which the same is observed.

## Theorems

* `encode_observed`, `decode_observed`, `streamPush_observed`,
  `reassemblerPush_observed`: The functions on what is allowed.
* `observedAlike_of_allowed`: Runs of calls that are allowed.
-/

namespace Dlms

namespace GoHdlc

open Hdlc

/-! ### What is allowed -/

/-- The frame has been cleared already, or there is none. -/
def Cleared (frame : Option CFrame) : Prop := frame.map (fun _ => clearFrame) = frame

instance (frame : Option CFrame) : Decidable (Cleared frame) :=
  inferInstanceAs (Decidable (_ = _))

/-- There is room for the frame, if it can be encoded. -/
def EncodeAllowed (limits : Option HdlcCodecLimits) (output : CBuffer) :
    Except HdlcStatus HdlcFrame → Prop
  | .error _ => True
  | .ok frame =>
      frame.information.length < 2 ^ 31 ∧ output.size < 2 ^ 63 ∧
        (Fits frame (toCppLimits limits) → fullFrameSize frame ≤ output.size)

instance (frame : HdlcFrame) (limits : HdlcCodecLimits) : Decidable (Fits frame limits) :=
  inferInstanceAs (Decidable (_ ∧ _ ∧ _))

instance (limits : Option HdlcCodecLimits) (output : CBuffer)
    (frame : Except HdlcStatus HdlcFrame) : Decidable (EncodeAllowed limits output frame) :=
  match frame with
  | .error _ => isTrue trivial
  | .ok _ => inferInstanceAs (Decidable (_ ∧ _ ∧ _))

/-- There is room for the information of a frame that has been read, or some room
    and the information is within its limit. -/
def ReadAllowed (limits : Option HdlcCodecLimits) (frame : Option CFrame) (buffer : CBuffer) :
    Except HdlcStatus HdlcFrame → Prop
  | .error _ => Cleared frame
  | .ok read =>
      let size := read.information.length
      let maximum := Hdlc.effectiveMaximumInformationFieldSize read (toCppLimits limits)
      (size ≤ buffer.size ∨ (0 < buffer.size ∧ size ≤ maximum)) ∧
        ((size ≤ buffer.size ∧ size ≤ maximum) ∨ Cleared frame)

instance (limits : Option HdlcCodecLimits) (frame : Option CFrame) (buffer : CBuffer)
    (read : Except HdlcStatus HdlcFrame) : Decidable (ReadAllowed limits frame buffer read) :=
  match read with
  | .error _ => inferInstanceAs (Decidable (Cleared _))
  | .ok _ => inferInstanceAs (Decidable ((_ ∨ (_ ∧ _)) ∧ ((_ ∧ _) ∨ _)))

/-- Octets to decode: a signed number counts them and the room for the information,
    and there is no size without a buffer. -/
def DecodeAllowed (input : Bytes) (limits : Option HdlcCodecLimits) (frame : Option CFrame)
    (buffer : CBuffer) (hasInformationSize : Bool) : Prop :=
  if frame = none ∨ hasInformationSize = false then Cleared frame
  else
    input.length < 2 ^ 63 ∧ buffer.size < 2 ^ 63 ∧ (buffer.address = 0 → buffer.size = 0) ∧
      ReadAllowed limits frame buffer (readFrame input (toCppLimits limits))

instance (input : Bytes) (limits : Option HdlcCodecLimits) (frame : Option CFrame)
    (buffer : CBuffer) (hasInformationSize : Bool) :
    Decidable (DecodeAllowed input limits frame buffer hasInformationSize) :=
  inferInstanceAs (Decidable (@ite Prop _ _ _ _))

/-- There is room for the information of the first frame that waits. -/
def FetchAllowed (frame : Option CFrame) (buffer : CBuffer) : List HdlcFrame → Prop
  | [] => Cleared frame
  | first :: _ =>
      (buffer.address ≠ 0 → buffer.size < 2 ^ 63) ∧
        (first.information ≠ [] →
          buffer.address ≠ 0 ∧ first.information.length ≤ buffer.size)

instance (frame : Option CFrame) (buffer : CBuffer) (waiting : List HdlcFrame) :
    Decidable (FetchAllowed frame buffer waiting) :=
  match waiting with
  | [] => inferInstanceAs (Decidable (Cleared _))
  | _ :: _ => inferInstanceAs (Decidable ((_ → _) ∧ (_ → _)))

/-- What new octets come to: they make sense, or no frame waits, and none has been
    taken from octets that end within an address. -/
def FeedAllowed (frame : Option CFrame) (buffer : CBuffer) (waiting : List HdlcFrame) :
    Except HdlcStatus Unit × List HdlcFrame → Prop
  | (.ok _, decoded) => FetchAllowed frame buffer (waiting ++ decoded)
  | (.error status, decoded) =>
      if status = .needMoreData then decoded = [] ∧ FetchAllowed frame buffer waiting
      else waiting = [] ∧ Cleared frame

instance (frame : Option CFrame) (buffer : CBuffer) (waiting : List HdlcFrame)
    (fed : Except HdlcStatus Unit × List HdlcFrame) :
    Decidable (FeedAllowed frame buffer waiting fed) :=
  match fed with
  | (.ok _, _) => inferInstanceAs (Decidable (FetchAllowed _ _ _))
  | (.error _, _) => inferInstanceAs (Decidable (@ite Prop _ _ _ _))

/-- New octets, or none: what they come to is allowed, and the library in C++ can
    make its buffers. -/
def DataAllowed (memory : Nat) (decoder : CStreamDecoder) (frame : Option CFrame)
    (buffer : CBuffer) : Except HdlcStatus Bytes → Prop
  | .error _ => Cleared frame
  | .ok data =>
      if data = [] then FetchAllowed frame buffer decoder.pending
      else
        data.length < 2 ^ 63 ∧
          (decoder.decoder.CompletesFrame data → Allocatable memory decoder.decoder.limits) ∧
          FeedAllowed frame buffer decoder.pending
            ((decoder.decoder.push data).1, (decoder.decoder.push data).2.1)

instance (decoder : HdlcStreamDecoder) (data : Bytes) : Decidable (decoder.CompletesFrame data) :=
  inferInstanceAs (Decidable (_ ∧ _ ∧ _ ∧ _ ∧ _))

instance (memory : Nat) (decoder : CStreamDecoder) (frame : Option CFrame) (buffer : CBuffer)
    (data : Except HdlcStatus Bytes) : Decidable (DataAllowed memory decoder frame buffer data) :=
  match data with
  | .error _ => inferInstanceAs (Decidable (Cleared _))
  | .ok _ => inferInstanceAs (Decidable (@ite Prop _ _ _ _))

def PushAllowed (memory : Nat) (decoder : CStreamDecoder) (data : CBytes)
    (frame : Option CFrame) (buffer : CBuffer) (hasInformationSize : Bool) : Prop :=
  if frame = none ∨ hasInformationSize = false then Cleared frame
  else DataAllowed memory decoder frame buffer (readBytes data)

instance (memory : Nat) (decoder : CStreamDecoder) (data : CBytes) (frame : Option CFrame)
    (buffer : CBuffer) (hasInformationSize : Bool) :
    Decidable (PushAllowed memory decoder data frame buffer hasInformationSize) :=
  inferInstanceAs (Decidable (@ite Prop _ _ _ _))

/-- There is room for what a frame completes. -/
def CompletedAllowed (frame : Option CFrame) (buffer : CBuffer) :
    Except HdlcStatus HdlcFrame → Prop
  | .error _ => Cleared frame
  | .ok completed =>
      completed.information ≠ [] →
        buffer.address ≠ 0 ∧ completed.information.length ≤ buffer.size ∧ buffer.size < 2 ^ 63

instance (frame : Option CFrame) (buffer : CBuffer) (completed : Except HdlcStatus HdlcFrame) :
    Decidable (CompletedAllowed frame buffer completed) :=
  match completed with
  | .error _ => inferInstanceAs (Decidable (Cleared _))
  | .ok _ => inferInstanceAs (Decidable (_ → _))

/-- A frame that is put to the others, if it is one. -/
def SegmentAllowed (reassembler : HdlcReassembler) (frame : Option CFrame)
    (buffer : CBuffer) : Except HdlcStatus HdlcFrame → Prop
  | .error _ => Cleared frame
  | .ok input =>
      input.information.length < 2 ^ 31 ∧
        CompletedAllowed frame buffer (reassembler.pushFrame input).1

instance (reassembler : HdlcReassembler) (frame : Option CFrame) (buffer : CBuffer)
    (input : Except HdlcStatus HdlcFrame) :
    Decidable (SegmentAllowed reassembler frame buffer input) :=
  match input with
  | .error _ => inferInstanceAs (Decidable (Cleared _))
  | .ok _ => inferInstanceAs (Decidable (_ ∧ _))

def PushFrameAllowed (reassembler : HdlcReassembler) (inputFrame : CInputFrame)
    (outputFrame : Option CFrame) (buffer : CBuffer) (hasSize hasCompleted : Bool) : Prop :=
  if outputFrame = none ∨ hasSize = false ∨ hasCompleted = false then Cleared outputFrame
  else SegmentAllowed reassembler outputFrame buffer (toCppFrame inputFrame)

instance (reassembler : HdlcReassembler) (inputFrame : CInputFrame)
    (outputFrame : Option CFrame) (buffer : CBuffer) (hasSize hasCompleted : Bool) :
    Decidable (PushFrameAllowed reassembler inputFrame outputFrame buffer hasSize hasCompleted) :=
  inferInstanceAs (Decidable (@ite Prop _ _ _ _))

/-- A call that both interfaces answer alike. -/
def CallAllowed (memory : Nat) (handles : CHandles) : CCall → Prop
  | .encodeFrame none _ _ _ => True
  | .encodeFrame (some frame) limits output hasWrittenSize =>
      output.address = 0 ∨ hasWrittenSize = false ∨
        EncodeAllowed limits output (toCppFrame frame)
  | .decodeFrame (.null _) _ frame _ _ => Cleared frame
  | .decodeFrame (.octets input) limits frame buffer hasInformationSize =>
      DecodeAllowed input limits frame buffer hasInformationSize
  | .streamDecoderPush none _ frame _ _ => Cleared frame
  | .streamDecoderPush (some handle) data frame buffer hasInformationSize =>
      PushAllowed memory (handles.decoders handle) data frame buffer hasInformationSize
  | .streamDecoderReset _ => True
  | .reassemblerPushFrame none _ outputFrame _ _ _ => Cleared outputFrame
  | .reassemblerPushFrame (some _) none outputFrame _ _ _ => Cleared outputFrame
  | .reassemblerPushFrame (some handle) (some inputFrame) outputFrame buffer hasSize
      hasCompleted =>
      PushFrameAllowed (handles.reassemblers handle) inputFrame outputFrame buffer hasSize
        hasCompleted
  | .reassemblerReset _ => True

instance (memory : Nat) (handles : CHandles) (call : CCall) :
    Decidable (CallAllowed memory handles call) :=
  match call with
  | .encodeFrame none _ _ _ => isTrue trivial
  | .encodeFrame (some _) _ _ _ => inferInstanceAs (Decidable (_ ∨ _ ∨ _))
  | .decodeFrame (.null _) _ _ _ _ => inferInstanceAs (Decidable (Cleared _))
  | .decodeFrame (.octets _) _ _ _ _ => inferInstanceAs (Decidable (DecodeAllowed _ _ _ _ _))
  | .streamDecoderPush none _ _ _ _ => inferInstanceAs (Decidable (Cleared _))
  | .streamDecoderPush (some _) _ _ _ _ =>
      inferInstanceAs (Decidable (PushAllowed _ _ _ _ _ _))
  | .streamDecoderReset _ => isTrue trivial
  | .reassemblerPushFrame none _ _ _ _ _ => inferInstanceAs (Decidable (Cleared _))
  | .reassemblerPushFrame (some _) none _ _ _ _ => inferInstanceAs (Decidable (Cleared _))
  | .reassemblerPushFrame (some _) (some _) _ _ _ _ =>
      inferInstanceAs (Decidable (PushFrameAllowed _ _ _ _ _ _))
  | .reassemblerReset _ => isTrue trivial

/-! ### Limits and frames -/

/-- Where the one interface writes a default, the other leaves the zero that stands
    for it. -/
theorem sameLimits_toLimits (limits : Option HdlcCodecLimits) :
    SameLimits (toCppLimits limits) (toLimits limits) := by
  cases limits with
  | none => exact ⟨rfl, rfl, rfl⟩
  | some limits =>
      rcases limits with ⟨frame, information, reassembled⟩
      refine ⟨?_, ?_, ?_⟩
      · cases frame with
        | zero => rfl
        | succ frame => rfl
      · cases information with
        | zero => rfl
        | succ information => rfl
      · cases reassembled with
        | zero => rfl
        | succ reassembled => rfl

theorem refused_of_cleared (status : HdlcStatus) (frame : Option CFrame) (hasSize : Bool)
    (h : Cleared frame) : untouched status frame hasSize = refused status frame hasSize := by
  rw [untouched, refused, h]

theorem goFields_eq (cf : CInputFrame) :
    goFields cf = (toCppFrame cf).map fun frame =>
      (.ofHdlc frame.destination, .ofHdlc frame.source, .ofHdlc frame.control) := by
  unfold goFields toCppFrame
  simp only [addressFromRaw_eq, controlFromByte_eq, readBytes]
  rcases cf.information with size | bytes
  · cases size with
    | zero =>
        cases HdlcAddress.fromRaw cf.destinationAddressRaw cf.destinationAddressSize with
        | error status => rfl
        | ok destination =>
            cases HdlcAddress.fromRaw cf.sourceAddressRaw cf.sourceAddressSize with
            | error status => rfl
            | ok source =>
                cases HdlcControl.decode cf.control with
                | error status => rfl
                | ok control => rfl
    | succ size => rfl
  · cases HdlcAddress.fromRaw cf.destinationAddressRaw cf.destinationAddressSize with
    | error status => rfl
    | ok destination =>
        cases HdlcAddress.fromRaw cf.sourceAddressRaw cf.sourceAddressSize with
        | error status => rfl
        | ok source =>
            cases HdlcControl.decode cf.control with
            | error status => rfl
            | ok control => rfl

/-- What a frame of C becomes has its flag and its octets. -/
theorem information_of_toCppFrame (cf : CInputFrame) (frame : HdlcFrame)
    (h : toCppFrame cf = .ok frame) :
    frame.segmented = (cf.segmented != 0) ∧ readBytes cf.information = .ok frame.information := by
  unfold toCppFrame at h
  simp only [bind, Except.bind, pure, Except.pure] at h
  cases hread : readBytes cf.information with
  | error status =>
      rw [hread] at h
      cases h
  | ok information =>
      rw [hread] at h
      dsimp only at h
      split at h
      · cases h
      split at h
      · cases h
      split at h
      · cases h
      · rw [← Except.ok.inj h]
        exact ⟨rfl, rfl⟩

/-- An information that a signed number of 32 bits can count is copied whole. -/
theorem goBytes_eq (bytes : Bytes) (h : bytes.length < 2 ^ 31) :
    goBytes bytes = .returned bytes := by
  have hsize : bytes.length % 2 ^ 32 = bytes.length := Nat.mod_eq_of_lt (by omega)
  unfold goBytes
  rw [hsize, if_neg (by omega), List.take_length]

/-- Both interfaces make the same frame of a frame of C. -/
theorem goFrame_eq (cf : CInputFrame)
    (h : ∀ frame, toCppFrame cf = .ok frame → frame.information.length < 2 ^ 31) :
    goFrame cf = .returned ((toCppFrame cf).map .ofHdlc) := by
  unfold goFrame
  rw [goFields_eq]
  cases hframe : toCppFrame cf with
  | error status => rfl
  | ok frame =>
      rcases information_of_toCppFrame cf frame hframe with ⟨hsegmented, hread⟩
      have hlength := h frame hframe
      simp only [Except.map]
      cases hbytes : cf.information with
      | null size =>
          rw [hbytes, readBytes] at hread
          split_ifs at hread
          dsimp only
          rw [← hsegmented, Except.ok.inj hread]
          rfl
      | octets bytes =>
          rw [hbytes] at hread
          obtain rfl : bytes = frame.information := Except.ok.inj hread
          dsimp only
          by_cases hempty : frame.information.length > 0
          · rw [if_pos hempty, goBytes_eq frame.information hlength, ← hsegmented]
            rfl
          · have hnil : [] = frame.information := (List.length_eq_zero_iff.mp (by omega)).symm
            rw [if_neg hempty, ← hsegmented, hnil]
            rfl

/-! ### Encoding and decoding -/

/-- With room for it, a frame is encoded or no octets are needed. -/
theorem encodeFrameToBuffer_cases (frame : HdlcFrame) (limits : HdlcCodecLimits)
    (outputSize : Nat) (hroom : Fits frame limits → fullFrameSize frame ≤ outputSize) :
    (∃ status, Hdlc.encodeFrameToBuffer frame limits outputSize = (.error status, 0)) ∨
      Hdlc.encodeFrameToBuffer frame limits outputSize =
        (.ok (frameBytes frame), fullFrameSize frame) := by
  unfold Hdlc.encodeFrameToBuffer
  by_cases hinformation :
      frame.information.length > Hdlc.effectiveMaximumInformationFieldSize frame limits
  · exact .inl ⟨_, if_pos hinformation⟩
  rw [if_neg hinformation]
  by_cases hlength : Hdlc.formatFieldLength frame > maximumFormatFieldLength
  · exact .inl ⟨_, if_pos hlength⟩
  rw [if_neg hlength]
  by_cases hsize : fullFrameSize frame > Hdlc.effectiveMaximumFrameSize limits
  · exact .inl ⟨_, if_pos hsize⟩
  · have hfits : Fits frame limits := ⟨by omega, by omega, by omega⟩
    have henough := hroom hfits
    rw [if_neg hsize, if_neg (by omega)]
    exact .inr rfl

theorem encode_observed (cf : CInputFrame) (limits : Option HdlcCodecLimits) (output : CBuffer)
    (hasWrittenSize : Bool)
    (h : output.address = 0 ∨ hasWrittenSize = false ∨
      EncodeAllowed limits output (toCppFrame cf)) :
    dlmsHdlcEncodeFrame (some cf) limits output hasWrittenSize =
      .returned (Hdlc.dlmsHdlcEncodeFrame (some cf) limits output hasWrittenSize) := by
  unfold dlmsHdlcEncodeFrame Hdlc.dlmsHdlcEncodeFrame
  dsimp only
  by_cases hpointers : output.address = 0 ∨ hasWrittenSize = false
  · rw [if_pos hpointers, if_pos hpointers]
    rfl
  have hallowed : EncodeAllowed limits output (toCppFrame cf) := by
    rcases h with haddress | hwritten | hallowed
    · exact absurd (Or.inl haddress) hpointers
    · exact absurd (Or.inr hwritten) hpointers
    · exact hallowed
  rw [if_neg hpointers, if_neg hpointers]
  -- The frame of the caller is built first, and refused on both sides or neither.
  cases hframe : toCppFrame cf with
  | error status =>
      rw [goFrame_eq cf (fun frame hok => by
        rw [hframe] at hok
        exact absurd hok nofun), hframe]
      rfl
  | ok frame =>
      rw [hframe] at hallowed
      rcases hallowed with ⟨hinformation, hsize, hroom⟩
      rw [goFrame_eq cf (fun other hok => by
        rw [hframe] at hok
        exact Except.ok.inj hok ▸ hinformation), hframe]
      simp only [Except.map]
      rw [if_neg (by omega), encodeFrameToBuffer_eq,
        ← encodeFrameToBuffer_same _ _ (sameLimits_toLimits limits)]
      rcases encodeFrameToBuffer_cases frame (toCppLimits limits) output.size hroom with
        ⟨status, hencode⟩ | hencode
      · rw [hencode]
        rfl
      · rw [hencode]
        dsimp only
        rw [length_frameBytes]

/-- What is filled in is what is delivered, when the information has a place. -/
theorem filled_eq (frame : HdlcFrame) (buffer : CBuffer) (ibuf : Option Nat)
    (h : ibuf.isSome = true ∨ frame.information = []) :
    filled (.ofHdlc frame) buffer ibuf = delivered frame buffer := by
  have hwritten : (if ibuf.isSome then frame.information else []) = frame.information := by
    by_cases hsome : ibuf.isSome = true
    · rw [if_pos hsome]
    · rw [if_neg hsome, h.resolve_left hsome]
  show CAnswer.mk _ _ _ _ (if ibuf.isSome then frame.information else []) = _
  rw [hwritten]
  rfl

/-- A buffer whose size a signed number holds has a slice, unless it is empty or
    there is none. -/
theorem infoSlice_eq (buffer : CBuffer) (h : buffer.address ≠ 0 → buffer.size < 2 ^ 63) :
    infoSlice buffer =
      .returned (if buffer.address ≠ 0 ∧ buffer.size > 0 then some buffer.size else none) := by
  unfold infoSlice
  by_cases hslice : buffer.address ≠ 0 ∧ buffer.size > 0
  · have hsize := h hslice.1
    rw [if_pos hslice, if_pos hslice, if_neg (by omega)]
  · rw [if_neg hslice, if_neg hslice]

theorem decode_observed (input : Bytes) (limits : Option HdlcCodecLimits)
    (frame : Option CFrame) (buffer : CBuffer) (hasInformationSize : Bool)
    (h : DecodeAllowed input limits frame buffer hasInformationSize) :
    dlmsHdlcDecodeFrame (.octets input) limits frame buffer hasInformationSize =
      .returned (Hdlc.dlmsHdlcDecodeFrame (.octets input) limits frame buffer
        hasInformationSize) := by
  unfold DecodeAllowed at h
  unfold dlmsHdlcDecodeFrame Hdlc.dlmsHdlcDecodeFrame
  dsimp only
  by_cases hpointers : frame = none ∨ hasInformationSize = false
  · rw [if_pos hpointers] at h
    rw [if_pos hpointers, if_pos (hpointers.imp_right Or.inl), refused_of_cleared _ _ _ h]
  rw [if_neg hpointers] at h
  rcases h with ⟨hinput, hsize, hnull, hread⟩
  have hgiven : ¬(frame = none ∨ hasInformationSize = false ∨
      (buffer.address = 0 ∧ buffer.size ≠ 0)) := by
    rintro (hframe | hflag | ⟨haddress, hnonzero⟩)
    · exact hpointers (Or.inl hframe)
    · exact hpointers (Or.inr hflag)
    · exact hnonzero (hnull haddress)
  rw [if_neg hpointers, if_neg hgiven, if_neg (by omega), infoSlice_eq buffer fun _ => hsize]
  dsimp only
  rw [decodeFrameFromBuffer_eq, Hdlc.decodeFrameFromBuffer,
    ← readFrame_same _ _ (sameLimits_toLimits limits)]
  cases hresult : readFrame input (toCppLimits limits) with
  | error status =>
      rw [hresult] at hread
      exact congrArg Outcome.returned (refused_of_cleared status frame true hread)
  | ok read =>
      rw [hresult] at hread
      rcases hread with ⟨hroom, hcleared⟩
      simp only [Except.bind, bind, handOver]
      rw [← checkInformation_same _ _ (sameLimits_toLimits limits), checkInformation]
      by_cases hinformation : read.information.length >
          Hdlc.effectiveMaximumInformationFieldSize read (toCppLimits limits)
      · -- Too large for the limit, and there is room for it: both refuse it.
        have henough : ¬read.information.length > buffer.size := by omega
        have hclear : Cleared frame := by
          rcases hcleared with hfits | hclear
          · omega
          · exact hclear
        rw [if_pos hinformation, if_neg henough]
        exact congrArg Outcome.returned (refused_of_cleared _ _ _ hclear)
      rw [if_neg hinformation]
      dsimp only
      by_cases hsmall : read.information.length > buffer.size
      · -- There is a buffer, and it is too small.
        have haddress : buffer.address ≠ 0 := fun haddress => by
          have hzero := hnull haddress
          omega
        have hclear : Cleared frame := by
          rcases hcleared with hfits | hclear
          · omega
          · exact hclear
        rw [if_pos hsmall, if_pos ⟨haddress, by omega⟩]
        dsimp only
        rw [if_pos ⟨by omega, hsmall⟩]
        exact congrArg Outcome.returned (refused_of_cleared _ _ _ hclear)
      rw [if_neg hsmall]
      dsimp only
      by_cases hslice : buffer.address ≠ 0 ∧ buffer.size > 0
      · rw [if_pos hslice]
        dsimp only
        rw [if_neg (by omega)]
        exact congrArg Outcome.returned (filled_eq read buffer _ (Or.inl rfl))
      · have hempty : read.information = [] := by
          refine List.length_eq_zero_iff.mp ?_
          by_contra hnonempty
          refine hslice ⟨fun haddress => ?_, by omega⟩
          have hzero := hnull haddress
          omega
        rw [if_neg hslice]
        exact congrArg Outcome.returned (filled_eq read buffer _ (Or.inr hempty))

/-! ### Streams -/

namespace CabiStreamDecoder

/-- What stands for a stream decoder of the other interface. -/
def ofC (limits : HdlcCodecLimits) (decoder : CStreamDecoder) : CabiStreamDecoder where
  decoder := .ofHdlc { decoder.decoder with limits := limits }
  pendingFrames := decoder.pending.map .ofHdlc

theorem fetch_observed (limits : HdlcCodecLimits) (decoder : CStreamDecoder)
    (frame : Option CFrame) (buffer : CBuffer) (h : FetchAllowed frame buffer decoder.pending) :
    (ofC limits decoder).fetch frame buffer =
      (.returned (decoder.fetch frame buffer).1, ofC limits (decoder.fetch frame buffer).2) := by
  rcases decoder with ⟨decoder, pending⟩
  cases pending with
  | nil => exact congrArg (fun answer => (Outcome.returned answer, _)) (refused_of_cleared _ _ _ h)
  | cons first rest =>
      rcases h with ⟨hsize, hroom⟩
      -- The pending frame fits the buffer, which is there if there is information to hold.
      have hlength : first.information.length ≤ buffer.size := by
        by_cases hempty : first.information = []
        · rw [hempty]
          exact Nat.zero_le _
        · exact (hroom hempty).2
      have hgiven : ¬(first.information.length > 0 ∧ buffer.address = 0) := by
        rintro ⟨hpositive, haddress⟩
        exact (hroom (List.ne_nil_of_length_pos hpositive)).1 haddress
      unfold fetch CStreamDecoder.fetch
      simp only [ofC, List.map_cons, infoSlice_eq buffer hsize]
      rw [if_neg (Nat.not_lt.mpr hlength), if_neg hgiven]
      by_cases hslice : buffer.address ≠ 0 ∧ buffer.size > 0
      · have hfits : ¬((Frame.ofHdlc first).information.length > 0 ∧
            (some buffer.size).getD 0 < (Frame.ofHdlc first).information.length) :=
          fun hsmall => Nat.not_lt.mpr hlength hsmall.2
        rw [if_pos hslice, if_neg hfits, filled_eq first buffer _ (Or.inl rfl)]
      · -- No slice is handed over, and nothing was to go into it.
        have hempty : first.information = [] := by
          refine List.length_eq_zero_iff.mp (Nat.eq_zero_of_not_pos fun hpositive => ?_)
          refine hslice ⟨fun haddress => hgiven ⟨hpositive, haddress⟩, ?_⟩
          exact Nat.lt_of_lt_of_le hpositive hlength
        have hfits : ¬((Frame.ofHdlc first).information.length > 0 ∧
            (none : Option Nat).getD 0 < (Frame.ofHdlc first).information.length) := by
          rintro ⟨hpositive, -⟩
          exact absurd hempty (List.ne_nil_of_length_pos hpositive)
        rw [if_neg hslice, if_neg hfits, filled_eq first buffer _ (Or.inr hempty)]

/-- New octets come to the same, and what waits afterwards may be fetched. -/
theorem feed_observed (memory : Nat) (limits : HdlcCodecLimits) (decoder : CStreamDecoder)
    (data : Bytes) (frame : Option CFrame) (buffer : CBuffer)
    (hlimits : SameLimits decoder.decoder.limits limits) (hdata : data ≠ [])
    (hcomplete : decoder.decoder.CompletesFrame data → Allocatable memory decoder.decoder.limits)
    (h : FeedAllowed frame buffer decoder.pending
      ((decoder.decoder.push data).1, (decoder.decoder.push data).2.1)) :
    (ofC limits decoder).feed data =
        ((decoder.feed memory data).1, ofC limits (decoder.feed memory data).2) ∧
      ((decoder.feed memory data).1 = .ok () ∧
          FetchAllowed frame buffer (decoder.feed memory data).2.pending ∨
        (∃ status, (decoder.feed memory data).1 = .error status) ∧ Cleared frame) := by
  have hsame := HdlcStreamDecoder.push_same decoder.decoder data limits hlimits
  have hgo := StreamDecoder.push_eq { decoder.decoder with limits := limits } data
  rw [hsame] at hgo
  unfold feed CStreamDecoder.feed ofC
  dsimp only
  rw [if_neg hdata, decoder.decoder.pushAllocating_eq memory data hcomplete, hgo]
  have hreset := decoder.decoder.push_failed data
  rcases hpush : decoder.decoder.push data with ⟨result, decoded, after⟩
  rw [hpush] at h hreset
  cases result with
  | ok done =>
      refine ⟨?_, Or.inl ⟨rfl, h⟩⟩
      dsimp only [StreamDecoder.answerOf, Except.map]
      rw [List.map_append]
  | error status =>
      by_cases hmore : status = .needMoreData
      · subst hmore
        rcases h with ⟨rfl, hfetch⟩
        refine ⟨?_, Or.inl ⟨rfl, ?_⟩⟩
        · dsimp only [StreamDecoder.answerOf, Except.map]
          rw [List.append_nil]
        · show FetchAllowed frame buffer (decoder.pending ++ [])
          rw [List.append_nil]
          exact hfetch
      · have hrefused : decoder.pending = [] ∧ Cleared frame := by
          unfold FeedAllowed at h
          dsimp only at h
          rw [if_neg hmore] at h
          exact h
        have hbuffer : [] = after.buffer :=
          congrArg HdlcStreamDecoder.buffer (hreset status hmore rfl)
        rcases after with ⟨kept, noisePolicy, rest⟩
        obtain rfl : [] = rest := hbuffer
        rw [hrefused.1]
        -- Every status but that one is passed on.
        cases status
        case needMoreData => exact absurd rfl hmore
        all_goals exact ⟨rfl, Or.inr ⟨⟨_, rfl⟩, hrefused.2⟩⟩

/-- A decoder keeps its limits. -/
theorem limits_feed (memory : Nat) (decoder : CStreamDecoder) (data : Bytes)
    (hcomplete : decoder.decoder.CompletesFrame data → Allocatable memory decoder.decoder.limits) :
    (decoder.feed memory data).2.decoder.limits = decoder.decoder.limits := by
  have hkept : (decoder.decoder.push data).2.2.limits = decoder.decoder.limits :=
    HdlcStreamDecoder.limits_extractFrames _ { decoder.decoder with
      buffer := decoder.decoder.buffer ++ data } []
  unfold CStreamDecoder.feed
  by_cases hdata : data = []
  · rw [if_pos hdata]
  rw [if_neg hdata, decoder.decoder.pushAllocating_eq memory data hcomplete]
  rcases hpush : decoder.decoder.push data with ⟨result, decoded, after⟩
  rw [hpush] at hkept
  cases result with
  | ok done => exact hkept
  | error status =>
      cases status
      all_goals exact hkept

theorem limits_fetch (decoder : CStreamDecoder) (frame : Option CFrame) (buffer : CBuffer) :
    (decoder.fetch frame buffer).2.decoder = decoder.decoder := by
  unfold CStreamDecoder.fetch
  cases decoder.pending with
  | nil => rfl
  | cons first rest =>
      dsimp only
      split_ifs
      all_goals rfl

end CabiStreamDecoder

/-- One stream decoder stands for the other. -/
def DecoderStands (decoder : CStreamDecoder) (state : CabiStreamDecoder) : Prop :=
  ∃ limits, SameLimits decoder.decoder.limits limits ∧ state = .ofC limits decoder

theorem streamPush_observed (memory : Nat) (decoder : CStreamDecoder) (state : CabiStreamDecoder)
    (data : CBytes) (frame : Option CFrame) (buffer : CBuffer) (hasInformationSize : Bool)
    (hstands : DecoderStands decoder state)
    (h : PushAllowed memory decoder data frame buffer hasInformationSize) :
    (dlmsHdlcStreamDecoderPush state data frame buffer hasInformationSize).1 =
        .returned (Hdlc.dlmsHdlcStreamDecoderPush memory decoder data frame buffer
          hasInformationSize).1 ∧
      DecoderStands
        (Hdlc.dlmsHdlcStreamDecoderPush memory decoder data frame buffer hasInformationSize).2
        (dlmsHdlcStreamDecoderPush state data frame buffer hasInformationSize).2 := by
  rcases hstands with ⟨limits, hlimits, rfl⟩
  unfold PushAllowed at h
  unfold dlmsHdlcStreamDecoderPush Hdlc.dlmsHdlcStreamDecoderPush
  by_cases hpointers : frame = none ∨ hasInformationSize = false
  · rw [if_pos hpointers] at h
    rw [if_pos hpointers, if_pos hpointers]
    exact ⟨congrArg Outcome.returned (refused_of_cleared _ _ _ h), limits, hlimits, rfl⟩
  rw [if_neg hpointers] at h
  rw [if_neg hpointers, if_neg hpointers]
  -- Without new octets there is only a frame to fetch.
  have hfetch : ∀ decoder : CStreamDecoder, SameLimits decoder.decoder.limits limits →
      FetchAllowed frame buffer decoder.pending →
      (CabiStreamDecoder.fetch (.ofC limits decoder) frame buffer).1 =
          .returned (decoder.fetch frame buffer).1 ∧
        DecoderStands (decoder.fetch frame buffer).2
          (CabiStreamDecoder.fetch (.ofC limits decoder) frame buffer).2 := by
    intro decoder hlimits hallowed
    rw [CabiStreamDecoder.fetch_observed limits decoder frame buffer hallowed]
    refine ⟨rfl, limits, ?_, rfl⟩
    rw [CabiStreamDecoder.limits_fetch]
    exact hlimits
  rcases data with size | bytes
  · cases size with
    | zero => exact hfetch decoder hlimits h
    | succ size =>
        exact ⟨congrArg Outcome.returned (refused_of_cleared _ _ _ h), limits, hlimits, rfl⟩
  · cases bytes with
    | nil => exact hfetch decoder hlimits h
    | cons first rest =>
        rcases h with ⟨hlength, hcomplete, hfeed⟩
        have hkept := CabiStreamDecoder.limits_feed memory decoder (first :: rest) hcomplete
        rcases CabiStreamDecoder.feed_observed memory limits decoder (first :: rest) frame buffer
          hlimits (List.cons_ne_nil _ _) hcomplete hfeed with ⟨hfed, hafter⟩
        dsimp only [readBytes]
        rw [if_neg (Nat.not_le.mpr hlength), hfed]
        rcases hresult : decoder.feed memory (first :: rest) with ⟨result, after⟩
        rw [hresult] at hafter hkept
        rcases hafter with ⟨hok, hallowed⟩ | ⟨⟨status, herror⟩, hcleared⟩
        · obtain rfl : result = .ok () := hok
          exact hfetch after (hkept ▸ hlimits) hallowed
        · obtain rfl : result = .error status := herror
          exact ⟨congrArg Outcome.returned (refused_of_cleared _ _ _ hcleared), limits,
            hkept ▸ hlimits, rfl⟩

/-! ### Segments -/

/-- One reassembler stands for the other. -/
def ReassemblerStands (reassembler : HdlcReassembler) (r : Reassembler) : Prop :=
  ∃ limits, SameLimits reassembler.limits limits ∧ r = .ofHdlc { reassembler with limits := limits }

theorem reassemblerPush_observed (reassembler : HdlcReassembler) (r : Reassembler)
    (inputFrame : CInputFrame) (outputFrame : Option CFrame) (buffer : CBuffer)
    (hasSize hasCompleted : Bool) (hstands : ReassemblerStands reassembler r)
    (h : PushFrameAllowed reassembler inputFrame outputFrame buffer hasSize hasCompleted) :
    (dlmsHdlcReassemblerPushFrame r (some inputFrame) outputFrame buffer hasSize
          hasCompleted).1 =
        .returned (Hdlc.dlmsHdlcReassemblerPushFrame reassembler (some inputFrame) outputFrame
          buffer hasSize hasCompleted).1 ∧
      ReassemblerStands
        (Hdlc.dlmsHdlcReassemblerPushFrame reassembler (some inputFrame) outputFrame buffer
          hasSize hasCompleted).2
        (dlmsHdlcReassemblerPushFrame r (some inputFrame) outputFrame buffer hasSize
          hasCompleted).2 := by
  rcases hstands with ⟨limits, hlimits, rfl⟩
  unfold PushFrameAllowed at h
  unfold dlmsHdlcReassemblerPushFrame Hdlc.dlmsHdlcReassemblerPushFrame
  dsimp only
  by_cases hpointers : outputFrame = none ∨ hasSize = false ∨ hasCompleted = false
  · rw [if_pos hpointers] at h
    rw [if_pos hpointers, if_pos hpointers, refused_of_cleared _ _ _ h]
    exact ⟨rfl, limits, hlimits, rfl⟩
  rw [if_neg hpointers] at h
  rw [if_neg hpointers, if_neg hpointers]
  -- An input that is no frame leaves the reassembler alone.
  cases hframe : toCppFrame inputFrame with
  | error status =>
      rw [hframe] at h
      rw [goFrame_eq inputFrame (fun frame hok => by
        rw [hframe] at hok
        exact absurd hok nofun), hframe]
      refine ⟨?_, limits, hlimits, rfl⟩
      dsimp only [Except.map]
      rw [refused_of_cleared _ _ _ h]
  | ok frame =>
      rw [hframe] at h
      rcases h with ⟨hinformation, hcompleted⟩
      have hkept := reassembler.limits_pushFrame frame
      rw [goFrame_eq inputFrame (fun other hok => by
        rw [hframe] at hok
        exact Except.ok.inj hok ▸ hinformation), hframe]
      dsimp only [Except.map]
      rw [Reassembler.push_eq, HdlcReassembler.pushFrame_same reassembler frame limits hlimits]
      rcases hpush : reassembler.pushFrame frame with ⟨result, after⟩
      rw [hpush] at hcompleted hkept
      have hafter : SameLimits after.limits limits := hkept ▸ hlimits
      cases result with
      | error status =>
          dsimp only [Except.map]
          rw [refused_of_cleared _ _ _ hcompleted]
          exact ⟨rfl, limits, hafter, rfl⟩
      | ok completed =>
          -- The information of a completed frame fits the buffer.
          have hroom : completed.information.length > 0 → buffer.address ≠ 0 ∧
              completed.information.length ≤ buffer.size ∧ buffer.size < 2 ^ 63 :=
            fun hpositive => hcompleted (List.ne_nil_of_length_pos hpositive)
          have hgo : ¬((Frame.ofHdlc completed).information.length > 0 ∧
              (buffer.address = 0 ∨ buffer.size < (Frame.ofHdlc completed).information.length ∨
                buffer.size ≥ 2 ^ 63)) := by
            show ¬(completed.information.length > 0 ∧ (buffer.address = 0 ∨
              buffer.size < completed.information.length ∨ buffer.size ≥ 2 ^ 63))
            omega
          have hlarge : ¬completed.information.length > buffer.size := by omega
          have hgiven : ¬(completed.information.length > 0 ∧ buffer.address = 0) := by omega
          dsimp only [Except.map]
          rw [if_neg hgo, if_neg hlarge, if_neg hgiven, filled_eq _ _ _ (Or.inl rfl)]
          exact ⟨rfl, limits, hafter, rfl⟩

/-! ### Runs -/

/-- The objects behind the handles stand for each other. -/
structure HandlesStand (handles : CHandles) (other : CabiHandles) : Prop where
  decoders : ∀ handle, DecoderStands (handles.decoders handle) (other.decoders handle)
  reassemblers : ∀ handle,
    ReassemblerStands (handles.reassemblers handle) (other.reassemblers handle)

theorem handlesStand_create (decoderLimits reassemblerLimits : Nat → Option HdlcCodecLimits) :
    HandlesStand (.create decoderLimits reassemblerLimits)
      (.create decoderLimits reassemblerLimits) where
  decoders := fun handle => ⟨toLimits (decoderLimits handle), sameLimits_toLimits _, rfl⟩
  reassemblers := fun handle => ⟨toLimits (reassemblerLimits handle), sameLimits_toLimits _, rfl⟩

theorem handlesStand_decoder (handles : CHandles) (other : CabiHandles) (handle : Nat)
    (decoder : CStreamDecoder) (state : CabiStreamDecoder) (h : HandlesStand handles other)
    (hnew : DecoderStands decoder state) :
    HandlesStand
      { handles with decoders := Function.update handles.decoders handle decoder }
      { other with decoders := Function.update other.decoders handle state } where
  decoders :=
    Machine.stands_update (fun _ => DecoderStands) _ _ handle decoder state h.decoders hnew
  reassemblers := h.reassemblers

theorem handlesStand_reassembler (handles : CHandles) (other : CabiHandles) (handle : Nat)
    (reassembler : HdlcReassembler) (r : Reassembler) (h : HandlesStand handles other)
    (hnew : ReassemblerStands reassembler r) :
    HandlesStand
      { handles with reassemblers := Function.update handles.reassemblers handle reassembler }
      { other with reassemblers := Function.update other.reassemblers handle r } where
  decoders := h.decoders
  reassemblers :=
    Machine.stands_update (fun _ => ReassemblerStands) _ _ handle reassembler r h.reassemblers hnew

/-- A call that is allowed is answered alike, and the objects still stand for each
    other. -/
theorem call_observed (memory : Nat) (call : CCall) (handles : CHandles) (other : CabiHandles)
    (hstand : HandlesStand handles other) (h : CallAllowed memory handles call) :
    (cabiCall call other).1 = .returned (cCall memory call handles).1 ∧
      HandlesStand (cCall memory call handles).2 (cabiCall call other).2 := by
  -- Every call is for one object, and the others stand as they did.
  cases call with
  | encodeFrame frame limits output hasWrittenSize =>
      refine ⟨?_, hstand⟩
      cases frame with
      | none => rfl
      | some frame => exact encode_observed frame limits output hasWrittenSize h
  | decodeFrame input limits frame buffer hasInformationSize =>
      refine ⟨?_, hstand⟩
      cases input with
      | null size => exact congrArg Outcome.returned (refused_of_cleared _ _ _ h)
      | octets input => exact decode_observed input limits frame buffer hasInformationSize h
  | streamDecoderPush decoder data frame buffer hasInformationSize =>
      cases decoder with
      | none => exact ⟨congrArg Outcome.returned (refused_of_cleared _ _ _ h), hstand⟩
      | some handle =>
          rcases streamPush_observed memory (handles.decoders handle) (other.decoders handle) data
            frame buffer hasInformationSize (hstand.decoders handle) h with ⟨hanswer, hafter⟩
          exact ⟨hanswer, handlesStand_decoder handles other handle _ _ hstand hafter⟩
  | streamDecoderReset decoder =>
      cases decoder with
      | none => exact ⟨rfl, hstand⟩
      | some handle =>
          have hreset : DecoderStands (handles.decoders handle).reset
              (other.decoders handle).reset := by
            rcases hstand.decoders handle with ⟨limits, hlimits, hstate⟩
            exact ⟨limits, hlimits, hstate ▸ rfl⟩
          exact ⟨rfl, handlesStand_decoder handles other handle _ _ hstand hreset⟩
  | reassemblerPushFrame reassembler inputFrame outputFrame buffer hasSize hasCompleted =>
      have hrefused : Cleared outputFrame →
          ({ untouched .invalidArgument outputFrame hasSize with
              hasCompletedFrame := zeroed hasCompleted } : CAnswer) =
            { refused .invalidArgument outputFrame hasSize with
              hasCompletedFrame := zeroed hasCompleted } := by
        intro hcleared
        rw [refused_of_cleared _ _ _ hcleared]
      cases reassembler with
      | none => exact ⟨congrArg Outcome.returned (hrefused h), hstand⟩
      | some handle =>
          cases inputFrame with
          | none =>
              exact ⟨congrArg Outcome.returned (hrefused h),
                handlesStand_reassembler handles other handle _ _ hstand
                  (hstand.reassemblers handle)⟩
          | some inputFrame =>
              rcases reassemblerPush_observed (handles.reassemblers handle)
                (other.reassemblers handle) inputFrame outputFrame buffer hasSize hasCompleted
                (hstand.reassemblers handle) h with ⟨hanswer, hafter⟩
              exact ⟨hanswer, handlesStand_reassembler handles other handle _ _ hstand hafter⟩
  | reassemblerReset reassembler =>
      cases reassembler with
      | none => exact ⟨rfl, hstand⟩
      | some handle =>
          have hreset : ReassemblerStands (handles.reassemblers handle).reset
              (other.reassemblers handle).reset := by
            rcases hstand.reassemblers handle with ⟨limits, hlimits, hr⟩
            refine ⟨limits, hlimits, ?_⟩
            rw [hr]
            rcases handles.reassemblers handle with ⟨kept, pendingFrame⟩
            cases pendingFrame with
            | none => rfl
            | some frame => rfl
          exact ⟨rfl, handlesStand_reassembler handles other handle _ _ hstand hreset⟩

/-- Whatever is called, in whatever order, both interfaces return, with the same
    status and the same behind the pointers. -/
def ObservedAlike (memory : Nat) (decoderLimits reassemblerLimits : Nat → Option HdlcCodecLimits)
    (calls : List CCall) : Prop :=
  List.Forall₂ (fun t t' => t'.output = .returned t.output)
    (Machine.run (cCall memory) calls (.create decoderLimits reassemblerLimits))
    (Machine.run cabiCall calls (.create decoderLimits reassemblerLimits))

/-- The same is observed in every run whose calls are all allowed. -/
theorem observedAlike_of_allowed (memory : Nat)
    (decoderLimits reassemblerLimits : Nat → Option HdlcCodecLimits) (calls : List CCall)
    (h : Machine.Admits (cCall memory) (fun _ handles call => CallAllowed memory handles call) []
      calls (.create decoderLimits reassemblerLimits)) :
    ObservedAlike memory decoderLimits reassemblerLimits calls := by
  have halike := Machine.runAlike_of_step (cCall memory) cabiCall
    (fun answer answer' => answer' = .returned answer) HandlesStand
    (fun handles call => CallAllowed memory handles call)
    (fun call handles other hstand hallowed =>
      call_observed memory call handles other hstand hallowed)
    calls [] _ _ (handlesStand_create decoderLimits reassemblerLimits) h
  exact halike.imp fun _ _ hsame => hsame.output

/-! ### What is observed otherwise -/

/-- A SNRM without parameters, as a program in C gives it. -/
def snrmInput : CInputFrame where
  segmented := 0
  destinationAddressRaw := 0x01
  destinationAddressSize := 1
  sourceAddressRaw := 0x10
  sourceAddressSize := 1
  control := snrmControl
  information := .null 0

/-- A SNRM with some parameters, and one without. -/
def parameterBytes : Bytes := frameBytes (readerFrame snrm [0x81, 0x80, 0x00])

def plainBytes : Bytes := frameBytes (readerFrame snrm [])

theorem observedAlike_of_allowed_snrm :
    ObservedAlike (2 ^ 34) (fun _ => none) (fun _ => none)
      [.encodeFrame (some snrmInput) none { address := 4096, size := 9 } true,
        .streamDecoderPush (some 0) (.octets (parameterBytes ++ plainBytes)) (some clearFrame)
          { address := 4096, size := 3 } true,
        .streamDecoderPush (some 0) (.null 0) (some clearFrame) { address := 0, size := 0 } true] :=
  observedAlike_of_allowed (2 ^ 34) (fun _ => none) (fun _ => none) _ (by decide +kernel)

/-- One octet less than a frame needs is refused without its size. A frame is
    decoded without a buffer, and its information is lost. Octets that make no
    sense leave a frame waiting, and the next call gives it out. -/
theorem not_observedAlike :
    ¬ObservedAlike (2 ^ 34) (fun _ => none) (fun _ => none)
        [.encodeFrame (some snrmInput) none { address := 4096, size := 8 } true] ∧
      ¬ObservedAlike (2 ^ 34) (fun _ => none) (fun _ => none)
        [.decodeFrame (.octets parameterBytes) none (some clearFrame) { address := 0, size := 0 }
          true] ∧
      ¬ObservedAlike (2 ^ 34) (fun _ => none) (fun _ => none)
        [.streamDecoderPush (some 0) (.octets (plainBytes ++ plainBytes)) (some clearFrame)
            { address := 0, size := 0 } true,
          .streamDecoderPush (some 0) (.octets [0x7E, 0x00, 0x00]) (some clearFrame)
            { address := 0, size := 0 } true,
          .streamDecoderPush (some 0) (.null 0) (some clearFrame) { address := 0, size := 0 }
            true] := by
  refine ⟨?_, ?_, ?_⟩
  all_goals
    unfold ObservedAlike
    decide +kernel

end GoHdlc

end Dlms
