import Dlms.GoHdlc.Stream
import Dlms.Hdlc.Calls
import Dlms.Machine.Simulation

/-!
# The two codecs

The codec in C++ and the codec in Go are shipped for each other: one can stand in
for the other wherever octets become frames and frames octets. They agree when
whatever one of them is given, it returns, and returns what the other returns.

They do as long as the largest frame between the limits can be given a buffer.
The library in C++ makes such a buffer for every frame that it encodes or
decodes, and the package in Go for every frame that it encodes. When that fails,
C++ answers with a status or not at all, and Go not at all; to decode, Go makes a
buffer of the size that the information has, and does not fail.

## Main definitions

* `StreamCall`, `ReassemblerCall`: What a decoder and a reassembler are asked.
* `CodecsAgree`: Both codecs return, and return the same.

## Theorems

* `encode_agrees`, `decode_agrees`, `streams_agree`, `reassemblers_agree`: They
  agree in each of their functions.
* `codecsAgree_iff`: They agree exactly when the buffer can be made.
-/

namespace Dlms

namespace GoHdlc

open Hdlc

/-! ### What is asked -/

inductive StreamCall where
  | push (data : Bytes)
  | reset

inductive ReassemblerCall where
  | push (frame : HdlcFrame)
  | reset

/-- The decoder in C++. -/
def hdlcStreamCall (memory : Nat) (call : StreamCall) (decoder : HdlcStreamDecoder) :
    Outcome (Except HdlcStatus Unit × List HdlcFrame) × HdlcStreamDecoder :=
  match call with
  | .push data => decoder.pushAllocating memory data
  | .reset => (.returned (.ok (), []), decoder.reset)

/-- The decoder in Go. -/
def streamCall (call : StreamCall) (d : StreamDecoder) :
    Except HdlcStatus (List Frame) × StreamDecoder :=
  match call with
  | .push data => d.push data
  | .reset => (.ok [], d.reset)

/-- The reassembler in C++; a reset gives nothing. -/
def hdlcReassemblerCall (call : ReassemblerCall) (reassembler : HdlcReassembler) :
    Option (Except HdlcStatus HdlcFrame) × HdlcReassembler :=
  match call with
  | .push frame => (some (reassembler.pushFrame frame).1, (reassembler.pushFrame frame).2)
  | .reset => (none, reassembler.reset)

/-- The reassembler in Go. -/
def reassemblerCall (call : ReassemblerCall) (r : Reassembler) :
    Option (Except HdlcStatus Frame) × Reassembler :=
  match call with
  | .push frame => (some (r.push (.ofHdlc frame)).1, (r.push (.ofHdlc frame)).2)
  | .reset => (none, r.reset)

/-! ### What it is to agree -/

section Agreement

variable (memory : Nat) (limits : HdlcCodecLimits)

/-- Both encoders return the same status or the same octets. -/
def EncodeAgrees (frame : HdlcFrame) : Prop :=
  ∃ result, encodeFrameAllocating memory frame limits = .returned result ∧
    encodeFrame memory (.ofHdlc frame) limits = .returned result

/-- Both decoders return the same status or the same frame. -/
def DecodeAgrees (input : Bytes) : Prop :=
  ∃ result, decodeFrameAllocating memory input limits = .returned result ∧
    decodeFrame input limits = result.map .ofHdlc

/-- Both stream decoders return the same status, and the same frames with it when
    it is a success, and keep the same octets. -/
def StreamsAgree (noisePolicy : HdlcNoisePolicy) (calls : List StreamCall) : Prop :=
  Machine.RunAlike (hdlcStreamCall memory) streamCall
    (fun answer answer' =>
      ∃ result, answer = .returned result ∧ answer' = StreamDecoder.answerOf result)
    (fun decoder d => d = .ofHdlc decoder) calls
    { limits := limits, noisePolicy := noisePolicy }
    { limits := limits, noisePolicy := noisePolicy }

/-- Both reassemblers return the same status or the same frame, and keep the same
    frame. -/
def ReassemblersAgree (calls : List ReassemblerCall) : Prop :=
  Machine.RunAlike hdlcReassemblerCall reassemblerCall
    (fun answer answer' => answer' = answer.map fun result => result.map .ofHdlc)
    (fun reassembler r => r = .ofHdlc reassembler) calls { limits := limits } { limits := limits }

/-- The two codecs agree between these limits, with so much memory left. -/
structure CodecsAgree : Prop where
  encode : ∀ frame, EncodeAgrees memory limits frame
  decode : ∀ input, DecodeAgrees memory limits input
  stream : ∀ noisePolicy calls, StreamsAgree memory limits noisePolicy calls
  reassemble : ∀ calls, ReassemblersAgree limits calls

end Agreement

/-! ### Where they agree -/

section Allocatable

variable (memory : Nat) (limits : HdlcCodecLimits)

/-- The same sizes have a vector and a slice. -/
theorem allocatable_iff_makeable :
    Allocatable memory limits ↔ Makeable memory (effectiveMaximumFrameSize limits) := by
  rw [Allocatable, Makeable, effectiveMaximumFrameSize_eq, maximumVectorSize]
  omega

variable (h : Allocatable memory limits)
include h

theorem encode_agrees (frame : HdlcFrame) : EncodeAgrees memory limits frame := by
  refine ⟨Hdlc.encodeFrame frame limits, encodeFrameAllocating_eq memory frame limits h, ?_⟩
  rw [encodeFrame, if_pos ((allocatable_iff_makeable memory limits).mp h),
    encodeFrameToBuffer_eq]
  exact congrArg Outcome.returned (Hdlc.encodeFrameToBuffer_eq frame limits _ (Nat.le_refl _))

theorem decode_agrees (input : Bytes) : DecodeAgrees memory limits input :=
  ⟨Hdlc.decodeFrame input limits, decodeFrameAllocating_eq memory limits input h,
    decodeFrame_eq input limits⟩

theorem streams_agree (noisePolicy : HdlcNoisePolicy) (calls : List StreamCall) :
    StreamsAgree memory limits noisePolicy calls := by
  refine Machine.runAlike_of_step _ _ _ _ (fun decoder _ => decoder.limits = limits) ?_ calls []
    _ _ rfl (Machine.admits_of_invariant (hdlcStreamCall memory)
      (fun decoder => decoder.limits = limits) ?_ [] calls _ rfl)
  · rintro call decoder d rfl hlimits
    cases call with
    | push data =>
        have hpush := decoder.pushAllocating_eq memory data fun _ => hlimits ▸ h
        refine ⟨⟨((decoder.push data).1, (decoder.push data).2.1), ?_, ?_⟩, ?_⟩
        · exact congrArg Prod.fst hpush
        · exact congrArg Prod.fst (StreamDecoder.push_eq decoder data)
        · exact (congrArg Prod.snd (StreamDecoder.push_eq decoder data)).trans
            (congrArg (fun result => StreamDecoder.ofHdlc result.2) hpush).symm
    | reset => exact ⟨⟨(.ok (), []), rfl, rfl⟩, rfl⟩
  · intro decoder call hlimits
    cases call with
    | push data =>
        have hpush := decoder.pushAllocating_eq memory data fun _ => hlimits ▸ h
        have hkept := HdlcStreamDecoder.limits_extractFrames
          ((decoder.buffer ++ data).length + 1)
          { decoder with buffer := decoder.buffer ++ data } []
        exact (congrArg (fun result => result.2.limits) hpush).trans (hkept.trans hlimits)
    | reset => exact hlimits

end Allocatable

/-- The reassemblers make no buffer of their own, and agree always. -/
theorem reassemblers_agree (limits : HdlcCodecLimits) (calls : List ReassemblerCall) :
    ReassemblersAgree limits calls := by
  refine Machine.runAlike_of_step _ _ _ _ (fun _ _ => True) ?_ calls [] _ _ rfl
    (Machine.admits_of_forall _ _ (fun _ _ _ => trivial) [] calls _)
  rintro call reassembler r rfl -
  cases call with
  | push frame =>
      have hpush := Reassembler.push_eq reassembler frame
      exact ⟨congrArg some (congrArg Prod.fst hpush), congrArg Prod.snd hpush⟩
  | reset =>
      refine ⟨rfl, ?_⟩
      show (Reassembler.ofHdlc reassembler).reset = Reassembler.ofHdlc reassembler.reset
      rcases reassembler with ⟨limits, pendingFrame⟩
      cases pendingFrame with
      | none => rfl
      | some frame => rfl

/-- The codecs agree exactly when the largest frame between the limits can be
    given a buffer. -/
theorem codecsAgree_iff (memory : Nat) (limits : HdlcCodecLimits) :
    CodecsAgree memory limits ↔ Allocatable memory limits := by
  constructor
  · intro hagree
    -- To encode a frame, Go makes the buffer or does not return.
    rcases hagree.encode (readerFrame snrm []) with ⟨result, -, hgo⟩
    rw [allocatable_iff_makeable]
    by_contra hmakeable
    rw [encodeFrame, if_neg hmakeable] at hgo
    cases hgo
  · intro h
    exact
      { encode := encode_agrees memory limits h
        decode := decode_agrees memory limits h
        stream := streams_agree memory limits h
        reassemble := reassemblers_agree limits }

/-! ### Limits without a bound -/

/-- Limits that allow a frame of any size. -/
def unlimited : HdlcCodecLimits where
  maximumFrameSize := 2 ^ 64 - 1
  maximumInformationFieldSize := 0
  maximumReassembledInformationSize := 0

/-- A SNRM without parameters. -/
def snrmBytes : Bytes := frameBytes (readerFrame snrm [])

/-- Between such limits C++ neither encodes nor decodes a SNRM: giving a vector
    its size throws. Go does not encode it either, and decodes it. With less than
    a vector can have, and more than there is memory, C++ answers with a status. -/
theorem not_codecsAgree :
    decodeFrameAllocating (2 ^ 34) snrmBytes unlimited = .thrown ∧
      decodeFrame snrmBytes unlimited = .ok (.ofHdlc (readerFrame snrm [])) ∧
      encodeFrameAllocating (2 ^ 34) (readerFrame snrm []) unlimited = .thrown ∧
      encodeFrame (2 ^ 34) (.ofHdlc (readerFrame snrm [])) unlimited = .thrown ∧
      decodeFrameAllocating (2 ^ 34) snrmBytes { unlimited with maximumFrameSize := 2 ^ 62 } =
        .returned (.error .internalError) ∧
      decodeFrame snrmBytes { unlimited with maximumFrameSize := 2 ^ 62 } =
        .ok (.ofHdlc (readerFrame snrm [])) ∧
      ¬CodecsAgree (2 ^ 34) unlimited := by
  have hthrown : decodeFrameAllocating (2 ^ 34) snrmBytes unlimited = .thrown := by
    decide +kernel
  refine ⟨hthrown, by decide +kernel, by decide +kernel, by decide +kernel, by decide +kernel,
    by decide +kernel, ?_⟩
  intro hagree
  rcases hagree.decode snrmBytes with ⟨result, hresult, -⟩
  rw [hthrown] at hresult
  cases hresult

end GoHdlc

end Dlms
