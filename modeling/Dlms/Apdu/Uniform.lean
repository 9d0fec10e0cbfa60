import Dlms.Apdu.Xdlms

/-!
# The bytes of a service APDU

Whatever a service APDU has in it, its encoder emits one list of bytes or none
at all, and the list starts with the tag. So an encoded service APDU is not
empty, and fits the buffer of the codec.

## Theorems

* `uniform_encodeServiceApdu` and the fields in it: One list of bytes or none.
* `encodedService`: The bytes of an encoded service APDU.
-/

namespace Dlms

namespace Apdu

open Codec

/-! ### Fields -/

theorem uniform_writeU8 (value : UInt8) : UniformWriter (writeU8 value) :=
  uniform_of_emits _ _ _ (writes_writeU8 value)

theorem uniform_writeU32 (value : UInt32) : UniformWriter (writeU32 value) :=
  uniform_of_emits _ _ _ (writes_writeU32 value)

theorem uniform_writeAxdrLength (length : Nat) : UniformWriter (writeAxdrLength length) :=
  uniform_of_emits _ _ _ (writes_writeAxdrLength length)

theorem uniform_encodeDataBlock (input : DataBlock) : UniformWriter (encodeDataBlock input) :=
  uniform_of_emits _ _ _ (writes_encodeDataBlock input)

theorem uniform_encodeCosemMethodDescriptor (input : CosemMethodDescriptor) :
    UniformWriter (encodeCosemMethodDescriptor input) :=
  uniform_of_emits _ _ _ (writes_encodeCosemMethodDescriptor input)

theorem uniform_encodeDescriptorWithSelection (input : CosemAttributeDescriptorWithSelection) :
    UniformWriter (encodeDescriptorWithSelection input) := by
  refine uniform_bind _ _ _
    (uniform_of_emits _ _ _ (writes_encodeCosemAttributeDescriptor input.descriptor)) ?_
  unfold encodeSelection
  cases input.selection with
  | none => exact uniform_writeU8 _
  | some selection =>
      exact uniform_bind _ _ _ (uniform_writeU8 _)
        (uniform_bind _ _ _ (uniform_writeU8 _) (uniform_encodeDlmsData selection.parameters))

theorem uniform_encodeMethodWithParameter (input : CosemMethodDescriptorWithParameter) :
    UniformWriter (encodeMethodWithParameter input) := by
  refine uniform_bind _ _ _ (uniform_encodeCosemMethodDescriptor input.descriptor) ?_
  unfold encodeOptionalData
  cases input.invocationParameter with
  | none => exact uniform_writeU8 _
  | some data => exact uniform_bind _ _ _ (uniform_writeU8 _) (uniform_encodeDlmsData data)

theorem uniform_encodeResultList (input : List UInt8) : UniformWriter (encodeResultList input) :=
  uniform_bind _ _ _ (uniform_writeAxdrLength _)
    (uniform_forEach _ _ _ fun value _ => uniform_writeU8 value)

/-! ### The frame -/

/-- What is encoded in the frame of a service starts with its tag. -/
def StartsWith (tag : UInt8) (writer : Writer) : Prop :=
  ∀ capacity bytes, runEmitter capacity writer = .ok bytes →
    bytes.length ≤ capacity ∧ ∃ rest, bytes = tag :: rest

theorem startsWith_of_uniform (tag choice iip : UInt8) (body : Writer)
    (h : UniformWriter body) : StartsWith tag (encodeServiceApdu tag choice iip body) := by
  intro capacity bytes hencode
  rcases h with ⟨bodyBytes, hbody⟩ | hfails
  · have hwrites := writes_encodeServiceApdu tag choice iip body bodyBytes hbody
    rw [runEmitter_of_emits _ _ _ _ hwrites] at hencode
    split at hencode
    · rename_i hfits
      rw [← Except.ok.inj hencode]
      exact ⟨hfits, _, rfl⟩
    · cases hencode
  · have hframe : ∀ s, ∃ status, encodeServiceApdu tag choice iip body s = .error status :=
      fails_bind _ _ _ _ (writes_writeU8 tag)
        (fails_bind _ _ _ _ (writes_writeU8 choice)
          (fails_bind _ _ _ _ (writes_writeU8 iip) hfails))
    rcases hframe (Sink.empty capacity) with ⟨status, hstatus⟩
    rw [runEmitter, hstatus] at hencode
    cases hencode

theorem startsWith_encodeGetRequest (input : GetRequest) :
    StartsWith getRequestTag (encodeGetRequest input) := by
  cases input with
  | normal iip normal =>
      exact startsWith_of_uniform _ _ _ _ (uniform_encodeDescriptorWithSelection normal)
  | next iip blockNumber => exact startsWith_of_uniform _ _ _ _ (uniform_writeU32 blockNumber)
  | withList iip list =>
      exact startsWith_of_uniform _ _ _ _ (uniform_bind _ _ _ (uniform_writeAxdrLength _)
        (uniform_forEach _ _ _ fun item _ => uniform_encodeDescriptorWithSelection item))

theorem startsWith_encodeGetResponse (input : GetResponse) :
    StartsWith getResponseTag (encodeGetResponse input) := by
  cases input with
  | normal iip result =>
      exact startsWith_of_uniform _ _ _ _ (uniform_encodeGetDataResult result)
  | withDataBlock iip dataBlock =>
      exact startsWith_of_uniform _ _ _ _ (uniform_encodeDataBlock dataBlock)
  | withList iip list =>
      exact startsWith_of_uniform _ _ _ _ (uniform_bind _ _ _ (uniform_writeAxdrLength _)
        (uniform_forEach _ _ _ fun item _ => uniform_encodeGetDataResult item))

theorem startsWith_encodeSetRequest (input : SetRequest) :
    StartsWith setRequestTag (encodeSetRequest input) := by
  cases input with
  | normal iip normal data =>
      exact startsWith_of_uniform _ _ _ _ (uniform_bind _ _ _
        (uniform_encodeDescriptorWithSelection normal) (uniform_encodeDlmsData data))
  | withFirstDataBlock iip normal dataBlock =>
      exact startsWith_of_uniform _ _ _ _ (uniform_bind _ _ _
        (uniform_encodeDescriptorWithSelection normal) (uniform_encodeDataBlock dataBlock))
  | withDataBlock iip dataBlock =>
      exact startsWith_of_uniform _ _ _ _ (uniform_encodeDataBlock dataBlock)
  | withList iip list valueList =>
      refine startsWith_of_uniform _ _ _ _ ?_
      split
      · exact Or.inr fun _ => ⟨_, rfl⟩
      · exact uniform_bind _ _ _ (uniform_writeAxdrLength _)
          (uniform_bind _ _ _
            (uniform_forEach _ _ _ fun item _ => uniform_encodeDescriptorWithSelection item)
            (uniform_bind _ _ _ (uniform_writeAxdrLength _)
              (uniform_forEach _ _ _ fun value _ => uniform_encodeDlmsData value)))
  | withListAndFirstDataBlock iip list dataBlock =>
      exact startsWith_of_uniform _ _ _ _ (uniform_bind _ _ _ (uniform_writeAxdrLength _)
        (uniform_bind _ _ _
          (uniform_forEach _ _ _ fun item _ => uniform_encodeDescriptorWithSelection item)
          (uniform_encodeDataBlock dataBlock)))

theorem startsWith_encodeSetResponse (input : SetResponse) :
    StartsWith setResponseTag (encodeSetResponse input) := by
  cases input with
  | normal iip result => exact startsWith_of_uniform _ _ _ _ (uniform_writeU8 result)
  | dataBlock iip blockNumber => exact startsWith_of_uniform _ _ _ _ (uniform_writeU32 blockNumber)
  | lastDataBlock iip result blockNumber =>
      exact startsWith_of_uniform _ _ _ _
        (uniform_bind _ _ _ (uniform_writeU8 result) (uniform_writeU32 blockNumber))
  | lastDataBlockWithList iip resultList blockNumber =>
      exact startsWith_of_uniform _ _ _ _
        (uniform_bind _ _ _ (uniform_encodeResultList resultList) (uniform_writeU32 blockNumber))
  | withList iip resultList =>
      exact startsWith_of_uniform _ _ _ _ (uniform_encodeResultList resultList)

theorem startsWith_encodeActionRequest (input : ActionRequest) :
    StartsWith actionRequestTag (encodeActionRequest input) := by
  cases input with
  | normal iip normal =>
      exact startsWith_of_uniform _ _ _ _ (uniform_encodeMethodWithParameter normal)
  | nextPblock iip blockNumber =>
      exact startsWith_of_uniform _ _ _ _ (uniform_writeU32 blockNumber)
  | withList iip list =>
      exact startsWith_of_uniform _ _ _ _ (uniform_bind _ _ _ (uniform_writeAxdrLength _)
        (uniform_forEach _ _ _ fun item _ => uniform_encodeMethodWithParameter item))
  | withFirstPblock iip descriptor dataBlock =>
      exact startsWith_of_uniform _ _ _ _ (uniform_bind _ _ _
        (uniform_encodeCosemMethodDescriptor descriptor) (uniform_encodeDataBlock dataBlock))
  | withListAndFirstPblock iip descriptorList dataBlock =>
      exact startsWith_of_uniform _ _ _ _ (uniform_bind _ _ _ (uniform_writeAxdrLength _)
        (uniform_bind _ _ _
          (uniform_forEach _ _ _ fun item _ => uniform_encodeCosemMethodDescriptor item)
          (uniform_encodeDataBlock dataBlock)))
  | withPblock iip dataBlock =>
      exact startsWith_of_uniform _ _ _ _ (uniform_encodeDataBlock dataBlock)

theorem startsWith_encodeActionResponse (input : ActionResponse) :
    StartsWith actionResponseTag (encodeActionResponse input) := by
  cases input with
  | normal iip normal => exact startsWith_of_uniform _ _ _ _ (uniform_encodeResponseItem normal)
  | withPblock iip dataBlock =>
      exact startsWith_of_uniform _ _ _ _ (uniform_encodeDataBlock dataBlock)
  | withList iip list =>
      exact startsWith_of_uniform _ _ _ _ (uniform_bind _ _ _ (uniform_writeAxdrLength _)
        (uniform_forEach _ _ _ fun item _ => uniform_encodeResponseItem item))
  | nextPblock iip blockNumber =>
      exact startsWith_of_uniform _ _ _ _ (uniform_writeU32 blockNumber)

/-! ### Any of the services -/

/-- The requests and the responses of the services. -/
inductive IsService : XdlmsApdu → Prop
  | getRequest (apdu : GetRequest) : IsService (.getRequest apdu)
  | getResponse (apdu : GetResponse) : IsService (.getResponse apdu)
  | setRequest (apdu : SetRequest) : IsService (.setRequest apdu)
  | setResponse (apdu : SetResponse) : IsService (.setResponse apdu)
  | actionRequest (apdu : ActionRequest) : IsService (.actionRequest apdu)
  | actionResponse (apdu : ActionResponse) : IsService (.actionResponse apdu)

/-- An encoded service APDU is not empty, and fits the buffer of the codec. -/
theorem encodedService (apdu : XdlmsApdu) (bytes : Bytes) (h : IsService apdu)
    (hencode : encodeXdlmsApdu apdu = .ok bytes) :
    bytes ≠ [] ∧ bytes.length ≤ apduBufferSize := by
  have hstarts : ∃ tag rest, bytes.length ≤ apduBufferSize ∧ bytes = tag :: rest := by
    cases h with
    | getRequest apdu =>
        rcases startsWith_encodeGetRequest apdu _ _ hencode with ⟨hfits, rest, hbytes⟩
        exact ⟨_, rest, hfits, hbytes⟩
    | getResponse apdu =>
        rcases startsWith_encodeGetResponse apdu _ _ hencode with ⟨hfits, rest, hbytes⟩
        exact ⟨_, rest, hfits, hbytes⟩
    | setRequest apdu =>
        rcases startsWith_encodeSetRequest apdu _ _ hencode with ⟨hfits, rest, hbytes⟩
        exact ⟨_, rest, hfits, hbytes⟩
    | setResponse apdu =>
        rcases startsWith_encodeSetResponse apdu _ _ hencode with ⟨hfits, rest, hbytes⟩
        exact ⟨_, rest, hfits, hbytes⟩
    | actionRequest apdu =>
        rcases startsWith_encodeActionRequest apdu _ _ hencode with ⟨hfits, rest, hbytes⟩
        exact ⟨_, rest, hfits, hbytes⟩
    | actionResponse apdu =>
        rcases startsWith_encodeActionResponse apdu _ _ hencode with ⟨hfits, rest, hbytes⟩
        exact ⟨_, rest, hfits, hbytes⟩
  rcases hstarts with ⟨tag, rest, hfits, hbytes⟩
  refine ⟨?_, hfits⟩
  rw [hbytes]
  exact List.cons_ne_nil tag rest

end Apdu

end Dlms
