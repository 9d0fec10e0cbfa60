import Dlms.Apdu.Recoding
import Dlms.Xdlms.Reassembly

/-!
# What the handler is given to decode

The data of a SET and the parameter of an ACTION reach the handler as bytes,
and the handler takes them for one encoding of a value. On most ways to the
handler they are: a normal request is decoded and encoded again, and the
parameter of an ACTION that came in blocks is decoded as a check. The value of
a SET that came in blocks goes to the handler as it was put together, and only
an empty one is refused.

So every indication is well formed exactly when each SET that a last block
completes, and that the dispatcher lets through, was well formed as it came.

## Main definitions

* `ServiceIndication.WellFormed`: What the handler is given is one encoding.
* `completedSet`: The SET that a last block completes.
* `WellAssembled`: It was well formed as it came.

## Theorems

* `calls_processSetRequest`, `calls_processActionRequest`: What a service gives
  to the handler.
* `wellFormed_iff`: After every run, the indications of a request are well formed
  exactly when a SET it completes is.
* `not_wellFormed`: A SET of a single octet that is no value.
-/

namespace Dlms

namespace Xdlms

open Apdu (Bytes XdlmsApdu WellFormedData)
open Machine (transition final)

/-- The bytes an indication comes with. -/
def ServiceIndication.payload : ServiceIndication → Option Bytes
  | get _ => none
  | set indication => some indication.data
  | action indication => indication.parameter

/-- They are exactly one encoding of a value, when there are any. -/
def ServiceIndication.WellFormed (indication : ServiceIndication) : Prop :=
  ∀ data, indication.payload = some data → WellFormedData data

/-- The SET that the last block of a transfer completes. -/
def completedSet (options : ServiceOptions) (request : XdlmsApdu)
    (setBlocks : SetRequestBlockState) : Option SetIndication :=
  match request with
  | .setRequest (.withFirstDataBlock iip normal dataBlock) =>
      if setBlocks.active = false ∧ normal.selection.isSome = false ∧ dataBlock.blockNumber = 1 ∧
          (parseServiceOptions iip options).confirmed = true ∧
          dataBlock.rawData.length ≤ options.maxBlockTransferBytes ∧
          dataBlock.lastBlock = true then
        some
          { invokeId := iip &&& 0x0F
            options := parseServiceOptions iip options
            descriptor := toXdlmsDescriptor normal.descriptor
            data := dataBlock.rawData }
      else
        none
  | .setRequest (.withDataBlock iip dataBlock) =>
      if setBlocks.active = true ∧ iip &&& 0x0F = setBlocks.invokeId ∧
          dataBlock.blockNumber = setBlocks.nextBlockNumber ∧
          dataBlock.rawData.length ≤ setBlocks.options.maxBlockTransferBytes ∧
          setBlocks.data.length ≤
            setBlocks.options.maxBlockTransferBytes - dataBlock.rawData.length ∧
          dataBlock.lastBlock = true then
        some
          { invokeId := setBlocks.invokeId
            options := setBlocks.options
            descriptor := setBlocks.descriptor
            data := setBlocks.data ++ dataBlock.rawData }
      else
        none
  | _ => none

/-- The dispatcher lets a SET through. -/
def SetIndication.Valid (indication : SetIndication) : Prop :=
  validateInvokeId indication.invokeId = .ok () ∧
    validateDescriptor indication.descriptor = .ok () ∧ indication.data ≠ []

/-- A SET that a request completes, and that goes on to the handler, is well
    formed as it was put together. -/
def AssembledWell (options : ServiceOptions) (request : XdlmsApdu)
    (setBlocks : SetRequestBlockState) : Prop :=
  ∀ indication, completedSet options request setBlocks = some indication → indication.Valid →
    WellFormedData indication.data

/-- Nothing is handed over, or only one well-formed value. -/
theorem wellFormed_of_nil : ∀ call ∈ ([] : List ServiceIndication), call.WellFormed :=
  fun _ hmem => absurd hmem List.not_mem_nil

theorem wellFormed_singleton (indication : ServiceIndication) :
    (∀ call ∈ [indication], call.WellFormed) ↔ indication.WellFormed := by
  simp [forall_eq]

theorem wellFormed_set (indication : SetIndication) :
    (ServiceIndication.set indication).WellFormed ↔ WellFormedData indication.data := by
  simp [ServiceIndication.WellFormed, ServiceIndication.payload, forall_eq']

/-- A value that recodes is encoded well formed for the handler. -/
theorem wellFormed_of_encodeDataBytes (data : Apdu.DlmsData) (encoded : Bytes)
    (hrecodes : Apdu.Recodes Apdu.maximumDataDepth data)
    (hencoded : encodeDataBytes data = .ok encoded) : WellFormedData encoded := by
  unfold encodeDataBytes at hencoded
  cases hwritten : Codec.runEmitter dataBufferSize (Apdu.encodeDlmsData data) with
  | error status => simp [hwritten] at hencoded
  | ok output =>
      simp only [hwritten, Except.ok.injEq] at hencoded
      rw [← hencoded]
      exact Apdu.wellFormedData_of_recodes data dataBufferSize output hrecodes hwritten

theorem wellFormed_of_validate (parameter : Bytes)
    (h : validateEncodedActionParameter parameter = .ok ()) : WellFormedData parameter := by
  unfold validateEncodedActionParameter at h
  split at h
  · cases h
  · cases hdecoded : Apdu.decodeDlmsData parameter Apdu.maximumDataDepth with
    | error status => simp [hdecoded] at h
    | ok value => exact ⟨value, hdecoded⟩

section Services

variable {δ : Type} (handler : XdlmsServerHandler δ) (options : ServiceOptions)
  (device : δ × List ServiceIndication)

/-- The handler is called with a SET exactly when the dispatcher lets it
    through. -/
theorem calls_answerSet (indication : SetIndication)
    (encode : UInt8 → SetResult → Except XdlmsStatus Bytes) :
    ∃ calls, (answerSet (recordingHandler handler) indication encode device).2.2 =
        device.2 ++ calls ∧
      ((∀ call ∈ calls, call.WellFormed) ↔
        (indication.Valid → WellFormedData indication.data)) := by
  by_cases hvalid : indication.Valid
  · refine ⟨[.set indication], ?_, ?_⟩
    · rw [device_answerSet _ _ _ _ hvalid.1 hvalid.2.1 hvalid.2.2]
      rfl
    · rw [wellFormed_singleton, wellFormed_set]
      exact ⟨fun h _ => h, fun h => h hvalid⟩
  · refine ⟨[], ?_, iff_of_true wellFormed_of_nil fun h => absurd h hvalid⟩
    rw [device_answerSet_refused _ _ _ _ hvalid, List.append_nil]

/-- One SET request: what the handler is given is well formed exactly when a
    transfer it completes was. -/
theorem calls_processSetRequest (request : Apdu.SetRequest) (blocks : SetRequestBlockState)
    (hrecodes : request.Recodes) :
    ∃ calls,
      (processSetRequest (recordingHandler handler) options request blocks device).2.2.2 =
        device.2 ++ calls ∧
      ((∀ call ∈ calls, call.WellFormed) ↔
        AssembledWell options (.setRequest request) blocks) := by
  have hnothing (h : completedSet options (.setRequest request) blocks = none) :
      ∃ calls, device.2 = device.2 ++ calls ∧
        ((∀ call ∈ calls, call.WellFormed) ↔
          AssembledWell options (.setRequest request) blocks) := by
    refine ⟨[], (List.append_nil _).symm, iff_of_true wellFormed_of_nil ?_⟩
    intro indication hcompleted
    rw [h] at hcompleted
    cases hcompleted
  -- What is completed is what the handler is asked about.
  have hanswered (indication : SetIndication) (encode : UInt8 → SetResult → _)
      (h : completedSet options (.setRequest request) blocks = some indication) :
      ∃ calls, (answerSet (recordingHandler handler) indication encode device).2.2 =
          device.2 ++ calls ∧
        ((∀ call ∈ calls, call.WellFormed) ↔
          AssembledWell options (.setRequest request) blocks) := by
    rcases calls_answerSet handler device indication encode with ⟨calls, hlog, hwell⟩
    refine ⟨calls, hlog, hwell.trans ?_⟩
    rw [AssembledWell, h]
    simp [forall_eq']
  have houtcome := processSetRequest_outcome (recordingHandler handler) options request blocks
    device
  generalize processSetRequest (recordingHandler handler) options request blocks device = out
    at houtcome ⊢
  cases houtcome with
  | withList iip list values => exact hnothing rfl
  | withListAndFirstDataBlock iip list dataBlock => exact hnothing rfl
  | normalRefused iip normal data => exact hnothing rfl
  | normal iip normal data indication encoded hselection hconfirmed hencoded hindication =>
      rcases calls_answerSet handler device indication encodeSetResponse with
        ⟨calls, hlog, hwell⟩
      refine ⟨calls, hlog, iff_of_true (hwell.mpr fun _ => ?_) ?_⟩
      · rw [hindication]
        exact wellFormed_of_encodeDataBytes data encoded (hrecodes iip normal data rfl) hencoded
      · intro indication hcompleted
        exact absurd hcompleted (by simp [completedSet])
  | firstRefused iip normal dataBlock status after hexpects =>
      exact hnothing (if_neg fun h => hexpects ⟨h.1, h.2.1, h.2.2.1, h.2.2.2.1, h.2.2.2.2.1⟩)
  | firstAcknowledged iip normal dataBlock hexpects hlast =>
      exact hnothing (if_neg fun h => Bool.false_ne_true (hlast.symm.trans h.2.2.2.2.2))
  | firstAnswered iip normal dataBlock indication answer hexpects hlast hindication hanswer =>
      subst hanswer
      rcases hexpects with ⟨hidle, hselection, hnumber, hconfirmed, hsize⟩
      exact hanswered indication _ (hindication ▸
        if_pos ⟨hidle, hselection, hnumber, hconfirmed, hsize, hlast⟩)
  | nextRefused iip dataBlock status after hexpects =>
      exact hnothing (if_neg fun h => hexpects ⟨h.1, h.2.1, h.2.2.1, h.2.2.2.1, h.2.2.2.2.1⟩)
  | nextAcknowledged iip dataBlock hexpects hlast =>
      exact hnothing (if_neg fun h => Bool.false_ne_true (hlast.symm.trans h.2.2.2.2.2))
  | nextAnswered iip dataBlock indication answer hexpects hlast hindication hanswer =>
      subst hanswer
      rcases hexpects with ⟨hactive, hinvoke, hnumber, hsize, hroom⟩
      exact hanswered indication _ (hindication ▸
        if_pos ⟨hactive, hinvoke, hnumber, hsize, hroom, hlast⟩)

/-- The handler is given nothing but a well-formed ACTION. -/
theorem calls_answerAction (indication : ActionIndication)
    (hparameter : ∀ parameter, indication.parameter = some parameter →
      WellFormedData parameter) :
    ∃ calls, (answerAction (recordingHandler handler) indication device).2.2 =
        device.2 ++ calls ∧ ∀ call ∈ calls, call.WellFormed := by
  rcases log_answerAction handler device indication with ⟨calls, hlog, hcalls⟩
  refine ⟨calls, hlog, fun call hmem => ?_⟩
  rw [hcalls call hmem]
  exact hparameter

theorem calls_validateAndAnswerAction (indication : ActionIndication) (parameter : Bytes) :
    ∃ calls, (validateAndAnswerAction (recordingHandler handler) indication parameter
        device).2.2 = device.2 ++ calls ∧ ∀ call ∈ calls, call.WellFormed := by
  unfold validateAndAnswerAction
  cases hvalid : validateEncodedActionParameter parameter with
  | error status => exact ⟨[], (List.append_nil _).symm, wellFormed_of_nil⟩
  | ok valid =>
      refine calls_answerAction handler device _ ?_
      intro data hdata
      rw [← Option.some.inj hdata]
      exact wellFormed_of_validate parameter hvalid

/-- One ACTION request: whatever the handler is given is well formed. -/
theorem calls_processActionRequest (request : Apdu.ActionRequest)
    (blocks : ActionRequestBlockState) (hrecodes : request.Recodes) :
    ∃ calls,
      (processActionRequest (recordingHandler handler) options request blocks device).2.2.2 =
        device.2 ++ calls ∧ ∀ call ∈ calls, call.WellFormed := by
  have houtcome := processActionRequest_outcome (recordingHandler handler) options request blocks
    device
  generalize processActionRequest (recordingHandler handler) options request blocks device = out
    at houtcome ⊢
  cases houtcome with
  | normal iip normal indication parameter hconfirmed hparameter hindication =>
      refine calls_answerAction handler device _ fun sent hsent => ?_
      rw [hindication] at hsent
      -- The parameter was decoded, and is encoded again for the handler.
      rcases hparameter with ⟨-, hnone⟩ | ⟨data, encoded, hsome, hencoded, hparameter⟩
      · exact absurd (hnone.symm.trans hsent) nofun
      · rw [← Option.some.inj (hparameter.symm.trans hsent)]
        exact wellFormed_of_encodeDataBytes data encoded (hrecodes iip normal data rfl hsome)
          hencoded
  | firstAnswered iip descriptor dataBlock indication answer hexpects hlast hindication hanswer =>
      exact hanswer ▸ calls_validateAndAnswerAction handler device _ _
  | nextAnswered iip dataBlock indication answer hexpects hlast hindication hanswer =>
      exact hanswer ▸ calls_validateAndAnswerAction handler device _ _
  | _ => exact ⟨[], (List.append_nil _).symm, wellFormed_of_nil⟩

end Services

section Runs

variable {σ δ : Type} (handler : XdlmsServerHandler δ) (options : ServiceOptions)
  (security : Option (SecurityProcessor σ))

/-- A SET that a request APDU completes was well formed as it was put
    together. -/
def WellAssembled (requestApdu : Bytes)
    (state : XdlmsServerState σ (δ × List ServiceIndication)) : Prop :=
  ∀ request, (decodeRequest security requestApdu state.security).1 = .ok request →
    AssembledWell options request state.setBlocks

/-- What is decoded comes from the plain text of the request. -/
theorem recodes_of_decodeRequest (requestApdu : Bytes) (securityState : σ)
    (request : XdlmsApdu)
    (h : (decodeRequest security requestApdu securityState).1 = .ok request) :
    request.Recodes := by
  unfold decodeRequest at h
  simp only [] at h
  split at h
  · cases h
  · rename_i plain after hplain
    cases hdecoded : Apdu.decodeXdlmsApdu plain with
    | error status => simp [hdecoded] at h
    | ok decoded =>
        simp only [hdecoded, Except.ok.injEq] at h
        rw [← h]
        exact Apdu.recodes_of_decodeXdlmsApdu plain decoded hdecoded

/-- One request gives the handler well-formed indications exactly when a SET it
    completes is well formed. -/
theorem wellFormed_transition (requestApdu : Bytes)
    (state : XdlmsServerState σ (δ × List ServiceIndication)) :
    (∀ call ∈ callsOf (transition (processRequest (recordingHandler handler) options security)
        requestApdu state), call.WellFormed) ↔
      WellAssembled options security requestApdu state := by
  rcases hdecoded : decodeRequest security requestApdu state.security with
    ⟨status | request, securityState⟩
  · have hcalls : callsOf (transition (processRequest (recordingHandler handler) options security)
        requestApdu state) = [] := by
      simp [callsOf, transition, processRequest_of_rejected _ _ _ _ _ _ _ hdecoded]
    rw [hcalls]
    refine iff_of_true wellFormed_of_nil fun request hrequest => ?_
    rw [hdecoded] at hrequest
    cases hrequest
  · have hrecodes := recodes_of_decodeRequest security requestApdu state.security request (by
      rw [hdecoded])
    have hcondition : WellAssembled options security requestApdu state ↔
        AssembledWell options request state.setBlocks := by
      simp [WellAssembled, hdecoded, forall_eq']
    rcases after_of_decoded handler options security requestApdu state request securityState
      hdecoded with ⟨securityAfter, hafter⟩
    have hbefore : (transition (processRequest (recordingHandler handler) options security)
        requestApdu state).before = state := rfl
    generalize transition (processRequest (recordingHandler handler) options security)
      requestApdu state = t at hafter hbefore ⊢
    rw [hcondition]
    -- Nothing but a SET request completes a SET.
    have hquiet (hcompleted : completedSet options request state.setBlocks = none)
        (calls : List ServiceIndication) (hlog : t.after.device.2 = state.device.2 ++ calls)
        (hwell : ∀ call ∈ calls, call.WellFormed) :
        (∀ call ∈ callsOf t, call.WellFormed) ↔
          AssembledWell options request state.setBlocks := by
      rw [callsOf_eq t calls (by rw [hbefore]; exact hlog)]
      refine iff_of_true hwell fun indication hsome => ?_
      rw [hcompleted] at hsome
      cases hsome
    cases request with
    | getRequest request =>
        rcases serves_processGetRequest handler options state.device request state.getBlocks with
          ⟨calls, hlog, hget, -⟩
        refine hquiet rfl calls (by rw [hafter]; exact hlog) ?_
        intro call hmem data hdata
        rcases hget call hmem with ⟨indication, rfl⟩
        exact absurd hdata (by simp [ServiceIndication.payload])
    | setRequest request =>
        rcases calls_processSetRequest handler options state.device request state.setBlocks
          hrecodes with ⟨calls, hlog, hwell⟩
        rw [callsOf_eq t calls (by rw [hafter, hbefore]; exact hlog)]
        exact hwell
    | actionRequest request =>
        rcases calls_processActionRequest handler options state.device request
          state.actionBlocks hrecodes with ⟨calls, hlog, hwell⟩
        exact hquiet rfl calls (by rw [hafter]; exact hlog) hwell
    | _ =>
        refine hquiet rfl [] ?_ wellFormed_of_nil
        rw [hafter, List.append_nil]
        rfl

/-- After every run, what a request gives to the handler is well formed exactly
    when a SET that it completes was well formed as it was put together. -/
theorem wellFormed_iff (requests : List Bytes) (request : Bytes)
    (state : XdlmsServerState σ (δ × List ServiceIndication)) :
    (∀ call ∈ callsOf (transition (processRequest (recordingHandler handler) options security)
        request (final (processRequest (recordingHandler handler) options security) requests
          state)), call.WellFormed) ↔
      WellAssembled options security request
        (final (processRequest (recordingHandler handler) options security) requests state) :=
  wellFormed_transition handler options security request _

end Runs

/-! ### A SET of no value -/

/-- A SET in one block, whose one octet is the tag of no type. -/
def shapelessSet : Bytes :=
  [0xC1, 0x02, 0x81, 0x00, 0x01, 0x00, 0x00, 0x60, 0x01, 0x00, 0xFF, 0x02, 0x00, 0x01, 0x00, 0x00,
    0x00, 0x01, 0x01, 0xFF]

/-- The handler is given the octet. -/
theorem not_wellFormed :
    ¬ ∀ call ∈ callsOf (transition (processRequest (recordingHandler
        { handleGet := fun _ device => (.error .unsupportedFeature, device)
          handleSet := fun _ device => (.ok {}, device)
          handleAction := fun _ device => (.error .unsupportedFeature, device) })
        defaultServiceOptions none) shapelessSet freshServer), call.WellFormed := by
  intro hwell
  rcases hwell (.set
    { invokeId := 1
      options := defaultServiceOptions
      descriptor := ⟨1, ⟨0, 0, 0x60, 1, 0, 0xFF⟩, 2⟩
      data := [0xFF] }) (by decide +kernel) [0xFF] rfl with ⟨value, hvalue⟩
  have hrefused : Apdu.decodeDlmsData [0xFF] Apdu.maximumDataDepth =
      .error .unsupportedDataType := by
    rfl
  rw [hrefused] at hvalue
  cases hvalue

end Xdlms

end Dlms
