import Dlms.Apdu.Action
import Dlms.Apdu.Canonical
import Dlms.Apdu.Get
import Dlms.Apdu.Set

/-!
# The decoders of the normal requests

Each of the three services has two decoders of its normal request. One takes
every choice and returns the record with a slot for each of them. The other is
written for the normal choice alone, and it checks the choice before it reads
the invoke id.

The two decoders of SET and the two of ACTION read the same. Those of GET differ
in one place: the one for the normal choice has no parameter for the depth of the
data and reads the parameters of a selective access at a depth of its own. So the
two agree on an APDU unless its parameters nest deeper than one of the depths and
not than the other.

## Main definitions

* `decodeNormalApdu`: The frame of a normal request.
* `decodeGetRequestNormal`, `decodeSetRequestNormal`, `decodeActionRequestNormal`:
  The decoders.
* `DecodersAgree`: Both decoders of each service return the same request.

## Theorems

* `decodeDlmsData_iff_nesting`: A value decodes at the depths that it nests
  within, and only there.
* `normal_iff_generic`: The two frames, for any service.
* `decodersAgree_iff`: Where the two decoders of every service agree.
-/

namespace Dlms

namespace Apdu

open Codec

/-! ### The depth of a value -/

/-- A value that nests no deeper than a depth is read at that depth. The induction
    is on the depth, and the elements of an array nest less than the array. -/
theorem decodeDlmsDataValue_of_nesting (depth deeper : Nat) (ts rest : Bytes) (value : DlmsData)
    (hnesting : nesting value ≤ depth)
    (h : decodeDlmsDataValue deeper ts = .ok (value, rest)) :
    decodeDlmsDataValue depth ts = .ok (value, rest) := by
  induction depth generalizing deeper ts rest value with
  | zero => exact absurd (nesting_pos value) (by omega)
  | succ depth ih =>
      cases deeper with
      | zero =>
          exact absurd h (by simp [decodeDlmsDataValue, Parser.fail])
      | succ deeper =>
          -- The elements of an array or a structure, each read one level deeper.
          have hsequence (type : DlmsDataType) (hhas : hasElements type = true) (ts : Bytes)
              (h : (do
                let elementCount ← readAxdrLength
                let elements ← Parser.repeatN (decodeDlmsDataValue deeper) elementCount
                pure { type, elements } : Reader DlmsData) ts = .ok (value, rest)) :
              (do
                let elementCount ← readAxdrLength
                let elements ← Parser.repeatN (decodeDlmsDataValue depth) elementCount
                pure { type, elements } : Reader DlmsData) ts = .ok (value, rest) := by
            rw [bind_eq_ok_iff] at h ⊢
            rcases h with ⟨count, middle, hcount, h⟩
            rw [bind_eq_ok_iff] at h
            rcases h with ⟨elements, last, helements, h⟩
            rw [pure_eq_ok_iff] at h
            rcases h with ⟨rfl, rfl⟩
            unfold nesting at hnesting
            rw [if_pos hhas] at hnesting
            refine ⟨count, middle, hcount, ?_⟩
            rw [bind_eq_ok_iff]
            refine ⟨elements, last, ?_, rfl⟩
            refine repeatN_of_each _ _ _ _ _ _ (fun element helement ts rest => ?_) helements
            have hle := nesting_le_of_mem element elements helement
            exact ih deeper ts rest element (by omega)
          unfold decodeDlmsDataValue at h ⊢
          rw [bind_eq_ok_iff] at h ⊢
          rcases h with ⟨tag, middle, htag, h⟩
          refine ⟨tag, middle, htag, ?_⟩
          cases htype : DlmsDataType.ofTag tag with
          | none =>
              rw [htype] at h
              exact h
          | some type =>
              rw [htype] at h
              cases type with
              -- Every other type is read without looking at the depth.
              | array => exact hsequence .array rfl middle h
              | structureData => exact hsequence .structureData rfl middle h
              | _ => exact h

/-- Bytes that are a value at some depth are one at exactly those depths that the
    value nests within. -/
theorem decodeDlmsData_iff_nesting (bytes : Bytes) (limit depth : Nat) (value : DlmsData)
    (h : decodeDlmsData bytes limit = .ok value) :
    decodeDlmsData bytes depth = .ok value ↔ nesting value ≤ depth := by
  rw [decodeDlmsData_eq_ok_iff] at h ⊢
  constructor
  · intro hdepth
    rcases consumes_decodeDlmsDataValue depth _ _ _ hdepth with ⟨used, -, hread⟩
    exact (fits_of_inRange depth value hread.inRange).nested
  · exact fun hnesting => decodeDlmsDataValue_of_nesting depth limit _ _ _ hnesting h

/-! ### The frame of a normal request -/

def normalChoice : UInt8 := 0x01

/-- Tag and choice, both checked, then the invoke id, the request, and the end of
    the APDU. -/
def decodeNormalApdu {α : Type} (expectedTag : UInt8) (body : UInt8 → Reader α) : Reader α := do
  let tag ← readU8
  if tag ≠ expectedTag then
    Parser.fail .invalidTag
  else do
    let choice ← readU8
    if choice ≠ normalChoice then
      Parser.fail .unsupportedXdlmsService
    else do
      let invokeIdAndPriority ← readU8
      let output ← body invokeIdAndPriority
      requireNoTrailingBytes
      pure output

theorem readU8_eq_ok_iff (ts rest : Bytes) (byte : UInt8) :
    readU8 ts = .ok (byte, rest) ↔ ts = byte :: rest := by
  cases ts with
  | nil => simp [readU8, Parser.item]
  | cons first ts =>
      simp [readU8, Parser.item]

theorem atEnd_eq_ok_iff {α : Type} (p : Reader α) (ts rest : Bytes) (value : α) :
    (do
      let output ← p
      requireNoTrailingBytes
      pure output : Reader α) ts = .ok (value, rest) ↔ p ts = .ok (value, []) ∧ rest = [] := by
  rw [bind_eq_ok_iff]
  constructor
  · rintro ⟨output, left, hvalue, h⟩
    cases left with
    | nil =>
        rcases Prod.mk.inj (Except.ok.inj h) with ⟨rfl, rfl⟩
        exact ⟨hvalue, rfl⟩
    | cons byte left =>
        exact absurd h (by simp [bind, StateT.bind, requireNoTrailingBytes, Parser.atEnd,
          Except.bind])
  · rintro ⟨hvalue, rfl⟩
    exact ⟨value, [], hvalue, rfl⟩

/-- The frame of every choice accepts what its variant accepts. -/
theorem decodeServiceApdu_eq_ok_iff {α : Type} (tag : UInt8) (body : UInt8 → UInt8 → Reader α)
    (input : Bytes) (value : α) :
    runParser (decodeServiceApdu tag body) input = .ok value ↔
      ∃ choice iip bytes, input = serviceApduBytes tag choice iip bytes ∧
        Accepts (body choice iip) bytes value := by
  rw [runParser_eq_ok_iff]
  constructor
  · rintro ⟨rest, h⟩
    rw [decodeServiceApdu, bind_eq_ok_iff] at h
    rcases h with ⟨first, middle, hfirst, h⟩
    rw [readU8_eq_ok_iff] at hfirst
    by_cases htag : first = tag
    · rw [if_neg (by rw [htag]; exact not_not_intro rfl)] at h
      rw [bind_eq_ok_iff] at h
      rcases h with ⟨choice, more, hchoice, h⟩
      rw [bind_eq_ok_iff] at h
      rcases h with ⟨iip, bytes, hiip, h⟩
      rw [readU8_eq_ok_iff] at hchoice hiip
      rw [atEnd_eq_ok_iff] at h
      refine ⟨choice, iip, bytes, ?_, h.1⟩
      rw [hfirst, hchoice, hiip, htag]
      rfl
    · rw [if_pos htag] at h
      exact absurd h (by simp [Parser.fail])
  · rintro ⟨choice, iip, bytes, rfl, hbody⟩
    exact ⟨[], accepts_decodeServiceApdu tag choice iip body bytes value hbody⟩

/-- The frame of the normal choice accepts what the request accepts. -/
theorem decodeNormalApdu_eq_ok_iff {α : Type} (tag : UInt8) (body : UInt8 → Reader α)
    (input : Bytes) (value : α) :
    runParser (decodeNormalApdu tag body) input = .ok value ↔
      ∃ iip bytes, input = serviceApduBytes tag normalChoice iip bytes ∧
        Accepts (body iip) bytes value := by
  rw [runParser_eq_ok_iff]
  constructor
  · rintro ⟨rest, h⟩
    rw [decodeNormalApdu, bind_eq_ok_iff] at h
    rcases h with ⟨first, middle, hfirst, h⟩
    rw [readU8_eq_ok_iff] at hfirst
    by_cases htag : first = tag
    · rw [if_neg (by rw [htag]; exact not_not_intro rfl)] at h
      rw [bind_eq_ok_iff] at h
      rcases h with ⟨choice, more, hchoice, h⟩
      rw [readU8_eq_ok_iff] at hchoice
      by_cases hnormal : choice = normalChoice
      · rw [if_neg (by rw [hnormal]; exact not_not_intro rfl)] at h
        rw [bind_eq_ok_iff] at h
        rcases h with ⟨iip, bytes, hiip, h⟩
        rw [readU8_eq_ok_iff] at hiip
        rw [atEnd_eq_ok_iff] at h
        refine ⟨iip, bytes, ?_, h.1⟩
        rw [hfirst, hchoice, hiip, htag, hnormal]
        rfl
      · rw [if_pos hnormal] at h
        exact absurd h (by simp [Parser.fail])
    · rw [if_pos htag] at h
      exact absurd h (by simp [Parser.fail])
  · rintro ⟨iip, bytes, rfl, hbody⟩
    have hend := (atEnd_eq_ok_iff (body iip) bytes [] value).2 ⟨hbody, rfl⟩
    refine ⟨[], ?_⟩
    simp only [decodeNormalApdu, serviceApduBytes, readU8, Parser.item, bind, StateT.bind,
      List.cons_append, List.nil_append, Except.bind, ne_eq, not_true_eq_false, if_false]
    exact hend

/-- The two frames of one service. The variant of the normal choice reads what the
    decoder of the normal choice does, and no other variant returns a normal
    request. -/
theorem normal_iff_generic {α β : Type} (tag : UInt8) (body : UInt8 → Reader α)
    (variant : UInt8 → UInt8 → Reader β) (generic : α → β)
    (hinjective : ∀ first second, generic first = generic second → first = second)
    (hnormal : ∀ iip, variant normalChoice iip = generic <$> body iip)
    (hother : ∀ choice iip, choice ≠ normalChoice →
      Returns (variant choice iip) fun output => ∀ value, output ≠ generic value)
    (input : Bytes) (value : α) :
    runParser (decodeNormalApdu tag body) input = .ok value ↔
      runParser (decodeServiceApdu tag variant) input = .ok (generic value) := by
  rw [decodeNormalApdu_eq_ok_iff, decodeServiceApdu_eq_ok_iff]
  constructor
  · rintro ⟨iip, bytes, hinput, hbody⟩
    -- The choice of the frame is the normal one.
    refine ⟨normalChoice, iip, bytes, hinput, ?_⟩
    rw [hnormal]
    exact accepts_map _ generic _ _ hbody
  · rintro ⟨choice, iip, bytes, hinput, hvariant⟩
    by_cases hchoice : choice = normalChoice
    · rw [hchoice] at hinput hvariant
      rw [hnormal, Accepts, map_eq_pure_bind, bind_eq_ok_iff] at hvariant
      rcases hvariant with ⟨first, rest, hbody, hvalue⟩
      rw [pure_eq_ok_iff] at hvalue
      rcases hvalue with ⟨hgeneric, rfl⟩
      rw [hinjective _ _ hgeneric] at hbody
      exact ⟨iip, bytes, hinput, hbody⟩
    -- Another variant would have returned something else.
    · exact absurd rfl (hother choice iip hchoice _ _ _ hvariant value)

/-! ### The three services -/

structure GetRequestNormal where
  invokeIdAndPriority : UInt8
  descriptor : CosemAttributeDescriptor
  selectiveAccess : Option SelectiveAccessDescriptor

structure SetRequestNormal where
  invokeIdAndPriority : UInt8
  descriptor : CosemAttributeDescriptor
  selectiveAccess : Option SelectiveAccessDescriptor
  data : DlmsData

structure ActionRequestNormal where
  invokeIdAndPriority : UInt8
  descriptor : CosemMethodDescriptor
  invocationParameter : Option DlmsData

/-- The depth that the decoder of a normal GET request reads at. -/
def getRequestNormalDepth : Nat := 8

/-- The selective access is written out here, at a fixed depth. -/
def decodeGetRequestNormalBody (invokeIdAndPriority : UInt8) : Reader GetRequestNormal := do
  let descriptor ← decodeCosemAttributeDescriptor
  let flag ← readU8
  if flag > 1 then
    Parser.fail .invalidChoice
  else if flag = 0 then
    pure { invokeIdAndPriority, descriptor, selectiveAccess := none }
  else do
    let selector ← readU8
    let parameters ← decodeDlmsDataFromReader getRequestNormalDepth
    pure { invokeIdAndPriority, descriptor, selectiveAccess := some { selector, parameters } }

def decodeGetRequestNormal (input : Bytes) : Except ApduStatus GetRequestNormal :=
  runParser (decodeNormalApdu getRequestTag decodeGetRequestNormalBody) input

def decodeSetRequestNormalBody (maximumDataDepth : Nat) (invokeIdAndPriority : UInt8) :
    Reader SetRequestNormal := do
  let descriptor ← decodeCosemAttributeDescriptor
  let selectiveAccess ← decodeSelection maximumDataDepth
  let data ← decodeDlmsDataFromReader maximumDataDepth
  pure { invokeIdAndPriority, descriptor, selectiveAccess, data }

def decodeSetRequestNormal (input : Bytes) (maximumDataDepth : Nat) :
    Except ApduStatus SetRequestNormal :=
  runParser (decodeNormalApdu setRequestTag (decodeSetRequestNormalBody maximumDataDepth)) input

def decodeActionRequestNormalBody (maximumDataDepth : Nat) (invokeIdAndPriority : UInt8) :
    Reader ActionRequestNormal := do
  let descriptor ← decodeCosemMethodDescriptor
  let invocationParameter ← decodeOptionalData maximumDataDepth
  pure { invokeIdAndPriority, descriptor, invocationParameter }

def decodeActionRequestNormal (input : Bytes) (maximumDataDepth : Nat) :
    Except ApduStatus ActionRequestNormal :=
  runParser (decodeNormalApdu actionRequestTag (decodeActionRequestNormalBody maximumDataDepth))
    input

/-- The request as the decoder of every choice returns it. -/
def GetRequestNormal.generic (request : GetRequestNormal) : GetRequest :=
  .normal request.invokeIdAndPriority ⟨request.descriptor, request.selectiveAccess⟩

def SetRequestNormal.generic (request : SetRequestNormal) : SetRequest :=
  .normal request.invokeIdAndPriority ⟨request.descriptor, request.selectiveAccess⟩ request.data

def ActionRequestNormal.generic (request : ActionRequestNormal) : ActionRequest :=
  .normal request.invokeIdAndPriority ⟨request.descriptor, request.invocationParameter⟩

/-- Both decoders of each service accept the same bytes as a normal request, with
    the same descriptor, the same selection and the same invoke id. -/
structure DecodersAgree (input : Bytes) (maximumDataDepth : Nat) : Prop where
  get : ∀ request, decodeGetRequestNormal input = .ok request ↔
    decodeGetRequest input maximumDataDepth = .ok request.generic
  set : ∀ request, decodeSetRequestNormal input maximumDataDepth = .ok request ↔
    decodeSetRequest input maximumDataDepth = .ok request.generic
  action : ∀ request, decodeActionRequestNormal input maximumDataDepth = .ok request ↔
    decodeActionRequest input maximumDataDepth = .ok request.generic

/-- Any other variant returns its own constructor. -/
theorem returns_other {α β γ : Type} (p : Reader α) (g : α → β) (generic : γ → β)
    (h : ∀ a value, g a ≠ generic value) :
    Returns (g <$> p) fun output => ∀ value, output ≠ generic value :=
  returns_map_of_forall p g _ h

/-- Only the variant of the normal choice returns a normal GET request. -/
theorem returns_getRequestVariant (maximumDataDepth : Nat) (choice iip : UInt8)
    (hchoice : choice ≠ normalChoice) :
    Returns (decodeGetRequestVariant maximumDataDepth choice iip) fun output =>
      ∀ value : UInt8 × CosemAttributeDescriptorWithSelection,
        output ≠ .normal value.1 value.2 := by
  rw [decodeGetRequestVariant]
  split
  · rename_i hone
    exact absurd (UInt8.toNat_inj.mp hone) hchoice
  · refine returns_other _ _ _ fun _ _ => ?_
    simp
  · refine returns_bind _ _ _ _ (returns_any _) fun count _ => ?_
    refine returns_other _ _ _ fun _ _ => ?_
    simp
  · exact returns_fail _ _

theorem decodeGetRequestNormal_iff (input : Bytes) (request : GetRequestNormal) :
    decodeGetRequestNormal input = .ok request ↔
      decodeGetRequest input getRequestNormalDepth = .ok request.generic := by
  refine normal_iff_generic _ _ _ GetRequestNormal.generic ?_ (fun iip => ?_) ?_ input request
  · rintro ⟨iip, descriptor, selection⟩ ⟨iip', descriptor', selection'⟩ h
    simp only [GetRequestNormal.generic, GetRequest.normal.injEq,
      CosemAttributeDescriptorWithSelection.mk.injEq] at h
    rcases h with ⟨rfl, rfl, rfl⟩
    rfl
  · change GetRequest.normal iip <$> decodeDescriptorWithSelection getRequestNormalDepth = _
    simp only [decodeDescriptorWithSelection, decodeSelection, decodeGetRequestNormalBody,
      map_bind, bind_assoc]
    refine bind_congr fun descriptor => bind_congr fun flag => ?_
    -- Both check the flag in the same way, and read the same behind it.
    split_ifs with hflag hnone
    · rfl
    · rfl
    · simp only [map_bind, bind_assoc, map_pure, pure_bind]
      rfl
  · intro choice iip hchoice ts output rest h value
    exact returns_getRequestVariant _ choice iip hchoice ts output rest h
      (value.invokeIdAndPriority, ⟨value.descriptor, value.selectiveAccess⟩)

theorem decodeSetRequestNormal_iff (input : Bytes) (maximumDataDepth : Nat)
    (request : SetRequestNormal) :
    decodeSetRequestNormal input maximumDataDepth = .ok request ↔
      decodeSetRequest input maximumDataDepth = .ok request.generic := by
  refine normal_iff_generic _ _ _ SetRequestNormal.generic ?_ (fun iip => ?_) ?_ input request
  · rintro ⟨iip, descriptor, selection, data⟩ ⟨iip', descriptor', selection', data'⟩ h
    simp only [SetRequestNormal.generic, SetRequest.normal.injEq,
      CosemAttributeDescriptorWithSelection.mk.injEq] at h
    rcases h with ⟨rfl, ⟨rfl, rfl⟩, rfl⟩
    rfl
  · change (do
      let normal ← decodeDescriptorWithSelection maximumDataDepth
      SetRequest.normal iip normal <$> decodeDlmsDataFromReader maximumDataDepth : Reader _) = _
    simp only [decodeDescriptorWithSelection, decodeSetRequestNormalBody, bind_assoc, pure_bind,
      map_eq_pure_bind]
    rfl
  · intro choice iip hchoice
    rw [decodeSetRequestVariant]
    split
    · rename_i hone
      exact absurd (UInt8.toNat_inj.mp hone) hchoice
    · refine returns_bind _ _ _ _ (returns_any _) fun normal _ => returns_other _ _ _ fun _ _ => ?_
      simp [SetRequestNormal.generic]
    · refine returns_other _ _ _ fun _ _ => ?_
      simp [SetRequestNormal.generic]
    · refine returns_bind _ _ _ _ (returns_any _) fun count _ => ?_
      refine returns_bind _ _ _ _ (returns_any _) fun list _ => ?_
      refine returns_bind _ _ _ _ (returns_any _) fun valueCount _ => ?_
      split_ifs
      · exact returns_fail _ _
      · refine returns_other _ _ _ fun _ _ => ?_
        simp [SetRequestNormal.generic]
    · refine returns_bind _ _ _ _ (returns_any _) fun count _ => ?_
      refine returns_bind _ _ _ _ (returns_any _) fun list _ => returns_other _ _ _ fun _ _ => ?_
      simp [SetRequestNormal.generic]
    · exact returns_fail _ _

theorem decodeActionRequestNormal_iff (input : Bytes) (maximumDataDepth : Nat)
    (request : ActionRequestNormal) :
    decodeActionRequestNormal input maximumDataDepth = .ok request ↔
      decodeActionRequest input maximumDataDepth = .ok request.generic := by
  refine normal_iff_generic _ _ _ ActionRequestNormal.generic ?_ (fun iip => ?_) ?_ input request
  · rintro ⟨iip, descriptor, parameter⟩ ⟨iip', descriptor', parameter'⟩ h
    simp only [ActionRequestNormal.generic, ActionRequest.normal.injEq,
      CosemMethodDescriptorWithParameter.mk.injEq] at h
    rcases h with ⟨rfl, rfl, rfl⟩
    rfl
  · change ActionRequest.normal iip <$> decodeMethodWithParameter maximumDataDepth = _
    simp only [decodeMethodWithParameter, decodeActionRequestNormalBody, map_bind, map_pure]
    rfl
  · intro choice iip hchoice
    rw [decodeActionRequestVariant]
    split
    · rename_i hone
      exact absurd (UInt8.toNat_inj.mp hone) hchoice
    · refine returns_other _ _ _ fun _ _ => ?_
      simp [ActionRequestNormal.generic]
    · refine returns_bind _ _ _ _ (returns_any _) fun count _ => ?_
      refine returns_other _ _ _ fun _ _ => ?_
      simp [ActionRequestNormal.generic]
    · refine returns_bind _ _ _ _ (returns_any _) fun descriptor _ => ?_
      refine returns_other _ _ _ fun _ _ => ?_
      simp [ActionRequestNormal.generic]
    · refine returns_bind _ _ _ _ (returns_any _) fun count _ => ?_
      refine returns_bind _ _ _ _ (returns_any _) fun list _ => ?_
      refine returns_other _ _ _ fun _ _ => ?_
      simp [ActionRequestNormal.generic]
    · refine returns_other _ _ _ fun _ _ => ?_
      simp [ActionRequestNormal.generic]
    · exact returns_fail _ _

/-! ### The parameters of a selective access -/

/-- A normal GET request whose selective access has the given parameters. -/
def selectiveRequestBytes (iip : UInt8) (descriptor : CosemAttributeDescriptor) (selector : UInt8)
    (parameters : Bytes) : Bytes :=
  serviceApduBytes getRequestTag normalChoice iip
    (attributeDescriptorBytes descriptor ++ ([0x01] ++ ([selector] ++ parameters)))

/-- A descriptor is read from the octets that it is written as, and from no others. -/
theorem consumes_decodeCosemAttributeDescriptor :
    Consumes decodeCosemAttributeDescriptor fun used descriptor =>
      used = attributeDescriptorBytes descriptor := by
  refine consumes_bind _ _ (fun used (classId : UInt16) => used = beBytes 2 classId.toNat) _ ?_
    fun used classId hclass => ?_
  · refine consumes_bind _ _ _ _ (consumes_items _ _) fun used octets hused =>
      consumes_pure _ _ ?_
    rcases hused with ⟨rfl, hlength⟩
    have hvalue := beValue_lt used
    rw [hlength] at hvalue
    rw [List.append_nil, UInt16.toNat_ofNat', Nat.mod_eq_of_lt (by omega), ← hlength,
      beBytes_beValue]
  · refine consumes_bind _ _ (fun used (name : LogicalName) => used = name.bytes) _ ?_
      fun more name hname => ?_
    · intro ts name rest h
      simp only [decodeLogicalName, bind_eq_ok_iff, readU8_eq_ok_iff] at h
      rcases h with ⟨b0, ts0, rfl, b1, ts1, rfl, b2, ts2, rfl, b3, ts3, rfl, b4, ts4, rfl, b5,
        ts5, rfl, h⟩
      rw [pure_eq_ok_iff] at h
      rcases h with ⟨rfl, rfl⟩
      exact ⟨_, rfl, rfl⟩
    · refine consumes_bind _ _ _ _ (consumes_item _) fun last attributeId hlast =>
        consumes_pure _ _ ?_
      rw [hclass, hname, hlast, List.append_nil]
      rfl

/-- A normal GET request is read by the variant of the normal choice. -/
theorem decodeGetRequest_normal_iff (input : Bytes) (depth : Nat) (iip : UInt8)
    (normal : CosemAttributeDescriptorWithSelection) :
    decodeGetRequest input depth = .ok (.normal iip normal) ↔
      ∃ bytes, input = serviceApduBytes getRequestTag normalChoice iip bytes ∧
        Accepts (decodeDescriptorWithSelection depth) bytes normal := by
  rw [decodeGetRequest, decodeServiceApdu_eq_ok_iff]
  constructor
  · rintro ⟨choice, first, bytes, rfl, hvariant⟩
    by_cases hchoice : choice = normalChoice
    · subst hchoice
      change Accepts (GetRequest.normal first <$> decodeDescriptorWithSelection depth) _ _
        at hvariant
      rw [Accepts, map_eq_pure_bind, bind_eq_ok_iff] at hvariant
      rcases hvariant with ⟨read, rest, hread, h⟩
      rw [pure_eq_ok_iff, GetRequest.normal.injEq] at h
      rcases h with ⟨⟨rfl, rfl⟩, rfl⟩
      exact ⟨bytes, rfl, hread⟩
    · exact absurd rfl (returns_getRequestVariant depth choice first hchoice _ _ _ hvariant
        (iip, normal))
  · rintro ⟨bytes, rfl, hnormal⟩
    exact ⟨normalChoice, iip, bytes, rfl, accepts_map _ (GetRequest.normal iip) _ _ hnormal⟩

/-- A descriptor has its selection behind it. -/
theorem accepts_decodeDescriptorWithSelection_iff (depth : Nat) (bytes : Bytes)
    (normal : CosemAttributeDescriptorWithSelection) :
    Accepts (decodeDescriptorWithSelection depth) bytes normal ↔
      ∃ more, bytes = attributeDescriptorBytes normal.descriptor ++ more ∧
        Accepts (decodeSelection depth) more normal.selection := by
  constructor
  · intro hread
    rw [Accepts, decodeDescriptorWithSelection, bind_eq_ok_iff] at hread
    rcases hread with ⟨descriptor, middle, hdescriptor, h⟩
    rcases consumes_decodeCosemAttributeDescriptor _ _ _ hdescriptor with ⟨used, rfl, rfl⟩
    rw [bind_eq_ok_iff] at h
    rcases h with ⟨selection, last, hselection, h⟩
    rw [pure_eq_ok_iff] at h
    rcases h with ⟨rfl, rfl⟩
    exact ⟨middle, rfl, hselection⟩
  · rintro ⟨more, rfl, hselection⟩
    exact accepts_bind _ _ _ _ _ _ (decodes_decodeCosemAttributeDescriptor normal.descriptor)
      (accepts_map (decodeSelection depth)
        (CosemAttributeDescriptorWithSelection.mk normal.descriptor) _ _ hselection)

/-- A flag that is not zero and not refused is the one for a selection. -/
theorem flag_eq_one (flag : UInt8) (hlarge : ¬flag > 1) (hzero : ¬flag = 0) : flag = 0x01 := by
  rw [← UInt8.toNat_inj] at hzero ⊢
  rw [gt_iff_lt, UInt8.lt_iff_toNat_lt] at hlarge
  change ¬flag.toNat = 0 at hzero
  change ¬1 < flag.toNat at hlarge
  change flag.toNat = 1
  omega

theorem accepts_decodeSelection_some_iff (depth : Nat) (more : Bytes) (selector : UInt8)
    (parameters : DlmsData) :
    Accepts (decodeSelection depth) more (some ⟨selector, parameters⟩) ↔
      ∃ bytes, more = [0x01] ++ ([selector] ++ bytes) ∧
        Accepts (decodeDlmsDataFromReader depth) bytes parameters := by
  constructor
  · intro hselection
    rw [Accepts, decodeSelection, bind_eq_ok_iff] at hselection
    rcases hselection with ⟨flag, behind, hflag, h⟩
    rw [readU8_eq_ok_iff] at hflag
    -- Only the third branch of the flag returns a selection.
    split_ifs at h with hlarge hzero
    · exact absurd h (by simp [Parser.fail])
    · rw [pure_eq_ok_iff] at h
      exact absurd h.1 (by simp)
    · rw [bind_eq_ok_iff] at h
      rcases h with ⟨second, data, hselector, h⟩
      rw [bind_eq_ok_iff] at h
      rcases h with ⟨value, left, hdata, h⟩
      rw [pure_eq_ok_iff, Option.some.injEq, SelectiveAccessDescriptor.mk.injEq] at h
      rcases h with ⟨⟨rfl, rfl⟩, rfl⟩
      rw [readU8_eq_ok_iff] at hselector
      exact ⟨data, by rw [hflag, hselector, flag_eq_one flag hlarge hzero]; rfl, hdata⟩
  · rintro ⟨bytes, rfl, hdata⟩
    exact accepts_bind _ _ _ _ _ _ (decodes_readU8 0x01)
      (accepts_bind _ _ _ _ _ _ (decodes_readU8 selector)
        (accepts_map _ (fun parameters => some (SelectiveAccessDescriptor.mk selector parameters))
          _ _ hdata))

theorem accepts_decodeSelection_none_iff (depth : Nat) (more : Bytes) :
    Accepts (decodeSelection depth) more none ↔ more = [0x00] := by
  constructor
  · intro hselection
    rw [Accepts, decodeSelection, bind_eq_ok_iff] at hselection
    rcases hselection with ⟨flag, behind, hflag, h⟩
    rw [readU8_eq_ok_iff] at hflag
    split_ifs at h with hlarge hzero
    · exact absurd h (by simp [Parser.fail])
    · rw [pure_eq_ok_iff] at h
      rw [hflag, hzero, h.2]
    · simp only [bind_eq_ok_iff, pure_eq_ok_iff, reduceCtorEq, false_and, and_false,
        exists_false] at h
  · rintro rfl
    rfl

theorem decodeGetRequest_selective_iff (input : Bytes) (depth : Nat) (iip selector : UInt8)
    (descriptor : CosemAttributeDescriptor) (parameters : DlmsData) :
    decodeGetRequest input depth =
        .ok (.normal iip ⟨descriptor, some ⟨selector, parameters⟩⟩) ↔
      ∃ bytes, input = selectiveRequestBytes iip descriptor selector bytes ∧
        decodeDlmsData bytes depth = .ok parameters := by
  rw [decodeGetRequest_normal_iff]
  simp only [decodeDlmsData_eq_ok_iff, accepts_decodeDescriptorWithSelection_iff,
    accepts_decodeSelection_some_iff]
  constructor
  · rintro ⟨-, rfl, -, rfl, bytes, rfl, hdata⟩
    exact ⟨bytes, rfl, hdata⟩
  · rintro ⟨bytes, rfl, hdata⟩
    exact ⟨_, rfl, _, rfl, bytes, rfl, hdata⟩

/-- A request without selective access has no data, so its depth is not used. -/
theorem decodeGetRequest_none_iff (input : Bytes) (depth : Nat) (iip : UInt8)
    (descriptor : CosemAttributeDescriptor) :
    decodeGetRequest input depth = .ok (.normal iip ⟨descriptor, none⟩) ↔
      input = getRequestNormalBytes iip descriptor := by
  rw [decodeGetRequest_normal_iff]
  simp only [accepts_decodeDescriptorWithSelection_iff, accepts_decodeSelection_none_iff]
  constructor
  · rintro ⟨-, rfl, -, rfl, rfl⟩
    rfl
  · rintro rfl
    exact ⟨_, rfl, _, rfl, rfl⟩

/-- The parameters of a selective access nest within the depth of one decoder
    exactly when they nest within the depth of the other one. -/
def NestsAlike (input : Bytes) (maximumDataDepth : Nat) : Prop :=
  ∀ iip descriptor selector bytes limit parameters,
    input = selectiveRequestBytes iip descriptor selector bytes →
    decodeDlmsData bytes limit = .ok parameters →
    (nesting parameters ≤ getRequestNormalDepth ↔ nesting parameters ≤ maximumDataDepth)

theorem nestsAlike_of_decodersAgree (input : Bytes) (maximumDataDepth : Nat)
    (h : DecodersAgree input maximumDataDepth) : NestsAlike input maximumDataDepth := by
  intro iip descriptor selector bytes limit parameters hinput hvalue
  have hagree := h.get ⟨iip, descriptor, some ⟨selector, parameters⟩⟩
  rw [decodeGetRequestNormal_iff] at hagree
  -- The request is read at just those depths that its parameters nest within.
  have hdepths (depth : Nat) : decodeGetRequest input depth =
      .ok (.normal iip ⟨descriptor, some ⟨selector, parameters⟩⟩) ↔
        nesting parameters ≤ depth := by
    rw [decodeGetRequest_selective_iff, ← decodeDlmsData_iff_nesting bytes limit depth _ hvalue]
    constructor
    · rintro ⟨others, hothers, hdata⟩
      rw [hinput] at hothers
      simp only [selectiveRequestBytes, serviceApduBytes, List.append_cancel_left_eq] at hothers
      rw [hothers]
      exact hdata
    · exact fun hdata => ⟨bytes, hinput, hdata⟩
  rw [← hdepths, ← hdepths]
  exact hagree

theorem decodersAgree_of_nestsAlike (input : Bytes) (maximumDataDepth : Nat)
    (h : NestsAlike input maximumDataDepth) : DecodersAgree input maximumDataDepth := by
  refine ⟨fun request => ?_, fun request => decodeSetRequestNormal_iff input _ request,
    fun request => decodeActionRequestNormal_iff input _ request⟩
  rw [decodeGetRequestNormal_iff]
  rcases request with ⟨iip, descriptor, _ | ⟨selector, parameters⟩⟩
  · simp [GetRequestNormal.generic, decodeGetRequest_none_iff]
  · simp only [GetRequestNormal.generic, decodeGetRequest_selective_iff]
    refine exists_congr fun bytes => and_congr_right fun hinput => ?_
    -- Whichever of the two reads the parameters, the nesting decides for the other.
    constructor
    · intro hdata
      rw [decodeDlmsData_iff_nesting bytes _ maximumDataDepth parameters hdata,
        ← h iip descriptor selector bytes _ parameters hinput hdata,
        ← decodeDlmsData_iff_nesting bytes _ getRequestNormalDepth parameters hdata]
      exact hdata
    · intro hdata
      rw [decodeDlmsData_iff_nesting bytes _ getRequestNormalDepth parameters hdata,
        h iip descriptor selector bytes _ parameters hinput hdata,
        ← decodeDlmsData_iff_nesting bytes _ maximumDataDepth parameters hdata]
      exact hdata

/-- The two decoders of every service agree on an APDU exactly when it is not a GET
    request whose parameters one of the two depths lets through and the other one
    does not. -/
theorem decodersAgree_iff (input : Bytes) (maximumDataDepth : Nat) :
    DecodersAgree input maximumDataDepth ↔ NestsAlike input maximumDataDepth :=
  ⟨nestsAlike_of_decodersAgree input maximumDataDepth,
    decodersAgree_of_nestsAlike input maximumDataDepth⟩

/-- Four arrays, one in the other, around a null. -/
def nestedParameters : DlmsData :=
  { type := .array, elements := [{ type := .array, elements := [{ type := .array, elements :=
    [{ type := .array, elements := [{ type := .nullData }] }] }] }] }

def nestedRequestBytes : Bytes :=
  selectiveRequestBytes 0xC1 ⟨7, ⟨1, 0, 99, 1, 0, 255⟩, 2⟩ 1 [1, 1, 1, 1, 1, 1, 1, 1, 0]

/-- A caller that allows four levels is given five by the decoder that does not ask. -/
theorem not_decodersAgree_nested :
    ¬ ∀ input maximumDataDepth, DecodersAgree input maximumDataDepth := by
  intro h
  have hagree := (h nestedRequestBytes 4).get
    ⟨0xC1, ⟨7, ⟨1, 0, 99, 1, 0, 255⟩, 2⟩, some ⟨1, nestedParameters⟩⟩
  have hnormal : decodeGetRequestNormal nestedRequestBytes =
      .ok ⟨0xC1, ⟨7, ⟨1, 0, 99, 1, 0, 255⟩, 2⟩, some ⟨1, nestedParameters⟩⟩ := rfl
  -- The other decoder stops at the fifth level.
  have hgeneric : decodeGetRequest nestedRequestBytes 4 = .error .invalidData := rfl
  rw [hgeneric] at hagree
  exact absurd (hagree.1 hnormal) nofun

end Apdu

end Dlms
