import Dlms.Cosem.DataItems

/-!
# The buffer of a profile

The buffer of a Profile Generic object is an array of rows, and each row is kept
as the octets of one structure. The encoder writes the rows one after another. The
decoder finds their ends with the walk that skips an item, and what a row holds is
left to the codec of the APDUs.

The two agree on where an item ends, and on every tag. They differ in one place:
the codec of the APDUs refuses a length below 128 that is written in the long form,
and the walk takes it. So a row that was accepted is data for the other codec when
none of its lengths is written so.

## Main definitions

* `encodeProfileGenericBuffer`, `decodeProfileGenericBuffer`: The codec.
* `LengthField`, `walkDlmsData`: The lengths that a walk over an item comes to.
* `ShortlyWritten`: No length is in the long form that fits the short one.
* `IsRow`: A row as the codec of the APDUs reads it.
* `IsArrayOf`: The input is an array of the rows.

## Theorems

* `walk_iff_skip`: The walk ends where the skipping does.
* `wellFormedData_iff`: What it takes to be data for the codec of the APDUs.
* `decodeProfileGenericBuffer_eq_ok_iff`: The inputs that are accepted.
* `profileBuffer_iff`: What the codec of the buffer guarantees.
-/

namespace Dlms

namespace Cosem

open Codec
open Apdu (Bytes DlmsData DlmsDataType decodeDlmsData)

/-! ### The codec -/

/-- One row: a structure, kept as it is. -/
def readProfileRow : DataReader Bytes := fun rest =>
  match rest with
  | [] => .error .invalid
  | first :: _ => if first = structureTag then skippedData rest else .error .invalid

def readProfileBuffer : DataReader (List Bytes) := readArray byteBufferSize readProfileRow

def decodeProfileGenericBuffer (input : Bytes) : Except WriteFailure (List Bytes) :=
  decodePayload readProfileBuffer input

def encodeProfileGenericBuffer (rows : List Bytes) : Bytes := appendArray id rows

/-! ### The lengths in an item -/

/-- A length, and how many octets it is written in. -/
structure LengthField where
  octets : Nat
  length : Nat
  deriving DecidableEq, Repr

/-- The long form is for the lengths that do not fit the short one. -/
def LengthField.Minimal (field : LengthField) : Prop := field.octets = 1 ∨ 128 ≤ field.length

def readLengthField : DataReader LengthField := do
  let field ← Parser.consumed readLength
  pure { octets := field.1.length, length := field.2 }

/-- What follows the tag of an item: nothing, items with their number in front,
    octets of a fixed size, or octets with their number in front. -/
inductive ItemShape where
  | empty
  | items
  | octets (size : Nat)
  | counted
  | unknown

/-- The shape that the tag of an item says. -/
def itemShape (tag : Nat) : ItemShape :=
  match tag with
  | 0x00 => .empty
  | 0x01 | 0x02 => .items
  | 0x03 | 0x0F | 0x11 | 0x16 => .octets 1
  | 0x10 | 0x12 => .octets 2
  | 0x05 | 0x06 => .octets 4
  | 0x14 | 0x15 => .octets 8
  | 0x19 => .octets dlmsDateTimeSize
  | 0x1A => .octets dlmsDateSize
  | 0x1B => .octets dlmsTimeSize
  | 0x09 => .counted
  | _ => .unknown

/-- The way over one item, with the lengths on it. -/
def walkDlmsData : Nat → DataReader (List LengthField)
  | 0 => refuse
  | levels + 1 => do
      let tag ← readByte
      match itemShape tag.toNat with
      | .empty => pure []
      | .items => do
          let field ← readLengthField
          let items ← Parser.repeatN (walkDlmsData levels) field.length
          pure (field :: items.flatten)
      | .octets size => do skipBytes size; pure []
      | .counted => do
          let field ← readLengthField
          skipBytes field.length
          pure [field]
      | .unknown => refuse

/-- Every length of the item is as short as it can be. -/
def ShortlyWritten (item : Bytes) : Prop :=
  ∀ fields rest, walkDlmsData (maxProfileGenericDecodeDepth + 1) item = .ok (fields, rest) →
    ∀ field ∈ fields, field.Minimal

/-- A row as the codec of the APDUs reads it: one structure, nested no deeper than
    the items of an attribute may be. -/
structure IsRow (row : Bytes) : Prop where
  structured : row.head? = some structureTag
  wellFormed : WellFormedData row

/-! ### The walk and the skipping -/

theorem readLengthField_eq_ok_iff (ts rest : Bytes) (field : LengthField) :
    readLengthField ts = .ok (field, rest) ↔
      readLength ts = .ok (field.length, rest) ∧ field.octets = ts.length - rest.length := by
  rw [readLengthField, bind_eq_ok_iff]
  constructor
  · rintro ⟨read, left, hread, h⟩
    rw [pure_eq_ok_iff] at h
    rcases h with ⟨rfl, rfl⟩
    rw [Parser.consumed] at hread
    rcases hlength : readLength ts with e | ⟨length, out⟩
    · simp [hlength] at hread
    · simp only [hlength, Except.ok.injEq, Prod.mk.injEq] at hread
      rcases hread with ⟨rfl, rfl⟩
      refine ⟨rfl, ?_⟩
      simp only [List.length_take]
      omega
  · rintro ⟨hlength, hoctets⟩
    refine ⟨(ts.take (ts.length - rest.length), field.length), rest, ?_, ?_⟩
    · simp [Parser.consumed, hlength]
    · rw [pure_eq_ok_iff, List.length_take, Nat.min_eq_left (Nat.sub_le _ _), ← hoctets]
      exact ⟨rfl, rfl⟩

theorem follows_readLengthField :
    Follows readLengthField readLength fun length field => field.length = length := by
  intro ts length rest h
  exact ⟨⟨ts.length - rest.length, length⟩, rfl, (readLengthField_eq_ok_iff _ _ _).2 ⟨h, rfl⟩⟩

theorem follows_readLength_field :
    Follows readLength readLengthField
      fun (field : LengthField) length => length = field.length := by
  intro ts field rest h
  exact ⟨field.length, rfl, ((readLengthField_eq_ok_iff _ _ _).1 h).1⟩

/-- The skipping goes by the shape of the item. -/
theorem skipDlmsData_succ (levels : Nat) : skipDlmsData (levels + 1) = (do
    let tag ← readByte
    match itemShape tag.toNat with
    | .empty => pure ()
    | .items => do
        let count ← readLength
        skipDlmsDataItems (skipDlmsData levels) count
    | .octets size => skipBytes size
    | .counted => do
        let length ← readLength
        skipBytes length
    | .unknown => refuse) := by
  rw [skipDlmsData]
  refine bind_congr fun tag => ?_
  unfold itemShape
  split
  case h_18 => simp_all only [imp_false]
  all_goals simp_all only

/-- The walk gets as far as the skipping does. The induction is on the levels, and
    both go one level down for the items of an array. -/
theorem follows_walkDlmsData (levels : Nat) :
    Follows (walkDlmsData levels) (skipDlmsData levels) fun _ _ => True := by
  induction levels with
  | zero => exact follows_fail _ _ _
  | succ levels ih =>
      have hsized (size : Nat) (fields : List LengthField) :
          Follows (do skipBytes size; pure fields) (skipBytes size) fun _ _ => True :=
        follows_result _ _ (fun _ _ => True) (fun _ => fields) fun _ a _ h => ⟨a, trivial, h⟩
      rw [skipDlmsData_succ, walkDlmsData]
      refine follows_bind _ _ _ _ _ _ (follows_item _ _) fun tag tag' htag => ?_
      rw [htag]
      cases itemShape tag.toNat with
      | empty => exact follows_pure _ _ _ trivial
      | items =>
          refine follows_bind _ _ _ _ _ _ follows_readLengthField fun count field hfield => ?_
          rw [hfield]
          exact follows_bind _ _ _ _ _ _ (follows_repeatN _ _ count ih)
            fun _ _ _ => follows_pure _ _ _ trivial
      | octets size => exact hsized size []
      | counted =>
          refine follows_bind _ _ _ _ _ _ follows_readLengthField fun length field hfield => ?_
          rw [hfield]
          exact hsized length [field]
      | unknown => exact follows_fail _ _ _

/-- The skipping gets as far as the walk does, whatever the lengths are. -/
theorem follows_skipDlmsData_walk (levels : Nat) :
    Follows (skipDlmsData levels) (walkDlmsData levels) fun _ _ => True := by
  induction levels with
  | zero => exact follows_fail _ _ _
  | succ levels ih =>
      have hsized (size : Nat) (fields : List LengthField) :
          Follows (skipBytes size) (do skipBytes size; pure fields) fun _ _ => True :=
        follows_build _ _ (fun _ _ => True) (fun _ => fields) fun _ a _ h => ⟨a, trivial, h⟩
      rw [skipDlmsData_succ, walkDlmsData]
      refine follows_bind _ _ _ _ _ _ (follows_item _ _) fun tag tag' htag => ?_
      rw [htag]
      cases itemShape tag.toNat with
      | empty => exact follows_pure _ _ _ trivial
      | items =>
          refine follows_bind _ _ _ _ _ _ follows_readLength_field fun field count hcount => ?_
          rw [hcount]
          exact follows_bind _ _ _ _ _ _ (follows_repeatN _ _ field.length ih)
            fun _ _ _ => follows_pure _ _ _ trivial
      | octets size => exact hsized size []
      | counted =>
          refine follows_bind _ _ _ _ _ _ follows_readLength_field fun field length hlength => ?_
          rw [hlength]
          exact hsized field.length [field]
      | unknown => exact follows_fail _ _ _

/-- An item is walked over exactly when it is skipped, and up to the same place. -/
theorem walk_iff_skip (levels : Nat) (ts rest : Bytes) :
    (∃ fields, walkDlmsData levels ts = .ok (fields, rest)) ↔
      skipDlmsData levels ts = .ok ((), rest) := by
  constructor
  · rintro ⟨fields, h⟩
    rcases follows_skipDlmsData_walk levels ts fields rest h with ⟨_, -, hskip⟩
    exact hskip
  · intro h
    rcases follows_walkDlmsData levels ts () rest h with ⟨fields, -, hwalk⟩
    exact ⟨fields, hwalk⟩

/-! ### The walk and the other codec -/

/-- The forms of a length: one octet, or so many octets behind their number. -/
def LengthOctets (used : Bytes) (length : Nat) : Prop :=
  ∃ first octets, used = first :: octets ∧
    (first &&& 0x80 = 0 ∧ octets = [] ∧ length = first.toNat ∨
      ¬first &&& 0x80 = 0 ∧ octets.length = (first &&& 0x7F).toNat ∧
        ¬(octets.length = 0 ∨ octets.length > sizeOfLength) ∧ length = beValue octets)

theorem consumes_readLength : Consumes readLength LengthOctets := by
  rw [readLength_eq]
  refine consumes_bind _ _ _ _ (consumes_item _) fun _ first hfirst => ?_
  rw [hfirst]
  by_cases hshort : first &&& 0x80 = 0
  · rw [if_pos hshort]
    exact consumes_pure _ _ ⟨first, [], rfl, Or.inl ⟨hshort, rfl, rfl⟩⟩
  rw [if_neg hshort]
  by_cases hcount : (first &&& 0x7F).toNat = 0 ∨ (first &&& 0x7F).toNat > sizeOfLength
  · rw [if_pos hcount]
    exact consumes_fail _ _
  rw [if_neg hcount]
  refine consumes_bind _ _ _ _ (consumes_items _ _) fun used octets hused => ?_
  refine consumes_pure _ _ ⟨first, used, by rw [List.append_nil]; rfl,
    Or.inr ⟨hshort, ?_, ?_, ?_⟩⟩
  · rw [hused.1, hused.2]
  · rwa [hused.1, hused.2]
  · rw [hused.1]

/-- Every form of a length is read. -/
theorem decodes_of_lengthOctets (used : Bytes) (length : Nat) (h : LengthOctets used length) :
    Decodes readLength used length := by
  rcases h with ⟨first, octets, rfl, ⟨hshort, rfl, rfl⟩ | ⟨hlong, hcount, hsome, rfl⟩⟩
  · rw [readLength_eq]
    refine decodes_bind _ _ [first] [] _ _ (decodes_readByte first) ?_
    rw [if_pos hshort]
    exact decodes_pure _
  · rw [readLength_eq]
    refine decodes_bind _ _ [first] octets _ _ (decodes_readByte first) ?_
    -- A long form is read as it stands, also when the length fits the short one.
    rw [if_neg hlong, if_neg (by rwa [← hcount])]
    exact decodes_last _ _ _ _ _ (decodes_readFixedBytes octets _ hcount) (decodes_pure _)

/-- The codec of the APDUs takes a form that is minimal. -/
theorem decodes_readAxdrLength_of_minimal (used : Bytes) (length : Nat)
    (h : LengthOctets used length) (hminimal : used.length = 1 ∨ 128 ≤ length) :
    Decodes Apdu.readAxdrLength used length := by
  rcases h with ⟨first, octets, rfl, ⟨hshort, rfl, rfl⟩ | ⟨hlong, hcount, hsome, rfl⟩⟩
  · refine decodes_bind _ _ [first] [] _ _ (decodes_item _ first) ?_
    rw [if_pos hshort]
    exact decodes_pure _
  · refine decodes_bind _ _ [first] octets _ _ (decodes_item _ first) ?_
    rw [if_neg hlong]
    dsimp only
    rw [if_neg (by rwa [← hcount])]
    have hread : Decodes (Apdu.readBytes (first &&& 0x7F).toNat) octets octets := by
      rw [← hcount]
      exact decodes_items _ _
    refine decodes_last _ _ _ _ _ hread ?_
    -- A long form has an octet or more behind the first, so here the length is a long one.
    rw [if_neg]
    · exact decodes_pure _
    · simp only [List.length_cons] at hminimal
      omega

/-- And no other form. -/
theorem consumes_readAxdrLength : Consumes Apdu.readAxdrLength
    fun used length => LengthOctets used length ∧ (used.length = 1 ∨ 128 ≤ length) := by
  refine consumes_bind _ _ _ _ (consumes_item _) fun _ first hfirst => ?_
  rw [hfirst]
  by_cases hshort : first &&& 0x80 = 0
  · rw [if_pos hshort]
    exact consumes_pure _ _ ⟨⟨first, [], rfl, Or.inl ⟨hshort, rfl, rfl⟩⟩, Or.inl rfl⟩
  rw [if_neg hshort]
  dsimp only
  by_cases hcount : (first &&& 0x7F).toNat = 0 ∨ (first &&& 0x7F).toNat > Apdu.sizeOctets
  · rw [if_pos hcount]
    exact consumes_fail _ _
  rw [if_neg hcount]
  refine consumes_bind _ _ _ _ (consumes_items _ _) fun used octets hused => ?_
  -- Here the codec of the APDUs makes the check that the other one lacks.
  by_cases hlength : beValue octets < 0x80
  · rw [if_pos hlength]
    exact consumes_fail _ _
  rw [if_neg hlength]
  refine consumes_pure _ _ ⟨⟨first, used, by rw [List.append_nil]; rfl,
    Or.inr ⟨hshort, ?_, ?_, ?_⟩⟩, Or.inr ?_⟩
  · rw [hused.1, hused.2]
  · rwa [hused.1, hused.2]
  · rw [hused.1]
  · omega

theorem readLengthField_iff (ts rest : Bytes) (field : LengthField) :
    readLengthField ts = .ok (field, rest) ↔
      ∃ used, ts = used ++ rest ∧ LengthOctets used field.length ∧ field.octets = used.length := by
  rw [readLengthField_eq_ok_iff]
  constructor
  · rintro ⟨hlength, hoctets⟩
    rcases consumes_readLength _ _ _ hlength with ⟨used, rfl, hused⟩
    rw [List.length_append, Nat.add_sub_cancel] at hoctets
    exact ⟨used, rfl, hused, hoctets⟩
  · rintro ⟨used, rfl, hused, hoctets⟩
    rw [List.length_append, Nat.add_sub_cancel]
    exact ⟨decodes_of_lengthOctets _ _ hused rest, hoctets⟩

theorem follows_readLengthField_axdr : Follows readLengthField Apdu.readAxdrLength
    fun length field => field.length = length ∧ field.Minimal := by
  intro ts length rest h
  rcases consumes_readAxdrLength ts length rest h with ⟨used, hts, hused, hminimal⟩
  exact ⟨⟨used.length, length⟩, ⟨rfl, hminimal⟩,
    (readLengthField_iff _ _ _).2 ⟨used, hts, hused, rfl⟩⟩

theorem readAxdrLength_of_minimal (ts rest : Bytes) (field : LengthField)
    (h : readLengthField ts = .ok (field, rest)) (hminimal : field.Minimal) :
    Apdu.readAxdrLength ts = .ok (field.length, rest) := by
  rcases (readLengthField_iff _ _ _).1 h with ⟨used, rfl, hused, hoctets⟩
  rw [LengthField.Minimal, hoctets] at hminimal
  exact decodes_readAxdrLength_of_minimal _ _ hused hminimal rest

/-- The way of the codec of the APDUs over one item, by its shape. -/
def dataByShape (levels : Nat) : Apdu.Reader Unit := do
  let tag ← Apdu.readU8
  match itemShape tag.toNat with
  | .empty => pure ()
  | .items => do
      let elementCount ← Apdu.readAxdrLength
      let _ ← Parser.repeatN (Apdu.decodeDlmsDataValue levels) elementCount
      pure ()
  | .octets size => do
      let _ ← Apdu.readBytes size
      pure ()
  | .counted => do
      let length ← Apdu.readAxdrLength
      let _ ← Apdu.readBytes length
      pure ()
  | .unknown => Parser.fail .unsupportedDataType

theorem itemShape_of_ofTag_none (tag : UInt8) (h : DlmsDataType.ofTag tag = none) :
    itemShape tag.toNat = .unknown := by
  unfold itemShape
  unfold DlmsDataType.ofTag at h
  split
  all_goals first
    | rfl
    | (rename_i htag; rw [htag] at h; cases h)

theorem alike_readU8 : Alike (Apdu.readBytes 1) Apdu.readU8 := by
  intro ts rest
  cases ts with
  | nil => simp [Apdu.readBytes, Apdu.readU8, Parser.items, Parser.item]
  | cons first ts => simp only [Apdu.readBytes, Apdu.readU8, Parser.items, Parser.item,
      List.length_cons, Nat.not_lt.mpr (Nat.le_add_left 1 _), if_false, List.take_succ_cons,
      List.take_zero, List.drop_succ_cons, List.drop_zero, Except.ok.injEq, Prod.mk.injEq,
      exists_eq_left']

/-- The codec of the APDUs goes by the shape of the item, too. -/
theorem alike_dataByShape (levels : Nat) :
    Alike (dataByShape levels) (Apdu.decodeDlmsDataValue (levels + 1)) := by
  have hsized (size : Nat) {α : Type} (g : Bytes → α) :
      Alike (do let _ ← Apdu.readBytes size; pure () : Apdu.Reader Unit)
        (do let octets ← Apdu.readBytes size; pure (g octets)) :=
    alike_build _ _ _ _ (alike_refl _)
  have hnumber (size : Nat) {α : Type} (g : UInt64 → α) :
      Alike (do let _ ← Apdu.readBytes size; pure () : Apdu.Reader Unit)
        (do let value ← Apdu.readUnsigned size; pure (g value)) :=
    alike_build _ _ _ _ (alike_made _ _ _ (alike_refl _))
  have hitems {α : Type} (g : List DlmsData → α) :
      Alike (do
          let elementCount ← Apdu.readAxdrLength
          let _ ← Parser.repeatN (Apdu.decodeDlmsDataValue levels) elementCount
          pure () : Apdu.Reader Unit)
        (do
          let elementCount ← Apdu.readAxdrLength
          let elements ← Parser.repeatN (Apdu.decodeDlmsDataValue levels) elementCount
          pure (g elements)) :=
    alike_bind _ _ _ fun _ => alike_build _ _ _ _ (alike_refl _)
  rw [Apdu.decodeDlmsDataValue, dataByShape]
  refine alike_bind _ _ _ fun tag => ?_
  cases htype : DlmsDataType.ofTag tag with
  | none =>
      rw [itemShape_of_ofTag_none tag htype]
      exact alike_fail _ _
  | some type =>
      rw [tag_of_ofTag tag type htype]
      cases type with
      | nullData => exact alike_pure _ _
      | array | structureData => exact hitems _
      -- A flag is an octet, whatever is made of it.
      | boolean => exact alike_build _ _ _ _ (alike_made _ _ _ alike_readU8)
      | octetString =>
          dsimp only
          rw [Apdu.readAxdrOctetString, bind_assoc]
          exact alike_bind _ _ _ fun _ => hsized _ _
      | dateTime => exact hsized 12 _
      | date => exact hsized 5 _
      | time => exact hsized 4 _
      | integer | unsigned | enum => exact hnumber 1 _
      | long | longUnsigned => exact hnumber 2 _
      | doubleLong | doubleLongUnsigned => exact hnumber 4 _
      | long64 | long64Unsigned => exact hnumber 8 _

/-- All lengths on the way are as short as they can be. -/
def AllMinimal (fields : List LengthField) : Prop := ∀ field ∈ fields, field.Minimal

theorem allMinimal_flatten (items : List (List LengthField)) (h : ∀ item ∈ items, AllMinimal item) :
    AllMinimal items.flatten := by
  intro field hfield
  rcases List.mem_flatten.mp hfield with ⟨item, hitem, hmem⟩
  exact h item hitem field hmem

theorem allMinimal_nil : AllMinimal [] := fun _ hfield => absurd hfield List.not_mem_nil

theorem allMinimal_cons (field : LengthField) (fields : List LengthField) :
    AllMinimal (field :: fields) ↔ field.Minimal ∧ AllMinimal fields :=
  List.forall_mem_cons

/-- What the codec of the APDUs decodes is walked over, and its lengths are minimal. The
    induction is on the levels. -/
theorem follows_walk_decodes (levels : Nat) :
    Follows (walkDlmsData levels) (Apdu.decodeDlmsDataValue levels)
      fun _ fields => AllMinimal fields := by
  induction levels with
  | zero => exact follows_fail _ _ _
  | succ levels ih =>
      have hsized (size : Nat) (fields : List LengthField) (hfields : AllMinimal fields) :
          Follows (do skipBytes size; pure fields)
            (do let _ ← Apdu.readBytes size; pure () : Apdu.Reader Unit)
            fun _ fields => AllMinimal fields :=
        follows_bind _ _ _ _ _ _ (follows_skipBytes size) fun _ _ _ => follows_pure _ _ _ hfields
      -- The shape decides how the two go on.
      have hshape : Follows (walkDlmsData (levels + 1)) (dataByShape levels)
          fun _ fields => AllMinimal fields := by
        rw [walkDlmsData, dataByShape]
        refine follows_bind _ _ _ _ _ _ (follows_item _ _) fun tag tag' htag => ?_
        rw [htag]
        cases itemShape tag.toNat with
        | empty => exact follows_pure _ _ _ allMinimal_nil
        | items =>
            refine follows_bind _ _ _ _ _ _ follows_readLengthField_axdr
              fun count field hfield => ?_
            rw [hfield.1]
            refine follows_bind _ _ _ _ _ _ (follows_repeatN_of_forall _ _ count _ ih)
              fun _ items hitems => follows_pure _ _ _ ?_
            -- The number of the items is a length, and each item brings its own.
            exact (allMinimal_cons _ _).2 ⟨hfield.2, allMinimal_flatten items hitems⟩
        | octets size => exact hsized size [] allMinimal_nil
        | counted =>
            refine follows_bind _ _ _ _ _ _ follows_readLengthField_axdr
              fun length field hfield => ?_
            rw [hfield.1]
            exact hsized length [field] ((allMinimal_cons _ _).2 ⟨hfield.2, allMinimal_nil⟩)
        | unknown => exact follows_fail _ _ _
      intro ts value rest h
      rcases (alike_dataByShape levels ts rest).2 ⟨value, h⟩ with ⟨_, hdata⟩
      exact hshape ts _ rest hdata

theorem skipBytes_eq_ok_iff (size : Nat) (ts rest : Bytes) :
    skipBytes size ts = .ok ((), rest) ↔ ∃ octets, Apdu.readBytes size ts = .ok (octets, rest) := by
  constructor
  · intro h
    rw [skipBytes, bind_eq_ok_iff] at h
    rcases h with ⟨octets, middle, hread, h⟩
    rw [pure_eq_ok_iff] at h
    rcases follows_items Refusal.invalid Apdu.ApduStatus.needMoreData size ts octets middle hread
      with ⟨octets', -, hread'⟩
    rw [h.2] at hread'
    exact ⟨octets', hread'⟩
  · rintro ⟨octets, h⟩
    rcases follows_skipBytes size ts octets rest h with ⟨_, -, hskip⟩
    exact hskip

/-- An item that is walked over with minimal lengths only is decoded by the codec of the
    APDUs. -/
theorem decodes_of_walk (levels : Nat) (ts rest : Bytes) (fields : List LengthField)
    (h : walkDlmsData levels ts = .ok (fields, rest)) (hminimal : AllMinimal fields) :
    ∃ value, Apdu.decodeDlmsDataValue levels ts = .ok (value, rest) := by
  induction levels generalizing ts rest fields with
  | zero => exact absurd h (by simp [walkDlmsData, refuse, Parser.fail])
  | succ levels ih =>
      rw [← alike_dataByShape, dataByShape]
      rw [walkDlmsData] at h
      simp only [bind_eq_ok_iff] at h ⊢
      rcases h with ⟨tag, behind, htag, h⟩
      -- Both begin with the same tag, and go on by its shape.
      have htag' : Apdu.readU8 ts = .ok (tag, behind) := by
        rcases follows_item Refusal.invalid Apdu.ApduStatus.needMoreData ts tag behind htag with
          ⟨_, rfl, hread⟩
        exact hread
      refine ⟨(), tag, behind, htag', ?_⟩
      cases hshape : itemShape tag.toNat with
      | empty =>
          simp only [hshape, pure_eq_ok_iff] at h ⊢
          exact ⟨trivial, h.2⟩
      | items =>
          simp only [hshape, bind_eq_ok_iff, pure_eq_ok_iff] at h ⊢
          rcases h with ⟨field, behindLength, hfield, items, _, hitems, rfl, rfl⟩
          rw [allMinimal_cons] at hminimal
          have hcount := readAxdrLength_of_minimal _ _ _ hfield hminimal.1
          -- Each of the items is decoded one level down, as its lengths are among those of the
          -- array.
          rcases exists_repeatN_of_each _ (Apdu.decodeDlmsDataValue levels) _ _ _ _
            (fun item hitem ts rest hwalk => ih ts rest item hwalk fun field hmem =>
              hminimal.2 field (List.mem_flatten.mpr ⟨item, hitem, hmem⟩)) hitems with
            ⟨elements, helements⟩
          exact ⟨field.length, behindLength, hcount, elements, _, helements, trivial, rfl⟩
      | octets size =>
          simp only [hshape, bind_eq_ok_iff, pure_eq_ok_iff] at h ⊢
          rcases h with ⟨_, _, hskip, -, rfl⟩
          rcases (skipBytes_eq_ok_iff _ _ _).1 hskip with ⟨octets, hread⟩
          exact ⟨octets, _, hread, trivial, rfl⟩
      | counted =>
          simp only [hshape, bind_eq_ok_iff, pure_eq_ok_iff] at h ⊢
          rcases h with ⟨field, behindLength, hfield, _, _, hskip, rfl, rfl⟩
          rcases (skipBytes_eq_ok_iff _ _ _).1 hskip with ⟨octets, hread⟩
          exact ⟨field.length, behindLength, readAxdrLength_of_minimal _ _ _ hfield
            ((allMinimal_cons _ _).1 hminimal).1, octets, _, hread, trivial, rfl⟩
      | unknown =>
          simp only [hshape] at h
          exact absurd h (by simp [refuse, Parser.fail])

/-! ### The buffer -/

/-- A structure that the walk goes over from its first octet to its last. -/
structure IsSkippedRow (row : Bytes) : Prop where
  structured : row.head? = some structureTag
  skipped : Accepts (skipDlmsData (maxProfileGenericDecodeDepth + 1)) row ()

/-- The input is an array of the rows, with their number in some form of a length. -/
structure IsArrayOf (input : Bytes) (rows : List Bytes) : Prop where
  vector : IsVector byteBufferSize rows
  octets : ∃ count, LengthOctets count rows.length ∧ input = arrayTag :: (count ++ rows.flatten)
  skipped : ∀ row ∈ rows, IsSkippedRow row

theorem delimited_readLength : Delimited readLength := by
  intro ts length rest h
  rcases consumes_readLength ts length rest h with ⟨used, hts, hused⟩
  exact ⟨used, hts, decodes_of_lengthOctets used length hused⟩

theorem delimited_skipBytes (size : Nat) : Delimited (skipBytes size) :=
  delimited_bind _ _ (delimited_items _ _) fun _ => delimited_pure _

theorem delimited_skipDlmsData (levels : Nat) : Delimited (skipDlmsData levels) := by
  induction levels with
  | zero => exact delimited_fail _
  | succ levels ih =>
      rw [skipDlmsData_succ]
      refine delimited_bind _ _ (delimited_item _) fun tag => ?_
      cases itemShape tag.toNat with
      | empty => exact delimited_pure _
      | items =>
          exact delimited_bind _ _ delimited_readLength fun count =>
            delimited_bind _ _ (delimited_repeatN _ _ ih) fun _ => delimited_pure _
      | octets size => exact delimited_skipBytes size
      | counted => exact delimited_bind _ _ delimited_readLength delimited_skipBytes
      | unknown => exact delimited_fail _

/-- A row is kept with the octets it came in. -/
theorem consumes_readProfileRow :
    Consumes readProfileRow fun used row => used = row ∧ IsSkippedRow row := by
  intro ts row rest h
  cases ts with
  | nil => exact absurd h (by simp [readProfileRow])
  | cons first ts =>
      by_cases htag : first = structureTag
      · simp only [readProfileRow, if_pos htag] at h
        rw [skippedData, bind_eq_ok_iff] at h
        rcases h with ⟨item, middle, hitem, h⟩
        rw [pure_eq_ok_iff] at h
        rcases h with ⟨rfl, rfl⟩
        rcases consumes_consumed _ _ (delimited_skipDlmsData _) _ _ _ hitem with
          ⟨used, hused, hout, hdecodes⟩
        rw [hout]
        refine ⟨used, hused, rfl, ?_, accepts_of_decodes _ _ _ hdecodes⟩
        -- The walk takes an octet at least, so the first octet of the row is the tag.
        cases used with
        | nil =>
            have hempty := hdecodes []
            exact absurd hempty (by simp [skipDlmsData_succ, bind, StateT.bind, readByte,
              Parser.item, Except.bind])
        | cons first' used =>
            rw [List.cons_append] at hused
            rw [List.head?_cons, ← (List.cons.inj hused).1, htag]
      · exact absurd h (by simp [readProfileRow, if_neg htag])

theorem decodes_readProfileRow (row : Bytes) (h : IsSkippedRow row) :
    Decodes readProfileRow row row := by
  -- The skipping does not look behind the row, so it does the same in front of the next one.
  have hskip := decodes_consumed _ _ _
    (decodes_of_steady _ _ _ (steady_skipDlmsData _) h.skipped)
  have hskipped : Decodes skippedData row row := decodes_last _ _ _ _ _ hskip (decodes_pure _)
  intro rest
  rcases row with _ | ⟨first, row⟩
  · exact absurd h.structured (by simp [List.head?_nil])
  · have htag := Option.some.inj (List.head?_cons.symm.trans h.structured)
    have hrow := hskipped rest
    rw [List.cons_append] at hrow ⊢
    simp only [readProfileRow, if_pos htag]
    exact hrow

theorem consumes_readExpectedTag (tag : UInt8) :
    Consumes (readExpectedTag tag) fun used _ => used = [tag] := by
  refine consumes_bind _ _ _ _ (consumes_item _) fun _ first hfirst => ?_
  by_cases htag : first = tag
  · rw [if_pos htag]
    exact consumes_pure _ _ (by rw [List.append_nil, hfirst, htag])
  · rw [if_neg htag]
    exact consumes_fail _ _

theorem consumes_reserve (elementSize count : Nat) :
    Consumes (reserve elementSize count)
      fun used _ => used = [] ∧ count ≤ maximumCount elementSize := by
  rw [reserve]
  by_cases hroom : count > maximumCount elementSize
  · rw [if_pos hroom]
    exact consumes_fail _ _
  · rw [if_neg hroom]
    exact consumes_pure _ _ ⟨rfl, Nat.le_of_not_lt hroom⟩

/-- What an array was read from: a tag, a length and the elements. -/
theorem consumes_readArray {α : Type} (elementSize : Nat) (element : DataReader α)
    (as : Bytes → α → Prop) (h : Consumes element as) :
    Consumes (readArray elementSize element) fun used elements =>
      IsVector elementSize elements ∧ ∃ count pieces, LengthOctets count elements.length ∧
        used = arrayTag :: (count ++ pieces.flatten) ∧ List.Forall₂ as pieces elements := by
  refine consumes_bind _ _ _ _ (consumes_readExpectedTag _) fun tag _ htag => ?_
  refine consumes_bind _ _ _ _ consumes_readLength fun octets count hcount => ?_
  refine consumes_bind _ _ _ _ (consumes_reserve _ _) fun none _ hnone => ?_
  intro ts elements rest hout
  rcases consumes_repeatN _ _ _ h ts elements rest hout with
    ⟨used, hused, rfl, pieces, rfl, hpieces⟩
  refine ⟨pieces.flatten, hused, hnone.2, octets, pieces, hcount, ?_, hpieces⟩
  rw [htag, hnone.1]
  rfl

/-- Each row is the octets it was read from. -/
theorem rows_of_pieces (pieces rows : List Bytes)
    (h : List.Forall₂ (fun used row => used = row ∧ IsSkippedRow row) pieces rows) :
    pieces = rows ∧ ∀ row ∈ rows, IsSkippedRow row := by
  induction h with
  | nil => exact ⟨rfl, fun row hrow => absurd hrow List.not_mem_nil⟩
  | cons hfirst _ ih =>
      refine ⟨by rw [hfirst.1, ih.1], fun row hrow => ?_⟩
      rcases List.mem_cons.mp hrow with rfl | hrest
      · exact hfirst.2
      · exact ih.2 row hrest

/-- The decoder takes the arrays of rows, and gives the rows back. -/
theorem decodeProfileGenericBuffer_eq_ok_iff (input : Bytes) (rows : List Bytes) :
    decodeProfileGenericBuffer input = .ok rows ↔ IsArrayOf input rows := by
  rw [decodeProfileGenericBuffer, decodePayload_eq_ok_iff]
  constructor
  · intro h
    rcases consumes_readArray _ _ _ consumes_readProfileRow _ _ _ h with
      ⟨used, hused, hvector, count, pieces, hcount, hpieces, heach⟩
    rw [List.append_nil] at hused
    -- The pieces that were read are the rows themselves.
    rcases rows_of_pieces pieces rows heach with ⟨rfl, hrows⟩
    exact ⟨hvector, ⟨count, hcount, hused.trans hpieces⟩, hrows⟩
  · intro h
    rcases h.octets with ⟨count, hcount, rfl⟩
    refine accepts_of_decodes _ _ _ ?_
    refine decodes_bind _ _ [arrayTag] _ _ _ (decodes_readExpectedTag _)
      (decodes_bind _ _ _ _ _ _ (decodes_of_lengthOctets _ _ hcount) ?_)
    rw [← List.nil_append rows.flatten]
    refine decodes_bind _ _ _ _ _ _ (decodes_reserve _ _ h.vector) ?_
    rw [← List.flatMap_id]
    exact decodes_repeatN _ id rows fun row hrow =>
      decodes_readProfileRow row (h.skipped row hrow)

/-! ### What is well formed -/

/-- An item is data for the codec of the APDUs exactly when the walk goes over it and comes to
    minimal lengths only. -/
theorem wellFormedData_iff (item : Bytes)
    (h : Accepts (skipDlmsData (maxProfileGenericDecodeDepth + 1)) item ()) :
    WellFormedData item ↔ ShortlyWritten item := by
  simp only [WellFormedData, Apdu.decodeDlmsData_eq_ok_iff]
  constructor
  · rintro ⟨value, hvalue⟩ fields rest hwalk
    rcases follows_walk_decodes _ _ _ _ hvalue with ⟨fields', hminimal, hwalk'⟩
    rw [hwalk', Except.ok.injEq, Prod.mk.injEq] at hwalk
    rw [← hwalk.1]
    exact hminimal
  · intro hshort
    -- The item is skipped, so there is a walk over it to look at.
    rcases (walk_iff_skip _ _ _).2 h with ⟨fields, hwalk⟩
    exact decodes_of_walk _ _ _ _ hwalk (hshort fields [] hwalk)

/-- A row that is data is a row for the decoder. -/
theorem isSkippedRow_of_isRow (row : Bytes) (h : IsRow row) : IsSkippedRow row := by
  rcases h.wellFormed with ⟨value, hvalue⟩
  rw [Apdu.decodeDlmsData_eq_ok_iff] at hvalue
  rcases accepts_of_follows _ _ _ _ _ (follows_skipDlmsData _) hvalue with ⟨_, -, hskip⟩
  exact ⟨h.structured, hskip⟩

theorem decodes_encodeProfileGenericBuffer (rows : List Bytes)
    (hvector : IsVector byteBufferSize rows) (h : ∀ row ∈ rows, IsSkippedRow row) :
    decodeProfileGenericBuffer (encodeProfileGenericBuffer rows) = .ok rows :=
  decodePayload_of_decodes _ _ _ (decodes_readArray _ _ _ _ hvector fun row hrow =>
    decodes_readProfileRow row (h row hrow))

/-- The rows of an accepted buffer are data for the codec of the APDUs, and the buffer that they
    are written to is read as the same rows. -/
def BufferOfRows (input : Bytes) : Prop :=
  ∀ rows, decodeProfileGenericBuffer input = .ok rows →
    IsArrayOf input rows ∧ (∀ row ∈ rows, IsRow row) ∧
      decodeProfileGenericBuffer (encodeProfileGenericBuffer rows) = .ok rows

/-- Rows of well-formed data come back from their buffer. A buffer that is accepted has such
    rows exactly when no length in a row is in the long form that fits the short one. -/
theorem profileBuffer_iff (rows : List Bytes) (input : Bytes) :
    (IsVector byteBufferSize rows → (∀ row ∈ rows, IsRow row) →
        decodeProfileGenericBuffer (encodeProfileGenericBuffer rows) = .ok rows) ∧
      (BufferOfRows input ↔
        ∀ rows, IsArrayOf input rows → ∀ row ∈ rows, ShortlyWritten row) := by
  refine ⟨fun hvector h => decodes_encodeProfileGenericBuffer rows hvector fun row hrow =>
    isSkippedRow_of_isRow row (h row hrow), ?_⟩
  constructor
  · intro h rows harray row hrow
    rcases h rows ((decodeProfileGenericBuffer_eq_ok_iff _ _).2 harray) with ⟨-, hrows, -⟩
    exact (wellFormedData_iff row (harray.skipped row hrow).skipped).1 (hrows row hrow).wellFormed
  · intro h rows hdecoded
    have harray := (decodeProfileGenericBuffer_eq_ok_iff _ _).1 hdecoded
    refine ⟨harray, fun row hrow => ?_,
      decodes_encodeProfileGenericBuffer rows harray.vector harray.skipped⟩
    have hskipped := harray.skipped row hrow
    exact ⟨hskipped.structured,
      (wellFormedData_iff row hskipped.skipped).2 (h rows harray row hrow)⟩

/-- Rows of an octet string and an array of structures. -/
def nestedRows : List Bytes :=
  [[0x02, 0x02, 0x09, 0x02, 0x07, 0xE9, 0x01, 0x02, 0x02, 0x01, 0x11, 0x05, 0x02, 0x00],
    [0x02, 0x01, 0x01, 0x01, 0x02, 0x02, 0x03, 0x01, 0x12, 0x00, 0x2A]]

/-- Rows of nested data come back. -/
theorem profileBuffer_iff_nestedRows :
    decodeProfileGenericBuffer (encodeProfileGenericBuffer nestedRows) = .ok nestedRows := by
  refine (profileBuffer_iff nestedRows []).1 (by rw [IsVector]; decide) fun row hmem => ?_
  simp only [nestedRows, List.mem_cons, List.not_mem_nil, or_false] at hmem
  rcases hmem with rfl | rfl
  · exact ⟨rfl, _, rfl⟩
  · exact ⟨rfl, _, rfl⟩

/-- An array of one row: a structure of no element, whose number is in the long form. -/
def longCountBuffer : Bytes := [0x01, 0x01, 0x02, 0x81, 0x00]

/-- The buffer is accepted, and its row is refused by the codec of the APDUs. -/
theorem not_bufferOfRows_longCount : ¬BufferOfRows longCountBuffer := by
  intro h
  have hdecoded : decodeProfileGenericBuffer longCountBuffer = .ok [[0x02, 0x81, 0x00]] := by rfl
  rcases h _ hdecoded with ⟨-, hrows, -⟩
  rcases (hrows _ List.mem_cons_self).wellFormed with ⟨value, hvalue⟩
  have hrefused : decodeDlmsData [0x02, 0x81, 0x00] (maxProfileGenericDecodeDepth + 1) =
      .error .invalidLength := by rfl
  rw [hrefused] at hvalue
  cases hvalue

end Cosem

end Dlms
