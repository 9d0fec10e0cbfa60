import Dlms.Apdu.Axdr

/-!
# BER elements

The tag-length-value elements the association APDUs are built from.

Only low tag numbers are supported, and an indefinite length is not. The
length reader takes up to eight octets, so its check that a further octet
would overflow the size type never fires.

## Main definitions

* `BerTlv`: An element, its header and its value.
* `readBerTlv`, `writeBerTlv`: The element codec.
* `berTlvBytes`: What the writer writes.
* `ReadHeader`: What a header that was read looks like.

## Theorems

* `writes_writeBerTlv`: The writer writes that.
* `decodes_readBerTlv`: The reader reads it back.
* `consumes_readBerTlv`: An element that is read is its header and its value.
-/

namespace Dlms

namespace Apdu

open Codec

/-- An element. The header is kept because the source takes views of whole
    elements and computes with header sizes. -/
structure BerTlv where
  tag : UInt8
  header : Bytes
  value : Bytes
  deriving DecidableEq, Repr

/-- The whole element. -/
def BerTlv.encoded (tlv : BerTlv) : Bytes := tlv.header ++ tlv.value

/-- A tag whose number does not fit in five bits announces further octets. -/
def isMultiByteTag (tag : UInt8) : Bool := tag &&& 0x1f == 0x1f

def berLengthEncodedSize (length : Nat) : Nat :=
  if length < 128 then 1 else 1 + octetCount sizeOctets length

def readBerLength : Reader Nat := do
  let first ← readU8
  if first &&& 0x80 = 0 then
    pure first.toNat
  else
    let lengthOctets := (first &&& 0x7f).toNat
    if lengthOctets = 0 then
      Parser.fail .unsupportedFeature
    else if lengthOctets > sizeOctets then
      Parser.fail .invalidLength
    else do
      let octets ← readBytes lengthOctets
      if beValue octets < 128 then Parser.fail .invalidLength else pure (beValue octets)

def writeBerLength (length : Nat) : Writer :=
  if length < 128 then
    writeU8 (UInt8.ofNat length)
  else do
    Emitter.reserve .outputBufferTooSmall (berLengthEncodedSize length)
    writeU8 (0x80 ||| UInt8.ofNat (octetCount sizeOctets length))
    writeBytes (beBytes (octetCount sizeOctets length) length)

def readBerTag : Reader UInt8 := do
  let tag ← readU8
  if isMultiByteTag tag then Parser.fail .unsupportedFeature else pure tag

/-- The tag and the length of an element. -/
def readBerHeader : Reader (UInt8 × Nat) := do
  let tag ← readBerTag
  let length ← readBerLength
  pure (tag, length)

def readBerTlv : Reader BerTlv := do
  let (header, tag, length) ← Parser.consumed readBerHeader
  let value ← readBytes length
  pure { tag, header, value }

def writeBerTlv (tag : UInt8) (value : Bytes) : Writer :=
  if isMultiByteTag tag then
    Emitter.fail .unsupportedFeature
  else do
    Emitter.reserve .outputBufferTooSmall
      (1 + berLengthEncodedSize value.length + value.length)
    writeU8 tag
    writeBerLength value.length
    writeBytes value

/-! ### What the writer writes and the reader reads back -/

/-- The header of an element: its tag and its length. -/
def berHeaderBytes (tag : UInt8) (length : Nat) : Bytes := tag :: axdrLengthBytes length

/-- The bytes of an element. -/
def berTlvBytes (tag : UInt8) (value : Bytes) : Bytes := berHeaderBytes tag value.length ++ value

theorem length_berTlvBytes (tag : UInt8) (value : Bytes) :
    (berTlvBytes tag value).length = 1 + axdrLengthEncodedSize value.length + value.length := by
  rw [berTlvBytes, berHeaderBytes, List.length_append, List.length_cons, length_axdrLengthBytes]
  omega

theorem writes_writeBerTlv (tag : UInt8) (value : Bytes) (htag : isMultiByteTag tag = false) :
    Writes (writeBerTlv tag value) (berTlvBytes tag value) := by
  have hbytes : berTlvBytes tag value = [tag] ++ (axdrLengthBytes value.length ++ value) := by
    rw [berTlvBytes, berHeaderBytes, List.cons_append, List.singleton_append]
  rw [writeBerTlv, if_neg (by rw [htag]; exact Bool.false_ne_true)]
  refine emits_reserve _ _ _ _ (Nat.le_of_eq (length_berTlvBytes tag value).symm) ?_
  rw [hbytes]
  -- Lengths are written as they are in the other encoding.
  exact emits_bind _ _ _ _ _ (writes_writeU8 tag)
    (emits_bind _ _ _ _ _ (writes_writeAxdrLength value.length) (writes_writeBytes value))

/-- Where the other encoding has a length, this one has the same. The two
    differ only in how they refuse a length that announces no octets. -/
theorem extends_readBerLength : Extends readBerLength readAxdrLength := by
  refine extends_bind _ _ _ _ (extends_refl _) fun first => ?_
  by_cases hshort : first &&& 0x80 = 0
  · rw [if_pos hshort, if_pos hshort]
    exact extends_refl _
  · rw [if_neg hshort, if_neg hshort]
    dsimp only
    by_cases hnone : (first &&& 0x7f).toNat = 0
    · rw [if_pos (Or.inl hnone)]
      intro ts a rest h
      exact absurd h (by simp [Parser.fail])
    · rw [if_neg hnone]
      by_cases hmany : (first &&& 0x7f).toNat > sizeOctets
      · rw [if_pos (Or.inr hmany), if_pos hmany]
        exact extends_refl _
      · rw [if_neg (not_or_intro hnone hmany), if_neg hmany]
        exact extends_refl _

theorem decodes_readBerTlv (tag : UInt8) (value : Bytes) (htag : isMultiByteTag tag = false)
    (hsize : value.length < 256 ^ sizeOctets) :
    Decodes readBerTlv (berTlvBytes tag value)
      { tag, header := berHeaderBytes tag value.length, value } := by
  have hreadTag : Decodes readBerTag [tag] tag := by
    rw [← List.append_nil [tag]]
    refine decodes_bind _ _ _ _ _ _ (decodes_readU8 tag) ?_
    rw [if_neg (by rw [htag]; exact Bool.false_ne_true)]
    exact decodes_pure tag
  have hlength := decodes_of_extends _ _ _ _ extends_readBerLength
    (decodes_readAxdrLength value.length hsize)
  have hheader : Decodes readBerHeader (berHeaderBytes tag value.length) (tag, value.length) :=
    decodes_bind _ _ _ _ _ _ hreadTag (decodes_map _ (Prod.mk tag) _ _ hlength)
  have hvalue := decodes_map _ (BerTlv.mk tag (berHeaderBytes tag value.length)) _ _
    (decodes_readBytes value.length value rfl)
  exact decodes_bind _ _ _ _ _ _ (decodes_consumed _ _ _ hheader) hvalue

/-! ### Elements that were read -/

/-- A header that was read: a tag, and a length in one octet or behind a count
    of octets. -/
def ReadHeader (header : Bytes) (tag : UInt8) (length : Nat) : Prop :=
  (∃ first : UInt8, header = [tag, first] ∧ first.toNat < 128 ∧ length = first.toNat) ∨
    ∃ (first : UInt8) (octets : Bytes), header = tag :: first :: octets ∧
      first.toNat = 128 + octets.length ∧ octets ≠ [] ∧ length = beValue octets

/-- The flag bit tells the two forms of a length apart. -/
theorem toNat_of_flag (first : UInt8) :
    (first &&& 0x80 = 0 → first.toNat < 128) ∧
      (first &&& 0x80 ≠ 0 → first.toNat = 128 + (first &&& 0x7f).toNat) := by
  have hall : ∀ n < 256, (UInt8.ofNat n &&& 0x80 = 0 → (UInt8.ofNat n).toNat < 128) ∧
      (UInt8.ofNat n &&& 0x80 ≠ 0 →
        (UInt8.ofNat n).toNat = 128 + (UInt8.ofNat n &&& 0x7f).toNat) := by decide +kernel
  have h := hall first.toNat first.toNat_lt
  rwa [UInt8.ofNat_toNat] at h

theorem consumes_readBerHeader :
    Consumes readBerHeader fun used out => ReadHeader used out.1 out.2 := by
  refine consumes_bind _ _ (fun used tag => used = [tag]) _ ?_ fun used tag hused => ?_
  · refine consumes_bind _ _ _ _ (consumes_item _) fun used tag hused => ?_
    split
    · exact consumes_fail _ _
    · exact consumes_pure _ _ (by rw [List.append_nil]; exact hused)
  · subst hused
    refine consumes_bind _ _ (fun more length => ReadHeader ([tag] ++ more) tag length) _ ?_
      fun more length hmore => consumes_pure _ _ (by rw [List.append_nil]; exact hmore)
    refine consumes_bind _ _ _ _ (consumes_item _) fun used first hused => ?_
    subst hused
    -- A short length is its own octet, a long one says how many octets follow.
    have hflag := toNat_of_flag first
    split
    · rename_i hshort
      refine consumes_pure _ _ (Or.inl ⟨first, rfl, hflag.1 hshort, rfl⟩)
    · rename_i hlong
      dsimp only
      split
      · exact consumes_fail _ _
      · rename_i hnone
        split
        · exact consumes_fail _ _
        · refine consumes_bind _ _ _ _ (consumes_items _ _) fun used octets hused => ?_
          rcases hused with ⟨rfl, hlength⟩
          split
          · exact consumes_fail _ _
          · refine consumes_pure _ _ (Or.inr ⟨first, used, ?_, ?_, ?_, rfl⟩)
            · rw [List.append_nil]
              rfl
            · rw [hlength]
              exact hflag.2 hlong
            · rintro rfl
              exact hnone hlength.symm

/-- An element that is read has consumed its header and its value, and the
    length in the header is the one of the value. -/
theorem consumes_readBerTlv : Consumes readBerTlv fun used tlv =>
    used = tlv.encoded ∧ ReadHeader tlv.header tlv.tag tlv.value.length := by
  refine consumes_bind _ _ _ _ (consumes_consumed _ _ consumes_readBerHeader)
    fun used out hout => ?_
  rcases out with ⟨header, tag, length⟩
  rcases hout with ⟨rfl, hheader⟩
  refine consumes_bind _ _ _ _ (consumes_items _ _) fun more value hmore => ?_
  rcases hmore with ⟨rfl, hlength⟩
  refine consumes_pure _ _ ⟨by rw [List.append_nil]; rfl, ?_⟩
  rw [hlength]
  exact hheader

end Apdu

end Dlms
