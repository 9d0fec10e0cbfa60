import Dlms.Codec.Parser
import Dlms.Codec.Emitter
import Dlms.Codec.BigEndian

/-!
# A-XDR primitives

The byte reader and byte writer every APDU codec is written in, and the A-XDR
primitives on top of them: booleans, optional flags, lengths, octet strings
and the conformance block.

The reader walks over a view of the received bytes and the writer fills a
caller's buffer. A view with a null pointer and a nonzero size cannot be built
here, since a view is a list, so the checks for it have no counterpart.

A length below `0x80` is one byte. A longer one is a byte that counts the
octets, then the octets. The reader accepts leading zero octets but not a
long form of a short length, and the writer never produces leading zeros.

## Main definitions

* `ApduStatus`: The failure codes of the codecs.
* `Reader`, `Writer`: Readers of bytes and writers into a bounded buffer.
* `readAxdrLength`, `writeAxdrLength`: Variable-width lengths.
* `readAxdrOctetString`, `writeAxdrOctetString`: Bytes after their length.
* `axdrLengthBytes`, `axdrOctetStringBytes`: What the writers write.

## Theorems

* `writes_writeAxdrLength`, `writes_writeAxdrOctetString`: The writers write that.
* `decodes_readAxdrLength`, `decodes_readAxdrOctetString`: The readers read it back.
-/

namespace Dlms

namespace Apdu

open Codec

/-- Failure codes of the APDU codecs. Success is the `Except.ok` of the
    computation that carries one of these. -/
inductive ApduStatus where
  | needMoreData
  | outputBufferTooSmall
  | invalidArgument
  | invalidTag
  | invalidLength
  | invalidBer
  | invalidAxdr
  | invalidChoice
  | invalidData
  | invalidInvokeId
  | invalidDescriptor
  | invalidConformance
  | unsupportedApdu
  | unsupportedAcseField
  | unsupportedXdlmsService
  | unsupportedDataType
  | unsupportedFeature
  | pduTooLarge
  | internalError
  deriving DecidableEq, Repr

/-- Bytes as they are on the wire. -/
abbrev Bytes : Type := List UInt8

/-- A reader of received bytes. -/
abbrev Reader (α : Type) : Type := Parser UInt8 ApduStatus α

/-- A writer into a caller's buffer. -/
abbrev Writer : Type := Emitter UInt8 ApduStatus Unit

/-! ### Reader and writer -/

def readU8 : Reader UInt8 := Parser.item .needMoreData

def readBytes (size : Nat) : Reader Bytes := Parser.items .needMoreData size

def readU16 : Reader UInt16 := do
  let bytes ← readBytes 2
  pure (UInt16.ofNat (beValue bytes))

def readU32 : Reader UInt32 := do
  let bytes ← readBytes 4
  pure (UInt32.ofNat (beValue bytes))

/-- Everything that is left, as `Remaining` and `ReadBytes` take it together. -/
def readRemaining : Reader Bytes := Parser.remaining

/-- Every top-level decoder rejects bytes after the value. -/
def requireNoTrailingBytes : Reader Unit := Parser.atEnd .invalidLength

def writeBytes (bytes : Bytes) : Writer := Emitter.put .outputBufferTooSmall bytes

def writeU8 (value : UInt8) : Writer := writeBytes [value]

def writeU16 (value : UInt16) : Writer := writeBytes (beBytes 2 value.toNat)

def writeU32 (value : UInt32) : Writer := writeBytes (beBytes 4 value.toNat)

/-- The writer writes exactly these bytes, or reports a buffer too small. -/
abbrev Writes (w : Writer) (bytes : Bytes) : Prop := Emits ApduStatus.outputBufferTooSmall w bytes

/-- The writer writes one list of bytes, room permitting, or always fails. -/
abbrev UniformWriter (w : Writer) : Prop := Uniform ApduStatus.outputBufferTooSmall w

/-- The writer writes one list of bytes, room permitting, or refuses for another
    reason than room. -/
abbrev SettledWriter (w : Writer) : Prop := Settled ApduStatus.outputBufferTooSmall w

theorem writes_writeBytes (bytes : Bytes) : Writes (writeBytes bytes) bytes :=
  emits_put _ _

theorem writes_writeU8 (value : UInt8) : Writes (writeU8 value) [value] :=
  emits_put _ _

theorem writes_writeU16 (value : UInt16) : Writes (writeU16 value) (beBytes 2 value.toNat) :=
  emits_put _ _

theorem writes_writeU32 (value : UInt32) : Writes (writeU32 value) (beBytes 4 value.toNat) :=
  emits_put _ _

theorem decodes_readU8 (value : UInt8) : Decodes readU8 [value] value :=
  decodes_item _ _

theorem decodes_readBytes (size : Nat) (bytes : Bytes) (h : bytes.length = size) :
    Decodes (readBytes size) bytes bytes := by
  rw [← h]
  exact decodes_items _ _

theorem decodes_readU16 (value : UInt16) :
    Decodes readU16 (beBytes 2 value.toNat) value := by
  have hlt : value.toNat < 256 ^ 2 := value.toNat_lt
  have hread := decodes_readBytes 2 (beBytes 2 value.toNat) (length_beBytes 2 _)
  have h := decodes_bind _ (fun bytes => pure (UInt16.ofNat (beValue bytes))) _ _ _ _ hread
    (decodes_pure _)
  rwa [List.append_nil, beValue_beBytes_of_lt _ _ hlt, UInt16.ofNat_toNat] at h

theorem decodes_readU32 (value : UInt32) :
    Decodes readU32 (beBytes 4 value.toNat) value := by
  have hlt : value.toNat < 256 ^ 4 := value.toNat_lt
  have hread := decodes_readBytes 4 (beBytes 4 value.toNat) (length_beBytes 4 _)
  have h := decodes_bind _ (fun bytes => pure (UInt32.ofNat (beValue bytes))) _ _ _ _ hread
    (decodes_pure _)
  rwa [List.append_nil, beValue_beBytes_of_lt _ _ hlt, UInt32.ofNat_toNat] at h

/-! ### Booleans and flags -/

def readAxdrBoolean : Reader Bool := do
  let raw ← readU8
  pure (raw != 0)

def writeAxdrBoolean (value : Bool) : Writer := writeU8 (if value then 0x01 else 0x00)

def readAxdrOptionalFlag : Reader Bool := do
  let raw ← readU8
  if raw > 1 then Parser.fail .invalidAxdr else pure (raw != 0)

def writeAxdrOptionalFlag (present : Bool) : Writer := writeU8 (if present then 0x01 else 0x00)

/-- The byte of a boolean or of a flag. -/
def flagByte (value : Bool) : UInt8 := if value then 0x01 else 0x00

theorem decodes_readAxdrBoolean (value : Bool) :
    Decodes readAxdrBoolean [flagByte value] value := by
  intro rest
  cases value <;> rfl

/-! ### Lengths -/

/-- Octets of a number: the loop that shifts it right until it is zero. The
    bound is the size of the machine's size type. -/
def octetCount : Nat → Nat → Nat
  | 0, _ => 0
  | fuel + 1, remaining => if remaining = 0 then 0 else octetCount fuel (remaining / 256) + 1

/-- Octets of the machine's size type. -/
def sizeOctets : Nat := 8

def axdrLengthEncodedSize (length : Nat) : Nat :=
  if length < 0x80 then 1 else 1 + octetCount sizeOctets length

def readAxdrLength : Reader Nat := do
  let first ← readU8
  if first &&& 0x80 = 0 then
    pure first.toNat
  else
    let lengthOctets := (first &&& 0x7f).toNat
    if lengthOctets = 0 ∨ lengthOctets > sizeOctets then
      Parser.fail .invalidLength
    else do
      let octets ← readBytes lengthOctets
      if beValue octets < 0x80 then Parser.fail .invalidLength else pure (beValue octets)

def writeAxdrLength (length : Nat) : Writer :=
  if length < 0x80 then
    writeU8 (UInt8.ofNat length)
  else do
    Emitter.reserve .outputBufferTooSmall (axdrLengthEncodedSize length)
    writeU8 (0x80 ||| UInt8.ofNat (octetCount sizeOctets length))
    writeBytes (beBytes (octetCount sizeOctets length) length)

def readAxdrOctetString : Reader Bytes := do
  let length ← readAxdrLength
  readBytes length

def writeAxdrOctetString (data : Bytes) : Writer := do
  Emitter.reserve .outputBufferTooSmall (axdrLengthEncodedSize data.length + data.length)
  writeAxdrLength data.length
  writeBytes data

/-- The bytes of a length. -/
def axdrLengthBytes (length : Nat) : Bytes :=
  if length < 0x80 then
    [UInt8.ofNat length]
  else
    (0x80 ||| UInt8.ofNat (octetCount sizeOctets length)) ::
      beBytes (octetCount sizeOctets length) length

/-- The bytes of an octet string: its length and its content. -/
def axdrOctetStringBytes (data : Bytes) : Bytes := axdrLengthBytes data.length ++ data

theorem length_axdrLengthBytes (length : Nat) :
    (axdrLengthBytes length).length = axdrLengthEncodedSize length := by
  rw [axdrLengthBytes, axdrLengthEncodedSize]
  split
  · rfl
  · rw [List.length_cons, length_beBytes, Nat.add_comm]

theorem octetCount_le (fuel n : Nat) : octetCount fuel n ≤ fuel := by
  induction fuel generalizing n with
  | zero => exact Nat.le_refl 0
  | succ fuel ih =>
      rw [octetCount]
      split
      · exact Nat.zero_le _
      · exact Nat.succ_le_succ (ih _)

/-- The octets counted are enough to hold the number. -/
theorem lt_pow_octetCount (fuel n : Nat) (h : n < 256 ^ fuel) : n < 256 ^ octetCount fuel n := by
  induction fuel generalizing n with
  | zero => exact h
  | succ fuel ih =>
      rw [octetCount]
      split
      · omega
      · have hdiv : n / 256 < 256 ^ fuel := by
          rw [pow_succ] at h
          exact Nat.div_lt_of_lt_mul (by omega)
        have hrec := ih _ hdiv
        rw [pow_succ]
        omega

theorem octetCount_pos (n : Nat) (h : 0 < n) : 0 < octetCount sizeOctets n := by
  rw [sizeOctets, octetCount, if_neg (by omega)]
  omega

theorem octetCount_mono (fuel n m : Nat) (h : n ≤ m) : octetCount fuel n ≤ octetCount fuel m := by
  induction fuel generalizing n m with
  | zero => exact Nat.le_refl 0
  | succ fuel ih =>
      rw [octetCount, octetCount]
      by_cases hn : n = 0
      · rw [if_pos hn]
        exact Nat.zero_le _
      · rw [if_neg hn, if_neg (by omega)]
        exact Nat.succ_le_succ (ih _ _ (Nat.div_le_div_right h))

theorem axdrLengthEncodedSize_mono (n m : Nat) (h : n ≤ m) :
    axdrLengthEncodedSize n ≤ axdrLengthEncodedSize m := by
  have hcount := octetCount_mono sizeOctets n m h
  rw [axdrLengthEncodedSize, axdrLengthEncodedSize]
  split_ifs <;> omega

/-- A length that needs two octets is encoded in three. -/
theorem axdrLengthEncodedSize_eq_three (n : Nat) (h : 256 ≤ n) (h' : n < 65536) :
    axdrLengthEncodedSize n = 3 := by
  have hlow : axdrLengthEncodedSize 256 ≤ axdrLengthEncodedSize n :=
    axdrLengthEncodedSize_mono _ _ h
  have hhigh : axdrLengthEncodedSize n ≤ axdrLengthEncodedSize 65535 :=
    axdrLengthEncodedSize_mono _ _ (by omega)
  have hvalues : axdrLengthEncodedSize 256 = 3 ∧ axdrLengthEncodedSize 65535 = 3 := by decide
  omega

theorem writes_writeAxdrLength (length : Nat) :
    Writes (writeAxdrLength length) (axdrLengthBytes length) := by
  have hsize := length_axdrLengthBytes length
  rw [axdrLengthBytes] at hsize ⊢
  rw [writeAxdrLength]
  split
  · exact writes_writeU8 _
  · rename_i hlong
    rw [if_neg hlong] at hsize
    exact emits_reserve _ _ _ _ (Nat.le_of_eq hsize.symm)
      (emits_bind _ _ _ _ _ (writes_writeU8 _) (writes_writeBytes _))

theorem writes_writeAxdrOctetString (data : Bytes) :
    Writes (writeAxdrOctetString data) (axdrOctetStringBytes data) := by
  rw [writeAxdrOctetString, axdrOctetStringBytes]
  refine emits_reserve _ _ _ _ ?_
    (emits_bind _ _ _ _ _ (writes_writeAxdrLength _) (writes_writeBytes _))
  rw [List.length_append, length_axdrLengthBytes]

/-- The count of length octets survives the flag bit it shares a byte with. -/
theorem lengthOctets_of_le (n : Nat) (h : n ≤ sizeOctets) :
    ((0x80 ||| UInt8.ofNat n) &&& 0x80 ≠ 0) ∧ ((0x80 ||| UInt8.ofNat n) &&& 0x7f).toNat = n := by
  have hall : ∀ k ≤ 8, ((0x80 ||| UInt8.ofNat k) &&& 0x80 ≠ 0) ∧
      ((0x80 ||| UInt8.ofNat k) &&& 0x7f).toNat = k := by decide
  exact hall n h

theorem decodes_readAxdrLength (length : Nat) (h : length < 256 ^ sizeOctets) :
    Decodes readAxdrLength (axdrLengthBytes length) length := by
  intro rest
  rw [axdrLengthBytes]
  split
  · rename_i hshort
    have hall : ∀ k < 0x80, UInt8.ofNat k &&& 0x80 = 0 ∧ (UInt8.ofNat k).toNat = k := by decide
    rcases hall length hshort with ⟨hflag, hvalue⟩
    simp only [readAxdrLength, bind, StateT.bind, decodes_readU8 _ rest, Except.bind, hflag,
      hvalue, if_true]
    rfl
  · rename_i hlong
    have hle := octetCount_le sizeOctets length
    have hpos := octetCount_pos length (by omega)
    rcases lengthOctets_of_le _ hle with ⟨hflag, hcount⟩
    have hvalue := beValue_beBytes_of_lt _ _ (lt_pow_octetCount sizeOctets length h)
    have hfirst := decodes_readU8 (0x80 ||| UInt8.ofNat (octetCount sizeOctets length))
    have hoctets := decodes_readBytes (octetCount sizeOctets length)
      (beBytes (octetCount sizeOctets length) length) (length_beBytes _ _) rest
    have hcond : ¬ (octetCount sizeOctets length = 0 ∨
        octetCount sizeOctets length > sizeOctets) := by omega
    rw [← List.singleton_append, List.append_assoc]
    simp only [readAxdrLength, bind, StateT.bind, hfirst _, Except.bind, hflag, hcount, hcond,
      hoctets, hvalue, hlong, if_false]
    rfl

theorem decodes_readAxdrOctetString (data : Bytes) (h : data.length < 256 ^ sizeOctets) :
    Decodes readAxdrOctetString (axdrOctetStringBytes data) data :=
  decodes_bind _ _ _ _ _ _ (decodes_readAxdrLength _ h) (decodes_readBytes _ _ rfl)

end Apdu

end Dlms
