import Dlms.Hdlc.Types
import Mathlib.Data.Set.Function

/-!
# HDLC addresses

An address is written in one, two or four octets, seven bits of it in each. The
low bit of an octet marks the last one.

An address of the source is a raw value of 32 bits with the number of its
octets, and it is made by `fromRaw` and `fromBytes` only. Both leave a value
that fits its octets, which the structure here carries. Four octets hold 28
bits, so nothing is lost in numbers without a bound.

## Main definitions

* `HdlcAddress`: A value and the number of its octets.
* `fromBytes`, `encode`: Reading and writing it.
* `makeClientAddress`, `makeServerAddress`: The addresses of meters and of those
  who read them.

## Theorems

* `fromBytes_encode`: What is written is read back.
* `fromRaw_fields`: Every address can be made.
* `injOn_makeServerAddress`: Two servers have two addresses.
-/

namespace Dlms

namespace Hdlc

def isSupportedEncodedSize (encodedSize : Nat) : Bool :=
  encodedSize == 1 || encodedSize == 2 || encodedSize == 4

def maximumRawValue (encodedSize : Nat) : Nat := 2 ^ (encodedSize * 7) - 1

/-- An address as one number, and its octets. -/
structure HdlcAddress where
  rawValue : Nat
  encodedSize : Nat
  supported : isSupportedEncodedSize encodedSize = true
  bounded : rawValue ≤ maximumRawValue encodedSize
  deriving DecidableEq

namespace HdlcAddress

/-- The address of a new object. -/
def initial : HdlcAddress where
  rawValue := 0
  encodedSize := 1
  supported := rfl
  bounded := Nat.zero_le _

theorem size_cases (address : HdlcAddress) :
    address.encodedSize = 1 ∨ address.encodedSize = 2 ∨ address.encodedSize = 4 := by
  have hsupported := address.supported
  simp only [isSupportedEncodedSize, Bool.or_eq_true, beq_iff_eq] at hsupported
  rcases hsupported with (h | h) | h
  · exact .inl h
  · exact .inr (.inl h)
  · exact .inr (.inr h)

theorem rawValue_lt (address : HdlcAddress) :
    address.rawValue < 2 ^ (address.encodedSize * 7) := by
  have hbounded := address.bounded
  have hpositive : 0 < 2 ^ (address.encodedSize * 7) := Nat.two_pow_pos _
  rw [maximumRawValue] at hbounded
  omega

theorem ext_of_fields (first second : HdlcAddress) (hraw : first.rawValue = second.rawValue)
    (hsize : first.encodedSize = second.encodedSize) : first = second := by
  cases first
  cases second
  simp only at hraw hsize
  subst hraw hsize
  rfl

/-- One octet more below the value read so far keeps it in its octets. -/
theorem bounded_of_shift (rawValue index : Nat) (byte : UInt8)
    (h : rawValue ≤ maximumRawValue index) :
    rawValue * 128 + byte.toNat / 2 ≤ maximumRawValue (index + 1) := by
  have hbyte := byte.toNat_lt
  have hpositive : 0 < 2 ^ (index * 7) := Nat.two_pow_pos _
  have hpower : 2 ^ ((index + 1) * 7) = 2 ^ (index * 7) * 128 := by
    rw [Nat.succ_mul, pow_add]
    rfl
  rw [maximumRawValue] at h ⊢
  omega

/-- The octets of an address that are left after some have been read. -/
def scan (rawValue index : Nat) (h : rawValue ≤ maximumRawValue index) (data : Bytes) :
    Except HdlcStatus (HdlcAddress × Nat) :=
  if index ≥ 4 then .error .invalidAddress
  else
    match data with
    | [] => .error .needMoreData
    | byte :: rest =>
        if byte &&& 0x01 ≠ 0 then
          if hsupported : isSupportedEncodedSize (index + 1) = true then
            .ok ({ rawValue := rawValue * 128 + byte.toNat / 2
                   encodedSize := index + 1
                   supported := hsupported
                   bounded := bounded_of_shift rawValue index byte h }, index + 1)
          else .error .unsupportedAddress
        else scan (rawValue * 128 + byte.toNat / 2) (index + 1)
          (bounded_of_shift rawValue index byte h) rest

/-- The address at the start of the data, and how many octets it takes. -/
def fromBytes (data : Bytes) : Except HdlcStatus (HdlcAddress × Nat) :=
  scan 0 0 (Nat.zero_le _) data

def fromRaw (rawValue : UInt32) (encodedSize : Nat) : Except HdlcStatus HdlcAddress :=
  if hsupported : isSupportedEncodedSize encodedSize = true then
    if hbounded : rawValue.toNat ≤ maximumRawValue encodedSize then
      .ok { rawValue := rawValue.toNat
            encodedSize := encodedSize
            supported := hsupported
            bounded := hbounded }
    else .error .invalidAddress
  else .error .unsupportedAddress

/-- The address of a client, in one octet. -/
def makeClientAddress (clientAddress : UInt8) : Except HdlcStatus HdlcAddress :=
  if clientAddress > 0x7F then .error .invalidAddress else fromRaw clientAddress.toUInt32 1

/-- The address of a server, in as many octets as its two parts need. -/
def makeServerAddress (logicalDeviceAddress physicalDeviceAddress : UInt16) :
    Except HdlcStatus HdlcAddress :=
  if logicalDeviceAddress > 0x3FFF ∨ physicalDeviceAddress > 0x3FFF then .error .invalidAddress
  else if physicalDeviceAddress = 0 ∧ logicalDeviceAddress ≤ 0x7F then
    fromRaw logicalDeviceAddress.toUInt32 1
  else if logicalDeviceAddress ≤ 0x7F ∧ physicalDeviceAddress ≤ 0x7F then
    fromRaw ((logicalDeviceAddress.toUInt32 <<< 7) ||| physicalDeviceAddress.toUInt32) 2
  else fromRaw ((logicalDeviceAddress.toUInt32 <<< 14) ||| physicalDeviceAddress.toUInt32) 4

/-- The octet at an index, the last one marked. -/
def encodedByte (address : HdlcAddress) (index : Nat) : UInt8 :=
  UInt8.ofNat (address.rawValue / 128 ^ (address.encodedSize - index - 1) % 128 * 2 +
    if index + 1 = address.encodedSize then 1 else 0)

def encode (address : HdlcAddress) : Bytes :=
  (List.range address.encodedSize).map address.encodedByte

@[simp] theorem length_encode (address : HdlcAddress) :
    address.encode.length = address.encodedSize := by
  rw [encode, List.length_map, List.length_range]

/-! ### Reading back -/

theorem toNat_of_group (group mark : Nat) (hgroup : group < 128) (hmark : mark < 2) :
    (UInt8.ofNat (group * 2 + mark)).toNat = group * 2 + mark := by
  rw [UInt8.toNat_ofNat']
  omega

theorem low_bit (byte : UInt8) : byte &&& 0x01 ≠ 0 ↔ byte.toNat % 2 = 1 := by
  have hvalue : (byte &&& 0x01).toNat = byte.toNat % 2 := by
    rw [UInt8.toNat_and]
    exact Nat.and_one_is_mod _
  rw [ne_eq, ← UInt8.toNat_inj, hvalue, UInt8.toNat_zero]
  omega

section Scan

variable (rawValue index : Nat) (h : rawValue ≤ maximumRawValue index) (group : Nat)
  (hgroup : group < 128) (hindex : index < 4) (rest : Bytes)
include hgroup hindex

/-- An octet that is not marked goes on with the next. -/
theorem scan_more (hnext : rawValue * 128 + group ≤ maximumRawValue (index + 1)) :
    scan rawValue index h (UInt8.ofNat (group * 2 + 0) :: rest) =
      scan (rawValue * 128 + group) (index + 1) hnext rest := by
  have hvalue := toNat_of_group group 0 hgroup (by omega)
  have hunmarked : ¬ (UInt8.ofNat (group * 2 + 0) &&& 0x01 ≠ 0) := by
    rw [low_bit, hvalue]
    omega
  have hhalf : (UInt8.ofNat (group * 2 + 0)).toNat / 2 = group := by
    rw [hvalue]
    omega
  rw [scan, if_neg (by omega)]
  simp only [hunmarked, if_false, hhalf]

/-- A marked octet is the last. -/
theorem scan_last (address : HdlcAddress) (hraw : address.rawValue = rawValue * 128 + group)
    (hsize : address.encodedSize = index + 1) :
    scan rawValue index h (UInt8.ofNat (group * 2 + 1) :: rest) =
      .ok (address, index + 1) := by
  have hvalue := toNat_of_group group 1 hgroup (by omega)
  have hmarked : UInt8.ofNat (group * 2 + 1) &&& 0x01 ≠ 0 := by
    rw [low_bit, hvalue]
    omega
  have hhalf : (UInt8.ofNat (group * 2 + 1)).toNat / 2 = group := by
    rw [hvalue]
    omega
  have hsupported : isSupportedEncodedSize (index + 1) = true := by
    rw [← hsize]
    exact address.supported
  rw [scan, if_neg (by omega)]
  simp only [hmarked, ne_eq, not_false_eq_true, if_true, hsupported, dif_pos, hhalf,
    Except.ok.injEq, Prod.mk.injEq, and_true]
  exact ext_of_fields _ _ hraw.symm hsize.symm

end Scan

/-- What is written is read back, whatever follows. -/
theorem fromBytes_encode (address : HdlcAddress) (rest : Bytes) :
    fromBytes (address.encode ++ rest) = .ok (address, address.encodedSize) := by
  have hlt := address.rawValue_lt
  -- One, two or four octets of seven bits each, of which the last is marked.
  rcases address.size_cases with hsize | hsize | hsize
  · have hencode : address.encode =
        [UInt8.ofNat (address.rawValue / 128 ^ 0 % 128 * 2 + 1)] := by
      have hrange : List.range 1 = [0] := rfl
      simp only [encode, hsize, hrange, List.map_cons, List.map_nil, encodedByte]
      rfl
    rw [hsize] at hlt
    rw [hencode, fromBytes, hsize, List.cons_append]
    exact scan_last 0 0 _ _ (Nat.mod_lt _ (by omega)) (by omega) _ address (by omega) hsize
  · have hencode : address.encode =
        [UInt8.ofNat (address.rawValue / 128 ^ 1 % 128 * 2 + 0),
          UInt8.ofNat (address.rawValue / 128 ^ 0 % 128 * 2 + 1)] := by
      have hrange : List.range 2 = [0, 1] := rfl
      simp only [encode, hsize, hrange, List.map_cons, List.map_nil, encodedByte]
      rfl
    rw [hsize] at hlt
    rw [hencode, fromBytes, hsize, List.cons_append, List.cons_append]
    rw [scan_more 0 0 _ _ (Nat.mod_lt _ (by omega)) (by omega) _
      (by rw [maximumRawValue]; omega)]
    exact scan_last _ 1 _ _ (Nat.mod_lt _ (by omega)) (by omega) _ address (by omega) hsize
  · have hencode : address.encode =
        [UInt8.ofNat (address.rawValue / 128 ^ 3 % 128 * 2 + 0),
          UInt8.ofNat (address.rawValue / 128 ^ 2 % 128 * 2 + 0),
          UInt8.ofNat (address.rawValue / 128 ^ 1 % 128 * 2 + 0),
          UInt8.ofNat (address.rawValue / 128 ^ 0 % 128 * 2 + 1)] := by
      have hrange : List.range 4 = [0, 1, 2, 3] := rfl
      simp only [encode, hsize, hrange, List.map_cons, List.map_nil, encodedByte]
      rfl
    rw [hsize] at hlt
    rw [hencode, fromBytes, hsize, List.cons_append, List.cons_append, List.cons_append,
      List.cons_append]
    rw [scan_more 0 0 _ _ (Nat.mod_lt _ (by omega)) (by omega) _
      (by rw [maximumRawValue]; omega)]
    rw [scan_more _ 1 _ _ (Nat.mod_lt _ (by omega)) (by omega) _
      (by rw [maximumRawValue]; omega)]
    rw [scan_more _ 2 _ _ (Nat.mod_lt _ (by omega)) (by omega) _
      (by rw [maximumRawValue]; omega)]
    exact scan_last _ 3 _ _ (Nat.mod_lt _ (by omega)) (by omega) _ address (by omega) hsize

/-! ### The addresses of servers -/

theorem fields_of_fromRaw (rawValue : UInt32) (encodedSize : Nat) (address : HdlcAddress)
    (h : fromRaw rawValue encodedSize = .ok address) :
    address.rawValue = rawValue.toNat ∧ address.encodedSize = encodedSize := by
  unfold fromRaw at h
  split_ifs at h
  rw [← Except.ok.inj h]
  exact ⟨rfl, rfl⟩

/-- Every address is made from its two fields. -/
theorem fromRaw_fields (address : HdlcAddress) :
    fromRaw (UInt32.ofNat address.rawValue) address.encodedSize = .ok address := by
  have hbounded := address.bounded
  have hmaximum : maximumRawValue address.encodedSize < 2 ^ 32 := by
    rcases address.size_cases with hsize | hsize | hsize
    · rw [hsize]
      decide
    · rw [hsize]
      decide
    · rw [hsize]
      decide
  have hvalue : (UInt32.ofNat address.rawValue).toNat = address.rawValue := by
    rw [UInt32.toNat_ofNat', Nat.mod_eq_of_lt (by omega)]
  rw [fromRaw, dif_pos address.supported, dif_pos (by rw [hvalue]; exact hbounded)]
  exact congrArg Except.ok (ext_of_fields _ _ hvalue rfl)

/-- The two parts of a server address do not overlap in its raw value. -/
theorem toNat_pack (high low : UInt16) (shift : UInt32) (hshift : shift.toNat ≤ 14)
    (hhigh : high.toNat < 2 ^ 14) (hlow : low.toNat < 2 ^ shift.toNat) :
    ((high.toUInt32 <<< shift) ||| low.toUInt32).toNat =
      high.toNat * 2 ^ shift.toNat + low.toNat := by
  have hpower : 2 ^ shift.toNat ≤ 2 ^ 14 := Nat.pow_le_pow_right (by decide) hshift
  have hproduct : high.toNat * 2 ^ shift.toNat ≤ 2 ^ 14 * 2 ^ 14 :=
    Nat.mul_le_mul (Nat.le_of_lt hhigh) hpower
  have hmultiple : (high.toUInt32 <<< shift).toNat = high.toNat <<< shift.toNat := by
    have hshifted : shift.toNat % 32 = shift.toNat := Nat.mod_eq_of_lt (by omega)
    rw [UInt32.toNat_shiftLeft, UInt16.toNat_toUInt32, hshifted, Nat.shiftLeft_eq,
      Nat.mod_eq_of_lt (by omega)]
  rw [UInt32.toNat_or, hmultiple, UInt16.toNat_toUInt32,
    ← Nat.shiftLeft_add_eq_or_of_lt hlow, Nat.shiftLeft_eq]

/-- Each length has a way of its own to put the two parts together. -/
theorem parts_of_makeServerAddress (logicalDeviceAddress physicalDeviceAddress : UInt16)
    (address : HdlcAddress)
    (h : makeServerAddress logicalDeviceAddress physicalDeviceAddress = .ok address) :
    (address.encodedSize = 1 ∧ physicalDeviceAddress.toNat = 0 ∧
      address.rawValue = logicalDeviceAddress.toNat) ∨
    (address.encodedSize = 2 ∧ physicalDeviceAddress.toNat < 2 ^ 7 ∧
      address.rawValue = logicalDeviceAddress.toNat * 2 ^ 7 + physicalDeviceAddress.toNat) ∨
    (address.encodedSize = 4 ∧ physicalDeviceAddress.toNat < 2 ^ 14 ∧
      address.rawValue = logicalDeviceAddress.toNat * 2 ^ 14 + physicalDeviceAddress.toNat) := by
  unfold makeServerAddress at h
  simp only [UInt16.lt_iff_toNat_lt, UInt16.le_iff_toNat_le, ← UInt16.toNat_inj, gt_iff_lt] at h
  split_ifs at h with hlarge hone htwo
  · rcases fields_of_fromRaw _ _ _ h with ⟨hraw, hsize⟩
    exact .inl ⟨hsize, hone.1, hraw.trans (UInt16.toNat_toUInt32 _)⟩
  · rcases fields_of_fromRaw _ _ _ h with ⟨hraw, hsize⟩
    have hlogical : logicalDeviceAddress.toNat ≤ 127 := htwo.1
    have hphysical : physicalDeviceAddress.toNat ≤ 127 := htwo.2
    refine .inr (.inl ⟨hsize, by omega, hraw.trans (toNat_pack _ _ 7 (by decide) (by omega) ?_)⟩)
    show physicalDeviceAddress.toNat < 2 ^ 7
    omega
  · rcases fields_of_fromRaw _ _ _ h with ⟨hraw, hsize⟩
    rw [not_or] at hlarge
    have hlogical : ¬16383 < logicalDeviceAddress.toNat := hlarge.1
    have hphysical : ¬16383 < physicalDeviceAddress.toNat := hlarge.2
    refine .inr (.inr ⟨hsize, by omega, hraw.trans (toNat_pack _ _ 14 (by decide) (by omega) ?_)⟩)
    show physicalDeviceAddress.toNat < 2 ^ 14
    omega

/-- Two servers whose addresses are of one length have one address only if they are
    the same. -/
theorem injOn_makeServerAddress (encodedSize : Nat) :
    Set.InjOn (fun server : UInt16 × UInt16 => makeServerAddress server.1 server.2)
      {server | ∃ address, makeServerAddress server.1 server.2 = .ok address ∧
        address.encodedSize = encodedSize} := by
  intro server hserver other _ hsame
  rcases hserver with ⟨address, hmade, -⟩
  have hother : makeServerAddress other.1 other.2 = .ok address := hsame.symm.trans hmade
  -- The length says how the parts were put together, and so it does for both.
  have hparts := parts_of_makeServerAddress _ _ _ hmade
  have hotherParts := parts_of_makeServerAddress _ _ _ hother
  refine Prod.ext (UInt16.toNat_inj.mp ?_) (UInt16.toNat_inj.mp ?_)
  · omega
  · omega

/-- Every address is read back from its octets and takes exactly them, whatever
    follows, and no two servers with addresses of one length have the same. -/
theorem fromBytes_encode_and_injOn_makeServerAddress :
    (∀ (address : HdlcAddress) (rest : Bytes),
      fromBytes (address.encode ++ rest) = .ok (address, address.encode.length)) ∧
    (∀ address : HdlcAddress,
      fromRaw (UInt32.ofNat address.rawValue) address.encodedSize = .ok address) ∧
    ∀ encodedSize, Set.InjOn
      (fun server : UInt16 × UInt16 => makeServerAddress server.1 server.2)
      {server | ∃ address, makeServerAddress server.1 server.2 = .ok address ∧
        address.encodedSize = encodedSize} := by
  refine ⟨?_, fromRaw_fields, injOn_makeServerAddress⟩
  intro address rest
  rw [fromBytes_encode, length_encode]

end HdlcAddress

end Hdlc

end Dlms
