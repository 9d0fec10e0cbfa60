import Dlms.Hdlc.Frame

/-!
# The fields of a frame, in Go

The library of the data link is written twice, in C++ and in Go. This is the
package in Go: its addresses, its control fields and its checksum, each beside
what the library in C++ makes of the same octets.

A field of the package is a plain record. It can hold what the library in C++
does not let anyone build, so that the statements go one way: what is an address
or a control field there stands for one here. The statuses and the kinds of
frames have the same names and the same numbers in both, and are the same types.

## Main definitions

* `Address`, `Control`: The fields of the package.
* `Address.ofHdlc`, `Control.ofHdlc`: What stands for a field of the library in
  C++.
* `calculateHdlcCRC`: The checksum.

## Theorems

* `addressFromBytes_eq`, `Address.encode_ofHdlc`: The addresses are read and
  written alike.
* `controlFromByte_eq`: So are the control fields.
* `calculateHdlcCRC_eq`: The checksums are the same.
-/

namespace Dlms

namespace GoHdlc

open Hdlc

/-! ### Addresses -/

structure Address where
  rawValue : UInt32
  encodedSize : Nat
  deriving DecidableEq

def isSupportedEncodedSize (n : Nat) : Bool := n == 1 || n == 2 || n == 4

def maximumRawValue (encodedSize : Nat) : UInt32 := (1 <<< UInt32.ofNat (encodedSize * 7)) - 1

/-- The loop over the octets: those that are left, how many have been read, and
    the value so far. -/
def scanAddress (length : Nat) : Nat → UInt32 → Bytes → Except HdlcStatus (Address × Nat)
  | _, _, [] => if length < 4 then .error .needMoreData else .error .invalidAddress
  | i, rawValue, byte :: rest =>
      if i < 4 then
        let rawValue := (rawValue <<< 7) ||| ((byte >>> 1) &&& 0x7F).toUInt32
        let consumed := i + 1
        if byte &&& 0x01 ≠ 0 then
          if !isSupportedEncodedSize consumed then .error .unsupportedAddress
          else .ok ({ rawValue := rawValue, encodedSize := consumed }, consumed)
        else scanAddress length (i + 1) rawValue rest
      else if length < 4 then .error .needMoreData
      else .error .invalidAddress

def addressFromBytes (data : Bytes) : Except HdlcStatus (Address × Nat) :=
  scanAddress data.length 0 0 data

def addressFromRaw (rawValue : UInt32) (encodedSize : Nat) : Except HdlcStatus Address :=
  if !isSupportedEncodedSize encodedSize then .error .unsupportedAddress
  else if rawValue > maximumRawValue encodedSize then .error .invalidAddress
  else .ok { rawValue := rawValue, encodedSize := encodedSize }

namespace Address

def encodedByte (a : Address) (i : Nat) : UInt8 :=
  let shift := UInt32.ofNat ((a.encodedSize - i - 1) * 7)
  let val := ((a.rawValue >>> shift) &&& 0x7F).toUInt8 <<< 1
  if i + 1 = a.encodedSize then val ||| 0x01 else val

def encode (a : Address) : Bytes := (List.range a.encodedSize).map a.encodedByte

/-- What stands for an address of the library in C++. -/
def ofHdlc (address : HdlcAddress) : Address where
  rawValue := UInt32.ofNat address.rawValue
  encodedSize := address.encodedSize

theorem rawValue_lt_of_hdlc (address : HdlcAddress) : address.rawValue < 2 ^ 28 := by
  have hlt := address.rawValue_lt
  rcases address.size_cases with hsize | hsize | hsize
  all_goals
    rw [hsize] at hlt
    omega

@[simp] theorem toNat_rawValue_ofHdlc (address : HdlcAddress) :
    (ofHdlc address).rawValue.toNat = address.rawValue := by
  have hlt := rawValue_lt_of_hdlc address
  rw [ofHdlc, UInt32.toNat_ofNat']
  omega

end Address

/-- Seven bits of an octet. -/
theorem toNat_group (byte : UInt8) :
    (((byte >>> 1) &&& 0x7F).toUInt32).toNat = byte.toNat / 2 := by
  have hbyte := byte.toNat_lt
  rw [UInt8.toNat_toUInt32, UInt8.toNat_and, UInt8.toNat_shiftRight]
  show byte.toNat >>> 1 &&& 2 ^ 7 - 1 = _
  rw [Nat.and_two_pow_sub_one_eq_mod, Nat.shiftRight_eq_div_pow]
  omega

/-- An octet more, in shifts and in numbers. -/
theorem toNat_shifted (rawValue : UInt32) (byte : UInt8) (h : rawValue.toNat < 2 ^ 21) :
    ((rawValue <<< 7) ||| ((byte >>> 1) &&& 0x7F).toUInt32).toNat =
      rawValue.toNat * 128 + byte.toNat / 2 := by
  have hbyte := byte.toNat_lt
  have hshift : (rawValue <<< 7).toNat = rawValue.toNat <<< 7 := by
    rw [UInt32.toNat_shiftLeft]
    show rawValue.toNat <<< 7 % 2 ^ 32 = _
    rw [Nat.shiftLeft_eq]
    omega
  rw [UInt32.toNat_or, hshift, toNat_group, ← Nat.shiftLeft_add_eq_or_of_lt (by omega),
    Nat.shiftLeft_eq]

/-- The loop finds what the one in C++ finds. -/
theorem scanAddress_eq (length index : Nat) (rawValue : UInt32) (value : Nat)
    (h : value ≤ Hdlc.maximumRawValue index) (data : Bytes) (hindex : index ≤ 4)
    (hvalue : rawValue.toNat = value) (hlength : length = index + data.length) :
    scanAddress length index rawValue data =
      (HdlcAddress.scan value index h data).map (Prod.map Address.ofHdlc id) := by
  induction data generalizing index rawValue value with
  | nil =>
      rw [List.length_nil] at hlength
      by_cases hfour : index = 4
      · rw [scanAddress, HdlcAddress.scan, if_neg (by omega), if_pos (by omega)]
        rfl
      · rw [scanAddress, HdlcAddress.scan, if_pos (by omega), if_neg (by omega)]
        rfl
  | cons byte rest ih =>
      rw [List.length_cons] at hlength
      by_cases hfour : index < 4
      -- Three octets at most come before this one, so that nothing is shifted out.
      · have hbound : value < 2 ^ 21 := by
          have hpositive : 2 ^ (index * 7) ≤ 2 ^ 21 :=
            Nat.pow_le_pow_right (by omega) (by omega)
          have hpower : 0 < 2 ^ (index * 7) := Nat.two_pow_pos _
          rw [Hdlc.maximumRawValue] at h
          omega
        have hnext := toNat_shifted rawValue byte (by omega)
        rw [hvalue] at hnext
        rw [scanAddress, HdlcAddress.scan, if_pos hfour, if_neg (show ¬index ≥ 4 by omega)]
        by_cases hmarked : byte &&& 0x01 ≠ 0
        · rw [if_pos hmarked, if_pos hmarked]
          by_cases hsupported : Hdlc.isSupportedEncodedSize (index + 1) = true
          · have hsame : isSupportedEncodedSize (index + 1) = true := hsupported
            rw [dif_pos hsupported, hsame]
            simp only [Bool.not_true, Bool.false_eq_true, if_false, Except.map, Prod.map,
              Address.ofHdlc, id, Except.ok.injEq, Prod.mk.injEq, Address.mk.injEq, and_true]
            rw [← hnext, UInt32.ofNat_toNat]
          · have hsame : isSupportedEncodedSize (index + 1) = false :=
              Bool.not_eq_true _ ▸ hsupported
            rw [dif_neg hsupported, hsame]
            rfl
        · rw [if_neg hmarked, if_neg hmarked]
          exact ih (index + 1) _ _ _ (by omega) hnext (by omega)
      · rw [scanAddress, HdlcAddress.scan, if_neg hfour, if_neg (by omega), if_pos (by omega)]
        rfl

/-- An address is read alike. -/
theorem addressFromBytes_eq (data : Bytes) :
    addressFromBytes data = (HdlcAddress.fromBytes data).map (Prod.map Address.ofHdlc id) :=
  scanAddress_eq data.length 0 0 0 (Nat.zero_le _) data (by omega) rfl (by omega)

/-- The largest raw value, in shifts and in numbers. -/
theorem toNat_maximumRawValue (encodedSize : Nat)
    (h : isSupportedEncodedSize encodedSize = true) :
    (maximumRawValue encodedSize).toNat = Hdlc.maximumRawValue encodedSize := by
  simp only [isSupportedEncodedSize, Bool.or_eq_true, beq_iff_eq] at h
  rcases h with (rfl | rfl) | rfl
  all_goals rfl

/-- An address is made alike from its parts. -/
theorem addressFromRaw_eq (rawValue : UInt32) (encodedSize : Nat) :
    addressFromRaw rawValue encodedSize =
      (HdlcAddress.fromRaw rawValue encodedSize).map Address.ofHdlc := by
  by_cases hsupported : Hdlc.isSupportedEncodedSize encodedSize = true
  · have hsame : isSupportedEncodedSize encodedSize = true := hsupported
    have hmaximum := toNat_maximumRawValue encodedSize hsame
    rw [addressFromRaw, HdlcAddress.fromRaw, dif_pos hsupported, hsame, Bool.not_true,
      if_neg Bool.false_ne_true]
    by_cases hbounded : rawValue.toNat ≤ Hdlc.maximumRawValue encodedSize
    · have hfits : ¬rawValue > maximumRawValue encodedSize := by
        rw [gt_iff_lt, UInt32.lt_iff_toNat_lt, hmaximum]
        omega
      rw [dif_pos hbounded, if_neg hfits]
      simp [Except.map, Address.ofHdlc, UInt32.ofNat_toNat]
    · have hlarge : rawValue > maximumRawValue encodedSize := by
        rw [gt_iff_lt, UInt32.lt_iff_toNat_lt, hmaximum]
        omega
      rw [dif_neg hbounded, if_pos hlarge]
      rfl
  · have hsame : isSupportedEncodedSize encodedSize = false := Bool.not_eq_true _ ▸ hsupported
    rw [addressFromRaw, HdlcAddress.fromRaw, dif_neg hsupported, hsame]
    rfl

/-- Seven bits behind the mark of the last octet. -/
theorem marked_group (group : UInt8) (h : group.toNat < 128) (last : Prop) [Decidable last] :
    (if last then group <<< 1 ||| 0x01 else group <<< 1) =
      UInt8.ofNat (group.toNat * 2 + if last then 1 else 0) := by
  have hdouble : (group <<< 1).toNat = group.toNat <<< 1 := by
    rw [UInt8.toNat_shiftLeft]
    show group.toNat <<< 1 % 2 ^ 8 = _
    rw [Nat.shiftLeft_eq]
    omega
  rw [← UInt8.toNat_inj, UInt8.toNat_ofNat']
  by_cases hlast : last
  · rw [if_pos hlast, if_pos hlast, UInt8.toNat_or, hdouble]
    show group.toNat <<< 1 ||| 1 = _
    rw [← Nat.shiftLeft_add_eq_or_of_lt (by omega), Nat.shiftLeft_eq]
    omega
  · rw [if_neg hlast, if_neg hlast, hdouble, Nat.shiftLeft_eq]
    omega

/-- The octets of an address are the same. -/
theorem Address.encode_ofHdlc (address : HdlcAddress) :
    (ofHdlc address).encode = address.encode := by
  refine List.map_congr_left ?_
  intro i hi
  have hlt : i < address.encodedSize := List.mem_range.mp hi
  have hsize : address.encodedSize ≤ 4 := by
    have hcases := address.size_cases
    omega
  -- Seven bits of the raw value, in shifts and in numbers.
  have hgroup : (((ofHdlc address).rawValue >>>
      UInt32.ofNat ((address.encodedSize - i - 1) * 7)) &&& 0x7F).toUInt8.toNat =
      address.rawValue / 128 ^ (address.encodedSize - i - 1) % 128 := by
    have hshift : (UInt32.ofNat ((address.encodedSize - i - 1) * 7)).toNat % 32 =
        7 * (address.encodedSize - i - 1) := by
      rw [UInt32.toNat_ofNat']
      omega
    rw [UInt32.toNat_toUInt8, UInt32.toNat_and, UInt32.toNat_shiftRight, hshift,
      toNat_rawValue_ofHdlc]
    show (address.rawValue >>> (7 * (address.encodedSize - i - 1)) &&& 2 ^ 7 - 1) % 2 ^ 8 = _
    rw [Nat.and_two_pow_sub_one_eq_mod, Nat.shiftRight_eq_div_pow, Nat.pow_mul]
    show address.rawValue / 128 ^ (address.encodedSize - i - 1) % 128 % 256 = _
    omega
  rw [HdlcAddress.encodedByte, ← hgroup]
  exact marked_group _ (hgroup.trans_lt (Nat.mod_lt _ (by omega))) (i + 1 = address.encodedSize)

/-! ### Control fields -/

structure Control where
  raw : UInt8
  deriving DecidableEq

def isSupportedUnnumbered (value : UInt8) : Bool :=
  [0x83, 0x63, 0x43, 0x0F, 0x87, 0x03].contains (value &&& 0xEF)

def controlFromByte (value : UInt8) : Except HdlcStatus Control :=
  if value &&& 0x01 = 0 then .ok { raw := value }
  else if value &&& 0x03 = 0x01 then .ok { raw := value }
  else if isSupportedUnnumbered value then .ok { raw := value }
  else .error .invalidControlField

def controlFromRaw (value : UInt8) : Control := { raw := value }

namespace Control

def encode (c : Control) : UInt8 := c.raw

def frameKind (c : Control) : HdlcFrameKind :=
  if c.raw &&& 0x01 = 0 then .information
  else if c.raw &&& 0x03 = 0x01 then .supervisory
  else .unnumbered

def supervisoryKind (c : Control) : Except HdlcStatus HdlcSupervisoryKind :=
  if c.frameKind ≠ .supervisory then .error .invalidFrameType
  else
    match ((c.raw >>> 2) &&& 0x03).toNat with
    | 0 => .ok .receiveReady
    | 1 => .ok .receiveNotReady
    | 2 => .ok .reject
    | 3 => .ok .selectiveReject
    | _ => .error .invalidControlField

def unnumberedKind (c : Control) : Except HdlcStatus HdlcUnnumberedKind :=
  if c.frameKind ≠ .unnumbered then .error .invalidFrameType
  else
    match (c.raw &&& 0xEF).toNat with
    | 0x83 => .ok .snrm
    | 0x63 => .ok .ua
    | 0x43 => .ok .disc
    | 0x0F => .ok .dm
    | 0x87 => .ok .frmr
    | 0x03 => .ok .ui
    | _ => .error .invalidControlField

def sendSequence (c : Control) : UInt8 :=
  if c.frameKind ≠ .information then 0 else (c.raw >>> 1) &&& 0x07

def receiveSequence (c : Control) : UInt8 :=
  if c.frameKind = .unnumbered then 0 else (c.raw >>> 5) &&& 0x07

/-- What stands for a control field of the library in C++. -/
def ofHdlc (control : HdlcControl) : Control := { raw := control.rawValue }

section OfHdlc

variable (control : HdlcControl)

@[simp] theorem encode_ofHdlc : (ofHdlc control).encode = control.encode := rfl

@[simp] theorem frameKind_ofHdlc : (ofHdlc control).frameKind = control.frameKind := rfl

end OfHdlc

end Control

/-- A control field is read alike. -/
theorem controlFromByte_eq (value : UInt8) :
    controlFromByte value = (HdlcControl.decode value).map Control.ofHdlc := by
  have haccepted : isControl value = (value &&& 0x01 == 0 || value &&& 0x03 == 0x01 ||
      isSupportedUnnumbered value) := rfl
  unfold controlFromByte HdlcControl.decode
  by_cases hinformation : value &&& 0x01 = 0
  · rw [if_pos hinformation, dif_pos (by rw [haccepted, hinformation]; rfl)]
    rfl
  · rw [if_neg hinformation]
    by_cases hsupervisory : value &&& 0x03 = 0x01
    · rw [if_pos hsupervisory, dif_pos (by rw [haccepted, hsupervisory]; simp)]
      rfl
    · rw [if_neg hsupervisory]
      have hleft : isControl value = isSupportedUnnumbered value := by
        rw [haccepted, beq_eq_false_iff_ne.mpr hinformation, beq_eq_false_iff_ne.mpr hsupervisory]
        rfl
      by_cases hsupported : isSupportedUnnumbered value = true
      · rw [if_pos hsupported, dif_pos (hleft.trans hsupported)]
        rfl
      · rw [if_neg hsupported, dif_neg (by rw [hleft]; exact hsupported)]
        rfl

/-! ### The checksum -/

def crcInitial : UInt16 := 0xFFFF

def crcPolynomial : UInt16 := 0x8408

/-- The loop over the bits that are left. -/
def updateBits : Nat → UInt16 → UInt16
  | 0, crc => crc
  | bits + 1, crc =>
      updateBits bits (if crc &&& 0x0001 ≠ 0 then (crc >>> 1) ^^^ crcPolynomial else crc >>> 1)

def updateCRC (crc : UInt16) (value : UInt8) : UInt16 := updateBits 8 (crc ^^^ value.toUInt16)

/-- The loop over the octets that are left. -/
def crcOver (crc : UInt16) : Bytes → UInt16
  | [] => crc
  | byte :: data => crcOver (updateCRC crc byte) data

def calculateHdlcCRC (data : Bytes) : UInt16 := crcOver crcInitial data ^^^ 0xFFFF

theorem crcOver_eq (crc : UInt16) (data : Bytes) :
    crcOver crc data = data.foldl updateCrc crc := by
  induction data generalizing crc with
  | nil => rfl
  | cons byte data ih =>
      rw [crcOver, ih, List.foldl_cons]
      rfl

/-- The checksums are the same. -/
theorem calculateHdlcCRC_eq (data : Bytes) : calculateHdlcCRC data = calculateHdlcCrc data := by
  rw [calculateHdlcCRC, crcOver_eq]
  rfl

end GoHdlc

end Dlms
