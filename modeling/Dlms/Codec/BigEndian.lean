import Mathlib.Data.List.Basic
import Mathlib.Data.List.GetD
import Mathlib.Tactic.Ring

/-!
# Big-endian numbers

Fixed-width numbers on the wire, most significant byte first.

`beBytes w n` writes the low `w` bytes of `n`, and `beValue` reads a list of
bytes back as a number. They are inverse to each other in both directions,
and each direction needs its own side condition: a number must fit in the
width to come back unchanged, and a list of bytes comes back unchanged at its
own length, whatever it holds.

## Main definitions

* `beBytes`: The low bytes of a number, most significant first.
* `beValue`: The number a list of bytes denotes.

## Theorems

* `beValue_beBytes`: Reading back what was written, modulo the width.
* `beBytes_beValue`: Writing back what was read.
* `beValue_lt`: A list of bytes denotes a number below its width.
-/

namespace Codec

/-- The low `w` bytes of `n`, most significant byte first. -/
def beBytes : Nat → Nat → List UInt8
  | 0, _ => []
  | w + 1, n => UInt8.ofNat (n / 256 ^ w) :: beBytes w n

/-- Read bytes, most significant first, on top of the value read so far. -/
def beValueFrom (acc : Nat) : List UInt8 → Nat
  | [] => acc
  | b :: bs => beValueFrom (acc * 256 + b.toNat) bs

/-- The number a list of bytes denotes, most significant byte first. -/
def beValue (bs : List UInt8) : Nat := beValueFrom 0 bs

/-- The number in the two octets from an offset on. Past the end they are zero. -/
def beWordAt (bs : List UInt8) (offset : Nat) : Nat :=
  (bs.getD offset 0).toNat * 256 + (bs.getD (offset + 1) 0).toNat

@[simp] theorem length_beBytes (w n : Nat) : (beBytes w n).length = w := by
  induction w with
  | zero => rfl
  | succ w ih => rw [beBytes, List.length_cons, ih]

theorem beValueFrom_eq (acc : Nat) (bs : List UInt8) :
    beValueFrom acc bs = acc * 256 ^ bs.length + beValue bs := by
  induction bs generalizing acc with
  | nil => simp [beValueFrom, beValue, pow_zero, mul_one, add_zero]
  | cons b bs ih =>
      rw [beValue, beValueFrom, beValueFrom, ih, ih (0 * 256 + b.toNat), List.length_cons,
        pow_succ]
      ring

theorem beValue_cons (b : UInt8) (bs : List UInt8) :
    beValue (b :: bs) = b.toNat * 256 ^ bs.length + beValue bs := by
  rw [beValue, beValueFrom, beValueFrom_eq, Nat.zero_mul, Nat.zero_add]

/-- A list of bytes denotes a number below its width. -/
theorem beValue_lt (bs : List UInt8) : beValue bs < 256 ^ bs.length := by
  induction bs with
  | nil => exact Nat.one_pos
  | cons b bs ih =>
      have hbyte : b.toNat < 256 := b.toNat_lt
      rw [beValue_cons, List.length_cons, pow_succ]
      calc b.toNat * 256 ^ bs.length + beValue bs
          < b.toNat * 256 ^ bs.length + 256 ^ bs.length := Nat.add_lt_add_left ih _
        _ = (b.toNat + 1) * 256 ^ bs.length := by ring
        _ ≤ 256 * 256 ^ bs.length := Nat.mul_le_mul_right _ hbyte
        _ = 256 ^ bs.length * 256 := Nat.mul_comm _ _

/-- Reading back what was written gives the number modulo the width. -/
theorem beValue_beBytes (w n : Nat) : beValue (beBytes w n) = n % 256 ^ w := by
  induction w with
  | zero => simp [beBytes, beValue, beValueFrom, pow_zero, Nat.mod_one]
  | succ w ih =>
      have hbyte : (UInt8.ofNat (n / 256 ^ w)).toNat = n / 256 ^ w % 256 := UInt8.toNat_ofNat'
      rw [beBytes, beValue_cons, ih, length_beBytes, hbyte, pow_succ, Nat.mod_mul, Nat.mul_comm,
        Nat.add_comm]

theorem beValue_beBytes_of_lt (w n : Nat) (h : n < 256 ^ w) : beValue (beBytes w n) = n := by
  rw [beValue_beBytes, Nat.mod_eq_of_lt h]

/-- Writing the low bytes of a sum drops a multiple of the width. -/
theorem beBytes_add_mul (w k n : Nat) : beBytes w (k * 256 ^ w + n) = beBytes w n := by
  induction w generalizing k with
  | zero => rfl
  | succ w ih =>
      have hpos : 0 < 256 ^ w := Nat.pow_pos (by decide)
      have hsplit : k * 256 ^ (w + 1) + n = k * 256 * 256 ^ w + n := by rw [pow_succ]; ring
      rw [beBytes, beBytes, hsplit, ih (k * 256), Nat.add_comm,
        Nat.add_mul_div_right _ _ hpos]
      congr 1
      apply UInt8.toNat.inj
      rw [UInt8.toNat_ofNat', UInt8.toNat_ofNat', Nat.add_mul_mod_self_right]

/-- Writing back what was read gives the same bytes. -/
theorem beBytes_beValue (bs : List UInt8) : beBytes bs.length (beValue bs) = bs := by
  induction bs with
  | nil => rfl
  | cons b bs ih =>
      have hlt := beValue_lt bs
      have hpos : 0 < 256 ^ bs.length := Nat.pow_pos (by decide)
      rw [beValue_cons, List.length_cons, beBytes, beBytes_add_mul, ih, Nat.add_comm,
        Nat.add_mul_div_right _ _ hpos, Nat.div_eq_of_lt hlt, Nat.zero_add, UInt8.ofNat_toNat]

theorem beWordAt_append (bs more : List UInt8) (offset : Nat) (h : offset + 1 < bs.length) :
    beWordAt (bs ++ more) offset = beWordAt bs offset := by
  rw [beWordAt, beWordAt, List.getD_append _ _ _ _ (by omega), List.getD_append _ _ _ _ h]

end Codec
