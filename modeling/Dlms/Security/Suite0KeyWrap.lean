import Dlms.Security.Types

/-!
# The key wrap of suite 0

A key travels under a key-encryption key: six rounds over its two halves, each
of which puts a half and an integrity value through the block cipher and counts
into the value. Unwrapping goes the rounds backwards and gives the key out only
when the integrity value has come back.

The block cipher is a library outside the source: a pair of functions here,
each of which may fail.

## Main definitions

* `Aes128Block`: The block cipher, and `Aes128Block.ofTable` one known on some
  blocks.
* `wrap`, `unwrap`: The two operations, and `wrapInto`, `unwrapInto` with the vector of the
  caller that they fill.
-/

namespace Dlms

namespace Security

open Codec
open Apdu (Bytes)

/-- AES-128 on one block, from a key and a block. -/
structure Aes128Block where
  encrypt : Bytes → Bytes → Option Bytes
  decrypt : Bytes → Bytes → Option Bytes

/-- One block under a key, plain and encrypted. -/
structure AesBlockEntry where
  key : Bytes
  plain : Bytes
  encrypted : Bytes

/-- A block cipher known on some blocks only. -/
def Aes128Block.ofTable (table : List AesBlockEntry) : Aes128Block where
  encrypt := fun key block =>
    (table.find? fun entry => entry.key == key && entry.plain == block).map
      fun entry => entry.encrypted
  decrypt := fun key block =>
    (table.find? fun entry => entry.key == key && entry.encrypted == block).map
      fun entry => entry.plain

namespace Suite0KeyWrap

def keySize : Nat := 16

def wrappedKeySize : Nat := 24

/-- Octets of the integrity value, and of one half of a key. -/
def halfSize : Nat := 8

def blockSize : Nat := 16

def defaultIntegrityValue : Bytes := List.replicate halfSize 0xA6

def validateKeyWrapInput (keyEncryptionKey : SecurityKey) (input : Bytes) (expectedSize : Nat) :
    Except SecurityStatus Unit :=
  match validateSecurityKey .suite0 keyEncryptionKey with
  | .error status => .error status
  | .ok () => if input.length ≠ expectedSize then .error .invalidArgument else .ok ()

variable (cipher : Aes128Block)

/-- One block; the library must fill it. -/
def aesEcbCryptBlock (encrypt : Bool) (key : SecurityKey) (input : Bytes) :
    Except SecurityStatus Bytes :=
  match (if encrypt then cipher.encrypt else cipher.decrypt) key.bytes input with
  | none => .error (if encrypt then .cipherFailed else .decipherFailed)
  | some output =>
      if output.length ≠ blockSize then
        .error (if encrypt then .cipherFailed else .decipherFailed)
      else .ok output

/-- A number goes into the low octets of the integrity value. -/
def xorAWithT (a : Bytes) (t : Nat) : Bytes :=
  List.zipWith (fun octet byte => octet ^^^ byte) a (beBytes halfSize t)

/-- The integrity value and the two halves of a key. -/
structure Registers where
  a : Bytes
  r : Bytes × Bytes
  deriving DecidableEq, Repr

namespace Registers

/-- The first half or the second one. -/
def half (registers : Registers) (i : Nat) : Bytes :=
  if i = 0 then registers.r.1 else registers.r.2

def setHalf (registers : Registers) (i : Nat) (half : Bytes) : Registers :=
  { registers with
    r := if i = 0 then (half, registers.r.2) else (registers.r.1, half) }

end Registers

def rounds : Nat := 6

/-- The rounds with the halves they take, from the first to the last. -/
def steps : List (Nat × Nat) :=
  (List.range rounds).flatMap fun j => (List.range 2).map fun i => (j, i)

def wrapStep (key : SecurityKey) (registers : Registers) (step : Nat × Nat) :
    Except SecurityStatus Registers := do
  let encrypted ← aesEcbCryptBlock cipher true key (registers.a ++ registers.half step.2)
  return { registers.setHalf step.2 (encrypted.drop halfSize) with
    a := xorAWithT (encrypted.take halfSize) (2 * step.1 + step.2 + 1) }

def unwrapStep (key : SecurityKey) (registers : Registers) (step : Nat × Nat) :
    Except SecurityStatus Registers := do
  let decrypted ← aesEcbCryptBlock cipher false key
    (xorAWithT registers.a (2 * step.1 + step.2 + 1) ++ registers.half step.2)
  return { registers.setHalf step.2 (decrypted.drop halfSize) with
    a := decrypted.take halfSize }

def wrap (keyEncryptionKey : SecurityKey) (plainKey : Bytes) : Except SecurityStatus Bytes := do
  validateKeyWrapInput keyEncryptionKey plainKey keySize
  let wrapped ← steps.foldlM (wrapStep cipher keyEncryptionKey)
    { a := defaultIntegrityValue
      r := (plainKey.take halfSize, plainKey.drop halfSize) }
  return wrapped.a ++ wrapped.r.1 ++ wrapped.r.2

def unwrap (keyEncryptionKey : SecurityKey) (wrappedKey : Bytes) : Except SecurityStatus Bytes := do
  validateKeyWrapInput keyEncryptionKey wrappedKey wrappedKeySize
  let unwrapped ← steps.reverse.foldlM (unwrapStep cipher keyEncryptionKey)
    { a := wrappedKey.take halfSize
      r := ((wrappedKey.drop halfSize).take halfSize, wrappedKey.drop (2 * halfSize)) }
  if unwrapped.a ≠ defaultIntegrityValue then throw .authenticationFailed
  return unwrapped.r.1 ++ unwrapped.r.2

/-! ### The output argument -/

/-- What a vector holds after `clear`. -/
def cleared (_ : Bytes) : Bytes := []

/-- The status of a call, and the vector of the caller after it. -/
def wrapInto (keyEncryptionKey : SecurityKey) (plainKey wrappedKey : Bytes) :
    Except SecurityStatus Unit × Bytes :=
  let wrappedKey := cleared wrappedKey
  match validateKeyWrapInput keyEncryptionKey plainKey keySize with
  | .error status => (.error status, wrappedKey)
  | .ok () =>
      match steps.foldlM (wrapStep cipher keyEncryptionKey)
          { a := defaultIntegrityValue
            r := (plainKey.take halfSize, plainKey.drop halfSize) } with
      | .error status => (.error status, wrappedKey)
      | .ok wrapped => (.ok (), wrapped.a ++ wrapped.r.1 ++ wrapped.r.2)

def unwrapInto (keyEncryptionKey : SecurityKey) (wrappedKey plainKey : Bytes) :
    Except SecurityStatus Unit × Bytes :=
  let plainKey := cleared plainKey
  match validateKeyWrapInput keyEncryptionKey wrappedKey wrappedKeySize with
  | .error status => (.error status, plainKey)
  | .ok () =>
      match steps.reverse.foldlM (unwrapStep cipher keyEncryptionKey)
          { a := wrappedKey.take halfSize
            r := ((wrappedKey.drop halfSize).take halfSize, wrappedKey.drop (2 * halfSize)) } with
      | .error status => (.error status, plainKey)
      | .ok unwrapped =>
          if unwrapped.a ≠ defaultIntegrityValue then (.error .authenticationFailed, plainKey)
          else (.ok (), unwrapped.r.1 ++ unwrapped.r.2)

/-! ### The size of what is given out -/

/-- The halves keep their size. -/
def Sized (registers : Registers) : Prop :=
  registers.r.1.length = halfSize ∧ registers.r.2.length = halfSize

theorem sized_setHalf (registers : Registers) (h : Sized registers) (i : Nat) (half : Bytes)
    (hhalf : half.length = halfSize) : Sized (registers.setHalf i half) := by
  unfold Registers.setHalf
  by_cases hi : i = 0
  · rw [if_pos hi]
    exact ⟨hhalf, h.2⟩
  · rw [if_neg hi]
    exact ⟨h.1, hhalf⟩

theorem length_of_cryptBlock (encrypt : Bool) (key : SecurityKey) (input output : Bytes)
    (h : aesEcbCryptBlock cipher encrypt key input = .ok output) : output.length = blockSize := by
  unfold aesEcbCryptBlock at h
  generalize (if encrypt = true then cipher.encrypt else cipher.decrypt) key.bytes input = found
    at h
  cases found with
  | none => cases h
  | some block =>
      by_cases hsize : block.length ≠ blockSize
      · simp [if_pos hsize] at h
      · simp only [if_neg hsize, Except.ok.injEq] at h
        rw [← h]
        exact not_not.mp hsize

end Suite0KeyWrap

end Security

end Dlms
