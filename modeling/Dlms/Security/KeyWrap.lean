import Dlms.Machine.Reversal
import Dlms.Security.Suite0KeyWrap
import Mathlib.Logic.Equiv.Defs

/-!
# Unwrapping what has been wrapped

The rounds of the key wrap are steps that are undone. A step of wrapping puts the integrity value
and a half of the key through the block cipher and counts into the value, a step of unwrapping
counts into the value and comes back through the block cipher. As the cipher is a permutation of
the blocks under each key, both ways are open at every step, and unwrapping goes the steps of
wrapping from the last to the first.

So a wrapped key that is accepted is the wrapping of the key that is given out, whatever the
permutations are.

## Main definitions

* `Block`, `Aes128Block.ofPermutations`: The block cipher of a family of permutations.
* `Whole`: All registers have their size.

## Theorems

* `cryptBlock_iff`: The two directions of the cipher.
* `undoes_unwrapStep`, `undoes_wrapStep`: One step.
* `unwrap_eq_ok_iff`: All of them.
* `wrapInto_unwrapInto`: The two operations, with the vectors that they fill.
-/

namespace Dlms

namespace Security

open Codec
open Apdu (Bytes)
open Machine (Undoes)

/-- The octets of one block. -/
def Block : Type := { block : Bytes // block.length = Suite0KeyWrap.blockSize }

/-- The block cipher of a permutation of the blocks for each key. -/
def Aes128Block.ofPermutations (permutation : Bytes → Equiv.Perm Block) : Aes128Block where
  encrypt := fun key block =>
    if h : block.length = Suite0KeyWrap.blockSize then some (permutation key ⟨block, h⟩).val
    else none
  decrypt := fun key block =>
    if h : block.length = Suite0KeyWrap.blockSize then some ((permutation key).symm ⟨block, h⟩).val
    else none

namespace Suite0KeyWrap

/-! ### The registers -/

/-- The integrity value and the two halves have their size. -/
def Whole (registers : Registers) : Prop := registers.a.length = halfSize ∧ Sized registers

section Registers

variable (registers : Registers) (i : Nat) (half other : Bytes)

theorem half_setHalf : (registers.setHalf i half).half i = half := by
  unfold Registers.half Registers.setHalf
  by_cases hi : i = 0
  · simp [hi]
  · simp [hi]

theorem setHalf_half : registers.setHalf i (registers.half i) = registers := by
  unfold Registers.half Registers.setHalf
  by_cases hi : i = 0
  · simp [hi]
  · simp [hi]

theorem setHalf_setHalf :
    (registers.setHalf i half).setHalf i other = registers.setHalf i other := by
  unfold Registers.setHalf
  by_cases hi : i = 0
  · simp [hi]
  · simp [hi]

theorem length_half (h : Sized registers) : (registers.half i).length = halfSize := by
  unfold Registers.half
  by_cases hi : i = 0
  · rw [if_pos hi]
    exact h.1
  · rw [if_neg hi]
    exact h.2

end Registers

/-! ### The number in the integrity value -/

/-- What is xored twice is as before, as long as there is enough to xor with. -/
theorem zipWith_xor_twice (octets mask : Bytes) (h : octets.length ≤ mask.length) :
    List.zipWith (fun octet byte => octet ^^^ byte)
      (List.zipWith (fun octet byte => octet ^^^ byte) octets mask) mask = octets := by
  induction octets generalizing mask with
  | nil => rfl
  | cons octet octets ih =>
      cases mask with
      | nil => exact absurd h (Nat.not_succ_le_zero _)
      | cons byte mask =>
          simp only [List.zipWith_cons_cons, UInt8.xor_assoc, UInt8.xor_self, UInt8.xor_zero]
          rw [ih mask (Nat.le_of_succ_le_succ h)]

theorem length_xorAWithT (a : Bytes) (t : Nat) (h : a.length = halfSize) :
    (xorAWithT a t).length = halfSize := by
  rw [xorAWithT, List.length_zipWith, length_beBytes, h, Nat.min_self]

theorem xorAWithT_twice (a : Bytes) (t : Nat) (h : a.length = halfSize) :
    xorAWithT (xorAWithT a t) t = a := by
  unfold xorAWithT
  exact zipWith_xor_twice a _ (by rw [length_beBytes, h])

/-! ### The steps -/

/-- A block is given out when the library fills one. -/
theorem aesEcbCryptBlock_eq_ok (cipher : Aes128Block) (encrypt : Bool) (key : SecurityKey)
    (input output : Bytes) :
    aesEcbCryptBlock cipher encrypt key input = .ok output ↔
      (if encrypt then cipher.encrypt else cipher.decrypt) key.bytes input = some output ∧
        output.length = blockSize := by
  rw [aesEcbCryptBlock]
  cases (if encrypt then cipher.encrypt else cipher.decrypt) key.bytes input with
  | none => simp
  | some block =>
      by_cases hsize : block.length = blockSize
      · simp only [hsize, ne_eq, not_true, if_false, Except.ok.injEq, Option.some.injEq]
        constructor
        · rintro rfl
          exact ⟨rfl, hsize⟩
        · intro h
          exact h.1
      · simp only [hsize, ne_eq, not_false_eq_true, if_true, reduceCtorEq, Option.some.injEq,
          false_iff]
        rintro ⟨rfl, hblock⟩
        exact hsize hblock

section Steps

variable (permutation : Bytes → Equiv.Perm Block)

theorem length_block (block : Block) : block.val.length = blockSize := block.property

/-- A permutation takes whole blocks and gives whole blocks. -/
theorem dite_block_eq_some (way : Equiv.Perm Block) (input output : Bytes) :
    (if h : input.length = blockSize then some (way ⟨input, h⟩).val else none) = some output ↔
      ∃ block : Block, block.val = input ∧ (way block).val = output := by
  by_cases hsize : input.length = blockSize
  · rw [dif_pos hsize, Option.some.injEq]
    constructor
    · intro h
      exact ⟨⟨input, hsize⟩, rfl, h⟩
    · rintro ⟨block, rfl, hblock⟩
      exact hblock
  · rw [dif_neg hsize]
    constructor
    · intro h
      cases h
    · rintro ⟨block, rfl, -⟩
      exact absurd (length_block block) hsize

/-- One block is encrypted or decrypted by the permutation of the key or by its inverse. -/
theorem cryptBlock_eq_ok (encrypt : Bool) (key : SecurityKey) (input output : Bytes) :
    aesEcbCryptBlock (.ofPermutations permutation) encrypt key input = .ok output ↔
      ∃ block : Block, block.val = input ∧
        ((if encrypt then permutation key.bytes else (permutation key.bytes).symm) block).val =
          output := by
  have hway : (if encrypt then (Aes128Block.ofPermutations permutation).encrypt
      else (Aes128Block.ofPermutations permutation).decrypt) key.bytes input = some output ↔
        ∃ block : Block, block.val = input ∧
          ((if encrypt then permutation key.bytes else (permutation key.bytes).symm) block).val =
            output := by
    cases encrypt with
    | true => exact dite_block_eq_some (permutation key.bytes) input output
    | false => exact dite_block_eq_some (permutation key.bytes).symm input output
  rw [aesEcbCryptBlock_eq_ok, hway]
  constructor
  · intro h
    exact h.1
  · -- The check of the size is never the one that fails.
    rintro ⟨block, hblock, rfl⟩
    exact ⟨⟨block, hblock, rfl⟩, length_block _⟩

theorem cryptBlock_iff (key : SecurityKey) (input output : Bytes) :
    aesEcbCryptBlock (.ofPermutations permutation) true key input = .ok output ↔
      aesEcbCryptBlock (.ofPermutations permutation) false key output = .ok input := by
  rw [cryptBlock_eq_ok, cryptBlock_eq_ok]
  simp only [if_true, Bool.false_eq_true, if_false]
  constructor
  · rintro ⟨block, rfl, rfl⟩
    exact ⟨permutation key.bytes block, rfl, by rw [Equiv.symm_apply_apply]⟩
  · rintro ⟨block, rfl, rfl⟩
    exact ⟨(permutation key.bytes).symm block, rfl, by rw [Equiv.apply_symm_apply]⟩

/-- A whole block is never refused. -/
theorem exists_cryptBlock (encrypt : Bool) (key : SecurityKey) (input : Bytes)
    (h : input.length = blockSize) :
    ∃ output, aesEcbCryptBlock (.ofPermutations permutation) encrypt key input = .ok output :=
  ⟨_, (cryptBlock_eq_ok permutation encrypt key input _).mpr ⟨⟨input, h⟩, rfl, rfl⟩⟩

variable (cipher : Aes128Block) (key : SecurityKey) (before after : Registers) (step : Nat × Nat)

theorem wrapStep_eq_ok :
    wrapStep cipher key before step = .ok after ↔
      ∃ encrypted, aesEcbCryptBlock cipher true key (before.a ++ before.half step.2) =
          .ok encrypted ∧
        after = { before.setHalf step.2 (encrypted.drop halfSize) with
          a := xorAWithT (encrypted.take halfSize) (2 * step.1 + step.2 + 1) } := by
  unfold wrapStep
  cases aesEcbCryptBlock cipher true key (before.a ++ before.half step.2) with
  | error status => simp [bind, Except.bind]
  | ok encrypted =>
      simp only [bind, Except.bind, pure, Except.pure, Except.ok.injEq, exists_eq_left']
      exact eq_comm

theorem unwrapStep_eq_ok :
    unwrapStep cipher key before step = .ok after ↔
      ∃ decrypted, aesEcbCryptBlock cipher false key
          (xorAWithT before.a (2 * step.1 + step.2 + 1) ++ before.half step.2) = .ok decrypted ∧
        after = { before.setHalf step.2 (decrypted.drop halfSize) with
          a := decrypted.take halfSize } := by
  unfold unwrapStep
  cases aesEcbCryptBlock cipher false key
      (xorAWithT before.a (2 * step.1 + step.2 + 1) ++ before.half step.2) with
  | error status => simp [bind, Except.bind]
  | ok decrypted =>
      simp only [bind, Except.bind, pure, Except.pure, Except.ok.injEq, exists_eq_left']
      exact eq_comm

/-- The two halves of a block. -/
theorem length_halves (block : Bytes) (h : block.length = blockSize) :
    (block.take halfSize).length = halfSize ∧ (block.drop halfSize).length = halfSize := by
  have hblock : block.length = 16 := h
  have hhalf : halfSize = 8 := rfl
  constructor
  · rw [List.length_take]
    omega
  · rw [List.length_drop]
    omega

/-- A step leaves whole registers, as what the cipher gives is a whole block. -/
theorem whole_setHalf (block a : Bytes) (h : Whole before) (hblock : block.length = blockSize)
    (ha : a.length = halfSize) :
    Whole { before.setHalf step.2 (block.drop halfSize) with a := a } :=
  ⟨ha, sized_setHalf before h.2 step.2 _ (length_halves block hblock).2⟩

/-- The half and the value of before a step, put back, are the registers of before. -/
theorem setHalf_back (i : Nat) (half a : Bytes) :
    before = { ({ before.setHalf i half with a := a } : Registers).setHalf i (before.half i) with
      a := before.a } := by
  have hback := setHalf_setHalf before i half (before.half i)
  rw [setHalf_half] at hback
  exact (congrArg (fun registers : Registers => { registers with a := before.a }) hback).symm

/-- After a step, the half that it was on is what the step has put there. -/
theorem half_step (i : Nat) (half a : Bytes) :
    ({ before.setHalf i half with a := a } : Registers).half i = half :=
  half_setHalf before i half

/-- A step of wrapping is undone by one of unwrapping. -/
theorem undoes_unwrapStep :
    Undoes Whole (wrapStep (.ofPermutations permutation) key)
      (unwrapStep (.ofPermutations permutation) key) := by
  intro before step after hbefore hstep
  rcases (wrapStep_eq_ok _ key before after step).mp hstep with ⟨encrypted, hencrypted, rfl⟩
  have hblock := length_of_cryptBlock _ true key _ _ hencrypted
  have hvalue := (length_halves encrypted hblock).1
  refine ⟨whole_setHalf before step _ _ hbefore hblock (length_xorAWithT _ _ hvalue), ?_⟩
  refine (unwrapStep_eq_ok _ key _ before step).mpr ⟨before.a ++ before.half step.2, ?_, ?_⟩
  · -- The number comes out of the value again, and the block is the one that was encrypted.
    rw [half_step, xorAWithT_twice _ _ hvalue, List.take_append_drop]
    exact (cryptBlock_iff permutation key _ _).mp hencrypted
  · rw [List.take_left' hbefore.1, List.drop_left' hbefore.1]
    exact setHalf_back before step.2 _ _

/-- And the other way round. -/
theorem undoes_wrapStep :
    Undoes Whole (unwrapStep (.ofPermutations permutation) key)
      (wrapStep (.ofPermutations permutation) key) := by
  intro before step after hbefore hstep
  rcases (unwrapStep_eq_ok _ key before after step).mp hstep with ⟨decrypted, hdecrypted, rfl⟩
  have hblock := length_of_cryptBlock _ false key _ _ hdecrypted
  have hvalue := length_xorAWithT before.a (2 * step.1 + step.2 + 1) hbefore.1
  refine ⟨whole_setHalf before step _ _ hbefore hblock (length_halves decrypted hblock).1, ?_⟩
  refine (wrapStep_eq_ok _ key _ before step).mpr
    ⟨xorAWithT before.a (2 * step.1 + step.2 + 1) ++ before.half step.2, ?_, ?_⟩
  · rw [half_step, List.take_append_drop]
    exact (cryptBlock_iff permutation key _ _).mpr hdecrypted
  · rw [List.take_left' hvalue, List.drop_left' hvalue, xorAWithT_twice _ _ hbefore.1]
    exact setHalf_back before step.2 _ _

/-- A step of wrapping does not fail. -/
theorem exists_wrapStep (h : Whole before) :
    ∃ after, wrapStep (.ofPermutations permutation) key before step = .ok after ∧ Whole after := by
  have hsize : (before.a ++ before.half step.2).length = blockSize := by
    rw [List.length_append, h.1, length_half before step.2 h.2]
    rfl
  rcases exists_cryptBlock permutation true key _ hsize with ⟨encrypted, hencrypted⟩
  have hstep := (wrapStep_eq_ok _ key before _ step).mpr ⟨encrypted, hencrypted, rfl⟩
  exact ⟨_, hstep, (undoes_unwrapStep permutation key before step _ h hstep).1⟩

end Steps

/-! ### The operations -/

/-- The registers that wrapping starts with. -/
def plainRegisters (plainKey : Bytes) : Registers where
  a := defaultIntegrityValue
  r := (plainKey.take halfSize, plainKey.drop halfSize)

/-- The registers that unwrapping starts with. -/
def wrappedRegisters (wrappedKey : Bytes) : Registers where
  a := wrappedKey.take halfSize
  r := ((wrappedKey.drop halfSize).take halfSize, wrappedKey.drop (2 * halfSize))

theorem whole_plainRegisters (plainKey : Bytes) (h : plainKey.length = keySize) :
    Whole (plainRegisters plainKey) :=
  ⟨rfl, length_halves plainKey h⟩

theorem whole_wrappedRegisters (wrappedKey : Bytes) (h : wrappedKey.length = wrappedKeySize) :
    Whole (wrappedRegisters wrappedKey) := by
  have hsize : wrappedKey.length = 24 := h
  have hhalf : halfSize = 8 := rfl
  refine ⟨?_, ?_, ?_⟩
  · rw [wrappedRegisters, List.length_take]
    omega
  · rw [wrappedRegisters, List.length_take, List.length_drop]
    omega
  · rw [wrappedRegisters, List.length_drop]
    omega

/-- A key is made of its two halves, -/
theorem plainRegisters_append (registers : Registers) (h : Whole registers)
    (ha : registers.a = defaultIntegrityValue) :
    plainRegisters (registers.r.1 ++ registers.r.2) = registers := by
  rw [plainRegisters, List.take_left' h.2.1, List.drop_left' h.2.1, ← ha]

/-- and a wrapped key of the three registers. -/
theorem wrappedRegisters_append (registers : Registers) (h : Whole registers) :
    wrappedRegisters (registers.a ++ registers.r.1 ++ registers.r.2) = registers := by
  have hdouble : (registers.a ++ registers.r.1).length = 2 * halfSize := by
    rw [List.length_append, h.1, h.2.1]
    rfl
  rw [wrappedRegisters, List.drop_left' hdouble, List.append_assoc, List.take_left' h.1,
    List.drop_left' h.1, List.take_left' h.2.1]

theorem append_wrappedRegisters (wrappedKey : Bytes) :
    (wrappedRegisters wrappedKey).a ++ (wrappedRegisters wrappedKey).r.1 ++
      (wrappedRegisters wrappedKey).r.2 = wrappedKey := by
  have hdrop : wrappedKey.drop (2 * halfSize) = (wrappedKey.drop halfSize).drop halfSize := by
    rw [List.drop_drop]
    rfl
  rw [wrappedRegisters, hdrop, List.append_assoc, List.take_append_drop, List.take_append_drop]

theorem validateKeyWrapInput_eq_ok (key : SecurityKey) (input : Bytes) (expectedSize : Nat) :
    validateKeyWrapInput key input expectedSize = .ok () ↔
      validateSecurityKey .suite0 key = .ok () ∧ input.length = expectedSize := by
  unfold validateKeyWrapInput
  cases validateSecurityKey .suite0 key with
  | error status => simp
  | ok valid =>
      by_cases hsize : input.length = expectedSize
      · simp [hsize]
      · simp [hsize]

section Operations

variable (cipher : Aes128Block) (keyEncryptionKey : SecurityKey)

theorem wrap_eq_ok (plainKey wrappedKey : Bytes) :
    wrap cipher keyEncryptionKey plainKey = .ok wrappedKey ↔
      (validateSecurityKey .suite0 keyEncryptionKey = .ok () ∧ plainKey.length = keySize) ∧
        ∃ wrapped, steps.foldlM (wrapStep cipher keyEncryptionKey) (plainRegisters plainKey) =
            .ok wrapped ∧ wrapped.a ++ wrapped.r.1 ++ wrapped.r.2 = wrappedKey := by
  rw [← validateKeyWrapInput_eq_ok]
  unfold wrap plainRegisters
  cases validateKeyWrapInput keyEncryptionKey plainKey keySize with
  | error status => simp [bind, Except.bind]
  | ok valid =>
      simp only [bind, Except.bind, true_and]
      cases steps.foldlM (wrapStep cipher keyEncryptionKey)
          { a := defaultIntegrityValue, r := (plainKey.take halfSize, plainKey.drop halfSize) } with
      | error status => simp
      | ok wrapped => simp [pure, Except.pure]

theorem unwrap_eq_ok (plainKey wrappedKey : Bytes) :
    unwrap cipher keyEncryptionKey wrappedKey = .ok plainKey ↔
      (validateSecurityKey .suite0 keyEncryptionKey = .ok () ∧
        wrappedKey.length = wrappedKeySize) ∧
        ∃ unwrapped, steps.reverse.foldlM (unwrapStep cipher keyEncryptionKey)
            (wrappedRegisters wrappedKey) = .ok unwrapped ∧
          unwrapped.a = defaultIntegrityValue ∧ unwrapped.r.1 ++ unwrapped.r.2 = plainKey := by
  rw [← validateKeyWrapInput_eq_ok]
  unfold unwrap wrappedRegisters
  cases validateKeyWrapInput keyEncryptionKey wrappedKey wrappedKeySize with
  | error status => simp [bind, Except.bind]
  | ok valid =>
      simp only [bind, Except.bind, true_and]
      cases steps.reverse.foldlM (unwrapStep cipher keyEncryptionKey)
          { a := wrappedKey.take halfSize
            r := ((wrappedKey.drop halfSize).take halfSize, wrappedKey.drop (2 * halfSize)) } with
      | error status => simp
      | ok unwrapped =>
          simp only [Except.ok.injEq, exists_eq_left']
          by_cases hvalue : unwrapped.a = defaultIntegrityValue
          · simp [hvalue, pure, Except.pure]
          · simp [hvalue, throw, throwThe, MonadExceptOf.throw]

/-- The vector of the caller has what is given out, and nothing else. -/
def filled (outcome : Except SecurityStatus Bytes) : Except SecurityStatus Unit × Bytes :=
  match outcome with
  | .error status => (.error status, [])
  | .ok octets => (.ok (), octets)

theorem filled_eq_ok (outcome : Except SecurityStatus Bytes) (octets : Bytes) :
    filled outcome = (.ok (), octets) ↔ outcome = .ok octets := by
  cases outcome with
  | error status => simp [filled]
  | ok filling => simp [filled]

/-- What is refused leaves nothing in it. -/
theorem filled_refused (outcome : Except SecurityStatus Bytes) :
    (filled outcome).1 = .ok () ∨ (filled outcome).2 = [] := by
  cases outcome with
  | error status => exact Or.inr rfl
  | ok filling => exact Or.inl rfl

theorem wrapInto_eq (plainKey before : Bytes) :
    wrapInto cipher keyEncryptionKey plainKey before =
      filled (wrap cipher keyEncryptionKey plainKey) := by
  unfold wrapInto wrap cleared
  cases validateKeyWrapInput keyEncryptionKey plainKey keySize with
  | error status => rfl
  | ok valid =>
      simp only [bind, Except.bind]
      cases steps.foldlM (wrapStep cipher keyEncryptionKey)
          { a := defaultIntegrityValue, r := (plainKey.take halfSize, plainKey.drop halfSize) } with
      | error status => rfl
      | ok wrapped => rfl

theorem unwrapInto_eq (wrappedKey before : Bytes) :
    unwrapInto cipher keyEncryptionKey wrappedKey before =
      filled (unwrap cipher keyEncryptionKey wrappedKey) := by
  unfold unwrapInto unwrap cleared
  cases validateKeyWrapInput keyEncryptionKey wrappedKey wrappedKeySize with
  | error status => rfl
  | ok valid =>
      simp only [bind, Except.bind]
      cases steps.reverse.foldlM (unwrapStep cipher keyEncryptionKey)
          { a := wrappedKey.take halfSize
            r := ((wrappedKey.drop halfSize).take halfSize, wrappedKey.drop (2 * halfSize)) } with
      | error status => rfl
      | ok unwrapped =>
          by_cases hvalue : unwrapped.a = defaultIntegrityValue
          · simp [hvalue, pure, Except.pure, filled]
          · simp [hvalue, throw, throwThe, MonadExceptOf.throw, filled]

end Operations

section Permutations

variable (permutation : Bytes → Equiv.Perm Block) (keyEncryptionKey : SecurityKey)

/-- Unwrapping is the inverse of wrapping: it gives out the key that was wrapped, for what wrapping
    makes of it and for nothing else. -/
theorem unwrap_eq_ok_iff (plainKey wrappedKey : Bytes) :
    unwrap (.ofPermutations permutation) keyEncryptionKey wrappedKey = .ok plainKey ↔
      wrap (.ofPermutations permutation) keyEncryptionKey plainKey = .ok wrappedKey := by
  have hrun := Machine.run_iff Whole _ _ (undoes_unwrapStep permutation keyEncryptionKey)
    (undoes_wrapStep permutation keyEncryptionKey) steps
  rw [unwrap_eq_ok, wrap_eq_ok]
  constructor
  · rintro ⟨⟨hkey, hsize⟩, unwrapped, hunwrapped, hvalue, rfl⟩
    have hwhole := whole_wrappedRegisters wrappedKey hsize
    rcases (hrun unwrapped _).mpr ⟨hwhole, hunwrapped⟩ with ⟨hplain, hwrapped⟩
    refine ⟨⟨hkey, ?_⟩, wrappedRegisters wrappedKey, ?_, append_wrappedRegisters wrappedKey⟩
    · rw [List.length_append, hplain.2.1, hplain.2.2]
      rfl
    · rw [plainRegisters_append unwrapped hplain hvalue]
      exact hwrapped
  · rintro ⟨⟨hkey, hsize⟩, wrapped, hwrapped, rfl⟩
    have hwhole := whole_plainRegisters plainKey hsize
    rcases (hrun _ wrapped).mp ⟨hwhole, hwrapped⟩ with ⟨hafter, hunwrapped⟩
    refine ⟨⟨hkey, ?_⟩, plainRegisters plainKey, ?_, rfl, List.take_append_drop _ _⟩
    · rw [List.length_append, List.length_append, hafter.1, hafter.2.1, hafter.2.2]
      rfl
    · rw [wrappedRegisters_append wrapped hafter]
      exact hunwrapped

/-- A key of the right size is wrapped. -/
theorem exists_wrap (plainKey : Bytes)
    (hkey : validateSecurityKey .suite0 keyEncryptionKey = .ok ())
    (hsize : plainKey.length = keySize) :
    ∃ wrappedKey,
      wrap (.ofPermutations permutation) keyEncryptionKey plainKey = .ok wrappedKey := by
  rcases Machine.exists_run Whole _
    (fun before step h => exists_wrapStep permutation keyEncryptionKey before step h) steps _
    (whole_plainRegisters plainKey hsize) with ⟨wrapped, hwrapped, -⟩
  exact ⟨_, (wrap_eq_ok _ keyEncryptionKey plainKey _).mpr
    ⟨⟨hkey, hsize⟩, wrapped, hwrapped, rfl⟩⟩

/-- For any permutations of the blocks, a key is wrapped and unwrapped to itself exactly when it and
    the key-encryption key have their sizes; unwrapping gives a key out for the octets that
    wrapping makes of it and for no others; and what is refused leaves an empty vector, whatever
    the block cipher does. -/
theorem wrapInto_unwrapInto (plainKey wrappedKey before between : Bytes) :
    ((validateSecurityKey .suite0 keyEncryptionKey = .ok () ∧ plainKey.length = keySize) ↔
      ∃ wrapped,
        wrapInto (.ofPermutations permutation) keyEncryptionKey plainKey before =
          (.ok (), wrapped) ∧
        unwrapInto (.ofPermutations permutation) keyEncryptionKey wrapped between =
          (.ok (), plainKey)) ∧
    (unwrapInto (.ofPermutations permutation) keyEncryptionKey wrappedKey before =
        (.ok (), plainKey) ↔
      wrappedKey.length = wrappedKeySize ∧
        wrapInto (.ofPermutations permutation) keyEncryptionKey plainKey between =
          (.ok (), wrappedKey)) ∧
    ∀ cipher : Aes128Block,
      ((wrapInto cipher keyEncryptionKey plainKey before).1 = .ok () ∨
        (wrapInto cipher keyEncryptionKey plainKey before).2 = []) ∧
      ((unwrapInto cipher keyEncryptionKey wrappedKey before).1 = .ok () ∨
        (unwrapInto cipher keyEncryptionKey wrappedKey before).2 = []) := by
  refine ⟨?_, ?_, fun cipher => ⟨?_, ?_⟩⟩
  · simp only [wrapInto_eq, unwrapInto_eq, filled_eq_ok, unwrap_eq_ok_iff, and_self]
    constructor
    · rintro ⟨hkey, hsize⟩
      exact exists_wrap permutation keyEncryptionKey plainKey hkey hsize
    · rintro ⟨wrapped, hwrapped⟩
      exact ((wrap_eq_ok _ keyEncryptionKey plainKey wrapped).mp hwrapped).1
  · rw [wrapInto_eq, unwrapInto_eq, filled_eq_ok, filled_eq_ok, ← unwrap_eq_ok_iff]
    constructor
    · intro hunwrapped
      exact ⟨((unwrap_eq_ok _ keyEncryptionKey plainKey wrappedKey).mp hunwrapped).1.2, hunwrapped⟩
    · intro h
      exact h.2
  · rw [wrapInto_eq]
    exact filled_refused _
  · rw [unwrapInto_eq]
    exact filled_refused _

end Permutations

end Suite0KeyWrap

end Security

end Dlms
