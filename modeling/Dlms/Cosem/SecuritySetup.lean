import Dlms.Cosem.DataItems
import Dlms.Machine.Calls
import Dlms.Security.Counters
import Dlms.Security.Suite0KeyWrap

/-!
# The security setup object

The object through which a client changes the keys of a meter. The key store
and the policy that resets the counters are interfaces, either of which may be
missing; any call of theirs may fail.

A transfer reads the whole list of wrapped keys first, then resets the counters
once for each key, then puts the keys into the store.

## Main definitions

* `MutableKeyStore`, `InvocationCounterResetPolicy`: The interfaces.
* `CosemSecuritySetupObject`: The object.
* `transferredKeys`: The keys of a transfer.
* `globalKeyTransfer`: The method.

## Theorems

* `length_of_transferredKeys`: Every key of a transfer has the size of a key.
-/

namespace Dlms

namespace Cosem

open Apdu (Bytes)
open Machine.Calls (callAll)
open Security (Aes128Block SecurityKey SecurityKeyRole SecurityStatus)

/-! ### Sizes and codes -/

def suite0KeySize : Nat := 16

def suite0WrappedKeySize : Nat := 24

def mapSecuritySetupKeyId (keyId : UInt8) : Option SecurityKeyRole :=
  match keyId.toNat with
  | 0 => some .globalUnicastEncryption
  | 1 => some .globalBroadcastEncryption
  | 2 => some .authentication
  | 3 => some .keyEncryption
  | _ => none

def mapSecurityStatus (status : SecurityStatus) : CosemStatus :=
  match status with
  | .invalidArgument | .invalidKeyLength => .invalidArgument
  | .missingKey | .authenticationFailed => .accessDenied
  | .unsupportedFeature => .unsupportedFeature
  | _ => .objectError

/-! ### The object and what it uses -/

/-- A key store with states of its own. -/
structure MutableKeyStore (κ : Type) where
  getKey : SecurityKeyRole → κ → Except SecurityStatus SecurityKey
  setKey : SecurityKey → κ → Except SecurityStatus Unit × κ

/-- What resets the counters when a key of a role has changed. -/
structure InvocationCounterResetPolicy (γ : Type) where
  resetAfterKeyRotation : SecurityKeyRole → γ → Except SecurityStatus Unit × γ

/-- The counters in memory are a policy too: they start again, whatever the
    role. -/
def inMemoryResetPolicy :
    InvocationCounterResetPolicy Security.InMemoryInvocationCounterStore where
  resetAfterKeyRotation := fun _ counters => (.ok (), counters.resetAfterKeyRotation)

/-- The key store in memory. -/
def inMemoryKeyStore : MutableKeyStore Security.InMemoryKeyStore where
  getKey := fun role store => store.getKey role
  setKey := fun key store =>
    match store.setKey key with
    | .error status => (.error status, store)
    | .ok store => (.ok (), store)

/-- The object, over any key and counter store. -/
structure CosemSecuritySetupObject (κ γ : Type) where
  securitySuite : UInt8
  keyStore : Option (MutableKeyStore κ)
  counterResetPolicy : Option (InvocationCounterResetPolicy γ)

/-! ### The keys of a transfer -/

section Transfer

variable (cipher : Aes128Block) (input : Bytes) (kek : SecurityKey)

/-- The role in the structure at an offset, and the offset behind it. -/
def readTransferredRole (offset : Nat) : Except CosemStatus (SecurityKeyRole × Nat) :=
  if input.length - offset < 6 ∨ input[offset]? ≠ some structureTag then .error .invalidArgument
  else
    match readAxdrLength input (offset + 1) with
    | none => .error .invalidArgument
    | some (fieldCount, offset) =>
        if fieldCount ≠ 2 ∨ input.length - offset < 2 ∨ input[offset]? ≠ some enumTag then
          .error .invalidArgument
        else
          match (input[offset + 1]?).bind mapSecuritySetupKeyId with
          | none => .error .invalidArgument
          | some role => .ok (role, offset + 2)

/-- The key in the structure at an offset, and the offset behind it. -/
def readTransferredKey (offset : Nat) : Except CosemStatus (SecurityKey × Nat) := do
  let (role, offset) ← readTransferredRole input offset
  if input[offset]? ≠ some dataOctetStringTag then throw .invalidArgument
  match readAxdrLength input (offset + 1) with
  | none => .error .invalidArgument
  | some (wrappedSize, offset) =>
      if wrappedSize ≠ suite0WrappedKeySize ∨ input.length - offset < wrappedSize then
        .error .invalidArgument
      else
        let wrapped := (input.drop offset).take wrappedSize
        match Security.Suite0KeyWrap.unwrap cipher kek wrapped with
        | .error status => .error (mapSecurityStatus status)
        | .ok plain =>
            if plain.length ≠ suite0KeySize then .error .invalidArgument
            else .ok ({ role := role, bytes := plain }, offset + wrappedSize)

def readTransferredKeys : Nat → Nat → Except CosemStatus (List SecurityKey × Nat)
  | 0, offset => .ok ([], offset)
  | count + 1, offset => do
      let (key, offset) ← readTransferredKey cipher input kek offset
      let (keys, offset) ← readTransferredKeys count offset
      return (key :: keys, offset)

/-- The keys of a transfer, which is one array and nothing behind it. -/
def transferredKeys : Except CosemStatus (List SecurityKey) := do
  if input.length < 2 ∨ input[0]? ≠ some arrayTag then throw .invalidArgument
  match readAxdrLength input 1 with
  | none => .error .invalidArgument
  | some (count, offset) => do
      let (keys, offset) ← readTransferredKeys cipher input kek count offset
      if offset ≠ input.length then throw .invalidArgument
      return keys

end Transfer

/-! ### The method -/

section Method

variable {κ γ : Type} (cipher : Aes128Block) (object : CosemSecuritySetupObject κ γ) (input : Bytes)

/-- What a transfer finds before it changes anything: the store and the keys. -/
def acceptTransfer (keys : κ) : Except CosemStatus (MutableKeyStore κ × List SecurityKey) :=
  match object.keyStore with
  | none => .error .unsupportedFeature
  | some store =>
      if object.securitySuite ≠ 0 then .error .unsupportedFeature
      else
        match store.getKey .keyEncryption keys with
        | .error status => .error (mapSecurityStatus status)
        | .ok kek => (transferredKeys cipher input kek).map fun transferred => (store, transferred)

/-- The counters are reset for every key; without a policy they stay. -/
def resetCounters (transferred : List SecurityKey) (counters : γ) :
    Except SecurityStatus Unit × γ :=
  match object.counterResetPolicy with
  | none => (.ok (), counters)
  | some policy =>
      callAll (fun key => policy.resetAfterKeyRotation key.role) transferred counters

/-- The second method: new keys for a meter. -/
def globalKeyTransfer (keys : κ) (counters : γ) : Except CosemStatus Unit × κ × γ :=
  match acceptTransfer cipher object input keys with
  | .error status => (.error status, keys, counters)
  | .ok (store, transferred) =>
      match resetCounters object transferred counters with
      | (.error status, counters) => (.error (mapSecurityStatus status), keys, counters)
      | (.ok (), counters) =>
          match callAll store.setKey transferred keys with
          | (.error status, keys) => (.error (mapSecurityStatus status), keys, counters)
          | (.ok (), keys) => (.ok (), keys, counters)

end Method

/-! ### What the method does -/

section Keys

variable (cipher : Aes128Block) (input : Bytes) (kek : SecurityKey)

/-- A key that is read has the size of a key. -/
theorem length_of_readTransferredKey (offset after : Nat) (key : SecurityKey)
    (h : readTransferredKey cipher input kek offset = .ok (key, after)) :
    key.bytes.length = suite0KeySize := by
  unfold readTransferredKey at h
  rcases hrole : readTransferredRole input offset with status | ⟨role, behind⟩
  · rw [hrole] at h
    exact absurd h (by simp [bind, Except.bind])
  · rw [hrole] at h
    simp only [bind, Except.bind, throw, throwThe, MonadExceptOf.throw] at h
    by_cases htag : input[behind]? ≠ some dataOctetStringTag
    · simp [if_pos htag] at h
    · simp only [if_neg htag] at h
      cases hsize : readAxdrLength input (behind + 1) with
      | none => simp [hsize] at h
      | some found =>
          simp only [hsize] at h
          split_ifs at h with hwrapped
          cases hplain : Security.Suite0KeyWrap.unwrap cipher kek
              ((input.drop found.2).take found.1) with
          | error status => simp [hplain] at h
          | ok plain =>
              simp only [hplain] at h
              split_ifs at h with hlength
              rw [← (Prod.mk.inj (Except.ok.inj h)).1]
              exact not_not.mp hlength

theorem length_of_readTransferredKeys (count offset after : Nat) (keys : List SecurityKey)
    (h : readTransferredKeys cipher input kek count offset = .ok (keys, after)) :
    ∀ key ∈ keys, key.bytes.length = suite0KeySize := by
  induction count generalizing offset after keys with
  | zero =>
      rw [readTransferredKeys, Except.ok.injEq, Prod.mk.injEq] at h
      rw [← h.1]
      intro key hkey
      exact absurd hkey List.not_mem_nil
  | succ count ih =>
      unfold readTransferredKeys at h
      rcases hfirst : readTransferredKey cipher input kek offset with status | ⟨first, behind⟩
      · rw [hfirst] at h
        exact absurd h (by simp [bind, Except.bind])
      · rcases hrest : readTransferredKeys cipher input kek count behind with
          status | ⟨rest, last⟩
        · simp [hfirst, hrest, bind, Except.bind] at h
        · simp only [hfirst, hrest, bind, Except.bind, pure, Except.pure, Except.ok.injEq,
            Prod.mk.injEq] at h
          rw [← h.1]
          intro key hkey
          rcases List.mem_cons.mp hkey with rfl | hkey
          · exact length_of_readTransferredKey cipher input kek offset behind key hfirst
          · exact ih behind last rest hrest key hkey

/-- Every key of a transfer has the size of a key. -/
theorem length_of_transferredKeys (keys : List SecurityKey)
    (h : transferredKeys cipher input kek = .ok keys) :
    ∀ key ∈ keys, key.bytes.length = suite0KeySize := by
  unfold transferredKeys at h
  simp only [bind, Except.bind, pure, Except.pure, throw, throwThe, MonadExceptOf.throw] at h
  by_cases hstart : input.length < 2 ∨ input[0]? ≠ some arrayTag
  · simp only [if_pos hstart, reduceCtorEq] at h
  · simp only [if_neg hstart] at h
    cases hcount : readAxdrLength input 1 with
    | none => simp [hcount] at h
    | some found =>
        simp only [hcount] at h
        rcases hkeys : readTransferredKeys cipher input kek found.1 found.2 with
          status | ⟨read, last⟩
        · simp [hkeys] at h
        · simp only [hkeys] at h
          split_ifs at h with hend
          rw [← Except.ok.inj h]
          exact length_of_readTransferredKeys cipher input kek _ _ _ _ hkeys

end Keys

end Cosem

end Dlms
