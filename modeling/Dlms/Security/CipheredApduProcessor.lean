import Dlms.Security.Counters
import Dlms.Security.Suite0AesGcm
import Dlms.Xdlms.Types

/-!
# The ciphered APDU processor

A protected APDU is a control byte, the invocation counter, the cipher text and
the tag. The nonce is the sender's system title and the counter; the associated
data are the control byte and the authentication key.

Protecting takes the counter of its nonce from the store, so that the counters
of what one processor protects grow. Unprotecting accepts a counter only above
the mark of the peer's title and only after the tag is right, so that what one
processor has unprotected once it does not unprotect again. Both are stated
here over one store, as is all that a caller sees of the two operations.

## Main definitions

* `CipheredApduState`: The context and the counters.
* `cipheredApduProcessor`: The two operations as a security processor.
* `invocationCounterOf`: The counter in the header of a protected APDU.
* `Advances`: A later state of a processor.

## Theorems

* `protect_cases`, `unprotect_cases`: What the operations do.
* `protect_frame`, `unprotect_frame`: What they leave as it was.
* `protect_counter`: The counter a protected APDU was made with.
* `unprotect_mark`: The mark an accepted APDU was above, and leaves behind.
* `unprotect_twice`: No APDU is unprotected a second time.
* `advances_protect`, `advances_unprotect`: No counter goes back.
-/

namespace Dlms

namespace Security

open Apdu (Bytes)
open Xdlms (SecurityProcessor)

/-- The context of a processor, which its owner may change, and its counters. -/
structure CipheredApduState where
  context : SecurityContext
  counters : InMemoryInvocationCounterStore

namespace CipheredApduProcessor

def securityControlSize : Nat := 1

def invocationCounterSize : Nat := 4

def headerSize : Nat := securityControlSize + invocationCounterSize

def securityControlForPolicy (policy : SecurityPolicy) : UInt8 :=
  match policy with
  | .none => 0x00
  | .authenticated => 0x10
  | .encrypted => 0x20
  | .authenticatedAndEncrypted => 0x30

def isSupportedPolicy (policy : SecurityPolicy) : Bool :=
  policy == .none || policy == .authenticatedAndEncrypted

def validateProcessorContext (context : SecurityContext) : Except SecurityStatus Unit :=
  match validateSecurityContext context with
  | .error status => .error status
  | .ok () => if !isSupportedPolicy context.policy then .error .unsupportedFeature else .ok ()

def buildAad (securityControl : UInt8) (authenticationKey : SecurityKey) : Bytes :=
  securityControl :: authenticationKey.bytes

/-- The two keys of suite 0, the one that encrypts first. -/
def getKeys (keys : InMemoryKeyStore) : Except SecurityStatus (SecurityKey × SecurityKey) := do
  let encryptionKey ← getSuite0Key keys .globalUnicastEncryption
  let authenticationKey ← getSuite0Key keys .authentication
  pure (encryptionKey, authenticationKey)

variable (cipher : Aes128Gcm)

/-- Protect with a counter that is already taken. -/
def sealApdu (context : SecurityContext) (encryptionKey authenticationKey : SecurityKey)
    (invocationCounter : UInt32) (plainApdu : Bytes) : Except SecurityStatus Bytes := do
  let nonce ← buildNonce context.localSystemTitle invocationCounter
  let securityControl := securityControlForPolicy context.policy
  let (cipherText, tag) ← Suite0AesGcm.sealInput cipher encryptionKey
    { nonce := nonce
      additionalAuthenticatedData := buildAad securityControl authenticationKey
      input := plainApdu }
  pure (securityControl :: (writeBigEndian32 invocationCounter ++ cipherText ++ tag))

/-- Recover the plain text, whatever the counter. -/
def openApdu (context : SecurityContext) (encryptionKey authenticationKey : SecurityKey)
    (invocationCounter : UInt32) (protectedApdu : Bytes) : Except SecurityStatus Bytes := do
  let nonce ← buildNonce context.remoteSystemTitle invocationCounter
  let securityControl := securityControlForPolicy context.policy
  let body := protectedApdu.drop headerSize
  let cipherTextSize := body.length - Suite0AesGcm.tagSize
  Suite0AesGcm.openInput cipher encryptionKey
    { nonce := nonce
      additionalAuthenticatedData := buildAad securityControl authenticationKey
      input := body.take cipherTextSize }
    (body.drop cipherTextSize)

/-- The counter in the header of a protected APDU. -/
def invocationCounterOf (protectedApdu : Bytes) : UInt32 :=
  readBigEndian32 (protectedApdu.drop securityControlSize)

variable (keys : InMemoryKeyStore)

def protect (plainApdu : Bytes) (state : CipheredApduState) :
    Except SecurityStatus Bytes × CipheredApduState :=
  match validateProcessorContext state.context with
  | .error status => (.error status, state)
  | .ok () =>
      if state.context.policy = .none then
        (.ok plainApdu, state)
      else
        match getKeys keys with
        | .error status => (.error status, state)
        | .ok (encryptionKey, authenticationKey) =>
            match state.counters.nextLocal with
            | (.error status, counters) => (.error status, { state with counters := counters })
            | (.ok invocationCounter, counters) =>
                -- The counter is spent even when the cipher fails.
                (sealApdu cipher state.context encryptionKey authenticationKey
                    invocationCounter plainApdu,
                  { state with counters := counters })

def unprotect (protectedApdu : Bytes) (state : CipheredApduState) :
    Except SecurityStatus Bytes × CipheredApduState :=
  match validateProcessorContext state.context with
  | .error status => (.error status, state)
  | .ok () =>
      if state.context.policy = .none then
        (.ok protectedApdu, state)
      else if protectedApdu.length < headerSize + Suite0AesGcm.tagSize then
        (.error .invalidArgument, state)
      else if protectedApdu.head? ≠ some (securityControlForPolicy state.context.policy) then
        (.error .authenticationFailed, state)
      else
        match getKeys keys with
        | .error status => (.error status, state)
        | .ok (encryptionKey, authenticationKey) =>
            match openApdu cipher state.context encryptionKey authenticationKey
                (invocationCounterOf protectedApdu) protectedApdu with
            | .error status => (.error status, state)
            | .ok plainApdu =>
                -- The counter is looked at last, when the tag has proved right.
                match state.counters.validateRemoteForSystemTitle
                    state.context.remoteSystemTitle (invocationCounterOf protectedApdu) with
                | (.error status, counters) => (.error status, { state with counters := counters })
                | (.ok (), counters) => (.ok plainApdu, { state with counters := counters })

/-- The processor as the layers above see it. -/
def cipheredApduProcessor : SecurityProcessor CipheredApduState where
  protect := protect cipher keys
  unprotect := unprotect cipher keys

/-! ### Protecting -/

variable (apdu : Bytes) (state : CipheredApduState)

/-- Protecting passes an APDU through, or fails and changes nothing, or spends
    the next counter on it. -/
theorem protect_cases :
    (∃ out, protect cipher keys apdu state = (out, state) ∧
        (state.context.policy ≠ .none → ∃ status, out = .error status)) ∨
      ∃ encryptionKey authenticationKey after,
        protect cipher keys apdu state =
          (sealApdu cipher state.context encryptionKey authenticationKey
              state.counters.nextLocalCounter apdu,
            { state with counters := after }) ∧
        after.nextLocalCounter.toNat = state.counters.nextLocalCounter.toNat + 1 ∧
        after.highestRemoteBySystemTitle = state.counters.highestRemoteBySystemTitle := by
  unfold protect
  cases validateProcessorContext state.context with
  | error status => exact .inl ⟨_, rfl, fun _ => ⟨status, rfl⟩⟩
  | ok valid =>
      -- Nothing is ciphered without a policy.
      by_cases hpolicy : state.context.policy = .none
      · simp only [hpolicy, if_true]
        exact .inl ⟨_, rfl, fun h => absurd rfl h⟩
      · simp only [hpolicy, if_false]
        cases getKeys keys with
        | error status => exact .inl ⟨_, rfl, fun _ => ⟨status, rfl⟩⟩
        | ok found =>
            -- The counter is stored before the APDU is sealed.
            rcases state.counters.nextLocal_cases with ⟨status, h⟩ | ⟨after, h, hnext, hmarks⟩
            · simp only [h]
              exact .inl ⟨_, rfl, fun _ => ⟨status, rfl⟩⟩
            · simp only [h]
              exact .inr ⟨_, _, _, rfl, hnext, hmarks⟩

/-- Protecting leaves the context and the marks as they were, and the next
    counter does not go back. -/
theorem protect_frame :
    (protect cipher keys apdu state).2.context = state.context ∧
      (protect cipher keys apdu state).2.counters.highestRemoteBySystemTitle =
        state.counters.highestRemoteBySystemTitle ∧
      state.counters.nextLocalCounter ≤
        (protect cipher keys apdu state).2.counters.nextLocalCounter := by
  rcases protect_cases cipher keys apdu state with ⟨out, h, -⟩ | ⟨_, _, after, h, hnext, hmarks⟩
  · rw [h]
    exact ⟨rfl, rfl, UInt32.le_refl _⟩
  · rw [h]
    have hle : state.counters.nextLocalCounter ≤ after.nextLocalCounter := by
      rw [UInt32.le_iff_toNat_le]
      omega
    exact ⟨rfl, hmarks, hle⟩

/-- The header of a sealed APDU has the counter it was sealed with. -/
theorem invocationCounterOf_sealApdu (context : SecurityContext)
    (encryptionKey authenticationKey : SecurityKey) (invocationCounter : UInt32) (output : Bytes)
    (hsealed : sealApdu cipher context encryptionKey authenticationKey invocationCounter apdu =
      .ok output) : invocationCounterOf output = invocationCounter := by
  unfold sealApdu at hsealed
  cases hnonce : buildNonce context.localSystemTitle invocationCounter with
  | error status =>
      rw [hnonce] at hsealed
      exact absurd hsealed (by simp [bind, Except.bind])
  | ok nonce =>
      rw [hnonce] at hsealed
      cases hcipher : Suite0AesGcm.sealInput cipher encryptionKey
          { nonce := nonce
            additionalAuthenticatedData :=
              buildAad (securityControlForPolicy context.policy) authenticationKey
            input := apdu } with
      | error status =>
          simp [bind, Except.bind, hcipher] at hsealed
      | ok texts =>
          simp only [bind, Except.bind, hcipher, pure, Except.pure, Except.ok.injEq] at hsealed
          rw [← hsealed, invocationCounterOf, securityControlSize, List.drop_succ_cons,
            List.drop_zero, List.append_assoc, readBigEndian32_writeBigEndian32]

/-- What is protected has the next counter of the store, which is spent. -/
theorem protect_counter (output : Bytes) (hpolicy : state.context.policy ≠ .none)
    (hprotected : (protect cipher keys apdu state).1 = .ok output) :
    invocationCounterOf output = state.counters.nextLocalCounter ∧
      state.counters.nextLocalCounter <
        (protect cipher keys apdu state).2.counters.nextLocalCounter := by
  rcases protect_cases cipher keys apdu state with ⟨out, h, hfailed⟩ | ⟨_, _, after, h, hnext, -⟩
  · rw [h] at hprotected
    rcases hfailed hpolicy with ⟨status, hstatus⟩
    rw [hstatus] at hprotected
    cases hprotected
  · rw [h] at hprotected ⊢
    have hlt : state.counters.nextLocalCounter < after.nextLocalCounter := by
      rw [UInt32.lt_iff_toNat_lt]
      omega
    exact ⟨invocationCounterOf_sealApdu cipher apdu _ _ _ _ _ hprotected, hlt⟩

/-! ### Unprotecting -/

/-- Without a policy unprotecting has no counter to accept. -/
theorem unprotect_none (hpolicy : state.context.policy = .none) :
    (unprotect cipher keys apdu state).2 = state := by
  unfold unprotect
  cases validateProcessorContext state.context with
  | error status => rfl
  | ok valid => simp [hpolicy]

/-- Unprotecting passes an APDU through, or fails and changes nothing, or
    accepts a counter above the mark of the peer's title. -/
theorem unprotect_cases :
    (∃ out, unprotect cipher keys apdu state = (out, state) ∧
        (state.context.policy ≠ .none → ∃ status, out = .error status)) ∨
      ∃ plain, unprotect cipher keys apdu state =
          (.ok plain,
            { state with
              counters := state.counters.setMark state.context.remoteSystemTitle
                (invocationCounterOf apdu) }) ∧
        ∀ mark, state.counters.highestRemoteBySystemTitle state.context.remoteSystemTitle =
          some mark → mark < invocationCounterOf apdu := by
  -- Each check that fails comes before the mark is set.
  have hfails : ∀ status : SecurityStatus, state.context.policy ≠ .none →
      ∃ status', (.error status : Except SecurityStatus Bytes) = .error status' :=
    fun status _ => ⟨status, rfl⟩
  unfold unprotect
  cases validateProcessorContext state.context with
  | error status => exact .inl ⟨_, rfl, hfails status⟩
  | ok valid =>
      by_cases hpolicy : state.context.policy = .none
      · simp only [hpolicy, if_true]
        exact .inl ⟨_, rfl, fun h => absurd rfl h⟩
      · simp only [hpolicy, if_false]
        by_cases hsize : apdu.length < headerSize + Suite0AesGcm.tagSize
        · simp only [hsize, if_true]
          exact .inl ⟨_, rfl, fun _ => ⟨_, rfl⟩⟩
        · simp only [hsize, if_false]
          by_cases hcontrol : apdu.head? ≠ some (securityControlForPolicy state.context.policy)
          · rw [if_pos hcontrol]
            exact .inl ⟨_, rfl, hfails _⟩
          · rw [if_neg hcontrol]
            cases getKeys keys with
            | error status => exact .inl ⟨_, rfl, hfails status⟩
            | ok found =>
                simp only
                cases openApdu cipher state.context found.1 found.2 (invocationCounterOf apdu)
                    apdu with
                | error status => exact .inl ⟨_, rfl, hfails status⟩
                | ok plain =>
                    -- The counter is looked at last, when the tag has been found right.
                    rcases state.counters.validateRemote_cases state.context.remoteSystemTitle
                      (invocationCounterOf apdu) with ⟨status, h⟩ | ⟨h, hlarger⟩
                    · simp only [h]
                      exact .inl ⟨_, rfl, fun _ => ⟨status, rfl⟩⟩
                    · simp only [h]
                      exact .inr ⟨plain, rfl, hlarger⟩

/-- Unprotecting leaves the context and the next counter as they were, and no
    mark goes back. -/
theorem unprotect_frame :
    (unprotect cipher keys apdu state).2.context = state.context ∧
      (unprotect cipher keys apdu state).2.counters.nextLocalCounter =
        state.counters.nextLocalCounter ∧
      ∀ title mark, state.counters.highestRemoteBySystemTitle title = some mark →
        ∃ later, (unprotect cipher keys apdu state).2.counters.highestRemoteBySystemTitle title =
          some later ∧ mark ≤ later := by
  rcases unprotect_cases cipher keys apdu state with ⟨out, h, -⟩ | ⟨plain, h, hlarger⟩
  · rw [h]
    exact ⟨rfl, rfl, fun title mark hmark => ⟨mark, hmark, UInt32.le_refl mark⟩⟩
  · rw [h]
    exact ⟨rfl, rfl, fun title mark hmark =>
      state.counters.mark_le_setMark _ _ hlarger title mark hmark⟩

/-- What is unprotected had a counter above the mark of the peer's title, and
    is the mark now. -/
theorem unprotect_mark (plain : Bytes) (hpolicy : state.context.policy ≠ .none)
    (hunprotected : (unprotect cipher keys apdu state).1 = .ok plain) :
    (∀ mark, state.counters.highestRemoteBySystemTitle state.context.remoteSystemTitle =
        some mark → mark < invocationCounterOf apdu) ∧
      (unprotect cipher keys apdu state).2.counters.highestRemoteBySystemTitle
        state.context.remoteSystemTitle = some (invocationCounterOf apdu) := by
  rcases unprotect_cases cipher keys apdu state with ⟨out, h, hfailed⟩ | ⟨opened, h, hlarger⟩
  · rw [h] at hunprotected
    rcases hfailed hpolicy with ⟨status, hstatus⟩
    rw [hstatus] at hunprotected
    cases hunprotected
  · rw [h]
    exact ⟨hlarger, state.counters.mark_setMark _ _⟩

/-- Nothing is unprotected without a header and a tag. -/
theorem unprotect_nil (hpolicy : state.context.policy ≠ .none) :
    ∃ status, (unprotect cipher keys [] state).1 = .error status := by
  unfold unprotect
  cases validateProcessorContext state.context with
  | error status => exact ⟨status, rfl⟩
  | ok valid =>
      simp only [hpolicy, if_false]
      exact ⟨.invalidArgument, rfl⟩

/-- No APDU is unprotected right after it was looked at once, whatever came of
    that. -/
theorem unprotect_twice (hpolicy : state.context.policy ≠ .none) :
    ∃ status, (unprotect cipher keys apdu (unprotect cipher keys apdu state).2).1 =
      .error status := by
  rcases unprotect_cases cipher keys apdu state with ⟨out, h, hfailed⟩ | ⟨opened, h, hlarger⟩
  · -- Nothing has changed, so it fails as it did.
    rcases hfailed hpolicy with ⟨status, hstatus⟩
    rw [h]
    simp only
    rw [h]
    exact ⟨status, hstatus⟩
  · -- Its own counter is the mark now.
    rw [h]
    let marked : CipheredApduState :=
      { state with
        counters := state.counters.setMark state.context.remoteSystemTitle
          (invocationCounterOf apdu) }
    cases hagain : (unprotect cipher keys apdu marked).1 with
    | error status => exact ⟨status, rfl⟩
    | ok plain =>
        have habove := (unprotect_mark cipher keys apdu marked plain hpolicy hagain).1 _
          (state.counters.mark_setMark _ _)
        exact absurd habove (UInt32.lt_irrefl _)

/-! ### Later states -/

/-- A later state of a processor: the same policy and title of its own, and no
    counter back. -/
structure Advances (before after : CipheredApduState) : Prop where
  policy : after.context.policy = before.context.policy
  localSystemTitle : after.context.localSystemTitle = before.context.localSystemTitle
  next : before.counters.nextLocalCounter ≤ after.counters.nextLocalCounter
  marks : ∀ title mark, before.counters.highestRemoteBySystemTitle title = some mark →
    ∃ later, after.counters.highestRemoteBySystemTitle title = some later ∧ mark ≤ later

theorem Advances.refl : Advances state state where
  policy := rfl
  localSystemTitle := rfl
  next := UInt32.le_refl _
  marks := fun _ mark hmark => ⟨mark, hmark, UInt32.le_refl mark⟩

theorem Advances.trans (first second third : CipheredApduState) (h : Advances first second)
    (h' : Advances second third) : Advances first third where
  policy := h'.policy.trans h.policy
  localSystemTitle := h'.localSystemTitle.trans h.localSystemTitle
  next := UInt32.le_trans h.next h'.next
  marks := fun title mark hmark => by
    rcases h.marks title mark hmark with ⟨later, hlater, hle⟩
    rcases h'.marks title later hlater with ⟨last, hlast, hle'⟩
    exact ⟨last, hlast, UInt32.le_trans hle hle'⟩

theorem advances_protect : Advances state (protect cipher keys apdu state).2 := by
  rcases protect_frame cipher keys apdu state with ⟨hcontext, hmarks, hnext⟩
  refine ⟨by rw [hcontext], by rw [hcontext], hnext, ?_⟩
  intro title mark hmark
  rw [hmarks]
  exact ⟨mark, hmark, UInt32.le_refl mark⟩

theorem advances_unprotect : Advances state (unprotect cipher keys apdu state).2 := by
  rcases unprotect_frame cipher keys apdu state with ⟨hcontext, hnext, hmarks⟩
  refine ⟨by rw [hcontext], by rw [hcontext], ?_, hmarks⟩
  rw [hnext]
  exact UInt32.le_refl _

end CipheredApduProcessor

end Security

end Dlms
