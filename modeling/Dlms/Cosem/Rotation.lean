import Dlms.Cosem.KeyTransfer
import Dlms.Machine.Run
import Dlms.Security.CipheredApduProcessor

/-!
# Keys that change while messages go out

Processors protect messages and objects transfer keys, in any order, all over
one key store and one store of counters in memory. A transfer starts the
counters again, whatever the role of its keys.

Under one encryption key the counters may start again only once. So no nonce is
used twice under a key as long as every transfer with a key in it leaves an
encryption key in the store that has protected nothing yet; a transfer of an
authentication key alone is enough to use one again.

## Main definitions

* `SharedStores`, `rotationStep`: The two stores and what may happen to them.
* `usedNonce`: The encryption key and the nonce of a call.
* `leavesUnusedKey`: A transfer leaves a key that has protected nothing.

## Theorems

* `globalKeyTransfer_inMemory`: What a transfer does to the stores in memory.
* `nodup_usedNonces`: The nonces of a run.
* `not_nodup_usedNonces`: A nonce that is used again.
-/

namespace Dlms

namespace Cosem

open Apdu (Bytes)
open Machine (Admits Transition run transition)
open Security (Aes128Block Aes128Gcm CipheredApduState InMemoryInvocationCounterStore
  InMemoryKeyStore SecurityContext SecurityKey SecurityStatus SystemTitle)
open Security.CipheredApduProcessor (getKeys invocationCounterOf protect
  validateProcessorContext)

/-- The stores that processors and objects share. -/
structure SharedStores where
  keys : InMemoryKeyStore
  counters : InMemoryInvocationCounterStore

/-- A call of a processor with a context of its own, or of an object with a suite
    of its own. -/
inductive RotationInput where
  | protect (context : SecurityContext) (plainApdu : Bytes)
  | globalKeyTransfer (securitySuite : UInt8) (input : Bytes)

/-- What the two calls return. -/
inductive RotationOutput where
  | protect (outcome : Except SecurityStatus Bytes)
  | globalKeyTransfer (outcome : Except CosemStatus Unit)

def sharedSetup (securitySuite : UInt8) :
    CosemSecuritySetupObject InMemoryKeyStore InMemoryInvocationCounterStore where
  securitySuite := securitySuite
  keyStore := some inMemoryKeyStore
  counterResetPolicy := some inMemoryResetPolicy

/-! ### A transfer in memory -/

section Transfer

variable (block : Aes128Block) (securitySuite : UInt8) (input : Bytes) (keys : InMemoryKeyStore)
  (counters : InMemoryInvocationCounterStore)

theorem lawful_inMemoryKeyStore :
    Machine.Calls.Lawful inMemoryKeyStore.setKey InMemoryKeyStore.keys install where
  succeeds := by
    intro key store after hset
    cases hstore : store.setKey key with
    | error status =>
        simp [inMemoryKeyStore, hstore] at hset
    | ok written =>
        simp only [inMemoryKeyStore, hstore, Prod.mk.injEq, true_and] at hset
        rw [← hset]
        exact InMemoryKeyStore.keys_setKey store written key hstore
  fails := by
    intro key store status after hset
    cases hstore : store.setKey key with
    | error status =>
        simp only [inMemoryKeyStore, hstore, Prod.mk.injEq] at hset
        rw [hset.2]
    | ok written =>
        simp [inMemoryKeyStore, hstore] at hset

/-- A transfer that is not accepted changes nothing; an accepted one puts all its
    keys into the store and starts the counters again, unless it has none. -/
theorem globalKeyTransfer_inMemory :
    (∃ status, acceptTransfer block (sharedSetup securitySuite) input keys = .error status ∧
        globalKeyTransfer block (sharedSetup securitySuite) input keys counters =
          (.error status, keys, counters)) ∨
      ∃ store transferred,
        acceptTransfer block (sharedSetup securitySuite) input keys = .ok (store, transferred) ∧
        (globalKeyTransfer block (sharedSetup securitySuite) input keys counters).2.1.keys =
          transferred.foldl install keys.keys ∧
        (globalKeyTransfer block (sharedSetup securitySuite) input keys counters).2.2 =
          transferred.foldl (fun counters _ => counters.resetAfterKeyRotation) counters := by
  unfold globalKeyTransfer
  rcases haccepted : acceptTransfer block (sharedSetup securitySuite) input keys with
    status | ⟨store, transferred⟩
  · exact .inl ⟨status, rfl, rfl⟩
  · refine .inr ⟨store, transferred, rfl, ?_⟩
    rcases acceptTransfer_eq_ok (sharedSetup securitySuite) block input keys _ _ haccepted with
      ⟨hstore, kek, hkeys⟩
    -- The keys are of the right size, so that the store refuses none of them.
    have hsame : inMemoryKeyStore = store := Option.some.inj hstore
    subst hsame
    have hsizes := length_of_transferredKeys block input kek transferred hkeys
    have hresets := Machine.Calls.callAll_of_granted (resetCall (sharedSetup securitySuite)) id _
      (lawful_resetCall (sharedSetup securitySuite) rfl) transferred counters
      (Machine.Calls.granted_eq_length _ _ _ fun _ _ _ => rfl)
    have hwrites := Machine.Calls.callAll_of_granted inMemoryKeyStore.setKey _ _
      lawful_inMemoryKeyStore transferred keys
      (Machine.Calls.granted_eq_length _ _ _ fun key hkey store => by
        have hsize := hsizes key hkey
        have hfits : ¬ (key.bytes.length = 0 ∨
            key.bytes.length > InMemoryKeyStore.maximumKeySize) := by
          rw [hsize]
          decide
        simp only [inMemoryKeyStore, InMemoryKeyStore.setKey, if_neg hfits])
    -- Each of the two loops of calls goes through to its end.
    simp only [resetCounters_eq]
    rcases hreset : Machine.Calls.callAll (resetCall (sharedSetup securitySuite)) transferred
      counters with ⟨outcome, countersAfter⟩
    rcases hwrite : Machine.Calls.callAll inMemoryKeyStore.setKey transferred keys with
      ⟨written, keysAfter⟩
    rw [hreset] at hresets
    rw [hwrite] at hwrites
    have hdone : outcome = .ok () := hresets.1
    have hwritten : written = .ok () := hwrites.1
    subst hdone hwritten
    exact ⟨hwrites.2, hresets.2⟩

end Transfer

/-! ### The nonces of a run -/

section Nonces

variable (gcm : Aes128Gcm) (block : Aes128Block)

def rotationStep (input : RotationInput) (stores : SharedStores) :
    RotationOutput × SharedStores :=
  match input with
  | .protect context plainApdu =>
      let (outcome, after) := protect gcm stores.keys plainApdu
        { context := context, counters := stores.counters }
      (.protect outcome, { stores with counters := after.counters })
  | .globalKeyTransfer securitySuite input =>
      let (outcome, keys, counters) :=
        globalKeyTransfer block (sharedSetup securitySuite) input stores.keys stores.counters
      (.globalKeyTransfer outcome, { keys := keys, counters := counters })

/-- What a call that comes to the cipher gives to it: an encryption key, a title
    and a counter. -/
def protectNonce (keys : InMemoryKeyStore) (state : CipheredApduState) :
    Option (Bytes × SystemTitle × UInt32) :=
  match validateProcessorContext state.context, getKeys keys, state.counters.nextLocal.1 with
  | .ok (), .ok (encryptionKey, _), .ok invocationCounter =>
      if state.context.policy = .none then none
      else some (encryptionKey.bytes, state.context.localSystemTitle, invocationCounter)
  | _, _, _ => none

/-- The encryption key and the nonce of a call in a run. -/
def usedNonce (t : Transition RotationInput RotationOutput SharedStores) :
    Option (Bytes × SystemTitle × UInt32) :=
  match t.input with
  | .protect context _ =>
      protectNonce t.before.keys { context := context, counters := t.before.counters }
  | .globalKeyTransfer _ _ => none

/-- An accepted transfer with a key in it leaves an encryption key that has
    protected nothing, or none. -/
def leavesUnusedKey (history : List (Transition RotationInput RotationOutput SharedStores))
    (stores : SharedStores) (input : RotationInput) : Bool :=
  match input with
  | .protect _ _ => true
  | .globalKeyTransfer securitySuite input =>
      match acceptTransfer block (sharedSetup securitySuite) input stores.keys with
      | .error _ => true
      | .ok (_, transferred) =>
          transferred.isEmpty ||
            match transferred.foldl install stores.keys.keys .globalUnicastEncryption with
            | none => true
            | some key => !(history.filterMap usedNonce).any fun used => used.1 == key.bytes

/-! ### What a call uses -/

theorem encryptionKey_of_getKeys (keys : InMemoryKeyStore)
    (encryptionKey authenticationKey : SecurityKey)
    (h : getKeys keys = .ok (encryptionKey, authenticationKey)) :
    keys.keys .globalUnicastEncryption = some encryptionKey := by
  unfold getKeys at h
  cases hencryption : Security.getSuite0Key keys .globalUnicastEncryption with
  | error status => simp [hencryption, bind, Except.bind] at h
  | ok found =>
      cases hauthentication : Security.getSuite0Key keys .authentication with
      | error status =>
          simp [hencryption, hauthentication, bind, Except.bind] at h
      | ok other =>
          simp only [hencryption, hauthentication, bind, Except.bind, pure, Except.pure,
            Except.ok.injEq, Prod.mk.injEq] at h
          rw [h.1] at hencryption
          unfold Security.getSuite0Key InMemoryKeyStore.getKey at hencryption
          cases hheld : keys.keys .globalUnicastEncryption with
          | none => simp [hheld, bind, Except.bind] at hencryption
          | some key =>
              simp only [hheld, bind, Except.bind, pure, Except.pure] at hencryption
              cases hvalid : Security.validateSecurityKey .suite0 key with
              | error status => simp [hvalid] at hencryption
              | ok valid =>
                  simp only [hvalid, Except.ok.injEq] at hencryption
                  rw [hencryption]

section Protect

variable (keys : InMemoryKeyStore) (state : CipheredApduState) (plainApdu : Bytes)

/-- A call spends no counter, or it comes to the cipher with the encryption key
    of the store and the next counter. -/
theorem protectNonce_cases :
    (protectNonce keys state = none ∧ (protect gcm keys plainApdu state).2 = state) ∨
      ∃ key, keys.keys .globalUnicastEncryption = some key ∧
        protectNonce keys state =
          some (key.bytes, state.context.localSystemTitle, state.counters.nextLocalCounter) ∧
        (protect gcm keys plainApdu state).2.counters.nextLocalCounter.toNat =
          state.counters.nextLocalCounter.toNat + 1 := by
  unfold protectNonce protect
  cases validateProcessorContext state.context with
  | error status => exact .inl ⟨rfl, rfl⟩
  | ok valid =>
      -- Without a policy the APDU goes out as it is, and no counter is taken.
      by_cases hpolicy : state.context.policy = .none
      · refine .inl ⟨?_, ?_⟩
        · simp only [hpolicy, if_true]
          split <;> rfl
        · simp [hpolicy]
      · simp only [hpolicy, if_false]
        cases hkeys : getKeys keys with
        | error status => exact .inl ⟨rfl, rfl⟩
        | ok found =>
            -- The counter is taken before the cipher is called, and is gone even if that fails.
            rcases state.counters.nextLocal_cases with ⟨status, hnext⟩ | ⟨after, hnext, hcount, -⟩
            · simp only [hnext]
              exact .inl ⟨trivial, trivial⟩
            · simp only [hnext]
              exact .inr ⟨found.1, encryptionKey_of_getKeys keys found.1 found.2 hkeys, rfl,
                hcount⟩

end Protect

/-! ### Every run -/

/-- No nonce was used twice, and those used under the present encryption key are
    below the next counter. -/
structure Fresh (history : List (Transition RotationInput RotationOutput SharedStores))
    (stores : SharedStores) : Prop where
  nodup : (history.filterMap usedNonce).Nodup
  below : ∀ used ∈ history.filterMap usedNonce, ∀ key,
    stores.keys.keys .globalUnicastEncryption = some key → used.1 = key.bytes →
      used.2.2 < stores.counters.nextLocalCounter

theorem fresh_protect (history : List (Transition RotationInput RotationOutput SharedStores))
    (stores : SharedStores) (context : SecurityContext) (plainApdu : Bytes)
    (h : Fresh history stores) :
    Fresh (history ++ [transition (rotationStep gcm block) (.protect context plainApdu) stores])
      (rotationStep gcm block (.protect context plainApdu) stores).2 := by
  rcases protectNonce_cases gcm stores.keys
    { context := context, counters := stores.counters } plainApdu with
    ⟨hnone, hsame⟩ | ⟨key, hkey, hnonce, hcount⟩
  · -- The call has not come to the cipher.
    have hused : usedNonce (transition (rotationStep gcm block) (.protect context plainApdu)
        stores) = none := hnone
    have hstores : (rotationStep gcm block (.protect context plainApdu) stores).2 = stores := by
      simp [rotationStep, hsame]
    rw [hstores]
    constructor
    · rw [List.filterMap_append, List.filterMap_cons_none hused, List.filterMap_nil,
        List.append_nil]
      exact h.nodup
    · rw [List.filterMap_append, List.filterMap_cons_none hused, List.filterMap_nil,
        List.append_nil]
      exact h.below
  · have hused : usedNonce (transition (rotationStep gcm block) (.protect context plainApdu)
        stores) = some (key.bytes, context.localSystemTitle,
          stores.counters.nextLocalCounter) := hnonce
    have hkeys : (rotationStep gcm block (.protect context plainApdu) stores).2.keys =
        stores.keys := rfl
    have hnext : stores.counters.nextLocalCounter <
        (rotationStep gcm block (.protect context plainApdu)
          stores).2.counters.nextLocalCounter := by
      rw [UInt32.lt_iff_toNat_lt]
      show _ < (protect gcm stores.keys plainApdu
        { context := context, counters := stores.counters }).2.counters.nextLocalCounter.toNat
      rw [hcount]
      exact Nat.lt_succ_self _
    have happend : (history ++ [transition (rotationStep gcm block)
        (.protect context plainApdu) stores]).filterMap usedNonce =
          history.filterMap usedNonce ++
            [(key.bytes, context.localSystemTitle, stores.counters.nextLocalCounter)] := by
      rw [List.filterMap_append, List.filterMap_cons_some hused, List.filterMap_nil]
    constructor
    · rw [happend, List.nodup_append]
      refine ⟨h.nodup, List.nodup_singleton _, ?_⟩
      intro used hold other hnew hequal
      rw [List.mem_singleton.mp hnew] at hequal
      have hlt := h.below used hold key hkey (by rw [hequal])
      rw [hequal] at hlt
      exact UInt32.lt_irrefl _ hlt
    · intro used hmem other hother hsame
      rw [happend] at hmem
      rw [hkeys] at hother
      rcases List.mem_append.mp hmem with hold | hnew
      · exact UInt32.lt_trans (h.below used hold other hother hsame) hnext
      · rw [List.mem_singleton.mp hnew]
        exact hnext

theorem fresh_globalKeyTransfer
    (history : List (Transition RotationInput RotationOutput SharedStores))
    (stores : SharedStores) (securitySuite : UInt8) (input : Bytes) (h : Fresh history stores)
    (hunused : leavesUnusedKey block history stores (.globalKeyTransfer securitySuite input) =
      true) :
    Fresh (history ++ [transition (rotationStep gcm block)
        (.globalKeyTransfer securitySuite input) stores])
      (rotationStep gcm block (.globalKeyTransfer securitySuite input) stores).2 := by
  have hnothing : (history ++ [transition (rotationStep gcm block)
      (.globalKeyTransfer securitySuite input) stores]).filterMap usedNonce =
        history.filterMap usedNonce := by
    rw [List.filterMap_append, List.filterMap_cons_none rfl, List.filterMap_nil, List.append_nil]
  refine ⟨by rw [hnothing]; exact h.nodup, ?_⟩
  rw [hnothing]
  unfold leavesUnusedKey at hunused
  rcases globalKeyTransfer_inMemory block securitySuite input stores.keys stores.counters with
    ⟨status, -, hrefused⟩ | ⟨store, transferred, haccepted, hkeys, hcounters⟩
  · have hstores : (rotationStep gcm block (.globalKeyTransfer securitySuite input) stores).2 =
        stores := by
      simp [rotationStep, hrefused]
    rw [hstores]
    exact h.below
  · intro used hused key hkey hsame
    simp only [rotationStep] at hkey ⊢
    rw [hkeys] at hkey
    rw [hcounters]
    simp only [haccepted, Bool.or_eq_true] at hunused
    rcases hunused with hempty | hnew
    · -- A transfer without keys changes nothing.
      rw [List.isEmpty_iff.mp hempty] at hkey ⊢
      exact h.below used hused key hkey hsame
    · -- The key has protected nothing, so nothing was used under it.
      rw [hkey] at hnew
      simp only [Bool.not_eq_true', List.any_eq_false, beq_iff_eq] at hnew
      exact absurd hsame (hnew used hused)

/-- When every transfer leaves a key that has protected nothing, no encryption
    key is used twice with one nonce. -/
theorem nodup_usedNonces (stores : SharedStores) (inputs : List RotationInput)
    (hallowed : Admits (rotationStep gcm block)
      (fun history stores input => leavesUnusedKey block history stores input = true) [] inputs
        stores) :
    ((run (rotationStep gcm block) inputs stores).filterMap usedNonce).Nodup := by
  have hfresh := Machine.holds_of_step (rotationStep gcm block) Fresh
    (fun history stores input => leavesUnusedKey block history stores input = true)
    (fun history stores input h hunused => by
      cases input with
      | protect context plainApdu =>
          exact fresh_protect gcm block history stores context plainApdu h
      | globalKeyTransfer securitySuite input =>
          exact fresh_globalKeyTransfer gcm block history stores securitySuite input h hunused)
    inputs stores
    { nodup := List.nodup_nil
      below := fun used hused => absurd hused List.not_mem_nil } hallowed
  exact hfresh.nodup

end Nonces

/-! ### A meter that changes its keys -/

def meterTitle : Bytes := [0x4D, 0x45, 0x54, 0x45, 0x52, 0x30, 0x30, 0x31]

def meterContext : SecurityContext where
  suite := .suite0
  policy := .authenticatedAndEncrypted
  role := .server
  clientSap := 1
  serverSap := 1
  localSystemTitle := .ofBytes meterTitle
  remoteSystemTitle := .ofBytes [0x43, 0x4C, 0x49, 0x45, 0x4E, 0x54, 0x30, 0x31]

def meterEncryptionKey : SecurityKey where
  role := .globalUnicastEncryption
  bytes := Codec.beBytes 16 0x303132333435363738393A3B3C3D3E3F

def meterAuthenticationKey : SecurityKey where
  role := .authentication
  bytes := Codec.beBytes 16 0xD0D1D2D3D4D5D6D7D8D9DADBDCDDDEDF

def meterStores : SharedStores where
  keys :=
    { keys := fun role =>
        match role with
        | .globalUnicastEncryption => some meterEncryptionKey
        | .authentication => some meterAuthenticationKey
        | .keyEncryption => some meterKek
        | _ => none }
  counters := {}

/-- The key of the transfers, which is wrapped alike for every role. -/
def transferredKey : Bytes := Codec.beBytes 16 0x101112131415161718191A1B1C1D1E1F

/-- A message of three octets that the meter has protected with its first
    counter. -/
def meterMessage (encryptionKey authenticationKey plainText : Bytes) (cipherText tag : Nat) :
    Security.AesGcmEntry where
  key := encryptionKey
  nonce := meterTitle ++ [0x00, 0x00, 0x00, 0x01]
  additionalAuthenticatedData := 0x30 :: authenticationKey
  plainText := plainText
  cipherText := Codec.beBytes 3 cipherText
  tag := Codec.beBytes 16 tag

def meterGcm : Aes128Gcm :=
  .ofTable
    [meterMessage meterEncryptionKey.bytes meterAuthenticationKey.bytes [0xC4, 0x01, 0x81]
        0xE30DEF 0x1F998EA5E54C4BABA4E8B3FB63D3BB2F,
      meterMessage meterEncryptionKey.bytes transferredKey [0xC4, 0x01, 0x82]
        0xE30DEC 0x24F0A0E0FDE4E7D042A1C4295B78CD51,
      meterMessage transferredKey meterAuthenticationKey.bytes [0xC4, 0x01, 0x82]
        0x41C2F6 0xAA69AADCE632D33404D9F809DB096A14]

/-- Two messages around a transfer. -/
def aroundTransfer (input : Bytes) : List RotationInput :=
  [.protect meterContext [0xC4, 0x01, 0x81], .globalKeyTransfer 0 input,
    .protect meterContext [0xC4, 0x01, 0x82]]

/-- After the transfer of an authentication key the meter protects a second
    message under the same encryption key with the first counter. -/
theorem not_nodup_usedNonces :
    ¬ ((run (rotationStep meterGcm meterBlocks) (aroundTransfer authenticationTransfer)
      meterStores).filterMap usedNonce).Nodup := by
  decide +kernel

/-- A transfer of the same key as encryption key. -/
def encryptionTransfer : Bytes := authenticationTransfer.set 5 0x00

/-- With a new encryption key the first counter comes again, under that key. -/
theorem nodup_usedNonces_encryptionTransfer :
    ((run (rotationStep meterGcm meterBlocks) (aroundTransfer encryptionTransfer)
      meterStores).filterMap usedNonce).Nodup :=
  nodup_usedNonces meterGcm meterBlocks meterStores (aroundTransfer encryptionTransfer)
    (by decide +kernel)

end Cosem

end Dlms
