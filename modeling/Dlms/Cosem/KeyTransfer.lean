import Mathlib.Data.List.Induction
import Dlms.Cosem.SecuritySetup

/-!
# Transfers that fail half-way

A transfer makes two calls for each key, first all resets of the counters, then
all writes of the keys, and a call of either may fail. What was done before
stays done. So a transfer is all or nothing exactly when no call fails, or when
those before the one that fails had nothing to change.

The interfaces are taken at their word: a call that succeeds does what it says
and one that fails does nothing. A reset that succeeds may do to the counters
what it likes.

## Main definitions

* `install`: What a write does to the keys a store holds.
* `lastFor`: The key for a role that stands last in a list.
* `AllOrNothing`: What a transfer should be.
* `RefusedInTime`: No call fails after something has changed.

## Theorems

* `allOrNothing_iff`: When a transfer is all or nothing.
* `not_allOrNothing`: A transfer after which the counters start again and the
  key is the old one.
-/

namespace Dlms

namespace Cosem

open Apdu (Bytes)
open Machine.Calls (Lawful callAll granted)
open Security (Aes128Block InMemoryInvocationCounterStore InMemoryKeyStore SecurityKey
  SecurityKeyRole SecurityStatus)

/-- A key takes the place of its role. -/
def install (held : SecurityKeyRole → Option SecurityKey) (key : SecurityKey) :
    SecurityKeyRole → Option SecurityKey :=
  fun role => if role = key.role then some key else held role

/-- The key for a role that stands last in a list. -/
def lastFor (keys : List SecurityKey) (role : SecurityKeyRole) : Option SecurityKey :=
  keys.reverse.find? fun key => decide (role = key.role)

/-- Of the keys for one role the last one stays. -/
theorem foldl_install (keys : List SecurityKey) (held : SecurityKeyRole → Option SecurityKey)
    (role : SecurityKeyRole) :
    keys.foldl install held role = (lastFor keys role).or (held role) := by
  -- The last key decides, so the induction is on the list from its end.
  induction keys using List.reverseRecOn with
  | nil => rfl
  | append_singleton keys last ih =>
      rw [List.foldl_append, List.foldl_cons, List.foldl_nil]
      by_cases hrole : role = last.role
      · simp [install, lastFor, hrole, Option.some_or]
      · simp only [install, lastFor, hrole, if_false, List.reverse_append, List.reverse_cons,
          List.reverse_nil, List.nil_append, List.cons_append, List.find?_cons, decide_false]
        exact ih

/-- Nothing changes when the last key for each role is the one that is held. -/
theorem foldl_install_eq_iff (keys : List SecurityKey)
    (held : SecurityKeyRole → Option SecurityKey) :
    keys.foldl install held = held ↔
      ∀ role key, lastFor keys role = some key → held role = some key := by
  constructor
  · intro hsame role key hlast
    rw [← hsame, foldl_install, hlast, Option.some_or]
  · intro hheld
    funext role
    rw [foldl_install]
    cases hlast : lastFor keys role with
    | none => rw [Option.none_or]
    | some key => rw [Option.some_or, hheld role key hlast]

section Transfer

variable {κ γ : Type} (object : CosemSecuritySetupObject κ γ)

/-- A reset for one key; without a policy it is nothing. -/
def resetCall (key : SecurityKey) (counters : γ) : Except SecurityStatus Unit × γ :=
  match object.counterResetPolicy with
  | none => (.ok (), counters)
  | some policy => policy.resetAfterKeyRotation key.role counters

theorem resetCounters_eq (transferred : List SecurityKey) (counters : γ) :
    resetCounters object transferred counters =
      callAll (resetCall object) transferred counters := by
  unfold resetCounters
  cases hpolicy : object.counterResetPolicy with
  | none =>
      induction transferred with
      | nil => rfl
      | cons key rest ih =>
          simp only [callAll, resetCall, hpolicy]
          exact ih
  | some policy =>
      have hcall : resetCall object = fun key => policy.resetAfterKeyRotation key.role := by
        funext key state
        rw [resetCall, hpolicy]
      rw [hcall]

variable (cipher : Aes128Block) (input : Bytes) {C : Type}
  (held : κ → SecurityKeyRole → Option SecurityKey) (view : γ → C)
  (reset : C → SecurityKey → C) (keys : κ) (counters : γ)

/-- A transfer that fails leaves keys and counters as they were, and after one
    that succeeds the last key given for each role is held for it. -/
def AllOrNothing : Prop :=
  match globalKeyTransfer cipher object input keys counters with
  | (.error _, keysAfter, countersAfter) =>
      held keysAfter = held keys ∧ view countersAfter = view counters
  | (.ok (), keysAfter, _) =>
      ∀ store transferred, acceptTransfer cipher object input keys = .ok (store, transferred) →
        ∀ role key, lastFor transferred role = some key → held keysAfter role = some key

/-- Of the calls an accepted transfer makes none fails, or those before the one
    that fails change nothing: the resets before it leave the counters as they
    are, and the keys written before it are held already. -/
def RefusedInTime : Prop :=
  ∀ store transferred, acceptTransfer cipher object input keys = .ok (store, transferred) →
    let resets := granted (resetCall object) transferred counters
    let writes := granted store.setKey transferred keys
    (resets = transferred.length ∧ writes = transferred.length) ∨
      (transferred.take resets).foldl reset (view counters) = view counters ∧
        (resets = transferred.length → ∀ role key,
          lastFor (transferred.take writes) role = some key → held keys role = some key)

/-- What is accepted comes from the store of the object, and from a key of it. -/
theorem acceptTransfer_eq_ok (store : MutableKeyStore κ) (transferred : List SecurityKey)
    (h : acceptTransfer cipher object input keys = .ok (store, transferred)) :
    object.keyStore = some store ∧
      ∃ kek, transferredKeys cipher input kek = .ok transferred := by
  unfold acceptTransfer at h
  cases hstore : object.keyStore with
  | none =>
      rw [hstore] at h
      cases h
  | some found =>
      simp only [hstore] at h
      split_ifs at h with hsuite
      cases hkek : found.getKey .keyEncryption keys with
      | error status => simp [hkek] at h
      | ok kek =>
          simp only [hkek] at h
          cases hkeys : transferredKeys cipher input kek with
          | error status => simp [hkeys, Except.map] at h
          | ok read =>
              simp only [hkeys, Except.map, Except.ok.injEq, Prod.mk.injEq] at h
              exact ⟨by rw [h.1], kek, by rw [hkeys, h.2]⟩

/-- When a transfer is all or nothing. -/
theorem allOrNothing_iff
    (hstore : ∀ store ∈ object.keyStore, Lawful store.setKey held install)
    (hpolicy : Lawful (resetCall object) view reset) :
    AllOrNothing object cipher input held view keys counters ↔
      RefusedInTime object cipher input held view reset keys counters := by
  unfold AllOrNothing RefusedInTime globalKeyTransfer
  rcases haccepted : acceptTransfer cipher object input keys with status | ⟨store, transferred⟩
  · -- What is not accepted changes nothing.
    refine iff_of_true ⟨rfl, rfl⟩ ?_
    intro store transferred h
    cases h
  · have hlawful := hstore store (acceptTransfer_eq_ok object cipher input keys _ _ haccepted).1
    have hcounters := Machine.Calls.view_callAll (resetCall object) view reset hpolicy
      transferred counters
    have hkeys := Machine.Calls.view_callAll store.setKey held install hlawful transferred keys
    have hresets := Machine.Calls.callAll_eq_ok_iff (resetCall object) transferred counters
    have hwrites := Machine.Calls.callAll_eq_ok_iff store.setKey transferred keys
    have hforall : ∀ P : MutableKeyStore κ → List SecurityKey → Prop,
        (∀ other given, (.ok (store, transferred) : Except CosemStatus _) = .ok (other, given) →
          P other given) ↔ P store transferred := by
      intro P
      refine ⟨fun h => h _ _ rfl, ?_⟩
      intro h other given hsame
      rcases Prod.mk.inj (Except.ok.inj hsame) with ⟨rfl, rfl⟩
      exact h
    simp only [resetCounters_eq]
    rw [hforall]
    rcases hreset : callAll (resetCall object) transferred counters with ⟨outcome, countersAfter⟩
    rw [hreset] at hcounters hresets
    cases outcome with
    | error status =>
        -- A reset has failed, so no key was written.
        have hfew : ¬ granted (resetCall object) transferred counters = transferred.length :=
          fun h => absurd (hresets.mpr h) nofun
        simp only [hfew, false_and, false_or, false_implies, and_true, ← hcounters]
        exact ⟨fun h => h.2, fun h => ⟨trivial, h⟩⟩
    | ok done =>
        have hall := hresets.mp rfl
        rcases hwrite : callAll store.setKey transferred keys with ⟨outcome, keysAfter⟩
        rw [hwrite] at hkeys hwrites
        simp only [hall, true_and, true_implies]
        cases outcome with
        | error status =>
            have hfew : ¬ granted store.setKey transferred keys = transferred.length :=
              fun h => absurd (hwrites.mpr h) nofun
            rw [hall] at hcounters
            simp only [hfew, false_or, hcounters, hkeys, foldl_install_eq_iff]
            exact and_comm
        | ok written =>
            have hwritten := hwrites.mp rfl
            rw [hwritten, List.take_length] at hkeys
            refine iff_of_true ?_ (.inl hwritten)
            simp only [hforall]
            intro role key hlast
            rw [hkeys, foldl_install, hlast, Option.some_or]

end Transfer

/-! ### A meter whose memory wears out -/

/-- A key store that takes only so many writes. -/
structure WornKeyStore where
  store : InMemoryKeyStore
  writes : Nat

def wornKeyStore : MutableKeyStore WornKeyStore where
  getKey := fun role worn => worn.store.getKey role
  setKey := fun key worn =>
    match worn.writes with
    | 0 => (.error .internalError, worn)
    | writes + 1 =>
        match worn.store.setKey key with
        | .error status => (.error status, worn)
        | .ok store => (.ok (), { store := store, writes := writes })

theorem lawful_wornKeyStore :
    Lawful wornKeyStore.setKey (fun worn => worn.store.keys) install where
  succeeds := by
    intro key worn after hset
    cases hwrites : worn.writes with
    -- A store that is worn out refuses, and one that is not does what a fresh one does.
    | zero => simp [wornKeyStore, hwrites] at hset
    | succ writes =>
        cases hstore : worn.store.setKey key with
        | error status =>
            simp only [wornKeyStore, hwrites, hstore, Prod.mk.injEq, reduceCtorEq, false_and]
              at hset
        | ok store =>
            simp only [wornKeyStore, hwrites, hstore, Prod.mk.injEq, true_and] at hset
            rw [← hset]
            exact InMemoryKeyStore.keys_setKey worn.store store key hstore
  fails := by
    intro key worn status after hset
    cases hwrites : worn.writes with
    | zero =>
        simp only [wornKeyStore, hwrites, Prod.mk.injEq] at hset
        rw [hset.2]
    | succ writes =>
        cases hstore : worn.store.setKey key with
        | error status =>
            simp only [wornKeyStore, hwrites, hstore, Prod.mk.injEq] at hset
            rw [hset.2]
        | ok store =>
            simp only [wornKeyStore, hwrites, hstore, Prod.mk.injEq, reduceCtorEq, false_and]
              at hset

/-- The counters in memory never refuse to start again. -/
theorem lawful_resetCall {κ : Type}
    (object : CosemSecuritySetupObject κ InMemoryInvocationCounterStore)
    (hpolicy : object.counterResetPolicy = some inMemoryResetPolicy) :
    Lawful (resetCall object) id (fun counters _ => counters.resetAfterKeyRotation) := by
  have hcall : resetCall object =
      fun _ counters => (.ok (), counters.resetAfterKeyRotation) := by
    funext key counters
    rw [resetCall, hpolicy]
    rfl
  rw [hcall]
  exact {
    succeeds := fun _ _ _ hreset => (Prod.mk.inj hreset).2.symm
    fails := fun _ _ _ _ hreset => absurd (Prod.mk.inj hreset).1
      (by simp) }

def wornSetup : CosemSecuritySetupObject WornKeyStore InMemoryInvocationCounterStore where
  securitySuite := 0
  keyStore := some wornKeyStore
  counterResetPolicy := some inMemoryResetPolicy

def meterKek : SecurityKey where
  role := .keyEncryption
  bytes := Codec.beBytes 16 0x000102030405060708090A0B0C0D0E0F

/-- A block that the key-encryption key has encrypted. -/
def wrapBlock (plain encrypted : Nat) : Security.AesBlockEntry where
  key := meterKek.bytes
  plain := Codec.beBytes 16 plain
  encrypted := Codec.beBytes 16 encrypted

/-- The blocks of the wrap of one key. -/
def meterBlocks : Aes128Block :=
  .ofTable
    [wrapBlock 0xA6A6A6A6A6A6A6A61011121314151617
        0x007FB67C15D893F35650F0117BCC58EA,
      wrapBlock 0x007FB67C15D893F218191A1B1C1D1E1F
        0xF7AE5AD6F3A015A6FF300C78BBF7D3EA,
      wrapBlock 0xF7AE5AD6F3A015A45650F0117BCC58EA
        0xC40BAE20EC9B37D162744A773984E6D0,
      wrapBlock 0xC40BAE20EC9B37D2FF300C78BBF7D3EA
        0x0FB488A8F7AD27888B9CED0D59B790E6,
      wrapBlock 0x0FB488A8F7AD278C62744A773984E6D0
        0x00461009C84A0532774816A614B67F11,
      wrapBlock 0x00461009C84A05378B9CED0D59B790E6
        0xA76F831218D2603460F62D5758D0BC4E,
      wrapBlock 0xA76F831218D26032774816A614B67F11
        0x51C6506D8E38E92243B27C48F8EE678B,
      wrapBlock 0x51C6506D8E38E92560F62D5758D0BC4E
        0xC30F455D3B17E0082C09B61D41D23070,
      wrapBlock 0xC30F455D3B17E00043B27C48F8EE678B
        0xCB2A55DD5035CFF71860FFF4A660DF1E,
      wrapBlock 0xCB2A55DD5035CFFE2C09B61D41D23070
        0xE60EF87FC54BEAC5C07B8F3572684FA4,
      wrapBlock 0xE60EF87FC54BEACF1860FFF4A660DF1E
        0x1D599E4D41AB9267285ED544D551141A,
      wrapBlock 0x1D599E4D41AB926CC07B8F3572684FA4
        0xFB8CBD940CD8085BD7D56FDC5F9A0170]

/-- A transfer of an authentication key alone. -/
def authenticationTransfer : Bytes :=
  [0x01, 0x01, 0x02, 0x02, 0x16, 0x02, 0x09, 0x18] ++
    Codec.beBytes 24 0xFB8CBD940CD80857285ED544D551141AD7D56FDC5F9A0170

def wornKeys (writes : Nat) : WornKeyStore where
  store := ⟨fun role => if role = .keyEncryption then some meterKek else none⟩
  writes := writes

def usedCounters : InMemoryInvocationCounterStore where
  nextLocalCounter := 10

/-- The memory takes no key any more, but the counters start again. -/
theorem not_allOrNothing :
    ¬ AllOrNothing wornSetup meterBlocks authenticationTransfer (fun worn => worn.store.keys) id
      (wornKeys 0) usedCounters := by
  have hfailed : (globalKeyTransfer meterBlocks wornSetup authenticationTransfer (wornKeys 0)
      usedCounters).1 = .error .objectError := by decide +kernel
  have hnext : (globalKeyTransfer meterBlocks wornSetup authenticationTransfer (wornKeys 0)
      usedCounters).2.2.nextLocalCounter = 1 := by decide +kernel
  unfold AllOrNothing
  generalize globalKeyTransfer meterBlocks wornSetup authenticationTransfer (wornKeys 0)
    usedCounters = result at hfailed hnext
  rcases result with ⟨outcome, keys, counters⟩
  simp only at hfailed hnext
  subst hfailed
  intro hsame
  have hcounters : counters = usedCounters := hsame.2
  rw [hcounters] at hnext
  exact absurd hnext (by decide)

/-- While the memory takes one more key, the transfer goes through. -/
theorem allOrNothing_iff_unworn :
    AllOrNothing wornSetup meterBlocks authenticationTransfer (fun worn => worn.store.keys) id
      (wornKeys 1) usedCounters := by
  have hkeys : (acceptTransfer meterBlocks wornSetup authenticationTransfer (wornKeys 1)).map
      (fun accepted => accepted.2) =
        .ok [{ role := .authentication
               bytes := Codec.beBytes 16 0x101112131415161718191A1B1C1D1E1F }] := by
    decide +kernel
  refine (allOrNothing_iff wornSetup meterBlocks authenticationTransfer
    (fun worn => worn.store.keys) id (fun counters _ => counters.resetAfterKeyRotation)
    (wornKeys 1) usedCounters ?_ (lawful_resetCall wornSetup rfl)).mpr ?_
  · intro store hstore
    rw [← Option.some.inj (Option.mem_def.mp hstore)]
    exact lawful_wornKeyStore
  · intro store transferred haccepted
    rw [haccepted] at hkeys
    have hstore := acceptTransfer_eq_ok wornSetup meterBlocks authenticationTransfer (wornKeys 1)
      store transferred haccepted
    rw [← Option.some.inj hstore.1]
    have htransferred := Except.ok.inj hkeys
    simp only at htransferred
    rw [htransferred]
    exact .inl (by decide +kernel)

end Cosem

end Dlms
