import Dlms.Security.RoundTrip
import Dlms.Xdlms.Secured

/-!
# Two ciphered processors that talk to each other

A client and a server with the same keys, each of which has the title of the
other for its peer's. As long as no side runs out of counters, what one of them
protects the other unprotects: the mark of each side stays below the next
counter of the other, in both directions and in whatever order they talk.

The cipher is a library outside the source. That it seals whatever has a key
and a nonce of the right size is what the library documents; nothing else makes
protecting fail but the last counter.

## Main definitions

* `Aes128Gcm.Seals`: What the library documents.
* `Exhausted`: The last counter of its type is next.
* `Linked`: The contexts of the two sides, and the marks behind the counters.

## Theorems

* `protect_seals`: What is protected, and when.
* `carried_ciphered`: One message.
* `secureLink_ciphered`: The two processors are linked.
-/

namespace Dlms

namespace Security

open Apdu (Bytes)
open Xdlms (SecurityProcessor Carries SecureLink)

/-- The cipher seals under every key and nonce of its sizes, as long as the
    library's counters hold the sizes of what is sealed. -/
def Aes128Gcm.Seals (cipher : Aes128Gcm) : Prop :=
  ∀ key nonce aad plainText, key.length = requiredKeySize .suite0 →
    nonce.length = Suite0AesGcm.nonceSize → Suite0AesGcm.sizeFitsInt plainText.length = true →
      Suite0AesGcm.sizeFitsInt aad.length = true →
        ∃ cipherText tag, cipher.encrypt key nonce aad plainText = some (cipherText, tag)

namespace CipheredApduProcessor

/-- Nothing is left to protect with. -/
def Exhausted (state : CipheredApduState) : Prop :=
  state.context.policy ≠ .none ∧ state.counters.nextLocalCounter = 0xFFFFFFFF

/-- The two sides, each with its marks behind the counters of the other. -/
structure Linked (clientContext serverContext : SecurityContext)
    (client server : CipheredApduState) : Prop where
  ofClient : client.context = clientContext
  ofServer : server.context = serverContext
  requests : highWaterMark server.counters clientContext.localSystemTitle <
    client.counters.nextLocalCounter
  responses : highWaterMark client.counters serverContext.localSystemTitle <
    server.counters.nextLocalCounter

/-! ### Protecting -/

/-- A suite 0 key has sixteen bytes. -/
theorem size_of_getSuite0Key (keys : InMemoryKeyStore) (role : SecurityKeyRole)
    (key : SecurityKey) (h : getSuite0Key keys role = .ok key) :
    key.bytes.length = requiredKeySize .suite0 ∧ validateSecurityKey .suite0 key = .ok () := by
  unfold getSuite0Key at h
  cases hfound : keys.getKey role with
  | error status => simp [hfound, bind, Except.bind] at h
  | ok found =>
      cases hvalid : validateSecurityKey .suite0 found with
      | error status => simp [hfound, hvalid, bind, Except.bind] at h
      | ok valid =>
          simp only [hfound, hvalid, bind, Except.bind, pure, Except.pure, Except.ok.injEq] at h
          rw [← h]
          refine ⟨?_, hvalid⟩
          unfold validateSecurityKey at hvalid
          split_ifs at hvalid with hempty hsize
          exact not_not.mp hsize

theorem sizes_of_getKeys (keys : InMemoryKeyStore) (encryptionKey authenticationKey : SecurityKey)
    (h : getKeys keys = .ok (encryptionKey, authenticationKey)) :
    validateSecurityKey .suite0 encryptionKey = .ok () ∧
      encryptionKey.bytes.length = requiredKeySize .suite0 ∧
      authenticationKey.bytes.length = requiredKeySize .suite0 := by
  unfold getKeys at h
  cases hfirst : getSuite0Key keys .globalUnicastEncryption with
  | error status => simp [hfirst, bind, Except.bind] at h
  | ok first =>
      cases hsecond : getSuite0Key keys .authentication with
      | error status => simp [hfirst, hsecond, bind, Except.bind] at h
      | ok second =>
          simp only [hfirst, hsecond, bind, Except.bind, pure, Except.pure, Except.ok.injEq,
            Prod.mk.injEq] at h
          rcases h with ⟨rfl, rfl⟩
          rcases size_of_getSuite0Key keys _ _ hfirst with ⟨hsize, hvalid⟩
          exact ⟨hvalid, hsize, (size_of_getSuite0Key keys _ _ hsecond).1⟩

/-- The title of a valid context with a policy is valid. -/
theorem validTitle_of_context (context : SecurityContext)
    (hvalid : validateProcessorContext context = .ok ()) (hpolicy : context.policy ≠ .none) :
    isValidSystemTitle context.localSystemTitle = true := by
  cases htitle : isValidSystemTitle context.localSystemTitle with
  | true => rfl
  | false =>
      unfold validateProcessorContext validateSecurityContext at hvalid
      rw [htitle, if_neg hpolicy, Bool.not_false, Bool.true_or, if_pos rfl] at hvalid
      split_ifs at hvalid

variable (cipher : Aes128Gcm) (keys : InMemoryKeyStore)

/-- A message is sealed when it fits the library's counters. -/
theorem sealApdu_seals (hseals : cipher.Seals) (context : SecurityContext)
    (encryptionKey authenticationKey : SecurityKey) (invocationCounter : UInt32) (apdu : Bytes)
    (hvalid : validateProcessorContext context = .ok ()) (hpolicy : context.policy ≠ .none)
    (hkeys : getKeys keys = .ok (encryptionKey, authenticationKey))
    (hsize : Suite0AesGcm.sizeFitsInt apdu.length = true) :
    ∃ protectedApdu, sealApdu cipher context encryptionKey authenticationKey invocationCounter
      apdu = .ok protectedApdu := by
  rcases sizes_of_getKeys keys _ _ hkeys with ⟨hkey, hkeySize, hauthSize⟩
  have htitle := validTitle_of_context context hvalid hpolicy
  have hnonce : buildNonce context.localSystemTitle invocationCounter =
      .ok (context.localSystemTitle.bytes ++ writeBigEndian32 invocationCounter) := by
    unfold buildNonce
    rw [htitle, Bool.not_true, if_neg Bool.false_ne_true]
  have hnonceSize : (context.localSystemTitle.bytes ++
      writeBigEndian32 invocationCounter).length = Suite0AesGcm.nonceSize := by
    rw [List.length_append, context.localSystemTitle.size, writeBigEndian32, Codec.length_beBytes]
    rfl
  have haad : Suite0AesGcm.sizeFitsInt (buildAad (securityControlForPolicy context.policy)
      authenticationKey).length = true := by
    rw [buildAad, List.length_cons, hauthSize]
    rfl
  rcases hseals encryptionKey.bytes _ (buildAad (securityControlForPolicy context.policy)
    authenticationKey) apdu hkeySize hnonceSize hsize haad with ⟨cipherText, tag, hencrypt⟩
  have hinput : Suite0AesGcm.validateAesGcmInput encryptionKey
      { nonce := context.localSystemTitle.bytes ++ writeBigEndian32 invocationCounter
        additionalAuthenticatedData :=
          buildAad (securityControlForPolicy context.policy) authenticationKey
        input := apdu } = .ok () := by
    unfold Suite0AesGcm.validateAesGcmInput
    rw [hkey]
    dsimp only
    rw [if_neg (not_not.mpr hnonceSize)]
  unfold sealApdu Suite0AesGcm.sealInput
  simp only [hnonce, hinput, Suite0AesGcm.parametersFitInt, hsize, haad, hencrypt, bind,
    Except.bind, pure, Except.pure, Bool.and_self, Bool.not_true, Bool.false_eq_true, if_false]
  exact ⟨_, rfl⟩

/-- Protecting seals the message under the next counter, unless that is the
    last one. -/
theorem protect_seals (hseals : cipher.Seals) (apdu : Bytes) (state : CipheredApduState)
    (hvalid : validateProcessorContext state.context = .ok ())
    (hkeys : ∃ found, getKeys keys = .ok found)
    (hsize : Suite0AesGcm.sizeFitsInt apdu.length = true) :
    ((∃ status, protect cipher keys apdu state = (.error status, state)) ∧ Exhausted state) ∨
      ∃ protectedApdu after, protect cipher keys apdu state = (.ok protectedApdu, after) := by
  rcases hkeys with ⟨⟨encryptionKey, authenticationKey⟩, hkeys⟩
  unfold protect
  rw [hvalid]
  by_cases hpolicy : state.context.policy = .none
  · dsimp only
    rw [if_pos hpolicy]
    exact .inr ⟨_, _, rfl⟩
  · dsimp only
    rw [if_neg hpolicy, hkeys]
    dsimp only
    by_cases hlast : state.counters.nextLocalCounter = 0xFFFFFFFF
    · rw [InMemoryInvocationCounterStore.nextLocal, if_pos hlast]
      exact .inl ⟨⟨_, rfl⟩, hpolicy, hlast⟩
    · rw [InMemoryInvocationCounterStore.nextLocal, if_neg hlast]
      rcases sealApdu_seals cipher keys hseals state.context encryptionKey authenticationKey
        state.counters.nextLocalCounter apdu hvalid hpolicy hkeys hsize with
          ⟨protectedApdu, hsealed⟩
      dsimp only
      rw [hsealed]
      exact .inr ⟨_, _, rfl⟩

theorem protect_exhausted (apdu : Bytes) (state : CipheredApduState) (h : Exhausted state) :
    ∃ status, protect cipher keys apdu state = (.error status, state) := by
  rcases h with ⟨hpolicy, hlast⟩
  unfold protect
  cases validateProcessorContext state.context with
  | error status => exact ⟨_, rfl⟩
  | ok valid =>
      dsimp only
      rw [if_neg hpolicy]
      cases getKeys keys with
      | error status => exact ⟨_, rfl⟩
      | ok found =>
          dsimp only
          rw [InMemoryInvocationCounterStore.nextLocal, if_pos hlast]
          exact ⟨_, rfl⟩

theorem exhausted_unprotect (apdu : Bytes) (state : CipheredApduState) (h : Exhausted state) :
    Exhausted (unprotect cipher keys apdu state).2 := by
  rcases unprotect_frame cipher keys apdu state with ⟨hcontext, hnext, -⟩
  rw [Exhausted, hcontext, hnext]
  exact h

/-! ### One message -/

/-- A message that is not empty is carried to the other side, whose mark stays
    behind the sender's counter. -/
theorem carried_ciphered (hlawful : cipher.Lawful) (hseals : cipher.Seals)
    (hkeys : ∃ found, getKeys keys = .ok found) (apdu : Bytes)
    (sender receiver : CipheredApduState)
    (hmatching : MatchingContexts sender.context receiver.context)
    (hvalid : validateProcessorContext sender.context = .ok ())
    (hahead : highWaterMark receiver.counters sender.context.localSystemTitle <
      sender.counters.nextLocalCounter)
    (hnonempty : apdu ≠ []) (hsize : Suite0AesGcm.sizeFitsInt apdu.length = true) :
    ((∃ status, protect cipher keys apdu sender = (.error status, sender)) ∧ Exhausted sender) ∨
      ∃ protectedApdu after after',
        protect cipher keys apdu sender = (.ok protectedApdu, after) ∧
        unprotect cipher keys protectedApdu receiver = (.ok apdu, after') ∧
        highWaterMark after'.counters sender.context.localSystemTitle <
          after.counters.nextLocalCounter := by
  rcases protect_seals cipher keys hseals apdu sender hvalid hkeys hsize with
    hexhausted | ⟨protectedApdu, after, hprotect⟩
  · exact .inl hexhausted
  · have hok : (protect cipher keys apdu sender).1 = .ok protectedApdu := by rw [hprotect]
    have hopened : (unprotect cipher keys protectedApdu receiver).1 = .ok apdu := by
      by_cases hpolicy : sender.context.policy = .none
      · rw [unprotect_protect_none cipher keys sender receiver hmatching apdu protectedApdu hok
          hpolicy]
      · exact unprotect_protect cipher keys sender receiver hmatching apdu protectedApdu hok hpolicy
          hlawful hahead hnonempty
    have hinStep := inStep_transfer cipher keys sender.context receiver.context hmatching
      ⟨apdu, false⟩ ⟨sender, receiver⟩ ⟨rfl, rfl, hahead⟩
    simp only [transfer, hprotect, Bool.false_eq_true, if_false] at hinStep
    exact .inr ⟨protectedApdu, after, (unprotect cipher keys protectedApdu receiver).2, hprotect,
      Prod.ext hopened rfl, hinStep.ahead⟩

/-! ### The link -/

section Link

variable (clientContext serverContext : SecurityContext) (hlawful : cipher.Lawful)
  (hseals : cipher.Seals) (hkeys : ∃ found, getKeys keys = .ok found)
include hlawful hseals hkeys

omit hlawful hseals hkeys in
/-- Every APDU of the codec fits the library's counters. -/
theorem sizeFitsInt_of_apdu (apdu : Bytes) (h : apdu.length ≤ Apdu.apduBufferSize) :
    Suite0AesGcm.sizeFitsInt apdu.length = true := by
  have hbuffer : Apdu.apduBufferSize ≤ 2 ^ 31 - 1 := by decide
  exact decide_eq_true (Nat.le_trans h hbuffer)

theorem carries_requests (hvalid : validateProcessorContext clientContext = .ok ())
    (hmatching : MatchingContexts clientContext serverContext) :
    Carries (cipheredApduProcessor cipher keys) (cipheredApduProcessor cipher keys)
      (Linked clientContext serverContext) Exhausted where
  carried := by
    intro client server apdu hlinked hnonempty hfits
    rcases hlinked with ⟨rfl, rfl, hrequests, hresponses⟩
    rcases carried_ciphered cipher keys hlawful hseals hkeys apdu client server hmatching hvalid
      hrequests hnonempty (sizeFitsInt_of_apdu apdu hfits) with
        ⟨⟨status, hprotect⟩, hexhausted⟩ | ⟨protectedApdu, after, after', hprotect, hopened, hahead⟩
    · exact .inl ⟨status, client, hprotect, hexhausted⟩
    · rcases protect_frame cipher keys apdu client with ⟨hcontext, hmarks, -⟩
      rcases unprotect_frame cipher keys protectedApdu server with ⟨hcontext', hnext', -⟩
      rw [hprotect] at hcontext hmarks
      rw [hopened] at hcontext' hnext'
      refine .inr ⟨protectedApdu, after, after', hprotect, hopened, hcontext, hcontext', hahead, ?_⟩
      dsimp only at hmarks hnext'
      rw [highWaterMark, hmarks, hnext']
      exact hresponses
  spentProtect := fun state apdu hspent => by
    rcases protect_exhausted cipher keys apdu state hspent with ⟨status, hprotect⟩
    exact ⟨status, state, hprotect, hspent⟩
  spentUnprotect := fun state apdu hspent => exhausted_unprotect cipher keys apdu state hspent

omit hlawful hseals hkeys in
/-- The link has no direction. -/
theorem linked_comm (client server : CipheredApduState) :
    Linked clientContext serverContext client server ↔
      Linked serverContext clientContext server client :=
  ⟨fun h => ⟨h.ofServer, h.ofClient, h.responses, h.requests⟩,
    fun h => ⟨h.ofServer, h.ofClient, h.responses, h.requests⟩⟩

/-- Two processors that take each other for their peers are linked. -/
theorem secureLink_ciphered (hvalid : validateProcessorContext clientContext = .ok ())
    (hvalid' : validateProcessorContext serverContext = .ok ())
    (hmatching : MatchingContexts clientContext serverContext)
    (hmatching' : MatchingContexts serverContext clientContext) :
    SecureLink (cipheredApduProcessor cipher keys) (cipheredApduProcessor cipher keys)
      (Linked clientContext serverContext) Exhausted Exhausted where
  requests := carries_requests cipher keys clientContext serverContext hlawful hseals hkeys hvalid
    hmatching
  responses := by
    have hcarries := carries_requests cipher keys serverContext clientContext hlawful hseals hkeys
      hvalid' hmatching'
    refine ⟨fun server client apdu hlinked hnonempty hfits => ?_, hcarries.spentProtect,
      hcarries.spentUnprotect⟩
    rcases hcarries.carried server client apdu
      ((linked_comm clientContext serverContext client server).mp hlinked) hnonempty hfits with
        hspent | ⟨protectedApdu, after, after', hprotect, hopened, hafter⟩
    · exact .inl hspent
    · exact .inr ⟨protectedApdu, after, after', hprotect, hopened,
        (linked_comm clientContext serverContext after' after).mpr hafter⟩

end Link

end CipheredApduProcessor

end Security

end Dlms
