import Dlms.Machine.Run
import Dlms.Security.CipheredApduProcessor

/-!
# Protecting and unprotecting over a lossy channel

Two processors with the same keys, where the one that receives takes the title
of the one that sends for its peer. What the sender protects either gets lost
or is unprotected next. The receiver's mark stays below the sender's next
counter, however much is lost in between, so no counter is ever refused; and the
two sides build one nonce and one set of associated data, so the cipher opens
what it has sealed.

One kind of message is an exception. An empty plain text is sealed as a cipher
text of as many bytes as there are associated data, since that is the last
count the library has given, and what is not the cipher text that was
authenticated does not open as an empty plain text. The receiver's state does
not change then, so the messages after it are not affected.

## Main definitions

* `MatchingContexts`: The contexts of the two sides.
* `transfer`: One message from one side to the other, or lost.
* `RoundTrips`: Every message that was protected and not lost comes back.

## Theorems

* `openApdu_sealApdu`, `unprotect_protect`: What the receiver makes of a message.
* `returned_iff`: In every run the messages that come back are the ones that
  are not empty, and all of them when nothing is ciphered.
* `not_roundTrips`: An empty message does not come back.
-/

namespace Dlms

namespace Security

open Apdu (Bytes)
open Machine (run transition final invariant_run mem_run)

namespace CipheredApduProcessor

/-- The contexts of two sides that talk to each other: one policy, the title
    of the sender is the peer of the receiver, and both are valid or neither
    is. -/
structure MatchingContexts (sender receiver : SecurityContext) : Prop where
  policy : receiver.policy = sender.policy
  title : receiver.remoteSystemTitle = sender.localSystemTitle
  valid : validateProcessorContext sender = .ok () → validateProcessorContext receiver = .ok ()

/-- The context of the other side. -/
def mirrored (context : SecurityContext) (role : SecurityRole) : SecurityContext :=
  { context with
    role := role
    localSystemTitle := context.remoteSystemTitle
    remoteSystemTitle := context.localSystemTitle }

theorem matchingContexts_mirrored (context : SecurityContext) (role : SecurityRole) :
    MatchingContexts context (mirrored context role) where
  policy := rfl
  title := rfl
  valid := by
    intro hvalid
    -- The check of the titles does not care which is whose.
    have htitles : (!isValidSystemTitle context.remoteSystemTitle ||
        !isValidSystemTitle context.localSystemTitle) =
          (!isValidSystemTitle context.localSystemTitle ||
            !isValidSystemTitle context.remoteSystemTitle) := Bool.or_comm _ _
    have hcontext : validateSecurityContext (mirrored context role) =
        validateSecurityContext context := by
      simp [validateSecurityContext, mirrored, htitles]
    rw [← hvalid]
    unfold validateProcessorContext
    rw [hcontext]
    rfl

/-- The highest counter a store has accepted from a title, zero at first. -/
def highWaterMark (counters : InMemoryInvocationCounterStore) (title : SystemTitle) : UInt32 :=
  (counters.highestRemoteBySystemTitle title).getD 0

/-- A message, and whether it gets lost on the way. -/
structure Message where
  plainApdu : Bytes
  lost : Bool
  deriving DecidableEq, Repr

/-- What the sender has made of a message, and what the receiver has made of
    that, when it came to it. -/
structure TransferOutcome where
  protectedApdu : Except SecurityStatus Bytes
  returned : Option (Except SecurityStatus Bytes)
  deriving DecidableEq

/-- What the two ends keep. -/
structure TransferState where
  sender : CipheredApduState
  receiver : CipheredApduState

variable (cipher : Aes128Gcm) (keys : InMemoryKeyStore)

/-- Protect a message, and unprotect it unless it gets lost. -/
def transfer (message : Message) (state : TransferState) : TransferOutcome × TransferState :=
  match protect cipher keys message.plainApdu state.sender with
  | (.error status, sender) => (⟨.error status, none⟩, { state with sender := sender })
  | (.ok protectedApdu, sender) =>
      if message.lost then
        (⟨.ok protectedApdu, none⟩, { state with sender := sender })
      else
        let out := unprotect cipher keys protectedApdu state.receiver
        (⟨.ok protectedApdu, some out.1⟩, { sender := sender, receiver := out.2 })

/-- Every message that was protected and not lost comes back as it was. -/
def RoundTrips (messages : List Message) (state : TransferState) : Prop :=
  ∀ t ∈ run (transfer cipher keys) messages state, ∀ protectedApdu,
    t.output.protectedApdu = .ok protectedApdu → t.input.lost = false →
      t.output.returned = some (.ok t.input.plainApdu)

/-! ### One message -/

section Sealed

variable (context : SecurityContext) (encryptionKey authenticationKey : SecurityKey)
  (invocationCounter : UInt32) (plainApdu protectedApdu : Bytes)

/-- The parts of a sealed APDU. -/
theorem sealApdu_parts
    (hsealed : sealApdu cipher context encryptionKey authenticationKey invocationCounter plainApdu =
      .ok protectedApdu) :
    ∃ nonce cipherText tag,
      buildNonce context.localSystemTitle invocationCounter = .ok nonce ∧
      Suite0AesGcm.sealInput cipher encryptionKey
        { nonce := nonce
          additionalAuthenticatedData :=
            buildAad (securityControlForPolicy context.policy) authenticationKey
          input := plainApdu } = .ok (cipherText, tag) ∧
      protectedApdu = securityControlForPolicy context.policy ::
        (writeBigEndian32 invocationCounter ++ cipherText ++ tag) := by
  unfold sealApdu at hsealed
  -- A failure of either part is the failure of the whole.
  cases hnonce : buildNonce context.localSystemTitle invocationCounter with
  | error status =>
      rw [hnonce] at hsealed
      exact absurd hsealed (by simp [bind, Except.bind])
  | ok nonce =>
      rw [hnonce] at hsealed
      cases hcipher : Suite0AesGcm.sealInput cipher encryptionKey
          { nonce := nonce
            additionalAuthenticatedData :=
              buildAad (securityControlForPolicy context.policy) authenticationKey
            input := plainApdu } with
      | error status => simp [bind, Except.bind, hcipher] at hsealed
      | ok texts =>
          simp only [bind, Except.bind, hcipher, pure, Except.pure, Except.ok.injEq] at hsealed
          exact ⟨nonce, texts.1, texts.2, rfl, hcipher, hsealed.symm⟩

/-- What the receiver reads out of a sealed APDU. -/
theorem openApdu_sealApdu (receiver : SecurityContext)
    (hpolicy : receiver.policy = context.policy)
    (htitle : receiver.remoteSystemTitle = context.localSystemTitle)
    (nonce cipherText tag : Bytes)
    (hnonce : buildNonce context.localSystemTitle invocationCounter = .ok nonce)
    (htag : tag.length = Suite0AesGcm.tagSize)
    (hparts : protectedApdu = securityControlForPolicy context.policy ::
      (writeBigEndian32 invocationCounter ++ cipherText ++ tag)) :
    openApdu cipher receiver encryptionKey authenticationKey invocationCounter protectedApdu =
      Suite0AesGcm.openInput cipher encryptionKey
        { nonce := nonce
          additionalAuthenticatedData :=
            buildAad (securityControlForPolicy context.policy) authenticationKey
          input := cipherText } tag := by
  have hcounter : (writeBigEndian32 invocationCounter).length = 4 := Codec.length_beBytes 4 _
  have hbody : protectedApdu.drop headerSize = cipherText ++ tag := by
    rw [hparts, headerSize, securityControlSize, invocationCounterSize, Nat.add_comm,
      List.drop_succ_cons, List.append_assoc]
    exact List.drop_left' hcounter
  have hsize : (cipherText ++ tag).length - Suite0AesGcm.tagSize = cipherText.length := by
    rw [List.length_append, htag]
    omega
  unfold openApdu
  rw [htitle, hnonce, hpolicy]
  simp only [bind, Except.bind, hbody, hsize, List.take_left, List.drop_left]

/-- A sealed APDU has room for a header and a tag, and starts with the control
    byte of its policy. -/
theorem header_of_sealApdu (cipherText tag : Bytes) (htag : tag.length = Suite0AesGcm.tagSize)
    (hparts : protectedApdu = securityControlForPolicy context.policy ::
      (writeBigEndian32 invocationCounter ++ cipherText ++ tag)) :
    ¬ protectedApdu.length < headerSize + Suite0AesGcm.tagSize ∧
      protectedApdu.head? = some (securityControlForPolicy context.policy) := by
  have hcounter : (writeBigEndian32 invocationCounter).length = 4 := Codec.length_beBytes 4 _
  constructor
  · rw [hparts, List.length_cons, List.length_append, List.length_append, hcounter, htag,
      headerSize, securityControlSize, invocationCounterSize]
    omega
  · rw [hparts, List.head?_cons]

end Sealed

/-- A tag fills its array, whatever was sealed. -/
theorem length_tag_of_sealInput (hlawful : cipher.Lawful) (key : SecurityKey)
    (parameters : AesGcmParameters) (cipherText tag : Bytes)
    (hsealed : Suite0AesGcm.sealInput cipher key parameters = .ok (cipherText, tag)) :
    tag.length = Suite0AesGcm.tagSize ∧
      (parameters.input = [] →
        cipherText = List.replicate parameters.additionalAuthenticatedData.length 0) := by
  unfold Suite0AesGcm.sealInput at hsealed
  cases hvalid : Suite0AesGcm.validateAesGcmInput key parameters with
  | error status => simp [hvalid] at hsealed
  | ok valid =>
      simp only [hvalid] at hsealed
      by_cases hfit : (!Suite0AesGcm.parametersFitInt parameters) = true
      · simp [hfit] at hsealed
      · simp only [hfit, Bool.false_eq_true, if_false] at hsealed
        cases hencrypted : cipher.encrypt key.bytes parameters.nonce
            parameters.additionalAuthenticatedData parameters.input with
        | none => simp [hencrypted] at hsealed
        | some texts =>
            simp only [hencrypted, Except.ok.injEq, Prod.mk.injEq] at hsealed
            rcases hsealed with ⟨hcipherText, htag⟩
            refine ⟨?_, ?_⟩
            · rw [← htag]
              exact (hlawful.encryptLength _ _ _ _ _ _ hencrypted).2
            · intro hempty
              rw [← hcipherText, Suite0AesGcm.sizedOutput, if_pos hempty]

/-- What it takes to protect an APDU: a valid context, and a ciphered one spends
    a counter that is not the last of its type. -/
theorem protect_eq_ok (plainApdu protectedApdu : Bytes) (sender : CipheredApduState)
    (hprotected : (protect cipher keys plainApdu sender).1 = .ok protectedApdu) :
    validateProcessorContext sender.context = .ok () ∧
      (sender.context.policy = .none →
        protectedApdu = plainApdu ∧ (protect cipher keys plainApdu sender).2 = sender) ∧
      (sender.context.policy ≠ .none → ∃ encryptionKey authenticationKey,
        getKeys keys = .ok (encryptionKey, authenticationKey) ∧
        sealApdu cipher sender.context encryptionKey authenticationKey
          sender.counters.nextLocalCounter plainApdu = .ok protectedApdu) := by
  unfold protect at hprotected ⊢
  cases hvalid : validateProcessorContext sender.context with
  | error status => simp [hvalid] at hprotected
  | ok valid =>
      refine ⟨rfl, ?_, ?_⟩
      · intro hpolicy
        simp only [hvalid, hpolicy, if_true, Except.ok.injEq] at hprotected ⊢
        exact ⟨hprotected.symm, trivial⟩
      · intro hpolicy
        simp only [hvalid, hpolicy, if_false] at hprotected
        cases hkeys : getKeys keys with
        | error status => simp [hkeys] at hprotected
        | ok found =>
            simp only [hkeys] at hprotected
            -- The last counter of its type is refused, and nothing is sealed with it.
            rcases sender.counters.nextLocal_cases with ⟨status, h⟩ | ⟨after, h, -, -⟩
            · simp [h] at hprotected
            · simp only [h] at hprotected
              exact ⟨found.1, found.2, rfl, hprotected⟩

section Matching

variable (sender receiver : CipheredApduState)
  (hmatching : MatchingContexts sender.context receiver.context)
  (plainApdu protectedApdu : Bytes)
  (hprotected : (protect cipher keys plainApdu sender).1 = .ok protectedApdu)
include hmatching hprotected

/-- Without a policy both sides pass the message through. -/
theorem unprotect_protect_none (hpolicy : sender.context.policy = .none) :
    unprotect cipher keys protectedApdu receiver = (.ok plainApdu, receiver) := by
  rcases protect_eq_ok cipher keys plainApdu protectedApdu sender hprotected with
    ⟨hvalid, hnone, -⟩
  have hreceiver := hmatching.policy.trans hpolicy
  unfold unprotect
  simp [hmatching.valid hvalid, hreceiver, (hnone hpolicy).1]

variable (hpolicy : sender.context.policy ≠ .none)
include hpolicy

variable (hlawful : cipher.Lawful)
include hlawful

/-- An empty message does not come back. -/
theorem unprotect_protect_nil (hplain : plainApdu = []) :
    (unprotect cipher keys protectedApdu receiver).1 ≠ .ok [] := by
  rcases protect_eq_ok cipher keys plainApdu protectedApdu sender hprotected with
    ⟨hvalid, -, hciphered⟩
  rcases hciphered hpolicy with ⟨encryptionKey, authenticationKey, hkeys, hsealed⟩
  have hcounter := (protect_counter cipher keys plainApdu sender protectedApdu hpolicy
    hprotected).1
  rcases sealApdu_parts cipher sender.context encryptionKey authenticationKey _ plainApdu
    protectedApdu hsealed with ⟨nonce, cipherText, tag, hnonce, hinput, hparts⟩
  rcases length_tag_of_sealInput cipher hlawful encryptionKey _ cipherText tag hinput with
    ⟨htag, hsized⟩
  rcases header_of_sealApdu sender.context _ protectedApdu cipherText tag htag hparts with
    ⟨hsize, hhead⟩
  have hopen := openApdu_sealApdu cipher sender.context encryptionKey authenticationKey _
    protectedApdu receiver.context hmatching.policy hmatching.title nonce cipherText tag hnonce
    htag hparts
  -- The cipher text stands for the associated data, of which there is a byte at least.
  have hnonempty : cipherText ≠ [] := by
    rw [hsized hplain]
    simp [buildAad, List.replicate_succ]
  intro hreturned
  unfold unprotect at hreturned
  rw [hmatching.valid hvalid] at hreturned
  simp only [hpolicy, if_false, hsize, hkeys, hcounter, hopen, hhead, hmatching.policy, ne_eq,
    not_true_eq_false] at hreturned
  cases hopened : Suite0AesGcm.openInput cipher encryptionKey
      { nonce := nonce
        additionalAuthenticatedData :=
          buildAad (securityControlForPolicy sender.context.policy) authenticationKey
        input := cipherText } tag with
  | error status => simp [hopened] at hreturned
  | ok opened =>
      have hne := Suite0AesGcm.ne_nil_of_openInput cipher hlawful encryptionKey _ tag opened
        hnonempty hopened
      simp only [hopened] at hreturned
      rcases receiver.counters.validateRemote_cases receiver.context.remoteSystemTitle
        sender.counters.nextLocalCounter with ⟨status, h⟩ | ⟨h, -⟩
      · simp [h] at hreturned
      · simp only [h, Except.ok.injEq] at hreturned
        exact hne hreturned

variable (hahead : highWaterMark receiver.counters sender.context.localSystemTitle <
  sender.counters.nextLocalCounter)
include hahead

/-- A message that is not empty comes back, and its counter is the mark then. -/
theorem unprotect_protect (hplain : plainApdu ≠ []) :
    (unprotect cipher keys protectedApdu receiver).1 = .ok plainApdu := by
  rcases protect_eq_ok cipher keys plainApdu protectedApdu sender hprotected with
    ⟨hvalid, -, hciphered⟩
  rcases hciphered hpolicy with ⟨encryptionKey, authenticationKey, hkeys, hsealed⟩
  have hcounter := (protect_counter cipher keys plainApdu sender protectedApdu hpolicy
    hprotected).1
  rcases sealApdu_parts cipher sender.context encryptionKey authenticationKey _ plainApdu
    protectedApdu hsealed with ⟨nonce, cipherText, tag, hnonce, hinput, hparts⟩
  rcases Suite0AesGcm.openInput_sealInput cipher hlawful encryptionKey _ cipherText tag hplain
    hinput with ⟨hopened, htag⟩
  rcases header_of_sealApdu sender.context _ protectedApdu cipherText tag htag hparts with
    ⟨hsize, hhead⟩
  have hopen := openApdu_sealApdu cipher sender.context encryptionKey authenticationKey _
    protectedApdu receiver.context hmatching.policy hmatching.title nonce cipherText tag hnonce
    htag hparts
  rw [hopened] at hopen
  -- The sender's counter is above the mark, so it is accepted.
  have haccepted : receiver.counters.validateRemoteForSystemTitle
      receiver.context.remoteSystemTitle sender.counters.nextLocalCounter =
        (.ok (), receiver.counters.setMark receiver.context.remoteSystemTitle
          sender.counters.nextLocalCounter) := by
    have hnonzero : sender.counters.nextLocalCounter ≠ 0 := by
      intro hzero
      rw [hzero] at hahead
      exact absurd hahead UInt32.not_lt_zero
    unfold InMemoryInvocationCounterStore.validateRemoteForSystemTitle
    rw [if_neg hnonzero, hmatching.title]
    cases hmark : receiver.counters.highestRemoteBySystemTitle
        sender.context.localSystemTitle with
    | none => rfl
    | some mark =>
        have habove : mark < sender.counters.nextLocalCounter := by
          rw [highWaterMark, hmark] at hahead
          exact hahead
        simp [UInt32.not_le.mpr habove]
  unfold unprotect
  rw [hmatching.valid hvalid]
  simp [hpolicy, hsize, hkeys, hcounter, hopen, haccepted, hhead, hmatching.policy]

end Matching

/-! ### Every run -/

/-- The contexts of the two sides, and the receiver behind the sender. -/
structure InStep (senderContext receiverContext : SecurityContext) (state : TransferState) :
    Prop where
  sender : state.sender.context = senderContext
  receiver : state.receiver.context = receiverContext
  ahead : highWaterMark state.receiver.counters senderContext.localSystemTitle <
    state.sender.counters.nextLocalCounter

/-- A message keeps the receiver behind the sender, lost or not. -/
theorem inStep_transfer (senderContext receiverContext : SecurityContext)
    (hmatching : MatchingContexts senderContext receiverContext) (message : Message)
    (state : TransferState) (hinStep : InStep senderContext receiverContext state) :
    InStep senderContext receiverContext (transfer cipher keys message state).2 := by
  have hframe := protect_frame cipher keys message.plainApdu state.sender
  have hnext : highWaterMark state.receiver.counters senderContext.localSystemTitle <
      (protect cipher keys message.plainApdu state.sender).2.counters.nextLocalCounter :=
    UInt32.lt_of_lt_of_le hinStep.ahead hframe.2.2
  unfold transfer
  rcases hprotected : protect cipher keys message.plainApdu state.sender with
    ⟨status | protectedApdu, sender⟩
  · rw [hprotected] at hframe hnext
    exact ⟨hframe.1.trans hinStep.sender, hinStep.receiver, hnext⟩
  · rw [hprotected] at hframe hnext
    cases hlost : message.lost with
    | true => exact ⟨hframe.1.trans hinStep.sender, hinStep.receiver, hnext⟩
    | false =>
        simp only [Bool.false_eq_true, if_false]
        by_cases hpolicy : state.sender.context.policy = .none
        · have hreceiver : state.receiver.context.policy = .none := by
            rw [hinStep.receiver, hmatching.policy, ← hinStep.sender, hpolicy]
          rw [unprotect_none cipher keys protectedApdu state.receiver hreceiver]
          exact ⟨hframe.1.trans hinStep.sender, hinStep.receiver, hnext⟩
        · rcases unprotect_cases cipher keys protectedApdu state.receiver with
            ⟨out, h, -⟩ | ⟨plain, h, -⟩
          · rw [h]
            exact ⟨hframe.1.trans hinStep.sender, hinStep.receiver, hnext⟩
          · rw [h]
            refine ⟨hframe.1.trans hinStep.sender, hinStep.receiver, ?_⟩
            -- The mark is the counter of this message, which the sender has left behind.
            have hmark : highWaterMark (state.receiver.counters.setMark
                state.receiver.context.remoteSystemTitle (invocationCounterOf protectedApdu))
                  senderContext.localSystemTitle = invocationCounterOf protectedApdu := by
              rw [hinStep.receiver, hmatching.title, highWaterMark,
                state.receiver.counters.mark_setMark, Option.getD_some]
            have hok : (protect cipher keys message.plainApdu state.sender).1 =
                .ok protectedApdu := by
              rw [hprotected]
            have hcounter := protect_counter cipher keys message.plainApdu state.sender
              protectedApdu hpolicy hok
            rw [hprotected] at hcounter
            rw [hmark, hcounter.1]
            exact hcounter.2

section Runs

variable (hlawful : cipher.Lawful) (messages : List Message) (state : TransferState)
  (hmatching : MatchingContexts state.sender.context state.receiver.context)
  (hahead : highWaterMark state.receiver.counters state.sender.context.localSystemTitle <
    state.sender.counters.nextLocalCounter)
include hlawful hmatching hahead

/-- In every run, whatever gets lost and until the counters are exhausted, the
    messages that come back are the ones that are not empty, and all of them
    when nothing is ciphered. -/
theorem returned_iff :
    ∀ t ∈ run (transfer cipher keys) messages state, ∀ protectedApdu,
      t.output.protectedApdu = .ok protectedApdu → t.input.lost = false →
        (t.output.returned = some (.ok t.input.plainApdu) ↔
          state.sender.context.policy = .none ∨ t.input.plainApdu ≠ []) := by
  intro t ht protectedApdu hprotected hlost
  -- Before every message the two sides are in step.
  have hinStep := (invariant_run (transfer cipher keys)
    (InStep state.sender.context state.receiver.context)
    (fun before message h => inStep_transfer cipher keys _ _ hmatching message before h)
    messages state ⟨rfl, rfl, hahead⟩).1 t ht
  rcases mem_run _ messages state t ht with ⟨first, message, second, -, rfl⟩
  simp only [Machine.transition] at hprotected hlost hinStep ⊢
  generalize final (transfer cipher keys) first state = before at hprotected hinStep ⊢
  rcases hinStep with ⟨⟨hsender, hreceiver, hbehind⟩, -⟩
  rcases hout : protect cipher keys message.plainApdu before.sender with
    ⟨status | sealed, sender⟩
  · simp [transfer, hout] at hprotected
  · simp only [transfer, hout, hlost, Bool.false_eq_true, if_false, Except.ok.injEq]
      at hprotected ⊢
    subst hprotected
    have hok : (protect cipher keys message.plainApdu before.sender).1 = .ok sealed := by
      rw [hout]
    rw [← hsender, ← hreceiver] at hmatching
    rw [← hsender] at hbehind ⊢
    by_cases hpolicy : before.sender.context.policy = .none
    · have hreturned := unprotect_protect_none cipher keys before.sender before.receiver
        hmatching message.plainApdu sealed hok hpolicy
      simp [hreturned, hpolicy]
    · simp only [hpolicy, false_or, Option.some.injEq]
      -- An empty message is sealed, and does not open.
      constructor
      · intro hreturned hempty
        have hnot := unprotect_protect_nil cipher keys before.sender before.receiver hmatching
          message.plainApdu sealed hok hpolicy hlawful hempty
        rw [hempty] at hreturned
        exact hnot hreturned
      · intro hplain
        exact unprotect_protect cipher keys before.sender before.receiver hmatching
          message.plainApdu sealed hok hpolicy hlawful hbehind hplain

end Runs

/-! ### An empty message and one that is not -/

def meterTitle : Bytes := [0x4D, 0x4D, 0x4D, 0x00, 0x00, 0xBC, 0x61, 0x4E]

def clientTitle : Bytes := [0x43, 0x4C, 0x49, 0x00, 0x00, 0x00, 0x00, 0x01]

/-- A meter that ciphers what it sends. -/
def meterContext : SecurityContext where
  suite := .suite0
  policy := .authenticatedAndEncrypted
  role := .server
  clientSap := 16
  serverSap := 1
  localSystemTitle := .ofBytes meterTitle
  remoteSystemTitle := .ofBytes clientTitle

def meterEncryptionKey : Bytes :=
  [0x00, 0x01, 0x02, 0x03, 0x04, 0x05, 0x06, 0x07, 0x08, 0x09, 0x0A, 0x0B, 0x0C, 0x0D, 0x0E, 0x0F]

def meterAuthenticationKey : Bytes :=
  [0xD0, 0xD1, 0xD2, 0xD3, 0xD4, 0xD5, 0xD6, 0xD7, 0xD8, 0xD9, 0xDA, 0xDB, 0xDC, 0xDD, 0xDE, 0xDF]

def meterKeys : InMemoryKeyStore where
  keys := fun role =>
    match role with
    | .globalUnicastEncryption => some ⟨.globalUnicastEncryption, meterEncryptionKey⟩
    | .authentication => some ⟨.authentication, meterAuthenticationKey⟩
    | .globalBroadcastEncryption | .keyEncryption | .dedicated => none

/-- A message under the keys of the meter, with the counter of its nonce. -/
def meterEntry (title : Bytes) (counter : UInt8) (plainText cipherText tag : Bytes) :
    AesGcmEntry where
  key := meterEncryptionKey
  nonce := title ++ [0x00, 0x00, 0x00, counter]
  additionalAuthenticatedData := 0x30 :: meterAuthenticationKey
  plainText := plainText
  cipherText := cipherText
  tag := tag

/-- What AES-GCM makes of the first two messages of the meter. -/
def meterCipher : Aes128Gcm :=
  .ofTable
    [meterEntry meterTitle 1 [] []
        [0xC5, 0x75, 0x90, 0xBD, 0xDD, 0xFB, 0xDA, 0xAC, 0x4D, 0xC2, 0x60, 0xF4, 0x36, 0x59, 0x16,
          0x7C],
      meterEntry meterTitle 2 [0xC4, 0x01, 0xC1, 0x00, 0x11, 0x07]
        [0x34, 0xCA, 0x3F, 0xF2, 0xDC, 0xE7]
        [0x83, 0x36, 0x47, 0xC1, 0xCF, 0x4B, 0xBE, 0x41, 0x03, 0xA4, 0x92, 0xA0, 0x47, 0x18, 0xFE,
          0xFF]]

theorem lawful_meterCipher : meterCipher.Lawful := by
  refine Aes128Gcm.lawful_ofTable _ ?_ ?_
  · decide
  · intro entry hentry
    rcases List.mem_cons.mp hentry with rfl | hentry
    · decide
    · rw [List.mem_singleton.mp hentry]
      decide

/-- The meter and its client, before any message. -/
def meterTransfer : TransferState where
  sender := { context := meterContext, counters := {} }
  receiver := { context := mirrored meterContext .client, counters := {} }

/-- An empty message, and the response to a GET. -/
def meterMessages : List Message :=
  [⟨[], false⟩, ⟨[0xC4, 0x01, 0xC1, 0x00, 0x11, 0x07], false⟩]

/-- Of the two only the second comes back. -/
theorem returned_iff_meter :
    meterTransfer.sender.context.policy ≠ .none ∧
      ∀ t ∈ run (transfer meterCipher meterKeys) meterMessages meterTransfer, ∀ protectedApdu,
        t.output.protectedApdu = .ok protectedApdu → t.input.lost = false →
          (t.output.returned = some (.ok t.input.plainApdu) ↔
            meterTransfer.sender.context.policy = .none ∨ t.input.plainApdu ≠ []) :=
  ⟨by decide, returned_iff meterCipher meterKeys lawful_meterCipher meterMessages meterTransfer
    (matchingContexts_mirrored meterContext .client) (by decide)⟩

/-- The empty message was protected and not lost, and unprotecting it fails. -/
theorem not_roundTrips :
    meterCipher.Lawful ∧
      MatchingContexts meterTransfer.sender.context meterTransfer.receiver.context ∧
      highWaterMark meterTransfer.receiver.counters
          meterTransfer.sender.context.localSystemTitle <
        meterTransfer.sender.counters.nextLocalCounter ∧
      ¬ RoundTrips meterCipher meterKeys meterMessages meterTransfer := by
  refine ⟨lawful_meterCipher, matchingContexts_mirrored meterContext .client, by decide, ?_⟩
  intro hroundTrips
  have hout : (transfer meterCipher meterKeys ⟨[], false⟩ meterTransfer).1 =
      { protectedApdu := .ok ([0x30, 0x00, 0x00, 0x00, 0x01] ++ List.replicate 17 0 ++
          [0xC5, 0x75, 0x90, 0xBD, 0xDD, 0xFB, 0xDA, 0xAC, 0x4D, 0xC2, 0x60, 0xF4, 0x36, 0x59,
            0x16, 0x7C])
        returned := some (.error .decipherFailed) } := by
    decide +kernel
  have hreturned := hroundTrips _ List.mem_cons_self _
    (congrArg TransferOutcome.protectedApdu hout) rfl
  rw [Machine.transition, hout] at hreturned
  exact absurd hreturned (by simp)

end CipheredApduProcessor

end Security

end Dlms
