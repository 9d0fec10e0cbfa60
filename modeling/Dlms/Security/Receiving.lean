import Dlms.Machine.Run
import Dlms.Security.CipheredApduProcessor
import Dlms.Security.Hls

/-!
# Receivers that share a counter store

Any number of processors and authenticators, each with a context and keys of
its own, may receive on one store of counters. What they accept from one system
title has counters that only grow, in whatever order they are called, and what
they refuse leaves no trace: not in the store, and not in the buffer the caller
gave for the plain text.

The buffer needs a closer look than the rest of the processor. The library
deciphers into it before it compares the tag, so for a moment it holds plain
text that nothing has authenticated. `unprotectInto` therefore follows the
writes to the buffer one by one, with the library in stages, and `unprotect` is
what is left of it when a buffer of a failed call is forgotten.

## Main definitions

* `Aes128GcmStages`: The library, stage by stage.
* `unprotectInto`: Unprotecting into a buffer.
* `ReceiveCall`, `receive`: One call of one of the receivers.
* `acceptedFrom`: The counter a call has accepted from a system title.

## Theorems

* `unprotectInto_eq`: The buffer of a failed call is empty.
* `receive_cases`, `receive_failed`: What one call does.
* `accepted_increasing`: The counters accepted from one title grow, and a call
  that fails changes nothing.
-/

namespace Dlms

namespace Security

open Apdu (Bytes)
open Machine (Transition run transition holds_of_every_step mem_run)

/-! ### The buffer -/

/-- AES-128-GCM as the library offers it: to start a message, to decipher its
    input and to compare its tag, each of which may fail. -/
structure Aes128GcmStages where
  encrypt : Bytes → Bytes → Bytes → Bytes → Option (Bytes × Bytes)
  start : Bytes → Bytes → Bytes → Bool
  update : Bytes → Bytes → Bytes → Bytes → Option Bytes
  finish : Bytes → Bytes → Bytes → Bytes → Bytes → Bool

namespace Aes128GcmStages

variable (stages : Aes128GcmStages)

/-- The deciphered input. There is no call of the library for an empty one. -/
def decipher (key nonce aad input : Bytes) : Option Bytes :=
  if input = [] then some [] else stages.update key nonce aad input

/-- The stages together. -/
def cipher : Aes128Gcm where
  encrypt := stages.encrypt
  decrypt := fun key nonce aad input tag =>
    if !stages.start key nonce aad then none
    else
      match stages.decipher key nonce aad input with
      | none => none
      | some plainText => if !stages.finish key nonce aad input tag then none else some plainText

end Aes128GcmStages

section Buffer

variable (stages : Aes128GcmStages)

/-- Open into a buffer that was cleared before. -/
def Suite0AesGcm.openSslOpen (key : SecurityKey) (parameters : AesGcmParameters) (tag : Bytes)
    (plainText : Bytes) : Except SecurityStatus Unit × Bytes :=
  if !parametersFitInt parameters then
    (.error .invalidArgument, plainText)
  else if !stages.start key.bytes parameters.nonce parameters.additionalAuthenticatedData then
    (.error .decipherFailed, plainText)
  else
    match stages.decipher key.bytes parameters.nonce parameters.additionalAuthenticatedData
        parameters.input with
    | none => (.error .decipherFailed, [])
    | some deciphered =>
        -- The buffer holds the deciphered input here, and the tag is yet to be compared.
        if !stages.finish key.bytes parameters.nonce parameters.additionalAuthenticatedData
            parameters.input tag then
          (.error .decipherFailed, [])
        else
          (.ok (), sizedOutput parameters deciphered)

def Suite0AesGcm.openInto (key : SecurityKey) (parameters : AesGcmParameters) (tag : Bytes) :
    Except SecurityStatus Unit × Bytes :=
  match validateAesGcmInput key parameters with
  | .error status => (.error status, [])
  | .ok () => Suite0AesGcm.openSslOpen stages key parameters tag []

namespace CipheredApduProcessor

variable (keys : InMemoryKeyStore)

/-- Unprotect into a buffer, which is cleared first, whatever it held. -/
def unprotectInto (protectedApdu : Bytes) (state : CipheredApduState) :
    (Except SecurityStatus Unit × Bytes) × CipheredApduState :=
  match validateProcessorContext state.context with
  | .error status => ((.error status, []), state)
  | .ok () =>
      if state.context.policy = .none then
        ((.ok (), protectedApdu), state)
      else if protectedApdu.length < headerSize + Suite0AesGcm.tagSize then
        ((.error .invalidArgument, []), state)
      else if protectedApdu.head? ≠ some (securityControlForPolicy state.context.policy) then
        ((.error .authenticationFailed, []), state)
      else
        match getKeys keys with
        | .error status => ((.error status, []), state)
        | .ok (encryptionKey, authenticationKey) =>
            match buildNonce state.context.remoteSystemTitle
                (invocationCounterOf protectedApdu) with
            | .error status => ((.error status, []), state)
            | .ok nonce =>
                let body := protectedApdu.drop headerSize
                let cipherTextSize := body.length - Suite0AesGcm.tagSize
                match Suite0AesGcm.openInto stages encryptionKey
                    { nonce := nonce
                      additionalAuthenticatedData := buildAad
                        (securityControlForPolicy state.context.policy) authenticationKey
                      input := body.take cipherTextSize }
                    (body.drop cipherTextSize) with
                | (.error status, plainApdu) => ((.error status, plainApdu), state)
                | (.ok (), plainApdu) =>
                    match state.counters.validateRemoteForSystemTitle
                        state.context.remoteSystemTitle (invocationCounterOf protectedApdu) with
                    | (.error status, counters) =>
                        ((.error status, []), { state with counters := counters })
                    | (.ok (), counters) =>
                        ((.ok (), plainApdu), { state with counters := counters })

end CipheredApduProcessor

/-- A result as a status and a buffer, which is empty after a failure. -/
def buffered (result : Except SecurityStatus Bytes) : Except SecurityStatus Unit × Bytes :=
  match result with
  | .error status => (.error status, [])
  | .ok bytes => (.ok (), bytes)

theorem Suite0AesGcm.openInto_eq (key : SecurityKey) (parameters : AesGcmParameters)
    (tag : Bytes) :
    Suite0AesGcm.openInto stages key parameters tag =
      buffered (Suite0AesGcm.openInput stages.cipher key parameters tag) := by
  unfold Suite0AesGcm.openInto Suite0AesGcm.openInput
  cases Suite0AesGcm.validateAesGcmInput key parameters with
  | error status => rfl
  | ok valid =>
      unfold Suite0AesGcm.openSslOpen
      by_cases hfit : (!Suite0AesGcm.parametersFitInt parameters) = true
      · simp [hfit, buffered]
      · simp only [hfit, Bool.false_eq_true, if_false, Aes128GcmStages.cipher]
        cases stages.start key.bytes parameters.nonce parameters.additionalAuthenticatedData with
        | false => rfl
        | true =>
            simp only [Bool.not_true, Bool.false_eq_true, if_false]
            cases stages.decipher key.bytes parameters.nonce
                parameters.additionalAuthenticatedData parameters.input with
            | none => rfl
            | some deciphered =>
                simp only
                cases stages.finish key.bytes parameters.nonce
                    parameters.additionalAuthenticatedData parameters.input tag with
                | false => rfl
                | true => rfl

/-- What is in the buffer after a call is what the call has given. -/
theorem CipheredApduProcessor.unprotectInto_eq (keys : InMemoryKeyStore) (protectedApdu : Bytes)
    (state : CipheredApduState) :
    unprotectInto stages keys protectedApdu state =
      (buffered (unprotect stages.cipher keys protectedApdu state).1,
        (unprotect stages.cipher keys protectedApdu state).2) := by
  unfold unprotectInto unprotect
  cases validateProcessorContext state.context with
  | error status => rfl
  | ok valid =>
      by_cases hpolicy : state.context.policy = .none
      · simp [hpolicy, buffered]
      · simp only [hpolicy, if_false]
        by_cases hsize : protectedApdu.length < headerSize + Suite0AesGcm.tagSize
        · simp [hsize, buffered]
        · simp only [hsize, if_false]
          by_cases hcontrol : protectedApdu.head? ≠
              some (securityControlForPolicy state.context.policy)
          · rw [if_pos hcontrol, if_pos hcontrol]
            rfl
          · rw [if_neg hcontrol, if_neg hcontrol]
            cases getKeys keys with
            | error status => rfl
            | ok found =>
                simp only [openApdu]
                -- The buffer is filled by the cipher, before the counter is looked at.
                cases hnonce : buildNonce state.context.remoteSystemTitle
                    (invocationCounterOf protectedApdu) with
                | error status => rfl
                | ok nonce =>
                    simp only [Suite0AesGcm.openInto_eq, bind, Except.bind]
                    generalize Suite0AesGcm.openInput stages.cipher found.1 _ _ = opened
                    cases opened with
                    | error status => rfl
                    | ok plain =>
                        simp only [buffered]
                        rcases state.counters.validateRemoteForSystemTitle
                          state.context.remoteSystemTitle (invocationCounterOf protectedApdu) with
                          ⟨status | accepted, counters⟩
                        · rfl
                        · rfl

end Buffer

/-! ### Any sequence of calls on one store -/

/-- A call of some receiver on the store. -/
inductive ReceiveCall where
  | unprotect (context : SecurityContext) (keys : InMemoryKeyStore) (protectedApdu : Bytes)
  | verifyResponse (context : SecurityContext) (keys : InMemoryKeyStore)
      (challenge response : Bytes)

/-- The status of a call and the plain text its caller has then. -/
structure ReceiveOutcome where
  status : Except SecurityStatus Unit
  plainText : Bytes
  deriving DecidableEq

/-- One call. A verified response has no plain text. -/
def receive (stages : Aes128GcmStages) (call : ReceiveCall)
    (counters : InMemoryInvocationCounterStore) :
    ReceiveOutcome × InMemoryInvocationCounterStore :=
  match call with
  | .unprotect context keys protectedApdu =>
      let out := CipheredApduProcessor.unprotectInto stages keys protectedApdu
        { context := context, counters := counters }
      (⟨out.1.1, out.1.2⟩, out.2.counters)
  | .verifyResponse context keys challenge response =>
      let out := HlsGmacAuthenticator.verifyResponse stages.cipher keys challenge response
        { context := context, counters := counters }
      (⟨out.1, []⟩, out.2.counters)

/-- The system title and the counter a call has to show, which is none under
    the policy that passes everything through. -/
def ReceiveCall.shown : ReceiveCall → Option (SystemTitle × UInt32)
  | unprotect context _ protectedApdu =>
      if context.policy = .none then none
      else some (context.remoteSystemTitle, CipheredApduProcessor.invocationCounterOf protectedApdu)
  | verifyResponse context _ _ response =>
      some (context.remoteSystemTitle, HlsGmacAuthenticator.invocationCounterOf response)

/-- The counter that a call has accepted from a system title. -/
def acceptedFrom (title : SystemTitle)
    (t : Transition ReceiveCall ReceiveOutcome InMemoryInvocationCounterStore) : Option UInt32 :=
  match t.output.status, t.input.shown with
  | .ok (), some (shown, counter) => if shown = title then some counter else none
  | _, _ => none

section Receivers

variable (stages : Aes128GcmStages)

/-- A call fails and changes nothing, or has no counter to show and changes
    nothing, or shows one above the mark of its title and puts the mark there. -/
theorem receive_cases (call : ReceiveCall) (counters : InMemoryInvocationCounterStore) :
    (∃ status, receive stages call counters = (⟨.error status, []⟩, counters)) ∨
      (call.shown = none ∧ (receive stages call counters).2 = counters) ∨
      ∃ title counter, call.shown = some (title, counter) ∧
        (receive stages call counters).2 = counters.setMark title counter ∧
        ∀ mark, counters.highestRemoteBySystemTitle title = some mark → mark < counter := by
  cases call with
  | unprotect context keys protectedApdu =>
      simp only [receive, CipheredApduProcessor.unprotectInto_eq]
      rcases CipheredApduProcessor.unprotect_cases stages.cipher keys protectedApdu
        { context := context, counters := counters } with ⟨out, h, hfailed⟩ | ⟨plain, h, hlarger⟩
      · by_cases hpolicy : context.policy = .none
        · refine .inr (.inl ⟨?_, ?_⟩)
          · simp [ReceiveCall.shown, hpolicy]
          · rw [h]
        · rcases hfailed hpolicy with ⟨status, rfl⟩
          refine .inl ⟨status, ?_⟩
          rw [h]
          rfl
      · by_cases hpolicy : context.policy = .none
        · -- Such a call has no counter to accept.
          have hsame := CipheredApduProcessor.unprotect_none stages.cipher keys protectedApdu
            { context := context, counters := counters } hpolicy
          refine .inr (.inl ⟨?_, ?_⟩)
          · simp [ReceiveCall.shown, hpolicy]
          · rw [hsame]
        · refine .inr (.inr ⟨_, _, ?_, ?_, hlarger⟩)
          · simp [ReceiveCall.shown, hpolicy]
          · rw [h]
  | verifyResponse context keys challenge response =>
      simp only [receive]
      rcases HlsGmacAuthenticator.verifyResponse_cases stages.cipher keys challenge response
        { context := context, counters := counters } with ⟨status, h⟩ | ⟨h, hlarger⟩
      · refine .inl ⟨status, ?_⟩
        rw [h]
      · refine .inr (.inr ⟨_, _, rfl, ?_, hlarger⟩)
        rw [h]

/-- A call that fails leaves the store as it was and no plain text. -/
theorem receive_failed (call : ReceiveCall) (counters : InMemoryInvocationCounterStore)
    (status : SecurityStatus) (hfailed : (receive stages call counters).1.status = .error status) :
    (receive stages call counters).2 = counters ∧
      (receive stages call counters).1.plainText = [] := by
  cases call with
  | unprotect context keys protectedApdu =>
      simp only [receive, CipheredApduProcessor.unprotectInto_eq] at hfailed ⊢
      rcases CipheredApduProcessor.unprotect_cases stages.cipher keys protectedApdu
        { context := context, counters := counters } with ⟨out, h, -⟩ | ⟨plain, h, -⟩
      · rw [h] at hfailed ⊢
        cases out with
        | error status' => simp [buffered]
        | ok plain => exact absurd hfailed (by simp [buffered])
      · rw [h] at hfailed
        exact absurd hfailed (by simp [buffered])
  | verifyResponse context keys challenge response =>
      simp only [receive] at hfailed ⊢
      rcases HlsGmacAuthenticator.verifyResponse_cases stages.cipher keys challenge response
        { context := context, counters := counters } with ⟨status', h⟩ | ⟨h, -⟩
      · rw [h]
        exact ⟨rfl, trivial⟩
      · rw [h] at hfailed
        cases hfailed

/-- What has been accepted so far: growing for each title, and at or below the
    mark of the title. -/
def AcceptedBelowMarks
    (history : List (Transition ReceiveCall ReceiveOutcome InMemoryInvocationCounterStore))
    (counters : InMemoryInvocationCounterStore) : Prop :=
  ∀ title, (history.filterMap (acceptedFrom title)).Pairwise (· < ·) ∧
    ∀ counter ∈ history.filterMap (acceptedFrom title),
      ∃ mark, counters.highestRemoteBySystemTitle title = some mark ∧ counter ≤ mark

/-- A call that accepts nothing from a title leaves what was accepted from it. -/
theorem filterMap_acceptedFrom_none (title : SystemTitle)
    (history : List (Transition ReceiveCall ReceiveOutcome InMemoryInvocationCounterStore))
    (t : Transition ReceiveCall ReceiveOutcome InMemoryInvocationCounterStore)
    (hnone : acceptedFrom title t = none) :
    (history ++ [t]).filterMap (acceptedFrom title) = history.filterMap (acceptedFrom title) := by
  rw [List.filterMap_append, List.filterMap_cons_none hnone, List.filterMap_nil, List.append_nil]

/-- What is accepted from a title is the counter that is shown under it. -/
theorem acceptedFrom_eq_some (title shown : SystemTitle) (counter accepted : UInt32)
    (t : Transition ReceiveCall ReceiveOutcome InMemoryInvocationCounterStore)
    (hshown : t.input.shown = some (shown, counter)) (h : acceptedFrom title t = some accepted) :
    shown = title ∧ accepted = counter := by
  unfold acceptedFrom at h
  rw [hshown] at h
  cases hstatus : t.output.status with
  | error status =>
      rw [hstatus] at h
      cases h
  | ok done =>
      rw [hstatus] at h
      dsimp only at h
      by_cases htitle : shown = title
      · rw [if_pos htitle] at h
        exact ⟨htitle, (Option.some.inj h).symm⟩
      · rw [if_neg htitle] at h
        cases h

/-- Every call keeps it. -/
theorem acceptedBelowMarks_step
    (history : List (Transition ReceiveCall ReceiveOutcome InMemoryInvocationCounterStore))
    (counters : InMemoryInvocationCounterStore) (call : ReceiveCall)
    (hbelow : AcceptedBelowMarks history counters) :
    AcceptedBelowMarks (history ++ [transition (receive stages) call counters])
      (receive stages call counters).2 := by
  intro title
  rcases receive_cases stages call counters with
    ⟨status, h⟩ | ⟨hshown, hsame⟩ | ⟨shown, counter, hshown, hmarked, hlarger⟩
  · -- A failed call accepts nothing and leaves the marks.
    have hnone : acceptedFrom title (transition (receive stages) call counters) = none := by
      simp [acceptedFrom, transition, h]
    rw [filterMap_acceptedFrom_none title history _ hnone, h]
    exact hbelow title
  · have hnone : acceptedFrom title (transition (receive stages) call counters) = none := by
      unfold acceptedFrom transition
      simp only [hshown]
      cases (receive stages call counters).1.status with
      | error status => rfl
      | ok accepted => rfl
    rw [filterMap_acceptedFrom_none title history _ hnone, hsame]
    exact hbelow title
  · rw [hmarked]
    by_cases htitle : shown = title
    · -- The counter is above the mark, hence above all that was accepted before.
      subst htitle
      rcases hbelow shown with ⟨hgrowing, hmarks⟩
      have hnew : ∀ earlier ∈ history.filterMap (acceptedFrom shown), earlier < counter := by
        intro earlier hearlier
        rcases hmarks earlier hearlier with ⟨mark, hmark, hle⟩
        exact UInt32.lt_of_le_of_lt hle (hlarger mark hmark)
      have hlast : ∀ accepted ∈ ([transition (receive stages) call counters].filterMap
          (acceptedFrom shown)), accepted = counter := by
        intro accepted haccepted
        rcases List.mem_filterMap.mp haccepted with ⟨t, ht, hfrom⟩
        rw [List.mem_singleton.mp ht] at hfrom
        exact (acceptedFrom_eq_some shown shown counter accepted _ hshown hfrom).2
      rw [List.filterMap_append]
      refine ⟨List.pairwise_append.mpr ⟨hgrowing, ?_, ?_⟩, ?_⟩
      · rw [List.filterMap_cons, List.filterMap_nil]
        cases acceptedFrom shown (transition (receive stages) call counters) with
        | none => exact List.Pairwise.nil
        | some accepted => exact List.pairwise_singleton _ _
      · intro earlier hearlier accepted haccepted
        rw [hlast accepted haccepted]
        exact hnew earlier hearlier
      · intro accepted haccepted
        refine ⟨counter, counters.mark_setMark shown counter, ?_⟩
        rcases List.mem_append.mp haccepted with hearlier | hnow
        · exact UInt32.le_of_lt (hnew accepted hearlier)
        · rw [hlast accepted hnow]
          exact UInt32.le_refl counter
    · -- Another title: nothing is accepted from this one, and its mark stays.
      have hnone : acceptedFrom title (transition (receive stages) call counters) = none :=
        Option.eq_none_iff_forall_ne_some.mpr fun accepted hfrom =>
          htitle (acceptedFrom_eq_some title shown counter accepted _ hshown hfrom).1
      rw [filterMap_acceptedFrom_none title history _ hnone]
      refine ⟨(hbelow title).1, ?_⟩
      intro accepted haccepted
      rcases (hbelow title).2 accepted haccepted with ⟨mark, hmark, hle⟩
      refine ⟨mark, ?_, hle⟩
      rw [← hmark]
      exact if_neg (Ne.symm htitle)

/-- The counters accepted from one system title grow over every run, and a
    call that fails leaves the store as it was and no plain text. -/
theorem accepted_increasing (calls : List ReceiveCall)
    (counters : InMemoryInvocationCounterStore) :
    (∀ title, ((run (receive stages) calls counters).filterMap (acceptedFrom title)).Pairwise
        (· < ·)) ∧
      ∀ t ∈ run (receive stages) calls counters, ∀ status, t.output.status = .error status →
        t.after = t.before ∧ t.output.plainText = [] := by
  constructor
  · have hstart : AcceptedBelowMarks [] counters := by
      intro title
      exact ⟨List.Pairwise.nil, fun counter hcounter => absurd hcounter List.not_mem_nil⟩
    have hrun := holds_of_every_step (receive stages) AcceptedBelowMarks
      (acceptedBelowMarks_step stages) calls counters hstart
    exact fun title => (hrun title).1
  · intro t ht status hfailed
    rcases mem_run (receive stages) calls counters t ht with ⟨first, call, second, -, rfl⟩
    exact receive_failed stages call _ status hfailed

end Receivers

end Security

end Dlms
