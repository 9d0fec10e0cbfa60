import Dlms.Endpoint.Nonces

/-!
# Looking for the reply to the challenge

While an endpoint waits for the client's reply, it looks at every request to see whether
the reply is in it. With ciphering it has to unprotect the request for that, and it does so
on the counters that the processor of the services uses. A request that was protected and
is not the reply is unprotected once more by the processor, which then finds its own
counter as the mark.

So the look leaves no trace exactly when it fails to unprotect the request.

## Main definitions

* `FreshlyProtected`: The request is protected, under a counter above the mark.
* `LooksOnly`: The look changes neither the endpoint nor what the processor answers.

## Theorems

* `unprotect_ok_iff`: What is unprotected.
* `security_plainRequestOf_iff`: When the look changes nothing.
* `looksOnly_iff`: The same for every state that a run reaches.
-/

namespace Dlms

namespace Endpoint

open Apdu (Bytes)
open Machine (final)
open Security (CipheredApduState InMemoryKeyStore)
open Security.CipheredApduProcessor (getKeys headerSize invocationCounterOf openApdu
  securityControlForPolicy unprotect unprotect_cases unprotect_twice validateProcessorContext)
open Server (ServerContext)
open Xdlms (XdlmsServerHandler)

/-! ### What is unprotected -/

/-- The APDU is protected for a state, under a counter that the state has not seen. -/
structure FreshlyProtected (cipher : Security.Aes128Gcm) (keys : InMemoryKeyStore)
    (apdu : Bytes) (state : CipheredApduState) : Prop where
  context : validateProcessorContext state.context = .ok ()
  size : headerSize + Security.Suite0AesGcm.tagSize ≤ apdu.length
  control : apdu.head? = some (securityControlForPolicy state.context.policy)
  authentic : ∃ encryptionKey authenticationKey plain,
    getKeys keys = .ok (encryptionKey, authenticationKey) ∧
      openApdu cipher state.context encryptionKey authenticationKey (invocationCounterOf apdu)
        apdu = .ok plain
  counted : invocationCounterOf apdu ≠ 0
  fresh : ∀ mark, state.counters.highestRemoteBySystemTitle state.context.remoteSystemTitle =
    some mark → mark < invocationCounterOf apdu

section Unprotected

variable (cipher : Security.Aes128Gcm) (keys : InMemoryKeyStore) (apdu : Bytes)
  (state : CipheredApduState)

/-- A counter is accepted when it is not zero and above the mark. -/
theorem validateRemote_ok_iff (counters : Security.InMemoryInvocationCounterStore)
    (title : Security.SystemTitle) (counter : UInt32) :
    (counters.validateRemoteForSystemTitle title counter).1 = .ok () ↔
      counter ≠ 0 ∧
        ∀ mark, counters.highestRemoteBySystemTitle title = some mark → mark < counter := by
  rw [Security.InMemoryInvocationCounterStore.validateRemoteForSystemTitle]
  by_cases hzero : counter = 0
  · simp [hzero]
  rw [if_neg hzero]
  cases hmark : counters.highestRemoteBySystemTitle title with
  | none => simp [hzero]
  | some highest =>
      -- The counter has to be above the mark of its title.
      by_cases hold : counter ≤ highest
      · simp only [if_pos hold, reduceCtorEq, Option.some.injEq, forall_eq', false_iff, not_and]
        exact fun _ hlt => absurd hold (UInt32.not_le.mpr hlt)
      · simp only [if_neg hold, ne_eq, hzero, not_false_eq_true, Option.some.injEq, forall_eq',
          true_and, true_iff]
        exact UInt32.not_le.mp hold

/-- What is unprotected is what is protected and fresh. -/
theorem unprotect_ok_iff (hpolicy : state.context.policy ≠ .none) :
    (∃ plain, (unprotect cipher keys apdu state).1 = .ok plain) ↔
      FreshlyProtected cipher keys apdu state := by
  have hcounter := validateRemote_ok_iff state.counters state.context.remoteSystemTitle
    (invocationCounterOf apdu)
  constructor
  · rintro ⟨plain, h⟩
    unfold unprotect at h
    split at h
    · cases h
    rename_i hcontext
    simp only [if_neg hpolicy] at h
    split_ifs at h with hsize hcontrol
    split at h
    · cases h
    rename_i encryptionKey authenticationKey hkeys
    split at h
    · cases h
    rename_i plainApdu hopen
    -- The last check is the one of the counter.
    split at h
    · cases h
    rename_i hvalid
    rw [hvalid] at hcounter
    rcases hcounter.mp rfl with ⟨hnonzero, hfresh⟩
    exact ⟨hcontext, Nat.le_of_not_lt hsize, not_not.mp hcontrol,
      ⟨encryptionKey, authenticationKey, plainApdu, hkeys, hopen⟩, hnonzero, hfresh⟩
  · intro h
    -- Nothing is left that a check could stop at.
    rcases h.authentic with ⟨encryptionKey, authenticationKey, plain, hkeys, hopen⟩
    have hvalid := hcounter.mpr ⟨h.counted, h.fresh⟩
    refine ⟨plain, ?_⟩
    unfold unprotect
    rcases hremote : state.counters.validateRemoteForSystemTitle state.context.remoteSystemTitle
      (invocationCounterOf apdu) with ⟨result, counters⟩
    rw [hremote] at hvalid
    simp only at hvalid
    simp [h.context, if_neg hpolicy, if_neg (Nat.not_lt.mpr h.size), h.control, hkeys, hopen,
      hvalid]

/-- Unprotecting leaves the state as it was exactly when it fails. -/
theorem unprotect_state_iff (hpolicy : state.context.policy ≠ .none) :
    (unprotect cipher keys apdu state).2 = state ↔ ¬FreshlyProtected cipher keys apdu state := by
  rw [← unprotect_ok_iff cipher keys apdu state hpolicy]
  rcases unprotect_cases cipher keys apdu state with ⟨out, h, hfailed⟩ | ⟨plain, h, hlarger⟩
  · rcases hfailed hpolicy with ⟨status, hstatus⟩
    rw [h, hstatus]
    simp
  · -- The mark of the title is its counter now, and was below that before.
    rw [h]
    simp only [Except.ok.injEq, exists_eq', not_true_eq_false, iff_false]
    intro hsame
    have hmarks := congrArg (fun after => after.counters.highestRemoteBySystemTitle
      state.context.remoteSystemTitle) hsame
    simp only [Security.InMemoryInvocationCounterStore.mark_setMark] at hmarks
    exact UInt32.lt_irrefl _ (hlarger _ hmarks.symm)

end Unprotected

/-! ### The look -/

section Look

variable (ciphers : Ciphers) (options : ServerEndpointOptions) {δ : Type}
  (handler : ServerContext → XdlmsServerHandler δ)

/-- The look leaves the endpoint as it was, and the processor answers the request as it would
    have without it. -/
def LooksOnly (requestApdu : Bytes) (endpoint : ServerEndpoint) : Prop :=
  let looked := (ServerEndpoint.handleHlsReply ciphers options requestApdu endpoint).2
  looked = endpoint ∧ ∀ device,
    ServerEndpoint.processService ciphers options handler requestApdu looked device =
      ServerEndpoint.processService ciphers options handler requestApdu endpoint device

theorem LooksOnly.iff_same (requestApdu : Bytes) (endpoint : ServerEndpoint) :
    LooksOnly ciphers options handler requestApdu endpoint ↔
      (ServerEndpoint.handleHlsReply ciphers options requestApdu endpoint).2 = endpoint := by
  refine ⟨fun h => h.1, fun h => ⟨h, fun device => ?_⟩⟩
  rw [h]

variable (hciphered : options.security.cipheredApdu = true)
include hciphered

/-- With ciphering, the look changes the endpoint exactly when it unprotects the request. -/
theorem plainRequestOf_state_iff (requestApdu : Bytes) (endpoint : ServerEndpoint)
    (hpolicy : endpoint.security.context.policy ≠ .none) :
    (ServerEndpoint.plainRequestOf ciphers options requestApdu endpoint).2 = endpoint ↔
      ¬FreshlyProtected ciphers.gcm (processorKeys options.security) requestApdu
        endpoint.security := by
  rw [← unprotect_state_iff _ _ _ _ hpolicy, ServerEndpoint.plainRequestOf_of_ciphered ciphers
    options requestApdu endpoint _ (securityProcessor_of_ciphered ciphers options hciphered)]
  constructor
  · intro h
    exact congrArg ServerEndpoint.security h
  · intro h
    exact congrArg (fun security => { endpoint with security := security }) h

/-- A request that the look does not handle: one that awaits its reply has unprotected it. -/
theorem handleHlsReply_state_iff (requestApdu : Bytes) (endpoint : ServerEndpoint)
    (h : WellCiphered endpoint) (hpending : endpoint.hlsPending = true)
    (hother : (ServerEndpoint.handleHlsReply ciphers options requestApdu endpoint).1 = none) :
    (ServerEndpoint.handleHlsReply ciphers options requestApdu endpoint).2 = endpoint ↔
      ¬FreshlyProtected ciphers.gcm (processorKeys options.security) requestApdu
        endpoint.security := by
  have hpolicy : endpoint.security.context.policy ≠ .none := by
    rw [h.policy]
    exact fun hnone => by cases hnone
  have hhandles :=
    ServerEndpoint.handlesReply_handleHlsReply ciphers options requestApdu endpoint
  generalize ServerEndpoint.handleHlsReply ciphers options requestApdu endpoint = out at *
  cases hhandles with
  | idle hidle =>
      refine ⟨fun _ hfresh => ?_, fun _ => rfl⟩
      -- A look that does nothing is not awaiting, has no mechanism, or has an empty request.
      rcases hidle with hnot | hnone | hempty
      · rw [hpending] at hnot
        exact Bool.false_ne_true hnot.symm
      · have hsome := h.strategy hpending
        rw [hnone] at hsome
        exact Bool.false_ne_true hsome
      · -- An empty request has no header.
        have hsize := hfresh.size
        rw [hempty] at hsize
        exact absurd hsize (by decide)
  | other _ hreply =>
      -- The look has unprotected the request and found that it is not the reply.
      exact plainRequestOf_state_iff ciphers options hciphered requestApdu endpoint hpolicy
  | refused hls after iip clientResponse outcome _ hhls hreply hanswer hrefused =>
      cases hother
  | answered hls after iip clientResponse serverResponse responseApdu _ hhls hreply hanswer =>
      cases hother

omit hciphered in
/-- What the processor cannot unprotect is a failure of the security. -/
theorem error_decodeRequest (processor : Xdlms.SecurityProcessor CipheredApduState)
    (requestApdu : Bytes) (security : CipheredApduState) (status : Security.SecurityStatus)
    (h : (processor.unprotect requestApdu security).1 = .error status) :
    (Xdlms.decodeRequest (some processor) requestApdu security).1 = .error .securityFailed := by
  rw [Xdlms.decodeRequest]
  rcases hout : processor.unprotect requestApdu security with ⟨result, after⟩
  rw [hout] at h
  simp only at h
  simp [h]

omit hciphered in
theorem error_processRequest (service : XdlmsServerHandler δ)
    (serviceOptions : Xdlms.ServiceOptions)
    (security : Option (Xdlms.SecurityProcessor CipheredApduState)) (requestApdu : Bytes)
    (state : Xdlms.XdlmsServerState CipheredApduState δ) (status : Xdlms.XdlmsStatus)
    (h : (Xdlms.decodeRequest security requestApdu state.security).1 = .error status) :
    (Xdlms.processRequest service serviceOptions security requestApdu state).1 =
      .error status := by
  rw [Xdlms.processRequest]
  rcases hout : Xdlms.decodeRequest security requestApdu state.security with ⟨result, after⟩
  rw [hout] at h
  simp only at h
  rw [h]

/-- Once a request was unprotected by the look, the processor refuses it. -/
theorem processService_of_fresh (requestApdu : Bytes) (endpoint : ServerEndpoint)
    (h : WellCiphered endpoint) (hpending : endpoint.hlsPending = true)
    (hother : (ServerEndpoint.handleHlsReply ciphers options requestApdu endpoint).1 = none)
    (hfresh : FreshlyProtected ciphers.gcm (processorKeys options.security) requestApdu
      endpoint.security) (device : δ) :
    (ServerEndpoint.processService ciphers options handler requestApdu
      (ServerEndpoint.handleHlsReply ciphers options requestApdu endpoint).2 device).1.2 =
        .error .securityFailed := by
  have hchanged := mt (handleHlsReply_state_iff ciphers options hciphered requestApdu endpoint h
    hpending hother).mp (not_not.mpr hfresh)
  rcases hlooked : ServerEndpoint.handleHlsReply ciphers options requestApdu endpoint with
    ⟨outcome, looked⟩
  rw [hlooked] at hother hchanged
  simp only at hother hchanged ⊢
  rw [hother] at hlooked
  -- What it could unprotect a second time it would not have looked at.
  cases hagain : (unprotect ciphers.gcm (processorKeys options.security) requestApdu
      looked.security).1 with
  | ok plain =>
      exact absurd (looked_of_unprotected ciphers options hciphered requestApdu plain endpoint
        looked h hlooked hagain).1 hchanged
  | error status =>
      have hdecoded : (Xdlms.decodeRequest (ServerEndpoint.securityProcessor ciphers options)
          requestApdu looked.security).1 = .error .securityFailed := by
        rw [securityProcessor_of_ciphered ciphers options hciphered]
        exact error_decodeRequest _ requestApdu looked.security status hagain
      rw [ServerEndpoint.processService]
      exact error_processRequest _ _ _ requestApdu (looked.processor device) _ hdecoded

/-- In every state that a run reaches and in which a reply is awaited, the look at a request that
    is not the reply has no effect exactly when the request is not freshly protected. When it is,
    the processor refuses it as one that comes again. -/
theorem looksOnly_iff (inputs : List EndpointInput) (device : δ) (requestApdu : Bytes)
    (endpoint : ServerEndpoint)
    (hreached : (final (ServerEndpoint.machineStep ciphers options handler) inputs
      (ServerEndpoint.create options, device)).1 = endpoint)
    (hpending : endpoint.hlsPending = true)
    (hother : (ServerEndpoint.handleHlsReply ciphers options requestApdu endpoint).1 = none) :
    (LooksOnly ciphers options handler requestApdu endpoint ↔
        ¬FreshlyProtected ciphers.gcm (processorKeys options.security) requestApdu
          endpoint.security) ∧
      (FreshlyProtected ciphers.gcm (processorKeys options.security) requestApdu
          endpoint.security →
        ∀ device, (ServerEndpoint.processService ciphers options handler requestApdu
          (ServerEndpoint.handleHlsReply ciphers options requestApdu endpoint).2 device).1.2 =
            .error .securityFailed) := by
  have hwell : WellCiphered endpoint := by
    rw [← hreached]
    exact (Machine.invariant_run _ (fun state : ServerEndpoint × δ => WellCiphered state.1)
      (fun state input h => wellCiphered_step ciphers options handler input state.1 state.2 h)
      inputs (ServerEndpoint.create options, device) (wellCiphered_create options)).2
  rw [LooksOnly.iff_same]
  exact ⟨handleHlsReply_state_iff ciphers options hciphered requestApdu endpoint hwell hpending
      hother,
    fun hfresh => processService_of_fresh ciphers options handler hciphered requestApdu endpoint
      hwell hpending hother hfresh⟩

end Look

/-! ### A client that reads before it replies -/

/-- The endpoint once it has answered the association request. -/
def awaitingEndpoint : ServerEndpoint :=
  (final (ServerEndpoint.machineStep gmacCiphers gmacOptions fun _ => registerHandler)
    (gmacConnect.take 1) (ServerEndpoint.create gmacOptions, ())).1

/-- A protected read of an attribute. -/
def protectedRead : Bytes :=
  [0x30, 0x00, 0x00, 0x00, 0x03, 0x1E, 0x7E, 0x41, 0xB6, 0x5D, 0xC5, 0x88, 0x36, 0xCD, 0xA2,
    0x54, 0x47, 0x11, 0x6D, 0x61, 0x71, 0x08, 0x7A, 0x3F, 0xE0, 0x27, 0x72, 0x58, 0x30, 0x8C,
    0xB5, 0x1E, 0x68, 0x76]

/-- The same read in the plain, which the look leaves alone. -/
theorem looksOnly_iff_plainRead :
    LooksOnly gmacCiphers gmacOptions (fun _ => registerHandler) (getAttribute 2)
        awaitingEndpoint ↔
      ¬FreshlyProtected gmacCiphers.gcm (processorKeys gmacOptions.security) (getAttribute 2)
        awaitingEndpoint.security :=
  (looksOnly_iff gmacCiphers gmacOptions (fun _ => registerHandler) rfl (gmacConnect.take 1) ()
    (getAttribute 2) awaitingEndpoint rfl (by decide +kernel) (by decide +kernel)).1

/-- The protected read is not the reply, and the look at it changes the counters: the mark of
    the client's title is its counter. -/
theorem not_looksOnly_protectedRead :
    gmacOptions.security.cipheredApdu = true ∧ awaitingEndpoint.hlsPending = true ∧
      (ServerEndpoint.handleHlsReply gmacCiphers gmacOptions protectedRead
        awaitingEndpoint).1 = none ∧
      ¬LooksOnly gmacCiphers gmacOptions (fun _ => registerHandler) protectedRead
        awaitingEndpoint := by
  refine ⟨rfl, by decide +kernel, by decide +kernel, fun h => ?_⟩
  have hmark := congrArg (fun endpoint => endpoint.security.counters.highestRemoteBySystemTitle
    awaitingEndpoint.security.context.remoteSystemTitle) h.1
  exact absurd hmark (by decide +kernel)

end Endpoint

end Dlms
