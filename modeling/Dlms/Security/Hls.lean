import Dlms.Security.Counters
import Dlms.Security.Suite0AesGcm

/-!
# The high-level security authenticators

Each side sends a challenge, and each side answers the other's. Both
authenticators take their challenges from a random source, sixteen bytes each.

The one with a password answers a challenge with its encryption under the
password. The other answers with a tag of AES-GCM over an empty input, with the
challenge in the associated data and the sender's system title and a counter in
the nonce; the counter stands in front of the tag. To verify an answer is to
compute it: of the password for the first, of the peer's title and the counter
in the answer for the second, which also wants the counter to be new.

## Main definitions

* `Aes128Ecb`, `Challenge`: What the authenticators take from outside.
* `HlsHighAuthenticator.buildResponse`, `HlsHighAuthenticator.verifyResponse`.
* `HlsGmacAuthenticator.buildResponse`, `HlsGmacAuthenticator.verifyResponse`.

## Theorems

* `buildTag_eq_ok_iff`: When there is a tag.
* `buildResponse_cases`: What answering does.
* `tag_of_buildResponse`: The counter an answer was made with, and its tag.
* `verifyResponse_cases`: What verifying does.
* `verifyResponse_local`: Verifying hands out no counter.
-/

namespace Dlms

namespace Security

open Apdu (Bytes)

/-- AES-128 on whole blocks, each by itself. -/
structure Aes128Ecb where
  encrypt : Bytes → Bytes → Option Bytes

def challengeSize : Nat := 16

/-- A challenge as a random source fills it. -/
structure Challenge where
  bytes : Bytes
  size : bytes.length = challengeSize
  deriving DecidableEq

/-- A new challenge, or none when the random source failed. -/
def buildChallenge (random : Option Challenge) : Except SecurityStatus Bytes :=
  match random with
  | none => .error .internalError
  | some challenge => .ok challenge.bytes

theorem ne_nil_of_buildChallenge (random : Option Challenge) (challenge : Bytes)
    (h : buildChallenge random = .ok challenge) : challenge ≠ [] := by
  cases random with
  | none => exact absurd h (by simp [buildChallenge])
  | some filled =>
      intro hempty
      have hbytes : filled.bytes = challenge := Except.ok.inj h
      have hsize := filled.size
      rw [hbytes, hempty] at hsize
      exact absurd hsize (by decide)

namespace HlsHighAuthenticator

def aesBlockSize : Nat := 16

def roundUpBlockSize (size : Nat) : Nat :=
  let remainder := size % aesBlockSize
  if remainder = 0 then size else size + aesBlockSize - remainder

/-- Fill up with zeros. -/
def padTo (size : Nat) (bytes : Bytes) : Bytes :=
  bytes ++ List.replicate (size - bytes.length) 0

/-- A challenge, filled up to whole blocks and at least to the password. -/
def paddedChallenge (challenge password : Bytes) : Bytes :=
  padTo (roundUpBlockSize (max challenge.length password.length)) challenge

/-- The start of the password is the key. -/
def passwordKey (password : Bytes) : Bytes := padTo aesBlockSize (password.take aesBlockSize)

variable (ecb : Aes128Ecb)

def transformHigh (challenge password : Bytes) : Except SecurityStatus Bytes :=
  if challenge = [] ∨ password = [] then
    .error .invalidArgument
  else
    match ecb.encrypt (passwordKey password) (paddedChallenge challenge password) with
    | none => .error .cipherFailed
    | some response => .ok response

def buildResponse (password challenge : Bytes) : Except SecurityStatus Bytes :=
  transformHigh ecb challenge password

def verifyResponse (password challenge response : Bytes) : Except SecurityStatus Unit :=
  match buildResponse ecb password challenge with
  | .error status => .error status
  | .ok expected => if response ≠ expected then .error .authenticationFailed else .ok ()

end HlsHighAuthenticator

/-- The context of an authenticator, which its owner may change, and its
    counters. -/
structure HlsGmacState where
  context : SecurityContext
  counters : InMemoryInvocationCounterStore

namespace HlsGmacAuthenticator

def gmacSecurityControl : UInt8 := 0x10

def responseHeaderSize : Nat := 5

def responseTagSize : Nat := 16

def validateHlsContext (context : SecurityContext) : Except SecurityStatus Unit :=
  if context.suite ≠ .suite0 then .error .unsupportedFeature
  else if context.clientSap = 0 ∨ context.serverSap = 0 then .error .invalidContext
  else if !isValidSystemTitle context.localSystemTitle ||
      !isValidSystemTitle context.remoteSystemTitle then .error .invalidSystemTitle
  else .ok ()

def getAuthenticationKey (keys : InMemoryKeyStore) : Except SecurityStatus SecurityKey :=
  getSuite0Key keys .authentication

def buildGmacAad (challenge : Bytes) (authenticationKey : SecurityKey) : Bytes :=
  gmacSecurityControl :: (authenticationKey.bytes ++ challenge)

variable (cipher : Aes128Gcm)

def buildTag (systemTitle : SystemTitle) (invocationCounter : UInt32) (challenge : Bytes)
    (authenticationKey : SecurityKey) : Except SecurityStatus Bytes := do
  let nonce ← buildNonce systemTitle invocationCounter
  let (_, tag) ← Suite0AesGcm.sealInput cipher authenticationKey
    { nonce := nonce
      additionalAuthenticatedData := buildGmacAad challenge authenticationKey
      input := [] }
  pure tag

/-- A tag is one of the cipher, over the challenge and under the nonce, when the
    title, the key and the challenge are such as the cipher can be given. -/
theorem buildTag_eq_ok_iff (systemTitle : SystemTitle) (invocationCounter : UInt32)
    (challenge tag : Bytes) (key : SecurityKey) :
    buildTag cipher systemTitle invocationCounter challenge key = .ok tag ↔
      (isValidSystemTitle systemTitle = true ∧ validateSecurityKey .suite0 key = .ok () ∧
        Suite0AesGcm.sizeFitsInt (buildGmacAad challenge key).length = true) ∧
      ∃ text, cipher.encrypt key.bytes
        (systemTitle.bytes ++ writeBigEndian32 invocationCounter) (buildGmacAad challenge key) [] =
          some (text, tag) := by
  have hnonce : (systemTitle.bytes ++ writeBigEndian32 invocationCounter).length =
      Suite0AesGcm.nonceSize := by
    rw [List.length_append, systemTitle.size, writeBigEndian32, Codec.length_beBytes]
    rfl
  simp only [buildTag, buildNonce, bind, Except.bind, pure, Except.pure]
  cases htitle : isValidSystemTitle systemTitle with
  | false => simp
  | true =>
      simp only [Bool.not_true, Bool.false_eq_true, if_false, Suite0AesGcm.sealInput,
        Suite0AesGcm.validateAesGcmInput, hnonce, ne_eq, not_true_eq_false, true_and]
      cases validateSecurityKey .suite0 key with
      | error status => simp
      | ok valid =>
          have hempty : Suite0AesGcm.sizeFitsInt ([] : Bytes).length = true := rfl
          simp only [Suite0AesGcm.parametersFitInt, hempty, Bool.true_and, true_and]
          cases Suite0AesGcm.sizeFitsInt (buildGmacAad challenge key).length with
          | false =>
              simp
          | true =>
              -- Nothing is encrypted, so that the tag is all there is.
              simp only [Bool.not_true, Bool.false_eq_true, if_false, true_and]
              cases cipher.encrypt key.bytes
                  (systemTitle.bytes ++ writeBigEndian32 invocationCounter)
                  (buildGmacAad challenge key) [] with
              | none => simp
              | some output =>
                  simp only [Except.ok.injEq, Option.some.injEq, Prod.ext_iff]
                  refine ⟨fun h => ⟨output.1, rfl, h⟩, ?_⟩
                  rintro ⟨_, _, h⟩
                  exact h

/-- It is not up to the counter whether there is a tag. -/
theorem exists_tag_of_tag (hcipher : cipher.TakesEveryNonce) (systemTitle : SystemTitle)
    (invocationCounter invocationCounter' : UInt32) (challenge tag : Bytes) (key : SecurityKey)
    (h : buildTag cipher systemTitle invocationCounter challenge key = .ok tag) :
    ∃ tag', buildTag cipher systemTitle invocationCounter' challenge key = .ok tag' := by
  rcases (buildTag_eq_ok_iff cipher _ _ _ _ _).mp h with ⟨hvalid, text, hencrypted⟩
  have hsize (counter : UInt32) : (systemTitle.bytes ++ writeBigEndian32 counter).length =
      Suite0AesGcm.nonceSize := by
    rw [List.length_append, systemTitle.size, writeBigEndian32, Codec.length_beBytes]
    rfl
  have hsome := hcipher key.bytes _ _ (buildGmacAad challenge key) [] (hsize invocationCounter)
    (hsize invocationCounter') (by rw [hencrypted]; rfl)
  rcases Option.isSome_iff_exists.mp hsome with ⟨⟨text', tag'⟩, hencrypted'⟩
  exact ⟨tag', (buildTag_eq_ok_iff cipher _ _ _ _ _).mpr ⟨hvalid, text', hencrypted'⟩⟩
/-- The counter in the header of an answer. -/
def invocationCounterOf (response : Bytes) : UInt32 := readBigEndian32 (response.drop 1)

variable (keys : InMemoryKeyStore)

def buildResponse (challenge : Bytes) (state : HlsGmacState) :
    Except SecurityStatus Bytes × HlsGmacState :=
  if challenge = [] then
    (.error .invalidArgument, state)
  else
    match validateHlsContext state.context with
    | .error status => (.error status, state)
    | .ok () =>
        match getAuthenticationKey keys with
        | .error status => (.error status, state)
        | .ok authenticationKey =>
            match state.counters.nextLocal with
            | (.error status, counters) => (.error status, { state with counters := counters })
            | (.ok invocationCounter, counters) =>
                match buildTag cipher state.context.localSystemTitle invocationCounter challenge
                    authenticationKey with
                | .error status => (.error status, { state with counters := counters })
                | .ok tag =>
                    (.ok (gmacSecurityControl :: (writeBigEndian32 invocationCounter ++ tag)),
                      { state with counters := counters })

def verifyResponse (challenge response : Bytes) (state : HlsGmacState) :
    Except SecurityStatus Unit × HlsGmacState :=
  if challenge = [] then
    (.error .invalidArgument, state)
  else
    match validateHlsContext state.context with
    | .error status => (.error status, state)
    | .ok () =>
        if response.length ≠ responseHeaderSize + responseTagSize then
          (.error .invalidArgument, state)
        else if response.head? ≠ some gmacSecurityControl then
          (.error .authenticationFailed, state)
        else
          match getAuthenticationKey keys with
          | .error status => (.error status, state)
          | .ok authenticationKey =>
              match buildTag cipher state.context.remoteSystemTitle (invocationCounterOf response)
                  challenge authenticationKey with
              | .error status => (.error status, state)
              | .ok expectedTag =>
                  if response.drop responseHeaderSize ≠ expectedTag then
                    (.error .authenticationFailed, state)
                  else
                    -- As for an APDU, the counter is looked at last.
                    match state.counters.validateRemoteForSystemTitle
                        state.context.remoteSystemTitle (invocationCounterOf response) with
                    | (.error status, counters) =>
                        (.error status, { state with counters := counters })
                    | (.ok (), counters) => (.ok (), { state with counters := counters })

/-- An answer is a tag with the next counter, or that counter is spent without
    one, or nothing is done. -/
theorem buildResponse_cases (challenge : Bytes) (state : HlsGmacState) :
    (∃ status, buildResponse cipher keys challenge state = (.error status, state)) ∨
      ∃ key counters, getAuthenticationKey keys = .ok key ∧
        buildResponse cipher keys challenge state =
          ((buildTag cipher state.context.localSystemTitle state.counters.nextLocalCounter challenge
              key).map fun tag =>
                gmacSecurityControl ::
                  (writeBigEndian32 state.counters.nextLocalCounter ++ tag),
            { state with counters := counters }) := by
  unfold buildResponse
  by_cases hchallenge : challenge = []
  · rw [if_pos hchallenge]
    exact .inl ⟨_, rfl⟩
  · rw [if_neg hchallenge]
    cases validateHlsContext state.context with
    | error status => exact .inl ⟨status, rfl⟩
    | ok valid =>
        cases getAuthenticationKey keys with
        | error status => exact .inl ⟨status, rfl⟩
        | ok key =>
            rcases state.counters.nextLocal_cases with ⟨status, h⟩ | ⟨after, h, -, -⟩
            · simp only [h]
              exact .inl ⟨status, rfl⟩
            · simp only [h]
              refine .inr ⟨key, after, rfl, ?_⟩
              cases buildTag cipher state.context.localSystemTitle
                  state.counters.nextLocalCounter challenge key with
              | error status => rfl
              | ok tag => rfl

/-- An answer has the next counter of the store in its header, and behind it the
    tag that was made with it. -/
theorem tag_of_buildResponse (challenge response : Bytes) (state : HlsGmacState)
    (hbuilt : (buildResponse cipher keys challenge state).1 = .ok response) :
    invocationCounterOf response = state.counters.nextLocalCounter ∧
      ∃ key, getAuthenticationKey keys = .ok key ∧
        buildTag cipher state.context.localSystemTitle state.counters.nextLocalCounter challenge
          key = .ok (response.drop responseHeaderSize) := by
  rcases buildResponse_cases cipher keys challenge state with
    ⟨status, h⟩ | ⟨key, counters, hkey, h⟩
  · rw [h] at hbuilt
    cases hbuilt
  · rw [h] at hbuilt
    cases htag : buildTag cipher state.context.localSystemTitle
        state.counters.nextLocalCounter challenge key with
    | error status =>
        rw [htag] at hbuilt
        exact absurd hbuilt (by simp [Except.map])
    | ok tag =>
        rw [htag] at hbuilt
        rw [← Except.ok.inj hbuilt]
        -- One octet of control and four of the counter stand in front of the tag.
        have hsize : (writeBigEndian32 state.counters.nextLocalCounter).length = 4 :=
          Codec.length_beBytes 4 _
        refine ⟨?_, key, hkey, ?_⟩
        · rw [invocationCounterOf, List.drop_succ_cons, List.drop_zero,
            readBigEndian32_writeBigEndian32]
        · rw [htag, responseHeaderSize, List.drop_succ_cons, List.drop_left' hsize]

/-- Verifying fails and changes nothing, or accepts a counter above the mark of
    the peer's title. -/
theorem verifyResponse_cases (challenge response : Bytes) (state : HlsGmacState) :
    (∃ status, verifyResponse cipher keys challenge response state = (.error status, state)) ∨
      (verifyResponse cipher keys challenge response state =
          (.ok (),
            { state with
              counters := state.counters.setMark state.context.remoteSystemTitle
                (invocationCounterOf response) }) ∧
        ∀ mark, state.counters.highestRemoteBySystemTitle state.context.remoteSystemTitle =
          some mark → mark < invocationCounterOf response) := by
  unfold verifyResponse
  by_cases hchallenge : challenge = []
  · simp only [hchallenge, if_true]
    exact .inl ⟨_, rfl⟩
  · simp only [hchallenge, if_false]
    cases validateHlsContext state.context with
    | error status => exact .inl ⟨status, rfl⟩
    | ok valid =>
        simp only
        split_ifs with hsize hcontrol
        · exact .inl ⟨_, rfl⟩
        · exact .inl ⟨_, rfl⟩
        · cases getAuthenticationKey keys with
          | error status => exact .inl ⟨status, rfl⟩
          | ok key =>
              simp only
              cases buildTag cipher state.context.remoteSystemTitle
                  (invocationCounterOf response) challenge key with
              | error status => exact .inl ⟨status, rfl⟩
              | ok expectedTag =>
                  simp only
                  by_cases htag : response.drop responseHeaderSize ≠ expectedTag
                  · rw [if_pos htag]
                    exact .inl ⟨_, rfl⟩
                  · -- Only a right tag gets to the counters.
                    rw [if_neg htag]
                    rcases state.counters.validateRemote_cases state.context.remoteSystemTitle
                      (invocationCounterOf response) with ⟨status, h⟩ | ⟨h, hlarger⟩
                    · simp only [h]
                      exact .inl ⟨status, rfl⟩
                    · simp only [h]
                      exact .inr ⟨trivial, hlarger⟩

/-- Verifying hands out no counter. -/
theorem verifyResponse_local (challenge response : Bytes) (state : HlsGmacState) :
    (verifyResponse cipher keys challenge response state).2.context = state.context ∧
      (verifyResponse cipher keys challenge response state).2.counters.nextLocalCounter =
        state.counters.nextLocalCounter := by
  rcases verifyResponse_cases cipher keys challenge response state with ⟨status, h⟩ | ⟨h, -⟩
  · rw [h]
    exact ⟨rfl, rfl⟩
  · rw [h]
    exact ⟨rfl, rfl⟩

end HlsGmacAuthenticator

end Security

end Dlms
