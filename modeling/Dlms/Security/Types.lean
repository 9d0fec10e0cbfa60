import Dlms.Apdu.Axdr

/-!
# Security types

The statuses, keys, system titles and the context the security processors
share.

A system title is eight bytes and carries the proof of it. The loops of the
source that copy an option of any length into such a title copy at most eight
bytes and leave the rest zero, which is `SystemTitle.ofBytes`.

## Main definitions

* `SecurityStatus`: The failure codes.
* `SystemTitle`, `SecurityKey`, `SecurityContext`: What a processor works with.
* `InMemoryKeyStore`: The keys by role.
* `buildNonce`: The nonce of a title and a counter.
-/

namespace Dlms

namespace Security

open Codec
open Apdu (Bytes)

/-- Failure codes of the security processors. -/
inductive SecurityStatus where
  | invalidArgument
  | invalidContext
  | unsupportedFeature
  | missingKey
  | invalidKeyLength
  | invalidSystemTitle
  | invalidInvocationCounter
  | invocationCounterExhausted
  | replayDetected
  | authenticationFailed
  | cipherFailed
  | decipherFailed
  | outputBufferTooSmall
  | internalError
  deriving DecidableEq, Repr

def systemTitleSize : Nat := 8

/-- A system title: eight bytes. -/
structure SystemTitle where
  bytes : Bytes
  size : bytes.length = systemTitleSize
  deriving DecidableEq

namespace SystemTitle

/-- Copy up to eight bytes over a zero title. -/
def ofBytes (bytes : Bytes) : SystemTitle where
  bytes := (bytes ++ List.replicate systemTitleSize 0).take systemTitleSize
  size := by
    rw [List.length_take, List.length_append, List.length_replicate]
    omega

/-- The title of an empty context. -/
def zero : SystemTitle := ofBytes []

end SystemTitle

/-- A title is valid when some byte of it is not zero. -/
def isValidSystemTitle (title : SystemTitle) : Bool := title.bytes.any (· != 0)

inductive SecuritySuite where
  | suite0
  | suite1
  | suite2
  deriving DecidableEq, Repr

inductive SecurityRole where
  | client
  | server
  deriving DecidableEq, Repr

inductive SecurityKeyRole where
  | globalUnicastEncryption
  | globalBroadcastEncryption
  | authentication
  | keyEncryption
  | dedicated
  deriving DecidableEq, Repr

inductive SecurityPolicy where
  | none
  | authenticated
  | encrypted
  | authenticatedAndEncrypted
  deriving DecidableEq, Repr

/-- A key is the used part of the source's array; its size is its length. -/
structure SecurityKey where
  role : SecurityKeyRole
  bytes : Bytes
  deriving DecidableEq, Repr

/-- Whose keys, and how an APDU is protected. -/
structure SecurityContext where
  suite : SecuritySuite
  policy : SecurityPolicy
  role : SecurityRole
  clientSap : UInt16
  serverSap : UInt16
  localSystemTitle : SystemTitle
  remoteSystemTitle : SystemTitle
  deriving DecidableEq

def emptySecurityContext : SecurityContext where
  suite := .suite0
  policy := .none
  role := .client
  clientSap := 0
  serverSap := 0
  localSystemTitle := .zero
  remoteSystemTitle := .zero

def requiredKeySize (suite : SecuritySuite) : Nat :=
  match suite with
  | .suite0 | .suite1 => 16
  | .suite2 => 32

def validateSecurityKey (suite : SecuritySuite) (key : SecurityKey) : Except SecurityStatus Unit :=
  if key.bytes.length = 0 then .error .missingKey
  else if key.bytes.length ≠ requiredKeySize suite then .error .invalidKeyLength
  else .ok ()

def validateSecurityContext (context : SecurityContext) : Except SecurityStatus Unit :=
  if context.suite ≠ .suite0 then .error .unsupportedFeature
  else if context.clientSap = 0 ∨ context.serverSap = 0 then .error .invalidContext
  else if context.policy = .none then .ok ()
  else if !isValidSystemTitle context.localSystemTitle ||
      !isValidSystemTitle context.remoteSystemTitle then .error .invalidSystemTitle
  else .ok ()

/-- The keys of a processor, at most one for each role. -/
structure InMemoryKeyStore where
  keys : SecurityKeyRole → Option SecurityKey

namespace InMemoryKeyStore

def empty : InMemoryKeyStore := ⟨fun _ => none⟩

/-- Octets of the source's key array. -/
def maximumKeySize : Nat := 32

def setKey (store : InMemoryKeyStore) (key : SecurityKey) :
    Except SecurityStatus InMemoryKeyStore :=
  if key.bytes.length = 0 ∨ key.bytes.length > maximumKeySize then
    .error .invalidKeyLength
  else
    .ok ⟨fun role => if role = key.role then some key else store.keys role⟩

def getKey (store : InMemoryKeyStore) (role : SecurityKeyRole) :
    Except SecurityStatus SecurityKey :=
  match store.keys role with
  | none => .error .missingKey
  | some key => .ok key

theorem keys_setKey (store after : InMemoryKeyStore) (key : SecurityKey)
    (h : store.setKey key = .ok after) :
    after.keys = fun role => if role = key.role then some key else store.keys role := by
  unfold setKey at h
  split_ifs at h with hsize
  rw [← Except.ok.inj h]

end InMemoryKeyStore

/-- A key of suite 0, looked up and checked. -/
def getSuite0Key (keys : InMemoryKeyStore) (role : SecurityKeyRole) :
    Except SecurityStatus SecurityKey := do
  let key ← keys.getKey role
  validateSecurityKey .suite0 key
  pure key

/-! ### Counters and nonces on the wire -/

def writeBigEndian32 (value : UInt32) : Bytes := beBytes 4 value.toNat

def readBigEndian32 (input : Bytes) : UInt32 := UInt32.ofNat (beValue (input.take 4))

/-- The nonce of a message: the sender's title and its counter. -/
def buildNonce (title : SystemTitle) (invocationCounter : UInt32) :
    Except SecurityStatus Bytes :=
  if !isValidSystemTitle title then .error .invalidSystemTitle
  else .ok (title.bytes ++ writeBigEndian32 invocationCounter)

theorem readBigEndian32_writeBigEndian32 (value : UInt32) (rest : Bytes) :
    readBigEndian32 (writeBigEndian32 value ++ rest) = value := by
  have hlt : value.toNat < 256 ^ 4 := value.toNat_lt
  have htake : (writeBigEndian32 value ++ rest).take 4 = writeBigEndian32 value :=
    List.take_left' (length_beBytes 4 _)
  rw [readBigEndian32, htake, writeBigEndian32, beValue_beBytes_of_lt _ _ hlt, UInt32.ofNat_toNat]

end Security

end Dlms
