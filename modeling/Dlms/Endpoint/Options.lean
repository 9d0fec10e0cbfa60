import Dlms.Association.Types
import Dlms.Xdlms.Types

/-!
# Endpoint options

What an endpoint is configured with, and the checks an endpoint makes before it
opens. A password, a title or a key is a pointer with a size in the source, and
the checks look at both: a null pointer with a size is refused where a missing
value would do.

The transport options and the trace sinks are read by the factories that make
channels and by nothing here, and are left out.

## Main definitions

* `EndpointStatus`: The failure codes, and the maps from those below.
* `ByteOption`: A pointer and a size.
* `ServerEndpointOptions`: The configuration of a server.
* `validateEndpointProfileOptions`, `validateEndpointSecurityOptions`: The checks.
-/

namespace Dlms

namespace Endpoint

open Apdu (Bytes)
open Association (AssociationStatus)
open Profile (ProfileStatus)
open Xdlms (XdlmsStatus)

/-- Failure codes of an endpoint. -/
inductive EndpointStatus where
  | invalidArgument
  | invalidState
  | unsupportedProfile
  | transportFailed
  | profileFailed
  | associationFailed
  | securityFailed
  | serviceFailed
  | timeout
  | closed
  | internalError
  deriving DecidableEq, Repr

def mapAssociationStatus (status : AssociationStatus) : EndpointStatus :=
  match status with
  | .invalidArgument => .invalidArgument
  | .invalidState => .invalidState
  | .receiveFailed => .profileFailed
  | .unsupportedApplicationContext | .unsupportedAuthentication | .sendFailed | .encodeFailed
  | .decodeFailed | .associationRejected | .negotiationFailed | .channelOpenFailed
  | .channelCloseFailed | .alreadyAssociated | .internalError => .associationFailed

/-- A channel that is open already is no failure. -/
def mapProfileStatus (status : ProfileStatus) : Except EndpointStatus Unit :=
  match status with
  | .alreadyOpen => .ok ()
  | .invalidArgument => .error .invalidArgument
  | .notOpen => .error .invalidState
  | .openFailed => .error .profileFailed
  | .timeout => .error .timeout
  | .connectionClosed => .error .closed
  | .unsupportedFeature => .error .unsupportedProfile
  | .readFailed | .writeFailed | .wouldBlock | .needMoreData | .outputBufferTooSmall
  | .invalidFrame | .invalidLength | .invalidAddress | .payloadTooLarge => .error .profileFailed
  | .internalError => .error .internalError

/-- The outcome of a call of the channel without an output. -/
def ofProfile (outcome : Except ProfileStatus Unit) : Except EndpointStatus Unit :=
  match outcome with
  | .ok () => .ok ()
  | .error status => mapProfileStatus status

def mapXdlmsStatus (status : XdlmsStatus) : EndpointStatus :=
  match status with
  | .invalidArgument => .invalidArgument
  | .invalidState | .notAssociated => .invalidState
  | .sendFailed | .receiveFailed | .serviceRejected => .serviceFailed
  | .securityFailed => .securityFailed
  | .unsupportedFeature | .blockTransferRequired => .unsupportedProfile
  | .encodeFailed | .decodeFailed | .invokeIdMismatch | .internalError => .internalError

/-- A pointer with a size: a null pointer still has one. -/
inductive ByteOption where
  | null (size : Nat)
  | bytes (data : Bytes)
  deriving DecidableEq, Repr

namespace ByteOption

def isNull : ByteOption → Bool
  | null _ => true
  | bytes _ => false

def size : ByteOption → Nat
  | null size => size
  | bytes data => data.length

/-- What the pointer points to. -/
def data : ByteOption → Bytes
  | null _ => []
  | bytes data => data

end ByteOption

inductive EndpointProfileKind where
  | wrapper
  | hdlc
  deriving DecidableEq, Repr

inductive EndpointAuthenticationKind where
  | none
  | lowPassword
  | highPassword
  | highGmac
  deriving DecidableEq, Repr

structure EndpointProfileOptions where
  kind : EndpointProfileKind := .wrapper
  clientSap : UInt16 := 16
  serverSap : UInt16 := 1
  hdlcClientAddress : UInt8 := 0x10
  hdlcLogicalDeviceAddress : UInt16 := 1
  hdlcPhysicalDeviceAddress : UInt16 := 0
  maxApduSize : Nat := 1024
  deriving DecidableEq, Repr

structure EndpointSecurityOptions where
  authentication : EndpointAuthenticationKind := .none
  password : ByteOption := .null 0
  systemTitle : ByteOption := .null 0
  peerSystemTitle : ByteOption := .null 0
  globalUnicastEncryptionKey : ByteOption := .null 0
  authenticationKey : ByteOption := .null 0
  invocationCounter : UInt32 := 0
  cipheredApdu : Bool := false
  deriving DecidableEq, Repr

structure ServerEndpointOptions where
  profile : EndpointProfileOptions := {}
  security : EndpointSecurityOptions := {}
  negotiateAssociation : Bool := false
  deriving DecidableEq, Repr

/-- The address of a device is made and dropped again in the source: under the
    bounds checked before it, it cannot fail. -/
def validateEndpointProfileOptions (options : EndpointProfileOptions) :
    Except EndpointStatus Unit :=
  if options.clientSap = 0 ∨ options.serverSap = 0 ∨ options.maxApduSize = 0 then
    .error .invalidArgument
  else
    match options.kind with
    | .wrapper => .ok ()
    | .hdlc =>
        if options.clientSap > 0x7F ∨ options.serverSap > 0x3FFF ∨
            options.hdlcClientAddress = 0 ∨ options.hdlcClientAddress > 0x7F ∨
            options.hdlcLogicalDeviceAddress > 0x3FFF ∨
            options.hdlcPhysicalDeviceAddress > 0x3FFF then
          .error .invalidArgument
        else
          .ok ()

/-- A pointer that is null with no size, or points to as many bytes. -/
def isAbsentOrOfSize (option : ByteOption) (size : Nat) : Bool :=
  match option with
  | .null absent => absent == 0
  | .bytes data => data.length == size

/-- A pointer to as many bytes. -/
def isPresentOfSize (option : ByteOption) (size : Nat) : Bool :=
  !option.isNull && option.size == size

def validateEndpointSecurityOptions (options : EndpointSecurityOptions) :
    Except EndpointStatus Unit :=
  if !isAbsentOrOfSize options.peerSystemTitle 8 then
    .error .invalidArgument
  else
    match options.authentication with
    | .none => if options.cipheredApdu then .error .invalidArgument else .ok ()
    | .lowPassword | .highPassword =>
        if options.cipheredApdu then .error .invalidArgument
        else if options.password.isNull ∨ options.password.size = 0 then .error .invalidArgument
        else .ok ()
    | .highGmac =>
        if !isPresentOfSize options.systemTitle 8 ∨
            !isPresentOfSize options.authenticationKey 16 then
          .error .invalidArgument
        else if !isAbsentOrOfSize options.globalUnicastEncryptionKey 16 then
          .error .invalidArgument
        else if options.cipheredApdu ∧ options.globalUnicastEncryptionKey.isNull then
          .error .invalidArgument
        else
          .ok ()

end Endpoint

end Dlms
