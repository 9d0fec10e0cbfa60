import Dlms.Apdu.Axdr

/-!
# The LLC sublayer

Three octets in front of an APDU. The sender says in which direction the APDU
goes; the receiver accepts either direction.

## Main definitions

* `LlcHeader`, `makeLlcHeader`: The three octets.
* `encodeLpdu`, `decodeLpdu`: With the APDU behind them.

## Theorems

* `encodeLpdu_makeLlcHeader`: What is encoded.
* `decodeLpdu_lpduBytes`: What is encoded is decoded.
-/

namespace Dlms

namespace Llc

open Apdu (Bytes)

inductive LlcStatus where
  | needMoreData
  | outputBufferTooSmall
  | invalidArgument
  | invalidHeader
  | invalidDsap
  | invalidSsap
  | invalidControl
  | invalidLpduLength
  | lsduTooLarge
  | broadcastEncodeForbidden
  | unsupportedAddress
  | unsupportedControl
  | unsupportedFeature
  | internalError
  deriving DecidableEq, Repr

inductive LlcDirection where
  | clientToServer
  | serverToClient
  deriving DecidableEq, Repr

structure LlcHeader where
  dsap : UInt8
  ssap : UInt8
  control : UInt8
  deriving DecidableEq, Repr

def llcDsapDlms : UInt8 := 0xE6

def llcSsapClient : UInt8 := 0xE6

def llcSsapServer : UInt8 := 0xE7

def llcDsapBroadcast : UInt8 := 0xFF

def llcControlDefault : UInt8 := 0x00

def llcHeaderSize : Nat := 3

def makeLlcHeader (direction : LlcDirection) : LlcHeader where
  dsap := llcDsapDlms
  ssap :=
    match direction with
    | .clientToServer => llcSsapClient
    | .serverToClient => llcSsapServer
  control := llcControlDefault

def isKnownSourceLsap (ssap : UInt8) : Bool := ssap == llcSsapClient || ssap == llcSsapServer

def validateLlcHeader (header : LlcHeader) (allowBroadcastDestination : Bool) :
    Except LlcStatus Unit :=
  if header.control ≠ llcControlDefault then .error .unsupportedControl
  else if header.dsap = llcDsapBroadcast ∧ !allowBroadcastDestination then
    .error .broadcastEncodeForbidden
  else if header.dsap ≠ llcDsapBroadcast ∧ header.dsap ≠ llcDsapDlms then .error .invalidDsap
  else if !isKnownSourceLsap header.ssap then .error .invalidSsap
  else .ok ()

/-- Sizes are numbers of 64 bits. -/
def maximumLsduSize : Nat := 2 ^ 64 - 1 - llcHeaderSize

def encodeLpdu (header : LlcHeader) (lsdu : Bytes) : Except LlcStatus Bytes :=
  if lsdu.length > maximumLsduSize then .error .lsduTooLarge
  else
    match validateLlcHeader header false with
    | .error status => .error status
    | .ok () => .ok (header.dsap :: header.ssap :: header.control :: lsdu)

def decodeLpdu (input : Bytes) (allowBroadcastDestination : Bool) :
    Except LlcStatus (LlcHeader × Bytes) :=
  match input with
  | dsap :: ssap :: control :: lsdu =>
      let header : LlcHeader := { dsap := dsap, ssap := ssap, control := control }
      match validateLlcHeader header allowBroadcastDestination with
      | .error status => .error status
      | .ok () => .ok (header, lsdu)
  | _ => .error .needMoreData

theorem validate_makeLlcHeader (direction : LlcDirection) (allowBroadcastDestination : Bool) :
    validateLlcHeader (makeLlcHeader direction) allowBroadcastDestination = .ok () := by
  cases direction with
  | clientToServer => rfl
  | serverToClient => rfl

/-- The octets of an LPDU. -/
def lpduBytes (direction : LlcDirection) (apdu : Bytes) : Bytes :=
  (makeLlcHeader direction).dsap :: (makeLlcHeader direction).ssap ::
    (makeLlcHeader direction).control :: apdu

theorem encodeLpdu_makeLlcHeader (direction : LlcDirection) (apdu : Bytes)
    (h : apdu.length ≤ maximumLsduSize) :
    encodeLpdu (makeLlcHeader direction) apdu = .ok (lpduBytes direction apdu) := by
  rw [encodeLpdu, if_neg (Nat.not_lt.mpr h), validate_makeLlcHeader]
  rfl

theorem decodeLpdu_lpduBytes (direction : LlcDirection) (apdu : Bytes)
    (allowBroadcastDestination : Bool) :
    decodeLpdu (lpduBytes direction apdu) allowBroadcastDestination =
      .ok (makeLlcHeader direction, apdu) := by
  have hvalid := validate_makeLlcHeader direction allowBroadcastDestination
  simp only [decodeLpdu, lpduBytes]
  rw [show (⟨(makeLlcHeader direction).dsap, (makeLlcHeader direction).ssap,
    (makeLlcHeader direction).control⟩ : LlcHeader) = makeLlcHeader direction from rfl, hvalid]

end Llc

end Dlms
