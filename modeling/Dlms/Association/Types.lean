import Dlms.Apdu.Acse
import Dlms.Profile.Channel

/-!
# Association types

What the two ends of an association share: the statuses and states, the
mechanisms of high-level security, the result of a negotiation, and the raw
fields of the association APDUs that carry the authentication.

A field of this kind is short: its tag, two lengths of one octet each with the
type between them, and at most 125 octets. The two ends read it alike, except
that the server looks for the only field with a tag and the client for the
first.

## Main definitions

* `AssociationStatus`, `AssociationState`: How a call ends, and what it leaves.
* `HighLevelSecurityMechanism`: The mechanisms and their numbers.
* `AssociationResult`: What was negotiated.
* `makeTypedField`, `decodeTypedField`: A short field around a value.

## Theorems

* `decodeTypedField_makeTypedField`: A short value comes back.
-/

namespace Dlms

namespace Association

open Apdu (Bytes AcseRawField)

/-- Failure codes of an association. -/
inductive AssociationStatus where
  | invalidArgument
  | invalidState
  | unsupportedApplicationContext
  | unsupportedAuthentication
  | channelOpenFailed
  | channelCloseFailed
  | sendFailed
  | receiveFailed
  | encodeFailed
  | decodeFailed
  | associationRejected
  | negotiationFailed
  | alreadyAssociated
  | internalError
  deriving DecidableEq, Repr

inductive AssociationState where
  | closed
  | opened
  | associating
  | associated
  deriving DecidableEq, Repr

inductive AuthenticationMode where
  | none
  | lowLevelSecurity
  | highLevelSecurity
  deriving DecidableEq, Repr

inductive HighLevelSecurityMechanism where
  | unknown
  | hlsHigh
  | hlsMd5
  | hlsSha1
  | hlsGmac
  deriving DecidableEq, Repr

/-- The last octet of a mechanism's name. -/
def hlsMechanismId (mechanism : HighLevelSecurityMechanism) : Option UInt8 :=
  match mechanism with
  | .hlsHigh => some 2
  | .hlsMd5 => some 3
  | .hlsSha1 => some 4
  | .hlsGmac => some 5
  | .unknown => none

def hlsMechanismFromId (mechanismId : UInt8) : Option HighLevelSecurityMechanism :=
  if mechanismId = 2 then some .hlsHigh
  else if mechanismId = 3 then some .hlsMd5
  else if mechanismId = 4 then some .hlsSha1
  else if mechanismId = 5 then some .hlsGmac
  else none

/-- What was negotiated. Only the fields that some caller reads are kept. -/
structure AssociationResult where
  negotiatedDlmsVersionNumber : UInt8 := 0
  serverMaxReceivePduSize : UInt16 := 0
  highLevelSecurityServerChallenge : Bytes := []
  callingApplicationTitle : Bytes := []
  respondingApplicationTitle : Bytes := []
  deriving DecidableEq, Repr

def emptyAssociationResult : AssociationResult := {}

/-- A channel that was open already is as good as one that has been opened. -/
def isProfileOk (status : Except Profile.ProfileStatus Unit) : Bool :=
  match status with
  | .ok () | .error .alreadyOpen => true
  | .error _ => false

/-! ### Raw fields -/

def senderAcseRequirementsTag : UInt8 := 0x8A

def mechanismNameTag : UInt8 := 0x8B

def respondingApTitleTag : UInt8 := 0xA4

def callingApTitleTag : UInt8 := 0xA6

def respondingAuthenticationValueTag : UInt8 := 0xAA

def callingAuthenticationValueTag : UInt8 := 0xAC

def charstringAuthenticationValueTag : UInt8 := 0x80

def octetStringTag : UInt8 := 0x04

def maxShortBerAuthenticationValueSize : Nat := 125

def makeSenderAcseRequirementsField : Bytes := [senderAcseRequirementsTag, 0x02, 0x07, 0x80]

/-- The name of a mechanism in front of its number. -/
def mechanismNamePrefix : Bytes := [mechanismNameTag, 0x07, 0x60, 0x85, 0x74, 0x05, 0x08, 0x02]

def makeLowLevelSecurityMechanismField : Bytes := mechanismNamePrefix ++ [0x01]

def makeHighLevelSecurityMechanismField (mechanism : HighLevelSecurityMechanism) : Bytes :=
  mechanismNamePrefix ++ [(hlsMechanismId mechanism).getD 0]

/-- A value of a type in a short field. -/
def makeTypedField (tag typeTag : UInt8) (value : Bytes) : Bytes :=
  tag :: UInt8.ofNat (value.length + 2) :: typeTag :: UInt8.ofNat value.length :: value

def makeAuthenticationValueField (tag : UInt8) (value : Bytes) : Bytes :=
  makeTypedField tag charstringAuthenticationValueTag value

def makeOctetStringField (tag : UInt8) (value : Bytes) : Bytes :=
  makeTypedField tag octetStringTag value

/-- The value of a short field whose tag, type and two lengths are right. -/
def decodeTypedField (encoded : Bytes) (tag typeTag : UInt8) : Option Bytes :=
  match encoded with
  | first :: outerSize :: kind :: innerSize :: value =>
      if first = tag ∧ kind = typeTag ∧ innerSize.toNat = value.length ∧
          outerSize.toNat = value.length + 2 then
        some value
      else
        none
  | _ => none

def rawField (encoded : Bytes) : AcseRawField where
  tag := encoded.headD 0
  encoded := encoded

theorem decodeTypedField_makeTypedField (tag typeTag : UInt8) (value : Bytes)
    (hsize : value.length ≤ maxShortBerAuthenticationValueSize) :
    decodeTypedField (makeTypedField tag typeTag value) tag typeTag = some value := by
  have hbound : value.length ≤ 125 := hsize
  have hinner : (UInt8.ofNat value.length).toNat = value.length := by
    rw [UInt8.toNat_ofNat', Nat.mod_eq_of_lt (by omega)]
  have houter : (UInt8.ofNat (value.length + 2)).toNat = value.length + 2 := by
    rw [UInt8.toNat_ofNat', Nat.mod_eq_of_lt (by omega)]
  rw [makeTypedField, decodeTypedField, if_pos ⟨rfl, rfl, hinner, houter⟩]

end Association

end Dlms
