import Dlms.Hdlc.Types

/-!
# The control field

One octet that says what a frame is: an information frame with two sequence
numbers, a supervisory frame with one, or an unnumbered frame. A control field
is made by `decode` only, so the octet of one is always one it accepts.

## Main definitions

* `HdlcControl`: An accepted octet.
* `frameKind`, `sendSequence`, `receiveSequence`: What it says.
* `makeInformationControl`, `makeReceiveReadyControl`: The octets of the frames
  a connected session sends.

## Theorems

* `sequences_of_information`, `sequence_of_receiveReady`: What is put into an
  octet is what it says.
-/

namespace Dlms

namespace Hdlc

inductive HdlcFrameKind where
  | information
  | supervisory
  | unnumbered
  deriving DecidableEq, Repr

inductive HdlcSupervisoryKind where
  | receiveReady
  | receiveNotReady
  | reject
  | selectiveReject
  deriving DecidableEq, Repr

inductive HdlcUnnumberedKind where
  | snrm
  | ua
  | disc
  | dm
  | frmr
  | ui
  deriving DecidableEq, Repr

def isSupportedUnnumbered (value : UInt8) : Bool :=
  [0x83, 0x63, 0x43, 0x0F, 0x87, 0x03].contains (value &&& 0xEF)

/-- The octets that are accepted as a control field. -/
def isControl (value : UInt8) : Bool :=
  value &&& 0x01 == 0 || value &&& 0x03 == 0x01 || isSupportedUnnumbered value

/-- The control field, as its octet. -/
structure HdlcControl where
  rawValue : UInt8
  accepted : isControl rawValue = true
  deriving DecidableEq

namespace HdlcControl

/-- The control field of a new object. -/
def initial : HdlcControl where
  rawValue := 0
  accepted := rfl

def decode (value : UInt8) : Except HdlcStatus HdlcControl :=
  if h : isControl value = true then .ok { rawValue := value, accepted := h }
  else .error .invalidControlField

def encode (control : HdlcControl) : UInt8 := control.rawValue

theorem decode_encode (control : HdlcControl) : decode control.encode = .ok control := by
  rw [decode, encode, dif_pos control.accepted]

def frameKind (control : HdlcControl) : HdlcFrameKind :=
  if control.rawValue &&& 0x01 = 0 then .information
  else if control.rawValue &&& 0x03 = 0x01 then .supervisory
  else .unnumbered

def pollFinal (control : HdlcControl) : Bool := control.rawValue &&& 0x10 != 0

def supervisoryKind (control : HdlcControl) : Except HdlcStatus HdlcSupervisoryKind :=
  if control.frameKind ≠ .supervisory then .error .invalidFrameType
  else
    match ((control.rawValue >>> 2) &&& 0x03).toNat with
    | 0 => .ok .receiveReady
    | 1 => .ok .receiveNotReady
    | 2 => .ok .reject
    | 3 => .ok .selectiveReject
    | _ => .error .invalidControlField

def unnumberedKind (control : HdlcControl) : Except HdlcStatus HdlcUnnumberedKind :=
  if control.frameKind ≠ .unnumbered then .error .invalidFrameType
  else
    match (control.rawValue &&& 0xEF).toNat with
    | 0x83 => .ok .snrm
    | 0x63 => .ok .ua
    | 0x43 => .ok .disc
    | 0x0F => .ok .dm
    | 0x87 => .ok .frmr
    | 0x03 => .ok .ui
    | _ => .error .invalidControlField

def sendSequence (control : HdlcControl) : UInt8 :=
  if control.frameKind ≠ .information then 0 else (control.rawValue >>> 1) &&& 0x07

def receiveSequence (control : HdlcControl) : UInt8 :=
  if control.frameKind = .unnumbered then 0 else (control.rawValue >>> 5) &&& 0x07

end HdlcControl

/-! ### The octets of a connected session -/

def nextSequence (sequence : UInt8) : UInt8 := (sequence + 1) &&& 0x07

def makeInformationControl (sendSequence receiveSequence : UInt8) (pollFinal : Bool) : UInt8 :=
  ((sendSequence &&& 0x07) <<< 1) ||| (if pollFinal then (0x10 : UInt8) else 0x00) |||
    ((receiveSequence &&& 0x07) <<< 5)

def receiveReadyBase : UInt8 := 0x01

def makeReceiveReadyControl (receiveSequence : UInt8) (pollFinal : Bool) : UInt8 :=
  receiveReadyBase ||| (if pollFinal then (0x10 : UInt8) else 0x00) |||
    ((receiveSequence &&& 0x07) <<< 5)

/-- What an octet has to be to carry these sequence numbers in an information
    frame. -/
def CarriesInformation (sendSequence receiveSequence value : UInt8) : Prop :=
  isControl value = true ∧ value &&& 0x01 = 0 ∧ (value >>> 1) &&& 0x07 = sendSequence ∧
    (value >>> 5) &&& 0x07 = receiveSequence

/-- The same in a frame that acknowledges and no more. -/
def CarriesReceiveReady (receiveSequence value : UInt8) : Prop :=
  isControl value = true ∧ value &&& 0x01 ≠ 0 ∧ value &&& 0x03 = 0x01 ∧
    (value >>> 2) &&& 0x03 = 0 ∧ (value >>> 5) &&& 0x07 = receiveSequence

instance (sendSequence receiveSequence value : UInt8) :
    Decidable (CarriesInformation sendSequence receiveSequence value) :=
  inferInstanceAs (Decidable (_ ∧ _))

instance (receiveSequence value : UInt8) : Decidable (CarriesReceiveReady receiveSequence value) :=
  inferInstanceAs (Decidable (_ ∧ _))

section Octets

variable (sendSequence receiveSequence : UInt8) (hsend : sendSequence.toNat < 8)
  (hreceive : receiveSequence.toNat < 8) (pollFinal : Bool)

include hsend hreceive in
theorem carriesInformation_octet : CarriesInformation sendSequence receiveSequence
    (makeInformationControl sendSequence receiveSequence pollFinal) := by
  have hall : ∀ send receive : Fin 8, ∀ final : Bool,
      CarriesInformation (UInt8.ofNat send.val) (UInt8.ofNat receive.val)
        (makeInformationControl (UInt8.ofNat send.val) (UInt8.ofNat receive.val) final) := by
    decide
  have hthis := hall ⟨sendSequence.toNat, hsend⟩ ⟨receiveSequence.toNat, hreceive⟩ pollFinal
  rw [UInt8.ofNat_toNat, UInt8.ofNat_toNat] at hthis
  exact hthis

include hreceive in
theorem carriesReceiveReady_octet : CarriesReceiveReady receiveSequence
    (makeReceiveReadyControl receiveSequence pollFinal) := by
  have hall : ∀ receive : Fin 8, ∀ final : Bool, CarriesReceiveReady (UInt8.ofNat receive.val)
      (makeReceiveReadyControl (UInt8.ofNat receive.val) final) := by
    decide
  have hthis := hall ⟨receiveSequence.toNat, hreceive⟩ pollFinal
  rw [UInt8.ofNat_toNat] at hthis
  exact hthis

end Octets

/-! ### What the control fields of these octets say -/

section Fields

variable (control : HdlcControl) (sendSequence receiveSequence : UInt8)

theorem sequences_of_information
    (h : CarriesInformation sendSequence receiveSequence control.rawValue) :
    control.frameKind = .information ∧ control.sendSequence = sendSequence ∧
      control.receiveSequence = receiveSequence := by
  rcases h with ⟨-, hkind, hsend, hreceive⟩
  have hinformation : control.frameKind = .information := by
    rw [HdlcControl.frameKind, if_pos hkind]
  refine ⟨hinformation, ?_, ?_⟩
  · rw [HdlcControl.sendSequence, if_neg (by rw [hinformation]; decide), hsend]
  · rw [HdlcControl.receiveSequence, if_neg (by rw [hinformation]; decide), hreceive]

theorem sequence_of_receiveReady (h : CarriesReceiveReady receiveSequence control.rawValue) :
    control.frameKind = .supervisory ∧ control.supervisoryKind = .ok .receiveReady ∧
      control.receiveSequence = receiveSequence := by
  rcases h with ⟨-, hnotInformation, hkind, hready, hreceive⟩
  have hsupervisory : control.frameKind = .supervisory := by
    rw [HdlcControl.frameKind, if_neg hnotInformation, if_pos hkind]
  refine ⟨hsupervisory, ?_, ?_⟩
  · rw [HdlcControl.supervisoryKind, if_neg (by rw [hsupervisory]; decide), hready]
    rfl
  · rw [HdlcControl.receiveSequence, if_neg (by rw [hsupervisory]; decide), hreceive]

end Fields

end Hdlc

end Dlms
