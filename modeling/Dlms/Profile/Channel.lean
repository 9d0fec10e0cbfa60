import Dlms.Apdu.Axdr

/-!
# APDU channels

What the application layer needs of a communication profile: to send an APDU
and to receive one. A channel has a state of its own, which is the peer as far
as the layer above can tell.

## Main definitions

* `ProfileStatus`: The failure codes of a channel.
* `ApduChannel`: Sending and receiving.
-/

namespace Dlms

namespace Profile

open Apdu (Bytes)

/-- Failure codes of a channel. -/
inductive ProfileStatus where
  | needMoreData
  | outputBufferTooSmall
  | invalidArgument
  | notOpen
  | alreadyOpen
  | openFailed
  | readFailed
  | writeFailed
  | timeout
  | connectionClosed
  | wouldBlock
  | invalidFrame
  | invalidLength
  | invalidAddress
  | payloadTooLarge
  | unsupportedFeature
  | internalError
  deriving DecidableEq, Repr

/-- A channel over a state of its own. -/
structure ApduChannel (χ : Type) where
  sendApdu : Bytes → χ → Except ProfileStatus Unit × χ
  receiveApdu : χ → Except ProfileStatus Bytes × χ

end Profile

end Dlms
