import Dlms.Apdu.Xdlms
import Dlms.Security.Types

/-!
# xDLMS service types

The statuses, options, descriptors and results the xDLMS client and server
share. A result of a service travels through several records on its way to the
wire, each with its own way of saying whether there is data; this one says it
with a flag next to the bytes.

Failing calls of the source leave an output argument empty and return a
status, so they are `Except` values here.

## Main definitions

* `XdlmsStatus`: The failure codes of the services.
* `ServiceOptions`: What a service may do, with `defaultServiceOptions`.
* `GetResult`, `SetResult`, `ActionResult`: What a service returns.
* `InvokeIdAllocator`: The client's source of invoke ids.

## Theorems

* `invokeId_makeInvokeIdAndPriority`: The invoke id survives the byte it
  shares with the flags.
* `parseServiceOptions_makeInvokeIdAndPriority`: So do the flags.
-/

namespace Dlms

namespace Xdlms

open Apdu (Bytes LogicalName)
open Security (SecurityStatus)

/-- Failure codes of the xDLMS services. -/
inductive XdlmsStatus where
  | invalidArgument
  | invalidState
  | notAssociated
  | sendFailed
  | receiveFailed
  | encodeFailed
  | decodeFailed
  | invokeIdMismatch
  | serviceRejected
  | blockTransferRequired
  | unsupportedFeature
  | securityFailed
  | internalError
  deriving DecidableEq, Repr

structure CosemAttributeDescriptor where
  classId : UInt16
  instanceId : LogicalName
  attributeId : UInt8
  deriving DecidableEq, Repr

structure CosemMethodDescriptor where
  classId : UInt16
  instanceId : LogicalName
  methodId : UInt8
  deriving DecidableEq, Repr

/-- Priorities, and the sizes of blocks and transfers. -/
structure ServiceOptions where
  confirmed : Bool
  highPriority : Bool
  allowBlockTransfer : Bool
  maxBlockTransferBytes : Nat
  maxGetBlockPayloadBytes : Nat
  maxSetBlockPayloadBytes : Nat
  maxActionBlockPayloadBytes : Nat
  deriving DecidableEq, Repr

structure GetResult where
  invokeId : UInt8 := 0
  hasData : Bool := false
  data : Bytes := []
  hasAccessResult : Bool := false
  accessResult : UInt8 := 0
  deriving DecidableEq, Repr

structure SetResult where
  invokeId : UInt8 := 0
  accessResult : UInt8 := 0
  deriving DecidableEq, Repr

structure ActionResult where
  invokeId : UInt8 := 0
  actionResult : UInt8 := 0
  hasData : Bool := false
  data : Bytes := []
  deriving DecidableEq, Repr

def defaultServiceOptions : ServiceOptions where
  confirmed := true
  highPriority := false
  allowBlockTransfer := true
  maxBlockTransferBytes := 65536
  maxGetBlockPayloadBytes := 1024
  maxSetBlockPayloadBytes := 1024
  maxActionBlockPayloadBytes := 1024

def emptyLogicalName : LogicalName := ⟨0, 0, 0, 0, 0, 0⟩

/-- What protects and unprotects APDUs, over a state of its own. -/
structure SecurityProcessor (σ : Type) where
  protect : Bytes → σ → Except SecurityStatus Bytes × σ
  unprotect : Bytes → σ → Except SecurityStatus Bytes × σ

/-! ### Validation -/

/-- A class, an identifier and a logical name that is not all zero: the check
    both kinds of descriptor pass. -/
def validateName (classId : UInt16) (instanceId : LogicalName) (id : UInt8) :
    Except XdlmsStatus Unit :=
  if classId = 0 ∨ id = 0 then .error .invalidArgument
  else if instanceId = emptyLogicalName then .error .invalidArgument
  else .ok ()

def validateDescriptor (descriptor : CosemAttributeDescriptor) : Except XdlmsStatus Unit :=
  validateName descriptor.classId descriptor.instanceId descriptor.attributeId

def validateMethodDescriptor (descriptor : CosemMethodDescriptor) : Except XdlmsStatus Unit :=
  validateName descriptor.classId descriptor.instanceId descriptor.methodId

def validateInvokeId (invokeId : UInt8) : Except XdlmsStatus Unit :=
  if invokeId ≥ 1 ∧ invokeId ≤ 15 then .ok () else .error .invalidArgument

structure SelectiveAccessDescriptor where
  selector : UInt8
  encodedParameters : Bytes
  deriving DecidableEq, Repr

def validateSelectiveAccess (selectiveAccess : SelectiveAccessDescriptor) :
    Except XdlmsStatus Unit :=
  if selectiveAccess.selector = 0 ∨ selectiveAccess.encodedParameters = [] then
    .error .invalidArgument
  else
    .ok ()

def validateOptionalSelectiveAccess (selectiveAccess : Option SelectiveAccessDescriptor) :
    Except XdlmsStatus Unit :=
  match selectiveAccess with
  | none => .ok ()
  | some selectiveAccess => validateSelectiveAccess selectiveAccess

/-! ### Invoke id and priority -/

def makeInvokeIdAndPriority (invokeId : UInt8) (options : ServiceOptions) : UInt8 :=
  (invokeId &&& 0x0F) ||| (if options.confirmed then 0x80 else 0) |||
    (if options.highPriority then 0x40 else 0)

def parseServiceOptions (invokeIdAndPriority : UInt8) (defaults : ServiceOptions) :
    ServiceOptions :=
  { defaults with
    confirmed := invokeIdAndPriority &&& 0x80 != 0
    highPriority := invokeIdAndPriority &&& 0x40 != 0 }

theorem forall_uint8_of_nat {p : UInt8 → Prop} (h : ∀ n < 256, p (UInt8.ofNat n)) (b : UInt8) :
    p b := by
  have hb := h b.toNat b.toNat_lt
  rwa [UInt8.ofNat_toNat] at hb

/-- The invoke id survives the byte it shares with the two flags. -/
theorem invokeId_makeInvokeIdAndPriority (invokeId : UInt8) (options : ServiceOptions) :
    makeInvokeIdAndPriority invokeId options &&& 0x0F = invokeId &&& 0x0F := by
  rw [makeInvokeIdAndPriority]
  revert invokeId
  apply forall_uint8_of_nat
  cases options.confirmed <;> cases options.highPriority <;> decide +kernel

/-- So do the flags. -/
theorem parseServiceOptions_makeInvokeIdAndPriority (invokeId : UInt8)
    (options defaults : ServiceOptions) :
    parseServiceOptions (makeInvokeIdAndPriority invokeId options) defaults =
      { defaults with
        confirmed := options.confirmed
        highPriority := options.highPriority } := by
  rw [parseServiceOptions, makeInvokeIdAndPriority]
  congr 1
  · revert invokeId
    apply forall_uint8_of_nat
    cases options.confirmed <;> cases options.highPriority <;> decide +kernel
  · revert invokeId
    apply forall_uint8_of_nat
    cases options.confirmed <;> cases options.highPriority <;> decide +kernel

/-- The client's source of invoke ids: 1 to 15, over and over. -/
structure InvokeIdAllocator where
  next : UInt8
  valid : validateInvokeId next = .ok ()

namespace InvokeIdAllocator

def initial : InvokeIdAllocator where
  next := 1
  valid := rfl

/-- The id after this one. -/
def following (id : UInt8) : UInt8 :=
  if (id + 1) &&& 0x0F = 0 then 1 else (id + 1) &&& 0x0F

theorem validateInvokeId_following (id : UInt8) : validateInvokeId (following id) = .ok () := by
  revert id
  apply forall_uint8_of_nat
  decide +kernel

/-- The id to use, and the allocator after it. -/
def take (allocator : InvokeIdAllocator) : UInt8 × InvokeIdAllocator :=
  (allocator.next, ⟨following allocator.next, validateInvokeId_following _⟩)

end InvokeIdAllocator

end Xdlms

end Dlms
