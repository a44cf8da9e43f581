import CloudLifecycle.Backend.Error
import CloudLifecycle.Capability
import CloudLifecycle.Duration
import CloudLifecycle.Resource.Basic

/-!
# Fleets of backends

What the gateway knows about the backends it stands in front of. It may ask which operations a backend declares
at the moment, look a resource up, and call a backend. A call takes time: it is launched, and some time later it
lands, which is when the backend answers. A call that is given up before it lands never does.

Nothing else is assumed. A fleet may change with every question, and answer as it likes.
-/

namespace CloudLifecycle

/-- A call to a backend. -/
structure Call where
  backend : String
  operation : Operation
  /-- The resource that is meant; a call that makes a new one names none. -/
  resource : Option String
  payload : Payload
  deriving DecidableEq, Repr

/-- The resource that a call names. -/
def Call.key? (call : Call) : Option ResourceKey := call.resource.map (⟨call.backend, call.operation.kind, ·⟩)

/-- What a backend says about the resource of a call that went well. -/
structure Receipt where
  id : String
  rawStatus : String
  deriving DecidableEq, Repr

/-- The answer of a backend. -/
abbrev BackendResult (α : Type) := Except BackendError α

/-- The backends behind a gateway, with the state `σ` of them all and the state `φ` of a call on its way. -/
class Fleet (σ : Type) (φ : outParam Type) where
  /-- The operations that a backend declares at the moment, if there is such a backend. -/
  capabilities : σ → String → Option CapabilitySet
  /-- Looks a resource up. -/
  find : σ → ResourceKey → BackendResult (Option Resource) × σ
  /-- Sends a call off, and says how long it will take. -/
  launch : σ → Call → (Duration × φ) × σ
  /-- Lets a call arrive and answers it. -/
  land : σ → φ → BackendResult Receipt × σ

/-- Whether a backend of the fleet declares an operation. -/
def Fleet.supports {σ φ : Type} [Fleet σ φ] (fleet : σ) (backend operation : String) : Bool :=
  match Fleet.capabilities fleet backend with
  | some declared => declared.contains operation
  | none => false

end CloudLifecycle
