import CloudLifecycle.Operation
import CloudLifecycle.Resource.Key

/-!
# Requests

What a caller asks of the gateway: an action on a resource, or a new resource.
-/

namespace CloudLifecycle

/-- A request to run an action on a resource. -/
structure ActionRequest where
  backend : String
  kind : ResourceKind
  resourceId : String
  action : String
  credentials : Credentials
  body : Json
  deriving DecidableEq, Repr

namespace ActionRequest

/-- The operation that is asked for. -/
def operation (r : ActionRequest) : Operation := ⟨r.kind, r.action⟩

/-- The resource that is meant. -/
def key (r : ActionRequest) : ResourceKey := ⟨r.backend, r.kind, r.resourceId⟩

/-- What the backend receives with the operation. -/
def payload (r : ActionRequest) : Payload := ⟨r.credentials, r.body⟩

end ActionRequest

/-- A request to make a resource. -/
structure CreateRequest where
  backend : String
  kind : ResourceKind
  credentials : Credentials
  body : Json
  deriving DecidableEq, Repr

namespace CreateRequest

/-- The operation that is asked for. -/
def operation (r : CreateRequest) : Operation := .create r.kind

/-- What the backend receives with the operation. -/
def payload (r : CreateRequest) : Payload := ⟨r.credentials, r.body⟩

end CreateRequest

end CloudLifecycle
