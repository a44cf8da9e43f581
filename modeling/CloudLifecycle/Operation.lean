import CloudLifecycle.Json.Value
import CloudLifecycle.Resource.Kind
import CloudLifecycle.Text.Quoted

/-!
# Operations

A backend is asked to run an action on a resource of some kind. The pair is an operation, and its name is what
backends declare when they say what they can do. With it travel the caller's credentials and the body of the
request, which the gateway hands on as they are.
-/

namespace CloudLifecycle

/-- An action on resources of one kind. -/
structure Operation where
  kind : ResourceKind
  action : String
  deriving DecidableEq, Repr, Inhabited

/-- The name of an operation: the action, an underscore and the kind. -/
def Operation.name (o : Operation) : String := o.action ++ "_" ++ o.kind.name

/-- The operation that makes a new resource. -/
def Operation.create (kind : ResourceKind) : Operation := ⟨kind, "create"⟩

/-- The operation that finishes a new resource once it has come up. -/
def Operation.postCreate (kind : ResourceKind) : Operation := ⟨kind, "post_create"⟩

/-- Who asks, for the backend to judge. -/
structure Credentials where
  user : String
  password : String
  deriving DecidableEq, Repr, Inhabited

namespace Credentials

/-- No user and no password. -/
def none : Credentials := ⟨"", ""⟩

/-- Credentials in diagnostics, where the password never shows. -/
def diagnostic (c : Credentials) : String :=
  "Credentials \x7b user: " ++ Text.quoted c.user ++ ", password: \"<redacted>\" \x7d"

end Credentials

/-- What a backend receives beside the operation and the id. -/
structure Payload where
  credentials : Credentials
  body : Json
  deriving DecidableEq, Repr, Inhabited

/-- No credentials and no body. -/
def Payload.empty : Payload := ⟨.none, .null⟩

end CloudLifecycle
