import CloudLifecycle.Json.Value
import CloudLifecycle.Resource.Key

/-!
# Resources

A resource as a backend shows it: its identity, the word that the backend uses for its status, and its
attributes. The moments at which it was made and last changed (`created_at` and `updated_at`) are left out, since nothing
is decided by them. Where a resource is sent, they stand beside it (`StoredResource`).
-/

namespace CloudLifecycle

/-- A resource as its backend reports it. -/
structure Resource where
  id : String
  kind : ResourceKind
  backend : String
  rawStatus : String
  attributes : Std.ExtTreeMap String Json
  deriving DecidableEq

namespace Resource

/-- A resource without attributes. -/
def plain (backend : String) (kind : ResourceKind) (id rawStatus : String) : Resource :=
  ⟨id, kind, backend, rawStatus, ∅⟩

/-- The key under which the resource is known. -/
def key (r : Resource) : ResourceKey := ⟨r.backend, r.kind, r.id⟩

/-- The resource with one attribute set. -/
def withAttribute (r : Resource) (name : String) (value : Json) : Resource :=
  { r with attributes := r.attributes.insert name value }

/-- The resource with the members of an object as attributes; any other value adds none. -/
def withBody (r : Resource) : Json → Resource
  | .obj members => members.foldl (fun r m => r.withAttribute m.1 m.2) r
  | _ => r

/-- The resource under another status. -/
def withStatus (r : Resource) (raw : String) : Resource := { r with rawStatus := raw }

/-- The value of an attribute. -/
def attribute? (r : Resource) (name : String) : Option Json := r.attributes[name]?

end Resource

end CloudLifecycle
