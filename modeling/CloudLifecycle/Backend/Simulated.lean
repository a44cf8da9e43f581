import CloudLifecycle.Backend.Fleet
import CloudLifecycle.Backend.Profile
import CloudLifecycle.Uuid

/-!
# Simulated backends

A backend that lives in memory and behaves as its profile says. An action gives a resource the status that the
profile reports after it; a resource that is looked up moves on along the profile's progressions, once for each
look. A failure can be planned for the next call of an operation: it strikes once, before anything else.
-/

namespace CloudLifecycle

/-- A backend that plays a profile. -/
structure SimulatedBackend where
  profile : Profile
  /-- How long a call takes. -/
  latency : Duration
  resources : Std.ExtTreeMap ResourceRef Resource
  /-- The failures planned, by the name of the operation. -/
  failures : Std.ExtTreeMap String BackendError

namespace SimulatedBackend

/-- A backend without resources whose calls take no time. -/
def new (profile : Profile) : SimulatedBackend := ⟨profile, .zero, ∅, ∅⟩

/-- The backend with calls that take some time. -/
def withLatency (b : SimulatedBackend) (latency : Duration) : SimulatedBackend := { b with latency := latency }

/-- Puts a resource there, in place of any with its kind and id. -/
def insert (b : SimulatedBackend) (ref : ResourceRef) (raw : String) : SimulatedBackend :=
  { b with resources := b.resources.insert ref (.plain b.profile.id ref.kind ref.id raw) }

/-- Plans a failure for the next call of an operation, in place of any planned before. -/
def failNext (b : SimulatedBackend) (operation : String) (e : BackendError) : SimulatedBackend :=
  { b with failures := b.failures.insert operation e }

/-- The status of a resource, without a look that would move it on. -/
def rawStatus? (b : SimulatedBackend) (ref : ResourceRef) : Option String :=
  b.resources[ref]?.map (·.rawStatus)

/-- The number of resources. -/
def size (b : SimulatedBackend) : Nat := b.resources.size

/-- Runs an action whose turn has come. -/
def invoke (b : SimulatedBackend) (operation : Operation) (id : String) :
    BackendResult Receipt × SimulatedBackend :=
  match b.resources[(⟨operation.kind, id⟩ : ResourceRef)]? with
  | none => (.error (.objectNotFound (operation.kind.name ++ " " ++ id)), b)
  | some resource =>
    match b.profile.reportedStatus? operation.action with
    | none => (.ok ⟨id, resource.rawStatus⟩, b)
    | some raw =>
      (.ok ⟨id, raw⟩, { b with resources := b.resources.insert ⟨operation.kind, id⟩ (resource.withStatus raw) })

/-- Makes a resource under an id, with the members of the body as its attributes. -/
def create (b : SimulatedBackend) (kind : ResourceKind) (id : String) (body : Json) : Receipt × SimulatedBackend :=
  let raw := b.profile.createdStatus kind
  let resource := (Resource.plain b.profile.id kind id raw).withBody body
  (⟨id, raw⟩, { b with resources := b.resources.insert ⟨kind, id⟩ resource })

/-- Answers a call that has arrived: with the failure planned for its operation, or by running it. -/
def land (b : SimulatedBackend) (call : Call) (ids : IdSource) :
    BackendResult Receipt × SimulatedBackend × IdSource :=
  match b.failures[call.operation.name]? with
  | some e => (.error e, { b with failures := b.failures.erase call.operation.name }, ids)
  | none =>
    match call.resource with
    | some id =>
      let (answer, b) := b.invoke call.operation id
      (answer, b, ids)
    | none =>
      let (id, ids) := ids.next
      let (receipt, b) := b.create call.operation.kind id call.payload.body
      (.ok receipt, b, ids)

/-- Looks a resource up, and moves it on. Of other backends it knows nothing. -/
def find (b : SimulatedBackend) (backend : String) (ref : ResourceRef) : Option Resource × SimulatedBackend :=
  if backend = b.profile.id then
    match b.resources[ref]? with
    | none => (none, b)
    | some resource =>
      match b.profile.nextStatus? resource.rawStatus with
      | none => (some resource, b)
      | some next => (some resource, { b with resources := b.resources.insert ref (resource.withStatus next) })
  else (none, b)

end SimulatedBackend

end CloudLifecycle
