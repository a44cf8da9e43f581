import CloudLifecycle.Backend.Basic
import CloudLifecycle.Gateway.Basic

/-!
# A park of backends

Backends in memory under their ids, and a router that says where the resources of each backend are looked up. A
backend that is not routed has no resources as far as lookups go. A park is a fleet, so that a gateway can stand
before it.
-/

namespace CloudLifecycle

/-- The backends under their ids. -/
structure Registry where
  backends : Std.ExtTreeMap String Backend

namespace Registry

/-- No backend at all. -/
def empty : Registry := ⟨∅⟩

/-- Adds a backend, unless there is one of its id. -/
def register (r : Registry) (b : Backend) : Except GatewayError Registry :=
  if r.backends.contains b.id then .error (.backendAlreadyRegistered b.id)
  else .ok ⟨r.backends.insert b.id b⟩

/-- The backend of an id. -/
def get? (r : Registry) (id : String) : Option Backend := r.backends[id]?

/-- The registry with the backend of an id replaced, as long as there is one. -/
def set (r : Registry) (id : String) (b : Backend) : Registry := ⟨r.backends.insert id b⟩

/-- The operations of a backend; one that is not there has none. -/
def operations (r : Registry) (id : String) : CapabilitySet :=
  match r.get? id with
  | some b => b.capabilities
  | none => .empty

/-- Whether a backend declares an operation. -/
def supports (r : Registry) (id operation : String) : Bool :=
  match r.get? id with
  | some b => b.capabilities.contains operation
  | none => false

/-- The ids in ascending order. -/
def ids (r : Registry) : List String := r.backends.keys

/-- A registry in diagnostics. -/
def diagnostic (r : Registry) : String :=
  "CapabilityRegistry \x7b backends: " ++ Text.quotedList r.ids ++ " \x7d"

end Registry

/-- Where lookups for a backend go. -/
structure Router (τ : Type) where
  routes : Std.ExtTreeMap String τ

namespace Router

variable {τ : Type}

/-- No route at all. -/
def empty : Router τ := ⟨∅⟩

/-- The router with one route set or replaced. -/
def route (r : Router τ) (backend : String) (target : τ) : Router τ := ⟨r.routes.insert backend target⟩

/-- Where lookups for a backend go. -/
def target? (r : Router τ) (backend : String) : Option τ := r.routes[backend]?

/-- The backends that are routed, in ascending order. -/
def backends (r : Router τ) : List String := r.routes.keys

/-- A router in diagnostics. -/
def diagnostic (r : Router τ) : String :=
  "LookupRouter \x7b backends: " ++ Text.quotedList r.backends ++ " \x7d"

end Router

/-- The backends in memory. -/
structure Park where
  registry : Registry
  /-- For each routed backend, the id of the one that holds its resources. -/
  router : Router String
  ids : IdSource

namespace Park

/-- Works on the backend of an id, if there is one. -/
def atBackend {α : Type} (id : String) (f : Backend → α × Backend) (p : Park) : Option α × Park :=
  match p.registry.get? id with
  | none => (none, p)
  | some b =>
    let (a, b) := f b
    (some a, { p with registry := p.registry.set id b })

/-- Looks a resource up where its backend is routed. -/
def find (p : Park) (key : ResourceKey) : BackendResult (Option Resource) × Park :=
  match p.router.target? key.backend with
  | none => (.ok none, p)
  | some target =>
    let (answer, p) := p.atBackend target (Backend.find key.backend key.ref)
    (answer.getD (.ok none), p)

/-- Sends a call off to its backend. -/
def launch (p : Park) (call : Call) : (Duration × Flight) × Park :=
  let (sent, p) := p.atBackend call.backend (Backend.launch call)
  (sent.getD (.zero, ⟨call, none⟩), p)

/-- Lets a call arrive at its backend. A call to a backend that is not there finds nobody. -/
def land (p : Park) (flight : Flight) : BackendResult Receipt × Park :=
  match p.registry.get? flight.call.backend with
  | none => (.error (.unavailable flight.call.backend), p)
  | some b =>
    let (answer, b, ids) := b.land flight p.ids
    (answer, { p with registry := p.registry.set flight.call.backend b, ids := ids })

instance : Fleet Park Flight where
  capabilities p id := (p.registry.get? id).map Backend.capabilities
  find := find
  launch := launch
  land := land

/-- The status tables of the backends. -/
def normalizer (p : Park) : Normalizer :=
  p.registry.backends.foldl (fun n id b => n.register id b.statusTable) .empty

/-- A park of backends that are all registered, in the order given, but none of them routed. -/
def ofBackends (backends : List Backend) (seed : Nat) : Except GatewayError Park := do
  let registry ← backends.foldlM Registry.register Registry.empty
  return ⟨registry, .empty, ⟨seed, 0⟩⟩

/-- The park with some backends routed to themselves. -/
def routing (p : Park) (names : List String) : Park :=
  { p with router := names.foldl (fun r id => r.route id id) p.router }

/-- What a gateway and the backends behind it look like in diagnostics. -/
def diagnostic (p : Park) (g : Gateway) : String :=
  "ActionDispatcher \x7b capabilities: " ++ p.registry.diagnostic ++ ", kinds: [" ++
    ", ".intercalate (g.catalog.kinds.map ResourceKind.word) ++ "], backend_timeout: " ++ g.timeout.text ++
    ", convergence: " ++ g.plan.diagnostic ++ " \x7d"

end Park

/-- Why backends for some profiles could not be set up. -/
structure MountError where
  cause : GatewayError
  deriving DecidableEq, Repr

/-- Why backends for some profiles could not be set up, in words. -/
def MountError.message (e : MountError) : String := "Gateway error: " ++ e.cause.message

/-- A park with a simulated backend for each profile, each routed to itself. -/
def Park.mount (profiles : List Profile) (seed : Nat) : Except MountError Park :=
  match ofBackends (profiles.map fun profile => .simulated (.new profile)) seed with
  | .ok p => .ok (p.routing (profiles.map (·.id)))
  | .error e => .error ⟨e⟩

end CloudLifecycle
