import CloudLifecycle.Backend.Scripted
import CloudLifecycle.Backend.Simulated

/-!
# Backends

A backend either plays a profile or follows a script. What both can do is defined here for either.
-/

namespace CloudLifecycle

/-- A backend in memory. -/
inductive Backend where
  | simulated (b : SimulatedBackend)
  | scripted (b : ScriptedBackend)

/-- A call on its way to a backend, with the reply that a script holds ready. -/
structure Flight where
  call : Call
  reply : Option ScriptedReply

namespace Backend

/-- The id of a backend. -/
def id : Backend → String
  | simulated b => b.profile.id
  | scripted b => b.id

/-- The name of a backend for its users. -/
def displayName : Backend → String
  | simulated b => b.profile.displayName
  | scripted b => b.displayName

/-- The operations that a backend declares at the moment. -/
def capabilities : Backend → CapabilitySet
  | simulated b => b.profile.capabilities
  | scripted b => b.capabilities

/-- The status words of a backend. -/
def statusTable : Backend → StatusTable
  | simulated b => b.profile.statusTable
  | scripted b => b.statusTable

/-- The resources of a backend. -/
def resources : Backend → Std.ExtTreeMap ResourceRef Resource
  | simulated b => b.resources
  | scripted b => b.resources

/-- Puts a resource into a backend. -/
def insert (ref : ResourceRef) (raw : String) : Backend → Backend
  | simulated b => simulated (b.insert ref raw)
  | scripted b => scripted (b.insert ref raw)

/-- The status of a resource. -/
def rawStatus? (b : Backend) (ref : ResourceRef) : Option String := b.resources[ref]?.map (·.rawStatus)

/-- Looks a resource up on behalf of the backend named. -/
def find (backend : String) (ref : ResourceRef) : Backend → BackendResult (Option Resource) × Backend
  | simulated b =>
    let (found, b) := b.find backend ref
    (.ok found, simulated b)
  | scripted b =>
    let (answer, b) := b.find ref
    (answer, scripted b)

/-- Sends a call off. -/
def launch (call : Call) : Backend → (Duration × Flight) × Backend
  | simulated b => ((b.latency, ⟨call, none⟩), simulated b)
  | scripted b =>
    let (reply, b) := b.launch call
    (((reply.map (·.delay)).getD .zero, ⟨call, reply⟩), scripted b)

/-- Lets a call arrive. New resources take their ids from the source, unless a script has its own. -/
def land (flight : Flight) (ids : IdSource) : Backend → BackendResult Receipt × Backend × IdSource
  | simulated b =>
    let (answer, b, ids) := b.land flight.call ids
    (answer, simulated b, ids)
  | scripted b =>
    let (answer, b) := b.land flight.call flight.reply
    (answer, scripted b, ids)

end Backend

end CloudLifecycle
