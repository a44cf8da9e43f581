import CloudLifecycle.Backend.Fleet
import CloudLifecycle.StatusTable

/-!
# Scripted backends

A backend that answers from a script, to try out what a gateway does with an awkward one. Each operation has a
list of replies, of which the last is repeated for ever; lookups may have a list of findings that come before the
resources stored. All calls and lookups are recorded.
-/

namespace CloudLifecycle

/-- What a script lets a backend say to a call. -/
inductive ScriptedAnswer where
  /-- The call goes well. For a new resource an id may be given. -/
  | status (raw : String) (id : Option String)
  | failure (e : BackendError)
  deriving DecidableEq, Repr

/-- One reply of a script. -/
structure ScriptedReply where
  answer : ScriptedAnswer
  delay : Duration
  deriving DecidableEq, Repr

/-- What a script lets a lookup find. -/
inductive Finding where
  | failure (e : BackendError)
  /-- A resource of that status, whether it is stored or not. -/
  | resource (raw : String)
  | nothing
  deriving DecidableEq, Repr

/-- A backend that follows a script. -/
structure ScriptedBackend where
  id : String
  displayName : String
  statusTable : StatusTable
  capabilities : CapabilitySet
  /-- Where a status moves once it has been seen. -/
  progressions : Std.ExtTreeMap String String
  /-- The replies to come, by the name of the operation. -/
  replies : Std.ExtTreeMap String (List ScriptedReply)
  /-- The findings to come. -/
  findings : List Finding
  resources : Std.ExtTreeMap ResourceRef Resource
  /-- The calls since they were last asked for. -/
  calls : List Call
  lookups : Nat
  /-- The number that the next made-up id has. -/
  nextNumber : Nat

namespace ScriptedBackend

/-- A backend with an empty script. -/
def new (id displayName : String) (table : StatusTable) : ScriptedBackend :=
  ⟨id, displayName, table, .empty, ∅, ∅, [], ∅, [], 0, 1⟩

/-- Puts a resource there, in place of any with its kind and id. -/
def insert (b : ScriptedBackend) (ref : ResourceRef) (raw : String) : ScriptedBackend :=
  { b with resources := b.resources.insert ref (.plain b.id ref.kind ref.id raw) }

/-- Takes a resource away, and says whether it was there. -/
def remove (b : ScriptedBackend) (ref : ResourceRef) : Bool × ScriptedBackend :=
  (b.resources.contains ref, { b with resources := b.resources.erase ref })

/-- The status of a resource. -/
def rawStatus? (b : ScriptedBackend) (ref : ResourceRef) : Option String :=
  b.resources[ref]?.map (·.rawStatus)

/-- The calls since they were last asked for. -/
def takeCalls (b : ScriptedBackend) : List Call × ScriptedBackend := (b.calls, { b with calls := [] })

/-- Declares one more operation, and says whether it is new. -/
def addCapability (b : ScriptedBackend) (name : String) : Bool × ScriptedBackend :=
  (!b.capabilities.contains name, { b with capabilities := b.capabilities.insert name })

/-- Declares an operation no more, and says whether it was declared. -/
def dropCapability (b : ScriptedBackend) (name : String) : Bool × ScriptedBackend :=
  (b.capabilities.contains name, { b with capabilities := b.capabilities.erase name })

/-- Sets the replies of an operation. -/
def setReplies (b : ScriptedBackend) (operation : String) (replies : List ScriptedReply) : ScriptedBackend :=
  { b with replies := b.replies.insert operation replies }

/-- Takes the reply to a call from the script, and records the call. -/
def launch (b : ScriptedBackend) (call : Call) : Option ScriptedReply × ScriptedBackend :=
  let b := { b with calls := b.calls ++ [call] }
  match b.replies[call.operation.name]? with
  | some (reply :: next :: rest) =>
    (some reply, { b with replies := b.replies.insert call.operation.name (next :: rest) })
  | some [reply] => (some reply, b)
  | some [] | none => (none, b)

/-- Stores a new resource. An id that the script does not give is made up from its kind and a number. -/
def store (b : ScriptedBackend) (kind : ResourceKind) (id : Option String) (raw : String) :
    Receipt × ScriptedBackend :=
  match id with
  | some id => (⟨id, raw⟩, b.insert ⟨kind, id⟩ raw)
  | none =>
    let id := kind.name ++ "-" ++ toString b.nextNumber
    (⟨id, raw⟩, { b.insert ⟨kind, id⟩ raw with nextNumber := b.nextNumber + 1 })

/-- Answers a call that has arrived as its reply says. An action without a reply fails; a new resource without
one is pending. -/
def land (b : ScriptedBackend) (call : Call) (reply : Option ScriptedReply) :
    BackendResult Receipt × ScriptedBackend :=
  match call.resource, reply.map ScriptedReply.answer with
  | _, some (.failure e) => (.error e, b)
  | none, some (.status raw id) =>
    let (receipt, b) := b.store call.operation.kind id raw
    (.ok receipt, b)
  | none, none =>
    let (receipt, b) := b.store call.operation.kind none "pending"
    (.ok receipt, b)
  | some _, none => (.error (.vendor "500" ("no scripted reply for " ++ call.operation.name)), b)
  | some id, some (.status raw _) =>
    let ref : ResourceRef := ⟨call.operation.kind, id⟩
    match b.resources[ref]? with
    | some resource => (.ok ⟨id, raw⟩, { b with resources := b.resources.insert ref (resource.withStatus raw) })
    | none => (.ok ⟨id, raw⟩, b)

/-- Looks a resource up, and moves it on unless the finding is from the script. -/
def find (b : ScriptedBackend) (ref : ResourceRef) : BackendResult (Option Resource) × ScriptedBackend :=
  let b := { b with lookups := b.lookups + 1 }
  match b.findings with
  | .failure e :: rest => (.error e, { b with findings := rest })
  | .resource raw :: rest => (.ok (some (.plain b.id ref.kind ref.id raw)), { b with findings := rest })
  | .nothing :: rest => (.ok none, { b with findings := rest })
  | [] =>
    match b.resources[ref]? with
    | none => (.ok none, b)
    | some resource =>
      match b.progressions[resource.rawStatus]? with
      | none => (.ok (some resource), b)
      | some next =>
        (.ok (some resource), { b with resources := b.resources.insert ref (resource.withStatus next) })

end ScriptedBackend

end CloudLifecycle
