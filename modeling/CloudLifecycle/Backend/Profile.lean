import CloudLifecycle.Capability
import CloudLifecycle.StatusTable

/-!
# Backend profiles

All that can be said about a family of backends without talking to one: its status words, the operations it
declares, the status of what it has just made, and how its statuses change, by themselves or because of an
action.
-/

namespace CloudLifecycle

/-- The behaviour of a family of backends. -/
structure Profile where
  id : String
  displayName : String
  capabilities : CapabilitySet
  statusTable : StatusTable
  /-- The status of a new resource. -/
  defaultCreated : String
  /-- The status of a new resource of some kinds. -/
  created : Std.ExtTreeMap ResourceKind String
  /-- Where a status moves once it has been seen. -/
  progressions : Std.ExtTreeMap String String
  /-- The status after an action. -/
  reports : Std.ExtTreeMap String String
  deriving DecidableEq

namespace Profile

/-- A profile without operations, in which nothing ever moves. -/
def new (id displayName : String) (table : StatusTable) : Profile :=
  ⟨id, displayName, .empty, table, "", ∅, ∅, ∅⟩

/-- The profile under another id. -/
def withId (p : Profile) (id : String) : Profile := { p with id := id }

/-- The profile under another name. -/
def withDisplayName (p : Profile) (name : String) : Profile := { p with displayName := name }

/-- The profile with more actions on one kind. -/
def supports (p : Profile) (kind : ResourceKind) (actions : List String) : Profile :=
  { p with capabilities := p.capabilities.declare kind actions }

/-- The profile with the status of a new resource. -/
def createdAs (p : Profile) (raw : String) : Profile := { p with defaultCreated := raw }

/-- The profile with the status of a new resource of one kind. -/
def createdKindAs (p : Profile) (kind : ResourceKind) (raw : String) : Profile :=
  { p with created := p.created.insert kind raw }

/-- The profile with one more step that a status makes by itself. -/
def progress (p : Profile) (source target : String) : Profile :=
  { p with progressions := p.progressions.insert source target }

/-- The profile with the status after one more action. -/
def reporting (p : Profile) (action raw : String) : Profile :=
  { p with reports := p.reports.insert action raw }

/-- The status of a new resource of a kind. -/
def createdStatus (p : Profile) (kind : ResourceKind) : String := (p.created[kind]?).getD p.defaultCreated

/-- Where a status moves once it has been seen. -/
def nextStatus? (p : Profile) (raw : String) : Option String := p.progressions[raw]?

/-- The status after an action, where the action sets one. -/
def reportedStatus? (p : Profile) (action : String) : Option String := p.reports[action]?

end Profile

end CloudLifecycle
