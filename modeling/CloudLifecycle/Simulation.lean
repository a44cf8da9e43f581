import CloudLifecycle.Backend.Park
import CloudLifecycle.Session

/-!
# The life of a resource

A run through the life of one resource: it is made, watched until it has come up, taken through the actions usual
for its kind, and destroyed. Before each action the backend is given time to settle, up to a number of lookups. The
run ends early when the resource is not made, does not come up, or cannot be looked up; an action that is refused
is reported like one that is not, and the run goes on.
-/

namespace CloudLifecycle

/-- Why the life of a resource came to an early end. -/
inductive SimulationFailure where
  | notCreated (kind : ResourceKind)
  | notConverged (id : String)
  | lookup (cause : BackendError)
  deriving DecidableEq, Repr

/-- Why the life of a resource came to an early end, in words. -/
def SimulationFailure.message : SimulationFailure → String
  | notCreated kind => kind.name ++ " の作成に失敗しました"
  | notConverged id => id ++ " は収束しませんでした"
  | lookup cause => cause.message

/-- The life of a resource, as far as it went. -/
structure SimulationRun where
  created : ActionResult
  outcome : Option Outcome
  /-- The actions that were sent, in that order. -/
  actions : List (String × ActionResult)
  /-- The last status of the resource at its backend. -/
  finalStatus : Option String
  failure : Option SimulationFailure

namespace Simulation

/-- A session with backends in memory. -/
abbrev Live := Session Park Flight

/-- The actions that a resource of a kind is taken through. -/
def script : ResourceKind → List String
  | .loadBalancer => ["register", "unregister", "destroy"]
  | _ => ["start", "stop", "destroy"]

/-- Waits until a resource is in a state that it does not leave by itself, for at most so many lookups. -/
def settle (g : Gateway) (key : ResourceKey) (machine : Machine) (interval : Duration) :
    Nat → Live → BackendResult Unit × Live
  | 0, s => (.ok (), s)
  | attempts + 1, s =>
    match Session.atDesk (g.currentState key) s with
    | (.ok (some state), s) =>
      if machine.isSettled state then (.ok (), s)
      else settle g key machine interval attempts (Session.wait g interval s)
    | (.ok none, s) => (.ok (), s)
    | (.error e, s) => (.error e, s)

/-- Waits until a resource of any kind has settled. One without a machine is not waited for. -/
def settleAny (g : Gateway) (key : ResourceKey) (s : Live) : BackendResult Unit × Live :=
  match g.catalog.get? key.kind with
  | some machine => settle g key machine g.plan.interval g.plan.maxAttempts s
  | none => (.ok (), s)

/-- Takes a resource through actions, until its state cannot be looked up. -/
def act (g : Gateway) (key : ResourceKey) :
    List String → Live → (List (String × ActionResult) × Option BackendError) × Live
  | [], s => (([], none), s)
  | action :: actions, s =>
    match settleAny g key s with
    | (.error e, s) => (([], some e), s)
    | (.ok (), s) =>
      let (result, s) := Session.dispatch g ⟨key.backend, key.kind, key.id, action, .none, .null⟩ s
      let ((results, failure), s) := act g key actions s
      (((action, result) :: results, failure), s)

/-- The last status of a resource at its backend. -/
def finalStatus? (key : ResourceKey) (s : Live) : Option String :=
  (s.desk.fleet.registry.get? key.backend).bind (·.rawStatus? key.ref)

/-- Runs through the life of one resource. -/
def run (g : Gateway) (backend : String) (kind : ResourceKind) (s : Live) : SimulationRun × Live :=
  let ((created, handle), s) := Session.create g ⟨backend, kind, .none, .null⟩ s
  match created.resourceId, handle with
  | some id, some handle =>
    let (outcome, s) := Session.await g handle s
    if (outcome.map Outcome.isConverged).getD false then
      let key : ResourceKey := ⟨backend, kind, id⟩
      let ((actions, failure), s) := act g key (script kind) s
      match failure with
      | some e => (⟨created, outcome, actions, none, some (.lookup e)⟩, s)
      | none => (⟨created, outcome, actions, finalStatus? key s, none⟩, s)
    else (⟨created, outcome, [], none, some (.notConverged id)⟩, s)
  | _, _ => (⟨created, none, [], none, some (.notCreated kind)⟩, s)

end Simulation

end CloudLifecycle
