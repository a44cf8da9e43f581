import CloudLifecycle.Action.Request
import CloudLifecycle.Action.Result
import CloudLifecycle.Convergence
import CloudLifecycle.Guard
import CloudLifecycle.StatusTable

/-!
# The gateway

The gateway stands between its callers and a fleet of backends. `Gateway` is what never changes while it runs: the
machines, the status tables, the time allowed to a call, and the plan for new resources. `Desk` is what does: the
guards, and the fleet itself.

Work on a request stops wherever time has to pass. What is left to do then is a value, which can be taken up again
on any desk; between two steps of one piece of work all others may move.
-/

namespace CloudLifecycle

/-- What is wrong with the parts of a gateway. -/
inductive AssemblyFault where
  | noLookup
  | zeroTimeout
  | noAttempts
  | machine (fault : MachineFault)
  deriving DecidableEq, Repr

/-- What is wrong with the parts of a gateway, in words. -/
def AssemblyFault.message : AssemblyFault → String
  | noLookup => "a resource lookup must be configured"
  | zeroTimeout => "backend timeout must be greater than zero"
  | noAttempts => "convergence needs at least one attempt"
  | machine fault => fault.message

/-- Why a gateway could not be put together. -/
inductive GatewayError where
  | configuration (fault : AssemblyFault)
  | backendAlreadyRegistered (id : String)
  deriving DecidableEq, Repr

/-- Why a gateway could not be put together, in words. -/
def GatewayError.message : GatewayError → String
  | configuration fault => "Configuration error: " ++ fault.message
  | backendAlreadyRegistered id => "Backend already registered: " ++ id

/-- The fixed parts of a gateway. A call is allowed some time, and a new resource some attempts. -/
structure Gateway where
  catalog : Catalog
  normalizer : Normalizer
  timeout : Duration
  plan : PollingPlan
  timeout_pos : 0 < timeout.nanos
  attempts_pos : 0 < plan.maxAttempts

namespace Gateway

/-- The time allowed to a call where nothing else is said. -/
def standardTimeout : Duration := .ofSeconds 30

theorem standardTimeout_pos : 0 < standardTimeout.nanos := by decide

/-- Puts a gateway together. `hasLookup` tells whether resources can be looked up at all. -/
def assemble (catalog : Catalog) (normalizer : Normalizer) (hasLookup : Bool) (timeout : Duration)
    (plan : PollingPlan) : Except GatewayError Gateway :=
  if !hasLookup then .error (.configuration .noLookup)
  else if ht : 0 < timeout.nanos then
    if hp : 0 < plan.maxAttempts then .ok ⟨catalog, normalizer, timeout, plan, ht, hp⟩
    else .error (.configuration .noAttempts)
  else .error (.configuration .zeroTimeout)

end Gateway

/-- The changing parts of a gateway over a fleet. -/
structure Desk (σ : Type) where
  guards : Guards
  fleet : σ

/-- How far a step got: to an answer, or to a point where time has to pass before it goes on. -/
inductive Progress (ω α : Type) where
  | done (answer : α)
  | waiting (rest : ω) (time : Duration)

variable {σ φ : Type} [Fleet σ φ]

/-- Sends a call off. It is waited for until it lands or, if it takes longer than is allowed, until it is given
up; of a call that is given up no flight is left. The flight comes with the time to wait. -/
def Gateway.call (g : Gateway) (call : Call) (desk : Desk σ) : (Option φ × Duration) × Desk σ :=
  let ((time, flight), fleet) := Fleet.launch desk.fleet call
  (if time ≤ g.timeout then (some flight, time) else (none, g.timeout), { desk with fleet := fleet })

/-- Looks a resource up, for the state in which its backend has it. -/
def Gateway.observe (g : Gateway) (key : ResourceKey) (desk : Desk σ) :
    BackendResult (Option LifecycleState) × Desk σ :=
  let (answer, fleet) := Fleet.find desk.fleet key
  (answer.map fun found => found.map fun r => g.normalizer.normalize key.backend r.rawStatus,
    { desk with fleet := fleet })

end CloudLifecycle
