import CloudLifecycle.Duration
import CloudLifecycle.Wire.Basic

/-!
# Settings of a gateway

What a configuration says: which backends there are and which of them is meant when none is named, how long a call may
take, and how a new resource is watched. Whatever it leaves out has a value of its own; without any configuration
there is one backend in memory.
-/

namespace CloudLifecycle

/-- How backends are called. -/
structure DispatchSettings where
  backendTimeoutMs : UInt64
  deriving DecidableEq, Repr

/-- How a new resource is watched until it has come up. -/
structure ConvergenceSettings where
  maxAttempts : UInt32
  pollIntervalMs : UInt64
  deriving DecidableEq, Repr

/-- A configured backend. -/
structure BackendEntry where
  id : String
  /-- The name of the profile that it plays. -/
  profile : String
  displayName : Option String
  deriving DecidableEq, Repr

/-- The configuration of a gateway. -/
structure GatewayConfig where
  defaultBackend : Option String
  dispatch : DispatchSettings
  convergence : ConvergenceSettings
  backends : List BackendEntry
  deriving DecidableEq, Repr

/-- Thirty seconds for a call. -/
def DispatchSettings.standard : DispatchSettings := ⟨30000⟩

/-- Thirty attempts, ten seconds apart. -/
def ConvergenceSettings.standard : ConvergenceSettings := ⟨30, 10000⟩

namespace GatewayConfig

/-- The configuration that holds when there is none: one backend in memory. -/
def standard : GatewayConfig := ⟨none, .standard, .standard, [⟨"mock", "mock", none⟩]⟩

/-- The time that a call may take. -/
def backendTimeout (c : GatewayConfig) : Duration := .ofMillis c.dispatch.backendTimeoutMs.toNat

/-- The time between two lookups of a new resource. -/
def pollInterval (c : GatewayConfig) : Duration := .ofMillis c.convergence.pollIntervalMs.toNat

/-- The first backend of an id. -/
def backend? (c : GatewayConfig) (id : String) : Option BackendEntry := c.backends.find? (·.id = id)

/-- The backend that is meant when none is named: the one that is said to be, or else the first. -/
def defaultBackendId? (c : GatewayConfig) : Option String :=
  match c.defaultBackend with
  | some id => some id
  | none => c.backends.head?.map (·.id)

end GatewayConfig

/-! ## Wire forms -/

open Wire

instance : Wire DispatchSettings where
  encode d := .obj [("backend_timeout_ms", encode d.backendTimeoutMs)]
  decode j := do
    match ← fieldsFrom? 0 ["backend_timeout_ms"] j with
    | [timeout] => return ⟨← defaulting DispatchSettings.standard.backendTimeoutMs timeout⟩
    | _ => none

instance : Wire ConvergenceSettings where
  encode c := .obj
    [("max_attempts", encode c.maxAttempts), ("poll_interval_ms", encode c.pollIntervalMs)]
  decode j := do
    match ← fieldsFrom? 0 ["max_attempts", "poll_interval_ms"] j with
    | [attempts, interval] =>
      return ⟨← defaulting ConvergenceSettings.standard.maxAttempts attempts,
        ← defaulting ConvergenceSettings.standard.pollIntervalMs interval⟩
    | _ => none

instance : Wire BackendEntry where
  encode b := .obj
    ([("id", encode b.id), ("profile", encode b.profile)] ++ member? "display_name" b.displayName)
  decode j := do
    match ← fieldsFrom? 2 ["id", "profile", "display_name"] j with
    | [id, profile, name] => return ⟨← required id, ← required profile, ← nullable name⟩
    | _ => none

instance : Wire GatewayConfig where
  encode c := .obj
    [("default_backend", encode c.defaultBackend), ("dispatch", encode c.dispatch),
      ("convergence", encode c.convergence), ("backends", encode c.backends)]
  decode j := do
    match ← fieldsFrom? 0 ["default_backend", "dispatch", "convergence", "backends"] j with
    | [default, dispatch, convergence, backends] =>
      return ⟨← nullable default, ← defaulting .standard dispatch, ← defaulting .standard convergence,
        ← defaulting GatewayConfig.standard.backends backends⟩
    | _ => none

end CloudLifecycle
