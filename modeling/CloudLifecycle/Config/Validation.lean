import CloudLifecycle.Config.Error
import CloudLifecycle.Config.Settings
import CloudLifecycle.Text.Blank

/-!
# Valid configurations

A configuration is valid if all its limits are positive, it has backends, each of them has an id of its own and a
known profile, and the default is one of them. `fault?` finds the first thing that is wrong: limits before backends,
backends in their order, and the default last.
-/

namespace CloudLifecycle

/-- What is wrong with a backend that comes after those with the ids `earlier`. -/
def BackendEntry.fault? (known earlier : List String) (b : BackendEntry) : Option ConfigFault :=
  if Text.isBlankText b.id then some .blankId
  else if earlier.contains b.id then some (.repeatedId b.id)
  else if !known.contains b.profile then some (.unknownProfile b.id b.profile known)
  else none

namespace GatewayConfig

/-- The first thing that is wrong with backends that come after those with the ids `earlier`. -/
def backendFault? (known : List String) : List String → List BackendEntry → Option ConfigFault
  | _, [] => none
  | earlier, b :: bs => b.fault? known earlier <|> backendFault? known (b.id :: earlier) bs

/-- The first thing that is wrong with a configuration. -/
def fault? (known : List String) (c : GatewayConfig) : Option ConfigFault :=
  if c.dispatch.backendTimeoutMs = 0 then some .zeroTimeout
  else if c.convergence.maxAttempts = 0 then some .noAttempts
  else if c.convergence.pollIntervalMs = 0 then some .zeroInterval
  else if c.backends.isEmpty then some .noBackends
  else
    backendFault? known [] c.backends <|>
      match c.defaultBackend with
      | some id => if (c.backend? id).isNone then some (.unknownDefault id) else none
      | none => none

/-- Accepts a configuration in which nothing is wrong. -/
def validate (known : List String) (c : GatewayConfig) : Except ConfigError Unit :=
  match c.fault? known with
  | some fault => .error (.invalid fault)
  | none => .ok ()

end GatewayConfig

end CloudLifecycle
