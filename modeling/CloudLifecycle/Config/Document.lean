import CloudLifecycle.Config.Error
import CloudLifecycle.Config.Settings
import CloudLifecycle.Text.Blank
import CloudLifecycle.Yaml.Content
import CloudLifecycle.Yaml.Printer

/-!
# Configurations as documents

A configuration is read from a mapping and written as one. Writing puts down every setting, and leaves out only the
name of a backend that has none; reading puts the standard value wherever a setting is missing, so it takes part of
what is written as well as all of it. Only a backend must have its id and its profile.
-/

namespace CloudLifecycle

open Yaml

/-! ## Writing -/

/-- An entry of a mapping. -/
def entryNode (key : String) (value : Node) : Node × Node := (.ofText key, value)

/-- The mapping for the settings of calls. -/
def DispatchSettings.toNode (s : DispatchSettings) : Node :=
  .mapping [entryNode "backend_timeout_ms" (.ofNat s.backendTimeoutMs.toNat)]

/-- The mapping for the settings of convergences. -/
def ConvergenceSettings.toNode (s : ConvergenceSettings) : Node :=
  .mapping [entryNode "max_attempts" (.ofNat s.maxAttempts.toNat),
    entryNode "poll_interval_ms" (.ofNat s.pollIntervalMs.toNat)]

/-- The mapping for a backend. -/
def BackendEntry.toNode (b : BackendEntry) : Node :=
  .mapping ([entryNode "id" (.ofText b.id), entryNode "profile" (.ofText b.profile)] ++
    match b.displayName with
    | some name => [entryNode "display_name" (.ofText name)]
    | none => [])

namespace GatewayConfig

/-- The mapping for a configuration. -/
def toNode (c : GatewayConfig) : Node :=
  .mapping
    [entryNode "default_backend" (match c.defaultBackend with
      | some id => .ofText id
      | none => .null),
    entryNode "dispatch" c.dispatch.toNode, entryNode "convergence" c.convergence.toNode,
    entryNode "backends" (.sequence (c.backends.map BackendEntry.toNode))]

/-- The text of a configuration. -/
def toYaml (c : GatewayConfig) : String := c.toNode.render

end GatewayConfig

/-! ## Reading -/

/-- A number of 64 bits. -/
def readWord64? (d : Document) (n : Node) : Option UInt64 := (d.natural? UInt64.size n).map UInt64.ofNat

/-- A number of 32 bits. -/
def readWord32? (d : Document) (n : Node) : Option UInt32 := (d.natural? UInt32.size n).map UInt32.ofNat

/-- The settings of calls in a node. -/
def DispatchSettings.ofNode? (d : Document) (n : Node) : Option DispatchSettings := do
  match ← d.fields? ["backend_timeout_ms"] n with
  | [timeout] => return ⟨← Document.orElse standard.backendTimeoutMs (readWord64? d) timeout⟩
  | _ => none

/-- The settings of convergences in a node. -/
def ConvergenceSettings.ofNode? (d : Document) (n : Node) : Option ConvergenceSettings := do
  match ← d.fields? ["max_attempts", "poll_interval_ms"] n with
  | [attempts, interval] =>
    return ⟨← Document.orElse standard.maxAttempts (readWord32? d) attempts,
      ← Document.orElse standard.pollIntervalMs (readWord64? d) interval⟩
  | _ => none

/-- The backend in a node. -/
def BackendEntry.ofNode? (d : Document) (n : Node) : Option BackendEntry := do
  match ← d.fields? ["id", "profile", "display_name"] n with
  | [some id, some profile, name] =>
    return ⟨← d.text? id, ← d.text? profile, ← Document.orElse none d.nullableText? name⟩
  | _ => none

namespace GatewayConfig

/-- The configuration in a node. -/
def ofNode? (d : Document) (n : Node) : Option GatewayConfig := do
  match ← d.fields? ["default_backend", "dispatch", "convergence", "backends"] n with
  | [default, dispatch, convergence, backends] =>
    return ⟨← Document.orElse standard.defaultBackend d.nullableText? default,
      ← Document.orElse standard.dispatch (DispatchSettings.ofNode? d) dispatch,
      ← Document.orElse standard.convergence (ConvergenceSettings.ofNode? d) convergence,
      ← Document.orElse standard.backends (fun n => do (← d.items? n).mapM (BackendEntry.ofNode? d)) backends⟩
  | _ => none

/-- The configuration in a document. One without any node leaves everything out. -/
def ofDocument? (d : Document) : Option GatewayConfig := Document.orElse standard (ofNode? d) d.root

/-- Reads a configuration. A text of blanks alone is the standard one. -/
def fromYaml (text : String) : Except ConfigError GatewayConfig :=
  if Text.isBlankText text then .ok standard
  else
    match (Document.parse? text).bind ofDocument? with
    | some c => .ok c
    | none => .error .malformed

end GatewayConfig

end CloudLifecycle
