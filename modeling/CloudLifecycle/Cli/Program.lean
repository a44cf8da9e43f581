import CloudLifecycle.Cli.Command
import CloudLifecycle.Config.Deployment
import CloudLifecycle.Config.Discovery
import CloudLifecycle.Config.Validation
import CloudLifecycle.Json.Printer
import CloudLifecycle.Simulation
import CloudLifecycle.Wire.Records

/-!
# The program

What the program answers to a command line: texts for its output and for its error output, and a code. Every command
but those for the standard machines and for the version needs a valid configuration, and fails without one before it
says anything. A command may fail after it has said something.
-/

namespace CloudLifecycle.Cli

/-- What is left of the program when it has ended. -/
structure Completion where
  code : UInt8
  output : String
  errors : String
  deriving DecidableEq, Repr

/-- Why a command failed. -/
inductive Failure where
  | config (error : ConfigError)
  | kind (error : UnknownKind)
  | choice (error : BackendChoiceError)
  | deployment (error : DeploymentError)
  /-- There are no transitions for a kind. -/
  | noMachine (kind : ResourceKind)
  | simulation (failure : SimulationFailure)
  deriving DecidableEq, Repr

namespace Failure

/-- Why a command failed, in words. -/
def message : Failure → String
  | config error => error.message
  | kind error => error.message
  | choice error => error.message
  | deployment error => error.message
  | noMachine k => k.name ++ " の状態遷移表は定義されていません"
  | simulation failure => failure.message

/-- What lies behind the failure. -/
def cause? : Failure → Option String
  | deployment error => error.cause?
  | _ => none

/-- The text for the error output. -/
def report (f : Failure) : String :=
  "Error: " ++ f.message ++
    (match f.cause? with
      | some cause => "\n\nCaused by:\n    " ++ cause
      | none => "") ++ "\n"

end Failure

/-- What a command has said, and whether it failed after that. -/
structure Said where
  output : String
  failure : Option Failure

/-- Ends a command that went well. -/
def Said.well (output : String) : Said := ⟨output, none⟩

/-- Ends a command that failed before it said anything. -/
def Said.failed (f : Failure) : Said := ⟨"", some f⟩

/-- The end of the program after a command. -/
def Said.complete (s : Said) : Completion :=
  match s.failure with
  | some f => ⟨1, s.output, f.report⟩
  | none => ⟨0, s.output, ""⟩

/-- A line of output. -/
def line (text : String) : String := text ++ "\n"

/-! ## Machines -/

/-- `s` with blanks up to a width. -/
def padRight (width : Nat) (s : String) : String := s ++ String.ofList (List.replicate (width - s.length) ' ')

/-- A transition of a machine. -/
def transitionLine (t : Transition) : String :=
  line ("  " ++ padRight 10 t.source.name ++ " --" ++ t.trigger.text ++ "--> " ++ t.target.name)

/-- The transitions of a machine. -/
def machineText (m : Machine) : String :=
  line m.kind.name ++ line ("  初期状態: " ++ m.initial.name) ++
    String.join (m.transitions.map transitionLine) ++ line ""

/-- Shows the standard machines. -/
def states : Option String → Said
  | none => .well (String.join (Catalog.standard.kinds.filterMap fun kind =>
      (Catalog.standard.get? kind).map machineText))
  | some name =>
    match ResourceKind.parse name with
    | .error e => .failed (.kind e)
    | .ok kind =>
      match Catalog.standard.get? kind with
      | some m => .well (machineText m)
      | none => .failed (.noMachine kind)

/-! ## Backends -/

/-- The operations of a backend. -/
def backendText (d : Deployment) (id : String) : String :=
  line (id ++ " (" ++ ((d.backend? id).map (·.displayName)).getD "" ++ ")") ++
    String.join ((d.park.registry.operations id).toList.map fun name => line ("  " ++ name)) ++ line ""

/-- Shows the operations of one backend or of all. -/
def capabilities (c : GatewayConfig) (seed : Nat) (backend : Option String) : Said :=
  match c.deploy none seed with
  | .error e => .failed (.deployment e)
  | .ok d =>
    match backend with
    | none => .well (String.join (d.park.registry.ids.map (backendText d)))
    | some id =>
      match c.chooseBackend (some id) with
      | .error e => .failed (.choice e)
      | .ok id => .well (backendText d id)

/-- Shows the state for a status of a backend. -/
def normalize (c : GatewayConfig) (seed : Nat) (backend : Option String) (raw : String) : Said :=
  match c.chooseBackend backend with
  | .error e => .failed (.choice e)
  | .ok id =>
    match c.deploy none seed with
    | .error e => .failed (.deployment e)
    | .ok d =>
      let state := (d.gateway.normalizer.normalize id raw).name
      let isKnown := ((d.gateway.normalizer.table? id).bind (·.lookup raw)).isSome
      .well (line (raw ++ " -> " ++ state ++ if isKnown then "" else " (未知のステータス: フォールバック)"))

/-! ## Simulation -/

/-- The result of an action. -/
def resultText (label : String) (r : ActionResult) : String :=
  line ((if r.success then "✓ " else "✗ ") ++ label) ++ line (Wire.encode r).pretty

/-- The life of a resource. -/
def runText (r : SimulationRun) : String :=
  resultText "create" r.created ++
    ((r.outcome.map fun o => line ("収束: " ++ o.diagnostic)).getD "") ++
    String.join (r.actions.map fun (action, result) => resultText action result) ++
    ((r.finalStatus.map fun raw => line ("最終ステータス (raw): " ++ raw)).getD "")

/-- Shows the life of a resource. Lookups are at least a millisecond apart. -/
def simulate (c : GatewayConfig) (seed : Nat) (backend : Option String) (kind : String) (intervalMs : UInt64) : Said :=
  match c.chooseBackend backend with
  | .error e => .failed (.choice e)
  | .ok id =>
    match ResourceKind.parse kind with
    | .error e => .failed (.kind e)
    | .ok kind =>
      match c.deploy (some (.ofMillis (max intervalMs.toNat 1))) seed with
      | .error e => .failed (.deployment e)
      | .ok d =>
        let (run, _) := Simulation.run d.gateway id kind d.session
        ⟨line ("シミュレーション: " ++ kind.name ++ " on " ++ id) ++ runText run, run.failure.map .simulation⟩

/-! ## The whole program -/

/-- Shows a configuration and the file that it is from. -/
def showConfig (c : GatewayConfig) (source : Option String) : Said :=
  .well (line (match source with
    | some path => "設定ファイル: " ++ path
    | none => "設定ファイルが見つからないためデフォルト設定を使用しています") ++ line "" ++ c.toYaml)

/-- The version of the program. -/
def versionText : String := line "cloudgate 0.3.0"

/-- The valid configuration that holds, and the file that it is from. -/
def validConfig (s : Surroundings) : Except ConfigError (GatewayConfig × Option String) := do
  let (c, source) ← s.loadConfig
  c.validate Profile.builtinNames
  return (c, source)

/-- Does what a command asks for. The ids of new resources count from the seed. -/
def perform (s : Surroundings) (seed : Nat) (command : Command) : Said :=
  match command with
  | .version => .well versionText
  | .states kind => states kind
  | .capabilities backend => configured fun c _ => capabilities c seed backend
  | .normalize backend raw => configured fun c _ => normalize c seed backend raw
  | .simulate backend kind interval => configured fun c _ => simulate c seed backend kind interval
  | .config => configured showConfig
where
  /-- Goes on with a valid configuration. -/
  configured (f : GatewayConfig → Option String → Said) : Said :=
    match validConfig s with
    | .ok (c, source) => f c source
    | .error e => .failed (.config e)

/-- How the program is used. -/
def usage : String :=
  String.join
    [line "Usage: cloudgate [-v] <COMMAND>", line "", line "Commands:", line "  states [-k KIND]",
      line "  capabilities [-b BACKEND]", line "  normalize [-b BACKEND] RAW",
      line "  simulate [-b BACKEND] [-k KIND] [--interval-ms MS]", line "  config", line "  version"]

/-- Runs the program. -/
def run (s : Surroundings) (seed : Nat) (words : List String) : Completion :=
  match readInvocation s.environment false words with
  | .error .misused => ⟨2, "", usage⟩
  | .error .helpWanted => ⟨0, usage, ""⟩
  | .ok invocation => (perform s seed invocation.command).complete

end CloudLifecycle.Cli
