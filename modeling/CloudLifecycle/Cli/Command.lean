import CloudLifecycle.Cli.Arguments

/-!
# Commands

The commands of the program, and how they are read from a command line.
-/

namespace CloudLifecycle.Cli

/-- What the program is asked to do. -/
inductive Command where
  /-- Shows the transitions of one kind of resources or of all. -/
  | states (kind : Option String)
  /-- Shows the operations of one backend or of all. -/
  | capabilities (backend : Option String)
  /-- Shows the state for a status of a backend. -/
  | normalize (backend : Option String) (raw : String)
  /-- Runs through the life of a resource, looking it up every so many milliseconds. -/
  | simulate (backend : Option String) (kind : String) (intervalMs : UInt64)
  /-- Shows the configuration. -/
  | config
  /-- Shows the version. -/
  | version
  deriving DecidableEq, Repr

/-- A command, and whether more is to be said about the work on it. -/
structure Invocation where
  verbose : Bool
  command : Command
  deriving DecidableEq, Repr

/-- The variable that names a backend where no option does. -/
def backendVariable : String := "CLOUDGATE_BACKEND"

/-- The option that names a backend. -/
def backendOption : OptionName := ⟨"backend", some 'b'⟩

/-- The option that names a kind of resources. -/
def kindOption : OptionName := ⟨"kind", some 'k'⟩

/-- The option for the time between two lookups, in milliseconds. -/
def intervalOption : OptionName := ⟨"interval-ms", none⟩

/-- What may follow a command of a name. -/
def grammarOf? : String → Option Grammar
  | "states" => some ⟨[kindOption], 0⟩
  | "capabilities" => some ⟨[backendOption], 0⟩
  | "normalize" => some ⟨[backendOption], 1⟩
  | "simulate" => some ⟨[backendOption, kindOption, intervalOption], 0⟩
  | "config" => some ⟨[], 0⟩
  | "version" => some ⟨[], 0⟩
  | _ => none

/-- The command of a name with its arguments. `backend` is the one that the environment names. -/
def Command.ofArguments? (name : String) (backend : Option String) (a : Arguments) : Option Command :=
  let backend := a.option? backendOption.long <|> backend
  match name, a.values with
  | "states", [] => some (.states (a.option? kindOption.long))
  | "capabilities", [] => some (.capabilities backend)
  | "normalize", [raw] => some (.normalize backend raw)
  | "simulate", [] => do
    let interval ← readWord64? ((a.option? intervalOption.long).getD "50")
    return .simulate backend ((a.option? kindOption.long).getD "instance") interval
  | "config", [] => some .config
  | "version", [] => some .version
  | _, _ => none

/-- Reads a command by its name and the words that follow. -/
def readCommand (environment : String → Option String) (verbose : Bool) (name : String) (words : List String) :
    Except Refusal Invocation :=
  match grammarOf? name with
  | none => .error (if name = "help" then .helpWanted else .misused)
  | some g => do
    let a ← Arguments.read g words
    match Command.ofArguments? name (environment backendVariable) a with
    | some command => return ⟨verbose || a.verbose, command⟩
    | none => .error .misused

/-- Reads a command line. Before the command there may be options without values. -/
def readInvocation (environment : String → Option String) : Bool → List String → Except Refusal Invocation
  | _, [] => .error .misused
  | verbose, word :: words =>
    match Word.ofText word with
    | .value name => readCommand environment verbose name words
    | .dashes => .error .misused
    | _ => do
      let (a, _) ← readWord ⟨[], 0⟩ word { Arguments.empty with verbose := verbose }
      readInvocation environment a.verbose words

end CloudLifecycle.Cli
