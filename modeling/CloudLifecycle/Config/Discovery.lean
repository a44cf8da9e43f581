import CloudLifecycle.Config.Document
import CloudLifecycle.Surroundings

/-!
# Finding a configuration

A variable of the environment names the file, or else the first file is taken that has one of the usual names in one
of the usual directories. A file that is named has to be there, and a file that was found has to be a configuration:
nothing else is taken in its place. Only where no file is named and none is found, the standard configuration holds.
-/

namespace CloudLifecycle

/-- The variable that names the file of the configuration. -/
def configPathVariable : String := "CLOUDGATE_CONFIG_PATH"

/-- The names that a configuration may have in a directory, the first that is there being taken. -/
def configNames : List String :=
  ["cloudgate.local.yaml", ".cloudgate.local.yaml", "cloudgate.yaml", ".cloudgate.yaml"]

namespace Surroundings

/-- The directories in which a configuration may be, in the order in which they are searched. -/
def configDirectories (s : Surroundings) : List String :=
  [s.currentDirectory, joinPath s.currentDirectory ".cloudgate"] ++
    (s.configDirectory?.map (joinPath · "cloudgate")).toList

/-- The paths that a configuration may have, in the order in which they are tried. -/
def configCandidates (s : Surroundings) : List String :=
  s.configDirectories.flatMap fun directory => configNames.map (joinPath directory)

/-- The path of the configuration. -/
def findConfig (s : Surroundings) : Except ConfigError String :=
  match s.environment configPathVariable with
  | some path => if s.isFile path then .ok path else .error (.namedFileMissing path)
  | none =>
    match s.configCandidates.find? s.isFile with
    | some path => .ok path
    | none => .error .notFound

/-- The configuration in a file. -/
def readConfig (s : Surroundings) (path : String) : Except ConfigError GatewayConfig :=
  match s.fileAt path with
  | .text content => GatewayConfig.fromYaml content
  | .absent | .unreadable => .error .unreadable

/-- The configuration that holds, and the file that it is from. -/
def loadConfig (s : Surroundings) : Except ConfigError (GatewayConfig × Option String) :=
  match s.findConfig with
  | .ok path => (s.readConfig path).map (·, some path)
  | .error .notFound => .ok (.standard, none)
  | .error e => .error e

end Surroundings

end CloudLifecycle
