import CloudLifecycle.Cli.Program

/-!
# The command line

Gathers what the program may see, runs it, and puts out what it says.
-/

namespace CloudLifecycle

/-- What a path on the disk leads to. -/
def fileOnDisk (path : String) : IO FileStatus := do
  match ← (IO.FS.readBinFile path).toBaseIO with
  | .ok bytes =>
    match String.fromUTF8? bytes with
    | some content => return .text content
    | none => return .unreadable
  | .error (.permissionDenied ..) => return .unreadable
  | .error _ => return .absent

/-- The values of variables of the environment. -/
def readEnvironment (names : List String) : IO (List (String × String)) :=
  names.filterMapM fun name => do return (← IO.getEnv name).map (name, ·)

/-- The surroundings of the program. Only files that may be asked for are read. -/
def gatherSurroundings : IO Surroundings := do
  let found ← readEnvironment [configPathVariable, Cli.backendVariable, "XDG_CONFIG_HOME", "HOME"]
  let environment := fun name => (found.find? (·.1 = name)).map (·.2)
  let bare : Surroundings :=
    ⟨environment, toString (← IO.currentDir), userConfigDirectory? environment, fun _ => .absent⟩
  let paths := (environment configPathVariable).toList ++ bare.configCandidates
  let files ← paths.mapM fun path => do return (path, ← fileOnDisk path)
  return { bare with fileAt := fun path => ((files.find? (·.1 = path)).map (·.2)).getD .absent }

/-- A number that nobody can foresee. -/
def randomSeed : IO Nat := do
  return (← IO.getRandomBytes 16).toList.foldl (fun n byte => 256 * n + byte.toNat) 0

end CloudLifecycle

open CloudLifecycle in
/-- Runs the program on the words of its command line. -/
def main (words : List String) : IO UInt32 := do
  let completion := Cli.run (← gatherSurroundings) (← randomSeed) words
  IO.print completion.output
  IO.eprint completion.errors
  return completion.code.toUInt32
