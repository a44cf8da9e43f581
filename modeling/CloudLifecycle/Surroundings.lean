/-!
# Surroundings

What a program sees of the place it runs in: the variables of its environment, the directory it is in, the one in which
its user keeps configurations, and files. Nothing here changes while it looks.
-/

namespace CloudLifecycle

/-- What a path leads to. -/
inductive FileStatus where
  /-- Nothing, or what is not a file. -/
  | absent
  /-- A file that holds no text. -/
  | unreadable
  | text (content : String)
  deriving DecidableEq, Repr

/-- Whether a path leads to a file. -/
def FileStatus.isFile : FileStatus → Bool
  | absent => false
  | _ => true

/-- The place that a program runs in. -/
structure Surroundings where
  /-- The values of the variables that are set. -/
  environment : String → Option String
  /-- The directory that the program is in. It is taken to exist: that the system cannot tell it, and the search for a
  configuration that nobody names fails for that reason, does not happen here. -/
  currentDirectory : String
  /-- Where the user keeps the configurations of programs, if there is such a place. -/
  configDirectory? : Option String
  /-- What a path leads to; it starts in the current directory if it is relative. -/
  fileAt : String → FileStatus

namespace Surroundings

/-- Whether a path leads to a file. -/
def isFile (s : Surroundings) (path : String) : Bool := (s.fileAt path).isFile

end Surroundings

/-! ## Paths -/

/-- Whether a path starts at the root. -/
def isAbsolutePath (path : String) : Bool := path.toList.head? = some '/'

/-- The path of a name in a directory. The empty path is the directory that one is in. -/
def joinPath (directory name : String) : String :=
  match directory.toList.getLast? with
  | none | some '/' => directory ++ name
  | some _ => directory ++ "/" ++ name

/-- Where a user keeps configurations, as the variables of the environment tell. -/
def userConfigDirectory? (environment : String → Option String) : Option String :=
  match (environment "XDG_CONFIG_HOME").filter isAbsolutePath with
  | some directory => some directory
  | none => ((environment "HOME").filter (!·.isEmpty)).map (joinPath · ".config")

end CloudLifecycle
