import CloudLifecycle.Surroundings

/-!
# Files in memory

Directories and files without a disk. A place is the list of names that lead to it from the root. A path is walked
name by name: each step needs a directory to start from, so that a path through a file leads nowhere, and so does
one that ends in a slash after a file.
-/

namespace CloudLifecycle

/-- What is at a place. -/
inductive FileEntry where
  | file (content : List UInt8)
  | directory
  deriving DecidableEq, Repr

/-- The entries under their places, of which the first counts. The root needs none. -/
structure FileTree where
  entries : List (List String × FileEntry)
  deriving Repr

namespace FileTree

/-- The root alone. -/
def empty : FileTree := ⟨[]⟩

/-- The entry at a place. -/
def entry? (t : FileTree) (place : List String) : Option FileEntry :=
  if place.isEmpty then some .directory else (t.entries.find? (·.1 = place)).map (·.2)

/-- The tree with a directory at a place, and directories on the way to it. What is there already stays. -/
def makeDirectory (place : List String) (t : FileTree) : FileTree :=
  ((List.range (place.length + 1)).map place.take).foldl
    (fun t above => if (t.entry? above).isSome then t else ⟨(above, .directory) :: t.entries⟩) t

/-- The tree with a file at a place, in a directory that is there or is made. -/
def writeFile (place : List String) (content : List UInt8) (t : FileTree) : FileTree :=
  ⟨(place, .file content) :: (t.makeDirectory place.dropLast).entries⟩

/-- The place that one name leads to. -/
def step (t : FileTree) (place : List String) (name : String) : Option (List String) :=
  if t.entry? place = some .directory then
    if name = "" ∨ name = "." then some place
    else if name = ".." then some place.dropLast
    else some (place ++ [name])
  else none

/-- The place that a path leads to from another one. -/
def walk (t : FileTree) (start : List String) (path : String) : Option (List String) :=
  if path.isEmpty then none
  else (path.splitOn "/").foldlM t.step (if isAbsolutePath path then [] else start)

/-- The bytes of a text in UTF-8, as a text. -/
def decodeText? (bytes : List UInt8) : Option String := String.fromUTF8? (ByteArray.mk bytes.toArray)

/-- What a path leads to from a place. -/
def fileAt (t : FileTree) (start : List String) (path : String) : FileStatus :=
  match (t.walk start path).bind t.entry? with
  | some (.file bytes) =>
    match decodeText? bytes with
    | some content => .text content
    | none => .unreadable
  | _ => .absent

/-- The surroundings of a program that runs at a place of a tree. -/
def surroundings (t : FileTree) (place : List String) (environment : String → Option String) : Surroundings :=
  ⟨environment, "/" ++ "/".intercalate place, userConfigDirectory? environment, t.fileAt place⟩

end FileTree

end CloudLifecycle
