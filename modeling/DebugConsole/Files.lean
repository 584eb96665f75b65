/-!
# Files

A tree of directories and files, and the paths that lead through it.

* `FileTree.enter`: follows the parts of a path, each of which has to be a directory.
* `FileTree.read`, `FileTree.create`: the contents of a file, and the tree with an empty one.
* `FileTree.append`: the tree with more behind the contents of a file.
* A slash at the end of a path asks for a directory, so it never leads to a file.
-/

namespace DebugConsole

/-- Why a file could not be read or made. -/
inductive FileError where
  | notFound
  /-- A path goes on behind a file. -/
  | notDirectory
  | isDirectory
  | nameTooLong
  | notText
  deriving DecidableEq, Repr

/-- The wording of a file's fault. -/
def FileError.message : FileError → String
  | .notFound => "No such file or directory (os error 2)"
  | .notDirectory => "Not a directory (os error 20)"
  | .isDirectory => "Is a directory (os error 21)"
  | .nameTooLong => "File name too long (os error 36)"
  | .notText => "stream did not contain valid UTF-8"

/-- What a name in a directory stands for. -/
inductive Node where
  | directory
  | file (bytes : List UInt8)
  /-- A device that reads as empty and keeps nothing. -/
  | sink
  deriving DecidableEq, Repr

/-- A place in a tree: the names that lead to it from the root. -/
abbrev Place := List String

/-- A tree of directories and files with a working directory. -/
structure FileTree where
  /-- Everything but the root, which is always a directory. -/
  nodes : List (Place × Node)
  /-- The working directory. -/
  here : Place
  deriving DecidableEq, Repr

namespace FileTree

/-- The greatest length of a name, in bytes. -/
def maxName : Nat := 255

/-- The greatest length of a path, in bytes. -/
def maxPath : Nat := 4095

/-- What is at a place. -/
def node? (t : FileTree) (place : Place) : Option Node :=
  if place.isEmpty then some .directory else t.nodes.lookup place

/-- The place that a part of a path leads to from a directory, whether there is anything or not. -/
def child (directory : Place) (part : String) : Except FileError Place :=
  if part = "." then .ok directory
  else if part = ".." then .ok directory.dropLast
  else if maxName < part.utf8ByteSize then .error .nameTooLong
  else .ok (directory ++ [part])

/-- Follows parts of a path, each of which has to be a directory. -/
def enter (t : FileTree) (directory : Place) : List String → Except FileError Place
  | [] => .ok directory
  | part :: rest => do
    let place ← child directory part
    match t.node? place with
    | some .directory => t.enter place rest
    | some _ => throw .notDirectory
    | none => throw .notFound

/-- A path that can be followed. -/
structure Route where
  /-- Where the path starts: at the root or in the working directory. -/
  start : Place
  /-- What stands between the slashes. -/
  parts : List String
  /-- Whether the path ends with a slash. -/
  slashed : Bool
  deriving DecidableEq, Repr

/-- The route of a path; an empty path leads nowhere. -/
def route (t : FileTree) (path : String) : Except FileError Route :=
  if path.isEmpty then .error .notFound
  else if maxPath < path.utf8ByteSize then .error .nameTooLong
  else
    let pieces := (path.toList.splitOnP (· == '/')).map String.ofList
    .ok
      { start := if pieces.head? = some "" then [] else t.here
        parts := pieces.filter (!·.isEmpty)
        slashed := pieces.getLast? = some "" }

/-- The place that the last part of a route leads to, behind directories. -/
def follow (t : FileTree) (r : Route) : Except FileError Place := do
  let directory ← t.enter r.start r.parts.dropLast
  child directory (r.parts.getLast?.getD ".")

/-- The contents of a file. -/
def read (t : FileTree) (path : String) : Except FileError (List UInt8) := do
  let r ← t.route path
  if r.slashed then
    let _ ← t.enter r.start r.parts
    throw .isDirectory
  match t.node? (← t.follow r) with
  | some (.file bytes) => return bytes
  | some .sink => return []
  | some .directory => throw .isDirectory
  | none => throw .notFound

/-- The tree with a file at a place. -/
def put (t : FileTree) (place : Place) (bytes : List UInt8) : FileTree :=
  { t with nodes := (place, .file bytes) :: t.nodes.filter (·.1 ≠ place) }

/-- The tree with an empty file, which replaces one that is there. -/
def create (t : FileTree) (path : String) : Except FileError FileTree := do
  let r ← t.route path
  if r.slashed then
    let _ ← t.enter r.start r.parts.dropLast
    throw .isDirectory
  let place ← t.follow r
  match t.node? place with
  | some .directory => throw .isDirectory
  | some .sink => return t
  | some (.file _) | none => return t.put place []

/-- The tree with more behind the contents of a file; what is written to a device is lost. -/
def append (t : FileTree) (path : String) (bytes : List UInt8) : FileTree :=
  match (do t.follow (← t.route path)) with
  | .error _ => t
  | .ok place =>
    match t.node? place with
    | some (.file before) => t.put place (before ++ bytes)
    | _ => t

/-- Whether a path leads to a file. -/
def isFile (t : FileTree) (path : String) : Bool :=
  match (do let r ← t.route path; return (r, ← t.follow r)) with
  | .ok (r, place) => !r.slashed && (t.node? place matches some (.file _))
  | .error _ => false

end FileTree

end DebugConsole
