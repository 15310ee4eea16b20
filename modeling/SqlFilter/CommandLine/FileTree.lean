import SqlFilter.CommandLine.Host

/-!
# Files in memory

A `FileTree` holds files by their paths, a working directory, an environment and an input, and is a
pure `Host`: what the program does on it is a function. Directories are those that hold a file, and
the working directory with all above it.
-/

namespace SqlFilter

/-- Files, a working directory, an environment and an input. -/
structure FileTree where
  /-- The files, each with the names that lead to it from the root. -/
  files : List (List String × ByteArray)
  /-- The names that lead from the root to the working directory. -/
  directory : List String
  /-- The variables of the environment with their values. -/
  environment : List (String × String)
  input : ByteArray

namespace FileTree

/-- What is at the end of a path. -/
inductive Node where
  | file (octets : ByteArray)
  | directory

/-- What the names from the root lead to. -/
def node? (t : FileTree) (names : List String) : Option Node :=
  match t.files.lookup names with
  | some octets => some (.file octets)
  | none =>
    if names.isPrefixOf t.directory || t.files.any (fun f => names.isPrefixOf f.1) then
      some .directory
    else none

/-- The longest name that may lead from a directory to another place, in octets. -/
def longestName : Nat := 255

/-- Follows the names of a path, from a place to which the names in `here` lead; the last of them
comes first. A single dot stays and two dots go up; neither leads on from a file. -/
def follow (t : FileTree) (here : List String) : List String → Except FileError Node
  | [] =>
    match t.node? here.reverse with
    | some node => .ok node
    | none => .error .notFound
  | name :: names =>
    match t.node? here.reverse with
    | none => .error .notFound
    | some (.file _) => .error .notDirectory
    | some .directory =>
      if name = "" ∨ name = "." then follow t here names
      else if name = ".." then follow t (here.drop 1) names
      else if longestName < name.utf8ByteSize then .error .nameTooLong
      else follow t (name :: here) names

/-- The longest path, in octets. -/
def longestPath : Nat := 4095

/-- What a path leads to. A path that is too long is refused before any of its names is followed. -/
def resolve (t : FileTree) (path : String) : Except FileError Node :=
  if longestPath < path.utf8ByteSize then .error .nameTooLong
  else if path = "" then .error .notFound
  else if path.startsWith "/" then t.follow [] (path.splitOn "/")
  else t.follow t.directory.reverse (path.splitOn "/")

/-- The octets of a file. -/
def readFile (t : FileTree) (path : String) : Except FileError ByteArray := do
  match ← t.resolve path with
  | .file octets => .ok octets
  | .directory => .error .isDirectory

/-- The host that a file tree is. -/
def host (t : FileTree) : Host Id where
  readFile path := t.readFile path
  readInput := .ok t.input
  pathExists path := (t.resolve path).toOption.isSome
  environment name := t.environment.lookup name

end FileTree

end SqlFilter
