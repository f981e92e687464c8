import DocPages.Data.SortedMap
import DocPages.Text.Lines

/-!
# File systems

Regular files with their contents, and directories. Paths are followed name by name from the working
directory or the root, and each name on the way must be that of a directory.
-/

namespace DocPages.Cli

/-- The names that lead from the root to a file or a directory. -/
abbrev Place := List String

structure FileSystem where
  files : List (Place × String) := []
  directories : List Place := []
deriving DecidableEq

namespace FileSystem

/-- A place is a directory if it is listed as one or something lies in it. -/
def isDirectory (fs : FileSystem) (p : Place) : Bool :=
  p.isEmpty || fs.directories.any p.isPrefixOf || fs.files.any fun (q, _) => p.isPrefixOf q && p != q

/-- Follows the names of a path from a directory. -/
def follow? (fs : FileSystem) : Place → List String → Option Place
  | p, [] => some p
  | p, name :: names =>
    if !fs.isDirectory p then none
    else if name == "" || name == "." then follow? fs p names
    else if name == ".." then follow? fs p.dropLast names
    else follow? fs (p ++ [name]) names

/-- The names of a path between its slashes. -/
def names (path : String) : List String :=
  (Text.splitBy (· == '/') path.toList).map String.ofList

/-- The place where a path starts. -/
def start (workDir : Place) (path : String) : Place :=
  if path.startsWith "/" then [] else workDir

/-- The place that a path leads to. -/
def place? (fs : FileSystem) (workDir : Place) (path : String) : Option Place :=
  if path.isEmpty then none else fs.follow? (start workDir path) (names path)

/-- The contents of the file at a path. -/
def read? (fs : FileSystem) (workDir : Place) (path : String) : Option String :=
  (fs.place? workDir path).bind fun p => fs.files.lookup p

/-- Puts contents in a place. -/
def put (fs : FileSystem) (p : Place) (contents : String) : FileSystem :=
  { fs with files := fs.files.filter (·.1 != p) ++ [(p, contents)] }

/-- Writes the file at a path. The path must end with a name, in a directory that is there and in which it
is not the name of a directory. -/
def write? (fs : FileSystem) (workDir : Place) (path contents : String) : Option FileSystem := do
  let p ← fs.place? workDir path
  let name ← (names path).getLast?
  guard (name != "" && name != "." && name != ".." && !fs.isDirectory p)
  return fs.put p contents

end FileSystem

end DocPages.Cli
