import DocPages.Text.Lines

/-!
# Slash-separated paths

A path is a list of components. Empty components and single dots say nothing and are dropped, except for
a dot at the start; a leading slash makes the path absolute.
-/

namespace DocPages.Text

/-- The last element of a directory name written with either kind of slash. -/
def dirNameChars (dir : List Char) : List Char :=
  let isSlash (c : Char) := c == '/' || c == '\\'
  ((splitBy isSlash (dropEndWhile isSlash dir)).getLast?).getD []

@[inherit_doc dirNameChars]
def dirName (dir : String) : String :=
  onChars dirNameChars dir

/-! ## Components -/

inductive Component where
  | root
  | current
  | parent
  | normal (name : List Char)
deriving DecidableEq

def isAbsolute (path : List Char) : Bool :=
  path.head? == some '/'

/-- The component that a piece between slashes stands for, other than at the start. -/
def component? (piece : List Char) : Option Component :=
  if piece.isEmpty || piece == ['.'] then none
  else if piece == ['.', '.'] then some .parent
  else some (.normal piece)

/-- The components of a path. -/
def components (path : List Char) : List Component :=
  let pieces := splitBy (· == '/') path
  let lead : List Component :=
    if isAbsolute path then [.root] else if pieces.head? == some ['.'] then [.current] else []
  lead ++ pieces.filterMap component?

/-- The components that lead from `base` to `path`, where nothing but equal components was passed yet. A
base that climbs out of where the paths part cannot be followed. -/
def relativeComponents : List Component → List Component → Option (List Component)
  | [], base => some (base.map fun _ => .parent)
  | path, [] => some path
  | a :: path, b :: base =>
    if a = b then relativeComponents path base
    else walk (a :: path) (b :: base)
where
  /-- The same once the paths have parted. -/
  walk : List Component → List Component → Option (List Component)
    | [], base => some (base.map fun _ => .parent)
    | path, [] => some path
    | a :: path, .current :: base => (walk path base).map (a :: ·)
    | _ :: _, .parent :: _ => none
    | path, _ :: base => some (.parent :: (base.map fun _ => .parent) ++ path)

/-- The path from a directory to a file, if there is one: whether it is absolute, and its components. -/
def relativePath (path base : List Char) : Option (Bool × List Component) :=
  if isAbsolute path == isAbsolute base then
    (relativeComponents (components path) (components base)).map (false, ·)
  else if isAbsolute path then some (true, components path)
  else none

/-- The names that components lead to from the root. Nothing lies above the root. -/
def resolveComponents : List (List Char) → List Component → Option (List (List Char))
  | names, [] => some names.reverse
  | names, .normal name :: rest => resolveComponents (name :: names) rest
  | [], .parent :: _ => none
  | _ :: names, .parent :: rest => resolveComponents names rest
  | names, _ :: rest => resolveComponents names rest

end DocPages.Text
