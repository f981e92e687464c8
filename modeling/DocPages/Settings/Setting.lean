import DocPages.Data.SortedMap
import DocPages.Text.Casing
import DocPages.Text.Lines

/-!
# Trees of settings

Settings form a tree of tables and lists with texts at the leaves. Everything that sets something is an
assignment of a leaf to a path, so a file is the list of its assignments and later assignments replace
earlier ones. Names of settings are not sensitive to case.
-/

namespace DocPages

inductive Setting where
  /-- Nothing is set. -/
  | unset
  | scalar (text : String)
  | list (items : List Setting)
  | table (entries : List (String × Setting))
deriving Inhabited

namespace Setting

def ofBool (b : Bool) : Setting :=
  .scalar (if b then "true" else "false")

def ofInt (n : Int) : Setting :=
  .scalar (toString n)

/-- The entries of a table. Anything else has none. -/
def entries : Setting → List (String × Setting)
  | table es => es
  | _ => []

/-- The items of a list. Anything else has none. -/
def items : Setting → List Setting
  | list xs => xs
  | _ => []

/-- The setting under a name. -/
def get (s : Setting) (name : String) : Setting :=
  (s.entries.lookup name).getD .unset

/-- A step from a setting to a part of it. Negative indices count from the end. -/
inductive Step where
  | entry (name : String)
  | item (index : Int)
deriving DecidableEq

abbrev Path := List Step

/-- Sets the leaf at a path. What is on the way and is not of the right kind gives way to a new table or
list. A table without entries fills only an empty place. -/
def assign (leaf : Setting) : Path → Setting → Setting
  | [], old =>
    match leaf, old with
    | table [], unset => table []
    | table [], _ => old
    | _, _ => leaf
  | .entry name :: path, old =>
    .table (SortedMap.put name (assign leaf path (old.get name)) old.entries)
  | .item index :: path, old =>
    let n := (if index < 0 then Int.ofNat old.items.length + index else index).toNat
    let items := old.items ++ List.replicate (n + 1 - old.items.length) .unset
    .list (items.set n (assign leaf path (items.getD n .unset)))

def lower (name : String) : String :=
  Text.onChars Text.lowercase name

def lowerStep : Step → Step
  | .entry name => .entry (lower name)
  | step => step

/-- An assignment of a leaf to a path. -/
structure Assignment where
  path : Path
  leaf : Setting

/-- The assignment of a leaf, with the names of its path in lower case. -/
def Assignment.to (path : Path) (leaf : Setting) : Assignment :=
  ⟨path.map lowerStep, leaf⟩

mutual

/-- The leaves of a setting with their paths. A table without entries is a leaf. -/
def leaves : Setting → List (Path × Setting)
  | table [] => [([], table [])]
  | table (e :: es) => leavesOfEntries (e :: es)
  | s => [([], s)]

def leavesOfEntries : List (String × Setting) → List (Path × Setting)
  | [] => []
  | (name, s) :: es =>
    (leaves s).map (fun (path, leaf) => (.entry name :: path, leaf)) ++ leavesOfEntries es

end

/-- The assignments that put the leaves of a setting under a path. -/
def assignmentsAt (path : Path) (s : Setting) : List Assignment :=
  s.leaves.map fun (rest, leaf) => .to (path ++ rest) leaf

/-- The tree after some assignments, in order. -/
def ofAssignments (as : List Assignment) : Setting :=
  as.foldl (fun s a => assign a.leaf a.path s) (.table [])

end Setting

end DocPages
