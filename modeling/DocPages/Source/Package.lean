/-!
# Package descriptions

What is known of a package before any documentation is laid out: names, raw doc comments, declaration
text and positions.
-/

namespace DocPages.Source

/-- A line and a column in a file. -/
structure Position where
  line : Nat := 0
  col : Nat := 0
deriving DecidableEq

/-- The part of a file that holds a declaration. -/
structure Extent where
  filepath : String := ""
  start : Position := {}
  stop : Position := {}
deriving DecidableEq

/-- A constant or variable declaration, possibly of a group of names. -/
structure Value where
  names : List String := []
  doc : String := ""
  decl : String := ""
  location : Extent := {}
deriving DecidableEq

/-- A function, or a method if there is a receiver. -/
structure Func where
  name : String := ""
  /-- Receiver type as written, such as `*Client`. -/
  recv : String := ""
  doc : String := ""
  decl : String := ""
  location : Extent := {}
deriving DecidableEq

/-- A type with what belongs to it. -/
structure TypeDecl where
  name : String := ""
  doc : String := ""
  decl : String := ""
  location : Extent := {}
  fields : List String := []
  /-- Constructors and other package-level functions listed with the type. -/
  funcs : List Func := []
  methods : List Func := []
  consts : List Value := []
  vars : List Value := []
deriving DecidableEq

/-- A runnable example. -/
structure Example where
  /-- Subject and suffix, such as `Client_Do_retries`. -/
  name : String := ""
  doc : String := ""
  code : String := ""
  output : Option String := none
deriving DecidableEq

/-- A package. -/
structure Package where
  name : String := ""
  importPath : String := ""
  dir : String := ""
  doc : String := ""
  consts : List Value := []
  vars : List Value := []
  funcs : List Func := []
  types : List TypeDecl := []
  examples : List Example := []
  /-- Import paths of the packages that doc comments may link to, in the order of their names. -/
  imports : List (String × String) := []
deriving DecidableEq

end DocPages.Source
