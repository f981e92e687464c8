import DocPages.Source.Symbol

/-!
# Scopes

A scope is what a doc comment is read against: the depth of its headings, the repository that source
links point into, and the names that its links can refer to.
-/

namespace DocPages

/-- A repository that can be browsed. -/
structure Repo where
  /-- Address of the repository. -/
  remote : String
  defaultBranch : String
  /-- Path of the working directory relative to the root of the repository. -/
  pathFromRoot : String
deriving DecidableEq

/-- Where a declaration stands, and the repository to link it into. -/
structure Location where
  start : Source.Position
  stop : Source.Position
  filepath : String
  workDir : String
  repo : Option Repo
deriving DecidableEq

/-- The host of the documentation of other packages. -/
def defaultDocHost : String := "https://pkg.go.dev/"

/-- What doc comments are read against. -/
structure Scope where
  level : Nat := 1
  repo : Option Repo := none
  pkgDir : String := ""
  workDir : String := ""
  docHost : String := defaultDocHost
  symbols : SymbolTable := {}
  /-- Import paths by package name. -/
  imports : List (String × String) := []
deriving DecidableEq

namespace Scope

/-- The scope `n` levels deeper. -/
def deeper (s : Scope) (n : Nat) : Scope :=
  { s with level := s.level + n }

/-- The scope with the names of a package. -/
def ofPackage (s : Scope) (pkg : Source.Package) : Scope :=
  { s with symbols := SymbolTable.ofPackage pkg, imports := pkg.imports }

end Scope

end DocPages
