import DocPages.Source.Package
import DocPages.Text.Lines
import DocPages.Data.SortedMap

/-!
# Symbols of a package

Every declaration that a doc comment can link to is kept under its qualified name: the bare name for
a declaration of the package itself, `Receiver.Name` for methods and fields. A symbol may be documented
in the section of another one, its parent; the anchor of a symbol is that of the last symbol reached by
following parents.
-/

namespace DocPages

open Text

inductive SymbolKind where
  | type
  | func
  | const
  | var
  | method
  | field
deriving DecidableEq

/-- A declaration that can be linked to. -/
structure Symbol where
  kind : SymbolKind
  name : String
  receiver : String := ""
  /-- Qualified name of the symbol in whose section this one is documented. -/
  parent : Option String := none
deriving DecidableEq

/-- Drops the pointer marks at the start of a reference. -/
def dropStars (s : String) : String :=
  onChars (·.dropWhile (· == '*')) s

/-- The name under which a symbol is kept, without pointer marks. -/
def qualifiedName (receiver name : String) : String :=
  let receiver := dropStars receiver
  let name := dropStars name
  if receiver.isEmpty then name else receiver ++ "." ++ name

namespace Symbol

@[inherit_doc DocPages.qualifiedName]
def qualifiedName (s : Symbol) : String :=
  DocPages.qualifiedName s.receiver s.name

/-- The anchor of a symbol that has a section of its own. -/
def ownAnchor (s : Symbol) : String :=
  match s.kind with
  | .method | .field => dropStars s.receiver ++ "." ++ s.name
  | _ => s.name

end Symbol

/-- Symbols by qualified name, in the order of the names. -/
structure SymbolTable where
  entries : List (String × Symbol) := []
deriving DecidableEq

namespace SymbolTable

/-- Adds a symbol, replacing one of the same qualified name. -/
def insert (t : SymbolTable) (s : Symbol) : SymbolTable :=
  ⟨SortedMap.put s.qualifiedName s t.entries⟩

/-- Adds symbols from left to right. -/
def insertAll (t : SymbolTable) (ss : List Symbol) : SymbolTable :=
  ss.foldl insert t

def get? (t : SymbolTable) (qualified : String) : Option Symbol :=
  t.entries.lookup qualified

/-- The symbol that a reference such as `Name`, `Recv.Name` or `*Recv.Name` names. -/
def find? (t : SymbolTable) (reference : String) : Option Symbol :=
  let reference := dropStars reference
  match splitOnce '.' reference.toList with
  | some (recv, name) => t.get? (qualifiedName (String.ofList recv) (String.ofList name))
  | none => t.get? reference

/-- The last symbol of the chain of parents that starts at `s`, in at most `n` steps. A chain ends
before a name that is not in the table or that was visited already. -/
def chainEnd (t : SymbolTable) : Nat → List String → Symbol → Symbol
  | 0, _, s => s
  | n + 1, seen, s =>
    match s.parent with
    | none => s
    | some p =>
      if seen.contains p then s
      else match t.get? p with
        | none => s
        | some next => chainEnd t n (p :: seen) next

/-- The anchor of the section that documents a symbol. Every step of the chain visits a new name of
the table, so its length bounds the chain. -/
def anchor (t : SymbolTable) (s : Symbol) : String :=
  (t.chainEnd t.entries.length [s.qualifiedName] s).ownAnchor

/-- The anchor that a reference points to, if it names a symbol. -/
def resolve? (t : SymbolTable) (reference : String) : Option String :=
  (t.find? reference).map t.anchor

/-! ## The symbols of a package -/

/-- The names of a group. They are documented together, under the first one. -/
def groupSymbols (kind : SymbolKind) (group : Source.Value) : List Symbol :=
  match group.names with
  | [] => []
  | first :: _ => group.names.map fun name =>
    { kind, name, parent := if name = first then none else some first }

/-- A type, its methods and fields, and the package-level declarations listed with it. -/
def typeSymbols (type : Source.TypeDecl) : List Symbol :=
  [{ kind := .type, name := type.name }]
    ++ type.methods.map (fun m => { kind := .method, name := m.name, receiver := type.name })
    ++ type.fields.map (fun f =>
      { kind := .field, name := f, receiver := type.name, parent := some type.name })
    ++ type.funcs.map (fun f => { kind := .func, name := f.name })
    ++ type.consts.flatMap (groupSymbols .const)
    ++ type.vars.flatMap (groupSymbols .var)

/-- All symbols of a package in the order in which they are entered. -/
def packageSymbols (pkg : Source.Package) : List Symbol :=
  pkg.consts.flatMap (groupSymbols .const)
    ++ pkg.vars.flatMap (groupSymbols .var)
    ++ pkg.funcs.map (fun f => { kind := .func, name := f.name })
    ++ pkg.types.flatMap typeSymbols

/-- The symbol table of a package. -/
def ofPackage (pkg : Source.Package) : SymbolTable :=
  SymbolTable.insertAll {} (packageSymbols pkg)

end SymbolTable

end DocPages
