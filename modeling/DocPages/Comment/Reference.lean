import DocPages.Source.Scope
import DocPages.Text.Casing
import DocPages.Text.Numeral

/-!
# References in brackets

A bracketed label names a declaration of the package, a declaration of another package, or nothing. The
shapes of names and import paths, and the addresses of other packages on the documentation host.
-/

namespace DocPages.Reference

open Text

def isIdentStart (c : Char) : Bool :=
  isLetter c || c == '_'

def isIdentPart (c : Char) : Bool :=
  isLetter c || isNumeral c || c == '_'

/-- A letter or underscore followed by letters, numerals and underscores. -/
def isIdent : List Char → Bool
  | [] => false
  | c :: cs => isIdentStart c && cs.all isIdentPart

/-- Drops one pointer mark. -/
def dropStar : List Char → List Char
  | '*' :: cs => cs
  | cs => cs

/-- An identifier, possibly with a pointer mark. -/
def isName (cs : List Char) : Bool :=
  isIdent (dropStar cs)

/-- One identifier or two joined by a dot, possibly with a pointer mark. -/
def isReference (cs : List Char) : Bool :=
  match splitOnce '.' (dropStar cs) with
  | none => isIdent (dropStar cs)
  | some (receiver, name) => isIdent receiver && isIdent name

def isPathChar (c : Char) : Bool :=
  c.isAlphanum || c == '_' || c == '.' || c == '-' || c == '~'

/-- At least two non-empty elements with slashes between them. -/
def isImportPath (cs : List Char) : Bool :=
  let elements := splitBy (· == '/') cs
  Nat.ble 2 elements.length && elements.all fun e => !e.isEmpty && e.all isPathChar

/-- An import path and the symbol behind its last element, if a dot separates one from it. -/
def splitImport (label : List Char) : Option (List Char × Option (List Char)) :=
  (splitLast '/' label).map fun (dir, last) =>
    match splitOnce '.' last with
    | some (element, symbol) =>
      if isReference symbol then (dir ++ '/' :: element, some symbol) else (label, none)
    | none => (label, none)

/-- The address of an import path, or of a symbol behind it, on a documentation host. -/
def importPathUrl? (host : String) (label : List Char) : Option String :=
  match splitImport label with
  | none => none
  | some (path, symbol) =>
    if isImportPath path then
      match symbol with
      | some s => some (host ++ String.ofList path ++ "#" ++ dropStars (String.ofList s))
      | none => some (host ++ String.ofList path)
    else none

/-- The address of a declaration of another package. A short reference `pkg.Name` counts only if `pkg`
starts with a small letter and the package itself declares no such name. -/
def externalUrl? (scope : Scope) (label : List Char) : Option String :=
  if label.contains '/' then importPathUrl? scope.docHost label
  else match splitOnce '.' label with
    | none => none
    | some (pkg, name) =>
      if !(pkg.head?.map isLowercase).getD false
          || (scope.symbols.find? (String.ofList label)).isSome then none
      else if isName pkg && isReference name then
        let pkg := String.ofList pkg
        some (scope.docHost ++ (scope.imports.lookup pkg).getD pkg ++ "#" ++ String.ofList name)
      else none

end DocPages.Reference
