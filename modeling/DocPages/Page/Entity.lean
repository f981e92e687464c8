import DocPages.Comment.Parse
import DocPages.Text.Summary
import DocPages.Text.CamelCase
import DocPages.Text.SourceLayout
import DocPages.Text.Path

/-!
# Pages

A page shows a package: each of its declarations with its doc comment parsed, its source laid out and its
examples attached. Building a page fails only if some source that would be shown is empty.
-/

namespace DocPages

open Text

/-- The kinds of source that are shown. -/
inductive SourceKind where
  | declaration
  | signature
  | exampleCode
deriving DecidableEq

def SourceKind.label : SourceKind → String
  | .declaration => "declaration"
  | .signature => "signature"
  | .exampleCode => "example code"

/-- Source that should be shown and is white space only. -/
structure EmptySource where
  kind : SourceKind
deriving DecidableEq

def EmptySource.message (e : EmptySource) : String :=
  "unable to format " ++ e.kind.label ++ ": source is empty"

/-- Lays out source of some kind. -/
def layoutSource (kind : SourceKind) (source : String) : Except EmptySource String :=
  match layoutSource? source with
  | some text => .ok text
  | none => .error ⟨kind⟩

namespace Page

structure Example where
  level : Nat
  name : String
  title : String
  summary : String
  doc : Doc
  code : String
  output : Option String

structure Value where
  level : Nat
  names : List String
  anchor : String
  summary : String
  doc : Doc
  decl : String
  location : Location

structure Func where
  level : Nat
  name : String
  receiver : String
  title : String
  anchor : String
  summary : String
  doc : Doc
  signature : String
  location : Location
  examples : List Example

structure TypeDecl where
  level : Nat
  name : String
  title : String
  anchor : String
  summary : String
  doc : Doc
  decl : String
  location : Location
  consts : List Value
  vars : List Value
  examples : List Example
  funcs : List Func
  methods : List Func

structure Package where
  level : Nat
  name : String
  dirname : String
  dir : String
  importPath : String
  importDecl : String
  summary : String
  doc : Doc
  examples : List Example
  consts : List Value
  vars : List Value
  funcs : List Func
  types : List TypeDecl

structure File where
  header : String
  footer : String
  packages : List Package

/-! ## Examples -/

/-- What follows the subject in the name of an example: nothing, or the part behind an underscore.
Nothing is returned if the example has another subject. -/
def suffix? (subject name : String) : Option String :=
  if name = subject then some ""
  else (dropFront? (subject ++ "_").toList name.toList).map String.ofList

/-- The examples of a subject with their suffixes, in order. -/
def examplesOf (subject : String) (examples : List Source.Example) :
    List (String × Source.Example) :=
  examples.filterMap fun e => (suffix? subject e.name).map (·, e)

/-- An example shown in a scope under its suffix. -/
def ofExample (scope : Scope) (suffix : String) (src : Source.Example) :
    Except EmptySource Example := do
  let name := splitCamel suffix
  return {
    level := scope.level
    name
    title := if name.isEmpty then "Example" else "Example (" ++ name ++ ")"
    summary := summary src.doc
    doc := Doc.ofComment (scope.deeper 1) src.doc
    code := ← layoutSource .exampleCode src.code
    output := src.output }

/-- The examples of a subject, one level below it. -/
def ofExamples (scope : Scope) (examples : List (String × Source.Example)) :
    Except EmptySource (List Example) :=
  examples.mapM fun (suffix, e) => ofExample (scope.deeper 1) suffix e

/-! ## Declarations -/

/-- The place of a declaration in its repository. -/
def location (scope : Scope) (extent : Source.Extent) : Location :=
  { start := extent.start
    stop := extent.stop
    filepath := extent.filepath
    workDir := scope.workDir
    repo := scope.repo }

def ofValue (scope : Scope) (src : Source.Value) : Except EmptySource Value := do
  return {
    level := scope.level
    names := src.names
    anchor := src.names.headD ""
    summary := summary src.doc
    doc := Doc.ofComment (scope.deeper 1) src.doc
    decl := ← layoutSource .declaration src.decl
    location := location scope src.location }

/-- The subject of the examples of a function or method. -/
def funcSubject (src : Source.Func) : String :=
  if src.recv.isEmpty then src.name else dropStars src.recv ++ "_" ++ src.name

def funcTitle (src : Source.Func) : String :=
  if src.recv.isEmpty then "func " ++ src.name
  else "func (" ++ src.recv ++ ") " ++ src.name

def funcAnchor (src : Source.Func) : String :=
  if src.recv.isEmpty then src.name else dropStars src.recv ++ "." ++ src.name

def ofFunc (examples : List Source.Example) (scope : Scope) (src : Source.Func) :
    Except EmptySource Func := do
  return {
    level := scope.level
    name := src.name
    receiver := src.recv
    title := funcTitle src
    anchor := funcAnchor src
    summary := summary src.doc
    doc := Doc.ofComment (scope.deeper 1) src.doc
    signature := ← layoutSource .signature src.decl
    location := location scope src.location
    examples := ← ofExamples scope (examplesOf (funcSubject src) examples) }

/-- Whether an example belongs to a method of a type rather than to the type. -/
def isMethodExample (src : Source.TypeDecl) (name : String) : Bool :=
  src.methods.any fun m => (suffix? (src.name ++ "_" ++ m.name) name).isSome

/-- The examples of a type itself. -/
def typeExamples (src : Source.TypeDecl) (examples : List Source.Example) :
    List (String × Source.Example) :=
  (examplesOf src.name examples).filter fun (_, e) => !isMethodExample src e.name

def ofType (examples : List Source.Example) (scope : Scope) (src : Source.TypeDecl) :
    Except EmptySource TypeDecl := do
  let inner := scope.deeper 1
  return {
    level := scope.level
    name := src.name
    title := "type " ++ src.name
    anchor := src.name
    summary := summary src.doc
    doc := Doc.ofComment inner src.doc
    decl := ← layoutSource .declaration src.decl
    location := location scope src.location
    consts := ← src.consts.mapM (ofValue inner)
    vars := ← src.vars.mapM (ofValue inner)
    examples := ← ofExamples scope (typeExamples src examples)
    funcs := ← src.funcs.mapM (ofFunc examples inner)
    methods := ← src.methods.mapM (ofFunc examples inner) }

/-- The page of a package. Its doc comments are read with the names of the package in scope. -/
def ofPackage (outer : Scope) (src : Source.Package) : Except EmptySource Package := do
  let scope := outer.ofPackage src
  let inner := scope.deeper 1
  return {
    level := scope.level
    name := src.name
    dirname := dirName src.dir
    dir := src.dir
    importPath := src.importPath
    importDecl := "import \"" ++ src.importPath ++ "\""
    summary := summary src.doc
    doc := Doc.ofComment inner src.doc
    examples := ← ofExamples scope (examplesOf "" src.examples)
    consts := ← src.consts.mapM (ofValue inner)
    vars := ← src.vars.mapM (ofValue inner)
    funcs := ← src.funcs.mapM (ofFunc src.examples inner)
    types := ← src.types.mapM (ofType src.examples inner) }

/-- A file of several packages, each with its own scope. -/
def ofFile (header footer : String) (packages : List (Scope × Source.Package)) :
    Except EmptySource File := do
  return {
    header := onChars trimEnd header
    footer := onChars trimEnd footer
    packages := ← packages.mapM fun (scope, src) => ofPackage scope src }

end Page

end DocPages
