import DocPages.Data.Value
import DocPages.Source.Scope

/-!
# Package descriptions as data

Every field may be left out and then has its default, except inside of a location, where all are
required. Fields of other names are ignored, and a field that is given twice does not fit.
-/

namespace DocPages

open Data

namespace Source

namespace Position

def ofData? (positional : Bool) (d : Data) : Option Position := do
  let [line, col] ← d.fields? positional ["line", "col"] | none
  return { line := ← required nat? line, col := ← required nat? col }

def toData (p : Position) : Data :=
  .map [(.text "line", .int p.line), (.text "col", .int p.col)]

end Position

namespace Extent

def ofData? (positional : Bool) (d : Data) : Option Extent := do
  let [filepath, start, stop] ← d.fields? positional ["filepath", "start", "end"] | none
  return {
    filepath := ← required text? filepath
    start := ← required (Position.ofData? positional) start
    stop := ← required (Position.ofData? positional) stop }

def toData (e : Extent) : Data :=
  .map [(.text "filepath", .text e.filepath), (.text "start", e.start.toData),
    (.text "end", e.stop.toData)]

end Extent

/-- A list of texts as data. -/
def texts (ss : List String) : Data :=
  .list (ss.map .text)

namespace Value

def ofData? (positional : Bool) (d : Data) : Option Value := do
  let [names, doc, decl, location] ← d.fields? positional ["names", "doc", "decl", "location"] | none
  return {
    names := ← orDefault [] (list? text?) names
    doc := ← orDefault "" text? doc
    decl := ← orDefault "" text? decl
    location := ← orDefault {} (Extent.ofData? positional) location }

def toData (v : Value) : Data :=
  .map [(.text "names", texts v.names), (.text "doc", .text v.doc), (.text "decl", .text v.decl),
    (.text "location", v.location.toData)]

end Value

namespace Func

def ofData? (positional : Bool) (d : Data) : Option Func := do
  let [name, recv, doc, decl, location] ←
    d.fields? positional ["name", "recv", "doc", "decl", "location"] | none
  return {
    name := ← orDefault "" text? name
    recv := ← orDefault "" text? recv
    doc := ← orDefault "" text? doc
    decl := ← orDefault "" text? decl
    location := ← orDefault {} (Extent.ofData? positional) location }

def toData (f : Func) : Data :=
  .map [(.text "name", .text f.name), (.text "recv", .text f.recv), (.text "doc", .text f.doc),
    (.text "decl", .text f.decl), (.text "location", f.location.toData)]

end Func

namespace TypeDecl

def ofData? (positional : Bool) (d : Data) : Option TypeDecl := do
  let [name, doc, decl, location, fields, funcs, methods, consts, vars] ←
    d.fields? positional
      ["name", "doc", "decl", "location", "fields", "funcs", "methods", "consts", "vars"] | none
  return {
    name := ← orDefault "" text? name
    doc := ← orDefault "" text? doc
    decl := ← orDefault "" text? decl
    location := ← orDefault {} (Extent.ofData? positional) location
    fields := ← orDefault [] (list? text?) fields
    funcs := ← orDefault [] (list? (Func.ofData? positional)) funcs
    methods := ← orDefault [] (list? (Func.ofData? positional)) methods
    consts := ← orDefault [] (list? (Value.ofData? positional)) consts
    vars := ← orDefault [] (list? (Value.ofData? positional)) vars }

def toData (t : TypeDecl) : Data :=
  .map [(.text "name", .text t.name), (.text "doc", .text t.doc), (.text "decl", .text t.decl),
    (.text "location", t.location.toData), (.text "fields", texts t.fields),
    (.text "funcs", .list (t.funcs.map Func.toData)),
    (.text "methods", .list (t.methods.map Func.toData)),
    (.text "consts", .list (t.consts.map Value.toData)),
    (.text "vars", .list (t.vars.map Value.toData))]

end TypeDecl

namespace Example

def ofData? (positional : Bool) (d : Data) : Option Example := do
  let [name, doc, code, output] ← d.fields? positional ["name", "doc", "code", "output"] | none
  return {
    name := ← orDefault "" text? name
    doc := ← orDefault "" text? doc
    code := ← orDefault "" text? code
    output := ← orDefault none (optional? text?) output }

def toData (e : Example) : Data :=
  .map [(.text "name", .text e.name), (.text "doc", .text e.doc), (.text "code", .text e.code),
    (.text "output", match e.output with | some o => .text o | none => .null)]

end Example

namespace Package

/-- Import paths by package name. A name that is given twice has the last path. -/
def importsOfData? (d : Data) : Option (List (String × String)) := do
  let pairs ← (← d.entries?).mapM fun (k, v) => v.text?.map (k, ·)
  return SortedMap.ofEntries pairs

def ofData? (positional : Bool) (d : Data) : Option Package := do
  let [name, importPath, dir, doc, consts, vars, funcs, types, examples, imports] ←
    d.fields? positional
      ["name", "import_path", "dir", "doc", "consts", "vars", "funcs", "types", "examples",
        "imports"] | none
  return {
    name := ← orDefault "" text? name
    importPath := ← orDefault "" text? importPath
    dir := ← orDefault "" text? dir
    doc := ← orDefault "" text? doc
    consts := ← orDefault [] (list? (Value.ofData? positional)) consts
    vars := ← orDefault [] (list? (Value.ofData? positional)) vars
    funcs := ← orDefault [] (list? (Func.ofData? positional)) funcs
    types := ← orDefault [] (list? (TypeDecl.ofData? positional)) types
    examples := ← orDefault [] (list? (Example.ofData? positional)) examples
    imports := ← orDefault [] importsOfData? imports }

def toData (p : Package) : Data :=
  .map [(.text "name", .text p.name), (.text "import_path", .text p.importPath),
    (.text "dir", .text p.dir), (.text "doc", .text p.doc),
    (.text "consts", .list (p.consts.map Value.toData)),
    (.text "vars", .list (p.vars.map Value.toData)),
    (.text "funcs", .list (p.funcs.map Func.toData)),
    (.text "types", .list (p.types.map TypeDecl.toData)),
    (.text "examples", .list (p.examples.map Example.toData)),
    (.text "imports", .map (p.imports.map fun (k, v) => (.text k, .text v)))]

end Package

end Source

namespace Repo

def ofData? (positional : Bool) (d : Data) : Option Repo := do
  let [remote, branch, path] ←
    d.fields? positional ["remote", "default_branch", "path_from_root"] | none
  return {
    remote := ← required text? remote
    defaultBranch := ← required text? branch
    pathFromRoot := ← required text? path }

def toData (r : Repo) : Data :=
  .map [(.text "remote", .text r.remote), (.text "default_branch", .text r.defaultBranch),
    (.text "path_from_root", .text r.pathFromRoot)]

end Repo

namespace Location

/-- A location. Only the repository may be left out, and not of a list of fields. -/
def ofData? (positional : Bool) (d : Data) : Option Location := do
  guard !(d.isShortList 5)
  let [start, stop, filepath, workDir, repo] ←
    d.fields? positional ["start", "end", "filepath", "work_dir", "repo"] | none
  return {
    start := ← required (Source.Position.ofData? positional) start
    stop := ← required (Source.Position.ofData? positional) stop
    filepath := ← required text? filepath
    workDir := ← required text? workDir
    repo := ← orDefault none (optional? (Repo.ofData? positional)) repo }

end Location

end DocPages
