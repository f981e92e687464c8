import DocPages.Page.Value
import DocPages.Render.Functions
import DocPages.Render.Templates

/-!
# Renderers

A renderer is a dialect with a library of templates. Templates can be replaced by a text or by the contents
of a file, and functions can be added. A replacement of a template that does not exist is refused before any
file is read.
-/

namespace DocPages.Render

open Template

/-- How a renderer differs from the default one. -/
structure Options where
  dialect : Dialect := .github
  /-- Texts that replace templates, by name in order. -/
  overrides : List (String × String) := []
  /-- Paths of files that replace templates, by name in order. -/
  overrideFiles : List (String × String) := []
  /-- Further functions in order. Each hides earlier ones of its name, and the one of the dialect. -/
  functions : List (String × Function) := []

/-- Why a renderer cannot be built, or a page not rendered. -/
inductive RenderError where
  | invalidTemplateName (name : String)
  | templateFile (name path : String)
  | template (e : Error)
  | emptySource (e : EmptySource)
deriving DecidableEq

def RenderError.message : RenderError → String
  | invalidTemplateName name => "invalid template name \"" ++ name ++ "\""
  | templateFile name path => "unable to read template \"" ++ name ++ "\" from " ++ path
  | template _ => "unable to render a template"
  | emptySource e => e.message

structure Renderer where
  dialect : Dialect
  library : Library

/-- The contents of a file, if it can be read. -/
abbrev ReadFile := String → Option String

/-- Reads a template from its text. -/
def parseTemplate (source : String) : Except RenderError Body :=
  (Template.parse source).mapError .template

/-- The tree of a template: of its replacement text, of its replacement file, or the default. -/
def templateBody (o : Options) (read : ReadFile) (name : String) (default : Body) :
    Except RenderError Body :=
  match o.overrides.lookup name with
  | some source => parseTemplate source
  | none =>
    match o.overrideFiles.lookup name with
    | none => .ok default
    | some path =>
      match read path with
      | none => .error (.templateFile name path)
      | some source => parseTemplate source

/-- The first replaced template that does not exist. -/
def unknownOverride? (o : Options) : Option String :=
  (o.overrides.map (·.1) ++ o.overrideFiles.map (·.1)).find? (!isTemplateName ·)

/-- Builds a renderer, reading replacement files. -/
def build (o : Options) (read : ReadFile) : Except RenderError Renderer :=
  match unknownOverride? o with
  | some name => .error (.invalidTemplateName name)
  | none => do
    let templates ← defaultTemplates.mapM fun (name, default) => do
      return (name, ← templateBody o read name default)
    return { dialect := o.dialect, library := ⟨templates, o.functions.reverse ++ functions o.dialect⟩ }

namespace Renderer

/-- Renders a page that may have failed to build. -/
def renderPage {α : Type} (r : Renderer) (template : String) (toValue : α → Value)
    (page : Except EmptySource α) : Except RenderError String := do
  let page ← page.mapError .emptySource
  (r.library.render template (toValue page)).mapError .template

def renderExample (r : Renderer) (scope : Scope) (suffix : String) (src : Source.Example) :
    Except RenderError String :=
  r.renderPage "example" Page.Example.toValue (Page.ofExample scope suffix src)

def renderFunc (r : Renderer) (scope : Scope) (src : Source.Func) (examples : List Source.Example) :
    Except RenderError String :=
  r.renderPage "func" Page.Func.toValue (Page.ofFunc examples scope src)

def renderType (r : Renderer) (scope : Scope) (src : Source.TypeDecl)
    (examples : List Source.Example) : Except RenderError String :=
  r.renderPage "type" Page.TypeDecl.toValue (Page.ofType examples scope src)

def renderPackage (r : Renderer) (scope : Scope) (src : Source.Package) :
    Except RenderError String :=
  r.renderPage "package" Page.Package.toValue (Page.ofPackage scope src)

def renderFile (r : Renderer) (header footer : String) (packages : List (Scope × Source.Package)) :
    Except RenderError String :=
  r.renderPage "file" Page.File.toValue (Page.ofFile header footer packages)

end Renderer

end DocPages.Render
