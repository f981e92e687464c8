import DocPages.Settings.Key
import DocPages.Source.Scope
import DocPages.Toml.Document

/-!
# Settings

What can be configured: the dialect, texts around the packages, templates, and the repository. Settings are
read from layers. Files count in their order on top of the defaults, and single settings that are
overridden count after all files. Within a file, and among the overrides, no order is fixed.
-/

namespace DocPages

/-- The repository that source links point into, if its address is not empty. -/
structure RepositorySettings where
  url : String := ""
  defaultBranch : String := "main"
  path : String := "/"
deriving DecidableEq

structure Settings where
  /-- The name of the dialect. -/
  format : String := "github"
  header : String := ""
  headerFile : String := ""
  footer : String := ""
  footerFile : String := ""
  docHost : String := defaultDocHost
  /-- Texts that replace templates, by name. -/
  template : List (String × String) := []
  /-- Files that replace templates, by name. -/
  templateFile : List (String × String) := []
  repository : RepositorySettings := {}
deriving DecidableEq

namespace Setting

def text? : Setting → Option String
  | scalar s => some s
  | _ => none

/-- A table of texts. -/
def texts? : Setting → Option (List (String × String))
  | table es => es.mapM fun (name, s) => s.text?.map (name, ·)
  | _ => none

end Setting

open Setting

/-- Reads the settings of a repository, which may also be listed in order. -/
def RepositorySettings.ofSetting? : Setting → Option RepositorySettings
  | table es => do
    return {
      url := ← ((table es).get "url").text?
      defaultBranch := ← ((table es).get "default_branch").text?
      path := ← ((table es).get "path").text? }
  | list (url :: branch :: path :: _) => do
    return { url := ← url.text?, defaultBranch := ← branch.text?, path := ← path.text? }
  | _ => none

namespace Settings

/-- Reads settings from their tree. Other entries of the tree are ignored. -/
def ofSetting? (s : Setting) : Option Settings := do
  return {
    format := ← (s.get "format").text?
    header := ← (s.get "header").text?
    headerFile := ← (s.get "header_file").text?
    footer := ← (s.get "footer").text?
    footerFile := ← (s.get "footer_file").text?
    docHost := ← (s.get "doc_host").text?
    template := ← (s.get "template").texts?
    templateFile := ← (s.get "template_file").texts?
    repository := ← RepositorySettings.ofSetting? (s.get "repository") }

/-- The assignments that every configuration starts from. -/
def defaults : List Assignment :=
  let text (path : List String) (s : String) : Assignment := .to (path.map .entry) (.scalar s)
  [text ["format"] "github",
   text ["header"] "", text ["header_file"] "",
   text ["footer"] "", text ["footer_file"] "",
   text ["doc_host"] defaultDocHost,
   .to [.entry "template"] (.table []),
   .to [.entry "template_file"] (.table []),
   text ["repository", "url"] "",
   text ["repository", "default_branch"] "main",
   text ["repository", "path"] "/"]

/-! ## Layers -/

/-- A source of settings. -/
inductive Layer where
  /-- A file with its contents, if it is there. -/
  | file (required : Bool) (contents : Option String)
  /-- A single setting by its key. -/
  | override (key : String) (value : Setting)

/-- The assignments of a file. Names at the top of the file are keys if they can be. -/
def fileAssignments? (contents : String) : Option (List Assignment) := do
  let top ← Toml.parse? (Toml.dropMark contents.toList)
  return top.flatMap fun (name, s) => assignmentsAt ((pathOfKey? name).getD [.entry name]) s

namespace Layer

def isOverride : Layer → Bool
  | file _ _ => false
  | override _ _ => true

/-- The path that a layer overrides. -/
def path? : Layer → Option Path
  | file _ _ => none
  | override key _ => pathOfKey? key

/-- What a layer assigns. A required file must be there, and the key of an override must be one. -/
def assignments? : Layer → Option (List Assignment)
  | file _ (some contents) => fileAssignments? contents
  | file required none => if required then none else some []
  | override key value => (pathOfKey? key).map fun path => assignmentsAt path value

end Layer

/-- The files among some layers. -/
def files (layers : List Layer) : List Layer :=
  layers.filter (!·.isOverride)

/-- The last layer for each path. -/
def lastByPath : List Layer → List Layer
  | [] => []
  | l :: layers =>
    if layers.any (·.path? == l.path?) then lastByPath layers else l :: lastByPath layers

/-- The overrides among some layers. A later one replaces an earlier one of the same path. -/
def overrides (layers : List Layer) : List Layer :=
  lastByPath (layers.filter (·.isOverride))

/-- The order in which assignments are made that belong together: those of one file, or all overrides. They
are kept in hash tables, so any order is possible. -/
structure Arrangement where
  arrange : List Assignment → List Assignment
  perm : ∀ as, (arrange as).Perm as

/-- The order in which assignments are written. -/
def Arrangement.written : Arrangement :=
  ⟨id, fun _ => .refl _⟩

/-- The settings of some layers, unless a layer cannot be read or a setting is of the wrong kind. -/
def load? (layers : List Layer) (order : Arrangement := .written) : Option Settings := do
  let files ← (files layers).mapM Layer.assignments?
  let overrides ← (overrides layers).mapM Layer.assignments?
  ofSetting? (ofAssignments
    ((defaults :: files ++ [overrides.flatten]).flatMap order.arrange))

/-! ## Use -/

/-- The repository to link into. -/
def repo (s : Settings) : Option Repo :=
  if s.repository.url.isEmpty then none
  else
    some {
      remote := Text.onChars (Text.dropEndWhile (· == '/')) s.repository.url
      defaultBranch := s.repository.defaultBranch
      pathFromRoot := s.repository.path }

/-- One of the texts around the packages. -/
inductive Margin where
  | header
  | footer
deriving DecidableEq

def Margin.name : Margin → String
  | header => "header"
  | footer => "footer"

/-- A file with a text around the packages cannot be read. -/
structure UnreadableMargin where
  margin : Margin
  path : String
deriving DecidableEq

def UnreadableMargin.message (e : UnreadableMargin) : String :=
  "unable to read " ++ e.margin.name ++ " from " ++ e.path

/-- The text of a margin. A text that is given hides the file. -/
def marginText (s : Settings) (read : String → Option String) (m : Margin) :
    Except UnreadableMargin String :=
  let (text, path) := match m with
    | .header => (s.header, s.headerFile)
    | .footer => (s.footer, s.footerFile)
  if !text.isEmpty || path.isEmpty then .ok text
  else
    match read path with
    | some contents => .ok contents
    | none => .error ⟨m, path⟩

end Settings

end DocPages
