import DocPages.Cli.Arguments
import DocPages.Cli.FileSystem
import DocPages.Data.Json
import DocPages.Data.Yaml.Document
import DocPages.Render.Renderer
import DocPages.Settings.Basic
import DocPages.Source.Fields
import DocPages.Text.Path

/-!
# Runs

A run reads settings and package descriptions, renders them as one text, and prints or saves it. All that
can fail comes before anything is printed or saved, so a run that fails leaves no trace. The stages follow
one another in a fixed order, and the first that fails is reported. What runs is the same on every system
that files can be read from and written to (`execute`).
-/

namespace DocPages.Cli

open Render (ReadFile)

/-- Why a run fails. -/
inductive RunError where
  | assignment (option : OptionName) (value : String)
  /-- The settings cannot be loaded. -/
  | settings
  | dialect (e : DialectError)
  | render (e : Render.RenderError)
  | unreadable (path : String)
  | malformed (path : String)
  | margin (e : Settings.UnreadableMargin)
  | unwritable (path : String)
deriving DecidableEq

def RunError.message : RunError → String
  | assignment option value =>
    "invalid --" ++ option.long ++ " value '" ++ value ++ "', expected NAME=VALUE"
  | settings => "unable to load the settings"
  | dialect e => e.message
  | render e => e.message
  | unreadable path => "unable to read " ++ path
  | malformed path => "unable to parse " ++ path
  | margin e => e.message
  | unwritable path => "unable to write " ++ path

/-! ## Settings -/

/-- Options that override a single setting, and its key. -/
def settingOptions : List (OptionName × String) :=
  [(.format, "format"), (.header, "header"), (.headerFile, "header_file"), (.footer, "footer"),
   (.footerFile, "footer_file"), (.repositoryUrl, "repository.url"),
   (.repositoryBranch, "repository.default_branch"), (.repositoryPath, "repository.path")]

/-- The overrides of single settings. -/
def optionLayers (a : Arguments) : List Settings.Layer :=
  settingOptions.filterMap fun (option, key) => (a.get? option).map fun v => .override key (.scalar v)

/-- Options that replace a template by name, and the table of settings for them. -/
def tableOptions : List (OptionName × String) :=
  [(.template, "template"), (.templateFile, "template_file")]

/-- The override that `NAME=VALUE` stands for. The name must not be empty and must be the end of a
key. -/
def assignmentLayer (option : OptionName) (table value : String) : Except RunError Settings.Layer :=
  match Text.splitOnce '=' value.toList with
  | none | some ([], _) => .error (.assignment option value)
  | some (name, text) =>
    let key := table ++ "." ++ String.ofList name
    if (Setting.pathOfKey? key).isSome then .ok (.override key (.scalar (String.ofList text)))
    else .error .settings

/-- The overrides of templates. -/
def assignmentLayers (a : Arguments) : Except RunError (List Settings.Layer) := do
  let layers ← tableOptions.mapM fun (option, table) =>
    (a.getAll option).mapM (assignmentLayer option table)
  return layers.flatten

/-- The file that settings are read from if none is named. -/
def localSettingsFile : String := ".docmark.toml"

/-- The paths where the settings may stand: the path itself, and the path with an ending. -/
def settingsPaths (a : Arguments) : List String :=
  let path := (a.get? .config).getD localSettingsFile
  [path, Text.onChars (Text.dropEndWhile (· == '/')) path ++ ".toml"]

/-- The settings file, which is required if it is named. -/
def settingsFile (read : ReadFile) (a : Arguments) : Settings.Layer :=
  .file (a.get? .config).isSome ((settingsPaths a).findSome? read)

/-- The settings of a run: of its file, and on top of it those of its options. -/
def loadSettings (read : ReadFile) (a : Arguments) (order : Settings.Arrangement) :
    Except RunError Settings := do
  let assignments ← assignmentLayers a
  match Settings.load? (settingsFile read a :: optionLayers a ++ assignments) order with
  | some s => .ok s
  | none => .error .settings

/-! ## Packages -/

/-- The ending of the last name of a path, which is not empty before it. -/
def extension? (path : String) : Option String :=
  match (Text.components path.toList).getLast? with
  | some (.normal name) =>
    match Text.splitLast '.' name with
    | some (stem, ending) => if stem.isEmpty then none else some (String.ofList ending)
    | none => none
  | _ => none

/-- Reads a package description, in the format that the ending of its path says. -/
def parsePackage? (path text : String) : Option Source.Package :=
  if extension? path == some "yaml" || extension? path == some "yml" then
    (Yaml.parse? text).bind (Source.Package.ofData? false)
  else (Json.parse? text).bind (Source.Package.ofData? true)

/-- The scope of a package. -/
def packageScope (s : Settings) (workDir : String) (pkg : Source.Package) : Scope :=
  { pkgDir := pkg.dir, workDir := workDir, docHost := s.docHost, repo := s.repo }

def loadPackage (read : ReadFile) (s : Settings) (workDir path : String) :
    Except RunError (Scope × Source.Package) :=
  match read path with
  | none => .error (.unreadable path)
  | some text =>
    match parsePackage? path text with
    | none => .error (.malformed path)
    | some pkg => .ok (packageScope s workDir pkg, pkg)

/-! ## Rendering -/

def buildRenderer (read : ReadFile) (s : Settings) : Except RunError Render.Renderer := do
  let dialect ← (Registry.standard.get s.format).mapError .dialect
  let options : Render.Options :=
    { dialect := dialect, overrides := s.template, overrideFiles := s.templateFile }
  (Render.build options read).mapError .render

/-- The text that a run produces. -/
def renderAll (read : ReadFile) (s : Settings) (workDir : String) (inputs : List String) :
    Except RunError String := do
  let renderer ← buildRenderer read s
  let packages ← inputs.mapM (loadPackage read s workDir)
  let header ← (s.marginText read .header).mapError .margin
  let footer ← (s.marginText read .footer).mapError .margin
  (renderer.renderFile header footer packages).mapError .render

/-- The paths that a run may read once it has its settings. -/
def contentPaths (s : Settings) (a : Arguments) : List String :=
  s.templateFile.map (·.2) ++ a.inputs ++ [s.headerFile, s.footerFile]

/-! ## Effects -/

/-- What a run needs of the system that it runs on. -/
structure System (m : Type → Type) where
  /-- The contents of a file, if it can be read. -/
  read? (path : String) : m (Option String)
  print (text : String) : m Unit
  /-- Writes a file, and says whether that could be done. -/
  write? (path contents : String) : m Bool

section

variable {m : Type → Type} [Monad m]

/-- The files at some paths that can be read. -/
def System.readAll (sys : System m) : List String → m (List (String × String))
  | [] => return []
  | path :: paths => do
    let contents ← sys.read? path
    let others ← sys.readAll paths
    return (contents.map (path, ·)).toList ++ others

/-- Runs on a system, in a working directory. Files are read before anything else is done. -/
def execute (sys : System m) (workDir : String) (a : Arguments) (order : Settings.Arrangement) :
    m (Option RunError) := do
  let known ← sys.readAll (settingsPaths a)
  match loadSettings (fun path => known.lookup path) a order with
  | .error e => return some e
  | .ok s =>
    let files ← sys.readAll (contentPaths s a)
    match renderAll (fun path => files.lookup path) s workDir a.inputs with
    | .error e => return some e
    | .ok text =>
      match a.get? .output with
      | none =>
        sys.print text
        return none
      | some path => return if ← sys.write? path text then none else some (.unwritable path)

end

/-! ## Runs in memory -/

/-- What a run leaves behind. -/
structure Report where
  error : Option RunError
  stdout : String
  files : FileSystem

/-- A file system in memory, and what has been printed. -/
structure World where
  files : FileSystem
  stdout : String := ""

/-- The system of a world, seen from a working directory. -/
def memory (workDir : Place) : System (StateM World) where
  read? path := return (← get).files.read? workDir path
  print text := modify fun w => { w with stdout := w.stdout ++ text }
  write? path contents := do
    match (← get).files.write? workDir path contents with
    | some files =>
      modify fun w => { w with files }
      return true
    | none => return false

/-- A place as an absolute path. -/
def Place.path (p : Place) : String :=
  "/" ++ "/".intercalate p

/-- Runs in a working directory of a file system. -/
def run (fs : FileSystem) (workDir : Place) (a : Arguments)
    (order : Settings.Arrangement := .written) : Report :=
  let (error, w) := (execute (memory workDir) workDir.path a order).run { files := fs }
  ⟨error, w.stdout, w.files⟩

end DocPages.Cli
