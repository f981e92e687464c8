import DocPages.Cli.Run

/-!
# The program

Runs on the files and the output of the process.
-/

namespace DocPages.Main

open Cli

/-- The system of the process. -/
def process : System IO where
  read? path := do
    try
      return some (← IO.FS.readFile path)
    catch _ =>
      return none
  print text := IO.print text
  write? path contents := do
    try
      IO.FS.writeFile path contents
      return true
    catch _ =>
      return false

def render (a : Arguments) : IO UInt32 := do
  match ← execute process (toString (← IO.currentDir)) a .written with
  | some e =>
    IO.eprintln ("Error: " ++ e.message)
    return 1
  | none =>
    if let some path := a.get? .output then
      if a.verbosity != 0 then
        IO.eprintln ("wrote documentation to " ++ path)
    return 0

end DocPages.Main

def main (args : List String) : IO UInt32 := do
  match DocPages.Cli.parse? args with
  | none =>
    IO.eprint DocPages.Cli.helpText
    return 2
  | some .help =>
    IO.print DocPages.Cli.helpText
    return 0
  | some .version =>
    IO.print DocPages.Cli.versionText
    return 0
  | some (.render a) => DocPages.Main.render a
