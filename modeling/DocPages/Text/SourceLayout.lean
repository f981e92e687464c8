import DocPages.Text.Lines

/-!
# Layout of declaration source

Source code is shown with tabs widened to stops of four columns, without white space at the ends of
lines and without empty lines around it.
-/

namespace DocPages.Text

/-- Columns between tab stops. -/
def tabWidth : Nat := 4

/-- Widens the tabs of a line that starts at column `col`. -/
def expandTabs (col : Nat) : List Char → List Char
  | [] => []
  | c :: cs =>
    if c = '\t' then
      let pad := tabWidth - col % tabWidth
      List.replicate pad ' ' ++ expandTabs (col + pad) cs
    else c :: expandTabs (col + 1) cs

/-- The lines of a source text as they are shown, from the first non-empty one to the last. -/
def layoutLines (source : List Char) : List (List Char) :=
  let shown := (lines (unixNewlines source)).map fun l => trimEnd (expandTabs 0 l)
  takeToLast (!·.isEmpty) (shown.dropWhile (·.isEmpty))

/-- The laid out source, or nothing if the source is white space only. -/
def layoutSource? (source : String) : Option String :=
  match layoutLines source.toList with
  | [] => none
  | ls => some (String.ofList (joinLines ls))

end DocPages.Text
