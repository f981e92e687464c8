import DocPages.Comment.ListRun
import DocPages.Text.Casing

/-!
# Chunks of lines

The lines of a comment fall into chunks. At each place the first rule that fits decides:

1. blank lines separate chunks and belong to none;
2. a heading is a line `# Text` between blank lines, or a line between blank lines that starts with a
   capital, holds no sentence punctuation and is not the end of the text;
3. a run of indented lines, with blank lines between them, is a list or code;
4. a paragraph reaches to the next blank line or the next indented list.
-/

namespace DocPages.Comment

open Text

/-- Characters that do not occur in a heading without a mark. -/
def nonHeaderChars : List Char :=
  ['!', ':', ';', ',', '\x7b', '\x7d', '[', ']', '<', '>', '.', '?']

/-- Whether the next line is blank or there is none. -/
def endsBlank (rest : List Line) : Bool :=
  (rest.head?.map isBlankLine).getD true

/-- The text of a heading at the line `l`, given that a blank line or nothing stands before it. -/
def headerText? (l : Line) (rest : List Line) : Option (List Char) :=
  match dropFront? ['#', ' '] l with
  | some text => if endsBlank rest && !isBlankLine text then some (trim text) else none
  | none =>
    if !(l.head?.map isUppercase).getD false || l.any nonHeaderChars.contains then none
    else if (rest.head?.map isBlankLine).getD false && (rest.drop 1).any (!isBlankLine ·) then
      some (trim l)
    else none

/-- The further lines of an indented run: up to the last indented line before the first line that is
neither blank nor indented. -/
def runTail (ls : List Line) : List Line :=
  takeToLast (!isBlankLine ·) (ls.takeWhile fun l => isBlankLine l || isIndented l)

/-- The further lines of a paragraph. -/
def paragraphTail (ls : List Line) : List Line :=
  ls.takeWhile fun l => !isBlankLine l && !isItemLine l

/-- A group of lines of one kind. -/
inductive Chunk where
  | header (text : List Char)
  | list (run : List Line)
  | code (run : List Line)
  | paragraph (lines : List Line)
deriving DecidableEq

/-- The chunk that starts at a line that is not blank, and the number of further lines it takes. -/
def chunkAt (afterBlank : Bool) (l : Line) (rest : List Line) : Chunk × Nat :=
  match if afterBlank then headerText? l rest else none with
  | some text => (.header text, 0)
  | none =>
    if isIndented l then
      let more := runTail rest
      (if (marker? (trimStart l)).isSome then .list (l :: more) else .code (l :: more), more.length)
    else
      let more := paragraphTail rest
      (.paragraph (l :: more), more.length)

/-- The chunks of the lines after the first `skip` ones, where `afterBlank` says whether a blank line
or nothing precedes. -/
def chunksFrom : Bool → Nat → List Line → List Chunk
  | _, _, [] => []
  | _, skip + 1, l :: ls => chunksFrom (isBlankLine l) skip ls
  | afterBlank, 0, l :: ls =>
    if isBlankLine l then chunksFrom true 0 ls
    else
      let (chunk, more) := chunkAt afterBlank l ls
      chunk :: chunksFrom false more ls

/-- The chunks of a text. -/
def chunks (ls : List Line) : List Chunk :=
  chunksFrom true 0 ls

/-- The text of a paragraph on one line. -/
def foldLines (ls : List Line) : List Char :=
  collapseBlanks (joinWords (ls.map trim))

end DocPages.Comment
