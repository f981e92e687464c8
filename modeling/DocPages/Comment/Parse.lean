import DocPages.Comment.Block
import DocPages.Comment.Chunk
import DocPages.Comment.Definition

/-!
# Parsing a doc comment

Lines are cut into chunks, list chunks into items, and the lines of items are parsed again. The nesting
is bounded by the number of characters, because every item loses its marker. Paragraphs and headings are
then resolved into spans.
-/

namespace DocPages.Comment

open Text

/-- Number of characters in some lines. -/
def size : List Line → Nat
  | [] => 0
  | l :: ls => l.length + size ls

/-- The list of a run of lines, where `sub` parses the lines of an item. Items without blocks are
dropped, and a list without items is no block. -/
def listBlock (level : Nat) (sub : List Line → List (Block (List Char))) (run : List Line) :
    List (Block (List Char)) :=
  let raw := rawList run
  let items := (raw.items.map fun i => Item.mk i.number (sub i.lines)).filter
    fun i => !i.blocks.isEmpty
  if items.isEmpty then []
  else [.list level (raw.blankBetween || items.any fun i => i.blocks.length != 1) items]

/-- The block of a chunk, if it has one. -/
def chunkBlocks (level : Nat) (sub : List Line → List (Block (List Char))) :
    Chunk → List (Block (List Char))
  | .header text => [.header level (collapseBlanks text)]
  | .code run => [.code level (codeText run)]
  | .paragraph ls => [.paragraph level (foldLines ls)]
  | .list run => listBlock level sub run

/-- The blocks of lines in which lists are nested at most `depth` deep. -/
def blocksWithin (level : Nat) : Nat → List Line → List (Block (List Char))
  | 0, ls => (chunks ls).flatMap (chunkBlocks level fun _ => [])
  | depth + 1, ls => (chunks ls).flatMap (chunkBlocks level (blocksWithin level depth))

/-- The blocks of some lines. -/
def blocks (level : Nat) (ls : List Line) : List (Block (List Char)) :=
  blocksWithin level (size ls) ls

/-- The lines of a comment that are text, and its link definitions. -/
def body (text : String) : List Line × Inline.Definitions :=
  extractDefinitions (lines (unixNewlines text.toList))

/-- The blocks of some lines with links resolved. -/
def parseLines (scope : Scope) (defs : Inline.Definitions) (ls : List Line) :
    List (Block (List Span)) :=
  Block.mapAll (Inline.spans scope defs) (blocks scope.level ls)

/-- The blocks of a comment. -/
def parse (scope : Scope) (text : String) : List (Block (List Span)) :=
  parseLines scope (body text).2 (body text).1

/-- The labels of a comment that look like references and name nothing, in reading order. -/
def warnings (scope : Scope) (text : String) : List String :=
  (Block.allContents (blocks scope.level (body text).1)).flatMap
    (Inline.warnings scope (body text).2)

end DocPages.Comment

/-- A doc comment read in a scope. -/
def DocPages.Doc.ofComment (scope : DocPages.Scope) (text : String) : DocPages.Doc :=
  ⟨scope.level, DocPages.Comment.parse scope text⟩
