/-!
# Positions in a YAML text

The characters that a YAML text is made of, and a cursor that counts lines and columns while it moves
over them. Columns decide what belongs to what, so every step keeps them.
-/

namespace DocPages.Yaml

/-- The characters that end a line. -/
def isBreak (c : Char) : Bool :=
  c == '\n' || c == '\r' || c == '\u0085' || c == '\u2028' || c == '\u2029'

def isBlank (c : Char) : Bool :=
  c == ' ' || c == '\t'

def isGap (c : Char) : Bool :=
  isBlank c || isBreak c

/-- The characters of anchors, handles and names of directives. -/
def isNameChar (c : Char) : Bool :=
  c.isAlphanum || c == '_' || c == '-'

/-- The characters that may stand in a text at all. -/
def isAllowed (c : Char) : Bool :=
  c == '\t' || c == '\n' || c == '\r' || c == '\u0085' || (' ' ≤ c && c ≤ '~')
    || (0xA0 ≤ c.toNat && c.toNat ≤ 0xFFFD) || 0x10000 ≤ c.toNat

/-- A word ends before a gap and at the end of the text. -/
def endsWord : List Char → Bool
  | [] => true
  | c :: _ => isGap c

structure Cursor where
  rest : List Char
  index : Nat := 0
  line : Nat := 0
  column : Nat := 0

namespace Cursor

def next? (c : Cursor) : Option Char :=
  c.rest.head?

/-- Moves over characters of the same line. -/
def skip (c : Cursor) (n : Nat) : Cursor :=
  { c with rest := c.rest.drop n, index := c.index + n, column := c.column + n }

/-- Moves to a later place of the same line. -/
def skipTo (c : Cursor) (rest : List Char) : Cursor :=
  c.skip (c.rest.length - rest.length)

def takeWhile (p : Char → Bool) (c : Cursor) : List Char × Cursor :=
  let cs := c.rest.takeWhile p
  (cs, c.skip cs.length)

def skipWhile (p : Char → Bool) (c : Cursor) : Cursor :=
  (c.takeWhile p).2

/-- Takes the end of a line. The separators of lines and of paragraphs are kept as they are, and every
other end of a line reads as a newline. -/
def takeBreak? (c : Cursor) : Option (List Char × Cursor) :=
  let after (n : Nat) (rest : List Char) : Cursor :=
    { rest := rest, index := c.index + n, line := c.line + 1, column := 0 }
  match c.rest with
  | '\r' :: '\n' :: cs => some (['\n'], after 2 cs)
  | b :: cs =>
    if isBreak b then
      some (if b == '\u2028' || b == '\u2029' then [b] else ['\n'], after 1 cs)
    else none
  | [] => none

def isAtGap (c : Cursor) : Bool :=
  c.next?.any isGap

/-- A line that starts with `mark` as a word. -/
def isAtMarker (mark : String) (c : Cursor) : Bool :=
  c.column == 0 && mark.toList.isPrefixOf c.rest && endsWord (c.rest.drop mark.length)

/-- The start or the end of a document. -/
def isAtDocumentMarker (c : Cursor) : Bool :=
  c.isAtMarker "---" || c.isAtMarker "..."

/-- A number of steps that suffices for a loop each of whose rounds takes a character. -/
def fuel (c : Cursor) : Nat :=
  c.rest.length + 2

end Cursor

end DocPages.Yaml
