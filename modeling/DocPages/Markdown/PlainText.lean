import DocPages.Markdown.Block
import DocPages.Markdown.Inline

/-!
# Plain text of Markdown

The text that a reader sees once a Markdown text is rendered, on one line: line breaks become spaces, and
so do the borders between blocks.
-/

namespace DocPages.Markdown

open Text

/-- What happens while a text is read aloud. -/
inductive Event where
  | text (cs : List Char)
  | space
  | blockEnd

def Piece.event : Piece → Event
  | .text cs => .text cs
  | .space => .space

mutual

/-- The events of a block. A paragraph of a tight list does not end a block. -/
def events (labels : List (List Char)) (tight : Bool) : Node → List Event
  | .paragraph cs =>
    (inlinePieces labels cs).map Piece.event ++ (if tight then [] else [.blockEnd])
  | .heading cs => (inlinePieces labels cs).map Piece.event ++ [.blockEnd]
  | .code cs => (if cs.isEmpty then [] else [.text cs]) ++ [.blockEnd]
  | .silent => []
  | .quote children => eventsAll labels false children
  | .list tight items => eventsItems labels tight items

def eventsAll (labels : List (List Char)) (tight : Bool) : List Node → List Event
  | [] => []
  | n :: ns => events labels tight n ++ eventsAll labels tight ns

def eventsItems (labels : List (List Char)) (tight : Bool) : List (List Node) → List Event
  | [] => []
  | item :: items => eventsAll labels tight item ++ eventsItems labels tight items

end

/-- Writes down events, where `started` says whether some text was written and `ended` whether a block
has ended since. -/
def write (started ended : Bool) : List Event → List Char
  | [] => []
  | .text cs :: es =>
    (if ended && started then [' '] else []) ++ cs ++ write (started || !cs.isEmpty) false es
  | .space :: es => ' ' :: write true ended es
  | .blockEnd :: es => write started true es

/-- The plain text of a Markdown text. -/
def plainText (cs : List Char) : List Char :=
  let (nodes, labels) := blocks cs
  write false false (eventsAll labels false nodes)

end DocPages.Markdown
