import DocPages.Comment.Span

/-!
# Blocks

A doc comment is a list of blocks: paragraphs, headings, code and lists, where a list item holds blocks
again. The type of what a paragraph or heading holds is a parameter: bare text while the layout of the
lines is read, spans once links are resolved.
-/

namespace DocPages

mutual

/-- A paragraph, heading, code block or list. The level is that of a heading at this place. -/
inductive Block (α : Type) where
  | paragraph (level : Nat) (content : α)
  | header (level : Nat) (content : α)
  | code (level : Nat) (text : String)
  | list (level : Nat) (blankBetween : Bool) (items : List (Item α))

/-- An entry of a list; ordered ones carry their number. -/
inductive Item (α : Type) where
  | mk (number : Option Nat) (blocks : List (Block α))

end

namespace Item

variable {α : Type}

def number : Item α → Option Nat
  | mk n _ => n

def blocks : Item α → List (Block α)
  | mk _ bs => bs

end Item

namespace Block

variable {α β : Type}

def level : Block α → Nat
  | paragraph l _ | header l _ | code l _ | list l _ _ => l

/-- The word for the kind of a block that templates compare with. -/
def kindName : Block α → String
  | paragraph _ _ => "paragraph"
  | header _ _ => "header"
  | code _ _ => "code"
  | list _ _ _ => "list"

mutual

/-- Replaces what paragraphs and headings hold, at any depth. -/
def map (f : α → β) : Block α → Block β
  | paragraph l a => paragraph l (f a)
  | header l a => header l (f a)
  | code l t => code l t
  | list l b items => list l b (mapItems f items)

/-- Replaces what the paragraphs and headings of items hold. -/
def mapItems (f : α → β) : List (Item α) → List (Item β)
  | [] => []
  | .mk n blocks :: rest => .mk n (mapAll f blocks) :: mapItems f rest

/-- Replaces what the paragraphs and headings of blocks hold. -/
def mapAll (f : α → β) : List (Block α) → List (Block β)
  | [] => []
  | b :: rest => map f b :: mapAll f rest

end

mutual

/-- What the paragraphs and headings of a block hold, in reading order. -/
def contents : Block α → List α
  | paragraph _ a => [a]
  | header _ a => [a]
  | code _ _ => []
  | list _ _ items => itemContents items

/-- What the paragraphs and headings of items hold, in reading order. -/
def itemContents : List (Item α) → List α
  | [] => []
  | .mk _ blocks :: rest => allContents blocks ++ itemContents rest

/-- What the paragraphs and headings of blocks hold, in reading order. -/
def allContents : List (Block α) → List α
  | [] => []
  | b :: rest => contents b ++ allContents rest

end

/-- The text of a block that is not a list. -/
def display : Block (List Span) → String
  | paragraph _ spans | header _ spans => String.join (spans.map Span.display)
  | code _ t => t
  | list _ _ _ => ""

/-- The spans of a block that is not a list. Code is one span. -/
def spans : Block (List Span) → List Span
  | paragraph _ spans | header _ spans => spans
  | code _ t => [.raw t]
  | list _ _ _ => []

end Block

/-- A parsed doc comment. -/
structure Doc where
  level : Nat
  blocks : List (Block (List Span))

end DocPages
