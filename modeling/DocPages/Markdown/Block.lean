import DocPages.Markdown.Html
import DocPages.Markdown.Link

/-!
# Markdown blocks

The block structure of a Markdown text: paragraphs, headings, code, quotations and lists. Lines are taken
one by one. The containers that are still open form a stack of frames; a line first continues some of them,
may then open new ones, and what is left of it belongs to the innermost one.
-/

namespace DocPages.Markdown

open Text

/-- A block. Only what a reader can see of it is kept. -/
inductive Node where
  | paragraph (text : List Char)
  | heading (text : List Char)
  | code (text : List Char)
  /-- A rule or a piece of HTML. -/
  | silent
  | quote (children : List Node)
  /-- A list. The paragraphs of a tight one are not set apart. -/
  | list (tight : Bool) (items : List (List Node))

/-! ## Columns -/

/-- A place in a line. A tab reaches to the next multiple of four columns; `pending` columns of the last
tab are still ahead. -/
structure Cursor where
  rest : List Char
  col : Nat := 0
  pending : Nat := 0

namespace Cursor

/-- Passes one column of white space. -/
def space? (c : Cursor) : Option Cursor :=
  match c.pending, c.rest with
  | n + 1, rest => some ⟨rest, c.col + 1, n⟩
  | 0, ' ' :: rest => some ⟨rest, c.col + 1, 0⟩
  | 0, '\t' :: rest => some ⟨rest, c.col + 1, 3 - c.col % 4⟩
  | _, _ => none

/-- Passes at most `n` columns of white space and counts them. -/
def skip : Nat → Cursor → Nat × Cursor
  | 0, c => (0, c)
  | n + 1, c =>
    match c.space? with
    | none => (0, c)
    | some next =>
      let (k, last) := skip n next
      (k + 1, last)

/-- Columns of white space ahead. -/
def indent (c : Cursor) : Nat :=
  (c.skip (4 * c.rest.length + c.pending)).1

/-- The place behind the white space ahead. -/
def skipAll (c : Cursor) : Cursor :=
  (c.skip (4 * c.rest.length + c.pending)).2

/-- What is left of the line, with the columns of a broken tab as spaces. -/
def text (c : Cursor) : List Char :=
  List.replicate c.pending ' ' ++ c.rest

/-- Passes `n` characters that are no tabs. -/
def advance (n : Nat) (c : Cursor) : Cursor :=
  ⟨c.rest.drop n, c.col + n, 0⟩

def isBlank (c : Cursor) : Bool :=
  c.rest.all fun ch => ch == ' ' || ch == '\t' || ch == '\x0b' || ch == '\x0c' || ch == '\r'

end Cursor

/-! ## Starts of blocks -/

/-- A rule: three or more of one of the characters `*`, `-` and `_`, possibly spaced out. -/
def isRule (cs : List Char) : Bool :=
  match cs.filter (!isLineSpace ·) with
  | [] => false
  | c :: marks =>
    (c == '*' || c == '-' || c == '_') && Nat.ble 2 marks.length && marks.all (· == c)

/-- The line below a paragraph that makes it a heading. -/
def isUnderline (cs : List Char) : Bool :=
  match dropEndWhile isLineSpace cs with
  | [] => false
  | c :: marks => (c == '=' || c == '-') && marks.all (· == c)

/-- The text of a heading that starts with number signs. -/
def heading? (cs : List Char) : Option (List Char) :=
  let marks := cs.takeWhile (· == '#')
  let rest := cs.drop marks.length
  if marks.isEmpty || Nat.blt 6 marks.length
      || !(rest.isEmpty || (rest.head?.map isLineSpace).getD false) then none
  else
    let body := dropEndWhile isLineSpace (rest.dropWhile isLineSpace)
    let opening := dropEndWhile (· == '#') body
    if opening.isEmpty then some []
    else if opening.length < body.length && (opening.getLast?.map isLineSpace).getD false then
      some (dropEndWhile isLineSpace opening)
    else some body

/-- The fence of a code block. -/
structure Fence where
  mark : Char
  length : Nat
  indent : Nat

/-- The fence that opens a code block. -/
def fence? (indent : Nat) (cs : List Char) : Option Fence :=
  match cs with
  | [] => none
  | c :: _ =>
    if c != '\x60' && c != '~' then none
    else
      let marks := cs.takeWhile (· == c)
      if Nat.blt marks.length 3 || (c == '\x60' && (cs.drop marks.length).contains c) then none
      else some ⟨c, marks.length, indent⟩

/-- Whether a line closes a code block. -/
def Fence.closes (f : Fence) (c : Cursor) : Bool :=
  let rest := c.skipAll.rest
  let marks := rest.takeWhile (· == f.mark)
  Nat.blt c.indent 4 && Nat.ble f.length marks.length && (rest.drop marks.length).all isLineSpace

/-- The start of a list item. -/
structure ItemStart where
  /-- The character that items of one list share: the bullet, or the sign behind the number. -/
  delimiter : Char
  number : Option Nat
  /-- Columns that the lines of the item are indented. -/
  indent : Nat
  rest : Cursor

/-- The start of a list item behind `before` columns of white space. -/
def itemStart? (before : Nat) (c : Cursor) : Option ItemStart :=
  let finish (delimiter : Char) (number : Option Nat) (width : Nat) : Option ItemStart :=
    let after := c.advance width
    if after.isBlank then some ⟨delimiter, number, before + width + 1, after⟩
    else
      match after.indent with
      | 0 => none
      | n =>
        let gap := if Nat.ble 5 n then 1 else n
        some ⟨delimiter, number, before + width + gap, (after.skip gap).2⟩
  match c.rest with
  | [] => none
  | ch :: _ =>
    if ch == '-' || ch == '+' || ch == '*' then finish ch none 1
    else
      let digits := c.rest.takeWhile Char.isDigit
      match (c.rest.drop digits.length).head? with
      | some d =>
        if (d == '.' || d == ')') && Nat.ble 1 digits.length && Nat.ble digits.length 9 then
          finish d (some (digits.foldl (fun n c => n * 10 + (c.toNat - 48)) 0)) (digits.length + 1)
        else none
      | none => none

/-! ## Open blocks -/

/-- A list that is still open, with its finished items, last first. -/
structure OpenList where
  delimiter : Char
  tight : Bool
  done : List (List Node)

/-- An open container, with the blocks before it in its own container, last first. -/
inductive Frame where
  | quote (outer : List Node)
  | item (outer : List Node) (list : OpenList) (indent : Nat)

/-- An open block of lines, last line first. -/
inductive Leaf where
  | none
  | paragraph (lines : List (List Char))
  | indented (lines : List (List Char)) (blanks : List (List Char))
  | fenced (fence : Fence) (lines : List (List Char))
  | html (stop : HtmlEnd)

/-- The blocks read so far. Frames are given innermost first, and `nodes` are the blocks of the innermost
container, last first. -/
structure Blocks where
  frames : List Frame := []
  nodes : List Node := []
  leaf : Leaf := .none
  lastBlank : Bool := false
  /-- Labels of link definitions. -/
  labels : List (List Char) := []

namespace Blocks

def add (b : Blocks) (n : Node) : Blocks :=
  { b with nodes := n :: b.nodes }

/-- Takes the definitions off a paragraph and adds what is left of it as a block. -/
def addText (b : Blocks) (make : List Char → Node) (lines : List (List Char)) : Blocks :=
  let text := joinLines lines.reverse
  let (labels, rest) := takeDefinitions text.length text
  let b := { b with labels := b.labels ++ labels }
  if rest.all isBlank then b else b.add (make rest)

/-- Finishes the open block of lines. -/
def closeLeaf (b : Blocks) : Blocks :=
  let closed := { b with leaf := .none }
  match b.leaf with
  | .none => closed
  | .paragraph lines => closed.addText .paragraph lines
  | .indented lines _ => closed.add (.code lines.reverse.flatten)
  | .fenced _ lines => closed.add (.code lines.reverse.flatten)
  | .html _ => closed.add .silent

/-- Finishes the innermost container. -/
def closeFrame (b : Blocks) : Blocks :=
  match b.frames with
  | [] => b
  | .quote outer :: frames => { b with frames, nodes := .quote b.nodes.reverse :: outer }
  | .item outer list _ :: frames =>
    { b with frames, nodes := .list list.tight (b.nodes.reverse :: list.done).reverse :: outer }

/-- Finishes containers until `n` of them are left. -/
def closeTo (n : Nat) (b : Blocks) : Blocks :=
  (b.frames.length - n).repeat closeFrame b.closeLeaf

/-- A blank line before this place makes the list loose whose item is innermost. -/
def loosen (b : Blocks) : Blocks :=
  match b.lastBlank, b.frames with
  | true, .item outer list indent :: frames =>
    { b with frames := .item outer { list with tight := false } indent :: frames, lastBlank := false }
  | _, _ => { b with lastBlank := false }

/-- Prepares for a new block in the container of depth `n`. -/
def startBlock (n : Nat) (b : Blocks) : Blocks :=
  (b.closeTo n).loosen

/-- Opens a quotation in the container of depth `n`. -/
def openQuote (n : Nat) (b : Blocks) : Blocks :=
  let b := b.startBlock n
  { b with frames := .quote b.nodes :: b.frames, nodes := [] }

/-- Opens a list item in the container of depth `n`: the next item of the list that stands there, or the
first one of a new list. -/
def openItem (n : Nat) (s : ItemStart) (b : Blocks) : Blocks :=
  let fresh (b : Blocks) : Blocks :=
    let b := b.startBlock n
    { b with frames := .item b.nodes ⟨s.delimiter, true, []⟩ s.indent :: b.frames, nodes := [] }
  if b.frames.length ≤ n then fresh b
  else
    let b := b.closeTo (n + 1)
    match b.frames with
    | .item outer list _ :: frames =>
      if list.delimiter = s.delimiter then
        let list := ⟨list.delimiter, list.tight && !b.lastBlank, b.nodes.reverse :: list.done⟩
        { b with frames := .item outer list s.indent :: frames, nodes := [], lastBlank := false }
      else fresh b
    | _ => fresh b

/-! ## Lines -/

/-- The number of containers, outermost first, that a line continues, and the place behind their marks. -/
def continued : List Frame → Cursor → Nat × Cursor
  | [], c => (0, c)
  | .quote _ :: frames, c =>
    let inner := (c.skip 3).2
    match inner.pending, inner.rest with
    | 0, '>' :: _ =>
      let after := inner.advance 1
      let (n, last) := continued frames (after.skip 1).2
      (n + 1, last)
    | _, _ => (0, c)
  | .item _ _ indent :: frames, c =>
    let (k, inner) := c.skip indent
    if k = indent || c.isBlank then
      let (n, last) := continued frames inner
      (n + 1, last)
    else (0, c)

def isParagraph (b : Blocks) : Bool :=
  match b.leaf with
  | .paragraph _ => true
  | _ => false

/-- Whether an item may start here. Inside of a paragraph it must not be empty or numbered other than
one. -/
def mayStart (inParagraph : Bool) (s : ItemStart) : Bool :=
  !inParagraph || (s.number.getD 1 == 1 && !s.rest.isBlank)

/-- Opens the containers that start in a line whose first `depth` containers are continued. `opened` says
whether one was opened already; the result says whether one is. -/
def openContainers : Nat → Nat → Bool → Cursor → Blocks → Blocks × Cursor × Bool
  | 0, _, opened, c, b => (b, c, opened)
  | fuel + 1, depth, opened, c, b =>
    let indent := c.indent
    let start := c.skipAll
    if Nat.ble 4 indent || c.isBlank then (b, c, opened)
    else if start.rest.head? == some '>' then
      openContainers fuel (depth + 1) true ((start.advance 1).skip 1).2 (b.openQuote depth)
    else if isRule start.rest then (b, c, opened)
    else
      match itemStart? indent start with
      | some s =>
        if mayStart (!opened && b.isParagraph && b.frames.length == depth) s then
          openContainers fuel (depth + 1) true s.rest (b.openItem depth s)
        else (b, c, opened)
      | none => (b, c, opened)

/-- An item without text that is followed by a blank line takes no more lines. -/
def sealEmptyItem (b : Blocks) : Blocks :=
  match b.frames, b.nodes with
  | .item outer list indent :: frames, [] =>
    { b with frames := .item outer list (indent + 1000000) :: frames }
  | _, _ => b

/-- A blank line in the container of depth `n`. -/
def blank (n : Nat) (c : Cursor) (newline : List Char) (b : Blocks) : Blocks :=
  let b := if b.frames.length ≤ n then b else b.closeTo n
  let b := match b.leaf with
    | .indented lines blanks =>
      { b with leaf := .indented lines (((c.skip 4).2.text ++ newline) :: blanks) }
    | _ => b.closeLeaf
  match b.frames with
  | .quote _ :: _ => b
  | _ => { b.sealEmptyItem with lastBlank := true }

/-- The rest of a line in the innermost container, or in the one of depth `n` if no container was opened
in the line. -/
def content (n : Nat) (opened : Bool) (c : Cursor) (newline : List Char) (b : Blocks) : Blocks :=
  let n := if opened then b.frames.length else n
  let indent := c.indent
  let start := c.skipAll
  let inParagraph := !opened && b.isParagraph
  if Nat.ble 4 indent && !inParagraph then
    let line := (c.skip 4).2.text ++ newline
    match b.leaf, b.frames.length == n with
    | .indented lines blanks, true => { b with leaf := .indented (line :: (blanks ++ lines)) [] }
    | _, _ => { b.startBlock n with leaf := .indented [line] [] }
  else
    let plain : Blocks :=
      match b.leaf, inParagraph with
      | .paragraph lines, true => { b with leaf := .paragraph (start.rest :: lines) }
      | _, _ => { b.startBlock n with leaf := .paragraph [start.rest] }
    if Nat.ble 4 indent then plain
    else
      match htmlBlock? inParagraph start.rest with
      | some stop =>
        let b := b.startBlock n
        match stop with
        | .texts stops =>
          if holdsText stops (start.rest.drop 2) then b.add .silent else { b with leaf := .html stop }
        | .blankLine => { b with leaf := .html stop }
      | none =>
        if isRule start.rest then (b.startBlock n).add .silent
        else
          match heading? start.rest with
          | some text => (b.startBlock n).add (.heading text)
          | none =>
            match fence? indent start.rest with
            | some f => { b.startBlock n with leaf := .fenced f [] }
            | none => plain

/-- Takes in one line and its line end. -/
def line (b : Blocks) (chars newline : List Char) : Blocks :=
  let (n, c) := continued b.frames.reverse ⟨chars, 0, 0⟩
  let all := b.frames.length == n
  let other : Unit → Blocks := fun _ =>
    if c.isBlank then b.blank n c newline
    else
      match b.leaf, all && Nat.blt c.indent 4 && isUnderline c.skipAll.rest with
      | .paragraph lines, true =>
        let done := { b with leaf := .none }.addText .heading lines
        if done.nodes.length = b.nodes.length then
          { done with leaf := .paragraph [c.skipAll.rest] }
        else done
      | _, _ =>
        let (b, c, opened) := openContainers (chars.length + 1) n false c b
        if c.isBlank then b else b.content n opened c newline
  match b.leaf, all with
  | .fenced f lines, true =>
    if f.closes c then b.closeLeaf
    else { b with leaf := .fenced f (((c.skip f.indent).2.text ++ newline) :: lines) }
  | .html (.texts stops), true => if holdsText stops chars then b.closeLeaf else b
  | .html .blankLine, true => if c.isBlank then b.closeLeaf.blank n c newline else b
  | _, _ => other ()

/-- Takes in all lines of a text. -/
def ofLines : List (List Char) → Blocks → Blocks
  | [], b => b
  | [last], b => if last.isEmpty then b else b.line last []
  | l :: ls, b => ofLines ls (b.line l ['\n'])

end Blocks

/-- Line ends of all kinds become line feeds. -/
def lineFeeds : List Char → List Char
  | '\r' :: '\n' :: cs => '\n' :: lineFeeds cs
  | '\r' :: cs => '\n' :: lineFeeds cs
  | c :: cs => c :: lineFeeds cs
  | [] => []

/-- The blocks of a text and the labels it defines. -/
def blocks (text : List Char) : List Node × List (List Char) :=
  let b := (Blocks.ofLines (lines (lineFeeds text)) {}).closeTo 0
  (b.nodes.reverse, b.labels)

end DocPages.Markdown
