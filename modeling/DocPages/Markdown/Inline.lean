import DocPages.Markdown.Entity
import DocPages.Markdown.Html
import DocPages.Markdown.Link
import DocPages.Text.WordChar

/-!
# Inline Markdown

What a reader sees of a paragraph or heading: its text without the marks of emphasis, strikethrough and
links, without code and HTML, and with line breaks as spaces.

The text is scanned once from left to right. Brackets that may open a link are kept on a stack together
with the text before them. Runs of the marks `*`, `_` and `~` are kept as delimiters until the link text or
the paragraph they stand in is complete, and are then paired.
-/

namespace DocPages.Markdown

open Text

/-- Visible text, or a line break. -/
inductive Piece where
  | text (cs : List Char)
  | space
deriving DecidableEq

/-- A run of `count` marks, of which `run` stood together at first. -/
structure Delimiter where
  mark : Char
  count : Nat
  run : Nat
  opens : Bool
  closes : Bool

inductive Fragment where
  | piece (p : Piece)
  | delimiter (d : Delimiter)

/-! ## Emphasis -/

/-- Whether a run of marks can open emphasis. Only `*` and `~~` can do so inside of a word. -/
def canOpen (mark : Char) (run : Nat) (prev next : Char) : Bool :=
  !isBlank next
    && ((mark == '*' && !isPunctuation next) || (mark == '~' && Nat.blt 1 run)
      || isBlank prev || isPunctuation prev)

/-- Whether a run of marks can close emphasis. -/
def canClose (mark : Char) (run : Nat) (prev next : Char) : Bool :=
  !isBlank prev
    && (((mark == '*' || (mark == '~' && Nat.blt 1 run)) && !isPunctuation prev)
      || isBlank next || isPunctuation next)

/-- A delimiter that waits for its counterpart, with the pieces after it, last first. -/
structure Opener where
  delimiter : Delimiter
  after : List Piece

/-- The openers, innermost first, and the pieces before the outermost one, last first. -/
structure Openers where
  stack : List Opener := []
  base : List Piece := []

namespace Openers

/-- Adds pieces, given last first. -/
def add (s : Openers) (ps : List Piece) : Openers :=
  match s.stack with
  | [] => { s with base := ps ++ s.base }
  | o :: os => { s with stack := { o with after := ps ++ o.after } :: os }

def marks (mark : Char) (count : Nat) : Piece :=
  .text (List.replicate count mark)

/-- Gives up the innermost opener: its marks are text. -/
def giveUp (s : Openers) : Openers :=
  match s.stack with
  | [] => s
  | o :: os =>
    { s with stack := os }.add (o.after ++ [marks o.delimiter.mark o.delimiter.count])

/-- Whether a closing run matches an opener. Runs that can both open and close do not match if their
lengths add up to a multiple of three, unless both are multiples of three. -/
def fits (c : Delimiter) (o : Opener) : Bool :=
  let o := o.delimiter
  o.mark == c.mark && (c.mark != '~' || c.run == o.run)
    && ((!(c.opens && c.closes) && !(o.opens && o.closes)) || (c.run + o.run) % 3 != 0
      || c.run % 3 == 0)

/-- Pairs the innermost opener with as many of `count` closing marks as it has. -/
def pair (count : Nat) (s : Openers) : Nat × Openers :=
  match s.stack with
  | [] => (count, s)
  | o :: os =>
    let d := o.delimiter
    let n := min count d.count
    if d.count = n then (count - n, { s with stack := os }.add o.after)
    else (count - n, { s with stack := { o with delimiter := { d with count := d.count - n } } :: os })

/-- Pairs the marks of a closing run with openers; the result says how many are left. -/
def close (c : Delimiter) : Nat → Nat → Openers → Nat × Openers
  | 0, count, s => (count, s)
  | fuel + 1, count, s =>
    match s.stack.findIdx? (fits c) with
    | none => (count, s)
    | some i =>
      let (left, s) := pair count (i.repeat giveUp s)
      if left = 0 then (0, s) else close c fuel left s

/-- Takes in one fragment. -/
def take (s : Openers) : Fragment → Openers
  | .piece p => s.add [p]
  | .delimiter d =>
    let (left, s) := if d.closes then close d (d.count + 1) d.count s else (d.count, s)
    if left = 0 then s
    else if d.opens then { s with stack := ⟨{ d with count := left }, []⟩ :: s.stack }
    else s.add [marks d.mark left]

/-- All pieces in order, once no more counterparts can follow. -/
def pieces (s : Openers) : List Piece :=
  (s.stack.length.repeat giveUp s).base.reverse

end Openers

/-- The visible pieces of fragments, with emphasis paired. -/
def pairEmphasis (fragments : List Fragment) : List Piece :=
  (fragments.foldl Openers.take {}).pieces

/-! ## Links and the rest -/

/-- A bracket that may open a link or image. -/
structure Bracket where
  image : Bool
  /-- Links do not hold links: once one is complete, the brackets around it open none. -/
  active : Bool
  /-- The fragments before the bracket, last first. -/
  before : List Fragment
  /-- The text after the bracket. -/
  source : List Char

/-- The scanned part of a text. -/
structure Scan where
  brackets : List Bracket := []
  /-- The fragments after the last bracket, last first. -/
  fragments : List Fragment := []

namespace Scan

def add (s : Scan) (f : Fragment) : Scan :=
  { s with fragments := f :: s.fragments }

def addText (s : Scan) (cs : List Char) : Scan :=
  if cs.isEmpty then s else s.add (.piece (.text cs))

def openText (b : Bracket) : List Char :=
  if b.image then ['!', '['] else ['[']

/-- Takes the last bracket as text. -/
def dropBracket (s : Scan) : Scan :=
  match s.brackets with
  | [] => s
  | b :: bs =>
    ⟨bs, s.fragments ++ .piece (.text (openText b)) :: b.before⟩

/-- Completes a link or image that the last bracket opens. -/
def completeLink (s : Scan) : Scan :=
  match s.brackets with
  | [] => s
  | b :: bs =>
    let inner := (pairEmphasis s.fragments.reverse).map Fragment.piece
    let bs := if b.image then bs else bs.map fun o => if o.image then o else { o with active := false }
    ⟨bs, inner.reverse ++ b.before⟩

/-- What follows the target of a link whose text ends before `cs`: a target in parentheses, or a label
that is defined. The link text itself is the label if none is given. -/
def afterTarget? (labels : List (List Char)) (text cs : List Char) : Option (List Char) :=
  match inlineTarget? cs with
  | some rest => some rest
  | none =>
    let defined (label : List Char) := labels.contains (normalLabel label)
    match cs with
    | '[' :: ']' :: rest => if defined text then some rest else none
    | '[' :: rest =>
      match label? rest with
      | some (label, after) => if defined label then some after else none
      | none => if defined text then some cs else none
    | _ => if defined text then some cs else none

/-- Takes in a closing bracket that is followed by `cs`. -/
def closeBracket (labels : List (List Char)) (cs : List Char) (s : Scan) : Scan × List Char :=
  match s.brackets with
  | [] => (s.addText [']'], cs)
  | b :: _ =>
    let text := b.source.take (b.source.length - cs.length - 1)
    match if b.active then afterTarget? labels text cs else none with
    | some rest => (s.completeLink, rest)
    | none => (s.dropBracket.addText [']'], cs)

/-- What follows a run of exactly `n` backquotes. -/
def pastQuotes (n : Nat) : Nat → List Char → Option (List Char)
  | 0, _ => none
  | fuel + 1, cs =>
    match cs.dropWhile (· != '\x60') with
    | [] => none
    | cs =>
      let run := cs.takeWhile (· == '\x60')
      let rest := cs.drop run.length
      if run.length = n then some rest else pastQuotes n fuel rest

/-- Takes in a run of marks. -/
def mark (prev c : Char) (cs : List Char) (s : Scan) : Scan × List Char :=
  let run := (c :: cs).takeWhile (· == c)
  let rest := (c :: cs).drop run.length
  let next := rest.headD '\n'
  let opens := canOpen c run.length prev next
  let closes := canClose c run.length prev next
  if (opens || closes) && (c != '~' || Nat.ble run.length 2) then
    (s.add (.delimiter ⟨c, run.length, run.length, opens, closes⟩), rest)
  else (s.addText run, rest)

/-- Takes in what starts with the character `c` after `prev`, and returns what follows it. -/
def step (labels : List (List Char)) (prev c : Char) (cs : List Char) (s : Scan) : Scan × List Char :=
  if c = '\\' then
    match cs with
    | '\n' :: rest => (s.add (.piece .space), rest)
    | d :: rest => if isAsciiPunct d then (s.addText [d], rest) else (s.addText [c], cs)
    | [] => (s.addText [c], cs)
  else if c = '\n' then (s.add (.piece .space), cs)
  else if c = '\x60' then
    let run := (c :: cs).takeWhile (· == c)
    let rest := (c :: cs).drop run.length
    match pastQuotes run.length rest.length rest with
    | some after => (s, after)
    | none => (s.addText run, rest)
  else if c = '<' then
    match autolink? (c :: cs) with
    | some (address, rest) => (s.addText address, rest)
    | none =>
      match html? (c :: cs) with
      | some rest => (s, rest)
      | none => (s.addText [c], cs)
  else if c = '!' && cs.head? == some '[' then
    (⟨⟨true, true, s.fragments, cs.drop 1⟩ :: s.brackets, []⟩, cs.drop 1)
  else if c = '[' then (⟨⟨false, true, s.fragments, cs⟩ :: s.brackets, []⟩, cs)
  else if c = ']' then s.closeBracket labels cs
  else if c = '&' then
    match entity? cs with
    | some (chars, rest) => (s.addText chars, rest)
    | none => (s.addText [c], cs)
  else if c = '*' || c = '_' || c = '~' then s.mark prev c cs
  else (s.addText [c], cs)

/-- Scans a text after `prev`. Every step takes at least one character. -/
def run (labels : List (List Char)) : Nat → Char → List Char → Scan → Scan
  | _, _, [], s => s
  | 0, _, _, s => s
  | fuel + 1, prev, c :: cs, s =>
    let (s, rest) := s.step labels prev c cs
    let taken := (c :: cs).take (cs.length + 1 - rest.length)
    run labels fuel (taken.getLastD prev) rest s

/-- All fragments in order, once no more brackets can close. -/
def finish (s : Scan) : List Fragment :=
  (s.brackets.length.repeat dropBracket s).fragments.reverse

end Scan

/-- Drops the white space at the ends of lines. A backslash that it separates from the line end is
written twice, since it does not mark a line break. -/
def trimLineEnds (cs : List Char) : List Char :=
  joinLines ((lines cs).map fun l =>
    let short := dropEndWhile (fun c => c == ' ' || c == '\t') l
    let slashes := (short.reverse.takeWhile (· == '\\')).length
    if short.length < l.length && slashes % 2 == 1 then short ++ ['\\'] else short)

/-- The visible pieces of a paragraph or heading, in a text that defines `labels`. -/
def inlinePieces (labels : List (List Char)) (cs : List Char) : List Piece :=
  let cs := trimLineEnds cs
  pairEmphasis (Scan.run labels cs.length '\n' cs {}).finish

end DocPages.Markdown
