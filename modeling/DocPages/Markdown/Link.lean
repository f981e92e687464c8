import DocPages.Text.Lines
import DocPages.Text.Casing

/-!
# Parts of links

Readers of link labels, destinations and titles, of the target in parentheses behind a link text, and of
link reference definitions. Only the extent of a part matters here, since a reader sees none of it.
-/

namespace DocPages.Markdown

open Text

def isAsciiPunct (c : Char) : Bool :=
  Nat.ble 33 c.toNat && Nat.ble c.toNat 126 && !c.isAlphanum

/-- Spaces, tabs and line ends. -/
def isLinkSpace (c : Char) : Bool :=
  c == ' ' || c == '\t' || c == '\n' || c == '\r'

/-- A text up to an unescaped `stop` that holds no unescaped character of `bad`, and what follows
it. -/
def upToUnescaped (stop : Char) (bad : List Char) : List Char → Option (List Char × List Char)
  | [] => none
  | '\\' :: c :: cs =>
    if isAsciiPunct c then
      (upToUnescaped stop bad cs).map fun (body, rest) => ('\\' :: c :: body, rest)
    else if bad.contains '\\' then none
    else if c = stop then some (['\\'], cs)
    else if bad.contains c then none
    else (upToUnescaped stop bad cs).map fun (body, rest) => ('\\' :: c :: body, rest)
  | c :: cs =>
    if c = stop then some ([], cs)
    else if bad.contains c then none
    else (upToUnescaped stop bad cs).map fun (body, rest) => (c :: body, rest)

/-- The form of a label by which definitions are found: white space and case do not count. -/
def normalLabel (label : List Char) : List Char :=
  lowercase (uppercase (collapseBlanks (trim label)))

/-- A label after its opening bracket. -/
def label? (cs : List Char) : Option (List Char × List Char) :=
  match upToUnescaped ']' ['['] cs with
  | some (label, rest) =>
    if label.all isBlank || Nat.blt 999 label.length then none else some (label, rest)
  | none => none

/-- A destination without brackets, in which parentheses are balanced. -/
def bareDestination : Nat → List Char → List Char × List Char
  | _, [] => ([], [])
  | depth, '\\' :: c :: cs =>
    if isAsciiPunct c then
      let (body, rest) := bareDestination depth cs
      ('\\' :: c :: body, rest)
    else
      let (body, rest) := bareDestination depth (c :: cs)
      ('\\' :: body, rest)
  | depth, c :: cs =>
    if c = '(' then
      let (body, rest) := bareDestination (depth + 1) cs
      (c :: body, rest)
    else if c = ')' then
      match depth with
      | 0 => ([], c :: cs)
      | depth + 1 =>
        let (body, rest) := bareDestination depth cs
        (c :: body, rest)
    else if Nat.ble c.toNat 32 || c.toNat = 127 then ([], c :: cs)
    else
      let (body, rest) := bareDestination depth cs
      (c :: body, rest)

/-- What follows a destination, and whether it has characters. -/
def destination? (cs : List Char) : Option (Bool × List Char) :=
  match cs with
  | '<' :: cs => (upToUnescaped '>' ['<', '\n', '\r'] cs).map fun (_, rest) => (true, rest)
  | cs =>
    let (body, rest) := bareDestination 0 cs
    if body.count '(' = body.count ')' ∨ body.contains '\\' then some (!body.isEmpty, rest) else none

/-- Whether a text holds a blank line. -/
def hasBlankLine (cs : List Char) : Bool :=
  ((lines cs).drop 1).dropLast.any fun l => l.all isBlank

/-- What follows a title. -/
def title? (cs : List Char) : Option (List Char) :=
  let quoted (stop : Char) (bad : List Char) (cs : List Char) :=
    match upToUnescaped stop bad cs with
    | some (body, rest) => if hasBlankLine body then none else some rest
    | none => none
  match cs with
  | '"' :: cs => quoted '"' [] cs
  | '\'' :: cs => quoted '\'' [] cs
  | '(' :: cs => quoted ')' ['('] cs
  | _ => none

/-- What follows the target in parentheses behind a link text. -/
def inlineTarget? (cs : List Char) : Option (List Char) :=
  match cs with
  | '(' :: cs =>
    match destination? (cs.dropWhile isLinkSpace) with
    | none => none
    | some (_, rest) =>
      match rest.dropWhile isLinkSpace with
      | ')' :: after => some after
      | next =>
        if next.length < rest.length then
          match title? next with
          | some rest =>
            match rest.dropWhile isLinkSpace with
            | ')' :: after => some after
            | _ => none
          | none => none
        else none
  | _ => none

/-! ## Definitions -/

def isLineSpace (c : Char) : Bool :=
  c == ' ' || c == '\t'

/-- What follows the end of a line that holds nothing more. -/
def lineEnd? (cs : List Char) : Option (List Char) :=
  match cs.dropWhile isLineSpace with
  | [] => some []
  | '\n' :: rest => some rest
  | _ => none

/-- White space with at most one line end in it. -/
def skipWithin (cs : List Char) : List Char :=
  match cs.dropWhile isLineSpace with
  | '\n' :: rest => rest.dropWhile isLineSpace
  | rest => rest

/-- A definition at the start of a paragraph: its label and what follows its last line. -/
def definition? (cs : List Char) : Option (List Char × List Char) :=
  match cs with
  | '[' :: cs =>
    match label? cs with
    | some (label, ':' :: rest) =>
      match destination? (skipWithin rest) with
      | some (true, after) =>
        let titled :=
          let next := skipWithin after
          if next.length < after.length then (title? next).bind lineEnd? else none
        match titled with
        | some rest => some (normalLabel label, rest)
        | none => (lineEnd? after).map fun rest => (normalLabel label, rest)
      | _ => none
    | _ => none
  | _ => none

/-- Takes at most `fuel` definitions off the start of a paragraph. -/
def takeDefinitions : Nat → List Char → List (List Char) × List Char
  | 0, cs => ([], cs)
  | fuel + 1, cs =>
    match definition? cs with
    | some (label, rest) =>
      let (labels, rest) := takeDefinitions fuel rest
      (label :: labels, rest)
    | none => ([], cs)

end DocPages.Markdown
