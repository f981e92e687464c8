import DocPages.Data.Value
import DocPages.Data.Yaml.Cursor

/-!
# Scalars in YAML

Plain, quoted and block scalars. In plain and quoted scalars the lines are folded: a single line break
becomes a space, and of several the first is dropped. Block scalars keep their lines, or fold those that
are not indented further.
-/

namespace DocPages.Yaml

/-! ## Gaps between words -/

/-- What stands between two words of a scalar: blanks, or line breaks with the blanks around them. -/
inductive Gap where
  | blanks (cs : List Char)
  | breaks (first more : List Char)

namespace Gap

def isBreaks : Gap → Bool
  | blanks _ => false
  | breaks _ _ => true

/-- The folded gap. -/
def text : Gap → List Char
  | blanks cs => cs
  | breaks first more =>
    if first != ['\n'] then first ++ more else if more.isEmpty then [' '] else more

/-- The line breaks that follow one. A tab must not stand left of the column `indent`. -/
def moreBreaks (indent : Nat) : Nat → Cursor → Option (List Char × Cursor)
  | 0, _ => none
  | fuel + 1, c =>
    let (left, c') := c.takeWhile isBlank
    if (left.take (indent - c.column)).contains '\t' then none
    else
      match c'.takeBreak? with
      | none => some ([], c')
      | some (b, c'') => (moreBreaks indent fuel c'').map fun (bs, c) => (b ++ bs, c)

def take? (indent : Nat) (c : Cursor) : Option (Gap × Cursor) :=
  let (left, c) := c.takeWhile isBlank
  match c.takeBreak? with
  | none => some (.blanks left, c)
  | some (first, c) =>
    (moreBreaks indent c.fuel c).map fun (more, c) => (.breaks first more, c)

end Gap

/-! ## Plain scalars -/

/-- The characters that end a plain scalar inside of brackets. -/
def isFlowMark (c : Char) : Bool :=
  c == ',' || c == '[' || c == ']' || c == '\x7b' || c == '\x7d'

/-- A word of a plain scalar. A colon ends it before a gap; inside of brackets it must not stand before
a mark of the brackets. -/
def plainWord (flow : Bool) : List Char → Option (List Char)
  | [] => some []
  | c :: cs =>
    if isGap c then some []
    else if flow && c == ':' && cs.head?.any (fun d => isFlowMark d || d == '?') then none
    else if (c == ':' && endsWord cs) || (flow && isFlowMark c) then some []
    else (plainWord flow cs).map (c :: ·)

/-- The words of a plain scalar after a gap that reads as `pending`, and whether the scalar ended with a
line break. -/
def plainWords (flow : Bool) (indent : Nat) :
    Nat → List Char → Bool → Cursor → Option (List Char × Bool × Cursor)
  | 0, _, _, _ => none
  | fuel + 1, pending, broken, c => do
    if c.isAtDocumentMarker || c.next? == some '#' then return ([], broken, c)
    let word ← plainWord flow c.rest
    let c := c.skip word.length
    if word.isEmpty then return ([], broken, c)
    if !c.isAtGap then return (pending ++ word, false, c)
    let (gap, c) ← Gap.take? indent c
    if !flow && c.column < indent then return (pending ++ word, gap.isBreaks, c)
    let (more, broken, c) ← plainWords flow indent fuel gap.text gap.isBreaks c
    return (pending ++ word ++ more, broken, c)

def plainScalar (flow : Bool) (indent : Nat) (c : Cursor) : Option (List Char × Bool × Cursor) :=
  plainWords flow indent c.fuel [] false c

/-! ## Quoted scalars -/

/-- What one letter after a backslash stands for. -/
def escapes : List (Char × Char) :=
  [('0', '\x00'), ('a', '\x07'), ('b', '\x08'), ('t', '\t'), ('\t', '\t'), ('n', '\n'), ('v', '\x0b'),
   ('f', '\x0c'), ('r', '\r'), ('e', '\x1b'), (' ', ' '), ('"', '"'), ('/', '/'), ('\\', '\\'),
   ('N', '\u0085'), ('_', '\u00a0'), ('L', '\u2028'), ('P', '\u2029')]

/-- The character of a code point in hexadecimal digits. -/
def codePoint? (digits : List Char) : Option Char :=
  (Data.digits? 16 digits).bind fun n => if n.isValidChar then some (Char.ofNat n) else none

/-- Characters between single quotes, up to a gap or the closing quote. A doubled quote is one. -/
def singleRun : List Char → List Char × List Char
  | [] => ([], [])
  | '\'' :: '\'' :: cs =>
    let (run, rest) := singleRun cs
    ('\'' :: run, rest)
  | c :: cs =>
    if c == '\'' || isGap c then ([], c :: cs)
    else
      let (run, rest) := singleRun cs
      (c :: run, rest)

/-- Characters between double quotes, up to a gap, a backslash at the end of a line or the closing
quote. -/
def doubleRun : List Char → Option (List Char × List Char)
  | [] => some ([], [])
  | '\\' :: 'x' :: a :: b :: cs =>
    match codePoint? [a, b], doubleRun cs with
    | some c, some (run, rest) => some (c :: run, rest)
    | _, _ => none
  | '\\' :: 'u' :: a :: b :: c :: d :: cs =>
    match codePoint? [a, b, c, d], doubleRun cs with
    | some c, some (run, rest) => some (c :: run, rest)
    | _, _ => none
  | '\\' :: 'U' :: a :: b :: c :: d :: e :: f :: g :: h :: cs =>
    match codePoint? [a, b, c, d, e, f, g, h], doubleRun cs with
    | some c, some (run, rest) => some (c :: run, rest)
    | _, _ => none
  | '\\' :: e :: cs =>
    if isBreak e then some ([], '\\' :: e :: cs)
    else
      match escapes.lookup e, doubleRun cs with
      | some c, some (run, rest) => some (c :: run, rest)
      | _, _ => none
  | c :: cs =>
    if c == '"' || isGap c then some ([], c :: cs)
    else (doubleRun cs).map fun (run, rest) => (c :: run, rest)

/-- A quoted scalar after its opening quote. A line in it must not look like the start or the end of a
document. -/
def quotedWords (double : Bool) : Nat → Cursor → Option (List Char × Cursor)
  | 0, _ => none
  | fuel + 1, c => do
    if c.isAtDocumentMarker then none
    let (run, rest) ← if double then doubleRun c.rest else some (singleRun c.rest)
    let c := c.skipTo rest
    match rest with
    | [] => none
    | mark :: _ =>
      if mark == (if double then '"' else '\'') then return (run, c.skip 1)
      let (joint, c) ←
        if mark == '\\' then do
          let (_, c) ← (c.skip 1).takeBreak?
          Gap.moreBreaks 0 c.fuel c
        else do
          let (gap, c) ← Gap.take? 0 c
          pure (gap.text, c)
      let (more, c) ← quotedWords double fuel c
      return (run ++ joint ++ more, c)

def quotedScalar (double : Bool) (c : Cursor) : Option (List Char × Cursor) :=
  quotedWords double c.fuel c

/-! ## Block scalars -/

/-- What becomes of the line breaks at the end of a block scalar: by default the first is kept. -/
inductive Chomping where
  | clip
  | strip
  | keep

/-- The marks after the indicator of a block scalar: how to chomp it, and a digit that gives its
indentation, in either order. -/
def blockHeader (c : Cursor) : Option (Chomping × Option Nat × Cursor) :=
  let chomping? (c : Cursor) : Option Chomping × Cursor :=
    match c.next? with
    | some '+' => (some .keep, c.skip 1)
    | some '-' => (some .strip, c.skip 1)
    | _ => (none, c)
  let (first, c) := chomping? c
  let (digit, c) := match c.next? with
    | some d => if d.isDigit then (some (d.toNat - 48), c.skip 1) else (none, c)
    | none => (none, c)
  if digit == some 0 then none
  else
    match first, digit with
    | some ch, _ => some (ch, digit, c)
    | none, none => some (.clip, none, c)
    | none, some _ =>
      let (last, c) := chomping? c
      some (last.getD .clip, digit, c)

/-- The rest of a line may hold blanks and a comment. -/
def restOfLine (c : Cursor) : Option Cursor :=
  let c := c.skipWhile isBlank
  let c := if c.next? == some '#' then c.skipWhile (!isBreak ·) else c
  match c.takeBreak? with
  | some (_, c) => some c
  | none => if c.rest.isEmpty then some c else none

/-- Empty lines in a block scalar and the indentation of the line after them, with the furthest column
that they reach. While the indentation is not known all spaces count to it; a tab must not stand
there. -/
def emptyLines (indent : Option Nat) : Nat → Nat → Cursor → Option (List Char × Nat × Cursor)
  | 0, _, _ => none
  | fuel + 1, widest, c =>
    let spaces := (c.rest.takeWhile (· == ' ')).length
    let c := c.skip (match indent with | none => spaces | some n => min spaces (n - c.column))
    let widest := max widest c.column
    if c.next? == some '\t' && indent.all (c.column < ·) then none
    else
      match c.takeBreak? with
      | none => some ([], widest, c)
      | some (b, c) => (emptyLines indent fuel widest c).map fun (bs, r) => (b ++ bs, r)

/-- The lines of a block scalar from one that is indented to the column `indent`, after the line break
`leading` and the empty lines `trailing`. `wide` says that the line before starts with a blank. -/
def blockLines (literal : Bool) (chomping : Chomping) (indent : Nat) :
    Nat → (leading trailing : List Char) → (wide : Bool) → Cursor → Option (List Char × Cursor)
  | 0, _, _, _, _ => none
  | fuel + 1, leading, trailing, wide, c => do
    if c.column == indent && !c.rest.isEmpty then
      let startsBlank := c.next?.any isBlank
      let joint :=
        if !literal && leading == ['\n'] && !wide && !startsBlank then
          if trailing.isEmpty then [' '] else []
        else leading
      let (line, c) := c.takeWhile (!isBreak ·)
      let (leading, c) := c.takeBreak?.getD ([], c)
      let (empty, _, c) ← emptyLines (some indent) c.fuel 0 c
      let (more, c) ← blockLines literal chomping indent fuel leading empty startsBlank c
      return (joint ++ trailing ++ line ++ more, c)
    else
      return (match chomping with
        | .strip => []
        | .clip => leading
        | .keep => leading ++ trailing, c)

/-- A block scalar after its indicator, inside of a collection at the column `parent`. -/
def blockScalar (literal : Bool) (parent : Option Nat) (c : Cursor) : Option (List Char × Cursor) := do
  let (chomping, digit, c) ← blockHeader c
  let c ← restOfLine c
  let given := digit.map (parent.getD 0 + ·)
  let (empty, widest, c) ← emptyLines given c.fuel 0 c
  let indent := given.getD (max widest (max 1 (parent.elim 0 (· + 1))))
  blockLines literal chomping indent c.fuel [] empty false c

end DocPages.Yaml
