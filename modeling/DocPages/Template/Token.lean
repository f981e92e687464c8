import DocPages.Template.Tree
import DocPages.Data.Json

/-!
# Template tokens

A template is text with expressions between double braces, statements between braces with percent signs and
comments between braces with number signs. A hyphen inside of a brace drops the white space on its other
side.
-/

namespace DocPages.Template

open Text

inductive Token where
  | text (s : List Char)
  | exprStart
  | exprEnd
  | tagStart
  | tagEnd
  | ident (x : String)
  | str (s : String)
  | int (n : Nat)
  | decimal (units : Int) (scale : Nat)
  | op (s : String)
deriving DecidableEq

/-! ## Words of expressions -/

def isNameStart (c : Char) : Bool :=
  c.isAlpha || c == '_'

def isNamePart (c : Char) : Bool :=
  c.isAlphanum || c == '_'

/-- The part of a text up to the quote that ends it, with escapes kept, and the rest. -/
def upToQuote (quote : Char) : List Char → Option (List Char × List Char)
  | [] => none
  | '\\' :: c :: cs => (upToQuote quote cs).map fun (body, rest) => ('\\' :: c :: body, rest)
  | c :: cs =>
    if c = quote then some ([], cs)
    else (upToQuote quote cs).map fun (body, rest) => (c :: body, rest)

/-- The units of a text with escapes. -/
def unescapeUnits : List Char → Option (List Json.TextUnit)
  | [] => some []
  | '\\' :: 'u' :: a :: b :: c :: d :: cs =>
    match Data.digits? 16 [a, b, c, d], unescapeUnits cs with
    | some n, some units => some (.escaped n :: units)
    | _, _ => none
  | '\\' :: e :: cs =>
    match (('\'', '\'') :: Json.escapes).lookup e, unescapeUnits cs with
    | some c, some units => some (.char c :: units)
    | _, _ => none
  | c :: cs => (unescapeUnits cs).map (.char c :: ·)

/-- A quoted text after its opening quote. -/
def quotedToken (quote : Char) (cs : List Char) : Except Error (Token × List Char) :=
  match upToQuote quote cs with
  | none => .error ⟨.badSyntax, none⟩
  | some (body, rest) =>
    match (unescapeUnits body).bind Json.joinUnits with
    | some chars => .ok (.str (String.ofList chars), rest)
    | none => .error ⟨.badEscape, none⟩

/-- A number in which an underscore may separate digits. -/
def digitRun (cs : List Char) : List Char × List Char :=
  let part (c : Char) := c.isDigit || c == '_'
  ((cs.takeWhile part).filter (· != '_'), cs.dropWhile part)

/-- A number with a base sign. -/
def basedNumber (base : Nat) (cs : List Char) : Except Error (Token × List Char) :=
  let digits := cs.takeWhile fun c => c.isAlphanum || c == '_'
  match Data.digits? base (digits.filter (· != '_')) with
  | some n => .ok (.int n, cs.drop digits.length)
  | none => .error ⟨.badSyntax, none⟩

/-- An exponent with its sign, and the rest. -/
def exponent? : List Char → Option (Int × List Char)
  | c :: cs =>
    if c == 'e' || c == 'E' then
      let negative := cs.head? == some '-'
      let cs := if negative || cs.head? == some '+' then cs.drop 1 else cs
      let (digits, rest) := digitRun cs
      (Data.digits? 10 digits).map fun n => (if negative then -Int.ofNat n else Int.ofNat n, rest)
    else none
  | [] => none

/-- The decimal number of some digits before and after the point and an exponent. -/
def scaled (units : Int) (scale : Nat) (exponent : Int) : Token :=
  let scale := Int.ofNat scale - exponent
  if 0 ≤ scale then .decimal units scale.toNat
  else .decimal (units * Int.ofNat (Nat.pow 10 (-scale).toNat)) 0

/-- A number that starts with a digit. -/
def numberToken (cs : List Char) : Except Error (Token × List Char) :=
  match cs with
  | '0' :: 'x' :: cs | '0' :: 'X' :: cs => basedNumber 16 cs
  | '0' :: 'o' :: cs | '0' :: 'O' :: cs => basedNumber 8 cs
  | '0' :: 'b' :: cs | '0' :: 'B' :: cs => basedNumber 2 cs
  | cs =>
    let (whole, rest) := digitRun cs
    let (fraction, rest, isDecimal) := match rest with
      | '.' :: rest => let (f, rest) := digitRun rest; (f, rest, true)
      | rest => ([], rest, false)
    match Data.digits? 10 (whole ++ fraction) with
    | none => .error ⟨.badSyntax, none⟩
    | some n =>
      match exponent? rest with
      | some (e, rest) => .ok (scaled n fraction.length e, rest)
      | none =>
        if isDecimal then .ok (.decimal n fraction.length, rest)
        else if n < Nat.pow 2 128 then .ok (.int n, rest)
        else .error ⟨.badSyntax, none⟩

def twoCharOps : List String :=
  ["//", "**", "==", "!=", ">=", "<="]

def oneCharOps : List Char :=
  "+-*/%.,:~|=><()[]\x7b\x7d".toList

/-- The token at the start of an expression. -/
def wordToken (c : Char) (cs : List Char) : Except Error (Token × List Char) :=
  match twoCharOps.find? fun o => o.toList.isPrefixOf (c :: cs) with
  | some o => .ok (.op o, cs.drop 1)
  | none =>
    if c == '"' || c == '\'' then quotedToken c cs
    else if oneCharOps.contains c then .ok (.op c.toString, cs)
    else if c.isDigit then numberToken (c :: cs)
    else if isNameStart c then
      .ok (.ident (String.ofList (c :: cs.takeWhile isNamePart)), cs.dropWhile isNamePart)
    else .error ⟨.badSyntax, none⟩

/-! ## Text and marks -/

/-- The kinds of marked parts. -/
inductive Mark where
  | expr
  | tag
  | comment
deriving DecidableEq

def Mark.ofChar? : Char → Option Mark
  | '\x7b' => some .expr
  | '%' => some .tag
  | '#' => some .comment
  | _ => none

/-- The text before the next mark, and the mark with what follows it. -/
def upToMark : List Char → List Char × Option (Mark × List Char)
  | '\x7b' :: c :: cs =>
    match Mark.ofChar? c with
    | some m => ([], some (m, cs))
    | none =>
      let (text, found) := upToMark (c :: cs)
      ('\x7b' :: text, found)
  | c :: cs =>
    let (text, found) := upToMark cs
    (c :: text, found)
  | [] => ([], none)

/-- What follows a comment, and whether white space after it is dropped. -/
def pastComment : List Char → Option (Bool × List Char)
  | '-' :: '#' :: '\x7d' :: cs => some (true, cs)
  | '#' :: '\x7d' :: cs => some (false, cs)
  | _ :: cs => pastComment cs
  | [] => none

/-- What follows the end of an expression or statement, and whether white space after it is dropped. -/
def pastEnd? (m : Mark) (cs : List Char) : Option (Bool × List Char) :=
  let stop := if m = .tag then ['%', '\x7d'] else ['\x7d', '\x7d']
  match dropFront? stop cs with
  | some rest => some (false, rest)
  | none =>
    match cs with
    | '-' :: cs => (dropFront? stop cs).map (true, ·)
    | '+' :: cs => if m = .tag then (dropFront? stop cs).map (false, ·) else none
    | _ => none

/-- Where the reader stands: in text, whose leading white space may have to be dropped, or in a marked
part. -/
inductive Mode where
  | text (trim : Bool)
  | inside (m : Mark)

def Mark.opening (m : Mark) : Token :=
  if m = .tag then .tagStart else .exprStart

def Mark.closing (m : Mark) : Token :=
  if m = .tag then .tagEnd else .exprEnd

def isCodeSpace (c : Char) : Bool :=
  c == ' ' || c == '\t' || c == '\n' || c == '\r' || c == '\x0c'

/-- The tokens of a text. Each step takes at least one character, or changes the mode once. -/
def tokensWithin : Nat → Mode → List Char → Except Error (List Token)
  | 0, _, _ => .ok []
  | fuel + 1, .text trim, cs =>
    let (text, found) := upToMark (if trim then trimStart cs else cs)
    let emit (text : List Char) (rest : Except Error (List Token)) : Except Error (List Token) :=
      if text.isEmpty then rest else rest.map (.text text :: ·)
    match found with
    | none => emit text (.ok [])
    | some (m, rest) =>
      let hyphen := rest.head? == some '-'
      let text := if hyphen then trimEnd text else text
      let rest := if hyphen || rest.head? == some '+' then rest.drop 1 else rest
      if m = .comment then
        match pastComment rest with
        | some (trim, rest) => emit text (tokensWithin fuel (.text trim) rest)
        | none => .error ⟨.badSyntax, none⟩
      else emit text ((tokensWithin fuel (.inside m) rest).map (m.opening :: ·))
  | fuel + 1, .inside m, cs =>
    let cs := cs.dropWhile isCodeSpace
    match pastEnd? m cs with
    | some (trim, rest) => (tokensWithin fuel (.text trim) rest).map (m.closing :: ·)
    | none =>
      match cs with
      | [] => .error ⟨.badSyntax, none⟩
      | c :: cs =>
        match wordToken c cs with
        | .error e => .error e
        | .ok (t, rest) => (tokensWithin fuel (.inside m) rest).map (t :: ·)

/-- The tokens of a template. -/
def tokens (source : List Char) : Except Error (List Token) :=
  tokensWithin (2 * source.length + 2) (.text false) source

end DocPages.Template
