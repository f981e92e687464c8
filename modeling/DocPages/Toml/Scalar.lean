import DocPages.Data.Binary64
import DocPages.Data.Value

/-!
# Scalars in TOML

Texts, numbers, truth values and times. A setting is a text in the end, so every scalar is read as the
text that it is written as: integers in decimal, floating-point numbers with the fewest digits, times in
their normal form.
-/

namespace DocPages.Toml

def isBlank (c : Char) : Bool :=
  c == ' ' || c == '\t'

/-- Control characters, apart from tabs, stand nowhere. -/
def isPlain (c : Char) : Bool :=
  c == '\t' || (' ' ≤ c && c != '\x7f')

def skipBlanks (cs : List Char) : List Char :=
  cs.dropWhile isBlank

/-- The end of a line. -/
def newline? : List Char → Option (List Char)
  | '\n' :: cs => some cs
  | '\r' :: '\n' :: cs => some cs
  | _ => none

/-! ## Texts -/

def escapes : List (Char × Char) :=
  [('b', '\x08'), ('t', '\t'), ('n', '\n'), ('f', '\x0c'), ('r', '\r'), ('"', '"'), ('\\', '\\')]

/-- The character of a code point in hexadecimal digits. -/
def codePoint? (digits : List Char) : Option Char :=
  (Data.digits? 16 digits).bind fun n => if n.isValidChar then some (Char.ofNat n) else none

/-- What follows a backslash. -/
def escape? : List Char → Option (Char × List Char)
  | 'u' :: a :: b :: c :: d :: cs => (codePoint? [a, b, c, d]).map (·, cs)
  | 'U' :: a :: b :: c :: d :: e :: f :: g :: h :: cs =>
    (codePoint? [a, b, c, d, e, f, g, h]).map (·, cs)
  | e :: cs => (escapes.lookup e).map (·, cs)
  | [] => none

/-- A text after its opening quote, up to the closing one. -/
def basicText : Nat → List Char → Option (List Char × List Char)
  | 0, _ => none
  | fuel + 1, cs =>
    match cs with
    | '"' :: cs => some ([], cs)
    | '\\' :: cs => do
      let (c, cs) ← escape? cs
      let (text, rest) ← basicText fuel cs
      return (c :: text, rest)
    | c :: cs =>
      if isPlain c then (basicText fuel cs).map fun (text, rest) => (c :: text, rest) else none
    | [] => none

/-- A text between single quotes, in which nothing is escaped. -/
def literalText : List Char → Option (List Char × List Char)
  | [] => none
  | c :: cs =>
    if c == '\'' then some ([], cs)
    else if isPlain c then (literalText cs).map fun (text, rest) => (c :: text, rest)
    else none

/-- Skips blanks and line breaks. -/
def skipBreaks : Nat → List Char → List Char
  | 0, cs => cs
  | fuel + 1, cs =>
    match newline? (skipBlanks cs) with
    | some rest => skipBreaks fuel rest
    | none => skipBlanks cs

/-- Closing quotes of a text over several lines: three, and before them up to two that belong to the
text. -/
def closing? (quote : Char) (cs : List Char) : Option (List Char × List Char) :=
  let count := (cs.takeWhile (· == quote)).length
  if count < 3 then none
  else
    let own := min (count - 3) 2
    some (List.replicate own quote, cs.drop (own + 3))

/-- A text over several lines. Where escapes count, a backslash at the end of a line joins it to the next
character that is not blank. -/
def longText (quote : Char) (escaped : Bool) : Nat → List Char → Option (List Char × List Char)
  | 0, _ => none
  | fuel + 1, cs =>
    match closing? quote cs with
    | some done => some done
    | none =>
      match newline? cs with
      | some rest => (longText quote escaped fuel rest).map fun (text, rest) => ('\n' :: text, rest)
      | none =>
        match cs with
        | [] => none
        | c :: cs =>
          if escaped && c == '\\' then
            match newline? (skipBlanks cs) with
            | some rest => longText quote escaped fuel (skipBreaks rest.length rest)
            | none => do
              let (c, cs) ← escape? cs
              let (text, rest) ← longText quote escaped fuel cs
              return (c :: text, rest)
          else if isPlain c then
            (longText quote escaped fuel cs).map fun (text, rest) => (c :: text, rest)
          else none

/-- A line break directly after the opening quotes does not count. -/
def longTextAfterQuotes (quote : Char) (escaped : Bool) (cs : List Char) :
    Option (List Char × List Char) :=
  let cs := (newline? cs).getD cs
  longText quote escaped (cs.length + 1) cs

/-- A text of any form. -/
def text? : List Char → Option (List Char × List Char)
  | '"' :: '"' :: '"' :: cs => longTextAfterQuotes '"' true cs
  | '\'' :: '\'' :: '\'' :: cs => longTextAfterQuotes '\'' false cs
  | '"' :: cs => basicText (cs.length + 1) cs
  | '\'' :: cs => literalText cs
  | _ => none

/-! ## Numbers -/

/-- Digits, which single underscores may separate. -/
def digitRun (isDigit : Char → Bool) : List Char → List Char × List Char
  | '_' :: c :: cs =>
    if isDigit c then
      let (ds, rest) := digitRun isDigit cs
      (c :: ds, rest)
    else ([], '_' :: c :: cs)
  | c :: cs =>
    if isDigit c then
      let (ds, rest) := digitRun isDigit cs
      (c :: ds, rest)
    else ([], c :: cs)
  | [] => ([], [])

/-- Digits that start with no underscore. -/
def digits? (isDigit : Char → Bool) (cs : List Char) : Option (List Char × List Char) :=
  if cs.head?.any isDigit then some (digitRun isDigit cs) else none

/-- A sign, and whether it is a minus. -/
def sign : List Char → Bool × List Char
  | '-' :: cs => (true, cs)
  | '+' :: cs => (false, cs)
  | cs => (false, cs)

/-- A decimal number without leading zeros. -/
def decimal? (cs : List Char) : Option (List Char × List Char) :=
  match cs with
  | '0' :: cs => some (['0'], cs)
  | cs => digits? Char.isDigit cs

def intText (negative : Bool) (n : Nat) : List Char :=
  (toString (if negative then -(Int.ofNat n) else Int.ofNat n)).toList

/-- An integer of 64 bits. -/
def integer? (cs : List Char) : Option (List Char × List Char) :=
  let based (base : Nat) (cs : List Char) : Option (List Char × List Char) := do
    let (ds, rest) ← digits? (fun c => (Data.digits? base [c]).isSome) cs
    let n ← Data.digits? base ds
    if n < Nat.pow 2 63 then some (intText false n, rest) else none
  match cs with
  | '0' :: 'x' :: cs => based 16 cs
  | '0' :: 'o' :: cs => based 8 cs
  | '0' :: 'b' :: cs => based 2 cs
  | cs => do
    let (negative, cs) := sign cs
    let (ds, rest) ← decimal? cs
    let n ← Data.digits? 10 ds
    if n < Nat.pow 2 63 || (negative && n == Nat.pow 2 63) then some (intText negative n, rest) else none

/-- The digits after a point. -/
def fraction? : List Char → Option (List Char × List Char)
  | '.' :: cs => digits? Char.isDigit cs
  | _ => none

/-- An exponent. -/
def exponent? : List Char → Option (Int × List Char)
  | c :: cs =>
    if c == 'e' || c == 'E' then do
      let (negative, cs) := sign cs
      let (ds, rest) ← digits? Char.isDigit cs
      let n ← Data.digits? 10 ds
      return (if negative then -(Int.ofNat n) else Int.ofNat n, rest)
    else none
  | [] => none

/-- A floating-point number: a decimal with a fraction, an exponent or both, or one of the words for what
is no finite number. A positive number must not be too large. -/
def float? (cs : List Char) : Option (List Char × List Char) := do
  let (negative, cs) := sign cs
  let signed (text : List Char) : List Char := if negative then '-' :: text else text
  match cs with
  | 'i' :: 'n' :: 'f' :: rest => return (signed ['i', 'n', 'f'], rest)
  | 'n' :: 'a' :: 'n' :: rest => return (['N', 'a', 'N'], rest)
  | _ =>
    let (whole, cs) ← decimal? cs
    let (places, cs, hasFraction) := match fraction? cs with
      | some (ds, rest) => (ds, rest, true)
      | none => ([], cs, false)
    let (power, cs, hasExponent) := match exponent? cs with
      | some (n, rest) => (n, rest, true)
      | none => (0, cs, false)
    guard (hasFraction || hasExponent)
    let n ← Data.digits? 10 (whole ++ places)
    match Binary64.ofDecimal? n (power - Int.ofNat places.length) with
    | some x => return (signed x.toChars, cs)
    | none => if negative then return (['-', 'i', 'n', 'f'], cs) else none

/-! ## Times -/

/-- A number of exactly `n` digits between two bounds, and its digits. -/
def field? (n low high : Nat) (cs : List Char) : Option (Nat × List Char × List Char) := do
  let ds := cs.take n
  guard (ds.length == n && ds.all Char.isDigit)
  let v ← Data.digits? 10 ds
  guard (low ≤ v && v ≤ high)
  return (v, ds, cs.drop n)

/-- The rest after a character. -/
def after? (c : Char) : List Char → Option (List Char)
  | d :: cs => if c == d then some cs else none
  | [] => none

def daysInMonth (year month : Nat) : Nat :=
  if month == 2 then
    if year % 4 == 0 && (year % 100 != 0 || year % 400 == 0) then 29 else 28
  else if month == 4 || month == 6 || month == 9 || month == 11 then 30
  else 31

def date? (cs : List Char) : Option (List Char × List Char) := do
  let (year, y, cs) ← field? 4 0 9999 cs
  let (month, m, cs) ← field? 2 1 12 (← after? '-' cs)
  let (_, d, cs) ← field? 2 1 (daysInMonth year month) (← after? '-' cs)
  return (y ++ '-' :: m ++ '-' :: d, cs)

/-- A fraction of a second, in at most nine digits and without zeros at its end. -/
def secondFraction (cs : List Char) : List Char × List Char :=
  match cs with
  | '.' :: cs' =>
    let ds := cs'.takeWhile Char.isDigit
    if ds.isEmpty then ([], cs)
    else
      let shown := ((ds.take 9).reverse.dropWhile (· == '0')).reverse
      (if shown.isEmpty then [] else '.' :: shown, cs'.drop ds.length)
  | _ => ([], cs)

def time? (cs : List Char) : Option (List Char × List Char) := do
  let (_, h, cs) ← field? 2 0 23 cs
  let (_, m, cs) ← field? 2 0 59 (← after? ':' cs)
  let (_, s, cs) ← field? 2 0 60 (← after? ':' cs)
  let (frac, cs) := secondFraction cs
  return (h ++ ':' :: m ++ ':' :: s ++ frac, cs)

/-- The offset of a time. An offset of zero is never negative. -/
def offset (cs : List Char) : List Char × List Char :=
  let numeric (minus : Bool) (cs : List Char) : Option (List Char × List Char) := do
    let (hours, h, cs) ← field? 2 0 23 cs
    let (minutes, m, cs) ← field? 2 0 59 (← after? ':' cs)
    let shown := if minus && hours + minutes != 0 then '-' else '+'
    return (shown :: h ++ ':' :: m, cs)
  match cs with
  | 'Z' :: rest | 'z' :: rest => (['Z'], rest)
  | '+' :: rest => (numeric false rest).getD ([], cs)
  | '-' :: rest => (numeric true rest).getD ([], cs)
  | _ => ([], cs)

/-- A date, a time, or both with or without an offset. -/
def dateTime? (cs : List Char) : Option (List Char × List Char) :=
  match date? cs with
  | none => time? cs
  | some (date, rest) =>
    let hasMark := rest.head?.any fun c => c == 'T' || c == 't' || c == ' '
    match if hasMark then time? (rest.drop 1) else none with
    | none => some (date, rest)
    | some (time, rest) =>
      let (zone, rest) := offset rest
      some (date ++ 'T' :: time ++ zone, rest)

/-! ## Scalars -/

/-- A word. -/
def word? (word : String) (cs : List Char) : Option (List Char × List Char) :=
  if word.toList.isPrefixOf cs then some (word.toList, cs.drop word.length) else none

/-- A scalar, by its first character. -/
def scalar? (cs : List Char) : Option (List Char × List Char) :=
  match cs.head? with
  | none => none
  | some c =>
    if c == '"' || c == '\'' then text? cs
    else if c == 't' then word? "true" cs
    else if c == 'f' then word? "false" cs
    else ((dateTime? cs).orElse fun _ => float? cs).orElse fun _ => integer? cs

end DocPages.Toml
