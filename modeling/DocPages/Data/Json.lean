import DocPages.Data.Value

/-!
# JSON

A reader of JSON texts into structured data. Escapes of surrogates must come in pairs; a text with half
of a pair is kept as unreadable, since it harms only the field that reads it.
-/

namespace DocPages.Json

def isSpace (c : Char) : Bool :=
  c == ' ' || c == '\t' || c == '\n' || c == '\r'

def skipSpace (cs : List Char) : List Char :=
  cs.dropWhile isSpace

/-! ## Texts -/

/-- A character of a text, or a unit written as four hexadecimal digits. -/
inductive TextUnit where
  | char (c : Char)
  | escaped (n : Nat)

/-- The characters that a letter after a backslash stands for. -/
def escapes : List (Char × Char) :=
  [('"', '"'), ('\\', '\\'), ('/', '/'), ('b', '\x08'), ('f', '\x0c'), ('n', '\n'), ('r', '\r'),
   ('t', '\t')]

/-- The units of a text up to its closing quote, and the rest. -/
def textUnits : List Char → Option (List TextUnit × List Char)
  | [] => none
  | '"' :: cs => some ([], cs)
  | '\\' :: 'u' :: a :: b :: c :: d :: cs =>
    match Data.digits? 16 [a, b, c, d], textUnits cs with
    | some n, some (units, rest) => some (.escaped n :: units, rest)
    | _, _ => none
  | '\\' :: e :: cs =>
    match escapes.lookup e, textUnits cs with
    | some c, some (units, rest) => some (.char c :: units, rest)
    | _, _ => none
  | c :: cs =>
    if c.toNat < 32 then none
    else (textUnits cs).map fun (units, rest) => (.char c :: units, rest)

/-- The characters of units. A leading surrogate and the trailing one after it make one character. -/
def joinUnits : List TextUnit → Option (List Char)
  | [] => some []
  | .char c :: us => (joinUnits us).map (c :: ·)
  | .escaped n :: us =>
    if 0xD800 ≤ n ∧ n < 0xDC00 then
      match us with
      | .escaped m :: us =>
        if 0xDC00 ≤ m ∧ m < 0xE000 then
          (joinUnits us).map (Char.ofNat (0x10000 + (n - 0xD800) * 0x400 + (m - 0xDC00)) :: ·)
        else none
      | _ => none
    else if 0xDC00 ≤ n ∧ n < 0xE000 then none
    else (joinUnits us).map (Char.ofNat n :: ·)

/-- A text after its opening quote. -/
def textAfterQuote (cs : List Char) : Option (Data × List Char) :=
  (textUnits cs).map fun (units, rest) =>
    (match joinUnits units with
      | some chars => .text (String.ofList chars)
      | none => .unreadable, rest)

/-! ## Numbers -/

/-- A fraction after a number: a point and at least one digit. -/
def skipFraction : List Char → Option (List Char)
  | '.' :: cs =>
    if (cs.head?.map Char.isDigit).getD false then some (cs.dropWhile Char.isDigit) else none
  | cs => some cs

/-- An exponent after a number. -/
def skipExponent : List Char → Option (List Char)
  | c :: cs =>
    if c == 'e' || c == 'E' then
      let cs := if cs.head? == some '+' || cs.head? == some '-' then cs.drop 1 else cs
      if (cs.head?.map Char.isDigit).getD false then some (cs.dropWhile Char.isDigit) else none
    else some (c :: cs)
  | [] => some []

/-- A number. Without fraction and exponent, and within the machine integers, it is an integer; a
negative zero is not. -/
def number (cs : List Char) : Option (Data × List Char) :=
  let negative := cs.head? == some '-'
  let cs := if negative then cs.drop 1 else cs
  let digits := cs.takeWhile Char.isDigit
  let rest := cs.drop digits.length
  if digits.isEmpty || (digits.head? == some '0' && Nat.blt 1 digits.length) then none
  else
    match (skipFraction rest).bind skipExponent, Data.digits? 10 digits with
    | some after, some n =>
      let isInt := after.length == rest.length
        && (if negative then Nat.blt 0 n && Nat.ble n (Nat.pow 2 63) else Nat.blt n Data.wordSize)
      let value : Int := if negative then -(Int.ofNat n) else Int.ofNat n
      some (if isInt then .int value else .number, after)
    | _, _ => none

/-! ## Values -/

/-- Scalars, by their first character. -/
def scalar (cs : List Char) : Option (Data × List Char) :=
  let word (w : String) (d : Data) : Option (Data × List Char) :=
    if w.toList.isPrefixOf cs then some (d, cs.drop w.length) else none
  match cs with
  | '"' :: cs => textAfterQuote cs
  | 'n' :: _ => word "null" .null
  | 't' :: _ => word "true" (.bool true)
  | 'f' :: _ => word "false" (.bool false)
  | _ => number cs

mutual

/-- A value at the start of a text, nested less deep than the fuel. -/
def value : Nat → List Char → Option (Data × List Char)
  | 0, _ => none
  | fuel + 1, cs =>
    match skipSpace cs with
    | '[' :: cs =>
      match skipSpace cs with
      | ']' :: cs => some (.list [], cs)
      | cs => (items fuel cs).map fun (xs, rest) => (.list xs, rest)
    | '\x7b' :: cs =>
      match skipSpace cs with
      | '\x7d' :: cs => some (.map [], cs)
      | cs => (members fuel cs).map fun (kvs, rest) => (.map kvs, rest)
    | cs => scalar cs

/-- The items of a list up to its closing bracket. -/
def items : Nat → List Char → Option (List Data × List Char)
  | 0, _ => none
  | fuel + 1, cs =>
    match value fuel cs with
    | none => none
    | some (x, rest) =>
      match skipSpace rest with
      | ']' :: rest => some ([x], rest)
      | ',' :: rest => (items fuel rest).map fun (xs, rest) => (x :: xs, rest)
      | _ => none

/-- The members of a map up to its closing brace. -/
def members : Nat → List Char → Option (List (Data × Data) × List Char)
  | 0, _ => none
  | fuel + 1, cs =>
    match skipSpace cs with
    | '"' :: cs =>
      match textAfterQuote cs with
      | none => none
      | some (k, rest) =>
        match skipSpace rest with
        | ':' :: rest =>
          match value fuel rest with
          | none => none
          | some (v, rest) =>
            match skipSpace rest with
            | '\x7d' :: rest => some ([(k, v)], rest)
            | ',' :: rest => (members fuel rest).map fun (kvs, rest) => ((k, v) :: kvs, rest)
            | _ => none
        | _ => none
    | _ => none

end

/-- The value of a JSON text. Every step of the reader takes at least one character, except that a value
in a list or map takes two steps, so twice the length of the text bounds them. -/
def parse? (text : String) : Option Data :=
  let cs := text.toList
  match value (2 * cs.length + 2) cs with
  | some (d, rest) => if (skipSpace rest).isEmpty then some d else none
  | none => none

end DocPages.Json
