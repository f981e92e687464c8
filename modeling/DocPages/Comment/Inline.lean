import DocPages.Comment.Span
import DocPages.Comment.Reference
import DocPages.Text.Url

/-!
# Inline text

Running text is scanned from left to right into tokens: code in backquotes, bracketed labels with or
without a target, bare URLs, and single characters. Each token becomes one or two pieces, and adjacent
text pieces are merged into spans. A label that looks like a reference but names nothing is kept as text
and reported.
-/

namespace DocPages.Inline

open Text

/-! ## Tokens -/

inductive Token where
  | char (c : Char)
  /-- Code, without its quotes. -/
  | code (body : List Char)
  /-- A bracketed label, with the target in parentheses that follows it, if any. -/
  | bracket (label : List Char) (href : Option (List Char))
  | url (url : List Char)
deriving DecidableEq

/-- The characters of a token. -/
def Token.source : Token → List Char
  | .char c => [c]
  | .code body => '\x60' :: body ++ ['\x60']
  | .bracket label none => '[' :: label ++ [']']
  | .bracket label (some href) => '[' :: label ++ "](".toList ++ href ++ [')']
  | .url u => u

/-- A non-empty run of characters that satisfy `p`, and the rest after the `stop` that ends it. -/
def enclosed (p : Char → Bool) (stop : Char) (cs : List Char) : Option (List Char × List Char) :=
  match cs.takeWhile p, cs.dropWhile p with
  | [], _ | _, [] => none
  | body, c :: rest => if c = stop then some (body, rest) else none

def isLabelChar (c : Char) : Bool :=
  c != '[' && c != ']'

def isHrefChar (c : Char) : Bool :=
  c != '(' && c != ')' && !isBlank c

/-- The target in parentheses at the start of a text. -/
def href? : List Char → Option (List Char)
  | '(' :: cs => (enclosed isHrefChar ')' cs).map (·.1)
  | _ => none

def urlSchemes : List (List Char) :=
  ["https://".toList, "http://".toList, "ftp://".toList, "file://".toList]

def isUrlChar (c : Char) : Bool :=
  !isBlank c && c != '<' && c != '>' && c != '[' && c != ']'

/-- The URL at the start of a text: a known scheme and at least one character more. -/
def url? (cs : List Char) : Option (List Char) :=
  urlSchemes.findSome? fun scheme =>
    match dropFront? scheme cs with
    | none => none
    | some rest =>
      match rest.takeWhile isUrlChar with
      | [] => none
      | body => some (scheme ++ body)

/-- The token at the start of a text. -/
def token (c : Char) (cs : List Char) : Token :=
  match c with
  | '\x60' =>
    match enclosed (· != '\x60') '\x60' cs with
    | some (body, _) => .code body
    | none => .char c
  | '[' =>
    match enclosed isLabelChar ']' cs with
    | some (label, rest) => .bracket label (href? rest)
    | none => .char c
  | _ =>
    match url? (c :: cs) with
    | some url => .url url
    | none => .char c

/-- The tokens of a text after its first `skip` characters. -/
def tokensFrom : Nat → List Char → List Token
  | _, [] => []
  | skip + 1, _ :: cs => tokensFrom skip cs
  | 0, c :: cs =>
    let t := token c cs
    t :: tokensFrom (t.source.length - 1) cs

/-- The tokens of a text. -/
def tokens (cs : List Char) : List Token :=
  tokensFrom 0 cs

/-! ## Pieces -/

/-- What a token stands for. -/
inductive Piece where
  | text (cs : List Char)
  | raw (cs : List Char)
  | link (label : List Char) (url : String)
  | localLink (label : List Char) (anchor : String)
  | autolink (url : List Char)
  /-- A label that looks like a reference and names nothing. -/
  | unresolved (label : List Char)
deriving DecidableEq

/-- Link definitions of a comment: labels with their URLs. Of two definitions the first one counts. -/
abbrev Definitions := List (String × String)

/-- What a bracketed label stands for. -/
def resolveBracket (scope : Scope) (defs : Definitions) (label : List Char)
    (href : Option (List Char)) : Piece :=
  match href with
  | some href => .link label (String.ofList href)
  | none =>
    match defs.lookup (String.ofList label) with
    | some url => .link label url
    | none =>
      match Reference.externalUrl? scope label with
      | some url => .link label url
      | none =>
        if Reference.isReference label then
          match scope.symbols.resolve? (String.ofList label) with
          | some anchor => .localLink label anchor
          | none => .unresolved label
        else .text (Token.bracket label none).source

/-- The pieces of a token. Punctuation at the end of a bare URL is text after it. -/
def pieces (scope : Scope) (defs : Definitions) : Token → List Piece
  | .char c => [.text [c]]
  | .code body => [.raw (Token.code body).source]
  | .bracket label href => [resolveBracket scope defs label href]
  | .url url =>
    let link := trimUrl url
    [.autolink link, .text (url.drop link.length)]

/-! ## Spans -/

/-- Puts text in front of pieces, as part of a text piece that comes first. -/
def addText (cs : List Char) : List Piece → List Piece
  | .text t :: rest => .text (cs ++ t) :: rest
  | rest => if cs.isEmpty then rest else .text cs :: rest

/-- Merges adjacent text, unresolved labels included. -/
def merge : List Piece → List Piece
  | [] => []
  | .text cs :: rest => addText cs (merge rest)
  | .unresolved label :: rest => addText label (merge rest)
  | p :: rest => p :: merge rest

def Piece.toSpan : Piece → Span
  | .text cs | .unresolved cs => .text (String.ofList cs)
  | .raw cs => .raw (String.ofList cs)
  | .link label url => .link (String.ofList label) url
  | .localLink label anchor => .localLink (String.ofList label) anchor
  | .autolink url => .autolink (String.ofList url)

/-- The label that a piece reports. -/
def Piece.warning? : Piece → Option String
  | .unresolved label => some (String.ofList label)
  | _ => none

/-- The pieces of a text before they are merged. -/
def read (scope : Scope) (defs : Definitions) (cs : List Char) : List Piece :=
  (tokens cs).flatMap (pieces scope defs)

/-- The spans of a text. -/
def spans (scope : Scope) (defs : Definitions) (cs : List Char) : List Span :=
  (merge (read scope defs cs)).map Piece.toSpan

/-- The labels of a text that name nothing, in order. -/
def warnings (scope : Scope) (defs : Definitions) (cs : List Char) : List String :=
  (read scope defs cs).filterMap Piece.warning?

end DocPages.Inline
