import DocPages.Text.Url
import DocPages.Text.WordChar

/-!
# Escaping

A backslash in front of a metacharacter makes it text. URLs in running text are left as they are, so that
they can still be followed.
-/

namespace DocPages.Dialect

open Text

/-- Characters that have a meaning in Markdown. -/
def metacharacters : List Char :=
  "\\\x60*_\x7b\x7d[]()<>#+-.!~".toList

def isMeta (c : Char) : Bool :=
  metacharacters.contains c

def escapeChar (c : Char) : List Char :=
  if isMeta c then ['\\', c] else [c]

/-- Escapes every metacharacter. -/
def escapeRaw (cs : List Char) : List Char :=
  cs.flatMap escapeChar

/-- Drops the backslash in front of every metacharacter. -/
def unescape : List Char → List Char
  | '\\' :: c :: cs => if isMeta c then c :: unescape cs else '\\' :: unescape (c :: cs)
  | c :: cs => c :: unescape cs
  | [] => []

/-! ## URLs -/

def isSchemeChar (c : Char) : Bool :=
  c.isAlphanum || c == '+' || c == '.' || c == '-'

/-- A character of a URL behind its scheme. -/
def isUrlBody (c : Char) : Bool :=
  !isBlank c && c != '<' && c != '>' && c != '"' && c != '\x60'

/-- A scheme or other start, followed by at least one character of a URL. -/
def urlAfter? (start : List Char) (rest : Option (List Char)) : Option (List Char) :=
  match rest with
  | none => none
  | some rest =>
    match rest.takeWhile isUrlBody with
    | [] => none
    | body => some (start ++ body)

/-- The URL that starts here, not yet trimmed. It starts a word, and it has a scheme with `://` or is a
mail address. -/
def urlAt? (prev : Option Char) (cs : List Char) : Option (List Char) :=
  if (prev.map isWordChar).getD false || !(cs.head?.map Char.isAlpha).getD false then none
  else
    let scheme := cs.takeWhile isSchemeChar
    let rest := cs.drop scheme.length
    match urlAfter? (scheme ++ "://".toList) (dropFront? "://".toList rest) with
    | some url => some url
    | none => urlAfter? "mailto:".toList (dropFront? "mailto:".toList cs)

/-- Escapes what follows `prev`. The first `keep` characters belong to a URL and stay as they are, and no
URL starts among the first `found` ones. -/
def escapeFrom : Option Char → Nat → Nat → List Char → List Char
  | _, _, _, [] => []
  | _, keep + 1, found, c :: cs => c :: escapeFrom (some c) keep (found - 1) cs
  | _, 0, found + 1, c :: cs => escapeChar c ++ escapeFrom (some c) 0 found cs
  | prev, 0, 0, c :: cs =>
    match urlAt? prev (c :: cs) with
    | some url => c :: escapeFrom (some c) ((trimUrl url).length - 1) (url.length - 1) cs
    | none => escapeChar c ++ escapeFrom (some c) 0 0 cs

/-- Escapes metacharacters outside of URLs. -/
def escapeChars (cs : List Char) : List Char :=
  escapeFrom none 0 0 cs

@[inherit_doc escapeChars]
def escape (text : String) : String :=
  onChars escapeChars text

end DocPages.Dialect
