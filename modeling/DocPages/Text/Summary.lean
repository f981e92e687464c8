import DocPages.Text.Lines
import DocPages.Text.Casing
import DocPages.Text.Numeral

/-!
# The summary of a doc comment

The summary is the first sentence of the first paragraph, written on one line and closed by a
period. A period before a space ends the sentence, unless it follows an initial: a capital letter
that stands alone.
-/

namespace DocPages.Text

/-- The part of a text before its first empty line. -/
def firstParagraph : List Char → List Char
  | '\n' :: '\n' :: _ => []
  | c :: cs => c :: firstParagraph cs
  | [] => []

/-- Whether a period preceded by `before`, last character first, belongs to an initial. -/
def isInitial (before : List Char) : Bool :=
  match before with
  | [] => false
  | [c] => isUppercase c
  | c :: d :: _ => isUppercase c && !isAlphanumeric d

/-- The first sentence of what follows `seen`, the characters read so far, last first. -/
def sentenceAfter (seen : List Char) : List Char → List Char
  | [] => []
  | c :: cs =>
    match c, seen with
    | ' ', '.' :: before =>
      if isInitial before then c :: sentenceAfter (c :: seen) cs else []
    | _, _ => c :: sentenceAfter (c :: seen) cs

/-- Closes a non-empty sentence by a period. A NUL character counts as no character. -/
def closeSentence (cs : List Char) : List Char :=
  match cs.getLast? with
  | none => cs
  | some c => if c = '.' ∨ c.toNat = 0 then cs else cs ++ ['.']

/-- The first sentence of a doc comment, on one line and ending in a period. -/
def summaryChars (doc : List Char) : List Char :=
  let paragraph := firstParagraph (trim (unixNewlines doc))
  closeSentence (sentenceAfter [] (joinWords ((lines paragraph).map trim)))

@[inherit_doc summaryChars]
def summary (doc : String) : String :=
  onChars summaryChars doc

end DocPages.Text
