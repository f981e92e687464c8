import DocPages.Text.Lines
import DocPages.Text.Casing

/-!
# Words of a compound name

A name written in capitals and small letters is split where a capital starts a word: after a small
letter, or before one. Runs of capitals stay together, so an acronym is one word.
-/

namespace DocPages.Text

/-- Spaces out the end of a name in one pass that writes one character behind: `previous` is read and
not written yet, and `written` counts the characters of its word that are. A capital starts a word when
a small letter precedes it, or when it stands inside of a word and no capital follows it. -/
def spaceWords (previous : Char) (written : Nat) : List Char → List Char
  | [] => [previous]
  | c :: cs =>
    if previous.isUpper && !c.isUpper && Nat.blt 0 written then
      ' ' :: previous :: spaceWords c 1 cs
    else if !previous.isUpper && c.isUpper then
      previous :: ' ' :: spaceWords c 0 cs
    else
      previous :: spaceWords c (written + 1) cs

/-- The words of a compound name, separated by spaces, the first one with a capital. -/
def splitCamelChars : List Char → List Char
  | [] => []
  | c :: cs => spaceWords ((upperChar c).headD c) 0 cs

@[inherit_doc splitCamelChars]
def splitCamel (name : String) : String :=
  onChars splitCamelChars name

end DocPages.Text
