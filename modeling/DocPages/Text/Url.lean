import DocPages.Text.Lines

/-!
# URLs in running text

A URL found in running text loses the punctuation of the sentence around it: trailing marks, and
closing brackets that it does not open itself.
-/

namespace DocPages.Text

/-- Marks that end a sentence or a quotation rather than a URL. -/
def urlTrailing : List Char :=
  ['.', ',', ':', ';', '!', '?', '\'', '"']

/-- Whether a URL should not end with `last`: it is a mark, or a closing bracket that outnumbers its
counterpart in the URL. -/
def isBadEnd (url : List Char) (last : Char) : Bool :=
  urlTrailing.contains last
    || (last == ')' && Nat.blt (url.count '(') (url.count ')'))
    || (last == ']' && Nat.blt (url.count '[') (url.count ']'))

/-- Trims a URL that is given last character first. -/
def dropBadEnd : List Char → List Char
  | [] => []
  | c :: cs => if isBadEnd (c :: cs) c then dropBadEnd cs else c :: cs

/-- Drops last characters as long as the URL should not end with them. -/
def trimUrl (url : List Char) : List Char :=
  (dropBadEnd url.reverse).reverse

end DocPages.Text
