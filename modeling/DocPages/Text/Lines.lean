import DocPages.Text.Blank

/-!
# Lines and white space

Texts are lists of characters while they are taken apart and strings where they are kept. Lines are
the pieces between line feeds, so a text has one line more than it has line feeds and
`joinLines ∘ lines` gives it back.
-/

namespace DocPages.Text

/-- Lifts a function on characters to strings. -/
def onChars (f : List Char → List Char) (s : String) : String :=
  String.ofList (f s.toList)

@[simp]
theorem toList_onChars (f : List Char → List Char) (s : String) :
    (onChars f s).toList = f s.toList := by
  simp [onChars]

/-! ## Splitting and joining -/

/-- The pieces of a text between the characters that satisfy `p`. -/
def splitBy (p : Char → Bool) : List Char → List (List Char)
  | [] => [[]]
  | c :: cs =>
    if p c then [] :: splitBy p cs
    else match splitBy p cs with
      | [] => [[c]]
      | piece :: pieces => (c :: piece) :: pieces

theorem splitBy_ne_nil (p : Char → Bool) (cs : List Char) : splitBy p cs ≠ [] := by
  cases cs with
  | nil => simp [splitBy]
  | cons c cs =>
    by_cases h : p c
    · simp [splitBy, h]
    · simp only [splitBy, h]
      cases splitBy p cs <;> simp

/-- The lines of a text. -/
def lines (cs : List Char) : List (List Char) :=
  splitBy (· == '\n') cs

/-- Lines put back together with line feeds between them. -/
def joinLines (ls : List (List Char)) : List Char :=
  ['\n'].intercalate ls

/-- Pieces put together with a space between them. -/
def joinWords (ws : List (List Char)) : List Char :=
  [' '].intercalate ws

/-- Every carriage return that stands before a line feed is dropped. -/
def unixNewlines : List Char → List Char
  | '\r' :: '\n' :: cs => '\n' :: unixNewlines cs
  | c :: cs => c :: unixNewlines cs
  | [] => []

/-! ## Trimming -/

/-- Drops the white space at the start. -/
def trimStart (cs : List Char) : List Char :=
  cs.dropWhile isBlank

/-- Drops the characters at the end that satisfy `p`. -/
def dropEndWhile (p : Char → Bool) (cs : List Char) : List Char :=
  (cs.reverse.dropWhile p).reverse

/-- Drops the white space at the end. -/
def trimEnd (cs : List Char) : List Char :=
  dropEndWhile isBlank cs

/-- Drops the white space at both ends. -/
def trim (cs : List Char) : List Char :=
  trimEnd (trimStart cs)

/-- A line of white space only, or of nothing. -/
def isBlankLine (cs : List Char) : Bool :=
  cs.all isBlank

/-- Every run of white space becomes one space. -/
def collapseBlanks : List Char → List Char
  | [] => []
  | c :: cs =>
    if isBlank c then
      if (cs.head?.map isBlank).getD false then collapseBlanks cs else ' ' :: collapseBlanks cs
    else c :: collapseBlanks cs

/-- The items up to and including the last one that satisfies `p`. -/
def takeToLast {α : Type} (p : α → Bool) (xs : List α) : List α :=
  (xs.reverse.dropWhile fun x => !p x).reverse

/-! ## Searching -/

/-- What follows `front`, if the text starts with it. -/
def dropFront? : List Char → List Char → Option (List Char)
  | [], cs => some cs
  | _ :: _, [] => none
  | p :: ps, c :: cs => if p = c then dropFront? ps cs else none

/-- The parts before and after the first `sep`. -/
def splitOnce (sep : Char) : List Char → Option (List Char × List Char)
  | [] => none
  | c :: cs =>
    if c = sep then some ([], cs)
    else (splitOnce sep cs).map fun (before, after) => (c :: before, after)

/-- The parts before and after the last `sep`. -/
def splitLast (sep : Char) (cs : List Char) : Option (List Char × List Char) :=
  (splitOnce sep cs.reverse).map fun (after, before) => (before.reverse, after.reverse)

/-- Indents every line but the first by `n` spaces. Empty lines stay empty. -/
def hangingIndent (n : Nat) (cs : List Char) : List Char :=
  match lines cs with
  | [] => []
  | first :: rest =>
    joinLines (first :: rest.map fun l => if l.isEmpty then l else List.replicate n ' ' ++ l)

end DocPages.Text
