import DocPages.Text.Lines
import DocPages.Text.Numeral

/-!
# Runs of indented lines

A run of indented lines is a list if it starts with a list marker, and code otherwise. The lines of a run
lose their common indentation. An item of a list starts at a marker that is indented no further than the
first one; the lines below it lose as much white space as the marker takes up.
-/

namespace DocPages.Comment

open Text

abbrev Line := List Char

/-- A tab or two spaces at the start. -/
def isIndented : Line → Bool
  | '\t' :: _ => true
  | ' ' :: ' ' :: _ => true
  | _ => false

/-- Number of white space characters at the start. -/
def indentation (l : Line) : Nat :=
  (l.takeWhile isBlank).length

/-- Drops at most `n` white space characters at the start. -/
def stripIndent : Nat → Line → Line
  | n + 1, c :: cs => if isBlank c then stripIndent n cs else c :: cs
  | _, l => l

/-! ## Markers -/

/-- A list marker: its number, if it has one, and its length including the white space after it. -/
structure Marker where
  number : Option Nat
  width : Nat
deriving DecidableEq

def isBullet (c : Char) : Bool :=
  c == '-' || c == '*' || c == '+' || c == '•'

/-- The most digits of an item number. -/
def maxDigits : Nat := 9

/-- The value of a sequence of ASCII digits. -/
def digitsValue? (cs : List Char) : Option Nat :=
  if cs.all Char.isDigit then some (cs.foldl (fun n c => n * 10 + (c.toNat - '0'.toNat)) 0)
  else none

/-- The length of the spaces and tabs after a marker. There are some unless the line ends. -/
def markerGap? : Line → Option Nat
  | [] => some 0
  | cs =>
    match (cs.takeWhile fun c => c == ' ' || c == '\t').length with
    | 0 => none
    | n => some n

/-- The number of an ordered item: one to nine digits before `.` or `)`, with a positive value. -/
def orderedNumber? (digits : List Char) (close : Option Char) : Option Nat :=
  if digits.isEmpty || !Nat.ble digits.length maxDigits || (close != some '.' && close != some ')')
  then none
  else (digitsValue? digits).filter (0 < ·)

/-- The marker at the start of a line that has no indentation. -/
def marker? : Line → Option Marker
  | [] => none
  | c :: cs =>
    if isBullet c then (markerGap? cs).map fun gap => ⟨none, 1 + gap⟩
    else
      let digits := (c :: cs).takeWhile isDecimalDigit
      let rest := (c :: cs).drop digits.length
      match orderedNumber? digits rest.head?, markerGap? rest.tail with
      | some number, some gap => some ⟨some number, digits.length + 1 + gap⟩
      | _, _ => none

/-- An indented line that starts an item. -/
def isItemLine (l : Line) : Bool :=
  isIndented l && (marker? (trimStart l)).isSome

/-! ## Code -/

/-- The least indentation of the lines that are not blank. -/
def commonIndent (run : List Line) : Nat :=
  (((run.filter (!isBlankLine ·)).map indentation).min?).getD 0

/-- The lines of a run without their common indentation; blank ones are empty. -/
def dedent (run : List Line) : List Line :=
  let n := commonIndent run
  run.map fun l => if isBlankLine l then [] else stripIndent n l

/-- The text of a code block. -/
def codeText (run : List Line) : String :=
  String.ofList (joinLines (dedent run))

/-! ## Lists -/

/-- An item before its lines are parsed. -/
structure RawItem where
  number : Option Nat
  lines : List Line
deriving DecidableEq

/-- A list before its items are parsed. -/
structure RawList where
  blankBetween : Bool
  items : List RawItem
deriving DecidableEq

/-- The marker of a line that starts an item of a list whose first marker is indented by `base`. -/
def itemMarker? (base : Nat) (l : Line) : Option Marker :=
  if Nat.ble (indentation l) base then marker? (trimStart l) else none

/-- The lines below an item up to the next item, without `col` white space characters at the start,
and the lines from the next item on. -/
def itemLines (base col : Nat) : List Line → List Line × List Line
  | [] => ([], [])
  | l :: ls =>
    if (itemMarker? base l).isSome then ([], l :: ls)
    else
      let (own, rest) := itemLines base col ls
      (stripIndent col l :: own, rest)

/-- The items of a list, each up to its last line that is not empty. The lines that an item takes are
skipped on the way to the next one. -/
def itemsFrom (base : Nat) : Nat → List Line → List RawItem
  | _, [] => []
  | skip + 1, _ :: ls => itemsFrom base skip ls
  | 0, l :: ls =>
    match itemMarker? base l with
    | none => itemsFrom base 0 ls
    | some m =>
      let text := trimStart l
      let own := (itemLines base (indentation l + m.width) ls).1
      ⟨m.number, takeToLast (!·.isEmpty) (text.drop m.width :: own)⟩
        :: itemsFrom base own.length ls

/-- Whether an empty line stands before an item that is not the first. -/
def hasBlankBetween (base : Nat) : List Line → Bool
  | [] => false
  | l :: ls =>
    (l.isEmpty && (ls.head?.map fun next => (itemMarker? base next).isSome).getD false)
      || hasBlankBetween base ls

/-- The list that a run of lines holds. -/
def rawList (run : List Line) : RawList :=
  let ls := dedent run
  let base := (ls.head?.map indentation).getD 0
  ⟨hasBlankBetween base (ls.drop 1), itemsFrom base 0 ls⟩

end DocPages.Comment
