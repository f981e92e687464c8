import DocPages.Data.Value
import DocPages.Settings.Setting

/-!
# Keys of settings

A key is the path of a setting as a text: names with points between them, each of which may be followed
by indices in brackets, as in `repository.url` and `hosts[0].url`.
-/

namespace DocPages.Setting

/-- The characters of names in keys. -/
def isKeyChar (c : Char) : Bool :=
  c.isAlphanum || c == '_' || c == '-' || c == ' '

/-- A name at the start of a text. -/
def keyName (cs : List Char) : Option (String × List Char) :=
  let name := cs.takeWhile isKeyChar
  if name.isEmpty then none else some (String.ofList name, cs.drop name.length)

/-- An index and its closing bracket. -/
def keyIndex (cs : List Char) : Option (Int × List Char) :=
  let negative := cs.head? == some '-'
  let cs := if negative then cs.drop 1 else cs
  let ds := cs.takeWhile Char.isDigit
  match Data.digits? 10 ds, cs.drop ds.length with
  | some n, ']' :: rest => some (if negative then -(Int.ofNat n) else Int.ofNat n, rest)
  | _, _ => none

/-- The steps of a key after its first name. -/
def keySteps : Nat → List Char → Option Path
  | _, [] => some []
  | 0, _ => none
  | fuel + 1, '.' :: cs => do
    let (name, rest) ← keyName cs
    return .entry name :: (← keySteps fuel rest)
  | fuel + 1, '[' :: cs => do
    let (index, rest) ← keyIndex cs
    return .item index :: (← keySteps fuel rest)
  | _, _ => none

/-- The path of a key. -/
def pathOfKey? (key : String) : Option Path := do
  let (name, rest) ← keyName key.toList
  return .entry name :: (← keySteps rest.length rest)

end DocPages.Setting
