/-!
# Structured data

The common form of what is read from JSON and YAML: scalars, lists and maps. A plain scalar is one whose
meaning depends on the field that reads it, so that `12` is a text for one field and a number for another.
Readers return nothing where the data does not fit.
-/

namespace DocPages

inductive Data where
  | null
  | bool (b : Bool)
  | int (n : Int)
  /-- A number that is no machine integer. -/
  | number
  | text (s : String)
  /-- What no field can read, such as a text with half of a surrogate pair. -/
  | unreadable
  /-- An undecided scalar, and whether it is known not to be null. -/
  | plain (s : String) (nonNull : Bool)
  | list (items : List Data)
  | map (entries : List (Data × Data))
deriving Inhabited

namespace Data

/-- The number of values that a position can take. -/
def wordSize : Nat := Nat.pow 2 64

/-- The digits of an unsigned number in a base up to 16. -/
def digits? (base : Nat) (cs : List Char) : Option Nat :=
  if cs.isEmpty then none
  else cs.foldlM (fun n c =>
    let d :=
      if c.isDigit then c.toNat - 48
      else if 'a' ≤ c ∧ c ≤ 'f' then c.toNat - 87
      else if 'A' ≤ c ∧ c ≤ 'F' then c.toNat - 55
      else base
    if d < base then some (n * base + d) else none) 0

/-- An unsigned number written as a plain scalar: decimal without leading zeros, or with one of the
signs `0x`, `0o` and `0b` of another base. -/
def plainNat? (s : String) : Option Nat :=
  let unsigned := match s.toList with
    | '+' :: cs => if cs.head? == some '+' || cs.head? == some '-' then [] else cs
    | cs => cs
  let n := match unsigned with
    | '0' :: 'x' :: cs => digits? 16 cs
    | '0' :: 'o' :: cs => digits? 8 cs
    | '0' :: 'b' :: cs => digits? 2 cs
    | '0' :: _ :: _ => none
    | cs => digits? 10 cs
  n.filter (· < wordSize)

def isPlainNull (s : String) : Bool :=
  s == "" || s == "~" || s == "null" || s == "Null" || s == "NULL"

def text? : Data → Option String
  | text s | plain s _ => some s
  | _ => none

def nat? : Data → Option Nat
  | int n => if 0 ≤ n ∧ n < wordSize then some n.toNat else none
  | plain s _ => plainNat? s
  | _ => none

def isNull : Data → Bool
  | null => true
  | plain s nonNull => !nonNull && isPlainNull s
  | _ => false

/-- A value that may be null. -/
def optional? {α : Type} (read : Data → Option α) (d : Data) : Option (Option α) :=
  if d.isNull then some none else (read d).map some

/-- A list. A plain scalar without characters is an empty one. -/
def list? {α : Type} (read : Data → Option α) : Data → Option (List α)
  | list items => items.mapM read
  | plain s _ => if s.isEmpty then some [] else none
  | _ => none

/-- The entries of a map with text keys. -/
def entries? : Data → Option (List (String × Data))
  | map entries => entries.mapM fun (k, v) => k.text?.map (·, v)
  | plain s _ => if s.isEmpty then some [] else none
  | _ => none

/-- The value of a field that is given at most once. -/
def field? (entries : List (String × Data)) (name : String) : Option (Option Data) :=
  match entries.filter (·.1 == name) with
  | [] => some none
  | [(_, v)] => some (some v)
  | _ => none

/-- The values of a record's fields in the order of `names`. Entries of other names are ignored. Where
records may be `positional` they can be written as a list of their first fields. -/
def fields? (positional : Bool) (names : List String) (d : Data) : Option (List (Option Data)) :=
  match positional, d with
  | true, list items =>
    if items.length ≤ names.length then
      some (items.map some ++ List.replicate (names.length - items.length) none)
    else none
  | _, _ => d.entries?.bind fun entries => names.mapM (field? entries)

/-- A list with fewer than `n` items. -/
def isShortList (n : Nat) : Data → Bool
  | list items => Nat.blt items.length n
  | _ => false

/-- A field that has a default. -/
def orDefault {α : Type} (default : α) (read : Data → Option α) : Option Data → Option α
  | none => some default
  | some d => read d

/-- A field that must be given. -/
def required {α : Type} (read : Data → Option α) : Option Data → Option α
  | none => none
  | some d => read d

end Data

end DocPages
