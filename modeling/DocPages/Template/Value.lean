import DocPages.Data.Value
import DocPages.Data.SortedMap

/-!
# Template values

What template expressions compute with. Maps are kept in the order of their keys. An undefined value
prints as nothing and counts as false; a missing attribute is undefined.
-/

namespace DocPages.Template

inductive Value where
  | undefined
  | none
  | bool (b : Bool)
  | int (n : Int)
  /-- A number with `scale` decimal places: `units / 10 ^ scale`. -/
  | decimal (units : Int) (scale : Nat)
  | str (s : String)
  | list (items : List Value)
  | map (entries : List (String × Value))
  /-- A function or macro, by name. -/
  | callable (name : String)
deriving Inhabited

namespace Value

/-! ## Numbers -/

/-- A decimal number without trailing zeros in its decimal places, of which it keeps at least one. -/
def trimZeros : Nat → Int → Int × Nat
  | scale + 1, units =>
    if units % 10 = 0 ∧ 0 < scale then trimZeros scale (units / 10) else (units, scale + 1)
  | 0, units => (units * 10, 1)

/-- The text of a decimal number. -/
def decimalText (units : Int) (scale : Nat) : String :=
  let (units, scale) := trimZeros scale units
  let digits := Nat.repr units.natAbs
  let padded := "".pushn '0' (scale + 1 - digits.length) ++ digits
  let split := padded.length - scale
  (if units < 0 then "-" else "") ++ (padded.take split).toString ++ "." ++ (padded.drop split).toString

/-- The integer that a value stands for as an argument. -/
def int? : Value → Option Int
  | bool b => some (if b then 1 else 0)
  | int n => some n
  | decimal units scale =>
    let unit := Int.ofNat (Nat.pow 10 scale)
    if units % unit = 0 then some (units / unit) else Option.none
  | _ => Option.none

/-- A number as units of `10 ^ -scale`, for comparisons. -/
def number? : Value → Option (Int × Nat)
  | bool b => some (if b then 1 else 0, 0)
  | int n => some (n, 0)
  | decimal units scale => some (units, scale)
  | _ => Option.none

/-! ## Printing -/

/-- A text in quotes, as it is shown inside of a list or map. -/
def quoted (s : String) : String :=
  "\"" ++ String.join (s.toList.map fun c =>
    if c = '"' then "\\\"" else if c = '\\' then "\\\\" else if c = '\n' then "\\n"
    else if c = '\t' then "\\t" else if c = '\r' then "\\r" else c.toString) ++ "\""

mutual

/-- The form of a value inside of a list or map. -/
def nestedText : Value → String
  | undefined => "undefined"
  | none => "None"
  | bool b => if b then "True" else "False"
  | int n => toString n
  | decimal units scale => decimalText units scale
  | str s => quoted s
  | list items => "[" ++ ", ".intercalate (nestedTexts items) ++ "]"
  | map entries => "\x7b" ++ ", ".intercalate (entryTexts entries) ++ "\x7d"
  | callable name => name

def nestedTexts : List Value → List String
  | [] => []
  | v :: vs => nestedText v :: nestedTexts vs

def entryTexts : List (String × Value) → List String
  | [] => []
  | (k, v) :: rest => (quoted k ++ ": " ++ nestedText v) :: entryTexts rest

end

/-- The printed form of a value. -/
def print : Value → String
  | undefined => ""
  | str s => s
  | v => nestedText v

/-! ## Access -/

/-- Whether a condition holds. -/
def isTrue : Value → Bool
  | undefined | none => false
  | bool b => b
  | int n => n != 0
  | decimal units _ => units != 0
  | str s => !s.isEmpty
  | list items => !items.isEmpty
  | map entries => !entries.isEmpty
  | callable _ => true

def isUndefined : Value → Bool
  | undefined => true
  | _ => false

/-- The entry of a map under a name; undefined if there is none. -/
def attr (v : Value) (name : String) : Value :=
  match v with
  | map entries => (entries.lookup name).getD undefined
  | _ => undefined

/-- The item at a position, counted from the end if negative. -/
def itemAt {α : Type} (items : List α) (i : Int) : Option α :=
  if 0 ≤ i then items[i.toNat]?
  else if (-i).toNat ≤ items.length then items[items.length - (-i).toNat]?
  else Option.none

/-- The item of a list, the character of a text or the entry of a map; undefined if there is none. -/
def item (v key : Value) : Value :=
  match v, key with
  | list items, key => ((key.int?).bind (itemAt items)).getD undefined
  | str s, key => (((key.int?).bind (itemAt s.toList)).map fun c => str c.toString).getD undefined
  | map entries, str k => (entries.lookup k).getD undefined
  | _, _ => undefined

/-- The number of characters, items or entries. -/
def length? : Value → Option Nat
  | str s => some s.length
  | list items => some items.length
  | map entries => some entries.length
  | _ => Option.none

/-- What a loop over a value visits: items, characters or keys. Nothing is visited for a missing
value. -/
def items? : Value → Option (List Value)
  | undefined | none => some []
  | str s => some (s.toList.map fun c => str c.toString)
  | list items => some items
  | map entries => some (entries.map fun (k, _) => str k)
  | _ => Option.none

mutual

/-- Equality of values; numbers are equal if they stand for the same quantity. -/
def eq : Value → Value → Bool
  | undefined, undefined => true
  | none, none => true
  | str a, str b => a == b
  | list xs, list ys => eqAll xs ys
  | map xs, map ys => eqEntries xs ys
  | callable a, callable b => a == b
  | a, b =>
    match a.number?, b.number? with
    | some (x, i), some (y, j) => x * Int.ofNat (Nat.pow 10 j) == y * Int.ofNat (Nat.pow 10 i)
    | _, _ => false

def eqAll : List Value → List Value → Bool
  | [], [] => true
  | x :: xs, y :: ys => eq x y && eqAll xs ys
  | _, _ => false

def eqEntries : List (String × Value) → List (String × Value) → Bool
  | [], [] => true
  | (k, x) :: xs, (l, y) :: ys => k == l && eq x y && eqEntries xs ys
  | _, _ => false

end

mutual

/-- Nesting of lists and maps. -/
def depth : Value → Nat
  | list items => 1 + depthAll items
  | map entries => 1 + depthEntries entries
  | _ => 0

def depthAll : List Value → Nat
  | [] => 0
  | v :: vs => max (depth v) (depthAll vs)

def depthEntries : List (String × Value) → Nat
  | [] => 0
  | (_, v) :: rest => max (depth v) (depthEntries rest)

end

/-- A map with the given entries. -/
def ofEntries (entries : List (String × Value)) : Value :=
  map (SortedMap.ofEntries entries)

/-! ## Data -/

mutual

/-- A value as data for a reader. -/
def toData : Value → Data
  | undefined | none => .null
  | bool b => .bool b
  | int n => .int n
  | decimal _ _ | callable _ => .number
  | str s => .text s
  | list items => .list (toDataAll items)
  | map entries => .map (toDataEntries entries)

def toDataAll : List Value → List Data
  | [] => []
  | v :: vs => toData v :: toDataAll vs

def toDataEntries : List (String × Value) → List (Data × Data)
  | [] => []
  | (k, v) :: rest => (.text k, toData v) :: toDataEntries rest

end

end Value

end DocPages.Template
