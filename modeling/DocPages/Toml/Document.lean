import DocPages.Settings.Setting
import DocPages.Toml.Scalar

/-!
# TOML documents

A document is a sequence of lines, each of which sets a key of the current table or opens a table. A table
is written at most once: a header must not name a table that has one already, keys with points must not
reach into a table that was opened by a header, and nothing is added to a value.
-/

namespace DocPages.Toml

/-! ## Tables under construction -/

/-- How a table came to be: by its own header, on the way of another header, or on the way of a key with
points. -/
inductive Origin where
  | header
  | passed
  | dotted
deriving DecidableEq

/-- What a name stands for while a document is read: a finished value, a table or an array of tables,
whose last is the one that is added to. -/
inductive Item where
  | value (s : Setting)
  | table (origin : Origin) (entries : List (String × Item))
  | tables (elements : List (List (String × Item)))

abbrev Entries := List (String × Item)

namespace Entries

/-- Changes the table at a path, whose missing tables are made on the way. -/
def change (dotted : Bool) (f : Origin → Entries → Option Entries) :
    List String → Origin → Entries → Option Entries
  | [], origin, es => f origin es
  | name :: path, _, es =>
    match es.lookup name with
    | none => do
      let origin := if dotted then .dotted else .passed
      return SortedMap.put name (.table origin (← change dotted f path origin [])) es
    | some (.value _) => none
    | some (.table origin inner) =>
      if dotted && origin == .header then none
      else do
        return SortedMap.put name (.table origin (← change dotted f path origin inner)) es
    | some (.tables elements) => do
      let last ← elements.getLast?
      let last ← change dotted f path .header last
      return SortedMap.put name (.tables (elements.dropLast ++ [last])) es

/-- Adds a value under a name that is new in its table. -/
def addValue (dotted : Bool) (name : String) (s : Setting) (origin : Origin) (es : Entries) :
    Option Entries :=
  if (origin == .dotted) != dotted || (es.lookup name).isSome then none
  else some (SortedMap.put name (.value s) es)

/-- Sets the key `path.name` of the table at `current`. -/
def setKey (current path : List String) (name : String) (s : Setting) (es : Entries) :
    Option Entries :=
  change false
    (fun origin es => change true (addValue (!path.isEmpty) name s) path origin es)
    current .header es

/-- Opens the table `name` of the table at `path`. -/
def openTable (path : List String) (name : String) (es : Entries) : Option Entries :=
  change false
    (fun _ es =>
      match es.lookup name with
      | none => some (SortedMap.put name (.table .header []) es)
      | some (.table .passed inner) => some (SortedMap.put name (.table .header inner) es)
      | _ => none)
    path .header es

/-- Adds a table to the array `name` of the table at `path`. -/
def addTable (path : List String) (name : String) (es : Entries) : Option Entries :=
  change false
    (fun _ es =>
      match es.lookup name with
      | none => some (SortedMap.put name (.tables [[]]) es)
      | some (.tables elements) => some (SortedMap.put name (.tables (elements ++ [[]])) es)
      | _ => none)
    path .header es

end Entries

mutual

def Item.toSetting : Item → Setting
  | .value s => s
  | .table _ es => .table (Item.settings es)
  | .tables elements => .list (Item.tableSettings elements)

def Item.settings : List (String × Item) → List (String × Setting)
  | [] => []
  | (name, item) :: es => (name, item.toSetting) :: Item.settings es

def Item.tableSettings : List (List (String × Item)) → List Setting
  | [] => []
  | es :: rest => .table (Item.settings es) :: Item.tableSettings rest

end

/-! ## Keys -/

def isBareKeyChar (c : Char) : Bool :=
  c.isAlphanum || c == '_' || c == '-'

/-- A single name: bare, or a text on one line. -/
def name? : List Char → Option (String × List Char)
  | '"' :: cs => (basicText (cs.length + 1) cs).map fun (text, rest) => (String.ofList text, rest)
  | '\'' :: cs => (literalText cs).map fun (text, rest) => (String.ofList text, rest)
  | cs =>
    let name := cs.takeWhile isBareKeyChar
    if name.isEmpty then none else some (String.ofList name, cs.drop name.length)

/-- Names with points between them. -/
def names? : Nat → List Char → Option (List String × List Char)
  | 0, _ => none
  | fuel + 1, cs => do
    let (name, cs) ← name? (skipBlanks cs)
    match skipBlanks cs with
    | '.' :: cs =>
      let (names, rest) ← names? fuel cs
      return (name :: names, rest)
    | rest => return ([name], rest)

/-- A key: its last name and the names before it. -/
def key? (cs : List Char) : Option (List String × String × List Char) := do
  let (names, rest) ← names? (cs.length + 1) cs
  return (names.dropLast, ← names.getLast?, rest)

/-! ## Values -/

/-- A comment up to the end of its line. -/
def skipComment (cs : List Char) : List Char :=
  match cs with
  | '#' :: cs => cs.dropWhile isPlain
  | cs => cs

/-- Skips blanks, line breaks and comments. -/
def skipFiller : Nat → List Char → List Char
  | 0, cs => cs
  | fuel + 1, cs =>
    let cs := skipComment (skipBlanks cs)
    match newline? cs with
    | some rest => skipFiller fuel rest
    | none => cs

mutual

/-- A value at the start of a text. -/
def value? : Nat → List Char → Option (Setting × List Char)
  | 0, _ => none
  | fuel + 1, cs =>
    match cs with
    | '[' :: cs => (elements? fuel cs).map fun (xs, rest) => (.list xs, rest)
    | '\x7b' :: cs => do
      match skipBlanks cs with
      | '\x7d' :: rest => return (.table [], rest)
      | cs =>
        let (es, rest) ← pairs? fuel [] cs
        return (Item.toSetting (.table .header es), rest)
    | cs => (scalar? cs).map fun (text, rest) => (.scalar (String.ofList text), rest)

/-- The elements of an array, which may stand on several lines, up to its closing bracket. -/
def elements? : Nat → List Char → Option (List Setting × List Char)
  | 0, _ => none
  | fuel + 1, cs =>
    match skipFiller cs.length cs with
    | ']' :: rest => some ([], rest)
    | cs => do
      let (x, cs) ← value? fuel cs
      match skipFiller cs.length cs with
      | ',' :: rest =>
        let (xs, rest) ← elements? fuel rest
        return (x :: xs, rest)
      | ']' :: rest => return ([x], rest)
      | _ => none

/-- The pairs of a table in braces, which stands on one line. -/
def pairs? : Nat → Entries → List Char → Option (Entries × List Char)
  | 0, _, _ => none
  | fuel + 1, es, cs => do
    let (path, name, cs) ← key? cs
    let cs ← after? '=' cs
    let (s, cs) ← value? fuel (skipBlanks cs)
    let es ← es.setKey [] path name s
    match skipBlanks cs with
    | ',' :: rest => pairs? fuel es rest
    | '\x7d' :: rest => return (es, rest)
    | _ => none

end

/-! ## Lines -/

/-- The table that keys are added to, and all tables. -/
structure Document where
  current : List String := []
  root : Entries := []

/-- The end of a line, before which a comment may stand. -/
def endOfLine? (cs : List Char) : Option (List Char) :=
  match skipComment (skipBlanks cs) with
  | [] => some []
  | rest => newline? rest

/-- One line after its blanks. -/
def line? (d : Document) (cs : List Char) : Option (Document × List Char) := do
  match cs with
  | '[' :: '[' :: cs =>
    let (path, name, cs) ← key? cs
    let cs ← after? ']' (← after? ']' cs)
    return ({ current := path ++ [name], root := ← d.root.addTable path name }, cs)
  | '[' :: cs =>
    let (path, name, cs) ← key? cs
    let cs ← after? ']' cs
    return ({ current := path ++ [name], root := ← d.root.openTable path name }, cs)
  | cs =>
    if cs.isEmpty || cs.head? == some '#' || (newline? cs).isSome then return (d, cs)
    let (path, name, cs) ← key? cs
    let cs ← after? '=' cs
    let (s, cs) ← value? (2 * cs.length + 2) (skipBlanks cs)
    return ({ d with root := ← d.root.setKey d.current path name s }, cs)

def lines? : Nat → Document → List Char → Option Document
  | _, d, [] => some d
  | 0, _, _ => none
  | fuel + 1, d, cs => do
    let (d, cs) ← line? d (skipBlanks cs)
    lines? fuel d (← endOfLine? cs)

/-- A byte order mark at the start of a text does not count. -/
def dropMark : List Char → List Char
  | '\ufeff' :: cs => cs
  | cs => cs

/-- The table of a TOML text. Every line but the last takes a character. -/
def parse? (cs : List Char) : Option (List (String × Setting)) := do
  let cs := dropMark cs
  let d ← lines? (cs.length + 1) {} cs
  return Item.settings d.root

end DocPages.Toml
