import DocPages.Data.Yaml.Token

/-!
# YAML documents

Builds the data of a document from its tokens. What an anchor names can be used again through its
aliases. A text holds at most one document; a text without one holds an empty value.
-/

namespace DocPages.Yaml

/-- A place in the tokens, with the values of the anchors that came before and the tags that handles
stand for. -/
structure Composer where
  tokens : List Token
  anchors : List (String × Data) := []
  handles : List (String × String)

abbrev Compose := StateT Composer Option

namespace Compose

def next? : Compose (Option Token) :=
  return (← get).tokens.head?

def skip : Compose Unit :=
  modify fun s => { s with tokens := s.tokens.drop 1 }

/-- Skips a token if it is next. -/
def skipIf (t : Token) : Compose Bool := do
  if (← next?) == some t then
    skip
    return true
  else return false

/-- A value that is left out. -/
def empty : Data :=
  .plain "" false

/-! ## Properties of a node -/

structure Properties where
  anchor : Option String := none
  tag : Option String := none

/-- The tag that a handle and a suffix stand for. -/
def tagOf (handle suffix : String) : Compose String := do
  if handle.isEmpty then return suffix
  match (← get).handles.lookup handle with
  | some stem => return stem ++ suffix
  | none => failure

/-- An anchor and a tag, in either order. -/
def properties : Compose Properties := do
  match ← next? with
  | some (.anchor name) => do
    skip
    match ← next? with
    | some (.tag handle suffix) => do
      skip
      return { anchor := name, tag := ← tagOf handle suffix }
    | _ => return { anchor := name }
  | some (.tag handle suffix) => do
    skip
    let name ← match ← next? with
      | some (.anchor name) => do
        skip
        pure (some name)
      | _ => pure none
    return { anchor := name, tag := ← tagOf handle suffix }
  | _ => return {}

/-- The value of a scalar. Only plain scalars, and literal ones that are tagged as integers, are
undecided, and a plain scalar with a tag other than the null tag is not null. -/
def scalarData (text : String) (style : ScalarStyle) (tag : Option String) : Data :=
  match style with
  | .plain => .plain text (tag.any (· != "tag:yaml.org,2002:null"))
  | .literal => if tag == some "tag:yaml.org,2002:int" then .plain text true else .text text
  | _ => .text text

/-! ## Nodes -/

mutual

/-- A node. Outside of brackets it may be a block collection, and as part of a mapping a sequence whose
entries are not indented. -/
def node (block unindented : Bool) : Nat → Compose Data
  | 0 => failure
  | fuel + 1 => do
    match ← next? with
    | some (.alias name) =>
      skip
      match (← get).anchors.lookup name with
      | some d => return d
      | none => failure
    | _ =>
      let p ← properties
      match p.anchor with
      | some name => modify fun s => { s with anchors := (name, .unreadable) :: s.anchors }
      | none => pure ()
      let d ← content block unindented p fuel
      match p.anchor with
      | some name => modify fun s => { s with anchors := (name, d) :: s.anchors }
      | none => pure ()
      return d

/-- A node after its properties. It may be left out if it has any. -/
def content (block unindented : Bool) (p : Properties) : Nat → Compose Data
  | 0 => failure
  | fuel + 1 => do
    match ← next? with
    | some (.scalar text style) =>
      skip
      return scalarData text style p.tag
    | some .flowSequence =>
      skip
      return .list (← flowItems true fuel)
    | some .flowMapping =>
      skip
      return .map (← flowEntries true fuel)
    | t =>
      if unindented && t == some .blockEntry then return .list (← unindentedItems fuel)
      else if block && t == some .blockSequence then
        skip
        return .list (← blockItems fuel)
      else if block && t == some .blockMapping then
        skip
        return .map (← blockEntries fuel)
      else if p.anchor.isSome || p.tag.isSome then return empty
      else failure

/-- A node that may be left out before one of some tokens. -/
def nodeBefore (ends : List Token) (block unindented : Bool) : Nat → Compose Data
  | 0 => failure
  | fuel + 1 => do
    if (← next?).any ends.contains then return empty
    else node block unindented fuel

/-- The items of a block sequence up to its end. -/
def blockItems : Nat → Compose (List Data)
  | 0 => failure
  | fuel + 1 => do
    if ← skipIf .blockEntry then
      let d ← nodeBefore [.blockEntry, .blockEnd] true false fuel
      return d :: (← blockItems fuel)
    else if ← skipIf .blockEnd then return []
    else failure

/-- The items of a sequence whose entries stand in the column of the mapping around it. -/
def unindentedItems : Nat → Compose (List Data)
  | 0 => failure
  | fuel + 1 => do
    if ← skipIf .blockEntry then
      let d ← nodeBefore [.blockEntry, .key, .value, .blockEnd] true false fuel
      return d :: (← unindentedItems fuel)
    else return []

/-- The entries of a block mapping up to its end. -/
def blockEntries : Nat → Compose (List (Data × Data))
  | 0 => failure
  | fuel + 1 => do
    let ends := [.key, .value, .blockEnd]
    if ← skipIf .key then
      let k ← nodeBefore ends true true fuel
      let v ← if ← skipIf .value then nodeBefore ends true true fuel else pure empty
      return (k, v) :: (← blockEntries fuel)
    else if ← skipIf .blockEnd then return []
    else failure

/-- The items of a sequence in brackets. An item with a colon is a mapping of one entry. -/
def flowItems (first : Bool) : Nat → Compose (List Data)
  | 0 => failure
  | fuel + 1 => do
    if ← skipIf .flowSequenceEnd then return []
    if !first then
      guard (← skipIf .flowEntry)
    if ← skipIf .flowSequenceEnd then return []
    if ← skipIf .key then
      let k ←
        if (← next?).any [Token.value, .flowEntry, .flowSequenceEnd].contains then do
          skip
          pure empty
        else node false false fuel
      let v ←
        if ← skipIf .value then nodeBefore [.flowEntry, .flowSequenceEnd] false false fuel
        else pure empty
      return .map [(k, v)] :: (← flowItems false fuel)
    else
      let d ← node false false fuel
      return d :: (← flowItems false fuel)

/-- The entries of a mapping in braces. -/
def flowEntries (first : Bool) : Nat → Compose (List (Data × Data))
  | 0 => failure
  | fuel + 1 => do
    if ← skipIf .flowMappingEnd then return []
    if !first then
      guard (← skipIf .flowEntry)
    if ← skipIf .flowMappingEnd then return []
    if ← skipIf .key then
      let k ← nodeBefore [.value, .flowEntry, .flowMappingEnd] false false fuel
      let v ←
        if ← skipIf .value then nodeBefore [.flowEntry, .flowMappingEnd] false false fuel
        else pure empty
      return (k, v) :: (← flowEntries false fuel)
    else
      let k ← node false false fuel
      return (k, empty) :: (← flowEntries false fuel)

end

/-! ## Documents -/

/-- The directives before a document. The version is given at most once, and so is every handle. -/
def directives (versioned : Bool) : Nat → Compose Bool
  | 0 => failure
  | fuel + 1 => do
    match ← next? with
    | some (.version major minor) =>
      guard (!versioned && major == 1 && (minor == 1 || minor == 2))
      skip
      let _ ← directives true fuel
      return true
    | some (.tagDirective handle tag) =>
      let s ← get
      guard (s.handles.lookup handle).isNone
      set { s with tokens := s.tokens.drop 1, handles := (handle, tag) :: s.handles }
      let _ ← directives versioned fuel
      return true
    | _ => return versioned

/-- The handles that every document has, unless a directive says otherwise. -/
def standardHandles : List (String × String) :=
  [("!", "!"), ("!!", "tag:yaml.org,2002:")]

/-- The only document. Without a start marker it follows no directives. -/
def document (fuel : Nat) : Compose Data := do
  let hasDirectives ← directives false fuel
  modify fun s => { s with handles := s.handles ++ standardHandles }
  let d ←
    if ← skipIf .documentStart then
      if (← get).tokens.isEmpty || (← next?) == some .documentEnd then pure empty
      else node true false fuel
    else if hasDirectives then failure
    else if (← get).tokens.isEmpty then pure empty
    else node true false fuel
  modify fun s => { s with tokens := s.tokens.dropWhile (· == .documentEnd) }
  guard (← get).tokens.isEmpty
  return d

end Compose

/-- The data of a YAML text. -/
def parse? (text : String) : Option Data := do
  let tokens ← tokens? text
  let (d, _) ← (Compose.document (4 * tokens.length + 4)).run { tokens, handles := [] }
  return d

end DocPages.Yaml
