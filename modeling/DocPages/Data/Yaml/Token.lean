import DocPages.Data.Yaml.Scalar

/-!
# Tokens of a YAML text

A text is cut into tokens from left to right. Where a collection starts and ends is seen from columns:
the scanner keeps the columns of the open block collections and adds a token for each start and end. A
key is recognised only at the colon after it, so the scanner remembers where a key could have started,
and puts the tokens for a key, and for the mapping that it opens, in front of it.
-/

namespace DocPages.Yaml

inductive ScalarStyle where
  | plain
  | quoted
  | literal
  | folded
deriving BEq

inductive Token where
  | version (major minor : Nat)
  | tagDirective (handle tag : String)
  | documentStart
  | documentEnd
  | blockSequence
  | blockMapping
  | blockEnd
  | blockEntry
  | flowSequence
  | flowSequenceEnd
  | flowMapping
  | flowMappingEnd
  | flowEntry
  | key
  | value
  | alias (name : String)
  | anchor (name : String)
  | tag (handle suffix : String)
  | scalar (text : String) (style : ScalarStyle)
deriving BEq

/-- A place where a key can start. It is required when nothing but a key can stand there. -/
structure KeyStart where
  token : Nat
  required : Bool
  index : Nat
  line : Nat
  column : Nat

structure Scanner where
  cursor : Cursor
  tokens : Array Token := #[]
  /-- The columns of the open block collections, innermost first. -/
  columns : List Nat := []
  keyAllowed : Bool := true
  /-- The possible start of a key outside of brackets and within each open bracket, innermost first. -/
  keys : List (Option KeyStart) := [none]

namespace Scanner

def inFlow (s : Scanner) : Bool :=
  Nat.blt 1 s.keys.length

/-- The least column of what belongs to the innermost block collection. -/
def innerColumn (s : Scanner) : Nat :=
  s.columns.head?.elim 0 (· + 1)

def push (s : Scanner) (t : Token) : Scanner :=
  { s with tokens := s.tokens.push t }

/-- Adds a token and moves over its `n` characters. -/
def take (s : Scanner) (n : Nat) (t : Token) : Scanner :=
  { s.push t with cursor := s.cursor.skip n }

def allowKey (s : Scanner) (allowed : Bool) : Scanner :=
  { s with keyAllowed := allowed }

/-- Opens a block collection at a column that is right of the innermost one. Its token goes before the
one at `place`. -/
def openBlock (s : Scanner) (column place : Nat) (t : Token) : Scanner :=
  if !s.inFlow && s.columns.head?.all (· < column) then
    { s with
      columns := column :: s.columns
      tokens := (s.tokens.extract 0 place).push t ++ s.tokens.extract place s.tokens.size }
  else s

/-- Closes the block collections for which `isOpen` does not hold. -/
def closeBlocks (s : Scanner) (isOpen : Nat → Bool) : Scanner :=
  if s.inFlow then s
  else
    let closed := s.columns.takeWhile (!isOpen ·)
    { s with
      columns := s.columns.drop closed.length
      tokens := s.tokens ++ (closed.map fun _ => Token.blockEnd).toArray }

/-! ## Possible keys -/

/-- A key ends on its line, within 1024 characters. A required one must not be given up. -/
def dropStaleKeys (s : Scanner) : Option Scanner := do
  let keys ← s.keys.mapM fun
    | none => some none
    | some k =>
      if k.line < s.cursor.line || k.index + 1024 < s.cursor.index then
        if k.required then none else some none
      else some (some k)
  return { s with keys }

/-- No key starts at the innermost possible place. -/
def dropKey (s : Scanner) : Option Scanner :=
  match s.keys with
  | some k :: ks => if k.required then none else some { s with keys := none :: ks }
  | _ => some s

/-- A key may start here. -/
def saveKey (s : Scanner) : Option Scanner :=
  if s.keyAllowed then do
    let s ← s.dropKey
    let k : KeyStart :=
      { token := s.tokens.size
        required := !s.inFlow && s.columns.head? == some s.cursor.column
        index := s.cursor.index
        line := s.cursor.line
        column := s.cursor.column }
    return { s with keys := some k :: s.keys.drop 1 }
  else some s

/-! ## Between tokens -/

/-- Skips blanks, comments and line breaks. Outside of brackets a tab cannot stand where a key could
start, and a key can start on every new line. -/
def skipGaps : Nat → Scanner → Option Scanner
  | 0, _ => none
  | fuel + 1, s =>
    let c := s.cursor
    let c := if c.index == 0 && c.next? == some '\ufeff' then c.skip 1 else c
    let c := c.skipWhile fun d => d == ' ' || (d == '\t' && (s.inFlow || !s.keyAllowed))
    let c := if c.next? == some '#' then c.skipWhile (!isBreak ·) else c
    match c.takeBreak? with
    | some (_, c) => skipGaps fuel { s with cursor := c, keyAllowed := s.keyAllowed || !s.inFlow }
    | none => some { s with cursor := c }

/-! ## Directives, anchors and tags -/

/-- A number of a version. -/
def versionNumber (c : Cursor) : Option (Nat × Cursor) := do
  let (digits, c) := c.takeWhile Char.isDigit
  guard (digits.length ≤ 9)
  return (← Data.digits? 10 digits, c)

/-- The handle of a tag: an exclamation mark, or a name between two. -/
def handle (inDirective : Bool) (c : Cursor) : Option (String × Cursor) := do
  guard (c.next? == some '!')
  let (name, c) := (c.skip 1).takeWhile isNameChar
  if c.next? == some '!' then return (String.ofList ('!' :: name ++ ['!']), c.skip 1)
  guard (!inDirective || name.isEmpty)
  return (String.ofList ('!' :: name), c)

def isTagChar (wide : Bool) (c : Char) : Bool :=
  isNameChar c || ";/?:@&=+$.!~*'()".toList.contains c || (wide && ",[]".toList.contains c)

/-- The octet of an escape in a tag. -/
def octet? : List Char → Option (Nat × List Char)
  | '%' :: a :: b :: cs => (Data.digits? 16 [a, b]).map (·, cs)
  | _ => none

/-- Octets that continue a character. -/
def moreOctets : Nat → Nat → List Char → Option (Nat × List Char)
  | 0, n, cs => some (n, cs)
  | k + 1, n, cs => do
    let (o, cs) ← octet? cs
    guard (o / 64 == 2)
    moreOctets k (n * 64 + o % 64) cs

/-- A character of a tag that is written as escaped octets. -/
def escapedChar? (cs : List Char) : Option (Char × List Char) := do
  let (o, cs) ← octet? cs
  let (n, cs) ←
    if o < 0x80 then some (o, cs)
    else if o / 32 == 6 then moreOctets 1 (o % 32) cs
    else if o / 16 == 14 then moreOctets 2 (o % 16) cs
    else if o / 8 == 30 then moreOctets 3 (o % 8) cs
    else none
  return (Char.ofNat n, cs)

/-- The characters of a tag. Inside of brackets and commas only where the tag is `wide`. -/
def tagChars (wide : Bool) : Nat → List Char → Option (List Char × List Char)
  | 0, _ => none
  | fuel + 1, cs =>
    match cs with
    | '%' :: _ => do
      let (c, cs) ← escapedChar? cs
      let (run, rest) ← tagChars wide fuel cs
      return (c :: run, rest)
    | c :: cs' =>
      if isTagChar wide c then (tagChars wide fuel cs').map fun (run, rest) => (c :: run, rest)
      else some ([], cs)
    | [] => some ([], [])

def tagText (wide : Bool) (c : Cursor) : Option (String × Cursor) :=
  (tagChars wide c.fuel c.rest).map fun (run, rest) => (String.ofList run, c.skipTo rest)

def directive (c : Cursor) : Option (Token × Cursor) := do
  let (name, c) := (c.skip 1).takeWhile isNameChar
  guard (endsWord c.rest)
  let c := c.skipWhile isBlank
  let (t, c) ← match String.ofList name with
    | "YAML" => do
      let (major, c) ← versionNumber c
      guard (c.next? == some '.')
      let (minor, c) ← versionNumber (c.skip 1)
      pure (Token.version major minor, c)
    | "TAG" => do
      let (handle, c) ← handle true c
      guard (c.next?.any isBlank)
      let (tag, c) ← tagText true (c.skipWhile isBlank)
      guard (!tag.isEmpty && endsWord c.rest)
      pure (Token.tagDirective handle tag, c)
    | _ => none
  return (t, ← restOfLine c)

/-- The name of an anchor or an alias after its mark. -/
def anchorName (c : Cursor) : Option (String × Cursor) := do
  let (name, c) := (c.skip 1).takeWhile isNameChar
  guard (!name.isEmpty)
  guard (endsWord c.rest || c.next?.any fun d => "?:,]\x7d%@\x60".toList.contains d)
  return (String.ofList name, c)

/-- A tag: verbatim between `<` and `>`, with a handle, or after a single exclamation mark. -/
def tag (flow : Bool) (c : Cursor) : Option (Token × Cursor) := do
  let (t, c) ←
    if (c.skip 1).next? == some '<' then do
      let (text, c) ← tagText true (c.skip 2)
      guard (!text.isEmpty && c.next? == some '>')
      pure (Token.tag "" text, c.skip 1)
    else do
      let (h, c) ← handle false c
      let (text, c) ← tagText false c
      if Nat.blt 1 h.length && h.endsWith "!" then do
        guard (!text.isEmpty)
        pure (Token.tag h text, c)
      else
        let suffix := String.ofList (h.toList.drop 1) ++ text
        pure (if suffix.isEmpty then Token.tag "" "!" else Token.tag "!" suffix, c)
  guard (endsWord c.rest || (flow && c.next? == some ','))
  return (t, c)

/-! ## Tokens -/

/-- An entry of a block sequence or an explicit key opens its collection where it stands. -/
def blockIndicator (s : Scanner) (collection t : Token) : Option Scanner := do
  guard (s.inFlow || s.keyAllowed)
  let s := s.openBlock s.cursor.column s.tokens.size collection
  let s ← s.dropKey
  return (s.allowKey (!s.inFlow || t == .blockEntry)).take 1 t

/-- The colon of a mapping. It makes a key of what starts at the possible place before it. -/
def valueIndicator (s : Scanner) : Option Scanner :=
  match s.keys with
  | some k :: ks =>
    let s := { s with
      tokens := (s.tokens.extract 0 k.token).push .key ++ s.tokens.extract k.token s.tokens.size
      keys := none :: ks }
    some (((s.openBlock k.column k.token .blockMapping).allowKey false).take 1 .value)
  | _ => do
    guard (s.inFlow || s.keyAllowed)
    let s := s.openBlock s.cursor.column s.tokens.size .blockMapping
    return (s.allowKey (!s.inFlow)).take 1 .value

def openFlow (s : Scanner) (t : Token) : Option Scanner := do
  let s ← s.saveKey
  return ({ s with keys := none :: s.keys, keyAllowed := true }).take 1 t

def closeFlow (s : Scanner) (t : Token) : Option Scanner := do
  let s ← s.dropKey
  let keys := if s.inFlow then s.keys.drop 1 else s.keys
  return ({ s with keys, keyAllowed := false }).take 1 t

/-- A token that a key may start with. -/
def keyToken (s : Scanner) (t : Cursor → Option (Token × Cursor)) : Option Scanner := do
  let s ← s.saveKey
  let (t, c) ← t s.cursor
  return { (s.allowKey false).push t with cursor := c }

/-- A token at the start of a line that ends every block. -/
def topToken (s : Scanner) (t : Cursor → Option (Token × Cursor)) : Option Scanner := do
  let s ← (s.closeBlocks fun _ => false).dropKey
  let (t, c) ← t s.cursor
  return { (s.allowKey false).push t with cursor := c }

/-- Characters that cannot start a plain scalar. -/
def isIndicator (c : Char) : Bool :=
  "-?:,[]\x7b\x7d#&*!|>'\"%@\x60".toList.contains c

/-- The token at the cursor, which is not at the end. -/
def token (s : Scanner) (first : Char) : Option Scanner :=
  let c := s.cursor
  let flow := s.inFlow
  let wordEnds := endsWord (c.rest.drop 1)
  let quoted (double : Bool) : Option Scanner :=
    s.keyToken fun c => (quotedScalar double (c.skip 1)).map fun (cs, c) =>
      (.scalar (String.ofList cs) .quoted, c)
  let block (literal : Bool) : Option Scanner := do
    let s ← s.dropKey
    let (cs, c) ← blockScalar literal s.columns.head? (s.cursor.skip 1)
    let t := Token.scalar (String.ofList cs) (if literal then .literal else .folded)
    return { (s.allowKey true).push t with cursor := c }
  if c.column == 0 && first == '%' then s.topToken directive
  else if c.isAtMarker "---" then s.topToken fun c => some (.documentStart, c.skip 3)
  else if c.isAtMarker "..." then s.topToken fun c => some (.documentEnd, c.skip 3)
  else if first == '[' then s.openFlow .flowSequence
  else if first == '\x7b' then s.openFlow .flowMapping
  else if first == ']' then s.closeFlow .flowSequenceEnd
  else if first == '\x7d' then s.closeFlow .flowMappingEnd
  else if first == ',' then s.dropKey.map fun s => (s.allowKey true).take 1 .flowEntry
  else if first == '-' && wordEnds then s.blockIndicator .blockSequence .blockEntry
  else if first == '?' && (flow || wordEnds) then s.blockIndicator .blockMapping .key
  else if first == ':' && (flow || wordEnds) then s.valueIndicator
  else if first == '*' then s.keyToken fun c => (anchorName c).map fun (n, c) => (.alias n, c)
  else if first == '&' then s.keyToken fun c => (anchorName c).map fun (n, c) => (.anchor n, c)
  else if first == '!' then s.keyToken (tag flow)
  else if first == '|' && !flow then block true
  else if first == '>' && !flow then block false
  else if first == '\'' then quoted false
  else if first == '"' then quoted true
  else if !(isGap first || isIndicator first) || (first == '-' && !wordEnds)
      || (!flow && (first == '?' || first == ':')) then do
    let s ← s.saveKey
    let (cs, broken, c) ← plainScalar flow s.innerColumn s.cursor
    return { (s.allowKey broken).push (.scalar (String.ofList cs) .plain) with cursor := c }
  else none

def run : Nat → Scanner → Option Scanner
  | 0, _ => none
  | fuel + 1, s => do
    let s ← skipGaps s.cursor.fuel s
    let s ← s.dropStaleKeys
    let s := s.closeBlocks (· ≤ s.cursor.column)
    match s.cursor.next? with
    | none => (s.closeBlocks fun _ => false).dropKey
    | some first => run fuel (← s.token first)

end Scanner

/-- The tokens of a text. Every token but those that open or close a block takes a character. -/
def tokens? (text : String) : Option (List Token) := do
  let cs := text.toList
  guard (cs.all isAllowed)
  let s ← Scanner.run (cs.length + 1) { cursor := { rest := cs } }
  return s.tokens.toList

end DocPages.Yaml
