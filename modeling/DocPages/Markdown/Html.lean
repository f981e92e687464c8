import DocPages.Text.Lines

/-!
# HTML in running text

Readers of tags, comments and other HTML constructs. Each takes the text from the construct's first
character on and returns what follows the construct.
-/

namespace DocPages.Markdown

open Text

def isHtmlSpace (c : Char) : Bool :=
  c == ' ' || c == '\t' || c == '\n' || c == '\r' || c == '\x0c'

def isAttributeStart (c : Char) : Bool :=
  c.isAlpha || c == '_' || c == ':'

def isAttributePart (c : Char) : Bool :=
  c.isAlphanum || c == '_' || c == '.' || c == ':' || c == '-'

def isUnquoted (c : Char) : Bool :=
  !isHtmlSpace c && c != '"' && c != '\'' && c != '=' && c != '<' && c != '>' && c != '\x60'

/-- The name of a tag and what follows it. -/
def tagName? : List Char → Option (List Char × List Char)
  | c :: cs =>
    if c.isAlpha then
      let part (c : Char) := c.isAlphanum || c == '-'
      some (c :: cs.takeWhile part, cs.dropWhile part)
    else none
  | [] => none

/-- What follows the next `stop`. -/
def pastChar? (stop : Char) (cs : List Char) : Option (List Char) :=
  (splitOnce stop cs).map (·.2)

/-- What follows the next occurrence of a text. -/
def pastText? (stop : List Char) : List Char → Option (List Char)
  | [] => if stop.isEmpty then some [] else none
  | c :: cs =>
    match dropFront? stop (c :: cs) with
    | some rest => some rest
    | none => pastText? stop cs

/-- What follows the value of an attribute. -/
def attributeValue? : List Char → Option (List Char)
  | '"' :: cs => pastChar? '"' cs
  | '\'' :: cs => pastChar? '\'' cs
  | cs => if (cs.takeWhile isUnquoted).isEmpty then none else some (cs.dropWhile isUnquoted)

/-- What follows an attribute and the white space before it. -/
def attribute? (cs : List Char) : Option (List Char) :=
  match cs.takeWhile isHtmlSpace, cs.dropWhile isHtmlSpace with
  | _ :: _, c :: rest =>
    if isAttributeStart c then
      let rest := rest.dropWhile isAttributePart
      match rest.dropWhile isHtmlSpace with
      | '=' :: value => attributeValue? (value.dropWhile isHtmlSpace)
      | _ => some rest
    else none
  | _, _ => none

/-- What follows at most `fuel` attributes. -/
def attributes : Nat → List Char → List Char
  | 0, cs => cs
  | fuel + 1, cs =>
    match attribute? cs with
    | some rest => attributes fuel rest
    | none => cs

/-- An opening tag. -/
def openTag? : List Char → Option (List Char)
  | '<' :: cs =>
    match tagName? cs with
    | none => none
    | some (_, rest) =>
      match (attributes rest.length rest).dropWhile isHtmlSpace with
      | '>' :: rest => some rest
      | '/' :: '>' :: rest => some rest
      | _ => none
  | _ => none

/-- A closing tag. -/
def closeTag? : List Char → Option (List Char)
  | '<' :: '/' :: cs =>
    match tagName? cs with
    | none => none
    | some (_, rest) =>
      match rest.dropWhile isHtmlSpace with
      | '>' :: rest => some rest
      | _ => none
  | _ => none

/-- A tag, comment, instruction, declaration or character data section. -/
def html? (cs : List Char) : Option (List Char) :=
  match cs with
  | '<' :: '!' :: '-' :: '-' :: rest =>
    match rest with
    | '>' :: rest => some rest
    | '-' :: '>' :: rest => some rest
    | rest => pastText? "-->".toList rest
  | '<' :: '?' :: rest => pastText? "?>".toList rest
  | '<' :: '!' :: '[' :: rest =>
    match dropFront? "CDATA[".toList rest with
    | some rest => pastText? "]]>".toList rest
    | none => none
  | '<' :: '!' :: c :: rest => if c.isAlpha then pastChar? '>' rest else none
  | '<' :: '/' :: _ => closeTag? cs
  | _ => openTag? cs

/-! ## Addresses in angle brackets -/

def isSchemeChar (c : Char) : Bool :=
  c.isAlphanum || c == '+' || c == '.' || c == '-'

/-- An address with a scheme, and what follows its closing bracket. -/
def uriAutolink? : List Char → Option (List Char × List Char)
  | '<' :: c :: cs =>
    let scheme := cs.takeWhile isSchemeChar
    match cs.dropWhile isSchemeChar with
    | ':' :: rest =>
      let part (c : Char) := Nat.blt 32 c.toNat && c != '<' && c != '>' && c.toNat != 127
      match rest.dropWhile part with
      | '>' :: after =>
        if c.isAlpha && Nat.ble 1 scheme.length && Nat.ble scheme.length 31 then
          some (c :: scheme ++ ':' :: rest.takeWhile part, after)
        else none
      | _ => none
    | _ => none
  | _ => none

/-- A label of a host name: letters, digits and inner hyphens. -/
def isHostLabel (cs : List Char) : Bool :=
  !cs.isEmpty && Nat.ble cs.length 63 && cs.all (fun c => c.isAlphanum || c == '-')
    && cs.head? != some '-' && cs.getLast? != some '-'

def isMailChar (c : Char) : Bool :=
  c.isAlphanum || ".!#$%&'*+/=?^_\x60\x7b|\x7d~-".toList.contains c

/-- A mail address, and what follows its closing bracket. -/
def mailAutolink? : List Char → Option (List Char × List Char)
  | '<' :: cs =>
    match splitOnce '>' cs with
    | some (address, after) =>
      match splitOnce '@' address with
      | some (user, host) =>
        if !user.isEmpty && user.all isMailChar && (splitBy (· == '.') host).all isHostLabel then
          some (address, after)
        else none
      | none => none
    | none => none
  | _ => none

/-- An address in angle brackets, and what follows it. -/
def autolink? (cs : List Char) : Option (List Char × List Char) :=
  match uriAutolink? cs with
  | some found => some found
  | none => mailAutolink? cs

/-! ## Blocks -/

/-- Where a block of HTML ends: after a line that holds one of some texts, or before a blank line. -/
inductive HtmlEnd where
  | texts (stops : List String)
  | blankLine

def lowerAscii (cs : List Char) : List Char :=
  cs.map Char.toLower

/-- Elements whose content is kept as it is. -/
def rawElements : List String :=
  ["script", "pre", "style", "textarea"]

/-- Elements that start a block. -/
def blockElements : List String :=
  ["address", "article", "aside", "base", "basefont", "blockquote", "body", "caption", "center",
   "col", "colgroup", "dd", "details", "dialog", "dir", "div", "dl", "dt", "fieldset", "figcaption",
   "figure", "footer", "form", "frame", "frameset", "h1", "h2", "h3", "h4", "h5", "h6", "head",
   "header", "hr", "html", "iframe", "legend", "li", "link", "main", "menu", "menuitem", "nav",
   "noframes", "ol", "optgroup", "option", "p", "param", "search", "section", "summary", "table",
   "tbody", "td", "tfoot", "th", "thead", "title", "tr", "track", "ul"]

/-- Whether the name of a tag ends here. -/
def endsTagName : List Char → Bool
  | [] => true
  | '/' :: '>' :: _ => true
  | c :: _ => c == ' ' || c == '\t' || c == '>'

/-- The kind of HTML block that a line starts, given from its first character on. A lone tag of another
element does not interrupt a paragraph. -/
def htmlBlock? (inParagraph : Bool) (cs : List Char) : Option HtmlEnd :=
  match cs with
  | '<' :: '!' :: '-' :: '-' :: _ => some (.texts ["-->"])
  | '<' :: '?' :: _ => some (.texts ["?>"])
  | '<' :: '!' :: '[' :: rest =>
    if (dropFront? "CDATA[".toList rest).isSome then some (.texts ["]]>"]) else none
  | '<' :: '!' :: c :: _ => if c.isAlpha then some (.texts [">"]) else none
  | '<' :: rest =>
    let name := tagName? (if rest.head? == some '/' then rest.drop 1 else rest)
    let isClosing := rest.head? == some '/'
    let lower := (name.map fun (n, _) => String.ofList (lowerAscii n)).getD ""
    let after := (name.map (·.2)).getD []
    if !isClosing && rawElements.contains lower
        && (after.isEmpty || (after.head?.map fun c => c == ' ' || c == '\t' || c == '>').getD false) then
      some (.texts (rawElements.map fun e => "</" ++ e ++ ">"))
    else if blockElements.contains lower && endsTagName after then some .blankLine
    else if inParagraph || rawElements.contains lower then none
    else
      match if isClosing then closeTag? cs else openTag? cs with
      | some rest => if rest.all isBlank then some .blankLine else none
      | none => none
  | _ => none

/-- Whether a line ends a block of HTML. -/
def holdsText (stops : List String) (line : List Char) : Bool :=
  stops.any fun s => (pastText? s.toList (lowerAscii line)).isSome

end DocPages.Markdown
