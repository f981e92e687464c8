import DocPages.Dialect.Escape
import DocPages.Markdown.PlainText
import DocPages.Source.Scope
import DocPages.Text.Path
import DocPages.Text.Percent

/-!
# Markdown dialects

The pieces that pages are made of, as each of three dialects writes them. Pieces that are blocks carry their
own line breaks, so that they can be put one after another.
-/

namespace DocPages

open Text

/-- A dialect of Markdown. -/
inductive Dialect where
  | github
  | azureDevOps
  | plain
deriving DecidableEq

/-- Why a piece cannot be written. -/
inductive DialectError where
  | invalidHeaderLevel
  | notFound (name : String)
  | codeHref (path reason : String)
deriving DecidableEq

def DialectError.message : DialectError → String
  | .invalidHeaderLevel => "header level cannot be less than 1"
  | .notFound name => "format '" ++ name ++ "' not found"
  | .codeHref path reason => "unable to link to " ++ path ++ ": " ++ reason

namespace Dialect

def name : Dialect → String
  | github => "github"
  | azureDevOps => "azure-devops"
  | plain => "plain"

def description : Dialect → String
  | github => "GitHub Flavored Markdown"
  | azureDevOps => "Azure DevOps flavored markdown"
  | plain => "Plain markdown without extensions"

/-! ## Pieces that all dialects share -/

/-- Bold text, or nothing for no text. -/
def bold (text : String) : String :=
  if text.isEmpty then "" else "**" ++ escape text ++ "**"

/-- A paragraph of escaped text. -/
def paragraph (text : String) : String :=
  escape text ++ "\n\n"

/-- A header whose text is markup already. Levels above six are six. -/
def rawHeader (level : Nat) (text : String) : Except DialectError String :=
  if level < 1 then .error .invalidHeaderLevel
  else .ok ("".pushn '#' (min level 6) ++ " " ++ text ++ "\n\n")

/-- A header with escaped text. -/
def header (level : Nat) (text : String) : Except DialectError String :=
  rawHeader level (escape text)

/-- A link. Without text there is nothing to show, and without a target only the text. -/
def link (text href : String) : String :=
  if text.isEmpty then ""
  else if href.isEmpty then text
  else "[" ++ text ++ "](<" ++ href ++ ">)"

/-- An entry of a list at some depth. -/
def listEntry (depth : Nat) (text : String) : String :=
  if text.isEmpty then "" else "".pushn ' ' (2 * depth) ++ "- " ++ text ++ "\n"

/-- A code block of lines that start with a tab. -/
def indentedCode (code : String) : String :=
  String.ofList (joinLines ((lines code.toList).map ('\t' :: ·))) ++ "\n\n"

/-- A code block between fences, tagged with its language. -/
def fencedCode (language code : String) : String :=
  "\x60\x60\x60" ++ language ++ "\n" ++ onChars trim code ++ "\n\x60\x60\x60\n\n"

def htmlAnchor (anchor : String) : String :=
  "<a name=\"" ++ anchor ++ "\"></a>"

def detailsHeader (title : String) : String :=
  "<details><summary>" ++ title ++ "</summary>\n<p>\n\n"

def detailsTerminator : String :=
  "</p>\n</details>\n\n"

/-! ## Pieces that differ -/

/-- The target of links to an anchor. -/
def anchor : Dialect → String → String
  | plain, _ => ""
  | _, a => htmlAnchor a

/-- A header whose text is markup already, with an anchor. -/
def rawAnchorHeader (d : Dialect) (level : Nat) (text anchor : String) :
    Except DialectError String :=
  match d with
  | plain => rawHeader level text
  | _ => rawHeader level (htmlAnchor anchor ++ " " ++ text)

/-- A header with escaped text and an anchor. -/
def anchorHeader (d : Dialect) (level : Nat) (text anchor : String) :
    Except DialectError String :=
  d.rawAnchorHeader level (escape text) anchor

/-- A code block. Plain Markdown cannot name the language. -/
def codeBlock : Dialect → String → String → String
  | plain, _, code => indentedCode code
  | _, language, code => fencedCode language code

/-- The start of a section that can be folded away. -/
def accordionHeader : Dialect → String → Except DialectError String
  | plain, title => rawHeader 6 title
  | _, title => .ok (detailsHeader title)

/-- The end of a section that can be folded away. -/
def accordionTerminator : Dialect → String
  | plain => ""
  | _ => detailsTerminator

/-- A section that can be folded away, with an escaped body. -/
def accordion : Dialect → String → String → Except DialectError String
  | plain, title, body => do return (← rawHeader 6 title) ++ paragraph body
  | _, title, body => .ok (detailsHeader title ++ escape body ++ detailsTerminator)

/-! ## Links into the page -/

/-- White space becomes hyphens. -/
def hyphenate (cs : List Char) : List Char :=
  cs.map fun c => if isBlank c then '-' else c

def isSlugChar (c : Char) : Bool :=
  isLetter c || isDecimalDigit c || c == '-' || c == '_'

/-- The identifier of a header: the letters, digits, hyphens and underscores of what a reader sees. -/
def slug (text : List Char) : List Char :=
  (hyphenate (trim (lowercase (Markdown.plainText text)))).filter isSlugChar

/-- Characters that stand for themselves in a path segment. -/
def isSegmentChar (c : Char) : Bool :=
  c.isAlphanum || "-_.~$&+:=@".toList.contains c

/-- The identifier of a header, with all other characters encoded. -/
def encodedSlug (text : List Char) : List Char :=
  percentEncode (fun c => isSegmentChar c && c != ':') (hyphenate (trim (lowercase text)))

/-- The target of links to a header of the page. -/
def localHref (d : Dialect) (headerText : String) : String :=
  match d with
  | github => "#" ++ onChars slug headerText
  | azureDevOps => "#" ++ onChars encodedSlug headerText
  | plain => ""

/-- The target of links to an anchor of the page. -/
def rawLocalHref (d : Dialect) (anchor : String) : String :=
  match d with
  | plain => ""
  | _ => "#" ++ anchor

/-! ## Links to source -/

/-- The path of a file from the root of its repository. -/
def repoPath (l : Location) (r : Repo) : Except DialectError String :=
  let file := l.filepath.toList
  let root := components r.pathFromRoot.toList
  let full : Option (List Component) :=
    if isAbsolute file then
      (relativePath file l.workDir.toList).map fun (absolute, cs) =>
        if absolute then cs else root ++ cs
    else some (root ++ components file)
  match full with
  | none => .error (.codeHref l.filepath ("not reachable from " ++ l.workDir))
  | some cs =>
    match resolveComponents [] cs with
    | some names => .ok (String.ofList (['/'].intercalate names))
    | none => .error (.codeHref l.filepath "outside of the repository")

/-- The range of lines of a location. -/
def lineRange (l : Location) : String :=
  if l.start.line = l.stop.line then "L" ++ Nat.repr l.start.line
  else "L" ++ Nat.repr l.start.line ++ "-L" ++ Nat.repr l.stop.line

/-- The address of a location in its repository; empty without a repository. -/
def codeHref (d : Dialect) (l : Location) : Except DialectError String :=
  match d, l.repo with
  | plain, _ | _, none => .ok ""
  | github, some r => do
    let path ← repoPath l r
    return r.remote ++ "/blob/" ++ r.defaultBranch ++ "/" ++ path ++ "#" ++ lineRange l
  | azureDevOps, some r => do
    let path ← repoPath l r
    return r.remote ++ "?path=" ++ onChars (percentEncode isSegmentChar) path
      ++ "&version=GB" ++ r.defaultBranch ++ "&lineStyle=plain&line=" ++ Nat.repr l.start.line
      ++ "&lineEnd=" ++ Nat.repr l.stop.line ++ "&lineStartColumn=" ++ Nat.repr l.start.col
      ++ "&lineEndColumn=" ++ Nat.repr l.stop.col

/-! ## Choosing a dialect -/

/-- Every dialect. -/
def all : List Dialect :=
  [github, azureDevOps, plain]

end Dialect

/-- The dialects that can be chosen. -/
structure Registry where
  dialects : List Dialect := []

namespace Registry

/-- Makes a dialect available. -/
def register (r : Registry) (d : Dialect) : Registry :=
  if r.dialects.contains d then r else ⟨r.dialects ++ [d]⟩

/-- The registry of all dialects. -/
def standard : Registry :=
  Dialect.all.foldl register {}

def get (r : Registry) (name : String) : Except DialectError Dialect :=
  match r.dialects.find? (·.name == name) with
  | some d => .ok d
  | none => .error (.notFound name)

def has (r : Registry) (name : String) : Bool :=
  r.dialects.any (·.name == name)

/-- The names of all dialects in order. -/
def names (r : Registry) : List String :=
  (r.dialects.map Dialect.name).mergeSort (· ≤ ·)

end Registry

end DocPages
