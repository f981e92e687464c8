/-!
# Spans

The pieces of a line of running text: plain text, code kept as written, links and bare URLs.
-/

namespace DocPages

/-- A run of inline text. -/
inductive Span where
  /-- Text to be shown as it is. -/
  | text (text : String)
  /-- Code, with its quotes. -/
  | raw (text : String)
  | link (text url : String)
  /-- A link to a section of the same page, given by its anchor. -/
  | localLink (text anchor : String)
  /-- A URL that is its own text. -/
  | autolink (url : String)
deriving DecidableEq

namespace Span

/-- The text that a reader sees. -/
def display : Span → String
  | text t | raw t | link t _ | localLink t _ | autolink t => t

/-- The target of a link; empty for text and code. -/
def target : Span → String
  | text _ | raw _ => ""
  | link _ u | localLink _ u | autolink u => u

/-- The word for the kind of a span that templates compare with. -/
def kindName : Span → String
  | text _ => "text"
  | raw _ => "rawText"
  | link _ _ => "link"
  | localLink _ _ => "localLink"
  | autolink _ => "autolink"

end Span

end DocPages
