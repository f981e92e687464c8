import DocPages.Comment.ListRun
import DocPages.Comment.Inline

/-!
# Link definitions

A paragraph made of lines `[label]: url` only is no text: it defines the targets of labels anywhere in
the comment.
-/

namespace DocPages.Comment

open Text

/-- The label and URL that a line defines. -/
def definition? (l : Line) : Option (String × String) :=
  match trim l with
  | '[' :: cs =>
    match Inline.enclosed Inline.isLabelChar ']' cs with
    | some (label, ':' :: rest) =>
      let url := rest.dropWhile fun c => c == ' ' || c == '\t'
      if url.length < rest.length && !url.isEmpty && url.all (!isBlank ·) then
        some (String.ofList label, String.ofList url)
      else none
    | _ => none
  | _ => none

/-- The definitions of a paragraph, if all of its lines are definitions and the first is not
indented. -/
def definitions? (paragraph : List Line) : Option Inline.Definitions :=
  match paragraph with
  | [] => none
  | first :: _ => if isIndented first then none else paragraph.mapM definition?

/-- Takes the paragraphs of definitions out of the lines from the first one after `skip`. -/
def extractFrom : Nat → List Line → List Line × Inline.Definitions
  | _, [] => ([], [])
  | skip + 1, _ :: ls => extractFrom skip ls
  | 0, l :: ls =>
    if isBlankLine l then
      let (kept, defs) := extractFrom 0 ls
      (l :: kept, defs)
    else
      let more := ls.takeWhile (!isBlankLine ·)
      let (kept, defs) := extractFrom more.length ls
      match definitions? (l :: more) with
      | some found => (kept, found ++ defs)
      | none => (l :: more ++ kept, defs)

/-- The lines that are text, and the definitions between them. -/
def extractDefinitions (ls : List Line) : List Line × Inline.Definitions :=
  extractFrom 0 ls

end DocPages.Comment
