import DocPages.Template.Eval

/-!
# Default templates

The templates that pages are rendered with unless they are overridden, as trees. Every piece that is a block
ends with its own line breaks, so the templates put pieces one after another and add space only after inline
text.
-/

namespace DocPages.Render

open Template

/-! ## Shorthands -/

def var (x : String) : Expr := .name x
def lit (s : String) : Expr := .const (.str s)
def num (n : Nat) : Expr := .const (.int n)

/-- The text of a template with given data. -/
def textOf (template : String) (data : Expr) : Expr := .call "include" [lit template, data]

def emitCall (f : String) (args : List Expr) : Stmt := .emit (.call f args)

/-- The text of a template for each item of a list. -/
def forEach (x : String) (items : Expr) (template : String) : Stmt :=
  .loop [x] items [.emit (textOf template (var x))] []

def onlyIf (test : Expr) (yes : List Stmt) : Stmt := .cond test yes []

def spacer : Stmt := emitCall "spacer" []

/-! ## Templates -/

/-- A file: a notice, the header, the packages and the footer. -/
def fileTemplate : Body :=
  [.text "<!-- Code generated by docmark. DO NOT EDIT -->", spacer,
   onlyIf (var "header_text") [.emit (var "header_text"), spacer],
   forEach "package" (var "packages") "package",
   onlyIf (var "footer_text") [.emit (var "footer_text"), spacer],
   .text "Generated by ",
   emitCall "link" [lit "docmark", lit "https://github.com/docmark/docmark"],
   .text "\n"]

/-- A section of a package, one level below its header. -/
def sectionHeader (title : String) : Stmt :=
  emitCall "header" [.call "add" [var "level", num 1], lit title]

/-- A package. A program is named by its directory. -/
def packageTemplate : Body :=
  [.cond (.eq (var "name") (lit "main"))
     [emitCall "header" [var "level", var "dirname"]]
     [emitCall "header" [var "level", var "name"]],
   .insert (lit "import"),
   onlyIf (.attr (var "doc") "blocks") [.emit (textOf "doc" (var "doc"))],
   forEach "example" (var "examples") "example",
   sectionHeader "Index",
   .insert (lit "index"),
   onlyIf (var "consts") [sectionHeader "Constants", forEach "value" (var "consts") "value"],
   onlyIf (var "vars") [sectionHeader "Variables", forEach "value" (var "vars") "value"],
   forEach "func" (var "funcs") "func",
   forEach "entry" (var "types") "type"]

/-- How a package is imported. -/
def importTemplate : Body :=
  [emitCall "codeBlock" [lit "go", var "import_decl"]]

/-- An entry of the index that links to the section of its subject. -/
def indexEntry (depth : Expr) (title : Expr) (subject : String) : Stmt :=
  emitCall "listEntry"
    [depth, .call "link" [.call "escape" [title],
      .call "rawLocalHref" [.attr (var subject) "anchor_name"]]]

/-- An entry of the index that links to the section of a header. -/
def sectionEntry (title : String) : Stmt :=
  emitCall "listEntry" [num 0, .call "link" [lit title, .call "localHref" [lit title]]]

/-- The index of a package. -/
def indexTemplate : Body :=
  [.define "func_entry" [("depth", none), ("func", none)]
     [indexEntry (var "depth") (.attr (var "func") "signature") "func"],
   onlyIf (var "consts") [sectionEntry "Constants"],
   onlyIf (var "vars") [sectionEntry "Variables"],
   .loop ["func"] (var "funcs") [emitCall "func_entry" [num 0, var "func"]] [],
   .loop ["entry"] (var "types")
     [indexEntry (num 0) (.attr (var "entry") "title") "entry",
      .loop ["func"] (.attr (var "entry") "funcs") [emitCall "func_entry" [num 1, var "func"]] [],
      .loop ["func"] (.attr (var "entry") "methods")
        [emitCall "func_entry" [num 1, var "func"]] []] [],
   onlyIf (.or (.or (.or (var "consts") (var "vars")) (var "funcs")) (var "types"))
     [emitCall "inlineSpacer" []]]

/-- The name of a declaration as a link to its source. -/
def sourceLink : Expr :=
  .call "link" [.call "escape" [var "name"], .call "codeHref" [var "location"]]

/-- A type with all that belongs to it. -/
def typeTemplate : Body :=
  [emitCall "rawAnchorHeader"
     [var "level", .concat (lit "type ") sourceLink, var "anchor_name"],
   .emit (textOf "doc" (var "doc")),
   emitCall "codeBlock" [lit "go", var "decl"],
   forEach "value" (var "consts") "value",
   forEach "value" (var "vars") "value",
   forEach "example" (var "examples") "example",
   forEach "func" (var "funcs") "func",
   forEach "func" (var "methods") "func"]

/-- A function or method. -/
def funcTemplate : Body :=
  [.cond (var "receiver")
     [emitCall "rawAnchorHeader"
       [var "level",
        .concat (.concat (.concat (lit "func \\(") (.call "escape" [var "receiver"])) (lit "\\) "))
          sourceLink,
        var "anchor_name"]]
     [emitCall "rawAnchorHeader"
       [var "level", .concat (lit "func ") sourceLink, var "anchor_name"]],
   emitCall "codeBlock" [lit "go", var "signature"],
   .emit (textOf "doc" (var "doc")),
   forEach "example" (var "examples") "example"]

/-- A declaration of constants or variables. -/
def valueTemplate : Body :=
  [.assign "target" (.call "anchor" [var "anchor_name"]),
   onlyIf (var "target") [.emit (var "target"), spacer],
   .emit (textOf "doc" (var "doc")),
   emitCall "codeBlock" [lit "go", var "decl"]]

/-- An example, folded away. -/
def exampleTemplate : Body :=
  [emitCall "accordionHeader" [var "title"],
   .emit (textOf "doc" (var "doc")),
   emitCall "codeBlock" [lit "go", var "code"],
   onlyIf (var "has_output")
     [emitCall "header" [num 4, lit "Output"], emitCall "codeBlock" [lit "", var "output"]],
   emitCall "accordionTerminator" []]

/-- Whether a part of a doc comment is of some kind. -/
def isKind (x kind : String) : Expr :=
  .eq (.attr (var x) "kind") (lit kind)

/-- The spans of a paragraph or header. -/
def inlineMacro : Stmt :=
  .define "inline" [("spans", none)]
    [.loop ["span"] (var "spans")
      [.cond (isKind "span" "text") [emitCall "escape" [.attr (var "span") "text"]]
        [.cond (isKind "span" "link")
          [emitCall "link" [.call "escape" [.attr (var "span") "text"], .attr (var "span") "url"]]
          [.cond (isKind "span" "localLink")
            [emitCall "link" [.call "escape" [.attr (var "span") "text"],
              .call "rawLocalHref" [.attr (var "span") "url"]]]
            [.emit (.attr (var "span") "text")]]]] []]

/-- The blocks of a doc comment. -/
def docTemplate : Body :=
  [inlineMacro,
   .loop ["block"] (var "blocks")
     [.cond (isKind "block" "paragraph")
       [emitCall "inline" [.attr (var "block") "spans"], spacer]
       [.cond (isKind "block" "header")
         [emitCall "rawHeader"
           [.attr (var "block") "level", .call "inline" [.attr (var "block") "spans"]]]
         [.cond (isKind "block" "code")
           [emitCall "codeBlock" [lit "", .attr (var "block") "text"]]
           [.cond (isKind "block" "list")
             [.emit (textOf "list" (.attr (var "block") "list")), spacer] []]]]] []]

/-- A list. The lines of an item are indented by the width of its marker. -/
def listTemplate : Body :=
  [.loop ["item"] (.call "iter" [var "items"])
    [.assign "marker"
       (.cond (.eq (.attr (.attr (var "item") "entry") "kind") (lit "ordered"))
         (.concat (.attr (.attr (var "item") "entry") "number") (lit ". ")) (some (lit "- "))),
     .emit (.concat (var "marker")
       (.call "hangingIndent"
         [.filter (textOf "doc" (.attr (var "item") "entry")) "trim" [],
          .filter (var "marker") "length" []])),
     onlyIf (.not (.attr (var "item") "last"))
       [.cond (var "blankBetween") [spacer] [emitCall "inlineSpacer" []]]] []]

/-- The default templates by name, in the order in which they are read. -/
def defaultTemplates : List (String × Body) :=
  [("file", fileTemplate), ("package", packageTemplate), ("type", typeTemplate),
   ("func", funcTemplate), ("value", valueTemplate), ("index", indexTemplate),
   ("example", exampleTemplate), ("doc", docTemplate), ("list", listTemplate),
   ("import", importTemplate)]

/-- The names of templates that exist and can be overridden. -/
def templateNames : List String :=
  defaultTemplates.map (·.1)

def isTemplateName (name : String) : Bool :=
  templateNames.contains name

end DocPages.Render
