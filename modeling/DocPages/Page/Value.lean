import DocPages.Page.Entity
import DocPages.Template.Value

/-!
# Pages as template values

The names under which templates find the parts of a page.
-/

namespace DocPages

/-- A map with the given entries. -/
def record (es : List (String × Template.Value)) : Template.Value :=
  Template.Value.ofEntries es

def Span.toValue (s : Span) : Template.Value :=
  record [("kind", .str s.kindName), ("text", .str s.display), ("url", .str s.target)]

mutual

def Block.toValue : Block (List Span) → Template.Value
  | .list level between items =>
    record [("kind", .str "list"), ("level", .int level),
      ("list", record [("blankBetween", .bool between), ("items", .list (Item.toValues items))])]
  | b =>
    record [("kind", .str b.kindName), ("level", .int b.level),
      ("spans", .list (b.spans.map Span.toValue)), ("text", .str b.display)]

def Block.toValues : List (Block (List Span)) → List Template.Value
  | [] => []
  | b :: bs => Block.toValue b :: Block.toValues bs

def Item.toValues : List (Item (List Span)) → List Template.Value
  | [] => []
  | .mk number blocks :: rest =>
    record [("kind", .str (if number.isSome then "ordered" else "unordered")),
      ("number", .int (number.getD 0)), ("blocks", .list (Block.toValues blocks))]
      :: Item.toValues rest

end

def Doc.toValue (d : Doc) : Template.Value :=
  record [("level", .int d.level), ("blocks", .list (Block.toValues d.blocks))]

def Source.Position.toValue (p : Source.Position) : Template.Value :=
  record [("line", .int p.line), ("col", .int p.col)]

def Repo.toValue (r : Repo) : Template.Value :=
  record [("remote", .str r.remote), ("default_branch", .str r.defaultBranch),
    ("path_from_root", .str r.pathFromRoot)]

def Location.toValue (l : Location) : Template.Value :=
  record [("start", l.start.toValue), ("end", l.stop.toValue), ("filepath", .str l.filepath),
    ("work_dir", .str l.workDir),
    ("repo", match l.repo with | some r => r.toValue | none => .none)]

namespace Page

def Example.toValue (e : Example) : Template.Value :=
  record [("level", .int e.level), ("name", .str e.name), ("title", .str e.title),
    ("summary", .str e.summary), ("doc", e.doc.toValue), ("code", .str e.code),
    ("has_output", .bool e.output.isSome), ("output", .str (e.output.getD ""))]

def Value.toValue (v : Value) : Template.Value :=
  record [("level", .int v.level), ("names", .list (v.names.map .str)),
    ("anchor_name", .str v.anchor), ("summary", .str v.summary), ("doc", v.doc.toValue),
    ("decl", .str v.decl), ("location", v.location.toValue)]

def Func.toValue (f : Func) : Template.Value :=
  record [("level", .int f.level), ("name", .str f.name), ("receiver", .str f.receiver),
    ("title", .str f.title), ("anchor_name", .str f.anchor), ("summary", .str f.summary),
    ("doc", f.doc.toValue), ("signature", .str f.signature), ("location", f.location.toValue),
    ("examples", .list (f.examples.map Example.toValue))]

def TypeDecl.toValue (t : TypeDecl) : Template.Value :=
  record [("level", .int t.level), ("name", .str t.name), ("title", .str t.title),
    ("anchor_name", .str t.anchor), ("summary", .str t.summary), ("doc", t.doc.toValue),
    ("decl", .str t.decl), ("location", t.location.toValue),
    ("consts", .list (t.consts.map Value.toValue)), ("vars", .list (t.vars.map Value.toValue)),
    ("examples", .list (t.examples.map Example.toValue)),
    ("funcs", .list (t.funcs.map Func.toValue)), ("methods", .list (t.methods.map Func.toValue))]

def Package.toValue (p : Package) : Template.Value :=
  record [("level", .int p.level), ("name", .str p.name), ("dirname", .str p.dirname),
    ("dir", .str p.dir), ("import_path", .str p.importPath), ("import_decl", .str p.importDecl),
    ("summary", .str p.summary), ("doc", p.doc.toValue),
    ("examples", .list (p.examples.map Example.toValue)),
    ("consts", .list (p.consts.map Value.toValue)), ("vars", .list (p.vars.map Value.toValue)),
    ("funcs", .list (p.funcs.map Func.toValue)), ("types", .list (p.types.map TypeDecl.toValue))]

def File.toValue (f : File) : Template.Value :=
  record [("header_text", .str f.header), ("footer_text", .str f.footer),
    ("packages", .list (f.packages.map Package.toValue))]

end Page

end DocPages
