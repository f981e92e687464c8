import DocPages.Proofs.Render.Overrides
import DocPages.Proofs.Template.Comparison

/-!
# Sources of the default templates

The default templates as they are written. Reading them gives the trees that pages are rendered with
(`parse_defaultSources`). So a renderer is built from texts alone: each of its templates is read from the text
that replaces it, else from the contents of its file, else from its default text (`build_eq_ok_iff_sources`).

A default text is compared with its tree as a list of characters, into which a literal is taken apart at
once (`parse_of_readsAs`).
-/

namespace DocPages.Render

open Template

def fileSource : String :=
  "<!-- Code generated by docmark. DO NOT EDIT -->\x7b\x7b spacer() \x7d\x7d
\x7b%- if header_text %\x7d\x7b\x7b header_text \x7d\x7d\x7b\x7b spacer() \x7d\x7d\x7b% endif -%\x7d
\x7b%- for package in packages %\x7d\x7b\x7b include(\"package\", package) \x7d\x7d\x7b% endfor -%\x7d
\x7b%- if footer_text %\x7d\x7b\x7b footer_text \x7d\x7d\x7b\x7b spacer() \x7d\x7d\x7b% endif -%\x7d
Generated by \x7b\x7b link(\"docmark\", \"https://github.com/docmark/docmark\") \x7d\x7d
"

def packageSource : String :=
  "
\x7b%- if name == \"main\" %\x7d\x7b\x7b header(level, dirname) \x7d\x7d\x7b% else %\x7d\x7b\x7b header(level, name) \x7d\x7d\x7b% endif -%\x7d
\x7b%- include \"import\" -%\x7d
\x7b%- if doc.blocks %\x7d\x7b\x7b include(\"doc\", doc) \x7d\x7d\x7b% endif -%\x7d
\x7b%- for example in examples %\x7d\x7b\x7b include(\"example\", example) \x7d\x7d\x7b% endfor -%\x7d
\x7b\x7b- header(add(level, 1), \"Index\") -\x7d\x7d
\x7b%- include \"index\" -%\x7d
\x7b%- if consts -%\x7d
  \x7b\x7b- header(add(level, 1), \"Constants\") -\x7d\x7d
  \x7b%- for value in consts %\x7d\x7b\x7b include(\"value\", value) \x7d\x7d\x7b% endfor -%\x7d
\x7b%- endif -%\x7d
\x7b%- if vars -%\x7d
  \x7b\x7b- header(add(level, 1), \"Variables\") -\x7d\x7d
  \x7b%- for value in vars %\x7d\x7b\x7b include(\"value\", value) \x7d\x7d\x7b% endfor -%\x7d
\x7b%- endif -%\x7d
\x7b%- for func in funcs %\x7d\x7b\x7b include(\"func\", func) \x7d\x7d\x7b% endfor -%\x7d
\x7b%- for entry in types %\x7d\x7b\x7b include(\"type\", entry) \x7d\x7d\x7b% endfor -%\x7d
"

def importSource : String :=
  "\x7b\x7b- codeBlock(\"go\", import_decl) -\x7d\x7d"

def indexSource : String :=
  "
\x7b%- macro func_entry(depth, func) -%\x7d
  \x7b\x7b- listEntry(depth, link(escape(func.signature), rawLocalHref(func.anchor_name))) -\x7d\x7d
\x7b%- endmacro -%\x7d
\x7b%- if consts %\x7d\x7b\x7b listEntry(0, link(\"Constants\", localHref(\"Constants\"))) \x7d\x7d\x7b% endif -%\x7d
\x7b%- if vars %\x7d\x7b\x7b listEntry(0, link(\"Variables\", localHref(\"Variables\"))) \x7d\x7d\x7b% endif -%\x7d
\x7b%- for func in funcs %\x7d\x7b\x7b func_entry(0, func) \x7d\x7d\x7b% endfor -%\x7d
\x7b%- for entry in types -%\x7d
  \x7b\x7b- listEntry(0, link(escape(entry.title), rawLocalHref(entry.anchor_name))) -\x7d\x7d
  \x7b%- for func in entry.funcs %\x7d\x7b\x7b func_entry(1, func) \x7d\x7d\x7b% endfor -%\x7d
  \x7b%- for func in entry.methods %\x7d\x7b\x7b func_entry(1, func) \x7d\x7d\x7b% endfor -%\x7d
\x7b%- endfor -%\x7d
\x7b%- if consts or vars or funcs or types %\x7d\x7b\x7b inlineSpacer() \x7d\x7d\x7b% endif -%\x7d
"

def typeSource : String :=
  "
\x7b\x7b- rawAnchorHeader(level, \"type \" ~ link(escape(name), codeHref(location)), anchor_name) -\x7d\x7d
\x7b\x7b- include(\"doc\", doc) -\x7d\x7d
\x7b\x7b- codeBlock(\"go\", decl) -\x7d\x7d
\x7b%- for value in consts %\x7d\x7b\x7b include(\"value\", value) \x7d\x7d\x7b% endfor -%\x7d
\x7b%- for value in vars %\x7d\x7b\x7b include(\"value\", value) \x7d\x7d\x7b% endfor -%\x7d
\x7b%- for example in examples %\x7d\x7b\x7b include(\"example\", example) \x7d\x7d\x7b% endfor -%\x7d
\x7b%- for func in funcs %\x7d\x7b\x7b include(\"func\", func) \x7d\x7d\x7b% endfor -%\x7d
\x7b%- for func in methods %\x7d\x7b\x7b include(\"func\", func) \x7d\x7d\x7b% endfor -%\x7d
"

def funcSource : String :=
  "
\x7b%- if receiver -%\x7d
  \x7b\x7b- rawAnchorHeader(level, \"func \\\\(\" ~ escape(receiver) ~ \"\\\\) \" ~ link(escape(name), codeHref(location)), anchor_name) -\x7d\x7d
\x7b%- else -%\x7d
  \x7b\x7b- rawAnchorHeader(level, \"func \" ~ link(escape(name), codeHref(location)), anchor_name) -\x7d\x7d
\x7b%- endif -%\x7d
\x7b\x7b- codeBlock(\"go\", signature) -\x7d\x7d
\x7b\x7b- include(\"doc\", doc) -\x7d\x7d
\x7b%- for example in examples %\x7d\x7b\x7b include(\"example\", example) \x7d\x7d\x7b% endfor -%\x7d
"

def valueSource : String :=
  "
\x7b%- set target = anchor(anchor_name) -%\x7d
\x7b%- if target %\x7d\x7b\x7b target \x7d\x7d\x7b\x7b spacer() \x7d\x7d\x7b% endif -%\x7d
\x7b\x7b- include(\"doc\", doc) -\x7d\x7d
\x7b\x7b- codeBlock(\"go\", decl) -\x7d\x7d
"

def exampleSource : String :=
  "
\x7b\x7b- accordionHeader(title) -\x7d\x7d
\x7b\x7b- include(\"doc\", doc) -\x7d\x7d
\x7b\x7b- codeBlock(\"go\", code) -\x7d\x7d
\x7b%- if has_output -%\x7d
  \x7b\x7b- header(4, \"Output\") -\x7d\x7d
  \x7b\x7b- codeBlock(\"\", output) -\x7d\x7d
\x7b%- endif -%\x7d
\x7b\x7b- accordionTerminator() -\x7d\x7d
"

def docSource : String :=
  "
\x7b%- macro inline(spans) -%\x7d
  \x7b%- for span in spans -%\x7d
    \x7b%- if span.kind == \"text\" %\x7d\x7b\x7b escape(span.text) \x7d\x7d
    \x7b%- elif span.kind == \"link\" %\x7d\x7b\x7b link(escape(span.text), span.url) \x7d\x7d
    \x7b%- elif span.kind == \"localLink\" %\x7d\x7b\x7b link(escape(span.text), rawLocalHref(span.url)) \x7d\x7d
    \x7b%- else %\x7d\x7b\x7b span.text \x7d\x7d\x7b% endif -%\x7d
  \x7b%- endfor -%\x7d
\x7b%- endmacro -%\x7d
\x7b%- for block in blocks -%\x7d
  \x7b%- if block.kind == \"paragraph\" %\x7d\x7b\x7b inline(block.spans) \x7d\x7d\x7b\x7b spacer() \x7d\x7d
  \x7b%- elif block.kind == \"header\" %\x7d\x7b\x7b rawHeader(block.level, inline(block.spans)) \x7d\x7d
  \x7b%- elif block.kind == \"code\" %\x7d\x7b\x7b codeBlock(\"\", block.text) \x7d\x7d
  \x7b%- elif block.kind == \"list\" %\x7d\x7b\x7b include(\"list\", block.list) \x7d\x7d\x7b\x7b spacer() \x7d\x7d
  \x7b%- endif -%\x7d
\x7b%- endfor -%\x7d
"

def listSource : String :=
  "
\x7b%- for item in iter(items) -%\x7d
  \x7b%- set marker = (item.entry.number ~ \". \") if item.entry.kind == \"ordered\" else \"- \" -%\x7d
  \x7b\x7b- marker ~ hangingIndent(include(\"doc\", item.entry) | trim, marker | length) -\x7d\x7d
  \x7b%- if not item.last -%\x7d
    \x7b%- if blankBetween %\x7d\x7b\x7b spacer() \x7d\x7d\x7b% else %\x7d\x7b\x7b inlineSpacer() \x7d\x7d\x7b% endif -%\x7d
  \x7b%- endif -%\x7d
\x7b%- endfor -%\x7d
"

/-- The texts of the default templates by name, in the order of the templates. -/
def defaultSources : List (String × String) :=
  [("file", fileSource), ("package", packageSource), ("type", typeSource), ("func", funcSource),
   ("value", valueSource), ("index", indexSource), ("example", exampleSource), ("doc", docSource),
   ("list", listSource), ("import", importSource)]

/-! ## Reading the default texts -/

/-- Reads a template from its characters. -/
def parseChars (source : List Char) : Except Error Body := do
  let ts ← tokens source
  let ((stmts, _), _) ← body (2 * ts.length + 2) [] ts
  return stmts

/-- Whether a tree is read from some characters, as a test. -/
def readsAs (source : List Char) (tree : Body) : Bool :=
  match parseChars source with
  | .ok stmts => (sameBody stmts tree).isSome
  | .error _ => false

theorem parse_of_readsAs {source : List Char} {tree : Body} (h : readsAs source tree = true) :
    parse (String.ofList source) = .ok tree := by
  have hparse : parse (String.ofList source) = parseChars source := by
    rw [parse, String.toList_ofList]
    rfl
  rw [hparse]
  unfold readsAs at h
  split at h
  · rename_i stmts hstmts
    obtain ⟨hsame, -⟩ := Option.isSome_iff_exists.1 h
    rw [hstmts, hsame.down]
  · cases h

set_option maxRecDepth 4000 in
/-- **The default templates are read from their texts.** -/
theorem parse_defaultSources : defaultSources.map (fun (name, text) => (name, parse text)) =
    defaultTemplates.map fun (name, tree) => (name, .ok tree) := by
  have hfile : parse fileSource = .ok fileTemplate := parse_of_readsAs (by decide +kernel)
  have hpackage : parse packageSource = .ok packageTemplate := parse_of_readsAs (by decide +kernel)
  have htype : parse typeSource = .ok typeTemplate := parse_of_readsAs (by decide +kernel)
  have hfunc : parse funcSource = .ok funcTemplate := parse_of_readsAs (by decide +kernel)
  have hvalue : parse valueSource = .ok valueTemplate := parse_of_readsAs (by decide +kernel)
  have hindex : parse indexSource = .ok indexTemplate := parse_of_readsAs (by decide +kernel)
  have hexample : parse exampleSource = .ok exampleTemplate := parse_of_readsAs (by decide +kernel)
  have hdoc : parse docSource = .ok docTemplate := parse_of_readsAs (by decide +kernel)
  have hlist : parse listSource = .ok listTemplate := parse_of_readsAs (by decide +kernel)
  have himport : parse importSource = .ok importTemplate := parse_of_readsAs (by decide +kernel)
  simp only [defaultSources, defaultTemplates, List.map_cons, List.map_nil, hfile, hpackage, htype, hfunc,
    hvalue, hindex, hexample, hdoc, hlist, himport]

/-! ## Sources -/

/-- The text that a template is read from. -/
def templateSource? (o : Options) (read : ReadFile) (name default : String) : Option String :=
  match o.overrides.lookup name with
  | some source => some source
  | none =>
    match o.overrideFiles.lookup name with
    | some path => read path
    | none => some default

section

variable {o : Options} {read : ReadFile}

theorem isTemplate_iff_source {name text : String} {default tree : Body}
    (h : parse text = .ok default) : IsTemplate o read name default tree ↔
      ∃ source, templateSource? o read name text = some source ∧ parse source = .ok tree := by
  unfold templateSource?
  constructor
  · intro htree
    cases htree with
    | text htext hparse => exact ⟨_, by rw [htext], hparse⟩
    | file htext hfile hread hparse => exact ⟨_, by simp only [htext, hfile, hread], hparse⟩
    | default htext hfile => exact ⟨text, by rw [htext, hfile], h⟩
  · rintro ⟨source, hsource, hparse⟩
    cases htext : o.overrides.lookup name with
    | some replacement =>
      rw [htext, Option.some.injEq] at hsource
      exact .text htext (hsource ▸ hparse)
    | none =>
      rw [htext] at hsource
      cases hfile : o.overrideFiles.lookup name with
      | some path =>
        rw [hfile] at hsource
        exact .file htext hfile hsource hparse
      | none =>
        rw [hfile, Option.some.injEq] at hsource
        rw [← hsource, h, Except.ok.injEq] at hparse
        exact hparse ▸ .default htext hfile

theorem exists_tree_of_mem_defaultSources {x : String × String} (h : x ∈ defaultSources) :
    ∃ tree, parse x.2 = .ok tree := by
  have hmem : (x.1, parse x.2) ∈ defaultSources.map fun (name, text) => (name, parse text) :=
    List.mem_map_of_mem h
  rw [parse_defaultSources] at hmem
  obtain ⟨y, -, hy⟩ := List.mem_map.1 hmem
  exact ⟨y.2, (Prod.mk.inj hy).2.symm⟩

/-- What holds of the default trees can be said of their texts. -/
theorem forall₂_defaultTemplates {p : String → Body → String × Body → Prop}
    {ys : List (String × Body)} : List.Forall₂ (fun x y => p x.1 x.2 y) defaultTemplates ys ↔
      List.Forall₂ (fun x y => ∃ tree, parse x.2 = .ok tree ∧ p x.1 tree y) defaultSources ys := by
  let q (x : String × Except Error Body) (y : String × Body) : Prop :=
    ∃ tree, x.2 = .ok tree ∧ p x.1 tree y
  have htexts : List.Forall₂ q (defaultSources.map fun (name, text) => (name, parse text)) ys ↔
      List.Forall₂ (fun x y => ∃ tree, parse x.2 = .ok tree ∧ p x.1 tree y) defaultSources ys :=
    List.forall₂_map_left_iff
  rw [← htexts, parse_defaultSources, List.forall₂_map_left_iff]
  simp [q]

/-- A renderer is built from the sources of its templates. -/
theorem build_eq_ok_iff_sources (h : ∀ name ∈ o.overriddenNames, name ∈ templateNames)
    {r : Renderer} : build o read = .ok r ↔ r.dialect = o.dialect ∧
      r.library.functions = o.functions.reverse ++ functions o.dialect ∧
      List.Forall₂ (fun x y => y.1 = x.1 ∧ ∃ source, templateSource? o read x.1 x.2 = some source ∧
        parse source = .ok y.2) defaultSources r.library.templates := by
  rw [build_eq_ok h, forall₂_defaultTemplates
    (p := fun name default y => y.1 = name ∧ IsTemplate o read name default y.2)]
  have hone (x : String × String) (y : String × Body) :
      (∃ tree, parse x.2 = .ok tree ∧ y.1 = x.1 ∧ IsTemplate o read x.1 tree y.2) ↔
        (∃ tree, parse x.2 = .ok tree) ∧ y.1 = x.1 ∧
          ∃ source, templateSource? o read x.1 x.2 = some source ∧ parse source = .ok y.2 := by
    constructor
    · rintro ⟨tree, htree, hname, hsource⟩
      exact ⟨⟨tree, htree⟩, hname, (isTemplate_iff_source htree).1 hsource⟩
    · rintro ⟨⟨tree, htree⟩, hname, hsource⟩
      exact ⟨tree, htree, hname, (isTemplate_iff_source htree).2 hsource⟩
  have htrees : ∀ x ∈ defaultSources, ∃ tree, parse x.2 = .ok tree :=
    fun _ hx => exists_tree_of_mem_defaultSources hx
  simp only [hone, List.forall₂_and_left, and_iff_right htrees]

end

end DocPages.Render
