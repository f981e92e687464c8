import DocPages.Proofs.Render.Pieces

/-!
# The default library

The default templates with the functions of a dialect. Records whose fields do not have the name of a
function leave all functions free to be called (`clear_record`), and each function that the templates call
does what its dialect does (the `call_` lemmas).
-/

namespace DocPages.Render

open Template Text

/-- The default templates with the functions of a dialect. -/
def library (d : Dialect) : Library :=
  ⟨defaultTemplates, functions d⟩

/-- The renderer of a dialect without overrides. -/
def standard (d : Dialect) : Renderer :=
  ⟨d, library d⟩

theorem build_standard (d : Dialect) (read : ReadFile) :
    build { dialect := d } read = .ok (standard d) :=
  rfl

/-- The names of the functions, which are the same for all dialects. -/
def functionNames : List String :=
  ["add", "spacer", "inlineSpacer", "hangingIndent", "iter", "include", "bold", "anchor",
    "anchorHeader", "header", "rawAnchorHeader", "rawHeader", "codeBlock", "link", "listEntry",
    "accordion", "accordionHeader", "accordionTerminator", "localHref", "rawLocalHref", "codeHref",
    "paragraph", "escape"]

theorem map_functions (d : Dialect) : (library d).functions.map (·.1) = functionNames :=
  rfl

section

variable {d : Dialect} {enter : Enter} {c : Context}

/-! ## Free names -/

theorem clear_record {es : List (String × Value)}
    (h : (es.map (·.1)).all (!functionNames.contains ·) = true) :
    Clear (library d) (record es) [] := by
  intro f hf
  refine ⟨List.forall_mem_nil _, ?_⟩
  have hnone : es.reverse.lookup f = none := by
    rw [List.lookup_eq_none_iff]
    intro e he
    rw [map_functions] at hf
    rw [List.all_eq_true] at h
    have hkey := h e.1 (List.mem_map_of_mem (List.mem_reverse.1 he))
    rw [bne_iff_ne]
    rintro rfl
    rw [List.contains_iff_mem.2 hf] at hkey
    cases hkey
  show (Value.ofEntries es).attr f = _
  rw [Value.attr_ofEntries, hnone]
  rfl

/-- Frames keep functions free unless they bind their names. -/
theorem clear_cons {root : Value} {fs : List Frame} (hc : Clear (library d) root fs) {f : Frame}
    {names : List String} (hf : f.BindsOnly names) (hnames : ∀ x ∈ names, x ∉ functionNames) :
    Clear (library d) root (f :: fs) :=
  hc.cons hf hnames

/-! ## Names and calls -/

/-- A field of the data that no frame hides. -/
theorem value_record {es : List (String × Value)} {fs : List Frame} {load : ℕ} {x : String}
    {v : Value} (hfs : fs.findSome? (·.value? x) = none) (h : es.reverse.lookup x = some v)
    (hv : v.isUndefined = false) : (library d).value ⟨record es, fs, load⟩ x = v := by
  have hroot : (library d).value ⟨record es, [], load⟩ x = v :=
    value_of_data (Value.attr_record h) hv load
  unfold Library.value at hroot ⊢
  rw [hfs]
  exact hroot

/-- A field of the data of a template. -/
theorem value_page {es : List (String × Value)} {x : String} {v : Value}
    (h : es.reverse.lookup x = some v) (hv : v.isUndefined = false) :
    (library d).value { root := record es } x = v :=
  value_record rfl h hv

theorem eval_var {x : String} {v : Value} (h : (library d).value c x = v) :
    (library d).eval enter c (var x) = .ok v := by
  rw [var, Library.eval, h]

theorem eval_field {x : String} {v : Value} (h : (library d).value c x = v)
    (hv : v.isUndefined = false) (y : String) :
    (library d).eval enter c (.attr (var x) y) = .ok (v.attr y) :=
  eval_attr (eval_var h) hv y

theorem eval_lit (s : String) : (library d).eval enter c (lit s) = .ok (.str s) := by
  rw [lit, Library.eval]

theorem eval_num (n : ℕ) : (library d).eval enter c (num n) = .ok (.int n) := by
  rw [num, Library.eval]

theorem eval_function (hc : Clear (library d) c.root c.frames) {f : String}
    (hf : f ∈ functionNames) (args : List Expr) :
    (library d).eval enter c (.call f args) = (do
      let vs ← (library d).evalAll enter c args
      (library d).callFunction enter f vs) :=
  eval_call hc hf args

theorem eval_call0 (hc : Clear (library d) c.root c.frames) {f : String} (hf : f ∈ functionNames) :
    (library d).eval enter c (.call f []) = (library d).callFunction enter f [] := by
  rw [eval_function hc hf, Library.evalAll, ok_bind]

theorem eval_call1 (hc : Clear (library d) c.root c.frames) {f : String} (hf : f ∈ functionNames)
    {a : Expr} {v : Value} (ha : (library d).eval enter c a = .ok v) :
    (library d).eval enter c (.call f [a]) = (library d).callFunction enter f [v] := by
  rw [eval_function hc hf]
  simp only [Library.evalAll, ha, ok_bind, pure_ok]

theorem eval_call2 (hc : Clear (library d) c.root c.frames) {f : String} (hf : f ∈ functionNames)
    {a b : Expr} {v w : Value} (ha : (library d).eval enter c a = .ok v)
    (hb : (library d).eval enter c b = .ok w) :
    (library d).eval enter c (.call f [a, b]) = (library d).callFunction enter f [v, w] := by
  rw [eval_function hc hf]
  simp only [Library.evalAll, ha, hb, ok_bind, pure_ok]

theorem eval_call3 (hc : Clear (library d) c.root c.frames) {f : String} (hf : f ∈ functionNames)
    {a₁ a₂ a₃ : Expr} {v₁ v₂ v₃ : Value} (h₁ : (library d).eval enter c a₁ = .ok v₁)
    (h₂ : (library d).eval enter c a₂ = .ok v₂) (h₃ : (library d).eval enter c a₃ = .ok v₃) :
    (library d).eval enter c (.call f [a₁, a₂, a₃]) =
      (library d).callFunction enter f [v₁, v₂, v₃] := by
  rw [eval_function hc hf]
  simp only [Library.evalAll, h₁, h₂, h₃, ok_bind, pure_ok]

/-- A call fails if its first argument does. -/
theorem eval_call_first_error {f : String} {a : Expr} {es : List Expr} {e : Error}
    (ha : (library d).eval enter c a = .error e) :
    (library d).eval enter c (.call f (a :: es)) = .error e := by
  rw [Library.eval]
  simp only [Library.evalAll, ha, error_bind]

/-- A call fails if its second argument does. -/
theorem eval_call_error {f : String} {a b : Expr} {es : List Expr} {v : Value} {e : Error}
    (ha : (library d).eval enter c a = .ok v) (hb : (library d).eval enter c b = .error e) :
    (library d).eval enter c (.call f (a :: b :: es)) = .error e := by
  rw [Library.eval]
  simp only [Library.evalAll, ha, hb, ok_bind, error_bind]

section Functions

variable (v w u : Value)

theorem call_spacer : (library d).callFunction enter "spacer" [] = .ok (.str "\n\n") :=
  rfl

theorem call_inlineSpacer : (library d).callFunction enter "inlineSpacer" [] = .ok (.str "\n") :=
  rfl

theorem call_add : (library d).callFunction enter "add" [v, w] = (do
    let a ← integerArgument (some v)
    let b ← integerArgument (some w)
    add a b) :=
  rfl

theorem call_hangingIndent : (library d).callFunction enter "hangingIndent" [v, w] = (do
    let n ← countArgument (some w)
    return .str (onChars (hangingIndent n) v.print)) :=
  rfl

theorem call_iter : (library d).callFunction enter "iter" [v] = iterate v :=
  rfl

theorem call_header : (library d).callFunction enter "header" [v, w] = (do
    let level ← countArgument (some v)
    piece (Dialect.header level w.print)) :=
  rfl

theorem call_rawHeader : (library d).callFunction enter "rawHeader" [v, w] = (do
    let level ← countArgument (some v)
    piece (Dialect.rawHeader level w.print)) :=
  rfl

theorem call_rawAnchorHeader :
    (library d).callFunction enter "rawAnchorHeader" [v, w, u] = (do
      let level ← countArgument (some v)
      piece (d.rawAnchorHeader level w.print u.print)) :=
  rfl

theorem call_codeBlock : (library d).callFunction enter "codeBlock" [v, w] =
    .ok (.str (d.codeBlock v.print w.print)) :=
  rfl

theorem call_link : (library d).callFunction enter "link" [v, w] =
    .ok (.str (Dialect.link v.print w.print)) :=
  rfl

theorem call_listEntry : (library d).callFunction enter "listEntry" [v, w] = (do
    let depth ← countArgument (some v)
    return .str (Dialect.listEntry depth w.print)) :=
  rfl

theorem call_accordionHeader : (library d).callFunction enter "accordionHeader" [v] =
    piece (d.accordionHeader v.print) :=
  rfl

theorem call_accordionTerminator : (library d).callFunction enter "accordionTerminator" [] =
    .ok (.str d.accordionTerminator) :=
  rfl

theorem call_localHref : (library d).callFunction enter "localHref" [v] =
    .ok (.str (d.localHref v.print)) :=
  rfl

theorem call_rawLocalHref : (library d).callFunction enter "rawLocalHref" [v] =
    .ok (.str (d.rawLocalHref v.print)) :=
  rfl

theorem call_codeHref : (library d).callFunction enter "codeHref" [v] = (do
    let location ← locationArgument (some v)
    piece (d.codeHref location)) :=
  rfl

theorem call_escape : (library d).callFunction enter "escape" [v] =
    .ok (.str (Dialect.escape v.print)) :=
  rfl

end Functions

/-! ## Texts -/

section Texts

variable {a b : Expr} {s t : String} (hc : Clear (library d) c.root c.frames)
  (ha : (library d).eval enter c a = .ok (.str s)) (hb : (library d).eval enter c b = .ok (.str t))

include hc ha

theorem eval_escape :
    (library d).eval enter c (.call "escape" [a]) = .ok (.str (Dialect.escape s)) := by
  rw [eval_call1 hc (by decide) ha, call_escape]
  rfl

theorem eval_rawLocalHref :
    (library d).eval enter c (.call "rawLocalHref" [a]) = .ok (.str (d.rawLocalHref s)) := by
  rw [eval_call1 hc (by decide) ha, call_rawLocalHref]
  rfl

theorem eval_localHref :
    (library d).eval enter c (.call "localHref" [a]) = .ok (.str (d.localHref s)) := by
  rw [eval_call1 hc (by decide) ha, call_localHref]
  rfl

include hb

theorem eval_link :
    (library d).eval enter c (.call "link" [a, b]) = .ok (.str (Dialect.link s t)) := by
  rw [eval_call2 hc (by decide) ha hb, call_link]
  rfl

theorem eval_codeBlock :
    (library d).eval enter c (.call "codeBlock" [a, b]) = .ok (.str (d.codeBlock s t)) := by
  rw [eval_call2 hc (by decide) ha hb, call_codeBlock]
  rfl

end Texts

end

end DocPages.Render
