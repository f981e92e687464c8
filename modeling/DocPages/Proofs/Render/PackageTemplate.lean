import DocPages.Proofs.Render.PageTemplates
import Mathlib.Data.List.Forall2

/-!
# The template of a package

The template of a package inserts the import and the index in its own context and renders the entities of
the package with the templates of their kind. Its text is that of the pieces of the package
(`render_package_eq`), so that a page that is rendered is the concatenation of its sections in their fixed
order (`compose_of_render_package`).

A package is rendered in the same way inside of a file (`run_package_eq_render`). Only for this, packages
count that are so deep that their sections have no level (`run_package_of_le`).

The index has a macro for functions, which is called from the loop over the functions of the package and,
one loop deeper, from those of a type (`writes_funcEntries`).
-/

namespace DocPages.Render

open Template Text

variable {d : Dialect} {enter : Enter} {c : Context} {root : Value}

/-! ## The index -/

theorem compose_texts (rd : Reading) (ss : List String) :
    compose rd d (ss.map .text) = .ok (String.join ss) := by
  rw [compose, List.map_map]
  exact (concat_map_ok id ss).trans (by rw [List.map_id])

theorem compose_text (rd : Reading) (s : String) : compose rd d [.text s] = .ok s := by
  rw [compose, List.map_cons, List.map_nil, concat_singleton, Piece.write]

theorem countArgument_of_lt {k : ℕ} (h : k < Data.wordSize) :
    countArgument (some (.int k)) = .ok k := by
  rw [← count_words, count_words_eq, if_pos h]

/-- An entry that links to the section of its subject. -/
theorem writes_indexEntry (hc : ClearIn d c) {depth title : Expr} {subject t a : String} {v : Value}
    {k : ℕ} (hk : k < Data.wordSize) (hdepth : (library d).eval enter c depth = .ok (.int k))
    (htitle : (library d).eval enter c title = .ok (.str t))
    (hsubject : (library d).value c subject = v) (hv : v.isUndefined = false)
    (hanchor : v.attr "anchor_name" = .str a) :
    WritesPieces d enter c (indexEntry depth title subject) [.text (Page.entryLink d k t a)] := by
  have hname : (library d).eval enter c (.attr (var subject) "anchor_name") = .ok (.str a) := by
    rw [eval_field hsubject hv, hanchor]
  have hlink : (library d).eval enter c (.call "link" [.call "escape" [title],
      .call "rawLocalHref" [.attr (var subject) "anchor_name"]]) =
        .ok (.str (Dialect.link (Dialect.escape t) (d.rawLocalHref a))) :=
    eval_link hc (eval_escape hc htitle) (eval_rawLocalHref hc hname)
  refine writes_piece ?_
  rw [eval_call2 hc (by decide) hdepth hlink, call_listEntry, countArgument_of_lt hk]
  rfl

theorem writes_sectionEntry (hc : ClearIn d c) (title : String) :
    WritesPieces d enter c (sectionEntry title) [.text (Page.sectionLink d title)] := by
  have hlink : (library d).eval enter c (.call "link" [lit title, .call "localHref" [lit title]]) =
      .ok (.str (Dialect.link title (d.localHref title))) :=
    eval_link hc (eval_lit _) (eval_localHref hc (eval_lit _))
  refine writes_piece ?_
  rw [eval_call2 hc (by decide) (eval_num 0) hlink, call_listEntry, countArgument_of_lt (by decide)]
  rfl

/-- The frame of the index, with the macro for functions. -/
def entryFrame : Frame :=
  ({} : Frame).define "func_entry" ⟨[("depth", none), ("func", none)],
    [indexEntry (var "depth") (.attr (var "func") "signature") "func"]⟩

theorem bindsOnly_entryFrame : entryFrame.BindsOnly ["func_entry"] :=
  (Frame.bindsOnly_empty _).define List.mem_cons_self _

/-- The frames of the index around those of its loops. -/
def indexFrames : List Frame :=
  [entryFrame, {}]

theorem clear_indexFrames (hc : Clear (library d) root []) : Clear (library d) root indexFrames :=
  clear_cons (clear_cons hc (Frame.bindsOnly_empty []) (by decide)) bindsOnly_entryFrame (by decide)

/-- The macro writes the entry of its function. It sees its arguments and the frames of the index. -/
theorem run_funcEntry {n load k : ℕ} (hc : Clear (library d) root []) {f : Page.Func} {g : Frame}
    (hg : g.BindsOnly ["depth", "func"]) (hdepth : g.value? "depth" = some (.int k))
    (hfunc : g.value? "func" = some f.toValue) (hk : k < Data.wordSize) :
    (library d).run (n + 1) ⟨root, g :: indexFrames, load⟩
      [indexEntry (var "depth") (.attr (var "func") "signature") "func"] =
        .ok (Page.entryLink d k f.signature f.anchor) := by
  have hclear : ClearIn d ⟨root, g :: indexFrames, load⟩ :=
    clear_cons (clear_indexFrames hc) hg (by decide)
  have hvalue : (library d).value ⟨root, g :: indexFrames, load⟩ "func" = f.toValue := by
    rw [value_cons, hfunc, Option.getD_some]
  have hcount : (library d).value ⟨root, g :: indexFrames, load⟩ "depth" = .int k := by
    rw [value_cons, hdepth, Option.getD_some]
  have hsignature : (library d).eval ((library d).run n) ⟨root, g :: indexFrames, load⟩
      (.attr (var "func") "signature") = .ok (.str f.signature) := by
    rw [eval_field hvalue rfl, show f.toValue.attr "signature" = _ from Value.attr_record rfl]
  have hentry := writes_indexEntry hclear hk (eval_var hcount) hsignature hvalue rfl
    (Value.attr_record rfl)
  rw [run_pieces (.cons hentry .nil), List.flatten_cons, List.flatten_nil, List.append_nil,
    compose_text]

/-- A call of the macro from inside of loops. -/
theorem writes_funcEntry {n load : ℕ} (hc : Clear (library d) root []) (gs : List Frame)
    (hgs : ∀ g ∈ gs, g.value? "func_entry" = none)
    (hfull : (⟨root, gs ++ indexFrames, load⟩ : Context).isFull 4 = false) {f : Page.Func} {k : ℕ}
    (hk : k < Data.wordSize)
    (hf : (library d).value ⟨root, gs ++ indexFrames, load⟩ "func" = f.toValue) :
    WritesPieces d ((library d).run (n + 1)) ⟨root, gs ++ indexFrames, load⟩
      (emitCall "func_entry" [num k, var "func"])
      [.text (Page.entryLink d k f.signature f.anchor)] := by
  have hframe : frameOf "func_entry" (gs ++ indexFrames) = indexFrames := frameOf_append hgs
  have hargs : (library d).evalAll ((library d).run (n + 1)) ⟨root, gs ++ indexFrames, load⟩
      [num k, var "func"] = .ok [.int k, f.toValue] := by
    simp only [Library.evalAll, eval_num, eval_var hf, ok_bind, pure_ok]
  have hcall := eval_macroCall (c := ⟨root, gs ++ indexFrames, load⟩) hframe rfl rfl hargs
    (fun _ => rfl) hfull
  have hlocals : ((({} : Frame).assign "depth" (.int k)).assign "func" f.toValue).BindsOnly
      ["depth", "func"] :=
    ((Frame.bindsOnly_empty _).assign (by decide) _).assign (by decide) _
  refine writes_piece (hcall.trans (congrArg (Except.map Value.str) ?_))
  refine run_funcEntry hc hlocals ?_ ?_ hk
  · rw [Frame.value?_assign, if_neg (by decide), Frame.value?_assign, if_pos rfl]
  · rw [Frame.value?_assign, if_pos rfl]

/-- The entries of functions. -/
theorem writes_funcEntries {n load : ℕ} (hc : Clear (library d) root []) (gs : List Frame)
    (hgs : ∀ g ∈ gs, g.value? "func_entry" = none)
    (hfull : ∀ f : Frame, (⟨root, f :: gs ++ indexFrames, load⟩ : Context).isFull 4 = false)
    (hloop : (⟨root, gs ++ indexFrames, load⟩ : Context).isFull 1 = false) {funcs : List Page.Func}
    {e : Expr} {k : ℕ} (hk : k < Data.wordSize)
    (he : (library d).eval ((library d).run (n + 1)) ⟨root, gs ++ indexFrames, load⟩ e =
      .ok (.list (funcs.map Page.Func.toValue))) :
    WritesPieces d ((library d).run (n + 1)) ⟨root, gs ++ indexFrames, load⟩
      (.loop ["func"] e [emitCall "func_entry" [num k, var "func"]] [])
      ((funcs.map fun f => Page.entryLink d k f.signature f.anchor).map .text) := by
  have heach : (funcs.map fun f => Page.entryLink d k f.signature f.anchor).map Piece.text =
      funcs.flatMap fun f => [[Piece.text (Page.entryLink d k f.signature f.anchor)]].flatten := by
    rw [List.map_map, List.map_eq_flatMap]
    rfl
  rw [heach]
  refine writes_loopPieces he hloop fun g f _ hg => .cons ?_ .nil
  have hg' := hg.assign (y := "func") (by decide) f.toValue
  refine writes_funcEntry hc (g.assign "func" f.toValue :: gs) ?_ (hfull _) hk ?_
  · exact List.forall_mem_cons.2 ⟨hg' _ (by decide), hgs⟩
  · rw [List.cons_append, value_cons, Frame.value?_assign, if_pos rfl, Option.getD_some]

/-- The entries of a type: the type itself, its functions and its methods. -/
theorem writes_typeEntries {n load : ℕ} (hc : Clear (library d) root [])
    (hfull : ∀ f g : Frame, (⟨root, f :: g :: indexFrames, load⟩ : Context).isFull 4 = false)
    (hloop : ∀ g : Frame, (⟨root, g :: indexFrames, load⟩ : Context).isFull 1 = false) {g : Frame}
    (hg : g.BindsOnly ["loop", "entry"]) {t : Page.TypeDecl}
    (ht : g.value? "entry" = some t.toValue) :
    List.Forall₂ (WritesPieces d ((library d).run (n + 1)) ⟨root, g :: indexFrames, load⟩)
      [indexEntry (num 0) (.attr (var "entry") "title") "entry",
        .loop ["func"] (.attr (var "entry") "funcs") [emitCall "func_entry" [num 1, var "func"]] [],
        .loop ["func"] (.attr (var "entry") "methods")
          [emitCall "func_entry" [num 1, var "func"]] []]
      [[.text (Page.entryLink d 0 t.title t.anchor)],
        (t.funcs.map fun f => Page.entryLink d 1 f.signature f.anchor).map .text,
        (t.methods.map fun f => Page.entryLink d 1 f.signature f.anchor).map .text] := by
  have hclear : ClearIn d ⟨root, g :: indexFrames, load⟩ :=
    clear_cons (clear_indexFrames hc) hg (by decide)
  have hvalue : (library d).value ⟨root, g :: indexFrames, load⟩ "entry" = t.toValue := by
    rw [value_cons, ht, Option.getD_some]
  have hfield {x : String} {v : Value} (hx : t.toValue.attr x = v) :
      (library d).eval ((library d).run (n + 1)) ⟨root, g :: indexFrames, load⟩
        (.attr (var "entry") x) = .ok v := by
    rw [eval_field hvalue rfl, hx]
  have hgs : ∀ f ∈ [g], f.value? "func_entry" = none :=
    List.forall_mem_singleton.2 (hg _ (by decide))
  refine .cons (writes_indexEntry hclear (by decide) (eval_num 0) (hfield (Value.attr_record rfl))
    hvalue rfl (Value.attr_record rfl)) (.cons ?_ (.cons ?_ .nil))
  · exact writes_funcEntries hc [g] hgs (fun f => hfull f g) (hloop g) (by decide)
      (hfield (Value.attr_record rfl))
  · exact writes_funcEntries hc [g] hgs (fun f => hfull f g) (hloop g) (by decide)
      (hfield (Value.attr_record rfl))

theorem isTrue_list {α : Type} (items : List α) (val : α → Value) :
    (Value.list (items.map val)).isTrue = !items.isEmpty := by
  rw [Value.isTrue, List.isEmpty_map]

theorem isTrue_or (v w : Value) : (if v.isTrue then v else w).isTrue = (v.isTrue || w.isTrue) := by
  cases h : v.isTrue <;> simp [h]

/-- The index is inserted in the context of its package. -/
theorem run_index {n : ℕ} (p : Page.Package) :
    (library d).run (n + 2) ⟨p.toValue, [{}, {}], 10⟩ indexTemplate =
      .ok (String.join (p.indexEntries d)) := by
  have hc : Clear (library d) p.toValue [] := clear_record rfl
  have hclear : ClearIn d ⟨p.toValue, indexFrames, 10⟩ := clear_indexFrames hc
  have hconsts : (library d).eval ((library d).run (n + 1)) ⟨p.toValue, indexFrames, 10⟩
      (var "consts") = .ok (.list (p.consts.map Page.Value.toValue)) :=
    eval_var (value_record rfl rfl rfl)
  have hvars : (library d).eval ((library d).run (n + 1)) ⟨p.toValue, indexFrames, 10⟩
      (var "vars") = .ok (.list (p.vars.map Page.Value.toValue)) :=
    eval_var (value_record rfl rfl rfl)
  have hfuncs : (library d).eval ((library d).run (n + 1)) ⟨p.toValue, indexFrames, 10⟩
      (var "funcs") = .ok (.list (p.funcs.map Page.Func.toValue)) :=
    eval_var (value_record rfl rfl rfl)
  have htypes : (library d).eval ((library d).run (n + 1)) ⟨p.toValue, indexFrames, 10⟩
      (var "types") = .ok (.list (p.types.map Page.TypeDecl.toValue)) :=
    eval_var (value_record rfl rfl rfl)
  have hspacer : (library d).eval ((library d).run (n + 1)) ⟨p.toValue, indexFrames, 10⟩
      (.call "inlineSpacer" []) = .ok (.str "\n") :=
    (eval_call0 hclear (by decide)).trans call_inlineSpacer
  have hany := eval_or (eval_or (eval_or hconsts hvars) hfuncs) htypes
  have hall : List.Forall₂ (WritesPieces d ((library d).run (n + 1)) ⟨p.toValue, indexFrames, 10⟩)
      (indexTemplate.drop 1)
      [if (Value.list (p.consts.map Page.Value.toValue)).isTrue then
          List.flatten [[.text (Page.sectionLink d "Constants")]] else [],
        if (Value.list (p.vars.map Page.Value.toValue)).isTrue then
          List.flatten [[.text (Page.sectionLink d "Variables")]] else [],
        (p.funcs.map fun f => Page.entryLink d 0 f.signature f.anchor).map .text,
        p.types.flatMap fun t => List.flatten [[.text (Page.entryLink d 0 t.title t.anchor)],
          (t.funcs.map fun f => Page.entryLink d 1 f.signature f.anchor).map .text,
          (t.methods.map fun f => Page.entryLink d 1 f.signature f.anchor).map .text],
        if !p.consts.isEmpty || !p.vars.isEmpty || !p.funcs.isEmpty || !p.types.isEmpty then
          List.flatten [[.text "\n"]] else []] := by
    rw [← isTrue_list p.consts Page.Value.toValue, ← isTrue_list p.vars Page.Value.toValue,
      ← isTrue_list p.funcs Page.Func.toValue, ← isTrue_list p.types Page.TypeDecl.toValue,
      ← isTrue_or, ← isTrue_or, ← isTrue_or]
    refine .cons ?consts (.cons ?vars (.cons ?funcs (.cons ?types (.cons ?spacer .nil))))
    case consts => exact writes_onlyIf hconsts (.cons (writes_sectionEntry hclear _) .nil)
    case vars => exact writes_onlyIf hvars (.cons (writes_sectionEntry hclear _) .nil)
    case funcs =>
      exact writes_funcEntries hc [] (List.forall_mem_nil _) (fun _ => rfl) rfl (by decide) hfuncs
    case types =>
      refine writes_loopPieces htypes rfl fun g t _ hg => ?_
      refine writes_typeEntries hc (fun _ _ => rfl) (fun _ => rfl) (hg.assign (by decide) _) ?_
      rw [Frame.value?_assign, if_pos rfl]
    case spacer => exact writes_onlyIf hany (.cons (writes_piece hspacer) .nil)
  have hrun : (library d).run (n + 2) ⟨p.toValue, [{}, {}], 10⟩ indexTemplate = _ :=
    run_of_writesAll (writesAll_cons (writes_define _ _ _) (writesAll_pieces hall))
  have hentries : (p.types.flatMap (Page.TypeDecl.indexEntries d)).map Piece.text =
      p.types.flatMap fun t => List.flatten [[.text (Page.entryLink d 0 t.title t.anchor)],
        (t.funcs.map fun f => Page.entryLink d 1 f.signature f.anchor).map .text,
        (t.methods.map fun f => Page.entryLink d 1 f.signature f.anchor).map .text] := by
    simp [List.map_flatMap, Page.TypeDecl.indexEntries]
  rw [hrun, List.nil_append, ← compose_texts (d := d) .words, compose, isTrue_list, isTrue_list,
    ← hentries, Page.Package.indexEntries]
  cases p.consts.isEmpty <;> cases p.vars.isEmpty <;> cases p.funcs.isEmpty <;>
    cases p.types.isEmpty <;> simp

/-! ## Sections -/

/-- The header of a package is its name, or its directory if it is a program. -/
theorem writes_packageHeader (p : Page.Package) :
    WritesPieces d enter { root := p.toValue }
      (.cond (.eq (var "name") (lit "main"))
        [emitCall "header" [var "level", var "dirname"]]
        [emitCall "header" [var "level", var "name"]])
      [.header p.level (if p.name = "main" then p.dirname else p.name)] := by
  have hc : ClearIn d { root := p.toValue } := clear_page rfl
  have hlevel : (library d).value { root := p.toValue } "level" = .int p.level := value_page rfl rfl
  have hname : (library d).value { root := p.toValue } "name" = .str p.name := value_page rfl rfl
  have hdirname : (library d).value { root := p.toValue } "dirname" = .str p.dirname :=
    value_page rfl rfl
  have htest : (library d).eval enter { root := p.toValue } (.eq (var "name") (lit "main")) =
      .ok (.bool (p.name == "main")) := by
    rw [Library.eval, eval_var hname, eval_lit]
    rfl
  refine writes_cond htest ?_
  rw [Value.isTrue, beq_eq_decide]
  by_cases hmain : p.name = "main"
  · rw [if_pos hmain, if_pos (decide_eq_true hmain)]
    exact writesAll_singleton (writes_header hc (eval_var hlevel) (eval_var hdirname))
  · rw [if_neg hmain, if_neg (by rwa [decide_eq_true_eq])]
    exact writesAll_singleton (writes_header hc (eval_var hlevel) (eval_var hname))

/-- A doc comment without blocks is left out, which makes no difference. -/
theorem writes_docIfAny {n : ℕ} (hc : ClearIn d c) {doc : Doc}
    (hdoc : (library d).value c "doc" = doc.toValue) (hdepth : doc.toValue.depth ≤ n) :
    WritesPieces d ((library d).run n) c
      (onlyIf (.attr (var "doc") "blocks") [.emit (textOf "doc" (var "doc"))]) [.doc doc] := by
  have hblocks : (library d).eval ((library d).run n) c (.attr (var "doc") "blocks") =
      .ok (.list (Block.toValues doc.blocks)) := by
    rw [eval_field hdoc rfl, show doc.toValue.attr "blocks" = _ from Value.attr_record rfl]
  refine writes_cond hblocks ?_
  rw [Value.isTrue]
  obtain ⟨level, blocks⟩ := doc
  cases blocks with
  | nil =>
    refine WritesAll.congr writesAll_nil ?_
    rw [List.map_cons, List.map_nil, concat_singleton, Piece.write, Block.writeAll, concat_nil]
  | cons b bs =>
    rw [Block.toValues]
    exact writesAll_singleton (writes_doc hc hdoc hdepth)

theorem isWord_natCast (n : ℕ) : isWord n = decide (n < 2 ^ 63) := by
  have hpow : Int.ofNat (Nat.pow 2 63) = 9223372036854775808 := by decide
  rw [isWord, hpow, Bool.eq_iff_iff, Bool.and_eq_true, decide_eq_true_eq, decide_eq_true_eq,
    decide_eq_true_eq]
  omega

theorem integerArgument_natCast (n : ℕ) :
    integerArgument (some (.int n)) = if n < 2 ^ 63 then .ok (n : ℤ) else fail .invalidOperation := by
  simp only [integerArgument, Value.int?, isWord_natCast, decide_eq_true_eq]

theorem add_natCast (a b : ℕ) :
    add a b = if a + b < 2 ^ 63 then .ok (.int ↑(a + b)) else fail .invalidOperation := by
  rw [add, ← Nat.cast_add, isWord_natCast]
  exact if_congr decide_eq_true_iff rfl rfl

/-- The level of a section is one below that of the package, if there is such a level. -/
theorem eval_sectionLevel (hc : ClearIn d c) {level : ℕ}
    (hlevel : (library d).value c "level" = .int level) :
    (library d).eval enter c (.call "add" [var "level", num 1]) =
      if level + 1 < 2 ^ 63 then .ok (.int ↑(level + 1)) else fail .invalidOperation := by
  have hone : integerArgument (some (.int ↑(1 : ℕ))) = .ok ↑(1 : ℕ) := by
    rw [integerArgument_natCast, if_pos (by omega)]
  rw [eval_call2 hc (by decide) (eval_var hlevel) (eval_num 1), call_add, hone,
    integerArgument_natCast]
  by_cases hlt : level < 2 ^ 63
  · rw [if_pos hlt, ok_bind, ok_bind, add_natCast]
  · rw [if_neg hlt, if_neg (fun hsucc => hlt (Nat.lt_of_succ_lt hsucc)), fail, error_bind, fail]

/-- A section of a package, one level below the package. -/
theorem writes_sectionHeader (hc : ClearIn d c) {level : ℕ} (hlt : level + 1 < 2 ^ 63)
    (hlevel : (library d).value c "level" = .int level) (title : String) :
    WritesPieces d enter c (sectionHeader title) [.header (level + 1) title] := by
  refine writes_header hc ?_ (eval_lit title)
  rw [eval_sectionLevel hc hlevel, if_pos hlt]

/-- A section of values is left out if there are none. -/
theorem writes_valueSection {n level : ℕ} (hc : ClearIn d c) (hlt : level + 1 < 2 ^ 63)
    (hlevel : (library d).value c "level" = .int level) {x : String} {vs : List Page.Value}
    (hx : (library d).value c x = .list (vs.map Page.Value.toValue)) (hfull : c.isFull 1 = false)
    (hdepth : ∀ v ∈ vs, v.toValue.depth ≤ n) (title : String) :
    WritesPieces d ((library d).run n) c
      (onlyIf (var x) [sectionHeader title, forEach "value" (var x) "value"])
      (Page.valueSection d (level + 1) title vs) := by
  have hvalues : WritesPieces d ((library d).run n) c (forEach "value" (var x) "value")
      (vs.flatMap (Page.Value.pieces d)) :=
    writes_forEach hc (by decide) rfl hx hfull fun v hv => run_value (hdepth v hv)
  have hsection := writes_onlyIf (eval_var hx)
    (.cons (writes_sectionHeader hc hlt hlevel title) (.cons hvalues .nil))
  rw [isTrue_list] at hsection
  rw [Page.valueSection]
  cases vs with
  | nil => exact hsection
  | cons v vs => simpa using hsection

/-! ## Packages -/

theorem run_import {n : ℕ} (p : Page.Package) :
    (library d).run (n + 1) ⟨p.toValue, [{}, {}], 10⟩ importTemplate =
      .ok (d.codeBlock "go" p.importDecl) := by
  have hc : ClearIn d ⟨p.toValue, [{}, {}], 10⟩ :=
    clear_cons (clear_page rfl) (Frame.bindsOnly_empty []) (by decide)
  have hall : List.Forall₂ (WritesPieces d ((library d).run n) ⟨p.toValue, [{}, {}], 10⟩)
      importTemplate [[.text (d.codeBlock "go" p.importDecl)]] :=
    .cons (writes_codeBlock hc (value_record rfl rfl rfl)) .nil
  rw [run_pieces hall, List.flatten_cons, List.flatten_nil, List.append_nil, compose_text]

/-- The doc comment of a package leaves room for the trees that the index enters. -/
theorem exists_add_of_depth_le {n : ℕ} {p : Page.Package} (h : p.toValue.depth ≤ n) :
    ∃ m, n = m + 3 := by
  obtain ⟨a, rfl⟩ := Value.exists_succ_of_depth_le h
  have hdoc : p.doc.toValue.depth ≤ a := Value.depth_field_le (x := "doc") h rfl rfl
  obtain ⟨b, rfl⟩ := Value.exists_succ_of_depth_le hdoc
  have hblocks : (Value.list (Block.toValues p.doc.blocks)).depth ≤ b :=
    Value.depth_field_le (x := "blocks") hdoc rfl rfl
  have hpos : 1 ≤ (Value.list (Block.toValues p.doc.blocks)).depth := Nat.le_add_right 1 _
  exact ⟨b - 1, by omega⟩

/-- What stands in front of the index. -/
theorem writes_packageFront {m : ℕ} {p : Page.Package} (h : p.toValue.depth ≤ m + 3) :
    List.Forall₂ (WritesPieces d ((library d).run (m + 2)) { root := p.toValue })
      (packageTemplate.take 4)
      [[.header p.level (if p.name = "main" then p.dirname else p.name)],
        [.text (d.codeBlock "go" p.importDecl)], [.doc p.doc],
        p.examples.flatMap (Page.Example.pieces d)] := by
  have hc : ClearIn d { root := p.toValue } := clear_page rfl
  refine .cons (writes_packageHeader p) (.cons ?decl (.cons ?doc (.cons ?examples .nil)))
  case decl => exact writes_insert (eval_lit _) rfl rfl (run_import p)
  case doc =>
    exact writes_docIfAny hc (value_page rfl rfl) (Value.depth_field_le (x := "doc") h rfl rfl)
  case examples =>
    refine writes_forEach hc (by decide) rfl (value_page rfl rfl) rfl fun e he => ?_
    exact run_example (Value.depth_item_le (x := "examples") h rfl he)

theorem run_package {n : ℕ} {p : Page.Package} (hlevel : p.level + 1 < 2 ^ 63)
    (h : p.toValue.depth ≤ n) :
    (library d).run n { root := p.toValue } packageTemplate = compose .words d (p.pieces d) := by
  obtain ⟨m, rfl⟩ := exists_add_of_depth_le h
  have hc : ClearIn d { root := p.toValue } := clear_page rfl
  have hroot : (library d).value { root := p.toValue } "level" = .int p.level := value_page rfl rfl
  have hrest : List.Forall₂ (WritesPieces d ((library d).run (m + 2)) { root := p.toValue })
      (packageTemplate.drop 4)
      [[.header (p.level + 1) "Index"], [.text (String.join (p.indexEntries d))],
        Page.valueSection d (p.level + 1) "Constants" p.consts,
        Page.valueSection d (p.level + 1) "Variables" p.vars,
        p.funcs.flatMap (Page.Func.pieces d), p.types.flatMap (Page.TypeDecl.pieces d)] := by
    refine .cons ?indexHeader (.cons ?index (.cons ?consts (.cons ?vars (.cons ?funcs
      (.cons ?types .nil)))))
    case indexHeader => exact writes_sectionHeader hc hlevel hroot _
    case index => exact writes_insert (eval_lit _) rfl rfl (run_index p)
    case consts =>
      exact writes_valueSection hc hlevel hroot (value_page rfl rfl) rfl
        (fun _ => Value.depth_item_le (x := "consts") h rfl) _
    case vars =>
      exact writes_valueSection hc hlevel hroot (value_page rfl rfl) rfl
        (fun _ => Value.depth_item_le (x := "vars") h rfl) _
    case funcs =>
      refine writes_forEach hc (by decide) rfl (value_page rfl rfl) rfl fun f hf => ?_
      exact run_func (Value.depth_item_le (x := "funcs") h rfl hf)
    case types =>
      refine writes_forEach hc (by decide) rfl (value_page rfl rfl) rfl fun t ht => ?_
      exact run_type (Value.depth_item_le (x := "types") h rfl ht)
  have hrun : (library d).run (m + 3) { root := p.toValue } packageTemplate = _ :=
    run_pieces (List.rel_append (writes_packageFront h) hrest)
  rw [hrun]
  simp [Page.Package.pieces]

/-- Without a level for the sections, a package fails at its index unless it has failed before. -/
theorem run_package_of_le {n : ℕ} {p : Page.Package} (hlevel : 2 ^ 63 ≤ p.level + 1)
    (h : p.toValue.depth ≤ n) :
    (library d).run n { root := p.toValue } packageTemplate =
      concat ((.header p.level (if p.name = "main" then p.dirname else p.name) ::
        .text (d.codeBlock "go" p.importDecl) :: .doc p.doc ::
        p.examples.flatMap (Page.Example.pieces d)).map (Piece.write .words d) ++
          [fail .invalidOperation]) := by
  obtain ⟨m, rfl⟩ := exists_add_of_depth_le h
  have hc : ClearIn d { root := p.toValue } := clear_page rfl
  have hroot : (library d).value { root := p.toValue } "level" = .int p.level := value_page rfl rfl
  have hadd : (library d).eval ((library d).run (m + 2)) { root := p.toValue }
      (.call "add" [var "level", num 1]) = fail .invalidOperation := by
    rw [eval_sectionLevel hc hroot, if_neg (Nat.not_lt.2 hlevel)]
  have hindex : Writes (library d) ((library d).run (m + 2)) { root := p.toValue }
      (sectionHeader "Index") { root := p.toValue } [fail .invalidOperation] :=
    writes_emit_error (eval_call_first_error hadd)
  have hall := writesAll_piecesAppend (writes_packageFront h)
    (writesAll_cons_error hindex (packageTemplate.drop 5))
  have hsplit : packageTemplate =
      packageTemplate.take 4 ++ sectionHeader "Index" :: packageTemplate.drop 5 := rfl
  rw [hsplit, run_of_writesAll hall, fail]
  simp

/-- Trees may be entered as often as the package is nested, and whether more often makes no difference. -/
theorem run_package_eq_render {n : ℕ} {p : Page.Package} (h : p.toValue.depth ≤ n) :
    (library d).run n { root := p.toValue } packageTemplate = (library d).render "package" p.toValue := by
  have hrender : (library d).render "package" p.toValue =
      (library d).run (baseDepth + p.toValue.depth) { root := p.toValue } packageTemplate := rfl
  have hle : p.toValue.depth ≤ baseDepth + p.toValue.depth := Nat.le_add_left _ _
  rw [hrender]
  by_cases hlevel : p.level + 1 < 2 ^ 63
  · rw [run_package hlevel h, run_package hlevel hle]
  · rw [run_package_of_le (Nat.not_lt.1 hlevel) h, run_package_of_le (Nat.not_lt.1 hlevel) hle]

/-- Rendering a package writes its pieces, read as machine words. -/
theorem render_package_eq (d : Dialect) {p : Page.Package} (h : p.level ≤ 2 ^ 62) :
    (library d).render "package" p.toValue = compose .words d (p.pieces d) :=
  run_package (Nat.lt_of_le_of_lt (Nat.succ_le_succ h) (by decide)) (Nat.le_add_left _ _)

/-- **The sections of a package stand in a fixed order**: a page that is rendered is the concatenation of
the pieces of its package, in every dialect. -/
theorem compose_of_render_package (d : Dialect) (p : Page.Package) (hlevel : p.level ≤ 2 ^ 62)
    {text : String} (h : (library d).render "package" p.toValue = .ok text) :
    compose .exact d (p.pieces d) = .ok text := by
  rw [render_package_eq d hlevel] at h
  exact (agree_compose d (p.pieces d)).2 text h

/-- A method of a type `T`. -/
def toolMethod : Page.Func :=
  ⟨3, "Run", "T", "func (T) Run", "T.Run", "", ⟨4, []⟩, "func (T) Run()",
    ⟨⟨3, 1⟩, ⟨3, 9⟩, "a.go", "", none⟩, []⟩

/-- A program with a constant and a type with a method. -/
def tool : Page.Package where
  level := 1
  name := "main"
  dirname := "tool"
  dir := "tool"
  importPath := "tool"
  importDecl := "import \"tool\""
  summary := ""
  doc := ⟨2, [.paragraph 2 [.text "A tool."]]⟩
  examples := []
  consts :=
    [⟨2, ["A"], "A", "", ⟨3, []⟩, "const A = 1", ⟨⟨1, 1⟩, ⟨1, 9⟩, "a.go", "", none⟩⟩]
  vars := []
  funcs := []
  types :=
    [⟨2, "T", "type T", "T", "", ⟨3, []⟩, "type T int", ⟨⟨2, 1⟩, ⟨2, 9⟩, "a.go", "", none⟩,
      [], [], [], [], [toolMethod]⟩]

/-- The page of the program. -/
def toolPage : String :=
  "# tool\n\n\x60\x60\x60go\nimport \"tool\"\n\x60\x60\x60\n\nA tool\\.\n\n" ++
  "## Index\n\n- [Constants](<#constants>)\n- [type T](<#T>)\n" ++
  "  - [func \\(T\\) Run\\(\\)](<#T.Run>)\n\n" ++
  "## Constants\n\n<a name=\"A\"></a>\n\n\x60\x60\x60go\nconst A = 1\n\x60\x60\x60\n\n" ++
  "## <a name=\"T\"></a> type T\n\n\x60\x60\x60go\ntype T int\n\x60\x60\x60\n\n" ++
  "### <a name=\"T.Run\"></a> func \\(T\\) Run\n\n\x60\x60\x60go\nfunc (T) Run()\n\x60\x60\x60\n\n"

theorem compose_of_render_package_tool :
    (library .github).render "package" tool.toValue = .ok toolPage ∧
      compose .exact .github (tool.pieces .github) = .ok toolPage := by
  have hrender : (library .github).render "package" tool.toValue = .ok toolPage := by
    rw [render_package_eq .github (by decide)]
    decide +kernel
  exact ⟨hrender, compose_of_render_package .github tool (by decide) hrender⟩

end DocPages.Render
