import DocPages.Proofs.Render.DocTemplate

/-!
# The templates of entities

The templates for types, functions, values and examples write the pieces of their entity in order.

1. Each kind of statement writes its pieces: a header, the header of a declaration, a doc comment, and the
   pieces of each entity of a list (`writes_header`, `writes_sourceHeader`, `writes_doc`,
   `writes_forEach`).
2. From that, what each template writes (`run_example`, `run_value`, `run_func`, `run_type`).
-/

namespace DocPages.Render

open Template Text

variable {d : Dialect} {enter : Enter} {c : Context}

/-! ## Statements -/

/-- The statement writes the given pieces and leaves the context as it is. -/
def WritesPieces (d : Dialect) (enter : Enter) (c : Context) (s : Stmt) (ps : List Piece) : Prop :=
  Writes (library d) enter c s c (ps.map (Piece.write .words d))

/-- Statements that write pieces, and some others behind them. -/
theorem writesAll_piecesAppend {ss ts : List Stmt} {pss : List (List Piece)} {after : Context}
    {rs : List (Except Error String)} (hss : List.Forall₂ (WritesPieces d enter c) ss pss)
    (hts : WritesAll (library d) enter c ts after rs) :
    WritesAll (library d) enter c (ss ++ ts) after (pss.flatten.map (Piece.write .words d) ++ rs) := by
  induction hss with
  | nil => exact hts
  | cons hs _ ih =>
    rw [List.flatten_cons, List.map_append, List.append_assoc]
    exact writesAll_cons hs ih

theorem writesAll_pieces {ss : List Stmt} {pss : List (List Piece)}
    (h : List.Forall₂ (WritesPieces d enter c) ss pss) :
    WritesAll (library d) enter c ss c (pss.flatten.map (Piece.write .words d)) := by
  simpa using writesAll_piecesAppend h writesAll_nil

/-- A template writes the pieces of its statements one after another. -/
theorem run_pieces {n : ℕ} {ss : List Stmt} {pss : List (List Piece)}
    (h : List.Forall₂ (WritesPieces d ((library d).run n) c) ss pss) :
    (library d).run (n + 1) c ss = compose .words d pss.flatten :=
  run_of_writesAll (writesAll_pieces h)

theorem writes_piece {e : Expr} {p : Piece}
    (h : (library d).eval enter c e = (p.write .words d).map .str) :
    WritesPieces d enter c (.emit e) [p] :=
  writes_emit h

theorem writes_onlyIf {test : Expr} {v : Value} {yes : List Stmt} {pss : List (List Piece)}
    (htest : (library d).eval enter c test = .ok v)
    (hyes : List.Forall₂ (WritesPieces d enter c) yes pss) :
    WritesPieces d enter c (onlyIf test yes) (if v.isTrue then pss.flatten else []) := by
  refine writes_cond htest ?_
  cases v.isTrue with
  | false => exact writesAll_nil
  | true => exact writesAll_pieces hyes

/-- All functions can be called in the context. -/
def ClearIn (d : Dialect) (c : Context) : Prop :=
  Clear (library d) c.root c.frames

/-- The data of a page hides no function. -/
theorem clear_page {es : List (String × Value)}
    (h : (es.map (·.1)).all (!functionNames.contains ·) = true) :
    ClearIn d { root := record es } :=
  clear_cons (clear_record h) (Frame.bindsOnly_empty []) (by decide)

theorem writes_codeBlock (hc : ClearIn d c) {language x code : String}
    (hx : (library d).value c x = .str code) :
    WritesPieces d enter c (emitCall "codeBlock" [lit language, var x])
      [.text (d.codeBlock language code)] :=
  writes_piece (eval_codeBlock hc (eval_lit language) (eval_var hx))

theorem writes_header (hc : ClearIn d c) {a b : Expr} {level : ℕ}
    {title : String} (ha : (library d).eval enter c a = .ok (.int level))
    (hb : (library d).eval enter c b = .ok (.str title)) :
    WritesPieces d enter c (emitCall "header" [a, b]) [.header level title] := by
  refine writes_piece ?_
  rw [eval_call2 hc (by decide) ha hb, call_header, Piece.write, count_words]
  cases countArgument (some (.int level)) with
  | error e => rfl
  | ok l => exact piece_eq_map_raised _

/-- The name of a declaration as a link to its source. -/
theorem eval_sourceLink (hc : ClearIn d c) {name : String} {location : Location}
    (hname : (library d).value c "name" = .str name)
    (hlocation : (library d).value c "location" = location.toValue) :
    (library d).eval enter c sourceLink =
      (sourceHref .words d location).map fun href =>
        .str (Dialect.link (Dialect.escape name) href) := by
  have hescape : (library d).eval enter c (.call "escape" [var "name"]) =
      .ok (.str (Dialect.escape name)) := eval_escape hc (eval_var hname)
  have hhref : (library d).eval enter c (.call "codeHref" [var "location"]) =
      (sourceHref .words d location).map .str := by
    rw [eval_call1 hc (by decide) (eval_var hlocation), call_codeHref, sourceHref, place_words]
    cases locationArgument (some location.toValue) with
    | error e => rfl
    | ok l => exact piece_eq_map_raised _
  rw [sourceLink]
  cases h : sourceHref .words d location with
  | error e =>
    rw [h] at hhref
    exact eval_call_error hescape hhref
  | ok href =>
    rw [h] at hhref
    exact eval_link hc hescape hhref

/-- The header of a declaration. -/
theorem writes_sourceHeader (hc : ClearIn d c) {level : ℕ}
    {name anchor : String} {location : Location} {e : Expr} {what : String}
    (hlevel : (library d).value c "level" = .int level)
    (hname : (library d).value c "name" = .str name)
    (hlocation : (library d).value c "location" = location.toValue)
    (hanchor : (library d).value c "anchor_name" = .str anchor)
    (hwhat : (library d).eval enter c e = .ok (.str what)) :
    WritesPieces d enter c
      (emitCall "rawAnchorHeader" [var "level", .concat e sourceLink, var "anchor_name"])
      [.sourceHeader level what name location anchor] := by
  have htitle : (library d).eval enter c (.concat e sourceLink) =
      (sourceHref .words d location).map fun href =>
        .str (what ++ Dialect.link (Dialect.escape name) href) := by
    rw [Library.eval, hwhat, ok_bind, eval_sourceLink hc hname hlocation]
    cases sourceHref .words d location <;> rfl
  refine writes_piece ?_
  rw [Piece.write]
  cases h : sourceHref .words d location with
  | error err =>
    rw [h] at htitle
    exact eval_call_error (eval_var hlevel) htitle
  | ok href =>
    rw [h] at htitle
    rw [eval_call3 hc (by decide) (eval_var hlevel) htitle (eval_var hanchor),
      call_rawAnchorHeader, count_words, ok_bind]
    cases countArgument (some (.int level)) with
    | error err => rfl
    | ok l => exact piece_eq_map_raised _

theorem writes_doc {n : ℕ} (hc : ClearIn d c) {doc : Doc}
    (hdoc : (library d).value c "doc" = doc.toValue) (hdepth : doc.toValue.depth ≤ n) :
    WritesPieces d ((library d).run n) c (.emit (textOf "doc" (var "doc"))) [.doc doc] := by
  have htext : (library d).eval ((library d).run n) c (textOf "doc" (var "doc")) = _ :=
    eval_render hc rfl rfl (eval_var hdoc)
  refine writes_piece ?_
  rw [htext, run_doc_toValue hdepth, Piece.write]

/-- A loop writes the pieces of its items. -/
theorem writes_loopPieces {α : Type} {x : String} {e : Expr} {body : List Stmt} {items : List α}
    {val : α → Value} {pss : α → List (List Piece)}
    (he : (library d).eval enter c e = .ok (.list (items.map val))) (hfull : c.isFull 1 = false)
    (hbody : ∀ f : Frame, ∀ a ∈ items, f.BindsOnly ["loop", x] →
      List.Forall₂ (WritesPieces d enter (c.push (f.assign x (val a)))) body (pss a)) :
    WritesPieces d enter c (.loop [x] e body []) (items.flatMap fun a => (pss a).flatten) := by
  unfold WritesPieces
  rw [List.map_flatMap]
  exact writes_loop_of_writesAll he hfull fun f a ha hf => writesAll_pieces (hbody f a ha hf)

/-- A loop that renders each entity of a list writes what the template writes for each. -/
theorem writes_renderEach {α : Type} (hc : ClearIn d c) {x y template : String}
    {body : Body} {items : List α} {val : α → Value} {r : α → List (Except Error String)}
    (hx : ∀ z ∈ ["loop", x], z ∉ functionNames)
    (htemplate : defaultTemplates.lookup template = some body)
    (hy : (library d).value c y = .list (items.map val)) (hfull : c.isFull 1 = false)
    (hrun : ∀ a ∈ items, enter { root := val a } body = concat (r a)) :
    Writes (library d) enter c (forEach x (var y) template) c (items.flatMap r) := by
  refine writes_loop_of_writesAll (eval_var hy) hfull fun f a ha hf => ?_
  have hmem : x ∈ ["loop", x] := List.mem_cons_of_mem _ List.mem_cons_self
  have hvalue : (library d).value (c.push (f.assign x (val a))) x = val a := by
    rw [Context.push, value_cons, Frame.value?_assign, if_pos rfl, Option.getD_some]
  have hclear : Clear (library d) c.root (f.assign x (val a) :: c.frames) :=
    clear_cons hc (hf.assign hmem _) hx
  have htext : (library d).eval enter (c.push (f.assign x (val a))) (textOf template (var x)) = _ :=
    eval_render hclear rfl htemplate (eval_var hvalue)
  rw [hrun a ha] at htext
  exact (writesAll_emit htext).congr (concat_singleton _)

/-- A loop that renders each entity of a list writes the pieces of the entities. -/
theorem writes_forEach {α : Type} (hc : ClearIn d c) {x y template : String}
    {body : Body} {items : List α} {val : α → Value} {pieces : α → List Piece}
    (hx : ∀ z ∈ ["loop", x], z ∉ functionNames)
    (htemplate : defaultTemplates.lookup template = some body)
    (hy : (library d).value c y = .list (items.map val)) (hfull : c.isFull 1 = false)
    (hrun : ∀ a ∈ items, enter { root := val a } body = compose .words d (pieces a)) :
    WritesPieces d enter c (forEach x (var y) template) (items.flatMap pieces) := by
  unfold WritesPieces
  rw [List.map_flatMap]
  exact writes_renderEach hc hx htemplate hy hfull hrun

/-! ## Examples, values and functions -/

theorem run_example {n : ℕ} {e : Page.Example} (h : e.toValue.depth ≤ n) :
    (library d).run n { root := e.toValue } exampleTemplate = compose .words d (e.pieces d) := by
  obtain ⟨m, rfl⟩ := Value.exists_succ_of_depth_le h
  have hc : ClearIn d { root := e.toValue } := clear_page rfl
  have htitle : (library d).value { root := e.toValue } "title" = .str e.title := value_page rfl rfl
  have hall : List.Forall₂ (WritesPieces d ((library d).run m) { root := e.toValue })
      exampleTemplate [[.accordionHeader e.title], [.doc e.doc], [.text (d.codeBlock "go" e.code)],
        if (Value.bool e.output.isSome).isTrue then
          List.flatten [[.header 4 "Output"], [.text (d.codeBlock "" (e.output.getD ""))]] else [],
        [.text d.accordionTerminator]] := by
    refine .cons ?header (.cons ?doc (.cons ?code (.cons ?output (.cons ?terminator .nil))))
    case header =>
      refine writes_piece ?_
      rw [eval_call1 hc (by decide) (eval_var htitle), call_accordionHeader]
      exact piece_eq_map_raised _
    case doc =>
      exact writes_doc hc (value_page rfl rfl) (Value.depth_field_le (x := "doc") h rfl rfl)
    case code => exact writes_codeBlock hc (value_page rfl rfl)
    case output =>
      refine writes_onlyIf (eval_var (value_page rfl rfl)) (.cons ?_ (.cons ?_ .nil))
      · exact writes_header hc (eval_num 4) (eval_lit _)
      · exact writes_codeBlock hc (value_page rfl rfl)
    case terminator =>
      refine writes_piece ?_
      rw [eval_call0 hc (by decide), call_accordionTerminator]
      rfl
  rw [run_pieces hall]
  cases h : e.output <;> simp [Page.Example.pieces, h, Value.isTrue]

/-- The frame of a value, with its anchor. -/
def valueFrame (d : Dialect) (v : Page.Value) : Frame :=
  ({} : Frame).assign "target" (.str (d.anchor v.anchor))

theorem bindsOnly_valueFrame (v : Page.Value) : (valueFrame d v).BindsOnly ["target"] :=
  (Frame.bindsOnly_empty _).assign List.mem_cons_self _

theorem run_value {n : ℕ} {v : Page.Value} (h : v.toValue.depth ≤ n) :
    (library d).run n { root := v.toValue } valueTemplate = compose .words d (v.pieces d) := by
  obtain ⟨m, rfl⟩ := Value.exists_succ_of_depth_le h
  have hname : (library d).value { root := v.toValue } "anchor_name" = .str v.anchor :=
    value_page rfl rfl
  have hanchor : (library d).eval ((library d).run m) { root := v.toValue }
      (.call "anchor" [var "anchor_name"]) = .ok (.str (d.anchor v.anchor)) :=
    eval_call1 (clear_page rfl) (by decide) (eval_var hname)
  have hassign : Writes (library d) ((library d).run m) { root := v.toValue }
      (.assign "target" (.call "anchor" [var "anchor_name"])) ⟨v.toValue, [valueFrame d v], 0⟩ [] :=
    writes_assign hanchor "target"
  -- the anchor is bound from here on
  have hc : ClearIn d ⟨v.toValue, [valueFrame d v], 0⟩ :=
    clear_cons (clear_record rfl) (bindsOnly_valueFrame v) (by decide)
  have htarget : (library d).value ⟨v.toValue, [valueFrame d v], 0⟩ "target" =
      .str (d.anchor v.anchor) := by
    rw [value_cons, valueFrame, Frame.value?_assign, if_pos rfl, Option.getD_some]
  have hall : List.Forall₂ (WritesPieces d ((library d).run m) ⟨v.toValue, [valueFrame d v], 0⟩)
      (valueTemplate.drop 1)
      [if (Value.str (d.anchor v.anchor)).isTrue then
        List.flatten [[.text (d.anchor v.anchor)], [.text "\n\n"]] else [],
        [.doc v.doc], [.text (d.codeBlock "go" v.decl)]] := by
    refine .cons ?anchor (.cons ?doc (.cons ?decl .nil))
    case anchor =>
      refine writes_onlyIf (eval_var htarget) (.cons (writes_piece (eval_var htarget)) (.cons ?_ .nil))
      refine writes_piece ?_
      rw [eval_call0 hc (by decide), call_spacer]
      rfl
    case doc =>
      exact writes_doc hc (value_record rfl rfl rfl) (Value.depth_field_le (x := "doc") h rfl rfl)
    case decl => exact writes_codeBlock hc (value_record rfl rfl rfl)
  have hrun : (library d).run (m + 1) { root := v.toValue } valueTemplate = _ :=
    run_of_writesAll (writesAll_cons hassign (writesAll_pieces hall))
  rw [hrun, compose, Page.Value.pieces]
  cases h : (d.anchor v.anchor).isEmpty <;> simp [Value.isTrue, h]

/-- The header of a function names its receiver, if it has one. -/
theorem writes_funcHeader {f : Page.Func} :
    WritesPieces d enter { root := f.toValue }
      (.cond (var "receiver")
        [emitCall "rawAnchorHeader" [var "level",
          .concat (.concat (.concat (lit "func \\(") (.call "escape" [var "receiver"])) (lit "\\) "))
            sourceLink,
          var "anchor_name"]]
        [emitCall "rawAnchorHeader"
          [var "level", .concat (lit "func ") sourceLink, var "anchor_name"]])
      [.sourceHeader f.level f.what f.name f.location f.anchor] := by
  have hc : ClearIn d { root := f.toValue } := clear_page rfl
  have hreceiver : (library d).value { root := f.toValue } "receiver" = .str f.receiver :=
    value_page rfl rfl
  refine writes_cond (eval_var hreceiver) ?_
  rw [Value.isTrue, Page.Func.what]
  cases f.receiver.isEmpty with
  | true =>
    exact writesAll_singleton (writes_sourceHeader hc (value_page rfl rfl) (value_page rfl rfl)
      (value_page rfl rfl) (value_page rfl rfl) (eval_lit _))
  | false =>
    exact writesAll_singleton (writes_sourceHeader hc (value_page rfl rfl) (value_page rfl rfl)
      (value_page rfl rfl) (value_page rfl rfl)
      (eval_concat (eval_concat (eval_lit _) (eval_escape hc (eval_var hreceiver))) (eval_lit _)))

theorem run_func {n : ℕ} {f : Page.Func} (h : f.toValue.depth ≤ n) :
    (library d).run n { root := f.toValue } funcTemplate = compose .words d (f.pieces d) := by
  obtain ⟨m, rfl⟩ := Value.exists_succ_of_depth_le h
  have hc : ClearIn d { root := f.toValue } := clear_page rfl
  have hall : List.Forall₂ (WritesPieces d ((library d).run m) { root := f.toValue }) funcTemplate
      [[.sourceHeader f.level f.what f.name f.location f.anchor],
        [.text (d.codeBlock "go" f.signature)], [.doc f.doc],
        f.examples.flatMap (Page.Example.pieces d)] := by
    refine .cons writes_funcHeader (.cons ?signature (.cons ?doc (.cons ?examples .nil)))
    case signature => exact writes_codeBlock hc (value_page rfl rfl)
    case doc =>
      exact writes_doc hc (value_page rfl rfl) (Value.depth_field_le (x := "doc") h rfl rfl)
    case examples =>
      refine writes_forEach hc (by decide) rfl (value_page rfl rfl) rfl fun e he => ?_
      exact run_example (Value.depth_item_le (x := "examples") h rfl he)
  rw [run_pieces hall]
  simp [Page.Func.pieces]

/-! ## Types -/

theorem run_type {n : ℕ} {t : Page.TypeDecl} (h : t.toValue.depth ≤ n) :
    (library d).run n { root := t.toValue } typeTemplate = compose .words d (t.pieces d) := by
  obtain ⟨m, rfl⟩ := Value.exists_succ_of_depth_le h
  have hc : ClearIn d { root := t.toValue } := clear_page rfl
  have hall : List.Forall₂ (WritesPieces d ((library d).run m) { root := t.toValue }) typeTemplate
      [[.sourceHeader t.level "type " t.name t.location t.anchor], [.doc t.doc],
        [.text (d.codeBlock "go" t.decl)], t.consts.flatMap (Page.Value.pieces d),
        t.vars.flatMap (Page.Value.pieces d), t.examples.flatMap (Page.Example.pieces d),
        t.funcs.flatMap (Page.Func.pieces d), t.methods.flatMap (Page.Func.pieces d)] := by
    refine .cons ?header (.cons ?doc (.cons ?decl (.cons ?consts (.cons ?vars (.cons ?examples
      (.cons ?funcs (.cons ?methods .nil)))))))
    case header =>
      exact writes_sourceHeader hc (value_page rfl rfl) (value_page rfl rfl) (value_page rfl rfl)
        (value_page rfl rfl) (eval_lit _)
    case doc =>
      exact writes_doc hc (value_page rfl rfl) (Value.depth_field_le (x := "doc") h rfl rfl)
    case decl => exact writes_codeBlock hc (value_page rfl rfl)
    case consts =>
      refine writes_forEach hc (by decide) rfl (value_page rfl rfl) rfl fun v hv => ?_
      exact run_value (Value.depth_item_le (x := "consts") h rfl hv)
    case vars =>
      refine writes_forEach hc (by decide) rfl (value_page rfl rfl) rfl fun v hv => ?_
      exact run_value (Value.depth_item_le (x := "vars") h rfl hv)
    case examples =>
      refine writes_forEach hc (by decide) rfl (value_page rfl rfl) rfl fun e he => ?_
      exact run_example (Value.depth_item_le (x := "examples") h rfl he)
    case funcs =>
      refine writes_forEach hc (by decide) rfl (value_page rfl rfl) rfl fun f hf => ?_
      exact run_func (Value.depth_item_le (x := "funcs") h rfl hf)
    case methods =>
      refine writes_forEach hc (by decide) rfl (value_page rfl rfl) rfl fun f hf => ?_
      exact run_func (Value.depth_item_le (x := "methods") h rfl hf)
  rw [run_pieces hall]
  simp [Page.TypeDecl.pieces]

end DocPages.Render
