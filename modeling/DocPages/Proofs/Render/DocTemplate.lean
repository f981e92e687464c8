import DocPages.Proofs.Render.Library

/-!
# The templates for doc comments

The templates for doc comments and for lists enter each other. Together they write a doc comment as the
structure of its blocks says (`render_doc`).

1. The macro for spans writes the markup of each span (`writes_span`, `run_inline`), and a call from the
   loop over blocks finds it in the outer frame (`eval_inline`).
2. A block is written by the branch for its kind (`writes_block`), an item with its marker, its text
   indented and a gap behind it unless it is the last one (`writes_item`, `concat_mapIdx_withGap`).
3. The data of an item is nested less deep than that of the comment, so that the number of templates
   entered inside of each other is bounded by the depth of the data (`run_doc`).
-/

namespace DocPages

open Template Text Render

/-! ## Values -/

/-- The value of an item. -/
def Item.toValue (i : Item (List Span)) : Template.Value :=
  record [("kind", .str (if i.number.isSome then "ordered" else "unordered")),
    ("number", .int (i.number.getD 0)), ("blocks", .list (Block.toValues i.blocks))]

theorem Block.toValues_eq_map (bs : List (Block (List Span))) :
    Block.toValues bs = bs.map Block.toValue := by
  induction bs with
  | nil => rw [Block.toValues]; rfl
  | cons b bs ih => rw [Block.toValues, ih, List.map_cons]

theorem Item.toValues_eq_map (items : List (Item (List Span))) :
    Item.toValues items = items.map Item.toValue := by
  induction items with
  | nil => rw [Item.toValues]; rfl
  | cons i items ih =>
    obtain ⟨number, blocks⟩ := i
    rw [Item.toValues, ih, List.map_cons]
    rfl

/-- The value of a list. -/
def listValue (between : Bool) (items : List (Item (List Span))) : Template.Value :=
  record [("blankBetween", .bool between), ("items", .list (items.map Item.toValue))]

theorem Block.attr_kind (b : Block (List Span)) : b.toValue.attr "kind" = .str b.kindName := by
  cases b <;> rw [Block.toValue] <;> first | rfl | exact fun _ _ _ h => nomatch h

theorem Block.attr_list (level : Nat) (between : Bool) (items : List (Item (List Span))) :
    (Block.list level between items).toValue.attr "list" = listValue between items := by
  rw [Block.toValue, listValue, Item.toValues_eq_map]; rfl

namespace Render

/-! ## Spans -/

variable {d : Dialect} {enter : Enter} {root : Value} {fs : List Frame} {load : ℕ}

theorem eval_isKind {c : Context} {x kind k : String} {v : Value} {b : Bool}
    (hx : (library d).value c x = v) (hv : v.isUndefined = false) (hkind : v.attr "kind" = .str kind)
    (hb : (kind == k) = b) : (library d).eval enter c (isKind x k) = .ok (.bool b) := by
  simp only [isKind, var, lit, Library.eval, ok_bind, hx, hv, hkind, Bool.false_eq_true, if_false,
    pure_ok, Value.eq, hb]

/-- The statements of the macro for spans. -/
def inlineBody : Body :=
  match inlineMacro with
  | .define _ _ body => body
  | _ => []

/-- The statements of the macro for one span. -/
def spanBody : Body :=
  match inlineBody with
  | [.loop _ _ body _] => body
  | _ => []

theorem writes_span {f : Frame} (hc : Clear (library d) root (f :: fs)) {s : Span}
    (hf : f.value? "span" = some s.toValue) :
    WritesAll (library d) enter ⟨root, f :: fs, load⟩ spanBody ⟨root, f :: fs, load⟩
      [.ok (s.markup d)] := by
  have hspan : (library d).value ⟨root, f :: fs, load⟩ "span" = s.toValue := by
    rw [value_cons, hf, Option.getD_some]
  have htext : (library d).eval enter ⟨root, f :: fs, load⟩ (.attr (var "span") "text") =
      .ok (.str s.display) := eval_field hspan rfl _
  have hurl : (library d).eval enter ⟨root, f :: fs, load⟩ (.attr (var "span") "url") =
      .ok (.str s.target) := eval_field hspan rfl _
  have hkind (k : String) : (library d).eval enter ⟨root, f :: fs, load⟩ (isKind "span" k) =
      .ok (.bool (s.kindName == k)) := eval_isKind hspan rfl rfl rfl
  have hescape := eval_escape hc htext
  cases s with
  | text t =>
    exact writesAll_of_true (hkind _) (writesAll_emit hescape)
  | link t url =>
    exact writesAll_of_false (hkind _) (writesAll_of_true (hkind _)
      (writesAll_emit (eval_link hc hescape hurl)))
  | localLink t anchor =>
    exact writesAll_of_false (hkind _) (writesAll_of_false (hkind _) (writesAll_of_true (hkind _)
      (writesAll_emit (eval_link hc hescape (eval_rawLocalHref hc hurl)))))
  | raw t =>
    exact writesAll_of_false (hkind _) (writesAll_of_false (hkind _)
      (writesAll_of_false (hkind _) (writesAll_emit htext)))
  | autolink t =>
    exact writesAll_of_false (hkind _) (writesAll_of_false (hkind _)
      (writesAll_of_false (hkind _) (writesAll_emit htext)))

/-- The macro writes the spans that it is given. -/
theorem run_inline {n : ℕ} {f : Frame} (hc : Clear (library d) root (f :: fs)) {spans : List Span}
    (hf : f.value? "spans" = some (.list (spans.map Span.toValue)))
    (hfull : (⟨root, f :: fs, load⟩ : Context).isFull 1 = false) :
    (library d).run (n + 1) ⟨root, f :: fs, load⟩ inlineBody = .ok (d.inline spans) := by
  have hspans : (library d).value ⟨root, f :: fs, load⟩ "spans" = .list (spans.map Span.toValue) := by
    rw [value_cons, hf, Option.getD_some]
  have hloop : Writes (library d) ((library d).run n) ⟨root, f :: fs, load⟩
      (.loop ["span"] (var "spans") spanBody []) ⟨root, f :: fs, load⟩
      (spans.flatMap fun s => [.ok (s.markup d)]) := by
    refine writes_loop_of_writesAll (eval_var hspans) hfull fun g s _ hg => ?_
    refine writes_span (clear_cons hc (hg.assign (by decide) _) (by decide)) ?_
    rw [Frame.value?_assign, if_pos rfl]
  have hrun : (library d).run (n + 1) ⟨root, f :: fs, load⟩ inlineBody = _ :=
    run_of_writesAll (writesAll_singleton hloop)
  rw [hrun, ← List.map_eq_flatMap, concat_map_ok]
  rfl

/-! ## Blocks -/

/-- The frame of a doc comment, with the macro for spans. -/
def inlineFrame : Frame :=
  ({} : Frame).define "inline" ⟨[("spans", none)], inlineBody⟩

theorem bindsOnly_inlineFrame : inlineFrame.BindsOnly ["inline"] :=
  (Frame.bindsOnly_empty _).define List.mem_cons_self _

/-- The context of a block, with a frame for the loop over blocks. -/
abbrev blockContext (root : Value) (f : Frame) : Context :=
  ⟨root, [f, inlineFrame], 0⟩

/-- A call of the macro inside of the loop over blocks. -/
theorem eval_inline {n : ℕ} (hc : Clear (library d) root []) {f : Frame}
    (hf : f.BindsOnly ["loop", "block"]) {e : Expr} {spans : List Span}
    (he : (library d).eval ((library d).run (n + 1)) (blockContext root f) e =
      .ok (.list (spans.map Span.toValue))) :
    (library d).eval ((library d).run (n + 1)) (blockContext root f) (.call "inline" [e]) =
      .ok (.str (d.inline spans)) := by
  have hframe : frameOf "inline" [f, inlineFrame] = [inlineFrame] := by
    rw [frameOf, hf "inline" (by decide)]
    rfl
  have hargs : (library d).evalAll ((library d).run (n + 1)) (blockContext root f) [e] =
      .ok [.list (spans.map Span.toValue)] := by
    simp only [Library.evalAll, he, ok_bind, pure_ok]
  have hlocals : (({} : Frame).assign "spans" (.list (spans.map Span.toValue))).BindsOnly ["spans"] :=
    (Frame.bindsOnly_empty _).assign List.mem_cons_self _
  have hclear := clear_cons (clear_cons hc bindsOnly_inlineFrame (by decide)) hlocals (by decide)
  have hcall := eval_macroCall (c := blockContext root f) hframe rfl rfl hargs (fun _ => rfl) rfl
  exact hcall.trans (congrArg (Except.map Value.str) (run_inline hclear rfl rfl))

/-- The statements of a doc comment for one block. -/
def blockBody : Body :=
  match docTemplate with
  | [_, .loop _ _ body _] => body
  | _ => []

/-- A template writes a block as its structure says, if the template for lists does. -/
theorem writes_block {n : ℕ} (hc : Clear (library d) root []) {f : Frame}
    (hf : f.BindsOnly ["loop", "block"]) {b : Block (List Span)}
    (hb : f.value? "block" = some b.toValue)
    (hlist : ∀ (level : ℕ) (between : Bool) (items : List (Item (List Span))),
      b = .list level between items →
      (library d).run (n + 1) { root := listValue between items } listTemplate =
        (Item.writeAll .words d items).map (itemGap between).intercalate) :
    WritesAll (library d) ((library d).run (n + 1)) (blockContext root f) blockBody
      (blockContext root f) [b.write .words d] := by
  have hblock : (library d).value (blockContext root f) "block" = b.toValue := by
    rw [value_cons, hb, Option.getD_some]
  have hclear : Clear (library d) root [f, inlineFrame] :=
    clear_cons (clear_cons hc bindsOnly_inlineFrame (by decide)) hf (by decide)
  have hkind (k : String) : (library d).eval ((library d).run (n + 1)) (blockContext root f)
      (isKind "block" k) = .ok (.bool (b.kindName == k)) :=
    eval_isKind hblock (by cases b <;> rfl) b.attr_kind rfl
  have hspacer : Writes (library d) ((library d).run (n + 1)) (blockContext root f) spacer
      (blockContext root f) [.ok "\n\n"] :=
    writes_emit ((eval_call0 hclear (by decide)).trans call_spacer)
  cases b with
  | paragraph level spans =>
    have hspans := eval_inline (n := n) hc hf (eval_field hblock rfl "spans")
    have hall := writesAll_cons (writes_emit_ok hspans) (writesAll_singleton hspacer)
    refine writesAll_of_true (hkind _) (hall.congr ?_)
    rw [Block.write]
    simp [Block.spans]
  | header level spans =>
    have hspans := eval_inline (n := n) hc hf (eval_field hblock rfl "spans")
    refine writesAll_of_false (hkind _) (writesAll_of_true (hkind _) (writesAll_emit ?_))
    rw [eval_call2 hclear (by decide) (eval_field hblock rfl "level") hspans, call_rawHeader,
      Block.write, count_words]
    show (countArgument (some (.int level)) >>= _) = _
    cases countArgument (some (.int level)) with
    | error e => rfl
    | ok l => exact piece_eq_map_raised _
  | code level text =>
    rw [Block.write]
    exact writesAll_of_false (hkind _) (writesAll_of_false (hkind _) (writesAll_of_true (hkind _)
      (writesAll_emit (eval_codeBlock hclear (eval_lit "") (eval_field hblock rfl "text")))))
  | list level between items =>
    have hvalue : (library d).eval ((library d).run (n + 1)) (blockContext root f)
        (.attr (var "block") "list") = .ok (listValue between items) := by
      rw [eval_field hblock rfl, Block.attr_list]
    have htext : (library d).eval ((library d).run (n + 1)) (blockContext root f)
        (textOf "list" (.attr (var "block") "list")) = _ := eval_render hclear rfl rfl hvalue
    rw [hlist level between items rfl] at htext
    have hall := writesAll_cons (writes_emit htext) (writesAll_singleton hspacer)
    refine writesAll_of_false (hkind _) (writesAll_of_false (hkind _)
      (writesAll_of_false (hkind _) (writesAll_of_true (hkind _) (hall.congr ?_))))
    rw [Block.write]
    cases Item.writeAll .words d items <;> simp

/-! ## Lists -/

theorem flagged_map {α β : Type} (f : α → β) (xs : List α) :
    flagged (xs.map f) = (flagged xs).map fun (first, last, x) => (first, last, f x) := by
  unfold flagged
  apply List.ext_getElem <;> simp

/-- An item, and the gap behind it unless it is the last one. -/
def withGap {ε α : Type} (write : α → Except ε String) (gap : String) (entry : Bool × Bool × α) :
    List (Except ε String) :=
  [write entry.2.2] ++ if entry.2.1 then [] else [.ok gap]

theorem concat_mapIdx_withGap {ε α : Type} (write : α → Except ε String) (gap : String)
    (xs : List α) (first : ℕ → Bool) :
    concat ((xs.mapIdx fun k x => (first k, k + 1 == xs.length, x)).flatMap (withGap write gap)) =
      (xs.mapM write).map gap.intercalate := by
  induction xs generalizing first with
  | nil => rfl
  | cons x xs ih =>
    have hflags (k : ℕ) : (k + 1 + 1 == (x :: xs).length) = (k + 1 == xs.length) := by
      rw [List.length_cons, Bool.eq_iff_iff]
      simp
    rw [List.mapIdx_cons, List.flatMap_cons, concat_append, List.mapM_cons]
    simp only [hflags, ih]
    cases hx : write x with
    | error e => simp [withGap, hx]
    | ok text =>
      cases xs with
      | nil => simp [withGap, hx]
      | cons y xs =>
        rw [List.mapM_cons]
        cases write y with
        | error e => simp [withGap, hx]
        | ok next =>
          cases xs.mapM write <;> simp [withGap, hx, String.intercalate_cons_cons, String.append_assoc]

/-- The value of an item in a loop, with its flags. -/
def flaggedValue (entry : Bool × Bool × Item (List Span)) : Value :=
  Value.ofEntries [("first", .bool entry.1), ("last", .bool entry.2.1),
    ("entry", entry.2.2.toValue)]

theorem iterate_items (items : List (Item (List Span))) :
    iterate (.list (items.map Item.toValue)) = .ok (.list ((flagged items).map flaggedValue)) := by
  rw [iterate, flagged_map, List.map_map]
  rfl

/-- The statements of a list for one item. -/
def itemBody : Body :=
  match listTemplate with
  | [.loop _ _ body _] => body
  | _ => []

/-- The marker of an item as the template computes it. -/
def markerExpr : Expr :=
  match itemBody with
  | .assign _ e :: _ => e
  | _ => .const .undefined

theorem eval_markerExpr {c : Context} {i : Item (List Span)}
    (hentry : (library d).eval enter c (.attr (var "item") "entry") = .ok i.toValue) :
    (library d).eval enter c markerExpr = .ok (.str (itemMarker i.number)) := by
  have hkind := eval_attr hentry rfl "kind"
  have hnumber := eval_attr hentry rfl "number"
  obtain ⟨number, blocks⟩ := i
  show (library d).eval enter c (.cond (.eq (.attr (.attr (var "item") "entry") "kind")
    (lit "ordered")) (.concat (.attr (.attr (var "item") "entry") "number") (lit ". "))
    (some (lit "- "))) = _
  rw [Library.eval]
  cases number with
  | none =>
    have hcase : (library d).eval enter c (.eq (.attr (.attr (var "item") "entry") "kind")
        (lit "ordered")) = .ok (.bool false) := by
      rw [Library.eval, hkind, eval_lit]
      rfl
    rw [hcase, ok_bind]
    show (library d).eval enter c (lit "- ") = _
    exact eval_lit _
  | some k =>
    have hcase : (library d).eval enter c (.eq (.attr (.attr (var "item") "entry") "kind")
        (lit "ordered")) = .ok (.bool true) := by
      rw [Library.eval, hkind, eval_lit]
      rfl
    rw [hcase, ok_bind]
    show (library d).eval enter c (.concat _ _) = _
    rw [Library.eval, hnumber, eval_lit]
    rfl

/-- The text of an item as the template computes it. -/
theorem eval_itemText (hc : Clear (library d) root fs) {i : Item (List Span)}
    (hentry : (library d).eval enter ⟨root, fs, load⟩ (.attr (var "item") "entry") = .ok i.toValue)
    (hmarker : (library d).value ⟨root, fs, load⟩ "marker" = .str (itemMarker i.number))
    (hdoc : enter { root := i.toValue } docTemplate = Block.writeAll .words d i.blocks) :
    (library d).eval enter ⟨root, fs, load⟩ (.concat (var "marker")
      (.call "hangingIndent" [.filter (textOf "doc" (.attr (var "item") "entry")) "trim" [],
        .filter (var "marker") "length" []])) = (i.write .words d).map .str := by
  have htext : (library d).eval enter ⟨root, fs, load⟩ (textOf "doc" (.attr (var "item") "entry")) =
      _ := eval_render hc rfl rfl hentry
  have hlength : (library d).eval enter ⟨root, fs, load⟩ (.filter (var "marker") "length" []) =
      .ok (.int (itemMarker i.number).length) := by
    rw [Library.eval, eval_var hmarker]
    rfl
  rw [hdoc] at htext
  rw [Library.eval, eval_var hmarker, ok_bind, Item.write_eq]
  cases hblocks : Block.writeAll .words d i.blocks with
  | error e =>
    rw [hblocks] at htext
    have htrim : (library d).eval enter ⟨root, fs, load⟩
        (.filter (textOf "doc" (.attr (var "item") "entry")) "trim" []) = .error e := by
      rw [Library.eval, htext]
      rfl
    rw [eval_function hc (by decide), Library.evalAll, htrim]
    rfl
  | ok text =>
    rw [hblocks] at htext
    have htrim : (library d).eval enter ⟨root, fs, load⟩
        (.filter (textOf "doc" (.attr (var "item") "entry")) "trim" []) =
          .ok (.str (onChars trim text)) := by
      rw [Library.eval, htext]
      rfl
    rw [eval_call2 hc (by decide) htrim hlength, call_hangingIndent, ok_bind, count_words]
    cases countArgument (some (.int (itemMarker i.number).length)) <;> rfl

theorem writes_gap (hc : Clear (library d) root fs) {first last between : Bool} {i : Item (List Span)}
    (hitem : (library d).value ⟨root, fs, load⟩ "item" = flaggedValue (first, last, i))
    (hbetween : (library d).value ⟨root, fs, load⟩ "blankBetween" = .bool between) :
    Writes (library d) enter ⟨root, fs, load⟩ (onlyIf (.not (.attr (var "item") "last"))
      [.cond (var "blankBetween") [spacer] [emitCall "inlineSpacer" []]]) ⟨root, fs, load⟩
      (if last then [] else [.ok (itemGap between)]) := by
  have hlast : (library d).eval enter ⟨root, fs, load⟩ (.not (.attr (var "item") "last")) =
      .ok (.bool !last) := by
    rw [Library.eval, eval_field hitem rfl]
    rfl
  refine writes_cond hlast ?_
  cases last with
  | true => exact writesAll_nil
  | false =>
    cases between with
    | true =>
      refine writesAll_of_true (eval_var hbetween) (writesAll_emit ?_)
      rw [eval_call0 hc (by decide), call_spacer]
      rfl
    | false =>
      refine writesAll_of_false (eval_var hbetween) (writesAll_emit ?_)
      rw [eval_call0 hc (by decide), call_inlineSpacer]
      rfl

/-- What an item writes once its marker is bound. -/
theorem writes_markedItem (hc : Clear (library d) root []) {between : Bool}
    (hbetween : root.attr "blankBetween" = .bool between) {g : Frame}
    (hg : g.BindsOnly ["loop", "item", "marker"]) {first last : Bool} {i : Item (List Span)}
    (hitem : g.value? "item" = some (flaggedValue (first, last, i)))
    (hmarker : g.value? "marker" = some (.str (itemMarker i.number)))
    (hdoc : enter { root := i.toValue } docTemplate = Block.writeAll .words d i.blocks) :
    WritesAll (library d) enter ⟨root, [g, {}], 0⟩ (itemBody.drop 1) ⟨root, [g, {}], 0⟩
      (withGap (Item.write .words d) (itemGap between) (first, last, i)) := by
  have hclear : Clear (library d) root [g, {}] :=
    clear_cons (clear_cons hc (Frame.bindsOnly_empty []) (by decide)) hg (by decide)
  have hentry : (library d).value ⟨root, [g, {}], 0⟩ "item" = flaggedValue (first, last, i) := by
    rw [value_cons, hitem, Option.getD_some]
  have hbound : (library d).value ⟨root, [g, {}], 0⟩ "marker" = .str (itemMarker i.number) := by
    rw [value_cons, hmarker, Option.getD_some]
  have hblank : (library d).value ⟨root, [g, {}], 0⟩ "blankBetween" = .bool between := by
    rw [value_cons, hg _ (by decide), Option.getD_none]
    exact value_of_data hbetween rfl 0
  have htext := eval_itemText hclear (eval_field hentry rfl "entry") hbound hdoc
  exact writesAll_cons (writes_emit htext)
    (writesAll_singleton (writes_gap hclear hentry hblank))

theorem writes_item (hc : Clear (library d) root []) {between : Bool}
    (hbetween : root.attr "blankBetween" = .bool between) {f : Frame}
    (hf : f.BindsOnly ["loop", "item", "marker"]) {entry : Bool × Bool × Item (List Span)}
    (hitem : f.value? "item" = some (flaggedValue entry))
    (hdoc : enter { root := entry.2.2.toValue } docTemplate =
      Block.writeAll .words d entry.2.2.blocks) :
    WritesAll (library d) enter ⟨root, [f, {}], 0⟩ itemBody
      ⟨root, [f.assign "marker" (.str (itemMarker entry.2.2.number)), {}], 0⟩
      (withGap (Item.write .words d) (itemGap between) entry) := by
  obtain ⟨first, last, i⟩ := entry
  have hentry : (library d).value ⟨root, [f, {}], 0⟩ "item" = flaggedValue (first, last, i) := by
    rw [value_cons, hitem, Option.getD_some]
  have hassign : Writes (library d) enter ⟨root, [f, {}], 0⟩ (.assign "marker" markerExpr)
      ⟨root, [f.assign "marker" (.str (itemMarker i.number)), {}], 0⟩ [] :=
    writes_assign (eval_markerExpr (eval_field hentry rfl "entry")) "marker"
  have hmarked := writes_markedItem hc hbetween
    (hf.assign (y := "marker") (by decide) (.str (itemMarker i.number)))
    (by rw [Frame.value?_assign, if_neg (by decide), hitem])
    (by rw [Frame.value?_assign, if_pos rfl]) hdoc
  exact List.nil_append (withGap _ _ _) ▸ writesAll_cons hassign hmarked

theorem mem_of_mem_flagged {α : Type} {xs : List α} {entry : Bool × Bool × α}
    (h : entry ∈ flagged xs) : entry.2.2 ∈ xs := by
  obtain ⟨k, hk, rfl⟩ := List.mem_mapIdx.1 h
  exact List.getElem_mem hk

/-- The template for lists writes a list as its structure says, if the template for doc comments writes
its items so. -/
theorem run_list {n : ℕ} {between : Bool} {items : List (Item (List Span))}
    (hdoc : ∀ i ∈ items, (library d).run n { root := i.toValue } docTemplate =
      Block.writeAll .words d i.blocks) :
    (library d).run (n + 1) { root := listValue between items } listTemplate =
      (Item.writeAll .words d items).map (itemGap between).intercalate := by
  have hc : Clear (library d) (listValue between items) [] := clear_record rfl
  have hclear : Clear (library d) (listValue between items) [{}] :=
    clear_cons hc (Frame.bindsOnly_empty []) (by decide)
  have hitems : (library d).value { root := listValue between items } "items" =
      .list (items.map Item.toValue) := rfl
  have hiter : (library d).eval ((library d).run n) { root := listValue between items }
      (.call "iter" [var "items"]) = .ok (.list ((flagged items).map flaggedValue)) := by
    rw [eval_call1 hclear (by decide) (eval_var hitems), call_iter, iterate_items]
  have hloop : Writes (library d) ((library d).run n) { root := listValue between items }
      (.loop ["item"] (.call "iter" [var "items"]) itemBody []) { root := listValue between items }
      ((flagged items).flatMap (withGap (Item.write .words d) (itemGap between))) := by
    refine writes_loop ["loop", "item", "marker"] (by decide) hiter rfl fun f entry hentry hf => ?_
    have hf' := hf.assign (y := "item") (by decide) (flaggedValue entry)
    refine ⟨_, hf'.assign (y := "marker") (by decide) _, writes_item hc rfl hf' ?_ ?_⟩
    · rw [Frame.value?_assign, if_pos rfl]
    · exact hdoc _ (mem_of_mem_flagged hentry)
  have hrun : (library d).run (n + 1) { root := listValue between items } listTemplate = _ :=
    run_of_writesAll (writesAll_singleton hloop)
  rw [hrun, Item.writeAll_eq_mapM]
  exact concat_mapIdx_withGap _ _ _ _

/-! ## Doc comments -/

/-- The template for doc comments writes blocks as their structure says. Templates are entered at most as
deep as the data is nested. -/
theorem run_doc (d : Dialect) (n : ℕ) : ∀ {v : Value} {bs : List (Block (List Span))},
    Clear (library d) v [] → v.attr "blocks" = .list (bs.map Block.toValue) → v.depth ≤ n →
    (library d).run n { root := v } docTemplate = Block.writeAll .words d bs := by
  induction n using Nat.strong_induction_on with
  | h n ih =>
    intro v bs hc hblocks hdepth
    have hlt := Value.depth_attr_lt hblocks rfl
    obtain ⟨m, rfl⟩ : ∃ m, n = m + 1 := ⟨n - 1, by omega⟩
    have hdefine : Writes (library d) ((library d).run m) { root := v } inlineMacro
        ⟨v, [inlineFrame], 0⟩ [] := writes_define _ _ _
    have hvalue : (library d).value ⟨v, [inlineFrame], 0⟩ "blocks" = .list (bs.map Block.toValue) := by
      rw [value_cons, bindsOnly_inlineFrame _ (by decide), Option.getD_none]
      exact value_of_data hblocks rfl 0
    have hloop : Writes (library d) ((library d).run m) ⟨v, [inlineFrame], 0⟩
        (.loop ["block"] (var "blocks") blockBody []) ⟨v, [inlineFrame], 0⟩
        (bs.flatMap fun b => [b.write .words d]) := by
      refine writes_loop_of_writesAll (eval_var hvalue) rfl fun f b hb hf => ?_
      have hb' := Value.depth_lt_of_mem_list (List.mem_map_of_mem (f := Block.toValue) hb)
      obtain ⟨k, rfl⟩ : ∃ k, m = k + 1 := ⟨m - 1, by omega⟩
      refine writes_block hc (hf.assign (by decide) _) ?_ ?_
      · rw [Frame.value?_assign, if_pos rfl]
      · rintro level between items rfl
        refine run_list fun i hi => ?_
        -- every step from the comment to the blocks of an item goes deeper into the data
        have hlist := Value.depth_attr_lt (Block.attr_list level between items) rfl
        have hitem := Value.depth_lt_of_mem_attr (v := listValue between items) (x := "items") rfl
          (List.mem_map_of_mem (f := Item.toValue) hi)
        refine ih k (by omega) (clear_record rfl) ?_ (by omega)
        rw [← Block.toValues_eq_map]
        rfl
    have hrun : (library d).run (m + 1) { root := v } docTemplate = _ :=
      run_of_writesAll (writesAll_cons hdefine (writesAll_singleton hloop))
    rw [hrun, List.nil_append, ← List.map_eq_flatMap, Block.writeAll_eq_concat]

theorem run_doc_toValue {d : Dialect} {n : ℕ} {doc : Doc} (h : doc.toValue.depth ≤ n) :
    (library d).run n { root := doc.toValue } docTemplate = Block.writeAll .words d doc.blocks := by
  have hblocks : doc.toValue.attr "blocks" = .list (doc.blocks.map Block.toValue) := by
    rw [← Block.toValues_eq_map]
    rfl
  exact run_doc d n (clear_record rfl) hblocks h

/-- Rendering a doc comment writes its blocks. -/
theorem render_doc_eq (d : Dialect) (doc : Doc) :
    (library d).render "doc" doc.toValue = Block.writeAll .words d doc.blocks :=
  run_doc_toValue (Nat.le_add_left _ _)

/-- A doc comment can be rendered if all levels inside of it are positive machine words. -/
theorem exists_render_doc (d : Dialect) (doc : Doc)
    (h : ∀ b : Block (List Span), b.Occurs doc.blocks → 1 ≤ b.level ∧ b.Fits) :
    ∃ t, Block.writeAll .exact d doc.blocks = .ok t ∧
      (library d).render "doc" doc.toValue = .ok t := by
  obtain ⟨t, ht⟩ := Block.exists_writeAll d doc.blocks fun b hb => (h b hb).1
  have hagree := (Block.agree_writeAll d doc.blocks fun _ b hb => (h b hb).2).1 trivial
  exact ⟨t, ht, by rw [render_doc_eq, hagree, ht]⟩

/-- **Rendering a doc comment is a recursion over its blocks**: the texts of the blocks one after another.
The text of each block ends in a blank line, at any depth, and blocks can be rendered apart. Levels and
numbers are machine words. -/
theorem render_doc (d : Dialect) (doc : Doc)
    (h : ∀ b : Block (List Span), b.Occurs doc.blocks → 1 ≤ b.level ∧ b.Fits) :
    ∃ texts : List String, doc.blocks.mapM (Block.write .exact d) = .ok texts ∧
      (library d).render "doc" doc.toValue = .ok (String.join texts) ∧
      (∀ b : Block (List Span), b.Occurs doc.blocks →
        ∃ s, b.write .exact d = .ok (s ++ "\n\n")) ∧
      ∀ (l m : ℕ) (xs ys : List (Block (List Span))), doc.blocks = xs ++ ys →
        ∃ s t, (library d).render "doc" (Doc.mk l xs).toValue = .ok s ∧
          (library d).render "doc" (Doc.mk m ys).toValue = .ok t ∧ String.join texts = s ++ t := by
  obtain ⟨t, hwrite, hrender⟩ := exists_render_doc d doc h
  have hconcat := hwrite
  rw [Block.writeAll_eq_concat, concat_map_eq_mapM] at hconcat
  cases htexts : doc.blocks.mapM (Block.write .exact d) with
  | error e =>
    rw [htexts] at hconcat
    cases hconcat
  | ok texts =>
    rw [htexts] at hconcat
    cases hconcat
    refine ⟨texts, rfl, hrender, fun b hb => ?_, fun l m xs ys hsplit => ?_⟩
    · obtain ⟨text, htext⟩ := Block.exists_write d b fun c hc => (h c (hc.trans hb)).1
      obtain ⟨s, rfl⟩ := Block.write_ends htext
      exact ⟨s, htext⟩
    · obtain ⟨s, hs, hxs⟩ := exists_render_doc d ⟨l, xs⟩ fun b hb =>
        h b (hsplit ▸ hb.mono (List.subset_append_left xs ys))
      obtain ⟨t, ht, hys⟩ := exists_render_doc d ⟨m, ys⟩ fun b hb =>
        h b (hsplit ▸ hb.mono (List.subset_append_right xs ys))
      refine ⟨s, t, hxs, hys, ?_⟩
      rw [Block.writeAll_eq_concat] at hs ht hwrite
      rw [hsplit, List.map_append, concat_append, hs, ht] at hwrite
      exact (Except.ok.inj hwrite).symm

/-- A heading, and a list with a paragraph and code in its items. -/
def mixedList : Doc :=
  ⟨1, [.header 2 [.text "a"], .list 1 false
    [.mk (some 3) [.paragraph 1 [.localLink "T" "T"]], .mk none [.code 1 "x\ny"]]]⟩

theorem render_doc_mixedList : (library .github).render "doc" mixedList.toValue =
    .ok "## a\n\n3. [T](<#T>)\n- \x60\x60\x60\n  x\n  y\n  \x60\x60\x60\n\n" := by
  have hlevels : ∀ b : Block (List Span), b.Occurs mixedList.blocks → 1 ≤ b.level ∧ b.Fits := by
    intro b hb
    rcases hb with h | ⟨hlist, hi, h⟩
    · simp only [mixedList, List.mem_cons, List.not_mem_nil, or_false] at h
      rcases h with rfl | rfl
      · exact ⟨by decide, by decide, trivial⟩
      · refine ⟨by decide, by decide, ?_⟩
        simp [Item.number, Data.wordSize]
    · simp only [mixedList, List.mem_cons, List.not_mem_nil, or_false, reduceCtorEq, false_or,
        Block.list.injEq] at hlist
      obtain ⟨rfl, rfl, rfl⟩ := hlist
      simp only [List.mem_cons, List.not_mem_nil, or_false] at hi
      rcases hi with rfl | rfl <;> rcases h with h | ⟨hlist, -, -⟩ <;>
        first | cases List.mem_singleton.1 hlist | obtain rfl := List.mem_singleton.1 h
      · exact ⟨by decide, by decide, trivial⟩
      · exact ⟨by decide, by decide, trivial⟩
  obtain ⟨texts, htexts, hrender, -⟩ := render_doc .github mixedList hlevels
  have heq : mixedList.blocks.mapM (Block.write .exact .github) =
      .ok ["## a\n\n", "3. [T](<#T>)\n- \x60\x60\x60\n  x\n  y\n  \x60\x60\x60\n\n"] := rfl
  rw [hrender, ← Except.ok.inj (heq.symm.trans htexts)]
  rfl

end Render

end DocPages
