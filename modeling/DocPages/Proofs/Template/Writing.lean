import DocPages.Proofs.Template.Value
import DocPages.Template.Eval

/-!
# What statements write

Rules to work out the text of a template from its tree.

1. A statement leads from one context to another and writes pieces of text, the first of which that fails
   ends it (`Writes`). Statements one after another write their pieces one after another
   (`writesAll_cons`), and a loop those of its rounds (`writes_loop`).
2. Names are looked up from the innermost frame outwards (`value_cons`), and a function can be called where
   no frame and no part of the data has its name (`Clear`, `eval_call`).
3. A macro runs below the frame that defines it (`eval_macroCall`), and a template with data of its own
   (`eval_render`) or in the context that inserts it (`writes_insert`).
-/

namespace DocPages.Template

/-! ## Texts that may fail -/

section

variable {ε α β : Type}

@[simp]
theorem ok_bind (a : α) (f : α → Except ε β) : (Except.ok a >>= f) = f a :=
  rfl

@[simp]
theorem error_bind (e : ε) (f : α → Except ε β) : (Except.error e >>= f) = .error e :=
  rfl

@[simp]
theorem pure_ok (a : α) : (pure a : Except ε α) = .ok a :=
  rfl

@[simp]
theorem map_ok (f : α → β) (a : α) : (Except.ok a : Except ε α).map f = .ok (f a) :=
  rfl

@[simp]
theorem map_error (f : α → β) (e : ε) : (Except.error e : Except ε α).map f = .error e :=
  rfl

/-- The texts one after another, or the first failure. -/
def concat : List (Except ε String) → Except ε String
  | [] => .ok ""
  | r :: rs => do
    let text ← r
    let rest ← concat rs
    return text ++ rest

@[simp]
theorem concat_nil : concat ([] : List (Except ε String)) = .ok "" :=
  rfl

@[simp]
theorem concat_cons_ok (s : String) (rs : List (Except ε String)) :
    concat (.ok s :: rs) = (concat rs).map (s ++ ·) := by
  rw [concat, ok_bind]
  cases concat rs <;> rfl

@[simp]
theorem concat_cons_error (e : ε) (rs : List (Except ε String)) :
    concat (.error e :: rs) = .error e :=
  rfl

@[simp]
theorem concat_singleton (r : Except ε String) : concat [r] = r := by
  cases r <;> simp

theorem concat_append (rs qs : List (Except ε String)) : concat (rs ++ qs) = (do
    let text ← concat rs
    let rest ← concat qs
    return text ++ rest) := by
  induction rs with
  | nil => cases h : concat qs <;> simp [h]
  | cons r rs ih =>
    cases r with
    | error e => rfl
    | ok s =>
      rw [List.cons_append, concat_cons_ok, concat_cons_ok, ih]
      cases concat rs with
      | error e => rfl
      | ok t => cases concat qs <;> simp [String.append_assoc]

theorem concat_map_ok (f : α → String) (xs : List α) :
    concat (xs.map fun a => (.ok (f a) : Except ε String)) = .ok (String.join (xs.map f)) := by
  induction xs with
  | nil => rfl
  | cons a xs ih => rw [List.map_cons, concat_cons_ok, ih, map_ok, List.map_cons, String.join_cons]

theorem concat_map_eq_mapM (f : α → Except ε String) (xs : List α) :
    concat (xs.map f) = (xs.mapM f).map String.join := by
  induction xs with
  | nil => rfl
  | cons a xs ih =>
    rw [List.map_cons, List.mapM_cons, concat, ih]
    cases f a with
    | error e => rfl
    | ok s => cases xs.mapM f <;> simp [String.join_cons]

end

/-! ## Names -/

namespace Frame

theorem lookup_filter_ne {α : Type} (x y : String) (es : List (String × α)) :
    (es.filter (·.1 != y)).lookup x = if x = y then none else es.lookup x := by
  induction es with
  | nil => simp
  | cons e es ih =>
    obtain ⟨k, v⟩ := e
    by_cases hk : k = y
    · subst hk
      rw [List.filter_cons_of_neg (by simp), ih]
      split_ifs with hx
      · rfl
      · rw [SortedMap.lookup_cons_if, if_neg hx]
    · rw [List.filter_cons_of_pos (by simpa using hk), SortedMap.lookup_cons_if, ih,
        SortedMap.lookup_cons_if]
      by_cases hx : x = k
      · subst hx
        rw [if_pos rfl, if_pos rfl, if_neg hk]
      · rw [if_neg hx, if_neg hx]

@[simp]
theorem value?_assign (f : Frame) (x y : String) (v : Value) :
    (f.assign y v).value? x = if x = y then some v else f.value? x := by
  unfold value? assign
  rw [SortedMap.lookup_cons_if, lookup_filter_ne, lookup_filter_ne]
  split_ifs <;> rfl

@[simp]
theorem value?_define (f : Frame) (x y : String) (m : Macro) :
    (f.define y m).value? x = if x = y then some (.callable y) else f.value? x := by
  unfold value? define
  simp only [SortedMap.lookup_cons_if, lookup_filter_ne]
  split_ifs with h
  · subst h
    rfl
  · rfl

/-- Only the given names stand for something in the frame. -/
def BindsOnly (f : Frame) (names : List String) : Prop :=
  ∀ x, x ∉ names → f.value? x = none

theorem bindsOnly_empty (names : List String) : ({} : Frame).BindsOnly names :=
  fun _ _ => rfl

theorem BindsOnly.assign {f : Frame} {names : List String} (h : f.BindsOnly names) {y : String}
    (hy : y ∈ names) (v : Value) : (f.assign y v).BindsOnly names := by
  intro x hx
  have hne : ¬ x = y := fun hxy => hx (hxy ▸ hy)
  rw [value?_assign, if_neg hne, h x hx]

theorem BindsOnly.define {f : Frame} {names : List String} (h : f.BindsOnly names) {y : String}
    (hy : y ∈ names) (m : Macro) : (f.define y m).BindsOnly names := by
  intro x hx
  have hne : ¬ x = y := fun hxy => hx (hxy ▸ hy)
  rw [value?_define, if_neg hne, h x hx]

end Frame

section

variable {lib : Library} {enter : Enter}

theorem value_cons (root : Value) (f : Frame) (fs : List Frame) (load : ℕ) (x : String) :
    lib.value ⟨root, f :: fs, load⟩ x = (f.value? x).getD (lib.value ⟨root, fs, load⟩ x) := by
  cases h : f.value? x <;> simp only [Library.value, List.findSome?_cons, h, Option.getD_none,
    Option.getD_some]

/-- A name that no frame has stands for the part of the data of that name. -/
theorem value_of_data {root v : Value} {x : String} (h : root.attr x = v)
    (hv : v.isUndefined = false) (load : ℕ) : lib.value ⟨root, [], load⟩ x = v := by
  unfold Library.value
  simp only [List.findSome?_nil, h]
  cases v <;> first | rfl | cases hv

/-- Neither the data nor a frame hides a function of the library. -/
def Clear (lib : Library) (root : Value) (frames : List Frame) : Prop :=
  ∀ f ∈ lib.functions.map (·.1), (∀ frame ∈ frames, frame.value? f = none) ∧
    root.attr f = .undefined

theorem Clear.cons {root : Value} {fs : List Frame} (h : Clear lib root fs) {f : Frame}
    {names : List String} (hf : f.BindsOnly names)
    (hnames : ∀ x ∈ names, x ∉ lib.functions.map (·.1)) : Clear lib root (f :: fs) := by
  intro g hg
  refine ⟨List.forall_mem_cons.2 ⟨?_, (h g hg).1⟩, (h g hg).2⟩
  exact hf g fun hmem => hnames g hmem hg

/-- Frames that do not have a name are passed over. -/
theorem frameOf_append {f : String} {gs fs : List Frame} (h : ∀ g ∈ gs, g.value? f = none) :
    frameOf f (gs ++ fs) = frameOf f fs := by
  induction gs with
  | nil => rfl
  | cons g gs ih =>
    obtain ⟨hg, hgs⟩ := List.forall_mem_cons.1 h
    rw [List.cons_append, frameOf, hg]
    exact ih hgs

theorem call_of_clear {c : Context} (h : Clear lib c.root c.frames) {f : String}
    (hf : f ∈ lib.functions.map (·.1)) (args : List Value) :
    lib.call enter c f args = lib.callFunction enter f args := by
  have hframe : frameOf f c.frames = [] := by
    rw [← List.append_nil c.frames, frameOf_append (h f hf).1]
    rfl
  unfold Library.call
  rw [hframe, (h f hf).2]

end

/-! ## Expressions -/

section

variable {lib : Library} {enter : Enter} {c : Context}

theorem eval_attr {e : Expr} {v : Value} (h : lib.eval enter c e = .ok v)
    (hv : v.isUndefined = false) (x : String) : lib.eval enter c (.attr e x) = .ok (v.attr x) := by
  rw [Library.eval, h, ok_bind, hv]
  rfl

theorem eval_concat {a b : Expr} {s t : String} (ha : lib.eval enter c a = .ok (.str s))
    (hb : lib.eval enter c b = .ok (.str t)) :
    lib.eval enter c (.concat a b) = .ok (.str (s ++ t)) := by
  rw [Library.eval, ha, hb]
  rfl

theorem eval_or {a b : Expr} {v w : Value} (ha : lib.eval enter c a = .ok v)
    (hb : lib.eval enter c b = .ok w) :
    lib.eval enter c (.or a b) = .ok (if v.isTrue then v else w) := by
  rw [Library.eval, ha, hb, ok_bind]
  cases v.isTrue <;> rfl

theorem eval_call (hc : Clear lib c.root c.frames) {f : String} (hf : f ∈ lib.functions.map (·.1))
    (args : List Expr) : lib.eval enter c (.call f args) = (do
      let vs ← lib.evalAll enter c args
      lib.callFunction enter f vs) := by
  rw [Library.eval]
  simp only [call_of_clear hc hf]

end

/-! ## Statements -/

section

variable (lib : Library) (enter : Enter)

/-- The statement leads from one context to another and writes some pieces, if none of them fails. -/
def Writes (c : Context) (s : Stmt) (after : Context) (rs : List (Except Error String)) : Prop :=
  lib.exec enter c s = (concat rs).map fun text => (after, text)

/-- The statements lead from one context to another and write some pieces, if none of them fails. -/
def WritesAll (c : Context) (ss : List Stmt) (after : Context) (rs : List (Except Error String)) :
    Prop :=
  lib.execAll enter c ss = (concat rs).map fun text => (after, text)

end

section

variable {lib : Library} {enter : Enter} {c : Context}

theorem writes_text (s : String) : Writes lib enter c (.text s) c [.ok s] := by
  unfold Writes
  rw [Library.exec, concat_singleton]
  rfl

theorem writes_emit {e : Expr} {r : Except Error String} (h : lib.eval enter c e = r.map .str) :
    Writes lib enter c (.emit e) c [r] := by
  unfold Writes
  rw [Library.exec, h, concat_singleton]
  cases r <;> rfl

theorem writes_emit_ok {e : Expr} {s : String} (h : lib.eval enter c e = .ok (.str s)) :
    Writes lib enter c (.emit e) c [.ok s] :=
  writes_emit h

theorem writes_emit_error {e : Expr} {err : Error} (h : lib.eval enter c e = .error err) :
    Writes lib enter c (.emit e) c [.error err] :=
  writes_emit h

theorem writes_assign {e : Expr} {v : Value} (h : lib.eval enter c e = .ok v) (x : String) :
    Writes lib enter c (.assign x e) (c.assign x v) [] := by
  unfold Writes
  rw [Library.exec, h]
  rfl

theorem writes_define (f : String) (params : List (String × Option Expr)) (body : List Stmt) :
    Writes lib enter c (.define f params body) (c.onTop (·.define f ⟨params, body⟩)) [] := by
  unfold Writes
  rw [Library.exec]
  rfl

theorem writes_cond {test : Expr} {yes no : List Stmt} {v : Value} {after : Context}
    {rs : List (Except Error String)} (htest : lib.eval enter c test = .ok v)
    (hbody : WritesAll lib enter c (if v.isTrue then yes else no) after rs) :
    Writes lib enter c (.cond test yes no) after rs := by
  unfold Writes
  rw [Library.exec, htest, ok_bind]
  cases hv : v.isTrue <;> rw [hv] at hbody <;> exact hbody

theorem writesAll_nil : WritesAll lib enter c [] c [] :=
  rfl

theorem writesAll_cons {s : Stmt} {ss : List Stmt} {mid after : Context}
    {rs qs : List (Except Error String)} (hs : Writes lib enter c s mid rs)
    (hss : WritesAll lib enter mid ss after qs) :
    WritesAll lib enter c (s :: ss) after (rs ++ qs) := by
  unfold Writes at hs
  unfold WritesAll at hss ⊢
  rw [Library.execAll, hs, concat_append]
  cases concat rs with
  | error e => rfl
  | ok text =>
    simp only [map_ok, ok_bind, hss]
    cases concat qs <;> rfl

/-- A statement that fails is the last one. -/
theorem writesAll_cons_error {s : Stmt} {e : Error} (h : Writes lib enter c s c [.error e])
    (ss : List Stmt) : WritesAll lib enter c (s :: ss) c [.error e] := by
  unfold Writes at h
  unfold WritesAll
  rw [Library.execAll, h]
  rfl

theorem writesAll_singleton {s : Stmt} {after : Context} {rs : List (Except Error String)}
    (h : Writes lib enter c s after rs) : WritesAll lib enter c [s] after rs := by
  have := writesAll_cons h writesAll_nil
  rwa [List.append_nil] at this

theorem writesAll_emit {e : Expr} {r : Except Error String} (h : lib.eval enter c e = r.map .str) :
    WritesAll lib enter c [.emit e] c [r] :=
  writesAll_singleton (writes_emit h)

theorem writesAll_of_true {test : Expr} {yes no : List Stmt} {after : Context}
    {rs : List (Except Error String)} (htest : lib.eval enter c test = .ok (.bool true))
    (hyes : WritesAll lib enter c yes after rs) :
    WritesAll lib enter c [.cond test yes no] after rs :=
  writesAll_singleton (writes_cond htest hyes)

theorem writesAll_of_false {test : Expr} {yes no : List Stmt} {after : Context}
    {rs : List (Except Error String)} (htest : lib.eval enter c test = .ok (.bool false))
    (hno : WritesAll lib enter c no after rs) :
    WritesAll lib enter c [.cond test yes no] after rs :=
  writesAll_singleton (writes_cond htest hno)

/-- Only the text counts, not how it is cut into pieces. -/
theorem WritesAll.congr {ss : List Stmt} {after : Context} {rs qs : List (Except Error String)}
    (h : WritesAll lib enter c ss after rs) (heq : concat rs = concat qs) :
    WritesAll lib enter c ss after qs := by
  unfold WritesAll at h ⊢
  rw [h, heq]

/-! ## Loops -/

/-- A loop writes what its body writes for each item. The body may change the frame of the loop as long as
it binds no further names. -/
theorem eachItem_eq {α : Type} {val : α → Value} {x : String} {names : List String}
    (hloop : "loop" ∈ names) {body : List Stmt} {r : α → List (Except Error String)}
    {items : List α} (length index : ℕ) {f : Frame} (hf : f.BindsOnly names)
    (hbody : ∀ f : Frame, ∀ a ∈ items, f.BindsOnly names → ∃ g : Frame, g.BindsOnly names ∧
      WritesAll lib enter (c.push (f.assign x (val a))) body (c.push g) (r a)) :
    eachItem [x] length (fun c => lib.execAll enter c body) index (items.map val) (c.push f) =
      concat (items.flatMap r) := by
  induction items generalizing index f with
  | nil => rfl
  | cons a items ih =>
    have hround := hf.assign hloop (loopValue index length)
    obtain ⟨g, hg, ha⟩ := hbody _ a List.mem_cons_self hround
    have hrest := ih (index + 1) hg fun f b hb => hbody f b (List.mem_cons_of_mem a hb)
    unfold WritesAll at ha
    rw [List.map_cons, eachItem, List.flatMap_cons, concat_append, ← hrest]
    show (lib.execAll enter
        (c.push ((f.assign "loop" (loopValue index length)).assign x (val a))) body >>= fun out =>
      eachItem [x] length (fun c => lib.execAll enter c body) (index + 1) (items.map val) out.1 >>=
        fun rest => pure (out.2 ++ rest)) = _
    rw [ha]
    cases concat (r a) <;> rfl

theorem writes_loop {α : Type} {items : List α} {val : α → Value} {x : String} {e : Expr}
    {body : List Stmt} (names : List String) (hloop : "loop" ∈ names)
    {r : α → List (Except Error String)} (he : lib.eval enter c e = .ok (.list (items.map val)))
    (hfull : c.isFull 1 = false)
    (hbody : ∀ f : Frame, ∀ a ∈ items, f.BindsOnly names → ∃ g : Frame, g.BindsOnly names ∧
      WritesAll lib enter (c.push (f.assign x (val a))) body (c.push g) (r a)) :
    Writes lib enter c (.loop [x] e body []) c (items.flatMap r) := by
  have hitems := eachItem_eq hloop (items.map val).length 0 (Frame.bindsOnly_empty names) hbody
  unfold Writes
  rw [Library.exec, he, ok_bind, ← hitems]
  cases items with
  | nil => rfl
  | cons a items =>
    simp only [Value.items?, List.map_cons, hfull, Bool.false_eq_true, if_false]
    rfl

/-- A loop whose body leaves its context as it is. -/
theorem writes_loop_of_writesAll {α : Type} {items : List α} {val : α → Value} {x : String}
    {e : Expr} {body : List Stmt} {r : α → List (Except Error String)}
    (he : lib.eval enter c e = .ok (.list (items.map val))) (hfull : c.isFull 1 = false)
    (hbody : ∀ f : Frame, ∀ a ∈ items, f.BindsOnly ["loop", x] →
      WritesAll lib enter (c.push (f.assign x (val a))) body (c.push (f.assign x (val a))) (r a)) :
    Writes lib enter c (.loop [x] e body []) c (items.flatMap r) := by
  have hx : x ∈ ["loop", x] := List.mem_cons_of_mem _ List.mem_cons_self
  refine writes_loop ["loop", x] List.mem_cons_self he hfull fun f a ha hf => ?_
  exact ⟨f.assign x (val a), hf.assign hx (val a), hbody f a ha hf⟩

/-! ## Macros and templates -/

/-- Running a tree gives the text that it writes. -/
theorem run_of_writesAll {n : ℕ} {body : Body} {after : Context} {rs : List (Except Error String)}
    (h : WritesAll lib (lib.run n) c body after rs) : lib.run (n + 1) c body = concat rs := by
  unfold WritesAll at h
  rw [Library.run, h]
  cases concat rs <;> rfl

/-- A template that is rendered with data of its own. -/
theorem eval_render (hc : Clear lib c.root c.frames) {name : String} {e : Expr} {v : Value} {body : Body}
    (hrender : lib.functions.lookup "include" = some .render)
    (hbody : lib.templates.lookup name = some body) (he : lib.eval enter c e = .ok v) :
    lib.eval enter c (.call "include" [.const (.str name), e]) =
      (enter { root := v } body).map .str := by
  have hargs : lib.evalAll enter c [.const (.str name), e] = .ok [.str name, v] := by
    simp [Library.evalAll, Library.eval, he]
  have hmem : "include" ∈ lib.functions.map (·.1) := by
    rw [List.lookup_eq_some_iff] at hrender
    obtain ⟨before, after, hsplit, -⟩ := hrender
    rw [hsplit]
    simp
  rw [eval_call hc hmem, hargs, ok_bind]
  simp only [Library.callFunction, hrender, Library.renderWith, Value.print, hbody]
  cases enter { root := v } body <;> rfl

/-- A template that is inserted writes its text if it does not fail. -/
theorem writes_insert {e : Expr} {name : String} {body : Body} {text : String}
    (he : lib.eval enter c e = .ok (.str name)) (hbody : lib.templates.lookup name = some body)
    (hfull : c.isFull 10 = false)
    (hrun : enter { c.push {} with load := c.load + 10 } body = .ok text) :
    Writes lib enter c (.insert e) c [.ok text] := by
  unfold Writes
  rw [Library.exec, he, ok_bind]
  simp only [Library.insert, hbody, hfull, Bool.false_eq_true, if_false, hrun]
  simp [Except.mapError]

end

/-- A macro that the nearest frame with its name defines. -/
theorem eval_macroCall {lib : Library} {enter : Enter} {c : Context} {m : Macro} {name : String}
    {args : List Expr} {vs : List Value} {frame : Frame} {outer : List Frame} {locals : Frame}
    (hframe : frameOf name c.frames = frame :: outer) (hvar : frame.vars.lookup name = none)
    (hdefine : frame.macros.lookup name = some m) (hargs : lib.evalAll enter c args = .ok vs)
    (hbind : ∀ default, bindParams default m.params vs {} = .ok locals)
    (hfull : c.isFull 4 = false) :
    lib.eval enter c (.call name args) =
      (enter ⟨c.root, locals :: frame :: outer, c.load + c.frames.length + 4⟩ m.body).map .str := by
  rw [Library.eval, hargs, ok_bind]
  simp only [Library.call, hframe, hvar, hdefine, callMacro, hbind, ok_bind, hfull, Bool.false_eq_true,
    if_false]
  cases enter ⟨c.root, locals :: frame :: outer, c.load + c.frames.length + 4⟩ m.body <;> rfl

end DocPages.Template
