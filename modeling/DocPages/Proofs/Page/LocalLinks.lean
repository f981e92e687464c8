import DocPages.Proofs.Comment.InlineText
import DocPages.Proofs.Comment.ReadingOrder
import DocPages.Proofs.Page.Parts
import DocPages.Proofs.Source.ParentChain

/-!
# In-page links

The links that doc comments make to sections of their own page lead to sections that are there
(`localLink_mem_anchors`).

1. An in-page link carries an anchor that the symbol table gave for some reference
   (`resolve?_of_localLink`).
2. Such an anchor is that of a symbol with a section of its own (`exists_root_of_resolve?`).
3. The page shows the section of every such symbol, although it works out anchors from receivers and the
   first names of groups (`ownAnchor_mem_anchors`).
4. Every doc comment of the page is read with the table of the package in scope (`ReadIn`).
-/

namespace DocPages

/-! ## Links in running text -/

namespace Inline

theorem localLink_of_toSpan {p : Piece} {text a : String} (h : p.toSpan = .localLink text a) :
    ∃ label, p = .localLink label a := by
  cases p <;> simp only [Piece.toSpan, reduceCtorEq, Span.localLink.injEq] at h
  exact ⟨_, by rw [h.2]⟩

variable {scope : Scope} {defs : Definitions}

theorem resolve?_of_resolveBracket {label l : List Char} {href : Option (List Char)} {a : String}
    (h : resolveBracket scope defs label href = .localLink l a) :
    scope.symbols.resolve? (String.ofList label) = some a := by
  unfold resolveBracket at h
  split at h
  · cases h
  · split at h
    · cases h
    · split at h
      · cases h
      · split_ifs at h
        split at h
        · rename_i hr
          cases h
          exact hr
        · cases h

/-- The anchor of an in-page link is one that the symbol table gives. -/
theorem resolve?_of_localLink {cs : List Char} {text a : String}
    (h : Span.localLink text a ∈ spans scope defs cs) :
    ∃ reference, scope.symbols.resolve? reference = some a := by
  obtain ⟨p, hp, hspan⟩ := List.mem_map.1 h
  obtain ⟨label, rfl⟩ := localLink_of_toSpan hspan
  rcases mem_merge hp with ⟨t, ht⟩ | hp
  · cases ht
  · obtain ⟨token, -, hp⟩ := List.mem_flatMap.1 hp
    cases token <;> simp only [pieces, List.mem_cons, List.not_mem_nil, reduceCtorEq, or_false] at hp
    exact ⟨_, resolve?_of_resolveBracket hp.symm⟩

end Inline

/-- A document that is a doc comment read with a symbol table in scope. -/
def Doc.ReadIn (table : SymbolTable) (d : Doc) : Prop :=
  ∃ scope text, d = Doc.ofComment scope text ∧ scope.symbols = table

theorem Doc.ReadIn.resolve? {table : SymbolTable} {d : Doc} (hd : d.ReadIn table) {text a : String}
    (h : Span.localLink text a ∈ d.spans) : ∃ reference, table.resolve? reference = some a := by
  obtain ⟨scope, comment, rfl, rfl⟩ := hd
  unfold Doc.spans Doc.ofComment Comment.parse Comment.parseLines at h
  rw [Block.gatherAll_map] at h
  rcases Block.mem_gatherAll h with ⟨cs, -, hcs⟩ | ⟨t, ht⟩
  · exact Inline.resolve?_of_localLink hcs
  · cases List.mem_singleton.1 ht

namespace Page

/-! ## Documents and anchors of a page -/

def Func.docs (f : Func) : List Doc :=
  f.doc :: f.examples.map (·.doc)

def TypeDecl.docs (t : TypeDecl) : List Doc :=
  t.doc :: (t.consts.map (·.doc) ++ t.vars.map (·.doc) ++ t.examples.map (·.doc)
    ++ t.funcs.flatMap Func.docs ++ t.methods.flatMap Func.docs)

/-- Every parsed doc comment of a page. -/
def Package.docs (p : Package) : List Doc :=
  p.doc :: (p.examples.map (·.doc) ++ p.consts.map (·.doc) ++ p.vars.map (·.doc)
    ++ p.funcs.flatMap Func.docs ++ p.types.flatMap TypeDecl.docs)

def TypeDecl.anchors (t : TypeDecl) : List String :=
  t.anchor :: (t.consts.map (·.anchor) ++ t.vars.map (·.anchor)
    ++ t.funcs.map (·.anchor) ++ t.methods.map (·.anchor))

/-- The anchors of the values, functions and types of a page. -/
def Package.anchors (p : Package) : List String :=
  p.consts.map (·.anchor) ++ p.vars.map (·.anchor) ++ p.funcs.map (·.anchor)
    ++ p.types.flatMap TypeDecl.anchors

/-! ## Doc comments are read in the scope of the package -/

section ReadIn

variable {table : SymbolTable} {scope : Scope} (hscope : scope.symbols = table)
  {examples : List Source.Example} {d : Doc}

include hscope

theorem readIn_examples {xs : List (String × Source.Example)} {shown : List Example}
    (h : ofExamples scope xs = .ok shown) (hd : d ∈ shown.map (·.doc)) :
    d.ReadIn table := by
  obtain ⟨e, he, rfl⟩ := List.mem_map.1 hd
  obtain ⟨x, -, hx⟩ := exists_source_of_mapM h he
  obtain ⟨code, -, rfl⟩ := ofExample_eq_ok.1 hx
  exact ⟨_, _, rfl, hscope⟩

theorem readIn_values {vs : List Source.Value} {shown : List Value}
    (h : vs.mapM (ofValue scope) = .ok shown) (hd : d ∈ shown.map (·.doc)) :
    d.ReadIn table := by
  obtain ⟨v, hv, rfl⟩ := List.mem_map.1 hd
  obtain ⟨x, -, hx⟩ := exists_source_of_mapM h hv
  obtain ⟨decl, -, rfl⟩ := ofValue_eq_ok.1 hx
  exact ⟨_, _, rfl, hscope⟩

theorem readIn_funcs {fs : List Source.Func} {shown : List Func}
    (h : fs.mapM (ofFunc examples scope) = .ok shown) (hd : d ∈ shown.flatMap Func.docs) :
    d.ReadIn table := by
  obtain ⟨f, hf, hd⟩ := List.mem_flatMap.1 hd
  obtain ⟨x, -, hx⟩ := exists_source_of_mapM h hf
  obtain ⟨signature, -, shownExamples, hexamples, rfl⟩ := ofFunc_eq_ok.1 hx
  rcases List.mem_cons.1 hd with rfl | hd
  · exact ⟨_, _, rfl, hscope⟩
  · exact readIn_examples hscope hexamples hd

theorem readIn_types {ts : List Source.TypeDecl} {shown : List TypeDecl}
    (h : ts.mapM (ofType examples scope) = .ok shown) (hd : d ∈ shown.flatMap TypeDecl.docs) :
    d.ReadIn table := by
  obtain ⟨t, ht, hd⟩ := List.mem_flatMap.1 hd
  obtain ⟨x, -, hx⟩ := exists_source_of_mapM h ht
  obtain ⟨decl, -, consts, hconsts, vars, hvars, shownExamples, hexamples, funcs, hfuncs, methods,
    hmethods, rfl⟩ := ofType_eq_ok.1 hx
  have hinner : (scope.deeper 1).symbols = table := hscope
  simp only [TypeDecl.docs, List.mem_cons, List.mem_append] at hd
  rcases hd with rfl | (((hd | hd) | hd) | hd) | hd
  · exact ⟨_, _, rfl, hscope⟩
  · exact readIn_values hinner hconsts hd
  · exact readIn_values hinner hvars hd
  · exact readIn_examples hscope hexamples hd
  · exact readIn_funcs hinner hfuncs hd
  · exact readIn_funcs hinner hmethods hd

omit hscope in
theorem readIn_package {outer : Scope} {src : Source.Package} {p : Package}
    (h : ofPackage outer src = .ok p) (hd : d ∈ p.docs) :
    d.ReadIn (SymbolTable.ofPackage src) := by
  obtain ⟨shown, hexamples, consts, hconsts, vars, hvars, funcs, hfuncs, types, htypes, rfl⟩ :=
    ofPackage_eq_ok.1 h
  simp only [Package.docs, List.mem_cons, List.mem_append] at hd
  rcases hd with rfl | (((hd | hd) | hd) | hd) | hd
  · exact ⟨_, _, rfl, rfl⟩
  · exact readIn_examples rfl hexamples hd
  · exact readIn_values rfl hconsts hd
  · exact readIn_values rfl hvars hd
  · exact readIn_funcs rfl hfuncs hd
  · exact readIn_types rfl htypes hd

end ReadIn

/-! ## Sections of symbols -/

section Sections

open SymbolTable (groupSymbols typeSymbols packageSymbols)

variable {scope : Scope} {examples : List Source.Example} {s : Symbol}

/-- The symbol of a group that has a section of its own is the first one. -/
theorem ownAnchor_of_group {kind : SymbolKind} (hkind : kind = .const ∨ kind = .var)
    {group : Source.Value} (hs : s ∈ groupSymbols kind group) (hroot : s.parent = none) :
    s.ownAnchor = group.names.headD "" := by
  unfold groupSymbols at hs
  split at hs
  · cases hs
  · rename_i first others hnames
    obtain ⟨name, -, rfl⟩ := List.mem_map.1 hs
    have hname : name = first := by
      by_contra hne
      simp only [if_neg hne, reduceCtorEq] at hroot
    rw [hnames, hname]
    rcases hkind with rfl | rfl <;> rfl

theorem anchor_mem_of_groups {kind : SymbolKind} (hkind : kind = .const ∨ kind = .var)
    {vs : List Source.Value} {shown : List Value} (h : vs.mapM (ofValue scope) = .ok shown)
    (hs : s ∈ vs.flatMap (groupSymbols kind)) (hroot : s.parent = none) :
    s.ownAnchor ∈ shown.map (·.anchor) := by
  obtain ⟨group, hgroup, hs⟩ := List.mem_flatMap.1 hs
  obtain ⟨v, hv, hok⟩ := exists_shown_of_mapM h hgroup
  obtain ⟨decl, -, rfl⟩ := ofValue_eq_ok.1 hok
  exact List.mem_map.2 ⟨_, hv, (ownAnchor_of_group hkind hs hroot).symm⟩

theorem anchor_mem_of_func {fs : List Source.Func} {shown : List Func}
    (h : fs.mapM (ofFunc examples scope) = .ok shown) {f : Source.Func} (hf : f ∈ fs) :
    funcAnchor f ∈ shown.map (·.anchor) := by
  obtain ⟨g, hg, hok⟩ := exists_shown_of_mapM h hf
  obtain ⟨signature, -, shownExamples, -, rfl⟩ := ofFunc_eq_ok.1 hok
  exact List.mem_map.2 ⟨_, hg, rfl⟩

theorem funcAnchor_of_plain {f : Source.Func} (h : f.recv = "") : funcAnchor f = f.name := by
  unfold funcAnchor
  rw [h]
  rfl

theorem funcAnchor_of_method {m : Source.Func} {type : String} (htype : IsPlainName type)
    (h : dropStars m.recv = type) : funcAnchor m = dropStars type ++ "." ++ m.name := by
  have hrecv : ¬ m.recv.isEmpty := by
    intro hempty
    rw [String.isEmpty_iff.1 hempty] at h
    exact htype.1 h.symm
  unfold funcAnchor
  rw [if_neg hrecv, h, htype.dropStars_eq]

/-- The page of a type shows the section of each of its symbols that has one. -/
theorem ownAnchor_mem_type_anchors {src : Source.TypeDecl} {t : TypeDecl} (hnames : src.WellNamed)
    (h : ofType examples scope src = .ok t) (hs : s ∈ typeSymbols src) (hroot : s.parent = none) :
    s.ownAnchor ∈ t.anchors := by
  obtain ⟨decl, -, consts, hconsts, vars, hvars, shown, -, funcs, hfuncs, methods, hmethods, rfl⟩ :=
    ofType_eq_ok.1 h
  simp only [TypeDecl.anchors, List.mem_cons, List.mem_append]
  simp only [typeSymbols, List.mem_append, List.mem_singleton] at hs
  rcases hs with ((((rfl | hs) | hs) | hs) | hs) | hs
  · exact Or.inl rfl
  · obtain ⟨m, hm, rfl⟩ := List.mem_map.1 hs
    have hmem := anchor_mem_of_func hmethods hm
    rw [funcAnchor_of_method hnames.name (hnames.methods m hm).2] at hmem
    exact Or.inr (Or.inr hmem)
  · obtain ⟨f, -, rfl⟩ := List.mem_map.1 hs
    cases hroot
  · obtain ⟨f, hf, rfl⟩ := List.mem_map.1 hs
    have hmem := anchor_mem_of_func hfuncs hf
    rw [funcAnchor_of_plain (hnames.funcs f hf).2] at hmem
    exact Or.inr (Or.inl (Or.inr hmem))
  · exact Or.inr (Or.inl (Or.inl (Or.inl (anchor_mem_of_groups (Or.inl rfl) hconsts hs hroot))))
  · exact Or.inr (Or.inl (Or.inl (Or.inr (anchor_mem_of_groups (Or.inr rfl) hvars hs hroot))))

/-- The page of a package shows the section of every symbol that has one. -/
theorem ownAnchor_mem_anchors {outer : Scope} {src : Source.Package} {p : Package}
    (hnames : src.WellNamed) (h : ofPackage outer src = .ok p) (hs : s ∈ packageSymbols src)
    (hroot : s.parent = none) : s.ownAnchor ∈ p.anchors := by
  obtain ⟨shown, -, consts, hconsts, vars, hvars, funcs, hfuncs, types, htypes, rfl⟩ :=
    ofPackage_eq_ok.1 h
  simp only [Package.anchors, List.mem_append]
  simp only [packageSymbols, List.mem_append] at hs
  rcases hs with ((hs | hs) | hs) | hs
  · exact Or.inl (Or.inl (Or.inl (anchor_mem_of_groups (Or.inl rfl) hconsts hs hroot)))
  · exact Or.inl (Or.inl (Or.inr (anchor_mem_of_groups (Or.inr rfl) hvars hs hroot)))
  · obtain ⟨f, hf, rfl⟩ := List.mem_map.1 hs
    have hmem := anchor_mem_of_func hfuncs hf
    rw [funcAnchor_of_plain (hnames.funcs f hf).2] at hmem
    exact Or.inl (Or.inr hmem)
  · obtain ⟨type, htype, hs⟩ := List.mem_flatMap.1 hs
    obtain ⟨t, ht, hok⟩ := exists_shown_of_mapM htypes htype
    exact Or.inr (List.mem_flatMap.2
      ⟨t, ht, ownAnchor_mem_type_anchors (hnames.types type htype) hok hs hroot⟩)

end Sections

/-- **No in-page link is dead.** Whatever the scope around the package and however its names repeat, the
anchor of an in-page link in any doc comment of the page is the anchor of a value, function or type that
the page shows. -/
theorem localLink_mem_anchors (outer : Scope) {src : Source.Package} (hnames : src.WellNamed)
    {p : Package} (hp : ofPackage outer src = .ok p) {d : Doc} (hd : d ∈ p.docs)
    {text anchor : String} (hlink : Span.localLink text anchor ∈ d.spans) :
    anchor ∈ p.anchors := by
  obtain ⟨reference, hr⟩ := (readIn_package hp hd).resolve? hlink
  obtain ⟨s, hs, hroot, rfl⟩ := SymbolTable.exists_root_of_resolve? hnames hr
  exact ownAnchor_mem_anchors hnames hp hs hroot

/-- `B` is declared with `A`, which is then declared again with `C`; `M` is a method and a field. -/
def redeclared : Source.Package :=
  { doc := "[B] and [*T.M]"
    consts := [{ names := ["A", "B"], decl := "const A, B" }]
    vars := [{ names := ["C", "A"], decl := "var C, A" }]
    types := [
      { name := "T"
        decl := "type T"
        fields := ["M"]
        methods := [{ name := "M", recv := "*T", decl := "func (t *T) M()" }] }] }

theorem localLink_mem_anchors_redeclared :
    redeclared.WellNamed ∧ ∃ p, ofPackage {} redeclared = .ok p ∧ p.doc ∈ p.docs ∧
      Span.localLink "B" "C" ∈ p.doc.spans ∧ "C" ∈ p.anchors := by
  have hnames : redeclared.WellNamed := by decide
  obtain ⟨p, hp, hlink⟩ : ∃ p, ofPackage {} redeclared = .ok p ∧
      Span.localLink "B" "C" ∈ p.doc.spans := ⟨_, rfl, by decide +kernel⟩
  have hd : p.doc ∈ p.docs := List.mem_cons_self
  exact ⟨hnames, p, hp, hd, hlink, localLink_mem_anchors {} hnames hp hd hlink⟩

end Page

end DocPages
