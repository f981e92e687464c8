import DocPages.Page.Entity
import DocPages.Proofs.Text.Lines

/-!
# Line ends do not matter

A description may come with the line ends of either convention. Comments, summaries and source are each
normalised where they are read, so a page depends on its texts only up to line ends (`ofPackage_mapTexts`),
and writing every line feed as a carriage return and a line feed changes nothing
(`ofPackage_dosNewlines`).
-/

namespace DocPages

open Text

namespace Text

/-- Every line feed gets a carriage return in front of it. -/
def dosNewlines (cs : List Char) : List Char :=
  cs.flatMap fun c => if c = '\n' then ['\r', '\n'] else [c]

theorem unixNewlines_cons {c : Char} (h : c ≠ '\r') (cs : List Char) :
    unixNewlines (c :: cs) = c :: unixNewlines cs := by
  rw [unixNewlines]
  intro d hc
  exact absurd hc h

theorem unixNewlines_dosNewlines {cs : List Char} (h : '\r' ∉ cs) :
    unixNewlines (dosNewlines cs) = cs := by
  unfold dosNewlines
  induction cs with
  | nil => rfl
  | cons c cs ih =>
    rw [List.mem_cons, not_or] at h
    rw [List.flatMap_cons]
    by_cases hc : c = '\n'
    · subst hc
      show unixNewlines ('\r' :: '\n' :: cs.flatMap _) = _
      rw [unixNewlines, ih h.2]
    · rw [if_neg hc]
      show unixNewlines (c :: cs.flatMap _) = _
      rw [unixNewlines_cons (Ne.symm h.1), ih h.2]

/-- Two texts that differ in the ends of their lines only. -/
def SameLines (a b : String) : Prop :=
  unixNewlines a.toList = unixNewlines b.toList

theorem sameLines_dosNewlines {text : String} (h : '\r' ∉ text.toList) :
    SameLines (onChars dosNewlines text) text := by
  unfold SameLines
  rw [toList_onChars, unixNewlines_dosNewlines h, unixNewlines_of_not_mem h]

/-! ## The readers of a text -/

variable {a b : String}

theorem SameLines.summary (h : SameLines a b) : summary a = summary b := by
  unfold Text.summary onChars summaryChars
  rw [h]

theorem SameLines.layoutSource (h : SameLines a b) (kind : SourceKind) :
    layoutSource kind a = layoutSource kind b := by
  unfold DocPages.layoutSource layoutSource? layoutLines
  rw [h]

theorem SameLines.ofComment (h : SameLines a b) (scope : Scope) :
    Doc.ofComment scope a = Doc.ofComment scope b := by
  unfold Doc.ofComment Comment.parse Comment.body
  rw [h]

end Text

/-! ## The texts of a package -/

namespace Source

/-- Changes the doc comment and the declaration of a value. -/
def Value.mapTexts (f : String → String) (v : Value) : Value :=
  { v with doc := f v.doc, decl := f v.decl }

def Value.texts (v : Value) : List String :=
  [v.doc, v.decl]

/-- Changes the doc comment and the declaration of a function. -/
def Func.mapTexts (f : String → String) (x : Func) : Func :=
  { x with doc := f x.doc, decl := f x.decl }

def Func.texts (x : Func) : List String :=
  [x.doc, x.decl]

/-- Changes the doc comment and the code of an example; its output is no source. -/
def Example.mapTexts (f : String → String) (e : Example) : Example :=
  { e with doc := f e.doc, code := f e.code }

def Example.texts (e : Example) : List String :=
  [e.doc, e.code]

/-- Changes the doc comments and declarations of a type and of what belongs to it. -/
def TypeDecl.mapTexts (f : String → String) (t : TypeDecl) : TypeDecl :=
  { t with
    doc := f t.doc
    decl := f t.decl
    funcs := t.funcs.map (Func.mapTexts f)
    methods := t.methods.map (Func.mapTexts f)
    consts := t.consts.map (Value.mapTexts f)
    vars := t.vars.map (Value.mapTexts f) }

def TypeDecl.texts (t : TypeDecl) : List String :=
  [t.doc, t.decl] ++ t.funcs.flatMap Func.texts ++ t.methods.flatMap Func.texts
    ++ t.consts.flatMap Value.texts ++ t.vars.flatMap Value.texts

/-- Changes every doc comment, declaration and example code of a package. -/
def Package.mapTexts (f : String → String) (p : Package) : Package :=
  { p with
    doc := f p.doc
    consts := p.consts.map (Value.mapTexts f)
    vars := p.vars.map (Value.mapTexts f)
    funcs := p.funcs.map (Func.mapTexts f)
    types := p.types.map (TypeDecl.mapTexts f)
    examples := p.examples.map (Example.mapTexts f) }

/-- Every doc comment, declaration and example code of a package. -/
def Package.texts (p : Package) : List String :=
  [p.doc] ++ p.consts.flatMap Value.texts ++ p.vars.flatMap Value.texts ++ p.funcs.flatMap Func.texts
    ++ p.types.flatMap TypeDecl.texts ++ p.examples.flatMap Example.texts

end Source

namespace SymbolTable

/-- Symbols are made of names. -/
theorem typeSymbols_mapTexts (f : String → String) (t : Source.TypeDecl) :
    typeSymbols (t.mapTexts f) = typeSymbols t := by
  simp only [typeSymbols, Source.TypeDecl.mapTexts, List.map_map, List.flatMap_map]
  rfl

theorem ofPackage_mapTexts (f : String → String) (p : Source.Package) :
    SymbolTable.ofPackage (p.mapTexts f) = SymbolTable.ofPackage p := by
  simp only [SymbolTable.ofPackage, packageSymbols, Source.Package.mapTexts, List.map_map,
    List.flatMap_map, typeSymbols_mapTexts]
  rfl

end SymbolTable

/-! ## Pages -/

namespace Page

/-- Lists whose members are shown alike are shown alike. -/
theorem mapM_map_eq {ε α β γ : Type} {f : α → β} {show₁ : β → Except ε γ} {show₂ : α → Except ε γ}
    {xs : List α} (h : ∀ x ∈ xs, show₁ (f x) = show₂ x) :
    (xs.map f).mapM show₁ = xs.mapM show₂ := by
  induction xs with
  | nil => rfl
  | cons x xs ih =>
    rw [List.forall_mem_cons] at h
    rw [List.map_cons, List.mapM_cons, List.mapM_cons, h.1, ih h.2]

section

variable {f : String → String} {scope : Scope} {examples : List Source.Example}

theorem ofExample_mapTexts {e : Source.Example} (h : ∀ t ∈ e.texts, SameLines (f t) t)
    (scope : Scope) (suffix : String) :
    ofExample scope suffix (e.mapTexts f) = ofExample scope suffix e := by
  have hdoc : SameLines (f e.doc) e.doc := h _ (by simp [Source.Example.texts])
  have hcode : SameLines (f e.code) e.code := h _ (by simp [Source.Example.texts])
  simp only [ofExample, Source.Example.mapTexts, hdoc.summary, hdoc.ofComment, hcode.layoutSource]

theorem ofValue_mapTexts {v : Source.Value} (h : ∀ t ∈ v.texts, SameLines (f t) t) :
    ofValue scope (v.mapTexts f) = ofValue scope v := by
  have hdoc : SameLines (f v.doc) v.doc := h _ (by simp [Source.Value.texts])
  have hdecl : SameLines (f v.decl) v.decl := h _ (by simp [Source.Value.texts])
  simp only [ofValue, Source.Value.mapTexts, hdoc.summary, hdoc.ofComment, hdecl.layoutSource]

theorem ofValues_mapTexts {vs : List Source.Value}
    (h : ∀ t ∈ vs.flatMap Source.Value.texts, SameLines (f t) t) :
    (vs.map (Source.Value.mapTexts f)).mapM (ofValue scope) = vs.mapM (ofValue scope) :=
  mapM_map_eq fun _ hv => ofValue_mapTexts fun t ht => h t (List.mem_flatMap_of_mem hv ht)

/-- Which examples a subject has depends on names alone. -/
theorem examplesOf_mapTexts (subject : String) (examples : List Source.Example) :
    examplesOf subject (examples.map (Source.Example.mapTexts f)) =
      (examplesOf subject examples).map fun (suffix, e) => (suffix, e.mapTexts f) := by
  unfold examplesOf
  rw [List.filterMap_map, List.map_filterMap]
  congr 1
  funext e
  simp only [Function.comp_apply, Option.map_map]
  rfl

theorem ofExamples_mapTexts {chosen : List (String × Source.Example)}
    (h : ∀ x ∈ chosen, ∀ t ∈ x.2.texts, SameLines (f t) t) :
    ofExamples scope (chosen.map fun (suffix, e) => (suffix, e.mapTexts f)) =
      ofExamples scope chosen :=
  mapM_map_eq fun x hx => ofExample_mapTexts (h x hx) _ x.1

theorem mem_of_mem_examplesOf {subject : String} {x : String × Source.Example}
    (h : x ∈ examplesOf subject examples) : x.2 ∈ examples := by
  obtain ⟨e, he, hx⟩ := List.mem_filterMap.1 h
  obtain ⟨suffix, -, rfl⟩ := Option.map_eq_some_iff.1 hx
  exact he

variable (hexamples : ∀ t ∈ examples.flatMap Source.Example.texts, SameLines (f t) t)

include hexamples

theorem ofExamples_examplesOf_mapTexts (subject : String) :
    ofExamples scope (examplesOf subject (examples.map (Source.Example.mapTexts f))) =
      ofExamples scope (examplesOf subject examples) := by
  rw [examplesOf_mapTexts]
  exact ofExamples_mapTexts fun x hx t ht =>
    hexamples t (List.mem_flatMap_of_mem (mem_of_mem_examplesOf hx) ht)

theorem ofFunc_mapTexts {x : Source.Func} (h : ∀ t ∈ x.texts, SameLines (f t) t) :
    ofFunc (examples.map (Source.Example.mapTexts f)) scope (x.mapTexts f) =
      ofFunc examples scope x := by
  have hdoc : SameLines (f x.doc) x.doc := h _ (by simp [Source.Func.texts])
  have hdecl : SameLines (f x.decl) x.decl := h _ (by simp [Source.Func.texts])
  have hsubject : funcSubject (x.mapTexts f) = funcSubject x := rfl
  simp only [ofFunc, hsubject, ofExamples_examplesOf_mapTexts hexamples]
  simp only [Source.Func.mapTexts, hdoc.summary, hdoc.ofComment, hdecl.layoutSource]
  rfl

theorem ofFuncs_mapTexts {xs : List Source.Func}
    (h : ∀ t ∈ xs.flatMap Source.Func.texts, SameLines (f t) t) :
    (xs.map (Source.Func.mapTexts f)).mapM
        (ofFunc (examples.map (Source.Example.mapTexts f)) scope) =
      xs.mapM (ofFunc examples scope) :=
  mapM_map_eq fun _ hx => ofFunc_mapTexts hexamples fun t ht => h t (List.mem_flatMap_of_mem hx ht)

theorem ofExamples_typeExamples_mapTexts (x : Source.TypeDecl) :
    ofExamples scope (typeExamples (x.mapTexts f) (examples.map (Source.Example.mapTexts f))) =
      ofExamples scope (typeExamples x examples) := by
  have hmethods : isMethodExample (x.mapTexts f) = isMethodExample x := by
    funext name
    simp only [isMethodExample, Source.TypeDecl.mapTexts, List.any_map]
    rfl
  have hchosen : typeExamples (x.mapTexts f) (examples.map (Source.Example.mapTexts f)) =
      (typeExamples x examples).map fun (suffix, e) => (suffix, e.mapTexts f) := by
    unfold typeExamples
    rw [hmethods]
    show (examplesOf x.name _).filter _ = _
    rw [examplesOf_mapTexts, List.filter_map]
    rfl
  rw [hchosen]
  exact ofExamples_mapTexts fun y hy t ht =>
    hexamples t (List.mem_flatMap_of_mem (mem_of_mem_examplesOf (List.mem_of_mem_filter hy)) ht)

theorem ofType_mapTexts {x : Source.TypeDecl} (h : ∀ t ∈ x.texts, SameLines (f t) t) :
    ofType (examples.map (Source.Example.mapTexts f)) scope (x.mapTexts f) =
      ofType examples scope x := by
  simp only [Source.TypeDecl.texts, List.forall_mem_append, List.forall_mem_cons] at h
  obtain ⟨⟨⟨⟨⟨hdoc, hdecl, -⟩, hfuncs⟩, hmethods⟩, hconsts⟩, hvars⟩ := h
  simp only [ofType, ofExamples_typeExamples_mapTexts hexamples]
  simp only [Source.TypeDecl.mapTexts, hdoc.summary, hdoc.ofComment, hdecl.layoutSource,
    ofValues_mapTexts hconsts, ofValues_mapTexts hvars, ofFuncs_mapTexts hexamples hfuncs,
    ofFuncs_mapTexts hexamples hmethods]

theorem ofTypes_mapTexts {xs : List Source.TypeDecl}
    (h : ∀ t ∈ xs.flatMap Source.TypeDecl.texts, SameLines (f t) t) :
    (xs.map (Source.TypeDecl.mapTexts f)).mapM
        (ofType (examples.map (Source.Example.mapTexts f)) scope) =
      xs.mapM (ofType examples scope) :=
  mapM_map_eq fun _ hx => ofType_mapTexts hexamples fun t ht => h t (List.mem_flatMap_of_mem hx ht)

end

/-- A page stays the same if its texts keep their lines. -/
theorem ofPackage_mapTexts {f : String → String} {p : Source.Package}
    (h : ∀ t ∈ p.texts, SameLines (f t) t) (scope : Scope) :
    ofPackage scope (p.mapTexts f) = ofPackage scope p := by
  have hscope : scope.ofPackage (p.mapTexts f) = scope.ofPackage p := by
    unfold Scope.ofPackage
    rw [SymbolTable.ofPackage_mapTexts]
    rfl
  simp only [Source.Package.texts, List.forall_mem_append, List.forall_mem_cons] at h
  obtain ⟨⟨⟨⟨⟨⟨hdoc, -⟩, hconsts⟩, hvars⟩, hfuncs⟩, htypes⟩, hexamples⟩ := h
  simp only [ofPackage, hscope]
  simp only [Source.Package.mapTexts, hdoc.summary, hdoc.ofComment,
    ofExamples_examplesOf_mapTexts hexamples, ofValues_mapTexts hconsts, ofValues_mapTexts hvars,
    ofFuncs_mapTexts hexamples hfuncs, ofTypes_mapTexts hexamples htypes]

/-- **Line ends do not matter**: a package whose comments, declarations and examples are written with
carriage returns in front of all line feeds has the same page, or fails in the same way. -/
theorem ofPackage_dosNewlines (scope : Scope) (p : Source.Package)
    (h : ∀ text ∈ p.texts, '\r' ∉ text.toList) :
    ofPackage scope (p.mapTexts (onChars dosNewlines)) = ofPackage scope p :=
  ofPackage_mapTexts (fun text htext => sameLines_dosNewlines (h text htext)) scope

/-- A package with a heading, code and a list in its comment, and with declarations of several lines. -/
def severalLines : Source.Package where
  name := "cache"
  doc := "Package cache\nkeeps values.\n\nUsage\n\n\tc := New()\n\n\tc.Get()\n\n  - one\n\n  - two\n"
  consts := [{ names := ["Size"], doc := "Size of it.\n", decl := "const (\n\tSize = 1\n)\n" }]
  types := [{
    name := "Cache"
    decl := "type Cache [\n\n\t8]string\n"
    methods := [{ name := "Get", recv := "*Cache", decl := "func (c *Cache) Get()\n" }] }]
  examples := [{ name := "Cache_Get", doc := "How\nto get.", code := "\nc.Get()\n" }]

theorem ofPackage_dosNewlines_severalLines :
    (∀ text ∈ severalLines.texts, '\r' ∉ text.toList) ∧
      severalLines.mapTexts (onChars dosNewlines) ≠ severalLines ∧
      ofPackage {} (severalLines.mapTexts (onChars dosNewlines)) = ofPackage {} severalLines := by
  have hreturns : ∀ text ∈ severalLines.texts, '\r' ∉ text.toList := by decide
  exact ⟨hreturns, by decide, ofPackage_dosNewlines {} severalLines hreturns⟩

end Page

end DocPages
