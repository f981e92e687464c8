import DocPages.Proofs.Page.Attachment
import DocPages.Proofs.Render.FileTemplate
import DocPages.Proofs.Source.Resolution
import DocPages.Proofs.Text.SourceLayout

/-!
# Why a page cannot be built

A page shows the source of all declarations and of all examples that belong to something. It cannot be
built just if one of these sources is white space only, and the first of them in the order of the page is
reported (`ofPackage_eq_error_iff_shows_blank`).

1. Source is laid out unless it is white space (`failure?_layoutSource`).
2. The steps of a builder do not depend on each other, so a builder fails for the first of its steps that
   fails (`failure?_bind_of_forall`). Hence every entity fails for the first source that it shows, in the
   order in which its parts are built (`failure?_ofPackage`).
3. Declarations and examples of the package are shown, whatever shows them (`mem_shownSources`).
-/

namespace DocPages

open Text Render

/-- All functions and methods. -/
def Source.Package.callables (p : Source.Package) : List Source.Func :=
  p.funcs ++ p.types.flatMap fun t => t.funcs ++ t.methods

namespace Page

/-! ## Shown sources -/

/-- Source that is shown. -/
structure Shown where
  kind : SourceKind
  text : String

namespace Shown

/-- White space only. -/
def isEmpty (s : Shown) : Bool :=
  isBlankLine s.text.toList

/-- Why source cannot be shown. -/
def emptySource? (s : Shown) : Option EmptySource :=
  if s.isEmpty then some ⟨s.kind⟩ else none

def ofValue (v : Source.Value) : Shown :=
  ⟨.declaration, v.decl⟩

def ofExample (e : Source.Example) : Shown :=
  ⟨.exampleCode, e.code⟩

end Shown

section

variable (examples : List Source.Example)

/-- The code of the examples that an owner takes. -/
def shownExamples (owner : String → Bool) : List Shown :=
  (examples.filter fun e => owner e.name).map .ofExample

/-- What the section of a function or method shows. -/
def shownFunc (f : Source.Func) : List Shown :=
  ⟨.signature, f.decl⟩ :: shownExamples examples (takes (funcSubject f))

/-- What the section of a type shows. -/
def shownType (t : Source.TypeDecl) : List Shown :=
  ⟨.declaration, t.decl⟩ :: (t.consts.map .ofValue ++ t.vars.map .ofValue
    ++ shownExamples examples (typeTakes t) ++ t.funcs.flatMap (shownFunc examples)
    ++ t.methods.flatMap (shownFunc examples))

end

/-- What the page of a package shows, in order. -/
def shownSources (src : Source.Package) : List Shown :=
  shownExamples src.examples (takes "") ++ src.consts.map .ofValue ++ src.vars.map .ofValue
    ++ src.funcs.flatMap (shownFunc src.examples) ++ src.types.flatMap (shownType src.examples)

/-! ## Steps -/

/-- The failure for the first source that cannot be shown. -/
def firstEmpty (ss : List Shown) : Option EmptySource :=
  ss.findSome? Shown.emptySource?

theorem firstEmpty_cons (s : Shown) (ss : List Shown) :
    firstEmpty (s :: ss) = s.emptySource?.or (firstEmpty ss) := by
  unfold firstEmpty
  rw [List.findSome?_cons]
  cases s.emptySource? <;> rfl

theorem firstEmpty_append (ss rs : List Shown) :
    firstEmpty (ss ++ rs) = (firstEmpty ss).or (firstEmpty rs) :=
  List.findSome?_append

/-- A step and another one that does not depend on its result. -/
theorem failure?_bind_of_forall {ε α β : Type} {x : Except ε α} {f : α → Except ε β} {e : Option ε}
    (h : ∀ a, failure? (f a) = e) : failure? (x >>= f) = (failure? x).or e := by
  cases x with
  | error d => rfl
  | ok a => exact h a

/-- Entities that are built one after another. -/
theorem failure?_mapM_shown {α β : Type} {f : α → Except EmptySource β} {shown : α → List Shown}
    (h : ∀ x, failure? (f x) = firstEmpty (shown x)) (xs : List α) :
    failure? (xs.mapM f) = firstEmpty (xs.flatMap shown) := by
  rw [failure?_mapM]
  induction xs with
  | nil => rfl
  | cons x xs ih =>
    rw [List.flatMap_cons, firstEmpty_append, List.findSome?_cons, ih, h]
    cases firstEmpty (shown x) <;> rfl

/-! ## Entities -/

section Entities

variable (examples : List Source.Example) (scope : Scope)

theorem failure?_layoutSource (s : Shown) : failure? (layoutSource s.kind s.text) = s.emptySource? := by
  unfold Shown.emptySource? Shown.isEmpty layoutSource
  by_cases hblank : isBlankLine s.text.toList = true
  · rw [if_pos hblank, layoutSource?_eq_none.2 hblank]
    rfl
  · rw [if_neg hblank]
    obtain ⟨text, htext⟩ := Option.ne_none_iff_exists'.1 (mt layoutSource?_eq_none.1 hblank)
    rw [htext]
    rfl

theorem firstEmpty_singleton (s : Shown) : firstEmpty [s] = failure? (layoutSource s.kind s.text) := by
  rw [firstEmpty_cons, failure?_layoutSource]
  exact Option.or_none

theorem failure?_ofExample (suffix : String) (src : Source.Example) :
    failure? (ofExample scope suffix src) = firstEmpty [.ofExample src] := by
  rw [firstEmpty_singleton]
  exact failure?_bind_pure _ _

theorem failure?_ofValue (v : Source.Value) :
    failure? (ofValue scope v) = firstEmpty [.ofValue v] := by
  rw [firstEmpty_singleton]
  exact failure?_bind_pure _ _

theorem failure?_ofExamples (xs : List (String × Source.Example)) :
    failure? (ofExamples scope xs) = firstEmpty ((xs.map (·.2)).map .ofExample) := by
  rw [List.map_map, List.map_eq_flatMap, ofExamples]
  refine failure?_mapM_shown ?_ xs
  rintro ⟨suffix, e⟩
  exact failure?_ofExample (scope.deeper 1) suffix e

theorem failure?_ofValues (vs : List Source.Value) :
    failure? (vs.mapM (ofValue scope)) = firstEmpty (vs.map .ofValue) := by
  rw [List.map_eq_flatMap]
  exact failure?_mapM_shown (failure?_ofValue scope) vs

theorem failure?_ofFunc (f : Source.Func) :
    failure? (ofFunc examples scope f) = firstEmpty (shownFunc examples f) := by
  have hexamples := failure?_ofExamples scope (examplesOf (funcSubject f) examples)
  rw [map_examplesOf] at hexamples
  rw [shownFunc, firstEmpty_cons, shownExamples, ← hexamples, ← failure?_layoutSource]
  exact failure?_bind_of_forall fun signature => failure?_bind_pure _ _

theorem failure?_ofFuncs (fs : List Source.Func) :
    failure? (fs.mapM (ofFunc examples scope)) = firstEmpty (fs.flatMap (shownFunc examples)) :=
  failure?_mapM_shown (failure?_ofFunc examples scope) fs

theorem failure?_ofType (t : Source.TypeDecl) :
    failure? (ofType examples scope t) = firstEmpty (shownType examples t) := by
  have hexamples := failure?_ofExamples scope (typeExamples t examples)
  rw [map_typeExamples] at hexamples
  simp only [shownType, firstEmpty_cons, firstEmpty_append, Option.or_assoc, shownExamples,
    ← hexamples, ← failure?_layoutSource, ← failure?_ofValues (scope.deeper 1),
    ← failure?_ofFuncs examples (scope.deeper 1)]
  exact failure?_bind_of_forall fun decl => failure?_bind_of_forall fun consts =>
    failure?_bind_of_forall fun vars => failure?_bind_of_forall fun shown =>
    failure?_bind_of_forall fun funcs => failure?_bind_pure _ _

end Entities

/-- A page fails for the first source that it cannot show. -/
theorem failure?_ofPackage (scope : Scope) (src : Source.Package) :
    failure? (ofPackage scope src) = firstEmpty (shownSources src) := by
  have hexamples := failure?_ofExamples (scope.ofPackage src) (examplesOf "" src.examples)
  rw [map_examplesOf] at hexamples
  have htypes := failure?_mapM_shown
    (failure?_ofType src.examples ((scope.ofPackage src).deeper 1)) src.types
  simp only [shownSources, firstEmpty_append, Option.or_assoc, shownExamples, ← hexamples, ← htypes,
    ← failure?_ofValues ((scope.ofPackage src).deeper 1),
    ← failure?_ofFuncs src.examples ((scope.ofPackage src).deeper 1)]
  exact failure?_bind_of_forall fun shown => failure?_bind_of_forall fun consts =>
    failure?_bind_of_forall fun vars => failure?_bind_of_forall fun funcs => failure?_bind_pure _ _

/-! ## What is shown -/

/-- Whether an example is named after the package, a type, or a function or method. -/
def isAttached (src : Source.Package) (name : String) : Bool :=
  takes "" name || src.types.any (typeTakes · name) ||
    src.callables.any fun f => takes (funcSubject f) name

theorem mem_shownExamples {examples : List Source.Example} {owner : String → Bool} {s : Shown} :
    s ∈ shownExamples examples owner ↔ ∃ x ∈ examples, owner x.name = true ∧ s = .ofExample x := by
  simp only [shownExamples, List.mem_map, List.mem_filter, and_assoc, eq_comm]

/-- A page shows all declarations and all examples that are attached to something. -/
theorem mem_shownSources {src : Source.Package} {s : Shown} :
    s ∈ shownSources src ↔ (∃ v ∈ src.groups, s = .ofValue v) ∨
      (∃ t ∈ src.types, s = ⟨.declaration, t.decl⟩) ∨
      (∃ f ∈ src.callables, s = ⟨.signature, f.decl⟩) ∨
      ∃ x ∈ src.examples, isAttached src x.name = true ∧ s = .ofExample x := by
  simp only [shownSources, shownType, shownFunc, Source.Package.groups, Source.Package.callables,
    isAttached, Bool.or_eq_true, List.any_eq_true, List.mem_append, List.mem_cons, List.mem_map,
    List.mem_flatMap, mem_shownExamples]
  constructor
  · grind
  · rintro (⟨v, hv, rfl⟩ | ⟨t, ht, rfl⟩ | ⟨f, hf, rfl⟩ |
      ⟨x, hx, (hpage | ⟨t, ht, htype⟩) | ⟨f, hf, hfunc⟩, rfl⟩) <;> grind

section

variable {xs ys : List Source.Example} {attached : String → Bool}
  (h : xs.filter (fun e => attached e.name) = ys.filter fun e => attached e.name)
include h

/-- An owner sees nothing of the examples that are not attached. -/
theorem shownExamples_congr {owner : String → Bool}
    (howner : ∀ name, owner name = true → attached name = true) :
    shownExamples xs owner = shownExamples ys owner := by
  have hfilter (zs : List Source.Example) : zs.filter (fun e => owner e.name) =
      (zs.filter fun e => attached e.name).filter fun e => owner e.name := by
    rw [List.filter_filter]
    refine List.filter_congr fun e _ => ?_
    cases hname : owner e.name with
    | false => rfl
    | true => simp [howner e.name hname]
  rw [shownExamples, hfilter, h, ← hfilter, shownExamples]

theorem shownFunc_congr {f : Source.Func}
    (howner : ∀ name, takes (funcSubject f) name = true → attached name = true) :
    shownFunc xs f = shownFunc ys f := by
  rw [shownFunc, shownExamples_congr h howner, shownFunc]

end

theorem shownSources_congr {src : Source.Package} {examples : List Source.Example}
    (h : examples.filter (fun e => isAttached src e.name) =
      src.examples.filter fun e => isAttached src e.name) :
    shownSources { src with examples } = shownSources src := by
  have hpage : shownExamples examples (takes "") = shownExamples src.examples (takes "") :=
    shownExamples_congr h fun name hname => by simp [isAttached, hname]
  have hfunc : ∀ f ∈ src.callables, shownFunc examples f = shownFunc src.examples f := fun f hf =>
    shownFunc_congr h fun name hname => by
      simp only [isAttached, Bool.or_eq_true, List.any_eq_true]
      exact Or.inr ⟨f, hf, hname⟩
  have htype : ∀ t ∈ src.types, shownType examples t = shownType src.examples t := by
    intro t ht
    have hown : shownExamples examples (typeTakes t) = shownExamples src.examples (typeTakes t) :=
      shownExamples_congr h fun name hname => by
        simp only [isAttached, Bool.or_eq_true, List.any_eq_true]
        exact Or.inl (Or.inr ⟨t, ht, hname⟩)
    have hmember : ∀ f ∈ t.funcs ++ t.methods, f ∈ src.callables := fun f hf =>
      List.mem_append_right _ (List.mem_flatMap.2 ⟨t, ht, hf⟩)
    rw [shownType, hown,
      List.flatMap_congr fun f hf => hfunc f (hmember f (List.mem_append_left _ hf)),
      List.flatMap_congr fun f hf => hfunc f (hmember f (List.mem_append_right _ hf)), shownType]
  rw [shownSources, hpage, List.flatMap_congr fun f hf => hfunc f (List.mem_append_left _ hf),
    List.flatMap_congr htype, shownSources]

/-! ## The outcome -/

theorem emptySource?_eq_some {s : Shown} {e : EmptySource} :
    s.emptySource? = some e ↔ s.isEmpty = true ∧ e = ⟨s.kind⟩ := by
  unfold Shown.emptySource?
  split_ifs with h <;> simp [h, eq_comm]

theorem exists_firstEmpty {ss : List Shown} :
    (∃ e, firstEmpty ss = some e) ↔ ∃ s ∈ ss, s.isEmpty = true := by
  have hs (s : Shown) : s.emptySource?.isSome = s.isEmpty := by
    unfold Shown.emptySource?
    split_ifs with h <;> simp [h]
  rw [← Option.isSome_iff_exists, firstEmpty, List.findSome?_isSome_iff]
  simp only [hs]

/-- **A page cannot be built just if some source that it shows is empty**: that of a declaration, or of an
example that is attached to something. The first one in the order of the page is reported, and the other
examples do not matter. -/
theorem ofPackage_eq_error_iff_shows_blank (scope : Scope) (src : Source.Package) :
    ((∃ e, ofPackage scope src = .error e) ↔
      (∃ v ∈ src.groups, isBlankLine v.decl.toList = true) ∨
      (∃ t ∈ src.types, isBlankLine t.decl.toList = true) ∨
      (∃ f ∈ src.callables, isBlankLine f.decl.toList = true) ∨
      ∃ x ∈ src.examples, isAttached src x.name = true ∧ isBlankLine x.code.toList = true) ∧
    (∀ e, ofPackage scope src = .error e → ∃ before s after,
      shownSources src = before ++ s :: after ∧ (∀ r ∈ before, r.isEmpty = false) ∧
        s.isEmpty = true ∧ e = ⟨s.kind⟩) ∧
    ∀ examples, examples.filter (fun x => isAttached src x.name) =
        src.examples.filter (fun x => isAttached src x.name) →
      ∀ e, ofPackage scope { src with examples } = .error e ↔ ofPackage scope src = .error e := by
  have hfirst (e : EmptySource) :
      ofPackage scope src = .error e ↔ firstEmpty (shownSources src) = some e := by
    rw [← failure?_ofPackage scope, failure?_eq_some]
  refine ⟨?_, fun e he => ?_, fun examples hsame e => ?_⟩
  · simp only [hfirst, exists_firstEmpty, mem_shownSources]
    constructor
    · rintro ⟨s, ⟨v, hv, rfl⟩ | ⟨t, ht, rfl⟩ | ⟨f, hf, rfl⟩ | ⟨x, hx, hattached, rfl⟩, hempty⟩
      · exact Or.inl ⟨v, hv, hempty⟩
      · exact Or.inr (Or.inl ⟨t, ht, hempty⟩)
      · exact Or.inr (Or.inr (Or.inl ⟨f, hf, hempty⟩))
      · exact Or.inr (Or.inr (Or.inr ⟨x, hx, hattached, hempty⟩))
    · rintro (⟨v, hv, hempty⟩ | ⟨t, ht, hempty⟩ | ⟨f, hf, hempty⟩ | ⟨x, hx, hattached, hempty⟩)
      · exact ⟨.ofValue v, Or.inl ⟨v, hv, rfl⟩, hempty⟩
      · exact ⟨_, Or.inr (Or.inl ⟨t, ht, rfl⟩), hempty⟩
      · exact ⟨_, Or.inr (Or.inr (Or.inl ⟨f, hf, rfl⟩)), hempty⟩
      · exact ⟨_, Or.inr (Or.inr (Or.inr ⟨x, hx, hattached, rfl⟩)), hempty⟩
  · obtain ⟨before, s, after, hsplit, hs, hbefore⟩ := List.findSome?_eq_some_iff.1 ((hfirst e).1 he)
    obtain ⟨hempty, rfl⟩ := emptySource?_eq_some.1 hs
    refine ⟨before, s, after, hsplit, fun r hr => ?_, hempty, rfl⟩
    have hnone := hbefore r hr
    unfold Shown.emptySource? at hnone
    simpa using hnone
  · rw [hfirst, ← failure?_eq_some, failure?_ofPackage, shownSources_congr hsame]

/-- A type with a method. -/
def typeWithMethod : Source.TypeDecl where
  name := "T"
  decl := "type T int"
  methods := [{ name := "M", recv := "*T", decl := "func (t *T) M()" }]

/-- Two examples without code, one of nothing that is declared and one of the method of a type. -/
def blankExamples : Source.Package where
  types := [typeWithMethod]
  examples := [{ name := "U", code := " " }, { name := "T_M_again", code := "\t\n\u3000" }]

theorem ofPackage_eq_error_iff_shows_blank_blankExamples :
    (∃ e, ofPackage {} blankExamples = .error e) ∧
    (∀ e, ofPackage {} blankExamples = .error e → e = ⟨.exampleCode⟩) ∧
    ∀ e, ofPackage {} { blankExamples with examples := blankExamples.examples.drop 1 } = .error e ↔
      ofPackage {} blankExamples = .error e := by
  obtain ⟨hany, hfirst, hsame⟩ := ofPackage_eq_error_iff_shows_blank {} blankExamples
  refine ⟨hany.2 (Or.inr (Or.inr (Or.inr ⟨{ name := "T_M_again", code := "\t\n\u3000" }, ?_⟩))),
    fun e he => ?_, hsame _ (by decide)⟩
  · decide
  · obtain ⟨before, s, after, hsplit, -, hempty, rfl⟩ := hfirst e he
    have hkinds : ∀ s ∈ shownSources blankExamples, s.isEmpty = true → s.kind = .exampleCode := by
      decide
    rw [hkinds s (hsplit ▸ List.mem_append_right before List.mem_cons_self) hempty]

end Page

end DocPages
