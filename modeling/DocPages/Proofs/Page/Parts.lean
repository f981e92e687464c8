import DocPages.Page.Entity
import Mathlib.Data.List.Forall2

/-!
# Parts of a page

What a page holds once it is built: each entity is made of the parts of its source, and a list of
entities of the entities of a list, in order. No proof outside of this module opens the builders.
-/

namespace DocPages.Page

open Text

/-! ## Steps that may fail -/

section Steps

variable {ε α β : Type}

theorem bind_eq_ok {x : Except ε α} {f : α → Except ε β} {b : β} :
    (x >>= f) = .ok b ↔ ∃ a, x = .ok a ∧ f a = .ok b := by
  cases x with
  | error e => simp [bind, Except.bind]
  | ok a => simp [bind, Except.bind]

theorem pure_eq_ok {a b : α} : (pure a : Except ε α) = .ok b ↔ b = a := by
  simp [pure, Except.pure, eq_comm]

theorem forall₂_of_mapM {f : α → Except ε β} {xs : List α} {ys : List β}
    (h : xs.mapM f = .ok ys) : List.Forall₂ (fun x y => f x = .ok y) xs ys := by
  induction xs generalizing ys with
  | nil =>
    rw [List.mapM_nil, pure_eq_ok] at h
    subst h
    exact .nil
  | cons x xs ih =>
    rw [List.mapM_cons, bind_eq_ok] at h
    obtain ⟨y, hy, h⟩ := h
    obtain ⟨rest, hrest, h⟩ := bind_eq_ok.1 h
    rw [pure_eq_ok] at h
    subst h
    exact .cons hy (ih hrest)

/-- Every source of a list is shown. -/
theorem exists_shown_of_mapM {f : α → Except ε β} {xs : List α} {ys : List β}
    (h : xs.mapM f = .ok ys) {x : α} (hx : x ∈ xs) : ∃ y ∈ ys, f x = .ok y := by
  have hall := forall₂_of_mapM h
  clear h
  induction hall with
  | nil => cases hx
  | cons hy _ ih =>
    rcases List.mem_cons.1 hx with rfl | hx
    · exact ⟨_, List.mem_cons_self, hy⟩
    · obtain ⟨y, hmem, hy⟩ := ih hx
      exact ⟨y, List.mem_cons_of_mem _ hmem, hy⟩

/-- Whatever is shown in a list has a source there. -/
theorem exists_source_of_mapM {f : α → Except ε β} {xs : List α} {ys : List β}
    (h : xs.mapM f = .ok ys) {y : β} (hy : y ∈ ys) : ∃ x ∈ xs, f x = .ok y := by
  have hall := forall₂_of_mapM h
  clear h
  induction hall with
  | nil => cases hy
  | cons hx _ ih =>
    rcases List.mem_cons.1 hy with rfl | hy
    · exact ⟨_, List.mem_cons_self, hx⟩
    · obtain ⟨x, hmem, hx⟩ := ih hy
      exact ⟨x, List.mem_cons_of_mem _ hmem, hx⟩

end Steps

/-! ## Entities -/

section Entities

variable {scope : Scope} {examples : List Source.Example}

theorem ofExample_eq_ok {suffix : String} {src : Source.Example} {e : Example} :
    ofExample scope suffix src = .ok e ↔ ∃ code, layoutSource .exampleCode src.code = .ok code ∧
      e = {
        level := scope.level
        name := splitCamel suffix
        title := if (splitCamel suffix).isEmpty then "Example"
          else "Example (" ++ splitCamel suffix ++ ")"
        summary := summary src.doc
        doc := Doc.ofComment (scope.deeper 1) src.doc
        code
        output := src.output } := by
  simp only [ofExample, bind_eq_ok, pure_eq_ok]

theorem ofValue_eq_ok {src : Source.Value} {v : Value} :
    ofValue scope src = .ok v ↔ ∃ decl, layoutSource .declaration src.decl = .ok decl ∧
      v = {
        level := scope.level
        names := src.names
        anchor := src.names.headD ""
        summary := summary src.doc
        doc := Doc.ofComment (scope.deeper 1) src.doc
        decl
        location := location scope src.location } := by
  simp only [ofValue, bind_eq_ok, pure_eq_ok]

theorem ofFunc_eq_ok {src : Source.Func} {f : Func} :
    ofFunc examples scope src = .ok f ↔
      ∃ signature, layoutSource .signature src.decl = .ok signature ∧
      ∃ shown, ofExamples scope (examplesOf (funcSubject src) examples) = .ok shown ∧
      f = {
        level := scope.level
        name := src.name
        receiver := src.recv
        title := funcTitle src
        anchor := funcAnchor src
        summary := summary src.doc
        doc := Doc.ofComment (scope.deeper 1) src.doc
        signature
        location := location scope src.location
        examples := shown } := by
  simp only [ofFunc, bind_eq_ok, pure_eq_ok]

theorem ofType_eq_ok {src : Source.TypeDecl} {t : TypeDecl} :
    ofType examples scope src = .ok t ↔
      ∃ decl, layoutSource .declaration src.decl = .ok decl ∧
      ∃ consts, src.consts.mapM (ofValue (scope.deeper 1)) = .ok consts ∧
      ∃ vars, src.vars.mapM (ofValue (scope.deeper 1)) = .ok vars ∧
      ∃ shown, ofExamples scope (typeExamples src examples) = .ok shown ∧
      ∃ funcs, src.funcs.mapM (ofFunc examples (scope.deeper 1)) = .ok funcs ∧
      ∃ methods, src.methods.mapM (ofFunc examples (scope.deeper 1)) = .ok methods ∧
      t = {
        level := scope.level
        name := src.name
        title := "type " ++ src.name
        anchor := src.name
        summary := summary src.doc
        doc := Doc.ofComment (scope.deeper 1) src.doc
        decl
        location := location scope src.location
        consts
        vars
        examples := shown
        funcs
        methods } := by
  simp only [ofType, bind_eq_ok, pure_eq_ok]

end Entities

theorem ofPackage_eq_ok {outer : Scope} {src : Source.Package} {p : Package} :
    ofPackage outer src = .ok p ↔
      ∃ shown, ofExamples (outer.ofPackage src) (examplesOf "" src.examples) = .ok shown ∧
      ∃ consts, src.consts.mapM (ofValue ((outer.ofPackage src).deeper 1)) = .ok consts ∧
      ∃ vars, src.vars.mapM (ofValue ((outer.ofPackage src).deeper 1)) = .ok vars ∧
      ∃ funcs, src.funcs.mapM (ofFunc src.examples ((outer.ofPackage src).deeper 1)) = .ok funcs ∧
      ∃ types, src.types.mapM (ofType src.examples ((outer.ofPackage src).deeper 1)) = .ok types ∧
      p = {
        level := (outer.ofPackage src).level
        name := src.name
        dirname := dirName src.dir
        dir := src.dir
        importPath := src.importPath
        importDecl := "import \"" ++ src.importPath ++ "\""
        summary := summary src.doc
        doc := Doc.ofComment ((outer.ofPackage src).deeper 1) src.doc
        examples := shown
        consts
        vars
        funcs
        types } := by
  simp only [ofPackage, bind_eq_ok, pure_eq_ok]

end DocPages.Page
