import DocPages.Proofs.Render.Failures

/-!
# Files of several packages

A file is its packages one after another between a fixed start and end, and no package has an influence
on another (`renderFile_ok_iff_forall_renderPackage_ok`).

1. The template of a file writes the text of each package as it is rendered on its own
   (`render_file`).
2. All pages are built before anything is rendered. So a package without a page makes the file fail
   (`renderFile_of_error`), and else the file fails for the first package that does
   (`renderFile_of_ok`).
-/

namespace DocPages.Render

open Template Text

variable {d : Dialect} {enter : Enter} {c : Context}

/-! ## The text of a file -/

/-- The notice at the start of every file. -/
def banner : String :=
  "<!-- Code generated by docmark. DO NOT EDIT -->"

/-- The header or footer of a file, which is left out if it is empty. -/
def margin (text : String) : String :=
  if text.isEmpty then "" else text ++ "\n\n"

/-- A file with the texts of its packages. -/
def fileText (header footer : String) (packages : List String) : String :=
  banner ++ "\n\n" ++ margin header ++ String.join packages ++ margin footer ++
    "Generated by " ++ Dialect.link "docmark" "https://github.com/docmark/docmark" ++ "\n"

theorem writes_spacer (hc : ClearIn d c) : Writes (library d) enter c spacer c [.ok "\n\n"] := by
  refine writes_emit_ok ?_
  rw [eval_call0 hc (by decide), call_spacer]

theorem writes_margin (hc : ClearIn d c) {x text : String} (hx : (library d).value c x = .str text) :
    Writes (library d) enter c (onlyIf (var x) [.emit (var x), spacer]) c [.ok (margin text)] := by
  refine writes_cond (eval_var hx) ?_
  rw [Value.isTrue, margin]
  cases text.isEmpty with
  | true => exact writesAll_nil
  | false =>
    refine WritesAll.congr (writesAll_cons (writes_emit_ok (eval_var hx))
      (writesAll_singleton (writes_spacer hc))) ?_
    simp

theorem run_file {n : ℕ} {f : Page.File} (h : f.toValue.depth ≤ n) :
    (library d).run n { root := f.toValue } fileTemplate =
      (f.packages.mapM fun p => (library d).render "package" p.toValue).map
        (fileText f.header f.footer) := by
  obtain ⟨m, rfl⟩ := Value.exists_succ_of_depth_le h
  have hc : ClearIn d { root := f.toValue } := clear_page rfl
  have hpackages : Writes (library d) ((library d).run m) { root := f.toValue }
      (forEach "package" (var "packages") "package") { root := f.toValue }
      (f.packages.flatMap fun p => [(library d).render "package" p.toValue]) := by
    -- inside of the file there is less room for nesting, which is still enough for the package
    refine writes_renderEach hc (by decide) rfl (value_page rfl rfl) rfl fun p hp => ?_
    rw [concat_singleton]
    exact run_package_eq_render (Value.depth_item_le (x := "packages") h rfl hp)
  have hlink : Writes (library d) ((library d).run m) { root := f.toValue }
      (emitCall "link" [lit "docmark", lit "https://github.com/docmark/docmark"]) { root := f.toValue }
      [.ok (Dialect.link "docmark" "https://github.com/docmark/docmark")] :=
    writes_emit_ok (eval_link hc (eval_lit _) (eval_lit _))
  have hheader : (library d).value { root := f.toValue } "header_text" = .str f.header :=
    value_page rfl rfl
  have hfooter : (library d).value { root := f.toValue } "footer_text" = .str f.footer :=
    value_page rfl rfl
  have hrun : (library d).run (m + 1) { root := f.toValue } fileTemplate = _ :=
    run_of_writesAll (writesAll_cons (writes_text banner) (writesAll_cons (writes_spacer hc)
      (writesAll_cons (writes_margin hc hheader) (writesAll_cons hpackages
      (writesAll_cons (writes_margin hc hfooter) (writesAll_cons (writes_text "Generated by ")
      (writesAll_cons hlink (writesAll_singleton (writes_text "\n")))))))))
  rw [hrun, ← List.map_eq_flatMap]
  simp only [List.singleton_append, concat_cons_ok, concat_append, concat_map_eq_mapM]
  cases f.packages.mapM fun p => (library d).render "package" p.toValue with
  | error e => rfl
  | ok texts => simp [fileText, String.append_assoc]

theorem render_file (d : Dialect) (f : Page.File) :
    (library d).render "file" f.toValue =
      (f.packages.mapM fun p => (library d).render "package" p.toValue).map
        (fileText f.header f.footer) :=
  run_file (Nat.le_add_left _ _)

/-! ## Pages before texts -/

section

variable (d : Dialect) (header footer : String) {packages : List (Scope × Source.Package)}

/-- The text of a package of a file on its own. -/
def renderOne (x : Scope × Source.Package) : Except RenderError String :=
  (standard d).renderPackage x.1 x.2

theorem mapM_renderOne {pages : List Page.Package}
    (h : packages.mapM (fun x => Page.ofPackage x.1 x.2) = .ok pages) :
    packages.mapM (renderOne d) =
      (pages.mapM fun p => (library d).render "package" p.toValue).mapError .template := by
  have hall := Page.forall₂_of_mapM h
  clear h
  induction hall with
  | nil => rfl
  | @cons x p packages pages hx _ ih =>
    rw [List.mapM_cons, List.mapM_cons, ih, renderOne, renderPackage_of_ok d hx]
    cases (library d).render "package" p.toValue with
    | error e => rfl
    | ok text => cases pages.mapM fun p => (library d).render "package" p.toValue <;> rfl

/-- A file fails if one of its packages has no page. -/
theorem renderFile_of_error {e : EmptySource}
    (h : packages.mapM (fun x => Page.ofPackage x.1 x.2) = .error e) :
    (standard d).renderFile header footer packages = .error (.emptySource e) := by
  rw [Renderer.renderFile, Page.ofFile, h, error_bind, renderPage_error]

/-- If all packages have a page, a file is made of their texts. -/
theorem renderFile_of_ok {pages : List Page.Package}
    (h : packages.mapM (fun x => Page.ofPackage x.1 x.2) = .ok pages) :
    (standard d).renderFile header footer packages = (packages.mapM (renderOne d)).map
      (fileText (onChars trimEnd header) (onChars trimEnd footer)) := by
  rw [Renderer.renderFile, Page.ofFile, h, ok_bind, pure_ok, renderPage_ok, library_standard,
    render_file, mapM_renderOne d h]
  cases pages.mapM fun p => (library d).render "package" p.toValue <;> rfl

/-! ## Failures -/

/-- Whether a page cannot be built. -/
def RenderError.isEmptySource : RenderError → Bool
  | emptySource _ => true
  | _ => false

/-- Why packages fail on their own, in order. -/
def packageFailures (packages : List (Scope × Source.Package)) : List RenderError :=
  packages.filterMap fun x => failure? (renderOne d x)

theorem failure?_mapM {ε α β : Type} (f : α → Except ε β) (xs : List α) :
    failure? (xs.mapM f) = xs.findSome? fun x => failure? (f x) := by
  induction xs with
  | nil => rfl
  | cons x xs ih =>
    rw [List.mapM_cons, List.findSome?_cons, ← ih]
    cases f x with
    | error e => rfl
    | ok y => cases xs.mapM f <;> rfl

/-- The first package without a page is the first one that fails for an empty source. -/
theorem find?_packageFailures (packages : List (Scope × Source.Package)) :
    (packageFailures d packages).find? RenderError.isEmptySource =
      (failure? (packages.mapM fun x => Page.ofPackage x.1 x.2)).map .emptySource := by
  rw [failure?_mapM]
  unfold packageFailures
  induction packages with
  | nil => rfl
  | cons x packages ih =>
    rw [List.filterMap_cons, List.findSome?_cons]
    cases hpage : Page.ofPackage x.1 x.2 with
    | error e =>
      rw [renderOne, renderPackage_of_error d hpage]
      rfl
    | ok p =>
      rw [renderOne, renderPackage_of_ok d hpage, failure?_mapError, failure?, ← ih]
      cases failure? ((library d).render "package" p.toValue) <;> rfl

/-- A file fails for the first package without a page, and else for the first that fails. -/
theorem failure?_renderFile (packages : List (Scope × Source.Package)) :
    failure? ((standard d).renderFile header footer packages) =
      ((packageFailures d packages).find? RenderError.isEmptySource).or
        (packageFailures d packages).head? := by
  rw [find?_packageFailures]
  cases h : packages.mapM fun x => Page.ofPackage x.1 x.2 with
  | error e =>
    rw [renderFile_of_error d header footer h]
    rfl
  | ok pages =>
    have hfirst : (packageFailures d packages).head? = failure? (packages.mapM (renderOne d)) := by
      rw [packageFailures, List.head?_filterMap, failure?_mapM]
    rw [renderFile_of_ok d header footer h, hfirst]
    cases packages.mapM (renderOne d) <;> rfl

end

/-- **Packages do not influence each other**: a file is rendered if all of its packages are, and then
consists of their texts between a fixed start and end. It fails for an empty source if there is one, and
else for the first package that fails. -/
theorem renderFile_ok_iff_forall_renderPackage_ok (d : Dialect) (header footer : String)
    (packages : List (Scope × Source.Package)) :
    ((∃ text, (standard d).renderFile header footer packages = .ok text) ↔
      ∀ x ∈ packages, ∃ text, (standard d).renderPackage x.1 x.2 = .ok text) ∧
    (∀ texts, packages.mapM (fun x => (standard d).renderPackage x.1 x.2) = .ok texts →
      (standard d).renderFile header footer packages =
        .ok (fileText (onChars trimEnd header) (onChars trimEnd footer) texts)) ∧
    failure? ((standard d).renderFile header footer packages) =
      ((packageFailures d packages).find? RenderError.isEmptySource).or
        (packageFailures d packages).head? := by
  have hfailure := failure?_renderFile d header footer packages
  have hnone : failure? ((standard d).renderFile header footer packages) = none ↔
      packageFailures d packages = [] := by
    rw [hfailure]
    cases packageFailures d packages <;> simp
  refine ⟨?_, fun texts htexts => ?_, hfailure⟩
  · rw [← failure?_eq_none, hnone, packageFailures, List.filterMap_eq_nil_iff]
    simp only [failure?_eq_none]
    rfl
  · have hempty : packageFailures d packages = [] := by
      rw [packageFailures, List.filterMap_eq_nil_iff, ← List.findSome?_eq_none_iff, ← failure?_mapM,
        failure?_eq_none]
      exact ⟨texts, htexts⟩
    have hpages := find?_packageFailures d packages
    rw [hempty, List.find?_nil, eq_comm, Option.map_eq_none_iff, failure?_eq_none] at hpages
    obtain ⟨pages, hpages⟩ := hpages
    have hone : packages.mapM (renderOne d) = .ok texts := htexts
    rw [renderFile_of_ok d header footer hpages, hone, map_ok]

/-- A package without declarations. -/
def plainPackage : Source.Package where
  name := "a"
  importPath := "x/a"

/-- The page of the package without declarations. -/
def plainPage : String :=
  "# a\n\n\x60\x60\x60go\nimport \"x/a\"\n\x60\x60\x60\n\n## Index\n\n"

/-- A function without a declaration that could be shown. -/
def emptyFunc : Source.Package where
  name := "b"
  funcs := [{ name := "F" }]

theorem renderFile_ok_iff_forall_renderPackage_ok_emptyFunc :
    (standard .github).renderFile "Top \n" " " [({}, plainPackage), ({}, plainPackage)] =
      .ok (banner ++ "\n\nTop\n\n" ++ plainPage ++ plainPage ++
        "Generated by [docmark](<https://github.com/docmark/docmark>)\n") ∧
    (standard .github).renderPackage rootScope strayType = .error (.template
      ⟨.invalidOperation, some (.codeHref "../t.go" "outside of the repository")⟩) ∧
    (standard .github).renderPackage {} emptyFunc = .error (.emptySource ⟨.signature⟩) ∧
    (standard .github).renderFile "" "" [(rootScope, strayType), ({}, emptyFunc)] =
      .error (.emptySource ⟨.signature⟩) := by
  have hplain : (standard .github).renderPackage {} plainPackage = .ok plainPage := by
    rw [renderPackage_of_ok .github rfl, render_package_eq .github (by decide)]
    decide +kernel
  have hstray : failure? ((standard .github).renderPackage rootScope strayType) = some (.template
      ⟨.invalidOperation, some (.codeHref "../t.go" "outside of the repository")⟩) := by
    rw [failure?_renderPackage .github (by decide) (by decide) (by decide) rfl]
    decide
  have hempty : (standard .github).renderPackage {} emptyFunc = .error (.emptySource ⟨.signature⟩) :=
    renderPackage_of_error .github rfl
  refine ⟨?_, failure?_eq_some.1 hstray, hempty, ?_⟩
  · obtain ⟨-, htext, -⟩ := renderFile_ok_iff_forall_renderPackage_ok .github "Top \n" " "
      [({}, plainPackage), ({}, plainPackage)]
    rw [htext [plainPage, plainPage] (by simp [hplain])]
    decide +kernel
  · obtain ⟨-, -, hfailure⟩ := renderFile_ok_iff_forall_renderPackage_ok .github "" ""
      [(rootScope, strayType), ({}, emptyFunc)]
    rw [← failure?_eq_some, hfailure, packageFailures, List.filterMap_cons, List.filterMap_cons,
      renderOne, renderOne, hstray, hempty]
    rfl

end DocPages.Render
