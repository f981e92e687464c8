import DocPages.Proofs.Render.FileTemplate

/-!
# Overrides of templates

A renderer is built from texts and files that replace templates. Names are checked before anything is
read, so a name that no template has is refused on every file system (`build_of_unknown`). A text hides the
file of the same name: each template is read from its text, else from its file, else it is the default
(`IsTemplate`), and files that are hidden have no influence (`templateBody_congr`). Custom functions stand in
front of those of the dialect, the last one first (`build_eq_ok`).
-/

namespace DocPages.Render

open Template

/-- All names that are overridden, by texts and then by files. -/
def Options.overriddenNames (o : Options) : List String :=
  o.overrides.map (·.1) ++ o.overrideFiles.map (·.1)

/-- The trees that a template may have: that of its text, that of its file if it has no text, and the
default if it has neither. -/
inductive IsTemplate (o : Options) (read : ReadFile) (name : String) (default : Body) : Body → Prop where
  | text {source : String} {body : Body} (htext : o.overrides.lookup name = some source)
      (hparse : Template.parse source = .ok body) : IsTemplate o read name default body
  | file {path source : String} {body : Body} (htext : o.overrides.lookup name = none)
      (hfile : o.overrideFiles.lookup name = some path) (hread : read path = some source)
      (hparse : Template.parse source = .ok body) : IsTemplate o read name default body
  | default (htext : o.overrides.lookup name = none) (hfile : o.overrideFiles.lookup name = none) :
      IsTemplate o read name default default

/-- Two file systems agree on the files that are not hidden by a text. -/
def AgreeOnOverrides (o : Options) (read₁ read₂ : ReadFile) : Prop :=
  ∀ name path, o.overrides.lookup name = none → o.overrideFiles.lookup name = some path →
    read₁ path = read₂ path

section

variable {o : Options} {read read₁ read₂ : ReadFile} {name : String} {default body : Body}

theorem parseTemplate_eq_ok {source : String} :
    parseTemplate source = .ok body ↔ Template.parse source = .ok body := by
  unfold parseTemplate
  cases Template.parse source <;> simp [Except.mapError]

theorem parseTemplate_ne_templateFile (source name path : String) :
    parseTemplate source ≠ .error (.templateFile name path) := by
  unfold parseTemplate
  cases Template.parse source <;> simp [Except.mapError]

/-! ## One template -/

theorem templateBody_eq_ok :
    templateBody o read name default = .ok body ↔ IsTemplate o read name default body := by
  unfold templateBody
  constructor
  · intro h
    split at h
    · rename_i source htext
      exact .text htext (parseTemplate_eq_ok.1 h)
    · rename_i htext
      split at h
      · rename_i hfile
        cases h
        exact .default htext hfile
      · rename_i path hfile
        split at h
        · cases h
        · rename_i source hread
          exact .file htext hfile hread (parseTemplate_eq_ok.1 h)
  · intro h
    cases h with
    | text htext hparse => simp only [htext, parseTemplate_eq_ok.2 hparse]
    | file htext hfile hread hparse => simp only [htext, hfile, hread, parseTemplate_eq_ok.2 hparse]
    | default htext hfile => simp only [htext, hfile]

/-- Only the file of the template itself is read, and only if there is no text. -/
theorem templateBody_congr (h : AgreeOnOverrides o read₁ read₂) (name : String) (default : Body) :
    templateBody o read₁ name default = templateBody o read₂ name default := by
  unfold templateBody
  cases htext : o.overrides.lookup name with
  | some source => rfl
  | none =>
    cases hfile : o.overrideFiles.lookup name with
    | none => rfl
    | some path => simp only [h name path htext hfile]

theorem templateBody_eq_templateFile {failed path : String}
    (h : templateBody o read name default = .error (.templateFile failed path)) :
    failed = name ∧ o.overrides.lookup name = none ∧ o.overrideFiles.lookup name = some path ∧
      read path = none := by
  unfold templateBody at h
  split at h
  · exact absurd h (parseTemplate_ne_templateFile _ _ _)
  · rename_i htext
    split at h
    · cases h
    · rename_i hfile
      split at h
      · rename_i hread
        cases h
        exact ⟨rfl, htext, hfile, hread⟩
      · exact absurd h (parseTemplate_ne_templateFile _ _ _)

/-! ## The library -/

theorem isTemplateName_iff : isTemplateName name = true ↔ name ∈ templateNames := by
  unfold isTemplateName
  exact List.contains_iff_mem

theorem unknownOverride?_eq_none :
    unknownOverride? o = none ↔ ∀ name ∈ o.overriddenNames, name ∈ templateNames := by
  unfold unknownOverride?
  rw [List.find?_eq_none]
  simp only [Bool.not_eq_true', Bool.not_eq_false, isTemplateName_iff]
  rfl

/-- An unknown name is refused before any file is read. -/
theorem build_of_unknown (h : ¬ ∀ name ∈ o.overriddenNames, name ∈ templateNames) :
    ∃ name ∈ o.overriddenNames, name ∉ templateNames ∧
      ∀ read, build o read = .error (.invalidTemplateName name) := by
  rw [← unknownOverride?_eq_none] at h
  obtain ⟨name, hname⟩ := Option.ne_none_iff_exists'.1 h
  have hunknown := List.find?_some (p := (!isTemplateName ·)) hname
  refine ⟨name, List.mem_of_find?_eq_some hname, ?_, fun read => ?_⟩
  · rw [← isTemplateName_iff]
    simpa using hunknown
  · unfold build
    rw [hname]

/-- A template of the library with its name. -/
def namedTemplate (o : Options) (read : ReadFile) (x : String × Body) :
    Except RenderError (String × Body) :=
  (templateBody o read x.1 x.2).map fun body => (x.1, body)

/-- If all names are known, the ten templates are read in order. -/
theorem build_of_known (h : ∀ name ∈ o.overriddenNames, name ∈ templateNames) (read : ReadFile) :
    build o read = (defaultTemplates.mapM (namedTemplate o read)).map fun templates =>
      ⟨o.dialect, templates, o.functions.reverse ++ functions o.dialect⟩ := by
  unfold build
  rw [unknownOverride?_eq_none.2 h]
  rfl

theorem failure?_map {ε α β : Type} (f : α → β) (r : Except ε α) :
    failure? (r.map f) = failure? r := by
  cases r <;> rfl

theorem mapM_eq_ok {ε α β : Type} {f : α → Except ε β} {xs : List α} {ys : List β} :
    xs.mapM f = .ok ys ↔ List.Forall₂ (fun x y => f x = .ok y) xs ys := by
  refine ⟨Page.forall₂_of_mapM, fun h => ?_⟩
  induction h with
  | nil => rfl
  | cons hx _ ih => rw [List.mapM_cons, hx, ih, ok_bind, ok_bind, pure_ok]

theorem namedTemplate_eq_ok {x y : String × Body} :
    namedTemplate o read x = .ok y ↔ y.1 = x.1 ∧ IsTemplate o read x.1 x.2 y.2 := by
  unfold namedTemplate
  rw [← templateBody_eq_ok]
  cases templateBody o read x.1 x.2 with
  | error e => simp
  | ok body =>
    simp only [map_ok, Except.ok.injEq, Prod.ext_iff, eq_comm]

theorem build_eq_ok (h : ∀ name ∈ o.overriddenNames, name ∈ templateNames) {r : Renderer} :
    build o read = .ok r ↔ r.dialect = o.dialect ∧
      r.library.functions = o.functions.reverse ++ functions o.dialect ∧
      List.Forall₂ (fun x y => y.1 = x.1 ∧ IsTemplate o read x.1 x.2 y.2) defaultTemplates
        r.library.templates := by
  simp only [← namedTemplate_eq_ok, ← mapM_eq_ok, build_of_known h]
  obtain ⟨dialect, templates, functions⟩ := r
  cases defaultTemplates.mapM (namedTemplate o read) with
  | error e => simp
  | ok found =>
    simp only [map_ok, Except.ok.injEq, Renderer.mk.injEq, Library.mk.injEq]
    constructor
    · rintro ⟨rfl, rfl, rfl⟩
      exact ⟨rfl, rfl, rfl⟩
    · rintro ⟨rfl, rfl, rfl⟩
      exact ⟨rfl, rfl, rfl⟩

theorem build_congr (hagree : AgreeOnOverrides o read₁ read₂) : build o read₁ = build o read₂ := by
  by_cases h : ∀ name ∈ o.overriddenNames, name ∈ templateNames
  · have htemplates : namedTemplate o read₁ = namedTemplate o read₂ := by
      funext x
      unfold namedTemplate
      rw [templateBody_congr hagree]
    rw [build_of_known h, build_of_known h, htemplates]
  · obtain ⟨name, -, -, hbuild⟩ := build_of_unknown h
    rw [hbuild, hbuild]

/-- A file is missed only where it is needed. -/
theorem build_eq_templateFile {path : String}
    (h : build o read = .error (.templateFile name path)) :
    name ∈ templateNames ∧ o.overrides.lookup name = none ∧
      o.overrideFiles.lookup name = some path ∧ read path = none := by
  by_cases hknown : ∀ name ∈ o.overriddenNames, name ∈ templateNames
  · rw [build_of_known hknown, ← failure?_eq_some, failure?_map, failure?_mapM] at h
    obtain ⟨x, hx, hfailed⟩ := List.exists_of_findSome?_eq_some h
    rw [namedTemplate, failure?_map, failure?_eq_some] at hfailed
    obtain ⟨rfl, htext, hfile, hread⟩ := templateBody_eq_templateFile hfailed
    exact ⟨List.mem_map_of_mem hx, htext, hfile, hread⟩
  · obtain ⟨unknown, -, -, hbuild⟩ := build_of_unknown hknown
    rw [hbuild read] at h
    cases h

end

/-- **Names are checked first, and texts hide files.** If some override has an unknown name, the same
name is refused on every file system. Else the renderer is the same on any two file systems that agree on
the files without a text, and so is all that is rendered with it. It has the custom functions in front of
those of its dialect, and of two with one name the later one. Each template is that of its text, else that of
its file, else the default. A missing file is reported only for a template without a text. -/
theorem build_refuses_unknown_or_reads_unhidden (o : Options) :
    ((∃ name ∈ o.overriddenNames, name ∉ templateNames) →
      ∃ name ∈ o.overriddenNames, name ∉ templateNames ∧
        ∀ read, build o read = .error (.invalidTemplateName name)) ∧
    ((∀ name ∈ o.overriddenNames, name ∈ templateNames) →
      (∀ read₁ read₂, AgreeOnOverrides o read₁ read₂ → build o read₁ = build o read₂ ∧
        ∀ {α : Type} (template : String) (toValue : α → Value) (page : Except EmptySource α),
          (do (← build o read₁).renderPage template toValue page) =
            (do (← build o read₂).renderPage template toValue page)) ∧
      (∀ read r, build o read = .ok r ↔ r.dialect = o.dialect ∧
        r.library.functions = o.functions.reverse ++ functions o.dialect ∧
        List.Forall₂ (fun x y => y.1 = x.1 ∧ IsTemplate o read x.1 x.2 y.2) defaultTemplates
          r.library.templates) ∧
      ∀ read name path, build o read = .error (.templateFile name path) →
        name ∈ templateNames ∧ o.overrides.lookup name = none ∧
          o.overrideFiles.lookup name = some path ∧ read path = none) := by
  refine ⟨fun h => build_of_unknown ?_, fun h => ⟨fun read₁ read₂ hagree => ?_, ?_, ?_⟩⟩
  · rintro hknown
    obtain ⟨name, hname, hunknown⟩ := h
    exact hunknown (hknown name hname)
  · have hbuild := build_congr hagree
    exact ⟨hbuild, fun template toValue page => by rw [hbuild]⟩
  · intro read r
    exact build_eq_ok h
  · intro read name path hfailed
    exact build_eq_templateFile hfailed

/-- A text for the import template, which also has a file, a file for lists, and two functions of one name. -/
def hiddenFile : Options where
  overrides := [("import", "go get")]
  overrideFiles := [("import", "import.tmpl"), ("list", "list.tmpl")]
  functions := [("spacer", .plain fun _ => .ok .none), ("spacer", .render)]

/-- A file system with the file for lists only. -/
def listFile : ReadFile :=
  fun path => if path = "list.tmpl" then some "none" else none

/-- A file system with the file for lists in which all other files hold a broken template. -/
def brokenFiles : ReadFile :=
  fun path => if path = "list.tmpl" then some "none" else some "\x7b% for %\x7d"

theorem build_refuses_unknown_or_reads_unhidden_hiddenFile :
    (∃ r, build hiddenFile listFile = .ok r ∧ build hiddenFile brokenFiles = .ok r ∧
      r.library.templates.lookup "import" = some [.text "go get"] ∧
      r.library.templates.lookup "list" = some [.text "none"] ∧
      r.library.templates.lookup "doc" = some docTemplate ∧
      r.library.functions.lookup "spacer" = some .render) ∧
    (∀ read, build { hiddenFile with overrides := [("footer", "")] } read =
      .error (.invalidTemplateName "footer")) ∧
    build { hiddenFile with overrides := [] } listFile =
      .error (.templateFile "import" "import.tmpl") ∧ listFile "import.tmpl" = none := by
  have hagree : AgreeOnOverrides hiddenFile listFile brokenFiles := by
    intro name path htext hfile
    have himport : (name == "import") = false := by simpa [hiddenFile] using htext
    simp only [hiddenFile, List.lookup_cons, List.lookup_nil, himport] at hfile
    split at hfile
    · cases hfile
      rfl
    · cases hfile
  obtain ⟨-, hknown⟩ := build_refuses_unknown_or_reads_unhidden hiddenFile
  obtain ⟨hsame, -, -⟩ := hknown (by decide)
  refine ⟨⟨_, rfl, ?_, rfl, rfl, rfl, rfl⟩, fun read => ?_, rfl, ?_⟩
  · rw [← (hsame listFile brokenFiles hagree).1]
    rfl
  · obtain ⟨hunknown, -⟩ := build_refuses_unknown_or_reads_unhidden
      { hiddenFile with overrides := [("footer", "")] }
    obtain ⟨name, hname, hnot, hbuild⟩ := hunknown ⟨"footer", by decide, by decide⟩
    have hfooter : name = "footer" ∨ name = "import" ∨ name = "list" := by
      simpa [Options.overriddenNames, hiddenFile] using hname
    rcases hfooter with rfl | rfl | rfl
    · exact hbuild read
    · exact absurd (by decide) hnot
    · exact absurd (by decide) hnot
  · obtain ⟨-, hknown⟩ := build_refuses_unknown_or_reads_unhidden { hiddenFile with overrides := [] }
    obtain ⟨-, -, hfile⟩ := hknown (by decide)
    exact (hfile listFile "import" "import.tmpl" rfl).2.2.2

end DocPages.Render
