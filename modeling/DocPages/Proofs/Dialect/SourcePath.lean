import DocPages.Dialect.Basic
import DocPages.Proofs.Text.Path

/-!
# Paths inside of a repository

A file is linked by its path from the root of its repository. This path is found from three others: those
of the file and of the working directory in the file system, and that of the working directory in the
repository. It is what the file has below the root of the repository, however far the working directory
and the file go together (`repoPath_ok_iff_file_below_root`).
-/

namespace DocPages.Dialect

open Text

/-- A file and a working directory of the file system, where the directory lies at `work` in a repository
that lies at `root`. The path of the directory in the repository may have slashes at its ends. -/
structure Placed (l : Location) (r : Repo) (root work file : List (List Char)) : Prop where
  root_names : ∀ x ∈ root, IsPathName x
  work_names : ∀ x ∈ work, IsPathName x
  file_names : ∀ x ∈ file, IsPathName x
  filepath : l.filepath = String.ofList (absolutePath file)
  workDir : l.workDir = String.ofList (absolutePath (root ++ work))
  pathFromRoot : ∃ before after, r.pathFromRoot =
    String.ofList (slashed before after (joinPath work))

section

variable {l : Location} {r : Repo} {root work file : List (List Char)}

theorem Placed.relativePath_eq (h : Placed l r root work file) :
    relativePath l.filepath.toList l.workDir.toList =
      (relativeComponents (file.map .normal) ((root ++ work).map .normal)).map (false, ·) := by
  have hdir : ∀ x ∈ root ++ work, IsPathName x := List.forall_mem_append.2 ⟨h.root_names, h.work_names⟩
  have hboth : (isAbsolute (absolutePath file) == isAbsolute (absolutePath (root ++ work))) = true := rfl
  have hroot : relativeComponents (.root :: file.map .normal) (.root :: (root ++ work).map .normal) =
      relativeComponents (file.map .normal) ((root ++ work).map .normal) :=
    relativeComponents_append [.root] _ _
  rw [h.filepath, h.workDir, String.toList_ofList, String.toList_ofList, relativePath, if_pos hboth,
    components_absolutePath h.file_names, components_absolutePath hdir, hroot]

/-- A way that starts at the root of the repository and leads through the working directory. -/
theorem Placed.resolve_append (h : Placed l r root work file) (way : List Component) :
    resolveComponents [] (components r.pathFromRoot.toList ++ way) =
      resolveComponents work.reverse way := by
  obtain ⟨before, after, hsub⟩ := h.pathFromRoot
  have hnames := resolveComponents_normal work [] way
  rw [List.append_nil] at hnames
  rw [hsub, String.toList_ofList, components_slashed h.work_names, ← hnames]
  split <;> rfl

theorem Placed.repoPath_eq (h : Placed l r root work file) {way : List Component}
    (hway : relativeComponents (file.map .normal) ((root ++ work).map .normal) = some way) :
    repoPath l r = match resolveComponents work.reverse way with
      | some names => .ok (String.ofList (joinPath names))
      | none => .error (.codeHref l.filepath "outside of the repository") := by
  have habsolute : isAbsolute l.filepath.toList = true := by
    rw [h.filepath, String.toList_ofList]
    rfl
  unfold repoPath
  simp only [habsolute, if_true, h.relativePath_eq, hway, Option.map_some, Bool.false_eq_true,
    if_false, h.resolve_append]
  rfl

/-- **Source paths are relative to the root of the repository.** A file has such a path just if it lies
below the root, and then the path consists of the names that lead from there to the file. -/
theorem repoPath_ok_iff_file_below_root (h : Placed l r root work file) :
    ((∃ path, repoPath l r = .ok path) ↔ ∃ rest, file = root ++ rest) ∧
    (∀ rest, file = root ++ rest → repoPath l r = .ok (String.ofList (joinPath rest)) ∧
      isAbsolute (joinPath rest) = false ∧
      ∀ piece ∈ splitBy (· == '/') (joinPath rest), piece ≠ ['.'] ∧ piece ≠ ['.', '.']) ∧
    ((¬ ∃ rest, file = root ++ rest) →
      repoPath l r = .error (.codeHref l.filepath "outside of the repository")) := by
  obtain ⟨way, hway, hinside, houtside⟩ := exists_relativeComponents root work file
  have hpath := h.repoPath_eq hway
  have hok (rest : List (List Char)) (hrest : file = root ++ rest) :
      repoPath l r = .ok (String.ofList (joinPath rest)) := by
    rw [hpath, hinside rest hrest]
  have herror (hnot : ¬ ∃ rest, file = root ++ rest) :
      repoPath l r = .error (.codeHref l.filepath "outside of the repository") := by
    rw [hpath, houtside fun ⟨rest, hrest⟩ => hnot ⟨rest, hrest.symm⟩]
  refine ⟨⟨fun ⟨path, hfound⟩ => ?_, fun ⟨rest, hrest⟩ => ⟨_, hok rest hrest⟩⟩,
    fun rest hrest => ⟨hok rest hrest, ?_⟩, herror⟩
  · by_contra hnot
    rw [herror hnot] at hfound
    cases hfound
  · have hnames : ∀ x ∈ rest, IsPathName x := fun x hx =>
      h.file_names x (hrest ▸ List.mem_append_right root hx)
    exact ⟨isAbsolute_joinPath hnames, fun _ => ne_dots_of_mem_splitBy_joinPath hnames⟩

end

/-- A repository at `/src/tools`, used from its directory `cmd/docs`. -/
def toolsRepo : Repo :=
  ⟨"https://github.com/org/tools", "main", "/cmd/docs//"⟩

/-- A file of the file system, seen from the directory `cmd/docs` of the repository. -/
def fromDocs (filepath : String) : Location where
  start := {}
  stop := {}
  filepath
  workDir := "/src/tools/cmd/docs"
  repo := some toolsRepo

theorem repoPath_ok_iff_file_below_root_besideDocs :
    repoPath (fromDocs "/src/tools/cmd/lint/a.go") toolsRepo = .ok "cmd/lint/a.go" ∧
    repoPath (fromDocs "/src/cmd/docs/a.go") toolsRepo =
      .error (.codeHref "/src/cmd/docs/a.go" "outside of the repository") := by
  have hinside : Placed (fromDocs "/src/tools/cmd/lint/a.go") toolsRepo
      ["src".toList, "tools".toList] ["cmd".toList, "docs".toList]
      ["src".toList, "tools".toList, "cmd".toList, "lint".toList, "a.go".toList] :=
    ⟨by decide, by decide, by decide, rfl, rfl, 1, 2, rfl⟩
  have houtside : Placed (fromDocs "/src/cmd/docs/a.go") toolsRepo
      ["src".toList, "tools".toList] ["cmd".toList, "docs".toList]
      ["src".toList, "cmd".toList, "docs".toList, "a.go".toList] :=
    ⟨by decide, by decide, by decide, rfl, rfl, 1, 2, rfl⟩
  refine ⟨?_, ?_⟩
  · obtain ⟨-, hok, -⟩ := repoPath_ok_iff_file_below_root hinside
    exact (hok ["cmd".toList, "lint".toList, "a.go".toList] rfl).1
  · obtain ⟨-, -, herror⟩ := repoPath_ok_iff_file_below_root houtside
    exact herror (by simp)

end DocPages.Dialect
