import DocPages.Dialect.Basic
import DocPages.Proofs.Text.Query

/-!
# Source links with queries

A source link is the remote of the repository and a query. The path of the file is encoded as a path
segment, in which an ampersand stands for itself, so the path is read as one parameter just if it has no
ampersand. In general it is read as the parameters that `path=` and the path are written as
(`readQuery_codeHref`).
-/

namespace DocPages.Dialect

open Text

/-- A character of branch names that have no need of encoding. -/
def isBranchChar (c : Char) : Bool :=
  c.isAlphanum || "-_./".toList.contains c

/-- The parameters of a source link behind its path, without encoding. -/
def rangeParameters (l : Location) (r : Repo) : List (String × String) :=
  [("version", "GB" ++ r.defaultBranch), ("lineStyle", "plain"), ("line", Nat.repr l.start.line),
    ("lineEnd", Nat.repr l.stop.line), ("lineStartColumn", Nat.repr l.start.col),
    ("lineEndColumn", Nat.repr l.stop.col)]

theorem isDigit_of_mem_repr {n : ℕ} {c : Char} (h : c ∈ (Nat.repr n).toList) : c.isDigit = true := by
  rw [Nat.repr, String.toList_ofList] at h
  exact Nat.isDigit_of_mem_toDigits (by omega) (by omega) h

/-- Numbers and such branch names need no encoding. -/
theorem isUnreserved_rangeParameters {l : Location} {r : Repo}
    (hbranch : ∀ c ∈ r.defaultBranch.toList, isBranchChar c = true) :
    ∀ p ∈ rangeParameters l r, IsUnreserved p.1 ∧ IsUnreserved p.2 := by
  have hnumber (n : ℕ) : IsUnreserved (Nat.repr n) :=
    isUnreserved_of_forall (p := Char.isDigit) (by simp) fun _ => isDigit_of_mem_repr
  have hversion : IsUnreserved ("GB" ++ r.defaultBranch) :=
    IsUnreserved.append (by decide) (isUnreserved_of_forall (by simp [isBranchChar]) hbranch)
  simp only [rangeParameters, List.forall_mem_cons]
  refine ⟨⟨by decide, hversion⟩, by decide, ⟨by decide, hnumber _⟩, ⟨by decide, hnumber _⟩,
    ⟨by decide, hnumber _⟩, ⟨by decide, hnumber _⟩, fun p hp => by cases hp⟩

/-- The query of a source link, with the path in the same encoding as the rest of its parameter. -/
def linkQuery (l : Location) (r : Repo) (path : String) : List Char :=
  percentEncode isSegmentChar ("path=" ++ path).toList ++ '&' :: writePairs (rangeParameters l r)

theorem codeHref_azureDevOps {l : Location} {r : Repo} (hrepo : l.repo = some r) :
    codeHref .azureDevOps l = (repoPath l r).map fun path =>
      r.remote ++ "?" ++ String.ofList (linkQuery l r path) := by
  unfold codeHref linkQuery
  simp only [hrepo]
  cases repoPath l r with
  | error e => rfl
  | ok path =>
    have hpath : percentEncode isSegmentChar ("path=" ++ path).toList =
        "path=".toList ++ percentEncode isSegmentChar path.toList := by
      rw [String.toList_append, percentEncode_append, percentEncode_eq_self (by simp [isSegmentChar])]
    show Except.ok _ = Except.ok _
    apply congrArg Except.ok
    apply String.toList_injective
    simp only [hpath]
    simp [onChars, rangeParameters, writePairs]

/-! ## Reading them -/

/-- The parameters of a source link, without encoding. -/
def linkParameters (l : Location) (r : Repo) (path : String) : List (String × String) :=
  ("path", path) :: rangeParameters l r

/-- The parameters that a path is read as in a source link. -/
def pathParameters (path : String) : List Parameter :=
  (splitBy (· == '&') ("path=" ++ path).toList).map .ofText

theorem readQuery_linkQuery {l : Location} {r : Repo}
    (hbranch : ∀ c ∈ r.defaultBranch.toList, isBranchChar c = true) (path : String) :
    readQuery (linkQuery l r path) = pathParameters path ++ (rangeParameters l r).map .ofPair := by
  have hrange : readQuery (writePairs (rangeParameters l r)) = (rangeParameters l r).map .ofPair :=
    readQuery_writePairs (List.cons_ne_nil _ _) (isUnreserved_rangeParameters hbranch)
  unfold linkQuery pathParameters
  rw [readQuery_append_ampersand, readQuery_percentEncode (by decide) (by decide) (by decide), hrange]

theorem pathParameters_of_notMem {path : String} (h : '&' ∉ path.toList) :
    pathParameters path = [.ofPair ("path", path)] := by
  have hone : ∀ c ∈ ("path=" ++ path).toList, (c == '&') = false := by
    intro c hc
    rw [beq_eq_false_iff_ne]
    rintro rfl
    rw [String.toList_append, List.mem_append] at hc
    rcases hc with hc | hc
    · exact absurd hc (by decide)
    · exact h hc
  have htext : Parameter.ofText ("path=" ++ path).toList = .ofPair ("path", path) := by
    rw [String.toList_append]
    have hname : '=' ∉ "path".toList := by decide
    exact Parameter.ofText_append_equals hname path
  rw [pathParameters, splitBy_eq_splitOnP, List.splitOnP_eq_singleton hone, List.map_singleton, htext]

/-- An ampersand ends the parameter of the path, so another one follows. -/
theorem one_lt_length_pathParameters {path : String} (h : '&' ∈ path.toList) :
    1 < (pathParameters path).length := by
  obtain ⟨before, after, hpath, -⟩ := List.eq_append_cons_of_mem h
  have hpieces : 0 < (splitBy (· == '&') ("path=".toList ++ before)).length ∧
      0 < (splitBy (· == '&') after).length :=
    ⟨List.length_pos_iff.2 (splitBy_ne_nil _ _), List.length_pos_iff.2 (splitBy_ne_nil _ _)⟩
  rw [pathParameters, List.length_map, String.toList_append, hpath, ← List.append_assoc]
  rw [splitBy_eq_splitOnP, splitBy_eq_splitOnP] at hpieces
  rw [splitBy_eq_splitOnP, List.splitOnP_append_cons _ after (by decide), List.length_append]
  omega

theorem pathParameters_eq_singleton_iff {path : String} :
    pathParameters path = [.ofPair ("path", path)] ↔ '&' ∉ path.toList := by
  constructor
  · intro h hmem
    have hlength := one_lt_length_pathParameters hmem
    rw [h] at hlength
    exact absurd hlength (by simp)
  · exact pathParameters_of_notMem

/-- **Source links are read as their parameters, but for ampersands in paths.** The path is read as the
parameters that `path=` and the path are written as, and all else as it is meant, so the link is read as
its parameters just if the path has no ampersand. -/
theorem readQuery_codeHref {l : Location} {r : Repo} (hrepo : l.repo = some r)
    (hbranch : ∀ c ∈ r.defaultBranch.toList, isBranchChar c = true) {url : String}
    (hurl : codeHref .azureDevOps l = .ok url) :
    ∃ path query : String, repoPath l r = .ok path ∧ url = r.remote ++ "?" ++ query ∧
      readQuery query.toList = pathParameters path ++ (rangeParameters l r).map .ofPair ∧
      (readQuery query.toList = (linkParameters l r path).map .ofPair ↔ '&' ∉ path.toList) := by
  rw [codeHref_azureDevOps hrepo] at hurl
  cases hpath : repoPath l r with
  | error e =>
    rw [hpath] at hurl
    cases hurl
  | ok path =>
    rw [hpath] at hurl
    cases hurl
    have hread := readQuery_linkQuery (l := l) hbranch path
    refine ⟨path, String.ofList (linkQuery l r path), rfl, rfl, ?_, ?_⟩
    · rw [String.toList_ofList, hread]
    · rw [String.toList_ofList, hread, linkParameters, List.map_cons, ← List.singleton_append,
        List.append_left_inj, pathParameters_eq_singleton_iff]

/-- A repository of which the working directory is the root. -/
def boardRepo : Repo :=
  ⟨"https://dev.azure.com/org/board/_git/board", "release/1.0", "/"⟩

/-- Some lines of a file in that repository. -/
def boardLines (filepath : String) : Location where
  start := ⟨12, 1⟩
  stop := ⟨14, 43⟩
  filepath
  workDir := "/src/board"
  repo := some boardRepo

/-- The query of such a link, with the path written as `path`. -/
def boardQuery (path : String) : String :=
  "path=" ++ path ++ "&version=GBrelease/1.0&lineStyle=plain" ++
    "&line=12&lineEnd=14&lineStartColumn=1&lineEndColumn=43"

/-- Other signs of queries do no harm in a path. -/
theorem readQuery_codeHref_signs :
    codeHref .azureDevOps (boardLines "/src/board/50%=a+b?/é.go") =
      .ok (boardRepo.remote ++ "?" ++ boardQuery "50%25=a+b%3F%2F%C3%A9.go") ∧
    readQuery (boardQuery "50%25=a+b%3F%2F%C3%A9.go").toList =
      (linkParameters (boardLines "/src/board/50%=a+b?/é.go") boardRepo "50%=a+b?/é.go").map .ofPair := by
  have hurl : codeHref .azureDevOps (boardLines "/src/board/50%=a+b?/é.go") =
      .ok (boardRepo.remote ++ "?" ++ boardQuery "50%25=a+b%3F%2F%C3%A9.go") := by
    decide +kernel
  have hfound : repoPath (boardLines "/src/board/50%=a+b?/é.go") boardRepo = .ok "50%=a+b?/é.go" := by
    decide +kernel
  obtain ⟨path, query, hpath, heq, -, hread⟩ := readQuery_codeHref rfl (by simp [boardRepo, isBranchChar]) hurl
  rw [hfound] at hpath
  cases hpath
  rw [String.append_right_inj] at heq
  subst heq
  exact ⟨hurl, hread.2 (by decide)⟩

/-- An ampersand stands for itself in the link to a file, and ends the parameter of its path. -/
theorem codeHref_ampersandFile :
    repoPath (boardLines "/src/board/R&D/a.go") boardRepo = .ok "R&D/a.go" ∧
    codeHref .azureDevOps (boardLines "/src/board/R&D/a.go") =
      .ok (boardRepo.remote ++ "?" ++ boardQuery "R&D%2Fa.go") ∧
    readQuery (boardQuery "R&D%2Fa.go").toList ≠
      (linkParameters (boardLines "/src/board/R&D/a.go") boardRepo "R&D/a.go").map .ofPair := by
  refine ⟨by decide +kernel, by decide +kernel, fun h => ?_⟩
  have hlength := congrArg List.length h
  revert hlength
  decide +kernel

end DocPages.Dialect
