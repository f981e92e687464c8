import DocPages.Proofs.Text.Lines
import DocPages.Text.Path

/-!
# Laws of paths

A path that is written for some names has these names as its components, with any number of slashes at its
ends (`components_slashed`). The way from a directory to a file is up what is left of the directory where
the two paths part, and then down what is left of the file (`relativeComponents_append`). Seen from the
last names of the directory it leads to the file, or above them if the paths part earlier
(`exists_relativeComponents`).
-/

namespace DocPages.Text

/-! ## Written paths -/

/-- A name that stands for itself between the slashes of a path. -/
def IsPathName (name : List Char) : Prop :=
  name ≠ [] ∧ '/' ∉ name ∧ name ≠ ['.'] ∧ name ≠ ['.', '.']

instance : DecidablePred IsPathName := fun name => by unfold IsPathName; infer_instance

theorem IsPathName.component?_eq {name : List Char} (h : IsPathName name) :
    component? name = some (.normal name) := by
  obtain ⟨hne, -, hdot, hdots⟩ := h
  simp [component?, hne, hdot, hdots]

/-- Names with slashes between them. -/
def joinPath (names : List (List Char)) : List Char :=
  ['/'].intercalate names

/-- A path with some slashes before and after it. -/
def slashed (before after : ℕ) (path : List Char) : List Char :=
  List.replicate before '/' ++ path ++ List.replicate after '/'

/-- The path along some names from the root. -/
def absolutePath (names : List (List Char)) : List Char :=
  slashed 1 0 (joinPath names)

section Pieces

variable (a b path : List Char)

theorem splitBy_append_slash :
    splitBy (· == '/') (a ++ '/' :: b) = splitBy (· == '/') a ++ splitBy (· == '/') b := by
  simp only [splitBy_eq_splitOnP]
  exact List.splitOnP_append_cons a b (by decide)

/-- What the pieces of a path stand for, other than at its start. -/
def innerComponents : List Component :=
  (splitBy (· == '/') path).filterMap component?

theorem innerComponents_append_slash :
    innerComponents (a ++ '/' :: b) = innerComponents a ++ innerComponents b := by
  unfold innerComponents
  rw [splitBy_append_slash, List.filterMap_append]

theorem innerComponents_slashes_append (n : ℕ) :
    innerComponents (List.replicate n '/' ++ path) = innerComponents path := by
  induction n with
  | zero => rfl
  | succ n ih =>
    rw [List.replicate_succ, List.cons_append]
    exact (innerComponents_append_slash [] _).trans ih

theorem innerComponents_append_slashes (n : ℕ) :
    innerComponents (path ++ List.replicate n '/') = innerComponents path := by
  cases n with
  | zero => rw [List.replicate_zero, List.append_nil]
  | succ n =>
    have hslashes : innerComponents (List.replicate n '/' ++ []) = [] :=
      innerComponents_slashes_append [] n
    rw [List.append_nil] at hslashes
    rw [List.replicate_succ, innerComponents_append_slash, hslashes, List.append_nil]

end Pieces

section Names

variable {names : List (List Char)} (h : ∀ name ∈ names, IsPathName name)
include h

theorem splitBy_joinPath (hne : names ≠ []) : splitBy (· == '/') (joinPath names) = names := by
  rw [splitBy_eq_splitOnP]
  exact List.splitOn_intercalate '/' (fun name hname => (h name hname).2.1) hne

theorem isAbsolute_joinPath : isAbsolute (joinPath names) = false := by
  rcases names with _ | ⟨name, names⟩
  · rfl
  · obtain ⟨hne, hslash, -⟩ := h name List.mem_cons_self
    obtain ⟨c, cs, rfl⟩ := List.exists_cons_of_ne_nil hne
    have hhead : (joinPath ((c :: cs) :: names)).head? = some c := by
      cases names with
      | nil => rw [joinPath, List.intercalate_singleton, List.head?_cons]
      | cons next names => rw [joinPath, List.intercalate_cons_cons]; rfl
    have hc : c ≠ '/' := fun heq => hslash (heq ▸ List.mem_cons_self)
    rw [isAbsolute, hhead]
    simpa using hc

theorem ne_dots_of_mem_splitBy_joinPath {piece : List Char}
    (hpiece : piece ∈ splitBy (· == '/') (joinPath names)) : piece ≠ ['.'] ∧ piece ≠ ['.', '.'] := by
  by_cases hne : names = []
  · subst hne
    rw [List.mem_singleton.1 hpiece]
    exact ⟨by decide, by decide⟩
  · rw [splitBy_joinPath h hne] at hpiece
    exact (h piece hpiece).2.2

theorem innerComponents_joinPath : innerComponents (joinPath names) = names.map .normal := by
  by_cases hne : names = []
  · subst hne
    rfl
  · unfold innerComponents
    rw [splitBy_joinPath h hne, ← List.filterMap_eq_map]
    exact List.filterMap_congr fun name hname => (h name hname).component?_eq

/-- A path of names does not start with a dot that stands alone. -/
theorem head?_splitBy_slashed (after : ℕ) :
    (splitBy (· == '/') (slashed 0 after (joinPath names))).head? ≠ some ['.'] := by
  have hfirst : (splitBy (· == '/') (joinPath names)).head? ≠ some ['.'] := by
    rcases names with _ | ⟨name, names⟩
    · exact fun hdot => by cases hdot
    · rw [splitBy_joinPath h (List.cons_ne_nil name names), List.head?_cons, ne_eq,
        Option.some.injEq]
      exact (h name List.mem_cons_self).2.2.1
  cases after with
  | zero => simpa [slashed] using hfirst
  | succ n =>
    rw [slashed, List.replicate_succ, List.replicate_zero, List.nil_append, splitBy_append_slash,
      List.head?_append_of_ne_nil _ (splitBy_ne_nil _ _)]
    exact hfirst

/-- The components of a path that is written for names. -/
theorem components_slashed (before after : ℕ) :
    components (slashed before after (joinPath names)) =
      (if isAbsolute (slashed before after (joinPath names)) then [.root] else []) ++
        names.map .normal := by
  have hinner : innerComponents (slashed before after (joinPath names)) = names.map .normal := by
    rw [slashed, innerComponents_append_slashes, innerComponents_slashes_append,
      innerComponents_joinPath h]
  rw [← hinner]
  cases before with
  | zero =>
    have hlead := head?_splitBy_slashed h after
    unfold components innerComponents
    simp only [beq_iff_eq, hlead, if_false]
  | succ n => rfl

theorem components_absolutePath : components (absolutePath names) = .root :: names.map .normal :=
  components_slashed h 1 0

end Names

/-! ## The way from a directory to a file -/

section Ways

theorem relativeComponents_append (common path base : List Component) :
    relativeComponents (common ++ path) (common ++ base) = relativeComponents path base := by
  induction common with
  | nil => rfl
  | cons c common ih => rw [List.cons_append, List.cons_append, relativeComponents, if_pos rfl, ih]

/-- Paths part where they start with different names or one of them ends. -/
def Parted (path base : List (List Char)) : Prop :=
  ∀ x ∈ path.head?, ∀ y ∈ base.head?, x ≠ y

theorem exists_parted (path base : List (List Char)) :
    ∃ common path' base', path = common ++ path' ∧ base = common ++ base' ∧ Parted path' base' := by
  induction path generalizing base with
  | nil => exact ⟨[], [], base, rfl, rfl, fun x hx => by cases hx⟩
  | cons a path ih =>
    rcases base with _ | ⟨b, base⟩
    · exact ⟨[], a :: path, [], rfl, rfl, fun x _ y hy => by cases hy⟩
    · by_cases hab : a = b
      · obtain ⟨common, path', base', rfl, rfl, hparted⟩ := ih base
        exact ⟨a :: common, path', base', rfl, by rw [hab, List.cons_append], hparted⟩
      · refine ⟨[], a :: path, b :: base, rfl, rfl, ?_⟩
        rintro x ⟨⟩ y ⟨⟩
        exact hab

theorem relativeComponents_of_parted {path base : List (List Char)} (h : Parted path base) :
    relativeComponents (path.map .normal) (base.map .normal) =
      some (List.replicate base.length .parent ++ path.map .normal) := by
  have hup (names : List (List Char)) : (names.map Component.normal).map (fun _ => Component.parent) =
      List.replicate names.length .parent := by
    rw [List.map_const', List.length_map]
  rcases path with _ | ⟨a, path⟩
  · rw [List.map_nil, relativeComponents, hup, List.append_nil]
  · rcases base with _ | ⟨b, base⟩
    · rfl
    · have hab : Component.normal a ≠ .normal b := by simpa using h a rfl b rfl
      rw [List.map_cons, List.map_cons, relativeComponents, if_neg hab, relativeComponents.walk, hup,
        List.length_cons, List.replicate_succ]
      all_goals simp

theorem resolveComponents_normal (names above : List (List Char)) (rest : List Component) :
    resolveComponents above (names.map .normal ++ rest) =
      resolveComponents (names.reverse ++ above) rest := by
  induction names generalizing above with
  | nil => rfl
  | cons name names ih =>
    rw [List.map_cons, List.cons_append, resolveComponents, ih, List.reverse_cons, List.append_assoc]
    rfl

theorem resolveComponents_parents (left above : List (List Char)) (rest : List Component) :
    resolveComponents (left ++ above) (List.replicate left.length .parent ++ rest) =
      resolveComponents above rest := by
  induction left with
  | nil => rfl
  | cons name left ih => exact ih

/-- Nothing lies above the root. -/
theorem resolveComponents_above {names : List (List Char)} {n : ℕ} (h : names.length < n)
    (rest : List Component) :
    resolveComponents names (List.replicate n .parent ++ rest) = none := by
  induction names generalizing n with
  | nil =>
    obtain ⟨n, rfl⟩ := Nat.exists_eq_succ_of_ne_zero (Nat.ne_of_gt h)
    rfl
  | cons name names ih =>
    obtain ⟨n, rfl⟩ := Nat.exists_eq_succ_of_ne_zero (Nat.ne_of_gt (Nat.zero_lt_of_lt h))
    exact ih (Nat.lt_of_succ_lt_succ h)

/-- The way from a directory to a file, followed from the last names of the directory: it leads to what
the file has below the other names of the directory, and nowhere if it is not below them. -/
theorem exists_relativeComponents (front last file : List (List Char)) :
    ∃ way, relativeComponents (file.map .normal) ((front ++ last).map .normal) = some way ∧
      (∀ rest, file = front ++ rest → resolveComponents last.reverse way = some rest) ∧
      (¬ front <+: file → resolveComponents last.reverse way = none) := by
  obtain ⟨common, down, up, rfl, hbase, hparted⟩ := exists_parted file (front ++ last)
  refine ⟨List.replicate up.length .parent ++ down.map .normal, ?_, ?_⟩
  · rw [hbase, List.map_append, List.map_append, relativeComponents_append,
      relativeComponents_of_parted hparted]
  have hsplit : (∃ shared, common = front ++ shared ∧ last = shared ++ up) ∨
      ∃ x missed, front = common ++ x :: missed ∧ up = x :: missed ++ last := by
    rcases List.append_eq_append_iff.1 hbase with hshared | ⟨_ | ⟨x, missed⟩, hfront, hup⟩
    · exact Or.inl hshared
    · exact Or.inl ⟨[], by rw [hfront, List.append_nil, List.append_nil], hup.symm⟩
    · exact Or.inr ⟨x, missed, hfront, hup⟩
  rcases hsplit with ⟨shared, rfl, rfl⟩ | ⟨x, missed, rfl, rfl⟩
  · -- the paths part behind `front`: as many names are left again as `last` has below that place
    have hway : resolveComponents (shared ++ up).reverse
        (List.replicate up.length .parent ++ down.map .normal) = some (shared ++ down) := by
      have hdown := resolveComponents_normal down shared.reverse []
      rw [List.append_nil] at hdown
      rw [List.reverse_append, ← List.length_reverse, resolveComponents_parents, hdown,
        resolveComponents]
      simp
    refine ⟨fun rest hrest => ?_, fun hnot => absurd ⟨shared ++ down, ?_⟩ hnot⟩
    · rw [List.append_assoc, List.append_cancel_left_eq] at hrest
      rw [hway, hrest]
    · rw [List.append_assoc]
  · -- they part inside of `front`: the way up leads past all of `last`
    refine ⟨fun rest hrest => ?_, fun _ => resolveComponents_above ?_ _⟩
    · rw [List.append_assoc, List.append_cancel_left_eq] at hrest
      exact absurd rfl (hparted x (by rw [hrest]; rfl) x rfl)
    · rw [List.length_reverse, List.length_append, List.length_cons]
      omega

end Ways

end DocPages.Text
