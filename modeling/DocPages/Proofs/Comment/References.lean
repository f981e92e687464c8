import DocPages.Comment.Inline
import DocPages.Proofs.Source.ParentChain
import DocPages.Proofs.Text.Lines

/-!
# References

A bracketed label is looked up in a fixed order, and a declaration of another package can be named in a
short and in a full form.

1. What names and import paths are made of (`mem_of_isReference`, `mem_of_isImportPath`).
2. The documentation host is asked before the symbols of the package and still never answers for one of
   them (`externalUrl?_eq_none_of_symbol`), so it might as well be asked after them
   (`resolveBracket_eq_documented`).
3. A short reference leads to the import path of its package (`externalUrl?_short`). A full one does so
   if no dot stands in the last element of the path (`externalUrl?_full`), and otherwise leads elsewhere
   (`externalUrl?_full_ne`): the first dot of that element is taken for the one before the name.
-/

namespace DocPages

open Text

namespace Reference

/-! ## Shapes -/

theorem isIdentPart_of_isIdent {cs : List Char} (h : isIdent cs = true) {c : Char} (hc : c ∈ cs) :
    isIdentPart c = true := by
  rcases cs with _ | ⟨first, cs⟩
  · cases hc
  · simp only [isIdent, isIdentStart, Bool.and_eq_true, Bool.or_eq_true, List.all_eq_true] at h
    rcases List.mem_cons.1 hc with rfl | hc
    · simp only [isIdentPart, Bool.or_eq_true]
      exact h.1.imp_left Or.inl
    · exact h.2 c hc

theorem mem_dropStar {cs : List Char} {c : Char} (hc : c ∈ cs) : c = '*' ∨ c ∈ dropStar cs := by
  unfold dropStar
  split
  · exact List.mem_cons.1 hc
  · exact Or.inr hc

theorem mem_of_isReference {cs : List Char} (h : isReference cs = true) {c : Char} (hc : c ∈ cs) :
    isIdentPart c = true ∨ c = '.' ∨ c = '*' := by
  rcases mem_dropStar hc with rfl | hc
  · exact Or.inr (Or.inr rfl)
  · unfold isReference at h
    split at h
    · exact Or.inl (isIdentPart_of_isIdent h hc)
    · rename_i receiver name hsplit
      rw [Bool.and_eq_true] at h
      rw [eq_append_of_splitOnce hsplit, List.mem_append, List.mem_cons] at hc
      rcases hc with hc | rfl | hc
      · exact Or.inl (isIdentPart_of_isIdent h.1 hc)
      · exact Or.inr (Or.inl rfl)
      · exact Or.inl (isIdentPart_of_isIdent h.2 hc)

theorem slash_notMem_of_isReference {cs : List Char} (h : isReference cs = true) : '/' ∉ cs := by
  intro hc
  rcases mem_of_isReference h hc with hpart | hdot | hstar
  · exact absurd hpart (by decide)
  · exact absurd hdot (by decide)
  · exact absurd hstar (by decide)

theorem isName_of_isIdent {cs : List Char} (h : isIdent cs = true) : isName cs = true := by
  unfold isName dropStar
  split
  · rw [isIdent, Bool.and_eq_true] at h
    exact absurd h.1 (by decide)
  · exact h

theorem mem_of_isImportPath {path : List Char} (h : isImportPath path = true) {c : Char}
    (hc : c ∈ path) : c = '/' ∨ isPathChar c = true := by
  simp only [isImportPath, Bool.and_eq_true, List.all_eq_true] at h
  rcases exists_mem_splitBy hc with hslash | ⟨element, helement, hc⟩
  · exact Or.inl hslash
  · exact Or.inr ((h.2 element helement).2 c hc)

theorem hash_notMem_of_isImportPath {path : List Char} (h : isImportPath path = true) :
    '#' ∉ path := by
  intro hc
  rcases mem_of_isImportPath h hc with hslash | hpath
  · exact absurd hslash (by decide)
  · exact absurd hpath (by decide)

theorem slash_mem_of_isImportPath {path : List Char} (h : isImportPath path = true) :
    '/' ∈ path := by
  by_contra hslash
  have hone : splitBy (· == '/') path = [path] := by
    rw [splitBy_eq_splitOnP]
    exact List.splitOnP_eq_singleton fun c hc => by simpa using ne_of_mem_of_not_mem hc hslash
  unfold isImportPath at h
  rw [hone] at h
  cases h

/-! ## Other packages and the symbols of the package -/

/-- The documentation host is not asked for what the package declares. -/
theorem externalUrl?_eq_none_of_symbol {scope : Scope} {label : List Char}
    (hshape : isReference label = true)
    (hfind : (scope.symbols.find? (String.ofList label)).isSome = true) :
    externalUrl? scope label = none := by
  have hslash : label.contains '/' = false := by
    simpa using slash_notMem_of_isReference hshape
  unfold externalUrl?
  rw [hslash, if_neg Bool.false_ne_true, hfind]
  split
  · rfl
  · rw [Bool.or_true, if_pos rfl]

end Reference

namespace Inline

/-! ## The documented order -/

section

variable (scope : Scope) (defs : Definitions) (label : List Char) (href : Option (List Char))

/-- The link to a target of the label's own. -/
def targetLink? : Option Piece :=
  href.map fun href => .link label (String.ofList href)

/-- The link to a definition of the comment. -/
def definedLink? : Option Piece :=
  (defs.lookup (String.ofList label)).map (.link label)

/-- The link to a declaration of the package. -/
def symbolLink? : Option Piece :=
  if Reference.isReference label then
    (scope.symbols.resolve? (String.ofList label)).map (.localLink label)
  else none

/-- The link to the documentation of another package. -/
def hostLink? : Option Piece :=
  (Reference.externalUrl? scope label).map (.link label)

/-- A label that leads nowhere: a reference loses its brackets. -/
def unlinked : Piece :=
  if Reference.isReference label then .unresolved label else .text (Token.bracket label none).source

/-- What a bracketed label stands for, looked up in the documented order: the package itself comes before
other packages. -/
def documented : Piece :=
  ((targetLink? label href).or <| (definedLink? defs label).or <| (symbolLink? scope label).or <|
    hostLink? scope label).getD (unlinked label)

theorem hostLink?_eq_none (h : (symbolLink? scope label).isSome = true) :
    hostLink? scope label = none := by
  unfold symbolLink? at h
  split_ifs at h with hshape
  · rw [Option.isSome_map, SymbolTable.resolve?, Option.isSome_map] at h
    rw [hostLink?, Reference.externalUrl?_eq_none_of_symbol hshape h, Option.map_none]
  · cases h

/-- The order in which labels are looked up, with the documentation host before the symbols. -/
theorem resolveBracket_eq_or : resolveBracket scope defs label href =
    ((targetLink? label href).or <| (definedLink? defs label).or <| (hostLink? scope label).or <|
      symbolLink? scope label).getD (unlinked label) := by
  unfold resolveBracket targetLink? definedLink? hostLink? symbolLink? unlinked
  rcases href with _ | href
  · rcases defs.lookup (String.ofList label) with _ | url
    · rcases Reference.externalUrl? scope label with _ | url
      · split_ifs
        · rcases scope.symbols.resolve? (String.ofList label) with _ | anchor <;> rfl
        · rfl
      · rfl
    · rfl
  · rfl

/-- **Labels are resolved in the documented order.** A link to another package never stands in for a
declaration of the package. -/
theorem resolveBracket_eq_documented :
    resolveBracket scope defs label href = documented scope defs label href ∧
      ((symbolLink? scope label).isSome = true → Reference.externalUrl? scope label = none) := by
  have hexclusive := hostLink?_eq_none scope label
  refine ⟨?_, fun h => Option.map_eq_none_iff.1 (hexclusive h)⟩
  have hswap : (hostLink? scope label).or (symbolLink? scope label) =
      (symbolLink? scope label).or (hostLink? scope label) := by
    rcases hsymbol : symbolLink? scope label with _ | piece
    · rw [Option.or_none, Option.none_or]
    · rw [hexclusive (by rw [hsymbol]; rfl), Option.none_or, Option.or_none]
  rw [resolveBracket_eq_or, hswap, documented]

end

/-- A method of a type that is called like an imported package. -/
theorem resolveBracket_eq_documented_sameName :
    let scope : Scope :=
      { symbols := SymbolTable.insertAll {} [⟨.method, "Decode", "decoder", none⟩]
        imports := [("decoder", "example.com/decoder")] }
    resolveBracket scope [] "decoder.Decode".toList none =
        documented scope [] "decoder.Decode".toList none ∧
      (symbolLink? scope "decoder.Decode".toList).isSome = true ∧
      Reference.externalUrl? scope "decoder.Decode".toList = none := by
  intro scope
  have hdocumented := resolveBracket_eq_documented scope [] "decoder.Decode".toList none
  have hsymbol : (symbolLink? scope "decoder.Decode".toList).isSome = true := by decide
  exact ⟨hdocumented.1, hsymbol, hdocumented.2 hsymbol⟩

end Inline

namespace Reference

/-! ## Short and full references -/

/-- The part of a path after its last slash. -/
def lastElement (path : List Char) : List Char :=
  path.rtakeWhile (· != '/')

theorem exists_lastElement {path : List Char} (h : '/' ∈ path) :
    ∃ dir, path = dir ++ '/' :: lastElement path ∧ '/' ∉ lastElement path := by
  obtain ⟨element, dir, hpath, helement⟩ := List.eq_append_cons_of_mem (List.mem_reverse.2 h)
  have htake : path.reverse.takeWhile (· != '/') = element := by
    rw [hpath, takeWhile_append_of_head (fun c hc => ?_) (fun c hc => ?_)]
    · simpa using ne_of_mem_of_not_mem hc helement
    · cases hc
      rfl
  have hlast : lastElement path = element.reverse := by
    rw [lastElement, List.rtakeWhile, htake]
  refine ⟨dir.reverse, ?_, by rwa [hlast, List.mem_reverse]⟩
  rw [hlast, ← List.reverse_reverse path, hpath]
  simp

/-- A label `pkg.s` that names a symbol of the package imported from `path`. -/
structure ShortReference (scope : Scope) (pkg s : List Char) (path : String) : Prop where
  pkg_ident : isIdent pkg = true
  pkg_small : (pkg.head?.map isLowercase).getD false = true
  imported : scope.imports.lookup (String.ofList pkg) = some path
  path_valid : isImportPath path.toList = true
  reference : isReference s = true
  /-- The package itself declares no such name. -/
  free : scope.symbols.find? (String.ofList (pkg ++ '.' :: s)) = none

section

variable {scope : Scope} {pkg s : List Char} {path : String}

theorem externalUrl?_short (h : ShortReference scope pkg s path) :
    externalUrl? scope (pkg ++ '.' :: s) =
      some (scope.docHost ++ path ++ "#" ++ String.ofList s) := by
  have hpart : ∀ c, isIdentPart c = false → c ∉ pkg := fun c hc hmem =>
    absurd (isIdentPart_of_isIdent h.pkg_ident hmem) (by rw [hc]; exact Bool.false_ne_true)
  have hslash : (pkg ++ '.' :: s).contains '/' = false := by
    have hs := slash_notMem_of_isReference h.reference
    simp [hpart '/' (by decide), hs]
  unfold externalUrl?
  rw [hslash, if_neg Bool.false_ne_true, splitOnce_append (hpart '.' (by decide))]
  simp only [h.pkg_small, h.free, isName_of_isIdent h.pkg_ident, h.reference, h.imported]
  rfl

theorem externalUrl?_of_slash {label : List Char} (h : '/' ∈ label) :
    externalUrl? scope label = importPathUrl? scope.docHost label := by
  unfold externalUrl?
  rw [if_pos (by simpa using h)]

/-- A full reference is cut at the last slash of its path. -/
theorem exists_splitLast {path : List Char} (hslash : '/' ∈ path) (hs : isReference s = true) :
    ∃ dir, path = dir ++ '/' :: lastElement path ∧
      splitLast '/' (path ++ '.' :: s) = some (dir, lastElement path ++ '.' :: s) := by
  obtain ⟨dir, hdir, hlast⟩ := exists_lastElement hslash
  have hend : '/' ∉ lastElement path ++ '.' :: s := by
    have hs' := slash_notMem_of_isReference hs
    simp [hlast, hs']
  have hlabel : path ++ '.' :: s = dir ++ '/' :: (lastElement path ++ '.' :: s) := by
    conv_lhs => rw [hdir]
    rw [List.append_assoc, List.cons_append]
  exact ⟨dir, hdir, by rw [hlabel, splitLast_append hend]⟩

/-- A full reference to a path without a dot in its last element. -/
theorem externalUrl?_full (hpath : isImportPath path.toList = true)
    (hdot : '.' ∉ lastElement path.toList) (hs : isReference s = true)
    (hmark : s.head? ≠ some '*') :
    externalUrl? scope (path.toList ++ '.' :: s) =
      some (scope.docHost ++ path ++ "#" ++ String.ofList s) := by
  have hslash := slash_mem_of_isImportPath hpath
  obtain ⟨dir, hdir, hlast⟩ := exists_splitLast hslash hs
  have hsplit : splitImport (path.toList ++ '.' :: s) = some (path.toList, some s) := by
    rw [splitImport, hlast, Option.map_some]
    simp only [splitOnce_append hdot, hs, if_true, ← hdir]
  rw [externalUrl?_of_slash (List.mem_append_left _ hslash), importPathUrl?, hsplit]
  have hname : dropStars (String.ofList s) = String.ofList s :=
    dropStars_of_unmarked (by rwa [String.toList_ofList])
  simp only [hpath, if_true, hname, String.ofList_toList]

/-- The path of an address is the one that the label was split into. -/
theorem exists_splitImport {host path fragment : String} {label : List Char}
    (hpath : '#' ∉ path.toList)
    (h : importPathUrl? host label = some (host ++ path ++ "#" ++ fragment)) :
    ∃ symbol, splitImport label = some (path.toList, some symbol) := by
  unfold importPathUrl? at h
  split at h
  · cases h
  · rename_i path' symbol hsplit
    split_ifs at h with hvalid
    have hpath' := hash_notMem_of_isImportPath hvalid
    split at h <;> have hurl := congrArg String.toList (Option.some.inj h) <;>
      simp only [String.toList_append, String.toList_ofList, List.append_assoc,
        List.append_cancel_left_eq] at hurl
    · rename_i symbol
      -- paths have no hash, so both addresses are cut at the same place
      have hparts := congrArg (splitOnce '#') hurl
      rw [show "#".toList = ['#'] from rfl, List.singleton_append, List.singleton_append,
        splitOnce_append hpath', splitOnce_append hpath] at hparts
      obtain rfl : path' = path.toList := congrArg Prod.fst (Option.some.inj hparts)
      exact ⟨symbol, hsplit⟩
    · exact absurd (by rw [hurl]; simp) hpath'

/-- A dot in the last element of a path is taken for the one before the name. -/
theorem externalUrl?_full_ne (hpath : isImportPath path.toList = true)
    (hdot : '.' ∈ lastElement path.toList) (hs : isReference s = true) :
    externalUrl? scope (path.toList ++ '.' :: s) ≠
      some (scope.docHost ++ path ++ "#" ++ String.ofList s) := by
  intro hurl
  have hslash := slash_mem_of_isImportPath hpath
  obtain ⟨dir, hdir, hlast⟩ := exists_splitLast hslash hs
  obtain ⟨element, version, helement, hfirst⟩ := List.eq_append_cons_of_mem hdot
  rw [externalUrl?_of_slash (List.mem_append_left _ hslash)] at hurl
  obtain ⟨symbol, hsplit⟩ := exists_splitImport (hash_notMem_of_isImportPath hpath) hurl
  rw [splitImport, hlast, Option.map_some, helement, List.append_assoc, List.cons_append] at hsplit
  simp only [splitOnce_append hfirst] at hsplit
  split_ifs at hsplit
  · -- what follows the first dot is read as a name, which leaves a shorter path
    have hshort : dir ++ '/' :: element = path.toList := congrArg Prod.fst (Option.some.inj hsplit)
    rw [hdir, helement] at hshort
    simpa using congrArg List.length hshort
  · -- the whole label is read as a path
    have hnone : none = some symbol := congrArg Prod.snd (Option.some.inj hsplit)
    cases hnone

/-- **A short and a full reference to one symbol lead to the same address just in case the last element
of the import path has no dot.** Pointer marks are left aside. -/
theorem externalUrl?_short_eq_full_iff (h : ShortReference scope pkg s path)
    (hmark : s.head? ≠ some '*') :
    externalUrl? scope (pkg ++ '.' :: s) = externalUrl? scope (path.toList ++ '.' :: s) ↔
      '.' ∉ lastElement path.toList := by
  rw [externalUrl?_short h]
  constructor
  · intro heq hdot
    exact externalUrl?_full_ne h.path_valid hdot h.reference heq.symm
  · intro hdot
    exact (externalUrl?_full h.path_valid hdot h.reference hmark).symm

end

/-- A method of a type of an imported package. -/
theorem externalUrl?_short_eq_full_json :
    externalUrl? { imports := [("json", "encoding/json")] } "json.Decoder.Token".toList =
      externalUrl? { imports := [("json", "encoding/json")] }
        "encoding/json.Decoder.Token".toList := by
  have hshort : ShortReference { imports := [("json", "encoding/json")] } "json".toList
      "Decoder.Token".toList "encoding/json" := by
    constructor <;> decide
  exact (externalUrl?_short_eq_full_iff hshort (by decide)).2 (by decide)

/-- A version at the end of a path is taken for the receiver of a method, and a pointer mark is kept in
short references only. -/
theorem externalUrl?_short_ne_full :
    (ShortReference { imports := [("yaml", "gopkg.in/yaml.v3")] } "yaml".toList "Node".toList
        "gopkg.in/yaml.v3" ∧
      externalUrl? { imports := [("yaml", "gopkg.in/yaml.v3")] } "yaml.Node".toList ≠
        externalUrl? { imports := [("yaml", "gopkg.in/yaml.v3")] }
          "gopkg.in/yaml.v3.Node".toList) ∧
    ShortReference { imports := [("json", "encoding/json")] } "json".toList "*Encoder".toList
        "encoding/json" ∧
      externalUrl? { imports := [("json", "encoding/json")] } "json.*Encoder".toList ≠
        externalUrl? { imports := [("json", "encoding/json")] } "encoding/json.*Encoder".toList := by
  refine ⟨⟨?_, by decide⟩, ?_, by decide⟩ <;> constructor <;> decide

end Reference

end DocPages
