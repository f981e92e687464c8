import DocPages.Proofs.Comment.WellFormed
import DocPages.Proofs.Page.Parts
import DocPages.Proofs.Render.PackageTemplate

/-!
# Why rendering fails

A package that has a page is rendered, unless one of its declarations cannot be linked to its source: then
rendering fails for the first such declaration (`renderPackage_ok_iff_page_ok_and_links_ok`).

1. A page fails for its first piece that fails (`failure?_concat`). Pieces other than the headers of
   declarations do not fail if their levels are positive machine words (`Piece.Sound`), and these headers
   fail only for their links (`Piece.failure?_write`).
2. The links of a page are those of its source, in the same order (`linked_of_ofPackage`).
3. All pieces of a page are sound, since its levels are at most four above that of its package and the
   blocks of doc comments have the level of their comment (`sound_package`).
-/

namespace DocPages

open Template Text

namespace Render

/-! ## Outcomes -/

section

variable {ε δ α β : Type}

/-- Why a step fails, if it does. -/
def failure? : Except ε α → Option ε
  | .ok _ => none
  | .error e => some e

theorem failure?_eq_none {r : Except ε α} : failure? r = none ↔ ∃ a, r = .ok a := by
  cases r <;> simp [failure?]

theorem failure?_eq_some {r : Except ε α} {e : ε} : failure? r = some e ↔ r = .error e := by
  cases r <;> simp [failure?]

theorem failure?_mapError (f : ε → δ) (r : Except ε α) :
    failure? (r.mapError f) = (failure? r).map f := by
  cases r <;> rfl

theorem failure?_bind_pure (f : α → β) (r : Except ε α) :
    failure? (r >>= fun a => pure (f a)) = failure? r := by
  cases r <;> rfl

/-- Texts one after another fail for the first one that fails. -/
theorem failure?_concat (rs : List (Except ε String)) :
    failure? (concat rs) = rs.findSome? failure? := by
  induction rs with
  | nil => rfl
  | cons r rs ih =>
    cases r with
    | error e => rfl
    | ok text =>
      rw [concat_cons_ok, List.findSome?_cons, failure?, ← ih]
      cases concat rs <;> rfl

end

/-! ## Links -/

/-- Why a location cannot be linked to, if it cannot. -/
def linkFailure? (d : Dialect) (l : Location) : Option DialectError :=
  failure? (d.codeHref l)

theorem linkFailure?_eq (d : Dialect) (l : Location) :
    linkFailure? d l =
      if d = .plain then none else l.repo.bind fun r => failure? (Dialect.repoPath l r) := by
  unfold linkFailure? Dialect.codeHref
  cases d with
  | plain => rfl
  | github | azureDevOps =>
    cases l.repo with
    | none => rfl
    | some r => exact failure?_bind_pure _ (Dialect.repoPath l r)

theorem linkFailure?_eq_none {d : Dialect} {l : Location} {r : Repo} (hd : d ≠ .plain)
    (hr : l.repo = some r) :
    linkFailure? d l = none ↔ ∃ path, Dialect.repoPath l r = .ok path := by
  rw [linkFailure?_eq, if_neg hd, hr, Option.bind_some, failure?_eq_none]

theorem linkFailure?_eq_some {d : Dialect} {l : Location} {e : DialectError} :
    linkFailure? d l = some e ↔
      d ≠ .plain ∧ ∃ r, l.repo = some r ∧ Dialect.repoPath l r = .error e := by
  rw [linkFailure?_eq]
  split_ifs with hd
  · simp [hd]
  · simp only [Option.bind_eq_some_iff, failure?_eq_some, ne_eq, hd, not_false_eq_true, true_and]

/-- A path that is not found is that of its location. -/
theorem exists_reason_of_repoPath {l : Location} {r : Repo} {e : DialectError}
    (h : Dialect.repoPath l r = .error e) : ∃ reason, e = .codeHref l.filepath reason := by
  unfold Dialect.repoPath at h
  simp only at h
  split at h
  · cases h
    exact ⟨_, rfl⟩
  · split at h
    · cases h
    · cases h
      exact ⟨_, rfl⟩

/-! ## Pieces -/

/-- The location that a piece links to. -/
def Piece.location? : Piece → Option Location
  | sourceHeader _ _ _ location _ => some location
  | _ => none

/-- The locations that pieces link to. -/
def locations (ps : List Piece) : List Location :=
  ps.filterMap Piece.location?

@[simp]
theorem locations_nil : locations [] = [] :=
  rfl

@[simp]
theorem locations_cons (p : Piece) (ps : List Piece) :
    locations (p :: ps) = p.location?.toList ++ locations ps := by
  unfold locations
  cases h : p.location? <;> simp [h]

@[simp]
theorem locations_append (ps qs : List Piece) :
    locations (ps ++ qs) = locations ps ++ locations qs :=
  List.filterMap_append

theorem locations_flatMap {α : Type} (f : α → List Piece) (xs : List α) :
    locations (xs.flatMap f) = xs.flatMap fun x => locations (f x) :=
  List.filterMap_flatMap

/-- All levels of a piece are positive machine words. -/
def Piece.Sound : Piece → Prop
  | text _ | accordionHeader _ => True
  | header level _ | sourceHeader level _ _ _ _ => 1 ≤ level ∧ level < Data.wordSize
  | .doc comment => ∀ b : Block (List Span), b.Occurs comment.blocks → 1 ≤ b.level ∧ b.Fits

@[simp]
theorem sound_text (s : String) : (Piece.text s).Sound :=
  trivial

@[simp]
theorem sound_accordionHeader (title : String) : (Piece.accordionHeader title).Sound :=
  trivial

theorem Piece.Sound.fits {p : Piece} (h : p.Sound) (hl : ∀ l ∈ p.location?, l.Fits) : p.Fits := by
  cases p with
  | text s => trivial
  | accordionHeader title => trivial
  | header level title => exact h.2
  | sourceHeader level what name location anchor => exact ⟨h.2, hl location rfl⟩
  | doc comment => exact fun b hb => (h b hb).2

/-- A sound piece fails only if its link does. -/
theorem Piece.failure?_write (d : Dialect) {p : Piece} (h : p.Sound) :
    failure? (p.write .exact d) =
      (p.location?.bind (linkFailure? d)).map fun e => ⟨.invalidOperation, some e⟩ := by
  cases p with
  | text s => rfl
  | accordionHeader title => cases d <;> rfl
  | header level title =>
    have hok : Dialect.header level title = .ok _ := rawHeader_of_pos h.1 _
    rw [Piece.write, Reading.exact, ok_bind, hok]
    rfl
  | doc comment =>
    obtain ⟨t, ht⟩ := Block.exists_writeAll d comment.blocks fun b hb => (h b hb).1
    rw [Piece.write, ht]
    rfl
  | sourceHeader level what name location anchor =>
    have hok (text : String) : ∃ t, d.rawAnchorHeader level text anchor = .ok t := by
      cases d <;> exact ⟨_, rawHeader_of_pos h.1 _⟩
    have hhref : sourceHref .exact d location = raised (d.codeHref location) := rfl
    rw [Piece.write, Piece.location?, Option.bind_some, linkFailure?, hhref]
    cases d.codeHref location with
    | error e => rfl
    | ok href =>
      obtain ⟨t, ht⟩ := hok (what ++ Dialect.link (Dialect.escape name) href)
      show failure? (raised (d.rawAnchorHeader level _ anchor)) = none
      rw [ht]
      rfl

/-- Sound pieces fail for the first link that does. -/
theorem failure?_compose (d : Dialect) {ps : List Piece} (h : ∀ p ∈ ps, p.Sound) :
    failure? (compose .exact d ps) =
      ((locations ps).findSome? (linkFailure? d)).map fun e => ⟨.invalidOperation, some e⟩ := by
  rw [compose, failure?_concat]
  induction ps with
  | nil => rfl
  | cons p ps ih =>
    obtain ⟨hp, hps⟩ := List.forall_mem_cons.1 h
    rw [List.map_cons, List.findSome?_cons, p.failure?_write d hp, ih hps, locations_cons]
    -- a piece without a link does not fail, so that the search for a failure passes over it
    cases p.location? with
    | none => rfl
    | some l =>
      rw [Option.bind_some, Option.toList_some, List.singleton_append, List.findSome?_cons]
      cases linkFailure? d l <;> rfl

end Render

/-! ## Linked declarations -/

namespace Source

/-- The declarations of a type that are linked to their source. -/
def TypeDecl.linked (t : TypeDecl) : List Extent :=
  t.location :: (t.funcs ++ t.methods).map (·.location)

/-- The declarations of a package that are linked to their source, in the order of its page. -/
def Package.linked (p : Package) : List Extent :=
  p.funcs.map (·.location) ++ p.types.flatMap TypeDecl.linked

end Source

namespace Page

open Render

/-- The locations that the section of a type links to. -/
def TypeDecl.linked (t : TypeDecl) : List Location :=
  t.location :: (t.funcs ++ t.methods).map (·.location)

/-- The locations that a page links to. -/
def Package.linked (p : Package) : List Location :=
  p.funcs.map (·.location) ++ p.types.flatMap TypeDecl.linked

section

variable (d : Dialect)

theorem Example.locations_pieces (e : Example) : locations (e.pieces d) = [] := by
  unfold Example.pieces
  cases e.output <;> rfl

@[simp]
theorem locations_examples (es : List Example) :
    locations (es.flatMap (Example.pieces d)) = [] := by
  rw [locations_flatMap, List.flatMap_eq_nil_iff]
  exact fun e _ => e.locations_pieces d

theorem Value.locations_pieces (v : Value) : locations (v.pieces d) = [] := by
  unfold Value.pieces
  split_ifs <;> rfl

@[simp]
theorem locations_values (vs : List Value) : locations (vs.flatMap (Value.pieces d)) = [] := by
  rw [locations_flatMap, List.flatMap_eq_nil_iff]
  exact fun v _ => v.locations_pieces d

theorem Func.locations_pieces (f : Func) : locations (f.pieces d) = [f.location] := by
  simp [Func.pieces, Piece.location?]

@[simp]
theorem locations_funcs (fs : List Func) :
    locations (fs.flatMap (Func.pieces d)) = fs.map (·.location) := by
  simp only [locations_flatMap, Func.locations_pieces, List.map_eq_flatMap]

theorem TypeDecl.locations_pieces (t : TypeDecl) : locations (t.pieces d) = t.linked := by
  simp [TypeDecl.pieces, TypeDecl.linked, Piece.location?]

@[simp]
theorem locations_types (ts : List TypeDecl) :
    locations (ts.flatMap (TypeDecl.pieces d)) = ts.flatMap TypeDecl.linked := by
  simp only [locations_flatMap, TypeDecl.locations_pieces]

@[simp]
theorem locations_valueSection (level : ℕ) (title : String) (vs : List Value) :
    locations (valueSection d level title vs) = [] := by
  unfold valueSection
  split_ifs <;> simp [Piece.location?]

/-- A page links to the locations of its declarations. -/
theorem Package.locations_pieces (p : Package) : locations (p.pieces d) = p.linked := by
  simp [Package.pieces, Package.linked, Piece.location?]

end

/-- Lists of entities have what the sources have that they are made of. -/
theorem map_eq_of_mapM {ε α β γ : Type} {f : α → Except ε β} {g : β → γ} {k : α → γ} {xs : List α}
    {ys : List β} (h : xs.mapM f = .ok ys) (hfg : ∀ x y, f x = .ok y → g y = k x) :
    ys.map g = xs.map k := by
  have hall := forall₂_of_mapM h
  clear h
  induction hall with
  | nil => rfl
  | cons hxy _ ih => rw [List.map_cons, List.map_cons, hfg _ _ hxy, ih]

section

variable {scope : Scope} {examples : List Source.Example}

theorem locations_of_funcs {fs : List Source.Func} {shown : List Func}
    (h : fs.mapM (ofFunc examples scope) = .ok shown) :
    shown.map (·.location) = (fs.map (·.location)).map (location scope) := by
  rw [List.map_map]
  refine map_eq_of_mapM h fun x y hxy => ?_
  obtain ⟨signature, -, shownExamples, -, rfl⟩ := ofFunc_eq_ok.1 hxy
  rfl

theorem linked_of_ofType {src : Source.TypeDecl} {t : TypeDecl}
    (h : ofType examples scope src = .ok t) : t.linked = src.linked.map (location scope) := by
  obtain ⟨decl, -, consts, -, vars, -, shownExamples, -, funcs, hfuncs, methods, hmethods, rfl⟩ :=
    ofType_eq_ok.1 h
  simp only [TypeDecl.linked, Source.TypeDecl.linked, List.map_append, List.map_cons,
    locations_of_funcs hfuncs, locations_of_funcs hmethods]
  rfl

/-- The page of a package links to the declarations of the package, in the same order. -/
theorem linked_of_ofPackage {src : Source.Package} {p : Package}
    (h : ofPackage scope src = .ok p) : p.linked = src.linked.map (location scope) := by
  obtain ⟨shown, -, consts, -, vars, -, funcs, hfuncs, types, htypes, rfl⟩ := ofPackage_eq_ok.1 h
  have hlinked := map_eq_of_mapM htypes fun _ _ => linked_of_ofType
  simp only [Package.linked, Source.Package.linked, List.map_append, locations_of_funcs hfuncs,
    List.flatMap_def, hlinked, List.map_flatten, List.map_map]
  rfl

end

end Page

/-! ## Levels -/

/-- The level of a scope is positive, and the levels up to `k` above it are machine words. -/
def Scope.HasRoom (s : Scope) (k : ℕ) : Prop :=
  1 ≤ s.level ∧ s.level + k < Data.wordSize

theorem Scope.HasRoom.mono {s : Scope} {j k : ℕ} (h : s.HasRoom k) (hjk : j ≤ k) : s.HasRoom j :=
  ⟨h.1, Nat.lt_of_le_of_lt (Nat.add_le_add_left hjk _) h.2⟩

theorem Scope.HasRoom.deeper {s : Scope} {k : ℕ} (h : s.HasRoom (k + 1)) :
    (s.deeper 1).HasRoom k := by
  obtain ⟨hpos, hlt⟩ := h
  refine ⟨Nat.le_add_right_of_le hpos, ?_⟩
  show s.level + 1 + k < Data.wordSize
  omega

theorem Scope.HasRoom.level {s : Scope} {k : ℕ} (h : s.HasRoom k) :
    1 ≤ s.level ∧ s.level < Data.wordSize :=
  h.mono (Nat.zero_le k)

/-- The blocks of a doc comment have its level, and item numbers of at most nine digits. -/
theorem Comment.fits_of_occurs_parse {scope : Scope} {k : ℕ} (hroom : scope.HasRoom k)
    {text : String} {b : Block (List Span)} (h : b.Occurs (parse scope text)) :
    1 ≤ b.level ∧ b.Fits := by
  have hform : b.WellFormed scope.level :=
    wellFormed_of_occurs_parseLines (url_ne_empty_of_mem_extractFrom 0 _)
      (fun _ => newline_notMem_of_mem_body) h
  obtain ⟨hlevel, hform⟩ := hform
  refine ⟨hlevel ▸ hroom.level.1, hlevel ▸ hroom.level.2, ?_⟩
  cases b with
  | paragraph level spans => trivial
  | header level spans => trivial
  | code level text => trivial
  | list level between items =>
    intro i hi n hn
    have hnumber := (hform.2.1 i hi).2
    rw [Option.mem_def.1 hn] at hnumber
    exact Nat.lt_of_le_of_lt hnumber.2 (by decide)

namespace Page

open Render

section

variable {d : Dialect} {scope : Scope} {examples : List Source.Example}

theorem sound_doc {k : ℕ} (hroom : scope.HasRoom k) (text : String) :
    (Piece.doc (Doc.ofComment scope text)).Sound :=
  fun _ => Comment.fits_of_occurs_parse hroom

theorem Example.sound_pieces {e : Example} (hdoc : (Piece.doc e.doc).Sound) :
    ∀ p ∈ e.pieces d, p.Sound := by
  have hheader : (Piece.header 4 "Output").Sound := ⟨by decide, by decide⟩
  unfold Example.pieces
  cases e.output <;> simp [hdoc, hheader]

theorem sound_examples (hroom : scope.HasRoom 2) {xs : List (String × Source.Example)}
    {shown : List Example} (h : ofExamples scope xs = .ok shown) :
    ∀ p ∈ shown.flatMap (Example.pieces d), p.Sound := by
  refine List.forall_mem_flatMap.2 fun e he => ?_
  obtain ⟨x, -, hx⟩ := exists_source_of_mapM h he
  obtain ⟨code, -, rfl⟩ := ofExample_eq_ok.1 hx
  exact Example.sound_pieces (sound_doc hroom.deeper.deeper x.2.doc)

theorem sound_values (hroom : scope.HasRoom 1) {vs : List Source.Value} {shown : List Value}
    (h : vs.mapM (ofValue scope) = .ok shown) :
    ∀ p ∈ shown.flatMap (Value.pieces d), p.Sound := by
  refine List.forall_mem_flatMap.2 fun v hv => ?_
  obtain ⟨x, -, hx⟩ := exists_source_of_mapM h hv
  obtain ⟨decl, -, rfl⟩ := ofValue_eq_ok.1 hx
  have hdoc := sound_doc hroom.deeper x.doc
  unfold Value.pieces
  split_ifs <;> simp [hdoc]

theorem sound_funcs (hroom : scope.HasRoom 2) {fs : List Source.Func} {shown : List Func}
    (h : fs.mapM (ofFunc examples scope) = .ok shown) :
    ∀ p ∈ shown.flatMap (Func.pieces d), p.Sound := by
  refine List.forall_mem_flatMap.2 fun f hf => ?_
  obtain ⟨x, -, hx⟩ := exists_source_of_mapM h hf
  obtain ⟨signature, -, shownExamples, hexamples, rfl⟩ := ofFunc_eq_ok.1 hx
  have hdoc := sound_doc hroom.deeper x.doc
  refine List.forall_mem_append.2 ⟨?_, sound_examples hroom hexamples⟩
  exact List.forall_mem_cons.2 ⟨hroom.level, by simp [hdoc]⟩

theorem sound_types (hroom : scope.HasRoom 3) {ts : List Source.TypeDecl} {shown : List TypeDecl}
    (h : ts.mapM (ofType examples scope) = .ok shown) :
    ∀ p ∈ shown.flatMap (TypeDecl.pieces d), p.Sound := by
  refine List.forall_mem_flatMap.2 fun t ht => ?_
  obtain ⟨x, -, hx⟩ := exists_source_of_mapM h ht
  obtain ⟨decl, -, consts, hconsts, vars, hvars, shownExamples, hexamples, funcs, hfuncs, methods,
    hmethods, rfl⟩ := ofType_eq_ok.1 hx
  have hdoc := sound_doc hroom.deeper x.doc
  simp only [TypeDecl.pieces, List.forall_mem_append]
  refine ⟨⟨⟨⟨⟨?_, ?_⟩, ?_⟩, ?_⟩, ?_⟩, ?_⟩
  · exact List.forall_mem_cons.2 ⟨hroom.level, by simp [hdoc]⟩
  · exact sound_values (hroom.deeper.mono (by decide)) hconsts
  · exact sound_values (hroom.deeper.mono (by decide)) hvars
  · exact sound_examples (hroom.mono (by decide)) hexamples
  · exact sound_funcs hroom.deeper hfuncs
  · exact sound_funcs hroom.deeper hmethods

theorem sound_valueSection {level : ℕ} (hlevel : 1 ≤ level ∧ level < Data.wordSize) (title : String)
    {vs : List Value} (h : ∀ p ∈ vs.flatMap (Value.pieces d), p.Sound) :
    ∀ p ∈ valueSection d level title vs, p.Sound := by
  unfold valueSection
  split_ifs
  · exact List.forall_mem_nil _
  · exact List.forall_mem_cons.2 ⟨hlevel, h⟩

/-- All pieces of a page are sound. -/
theorem sound_package (hroom : scope.HasRoom 4) {src : Source.Package} {p : Package}
    (h : ofPackage scope src = .ok p) : ∀ q ∈ p.pieces d, q.Sound := by
  obtain ⟨shown, hexamples, consts, hconsts, vars, hvars, funcs, hfuncs, types, htypes, rfl⟩ :=
    ofPackage_eq_ok.1 h
  have houter : (scope.ofPackage src).HasRoom 4 := hroom
  have hinner := houter.deeper
  have hdoc := sound_doc hinner src.doc
  have hvalues {vs : List Source.Value} {shown : List Value}
      (h : vs.mapM (ofValue ((scope.ofPackage src).deeper 1)) = .ok shown) (title : String) :
      ∀ q ∈ valueSection d ((scope.ofPackage src).level + 1) title shown, q.Sound :=
    sound_valueSection hinner.level title (sound_values (hinner.mono (by decide)) h)
  simp only [Package.pieces, List.forall_mem_append]
  refine ⟨⟨⟨⟨⟨⟨?_, ?_⟩, ?_⟩, hvalues hconsts _⟩, hvalues hvars _⟩, ?_⟩, sound_types hinner htypes⟩
  · exact List.forall_mem_cons.2 ⟨houter.level, by simp [hdoc]⟩
  · exact sound_examples (houter.mono (by decide)) hexamples
  · exact List.forall_mem_cons.2 ⟨hinner.level, by simp⟩
  · exact sound_funcs (hinner.mono (by decide)) hfuncs

/-- They are read as machine words if the positions of the linked declarations are. -/
theorem fits_package (hroom : scope.HasRoom 4) {src : Source.Package} {p : Package}
    (hfits : ∀ e ∈ src.linked, e.start.Fits ∧ e.stop.Fits) (h : ofPackage scope src = .ok p) :
    ∀ q ∈ p.pieces d, q.Fits := by
  refine fun q hq => (sound_package hroom h q hq).fits fun l hl => ?_
  have hmem : l ∈ locations (p.pieces d) := List.mem_filterMap.2 ⟨q, hq, hl⟩
  rw [Package.locations_pieces, linked_of_ofPackage h] at hmem
  obtain ⟨e, he, rfl⟩ := List.mem_map.1 hmem
  exact hfits e he

end

end Page

/-! ## Packages -/

namespace Render

theorem library_standard (d : Dialect) : (standard d).library = library d :=
  rfl

theorem renderPage_ok {α : Type} (r : Renderer) (template : String) (toValue : α → Value)
    (page : α) : r.renderPage template toValue (.ok page) =
      (r.library.render template (toValue page)).mapError .template :=
  rfl

theorem renderPage_error {α : Type} (r : Renderer) (template : String) (toValue : α → Value)
    (e : EmptySource) : r.renderPage template toValue (.error e) = .error (.emptySource e) :=
  rfl

section

variable (d : Dialect) {scope : Scope} {src : Source.Package}

/-- Every declaration can be linked if there is nothing to link to or all paths are found. -/
theorem forall_linked_iff : (∀ e ∈ src.linked, linkFailure? d (Page.location scope e) = none) ↔
    d = .plain ∨ scope.repo = none ∨ ∃ r, scope.repo = some r ∧ ∀ e ∈ src.linked,
      ∃ path, Dialect.repoPath (Page.location scope e) r = .ok path := by
  by_cases hd : d = .plain
  · simp [linkFailure?_eq, hd]
  · cases hrepo : scope.repo with
    | none => simp [linkFailure?_eq, Page.location, hrepo]
    | some r =>
      have hlink (e : Source.Extent) := linkFailure?_eq_none (l := Page.location scope e) hd hrepo
      simp only [hlink, hd, false_or, reduceCtorEq, Option.some.injEq, exists_eq_left']

theorem renderPackage_of_ok {p : Page.Package} (h : Page.ofPackage scope src = .ok p) :
    (standard d).renderPackage scope src =
      ((library d).render "package" p.toValue).mapError .template := by
  rw [Renderer.renderPackage, h, renderPage_ok, library_standard]

theorem renderPackage_of_error {e : EmptySource} (h : Page.ofPackage scope src = .error e) :
    (standard d).renderPackage scope src = .error (.emptySource e) := by
  rw [Renderer.renderPackage, h, renderPage_error]

/-- A package that has a page fails for the first declaration that cannot be linked to its source. -/
theorem failure?_renderPackage {p : Page.Package} (hpos : 1 ≤ scope.level)
    (hle : scope.level ≤ 2 ^ 62) (hfits : ∀ e ∈ src.linked, e.start.Fits ∧ e.stop.Fits)
    (hpage : Page.ofPackage scope src = .ok p) :
    failure? ((standard d).renderPackage scope src) =
      (src.linked.findSome? fun e => linkFailure? d (Page.location scope e)).map
        fun e => .template ⟨.invalidOperation, some e⟩ := by
  have hword : 2 ^ 62 + 4 < Data.wordSize := by decide
  have hroom : scope.HasRoom 4 :=
    ⟨hpos, Nat.lt_of_le_of_lt (Nat.add_le_add_right hle 4) hword⟩
  have hlevel : p.level ≤ 2 ^ 62 := by
    obtain ⟨-, -, -, -, -, -, -, -, -, -, rfl⟩ := Page.ofPackage_eq_ok.1 hpage
    exact hle
  have hwords := (agree_compose d (p.pieces d)).1 (Page.fits_package hroom hfits hpage)
  have hlinked : locations (p.pieces d) = src.linked.map (Page.location scope) := by
    rw [Page.Package.locations_pieces, Page.linked_of_ofPackage hpage]
  rw [renderPackage_of_ok d hpage, render_package_eq d hlevel, hwords, failure?_mapError,
    failure?_compose d (Page.sound_package hroom hpage), hlinked, List.findSome?_map, Option.map_map]
  rfl

end

/-- **Rendering a package fails only for two reasons**: some source that would be shown is empty, or some
declaration cannot be linked to its source. In the second case the failure is that of the first such
declaration. Positions are machine words. -/
theorem renderPackage_ok_iff_page_ok_and_links_ok (d : Dialect) (scope : Scope) (src : Source.Package)
    (hpos : 1 ≤ scope.level) (hle : scope.level ≤ 2 ^ 62)
    (hfits : ∀ e ∈ src.linked, e.start.Fits ∧ e.stop.Fits) :
    ((∃ text, (standard d).renderPackage scope src = .ok text) ↔
      (∃ p, Page.ofPackage scope src = .ok p) ∧
        (d = .plain ∨ scope.repo = none ∨ ∃ r, scope.repo = some r ∧ ∀ e ∈ src.linked,
          ∃ path, Dialect.repoPath (Page.location scope e) r = .ok path)) ∧
    (∀ empty, Page.ofPackage scope src = .error empty →
      (standard d).renderPackage scope src = .error (.emptySource empty)) ∧
    ∀ p failed, Page.ofPackage scope src = .ok p →
      (standard d).renderPackage scope src = .error failed →
      ∃ r before e after reason, scope.repo = some r ∧ src.linked = before ++ e :: after ∧
        (∀ x ∈ before, ∃ path, Dialect.repoPath (Page.location scope x) r = .ok path) ∧
        Dialect.repoPath (Page.location scope e) r = .error (.codeHref e.filepath reason) ∧
        failed = .template ⟨.invalidOperation, some (.codeHref e.filepath reason)⟩ := by
  refine ⟨?_, fun empty h => renderPackage_of_error d h, fun p failed hpage hfailed => ?_⟩
  · cases hpage : Page.ofPackage scope src with
    | error empty => simp [renderPackage_of_error d hpage]
    | ok p =>
      rw [← failure?_eq_none, failure?_renderPackage d hpos hle hfits hpage, Option.map_eq_none_iff,
        List.findSome?_eq_none_iff, forall_linked_iff]
      exact (and_iff_right ⟨p, rfl⟩).symm
  · rw [← failure?_eq_some, failure?_renderPackage d hpos hle hfits hpage, Option.map_eq_some_iff]
      at hfailed
    obtain ⟨cause, hcause, rfl⟩ := hfailed
    obtain ⟨before, e, after, hsplit, he, hbefore⟩ := List.findSome?_eq_some_iff.1 hcause
    obtain ⟨hd, r, hr, hpath⟩ := linkFailure?_eq_some.1 he
    obtain ⟨reason, rfl⟩ := exists_reason_of_repoPath hpath
    have hrepo : scope.repo = some r := hr
    have hfound : ∀ x ∈ before, ∃ path, Dialect.repoPath (Page.location scope x) r = .ok path :=
      fun x hx => (linkFailure?_eq_none hd hrepo).1 (hbefore x hx)
    exact ⟨r, before, e, after, reason, hrepo, hsplit, hfound, hpath, rfl⟩

/-- A function inside of the repository and a type outside of it. -/
def strayType : Source.Package where
  name := "a"
  funcs := [{ name := "F", decl := "func F()", location := { filepath := "a.go" } }]
  types := [{ name := "T", decl := "type T int", location := { filepath := "../t.go" } }]

/-- A scope at the root of a repository. -/
def rootScope : Scope where
  repo := some ⟨"https://github.com/org/tools", "main", ""⟩

theorem renderPackage_ok_iff_page_ok_and_links_ok_strayType :
    (∃ p, Page.ofPackage rootScope strayType = .ok p) ∧
      (standard .github).renderPackage rootScope strayType = .error (.template
        ⟨.invalidOperation, some (.codeHref "../t.go" "outside of the repository")⟩) := by
  have hpage : ∃ p, Page.ofPackage rootScope strayType = .ok p := ⟨_, rfl⟩
  have hinside : Dialect.repoPath (Page.location rootScope { filepath := "a.go" })
      ⟨"https://github.com/org/tools", "main", ""⟩ = .ok "a.go" := by decide
  have houtside : Dialect.repoPath (Page.location rootScope { filepath := "../t.go" })
      ⟨"https://github.com/org/tools", "main", ""⟩ =
        .error (.codeHref "../t.go" "outside of the repository") := by decide
  obtain ⟨hok, -, hfailed⟩ := renderPackage_ok_iff_page_ok_and_links_ok .github rootScope strayType
    (by decide) (by decide) (by decide)
  refine ⟨hpage, ?_⟩
  cases hrender : (standard .github).renderPackage rootScope strayType with
  | ok text =>
    obtain ⟨-, hplain | hnone | ⟨r, hr, hall⟩⟩ := hok.1 ⟨text, hrender⟩
    · cases hplain
    · cases hnone
    · cases hr
      obtain ⟨path, hpath⟩ := hall { filepath := "../t.go" } (by decide)
      cases houtside.symm.trans hpath
  | error failed =>
    obtain ⟨p, hpage⟩ := hpage
    obtain ⟨r, before, e, after, reason, hr, hsplit, hbefore, hpath, rfl⟩ :=
      hfailed p failed hpage hrender
    cases hr
    have hlinked : strayType.linked = [{ filepath := "a.go" }, { filepath := "../t.go" }] := rfl
    rw [hlinked] at hsplit
    match before, hsplit with
    | [], hsplit =>
      cases hsplit
      cases hinside.symm.trans hpath
    | [x], hsplit =>
      cases hsplit
      rw [← Except.error.inj (houtside.symm.trans hpath)]
    | x :: y :: before, hsplit => simp at hsplit

end Render

end DocPages
