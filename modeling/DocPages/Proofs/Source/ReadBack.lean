import DocPages.Source.Fields
import DocPages.Proofs.Data.Traversal
import Mathlib.Data.String.Basic

/-!
# Reading descriptions back

The data of a package description is read as the description it was made from
(`Package.ofData?_toData`). Reading bounds positions by the size of a machine word and puts imports in
the order of their names, so both are asked of the description (`Package.Storable`).
-/

namespace DocPages

/-! ## Lists and maps -/

namespace Data

theorem nat?_int (n : ℕ) : nat? (.int n) = if n < wordSize then some n else none := by
  simp only [nat?, Int.natCast_nonneg, true_and, Int.ofNat_lt, Int.toNat_natCast]

theorem list?_map {α : Type} {read : Data → Option α} {write : α → Data} {xs : List α}
    (h : ∀ x ∈ xs, read (write x) = some x) : list? read (.list (xs.map write)) = some xs :=
  (mapM_map_eq_some h).trans (by rw [List.map_id'])

end Data

namespace SortedMap

variable {α : Type}

theorem put_of_forall_lt {key : String} {val : α} {m : List (String × α)}
    (h : ∀ e ∈ m, e.1 < key) : put key val m = m ++ [(key, val)] := by
  induction m with
  | nil => rfl
  | cons e rest ih =>
    obtain ⟨k, v⟩ := e
    obtain ⟨hk, hrest⟩ := List.forall_mem_cons.1 h
    rw [put, if_neg hk.ne', if_neg hk.asymm, ih hrest, List.cons_append]

theorem foldl_put_of_sorted {m es : List (String × α)}
    (h : (m ++ es).Pairwise fun a b => a.1 < b.1) :
    es.foldl (fun m (k, v) => put k v m) m = m ++ es := by
  induction es generalizing m with
  | nil => exact (List.append_nil m).symm
  | cons e es ih =>
    obtain ⟨k, v⟩ := e
    have hlt : ∀ a ∈ m, a.1 < k := fun a ha =>
      (List.pairwise_append.1 h).2.2 a ha (k, v) List.mem_cons_self
    rw [List.foldl_cons]
    show es.foldl _ (put k v m) = _
    rw [put_of_forall_lt hlt, ih (by simpa using h), List.append_assoc, List.singleton_append]

/-- Entries in order are a map as they are. -/
theorem ofEntries_of_sorted {es : List (String × α)} (h : es.Pairwise fun a b => a.1 < b.1) :
    ofEntries es = es :=
  foldl_put_of_sorted (m := []) h

end SortedMap

/-! ## Descriptions that can be stored -/

namespace Source

/-- The line and the column are machine words. -/
def Position.Fits (p : Position) : Prop :=
  p.line < Data.wordSize ∧ p.col < Data.wordSize

instance (p : Position) : Decidable p.Fits :=
  inferInstanceAs (Decidable (_ ∧ _))

/-- Both ends of the extent are pairs of machine words. -/
def Extent.Fits (e : Extent) : Prop :=
  e.start.Fits ∧ e.stop.Fits

instance (e : Extent) : Decidable e.Fits :=
  inferInstanceAs (Decidable (_ ∧ _))

/-- The extents of a type and of what belongs to it. -/
def TypeDecl.extents (t : TypeDecl) : List Extent :=
  t.location :: ((t.funcs ++ t.methods).map Func.location ++ (t.consts ++ t.vars).map Value.location)

/-- The extents of all declarations of a package. -/
def Package.extents (p : Package) : List Extent :=
  (p.consts ++ p.vars).map Value.location ++ p.funcs.map Func.location ++
    p.types.flatMap TypeDecl.extents

/-- Positions are machine words, and imports are a map in the order of their names. -/
structure Package.Storable (p : Package) : Prop where
  fits : ∀ e ∈ p.extents, e.Fits
  sorted : p.imports.Pairwise fun a b => a.1 < b.1

/-! ## Reading back -/

theorem Position.ofData?_of_fields? {positional : Bool} {d line col : Data}
    (h : d.fields? positional ["line", "col"] = some [some line, some col]) :
    ofData? positional d = (do
      let line ← line.nat?
      let col ← col.nat?
      return ⟨line, col⟩) := by
  unfold ofData?
  rw [h]
  rfl

variable (positional : Bool)

theorem Position.ofData?_toData {p : Position} (h : p.Fits) :
    ofData? positional p.toData = some p := by
  have hfields : p.toData.fields? positional ["line", "col"] =
      some [some (.int p.line), some (.int p.col)] := by
    cases positional <;> rfl
  rw [ofData?_of_fields? hfields, Data.nat?_int, Data.nat?_int, if_pos h.1, if_pos h.2]
  rfl

theorem Extent.ofData?_toData {e : Extent} (h : e.Fits) :
    ofData? positional e.toData = some e := by
  have hfields : e.toData.fields? positional ["filepath", "start", "end"] =
      some [some (.text e.filepath), some e.start.toData, some e.stop.toData] := by
    cases positional <;> rfl
  unfold ofData?
  rw [hfields]
  simp [Data.required, Data.text?, Position.ofData?_toData, h.1, h.2]

theorem list?_texts (ss : List String) : Data.list? Data.text? (texts ss) = some ss :=
  Data.list?_map fun _ _ => rfl

theorem Value.ofData?_toData {v : Value} (h : v.location.Fits) :
    ofData? positional v.toData = some v := by
  have hfields : v.toData.fields? positional ["names", "doc", "decl", "location"] =
      some [some (texts v.names), some (.text v.doc), some (.text v.decl),
        some v.location.toData] := by
    cases positional <;> rfl
  unfold ofData?
  rw [hfields]
  simp [Data.orDefault, Data.text?, list?_texts, Extent.ofData?_toData, h]

theorem Func.ofData?_toData {f : Func} (h : f.location.Fits) :
    ofData? positional f.toData = some f := by
  have hfields : f.toData.fields? positional ["name", "recv", "doc", "decl", "location"] =
      some [some (.text f.name), some (.text f.recv), some (.text f.doc), some (.text f.decl),
        some f.location.toData] := by
    cases positional <;> rfl
  unfold ofData?
  rw [hfields]
  simp [Data.orDefault, Data.text?, Extent.ofData?_toData, h]

theorem Example.ofData?_toData (e : Example) : ofData? positional e.toData = some e := by
  obtain ⟨name, doc, code, output⟩ := e
  cases positional <;> cases output <;> rfl

theorem TypeDecl.ofData?_toData {t : TypeDecl} (h : ∀ e ∈ t.extents, e.Fits) :
    ofData? positional t.toData = some t := by
  have hfields : t.toData.fields? positional
      ["name", "doc", "decl", "location", "fields", "funcs", "methods", "consts", "vars"] =
      some [some (.text t.name), some (.text t.doc), some (.text t.decl), some t.location.toData,
        some (texts t.fields), some (.list (t.funcs.map Func.toData)),
        some (.list (t.methods.map Func.toData)), some (.list (t.consts.map Value.toData)),
        some (.list (t.vars.map Value.toData))] := by
    cases positional <;> rfl
  simp only [extents, List.forall_mem_cons, List.map_append, List.forall_mem_append,
    List.forall_mem_map] at h
  obtain ⟨hlocation, ⟨hfuncs, hmethods⟩, hconsts, hvars⟩ := h
  have hf := fun f hf => Func.ofData?_toData positional (hfuncs f hf)
  have hm := fun f hf => Func.ofData?_toData positional (hmethods f hf)
  have hc := fun v hv => Value.ofData?_toData positional (hconsts v hv)
  have hv := fun v hv => Value.ofData?_toData positional (hvars v hv)
  unfold ofData?
  rw [hfields]
  simp [Data.orDefault, Data.text?, list?_texts, Extent.ofData?_toData, hlocation,
    Data.list?_map hf, Data.list?_map hm, Data.list?_map hc, Data.list?_map hv]

theorem Package.importsOfData?_map {imports : List (String × String)}
    (h : imports.Pairwise fun a b => a.1 < b.1) :
    importsOfData? (.map (imports.map fun (k, v) => (.text k, .text v))) = some imports := by
  have hentries : Data.entries? (.map (imports.map fun (k, v) => (.text k, .text v))) =
      some (imports.map fun (k, v) => (k, .text v)) :=
    Data.mapM_map_eq_some fun _ _ => rfl
  have htexts : (imports.map fun (k, v) => (k, Data.text v)).mapM
      (fun e => e.2.text?.map (e.1, ·)) = some (imports.map id) :=
    Data.mapM_map_eq_some fun _ _ => rfl
  unfold importsOfData?
  rw [hentries, Option.bind_eq_bind, Option.bind_some, htexts, List.map_id]
  exact congrArg some (SortedMap.ofEntries_of_sorted h)

/-- The data of a description is read as the description. -/
theorem Package.ofData?_toData {p : Package} (h : p.Storable) :
    ofData? positional p.toData = some p := by
  have hfields : p.toData.fields? positional
      ["name", "import_path", "dir", "doc", "consts", "vars", "funcs", "types", "examples",
        "imports"] =
      some [some (.text p.name), some (.text p.importPath), some (.text p.dir), some (.text p.doc),
        some (.list (p.consts.map Value.toData)), some (.list (p.vars.map Value.toData)),
        some (.list (p.funcs.map Func.toData)), some (.list (p.types.map TypeDecl.toData)),
        some (.list (p.examples.map Example.toData)),
        some (.map (p.imports.map fun (k, v) => (.text k, .text v)))] := by
    cases positional <;> rfl
  have hfits := h.fits
  simp only [extents, List.map_append, List.forall_mem_append, List.forall_mem_map,
    List.forall_mem_flatMap] at hfits
  obtain ⟨⟨⟨hconsts, hvars⟩, hfuncs⟩, htypes⟩ := hfits
  have hc := fun v hv => Value.ofData?_toData positional (hconsts v hv)
  have hv := fun v hv => Value.ofData?_toData positional (hvars v hv)
  have hf := fun f hf => Func.ofData?_toData positional (hfuncs f hf)
  have ht := fun t ht => TypeDecl.ofData?_toData positional (htypes t ht)
  have he := fun e (_ : e ∈ p.examples) => Example.ofData?_toData positional e
  unfold ofData?
  rw [hfields]
  simp [Data.orDefault, Data.text?, importsOfData?_map h.sorted, Data.list?_map hc,
    Data.list?_map hv, Data.list?_map hf, Data.list?_map ht, Data.list?_map he]

end Source

end DocPages
