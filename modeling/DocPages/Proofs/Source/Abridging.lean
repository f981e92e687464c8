import DocPages.Proofs.Source.ReadBack
import Mathlib.Data.List.Nodup
import Mathlib.Data.List.Perm.Basic
import Mathlib.Logic.Relation

/-!
# Abridged descriptions

A description may be written without the fields that hold their defaults, and with fields that nothing
reads. Whatever is left out and added in this way, at any depth, the description that is read stays the
same (`Package.ofData?_of_abridgesTo`).

1. An edit of a record leaves out one field, adds one, puts the fields in another order or edits what one
   of them holds (`Data.RecordEdit`). The fields of a record and what may become of them are its form
   (`Data.Form`).
2. After an edit each field that is read holds what it held before, or nothing in place of its default,
   or an edit of it (`Data.RecordEdit.exists_fields?`).
3. So a record is read as before, if what its fields hold is (`Data.RecordEdit.read_eq`). This is shown
   for one kind of record after another, from positions to packages (`keeps_edit`).
4. Any number of edits starts from the data of a description, which is read back, and each of them
   keeps what is read.
-/

namespace DocPages

namespace Data

/-! ## Edits -/

/-- A field of a record as far as edits go. -/
structure Field where
  name : String
  /-- What the field holds by default, if it may be left out. -/
  default? : Option Data
  /-- How what the field holds can be edited. -/
  Edits : Data → Data → Prop

/-- Nothing can be edited. -/
def Whole (_ _ : Data) : Prop :=
  False

/-- The fields of a kind of record. -/
structure Form where
  fields : List Field
  distinct : (fields.map Field.name).Nodup

def Form.names (form : Form) : List String :=
  form.fields.map Field.name

/-- One edit of a record. Since fields can be put in any order, the edited one can be taken to be the
first. -/
inductive RecordEdit (form : Form) : Data → Data → Prop
  | reorder {es es' : List (Data × Data)} (h : es.Perm es') : RecordEdit form (.map es) (.map es')
  | leaveOut {f : Field} {d : Data} {es : List (Data × Data)} (hf : f ∈ form.fields)
      (hd : f.default? = some d) : RecordEdit form (.map ((.text f.name, d) :: es)) (.map es)
  | add {name : String} {d : Data} {es : List (Data × Data)} (h : name ∉ form.names) :
      RecordEdit form (.map es) (.map ((.text name, d) :: es))
  | inside {f : Field} {d d' : Data} {es : List (Data × Data)} (hf : f ∈ form.fields)
      (hd : f.Edits d d') :
      RecordEdit form (.map ((.text f.name, d) :: es)) (.map ((.text f.name, d') :: es))

/-- One edit of an item of a list. -/
inductive ItemEdit (edits : Data → Data → Prop) : Data → Data → Prop
  | item {before after : List Data} {d d' : Data} (hd : edits d d') :
      ItemEdit edits (.list (before ++ d :: after)) (.list (before ++ d' :: after))

/-- What is read before an edit is read after it. -/
def Keeps {α : Type} (edits : Data → Data → Prop) (read : Data → Option α) : Prop :=
  ∀ ⦃d d' : Data⦄ ⦃a : α⦄, edits d d' → read d = some a → read d' = some a

theorem Form.eq_of_name_eq {form : Form} {f g : Field} (hf : f ∈ form.fields)
    (hg : g ∈ form.fields) (h : f.name = g.name) : f = g :=
  List.inj_on_of_nodup_map form.distinct hf hg h

theorem keeps_whole {α : Type} (read : Data → Option α) : Keeps Whole read :=
  fun _ _ _ h => h.elim

theorem keeps_itemEdit {α : Type} {edits : Data → Data → Prop} {read : Data → Option α}
    (h : Keeps edits read) : Keeps (ItemEdit edits) (list? read) := by
  rintro _ _ as ⟨hd⟩ has
  rename_i before after d d'
  have has' : (before ++ d :: after).mapM read = some as := has
  show (before ++ d' :: after).mapM read = some as
  simp only [List.mapM_append, List.mapM_cons, Option.bind_eq_bind, Option.bind_eq_some_iff]
    at has' ⊢
  obtain ⟨bs, hbs, cs, ⟨a, ha, cs', hcs', hcs⟩, has⟩ := has'
  exact ⟨bs, hbs, cs, ⟨a, h hd ha, cs', hcs', hcs⟩, has⟩

/-! ## What fields hold -/

theorem field?_cons_of_ne {name n : String} (h : n ≠ name) (d : Data)
    (entries : List (String × Data)) : field? ((n, d) :: entries) name = field? entries name := by
  unfold field?
  rw [List.filter_cons_of_neg (by simpa using h)]

theorem field?_cons_self {name : String} {d : Data} {entries : List (String × Data)}
    {held : Option Data} :
    field? ((name, d) :: entries) name = some held ↔
      held = some d ∧ field? entries name = some none := by
  unfold field?
  rw [List.filter_cons_of_pos (by simp)]
  cases h : entries.filter (·.1 == name) with
  | nil => simp [eq_comm]
  | cons e es => cases es <;> simp

theorem field?_perm {entries entries' : List (String × Data)} (h : entries.Perm entries')
    (name : String) : field? entries name = field? entries' name := by
  have hfilter := h.filter (·.1 == name)
  unfold field?
  generalize entries.filter (·.1 == name) = given at hfilter
  generalize entries'.filter (·.1 == name) = given' at hfilter
  -- the order matters to no list of at most one entry, and longer ones do not fit
  rcases given with _ | ⟨e, _ | ⟨e₂, es⟩⟩
  · rw [hfilter.nil_eq]
  · rw [List.singleton_perm.1 hfilter]
  · rcases given' with _ | ⟨e', _ | ⟨e₂', es'⟩⟩
    · cases hfilter.eq_nil
    · cases List.perm_singleton.1 hfilter
    · rfl

theorem entries?_perm {es es' : List (Data × Data)} (h : es.Perm es')
    {entries : List (String × Data)} (hentries : entries? (.map es) = some entries) :
    ∃ entries', entries? (.map es') = some entries' ∧ entries.Perm entries' := by
  obtain ⟨entries', hentries', hperm⟩ :=
    List.perm_comp_forall₂ h.symm (mapM_eq_some_iff.1 hentries)
  exact ⟨entries', mapM_eq_some_iff.2 hentries', hperm.symm⟩

theorem entries?_cons {name : String} {d : Data} {es : List (Data × Data)}
    {entries : List (String × Data)} :
    entries? (.map ((.text name, d) :: es)) = some entries ↔
      ∃ rest, entries? (.map es) = some rest ∧ entries = (name, d) :: rest := by
  constructor
  · intro h
    obtain ⟨e, rest, he, hrest, rfl⟩ := List.forall₂_cons_left_iff.1 (mapM_eq_some_iff.1 h)
    cases he
    exact ⟨rest, mapM_eq_some_iff.2 hrest, rfl⟩
  · rintro ⟨rest, hrest, rfl⟩
    exact mapM_eq_some_iff.2 (.cons rfl (mapM_eq_some_iff.1 hrest))

/-- What may become of what a field holds. -/
def Field.Revised (f : Field) (held held' : Option Data) : Prop :=
  held' = held ∨ ∃ d, held = some d ∧
    (f.default? = some d ∧ held' = none ∨ ∃ d', f.Edits d d' ∧ held' = some d')

/-- Each field of a form that can be read is the same after an edit, or revised. -/
theorem RecordEdit.exists_field? {form : Form} {es : List (Data × Data)} {d' : Data}
    (h : RecordEdit form (.map es) d') {entries : List (String × Data)}
    (hentries : entries? (.map es) = some entries) :
    ∃ es' entries', d' = .map es' ∧ entries? (.map es') = some entries' ∧
      ∀ f ∈ form.fields, ∀ held, field? entries f.name = some held →
        ∃ held', field? entries' f.name = some held' ∧ f.Revised held held' := by
  cases h with
  | reorder hperm =>
    obtain ⟨entries', hentries', hperm'⟩ := entries?_perm hperm hentries
    refine ⟨_, entries', rfl, hentries', fun f _ held hheld => ⟨held, ?_, Or.inl rfl⟩⟩
    rw [← field?_perm hperm', hheld]
  | add hname =>
    refine ⟨_, _, rfl, entries?_cons.2 ⟨entries, hentries, rfl⟩,
      fun f hf held hheld => ⟨held, ?_, Or.inl rfl⟩⟩
    rw [field?_cons_of_ne, hheld]
    rintro rfl
    exact hname (List.mem_map_of_mem hf)
  | @leaveOut f d _ hf hd =>
    obtain ⟨rest, hrest, rfl⟩ := entries?_cons.1 hentries
    refine ⟨_, rest, rfl, hrest, fun g hg held hheld => ?_⟩
    by_cases hname : f.name = g.name
    · obtain rfl := Form.eq_of_name_eq hf hg hname
      obtain ⟨rfl, hnone⟩ := field?_cons_self.1 hheld
      exact ⟨none, hnone, Or.inr ⟨_, rfl, Or.inl ⟨hd, rfl⟩⟩⟩
    · rw [field?_cons_of_ne hname] at hheld
      exact ⟨held, hheld, Or.inl rfl⟩
  | @inside f d d' _ hf hd =>
    obtain ⟨rest, hrest, rfl⟩ := entries?_cons.1 hentries
    refine ⟨_, _, rfl, entries?_cons.2 ⟨rest, hrest, rfl⟩, fun g hg held hheld => ?_⟩
    by_cases hname : f.name = g.name
    · obtain rfl := Form.eq_of_name_eq hf hg hname
      obtain ⟨rfl, hnone⟩ := field?_cons_self.1 hheld
      exact ⟨_, field?_cons_self.2 ⟨rfl, hnone⟩, Or.inr ⟨_, rfl, Or.inr ⟨_, hd, rfl⟩⟩⟩
    · rw [field?_cons_of_ne hname] at hheld
      exact ⟨held, by rw [field?_cons_of_ne hname, hheld], Or.inl rfl⟩

/-- What may become of what some fields hold. -/
inductive Revised : List Field → List (Option Data) → List (Option Data) → Prop
  | nil : Revised [] [] []
  | cons {f : Field} {fs : List Field} {held held' : Option Data} {all all' : List (Option Data)}
      (h : f.Revised held held') (hs : Revised fs all all') :
      Revised (f :: fs) (held :: all) (held' :: all')

theorem exists_revised {entries entries' : List (String × Data)} {fs : List Field}
    (h : ∀ f ∈ fs, ∀ held, field? entries f.name = some held →
      ∃ held', field? entries' f.name = some held' ∧ f.Revised held held')
    {all : List (Option Data)} (hall : (fs.map Field.name).mapM (field? entries) = some all) :
    ∃ all', (fs.map Field.name).mapM (field? entries') = some all' ∧ Revised fs all all' := by
  simp only [mapM_eq_some_iff, List.forall₂_map_left_iff] at hall ⊢
  induction hall with
  | nil => exact ⟨[], .nil, .nil⟩
  | cons hheld _ ih =>
    obtain ⟨hf, hfs⟩ := List.forall_mem_cons.1 h
    obtain ⟨held', hheld', hrevised⟩ := hf _ hheld
    obtain ⟨all', hall', hrevised'⟩ := ih hfs
    exact ⟨held' :: all', .cons hheld' hall', .cons hrevised hrevised'⟩

theorem fields?_map (positional : Bool) (names : List String) (es : List (Data × Data)) :
    (map es).fields? positional names =
      (map es).entries?.bind fun entries => names.mapM (field? entries) := by
  cases positional <;> rfl

/-- The fields that are read of a record are revised by an edit. -/
theorem RecordEdit.exists_fields? {form : Form} {d d' : Data} (h : RecordEdit form d d')
    {positional : Bool} {all : List (Option Data)}
    (hall : d.fields? positional form.names = some all) :
    ∃ all', d'.fields? positional form.names = some all' ∧ Revised form.fields all all' := by
  obtain ⟨es, rfl⟩ : ∃ es, d = .map es := by cases h <;> exact ⟨_, rfl⟩
  rw [fields?_map] at hall
  obtain ⟨entries, hentries, hall⟩ := Option.bind_eq_some_iff.1 hall
  obtain ⟨es', entries', rfl, hentries', hfield⟩ := h.exists_field? hentries
  obtain ⟨all', hall', hrevised⟩ := exists_revised hfield hall
  exact ⟨all', by rw [fields?_map, hentries']; exact hall', hrevised⟩

/-- Reading a record gives the same after an edit if revised fields do not matter to the result. -/
theorem RecordEdit.read_eq {α : Type} {form : Form} {d d' : Data} (h : RecordEdit form d d')
    {positional : Bool} {ofFields : List (Option Data) → Option α}
    (hfields : ∀ {all all' : List (Option Data)}, Revised form.fields all all' →
      ∀ {a : α}, ofFields all = some a → ofFields all' = some a)
    {a : α} (ha : d.fields? positional form.names >>= ofFields = some a) :
    d'.fields? positional form.names >>= ofFields = some a := by
  obtain ⟨all, hall, ha⟩ := Option.bind_eq_some_iff.1 ha
  obtain ⟨all', hall', hrevised⟩ := h.exists_fields? hall
  rw [hall']
  exact hfields hrevised ha

/-! ## Reading revised fields -/

namespace Field

/-- A field that holds a text and may be left out. -/
def text (name : String) : Field :=
  ⟨name, some (.text ""), Whole⟩

/-- A field that holds a list and may be left out. -/
def list (name : String) (edits : Data → Data → Prop) : Field :=
  ⟨name, some (.list []), ItemEdit edits⟩

/-- A field that may not be left out. -/
def required (name : String) (edits : Data → Data → Prop) : Field :=
  ⟨name, none, edits⟩

namespace Revised

variable {α : Type} {f : Field} {held held' : Option Data}

theorem orDefault_eq (h : f.Revised held held') {read : Data → Option α} {default a : α}
    (hread : Keeps f.Edits read) (hdefault : ∀ d ∈ f.default?, read d = some default)
    (ha : orDefault default read held = some a) : orDefault default read held' = some a := by
  rcases h with rfl | ⟨d, rfl, ⟨hd, rfl⟩ | ⟨d', hd', rfl⟩⟩
  · exact ha
  · exact (hdefault d hd).symm.trans ha
  · exact hread hd' ha

theorem text_eq {name : String} (h : (Field.text name).Revised held held') {s : String}
    (hs : orDefault "" text? held = some s) : orDefault "" text? held' = some s :=
  h.orDefault_eq (keeps_whole _) (by rintro _ ⟨⟩; rfl) hs

theorem list_eq {name : String} {edits : Data → Data → Prop}
    (h : (Field.list name edits).Revised held held') {read : Data → Option α}
    (hread : Keeps edits read) {as : List α} (has : orDefault [] (list? read) held = some as) :
    orDefault [] (list? read) held' = some as :=
  h.orDefault_eq (keeps_itemEdit hread) (by rintro _ ⟨⟩; rfl) has

theorem required_eq {name : String} {edits : Data → Data → Prop}
    (h : (Field.required name edits).Revised held held') {read : Data → Option α}
    (hread : Keeps edits read) {a : α} (ha : Data.required read held = some a) :
    Data.required read held' = some a := by
  rcases h with rfl | ⟨d, rfl, ⟨hd, -⟩ | ⟨d', hd', rfl⟩⟩
  · exact ha
  · cases hd
  · exact hread hd' ha

end Revised

end Field

end Data

/-! ## Edits of a description -/

namespace Source

open Data

variable (positional : Bool)

namespace Position

def form : Form :=
  ⟨[.required "line" Whole, .required "col" Whole], by decide⟩

theorem keeps_edit : Keeps (RecordEdit form) (ofData? positional) := by
  intro d d' p hedit hp
  refine hedit.read_eq ?_ hp
  intro all all' hrevised p hp
  rcases hrevised with _ | ⟨hline, _ | ⟨hcol, _ | _⟩⟩
  simp only [Option.bind_eq_bind, Option.bind_eq_some_iff] at hp ⊢
  obtain ⟨line, hl, col, hc, hp⟩ := hp
  exact ⟨line, hline.required_eq (keeps_whole _) hl, col, hcol.required_eq (keeps_whole _) hc, hp⟩

end Position

namespace Extent

def form : Form :=
  ⟨[.required "filepath" Whole, .required "start" (RecordEdit Position.form),
    .required "end" (RecordEdit Position.form)], by decide⟩

theorem keeps_edit : Keeps (RecordEdit form) (ofData? positional) := by
  intro d d' e hedit he
  refine hedit.read_eq ?_ he
  intro all all' hrevised e he
  rcases hrevised with _ | ⟨hfilepath, _ | ⟨hstart, _ | ⟨hstop, _ | _⟩⟩⟩
  simp only [Option.bind_eq_bind, Option.bind_eq_some_iff] at he ⊢
  obtain ⟨filepath, hf, start, hs, stop, ht, he⟩ := he
  exact ⟨filepath, hfilepath.required_eq (keeps_whole _) hf,
    start, hstart.required_eq (Position.keeps_edit positional) hs,
    stop, hstop.required_eq (Position.keeps_edit positional) ht, he⟩

/-- A location may be left out as a whole. -/
def field : Field :=
  ⟨"location", some (toData {}), RecordEdit form⟩

theorem field_eq {held held' : Option Data} (h : field.Revised held held') {e : Extent}
    (he : orDefault {} (ofData? positional) held = some e) :
    orDefault {} (ofData? positional) held' = some e := by
  have hdefault : ofData? positional (toData {}) = some {} :=
    ofData?_toData positional (by decide)
  refine h.orDefault_eq (keeps_edit positional) ?_ he
  rintro _ ⟨⟩
  exact hdefault

end Extent

namespace Value

def form : Form :=
  ⟨[.list "names" Whole, .text "doc", .text "decl", Extent.field], by decide⟩

theorem keeps_edit : Keeps (RecordEdit form) (ofData? positional) := by
  intro d d' v hedit hv
  refine hedit.read_eq ?_ hv
  intro all all' hrevised v hv
  rcases hrevised with _ | ⟨hnames, _ | ⟨hdoc, _ | ⟨hdecl, _ | ⟨hlocation, _ | _⟩⟩⟩⟩
  simp only [Option.bind_eq_bind, Option.bind_eq_some_iff] at hv ⊢
  obtain ⟨names, hn, doc, hd, decl, hc, location, hl, hv⟩ := hv
  exact ⟨names, hnames.list_eq (keeps_whole _) hn, doc, hdoc.text_eq hd, decl, hdecl.text_eq hc,
    location, Extent.field_eq positional hlocation hl, hv⟩

end Value

namespace Func

def form : Form :=
  ⟨[.text "name", .text "recv", .text "doc", .text "decl", Extent.field], by decide⟩

theorem keeps_edit : Keeps (RecordEdit form) (ofData? positional) := by
  intro d d' f hedit hf
  refine hedit.read_eq ?_ hf
  intro all all' hrevised f hf
  rcases hrevised with
    _ | ⟨hname, _ | ⟨hrecv, _ | ⟨hdoc, _ | ⟨hdecl, _ | ⟨hlocation, _ | _⟩⟩⟩⟩⟩
  simp only [Option.bind_eq_bind, Option.bind_eq_some_iff] at hf ⊢
  obtain ⟨name, hn, recv, hr, doc, hd, decl, hc, location, hl, hf⟩ := hf
  exact ⟨name, hname.text_eq hn, recv, hrecv.text_eq hr, doc, hdoc.text_eq hd,
    decl, hdecl.text_eq hc, location, Extent.field_eq positional hlocation hl, hf⟩

end Func

namespace TypeDecl

def form : Form :=
  ⟨[.text "name", .text "doc", .text "decl", Extent.field, .list "fields" Whole,
    .list "funcs" (RecordEdit Func.form), .list "methods" (RecordEdit Func.form),
    .list "consts" (RecordEdit Value.form), .list "vars" (RecordEdit Value.form)], by decide⟩

theorem keeps_edit : Keeps (RecordEdit form) (ofData? positional) := by
  have hfunc := Func.keeps_edit positional
  have hvalue := Value.keeps_edit positional
  intro d d' t hedit ht
  refine hedit.read_eq ?_ ht
  intro all all' hrevised t ht
  rcases hrevised with _ | ⟨hname, _ | ⟨hdoc, _ | ⟨hdecl, _ | ⟨hlocation, _ | ⟨hfields,
    _ | ⟨hfuncs, _ | ⟨hmethods, _ | ⟨hconsts, _ | ⟨hvars, _ | _⟩⟩⟩⟩⟩⟩⟩⟩⟩
  simp only [Option.bind_eq_bind, Option.bind_eq_some_iff] at ht ⊢
  obtain ⟨name, h₁, doc, h₂, decl, h₃, location, h₄, fields, h₅, funcs, h₆, methods, h₇, consts, h₈,
    vars, h₉, ht⟩ := ht
  exact ⟨name, hname.text_eq h₁, doc, hdoc.text_eq h₂, decl, hdecl.text_eq h₃,
    location, Extent.field_eq positional hlocation h₄, fields, hfields.list_eq (keeps_whole _) h₅,
    funcs, hfuncs.list_eq hfunc h₆, methods, hmethods.list_eq hfunc h₇,
    consts, hconsts.list_eq hvalue h₈, vars, hvars.list_eq hvalue h₉, ht⟩

end TypeDecl

namespace Example

def form : Form :=
  ⟨[.text "name", .text "doc", .text "code", ⟨"output", some .null, Whole⟩], by decide⟩

theorem keeps_edit : Keeps (RecordEdit form) (ofData? positional) := by
  intro d d' e hedit he
  refine hedit.read_eq ?_ he
  intro all all' hrevised e he
  rcases hrevised with _ | ⟨hname, _ | ⟨hdoc, _ | ⟨hcode, _ | ⟨houtput, _ | _⟩⟩⟩⟩
  simp only [Option.bind_eq_bind, Option.bind_eq_some_iff] at he ⊢
  obtain ⟨name, hn, doc, hd, code, hc, output, ho, he⟩ := he
  exact ⟨name, hname.text_eq hn, doc, hdoc.text_eq hd, code, hcode.text_eq hc,
    output, houtput.orDefault_eq (keeps_whole _) (by rintro _ ⟨⟩; rfl) ho, he⟩

end Example

namespace Package

def form : Form :=
  ⟨[.text "name", .text "import_path", .text "dir", .text "doc",
    .list "consts" (RecordEdit Value.form), .list "vars" (RecordEdit Value.form),
    .list "funcs" (RecordEdit Func.form), .list "types" (RecordEdit TypeDecl.form),
    .list "examples" (RecordEdit Example.form), ⟨"imports", some (.map []), Whole⟩], by decide⟩

theorem keeps_edit : Keeps (RecordEdit form) (ofData? positional) := by
  have hvalue := Value.keeps_edit positional
  intro d d' p hedit hp
  refine hedit.read_eq ?_ hp
  intro all all' hrevised p hp
  rcases hrevised with _ | ⟨hname, _ | ⟨hpath, _ | ⟨hdir, _ | ⟨hdoc, _ | ⟨hconsts, _ | ⟨hvars,
    _ | ⟨hfuncs, _ | ⟨htypes, _ | ⟨hexamples, _ | ⟨himports, _ | _⟩⟩⟩⟩⟩⟩⟩⟩⟩⟩
  simp only [Option.bind_eq_bind, Option.bind_eq_some_iff] at hp ⊢
  obtain ⟨name, h₁, path, h₂, dir, h₃, doc, h₄, consts, h₅, vars, h₆, funcs, h₇, types, h₈,
    examples, h₉, imports, h₁₀, hp⟩ := hp
  exact ⟨name, hname.text_eq h₁, path, hpath.text_eq h₂, dir, hdir.text_eq h₃,
    doc, hdoc.text_eq h₄, consts, hconsts.list_eq hvalue h₅, vars, hvars.list_eq hvalue h₆,
    funcs, hfuncs.list_eq (Func.keeps_edit positional) h₇,
    types, htypes.list_eq (TypeDecl.keeps_edit positional) h₈,
    examples, hexamples.list_eq (Example.keeps_edit positional) h₉,
    imports, himports.orDefault_eq (keeps_whole _) (by rintro _ ⟨⟩; rfl) h₁₀, hp⟩

/-- What may be left out of the data of a record is what the data of the default record holds. -/
example :
    Value.toData {} = .map (Value.form.fields.map fun f => (.text f.name, f.default?.getD .null)) ∧
    Func.toData {} = .map (Func.form.fields.map fun f => (.text f.name, f.default?.getD .null)) ∧
    TypeDecl.toData {} =
      .map (TypeDecl.form.fields.map fun f => (.text f.name, f.default?.getD .null)) ∧
    Example.toData {} =
      .map (Example.form.fields.map fun f => (.text f.name, f.default?.getD .null)) ∧
    toData {} = .map (form.fields.map fun f => (.text f.name, f.default?.getD .null)) :=
  ⟨rfl, rfl, rfl, rfl, rfl⟩

/-- The second data is obtained from the first by leaving out fields that hold their defaults, adding
fields that nothing reads and putting fields in another order, at any depth of a description. -/
def AbridgesTo : Data → Data → Prop :=
  Relation.ReflTransGen (RecordEdit form)

/-- **A description survives being stored, and defaults may be left out**: what is obtained from its data
by leaving out defaults and adding unknown fields is read as the description. -/
theorem ofData?_of_abridgesTo {p : Package} (hp : p.Storable) {d : Data}
    (hd : AbridgesTo p.toData d) : ofData? positional d = some p := by
  induction hd with
  | refl => exact ofData?_toData positional hp
  | tail _ hedit ih => exact keeps_edit positional hedit ih

/-- A package with one function, which has a location. -/
def runner : Package where
  funcs := [{ name := "Run", location := ⟨"run.go", ⟨3, 1⟩, ⟨9, 2⟩⟩ }]
  imports := [("fmt", "fmt"), ("os", "os")]

/-- The data of the package without some defaults, with a field that nothing reads in the package and
another one in the location. -/
def runnerAbridged : Data :=
  .map [(.text "since", .int 2),
    (.text "funcs", .list [.map
      [(.text "location", .map [(.text "note", .bool true), (.text "filepath", .text "run.go"),
        (.text "start", (⟨3, 1⟩ : Position).toData), (.text "end", (⟨9, 2⟩ : Position).toData)]),
      (.text "name", .text "Run")]]),
    (.text "types", .list []), (.text "examples", .list []),
    (.text "imports", .map [(.text "fmt", .text "fmt"), (.text "os", .text "os")])]

theorem ofData?_of_abridgesTo_runner :
    runner.Storable ∧ AbridgesTo runner.toData runnerAbridged ∧
      ofData? true runnerAbridged = some runner := by
  have hstorable : runner.Storable := ⟨by decide, by decide +kernel⟩
  have habridges : AbridgesTo runner.toData runnerAbridged := by
    refine .head (.leaveOut (f := .text "name") (by simp [form]) rfl) ?_
    refine .head (.leaveOut (f := .text "import_path") (by simp [form]) rfl) ?_
    refine .head (.leaveOut (f := .text "dir") (by simp [form]) rfl) ?_
    refine .head (.leaveOut (f := .text "doc") (by simp [form]) rfl) ?_
    refine .head (.leaveOut (f := .list "consts" (RecordEdit Value.form)) (by simp [form]) rfl) ?_
    refine .head (.leaveOut (f := .list "vars" (RecordEdit Value.form)) (by simp [form]) rfl) ?_
    refine .tail ?_ (.add (by decide))
    -- the function is edited in place: its name goes last, then three defaults are left out
    have hfuncs {d d' : Data} {es : List (Data × Data)} (h : RecordEdit Func.form d d') :
        RecordEdit form (.map ((.text "funcs", .list [d]) :: es))
          (.map ((.text "funcs", .list [d']) :: es)) :=
      .inside (f := .list "funcs" (RecordEdit Func.form)) (by simp [form])
        (@ItemEdit.item _ [] [] _ _ h)
    refine .head (hfuncs (.reorder (@List.perm_append_comm _ [_] _))) ?_
    refine .head (hfuncs (.leaveOut (f := .text "recv") (by simp [Func.form]) rfl)) ?_
    refine .head (hfuncs (.leaveOut (f := .text "doc") (by simp [Func.form]) rfl)) ?_
    refine .head (hfuncs (.leaveOut (f := .text "decl") (by simp [Func.form]) rfl)) ?_
    exact .single (hfuncs (.inside (f := Extent.field) (by simp [Func.form]) (.add (by decide))))
  exact ⟨hstorable, habridges, ofData?_of_abridgesTo true hstorable habridges⟩

end Package

end Source

end DocPages
