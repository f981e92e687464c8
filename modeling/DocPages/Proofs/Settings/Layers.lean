import DocPages.Proofs.Data.Traversal
import DocPages.Proofs.Settings.Assignment
import DocPages.Proofs.Text.Lines

/-!
# Layers of settings

Each setting has the text of the last override of its key, else of the last file that sets it, else its
default, however files and overrides alternate (`value?_eq_last_override_or_file_or_default`). There are two
exceptions. A layer may put something other than a table in place of the table that the setting is in: then
the setting is gone. And two overrides with different keys, or two entries of one file, may both reach the
setting: then it depends on the order of a hash table which of them counts.

1. Loading makes the assignments of the files one file after the other, and then those of the overrides
   (`ofSetting?_of_load?`). If a setting is settled, the order within each of these batches does not
   matter to it (`textAt_loadedTree`).
2. A setting that is read from a tree is the text at its names (`value?_of_ofSetting?`). The repository may
   be a list instead, where it has no names.
3. The key of a setting is read as its names (`pathOfKey?_text`).
-/

namespace DocPages.Settings

open Setting

/-- A setting: a text, or an entry of one of the two tables of templates. -/
inductive Key where
  | format
  | header
  | headerFile
  | footer
  | footerFile
  | docHost
  | url
  | defaultBranch
  | path
  | template (name : String)
  | templateFile (name : String)
deriving DecidableEq

namespace Key

/-- The names that lead to a setting, one inside the other. -/
def names : Key → List String
  | format => ["format"]
  | header => ["header"]
  | headerFile => ["header_file"]
  | footer => ["footer"]
  | footerFile => ["footer_file"]
  | docHost => ["doc_host"]
  | url => ["repository", "url"]
  | defaultBranch => ["repository", "default_branch"]
  | path => ["repository", "path"]
  | template name => ["template", name]
  | templateFile name => ["template_file", name]

/-- The key as it is written in an override. -/
def text (key : Key) : String :=
  ".".intercalate key.names

def value? (s : Settings) : Key → Option String
  | format => some s.format
  | header => some s.header
  | headerFile => some s.headerFile
  | footer => some s.footer
  | footerFile => some s.footerFile
  | docHost => some s.docHost
  | url => some s.repository.url
  | defaultBranch => some s.repository.defaultBranch
  | path => some s.repository.path
  | template name => s.template.lookup name
  | templateFile name => s.templateFile.lookup name

end Key

/-- The settings at the top. -/
def topNames : List String :=
  ["format", "header", "header_file", "footer", "footer_file", "doc_host"]

/-- The tables of settings. -/
def tableNames : List String :=
  ["repository", "template", "template_file"]

theorem Key.names_cases (key : Key) : (∃ name ∈ topNames, key.names = [name]) ∨
    ∃ table ∈ tableNames, ∃ name, key.names = [table, name] := by
  cases key <;> simp [names, topNames, tableNames]

def isPlainChar (c : Char) : Bool :=
  c.isLower || c.isDigit || c == '_'

/-- A name of small letters, digits and underscores. -/
def IsPlainName (name : String) : Prop :=
  name ≠ "" ∧ ∀ c ∈ name.toList, isPlainChar c = true

namespace Layer

/-- Everything that a layer assigns. -/
def assignments (l : Layer) : List Assignment :=
  l.assignments?.getD []

/-- The text that a layer gives to a setting. -/
def text? (key : Key) (l : Layer) : Option String :=
  lastText key.names l.assignments

end Layer

/-- The assignments of the defaults, then of the files, then of the overrides. -/
def assigned (layers : List Layer) : List Assignment :=
  defaults ++ ((files layers).flatMap Layer.assignments ++ (overrides layers).flatMap Layer.assignments)

/-- In no file, and nowhere among the overrides, is a setting given a text that something else there could
replace or displace. -/
structure Key.IsSettled (key : Key) (layers : List Layer) : Prop where
  files : ∀ l ∈ files layers, Settles key.names l.assignments
  overrides : Settles key.names ((overrides layers).flatMap Layer.assignments)

/-! ## Loading -/

/-- The assignments in batches: the defaults, each file, and the overrides. -/
def batches (layers : List Layer) : List (List Assignment) :=
  defaults :: (files layers).map Layer.assignments ++ [(overrides layers).flatMap Layer.assignments]

/-- The tree that is put together from some layers. -/
def loadedTree (layers : List Layer) (order : Arrangement) : Setting :=
  ofAssignments ((batches layers).flatMap order.arrange)

theorem mem_batches {layers : List Layer} {as : List Assignment} : as ∈ batches layers ↔
    as = defaults ∨ (∃ l ∈ files layers, l.assignments = as) ∨
      as = (overrides layers).flatMap Layer.assignments := by
  simp [batches]

theorem flatten_batches (layers : List Layer) : (batches layers).flatten = assigned layers := by
  simp [batches, assigned, List.flatMap]

theorem map_assignments_of_mapM {layers : List Layer} {xs : List (List Assignment)}
    (h : layers.mapM Layer.assignments? = some xs) : xs = layers.map Layer.assignments := by
  have hall := Data.mapM_eq_some_iff.1 h
  clear h
  induction hall with
  | nil => rfl
  | cons hl _ ih => rw [List.map_cons, Layer.assignments, hl, ← ih, Option.getD_some]

theorem ofSetting?_of_load? {layers : List Layer} {order : Arrangement} {s : Settings}
    (h : load? layers order = some s) : ofSetting? (loadedTree layers order) = some s := by
  obtain ⟨xs, hxs, h⟩ := Option.bind_eq_some_iff.1 h
  obtain ⟨ys, hys, h⟩ := Option.bind_eq_some_iff.1 h
  rw [map_assignments_of_mapM hxs, map_assignments_of_mapM hys] at h
  exact h

/-- Files and overrides may be put in any order between each other. -/
theorem load?_congr {layers others : List Layer} (hfiles : files others = files layers)
    (hoverrides : overrides others = overrides layers) (order : Arrangement) :
    load? others order = load? layers order := by
  unfold load?
  rw [hfiles, hoverrides]

/-! ## Overrides of one path -/

section

variable {before after : List Layer} {l : Layer}

/-- Only the last layer of a path matters. -/
theorem lastByPath_of_mem (h : ∃ x ∈ after, x.path? = l.path?) :
    lastByPath (before ++ l :: after) = lastByPath (before ++ after) := by
  obtain ⟨x, hx, hpath⟩ := h
  induction before with
  | nil =>
    rw [List.nil_append, List.nil_append, lastByPath, if_pos]
    exact List.any_eq_true.2 ⟨x, hx, beq_iff_eq.2 hpath⟩
  | cons b before ih =>
    have hany : (before ++ l :: after).any (·.path? == b.path?) =
        (before ++ after).any (·.path? == b.path?) := by
      cases hb : l.path? == b.path? with
      | false => simp [hb]
      | true =>
        have hin : after.any (·.path? == b.path?) = true :=
          List.any_eq_true.2 ⟨x, hx, by rwa [hpath]⟩
        simp [hin]
    rw [List.cons_append, List.cons_append, lastByPath, lastByPath, hany, ih]

/-- The only layer of a path is kept, and no other one depends on it. -/
theorem lastByPath_of_forall_ne (hbefore : ∀ x ∈ before, x.path? ≠ l.path?)
    (hafter : ∀ x ∈ after, x.path? ≠ l.path?) : ∃ front back,
      lastByPath (before ++ l :: after) = front ++ l :: back ∧
      lastByPath (before ++ after) = front ++ back := by
  induction before with
  | nil =>
    refine ⟨[], lastByPath after, ?_, rfl⟩
    rw [List.nil_append, lastByPath, if_neg]
    · rfl
    · simpa [List.any_eq_true] using hafter
  | cons b before ih =>
    rw [List.forall_mem_cons] at hbefore
    obtain ⟨front, back, hwith, hwithout⟩ := ih hbefore.2
    have hany : (before ++ l :: after).any (·.path? == b.path?) =
        (before ++ after).any (·.path? == b.path?) := by
      simp [beq_eq_false_iff_ne.2 (Ne.symm hbefore.1)]
    rw [List.cons_append, List.cons_append, lastByPath, lastByPath, hany, hwith, hwithout]
    split_ifs
    · exact ⟨front, back, rfl, rfl⟩
    · exact ⟨b :: front, back, rfl, rfl⟩

theorem mem_lastByPath (hafter : ∀ x ∈ after, x.path? ≠ l.path?) :
    l ∈ lastByPath (before ++ l :: after) := by
  induction before with
  | nil =>
    rw [List.nil_append, lastByPath, if_neg]
    · exact List.mem_cons_self
    · simpa [List.any_eq_true] using hafter
  | cons b before ih =>
    rw [List.cons_append, lastByPath]
    split_ifs
    · exact ih
    · exact List.mem_cons_of_mem b ih

/-- The last override of a path counts. -/
theorem mem_overrides (hover : l.isOverride = true) (hafter : ∀ x ∈ after, x.path? ≠ l.path?) :
    l ∈ overrides (before ++ l :: after) := by
  rw [overrides, List.filter_append, List.filter_cons_of_pos hover]
  exact mem_lastByPath fun x hx => hafter x (List.mem_filter.1 hx).1

/-- Without one layer, the overrides are the same, or just that layer is missing, unless it replaced another
override. -/
theorem overrides_remove (after : List Layer)
    (hnew : l.isOverride = true → ∀ x ∈ before, x.isOverride = true → x.path? ≠ l.path?) :
    overrides (before ++ l :: after) = overrides (before ++ after) ∨
      l.isOverride = true ∧ ∃ front back, overrides (before ++ l :: after) = front ++ l :: back ∧
        overrides (before ++ after) = front ++ back := by
  unfold overrides
  rw [List.filter_append, List.filter_append]
  cases hl : l.isOverride with
  | false =>
    rw [List.filter_cons_of_neg (by simp [hl])]
    exact Or.inl rfl
  | true =>
    rw [List.filter_cons_of_pos hl]
    by_cases hlater : ∃ x ∈ after.filter (·.isOverride), x.path? = l.path?
    · exact Or.inl (lastByPath_of_mem hlater)
    · refine Or.inr ⟨rfl, lastByPath_of_forall_ne (fun x hx => ?_) fun x hx hpath => ?_⟩
      · obtain ⟨hx, hover⟩ := List.mem_filter.1 hx
        exact hnew hl x hx hover
      · exact hlater ⟨x, hx, hpath⟩

end

theorem mem_of_mem_lastByPath {layers : List Layer} {l : Layer} (h : l ∈ lastByPath layers) :
    l ∈ layers := by
  induction layers with
  | nil => exact h
  | cons x layers ih =>
    rw [lastByPath] at h
    split_ifs at h
    · exact List.mem_cons_of_mem x (ih h)
    · rcases List.mem_cons.1 h with rfl | h
      · exact List.mem_cons_self
      · exact List.mem_cons_of_mem x (ih h)

theorem mem_of_mem_overrides {layers : List Layer} {l : Layer} (h : l ∈ overrides layers) :
    l ∈ layers :=
  (List.mem_filter.1 (mem_of_mem_lastByPath h)).1

theorem exists_layer_of_mem_batches {layers : List Layer} {as : List Assignment}
    (has : as ∈ batches layers) {a : Assignment} (ha : a ∈ as) :
    a ∈ defaults ∨ ∃ l ∈ layers, a ∈ l.assignments := by
  rcases mem_batches.1 has with rfl | ⟨l, hl, rfl⟩ | rfl
  · exact Or.inl ha
  · exact Or.inr ⟨l, List.mem_of_mem_filter hl, ha⟩
  · obtain ⟨l, hl, ha⟩ := List.mem_flatMap.1 ha
    exact Or.inr ⟨l, mem_of_mem_overrides hl, ha⟩

/-! ## What layers assign -/

/-- Layers assign the leaves of settings. -/
theorem exists_assignmentsAt {l : Layer} {a : Assignment} (h : a ∈ l.assignments) :
    ∃ path s, a ∈ assignmentsAt path s := by
  unfold Layer.assignments at h
  rcases l with ⟨required, _ | contents⟩ | ⟨key, value⟩
  · cases required <;> cases h
  · rw [Layer.assignments?, fileAssignments?] at h
    cases htop : Toml.parse? (Toml.dropMark contents.toList) with
    | none =>
      rw [htop] at h
      cases h
    | some top =>
      rw [htop] at h
      obtain ⟨e, -, he⟩ := List.mem_flatMap.1 h
      exact ⟨_, _, he⟩
  · rw [Layer.assignments?] at h
    cases hpath : pathOfKey? key with
    | none =>
      rw [hpath] at h
      cases h
    | some path =>
      rw [hpath] at h
      exact ⟨path, value, h⟩

theorem entries_of_mem_batches {layers : List Layer} {as : List Assignment}
    (has : as ∈ batches layers) {a : Assignment} (ha : a ∈ as) : a.leaf.entries = [] := by
  have hdefaults : ∀ a ∈ defaults, a.leaf.entries.isEmpty = true := List.all_eq_true.1 (by decide)
  rcases exists_layer_of_mem_batches has ha with ha | ⟨l, -, ha⟩
  · exact List.isEmpty_iff.1 (hdefaults a ha)
  · obtain ⟨path, s, hs⟩ := exists_assignmentsAt ha
    exact entries_of_mem_assignmentsAt hs

theorem lastText_flatMap (key : Key) (layers : List Layer) :
    lastText key.names (layers.flatMap Layer.assignments) =
      (layers.filterMap (·.text? key)).getLast? := by
  induction layers using List.reverseRecOn with
  | nil => rfl
  | append_singleton layers l ih =>
    rw [List.flatMap_append, List.flatMap_singleton, lastText_append, ih, List.filterMap_append,
      List.getLast?_append, ← Layer.text?]
    cases h : l.text? key <;> simp [h]

/-- No template is set by default. -/
theorem text?_defaults_entry {table : String} (h : table ≠ "repository") (name : String) :
    ∀ a ∈ defaults, a.text? [table, name] = none := by
  have hpaths : ∀ a ∈ defaults, a.path.length = 2 → a.path.head? = some (.entry "repository") := by
    decide
  refine fun a ha => if_neg fun hpath => ?_
  have hhead := hpaths a ha (by rw [hpath]; rfl)
  rw [hpath] at hhead
  cases hhead
  exact h rfl

theorem lastText_defaults_entry {table : String} (h : table ≠ "repository") (name : String) :
    lastText [table, name] defaults = none := by
  rw [lastText, List.filterMap_eq_nil_iff.2 (text?_defaults_entry h name), List.getLast?_nil]

theorem lastText_defaults (key : Key) : lastText key.names defaults = key.value? {} := by
  cases key with
  | template name => exact lastText_defaults_entry (by decide) name
  | templateFile name => exact lastText_defaults_entry (by decide) name
  | _ => rfl

theorem lastText_assigned (key : Key) (layers : List Layer) :
    lastText key.names (assigned layers) =
      ((overrides layers).filterMap (·.text? key)).getLast?.or
        (((files layers).filterMap (·.text? key)).getLast?.or (key.value? {})) := by
  rw [assigned, lastText_append, lastText_append, lastText_flatMap, lastText_flatMap,
    lastText_defaults, Option.or_assoc]

/-! ## Reading settings -/

theorem lookup_of_texts? {s : Setting} {texts : List (String × String)} (h : s.texts? = some texts)
    (name : String) : texts.lookup name = (s.get name).text? := by
  cases s with
  | table es =>
    have hall := Data.mapM_eq_some_iff.1 h
    unfold Setting.get entries
    clear h
    induction hall with
    | nil => rfl
    | @cons e t es texts he _ ih =>
      obtain ⟨key, value⟩ := e
      obtain ⟨text, htext, rfl⟩ := Option.map_eq_some_iff.1 he
      rw [SortedMap.lookup_cons_if, SortedMap.lookup_cons_if]
      split_ifs
      · exact htext.symm
      · exact ih
  | _ => cases h

/-- The repository is read from a table, or else from a list. -/
theorem repository_of_ofSetting? {s : Setting} {r : RepositorySettings}
    (h : RepositorySettings.ofSetting? s = some r) :
    ((s.get "url").text? = some r.url ∧ (s.get "default_branch").text? = some r.defaultBranch ∧
      (s.get "path").text? = some r.path) ∨ ∃ items, s = .list items := by
  cases s with
  | table es =>
    simp only [RepositorySettings.ofSetting?, Option.bind_eq_bind, Option.bind_eq_some_iff] at h
    obtain ⟨url, hurl, branch, hbranch, path, hpath, h⟩ := h
    cases h
    exact Or.inl ⟨hurl, hbranch, hpath⟩
  | list items => exact Or.inr ⟨items, rfl⟩
  | _ => cases h

/-- A list has no names. -/
theorem textAt_of_list {t : Setting} {table : String} {items : List Setting}
    (h : t.get table = .list items) (name : String) : textAt [table, name] t = none := by
  rw [textAt_cons, h]
  rfl

/-- What is read is the text at the names of a setting, unless the repository is a list. -/
theorem value?_of_ofSetting? {t : Setting} {s : Settings} (h : ofSetting? t = some s) (key : Key) :
    textAt key.names t = key.value? s ∨ key.names.head? = some "repository" ∧
      textAt key.names t = none ∧ ∃ items, t.get "repository" = .list items := by
  simp only [ofSetting?, Option.bind_eq_bind, Option.bind_eq_some_iff] at h
  obtain ⟨format, hformat, header, hheader, headerFile, hheaderFile, footer, hfooter, footerFile,
    hfooterFile, docHost, hdocHost, template, htemplate, templateFile, htemplateFile, repository,
    hrepository, h⟩ := h
  cases h
  have hrepo := repository_of_ofSetting? hrepository
  cases key with
  | format => exact Or.inl hformat
  | header => exact Or.inl hheader
  | headerFile => exact Or.inl hheaderFile
  | footer => exact Or.inl hfooter
  | footerFile => exact Or.inl hfooterFile
  | docHost => exact Or.inl hdocHost
  | template name => exact Or.inl (lookup_of_texts? htemplate name).symm
  | templateFile name => exact Or.inl (lookup_of_texts? htemplateFile name).symm
  | url =>
    exact hrepo.imp (·.1) fun ⟨items, hlist⟩ => ⟨rfl, textAt_of_list hlist "url", items, hlist⟩
  | defaultBranch =>
    exact hrepo.imp (·.2.1) fun ⟨items, hlist⟩ =>
      ⟨rfl, textAt_of_list hlist "default_branch", items, hlist⟩
  | path =>
    exact hrepo.imp (·.2.2) fun ⟨items, hlist⟩ => ⟨rfl, textAt_of_list hlist "path", items, hlist⟩

/-! ## Keys -/

theorem lt_of_isPlainChar {c : Char} (h : isPlainChar c = true) : c.toNat < 128 := by
  simp only [isPlainChar, Bool.or_eq_true, beq_iff_eq] at h
  rcases h with (h | h) | rfl
  · have hlast : decide (c.val ≤ 122) = true := (Bool.and_eq_true_iff.1 h).2
    exact Nat.lt_of_le_of_lt (UInt32.le_iff_toNat_le.1 (of_decide_eq_true hlast)) (by decide)
  · have hlast : decide (c.val ≤ 57) = true := (Bool.and_eq_true_iff.1 h).2
    exact Nat.lt_of_le_of_lt (UInt32.le_iff_toNat_le.1 (of_decide_eq_true hlast)) (by decide)
  · decide

/-- What holds of the plain characters of ASCII holds of all. -/
theorem forall_isPlainChar {p : Char → Prop}
    (h : ∀ n < 128, isPlainChar (Char.ofNat n) = true → p (Char.ofNat n)) {c : Char}
    (hc : isPlainChar c = true) : p c := by
  have hcode := h c.toNat (lt_of_isPlainChar hc)
  rw [Char.ofNat_toNat] at hcode
  exact hcode hc

theorem lowerChar_of_isPlainChar {c : Char} (h : isPlainChar c = true) :
    Text.lowerChar c = [c] ∧ c ≠ 'Σ' :=
  forall_isPlainChar (p := fun c => Text.lowerChar c = [c] ∧ c ≠ 'Σ') (by decide +kernel) h

theorem isKeyChar_of_isPlainChar {c : Char} (h : isPlainChar c = true) : isKeyChar c = true :=
  forall_isPlainChar (p := fun c => isKeyChar c = true) (by decide +kernel) h

theorem lowercaseAfter_eq_self {cs : List Char} (h : ∀ c ∈ cs, isPlainChar c = true)
    (before : List Char) : Text.lowercaseAfter before cs = cs := by
  induction cs generalizing before with
  | nil => rfl
  | cons c cs ih =>
    rw [List.forall_mem_cons] at h
    obtain ⟨hlower, hsigma⟩ := lowerChar_of_isPlainChar h.1
    rw [Text.lowercaseAfter, if_neg hsigma, hlower, ih h.2, List.singleton_append]

section PlainName

variable {name : String} (h : IsPlainName name)
include h

theorem lower_of_isPlainName : lower name = name := by
  rw [lower, Text.onChars, Text.lowercase, lowercaseAfter_eq_self h.2, String.ofList_toList]

/-- A plain name is read up to a point or the end. -/
theorem keyName_append_of_isPlainName {rest : List Char} (hrest : ∀ c ∈ rest.head?, c = '.') :
    keyName (name.toList ++ rest) = some (name, rest) := by
  have htake : (name.toList ++ rest).takeWhile isKeyChar = name.toList := by
    refine Text.takeWhile_append_of_head (fun c hc => isKeyChar_of_isPlainChar (h.2 c hc)) fun c hc => ?_
    rw [hrest c hc]
    decide
  have hne : name.toList ≠ [] := by simpa using h.1
  unfold keyName
  simp [htake, hne]

theorem keyName_of_isPlainName : keyName name.toList = some (name, []) := by
  have hname := @keyName_append_of_isPlainName name h [] (by simp)
  rwa [List.append_nil] at hname

end PlainName

theorem keySteps_nil (fuel : ℕ) : keySteps fuel [] = some [] := by
  cases fuel <;> rfl

/-- The names of a setting are plain. Only those of templates could be any text. -/
def Key.IsPlain (key : Key) : Prop :=
  ∀ name ∈ key.names, IsPlainName name

theorem pathOfKey?_text {key : Key} (h : key.IsPlain) :
    pathOfKey? key.text = some (key.names.map .entry) := by
  unfold Key.IsPlain at h
  unfold Key.text pathOfKey?
  rcases key.names_cases with ⟨name, -, hnames⟩ | ⟨table, -, name, hnames⟩
  · rw [hnames, List.forall_mem_singleton] at h
    rw [hnames, show ".".intercalate [name] = name from rfl, keyName_of_isPlainName h]
    rfl
  · rw [hnames, List.forall_mem_cons, List.forall_mem_singleton] at h
    have htext : (".".intercalate [table, name]).toList = table.toList ++ '.' :: name.toList := by
      show (table ++ "." ++ name).toList = _
      simp
    have hsteps : keySteps ('.' :: name.toList).length ('.' :: name.toList) = some [.entry name] := by
      rw [List.length_cons, keySteps, keyName_of_isPlainName h.2]
      show (do let steps ← keySteps name.toList.length []; some (Step.entry name :: steps)) = _
      rw [keySteps_nil]
      rfl
    rw [hnames, htext, keyName_append_of_isPlainName h.1 (by simp)]
    show (do let steps ← keySteps ('.' :: name.toList).length ('.' :: name.toList)
             some (Step.entry table :: steps)) = _
    rw [hsteps]
    rfl

/-- The key of a setting leads to the setting. -/
theorem path?_override {key : Key} (h : key.IsPlain) (value : Setting) :
    (Layer.override key.text value).path? = some (key.names.map .entry) :=
  pathOfKey?_text h

/-- An override of the key of a setting assigns its value to the setting, and nothing else. -/
theorem assignments_override {key : Key} (h : key.IsPlain) (value : String) :
    (Layer.override key.text (.scalar value)).assignments =
      [⟨key.names.map .entry, .scalar value⟩] := by
  have hlower : (key.names.map Step.entry).map lowerStep = key.names.map .entry := by
    rw [List.map_map]
    refine List.map_congr_left fun name hname => ?_
    rw [Function.comp_apply, lowerStep, lower_of_isPlainName (h name hname)]
  rw [Layer.assignments, Layer.assignments?, pathOfKey?_text h]
  show [Assignment.to (key.names.map .entry ++ []) (.scalar value)] = _
  rw [List.append_nil, Assignment.to, hlower]

/-! ## Settings that are displaced -/

/-- The assignment gives a text to a setting, or opens a table. -/
def Fits (a : Assignment) : Prop :=
  (∃ (key : Key) (text : String), a = ⟨key.names.map .entry, .scalar text⟩) ∨
    ∃ name, a = ⟨[.entry name], .table []⟩

/-- No setting is in the place of another one or of a table of others. -/
theorem displaces_of_key (key other : Key) (text : String) :
    (Assignment.mk (other.names.map .entry) (.scalar text)).displaces key.names = false := by
  have hne : ∀ name ∈ topNames, ∀ table ∈ tableNames, name ≠ table := by decide
  unfold Assignment.displaces
  rcases key.names_cases with ⟨name, hname, hnames⟩ | ⟨table, htable, name, hnames⟩ <;>
    rcases other.names_cases with ⟨name', hname', hnames'⟩ | ⟨table', htable', name', hnames'⟩ <;>
      rw [hnames, hnames']
  · simp [Assignment.displacesFrom]
  · simp [Assignment.displacesFrom, (hne name hname table' htable').symm]
  · simp [Assignment.displacesFrom, hne name' hname' table htable]
  · simp [Assignment.displacesFrom]

theorem displaces_of_fits {a : Assignment} (h : Fits a) (key : Key) : a.displaces key.names = false := by
  rcases h with ⟨other, text, rfl⟩ | ⟨name, rfl⟩
  · exact displaces_of_key key other text
  · rcases key.names_cases with ⟨name, -, hnames⟩ | ⟨table, -, name, hnames⟩ <;>
      rw [hnames] <;> simp [Assignment.displaces, Assignment.displacesFrom]

theorem fits_of_mem_defaults {a : Assignment} (h : a ∈ defaults) : Fits a := by
  simp only [defaults, List.mem_cons, List.not_mem_nil, or_false] at h
  rcases h with rfl | rfl | rfl | rfl | rfl | rfl | rfl | rfl | rfl | rfl | rfl
  · exact Or.inl ⟨.format, "github", rfl⟩
  · exact Or.inl ⟨.header, "", rfl⟩
  · exact Or.inl ⟨.headerFile, "", rfl⟩
  · exact Or.inl ⟨.footer, "", rfl⟩
  · exact Or.inl ⟨.footerFile, "", rfl⟩
  · exact Or.inl ⟨.docHost, defaultDocHost, rfl⟩
  · exact Or.inr ⟨"template", rfl⟩
  · exact Or.inr ⟨"template_file", rfl⟩
  · exact Or.inl ⟨.url, "", rfl⟩
  · exact Or.inl ⟨.defaultBranch, "main", rfl⟩
  · exact Or.inl ⟨.path, "/", rfl⟩

/-- Layers that only give texts to settings displace none. -/
theorem displaced_of_fits {layers : List Layer} (h : ∀ l ∈ layers, ∀ a ∈ l.assignments, Fits a)
    (key : Key) : displaced key.names (assigned layers) = false := by
  unfold displaced
  rw [List.any_eq_false]
  intro a ha
  have hmem : a ∈ assigned layers := (List.rtakeWhile_suffix _ _).subset ha
  have hfits : Fits a := by
    rw [← flatten_batches, List.mem_flatten] at hmem
    obtain ⟨as, has, ha⟩ := hmem
    rcases exists_layer_of_mem_batches has ha with ha | ⟨l, hl, ha⟩
    · exact fits_of_mem_defaults ha
    · exact h l hl a ha
  rw [displaces_of_fits hfits]
  decide

/-! ## Loaded settings -/

theorem exists_default {key : Key} (h : key.names.head? = some "repository") :
    ∃ text, key.value? {} = some text := by
  cases key with
  | template name => exact absurd h (by simp [Key.names])
  | templateFile name => exact absurd h (by simp [Key.names])
  | _ => exact ⟨_, rfl⟩

/-- The defaults settle every setting. -/
theorem settles_defaults (key : Key) : Settles key.names defaults := by
  cases key with
  | template name => exact Or.inl (text?_defaults_entry (by decide) name)
  | templateFile name => exact Or.inl (text?_defaults_entry (by decide) name)
  | _ => exact Or.inr (by decide)

theorem Key.IsSettled.of_mem_batches {key : Key} {layers : List Layer} (h : key.IsSettled layers)
    {as : List Assignment} (has : as ∈ batches layers) : Settles key.names as := by
  rcases mem_batches.1 has with rfl | ⟨l, hl, rfl⟩ | rfl
  · exact settles_defaults key
  · exact h.files l hl
  · exact h.overrides

section

variable {layers : List Layer} {order : Arrangement} {s : Settings} {key : Key}

/-- In no batch does the order matter to a setting that is settled. -/
theorem textAt_loadedTree (h : key.IsSettled layers) (order : Arrangement) :
    textAt key.names (loadedTree layers order) =
      (assigned layers).foldl (textAfter key.names) none := by
  have hentries : ∀ a ∈ (batches layers).flatMap order.arrange, a.leaf.entries = [] := by
    intro a ha
    obtain ⟨as, has, ha⟩ := List.mem_flatMap.1 ha
    exact entries_of_mem_batches has ((order.perm as).mem_iff.1 ha)
  have hfold : ∀ (bs : List (List Assignment)) (old : Option String),
      (∀ as ∈ bs, Settles key.names as) → (bs.flatMap order.arrange).foldl (textAfter key.names) old =
        bs.flatten.foldl (textAfter key.names) old := by
    intro bs
    induction bs with
    | nil => exact fun _ _ => rfl
    | cons as bs ih =>
      intro old hbs
      rw [List.forall_mem_cons] at hbs
      rw [List.flatMap_cons, List.flatten_cons, List.foldl_append, List.foldl_append,
        foldl_textAfter_perm hbs.1 (order.perm as), ih _ hbs.2]
  rw [loadedTree, textAt_ofAssignments hentries, hfold _ _ fun as has => h.of_mem_batches has,
    flatten_batches]

/-- The text of a setting that is loaded, unless the repository is a list. -/
theorem value?_of_load? (h : load? layers order = some s) (hsettled : key.IsSettled layers) :
    (key.value? s = if displaced key.names (assigned layers) then none
        else lastText key.names (assigned layers)) ∨
      displaced key.names (assigned layers) = true ∧ key.names.head? = some "repository" ∧
        ∃ items, (loadedTree layers order).get "repository" = .list items := by
  have htext : textAt key.names (loadedTree layers order) = _ :=
    (textAt_loadedTree hsettled order).trans (foldl_textAfter _ _)
  rcases value?_of_ofSetting? (ofSetting?_of_load? h) key with hvalue | ⟨htable, hnone, hlist⟩
  · exact Or.inl (hvalue.symm.trans htext)
  · -- a setting with a default has a text, so this one is displaced
    refine Or.inr ⟨?_, htable, hlist⟩
    by_contra hkept
    obtain ⟨text, hdefault⟩ := exists_default htable
    rw [hnone, if_neg hkept, lastText_assigned, hdefault] at htext
    simp at htext

theorem value?_of_kept (h : load? layers order = some s) (hsettled : key.IsSettled layers)
    (hkept : displaced key.names (assigned layers) = false) :
    key.value? s = lastText key.names (assigned layers) := by
  rcases value?_of_load? h hsettled with hvalue | ⟨hdisplaced, -⟩
  · rw [hvalue, hkept]
    rfl
  · rw [hkept] at hdisplaced
    cases hdisplaced

/-- A setting has the value of the last override of its key. -/
theorem value?_of_override (h : load? layers order = some s) (hsettled : key.IsSettled layers)
    (hplain : key.IsPlain) {before after : List Layer} {value : String}
    (hlayers : layers = before ++ .override key.text (.scalar value) :: after)
    (hlast : ∀ l ∈ after, l.path? ≠ some (key.names.map .entry)) : key.value? s = some value := by
  have hmem : Layer.override key.text (.scalar value) ∈ overrides layers := by
    rw [hlayers]
    refine mem_overrides rfl fun l hl => ?_
    rw [path?_override hplain]
    exact hlast l hl
  have htext : textAt key.names (loadedTree layers order) = some value := by
    rw [textAt_loadedTree hsettled, assigned, List.foldl_append, List.foldl_append]
    refine foldl_textAfter_of_mem hsettled.overrides (a := ⟨key.names.map .entry, .scalar value⟩)
      (List.mem_flatMap.2 ⟨_, hmem, ?_⟩) ?_ _
    · rw [assignments_override hplain]
      exact List.mem_singleton.2 rfl
    · rw [Assignment.text?, if_pos rfl]
      rfl
  rcases value?_of_ofSetting? (ofSetting?_of_load? h) key with hvalue | ⟨-, hnone, -⟩
  · exact hvalue.symm.trans htext
  · rw [hnone] at htext
    cases htext

end

section

variable {before : List Layer} {l : Layer}
  (hnew : l.isOverride = true → ∀ x ∈ before, x.isOverride = true → x.path? ≠ l.path?)
include hnew

/-- The assignments of a layer stand in one piece, or count for nothing. -/
theorem exists_assigned_eq (after : List Layer) : ∃ xs as ys, as ⊆ l.assignments ∧
    assigned (before ++ l :: after) = xs ++ (as ++ ys) ∧ assigned (before ++ after) = xs ++ ys := by
  have hfiles : l.isOverride = true → files (before ++ l :: after) = files (before ++ after) :=
    fun hl => by simp [files, hl]
  rcases overrides_remove after hnew with hsame | ⟨hl, front, back, hwith, hwithout⟩
  · unfold assigned
    rw [hsame]
    cases hl : l.isOverride with
    | true =>
      refine ⟨assigned (before ++ after), [], [], List.nil_subset _, ?_, ?_⟩ <;>
        simp [assigned, hfiles hl]
    | false =>
      refine ⟨defaults ++ (files before).flatMap Layer.assignments, l.assignments,
        (files after).flatMap Layer.assignments ++ (overrides (before ++ after)).flatMap Layer.assignments,
        List.Subset.refl _, ?_, ?_⟩ <;> simp [files, hl]
  · unfold assigned
    rw [hwith, hwithout, hfiles hl]
    refine ⟨defaults ++ ((files (before ++ after)).flatMap Layer.assignments ++
      front.flatMap Layer.assignments), l.assignments, back.flatMap Layer.assignments,
      List.Subset.refl _, ?_, ?_⟩ <;> simp

theorem Key.IsSettled.remove {after : List Layer} {key : Key} (h : key.IsSettled (before ++ l :: after)) :
    key.IsSettled (before ++ after) where
  files := fun x hx => h.files x (by
    obtain ⟨hx, hfile⟩ := List.mem_filter.1 hx
    refine List.mem_filter.2 ⟨?_, hfile⟩
    rcases List.mem_append.1 hx with hx | hx
    · exact List.mem_append_left _ hx
    · exact List.mem_append_right _ (List.mem_cons_of_mem l hx))
  overrides := by
    rcases overrides_remove after hnew with hsame | ⟨-, front, back, hwith, hwithout⟩
    · rw [← hsame]
      exact h.overrides
    · refine h.overrides.of_sublist ?_
      rw [hwith, hwithout, List.flatMap_append, List.flatMap_append, List.flatMap_cons]
      exact List.Sublist.append_left (List.sublist_append_right _ _) _

/-- A setting does not depend on layers that do not reach it. -/
theorem value?_remove {after : List Layer} {key : Key} {order order' : Arrangement} {s s' : Settings}
    (h : load? (before ++ l :: after) order = some s) (h' : load? (before ++ after) order' = some s')
    (hsettled : key.IsSettled (before ++ l :: after))
    (hkept : displaced key.names (assigned (before ++ l :: after)) = false)
    (hframe : ∀ a ∈ l.assignments, a.reaches key.names = false) : key.value? s' = key.value? s := by
  obtain ⟨xs, as, ys, hsub, hwith, hwithout⟩ := exists_assigned_eq hnew after
  have has : ∀ a ∈ as, a.reaches key.names = false := fun a ha => hframe a (hsub ha)
  rw [value?_of_kept h hsettled hkept]
  rw [hwith, displaced_frame has, ← hwithout] at hkept
  rw [value?_of_kept h' (hsettled.remove hnew) hkept, hwith, lastText_frame has, ← hwithout]

end

/-- **Settings are resolved key by key.** Take a setting that is settled. It has the value of the last
override of its key if there is one. In any case it has the text of the last override that gives it one, or
else of the last file that does, or else its default, unless a layer displaces it after that. A layer that
does not reach it and replaces no other override has no influence on it. -/
theorem value?_eq_last_override_or_file_or_default {layers : List Layer} {order : Arrangement}
    {s : Settings} (h : load? layers order = some s) (key : Key) (hsettled : key.IsSettled layers) :
    (key.IsPlain → ∀ before value after,
      layers = before ++ .override key.text (.scalar value) :: after →
      (∀ l ∈ after, l.path? ≠ some (key.names.map .entry)) → key.value? s = some value) ∧
    (displaced key.names (assigned layers) = false →
      key.value? s = ((overrides layers).filterMap (·.text? key)).getLast?.or
        (((files layers).filterMap (·.text? key)).getLast?.or (key.value? {})) ∧
      ∀ before l after order' s', layers = before ++ l :: after →
        (l.isOverride = true → ∀ x ∈ before, x.isOverride = true → x.path? ≠ l.path?) →
        (∀ a ∈ l.assignments, a.reaches key.names = false) →
        load? (before ++ after) order' = some s' → key.value? s' = key.value? s) ∧
    (displaced key.names (assigned layers) = true → key.value? s = none ∨
      key.names.head? = some "repository" ∧
        ∃ items, (loadedTree layers order).get "repository" = .list items) ∧
    ((∀ l ∈ layers, ∀ a ∈ l.assignments, Fits a) → displaced key.names (assigned layers) = false) ∧
    ∀ others, files others = files layers → overrides others = overrides layers →
      load? others order = some s := by
  refine ⟨fun hplain before value after => value?_of_override h hsettled hplain, fun hkept => ?_,
    fun hdisplaced => ?_, fun hfits => displaced_of_fits hfits key,
    fun others hfiles hoverrides => (load?_congr hfiles hoverrides order).trans h⟩
  · refine ⟨(value?_of_kept h hsettled hkept).trans (lastText_assigned key layers), ?_⟩
    rintro before l after order' s' rfl hnew hframe h'
    exact value?_remove hnew h h' hsettled hkept hframe
  · rcases value?_of_load? h hsettled with hvalue | ⟨-, hlist⟩
    · left
      rw [hvalue, hdisplaced]
      rfl
    · exact Or.inr hlist

-- no layers at all leave the defaults
example : load? [] = some {} := by decide +kernel

/-- Two overrides that reach one setting with different keys. -/
def rivalLayers : List Layer :=
  [.override "template.index" (.scalar "a"), .override "template.Index" (.scalar "b")]

/-- The order in which assignments are written, from the end. -/
def Arrangement.backward : Arrangement :=
  ⟨List.reverse, List.reverse_perm⟩

-- of two overrides with different keys either can be the one that counts
example : load? rivalLayers = some { template := [("index", "b")] } ∧
    load? rivalLayers .backward = some { template := [("index", "a")] } := by
  constructor <;> decide +kernel

/-- Files and overrides in turns, one file of which is not there, and one key that is overridden twice. -/
def mixedLayers : List Layer :=
  [.override "template.index" (.scalar "n"),
   .file true (some "[template]\nindex = \"f\"\n[repository]\nurl = \"a\""),
   .override "template.index" (.scalar "o"),
   .file false none,
   .override "repository.path" (.scalar "/docs"),
   .file true (some "[repository]\nurl = \"b\"")]

def mixedSettings : Settings :=
  { template := [("index", "o")], repository := { url := "b", path := "/docs" } }

theorem value?_eq_last_override_or_file_or_default_mixed :
    load? mixedLayers .backward = some mixedSettings ∧
      Key.url.IsSettled mixedLayers ∧ (Key.template "index").IsSettled mixedLayers ∧
      displaced Key.url.names (assigned mixedLayers) = false ∧
      (overrides mixedLayers).filterMap (·.text? .url) = [] ∧
      (files mixedLayers).filterMap (·.text? .url) = ["a", "b"] ∧
      Key.url.value? mixedSettings = ((overrides mixedLayers).filterMap (·.text? .url)).getLast?.or
        (((files mixedLayers).filterMap (·.text? .url)).getLast?.or (Key.url.value? {})) ∧
      (Key.template "index").value? mixedSettings = some "o" := by
  have hload : load? mixedLayers .backward = some mixedSettings := by decide +kernel
  have hurl : Key.url.IsSettled mixedLayers := by
    refine ⟨fun l hl => Or.inr ?_, Or.inr (by decide +kernel)⟩
    have hfiles : (files mixedLayers).all fun l =>
      Nat.ble (l.assignments.countP (·.reaches Key.url.names)) 1 := by decide +kernel
    exact Nat.le_of_ble_eq_true (List.all_eq_true.1 hfiles l hl)
  have hindex : (Key.template "index").IsSettled mixedLayers := by
    refine ⟨fun l hl => Or.inr ?_, Or.inr (by decide +kernel)⟩
    have hfiles : (files mixedLayers).all fun l =>
      Nat.ble (l.assignments.countP (·.reaches (Key.template "index").names)) 1 := by decide +kernel
    exact Nat.le_of_ble_eq_true (List.all_eq_true.1 hfiles l hl)
  have hkept : displaced Key.url.names (assigned mixedLayers) = false := by decide +kernel
  have hplain : (Key.template "index").IsPlain := by
    simp [Key.IsPlain, Key.names, IsPlainName, isPlainChar]
  obtain ⟨-, hvalue, -⟩ := value?_eq_last_override_or_file_or_default hload .url hurl
  obtain ⟨hover, -⟩ := value?_eq_last_override_or_file_or_default hload (.template "index") hindex
  refine ⟨hload, hurl, hindex, hkept, by decide +kernel, by decide +kernel, (hvalue hkept).1, ?_⟩
  exact hover hplain (mixedLayers.take 2) "o" (mixedLayers.drop 3) rfl (by decide +kernel)

/-- A text in the place of a table, between two files that have the table. -/
def displacingLayers : List Layer :=
  [.file true (some "[template]\nindex = \"z\""), .file true (some "template = \"x\""),
   .file true (some "[template]\nimport = \"y\"")]

/-- The last file that sets a template is not always heard. -/
theorem load?_displacing :
    load? displacingLayers = some { template := [("import", "y")] } ∧
      (overrides displacingLayers).filterMap (·.text? (.template "index")) = [] ∧
      (files displacingLayers).filterMap (·.text? (.template "index")) = ["z"] ∧
      (Key.template "index").value? { template := [("import", "y")] } = none := by
  refine ⟨?_, ?_, ?_, ?_⟩ <;> decide +kernel

end DocPages.Settings
