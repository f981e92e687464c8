import DocPages.Proofs.Page.Parts
import DocPages.Proofs.Text.Lines
import Mathlib.Data.List.Count
import Mathlib.Data.List.Nodup

/-!
# Where examples are shown

Every function, type and method of a page, and the page itself, picks the examples that are named after
it. They do so one by one, and yet no example is shown twice: it is shown by what its subject names, and
nowhere if its subject is not declared (`countP_exampleLists`).

1. Each list of examples is what its owner takes of the examples of the package, in order
   (`map_exampleLists`), and the page shows just these lists (`forall₂_exampleLists`).
2. A subject takes an example if its parts between underscores are the first parts of the name
   (`takes_iff`).
3. So a type and its methods together take what the type would take alone (`countP_methods`), and
   counting the owners that take a name counts how often its first part is declared (`countP_owners`).
-/

namespace DocPages

open Text

namespace Source

/-- The names of functions and types. -/
def Package.subjects (p : Package) : List String :=
  p.funcs.map (·.name) ++ p.types.flatMap fun t => t.name :: t.funcs.map (·.name)

/-- A name that can be told from what follows it in the name of an example. -/
def IsSubject (name : String) : Prop :=
  name ≠ "" ∧ '_' ∉ name.toList

instance : DecidablePred IsSubject := fun name => by unfold IsSubject; infer_instance

/-- Functions and types have different names, and so have the methods of a type. Functions have no
receiver, and methods that of their type. -/
structure Package.DistinctSubjects (p : Package) : Prop where
  isSubject : ∀ n ∈ p.subjects, IsSubject n
  nodup : p.subjects.Nodup
  funcs : ∀ f ∈ p.funcs, f.recv = ""
  typeFuncs : ∀ t ∈ p.types, ∀ f ∈ t.funcs, f.recv = ""
  methods : ∀ t ∈ p.types, ∀ m ∈ t.methods, IsSubject m.name ∧ dropStars m.recv = t.name
  nodupMethods : ∀ t ∈ p.types, (t.methods.map (·.name)).Nodup

instance (p : Package) : Decidable p.DistinctSubjects :=
  decidable_of_iff ((∀ n ∈ p.subjects, IsSubject n) ∧ p.subjects.Nodup ∧ (∀ f ∈ p.funcs, f.recv = "") ∧
      (∀ t ∈ p.types, ∀ f ∈ t.funcs, f.recv = "") ∧
      (∀ t ∈ p.types, ∀ m ∈ t.methods, IsSubject m.name ∧ dropStars m.recv = t.name) ∧
      ∀ t ∈ p.types, (t.methods.map (·.name)).Nodup)
    ⟨fun ⟨isSubject, nodup, funcs, typeFuncs, methods, nodupMethods⟩ =>
      ⟨isSubject, nodup, funcs, typeFuncs, methods, nodupMethods⟩,
      fun h => ⟨h.isSubject, h.nodup, h.funcs, h.typeFuncs, h.methods, h.nodupMethods⟩⟩

/-- The part of a name in front of its first underscore. -/
def firstPart (name : String) : String :=
  String.ofList (name.toList.takeWhile (· != '_'))

/-- The name is empty or starts with an underscore, or its first part names a function or type. -/
def Package.HasSubject (p : Package) (name : String) : Prop :=
  name = "" ∨ name.toList.head? = some '_' ∨ firstPart name ∈ p.subjects

instance (p : Package) : DecidablePred p.HasSubject := fun name => by
  unfold Package.HasSubject; infer_instance

end Source

namespace Page

/-! ## Lists of examples -/

/-- The examples of a function or method. -/
def funcExamples (examples : List Source.Example) (f : Source.Func) : List (String × Source.Example) :=
  examplesOf (funcSubject f) examples

/-- The examples that each entity of a package picks: the package, its functions, and each type with its
functions and methods. -/
def exampleLists (src : Source.Package) : List (List (String × Source.Example)) :=
  examplesOf "" src.examples :: (src.funcs.map (funcExamples src.examples) ++
    src.types.flatMap fun t =>
      typeExamples t src.examples :: (t.funcs ++ t.methods).map (funcExamples src.examples))

/-- The examples that each entity of a page shows. -/
def Package.exampleLists (p : Package) : List (List Example) :=
  p.examples :: (p.funcs.map (·.examples) ++
    p.types.flatMap fun t => t.examples :: (t.funcs ++ t.methods).map (·.examples))

/-- Whether a subject takes an example of a given name. -/
def takes (subject name : String) : Bool :=
  (suffix? subject name).isSome

/-- Whether a type itself takes an example of a given name: it leaves to its methods what is theirs. -/
def typeTakes (t : Source.TypeDecl) (name : String) : Bool :=
  takes t.name name && !isMethodExample t name

/-- Whether a type, its functions and its methods take an example of a given name. -/
def typeOwners (t : Source.TypeDecl) : List (String → Bool) :=
  typeTakes t :: (t.funcs ++ t.methods).map fun f => takes (funcSubject f)

/-- Whether the owner of each list takes an example of a given name. -/
def owners (src : Source.Package) : List (String → Bool) :=
  takes "" :: (src.funcs.map (fun f => takes (funcSubject f)) ++ src.types.flatMap typeOwners)

theorem map_examplesOf (subject : String) (examples : List Source.Example) :
    (examplesOf subject examples).map (·.2) = examples.filter fun e => takes subject e.name := by
  unfold examplesOf takes
  induction examples with
  | nil => rfl
  | cons e es ih =>
    rw [List.filterMap_cons, List.filter_cons]
    cases suffix? subject e.name with
    | none => simpa using ih
    | some suffix => simpa using ih

theorem map_typeExamples (t : Source.TypeDecl) (examples : List Source.Example) :
    (typeExamples t examples).map (·.2) = examples.filter fun e => typeTakes t e.name := by
  have hfilter : typeExamples t examples =
      (examplesOf t.name examples).filter ((fun e => !isMethodExample t e.name) ∘ (·.2)) := rfl
  rw [hfilter, ← List.filter_map, map_examplesOf, List.filter_filter]
  simp only [typeTakes, Bool.and_comm]

/-- Each list holds the examples that its owner takes, in the order of the package. -/
theorem map_exampleLists (src : Source.Package) :
    (exampleLists src).map (·.map (·.2)) =
      (owners src).map fun owner => src.examples.filter fun e => owner e.name := by
  simp only [exampleLists, owners, typeOwners, List.map_cons, List.map_append, List.map_flatMap,
    List.map_map, map_examplesOf, map_typeExamples, Function.comp_def, funcExamples]

/-! ## Parts of a name -/

/-- The parts of a name between underscores. -/
def parts (name : String) : List (List Char) :=
  name.toList.splitOn '_'

theorem parts_append_underscore (a b : String) : parts (a ++ "_" ++ b) = parts a ++ parts b := by
  unfold parts
  rw [String.toList_append, String.toList_append, List.append_assoc]
  exact List.splitOnP_append_cons a.toList b.toList (by decide)

theorem parts_of_not_mem {name : String} (h : '_' ∉ name.toList) : parts name = [name.toList] :=
  List.splitOn_eq_singleton h

theorem parts_eq_cons (name : String) :
    ∃ rest, parts name = name.toList.takeWhile (· != '_') :: rest :=
  exists_splitOn_eq_cons '_' name.toList

theorem intercalate_parts (name : String) : ['_'].intercalate (parts name) = name.toList :=
  List.intercalate_splitOn '_'

/-- A subject takes the names that start with its parts. -/
theorem takes_iff (subject name : String) : takes subject name = true ↔ parts subject <+: parts name := by
  unfold takes suffix?
  by_cases hname : name = subject
  · rw [if_pos hname, hname]
    exact iff_of_true rfl (List.prefix_refl _)
  rw [if_neg hname, Option.isSome_map, isSome_dropFront?]
  constructor
  · rintro ⟨rest, hrest⟩
    have heq : name = subject ++ "_" ++ String.ofList rest := by
      rw [← String.toList_inj, String.toList_append, String.toList_ofList, hrest]
    rw [heq, parts_append_underscore]
    exact List.prefix_append _ _
  -- parts are put together with underscores, so the next part stands behind one
  · rintro ⟨rest, hrest⟩
    have hjoin := congrArg (['_'].intercalate ·) hrest
    simp only [intercalate_parts] at hjoin
    rcases rest with _ | ⟨part, rest⟩
    · rw [List.append_nil, intercalate_parts, String.toList_inj] at hjoin
      exact absurd hjoin.symm hname
    · have hne : parts subject ≠ [] := List.splitOnP_ne_nil _ _
      rw [intercalate_append_cons hne, intercalate_parts] at hjoin
      exact ⟨['_'].intercalate (part :: rest), by rw [String.toList_append]; exact hjoin⟩

theorem takes_of_not_mem {subject : String} (h : '_' ∉ subject.toList) (name : String) :
    takes subject name = (subject == Source.firstPart name) := by
  obtain ⟨rest, hrest⟩ := parts_eq_cons name
  rw [Bool.eq_iff_iff, takes_iff, parts_of_not_mem h, hrest, List.cons_prefix_cons,
    and_iff_left List.nil_prefix, beq_iff_eq, Source.firstPart, ← String.toList_inj, String.toList_ofList]

theorem takes_member_iff {type method : String} (htype : '_' ∉ type.toList)
    (hmethod : '_' ∉ method.toList) (name : String) :
    takes (type ++ "_" ++ method) name = true ↔ [type.toList, method.toList] <+: parts name := by
  rw [takes_iff, parts_append_underscore, parts_of_not_mem htype, parts_of_not_mem hmethod,
    List.singleton_append]

theorem firstPart_eq_empty_iff (name : String) :
    Source.firstPart name = "" ↔ name = "" ∨ name.toList.head? = some '_' := by
  rw [Source.firstPart, ← String.toList_inj, ← String.toList_inj, String.toList_ofList]
  cases name.toList with
  | nil => simp
  | cons c cs =>
    by_cases hc : c = '_'
    · simp [hc]
    · simp [hc]

theorem hasSubject_iff (src : Source.Package) (name : String) :
    src.HasSubject name ↔ Source.firstPart name ∈ "" :: src.subjects := by
  rw [Source.Package.HasSubject, List.mem_cons, firstPart_eq_empty_iff, or_assoc]

/-! ## Counting owners -/

theorem funcSubject_of_recv_empty {f : Source.Func} (h : f.recv = "") : funcSubject f = f.name := by
  unfold funcSubject
  rw [h]
  rfl

theorem funcSubject_of_recv {f : Source.Func} (h : f.recv ≠ "") :
    funcSubject f = dropStars f.recv ++ "_" ++ f.name := by
  unfold funcSubject
  rw [if_neg]
  simpa using h

theorem countP_funcs {funcs : List Source.Func} (hrecv : ∀ f ∈ funcs, f.recv = "")
    (hsubject : ∀ f ∈ funcs, Source.IsSubject f.name) (name : String) :
    funcs.countP (fun f => takes (funcSubject f) name) =
      (funcs.map (·.name)).count (Source.firstPart name) := by
  rw [List.count, List.countP_map]
  apply List.countP_congr
  intro f hf
  rw [funcSubject_of_recv_empty (hrecv f hf), takes_of_not_mem (hsubject f hf).2]
  rfl

section Distinct

variable {src : Source.Package} (h : src.DistinctSubjects)
include h

theorem isSubject_of_mem_types {t : Source.TypeDecl} (ht : t ∈ src.types) : Source.IsSubject t.name :=
  h.isSubject t.name (List.mem_append_right _ (List.mem_flatMap.2 ⟨t, ht, List.mem_cons_self⟩))

theorem funcSubject_of_mem_methods {t : Source.TypeDecl} (ht : t ∈ src.types) {m : Source.Func}
    (hm : m ∈ t.methods) : funcSubject m = t.name ++ "_" ++ m.name := by
  have hrecv := (h.methods t ht m hm).2
  rw [funcSubject_of_recv, hrecv]
  intro hempty
  rw [hempty] at hrecv
  exact (isSubject_of_mem_types h ht).1 hrecv.symm

theorem isMethodExample_eq_any {t : Source.TypeDecl} (ht : t ∈ src.types) (name : String) :
    isMethodExample t name = t.methods.any fun m => takes (funcSubject m) name := by
  rw [isMethodExample, Bool.eq_iff_iff, List.any_eq_true, List.any_eq_true]
  refine exists_congr fun m => and_congr_right fun hm => ?_
  rw [funcSubject_of_mem_methods h ht hm]
  rfl

/-- At most one method of a type takes an example: the one that the second part names. -/
theorem countP_methods_le_one {t : Source.TypeDecl} (ht : t ∈ src.types) (name : String) :
    t.methods.countP (fun m => takes (funcSubject m) name) ≤ 1 := by
  have hsecond : ∀ m ∈ t.methods, takes (funcSubject m) name = true →
      (parts name)[1]? = some m.name.toList := by
    intro m hm htakes
    rw [funcSubject_of_mem_methods h ht hm,
      takes_member_iff (isSubject_of_mem_types h ht).2 (h.methods t ht m hm).1.2] at htakes
    obtain ⟨rest, hrest⟩ := htakes
    rw [← hrest]
    rfl
  calc t.methods.countP (fun m => takes (funcSubject m) name)
      ≤ t.methods.countP (fun m => m.name == String.ofList ((parts name)[1]?.getD [])) := by
        apply List.countP_mono_left
        intro m hm htakes
        rw [hsecond m hm htakes]
        simp
    _ = (t.methods.map (·.name)).count (String.ofList ((parts name)[1]?.getD [])) := by
        rw [List.count, List.countP_map]
        rfl
    _ ≤ 1 := List.nodup_iff_count_le_one.1 (h.nodupMethods t ht) _

/-- A type and its methods together take an example once if the type would, and not at all otherwise. -/
theorem countP_methods {t : Source.TypeDecl} (ht : t ∈ src.types) (name : String) :
    (if typeTakes t name = true then 1 else 0) + t.methods.countP (fun m => takes (funcSubject m) name) =
      if t.name = Source.firstPart name then 1 else 0 := by
  have htype := takes_of_not_mem (isSubject_of_mem_types h ht).2 name
  by_cases hany : ∃ m ∈ t.methods, takes (funcSubject m) name = true
  -- the type leaves the example to the method, which starts with the name of the type
  · have hmethod : isMethodExample t name = true := by
      rw [isMethodExample_eq_any h ht, List.any_eq_true]
      exact hany
    have hone : t.methods.countP (fun m => takes (funcSubject m) name) = 1 :=
      le_antisymm (countP_methods_le_one h ht name) (List.countP_pos_iff.2 hany)
    obtain ⟨m, hm, htakes⟩ := hany
    have hfirst : takes t.name name = true := by
      rw [funcSubject_of_mem_methods h ht hm, takes_iff, parts_append_underscore] at htakes
      exact (takes_iff _ _).2 ((List.prefix_append _ _).trans htakes)
    rw [htype, beq_iff_eq] at hfirst
    simp [typeTakes, hmethod, hone, hfirst]
  · have hmethod : isMethodExample t name = false := by
      rw [isMethodExample_eq_any h ht, List.any_eq_false]
      exact fun m hm htakes => hany ⟨m, hm, htakes⟩
    have hzero : t.methods.countP (fun m => takes (funcSubject m) name) = 0 :=
      List.countP_eq_zero.2 fun m hm htakes => hany ⟨m, hm, htakes⟩
    simp [typeTakes, hmethod, hzero, htype]

theorem countP_typeOwners {t : Source.TypeDecl} (ht : t ∈ src.types) (name : String) :
    (typeOwners t).countP (· name) = (t.name :: t.funcs.map (·.name)).count (Source.firstPart name) := by
  have hsubject : ∀ f ∈ t.funcs, Source.IsSubject f.name := fun f hf =>
    h.isSubject f.name (List.mem_append_right _ (List.mem_flatMap.2
      ⟨t, ht, List.mem_cons_of_mem _ (List.mem_map_of_mem hf)⟩))
  have hfuncs := countP_funcs (h.typeFuncs t ht) hsubject name
  have hmethods := countP_methods h ht name
  rw [typeOwners, List.countP_cons, List.countP_map, List.countP_append, List.count_cons]
  simp only [Function.comp_def, beq_iff_eq]
  omega

/-- An example is taken as often as its first part is declared, where the package itself counts as the
empty name. -/
theorem countP_owners (name : String) :
    (owners src).countP (· name) = ("" :: src.subjects).count (Source.firstPart name) := by
  have hpackage : takes "" name = ("" == Source.firstPart name) := takes_of_not_mem (by decide) name
  have hsubject : ∀ f ∈ src.funcs, Source.IsSubject f.name := fun f hf =>
    h.isSubject f.name (List.mem_append_left _ (List.mem_map_of_mem hf))
  have hfuncs := countP_funcs h.funcs hsubject name
  have htypes : (src.types.flatMap typeOwners).countP (· name) =
      (src.types.flatMap fun t => t.name :: t.funcs.map (·.name)).count (Source.firstPart name) := by
    rw [List.countP_flatMap, List.count_flatMap]
    exact congrArg List.sum (List.map_congr_left fun t ht => countP_typeOwners h ht name)
  rw [owners, Source.Package.subjects, List.countP_cons, List.countP_append, List.countP_map,
    List.count_cons, List.count_append, htypes]
  simp only [Function.comp_def, hfuncs, hpackage]

theorem nodup_subjects : ("" :: src.subjects).Nodup :=
  List.nodup_cons.2 ⟨fun hempty => (h.isSubject "" hempty).1 rfl, h.nodup⟩

end Distinct

/-! ## Examples on the page -/

/-- The example of a source under its suffix, in some scope. -/
def Shows (x : String × Source.Example) (e : Example) : Prop :=
  ∃ scope, ofExample scope x.1 x.2 = .ok e

theorem forall₂_ofExamples {scope : Scope} {examples : List (String × Source.Example)}
    {shown : List Example} (h : ofExamples scope examples = .ok shown) :
    List.Forall₂ Shows examples shown :=
  (forall₂_of_mapM h).imp fun _ _ hx => ⟨scope.deeper 1, hx⟩

theorem forall₂_ofFuncs {examples : List Source.Example} {scope : Scope} {funcs : List Source.Func}
    {shown : List Func} (h : funcs.mapM (ofFunc examples scope) = .ok shown) :
    List.Forall₂ (List.Forall₂ Shows) (funcs.map (funcExamples examples)) (shown.map (·.examples)) := by
  rw [List.forall₂_map_left_iff, List.forall₂_map_right_iff]
  refine (forall₂_of_mapM h).imp fun f shown hf => ?_
  obtain ⟨-, -, examples, hexamples, rfl⟩ := ofFunc_eq_ok.1 hf
  exact forall₂_ofExamples hexamples

/-- A page shows the examples that its entities pick, list by list. -/
theorem forall₂_exampleLists {outer : Scope} {src : Source.Package} {page : Package}
    (h : ofPackage outer src = .ok page) :
    List.Forall₂ (List.Forall₂ Shows) (exampleLists src) page.exampleLists := by
  obtain ⟨examples, hexamples, -, -, -, -, funcs, hfuncs, types, htypes, rfl⟩ := ofPackage_eq_ok.1 h
  refine .cons (forall₂_ofExamples hexamples) (List.rel_append (forall₂_ofFuncs hfuncs) ?_)
  refine List.rel_flatMap (forall₂_of_mapM htypes) fun t shown ht => ?_
  obtain ⟨-, -, -, -, -, -, examples, htype, typeFuncs, hfuncs, methods, hmethods, rfl⟩ :=
    ofType_eq_ok.1 ht
  rw [List.map_append, List.map_append]
  exact .cons (forall₂_ofExamples htype)
    (List.rel_append (forall₂_ofFuncs hfuncs) (forall₂_ofFuncs hmethods))

/-- An example is shown once if its subject is the package or declared there, and else not at all. All
lists keep the order of the source, and a page shows just these lists. -/
theorem countP_exampleLists {src : Source.Package} (h : src.DistinctSubjects) :
    (∀ e ∈ src.examples, (exampleLists src).countP (fun l => (l.map (·.2)).contains e) =
      if src.HasSubject e.name then 1 else 0) ∧
    (∀ l ∈ exampleLists src, ∃ owner : String → Bool,
      l.map (·.2) = src.examples.filter fun e => owner e.name) ∧
    ∀ outer page, ofPackage outer src = .ok page →
      List.Forall₂ (List.Forall₂ Shows) (exampleLists src) page.exampleLists := by
  refine ⟨?_, ?_, fun outer page hpage => forall₂_exampleLists hpage⟩
  · intro e he
    have hlists : (exampleLists src).countP (fun l => (l.map (·.2)).contains e) =
        ((exampleLists src).map (·.map (·.2))).countP (·.contains e) := by
      rw [List.countP_map]
      rfl
    have howners : ((owners src).map fun owner => src.examples.filter fun e => owner e.name).countP
        (·.contains e) = (owners src).countP (· e.name) := by
      rw [List.countP_map]
      apply List.countP_congr
      intro owner _
      simp [he]
    rw [hlists, map_exampleLists, howners, countP_owners h, (nodup_subjects h).count]
    simp only [hasSubject_iff]
  · intro l hl
    have hmem := List.mem_map_of_mem (f := fun l : List (String × Source.Example) => l.map (·.2)) hl
    rw [map_exampleLists] at hmem
    obtain ⟨owner, -, howner⟩ := List.mem_map.1 hmem
    exact ⟨owner, howner.symm⟩

/-- One method name starts like another, and one example is named after a method that is not declared. -/
def cache : Source.Package :=
  { funcs := [{ name := "Get", decl := "func Get()" }]
    types := [
      { name := "Cache"
        decl := "type Cache"
        funcs := [{ name := "New", decl := "func New() *Cache" }]
        methods := [
          { name := "Get", recv := "*Cache", decl := "func (c *Cache) Get()" },
          { name := "GetAll", recv := "Cache", decl := "func (c Cache) GetAll()" }] }]
    examples := [
      "Cache_GetAll", "Cache_Get_twice", "_Get", "Cache_get", "Get_All", "Put", "Cache_Get", ""].map
        fun name => { name, code := "run()" } }

theorem countP_exampleLists_cache :
    cache.DistinctSubjects ∧ (exampleLists cache).map (·.map (·.2.name)) =
      [["_Get", ""], ["Get_All"], ["Cache_get"], [], ["Cache_Get_twice", "Cache_Get"], ["Cache_GetAll"]] ∧
    (∀ e ∈ cache.examples, (exampleLists cache).countP (fun l => (l.map (·.2)).contains e) =
      if cache.HasSubject e.name then 1 else 0) ∧
    ∃ page, ofPackage {} cache = .ok page ∧
      List.Forall₂ (List.Forall₂ Shows) (exampleLists cache) page.exampleLists := by
  have hdistinct : cache.DistinctSubjects := by decide +kernel
  obtain ⟨hcount, -, hshown⟩ := countP_exampleLists hdistinct
  obtain ⟨page, hpage⟩ : ∃ page, ofPackage {} cache = .ok page := ⟨_, rfl⟩
  exact ⟨hdistinct, by decide +kernel, hcount, page, hpage, hshown {} page hpage⟩

end Page

end DocPages
