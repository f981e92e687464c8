import DocPages.Proofs.Source.ParentChain
import DocPages.Proofs.Text.Lines
import Mathlib.Data.List.Pairwise

/-!
# Where declared names lead

A declaration is the list of the names that it declares together: a group of constants or variables, or
the one name of a function or type. Its names are documented under the first one, its leader. In a
package that declares no name twice every name leads there, with one exception: the blank name may be
declared many times, and a group that it leads is found through the last declaration of it
(`resolve?_ofPackage`).

1. What stands under a name is its symbol in the last declaration of the name (`rel_get?_ofPackage`).
   Entering symbols and declaring names go in step (`Follows`), list by list.
2. A name that is declared once stands for its own declaration (`get?_of_mem_declarations`), and a method
   or field for itself (`get?_of_isMember`).
3. A chain of parents has at most two steps, and two only if it passes through the blank name
   (`anchor_of_root`, `anchor_of_child`, `anchor_of_grandchild`).
-/

namespace DocPages

open Text

/-- The name of what is declared and cannot be referred to. -/
def blankName : String := "_"

/-! ## Declarations -/

namespace Source

/-- The package-level declarations of a type. -/
def TypeDecl.declarations (t : TypeDecl) : List (List String) :=
  [[t.name]] ++ t.funcs.map (fun f => [f.name]) ++ t.consts.map (·.names) ++ t.vars.map (·.names)

/-- The package-level declarations of a package, in the order in which they are entered. -/
def Package.declarations (p : Package) : List (List String) :=
  p.consts.map (·.names) ++ p.vars.map (·.names) ++ p.funcs.map (fun f => [f.name])
    ++ p.types.flatMap TypeDecl.declarations

/-- The names of what belongs to a type. -/
def TypeDecl.memberNames (t : TypeDecl) : List String :=
  t.methods.map (·.name) ++ t.fields

/-- All groups of constants and variables. -/
def Package.groups (p : Package) : List Value :=
  p.consts ++ p.vars ++ p.types.flatMap fun t => t.consts ++ t.vars

/-- All functions other than methods. -/
def Package.functions (p : Package) : List Func :=
  p.funcs ++ p.types.flatMap (·.funcs)

/-- The leader of the last declaration of the blank name. -/
def Package.blankLeader? (p : Package) : Option String :=
  (p.declarations.reverse.find? (·.contains blankName)).map (·.headD "")

/-- Names are plain, as identifiers are. None other than the blank name is declared twice in the package,
and none belongs twice to a type. -/
structure Package.DistinctlyNamed (p : Package) : Prop where
  plain : ∀ names ∈ p.declarations, ∀ n ∈ names, IsPlainName n
  plainMembers : ∀ t ∈ p.types, ∀ n ∈ t.memberNames, IsPlainName n
  nodup : (p.declarations.flatten.filter (· != blankName)).Nodup
  nodupMembers : ∀ t ∈ p.types, (t.memberNames.filter (· != blankName)).Nodup

instance (p : Package) : Decidable p.DistinctlyNamed :=
  decidable_of_iff ((∀ names ∈ p.declarations, ∀ n ∈ names, IsPlainName n) ∧
      (∀ t ∈ p.types, ∀ n ∈ t.memberNames, IsPlainName n) ∧
      (p.declarations.flatten.filter (· != blankName)).Nodup ∧
      ∀ t ∈ p.types, (t.memberNames.filter (· != blankName)).Nodup)
    ⟨fun ⟨plain, plainMembers, nodup, nodupMembers⟩ => ⟨plain, plainMembers, nodup, nodupMembers⟩,
      fun h => ⟨h.plain, h.plainMembers, h.nodup, h.nodupMembers⟩⟩

end Source

/-! ## References -/

theorem toList_member (receiver name : String) :
    (receiver ++ "." ++ name).toList = receiver.toList ++ '.' :: name.toList := by
  simp

/-- The parts of a qualified name can be told from it. -/
theorem member_inj {r r' n n' : String} (hr : IsPlainName r) (hr' : IsPlainName r')
    (h : r ++ "." ++ n = r' ++ "." ++ n') : r = r' ∧ n = n' := by
  have hsplit := congrArg (fun s => splitOnce '.' s.toList) h
  simp only [toList_member, splitOnce_append hr.2.2, splitOnce_append hr'.2.2, Option.some.injEq,
    Prod.mk.injEq, String.toList_inj] at hsplit
  exact hsplit

theorem dropStars_member {receiver : String} (h : IsPlainName receiver) (name : String) :
    dropStars (receiver ++ "." ++ name) = receiver ++ "." ++ name := by
  have hne : receiver.toList ≠ [] := fun hnil => h.1 (String.toList_eq_nil_iff.1 hnil)
  apply dropStars_of_unmarked
  rw [toList_member, List.head?_append_of_ne_nil _ hne]
  exact fun hstar => h.2.1 (List.mem_of_head? hstar)

namespace SymbolTable

theorem find?_plain {name : String} (h : IsPlainName name) (t : SymbolTable) :
    t.find? name = t.get? name := by
  simp only [find?, h.dropStars_eq, splitOnce_eq_none h.2.2]

theorem find?_member {receiver name : String} (hr : IsPlainName receiver) (hn : IsPlainName name)
    (t : SymbolTable) : t.find? (receiver ++ "." ++ name) = t.get? (receiver ++ "." ++ name) := by
  simp only [find?, dropStars_member hr, toList_member, splitOnce_append hr.2.2, String.ofList_toList,
    qualifiedName_member hr.bare hn.bare]

/-! ## Symbols of declarations -/

/-- The symbol is one of a declaration. The leader has no parent, and the other names have the leader. -/
structure Declares (names : List String) (s : Symbol) : Prop where
  mem : s.name ∈ names
  receiver : s.receiver = ""
  ownAnchor : s.ownAnchor = s.name
  parent : s.parent = if s.name = names.headD "" then none else some (names.headD "")

/-- A symbol of a method or field of a type. -/
inductive IsMember (type : Source.TypeDecl) : Symbol → Prop
  | method {m : Source.Func} (hm : m ∈ type.methods) :
    IsMember type { kind := .method, name := m.name, receiver := type.name }
  | field {f : String} (hf : f ∈ type.fields) :
    IsMember type { kind := .field, name := f, receiver := type.name, parent := some type.name }

theorem declares_of_mem_groupSymbols {kind : SymbolKind} (hkind : kind = .const ∨ kind = .var)
    {group : Source.Value} {s : Symbol} (hs : s ∈ groupSymbols kind group) :
    Declares group.names s := by
  unfold groupSymbols at hs
  split at hs
  · cases hs
  · rename_i first others hnames
    obtain ⟨name, hname, rfl⟩ := List.mem_map.1 hs
    refine ⟨hname, rfl, ?_, ?_⟩
    · rcases hkind with rfl | rfl <;> rfl
    · rw [hnames]
      rfl

theorem declares_single {kind : SymbolKind} (hkind : kind = .func ∨ kind = .type) (name : String) :
    Declares [name] { kind, name } := by
  refine ⟨List.mem_singleton_self name, rfl, ?_, (if_pos rfl).symm⟩
  rcases hkind with rfl | rfl <;> rfl

theorem exists_mem_groupSymbols (kind : SymbolKind) {group : Source.Value} {name : String}
    (h : name ∈ group.names) : ∃ s ∈ groupSymbols kind group, s.name = name := by
  unfold groupSymbols
  split
  · rename_i hnames
    rw [hnames] at h
    cases h
  · exact ⟨_, List.mem_map_of_mem h, rfl⟩

theorem Declares.qualifiedName {names : List String} {s : Symbol} (h : Declares names s)
    (hplain : IsPlainName s.name) : s.qualifiedName = s.name := by
  unfold Symbol.qualifiedName
  rw [h.receiver]
  exact hplain.bare.qualifiedName_eq

theorem qualifiedName_of_isMember {type : Source.TypeDecl} (hname : IsPlainName type.name)
    (hmembers : ∀ n ∈ type.memberNames, IsPlainName n) {s : Symbol} (h : IsMember type s) :
    s.qualifiedName = type.name ++ "." ++ s.name := by
  cases h with
  | method hm =>
    exact qualifiedName_member hname.bare
      (hmembers _ (List.mem_append_left _ (List.mem_map_of_mem hm))).bare
  | field hf => exact qualifiedName_member hname.bare (hmembers _ (List.mem_append_right _ hf)).bare

/-! ## The last declaration -/

/-- What stands under a name after some symbols were entered is the last of them with that name. -/
theorem get?_insertAll_eq (t : SymbolTable) (ss : List Symbol) (k : String) :
    (t.insertAll ss).get? k = (ss.reverse.find? (·.qualifiedName == k)).or (t.get? k) := by
  induction ss generalizing t with
  | nil => rfl
  | cons r rs ih =>
    show ((t.insert r).insertAll rs).get? k = _
    rw [ih, get?_insert, List.reverse_cons, List.find?_append, Option.or_assoc, List.find?_singleton]
    by_cases hk : k = r.qualifiedName
    · rw [if_pos hk, if_pos (beq_iff_eq.2 hk.symm)]
      rfl
    · rw [if_neg hk, if_neg (by simpa using Ne.symm hk)]
      rfl

theorem rel_or {α β : Type} {r : α → β → Prop} {a a' : Option α} {b b' : Option β}
    (h : Option.Rel r a b) (h' : Option.Rel r a' b') : Option.Rel r (a.or a') (b.or b') := by
  cases h with
  | some hab => exact .some hab
  | none => exact h'

/-- The last symbol of a name is one of the last declaration of the name. -/
def Follows (k : String) (ss : List Symbol) (ds : List (List String)) : Prop :=
  Option.Rel (fun s names => Declares names s ∧ s.name = k)
    (ss.reverse.find? (·.qualifiedName == k)) (ds.reverse.find? (·.contains k))

variable {k : String}

theorem Follows.append {ss rs : List Symbol} {ds es : List (List String)} (hs : Follows k ss ds)
    (hr : Follows k rs es) : Follows k (ss ++ rs) (ds ++ es) := by
  unfold Follows
  rw [List.reverse_append, List.reverse_append, List.find?_append, List.find?_append]
  exact rel_or hr hs

theorem Follows.append_members {ss rs : List Symbol} {ds : List (List String)} (hs : Follows k ss ds)
    (hr : Follows k rs []) : Follows k (ss ++ rs) ds := by
  have happend := hs.append hr
  rwa [List.append_nil] at happend

theorem follows_flatMap {α : Type} {f : α → List Symbol} {g : α → List (List String)} {xs : List α}
    (h : ∀ x ∈ xs, Follows k (f x) (g x)) : Follows k (xs.flatMap f) (xs.flatMap g) := by
  induction xs with
  | nil => exact .none
  | cons x xs ih =>
    obtain ⟨hx, hxs⟩ := List.forall_mem_cons.1 h
    exact hx.append (ih hxs)

/-- The symbols of one declaration. -/
theorem follows_declaration {names : List String} {ss : List Symbol}
    (hplain : ∀ n ∈ names, IsPlainName n) (hss : ∀ s ∈ ss, Declares names s)
    (hall : ∀ n ∈ names, ∃ s ∈ ss, s.name = n) : Follows k ss [names] := by
  have hqualified {s : Symbol} (hs : s ∈ ss) : s.qualifiedName = s.name :=
    (hss s hs).qualifiedName (hplain _ (hss s hs).mem)
  unfold Follows
  rw [List.reverse_singleton, List.find?_singleton]
  by_cases hk : k ∈ names
  · obtain ⟨s, hs, hname⟩ := hall k hk
    obtain ⟨r, hr⟩ : ∃ r, ss.reverse.find? (·.qualifiedName == k) = some r := by
      rw [← Option.isSome_iff_exists, List.find?_isSome]
      exact ⟨s, List.mem_reverse.2 hs, beq_iff_eq.2 ((hqualified hs).trans hname)⟩
    have hmem := List.mem_reverse.1 (List.mem_of_find?_eq_some hr)
    have hkey := List.find?_some hr
    simp only [beq_iff_eq] at hkey
    rw [hr, if_pos (List.contains_iff_mem.2 hk)]
    exact .some ⟨hss r hmem, (hqualified hmem).symm.trans hkey⟩
  · have hnone : ss.reverse.find? (·.qualifiedName == k) = none := by
      rw [List.find?_eq_none]
      intro s hs hkey
      have hs := List.mem_reverse.1 hs
      rw [beq_iff_eq, hqualified hs] at hkey
      exact hk (hkey ▸ (hss s hs).mem)
    rw [hnone, if_neg (by simpa using hk)]
    exact .none

theorem follows_members {type : Source.TypeDecl} (hname : IsPlainName type.name)
    (hmembers : ∀ n ∈ type.memberNames, IsPlainName n) (hk : IsPlainName k) {ss : List Symbol}
    (hss : ∀ s ∈ ss, IsMember type s) : Follows k ss [] := by
  have hnone : ss.reverse.find? (·.qualifiedName == k) = none := by
    rw [List.find?_eq_none]
    intro s hs hkey
    rw [beq_iff_eq, qualifiedName_of_isMember hname hmembers (hss s (List.mem_reverse.1 hs))] at hkey
    exact hk.2.2 (hkey ▸ by simp)
  unfold Follows
  rw [hnone]
  exact .none

theorem follows_groups {kind : SymbolKind} (hkind : kind = .const ∨ kind = .var)
    {gs : List Source.Value} (hplain : ∀ names ∈ gs.map (·.names), ∀ n ∈ names, IsPlainName n) :
    Follows k (gs.flatMap (groupSymbols kind)) (gs.map (·.names)) := by
  rw [List.map_eq_flatMap]
  refine follows_flatMap fun g hg => ?_
  exact follows_declaration (hplain _ (List.mem_map_of_mem hg))
    (fun _ => declares_of_mem_groupSymbols hkind) fun _ => exists_mem_groupSymbols kind

theorem follows_single {kind : SymbolKind} (hkind : kind = .func ∨ kind = .type) {name : String}
    (hplain : IsPlainName name) : Follows k [{ kind, name }] [[name]] := by
  refine follows_declaration (by simpa using hplain) ?_ ?_
  · exact List.forall_mem_singleton.2 (declares_single hkind name)
  · exact List.forall_mem_singleton.2 ⟨_, List.mem_singleton_self _, rfl⟩

theorem follows_funcs {fs : List Source.Func}
    (hplain : ∀ names ∈ fs.map (fun f => [f.name]), ∀ n ∈ names, IsPlainName n) :
    Follows k (fs.map fun f => { kind := .func, name := f.name }) (fs.map fun f => [f.name]) := by
  rw [List.map_eq_flatMap, List.map_eq_flatMap]
  refine follows_flatMap fun f hf => ?_
  exact follows_single (Or.inl rfl) (hplain _ (List.mem_map_of_mem hf) _ (List.mem_singleton_self _))

theorem follows_typeSymbols {type : Source.TypeDecl} (hk : IsPlainName k)
    (hplain : ∀ names ∈ type.declarations, ∀ n ∈ names, IsPlainName n)
    (hmembers : ∀ n ∈ type.memberNames, IsPlainName n) :
    Follows k (typeSymbols type) type.declarations := by
  unfold Source.TypeDecl.declarations at hplain ⊢
  simp only [List.forall_mem_append, List.forall_mem_singleton] at hplain
  obtain ⟨⟨⟨hname, hfuncs⟩, hconsts⟩, hvars⟩ := hplain
  have hmember {ss : List Symbol} (hss : ∀ s ∈ ss, IsMember type s) : Follows k ss [] :=
    follows_members hname hmembers hk hss
  refine (((((follows_single (Or.inr rfl) hname).append_members (hmember ?methods)).append_members
    (hmember ?fields)).append (follows_funcs hfuncs)).append
      (follows_groups (Or.inl rfl) hconsts)).append (follows_groups (Or.inr rfl) hvars)
  case methods => exact List.forall_mem_map.2 fun m hm => .method hm
  case fields => exact List.forall_mem_map.2 fun f hf => .field hf

/-- What stands under a name is its symbol in the last declaration of the name. -/
theorem rel_get?_ofPackage {pkg : Source.Package} (h : pkg.DistinctlyNamed) (hk : IsPlainName k) :
    Option.Rel (fun s names => Declares names s ∧ s.name = k) ((ofPackage pkg).get? k)
      (pkg.declarations.reverse.find? (·.contains k)) := by
  have hplain := h.plain
  unfold Source.Package.declarations at hplain
  simp only [List.forall_mem_append] at hplain
  obtain ⟨⟨⟨hconsts, hvars⟩, hfuncs⟩, htypes⟩ := hplain
  have hfollows : Follows k (packageSymbols pkg) pkg.declarations := by
    refine (((follows_groups (Or.inl rfl) hconsts).append (follows_groups (Or.inr rfl) hvars)).append
      (follows_funcs hfuncs)).append (follows_flatMap fun t ht => ?_)
    exact follows_typeSymbols hk (List.forall_mem_flatMap.1 htypes t ht) (h.plainMembers t ht)
  have hempty : ({} : SymbolTable).get? k = none := rfl
  unfold ofPackage
  rw [get?_insertAll_eq, hempty, Option.or_none]
  exact hfollows

/-! ## Names that are declared once -/

theorem exists_of_rel_some {α β : Type} {r : α → β → Prop} {a : Option α} {b : β}
    (h : Option.Rel r a (some b)) : ∃ x, a = some x ∧ r x b := by
  cases h with
  | some hab => exact ⟨_, rfl, hab⟩

theorem headD_mem {names : List String} {n : String} (h : n ∈ names) : names.headD "" ∈ names := by
  cases names with
  | nil => cases h
  | cons first others => exact List.mem_cons_self

theorem eq_of_nodup_flatMap {α : Type} {f : α → List String} {xs : List α}
    (h : ((xs.flatMap f).filter (· != blankName)).Nodup) {x y : α} (hx : x ∈ xs) (hy : y ∈ xs)
    {n : String} (hnx : n ∈ f x) (hny : n ∈ f y) (hblank : n ≠ blankName) : x = y := by
  rw [List.filter_flatMap, List.nodup_flatMap] at h
  have hmem {z : α} (hz : n ∈ f z) : n ∈ (f z).filter (· != blankName) :=
    List.mem_filter.2 ⟨hz, by simpa using hblank⟩
  have hsymm : Std.Symm (Function.onFun List.Disjoint fun z => (f z).filter (· != blankName)) :=
    ⟨fun _ _ hdisjoint _ hy hx => hdisjoint hx hy⟩
  by_contra hne
  exact h.2.forall hx hy hne (hmem hnx) (hmem hny)

/-- A name that is declared stands for the last declaration of it. -/
theorem exists_last_declaration {pkg : Source.Package} (h : pkg.DistinctlyNamed)
    {names : List String} (hnames : names ∈ pkg.declarations) {n : String} (hn : n ∈ names) :
    ∃ last ∈ pkg.declarations, pkg.declarations.reverse.find? (·.contains n) = some last ∧ n ∈ last ∧
      ∃ s, (ofPackage pkg).get? n = some s ∧ Declares last s ∧ s.name = n := by
  have hrel := rel_get?_ofPackage h (h.plain names hnames n hn)
  obtain ⟨last, hlast⟩ : ∃ last, pkg.declarations.reverse.find? (·.contains n) = some last := by
    rw [← Option.isSome_iff_exists, List.find?_isSome]
    exact ⟨names, List.mem_reverse.2 hnames, List.contains_iff_mem.2 hn⟩
  have hcontains := List.find?_some hlast
  simp only [List.contains_iff_mem] at hcontains
  rw [hlast] at hrel
  exact ⟨last, List.mem_reverse.1 (List.mem_of_find?_eq_some hlast), hlast, hcontains,
    exists_of_rel_some hrel⟩

theorem eq_of_mem_declarations {pkg : Source.Package} (h : pkg.DistinctlyNamed)
    {names others : List String} (hnames : names ∈ pkg.declarations)
    (hothers : others ∈ pkg.declarations) {n : String} (hn : n ∈ names) (hn' : n ∈ others)
    (hblank : n ≠ blankName) : names = others := by
  have hnodup := h.nodup
  rw [List.flatten_eq_flatMap] at hnodup
  exact eq_of_nodup_flatMap hnodup hnames hothers hn hn' hblank

/-- A name that is declared once stands for its own declaration. -/
theorem get?_of_mem_declarations {pkg : Source.Package} (h : pkg.DistinctlyNamed)
    {names : List String} (hnames : names ∈ pkg.declarations) {n : String} (hn : n ∈ names)
    (hblank : n ≠ blankName) :
    ∃ s, (ofPackage pkg).get? n = some s ∧ Declares names s ∧ s.name = n := by
  obtain ⟨last, hlast, -, hcontains, hs⟩ := exists_last_declaration h hnames hn
  rwa [eq_of_mem_declarations h hlast hnames hcontains hn hblank] at hs

/-! ## Methods and fields -/

theorem declares_or_isMember {pkg : Source.Package} {s : Symbol} (hs : s ∈ packageSymbols pkg) :
    (∃ names ∈ pkg.declarations, Declares names s) ∨ ∃ type ∈ pkg.types, IsMember type s := by
  simp only [packageSymbols, typeSymbols, List.mem_append, List.mem_flatMap, List.mem_map,
    List.mem_singleton] at hs
  simp only [Source.Package.declarations, Source.TypeDecl.declarations, List.mem_append,
    List.mem_flatMap, List.mem_map, List.mem_singleton]
  rcases hs with ((⟨g, hg, hs⟩ | ⟨g, hg, hs⟩) | ⟨f, hf, rfl⟩) |
    ⟨t, ht, ((((rfl | ⟨m, hm, rfl⟩) | ⟨f, hf, rfl⟩) | ⟨f, hf, rfl⟩) | ⟨g, hg, hs⟩) | ⟨g, hg, hs⟩⟩
  · exact Or.inl ⟨g.names, Or.inl (Or.inl (Or.inl ⟨g, hg, rfl⟩)),
      declares_of_mem_groupSymbols (Or.inl rfl) hs⟩
  · exact Or.inl ⟨g.names, Or.inl (Or.inl (Or.inr ⟨g, hg, rfl⟩)),
      declares_of_mem_groupSymbols (Or.inr rfl) hs⟩
  · exact Or.inl ⟨[f.name], Or.inl (Or.inr ⟨f, hf, rfl⟩), declares_single (Or.inl rfl) f.name⟩
  · exact Or.inl ⟨[t.name], Or.inr ⟨t, ht, Or.inl (Or.inl (Or.inl rfl))⟩,
      declares_single (Or.inr rfl) t.name⟩
  · exact Or.inr ⟨t, ht, .method hm⟩
  · exact Or.inr ⟨t, ht, .field hf⟩
  · exact Or.inl ⟨[f.name], Or.inr ⟨t, ht, Or.inl (Or.inl (Or.inr ⟨f, hf, rfl⟩))⟩,
      declares_single (Or.inl rfl) f.name⟩
  · exact Or.inl ⟨g.names, Or.inr ⟨t, ht, Or.inl (Or.inr ⟨g, hg, rfl⟩)⟩,
      declares_of_mem_groupSymbols (Or.inl rfl) hs⟩
  · exact Or.inl ⟨g.names, Or.inr ⟨t, ht, Or.inr ⟨g, hg, rfl⟩⟩,
      declares_of_mem_groupSymbols (Or.inr rfl) hs⟩

theorem mem_packageSymbols_of_isMember {pkg : Source.Package} {type : Source.TypeDecl}
    (htype : type ∈ pkg.types) {s : Symbol} (hs : IsMember type s) : s ∈ packageSymbols pkg := by
  refine List.mem_append_right _ (List.mem_flatMap.2 ⟨type, htype, ?_⟩)
  simp only [typeSymbols, List.mem_append]
  cases hs with
  | method hm => exact Or.inl (Or.inl (Or.inl (Or.inl (Or.inr (List.mem_map.2 ⟨_, hm, rfl⟩)))))
  | field hf => exact Or.inl (Or.inl (Or.inl (Or.inr (List.mem_map.2 ⟨_, hf, rfl⟩))))

theorem mem_memberNames {type : Source.TypeDecl} {s : Symbol} (hs : IsMember type s) :
    s.name ∈ type.memberNames := by
  cases hs with
  | method hm => exact List.mem_append_left _ (List.mem_map_of_mem hm)
  | field hf => exact List.mem_append_right _ hf

/-- A name that belongs to a type once is that of a single symbol. -/
theorem IsMember.eq_of_name_eq {type : Source.TypeDecl}
    (hnodup : (type.memberNames.filter (· != blankName)).Nodup) {r s : Symbol} (hr : IsMember type r)
    (hs : IsMember type s) (hname : r.name = s.name) (hblank : s.name ≠ blankName) : r = s := by
  unfold Source.TypeDecl.memberNames at hnodup
  rw [List.filter_append, List.nodup_append] at hnodup
  have hapart {m : Source.Func} {f : String} (hm : m ∈ type.methods) (hf : f ∈ type.fields)
      (hb : f ≠ blankName) : m.name ≠ f := by
    rintro rfl
    have hkeep : (m.name != blankName) = true := by simpa using hb
    exact hnodup.2.2 _ (List.mem_filter.2 ⟨List.mem_map_of_mem hm, hkeep⟩) _
      (List.mem_filter.2 ⟨hf, hkeep⟩) rfl
  cases hr with
  | method hm =>
    cases hs with
    | method hm' => simp only at hname; rw [hname]
    | field hf' => exact absurd hname (hapart hm hf' hblank)
  | field hf =>
    cases hs with
    | method hm' => exact absurd hname.symm (hapart hm' hf (hname ▸ hblank))
    | field hf' => simp only at hname; rw [hname]

theorem mem_declarations_of_mem_types {pkg : Source.Package} {type : Source.TypeDecl}
    (htype : type ∈ pkg.types) : [type.name] ∈ pkg.declarations := by
  refine List.mem_append_right _ (List.mem_flatMap.2 ⟨type, htype, ?_⟩)
  simp [Source.TypeDecl.declarations]

theorem eq_of_type_name_eq {pkg : Source.Package} (h : pkg.DistinctlyNamed) {t u : Source.TypeDecl}
    (ht : t ∈ pkg.types) (hu : u ∈ pkg.types) (hname : t.name = u.name) (hblank : u.name ≠ blankName) :
    t = u := by
  have hnodup := h.nodup
  unfold Source.Package.declarations at hnodup
  rw [List.flatten_append, List.filter_append, List.flatten_eq_flatMap (L := pkg.types.flatMap _),
    List.flatMap_assoc] at hnodup
  have hmem (v : Source.TypeDecl) : v.name ∈ v.declarations.flatMap id := by
    simp [Source.TypeDecl.declarations]
  exact eq_of_nodup_flatMap (List.nodup_append.1 hnodup).2.1 ht hu (hname ▸ hmem t) (hmem u) hblank

/-- A method or field of a type that is declared once stands for itself. -/
theorem get?_of_isMember {pkg : Source.Package} (h : pkg.DistinctlyNamed) {type : Source.TypeDecl}
    (htype : type ∈ pkg.types) (hblank : type.name ≠ blankName) {s : Symbol} (hs : IsMember type s)
    (hsblank : s.name ≠ blankName) :
    (ofPackage pkg).get? (type.name ++ "." ++ s.name) = some s := by
  have hplain {t : Source.TypeDecl} (ht : t ∈ pkg.types) : IsPlainName t.name :=
    h.plain _ (mem_declarations_of_mem_types ht) _ (List.mem_singleton_self _)
  have hqualified := qualifiedName_of_isMember (hplain htype) (h.plainMembers type htype) hs
  obtain ⟨r, hr⟩ := Option.isSome_iff_exists.1
    (isSome_get?_insertAll_of_mem {} (mem_packageSymbols_of_isMember htype hs))
  rw [hqualified] at hr
  obtain ⟨hmem, hkey⟩ := mem_packageSymbols_of_get? hr
  rcases declares_or_isMember hmem with ⟨names, hnames, hdeclares⟩ | ⟨t, ht, hmember⟩
  · -- a name of the package itself has no dot
    have hname := h.plain names hnames _ hdeclares.mem
    rw [hdeclares.qualifiedName hname] at hkey
    exact absurd (hkey ▸ by simp : '.' ∈ r.name.toList) hname.2.2
  · rw [qualifiedName_of_isMember (hplain ht) (h.plainMembers t ht) hmember] at hkey
    obtain ⟨htypes, hnames⟩ := member_inj (hplain ht) (hplain htype) hkey
    obtain rfl := eq_of_type_name_eq h ht htype htypes hblank
    obtain rfl := hmember.eq_of_name_eq (h.nodupMembers t ht) hs hnames hsblank
    exact hr

/-! ## Anchors -/

section

variable {t : SymbolTable} {s r u : Symbol} {p q : String}

theorem length_pos_of_get? (h : t.get? p = some r) : 1 ≤ t.entries.length := by
  have hmem := List.length_pos_of_mem (mem_keys_of_get? h)
  rwa [List.length_map] at hmem

theorem two_le_length_of_get? (hp : t.get? p = some r) (hq : t.get? q = some u) (hne : q ≠ p) :
    2 ≤ t.entries.length := by
  have hsubset : [q, p] ⊆ t.entries.map Prod.fst :=
    List.cons_subset.2 ⟨mem_keys_of_get? hq, List.cons_subset.2 ⟨mem_keys_of_get? hp, by simp⟩⟩
  have hle := (List.subperm_of_subset (by simpa using hne) hsubset).length_le
  rwa [List.length_map] at hle

theorem anchor_of_root (h : s.parent = none) : t.anchor s = s.ownAnchor := by
  unfold anchor
  rw [chainEnd_of_root h]

theorem anchor_of_child (hparent : s.parent = some p) (hne : p ≠ s.qualifiedName)
    (hget : t.get? p = some r) (hroot : r.parent = none) : t.anchor s = r.ownAnchor := by
  obtain ⟨n, hn⟩ : ∃ n, t.entries.length = n + 1 :=
    ⟨t.entries.length - 1, by have := length_pos_of_get? hget; omega⟩
  unfold anchor
  rw [hn, chainEnd_succ hparent (by simpa using hne) hget, chainEnd_of_root hroot]

theorem anchor_of_grandchild (hparent : s.parent = some p) (hne : p ≠ s.qualifiedName)
    (hget : t.get? p = some r) (hnext : r.parent = some q) (hqp : q ≠ p) (hqs : q ≠ s.qualifiedName)
    (hget' : t.get? q = some u) (hroot : u.parent = none) : t.anchor s = u.ownAnchor := by
  obtain ⟨n, hn⟩ : ∃ n, t.entries.length = n + 2 :=
    ⟨t.entries.length - 2, by have := two_le_length_of_get? hget hget' hqp; omega⟩
  unfold anchor
  rw [hn, chainEnd_succ hparent (by simpa using hne) hget,
    chainEnd_succ hnext (by simp [hqp, hqs]) hget', chainEnd_of_root hroot]

end

/-! ## Where names lead -/

section

variable {pkg : Source.Package} (h : pkg.DistinctlyNamed)
include h

/-- A symbol whose parent is the blank name leads to where the last declaration of that name is
documented. -/
theorem anchor_of_blank_parent {names : List String} (hnames : names ∈ pkg.declarations) {s : Symbol}
    (hs : Declares names s) (hblank : s.name ≠ blankName) (hlead : names.headD "" = blankName) :
    some ((ofPackage pkg).anchor s) = pkg.blankLeader? := by
  have hqualified := hs.qualifiedName (h.plain names hnames _ hs.mem)
  have hparent : s.parent = some blankName := by rw [hs.parent, hlead, if_neg hblank]
  have hne : blankName ≠ s.qualifiedName := by rw [hqualified]; exact Ne.symm hblank
  obtain ⟨last, hlast, hfind, -, b, hb, hdeclares, hname⟩ :=
    exists_last_declaration h hnames (hlead ▸ headD_mem hs.mem)
  have hleader : pkg.blankLeader? = some (last.headD "") := by
    unfold Source.Package.blankLeader?
    rw [hfind]
    rfl
  rw [hleader, Option.some.injEq]
  by_cases hself : last.headD "" = blankName
  · have hroot : b.parent = none := by rw [hdeclares.parent, hname, hself, if_pos rfl]
    rw [anchor_of_child hparent hne hb hroot, hdeclares.ownAnchor, hname, hself]
  · have hnext : b.parent = some (last.headD "") := by
      rw [hdeclares.parent, hname, if_neg (Ne.symm hself)]
    have hmem := headD_mem hdeclares.mem
    obtain ⟨u, hu, hleads, hleadName⟩ := get?_of_mem_declarations h hlast hmem hself
    have hroot : u.parent = none := by rw [hleads.parent, if_pos hleadName]
    have hqs : last.headD "" ≠ s.qualifiedName := by
      -- the leader would be declared in both groups, and they have different leaders
      rw [hqualified]
      intro heq
      have hsame := eq_of_mem_declarations h hlast hnames hmem (heq ▸ hs.mem) hself
      exact hself (hsame ▸ hlead)
    rw [anchor_of_grandchild hparent hne hb hnext hself hqs hu hroot, hleads.ownAnchor, hleadName]

/-- A name that is declared once leads to the leader of its declaration, unless that is the blank name. -/
theorem resolve?_of_mem_declarations {names : List String} (hnames : names ∈ pkg.declarations)
    {n : String} (hn : n ∈ names) (hblank : n ≠ blankName) :
    (ofPackage pkg).resolve? n =
      if names.headD "" = blankName then pkg.blankLeader? else some (names.headD "") := by
  have hplain := h.plain names hnames n hn
  obtain ⟨s, hs, hdeclares, rfl⟩ := get?_of_mem_declarations h hnames hn hblank
  have hresolve : (ofPackage pkg).resolve? s.name = some ((ofPackage pkg).anchor s) := by
    unfold resolve?
    rw [find?_plain hplain, hs]
    rfl
  rw [hresolve]
  by_cases hlead : names.headD "" = blankName
  · rw [if_pos hlead, anchor_of_blank_parent h hnames hdeclares hblank hlead]
  · rw [if_neg hlead, Option.some.injEq]
    by_cases hself : s.name = names.headD ""
    · rw [anchor_of_root (by rw [hdeclares.parent, if_pos hself]), hdeclares.ownAnchor, hself]
    · have hparent : s.parent = some (names.headD "") := by rw [hdeclares.parent, if_neg hself]
      have hne : names.headD "" ≠ s.qualifiedName := by
        rw [hdeclares.qualifiedName hplain]
        exact Ne.symm hself
      obtain ⟨r, hr, hleads, hname⟩ := get?_of_mem_declarations h hnames (headD_mem hn) hlead
      have hroot : r.parent = none := by rw [hleads.parent, if_pos hname]
      rw [anchor_of_child hparent hne hr hroot, hleads.ownAnchor, hname]

/-- A method of a type leads to itself and a field to its type. -/
theorem resolve?_of_isMember {type : Source.TypeDecl} (htype : type ∈ pkg.types)
    (hblank : type.name ≠ blankName) {s : Symbol} (hs : IsMember type s)
    (hsblank : s.name ≠ blankName) :
    (ofPackage pkg).resolve? (type.name ++ "." ++ s.name) =
      some (if s.kind = .method then type.name ++ "." ++ s.name else type.name) := by
  have hnames := mem_declarations_of_mem_types htype
  have hplain := h.plain _ hnames _ (List.mem_singleton_self _)
  have hmember := h.plainMembers type htype _ (mem_memberNames hs)
  have hqualified := qualifiedName_of_isMember hplain (h.plainMembers type htype) hs
  unfold resolve?
  rw [find?_member hplain hmember, get?_of_isMember h htype hblank hs hsblank, Option.map_some,
    Option.some.injEq]
  cases hs with
  | method hm =>
    rw [anchor_of_root rfl, if_pos rfl]
    show dropStars type.name ++ "." ++ _ = _
    rw [hplain.dropStars_eq]
  | field hf =>
    obtain ⟨r, hr, hleads, hname⟩ :=
      get?_of_mem_declarations h hnames (List.mem_singleton_self _) hblank
    have hne : type.name ≠ Symbol.qualifiedName _ := hqualified ▸ (member_ne_receiver type.name _).symm
    have hroot : r.parent = none := hleads.parent.trans (if_pos hname)
    rw [anchor_of_child rfl hne hr hroot, hleads.ownAnchor, hname, if_neg (by simp)]

end

theorem mem_declarations_of_mem_groups {pkg : Source.Package} {group : Source.Value}
    (hgroup : group ∈ pkg.groups) : group.names ∈ pkg.declarations := by
  simp only [Source.Package.groups, List.mem_append, List.mem_flatMap] at hgroup
  simp only [Source.Package.declarations, Source.TypeDecl.declarations, List.mem_append,
    List.mem_flatMap]
  rcases hgroup with (hgroup | hgroup) | ⟨t, ht, hgroup | hgroup⟩
  · exact Or.inl (Or.inl (Or.inl (List.mem_map_of_mem hgroup)))
  · exact Or.inl (Or.inl (Or.inr (List.mem_map_of_mem hgroup)))
  · exact Or.inr ⟨t, ht, Or.inl (Or.inr (List.mem_map_of_mem hgroup))⟩
  · exact Or.inr ⟨t, ht, Or.inr (List.mem_map_of_mem hgroup)⟩

theorem mem_declarations_of_mem_functions {pkg : Source.Package} {f : Source.Func}
    (hf : f ∈ pkg.functions) : [f.name] ∈ pkg.declarations := by
  simp only [Source.Package.functions, List.mem_append, List.mem_flatMap] at hf
  simp only [Source.Package.declarations, Source.TypeDecl.declarations, List.mem_append,
    List.mem_flatMap]
  rcases hf with hf | ⟨t, ht, hf⟩
  · exact Or.inl (Or.inr (List.mem_map.2 ⟨f, hf, rfl⟩))
  · exact Or.inr ⟨t, ht, Or.inl (Or.inl (Or.inr (List.mem_map.2 ⟨f, hf, rfl⟩)))⟩

/-- **Where declared names lead**, in a package that declares no name twice other than the blank one.
Functions and types lead to themselves, methods to themselves and fields to their type. The names of a
group lead to its first name, unless that is the blank name: then they lead to where the blank name was
declared last. So all names of groups lead to their own group exactly if no group needs the blank name as
its leader or the last declaration of that name is led by it. -/
theorem resolve?_ofPackage {pkg : Source.Package} (h : pkg.DistinctlyNamed) :
    (∀ g ∈ pkg.groups, ∀ n ∈ g.names, n ≠ blankName → (ofPackage pkg).resolve? n =
      if g.names.headD "" = blankName then pkg.blankLeader? else some (g.names.headD "")) ∧
    ((∀ g ∈ pkg.groups, ∀ n ∈ g.names, n ≠ blankName →
        (ofPackage pkg).resolve? n = some (g.names.headD "")) ↔
      ((∃ g ∈ pkg.groups, g.names.headD "" = blankName ∧ ∃ n ∈ g.names, n ≠ blankName) →
        pkg.blankLeader? = some blankName)) ∧
    (∀ f ∈ pkg.functions, f.name ≠ blankName → (ofPackage pkg).resolve? f.name = some f.name) ∧
    ∀ t ∈ pkg.types, t.name ≠ blankName →
      (ofPackage pkg).resolve? t.name = some t.name ∧
      (∀ m ∈ t.methods, m.name ≠ blankName →
        (ofPackage pkg).resolve? (t.name ++ "." ++ m.name) = some (t.name ++ "." ++ m.name)) ∧
      ∀ f ∈ t.fields, f ≠ blankName →
        (ofPackage pkg).resolve? (t.name ++ "." ++ f) = some t.name := by
  have hgroups : ∀ g ∈ pkg.groups, ∀ n ∈ g.names, n ≠ blankName → (ofPackage pkg).resolve? n =
      if g.names.headD "" = blankName then pkg.blankLeader? else some (g.names.headD "") :=
    fun g hg _ hn => resolve?_of_mem_declarations h (mem_declarations_of_mem_groups hg) hn
  have hsingle {n : String} (hn : [n] ∈ pkg.declarations) (hblank : n ≠ blankName) :
      (ofPackage pkg).resolve? n = some n :=
    (resolve?_of_mem_declarations h hn (List.mem_singleton_self n) hblank).trans (if_neg hblank)
  refine ⟨hgroups, ⟨?exact, ?leads⟩, ?functions, ?types⟩
  case exact =>
    rintro hall ⟨g, hg, hlead, n, hn, hblank⟩
    have hresolve := hgroups g hg n hn hblank
    rwa [if_pos hlead, hall g hg n hn hblank, hlead, eq_comm] at hresolve
  case leads =>
    intro hlast g hg n hn hblank
    rw [hgroups g hg n hn hblank]
    by_cases hlead : g.names.headD "" = blankName
    · rw [if_pos hlead, hlast ⟨g, hg, hlead, n, hn, hblank⟩, hlead]
    · rw [if_neg hlead]
  case functions => exact fun f hf => hsingle (mem_declarations_of_mem_functions hf)
  case types =>
    intro t ht hblank
    refine ⟨hsingle (mem_declarations_of_mem_types ht) hblank, fun m hm hm' => ?_, fun f hf hf' => ?_⟩
    · have hmethod := resolve?_of_isMember h ht hblank (.method hm) hm'
      rwa [if_pos rfl] at hmethod
    · have hfield := resolve?_of_isMember h ht hblank (.field hf) hf'
      rwa [if_neg (by simp)] at hfield

/-- A type with a blank field, listed with a group that the blank name leads. -/
def blankFields : Source.TypeDecl where
  name := "T"
  fields := ["F", "_"]
  methods := [{ name := "M" }]
  consts := [{ names := ["_", "C"] }]

/-- The blank name is declared three times and leads the last of these groups. -/
def blankLed : Source.Package where
  consts := [{ names := ["A", "_"] }]
  vars := [{ names := ["_", "B"] }]
  types := [blankFields]

theorem resolve?_ofPackage_blankLed :
    blankLed.DistinctlyNamed ∧ (ofPackage blankLed).resolve? "B" = some "_" ∧
      (ofPackage blankLed).resolve? "T.F" = some "T" := by
  have h : blankLed.DistinctlyNamed := by decide
  obtain ⟨-, hexact, -, htypes⟩ := resolve?_ofPackage h
  have hfield := (htypes blankFields (List.mem_singleton_self _) (by decide)).2.2 "F" (by decide)
    (by decide)
  have hname : blankFields.name ++ "." ++ "F" = "T.F" := by decide
  rw [hname] at hfield
  refine ⟨h, ?_, hfield⟩
  exact hexact.2 (fun _ => by decide) { names := ["_", "B"] } (by decide) "B" (by decide) (by decide)

/-- The blank name leads a group of constants and is declared again with a variable. -/
def blankRedeclared : Source.Package where
  consts := [{ names := ["_", "A"] }]
  vars := [{ names := ["B", "_"] }]

/-- A name of a group that the blank name leads can lead to another group. -/
theorem resolve?_blankRedeclared :
    blankRedeclared.DistinctlyNamed ∧ ({ names := ["_", "A"] } : Source.Value) ∈ blankRedeclared.groups ∧
      (ofPackage blankRedeclared).resolve? "A" = some "B" := by
  decide

end SymbolTable

end DocPages
