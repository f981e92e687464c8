import DocPages.Source.Symbol
import Mathlib.Data.List.Basic
import Mathlib.Data.List.Nodup
import Mathlib.Data.List.TakeWhile
import Mathlib.Algebra.Order.BigOperators.Group.List
import Mathlib.Algebra.Order.Ring.Nat

/-!
# Chains of parents

A symbol table is grounded if parents are entered in it and following them climbs in some ranking of the
names. The tables of packages are grounded although later declarations replace earlier ones
(`grounded_ofPackage`): symbols are entered in families, and a family renews the symbol that its members
name as their parent. The anchor of a symbol is found by a walk along its parents, which in every table
ends where it cannot go on (`exists_walk_chainEnd`). In a grounded table it can always go on to the parent
(`RankedBy.walk_goes_on`), so it ends at a symbol without one.
-/

namespace DocPages

open Text

/-! ## Names -/

/-- A name that is kept as it is: not empty, and without pointer marks and dots. -/
def IsPlainName (name : String) : Prop :=
  name ≠ "" ∧ '*' ∉ name.toList ∧ '.' ∉ name.toList

instance : DecidablePred IsPlainName := fun name => by unfold IsPlainName; infer_instance

/-- A name under which a symbol can be entered as it is: not empty, and without a pointer mark in front.
It may hold dots. -/
def IsBareName (name : String) : Prop :=
  name ≠ "" ∧ name.toList.head? ≠ some '*'

instance : DecidablePred IsBareName := fun name => by unfold IsBareName; infer_instance

theorem IsPlainName.bare {name : String} (h : IsPlainName name) : IsBareName name :=
  ⟨h.1, fun hstar => h.2.1 (List.mem_of_head? hstar)⟩

namespace Source

/-- All names that are declared with a type, its own one first. -/
def TypeDecl.declaredNames (type : TypeDecl) : List String :=
  type.name :: (type.fields ++ type.methods.map (·.name) ++ type.funcs.map (·.name)
    ++ (type.consts ++ type.vars).flatMap (·.names))

/-- All names that are declared in a package. -/
def Package.declaredNames (pkg : Package) : List String :=
  (pkg.consts ++ pkg.vars).flatMap (·.names) ++ pkg.funcs.map (·.name)
    ++ pkg.types.flatMap TypeDecl.declaredNames

/-- A type whose names are plain, listed with functions of the package and methods of its own. -/
structure TypeDecl.WellNamed (type : TypeDecl) : Prop where
  name : IsPlainName type.name
  fields : ∀ f ∈ type.fields, IsPlainName f
  funcs : ∀ f ∈ type.funcs, IsPlainName f.name ∧ f.recv = ""
  methods : ∀ m ∈ type.methods, IsPlainName m.name ∧ dropStars m.recv = type.name
  consts : ∀ g ∈ type.consts, ∀ n ∈ g.names, IsPlainName n
  vars : ∀ g ∈ type.vars, ∀ n ∈ g.names, IsPlainName n

instance (type : TypeDecl) : Decidable type.WellNamed :=
  decidable_of_iff (IsPlainName type.name ∧ (∀ f ∈ type.fields, IsPlainName f) ∧
      (∀ f ∈ type.funcs, IsPlainName f.name ∧ f.recv = "") ∧
      (∀ m ∈ type.methods, IsPlainName m.name ∧ dropStars m.recv = type.name) ∧
      (∀ g ∈ type.consts, ∀ n ∈ g.names, IsPlainName n) ∧
      ∀ g ∈ type.vars, ∀ n ∈ g.names, IsPlainName n)
    ⟨fun ⟨name, fields, funcs, methods, consts, vars⟩ =>
      ⟨name, fields, funcs, methods, consts, vars⟩,
      fun h => ⟨h.name, h.fields, h.funcs, h.methods, h.consts, h.vars⟩⟩

/-- A package whose names are plain. They may repeat. -/
structure Package.WellNamed (pkg : Package) : Prop where
  consts : ∀ g ∈ pkg.consts, ∀ n ∈ g.names, IsPlainName n
  vars : ∀ g ∈ pkg.vars, ∀ n ∈ g.names, IsPlainName n
  funcs : ∀ f ∈ pkg.funcs, IsPlainName f.name ∧ f.recv = ""
  types : ∀ t ∈ pkg.types, t.WellNamed

instance (pkg : Package) : Decidable pkg.WellNamed :=
  decidable_of_iff ((∀ g ∈ pkg.consts, ∀ n ∈ g.names, IsPlainName n) ∧
      (∀ g ∈ pkg.vars, ∀ n ∈ g.names, IsPlainName n) ∧
      (∀ f ∈ pkg.funcs, IsPlainName f.name ∧ f.recv = "") ∧ ∀ t ∈ pkg.types, t.WellNamed)
    ⟨fun ⟨consts, vars, funcs, types⟩ => ⟨consts, vars, funcs, types⟩,
      fun h => ⟨h.consts, h.vars, h.funcs, h.types⟩⟩

theorem TypeDecl.WellNamed.bare {type : TypeDecl} (h : type.WellNamed) :
    ∀ n ∈ type.declaredNames, IsBareName n := by
  simp only [declaredNames, List.forall_mem_cons, List.forall_mem_append, List.forall_mem_map,
    List.forall_mem_flatMap]
  exact ⟨h.name.bare, ⟨⟨fun f hf => (h.fields f hf).bare, fun m hm => (h.methods m hm).1.bare⟩,
    fun f hf => (h.funcs f hf).1.bare⟩,
    fun g hg n hn => (h.consts g hg n hn).bare, fun g hg n hn => (h.vars g hg n hn).bare⟩

theorem Package.WellNamed.bare {pkg : Package} (h : pkg.WellNamed) :
    ∀ n ∈ pkg.declaredNames, IsBareName n := by
  simp only [declaredNames, List.forall_mem_append, List.forall_mem_map, List.forall_mem_flatMap]
  exact ⟨⟨⟨fun g hg n hn => (h.consts g hg n hn).bare, fun g hg n hn => (h.vars g hg n hn).bare⟩,
    fun f hf => (h.funcs f hf).1.bare⟩, fun t ht => (h.types t ht).bare⟩

end Source

theorem dropStars_of_unmarked {name : String} (h : name.toList.head? ≠ some '*') :
    dropStars name = name := by
  have hd : name.toList.dropWhile (· == '*') = name.toList := by
    rcases hname : name.toList with _ | ⟨c, cs⟩
    · rfl
    · rw [hname] at h
      exact List.dropWhile_cons_of_neg (by simpa using h)
  show String.ofList (name.toList.dropWhile (· == '*')) = name
  rw [hd, String.ofList_toList]

theorem IsPlainName.dropStars_eq {name : String} (h : IsPlainName name) : dropStars name = name :=
  dropStars_of_unmarked h.bare.2

theorem IsBareName.qualifiedName_eq {name : String} (h : IsBareName name) :
    qualifiedName "" name = name := by
  unfold qualifiedName
  rw [dropStars_of_unmarked h.2]
  rfl

theorem qualifiedName_member {receiver name : String} (hr : IsBareName receiver)
    (hn : IsBareName name) : qualifiedName receiver name = receiver ++ "." ++ name := by
  unfold qualifiedName
  rw [dropStars_of_unmarked hr.2, dropStars_of_unmarked hn.2]
  exact if_neg (by simpa using hr.1)

theorem member_ne_receiver (receiver name : String) :
    receiver ++ "." ++ name ≠ receiver := by
  intro h
  have hl := congrArg (fun s => s.toList.length) h
  simp at hl

namespace SymbolTable

/-! ## Entries -/

theorem get?_insert (t : SymbolTable) (s : Symbol) (k : String) :
    (t.insert s).get? k = if k = s.qualifiedName then some s else t.get? k := by
  unfold insert get?
  exact SortedMap.lookup_put _ _ _ _

theorem insertAll_append (t : SymbolTable) (ss rs : List Symbol) :
    t.insertAll (ss ++ rs) = (t.insertAll ss).insertAll rs := by
  unfold insertAll
  exact List.foldl_append

/-- What stands under a name after some symbols were entered is one of them or stood there before. -/
theorem get?_insertAll {t : SymbolTable} {ss : List Symbol} {k : String} {s : Symbol}
    (h : (t.insertAll ss).get? k = some s) :
    (s ∈ ss ∧ s.qualifiedName = k) ∨ ((∀ r ∈ ss, r.qualifiedName ≠ k) ∧ t.get? k = some s) := by
  induction ss generalizing t with
  | nil => exact Or.inr ⟨by simp, h⟩
  | cons r rs ih =>
    have h' : ((t.insert r).insertAll rs).get? k = some s := h
    rcases ih h' with ⟨hs, hk⟩ | ⟨hrs, hget⟩
    · exact Or.inl ⟨List.mem_cons_of_mem r hs, hk⟩
    · rw [get?_insert] at hget
      by_cases hk : k = r.qualifiedName
      · rw [if_pos hk, Option.some.injEq] at hget
        subst hget
        exact Or.inl ⟨List.mem_cons_self, hk.symm⟩
      · rw [if_neg hk] at hget
        refine Or.inr ⟨fun q hq => ?_, hget⟩
        rcases List.mem_cons.1 hq with rfl | hq
        · exact Ne.symm hk
        · exact hrs q hq

theorem isSome_get?_insertAll_of_isSome {t : SymbolTable} {k : String} (h : (t.get? k).isSome)
    (ss : List Symbol) : ((t.insertAll ss).get? k).isSome := by
  induction ss generalizing t with
  | nil => exact h
  | cons r rs ih =>
    show (((t.insert r).insertAll rs).get? k).isSome
    apply ih
    rw [get?_insert]
    split
    · rfl
    · exact h

theorem isSome_get?_insertAll_of_mem (t : SymbolTable) {ss : List Symbol} {s : Symbol}
    (hs : s ∈ ss) : ((t.insertAll ss).get? s.qualifiedName).isSome := by
  induction ss generalizing t with
  | nil => cases hs
  | cons r rs ih =>
    show (((t.insert r).insertAll rs).get? s.qualifiedName).isSome
    rcases List.mem_cons.1 hs with rfl | hs
    · apply isSome_get?_insertAll_of_isSome
      rw [get?_insert, if_pos rfl]
      rfl
    · exact ih _ hs

theorem mem_keys_of_get? {t : SymbolTable} {k : String} {s : Symbol} (h : t.get? k = some s) :
    k ∈ t.entries.map Prod.fst := by
  unfold get? at h
  obtain ⟨before, after, heq, -⟩ := List.lookup_eq_some_iff.1 h
  rw [heq]
  simp

/-! ## Grounded tables -/

/-- The names of parents are entered, and they stand higher than the names of their children. -/
structure RankedBy (t : SymbolTable) (rank : String → ℕ) : Prop where
  climbs : ∀ {k s p}, t.get? k = some s → s.parent = some p → rank k < rank p
  entered : ∀ {k s p}, t.get? k = some s → s.parent = some p → (t.get? p).isSome

/-- Every chain of parents climbs in some ranking and stays in the table. -/
def Grounded (t : SymbolTable) : Prop :=
  ∃ rank, t.RankedBy rank

theorem grounded_empty : Grounded {} := by
  refine ⟨fun _ => 0, ?_, ?_⟩ <;>
  · intro k s p h _
    cases h

/-- Symbols that are documented together. One of them is named `lead`, and whichever has a parent has
that one. -/
structure Family (lead : String) (ss : List Symbol) : Prop where
  lead_mem : ∃ r ∈ ss, r.qualifiedName = lead
  parent_eq : ∀ s ∈ ss, ∀ p, s.parent = some p → p = lead ∧ s.qualifiedName ≠ lead

/-- The ranking after a family is entered: its lead stands above all of its members. -/
def raise (rank : String → ℕ) (lead : String) (ss : List Symbol) (k : String) : ℕ :=
  if k = lead then rank lead + (ss.map fun s => rank s.qualifiedName).sum + 1 else rank k

theorem raise_of_ne (rank : String → ℕ) {lead k : String} (ss : List Symbol) (h : k ≠ lead) :
    raise rank lead ss k = rank k := if_neg h

theorem le_raise (rank : String → ℕ) (lead : String) (ss : List Symbol) (k : String) :
    rank k ≤ raise rank lead ss k := by
  unfold raise
  split_ifs with h
  · subst h
    omega
  · exact Nat.le_refl _

theorem rank_lt_raise_lead (rank : String → ℕ) (lead : String) {ss : List Symbol} {s : Symbol}
    (hs : s ∈ ss) : rank s.qualifiedName < raise rank lead ss lead := by
  unfold raise
  rw [if_pos rfl]
  have h : rank s.qualifiedName ≤ (ss.map fun s => rank s.qualifiedName).sum :=
    List.single_le_sum (by simp) _ (List.mem_map.2 ⟨s, hs, rfl⟩)
  omega

/-- Entering a family keeps a table grounded: whatever pointed at its lead still stands below it, and
the lead, which may have had a parent before, has none now. -/
theorem RankedBy.insertAll_family {t : SymbolTable} {rank : String → ℕ} (ht : t.RankedBy rank)
    {lead : String} {ss : List Symbol} (hf : Family lead ss) :
    (t.insertAll ss).RankedBy (raise rank lead ss) := by
  obtain ⟨r, hr, hlead⟩ := hf.lead_mem
  refine ⟨fun {k s p} hget hp => ?_, fun {k s p} hget hp => ?_⟩
  · rcases get?_insertAll hget with ⟨hs, rfl⟩ | ⟨hother, hold⟩
    · obtain ⟨rfl, hne⟩ := hf.parent_eq s hs p hp
      rw [raise_of_ne rank ss hne]
      exact rank_lt_raise_lead rank p hs
    · -- the lead itself was entered anew, so an old entry is not the lead
      have hk : k ≠ lead := fun h => hother r hr (hlead.trans h.symm)
      rw [raise_of_ne rank ss hk]
      exact Nat.lt_of_lt_of_le (ht.climbs hold hp) (le_raise rank lead ss p)
  · rcases get?_insertAll hget with ⟨hs, -⟩ | ⟨-, hold⟩
    · obtain ⟨rfl, -⟩ := hf.parent_eq s hs p hp
      rw [← hlead]
      exact isSome_get?_insertAll_of_mem t hr
    · exact isSome_get?_insertAll_of_isSome (ht.entered hold hp) ss

theorem RankedBy.insertAll_roots {t : SymbolTable} {rank : String → ℕ} (ht : t.RankedBy rank)
    {ss : List Symbol} (hroots : ∀ s ∈ ss, s.parent = none) : (t.insertAll ss).RankedBy rank := by
  have hold : ∀ {k s p}, (t.insertAll ss).get? k = some s → s.parent = some p →
      t.get? k = some s := by
    intro k s p hget hp
    rcases get?_insertAll hget with ⟨hs, -⟩ | ⟨-, hold⟩
    · rw [hroots s hs] at hp
      cases hp
    · exact hold
  exact ⟨fun hget hp => ht.climbs (hold hget hp) hp,
    fun hget hp => isSome_get?_insertAll_of_isSome (ht.entered (hold hget hp) hp) ss⟩

/-- Entering the symbols keeps every grounded table grounded. -/
def KeepsGrounded (ss : List Symbol) : Prop :=
  ∀ t : SymbolTable, t.Grounded → (t.insertAll ss).Grounded

theorem Family.keepsGrounded {lead : String} {ss : List Symbol} (h : Family lead ss) :
    KeepsGrounded ss :=
  fun _ ⟨_, ht⟩ => ⟨_, ht.insertAll_family h⟩

theorem keepsGrounded_of_roots {ss : List Symbol} (h : ∀ s ∈ ss, s.parent = none) :
    KeepsGrounded ss :=
  fun _ ⟨_, ht⟩ => ⟨_, ht.insertAll_roots h⟩

theorem KeepsGrounded.append {ss rs : List Symbol} (hs : KeepsGrounded ss)
    (hr : KeepsGrounded rs) : KeepsGrounded (ss ++ rs) := by
  intro t ht
  rw [insertAll_append]
  exact hr _ (hs t ht)

theorem keepsGrounded_flatMap {α : Type} {f : α → List Symbol} {xs : List α}
    (h : ∀ x ∈ xs, KeepsGrounded (f x)) : KeepsGrounded (xs.flatMap f) := by
  induction xs with
  | nil => exact fun t ht => ht
  | cons x xs ih =>
    rw [List.flatMap_cons]
    exact (h x List.mem_cons_self).append (ih fun y hy => h y (List.mem_cons_of_mem x hy))

/-! ## The table of a package -/

theorem keepsGrounded_groupSymbols {kind : SymbolKind} {group : Source.Value}
    (h : ∀ n ∈ group.names, IsBareName n) : KeepsGrounded (groupSymbols kind group) := by
  unfold groupSymbols
  split
  · exact keepsGrounded_of_roots (by simp)
  · rename_i first others hnames
    rw [hnames] at h ⊢
    have hf : Family first ((first :: others).map fun name =>
        { kind, name, parent := if name = first then none else some first }) := by
      refine ⟨⟨_, List.mem_cons_self, (h first List.mem_cons_self).qualifiedName_eq⟩, ?_⟩
      intro s hs p hp
      obtain ⟨name, hname, rfl⟩ := List.mem_map.1 hs
      by_cases hfirst : name = first
      · simp [hfirst] at hp
      · have hqn := (h name hname).qualifiedName_eq
        simp only [if_neg hfirst, Option.some.injEq] at hp
        exact ⟨hp.symm, fun hq => hfirst (hqn.symm.trans hq)⟩
    exact hf.keepsGrounded

/-- A type leads the family of its methods and fields. -/
theorem family_members {type : Source.TypeDecl} (hname : IsBareName type.name)
    (hfields : ∀ f ∈ type.fields, IsBareName f) :
    Family type.name ([{ kind := .type, name := type.name }]
      ++ type.methods.map (fun m => { kind := .method, name := m.name, receiver := type.name })
      ++ type.fields.map (fun f =>
        { kind := .field, name := f, receiver := type.name, parent := some type.name })) := by
  refine ⟨⟨{ kind := .type, name := type.name }, by simp, hname.qualifiedName_eq⟩, ?_⟩
  intro s hs p hp
  simp only [List.append_assoc, List.mem_append, List.mem_singleton, List.mem_map] at hs
  rcases hs with rfl | ⟨m, -, rfl⟩ | ⟨f, hf, rfl⟩
  · cases hp
  · cases hp
  · obtain rfl : type.name = p := by simpa using hp
    have hqn := qualifiedName_member hname (hfields f hf)
    exact ⟨rfl, fun hq => member_ne_receiver type.name f (hqn.symm.trans hq)⟩

theorem keepsGrounded_typeSymbols {type : Source.TypeDecl}
    (h : ∀ n ∈ type.declaredNames, IsBareName n) : KeepsGrounded (typeSymbols type) := by
  simp only [Source.TypeDecl.declaredNames, List.forall_mem_cons, List.forall_mem_append,
    List.forall_mem_flatMap] at h
  obtain ⟨hname, ⟨⟨hfields, -⟩, -⟩, hconsts, hvars⟩ := h
  unfold typeSymbols
  refine (((family_members hname hfields).keepsGrounded.append ?_).append ?_).append ?_
  · exact keepsGrounded_of_roots (by simp)
  · exact keepsGrounded_flatMap fun g hg => keepsGrounded_groupSymbols (hconsts g hg)
  · exact keepsGrounded_flatMap fun g hg => keepsGrounded_groupSymbols (hvars g hg)

theorem grounded_ofPackage {pkg : Source.Package} (h : ∀ n ∈ pkg.declaredNames, IsBareName n) :
    (ofPackage pkg).Grounded := by
  simp only [Source.Package.declaredNames, List.forall_mem_append, List.forall_mem_flatMap] at h
  obtain ⟨⟨⟨hconsts, hvars⟩, -⟩, htypes⟩ := h
  have hkeeps : KeepsGrounded (packageSymbols pkg) := by
    unfold packageSymbols
    refine ((KeepsGrounded.append ?_ ?_).append ?_).append ?_
    · exact keepsGrounded_flatMap fun g hg => keepsGrounded_groupSymbols (hconsts g hg)
    · exact keepsGrounded_flatMap fun g hg => keepsGrounded_groupSymbols (hvars g hg)
    · exact keepsGrounded_of_roots (by simp)
    · exact keepsGrounded_flatMap fun t ht => keepsGrounded_typeSymbols (htypes t ht)
  exact hkeeps {} grounded_empty

theorem mem_packageSymbols_of_get? {pkg : Source.Package} {k : String} {s : Symbol}
    (h : (ofPackage pkg).get? k = some s) : s ∈ packageSymbols pkg ∧ s.qualifiedName = k := by
  rcases get?_insertAll h with hs | ⟨-, hold⟩
  · exact hs
  · cases hold

/-! ## Chains -/

section

variable {t : SymbolTable} {s r : Symbol} {p : String}

theorem chainEnd_of_root (h : s.parent = none) (n : ℕ) (seen : List String) :
    t.chainEnd n seen s = s := by
  cases n with
  | zero => rfl
  | succ n =>
    unfold chainEnd
    rw [h]

theorem chainEnd_of_stuck (hparent : s.parent = some p) {seen : List String}
    (hstuck : p ∈ seen ∨ t.get? p = none) (n : ℕ) : t.chainEnd n seen s = s := by
  cases n with
  | zero => rfl
  | succ n =>
    unfold chainEnd
    rcases hstuck with hmem | hget
    · simp [hparent, hmem]
    · simp [hparent, hget]

theorem chainEnd_succ (hparent : s.parent = some p) {seen : List String} (hnew : p ∉ seen)
    (hget : t.get? p = some r) (n : ℕ) : t.chainEnd (n + 1) seen s = t.chainEnd n (p :: seen) r := by
  have hseen : seen.contains p = false := by simpa using hnew
  rw [chainEnd, hparent]
  simp only [hseen, hget]
  rfl

end

/-- The places of a walk along parents that starts at `s`: the names visited so far, the last one first,
and the symbol reached. The walk goes on to a parent that is entered and was not visited before. -/
inductive Walk (t : SymbolTable) (s : Symbol) : List String → Symbol → Prop
  | start : Walk t s [s.qualifiedName] s
  | step {seen : List String} {c next : Symbol} {p : String} (walk : Walk t s seen c)
    (parent : c.parent = some p) (new : p ∉ seen) (get : t.get? p = some next) :
    Walk t s (p :: seen) next

section

variable {t : SymbolTable} {s c : Symbol} {seen : List String}

theorem Walk.nodup (h : t.Walk s seen c) : seen.Nodup := by
  induction h with
  | start => exact List.nodup_singleton _
  | step _ _ hnew _ ih => exact List.nodup_cons.2 ⟨hnew, ih⟩

theorem Walk.subset (h : t.Walk s seen c) : seen ⊆ s.qualifiedName :: t.entries.map Prod.fst := by
  induction h with
  | start => exact List.cons_subset.2 ⟨List.mem_cons_self, List.nil_subset _⟩
  | step _ _ _ hget ih =>
    exact List.cons_subset.2 ⟨List.mem_cons_of_mem _ (mem_keys_of_get? hget), ih⟩

/-- A walk goes on at most as often as the table has names. -/
theorem Walk.length_le (h : t.Walk s seen c) : seen.length ≤ t.entries.length + 1 := by
  have hle := (List.subperm_of_subset h.nodup h.subset).length_le
  rwa [List.length_cons, List.length_map] at hle

/-- The end of a chain is where a walk cannot go on. The walk visits a new name with each step, so `n`
steps are enough if there are no more than `n` names left. -/
theorem exists_walk_chainEnd (h : t.Walk s seen c) {n : ℕ}
    (hn : t.entries.length + 1 ≤ seen.length + n) :
    ∃ visited, t.Walk s visited (t.chainEnd n seen c) ∧
      ∀ p, (t.chainEnd n seen c).parent = some p → p ∈ visited ∨ t.get? p = none := by
  induction n generalizing seen c with
  | zero =>
    refine ⟨seen, h, fun p hp => ?_⟩
    by_contra hopen
    rw [not_or] at hopen
    obtain ⟨next, hnext⟩ := Option.ne_none_iff_exists'.1 hopen.2
    have hle := (h.step hp hopen.1 hnext).length_le
    rw [List.length_cons] at hle
    omega
  | succ n ih =>
    rcases hparent : c.parent with _ | p
    · rw [chainEnd_of_root hparent]
      exact ⟨seen, h, fun p hp => by rw [hparent] at hp; cases hp⟩
    · by_cases hstuck : p ∈ seen ∨ t.get? p = none
      · rw [chainEnd_of_stuck hparent hstuck]
        refine ⟨seen, h, fun q hq => ?_⟩
        rw [hparent, Option.some.injEq] at hq
        exact hq ▸ hstuck
      · rw [not_or] at hstuck
        obtain ⟨next, hnext⟩ := Option.ne_none_iff_exists'.1 hstuck.2
        rw [chainEnd_succ hparent hstuck.1 hnext]
        apply ih (h.step hparent hstuck.1 hnext)
        rw [List.length_cons]
        omega

/-- In a grounded table a walk from an entered symbol climbs. -/
theorem RankedBy.walk_climbs {rank : String → ℕ} (ht : t.RankedBy rank)
    (hs : t.get? s.qualifiedName = some s) (h : t.Walk s seen c) :
    ∃ k, t.get? k = some c ∧ ∀ x ∈ seen, rank x ≤ rank k := by
  induction h with
  | start => exact ⟨s.qualifiedName, hs, by simp⟩
  | @step seen c next p _ hparent _ hget ih =>
    obtain ⟨k, hk, hbelow⟩ := ih
    have hlt := ht.climbs hk hparent
    exact ⟨p, hget, List.forall_mem_cons.2 ⟨Nat.le_refl _, fun x hx =>
      Nat.le_of_lt (Nat.lt_of_le_of_lt (hbelow x hx) hlt)⟩⟩

/-- So it always goes on to the parent: this one is entered, and stands above all that was visited. -/
theorem RankedBy.walk_goes_on {rank : String → ℕ} (ht : t.RankedBy rank)
    (hs : t.get? s.qualifiedName = some s) (h : t.Walk s seen c) {p : String}
    (hparent : c.parent = some p) : p ∉ seen ∧ ∃ next, t.get? p = some next := by
  obtain ⟨k, hk, hbelow⟩ := ht.walk_climbs hs h
  have hlt := ht.climbs hk hparent
  exact ⟨fun hp => Nat.not_lt.2 (hbelow p hp) hlt,
    Option.isSome_iff_exists.1 (ht.entered hk hparent)⟩

/-- Hence the anchor of an entered symbol is that of a symbol without a parent. -/
theorem RankedBy.exists_walk_anchor {rank : String → ℕ} (ht : t.RankedBy rank)
    (hs : t.get? s.qualifiedName = some s) :
    ∃ visited r, t.Walk s visited r ∧ r.parent = none ∧ t.anchor s = r.ownAnchor := by
  obtain ⟨visited, hwalk, hend⟩ := exists_walk_chainEnd (t := t) (s := s) .start
    (n := t.entries.length) (by rw [List.length_singleton]; omega)
  refine ⟨visited, _, hwalk, Option.eq_none_iff_forall_not_mem.2 fun p hp => ?_, rfl⟩
  obtain ⟨hnew, next, hnext⟩ := ht.walk_goes_on hs hwalk hp
  rcases hend p hp with hmem | hnone
  · exact hnew hmem
  · rw [hnext] at hnone
    cases hnone

end

theorem exists_get?_of_find? {t : SymbolTable} {reference : String} {s : Symbol}
    (h : t.find? reference = some s) : ∃ k, t.get? k = some s := by
  simp only [find?] at h
  split at h
  · exact ⟨_, h⟩
  · exact ⟨_, h⟩

/-- A reference that resolves leads to the section of a symbol that has one of its own. -/
theorem exists_root_of_resolve? {pkg : Source.Package} (h : pkg.WellNamed) {reference a : String}
    (hr : (ofPackage pkg).resolve? reference = some a) :
    ∃ s ∈ packageSymbols pkg, s.parent = none ∧ s.ownAnchor = a := by
  unfold resolve? at hr
  obtain ⟨s, hfind, rfl⟩ := Option.map_eq_some_iff.1 hr
  obtain ⟨k, hget⟩ := exists_get?_of_find? hfind
  obtain rfl := (mem_packageSymbols_of_get? hget).2
  obtain ⟨rank, ht⟩ := grounded_ofPackage h.bare
  obtain ⟨visited, r, hwalk, hroot, hanchor⟩ := ht.exists_walk_anchor hget
  obtain ⟨k, hk, -⟩ := ht.walk_climbs hget hwalk
  exact ⟨r, (mem_packageSymbols_of_get? hk).1, hroot, hanchor.symm⟩

end SymbolTable

end DocPages
