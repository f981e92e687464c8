import DocPages.Proofs.Source.ParentChain
import Mathlib.Logic.Relation

/-!
# Parents form a forest

Symbols are entered one after another and replace each other, so that a group may give a parent to a name
that earlier groups are led by, and chains of parents of any length arise. They never close: in the table
of a package every chain climbs in a ranking of the names (`grounded_ofPackage`). So parents are entered,
no name stands above itself, and the walk that finds an anchor goes on to the parent wherever there is one
(`parents_ofPackage`).
-/

namespace DocPages.SymbolTable

/-- The symbol under the name `k` is documented in the section of the one under `p`. -/
def HasParent (t : SymbolTable) (k p : String) : Prop :=
  ∃ s, t.get? k = some s ∧ s.parent = some p

section

variable {t : SymbolTable} {rank : String → ℕ}

theorem RankedBy.rank_lt (ht : t.RankedBy rank) {k p : String}
    (h : Relation.TransGen t.HasParent k p) : rank k < rank p := by
  induction h with
  | single h =>
    obtain ⟨s, hget, hparent⟩ := h
    exact ht.climbs hget hparent
  | tail _ h ih =>
    obtain ⟨s, hget, hparent⟩ := h
    exact Nat.lt_trans ih (ht.climbs hget hparent)

/-- A walk follows parents. -/
theorem Walk.exists_ancestor {s c : Symbol} {seen : List String}
    (hs : t.get? s.qualifiedName = some s) (h : t.Walk s seen c) :
    ∃ k, Relation.ReflTransGen t.HasParent s.qualifiedName k ∧ t.get? k = some c := by
  induction h with
  | start => exact ⟨s.qualifiedName, .refl, hs⟩
  | @step seen c next p _ hparent _ hget ih =>
    obtain ⟨k, hpath, hk⟩ := ih
    exact ⟨p, hpath.tail ⟨c, hk, hparent⟩, hget⟩

end

/-- **Parents form a forest.** Whatever names a package declares, and however often: every parent is
entered, following parents never returns to a name, and from every symbol it ends at one without a parent.
The walk that finds an anchor never stops before a parent, and the anchor is that of the last symbol. -/
theorem parents_ofPackage {pkg : Source.Package} (h : ∀ n ∈ pkg.declaredNames, IsBareName n) :
    (∀ k p, (ofPackage pkg).HasParent k p → ∃ s, (ofPackage pkg).get? p = some s) ∧
    (∀ k, ¬ Relation.TransGen (ofPackage pkg).HasParent k k) ∧
    ∀ k s, (ofPackage pkg).get? k = some s →
      (∀ seen c p, (ofPackage pkg).Walk s seen c → c.parent = some p →
        p ∉ seen ∧ ∃ next, (ofPackage pkg).get? p = some next) ∧
      ∃ visited root r, (ofPackage pkg).Walk s visited r ∧
        Relation.ReflTransGen (ofPackage pkg).HasParent k root ∧
        (ofPackage pkg).get? root = some r ∧ r.parent = none ∧
        (ofPackage pkg).anchor s = r.ownAnchor := by
  obtain ⟨rank, ht⟩ := grounded_ofPackage h
  refine ⟨?_, fun k hk => Nat.lt_irrefl _ (ht.rank_lt hk), fun k s hget => ?_⟩
  · rintro k p ⟨s, hget, hparent⟩
    exact Option.isSome_iff_exists.1 (ht.entered hget hparent)
  · obtain rfl := (mem_packageSymbols_of_get? hget).2
    refine ⟨fun seen c p hwalk hparent => ht.walk_goes_on hget hwalk hparent, ?_⟩
    obtain ⟨visited, r, hwalk, hroot, hanchor⟩ := ht.exists_walk_anchor hget
    obtain ⟨root, hpath, hr⟩ := hwalk.exists_ancestor hget
    exact ⟨visited, root, r, hwalk, hpath, hr, hroot, hanchor⟩

/-- Three groups that lead one another, the last one listed with a type and led by one of its fields. -/
def regrouped : Source.Package where
  consts := [{ names := ["B", "A"] }]
  vars := [{ names := ["C", "B"] }]
  types := [{ name := "T", fields := ["f"], consts := [{ names := ["T.f", "C"] }] }]

theorem parents_ofPackage_regrouped :
    (∀ n ∈ regrouped.declaredNames, IsBareName n) ∧
    (ofPackage regrouped).get? "A" = some { kind := .const, name := "A", parent := some "B" } ∧
    (ofPackage regrouped).anchor { kind := .const, name := "A", parent := some "B" } = "T.f" ∧
    ¬ Relation.TransGen (ofPackage regrouped).HasParent "A" "A" ∧
    ∃ root, Relation.ReflTransGen (ofPackage regrouped).HasParent "A" root ∧
      ∃ r, (ofPackage regrouped).get? root = some r ∧ r.parent = none := by
  have hnames : ∀ n ∈ regrouped.declaredNames, IsBareName n := by decide
  have hget : (ofPackage regrouped).get? "A" =
      some { kind := .const, name := "A", parent := some "B" } := by decide
  obtain ⟨-, hacyclic, hroots⟩ := parents_ofPackage hnames
  obtain ⟨-, visited, root, r, -, hpath, hr, hroot, -⟩ := hroots "A" _ hget
  exact ⟨hnames, hget, by decide, hacyclic "A", root, hpath, r, hr, hroot⟩

end DocPages.SymbolTable
