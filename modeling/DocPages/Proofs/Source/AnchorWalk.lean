import DocPages.Proofs.Source.ParentChain
import Mathlib.Data.String.Basic

/-!
# The walk to an anchor ends

Symbols can be entered in any order and with any parents: a parent may be missing, and chains of parents may
close, at their start or further on. In every such table the walk that finds an anchor ends
(`anchor_insertAll`).

1. The walk can be continued in at most one way (`Walk.eq_of_length_eq`), so all of its stages are part of
   the one walk that cannot go on (`Walk.isSuffix_of_ended`).
2. It visits a new name with each move. The names of the table are distinct (`nodup_keys_insertAll`), and
   all names but the first one are among them (`Walk.length_le`).
-/

namespace DocPages

/-! ## Names of a table -/

namespace SortedMap

variable {α : Type} {key : String} {val : α}

theorem mem_put {m : List (String × α)} {e : String × α} (h : e ∈ put key val m) :
    e = (key, val) ∨ e ∈ m := by
  induction m with
  | nil => exact Or.inl (List.mem_singleton.1 h)
  | cons d m ih =>
    obtain ⟨k, v⟩ := d
    unfold put at h
    split_ifs at h
    · exact (List.mem_cons.1 h).imp_right (List.mem_cons_of_mem _)
    · exact List.mem_cons.1 h
    · rcases List.mem_cons.1 h with rfl | h
      · exact Or.inr List.mem_cons_self
      · exact (ih h).imp_right (List.mem_cons_of_mem _)

/-- An ordered map stays ordered. -/
theorem sorted_put {m : List (String × α)} (h : m.Pairwise fun a b => a.1 < b.1) :
    (put key val m).Pairwise fun a b => a.1 < b.1 := by
  induction m with
  | nil => exact List.pairwise_singleton _ _
  | cons d m ih =>
    obtain ⟨k, v⟩ := d
    obtain ⟨hfirst, hrest⟩ := List.pairwise_cons.1 h
    unfold put
    split_ifs with heq hlt
    · exact List.pairwise_cons.2 ⟨fun e he => heq ▸ hfirst e he, hrest⟩
    · refine List.pairwise_cons.2 ⟨List.forall_mem_cons.2 ⟨hlt, fun e he => ?_⟩, h⟩
      exact hlt.trans (hfirst e he)
    · refine List.pairwise_cons.2 ⟨fun e he => ?_, ih hrest⟩
      rcases mem_put he with rfl | he
      · exact lt_of_le_of_ne (not_lt.1 hlt) (Ne.symm heq)
      · exact hfirst e he

end SortedMap

namespace SymbolTable

/-- The names under which symbols are entered. -/
def keys (t : SymbolTable) : List String :=
  t.entries.map Prod.fst

theorem sorted_insertAll {t : SymbolTable} (h : t.entries.Pairwise fun a b => a.1 < b.1)
    (ss : List Symbol) : (t.insertAll ss).entries.Pairwise fun a b => a.1 < b.1 := by
  induction ss generalizing t with
  | nil => exact h
  | cons s ss ih => exact ih (t := t.insert s) (SortedMap.sorted_put h)

theorem nodup_keys_insertAll (ss : List Symbol) : (insertAll {} ss).keys.Nodup := by
  have hsorted := sorted_insertAll (t := {}) List.Pairwise.nil ss
  exact List.pairwise_map.2 (hsorted.imp fun hlt => hlt.ne)

/-! ## Walks that have ended -/

/-- A walk that cannot go on: the symbol reached has no parent, or one that is missing from the table or was
visited already. -/
structure Ended (t : SymbolTable) (s : Symbol) (visited : List String) (last : Symbol) : Prop where
  walk : t.Walk s visited last
  stuck : ∀ p, last.parent = some p → p ∈ visited ∨ t.get? p = none

section

variable {t : SymbolTable} {s c c' last : Symbol} {seen seen' visited : List String}

/-- The walk starts with the name of the symbol itself. -/
theorem Walk.exists_moves (h : t.Walk s seen c) : ∃ moves, seen = moves ++ [s.qualifiedName] := by
  induction h with
  | start => exact ⟨[], rfl⟩
  | @step seen c next p _ _ _ _ ih =>
    obtain ⟨moves, rfl⟩ := ih
    exact ⟨p :: moves, rfl⟩

theorem Walk.length_pos (h : t.Walk s seen c) : 0 < seen.length := by
  obtain ⟨moves, rfl⟩ := h.exists_moves
  simp

/-- Walks of the same length are the same. -/
theorem Walk.eq_of_length_eq (h : t.Walk s seen c) (h' : t.Walk s seen' c')
    (hlength : seen.length = seen'.length) : seen = seen' ∧ c = c' := by
  induction h generalizing seen' c' with
  | start =>
    cases h' with
    | start => exact ⟨rfl, rfl⟩
    | step hwalk =>
      have hpos := hwalk.length_pos
      simp only [List.length_cons, List.length_nil] at hlength
      omega
  | @step seen c next p hwalk hparent _ hget ih =>
    cases h' with
    | start =>
      have hpos := hwalk.length_pos
      simp only [List.length_cons, List.length_nil] at hlength
      omega
    | @step seen' d _ p' hwalk' hparent' _ hget' =>
      obtain ⟨rfl, rfl⟩ := ih hwalk' (by simpa using hlength)
      obtain rfl : p = p' := Option.some.inj (hparent.symm.trans hparent')
      exact ⟨rfl, Option.some.inj (hget.symm.trans hget')⟩

/-- No walk is longer than one that has ended. -/
theorem Walk.length_le_of_ended (h : t.Walk s seen c) (hend : t.Ended s visited last) :
    seen.length ≤ visited.length := by
  induction h with
  | start => exact hend.walk.length_pos
  | @step seen c next p hwalk hparent hnew hget ih =>
    refine Nat.lt_of_le_of_ne ih fun hlength => ?_
    obtain ⟨rfl, rfl⟩ := hwalk.eq_of_length_eq hend.walk hlength
    rcases hend.stuck p hparent with hmem | hnone
    · exact hnew hmem
    · rw [hget] at hnone
      cases hnone

theorem Walk.isSuffix_of_length_le (h : t.Walk s visited last) (h' : t.Walk s seen c)
    (hlength : seen.length ≤ visited.length) : seen <:+ visited := by
  induction h with
  | start =>
    have hone : seen.length = [s.qualifiedName].length := Nat.le_antisymm hlength h'.length_pos
    obtain ⟨rfl, -⟩ := h'.eq_of_length_eq .start hone
    exact List.suffix_refl _
  | @step visited c' next p hwalk hparent hnew hget ih =>
    rcases Nat.lt_or_eq_of_le hlength with hlt | heq
    · exact (ih (Nat.le_of_lt_succ hlt)).trans (List.suffix_cons p visited)
    · obtain ⟨rfl, -⟩ := h'.eq_of_length_eq (hwalk.step hparent hnew hget) heq
      exact List.suffix_refl _

/-- Every walk is the first part of the one that has ended. -/
theorem Walk.isSuffix_of_ended (h : t.Walk s seen c) (hend : t.Ended s visited last) :
    seen <:+ visited :=
  hend.walk.isSuffix_of_length_le h (h.length_le_of_ended hend)

theorem Ended.last_eq (h : t.Ended s seen c) (h' : t.Ended s visited last) : c = last :=
  (h.walk.eq_of_length_eq h'.walk
    (Nat.le_antisymm (h.walk.length_le_of_ended h') (h'.walk.length_le_of_ended h))).2

/-- As many moves as there are names are enough. -/
theorem exists_ended (t : SymbolTable) (s : Symbol) {n : ℕ} (hn : t.keys.length ≤ n) :
    ∃ visited, t.Ended s visited (t.chainEnd n [s.qualifiedName] s) := by
  unfold keys at hn
  rw [List.length_map] at hn
  obtain ⟨visited, hwalk, hstuck⟩ := exists_walk_chainEnd (t := t) (s := s) .start (n := n)
    (by rw [List.length_singleton]; omega)
  exact ⟨visited, hwalk, hstuck⟩

end

/-- **The walk to an anchor ends.** Whatever symbols were entered, the walk from a symbol moves on to parents
at most as often as the table has names. It stops at the last symbol before a parent that is missing or was
visited already, the symbol itself counting as visited under its qualified name, and the anchor is that of
the symbol where it stops. More moves are never taken, however many are allowed. -/
theorem anchor_insertAll (ss : List Symbol) (s : Symbol) :
    (insertAll {} ss).keys.Nodup ∧
    ∃ moves last, (insertAll {} ss).Ended s (moves ++ [s.qualifiedName]) last ∧
      moves.length ≤ (insertAll {} ss).keys.length ∧
      (∀ seen c, (insertAll {} ss).Walk s seen c → seen <:+ moves ++ [s.qualifiedName]) ∧
      (∀ n, (insertAll {} ss).keys.length ≤ n →
        (insertAll {} ss).chainEnd n [s.qualifiedName] s = last) ∧
      (insertAll {} ss).anchor s = last.ownAnchor := by
  refine ⟨nodup_keys_insertAll ss, ?_⟩
  generalize insertAll {} ss = t
  obtain ⟨visited, hend⟩ := exists_ended t s (Nat.le_refl t.keys.length)
  obtain ⟨moves, rfl⟩ := hend.walk.exists_moves
  have hlast (n : ℕ) (hn : t.keys.length ≤ n) : t.chainEnd n [s.qualifiedName] s =
      t.chainEnd t.keys.length [s.qualifiedName] s := by
    obtain ⟨visited, hend'⟩ := exists_ended t s hn
    exact hend'.last_eq hend
  refine ⟨moves, _, hend, ?_, fun seen c hwalk => hwalk.isSuffix_of_ended hend, hlast, ?_⟩
  · have hle := hend.walk.length_le
    rw [List.length_append, List.length_singleton] at hle
    rw [keys, List.length_map]
    omega
  · unfold anchor
    rw [hlast _ (by rw [keys, List.length_map])]

-- a chain that enters a cycle behind its start, and one that ends at a missing parent
example :
    let t := insertAll {} [{ kind := .const, name := "A", parent := some "B" },
      { kind := .const, name := "B", parent := some "C" }, { kind := .var, name := "C", parent := some "B" },
      { kind := .field, name := "f", receiver := "T", parent := some "T" }]
    t.resolve? "A" = some "C" ∧ t.resolve? "B" = some "C" ∧ t.resolve? "T.f" = some "T.f" := by
  decide

end SymbolTable

end DocPages
