import DocPages.Settings.Basic
import Mathlib.Data.List.DropRight
import Mathlib.Tactic.SplitIfs

/-!
# Trees after assignments

The text at a place of a tree that is put together from assignments is the one that was put there last,
unless a later assignment displaces it (`foldl_textAfter`).

1. One assignment puts its text at its place, or displaces what stands at another place, or leaves it
   (`textAt_assign`). Places are compared step by step along both paths.
2. A run of assignments is followed through the text at one place alone (`textAt_ofAssignments`).
3. The order of assignments makes no difference to a place if none of them gives it a text that another one
   could replace or displace (`foldl_textAfter_perm`).
-/

namespace DocPages.Setting

/-- The text that is reached by some names, one inside the other. -/
def textAt (names : List String) (s : Setting) : Option String :=
  (names.foldl get s).text?

namespace Assignment

/-- The text that an assignment puts at some names. -/
def text? (names : List String) (a : Assignment) : Option String :=
  if a.path = names.map .entry then a.leaf.text? else none

/-- Whether a leaf at a path displaces the text at some names. It does as no table on the way to them, as
neither text nor table at their place, and as anything below it. -/
def displacesFrom (leaf : Setting) : Path → List String → Bool
  | [], names =>
    match leaf with
    | table _ => false
    | scalar _ => !names.isEmpty
    | _ => true
  | .entry m :: path, n :: names => m == n && displacesFrom leaf path names
  | _ :: _, _ => true

def displaces (names : List String) (a : Assignment) : Bool :=
  displacesFrom a.leaf a.path names

/-- Whether an assignment gives a text to some names, or displaces the one that is there. -/
def reaches (names : List String) (a : Assignment) : Bool :=
  (a.text? names).isSome || a.displaces names

end Assignment

open Assignment

/-- The text that the last of some assignments puts at some names. -/
def lastText (names : List String) (as : List Assignment) : Option String :=
  (as.filterMap (·.text? names)).getLast?

/-- Whether the text at some names is displaced after it was put there last. -/
def displaced (names : List String) (as : List Assignment) : Bool :=
  (as.rtakeWhile fun a => (a.text? names).isNone).any (·.displaces names)

/-- The assignments give no text to some names, or no two of them reach these names. -/
def Settles (names : List String) (as : List Assignment) : Prop :=
  (∀ a ∈ as, a.text? names = none) ∨ as.countP (·.reaches names) ≤ 1

/-! ## Leaves -/

theorem leaves_of_entries {s : Setting} (h : s.entries = []) : leaves s = [([], s)] := by
  cases s with
  | table es =>
    obtain rfl : es = [] := h
    rfl
  | _ => rfl

theorem entries_of_mem_leaf {s : Setting} (hs : s.entries = []) {e : Path × Setting}
    (h : e ∈ leaves s) : e.2.entries = [] := by
  rw [leaves_of_entries hs, List.mem_singleton] at h
  rw [h]
  exact hs

mutual

/-- Leaves have no entries. -/
theorem entries_of_mem_leaves : ∀ {s : Setting} {e : Path × Setting}, e ∈ leaves s → e.2.entries = []
  | .unset, _, h | .scalar _, _, h | .list _, _, h | .table [], _, h => entries_of_mem_leaf rfl h
  | .table (_ :: _), _, h => entries_of_mem_leavesOfEntries h

theorem entries_of_mem_leavesOfEntries : ∀ {es : List (String × Setting)} {e : Path × Setting},
    e ∈ leavesOfEntries es → e.2.entries = []
  | (name, s) :: es, e, h => by
    rw [leavesOfEntries, List.mem_append] at h
    rcases h with h | h
    · obtain ⟨⟨path, leaf⟩, hleaf, rfl⟩ := List.mem_map.1 h
      have hnone : leaf.entries = [] := entries_of_mem_leaves hleaf
      exact hnone
    · exact entries_of_mem_leavesOfEntries h

end

theorem entries_of_mem_assignmentsAt {path : Path} {s : Setting} {a : Assignment}
    (h : a ∈ assignmentsAt path s) : a.leaf.entries = [] := by
  obtain ⟨e, he, rfl⟩ := List.mem_map.1 h
  exact entries_of_mem_leaves he

/-! ## One assignment -/

theorem textAt_cons (name : String) (names : List String) (s : Setting) :
    textAt (name :: names) s = textAt names (s.get name) := rfl

theorem textAt_unset (names : List String) : textAt names unset = none := by
  induction names with
  | nil => rfl
  | cons name names ih => exact ih

/-- Names lead nowhere without entries. -/
theorem textAt_cons_of_entries {s : Setting} (h : s.entries = []) (name : String)
    (names : List String) : textAt (name :: names) s = none := by
  rw [textAt_cons, get, h]
  exact textAt_unset names

theorem textAt_emptyTable (names : List String) : textAt names (table []) = none := by
  cases names with
  | nil => rfl
  | cons name names => exact textAt_cons_of_entries rfl name names

theorem get_put (name key : String) (s val : Setting) :
    (table (SortedMap.put key val s.entries)).get name = if name = key then val else s.get name := by
  unfold get
  rw [entries, SortedMap.lookup_put]
  split_ifs <;> rfl

theorem displaces_eq_false_of_text? {names : List String} {a : Assignment} {text : String}
    (h : a.text? names = some text) : a.displaces names = false := by
  obtain ⟨path, leaf⟩ := a
  unfold Assignment.text? at h
  split_ifs at h with hpath
  obtain rfl : path = names.map .entry := hpath
  have hleaf : ∀ ns : List String, displacesFrom leaf (ns.map .entry) ns = false := by
    cases leaf with
    | scalar t =>
      intro ns
      induction ns with
      | nil => rfl
      | cons n ns ih => simpa [displacesFrom] using ih
    | _ => cases h
  exact hleaf names

/-- What one assignment leaves at a place. -/
def textAfter (names : List String) (old : Option String) (a : Assignment) : Option String :=
  if a.displaces names then none else (a.text? names).or old

theorem textAt_assign {leaf : Setting} (h : leaf.entries = []) (path : Path) (names : List String)
    (s : Setting) :
    textAt names (assign leaf path s) = textAfter names (textAt names s) ⟨path, leaf⟩ := by
  unfold textAfter displaces Assignment.text?
  induction path generalizing names s with
  | nil =>
    cases leaf with
    | unset => exact textAt_unset names
    | scalar text =>
      cases names with
      | nil => rfl
      | cons name names => exact textAt_cons_of_entries rfl name names
    | list items =>
      cases names with
      | nil => rfl
      | cons name names => exact textAt_cons_of_entries rfl name names
    | table es =>
      obtain rfl : es = [] := h
      have hold : textAt names (assign (table []) [] s) = textAt names s := by
        cases s with
        | unset => rw [assign, textAt_emptyTable, textAt_unset]
        | _ => rfl
      rw [hold]
      cases names <;> rfl
  | cons step path ih =>
    cases step with
    | item index =>
      cases names with
      | nil => rfl
      | cons name names => exact textAt_cons_of_entries rfl name names
    | entry key =>
      cases names with
      | nil => rfl
      | cons name names =>
        rw [assign, textAt_cons, get_put]
        by_cases hname : name = key
        · subst hname
          rw [if_pos rfl, ih]
          simp [displacesFrom, textAt_cons]
        · rw [if_neg hname]
          simp [displacesFrom, textAt_cons, Ne.symm hname]

/-! ## A run of assignments -/

theorem textAt_foldl_assign {names : List String} {as : List Assignment}
    (h : ∀ a ∈ as, a.leaf.entries = []) (s : Setting) :
    textAt names (as.foldl (fun s a => assign a.leaf a.path s) s) =
      as.foldl (textAfter names) (textAt names s) := by
  induction as generalizing s with
  | nil => rfl
  | cons a as ih =>
    rw [List.forall_mem_cons] at h
    rw [List.foldl_cons, List.foldl_cons, ih h.2, textAt_assign h.1]

theorem lastText_append (names : List String) (as bs : List Assignment) :
    lastText names (as ++ bs) = (lastText names bs).or (lastText names as) := by
  rw [lastText, List.filterMap_append, List.getLast?_append]
  rfl

theorem lastText_singleton (names : List String) (a : Assignment) :
    lastText names [a] = a.text? names := by
  cases h : a.text? names <;> simp [lastText, h]

theorem displaced_concat (names : List String) (as : List Assignment) (a : Assignment) :
    displaced names (as ++ [a]) =
      ((a.text? names).isNone && (displaced names as || a.displaces names)) := by
  unfold displaced
  rw [List.rtakeWhile_concat]
  cases a.text? names <;> simp

theorem foldl_textAfter (names : List String) (as : List Assignment) :
    as.foldl (textAfter names) none =
      if displaced names as then none else lastText names as := by
  induction as using List.reverseRecOn with
  | nil => rfl
  | append_singleton as a ih =>
    rw [List.foldl_append, List.foldl_cons, List.foldl_nil, ih, lastText_append, lastText_singleton,
      displaced_concat, textAfter]
    cases htext : a.text? names with
    | none =>
      rw [Option.isNone_none, Bool.true_and, Option.none_or, Option.none_or]
      cases displaced names as <;> cases a.displaces names <;> rfl
    | some text =>
      rw [displaces_eq_false_of_text? htext]
      rfl

/-- A tree is read through what its assignments leave at a place, one after the other. -/
theorem textAt_ofAssignments {names : List String} {as : List Assignment}
    (h : ∀ a ∈ as, a.leaf.entries = []) :
    textAt names (ofAssignments as) = as.foldl (textAfter names) none := by
  rw [ofAssignments, textAt_foldl_assign h, textAt_emptyTable]

/-! ## Assignments that leave a place -/

section Frame

variable {names : List String} {as : List Assignment}
  (h : ∀ a ∈ as, a.reaches names = false)
include h

theorem text?_of_reaches {a : Assignment} (ha : a ∈ as) : a.text? names = none := by
  have hreaches := h a ha
  rw [reaches, Bool.or_eq_false_iff] at hreaches
  simpa using hreaches.1

theorem displaces_of_reaches {a : Assignment} (ha : a ∈ as) : a.displaces names = false := by
  have hreaches := h a ha
  rw [reaches, Bool.or_eq_false_iff] at hreaches
  exact hreaches.2

theorem displaced_append_of_forall (before : List Assignment) :
    displaced names (before ++ as) = displaced names before := by
  induction as using List.reverseRecOn with
  | nil => rw [List.append_nil]
  | append_singleton as a ih =>
    have ha : a ∈ as ++ [a] := by simp
    rw [← List.append_assoc, displaced_concat, ih fun b hb => h b (List.mem_append_left _ hb),
      text?_of_reaches h ha, displaces_of_reaches h ha]
    simp

theorem displaced_frame (before after : List Assignment) :
    displaced names (before ++ (as ++ after)) = displaced names (before ++ after) := by
  induction after using List.reverseRecOn with
  | nil => rw [List.append_nil, List.append_nil, displaced_append_of_forall h]
  | append_singleton after a ih =>
    rw [← List.append_assoc, ← List.append_assoc, displaced_concat, List.append_assoc, ih,
      ← List.append_assoc, displaced_concat]

theorem lastText_frame (before after : List Assignment) :
    lastText names (before ++ (as ++ after)) = lastText names (before ++ after) := by
  have hnone : lastText names as = none := by
    have hnil : as.filterMap (·.text? names) = [] :=
      List.filterMap_eq_nil_iff.2 fun a ha => text?_of_reaches h ha
    rw [lastText, hnil, List.getLast?_nil]
  rw [lastText_append, lastText_append, hnone, Option.or_none, lastText_append]

end Frame

/-! ## The order of assignments -/

theorem textAfter_of_reaches {names : List String} {a : Assignment} (h : a.reaches names = false)
    (old : Option String) : textAfter names old a = old := by
  have hall : ∀ b ∈ [a], b.reaches names = false := by simpa using h
  rw [textAfter, text?_of_reaches hall List.mem_cons_self, displaces_of_reaches hall List.mem_cons_self]
  rfl

/-- Only the assignments that reach a place have an influence on it. -/
theorem foldl_textAfter_filter (names : List String) (as : List Assignment) (old : Option String) :
    (as.filter (·.reaches names)).foldl (textAfter names) old = as.foldl (textAfter names) old := by
  induction as generalizing old with
  | nil => rfl
  | cons a as ih =>
    cases ha : a.reaches names with
    | true => rw [List.filter_cons_of_pos ha, List.foldl_cons, List.foldl_cons, ih]
    | false =>
      rw [List.filter_cons_of_neg (by simp [ha]), List.foldl_cons, textAfter_of_reaches ha, ih]

/-- An assignment that reaches a place without giving it a text displaces the one that is there. -/
theorem textAfter_of_text? {names : List String} {a : Assignment} (hreaches : a.reaches names = true)
    (htext : a.text? names = none) (old : Option String) : textAfter names old a = none := by
  rw [reaches, htext] at hreaches
  rw [textAfter, if_pos (by simpa using hreaches)]

/-- Either no text is given, or one assignment alone reaches the place. -/
theorem Settles.cases {names : List String} {as : List Assignment} (h : Settles names as) :
    (∀ a ∈ as, a.text? names = none) ∨ ∃ a, as.filter (·.reaches names) = [a] := by
  rcases h with hnone | hone
  · exact Or.inl hnone
  · rw [List.countP_eq_length_filter] at hone
    rcases Nat.le_one_iff_eq_zero_or_eq_one.1 hone with hzero | hone
    · refine Or.inl fun a ha => ?_
      have hleft := List.filter_eq_nil_iff.1 (List.length_eq_zero_iff.1 hzero) a ha
      rw [reaches, Bool.or_eq_true, not_or] at hleft
      simpa using hleft.1
    · exact Or.inr (List.length_eq_one_iff.1 hone)

/-- The order of assignments that settle a place makes no difference to it. -/
theorem foldl_textAfter_perm {names : List String} {as bs : List Assignment} (h : Settles names as)
    (hperm : bs.Perm as) (old : Option String) :
    bs.foldl (textAfter names) old = as.foldl (textAfter names) old := by
  rw [← foldl_textAfter_filter, ← foldl_textAfter_filter names as]
  have hreached := hperm.filter (·.reaches names)
  rcases h.cases with hnone | ⟨a, hfilter⟩
  · -- all of them displace the text
    have hafter : ∀ a ∈ bs.filter (·.reaches names), ∀ old, textAfter names old a = none := by
      intro a ha old
      obtain ⟨ha, hreaches⟩ := List.mem_filter.1 ha
      exact textAfter_of_text? hreaches (hnone a (hperm.mem_iff.1 ha)) old
    exact hreached.foldl_eq' (fun a ha b hb _ => (hafter b hb _).trans (hafter a ha _).symm) old
  · rw [hfilter] at hreached
    rw [hfilter, hreached.eq_singleton]

/-- A text among assignments that settle its place is there in the end. -/
theorem foldl_textAfter_of_mem {names : List String} {as : List Assignment} (h : Settles names as)
    {a : Assignment} (ha : a ∈ as) {text : String} (htext : a.text? names = some text)
    (old : Option String) : as.foldl (textAfter names) old = some text := by
  rcases h.cases with hnone | ⟨b, hfilter⟩
  · rw [hnone a ha] at htext
    cases htext
  · have hmem : a ∈ as.filter (·.reaches names) := List.mem_filter.2 ⟨ha, by simp [reaches, htext]⟩
    rw [hfilter] at hmem
    obtain rfl := List.mem_singleton.1 hmem
    rw [← foldl_textAfter_filter, hfilter, List.foldl_cons, List.foldl_nil, textAfter,
      displaces_eq_false_of_text? htext, htext]
    rfl

/-- Fewer assignments settle what more do. -/
theorem Settles.of_sublist {names : List String} {as bs : List Assignment} (h : Settles names bs)
    (hsub : as.Sublist bs) : Settles names as :=
  h.imp (fun hnone a ha => hnone a (hsub.subset ha)) hsub.countP_le.trans

end DocPages.Setting
