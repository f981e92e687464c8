import DocPages.Page.Value
import Mathlib.Data.List.Basic

/-!
# Laws of template values

An attribute of a record is the entry of that name (`attr_record`), and what a template gets out of its
data is nested less deep than the data (`depth_attr_lt`, `depth_lt_of_mem_list`).
-/

namespace DocPages

/-! ## Records -/

theorem SortedMap.lookup_ofEntries {α : Type} (es : List (String × α)) (k : String) :
    (SortedMap.ofEntries es).lookup k = es.reverse.lookup k := by
  unfold SortedMap.ofEntries
  rw [← List.foldr_reverse]
  induction es.reverse with
  | nil => rfl
  | cons e rest ih =>
    rw [List.foldr_cons, SortedMap.lookup_put, ih, SortedMap.lookup_cons_if]

namespace Template.Value

theorem attr_ofEntries (es : List (String × Value)) (x : String) :
    (ofEntries es).attr x = (es.reverse.lookup x).getD undefined := by
  show ((SortedMap.ofEntries es).lookup x).getD undefined = _
  rw [SortedMap.lookup_ofEntries]

theorem attr_record {es : List (String × Value)} {x : String} {v : Value}
    (h : es.reverse.lookup x = some v) : (record es).attr x = v := by
  show (ofEntries es).attr x = v
  rw [attr_ofEntries, h, Option.getD_some]

/-! ## Depth -/

theorem depth_le_depthAll {v : Value} {vs : List Value} (h : v ∈ vs) : v.depth ≤ depthAll vs := by
  induction vs with
  | nil => cases h
  | cons w vs ih =>
    rw [depthAll]
    rcases List.mem_cons.1 h with rfl | h
    · exact Nat.le_max_left _ _
    · exact Nat.le_trans (ih h) (Nat.le_max_right _ _)

theorem depth_lt_of_mem_list {v : Value} {vs : List Value} (h : v ∈ vs) :
    v.depth < (list vs).depth := by
  have hle := depth_le_depthAll h
  rw [depth]
  omega

theorem depth_le_depthEntries {x : String} {v : Value} {es : List (String × Value)}
    (h : es.lookup x = some v) : v.depth ≤ depthEntries es := by
  induction es with
  | nil => cases h
  | cons e es ih =>
    obtain ⟨k, w⟩ := e
    rw [SortedMap.lookup_cons_if] at h
    rw [depthEntries]
    split_ifs at h
    · cases h
      exact Nat.le_max_left _ _
    · exact Nat.le_trans (ih h) (Nat.le_max_right _ _)

/-- An attribute is nested less deep than what it belongs to. -/
theorem depth_attr_lt {v w : Value} {x : String} (h : v.attr x = w) (hw : w.isUndefined = false) :
    w.depth < v.depth := by
  unfold attr at h
  split at h
  · rename_i es
    cases hlookup : es.lookup x with
    | none =>
      rw [hlookup] at h
      subst h
      cases hw
    | some u =>
      rw [hlookup] at h
      subst h
      have hle := depth_le_depthEntries hlookup
      show u.depth < 1 + depthEntries es
      omega
  · subst h
    cases hw

/-- So is an item of an attribute. -/
theorem depth_lt_of_mem_attr {v w : Value} {x : String} {vs : List Value} (h : v.attr x = list vs)
    (hw : w ∈ vs) : w.depth + 1 < v.depth := by
  have hlist := depth_attr_lt h rfl
  have hmem := depth_lt_of_mem_list hw
  omega

/-! ## Fields -/

section

variable {es : List (String × Value)} {x : String} {n : ℕ}

theorem exists_succ_of_depth_le (h : (record es).depth ≤ n) : ∃ m, n = m + 1 := by
  have hpos : 1 ≤ (record es).depth := Nat.le_add_right 1 _
  exact ⟨n - 1, by omega⟩

theorem depth_field_le {v : Value} (h : (record es).depth ≤ n + 1)
    (hx : es.reverse.lookup x = some v) (hv : v.isUndefined = false) : v.depth ≤ n := by
  have := depth_attr_lt (attr_record hx) hv
  omega

theorem depth_item_le {α : Type} {items : List α} {val : α → Value}
    (h : (record es).depth ≤ n + 1) (hx : es.reverse.lookup x = some (.list (items.map val))) {a : α}
    (ha : a ∈ items) : (val a).depth ≤ n := by
  have := depth_lt_of_mem_attr (attr_record hx) (List.mem_map_of_mem (f := val) ha)
  omega

end

end Template.Value

end DocPages
