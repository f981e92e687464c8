/-!
# Ordered maps

Maps from texts as lists of entries in the order of their keys, which is the order of code points. Core's
`List.lookup` reads them.
-/

namespace DocPages.SortedMap

variable {α : Type}

/-- Puts a value under a key, in place of an earlier one. -/
def put (key : String) (val : α) : List (String × α) → List (String × α)
  | [] => [(key, val)]
  | (k, v) :: rest =>
    if key = k then (key, val) :: rest
    else if key < k then (key, val) :: (k, v) :: rest
    else (k, v) :: put key val rest

/-- The map of some entries, of which a later one replaces an earlier one of the same key. -/
def ofEntries (entries : List (String × α)) : List (String × α) :=
  entries.foldl (fun m (k, v) => put k v m) []

theorem lookup_cons_if (key k : String) (val : α) (m : List (String × α)) :
    List.lookup k ((key, val) :: m) = if k = key then some val else m.lookup k := by
  by_cases h : k = key
  · simp [h]
  · simp [List.lookup_cons, h, beq_eq_false_iff_ne.2 h]

theorem lookup_put (key k : String) (val : α) (m : List (String × α)) :
    (put key val m).lookup k = if k = key then some val else m.lookup k := by
  induction m with
  | nil => simp [put, lookup_cons_if]
  | cons e rest ih =>
    obtain ⟨k', v⟩ := e
    simp only [put]
    split
    · grind [lookup_cons_if]
    · split <;> grind [lookup_cons_if]

end DocPages.SortedMap
