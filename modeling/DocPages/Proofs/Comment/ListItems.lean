import DocPages.Proofs.Comment.WellFormed

/-!
# The items of a run

A run of lines that starts with an item falls into portions, one for each item in order: the line with the
marker and the lines below it up to the next item (`portions_rawList`). The item has the text behind the
marker and the lines below without some of their indentation; only empty lines at its end are left out. So
an item has fewer characters than its run, which holds the marker too, and the lines of items, the lines of
their items, and so on, come to an end (`wellFounded_isItemOf`): the blocks of lines are the one solution of
the recursion by which lists are parsed (`eq_blocks_iff`).
-/

namespace DocPages.Comment

open Text

/-! ## Lines of a run -/

/-- What is left of a line of a run that is indented by `n`. -/
def dedentLine (n : ℕ) (l : Line) : Line :=
  if isBlankLine l then [] else stripIndent n l

theorem trimStart_dedentLine (n : ℕ) (l : Line) : trimStart (dedentLine n l) = trimStart l := by
  unfold dedentLine
  split
  · rename_i hblank
    rw [isBlankLine_iff_trimStart.1 hblank]
    rfl
  · exact trimStart_stripIndent n l

theorem indentation_dedentLine {n : ℕ} {l : Line} (htext : isBlankLine l = false) :
    indentation (dedentLine n l) = indentation l - n := by
  unfold dedentLine
  rw [if_neg (by simp [htext]), indentation_stripIndent]

theorem commonIndent_le {run : List Line} {l : Line} (hl : l ∈ run) (htext : isBlankLine l = false) :
    commonIndent run ≤ indentation l := by
  have hmem : indentation l ∈ (run.filter (!isBlankLine ·)).map indentation :=
    List.mem_map_of_mem (List.mem_filter.2 ⟨hl, by simp [htext]⟩)
  unfold commonIndent
  cases hmin : ((run.filter (!isBlankLine ·)).map indentation).min? with
  | none =>
    rw [List.min?_eq_none_iff.1 hmin] at hmem
    cases hmem
  | some n => exact (List.min?_eq_some_iff.1 hmin).2 _ hmem

/-- Losing the common indentation changes nothing about which lines start items. -/
theorem itemMarker?_dedentLine {run : List Line} {l k : Line} (hl : l ∈ run)
    (htext : isBlankLine l = false) (hk : k ∈ run) :
    itemMarker? (indentation (dedentLine (commonIndent run) l)) (dedentLine (commonIndent run) k) =
      itemMarker? (indentation l) k := by
  unfold itemMarker?
  rw [trimStart_dedentLine]
  by_cases hblank : isBlankLine k = true
  · rw [isBlankLine_iff_trimStart.1 hblank]
    simp [marker?]
  · rw [Bool.not_eq_true] at hblank
    have hle := commonIndent_le hl htext
    have hle' := commonIndent_le hk hblank
    rw [indentation_dedentLine htext, indentation_dedentLine hblank]
    have hiff : Nat.ble (indentation k - commonIndent run) (indentation l - commonIndent run) =
        Nat.ble (indentation k) (indentation l) := by
      rw [Bool.eq_iff_iff, Nat.ble_eq, Nat.ble_eq]
      omega
    rw [hiff]

/-! ## Portions -/

/-- The lines of a run that an item takes: the one with its marker, and those below. -/
structure Portion where
  head : Line
  below : List Line

def Portion.lines (p : Portion) : List Line :=
  p.head :: p.below

/-- `k` is the line `l` without some of the white space at its start, and empty if `l` is blank. -/
def LosesIndent (l k : Line) : Prop :=
  if isBlankLine l then k = [] else ∃ space, (∀ c ∈ space, isBlank c = true) ∧ l = space ++ k

/-- The item of a portion. Its lines are the text behind the marker and the lines below, which lose
indentation, up to the last one that is not empty. -/
def Portion.Gives (p : Portion) (i : RawItem) : Prop :=
  ∃ m own dropped, marker? (trimStart p.head) = some m ∧ i.number = m.number ∧
    List.Forall₂ LosesIndent p.below own ∧
    (trimStart p.head).drop m.width :: own = i.lines ++ dropped ∧
    (∀ k ∈ dropped, k = []) ∧ ∀ k ∈ i.lines.getLast?, k ≠ []

theorem exists_eq_append_stripIndent (n : ℕ) (l : Line) :
    ∃ space, (∀ c ∈ space, isBlank c = true) ∧ l = space ++ stripIndent n l := by
  fun_induction stripIndent n l with
  | case1 n c cs hc ih =>
    obtain ⟨space, hspace, hcs⟩ := ih
    refine ⟨c :: space, List.forall_mem_cons.2 ⟨hc, hspace⟩, ?_⟩
    rw [List.cons_append, ← hcs]
  | case2 => exact ⟨[], List.forall_mem_nil _, rfl⟩
  | case3 => exact ⟨[], List.forall_mem_nil _, rfl⟩

theorem losesIndent_stripIndent (n col : ℕ) (l : Line) :
    LosesIndent l (stripIndent col (dedentLine n l)) := by
  unfold LosesIndent dedentLine
  split
  · cases col <;> rfl
  · obtain ⟨space, hspace, hl⟩ := exists_eq_append_stripIndent n l
    obtain ⟨more, hmore, hrest⟩ := exists_eq_append_stripIndent col (stripIndent n l)
    refine ⟨space ++ more, List.forall_mem_append.2 ⟨hspace, hmore⟩, ?_⟩
    rw [List.append_assoc, ← hrest, ← hl]

/-- The line belongs to the item above it. -/
def goesOn (base : ℕ) (l : Line) : Bool :=
  (itemMarker? base l).isNone

/-- The lines below an item are those up to the next one. -/
theorem itemLines_eq_takeWhile (base col : ℕ) (ls : List Line) :
    (itemLines base col ls).1 = (ls.takeWhile (goesOn base)).map (stripIndent col) := by
  induction ls with
  | nil => rfl
  | cons l ls ih =>
    unfold itemLines
    cases hl : itemMarker? base l with
    | some m => simp [goesOn, hl]
    | none => simp [goesOn, hl, ih]

/-- The same in terms of the lines of the run. -/
theorem itemLines_dedentLine (base col n : ℕ) (ls : List Line) :
    (itemLines base col (ls.map (dedentLine n))).1 =
      (ls.takeWhile (goesOn base ∘ dedentLine n)).map (stripIndent col ∘ dedentLine n) := by
  rw [itemLines_eq_takeWhile, List.takeWhile_map, List.map_map]

/-- The rest starts with the next item. -/
theorem startsItem_dropWhile (base n : ℕ) (ls : List Line) :
    StartsItem base ((ls.dropWhile (goesOn base ∘ dedentLine n)).map (dedentLine n)) := by
  intro d hd
  rw [List.head?_map] at hd
  obtain ⟨k, hk, rfl⟩ := Option.map_eq_some_iff.1 hd
  have hstop := List.head?_dropWhile_not (goesOn base ∘ dedentLine n) ls
  rw [hk] at hstop
  simpa [goesOn] using hstop

theorem gives_itemLines {base n : ℕ} {l : Line} {m : Marker} (below : List Line)
    (hm : itemMarker? base (dedentLine n l) = some m) :
    Portion.Gives ⟨l, below⟩ ⟨m.number, takeToLast (!·.isEmpty)
      ((trimStart (dedentLine n l)).drop m.width ::
        below.map fun k => stripIndent (indentation (dedentLine n l) + m.width) (dedentLine n k))⟩ := by
  have hmarker := marker?_of_itemMarker? hm
  rw [trimStart_dedentLine] at hmarker ⊢
  obtain ⟨dropped, hsplit, hdropped⟩ := exists_eq_takeToLast_append (fun k : Line => !k.isEmpty)
    ((trimStart l).drop m.width ::
      below.map fun k => stripIndent (indentation (dedentLine n l) + m.width) (dedentLine n k))
  refine ⟨m, _, dropped, hmarker, rfl, ?_, hsplit, ?_, ?_⟩
  · rw [List.forall₂_map_right_iff, List.forall₂_same]
    exact fun k _ => losesIndent_stripIndent n _ k
  · intro k hk
    simpa using hdropped k hk
  · intro k hk
    simpa using getLast?_takeToLast hk

/-- From the start of an item on the lines fall into portions, and each item comes from one of them. -/
theorem exists_portions (base n : ℕ) (ls : List Line) : ∀ skip,
    StartsItem base ((ls.drop skip).map (dedentLine n)) →
      ∃ ps : List Portion, ps.flatMap Portion.lines = ls.drop skip ∧
        (∀ p ∈ ps, (itemMarker? base (dedentLine n p.head)).isSome = true ∧
          ∀ k ∈ p.below, itemMarker? base (dedentLine n k) = none) ∧
        List.Forall₂ Portion.Gives ps (itemsFrom base skip (ls.map (dedentLine n))) := by
  induction ls with
  | nil =>
    intro skip _
    refine ⟨[], by simp, List.forall_mem_nil _, ?_⟩
    cases skip <;> exact .nil
  | cons l ls ih =>
    intro skip hstart
    rcases skip with _ | skip
    · obtain ⟨m, hm⟩ := Option.isSome_iff_exists.1 (hstart (dedentLine n l) rfl)
      -- the portion ends before the next line that starts an item
      have hdrop := drop_length_takeWhile (goesOn base ∘ dedentLine n) ls
      obtain ⟨ps, hlines, hplaces, hgives⟩ := ih _ (hdrop ▸ startsItem_dropWhile base n ls)
      refine ⟨⟨l, ls.takeWhile (goesOn base ∘ dedentLine n)⟩ :: ps, ?_, ?_, ?_⟩
      · rw [List.flatMap_cons, hlines, hdrop, List.drop_zero, Portion.lines, List.cons_append,
          List.takeWhile_append_dropWhile]
      · refine List.forall_mem_cons.2 ⟨⟨by simp [hm], fun k hk => ?_⟩, hplaces⟩
        simpa [goesOn] using List.mem_takeWhile_imp hk
      · rw [List.map_cons]
        simp only [itemsFrom, hm, itemLines_dedentLine, List.length_map]
        exact .cons (gives_itemLines _ hm) hgives
    · exact ih skip hstart

/-! ## Nesting -/

/-- The lines `ks` are those of an item of a list in the lines `ls`. -/
def IsItemOf (ks ls : List Line) : Prop :=
  ∃ run, Chunk.list run ∈ chunks ls ∧ ∃ i ∈ (rawList run).items, i.lines = ks

theorem size_lt_of_isItemOf {ks ls : List Line} (h : IsItemOf ks ls) : size ks < size ls := by
  obtain ⟨run, hrun, i, hi, rfl⟩ := h
  exact Nat.lt_of_lt_of_le (size_item_lt hi) (size_le_of_sublist (list_mem_chunks hrun).1)

theorem wellFounded_isItemOf : WellFounded IsItemOf :=
  Subrelation.wf size_lt_of_isItemOf (InvImage.wf size Nat.lt_wfRel.wf)

/-- The recursion over lists in items has one solution. -/
theorem eq_blocks_iff {level : ℕ} {f : List Line → List (Block (List Char))} :
    (∀ ls, f ls = (chunks ls).flatMap (chunkBlocks level f)) ↔ f = blocks level := by
  constructor
  · intro hf
    funext ls
    induction hn : size ls using Nat.strong_induction_on generalizing ls with
    | _ n ih =>
      rw [hf, blocks_eq]
      exact flatMap_chunkBlocks_congr fun ks hks => ih (size ks) (hn ▸ hks) ks rfl
  · rintro rfl
    exact blocks_eq level

/-- **A run is split into items without loss.** Each line belongs to one portion, in order. A portion starts
at a line with a marker that is indented no further than the first line of the run, and goes on up to the
next one. Each item has fewer characters than the run, so parsing the lines of items again comes to an end
on all lines, and the blocks are determined by it. -/
theorem portions_rawList {l : Line} (hmarker : (marker? (trimStart l)).isSome = true)
    (more : List Line) :
    (∃ ps : List Portion, ps.flatMap Portion.lines = l :: more ∧
      (∀ p ∈ ps, (itemMarker? (indentation l) p.head).isSome = true ∧
        ∀ k ∈ p.below, itemMarker? (indentation l) k = none) ∧
      List.Forall₂ Portion.Gives ps (rawList (l :: more)).items) ∧
    (∀ i ∈ (rawList (l :: more)).items, size i.lines < size (l :: more)) ∧
    WellFounded IsItemOf ∧
    ∀ (level : ℕ) (f : List Line → List (Block (List Char))),
      (∀ ls, f ls = (chunks ls).flatMap (chunkBlocks level f)) ↔ f = blocks level := by
  refine ⟨?_, fun i hi => size_item_lt hi, wellFounded_isItemOf, fun _ _ => eq_blocks_iff⟩
  have htext : isBlankLine l = false := by
    rw [Bool.eq_false_iff]
    intro hblank
    rw [isBlankLine_iff_trimStart.1 hblank] at hmarker
    cases hmarker
  have hplace {k : Line} (hk : k ∈ l :: more) := itemMarker?_dedentLine List.mem_cons_self htext hk
  have hstart : StartsItem (indentation (dedentLine (commonIndent (l :: more)) l))
      (((l :: more).drop 0).map (dedentLine (commonIndent (l :: more)))) := by
    intro d hd
    obtain rfl : dedentLine (commonIndent (l :: more)) l = d := by simpa using hd
    rw [hplace List.mem_cons_self]
    simpa [itemMarker?] using hmarker
  obtain ⟨ps, hlines, hplaces, hgives⟩ := exists_portions _ _ (l :: more) 0 hstart
  rw [List.drop_zero] at hlines
  refine ⟨ps, hlines, fun p hp => ?_, hgives⟩
  have hmem : ∀ k ∈ p.lines, k ∈ l :: more := fun k hk =>
    hlines ▸ List.mem_flatMap.2 ⟨p, hp, hk⟩
  obtain ⟨hhead, hbelow⟩ := hplaces p hp
  refine ⟨hplace (hmem p.head List.mem_cons_self) ▸ hhead, fun k hk => ?_⟩
  exact hplace (hmem k (List.mem_cons_of_mem p.head hk)) ▸ hbelow k hk

theorem portions_rawList_innerItem :
    let more := ["    - b".toList, [], "  -".toList, "  2) c".toList]
    let items := [⟨none, ["a".toList, "- b".toList]⟩, ⟨none, []⟩, ⟨some 2, ["c".toList]⟩]
    (rawList ("  - a".toList :: more)).items = items ∧
      (∃ ps : List Portion, ps.flatMap Portion.lines = "  - a".toList :: more ∧
        List.Forall₂ Portion.Gives ps items) ∧
      ∀ i ∈ items, size i.lines < size ("  - a".toList :: more) := by
  intro more items
  have hitems : (rawList ("  - a".toList :: more)).items = items := by decide
  obtain ⟨⟨ps, hlines, -, hgives⟩, hsize, -⟩ :=
    portions_rawList (l := "  - a".toList) (by decide) more
  rw [hitems] at hgives hsize
  exact ⟨hitems, ⟨ps, hlines, hgives⟩, hsize⟩

end DocPages.Comment
