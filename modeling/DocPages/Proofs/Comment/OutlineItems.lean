import DocPages.Proofs.Comment.Outline

/-!
# Items of outlines

The lines of an outline hold the items of the outline (`rawList_lines`). Items are told apart by their
column alone: those of the list start at column zero once its lines have lost their indentation
(`dedent_lines`), and those of lists below start further to the right. So an item takes the lines of the
list below it and the empty line after it, of which only the former are kept (`itemsFrom_nextFlush`), and
empty lines inside of an item do not separate items of the list (`hasBlankBetween_moreFlush`).
-/

namespace DocPages.Comment

open Text

/-! ## Columns -/

theorem stripIndent_replicate (n : ℕ) (l : Line) : stripIndent n (List.replicate n ' ' ++ l) = l := by
  induction n with
  | zero => cases l <;> rfl
  | succ n ih =>
    rw [List.replicate_succ, List.cons_append, stripIndent, if_pos isBlank_space]
    exact ih

theorem stripIndent_indentBy (n : ℕ) (l : Line) : stripIndent n (indentBy n l) = l := by
  by_cases h : l = []
  · rw [h]
    cases n <;> rfl
  · rw [indentBy_of_ne_nil n h]
    exact stripIndent_replicate n l

theorem indentation_indentBy (n : ℕ) {l : Line} (h : l ≠ []) :
    indentation (indentBy n l) = n + indentation l := by
  unfold indentation
  rw [indentBy_of_ne_nil n h, List.takeWhile_append_of_pos, List.length_append, List.length_replicate]
  intro c hc
  rw [List.eq_of_mem_replicate hc]
  exact isBlank_space

theorem isBlankLine_indentBy (n : ℕ) (l : Line) : isBlankLine (indentBy n l) = isBlankLine l := by
  by_cases h : l = []
  · rw [h]
    rfl
  · rw [indentBy_of_ne_nil n h]
    simp [isBlankLine, isBlank_space]

section FlushLine

variable (mark : ItemMark) (text : ItemText)

theorem takeWhile_flushLine : (flushLine mark text).takeWhile isBlank = [] := by
  obtain ⟨c, signs, hsigns⟩ := List.exists_cons_of_ne_nil mark.signs_spec.ne_nil
  have hc := mark.signs_not_blank c (hsigns ▸ List.mem_cons_self)
  unfold flushLine
  rw [hsigns, List.cons_append, List.takeWhile_cons_of_neg (by simp [hc])]

theorem indentation_flushLine : indentation (flushLine mark text) = 0 := by
  unfold indentation
  rw [takeWhile_flushLine]
  rfl

theorem trimStart_flushLine : trimStart (flushLine mark text) = flushLine mark text := by
  have h := List.takeWhile_append_dropWhile (p := isBlank) (l := flushLine mark text)
  rw [takeWhile_flushLine, List.nil_append] at h
  exact h

theorem flushLine_ne_nil : flushLine mark text ≠ [] := by simp [flushLine]

theorem drop_flushLine : (flushLine mark text).drop mark.width = text.chars := by
  unfold flushLine ItemMark.width
  rw [← List.append_assoc]
  exact List.drop_left' (by simp)

theorem marker?_flushLine :
    marker? (flushLine mark text) = some ⟨mark.number?, mark.width⟩ := by
  refine marker?_of_signs mark.signs_spec (by simp) (by simp [isGap]) fun c hc => ?_
  have hblank := text.head_not_blank c hc
  by_contra hgap
  have hgap' : c = ' ' ∨ c = '\t' := by simpa [isGap, or_iff_not_imp_left] using hgap
  rcases hgap' with rfl | rfl <;> exact absurd hblank (by decide)

theorem itemMarker?_flushLine (base : ℕ) :
    itemMarker? base (flushLine mark text) = some ⟨mark.number?, mark.width⟩ := by
  unfold itemMarker?
  rw [indentation_flushLine, trimStart_flushLine, marker?_flushLine]
  rfl

end FlushLine

/-- A line further to the right starts no item at column zero. -/
theorem itemMarker?_indentBy {n : ℕ} (hn : 0 < n) (l : Line) :
    itemMarker? 0 (indentBy n l) = none := by
  by_cases h : l = []
  · rw [h]
    rfl
  · unfold itemMarker?
    rw [indentation_indentBy n h, if_neg]
    rw [Nat.ble_eq]
    omega

theorem Entry.itemMarker?_belowLines (e : Entry) :
    ∀ l ∈ e.belowLines.map (indentBy e.mark.width), itemMarker? 0 l = none := by
  intro l hl
  obtain ⟨k, -, rfl⟩ := List.mem_map.1 hl
  exact itemMarker?_indentBy (Nat.succ_pos _) k

/-! ## Items -/

/-- The lines of an item without its marker. -/
def Entry.inner (e : Entry) : List Line :=
  e.text.chars :: e.belowLines

theorem Entry.endsFull_inner (e : Entry) : EndsFull e.inner := by
  cases e with
  | leaf mark text => exact endsFull_singleton text.ne_nil
  | branch mark text below => exact below.endsFull_lines.append [_]

theorem itemsFrom_drop (base : ℕ) (ls : List Line) :
    ∀ skip, itemsFrom base skip ls = itemsFrom base 0 (ls.drop skip) := by
  induction ls with
  | nil => intro skip; cases skip <;> rfl
  | cons l ls ih =>
    intro skip
    cases skip with
    | zero => rfl
    | succ skip => exact ih skip

/-- Lines that start no item belong to the item above them. -/
theorem itemLines_append {base col : ℕ} {ls : List Line} (h : ∀ l ∈ ls, itemMarker? base l = none)
    (more : List Line) :
    (itemLines base col (ls ++ more)).1 = ls.map (stripIndent col) ++ (itemLines base col more).1 := by
  induction ls with
  | nil => rfl
  | cons l ls ih =>
    rw [List.cons_append, itemLines, h l List.mem_cons_self]
    show stripIndent col l :: (itemLines base col (ls ++ more)).1 = _
    rw [ih fun k hk => h k (List.mem_cons_of_mem l hk)]
    rfl

theorem itemLines_flush (col : ℕ) (e : Entry) (more : List Line) :
    (itemLines 0 col (e.flush ++ more)).1 = [] := by
  rw [Entry.flush, List.cons_append, itemLines, itemMarker?_flushLine]
  rfl

/-- The lines from the next item on. -/
def Entry.nextFlush (spaced : Bool) : List Entry → List Line
  | [] => []
  | e :: es => e.flush ++ Entry.moreFlush spaced es

/-- An item takes the empty line after it, if there is one, and leaves the items after it. -/
theorem itemLines_moreFlush (col : ℕ) (spaced : Bool) (es : List Entry) :
    (∀ l ∈ (itemLines 0 col (Entry.moreFlush spaced es)).1, l = []) ∧
      (Entry.moreFlush spaced es).drop (itemLines 0 col (Entry.moreFlush spaced es)).1.length =
        Entry.nextFlush spaced es := by
  rcases es with _ | ⟨e, es⟩
  · exact ⟨by simp [Entry.moreFlush, itemLines], rfl⟩
  · have hsep : ∀ l ∈ separator spaced, itemMarker? 0 l = none := by
      cases spaced <;> simp [separator, itemMarker?, marker?, trimStart]
    have hown : (itemLines 0 col (Entry.moreFlush spaced (e :: es))).1 = separator spaced := by
      rw [Entry.moreFlush, List.append_assoc, itemLines_append hsep, itemLines_flush, List.append_nil]
      cases spaced
      · rfl
      · cases col <;> rfl
    rw [hown]
    refine ⟨by cases spaced <;> simp [separator], ?_⟩
    rw [Entry.moreFlush, List.append_assoc]
    exact List.drop_left

theorem itemsFrom_flush_append (spaced : Bool) (e : Entry) (es : List Entry) :
    itemsFrom 0 0 (e.flush ++ Entry.moreFlush spaced es) =
      ⟨e.mark.number?, e.inner⟩ :: itemsFrom 0 0 (Entry.nextFlush spaced es) := by
  obtain ⟨hblank, hnext⟩ := itemLines_moreFlush e.mark.width spaced es
  have hown : (itemLines 0 e.mark.width
      (e.belowLines.map (indentBy e.mark.width) ++ Entry.moreFlush spaced es)).1 =
        e.belowLines ++ (itemLines 0 e.mark.width (Entry.moreFlush spaced es)).1 := by
    rw [itemLines_append e.itemMarker?_belowLines, List.map_map]
    congr 1
    exact List.map_id'' (stripIndent_indentBy e.mark.width) e.belowLines
  have hinner := e.endsFull_inner.takeToLast_append hblank
  rw [Entry.flush, List.cons_append, itemsFrom, itemMarker?_flushLine]
  simp only [indentation_flushLine, Nat.zero_add, trimStart_flushLine, drop_flushLine, hown]
  rw [Entry.inner, List.cons_append] at hinner
  rw [hinner, itemsFrom_drop, List.length_append, ← List.drop_drop, ← hnext]
  congr 3
  exact List.drop_left' (by simp)

/-- The items of a list at column zero are those of the outline. -/
theorem itemsFrom_nextFlush (spaced : Bool) (es : List Entry) :
    itemsFrom 0 0 (Entry.nextFlush spaced es) = es.map fun e => ⟨e.mark.number?, e.inner⟩ := by
  induction es with
  | nil => rfl
  | cons e es ih => rw [Entry.nextFlush, itemsFrom_flush_append, ih, List.map_cons]

/-! ## Empty lines between items -/

/-- Lines that start no item and do not end in an empty line separate no items. -/
theorem hasBlankBetween_append {base : ℕ} {ls : List Line} (h : ∀ l ∈ ls, itemMarker? base l = none)
    (hlast : ls.getLast? ≠ some []) (more : List Line) :
    hasBlankBetween base (ls ++ more) = hasBlankBetween base more := by
  induction ls with
  | nil => rfl
  | cons l ls ih =>
    rw [List.cons_append, hasBlankBetween]
    rcases ls with _ | ⟨k, ls⟩
    · have hl : l.isEmpty = false := by
        rw [List.isEmpty_eq_false_iff]
        rintro rfl
        exact hlast rfl
      rw [hl]
      rfl
    · have hk : itemMarker? base k = none := h k (by simp)
      rw [List.getLast?_cons_cons] at hlast
      rw [ih (fun m hm => h m (List.mem_cons_of_mem l hm)) hlast]
      simp [hk]

theorem Entry.hasBlankBetween_belowLines (e : Entry) (more : List Line) :
    hasBlankBetween 0 (e.belowLines.map (indentBy e.mark.width) ++ more) = hasBlankBetween 0 more := by
  apply hasBlankBetween_append e.itemMarker?_belowLines
  cases e with
  | leaf mark text => simp [Entry.belowLines]
  | branch mark text below => exact (below.endsFull_lines.map_indentBy _).getLast?

/-- Items are separated by empty lines if the list is spaced and another item follows. -/
theorem hasBlankBetween_moreFlush (spaced : Bool) (es : List Entry) :
    hasBlankBetween 0 (Entry.moreFlush spaced es) = (spaced && !es.isEmpty) := by
  induction es with
  | nil => cases spaced <;> rfl
  | cons e es ih =>
    have hline : (flushLine e.mark e.text).isEmpty = false :=
      List.isEmpty_eq_false_iff.2 (flushLine_ne_nil _ _)
    rw [Entry.moreFlush, Entry.flush]
    cases spaced with
    | false =>
      show hasBlankBetween 0 (flushLine e.mark e.text :: (_ ++ _)) = _
      rw [hasBlankBetween, e.hasBlankBetween_belowLines, ih, hline]
      rfl
    | true =>
      show hasBlankBetween 0 ([] :: flushLine e.mark e.text :: (_ ++ _)) = _
      rw [hasBlankBetween]
      simp [itemMarker?_flushLine]

/-! ## Indentation of a list -/

theorem isBlankLine_flushLine (mark : ItemMark) (text : ItemText) :
    isBlankLine (flushLine mark text) = false := by
  rw [← Bool.not_eq_true]
  intro h
  exact flushLine_ne_nil mark text ((printed_flushLine mark text).2 h)

theorem Outline.eq_nil_of_mem_flush (o : Outline) {l : Line} (hl : l ∈ o.flush)
    (hblank : isBlankLine l = true) : l = [] := by
  have hline : indentBy 2 l ∈ o.lines := o.lines_eq ▸ List.mem_map_of_mem hl
  rw [← isBlankLine_indentBy 2] at hblank
  exact indentBy_eq_nil.1 ((o.printed_lines _ hline).2 hblank)

theorem commonIndent_lines (o : Outline) : commonIndent o.lines = 2 := by
  obtain ⟨spaced, first, others⟩ := o
  rw [Outline.lines_eq]
  apply commonIndent_eq
  · intro l hl hblank
    obtain ⟨k, -, rfl⟩ := List.mem_map.1 hl
    have hk : k ≠ [] := by
      rintro rfl
      cases hblank
    rw [indentation_indentBy 2 hk]
    exact Nat.le_add_right 2 _
  · refine ⟨indentBy 2 (flushLine first.mark first.text),
      List.mem_map_of_mem List.mem_cons_self, ?_, ?_⟩
    · rw [isBlankLine_indentBy, isBlankLine_flushLine]
    · rw [indentation_indentBy 2 (flushLine_ne_nil _ _), indentation_flushLine]

/-- A list loses the indentation that it is printed with. -/
theorem dedent_lines (o : Outline) : dedent o.lines = o.flush := by
  unfold dedent
  rw [commonIndent_lines, o.lines_eq, List.map_map]
  refine (List.map_congr_left fun l hl => ?_).trans (List.map_id o.flush)
  show (if isBlankLine (indentBy 2 l) then [] else stripIndent 2 (indentBy 2 l)) = l
  rw [isBlankLine_indentBy, stripIndent_indentBy]
  split_ifs with hblank
  · exact (o.eq_nil_of_mem_flush hl hblank).symm
  · rfl

/-- The list that the lines of an outline hold. -/
theorem rawList_lines (spaced : Bool) (first : Entry) (others : List Entry) :
    rawList (Outline.mk spaced first others).lines =
      ⟨spaced && !others.isEmpty, (first :: others).map fun e => ⟨e.mark.number?, e.inner⟩⟩ := by
  have hbase : indentation (flushLine first.mark first.text) = 0 := indentation_flushLine _ _
  have hblank := (first.hasBlankBetween_belowLines _).trans (hasBlankBetween_moreFlush spaced others)
  have hitems := itemsFrom_nextFlush spaced (first :: others)
  unfold rawList
  rw [dedent_lines]
  simp only [Outline.flush, Entry.flush, List.cons_append, List.head?_cons, Option.map_some,
    Option.getD_some, hbase, List.drop_succ_cons, List.drop_zero, hblank]
  congr 1

end DocPages.Comment
