import DocPages.Proofs.Comment.OutlineItems
import DocPages.Proofs.Text.Collapse

/-!
# Parsing outlines

Printing an outline and parsing the result gives the outline back, as a single list block
(`parse_print`).

1. The lines of an outline are one chunk (`chunksFrom_lines`).
2. The lines of an item are its text and the lines of the list below it. The text is a paragraph of its
   own, because the line after it starts an item (`Entry.chunks_inner`).
3. By induction on the outline, its lines are parsed into its block (`listBlock_lines`), and those of an
   item into the blocks of the item (`blocks_inner`).
-/

namespace DocPages.Comment

open Text

/-! ## Chunks of a list -/

theorem isIndented_indentBy {l : Line} (h : isBlankLine (indentBy 2 l) = false) :
    isIndented (indentBy 2 l) = true := by
  have hl : l ≠ [] := by
    rintro rfl
    cases h
  rw [indentBy_of_ne_nil 2 hl]
  rfl

theorem Outline.isIndented_of_mem_lines (o : Outline) {l : Line} (hl : l ∈ o.lines)
    (hblank : isBlankLine l = false) : isIndented l = true := by
  rw [o.lines_eq] at hl
  obtain ⟨k, -, rfl⟩ := List.mem_map.1 hl
  exact isIndented_indentBy hblank

theorem Outline.exists_lines_eq (o : Outline) :
    ∃ mark text rest, o.lines = itemLine mark text :: rest := by
  obtain ⟨spaced, first, others⟩ := o
  rw [Outline.lines_eq]
  exact ⟨first.mark, first.text, _, by rw [← indentBy_flushLine]; rfl⟩

section ItemLine

variable (mark : ItemMark) (text : ItemText)

theorem isBlankLine_itemLine : isBlankLine (itemLine mark text) = false := by
  rw [← indentBy_flushLine, isBlankLine_indentBy, isBlankLine_flushLine]

theorem headerText?_itemLine (rest : List Line) : headerText? (itemLine mark text) rest = none := by
  have hcapital : isUppercase ' ' = false := by decide
  simp [headerText?, itemLine, dropFront?, hcapital]

theorem marker?_itemLine : (marker? (trimStart (itemLine mark text))).isSome = true := by
  have htrim : trimStart (itemLine mark text) = trimStart (flushLine mark text) := by
    simp [itemLine, trimStart, isBlank_space, flushLine]
  rw [htrim, trimStart_flushLine, marker?_flushLine]
  rfl

theorem chunkAt_itemLine (afterBlank : Bool) (rest : List Line) :
    chunkAt afterBlank (itemLine mark text) rest =
      (.list (itemLine mark text :: runTail rest), (runTail rest).length) := by
  rcases chunkAt_cases afterBlank (itemLine mark text) rest with ⟨_, -, hheader, -⟩ | ⟨-, -, heq⟩ |
    ⟨-, hmarker, -⟩ | ⟨hindent, -⟩
  · rw [headerText?_itemLine] at hheader
    cases hheader
  · exact heq
  · rw [marker?_itemLine] at hmarker
    cases hmarker
  · cases hindent

end ItemLine

/-- The lines of an outline are one chunk. -/
theorem chunksFrom_lines (afterBlank : Bool) (o : Outline) :
    chunksFrom afterBlank 0 o.lines = [.list o.lines] := by
  obtain ⟨mark, text, rest, hlines⟩ := o.exists_lines_eq
  have htail : runTail rest = rest := by
    apply runTail_eq_self
    · intro l hl
      exact o.isIndented_of_mem_lines (hlines ▸ List.mem_cons_of_mem _ hl)
    · intro l hl
      have hfull := o.endsFull_lines.getLast?
      have hprinted := o.printed_lines l (hlines ▸ List.mem_cons_of_mem _ (List.mem_of_getLast? hl))
      rw [← Bool.not_eq_true]
      intro hblank
      rw [hlines, List.getLast?_cons, hl, hprinted.2 hblank] at hfull
      exact hfull rfl
  rw [hlines, chunksFrom_of_text _ (isBlankLine_itemLine mark text), chunkAt_itemLine, htail,
    chunksFrom_length]

/-! ## Texts of items -/

namespace ItemText

variable (text : ItemText)

theorem exists_cons : ∃ c cs, text.chars = c :: cs ∧ isBlank c = false := by
  obtain ⟨c, cs, hchars⟩ := List.exists_cons_of_ne_nil text.ne_nil
  exact ⟨c, cs, hchars, text.head_not_blank c (by rw [hchars]; rfl)⟩

theorem isBlankLine_chars : isBlankLine text.chars = false := by
  obtain ⟨c, cs, hchars, hc⟩ := text.exists_cons
  rw [hchars]
  simp [isBlankLine, hc]

theorem isIndented_chars : isIndented text.chars = false := by
  obtain ⟨c, cs, hchars, hc⟩ := text.exists_cons
  rw [hchars]
  unfold isIndented
  split
  · rename_i h
    cases h
    exact absurd hc (by decide)
  · rename_i h
    cases h
    exact absurd hc (by decide)
  · rfl

theorem trim_chars : trim text.chars = text.chars := by
  obtain ⟨c, cs, hchars, hc⟩ := text.exists_cons
  refine trim_eq_self ?_ fun d hd => text.last_not_blank d hd
  intro d hd
  rw [hchars, List.head?_cons, Option.mem_some_iff] at hd
  rw [← hd]
  exact hc

theorem foldLines_chars : foldLines [text.chars] = text.chars := by
  show collapseBlanks (joinWords [trim text.chars]) = _
  rw [text.trim_chars, joinWords, List.intercalate_singleton]
  exact collapseBlanks_eq_self text.eq_space_of_blank text.single_spaces

end ItemText

/-! ## Blocks -/

theorem Entry.head?_belowLines (e : Entry) :
    ∀ l ∈ e.belowLines.head?, isBlankLine l = false ∧ isItemLine l = true := by
  intro l hl
  cases e with
  | leaf mark text => cases hl
  | branch mark text below =>
    obtain ⟨mark', text', rest, hlines⟩ := below.exists_lines_eq
    rw [Entry.belowLines, hlines] at hl
    cases hl
    exact ⟨isBlankLine_itemLine mark' text', marker?_itemLine mark' text'⟩

/-- The text of an item is a paragraph of its own. -/
theorem Entry.chunks_inner (e : Entry) :
    chunks e.inner = .paragraph [e.text.chars] :: chunksFrom false 0 e.belowLines := by
  have hbelow := e.head?_belowLines
  have htail : paragraphTail e.belowLines = [] := by
    unfold paragraphTail
    rcases hlines : e.belowLines with _ | ⟨l, rest⟩
    · rfl
    · have hitem := (hbelow l (by rw [hlines]; rfl)).2
      exact List.takeWhile_cons_of_neg (by simp [hitem])
  unfold chunks Entry.inner
  rw [chunksFrom_of_text _ e.text.isBlankLine_chars]
  unfold chunkAt
  simp only [if_true, headerText?_of_next e.text.not_heading fun l hl => (hbelow l hl).1,
    e.text.isIndented_chars, htail]
  rfl

variable (level : ℕ)

theorem Entry.items_eq_map (es : List Entry) : Entry.items level es = es.map (Entry.item level) := by
  induction es with
  | nil => rw [Entry.items]; rfl
  | cons e es ih => rw [Entry.items, ih]; rfl

theorem Entry.isEmpty_blocks_item (e : Entry) : (e.item level).blocks.isEmpty = false := by
  cases e <;> rw [Entry.item] <;> rfl

/-- An item holds something besides its text if there is a list below it. -/
theorem Entry.length_blocks_item (e : Entry) :
    ((e.item level).blocks.length != 1) = e.isBranch := by
  cases e <;> rw [Entry.item] <;> rfl

/-- A list of which the items are parsed into blocks. -/
theorem listBlock_of_items {spaced : Bool} {first : Entry} {others : List Entry}
    (h : ∀ e ∈ first :: others, Item.mk e.mark.number? (blocks level e.inner) = e.item level) :
    listBlock level (blocks level) (Outline.mk spaced first others).lines =
      [(Outline.mk spaced first others).block level] := by
  have hitems : ((rawList (Outline.mk spaced first others).lines).items.map fun i =>
      Item.mk i.number (blocks level i.lines)) = (first :: others).map (Entry.item level) := by
    rw [rawList_lines, List.map_map]
    exact List.map_congr_left h
  have hkept : ((first :: others).map (Entry.item level)).filter (fun i => !i.blocks.isEmpty) =
      (first :: others).map (Entry.item level) := by
    apply List.filter_eq_self.2
    intro i hi
    obtain ⟨e, -, rfl⟩ := List.mem_map.1 hi
    rw [e.isEmpty_blocks_item]
    rfl
  have hany : ((first :: others).map (Entry.item level)).any (fun i => i.blocks.length != 1) =
      (first :: others).any Entry.isBranch := by
    rw [List.any_map]
    exact congrArg (List.any _) (funext (Entry.length_blocks_item level))
  simp only [listBlock, hitems, hkept, hany]
  rw [rawList_lines, Outline.block, Entry.items_eq_map]
  rfl

mutual

/-- The block of the lines of an outline. -/
theorem listBlock_lines : ∀ o : Outline, listBlock level (blocks level) o.lines = [o.block level]
  | .mk spaced first others => by
    apply listBlock_of_items
    exact List.forall_mem_cons.2 ⟨blocks_inner first, blocks_inner_of_mem others⟩

/-- The blocks of the lines of an item. -/
theorem blocks_inner : ∀ e : Entry, Item.mk e.mark.number? (blocks level e.inner) = e.item level
  | .leaf mark text => by
    rw [blocks_eq, Entry.chunks_inner, Entry.item, List.flatMap_cons, chunkBlocks,
      ItemText.foldLines_chars]
    rfl
  | .branch mark text below => by
    rw [blocks_eq, Entry.chunks_inner, Entry.item, List.flatMap_cons, chunkBlocks,
      ItemText.foldLines_chars, Entry.belowLines, chunksFrom_lines, List.flatMap_singleton, chunkBlocks,
      listBlock_lines below]
    rfl

theorem blocks_inner_of_mem : ∀ es : List Entry, ∀ e ∈ es,
    Item.mk e.mark.number? (blocks level e.inner) = e.item level
  | [] => by simp
  | e :: es => List.forall_mem_cons.2 ⟨blocks_inner e, blocks_inner_of_mem es⟩

end

/-! ## Printing and parsing -/

theorem Outline.textLines_print (o : Outline) : textLines o.print = o.lines := by
  obtain ⟨mark, text, rest, hlines⟩ := o.exists_lines_eq
  apply textLines_joinLines (by simp [hlines])
  intro l hl
  have hprinted := (o.printed_lines l hl).1
  exact ⟨fun hmem => absurd (hprinted _ hmem isBlank_newline) (by decide),
    fun hmem => absurd (hprinted _ hmem isBlank_return) (by decide)⟩

/-- Printing an outline and parsing the result gives the outline back. -/
theorem parse_print (scope : Scope) (o : Outline) :
    parse scope o.print = [Block.map (Inline.spans scope []) (o.block scope.level)] := by
  have hdefs : NoDefinitions (textLines o.print) := by
    rw [o.textLines_print]
    exact noDefinitions_of_forall fun l hl hblank => Or.inl (o.isIndented_of_mem_lines hl hblank)
  rw [parse_of_noDefinitions scope hdefs, o.textLines_print, blocks_eq, chunks, chunksFrom_lines,
    List.flatMap_singleton, chunkBlocks, listBlock_lines]
  rfl

theorem parse_print_nestedOutline :
    parse {} nestedOutline.print = [.list 1 true
      [.mk (some 10) [.paragraph 1 [.text "First things"],
        .list 1 false [.mk none [.paragraph 1 [.raw "\x60#1\x60", .text ", first of all"]]]],
       .mk none [.paragraph 1 [.text "#last"]]]] := by
  have hblock : nestedOutline.block 1 = .list 1 true
      [.mk (some 10) [.paragraph 1 "First things".toList,
        .list 1 false [.mk none [.paragraph 1 "\x60#1\x60, first of all".toList]]],
       .mk none [.paragraph 1 "#last".toList]] := rfl
  have hspans : Inline.spans {} [] "First things".toList = [.text "First things"] ∧
      Inline.spans {} [] "\x60#1\x60, first of all".toList = [.raw "\x60#1\x60", .text ", first of all"] ∧
      Inline.spans {} [] "#last".toList = [.text "#last"] := by
    decide +kernel
  rw [parse_print, hblock]
  simp only [Block.map, Block.mapItems, Block.mapAll, hspans]

end DocPages.Comment
