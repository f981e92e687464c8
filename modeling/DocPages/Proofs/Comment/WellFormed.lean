import DocPages.Proofs.Comment.Content
import DocPages.Proofs.Comment.InlineForm
import DocPages.Proofs.Comment.Occurrence
import DocPages.Proofs.Data.Traversal
import DocPages.Proofs.Text.Collapse

/-!
# Well-formed documents

What templates rely on in every block of a parsed comment, however deep it stands
(`wellFormed_of_occurs_parse`).

1. The lines of code start and end with text, their blank lines are empty and their common indentation
   is gone (`codeLines_dedent`).
2. Item numbers have at most nine digits (`Signs.bounds`), and no item is without blocks.
3. Paragraphs and headings have text (`foldLines_ne_nil`, `headerText?_ne_nil`), and defined labels have
   targets (`url_ne_empty_of_mem_extractFrom`), so their spans are well formed.
4. Each block is that of a chunk, which decides its form (`exists_chunk_of_occurs`).
-/

namespace DocPages

open Text

namespace Comment

/-- The lines of a code block: the first and the last one are not blank, blank ones are empty, some line
with text is not indented, and the first one does not start a list. -/
structure CodeLines (ls : List Line) : Prop where
  first : ∃ l ∈ ls.head?, isBlankLine l = false ∧ marker? (trimStart l) = none
  last : ∃ l ∈ ls.getLast?, isBlankLine l = false
  blank : ∀ l ∈ ls, isBlankLine l = true → l = []
  flush : ∃ l ∈ ls, isBlankLine l = false ∧ indentation l = 0

end Comment

/-- An item has blocks. If it is ordered it has a number with at most nine digits, and otherwise it counts
as number zero. -/
def Item.WellFormed {α : Type} (i : Item α) : Prop :=
  i.blocks ≠ [] ∧
    match i.number with
    | some n => 1 ≤ n ∧ n ≤ 999999999
    | none => i.number.getD 0 = 0

/-- A block of the given level whose parts are well formed. A list in which some item has several blocks
is one with space between its items. -/
def Block.WellFormed (level : ℕ) (b : Block (List Span)) : Prop :=
  b.level = level ∧
    match b with
    | paragraph _ content | header _ content => Inline.WellFormed content
    | code _ text => b.spans = [.raw text] ∧ Comment.CodeLines (lines text.toList)
    | list _ between items =>
      items ≠ [] ∧ (∀ i ∈ items, i.WellFormed) ∧ ((∃ i ∈ items, 1 < i.blocks.length) → between = true)

namespace Comment

/-! ## Code -/

theorem isBlankLine_stripIndent (n : ℕ) (l : Line) :
    isBlankLine (stripIndent n l) = isBlankLine l := by
  rw [Bool.eq_iff_iff, isBlankLine_iff_trimStart, isBlankLine_iff_trimStart, trimStart_stripIndent]

theorem indentation_stripIndent (n : ℕ) (l : Line) :
    indentation (stripIndent n l) = indentation l - n := by
  fun_induction stripIndent n l with
  | case1 n c cs hc ih =>
    rw [ih]
    unfold indentation
    rw [List.takeWhile_cons_of_pos hc, List.length_cons, Nat.add_sub_add_right]
  | case2 n c cs hc =>
    unfold indentation
    rw [List.takeWhile_cons_of_neg hc]
    exact (Nat.zero_sub _).symm
  | case3 n l hn =>
    cases n with
    | zero => rfl
    | succ n =>
      cases l with
      | nil => exact (Nat.zero_sub _).symm
      | cons c cs => exact absurd rfl (hn n c cs rfl)

/-- Some line of a run has the common indentation. -/
theorem exists_indentation_eq_commonIndent {run : List Line} {l : Line} (hl : l ∈ run)
    (htext : isBlankLine l = false) :
    ∃ k ∈ run, isBlankLine k = false ∧ indentation k = commonIndent run := by
  unfold commonIndent
  cases hmin : ((run.filter (!isBlankLine ·)).map indentation).min? with
  | none =>
    rw [List.min?_eq_none_iff, List.map_eq_nil_iff, List.filter_eq_nil_iff] at hmin
    exact absurd (hmin l hl) (by simp [htext])
  | some n =>
    obtain ⟨k, hk, rfl⟩ := List.mem_map.1 (List.min?_mem hmin)
    obtain ⟨hk, hkt⟩ := List.mem_filter.1 hk
    exact ⟨k, hk, by simpa using hkt, rfl⟩

theorem getLast?_dedent (run : List Line) :
    (dedent run).getLast? =
      run.getLast?.map fun l => if isBlankLine l then [] else stripIndent (commonIndent run) l := by
  unfold dedent
  exact List.getLast?_map

/-- The lines of a run that starts with text and is no list. -/
theorem codeLines_dedent {l : Line} {rest : List Line} (hl : isBlankLine l = false)
    (hmarker : (marker? (trimStart l)).isSome = false) :
    CodeLines (dedent (l :: runTail rest)) where
  first := by
    refine ⟨stripIndent (commonIndent (l :: runTail rest)) l, by simp [dedent, hl], ?_, ?_⟩
    · rw [isBlankLine_stripIndent, hl]
    · rw [trimStart_stripIndent]
      simpa using hmarker
  last := by
    obtain ⟨k, hk, htext⟩ : ∃ k ∈ (l :: runTail rest).getLast?, isBlankLine k = false := by
      rw [List.getLast?_cons]
      cases hlast : (runTail rest).getLast? with
      | none => exact ⟨l, rfl, hl⟩
      | some k => exact ⟨k, rfl, by simpa using getLast?_takeToLast hlast⟩
    refine ⟨stripIndent (commonIndent (l :: runTail rest)) k, ?_, ?_⟩
    · rw [getLast?_dedent, hk]
      simp [htext]
    · rw [isBlankLine_stripIndent, htext]
  blank := by
    intro k hk hblank
    obtain ⟨m, -, rfl⟩ := List.mem_map.1 hk
    by_cases hm : isBlankLine m = true
    · rw [if_pos hm]
    · rw [if_neg hm, isBlankLine_stripIndent] at hblank
      exact absurd hblank hm
  flush := by
    obtain ⟨k, hk, htext, hindent⟩ := exists_indentation_eq_commonIndent List.mem_cons_self hl
    refine ⟨stripIndent (commonIndent (l :: runTail rest)) k, ?_, ?_, ?_⟩
    · exact List.mem_map.2 ⟨k, hk, by simp [htext]⟩
    · rw [isBlankLine_stripIndent, htext]
    · rw [indentation_stripIndent, hindent, Nat.sub_self]

theorem lines_codeText {run : List Line} (hne : run ≠ []) (h : ∀ l ∈ run, '\n' ∉ l) :
    lines (codeText run).toList = dedent run := by
  unfold codeText
  rw [String.toList_ofList]
  apply lines_joinLines
  · exact fun hnil => hne (List.map_eq_nil_iff.1 hnil)
  · intro k hk hmem
    obtain ⟨l, hl, hsuffix⟩ := exists_suffix_of_mem_dedent hk
    exact h l hl (hsuffix.subset hmem)

/-! ## Lists -/

theorem wellFormed_of_mem_listItems {sub : List Line → List (Block (List Char))} {run : List Line}
    {i : Item (List Char)} (h : i ∈ listItems sub run) : i.WellFormed := by
  obtain ⟨raw, hraw, rfl, hne⟩ := exists_raw_of_mem_listItems h
  refine ⟨hne, ?_⟩
  obtain ⟨l, rest, m, -, hm, rfl⟩ := exists_of_mem_itemsFrom hraw
  obtain ⟨signs, -, -, -, -, hsigns, -⟩ := exists_signs_of_marker? (marker?_of_itemMarker? hm)
  show match m.number with
    | some n => 1 ≤ n ∧ n ≤ 999999999
    | none => m.number.getD 0 = 0
  cases hnumber : m.number with
  | none => rfl
  | some n => exact (hnumber ▸ hsigns).bounds

/-! ## Paragraphs and headings -/

theorem trim_ne_nil {l : Line} (h : isBlankLine l = false) : trim l ≠ [] := by
  rw [ne_eq, trim_eq_nil, h]
  decide

theorem headerText?_ne_nil {l : Line} {rest : List Line} {text : List Char}
    (hl : isBlankLine l = false) (h : headerText? l rest = some text) : text ≠ [] := by
  unfold headerText? at h
  split at h
  · split_ifs at h with hcond
    cases h
    rw [Bool.and_eq_true, Bool.not_eq_true'] at hcond
    exact trim_ne_nil hcond.2
  · split_ifs at h
    cases h
    exact trim_ne_nil hl

theorem foldLines_ne_nil {l : Line} (hl : isBlankLine l = false) (more : List Line) :
    foldLines (l :: more) ≠ [] := by
  unfold foldLines
  apply collapseBlanks_ne_nil
  have htrim := trim_ne_nil hl
  cases more with
  | nil => simpa [joinWords] using htrim
  | cons k more =>
    rw [joinWords, List.map_cons, List.map_cons, List.intercalate_cons_cons]
    exact fun hnil => htrim (List.append_eq_nil_iff.1 (List.append_eq_nil_iff.1 hnil).1).1

/-! ## Definitions -/

theorem url_ne_empty_of_definition? {l : Line} {d : String × String} (h : definition? l = some d) :
    d.2 ≠ "" := by
  unfold definition? at h
  split at h
  · split at h
    · simp only at h
      split_ifs at h with hcond
      cases h
      simp only [Bool.and_eq_true, Bool.not_eq_true', List.isEmpty_eq_false_iff] at hcond
      simpa using hcond.1.2
    · cases h
  · cases h

theorem url_ne_empty_of_mem_definitions? {paragraph : List Line} {defs : Inline.Definitions}
    (h : definitions? paragraph = some defs) : ∀ d ∈ defs, d.2 ≠ "" := by
  unfold definitions? at h
  split at h
  · cases h
  · split_ifs at h
    intro d hd
    obtain ⟨l, -, hl⟩ := Data.exists_of_mem_mapM h hd
    exact url_ne_empty_of_definition? hl

theorem url_ne_empty_of_mem_extractFrom (skip : ℕ) (ls : List Line) :
    ∀ d ∈ (extractFrom skip ls).2, d.2 ≠ "" := by
  induction ls generalizing skip with
  | nil => cases skip <;> exact List.forall_mem_nil _
  | cons l ls ih =>
    cases skip with
    | succ skip => exact ih skip
    | zero =>
      unfold extractFrom
      split
      · exact ih 0
      · simp only
        split
        · rename_i found hfound
          exact List.forall_mem_append.2 ⟨url_ne_empty_of_mem_definitions? hfound, ih _⟩
        · exact ih _

theorem extractFrom_subset (skip : ℕ) (ls : List Line) : (extractFrom skip ls).1 ⊆ ls := by
  induction ls generalizing skip with
  | nil => cases skip <;> exact List.Subset.refl _
  | cons l ls ih =>
    cases skip with
    | succ skip => exact List.subset_cons_of_subset l (ih skip)
    | zero =>
      unfold extractFrom
      split
      · exact List.cons_subset_cons l (ih 0)
      · simp only
        split
        · exact List.subset_cons_of_subset l (ih _)
        · exact List.cons_subset_cons l
            (List.append_subset.2 ⟨(List.takeWhile_prefix _).subset, ih _⟩)

/-! ## Documents -/

theorem wellFormed_map {α β : Type} {f : α → β} {i : Item α} (h : i.WellFormed) :
    Item.WellFormed (.mk i.number (Block.mapAll f i.blocks)) := by
  refine ⟨?_, h.2⟩
  show Block.mapAll f i.blocks ≠ []
  rw [Block.mapAll_eq_map]
  exact fun hnil => h.1 (List.map_eq_nil_iff.1 hnil)

/-- The list of a run is well formed whatever becomes of its texts. -/
theorem wellFormed_map_list {level : ℕ} {sub : List Line → List (Block (List Char))}
    {run : List Line} {b : Block (List Char)} (h : b ∈ listBlock level sub run)
    (f : List Char → List Span) : (b.map f).WellFormed level := by
  obtain ⟨hne, rfl⟩ := mem_listBlock h
  refine ⟨rfl, ?_⟩
  simp only [Block.map, Block.mapItems_eq_map]
  refine ⟨fun hnil => hne (List.map_eq_nil_iff.1 hnil), ?_, ?_⟩
  · intro i hi
    obtain ⟨j, hj, rfl⟩ := List.mem_map.1 hi
    exact wellFormed_map (wellFormed_of_mem_listItems hj)
  · rintro ⟨i, hi, hlength⟩
    obtain ⟨j, hj, rfl⟩ := List.mem_map.1 hi
    have hseveral : 1 < j.blocks.length := by
      rwa [Item.blocks, Block.mapAll_eq_map, List.length_map] at hlength
    rw [Bool.or_eq_true, List.any_eq_true]
    exact Or.inr ⟨j, hj, bne_iff_ne.2 (Nat.ne_of_gt hseveral)⟩

/-- The block of a chunk is well formed once its text is resolved. -/
theorem wellFormed_of_mem_chunkBlocks {scope : Scope} {defs : Inline.Definitions}
    (hdefs : ∀ d ∈ defs, d.2 ≠ "") {ls : List Line} (hls : ∀ l ∈ ls, '\n' ∉ l) {c : Chunk}
    (hc : c ∈ chunks ls) {sub : List Line → List (Block (List Char))} {b : Block (List Char)}
    (hb : b ∈ chunkBlocks scope.level sub c) :
    (b.map (Inline.spans scope defs)).WellFormed scope.level := by
  obtain ⟨before, l, rest, hsuffix, hl, rfl⟩ := exists_of_mem_chunksFrom hc
  rcases chunkAt_cases before l rest with ⟨text, -, htext, heq⟩ | ⟨-, -, heq⟩ | ⟨-, hmarker, heq⟩ |
    ⟨-, heq⟩ <;> rw [heq] at hb
  · obtain rfl := List.mem_singleton.1 hb
    exact ⟨rfl, Inline.wellFormed_spans scope hdefs
      (collapseBlanks_ne_nil (headerText?_ne_nil hl htext))⟩
  · exact wellFormed_map_list hb _
  · obtain rfl := List.mem_singleton.1 hb
    have hrun : ∀ k ∈ l :: runTail rest, '\n' ∉ k := fun k hk =>
      hls k (hsuffix.subset (((List.prefix_cons_inj l).2 (runTail_isPrefix rest)).subset hk))
    refine ⟨rfl, rfl, ?_⟩
    rw [lines_codeText (List.cons_ne_nil l _) hrun]
    exact codeLines_dedent hl hmarker
  · obtain rfl := List.mem_singleton.1 hb
    exact ⟨rfl, Inline.wellFormed_spans scope hdefs (foldLines_ne_nil hl _)⟩

theorem newline_notMem_of_mem_body {text : String} {l : Line} (h : l ∈ (body text).1) :
    '\n' ∉ l :=
  newline_notMem_of_mem_lines (extractFrom_subset 0 _ h)

/-- The blocks of lines are well formed if the labels that are in scope have targets. -/
theorem wellFormed_of_occurs_parseLines {scope : Scope} {defs : Inline.Definitions}
    (hdefs : ∀ d ∈ defs, d.2 ≠ "") {ls : List Line} (hls : ∀ l ∈ ls, '\n' ∉ l)
    {b : Block (List Span)} (h : b.Occurs (parseLines scope defs ls)) :
    b.WellFormed scope.level := by
  obtain ⟨a, ha, rfl⟩ := h.of_mapAll
  obtain ⟨ks, c, hks, hc, hb⟩ := exists_chunk_of_occurs ha
  refine wellFormed_of_mem_chunkBlocks hdefs ?_ hc hb
  intro k hk hmem
  obtain ⟨l, hl, hsuffix⟩ := hks k hk
  exact hls l hl (hsuffix.subset hmem)

/-- **Every parsed document is well formed**, at any depth of its lists. -/
theorem wellFormed_of_occurs_parse (scope : Scope) (text : String) {b : Block (List Span)}
    (h : b.Occurs (parse scope text)) : b.WellFormed scope.level :=
  wellFormed_of_occurs_parseLines (url_ne_empty_of_mem_extractFrom 0 _)
    (fun _ => newline_notMem_of_mem_body) h

/-- An item over two lines with a label that names nothing. -/
def labelInItem : String :=
  "  3. one\n    \tx [T]"

theorem wellFormed_of_occurs_parse_labelInItem : ∃ b : Block (List Span),
    b.Occurs (parse {} labelInItem) ∧ b.spans = [.text "one x T"] ∧ b.WellFormed 1 := by
  have hfound : ((parse {} labelInItem).any fun
      | .paragraph _ _ | .header _ _ | .code _ _ => false
      | .list _ _ items => items.any fun i => i.blocks.any (·.spans == [.text "one x T"])) =
        true := by decide +kernel
  obtain ⟨outer, houter, hitems⟩ := List.any_eq_true.1 hfound
  cases outer with
  | paragraph level spans => cases hitems
  | header level spans => cases hitems
  | code level text => cases hitems
  | list level between items =>
    obtain ⟨i, hi, hblocks⟩ := List.any_eq_true.1 hitems
    obtain ⟨b, hb, hspans⟩ := List.any_eq_true.1 hblocks
    have hoccurs : b.Occurs (parse {} labelInItem) := .inside houter hi (.here hb)
    exact ⟨b, hoccurs, beq_iff_eq.1 hspans, wellFormed_of_occurs_parse {} labelInItem hoccurs⟩

end Comment

end DocPages
