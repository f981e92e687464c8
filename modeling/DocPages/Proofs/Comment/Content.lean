import DocPages.Proofs.Comment.Definitions
import DocPages.Proofs.Comment.InlineText
import DocPages.Proofs.Comment.Nesting
import DocPages.Proofs.Comment.ReadingOrder

/-!
# Content of a document

The content of a text is what is left of it without white space, digits and the signs of markers and
headings. Parsing a text without brackets loses, repeats and moves none of its content
(`content_shown`).

1. Trimming, folding and stripping indentation change white space only.
2. The chunks of some lines hold their content, in order (`flatMap_content_chunks`).
3. The items of a list hold the content of its run (`flatMap_content_items`): markers are made of signs
   and white space, and the run starts with an item.
4. The blocks of some lines hold their content (`content_blocks`), by induction on the size of the
   lines. An item or list that is dropped has none.
5. Spans show what is written (`Inline.flatMap_display_spans`).
-/

namespace DocPages.Comment

open Text

/-- White space, decimal digits, and the characters of list markers and heading marks. -/
def isMarkup (c : Char) : Bool :=
  isBlank c || isDecimalDigit c || ['-', '*', '+', '•', '.', ')', '#'].contains c

/-- The characters of a text that are not markup. -/
def content (cs : List Char) : List Char :=
  cs.filter (!isMarkup ·)

/-! ## White space -/

theorem content_append (cs ds : List Char) : content (cs ++ ds) = content cs ++ content ds :=
  List.filter_append _ _

theorem content_cons_of_markup {c : Char} (h : isMarkup c = true) (cs : List Char) :
    content (c :: cs) = content cs :=
  List.filter_cons_of_neg (by simp [h])

theorem content_cons_of_text {c : Char} (h : isMarkup c = false) (cs : List Char) :
    content (c :: cs) = c :: content cs :=
  List.filter_cons_of_pos (by simp [h])

theorem content_eq_nil {cs : List Char} (h : ∀ c ∈ cs, isMarkup c = true) : content cs = [] := by
  unfold content
  rw [List.filter_eq_nil_iff]
  intro c hc
  simp [h c hc]

theorem content_reverse (cs : List Char) : content cs.reverse = (content cs).reverse := by
  unfold content
  exact List.filter_reverse

theorem isMarkup_of_blank {c : Char} (h : isBlank c = true) : isMarkup c = true := by
  unfold isMarkup
  rw [h, Bool.true_or, Bool.true_or]

theorem content_of_blankLine {l : Line} (h : isBlankLine l = true) : content l = [] :=
  content_eq_nil fun c hc => isMarkup_of_blank (isBlankLine_iff.1 h c hc)

theorem content_trimStart (cs : List Char) : content (trimStart cs) = content cs := by
  have hfront : content (cs.takeWhile isBlank) = [] :=
    content_eq_nil fun c hc => isMarkup_of_blank (List.mem_takeWhile_imp hc)
  conv_rhs => rw [← List.takeWhile_append_dropWhile (p := isBlank) (l := cs), content_append, hfront]
  rfl

theorem content_trimEnd (cs : List Char) : content (trimEnd cs) = content cs := by
  unfold trimEnd dropEndWhile
  rw [content_reverse]
  show (content (trimStart cs.reverse)).reverse = content cs
  rw [content_trimStart, content_reverse, List.reverse_reverse]

theorem content_trim (cs : List Char) : content (trim cs) = content cs := by
  unfold trim
  rw [content_trimEnd, content_trimStart]

theorem content_collapseBlanks (cs : List Char) : content (collapseBlanks cs) = content cs := by
  fun_induction collapseBlanks cs with
  | case1 => rfl
  | case2 c cs hc _ ih => rw [ih, content_cons_of_markup (isMarkup_of_blank hc)]
  | case3 c cs hc _ ih =>
    rw [content_cons_of_markup (isMarkup_of_blank isBlank_space), ih,
      content_cons_of_markup (isMarkup_of_blank hc)]
  | case4 c cs _ ih =>
    by_cases hmarkup : isMarkup c = true
    · rw [content_cons_of_markup hmarkup, content_cons_of_markup hmarkup, ih]
    · have htext : isMarkup c = false := by simpa using hmarkup
      rw [content_cons_of_text htext, content_cons_of_text htext, ih]

theorem content_stripIndent (n : ℕ) (l : Line) : content (stripIndent n l) = content l := by
  fun_induction stripIndent n l with
  | case1 n c cs hc ih => rw [ih, content_cons_of_markup (isMarkup_of_blank hc)]
  | case2 => rfl
  | case3 => rfl

theorem content_unixNewlines (cs : List Char) : content (unixNewlines cs) = content cs := by
  fun_induction unixNewlines cs with
  | case1 cs ih =>
    have hnewline := isMarkup_of_blank isBlank_newline
    rw [content_cons_of_markup hnewline, content_cons_of_markup (isMarkup_of_blank isBlank_return),
      content_cons_of_markup hnewline, ih]
  | case2 c cs _ ih => rw [← List.singleton_append, content_append, ih, ← content_append]; rfl
  | case3 => rfl

theorem content_intercalate {sep : Char} (hsep : isMarkup sep = true) (ls : List (List Char)) :
    content ([sep].intercalate ls) = ls.flatMap content := by
  induction ls with
  | nil => rfl
  | cons l ls ih =>
    rcases ls with _ | ⟨k, ls⟩
    · simp
    · have hgap : content [sep] = [] := content_cons_of_markup hsep []
      rw [List.intercalate_cons_cons, content_append, content_append, hgap, List.append_nil, ih]
      rfl

theorem flatMap_content_lines (cs : List Char) : (lines cs).flatMap content = content cs := by
  conv_rhs => rw [← joinLines_lines cs]
  exact (content_intercalate (isMarkup_of_blank isBlank_newline) _).symm

/-- Lines without content at the end do not count. -/
theorem flatMap_content_takeToLast {p : Line → Bool} (hp : ∀ l, p l = false → content l = [])
    (ls : List Line) : (takeToLast p ls).flatMap content = ls.flatMap content := by
  have hend : (ls.rtakeWhile fun l => !p l).flatMap content = [] := by
    rw [List.flatMap_eq_nil_iff]
    intro l hl
    exact hp l (by simpa using List.mem_rtakeWhile_imp hl)
  conv_rhs => rw [← List.rdropWhile_append_rtakeWhile (p := fun l => !p l) (l := ls),
    List.flatMap_append, hend, List.append_nil]
  rfl

/-! ## Chunks -/

/-- The content of the lines of a chunk. -/
def Chunk.content : Chunk → List Char
  | .header text => Comment.content text
  | .list run | .code run | .paragraph run => run.flatMap Comment.content

theorem content_headerText? {l : Line} {rest : List Line} {text : List Char}
    (h : headerText? l rest = some text) : content text = content l := by
  unfold headerText? at h
  split at h
  · rename_i after hmark
    split_ifs at h
    cases h
    have hsigns : content ['#', ' '] = [] := by decide
    rw [content_trim, eq_append_of_dropFront? hmark, content_append, hsigns, List.nil_append]
  · split_ifs at h
    cases h
    exact content_trim l

/-- A chunk and the lines after it hold the content of the lines from its first one on. -/
theorem content_chunkAt (afterBlank : Bool) (l : Line) (rest : List Line) :
    (chunkAt afterBlank l rest).1.content ++
        (rest.drop (chunkAt afterBlank l rest).2).flatMap content =
      (l :: rest).flatMap content := by
  have htail : ∀ {tail : List Line}, tail <+: rest →
      (l :: tail).flatMap content ++ (rest.drop tail.length).flatMap content =
        (l :: rest).flatMap content := by
    intro tail htail
    rw [← List.flatMap_append, List.cons_append, List.prefix_iff_eq_append.1 htail]
  rcases chunkAt_cases afterBlank l rest with ⟨text, -, htext, h⟩ | ⟨-, -, h⟩ | ⟨-, -, h⟩ | ⟨-, h⟩ <;>
    rw [h]
  · show content text ++ rest.flatMap content = _
    rw [content_headerText? htext, List.flatMap_cons]
  · exact htail (runTail_isPrefix rest)
  · exact htail (runTail_isPrefix rest)
  · exact htail (paragraphTail_isPrefix rest)

theorem flatMap_content_chunksFrom (ls : List Line) : ∀ (afterBlank : Bool) (skip : ℕ),
    (chunksFrom afterBlank skip ls).flatMap Chunk.content = (ls.drop skip).flatMap content := by
  induction ls with
  | nil => intro afterBlank skip; cases skip <;> rfl
  | cons l ls ih =>
    intro afterBlank skip
    rcases skip with _ | skip
    · by_cases hl : isBlankLine l = true
      · rw [chunksFrom_of_blank afterBlank hl, ih, List.drop_zero, List.drop_zero, List.flatMap_cons,
          content_of_blankLine hl, List.nil_append]
      · rw [chunksFrom_of_text afterBlank (by simpa using hl), List.flatMap_cons, ih, List.drop_zero]
        exact content_chunkAt afterBlank l ls
    · exact ih (isBlankLine l) skip

/-- The chunks of some lines hold the content of the lines, in order. -/
theorem flatMap_content_chunks (ls : List Line) :
    (chunks ls).flatMap Chunk.content = ls.flatMap content :=
  flatMap_content_chunksFrom ls true 0

/-! ## Items -/

theorem isMarkup_of_signs {number : Option ℕ} {signs : List Char} (h : Signs number signs) :
    ∀ c ∈ signs, isMarkup c = true := by
  intro c hc
  cases h with
  | bullet hb =>
    rw [List.mem_singleton] at hc
    subst hc
    rcases isBullet_iff.1 hb with rfl | rfl | rfl | rfl <;> decide
  | ordered hclose hdigits _ =>
    rcases List.mem_append.1 hc with hc | hc
    · unfold isMarkup
      rw [hdigits c hc, Bool.or_true, Bool.true_or]
    · rw [List.mem_singleton] at hc
      subst hc
      rcases hclose with rfl | rfl <;> decide

theorem isMarkup_of_gap {c : Char} (h : isGap c = true) : isMarkup c = true := by
  unfold isGap at h
  simp only [Bool.or_eq_true, beq_iff_eq] at h
  rcases h with rfl | rfl <;> decide

/-- A marker holds no content. -/
theorem content_drop_marker {l : Line} {m : Marker} (h : marker? l = some m) :
    content (l.drop m.width) = content l := by
  obtain ⟨signs, gap, rest, rfl, hwidth, hsigns, hgap⟩ := exists_signs_of_marker? h
  rw [hwidth, ← List.length_append, ← List.append_assoc, List.drop_left, content_append,
    content_append, content_eq_nil (isMarkup_of_signs hsigns),
    content_eq_nil fun c hc => isMarkup_of_gap (hgap c hc)]
  rfl

/-- Lines that are none, or of which the first starts an item. -/
def StartsItem (base : ℕ) (ls : List Line) : Prop :=
  ∀ l ∈ ls.head?, (itemMarker? base l).isSome = true

/-- The lines of an item and the lines from the next item on. -/
theorem itemLines_spec (base col : ℕ) (ls : List Line) :
    (itemLines base col ls).1.flatMap content ++
        (ls.drop (itemLines base col ls).1.length).flatMap content = ls.flatMap content ∧
      StartsItem base (ls.drop (itemLines base col ls).1.length) := by
  induction ls with
  | nil => exact ⟨rfl, by simp [StartsItem, itemLines]⟩
  | cons l ls ih =>
    by_cases hl : (itemMarker? base l).isSome = true
    · rw [itemLines, if_pos hl]
      refine ⟨rfl, fun k hk => ?_⟩
      cases hk
      exact hl
    · rw [itemLines, if_neg hl]
      refine ⟨?_, ih.2⟩
      show (stripIndent col l :: (itemLines base col ls).1).flatMap content ++
        (ls.drop (itemLines base col ls).1.length).flatMap content = _
      rw [List.flatMap_cons, List.append_assoc, ih.1, content_stripIndent, List.flatMap_cons]

theorem flatMap_content_itemsFrom (base : ℕ) (ls : List Line) : ∀ skip,
    StartsItem base (ls.drop skip) →
      (itemsFrom base skip ls).flatMap (fun i => i.lines.flatMap content) =
        (ls.drop skip).flatMap content := by
  induction ls with
  | nil => intro skip _; cases skip <;> rfl
  | cons l ls ih =>
    intro skip hstart
    rcases skip with _ | skip
    · obtain ⟨m, hm⟩ := Option.isSome_iff_exists.1 (hstart l rfl)
      obtain ⟨hcontent, hnext⟩ := itemLines_spec base (indentation l + m.width) ls
      have hempty : ∀ k : Line, (!k.isEmpty) = false → content k = [] := by
        intro k hk
        have hnil : k = [] := by simpa using hk
        rw [hnil]
        rfl
      simp only [itemsFrom, hm]
      rw [List.flatMap_cons, ih _ hnext, flatMap_content_takeToLast hempty, List.flatMap_cons,
        List.append_assoc, hcontent, content_drop_marker (marker?_of_itemMarker? hm),
        content_trimStart, List.drop_zero, List.flatMap_cons]
    · exact ih skip hstart

theorem flatMap_content_dedent (run : List Line) :
    (dedent run).flatMap content = run.flatMap content := by
  unfold dedent
  rw [List.flatMap_map]
  apply List.flatMap_congr
  intro l _
  split
  · rename_i hl
    exact (content_of_blankLine hl).symm
  · exact content_stripIndent _ l

theorem trimStart_stripIndent (n : ℕ) (l : Line) : trimStart (stripIndent n l) = trimStart l := by
  fun_induction stripIndent n l with
  | case1 n c cs hc ih =>
    rw [ih]
    exact (List.dropWhile_cons_of_pos hc).symm
  | case2 => rfl
  | case3 => rfl

/-- The items of a list hold the content of its run, in order. -/
theorem flatMap_content_items {l : Line} {more : List Line}
    (hmarker : (marker? (trimStart l)).isSome = true) :
    (rawList (l :: more)).items.flatMap (fun i => i.lines.flatMap content) =
      (l :: more).flatMap content := by
  rw [← flatMap_content_dedent]
  apply flatMap_content_itemsFrom _ _ 0
  -- the first line loses only indentation, and the others are measured against what it keeps
  have hblank : ¬ isBlankLine l = true := by
    intro hl
    have hnil : trimStart l = [] :=
      List.dropWhile_eq_nil_iff.2 (isBlankLine_iff.1 hl)
    rw [hnil] at hmarker
    cases hmarker
  intro k hk
  obtain rfl : stripIndent (commonIndent (l :: more)) l = k := by
    simpa [dedent, hblank] using hk
  unfold itemMarker?
  simp [dedent, hblank, trimStart_stripIndent, hmarker]

/-! ## Blocks -/

/-- The content of blocks whose links are not resolved yet. -/
def blocksContent (bs : List (Block (List Char))) : List Char :=
  Block.gatherAll content (fun t => content t.toList) bs

theorem blocksContent_listBlock (level : ℕ) (sub : List Line → List (Block (List Char)))
    (run : List Line) :
    blocksContent (listBlock level sub run) =
      (rawList run).items.flatMap fun i => blocksContent (sub i.lines) := by
  have hitems : ∀ is : List RawItem,
      Block.gatherItems content (fun t => content t.toList)
        ((is.map fun i => Item.mk i.number (sub i.lines)).filter fun i => !i.blocks.isEmpty) =
        is.flatMap fun i => blocksContent (sub i.lines) := by
    intro is
    induction is with
    | nil => rfl
    | cons i is ih =>
      rw [List.map_cons, List.flatMap_cons, ← ih]
      by_cases hnil : sub i.lines = []
      · rw [List.filter_cons_of_neg (by simp [Item.blocks, hnil]), hnil]
        rfl
      · rw [List.filter_cons_of_pos (by simpa [Item.blocks] using hnil)]
        rfl
  rw [← hitems]
  simp only [listBlock, blocksContent]
  split_ifs with hnone
  · rw [List.isEmpty_iff.1 hnone]
    rfl
  · rw [Block.gatherAll_singleton]
    rfl

theorem blocksContent_chunkBlocks {level : ℕ} {sub : List Line → List (Block (List Char))} {c : Chunk}
    (hsub : ∀ run, c = .list run →
      (∃ l more, run = l :: more ∧ (marker? (trimStart l)).isSome = true) ∧
        ∀ i ∈ (rawList run).items, blocksContent (sub i.lines) = i.lines.flatMap content) :
    blocksContent (chunkBlocks level sub c) = c.content := by
  cases c with
  | header text =>
    show content (collapseBlanks text) ++ [] = content text
    rw [List.append_nil, content_collapseBlanks]
  | code run =>
    show content (codeText run).toList ++ [] = run.flatMap content
    rw [List.append_nil, codeText, String.toList_ofList, ← flatMap_content_dedent]
    exact content_intercalate (isMarkup_of_blank isBlank_newline) _
  | paragraph ls =>
    show content (foldLines ls) ++ [] = ls.flatMap content
    rw [List.append_nil, foldLines, content_collapseBlanks, joinWords,
      content_intercalate (isMarkup_of_blank isBlank_space), List.flatMap_map]
    exact List.flatMap_congr fun l _ => content_trim l
  | list run =>
    obtain ⟨⟨l, more, rfl, hmarker⟩, hitems⟩ := hsub run rfl
    show blocksContent (listBlock level sub (l :: more)) = _
    rw [blocksContent_listBlock, List.flatMap_congr hitems, flatMap_content_items hmarker]
    rfl

/-- The blocks of some lines hold the content of the lines, in order. -/
theorem content_blocks (level : ℕ) (ls : List Line) :
    blocksContent (blocks level ls) = ls.flatMap content := by
  induction hn : size ls using Nat.strong_induction_on generalizing ls with
  | _ n ih =>
    rw [blocks_eq]
    unfold blocksContent
    rw [Block.gatherAll_flatMap, ← flatMap_content_chunks]
    apply List.flatMap_congr
    intro c hc
    apply blocksContent_chunkBlocks
    rintro run rfl
    obtain ⟨hrun, hmarker⟩ := list_mem_chunks hc
    refine ⟨hmarker, fun i hi => ih (size i.lines) ?_ i.lines rfl⟩
    have hle := size_le_of_sublist hrun
    have hlt := size_item_lt hi
    omega

/-! ## Documents -/

theorem definition?_eq_none {l : Line} (h : '[' ∉ l) : definition? l = none := by
  unfold definition?
  split
  · rename_i cs htrim
    have hmem : '[' ∈ content (trim l) := by
      rw [htrim, content_cons_of_text (by decide)]
      exact List.mem_cons_self
    rw [content_trim] at hmem
    exact absurd (List.mem_of_mem_filter hmem) h
  · rfl

theorem content_eq_flatMap (cs : List Char) : content cs = cs.flatMap fun c => content [c] := by
  induction cs with
  | nil => rfl
  | cons c cs ih =>
    rw [List.flatMap_cons, ← ih, ← content_append]
    rfl

theorem content_gatherAll {α : Type} (ofText : α → List Char) (ofCode : String → List Char)
    (bs : List (Block α)) :
    content (Block.gatherAll ofText ofCode bs) =
      Block.gatherAll (fun a => content (ofText a)) (fun t => content (ofCode t)) bs := by
  rw [content_eq_flatMap, Block.flatMap_gatherAll]
  simp only [← content_eq_flatMap]

/-- **Parsing loses, repeats and moves no content.** What a document shows is, apart from markup, the
text of the comment. -/
theorem content_shown (scope : Scope) {text : String} (h : '[' ∉ text.toList) :
    content (Doc.ofComment scope text).shown = content text.toList := by
  have hlines : (textLines text).flatMap content = content text.toList := by
    unfold textLines
    rw [flatMap_content_lines, content_unixNewlines]
  have hblocks := (content_blocks scope.level (textLines text)).trans hlines
  have hbracket : '[' ∉ content text.toList := fun hmem => h (List.mem_of_mem_filter hmem)
  have hdefs : NoDefinitions (textLines text) := by
    refine noDefinitions_of_forall fun l hl _ => Or.inr (definition?_eq_none fun hmem => ?_)
    apply hbracket
    rw [← hlines]
    exact List.mem_flatMap.2 ⟨l, hl, List.mem_filter.2 ⟨hmem, by decide⟩⟩
  unfold Doc.ofComment
  rw [parse_of_noDefinitions scope hdefs, Doc.shown_eq, content_gatherAll, ← hblocks]
  symm
  apply Block.gatherAll_congr (x := '[')
  · intro cs hcs
    have hcs' : '[' ∉ cs := fun hmem => hcs (List.mem_filter.2 ⟨hmem, by decide⟩)
    rw [Inline.flatMap_display_spans scope [] hcs']
  · rw [← hblocks] at hbracket
    exact hbracket

/-- A heading, and a list in the item of a list. -/
theorem content_shown_nested :
    '[' ∉ "Options\n\nOne of:\n  1. fast\n     - no checks\n\n  2) safe".toList ∧
      content (Doc.ofComment {}
        "Options\n\nOne of:\n  1. fast\n     - no checks\n\n  2) safe").shown =
          "OptionsOneof:fastnocheckssafe".toList := by
  have h : '[' ∉ "Options\n\nOne of:\n  1. fast\n     - no checks\n\n  2) safe".toList := by
    decide +kernel
  exact ⟨h, (content_shown {} h).trans (by decide +kernel)⟩

end DocPages.Comment
