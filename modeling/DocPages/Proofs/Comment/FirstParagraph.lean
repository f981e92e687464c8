import DocPages.Proofs.Comment.WellFormed
import DocPages.Proofs.Text.Summary

/-!
# The lines that a summary is taken from

A summary is cut from the section at the start of a comment: the lines from the first one with text to the
first empty one (`summaryLine_eq`). A paragraph at the start of the comment is the part of the section
before the first line that is blank or starts a list item (`eq_of_head?_parse`). So a summary is taken from
the first paragraph if its sentence ends there, and else it goes on into what follows
(`summary_takenFrom`).

1. Trimming a text changes neither which of its lines are empty nor what they show (`shown_lines_trim`).
2. What is put on one line keeps the order of prefixes, and what follows a paragraph is set off by a space
   (`exists_foldLines_paragraphTail`).
3. A closed sentence is taken from a text just if the sentence ends in it (`takenFrom_closeSentence_iff`).
-/

namespace DocPages.Comment

open Text

/-- The text starts with the summary, up to the width of gaps and the period that closes it. -/
def TakenFrom (summary text : List Char) : Prop :=
  ∃ front, front <+: text ∧
    (collapseBlanks summary = front ∨ collapseBlanks summary = front ++ ['.'])

/-- The lines without the blank ones at both ends. -/
def innerLines (ls : List Line) : List Line :=
  takeToLast (!isBlankLine ·) (ls.dropWhile isBlankLine)

/-- The lines from the first one with text to the first empty one. -/
def sectionLines (doc : String) : List Line :=
  (innerLines (textLines doc)).takeWhile (!·.isEmpty)

/-- What the lines before the first empty one show. -/
def shown (ls : List Line) : List Line :=
  (ls.takeWhile (!·.isEmpty)).map trim

/-! ## The section of a summary -/

/-- The text before the first two line feeds in a row is that before the first empty line. A text that ends
in a line feed ends in an empty line, which it keeps. -/
theorem lines_firstParagraph {cs first : List Char} {rest : List Line}
    (hend : cs.getLast? ≠ some '\n') (hlines : lines cs = first :: rest) :
    lines (firstParagraph cs) = first :: rest.takeWhile (!·.isEmpty) := by
  fun_induction firstParagraph cs generalizing first rest with
  | case1 cs =>
    rw [lines_newline_cons, lines_newline_cons] at hlines
    cases hlines
    rfl
  | case2 c cs hpair ih =>
    have hend' : cs.getLast? ≠ some '\n' := by
      intro hcs
      apply hend
      rw [List.getLast?_cons, hcs]
      rfl
    obtain ⟨next, more, hnext⟩ := List.exists_cons_of_ne_nil (splitBy_ne_nil (· == '\n') cs)
    have ih' := ih hend' hnext
    by_cases hc : c = '\n'
    · subst hc
      -- the line after a single line feed is not empty
      have hne : next ≠ [] := by
        rintro rfl
        rcases cs with _ | ⟨d, cs⟩
        · exact hend rfl
        · by_cases hd : d = '\n'
          · exact hpair cs rfl (by rw [hd])
          · obtain ⟨front, others, -, hlong⟩ := exists_lines_cons hd cs
            rw [← lines, hlong] at hnext
            cases hnext
      rw [lines_newline_cons, lines, hnext] at hlines
      cases hlines
      rw [lines_newline_cons, ih', List.takeWhile_cons_of_pos (by simpa using hne)]
    · obtain ⟨front, others, hcs, hlong⟩ := exists_lines_cons hc cs
      obtain ⟨front', others', hcs', hlong'⟩ := exists_lines_cons hc (firstParagraph cs)
      rw [hlong] at hlines
      rw [lines, hnext] at hcs
      rw [ih'] at hcs'
      cases hlines
      cases hcs
      cases hcs'
      exact hlong'
  | case3 =>
    cases hlines
    rfl

theorem shown_modifyHead {ls : List Line} (h : ∀ l ∈ ls.head?, isBlankLine l = false) :
    shown (ls.modifyHead trimStart) = shown ls := by
  rcases ls with _ | ⟨l, ls⟩
  · rfl
  · have hl := h l rfl
    have hne : l ≠ [] := by
      rintro rfl
      cases hl
    have hstart : trimStart l ≠ [] := by
      rw [ne_eq, ← isBlankLine_iff_trimStart, hl]
      decide
    unfold shown
    rw [List.modifyHead_cons, List.takeWhile_cons_of_pos (by simpa using hstart),
      List.takeWhile_cons_of_pos (by simpa using hne), List.map_cons, List.map_cons, trim_trimStart]

theorem shown_modifyLast {ls : List Line} (h : ∀ l ∈ ls.getLast?, isBlankLine l = false) :
    shown (ls.modifyLast trimEnd) = shown ls := by
  rcases List.eq_nil_or_concat ls with rfl | ⟨init, l, rfl⟩
  · rfl
  · have hl := h l (by simp)
    have hne : l ≠ [] := by
      rintro rfl
      cases hl
    have hend : trimEnd l ≠ [] := by
      rw [ne_eq, trimEnd_eq_nil, hl]
      decide
    unfold shown
    rw [List.concat_eq_append, List.modifyLast_concat, List.takeWhile_append, List.takeWhile_append,
      List.takeWhile_cons_of_pos (by simpa using hend), List.takeWhile_cons_of_pos (by simpa using hne)]
    split
    · simp [trim_trimEnd]
    · rfl

/-- Trimming a text changes the first and the last of its lines, and not what they show. -/
theorem shown_lines_trim {ls : List Line} (hne : ls ≠ []) (hfeed : ∀ l ∈ ls, '\n' ∉ l)
    (hfirst : ∀ l ∈ ls.head?, isBlankLine l = false) (hlast : ∀ l ∈ ls.getLast?, isBlankLine l = false) :
    shown (lines (trim (joinLines ls))) = shown ls := by
  have hlines : lines (joinLines ls) = ls := lines_joinLines hne hfeed
  have hstart : lines (trimStart (joinLines ls)) = ls.modifyHead trimStart := by
    rw [lines_trimStart (by rwa [hlines]), hlines]
  have hlast' : ∀ l ∈ (ls.modifyHead trimStart).getLast?, isBlankLine l = false := by
    rcases ls with _ | ⟨l, _ | ⟨k, ls⟩⟩
    · exact absurd rfl hne
    · simpa [isBlankLine_trimStart] using hfirst
    · simpa using hlast
  rw [trim, lines_trimEnd (by rwa [hstart]), hstart, shown_modifyLast hlast', shown_modifyHead hfirst]

theorem blank_of_innerLines_eq_nil {ls : List Line} (h : innerLines ls = []) :
    ls.dropWhile isBlankLine = [] := by
  obtain ⟨rest, hrest, hblank⟩ := exists_eq_takeToLast_append (!isBlankLine ·) (ls.dropWhile isBlankLine)
  rw [← innerLines, h, List.nil_append] at hrest
  have hhead := List.head?_dropWhile_not isBlankLine ls
  rcases hls : ls.dropWhile isBlankLine with _ | ⟨l, more⟩
  · rfl
  · rw [hls, List.head?_cons] at hhead
    have hl := hblank l (by rw [← hrest, hls]; exact List.mem_cons_self)
    rw [hhead] at hl
    cases hl

/-- The inner lines start at the first line with text, and blank lines follow them. -/
theorem exists_innerLines_eq_cons {ls : List Line} (h : innerLines ls ≠ []) :
    ∃ l more below, innerLines ls = l :: more ∧ ls.dropWhile isBlankLine = l :: (more ++ below) ∧
      isBlankLine l = false ∧ ∀ k ∈ below, isBlankLine k = true := by
  obtain ⟨below, hrest, hblank⟩ :=
    exists_eq_takeToLast_append (!isBlankLine ·) (ls.dropWhile isBlankLine)
  obtain ⟨l, more, hinner⟩ := List.exists_cons_of_ne_nil h
  rw [← innerLines, hinner, List.cons_append] at hrest
  have hhead := List.head?_dropWhile_not isBlankLine ls
  rw [hrest, List.head?_cons] at hhead
  exact ⟨l, more, below, hinner, hrest, hhead, fun k hk => by simpa using hblank k hk⟩

theorem trim_joinLines_innerLines (ls : List Line) :
    trim (joinLines (innerLines ls)) = trim (joinLines ls) := by
  rw [innerLines, trim_joinLines_takeToLast, trim_joinLines_dropWhile]

theorem mem_of_mem_innerLines {l : Line} {ls : List Line} (h : l ∈ innerLines ls) : l ∈ ls :=
  (List.dropWhile_suffix isBlankLine).subset ((takeToLast_isPrefix _ _).subset h)

/-- A text shows what stands before its first empty line. -/
theorem map_trim_lines_firstParagraph {cs : List Char} (h : isBlankLine cs = false) :
    (lines (firstParagraph (trim cs))).map trim = shown (lines (trim cs)) := by
  obtain ⟨c, ds, htrim, hc⟩ := exists_trim_eq_cons h
  have hfeed : c ≠ '\n' := by
    rintro rfl
    exact absurd hc (by decide)
  obtain ⟨first, rest, -, hlines⟩ := exists_lines_cons hfeed ds
  rw [← htrim] at hlines
  have hend : (trim cs).getLast? ≠ some '\n' :=
    fun hlast => absurd (getLast?_trimEnd hlast) (by decide)
  rw [lines_firstParagraph hend hlines, shown, hlines, List.takeWhile_cons_of_pos rfl]

theorem summaryLine_eq (doc : String) :
    summaryLine doc.toList = joinWords ((sectionLines doc).map trim) := by
  have htrim : trim (unixNewlines doc.toList) = trim (joinLines (innerLines (textLines doc))) := by
    rw [trim_joinLines_innerLines, textLines, joinLines_lines]
  rw [summaryLine, htrim]
  by_cases hnil : innerLines (textLines doc) = []
  · rw [sectionLines, hnil]
    rfl
  · obtain ⟨l, more, -, hinner, -, hl, -⟩ := exists_innerLines_eq_cons hnil
    have hfeed : ∀ k ∈ innerLines (textLines doc), '\n' ∉ k :=
      fun k hk => newline_notMem_of_mem_lines (mem_of_mem_innerLines hk)
    have hfirst : ∀ k ∈ (innerLines (textLines doc)).head?, isBlankLine k = false := by
      rw [hinner]
      rintro k ⟨⟩
      exact hl
    have hlast : ∀ k ∈ (innerLines (textLines doc)).getLast?, isBlankLine k = false := by
      intro k hk
      simpa using getLast?_takeToLast hk
    have htext : isBlankLine (joinLines (innerLines (textLines doc))) = false := by
      rw [hinner, joinLines]
      rcases more with _ | ⟨k, more⟩
      · rwa [List.intercalate_singleton]
      · rw [List.intercalate_cons_cons, isBlankLine, List.all_append, List.all_append, ← isBlankLine, hl]
        rfl
    rw [map_trim_lines_firstParagraph htext, shown_lines_trim hnil hfeed hfirst hlast]
    rfl

/-! ## Folded lines -/

theorem mem_of_mem_foldLines {c : Char} {ls : List Line} (h : c ∈ foldLines ls) :
    c = ' ' ∨ ∃ l ∈ ls, c ∈ l := by
  obtain rfl | hc := mem_of_mem_collapseBlanks h
  · exact Or.inl rfl
  · obtain rfl | ⟨piece, hpiece, hc⟩ := mem_intercalate hc
    · exact Or.inl rfl
    · obtain ⟨l, hl, rfl⟩ := List.mem_map.1 hpiece
      exact Or.inr ⟨l, hl, mem_of_mem_trim hc⟩

/-- Lines that are not blank end in text when they are put on one line. -/
theorem getLast?_joinWords_trim {ls : List Line} (h : ∀ l ∈ ls, isBlankLine l = false) {c : Char}
    (hc : c ∈ (joinWords (ls.map trim)).getLast?) : isBlank c = false := by
  rcases List.eq_nil_or_concat ls with rfl | ⟨init, l, rfl⟩
  · cases hc
  · obtain ⟨d, hd⟩ : ∃ d, (trim l).getLast? = some d :=
      ⟨_, List.getLast?_eq_some_getLast (trim_ne_nil (h l (by simp)))⟩
    have hend : (joinWords ((init.concat l).map trim)).getLast? = some d := by
      rw [List.concat_eq_append, List.map_append, List.map_singleton, joinWords]
      rcases init with _ | ⟨k, init⟩
      · rwa [List.map_nil, List.nil_append, List.intercalate_singleton]
      · rw [intercalate_append_cons (by simp), List.intercalate_singleton, List.getLast?_append, hd]
        rfl
    rw [hend, Option.mem_some_iff] at hc
    subst hc
    exact getLast?_trimEnd hd

/-- After lines with text, a line is set off by a space, even a blank one. -/
theorem exists_foldLines_append {ls : List Line} (hne : ls ≠ []) (h : ∀ l ∈ ls, isBlankLine l = false)
    (k : Line) (more : List Line) : ∃ ds, foldLines (ls ++ k :: more) = foldLines ls ++ ' ' :: ds := by
  obtain ⟨ds, hds⟩ := exists_collapseBlanks_blank isBlank_space (joinWords ((k :: more).map trim))
  refine ⟨ds, ?_⟩
  have hjoin : joinWords ((ls ++ k :: more).map trim) =
      joinWords (ls.map trim) ++ ' ' :: joinWords ((k :: more).map trim) := by
    unfold joinWords
    rw [List.map_append, List.map_cons, intercalate_append_cons (by simpa using hne), List.append_assoc,
      List.singleton_append]
  unfold foldLines
  rw [hjoin, collapseBlanks_append_of_gap (Or.inl fun c hc => getLast?_joinWords_trim h hc), hds]

/-! ## The first paragraph -/

theorem chunks_dropWhile (ls : List Line) : chunks (ls.dropWhile isBlankLine) = chunks ls := by
  induction ls with
  | nil => rfl
  | cons l ls ih =>
    by_cases hl : isBlankLine l = true
    · rw [List.dropWhile_cons_of_pos hl, ih, chunks, chunks, chunksFrom_of_blank true hl]
    · rw [List.dropWhile_cons_of_neg hl]

theorem paragraphTail_append_of_blank (ls : List Line) {below : List Line}
    (h : ∀ k ∈ below, isBlankLine k = true) : paragraphTail (ls ++ below) = paragraphTail ls := by
  rcases below with _ | ⟨k, below⟩
  · rw [List.append_nil]
  · exact takeWhile_append_stop (by simp [h k List.mem_cons_self]) ls below

/-- A paragraph ends at an empty line. -/
theorem paragraphTail_takeWhile (ls : List Line) :
    paragraphTail (ls.takeWhile (!·.isEmpty)) = paragraphTail ls := by
  unfold paragraphTail
  rw [List.takeWhile_takeWhile]
  congr 1
  funext l
  cases l with
  | nil => rfl
  | cons c cs => simp

/-- The section starts with the first chunk, and a paragraph there is a part of the section. -/
theorem exists_sectionLines_eq {doc : String} (h : chunks (textLines doc) ≠ []) :
    ∃ l more rest, sectionLines doc = l :: more ∧ isBlankLine l = false ∧
      paragraphTail rest = paragraphTail more ∧
      chunks (textLines doc) = (chunkAt true l rest).1 :: chunksFrom false (chunkAt true l rest).2 rest := by
  rw [← chunks_dropWhile] at h ⊢
  have hne : innerLines (textLines doc) ≠ [] := by
    intro hnil
    rw [blank_of_innerLines_eq_nil hnil] at h
    exact h rfl
  obtain ⟨l, more, below, hinner, hlines, hl, hbelow⟩ := exists_innerLines_eq_cons hne
  have hfirst : l ≠ [] := by
    rintro rfl
    cases hl
  refine ⟨l, more.takeWhile (!·.isEmpty), more ++ below, ?_, hl, ?_, ?_⟩
  · rw [sectionLines, hinner, List.takeWhile_cons_of_pos (by simpa using hfirst)]
  · rw [paragraphTail_append_of_blank more hbelow, paragraphTail_takeWhile]
  · rw [hlines, chunks, chunksFrom_of_text true hl]

theorem noDefinitions_of_notMem {doc : String} (h : '[' ∉ doc.toList) : NoDefinitions (textLines doc) := by
  refine noDefinitions_of_forall fun l hl _ => Or.inr (definition?_eq_none fun hmem => h ?_)
  exact mem_of_mem_unixNewlines (mem_of_mem_lines hl hmem)

/-- A paragraph at the start of a comment, if the first line with text is not indented. -/
theorem eq_of_head?_parse {scope : Scope} {doc : String} (hbracket : '[' ∉ doc.toList)
    {b : Block (List Span)} (hb : (parse scope doc).head? = some b) (hkind : b.kindName = "paragraph") :
    ∃ l more, sectionLines doc = l :: more ∧ isBlankLine l = false ∧
      (isIndented l = false → b = .paragraph scope.level
        (Inline.spans scope [] (foldLines (l :: paragraphTail more)))) := by
  rw [parse_of_noDefinitions scope (noDefinitions_of_notMem hbracket), blocks_eq,
    Block.mapAll_eq_map] at hb
  have hne : chunks (textLines doc) ≠ [] := by
    intro hnil
    rw [hnil] at hb
    cases hb
  obtain ⟨l, more, rest, hsection, hl, htail, hchunks⟩ := exists_sectionLines_eq hne
  refine ⟨l, more, hsection, hl, fun hflush => ?_⟩
  rw [hchunks, List.flatMap_cons] at hb
  rcases chunkAt_cases true l rest with ⟨text, -, -, hchunk⟩ | ⟨hindent, -⟩ | ⟨hindent, -⟩ | ⟨-, hchunk⟩
  · rw [hchunk] at hb
    cases hb
    exact absurd (show "header" = "paragraph" from hkind) (by decide)
  · rw [hflush] at hindent
    cases hindent
  · rw [hflush] at hindent
    cases hindent
  · rw [hchunk, htail] at hb
    cases hb
    rfl

theorem display_paragraph {scope : Scope} {doc : String} (hbracket : '[' ∉ doc.toList) {ls : List Line}
    (hls : ∀ l ∈ ls, l ∈ textLines doc) :
    (Block.paragraph scope.level (Inline.spans scope [] (foldLines ls))).display.toList =
      foldLines ls := by
  have hfold : '[' ∉ foldLines ls := by
    intro hmem
    obtain heq | ⟨l, hl, hmem⟩ := mem_of_mem_foldLines hmem
    · exact absurd heq (by decide)
    · exact hbracket (mem_of_mem_unixNewlines (mem_of_mem_lines (hls l hl) hmem))
  rw [Block.display, String.toList_join, List.flatMap_map]
  exact Inline.flatMap_display_spans scope [] hfold

/-- What follows the paragraph in the section is set off by a space. -/
theorem exists_foldLines_paragraphTail {l : Line} (hl : isBlankLine l = false) (more : List Line) :
    ∃ ds, foldLines (l :: more) = foldLines (l :: paragraphTail more) ++ ds ∧
      ∀ c ∈ ds.head?, c = ' ' := by
  have htext : ∀ k ∈ l :: paragraphTail more, isBlankLine k = false := by
    intro k hk
    rcases List.mem_cons.1 hk with rfl | hk
    · exact hl
    · exact isBlankLine_of_mem_paragraphTail hk
  obtain ⟨rest, hrest⟩ := paragraphTail_isPrefix more
  rcases rest with _ | ⟨k, rest⟩
  · rw [List.append_nil] at hrest
    exact ⟨[], by rw [hrest, List.append_nil], by simp⟩
  · obtain ⟨ds, hds⟩ := exists_foldLines_append (List.cons_ne_nil l _) htext k rest
    rw [List.cons_append, hrest] at hds
    exact ⟨' ' :: ds, hds, by simp⟩

/-! ## Summaries -/

theorem collapseBlanks_closeSentence (cs : List Char) :
    collapseBlanks (closeSentence cs) = collapseBlanks cs ∨
      collapseBlanks (closeSentence cs) = collapseBlanks cs ++ ['.'] := by
  have hgap : collapseBlanks (cs ++ ['.']) = collapseBlanks cs ++ collapseBlanks ['.'] := by
    refine collapseBlanks_append_of_gap (Or.inr ?_)
    rintro c ⟨⟩
    decide
  unfold closeSentence
  split
  · exact Or.inl rfl
  · split_ifs
    · exact Or.inl rfl
    · exact Or.inr hgap

/-- A sentence is taken from the start of a text if it ends there. It may go on after the text, but then
with a space, which no period can be mistaken for. -/
theorem takenFrom_closeSentence_iff {sentence text more : List Char}
    (h : collapseBlanks sentence <+: text ++ more) (hmore : ∀ c ∈ more.head?, c = ' ') :
    TakenFrom (closeSentence sentence) text ↔ collapseBlanks sentence <+: text := by
  constructor
  · rintro ⟨front, hfront, heq⟩
    rcases collapseBlanks_closeSentence sentence with hclose | hclose <;> rw [hclose] at heq
    · rcases heq with heq | heq
      · rwa [heq]
      · rcases List.prefix_or_prefix_of_prefix h (List.prefix_append text more) with hshort | hlong
        · exact hshort
        · rw [heq, List.prefix_concat_iff] at hlong
          rcases hlong with rfl | hlong
          · rw [heq]
          · -- the text ends before the period, so that the period stands where a space does
            obtain rfl := hfront.eq_of_length_le hlong.length_le
            rw [heq, List.prefix_append_right_inj] at h
            rcases more with _ | ⟨c, more⟩
            · simp at h
            · obtain rfl := hmore c rfl
              simp at h
    · rcases heq with heq | heq
      · exact (List.prefix_append _ _).trans (heq ▸ hfront)
      · rwa [List.append_cancel_right heq]
  · intro hprefix
    exact ⟨_, hprefix, collapseBlanks_closeSentence sentence⟩

/-- **The paragraph of a summary.** A summary is taken from the section at the start of the comment. If
the first block is a paragraph then it ends with the section or at the first line of it that is blank or
starts a list item, and the summary is taken from it if the first sentence does not go on after that. -/
theorem summary_takenFrom (scope : Scope) {doc : String} (hbracket : '[' ∉ doc.toList)
    {b : Block (List Span)} (hb : (parse scope doc).head? = some b) (hkind : b.kindName = "paragraph") :
    ∃ l more, sectionLines doc = l :: more ∧
      TakenFrom (summary doc).toList (foldLines (l :: more)) ∧
      (isIndented l = false →
        b.display.toList = foldLines (l :: paragraphTail more) ∧
        (TakenFrom (summary doc).toList b.display.toList ↔
          collapseBlanks (sentenceAfter [] (joinWords ((l :: more).map trim))) <+: b.display.toList) ∧
        ((∀ k ∈ more, isBlankLine k = false ∧ isItemLine k = false) →
          TakenFrom (summary doc).toList b.display.toList)) := by
  obtain ⟨l, more, hsection, hl, hparagraph⟩ := eq_of_head?_parse hbracket hb hkind
  have hsummary : (summary doc).toList =
      closeSentence (sentenceAfter [] (joinWords ((l :: more).map trim))) := by
    rw [summary, toList_onChars, summaryChars_eq, summaryLine_eq, hsection]
  have hprefix : collapseBlanks (sentenceAfter [] (joinWords ((l :: more).map trim))) <+:
      foldLines (l :: more) := collapseBlanks_isPrefix (sentenceAfter_isPrefix [] _)
  have htaken : TakenFrom (summary doc).toList (foldLines (l :: more)) :=
    ⟨_, hprefix, hsummary ▸ collapseBlanks_closeSentence _⟩
  refine ⟨l, more, hsection, htaken, fun hflush => ?_⟩
  have hdisplay : b.display.toList = foldLines (l :: paragraphTail more) := by
    rw [hparagraph hflush]
    refine display_paragraph hbracket fun k hk => mem_of_mem_innerLines ?_
    have hks : k ∈ l :: more := ((List.prefix_cons_inj l).2 (paragraphTail_isPrefix more)).subset hk
    rw [← hsection] at hks
    exact (List.takeWhile_prefix _).subset hks
  refine ⟨hdisplay, ?_, fun hmore => ?_⟩
  · obtain ⟨ds, hds, hspace⟩ := exists_foldLines_paragraphTail hl more
    rw [hds] at hprefix
    rw [hsummary, hdisplay]
    exact takenFrom_closeSentence_iff hprefix hspace
  · have hall : paragraphTail more = more := by
      refine List.takeWhile_eq_self_iff.2 fun k hk => ?_
      rw [(hmore k hk).1, (hmore k hk).2]
      rfl
    rwa [hdisplay, hall]

/-- A sentence over two lines, and a list that starts after it. -/
def optionsDoc : String :=
  "\n Pick\tone\nof the modes. They are:\n  - fast\n  - safe"

theorem summary_takenFrom_options :
    '[' ∉ optionsDoc.toList ∧ summary optionsDoc = "Pick\tone of the modes." ∧
      ∃ b : Block (List Span), (parse {} optionsDoc).head? = some b ∧ b.kindName = "paragraph" ∧
        b.display = "Pick one of the modes. They are:" ∧
        TakenFrom (summary optionsDoc).toList b.display.toList := by
  have hbracket : '[' ∉ optionsDoc.toList := by decide
  have hkind : (parse {} optionsDoc).head?.map Block.kindName = some "paragraph" := by decide +kernel
  have hdisplay : (parse {} optionsDoc).head?.map Block.display =
      some "Pick one of the modes. They are:" := by decide +kernel
  obtain ⟨b, hb, hbkind⟩ := Option.map_eq_some_iff.1 hkind
  rw [hb, Option.map_some, Option.some.injEq] at hdisplay
  obtain ⟨l, more, hsection, -, hflush⟩ := summary_takenFrom {} hbracket hb hbkind
  have hlines : sectionLines optionsDoc =
      [" Pick\tone".toList, "of the modes. They are:".toList, "  - fast".toList, "  - safe".toList] := by
    decide +kernel
  rw [hsection] at hlines
  cases hlines
  refine ⟨hbracket, by decide +kernel, b, hb, hbkind, hdisplay, (hflush (by decide)).2.1.2 ?_⟩
  rw [hdisplay]
  decide +kernel

/-- A line of one space ends a paragraph, and no section. -/
theorem summary_past_blankLine :
    '[' ∉ "first part\n \nsecond part.".toList ∧ '\r' ∉ "first part\n \nsecond part.".toList ∧
      ∃ b : Block (List Span), (parse {} "first part\n \nsecond part.").head? = some b ∧
        b.kindName = "paragraph" ∧ b.display = "first part" ∧
        summary "first part\n \nsecond part." = "first part  second part." ∧
        ¬ TakenFrom (summary "first part\n \nsecond part.").toList b.display.toList := by
  have hkind : (parse {} "first part\n \nsecond part.").head?.map Block.kindName =
      some "paragraph" := by decide +kernel
  have hdisplay : (parse {} "first part\n \nsecond part.").head?.map Block.display =
      some "first part" := by decide +kernel
  have hsummary : summary "first part\n \nsecond part." = "first part  second part." := by
    decide +kernel
  obtain ⟨b, hb, hbkind⟩ := Option.map_eq_some_iff.1 hkind
  rw [hb, Option.map_some, Option.some.injEq] at hdisplay
  refine ⟨by decide, by decide, b, hb, hbkind, hdisplay, hsummary, ?_⟩
  rw [hsummary, hdisplay]
  rintro ⟨front, hfront, heq⟩
  have hlength := hfront.length_le
  have hlong : (collapseBlanks "first part  second part.".toList).length = 23 := by decide
  rcases heq with heq | heq <;> rw [heq] at hlong <;> simp at hlong hlength <;> omega

end DocPages.Comment
