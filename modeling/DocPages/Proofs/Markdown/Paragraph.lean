import DocPages.Markdown.PlainText
import DocPages.Proofs.Text.Lines

/-!
# A line of text is a paragraph

A line that starts with none of the marks of blocks, and not with a number before a period or a
parenthesis either, is a paragraph (`blocks_of_textLine`), so what a reader sees of it is its inline text
(`plainText_of_textLine`).
-/

namespace DocPages.Markdown

open Text

/-- Characters that start a quotation, rule, heading, fence, item, piece of HTML or definition. -/
def blockMarks : List Char :=
  ">*-_+#\x60~<[".toList

/-- A line that starts with text and no block. -/
structure TextLine (l : List Char) : Prop where
  /-- There is one line only. -/
  oneLine : '\n' ∉ l ∧ '\r' ∉ l
  start : ∃ c rest, l = c :: rest ∧ isBlank c = false ∧ c ∉ blockMarks
  /-- A number at the start is not that of an item. -/
  unnumbered : ∀ d, (l.dropWhile Char.isDigit).head? = some d → d ≠ '.' ∧ d ≠ ')'

variable {l rest : List Char} {c : Char}

/-! ## Columns -/

theorem ne_of_isBlank {b : Char} (hb : isBlank b = true) (hc : isBlank c = false) : c ≠ b := by
  rintro rfl
  rw [hb] at hc
  cases hc

theorem space?_of_not_blank (hc : isBlank c = false) : Cursor.space? ⟨c :: rest, 0, 0⟩ = none := by
  have hspace : c ≠ ' ' := ne_of_isBlank (by decide) hc
  have htab : c ≠ '\t' := ne_of_isBlank (by decide) hc
  unfold Cursor.space?
  split
  · rename_i heq
    cases heq
  · rename_i heq
    exact absurd (List.cons.inj heq).1 hspace
  · rename_i heq
    exact absurd (List.cons.inj heq).1 htab
  · rfl

theorem skip_of_not_blank (hc : isBlank c = false) (n : ℕ) :
    Cursor.skip n ⟨c :: rest, 0, 0⟩ = (0, ⟨c :: rest, 0, 0⟩) := by
  cases n with
  | zero => rfl
  | succ n => rw [Cursor.skip, space?_of_not_blank hc]

theorem indent_of_not_blank (hc : isBlank c = false) : Cursor.indent ⟨c :: rest, 0, 0⟩ = 0 := by
  rw [Cursor.indent, skip_of_not_blank hc]

theorem skipAll_of_not_blank (hc : isBlank c = false) :
    Cursor.skipAll ⟨c :: rest, 0, 0⟩ = ⟨c :: rest, 0, 0⟩ := by
  rw [Cursor.skipAll, skip_of_not_blank hc]

theorem isBlank_of_not_blank (hc : isBlank c = false) : Cursor.isBlank ⟨c :: rest, 0, 0⟩ = false := by
  have h (b : Char) (hb : isBlank b = true) : (c == b) = false :=
    beq_eq_false_iff_ne.2 (ne_of_isBlank hb hc)
  simp only [Cursor.isBlank, List.all_cons, h ' ' (by decide), h '\t' (by decide),
    h '\x0b' (by decide), h '\x0c' (by decide), h '\r' (by decide), Bool.or_self, Bool.false_and]

/-! ## Starts of blocks -/

theorem ne_of_notMem_blockMarks {m : Char} (hc : c ∉ blockMarks) (hm : m ∈ blockMarks) : c ≠ m := by
  rintro rfl
  exact hc hm

theorem isRule_of_start (hblank : isBlank c = false) (hc : c ∉ blockMarks) :
    isRule (c :: rest) = false := by
  have hspace : isLineSpace c = false := by
    simp [isLineSpace, ne_of_isBlank (b := ' ') (by decide) hblank,
      ne_of_isBlank (b := '\t') (by decide) hblank]
  have hmarks : (c == '*' || c == '-' || c == '_') = false := by
    simp [ne_of_notMem_blockMarks (m := '*') hc (by decide),
      ne_of_notMem_blockMarks (m := '-') hc (by decide),
      ne_of_notMem_blockMarks (m := '_') hc (by decide)]
  unfold isRule
  rw [List.filter_cons_of_pos (by simp [hspace])]
  simp only [hmarks, Bool.false_and]

theorem heading?_of_start (hc : c ∉ blockMarks) : heading? (c :: rest) = none := by
  have hsign : (c == '#') = false :=
    beq_eq_false_iff_ne.2 (ne_of_notMem_blockMarks hc (by decide))
  simp [heading?, hsign]

theorem fence?_of_start (hc : c ∉ blockMarks) (indent : ℕ) : fence? indent (c :: rest) = none := by
  have hquote : c ≠ '\x60' := ne_of_notMem_blockMarks hc (by decide)
  have htilde : c ≠ '~' := ne_of_notMem_blockMarks hc (by decide)
  simp [fence?, hquote, htilde]

theorem htmlBlock?_of_start (hc : c ∉ blockMarks) (inParagraph : Bool) :
    htmlBlock? inParagraph (c :: rest) = none := by
  have hangle : c ≠ '<' := ne_of_notMem_blockMarks hc (by decide)
  simp [htmlBlock?, hangle]

theorem definition?_of_start (hc : c ∉ blockMarks) : definition? (c :: rest) = none := by
  have hbracket : c ≠ '[' := ne_of_notMem_blockMarks hc (by decide)
  simp [definition?, hbracket]

theorem itemStart?_of_start (hc : c ∉ blockMarks)
    (hnumber : ∀ d, ((c :: rest).dropWhile Char.isDigit).head? = some d → d ≠ '.' ∧ d ≠ ')')
    (before : ℕ) : itemStart? before ⟨c :: rest, 0, 0⟩ = none := by
  have hbullets : (c == '-' || c == '+' || c == '*') = false := by
    simp [ne_of_notMem_blockMarks (m := '-') hc (by decide),
      ne_of_notMem_blockMarks (m := '+') hc (by decide),
      ne_of_notMem_blockMarks (m := '*') hc (by decide)]
  unfold itemStart?
  simp only [hbullets, Bool.false_eq_true, if_false, drop_length_takeWhile]
  cases hhead : ((c :: rest).dropWhile Char.isDigit).head? with
  | none => rfl
  | some d => simp [hnumber d hhead]

/-! ## Blocks -/

theorem openContainers_of_textLine (h : TextLine l) (fuel depth : ℕ) (b : Blocks) :
    b.openContainers (fuel + 1) depth false ⟨l, 0, 0⟩ = (b, ⟨l, 0, 0⟩, false) := by
  obtain ⟨c, rest, rfl, hblank, hc⟩ := h.start
  have hquote : c ≠ '>' := ne_of_notMem_blockMarks hc (by decide)
  simp [Blocks.openContainers, indent_of_not_blank hblank, skipAll_of_not_blank hblank,
    isBlank_of_not_blank hblank, hquote, isRule_of_start hblank hc,
    itemStart?_of_start hc h.unnumbered]

/-- The line opens a paragraph. -/
theorem line_of_textLine (h : TextLine l) : Blocks.line {} l [] = { leaf := .paragraph [l] } := by
  have hopen := openContainers_of_textLine h l.length 0 {}
  have hstart : Blocks.startBlock 0 {} = {} := rfl
  obtain ⟨c, rest, rfl, hblank, hc⟩ := h.start
  simp only [Blocks.line, Blocks.continued, List.reverse_nil, isBlank_of_not_blank hblank]
  rw [hopen]
  simp [Blocks.content, indent_of_not_blank hblank, skipAll_of_not_blank hblank,
    isBlank_of_not_blank hblank, htmlBlock?_of_start hc, isRule_of_start hblank hc,
    heading?_of_start hc, fence?_of_start hc, hstart]

theorem lineFeeds_of_oneLine (h : '\r' ∉ l) : lineFeeds l = l := by
  fun_induction lineFeeds l with
  | case1 cs _ => exact absurd List.mem_cons_self h
  | case2 cs _ _ => exact absurd List.mem_cons_self h
  | case3 c cs _ _ ih => rw [ih fun hcs => h (List.mem_cons_of_mem c hcs)]
  | case4 => rfl

/-- The paragraph ends with the text, and defines nothing. -/
theorem closeTo_of_textLine (h : TextLine l) :
    Blocks.closeTo 0 { leaf := .paragraph [l] } = { nodes := [.paragraph l] } := by
  obtain ⟨c, rest, rfl, hblank, hc⟩ := h.start
  have hjoin : joinLines [c :: rest].reverse = c :: rest := List.intercalate_singleton
  have hdefinitions : takeDefinitions (c :: rest).length (c :: rest) = ([], c :: rest) := by
    rw [List.length_cons, takeDefinitions, definition?_of_start hc]
  show Blocks.addText {} .paragraph [c :: rest] = _
  simp only [Blocks.addText, hjoin, hdefinitions, List.all_cons, hblank, Bool.false_and]
  rfl

theorem blocks_of_textLine (h : TextLine l) : blocks l = ([.paragraph l], []) := by
  have hline : Blocks.ofLines [l] {} = { leaf := .paragraph [l] } := by
    obtain ⟨c, rest, rfl, -, -⟩ := h.start
    exact line_of_textLine h
  unfold blocks
  rw [lineFeeds_of_oneLine h.oneLine.2, lines_of_oneLine h.oneLine.1, hline, closeTo_of_textLine h]
  rfl

theorem plainText_of_textLine (h : TextLine l) :
    plainText l = write false false ((inlinePieces [] l).map Piece.event ++ [.blockEnd]) := by
  unfold plainText
  rw [blocks_of_textLine h]
  show write false false (events [] false (.paragraph l) ++ []) = _
  rw [List.append_nil]
  rfl

end DocPages.Markdown
