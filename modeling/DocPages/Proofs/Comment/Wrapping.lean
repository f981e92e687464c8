import DocPages.Proofs.Comment.Definitions
import DocPages.Proofs.Text.Collapse
import DocPages.Proofs.Comment.Nesting

/-!
# Wrapping of paragraphs

Where the lines of a paragraph break does not matter. A layout puts words on lines, with any spaces and
tabs between and around them; whatever the layout, its words make one paragraph with single spaces between
them (`parse_layout`).

1. Folding takes the white space off the lines and joins them with spaces, which leaves the words with
   some white space between neighbours (`joinWords_trim`), and collapsing makes each gap a space
   (`collapseBlanks_spaced`).
2. No line of a layout is blank, the first one is neither indented nor a heading nor a link definition,
   and no other one starts a list, so that the lines are one paragraph (`chunks_lines`).
-/

namespace DocPages.Comment

open Text

/-! ## Layouts -/

/-- Characters without white space. -/
structure Word where
  chars : List Char
  ne_nil : chars ≠ []
  not_blank : ∀ c ∈ chars, isBlank c = false

/-- Spaces and tabs between two words. -/
structure Gap where
  chars : List Char
  ne_nil : chars ≠ []
  isGap : ∀ c ∈ chars, isGap c = true

/-- Words with gaps between them. -/
def spaced (first : Word) (others : List (Gap × Word)) : List Char :=
  first.chars ++ others.flatMap fun (gap, word) => gap.chars ++ word.chars

/-- A line with at least one word, and any spaces and tabs at its ends. -/
structure WordLine where
  lead : List Char
  first : Word
  others : List (Gap × Word)
  trail : List Char
  lead_isGap : ∀ c ∈ lead, isGap c = true
  trail_isGap : ∀ c ∈ trail, isGap c = true

namespace WordLine

def text (l : WordLine) : List Char :=
  spaced l.first l.others

def chars (l : WordLine) : Line :=
  l.lead ++ (l.text ++ l.trail)

def words (l : WordLine) : List Word :=
  l.first :: l.others.map Prod.snd

end WordLine

/-- Lines of words that start no heading, code, list or link definition. -/
structure Layout where
  first : WordLine
  others : List WordLine
  flush : first.lead = [] ∨ first.lead = [' ']
  not_mark : first.first.chars ≠ ['#']
  not_label : first.first.chars.head? ≠ some '['
  not_item : ∀ l ∈ others, isItemLine l.chars = false

namespace Layout

def lines (o : Layout) : List Line :=
  (o.first :: o.others).map WordLine.chars

def words (o : Layout) : List Word :=
  (o.first :: o.others).flatMap WordLine.words

/-- A layout as text. -/
def print (o : Layout) : String :=
  String.ofList (joinLines o.lines)

example :
    (Layout.mk
      ⟨[' '], ⟨['-'], by simp, List.forall_mem_singleton.2 rfl⟩,
        [(⟨['\t'], by simp, List.forall_mem_singleton.2 rfl⟩,
          ⟨['a'], by simp, List.forall_mem_singleton.2 rfl⟩)],
        [' '], List.forall_mem_singleton.2 rfl, List.forall_mem_singleton.2 rfl⟩
      [⟨['\t'], ⟨['1'], by simp, List.forall_mem_singleton.2 rfl⟩, [], [],
        List.forall_mem_singleton.2 rfl, List.forall_mem_nil _⟩]
      (.inr rfl) (by decide) (by decide) (by decide)).print = " -\ta \n\t1" := by
  rfl

end Layout

/-! ## Words and gaps -/

theorem isBlank_of_isGap {c : Char} (h : isGap c = true) : isBlank c = true := by
  simp only [isGap, Bool.or_eq_true, beq_iff_eq] at h
  rcases h with rfl | rfl <;> decide

theorem Word.exists_cons (w : Word) : ∃ c cs, w.chars = c :: cs ∧ isBlank c = false := by
  obtain ⟨c, cs, hchars⟩ := List.exists_cons_of_ne_nil w.ne_nil
  exact ⟨c, cs, hchars, w.not_blank c (by simp [hchars])⟩

theorem collapseBlanks_gap_append {gap : List Char} (hne : gap ≠ [])
    (hgap : ∀ c ∈ gap, isGap c = true) (w : Word) (rest : List Char) :
    collapseBlanks (gap ++ (w.chars ++ rest)) = ' ' :: (w.chars ++ collapseBlanks rest) := by
  induction gap with
  | nil => exact absurd rfl hne
  | cons c cs ih =>
    have hc := isBlank_of_isGap (hgap c List.mem_cons_self)
    rcases cs with _ | ⟨d, cs⟩
    · obtain ⟨e, es, hchars, he⟩ := w.exists_cons
      rw [List.singleton_append, collapseBlanks_cons_of_end hc (by simpa [hchars] using he),
        collapseBlanks_append w.not_blank]
    · have hcs : ∀ e ∈ d :: cs, isGap e = true := fun e he => hgap e (List.mem_cons_of_mem c he)
      have hd := isBlank_of_isGap (hcs d List.mem_cons_self)
      rw [List.cons_append, List.cons_append, collapseBlanks_cons_cons hc hd]
      exact ih (List.cons_ne_nil d cs) hcs

/-- Collapsing white space leaves a single space in each gap. -/
theorem collapseBlanks_spaced (first : Word) (others : List (Gap × Word)) :
    collapseBlanks (spaced first others) =
      joinWords (first.chars :: others.map fun (_, word) => word.chars) := by
  rw [spaced, collapseBlanks_append first.not_blank, joinWords_cons]
  congr 1
  induction others with
  | nil => rfl
  | cons e others ih =>
    obtain ⟨gap, word⟩ := e
    rw [List.flatMap_cons, List.append_assoc, collapseBlanks_gap_append gap.ne_nil gap.isGap, ih]
    rfl

/-! ## Lines of words -/

theorem trimEnd_append_word (cs : List Char) (w : Word) :
    trimEnd (cs ++ w.chars) = cs ++ w.chars := by
  apply List.rdropWhile_eq_self_iff.2
  intro hne
  rw [List.getLast_append_of_ne_nil _ w.ne_nil, w.not_blank _ (List.getLast_mem w.ne_nil)]
  decide

theorem exists_spaced_eq_append (first : Word) (others : List (Gap × Word)) :
    ∃ cs w, spaced first others = cs ++ Word.chars w := by
  rcases List.eq_nil_or_concat others with rfl | ⟨init, ⟨gap, word⟩, rfl⟩
  · exact ⟨[], first, by simp [spaced]⟩
  · exact ⟨first.chars ++ (init.flatMap (fun (gap, word) => gap.chars ++ word.chars) ++ gap.chars),
      word, by simp [spaced]⟩

namespace WordLine

variable (l : WordLine)

theorem exists_text_cons : ∃ c cs, l.text = c :: cs ∧ isBlank c = false := by
  obtain ⟨c, cs, hchars, hc⟩ := l.first.exists_cons
  exact ⟨c, _, by rw [text, spaced, hchars]; rfl, hc⟩

theorem trimStart_chars : trimStart l.chars = l.text ++ l.trail := by
  obtain ⟨c, cs, htext, hc⟩ := l.exists_text_cons
  unfold trimStart chars
  rw [List.dropWhile_append_of_pos fun d hd => isBlank_of_isGap (l.lead_isGap d hd), htext]
  exact List.dropWhile_cons_of_neg (by simp [hc])

theorem trim_chars : trim l.chars = l.text := by
  obtain ⟨cs, w, htext⟩ := exists_spaced_eq_append l.first l.others
  unfold trim
  rw [l.trimStart_chars, trimEnd_append_of_blank fun d hd => isBlank_of_isGap (l.trail_isGap d hd),
    text, htext, trimEnd_append_word]

theorem isBlankLine_chars : isBlankLine l.chars = false := by
  obtain ⟨c, cs, htext, hc⟩ := l.exists_text_cons
  simp [isBlankLine, chars, htext, hc]

/-- White space on a line of words consists of spaces and tabs. -/
theorem isGap_of_mem_chars {c : Char} (h : c ∈ l.chars) (hc : isBlank c = true) :
    isGap c = true := by
  have hword : ∀ w : Word, c ∉ w.chars := fun w hw => by simp [w.not_blank c hw] at hc
  simp only [chars, text, spaced, List.mem_append, List.mem_flatMap, hword, false_or, or_false] at h
  rcases h with h | ⟨e, -, h⟩ | h
  · exact l.lead_isGap c h
  · exact e.1.isGap c h
  · exact l.trail_isGap c h

end WordLine

/-- A single space. -/
def Gap.space : Gap :=
  ⟨[' '], by simp, List.forall_mem_singleton.2 rfl⟩

namespace Layout

variable (o : Layout)

/-! ## Folding -/

/-- The words after the first one with what is between them once the lines are joined. -/
def gaps : List (Gap × Word) :=
  o.first.others ++ o.others.flatMap fun l => (Gap.space, l.first) :: l.others

/-- The lines without the white space at their ends, put on one line. -/
theorem joinWords_trim : joinWords (o.lines.map trim) = spaced o.first.first o.gaps := by
  have htrim : o.lines.map trim = (o.first :: o.others).map WordLine.text := by
    unfold lines
    rw [List.map_map]
    exact List.map_congr_left fun l _ => l.trim_chars
  rw [htrim, List.map_cons, joinWords_cons]
  simp only [WordLine.text, spaced, gaps, List.flatMap_append, List.append_assoc]
  congr 2
  rw [List.flatMap_map, List.flatMap_assoc]
  rfl

theorem words_eq : o.words = o.first.first :: o.gaps.map Prod.snd := by
  rw [words, gaps, List.flatMap_cons, List.map_append, List.map_flatMap]
  rfl

theorem foldLines_lines : foldLines o.lines = joinWords (o.words.map Word.chars) := by
  unfold foldLines
  rw [o.joinWords_trim, collapseBlanks_spaced, o.words_eq, List.map_cons, List.map_map]
  rfl

/-! ## The lines of a paragraph -/

theorem isBlankLine_of_mem_lines {l : Line} (h : l ∈ o.lines) : isBlankLine l = false := by
  obtain ⟨k, -, rfl⟩ := List.mem_map.1 h
  exact k.isBlankLine_chars

theorem isIndented_first : isIndented o.first.chars = false := by
  obtain ⟨c, cs, htext, hc⟩ := o.first.exists_text_cons
  have htab : c ≠ '\t' := by
    rintro rfl
    exact absurd hc (by decide)
  have hspace : c ≠ ' ' := by
    rintro rfl
    exact absurd hc (by decide)
  unfold WordLine.chars
  rcases o.flush with hlead | hlead <;> rw [hlead, htext] <;> simp [isIndented, htab, hspace]

/-- The first line would have the mark of a heading only as its first word. -/
theorem not_mark_first : ¬ ['#', ' '] <+: o.first.chars := by
  rintro ⟨after, hafter⟩
  obtain ⟨c, cs, hword, -⟩ := o.first.first.exists_cons
  rw [WordLine.chars, WordLine.text, spaced, hword] at hafter
  rcases o.flush with hlead | hlead
  · rw [hlead] at hafter
    obtain ⟨rfl, hrest⟩ : '#' = c ∧ _ := by simpa using hafter
    rcases cs with _ | ⟨d, cs⟩
    · exact o.not_mark hword
    · obtain ⟨rfl, -⟩ : ' ' = d ∧ _ := by simpa using hrest
      exact absurd (o.first.first.not_blank ' ' (by simp [hword])) (by decide)
  · rw [hlead] at hafter
    simp at hafter

theorem headerText?_first : headerText? o.first.chars (o.others.map WordLine.chars) = none := by
  apply headerText?_of_next o.not_mark_first
  intro k hk
  obtain ⟨l, -, rfl⟩ := List.mem_map.1 (List.mem_of_head? hk)
  exact l.isBlankLine_chars

theorem definition?_first : definition? o.first.chars = none := by
  have hlabel := o.not_label
  obtain ⟨c, cs, hchars, -⟩ := o.first.first.exists_cons
  rw [hchars, List.head?_cons, ne_eq, Option.some.injEq] at hlabel
  unfold definition?
  rw [o.first.trim_chars, WordLine.text, spaced, hchars]
  simp [hlabel]

theorem noDefinitions_lines : NoDefinitions o.lines := by
  rw [noDefinitions_of_not_blank fun l => o.isBlankLine_of_mem_lines, lines, List.map_cons,
    definitions?, List.mapM_cons, o.definition?_first]
  exact ite_self _

theorem paragraphTail_others :
    paragraphTail (o.others.map WordLine.chars) = o.others.map WordLine.chars := by
  apply List.takeWhile_eq_self_iff.2
  intro l hl
  obtain ⟨k, hk, rfl⟩ := List.mem_map.1 hl
  rw [k.isBlankLine_chars, o.not_item k hk]
  rfl

/-- The lines of a layout are one paragraph. -/
theorem chunks_lines : chunks o.lines = [.paragraph o.lines] := by
  have hchunk : chunkAt true o.first.chars (o.others.map WordLine.chars) =
      (.paragraph o.lines, (o.others.map WordLine.chars).length) := by
    rcases chunkAt_cases true o.first.chars (o.others.map WordLine.chars) with
      ⟨text, -, htext, -⟩ | ⟨hindent, -⟩ | ⟨hindent, -⟩ | ⟨-, heq⟩
    · rw [o.headerText?_first] at htext
      cases htext
    · rw [o.isIndented_first] at hindent
      cases hindent
    · rw [o.isIndented_first] at hindent
      cases hindent
    · rw [heq, o.paragraphTail_others]
      rfl
  rw [chunks, lines, List.map_cons, chunksFrom_of_text _ o.first.isBlankLine_chars, hchunk,
    chunksFrom_length]
  rfl

theorem textLines_print : textLines o.print = o.lines := by
  apply textLines_joinLines (by simp [lines])
  intro l hl
  obtain ⟨k, -, rfl⟩ := List.mem_map.1 hl
  exact ⟨fun hmem => absurd (k.isGap_of_mem_chars hmem isBlank_newline) (by decide),
    fun hmem => absurd (k.isGap_of_mem_chars hmem isBlank_return) (by decide)⟩

end Layout

/-- **Re-wrapping a paragraph does not change it**: it is made of its words alone. -/
theorem parse_layout (scope : Scope) (o : Layout) :
    parse scope o.print =
      [.paragraph scope.level (Inline.spans scope [] (joinWords (o.words.map Word.chars)))] := by
  have hdefs : NoDefinitions (textLines o.print) := o.textLines_print ▸ o.noDefinitions_lines
  rw [parse_of_noDefinitions scope hdefs, o.textLines_print, blocks_eq, o.chunks_lines,
    List.flatMap_singleton, chunkBlocks, o.foldLines_lines]
  rfl

end DocPages.Comment
