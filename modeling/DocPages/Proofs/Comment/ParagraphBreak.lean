import DocPages.Proofs.Comment.Definitions
import DocPages.Proofs.Comment.Nesting
import DocPages.Proofs.Comment.ReadingOrder

/-!
# Paragraph breaks

An empty line between two texts keeps them apart: the blocks of the whole are those of the first text
followed by those of the second (`parse_append_break`). Three rules of the layout look across empty
lines, and each comes with a condition.

1. A heading without a mark needs more text after it. So the last line of the first text must not be
   one that the second text could turn into a heading (`headerText?_append_break`); blank lines turn
   none into one (`headerText?_append_blank`).
2. A run of indented lines goes on after empty ones. So the second text must not start with an indented
   line (`runTail_append_break`).
3. Link definitions hold for the whole text. So there are none.
-/

namespace DocPages.Comment

open Text

/-- A line that no text after it makes a heading: it starts with no capital, or it holds sentence
punctuation. -/
def NoImplicitHeading (l : Line) : Prop :=
  (l.head?.map isUppercase).getD false = false ∨ l.any nonHeaderChars.contains = true

instance : DecidablePred NoImplicitHeading := fun l => by unfold NoImplicitHeading; infer_instance

/-- The last line that is not blank is no implicit heading. -/
def EndsPlain (ls : List Line) : Prop :=
  ∀ l ∈ (ls.filter (!isBlankLine ·)).getLast?, NoImplicitHeading l

instance (ls : List Line) : Decidable (EndsPlain ls) := by unfold EndsPlain; infer_instance

/-- The first line that is not blank is not indented. -/
def StartsFlush (ls : List Line) : Prop :=
  ∀ l ∈ ls.find? (!isBlankLine ·), isIndented l = false

instance (ls : List Line) : Decidable (StartsFlush ls) := by unfold StartsFlush; infer_instance

theorem EndsPlain.tail {l : Line} {ls : List Line} (h : EndsPlain (l :: ls)) : EndsPlain ls := by
  intro k hk
  apply h k
  rw [List.filter_cons]
  split
  · rw [List.getLast?_cons, Option.mem_def.1 hk]
    rfl
  · exact hk

theorem EndsPlain.of_isSuffix {ks ls : List Line} (h : EndsPlain ls) (hks : ks <:+ ls) :
    EndsPlain ks := by
  obtain ⟨front, rfl⟩ := hks
  induction front with
  | nil => exact h
  | cons k front ih => exact ih h.tail

theorem EndsPlain.of_blank {l : Line} {ls : List Line} (h : EndsPlain (l :: ls))
    (hl : isBlankLine l = false) (hls : ∀ k ∈ ls, isBlankLine k = true) : NoImplicitHeading l := by
  apply h l
  have hnil : ls.filter (!isBlankLine ·) = [] := by
    rw [List.filter_eq_nil_iff]
    intro k hk
    simp [hls k hk]
  rw [List.filter_cons_of_pos (by simp [hl]), hnil]
  rfl

/-! ## What the rules see across a break -/

section Break

variable {l : Line} {rest : List Line} (after : List Line)

theorem endsBlank_append_break : endsBlank (rest ++ [] :: after) = endsBlank rest := by
  cases rest <;> rfl

/-- Headings are recognised before a break as at the end of the text. -/
theorem headerText?_append_break (hend : EndsPlain (l :: rest)) (hl : isBlankLine l = false) :
    headerText? l (rest ++ [] :: after) = headerText? l rest := by
  unfold headerText?
  rw [endsBlank_append_break]
  split
  · rfl
  · by_cases hplain : NoImplicitHeading l
    · have hnone : (!(l.head?.map isUppercase).getD false || l.any nonHeaderChars.contains) = true := by
        rcases hplain with h | h
        · rw [h]; rfl
        · rw [h, Bool.or_true]
      rw [if_pos hnone, if_pos hnone]
    · -- the line is not the last one, so that it is followed by text either way
      have hmore : ∃ k ∈ rest, isBlankLine k = false := by
        by_contra hall
        push Not at hall
        exact hplain (hend.of_blank hl fun k hk => by simpa using hall k hk)
      have hsee : (((rest ++ [] :: after).head?.map isBlankLine).getD false
            && ((rest ++ [] :: after).drop 1).any (!isBlankLine ·)) =
          ((rest.head?.map isBlankLine).getD false && (rest.drop 1).any (!isBlankLine ·)) := by
        obtain ⟨k, hk, hkblank⟩ := hmore
        rcases rest with _ | ⟨first, others⟩
        · cases hk
        · by_cases hfirst : isBlankLine first = true
          · have hothers : others.any (!isBlankLine ·) = true := by
              rcases List.mem_cons.1 hk with rfl | hk
              · rw [hfirst] at hkblank
                cases hkblank
              · exact List.any_eq_true.2 ⟨k, hk, by simp [hkblank]⟩
            simp [hfirst, hothers]
          · simp [hfirst]
      rw [hsee]

/-- Blank lines are not the text that a heading without a mark needs after it. -/
theorem headerText?_append_blank (hafter : ∀ k ∈ after, isBlankLine k = true) :
    headerText? l (rest ++ [] :: after) = headerText? l rest := by
  have hnone : after.any (!isBlankLine ·) = false := by
    rw [List.any_eq_false]
    intro k hk
    simp [hafter k hk]
  have hsee : (((rest ++ [] :: after).head?.map isBlankLine).getD false
        && ((rest ++ [] :: after).drop 1).any (!isBlankLine ·)) =
      ((rest.head?.map isBlankLine).getD false && (rest.drop 1).any (!isBlankLine ·)) := by
    rcases rest with _ | ⟨first, others⟩
    · simp [hnone]
    · simp [isBlankLine_nil, hnone]
  unfold headerText?
  rw [endsBlank_append_break, hsee]

theorem paragraphTail_append_break :
    paragraphTail (rest ++ [] :: after) = paragraphTail rest :=
  takeWhile_append_stop (by decide) rest after

omit after in
/-- An indented run that reaches flush lines takes only blank ones of what is before them. -/
theorem StartsFlush.blank_of_mem_takeWhile : ∀ {ls : List Line}, StartsFlush ls →
    ∀ k ∈ ls.takeWhile (fun l => isBlankLine l || isIndented l), isBlankLine k = true
  | first :: others, hstart, k, hk => by
    by_cases hfirst : isBlankLine first = true
    · have hothers : StartsFlush others := by
        intro j hj
        apply hstart j
        rw [List.find?_cons_of_neg (by simp [hfirst])]
        exact hj
      rw [List.takeWhile_cons_of_pos (by simp [hfirst])] at hk
      rcases List.mem_cons.1 hk with rfl | hk
      · exact hfirst
      · exact hothers.blank_of_mem_takeWhile k hk
    · have hflush : isIndented first = false := by
        apply hstart first
        rw [List.find?_cons_of_pos (by simp [hfirst])]
        rfl
      rw [List.takeWhile_cons_of_neg (by simp [hfirst, hflush])] at hk
      cases hk

/-- A run ends before a break if the lines after it do not start with an indented one. -/
theorem runTail_append_break (hstart : StartsFlush after) :
    runTail (rest ++ [] :: after) = runTail rest := by
  have hblank : ∀ k ∈ [] :: after.takeWhile (fun l => isBlankLine l || isIndented l),
      (!isBlankLine k) = false := by
    intro k hk
    rcases List.mem_cons.1 hk with rfl | hk
    · rfl
    · rw [hstart.blank_of_mem_takeWhile k hk]
      rfl
  unfold runTail
  rw [List.takeWhile_append, List.takeWhile_cons_of_pos (by decide)]
  split
  · rename_i hlen
    rw [takeToLast_append_of_forall hblank, (List.takeWhile_prefix _).eq_of_length hlen]
  · rfl

theorem chunkAt_append_break (hhead : headerText? l (rest ++ [] :: after) = headerText? l rest)
    (hstart : StartsFlush after) (afterBlank : Bool) :
    chunkAt afterBlank l (rest ++ [] :: after) = chunkAt afterBlank l rest := by
  unfold chunkAt
  rw [hhead, runTail_append_break after hstart, paragraphTail_append_break]

end Break

theorem chunkAt_snd_le (afterBlank : Bool) (l : Line) (rest : List Line) :
    (chunkAt afterBlank l rest).2 ≤ rest.length := by
  rcases chunkAt_cases afterBlank l rest with ⟨text, -, -, h⟩ | ⟨-, -, h⟩ | ⟨-, -, h⟩ | ⟨-, h⟩ <;>
    rw [h]
  · exact Nat.zero_le _
  · exact (runTail_isPrefix rest).length_le
  · exact (runTail_isPrefix rest).length_le
  · exact (paragraphTail_isPrefix rest).length_le

/-! ## Chunks and blocks -/

/-- The lines before a break have the headings that they have without what comes after it. -/
def KeepsHeadings (before after : List Line) : Prop :=
  ∀ l rest, l :: rest <:+ before → isBlankLine l = false →
    headerText? l (rest ++ [] :: after) = headerText? l rest

theorem EndsPlain.keepsHeadings {before : List Line} (h : EndsPlain before) (after : List Line) :
    KeepsHeadings before after :=
  fun _ _ hsuffix hl => headerText?_append_break after (h.of_isSuffix hsuffix) hl

theorem keepsHeadings_of_blank (before : List Line) {after : List Line}
    (h : ∀ k ∈ after, isBlankLine k = true) : KeepsHeadings before after :=
  fun _ _ _ _ => headerText?_append_blank after h

theorem chunksFrom_append_break {before after : List Line} (hstart : StartsFlush after) :
    ∀ (afterBlank : Bool) (skip : ℕ), skip ≤ before.length → KeepsHeadings before after →
      chunksFrom afterBlank skip (before ++ [] :: after) =
        chunksFrom afterBlank skip before ++ chunks after := by
  induction before with
  | nil =>
    intro afterBlank skip hskip _
    obtain rfl : skip = 0 := Nat.le_zero.1 hskip
    rfl
  | cons l rest ih =>
    intro afterBlank skip hskip hkeeps
    have hrest : KeepsHeadings rest after :=
      fun k more hsuffix => hkeeps k more (hsuffix.trans (List.suffix_cons l rest))
    rcases skip with _ | skip
    · by_cases hl : isBlankLine l = true
      · rw [List.cons_append, chunksFrom_of_blank _ hl, chunksFrom_of_blank _ hl]
        exact ih true 0 (Nat.zero_le _) hrest
      · have hl' : isBlankLine l = false := by simpa using hl
        rw [List.cons_append, chunksFrom_of_text _ hl', chunksFrom_of_text _ hl',
          chunkAt_append_break after (hkeeps l rest List.suffix_rfl hl') hstart,
          ih false _ (chunkAt_snd_le afterBlank l rest) hrest, List.cons_append]
    · rw [List.length_cons] at hskip
      exact ih (isBlankLine l) skip (by omega) hrest

theorem chunks_append_break {before after : List Line} (hkeeps : KeepsHeadings before after)
    (hstart : StartsFlush after) : chunks (before ++ [] :: after) = chunks before ++ chunks after :=
  chunksFrom_append_break hstart true 0 (Nat.zero_le _) hkeeps

theorem blocks_append_break {level : ℕ} {before after : List Line} (hend : EndsPlain before)
    (hstart : StartsFlush after) :
    blocks level (before ++ [] :: after) = blocks level before ++ blocks level after := by
  rw [blocks_eq, chunks_append_break (hend.keepsHeadings after) hstart, List.flatMap_append,
    ← blocks_eq, ← blocks_eq]

/-- An empty line at the start changes no block. -/
theorem blocks_cons_empty (level : ℕ) (ls : List Line) : blocks level ([] :: ls) = blocks level ls := by
  rw [blocks_eq, blocks_eq level ls]
  rfl

/-- An empty line at the end changes no block. -/
theorem blocks_append_empty (level : ℕ) (ls : List Line) :
    blocks level (ls ++ [[]]) = blocks level ls := by
  have hstart : StartsFlush [] := by decide
  have hkeeps : KeepsHeadings ls [] := keepsHeadings_of_blank ls (List.forall_mem_nil _)
  rw [blocks_eq, chunks_append_break hkeeps hstart, List.flatMap_append, ← blocks_eq]
  exact List.append_nil _

theorem textLines_append_break {a : String} (h : a.toList.getLast? ≠ some '\r') (b : String) :
    textLines (a ++ "\n\n" ++ b) = textLines a ++ [] :: textLines b := by
  unfold textLines
  have hchars : (a ++ "\n\n" ++ b).toList = a.toList ++ '\n' :: '\n' :: b.toList := by simp
  have hbreak : unixNewlines ('\n' :: '\n' :: b.toList) = '\n' :: '\n' :: unixNewlines b.toList := by
    rw [unixNewlines, unixNewlines] <;> simp
  rw [hchars, unixNewlines_append h, hbreak, lines_append_newline]
  rw [show '\n' :: unixNewlines b.toList = [] ++ '\n' :: unixNewlines b.toList from rfl,
    lines_append_newline]
  rfl

/-- **Parsing is compositional at paragraph breaks.** -/
theorem parse_append_break (scope : Scope) {a b : String}
    (hreturn : a.toList.getLast? ≠ some '\r')
    (hdefsA : NoDefinitions (textLines a)) (hdefsB : NoDefinitions (textLines b))
    (hstart : StartsFlush (textLines b)) (hend : EndsPlain (textLines a)) :
    parse scope (a ++ "\n\n" ++ b) = parse scope a ++ parse scope b := by
  have hlines := textLines_append_break hreturn b
  have hdefs : NoDefinitions (textLines (a ++ "\n\n" ++ b)) := by
    rw [hlines, noDefinitions_append isBlankLine_nil]
    exact ⟨hdefsA, hdefsB⟩
  rw [parse_of_noDefinitions scope hdefs, parse_of_noDefinitions scope hdefsA,
    parse_of_noDefinitions scope hdefsB, hlines, blocks_append_break hend hstart,
    Block.mapAll_append]

/-- Code at the end of one section, and a heading at the start of the next. -/
theorem parse_append_break_sections :
    EndsPlain (textLines "Usage\r\n\r\n  go run .") ∧ StartsFlush (textLines "Flags\n\n  -v") ∧
      parse {} ("Usage\r\n\r\n  go run ." ++ "\n\n" ++ "Flags\n\n  -v") =
        parse {} "Usage\r\n\r\n  go run ." ++ parse {} "Flags\n\n  -v" := by
  have hend : EndsPlain (textLines "Usage\r\n\r\n  go run .") := by decide +kernel
  have hstart : StartsFlush (textLines "Flags\n\n  -v") := by decide +kernel
  exact ⟨hend, hstart, parse_append_break {} (by decide +kernel) (by decide +kernel)
    (by decide +kernel) hstart hend⟩

end DocPages.Comment
